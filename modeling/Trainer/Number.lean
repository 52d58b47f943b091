/-!
# Numbers

Powers of two and of ten, and sums.
-/

namespace Trainer

def twoTo (n : Nat) : Nat := Nat.pow 2 n

def tenTo (n : Nat) : Nat := Nat.pow 10 n

def sumOf : List Nat → Nat
  | [] => 0
  | n :: rest => n + sumOf rest

theorem twoTo_pos (n : Nat) : 0 < twoTo n :=
  Nat.pow_pos (by decide)

end Trainer
