/-!
# Line diffs

An edit script turns one list into another by keeping, deleting and inserting.  Every edit carries
the items it is about, so both lists can be read off a script: `Script.source` and `Script.target`.

`Script.between` finds a short script by splitting the problem at a middle snake (two searches of
growing edit distance, one from each end, that meet); the source and target of the script are the
two lists whatever the search finds.
-/

namespace Trainer

inductive Edit (α : Type) where
  | keep (items : List α)
  | delete (items : List α)
  | insert (items : List α)
deriving DecidableEq, Repr

abbrev Script (α : Type) := List (Edit α)

namespace Script

variable {α : Type}

/-- What a script starts from. -/
def source : Script α → List α
  | [] => []
  | .keep xs :: rest => xs ++ source rest
  | .delete xs :: rest => xs ++ source rest
  | .insert _ :: rest => source rest

/-- What a script arrives at. -/
def target : Script α → List α
  | [] => []
  | .keep xs :: rest => xs ++ target rest
  | .delete _ :: rest => target rest
  | .insert xs :: rest => xs ++ target rest

@[simp]
theorem source_append (s t : Script α) : source (s ++ t) = source s ++ source t := by
  induction s with
  | nil => rfl
  | cons e rest ih => cases e <;> simp [source, ih]

@[simp]
theorem target_append (s t : Script α) : target (s ++ t) = target s ++ target t := by
  induction s with
  | nil => rfl
  | cons e rest ih => cases e <;> simp [target, ih]

/-! ## Middle snakes -/

variable [DecidableEq α]

/-- How far two lists agree. -/
def agreement : List α → List α → Nat
  | a :: as, b :: bs => if a = b then agreement as bs + 1 else 0
  | _, _ => 0

theorem take_agreement : ∀ as bs : List α,
    as.take (agreement as bs) = bs.take (agreement as bs)
  | [], _ => by simp [agreement]
  | _ :: _, [] => by simp [agreement]
  | a :: as, b :: bs => by
      by_cases h : a = b
      · simp [agreement, h, take_agreement as bs]
      · simp [agreement, h]

/-- How far two arrays agree from positions on. -/
def agreementFrom (a b : Array α) (i j : Nat) : Nat :=
  if h : i < a.size ∧ j < b.size then
    if a[i] = b[j] then agreementFrom a b (i + 1) (j + 1) + 1 else 0
  else 0
termination_by a.size - i

/-- The farthest point reached on each diagonal; diagonals are shifted by `offset`. -/
structure Frontier where
  offset : Nat
  reach : Array Nat

namespace Frontier

/-- Nothing reached yet on the diagonals from `-bound` to `bound`. -/
def start (bound : Nat) : Frontier :=
  ⟨bound, Array.replicate (2 * bound + 1) 0⟩

def get (f : Frontier) (k : Int) : Nat :=
  f.reach.getD (k + f.offset).toNat 0

def set (f : Frontier) (k : Int) (x : Nat) : Frontier :=
  { f with reach := f.reach.setIfInBounds (k + f.offset).toNat x }

/-- Where the next step on a diagonal starts, at edit distance `d`. -/
def entry (f : Frontier) (d k : Int) : Nat :=
  -- From the diagonal that reaches farther: the upper one by a step down, else a step right.
  if k = -d ∨ (k ≠ d ∧ f.get (k - 1) < f.get (k + 1)) then f.get (k + 1)
  else f.get (k - 1) + 1

end Frontier

/-- Runs along a diagonal from a point as long as the items agree; gives the end. -/
def slide (a b : Array α) (x : Nat) (y : Int) : Nat :=
  if y < 0 then x else x + agreementFrom a b x y.toNat

/-- The diagonals of an edit distance, from the highest to the lowest. -/
def diagonals (d : Nat) : List Int :=
  (List.range (d + 1)).map fun i : Nat => (d : Int) - 2 * (i : Int)

/-- One round of a search: every diagonal in turn, until `meets` accepts a start and an end. -/
def sweep (a b : Array α) (d : Nat) (meets : Int → Nat → Nat → Option (Nat × Nat)) :
    List Int → Frontier → Option (Nat × Nat) × Frontier
  | [], f => (none, f)
  | k :: ks, f =>
      let x := f.entry d k
      let stop := slide a b x (x - k)
      let f := f.set k stop
      match meets k x stop with
      | some found => (some found, f)
      | none => sweep a b d meets ks f

/-- Searches from both ends with growing edit distance, for `rounds` more rounds. -/
def search (a b ra rb : Array α) : Nat → Nat → Frontier → Frontier → Option (Nat × Nat)
  | 0, _, _, _ => none
  | rounds + 1, d, forth, back =>
      let n := a.size
      let delta : Int := (n : Int) - b.size
      let odd := delta % 2 != 0
      let meetsForth := fun (k : Int) (x stop : Nat) =>
        if odd && decide ((k - delta).natAbs < d) && decide (n ≤ stop + back.get (-(k - delta)))
        then some (x, (x - k).toNat) else none
      -- With an odd difference of sizes the searches can only meet on the way forth.
      match sweep a b d meetsForth (diagonals d) forth with
      | (some found, _) => some found
      | (none, forth) =>
          let meetsBack := fun (k : Int) (_ stop : Nat) =>
            if !odd && decide ((k - delta).natAbs ≤ d) &&
              decide (n ≤ stop + forth.get (-(k - delta)))
            then some (n - stop, ((b.size : Int) - (stop - k)).toNat) else none
          -- With an even one they can only meet on the way back.
          match sweep ra rb d meetsBack (diagonals d) back with
          | (some found, _) => some found
          | (none, back) => search a b ra rb rounds (d + 1) forth back

/-- A point on a shortest path between two lists of which neither is empty. -/
def middle (as bs : List α) : Option (Nat × Nat) :=
  let rounds := (as.length + bs.length + 1) / 2 + 1
  search as.toArray bs.toArray as.reverse.toArray bs.reverse.toArray rounds 0
    (Frontier.start (rounds + 1)) (Frontier.start (rounds + 1))

/-! ## Scripts -/

/-- A keep edit, left out when it keeps nothing. -/
def keeping : List α → Script α
  | [] => []
  | xs => [.keep xs]

/-- Deletes everything, then inserts everything. -/
def replacing : List α → List α → Script α
  | [], [] => []
  | as, [] => [.delete as]
  | [], bs => [.insert bs]
  | as, bs => [.delete as, .insert bs]

/-- A script for two lists, at most `depth` splits deep. -/
def betweenWithin : Nat → List α → List α → Script α
  | 0, as, bs => replacing as bs
  | depth + 1, as, bs =>
      -- The ends that agree are kept and take no part in the search.
      let front := agreement as bs
      let as' := as.drop front
      let bs' := bs.drop front
      let rear := agreement as'.reverse bs'.reverse
      let a := as'.take (as'.length - rear)
      let b := bs'.take (bs'.length - rear)
      let inner :=
        if a.isEmpty || b.isEmpty then replacing a b
        else
          match middle a b with
          | none => replacing a b
          | some (x, y) =>
              betweenWithin depth (a.take x) (b.take y) ++
                betweenWithin depth (a.drop x) (b.drop y)
      keeping (as.take front) ++ inner ++ keeping (as'.drop (as'.length - rear))

/-- A script that turns the first list into the second. -/
def between (as bs : List α) : Script α :=
  betweenWithin (as.length + bs.length + 1) as bs

end Script
end Trainer
