import Mathlib
import Trainer.Proofs.Path

/-!
# The order of paths

Paths are compared component by component, so two spellings of one list of components are the same
path.  Up to this, the order is linear: it is total (`le_total`), transitive (`le_trans`), and two
paths that are in order both ways are the same (`same_of_le_of_le`).  `Precedes` is its strict part.
-/

namespace Trainer

namespace Component

variable {a b c : Component}

/-- Of two components one comes before the other, or they are the same one. -/
theorem before_trichotomy (a b : Component) :
    a.before b = true ∨ a = b ∨ b.before a = true := by
  cases a with
  | name s =>
      cases b with
      | name t =>
          rcases lt_trichotomy s t with hlt | rfl | hgt
          · exact .inl (by simpa [before] using hlt)
          · exact .inr (.inl rfl)
          · exact .inr (.inr (by simpa [before] using hgt))
      | _ => exact .inr (.inr rfl)
  | root => cases b <;> simp [before, rank]
  | current => cases b <;> simp [before, rank]
  | parent => cases b <;> simp [before, rank]

theorem not_before_self (a : Component) : a.before a = false := by
  cases a with
  | name s => simp [before]
  | _ => rfl

theorem before_trans (hab : a.before b = true) (hbc : b.before c = true) :
    a.before c = true := by
  cases a with
  | name s =>
      cases b with
      | name t =>
          cases c with
          | name u =>
              have hst : s < t := by simpa [before] using hab
              have htu : t < u := by simpa [before] using hbc
              simpa [before] using hst.trans htu
          | _ => cases hbc
      | _ => cases hab
  | root => cases b <;> cases c <;> simp_all [before, rank]
  | current => cases b <;> cases c <;> simp_all [before, rank]
  | parent => cases b <;> cases c <;> simp_all [before, rank]

end Component

namespace Path

variable {p q r : Path}

/-! ## The same path -/

/-- Two paths are the same to the program if their components are. -/
theorem same_iff : p.same q = true ↔ p.components = q.components := by
  rw [same, beq_iff_eq]

@[simp] theorem same_refl (p : Path) : p.same p = true :=
  same_iff.2 rfl

theorem same_comm (p q : Path) : p.same q = q.same p := by
  rw [same, same, Bool.beq_comm]

/-- Paths that are the same are the same as the same paths. -/
theorem same_congr (h : p.same q = true) (r : Path) : p.same r = q.same r := by
  rw [same, same, same_iff.1 h]

/-! ## Lists of components -/

theorem componentsLe_cons_iff (a b : Component) (as bs : List Component) :
    componentsLe (a :: as) (b :: bs) = true ↔
      a.before b = true ∨ a = b ∧ componentsLe as bs = true := by
  rw [componentsLe, Bool.or_eq_true, Bool.and_eq_true, beq_iff_eq]

theorem componentsLe_total (as bs : List Component) :
    componentsLe as bs = true ∨ componentsLe bs as = true := by
  induction as generalizing bs with
  | nil => exact .inl (by simp [componentsLe])
  | cons a as ih =>
      cases bs with
      | nil => exact .inr (by simp [componentsLe])
      | cons b bs =>
          rw [componentsLe_cons_iff, componentsLe_cons_iff]
          rcases a.before_trichotomy b with hlt | rfl | hgt
          · exact .inl (.inl hlt)
          · exact (ih bs).imp (fun h => .inr ⟨rfl, h⟩) (fun h => .inr ⟨rfl, h⟩)
          · exact .inr (.inl hgt)

theorem componentsLe_trans {as bs cs : List Component} (hab : componentsLe as bs = true)
    (hbc : componentsLe bs cs = true) : componentsLe as cs = true := by
  induction as generalizing bs cs with
  | nil => simp [componentsLe]
  | cons a as ih =>
      cases bs with
      | nil => cases hab
      | cons b bs =>
          cases cs with
          | nil => cases hbc
          | cons c cs =>
              rw [componentsLe_cons_iff] at hab hbc ⊢
              rcases hab with hab | ⟨rfl, hab⟩
              · rcases hbc with hbc | ⟨rfl, -⟩
                · exact .inl (Component.before_trans hab hbc)
                · exact .inl hab
              · exact hbc.imp_right fun h => ⟨h.1, ih hab h.2⟩

/-- Lists of components that come before each other both ways are equal. -/
theorem eq_of_componentsLe {as bs : List Component} (hab : componentsLe as bs = true)
    (hba : componentsLe bs as = true) : as = bs := by
  induction as generalizing bs with
  | nil =>
      cases bs with
      | nil => rfl
      | cons b bs => cases hba
  | cons a as ih =>
      cases bs with
      | nil => cases hab
      | cons b bs =>
          rw [componentsLe_cons_iff] at hab hba
          rcases hab with hab | ⟨rfl, hab⟩
          · -- The first components cannot come before each other both ways.
            have hself : a.before a = true := by
              rcases hba with hba | ⟨rfl, -⟩
              · exact Component.before_trans hab hba
              · exact hab
            rw [Component.not_before_self] at hself
            cases hself
          · rcases hba with hba | ⟨-, hba⟩
            · rw [Component.not_before_self] at hba
              cases hba
            · rw [ih hab hba]

/-! ## Paths in order -/

theorem le_total (p q : Path) : p.le q = true ∨ q.le p = true :=
  componentsLe_total _ _

theorem le_trans (hpq : p.le q = true) (hqr : q.le r = true) : p.le r = true :=
  componentsLe_trans hpq hqr

/-- Paths that come before each other both ways are the same to the program. -/
theorem same_of_le_of_le (hpq : p.le q = true) (hqp : q.le p = true) : p.same q = true :=
  same_iff.2 (eq_of_componentsLe hpq hqp)

/-- One path comes before another one in the order of paths. -/
structure Precedes (p q : Path) : Prop where
  le : p.le q = true
  differ : p.same q = false

theorem Precedes.of_not_le (h : q.le p = false) : Precedes p q := by
  refine ⟨(le_total p q).resolve_right (by simp [h]), ?_⟩
  by_contra hsame
  have heq : p.components = q.components := same_iff.1 (by simpa using hsame)
  have hle : q.le p = true := by
    rw [Path.le, heq]
    exact (componentsLe_total _ _).elim id id
  rw [h] at hle
  cases hle

theorem Precedes.trans (hpq : Precedes p q) (hqr : Precedes q r) : Precedes p r := by
  refine ⟨le_trans hpq.le hqr.le, ?_⟩
  by_contra hsame
  -- Then the path between them would be in order with the first both ways.
  have heq : p.components = r.components := same_iff.1 (by simpa using hsame)
  have hback : q.le p = true := by
    rw [Path.le, heq]
    exact hqr.le
  have hdiffer := hpq.differ
  rw [same_of_le_of_le hpq.le hback] at hdiffer
  cases hdiffer

end Path
end Trainer
