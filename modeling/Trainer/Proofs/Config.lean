import Mathlib
import Trainer.Config

/-!
# Configurations that are loaded

A configuration is not changed by its check, so what the check asks for holds of every configuration
that is loaded (`Config.sound_of_load`).
-/

namespace Trainer
namespace Config

/-- What is asked of a configuration. -/
structure Sound (c : Config) : Prop where
  extension : Text.isBlank c.toolchain.sourceExtension = false
  build : Text.isBlank c.toolchain.build = false
  defaultTimeout : 0 < c.defaultTimeout.nanos

variable {σ : Type} {host : Host σ} {root : Path} {c config : Config} {s : σ}

theorem validate_eq_ok_iff : c.validate = .ok config ↔ config = c ∧ c.Sound := by
  unfold validate
  constructor
  · intro h
    split at h
    · cases h
    rename_i hextension
    split at h
    · cases h
    rename_i hbuild
    split at h
    · cases h
    · rename_i htimeout
      cases h
      rw [Duration.isZero, beq_iff_eq] at htimeout
      exact ⟨rfl, by simpa using hextension, by simpa using hbuild, Nat.pos_of_ne_zero htimeout⟩
  · rintro ⟨rfl, hsound⟩
    simp [hsound.extension, hsound.build, Duration.isZero, hsound.defaultTimeout.ne']

/-- Every configuration that is loaded is sound. -/
theorem sound_of_load (h : load host root s = .ok config) : config.Sound := by
  obtain ⟨c, hc⟩ : ∃ c : Config, c.validate = .ok config := by
    unfold load at h
    split at h
    · split at h
      · cases h
      · split at h
        · cases h
        · exact ⟨_, h⟩
    · exact ⟨_, h⟩
  obtain ⟨rfl, hsound⟩ := validate_eq_ok_iff.1 hc
  exact hsound

theorem sourceExtension_ne_empty (h : load host root s = .ok config) :
    config.toolchain.sourceExtension ≠ "" := by
  intro hempty
  have hextension := (sound_of_load h).extension
  rw [hempty] at hextension
  exact absurd hextension (by decide)

end Config
end Trainer
