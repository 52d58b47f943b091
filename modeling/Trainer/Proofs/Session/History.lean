import Mathlib
import Trainer.Proofs.Session.Unsaved

/-!
# What a session has heard

A history is the list of the messages that a session has heard, each with the session and the
machine that it found (`Heard`).  From these can be read off what a message made of the catalog,
whether it could be stored, and at what time.  What happens on the machine between two messages is
free, or as free as a law says (`History`).

Every history is a history of calls on the catalog, one for each message that asks for one
(`History.run`); so what is known of calls is known of sessions.  In particular the flags of the
exercises, the record in memory and the stored record agree (`History.accounted`).
-/

namespace Trainer
namespace Session

/-- A message that a session has heard, with the session and the machine that it found. -/
structure Heard (σ : Type) where
  message : Message
  session : Session
  machine : σ

variable {σ : Type}

namespace Heard

/-- The operation of the catalog that the message asked for. -/
def call? (x : Heard σ) : Option Catalog.Call :=
  x.session.call? x.message

/-- Why that operation failed, if it did. -/
def failure? (store : ProgressStore σ) (x : Heard σ) : Option Catalog.Failure :=
  x.call?.bind fun call => call.failure? store (x.session.catalog, x.machine)

/-- Whether the message says that a run of an exercise is over. -/
def ends (name : String) (x : Heard σ) : Bool :=
  match x.message with
  | .runFinished n _ => n == name
  | _ => false

end Heard

/--
The sessions of a catalog and the machine, with what was heard, the last message first.  The machine
may change between two messages as `meanwhile` says.
-/
inductive History (store : ProgressStore σ) (meanwhile : σ → σ → Prop) (c : Catalog)
    (extension : String) (h₀ : σ) : List (Heard σ) → Session → σ → Prop where
  | new : History store meanwhile c extension h₀ [] (ofCatalog c extension) h₀
  | start {log : List (Heard σ)} {s : Session} {h : σ} :
      History store meanwhile c extension h₀ log s h →
      History store meanwhile c extension h₀ log s.start.1 h
  | message {log : List (Heard σ)} {s : Session} {h : σ} (m : Message) :
      History store meanwhile c extension h₀ log s h →
      History store meanwhile c extension h₀ (⟨m, s, h⟩ :: log) (update store m s h).1.1
        (update store m s h).2
  | elsewhere {log : List (Heard σ)} {s : Session} {h h' : σ} :
      History store meanwhile c extension h₀ log s h → meanwhile h h' →
      History store meanwhile c extension h₀ log s h'

variable {store : ProgressStore σ} {meanwhile : σ → σ → Prop} {c : Catalog} {extension : String}
  {h₀ h : σ} {log : List (Heard σ)} {s : Session}

/-- A history goes on with a message that was heard where it ends. -/
theorem History.hear {x : Heard σ}
    (hs : History store meanwhile c extension h₀ log x.session x.machine) :
    History store meanwhile c extension h₀ (x :: log)
      (update store x.message x.session x.machine).1.1
      (update store x.message x.session x.machine).2 :=
  .message x.message hs

/-- The sessions of a history are sessions of its catalog. -/
theorem History.reachable (hs : History store meanwhile c extension h₀ log s h) :
    Reachable store c extension s := by
  induction hs with
  | new => exact .new
  | start _ ih => exact .start ih
  | message m _ ih => exact .message m _ ih
  | elsewhere _ _ ih => exact ih

/-- Every message of a history was heard in a session of an earlier history. -/
theorem History.exists_of_mem {x : Heard σ} (hs : History store meanwhile c extension h₀ log s h)
    (hx : x ∈ log) : ∃ earlier : List (Heard σ),
      History store meanwhile c extension h₀ earlier x.session x.machine := by
  induction hs with
  | new => cases hx
  | start _ ih => exact ih hx
  | message m hbefore ih =>
      rcases List.mem_cons.1 hx with rfl | hearlier
      · exact ⟨_, hbefore⟩
      · exact ih hearlier
  | elsewhere _ _ ih => exact ih hx

/-! ## Histories as calls -/

/-- The call that a message asked for, and whether it succeeded. -/
def Heard.answered (store : ProgressStore σ) (x : Heard σ) : Option (Catalog.Call × Bool) :=
  x.call?.map fun call => (call, (call.perform store (x.session.catalog, x.machine)).1)

/-- Nothing is complained of in an answer that is no failure. -/
theorem isNone_complaint? {α : Type} (r : Except Catalog.Failure α) :
    (Catalog.complaint? r).isNone = r.isOk := by
  cases r with
  | ok a => rfl
  | error f => rfl

/-- A history of a session is a run of calls on its catalog, which stays at its file. -/
theorem History.run {host : Host σ}
    (hs : History (host.progressStore c.progressFile) meanwhile c extension h₀ log s h)
    (hquiet : ∀ h h', meanwhile h h' →
      host.look c.progressFile h' = host.look c.progressFile h) :
    Catalog.Run host c h₀ (log.filterMap (Heard.answered (host.progressStore c.progressFile)))
        s.catalog h ∧ s.catalog.progressFile = c.progressFile := by
  induction hs with
  | new => exact ⟨.start, rfl⟩
  | start _ ih => exact ih
  | @message log s h m hbefore ih =>
      obtain ⟨hrun, hfile⟩ := ih
      have hdoes := @update_performs _ (host.progressStore c.progressFile) s h m
      cases hcall : s.call? m with
      | none =>
          -- The message asks nothing of the catalog, so there is no call to add.
          rw [hcall] at hdoes
          obtain ⟨hcatalog, hmachine⟩ := Prod.mk.inj hdoes
          have hnone : Heard.answered (host.progressStore c.progressFile) ⟨m, s, h⟩ = none := by
            simp [Heard.answered, Heard.call?, hcall]
          rw [List.filterMap_cons_none hnone, hcatalog, hmachine]
          exact ⟨hrun, hfile⟩
      | some call =>
          rw [hcall] at hdoes
          let answer := call.perform (host.progressStore c.progressFile) (s.catalog, h)
          have hsome : Heard.answered (host.progressStore c.progressFile) ⟨m, s, h⟩ =
              some (call, answer.1) := by
            simp [Heard.answered, Heard.call?, hcall, answer]
          rw [List.filterMap_cons_some hsome]
          refine ⟨.call call hrun ?_, ?_⟩
          · rw [hfile]
            exact Prod.ext rfl hdoes.symm
          · have hkept := call.progressFile_perform (host.progressStore c.progressFile) s.catalog h
            exact ((congrArg (·.1.progressFile) hdoes).trans hkept).trans hfile
  | elsewhere _ hmeanwhile ih =>
      obtain ⟨hrun, hfile⟩ := ih
      refine ⟨.elsewhere hrun ?_, hfile⟩
      rw [hfile]
      exact hquiet _ _ hmeanwhile

/-- Flags, record and file agree in every state of a session of a loaded catalog. -/
theorem History.accounted {host : Host σ} {paths : CatalogPaths}
    (hkeeps : host.Keeps paths.progressFile) (hclock : ∀ t, (host.now t).isValid = true)
    (hload : Catalog.load host paths h₀ = .ok c)
    (hquiet : ∀ t t', meanwhile t t' →
      host.look paths.progressFile t' = host.look paths.progressFile t)
    (hs : History (host.progressStore paths.progressFile) meanwhile c extension h₀ log s h) :
    Catalog.Accounted host paths.progressFile c
      (log.filterMap (Heard.answered (host.progressStore paths.progressFile))) s.catalog h := by
  obtain ⟨-, hfile, -⟩ := Catalog.exists_of_load hload
  have hfirst := Catalog.accounted_of_load hload
  rw [← hfile] at hs hquiet hkeeps hfirst ⊢
  exact (hs.run hquiet).1.accounted hfirst hkeeps hclock

end Session
end Trainer
