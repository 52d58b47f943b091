import Trainer.Main
import Trainer.Proofs.Catalog.Completion
import Trainer.Proofs.Catalog.Loading
import Trainer.Proofs.Dashboard.List
import Trainer.Proofs.Duration.Shown
import Trainer.Proofs.Exercise.Acceptance
import Trainer.Proofs.Program.Finish
import Trainer.Proofs.Progress.Reload
import Trainer.Proofs.Progress.Tree
import Trainer.Proofs.Runner.Artifact
import Trainer.Proofs.Runner.Feedback
import Trainer.Proofs.Runner.Preparation
import Trainer.Proofs.Runner.Success
import Trainer.Proofs.Runner.WellFormed
import Trainer.Proofs.Session.Account
import Trainer.Proofs.Session.Announcement
import Trainer.Proofs.Session.Awaiting
import Trainer.Proofs.Session.Filter
import Trainer.Proofs.Session.Hints
import Trainer.Proofs.Session.Keys
import Trainer.Proofs.Session.Reopening
import Trainer.Proofs.Session.ResultPanel
import Trainer.Proofs.Session.Silence
import Trainer.Proofs.Session.Triggers
import Trainer.Proofs.Session.Unsaved
import Trainer.Proofs.StaticCheck
import Trainer.Proofs.StaticCheck.Verdict
import Trainer.Proofs.Toolchain.Quoting
import Trainer.Proofs.Toolchain.Substitution
import Trainer.Proofs.Watcher.Removal
