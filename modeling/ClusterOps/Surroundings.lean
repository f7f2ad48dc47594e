import ClusterOps.ClusterDocument.File
import ClusterOps.Reconcile.Cluster
import ClusterOps.Settings.Environment

/-
What a run meets: a cloud and a clock, the variables of its environment, and the
files around it. From these come the settings of a run and the document that
declares a cluster.
-/

namespace ClusterOps

/-- What a run meets. -/
structure Surroundings (σ : Type) where
  cloud : Cloud σ
  clock : Clock
  env : Environment
  files : Files

namespace Surroundings

variable {σ W : Type}

/-- The settings of a run, some of their fields given otherwise than by the variables. -/
def settings (w : Surroundings σ) (o : Settings.Overrides) : Except Cause Settings :=
  (Settings.ofEnvironment w.env o).mapError fun e => .settings e.message

/-- The document in a file; that it was loaded is recorded. -/
def document (w : Surroundings σ) (path : String) : Op W ClusterDocument := do
  let d ← Op.ofExcept (ClusterDocument.load w.files path)
  fun s => (.done d, { s with log := s.log ++ [ClusterDocument.loadedRecord s.now path d] })

end Surroundings

end ClusterOps
