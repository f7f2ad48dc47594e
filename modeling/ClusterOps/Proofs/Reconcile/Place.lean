import ClusterOps.Proofs.Provider.Asks
import ClusterOps.Proofs.Reconcile.Truthful

/-
Where reconciling acts. All that it asks of the cloud is about the cluster that
the declaration names, in the region of the provider (`asks_result`), however it
ends, and its result names the cluster and the region of the declaration
(`place_of_result`). The two regions are the same only if whoever makes the
provider sees to it.
-/

namespace ClusterOps.Reconcile

variable {σ : Type} (p : Provider σ) (name : String)

theorem asks_requestUpdate (enable disable : List String) :
    (requestUpdate p name enable disable).Asks (Call.Concerns p.region name) :=
  (p.asks_updateLogging name enable disable).bind fun h => p.asks_waitForUpdate name h

theorem adds_move (catalog desired : List String) (plan : Bool) (observed : Facility.Observed)
    (s : Session (Account σ)) :
    Account.Adds (Call.Concerns p.region name) s.world
      (move (partiesOf p name) catalog desired plan observed s).2.world := by
  rw [move]
  split
  case isTrue => exact .refl _
  case isFalse =>
    let d := Facility.diff observed desired catalog
    -- Building the tree writes a record, so the update begins in the same world.
    have asked := asks_requestUpdate p name d.toEnable d.toDisable (buildTree s).2
    rw [← world_perform_alone _ Provider.loggingTask] at asked
    exact asked

theorem adds_run (catalog declared : List String) (plan : Bool) (s : Session (Account σ)) :
    Account.Adds (Call.Concerns p.region name) s.world
      (run (partiesOf p name) catalog plan declared s).2.world := by
  have asked := p.asks_currentLogging name s
  have fetch : (partiesOf p name).fetch = p.currentLogging name := rfl
  rw [run, fetch]
  split
  case h_1 => exact .refl _
  case h_2 =>
    split
    case h_1 fetched =>
      rw [fetched] at asked
      exact asked.trans (adds_move p name ..)
    case h_2 fetched | h_3 fetched | h_4 fetched =>
      rw [fetched] at asked
      exact asked

/-- Reconciling asks only about the cluster of the declaration, in the region of the provider. -/
theorem asks_result (plan : Bool) (d : ClusterDocument) :
    (result p plan d).Asks (Call.Concerns p.region d.identity.name) := by
  intro s
  show Account.Adds _ _ (cluster (partiesOf p d.identity.name) plan d s).2.2.world
  rw [world_cluster]
  exact adds_run p d.identity.name ..

variable {p}

/-- Failures do not leave a reconciliation: they are kept in its result. -/
theorem result_ne_failed (plan : Bool) (d : ClusterDocument) (s : Session (Account σ)) (c : Cause) :
    (result p plan d s).1 ≠ .failed c := by
  simp only [result, document, cluster]
  generalize run (partiesOf p d.identity.name) Facility.supported plan d.declared s = report
  obtain ⟨⟨outcome, declared, spans⟩, u⟩ := report
  cases outcome <;> simp

/-- The result names the cluster and the region of the declaration. -/
theorem place_of_result {plan : Bool} {d : ClusterDocument} {s t : Session (Account σ)}
    {r : Reconciliation} (h : result p plan d s = (.done r, t)) :
    r.region = d.identity.region ∧ r.cluster = d.identity.name := by
  simp only [result, document, cluster] at h
  generalize run (partiesOf p d.identity.name) Facility.supported plan d.declared s = report at h
  obtain ⟨⟨outcome, declared, spans⟩, u⟩ := report
  cases outcome with
  | done c | failed c =>
    dsimp only at h
    obtain rfl := Outcome.done.inj (Prod.mk.inj h).1
    exact ⟨rfl, rfl⟩
  | cancelled | hung => cases (Prod.mk.inj h).1

end ClusterOps.Reconcile
