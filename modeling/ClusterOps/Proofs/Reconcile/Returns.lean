import ClusterOps.Proofs.Provider.Answers
import ClusterOps.Proofs.Reconcile.Convergence

/-
Reconciling returns where the cloud answers. Whatever the answers are, and
whatever fails, a run for a cluster ends with a result (`result_returns`), and the
last thing that it does is to record it (`log_of_result`).
-/

namespace ClusterOps.Reconcile

variable {σ : Type} {p : Provider σ} {limit within : Rat} {s : Session (Account σ)}
  (steady : p.clock.Steady limit) (answers : p.cloud.Answers within)
  (checked : p.settings.Checked)

include steady answers checked

theorem requestUpdate_returns (name : String) (enable disable : List String) (soon : 0 ≤ s.now)
    (reach : s.now + 2 * within + 7203 ≤ limit) :
    (requestUpdate p name enable disable s).1.Returns := by
  have within_nonneg := answers.within_nonneg s.world.cloud
  obtain ⟨returns, soon', before⟩ := Provider.returns_updateLogging steady answers name enable
    disable (by linarith) s soon le_rfl
  rcases requested : p.updateLogging name enable disable s with ⟨o, t⟩
  rw [requested] at returns soon' before
  cases returns with
  | done h =>
    have waits : requestUpdate p name enable disable s = p.waitForUpdate name h t :=
      Op.bind_of_done requested _
    rw [waits]
    exact Provider.waitForUpdate_returns steady answers checked name h soon'
      (by dsimp only at before; linarith)
  | failed c =>
    have fails : requestUpdate p name enable disable s = (.failed c, t) :=
      Op.bind_of_failed requested _
    rw [fails]
    exact .failed c

theorem run_returns (name : String) (catalog declared : List String) (plan : Bool)
    (soon : 0 ≤ s.now) (reach : s.now + 3 * within + 7204 ≤ limit) :
    (run (partiesOf p name) catalog plan declared s).1.outcome.Returns := by
  have within_nonneg := answers.within_nonneg s.world.cloud
  obtain ⟨returns, soon', before⟩ := Provider.returns_currentLogging steady answers name
    (by linarith) s soon le_rfl
  rw [run]
  split
  case h_1 u _ => exact .failed _
  case h_2 desired _ =>
    rcases fetched : p.currentLogging name s with ⟨o, t⟩
    rw [fetched] at returns soon' before
    have fetch : (partiesOf p name).fetch s = (o, t) := fetched
    rw [fetch]
    cases returns with
    | failed c => exact .failed c
    | done observed =>
      simp only [move]
      split
      · exact .done _
      · let d := Facility.diff observed desired catalog
        let op := requestUpdate p name d.toEnable d.toDisable
        let built := (buildTree t).2
        have ended : (op built).1.Returns :=
          requestUpdate_returns steady answers checked name d.toEnable d.toDisable (s := built)
            soon' (by show t.now + _ + _ ≤ _; dsimp only at before; linarith)
        rcases ran : op built with ⟨outcome, after⟩
        rw [ran] at ended
        obtain ⟨done, failed⟩ := perform_alone_ended op Provider.loggingTask ran
        let performed := perform (fun start => courseOf op { built with now := start })
          (alone Provider.loggingTask) built
        show (performed.1.map fun _ => _).Returns
        cases ended with
        | done =>
          rw [(done rfl).1]
          exact .done _
        | failed c =>
          obtain ⟨⟨c', fails⟩, -⟩ := failed c rfl
          rw [fails]
          exact .failed c'

/-- Reconciling ends with a result, with an error in it or without. -/
theorem result_returns (plan : Bool) (d : ClusterDocument) (soon : 0 ≤ s.now)
    (reach : s.now + 3 * within + 7204 ≤ limit) : ∃ r t, result p plan d s = (.done r, t) := by
  have returns := run_returns steady answers checked d.identity.name Facility.supported d.declared
    plan soon reach
  simp only [result, document, cluster]
  generalize run (partiesOf p d.identity.name) Facility.supported plan d.declared s
    = report at returns
  obtain ⟨⟨outcome, declared, spans⟩, t⟩ := report
  cases returns with
  | done c => exact ⟨_, _, rfl⟩
  | failed c => exact ⟨_, _, rfl⟩

omit steady answers checked in
/-- The last record is the one about the result. -/
theorem log_of_result {plan : Bool} {d : ClusterDocument} {r : Reconciliation}
    {t : Session (Account σ)} (h : result p plan d s = (.done r, t)) :
    ∃ before, t.log = before ++
      [⟨t.now, r.headline.1, .reconcile, r.headline.2, r.fields, none⟩] := by
  simp only [result, document, cluster] at h
  generalize run (partiesOf p d.identity.name) Facility.supported plan d.declared s = report at h
  obtain ⟨⟨outcome, declared, spans⟩, u⟩ := report
  cases outcome with
  | done c | failed c =>
    dsimp only at h
    obtain ⟨same, rfl⟩ := Prod.mk.inj h
    obtain rfl := Outcome.done.inj same
    exact ⟨_, rfl⟩
  | cancelled | hung => cases (Prod.mk.inj h).1

end ClusterOps.Reconcile
