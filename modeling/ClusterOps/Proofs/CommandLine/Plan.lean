import ClusterOps.Proofs.CommandLine.Asks
import ClusterOps.Proofs.CommandLine.Words
import ClusterOps.Proofs.Provider.ReadOnly
import ClusterOps.Proofs.Reconcile.Truthful
import ClusterOps.Proofs.Settings.Checked

/-
Changes are made only where they are approved. A command that is not told to
apply them leaves it to the variable `APPROVE`, and where that does not approve
either, the settings of the run are those of a plan (`plan_of_ofEnvironment`). Then
no command requests an update, whatever its words, the files and the cloud
(`run_unapproved`).
-/

namespace ClusterOps

variable {σ : Type}

/-! ## Reconciling -/

namespace Reconcile

/-- A run that only plans ends as it was when the cluster was described, or before. -/
theorem session_run_plan {W : Type} (p : Parties W) (catalog declared : List String)
    (s : Session W) :
    (run p catalog true declared s).2 = s ∨ (run p catalog true declared s).2 = (p.fetch s).2 := by
  rw [run]
  split
  case h_1 => exact .inl rfl
  case h_2 =>
    right
    split
    case h_1 fetched => simp [move, fetched]
    case h_2 fetched | h_3 fetched | h_4 fetched => rw [fetched]

/-- A planned reconciliation only reads. -/
theorem readOnly_result_plan (p : Provider σ) (d : ClusterDocument) :
    (result p true d).ReadOnly := by
  intro s
  show s.world.OnlyRead (cluster (partiesOf p d.identity.name) true d s).2.2.world
  rw [world_cluster]
  rcases session_run_plan (partiesOf p d.identity.name) Facility.supported d.declared s
    with same | same
  · rw [same]
    exact .refl _
  · rw [same]
    exact p.readOnly_currentLogging d.identity.name s

end Reconcile

/-! ## Settings -/

theorem Environment.flag_eq_false_of_not_mem {env : Environment} {name : String}
    (h : Text.lower (env.text name) ∉ ["true", "1", "yes"]) : env.flag name false = false := by
  rw [flag]
  split
  · rfl
  · simpa using h

namespace Settings

/-- Settings read from an environment plan, unless the variable approves or something else is said
about the plan. -/
theorem plan_of_ofEnvironment {env : Environment} {o : Overrides} {t : Settings}
    (h : ofEnvironment env o = .ok t) (unsaid : o.plan = none)
    (unapproved : Text.lower (env.text "APPROVE") ∉ ["true", "1", "yes"]) : t.plan = true := by
  rw [(read_of_ofEnvironment h).2.2, unsaid, Environment.flag_eq_false_of_not_mem unapproved]
  rfl

end Settings

theorem Surroundings.plan_of_settings {w : Surroundings σ} {o : Settings.Overrides} {t : Settings}
    (h : w.settings o = .ok t) (unsaid : o.plan = none)
    (unapproved : Text.lower (w.env.text "APPROVE") ∉ ["true", "1", "yes"]) : t.plan = true :=
  Settings.plan_of_ofEnvironment (ok_of_mapError h) unsaid unapproved

/-! ## Commands -/

namespace CommandLine

namespace Work

variable {α β : Type}

/-- Whatever the cloud answers, the work requests no update. -/
def ReadOnly (x : Work σ α) : Prop := Op.ReadOnly x.run

theorem readOnly_pure (a : α) : (pure a : Work σ α).ReadOnly := asks_pure a

theorem readOnly_refuse (r : Refusal) : (refuse r : Work σ α).ReadOnly := asks_refuse r

theorem ReadOnly.bind {x : Work σ α} {f : α → Work σ β} (hx : x.ReadOnly)
    (hf : ∀ a, (f a).ReadOnly) : (x >>= f).ReadOnly := Asks.bind hx hf

theorem readOnly_onCloud {x : Op (Account σ) α} (h : x.ReadOnly) : (onCloud x).ReadOnly :=
  asks_refusing h _

theorem readOnly_lift {x : Op (Account σ) α} (h : x.ReadOnly) : (lift x).ReadOnly :=
  asks_refusing h _

theorem readOnly_note (level : Level) (message : String) :
    (note level message : Work σ Unit).ReadOnly := asks_note level message

/-- Work that begins with the settings only reads if it does so with the settings that there are. -/
theorem readOnly_settings {w : Surroundings σ} {o : Settings.Overrides} {f : Settings → Work σ β}
    (h : ∀ t, w.settings o = .ok t → (f t).ReadOnly) : (settings w o >>= f).ReadOnly := by
  rw [settings]
  split
  case h_1 t read => exact h t read
  case h_2 => exact readOnly_refuse _

end Work

theorem planOf_false : planOf false = none := rfl

variable (w : Surroundings σ)

theorem LoggingOrder.readOnly_declaration (o : LoggingOrder) : (o.declaration w).ReadOnly :=
  o.asks_declaration w

variable {w} (unapproved : Text.lower (w.env.text "APPROVE") ∉ ["true", "1", "yes"])

include unapproved in
theorem LoggingOrder.readOnly_run {o : LoggingOrder} (h : o.approve = false) :
    (o.run w).ReadOnly := by
  refine (o.readOnly_declaration w).bind fun declared => ?_
  refine Work.readOnly_settings fun t read => ?_
  have plan : t.plan = true :=
    Surroundings.plan_of_settings read (by rw [h, planOf_false]) unapproved
  refine (Work.readOnly_note _ _).bind fun _ => ?_
  refine (Work.readOnly_lift (Provider.readOnly_create _ _ _)).bind fun p => ?_
  -- The settings decide about the plan, and not the words.
  rw [plan]
  refine (Work.readOnly_onCloud (Reconcile.readOnly_result_plan p _)).bind fun _ => ?_
  exact Work.readOnly_pure _

theorem ClusterQuery.readOnly_run (q : ClusterQuery) : (q.run w).ReadOnly := by
  rw [run]
  split
  case isTrue => exact Work.readOnly_refuse _
  case isFalse =>
    refine Work.readOnly_settings fun t _ => ?_
    refine (Work.readOnly_lift (Provider.readOnly_create _ _ _)).bind fun p => ?_
    split
    · refine (Work.readOnly_onCloud (p.readOnly_getCluster _)).bind fun _ => ?_
      refine (Work.readOnly_lift (Op.readOnly_ofExcept _)).bind fun _ => ?_
      exact Work.readOnly_pure _
    · split
      · exact (Work.readOnly_onCloud (p.readOnly_clustersIn [])).bind fun _ => Work.readOnly_pure _
      · exact (Work.readOnly_onCloud p.readOnly_clusters).bind fun _ => Work.readOnly_pure _

include unapproved in
theorem UpgradeOrder.readOnly_run {o : UpgradeOrder} (h : o.approve = false) :
    (o.run w).ReadOnly := by
  refine Work.readOnly_settings fun t read => ?_
  have plan : t.plan = true :=
    Surroundings.plan_of_settings read (by rw [h, planOf_false]) unapproved
  refine (Work.readOnly_lift (Provider.readOnly_create _ _ _)).bind fun p => ?_
  refine (Work.readOnly_onCloud (p.readOnly_describeActive _)).bind fun s => ?_
  rw [if_pos plan]
  split
  · exact (Work.readOnly_note _ _).bind fun _ => Work.readOnly_pure _
  · refine (Work.readOnly_note _ _).bind fun _ => ?_
    exact (Work.readOnly_note _ _).bind fun _ => Work.readOnly_pure _

include unapproved in
/-- A command that is not told to apply changes only reads. -/
theorem Command.readOnly_run {c : Command} (h : c.approves = false) : (c.run w).ReadOnly := by
  cases c with
  | updateLogging o => exact o.readOnly_run unapproved h
  | getCluster q => exact q.readOnly_run
  | upgradeCluster o => exact o.readOnly_run unapproved h

/-- **Changes need approval.** Where neither the words nor the variable approve, no command requests
an update, whatever else is written, whatever the files and the other variables hold, and whatever
the cloud answers. -/
theorem run_unapproved (w : Surroundings σ) (words : List String) (s : Session (Account σ))
    (unwritten : "--approve" ∉ words)
    (unapproved : Text.lower (w.env.text "APPROVE") ∉ ["true", "1", "yes"]) :
    ∃ made, (run w words s).2.2.world.calls = s.world.calls ++ made ∧
      ∀ c ∈ made, c.request.operation ≠ "UpdateClusterConfig" ∧
        c.request.operation ≠ "UpdateClusterVersion" := by
  have reads : s.world.OnlyRead (run w words s).2.2.world := by
    rw [run]
    split
    case h_1 => exact .refl _
    case h_2 level place c read =>
      exact Command.readOnly_run unapproved (read_unapproved read unwritten) s
  obtain ⟨made, calls, only⟩ := reads
  exact ⟨made, calls, fun c hc => Request.isUpdate_eq_false_iff.1 (only c hc)⟩

/-- A cluster in another state than the one asked for is described and left alone. -/
theorem run_unapproved_logging :
    let demo : Simulated.Cluster :=
      ⟨"demo", "eu-west-1", .text "ACTIVE", .text "1.28", ["audit"], .null⟩
    let w : Surroundings Simulated.State :=
      ⟨Simulated.cloud, .binary64, [("AWS_REGION", "eu-west-1"), ("APPROVE", "no")], []⟩
    let words := ["utils", "update-cluster-logging", "--name", "demo", "--api"]
    let s : Session (Account Simulated.State) :=
      ⟨0, .new ⟨[demo], [], 1, .text "Successful", [], [], []⟩, []⟩
    (run w words s).2.2.world.calls ≠ [] ∧
      ∃ made, (run w words s).2.2.world.calls = s.world.calls ++ made ∧
        ∀ c ∈ made, c.request.operation ≠ "UpdateClusterConfig" ∧
          c.request.operation ≠ "UpdateClusterVersion" := by
  intro demo w words s
  exact ⟨by decide +kernel, run_unapproved w words s (by decide) (by decide +kernel)⟩

/-- The variable approves as the word does: a cluster is changed by words without approval. -/
theorem run_approved_by_variable :
    let demo : Simulated.Cluster :=
      ⟨"demo", "eu-west-1", .text "ACTIVE", .text "1.28", ["audit"], .null⟩
    let w : Surroundings Simulated.State :=
      ⟨Simulated.cloud, .binary64, [("APPROVE", "true"), ("AWS_REGION", "eu-west-1")], []⟩
    let words := ["utils", "update-cluster-logging", "--name", "demo", "--api"]
    let s : Session (Account Simulated.State) :=
      ⟨0, .new ⟨[demo], [], 1, .text "Successful", [], [], []⟩, []⟩
    "--approve" ∉ words ∧ ∃ c ∈ (run w words s).2.2.world.calls,
      c.request.operation = "UpdateClusterConfig" := by
  decide +kernel

end CommandLine

end ClusterOps
