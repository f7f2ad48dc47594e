import ClusterOps.Proofs.Cloud.Simulated
import ClusterOps.Proofs.Reconcile.Truthful
import Mathlib.Data.List.Chain

/-
Reconciling again and again comes to an end. Where the cloud keeps the cluster in
order, a run does one of three things (`Upkeep.document`): what is enabled is what
is declared, and it does nothing; or it is not, and afterwards it is; or the update
does not come to its end, the run fails and the cluster is as it was before. So
runs of one declaration can fail as often as they like, but after the first that
does not nothing is left to be done (`reruns_converge`).
-/

namespace ClusterOps

variable {σ : Type}

namespace Reconcile

/-- An operation that ends, with or without success, ends so as the only task of a tree. -/
theorem perform_alone_ended {W : Type} (op : Op W Unit) (task : String) {s t : Session W}
    {o : Outcome Unit} (h : op s = (o, t)) :
    let ran := perform (fun start => courseOf op { s with now := start }) (alone task) s
    (o = .done () → ran.1 = .done () ∧ ran.2.2.world = t.world) ∧
      ∀ c, o = .failed c → (∃ c, ran.1 = .failed c) ∧ ran.2.2.world = t.world := by
  cases o with
  | hung => simp
  | _ =>
    simp [perform, alone, Tasks.run, Tasks.runInTurn, Tasks.runLeaf, courseOf, h, changesOf,
      finishOf, Tasks.inOrder, Tasks.insertBefore]

end Reconcile

namespace Upkeep

open Reconcile

variable {cloud : Cloud σ} {region name : String} (u : Upkeep cloud region name) {p : Provider σ}
  {s : Session (Account σ)}

/-- What is enabled is what is desired. -/
def Holds (desired : List String) (state : σ) : Prop := ∀ n, n ∈ u.enabled state ↔ n ∈ desired

/-- An update that is requested and waited for ends: it has been applied, or the cluster is as it
was. -/
theorem requestUpdate (hc : p.cloud = cloud) (hr : p.region = region) (hk : p.clock = .exact)
    (interval : 0 < p.settings.pollInterval) (sound : u.sound s.world.cloud)
    (on off : List String) :
    ∃ o t, Reconcile.requestUpdate p name on off s = (o, t) ∧ u.sound t.world.cloud ∧
      (o = .done () ∧ u.Holds on t.world.cloud ∨
        (∃ c, o = .failed c) ∧ u.enabled t.world.cloud = u.enabled s.world.cloud) := by
  obtain ⟨h, t, requested, same, sound', unapplied⟩ := u.updateLogging hc hr sound on off
  obtain ⟨o, t', waited, sound'', ended⟩ := u.waitForUpdate hc hr hk interval sound' unapplied
  exact ⟨o, t', (Op.bind_of_done requested _).trans waited, sound'', same ▸ ended⟩

/-- What a run can do to a cluster that is kept in order, and what it tells. -/
inductive Ran (desired : List String) (before after : σ) : Outcome ChangeSet → Prop
  | idle {c} : u.Holds desired before → u.enabled after = u.enabled before →
      c.changed = false → c.applied = false → Ran desired before after (.done c)
  | applied {c} : ¬ u.Holds desired before → u.Holds desired after →
      Ran desired before after (.done c)
  | failed {c} : ¬ u.Holds desired before → u.enabled after = u.enabled before →
      Ran desired before after (.failed c)

variable {declared desired : List String}

theorem run (hc : p.cloud = cloud) (hr : p.region = region) (hk : p.clock = .exact)
    (interval : 0 < p.settings.pollInterval) (sound : u.sound s.world.cloud)
    (expands : Facility.expand declared Facility.supported = .ok desired) :
    let ran := Reconcile.run (partiesOf p name) Facility.supported false declared s
    u.sound ran.2.world.cloud ∧
      u.Ran desired s.world.cloud ran.2.world.cloud ran.1.outcome := by
  obtain ⟨o, t, fetched, observed, same, sound'⟩ := u.currentLogging hc hr sound
  have fetch : (partiesOf p name).fetch s = (.done o, t) := fetched
  simp only [Reconcile.run, expands, fetch, move, Bool.or_false]
  have changed_iff : (Facility.diff o desired Facility.supported).changed = true ↔
      ¬ u.Holds desired s.world.cloud := by
    rw [Facility.changed_diff_iff]
    exact not_congr (forall_congr' fun n => by rw [observed n])
  split
  case isTrue idle =>
    have holds : u.Holds desired s.world.cloud := by
      by_contra differs
      simp [changed_iff.2 differs] at idle
    exact ⟨sound', .idle holds same (by simpa using idle) rfl⟩
  case isFalse changed =>
    have differs := changed_iff.1 (by simpa using changed)
    -- Building the tree writes a record; the update begins where the cluster was described.
    let d := Facility.diff o desired Facility.supported
    let built := (buildTree t).2
    let op := Reconcile.requestUpdate p name d.toEnable d.toDisable
    let performed := perform (fun start => courseOf op { built with now := start })
      (alone Provider.loggingTask) built
    obtain ⟨outcome, after, requested, sound'', ended⟩ :=
      u.requestUpdate (s := built) hc hr hk interval sound' d.toEnable d.toDisable
    obtain ⟨done, failed⟩ := perform_alone_ended op Provider.loggingTask requested
    show u.sound performed.2.2.world.cloud ∧ u.Ran desired s.world.cloud
      performed.2.2.world.cloud (performed.1.map fun _ => ⟨d.toEnable, d.toDisable, true, true⟩)
    rcases ended with ⟨rfl, enabled⟩ | ⟨⟨c, rfl⟩, unchanged⟩
    · obtain ⟨succeeded, world⟩ := done rfl
      rw [succeeded, world]
      exact ⟨sound'', .applied differs fun n => (enabled n).trans Facility.mem_distinct⟩
    · obtain ⟨⟨c', failed⟩, world⟩ := failed c rfl
      rw [failed, world]
      exact ⟨sound'', .failed differs (unchanged.trans same)⟩

/-- A run for a cluster that is kept in order returns. Without an error what is enabled is what is
desired, with one it is what was enabled before; and there is no error, and nothing to be done, if
that was what is desired. -/
theorem document (hc : p.cloud = cloud) (hr : p.region = region) (hk : p.clock = .exact)
    (interval : 0 < p.settings.pollInterval) (sound : u.sound s.world.cloud) {d : ClusterDocument}
    (named : d.identity.name = name)
    (expands : Facility.expand d.declared Facility.supported = .ok desired) :
    ∃ r d' t, Reconcile.document p false d s = (.done r, d', t) ∧ u.sound t.world.cloud ∧
      (r.error = none → u.Holds desired t.world.cloud) ∧
      (r.error ≠ none → u.enabled t.world.cloud = u.enabled s.world.cloud) ∧
      (u.Holds desired s.world.cloud →
        r.error = none ∧ r.changed = false ∧ r.applied = false) := by
  subst named
  obtain ⟨sound', ran⟩ := u.run hc hr hk interval sound expands
  rw [Reconcile.document, cluster]
  generalize Reconcile.run (partiesOf p d.identity.name) Facility.supported false d.declared s
    = report at sound' ran
  obtain ⟨⟨outcome, declared, spans⟩, t⟩ := report
  cases ran with
  | @idle c holds same changed applied =>
    have world := world_conclude false d.identity s.now (.ok c) t
    have still : u.Holds desired t.world.cloud := fun n => by rw [same, holds n]
    exact ⟨_, _, _, rfl, world ▸ sound', fun _ => world ▸ still, fun failed => absurd rfl failed,
      fun _ => ⟨rfl, changed, applied⟩⟩
  | @applied c differs holds =>
    have world := world_conclude false d.identity s.now (.ok c) t
    exact ⟨_, _, _, rfl, world ▸ sound', fun _ => world ▸ holds, fun failed => absurd rfl failed,
      fun holds => absurd holds differs⟩
  | @failed c differs same =>
    have world := world_conclude false d.identity s.now (.error c) t
    exact ⟨_, _, _, rfl, world ▸ sound', fun none => absurd none (Option.some_ne_none c),
      fun _ => world ▸ same, fun holds => absurd holds differs⟩

end Upkeep

namespace Reconcile

/-! ## Runs one after another -/

/-- A run: the settings with which it is made, the document, and the session in which it begins. -/
structure Rerun (σ : Type) where
  settings : Settings
  document : ClusterDocument
  session : Session (Account σ)

namespace Rerun

variable {cloud : Cloud σ} {region name : String}

/-- What comes of a run. -/
def ran (cloud : Cloud σ) (r : Rerun σ) :
    Outcome Reconciliation × ClusterDocument × Session (Account σ) :=
  Reconcile.document ⟨cloud, .exact, r.settings⟩ false r.document r.session

/-- The cloud before a run. -/
def before (r : Rerun σ) : σ := r.session.world.cloud

/-- The cloud after a run. -/
def after (cloud : Cloud σ) (r : Rerun σ) : σ := (r.ran cloud).2.2.world.cloud

/-- The run is one for the cluster, with a declaration that expands to what is desired. -/
structure Fits (u : Upkeep cloud region name) (desired : List String) (r : Rerun σ) : Prop where
  region : r.settings.region = region
  interval : 0 < r.settings.pollInterval
  name : r.document.identity.name = name
  expands : Facility.expand r.document.declared Facility.supported = .ok desired
  sound : u.sound r.before

/-- One run comes next after another: meanwhile the cluster has stayed as it was, or an update that
did not come to its end in time was applied after all. -/
def Precedes (u : Upkeep cloud region name) (desired : List String) (r r' : Rerun σ) : Prop :=
  u.enabled r'.before = u.enabled (r.after cloud) ∨ u.Holds desired r'.before

/-- A run tells that nothing was to be done, and has requested no update. -/
def Quiet (cloud : Cloud σ) (r : Rerun σ) : Prop :=
  ∃ result made, (r.ran cloud).1 = .done result ∧ result.error = none ∧
    result.changed = false ∧ result.applied = false ∧
    (r.ran cloud).2.2.world.calls = r.session.world.calls ++ made ∧ ∀ c ∈ made, ¬ c.IsRequest

variable {u : Upkeep cloud region name} {desired : List String} {r : Rerun σ}

theorem ends (fits : r.Fits u desired) : ∃ result, (r.ran cloud).1 = .done result ∧
    u.sound (r.after cloud) ∧
    (result.error = none → u.Holds desired (r.after cloud)) ∧
    (result.error ≠ none → u.enabled (r.after cloud) = u.enabled r.before) := by
  obtain ⟨result, d, t, ran, sound, holds, same, -⟩ :=
    u.document (p := ⟨cloud, .exact, r.settings⟩) rfl fits.region rfl fits.interval fits.sound
      fits.name fits.expands
  have ran : r.ran cloud = (.done result, d, t) := ran
  rw [after, ran]
  exact ⟨result, rfl, sound, holds, same⟩

/-- A run that finds what is desired leaves it so. -/
theorem quiet_of_holds (fits : r.Fits u desired) (holds : u.Holds desired r.before) :
    r.Quiet cloud ∧ u.Holds desired (r.after cloud) := by
  obtain ⟨result, d, t, ran, -, holds', -, idle⟩ :=
    u.document (p := ⟨cloud, .exact, r.settings⟩) rfl fits.region rfl fits.interval fits.sound
      fits.name fits.expands
  have ran : r.ran cloud = (.done result, d, t) := ran
  obtain ⟨none, changed, applied⟩ := idle holds
  have returns : (r.ran cloud).1 = .done result := by rw [ran]
  obtain ⟨made, calls, truthful⟩ := document_truthful _ _ _ _ returns
  refine ⟨⟨result, made, returns, none, changed, applied, calls, truthful.quiet none applied⟩, ?_⟩
  rw [after, ran]
  exact holds' none

/-- Once a run has left what is desired, all that follow find it. -/
theorem quiet_of_isChain {later : List (Rerun σ)} (fits : ∀ r ∈ later, r.Fits u desired)
    (order : (r :: later).IsChain (Precedes u desired)) (holds : u.Holds desired (r.after cloud)) :
    ∀ r' ∈ later, r'.Quiet cloud := by
  induction later generalizing r with
  | nil => exact fun r' hr' => absurd hr' (List.not_mem_nil)
  | cons next later ih =>
    obtain ⟨precedes, order⟩ := List.isChain_cons_cons.1 order
    have found : u.Holds desired next.before := by
      rcases precedes with same | found
      · exact fun n => by rw [same, holds n]
      · exact found
    obtain ⟨quiet, holds⟩ := quiet_of_holds (fits next (by simp)) found
    intro r' hr'
    rcases List.mem_cons.1 hr' with rfl | hr'
    · exact quiet
    · exact ih (fun r hr => fits r (by simp [hr])) order holds r' hr'

end Rerun

open Rerun in
/-- **Repeated reconciliation converges.** Where the cloud keeps a cluster in order, whatever is
enabled at first and whatever comes of the updates, every run for a declaration returns; a run that
ends in an error leaves the enabled facilities as they were; and once a run has returned without an
error, no later one has anything to do. -/
theorem reruns_converge {cloud : Cloud σ} {region name : String} (u : Upkeep cloud region name)
    {desired : List String} {runs : List (Rerun σ)} (fits : ∀ r ∈ runs, r.Fits u desired)
    (order : runs.IsChain (Precedes u desired)) :
    (∀ r ∈ runs, ∃ result, (r.ran cloud).1 = .done result ∧
      (result.error ≠ none → u.enabled (r.after cloud) = u.enabled r.before)) ∧
    ∀ earlier r later result, runs = earlier ++ r :: later → (r.ran cloud).1 = .done result →
      result.error = none → ∀ r' ∈ later, r'.Quiet cloud := by
  constructor
  · intro r hr
    obtain ⟨result, returns, -, -, same⟩ := ends (fits r hr)
    exact ⟨result, returns, same⟩
  · intro earlier r later result hruns returns none
    obtain ⟨result', returns', -, holds, -⟩ := ends (fits r (by simp [hruns]))
    obtain rfl := Outcome.done.inj (returns.symm.trans returns')
    have order : (r :: later).IsChain (Precedes u desired) :=
      (List.isChain_append.1 (hruns ▸ order)).2.1
    exact quiet_of_isChain (fun r hr => fits r (by simp [hruns, hr])) order (holds none)

/-- An update fails, another one with the same declaration is successful after more looks, and then
nothing is left to be done. -/
theorem reruns_converge_after_failure :
    let demo : Simulated.Cluster :=
      ⟨"demo", "eu-west-1", .text "ACTIVE", .text "1.29", ["api"], .null⟩
    let d : ClusterDocument :=
      ⟨"v1", "Cluster", ⟨"demo", "eu-west-1", none, []⟩, some ["audit", "audit"]⟩
    let settings := Settings.forRegion "eu-west-1"
    let first : Rerun Simulated.State :=
      ⟨settings, d, ⟨0, .new ⟨[demo], [], 1, .text "Failed", [], [], []⟩, []⟩⟩
    let left := (first.ran Simulated.cloud).2.2
    let second : Rerun Simulated.State := ⟨settings, d, { left with world := { left.world with
      cloud := { left.world.cloud with looks := 2, terminal := .text "Successful" } } }⟩
    let third : Rerun Simulated.State := ⟨settings, d, (second.ran Simulated.cloud).2.2⟩
    (∃ result, (first.ran Simulated.cloud).1 = .done result ∧ result.error ≠ none ∧
      (first.after Simulated.cloud).enabledAt "eu-west-1" "demo" = ["api"]) ∧
    third.Quiet Simulated.cloud := by
  intro demo d settings first left second third
  let u := Simulated.State.upkeep "eu-west-1" "demo"
  have interval : 0 < settings.pollInterval := by decide
  have expands : Facility.expand d.declared Facility.supported = .ok ["audit", "audit"] := by
    decide
  have fits : ∀ session, u.sound session.world.cloud →
      Rerun.Fits u ["audit", "audit"] ⟨settings, d, session⟩ := fun _ sound =>
    ⟨rfl, interval, rfl, expands, sound⟩
  -- What a later update will be like makes no difference to the cluster.
  have later : ∀ (s : Simulated.State) (looks : Int) (terminal : Value), u.sound s →
      u.sound { s with looks := looks, terminal := terminal } := fun _ _ _ h =>
    ⟨h.active, h.unscripted, h.numbered⟩
  have next : ∀ r : Rerun Simulated.State, Rerun.Precedes u ["audit", "audit"] r
      ⟨settings, d, (r.ran Simulated.cloud).2.2⟩ := fun _ => .inl rfl
  have next' : ∀ (r : Rerun Simulated.State) (looks : Int) (terminal : Value),
      let left := (r.ran Simulated.cloud).2.2
      Rerun.Precedes u ["audit", "audit"] r ⟨settings, d, { left with world := { left.world with
        cloud := { left.world.cloud with looks := looks, terminal := terminal } } }⟩ :=
    fun _ _ _ => .inl rfl
  have fits₁ : first.Fits u ["audit", "audit"] := fits _ ⟨⟨demo, rfl, rfl⟩, rfl, nofun⟩
  have fits₂ : second.Fits u ["audit", "audit"] := by
    obtain ⟨_, _, sound, -⟩ := Rerun.ends fits₁
    exact fits _ (later left.world.cloud _ _ sound)
  have fits₃ : third.Fits u ["audit", "audit"] := by
    obtain ⟨_, _, sound, -⟩ := Rerun.ends fits₂
    exact fits _ sound
  have all : ∀ r ∈ [first, second, third], r.Fits u ["audit", "audit"] := by
    simpa using ⟨fits₁, fits₂, fits₃⟩
  have order : [first, second, third].IsChain (Rerun.Precedes u ["audit", "audit"]) :=
    .cons_cons (next' first _ _) (.cons_cons (next second) (.singleton _))
  obtain ⟨returns, quiet⟩ := reruns_converge u all order
  have failed : (first.ran Simulated.cloud).1.value?.any (·.error.isSome) = true := by
    decide +kernel
  have succeeded : (second.ran Simulated.cloud).1.value?.any (·.error.isNone) = true := by
    decide +kernel
  constructor
  · obtain ⟨result, returned, same⟩ := returns first (by simp)
    have error : result.error ≠ none := by
      simpa [returned, Outcome.value?, Option.isSome_iff_ne_none] using failed
    exact ⟨result, returned, error, same error⟩
  · obtain ⟨result, returned, -⟩ := returns second (by simp)
    have error : result.error = none := by
      simpa [returned, Outcome.value?] using succeeded
    exact quiet [first] second [third] result rfl returned error third (by simp)

end Reconcile

end ClusterOps
