import ClusterOps.Proofs.Provider.Calls
import ClusterOps.Proofs.Wait.Exact
import Mathlib.Data.List.Basic

/-
What a provider sees and does where the cloud keeps a cluster in order
(`Upkeep`): every call is answered at once and without a fault, a description
tells the facilities that are enabled, and an update sets them to what was asked
for when it is reported as successful, and not before. Then what is observed is
what is enabled, and a wait for an update ends, with success exactly if the
update has been applied.
-/

namespace ClusterOps

variable {σ : Type}

/-! ## Logging configurations -/

/-- A logging configuration as it is sent and received: setups, each of them some types that are
on or off together. -/
def configuration (setups : List (List String × Bool)) : Value :=
  Value.object [("clusterLogging", .list (setups.map fun (types, on) => Request.group types on))]

/-- The types of the setups of a configuration that are on. -/
def typesOn (setups : List (List String × Bool)) : List String :=
  (setups.filter fun setup => setup.2).flatMap Prod.fst

/-- A request for an update has one setup that is on and one that is off. -/
theorem logging_eq_configuration (enabled disabled : List String) :
    Request.logging enabled disabled = configuration [(enabled, true), (disabled, false)] := rfl

theorem configuration_injective {xs ys : List (List String × Bool)}
    (h : configuration xs = configuration ys) : xs = ys := by
  have texts : ∀ {as bs : List String}, Value.texts as = Value.texts bs → as = bs :=
    fun same => List.map_injective_iff.2 (fun _ _ => Value.text.inj) (Value.list.inj same)
  have group : Function.Injective fun setup : List String × Bool =>
      Request.group setup.1 setup.2 := by
    intro x y same
    simp only [Request.group, Value.object, List.map_cons, List.map_nil, Value.map.injEq,
      List.cons.injEq, Prod.mk.injEq, Value.bool.injEq, true_and, and_true] at same
    exact Prod.ext (texts same.1) same.2
  refine List.map_injective_iff.2 group ?_
  simpa [configuration, Value.object] using h

theorem mapM_ok {ε α β : Type} {f : α → Except ε β} {g : α → β} (h : ∀ a, f a = .ok (g a))
    (as : List α) : as.mapM f = .ok (as.map g) := by
  induction as with
  | nil => rfl
  | cons a rest ih =>
    rw [List.mapM_cons, h, ih]
    rfl

/-- The description of a cluster: it is active, and the types that are on in its configuration are
those that are enabled. -/
def Shows (body : Value) (enabled : List String) : Prop :=
  ∃ fields cluster setups, body = .map fields ∧
    Value.find? fields "cluster" = some (.map cluster) ∧
    Value.find? cluster "status" = some (.text "ACTIVE") ∧
    Value.find? cluster "logging" = some (configuration setups) ∧
    ∀ n, n ∈ typesOn setups ↔ n ∈ enabled

/-- The decoder reads a configuration back. -/
theorem groups_of_configuration {cluster : List (Value × Value)}
    {setups : List (List String × Bool)}
    (h : Value.find? cluster "logging" = some (configuration setups)) :
    Snapshot.groups (.map cluster)
      = .ok (setups.map fun setup => ⟨setup.1.map .text, setup.2⟩) := by
  have part : Payload.part (.map cluster) "logging" = .ok (configuration setups) := by
    rw [Payload.part, Payload.field_map, h]
    rfl
  have group : ∀ setup : List String × Bool,
      LogGroup.ofPayload (Request.group setup.1 setup.2)
        = .ok ⟨setup.1.map .text, setup.2⟩ := by
    intro setup
    simp [LogGroup.ofPayload, Request.group, Value.object, Value.find?, Value.texts,
      Value.isTruthy, bind, Except.bind, pure, Except.pure]
  rw [Snapshot.groups, part]
  show (Payload.elements (.list (setups.map fun setup => Request.group setup.1 setup.2)) >>=
    fun groups => groups.mapM LogGroup.ofPayload) = _
  rw [Payload.elements_list]
  show (setups.map fun setup => Request.group setup.1 setup.2).mapM LogGroup.ofPayload = _
  rw [List.mapM_map]
  exact mapM_ok group setups

theorem named_groups (setups : List (List String × Bool)) :
    Snapshot.named (setups.map fun setup => ⟨setup.1.map .text, setup.2⟩) = .ok setups := by
  have facility : ∀ types : List String, (types.map Value.text).mapM Snapshot.facility
      = .ok types := by
    intro types
    rw [List.mapM_map]
    exact (mapM_ok (g := id) (fun _ => rfl) types).trans (by rw [List.map_id])
  rw [Snapshot.named, List.mapM_map]
  refine (mapM_ok (g := id) (fun setup => ?_) setups).trans (by rw [List.map_id])
  show ((setup.1.map Value.text).mapM Snapshot.facility >>= fun names => .ok (names, setup.2)) = _
  rw [facility]
  rfl

/-- A description with a logging configuration is read, and what is observed in it is what the
setups of the configuration come to. -/
theorem observed_of_configuration {cluster : List (Value × Value)}
    {setups : List (List String × Bool)}
    (h : Value.find? cluster "logging" = some (configuration setups)) :
    ∃ snapshot, Snapshot.ofPayload (.map cluster) = .ok snapshot ∧
      snapshot.status = (Value.find? cluster "status").getD (.text "") ∧
      snapshot.observed = .ok (Snapshot.split setups) := by
  obtain ⟨snapshot, read, status, groups⟩ : ∃ snapshot,
      Snapshot.ofPayload (.map cluster) = .ok snapshot ∧
        snapshot.status = (Value.find? cluster "status").getD (.text "") ∧
        snapshot.logging = setups.map fun setup => ⟨setup.1.map .text, setup.2⟩ := by
    rw [Snapshot.ofPayload, groups_of_configuration h]
    exact ⟨_, rfl, rfl, rfl⟩
  refine ⟨snapshot, read, status, ?_⟩
  rw [Snapshot.observed, groups, named_groups]
  rfl

/-- What is observed in a description is what is enabled. -/
theorem observed_of_shows {body : Value} {enabled : List String} (h : Shows body enabled) :
    ∃ snapshot o, (Payload.required body "cluster" >>= Snapshot.ofPayload) = .ok snapshot ∧
      snapshot.status = .text "ACTIVE" ∧ snapshot.observed = .ok o ∧
      ∀ n, n ∈ o.enabled ↔ n ∈ enabled := by
  obtain ⟨fields, cluster, setups, rfl, found, status, logging, same⟩ := h
  have cluster' : Payload.required (.map fields) "cluster" = .ok (.map cluster) := by
    rw [Payload.required, found]
  obtain ⟨snapshot, read, active, observed⟩ := observed_of_configuration logging
  refine ⟨snapshot, Snapshot.split setups, ?_, ?_, observed, ?_⟩
  · rw [cluster']
    exact read
  · rw [active, status]
    rfl
  · exact fun n => Facility.mem_distinct.trans (same n)

/-! ## A cluster in order -/

/-- How a cloud keeps a cluster: the facilities that are enabled, the updates that were begun, with
the types that they are to enable, and have not been applied, and the states of the cloud in which
all is sound. In these every call is answered at once and without a fault. An update is applied
when it is reported as successful; as long as it is not, it leaves the cluster alone. -/
structure Upkeep (cloud : Cloud σ) (region name : String) where
  enabled : σ → List String
  unapplied : σ → Value → List String → Prop
  sound : σ → Prop
  describes : ∀ {s} (now : Rat), sound s → ∃ body s',
    cloud.call s now region (.describeCluster name) = (⟨some 0, .done body⟩, s') ∧
      Shows body (enabled s) ∧ enabled s' = enabled s ∧ sound s'
  begins : ∀ {s} (now : Rat) {on off : List String} {setups}, sound s →
    Request.logging on off = configuration setups → ∃ body h s',
      cloud.call s now region (.updateLogging name on off) = (⟨some 0, .done body⟩, s') ∧
        Handle.ofPayload body = .ok h ∧ enabled s' = enabled s ∧ sound s' ∧
        unapplied s' h.id (typesOn setups)
  looks : ∀ {s} (now : Rat) {id types}, sound s → unapplied s id types → ∃ body s',
    cloud.call s now region (.describeUpdate name id) = (⟨some 0, .done body⟩, s') ∧ sound s' ∧
      (Provider.updateStatus id body = .ok (.text "Successful") ∧
          (∀ n, n ∈ enabled s' ↔ n ∈ types) ∨
        Provider.updateStatus id body ≠ .ok (.text "Successful") ∧
          enabled s' = enabled s ∧ unapplied s' id types)

namespace Provider

/-- A call that is answered at once has its answer. -/
theorem ask_of_answered {p : Provider σ} (purpose : String) {r : Request}
    {s : Session (Account σ)} {body : Value} {cloud : σ}
    (h : p.cloud.call s.world.cloud s.now p.region r = (⟨some 0, .done body⟩, cloud)) :
    ∃ t, p.ask purpose r s = (.done body, t) ∧ t.world.cloud = cloud := by
  have reply : (p.made r s).reply = ⟨some 0, .done body⟩ := by simp [made, Account.send, h]
  let t : Session (Account σ) := { s with world := (s.world.send p.cloud s.now p.region r).2 }
  refine ⟨t, (p.ask_eq purpose r s).trans ?_, ?_⟩
  · simp [reply, wordedOutcome, t]
  · simp [Account.send, h, t]

end Provider

namespace Upkeep

variable {cloud : Cloud σ} {region name : String} (u : Upkeep cloud region name) {p : Provider σ}
  {s : Session (Account σ)}

/-- What is observed of the cluster is what is enabled. -/
theorem currentLogging (hc : p.cloud = cloud) (hr : p.region = region)
    (sound : u.sound s.world.cloud) :
    ∃ o t, p.currentLogging name s = (.done o, t) ∧
      (∀ n, n ∈ o.enabled ↔ n ∈ u.enabled s.world.cloud) ∧
      u.enabled t.world.cloud = u.enabled s.world.cloud ∧ u.sound t.world.cloud := by
  subst hc hr
  obtain ⟨body, c, call, shows, same, sound'⟩ := u.describes s.now sound
  obtain ⟨t, asked, rfl⟩ := Provider.ask_of_answered (Provider.toDescribe name) call
  obtain ⟨snapshot, o, read, active, observed, all⟩ := observed_of_shows shows
  refine ⟨o, t, ?_, all, same, sound'⟩
  have described : p.describe name s = (.done snapshot, t) := by
    rw [Provider.describe, Op.bind_of_done asked, read]
    rfl
  have required : p.describeActive name s = (.done snapshot, t) := by
    rw [Provider.describeActive, Op.bind_of_done described, Provider.requireActive,
      if_pos (Value.same_text_iff.2 active)]
    rfl
  rw [Provider.currentLogging, Op.bind_of_done required, observed]
  rfl

/-- A request for an update begins one. -/
theorem updateLogging (hc : p.cloud = cloud) (hr : p.region = region)
    (sound : u.sound s.world.cloud) (on off : List String) :
    ∃ h t, p.updateLogging name on off s = (.done h, t) ∧
      u.enabled t.world.cloud = u.enabled s.world.cloud ∧ u.sound t.world.cloud ∧
      u.unapplied t.world.cloud h.id on := by
  subst hc hr
  obtain ⟨body, h, c, call, accepted, same, sound', begun⟩ :=
    u.begins s.now sound (logging_eq_configuration on off)
  obtain ⟨t, asked, rfl⟩ := Provider.ask_of_answered
    ("unable to update logging for cluster " ++ Cause.named name) call
  refine ⟨h, t, ?_, same, sound', by simpa [typesOn] using begun⟩
  rw [Provider.updateLogging, Op.bind_of_done asked, accepted]
  rfl

/-- One look at an update that has not been applied: it is answered at once, and either success is
reported and the update has been applied, or something else is and nothing has changed. -/
theorem poll (hc : p.cloud = cloud) (hr : p.region = region) {account : Account σ} (now : Rat)
    {id : Value} {types : List String} (sound : u.sound account.cloud)
    (unapplied : u.unapplied account.cloud id types) :
    ∃ report next, p.poll name id account now = (⟨some 0, report⟩, next) ∧
      report ≠ .cancelled ∧ u.sound next.cloud ∧
      (report = .status (.text "Successful") ∧ (∀ n, n ∈ u.enabled next.cloud ↔ n ∈ types) ∨
        report ≠ .status (.text "Successful") ∧
          u.enabled next.cloud = u.enabled account.cloud ∧ u.unapplied next.cloud id types) := by
  subst hc hr
  obtain ⟨body, c, call, sound', looked⟩ := u.looks now sound unapplied
  refine ⟨Provider.report name id (.done body), (account.send p.cloud now p.region
    (.describeUpdate name id)).2, by simp [Provider.poll, Account.send, call], ?_, ?_, ?_⟩
  · rw [Provider.report]
    split <;> simp
  · simpa [Account.send, call] using sound'
  · have successful : Provider.report name id (.done body) = .status (.text "Successful") ↔
        Provider.updateStatus id body = .ok (.text "Successful") := by
      simp [Provider.report_status]
    simpa [Account.send, call, successful] using looked

/-- A wait for an update that has not been applied ends with success if the update is applied
meanwhile, and with failure if the cluster is left alone. -/
theorem course (hc : p.cloud = cloud) (hr : p.region = region) {h : Handle} {types : List String}
    {start deadline now stop : Rat} {account last : Account σ} {asked : List Wait.Asked}
    {r : Wait.Result} (sound : u.sound account.cloud)
    (unapplied : u.unapplied account.cloud h.id types)
    (course : Wait.Course (p.waitFor name h) .exact (p.poll name h.id) start deadline account now
      asked last stop r) :
    u.sound last.cloud ∧
      ((∃ v, r = .reached v) ∧ (∀ n, n ∈ u.enabled last.cloud ↔ n ∈ types) ∨
        (∃ c, r = .failed c) ∧ u.enabled last.cloud = u.enabled account.cloud) := by
  induction course with
  | expired => exact ⟨sound, .inr ⟨⟨_, rfl⟩, rfl⟩⟩
  | @late _ _ time _ _ calls polled late =>
    obtain ⟨report, next, polled', -⟩ := u.poll hc hr time sound unapplied
    obtain ⟨rfl, rfl⟩ := Prod.mk.inj (polled.symm.trans polled')
    have before := (Wait.calls_exact calls).2
    exact absurd (Wait.inTime_exact.2 ⟨0, rfl, by simp, le_of_lt before⟩) (late time)
  | @withdrawn _ _ time _ _ _ _ polled _ withdrawn =>
    obtain ⟨report, next, polled', kept, -⟩ := u.poll hc hr time sound unapplied
    obtain ⟨rfl, rfl⟩ := Prod.mk.inj (polled.symm.trans polled')
    exact absurd withdrawn kept
  | @settled _ _ time _ _ _ _ _ polled _ settles =>
    obtain ⟨report, next, polled', -, sound', looked⟩ := u.poll hc hr time sound unapplied
    obtain ⟨rfl, rfl⟩ := Prod.mk.inj (polled.symm.trans polled')
    refine ⟨sound', ?_⟩
    rcases looked with ⟨rfl, applied⟩ | ⟨unsuccessful, same, -⟩
    · exact .inl ⟨⟨_, settles.unique (.success rfl)⟩, applied⟩
    · refine .inr ⟨?_, same⟩
      cases settles with
      | success successful =>
        exact absurd (congrArg Wait.Report.status (Value.same_text_iff.1 successful)) unsuccessful
      | failure | keyless | raised => exact ⟨_, rfl⟩
  | @pending _ _ time _ _ _ _ _ _ _ _ polled _ _ open_ _ ih =>
    obtain ⟨report, next, polled', -, sound', looked⟩ := u.poll hc hr time sound unapplied
    obtain ⟨rfl, rfl⟩ := Prod.mk.inj (polled.symm.trans polled')
    rcases looked with ⟨rfl, -⟩ | ⟨-, same, unapplied'⟩
    · exact absurd (.success rfl) (open_ _)
    · obtain ⟨sound'', ended⟩ := ih sound' unapplied'
      exact ⟨sound'', same ▸ ended⟩

/-- A wait for an update that has not been applied ends. -/
theorem waitForUpdate (hc : p.cloud = cloud) (hr : p.region = region) (hk : p.clock = .exact)
    (interval : 0 < p.settings.pollInterval) {h : Handle} {types : List String}
    (sound : u.sound s.world.cloud) (unapplied : u.unapplied s.world.cloud h.id types) :
    ∃ o t, p.waitForUpdate name h s = (o, t) ∧ u.sound t.world.cloud ∧
      (o = .done () ∧ (∀ n, n ∈ u.enabled t.world.cloud ↔ n ∈ types) ∨
        (∃ c, o = .failed c) ∧ u.enabled t.world.cloud = u.enabled s.world.cloud) := by
  have answers : Wait.Answers (p.waitFor name h) (p.poll name h.id)
      fun account => u.sound account.cloud ∧ u.unapplied account.cloud h.id types := by
    intro account now good
    obtain ⟨report, next, polled, -, sound', looked⟩ := u.poll hc hr now good.1 good.2
    rw [polled]
    refine ⟨fun d hd => (Option.some.inj hd) ▸ le_rfl, fun open_ => ⟨sound', ?_⟩⟩
    rcases looked with ⟨rfl, -⟩ | ⟨-, -, unapplied'⟩
    · exact absurd (.success rfl) (open_ _)
    · exact unapplied'
  have positive : 0 < (p.waitFor name h).interval := by
    show (0 : Rat) < (p.settings.pollInterval : Rat)
    exact_mod_cast interval
  have ends := Wait.isOver_run_of_answers positive answers ⟨sound, unapplied⟩ s.now
  obtain ⟨r, result⟩ := Wait.State.exists_result ends
  obtain ⟨asked, course, -⟩ := Wait.course_of_run result
  obtain ⟨sound', ended⟩ := u.course hc hr sound unapplied course
  refine ⟨_, _, rfl, ?_⟩
  simp only [hk, result]
  refine ⟨sound', ?_⟩
  rcases ended with ⟨⟨v, rfl⟩, applied⟩ | ⟨⟨c, rfl⟩, same⟩
  · exact .inl ⟨rfl, applied⟩
  · exact .inr ⟨⟨c, rfl⟩, same⟩

end Upkeep

end ClusterOps
