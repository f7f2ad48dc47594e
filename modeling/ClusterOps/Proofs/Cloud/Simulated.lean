import ClusterOps.Cloud.Simulated
import ClusterOps.Proofs.Provider.Upkeep
import ClusterOps.Proofs.Text.Decimal

/-
The computed cloud keeps an active cluster in order as long as nothing is
scripted: an update that was begun is found again by its id, it is applied at the
look with which it becomes successful, and until then the cluster is left alone.
-/

namespace ClusterOps.Simulated

namespace State

/-- The facilities that are enabled in a cluster. -/
def enabledAt (s : State) (region name : String) : List String :=
  ((s.cluster? region name).map Cluster.enabled).getD []

/-- The cluster is there and active, nothing is scripted, and the updates are numbered from one. -/
structure Sound (s : State) (region name : String) : Prop where
  active : ∃ c, s.cluster? region name = some c ∧ c.status = .text "ACTIVE"
  unscripted : s.script = []
  numbered : ∀ u ∈ s.updates, ∃ k ≤ s.updates.length, u.id = "u-" ++ toString k

/-- Whether an update is the one that is asked for. -/
def isFor (name : String) (id : Value) (u : Update) : Bool :=
  u.cluster == name && Value.text u.id == id

/-- The update with an id is to enable some types and has not been successful. -/
def Unapplied (s : State) (region name : String) (id : Value) (types : List String) : Prop :=
  ∃ u, s.updates.find? (isFor name id) = some u ∧ u.region = region ∧ u.change = .logging types ∧
    u.status ≠ .text "Successful"

variable {s : State} {region name : String}

theorem call_unscripted (h : s.script = []) (now : Rat) (r : Request) :
    cloud.call s now region r
      = (⟨some 0, (s.compute region r).1⟩, (s.compute region r).2) := by
  simp [cloud, answer, nextStep, h]

/-- Updates with different numbers have different ids. -/
theorem updateId_injective {a b : Nat} (h : "u-" ++ toString a = "u-" ++ toString b) : a = b :=
  Text.toString_injective ((String.append_right_inj _).1 h)

/-- A cluster shows the facilities that are enabled. -/
theorem shows_describe {c : Cluster} (active : c.status = .text "ACTIVE") :
    Shows (Value.object [("cluster", c.describe)]) c.enabled := by
  refine ⟨_, _, [(c.enabled, true), (Facility.others c.enabled Facility.supported, false)], rfl,
    rfl, ?_, ?_, by simp [typesOn]⟩
  · rw [← active]
    rfl
  · rfl

theorem numbered_append {u : Update} (h : s.Sound region name)
    (hu : u.id = "u-" ++ toString (s.updates.length + 1)) :
    ({ s with updates := s.updates ++ [u] } : State).Sound region name := by
  refine ⟨h.active, h.unscripted, fun w hw => ?_⟩
  simp only [List.length_append, List.length_singleton]
  rcases List.mem_append.1 hw with hw | hw
  · obtain ⟨k, le, id⟩ := h.numbered w hw
    exact ⟨k, by omega, id⟩
  · obtain rfl := List.mem_singleton.1 hw
    exact ⟨_, le_rfl, hu⟩

/-- An update that is begun is found by its id. -/
theorem find?_append {u : Update} (h : s.Sound region name) (hc : u.cluster = name)
    (hu : u.id = "u-" ++ toString (s.updates.length + 1)) :
    (s.updates ++ [u]).find? (isFor name (.text u.id)) = some u := by
  have none : s.updates.find? (isFor name (.text u.id)) = none := by
    refine List.find?_eq_none.2 fun w hw found => ?_
    obtain ⟨k, le, id⟩ := h.numbered w hw
    simp only [isFor, Bool.and_eq_true, beq_iff_eq, Value.text.injEq] at found
    have := updateId_injective (id.symm.trans (found.2.trans hu))
    omega
  rw [List.find?_append, none]
  simp [isFor, hc]

/-- A request for an update leaves the cluster alone and begins the update. -/
theorem begin_spec (h : s.Sound region name) (operation : String) (types : List String) :
    ∃ u : Update, (s.begin operation region name (.logging types)).1 = .done u.describe ∧
      (s.begin operation region name (.logging types)).2 = { s with updates := s.updates ++ [u] } ∧
      u.id = "u-" ++ toString (s.updates.length + 1) ∧ u.region = region ∧ u.cluster = name ∧
      u.change = .logging types ∧ u.status = inProgress := by
  obtain ⟨c, found, -⟩ := h.active
  refine ⟨⟨"u-" ++ toString (s.updates.length + 1), region, name, .logging types, s.looks,
    s.terminal, inProgress⟩, ?_, ?_, rfl, rfl, rfl, rfl, rfl⟩
  · rw [begin, found]
  · rw [begin, found]

/-- A look changes the status of an update and nothing else of what it is. -/
theorem look_eq (u : Update) : (look u).id = u.id ∧ (look u).region = u.region ∧
    (look u).cluster = u.cluster ∧ (look u).change = u.change := by
  rw [look]
  split <;> exact ⟨rfl, rfl, rfl, rfl⟩

/-- An update that is looked at is found again. -/
theorem find?_look {u : Update} {id : Value} (h : s.updates.find? (isFor name id) = some u) :
    (s.updates.map fun w => if w.id == u.id then look u else w).find? (isFor name id)
      = some (look u) := by
  have mem := List.mem_of_find?_eq_some h
  have isFor_u := List.find?_some h
  obtain ⟨sameId, -, sameCluster, -⟩ := look_eq u
  have isFor_look : isFor name id (look u) = true := by
    rw [isFor, sameId, sameCluster]
    exact isFor_u
  cases found : (s.updates.map fun w => if w.id == u.id then look u else w).find?
      (isFor name id) with
  | none =>
    have := List.find?_eq_none.1 found (look u) (List.mem_map.2 ⟨u, mem, by simp⟩)
    exact absurd isFor_look this
  | some x =>
    have isFor_x := List.find?_some found
    obtain ⟨w, -, rfl⟩ := List.mem_map.1 (List.mem_of_find?_eq_some found)
    by_cases same : w.id = u.id
    · simp [same]
    · -- Another update has another id, and is not asked for.
      simp only [beq_iff_eq, same, if_false] at isFor_x
      simp only [isFor, Bool.and_eq_true, beq_iff_eq] at isFor_x isFor_u
      exact absurd (Value.text.inj (isFor_x.2.trans isFor_u.2.symm)) same

/-- An update that is applied changes its cluster. -/
theorem cluster?_apply {u : Update} {c : Cluster} (h : s.cluster? region name = some c)
    (hr : u.region = region) (hc : u.cluster = name) :
    (s.apply u).cluster? region name = some (c.changed u.change) := by
  subst hr hc
  have isAt : ∀ d : Cluster, (if d.isAt u.region u.cluster then d.changed u.change else d).isAt
      u.region u.cluster = d.isAt u.region u.cluster := by
    intro d
    split
    · cases u.change <;> rfl
    · rfl
  have here := List.find?_some h
  rw [cluster?, apply, List.find?_map]
  simp only [Function.comp_def, isAt]
  rw [← cluster?, h]
  simp [here]

theorem numbered_look {u : Update} (h : s.Sound region name) :
    ({ s with updates := s.updates.map fun w => if w.id == u.id then look u else w } :
      State).Sound region name := by
  refine ⟨h.active, h.unscripted, fun x hx => ?_⟩
  obtain ⟨w, hw, rfl⟩ := List.mem_map.1 hx
  obtain ⟨k, le, id⟩ := h.numbered w hw
  refine ⟨k, by simpa using le, ?_⟩
  split
  case isTrue same => rw [(look_eq u).1, ← beq_iff_eq.1 same, id]
  case isFalse => exact id

theorem updateStatus_describe (u : Update) (id : Value) :
    Provider.updateStatus id u.describe = .ok (.text "Successful") ↔
      u.status = .text "Successful" := by
  show (if u.status.isTruthy then Except.ok u.status else .error _) = _ ↔ _
  split
  case isTrue => simp
  case isFalse empty =>
    refine ⟨nofun, fun successful => absurd ?_ empty⟩
    rw [successful]
    decide

/-- A look at an update that has not been applied either makes it successful and applies it, or
leaves the cluster alone. -/
theorem describeUpdate_spec {id : Value} {types : List String} (h : s.Sound region name)
    (unapplied : s.Unapplied region name id types) :
    ∃ body, (s.describeUpdate name id).1 = .done body ∧
      (s.describeUpdate name id).2.Sound region name ∧
      (Provider.updateStatus id body = .ok (.text "Successful") ∧
          (s.describeUpdate name id).2.enabledAt region name = types ∨
        Provider.updateStatus id body ≠ .ok (.text "Successful") ∧
          (s.describeUpdate name id).2.enabledAt region name = s.enabledAt region name ∧
          (s.describeUpdate name id).2.Unapplied region name id types) := by
  obtain ⟨u, found, sameRegion, change, unsuccessful⟩ := unapplied
  obtain ⟨c, cluster, active⟩ := h.active
  let looked : State :=
    { s with updates := s.updates.map fun w => if w.id == u.id then look u else w }
  have described : s.describeUpdate name id = (.done (look u).describe,
      if u.status == inProgress && (look u).status == .text "Successful" then looked.apply (look u)
      else looked) := by
    rw [describeUpdate]
    have : s.updates.find? (fun u => u.cluster == name && Value.text u.id == id) = some u := found
    rw [this]
  rw [described]
  refine ⟨_, rfl, ?_⟩
  have sound : looked.Sound region name := numbered_look h
  obtain ⟨-, region', cluster', change'⟩ := look_eq u
  rw [ne_eq, updateStatus_describe]
  split
  case isTrue ended =>
    simp only [Bool.and_eq_true, beq_iff_eq] at ended
    have sameCluster : u.cluster = name := by
      have isFor_u := List.find?_some found
      simp only [isFor, Bool.and_eq_true, beq_iff_eq] at isFor_u
      exact isFor_u.1
    have applied : (looked.apply (look u)).cluster? region name = some (c.changed u.change) := by
      rw [← change']
      exact cluster?_apply cluster (region'.trans sameRegion) (cluster'.trans sameCluster)
    refine ⟨⟨⟨_, applied, ?_⟩, h.unscripted, sound.numbered⟩, .inl ⟨ended.2, ?_⟩⟩
    · rw [change]
      exact active
    · rw [enabledAt, applied, change]
      rfl
  case isFalse goesOn =>
    have unsuccessful' : (look u).status ≠ .text "Successful" := by
      intro successful
      by_cases busy : u.status = inProgress
      · simp [busy, successful] at goesOn
      · rw [look, if_neg (by simpa using busy)] at successful
        exact unsuccessful successful
    exact ⟨sound, .inr ⟨unsuccessful', rfl, look u, find?_look found, region'.trans sameRegion,
      change'.trans change, unsuccessful'⟩⟩

/-- The computed cloud keeps a cluster in order. -/
def upkeep (region name : String) : Upkeep cloud region name where
  enabled s := s.enabledAt region name
  unapplied s := s.Unapplied region name
  sound s := s.Sound region name
  describes := by
    intro s now h
    obtain ⟨c, found, active⟩ := h.active
    have computed : s.compute region (.describeCluster name)
        = (.done (Value.object [("cluster", c.describe)]), s) := by rw [compute, found]
    refine ⟨_, _, (call_unscripted h.unscripted now _).trans (by rw [computed]), ?_, rfl, h⟩
    rw [enabledAt, found]
    exact shows_describe active
  begins := by
    intro s now on off setups h sent
    obtain ⟨u, begun, begun', id, sameRegion, sameCluster, change, status⟩ :=
      begin_spec h "UpdateClusterConfig" on
    have handle : Handle.ofPayload u.describe
        = .ok ⟨.text u.id, .text u.change.kind, u.status⟩ := by
      show (if !(Value.text u.id).isTruthy then _ else _) = _
      rw [if_neg (by simp [id, Value.isTruthy])]
      rfl
    obtain rfl := configuration_injective ((logging_eq_configuration on off).symm.trans sent)
    refine ⟨u.describe, _, { s with updates := s.updates ++ [u] },
      (call_unscripted h.unscripted now _).trans ?_, handle, rfl, numbered_append h id, ?_⟩
    · have computed : s.compute region (.updateLogging name on off)
          = (.done u.describe, { s with updates := s.updates ++ [u] }) := Prod.ext begun begun'
      rw [computed]
    · refine ⟨u, find?_append h sameCluster id, sameRegion, by simpa [typesOn] using change, ?_⟩
      rw [status]
      decide
  looks := by
    intro s now id types h unapplied
    obtain ⟨body, answered, sound, looked⟩ := describeUpdate_spec h unapplied
    refine ⟨body, _, (call_unscripted h.unscripted now _).trans ?_, sound, ?_⟩
    · rw [compute, answered]
    · rcases looked with ⟨successful, applied⟩ | looked
      · exact .inl ⟨successful, fun n => by rw [applied]⟩
      · exact .inr looked

end State

end ClusterOps.Simulated
