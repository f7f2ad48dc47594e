import ClusterOps.Snapshot
import Mathlib.Data.List.Forall2
import Mathlib.Data.List.ReduceOption
import Mathlib.Tactic.Tauto

/-
What is observed in the setups of a description. A setup reports each of its types as on or as off,
and nothing else about the setups counts: not their order, nor that of their types, nor how the
types are spread over them (`Rearranges.reported`). A type that is null anywhere is a complaint;
otherwise a type that is reported as on is on, and one that is only reported as off is off
(`observedIn_setups`).
-/

namespace ClusterOps

/-- A setup of a logging section: types that are on or off together, each a name or null. -/
structure Setup where
  types : List (Option String)
  enabled : Bool

namespace Setup

/-- The data of a setup. Whatever counts as true in the place for it means that the setup is on, and
other fields do not matter. -/
def Describes (g : Setup) (v : Value) : Prop :=
  ∃ fields, v = .map fields ∧
    Value.find? fields "types" = some (.list (g.types.map .ofText?)) ∧
    ((Value.find? fields "enabled").getD .null).isTruthy = g.enabled

/-- The description of a cluster whose logging section is a list of setups. -/
def Lists (cluster : Value) (setups : List Setup) : Prop :=
  ∃ fields logging vs, cluster = .map fields ∧
    Value.find? fields "logging" = some (.map logging) ∧
    Value.find? logging "clusterLogging" = some (.list vs) ∧
    List.Forall₂ Setup.Describes setups vs

/-- A type is reported as on, or as off, by one of some setups. -/
def Reported (setups : List Setup) (on : Bool) (type : Option String) : Prop :=
  ∃ g ∈ setups, g.enabled = on ∧ type ∈ g.types

/-- Setups in another order, with their types in another order, and split into several. -/
inductive Rearranges : List Setup → List Setup → Prop
  | setups {gs hs} : gs.Perm hs → Rearranges gs hs
  | types {types types' on gs} : types.Perm types' →
      Rearranges (⟨types, on⟩ :: gs) (⟨types', on⟩ :: gs)
  | split {types types' on gs} :
      Rearranges (⟨types ++ types', on⟩ :: gs) (⟨types, on⟩ :: ⟨types', on⟩ :: gs)
  | symm {gs hs} : Rearranges gs hs → Rearranges hs gs
  | trans {gs hs ks} : Rearranges gs hs → Rearranges hs ks → Rearranges gs ks

/-- What is observed in some setups: the types of setups that are on, and the types that are only in
setups that are not. -/
structure Splits (setups : List Setup) (o : Facility.Observed) : Prop where
  enabled : ∀ n, n ∈ o.enabled ↔ ∃ g ∈ setups, g.enabled = true ∧ some n ∈ g.types
  disabled : ∀ n, n ∈ o.disabled ↔
    (∃ g ∈ setups, some n ∈ g.types) ∧ ∀ g ∈ setups, some n ∈ g.types → g.enabled = false
  disjoint : ∀ n ∈ o.enabled, n ∉ o.disabled
  complete : ∀ n, n ∈ o.enabled ∨ n ∈ o.disabled ↔ ∃ g ∈ setups, some n ∈ g.types

/-- Two observations, or two failures to make one, that are the same but for the order of names. -/
def Alike : Except Cause Facility.Observed → Except Cause Facility.Observed → Prop
  | .ok o, .ok o' =>
    (∀ n, n ∈ o.enabled ↔ n ∈ o'.enabled) ∧ ∀ n, n ∈ o.disabled ↔ n ∈ o'.disabled
  | .error c, .error c' => c = c'
  | _, _ => False

/-- The complaint about a type that is null. -/
def nullType : Cause := .unexpectedResponse "unexpected response from EKS API - nil string"

/-- What is observed in the description of a cluster. -/
def observedIn (cluster : Value) : Except Cause Facility.Observed :=
  Snapshot.ofPayload cluster >>= Snapshot.observed

/-- The setup as a group of a snapshot. -/
def group (g : Setup) : LogGroup := ⟨g.types.map .ofText?, g.enabled⟩

/-- The setup without the types that are null. -/
def names (g : Setup) : List String × Bool := (g.types.reduceOption, g.enabled)

variable {cluster : Value} {setups setups' : List Setup}

/-! ## What is reported -/

theorem reported_cons {g : Setup} {on : Bool} {type : Option String} :
    Reported (g :: setups) on type ↔ g.enabled = on ∧ type ∈ g.types ∨ Reported setups on type := by
  simp [Reported]

theorem exists_reported {type : Option String} :
    (∃ on, Reported setups on type) ↔ ∃ g ∈ setups, type ∈ g.types := by
  constructor
  · intro h
    obtain ⟨on, g, hg, -, mem⟩ := h
    exact ⟨g, hg, mem⟩
  · intro h
    obtain ⟨g, hg, mem⟩ := h
    exact ⟨g.enabled, g, hg, rfl, mem⟩

/-- Setups that are rearranged report the same. -/
theorem Rearranges.reported (h : Rearranges setups setups') (on : Bool) (type : Option String) :
    Reported setups on type ↔ Reported setups' on type := by
  induction h with
  | setups perm => exact exists_congr fun g => and_congr_left' perm.mem_iff
  | types perm => simp only [reported_cons, perm.mem_iff]
  | split =>
    simp only [reported_cons, List.mem_append]
    tauto
  | symm _ ih => exact ih.symm
  | trans _ _ ih ih' => exact ih.trans ih'

/-! ## Reading -/

theorem mapM_related {α β γ ε : Type} {f : α → Except ε β} {g : γ → β} {as : List α} {cs : List γ}
    (h : List.Forall₂ (fun c a => f a = .ok (g c)) cs as) : as.mapM f = .ok (cs.map g) := by
  induction h with
  | nil => rfl
  | cons first _ ih =>
    rw [List.mapM_cons, first, ih]
    rfl

theorem Describes.read {g : Setup} {v : Value} (h : g.Describes v) :
    LogGroup.ofPayload v = .ok g.group := by
  obtain ⟨fields, rfl, types, enabled⟩ := h
  simp [LogGroup.ofPayload, group, types, enabled, bind, Except.bind, pure, Except.pure]

theorem Lists.groups (h : Lists cluster setups) :
    Snapshot.groups cluster = .ok (setups.map group) := by
  obtain ⟨fields, logging, vs, rfl, found, listed, each⟩ := h
  have counts : (Value.map logging).isTruthy = true := by
    cases logging with
    | nil => cases listed
    | cons => rfl
  have part : Payload.part (.map fields) "logging" = .ok (.map logging) := by
    rw [Payload.part, Payload.field_map, found, Except.map, Option.getD_some, if_pos counts]
  rw [Snapshot.groups, part]
  show (Payload.field (.map logging) "clusterLogging" >>= fun v => Payload.elements v >>= fun vs =>
    vs.mapM LogGroup.ofPayload) = _
  rw [Payload.field_map, listed]
  show (Payload.elements (.list vs) >>= fun vs => vs.mapM LogGroup.ofPayload) = _
  rw [Payload.elements_list]
  exact mapM_related (each.imp fun _ _ => Setup.Describes.read)

theorem mapM_facility (types : List (Option String)) :
    (types.map Value.ofText?).mapM Snapshot.facility
      = if none ∈ types then .error nullType else .ok types.reduceOption := by
  induction types with
  | nil => rfl
  | cons type types ih =>
    rw [List.map_cons, List.mapM_cons, ih]
    cases type with
    | none => simp [Value.ofText?, Snapshot.facility, nullType, bind, Except.bind]
    | some n =>
      have read : Snapshot.facility (.ofText? (some n)) = .ok n := rfl
      rw [read]
      by_cases null : none ∈ types
      · simp [null, bind, Except.bind]
      · simp [null, List.reduceOption_cons_of_some, bind, Except.bind, pure, Except.pure]

theorem named_setups (setups : List Setup) : Snapshot.named (setups.map group)
    = if ∃ g ∈ setups, none ∈ g.types then .error nullType else .ok (setups.map names) := by
  induction setups with
  | nil => rfl
  | cons g setups ih =>
    rw [Snapshot.named] at ih ⊢
    rw [List.map_cons, List.mapM_cons, ih]
    have read : g.group.types.mapM Snapshot.facility = _ := mapM_facility g.types
    rw [read]
    by_cases first : none ∈ g.types
    · simp [first, bind, Except.bind]
    · by_cases later : ∃ g ∈ setups, none ∈ g.types
      · simp [first, later, bind, Except.bind, pure, Except.pure]
      · simp [first, later, group, names, bind, Except.bind, pure, Except.pure]

/-- What is observed in a description with a list of setups. -/
theorem Lists.observedIn_eq (h : Lists cluster setups) : observedIn cluster
    = if ∃ g ∈ setups, none ∈ g.types then .error nullType
      else .ok (Snapshot.split (setups.map names)) := by
  obtain ⟨snapshot, read, groups⟩ : ∃ snapshot, Snapshot.ofPayload cluster = .ok snapshot ∧
      snapshot.logging = setups.map group := by
    have groups := h.groups
    obtain ⟨fields, -, -, rfl, -⟩ := h
    rw [Snapshot.ofPayload, groups]
    exact ⟨_, rfl, rfl⟩
  rw [observedIn, read]
  show Snapshot.observed snapshot = _
  rw [Snapshot.observed, groups, named_setups]
  split <;> rfl

/-! ## Splitting -/

theorem mem_names {on : Bool} {n : String} :
    n ∈ ((setups.map names).filter fun g => g.2 == on).flatMap Prod.fst
      ↔ Reported setups on (some n) := by
  simp [names, Reported, List.reduceOption_mem_iff, and_assoc]

theorem mem_enabled {n : String} :
    n ∈ (Snapshot.split (setups.map names)).enabled ↔ Reported setups true (some n) := by
  rw [Snapshot.split, Facility.mem_distinct, ← mem_names]
  simp

theorem mem_disabled {n : String} : n ∈ (Snapshot.split (setups.map names)).disabled
    ↔ Reported setups false (some n) ∧ ¬ Reported setups true (some n) := by
  rw [← mem_enabled, ← mem_names, Snapshot.split, Facility.mem_others, Facility.mem_distinct]
  simp

theorem splits_setups (setups : List Setup) :
    Splits setups (Snapshot.split (setups.map names)) := by
  have reported : ∀ type, (∃ g ∈ setups, type ∈ g.types) ↔
      Reported setups true type ∨ Reported setups false type := by
    intro type
    rw [← exists_reported, Bool.exists_bool, or_comm]
  refine ⟨fun n => mem_enabled, fun n => ?disabled, fun n on off => ?disjoint, fun n => ?complete⟩
  case disabled =>
    have never : ¬ Reported setups true (some n) ↔
        ∀ g ∈ setups, some n ∈ g.types → g.enabled = false := by
      simp only [Reported, not_exists, not_and, Bool.eq_false_iff]
      exact forall₂_congr fun g _ => ⟨fun h mem on => h on mem, fun h on mem => h mem on⟩
    rw [mem_disabled, reported, ← never]
    tauto
  case disjoint => exact (mem_disabled.1 off).2 (mem_enabled.1 on)
  case complete =>
    rw [mem_enabled, mem_disabled, reported]
    tauto

/-- What is observed goes by what is reported. -/
theorem Lists.alike {cluster' : Value} (h : Lists cluster setups) (h' : Lists cluster' setups')
    (same : ∀ on type, Reported setups on type ↔ Reported setups' on type) :
    Alike (observedIn cluster) (observedIn cluster') := by
  have null : (∃ g ∈ setups, none ∈ g.types) ↔ ∃ g ∈ setups', none ∈ g.types := by
    simp only [← exists_reported, same]
  rw [h.observedIn_eq, h'.observedIn_eq]
  by_cases refused : ∃ g ∈ setups, none ∈ g.types
  · rw [if_pos refused, if_pos (null.1 refused)]
    exact rfl
  · rw [if_neg refused, if_neg (null.not.1 refused)]
    exact ⟨fun n => by rw [mem_enabled, mem_enabled, same],
      fun n => by rw [mem_disabled, mem_disabled, same, same]⟩

/-- **What is observed in setups.** A description with a list of setups is refused exactly if a type
in them is null. Otherwise the types of the setups that are on are observed as on, and all other
types as off, and this does not depend on how the setups are arranged. -/
theorem observedIn_setups (h : Lists cluster setups) :
    (observedIn cluster = .error nullType ↔ ∃ g ∈ setups, none ∈ g.types) ∧
    ((∀ g ∈ setups, none ∉ g.types) → ∃ o, observedIn cluster = .ok o ∧ Splits setups o) ∧
    ∀ cluster' setups', Lists cluster' setups' → Rearranges setups setups' →
      Alike (observedIn cluster) (observedIn cluster') := by
  refine ⟨?refused, fun named => ?observed, fun cluster' setups' h' rearranged => ?alike⟩
  case refused =>
    rw [h.observedIn_eq]
    split
    case isTrue refused => exact iff_of_true rfl refused
    case isFalse named => exact iff_of_false (by simp) named
  case observed =>
    refine ⟨_, ?_, splits_setups setups⟩
    rw [h.observedIn_eq, if_neg (by simpa using named)]
  case alike => exact h.alike h' rearranged.reported

/-- A type in a setup that is on and in one that is off is on, also where the setups come the other
way round and one of them is split. -/
theorem observedIn_setups_overlap :
    let described (g : Setup) : Value := Value.object
      [("types", .list (g.types.map .ofText?)), ("enabled", .bool g.enabled)]
    let cluster (gs : List Setup) : Value := Value.object
      [("logging", Value.object [("clusterLogging", .list (gs.map described))])]
    let on : Setup := ⟨[some "api", some "audit"], true⟩
    let off : Setup := ⟨[some "audit", some "scheduler"], false⟩
    let parts : List Setup := [⟨[some "audit"], false⟩, ⟨[some "scheduler"], false⟩, on]
    Lists (cluster [on, off]) [on, off] ∧ Lists (cluster parts) parts ∧
      Rearranges [on, off] parts ∧
      observedIn (cluster [on, off]) = .ok ⟨["api", "audit"], ["scheduler"]⟩ ∧
      Splits [on, off] ⟨["api", "audit"], ["scheduler"]⟩ ∧
      Alike (observedIn (cluster [on, off])) (observedIn (cluster parts)) := by
  intro described cluster on off parts
  have describes : ∀ g : Setup, g.Describes (described g) :=
    fun g => ⟨_, rfl, rfl, by cases g.enabled <;> rfl⟩
  have lists : ∀ gs : List Setup, Lists (cluster gs) gs := fun gs =>
    ⟨_, _, _, rfl, rfl, rfl,
      List.forall₂_map_right_iff.2 (List.forall₂_same.2 fun g _ => describes g)⟩
  have parted : Rearranges [off, on] parts :=
    @Rearranges.split [some "audit"] [some "scheduler"] false [on]
  have rearranged : Rearranges [on, off] parts := .trans (.setups (.swap off on [])) parted
  have value : observedIn (cluster [on, off]) = .ok ⟨["api", "audit"], ["scheduler"]⟩ := by decide
  obtain ⟨-, named, alike⟩ := observedIn_setups (lists [on, off])
  obtain ⟨o, observed, splits⟩ := named (by simp [on, off])
  obtain rfl := Except.ok.inj (value.symm.trans observed)
  exact ⟨lists _, lists _, rearranged, value, splits, alike _ parts (lists parts) rearranged⟩

end Setup

end ClusterOps
