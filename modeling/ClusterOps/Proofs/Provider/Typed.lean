import ClusterOps.Proofs.Provider.Calls

/-
How a provider fails. A fault of the cloud is always worded as a failure of the
provider. Of the data in an answer this holds unless they are garbled, that is, not
of the form that is read: the readers take data as they come, so what is missing or
of a wrong kind is noticed only where its parts are asked for, and the failure then
is not one of the provider (`Reads`). Which data are garbled is said by their shape,
answer by answer (`Misplaced`, `GarbledCluster`), and for these, and for no others,
such a failure comes out (`replies_typed`).
-/

namespace ClusterOps

variable {σ α β : Type}

/-- The failures that tell what is wrong with what an answer says. -/
def Cause.Complains (c : Cause) : Prop :=
  (∃ text, c = .unexpectedResponse text) ∨ ∃ name status, c = .notActive name status

theorem Cause.Complains.isProvider {c : Cause} (h : c.Complains) : c.isProvider = true := by
  rcases h with ⟨text, rfl⟩ | ⟨name, status, rfl⟩ <;> rfl

/-! ## Reading -/

/-- The kinds of failures that come of data of another form than the one that is read. -/
def formKinds : List String := ["KeyError", "AttributeError", "TypeError"]

/-- What reading comes to, given whether the data are garbled: a value or a complaint if they are
not, and a failure about their form if they are. -/
inductive Reads (told : Cause → Prop) (garbled : Prop) : Except Cause α → Prop
  | value (a : α) (clear : ¬ garbled) : Reads told garbled (.ok a)
  | complaint {c : Cause} (complains : told c) (clear : ¬ garbled) : Reads told garbled (.error c)
  | form {kind : String} (text : String) (listed : kind ∈ formKinds) (broken : garbled) :
      Reads told garbled (.error (.other kind text))

/-- Reading that has nothing to complain about. -/
abbrev ReadsForm (garbled : Prop) (x : Except Cause α) : Prop := Reads (fun _ => False) garbled x

namespace Reads

variable {told : Cause → Prop} {G H : Prop} {x : Except Cause α}

theorem congr (h : Reads told G x) (same : G ↔ H) : Reads told H x := by
  cases h with
  | value a clear => exact .value a (same.not.1 clear)
  | complaint complains clear => exact .complaint complains (same.not.1 clear)
  | form text listed broken => exact .form text listed (same.1 broken)

theorem of_form (h : ReadsForm G x) : Reads told G x := by
  cases h with
  | value a clear => exact .value a clear
  | complaint complains => exact complains.elim
  | form text listed broken => exact .form text listed broken

theorem map {f : α → β} (h : Reads told G x) : Reads told G (x.map f) := by
  cases h with
  | value a clear => exact .value _ clear
  | complaint complains clear => exact .complaint complains clear
  | form text listed broken => exact .form text listed broken

/-- What is read in two steps is garbled for the first one, or for the second after the first. -/
theorem bind {J : α → Prop} {f : α → Except Cause β} (h : Reads told G x)
    (hf : ∀ a, x = .ok a → Reads told (J a) (f a)) :
    Reads told (G ∨ ∃ a, x = .ok a ∧ J a) (x >>= f) := by
  cases h with
  | value a clear =>
    refine (hf a rfl).congr ⟨fun later => .inr ⟨a, rfl, later⟩, ?_⟩
    rintro (first | ⟨b, same, later⟩)
    · exact absurd first clear
    · rw [Except.ok.inj same]
      exact later
  | complaint complains clear =>
    refine .complaint complains ?_
    rintro (first | ⟨b, same, -⟩)
    · exact clear first
    · cases same
  | form text listed broken => exact .form text listed (.inl broken)

/-- Where nothing is garbled and nothing complained about, there is a value. -/
theorem ok_of_clear (h : ReadsForm G x) (clear : ¬ G) : ∃ a, x = .ok a := by
  cases h with
  | value a _ => exact ⟨a, rfl⟩
  | complaint complains => exact complains.elim
  | form text listed broken => exact absurd broken clear

theorem clear_of_ok (h : Reads told G x) {a : α} (read : x = .ok a) : ¬ G := by
  cases h with
  | value _ clear => exact clear
  | complaint | form => cases read

/-- Items that are read one after the other are garbled if one of them is. -/
theorem mapM {γ : Type} {K : γ → Prop} {f : γ → Except Cause β}
    (h : ∀ v, ReadsForm (K v) (f v)) :
    ∀ vs : List γ, ReadsForm (∃ v ∈ vs, K v) (vs.mapM f)
  | [] => .value [] (by simp)
  | v :: vs => by
    rw [List.mapM_cons]
    refine ((h v).bind fun b _ => (mapM h vs).map (f := (b :: ·))).congr ?_
    constructor
    · rintro (first | ⟨b, -, w, mem, later⟩)
      · exact ⟨v, by simp, first⟩
      · exact ⟨w, by simp [mem], later⟩
    · rintro ⟨w, mem, broken⟩
      by_cases first : K v
      · exact .inl first
      · obtain ⟨b, read⟩ := (h v).ok_of_clear first
        rcases List.mem_cons.1 mem with rfl | mem
        · exact absurd broken first
        · exact .inr ⟨b, read, w, mem, broken⟩

end Reads

/-! ## Fields and parts -/

/-- The data are a map. -/
def Value.IsMap (v : Value) : Prop := ∃ es, v = .map es

/-- The data count as true and have no parts. -/
def Value.Indivisible (v : Value) : Prop :=
  v.isTruthy = true ∧ match v with
    | .list _ | .set _ | .map _ | .text _ | .halves _ | .bytes _ => False
    | _ => True

/-- A field of a map holds data that count as true and are no map. -/
def Misplaced (es : List (Value × Value)) (name : String) : Prop :=
  ∃ v, Value.find? es name = some v ∧ v.isTruthy = true ∧ ¬ v.IsMap

namespace Payload

variable {told : Cause → Prop} {v : Value} {name : String}

theorem reads_elements (v : Value) : Reads told v.Indivisible (elements v) := by
  unfold elements
  by_cases counts : v.isTruthy = true
  case neg =>
    rw [if_pos (by simpa using counts)]
    exact .value _ fun h => counts h.1
  case pos =>
    rw [if_neg (by simpa using counts)]
    cases v with
    | list | set | map | text | halves | bytes => exact .value _ fun h => h.2
    | _ => exact .form _ (by simp [formKinds]) ⟨counts, trivial⟩

/-- What is read of a map in a field, which may be missing, is garbled if something else is in its
place, or if the map is. -/
theorem reads_part {es : List (Value × Value)} {J : List (Value × Value) → Prop}
    {f : Value → Except Cause α} (clear : ¬ J [])
    (hf : ∀ us, Reads told (J us) (f (.map us))) (other : ∀ v, ¬ v.IsMap → Reads told True (f v)) :
    Reads told (Misplaced es name ∨ ∃ us, Value.find? es name = some (.map us) ∧ J us)
      (part (.map es) name >>= f) := by
  have read : part (.map es) name = .ok
      (if ((Value.find? es name).getD .null).isTruthy then (Value.find? es name).getD .null
        else .map []) := rfl
  rw [read]
  show Reads told _ (f _)
  cases found : Value.find? es name with
  | none =>
    refine (hf []).congr ⟨fun broken => absurd broken clear, ?_⟩
    rintro (⟨v, same, -⟩ | ⟨us, same, -⟩)
    · cases found.symm.trans same
    · cases same
  | some v =>
    rw [Option.getD_some]
    by_cases counts : v.isTruthy = true
    case neg =>
      rw [if_neg counts]
      refine (hf []).congr ⟨fun broken => absurd broken clear, ?_⟩
      rintro (⟨w, same, counts', -⟩ | ⟨us, same, broken⟩)
      · obtain rfl := Option.some.inj (found.symm.trans same)
        exact absurd counts' counts
      · obtain rfl := Option.some.inj same
        have empty : us = [] := by simpa [Value.isTruthy] using counts
        exact absurd (empty ▸ broken) clear
    case pos =>
      rw [if_pos counts]
      by_cases isMap : v.IsMap
      case neg =>
        exact (other v isMap).congr ⟨fun _ => .inl ⟨v, found, counts, isMap⟩, fun _ => trivial⟩
      case pos =>
        obtain ⟨us, rfl⟩ := isMap
        refine (hf us).congr ⟨fun broken => .inr ⟨us, rfl, broken⟩, ?_⟩
        rintro (⟨w, same, -, noMap⟩ | ⟨us', same, broken⟩)
        · obtain rfl := Option.some.inj (found.symm.trans same)
          exact absurd ⟨us, rfl⟩ noMap
        · obtain rfl := Value.map.inj (Option.some.inj same)
          exact broken

/-- Nothing can be read of data that are no map. -/
theorem reads_field_bind {v : Value} (noMap : ¬ v.IsMap) (f : Value → Except Cause α) :
    Reads told True (field v name >>= f) := by
  cases v with
  | map es => exact absurd ⟨es, rfl⟩ noMap
  | _ => exact .form _ (by simp [formKinds]) trivial

end Payload

/-! ## Updates -/

theorem Handle.reads_ofPayload (es : List (Value × Value)) :
    Reads Cause.Complains (Misplaced es "update") (Handle.ofPayload (.map es)) := by
  refine (Payload.reads_part (J := fun _ => False) not_false (fun us => ?_)
    fun v noMap => Payload.reads_field_bind noMap _).congr (by simp)
  rw [Payload.field_map]
  show Reads _ _ (if _ then _ else _)
  split
  · exact .complaint (.inl ⟨_, rfl⟩) not_false
  · exact .value _ not_false

theorem Provider.reads_updateStatus (update : Value) (es : List (Value × Value)) :
    Reads Cause.Complains (Misplaced es "update") (updateStatus update (.map es)) := by
  refine (Payload.reads_part (J := fun _ => False) not_false (fun us => ?_)
    fun v noMap => Payload.reads_field_bind noMap _).congr (by simp)
  rw [Payload.field_map]
  show Reads _ _ (if _ then _ else _)
  split
  · exact .value _ not_false
  · exact .complaint (.inl ⟨_, rfl⟩) not_false

/-! ## Clusters -/

/-- A group of facilities that is no map, or whose types have no parts. -/
inductive GarbledGroup : Value → Prop
  | noMap {v : Value} (h : ¬ v.IsMap) : GarbledGroup v
  | types {gs : List (Value × Value)} {v : Value} (found : Value.find? gs "types" = some v)
      (h : v.Indivisible) : GarbledGroup (.map gs)

/-- A logging configuration whose groups have no parts, or one of whose groups is garbled. -/
inductive GarbledGroups (ls : List (Value × Value)) : Prop
  | list {v : Value} (found : Value.find? ls "clusterLogging" = some v) (h : v.Indivisible)
  | group {v g : Value} {parts : List Value} (found : Value.find? ls "clusterLogging" = some v)
      (listed : Payload.elements v = .ok parts) (mem : g ∈ parts) (h : GarbledGroup g)

/-- A description of a cluster that is no map, or whose logging configuration is no map or has
garbled groups. -/
inductive GarbledLogging : Value → Prop
  | noMap {v : Value} (h : ¬ v.IsMap) : GarbledLogging v
  | misplaced {cs : List (Value × Value)} (h : Misplaced cs "logging") : GarbledLogging (.map cs)
  | groups {cs ls : List (Value × Value)} (found : Value.find? cs "logging" = some (.map ls))
      (h : GarbledGroups ls) : GarbledLogging (.map cs)

/-- Among some facilities one can be no name, and no null comes before it. -/
inductive Unnamed : List Value → Prop
  | here {v : Value} {vs : List Value} (h : v.isKey = false) : Unnamed (v :: vs)
  | later {v : Value} {vs : List Value} (h : v ≠ .null) (rest : Unnamed vs) : Unnamed (v :: vs)

/-- An answer that describes no cluster, or garbles its logging, or, if the cluster is active, tells
of a facility that can be no name. -/
inductive GarbledCluster (es : List (Value × Value)) : Prop
  | lacking (h : Value.find? es "cluster" = none)
  | logging {v : Value} (found : Value.find? es "cluster" = some v) (h : GarbledLogging v)
  | facility {v : Value} {s : Snapshot} (found : Value.find? es "cluster" = some v)
      (read : Snapshot.ofPayload v = .ok s) (active : s.status = .text "ACTIVE")
      (h : Unnamed (s.logging.flatMap LogGroup.types))

/-- A field that may be missing has no parts exactly if what is in it has none. -/
theorem indivisible_getD {o : Option Value} :
    (o.getD .null).Indivisible ↔ ∃ v, o = some v ∧ v.Indivisible := by
  cases o with
  | none => simp [Value.Indivisible, Value.isTruthy]
  | some v => simp

theorem LogGroup.reads_ofPayload (v : Value) :
    ReadsForm (GarbledGroup v) (LogGroup.ofPayload v) := by
  by_cases isMap : v.IsMap
  case neg =>
    exact (Payload.reads_field_bind isMap _).congr ⟨fun _ => .noMap isMap, fun _ => trivial⟩
  case pos =>
    obtain ⟨gs, rfl⟩ := isMap
    have read : LogGroup.ofPayload (.map gs)
        = (Payload.elements ((Value.find? gs "types").getD .null)).map fun types =>
          ⟨types, ((Value.find? gs "enabled").getD .null).isTruthy⟩ := by
      cases h : Payload.elements ((Value.find? gs "types").getD .null) <;>
        simp [LogGroup.ofPayload, h, Except.map, bind, Except.bind, pure, Except.pure]
    rw [read]
    refine (Payload.reads_elements _).map.congr ?_
    rw [indivisible_getD]
    constructor
    · rintro ⟨w, found, h⟩
      exact .types found h
    · rintro (noMap | ⟨found, h⟩)
      · exact absurd ⟨gs, rfl⟩ noMap
      · exact ⟨_, found, h⟩

theorem Snapshot.reads_groups (cluster : Value) :
    ReadsForm (GarbledLogging cluster) (groups cluster) := by
  by_cases isMap : cluster.IsMap
  case neg =>
    have unread : ReadsForm True (groups cluster) := by
      cases cluster with
      | map es => exact absurd ⟨es, rfl⟩ isMap
      | _ => exact .form _ (by simp [formKinds]) trivial
    exact unread.congr ⟨fun _ => .noMap isMap, fun _ => trivial⟩
  case pos =>
    obtain ⟨cs, rfl⟩ := isMap
    refine (Payload.reads_part (J := GarbledGroups) ?_ (fun ls => ?_)
      fun v noMap => Payload.reads_field_bind noMap _).congr ?_
    · rintro (⟨found, -⟩ | ⟨found, -⟩) <;> cases found
    · rw [Payload.field_map]
      refine ((Payload.reads_elements _).bind fun parts _ =>
        Reads.mapM LogGroup.reads_ofPayload parts).congr ?_
      rw [indivisible_getD]
      constructor
      · rintro (⟨v, found, h⟩ | ⟨parts, listed, g, mem, h⟩)
        · exact .list found h
        · cases found : Value.find? ls "clusterLogging" with
          | none =>
            rw [found] at listed
            obtain rfl := Except.ok.inj listed
            cases mem
          | some v =>
            rw [found] at listed
            exact .group found listed mem h
      · rintro (⟨found, h⟩ | ⟨found, listed, mem, h⟩)
        · exact .inl ⟨_, found, h⟩
        · exact .inr ⟨_, by rw [found]; exact listed, _, mem, h⟩
    · constructor
      · rintro (misplaced | ⟨ls, found, h⟩)
        · exact .misplaced misplaced
        · exact .groups found h
      · rintro (noMap | misplaced | ⟨found, h⟩)
        · exact absurd ⟨cs, rfl⟩ noMap
        · exact .inl misplaced
        · exact .inr ⟨_, found, h⟩

theorem Snapshot.reads_ofPayload (cluster : Value) :
    ReadsForm (GarbledLogging cluster) (ofPayload cluster) := by
  have read := reads_groups cluster
  by_cases isMap : cluster.IsMap
  case neg =>
    refine (read.bind (J := fun _ => False) fun groups made => ?_).congr (by simp)
    exact absurd (.noMap isMap) (read.clear_of_ok made)
  case pos =>
    obtain ⟨cs, rfl⟩ := isMap
    exact (read.bind (J := fun _ => False) fun groups _ => .value _ not_false).congr (by simp)

/-! ## Facilities -/

theorem not_unnamed_nil : ¬ Unnamed [] := fun h => nomatch h

theorem unnamed_cons {v : Value} {vs : List Value} :
    Unnamed (v :: vs) ↔ v.isKey = false ∨ v ≠ .null ∧ Unnamed vs := by
  constructor
  · rintro (h | ⟨h, rest⟩)
    · exact .inl h
    · exact .inr ⟨h, rest⟩
  · rintro (h | ⟨h, rest⟩)
    · exact .here h
    · exact .later h rest

theorem Snapshot.reads_facility (v : Value) :
    Reads Cause.Complains (v.isKey = false) (facility v) := by
  cases v with
  | null => exact .complaint (.inl ⟨_, rfl⟩) (by simp [Value.isKey])
  | list | map | set => exact .form _ (by simp [formKinds]) rfl
  | _ => exact .value _ (by simp [Value.isKey])

theorem Snapshot.exists_facility_iff {v : Value} :
    (∃ n, facility v = .ok n) ↔ v.isKey = true ∧ v ≠ .null := by
  cases v <;> simp [facility, Value.isKey]

theorem Snapshot.reads_facilities (vs : List Value) :
    Reads Cause.Complains (Unnamed vs) (vs.mapM facility) := by
  induction vs with
  | nil => exact .value [] not_unnamed_nil
  | cons v vs ih =>
    rw [List.mapM_cons]
    refine ((reads_facility v).bind fun n _ => ih.map (f := (n :: ·))).congr ?_
    rw [unnamed_cons, exists_and_right, exists_facility_iff]
    cases v.isKey <;> simp

theorem Snapshot.unnamed_append {vs ws : List Value} :
    Unnamed (vs ++ ws) ↔ Unnamed vs ∨ (∃ ns, vs.mapM facility = .ok ns) ∧ Unnamed ws := by
  induction vs with
  | nil => simp [not_unnamed_nil, pure, Except.pure]
  | cons v vs ih =>
    have named : (∃ ns, (v :: vs).mapM facility = .ok ns) ↔
        (v.isKey = true ∧ v ≠ .null) ∧ ∃ ns, vs.mapM facility = .ok ns := by
      rw [← exists_facility_iff, List.mapM_cons]
      cases facility v <;> cases vs.mapM facility <;>
        simp [bind, Except.bind, pure, Except.pure]
    rw [List.cons_append, unnamed_cons, unnamed_cons, ih, named]
    cases v.isKey with
    | false => simp
    | true =>
      simp only [Bool.true_eq_false, false_or, true_and]
      tauto

/-- The facilities of all groups are read in their order. -/
theorem Snapshot.reads_named : ∀ groups : List LogGroup,
    Reads Cause.Complains (Unnamed (groups.flatMap LogGroup.types)) (named groups)
  | [] => .value [] not_unnamed_nil
  | g :: groups => by
    rw [named, List.mapM_cons]
    refine (((reads_facilities g.types).map (f := fun ns => (ns, g.enabled))).bind fun b _ =>
      (reads_named groups).map (f := (b :: ·))).congr ?_
    rw [List.flatMap_cons, unnamed_append, exists_and_right]
    refine or_congr_right (and_congr_left fun _ => ?_)
    cases g.types.mapM facility <;> simp [Except.map]

/-! ## Answers -/

namespace Provider

/-- What is read of the description of a cluster that has to be active. -/
def loggingIn (name : String) (reply : Value) : Except Cause Facility.Observed :=
  Payload.required reply "cluster" >>= Snapshot.ofPayload >>= fun s =>
    requireActive name s >>= Snapshot.observed

theorem reads_loggingIn (name : String) (es : List (Value × Value)) :
    Reads Cause.Complains (GarbledCluster es) (loggingIn name (.map es)) := by
  unfold loggingIn Payload.required
  dsimp only
  cases found : Value.find? es "cluster" with
  | none => exact .form _ (by simp [formKinds]) (.lacking found)
  | some v =>
    have active (s : Snapshot) : Reads Cause.Complains
        (s.status = .text "ACTIVE" ∧ Unnamed (s.logging.flatMap LogGroup.types))
        (requireActive name s >>= Snapshot.observed) := by
      unfold requireActive
      split
      case isTrue h =>
        refine (Snapshot.reads_named s.logging).map.congr ?_
        rw [Value.same_text_iff.1 h]
        simp
      case isFalse h =>
        exact .complaint (.inr ⟨_, _, rfl⟩) fun broken => h (Value.same_text_iff.2 broken.1)
    refine ((Snapshot.reads_ofPayload v).of_form.bind fun s _ => active s).congr ?_
    constructor
    · rintro (h | ⟨s, read, active, h⟩)
      · exact .logging found h
      · exact .facility found read active h
    · rintro (h | ⟨found', h⟩ | ⟨found', read, active, h⟩)
      · cases found.symm.trans h
      · obtain rfl := Option.some.inj (found.symm.trans found')
        exact .inl h
      · obtain rfl := Option.some.inj (found.symm.trans found')
        exact .inr ⟨_, read, active, h⟩

end Provider

/-- A call is answered, and how. -/
def Call.Ends (c : Call) (o : Outcome Value) : Prop := c.reply.delay ≠ none ∧ c.reply.outcome = o

/-- An operation that makes a call and reads its answer fails as a provider does. A fault is a
failure of the provider, and tells that something was not found exactly if the cloud said so. Data
give a value or a complaint, unless they are garbled: then, and only then, a failure about their
form comes out. -/
structure Typed (p : Provider σ) (r : Request) (Garbled : List (Value × Value) → Prop)
    (x : Op (Account σ) α) : Prop where
  refused : ∀ s f, (p.made r s).Ends (.failed (.fault f)) → ∃ c, (x s).1 = .failed c ∧
    c.isProvider = true ∧ ((∃ text, c = .notFound text) ↔ f.isNotFound = true)
  legible : ∀ s es, (p.made r s).Ends (.done (.map es)) → ¬ Garbled es →
    (∃ a, (x s).1 = .done a) ∨ ∃ c, (x s).1 = .failed c ∧ c.isProvider = true ∧ c.Complains
  garbled : ∀ s es, (p.made r s).Ends (.done (.map es)) → Garbled es →
    ∃ kind text, (x s).1 = .failed (.other kind text) ∧ kind ∈ formKinds

namespace Provider

theorem ask_ends {p : Provider σ} {r : Request} {s : Session (Account σ)} {o : Outcome Value}
    (h : (p.made r s).Ends o) (purpose : String) :
    (p.ask purpose r s).1 = wordedOutcome purpose o := by
  obtain ⟨d, delay⟩ := Option.ne_none_iff_exists'.1 h.1
  rw [ask_eq, delay, ← h.2]

theorem isProvider_worded (purpose : String) (f : Fault) :
    (worded purpose (.fault f)).isProvider = true ∧
      ((∃ text, worded purpose (.fault f) = .notFound text) ↔ f.isNotFound = true) := by
  unfold worded
  dsimp only
  split
  case isTrue found => simp [Cause.isProvider, found]
  case isFalse found => simp [Cause.isProvider, found]

theorem typed_ask {p : Provider σ} {purpose : String} {r : Request}
    {Garbled : List (Value × Value) → Prop} {read : Value → Except Cause α}
    (reads : ∀ es, Reads Cause.Complains (Garbled es) (read (.map es))) :
    Typed p r Garbled (p.ask purpose r >>= fun v => Op.ofExcept (read v)) := by
  have answered {s es} (h : (p.made r s).Ends (.done (.map es))) :
      ((p.ask purpose r >>= fun v => Op.ofExcept (read v)) s).1
        = Outcome.ofExcept (read (.map es)) := by
    rw [Op.bind_of_done (Prod.ext (ask_ends h purpose) rfl)]
    rfl
  refine ⟨fun s f h => ?refused, fun s es h clear => ?legible, fun s es h broken => ?garbled⟩
  case refused =>
    have failed := Op.bind_of_failed (Prod.ext (ask_ends h purpose) rfl)
      fun v => Op.ofExcept (read v)
    exact ⟨_, congrArg Prod.fst failed, isProvider_worded purpose f⟩
  case legible =>
    rw [answered h]
    have comes := reads es
    generalize read (.map es) = result at comes
    cases comes with
    | value a => exact .inl ⟨a, rfl⟩
    | complaint complains => exact .inr ⟨_, rfl, complains.isProvider, complains⟩
    | form _ _ broken => exact absurd broken clear
  case garbled =>
    rw [answered h]
    have comes := reads es
    generalize read (.map es) = result at comes
    cases comes with
    | value _ clear | complaint _ clear => exact absurd broken clear
    | form text listed => exact ⟨_, text, rfl, listed⟩

theorem currentLogging_eq (p : Provider σ) (name : String) : p.currentLogging name =
    p.ask (toDescribe name) (.describeCluster name) >>=
      fun v => Op.ofExcept (loggingIn name v) := by
  unfold currentLogging describeActive describe
  rw [Op.bind_ofExcept_bind, Op.bind_ofExcept_bind]
  rfl

/-- **Failures of a provider are its own, but for garbled answers.** Whatever is asked for, every
fault of the cloud becomes a failure of the provider, which tells of something that was not found
exactly if the cloud said so, and every answer gives a value or a complaint, unless it is garbled.
A garbled answer, and no other, comes out as a failure about the form of the data. -/
theorem replies_typed (p : Provider σ) (name version : String) (enabled disabled : List String)
    (update : Value) :
    Typed p (.describeCluster name) GarbledCluster (p.currentLogging name) ∧
      Typed p (.updateLogging name enabled disabled) (Misplaced · "update")
        (p.updateLogging name enabled disabled) ∧
      Typed p (.updateVersion name version) (Misplaced · "update")
        (p.updateVersion name version) ∧
      Typed p (.describeUpdate name update) (Misplaced · "update")
        (p.describeUpdate name update) := by
  refine ⟨?_, typed_ask Handle.reads_ofPayload, typed_ask Handle.reads_ofPayload,
    typed_ask (reads_updateStatus update)⟩
  rw [currentLogging_eq]
  exact typed_ask (reads_loggingIn name)

/-- The description of a cluster without the cluster fails because of its form. -/
theorem replies_formless :
    let cloud : Cloud Unit :=
      ⟨fun _ _ => (.done (), ()), fun _ _ _ _ => (⟨some 0, .done (.map [])⟩, ())⟩
    let p : Provider Unit := ⟨cloud, .binary64, .forRegion "eu-west-1"⟩
    (p.currentLogging "demo" ⟨0, .new (), []⟩).1 = .failed (.other "KeyError" "'cluster'") ∧
      (Cause.other "KeyError" "'cluster'").isProvider = false := by
  decide +kernel

end Provider

end ClusterOps
