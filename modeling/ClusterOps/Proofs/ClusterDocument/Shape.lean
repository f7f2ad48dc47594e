import ClusterOps.ClusterDocument
import ClusterOps.Proofs.Json.Data

/-
What a document may look like, said without the reader. The shape of a document is
data: for each field the keys that it may stand under, and the shape of what stands there.
A value violates its shape at certain places (`Violates`). Each place has a number that
tells its turn: fields are numbered in the order of the shape, the items of a list and the
entries of an object in their own order, and a number counts before another as words do
in a dictionary.

A value that violates nothing fits its shape, and `fits_document_iff` says in full which
objects fit the shape of a document.
-/

namespace ClusterOps.ClusterDocument

/-! ## The fields of an object -/

variable {entries : List (Value × Value)}

/-- An object gives a field under the first of its keys that it has. -/
inductive Gives (entries : List (Value × Value)) : List String → String → Value → Prop
  | first {key : String} {keys : List String} {v : Value} :
      (.text key, v) ∈ entries → Gives entries (key :: keys) key v
  | later {key given : String} {keys : List String} {v : Value} :
      (∀ w, (.text key, w) ∉ entries) → Gives entries keys given v →
      Gives entries (key :: keys) given v

/-- An object has none of some keys. -/
def Lacks (entries : List (Value × Value)) (keys : List String) : Prop :=
  ∀ key ∈ keys, ∀ v, (.text key, v) ∉ entries

theorem gives_single {key given : String} {v : Value} :
    Gives entries [key] given v ↔ given = key ∧ (.text key, v) ∈ entries := by
  constructor
  · intro h
    cases h with
    | first mem => exact ⟨rfl, mem⟩
    | later _ h => cases h
  · rintro ⟨rfl, mem⟩
    exact .first mem

theorem Gives.mem {keys : List String} {given : String} {v : Value}
    (h : Gives entries keys given v) : given ∈ keys ∧ (.text given, v) ∈ entries := by
  induction h with
  | first mem => exact ⟨List.mem_cons_self, mem⟩
  | later _ _ ih => exact ⟨List.mem_cons_of_mem _ ih.1, ih.2⟩

/-! ## Shapes -/

/-- A field: its key, the keys that it may stand under instead, and what has to stand there. -/
structure Field (σ : Type) where
  key : String
  spare : List String
  required : Bool
  shape : σ

/-- The keys of a field; the first one that an object has counts. -/
def Field.keys {σ : Type} (f : Field σ) : List String := f.key :: f.spare

/-- What a value has to be: a text, a text that is a name or a kind, a list or an object of texts, a
value of a shape or null, or an object with certain fields. -/
inductive Shape where
  | text
  | name
  | kind
  | texts
  | tags
  | orNull (shape : Shape)
  | object (title : String) (fields : List (Field Shape))

/-- What a value violates of its shape, and where: the number of the place, and the keys and indices
that lead to it. Only a name has to be free of halves. -/
inductive Violates : Shape → Value → List Nat → Issue → Prop
  | text {v : Value} : ¬ v.IsText → Violates .text v [] ⟨[], .notText⟩
  | name {v : Value} : ¬ v.IsText → Violates .name v [] ⟨[], .notText⟩
  | brokenName (h : Text.Halves) : Violates .name (.halves h) [] ⟨[], .brokenText⟩
  | emptyName : Violates .name (.text "") [] ⟨[], .emptyName⟩
  | longName {s : String} : maxNameLength < s.length → Violates .name (.text s) [] ⟨[], .longName⟩
  | kind {v : Value} : ¬ v.IsText → Violates .kind v [] ⟨[], .notText⟩
  | wrongKind {v : Value} : v.IsText → v ≠ .text onlyKind →
      Violates .kind v [] ⟨[], .wrongKind v.display⟩
  | notList {v : Value} : (∀ items, v ≠ .list items) → Violates .texts v [] ⟨[], .notList⟩
  | item {items : List Value} {n : Nat} {v : Value} : items[n]? = some v → ¬ v.IsText →
      Violates .texts (.list items) [n] ⟨[toString n], .notText⟩
  | notMap {v : Value} : (∀ entries, v ≠ .map entries) → Violates .tags v [] ⟨[], .notMap⟩
  | tag {entries : List (Value × Value)} {n : Nat} {key v : Value} :
      entries[n]? = some (key, v) → ¬ v.IsText →
      Violates .tags (.map entries) [n] ⟨[keyName key], .notText⟩
  | orNull {shape : Shape} {v : Value} {n : List Nat} {i : Issue} :
      v ≠ .null → Violates shape v n i → Violates (.orNull shape) v n i
  | notObject {title : String} {fields : List (Field Shape)} {v : Value} :
      (∀ entries, v ≠ .map entries) → Violates (.object title fields) v [] ⟨[], .notSection title⟩
  | missing {title : String} {fields : List (Field Shape)} {entries : List (Value × Value)}
      {n : Nat} {f : Field Shape} : fields[n]? = some f → f.required = true → Lacks entries f.keys →
      Violates (.object title fields) (.map entries) [n] ⟨[f.key], .missing⟩
  | field {title : String} {fields : List (Field Shape)} {entries : List (Value × Value)}
      {n : Nat} {f : Field Shape} {key : String} {v : Value} {m : List Nat} {place : List String}
      {flaw : Flaw} :
      fields[n]? = some f → Gives entries f.keys key v → Violates f.shape v m ⟨place, flaw⟩ →
      Violates (.object title fields) (.map entries) (n :: m) ⟨key :: place, flaw⟩

/-- The fields of an identity. -/
def identityFields : List (Field Shape) :=
  [⟨"name", [], true, .name⟩, ⟨"region", [], false, .text⟩, ⟨"version", [], false, .orNull .text⟩,
    ⟨"tags", [], false, .tags⟩]

/-- The fields of the section on facilities. -/
def facilityFields : List (Field Shape) := [⟨"enableTypes", ["enable_types"], false, .texts⟩]

/-- The fields of the section on logging. -/
def loggingFields : List (Field Shape) :=
  [⟨"clusterLogging", ["cluster_logging"], false, .object "ClusterLogging" facilityFields⟩]

/-- The fields of a document. -/
def documentFields : List (Field Shape) :=
  [⟨"apiVersion", ["api_version"], false, .text⟩, ⟨"kind", [], false, .kind⟩,
    ⟨"metadata", [], true, .object "ClusterMeta" identityFields⟩,
    ⟨"cloudWatch", ["cloud_watch"], false, .orNull (.object "ClusterCloudWatch" loggingFields)⟩]

/-- The shape of a document. -/
def documentShape : Shape := .object "ClusterConfig" documentFields

/-! ## Values that fit -/

/-- A value violates nothing of a shape. -/
def Fits (shape : Shape) (v : Value) : Prop := ∀ n i, ¬ Violates shape v n i

theorem fits_text {v : Value} : Fits .text v ↔ v.IsText := by
  constructor
  · intro fits
    by_contra other
    exact fits _ _ (.text other)
  · rintro text _ _ (_ | _)
    rename_i other
    exact other text

theorem fits_name {v : Value} :
    Fits .name v ↔ ∃ s, v = .text s ∧ 1 ≤ s.length ∧ s.length ≤ maxNameLength := by
  constructor
  · intro fits
    by_cases text : v.IsText
    · cases text with
      | text s =>
        refine ⟨s, rfl, ?_, ?_⟩
        · by_contra short
          obtain rfl : s = "" := by simpa using short
          exact fits _ _ .emptyName
        · by_contra long
          exact fits _ _ (.longName (by omega))
      | halves h => exact absurd (.brokenName h) (fits _ _)
    · exact absurd (.name text) (fits _ _)
  · rintro ⟨s, rfl, named, short⟩ _ _ violated
    cases violated with
    | name other => exact other (.text s)
    | emptyName => simp at named
    | longName long => omega

theorem fits_kind {v : Value} : Fits .kind v ↔ v = .text onlyKind := by
  constructor
  · intro fits
    by_cases text : v.IsText
    · by_contra other
      exact fits _ _ (.wrongKind text other)
    · exact absurd (.kind text) (fits _ _)
  · rintro rfl _ _ violated
    cases violated with
    | kind other => exact other (.text _)
    | wrongKind _ other => exact other rfl

theorem fits_texts {v : Value} :
    Fits .texts v ↔ ∃ items, v = .list items ∧ ∀ w ∈ items, w.IsText := by
  constructor
  · intro fits
    by_cases list : ∃ items, v = .list items
    · obtain ⟨items, rfl⟩ := list
      refine ⟨items, rfl, fun w hw => ?_⟩
      obtain ⟨n, hn⟩ := List.mem_iff_getElem?.1 hw
      by_contra other
      exact fits _ _ (.item hn other)
    · exact absurd (.notList fun items same => list ⟨items, same⟩) (fits _ _)
  · rintro ⟨items, rfl, texts⟩ _ _ violated
    cases violated with
    | notList other => exact other items rfl
    | item hn other => exact other (texts _ (List.mem_of_getElem? hn))

theorem fits_tags {v : Value} :
    Fits .tags v ↔ ∃ tags, v = .map tags ∧ ∀ tag ∈ tags, tag.2.IsText := by
  constructor
  · intro fits
    by_cases map : ∃ tags, v = .map tags
    · obtain ⟨tags, rfl⟩ := map
      refine ⟨tags, rfl, fun (key, w) hw => ?_⟩
      obtain ⟨n, hn⟩ := List.mem_iff_getElem?.1 hw
      by_contra other
      exact fits _ _ (.tag hn other)
    · exact absurd (.notMap fun tags same => map ⟨tags, same⟩) (fits _ _)
  · rintro ⟨tags, rfl, texts⟩ _ _ violated
    cases violated with
    | notMap other => exact other tags rfl
    | tag hn other => exact other (texts _ (List.mem_of_getElem? hn))

theorem fits_orNull {shape : Shape} {v : Value} :
    Fits (.orNull shape) v ↔ v = .null ∨ Fits shape v := by
  constructor
  · intro fits
    by_cases null : v = .null
    · exact .inl null
    · exact .inr fun n i violated => fits n i (.orNull null violated)
  · rintro (rfl | fits) n i (_ | _)
    case inl.orNull other _ => exact other rfl
    case inr.orNull _ violated => exact fits n i violated

/-- What an object gives for a field fits, and it has the field if it must. -/
structure FieldFits (entries : List (Value × Value)) (f : Field Shape) : Prop where
  given : f.required = true → ¬ Lacks entries f.keys
  fits : ∀ key v, Gives entries f.keys key v → Fits f.shape v

theorem fits_object {title : String} {fields : List (Field Shape)} {v : Value} :
    Fits (.object title fields) v
      ↔ ∃ entries, v = .map entries ∧ ∀ f ∈ fields, FieldFits entries f := by
  constructor
  · intro fits
    by_cases map : ∃ entries, v = .map entries
    · obtain ⟨entries, rfl⟩ := map
      refine ⟨entries, rfl, fun f hf => ?_⟩
      obtain ⟨n, hn⟩ := List.mem_iff_getElem?.1 hf
      exact ⟨fun required lacks => fits _ _ (.missing hn required lacks),
        fun key w gives m i violated => fits _ _ (.field hn gives violated)⟩
    · exact absurd (.notObject fun entries same => map ⟨entries, same⟩) (fits _ _)
  · rintro ⟨entries, rfl, all⟩ _ _ violated
    cases violated with
    | notObject other => exact other entries rfl
    | missing hn required lacks => exact (all _ (List.mem_of_getElem? hn)).given required lacks
    | field hn gives violated => exact (all _ (List.mem_of_getElem? hn)).fits _ _ gives _ _ violated

/-! ## Objects that fit a document -/

theorem fieldFits_free {key : String} {spare : List String} {shape : Shape} :
    FieldFits entries ⟨key, spare, false, shape⟩
      ↔ ∀ given v, Gives entries (key :: spare) given v → Fits shape v :=
  ⟨fun h => h.fits, fun h => ⟨nofun, h⟩⟩

theorem fieldFits_single {key : String} {shape : Shape} :
    FieldFits entries ⟨key, [], false, shape⟩ ↔ ∀ v, (.text key, v) ∈ entries → Fits shape v :=
  ⟨fun h v mem => h.fits key v (.first mem),
    fun h => ⟨nofun, fun _ v gives => h v (gives_single.1 gives).2⟩⟩

/-- A key of a JSON object has one value. -/
theorem eq_of_mem (unique : (entries.map Prod.fst).Nodup) {k v w : Value} (hv : (k, v) ∈ entries)
    (hw : (k, w) ∈ entries) : v = w :=
  congrArg Prod.snd (List.inj_on_of_nodup_map unique hv hw rfl)

theorem fieldFits_required (unique : (entries.map Prod.fst).Nodup) {key : String} {shape : Shape} :
    FieldFits entries ⟨key, [], true, shape⟩ ↔ ∃ v, (.text key, v) ∈ entries ∧ Fits shape v := by
  constructor
  · intro ⟨given, fits⟩
    have lacks : ¬ Lacks entries [key] := given rfl
    obtain ⟨v, mem⟩ : ∃ v, (Value.text key, v) ∈ entries := by simpa [Lacks] using lacks
    exact ⟨v, mem, fits key v (.first mem)⟩
  · rintro ⟨v, mem, fits⟩
    refine ⟨fun _ lacks => lacks key List.mem_cons_self v mem, fun given w gives => ?_⟩
    obtain ⟨-, other⟩ := gives_single.1 gives
    rwa [eq_of_mem unique other mem]

/-- What is accepted as an identity. -/
structure AcceptableIdentity (entries : List (Value × Value)) : Prop where
  name : ∃ s, (.text "name", .text s) ∈ entries ∧ 1 ≤ s.length ∧ s.length ≤ 100
  region : ∀ v, (.text "region", v) ∈ entries → v.IsText
  version : ∀ v, (.text "version", v) ∈ entries → v = .null ∨ v.IsText
  tags : ∀ v, (.text "tags", v) ∈ entries → ∃ tags, v = .map tags ∧ ∀ tag ∈ tags, tag.2.IsText

/-- What is accepted as a section on facilities. -/
def AcceptableFacilities (entries : List (Value × Value)) : Prop :=
  ∀ key v, Gives entries ["enableTypes", "enable_types"] key v →
    ∃ items, v = .list items ∧ ∀ w ∈ items, w.IsText

/-- What is accepted as a section on logging. -/
def AcceptableLogging (entries : List (Value × Value)) : Prop :=
  ∀ key v, Gives entries ["clusterLogging", "cluster_logging"] key v →
    ∃ facilities, v = .map facilities ∧ AcceptableFacilities facilities

/-- What is accepted as a document. -/
structure Acceptable (entries : List (Value × Value)) : Prop where
  apiVersion : ∀ key v, Gives entries ["apiVersion", "api_version"] key v → v.IsText
  kind : ∀ v, (.text "kind", v) ∈ entries → v = .text "ClusterConfig"
  metadata : ∃ identity, (.text "metadata", .map identity) ∈ entries ∧ AcceptableIdentity identity
  cloudWatch : ∀ key v, Gives entries ["cloudWatch", "cloud_watch"] key v →
    v = .null ∨ ∃ logging, v = .map logging ∧ AcceptableLogging logging

theorem fits_identity_iff (unique : (entries.map Prod.fst).Nodup) :
    (∀ f ∈ identityFields, FieldFits entries f) ↔ AcceptableIdentity entries := by
  simp only [identityFields, List.forall_mem_cons, List.not_mem_nil, false_imp_iff, implies_true,
    and_true, fieldFits_required unique, fieldFits_single, fits_name, fits_text, fits_orNull,
    fits_tags]
  constructor
  · rintro ⟨⟨_, mem, s, rfl, named, short⟩, region, version, tags⟩
    exact ⟨⟨s, mem, named, short⟩, region, version, tags⟩
  · rintro ⟨⟨s, mem, named, short⟩, region, version, tags⟩
    exact ⟨⟨_, mem, s, rfl, named, short⟩, region, version, tags⟩

theorem fits_facilities_iff :
    (∀ f ∈ facilityFields, FieldFits entries f) ↔ AcceptableFacilities entries := by
  simp only [facilityFields, List.forall_mem_singleton, fieldFits_free, fits_texts,
    AcceptableFacilities]

theorem fits_logging_iff :
    (∀ f ∈ loggingFields, FieldFits entries f) ↔ AcceptableLogging entries := by
  simp only [loggingFields, List.forall_mem_singleton, fieldFits_free, fits_object,
    fits_facilities_iff, AcceptableLogging]

/-- Which objects fit the shape of a document. -/
theorem fits_document_iff {broken : Prop} (json : Value.IsJson broken (.map entries)) :
    Fits documentShape (.map entries) ↔ Acceptable entries := by
  have unique := json.unique
  have fields : Fits documentShape (.map entries) ↔ ∀ f ∈ documentFields, FieldFits entries f := by
    simp only [documentShape, fits_object, Value.map.injEq, exists_eq_left']
  rw [fields]
  simp only [documentFields, List.forall_mem_cons, List.not_mem_nil, false_imp_iff, implies_true,
    and_true, fieldFits_required unique, fieldFits_single]
  simp only [fieldFits_free, fits_text, fits_kind, fits_orNull, fits_object, fits_logging_iff]
  constructor
  · rintro ⟨apiVersion, kind, ⟨_, mem, identity, rfl, fits⟩, cloudWatch⟩
    have accepted := (fits_identity_iff (json.of_mem mem).unique).1 fits
    exact ⟨apiVersion, kind, ⟨identity, mem, accepted⟩, cloudWatch⟩
  · rintro ⟨apiVersion, kind, ⟨identity, mem, accepted⟩, cloudWatch⟩
    have fits := (fits_identity_iff (json.of_mem mem).unique).2 accepted
    exact ⟨apiVersion, kind, ⟨_, mem, identity, rfl, fits⟩, cloudWatch⟩

end ClusterOps.ClusterDocument
