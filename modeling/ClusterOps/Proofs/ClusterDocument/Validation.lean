import ClusterOps.Proofs.ClusterDocument.Flaws

/-
Validating a document tells exactly what is wrong with it (`validate_exact`). What is
read of its entries is told beside the reader; here the places of the flaws are told
apart by their keys, and the kind is looked at first: one that cannot be encoded ends the
validation before anything is told.

Halves count as characters of a text, but a name with halves is refused, whatever its length,
and keys with halves are blurred in the place of a flaw, so that two places may look the
same (`validate_halves`).
-/

namespace ClusterOps.ClusterDocument

variable {V : List Nat → Issue → Prop} {entries : List (Value × Value)}
  {parts : List (String × (List Nat → Issue → Prop))} {k : Nat}

/-! ## Distinct places -/

/-- A place has one number. -/
def Placed (V : List Nat → Issue → Prop) : Prop :=
  ∀ m n i j, V m i → V n j → i.place = j.place → m = n

/-- Where a place has one number, what is violated is listed with distinct places. -/
theorem Lists.nodup {issues : List Issue} (lists : Lists V issues) (placed : Placed V) :
    (issues.map Issue.place).Nodup := by
  obtain ⟨numbered, rfl, order, members⟩ := lists
  rw [List.map_map, List.Nodup, List.pairwise_map]
  refine order.imp_of_mem fun {p q} hp hq before same => ?_
  have here : p.1 = q.1 :=
    placed p.1 q.1 p.2 q.2 ((members p.1 p.2).1 hp) ((members q.1 q.2).1 hq) same
  exact List.lt_irrefl q.1 (here ▸ before)

/-- Parts under distinct keys have distinct places if each has. -/
theorem placed_among (keys : (parts.map Prod.fst).Nodup) (inside : ∀ part ∈ parts, Placed part.2) :
    Placed (Among k parts) := by
  rintro _ _ i j ⟨a, part, m, rest, found, rfl, place, violated⟩
    ⟨b, other, n, rest', found', rfl, place', violated'⟩ same
  obtain ⟨key, below⟩ : part.1 = other.1 ∧ rest = rest' := by
    rw [place, place'] at same
    exact List.cons.inj same
  obtain rfl : a = b := by
    have present : a < (parts.map Prod.fst).length := by
      rw [List.length_map]
      exact (List.getElem?_eq_some_iff.1 found).1
    refine (List.getElem?_inj present keys).1 ?_
    rw [List.getElem?_map, List.getElem?_map, found, found', Option.map_some, Option.map_some, key]
  obtain rfl : part = other := Option.some.inj (found.symm.trans found')
  rw [inside part (List.mem_of_getElem? found) m n _ _ violated violated' below]

/-- Places in values of a shape have one number, if no halves blur their keys. -/
def Shape.Placed (shape : Shape) : Prop :=
  ∀ v, v.IsJson False → ClusterDocument.Placed (Violates shape v)

theorem placed_text (v : Value) : Placed (Violates .text v) := by
  rintro _ _ _ _ ⟨⟩ ⟨⟩ _
  rfl

theorem placed_name : Shape.name.Placed := by
  intro v _ m n i j hi hj _
  cases hi <;> cases hj <;> rfl

theorem placed_kind : Shape.kind.Placed := by
  intro v _ m n i j hi hj _
  cases hi <;> cases hj <;> rfl

theorem placed_texts : Shape.texts.Placed := by
  intro v _ m n i j hi hj same
  by_cases list : ∃ items, v = .list items
  · obtain ⟨items, rfl⟩ := list
    have keys : ((itemParts items 0).map Prod.fst).Nodup := by
      have numbers : (itemParts items 0).map Prod.fst
          = ((items.zipIdx 0).map Prod.snd).map toString := by
        simp only [itemParts, List.map_map]
        rfl
      rw [numbers, List.zipIdx_map_snd]
      exact (List.nodup_range' ..).map fun _ _ => Text.toString_injective
    have inside : ∀ part ∈ itemParts items 0, Placed part.2 :=
      List.forall_mem_map.2 fun item _ => placed_text item.1
    exact placed_among keys inside m n i j (violates_texts_iff.1 hi) (violates_texts_iff.1 hj) same
  · cases hi with
    | notList =>
      cases hj with
      | notList => rfl
      | item => exact absurd ⟨_, rfl⟩ list
    | item => exact absurd ⟨_, rfl⟩ list

theorem placed_tags : Shape.tags.Placed := by
  intro v json m n i j hi hj same
  by_cases map : ∃ tags, v = .map tags
  · obtain ⟨tags, rfl⟩ := map
    have keys : ((tagParts tags).map Prod.fst).Nodup := by
      have names : (tagParts tags).map Prod.fst = (tags.map Prod.fst).map keyName := by
        simp only [tagParts, List.map_map]
        rfl
      rw [names]
      refine json.unique.map_on fun key hkey other hother same => ?_
      obtain ⟨tag, mem, rfl⟩ := List.mem_map.1 hkey
      obtain ⟨tag', mem', rfl⟩ := List.mem_map.1 hother
      obtain ⟨s, text⟩ := json.exists_text mem
      obtain ⟨s', text'⟩ := json.exists_text mem'
      rw [text, text'] at same ⊢
      exact congrArg Value.text same
    have inside : ∀ part ∈ tagParts tags, Placed part.2 :=
      List.forall_mem_map.2 fun tag _ => placed_text tag.2
    exact placed_among keys inside m n i j (violates_tags_iff.1 hi) (violates_tags_iff.1 hj) same
  · cases hi with
    | notMap =>
      cases hj with
      | notMap => rfl
      | tag => exact absurd ⟨_, rfl⟩ map
    | tag => exact absurd ⟨_, rfl⟩ map

theorem Shape.Placed.orNull {shape : Shape} (h : shape.Placed) : (Shape.orNull shape).Placed := by
  intro v json m n i j hi hj same
  cases hi with
  | orNull _ violated =>
    cases hj with
    | orNull _ violated' => exact h v json m n i j violated violated' same

/-- The fields of an object have distinct places if no key belongs to two of them. -/
theorem placed_object {title : String} {fields : List (Field Shape)}
    (apart : fields.Pairwise fun f g => ∀ key ∈ f.keys, key ∉ g.keys)
    (inside : ∀ f ∈ fields, f.shape.Placed) : (Shape.object title fields).Placed := by
  intro v json m n i j hi hj same
  by_cases map : ∃ entries, v = .map entries
  · obtain ⟨entries, rfl⟩ := map
    have unique := json.unique
    have keys : ((fields.map (fieldPart entries)).map Prod.fst).Nodup := by
      rw [List.map_map, List.Nodup, List.pairwise_map]
      refine apart.imp fun {f g} others same => ?_
      have same : (fieldPart entries f).1 = (fieldPart entries g).1 := same
      have shared : (fieldPart entries g).1 ∈ f.keys := same ▸ fieldPart_fst_mem unique f
      exact others _ shared (fieldPart_fst_mem unique g)
    have parts : ∀ part ∈ fields.map (fieldPart entries), ClusterDocument.Placed part.2 := by
      refine List.forall_mem_map.2 fun f hf => ?_
      rcases gives_or_lacks unique f.keys with ⟨key, w, gives⟩ | lacks
      · rw [fieldPart_of_gives unique gives]
        exact inside f hf w (json.of_mem gives.mem.2)
      · rw [fieldPart_of_lacks unique lacks]
        rintro _ _ _ _ ⟨_, rfl, _⟩ ⟨_, rfl, _⟩ _
        rfl
    exact placed_among keys parts m n i j ((violates_object_iff unique).1 hi)
      ((violates_object_iff unique).1 hj) same
  · cases hi with
    | notObject =>
      cases hj with
      | notObject => rfl
      | missing | field => exact absurd ⟨_, rfl⟩ map
    | missing | field => exact absurd ⟨_, rfl⟩ map

theorem placed_document : documentShape.Placed := by
  have text : Shape.text.Placed := fun v _ => placed_text v
  have identity : (Shape.object "ClusterMeta" identityFields).Placed := by
    refine placed_object (by decide) ?_
    simp [identityFields, placed_name, text, text.orNull, placed_tags]
  have facilities : (Shape.object "ClusterLogging" facilityFields).Placed := by
    refine placed_object (by decide) ?_
    simp [facilityFields, placed_texts]
  have logging : (Shape.object "ClusterCloudWatch" loggingFields).Placed := by
    refine placed_object (by decide) ?_
    simp [loggingFields, facilities]
  refine placed_object (by decide) ?_
  simp [documentFields, text, placed_kind, identity, logging.orNull]

/-! ## Validation -/

/-- A kind without halves leaves the validation to the reader. -/
theorem validate_of_wholeKind (unique : (entries.map Prod.fst).Nodup)
    (whole : ∀ h, (.text "kind", .halves h) ∉ entries) :
    validate entries = (ofEntries entries).mapError .flaws := by
  unfold validate
  split
  case h_1 key h found =>
    have gives := (field?_eq_some_iff unique).1 found
    exact absurd (gives_single.1 gives).2 (whole h)
  case h_2 => rfl

/-- **Validating a document tells exactly what is wrong with it.** A JSON object is accepted if and
only if it is acceptable as a document. Of any other, unless its kind has halves, every place that
violates the shape of a document is listed once, with its flaw, in the order of the places, and
nothing else is; and without halves no two of the places are the same. -/
theorem validate_exact {entries : List (Value × Value)}
    (json : Value.IsJson True (.map entries)) :
    ((∃ d, validate entries = .ok d) ↔ Acceptable entries) ∧
    ((∀ h, (.text "kind", .halves h) ∉ entries) → ¬ Acceptable entries →
      ∃ issues, validate entries = .error (.flaws issues) ∧ issues ≠ [] ∧
        Lists (Violates documentShape (.map entries)) issues ∧
        (Value.IsJson False (.map entries) → (issues.map Issue.place).Nodup)) := by
  by_cases whole : ∀ h, (.text "kind", .halves h) ∉ entries
  · have tells := ofEntries_tells json
    rw [validate_of_wholeKind json.unique whole, ← fits_document_iff json]
    generalize ofEntries entries = read at tells
    cases tells with
    | ok none => exact ⟨⟨fun _ => none, fun _ => ⟨_, rfl⟩⟩, fun _ other => absurd none other⟩
    | @error issues some lists =>
      have refused : ¬ Fits documentShape (.map entries) := fun fits => by
        obtain ⟨i, hi⟩ := List.exists_mem_of_ne_nil issues some
        obtain ⟨numbered, rfl, -, members⟩ := lists
        obtain ⟨p, hp, -⟩ := List.mem_map.1 hi
        exact fits p.1 p.2 ((members p.1 p.2).1 hp)
      exact ⟨⟨nofun, fun fits => absurd fits refused⟩, fun _ _ =>
        ⟨issues, rfl, some, lists, fun json => lists.nodup (placed_document _ json)⟩⟩
  · refine ⟨⟨?_, fun accepted => absurd (fun h mem => ?_) whole⟩, fun given => absurd given whole⟩
    · obtain ⟨h, mem⟩ := by simpa using whole
      rintro ⟨d, made⟩
      have found : field? entries ["kind"] = some ("kind", .halves h) :=
        (field?_eq_some_iff json.unique).2 (.first mem)
      simp [validate, found] at made
    · exact nomatch accepted.kind _ mem

/-- An object with five flaws. Of the two keys for logging the first one of the shape counts, though
it stands behind the other; the facilities are given under their second key. -/
theorem validate_exact_of_flawed :
    let json : Value := .object [
      ("cloud_watch", .int 7),
      ("cloudWatch", .object [("clusterLogging", .object [
        ("enable_types", .list [.text "api", .int 1])])]),
      ("kind", .text "Pod"),
      ("metadata", .object [
        ("tags", .object [("a", .null), ("b", .list [])]),
        ("name", .text "")])]
    let issues : List Issue := [
      ⟨["kind"], .wrongKind "Pod"⟩,
      ⟨["metadata", "name"], .emptyName⟩,
      ⟨["metadata", "tags", "a"], .notText⟩,
      ⟨["metadata", "tags", "b"], .notText⟩,
      ⟨["cloudWatch", "clusterLogging", "enable_types", "1"], .notText⟩]
    json.IsJson True ∧ (∀ h, (.text "kind", .halves h) ∉ json.entries) ∧
      ¬ Acceptable json.entries ∧ validate json.entries = .error (.flaws issues) ∧
      Lists (Violates documentShape json) issues ∧ (issues.map Issue.place).Nodup := by
  intro json issues
  have read : Value.Json.read? (Value.Json.compact json) = some json := by decide +kernel
  have plain : json.IsJson False := Value.Json.isJson_of_read? read
  have isJson : json.IsJson True := plain.mono nofun
  have whole : ∀ h, (Value.text "kind", Value.halves h) ∉ json.entries := fun _ mem =>
    nomatch plain.of_mem mem
  have refused : validate json.entries = .error (.flaws issues) := by decide +kernel
  obtain ⟨accepted, listed⟩ := validate_exact isJson
  have other : ¬ Acceptable json.entries := fun acceptable => by
    obtain ⟨d, made⟩ := accepted.2 acceptable
    exact absurd (refused.symm.trans made) nofun
  obtain ⟨issues', same, -, lists, distinct⟩ := listed whole other
  cases refused.symm.trans same
  exact ⟨isJson, whole, other, refused, lists, distinct plain⟩

/-- What halves change: a name of one code that is a half is refused, on its own and beside another
flaw; a kind with halves ends the validation, though a field is missing, too; and tags under
different halves are told at one place. -/
theorem validate_halves :
    let half : Text.Halves := ⟨[0xD800], rfl⟩
    let other : Text.Halves := ⟨[0xDC00], rfl⟩
    let alone : List (Value × Value) := [(.text "name", .halves half)]
    let beside : List (Value × Value) := [(.text "name", .halves half), (.text "region", .int 1)]
    let tags : List (Value × Value) := [(.halves half, .int 1), (.halves other, .int 2)]
    let tagged : List (Value × Value) := [(.text "name", .text "a"), (.text "tags", .map tags)]
    (half.codes.length = 1 ∧
      Value.IsJson True (.map [(.text "metadata", .map alone)]) ∧
      validate [(.text "metadata", .map alone)]
        = .error (.flaws [⟨["metadata", "name"], .brokenText⟩]) ∧
      Value.IsJson True (.map [(.text "metadata", .map beside)]) ∧
      validate [(.text "metadata", .map beside)]
        = .error (.flaws [⟨["metadata", "name"], .brokenText⟩,
            ⟨["metadata", "region"], .notText⟩])) ∧
    (Value.IsJson True (.map [(.text "kind", .halves half)]) ∧
      validate [(.text "kind", .halves half)]
        = .error (.raised (.other "UnicodeEncodeError" (half.unencodable kindComplaint.length)))) ∧
    Value.IsJson True (.map [(.text "metadata", .map tagged)]) ∧
      validate [(.text "metadata", .map tagged)]
        = .error (.flaws [⟨["metadata", "tags", "\uFFFD\uFFFD\uFFFD"], .notText⟩,
            ⟨["metadata", "tags", "\uFFFD\uFFFD\uFFFD"], .notText⟩]) := by
  intro half other alone beside tags tagged
  have single (key : String) {v : Value} (data : v.IsJson True) :
      Value.IsJson True (.map [(.text key, v)]) := Value.isJson_emptyMap.put key data
  have named : Value.IsJson True (.map alone) := single "name" (.halves half trivial)
  have both : Value.IsJson True (.map beside) := named.put "region" (.int 1)
  have labels : Value.IsJson True (.map tags) := by
    refine .map ?_ ?_ (by decide) ?_
    all_goals simp [tags, Value.IsText.halves, Value.IsJson.halves, Value.IsJson.int]
  have labelled : Value.IsJson True (.map tagged) := (single "name" (.text "a")).put "tags" labels
  refine ⟨⟨rfl, single _ named, by decide +kernel, single _ both, by decide +kernel⟩, ?_, ?_⟩
  · exact ⟨single _ (.halves half trivial), by decide +kernel⟩
  · exact ⟨single _ labelled, by decide +kernel⟩

end ClusterOps.ClusterDocument
