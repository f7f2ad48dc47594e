import ClusterOps.Proofs.ClusterDocument.Shape
import ClusterOps.Proofs.ClusterDocument.Sound
import ClusterOps.Proofs.Text.Decimal

/-
Reading a document tells exactly what is wrong with it. A check of a part tells what the
part violates of its shape (`Tells`): it succeeds if there is nothing, and otherwise lists
every violated place once, in the order of their numbers. What two checks tell is put
together where the places of the first come before those of the second (`Tells.and`); so
fields, items and tags are followed one by one, and the document is made of its fields
(`ofEntries_tells`).
-/

namespace ClusterOps.ClusterDocument

variable {α β : Type} {V W : List Nat → Issue → Prop} {c : Checked α}
  {entries : List (Value × Value)}

/-! ## What a check tells -/

/-- Some issues list what is violated: all of it and nothing else, each violation once, in the order
of the numbers of the places. -/
def Lists (V : List Nat → Issue → Prop) (issues : List Issue) : Prop :=
  ∃ numbered : List (List Nat × Issue), numbered.map Prod.snd = issues ∧
    numbered.Pairwise (fun p q => p.1 < q.1) ∧ ∀ n i, (n, i) ∈ numbered ↔ V n i

/-- A check passes if nothing is violated, and otherwise lists what is. -/
inductive Tells (V : List Nat → Issue → Prop) : Checked α → Prop
  | ok {x : α} : (∀ n i, ¬ V n i) → Tells V (.ok x)
  | error {issues : List Issue} : issues ≠ [] → Lists V issues → Tells V (.error issues)

theorem Tells.congr (h : Tells V c) (same : ∀ n i, W n i ↔ V n i) : Tells W c := by
  obtain rfl : W = V := funext fun n => funext fun i => propext (same n i)
  exact h

theorem Tells.map (f : α → β) (h : Tells V c) : Tells V (c.map f) := by
  cases h with
  | ok none => exact .ok none
  | error some lists => exact .error some lists

theorem tells_flawed {place : List String} {flaw : Flaw}
    (only : ∀ n i, V n i ↔ n = [] ∧ i = ⟨place, flaw⟩) :
    Tells V (flawed place flaw : Checked α) := by
  refine .error (List.cons_ne_nil _ _) ⟨[([], ⟨place, flaw⟩)], rfl, List.pairwise_singleton .., ?_⟩
  simp [only]

/-- A number in front of all numbers does not change their order. -/
theorem Tells.numbered (k : Nat) (h : Tells V c) :
    Tells (fun n i => ∃ m, n = k :: m ∧ V m i) c := by
  cases h with
  | ok none => exact .ok fun _ i ⟨m, _, violated⟩ => none m i violated
  | error some lists =>
    obtain ⟨numbered, rfl, order, members⟩ := lists
    refine .error some ⟨numbered.map fun p => (k :: p.1, p.2), by simp, ?_, fun n i => ?_⟩
    · refine List.pairwise_map.2 (order.imp fun before => ?_)
      exact List.cons_lt_cons_iff.2 (.inr ⟨rfl, before⟩)
    · simp only [List.mem_map, Prod.mk.injEq, ← members]
      constructor
      · rintro ⟨⟨m, j⟩, mem, rfl, rfl⟩
        exact ⟨m, rfl, mem⟩
      · rintro ⟨m, rfl, mem⟩
        exact ⟨(m, i), mem, rfl, rfl⟩

/-- The places of the first come before those of the second. -/
def Apart (V W : List Nat → Issue → Prop) : Prop := ∀ m n i j, V m i → W n j → m < n

theorem Lists.append {issues more : List Issue} (hV : Lists V issues) (hW : Lists W more)
    (apart : Apart V W) : Lists (fun n i => V n i ∨ W n i) (issues ++ more) := by
  obtain ⟨numbered, rfl, order, members⟩ := hV
  obtain ⟨behind, rfl, order', members'⟩ := hW
  refine ⟨numbered ++ behind, List.map_append, List.pairwise_append.2 ⟨order, order', ?_⟩, ?_⟩
  · intro (m, i) hi (n, j) hj
    exact apart m n i j ((members m i).1 hi) ((members' n j).1 hj)
  · simp only [List.mem_append, members, members', implies_true]

theorem Tells.and {a : Checked α} {b : Checked β} (ha : Tells V a) (hb : Tells W b)
    (apart : Apart V W) : Tells (fun n i => V n i ∨ W n i) (a.and b) := by
  cases ha with
  | ok none =>
    have same : ∀ n i, (V n i ∨ W n i) ↔ W n i := fun n i => or_iff_right (none n i)
    cases hb with
    | ok none' => exact (Tells.ok none').congr same
    | error some lists => exact (Tells.error some lists).congr same
  | error some lists =>
    cases hb with
    | ok none =>
      exact (Tells.error some lists).congr fun n i => or_iff_left (none n i)
    | error some' lists' =>
      exact .error (List.append_ne_nil_of_left_ne_nil some _) (lists.append lists' apart)

/-! ## Places -/

/-- What is violated under a place. -/
def Under (place : List String) (V : List Nat → Issue → Prop) (n : List Nat) (i : Issue) : Prop :=
  ∃ rest, i.place = place ++ rest ∧ V n ⟨rest, i.flaw⟩

/-- What is violated at the keys of some parts, which are numbered from `k` on. -/
def Among (k : Nat) (parts : List (String × (List Nat → Issue → Prop))) (n : List Nat) (i : Issue) :
    Prop :=
  ∃ j part m rest, parts[j]? = some part ∧ n = (k + j) :: m ∧ i.place = part.1 :: rest ∧
    part.2 m ⟨rest, i.flaw⟩

variable {parts : List (String × (List Nat → Issue → Prop))} {key : String} {place : List String}
  {k : Nat}

theorem not_among_nil (n : List Nat) (i : Issue) : ¬ Among k [] n i := by
  rintro ⟨j, part, m, rest, found, -⟩
  simp at found

theorem among_cons {n : List Nat} {i : Issue} : Among k ((key, V) :: parts) n i ↔
    (∃ m rest, n = k :: m ∧ i.place = key :: rest ∧ V m ⟨rest, i.flaw⟩) ∨
      Among (k + 1) parts n i := by
  constructor
  · rintro ⟨j, part, m, rest, found, number, place, violated⟩
    cases j with
    | zero =>
      obtain rfl : (key, V) = part := by simpa using found
      exact .inl ⟨m, rest, number, place, violated⟩
    | succ j =>
      refine .inr ⟨j, part, m, rest, by simpa using found, ?_, place, violated⟩
      rw [number, Nat.add_right_comm, Nat.add_assoc]
  · rintro (⟨m, rest, number, place, violated⟩ | ⟨j, part, m, rest, found, number, place, violated⟩)
    · exact ⟨0, (key, V), m, rest, rfl, number, place, violated⟩
    · refine ⟨j + 1, part, m, rest, by simpa using found, ?_, place, violated⟩
      rw [number, Nat.add_right_comm, Nat.add_assoc]

/-- What is told of a part under its key. -/
theorem Tells.part (k : Nat) (h : Tells (Under (place ++ [key]) V) c) :
    Tells (Under place fun n i => ∃ m rest, n = k :: m ∧ i.place = key :: rest ∧ V m ⟨rest, i.flaw⟩)
      c := by
  refine (h.numbered k).congr fun n i => ?_
  constructor
  · rintro ⟨_, place, m, rest, number, rfl, violated⟩
    exact ⟨m, number, rest, by simpa using place, violated⟩
  · rintro ⟨m, number, rest, place, violated⟩
    exact ⟨key :: rest, by simpa using place, m, rest, number, rfl, violated⟩

/-- What is told of a part and of those behind it is told of all of them. -/
theorem Tells.cons {a : Checked α} {b : Checked β} (ha : Tells (Under (place ++ [key]) V) a)
    (hb : Tells (Under place (Among (k + 1) parts)) b) :
    Tells (Under place (Among k ((key, V) :: parts))) (a.and b) := by
  refine ((ha.part k).and hb ?_).congr fun n i => ?_
  · rintro _ _ i j ⟨_, -, m, -, rfl, -, -⟩ ⟨_, -, l, -, n, -, -, rfl, -, -⟩
    exact List.cons_lt_cons_iff.2 (.inl (by omega))
  · constructor
    · rintro ⟨rest, place, violated⟩
      rcases among_cons.1 violated with here | later
      · exact .inl ⟨rest, place, here⟩
      · exact .inr ⟨rest, place, later⟩
    · rintro (⟨rest, place, here⟩ | ⟨rest, place, later⟩)
      · exact ⟨rest, place, among_cons.2 (.inl here)⟩
      · exact ⟨rest, place, among_cons.2 (.inr later)⟩

theorem tells_nil {x : α} : Tells (Under place (Among k [])) (.ok x) :=
  .ok fun n _ ⟨_, _, violated⟩ => not_among_nil n _ violated

/-- What is told of the last part. -/
theorem Tells.last (h : Tells (Under (place ++ [key]) V) c) :
    Tells (Under place (Among k [(key, V)])) c := by
  refine (h.part k).congr fun n i => ?_
  constructor
  · rintro ⟨rest, place, violated⟩
    exact ⟨rest, place, (among_cons.1 violated).resolve_right (not_among_nil n _)⟩
  · rintro ⟨rest, place, here⟩
    exact ⟨rest, place, among_cons.2 (.inl here)⟩

/-! ## Single values -/

variable {shape : Shape} {v : Value}

theorem tells_of_fits {x : α} (place : List String) (fits : Fits shape v) :
    Tells (Under place (Violates shape v)) (.ok x) :=
  .ok fun n _ ⟨_, _, violated⟩ => fits n _ violated

/-- The only flaw of a value is told at its place. -/
theorem tells_single {flaw : Flaw} (place : List String) (here : V [] ⟨[], flaw⟩)
    (only : ∀ n i, V n i → n = [] ∧ i = ⟨[], flaw⟩) :
    Tells (Under place V) (flawed place flaw : Checked α) := by
  refine tells_flawed fun n ⟨iPlace, iFlaw⟩ => ⟨?_, ?_⟩
  · rintro ⟨rest, below, violated⟩
    obtain ⟨rfl, same⟩ := only _ _ violated
    obtain ⟨rfl, rfl⟩ := Issue.mk.inj same
    rw [List.append_nil] at below
    exact ⟨rfl, below ▸ rfl⟩
  · rintro ⟨rfl, same⟩
    obtain ⟨rfl, rfl⟩ := Issue.mk.inj same
    exact ⟨[], (List.append_nil _).symm, here⟩

theorem textAt_of_isText (text : v.IsText) (place : List String) :
    textAt place v = .ok v.display := by
  cases text <;> rfl

/-- What is no text is refused wherever a text is read. -/
theorem notText_of_json (json : v.IsJson True) (other : ¬ v.IsText) (place : List String) :
    textAt place v = flawed place .notText ∧ nameAt place v = flawed place .notText ∧
      kindAt place v = flawed place .notText := by
  cases json with
  | text s => exact absurd (.text s) other
  | halves h => exact absurd (.halves h) other
  | null | bool | int | float | list | map => exact ⟨rfl, rfl, rfl⟩

/-- A reader tells what is violated of a shape, wherever it reads. -/
def Reads (shape : Shape) (read : List String → Value → Checked α) : Prop :=
  ∀ v, v.IsJson True → ∀ place, Tells (Under place (Violates shape v)) (read place v)

theorem textAt_reads : Reads .text textAt := by
  intro v json place
  by_cases text : v.IsText
  · rw [textAt_of_isText text]
    exact tells_of_fits place (fits_text.2 text)
  · rw [(notText_of_json json text place).1]
    refine tells_single place (.text text) ?_
    rintro _ _ ⟨⟩
    exact ⟨rfl, rfl⟩

theorem nameAt_reads : Reads .name nameAt := by
  intro v json place
  by_cases text : v.IsText
  · cases text with
    | halves h =>
      refine tells_single place (.brokenName h) fun n i violated => ?_
      cases violated with
      | name other => exact absurd (.halves h) other
      | brokenName => exact ⟨rfl, rfl⟩
    | text s =>
      simp only [nameAt, textAt]
      split
      case isTrue empty =>
        obtain rfl : s = "" := by simpa using empty
        refine tells_single place .emptyName fun n i violated => ?_
        cases violated with
        | name other => exact absurd (.text _) other
        | emptyName => exact ⟨rfl, rfl⟩
        | longName long => simp at long
      case isFalse named =>
        split
        case isTrue long =>
          refine tells_single place (.longName long) fun n i violated => ?_
          cases violated with
          | name other => exact absurd (.text _) other
          | emptyName => exact absurd rfl named
          | longName => exact ⟨rfl, rfl⟩
        case isFalse short =>
          exact tells_of_fits place
            (fits_name.2 ⟨s, rfl, length_pos_of_not_isEmpty named, by omega⟩)
  · rw [(notText_of_json json text place).2.1]
    refine tells_single place (.name text) fun n i violated => ?_
    cases violated with
    | name => exact ⟨rfl, rfl⟩
    | brokenName h => exact absurd (.halves h) text
    | emptyName | longName => exact absurd (.text _) text

theorem tells_wrongKind (text : v.IsText) (different : v ≠ .text onlyKind) (place : List String) :
    Tells (Under place (Violates .kind v)) (flawed place (.wrongKind v.display) : Checked α) := by
  refine tells_single place (.wrongKind text different) fun n i violated => ?_
  cases violated with
  | kind other => exact absurd text other
  | wrongKind => exact ⟨rfl, rfl⟩

theorem kindAt_reads : Reads .kind kindAt := by
  intro v json place
  by_cases text : v.IsText
  · cases text with
    | halves h => exact tells_wrongKind (.halves h) nofun place
    | text s =>
      simp only [kindAt, textAt]
      split
      case isTrue same => exact tells_of_fits place (fits_kind.2 (by rw [same]))
      case isFalse different => exact tells_wrongKind (.text s) (by simpa using different) place
  · rw [(notText_of_json json text place).2.2]
    refine tells_single place (.kind text) fun n i violated => ?_
    cases violated with
    | kind => exact ⟨rfl, rfl⟩
    | wrongKind given => exact absurd given text

/-- What is told of a value that is not null is told where null is allowed, too. -/
theorem Tells.orNull (notNull : v ≠ .null) (h : Tells (Under place (Violates shape v)) c) :
    Tells (Under place (Violates (.orNull shape) v)) c := by
  refine h.congr fun n i => ?_
  constructor
  · rintro ⟨rest, below, violated⟩
    cases violated with
    | orNull _ violated => exact ⟨rest, below, violated⟩
  · rintro ⟨rest, below, violated⟩
    exact ⟨rest, below, .orNull notNull violated⟩

theorem versionAt_reads : Reads (.orNull .text) versionAt := by
  intro v json place
  unfold versionAt
  split
  case h_1 => exact tells_of_fits place (fits_orNull.2 (.inl rfl))
  case h_2 notNull => exact ((textAt_reads _ json place).map some).orNull notNull

/-! ## Lists and tags -/

/-- What the items of a list violate that have to be texts. -/
def itemParts (items : List Value) (k : Nat) : List (String × (List Nat → Issue → Prop)) :=
  (items.zipIdx k).map fun (v, n) => (toString n, Violates .text v)

theorem namesFrom_tells {items : List Value} (json : ∀ v ∈ items, v.IsJson True)
    (place : List String) (k : Nat) :
    Tells (Under place (Among k (itemParts items k))) (namesFrom place k items) := by
  induction items generalizing k with
  | nil => exact tells_nil
  | cons v items ih =>
    have head := textAt_reads v (json v List.mem_cons_self) (place ++ [toString k])
    have rest := ih (fun w hw => json w (List.mem_cons_of_mem _ hw)) (k + 1)
    exact (head.cons rest).map _

theorem violates_texts_iff {items : List Value} {n : List Nat} {i : Issue} :
    Violates .texts (.list items) n i ↔ Among 0 (itemParts items 0) n i := by
  constructor
  · intro violated
    cases violated with
    | notList other => exact absurd rfl (other items)
    | @item _ n v found other =>
      exact ⟨n, (toString n, Violates .text v), [], [], by simp [itemParts, found], by simp, rfl,
        .text other⟩
  · rintro ⟨j, part, m, rest, found, rfl, place, violated⟩
    obtain ⟨v, item, rfl⟩ : ∃ v, items[j]? = some v ∧ (toString j, Violates .text v) = part := by
      simpa [itemParts] using found
    obtain ⟨iPlace, iFlaw⟩ := i
    obtain rfl : iPlace = toString j :: rest := place
    cases violated with
    | text other =>
      rw [Nat.zero_add]
      exact .item item other

/-- What the entries of an object violate whose values have to be texts. -/
def tagParts (tags : List (Value × Value)) : List (String × (List Nat → Issue → Prop)) :=
  tags.map fun (key, v) => (keyName key, Violates .text v)

theorem Tells.behind {x : α} {b : Checked β} (h : Tells V b) :
    Tells V (Checked.and (.ok x) b) := by
  cases h with
  | ok none => exact .ok none
  | error some lists => exact .error some lists

theorem tagsFrom_tells {tags : List (Value × Value)} (json : Value.IsJson True (.map tags))
    (place : List String) (k : Nat) :
    Tells (Under place (Among k (tagParts tags))) (tagsFrom place tags) := by
  induction tags generalizing k with
  | nil => exact tells_nil
  | cons tag tags ih =>
    obtain ⟨key, v⟩ := tag
    have text : key.IsText := by
      cases json with
      | map texts => exact texts _ List.mem_cons_self
    have head : Tells (Under (place ++ [keyName key]) (Violates .text v)) (tagAt place key v) := by
      rw [tagAt, textAt_of_isText text]
      exact (textAt_reads v (json.of_mem List.mem_cons_self) _).behind
    exact (head.cons (ih json.tail (k + 1))).map _

theorem violates_tags_iff {tags : List (Value × Value)} {n : List Nat} {i : Issue} :
    Violates .tags (.map tags) n i ↔ Among 0 (tagParts tags) n i := by
  constructor
  · intro violated
    cases violated with
    | notMap other => exact absurd rfl (other tags)
    | @tag _ n key v found other =>
      exact ⟨n, (keyName key, Violates .text v), [], [], by simp [tagParts, found], by simp, rfl,
        .text other⟩
  · rintro ⟨j, part, m, rest, found, rfl, place, violated⟩
    obtain ⟨key, v, tag, rfl⟩ :
        ∃ key v, tags[j]? = some (key, v) ∧ (keyName key, Violates .text v) = part := by
      simpa [tagParts] using found
    obtain ⟨iPlace, iFlaw⟩ := i
    obtain rfl : iPlace = keyName key :: rest := place
    cases violated with
    | text other =>
      rw [Nat.zero_add]
      exact .tag tag other

/-! ## Fields -/

theorem find?_eq_some_iff (unique : (entries.map Prod.fst).Nodup) :
    Value.find? entries key = some v ↔ (.text key, v) ∈ entries := by
  induction entries with
  | nil => simp [Value.find?]
  | cons e entries ih =>
    obtain ⟨k, w⟩ := e
    obtain ⟨fresh, unique⟩ := List.nodup_cons.1 unique
    have ih := ih unique
    by_cases same : k = .text key
    · subst same
      have other : (.text key, v) ∉ entries := fun mem =>
        fresh (List.mem_map.2 ⟨_, mem, rfl⟩)
      simp [Value.find?, other, eq_comm]
    · have skip : Value.find? ((k, w) :: entries) key = Value.find? entries key := by
        cases k with
        | text s =>
          have : (s == key) = false := by simpa using same
          simp [Value.find?, this]
        | _ => rfl
      rw [skip, ih]
      simp [Ne.symm same]

theorem find?_eq_none_iff (unique : (entries.map Prod.fst).Nodup) :
    Value.find? entries key = none ↔ ∀ v, (.text key, v) ∉ entries := by
  simp only [Option.eq_none_iff_forall_ne_some, ne_eq, find?_eq_some_iff unique]

theorem field?_eq_some_iff (unique : (entries.map Prod.fst).Nodup) {keys : List String} :
    field? entries keys = some (key, v) ↔ Gives entries keys key v := by
  induction keys with
  | nil =>
    refine ⟨fun h => ?_, fun h => ?_⟩ <;> cases h
  | cons first keys ih =>
    rw [field?]
    cases found : Value.find? entries first with
    | some w =>
      have mem := (find?_eq_some_iff unique).1 found
      constructor
      · rintro ⟨⟩
        exact .first mem
      · intro gives
        cases gives with
        | first here => rw [eq_of_mem unique here mem]
        | later lacks => exact absurd mem (lacks w)
    | none =>
      have lacks := (find?_eq_none_iff unique).1 found
      refine ih.trans ⟨.later lacks, fun gives => ?_⟩
      cases gives with
      | first here => exact absurd here (lacks v)
      | later _ gives => exact gives

theorem field?_eq_none_iff (unique : (entries.map Prod.fst).Nodup) {keys : List String} :
    field? entries keys = none ↔ Lacks entries keys := by
  induction keys with
  | nil => simp [field?, Lacks]
  | cons first keys ih =>
    simp only [Lacks, List.forall_mem_cons, ← find?_eq_none_iff unique] at ih ⊢
    rw [field?]
    cases Value.find? entries first with
    | some w => simp
    | none => simpa using ih

/-- The key that an object has for a field, and what is violated there. -/
def fieldPart (entries : List (Value × Value)) (f : Field Shape) :
    String × (List Nat → Issue → Prop) :=
  match field? entries f.keys with
  | some (key, v) => (key, Violates f.shape v)
  | none => (f.key, fun n i => f.required = true ∧ n = [] ∧ i = ⟨[], .missing⟩)

theorem fieldPart_of_gives (unique : (entries.map Prod.fst).Nodup) {f : Field Shape}
    (gives : Gives entries f.keys key v) : fieldPart entries f = (key, Violates f.shape v) := by
  rw [fieldPart, (field?_eq_some_iff unique).2 gives]

theorem fieldPart_of_lacks (unique : (entries.map Prod.fst).Nodup) {f : Field Shape}
    (lacks : Lacks entries f.keys) : fieldPart entries f
      = (f.key, fun n i => f.required = true ∧ n = [] ∧ i = ⟨[], .missing⟩) := by
  rw [fieldPart, (field?_eq_none_iff unique).2 lacks]

theorem gives_or_lacks (unique : (entries.map Prod.fst).Nodup) (keys : List String) :
    (∃ key v, Gives entries keys key v) ∨ Lacks entries keys := by
  cases found : field? entries keys with
  | some found' => exact .inl ⟨_, _, (field?_eq_some_iff unique).1 found⟩
  | none => exact .inr ((field?_eq_none_iff unique).1 found)

/-- The key of a field is one of its keys. -/
theorem fieldPart_fst_mem (unique : (entries.map Prod.fst).Nodup) (f : Field Shape) :
    (fieldPart entries f).1 ∈ f.keys := by
  rcases gives_or_lacks unique f.keys with ⟨key, v, gives⟩ | lacks
  · rw [fieldPart_of_gives unique gives]
    exact gives.mem.1
  · rw [fieldPart_of_lacks unique lacks]
    exact List.mem_cons_self

theorem violates_object_iff (unique : (entries.map Prod.fst).Nodup) {title : String}
    {fields : List (Field Shape)} {n : List Nat} {i : Issue} :
    Violates (.object title fields) (.map entries) n i
      ↔ Among 0 (fields.map (fieldPart entries)) n i := by
  constructor
  · intro violated
    cases violated with
    | notObject other => exact absurd rfl (other entries)
    | @missing _ _ _ n f found required lacks =>
      exact ⟨n, fieldPart entries f, [], [], by simp [found], by simp,
        by rw [fieldPart_of_lacks unique lacks], by
          rw [fieldPart_of_lacks unique lacks]
          exact ⟨required, rfl, rfl⟩⟩
    | @field _ _ _ n f key v m place flaw found gives violated =>
      exact ⟨n, fieldPart entries f, m, place, by simp [found], by simp,
        by rw [fieldPart_of_gives unique gives], by rwa [fieldPart_of_gives unique gives]⟩
  · rintro ⟨j, part, m, rest, found, rfl, place, violated⟩
    obtain ⟨f, field, rfl⟩ : ∃ f, fields[j]? = some f ∧ fieldPart entries f = part := by
      simpa using found
    obtain ⟨iPlace, iFlaw⟩ := i
    obtain rfl : iPlace = (fieldPart entries f).1 :: rest := place
    rw [Nat.zero_add]
    rcases gives_or_lacks unique f.keys with ⟨key, v, gives⟩ | lacks
    · rw [fieldPart_of_gives unique gives] at violated ⊢
      exact .field field gives violated
    · rw [fieldPart_of_lacks unique lacks] at violated ⊢
      obtain ⟨required, rfl, same⟩ := violated
      obtain ⟨rfl, rfl⟩ := Issue.mk.inj same
      exact .missing field required lacks

/-- A check tells what is violated at a field. -/
def TellsField (place : List String) (entries : List (Value × Value)) (f : Field Shape)
    (c : Checked α) : Prop :=
  Tells (Under (place ++ [(fieldPart entries f).1]) (fieldPart entries f).2) c

/-- A check tells what is violated at some fields, which are numbered from `k` on. -/
def TellsFields (place : List String) (entries : List (Value × Value)) (k : Nat)
    (fields : List (Field Shape)) (c : Checked α) : Prop :=
  Tells (Under place (Among k (fields.map (fieldPart entries)))) c

theorem optional_tells (json : Value.IsJson True (.map entries)) (place : List String)
    (f : Field Shape) (free : f.required = false) (default : α)
    {read : List String → Value → Checked α} (reads : Reads f.shape read) :
    TellsField place entries f (optional place entries f.keys default read) := by
  have unique := json.unique
  rw [TellsField]
  rcases gives_or_lacks unique f.keys with ⟨key, v, gives⟩ | lacks
  · rw [fieldPart_of_gives unique gives, optional, (field?_eq_some_iff unique).2 gives]
    exact reads v (json.of_mem gives.mem.2) (place ++ [key])
  · rw [fieldPart_of_lacks unique lacks, optional, (field?_eq_none_iff unique).2 lacks]
    exact .ok fun _ _ ⟨_, _, required, _⟩ => by simp [free] at required

theorem required_tells (json : Value.IsJson True (.map entries)) (place : List String)
    (key : String) {shape : Shape} {read : List String → Value → Checked α}
    (reads : Reads shape read) :
    TellsField place entries ⟨key, [], true, shape⟩
      (match Value.find? entries key with
        | some v => read (place ++ [key]) v
        | none => flawed (place ++ [key]) .missing) := by
  have unique := json.unique
  rw [TellsField]
  cases found : Value.find? entries key with
  | some v =>
    have mem := (find?_eq_some_iff unique).1 found
    rw [fieldPart_of_gives unique (.first mem)]
    exact reads v (json.of_mem mem) (place ++ [key])
  | none =>
    have lacks : Lacks entries (Field.keys ⟨key, [], true, shape⟩) := by
      simpa [Lacks, Field.keys] using (find?_eq_none_iff unique).1 found
    rw [fieldPart_of_lacks unique lacks]
    exact tells_single (place ++ [key]) ⟨rfl, rfl, rfl⟩ fun _ _ violated => violated.2

/-- What is told of a field and of those behind it is told of all of them. -/
theorem TellsField.and {f : Field Shape} {fields : List (Field Shape)} {a : Checked α}
    {b : Checked β} (ha : TellsField place entries f a)
    (hb : TellsFields place entries (k + 1) fields b) :
    TellsFields place entries k (f :: fields) (a.and b) := Tells.cons ha hb

theorem TellsField.alone {f : Field Shape} (h : TellsField place entries f c) :
    TellsFields place entries k [f] c := Tells.last h

/-- What is told of the fields of an object is told of the object, and anything else is refused as
a whole. -/
theorem object_tells {title : String} {fields : List (Field Shape)} (json : v.IsJson True)
    (inside : ∀ entries, v = .map entries → Value.IsJson True (.map entries) →
      TellsFields place entries 0 fields c)
    (outside : (∀ entries, v ≠ .map entries) → c = flawed place (.notSection title)) :
    Tells (Under place (Violates (.object title fields) v)) c := by
  by_cases map : ∃ entries, v = .map entries
  · obtain ⟨entries, rfl⟩ := map
    refine (inside entries rfl json).congr fun n i => ?_
    simp only [Under, violates_object_iff json.unique]
  · have other : ∀ entries, v ≠ .map entries := fun entries same => map ⟨entries, same⟩
    rw [outside other]
    refine tells_single place (.notObject other) fun n i violated => ?_
    cases violated with
    | notObject => exact ⟨rfl, rfl⟩
    | missing | field => exact absurd rfl (other _)

/-! ## The document -/

theorem namesAt_reads : Reads .texts namesAt := by
  intro v json place
  by_cases list : ∃ items, v = .list items
  · obtain ⟨items, rfl⟩ := list
    have data : ∀ w ∈ items, w.IsJson True := by
      cases json with
      | list data => exact data
    refine (namesFrom_tells data place 0).congr fun n i => ?_
    simp only [Under, violates_texts_iff]
  · have other : ∀ items, v ≠ .list items := fun items same => list ⟨items, same⟩
    have refused : namesAt place v = flawed place .notList := by
      cases json with
      | list => exact absurd rfl (other _)
      | null | bool | int | float | text | halves | map => rfl
    rw [refused]
    refine tells_single place (.notList other) fun n i violated => ?_
    cases violated with
    | notList => exact ⟨rfl, rfl⟩
    | item => exact absurd rfl (other _)

theorem tagsAt_reads : Reads .tags tagsAt := by
  intro v json place
  by_cases map : ∃ tags, v = .map tags
  · obtain ⟨tags, rfl⟩ := map
    refine (tagsFrom_tells json place 0).congr fun n i => ?_
    simp only [Under, violates_tags_iff]
  · have other : ∀ tags, v ≠ .map tags := fun tags same => map ⟨tags, same⟩
    have refused : tagsAt place v = flawed place .notMap := by
      cases json with
      | map => exact absurd rfl (other _)
      | null | bool | int | float | text | halves | list => rfl
    rw [refused]
    refine tells_single place (.notMap other) fun n i violated => ?_
    cases violated with
    | notMap => exact ⟨rfl, rfl⟩
    | tag => exact absurd rfl (other _)

theorem identityFrom_tells (json : Value.IsJson True (.map entries)) (place : List String) :
    TellsFields place entries 0 identityFields (identityFrom place entries) := by
  have name := required_tells json place "name" nameAt_reads
  have region := optional_tells json place ⟨"region", [], false, .text⟩ rfl "" textAt_reads
  have version := optional_tells json place ⟨"version", [], false, .orNull .text⟩ rfl none
    versionAt_reads
  have tags := optional_tells json place ⟨"tags", [], false, .tags⟩ rfl [] tagsAt_reads
  have all : TellsFields place entries 0 identityFields _ :=
    name.and (region.and (version.and tags.alone))
  exact Tells.map _ all

theorem identityAt_reads : Reads (.object "ClusterMeta" identityFields) identityAt := by
  intro v json place
  refine object_tells json ?_ fun other => ?_
  · rintro entries rfl json
    exact identityFrom_tells json place
  · cases v with
    | map entries => exact absurd rfl (other entries)
    | _ => rfl

theorem facilitiesAt_reads : Reads (.object "ClusterLogging" facilityFields) facilitiesAt := by
  intro v json place
  refine object_tells json ?_ fun other => ?_
  · rintro entries rfl json
    exact (optional_tells json place ⟨"enableTypes", ["enable_types"], false, .texts⟩ rfl []
      namesAt_reads).alone
  · cases v with
    | map entries => exact absurd rfl (other entries)
    | _ => rfl

theorem loggingAt_reads :
    Reads (.orNull (.object "ClusterCloudWatch" loggingFields)) loggingAt := by
  intro v json place
  by_cases null : v = .null
  · subst null
    exact tells_of_fits place (fits_orNull.2 (.inl rfl))
  · refine (object_tells json ?_ fun other => ?_).orNull null
    · rintro entries rfl json
      have facilities := optional_tells json place ⟨"clusterLogging", ["cluster_logging"], false,
        .object "ClusterLogging" facilityFields⟩ rfl [] facilitiesAt_reads
      exact Tells.map some facilities.alone
    · cases v with
      | null => exact absurd rfl null
      | map entries => exact absurd rfl (other entries)
      | _ => rfl

theorem ofEntries_tells (json : Value.IsJson True (.map entries)) :
    Tells (Violates documentShape (.map entries)) (ofEntries entries) := by
  have version := optional_tells json [] ⟨"apiVersion", ["api_version"], false, .text⟩ rfl
    defaultVersion textAt_reads
  have kind := optional_tells json [] ⟨"kind", [], false, .kind⟩ rfl onlyKind kindAt_reads
  have identity := required_tells json [] "metadata" identityAt_reads
  have logging := optional_tells json [] ⟨"cloudWatch", ["cloud_watch"], false,
    .orNull (.object "ClusterCloudWatch" loggingFields)⟩ rfl none loggingAt_reads
  have all : TellsFields [] entries 0 documentFields _ :=
    version.and (kind.and (identity.and logging.alone))
  have read : TellsFields [] entries 0 documentFields (ofEntries entries) := Tells.map _ all
  have whole : Tells (Under [] (Violates documentShape (.map entries))) (ofEntries entries) := by
    refine object_tells json ?_ fun other => absurd rfl (other entries)
    rintro es ⟨⟩ _
    exact read
  refine whole.congr fun n i => ?_
  constructor
  · intro violated
    exact ⟨i.place, rfl, violated⟩
  · rintro ⟨rest, same, violated⟩
    obtain rfl : i.place = rest := same
    exact violated

end ClusterOps.ClusterDocument
