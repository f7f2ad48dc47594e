import ClusterOps.Proofs.Json.Words

/-
The tokens of a JSON text in YAML. A common text is scanned into the brackets, commas,
keys and scalars of the value that it spells (`Token.ofText_spelled`). The induction
follows the value: every part of it is read from behind one word to in front of the
next, within the same bracket depth.
-/

namespace ClusterOps.Value.Json

open Yaml

/-! ## The tokens of a value -/

/-- A word without quotes. -/
def bareToken (word : List Char) : Token := .scalar ⟨String.ofList word, true, none⟩

/-- A text between quotes. -/
def textToken (ps : List Piece) : Token := .scalar ⟨Piece.text ps, false, none⟩

/-- The tokens of a key and its colon. -/
def Label.tokens (l : Label) : List Token := [.key, textToken l.key, .value]

mutual

/-- The tokens of a value. -/
def Spelling.tokens : Spelling → List Token
  | .null => [bareToken "null".toList]
  | .bool b => [bareToken (if b then "true".toList else "false".toList)]
  | .number n => [bareToken n.chars]
  | .text ps => [textToken ps]
  | .emptyList _ => [.flowSequenceStart, .flowSequenceEnd]
  | .list items => .flowSequenceStart :: items.tokens
  | .emptyMap _ => [.flowMappingStart, .flowMappingEnd]
  | .map members => .flowMappingStart :: members.tokens

/-- The tokens of items, with the bracket behind them. -/
def Items.tokens : Items → List Token
  | .last _ v _ => v.tokens ++ [.flowSequenceEnd]
  | .more _ v _ rest => v.tokens ++ .flowEntry :: rest.tokens

/-- The tokens of members, with the bracket behind them. -/
def Members.tokens : Members → List Token
  | .last l _ v _ => l.tokens ++ (v.tokens ++ [.flowMappingEnd])
  | .more l _ v _ rest => l.tokens ++ (v.tokens ++ .flowEntry :: rest.tokens)

end

/-! ## Blanks -/

theorem margin_cons {x : Char} {b : List Char} (hx : x = ' ' ∨ x = '\n') (margin : Margin b) :
    Margin (x :: b) := by
  intro y hy
  obtain rfl | hy := List.mem_cons.1 hy
  · exact hx
  · exact margin y hy

/-- Common blanks are a margin, where line ends are line feeds. -/
theorem margin_unified {bs : List Blank} (common : Blank.areCommon bs = true) :
    Margin (Blank.unified bs) := by
  fun_induction Blank.unified bs with
  | case1 => simp [Margin]
  | case2 bs ih => exact margin_cons (.inr rfl) (ih (by simpa [Blank.areCommon] using common))
  | case3 bs _ ih => exact margin_cons (.inr rfl) (ih (by simpa [Blank.areCommon] using common))
  | case4 b bs _ other ih =>
    simp only [Blank.areCommon, List.all_cons, Bool.and_eq_true] at common
    refine margin_cons ?_ (ih common.2)
    cases b with
    | space => exact .inl rfl
    | lineFeed => exact .inr rfl
    | tab => simp at common
    | carriageReturn => exact absurd rfl other

theorem unified_spaces : ∀ {bs : List Blank}, bs.all (· == .space) = true →
    Blank.unified bs = List.replicate bs.length ' '
  | [], _ => rfl
  | .space :: bs, h => by
    rw [Blank.unified, unified_spaces (by simpa using h)]
    · rfl
    · simp
    · simp
  | .tab :: bs, h | .lineFeed :: bs, h | .carriageReturn :: bs, h => by simp at h

/-! ## Words -/

theorem reads_bareWord {s : Scan} {b after word tail : List Char} (fit : s.Fit)
    (inside : 0 < s.depth) (margin : Margin b) (margin' : Margin after) (ends : Ends tail)
    (h : s.cursor.rest = b ++ (word ++ (after ++ tail))) (all : ∀ x ∈ word, isWordChar x = true)
    (starts : Scan.StartsBare (word ++ (after ++ tail))) (given : word ≠ []) :
    ∃ s', s.Reads [bareToken word] tail s' ∧ s'.depth = s.depth := by
  rw [← List.append_assoc word] at h starts
  refine Scan.reads_bare fit inside margin h starts (by simp [given]) fun c rest sized => ?_
  rw [List.append_assoc] at rest
  exact plainScalar_word rest given all margin' ends sized

theorem reads_text {s : Scan} {b tail : List Char} {ps : List Piece} (fit : s.Fit)
    (margin : Margin b) (common : ps.all Piece.isCommon = true)
    (h : s.cursor.rest = b ++ (Piece.quoted ps ++ tail)) :
    ∃ s', s.Reads [textToken ps] tail s' ∧ s'.depth = s.depth :=
  Scan.reads_quoted fit margin (fun _ rest sized => quotedScalar_pieces common rest sized) h

/-- A printable character of ASCII ends no line, and a document may hold it. -/
theorem inLine_of_printable {x : Char} (low : 0x20 ≤ x.toNat) (high : x.toNat ≤ 0x7E) :
    isBreak x = false ∧ isAllowed x = true := by
  have inLine : isBreak x = false := by
    simp [isBreak]
    omega
  refine ⟨inLine, ?_⟩
  simp [isAllowed, low, high]

/-- The characters of a common piece end no line, and a document may hold them. -/
theorem Piece.chars_common {p : Piece} (common : p.isCommon = true) :
    ∀ x ∈ p.chars, isBreak x = false ∧ isAllowed x = true := by
  cases p with
  | plain x hx =>
    simp only [Piece.isCommon, Bool.and_eq_true, Bool.not_eq_true'] at common
    simpa [Piece.chars] using ⟨common.2, common.1⟩
  | escaped e =>
    simp only [Piece.chars, List.mem_cons, List.not_mem_nil, or_false]
    rintro x (rfl | rfl)
    · decide
    · cases e <;> decide
  | code n h =>
    have hex (d : Hex) : isBreak d.digit = false ∧ isAllowed d.digit = true := by
      obtain ⟨_, low, high⟩ := d.bounds
      exact inLine_of_printable (by omega) (by omega)
    intro x hx
    simp only [Piece.chars, Code.chars, List.mem_cons, List.not_mem_nil, or_false] at hx
    obtain rfl | rfl | rfl | rfl | rfl | rfl := hx
    · decide
    · decide
    all_goals exact hex _
  | pair => simp [Piece.isCommon] at common

theorem Piece.quoted_common {ps : List Piece} (common : ps.all Piece.isCommon = true) :
    ∀ x ∈ Piece.quoted ps, isBreak x = false ∧ isAllowed x = true := by
  intro x hx
  have quote : isBreak '"' = false ∧ isAllowed '"' = true := by decide
  simp only [Piece.quoted, List.mem_cons, List.mem_append, List.mem_flatMap, List.not_mem_nil,
    or_false] at hx
  obtain rfl | ⟨p, hp, hx⟩ | rfl := hx
  · exact quote
  · exact Piece.chars_common (List.all_eq_true.1 common p hp) x hx
  · exact quote

theorem reads_label {s : Scan} {l : Label} {tail : List Char} (fit : s.Fit) (inside : 0 < s.depth)
    (allowed : s.allowKey = true) (common : l.isCommon = true)
    (h : s.cursor.rest = l.chars Blank.unified ++ tail) :
    ∃ s', s.Reads l.tokens tail s' ∧ s'.depth = s.depth := by
  simp only [Label.isCommon, Bool.and_eq_true, decide_eq_true_eq] at common
  obtain ⟨⟨⟨before, key⟩, gap⟩, near⟩ := common
  have h : s.cursor.rest = Blank.unified l.before
      ++ (Piece.quoted l.key ++ (List.replicate l.gap.length ' ' ++ ':' :: tail)) := by
    rw [h, Label.chars, unified_spaces gap]
    simp
  have length : (Piece.quoted l.key).length = (l.key.flatMap Piece.chars ++ ['"']).length + 1 := rfl
  exact Scan.reads_key fit inside allowed (margin_unified before) h
    (fun x hx => (Piece.quoted_common key x (List.mem_cons_of_mem _ hx)).1)
    (by unfold maxReach at near; omega) fun _ rest sized => quotedScalar_pieces key rest sized

/-! ## Values -/

mutual

/-- A common value is read from behind the word in front of it to the margin behind it; only a map
may stand where no bracket is open. -/
theorem reads_spelling : ∀ (d : Spelling) {s : Scan} {b after tail : List Char},
    d.isCommon = true → s.Fit → (d.isMap = false → 0 < s.depth) → Margin b → Margin after →
      Ends tail → s.cursor.rest = b ++ (d.chars Blank.unified ++ (after ++ tail)) →
        ∃ s' left, Margin left ∧ s.Reads d.tokens (left ++ tail) s' ∧ s'.depth = s.depth
  | .null, s, b, after, tail, _, fit, inside, margin, margin', ends, h => by
    obtain ⟨s', reads, depth⟩ := reads_bareWord fit (inside rfl) margin margin' ends h
      (List.all_eq_true.1 (by decide)) ⟨'n', _, rfl, .inl (by decide)⟩ (by decide)
    exact ⟨s', [], by simp [Margin], reads, depth⟩
  | .bool x, s, b, after, tail, _, fit, inside, margin, margin', ends, h => by
    obtain ⟨s', reads, depth⟩ := reads_bareWord fit (inside rfl) margin margin' ends h
      (List.all_eq_true.1 (by cases x <;> decide))
      (by cases x <;> exact ⟨_, _, rfl, .inl (by decide)⟩) (by cases x <;> decide)
    exact ⟨s', [], by simp [Margin], reads, depth⟩
  | .number n, s, b, after, tail, _, fit, inside, margin, margin', ends, h => by
    have given : n.chars ≠ [] := by
      obtain ⟨c, cs, head, -⟩ := n.chars_head
      simp [head]
    obtain ⟨s', reads, depth⟩ := reads_bareWord fit (inside rfl) margin margin' ends h
      n.isWordChar_of_mem (n.startsBare _) given
    exact ⟨s', [], by simp [Margin], reads, depth⟩
  | .text ps, s, b, after, tail, common, fit, inside, margin, margin', ends, h => by
    obtain ⟨s', reads, depth⟩ := reads_text fit margin common h
    exact ⟨s', after, margin', reads, depth⟩
  | .emptyList blanks, s, b, after, tail, common, fit, inside, margin, margin', ends, h => by
    obtain ⟨s₁, opened, depth₁, -⟩ := Scan.reads_open fit h margin rfl
    have place : s₁.cursor.rest = Blank.unified blanks ++ ']' :: (after ++ tail) := by
      rw [opened.rest]
      simp
    obtain ⟨s₂, closed, depth₂⟩ :=
      Scan.reads_close opened.fit place (margin_unified common) rfl
    exact ⟨s₂, after, margin', opened.trans closed, by omega⟩
  | .list items, s, b, after, tail, common, fit, inside, margin, margin', ends, h => by
    obtain ⟨s₁, opened, depth₁, -⟩ := Scan.reads_open fit h margin rfl
    obtain ⟨s₂, read, depth₂⟩ := reads_items items common opened.fit (by omega) opened.rest
    exact ⟨s₂, after, margin', opened.trans read, by omega⟩
  | .emptyMap blanks, s, b, after, tail, common, fit, inside, margin, margin', ends, h => by
    obtain ⟨s₁, opened, depth₁, -⟩ := Scan.reads_open fit h margin rfl
    have place : s₁.cursor.rest = Blank.unified blanks ++ '\x7d' :: (after ++ tail) := by
      rw [opened.rest]
      simp
    obtain ⟨s₂, closed, depth₂⟩ :=
      Scan.reads_close opened.fit place (margin_unified common) rfl
    exact ⟨s₂, after, margin', opened.trans closed, by omega⟩
  | .map members, s, b, after, tail, common, fit, inside, margin, margin', ends, h => by
    obtain ⟨s₁, opened, depth₁, allowed⟩ := Scan.reads_open fit h margin rfl
    obtain ⟨s₂, read, depth₂⟩ :=
      reads_members members common opened.fit (by omega) allowed opened.rest
    exact ⟨s₂, after, margin', opened.trans read, by omega⟩

/-- Common items are read up to the end of their list. -/
theorem reads_items : ∀ (l : Items) {s : Scan} {tail : List Char}, l.areCommon = true → s.Fit →
    0 < s.depth → s.cursor.rest = l.chars Blank.unified ++ tail →
      ∃ s', s.Reads l.tokens tail s' ∧ s'.depth = s.depth - 1
  | .last before v after, s, tail, common, fit, inside, h => by
    simp only [Items.areCommon, Bool.and_eq_true] at common
    have place : s.cursor.rest = Blank.unified before
        ++ (v.chars Blank.unified ++ (Blank.unified after ++ ']' :: tail)) := by
      rw [h, Items.chars]
      simp
    obtain ⟨s₁, left, margin, read, depth₁⟩ := reads_spelling v common.1.2 fit (fun _ => inside)
      (margin_unified common.1.1) (margin_unified common.2) (by simp [Ends]) place
    obtain ⟨s₂, closed, depth₂⟩ := Scan.reads_close read.fit read.rest margin rfl
    exact ⟨s₂, read.trans closed, by omega⟩
  | .more before v after rest, s, tail, common, fit, inside, h => by
    simp only [Items.areCommon, Bool.and_eq_true] at common
    have place : s.cursor.rest = Blank.unified before ++ (v.chars Blank.unified
        ++ (Blank.unified after ++ ',' :: (rest.chars Blank.unified ++ tail))) := by
      rw [h, Items.chars]
      simp
    obtain ⟨s₁, left, margin, read, depth₁⟩ := reads_spelling v common.1.1.2 fit (fun _ => inside)
      (margin_unified common.1.1.1) (margin_unified common.1.2) (by simp [Ends]) place
    obtain ⟨s₂, comma, depth₂, -⟩ := Scan.reads_comma read.fit read.rest margin
    obtain ⟨s₃, further, depth₃⟩ := reads_items rest common.2 comma.fit (by omega) comma.rest
    exact ⟨s₃, read.trans (comma.trans further), by omega⟩

/-- Common members are read up to the end of their map, where a key may stand. -/
theorem reads_members : ∀ (l : Members) {s : Scan} {tail : List Char}, l.areCommon = true →
    s.Fit → 0 < s.depth → s.allowKey = true → s.cursor.rest = l.chars Blank.unified ++ tail →
      ∃ s', s.Reads l.tokens tail s' ∧ s'.depth = s.depth - 1
  | .last l before v after, s, tail, common, fit, inside, allowed, h => by
    simp only [Members.areCommon, Bool.and_eq_true] at common
    have place : s.cursor.rest = l.chars Blank.unified ++ (Blank.unified before
        ++ (v.chars Blank.unified ++ (Blank.unified after ++ '\x7d' :: tail))) := by
      rw [h, Members.chars]
      simp
    obtain ⟨s₁, named, depth₁⟩ := reads_label fit inside allowed common.1.1.1 place
    obtain ⟨s₂, left, margin, read, depth₂⟩ := reads_spelling v common.1.2 named.fit
      (fun _ => by omega) (margin_unified common.1.1.2) (margin_unified common.2)
      (by simp [Ends]) named.rest
    obtain ⟨s₃, closed, depth₃⟩ := Scan.reads_close read.fit read.rest margin rfl
    exact ⟨s₃, named.trans (read.trans closed), by omega⟩
  | .more l before v after rest, s, tail, common, fit, inside, allowed, h => by
    simp only [Members.areCommon, Bool.and_eq_true] at common
    have place : s.cursor.rest = l.chars Blank.unified ++ (Blank.unified before
        ++ (v.chars Blank.unified
          ++ (Blank.unified after ++ ',' :: (rest.chars Blank.unified ++ tail)))) := by
      rw [h, Members.chars]
      simp
    obtain ⟨s₁, named, depth₁⟩ := reads_label fit inside allowed common.1.1.1.1 place
    obtain ⟨s₂, left, margin, read, depth₂⟩ := reads_spelling v common.1.1.2 named.fit
      (fun _ => by omega) (margin_unified common.1.1.1.2) (margin_unified common.1.2)
      (by simp [Ends]) named.rest
    obtain ⟨s₃, comma, depth₃, allowed⟩ := Scan.reads_comma read.fit read.rest margin
    obtain ⟨s₄, further, depth₄⟩ :=
      reads_members rest common.2 comma.fit (by omega) allowed comma.rest
    exact ⟨s₄, named.trans (read.trans (comma.trans further)), by omega⟩

end

/-! ## Texts -/

theorem allowed_of_margin {b : List Char} (margin : Margin b) : b.all isAllowed = true := by
  rw [List.all_eq_true]
  intro x hx
  obtain rfl | rfl := margin x hx <;> decide

theorem allowed_of_isWordChar {x : Char} (h : isWordChar x = true) : isAllowed x = true := by
  simp only [isWordChar, Bool.or_eq_true, beq_iff_eq] at h
  obtain ((word | rfl) | rfl) | rfl := h
  · obtain ⟨low, high⟩ := Text.toNat_of_isAlphanum word
    exact (inLine_of_printable (by omega) (by omega)).2
  all_goals decide

theorem allowed_of_quoted {ps : List Piece} (common : ps.all Piece.isCommon = true) :
    (Piece.quoted ps).all isAllowed = true :=
  List.all_eq_true.2 fun x hx => (Piece.quoted_common common x hx).2

theorem allowed_flowMarks : isAllowed '[' = true ∧ isAllowed ']' = true ∧ isAllowed '\x7b' = true
    ∧ isAllowed '\x7d' = true ∧ isAllowed ',' = true ∧ isAllowed ':' = true := by decide

theorem allowed_label {l : Label} (common : l.isCommon = true) :
    (l.chars Blank.unified).all isAllowed = true := by
  simp only [Label.isCommon, Bool.and_eq_true] at common
  have gap : Margin (Blank.unified l.gap) := by
    rw [unified_spaces common.1.2]
    simp [Margin]
  simp only [Label.chars, List.all_append, List.all_cons, List.all_nil, allowed_flowMarks,
    allowed_of_margin (margin_unified common.1.1.1), allowed_of_margin gap,
    allowed_of_quoted common.1.1.2, Bool.and_self]

mutual

/-- A document may hold the characters of a common value. -/
theorem allowed_spelling : ∀ {d : Spelling}, d.isCommon = true →
    (d.chars Blank.unified).all isAllowed = true
  | .null, _ => by decide
  | .bool b, _ => by cases b <;> decide
  | .number n, _ => List.all_eq_true.2 fun x hx => allowed_of_isWordChar (n.isWordChar_of_mem x hx)
  | .text ps, common => allowed_of_quoted common
  | .emptyList blanks, common | .emptyMap blanks, common => by
    simp only [Spelling.chars, List.all_append, List.all_cons, List.all_nil, allowed_flowMarks,
      allowed_of_margin (margin_unified common), Bool.and_self]
  | .list items, common => by
    simp only [Spelling.chars, List.all_cons, allowed_flowMarks, allowed_items common,
      Bool.and_self]
  | .map members, common => by
    simp only [Spelling.chars, List.all_cons, allowed_flowMarks, allowed_members common,
      Bool.and_self]

theorem allowed_items : ∀ {l : Items}, l.areCommon = true →
    (l.chars Blank.unified).all isAllowed = true
  | .last before v after, common => by
    simp only [Items.areCommon, Bool.and_eq_true] at common
    simp only [Items.chars, List.all_append, List.all_cons, List.all_nil, allowed_flowMarks,
      allowed_of_margin (margin_unified common.1.1), allowed_spelling common.1.2,
      allowed_of_margin (margin_unified common.2), Bool.and_self]
  | .more before v after rest, common => by
    simp only [Items.areCommon, Bool.and_eq_true] at common
    simp only [Items.chars, List.all_append, List.all_cons, allowed_flowMarks,
      allowed_of_margin (margin_unified common.1.1.1), allowed_spelling common.1.1.2,
      allowed_of_margin (margin_unified common.1.2), allowed_items common.2, Bool.and_self]

theorem allowed_members : ∀ {l : Members}, l.areCommon = true →
    (l.chars Blank.unified).all isAllowed = true
  | .last l before v after, common => by
    simp only [Members.areCommon, Bool.and_eq_true] at common
    simp only [Members.chars, List.all_append, List.all_cons, List.all_nil, allowed_flowMarks,
      allowed_label common.1.1.1, allowed_of_margin (margin_unified common.1.1.2),
      allowed_spelling common.1.2, allowed_of_margin (margin_unified common.2), Bool.and_self]
  | .more l before v after rest, common => by
    simp only [Members.areCommon, Bool.and_eq_true] at common
    simp only [Members.chars, List.all_append, List.all_cons, allowed_flowMarks,
      allowed_label common.1.1.1.1, allowed_of_margin (margin_unified common.1.1.1.2),
      allowed_spelling common.1.1.2, allowed_of_margin (margin_unified common.1.2),
      allowed_members common.2, Bool.and_self]

end

end ClusterOps.Value.Json
