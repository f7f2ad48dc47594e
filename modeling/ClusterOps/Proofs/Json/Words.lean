import ClusterOps.Proofs.Json.Reading
import ClusterOps.Proofs.Yaml.Flow

/-
The words of JSON as words of YAML. A text between quotes is the same text there, if
none of its characters ends a line and none is escaped by halves (`quotedScalar_pieces`).
A number or a literal is a word without quotes, which takes the margin behind it along
(`plainScalar_word`).
-/

namespace ClusterOps.Value.Json

open Yaml

/-! ## Codes -/

theorem Hex.bounds (h : Hex) : h.value < 16 ∧ 48 ≤ h.digit.toNat ∧ h.digit.toNat ≤ 102 := by
  have value := h.hexValue?
  simp only [Json.hexValue?, Bool.and_eq_true, decide_eq_true_eq, Char.le_def,
    UInt32.le_iff_toNat_le] at value
  split at value
  · simp at *
    omega
  · split at value
    · simp at *
      omega
    · split at value
      · simp at *
        omega
      · cases value

theorem Code.value_lt (n : Code) : n.value < 0x10000 := by
  have a := n.a.bounds
  have b := n.b.bounds
  have c := n.c.bounds
  have d := n.d.bounds
  simp only [Code.value]
  omega

/-- A code that is no half is the number of its character. -/
theorem Piece.code_toNat (n : Code) (h : (n.isHigh || n.isLow) = false) :
    (Piece.code n h).char.toNat = n.value := by
  have valid : n.value.isValidChar := by
    have bound := n.value_lt
    simp only [Code.isHigh, Code.isLow, Bool.or_eq_false_iff, Bool.and_eq_false_iff,
      decide_eq_false_iff_not] at h
    unfold Nat.isValidChar
    omega
  rw [Piece.char, Char.ofNat, dif_pos valid]
  rfl

/-! ## Texts -/

section Steps

variable {c : Cursor} {rest : List Char} (fuel : Nat) (done : List Nat)

theorem quotedCodes_end (h : c.rest = '"' :: rest) :
    quotedCodes true (fuel + 1) done c = .ok (done.reverse, c.next) := by
  simp [quotedCodes, h]

theorem quotedCodes_plain {x : Char} (h : c.rest = x :: rest) (quote : x ≠ '"') (slash : x ≠ '\\')
    (gap : isGap x = false) :
    quotedCodes true (fuel + 1) done c = quotedCodes true fuel (x.toNat :: done) c.next := by
  rw [quotedCodes, h]
  simp [quote, slash, gap]

theorem quotedCodes_escaped (e : Escape) (h : c.rest = (Piece.escaped e).chars ++ rest) :
    quotedCodes true (fuel + 1) done c
      = quotedCodes true fuel (e.char.toNat :: done) (c.skip 2) := by
  rw [quotedCodes, h]
  cases e <;> simp [Piece.chars, Escape.letter, Escape.char, escapeCode?]

theorem quotedCodes_code (n : Code) (h : c.rest = n.chars ++ rest) :
    quotedCodes true (fuel + 1) done c = quotedCodes true fuel (n.value :: done) (c.skip 6) := by
  have bound : n.value ≤ 0x10FFFF := by
    have := n.value_lt
    omega
  rw [quotedCodes, h]
  simp [Code.chars, escapeCode?, escapeWidth?, n.hexNumber?, bound]

/-- A run of spaces is taken as a whole, which no line end may follow. -/
theorem quotedCodes_spaces {n : Nat} {x : Char}
    (h : c.rest = List.replicate (n + 1) ' ' ++ x :: rest) (other : isGap x = false) :
    quotedCodes true (fuel + 1) done c
      = quotedCodes true fuel (List.replicate (n + 1) ' '.toNat ++ done) (c.skip (n + 1)) := by
  have ⟨blank, inLine⟩ : (x == ' ' || x == '\t') = false ∧ isBreak x = false := by
    simpa [isGap, and_assoc] using other
  have taken := Cursor.takeWhile_run (fun x => x == ' ' || x == '\t') h (by simp)
    (by simpa using blank)
  have behind := Cursor.skip_run h
  rw [List.length_replicate] at taken behind
  have first : c.rest = ' ' :: (List.replicate n ' ' ++ x :: rest) := h
  have pushed : ∀ (m : Nat) (done : List Nat), (List.replicate m ' ').foldl
      (fun d x => x.toNat :: d) done = List.replicate m ' '.toNat ++ done := by
    intro m
    induction m with
    | zero => intro done; rfl
    | succ m ih =>
      intro done
      rw [List.replicate_succ, List.foldl_cons, ih, List.replicate_succ', List.append_assoc]
      rfl
  rw [quotedCodes, first]
  simp [isGap, taken, Cursor.sees_cons behind, Cursor.peek_cons behind, inLine, pushed]

end Steps

/-- A common character that stands as it is, and is no space, leaves no gap. -/
theorem isGap_of_common {x : Char} {hx : isPlain x = true}
    (common : (Piece.plain x hx).isCommon = true) (space : x ≠ ' ') : isGap x = false := by
  have inLine : isBreak x = false := by
    simp only [Piece.isCommon, Bool.and_eq_true, Bool.not_eq_true'] at common
    exact common.2
  have tab : x ≠ '\t' := by
    rintro rfl
    exact absurd hx (by decide)
  simp [isGap, space, tab, inLine]

/-- A common text starts with spaces and goes on, up to its quote, with a character that leaves no
gap. -/
theorem exists_spaces (tail : List Char) : ∀ ps : List Piece, (∀ p ∈ ps, p.isCommon = true) →
    ∃ (n : Nat) (more : List Piece),
      ps.flatMap Piece.chars = List.replicate n ' ' ++ more.flatMap Piece.chars
      ∧ ps.map Piece.char = List.replicate n ' ' ++ more.map Piece.char
      ∧ more.length ≤ ps.length ∧ (∀ p ∈ more, p.isCommon = true)
      ∧ ∃ x rest, more.flatMap Piece.chars ++ '"' :: tail = x :: rest ∧ isGap x = false
  | [], common => ⟨0, [], rfl, rfl, Nat.le_refl _, common, '"', tail, rfl, by decide⟩
  | .plain x hx :: ps, common => by
    by_cases space : x = ' '
    · subst space
      obtain ⟨n, more, chars, text, short, common, behind⟩ :=
        exists_spaces tail ps fun p hp => common p (by simp [hp])
      refine ⟨n + 1, more, ?_, ?_, by simp; omega, common, behind⟩
      · rw [List.flatMap_cons, chars, List.replicate_succ]
        rfl
      · rw [List.map_cons, text, List.replicate_succ]
        rfl
    · exact ⟨0, .plain x hx :: ps, rfl, rfl, Nat.le_refl _, common, x, _, rfl,
        isGap_of_common (common (.plain x hx) (by simp)) space⟩
  | .escaped e :: ps, common =>
    ⟨0, .escaped e :: ps, rfl, rfl, Nat.le_refl _, common, '\\', _, rfl, by decide⟩
  | .code n h :: ps, common =>
    ⟨0, .code n h :: ps, rfl, rfl, Nat.le_refl _, common, '\\', _, rfl, by decide⟩
  | .pair m n h :: ps, common =>
    ⟨0, .pair m n h :: ps, rfl, rfl, Nat.le_refl _, common, '\\', _, rfl, by decide⟩

/-- A common piece that is no space gives the code of its character. -/
theorem quotedCodes_piece {c : Cursor} {rest : List Char} (fuel : Nat) (done : List Nat) (p : Piece)
    (common : p.isCommon = true) (other : p.chars ≠ [' ']) (h : c.rest = p.chars ++ rest) :
    quotedCodes true (fuel + 1) done c
      = quotedCodes true fuel (p.char.toNat :: done) (c.skip p.chars.length) := by
  cases p with
  | plain x hx =>
    have ⟨quote, slash⟩ : x ≠ '"' ∧ x ≠ '\\' := by
      simp only [isPlain, Bool.and_eq_true, bne_iff_ne] at hx
      exact ⟨hx.1.2, hx.2⟩
    have space : x ≠ ' ' := fun e => other (congrArg (fun x => [x]) e)
    exact quotedCodes_plain fuel done h quote slash (isGap_of_common common space)
  | escaped e => exact quotedCodes_escaped fuel done e h
  | code n whole =>
    rw [Piece.code_toNat n whole]
    exact quotedCodes_code fuel done n h
  | pair => simp [Piece.isCommon] at common

/-- The pieces of a common text are read one by one, runs of spaces at once. -/
theorem quotedCodes_pieces {tail : List Char} : ∀ (fuel : Nat) (ps : List Piece) (done : List Nat)
    {c : Cursor}, (∀ p ∈ ps, p.isCommon = true) →
      c.rest = ps.flatMap Piece.chars ++ '"' :: tail → ps.length < fuel →
        quotedCodes true fuel done c
          = .ok (done.reverse ++ (ps.map Piece.char).map Char.toNat,
              c.skip ((ps.flatMap Piece.chars).length + 1))
  | 0, ps, done, c, common, h, enough => by omega
  | fuel + 1, [], done, c, common, h, enough => by
    rw [quotedCodes_end fuel done h]
    simp [Cursor.next_eq_skip]
  | fuel + 1, p :: ps, done, c, common, h, enough => by
    rw [List.length_cons] at enough
    by_cases space : p.chars = [' ']
    · have char : p.char = ' ' := by
        cases p with
        | plain x hx => exact List.head_eq_of_cons_eq space
        | escaped | code | pair => simp [Piece.chars, Code.chars] at space
      obtain ⟨n, more, chars, text, short, common, x, rest, behind, other⟩ :=
        exists_spaces tail ps fun p hp => common p (by simp [hp])
      have run : c.rest = List.replicate (n + 1) ' ' ++ x :: rest := by
        rw [h, List.flatMap_cons, space, chars, ← behind, List.replicate_succ]
        simp
      have place : (c.skip (n + 1)).rest = more.flatMap Piece.chars ++ '"' :: tail := by
        have := Cursor.skip_run run
        rwa [List.length_replicate, ← behind] at this
      rw [quotedCodes_spaces fuel done run other,
        quotedCodes_pieces fuel more _ common place (by omega), ← Cursor.skip_add, List.map_cons,
        text, List.flatMap_cons, chars, space, char]
      simp [List.replicate_succ', Nat.add_assoc, Nat.add_comm, Nat.add_left_comm]
    · rw [List.flatMap_cons, List.append_assoc] at h
      rw [quotedCodes_piece fuel done p (common p (by simp)) space h,
        quotedCodes_pieces fuel ps _ (fun p hp => common p (by simp [hp])) (Cursor.skip_run h)
          (by omega), ← Cursor.skip_add, List.flatMap_cons, List.length_append, Nat.add_assoc]
      simp

theorem length_le_chars : ∀ ps : List Piece, ps.length ≤ (ps.flatMap Piece.chars).length
  | [] => Nat.le_refl _
  | p :: ps => by
    have first : 1 ≤ p.chars.length := by cases p <;> simp [Piece.chars, Code.chars]
    have rest := length_le_chars ps
    rw [List.flatMap_cons, List.length_append, List.length_cons]
    omega

/-- A common text between quotes is read as that text. -/
theorem quotedScalar_pieces {ps : List Piece} {tail : List Char} {c : Cursor}
    (common : ps.all Piece.isCommon = true) (h : c.rest = Piece.quoted ps ++ tail)
    (sized : c.rest.length ≤ c.size) :
    quotedScalar true c = .ok (⟨Piece.text ps, false, none⟩, c.skip (Piece.quoted ps).length) := by
  have behind : c.next.rest = ps.flatMap Piece.chars ++ '"' :: tail := by
    rw [Cursor.next_rest, h]
    simp [Piece.quoted]
  have enough : ps.length < c.size + 1 := by
    have := length_le_chars ps
    rw [h] at sized
    simp only [Piece.quoted, List.length_append, List.length_cons] at sized
    omega
  have length : (Piece.quoted ps).length = 1 + ((ps.flatMap Piece.chars).length + 1) := by
    simp [Piece.quoted, Nat.add_comm]
  rw [quotedScalar, quotedCodes_pieces _ ps [] (List.all_eq_true.1 common) behind enough, length,
    Cursor.skip_add 1 _ c]
  simp only [Bind.bind, Except.bind, List.reverse_nil, List.nil_append, Text.joined_toNat,
    Text.Halves.ofCodes?_toNat]
  rfl

/-! ## Words without quotes -/

/-- Whether a number or a literal may hold the character. -/
def isWordChar (x : Char) : Bool := x.isAlphanum || x == '-' || x == '+' || x == '.'

/-- What may stand behind a value and the margin behind it: a separator, a bracket or nothing. -/
def Ends (tail : List Char) : Prop := ∀ x ∈ tail.head?, x = ',' ∨ x = ']' ∨ x = '\x7d'

/-- A word without quotes goes on with any of its characters. -/
theorem endsPlain_word {x : Char} (h : isWordChar x = true) (rest : List Char) :
    endsPlain true (x :: rest) = false := by
  have other (y : Char) (hy : isWordChar y = false) : x ≠ y := by
    rintro rfl
    simp [h] at hy
  have gap : isGap x = false := by
    simp only [isWordChar, Bool.or_eq_true, beq_iff_eq] at h
    obtain ((word | rfl) | rfl) | rfl := h
    · exact Scan.isGap_of_isAlphanum word
    all_goals decide
  have colon := other ':' (by decide)
  have comma := other ',' (by decide)
  have question := other '?' (by decide)
  have openList := other '[' (by decide)
  have closeList := other ']' (by decide)
  have openMap := other '\x7b' (by decide)
  have closeMap := other '\x7d' (by decide)
  simp [endsPlain, gap, colon, comma, question, openList, closeList, openMap, closeMap]

section Margins

variable {c : Cursor} {b tail : List Char} (margin : Margin b) (ends : Ends tail)

include margin ends

/-- A word without quotes ends with a gap, or with what may stand behind a value. -/
theorem endsPlain_margin : endsPlain true (b ++ tail) = true := by
  cases b with
  | nil =>
    cases tail with
    | nil => rfl
    | cons x tail =>
      obtain rfl | rfl | rfl := ends x (by simp) <;> simp [endsPlain]
  | cons x b =>
    obtain rfl | rfl := margin x (by simp) <;> simp [endsPlain, isGap, isBreak]

/-- No separator of documents stands in front of what may stand behind a value. -/
theorem seesSeparator_margin (h : c.rest = b ++ tail) : c.seesSeparator = false := by
  have other : c.peek ≠ some '-' ∧ c.peek ≠ some '.' := by
    rw [Cursor.peek, h]
    cases b with
    | nil =>
      cases tail with
      | nil => simp
      | cons x tail => obtain rfl | rfl | rfl := ends x (by simp) <;> simp
    | cons x b => obtain rfl | rfl := margin x (by simp) <;> simp
  rw [Cursor.seesSeparator, Cursor.seesMark_eq_false other.1, Cursor.seesMark_eq_false other.2]
  rfl

end Margins

theorem Ends.starts {tail : List Char} (ends : Ends tail) : Starts tail := by
  intro x hx
  obtain rfl | rfl | rfl := ends x hx <;> decide

theorem plainRun_word (word : List Char) {rest : List Char} (ends : endsPlain true rest = true) :
    ∀ (done : List Char) {c : Cursor}, (∀ x ∈ word, isWordChar x = true) →
      plainRun true done c (word ++ rest) = (word.reverse ++ done, c.skip word.length) := by
  induction word with
  | nil =>
    intro done c _
    cases rest with
    | nil => rfl
    | cons x rest => rw [List.nil_append, plainRun, if_pos ends]; rfl
  | cons x word ih =>
    intro done c all
    rw [List.cons_append, plainRun,
      if_neg (by simp [endsPlain_word (all x (by simp)) (word ++ rest)]),
      ih _ fun y hy => all y (by simp [hy])]
    simp [Cursor.skip]

theorem plainBreaks_margin {tail : List Char} (ends : Ends tail) : ∀ (fuel : Nat)
    {b : List Char} (done : List Char) {c : Cursor}, Margin b → c.rest = b ++ tail →
      b.length < fuel → ∃ breaks, plainBreaks fuel done c = (some breaks, c.skip b.length)
  | 0, b, done, c, margin, h, enough => by omega
  | fuel + 1, [], done, c, margin, h, enough => by
    have starts : Starts c.rest := h ▸ ends.starts
    have space : c.peek ≠ some ' ' := by
      intro space
      exact absurd (starts ' ' (by simpa [Cursor.peek] using space)) (by decide)
    exact ⟨done, by simp [plainBreaks, space, Cursor.sees_isBreak_of_starts starts, Cursor.skip]⟩
  | fuel + 1, x :: b, done, c, margin, h, enough => by
    have behind : c.next.rest = b ++ tail := by rw [Cursor.next_rest, h]; rfl
    have margin' : Margin b := fun y hy => margin y (by simp [hy])
    rw [List.length_cons] at enough
    rw [List.cons_append] at h
    obtain rfl | rfl := margin x (by simp)
    · obtain ⟨breaks, read⟩ := plainBreaks_margin ends fuel done margin' behind (by omega)
      exact ⟨breaks, by simp [plainBreaks, Cursor.peek_cons h, read, Cursor.skip]⟩
    · obtain ⟨breaks, read⟩ :=
        plainBreaks_margin ends fuel (done ++ ['\n']) margin' behind (by omega)
      have isBreak : isBreak '\n' = true := by decide
      exact ⟨breaks, by
        simp [plainBreaks, Cursor.peek_cons h, Cursor.sees_cons h, isBreak, Cursor.lineBreak_feed h,
          seesSeparator_margin margin' ends behind, read, Cursor.skip]⟩

/-- The margin behind a word without quotes is a gap in it, as far as the word knows. -/
theorem plainGap_margin {c : Cursor} {b tail : List Char} (h : c.rest = b ++ tail)
    (margin : Margin b) (ends : Ends tail) (sized : c.rest.length ≤ c.size) :
    ∃ gap ended, plainGap c = (gap, c.skip b.length, ended) := by
  obtain ⟨n, rfl⟩ | ⟨n, more, rfl, margin'⟩ := margin.split
  · have stops : ∀ x ∈ tail.head?, (x == ' ') = false := by
      intro x hx
      obtain rfl | rfl | rfl := ends x hx <;> decide
    have taken := Cursor.takeWhile_run (· == ' ') h (by simp) stops
    have behind := Cursor.skip_run h
    have inLine : (c.skip (List.replicate n ' ').length).sees isBreak = false :=
      Cursor.sees_isBreak_of_starts (by rw [behind]; exact ends.starts)
    refine ⟨List.replicate n ' ', false, ?_⟩
    simp only [plainGap, taken, inLine, Bool.false_eq_true, if_false]
  · rw [List.append_assoc] at h
    have taken := Cursor.takeWhile_run (· == ' ') h (by simp) (by simp)
    have feed := Cursor.skip_run h
    rw [List.length_replicate] at taken feed
    have next : (c.skip n).next.rest = more ++ tail := by rw [Cursor.next_rest, feed]; rfl
    have enough : more.length < (c.skip n).next.size + 1 := by
      have := congrArg List.length h
      simp only [List.length_append, List.length_cons] at this
      simp only [Cursor.next_size, Cursor.skip_size]
      omega
    obtain ⟨breaks, read⟩ := plainBreaks_margin ends _ [] margin' next enough
    have length : (List.replicate n ' ' ++ '\n' :: more).length = n + (1 + more.length) := by
      simp [Nat.add_comm]
    refine ⟨foldBreak ['\n'] breaks, true, ?_⟩
    rw [length, Cursor.skip_add, Cursor.skip_add, ← Cursor.next_eq_skip]
    have isBreak : isBreak '\n' = true := by decide
    simp only [plainGap, taken, Cursor.sees_cons feed, isBreak, if_true, Cursor.lineBreak_feed feed,
      seesSeparator_margin margin' ends next, Bool.false_eq_true, if_false, read]

/-- A word without quotes takes the margin behind it along. -/
theorem plainScalar_word {c : Cursor} {word b tail : List Char} (h : c.rest = word ++ (b ++ tail))
    (given : word ≠ []) (all : ∀ x ∈ word, isWordChar x = true) (margin : Margin b)
    (ends : Ends tail) (sized : c.rest.length ≤ c.size) :
    ∃ allow, plainScalar true (-1) c
      = (⟨String.ofList word, true, none⟩, allow, c.skip (word ++ b).length) := by
  obtain ⟨x, more, rfl⟩ := List.exists_cons_of_ne_nil given
  obtain ⟨fuel, enough⟩ : ∃ fuel, c.size = fuel + 1 := by
    rw [h] at sized
    exact Nat.exists_eq_add_one_of_ne_zero (by simp at sized; omega)
  have comment : c.peek ≠ some '#' := by
    have start := all x (by simp)
    rw [Cursor.peek_cons h]
    rintro same
    obtain rfl := Option.some.inj same
    exact absurd start (by decide)
  have run := plainRun_word (x :: more) (endsPlain_margin margin ends) [] (c := c) all
  rw [← h, List.append_nil] at run
  have place : (c.skip (x :: more).length).rest = b ++ tail := Cursor.skip_run h
  obtain ⟨gap, ended, read⟩ := plainGap_margin place margin ends (by
    have := congrArg List.length h
    simp only [List.length_append] at this
    rw [place, Cursor.skip_size]
    simp
    omega)
  rw [← Cursor.skip_add, ← List.length_append] at read
  have behind : (c.skip (x :: more ++ b).length).rest = tail := by
    rw [← List.append_assoc] at h
    exact Cursor.skip_run h
  generalize c.skip (x :: more ++ b).length = after at read behind
  have last : ∀ done gap allow,
      plainRuns true 0 (fuel + 1) done gap allow after = (done, allow, after) := by
    intro done gap allow
    have comment : after.peek ≠ some '#' := by
      intro comment
      exact absurd (ends.starts '#' (by simpa [Cursor.peek, behind] using comment)) (by decide)
    have none := plainRun_word [] (endsPlain_margin (b := []) (by simp [Margin]) ends) []
      (c := after) (by simp)
    rw [List.nil_append, List.nil_append] at none
    rw [plainRuns, behind, none]
    simp [comment, Cursor.skip]
  have whole : ∃ allow, plainRuns true 0 (fuel + 1 + 1) [] [] false c
      = ((x :: more).reverse, allow, after) := by
    have given : (x :: more).reverse.isEmpty = false := by simp
    have noComment : (c.peek == some '#') = false := by simpa using comment
    rw [plainRuns, run]
    simp only [noComment, Bool.false_eq_true, if_false, given, read, last, List.reverse_nil,
      List.append_nil]
    split <;> exact ⟨_, rfl⟩
  obtain ⟨allow, whole⟩ := whole
  refine ⟨allow, ?_⟩
  rw [plainScalar, enough]
  simp [whole]

/-! ## Numbers as words -/

theorem isWordChar_of_isDigit {x : Char} (h : x.isDigit = true) : isWordChar x = true := by
  simp [isWordChar, Text.isAlphanum_of_isDigit h]

/-- A number in front of its exponent. -/
def Numeral.front (n : Numeral) : List Char :=
  (if n.negative then ['-'] else []) ++ (n.whole ++ n.fraction)

theorem Numeral.chars_eq (n : Numeral) :
    n.chars = n.front ++ n.exponent.elim [] Exponent.chars := by
  simp [Numeral.chars, Numeral.unsigned, Numeral.front]

theorem Numeral.mem_front {n : Numeral} {x : Char} (h : x ∈ n.front) :
    x.isDigit = true ∨ x = '-' ∨ x = '.' := by
  simp only [Numeral.front, List.mem_append] at h
  obtain sign | whole | fraction := h
  · cases negative : n.negative <;> simp [negative] at sign
    exact .inr (.inl sign)
  · exact .inl (n.areDigits x (List.mem_append_left _ whole))
  · unfold Numeral.fraction at fraction
    split at fraction
    · cases fraction
    · obtain rfl | decimal := List.mem_cons.1 fraction
      · exact .inr (.inr rfl)
      · exact .inl (n.areDigits x (List.mem_append_right _ decimal))

theorem Exponent.mem_power {e : Exponent} {x : Char} (h : x ∈ signChars e.sign ++ e.digits) :
    x.isDigit = true ∨ x = '-' ∨ x = '+' := by
  obtain sign | digits := List.mem_append.1 h
  · match e.sign, sign with
    | some true, sign => exact .inr (.inl (List.mem_singleton.1 sign))
    | some false, sign => exact .inr (.inr (List.mem_singleton.1 sign))
  · exact .inl (e.areDigits x digits)

theorem Numeral.isWordChar_of_mem (n : Numeral) : ∀ x ∈ n.chars, isWordChar x = true := by
  have letters : ∀ capital : Bool, isWordChar (if capital then 'E' else 'e') = true := by decide
  intro x hx
  rw [n.chars_eq] at hx
  obtain front | exponent := List.mem_append.1 hx
  · obtain digit | rfl | rfl := Numeral.mem_front front
    · exact isWordChar_of_isDigit digit
    all_goals decide
  · cases given : n.exponent with
    | none => simp [given] at exponent
    | some e =>
      rw [given, Option.elim_some, Exponent.chars] at exponent
      obtain rfl | power := List.mem_cons.1 exponent
      · exact letters e.capital
      · obtain digit | rfl | rfl := Exponent.mem_power power
        · exact isWordChar_of_isDigit digit
        all_goals decide

theorem Numeral.startsBare (n : Numeral) (rest : List Char) :
    Scan.StartsBare (n.chars ++ rest) := by
  obtain ⟨d, ds, head, digit⟩ := n.unsigned_head
  unfold Numeral.chars
  rw [head]
  cases n.negative with
  | true => exact ⟨'-', _, rfl, .inr ⟨rfl, d, _, rfl, digit⟩⟩
  | false => exact ⟨d, _, rfl, .inl (Text.isAlphanum_of_isDigit digit)⟩

end ClusterOps.Value.Json
