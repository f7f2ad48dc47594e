import ClusterOps.Proofs.Json.Spelling
import ClusterOps.Proofs.Text.Run

/-
The reader of JSON takes every text that the grammar gives, and reads the value that
the text spells (`read?_spelled`). A loop over characters has to be shown to stop where
its word ends; what may stand behind a value stops all of them (`Closes`).
-/

namespace ClusterOps.Value.Json

/-! ## What stands behind a value -/

/-- The characters that may stand behind a value. -/
def closers : List Char := [' ', '\t', '\n', '\r', ',', ']', '\x7d']

/-- A text that may stand behind a value. -/
def Closes (cs : List Char) : Prop := ∀ c ∈ cs.head?, c ∈ closers

theorem closes_nil : Closes [] := by simp [Closes]

theorem closes_cons {c : Char} (h : c ∈ closers) (cs : List Char) : Closes (c :: cs) := by
  simpa [Closes] using h

theorem Blank.char_mem_closers (b : Blank) : b.char ∈ closers := by cases b <;> decide

theorem Closes.blanks {cs : List Char} (h : Closes cs) :
    ∀ bs : List Blank, Closes (Blank.chars bs ++ cs)
  | [] => h
  | b :: bs => closes_cons b.char_mem_closers (Blank.chars bs ++ cs)

theorem Closes.stops {cs : List Char} (h : Closes cs) (test : Char → Bool)
    (ht : closers.any test = false) : ∀ c ∈ cs.head?, test c = false :=
  fun c hc => by simpa using List.any_eq_false.1 ht c (h c hc)

/-! ## Blanks -/

theorem skipBlanks_blanks (bs : List Blank) (cs : List Char) :
    skipBlanks (Blank.chars bs ++ cs) = skipBlanks cs := by
  induction bs with
  | nil => rfl
  | cons b bs ih =>
    rw [← ih]
    cases b <;> rfl

/-! ## Texts -/

theorem Hex.hexValue? (h : Hex) : Json.hexValue? h.digit = some h.value :=
  (Option.some_get h.isHex).symm

theorem Code.hexNumber? (n : Code) :
    Json.hexNumber? [n.a.digit, n.b.digit, n.c.digit, n.d.digit] = some n.value := by
  simp [Json.hexNumber?, Hex.hexValue?, Code.value]

/-- One piece adds its character. -/
theorem textRest?_piece (p : Piece) (done rest : List Char) :
    textRest? none done (p.chars ++ rest) = textRest? none (p.char :: done) rest := by
  cases p with
  | plain c h =>
    have ⟨visible, quote, slash⟩ : 0x20 ≤ c.toNat ∧ c ≠ '"' ∧ c ≠ '\\' := by
      simpa [isPlain, and_assoc] using h
    have low : ¬ c.toNat < 0x20 := by omega
    rw [Piece.chars, List.singleton_append, textRest?]
    · simp [low, slash, Piece.char]
    · exact fun e => quote e
    · exact fun _ _ _ _ _ e => absurd e slash
    · exact fun _ _ e => absurd e slash
  | escaped e =>
    cases e <;>
      simp [Piece.chars, Piece.char, Escape.letter, Escape.char, textRest?, unescape?]
  | code n h =>
    have ⟨high, low⟩ : n.isHigh = false ∧ n.isLow = false := by simpa using h
    simp only [Code.isHigh, Code.isLow] at high low
    simp [Piece.chars, Code.chars, textRest?, n.hexNumber?, Piece.char, high, low]
  | pair high low h =>
    have ⟨isHigh, isLow⟩ : high.isHigh = true ∧ low.isLow = true := by simpa using h
    simp only [Code.isHigh, Code.isLow] at isHigh isLow
    simp [Piece.chars, Code.chars, textRest?, high.hexNumber?, low.hexNumber?, Piece.char, isHigh,
      isLow]

/-- The pieces of a text are read up to the closing quote. -/
theorem textRest?_pieces (ps : List Piece) (done rest : List Char) :
    textRest? none done (ps.flatMap Piece.chars ++ '"' :: rest)
      = some (String.ofList (done.reverse ++ ps.map Piece.char), rest) := by
  induction ps generalizing done with
  | nil => simp [textRest?]
  | cons p ps ih =>
    rw [List.flatMap_cons, List.append_assoc, textRest?_piece, ih]
    simp

/-! ## Numbers -/

/-- Where a run of digits ends and no point follows. -/
theorem Closes.noDigit {cs : List Char} (h : Closes cs) : ∀ c ∈ cs.head?, c.isDigit = false :=
  h.stops Char.isDigit (by decide)

theorem exponent?_none {cs : List Char} (h : Closes cs) : exponent? cs = some (none, cs) := by
  cases cs with
  | nil => rfl
  | cons c cs =>
    have other : (c == 'e' || c == 'E') = false :=
      h.stops (fun c => c == 'e' || c == 'E') (by decide) c (by simp)
    simp [exponent?, other]

theorem exponent?_chars (e : Exponent) {tail : List Char} (h : Closes tail) :
    exponent? (e.chars ++ tail) = some (some e.value, tail) := by
  have taken := Text.takeWhile_run e.areDigits h.noDigit
  have left := Text.dropWhile_run e.areDigits h.noDigit
  have letter : ∀ capital : Bool,
      ((if capital then 'E' else 'e') == 'e' || (if capital then 'E' else 'e') == 'E') = true := by
    decide
  obtain ⟨d, ds, digits⟩ := List.exists_cons_of_ne_nil e.given
  have isDigit : d.isDigit = true := e.areDigits d (by simp [digits])
  have minus : ∀ rest, e.digits ++ tail ≠ '-' :: rest := by
    rintro rest same
    rw [digits, List.cons_append, List.cons.injEq] at same
    exact absurd (same.1 ▸ isDigit) (by decide)
  have plus : ∀ rest, e.digits ++ tail ≠ '+' :: rest := by
    rintro rest same
    rw [digits, List.cons_append, List.cons.injEq] at same
    exact absurd (same.1 ▸ isDigit) (by decide)
  simp only [Exponent.chars, List.cons_append, List.append_assoc, exponent?, letter, if_true]
  match sign : e.sign with
  | some true => simp [Exponent.signChars, taken, left, e.given, Exponent.value, sign]
  | some false => simp [Exponent.signChars, taken, left, e.given, Exponent.value, sign]
  | none => simp [Exponent.signChars, taken, left, e.given, Exponent.value, sign]

/-- The exponent of a number, if it has one. -/
theorem exponent?_elim (n : Numeral) {tail : List Char} (h : Closes tail) :
    exponent? (n.exponent.elim [] Exponent.chars ++ tail)
      = some (n.exponent.map Exponent.value, tail) := by
  cases n.exponent with
  | none => exact exponent?_none h
  | some e => exact exponent?_chars e h

/-- Neither a digit nor a point stands behind the digits of a number. -/
theorem Numeral.exponent_head (n : Numeral) {tail : List Char} (h : Closes tail) :
    ∀ c ∈ (n.exponent.elim [] Exponent.chars ++ tail).head?, c.isDigit = false ∧ c ≠ '.' := by
  cases n.exponent with
  | none =>
    intro c hc
    exact ⟨h.noDigit c hc, by simpa using h.stops (· == '.') (by decide) c hc⟩
  | some e =>
    have : ∀ capital : Bool, (if capital then 'E' else 'e').isDigit = false
        ∧ (if capital then 'E' else 'e') ≠ '.' := by decide
    simpa [Exponent.chars] using this e.capital

theorem fraction?_chars (n : Numeral) {rest : List Char}
    (h : ∀ c ∈ rest.head?, c.isDigit = false ∧ c ≠ '.') :
    fraction? (n.fraction ++ rest) = some (n.decimals, rest) := by
  by_cases none : n.decimals = []
  · simp only [Numeral.fraction, none, if_true, List.nil_append]
    unfold fraction?
    split
    case h_1 => exact absurd rfl (h '.' (by simp)).2
    case h_2 => rfl
  · have digits : ∀ c ∈ n.decimals, c.isDigit = true := fun c hc => n.areDigits c (by simp [hc])
    have stops : ∀ c ∈ rest.head?, c.isDigit = false := fun c hc => (h c hc).1
    simp [Numeral.fraction, none, fraction?, Text.takeWhile_run digits stops,
      Text.dropWhile_run digits stops]

/-- A number starts with a digit, after its sign. -/
theorem Numeral.unsigned_head (n : Numeral) :
    ∃ c cs, n.unsigned = c :: cs ∧ c.isDigit = true := by
  obtain ⟨c, cs, whole⟩ := List.exists_cons_of_ne_nil n.given
  exact ⟨c, _, by rw [Numeral.unsigned, whole, List.cons_append],
    n.areDigits c (by simp [whole])⟩

theorem number?_unsigned (n : Numeral) {tail : List Char} (h : Closes tail) :
    (n.unsigned ++ tail).span Char.isDigit
      = (n.whole, n.fraction ++ (n.exponent.elim [] Exponent.chars ++ tail)) := by
  have digits : ∀ c ∈ n.whole, c.isDigit = true := fun c hc => n.areDigits c (by simp [hc])
  have stops : ∀ c ∈ (n.fraction ++ (n.exponent.elim [] Exponent.chars ++ tail)).head?,
      c.isDigit = false := by
    by_cases none : n.decimals = []
    · simpa [Numeral.fraction, none] using fun c hc => (n.exponent_head h c hc).1
    · simp [Numeral.fraction, none]
  rw [Numeral.unsigned, List.append_assoc, List.append_assoc, Text.span_run digits stops]

theorem number?_chars (n : Numeral) {tail : List Char} (h : Closes tail) :
    number? (n.chars ++ tail) = some (n.value, tail) := by
  have formed : (n.whole.isEmpty || (n.whole.length > 1 && n.whole.head? == some '0')) = false := by
    have given := n.given
    have unpadded := n.unpadded
    by_cases zero : n.whole.head? = some '0'
    · simp [unpadded zero]
    · simp [given, zero]
  have kind : (n.decimals.isEmpty && (n.exponent.map Exponent.value).isNone) = n.isWhole := by
    simp [Numeral.isWhole]
  have power : (n.exponent.map Exponent.value).getD 0 - (n.decimals.length : Int) = n.power := by
    cases e : n.exponent <;> simp [Numeral.power, e]
  have minus : ∀ rest, n.unsigned ++ tail ≠ '-' :: rest := by
    obtain ⟨c, cs, head, digit⟩ := n.unsigned_head
    rintro rest same
    rw [head, List.cons_append, List.cons.injEq] at same
    exact absurd (same.1 ▸ digit) (by decide)
  have fraction := fraction?_chars n (n.exponent_head h)
  have exponent := exponent?_elim n h
  unfold number? Numeral.value Numeral.chars
  cases n.negative with
  | true =>
    simp only [if_true, List.cons_append, List.nil_append, number?_unsigned n h, formed, fraction,
      exponent, kind, power, Bool.false_eq_true, if_false, Numeral.digits]
    split <;> rfl
  | false =>
    simp only [List.nil_append, number?_unsigned n h, formed, fraction,
      exponent, kind, power, Bool.false_eq_true, if_false, Numeral.digits]
    split <;> rfl

/-! ## Values -/

/-- The characters with which a value may start, apart from digits. -/
def starters : List Char := ['"', '[', '\x7b', 't', 'f', 'n', '-']

/-- Whether a value may start with the character. -/
def startsValue (c : Char) : Bool := starters.contains c || c.isDigit

/-- A number starts with a sign or a digit. -/
theorem Numeral.chars_head (n : Numeral) : ∃ c cs, n.chars = c :: cs ∧ (c = '-' ∨ c.isDigit) := by
  obtain ⟨c, cs, head, digit⟩ := n.unsigned_head
  unfold Numeral.chars
  cases n.negative with
  | true => exact ⟨'-', n.unsigned, rfl, .inl rfl⟩
  | false => exact ⟨c, cs, head, .inr digit⟩

theorem Spelling.chars_head (write : List Blank → List Char) (d : Spelling) :
    ∃ c cs, d.chars write = c :: cs ∧ startsValue c = true := by
  cases d with
  | null => exact ⟨_, _, rfl, by decide⟩
  | bool b => cases b <;> exact ⟨_, _, rfl, by decide⟩
  | number n =>
    obtain ⟨c, cs, head, rfl | digit⟩ := n.chars_head
    · exact ⟨_, _, head, by decide⟩
    · exact ⟨_, _, head, by simp [startsValue, digit]⟩
  | text | emptyList | list | emptyMap | map => exact ⟨_, _, rfl, by decide⟩

theorem ne_of_startsValue {c x : Char} (h : startsValue c = true) (hx : startsValue x = false) :
    c ≠ x := by
  rintro rfl
  simp [h] at hx

theorem skipBlanks_of_startsValue {c : Char} (h : startsValue c = true) (cs : List Char) :
    skipBlanks (c :: cs) = c :: cs := by
  have other (x : Char) (hx : startsValue x = false) : c ≠ x := ne_of_startsValue h hx
  have space := other ' ' (by decide)
  have tab := other '\t' (by decide)
  have feed := other '\n' (by decide)
  have back := other '\r' (by decide)
  simp [skipBlanks, space, tab, feed, back]

/-- A number is no other kind of value. -/
theorem value?_number (n : Numeral) (fuel : Nat) {tail : List Char} (h : Closes tail) :
    value? (fuel + 1) (n.chars ++ tail) = some (n.value, tail) := by
  obtain ⟨c, cs, head, start⟩ := n.chars_head
  have other : ∀ x : Char, x ≠ '-' → x.isDigit = false → c ≠ x := by
    rintro x minus digit rfl
    obtain rfl | isDigit := start
    · exact minus rfl
    · simp [digit] at isDigit
  have starts : startsValue c = true := by
    obtain rfl | digit := start
    · decide
    · simp [startsValue, digit]
  rw [← number?_chars n h, head, List.cons_append]
  unfold value?
  rw [skipBlanks_of_startsValue starts]
  split <;> first
    | rfl
    | (next same => exact absurd (List.cons.inj same).1 (other _ (by decide) (by decide)))

theorem value?_blanks (fuel : Nat) (bs : List Blank) (cs : List Char) :
    value? fuel (Blank.chars bs ++ cs) = value? fuel cs := by
  cases fuel with
  | zero => rfl
  | succ fuel => rw [value?, value?, skipBlanks_blanks]

theorem items?_blanks (fuel : Nat) (done : List Value) (bs : List Blank) (cs : List Char) :
    items? fuel done (Blank.chars bs ++ cs) = items? fuel done cs := by
  cases fuel with
  | zero => rfl
  | succ fuel => rw [items?, items?, value?_blanks]

theorem members?_blanks (fuel : Nat) (done : List (Value × Value)) (bs : List Blank)
    (cs : List Char) : members? fuel done (Blank.chars bs ++ cs) = members? fuel done cs := by
  cases fuel with
  | zero => rfl
  | succ fuel => rw [members?, members?, skipBlanks_blanks]

/-- Where a list starts its items are read. -/
theorem value?_items (l : Items) (fuel : Nat) (tail : List Char) :
    value? (fuel + 1) ('[' :: (l.chars Blank.chars ++ tail))
      = items? fuel [] (l.chars Blank.chars ++ tail) := by
  obtain ⟨bs, c, cs, chars, starts⟩ : ∃ bs c cs,
      l.chars Blank.chars ++ tail = Blank.chars bs ++ c :: cs ∧ startsValue c = true := by
    cases l with
    | last before v after | more before v after =>
      obtain ⟨c, cs, head, starts⟩ := v.chars_head Blank.chars
      exact ⟨before, c, _, by simp [Items.chars, head]; rfl, starts⟩
  have first : skipBlanks (Blank.chars bs ++ c :: cs) = c :: cs := by
    rw [skipBlanks_blanks, skipBlanks_of_startsValue starts]
  have goes : c ≠ ']' := ne_of_startsValue starts (by decide)
  have here (cs : List Char) : skipBlanks ('[' :: cs) = '[' :: cs := rfl
  rw [chars, items?_blanks, value?, here]
  simp only []
  rw [first]
  split
  case h_1 same => exact absurd (List.cons.inj same).1 goes
  case h_2 => rfl

/-- Where a map starts its members are read. -/
theorem value?_members (l : Members) (fuel : Nat) (tail : List Char) :
    value? (fuel + 1) ('\x7b' :: (l.chars Blank.chars ++ tail))
      = members? fuel [] (l.chars Blank.chars ++ tail) := by
  obtain ⟨bs, cs, chars⟩ : ∃ bs cs,
      l.chars Blank.chars ++ tail = Blank.chars bs ++ '"' :: cs := by
    cases l with
    | last l | more l =>
      exact ⟨l.before, _, by simp [Members.chars, Label.chars, Piece.quoted]; rfl⟩
  have first : skipBlanks (Blank.chars bs ++ '"' :: cs) = '"' :: cs := skipBlanks_blanks _ _
  have here (cs : List Char) : skipBlanks ('\x7b' :: cs) = '\x7b' :: cs := rfl
  rw [chars, members?_blanks, value?, here]
  simp only []
  rw [first]
  rfl

/-- A member is its key and its value. -/
theorem members?_label (l : Label) (fuel : Nat) (done : List (Value × Value)) (rest : List Char) :
    members? (fuel + 1) done (l.chars Blank.chars ++ rest)
      = match value? fuel rest with
        | none => none
        | some (v, rest) =>
          match skipBlanks rest with
          | ',' :: rest => members? fuel (put done (.text (Piece.text l.key)) v) rest
          | '\x7d' :: rest => some (.map (put done (.text (Piece.text l.key)) v), rest)
          | _ => none := by
  have chars : l.chars Blank.chars ++ rest = Blank.chars l.before ++ '"' ::
      (l.key.flatMap Piece.chars ++ '"' :: (Blank.chars l.gap ++ ':' :: rest)) := by
    simp [Label.chars, Piece.quoted]
  have quote (cs : List Char) : skipBlanks ('"' :: cs) = '"' :: cs := rfl
  have colon : skipBlanks (Blank.chars l.gap ++ ':' :: rest) = ':' :: rest := skipBlanks_blanks _ _
  rw [chars, members?_blanks, members?, quote]
  simp only [textRest?_pieces]
  rw [colon]
  rfl

mutual

/-- A value is read as it is spelled, if there is fuel for each of its characters. -/
theorem value?_spelled : ∀ (d : Spelling) {fuel : Nat} {tail : List Char},
    (d.chars Blank.chars).length ≤ fuel → Closes tail →
      value? fuel (d.chars Blank.chars ++ tail) = some (d.value, tail)
  | .null, fuel + 1, tail, _, h => rfl
  | .bool b, fuel + 1, tail, _, h => by cases b <;> rfl
  | .number n, fuel + 1, tail, _, h => value?_number n fuel h
  | .text ps, fuel + 1, tail, _, h => by
    simp [Spelling.chars, Piece.quoted, value?, skipBlanks, textRest?_pieces, Spelling.value,
      Piece.text]
  | .emptyList inside, fuel + 1, tail, _, h => by
    simp [Spelling.chars, value?, skipBlanks, skipBlanks_blanks, Spelling.value]
  | .list items, fuel + 1, tail, enough, h => by
    rw [Spelling.chars, List.cons_append, value?_items, items?_spelled items]
    · rfl
    · simpa [Spelling.chars] using enough
  | .emptyMap inside, fuel + 1, tail, _, h => by
    simp [Spelling.chars, value?, skipBlanks, skipBlanks_blanks, Spelling.value]
  | .map members, fuel + 1, tail, enough, h => by
    rw [Spelling.chars, List.cons_append, value?_members, members?_spelled members]
    · rfl
    · simpa [Spelling.chars] using enough
  | d, 0, tail, enough, h => by
    obtain ⟨c, cs, head, -⟩ := d.chars_head Blank.chars
    simp [head] at enough

/-- Items are read up to the end of their list. -/
theorem items?_spelled : ∀ (l : Items) {fuel : Nat} {done : List Value} {tail : List Char},
    (l.chars Blank.chars).length ≤ fuel →
      items? fuel done (l.chars Blank.chars ++ tail) = some (.list (done.reverse ++ l.values), tail)
  | .last before v after, fuel + 1, done, tail, enough => by
    have short : (v.chars Blank.chars).length ≤ fuel := by
      simp [Items.chars] at enough
      omega
    have first := value?_spelled v short
      ((closes_cons (c := ']') (by decide) tail).blanks after)
    have bracket : skipBlanks (Blank.chars after ++ ']' :: tail) = ']' :: tail :=
      skipBlanks_blanks _ _
    simp only [Items.chars, List.append_assoc, List.cons_append, List.nil_append, items?,
      value?_blanks, first]
    rw [bracket]
    simp [Items.values]
  | .more before v after rest, fuel + 1, done, tail, enough => by
    have ⟨short, enough⟩ : (v.chars Blank.chars).length ≤ fuel
        ∧ (rest.chars Blank.chars).length ≤ fuel := by
      simp [Items.chars] at enough
      omega
    have first := value?_spelled v short
      ((closes_cons (c := ',') (by decide) (rest.chars Blank.chars ++ tail)).blanks after)
    have comma (cs : List Char) : skipBlanks (Blank.chars after ++ ',' :: cs) = ',' :: cs :=
      skipBlanks_blanks _ _
    simp only [Items.chars, List.append_assoc, List.cons_append, items?, value?_blanks, first]
    rw [comma]
    simp only []
    rw [items?_spelled rest enough]
    simp [Items.values]
  | l, 0, done, tail, enough => by cases l <;> simp [Items.chars] at enough

/-- Members are read up to the end of their map. -/
theorem members?_spelled : ∀ (l : Members) {fuel : Nat} {done : List (Value × Value)}
    {tail : List Char}, (l.chars Blank.chars).length ≤ fuel →
      members? fuel done (l.chars Blank.chars ++ tail) = some (.map (written done l.entries), tail)
  | .last l before v after, fuel + 1, done, tail, enough => by
    have short : (v.chars Blank.chars).length ≤ fuel := by
      simp [Members.chars] at enough
      omega
    have first := value?_spelled v short
      ((closes_cons (c := '\x7d') (by decide) tail).blanks after)
    have bracket : skipBlanks (Blank.chars after ++ '\x7d' :: tail) = '\x7d' :: tail :=
      skipBlanks_blanks _ _
    simp only [Members.chars, List.append_assoc, List.cons_append, List.nil_append, members?_label,
      value?_blanks, first]
    rw [bracket]
    rfl
  | .more l before v after rest, fuel + 1, done, tail, enough => by
    have ⟨short, enough⟩ : (v.chars Blank.chars).length ≤ fuel
        ∧ (rest.chars Blank.chars).length ≤ fuel := by
      simp [Members.chars] at enough
      omega
    have first := value?_spelled v short
      ((closes_cons (c := ',') (by decide) (rest.chars Blank.chars ++ tail)).blanks after)
    have comma (cs : List Char) : skipBlanks (Blank.chars after ++ ',' :: cs) = ',' :: cs :=
      skipBlanks_blanks _ _
    simp only [Members.chars, List.append_assoc, List.cons_append, members?_label, value?_blanks,
      first]
    rw [comma]
    simp only []
    rw [members?_spelled rest enough]
    rfl
  | l, 0, done, tail, enough => by cases l <;> simp [Members.chars] at enough

end

end ClusterOps.Value.Json
