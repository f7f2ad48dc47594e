import Mathlib.Data.List.TakeWhile
import Mathlib.Tactic.IntervalCases
import ClusterOps.Proofs.Json.Words
import ClusterOps.Proofs.Text.Decimal
import ClusterOps.Yaml.Scalar

/-
The numbers of JSON in YAML. A number has the form of a number of the same kind there,
whole or with a point, and the same value, if it is common (`Numeral.valueOf_chars`).
Its sign is taken off before it is read, and its letters are made small.
-/

namespace ClusterOps.Value.Json

open Yaml

/-! ## The forms of numbers -/

/-- A digit is no sign. -/
theorem minus_digit {d : Char} (digit : d.isDigit = true) : (d == '-') = false := by
  rw [beq_eq_false_iff_ne]
  rintro rfl
  exact absurd digit (by decide)

theorem unsigned_digit {d : Char} (digit : d.isDigit = true) (ds : List Char) :
    Tag.unsigned (d :: ds) = d :: ds := by
  unfold Tag.unsigned
  split
  case h_1 minus =>
    cases minus
    exact absurd digit (by decide)
  case h_2 plus =>
    cases plus
    exact absurd digit (by decide)
  case h_3 => rfl

theorem Numeral.unsigned_chars (n : Numeral) : Tag.unsigned n.chars = n.unsigned := by
  obtain ⟨d, ds, head, digit⟩ := n.unsigned_head
  unfold Numeral.chars
  cases n.negative with
  | true => rfl
  | false =>
    simp only [Bool.false_eq_true, if_false, List.nil_append, head]
    exact unsigned_digit digit ds

/-- A text without a separator is one part. -/
theorem splitOn_of_not_mem {sep : Char} : ∀ {cs : List Char}, sep ∉ cs → Text.splitOn sep cs = [cs]
  | [], _ => rfl
  | c :: cs, h => by
    rw [List.mem_cons, not_or] at h
    have other : (c == sep) = false := by simpa using Ne.symm h.1
    rw [Text.splitOn, other, splitOn_of_not_mem h.2]
    rfl

theorem not_mem_of_digits {x : Char} {cs : List Char} (h : ∀ c ∈ cs, c.isDigit = true)
    (hx : x.isDigit = false) : x ∉ cs := by
  intro mem
  simp [h x mem] at hx

theorem digitsBars_of_digits {cs : List Char} (given : cs ≠ []) (h : ∀ c ∈ cs, c.isDigit = true) :
    Tag.digitsBars cs = true := by
  obtain ⟨c, cs, rfl⟩ := List.exists_cons_of_ne_nil given
  have bars : cs.all Tag.digitOrBar = true :=
    List.all_eq_true.2 fun d hd => by simp [Tag.digitOrBar, h d (by simp [hd])]
  simp [Tag.digitsBars, h c (by simp), bars]

theorem Numeral.whole_digits (n : Numeral) : ∀ c ∈ n.whole, c.isDigit = true :=
  fun c hc => n.areDigits c (List.mem_append_left _ hc)

theorem Numeral.decimal_digits (n : Numeral) : ∀ c ∈ n.decimals, c.isDigit = true :=
  fun c hc => n.areDigits c (List.mem_append_right _ hc)

theorem Numeral.whole_noPoint (n : Numeral) : ∀ c ∈ n.whole, (c != '.') = true := by
  intro c hc
  rw [bne_iff_ne]
  rintro rfl
  exact not_mem_of_digits n.whole_digits (by decide) hc

theorem Numeral.eq_nil_of_zero (n : Numeral) {rest : List Char} (zero : n.whole = '0' :: rest) :
    rest = [] := by
  have alone := n.unpadded (by rw [zero]; rfl)
  rw [zero] at alone
  exact (List.cons.inj alone).2

/-- No number ends a line. -/
theorem Numeral.withoutLineEnd_chars (n : Numeral) : Tag.withoutLineEnd n.chars = n.chars := by
  unfold Tag.withoutLineEnd
  rw [if_neg]
  simp only [Bool.and_eq_true, beq_iff_eq, not_and]
  intro _ last
  exact absurd (n.isWordChar_of_mem '\n' (List.mem_of_getLast? last)) (by decide)

/-- A number is no word for a truth value. -/
theorem Numeral.not_bool (n : Numeral) :
    ["yes", "Yes", "YES", "no", "No", "NO", "true", "True", "TRUE", "false", "False", "FALSE",
      "on", "On", "ON", "off", "Off", "OFF"].contains (String.ofList n.chars) = false := by
  have letters : ∀ s ∈ ["yes", "Yes", "YES", "no", "No", "NO", "true", "True", "TRUE", "false",
      "False", "FALSE", "on", "On", "ON", "off", "Off", "OFF"],
      s.toList.head?.any (fun c => c != '-' && !c.isDigit) = true := by decide
  rw [List.contains_eq_mem, decide_eq_false_iff_not]
  intro word
  have letter := letters _ word
  obtain ⟨c, cs, head, rfl | digit⟩ := n.chars_head
  · simp [head] at letter
  · simp [head, digit] at letter

section Whole

variable {n : Numeral} (decimals : n.decimals = []) (exponent : n.exponent = none)

include decimals exponent

theorem Numeral.unsigned_of_whole : n.unsigned = n.whole := by
  simp [Numeral.unsigned, Numeral.fraction, decimals, exponent]

theorem Numeral.ofForm_of_whole : Tag.ofForm (String.ofList n.chars) = .int := by
  have unsigned := Numeral.unsigned_of_whole decimals exponent
  have isFloat : Tag.isFloat n.chars = false := by
    have span : n.whole.span (· != '.') = (n.whole, []) := by
      simpa using Text.span_run n.whole_noPoint
        (by simp : ∀ c ∈ ([] : List Char).head?, (c != '.') = false)
    simp only [Tag.isFloat, n.unsigned_chars, unsigned, span]
  have isInt : Tag.isInt n.chars = true := by
    have part := splitOn_of_not_mem (not_mem_of_digits n.whole_digits (x := ':') (by decide))
    have digits := digitsBars_of_digits n.given n.whole_digits
    unfold Tag.isInt
    rw [n.unsigned_chars, unsigned]
    split
    case h_1 => rfl
    case h_2 zero | h_3 zero => exact absurd (n.eq_nil_of_zero zero) (by simp)
    case h_4 other _ _ zero => exact (other (n.eq_nil_of_zero zero)).elim
    case h_5 => rw [part]; exact digits
  unfold Tag.ofForm
  simp only [String.toList_ofList, n.withoutLineEnd_chars, n.not_bool, isFloat, isInt,
    Bool.false_eq_true, if_false, if_true]

end Whole

/-- A common exponent, if there is one, has its sign. -/
theorem Numeral.isExponent_of_common {n : Numeral} (decimals : n.decimals ≠ [])
    (common : n.isCommon = true) :
    Tag.isExponent (n.exponent.elim [] Exponent.chars) = true := by
  simp only [Numeral.isCommon, List.isEmpty_iff, decimals, if_false] at common
  cases given : n.exponent with
  | none => rfl
  | some e =>
    rw [given] at common
    obtain ⟨minus, sign⟩ := Option.isSome_iff_exists.1 (show e.sign.isSome = true from common)
    have letter : ∀ capital : Bool, ((if capital then 'E' else 'e') == 'e'
        || (if capital then 'E' else 'e') == 'E') = true := by decide
    have mark : ∀ minus : Bool, ((if minus then '-' else '+') == '-'
        || (if minus then '-' else '+') == '+') = true := by decide
    have digits : Tag.run Char.isDigit e.digits = true := by
      simpa [Tag.run, e.given] using e.areDigits
    simp only [Option.elim_some, Exponent.chars, sign, Exponent.signChars, List.cons_append,
      List.nil_append, Tag.isExponent, letter, mark, digits, Bool.and_self]

section Fraction

variable {n : Numeral} (decimals : n.decimals ≠ [])

include decimals

theorem Numeral.unsigned_of_decimals :
    n.unsigned = n.whole ++ '.' :: (n.decimals ++ n.exponent.elim [] Exponent.chars) := by
  simp [Numeral.unsigned, Numeral.fraction, decimals]

theorem Numeral.ofForm_of_decimals (common : n.isCommon = true) :
    Tag.ofForm (String.ofList n.chars) = .float := by
  have unsigned := Numeral.unsigned_of_decimals decimals
  have isFloat : Tag.isFloat n.chars = true := by
    have bars : ∀ c ∈ n.decimals, Tag.digitOrBar c = true :=
      fun c hc => by simp [Tag.digitOrBar, n.decimal_digits c hc]
    have exponent := Numeral.isExponent_of_common decimals common
    have stops : ∀ c ∈ (n.exponent.elim [] Exponent.chars).head?, Tag.digitOrBar c = false := by
      have letter : ∀ capital : Bool, Tag.digitOrBar (if capital then 'E' else 'e') = false := by
        decide
      cases n.exponent with
      | none => simp
      | some e => simpa [Exponent.chars] using letter e.capital
    have span (rest : List Char) :
        (n.whole ++ '.' :: rest).span (· != '.') = (n.whole, '.' :: rest) :=
      Text.span_run n.whole_noPoint (by simp)
    have span' := Text.span_run bars stops
    have part := splitOn_of_not_mem (not_mem_of_digits n.whole_digits (x := ':') (by decide))
    have digits := digitsBars_of_digits n.given n.whole_digits
    have given : n.whole.isEmpty = false := by simpa using n.given
    simp only [Tag.isFloat, n.unsigned_chars, unsigned, span, span', given, part, digits, exponent]
    simp
  unfold Tag.ofForm
  simp only [String.toList_ofList, n.withoutLineEnd_chars, n.not_bool, isFloat,
    Bool.false_eq_true, if_false, if_true]

end Fraction

/-! ## The values of numbers -/

theorem printable_of_isWordChar {x : Char} (h : isWordChar x = true) :
    0x21 ≤ x.toNat ∧ x.toNat ≤ 0x7E := by
  simp only [isWordChar, Bool.or_eq_true, beq_iff_eq] at h
  obtain ((word | rfl) | rfl) | rfl := h
  · obtain ⟨low, high⟩ := Text.toNat_of_isAlphanum word
    omega
  all_goals decide

/-- Words have no margins. -/
theorem withoutMargin_of_isWordChar {cs : List Char} (h : ∀ c ∈ cs, isWordChar c = true) :
    Text.withoutMargin cs = cs := by
  refine Text.withoutMargin_eq_self fun c hc => ?_
  obtain ⟨low, high⟩ := printable_of_isWordChar (h c hc)
  exact Text.isMargin_of_printable low high

theorem digitIn?_of_isDigit {c : Char} (h : c.isDigit = true) :
    Tag.digitIn? 10 c = some (c.toNat - 48) := by
  have bounds : 48 ≤ c.toNat ∧ c.toNat ≤ 57 := Text.toNat_of_isDigit h
  have small : c.toNat - 48 < 10 := by omega
  simp [Tag.digitIn?, Text.digitValue?_of_isDigit h, small]

theorem foldl_digitIn? : ∀ {cs : List Char} (m : Nat), (∀ c ∈ cs, c.isDigit = true) →
    cs.foldl (fun n c => do return (← n) * 10 + (← Tag.digitIn? 10 c)) (some m)
      = some (cs.foldl (fun n c => 10 * n + (c.toNat - 48)) m)
  | [], _, _ => rfl
  | c :: cs, m, h => by
    have step : (do return (← some m) * 10 + (← Tag.digitIn? 10 c))
        = some (10 * m + (c.toNat - 48)) := by
      rw [digitIn?_of_isDigit (h c (by simp)), Nat.mul_comm]
      rfl
    rw [List.foldl_cons, List.foldl_cons, step]
    exact foldl_digitIn? _ fun d hd => h d (by simp [hd])

/-- The base ten has no mark. -/
theorem withoutMark_ten (cs : List Char) : Tag.withoutMark 10 cs = cs := by
  unfold Tag.withoutMark
  split
  case h_1 mark ds => simp
  case h_2 => rfl

theorem intIn_digits {cs : List Char} (given : cs ≠ []) (h : ∀ c ∈ cs, c.isDigit = true)
    (short : cs.length ≤ Text.maxDigits) : Tag.intIn 10 cs = .ok (digitsValue cs) := by
  have margin := withoutMargin_of_isWordChar fun c hc => isWordChar_of_isDigit (h c hc)
  have all : cs.takeWhile (Tag.digitIn? 10 · |>.isSome) = cs :=
    List.takeWhile_eq_self_iff.2 fun c hc => by simp [digitIn?_of_isDigit (h c hc)]
  have value : Tag.natIn? 10 cs = some (digitsValue cs) := foldl_digitIn? 0 h
  obtain ⟨c, rest, rfl⟩ := List.exists_cons_of_ne_nil given
  have digit : c.isDigit = true := h c (by simp)
  have long : ¬ (10 == 10 && decide (Text.maxDigits < (c :: rest).length)) = true := by
    simp only [Bool.and_eq_true, decide_eq_true_eq, not_and]
    omega
  have plus : ¬ ((c :: rest).head? == some '-') = true := by
    simpa using minus_digit digit
  unfold Tag.intIn
  simp only [margin, unsigned_digit digit, withoutMark_ten, all, value]
  rw [if_neg (by simp), if_neg long, if_neg plus]

/-- Numbers hold no underscores, which their readers leave out. -/
theorem filter_of_isWordChar {cs : List Char} (h : ∀ c ∈ cs, isWordChar c = true) :
    cs.filter (· != '_') = cs := by
  rw [List.filter_eq_self]
  intro c hc
  rw [bne_iff_ne]
  rintro rfl
  exact absurd (h '_' hc) (by decide)

/-- The sign of a number is its first character. -/
theorem Numeral.chars_cons (n : Numeral) :
    ∃ c cs, n.chars = c :: cs ∧ (c == '-') = n.negative := by
  obtain ⟨d, ds, head, digit⟩ := n.unsigned_head
  unfold Numeral.chars
  cases n.negative with
  | true => exact ⟨'-', n.unsigned, rfl, rfl⟩
  | false => exact ⟨d, ds, head, minus_digit digit⟩

theorem Numeral.intOf_chars {n : Numeral} (decimals : n.decimals = [])
    (exponent : n.exponent = none) (short : n.whole.length ≤ Text.maxDigits) :
    Tag.intOf (String.ofList n.chars)
      = .ok (if n.negative then -(digitsValue n.whole : Int) else digitsValue n.whole) := by
  obtain ⟨c, cs, head, sign⟩ := n.chars_cons
  have unsigned : Tag.unsigned (c :: cs) = n.whole := by
    rw [← head, n.unsigned_chars, Numeral.unsigned_of_whole decimals exponent]
  have part := splitOn_of_not_mem (not_mem_of_digits n.whole_digits (x := ':') (by decide))
  have value := intIn_digits n.given n.whole_digits short
  unfold Tag.intOf
  rw [String.toList_ofList, filter_of_isWordChar n.isWordChar_of_mem, head]
  simp only [sign, unsigned]
  split
  case h_1 none => exact absurd none n.given
  case h_2 zero =>
    rw [zero]
    cases n.negative <;> rfl
  case h_3 zero | h_4 zero => exact absurd (n.eq_nil_of_zero zero) (by simp)
  case h_5 other _ _ zero => exact (other (n.eq_nil_of_zero zero)).elim
  case h_6 =>
    rw [part]
    simp only [value]
    cases n.negative <;> simp [Bind.bind, Except.bind, pure, Except.pure]

/-! ## The values of fractions -/

/-- A number with a small letter in its exponent. -/
def Numeral.lowered (n : Numeral) : Numeral :=
  { n with exponent := n.exponent.map fun e => { e with capital := false } }

theorem mem_digits_of_isDigit {c : Char} (h : c.isDigit = true) : c ∈ "0123456789".toList := by
  have ⟨low, high⟩ : 48 ≤ c.toNat ∧ c.toNat ≤ 57 := Text.toNat_of_isDigit h
  rw [← Char.ofNat_toNat c]
  interval_cases c.toNat <;> decide

/-- A digit, a sign or a point, which have no case. -/
def isCaseless (c : Char) : Bool := c.isDigit || c == '-' || c == '+' || c == '.'

theorem lowerFrom_caseless (rest : List Char) : ∀ {cs : List Char} (before : List Char),
    (∀ c ∈ cs, isCaseless c = true) →
      Text.lowerFrom before (cs ++ rest) = cs ++ Text.lowerFrom (cs.reverse ++ before) rest
  | [], _, _ => rfl
  | c :: cs, before, h => by
    have image : "0123456789-+.".toList.all (fun c => c != 'Σ'
        && Text.mapCase Text.lowerRuns Text.lowerExpansions c == [c]) = true := by decide +kernel
    have mem : c ∈ "0123456789-+.".toList := by
      have caseless := h c (by simp)
      simp only [isCaseless, Bool.or_eq_true, beq_iff_eq] at caseless
      obtain ((digit | rfl) | rfl) | rfl := caseless
      · exact List.mem_append_left "-+.".toList (mem_digits_of_isDigit digit)
      all_goals decide
    have ⟨other, same⟩ : (c == 'Σ') = false
        ∧ Text.mapCase Text.lowerRuns Text.lowerExpansions c = [c] := by
      simpa using List.all_eq_true.1 image c mem
    rw [List.cons_append, Text.lowerFrom, other, same,
      lowerFrom_caseless rest (c :: before) fun d hd => h d (by simp [hd])]
    simp

theorem lowerFrom_letter (capital : Bool) (before rest : List Char) :
    Text.lowerFrom before ((if capital then 'E' else 'e') :: rest)
      = 'e' :: Text.lowerFrom ((if capital then 'E' else 'e') :: before) rest := by
  have image : ∀ capital : Bool, ((if capital then 'E' else 'e') == 'Σ') = false
      ∧ Text.mapCase Text.lowerRuns Text.lowerExpansions (if capital then 'E' else 'e')
        = ['e'] := by
    decide +kernel
  rw [Text.lowerFrom, (image capital).1, (image capital).2]
  rfl

theorem Numeral.lowerChars_chars (n : Numeral) : Text.lowerChars n.chars = n.lowered.chars := by
  have digit {x : Char} (h : x.isDigit = true) : isCaseless x = true := by simp [isCaseless, h]
  have front : ∀ c ∈ n.front, isCaseless c = true := by
    intro c hc
    obtain isDigit | rfl | rfl := Numeral.mem_front hc
    · exact digit isDigit
    all_goals decide
  have same : n.lowered.chars
      = n.front ++ (n.exponent.map fun e => { e with capital := false }).elim [] Exponent.chars :=
    n.lowered.chars_eq
  rw [Text.lowerChars, n.chars_eq, lowerFrom_caseless _ [] front, same]
  congr 1
  cases n.exponent with
  | none => rfl
  | some e =>
    have behind : ∀ c ∈ Exponent.signChars e.sign ++ e.digits, isCaseless c = true := by
      intro c hc
      obtain isDigit | rfl | rfl := Exponent.mem_power hc
      · exact digit isDigit
      all_goals decide
    have rest (before : List Char) := lowerFrom_caseless [] before behind
    simp only [List.append_nil] at rest
    simp only [Option.elim_some, Exponent.chars, lowerFrom_letter, rest]
    simp [Text.lowerFrom, Option.elim, Exponent.chars]

theorem signed_ofQuotient (negative : Bool) (num den : Nat) :
    Tag.signed negative (.ofQuotient false num den) = .ofQuotient negative num den := by
  have goes (large : Prop) [Decidable large] (m : Nat) (e : Int) :
      Tag.signed negative (if large then .infinite false else .finite false m e)
        = if large then .infinite negative else .finite negative m e := by
    split <;> cases negative <;> rfl
  unfold Binary64.ofQuotient
  split
  · cases negative <;> rfl
  · exact goes _ _ _

/-- The sign of a number does not take part in its rounding. -/
theorem signed_ofDecimal (negative : Bool) (digits : Nat) (power : Int) :
    Tag.signed negative (.ofDecimal false digits power) = .ofDecimal negative digits power := by
  unfold Binary64.ofDecimal
  split_ifs
  · cases negative <;> rfl
  · cases negative <;> rfl
  · cases negative <;> rfl
  · exact signed_ofQuotient _ _ _
  · exact signed_ofQuotient _ _ _

theorem decimal?_unsigned {n : Numeral} (decimals : n.decimals ≠ []) :
    Tag.decimal? n.unsigned = some (n.digits, n.power) := by
  have whole := number?_unsigned n closes_nil
  have exponent := exponent?_elim n closes_nil
  have stops := fun c hc => (n.exponent_head closes_nil c hc).1
  have places := Text.span_run n.decimal_digits stops
  rw [List.append_nil] at whole exponent places
  have given : n.decimals.isEmpty = false := by simpa using decimals
  have power : (n.exponent.map Exponent.value).getD 0 - (n.decimals.length : Int) = n.power := by
    cases e : n.exponent <;> simp [Numeral.power, e]
  unfold Tag.decimal?
  rw [whole, Numeral.fraction, if_neg decimals, List.append_nil, List.cons_append]
  simp only [places, given, Bool.and_false, Bool.false_eq_true, if_false, exponent]
  simp [power, Numeral.digits]

theorem Numeral.isWordChar_of_unsigned (n : Numeral) : ∀ x ∈ n.unsigned, isWordChar x = true :=
  fun x hx => n.isWordChar_of_mem x (List.mem_append_right _ hx)

/-- The characters of a word count as they are. -/
theorem plainDigit_of_isWordChar {c : Char} (h : isWordChar c = true) : Tag.plainDigit c = c := by
  have digits : "0123456789".toList.all (fun c => Nat.digitChar (c.toNat - 48) == c) = true := by
    decide
  by_cases digit : c.isDigit = true
  · have same : Nat.digitChar (c.toNat - 48) = c := by
      simpa using List.all_eq_true.1 digits c (mem_digits_of_isDigit digit)
    simp [Tag.plainDigit, Text.digitValue?_of_isDigit digit, same]
  · obtain ⟨low, high⟩ := printable_of_isWordChar h
    have none : Text.isDecimalDigit c = false := by
      rw [Bool.eq_false_iff]
      exact fun decimal => digit (Text.isDigit_of_isDecimalDigit decimal (by omega))
    simp only [Text.isDecimalDigit, Option.isSome_eq_false_iff, Option.isNone_iff_eq_none] at none
    simp [Tag.plainDigit, none]

theorem floatPart_unsigned {n : Numeral} (decimals : n.decimals ≠ []) :
    Tag.floatPart n.unsigned = .ok (.ofDecimal false n.digits n.power) := by
  have plain : n.unsigned.map Tag.plainDigit = n.unsigned := by
    rw [List.map_congr_left fun c hc => plainDigit_of_isWordChar (n.isWordChar_of_unsigned c hc),
      List.map_id']
  have margin := withoutMargin_of_isWordChar n.isWordChar_of_unsigned
  have value := decimal?_unsigned decimals
  obtain ⟨d, ds, head, digit⟩ := n.unsigned_head
  rw [head] at plain margin value
  have plus : ((d :: ds).head? == some '-') = false := by
    simpa using minus_digit digit
  rw [head, Tag.floatPart]
  simp only [margin, unsigned_digit digit, plain, value, plus]

theorem Numeral.lowered_power (n : Numeral) : n.lowered.power = n.power := by
  unfold Numeral.power Numeral.lowered
  cases n.exponent <;> rfl

theorem Numeral.floatOf_chars {n : Numeral} (decimals : n.decimals ≠ []) :
    Tag.floatOf (String.ofList n.chars) = .ok (.ofDecimal n.negative n.digits n.power) := by
  obtain ⟨c, cs, head, sign⟩ := n.lowered.chars_cons
  obtain ⟨d, ds, first, digit⟩ := n.lowered.unsigned_head
  have unsigned : Tag.unsigned (c :: cs) = n.lowered.unsigned := by
    rw [← head, n.lowered.unsigned_chars]
  have noWord (word : List Char) : ¬ (n.lowered.unsigned == '.' :: word) = true := by
    rw [first, beq_iff_eq]
    intro same
    rw [(List.cons.inj same).1] at digit
    exact absurd digit (by decide)
  have noColon : ':' ∉ n.lowered.unsigned := fun colon =>
    absurd (n.lowered.isWordChar_of_unsigned ':' colon) (by decide)
  have value : Tag.floatPart n.lowered.unsigned = .ok (.ofDecimal false n.digits n.power) := by
    rw [← n.lowered_power]
    exact floatPart_unsigned (n := n.lowered) decimals
  unfold Tag.floatOf
  rw [String.toList_ofList, filter_of_isWordChar n.isWordChar_of_mem, n.lowerChars_chars, head]
  simp only [sign, unsigned]
  rw [splitOn_of_not_mem noColon, if_neg, if_neg]
  · simp only [value]
    exact congrArg Except.ok (signed_ofDecimal _ _ _)
  · exact noWord _
  · exact noWord _

/-- A common number has its own value. -/
theorem Numeral.valueOf_chars {n : Numeral} (common : n.isCommon = true) :
    Tag.valueOf (Tag.ofForm (String.ofList n.chars)) (String.ofList n.chars) none
      = .ok n.value := by
  by_cases decimals : n.decimals = []
  · simp only [Numeral.isCommon, decimals, List.isEmpty_nil, if_true, Bool.and_eq_true,
      Option.isNone_iff_eq_none, decide_eq_true_eq] at common
    have isWhole : n.isWhole = true := by simp [Numeral.isWhole, decimals, common.1]
    rw [Numeral.ofForm_of_whole decimals common.1, Tag.valueOf, Option.elim_none,
      Numeral.intOf_chars decimals common.1 common.2, Numeral.value, if_pos isWhole]
    rfl
  · have isWhole : n.isWhole = false := by simp [Numeral.isWhole, decimals]
    rw [Numeral.ofForm_of_decimals decimals common, Tag.valueOf, Option.elim_none,
      Numeral.floatOf_chars decimals, Numeral.value, isWhole]
    rfl

end ClusterOps.Value.Json
