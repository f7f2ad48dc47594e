import ClusterOps.Proofs.Text.Ascii
import ClusterOps.Proofs.Yaml.Walk

/-
Flow collections as they are scanned. A scan that is in no block collection, and that
remembers no word that has to be a key, goes over the margin in front of a token and
adds the token (`Scan.Fit`, `Scan.step_margin`); so what it adds depends on the token's
first character only, and on the bracket depth where that is a colon or a word without
quotes. A word between quotes and the colon behind it, on one line and not too far
from each other, give a key (`Scan.reads_key`).

What follows is independent of the fuel that is left, as long as there is some for each
character (`Scan.Leads`).
-/

namespace ClusterOps.Yaml.Scan

/-- In no block collection, and without a remembered word that has to be a key. -/
structure Fit (s : Scan) : Prop where
  loose : ∀ k ∈ s.keys, k.required = false
  sized : s.cursor.rest.length ≤ s.cursor.size
  counted : s.count = s.tokens.length
  indent : s.indent = -1
  outer : s.outer = []

variable {s s' s'' : Scan} {b rest : List Char}

/-- Reading from the one place gives what reading from the other gives, with fuel for each
character that is left. -/
def Leads (s s' : Scan) : Prop :=
  ∀ fuel, s.cursor.rest.length < fuel →
    ∃ left, s'.cursor.rest.length < left ∧ s.run fuel = s'.run left

theorem Leads.trans (first : Leads s s') (second : Leads s' s'') : Leads s s'' := by
  intro fuel enough
  obtain ⟨left, enough, same⟩ := first fuel enough
  obtain ⟨left', enough', same'⟩ := second left enough
  exact ⟨left', enough', same.trans same'⟩

/-- A step that takes characters and does not end the stream. -/
theorem leads_of_step (step : s.step = .ok s') (goes : s'.tokens.head? ≠ some .streamEnd)
    (shorter : s'.cursor.rest.length < s.cursor.rest.length) : Leads s s' := by
  intro fuel enough
  obtain ⟨fuel, rfl⟩ := Nat.exists_eq_add_one_of_ne_zero (Nat.ne_zero_of_lt enough)
  refine ⟨fuel, by omega, ?_⟩
  rw [run, step]
  dsimp only
  split
  case h_1 ends => simp [ends] at goes
  case h_2 => rfl

/-- Reading some tokens leads on to a place. -/
structure Reads (s : Scan) (ts : List Token) (rest : List Char) (s' : Scan) : Prop where
  leads : Leads s s'
  fit : s'.Fit
  tokens : s'.tokens = ts.reverse ++ s.tokens
  rest : s'.cursor.rest = rest

theorem Reads.trans {ts ts' : List Token} {rest rest' : List Char} (first : s.Reads ts rest s')
    (second : s'.Reads ts' rest' s'') : s.Reads (ts ++ ts') rest' s'' where
  leads := first.leads.trans second.leads
  fit := second.fit
  tokens := by rw [second.tokens, first.tokens, List.reverse_append, List.append_assoc]
  rest := second.rest

/-! ## The place of the next token -/

/-- The scan behind a margin, where the words that lapsed are dropped. -/
def past (s : Scan) (b : List Char) : Scan :=
  let s := { s with
    cursor := s.cursor.skip b.length
    allowKey := s.allowKey || (s.depth == 0 && b.contains '\n') }
  { s with keys := s.keys.filter fun k => !s.isStale k }

@[simp] theorem past_cursor (s : Scan) (b : List Char) :
    (s.past b).cursor = s.cursor.skip b.length := rfl

@[simp] theorem past_depth (s : Scan) (b : List Char) : (s.past b).depth = s.depth := rfl

@[simp] theorem past_count (s : Scan) (b : List Char) : (s.past b).count = s.count := rfl

@[simp] theorem past_tokens (s : Scan) (b : List Char) : (s.past b).tokens = s.tokens := rfl

theorem past_rest (h : s.cursor.rest = b ++ rest) : (s.past b).cursor.rest = rest := by
  rw [past_cursor, Cursor.skip_run h]

theorem past_allowKey (h : s.allowKey = true) (b : List Char) : (s.past b).allowKey = true := by
  simp [past, h]

theorem Fit.past (fit : s.Fit) (b : List Char) : (s.past b).Fit where
  loose := fun k hk => fit.loose k (List.mem_filter.1 hk).1
  sized := by
    have := fit.sized
    simp
    omega
  counted := fit.counted
  indent := fit.indent
  outer := fit.outer

theorem unwind_of_fit (fit : s.Fit) (column : Int) : s.unwind column = s := by
  rw [unwind, fit.outer]
  split <;> rfl

theorem dropStale_of_fit (fit : s.Fit) :
    s.dropStale = .ok { s with keys := s.keys.filter fun k => !s.isStale k } := by
  have none : (s.keys.any fun k => s.isStale k && k.required) = false := by
    rw [List.any_eq_false]
    intro k hk
    simp [fit.loose k hk]
  rw [dropStale, none]
  rfl

/-- A step adds the token that starts behind the margin. -/
theorem step_margin (fit : s.Fit) (h : s.cursor.rest = b ++ rest) (margin : Margin b)
    (starts : Starts rest) : s.step = (s.past b).fetch := by
  have enough : b.length < s.cursor.size + 1 := by
    have := fit.sized
    rw [h, List.length_append] at this
    omega
  have moved : ({ s with
      cursor := s.cursor.skip b.length
      allowKey := s.allowKey || (s.depth == 0 && b.contains '\n') } : Scan).Fit :=
    ⟨fit.loose, (fit.past b).sized, fit.counted, fit.indent, fit.outer⟩
  rw [step, toNextToken_margin starts _ s h margin enough, dropStale_of_fit moved]
  exact congrArg fetch (unwind_of_fit (fit.past b) _)

/-! ## Remembered words -/

theorem dropKey_of_fit (fit : s.Fit) :
    s.dropKey = .ok { s with keys := s.keys.filter fun k => k.depth != s.depth } := by
  have none : (s.keys.any fun k => k.depth == s.depth && k.required) = false := by
    rw [List.any_eq_false]
    intro k hk
    simp [fit.loose k hk]
  rw [dropKey, none]
  rfl

/-- A word that may be a key is remembered, and none at this depth before it. -/
theorem saveKey_allowed (fit : s.Fit) (allowed : s.allowKey = true) :
    s.saveKey = .ok { s with
      keys := ⟨s.depth, s.count, false, s.cursor.index, s.cursor.line, s.cursor.column⟩
        :: s.keys.filter fun k => k.depth != s.depth } := by
  have free : (s.depth == 0 && s.indent == (s.cursor.column : Int)) = false := by
    rw [fit.indent]
    simp
  rw [saveKey, if_pos allowed, dropKey_of_fit fit]
  simp [Bind.bind, Except.bind, pure, Except.pure, free]

theorem saveKey_of_fit (fit : s.Fit) :
    ∃ ks, (∀ k ∈ ks, k.required = false) ∧ s.saveKey = .ok { s with keys := ks } := by
  by_cases allowed : s.allowKey = true
  · refine ⟨_, ?_, saveKey_allowed fit allowed⟩
    intro k hk
    obtain rfl | hk := List.mem_cons.1 hk
    · rfl
    · exact fit.loose k (List.mem_filter.1 hk).1
  · exact ⟨s.keys, fit.loose, by rw [saveKey, if_neg allowed]⟩

/-! ## Tokens -/

/-- The scan after a token of some characters. -/
def after (s : Scan) (depth : Nat) (allow : Bool) (keys : List KeyPlace) (n : Nat) (t : Token) :
    Scan where
  cursor := s.cursor.skip n
  depth := depth
  indent := s.indent
  outer := s.outer
  allowKey := allow
  keys := keys
  count := s.count + 1
  tokens := t :: s.tokens

/-- A step over a margin and a word adds a token. -/
theorem reads_after (word : List Char) {d : Nat} {a : Bool} {ks : List KeyPlace} {t : Token}
    (fit : s.Fit) (h : s.cursor.rest = b ++ (word ++ rest)) (given : word ≠ [])
    (loose : ∀ k ∈ ks, k.required = false) (goes : t ≠ .streamEnd)
    (step : s.step = .ok ((s.past b).after d a ks word.length t)) :
    s.Reads [t] rest ((s.past b).after d a ks word.length t) := by
  have behind : ((s.past b).after d a ks word.length t).cursor.rest = rest := by
    simp [after, h]
  have positive : 0 < word.length := List.length_pos_iff.2 given
  have shorter : rest.length < s.cursor.rest.length := by
    rw [h]
    simp
    omega
  exact {
    leads := leads_of_step step (by simpa [after] using goes) (by rw [behind]; exact shorter)
    fit := {
      loose := loose
      sized := by
        have := fit.sized
        rw [behind]
        simp [after]
        omega
      counted := by simp [after, fit.counted]
      indent := fit.indent
      outer := fit.outer }
    tokens := rfl
    rest := behind }

/-! ## Brackets and commas -/

/-- The characters that are tokens of their own within flow brackets, and the quote. -/
def flowMarks : List Char := ['[', ']', '\x7b', '\x7d', ',', ':', '"']

theorem starts_flowMark {x : Char} (mark : x ∈ flowMarks) (rest : List Char) :
    Starts (x :: rest) := by
  have all : flowMarks.all startsToken = true := by decide
  simpa [Starts] using List.all_eq_true.1 all x mark

theorem seesMark_flowMark {x : Char} (h : s.cursor.rest = x :: rest) (mark : x ∈ flowMarks) :
    s.cursor.seesMark '-' = false ∧ s.cursor.seesMark '.' = false := by
  have ⟨dash, dot⟩ : x ≠ '-' ∧ x ≠ '.' := by
    constructor <;>
      · rintro rfl
        exact absurd mark (by decide)
  have peek := Cursor.peek_cons h
  exact ⟨Cursor.seesMark_eq_false (by simpa [peek] using dash),
    Cursor.seesMark_eq_false (by simpa [peek] using dot)⟩

/-- The token of an opening bracket. -/
def opening? : Char → Option Token
  | '[' => some .flowSequenceStart
  | '\x7b' => some .flowMappingStart
  | _ => none

/-- The token of a closing bracket. -/
def closing? : Char → Option Token
  | ']' => some .flowSequenceEnd
  | '\x7d' => some .flowMappingEnd
  | _ => none

theorem mem_of_opening {x : Char} {t : Token} (opening : opening? x = some t) :
    x ∈ flowMarks ∧ t ≠ .streamEnd := by
  unfold opening? at opening
  split at opening
  case h_1 | h_2 =>
    obtain rfl := Option.some.inj opening
    decide
  case h_3 => cases opening

theorem mem_of_closing {x : Char} {t : Token} (closing : closing? x = some t) :
    x ∈ flowMarks ∧ t ≠ .streamEnd := by
  unfold closing? at closing
  split at closing
  case h_1 | h_2 =>
    obtain rfl := Option.some.inj closing
    decide
  case h_3 => cases closing

theorem fetch_open {x : Char} {t : Token} (h : s.cursor.rest = x :: rest)
    (opening : opening? x = some t) : s.fetch = s.fetchOpen t := by
  obtain ⟨dash, dots⟩ := seesMark_flowMark h (mem_of_opening opening).1
  unfold opening? at opening
  split at opening
  case h_1 | h_2 =>
    obtain rfl := Option.some.inj opening
    simp [fetch, Cursor.peek_cons h, dash, dots]
  case h_3 => cases opening

theorem fetch_close {x : Char} {t : Token} (h : s.cursor.rest = x :: rest)
    (closing : closing? x = some t) : s.fetch = s.fetchClose t := by
  obtain ⟨dash, dots⟩ := seesMark_flowMark h (mem_of_closing closing).1
  unfold closing? at closing
  split at closing
  case h_1 | h_2 =>
    obtain rfl := Option.some.inj closing
    simp [fetch, Cursor.peek_cons h, dash, dots]
  case h_3 => cases closing

theorem fetch_comma (h : s.cursor.rest = ',' :: rest) : s.fetch = s.fetchComma := by
  obtain ⟨dash, dots⟩ := seesMark_flowMark h (by decide)
  simp [fetch, Cursor.peek_cons h, dash, dots]

theorem fetch_colon (inside : 0 < s.depth) (h : s.cursor.rest = ':' :: rest) :
    s.fetch = s.fetchColon := by
  obtain ⟨dash, dots⟩ := seesMark_flowMark h (by decide)
  simp [fetch, Cursor.peek_cons h, dash, dots, inside]

theorem fetch_quote (h : s.cursor.rest = '"' :: rest) :
    s.fetch = s.fetchWord (quotedScalar true) .scalar := by
  obtain ⟨dash, dots⟩ := seesMark_flowMark h (by decide)
  simp [fetch, Cursor.peek_cons h, dash, dots]

/-- An opening bracket, behind which a key may stand. -/
theorem reads_open {x : Char} {t : Token} (fit : s.Fit) (h : s.cursor.rest = b ++ x :: rest)
    (margin : Margin b) (opening : opening? x = some t) :
    ∃ s', s.Reads [t] rest s' ∧ s'.depth = s.depth + 1 ∧ s'.allowKey = true := by
  obtain ⟨mark, goes⟩ := mem_of_opening opening
  obtain ⟨ks, loose, saved⟩ := saveKey_of_fit (fit.past b)
  have step : s.step = .ok ((s.past b).after (s.depth + 1) true ks 1 t) := by
    rw [step_margin fit h margin (starts_flowMark mark rest), fetch_open (past_rest h) opening,
      fetchOpen, saved]
    rfl
  exact ⟨_, reads_after [x] fit h (by simp) loose goes step, rfl, rfl⟩

theorem reads_close {x : Char} {t : Token} (fit : s.Fit) (h : s.cursor.rest = b ++ x :: rest)
    (margin : Margin b) (closing : closing? x = some t) :
    ∃ s', s.Reads [t] rest s' ∧ s'.depth = s.depth - 1 := by
  obtain ⟨mark, goes⟩ := mem_of_closing closing
  have step : s.step = .ok ((s.past b).after (s.depth - 1) false
      ((s.past b).keys.filter fun k => k.depth != s.depth) 1 t) := by
    rw [step_margin fit h margin (starts_flowMark mark rest), fetch_close (past_rest h) closing,
      fetchClose, dropKey_of_fit (fit.past b)]
    rfl
  exact ⟨_, reads_after [x] fit h (by simp)
    (fun k hk => (fit.past b).loose k (List.mem_filter.1 hk).1) goes step, rfl⟩

/-- A comma, behind which a key may stand. -/
theorem reads_comma (fit : s.Fit) (h : s.cursor.rest = b ++ ',' :: rest) (margin : Margin b) :
    ∃ s', s.Reads [.flowEntry] rest s' ∧ s'.depth = s.depth ∧ s'.allowKey = true := by
  have step : s.step = .ok ((s.past b).after s.depth true
      ((s.past b).keys.filter fun k => k.depth != s.depth) 1 .flowEntry) := by
    rw [step_margin fit h margin (starts_flowMark (by decide) rest), fetch_comma (past_rest h),
      fetchComma, dropKey_of_fit (fit.past b)]
    rfl
  exact ⟨_, reads_after [','] fit h (by simp)
    (fun k hk => (fit.past b).loose k (List.mem_filter.1 hk).1) (by simp) step, rfl, rfl⟩

/-! ## Words -/

section Quoted

variable {word : List Char} {w : Written} (fit : s.Fit) (margin : Margin b)
  (read : ∀ c : Cursor, c.rest = '"' :: word ++ rest → c.rest.length ≤ c.size →
    quotedScalar true c = .ok (w, c.skip (word.length + 1)))

include fit margin read

theorem step_quoted {ks : List KeyPlace} (h : s.cursor.rest = b ++ ('"' :: word ++ rest))
    (saved : (s.past b).saveKey = .ok { s.past b with keys := ks }) :
    s.step = .ok ((s.past b).after s.depth false ks (word.length + 1) (.scalar w)) := by
  rw [step_margin fit h margin (starts_flowMark (by decide) _), fetch_quote (past_rest h),
    fetchWord, saved]
  dsimp only [Bind.bind, Except.bind]
  rw [read _ (past_rest h) (fit.past b).sized]
  rfl

/-- A text between double quotes. -/
theorem reads_quoted (h : s.cursor.rest = b ++ ('"' :: word ++ rest)) :
    ∃ s', s.Reads [.scalar w] rest s' ∧ s'.depth = s.depth := by
  obtain ⟨ks, loose, saved⟩ := saveKey_of_fit (fit.past b)
  exact ⟨_, reads_after ('"' :: word) fit h (by simp) loose (by simp)
    (step_quoted fit margin read h saved), rfl⟩

end Quoted

/-- A colon makes a key of the word in front of it, if that was remembered. -/
theorem fetchColon_of_key {k : KeyPlace} {t : Token} {ts : List Token} (inside : 0 < s.depth)
    (found : (s.keys.find? fun k => k.depth == s.depth) = some k) (last : s.count = k.token + 1)
    (tokens : s.tokens = t :: ts) :
    s.fetchColon = .ok { s with
      cursor := s.cursor.skip 1
      allowKey := false
      keys := s.keys.filter fun k => k.depth != s.depth
      count := s.count + 2
      tokens := .value :: t :: .key :: ts } := by
  have behind : s.count - k.token = 1 := by omega
  simp only [fetchColon, found, insertAt, behind, tokens, inside, if_true, mark, moveTo, push]
  rfl

theorem leads_colon {k : KeyPlace} {ks : List KeyPlace} {t : Token} {ts : List Token}
    (fit : s.Fit) (inside : 0 < s.depth) (margin : Margin b) (h : s.cursor.rest = b ++ ':' :: rest)
    (keys : s.keys = k :: ks) (depth : k.depth = s.depth) (last : s.count = k.token + 1)
    (tokens : s.tokens = t :: ts) (line : (s.cursor.skip b.length).line = k.line)
    (near : (s.cursor.skip b.length).index ≤ k.index + 1024) :
    ∃ s', Leads s s' ∧ s'.Fit ∧ s'.tokens = .value :: t :: .key :: ts ∧ s'.cursor.rest = rest
      ∧ s'.depth = s.depth := by
  have fresh : (s.past b).isStale k = false := by
    simp [isStale, line]
    omega
  have kept : (s.past b).keys = k :: ks.filter fun k => !(s.past b).isStale k := by
    have live : (s.past b).keys = s.keys.filter fun k => !(s.past b).isStale k := rfl
    rw [live, keys, List.filter_cons_of_pos (by simp [fresh])]
  have found : ((s.past b).keys.find? fun k => k.depth == (s.past b).depth) = some k := by
    rw [kept, List.find?_cons_of_pos (by simp [depth])]
  have step := step_margin fit h margin (starts_flowMark (by decide) rest)
  rw [fetch_colon (s := s.past b) inside (past_rest h),
    fetchColon_of_key (s := s.past b) inside found last tokens] at step
  have behind : ((s.past b).cursor.skip 1).rest = rest := by
    rw [Cursor.skip_rest, past_rest h, List.drop_one, List.tail_cons]
  have shorter : rest.length < s.cursor.rest.length := by
    rw [h]
    simp
    omega
  have sized := fit.sized
  refine ⟨_, leads_of_step step (by simp) (behind ▸ shorter), ?fit, rfl, behind, rfl⟩
  exact {
    loose := fun k hk => (fit.past b).loose k (List.mem_filter.1 hk).1
    sized := by
      change ((s.past b).cursor.skip 1).rest.length ≤ _
      rw [behind, Cursor.skip_size, past_cursor, Cursor.skip_size]
      omega
    counted := by simp [fit.counted, tokens]
    indent := fit.indent
    outer := fit.outer }

/-- A text between double quotes and a colon behind it, on one line and not too far from each
other, where a key may stand. -/
theorem reads_key {word : List Char} {w : Written} {gap : Nat} (fit : s.Fit) (inside : 0 < s.depth)
    (allowed : s.allowKey = true) (margin : Margin b)
    (h : s.cursor.rest = b ++ ('"' :: word ++ (List.replicate gap ' ' ++ ':' :: rest)))
    (oneLine : ∀ x ∈ word, isBreak x = false) (near : word.length + 1 + gap ≤ 1024)
    (read : ∀ c : Cursor, c.rest = '"' :: word ++ (List.replicate gap ' ' ++ ':' :: rest) →
      c.rest.length ≤ c.size → quotedScalar true c = .ok (w, c.skip (word.length + 1))) :
    ∃ s', s.Reads [.key, .scalar w, .value] rest s' ∧ s'.depth = s.depth := by
  let k : KeyPlace := ⟨s.depth, s.count, false, (s.past b).cursor.index, (s.past b).cursor.line,
    (s.past b).cursor.column⟩
  have loose : ∀ k' ∈ k :: (s.past b).keys.filter fun k => k.depth != s.depth,
      k'.required = false := by
    intro k' hk
    obtain rfl | hk := List.mem_cons.1 hk
    · rfl
    · exact (fit.past b).loose k' (List.mem_filter.1 hk).1
  have named := reads_after ('"' :: word) fit h (by simp) loose (by simp)
    (step_quoted fit margin read h (saveKey_allowed (fit.past b) (past_allowKey allowed b)))
  have whole : (s.past b).cursor.rest
      = ('"' :: word ++ List.replicate gap ' ') ++ ':' :: rest := by
    rw [past_rest h]
    simp
  have place : ((s.past b).cursor.skip ('"' :: word).length).skip (List.replicate gap ' ').length
      = (s.past b).cursor.skip ('"' :: word ++ List.replicate gap ' ').length := by
    rw [List.length_append, Cursor.skip_add]
  have line : ((s.past b).cursor.skip ('"' :: word ++ List.replicate gap ' ').length).line
      = (s.past b).cursor.line := by
    refine Cursor.skip_line whole fun x hx => ?_
    obtain quoted | space := List.mem_append.1 hx
    · obtain rfl | hx := List.mem_cons.1 quoted
      · decide
      · exact oneLine x hx
    · rw [(List.mem_replicate.1 space).2]
      decide
  have index : ((s.past b).cursor.skip ('"' :: word ++ List.replicate gap ' ').length).index
      ≤ (s.past b).cursor.index + 1024 := by
    rw [Cursor.skip_index whole]
    simp only [List.length_append, List.length_cons, List.length_replicate]
    omega
  obtain ⟨s', leads, fit', tokens, rest', depth⟩ := leads_colon named.fit inside (by simp [Margin])
    named.rest rfl rfl rfl rfl (place ▸ line) (place ▸ index)
  exact ⟨s', ⟨named.leads.trans leads, fit', tokens, rest'⟩, depth⟩

/-! ## Words without quotes -/

/-- The first characters of a word without quotes: a letter or a digit, or a minus in front of a
digit. -/
def StartsBare (cs : List Char) : Prop :=
  ∃ x more, cs = x :: more ∧
    (x.isAlphanum = true ∨ x = '-' ∧ ∃ d ds, more = d :: ds ∧ d.isDigit = true)

theorem isGap_of_isAlphanum {x : Char} (h : x.isAlphanum = true) : isGap x = false := by
  have ⟨low, high⟩ := Text.toNat_of_isAlphanum h
  have space : x ≠ ' ' := Text.ne_of_isAlphanum h (by decide)
  have tab : x ≠ '\t' := Text.ne_of_isAlphanum h (by decide)
  simp [isGap, isBreak, space, tab]
  omega

theorem fetch_bare (bare : StartsBare s.cursor.rest) :
    s.fetch = s.fetchPlain := by
  obtain ⟨x, more, h, word | ⟨rfl, d, ds, rfl, digit⟩⟩ := bare
  · have other (y : Char) (hy : y.isAlphanum = false) : x ≠ y := Text.ne_of_isAlphanum word hy
    have dash : s.cursor.seesMark '-' = false :=
      Cursor.seesMark_eq_false (by simpa [Cursor.peek, h] using other '-' (by decide))
    have dots : s.cursor.seesMark '.' = false :=
      Cursor.seesMark_eq_false (by simpa [Cursor.peek, h] using other '.' (by decide))
    have plain : s.startsPlain x = true := by
      simp [startsPlain, isGap_of_isAlphanum word, other]
    simp [fetch, Cursor.peek_cons h, dash, dots, other, plain]
  · have isDigit : isGap d = false := isGap_of_isAlphanum (Text.isAlphanum_of_isDigit digit)
    have dash : s.cursor.seesMark '-' = false := by
      have other : d ≠ '-' := by rintro rfl; simp at digit
      simp [Cursor.seesMark, h, other]
    have dots : s.cursor.seesMark '.' = false :=
      Cursor.seesMark_eq_false (by simp [Cursor.peek, h])
    have follows : Cursor.endsOr isGap (s.cursor.ahead 1) = false := by
      simp [Cursor.endsOr, Cursor.ahead, h, isDigit]
    have plain : s.startsPlain '-' = true := by
      simp [startsPlain, follows]
    simp [fetch, Cursor.peek_cons h, dash, dots, follows, plain]

theorem starts_of_bare {cs : List Char} (bare : StartsBare cs) : Starts cs := by
  obtain ⟨x, more, rfl, word | ⟨rfl, -⟩⟩ := bare
  · have ⟨low, high⟩ := Text.toNat_of_isAlphanum word
    have gap := isGap_of_isAlphanum word
    simp only [isGap, Bool.or_eq_false_iff] at gap
    have comment : x ≠ '#' := Text.ne_of_isAlphanum word (by decide)
    simpa [Starts, startsToken, comment, gap.2] using gap.1.1
  · simp [Starts]
    decide

/-- A word without quotes, with the margin behind it. -/
theorem reads_bare {word : List Char} {w : Written} (fit : s.Fit) (inside : 0 < s.depth)
    (margin : Margin b) (h : s.cursor.rest = b ++ (word ++ rest)) (bare : StartsBare (word ++ rest))
    (given : word ≠ [])
    (read : ∀ c : Cursor, c.rest = word ++ rest → c.rest.length ≤ c.size →
      ∃ allow, plainScalar true (-1) c = (w, allow, c.skip word.length)) :
    ∃ s', s.Reads [.scalar w] rest s' ∧ s'.depth = s.depth := by
  obtain ⟨ks, loose, saved⟩ := saveKey_of_fit (fit.past b)
  obtain ⟨allow, read⟩ := read _ (past_rest h) (fit.past b).sized
  have step : s.step = .ok ((s.past b).after s.depth allow ks word.length (.scalar w)) := by
    rw [step_margin fit h margin (starts_of_bare bare),
      fetch_bare (s := s.past b) (by rwa [past_rest h]), fetchPlain, saved]
    simp only [Bind.bind, Except.bind, past_depth, inside, decide_true, (fit.past b).indent, read,
      after]
    rfl
  exact ⟨_, reads_after word fit h given loose (by simp) step, rfl⟩

/-! ## The end -/

end ClusterOps.Yaml.Scan
