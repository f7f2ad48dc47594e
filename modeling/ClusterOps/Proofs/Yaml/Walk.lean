import ClusterOps.Proofs.Text.Run
import ClusterOps.Yaml.Token

/-
Walking through a document. A place is known by the characters that follow it: the
loops over characters lead to the place after the run that they take, so many
characters on (`Cursor.takeWhile_run`), and between two tokens that place is known from
the spaces and line feeds in front of the second (`Scan.toNextToken_margin`).
-/

namespace ClusterOps.Yaml

/-! ## Places -/

namespace Cursor

variable {c : Cursor} {x : Char} {run rest : List Char} {n : Nat}

@[simp] theorem next_rest (c : Cursor) : c.next.rest = c.rest.tail := by
  unfold next
  split
  case h_1 h => simp [h]
  case h_2 h =>
    rw [h]
    split
    · rfl
    · split <;> rfl

@[simp] theorem next_size (c : Cursor) : c.next.size = c.size := by
  unfold next
  split
  · rfl
  · split
    · rfl
    · split <;> rfl

theorem next_index (h : c.rest = x :: rest) : c.next.index = c.index + 1 := by
  unfold next
  rw [h]
  dsimp only
  split
  · rfl
  · split <;> rfl

theorem peek_cons (h : c.rest = x :: rest) : c.peek = some x := by rw [peek, h, List.head?_cons]

theorem sees_cons (h : c.rest = x :: rest) (test : Char → Bool) : c.sees test = test x := by
  rw [sees, peek_cons h, Option.any_some]

/-- A line goes on with a character that ends none. -/
theorem next_line (h : c.rest = x :: rest) (inLine : isBreak x = false) :
    c.next.line = c.line := by
  have ⟨feed, back, next, line, paragraph⟩ : x.toNat ≠ 0x0A ∧ x.toNat ≠ 0x0D ∧ x.toNat ≠ 0x85
      ∧ x.toNat ≠ 0x2028 ∧ x.toNat ≠ 0x2029 := by
    simpa [isBreak, and_assoc] using inLine
  have notFeed : x ≠ '\n' := by rintro rfl; exact feed rfl
  have notBack : x ≠ '\r' := by rintro rfl; exact back rfl
  unfold Cursor.next
  rw [h]
  simp only [notFeed, notBack, next, line, paragraph, beq_iff_eq, Bool.and_eq_true, false_and,
    or_self, if_false, Bool.or_eq_true]
  split <;> rfl

@[simp] theorem skip_rest (n : Nat) (c : Cursor) : (c.skip n).rest = c.rest.drop n := by
  induction n generalizing c with
  | zero => rfl
  | succ n ih => rw [skip, ih, next_rest, List.drop_tail]

@[simp] theorem skip_size (n : Nat) (c : Cursor) : (c.skip n).size = c.size := by
  induction n generalizing c with
  | zero => rfl
  | succ n ih => rw [skip, ih, next_size]

theorem skip_add (m n : Nat) (c : Cursor) : c.skip (m + n) = (c.skip m).skip n := by
  induction m generalizing c with
  | zero => rw [Nat.zero_add]; rfl
  | succ m ih => rw [Nat.add_right_comm, skip, ih, skip]

theorem next_eq_skip (c : Cursor) : c.next = c.skip 1 := rfl

theorem skip_index (h : c.rest = run ++ rest) :
    (c.skip run.length).index = c.index + run.length := by
  induction run generalizing c with
  | nil => rfl
  | cons x run ih =>
    rw [List.cons_append] at h
    rw [List.length_cons, skip, ih (by rw [next_rest, h, List.tail_cons]), next_index h]
    omega

/-- Characters that end no line do not leave it. -/
theorem skip_line (h : c.rest = run ++ rest) (inLine : ∀ x ∈ run, isBreak x = false) :
    (c.skip run.length).line = c.line := by
  induction run generalizing c with
  | nil => rfl
  | cons x run ih =>
    rw [List.cons_append] at h
    have behind : c.next.rest = run ++ rest := by rw [next_rest, h, List.tail_cons]
    rw [List.length_cons, skip, ih behind fun y hy => inLine y (by simp [hy]),
      next_line h (inLine x (by simp))]

theorem skip_run (h : c.rest = run ++ rest) : (c.skip run.length).rest = rest := by
  rw [skip_rest, h, List.drop_left]

theorem takeFrom_eq (test : Char → Bool) (done : List Char) (c : Cursor) (rest : List Char) :
    c.takeFrom test done rest
      = (done.reverse ++ rest.takeWhile test, c.skip (rest.takeWhile test).length) := by
  induction rest generalizing done c with
  | nil => simp [takeFrom, skip]
  | cons x rest ih =>
    rw [takeFrom]
    split
    case isTrue taken => rw [ih, List.takeWhile_cons_of_pos taken]; simp [skip]
    case isFalse left => rw [List.takeWhile_cons_of_neg left]; simp [skip]

/-- A loop over characters takes the run that satisfies its test. -/
theorem takeWhile_run (test : Char → Bool) (h : c.rest = run ++ rest)
    (all : ∀ x ∈ run, test x = true) (stops : ∀ x ∈ rest.head?, test x = false) :
    c.takeWhile test = (run, c.skip run.length) := by
  rw [takeWhile, takeFrom_eq, h, Text.takeWhile_run all stops, List.reverse_nil, List.nil_append]

theorem seesMark_eq_false {mark : Char} (h : c.peek ≠ some mark) : c.seesMark mark = false := by
  unfold peek at h
  cases rest : c.rest with
  | nil => simp [seesMark, rest]
  | cons x rest =>
    have other : x ≠ mark := by simpa [rest] using h
    simp [seesMark, rest, other]

end Cursor

/-! ## Between tokens -/

/-- Spaces and line feeds. -/
def Margin (b : List Char) : Prop := ∀ x ∈ b, x = ' ' ∨ x = '\n'

/-- Margins are spaces, or spaces up to a line feed and a margin behind it. -/
theorem Margin.split : ∀ {b : List Char}, Margin b →
    (∃ n, b = List.replicate n ' ') ∨
      ∃ n more, b = List.replicate n ' ' ++ '\n' :: more ∧ Margin more
  | [], _ => .inl ⟨0, rfl⟩
  | x :: b, h => by
    have behind : Margin b := fun y hy => h y (by simp [hy])
    obtain rfl | rfl := h x (by simp)
    · obtain ⟨n, rfl⟩ | ⟨n, more, rfl, margin⟩ := behind.split
      · exact .inl ⟨n + 1, rfl⟩
      · exact .inr ⟨n + 1, more, rfl, margin⟩
    · exact .inr ⟨0, b, rfl, behind⟩

/-- Whether a token may start with the character. -/
def startsToken (x : Char) : Bool := !(x == ' ' || x == '#' || isBreak x)

/-- The document ends here or a token starts. -/
def Starts (rest : List Char) : Prop := ∀ x ∈ rest.head?, startsToken x = true

theorem Cursor.skipSpaces_run {c : Cursor} {n : Nat} {rest : List Char}
    (h : c.rest = List.replicate n ' ' ++ rest) (stops : ∀ x ∈ rest.head?, x ≠ ' ') :
    c.skipSpaces = c.skip n := by
  have taken := takeWhile_run (· == ' ') h (by simp) (by simpa using stops)
  rw [skipSpaces, skipWhile, taken, List.length_replicate]

theorem Cursor.skipComment_of_starts {c : Cursor} (h : Starts c.rest) : c.skipComment = c := by
  have other : c.peek ≠ some '#' := by
    intro comment
    exact absurd (h '#' (by simpa [peek] using comment)) (by decide)
  simp [skipComment, other]

theorem Cursor.sees_isBreak_of_starts {c : Cursor} (h : Starts c.rest) :
    c.sees isBreak = false := by
  cases rest : c.rest with
  | nil => rw [sees, peek, rest]; rfl
  | cons x more =>
    have starts : startsToken x = true := h x (by simp [rest])
    simp only [startsToken, Bool.not_eq_true', Bool.or_eq_false_iff] at starts
    rw [sees_cons rest, starts.2]

theorem Cursor.lineBreak_feed {c : Cursor} {rest : List Char} (h : c.rest = '\n' :: rest) :
    c.lineBreak = (['\n'], c.next) := by
  simp [lineBreak, h]

namespace Scan

/-- The place of the next token is behind the margin in front of it. -/
theorem toNextToken_margin {b rest : List Char} (starts : Starts rest) (fuel : Nat) (s : Scan)
    (h : s.cursor.rest = b ++ rest) (margin : Margin b) (enough : b.length < fuel) :
    s.toNextToken fuel = { s with
      cursor := s.cursor.skip b.length
      allowKey := s.allowKey || (s.depth == 0 && b.contains '\n') } := by
  induction fuel generalizing s b with
  | zero => omega
  | succ fuel ih =>
    have stops : ∀ x ∈ rest.head?, x ≠ ' ' := by
      rintro x hx rfl
      exact absurd (starts ' ' hx) (by decide)
    unfold toNextToken
    obtain ⟨n, rfl⟩ | ⟨n, more, rfl, behind⟩ := margin.split
    · have spaces : s.cursor.skipSpaces = s.cursor.skip n := Cursor.skipSpaces_run h stops
      have here : Starts (s.cursor.skip n).rest := by
        have := Cursor.skip_run h
        rw [List.length_replicate] at this
        rwa [this]
      rw [spaces, Cursor.skipComment_of_starts here]
      simp [Cursor.sees_isBreak_of_starts here, moveTo]
    · rw [List.append_assoc] at h
      have spaces : s.cursor.skipSpaces = s.cursor.skip n :=
        Cursor.skipSpaces_run h (by simp)
      have here : (s.cursor.skip n).rest = '\n' :: (more ++ rest) := by
        have := Cursor.skip_run h
        rwa [List.length_replicate] at this
      have noComment : (s.cursor.skip n).skipComment = s.cursor.skip n := by
        rw [Cursor.skipComment, Cursor.peek_cons here]
        rfl
      have ends : (s.cursor.skip n).sees isBreak = true := Cursor.sees_cons here _
      have there : (s.cursor.skip n).next.rest = more ++ rest := by
        rw [Cursor.next_rest, here, List.tail_cons]
      have length : (List.replicate n ' ' ++ '\n' :: more).length = n + 1 + more.length := by
        simp
        omega
      have further := ih (b := more)
        { s with cursor := (s.cursor.skip n).next, allowKey := s.allowKey || s.depth == 0 } there
        behind (by omega)
      have found : (List.replicate n ' ' ++ '\n' :: more).contains '\n' = true := by simp
      have allow : (s.allowKey || s.depth == 0 || (s.depth == 0 && more.contains '\n'))
          = (s.allowKey || (s.depth == 0 && true)) := by
        cases s.allowKey <;> cases s.depth == 0 <;> rfl
      rw [spaces, noComment, if_pos ends, Cursor.lineBreak_feed here, further, length, found,
        Cursor.skip_add, Cursor.skip_add]
      dsimp only
      rw [allow, Cursor.next_eq_skip]

end Scan

end ClusterOps.Yaml
