import ClusterOps.Proofs.ClusterDocument.Loading
import ClusterOps.Proofs.ClusterDocument.Validation
import ClusterOps.Proofs.Json.Reading
import ClusterOps.Proofs.Json.Trees

/-
Files that hold JSON. Their documents are read as YAML, and a JSON text that means the
same there gives what its value gives: the same document, or a complaint about the same
flaws (`load_json`). Not every JSON text does (`load_json_tab`).
-/

namespace ClusterOps.ClusterDocument

open Value.Json

/-! ## Line ends -/

theorem plainLineEnds_append (done more cs : List Char) :
    plainLineEnds (done ++ more) cs = more.reverse ++ plainLineEnds done cs := by
  fun_induction plainLineEnds done cs with
  | case1 done => rw [plainLineEnds, List.reverse_append]
  | case2 done rest ih => rw [plainLineEnds]; exact ih
  | case3 done rest alone ih => rw [plainLineEnds]; exacts [ih, alone]
  | case4 done c rest pair back ih => rw [plainLineEnds]; exacts [ih, pair, back]

theorem plainLineEnds_cons {c : Char} (h : c ≠ '\r') (cs : List Char) :
    plainLineEnds [] (c :: cs) = c :: plainLineEnds [] cs := by
  rw [plainLineEnds]
  · exact plainLineEnds_append [] [c] cs
  · exact fun _ same _ => h same
  · exact fun same => h same

theorem plainLineEnds_return {cs : List Char} (h : cs.head? ≠ some '\n') :
    plainLineEnds [] ('\r' :: cs) = '\n' :: plainLineEnds [] cs := by
  rw [plainLineEnds]
  · exact plainLineEnds_append [] ['\n'] cs
  · rintro more rfl
    exact h rfl

theorem plainLineEnds_word {word : List Char} (h : '\r' ∉ word) (rest : List Char) :
    plainLineEnds [] (word ++ rest) = word ++ plainLineEnds [] rest := by
  induction word with
  | nil => rfl
  | cons c word ih =>
    have ⟨other, behind⟩ : '\r' ≠ c ∧ '\r' ∉ word := by simpa using h
    rw [List.cons_append, plainLineEnds_cons other.symm, ih behind, List.cons_append]

/-- Blanks are unified on their own, unless a line feed stands behind them. -/
theorem plainLineEnds_blanks (bs : List Blank) {rest : List Char} (h : rest.head? ≠ some '\n') :
    plainLineEnds [] (Blank.chars bs ++ rest) = Blank.unified bs ++ plainLineEnds [] rest := by
  fun_induction Blank.unified bs with
  | case1 => rfl
  | case2 bs ih =>
    rw [List.cons_append, ← ih]
    exact plainLineEnds_append [] ['\n'] (Blank.chars bs ++ rest)
  | case3 bs alone ih =>
    have behind : (Blank.chars bs ++ rest).head? ≠ some '\n' := by
      cases bs with
      | nil => exact h
      | cons b bs =>
        cases b with
        | lineFeed => exact absurd rfl (alone bs)
        | space | tab | carriageReturn => simp [Blank.chars, Blank.char]
    rw [List.cons_append, ← ih]
    exact plainLineEnds_return behind
  | case4 b bs _ other ih =>
    have back : b.char ≠ '\r' := by cases b <;> first | decide | exact absurd rfl other
    rw [List.cons_append, ← ih]
    exact plainLineEnds_cons back (Blank.chars bs ++ rest)

/-! ## Words -/

theorem return_not_mem_piece (p : Piece) : '\r' ∉ p.chars := by
  have digit (h : Hex) : '\r' ≠ h.digit := by
    intro same
    have low := h.bounds.2.1
    rw [← same] at low
    exact absurd low (by decide)
  cases p with
  | plain c h =>
    simp only [Piece.chars, List.mem_singleton]
    rintro rfl
    exact absurd h (by decide)
  | escaped e => cases e <;> decide
  | code n => simp [Piece.chars, Code.chars, digit]
  | pair high low => simp [Piece.chars, Code.chars, digit]

theorem return_not_mem_quoted (ps : List Piece) : '\r' ∉ Piece.quoted ps := by
  simp [Piece.quoted, return_not_mem_piece]

theorem return_not_mem_number (n : Numeral) : '\r' ∉ n.chars :=
  fun mem => absurd (n.isWordChar_of_mem '\r' mem) (by decide)

/-! ## Values -/

/-- No line feed stands in front of a value. -/
theorem head_spelling (d : Spelling) (rest : List Char) :
    (d.chars Blank.chars ++ rest).head? ≠ some '\n' := by
  obtain ⟨c, cs, head, starts⟩ := d.chars_head Blank.chars
  have other : c ≠ '\n' := ne_of_startsValue starts (by decide)
  simpa [head] using other

/-- A key with its blanks is unified on its own. -/
theorem plainLineEnds_label (l : Label) (rest : List Char) :
    plainLineEnds [] (l.chars Blank.chars ++ rest)
      = l.chars Blank.unified ++ plainLineEnds [] rest := by
  simp only [Label.chars, List.append_assoc]
  rw [plainLineEnds_blanks _ (by simp [Piece.quoted]),
    plainLineEnds_word (return_not_mem_quoted l.key), plainLineEnds_blanks _ (by simp),
    List.singleton_append, plainLineEnds_cons (by decide)]
  rfl

/-- A value with the blanks around it is unified on its own. -/
theorem plainLineEnds_placed {v : Spelling} (before after : List Blank) {mark : Char}
    (feed : mark ≠ '\n') (back : mark ≠ '\r') (rest : List Char)
    (ih : ∀ rest, plainLineEnds [] (v.chars Blank.chars ++ rest)
      = v.chars Blank.unified ++ plainLineEnds [] rest) :
    plainLineEnds []
        (Blank.chars before ++ (v.chars Blank.chars ++ (Blank.chars after ++ mark :: rest)))
      = Blank.unified before ++ (v.chars Blank.unified ++
          (Blank.unified after ++ mark :: plainLineEnds [] rest)) := by
  rw [plainLineEnds_blanks before (head_spelling v _), ih, plainLineEnds_blanks after (by simpa),
    plainLineEnds_cons back]

mutual

/-- The line ends of a value are unified on their own. -/
theorem plainLineEnds_spelling : ∀ (d : Spelling) (rest : List Char),
    plainLineEnds [] (d.chars Blank.chars ++ rest)
      = d.chars Blank.unified ++ plainLineEnds [] rest
  | .null, rest => plainLineEnds_word (by decide) rest
  | .bool b, rest => by cases b <;> exact plainLineEnds_word (by decide) rest
  | .number n, rest => plainLineEnds_word (return_not_mem_number n) rest
  | .text ps, rest => plainLineEnds_word (return_not_mem_quoted ps) rest
  | .emptyList inside, rest => by
    simp only [Spelling.chars, List.cons_append, List.append_assoc, List.nil_append]
    rw [plainLineEnds_cons (by decide), plainLineEnds_blanks _ (by simp),
      plainLineEnds_cons (by decide)]
  | .list items, rest => by
    simp only [Spelling.chars, List.cons_append]
    rw [plainLineEnds_cons (by decide), plainLineEnds_items items]
  | .emptyMap inside, rest => by
    simp only [Spelling.chars, List.cons_append, List.append_assoc, List.nil_append]
    rw [plainLineEnds_cons (by decide), plainLineEnds_blanks _ (by simp),
      plainLineEnds_cons (by decide)]
  | .map members, rest => by
    simp only [Spelling.chars, List.cons_append]
    rw [plainLineEnds_cons (by decide), plainLineEnds_members members]

/-- The line ends of items are unified on their own. -/
theorem plainLineEnds_items : ∀ (l : Items) (rest : List Char),
    plainLineEnds [] (l.chars Blank.chars ++ rest)
      = l.chars Blank.unified ++ plainLineEnds [] rest
  | .last before v after, rest => by
    simp only [Items.chars, List.append_assoc, List.cons_append, List.nil_append]
    exact plainLineEnds_placed before after (by decide) (by decide) rest (plainLineEnds_spelling v)
  | .more before v after more, rest => by
    simp only [Items.chars, List.append_assoc, List.cons_append]
    rw [plainLineEnds_placed before after (by decide) (by decide) _ (plainLineEnds_spelling v),
      plainLineEnds_items more]

/-- The line ends of members are unified on their own. -/
theorem plainLineEnds_members : ∀ (l : Members) (rest : List Char),
    plainLineEnds [] (l.chars Blank.chars ++ rest)
      = l.chars Blank.unified ++ plainLineEnds [] rest
  | .last l before v after, rest => by
    simp only [Members.chars, List.append_assoc, List.cons_append, List.nil_append]
    rw [plainLineEnds_label, plainLineEnds_placed before after (by decide) (by decide) rest
      (plainLineEnds_spelling v)]
  | .more l before v after more, rest => by
    simp only [Members.chars, List.append_assoc, List.cons_append]
    rw [plainLineEnds_label, plainLineEnds_placed before after (by decide) (by decide) _
      (plainLineEnds_spelling v), plainLineEnds_members more]

end

end ClusterOps.ClusterDocument
