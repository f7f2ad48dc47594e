import ClusterOps.Text.Quoted

/-
Texts in which halves of characters occur. Two codes of sixteen bits can stand for one
character; a text that names such codes one by one keeps them apart, even where two of
them fit together. Strict readers of text refuse it, and it cannot be encoded.
-/

namespace ClusterOps.Text

/-- Whether a code is one half of a character. -/
def isHalf (n : Nat) : Bool := 0xD800 ≤ n && n ≤ 0xDFFF

/-- The characters of codes, where two halves that fit make one character and a half on its own a
replacement character. -/
def joined : List Nat → List Char
  | [] => []
  | [n] => if isHalf n then ['\uFFFD'] else [Char.ofNat n]
  | n :: m :: rest =>
    if !isHalf n then Char.ofNat n :: joined (m :: rest)
    else if n ≤ 0xDBFF && 0xDC00 ≤ m && m ≤ 0xDFFF then
      Char.ofNat (0x10000 + (n - 0xD800) * 0x400 + (m - 0xDC00)) :: joined rest
    else '\uFFFD' :: joined (m :: rest)

theorem isHalf_toNat (c : Char) : isHalf c.toNat = false := by
  have valid := c.valid
  simp only [UInt32.isValidChar, Nat.isValidChar] at valid
  simp only [isHalf, Bool.and_eq_false_iff, decide_eq_false_iff_not, Char.toNat]
  omega

/-- The codes of characters give these characters. -/
theorem joined_toNat : ∀ cs : List Char, joined (cs.map Char.toNat) = cs
  | [] => rfl
  | [c] => by simp [joined, isHalf_toNat]
  | c :: d :: cs => by
    have rest := joined_toNat (d :: cs)
    rw [List.map_cons] at rest
    simp [joined, isHalf_toNat, rest]

/-- A text by its codes, at least one of which is a half. -/
structure Halves where
  codes : List Nat
  broken : codes.any isHalf = true
deriving DecidableEq, Repr

namespace Halves

/-- The text of some codes, if there is a half among them. -/
def ofCodes? (codes : List Nat) : Option Halves :=
  if broken : codes.any isHalf = true then some ⟨codes, broken⟩ else none

/-- Characters are no halves. -/
theorem ofCodes?_toNat (cs : List Char) : ofCodes? (cs.map Char.toNat) = none := by
  simp [ofCodes?, isHalf_toNat]

/-- The text with its halves joined. -/
def text (h : Halves) : String := String.ofList (joined h.codes)

instance : Coe Halves String := ⟨text⟩

/-- The text with a number of replacement characters for each half. -/
def marked (times : Nat) (h : Halves) : String :=
  String.ofList (h.codes.flatMap fun n =>
    if isHalf n then List.replicate times '\uFFFD' else [Char.ofNat n])

/-- The text as a place names it: a half has three bytes, and none of them is a character. -/
def shown (h : Halves) : String := h.marked 3

/-- The text between quotes, the halves by their codes. -/
def quoted (h : Halves) : String :=
  let q := quoteFor ((h.codes.filter fun n => !isHalf n).map Char.ofNat)
  let code (n : Nat) : List Char :=
    if isHalf n then '\\' :: 'u' :: hexDigits 4 n else quoteChar q (Char.ofNat n)
  String.ofList (q :: (h.codes.flatMap code ++ [q]))

/-- Why a text cannot be encoded in which this one stands behind `front` characters: for its first
halves. -/
def unencodable (front : Nat) (h : Halves) : String :=
  let (before, behind) := h.codes.span fun n => !isHalf n
  let first := front + before.length
  let place := match behind.takeWhile isHalf with
    | [n] => "character '\\u" ++ String.ofList (hexDigits 4 n) ++ "' in position " ++ toString first
    | run => "characters in position " ++ toString first ++ "-"
      ++ toString (first + run.length - 1)
  "'utf-8' codec can't encode " ++ place ++ ": surrogates not allowed"

example : (Halves.mk [0x61, 0xD83D, 0xDE00, 0xD800] rfl).text = "a😀\uFFFD" := by decide +kernel

end Halves

end ClusterOps.Text
