/-
Blanks: the characters that are stripped around words, and the line ends among
them.
-/

namespace ClusterOps.Text

/-- The code points that count as blank. -/
def blanks : List Nat :=
  [0x9, 0xA, 0xB, 0xC, 0xD, 0x1C, 0x1D, 0x1E, 0x1F, 0x20, 0x85, 0xA0, 0x1680, 0x2000, 0x2001,
   0x2002, 0x2003, 0x2004, 0x2005, 0x2006, 0x2007, 0x2008, 0x2009, 0x200A, 0x2028, 0x2029, 0x202F,
   0x205F, 0x3000]

/-- Whether a character counts as blank. -/
def isBlank (c : Char) : Bool := blanks.contains c.toNat

/-- The text without blanks at either end. -/
def strip (cs : List Char) : List Char :=
  ((cs.dropWhile isBlank).reverse.dropWhile isBlank).reverse

/-- The text without blanks at its end. -/
def stripRight (cs : List Char) : List Char := (cs.reverse.dropWhile isBlank).reverse

/-- `strip` on strings. -/
def stripped (s : String) : String := String.ofList (strip s.toList)

/-- The parts of a text between the occurrences of a separator, empty parts included. -/
def splitOn (sep : Char) : List Char → List (List Char)
  | [] => [[]]
  | c :: cs =>
    if c == sep then [] :: splitOn sep cs
    else match splitOn sep cs with
      | [] => [[c]]
      | part :: parts => (c :: part) :: parts

/-- The non-empty stripped parts of a comma separated list. -/
def commaParts (s : String) : List String :=
  ((splitOn ',' s.toList).map strip).filterMap fun p =>
    if p.isEmpty then none else some (String.ofList p)

/-- The parts joined by a separator. -/
def join (sep : String) (parts : List String) : String := sep.intercalate parts

example : (stripped " a\tb \n", commaParts " a,, b ,") = ("a\tb", ["a", "b"]) := by
  decide +kernel

end ClusterOps.Text
