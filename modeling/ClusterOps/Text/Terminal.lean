/-
Control sequences of terminals: the escape character, an opening bracket,
numbers, and a letter. They are dropped from what is printed to a file.
-/

namespace ClusterOps.Text

/-- Whether the text goes on with the rest of a control sequence, and what follows it. -/
def afterSequence? (cs : List Char) : Option (List Char) :=
  match cs.dropWhile fun c => c.isDigit || c == ';' || c == '?' with
  | c :: rest => if c.isAlpha then some rest else none
  | [] => none

/-- The text without control sequences. -/
def dropSequences : Nat → List Char → List Char
  | 0, cs => cs
  | _ + 1, [] => []
  | fuel + 1, '\x1b' :: '[' :: cs =>
    match afterSequence? cs with
    | some rest => dropSequences fuel rest
    | none => '\x1b' :: '[' :: dropSequences fuel cs
  | fuel + 1, c :: cs => c :: dropSequences fuel cs

/-- `dropSequences` on strings. -/
def printed (s : String) : String := String.ofList (dropSequences s.length s.toList)

example : printed "a\x1b[31mb\x1b[x" = "ab" := by decide +kernel

end ClusterOps.Text
