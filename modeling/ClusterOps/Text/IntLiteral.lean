import ClusterOps.Text.Blank
import ClusterOps.Text.Digit

/-
Whole numbers as operators type them: blanks around, one optional sign, decimal
digits of any script, single underscores between digits, at most 4300 digits.
The four separator characters of ASCII are no blanks here.
-/

namespace ClusterOps.Text

/-- The digits of a number, a single underscore being allowed between two of them. -/
def digitValues? : List Char → Option (List Nat)
  | [] => none
  | [c] => (digitValue? c).map fun d => [d]
  | c :: '_' :: rest => do
    let d ← digitValue? c
    let ds ← digitValues? rest
    return d :: ds
  | c :: rest => do
    let d ← digitValue? c
    let ds ← digitValues? rest
    return d :: ds

/-- The number with these decimal digits, most significant first. -/
def ofDigits (ds : List Nat) : Nat := ds.foldl (fun n d => 10 * n + d) 0

/-- The longest number that is read, in digits. -/
def maxDigits : Nat := 4300

/-- An unsigned number. -/
def natLiteral? (cs : List Char) : Option Nat := do
  let ds ← digitValues? cs
  if ds.length ≤ maxDigits then some (ofDigits ds) else none

/-- Whether a character can stand around a number. -/
def isMargin (c : Char) : Bool := isBlank c && !(0x1C ≤ c.toNat && c.toNat ≤ 0x1F)

/-- The text without the margins of a number. -/
def withoutMargin (cs : List Char) : List Char :=
  ((cs.dropWhile isMargin).reverse.dropWhile isMargin).reverse

/-- The whole number that a text denotes. -/
def intLiteral? (s : String) : Option Int :=
  match withoutMargin s.toList with
  | '-' :: cs => (natLiteral? cs).map fun n => -(n : Int)
  | '+' :: cs => (natLiteral? cs).map fun n => (n : Int)
  | cs => (natLiteral? cs).map fun n => (n : Int)

example : ([" 1_0 ", "-007", "1__0", "", "+", "٣", "1\x1f"].map intLiteral?)
    = [some 10, some (-7), none, none, none, some 3, none] := by decide +kernel

end ClusterOps.Text
