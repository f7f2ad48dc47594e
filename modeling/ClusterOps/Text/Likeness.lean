/-
How alike two words are, and the words of a list that are most like a given one.

Two words have blocks in common: first the longest one, and where several are as
long the one that begins first; then, found in the same way, those on both sides
of it. Two words are as alike as the share of their characters that stands in
common blocks.
-/

namespace ClusterOps.Text

/-- The length of the longest common start. -/
def commonStart : List Char → List Char → Nat
  | a :: as, b :: bs => if a = b then commonStart as bs + 1 else 0
  | _, _ => 0

/-- A common block: where it begins in both words, and its length. -/
structure Block where
  left : Nat
  right : Nat
  size : Nat
deriving DecidableEq, Repr, Inhabited

/-- The longest common block. -/
def longestBlock (a b : List Char) : Block :=
  (List.range a.length).foldl
    (fun best i => (List.range b.length).foldl
      (fun best j =>
        let n := commonStart (a.drop i) (b.drop j)
        if best.size < n then ⟨i, j, n⟩ else best)
      best)
    ⟨0, 0, 0⟩

/-- The number of characters in common blocks, of which there are at most as many as asked for one
inside the other. -/
def sharedWithin : Nat → List Char → List Char → Nat
  | 0, _, _ => 0
  | depth + 1, a, b =>
    let k := longestBlock a b
    if k.size = 0 then 0
    else k.size + sharedWithin depth (a.take k.left) (b.take k.right)
      + sharedWithin depth (a.drop (k.left + k.size)) (b.drop (k.right + k.size))

/-- How many characters of the first word stand in blocks in common with the second. -/
def shared (a b : List Char) : Nat := sharedWithin a.length a b

/-- How alike two words are, from 0 to 1. -/
def likeness (a b : List Char) : Rat := mkRat (2 * shared a b) (a.length + b.length)

/-- Whether two words are alike enough that one can have been meant by the other. -/
def isLike (a b : List Char) : Bool := decide (3 / 5 ≤ likeness a b)

/-- The order of words by likeness to a word, the most alike first, and by their characters where
they are as alike. -/
def isLiker (word a b : String) : Bool :=
  let p := likeness a.toList word.toList
  let q := likeness b.toList word.toList
  if p = q then decide (b ≤ a) else decide (q < p)

/-- The words of a list that are most like a word, at most three, in the order of their
characters. -/
def closest (word : String) (choices : List String) : List String :=
  let alike := choices.filter fun c => isLike c.toList word.toList
  ((alike.mergeSort (isLiker word)).take 3).mergeSort fun a b => decide (a ≤ b)

example : longestBlock "--regoin".toList "--region".toList = ⟨0, 0, 5⟩ := by decide +kernel

example : closest "--regoin" ["--name", "--region"] = ["--region"] := by decide +kernel

end ClusterOps.Text
