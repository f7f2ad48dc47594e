import ClusterOps.Value

/-
A place in a document: the characters still to read, and how many characters,
lines and columns lie before them. The reading functions take a cursor and give
back the one after what they read, so that a document is walked once.

A document may hold line feeds, tabs and printable characters. Four characters
end a line; a carriage return and a next-line count as a line feed.
-/

namespace ClusterOps.Yaml

/-- What can go wrong in a document: its form is wrong, or its form is right but a scalar has no
value, which a reader that checks forms only does not notice. -/
inductive Defect where
  | malformed
  | valueless (kind message : String)
deriving DecidableEq, Repr, Inhabited

/-- Whether a document may hold the character. -/
def isAllowed (c : Char) : Bool :=
  let n := c.toNat
  n == 0x09 || n == 0x0A || n == 0x0D || (0x20 ≤ n && n ≤ 0x7E) || n == 0x85
    || (0xA0 ≤ n && n ≤ 0xD7FF) || (0xE000 ≤ n && n ≤ 0xFFFD) || 0x10000 ≤ n

/-- Whether the character ends a line. -/
def isBreak (c : Char) : Bool :=
  let n := c.toNat
  n == 0x0A || n == 0x0D || n == 0x85 || n == 0x2028 || n == 0x2029

/-- Whether the character ends a line or is a space or a tab. -/
def isGap (c : Char) : Bool := c == ' ' || c == '\t' || isBreak c

/-- Whether the character may stand in the name of an anchor, a directive or a tag handle. -/
def isNameChar (c : Char) : Bool := c.isAlphanum || c == '-' || c == '_'

/-- A place in a document; `size` is the length of the whole document, which bounds every loop
over what follows. -/
structure Cursor where
  rest : List Char
  index : Nat
  line : Nat
  column : Nat
  size : Nat
deriving Inhabited

namespace Cursor

/-- The first place of a document. -/
def start (cs : List Char) : Cursor := ⟨cs, 0, 0, 0, cs.length⟩

/-- The character at the place. -/
def peek (c : Cursor) : Option Char := c.rest.head?

/-- The character some places ahead. -/
def ahead (c : Cursor) (n : Nat) : Option Char := (c.rest.drop n).head?

/-- Whether the character at the place satisfies a test. -/
def sees (c : Cursor) (test : Char → Bool) : Bool := c.peek.any test

/-- Whether the document ends here or the character satisfies a test. -/
def endsOr (test : Char → Bool) (c : Option Char) : Bool := c.all test

/-- The place after one character. -/
def next (c : Cursor) : Cursor :=
  match c.rest with
  | [] => c
  | x :: rest =>
    if x == '\n' || x.toNat == 0x85 || x.toNat == 0x2028 || x.toNat == 0x2029
        || (x == '\r' && rest.head? != some '\n') then
      ⟨rest, c.index + 1, c.line + 1, 0, c.size⟩
    else if x.toNat == 0xFEFF then ⟨rest, c.index + 1, c.line, c.column, c.size⟩
    else ⟨rest, c.index + 1, c.line, c.column + 1, c.size⟩

/-- The place after some characters. -/
def skip : Nat → Cursor → Cursor
  | 0, c => c
  | n + 1, c => skip n c.next

/-- The characters that satisfy a test, and the place after them. `rest` and `done` are walked
together with the cursor so that one pass suffices. -/
def takeFrom (test : Char → Bool) (done : List Char) (c : Cursor) : List Char → List Char × Cursor
  | [] => (done.reverse, c)
  | x :: rest => if test x then takeFrom test (x :: done) c.next rest else (done.reverse, c)

/-- The characters from here on that satisfy a test, and the place after them. -/
def takeWhile (test : Char → Bool) (c : Cursor) : List Char × Cursor := c.takeFrom test [] c.rest

/-- The place after the characters that satisfy a test. -/
def skipWhile (test : Char → Bool) (c : Cursor) : Cursor := (c.takeWhile test).2

/-- The place after the spaces. -/
def skipSpaces (c : Cursor) : Cursor := c.skipWhile (· == ' ')

/-- The line end at the place, as it is read, and the place after it. -/
def lineBreak (c : Cursor) : List Char × Cursor :=
  match c.rest with
  | '\r' :: '\n' :: _ => (['\n'], c.skip 2)
  | x :: _ =>
    if x == '\n' || x == '\r' || x.toNat == 0x85 then (['\n'], c.next)
    else if isBreak x then ([x], c.next)
    else ([], c)
  | [] => ([], c)

/-- Whether three characters stand here, followed by a gap or the end. -/
def seesMark (c : Cursor) (x : Char) : Bool :=
  c.rest.take 3 == [x, x, x] && endsOr isGap (c.ahead 3)

/-- Whether a document separator stands here. -/
def seesSeparator (c : Cursor) : Bool := c.seesMark '-' || c.seesMark '.'

/-- The place after a comment, if there is one. -/
def skipComment (c : Cursor) : Cursor :=
  if c.peek == some '#' then c.skipWhile (fun x => !isBreak x) else c

/-- The place after the rest of a line that holds at most spaces and a comment. -/
def skipBlankLine (c : Cursor) : Except Defect Cursor :=
  let c := c.skipSpaces.skipComment
  if endsOr isBreak c.peek then .ok c.lineBreak.2 else .error .malformed

/-- A byte order mark in front of a document takes no column. -/
example : (start ['\uFEFF', 'a']).next.column = 0 := by decide

end Cursor

end ClusterOps.Yaml
