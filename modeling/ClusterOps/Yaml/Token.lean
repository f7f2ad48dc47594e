import ClusterOps.Yaml.Lexeme

/-
The tokens of a document. Indentation becomes brackets: a line that stands
deeper than the one before opens a block collection, one that stands less deep
closes the collections it leaves.

Whether a word is a key is known only at the colon behind it. Every word that
could be one is therefore remembered with its place among the tokens, one for
each depth of flow brackets, and the colon puts the key mark, and where needed
the opening of a block mapping, in front of it afterwards. A remembered word
lapses when its line ends or 1024 characters have passed.

Tokens are asked for one by one, and a document is read no further than they are
asked for. What breaks the reading is therefore kept beside the tokens that stand
fast by then; it matters only to who asks for more of them.
-/

namespace ClusterOps.Yaml

/-- The tokens of a document. -/
inductive Token where
  | directive (d : Directive)
  | documentStart
  | documentEnd
  | blockSequenceStart
  | blockMappingStart
  | blockEnd
  | flowSequenceStart
  | flowMappingStart
  | flowSequenceEnd
  | flowMappingEnd
  | blockEntry
  | flowEntry
  | key
  | value
  | alias (name : String)
  | anchor (name : String)
  | tag (word : TagWord)
  | scalar (written : Written)
  | streamEnd
deriving DecidableEq, Repr, Inhabited

/-- A word that may turn out to be a key: its place among the tokens and in the document. A word
that stands where the enclosing block mapping has its keys has to be one. -/
structure KeyPlace where
  depth : Nat
  token : Nat
  required : Bool
  index : Nat
  line : Nat
  column : Nat
deriving Repr, Inhabited

/-- What has been read of a document: the tokens, last first, and what decides about the next. -/
structure Scan where
  cursor : Cursor
  depth : Nat
  indent : Int
  outer : List Int
  allowKey : Bool
  keys : List KeyPlace
  count : Nat
  tokens : List Token
deriving Inhabited

namespace Scan

/-- Nothing read yet. -/
def start (cs : List Char) : Scan := ⟨.start cs, 0, -1, [], true, [], 0, []⟩

/-- Adds a token at the end. -/
def push (s : Scan) (t : Token) : Scan := { s with tokens := t :: s.tokens, count := s.count + 1 }

/-- Adds a token in front of the one with a given number. -/
def insertAt (s : Scan) (number : Nat) (t : Token) : Scan :=
  let behind := s.count - number
  { s with
    tokens := s.tokens.take behind ++ t :: s.tokens.drop behind
    count := s.count + 1 }

/-- Goes on at a place. -/
def moveTo (s : Scan) (c : Cursor) : Scan := { s with cursor := c }

/-- Skips spaces, comments and line ends; after a line end a block key may start. -/
def toNextToken : Nat → Scan → Scan
  | 0, s => s
  | fuel + 1, s =>
    let c := s.cursor.skipSpaces.skipComment
    if c.sees isBreak then
      toNextToken fuel
        { s with cursor := c.lineBreak.2, allowKey := s.allowKey || s.depth == 0 }
    else s.moveTo c

/-- Whether a remembered word has lapsed. -/
def isStale (s : Scan) (k : KeyPlace) : Bool :=
  k.line != s.cursor.line || s.cursor.index - k.index > 1024

/-- Drops the remembered words that lapsed; one that had to be a key is an error. -/
def dropStale (s : Scan) : Except Defect Scan :=
  if s.keys.any fun k => s.isStale k && k.required then .error .malformed
  else .ok { s with keys := s.keys.filter fun k => !s.isStale k }

/-- The tokens that stand fast: those in front of the first word that may still turn out to be a
key. -/
def settled (s : Scan) : List Token :=
  let live := s.keys.filter fun k => !s.isStale k
  s.tokens.reverse.take (live.foldl (fun n k => min n k.token) s.count)

/-- Closes the block collections that are indented more than `column`. -/
def unwind (s : Scan) (column : Int) : Scan :=
  if s.depth > 0 then s
  else
    let rec go (s : Scan) : List Int → Scan
      | [] => s
      | i :: rest =>
        if column < s.indent then go (({ s with indent := i, outer := rest }).push .blockEnd) rest
        else s
    go s s.outer

/-- Enters a deeper indentation, if it is one. -/
def deepen (s : Scan) (column : Int) : Option Scan :=
  if s.indent < column then some { s with indent := column, outer := s.indent :: s.outer }
  else none

/-- Forgets the word remembered at the present depth; it must not have had to be a key. -/
def dropKey (s : Scan) : Except Defect Scan :=
  if s.keys.any fun k => k.depth == s.depth && k.required then .error .malformed
  else .ok { s with keys := s.keys.filter fun k => k.depth != s.depth }

/-- Remembers that the next token may be a key. -/
def saveKey (s : Scan) : Except Defect Scan :=
  if s.allowKey then do
    let s ← s.dropKey
    let c := s.cursor
    let required := s.depth == 0 && s.indent == (c.column : Int)
    return { s with
      keys := ⟨s.depth, s.count, required, c.index, c.line, c.column⟩ :: s.keys }
  else .ok s

/-- Adds a token for `n` characters. -/
def mark (s : Scan) (n : Nat) (t : Token) : Scan := (s.moveTo (s.cursor.skip n)).push t

/-- The end of the document stream. -/
def fetchEnd (s : Scan) : Except Defect Scan := do
  let s ← (s.unwind (-1)).dropKey
  return ({ s with allowKey := false, keys := [] }).push .streamEnd

/-- A document separator. -/
def fetchSeparator (s : Scan) (t : Token) : Except Defect Scan := do
  let s ← (s.unwind (-1)).dropKey
  return ({ s with allowKey := false }).mark 3 t

/-- A directive line. -/
def fetchDirective (s : Scan) : Except Defect Scan := do
  let s ← (s.unwind (-1)).dropKey
  let (d, after) ← directive s.cursor
  return ({ s with allowKey := false, cursor := after }).push (.directive d)

/-- An opening flow bracket. -/
def fetchOpen (s : Scan) (t : Token) : Except Defect Scan := do
  let s ← s.saveKey
  return ({ s with depth := s.depth + 1, allowKey := true }).mark 1 t

/-- A closing flow bracket. -/
def fetchClose (s : Scan) (t : Token) : Except Defect Scan := do
  let s ← s.dropKey
  return ({ s with depth := s.depth - 1, allowKey := false }).mark 1 t

/-- A comma between flow entries. -/
def fetchComma (s : Scan) : Except Defect Scan := do
  let s ← s.dropKey
  return ({ s with allowKey := true }).mark 1 .flowEntry

/-- Opens a block collection at the present column, where one may start. -/
def openBlock (s : Scan) (t : Token) : Except Defect Scan :=
  if s.depth > 0 then .ok s
  else if !s.allowKey then .error .malformed
  else match s.deepen s.cursor.column with
    | some s => .ok (s.push t)
    | none => .ok s

/-- The dash of a block entry. -/
def fetchDash (s : Scan) : Except Defect Scan := do
  let s ← s.openBlock .blockSequenceStart
  let s ← ({ s with allowKey := true }).dropKey
  return s.mark 1 .blockEntry

/-- The question mark in front of a key. -/
def fetchQuestion (s : Scan) : Except Defect Scan := do
  let s ← s.openBlock .blockMappingStart
  let s ← ({ s with allowKey := s.depth == 0 }).dropKey
  return s.mark 1 .key

/-- The colon in front of a value: it makes a key of the word remembered at this depth. -/
def fetchColon (s : Scan) : Except Defect Scan :=
  match s.keys.find? fun k => k.depth == s.depth with
  | some k =>
    let s := { s with keys := s.keys.filter fun k => k.depth != s.depth }
    let s := s.insertAt k.token .key
    let s :=
      if s.depth > 0 then s
      else match s.deepen k.column with
        | some s => s.insertAt k.token .blockMappingStart
        | none => s
    .ok (({ s with allowKey := false }).mark 1 .value)
  | none => do
    let s ← s.openBlock .blockMappingStart
    let s ← ({ s with allowKey := s.depth == 0 }).dropKey
    return s.mark 1 .value

/-- A word that may be a key, after which no key may start. -/
def fetchWord {α : Type} (s : Scan) (read : Cursor → Except Defect (α × Cursor))
    (token : α → Token) : Except Defect Scan := do
  let s ← s.saveKey
  let (a, after) ← read s.cursor
  return ({ s with allowKey := false, cursor := after }).push (token a)

/-- A scalar on indented lines. -/
def fetchBlockScalar (s : Scan) (folded : Bool) : Except Defect Scan := do
  let s ← ({ s with allowKey := true }).dropKey
  let (w, after) ← blockScalar folded s.indent s.cursor
  return (s.moveTo after).push (.scalar w)

/-- A scalar without quotes. -/
def fetchPlain (s : Scan) : Except Defect Scan := do
  let s ← s.saveKey
  let (w, allow, after) := plainScalar (s.depth > 0) s.indent s.cursor
  return ({ s with allowKey := allow, cursor := after }).push (.scalar w)

/-- Whether a scalar without quotes may start here. -/
def startsPlain (s : Scan) (x : Char) : Bool :=
  let follows := !Cursor.endsOr isGap (s.cursor.ahead 1)
  !(isGap x || "-?:,[]\x7b\x7d#&*!|>'\"%@`".toList.contains x)
    || (follows && (x == '-' || (s.depth == 0 && (x == '?' || x == ':'))))

/-- The next token, decided by its first character. -/
def fetch (s : Scan) : Except Defect Scan :=
  let c := s.cursor
  let gapNext := Cursor.endsOr isGap (c.ahead 1)
  let inFlow := s.depth > 0
  match c.peek with
  | none => s.fetchEnd
  | some x =>
    if x == '%' && c.column == 0 then s.fetchDirective
    else if c.column == 0 && c.seesMark '-' then s.fetchSeparator .documentStart
    else if c.column == 0 && c.seesMark '.' then s.fetchSeparator .documentEnd
    else if x == '[' then s.fetchOpen .flowSequenceStart
    else if x == '\x7b' then s.fetchOpen .flowMappingStart
    else if x == ']' then s.fetchClose .flowSequenceEnd
    else if x == '\x7d' then s.fetchClose .flowMappingEnd
    else if x == ',' then s.fetchComma
    else if x == '-' && gapNext then s.fetchDash
    else if x == '?' && (inFlow || gapNext) then s.fetchQuestion
    else if x == ':' && (inFlow || gapNext) then s.fetchColon
    else if x == '*' then s.fetchWord anchorName .alias
    else if x == '&' then s.fetchWord anchorName .anchor
    else if x == '!' then s.fetchWord tagWord .tag
    else if x == '|' && !inFlow then s.fetchBlockScalar false
    else if x == '>' && !inFlow then s.fetchBlockScalar true
    else if x == '\'' then s.fetchWord (quotedScalar false) .scalar
    else if x == '"' then s.fetchWord (quotedScalar true) .scalar
    else if s.startsPlain x then s.fetchPlain
    else .error .malformed

/-- Reads on to the next token. -/
def step (s : Scan) : Except Defect Scan := do
  let s ← (s.toNextToken (s.cursor.size + 1)).dropStale
  (s.unwind s.cursor.column).fetch

/-- The tokens up to the end of the stream, or up to what breaks the reading, with that. -/
def run : Nat → Scan → List Token × Defect
  | 0, _ => ([], .malformed)
  | fuel + 1, s =>
    match s.step with
    | .error d => (s.settled, d)
    | .ok s =>
      match s.tokens with
      | .streamEnd :: _ => (s.tokens.reverse, .malformed)
      | _ => run fuel s

end Scan

/-- The tokens of a text, and what stands in the way of more; a byte order mark in front is
skipped. -/
def Token.ofText (cs : List Char) : List Token × Defect :=
  if cs.all isAllowed then
    let s := Scan.start cs
    let s := if s.cursor.peek == some '\uFEFF' then s.moveTo s.cursor.next else s
    s.run (cs.length + 2)
  else ([], .malformed)

example : (Token.ofText "a: [b]".toList).1
    = [.blockMappingStart, .key, .scalar ⟨"a", true, none⟩, .value, .flowSequenceStart,
      .scalar ⟨"b", true, none⟩, .flowSequenceEnd, .blockEnd, .streamEnd] := by
  decide +kernel

end ClusterOps.Yaml
