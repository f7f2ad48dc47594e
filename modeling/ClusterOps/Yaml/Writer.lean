import ClusterOps.Yaml.Scalar

/-
Writing data as a document of indented blocks. Text stands without quotes where
it reads back as the same text, else between single quotes where that suffices,
else between double quotes with escapes, which is always the case for text
outside ASCII. A line that has passed column 80 is broken at the next lone
space. Items of a list under a key are not indented further.
-/

namespace ClusterOps.Yaml

/-- What has been written so far, and what decides about spaces and line ends: the column, whether
the last character was white space, and whether only indentation stands on the line. -/
structure Page where
  text : String
  column : Nat
  spaced : Bool
  fresh : Bool
deriving Inhabited

namespace Page

/-- The column after which a line is broken. -/
def width : Nat := 80

/-- The empty page. -/
def blank : Page := ⟨"", 0, true, true⟩

/-- Writes text of one line. -/
def write (p : Page) (cs : List Char) : Page :=
  { p with text := p.text ++ String.ofList cs, column := p.column + cs.length }

/-- Ends the line. -/
def newLine (p : Page) (c : Char) : Page := ⟨p.text.push c, 0, true, true⟩

/-- Goes to the indentation, on a new line unless this one holds nothing else. -/
def indent (p : Page) (n : Nat) : Page :=
  let p :=
    if !p.fresh || n < p.column || (p.column == n && !p.spaced) then p.newLine '\n' else p
  if p.column < n then
    { p.write (List.replicate (n - p.column) ' ') with spaced := true }
  else p

/-- Writes an indicator, after a space where one is needed. -/
def mark (p : Page) (cs : List Char) (space keepsFresh : Bool) : Page :=
  let data := if p.spaced || !space then cs else ' ' :: cs
  { p.write data with spaced := false, fresh := p.fresh && keepsFresh }

/-- The line does not hold only white space any more. -/
def used (p : Page) : Page := { p with spaced := false, fresh := false }

end Page

/-! ## Styles of text -/

/-- The characters that end a line in a document. -/
def endsLine (c : Char) : Bool :=
  c == '\n' || c.toNat == 0x85 || c.toNat == 0x2028 || c.toNat == 0x2029

/-- Whether a text has no line end, no character outside printable ASCII, and no space where a
reader would drop it. -/
def isOneLine (cs : List Char) : Bool :=
  cs.all (fun c => 0x20 ≤ c.toNat && c.toNat ≤ 0x7E) && cs.head? != some ' '
    && cs.getLast? != some ' '

/-- Whether a colon before a gap, or a number sign after one, stands in the text after its first
character, which is given. -/
def hasInnerMark (before : Char) : List Char → Bool
  | [] => false
  | c :: rest =>
    (c == ':' && Cursor.endsOr isGap rest.head?) || (c == '#' && isGap before)
      || hasInnerMark c rest

/-- Whether the beginning of the text means something else in a block. -/
def hasLeadingMark (cs : List Char) : Bool :=
  cs.take 3 == ['-', '-', '-'] || cs.take 3 == ['.', '.', '.']
    || match cs with
      | [] => false
      | c :: rest =>
        "#,[]\x7b\x7d&*!|>'\"%@`".toList.contains c
          || ((c == '?' || c == ':' || c == '-') && Cursor.endsOr isGap rest.head?)

/-- Whether the text can stand without quotes. -/
def isPlain (s : String) : Bool :=
  match s.toList with
  | [] => false
  | c :: rest =>
    isOneLine (c :: rest) && !hasLeadingMark (c :: rest) && !hasInnerMark c rest
      && Tag.ofForm s == .text

/-- Whether some space stands next to a line end in the given order. -/
def hasPair (first second : Char → Bool) : List Char → Bool
  | a :: b :: rest => (first a && second b) || hasPair first second (b :: rest)
  | _ => false

/-- Whether the text can stand between single quotes. -/
def isSingle (cs : List Char) : Bool :=
  cs.all (fun c => c == '\n' || (0x20 ≤ c.toNat && c.toNat ≤ 0x7E))
    && !hasPair endsLine (· == ' ') cs && !hasPair (· == ' ') endsLine cs

/-! ## Writing text -/

/-- The maximal runs of characters of one kind: spaces, line ends, others. -/
def kindOf (c : Char) : Nat := if c == ' ' then 0 else if endsLine c then 1 else 2

/-- The text cut into runs of one kind each. -/
def runs : List Char → List (List Char)
  | [] => []
  | c :: cs =>
    match runs cs with
    | [] => [[c]]
    | [] :: more => [c] :: more
    | (d :: r) :: more =>
      if kindOf c == kindOf d then (c :: d :: r) :: more else [c] :: (d :: r) :: more

/-- Whether a lone space is replaced by a line break. -/
def breaksAt (p : Page) (run : List Char) (split : Bool) : Bool :=
  run == [' '] && Page.width < p.column && split

/-- Writes text without quotes. -/
def writePlain (indent : Nat) (split : Bool) (p : Page) (cs : List Char) : Page :=
  let p := (if p.spaced then p else p.write [' ']).used
  (runs cs).foldl
    (fun p run => if breaksAt p run split then (p.indent indent).used else p.write run) p

/-- Writes the runs of a text between single quotes; `first` says that none was written yet. -/
def writeSingleRuns (indent : Nat) (split : Bool) (first : Bool) (p : Page) :
    List (List Char) → Page
  | [] => p
  | run :: more =>
    let p :=
      match run with
      | ' ' :: _ =>
        if breaksAt p run split && !first && !more.isEmpty then p.indent indent else p.write run
      | c :: _ =>
        if endsLine c then
          let p := if c == '\n' then p.newLine '\n' else p
          (run.foldl (fun p b => p.newLine b) p).indent indent
        else p.write (run.flatMap fun c => if c == '\'' then ['\'', '\''] else [c])
      | [] => p
    writeSingleRuns indent split false p more

/-- Writes text between single quotes. -/
def writeSingle (indent : Nat) (split : Bool) (p : Page) (cs : List Char) : Page :=
  let p := p.mark ['\''] true false
  (writeSingleRuns indent split true p (runs cs)).mark ['\''] false false

/-- A hexadecimal number in upper case. -/
def upperHex (width n : Nat) : List Char := (Text.hexDigits width n).map Char.toUpper

/-- The escape of a character. -/
def escaped (c : Char) : List Char :=
  let n := c.toNat
  let letter : Option Char :=
    [(0x00, '0'), (0x07, 'a'), (0x08, 'b'), (0x09, 't'), (0x0A, 'n'), (0x0B, 'v'), (0x0C, 'f'),
      (0x0D, 'r'), (0x1B, 'e'), (0x22, '"'), (0x5C, '\\'), (0x85, 'N'), (0xA0, '_'),
      (0x2028, 'L'), (0x2029, 'P')].lookup n
  match letter with
  | some l => ['\\', l]
  | none =>
    if n ≤ 0xFF then '\\' :: 'x' :: upperHex 2 n
    else if n ≤ 0xFFFF then '\\' :: 'u' :: upperHex 4 n
    else '\\' :: 'U' :: upperHex 8 n

/-- Whether a character is written as it is between double quotes. -/
def isBare (c : Char) : Bool :=
  0x20 ≤ c.toNat && c.toNat ≤ 0x7E && c != '"' && c != '\\'

/-- Writes the characters of a text between double quotes. `pending` holds those not yet written,
last first; a line may be broken before a space or after an escape. -/
def writeDoubleChars (indent : Nat) (split : Bool) (first : Bool) (pending : List Char)
    (p : Page) : List Char → Page
  | [] => p.write pending.reverse
  | c :: rest =>
    let (p, before) := if isBare c then (p, pending) else
      ((p.write pending.reverse).write (escaped c), [])
    let here := if isBare c then [c] else []
    let room := if isBare c then Page.width else Page.width + 1
    if !first && !rest.isEmpty && (c == ' ' || !isBare c || pending.isEmpty)
        && room < p.column + before.length && split then
      let p := ((p.write (before.reverse ++ ['\\'])).indent indent).used
      let next := if isBare c then some c else rest.head?
      let p := if next == some ' ' then p.write ['\\'] else p
      writeDoubleChars indent split false here p rest
    else writeDoubleChars indent split false (here ++ before) p rest

/-- Writes text between double quotes. -/
def writeDouble (indent : Nat) (split : Bool) (p : Page) (cs : List Char) : Page :=
  (writeDoubleChars indent split true [] (p.mark ['"'] true false) cs).mark ['"'] false false

/-- Writes text in the plainest style that can hold it. A key never spans lines. -/
def writeText (indent : Nat) (isKey : Bool) (p : Page) (s : String) : Page :=
  let cs := s.toList
  if isPlain s then writePlain indent (!isKey) p cs
  else if isSingle cs && !(isKey && cs.any endsLine) then writeSingle indent (!isKey) p cs
  else writeDouble indent (!isKey) p cs

/-- The text of a fraction. -/
def floatText (x : Binary64) : String :=
  match x with
  | .nan => ".nan"
  | .infinite neg => if neg then "-.inf" else ".inf"
  | x =>
    let s := x.shortest.toList
    if s.contains '.' then String.ofList s
    else String.ofList (s.flatMap fun c => if c == 'e' then ['.', '0', 'e'] else [c])

/-- Writes a value that is neither a list nor a map. -/
def writeScalar (indent : Nat) (isKey : Bool) (p : Page) (v : Value) : Page :=
  let plain (s : String) : Page := writePlain indent (!isKey) p s.toList
  match v with
  | .null => plain "null"
  | .bool b => plain (if b then "true" else "false")
  | .int n => plain (toString n)
  | .float x => plain (floatText x)
  | .date d => plain d.iso
  | .moment m => plain (m.isoWith " ")
  | v => writeText indent isKey p v.display

/-! ## Writing blocks -/

/-- Whether a key fits on the line of its value. -/
def isShortKey : Value → Bool
  | .text s => !s.isEmpty && s.length + 5 < 128 && !s.toList.any endsLine
  | _ => true

/-- The indentation of a collection inside one of indentation `outer`. -/
def innerIndent (outer : Option Nat) : Nat :=
  match outer with
  | none => 0
  | some n => n + 2

mutual

/-- Writes a value. `outer` is the indentation around it, `inMap` says that it is the value or the
key of an entry. -/
def writeValue (outer : Option Nat) (inMap isKey : Bool) (p : Page) : Value → Page
  | .list [] => (p.mark ['['] true false).mark [']'] false false
  | .map [] => (p.mark ['\x7b'] true false).mark ['\x7d'] false false
  | .list (v :: vs) =>
    let indent := match outer with
      | some n => if inMap && !p.fresh then n else n + 2
      | none => 0
    writeItems indent p (v :: vs)
  | .map (e :: es) => writeEntries (innerIndent outer) p (e :: es)
  | v => writeScalar (innerIndent outer) isKey p v

/-- Writes the items of a list on lines of their own. -/
def writeItems (indent : Nat) (p : Page) : List Value → Page
  | [] => p
  | v :: vs =>
    let p := (p.indent indent).mark ['-'] true true
    writeItems indent (writeValue (some indent) false false p v) vs

/-- Writes the entries of a map on lines of their own. -/
def writeEntries (indent : Nat) (p : Page) : List (Value × Value) → Page
  | [] => p
  | (k, v) :: rest =>
    let p := p.indent indent
    let p :=
      if isShortKey k then (writeValue (some indent) true true p k).mark [':'] false false
      else
        let p := writeValue (some indent) true false (p.mark ['?'] true true) k
        (p.indent indent).mark [':'] true true
    writeEntries indent (writeValue (some indent) true false p v) rest

end

/-- The document of a value, with its last line end. -/
def write (v : Value) : String := (writeValue none false false .blank v).text.push '\n'

example : write (.list [.object [("a", .texts ["x", "1"]), ("b", .object [("c", .null)])]])
    = "- a:\n  - x\n  - '1'\n  b:\n    c: null\n" := by
  decide +kernel

end ClusterOps.Yaml
