import ClusterOps.Value.Json
import ClusterOps.Yaml.Cursor

/-
The words of a document: names, tags, directives, and scalars in their five
styles. Each function starts at the first character of a word and gives back
what the word says and the place after it.

A scalar between double quotes can name a character by two escapes, one for
each half. Such a scalar keeps its codes, because readers that ask for text
refuse halves even where they fit together.
-/

namespace ClusterOps.Yaml

/-- A scalar as written: its text, whether it stood without quotes, and its codes if halves of
characters are among them. -/
structure Written where
  text : String
  plain : Bool
  halves : Option Text.Halves
deriving DecidableEq, Repr, Inhabited

/-- A tag as written: a handle, unless the tag is given in full, and a suffix. -/
structure TagWord where
  handle : Option String
  suffix : String
deriving DecidableEq, Repr, Inhabited

/-- A directive. -/
inductive Directive where
  | version (major : Nat)
  | tag (handle lead : String)
  | other
deriving DecidableEq, Repr, Inhabited

/-- A word that is not as it should be. -/
def malformed {α : Type} : Except Defect (α × Cursor) := .error .malformed

/-! ## Names and tags -/

/-- The name of an anchor, after its indicator. -/
def anchorName (c : Cursor) : Except Defect (String × Cursor) :=
  let (name, after) := c.next.takeWhile isNameChar
  let closes (x : Char) : Bool := isGap x || "?:,]\x7d%@`".toList.contains x
  if name.isEmpty || !Cursor.endsOr closes after.peek then malformed
  else .ok (String.ofList name, after)

/-- The handle of a tag: `!`, `!!` or `!name!`. -/
def tagHandle (c : Cursor) : Except Defect (String × Cursor) :=
  if c.peek != some '!' then malformed
  else if c.ahead 1 == some ' ' then .ok ("!", c.next)
  else
    let (name, after) := c.next.takeWhile isNameChar
    if after.peek == some '!' then
      .ok (String.ofList ('!' :: (name ++ ['!'])), after.next)
    else malformed

/-- Whether a character may stand in the suffix of a tag. -/
def isTagChar (c : Char) : Bool :=
  c.isAlphanum || "-;/?:@&=+$,_.!~*'()[]%".toList.contains c

/-- The bytes written by percent escapes, each of two hexadecimal digits. -/
def percentBytes : Nat → List Nat → Cursor → Except Defect (List Nat × Cursor)
  | 0, _, _ => malformed
  | fuel + 1, done, c =>
    match c.rest with
    | '%' :: a :: b :: _ =>
      match Value.Json.hexNumber? [a, b] with
      | some n => percentBytes fuel (n :: done) (c.skip 3)
      | none => malformed
    | '%' :: _ => malformed
    | _ => .ok (done.reverse, c)

/-- Whether a byte continues a character in UTF-8. -/
def isTail (b : Nat) : Bool := 0x80 ≤ b && b ≤ 0xBF

/-- The characters that bytes denote in UTF-8, in the shortest form only; `done` holds the ones
read, last first. -/
def utf8From (done : List Char) : List Nat → Option (List Char)
  | [] => some done.reverse
  | a :: rest =>
    if a < 0x80 then utf8From (Char.ofNat a :: done) rest
    else match rest with
      | b :: rest =>
        if 0xC2 ≤ a && a ≤ 0xDF && isTail b then
          utf8From (Char.ofNat ((a - 0xC0) * 64 + (b - 0x80)) :: done) rest
        else match rest with
          | c :: rest =>
            let n := (a - 0xE0) * 4096 + (b - 0x80) * 64 + (c - 0x80)
            if 0xE0 ≤ a && a ≤ 0xEF && isTail b && isTail c && 0x800 ≤ n
                && !(0xD800 ≤ n && n ≤ 0xDFFF) then
              utf8From (Char.ofNat n :: done) rest
            else match rest with
              | d :: rest =>
                let n := (a - 0xF0) * 262144 + (b - 0x80) * 4096 + (c - 0x80) * 64 + (d - 0x80)
                if 0xF0 ≤ a && a ≤ 0xF4 && isTail b && isTail c && isTail d && 0x10000 ≤ n
                    && n ≤ 0x10FFFF then
                  utf8From (Char.ofNat n :: done) rest
                else none
              | [] => none
          | [] => none
      | [] => none

/-- The text that bytes denote in UTF-8. -/
def utf8? (bytes : List Nat) : Option String := (utf8From [] bytes).map String.ofList

/-- The suffix of a tag. -/
def tagSuffix : Nat → List Char → Cursor → Except Defect (String × Cursor)
  | 0, _, _ => malformed
  | fuel + 1, done, c =>
    let (run, after) := c.takeWhile fun x => isTagChar x && x != '%'
    let done := done ++ run
    if after.peek == some '%' then
      match percentBytes (after.size + 1) [] after with
      | .error e => .error e
      | .ok (bytes, after) =>
        match utf8? bytes with
        | some s => tagSuffix fuel (done ++ s.toList) after
        | none => malformed
    else if done.isEmpty then malformed
    else .ok (String.ofList done, after)

/-- The suffix of a tag, from its first character. -/
def tagSuffixAt (c : Cursor) : Except Defect (String × Cursor) := tagSuffix (c.size + 1) [] c

/-- Whether an exclamation mark stands before the next space or line end. -/
def hasHandle : List Char → Bool
  | [] => false
  | x :: rest => if x == ' ' || isBreak x then false else x == '!' || hasHandle rest

/-- A tag, from its exclamation mark. -/
def tagWord (c : Cursor) : Except Defect (TagWord × Cursor) :=
  let finish (handle : Option String) (suffix : String) (after : Cursor) :
      Except Defect (TagWord × Cursor) :=
    if Cursor.endsOr (fun x => x == ' ' || isBreak x) after.peek then .ok (⟨handle, suffix⟩, after)
    else malformed
  if c.ahead 1 == some '<' then
    match tagSuffixAt (c.skip 2) with
    | .error e => .error e
    | .ok (suffix, after) =>
      if after.peek == some '>' then finish none suffix after.next else malformed
  else if Cursor.endsOr isGap (c.ahead 1) then finish none "!" c.next
  else
    let handle := if hasHandle (c.rest.drop 1) then tagHandle c else .ok ("!", c.next)
    match handle with
    | .error e => .error e
    | .ok (h, after) =>
      match tagSuffixAt after with
      | .error e => .error e
      | .ok (suffix, after) => finish (some h) suffix after

/-! ## Directives -/

/-- A block of digits, as a number. -/
def versionNumber (c : Cursor) : Except Defect (Nat × Cursor) :=
  let (ds, after) := c.takeWhile Char.isDigit
  if ds.isEmpty then malformed else .ok (Value.Json.digitsValue ds, after)

/-- A directive with its line, from the percent sign. -/
def directive (c : Cursor) : Except Defect (Directive × Cursor) := do
  let ends (x : Char) : Bool := x == ' ' || isBreak x
  let (name, after) := c.next.takeWhile isNameChar
  if name.isEmpty || !Cursor.endsOr ends after.peek then malformed
  else
    let (d, after) ←
      if name == "YAML".toList then do
        let (major, dot) ← versionNumber after.skipSpaces
        if dot.peek != some '.' then malformed
        else
          let (_, after) ← versionNumber dot.next
          if Cursor.endsOr ends after.peek then pure (Directive.version major, after)
          else malformed
      else if name == "TAG".toList then do
        let (handle, after) ← tagHandle after.skipSpaces
        if after.peek != some ' ' then malformed
        else
          let (lead, after) ← tagSuffixAt after.skipSpaces
          if Cursor.endsOr ends after.peek then pure (Directive.tag handle lead, after)
          else malformed
      else pure (Directive.other, after.skipWhile (fun x => !isBreak x))
    let after ← after.skipBlankLine
    return (d, after)

/-! ## Scalars between quotes -/

/-- The code that an escape of one letter stands for. -/
def escapeCode? : Char → Option Nat
  | '0' => some 0x00
  | 'a' => some 0x07
  | 'b' => some 0x08
  | 't' => some 0x09
  | '\t' => some 0x09
  | 'n' => some 0x0A
  | 'v' => some 0x0B
  | 'f' => some 0x0C
  | 'r' => some 0x0D
  | 'e' => some 0x1B
  | ' ' => some 0x20
  | '"' => some 0x22
  | '\\' => some 0x5C
  | '/' => some 0x2F
  | 'N' => some 0x85
  | '_' => some 0xA0
  | 'L' => some 0x2028
  | 'P' => some 0x2029
  | _ => none

/-- How many digits an escape by code has. -/
def escapeWidth? : Char → Option Nat
  | 'x' => some 2
  | 'u' => some 4
  | 'U' => some 8
  | _ => none

/-- The empty lines inside a quoted scalar, up to the first character that is no gap. -/
def quotedBreaks : Nat → List Char → Cursor → Except Defect (List Char × Cursor)
  | 0, _, _ => malformed
  | fuel + 1, done, c =>
    if c.seesSeparator then malformed
    else
      let c := c.skipWhile fun x => x == ' ' || x == '\t'
      if c.sees isBreak then
        let (b, after) := c.lineBreak
        quotedBreaks fuel (done ++ b) after
      else .ok (done, c)

/-- What a line end inside a scalar contributes: a lone line feed becomes a space. -/
def foldBreak (lineBreak breaks : List Char) : List Char :=
  (if lineBreak != ['\n'] then lineBreak else if breaks.isEmpty then [' '] else []) ++ breaks

/-- The code points of a quoted scalar after its opening quote; `done` holds the ones read, last
first. -/
def quotedCodes (double : Bool) : Nat → List Nat → Cursor → Except Defect (List Nat × Cursor)
  | 0, _, _ => malformed
  | fuel + 1, done, c =>
    let breaksAt (c : Cursor) : Except Defect (List Char × Cursor) := quotedBreaks (c.size + 1) [] c
    let push (cs : List Char) : List Nat := cs.foldl (fun d x => x.toNat :: d) done
    match c.rest with
    | [] => malformed
    | x :: more =>
      if x == (if double then '"' else '\'') then
        if !double && more.head? == some '\'' then quotedCodes double fuel (0x27 :: done) (c.skip 2)
        else .ok (done.reverse, c.next)
      else if double && x == '\\' then
        match more with
        | [] => malformed
        | e :: digits =>
          match escapeCode? e, escapeWidth? e with
          | some n, _ => quotedCodes double fuel (n :: done) (c.skip 2)
          | none, some width =>
            match Value.Json.hexNumber? (digits.take width) with
            | none => malformed
            | some n =>
              if (digits.take width).length < width then malformed
              else if n ≤ 0x10FFFF then quotedCodes double fuel (n :: done) (c.skip (2 + width))
              else if n ≤ 0x7FFFFFFF then
                .error (.valueless "ValueError" "chr() arg not in range(0x110000)")
              else .error (.valueless "OverflowError" "signed integer is greater than maximum")
          | none, none =>
            if isBreak e then
              match breaksAt c.next.lineBreak.2 with
              | .error d => .error d
              | .ok (breaks, after) => quotedCodes double fuel (push breaks) after
            else malformed
      else if isGap x then
        let (spaces, after) := c.takeWhile fun x => x == ' ' || x == '\t'
        if after.sees isBreak then
          let (lineBreak, after) := after.lineBreak
          match breaksAt after with
          | .error d => .error d
          | .ok (breaks, after) =>
            quotedCodes double fuel (push (foldBreak lineBreak breaks)) after
        else if after.peek.isNone then malformed
        else quotedCodes double fuel (push spaces) after
      else quotedCodes double fuel (x.toNat :: done) c.next

/-- A quoted scalar, from its opening quote. -/
def quotedScalar (double : Bool) (c : Cursor) : Except Defect (Written × Cursor) := do
  let (codes, after) ← quotedCodes double (c.size + 1) [] c.next
  return (⟨String.ofList (Text.joined codes), false, Text.Halves.ofCodes? codes⟩, after)

/-! ## Scalars on indented lines -/

/-- What is kept of the line ends behind a block scalar. -/
inductive Chomp where
  | strip
  | clip
  | keep
deriving DecidableEq, Repr

/-- The chomping indicator, if there is one. -/
def chomp? : Option Char → Option Chomp
  | some '+' => some .keep
  | some '-' => some .strip
  | _ => none

/-- The indentation indicator, if there is one; zero is refused. -/
def indentDigit? : Option Char → Except Defect (Option Nat)
  | some x =>
    if x.isDigit then
      if x == '0' then .error .malformed else .ok (some (x.toNat - 48))
    else .ok none
  | none => .ok none

/-- The two indicators of a block scalar, in either order. -/
def blockHeader (c : Cursor) : Except Defect ((Chomp × Option Nat) × Cursor) := do
  let finish (chomp : Chomp) (digit : Option Nat) (after : Cursor) :
      Except Defect ((Chomp × Option Nat) × Cursor) :=
    if Cursor.endsOr (fun x => x == ' ' || isBreak x) after.peek then .ok ((chomp, digit), after)
    else malformed
  match chomp? c.peek with
  | some chomp =>
    match ← indentDigit? c.next.peek with
    | some d => finish chomp (some d) (c.skip 2)
    | none => finish chomp none c.next
  | none =>
    match ← indentDigit? c.peek with
    | some d =>
      match chomp? c.next.peek with
      | some chomp => finish chomp (some d) (c.skip 2)
      | none => finish .clip (some d) c.next
    | none => finish .clip none c

/-- The empty lines in front of a block scalar without indentation indicator, and its widest
indentation among them. -/
def leadingBreaks : Nat → List Char → Nat → Cursor → List Char × Nat × Cursor
  | 0, done, widest, c => (done, widest, c)
  | fuel + 1, done, widest, c =>
    if c.peek == some ' ' then
      leadingBreaks fuel done (max widest c.next.column) c.next
    else if c.sees isBreak then
      let (b, after) := c.lineBreak
      leadingBreaks fuel (done ++ b) widest after
    else (done, widest, c)

/-- The place after at most `indent` columns of spaces. -/
def skipIndent (indent : Nat) : Nat → Cursor → Cursor
  | 0, c => c
  | fuel + 1, c =>
    if c.column < indent && c.peek == some ' ' then skipIndent indent fuel c.next else c

/-- The empty lines between the lines of a block scalar. -/
def blockBreaks (indent : Nat) : Nat → List Char → Cursor → List Char × Cursor
  | 0, done, c => (done, c)
  | fuel + 1, done, c =>
    let c := skipIndent indent indent c
    if c.sees isBreak then
      let (b, after) := c.lineBreak
      blockBreaks indent fuel (done ++ b) after
    else (done, c)

/-- The lines of a block scalar; `done` holds the text read, last character first. -/
def blockLines (folded : Bool) (indent : Nat) (chomp : Chomp) :
    Nat → List Char → List Char → Cursor → List Char × Cursor
  | 0, done, _, c => (done.reverse, c)
  | fuel + 1, done, breaks, c =>
    let spaced (c : Cursor) : Bool := c.sees fun x => x == ' ' || x == '\t'
    let (line, after) := c.takeWhile fun x => !isBreak x
    let done := line.reverse ++ (breaks.reverse ++ done)
    let (lineBreak, after) := after.lineBreak
    let (breaks, after) := blockBreaks indent (after.size + 1) [] after
    if after.column == indent && after.peek.isSome then
      if folded && lineBreak == ['\n'] && !spaced c && !spaced after then
        blockLines folded indent chomp fuel (if breaks.isEmpty then ' ' :: done else done) breaks
          after
      else blockLines folded indent chomp fuel (lineBreak.reverse ++ done) breaks after
    else
      let tail := match chomp with
        | .strip => []
        | .clip => lineBreak
        | .keep => lineBreak ++ breaks
      (done.reverse ++ tail, after)

/-- A block scalar, from its indicator; `outer` is the indentation around it. -/
def blockScalar (folded : Bool) (outer : Int) (c : Cursor) : Except Defect (Written × Cursor) := do
  let ((chomp, digit), after) ← blockHeader c.next
  let after ← after.skipBlankLine
  let least := (max (outer + 1) 1).toNat
  let fuel := after.size + 1
  let (indent, breaks, after) := match digit with
    | some d =>
      let indent := least + d - 1
      let (breaks, after) := blockBreaks indent fuel [] after
      (indent, breaks, after)
    | none =>
      let (breaks, widest, after) := leadingBreaks fuel [] 0 after
      (max least widest, breaks, after)
  if after.column == indent && after.peek.isSome then
    let (cs, after) := blockLines folded indent chomp fuel [] breaks after
    return (⟨String.ofList cs, false, none⟩, after)
  else
    let cs := if chomp = .keep then breaks else []
    return (⟨String.ofList cs, false, none⟩, after)

/-! ## Scalars without quotes -/

/-- Whether a scalar without quotes ends before the first of these characters. -/
def endsPlain (flow : Bool) : List Char → Bool
  | [] => true
  | x :: rest =>
    isGap x
      || (x == ':' && Cursor.endsOr
            (fun y => isGap y || (flow && ",[]\x7b\x7d".toList.contains y)) rest.head?)
      || (flow && ",?[]\x7b\x7d".toList.contains x)

/-- The characters up to the end of one run of a scalar without quotes, last one first. -/
def plainRun (flow : Bool) (done : List Char) (c : Cursor) : List Char → List Char × Cursor
  | [] => (done, c)
  | x :: rest =>
    if endsPlain flow (x :: rest) then (done, c) else plainRun flow (x :: done) c.next rest

/-- The empty lines inside a scalar without quotes; nothing if a document separator follows. -/
def plainBreaks : Nat → List Char → Cursor → Option (List Char) × Cursor
  | 0, done, c => (some done, c)
  | fuel + 1, done, c =>
    if c.peek == some ' ' then plainBreaks fuel done c.next
    else if c.sees isBreak then
      let (b, after) := c.lineBreak
      if after.seesSeparator then (none, after) else plainBreaks fuel (done ++ b) after
    else (some done, c)

/-- What stands between two runs of a scalar without quotes, the place after it, and whether a
line ended in it. -/
def plainGap (c : Cursor) : List Char × Cursor × Bool :=
  let (spaces, after) := c.takeWhile (· == ' ')
  if after.sees isBreak then
    let (lineBreak, after) := after.lineBreak
    if after.seesSeparator then ([], after, true)
    else
      match plainBreaks (after.size + 1) [] after with
      | (none, after) => ([], after, true)
      | (some breaks, after) => (foldBreak lineBreak breaks, after, true)
  else (spaces, after, false)

/-- A scalar without quotes, its runs and the gaps between them; the flag says whether a key may
start right after it, which a line end allows. -/
def plainRuns (flow : Bool) (indent : Int) :
    Nat → List Char → List Char → Bool → Cursor → List Char × Bool × Cursor
  | 0, done, _, allow, c => (done, allow, c)
  | fuel + 1, done, gap, allow, c =>
    if c.peek == some '#' then (done, allow, c)
    else
      let (run, after) := plainRun flow [] c c.rest
      if run.isEmpty then (done, allow, after)
      else
        let done := run ++ (gap.reverse ++ done)
        let (gap, after, ended) := plainGap after
        if gap.isEmpty || after.peek == some '#' || (!flow && (after.column : Int) < indent) then
          (done, ended, after)
        else plainRuns flow indent fuel done gap ended after

/-- A scalar without quotes, and whether a key may start right after it. -/
def plainScalar (flow : Bool) (outer : Int) (c : Cursor) : Written × Bool × Cursor :=
  let (cs, allow, after) := plainRuns flow (outer + 1) (c.size + 1) [] [] false c
  (⟨String.ofList cs.reverse, true, none⟩, allow, after)

end ClusterOps.Yaml
