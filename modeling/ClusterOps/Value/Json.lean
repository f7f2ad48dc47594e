import ClusterOps.Value

/-
JSON texts. The reader keeps what a schema may ask about: whole numbers stay
whole, the entries of an object keep their order, and a repeated key keeps its
first place with its last value. The writer has two layouts, one line or
indented by two, and writes ASCII only.
-/

namespace ClusterOps.Value.Json

/-! ## Reading -/

/-- The text without the blanks in front. -/
def skipBlanks : List Char → List Char
  | [] => []
  | c :: cs =>
    if c == ' ' || c == '\t' || c == '\n' || c == '\r' then skipBlanks cs else c :: cs

/-- The value of a hexadecimal digit. -/
def hexValue? (c : Char) : Option Nat :=
  if '0' ≤ c && c ≤ '9' then some (c.toNat - 48)
  else if 'a' ≤ c && c ≤ 'f' then some (c.toNat - 87)
  else if 'A' ≤ c && c ≤ 'F' then some (c.toNat - 55)
  else none

/-- The number written by hexadecimal digits. -/
def hexNumber? (cs : List Char) : Option Nat :=
  cs.foldl (fun n c => do return (← n) * 16 + (← hexValue? c)) (some 0)

/-- The character that an escape of one letter stands for. -/
def unescape? : Char → Option Char
  | '"' => some '"'
  | '\\' => some '\\'
  | '/' => some '/'
  | 'b' => some '\x08'
  | 'f' => some '\x0c'
  | 'n' => some '\n'
  | 'r' => some '\r'
  | 't' => some '\t'
  | _ => none

/-- The rest of a text after its opening quote. `high` is the first half of a character that is
written by two escapes; `done` is what was read, last character first. -/
def textRest? (high : Option Nat) (done : List Char) : List Char → Option (String × List Char)
  | [] => none
  | '"' :: rest =>
    match high with
    | none => some (String.ofList done.reverse, rest)
    | some _ => none
  | '\\' :: 'u' :: a :: b :: c :: d :: rest =>
    match hexNumber? [a, b, c, d], high with
    | none, _ => none
    | some n, some h =>
      if 0xDC00 ≤ n && n ≤ 0xDFFF then
        textRest? none (Char.ofNat (0x10000 + (h - 0xD800) * 0x400 + (n - 0xDC00)) :: done) rest
      else none
    | some n, none =>
      if 0xD800 ≤ n && n ≤ 0xDBFF then textRest? (some n) done rest
      else if 0xDC00 ≤ n && n ≤ 0xDFFF then none
      else textRest? none (Char.ofNat n :: done) rest
  | '\\' :: c :: rest =>
    match unescape? c, high with
    | some x, none => textRest? none (x :: done) rest
    | _, _ => none
  | c :: rest =>
    if high.isSome || c.toNat < 0x20 || c == '\\' then none else textRest? none (c :: done) rest

/-- The number that a block of digits denotes. -/
def digitsValue (ds : List Char) : Nat := ds.foldl (fun n c => 10 * n + (c.toNat - 48)) 0

/-- The fraction after a point: its digits. -/
def fraction? : List Char → Option (List Char × List Char)
  | '.' :: rest =>
    let (ds, rest) := rest.span Char.isDigit
    if ds.isEmpty then none else some (ds, rest)
  | cs => some ([], cs)

/-- The exponent after an `e`, if there is one. -/
def exponent? : List Char → Option (Option Int × List Char)
  | c :: rest =>
    if c == 'e' || c == 'E' then
      let (negative, rest) := match rest with
        | '-' :: rest => (true, rest)
        | '+' :: rest => (false, rest)
        | rest => (false, rest)
      let (ds, rest) := rest.span Char.isDigit
      if ds.isEmpty then none
      else
        let n : Int := digitsValue ds
        some (some (if negative then -n else n), rest)
    else some (none, c :: rest)
  | [] => some (none, [])

/-- A number: whole if it has neither fraction nor exponent. -/
def number? (cs : List Char) : Option (Value × List Char) :=
  let (negative, cs) := match cs with
    | '-' :: rest => (true, rest)
    | cs => (false, cs)
  let (whole, rest) := cs.span Char.isDigit
  if whole.isEmpty || (whole.length > 1 && whole.head? == some '0') then none
  else
    match fraction? rest with
    | none => none
    | some (decimals, rest) =>
      match exponent? rest with
      | none => none
      | some (e, rest) =>
        if decimals.isEmpty && e.isNone then
          let n : Int := digitsValue whole
          some (.int (if negative then -n else n), rest)
        else
          let power := e.getD 0 - decimals.length
          some (.float (.ofDecimal negative (digitsValue (whole ++ decimals)) power), rest)

mutual

/-- One value, with what follows it; `fuel` bounds the count of values and separators. -/
def value? (fuel : Nat) (cs : List Char) : Option (Value × List Char) :=
  match fuel with
  | 0 => none
  | fuel + 1 =>
    match skipBlanks cs with
    | '"' :: rest => (textRest? none [] rest).map fun (s, rest) => (.text s, rest)
    | '[' :: rest =>
      match skipBlanks rest with
      | ']' :: rest => some (.list [], rest)
      | rest => items? fuel [] rest
    | '\x7b' :: rest =>
      match skipBlanks rest with
      | '\x7d' :: rest => some (.map [], rest)
      | rest => members? fuel [] rest
    | 't' :: 'r' :: 'u' :: 'e' :: rest => some (.bool true, rest)
    | 'f' :: 'a' :: 'l' :: 's' :: 'e' :: rest => some (.bool false, rest)
    | 'n' :: 'u' :: 'l' :: 'l' :: rest => some (.null, rest)
    | cs => number? cs

/-- The items of an array up to its end; `done` holds the ones read, last first. -/
def items? (fuel : Nat) (done : List Value) (cs : List Char) : Option (Value × List Char) :=
  match fuel with
  | 0 => none
  | fuel + 1 =>
    match value? fuel cs with
    | none => none
    | some (v, rest) =>
      match skipBlanks rest with
      | ',' :: rest => items? fuel (v :: done) rest
      | ']' :: rest => some (.list (v :: done).reverse, rest)
      | _ => none

/-- The members of an object up to its end. -/
def members? (fuel : Nat) (done : List (Value × Value)) (cs : List Char) :
    Option (Value × List Char) :=
  match fuel with
  | 0 => none
  | fuel + 1 =>
    match skipBlanks cs with
    | '"' :: rest =>
      match textRest? none [] rest with
      | none => none
      | some (key, rest) =>
        match skipBlanks rest with
        | ':' :: rest =>
          match value? fuel rest with
          | none => none
          | some (v, rest) =>
            let done := put done (.text key) v
            match skipBlanks rest with
            | ',' :: rest => members? fuel done rest
            | '\x7d' :: rest => some (.map done, rest)
            | _ => none
        | _ => none
    | _ => none

end

/-- The value that a whole text denotes. -/
def read? (s : String) : Option Value :=
  let cs := s.toList
  match value? (cs.length + 1) cs with
  | some (v, rest) => if (skipBlanks rest).isEmpty then some v else none
  | none => none

/-! ## Writing -/

/-- A code of sixteen bits as an escape. -/
def escape16 (n : Nat) : List Char := '\\' :: 'u' :: Text.hexDigits 4 n

/-- One character of a text. -/
def escapeChar (c : Char) : List Char :=
  if c == '"' then ['\\', '"']
  else if c == '\\' then ['\\', '\\']
  else if c == '\n' then ['\\', 'n']
  else if c == '\r' then ['\\', 'r']
  else if c == '\t' then ['\\', 't']
  else if c == '\x08' then ['\\', 'b']
  else if c == '\x0c' then ['\\', 'f']
  else if 0x20 ≤ c.toNat && c.toNat < 0x7F then [c]
  else if c.toNat < 0x10000 then escape16 c.toNat
  else
    let n := c.toNat - 0x10000
    escape16 (0xD800 + n / 0x400) ++ escape16 (0xDC00 + n % 0x400)

/-- A text between double quotes. -/
def writeText (s : String) : String :=
  String.ofList ('"' :: (s.toList.flatMap escapeChar ++ ['"']))

/-- A number that is not whole. -/
def writeFloat : Binary64 → String
  | .infinite neg => if neg then "-Infinity" else "Infinity"
  | .nan => "NaN"
  | x => x.shortest

/-- A value that is not a list or a map; kinds that JSON lacks are written as texts. -/
def writeScalar : Value → String
  | .null => "null"
  | .bool b => if b then "true" else "false"
  | .int n => toString n
  | .float x => writeFloat x
  | v => writeText v.display

/-- A key of an object. -/
def writeKey : Value → String
  | .text s => writeText s
  | .float x => writeText (writeFloat x)
  | v => writeText (if v.number?.isSome || v.isNull then writeScalar v else v.display)

mutual

/-- The value on one line. -/
def compact : Value → String
  | .list vs => "[" ++ ", ".intercalate (compactItems vs) ++ "]"
  | .map es => "\x7b" ++ ", ".intercalate (compactEntries es) ++ "\x7d"
  | v => writeScalar v

/-- `compact` on the items of a list. -/
def compactItems : List Value → List String
  | [] => []
  | v :: vs => compact v :: compactItems vs

/-- `compact` on the entries of a map. -/
def compactEntries : List (Value × Value) → List String
  | [] => []
  | (k, v) :: rest => (writeKey k ++ ": " ++ compact v) :: compactEntries rest

end

/-- A line break followed by the indentation of a depth. -/
def lineBreak (depth : Nat) : String := String.ofList ('\n' :: List.replicate (2 * depth) ' ')

/-- Parts on lines of their own between brackets. -/
def block (opening closing : String) (depth : Nat) : List String → String
  | [] => opening ++ closing
  | parts =>
    opening ++ lineBreak (depth + 1) ++ ("," ++ lineBreak (depth + 1)).intercalate parts
      ++ lineBreak depth ++ closing

mutual

/-- The value at a depth, its parts on lines of their own. -/
def indentedAt (depth : Nat) : Value → String
  | .list vs => block "[" "]" depth (indentedItems (depth + 1) vs)
  | .map es => block "\x7b" "\x7d" depth (indentedEntries (depth + 1) es)
  | v => writeScalar v

/-- `indentedAt` on the items of a list. -/
def indentedItems (depth : Nat) : List Value → List String
  | [] => []
  | v :: vs => indentedAt depth v :: indentedItems depth vs

/-- `indentedAt` on the entries of a map. -/
def indentedEntries (depth : Nat) : List (Value × Value) → List String
  | [] => []
  | (k, v) :: rest => (writeKey k ++ ": " ++ indentedAt depth v) :: indentedEntries depth rest

end

/-- The value on lines indented by two. -/
def indented (v : Value) : String := indentedAt 0 v

example : (read? "[1, 2.50, \"\\u00e9\"]").map quoted = some "[1, 2.5, 'é']" := by
  decide +kernel

example : compact (object [("a", .texts ["é"]), ("b", .null)])
    = "\x7b\"a\": [\"\\u00e9\"], \"b\": null\x7d" := by
  decide +kernel

end ClusterOps.Value.Json
