import ClusterOps.Text.Case
import ClusterOps.Text.IntLiteral
import ClusterOps.Yaml.Lexeme

/-
What scalars denote. A scalar without quotes gets its kind from its form:
`yes` and `on` are truth values, `0x1F`, `017`, `1_000` and `12:30` whole
numbers, `1.5` and `1.5e+3` fractions, `2024-01-31` a day; anything else is
text. A tag gives the kind whatever the form, and then the text may have no
value of that kind.
-/

namespace ClusterOps.Yaml

/-- The kinds of nodes that have a meaning here. -/
inductive Tag where
  | null
  | bool
  | int
  | float
  | binary
  | timestamp
  | text
  | seq
  | map
  | set
  | pairs
  | merge
  | value
  | unknown
deriving DecidableEq, Repr, Inhabited

namespace Tag

/-- The common beginning of the tags of the standard kinds. -/
def standard : String := "tag:yaml.org,2002:"

/-- The kind that a tag in full names. -/
def ofName (name : String) : Tag :=
  if name == standard ++ "null" then .null
  else if name == standard ++ "bool" then .bool
  else if name == standard ++ "int" then .int
  else if name == standard ++ "float" then .float
  else if name == standard ++ "binary" then .binary
  else if name == standard ++ "timestamp" then .timestamp
  else if name == standard ++ "str" then .text
  else if name == standard ++ "seq" then .seq
  else if name == standard ++ "map" then .map
  else if name == standard ++ "set" then .set
  else if name == standard ++ "pairs" || name == standard ++ "omap" then .pairs
  else if name == standard ++ "merge" then .merge
  else if name == standard ++ "value" then .value
  else .unknown

/-! ## Forms -/

/-- Whether there is at least one character and all satisfy a test. -/
def run (test : Char → Bool) (cs : List Char) : Bool := !cs.isEmpty && cs.all test

/-- The text without a sign in front. -/
def unsigned : List Char → List Char
  | '-' :: cs => cs
  | '+' :: cs => cs
  | cs => cs

/-- Whether a character is a digit or an underscore. -/
def digitOrBar (c : Char) : Bool := c.isDigit || c == '_'

/-- One to two digits below sixty. -/
def isSixtieth : List Char → Bool
  | [a] => a.isDigit
  | [a, b] => '0' ≤ a && a ≤ '5' && b.isDigit
  | _ => false

/-- Digits and underscores that begin with a digit. -/
def digitsBars : List Char → Bool
  | c :: cs => c.isDigit && cs.all digitOrBar
  | [] => false

/-- Whether the text has the form of a whole number. -/
def isInt (cs : List Char) : Bool :=
  match unsigned cs with
  | ['0'] => true
  | '0' :: 'b' :: ds => run (fun c => c == '0' || c == '1' || c == '_') ds
  | '0' :: 'x' :: ds => run (fun c => (Value.Json.hexValue? c).isSome || c == '_') ds
  | '0' :: ds => run (fun c => ('0' ≤ c && c ≤ '7') || c == '_') ds
  | ds =>
    match Text.splitOn ':' ds with
    | [whole] => digitsBars whole
    | whole :: parts => digitsBars whole && parts.all isSixtieth
    | [] => false

/-- Whether the text is empty or an exponent with its sign. -/
def isExponent : List Char → Bool
  | [] => true
  | e :: s :: ds => (e == 'e' || e == 'E') && (s == '-' || s == '+') && run Char.isDigit ds
  | _ => false

/-- The words for infinity and for what is not a number. -/
def isFloatWord (cs : List Char) : Bool :=
  let word := String.ofList (unsigned cs)
  word == ".inf" || word == ".Inf" || word == ".INF"
    || [".nan", ".NaN", ".NAN"].contains (String.ofList cs)

/-- Whether the text has the form of a fraction. -/
def isFloat (cs : List Char) : Bool :=
  let (whole, point) := (unsigned cs).span (· != '.')
  match point with
  | [] => false
  | _ :: decimals =>
    let (places, exponent) := decimals.span digitOrBar
    if isFloatWord cs then true
    else if whole.isEmpty then
      cs.head? == some '.' && digitsBars places && isExponent exponent
    else
      match Text.splitOn ':' whole with
      | [ds] => digitsBars ds && isExponent exponent
      | ds :: parts => digitsBars ds && parts.all isSixtieth && exponent.isEmpty
      | [] => false

/-- The parts of a day or a moment as written. -/
structure Stamp where
  year : Nat
  month : Nat
  day : Nat
  clock : Option (Nat × Nat × Nat)
  fraction : List Char
  zone : Option (Bool × Nat × Nat)
deriving DecidableEq, Repr

/-- One or two digits. -/
def twoDigits? (cs : List Char) : Option (Nat × List Char) :=
  match cs with
  | a :: b :: rest =>
    if a.isDigit && b.isDigit then some (Value.Json.digitsValue [a, b], rest)
    else if a.isDigit then some (Value.Json.digitsValue [a], b :: rest)
    else none
  | [a] => if a.isDigit then some (Value.Json.digitsValue [a], []) else none
  | [] => none

/-- Exactly two digits. -/
def pair? : List Char → Option (Nat × List Char)
  | a :: b :: rest =>
    if a.isDigit && b.isDigit then some (Value.Json.digitsValue [a, b], rest) else none
  | _ => none

/-- One character that has to be there. -/
def expect? (c : Char) : List Char → Option (List Char)
  | x :: rest => if x == c then some rest else none
  | [] => none

/-- The zone at the end of a moment: nothing, `Z`, or a signed offset. -/
def zone? (cs : List Char) : Option (Option (Bool × Nat × Nat)) :=
  if cs.isEmpty then some none
  else match cs.dropWhile fun c => c == ' ' || c == '\t' with
  | ['Z'] => some (some (false, 0, 0))
  | s :: rest =>
    if s == '-' || s == '+' then do
      let (hours, rest) ← twoDigits? rest
      match rest with
      | [] => some (some (s == '-', hours, 0))
      | _ =>
        let (minutes, rest) ← pair? (← expect? ':' rest)
        if rest.isEmpty then some (some (s == '-', hours, minutes)) else none
    else none
  | [] => none

/-- The parts of a day or a moment. A day alone needs two digits for its month and day, unless
`loose` says that the kind is given by a tag. -/
def stamp? (loose : Bool) (cs : List Char) : Option Stamp := do
  let (a, rest) ← pair? cs
  let (b, rest) ← pair? rest
  let (month, rest) ← twoDigits? (← expect? '-' rest)
  let (day, rest) ← twoDigits? (← expect? '-' rest)
  let year := a * 100 + b
  match rest with
  | [] => if loose || cs.length == 10 then some ⟨year, month, day, none, [], none⟩ else none
  | c :: _ =>
    let rest ←
      if c == 'T' || c == 't' then some (rest.drop 1)
      else if c == ' ' || c == '\t' then some (rest.dropWhile fun c => c == ' ' || c == '\t')
      else none
    let (hour, rest) ← twoDigits? rest
    let (minute, rest) ← pair? (← expect? ':' rest)
    let (second, rest) ← pair? (← expect? ':' rest)
    let (fraction, rest) := match rest with
      | '.' :: more => more.span Char.isDigit
      | rest => ([], rest)
    some ⟨year, month, day, some (hour, minute, second), fraction, ← zone? rest⟩

/-- The text without a line feed at its end, unless it is nothing else. -/
def withoutLineEnd (cs : List Char) : List Char :=
  if 1 < cs.length && cs.getLast? == some '\n' then cs.dropLast else cs

/-- The kind of a scalar, from its form. A line feed at the end does not count. -/
def ofForm (s : String) : Tag :=
  let cs := withoutLineEnd s.toList
  let s := String.ofList cs
  if ["yes", "Yes", "YES", "no", "No", "NO", "true", "True", "TRUE", "false", "False", "FALSE",
      "on", "On", "ON", "off", "Off", "OFF"].contains s then .bool
  else if isFloat cs then .float
  else if isInt cs then .int
  else if s == "<<" then .merge
  else if ["~", "null", "Null", "NULL", ""].contains s then .null
  else if (stamp? false cs).isSome then .timestamp
  else if s == "=" then .value
  else if ["!", "&", "*"].contains s then .unknown
  else .text

/-! ## Values -/

/-- A text that has no value of its kind. -/
def refused {α : Type} (kind message : String) : Except Defect α := .error (.valueless kind message)

/-- The digit value of a character in a base. -/
def digitIn? (base : Nat) (c : Char) : Option Nat :=
  let v := (Text.digitValue? c).orElse fun _ => Value.Json.hexValue? c
  v.filter (· < base)

/-- The digits of a number behind the mark of its base, if it has one. -/
def withoutMark (base : Nat) : List Char → List Char
  | '0' :: mark :: ds =>
    if [(2, 'b'), (2, 'B'), (8, 'o'), (8, 'O'), (16, 'x'), (16, 'X')].contains (base, mark) then ds
    else '0' :: mark :: ds
  | ds => ds

/-- The number with these digits in a base. -/
def natIn? (base : Nat) (ds : List Char) : Option Nat :=
  ds.foldl (fun n c => do return (← n) * base + (← digitIn? base c)) (some 0)

/-- The number written in a base, which may have a sign of its own, or the complaint about it. -/
def intIn (base : Nat) (cs : List Char) : Except Defect Int :=
  let complaint : Except Defect Int :=
    refused "ValueError" ("invalid literal for int() with base " ++ toString base ++ ": "
      ++ Text.quoted (String.ofList cs))
  let word := Text.withoutMargin cs
  let ds := withoutMark base (unsigned word)
  let count := (ds.takeWhile (digitIn? base · |>.isSome)).length
  if ds.isEmpty then complaint
  else if base == 10 && Text.maxDigits < count then
    refused "ValueError" ("Exceeds the limit (4300 digits) for integer string conversion: value "
      ++ "has " ++ toString count
      ++ " digits; use sys.set_int_max_str_digits() to increase the limit")
  else
    match natIn? base ds with
    | some n => .ok (if word.head? == some '-' then -(n : Int) else n)
    | none => complaint

/-- The whole number that a text denotes. -/
def intOf (s : String) : Except Defect Int := do
  let cs := s.toList.filter (· != '_')
  match cs with
  | [] => refused "IndexError" "string index out of range"
  | first :: _ =>
    let ds := unsigned cs
    let sign : Int := if first == '-' then -1 else 1
    match ds with
    | [] => refused "IndexError" "string index out of range"
    | ['0'] => return 0
    | '0' :: 'b' :: rest => return sign * (← intIn 2 rest)
    | '0' :: 'x' :: rest => return sign * (← intIn 16 rest)
    | '0' :: _ => return sign * (← intIn 8 ds)
    | _ =>
      match Text.splitOn ':' ds with
      | [_] => return sign * (← intIn 10 ds)
      | parts =>
        return sign * (← parts.foldlM (fun n part => do return 60 * n + (← intIn 10 part)) 0)

/-- The number that digits with at most one point and an exponent denote. -/
def decimal? (cs : List Char) : Option (Nat × Int) := do
  let (whole, rest) := cs.span Char.isDigit
  let (places, rest) := match rest with
    | '.' :: more => more.span Char.isDigit
    | rest => ([], rest)
  if whole.isEmpty && places.isEmpty then none
  else
    let (e, rest) ← Value.Json.exponent? rest
    if rest.isEmpty then
      some (Value.Json.digitsValue (whole ++ places), e.getD 0 - places.length)
    else none

/-- The number with its sign. -/
def signed (negative : Bool) : Binary64 → Binary64
  | .finite neg m e => .finite (neg != negative) m e
  | .infinite neg => .infinite (neg != negative)
  | .nan => .nan

/-- A digit of any script as one of the ten that count here. -/
def plainDigit (c : Char) : Char := ((Text.digitValue? c).map Nat.digitChar).getD c

/-- The number that one part of a fraction denotes, which may have a sign of its own. -/
def floatPart (cs : List Char) : Except Defect Binary64 :=
  let word := Text.withoutMargin cs
  let negative := word.head? == some '-'
  match decimal? ((unsigned word).map plainDigit) with
  | some (n, p) => .ok (.ofDecimal negative n p)
  | none =>
    let name := String.ofList (unsigned word)
    if name == "inf" || name == "infinity" then .ok (.infinite negative)
    else if name == "nan" then .ok .nan
    else refused "ValueError"
      ("could not convert string to float: " ++ Text.quoted (String.ofList cs))

/-- The sum of parts, last one first, each of which counts sixty times as much as the one before;
`base` is what the next one counts. -/
def sixtieths (sum : Binary64) (base : Nat) : List Binary64 → Except Defect Binary64
  | [] => .ok sum
  | part :: parts =>
    match Binary64.ofInt base with
    | .finite neg m e => sixtieths (sum.plus (part.times (.finite neg m e))) (60 * base) parts
    | _ => refused "OverflowError" "int too large to convert to float"

/-- The fraction that a text denotes. -/
def floatOf (s : String) : Except Defect Binary64 := do
  let cs := Text.lowerChars (s.toList.filter (· != '_'))
  match cs with
  | [] => refused "IndexError" "string index out of range"
  | first :: _ =>
    let negative := first == '-'
    let ds := unsigned cs
    if ds == ".inf".toList then return .infinite negative
    else if ds == ".nan".toList then return .nan
    else
      match Text.splitOn ':' ds with
      | [_] => return signed negative (← floatPart ds)
      | parts =>
        let parts ← parts.mapM floatPart
        return signed negative (← sixtieths (.finite false 0 (-1074)) 1 parts.reverse)

/-- The truth value that a text denotes. -/
def boolOf (s : String) : Except Defect Bool :=
  let word := Text.lower s
  if ["yes", "true", "on"].contains word then .ok true
  else if ["no", "false", "off"].contains word then .ok false
  else refused "KeyError" (Text.quoted word)

/-- Seconds of an offset from universal time. -/
def offsetOf (zone : Bool × Nat × Nat) : Int :=
  let (minus, hours, minutes) := zone
  let n : Int := (hours * 3600 + minutes * 60 : Nat)
  if minus then -n else n

/-- A moment whose parts are in range, or the complaint about the first that is not. -/
def momentOf (s : Stamp) : Except Defect Value :=
  let wrong (message : String) : Except Defect Value := refused "ValueError" message
  let date : Date := ⟨s.year, s.month, s.day⟩
  let offset := s.zone.map offsetOf
  if 86400 ≤ (offset.getD 0).natAbs then
    wrong ("offset must be a timedelta strictly between -timedelta(hours=24) and "
      ++ "timedelta(hours=24), not " ++ Value.quotedSpan (offset.getD 0) ++ ".")
  else if s.year == 0 then wrong "year 0 is out of range"
  else if s.month == 0 || 12 < s.month then wrong "month must be in 1..12"
  else if !date.isValid then wrong "day is out of range for month"
  else match s.clock with
    | none => .ok (.date date)
    | some (hour, minute, second) =>
      let micro := Value.Json.digitsValue ((s.fraction ++ List.replicate 6 '0').take 6)
      if 24 ≤ hour then wrong "hour must be in 0..23"
      else if 60 ≤ minute then wrong "minute must be in 0..59"
      else if 60 ≤ second then wrong "second must be in 0..59"
      else .ok (.moment ⟨date, hour, minute, second, micro, offset⟩)

/-- The value of a character of the alphabet of binary data. -/
def sextet? (c : Char) : Option Nat :=
  if 'A' ≤ c && c ≤ 'Z' then some (c.toNat - 65)
  else if 'a' ≤ c && c ≤ 'z' then some (c.toNat - 71)
  else if c.isDigit then some (c.toNat + 4)
  else if c == '+' then some 62
  else if c == '/' then some 63
  else none

/-- The bytes written by groups of four characters; what is not of the alphabet is skipped.
`bits` holds `place` characters of the present group. -/
def bytesOf (place bits pads : Nat) (done : List Nat) : List Char → Option (List Nat)
  | [] => if place == 0 then some done.reverse else none
  | c :: cs =>
    if c == '=' then
      if 2 ≤ place && 4 ≤ place + pads + 1 then some done.reverse
      else bytesOf place bits (if 2 ≤ place then pads + 1 else pads) done cs
    else match sextet? c with
      | none => bytesOf place bits pads done cs
      | some v =>
        let bits := bits * 64 + v
        match place with
        | 0 => bytesOf 1 v 0 done cs
        | 1 => bytesOf 2 bits 0 (bits / 16 % 256 :: done) cs
        | 2 => bytesOf 3 bits 0 (bits / 4 % 256 :: done) cs
        | _ => bytesOf 0 0 0 (bits % 256 :: done) cs

/-- The value that a text denotes when its kind is given. Halves keep a text from being a number,
and their place is marked where it is complained about. -/
def valueOf (tag : Tag) (text : String) (halves : Option Text.Halves) : Except Defect Value :=
  let text := halves.elim text (Text.Halves.marked 1)
  match tag with
  | .null => .ok .null
  | .bool => (boolOf text).map .bool
  | .int => (intOf text).map .int
  | .float => (floatOf text).map .float
  | .timestamp =>
    match stamp? true (withoutLineEnd text.toList) with
    | some s => momentOf s
    | none => refused "AttributeError" "'NoneType' object has no attribute 'groupdict'"
  | .binary =>
    if text.toList.all fun c => c.toNat < 128 then
      match bytesOf 0 0 0 [] text.toList with
      | some bs => .ok (.bytes bs)
      | none => .error .malformed
    else .error .malformed
  | .text => .ok (halves.elim (.text text) .halves)
  | _ => .error .malformed

example : ["yes", "0x1F", "0o17", "1_000", "12:30", "1.5", "1e3", "2024-01-02", "~", "y"].map ofForm
    = [.bool, .int, .text, .int, .int, .float, .text, .timestamp, .null, .text] := by
  decide +kernel

example : (intOf "12:30").toOption = some 750 ∧ (intOf "-0x1F").toOption = some (-31)
    ∧ (intOf "017").toOption = some 15 ∧ (intOf "--5").toOption = some 5 := by
  decide +kernel

end Tag

end ClusterOps.Yaml
