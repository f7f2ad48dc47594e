import ClusterOps.Number.Rounding

/-
Dates and times of the proleptic Gregorian calendar. A moment has microseconds
and, possibly, an offset from universal time; moments with an offset are
ordered by the instant they denote. The written form is the ISO one, with six
decimals only where the microseconds are not zero.
-/

namespace ClusterOps

/-- A calendar day. -/
structure Date where
  year : Nat
  month : Nat
  day : Nat
deriving DecidableEq, Repr, Inhabited

/-- A time of a calendar day; the offset from universal time is in seconds. -/
structure Moment where
  date : Date
  hour : Nat
  minute : Nat
  second : Nat
  micro : Nat
  offset : Option Int
deriving DecidableEq, Repr, Inhabited

namespace Date

/-- Whether February has 29 days. -/
def isLeap (year : Nat) : Bool := year % 4 == 0 && (year % 100 != 0 || year % 400 == 0)

/-- How many days a month has. -/
def daysIn (year month : Nat) : Nat :=
  if month == 2 then (if isLeap year then 29 else 28)
  else if month == 4 || month == 6 || month == 9 || month == 11 then 30 else 31

/-- Whether the parts name a day between the years 1 and 9999. -/
def isValid (d : Date) : Bool :=
  1 ≤ d.year && d.year ≤ 9999 && 1 ≤ d.month && d.month ≤ 12
    && 1 ≤ d.day && d.day ≤ daysIn d.year d.month

/-- Days from 1970-01-01. -/
def toDays (d : Date) : Int :=
  let y : Int := if d.month ≤ 2 then (d.year : Int) - 1 else d.year
  let era := y / 400
  let yoe := y - era * 400
  let mp : Int := ((d.month : Int) + 9) % 12
  let doy := (153 * mp + 2) / 5 + d.day - 1
  let doe := yoe * 365 + yoe / 4 - yoe / 100 + doy
  era * 146097 + doe - 719468

/-- The day that many days after 1970-01-01. -/
def ofDays (n : Int) : Date :=
  let z := n + 719468
  let era := z / 146097
  let doe := z - era * 146097
  let yoe := (doe - doe / 1460 + doe / 36524 - doe / 146096) / 365
  let doy := doe - (365 * yoe + yoe / 4 - yoe / 100)
  let mp := (5 * doy + 2) / 153
  let day := doy - (153 * mp + 2) / 5 + 1
  let month := if mp < 10 then mp + 3 else mp - 9
  let year := yoe + era * 400 + (if month ≤ 2 then 1 else 0)
  ⟨year.toNat, month.toNat, day.toNat⟩

/-- `2024-01-31`. -/
def iso (d : Date) : String :=
  Rounding.padDigits 4 d.year ++ "-" ++ Rounding.padDigits 2 d.month ++ "-"
    ++ Rounding.padDigits 2 d.day

end Date

namespace Moment

/-- Microseconds from 1970-01-01 at midnight, by the moment's own clock. -/
def localMicros (m : Moment) : Int :=
  (m.date.toDays * 86400 + m.hour * 3600 + m.minute * 60 + m.second) * 1000000 + m.micro

/-- Microseconds from the epoch; a moment without offset counts as universal time. -/
def micros (m : Moment) : Int := m.localMicros - m.offset.getD 0 * 1000000

/-- The moment in universal time that many microseconds after the epoch. -/
def ofMicros (n : Int) : Moment :=
  let days := n / 86400000000
  let rest := (n % 86400000000).toNat
  ⟨Date.ofDays days, rest / 3600000000, rest / 60000000 % 60, rest / 1000000 % 60,
    rest % 1000000, some 0⟩

/-- The moment in universal time that many seconds after the epoch, to the nearest microsecond. -/
def ofSeconds (t : Rat) : Moment := ofMicros (Rounding.ofRat (t * 1000000))

/-- The offset as `+hh:mm`, with seconds where there are some. -/
def isoOffset (seconds : Int) : String :=
  let n := seconds.natAbs
  (if seconds < 0 then "-" else "+") ++ Rounding.padDigits 2 (n / 3600) ++ ":"
    ++ Rounding.padDigits 2 (n / 60 % 60)
    ++ (if n % 60 = 0 then "" else ":" ++ Rounding.padDigits 2 (n % 60))

/-- The time of day, with six decimals where the microseconds are not zero. -/
def isoClock (m : Moment) : String :=
  Rounding.padDigits 2 m.hour ++ ":" ++ Rounding.padDigits 2 m.minute ++ ":"
    ++ Rounding.padDigits 2 m.second
    ++ (if m.micro = 0 then "" else "." ++ Rounding.padDigits 6 m.micro)

/-- Date and time with `between` between them. -/
def isoWith (between : String) (m : Moment) : String :=
  m.date.iso ++ between ++ m.isoClock ++ (m.offset.map isoOffset).getD ""

/-- `2024-01-31T23:59:59.000001+01:00`. -/
def iso (m : Moment) : String := m.isoWith "T"

/-- The form used in log lines, where universal time is written `Z`. -/
def isoZulu (m : Moment) : String :=
  if m.offset = some 0 then m.date.iso ++ "T" ++ m.isoClock ++ "Z" else m.iso

/-! ## Reading -/

/-- The value of a block of ASCII digits. -/
def number? (cs : List Char) : Option Nat :=
  if !cs.isEmpty && cs.all Char.isDigit then
    some (cs.foldl (fun n c => 10 * n + (c.toNat - 48)) 0)
  else none

/-- The first six decimals of a fraction, as microseconds. -/
def microsOf? (cs : List Char) : Option Nat :=
  if cs.isEmpty || !cs.all Char.isDigit then none
  else number? ((cs ++ List.replicate 6 '0').take 6)

/-- The seconds of an offset that has its sign taken off. -/
def offsetSeconds? (cs : List Char) : Option Nat :=
  match cs with
  | [a, b] => (number? [a, b]).map (· * 3600)
  | [a, b, c, d] | [a, b, ':', c, d] => do
    return (← number? [a, b]) * 3600 + (← number? [c, d]) * 60
  | [a, b, ':', c, d, ':', e, f] => do
    return (← number? [a, b]) * 3600 + (← number? [c, d]) * 60 + (← number? [e, f])
  | _ => none

/-- An offset from universal time, or none at the end of the text. -/
def offset? : List Char → Option (Option Int)
  | [] => some none
  | ['Z'] => some (some 0)
  | '+' :: cs => (offsetSeconds? cs).map fun n => some (n : Int)
  | '-' :: cs => (offsetSeconds? cs).map fun n => some (-(n : Int))
  | _ => none

/-- Seconds, a fraction of them, and what follows. -/
def seconds? : List Char → Option (Nat × Nat × List Char)
  | ':' :: a :: b :: '.' :: cs => do
    let s ← number? [a, b]
    let us ← microsOf? (cs.takeWhile Char.isDigit)
    return (s, us, cs.dropWhile Char.isDigit)
  | ':' :: a :: b :: cs => do return (← number? [a, b], 0, cs)
  | cs => some (0, 0, cs)

/-- Hour, minute, second and microsecond, and what follows. -/
def clock? : List Char → Option (Nat × Nat × Nat × Nat × List Char)
  | a :: b :: ':' :: c :: d :: cs => do
    let h ← number? [a, b]
    let mi ← number? [c, d]
    let (s, us, rest) ← seconds? cs
    return (h, mi, s, us, rest)
  | a :: b :: cs => do return (← number? [a, b], 0, 0, 0, cs)
  | _ => none

/-- The moment that an ISO text denotes. -/
def ofIso? (s : String) : Option Moment :=
  match s.toList with
  | a :: b :: c :: d :: '-' :: e :: f :: '-' :: g :: h :: rest => do
    let date : Date := ⟨← number? [a, b, c, d], ← number? [e, f], ← number? [g, h]⟩
    if !date.isValid then none
    else match rest with
      | [] => some ⟨date, 0, 0, 0, 0, none⟩
      | _ :: cs => do
        let (hour, minute, second, micro, tail) ← clock? cs
        let off ← offset? tail
        if hour < 24 && minute < 60 && second < 60 then
          some ⟨date, hour, minute, second, micro, off⟩
        else none
  | _ => none

example : (ofMicros 1717171717000000).isoZulu = "2024-05-31T16:08:37Z" := by decide +kernel

example : (ofIso? "2024-01-02T03:04:05.0006-08:00").map iso
    = some "2024-01-02T03:04:05.000600-08:00" := by decide +kernel

end Moment

end ClusterOps
