import ClusterOps.Number.Significant
import ClusterOps.Value

/-
Message templates: text with places marked by a percent sign, into which the
arguments go one by one, or by name where there is a single map of them. A place
may give flags, a width and a precision, each of which an argument can give as
well; the last letter says how the argument is shown. A template is filled from
left to right, and the first mismatch counts.
-/

namespace ClusterOps

namespace Template

/-- Why arguments do not fit a template: the form of the template is wrong, an argument is missing
or left over, is not of the kind that its place shows, or is out of range. -/
inductive Mismatch where
  | incomplete
  | incompleteKey
  | tooBig (part : String)
  | unsupported (letter : Char) (index : Nat)
  | notWhole
  | mistyped (message : String)
  | missingKey (key : String)
  | outOfRange (message : String)
deriving DecidableEq, Repr, Inhabited

/-- The wording of a mismatch. -/
def Mismatch.message : Mismatch → String
  | .incomplete => "incomplete format"
  | .incompleteKey => "incomplete format key"
  | .tooBig part => part ++ " too big"
  | .unsupported c i =>
    "unsupported format character '"
      ++ (if 31 ≤ c.toNat && c.toNat ≤ 126 then c.toString else "?")
      ++ "' (0x" ++ String.ofList (Nat.toDigits 16 c.toNat) ++ ") at index " ++ toString i
  | .notWhole => "cannot convert float NaN to integer"
  | .mistyped m => m
  | .missingKey k => Text.quoted k
  | .outOfRange m => m

/-! ## Reading a place -/

/-- What follows in a template, and the arguments that are left. -/
structure Cursor where
  rest : List Char
  args : List Value
deriving Repr, Inhabited

/-- How an argument is shown. -/
structure Place where
  left : Bool
  zero : Bool
  plus : Bool
  space : Bool
  alternate : Bool
  width : Nat
  precision : Option Nat
  letter : Char
deriving Repr, Inhabited

/-- The next argument. -/
def Cursor.next (c : Cursor) : Except Mismatch (Value × Cursor) :=
  match c.args with
  | [] => .error (.mistyped "not enough arguments for format string")
  | v :: vs => .ok (v, { c with args := vs })

/-- A key up to its closing parenthesis, parentheses inside it being balanced; `depth` counts those
that are open. -/
def keyFrom (done : List Char) : Nat → List Char → Option (List Char × List Char)
  | _, [] => none
  | depth, '(' :: cs => keyFrom ('(' :: done) (depth + 1) cs
  | 0, ')' :: cs => some (done.reverse, cs)
  | depth + 1, ')' :: cs => keyFrom (')' :: done) depth cs
  | depth, c :: cs => keyFrom (c :: done) depth cs

/-- Takes the key of a place: its value is then the only argument. -/
def Cursor.key (named : Option (List (Value × Value))) (c : Cursor) : Except Mismatch Cursor :=
  match c.rest, named with
  | '(' :: _, none => .error (.mistyped "format requires a mapping")
  | '(' :: cs, some entries =>
    match keyFrom [] 0 cs with
    | none => .error .incompleteKey
    | some (k, rest) =>
      match Value.find? entries (String.ofList k) with
      | some v => .ok ⟨rest, [v]⟩
      | none => .error (.missingKey (String.ofList k))
  | _, _ => .ok c

/-- The parts of a place that are numbers: their names and their limits. -/
structure Measure where
  name : String
  limit : Nat

/-- The width of a place. -/
def widthMeasure : Measure := ⟨"width", Nat.pow 2 63 - 1⟩

/-- The precision of a place. -/
def precisionMeasure : Measure := ⟨"precision", Nat.pow 2 31 - 1⟩

/-- Takes a number: an argument where there is a star, else the digits. -/
def Cursor.measure (m : Measure) (c : Cursor) : Except Mismatch (Option Int × Cursor) :=
  match c.rest with
  | '*' :: cs => do
    let (v, c) ← Cursor.next { c with rest := cs }
    match v with
    | .int n =>
      if m.limit < n.natAbs then .error (.tooBig m.name) else return (some n, c)
    | .bool b => return (some (if b then 1 else 0), c)
    | _ => .error (.mistyped "* wants int")
  | cs =>
    let ds := cs.takeWhile Char.isDigit
    let n := ds.foldl (fun n d => 10 * n + (d.toNat - 48)) 0
    if ds.isEmpty then .ok (none, c)
    else if m.limit < n then .error (.tooBig m.name)
    else .ok (some (n : Int), { c with rest := cs.dropWhile Char.isDigit })

/-- Takes the precision, if there is a point. -/
def Cursor.precision (c : Cursor) : Except Mismatch (Option Nat × Cursor) :=
  match c.rest with
  | '.' :: cs => do
    let (n, c) ← Cursor.measure precisionMeasure { c with rest := cs }
    return (some (n.getD 0).toNat, c)
  | _ => .ok (none, c)

/-- Takes a place behind its percent sign. -/
def Cursor.place (named : Option (List (Value × Value))) (c : Cursor) :
    Except Mismatch (Place × Cursor) := do
  let isFlag (x : Char) : Bool := x == '-' || x == '0' || x == '+' || x == ' ' || x == '#'
  let c ← c.key named
  let flags := c.rest.takeWhile isFlag
  let (width, c) ← Cursor.measure widthMeasure { c with rest := c.rest.dropWhile isFlag }
  let width := width.getD 0
  let (precision, c) ← c.precision
  let rest := match c.rest with
    | 'h' :: cs | 'l' :: cs | 'L' :: cs => cs
    | cs => cs
  match rest with
  | [] => .error .incomplete
  | letter :: rest =>
    return (⟨flags.contains '-' || width < 0, flags.contains '0', flags.contains '+',
      flags.contains ' ', flags.contains '#', width.natAbs, precision, letter⟩,
      { c with rest := rest })

/-! ## Filling -/

/-- Text widened to the width of its place. -/
def widen (p : Place) (s : List Char) : List Char :=
  let gap := List.replicate (p.width - s.length) ' '
  if p.left then s ++ gap else gap ++ s

/-- Text cut to the precision of its place and widened. -/
def shownText (p : Place) (s : List Char) : List Char := widen p ((p.precision.elim s s.take))

/-- A number with its sign, zeros filling the width where asked for. -/
def signed (p : Place) (negative : Bool) (lead digits : List Char) : List Char :=
  let sign := if negative then ['-'] else if p.plus then ['+'] else if p.space then [' '] else []
  let front := sign ++ lead
  if p.zero && !p.left then
    front ++ List.replicate (p.width - front.length - digits.length) '0' ++ digits
  else widen p (front ++ digits)

/-- A whole number with at least as many digits as the precision says. -/
def shownWhole (p : Place) (n : Int) (lead digits : List Char) : List Char :=
  signed p (n < 0) lead (List.replicate ((p.precision.getD 0) - digits.length) '0' ++ digits)

/-- Where an argument of another kind is needed. -/
def wrongKind {α : Type} (p : Place) (needed : String) (v : Value) : Except Mismatch α :=
  .error (.mistyped ("%" ++ p.letter.toString ++ " format: " ++ needed ++ " is required, not "
    ++ v.kindName))

/-- The whole number in an argument, fractions being cut. -/
def truncated (p : Place) : Value → Except Mismatch Int
  | .int n => .ok n
  | .bool b => .ok (if b then 1 else 0)
  | .float x =>
    match x with
    | .nan => .error .notWhole
    | .infinite _ => .error (.outOfRange "cannot convert float infinity to integer")
    | x => .ok (if x.toRat < 0 then -(-x.toRat).floor else x.toRat.floor)
  | v => wrongKind p "a real number" v

/-- The whole number that an argument is. -/
def whole (p : Place) : Value → Except Mismatch Int
  | .int n => .ok n
  | .bool b => .ok (if b then 1 else 0)
  | v => wrongKind p "an integer" v

/-- The double that an argument is. -/
def double : Value → Except Mismatch Binary64
  | .float x => .ok x
  | .bool b => .ok (.ofInt (if b then 1 else 0))
  | .int n =>
    match Binary64.ofInt n with
    | .infinite _ => .error (.outOfRange "int too large to convert to float")
    | x => .ok x
  | v => .error (.mistyped ("must be real number, not " ++ v.kindName))

/-- Whether a double has a minus sign. -/
def hasSign : Binary64 → Bool
  | .finite negative _ _ | .infinite negative => negative
  | .nan => false

/-- A double in one of its forms. -/
def shownDouble (p : Place) (x : Binary64) : List Char :=
  let count := p.precision.getD 6
  let positional (q : Rat) : List Char :=
    let s := (Rounding.fixed count q).toList
    if p.alternate && count == 0 then s ++ ['.'] else s
  let form := match p.letter.toLower with
    | 'e' => Binary64.scientificOf count p.alternate
    | 'g' => Binary64.generalOf count p.alternate
    | _ => positional
  let s := Binary64.magnitude form x
  signed p (hasSign x) [] (if p.letter.isUpper then s.map Char.toUpper else s)

/-- ASCII text, everything else being escaped. -/
def asciiOnly (s : String) : List Char :=
  s.toList.flatMap fun c =>
    if c.toNat < 0x80 then [c]
    else if c.toNat < 0x100 then '\\' :: 'x' :: Text.hexDigits 2 c.toNat
    else if c.toNat < 0x10000 then '\\' :: 'u' :: Text.hexDigits 4 c.toNat
    else '\\' :: 'U' :: Text.hexDigits 8 c.toNat

/-- A single character, or the one with a number. -/
def character : Value → Except Mismatch Char
  | .text s =>
    match s.toList with
    | [c] => .ok c
    | _ => .error (.mistyped "%c requires int or char")
  | .bool b => .ok (Char.ofNat (if b then 1 else 0))
  | .int n =>
    if n < 0 || 0x110000 ≤ n then .error (.outOfRange "%c arg not in range(0x110000)")
    else .ok (Char.ofNat n.toNat)
  | _ => .error (.mistyped "%c requires int or char")

/-- The argument as its place shows it; `index` is where the letter stands. -/
def fill (p : Place) (index : Nat) (v : Value) : Except Mismatch (List Char) :=
  let based (base : Nat) (lead : List Char) : Except Mismatch (List Char) := do
    let n ← whole p v
    let ds := Nat.toDigits base n.natAbs
    return shownWhole p n (if p.alternate then lead else [])
      (if p.letter.isUpper then ds.map Char.toUpper else ds)
  match p.letter with
  | 's' => .ok (shownText p v.display.toList)
  | 'r' => .ok (shownText p v.quoted.toList)
  | 'a' => .ok (shownText p (asciiOnly v.quoted))
  | 'x' => based 16 ['0', 'x']
  | 'X' => based 16 ['0', 'X']
  | 'o' => based 8 ['0', 'o']
  | 'c' => (character v).map fun c => widen p [c]
  | 'd' | 'i' | 'u' => (truncated p v).map fun n => shownWhole p n [] (toString n.natAbs).toList
  | 'e' | 'E' | 'f' | 'F' | 'g' | 'G' => (double v).map (shownDouble p)
  | letter => .error (.unsupported letter index)

/-- Fills a template; `size` is the length of all of it, and the first number bounds the places
that are still to come. -/
def fillAll (named : Option (List (Value × Value))) (size : Nat) :
    Nat → Cursor → Except Mismatch (List Char)
  | 0, _ => .ok []
  | fuel + 1, c =>
    match c.rest with
    | [] =>
      if c.args.isEmpty || named.isSome then .ok []
      else .error (.mistyped "not all arguments converted during string formatting")
    | '%' :: '%' :: rest => (fillAll named size fuel { c with rest := rest }).map ('%' :: ·)
    | '%' :: rest => do
      let (p, c) ← Cursor.place named { c with rest := rest }
      let index := size - c.rest.length - 1
      let (v, c) ← c.next
      return (← fill p index v) ++ (← fillAll named size fuel c)
    | x :: rest => (fillAll named size fuel { c with rest := rest }).map (x :: ·)

end Template

open Template in
/-- A template with its arguments. Without arguments it is taken as it stands. -/
def renderTemplate (template : String) (args : List Value) : Except Mismatch String :=
  if args.isEmpty then .ok template
  else do
    let cs := template.toList
    let named := match args with
      | [.map (e :: es)] => some (e :: es)
      | _ => none
    return String.ofList (← fillAll named cs.length (cs.length + 1) ⟨cs, args⟩)

example : (renderTemplate "%s: %5.1f%%" [.text "a", .int 2]).toOption = some "a:   2.0%" := by
  decide +kernel

end ClusterOps
