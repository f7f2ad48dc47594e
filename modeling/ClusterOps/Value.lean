import ClusterOps.Calendar
import ClusterOps.Number.Binary64
import ClusterOps.Text.Halves

/-
Data without a schema: what a document, a reply of the cloud or a structured log
field can hold before anything is known about it. A map keeps its entries in the
order in which its keys first came, and writing a key that is there already
keeps its place.

Two texts of a value are used in messages. `display` shows a text as it is;
`quoted` shows it between quotes, which is also how texts are shown inside lists
and maps.
-/

namespace ClusterOps

/-- Data without a schema. `halves` is a text in which halves of characters occur, which strict
readers of text refuse. -/
inductive Value where
  | null
  | bool (b : Bool)
  | int (n : Int)
  | float (x : Binary64)
  | text (s : String)
  | halves (h : Text.Halves)
  | bytes (bs : List Nat)
  | date (d : Date)
  | moment (m : Moment)
  | list (items : List Value)
  | map (entries : List (Value × Value))
  | set (members : List Value)
deriving Repr, Inhabited

namespace Value

/-! ## Equality -/

mutual

/-- Whether two values are the same data. -/
def isEqual : Value → Value → Bool
  | .null, .null => true
  | .bool a, .bool b => a == b
  | .int a, .int b => a == b
  | .float a, .float b => a == b
  | .text a, .text b => a == b
  | .halves a, .halves b => a == b
  | .bytes a, .bytes b => a == b
  | .date a, .date b => a == b
  | .moment a, .moment b => a == b
  | .list a, .list b => areEqual a b
  | .map a, .map b => areEqualEntries a b
  | .set a, .set b => areEqual a b
  | _, _ => false

/-- Whether two lists hold the same data. -/
def areEqual : List Value → List Value → Bool
  | [], [] => true
  | x :: xs, y :: ys => isEqual x y && areEqual xs ys
  | _, _ => false

/-- Whether two lists of entries hold the same data. -/
def areEqualEntries : List (Value × Value) → List (Value × Value) → Bool
  | [], [] => true
  | (k, v) :: xs, (l, w) :: ys => isEqual k l && isEqual v w && areEqualEntries xs ys
  | _, _ => false

end

mutual

/-- Values found equal are equal. -/
theorem eq_of_isEqual : ∀ {a b : Value}, isEqual a b = true → a = b
  | .null, b, h => by cases b <;> simp_all [isEqual]
  | .bool _, b, h => by cases b <;> simp_all [isEqual]
  | .int _, b, h => by cases b <;> simp_all [isEqual]
  | .float _, b, h => by cases b <;> simp_all [isEqual]
  | .text _, b, h => by cases b <;> simp_all [isEqual]
  | .halves _, b, h => by cases b <;> simp_all [isEqual]
  | .bytes _, b, h => by cases b <;> simp_all [isEqual]
  | .date _, b, h => by cases b <;> simp_all [isEqual]
  | .moment _, b, h => by cases b <;> simp_all [isEqual]
  | .list _, b, h => by
    cases b <;> simp only [isEqual, Bool.false_eq_true] at h
    exact congrArg _ (eq_of_areEqual h)
  | .map _, b, h => by
    cases b <;> simp only [isEqual, Bool.false_eq_true] at h
    exact congrArg _ (eq_of_areEqualEntries h)
  | .set _, b, h => by
    cases b <;> simp only [isEqual, Bool.false_eq_true] at h
    exact congrArg _ (eq_of_areEqual h)

/-- Lists found equal are equal. -/
theorem eq_of_areEqual : ∀ {a b : List Value}, areEqual a b = true → a = b
  | [], b, h => by cases b <;> simp_all [areEqual]
  | x :: xs, b, h => by
    cases b with
    | nil => simp [areEqual] at h
    | cons y ys =>
      simp only [areEqual, Bool.and_eq_true] at h
      rw [eq_of_isEqual h.1, eq_of_areEqual h.2]

/-- Lists of entries found equal are equal. -/
theorem eq_of_areEqualEntries : ∀ {a b : List (Value × Value)}, areEqualEntries a b = true → a = b
  | [], b, h => by cases b <;> simp_all [areEqualEntries]
  | (k, v) :: xs, b, h => by
    cases b with
    | nil => simp [areEqualEntries] at h
    | cons y ys =>
      simp only [areEqualEntries, Bool.and_eq_true] at h
      rw [eq_of_isEqual h.1.1, eq_of_isEqual h.1.2, eq_of_areEqualEntries h.2]

end

mutual

/-- A value is found equal to itself. -/
theorem isEqual_self : ∀ a : Value, isEqual a a = true
  | .null => rfl
  | .bool _ | .int _ | .float _ | .text _ | .halves _ | .bytes _ | .date _ | .moment _ => by
    simp [isEqual]
  | .list a => by simp [isEqual, areEqual_self a]
  | .map a => by simp [isEqual, areEqualEntries_self a]
  | .set a => by simp [isEqual, areEqual_self a]

/-- A list is found equal to itself. -/
theorem areEqual_self : ∀ a : List Value, areEqual a a = true
  | [] => rfl
  | x :: xs => by simp [areEqual, isEqual_self x, areEqual_self xs]

/-- A list of entries is found equal to itself. -/
theorem areEqualEntries_self : ∀ a : List (Value × Value), areEqualEntries a a = true
  | [] => rfl
  | (k, v) :: xs => by
    simp [areEqualEntries, isEqual_self k, isEqual_self v, areEqualEntries_self xs]

end

/-- Equality of values is decided by comparing them. -/
instance : DecidableEq Value := fun a b =>
  decidable_of_iff (isEqual a b = true) ⟨eq_of_isEqual, fun h => h ▸ isEqual_self a⟩

/-! ## Making values -/

/-- A map from a list of named fields. -/
def object (fields : List (String × Value)) : Value := .map (fields.map fun (k, v) => (.text k, v))

/-- A list of texts. -/
def texts (names : List String) : Value := .list (names.map .text)

/-- A text of one code. -/
def ofCode (n : Nat) : Value :=
  match Text.Halves.ofCodes? [n] with
  | some h => .halves h
  | none => .text (String.singleton (Char.ofNat n))

/-- A text, or null. -/
def ofText? (s : Option String) : Value := s.elim .null .text

/-! ## Numbers and keys -/

/-- The exact number that a value stands for; a truth value counts as zero or one. -/
def number? : Value → Option Rat
  | .bool b => some (if b then 1 else 0)
  | .int n => some n
  | .float x => x.toRat?
  | _ => none

/-- Whether two scalars are equal as keys: numbers by value, whatever their kind. -/
def sameScalar : Value → Value → Bool
  | .text s, .text t => s == t
  | .text _, _ => false
  | _, .text _ => false
  | a, b =>
    match a.number?, b.number? with
    | some p, some q => p == q
    | none, none => a == b
    | _, _ => false

mutual

/-- Equality that compares numbers by value. -/
def same : Value → Value → Bool
  | .list xs, .list ys => sameItems xs ys
  | .map xs, .map ys => xs.length == ys.length && sameEntries xs ys
  | a, b => sameScalar a b

/-- `same` on the items of two lists. -/
def sameItems : List Value → List Value → Bool
  | [], [] => true
  | x :: xs, y :: ys => same x y && sameItems xs ys
  | _, _ => false

/-- Whether every entry of the first map is in the second one. -/
def sameEntries : List (Value × Value) → List (Value × Value) → Bool
  | [], _ => true
  | (k, v) :: rest, ys =>
    (ys.any fun (k', v') => sameScalar k k' && same v v') && sameEntries rest ys

end

/-- Writes an entry; a key that is there keeps its place and its spelling. -/
def put (entries : List (Value × Value)) (key value : Value) : List (Value × Value) :=
  match entries with
  | [] => [(key, value)]
  | (k, v) :: rest =>
    if sameScalar k key then (k, value) :: rest else (k, v) :: put rest key value

/-- The value of a key in a list of entries. -/
def find? (entries : List (Value × Value)) (key : String) : Option Value :=
  match entries with
  | [] => none
  | (.text k, v) :: rest => if k == key then some v else find? rest key
  | _ :: rest => find? rest key

/-- The value of a field of a map. -/
def get? (v : Value) (key : String) : Option Value :=
  match v with
  | .map entries => find? entries key
  | _ => none

/-- The entries of a map; anything else has none. -/
def entries : Value → List (Value × Value)
  | .map es => es
  | _ => []

/-- The items of a list; anything else has none. -/
def items : Value → List Value
  | .list vs => vs
  | _ => []

/-- The text, if the value is one. -/
def text? : Value → Option String
  | .text s => some s
  | _ => none

/-- Whether the value is the null. -/
def isNull : Value → Bool
  | .null => true
  | _ => false

/-- Whether the value counts as true: not null, not false, not zero, not empty. -/
def isTruthy : Value → Bool
  | .null => false
  | .bool b => b
  | .int n => n != 0
  | .float x => !x.isZero
  | .text s => !s.isEmpty
  | .halves _ => true
  | .bytes bs => !bs.isEmpty
  | .date _ | .moment _ => true
  | .list vs | .set vs => !vs.isEmpty
  | .map es => !es.isEmpty

/-- Whether the value can be a key: lists, maps and sets cannot. -/
def isKey : Value → Bool
  | .list _ | .map _ | .set _ => false
  | _ => true

/-! ## Texts of a value -/

/-- The name of a kind of data, as complaints give it. -/
def kindName : Value → String
  | .null => "NoneType"
  | .bool _ => "bool"
  | .int _ => "int"
  | .float _ => "float"
  | .text _ | .halves _ => "str"
  | .bytes _ => "bytes"
  | .date _ => "datetime.date"
  | .moment _ => "datetime.datetime"
  | .list _ => "list"
  | .map _ => "dict"
  | .set _ => "set"

/-- One byte between quotes. -/
def quoteByte (quote : Char) (b : Nat) : List Char :=
  if b == quote.toNat || b == 0x5C then ['\\', Char.ofNat b]
  else if b == 0x0A then ['\\', 'n']
  else if b == 0x0D then ['\\', 'r']
  else if b == 0x09 then ['\\', 't']
  else if 0x20 ≤ b && b < 0x7F then [Char.ofNat b]
  else '\\' :: 'x' :: Text.hexDigits 2 b

/-- Bytes between quotes, with a `b` in front. -/
def quotedBytes (bs : List Nat) : String :=
  let q := if bs.contains 0x27 && !bs.contains 0x22 then '"' else '\''
  String.ofList ('b' :: q :: (bs.flatMap (quoteByte q) ++ [q]))

/-- A span of seconds, as shown inside a list. -/
def quotedSpan (seconds : Int) : String :=
  let days := seconds / 86400
  let rest := seconds % 86400
  let parts := (if days = 0 then [] else ["days=" ++ toString days])
    ++ (if rest = 0 then [] else ["seconds=" ++ toString rest])
  "datetime.timedelta(" ++ (if parts.isEmpty then "0" else ", ".intercalate parts) ++ ")"

/-- An offset from universal time, as shown inside a list. -/
def quotedOffset (seconds : Int) : String :=
  if seconds = 0 then "datetime.timezone.utc" else "datetime.timezone(" ++ quotedSpan seconds ++ ")"

/-- A moment, as shown inside a list. -/
def quotedMoment (m : Moment) : String :=
  let clock := [m.hour, m.minute]
    ++ (if m.second = 0 && m.micro = 0 then [] else [m.second])
    ++ (if m.micro = 0 then [] else [m.micro])
  let parts := ([m.date.year, m.date.month, m.date.day] ++ clock).map toString
    ++ (match m.offset with
        | none => []
        | some off => ["tzinfo=" ++ quotedOffset off])
  "datetime.datetime(" ++ ", ".intercalate parts ++ ")"

/-- A day, as shown inside a list. -/
def quotedDate (d : Date) : String :=
  "datetime.date(" ++ ", ".intercalate ([d.year, d.month, d.day].map toString) ++ ")"

mutual

/-- The value with texts between quotes. -/
def quoted : Value → String
  | .null => "None"
  | .bool b => if b then "True" else "False"
  | .int n => toString n
  | .float x => x.shortest
  | .text s => Text.quoted s
  | .halves h => h.quoted
  | .bytes bs => quotedBytes bs
  | .date d => quotedDate d
  | .moment m => quotedMoment m
  | .list vs => "[" ++ ", ".intercalate (quotedItems vs) ++ "]"
  | .map es => "\x7b" ++ ", ".intercalate (quotedEntries es) ++ "\x7d"
  | .set [] => "set()"
  | .set vs => "\x7b" ++ ", ".intercalate (quotedItems vs) ++ "\x7d"

/-- `quoted` on the items of a list. -/
def quotedItems : List Value → List String
  | [] => []
  | v :: vs => quoted v :: quotedItems vs

/-- `quoted` on the entries of a map. -/
def quotedEntries : List (Value × Value) → List String
  | [] => []
  | (k, v) :: rest => (quoted k ++ ": " ++ quoted v) :: quotedEntries rest

end

/-- The value as shown on its own. -/
def display : Value → String
  | .text s => s
  | .halves h => h.text
  | .date d => d.iso
  | .moment m => m.isoWith " "
  | v => quoted v

/-! ## Texts as keys -/

/-- Only a text is the same key as a text. -/
theorem sameScalar_text_iff {a : Value} {k : String} :
    sameScalar a (.text k) = true ↔ a = .text k := by
  cases a <;> simp [sameScalar]

/-- Only a text is the same as a text. -/
theorem same_text_iff {a : Value} {k : String} : same a (.text k) = true ↔ a = .text k := by
  cases a <;> simp [same, sameScalar]

example : (Value.list [.text "a'", .null, .float (.ofInt 2)]).quoted = "[\"a'\", None, 2.0]" := by
  decide +kernel

end Value

end ClusterOps
