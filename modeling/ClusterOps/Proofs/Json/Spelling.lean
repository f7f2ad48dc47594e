import ClusterOps.Text.IntLiteral
import ClusterOps.Value.Json
import ClusterOps.Yaml.Cursor

/-
JSON texts as they are spelled. A spelling is the tree of a text by the grammar of
JSON; it keeps what the value does not, the blanks, the escapes and the digits
(`Spelling.chars`, `Spelling.value`).

Not every spelling means the same in YAML. The ones that do are common to both: they
have no tab between their words; a key and its colon stand on one line and not too
far from each other; their texts hold only characters that a document may hold and
that end no line, and escape none of them by halves; and their numbers have a sign in
the exponent and a point in front of it, or are whole and not too long.
-/

namespace ClusterOps.Value.Json

/-! ## Blanks -/

/-- What may stand between the words of a text. -/
inductive Blank where
  | space
  | tab
  | lineFeed
  | carriageReturn
deriving DecidableEq, Repr

namespace Blank

/-- The character of a blank. -/
def char : Blank → Char
  | .space => ' '
  | .tab => '\t'
  | .lineFeed => '\n'
  | .carriageReturn => '\r'

/-- The characters of some blanks. -/
def chars (bs : List Blank) : List Char := bs.map char

/-- The characters of some blanks where every line end is written as a line feed. -/
def unified : List Blank → List Char
  | [] => []
  | .carriageReturn :: .lineFeed :: bs => '\n' :: unified bs
  | .carriageReturn :: bs => '\n' :: unified bs
  | b :: bs => b.char :: unified bs

/-- Whether there is no tab among some blanks. -/
def areCommon (bs : List Blank) : Bool := bs.all (· != .tab)

end Blank

/-! ## Texts -/

/-- The escapes of one letter. -/
inductive Escape where
  | quote
  | backslash
  | slash
  | backspace
  | formFeed
  | lineFeed
  | carriageReturn
  | tab
deriving DecidableEq, Repr

namespace Escape

/-- The letter of an escape. -/
def letter : Escape → Char
  | .quote => '"'
  | .backslash => '\\'
  | .slash => '/'
  | .backspace => 'b'
  | .formFeed => 'f'
  | .lineFeed => 'n'
  | .carriageReturn => 'r'
  | .tab => 't'

/-- The character that is escaped. -/
def char : Escape → Char
  | .quote => '"'
  | .backslash => '\\'
  | .slash => '/'
  | .backspace => '\x08'
  | .formFeed => '\x0c'
  | .lineFeed => '\n'
  | .carriageReturn => '\r'
  | .tab => '\t'

end Escape

/-- A hexadecimal digit. -/
structure Hex where
  digit : Char
  isHex : (hexValue? digit).isSome = true

/-- The value of a hexadecimal digit. -/
def Hex.value (h : Hex) : Nat := (hexValue? h.digit).get h.isHex

/-- Whether a character may stand between quotes as it is. -/
def isPlain (c : Char) : Bool := 0x20 ≤ c.toNat && c != '"' && c != '\\'

/-- A code of sixteen bits, by its digits. -/
structure Code where
  a : Hex
  b : Hex
  c : Hex
  d : Hex

namespace Code

/-- The characters of a code. -/
def chars (n : Code) : List Char := ['\\', 'u', n.a.digit, n.b.digit, n.c.digit, n.d.digit]

/-- The value of a code. -/
def value (n : Code) : Nat :=
  ((n.a.value * 16 + n.b.value) * 16 + n.c.value) * 16 + n.d.value

/-- Whether a code is the first half of a character. -/
def isHigh (n : Code) : Bool := 0xD800 ≤ n.value && n.value ≤ 0xDBFF

/-- Whether a code is the second half of a character. -/
def isLow (n : Code) : Bool := 0xDC00 ≤ n.value && n.value ≤ 0xDFFF

end Code

/-- A part of a text, which stands for one character: the character as it is, a letter or a code
that stands for it, or the codes of its two halves. -/
inductive Piece where
  | plain (c : Char) (h : isPlain c = true)
  | escaped (e : Escape)
  | code (n : Code) (h : (n.isHigh || n.isLow) = false)
  | pair (high low : Code) (h : (high.isHigh && low.isLow) = true)

namespace Piece

/-- The characters of a piece. -/
def chars : Piece → List Char
  | .plain c _ => [c]
  | .escaped e => ['\\', e.letter]
  | .code n _ => n.chars
  | .pair high low _ => high.chars ++ low.chars

/-- The character that a piece stands for. -/
def char : Piece → Char
  | .plain c _ => c
  | .escaped e => e.char
  | .code n _ => Char.ofNat n.value
  | .pair high low _ =>
    Char.ofNat (0x10000 + (high.value - 0xD800) * 0x400 + (low.value - 0xDC00))

/-- Whether a piece is common: a document may hold its character and it ends no line, or it is
escaped in one. -/
def isCommon : Piece → Bool
  | .plain c _ => Yaml.isAllowed c && !Yaml.isBreak c
  | .escaped _ | .code _ _ => true
  | .pair _ _ _ => false

/-- Some pieces between quotes. -/
def quoted (ps : List Piece) : List Char := '"' :: (ps.flatMap chars ++ ['"'])

/-- The text that some pieces stand for. -/
def text (ps : List Piece) : String := String.ofList (ps.map char)

end Piece

/-! ## Numbers -/

/-- An exponent; its sign may be left out, and a minus is `true`. -/
structure Exponent where
  capital : Bool
  sign : Option Bool
  digits : List Char
  given : digits ≠ []
  areDigits : ∀ c ∈ digits, c.isDigit = true

namespace Exponent

/-- The characters of a sign. -/
def signChars : Option Bool → List Char
  | none => []
  | some minus => [if minus then '-' else '+']

/-- The characters of an exponent. -/
def chars (e : Exponent) : List Char :=
  (if e.capital then 'E' else 'e') :: (signChars e.sign ++ e.digits)

/-- The number that an exponent stands for. -/
def value (e : Exponent) : Int :=
  if e.sign = some true then -(digitsValue e.digits : Int) else digitsValue e.digits

end Exponent

/-- A number; its decimals are empty if it has no point. -/
structure Numeral where
  negative : Bool
  whole : List Char
  decimals : List Char
  exponent : Option Exponent
  given : whole ≠ []
  areDigits : ∀ c ∈ whole ++ decimals, c.isDigit = true
  unpadded : whole.head? = some '0' → whole = ['0']

namespace Numeral

/-- The decimals of a number with the point in front. -/
def fraction (n : Numeral) : List Char := if n.decimals = [] then [] else '.' :: n.decimals

/-- The digits, the fraction and the exponent of a number. -/
def unsigned (n : Numeral) : List Char :=
  n.whole ++ (n.fraction ++ n.exponent.elim [] Exponent.chars)

/-- The characters of a number. -/
def chars (n : Numeral) : List Char := (if n.negative then ['-'] else []) ++ n.unsigned

/-- Whether a number has neither decimals nor an exponent. -/
def isWhole (n : Numeral) : Bool := n.decimals.isEmpty && n.exponent.isNone

/-- The digits of a number, put together. -/
def digits (n : Numeral) : Nat := digitsValue (n.whole ++ n.decimals)

/-- The power of ten by which the digits of a number count. -/
def power (n : Numeral) : Int := n.exponent.elim 0 Exponent.value - n.decimals.length

/-- The value of a number. -/
def value (n : Numeral) : Value :=
  if n.isWhole then .int (if n.negative then -(digitsValue n.whole : Int) else digitsValue n.whole)
  else .float (.ofDecimal n.negative n.digits n.power)

/-- Whether a number is common: whole and not too long, or with a point and, if it has an exponent,
a sign in it. -/
def isCommon (n : Numeral) : Bool :=
  if n.decimals.isEmpty then n.exponent.isNone && n.whole.length ≤ Text.maxDigits
  else n.exponent.all fun e => e.sign.isSome

end Numeral

/-! ## Values -/

/-- A key with the blanks in front of it and those up to its colon. -/
structure Label where
  before : List Blank
  key : List Piece
  gap : List Blank

/-- How far a key may reach up to its colon. -/
def maxReach : Nat := 1024

namespace Label

/-- The characters of a key up to its colon, where blanks are written in some way. -/
def chars (write : List Blank → List Char) (l : Label) : List Char :=
  write l.before ++ (Piece.quoted l.key ++ (write l.gap ++ [':']))

/-- Whether a key is common: it stands on one line with its colon, within reach of it. -/
def isCommon (l : Label) : Bool :=
  Blank.areCommon l.before && l.key.all Piece.isCommon && l.gap.all (· == .space)
    && (Piece.quoted l.key).length + l.gap.length ≤ maxReach

end Label

mutual

/-- A value as it is spelled. -/
inductive Spelling where
  | null
  | bool (b : Bool)
  | number (n : Numeral)
  | text (ps : List Piece)
  | emptyList (inside : List Blank)
  | list (items : Items)
  | emptyMap (inside : List Blank)
  | map (members : Members)

/-- The items of a list as they are spelled, up to its end. -/
inductive Items where
  | last (before : List Blank) (v : Spelling) (after : List Blank)
  | more (before : List Blank) (v : Spelling) (after : List Blank) (rest : Items)

/-- The members of a map as they are spelled, up to its end. -/
inductive Members where
  | last (l : Label) (before : List Blank) (v : Spelling) (after : List Blank)
  | more (l : Label) (before : List Blank) (v : Spelling) (after : List Blank) (rest : Members)

end

/-- Whether the value is a map. -/
def Spelling.isMap : Spelling → Bool
  | .emptyMap _ | .map _ => true
  | _ => false

section

variable (write : List Blank → List Char)

mutual

/-- The characters of a value, where blanks are written in some way. -/
def Spelling.chars : Spelling → List Char
  | .null => "null".toList
  | .bool b => if b then "true".toList else "false".toList
  | .number n => n.chars
  | .text ps => Piece.quoted ps
  | .emptyList inside => '[' :: (write inside ++ [']'])
  | .list items => '[' :: items.chars
  | .emptyMap inside => '\x7b' :: (write inside ++ ['\x7d'])
  | .map members => '\x7b' :: members.chars

/-- The characters of items, with the bracket behind them. -/
def Items.chars : Items → List Char
  | .last before v after => write before ++ (v.chars ++ (write after ++ [']']))
  | .more before v after rest => write before ++ (v.chars ++ (write after ++ ',' :: rest.chars))

/-- The characters of members, with the bracket behind them. -/
def Members.chars : Members → List Char
  | .last l before v after =>
    l.chars write ++ (write before ++ (v.chars ++ (write after ++ ['\x7d'])))
  | .more l before v after rest =>
    l.chars write ++ (write before ++ (v.chars ++ (write after ++ ',' :: rest.chars)))

end

end

/-- Writes entries into a map, one after the other. -/
def written (done entries : List (Value × Value)) : List (Value × Value) :=
  entries.foldl (fun es (k, v) => put es k v) done

mutual

/-- The value that is spelled. -/
def Spelling.value : Spelling → Value
  | .null => .null
  | .bool b => .bool b
  | .number n => n.value
  | .text ps => .text (Piece.text ps)
  | .emptyList _ => .list []
  | .list items => .list items.values
  | .emptyMap _ => .map []
  | .map members => .map (written [] members.entries)

/-- The values of items. -/
def Items.values : Items → List Value
  | .last _ v _ => [v.value]
  | .more _ v _ rest => v.value :: rest.values

/-- The entries of members. -/
def Members.entries : Members → List (Value × Value)
  | .last l _ v _ => [(.text (Piece.text l.key), v.value)]
  | .more l _ v _ rest => (.text (Piece.text l.key), v.value) :: rest.entries

end

mutual

/-- Whether all parts of a value are common. -/
def Spelling.isCommon : Spelling → Bool
  | .null | .bool _ => true
  | .number n => n.isCommon
  | .text ps => ps.all Piece.isCommon
  | .emptyList inside | .emptyMap inside => Blank.areCommon inside
  | .list items => items.areCommon
  | .map members => members.areCommon

/-- Whether all parts of items are common. -/
def Items.areCommon : Items → Bool
  | .last before v after => Blank.areCommon before && v.isCommon && Blank.areCommon after
  | .more before v after rest =>
    Blank.areCommon before && v.isCommon && Blank.areCommon after && rest.areCommon

/-- Whether all parts of members are common. -/
def Members.areCommon : Members → Bool
  | .last l before v after =>
    l.isCommon && Blank.areCommon before && v.isCommon && Blank.areCommon after
  | .more l before v after rest =>
    l.isCommon && Blank.areCommon before && v.isCommon && Blank.areCommon after && rest.areCommon

end

/-! ## Documents -/

/-- A value alone, with the blanks around it. -/
structure Document where
  before : List Blank
  content : Spelling
  after : List Blank

namespace Document

/-- The characters of a document, where blanks are written in some way. -/
def chars (write : List Blank → List Char) (d : Document) : List Char :=
  write d.before ++ (d.content.chars write ++ write d.after)

/-- The text of a document. -/
def text (d : Document) : String := String.ofList (d.chars Blank.chars)

/-- Whether all parts of a document are common. -/
def isCommon (d : Document) : Bool :=
  Blank.areCommon d.before && d.content.isCommon && Blank.areCommon d.after

end Document

end ClusterOps.Value.Json
