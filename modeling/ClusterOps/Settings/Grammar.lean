import ClusterOps.Text.Digit

/-
The forms of region and cluster names. A line feed at the very end is let
through by both, and the number of a region may be written in the digits of any
script.
-/

namespace ClusterOps.Settings

/-- A lower case letter from a to z. -/
def isSmall (c : Char) : Bool := 'a' ≤ c && c ≤ 'z'

/-- Whether this is the end of a name. -/
def isEnd (cs : List Char) : Bool := cs.isEmpty || cs == ['\n']

/-- One or more digits up to the end. -/
def isNumber (cs : List Char) : Bool :=
  (cs.head?.any Text.isDecimalDigit) && isEnd (cs.dropWhile Text.isDecimalDigit)

/-- `-` letters `-` digits, up to the end. -/
def isPlace : List Char → Bool
  | '-' :: cs =>
    cs.head?.any isSmall
      && match cs.dropWhile isSmall with
        | '-' :: ds => isNumber ds
        | _ => false
  | _ => false

/-- Two letters, an optional `-gov`, and a place. -/
def isRegion (s : String) : Bool :=
  match s.toList with
  | a :: b :: rest =>
    isSmall a && isSmall b
      && (isPlace rest
        || match rest with
          | '-' :: 'g' :: 'o' :: 'v' :: rest => isPlace rest
          | _ => false)
  | _ => false

/-- A letter or digit of ASCII. -/
def isNameStart (c : Char) : Bool := c.isAlphanum

/-- A letter, a digit, a hyphen or an underscore. -/
def isNameRest (c : Char) : Bool := c.isAlphanum || c == '-' || c == '_'

/-- A letter or digit, followed by letters, digits, hyphens and underscores. -/
def isClusterName (s : String) : Bool :=
  match s.toList with
  | c :: cs => isNameStart c && isEnd (cs.dropWhile isNameRest)
  | [] => false

example : ["us-west-2", "us-gov-west-1", "us-gov-1", "us-west-", "US-west-2", "us-west-2\n"].map
    isRegion = [true, true, true, false, false, true] := by
  decide +kernel

end ClusterOps.Settings
