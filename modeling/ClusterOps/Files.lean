import ClusterOps.Text.Blank

/-
A tree of files, as far as it is known to a run: the entries below the present
directory, each named by its path from there. A path is walked part by part, so
that a part that is no directory stops the walk even where the next one leads
back.
-/

namespace ClusterOps

/-- What stands under a name: a file with its bytes, or a directory. -/
inductive Entry where
  | file (bytes : List Nat)
  | directory
deriving Repr, Inhabited

/-- The entries below the present directory. -/
abbrev Files := List (String × Entry)

namespace Files

/-- A path in its plainest form: no empty part and no part that stays in place. -/
def plainPath (path : String) : String :=
  let parts := (Text.splitOn '/' path.toList).filter fun p => !(p.isEmpty || p == ['.'])
  let root := match path.toList with
    | '/' :: '/' :: '/' :: _ => "/"
    | '/' :: '/' :: _ => "//"
    | '/' :: _ => "/"
    | _ => ""
  if parts.isEmpty && root.isEmpty then "."
  else root ++ "/".intercalate (parts.map String.ofList)

/-- The entry at a place given by its parts; what leads to an entry is a directory too. -/
def entryAt (files : Files) (parts : List String) : Option Entry :=
  if parts.isEmpty then some .directory
  else
    let name := "/".intercalate parts
    match files.lookup name with
    | some e => some e
    | none =>
      let above := (name ++ "/").toList
      if files.any fun (n, _) => above.isPrefixOf n.toList then some .directory else none

/-- Walks the parts of a path from a place. Of what is above the present directory only the
directories themselves are known. -/
def walk (files : Files) (place : List String) : List String → Option Entry
  | [] => files.entryAt place
  | part :: rest =>
    match files.entryAt place with
    | some .directory =>
      if part == ".." then
        match place.reverse with
        | [] => if rest.all fun p => p == ".." then some .directory else none
        | _ :: before => walk files before.reverse rest
      else walk files (place ++ [part]) rest
    | _ => none

/-- The entry that a path leads to: the one that bears its name, or the one at the end of its
walk. A path from the root is not walked. -/
def find? (files : Files) (path : String) : Option Entry :=
  let plain := plainPath path
  match files.lookup plain with
  | some e => some e
  | none =>
    match plain.toList with
    | ['/'] | ['/', '/'] => some .directory
    | '/' :: _ => none
    | cs =>
      files.walk []
        (((Text.splitOn '/' cs).filter fun p => p != ['.']).map String.ofList)

/-- Whether a path as it was given leads to a directory; an empty one leads nowhere. -/
def isDirectory (files : Files) (path : String) : Bool :=
  if path.isEmpty then false
  else match files.find? path with
    | some .directory => true
    | _ => false

example : plainPath "./a//b/./../c" = "a/b/../c" := by decide +kernel

end Files

end ClusterOps
