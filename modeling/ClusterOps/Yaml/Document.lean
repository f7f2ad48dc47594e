import ClusterOps.Yaml.Node

/-
What a document denotes. A mapping gives a map in which a repeated key keeps its
first place with its last value. The key `<<` takes over the entries of another
mapping, or of several, in front of the mapping's own ones; of several the
earlier ones win. A loop that is left in a tree lies deeper than anybody looks: it
has no entries and no items, and takes nothing over.

A document can have several defects. Collections are filled layer by layer, so
the defect in the fewest collections is the one that is reported, and of those in
the same layer the first.
-/

namespace ClusterOps.Yaml

namespace Node

/-- The kind of a node. -/
def tag : Node → Tag
  | .scalar t _ _ => t
  | .seq t _ => t
  | .map t _ => t
  | .loop _ isMap => if isMap then .map else .seq

/-- Writes all entries into a map. -/
def gather (entries : List (Value × Value)) : List (Value × Value) :=
  entries.foldl (fun es (k, v) => Value.put es k v) []

mutual

/-- The text of a scalar, or of the entry `=` of a mapping that stands for one. -/
def scalarText? : Node → Option (String × Option Text.Halves)
  | .scalar _ s h => some (s, h)
  | .map _ es => defaultText? es
  | _ => none

/-- The text under the key `=`. -/
def defaultText? : List (Node × Node) → Option (String × Option Text.Halves)
  | [] => none
  | (k, v) :: rest => if k.tag = .value then scalarText? v else defaultText? rest

end

/-- What a part of a tree denotes, or a defect of it and in how many collections the defect lies. A
collection is filled only when everything around it has been looked at, so of two defects the one
in fewer collections is met first. -/
abbrev Layered (α : Type) := Except (Nat × Defect) α

namespace Layered

variable {α β : Type}

/-- A defect that is in no collection. -/
def malformed : Layered α := .error (0, .malformed)

/-- What is in no collection. -/
def here (x : Except Defect α) : Layered α := x.mapError fun d => (0, d)

/-- The same in one more collection. -/
def inside (x : Layered α) : Layered α := x.mapError fun (depth, d) => (depth + 1, d)

/-- Both, or the defect that is met first. -/
def both (x : Layered α) (y : Layered β) : Layered (α × β) :=
  match x, y with
  | .ok a, .ok b => .ok (a, b)
  | .error e, .ok _ => .error e
  | .ok _, .error e => .error e
  | .error e, .error f => .error (if f.1 < e.1 then f else e)

/-- The value as a key of a map; a collection is none, whatever is in it. -/
def asKey (x : Layered Value) : Layered Value :=
  match x with
  | .ok v => if v.isKey then .ok v else malformed
  | .error (0, d) => .error (0, d)
  | .error (_ + 1, _) => malformed

end Layered

/-- The entries of a mapping: those taken over from others, if all of these have the form for it,
and its own. -/
structure Parts where
  fits : Bool
  merged : Layered (List (Value × Value))
  own : Layered (List (Value × Value))

/-- The entries that are taken over in front of the own ones. -/
def Parts.entries (p : Parts) : Layered (List (Value × Value)) :=
  (p.merged.both p.own).map fun (m, own) => m ++ own

/-- The entries as they are written into a map. -/
def Parts.gathered (p : Parts) : Layered (List (Value × Value)) :=
  if p.fits then p.entries.map gather else .malformed

mutual

/-- What a node denotes. -/
def layered : Node → Layered Value
  | .loop _ isMap => .ok (if isMap then .map [] else .list [])
  | .scalar t s h =>
    match t with
    | .seq | .pairs | .map | .set => .inside .malformed
    | t => .here (Tag.valueOf t s h)
  | .seq t ns =>
    match t with
    | .seq => .inside ((values ns).map Value.list)
    | .pairs => .inside ((pairs ns).map Value.list)
    | .map | .set => .inside .malformed
    | _ => .malformed
  | .map t es =>
    match t with
    | .map => .inside ((parts es).gathered.map Value.map)
    | .set => .inside ((parts es).gathered.map fun entries => Value.set (entries.map Prod.fst))
    | .seq | .pairs => .inside .malformed
    | .null | .bool | .int | .float | .binary | .text =>
      match defaultText? es with
      | some (s, h) => .here (Tag.valueOf t s h)
      | none => .malformed
    | .timestamp =>
      if (defaultText? es).isSome then
        .here (Tag.refused "TypeError" "expected string or bytes-like object, got 'list'")
      else .malformed
    | _ => .malformed

/-- What nodes denote. -/
def values : List Node → Layered (List Value)
  | [] => .ok []
  | n :: rest => ((layered n).both (values rest)).map fun (v, vs) => v :: vs

/-- The entries of mappings with one entry each, as lists of two. -/
def pairs : List Node → Layered (List Value)
  | [] => .ok []
  | .loop _ _ :: rest => (pairs rest).map fun vs => Value.list [] :: vs
  | .map _ [(k, v)] :: rest =>
    (((layered k).both (layered v)).both (pairs rest)).map fun ((k, v), vs) =>
      Value.list [k, v] :: vs
  | _ => .malformed

/-- The entries of a mapping. -/
def parts : List (Node × Node) → Parts
  | [] => ⟨true, .ok [], .ok []⟩
  | (k, v) :: rest =>
    let p := parts rest
    if k.tag = .merge then
      let (fits, es) := merged v
      ⟨fits && p.fits, (es.both p.merged).map fun (es, m) => es ++ m, p.own⟩
    else
      let key := if k.tag = .value then
          (match k with
            | .scalar _ s _ => .ok (Value.text s)
            | _ => .malformed)
        else (layered k).asKey
      ⟨p.fits, p.merged, ((key.both (layered v)).both p.own).map fun (e, own) => e :: own⟩

/-- The entries that a mapping, or a list of mappings, hands over, and whether it has the form for
it. -/
def merged : Node → Bool × Layered (List (Value × Value))
  | .map _ es =>
    let p := parts es
    (p.fits, p.entries)
  | .seq _ ns => mergedAll ns
  | .loop _ _ => (true, .ok [])
  | .scalar _ _ _ => (false, .malformed)

/-- The entries of each of a list of mappings, the last one's first. -/
def mergedAll : List Node → Bool × Layered (List (Value × Value))
  | [] => (true, .ok [])
  | .map _ es :: rest =>
    let p := parts es
    let (fits, others) := mergedAll rest
    (p.fits && fits, (others.both p.entries).map fun (others, es) => others ++ es)
  | .loop _ true :: rest => mergedAll rest
  | _ => (false, .malformed)

end

/-- The value of a node, or its defect that is met first. -/
def value (n : Node) : Except Defect Value := n.layered.mapError Prod.snd

end Node

/-- The value of a document; a document without any node is null. -/
def read (s : List Char) : Except Defect Value := do
  let (ts, stop) := Token.ofText s
  match ← Node.ofTokens? stop ts with
  | none => return .null
  | some n => n.value

example : (read "a: &x [1, yes]\nb: \x7bc: *x\x7d\n".toList).toOption.map Value.quoted
    = some "\x7b'a': [1, True], 'b': \x7b'c': [1, True]\x7d\x7d" := by
  decide +kernel

end ClusterOps.Yaml
