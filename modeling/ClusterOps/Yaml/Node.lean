import ClusterOps.Yaml.Scalar
import ClusterOps.Yaml.Token

/-
The tree of a document. Every node has a kind, given by its tag or by its form.
An alias stands for the node that was given its name; where that node is still
being read the alias is a `loop`, and once it has been read the loop is replaced
by it. A node that contains itself has no end, so that is done a few times only.

The reading functions take the tokens that are left and give back those after
the node. At most three of their steps fall on one token, which bounds the fuel
they are given. Where they ask for a token and none is left, they fail with
`stop`, which is what stands in the way of more tokens.
-/

namespace ClusterOps.Yaml

/-- The tree of a document. -/
inductive Node where
  | scalar (tag : Tag) (text : String) (halves : Option Text.Halves)
  | seq (tag : Tag) (items : List Node)
  | map (tag : Tag) (entries : List (Node × Node))
  | loop (anchor : String) (isMap : Bool)
deriving Repr, Inhabited

namespace Node

/-- What a name given by an anchor stands for, and what the tag handles stand for. -/
structure Names where
  anchors : List (String × Node)
  handles : List (String × String)
deriving Inhabited

/-- Nothing named yet. -/
def Names.start : Names := ⟨[], [("!", "!"), ("!!", Tag.standard)]⟩

/-- What reading a part of a tree gives. -/
structure Reading (α : Type) where
  result : α
  rest : List Token
  names : Names

/-- The empty scalar that stands where a node is left out. -/
def absent : Node := .scalar .null "" none

/-- The properties in front of a node. -/
structure Properties where
  anchor : Option String
  tag : Option String
deriving Inhabited

/-- The complaint about tokens with which a part of a tree cannot go on. -/
def refuse {α : Type} (stop : Defect) : List Token → Except Defect α
  | [] => .error stop
  | _ => .error .malformed

/-- The full text of a tag. -/
def fullTag (names : Names) (w : TagWord) : Except Defect String :=
  match w.handle with
  | none => .ok w.suffix
  | some h =>
    match names.handles.lookup h with
    | some lead => .ok (lead ++ w.suffix)
    | none => .error .malformed

/-- Anchor and tag in front of a node, in either order. -/
def properties (stop : Defect) (names : Names) :
    List Token → Except Defect (Properties × List Token)
  | .anchor a :: .tag w :: rest => do return (⟨some a, some (← fullTag names w)⟩, rest)
  | .tag w :: .anchor a :: rest => do return (⟨some a, some (← fullTag names w)⟩, rest)
  | .anchor a :: rest => .ok (⟨some a, none⟩, rest)
  | [.tag _] => .error stop
  | .tag w :: rest => do return (⟨none, some (← fullTag names w)⟩, rest)
  | rest => .ok (⟨none, none⟩, rest)

/-- The kind of a scalar: by its tag, else by its form, quotes making it text. The tag `!` alone
asks for the form in any case. -/
def scalarTag (tag : Option String) (w : Written) : Tag :=
  match tag with
  | none => if w.plain then .ofForm w.text else .text
  | some "!" => .ofForm w.text
  | some t => .ofName t

/-- The kind of a collection. -/
def groupTag (tag : Option String) (default : Tag) : Tag :=
  match tag with
  | none => default
  | some "!" => default
  | some t => .ofName t

mutual

/-- The tree with a node in place of the loops to an anchor. -/
def tied (a : String) (n : Node) : Node → Node
  | .loop b isMap => if b == a then n else .loop b isMap
  | .scalar t s h => .scalar t s h
  | .seq t ns => .seq t (tiedItems a n ns)
  | .map t es => .map t (tiedEntries a n es)

/-- `tied` on the items of a sequence. -/
def tiedItems (a : String) (n : Node) : List Node → List Node
  | [] => []
  | m :: ms => tied a n m :: tiedItems a n ms

/-- `tied` on the entries of a mapping. -/
def tiedEntries (a : String) (n : Node) : List (Node × Node) → List (Node × Node)
  | [] => []
  | (k, v) :: es => (tied a n k, tied a n v) :: tiedEntries a n es

end

/-- A node that contains itself, as many times in itself as is given. -/
def unrolled (a : String) (n : Node) : Nat → Node
  | 0 => n
  | turns + 1 => tied a (unrolled a n turns) n

/-- How often a node is repeated in itself. No schema here looks deeper into it. -/
def turns : Nat := 4

/-- The node of a name, which may contain itself. -/
def named (anchor : Option String) (n : Node) : Node :=
  match anchor with
  | none => n
  | some a => n.unrolled a turns

/-- Names a collection that is still being read. -/
def Names.begin (names : Names) (anchor : Option String) (isMap : Bool) : Names :=
  match anchor with
  | none => names
  | some a => { names with anchors := (a, .loop a isMap) :: names.anchors }

/-- Names a node that has been read, which takes the place of the loops to it. -/
def Names.bind (names : Names) (anchor : Option String) (n : Node) : Names :=
  match anchor with
  | none => names
  | some a =>
    { names with anchors := (a, n) :: names.anchors.map fun (b, m) => (b, tied a n m) }

/-- Whether the tokens begin with one for which `test` holds. -/
def sees (test : Token → Bool) (ts : List Token) : Bool := ts.head?.any test

/-- The tokens before which an entry of a block sequence is left out. -/
def endsDash : Token → Bool
  | .blockEntry | .blockEnd => true
  | _ => false

/-- The tokens before which an entry of a sequence without own indentation is left out. -/
def endsLooseDash : Token → Bool
  | .blockEntry | .key | .value | .blockEnd => true
  | _ => false

/-- The tokens before which a key or a value of a block mapping is left out. -/
def endsPart : Token → Bool
  | .key | .value | .blockEnd => true
  | _ => false

section Reading

variable (stop : Defect)

mutual

/-- A node. `block` says whether block collections may stand here, `loose` whether a sequence
without own indentation may. -/
def node (fuel : Nat) (block loose : Bool) (names : Names) (ts : List Token) :
    Except Defect (Reading Node) :=
  match fuel with
  | 0 => .error .malformed
  | fuel + 1 =>
    match ts with
    | .alias a :: rest =>
      match names.anchors.lookup a with
      | some n => .ok ⟨n, rest, names⟩
      | none => .error .malformed
    | ts =>
      match properties stop names ts with
      | .error d => .error d
      | .ok (p, ts) =>
        if p.anchor.any fun a => (names.anchors.lookup a).isSome then refuse stop ts
        else
          let finish (n : Node) (rest : List Token) (names : Names) :
              Except Defect (Reading Node) :=
            let n := n.named p.anchor
            .ok ⟨n, rest, names.bind p.anchor n⟩
          let inside (isMap : Bool) : Names := names.begin p.anchor isMap
          let asSeq (r : Reading (List Node)) : Except Defect (Reading Node) :=
            finish (.seq (groupTag p.tag .seq) r.result) r.rest r.names
          let asMap (r : Reading (List (Node × Node))) : Except Defect (Reading Node) :=
            finish (.map (groupTag p.tag .map) r.result) r.rest r.names
          match ts with
          | .scalar w :: rest => finish (.scalar (scalarTag p.tag w) w.text w.halves) rest names
          | .flowSequenceStart :: rest =>
            (flowItems fuel (inside false) true [] rest).bind asSeq
          | .flowMappingStart :: rest =>
            (flowEntries fuel (inside true) true [] rest).bind asMap
          | ts =>
            let empty : Except Defect (Reading Node) :=
              if p.anchor.isSome || p.tag.isSome then
                finish (.scalar (scalarTag p.tag ⟨"", true, none⟩) "" none) ts names
              else .error .malformed
            match ts, loose, block with
            | .blockEntry :: _, true, _ =>
              (looseItems fuel (inside false) [] ts).bind asSeq
            | .blockSequenceStart :: rest, _, true =>
              (blockItems fuel (inside false) [] rest).bind asSeq
            | .blockMappingStart :: rest, _, true =>
              (blockEntries fuel (inside true) [] rest).bind asMap
            | [], _, _ => .error stop
            | _, _, _ => empty

/-- A node, or nothing before one of the tokens that end its place. -/
def nodeOr (fuel : Nat) (ends : Token → Bool) (block loose : Bool) (names : Names)
    (ts : List Token) : Except Defect (Reading Node) :=
  match fuel with
  | 0 => .error .malformed
  | fuel + 1 => if sees ends ts then .ok ⟨absent, ts, names⟩ else node fuel block loose names ts

/-- The entries of a block sequence. -/
def blockItems (fuel : Nat) (names : Names) (done : List Node) (ts : List Token) :
    Except Defect (Reading (List Node)) :=
  match fuel with
  | 0 => .error .malformed
  | fuel + 1 =>
    match ts with
    | .blockEntry :: rest =>
      match nodeOr fuel endsDash true false names rest with
      | .error d => .error d
      | .ok r => blockItems fuel r.names (r.result :: done) r.rest
    | .blockEnd :: rest => .ok ⟨done.reverse, rest, names⟩
    | ts => refuse stop ts

/-- The entries of a sequence without own indentation. -/
def looseItems (fuel : Nat) (names : Names) (done : List Node) (ts : List Token) :
    Except Defect (Reading (List Node)) :=
  match fuel with
  | 0 => .error .malformed
  | fuel + 1 =>
    match ts with
    | .blockEntry :: rest =>
      match nodeOr fuel endsLooseDash true false names rest with
      | .error d => .error d
      | .ok r => looseItems fuel r.names (r.result :: done) r.rest
    | rest => .ok ⟨done.reverse, rest, names⟩

/-- The entries of a block mapping. -/
def blockEntries (fuel : Nat) (names : Names) (done : List (Node × Node)) (ts : List Token) :
    Except Defect (Reading (List (Node × Node))) :=
  match fuel with
  | 0 => .error .malformed
  | fuel + 1 =>
    match ts with
    | .blockEnd :: rest => .ok ⟨done.reverse, rest, names⟩
    | ts =>
      let key := match ts with
        | .key :: rest => nodeOr fuel endsPart true true names rest
        | ts => refuse stop ts
      match key with
      | .error d => .error d
      | .ok k =>
        let value := match k.rest with
          | .value :: rest => nodeOr fuel endsPart true true k.names rest
          | rest => .ok ⟨absent, rest, k.names⟩
        match value with
        | .error d => .error d
        | .ok v => blockEntries fuel v.names ((k.result, v.result) :: done) v.rest

/-- The entries of a flow sequence; an entry with a key is a mapping of its own. -/
def flowItems (fuel : Nat) (names : Names) (first : Bool) (done : List Node) (ts : List Token) :
    Except Defect (Reading (List Node)) :=
  match fuel with
  | 0 => .error .malformed
  | fuel + 1 =>
    let ends : Token → Bool
      | .flowEntry | .flowSequenceEnd => true
      | _ => false
    let endsKey : Token → Bool
      | .value | .flowEntry | .flowSequenceEnd => true
      | _ => false
    match ts with
    | .flowSequenceEnd :: rest => .ok ⟨done.reverse, rest, names⟩
    | ts =>
      let entry := match first, ts with
        | true, ts => some ts
        | false, .flowEntry :: rest => some rest
        | false, _ => none
      match entry with
      | none => refuse stop ts
      | some (.flowSequenceEnd :: rest) => .ok ⟨done.reverse, rest, names⟩
      | some (.key :: rest) =>
        match nodeOr fuel endsKey false false names rest with
        | .error d => .error d
        | .ok k =>
          let value := match k.rest with
            | .value :: rest => nodeOr fuel ends false false k.names rest
            | rest => .ok ⟨absent, rest, k.names⟩
          match value with
          | .error d => .error d
          | .ok v => flowItems fuel v.names false (.map .map [(k.result, v.result)] :: done) v.rest
      | some ts =>
        match node fuel false false names ts with
        | .error d => .error d
        | .ok r => flowItems fuel r.names false (r.result :: done) r.rest

/-- The entries of a flow mapping; a key may stand without value. -/
def flowEntries (fuel : Nat) (names : Names) (first : Bool) (done : List (Node × Node))
    (ts : List Token) : Except Defect (Reading (List (Node × Node))) :=
  match fuel with
  | 0 => .error .malformed
  | fuel + 1 =>
    let ends : Token → Bool
      | .flowEntry | .flowMappingEnd => true
      | _ => false
    let endsKey : Token → Bool
      | .value | .flowEntry | .flowMappingEnd => true
      | _ => false
    match ts with
    | .flowMappingEnd :: rest => .ok ⟨done.reverse, rest, names⟩
    | ts =>
      let entry := match first, ts with
        | true, ts => some ts
        | false, .flowEntry :: rest => some rest
        | false, _ => none
      match entry with
      | none => refuse stop ts
      | some (.flowMappingEnd :: rest) => .ok ⟨done.reverse, rest, names⟩
      | some (.key :: rest) =>
        match nodeOr fuel endsKey false false names rest with
        | .error d => .error d
        | .ok k =>
          let value := match k.rest with
            | .value :: rest => nodeOr fuel ends false false k.names rest
            | rest => .ok ⟨absent, rest, k.names⟩
          match value with
          | .error d => .error d
          | .ok v => flowEntries fuel v.names false ((k.result, v.result) :: done) v.rest
      | some ts =>
        match node fuel false false names ts with
        | .error d => .error d
        | .ok k => flowEntries fuel k.names false ((k.result, absent) :: done) k.rest

end

end Reading

/-! ## Documents -/

/-- Whether the token begins a document of its own or ends the stream. -/
def opensDocument : Token → Bool
  | .directive _ | .documentStart | .streamEnd => true
  | _ => false

/-- Whether a document is empty before the token. -/
def endsDocument : Token → Bool
  | .directive _ | .documentStart | .documentEnd | .streamEnd => true
  | _ => false

/-- Takes the directives in front of a document. -/
def directives (versioned : Bool) (handles : List (String × String)) :
    List Token → Except Defect (Names × List Token)
  | .directive d :: rest =>
    match d with
    | .version major =>
      if versioned || major != 1 then .error .malformed else directives true handles rest
    | .tag h lead =>
      if (handles.lookup h).isSome then .error .malformed
      else directives versioned ((h, lead) :: handles) rest
    | .other => directives versioned handles rest
  | rest => .ok (⟨[], handles ++ Names.start.handles⟩, rest)

/-- The end of the only document: nothing follows but marks of its end. -/
def closed (stop : Defect) (r : Reading Node) : Except Defect (Option Node) :=
  match r.rest.dropWhile (· == .documentEnd) with
  | .streamEnd :: _ => .ok (some r.result)
  | rest => do refuse stop (← directives false [] rest).2

/-- The only document among the tokens; none if there is nothing at all. -/
def ofTokens? (stop : Defect) (ts : List Token) : Except Defect (Option Node) := do
  let fuel := 3 * ts.length + 3
  if sees (· == .streamEnd) ts then return none
  else if sees opensDocument ts then
    let (names, rest) ← directives false [] ts
    match rest with
    | .documentStart :: rest =>
      if sees endsDocument rest then closed stop ⟨absent, rest, names⟩
      else closed stop (← node stop fuel true false names rest)
    | rest => refuse stop rest
  else closed stop (← node stop fuel true false Names.start ts)

end Node

end ClusterOps.Yaml
