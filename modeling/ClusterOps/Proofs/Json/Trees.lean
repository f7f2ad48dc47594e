import ClusterOps.Proofs.Json.Numbers
import ClusterOps.Proofs.Json.Tokens
import ClusterOps.Yaml.Document

/-
What a JSON text denotes in YAML. The tree over the tokens of a common text has the
shape of the value that the text spells, with the keys and texts between quotes as texts
and the other scalars by their form, and denotes that value (`read_spelled`).
-/

namespace ClusterOps.Value.Json

open Yaml

/-! ## Trees -/

/-- The node of a word without quotes. -/
def bareNode (word : List Char) : Node :=
  .scalar (Tag.ofForm (String.ofList word)) (String.ofList word) none

/-- The node of a text between quotes. -/
def textNode (ps : List Piece) : Node := .scalar .text (Piece.text ps) none

mutual

/-- The tree of a value. -/
def Spelling.node : Spelling → Node
  | .null => bareNode "null".toList
  | .bool b => bareNode (if b then "true".toList else "false".toList)
  | .number n => bareNode n.chars
  | .text ps => textNode ps
  | .emptyList _ => .seq .seq []
  | .list items => .seq .seq items.nodes
  | .emptyMap _ => .map .map []
  | .map members => .map .map members.nodes

/-- The trees of items. -/
def Items.nodes : Items → List Node
  | .last _ v _ => [v.node]
  | .more _ v _ rest => v.node :: rest.nodes

/-- The trees of members. -/
def Members.nodes : Members → List (Node × Node)
  | .last l _ v _ => [(textNode l.key, v.node)]
  | .more l _ v _ rest => (textNode l.key, v.node) :: rest.nodes

end

/-! ## From tokens to trees -/

section Reading

variable {stop : Defect} {fuel : Nat} {names : Node.Names} {ts rest : List Token}

/-- A scalar is a node of the kind of its form. -/
theorem node_scalar (w : Written) (block : Bool) :
    Node.node stop (fuel + 1) block false names (.scalar w :: ts)
      = .ok ⟨.scalar (Node.scalarTag none w) w.text w.halves, ts, names⟩ := rfl

theorem node_bareToken (word : List Char) (block : Bool) :
    Node.node stop (fuel + 1) block false names (bareToken word :: ts)
      = .ok ⟨bareNode word, ts, names⟩ := by
  rw [bareToken, node_scalar, Node.scalarTag, if_pos rfl, bareNode]

theorem node_flowSequence {items : List Node} (block : Bool)
    (read : Node.flowItems stop fuel names true [] ts = .ok ⟨items, rest, names⟩) :
    Node.node stop (fuel + 1) block false names (.flowSequenceStart :: ts)
      = .ok ⟨.seq .seq items, rest, names⟩ := by
  change (Node.flowItems stop fuel names true [] ts).bind _ = _
  rw [read]
  rfl

theorem node_flowMapping {entries : List (Node × Node)} (block : Bool)
    (read : Node.flowEntries stop fuel names true [] ts = .ok ⟨entries, rest, names⟩) :
    Node.node stop (fuel + 1) block false names (.flowMappingStart :: ts)
      = .ok ⟨.map .map entries, rest, names⟩ := by
  change (Node.flowEntries stop fuel names true [] ts).bind _ = _
  rw [read]
  rfl

/-- The tokens with which a value may start. -/
def opensValue : Token → Bool
  | .scalar _ | .flowSequenceStart | .flowMappingStart => true
  | _ => false

theorem Spelling.tokens_head (d : Spelling) : ∃ t ts, d.tokens = t :: ts ∧ opensValue t = true := by
  cases d <;> exact ⟨_, _, rfl, rfl⟩

/-- The comma in front of an item or a member that is not the first. -/
def separator (first : Bool) : List Token := if first then [] else [.flowEntry]

/-- A value is an item. -/
theorem flowItems_value {d : Spelling} {n : Node} (first : Bool) (done : List Node)
    (read : Node.node stop fuel false false names (d.tokens ++ ts) = .ok ⟨n, rest, names⟩) :
    Node.flowItems stop (fuel + 1) names first done (separator first ++ (d.tokens ++ ts))
      = Node.flowItems stop fuel names false (n :: done) rest := by
  obtain ⟨t, tokens, head, opens⟩ := d.tokens_head
  rw [head, List.cons_append] at read ⊢
  cases first <;> cases t <;> simp [opensValue] at opens <;>
    simp [separator, Node.flowItems, read]

/-- A value is no token that ends its place. -/
theorem nodeOr_value {d : Spelling} {ends : Token → Bool}
    (goes : ∀ t, opensValue t = true → ends t = false) :
    Node.nodeOr stop (fuel + 1) ends false false names (d.tokens ++ ts)
      = Node.node stop fuel false false names (d.tokens ++ ts) := by
  obtain ⟨t, tokens, head, opens⟩ := d.tokens_head
  have none : Node.sees ends (d.tokens ++ ts) = false := by simp [Node.sees, head, goes t opens]
  rw [Node.nodeOr, none]
  rfl

/-- A key and a value are a member. -/
theorem flowEntries_member {d : Spelling} {n : Node} (l : Label) (first : Bool)
    (done : List (Node × Node))
    (read : Node.node stop (fuel + 1) false false names (d.tokens ++ ts) = .ok ⟨n, rest, names⟩) :
    Node.flowEntries stop (fuel + 3) names first done
        (separator first ++ (l.tokens ++ (d.tokens ++ ts)))
      = Node.flowEntries stop (fuel + 2) names false ((textNode l.key, n) :: done) rest := by
  have key (ends : Token → Bool) (goes : ends (textToken l.key) = false) (ts : List Token) :
      Node.nodeOr stop (fuel + 2) ends false false names (textToken l.key :: ts)
        = .ok ⟨textNode l.key, ts, names⟩ := by
    rw [Node.nodeOr, Node.sees, List.head?_cons, Option.any_some, goes]
    rfl
  have value (ends : Token → Bool) (goes : ∀ t, opensValue t = true → ends t = false) :
      Node.nodeOr stop (fuel + 2) ends false false names (d.tokens ++ ts)
        = .ok ⟨n, rest, names⟩ := (nodeOr_value goes).trans read
  have alone : Node.flowEntries stop (fuel + 3) names first done
        (separator first ++ (l.tokens ++ (d.tokens ++ ts)))
      = Node.flowEntries stop (fuel + 3) names true done
        (.key :: textToken l.key :: .value :: (d.tokens ++ ts)) := by
    cases first <;> rfl
  rw [alone]
  conv_lhs => unfold Node.flowEntries
  dsimp only
  rw [key]
  · dsimp only
    rw [value]
    intro t opens
    cases t <;> first | rfl | cases opens
  · rfl

end Reading

section

variable (stop : Defect)

mutual

/-- The tree of a value is read from its tokens, if there is fuel for each of them. -/
theorem node_spelling : ∀ (d : Spelling) {fuel : Nat} (block : Bool) (names : Node.Names)
    (ts : List Token), d.tokens.length ≤ fuel →
      Node.node stop fuel block false names (d.tokens ++ ts) = .ok ⟨d.node, ts, names⟩
  | .null, fuel + 1, block, names, ts, _ => node_bareToken _ block
  | .bool b, fuel + 1, block, names, ts, _ => node_bareToken _ block
  | .number n, fuel + 1, block, names, ts, _ => node_bareToken _ block
  | .text ps, fuel + 1, block, names, ts, _ => node_scalar _ block
  | .emptyList _, fuel + 2, block, names, ts, _ => node_flowSequence block rfl
  | .emptyMap _, fuel + 2, block, names, ts, _ => node_flowMapping block rfl
  | .list items, fuel + 1, block, names, ts, enough =>
    node_flowSequence block
      (flowItems_items items true names [] ts (by simpa [Spelling.tokens] using enough))
  | .map members, fuel + 1, block, names, ts, enough =>
    node_flowMapping block
      (flowEntries_members members true names [] ts (by simpa [Spelling.tokens] using enough))
  | .emptyList _, 1, block, names, ts, enough | .emptyMap _, 1, block, names, ts, enough => by
    simp [Spelling.tokens] at enough
  | d, 0, block, names, ts, enough => by
    obtain ⟨t, ts, head, -⟩ := d.tokens_head
    simp [head] at enough

theorem flowItems_items : ∀ (l : Items) {fuel : Nat} (first : Bool) (names : Node.Names)
    (done : List Node) (ts : List Token), l.tokens.length ≤ fuel →
      Node.flowItems stop fuel names first done (separator first ++ (l.tokens ++ ts))
        = .ok ⟨done.reverse ++ l.nodes, ts, names⟩
  | .last before v after, fuel + 2, first, names, done, ts, enough => by
    have short : v.tokens.length ≤ fuel + 1 := by
      simp [Items.tokens] at enough
      omega
    have read := node_spelling v false names (.flowSequenceEnd :: ts) short
    rw [Items.tokens, List.append_assoc, List.singleton_append, flowItems_value first done read]
    simp [Node.flowItems, Items.nodes]
  | .more before v after rest, fuel + 1, first, names, done, ts, enough => by
    have ⟨short, enough⟩ : v.tokens.length ≤ fuel ∧ rest.tokens.length ≤ fuel := by
      simp [Items.tokens] at enough
      omega
    have read := node_spelling v false names (.flowEntry :: (rest.tokens ++ ts)) short
    rw [Items.tokens, List.append_assoc, List.cons_append, flowItems_value first done read]
    have further := flowItems_items rest false names (v.node :: done) ts enough
    simpa [separator, Items.nodes] using further
  | .last _ v _, 1, first, names, done, ts, enough => by
    obtain ⟨t, tokens, head, -⟩ := v.tokens_head
    simp [Items.tokens, head] at enough
  | l, 0, first, names, done, ts, enough => by cases l <;> simp [Items.tokens] at enough

theorem flowEntries_members : ∀ (l : Members) {fuel : Nat} (first : Bool) (names : Node.Names)
    (done : List (Node × Node)) (ts : List Token), l.tokens.length ≤ fuel →
      Node.flowEntries stop fuel names first done (separator first ++ (l.tokens ++ ts))
        = .ok ⟨done.reverse ++ l.nodes, ts, names⟩
  | .last l before v after, fuel + 3, first, names, done, ts, enough => by
    have short : v.tokens.length ≤ fuel + 1 := by
      simp [Members.tokens, Label.tokens] at enough
      omega
    have read := node_spelling v false names (.flowMappingEnd :: ts) short
    rw [Members.tokens, List.append_assoc, List.append_assoc, List.singleton_append,
      flowEntries_member l first done read]
    simp [Node.flowEntries, Members.nodes]
  | .more l before v after rest, fuel + 3, first, names, done, ts, enough => by
    have ⟨short, enough⟩ : v.tokens.length ≤ fuel + 1 ∧ rest.tokens.length ≤ fuel + 2 := by
      simp [Members.tokens, Label.tokens] at enough
      omega
    have read := node_spelling v false names (.flowEntry :: (rest.tokens ++ ts)) short
    rw [Members.tokens, List.append_assoc, List.append_assoc, List.cons_append,
      flowEntries_member l first done read]
    have further :=
      flowEntries_members rest false names ((textNode l.key, v.node) :: done) ts enough
    simpa [separator, Members.nodes] using further
  | l, 0, first, names, done, ts, enough | l, 1, first, names, done, ts, enough
  | l, 2, first, names, done, ts, enough => by
    cases l <;> simp [Members.tokens, Label.tokens] at enough

end

end

theorem layered_null : (bareNode "null".toList).layered = .ok .null := by
  have tag : Tag.ofForm (String.ofList "null".toList) = .null := by decide +kernel
  rw [bareNode, tag]
  rfl

theorem layered_bool (b : Bool) :
    (bareNode (if b then "true".toList else "false".toList)).layered = .ok (.bool b) := by
  have tag : Tag.ofForm (String.ofList (if b then "true".toList else "false".toList)) = .bool := by
    cases b <;> decide +kernel
  have value : Tag.boolOf (String.ofList (if b then "true".toList else "false".toList))
      = .ok b := by
    cases b <;> decide +kernel
  rw [bareNode, tag]
  change Node.Layered.here ((Tag.boolOf _).map Value.bool) = _
  rw [Option.elim_none, value]
  rfl

theorem layered_number {n : Numeral} (common : n.isCommon = true) :
    (bareNode n.chars).layered = .ok n.value := by
  have value := congrArg Node.Layered.here (Numeral.valueOf_chars common)
  rw [bareNode]
  by_cases decimals : n.decimals = []
  · have whole : n.exponent = none := by
      simp only [Numeral.isCommon, decimals, List.isEmpty_nil, if_true, Bool.and_eq_true,
        Option.isNone_iff_eq_none] at common
      exact common.1
    rw [Numeral.ofForm_of_whole decimals whole] at value ⊢
    exact value
  · rw [Numeral.ofForm_of_decimals decimals common] at value ⊢
    exact value

theorem layered_text (ps : List Piece) :
    (textNode ps).layered = .ok (.text (Piece.text ps)) := rfl

/-- A member whose key is a text is an entry of the map. -/
theorem parts_member {ps : List Piece} {n : Node} {v : Value} {nodes : List (Node × Node)}
    {own : List (Value × Value)} (value : n.layered = .ok v)
    (others : Node.parts nodes = ⟨true, .ok [], .ok own⟩) :
    Node.parts ((textNode ps, n) :: nodes)
      = ⟨true, .ok [], .ok ((.text (Piece.text ps), v) :: own)⟩ := by
  rw [textNode, Node.parts, others, value]
  rfl

mutual

/-- The tree of a common value denotes it. -/
theorem layered_spelling : ∀ {d : Spelling}, d.isCommon = true → d.node.layered = .ok d.value
  | .null, _ => layered_null
  | .bool b, _ => layered_bool b
  | .number n, common => layered_number common
  | .text ps, _ => layered_text ps
  | .emptyList _, _ => rfl
  | .emptyMap _, _ => rfl
  | .list items, common => by
    rw [Spelling.node, Node.layered, values_items common]
    rfl
  | .map members, common => by
    rw [Spelling.node, Node.layered, parts_members common]
    rfl

theorem values_items : ∀ {l : Items}, l.areCommon = true → Node.values l.nodes = .ok l.values
  | .last _ v _, common => by
    simp only [Items.areCommon, Bool.and_eq_true] at common
    rw [Items.nodes, Node.values, layered_spelling common.1.2]
    rfl
  | .more _ v _ rest, common => by
    simp only [Items.areCommon, Bool.and_eq_true] at common
    rw [Items.nodes, Node.values, layered_spelling common.1.1.2, values_items common.2]
    rfl

theorem parts_members : ∀ {l : Members}, l.areCommon = true →
    Node.parts l.nodes = ⟨true, .ok [], .ok l.entries⟩
  | .last l _ v _, common => by
    simp only [Members.areCommon, Bool.and_eq_true] at common
    exact parts_member (layered_spelling common.1.2) rfl
  | .more l _ v _ rest, common => by
    simp only [Members.areCommon, Bool.and_eq_true] at common
    exact parts_member (layered_spelling common.1.1.2) (parts_members common.2)

end

end ClusterOps.Value.Json
