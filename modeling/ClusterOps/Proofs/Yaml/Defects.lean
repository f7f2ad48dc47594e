import ClusterOps.Proofs.Results
import ClusterOps.Yaml.Document

/-
Which kinds of failure the reading of a document can report, besides that its form
is wrong. Among its words only the code of an escaped character can be out of range,
and that breaks the reading (`Token.ofText_among`). The tree over the words reports
what broke the reading or a wrong form (`Node.ofTokens?_reports`). The values of its
scalars come last, and each of them fails in one of six kinds (`Node.value_reports`).
No other kind of failure comes out of a text, whatever its characters (`read_reports`).
-/

namespace ClusterOps.Yaml

/-- The kinds of failure of an escaped character whose code is out of range. -/
def codeKinds : List String := ["ValueError", "OverflowError"]

/-- The kinds of failure of a scalar that has no value of its kind. -/
def scalarKinds : List String :=
  ["ValueError", "IndexError", "KeyError", "AttributeError", "OverflowError", "TypeError"]

/-- A wrong form, or a failure of one of the kinds. -/
def Defect.Among (kinds : List String) : Defect → Prop
  | .malformed => True
  | .valueless kind _ => kind ∈ kinds

theorem Defect.Among.mono {kinds more : List String} (sub : kinds ⊆ more) :
    ∀ {d : Defect}, d.Among kinds → d.Among more
  | .malformed, _ => trivial
  | .valueless _ _, h => sub h

/-- Apart from a wrong form, what fails here is of one of the kinds. -/
abbrev Reports {α : Type} (kinds : List String) (x : Except Defect α) : Prop :=
  Fails (Defect.Among kinds) x

section

variable {α : Type} {kinds : List String}

theorem fails_malformed : Reports kinds (.error .malformed : Except Defect α) :=
  fails_error trivial

theorem fails_valueless {kind : String} (text : String) (h : kind ∈ kinds) :
    Reports kinds (.error (.valueless kind text) : Except Defect α) := fails_error h

theorem Reports.more {more : List String} {x : Except Defect α} (h : Reports kinds x)
    (sub : kinds ⊆ more) : Reports more x := fun e failed => (h e failed).mono sub

end

/-! ## Words -/

section Words

variable {kinds : List String}

theorem Cursor.skipBlankLine_reports (c : Cursor) : Reports kinds c.skipBlankLine :=
  (fails_ok _).ite fails_malformed

theorem anchorName_reports (c : Cursor) : Reports kinds (anchorName c) :=
  fails_malformed.ite (fails_ok _)

theorem tagHandle_reports (c : Cursor) : Reports kinds (tagHandle c) :=
  fails_malformed.ite ((fails_ok _).ite ((fails_ok _).ite fails_malformed))

theorem percentBytes_reports (fuel : Nat) (done : List Nat) (c : Cursor) :
    Reports kinds (percentBytes fuel done c) := by
  induction fuel generalizing done c with
  | zero => exact fails_malformed
  | succ fuel ih =>
    unfold percentBytes
    split
    · split
      · exact ih _ _
      · exact fails_malformed
    · exact fails_malformed
    · exact fails_ok _

theorem tagSuffix_reports (fuel : Nat) (done : List Char) (c : Cursor) :
    Reports kinds (tagSuffix fuel done c) := by
  induction fuel generalizing done c with
  | zero => exact fails_malformed
  | succ fuel ih =>
    unfold tagSuffix
    refine Fails.ite ?_ (fails_malformed.ite (fails_ok _))
    split
    case h_1 e => exact (percentBytes_reports _ _ _).error e
    case h_2 =>
      split
      · exact ih _ _
      · exact fails_malformed

theorem tagWord_reports (c : Cursor) : Reports kinds (tagWord c) := by
  have finish {p : Prop} [Decidable p] (w : TagWord × Cursor) :
      Reports kinds (if p then .ok w else malformed) := (fails_ok w).ite fails_malformed
  have handle {p : Prop} [Decidable p] :
      Reports kinds (if p then tagHandle c else .ok ("!", c.next)) :=
    (tagHandle_reports c).ite (fails_ok _)
  unfold tagWord
  dsimp only
  refine Fails.ite ?full (Fails.ite ?bare ?short)
  case full =>
    split
    case h_1 e => exact (tagSuffix_reports _ _ _).error e
    case h_2 => exact (finish _).ite fails_malformed
  case bare => exact finish _
  case short =>
    split
    case h_1 e => exact handle.error e
    case h_2 =>
      split
      case h_1 e => exact (tagSuffix_reports _ _ _).error e
      case h_2 => exact finish _

theorem versionNumber_reports (c : Cursor) : Reports kinds (versionNumber c) :=
  fails_malformed.ite (fails_ok _)

theorem directive_reports (c : Cursor) : Reports kinds (directive c) := by
  have line (d : Directive) (c : Cursor) :
      Reports kinds (c.skipBlankLine >>= fun after => pure (d, after)) :=
    (Cursor.skipBlankLine_reports c).bind fun _ => fails_ok _
  unfold directive
  refine fails_malformed.ite (Fails.ite ?_ (Fails.ite ?_ (line _ _)))
  · refine (versionNumber_reports _).bind fun _ => fails_malformed.ite ?_
    exact (versionNumber_reports _).bind fun _ => (line _ _).ite fails_malformed
  · refine (tagHandle_reports _).bind fun _ => fails_malformed.ite ?_
    exact (tagSuffix_reports _ _ _).bind fun _ => (line _ _).ite fails_malformed

theorem quotedBreaks_reports (fuel : Nat) (done : List Char) (c : Cursor) :
    Reports kinds (quotedBreaks fuel done c) := by
  induction fuel generalizing done c with
  | zero => exact fails_malformed
  | succ fuel ih => exact fails_malformed.ite ((ih _ _).ite (fails_ok _))

/-- Only the code of an escaped character can be out of range. -/
theorem quotedCodes_reports (double : Bool) (fuel : Nat) (done : List Nat) (c : Cursor) :
    Reports codeKinds (quotedCodes double fuel done c) := by
  induction fuel generalizing done c with
  | zero => exact fails_malformed
  | succ fuel ih =>
    unfold quotedCodes
    dsimp only
    split
    case h_1 => exact fails_malformed
    case h_2 x more _ =>
      refine Fails.ite ((ih _ _).ite (fails_ok _)) (Fails.ite ?escape ?other)
      case other =>
        refine Fails.ite (Fails.ite ?_ (fails_malformed.ite (ih _ _))) (ih _ _)
        split
        case h_1 e => exact (quotedBreaks_reports _ _ _).error e
        case h_2 => exact ih _ _
      case escape =>
        split
        case h_1 => exact fails_malformed
        case h_2 e digits =>
          split
          case h_1 => exact ih _ _
          case h_2 =>
            split
            case h_1 => exact fails_malformed
            case h_2 =>
              refine fails_malformed.ite ((ih _ _).ite (Fails.ite ?_ ?_))
              · exact fails_valueless _ (by decide)
              · exact fails_valueless _ (by decide)
          case h_3 =>
            refine Fails.ite ?_ fails_malformed
            split
            case h_1 e => exact (quotedBreaks_reports _ _ _).error e
            case h_2 => exact ih _ _

theorem quotedScalar_reports (double : Bool) (c : Cursor) :
    Reports codeKinds (quotedScalar double c) :=
  (quotedCodes_reports double _ _ _).bind fun _ => fails_ok _

theorem indentDigit?_reports (c : Option Char) : Reports kinds (indentDigit? c) := by
  unfold indentDigit?
  split
  · exact (fails_malformed.ite (fails_ok _)).ite (fails_ok _)
  · exact fails_ok _

theorem blockHeader_reports (c : Cursor) : Reports kinds (blockHeader c) := by
  have finish {p : Prop} [Decidable p] (w : (Chomp × Option Nat) × Cursor) :
      Reports kinds (if p then .ok w else malformed) := (fails_ok w).ite fails_malformed
  unfold blockHeader
  split
  · refine (indentDigit?_reports _).bind fun digit => ?_
    cases digit with
    | some d => exact finish _
    | none => exact finish _
  · refine (indentDigit?_reports _).bind fun digit => ?_
    cases digit with
    | some d =>
      dsimp only
      split
      · exact finish _
      · exact finish _
    | none => exact finish _

theorem blockScalar_reports (folded : Bool) (outer : Int) (c : Cursor) :
    Reports kinds (blockScalar folded outer c) := by
  unfold blockScalar
  refine (blockHeader_reports _).bind fun _ => ?_
  exact (Cursor.skipBlankLine_reports _).bind fun _ => (fails_ok _).ite (fails_ok _)

end Words

/-! ## Tokens -/

namespace Scan

variable {kinds : List String} (s : Scan)

theorem dropStale_reports : Reports kinds s.dropStale := fails_malformed.ite (fails_ok _)

theorem dropKey_reports : Reports kinds s.dropKey := fails_malformed.ite (fails_ok _)

theorem saveKey_reports : Reports kinds s.saveKey := by
  refine Fails.ite ?_ (fails_ok s)
  exact s.dropKey_reports.bind fun _ => fails_ok _

theorem openBlock_reports (t : Token) : Reports kinds (s.openBlock t) := by
  refine (fails_ok s).ite (fails_malformed.ite ?_)
  split
  · exact fails_ok _
  · exact fails_ok _

theorem fetchEnd_reports : Reports kinds s.fetchEnd :=
  (dropKey_reports _).bind fun _ => fails_ok _

theorem fetchSeparator_reports (t : Token) : Reports kinds (s.fetchSeparator t) :=
  (dropKey_reports _).bind fun _ => fails_ok _

theorem fetchDirective_reports : Reports kinds s.fetchDirective :=
  (dropKey_reports _).bind fun s => (directive_reports s.cursor).bind fun _ => fails_ok _

theorem fetchOpen_reports (t : Token) : Reports kinds (s.fetchOpen t) :=
  s.saveKey_reports.bind fun _ => fails_ok _

theorem fetchClose_reports (t : Token) : Reports kinds (s.fetchClose t) :=
  s.dropKey_reports.bind fun _ => fails_ok _

theorem fetchComma_reports : Reports kinds s.fetchComma :=
  s.dropKey_reports.bind fun _ => fails_ok _

theorem fetchDash_reports : Reports kinds s.fetchDash :=
  (s.openBlock_reports _).bind fun _ => (dropKey_reports _).bind fun _ => fails_ok _

theorem fetchQuestion_reports : Reports kinds s.fetchQuestion :=
  (s.openBlock_reports _).bind fun _ => (dropKey_reports _).bind fun _ => fails_ok _

theorem fetchColon_reports : Reports kinds s.fetchColon := by
  unfold fetchColon
  split
  · exact fails_ok _
  · exact (s.openBlock_reports _).bind fun _ => (dropKey_reports _).bind fun _ => fails_ok _

theorem fetchWord_reports {α : Type} {read : Cursor → Except Defect (α × Cursor)}
    (h : ∀ c, Reports kinds (read c)) (token : α → Token) :
    Reports kinds (s.fetchWord read token) :=
  s.saveKey_reports.bind fun s => (h s.cursor).bind fun _ => fails_ok _

theorem fetchBlockScalar_reports (folded : Bool) : Reports kinds (s.fetchBlockScalar folded) :=
  (dropKey_reports _).bind fun s =>
    (blockScalar_reports folded s.indent s.cursor).bind fun _ => fails_ok _

theorem fetchPlain_reports : Reports kinds s.fetchPlain :=
  s.saveKey_reports.bind fun _ => fails_ok _

/-- A token is chosen by its first character, and only quoted scalars report more than a wrong
form. -/
theorem fetch_reports : Reports codeKinds s.fetch := by
  unfold fetch
  dsimp only
  split
  case h_1 => exact s.fetchEnd_reports
  case h_2 x _ =>
    refine Fails.ite s.fetchDirective_reports ?_
    refine Fails.ite (s.fetchSeparator_reports _) ?_
    refine Fails.ite (s.fetchSeparator_reports _) ?_
    refine Fails.ite (s.fetchOpen_reports _) ?_
    refine Fails.ite (s.fetchOpen_reports _) ?_
    refine Fails.ite (s.fetchClose_reports _) ?_
    refine Fails.ite (s.fetchClose_reports _) ?_
    refine Fails.ite s.fetchComma_reports ?_
    refine Fails.ite s.fetchDash_reports ?_
    refine Fails.ite s.fetchQuestion_reports ?_
    refine Fails.ite s.fetchColon_reports ?_
    refine Fails.ite (s.fetchWord_reports anchorName_reports _) ?_
    refine Fails.ite (s.fetchWord_reports anchorName_reports _) ?_
    refine Fails.ite (s.fetchWord_reports tagWord_reports _) ?_
    refine Fails.ite (s.fetchBlockScalar_reports _) ?_
    refine Fails.ite (s.fetchBlockScalar_reports _) ?_
    refine Fails.ite (s.fetchWord_reports (quotedScalar_reports _) _) ?_
    refine Fails.ite (s.fetchWord_reports (quotedScalar_reports _) _) ?_
    exact s.fetchPlain_reports.ite fails_malformed

theorem step_reports : Reports codeKinds s.step :=
  (dropStale_reports _).bind fun _ => fetch_reports _

/-- What breaks the reading has been reported by a step. -/
theorem run_among (fuel : Nat) : (s.run fuel).2.Among codeKinds := by
  induction fuel generalizing s with
  | zero => exact trivial
  | succ fuel ih =>
    unfold run
    split
    case h_1 d broken => exact s.step_reports d broken
    case h_2 next _ =>
      split
      · exact trivial
      · exact ih next

end Scan

theorem Token.ofText_among (cs : List Char) : (Token.ofText cs).2.Among codeKinds := by
  unfold Token.ofText
  split
  · exact Scan.run_among _ _
  · exact trivial

/-! ## The tree -/

namespace Node

variable {kinds : List String} {stop : Defect}

theorem refuse_reports {α : Type} (told : stop.Among kinds) (ts : List Token) :
    Reports kinds (refuse stop ts : Except Defect α) := by
  cases ts with
  | nil => exact fails_error told
  | cons => exact fails_malformed

theorem fullTag_reports (names : Names) (w : TagWord) : Reports kinds (fullTag names w) := by
  unfold fullTag
  split
  · exact fails_ok _
  · split
    · exact fails_ok _
    · exact fails_malformed

theorem properties_reports (told : stop.Among kinds) (names : Names) (ts : List Token) :
    Reports kinds (properties stop names ts) := by
  unfold properties
  split
  · exact (fullTag_reports _ _).bind fun _ => fails_ok _
  · exact (fullTag_reports _ _).bind fun _ => fails_ok _
  · exact fails_ok _
  · exact fails_error told
  · exact (fullTag_reports _ _).bind fun _ => fails_ok _
  · exact fails_ok _

/-- What the reading functions report that are given some fuel. -/
structure ReadersReport (kinds : List String) (stop : Defect) (fuel : Nat) : Prop where
  node : ∀ block loose names ts, Reports kinds (node stop fuel block loose names ts)
  nodeOr : ∀ ends block loose names ts, Reports kinds (nodeOr stop fuel ends block loose names ts)
  blockItems : ∀ names done ts, Reports kinds (blockItems stop fuel names done ts)
  looseItems : ∀ names done ts, Reports kinds (looseItems stop fuel names done ts)
  blockEntries : ∀ names done ts, Reports kinds (blockEntries stop fuel names done ts)
  flowItems : ∀ names first done ts, Reports kinds (flowItems stop fuel names first done ts)
  flowEntries : ∀ names first done ts, Reports kinds (flowEntries stop fuel names first done ts)

section Step

variable {fuel : Nat} (told : stop.Among kinds) (h : ReadersReport kinds stop fuel)

include h in
theorem nodeOr_reports (ends : Token → Bool) (block loose : Bool) (names : Names)
    (ts : List Token) : Reports kinds (nodeOr stop (fuel + 1) ends block loose names ts) := by
  unfold Node.nodeOr
  exact (fails_ok _).ite (h.node _ _ _ _)

include h in
/-- The value behind a key, which may be left out. -/
theorem valueOr_reports {ends : Token → Bool} {block loose : Bool} {names : Names}
    (ts : List Token) :
    Reports kinds (match ts with
      | .value :: rest => Node.nodeOr stop fuel ends block loose names rest
      | rest => .ok ⟨absent, rest, names⟩) := by
  split
  · exact h.nodeOr _ _ _ _ _
  · exact fails_ok _

include told h

theorem blockItems_reports (names : Names) (done : List Node) (ts : List Token) :
    Reports kinds (blockItems stop (fuel + 1) names done ts) := by
  unfold Node.blockItems
  split
  · split
    case h_1 e => exact (h.nodeOr _ _ _ _ _).error e
    case h_2 => exact h.blockItems _ _ _
  · exact fails_ok _
  · exact refuse_reports told _

omit told in
theorem looseItems_reports (names : Names) (done : List Node) (ts : List Token) :
    Reports kinds (looseItems stop (fuel + 1) names done ts) := by
  unfold Node.looseItems
  split
  · split
    case h_1 e => exact (h.nodeOr _ _ _ _ _).error e
    case h_2 => exact h.looseItems _ _ _
  · exact fails_ok _

theorem blockEntries_reports (names : Names) (done : List (Node × Node)) (ts : List Token) :
    Reports kinds (blockEntries stop (fuel + 1) names done ts) := by
  unfold Node.blockEntries
  dsimp only
  split
  · exact fails_ok _
  · split
    case h_1 e =>
      split at e
      · exact (h.nodeOr _ _ _ _ _).error e
      · exact (refuse_reports told _).error e
    case h_2 k _ =>
      split
      case h_1 e => exact (valueOr_reports h k.rest).error e
      case h_2 => exact h.blockEntries _ _ _

theorem flowItems_reports (names : Names) (first : Bool) (done : List Node) (ts : List Token) :
    Reports kinds (flowItems stop (fuel + 1) names first done ts) := by
  unfold Node.flowItems
  dsimp only
  split
  · exact fails_ok _
  · split
    · exact refuse_reports told _
    · exact fails_ok _
    · split
      case h_1 e => exact (h.nodeOr _ _ _ _ _).error e
      case h_2 k _ =>
        split
        case h_1 e => exact (valueOr_reports h k.rest).error e
        case h_2 => exact h.flowItems _ _ _ _
    · split
      case h_1 e => exact (h.node _ _ _ _).error e
      case h_2 => exact h.flowItems _ _ _ _

theorem flowEntries_reports (names : Names) (first : Bool) (done : List (Node × Node))
    (ts : List Token) : Reports kinds (flowEntries stop (fuel + 1) names first done ts) := by
  unfold Node.flowEntries
  dsimp only
  split
  · exact fails_ok _
  · split
    · exact refuse_reports told _
    · exact fails_ok _
    · split
      case h_1 e => exact (h.nodeOr _ _ _ _ _).error e
      case h_2 k _ =>
        split
        case h_1 e => exact (valueOr_reports h k.rest).error e
        case h_2 => exact h.flowEntries _ _ _ _
    · split
      case h_1 e => exact (h.node _ _ _ _).error e
      case h_2 => exact h.flowEntries _ _ _ _

theorem node_reports (block loose : Bool) (names : Names) (ts : List Token) :
    Reports kinds (node stop (fuel + 1) block loose names ts) := by
  unfold Node.node
  split
  · split
    · exact fails_ok _
    · exact fails_malformed
  · split
    case h_1 e => exact (properties_reports told _ _).error e
    case h_2 =>
      refine (refuse_reports told _).ite ?_
      dsimp only
      split
      · exact fails_ok _
      · exact (h.flowItems _ _ _ _).bind fun _ => fails_ok _
      · exact (h.flowEntries _ _ _ _).bind fun _ => fails_ok _
      · split
        · exact (h.looseItems _ _ _).bind fun _ => fails_ok _
        · exact (h.blockItems _ _ _).bind fun _ => fails_ok _
        · exact (h.blockEntries _ _ _).bind fun _ => fails_ok _
        · exact fails_error told
        · exact (fails_ok _).ite fails_malformed

end Step

/-- No reading function reports more than a wrong form and what stands in the way of more tokens, by
induction on the fuel. -/
theorem readersReport (told : stop.Among kinds) : ∀ fuel, ReadersReport kinds stop fuel
  | 0 => by constructor <;> intros <;> exact fails_malformed
  | fuel + 1 => {
      node := node_reports told (readersReport told fuel)
      nodeOr := nodeOr_reports (readersReport told fuel)
      blockItems := blockItems_reports told (readersReport told fuel)
      looseItems := looseItems_reports (readersReport told fuel)
      blockEntries := blockEntries_reports told (readersReport told fuel)
      flowItems := flowItems_reports told (readersReport told fuel)
      flowEntries := flowEntries_reports told (readersReport told fuel) }

theorem directives_reports (versioned : Bool) (handles : List (String × String))
    (ts : List Token) : Reports kinds (directives versioned handles ts) := by
  induction ts generalizing versioned handles with
  | nil => exact fails_ok _
  | cons t ts ih =>
    unfold directives
    split
    case h_1 d rest same =>
      obtain ⟨-, rfl⟩ := List.cons.inj same
      cases d with
      | version => exact fails_malformed.ite (ih _ _)
      | tag => exact fails_malformed.ite (ih _ _)
      | other => exact ih _ _
    case h_2 => exact fails_ok _

theorem closed_reports (told : stop.Among kinds) (r : Reading Node) :
    Reports kinds (closed stop r) := by
  unfold closed
  split
  · exact fails_ok _
  · exact (directives_reports _ _ _).bind fun _ => refuse_reports told _

theorem ofTokens?_reports (told : stop.Among kinds) (ts : List Token) :
    Reports kinds (ofTokens? stop ts) := by
  have root (names : Names) (ts : List Token) (fuel : Nat) :
      Reports kinds (node stop fuel true false names ts >>= closed stop) :=
    ((readersReport told fuel).node _ _ _ _).bind fun r => closed_reports told r
  unfold ofTokens?
  refine (fails_ok _).ite (Fails.ite ?_ (root _ _ _))
  refine (directives_reports _ _ _).bind fun opening => ?_
  dsimp only
  split
  · exact (closed_reports told _).ite (root _ _ _)
  · exact refuse_reports told _

end Node

/-! ## Values -/

namespace Tag

theorem refused_reports {α : Type} {kind : String} (text : String) (h : kind ∈ scalarKinds) :
    Reports scalarKinds (refused kind text : Except Defect α) := fails_valueless text h

theorem intIn_reports (base : Nat) (cs : List Char) : Reports scalarKinds (intIn base cs) := by
  have complaint (text : String) : Reports scalarKinds (refused "ValueError" text : Except _ Int) :=
    refused_reports text (by decide)
  unfold intIn
  dsimp only
  refine (complaint _).ite ((complaint _).ite ?_)
  split
  · exact fails_ok _
  · exact complaint _

theorem intOf_reports (s : String) : Reports scalarKinds (intOf s) := by
  have signed (sign : Int) (base : Nat) (cs : List Char) :
      Reports scalarKinds (intIn base cs >>= fun n => pure (sign * n)) :=
    (intIn_reports base cs).bind fun _ => fails_ok _
  unfold intOf
  dsimp only
  split
  · exact refused_reports _ (by decide)
  · split
    · exact refused_reports _ (by decide)
    · exact fails_ok _
    · exact signed _ _ _
    · exact signed _ _ _
    · exact signed _ _ _
    · split
      · exact signed _ _ _
      · refine (fails_foldlM (fun n part => ?_) _ _).bind fun _ => fails_ok _
        exact (intIn_reports _ _).bind fun _ => fails_ok _

theorem floatPart_reports (cs : List Char) : Reports scalarKinds (floatPart cs) := by
  unfold floatPart
  dsimp only
  split
  · exact fails_ok _
  · exact (fails_ok _).ite ((fails_ok _).ite (refused_reports _ (by decide)))

theorem sixtieths_reports (sum : Binary64) (base : Nat) (parts : List Binary64) :
    Reports scalarKinds (sixtieths sum base parts) := by
  fun_induction sixtieths sum base parts with
  | case1 => exact fails_ok _
  | case2 _ _ _ _ _ _ _ _ ih => exact ih
  | case3 => exact refused_reports _ (by decide)

theorem floatOf_reports (s : String) : Reports scalarKinds (floatOf s) := by
  unfold floatOf
  dsimp only
  split
  · exact refused_reports _ (by decide)
  · refine (fails_ok _).ite ((fails_ok _).ite ?_)
    split
    · exact (floatPart_reports _).bind fun _ => fails_ok _
    · refine (fails_mapM floatPart_reports _).bind fun parts => ?_
      exact (sixtieths_reports _ _ _).bind fun _ => fails_ok _

theorem boolOf_reports (s : String) : Reports scalarKinds (boolOf s) :=
  (fails_ok _).ite ((fails_ok _).ite (refused_reports _ (by decide)))

theorem momentOf_reports (s : Stamp) : Reports scalarKinds (momentOf s) := by
  have wrong (text : String) : Reports scalarKinds (refused "ValueError" text : Except _ Value) :=
    refused_reports text (by decide)
  unfold momentOf
  refine (wrong _).ite ((wrong _).ite ((wrong _).ite ((wrong _).ite ?_)))
  split
  · exact fails_ok _
  · exact (wrong _).ite ((wrong _).ite ((wrong _).ite (fails_ok _)))

theorem valueOf_reports (tag : Tag) (text : String) (halves : Option Text.Halves) :
    Reports scalarKinds (valueOf tag text halves) := by
  unfold valueOf
  dsimp only
  split
  · exact fails_ok _
  · exact (boolOf_reports _).map _
  · exact (intOf_reports _).map _
  · exact (floatOf_reports _).map _
  · split
    · exact momentOf_reports _
    · exact refused_reports _ (by decide)
  · refine Fails.ite ?_ fails_malformed
    split
    · exact fails_ok _
    · exact fails_malformed
  · exact fails_ok _
  · exact fails_malformed

end Tag

namespace Node

namespace Layered

variable {α β : Type} {kinds : List String}

/-- Apart from a wrong form, what fails in whatever layer is of one of the kinds. -/
abbrev Tells (kinds : List String) (x : Layered α) : Prop :=
  Fails (fun e : Nat × Defect => e.2.Among kinds) x

theorem malformed_tells : Tells kinds (malformed : Layered α) := fails_error trivial

theorem here_tells {x : Except Defect α} (h : Reports kinds x) : Tells kinds (here x) :=
  h.mapError fun _ among => among

theorem inside_tells {x : Layered α} (h : Tells kinds x) : Tells kinds x.inside :=
  h.mapError fun _ among => among

theorem both_tells {x : Layered α} {y : Layered β} (hx : Tells kinds x)
    (hy : Tells kinds y) : Tells kinds (x.both y) := by
  unfold both
  split
  · exact fails_ok _
  · exact hx.error rfl
  · exact hy.error rfl
  · refine fails_error ?_
    split
    · exact hy _ rfl
    · exact hx _ rfl

theorem asKey_tells {x : Layered Value} (h : Tells kinds x) : Tells kinds x.asKey := by
  unfold asKey
  split
  · exact (fails_ok _).ite malformed_tells
  · exact h.error rfl
  · exact malformed_tells

end Layered

open Layered

/-- The entries of a mapping fail in one of the kinds at most. -/
structure Parts.Tell (kinds : List String) (p : Parts) : Prop where
  merged : Tells kinds p.merged
  own : Tells kinds p.own

variable {kinds : List String}

theorem Parts.Tell.entries {p : Parts} (h : p.Tell kinds) : Tells kinds p.entries :=
  (both_tells h.merged h.own).map _

theorem Parts.Tell.gathered {p : Parts} (h : p.Tell kinds) : Tells kinds p.gathered :=
  (h.entries.map _).ite malformed_tells

mutual

theorem layered_tells : ∀ n : Node, Tells scalarKinds n.layered
  | .loop _ _ => by
    unfold layered
    exact fails_ok _
  | .scalar t s h => by
    unfold layered
    split
    case h_5 => exact here_tells (Tag.valueOf_reports t s h)
    all_goals exact inside_tells malformed_tells
  | .seq t ns => by
    unfold layered
    split
    · exact inside_tells ((values_tells ns).map _)
    · exact inside_tells ((pairs_tells ns).map _)
    · exact inside_tells malformed_tells
    · exact inside_tells malformed_tells
    · exact malformed_tells
  | .map t es => by
    unfold layered
    split
    case h_1 => exact inside_tells ((parts_tells es).gathered.map _)
    case h_2 => exact inside_tells ((parts_tells es).gathered.map _)
    case h_3 => exact inside_tells malformed_tells
    case h_4 => exact inside_tells malformed_tells
    case h_11 =>
      exact (here_tells (Tag.refused_reports _ (by decide))).ite malformed_tells
    case h_12 => exact malformed_tells
    all_goals
      split
      · exact here_tells (Tag.valueOf_reports _ _ _)
      · exact malformed_tells

theorem values_tells : ∀ ns : List Node, Tells scalarKinds (values ns)
  | [] => by
    unfold values
    exact fails_ok _
  | n :: rest => by
    unfold values
    exact (both_tells (layered_tells n) (values_tells rest)).map _

theorem pairs_tells : ∀ ns : List Node, Tells scalarKinds (pairs ns)
  | [] => by
    unfold pairs
    exact fails_ok _
  | .map _ [(k, v)] :: rest => by
    unfold pairs
    have entry := both_tells (layered_tells k) (layered_tells v)
    exact (both_tells entry (pairs_tells rest)).map _
  | .loop _ _ :: rest => by
    unfold pairs
    exact (pairs_tells rest).map _
  | .scalar _ _ _ :: _ | .seq _ _ :: _ | .map _ [] :: _ | .map _ (_ :: _ :: _) :: _ => by
    unfold pairs
    exact malformed_tells

theorem parts_tells : ∀ es : List (Node × Node), (parts es).Tell scalarKinds
  | [] => by
    unfold parts
    exact ⟨fails_ok _, fails_ok _⟩
  | (k, v) :: rest => by
    have others := parts_tells rest
    unfold parts
    dsimp only
    split
    · exact ⟨(both_tells (merged_tells v) others.merged).map _, others.own⟩
    · refine ⟨others.merged, (both_tells (both_tells ?_ (layered_tells v)) others.own).map _⟩
      refine Fails.ite ?_ (asKey_tells (layered_tells k))
      split
      · exact fails_ok _
      · exact malformed_tells

theorem merged_tells : ∀ n : Node, Tells scalarKinds (merged n).2
  | .map _ es => by
    unfold merged
    exact (parts_tells es).entries
  | .seq _ ns => by
    unfold merged
    exact mergedAll_tells ns
  | .loop _ _ => by
    unfold merged
    exact fails_ok _
  | .scalar _ _ _ => by
    unfold merged
    exact malformed_tells

theorem mergedAll_tells : ∀ ns : List Node, Tells scalarKinds (mergedAll ns).2
  | [] => by
    unfold mergedAll
    exact fails_ok _
  | .map _ es :: rest => by
    unfold mergedAll
    exact (both_tells (mergedAll_tells rest) (parts_tells es).entries).map _
  | .loop _ true :: rest => by
    unfold mergedAll
    exact mergedAll_tells rest
  | .loop _ false :: _ | .scalar _ _ _ :: _ | .seq _ _ :: _ => by
    unfold mergedAll
    exact malformed_tells

end

theorem value_reports (n : Node) : Reports scalarKinds n.value :=
  (layered_tells n).mapError fun _ among => among

end Node

/-- The kinds of failure of a text that is read. -/
def readKinds : List String := codeKinds ++ scalarKinds

/-- Whatever the characters of a text are, only these kinds of failure come out of it. -/
theorem read_reports (cs : List Char) : Reports readKinds (read cs) := by
  have stop : (Token.ofText cs).2.Among readKinds :=
    (Token.ofText_among cs).mono (List.subset_append_left _ _)
  refine (Node.ofTokens?_reports stop _).bind fun n => ?_
  cases n with
  | none => exact fails_ok _
  | some n => exact n.value_reports.more (List.subset_append_right _ _)

/-- Each of the kinds comes out of some text. -/
example : (["\"\\UFFFFFFFF\"", "!!int ''", "!!bool maybe", "!!timestamp today", "2001-13-14"].map
    fun s => match read s.toList with
      | .error (.valueless kind _) => kind
      | _ => "")
    = ["OverflowError", "IndexError", "KeyError", "AttributeError", "ValueError"] := by
  decide +kernel

end ClusterOps.Yaml
