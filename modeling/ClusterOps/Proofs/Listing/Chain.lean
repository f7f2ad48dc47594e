import ClusterOps.Listing

/-
The calls of a listing. Were there no limit they would form a chain: the first call
has the empty token, and behind every page with a next token there is a call with
this token, made in the state that the page has left. A listing makes the calls of
this chain and no others, up to its end or to the limit, and comes to what the last
of them comes to (`paginate_chain`). The page calls are not told apart from each
other by their tokens alone: a call may answer the same token differently each time.

The calls are seen by noting them beside the state (`noted`).
-/

namespace ClusterOps.Listing

variable {α σ : Type}

/-- A page call: its token, and the state in which it is made. -/
structure PageCall (σ : Type) where
  token : Value
  state : σ

/-- The call with which a listing begins. -/
def firstCall (s : σ) : PageCall σ := ⟨firstToken, s⟩

namespace PageCall

variable (ask : σ → Value → Outcome (Page α) × σ)

/-- What comes of a call. -/
def answer (c : PageCall σ) : Outcome (Page α) := (ask c.state c.token).1

/-- The state that a call leaves. -/
def left (c : PageCall σ) : σ := (ask c.state c.token).2

/-- The items of the page that a call is answered with. -/
def items (c : PageCall σ) : List α := ((c.answer ask).value?.map Page.items).getD []

/-- The call behind a call. There is none behind a page without a next token, and none behind a
call that is not answered with a page. -/
def next? (c : PageCall σ) : Option (PageCall σ) :=
  (c.answer ask).value?.bind fun p =>
    if p.next.isTruthy then some ⟨p.next, c.left ask⟩ else none

/-- The calls from a call on, counted from 0. -/
def chain? (c : PageCall σ) : Nat → Option (PageCall σ)
  | 0 => some c
  | n + 1 => (c.next? ask).bind fun d => chain? d n

/-- The first calls from a call on, so many of them if the chain is as long. -/
def upTo (c : PageCall σ) (n : Nat) : List (PageCall σ) :=
  (List.range n).filterMap (c.chain? ask)

end PageCall

/-- Page calls that are noted beside the state. -/
def noted (ask : σ → Value → Outcome (Page α) × σ) (s : σ × List (PageCall σ)) (token : Value) :
    Outcome (Page α) × (σ × List (PageCall σ)) :=
  let (answer, state) := ask s.1 token
  (answer, (state, s.2 ++ [⟨token, s.1⟩]))

section Chain

variable {ask : σ → Value → Outcome (Page α) × σ} {c d : PageCall σ}

namespace PageCall

theorem upTo_succ (n : Nat) :
    c.upTo ask (n + 1) = c :: (c.next? ask).elim [] fun d => d.upTo ask n := by
  rw [upTo, List.range_succ_eq_map, List.filterMap_cons, List.filterMap_map]
  cases next : c.next? ask with
  | none => simp [chain?, next, Function.comp_def]
  | some d => simp [chain?, next, Function.comp_def, upTo]

theorem chain?_succ (n : Nat) : c.chain? ask (n + 1) = (c.chain? ask n).bind (next? ask) := by
  induction n generalizing c with
  | zero => simp [chain?]
  | succ n ih =>
    rw [chain?, chain?, Option.bind_assoc]
    exact congrArg _ (funext fun d => ih)

/-- A chain that does not end within so many calls is as long. -/
theorem isSome_chain? {n : Nat}
    (goes : ∀ m < n, ∀ d, c.chain? ask m = some d → d.next? ask ≠ none) :
    (c.chain? ask n).isSome := by
  induction n with
  | zero => rfl
  | succ n ih =>
    obtain ⟨d, reached⟩ := Option.isSome_iff_exists.1 (ih fun m hm => goes m (by omega))
    rw [chain?_succ, reached, Option.bind_some]
    exact Option.isSome_iff_ne_none.2 (goes n (by omega) d reached)

theorem upTo_concat {n : Nat} (h : c.chain? ask n = some d) :
    c.upTo ask (n + 1) = c.upTo ask n ++ [d] := by
  rw [upTo, List.range_succ, List.filterMap_append, upTo]
  simp [h]

/-- As long as the chain goes on there are as many calls as are counted. -/
theorem length_upTo {n : Nat} (h : (c.chain? ask n).isSome) : (c.upTo ask n).length = n := by
  induction n with
  | zero => rfl
  | succ n ih =>
    obtain ⟨e, reached⟩ := Option.isSome_iff_exists.1 h
    rw [chain?_succ] at reached
    obtain ⟨d, reached, -⟩ := Option.bind_eq_some_iff.1 reached
    rw [upTo_concat reached, List.length_append, ih (by simp [reached]), List.length_singleton]

end PageCall

/-! ## A listing from a call on -/

/-- Noting the calls makes no difference to a listing. -/
theorem follow_unnoted (left : Nat) (token : Value) (pages : List (List α))
    (s : σ × List (PageCall σ)) :
    let run := follow (noted ask) left token pages s
    (run.1, run.2.1) = follow ask left token pages s.1 := by
  induction left generalizing token pages s with
  | zero => rfl
  | succ left ih =>
    simp only [follow, noted]
    cases ask s.1 token with
    | mk answer state =>
      cases answer with
      | done p =>
        dsimp only
        split
        · exact ih ..
        · rfl
      | failed | cancelled | hung => rfl

/-- Behind a page with a next token a listing goes on with the next call. -/
theorem follow_next (h : c.next? ask = some d) (left : Nat) (pages : List (List α))
    (calls : List (PageCall σ)) :
    follow (noted ask) (left + 1) c.token pages (c.state, calls)
      = follow (noted ask) left d.token (c.items ask :: pages) (d.state, calls ++ [c]) := by
  obtain ⟨p, page, goes⟩ := Option.bind_eq_some_iff.1 h
  obtain ⟨truthy, next⟩ := Option.ite_none_right_eq_some.1 goes
  obtain rfl := Option.some.inj next
  have answer : c.answer ask = .done p := by
    cases answer : c.answer ask <;> simp_all [Outcome.value?]
  have asked : ask c.state c.token = (.done p, c.left ask) := Prod.ext answer rfl
  have items : c.items ask = p.items := by rw [PageCall.items, page]; rfl
  simp only [follow, noted, asked, if_pos truthy, items]

/-- A call without a next one is the end of a listing. -/
theorem follow_last (h : c.next? ask = none) (left : Nat) (pages : List (List α))
    (calls : List (PageCall σ)) :
    follow (noted ask) (left + 1) c.token pages (c.state, calls)
      = ((c.answer ask).map fun p => joined pages ++ p.items, (c.left ask, calls ++ [c])) := by
  have asked : ask c.state c.token = (c.answer ask, c.left ask) := rfl
  simp only [follow, noted, asked]
  cases answer : c.answer ask with
  | done p =>
    have last : p.next.isTruthy = false := by
      simpa [PageCall.next?, answer, Outcome.value?] using h
    simp [last, Outcome.map]
  | failed | cancelled | hung => rfl

/-- A listing whose chain ends within the limit makes all calls of the chain and comes to what the
last one comes to. -/
theorem follow_ended {n left : Nat} (within : n < left) {last : PageCall σ}
    (reached : c.chain? ask n = some last) (ended : last.next? ask = none) (pages : List (List α))
    (calls : List (PageCall σ)) :
    follow (noted ask) left c.token pages (c.state, calls)
      = ((last.answer ask).map fun p =>
            joined pages ++ (c.upTo ask n).flatMap (PageCall.items ask) ++ p.items,
          (last.left ask, calls ++ c.upTo ask (n + 1))) := by
  induction n generalizing c left pages calls with
  | zero =>
    obtain ⟨left, rfl⟩ := Nat.exists_eq_add_of_le' within
    obtain rfl := Option.some.inj reached
    rw [follow_last ended, PageCall.upTo_succ, ended]
    simp [PageCall.upTo]
  | succ n ih =>
    obtain ⟨left, rfl⟩ := Nat.exists_eq_add_of_le' (show 1 ≤ left by omega)
    obtain ⟨d, next, rest⟩ := Option.bind_eq_some_iff.1 reached
    rw [follow_next next, ih (by omega) rest, c.upTo_succ (n + 1), c.upTo_succ n, next]
    simp [List.append_assoc]

/-- A listing whose chain does not end within the limit makes as many calls as the limit allows and
fails. -/
theorem follow_endless {left : Nat} (endless : (c.chain? ask left).isSome) (pages : List (List α))
    (calls : List (PageCall σ)) :
    ∃ s, follow (noted ask) left c.token pages (c.state, calls)
      = (.failed (.endlessListing limit), (s, calls ++ c.upTo ask left)) := by
  induction left generalizing c pages calls with
  | zero => exact ⟨c.state, by simp [follow, PageCall.upTo]⟩
  | succ left ih =>
    obtain ⟨e, reached⟩ := Option.isSome_iff_exists.1 endless
    obtain ⟨d, next, rest⟩ := Option.bind_eq_some_iff.1 reached
    obtain ⟨s, run⟩ := ih (c := d) (by simp [rest]) (c.items ask :: pages) (calls ++ [c])
    refine ⟨s, ?_⟩
    rw [follow_next next, run, PageCall.upTo_succ, next, Option.elim_some, List.append_assoc]
    rfl

end Chain

/-- **A listing follows the chain of its tokens.** If the chain of page calls ends with a call
within the limit, a listing makes exactly the calls up to this one; it comes to the items of all
their pages in the order of the calls, or to the failure of the last call. If it does not, a
listing makes exactly as many calls as the limit allows and fails. -/
theorem paginate_chain (ask : σ → Value → Outcome (Page α) × σ) (s : σ) :
    let first := firstCall s
    let run := paginate (noted ask) (s, [])
    let calls := run.2.2
    (run.1, run.2.1) = paginate ask s ∧
      (∀ n < limit, ∀ last, first.chain? ask n = some last → last.next? ask = none →
        calls = first.upTo ask (n + 1) ∧ calls.length = n + 1 ∧
          paginate ask s = ((last.answer ask).map fun p =>
            (first.upTo ask n).flatMap (PageCall.items ask) ++ p.items, last.left ask)) ∧
      ((∀ n < limit, ∀ c, first.chain? ask n = some c → c.next? ask ≠ none) →
        calls = first.upTo ask limit ∧ calls.length = limit ∧
          (paginate ask s).1 = .failed (.endlessListing limit)) := by
  intro first run calls
  have same : (run.1, run.2.1) = paginate ask s := follow_unnoted ..
  refine ⟨same, fun n within last reached ended => ?_, fun goes => ?_⟩
  · have listed : run = _ := follow_ended (c := first) within reached ended [] []
    have made : calls = first.upTo ask (n + 1) := by simp [calls, listed]
    have count : (first.upTo ask (n + 1)).length = n + 1 := by
      rw [PageCall.upTo_concat reached, List.length_append,
        PageCall.length_upTo (by simp [reached]), List.length_singleton]
    exact ⟨made, made ▸ count, by simp [← same, listed, joined]⟩
  · have endless := PageCall.isSome_chain? goes
    obtain ⟨t, listed⟩ := follow_endless endless [] []
    have listed : run = _ := listed
    have made : calls = first.upTo ask limit := by simp [calls, listed]
    exact ⟨made, made ▸ PageCall.length_upTo endless, by simp [← same, listed]⟩

/-! ## The limit -/

/-- Page calls that are answered with so many pages in all, each with its number. -/
def numbered (total n : Nat) (_ : Value) : Outcome (Page Nat) × Nat :=
  (.done ⟨[n], if n + 1 < total then .text "more" else .null⟩, n + 1)

theorem chain?_numbered {total n : Nat} (h : n < total) :
    (firstCall 0).chain? (numbered total) n
      = some ⟨if n = 0 then firstToken else .text "more", n⟩ := by
  induction n with
  | zero => rfl
  | succ n ih =>
    rw [PageCall.chain?_succ, ih (by omega), Option.bind_some]
    simp [PageCall.next?, PageCall.answer, PageCall.left, numbered, Outcome.value?, h,
      Value.isTruthy]

theorem items_numbered {total n : Nat} (h : n ≤ total) :
    ((firstCall 0).upTo (numbered total) n).flatMap (PageCall.items (numbered total))
      = List.range n := by
  induction n with
  | zero => rfl
  | succ n ih =>
    rw [PageCall.upTo_concat (chain?_numbered h), List.flatMap_append, ih (by omega),
      List.range_succ]
    rfl

/-- A listing whose last page is at the limit succeeds with the items of all pages, and one with a
page more fails. -/
theorem paginate_chain_at_limit :
    (paginate (numbered 10000) 0).1 = .done (List.range 10000) ∧
      (paginate (numbered 10001) 0).1 = .failed (.endlessListing 10000) := by
  obtain ⟨-, ended, -⟩ := paginate_chain (numbered 10000) 0
  obtain ⟨-, -, endless⟩ := paginate_chain (numbered 10001) 0
  obtain ⟨-, -, listed⟩ := ended 9999 (by decide) _ (chain?_numbered (by decide)) rfl
  obtain ⟨-, -, refused⟩ := endless fun n within c reached => by
    have more : n + 1 < 10001 := Nat.succ_lt_succ within
    rw [chain?_numbered (by omega)] at reached
    obtain rfl := Option.some.inj reached
    simp [PageCall.next?, PageCall.answer, numbered, Outcome.value?, more, Value.isTruthy]
  refine ⟨?_, refused⟩
  rw [listed, items_numbered (by decide)]
  exact congrArg Outcome.done List.range_succ.symm

end ClusterOps.Listing
