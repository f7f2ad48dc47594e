import ClusterOps.Proofs.Tasks.Ends

/-
Runs of trees whose leaves all end. A run ends as the rules for ends say
(`run_ends`); what a group reports is the failure of a leaf that has run, told
once, however deep the leaf stands.
-/

namespace ClusterOps.Tasks

variable {α : Type}

/-! ## Order -/

section Order

variable {β : Type} {atMost : β → β → Bool}

theorem insertBefore_perm (a : β) (bs : List β) :
    (insertBefore atMost a bs).Perm (a :: bs) := by
  induction bs with
  | nil => exact .refl _
  | cons c bs ih =>
    rw [insertBefore]
    split
    case isTrue => exact .refl _
    case isFalse => exact (ih.cons c).trans (.swap a c bs)

/-- Putting elements in order leaves none out, and tells none twice. -/
theorem inOrder_perm (bs : List β) : (inOrder atMost bs).Perm bs := by
  induction bs with
  | nil => exact .refl _
  | cons a bs ih =>
    rw [inOrder, List.foldr_cons, ← inOrder]
    exact (insertBefore_perm a _).trans (ih.cons a)

theorem mem_inOrder {b : β} {bs : List β} : b ∈ inOrder atMost bs ↔ b ∈ bs :=
  (inOrder_perm bs).mem_iff

theorem insertBefore_map {γ : Type} (f : γ → β) (c : γ) (cs : List γ) :
    insertBefore atMost (f c) (cs.map f)
      = (insertBefore (fun a b => atMost (f a) (f b)) c cs).map f := by
  induction cs with
  | nil => rfl
  | cons d cs ih =>
    rw [List.map_cons, insertBefore, insertBefore, ih]
    split <;> rfl

variable (atMost) in
/-- What comes first does not depend on what else is known of the elements. -/
theorem inOrder_map {γ : Type} (f : γ → β) (cs : List γ) :
    inOrder atMost (cs.map f) = (inOrder (fun a b => atMost (f a) (f b)) cs).map f := by
  induction cs with
  | nil => rfl
  | cons c cs ih =>
    rw [List.map_cons, inOrder, inOrder, List.foldr_cons, List.foldr_cons, ← inOrder, ← inOrder,
      ih, insertBefore_map]

/-- The first of some elements in order is at most every one of them. -/
theorem inOrder_first (total : ∀ a b, atMost a b = true ∨ atMost b a = true)
    (trans : ∀ a b c, atMost a b = true → atMost b c = true → atMost a c = true) {bs : List β}
    {a : β} {rest : List β} (h : inOrder atMost bs = a :: rest) : ∀ b ∈ bs, atMost a b = true := by
  induction bs generalizing a rest with
  | nil => simp
  | cons c bs ih =>
    have self : atMost c c = true := (total c c).elim id id
    rw [inOrder, List.foldr_cons, ← inOrder] at h
    intro b hb
    cases hbs : inOrder atMost bs with
    | nil =>
      have empty : b ∉ bs := by
        rw [← mem_inOrder, hbs]
        exact List.not_mem_nil
      rw [hbs, insertBefore] at h
      obtain ⟨rfl, -⟩ := List.cons.inj h
      obtain rfl : b = c := by simpa [empty] using hb
      exact self
    | cons d ds =>
      have below : ∀ b ∈ bs, atMost d b = true := ih hbs
      rw [hbs, insertBefore] at h
      split at h
      case isTrue hcd =>
        obtain ⟨rfl, -⟩ := List.cons.inj h
        rcases List.mem_cons.1 hb with rfl | hb
        · exact self
        · exact trans _ _ _ hcd (below b hb)
      case isFalse hcd =>
        obtain ⟨rfl, -⟩ := List.cons.inj h
        rcases List.mem_cons.1 hb with rfl | hb
        · exact (total b d).resolve_left hcd
        · exact below b hb

end Order

/-! ## Runs -/

/-- The cause that a group reports for the failure of a leaf: a failure of the leaf, unless the leaf
has raised such a failure itself. -/
def Fault.reported (name : α → String) (b : Fault α) : Cause :=
  if b.cause.isTaskFailure then b.cause else .taskFailure (name b.leaf) b.cause

/-- The cause with which a task fails: a leaf with its own. -/
def raised (name : α → String) (b : Fault α) : Tasks α → Cause
  | .leaf _ => b.cause
  | .group _ _ => b.reported name

/-- The time that a leaf takes by itself. -/
def ownSpan (work : α → Rat → Activity) (a : α) (start : Rat) : Span α :=
  ⟨a, start, (work a start).stop, (work a start).finish⟩

/-- A run of a task, from a time on, ends in a certain way; all that its leaves do lies between its
start and its end, and the failure is that of a leaf that has run. -/
structure RunsTo (name : α → String) (work : α → Rat → Activity) (t : Tasks α) (start : Rat)
    (r : Run α) (x : Ending α) : Prop where
  stop : r.stop = some x.time
  done : x.fault = none → r.finish = .done
  failed : ∀ b, x.fault = some b → r.finish = .failed (t.raised name b)
  forward : start ≤ x.time
  within : ∀ s ∈ r.spans, start ≤ s.start ∧ ∃ e, s.stop = some e ∧ s.start ≤ e ∧ e ≤ x.time
  blamed : ∀ b, x.fault = some b → b.leaf ∈ t.leaves ∧
    ∃ s, ownSpan work b.leaf s ∈ r.spans ∧ (work b.leaf s).finish = .failed b.cause

variable {name : α → String} {work : α → Rat → Activity}

theorem RunsTo.finish_eq {t : Tasks α} {start : Rat} {r : Run α} {x : Ending α}
    (h : RunsTo name work t start r x) : r.finish = match x.fault with
      | none => .done
      | some b => .failed (t.raised name b) := by
  cases hx : x.fault with
  | none => exact h.done hx
  | some b => exact h.failed b hx

theorem isTaskFailure_reported (b : Fault α) : (b.reported name).isTaskFailure = true := by
  rw [Fault.reported]
  split
  · assumption
  · rfl

/-- What a group reports for a child does not depend on how deep the leaf stands. -/
theorem report_raised {t : Tasks α} {b : Fault α} (h : b.leaf ∈ t.leaves) (time : Rat)
    (late : Bool) : (report name t time late (t.raised name b)).1 = b.reported name := by
  cases t with
  | leaf a =>
    obtain h : b.leaf = a := by simpa [leaves] using h
    rw [raised, report, Fault.reported]
    split
    · rfl
    · rw [describe, h]
  | group p ts => rw [raised, report, if_pos (isTaskFailure_reported b)]

theorem run_leaf (start : Rat) (a : α) : run name work none start (.leaf a)
    = ⟨[ownSpan work a start], [], (work a start).stop, (work a start).finish⟩ := by
  simp [run, runLeaf, ownSpan]

theorem ends_leaf {a : α} {start e : Rat} (forward : start ≤ e)
    (stop : (work a start).stop = some e) (kept : (work a start).finish ≠ .cancelled) :
    ∃ x, Ends work (.leaf a) start x ∧
      RunsTo name work (.leaf a) start (run name work none start (.leaf a)) x := by
  rw [run_leaf]
  cases finish : (work a start).finish with
  | done => exact ⟨⟨e, none⟩, .done stop finish, by constructor <;> simp_all [ownSpan]⟩
  | failed c =>
    exact ⟨⟨e, some ⟨a, c⟩⟩, .failed stop finish, by
      constructor <;> simp_all [ownSpan, raised, leaves]⟩
  | cancelled => exact absurd finish kept

theorem runInTurn_failed {limit : Option Rat} {t : Tasks α} {start e : Rat} {c : Cause}
    (stop : (run name work limit start t).stop = some e)
    (finish : (run name work limit start t).finish = .failed c) (ts : List (Tasks α)) :
    runInTurn name work limit start (t :: ts) =
      let r := run name work limit start t
      let (failure, notes) := report name t e false c
      ⟨r.spans, r.notes ++ notes, some e, .failed failure⟩ := by
  simp only [runInTurn, stop, finish]

theorem runInTurn_done {limit : Option Rat} {t : Tasks α} {start e : Rat}
    (stop : (run name work limit start t).stop = some e)
    (finish : (run name work limit start t).finish = .done) (ts : List (Tasks α)) :
    runInTurn name work limit start (t :: ts) =
      let r := run name work limit start t
      let rest := runInTurn name work limit e ts
      ⟨r.spans ++ rest.spans, r.notes ++ rest.notes, rest.stop, rest.finish⟩ := by
  simp only [runInTurn, stop, finish]

/-- The first child that fails ends the group with its failure. -/
theorem RunsTo.inTurn_failed {t : Tasks α} {start e : Rat} {b : Fault α}
    (h : RunsTo name work t start (run name work none start t) ⟨e, some b⟩) (ts : List (Tasks α)) :
    RunsTo name work (.group false (t :: ts)) start (runInTurn name work none start (t :: ts))
      ⟨e, some b⟩ := by
  obtain ⟨leaf, ran⟩ := h.blamed b rfl
  rw [runInTurn_failed h.stop (h.failed b rfl)]
  refine ⟨rfl, by simp, ?_, h.forward, h.within, ?_⟩
  · intro d same
    cases same
    exact congrArg Finish.failed (report_raised leaf ..)
  · intro d same
    cases same
    exact ⟨mem_leaves_group.2 ⟨t, List.mem_cons_self, leaf⟩, ran⟩

/-- A child that does not fail is followed by the others. -/
theorem RunsTo.inTurn_done {t : Tasks α} {ts : List (Tasks α)} {start e : Rat} {x : Ending α}
    (h : RunsTo name work t start (run name work none start t) ⟨e, none⟩)
    (rest : RunsTo name work (.group false ts) e (runInTurn name work none e ts) x) :
    RunsTo name work (.group false (t :: ts)) start
      (runInTurn name work none start (t :: ts)) x := by
  rw [runInTurn_done h.stop (h.done rfl)]
  refine ⟨rest.stop, rest.done, rest.failed, h.forward.trans rest.forward, ?_, ?_⟩
  · intro s hs
    rcases List.mem_append.1 hs with hs | hs
    · obtain ⟨hstart, f, hstop, hf, hend⟩ := h.within s hs
      exact ⟨hstart, f, hstop, hf, hend.trans rest.forward⟩
    · obtain ⟨hstart, hstop⟩ := rest.within s hs
      exact ⟨h.forward.trans hstart, hstop⟩
  · intro b hb
    obtain ⟨leaf, s, hs, ran⟩ := rest.blamed b hb
    obtain ⟨u, hu, leaf⟩ := mem_leaves_group.1 leaf
    exact ⟨mem_leaves_group.2 ⟨u, List.mem_cons_of_mem _ hu, leaf⟩, s,
      List.mem_append_right _ hs, ran⟩

/-- Children one after the other. -/
theorem ends_inTurn {ts : List (Tasks α)}
    (h : ∀ t ∈ ts, ∀ start, ∃ x, Ends work t start x ∧
      RunsTo name work t start (run name work none start t) x) (start : Rat) :
    ∃ x, EndsInTurn work ts start x ∧
      RunsTo name work (.group false ts) start (runInTurn name work none start ts) x := by
  induction ts generalizing start with
  | nil => exact ⟨_, .nil, by constructor <;> simp [runInTurn]⟩
  | cons t ts ih =>
    obtain ⟨⟨e, fault⟩, ends, runs⟩ := h t List.mem_cons_self start
    cases fault with
    | some b => exact ⟨_, .failed ends, runs.inTurn_failed ts⟩
    | none =>
      obtain ⟨x, rest, runs'⟩ := ih (fun u hu => h u (List.mem_cons_of_mem _ hu)) e
      exact ⟨x, .next ends rest, runs.inTurn_done runs'⟩

/-! ## Children at once -/

/-- The ends of children, with the runs that have them. -/
def RunEach (name : α → String) (work : α → Rat → Activity) (start : Rat)
    (children : List (Tasks α × Run α)) (xs : List (Ending α)) : Prop :=
  List.Forall₂ (fun c x => RunsTo name work c.1 start c.2 x) children xs

/-- The latest of some ends, and of their common start. -/
theorem foldl_laterEnd {start : Rat} {children : List (Tasks α × Run α)} {xs : List (Ending α)}
    (h : RunEach name work start children xs) (m : Rat) :
    ∃ e, children.foldl (fun e (_, r) => laterEnd e r.stop) (some m) = some e ∧ m ≤ e ∧
      (∀ y ∈ xs, y.time ≤ e) ∧ (e = m ∨ ∃ y ∈ xs, y.time = e) := by
  induction h generalizing m with
  | nil => exact ⟨m, by simp⟩
  | @cons c x children xs hc rest ih =>
    obtain ⟨e, fold, later, latest, last⟩ := ih (Clock.greatest m x.time)
    have hm : m ≤ Clock.greatest m x.time ∧ x.time ≤ Clock.greatest m x.time := by
      rw [Clock.greatest]
      split <;> grind
    refine ⟨e, ?_, hm.1.trans later, ?_, ?_⟩
    · rw [← fold, List.foldl_cons, show c = (c.1, c.2) from rfl]
      simp only [hc.stop, laterEnd]
    · intro y hy
      rcases List.mem_cons.1 hy with rfl | hy
      · exact hm.2.trans later
      · exact latest y hy
    · rcases last with last | ⟨y, hy, last⟩
      · rw [Clock.greatest] at last
        split at last
        · exact .inr ⟨x, List.mem_cons_self, last.symm⟩
        · exact .inl last
      · exact .inr ⟨y, List.mem_cons_of_mem _ hy, last⟩

/-- Children at once have all ended when the last of them has. -/
theorem RunEach.last {start : Rat} {children : List (Tasks α × Run α)} {xs : List (Ending α)}
    (h : RunEach name work start children xs) :
    ∃ e, children.foldl (fun e (_, r) => laterEnd e r.stop) (some start) = some e ∧ start ≤ e ∧
      (∀ y ∈ xs, y.time ≤ e) ∧ (xs = [] → e = start) ∧ (xs ≠ [] → ∃ y ∈ xs, y.time = e) := by
  obtain ⟨e, stop, later, latest, last⟩ := foldl_laterEnd h start
  refine ⟨e, stop, later, latest, ?_, ?_⟩
  · intro empty
    subst empty
    simpa using last
  · intro nonempty
    obtain ⟨y, hy⟩ := List.exists_mem_of_ne_nil xs nonempty
    rcases last with rfl | last
    · -- No child ends before the start, so this one has ended at it.
      obtain ⟨c, -, runs⟩ := exists_related (List.Forall₂.flip h) y hy
      exact ⟨y, hy, le_antisymm (latest y hy) runs.forward⟩
    · exact last

theorem firstCancelled_eq_none {start : Rat} {children : List (Tasks α × Run α)}
    {xs : List (Ending α)} (h : RunEach name work start children xs) :
    firstCancelled children = none := by
  rw [firstCancelled]
  induction h with
  | nil => rfl
  | @cons c x children xs hc rest ih =>
    have kept : (c.2.finish == .cancelled) = false := by
      rw [hc.finish_eq]
      cases x.fault <;> rfl
    simp only [List.foldl_cons, kept, Bool.false_eq_true, if_false]
    exact ih

theorem mem_failures {children : List (Tasks α × Run α)} {t : Tasks α} {e : Rat} {c : Cause} :
    (t, e, c) ∈ failures children ↔
      ∃ r, (t, r) ∈ children ∧ r.stop = some e ∧ r.finish = .failed c := by
  rw [failures, mem_inOrder, List.mem_filterMap]
  constructor
  · intro hk
    obtain ⟨⟨u, r⟩, hr, h⟩ := hk
    cases stop : r.stop <;> cases finish : r.finish <;>
      simp only [stop, finish, Option.some.injEq, Prod.mk.injEq, reduceCtorEq] at h
    obtain ⟨rfl, rfl, rfl⟩ := h
    exact ⟨r, hr, stop, finish⟩
  · intro hk
    obtain ⟨r, hr, stop, finish⟩ := hk
    exact ⟨(t, r), hr, by simp [stop, finish]⟩

/-- A failure among the ends of children is among their failures. -/
theorem RunEach.mem_failures {start : Rat} {children : List (Tasks α × Run α)}
    {xs : List (Ending α)} (h : RunEach name work start children xs) {x : Ending α} (hx : x ∈ xs)
    {b : Fault α} (fault : x.fault = some b) :
    ∃ t, (t, x.time, t.raised name b) ∈ failures children := by
  obtain ⟨⟨t, r⟩, hr, runs⟩ := exists_related (List.Forall₂.flip h) x hx
  exact ⟨t, Tasks.mem_failures.2 ⟨r, hr, runs.stop, runs.failed b fault⟩⟩

/-- The failures of children are those among their ends. -/
theorem RunEach.of_mem_failures {start : Rat} {children : List (Tasks α × Run α)}
    {xs : List (Ending α)} (h : RunEach name work start children xs) {t : Tasks α} {e : Rat}
    {c : Cause} (ht : (t, e, c) ∈ failures children) :
    ∃ r, (t, r) ∈ children ∧ ∃ x ∈ xs, RunsTo name work t start r x ∧
      ∃ b, x.fault = some b ∧ e = x.time ∧ c = t.raised name b := by
  obtain ⟨r, hr, stop, finish⟩ := Tasks.mem_failures.1 ht
  obtain ⟨x, hx, runs⟩ := exists_related h _ hr
  refine ⟨r, hr, x, hx, runs, ?_⟩
  cases fault : x.fault with
  | none => cases finish.symm.trans (runs.done fault)
  | some b =>
    exact ⟨b, rfl, Option.some.inj (stop.symm.trans runs.stop),
      Finish.failed.inj (finish.symm.trans (runs.failed b fault))⟩

/-- The first failure comes no later than any other. -/
theorem failures_first {children : List (Tasks α × Run α)} {t : Tasks α} {e : Rat} {c : Cause}
    {rest : List (Tasks α × Rat × Cause)} (h : failures children = (t, e, c) :: rest) :
    ∀ f ∈ failures children, e ≤ f.2.1 := by
  intro f hf
  have first := inOrder_first (by simp [le_total]) (by simpa using fun _ _ _ => le_trans) h
  simpa using first f (mem_inOrder.1 hf)

/-- How children at once settle is how their ends join. -/
theorem RunEach.settles {start : Rat} {children : List (Tasks α × Run α)} {xs : List (Ending α)}
    (h : RunEach name work start children xs) :
    ((settle name children).1 = .done ∧ ∀ x ∈ xs, x.fault = none) ∨
    ∃ t r, (t, r) ∈ children ∧ ∃ x ∈ xs, RunsTo name work t start r x ∧ ∃ b, x.fault = some b ∧
      (settle name children).1 = .failed (b.reported name) ∧
      ∀ y ∈ xs, y.fault ≠ none → x.time ≤ y.time := by
  rw [settle]
  cases hf : failures children with
  | nil =>
    refine .inl ⟨rfl, fun x hx => ?_⟩
    by_contra fault
    obtain ⟨b, fault⟩ := Option.ne_none_iff_exists'.1 fault
    obtain ⟨t, ht⟩ := h.mem_failures hx fault
    rw [hf] at ht
    cases ht
  | cons f rest =>
    obtain ⟨t, e, c⟩ := f
    obtain ⟨r, hr, x, hx, runs, b, fault, rfl, rfl⟩ :=
      h.of_mem_failures (hf ▸ List.mem_cons_self : (t, e, c) ∈ failures children)
    refine .inr ⟨t, r, hr, x, hx, runs, b, fault, ?_, ?_⟩
    · exact congrArg Finish.failed (report_raised (runs.blamed b fault).1 ..)
    · intro y hy failed
      obtain ⟨d, hd⟩ := Option.ne_none_iff_exists'.1 failed
      obtain ⟨u, hu⟩ := h.mem_failures hy hd
      exact failures_first hf _ hu

/-- Where no child is cancelled nothing is cut off. -/
theorem RunEach.gather_eq {start e : Rat} {children : List (Tasks α × Run α)}
    {xs : List (Ending α)} (h : RunEach name work start children xs)
    (stop : children.foldl (fun e (_, r) => laterEnd e r.stop) (some start) = some e) :
    gather name none start children =
      ⟨children.flatMap fun (_, r) => r.spans,
        children.flatMap (fun (_, r) => r.notes) ++ (settle name children).2, some e,
        (settle name children).1⟩ := by
  simp only [gather, stop, firstCancelled_eq_none h, Option.filter_none, earlier]

theorem RunEach.spans_gather {start : Rat} {children : List (Tasks α × Run α)}
    {xs : List (Ending α)} (h : RunEach name work start children xs) :
    (gather name none start children).spans = children.flatMap fun (_, r) => r.spans := by
  obtain ⟨e, stop, -⟩ := h.last
  rw [h.gather_eq stop]

/-- Children at once end together as they should. -/
theorem RunEach.joins {start : Rat} {children : List (Tasks α × Run α)} {xs : List (Ending α)}
    (h : RunEach name work start children xs) :
    ∃ x, Joins start xs x ∧ RunsTo name work (.group true (children.map Prod.fst)) start
      (gather name none start children) x := by
  obtain ⟨e, stop, later, latest, empty, last⟩ := h.last
  have within : ∀ s ∈ children.flatMap fun (_, r) => r.spans,
      start ≤ s.start ∧ ∃ f, s.stop = some f ∧ s.start ≤ f ∧ f ≤ e := by
    intro s hs
    obtain ⟨⟨t, r⟩, hr, hs⟩ := List.mem_flatMap.1 hs
    obtain ⟨x, hx, runs⟩ := exists_related h _ hr
    obtain ⟨hstart, f, hstop, hf, hend⟩ := runs.within s hs
    exact ⟨hstart, f, hstop, hf, hend.trans (latest x hx)⟩
  rw [h.gather_eq stop]
  rcases h.settles with ⟨done, clean⟩ | ⟨t, r, hr, x, hx, runs, b, fault, failed, first⟩
  · refine ⟨⟨e, none⟩, ⟨empty, last, latest, by simpa using clean, by simp⟩, ?_⟩
    exact ⟨rfl, fun _ => done, by simp, later, within, by simp⟩
  · refine ⟨⟨e, some b⟩, ⟨empty, last, latest, ?_, ?_⟩, ?_⟩
    · simpa using ⟨x, hx, by simp [fault]⟩
    · intro d same
      cases same
      exact ⟨x, hx, fault, first⟩
    · refine ⟨rfl, by simp, ?_, later, within, ?_⟩
      · intro d same
        cases same
        exact failed
      · intro d same
        cases same
        obtain ⟨leaf, s, hs, ran⟩ := runs.blamed b fault
        exact ⟨mem_leaves_group.2 ⟨t, List.mem_map.2 ⟨_, hr, rfl⟩, leaf⟩, s,
          List.mem_flatMap.2 ⟨_, hr, hs⟩, ran⟩

variable (name) in
/-- The runs of children at once have ends. -/
theorem ends_each {ts : List (Tasks α)} {start : Rat}
    (h : ∀ t ∈ ts, ∃ x, Ends work t start x ∧
      RunsTo name work t start (run name work none start t) x) :
    ∃ xs, EndsEach work ts start xs ∧ RunEach name work start (runEach name work start ts) xs := by
  induction ts with
  | nil => exact ⟨[], .nil, by simp [runEach, RunEach]⟩
  | cons t ts ih =>
    obtain ⟨x, ends, runs⟩ := h t List.mem_cons_self
    obtain ⟨xs, rest, runs'⟩ := ih fun u hu => h u (List.mem_cons_of_mem _ hu)
    exact ⟨x :: xs, .cons ends rest, by simpa [runEach, RunEach] using ⟨runs, runs'⟩⟩

theorem runEach_eq_map (start : Rat) (ts : List (Tasks α)) :
    runEach name work start ts = ts.map fun t => (t, run name work none start t) := by
  induction ts with
  | nil => rfl
  | cons t ts ih => rw [runEach, List.map_cons, ih]

theorem map_runEach (start : Rat) (ts : List (Tasks α)) :
    (runEach name work start ts).map Prod.fst = ts := by
  simp [runEach_eq_map, Function.comp_def]

theorem run_serial {limit : Option Rat} (start : Rat) (ts : List (Tasks α)) :
    run name work limit start (.group false ts) = runInTurn name work limit start ts := by
  rw [run]

theorem run_parallel (start : Rat) (ts : List (Tasks α)) :
    run name work none start (.group true ts)
      = gather name none start (runEach name work start ts) := by
  cases ts with
  | nil => rw [run]; rfl
  | cons t ts => rw [run, runEach]

variable (name) in
/-- **Ends of runs.** If every leaf ends, a run ends as the rules say, in one of the ways that they
allow. -/
theorem run_ends {t : Tasks α} (h : Finishing work t) (start : Rat) :
    ∃ x, Ends work t start x ∧ RunsTo name work t start (run name work none start t) x := by
  induction t using induct generalizing start with
  | leaf a =>
    obtain ⟨e, forward, stop, kept⟩ := h a (by simp [leaves]) start
    exact ends_leaf forward stop kept
  | group p ts ih =>
    have each : ∀ t ∈ ts, ∀ start, ∃ x, Ends work t start x ∧
        RunsTo name work t start (run name work none start t) x :=
      fun t ht => ih t ht (h.child ht)
    cases p with
    | false =>
      obtain ⟨x, ends, runs⟩ := ends_inTurn each start
      exact ⟨x, .serial ends, by rwa [run_serial]⟩
    | true =>
      obtain ⟨xs, ends, runs⟩ := ends_each name fun t ht => each t ht start
      obtain ⟨x, joins, runs'⟩ := runs.joins
      rw [map_runEach] at runs'
      exact ⟨x, .parallel ends joins, by rwa [run_parallel]⟩

variable (name) in
/-- **Failures of runs.** If every leaf ends, and none raises a failure of a task itself, the run of
a group ends as the rules say, and what it fails with is one failure of a task: that of a leaf that
has run, with the cause that the leaf itself has failed with. -/
theorem run_failure {p : Bool} {ts : List (Tasks α)} (h : Finishing work (.group p ts))
    (plain : ∀ a ∈ (group p ts).leaves, ∀ start c, (work a start).finish = .failed c →
      c.isTaskFailure = false) (start : Rat) :
    ∃ x, Ends work (.group p ts) start x ∧
      (run name work none start (.group p ts)).stop = some x.time ∧
      (x.fault = none → (run name work none start (.group p ts)).finish = .done) ∧
      ∀ b, x.fault = some b →
        (run name work none start (.group p ts)).finish
          = .failed (.taskFailure (name b.leaf) b.cause) ∧
        b.cause.isTaskFailure = false ∧ b.leaf ∈ (group p ts).leaves ∧
        ∃ s, ownSpan work b.leaf s ∈ (run name work none start (.group p ts)).spans ∧
          (work b.leaf s).finish = .failed b.cause := by
  obtain ⟨x, ends, runs⟩ := run_ends name h start
  refine ⟨x, ends, runs.stop, runs.done, fun b fault => ?_⟩
  obtain ⟨leaf, s, ran, failed⟩ := runs.blamed b fault
  have own : b.cause.isTaskFailure = false := plain b.leaf leaf s b.cause failed
  have reported : b.reported name = .taskFailure (name b.leaf) b.cause := by
    simp [Fault.reported, own]
  refine ⟨?_, own, leaf, s, ran, failed⟩
  rw [runs.failed b fault, raised, reported]

/-- A leaf that fails early in a group that ends late loses against a later leaf beside it. -/
theorem run_failure_nested :
    let work : String × Rat × Bool → Rat → Activity := fun a start =>
      ⟨some (start + a.2.1), if a.2.2 then .failed (.provider a.1) else .done, false⟩
    let slow : List (Tasks (String × Rat × Bool)) :=
      [.leaf ("early", 1, true), .leaf ("slow", 5, false)]
    let ts : List (Tasks (String × Rat × Bool)) := [.group true slow, .leaf ("late", 2, true)]
    (Finishing work (.group true ts) ∧ ∀ a ∈ (group true ts).leaves, ∀ start c,
      (work a start).finish = .failed c → c.isTaskFailure = false) ∧
    (run Prod.fst work none 0 (.group true ts)).finish
      = .failed (.taskFailure "late" (.provider "late")) ∧
    ∃ x, Ends work (.group true ts) 0 x ∧ x.time = 5 ∧ ∃ b, x.fault = some b ∧
      b.leaf.1 = "late" := by
  intro work slow ts
  have forward : ∀ a ∈ (group true ts).leaves, 0 ≤ a.2.1 := by decide +kernel
  have finishing : Finishing work (.group true ts) := fun a ha start =>
    ⟨start + a.2.1, by simpa using forward a ha, rfl, by simp only [work]; split <;> simp⟩
  have plain : ∀ a ∈ (group true ts).leaves, ∀ start c,
      (work a start).finish = .failed c → c.isTaskFailure = false := by
    intro a _ start c hc
    simp only [work] at hc
    split at hc <;> cases hc
    rfl
  have stop : (run Prod.fst work none 0 (.group true ts)).stop = some 5 := by decide +kernel
  have finish : (run Prod.fst work none 0 (.group true ts)).finish
      = .failed (.taskFailure "late" (.provider "late")) := by decide +kernel
  obtain ⟨x, ends, time, clean, failed⟩ := run_failure Prod.fst finishing plain 0
  refine ⟨⟨finishing, plain⟩, finish, x, ends, Option.some.inj (time.symm.trans stop), ?_⟩
  cases fault : x.fault with
  | none => cases finish.symm.trans (clean fault)
  | some b =>
    have same := finish.symm.trans (failed b fault).1
    simp only [Finish.failed.injEq, Cause.taskFailure.injEq] at same
    exact ⟨b, rfl, same.1.symm⟩

end ClusterOps.Tasks
