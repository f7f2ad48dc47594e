import ClusterOps.Proofs.Tasks.Cutoff

/-
What can become of a task that is run with a limit: it ends by itself, it is
cancelled, or it goes on for ever (`Fate`). The leaves begin as they would in a
task that is never cancelled (`Begins`), and it is the first cancellation that
counts, from outside or by a leaf that has begun (`FirstCancel`). A run cuts off
each group at once on its own, the inner ones before the outer ones; the fate of
a group follows from the fates of its children, one lemma for each way in which
a group can go on after a child.
-/

namespace ClusterOps.Tasks

variable {α : Type}

/-! ## Cancellations -/

/-- A leaf whose work is instant ends when it starts. -/
def Prompt (work : α → Rat → Activity) (t : Tasks α) : Prop :=
  ∀ a ∈ t.leaves, ∀ start, (work a start).instant = true → (work a start).stop = some start

theorem Prompt.child {work : α → Rat → Activity} {p : Bool} {ts : List (Tasks α)}
    (h : Prompt work (.group p ts)) {t : Tasks α} (ht : t ∈ ts) : Prompt work t :=
  fun a ha => h a (mem_leaves_group.2 ⟨t, ht, ha⟩)

/-- A leaf that has begun cancels itself at a time. -/
def Cancels (work : α → Rat → Activity) (t : Tasks α) (start c : Rat) : Prop :=
  ∃ q s, Starts work t start q s ∧ s.stop = some c ∧ s.finish = .cancelled

/-- The first time at which a task is cancelled, from outside or by a leaf that has begun. -/
structure FirstCancel (work : α → Rat → Activity) (limit : Option Rat) (t : Tasks α)
    (start c : Rat) : Prop where
  started : start ≤ c
  cause : limit = some c ∨ Cancels work t start c
  outside : ∀ l, limit = some l → c ≤ l
  inside : ∀ d, Cancels work t start d → c ≤ d

/-- What can become of a task that is run with a limit: it ends by itself, it is cancelled, or it
goes on for ever. Where it would end at the limit it can also be cancelled. -/
inductive Fate (name : α → String) (work : α → Rat → Activity) (limit : Option Rat) (t : Tasks α)
    (start : Rat) : Prop
  | ended {x} (ends : Ends work t start x) (early : ∀ l, limit = some l → x.time ≤ l)
      (same : run name work limit start t = run name work none start t)
      (runs : RunsTo name work t start (run name work none start t) x)
      (shows : Shows (Starts work t start) none (run name work none start t).spans)
  | cancelled {c} (first : FirstCancel work limit t start c)
      (running : ∀ x, Ends work t start x → c ≤ x.time)
      (stop : (run name work limit start t).stop = some c)
      (finish : (run name work limit start t).finish = .cancelled)
      (shows : Shows (Starts work t start) (some c) (run name work limit start t).spans)
  | endless (free : limit = none) (never : ∀ x, ¬ Ends work t start x)
      (kept : ∀ c, ¬ Cancels work t start c)
      (stop : (run name work limit start t).stop = none)
      (shows : Shows (Starts work t start) none (run name work limit start t).spans)

variable {name : α → String} {work : α → Rat → Activity}

theorem FirstCancel.unique {limit : Option Rat} {t : Tasks α} {start c d : Rat}
    (hc : FirstCancel work limit t start c) (hd : FirstCancel work limit t start d) : c = d :=
  le_antisymm (hd.cause.elim (hc.outside d) (hc.inside d))
    (hc.cause.elim (hd.outside c) (hd.inside c))

theorem Starts.leaf_iff {start : Rat} {a : α} {q : Path} {s : Span α} :
    Starts work (.leaf a) start q s ↔ q = [] ∧ s = ownSpan work a start := by
  constructor
  · intro h
    obtain ⟨b, time, begins, rfl⟩ := h
    cases begins
    exact ⟨rfl, rfl⟩
  · intro h
    obtain ⟨rfl, rfl⟩ := h
    exact ⟨a, start, .root, rfl⟩

theorem cancels_leaf {a : α} {start c : Rat} : Cancels work (.leaf a) start c ↔
    (work a start).stop = some c ∧ (work a start).finish = .cancelled := by
  constructor
  · intro h
    obtain ⟨q, s, starts, h⟩ := h
    obtain ⟨rfl, rfl⟩ := Starts.leaf_iff.1 starts
    exact h
  · exact fun h => ⟨[], _, Starts.leaf_iff.2 ⟨rfl, rfl⟩, h⟩

/-- A leaf starts no earlier than its tree. -/
theorem Starts.forward {t : Tasks α} {start : Rat} {q : Path} {s : Span α} (h : Forward work t)
    (starts : Starts work t start q s) : start ≤ s.start := by
  obtain ⟨a, time, begins, rfl⟩ := starts
  exact begins.forward h

theorem Cancels.forward {t : Tasks α} {start c : Rat} (h : Forward work t)
    (cancels : Cancels work t start c) : start ≤ c := by
  obtain ⟨q, s, starts, stop, -⟩ := cancels
  have first := starts.forward h
  obtain ⟨a, time, begins, rfl⟩ := starts
  exact first.trans (h a (mem_leaves_of_at? begins.at? (by simp [leaves])) time c stop)

theorem cancels_parallel {ts : List (Tasks α)} {start c : Rat} :
    Cancels work (.group true ts) start c ↔ ∃ t ∈ ts, Cancels work t start c := by
  constructor
  · intro h
    obtain ⟨q, s, starts, h⟩ := h
    obtain ⟨i, t, child, u, rfl, below⟩ := starts_parallel.1 starts
    exact ⟨t, List.mem_of_getElem? child, u, s, below, h⟩
  · intro h
    obtain ⟨t, ht, q, s, starts, h⟩ := h
    obtain ⟨i, child⟩ := List.mem_iff_getElem?.1 ht
    exact ⟨i :: q, s, starts_parallel.2 ⟨i, t, child, q, rfl, starts⟩, h⟩

/-- The path of a node if one more child is put in front. -/
def next : Path → Path
  | [] => []
  | i :: q => (i + 1) :: q

theorem next_injective : Function.Injective next := by
  intro p q same
  cases p <;> cases q <;> simp_all [next]

/-- Of children one after the other, the first starts at once, and the others when it has ended
without a failure. -/
theorem starts_cons {t : Tasks α} {ts : List (Tasks α)} {start : Rat} {q : Path} {s : Span α} :
    Starts work (.group false (t :: ts)) start q s ↔
      (∃ u, q = 0 :: u ∧ Starts work t start u s) ∨
        ∃ e, Ends work t start ⟨e, none⟩ ∧
          ∃ u, q = next u ∧ Starts work (.group false ts) e u s := by
  rw [starts_serial]
  constructor
  · intro h
    obtain ⟨i, c, child, m, u, rfl, passed, starts⟩ := h
    cases passed with
    | zero =>
      obtain rfl : t = c := by simpa using child
      exact .inl ⟨u, rfl, starts⟩
    | succ ends rest =>
      refine .inr ⟨_, ends, _ :: u, rfl, starts_serial.2 ⟨_, c, ?_, m, u, rfl, rest, starts⟩⟩
      simpa using child
  · intro h
    rcases h with ⟨u, rfl, starts⟩ | ⟨e, ends, u, rfl, starts⟩
    · exact ⟨0, t, rfl, start, u, rfl, .zero, starts⟩
    · obtain ⟨i, c, child, m, u, rfl, passed, starts⟩ := starts_serial.1 starts
      exact ⟨i + 1, c, by simpa using child, m, u, rfl, .succ ends passed, starts⟩

theorem cancels_cons {t : Tasks α} {ts : List (Tasks α)} {start c : Rat} :
    Cancels work (.group false (t :: ts)) start c ↔ Cancels work t start c ∨
      ∃ e, Ends work t start ⟨e, none⟩ ∧ Cancels work (.group false ts) e c := by
  constructor
  · intro h
    obtain ⟨q, s, starts, h⟩ := h
    rcases starts_cons.1 starts with ⟨u, rfl, below⟩ | ⟨e, ends, u, rfl, below⟩
    · exact .inl ⟨u, s, below, h⟩
    · exact .inr ⟨e, ends, u, s, below, h⟩
  · intro h
    rcases h with ⟨u, s, starts, h⟩ | ⟨e, ends, u, s, starts, h⟩
    · exact ⟨0 :: u, s, starts_cons.2 (.inl ⟨u, rfl, starts⟩), h⟩
    · exact ⟨next u, s, starts_cons.2 (.inr ⟨e, ends, u, rfl, starts⟩), h⟩

mutual

/-- In a task that ends no leaf cancels itself. -/
theorem Ends.not_cancels {t : Tasks α} {start : Rat} {x : Ending α} (ends : Ends work t start x)
    (c : Rat) : ¬ Cancels work t start c := by
  cases ends with
  | done _ finish =>
    rw [cancels_leaf, finish]
    simp
  | failed _ finish =>
    rw [cancels_leaf, finish]
    simp
  | serial ends => exact ends.not_cancels c
  | parallel ends joins =>
    rw [cancels_parallel]
    intro h
    obtain ⟨t, ht, cancels⟩ := h
    exact ends.not_cancels c t ht cancels

theorem EndsInTurn.not_cancels {ts : List (Tasks α)} {start : Rat} {x : Ending α}
    (ends : EndsInTurn work ts start x) (c : Rat) : ¬ Cancels work (.group false ts) start c := by
  cases ends with
  | nil =>
    intro h
    obtain ⟨q, s, starts, -⟩ := h
    obtain ⟨i, t, child, -⟩ := starts_serial.1 starts
    cases child
  | failed ends =>
    rw [cancels_cons]
    intro h
    rcases h with cancels | ⟨e, clean, -⟩
    · exact ends.not_cancels c cancels
    · exact absurd ((ends.agree clean).clean.2 rfl) (by simp)
  | next ends rest =>
    rw [cancels_cons]
    intro h
    rcases h with cancels | ⟨e, ends', cancels⟩
    · exact ends.not_cancels c cancels
    · obtain rfl := (ends.agree ends').time
      exact rest.not_cancels c cancels

theorem EndsEach.not_cancels {ts : List (Tasks α)} {start : Rat} {xs : List (Ending α)}
    (ends : EndsEach work ts start xs) (c : Rat) : ∀ t ∈ ts, ¬ Cancels work t start c := by
  cases ends with
  | nil => simp
  | cons ends rest =>
    exact List.forall_mem_cons.2 ⟨ends.not_cancels c, rest.not_cancels c⟩

end

/-- The one span of a leaf. -/
theorem shows_leaf {a : α} {start : Rat} {limit : Option Rat} {s : Span α}
    (started : ∀ c, limit = some c → start ≤ c)
    (seen : SeenUntil limit (ownSpan work a start) s) :
    Shows (Starts work (.leaf a) start) limit [s] := by
  refine ⟨fun q u => q = [] ∧ u = s, ⟨[([], s)], rfl, by simp, by simp⟩, ?_, ?_⟩
  · intro q u hu
    obtain ⟨rfl, rfl⟩ := hu
    exact ⟨_, Starts.leaf_iff.2 ⟨rfl, rfl⟩, started, seen⟩
  · intro q o ho _
    obtain ⟨rfl, rfl⟩ := Starts.leaf_iff.1 ho
    exact ⟨s, ⟨rfl, rfl⟩, seen⟩

theorem Ends.leaf_stop {a : α} {start : Rat} {x : Ending α} (h : Ends work (.leaf a) start x) :
    (work a start).stop = some x.time ∧ (work a start).finish ≠ .cancelled := by
  cases h with
  | done stop finish => exact ⟨stop, by simp [finish]⟩
  | failed stop finish => exact ⟨stop, by simp [finish]⟩

/-- A limit that a task does not reach changes nothing. -/
theorem Fate.limited {t : Tasks α} {start l e : Rat} (h : Fate name work none t start)
    (same : run name work (some l) start t = run name work none start t)
    (stop : (run name work none start t).stop = some e) (early : e ≤ l) :
    Fate name work (some l) t start := by
  have within : ∀ {d}, (run name work none start t).stop = some d → ∀ m, some l = some m →
      d ≤ m := by
    intro d stop' m hm
    obtain rfl := Option.some.inj (stop.symm.trans stop')
    exact early.trans (Option.some.inj hm).le
  cases h with
  | ended ends _ _ runs shows => exact .ended ends (within runs.stop) same runs shows
  | cancelled first running stop finish shows =>
    have cause := first.cause.resolve_left (by simp)
    rw [← same] at finish shows
    exact .cancelled ⟨first.started, .inr cause, within stop, first.inside⟩ running
      (same ▸ stop) finish shows
  | endless _ _ _ never => cases stop.symm.trans never

/-! ## Leaves -/

theorem fate_leaf_free {a : α} (forward : Forward work (.leaf a)) (start : Rat) :
    Fate name work none (.leaf a) start := by
  have whole : run name work none start (.leaf a) = _ := run_leaf start a
  have shown (limit : Option Rat) (started : ∀ c, limit = some c → start ≤ c)
      (early : ∀ c, limit = some c → ∃ e, (work a start).stop = some e ∧ e ≤ c) :
      Shows (Starts work (.leaf a) start) limit (run name work none start (.leaf a)).spans := by
    rw [whole]
    exact shows_leaf started (.ended early)
  cases stop : (work a start).stop with
  | none =>
    refine .endless rfl (fun x ends => ?_) (fun c cancels => ?_) (by rw [whole]; exact stop)
      (shown none (by simp) (by simp))
    · cases stop.symm.trans ends.leaf_stop.1
    · cases stop.symm.trans (cancels_leaf.1 cancels).1
  | some e =>
    have start_le : start ≤ e := forward a (by simp [leaves]) start e stop
    by_cases own : (work a start).finish = .cancelled
    case pos =>
      refine .cancelled ⟨start_le, .inr (cancels_leaf.2 ⟨stop, own⟩), by simp, fun d cancels => ?_⟩
        (fun x ends => absurd own ends.leaf_stop.2) (by rw [whole]; exact stop)
        (by rw [whole]; exact own) (shown (some e) ?_ ?_)
      · exact (Option.some.inj (stop.symm.trans (cancels_leaf.1 cancels).1)).le
      · exact fun c same => Option.some.inj same ▸ start_le
      · exact fun c same => ⟨e, stop, (Option.some.inj same).le⟩
    case neg =>
      obtain ⟨x, ends, runs⟩ : ∃ x, Ends work (.leaf a) start x ∧
          RunsTo name work (.leaf a) start (run name work none start (.leaf a)) x :=
        ends_leaf start_le stop own
      exact .ended ends (by simp) rfl runs (shown none (by simp) (by simp))

/-- A leaf is cut off at a limit that it reaches, if its work is not instant. -/
theorem fate_leaf {a : α} {start : Rat} {limit : Option Rat} (forward : Forward work (.leaf a))
    (prompt : Prompt work (.leaf a)) (started : ∀ l, limit = some l → start ≤ l) :
    Fate name work limit (.leaf a) start := by
  have free : Fate name work none (.leaf a) start := fate_leaf_free forward start
  cases limit with
  | none => exact free
  | some l =>
    have whole : run name work none start (.leaf a) = _ := run_leaf start a
    by_cases instant : (work a start).instant = true
    case pos =>
      have stop := prompt a (by simp [leaves]) start instant
      refine free.limited ?_ (by rw [whole]; exact stop) (started l rfl)
      simp [run, runLeaf, Option.filter_some, instant]
    case neg =>
      by_cases longer : ∀ e, (work a start).stop = some e → l ≤ e
      case pos =>
        have reached : (work a start).stop.all (l ≤ ·) = true := by
          cases h : (work a start).stop <;> simp_all
        have cut : run name work (some l) start (.leaf a)
            = ⟨[⟨a, start, some l, .cancelled⟩], [], some l, .cancelled⟩ := by
          simp [run, runLeaf, Option.filter_some, instant, reached]
        refine .cancelled ⟨started l rfl, .inl rfl, fun d same => (Option.some.inj same).le, ?_⟩ ?_
          (by rw [cut]) (by rw [cut]) (by rw [cut]; exact shows_leaf started (.cancelled longer))
        · exact fun d cancels => longer d (cancels_leaf.1 cancels).1
        · exact fun x ends => longer x.time ends.leaf_stop.1
      case neg =>
        simp only [not_forall, not_le] at longer
        obtain ⟨e, stop, lt⟩ := longer
        refine free.limited ?_ (by rw [whole]; exact stop) lt.le
        simp [run, runLeaf, Option.filter_some, stop, lt.not_ge]

/-! ## Children one after the other -/

section InTurn

variable {t : Tasks α} {ts : List (Tasks α)} {start : Rat} {limit : Option Rat}

variable (ts) in
theorem runInTurn_broken (broken : (run name work limit start t).stop = none ∨
      (run name work limit start t).finish = .cancelled) :
    run name work limit start (.group false (t :: ts)) = run name work limit start t := by
  rw [run_serial, runInTurn]
  rcases broken with stop | finish
  · simp only [stop]
  · cases stop : (run name work limit start t).stop <;> simp only [finish]

/-- The first child is all that is seen if the others come too late. -/
theorem shows_first {spans : List (Span α)} (h : Shows (Starts work t start) limit spans)
    (forward : ∀ u ∈ ts, Forward work u)
    (late : ∀ e, Ends work t start ⟨e, none⟩ → ∃ c, limit = some c ∧ c ≤ e) :
    Shows (Starts work (.group false (t :: ts)) start) limit spans := by
  refine (h.moved (f := (0 :: ·)) fun _ _ same => (List.cons.inj same).2).of_iff ?_ ?_
  · intro q o ho
    exact starts_cons.2 (.inl ho)
  · intro q o ho
    rcases starts_cons.1 ho with ho | ⟨e, ends, u, rfl, behind⟩
    · exact .inl ho
    · obtain ⟨c, hc, le⟩ := late e ends
      exact .inr ⟨c, hc, le.trans (behind.forward (forward_group forward))⟩

theorem shows_next {e : Rat} {spans spans' : List (Span α)}
    (h : Shows (Starts work t start) limit spans) (ends : Ends work t start ⟨e, none⟩)
    (h' : Shows (Starts work (.group false ts) e) limit spans') :
    Shows (Starts work (.group false (t :: ts)) start) limit (spans ++ spans') := by
  refine (h.beside 0 (h'.moved next_injective) ?_).of_iff ?_ ?_
  · intro q o ho
    obtain ⟨u, rfl, starts⟩ := ho
    obtain ⟨i, c, -, m, v, rfl, -⟩ := starts_serial.1 starts
    exact ⟨i, v, by rw [next, Nat.zero_add, Nat.add_comm]⟩
  · intro q o ho
    exact starts_cons.2 (ho.imp_right fun ho => ⟨e, ends, ho⟩)
  · intro q o ho
    refine .inl ((starts_cons.1 ho).imp_right fun ho => ?_)
    obtain ⟨e', ends', ho⟩ := ho
    obtain rfl := (ends.agree ends').time
    exact ho

/-- The first child that fails ends the group. -/
theorem Fate.inTurn_failed {e : Rat} {b : Fault α} (forward : ∀ u ∈ ts, Forward work u)
    (ends : Ends work t start ⟨e, some b⟩) (early : ∀ l, limit = some l → e ≤ l)
    (same : run name work limit start t = run name work none start t)
    (runs : RunsTo name work t start (run name work none start t) ⟨e, some b⟩)
    (shows : Shows (Starts work t start) none (run name work none start t).spans) :
    Fate name work limit (.group false (t :: ts)) start := by
  have stop : (run name work limit start t).stop = some e := same ▸ runs.stop
  have finish := runs.failed b rfl
  refine .ended (.serial (.failed ends)) early ?same ?runs ?shows
  case same =>
    rw [run_serial, run_serial, runInTurn_failed stop (same ▸ finish),
      runInTurn_failed runs.stop finish, same]
  case runs =>
    rw [run_serial]
    exact runs.inTurn_failed ts
  case shows =>
    rw [run_serial, runInTurn_failed runs.stop finish]
    refine shows_first shows forward fun e' clean => ?_
    exact absurd ((ends.agree clean).clean.2 rfl) (by simp)

/-- A child that is cancelled cancels the group. -/
theorem Fate.inTurn_cancelled {c : Rat} (forward : ∀ u ∈ t :: ts, Forward work u)
    (first : FirstCancel work limit t start c) (running : ∀ x, Ends work t start x → c ≤ x.time)
    (stop : (run name work limit start t).stop = some c)
    (finish : (run name work limit start t).finish = .cancelled)
    (shows : Shows (Starts work t start) (some c) (run name work limit start t).spans) :
    Fate name work limit (.group false (t :: ts)) start := by
  have same := runInTurn_broken ts (.inr finish)
  have rest : ∀ u ∈ ts, Forward work u := fun u hu => forward u (List.mem_cons_of_mem _ hu)
  refine .cancelled ⟨first.started, ?cause, first.outside, ?inside⟩ ?running (same ▸ stop)
    (same ▸ finish) ?shows
  case cause => exact first.cause.imp_right fun cancels => cancels_cons.2 (.inl cancels)
  case inside =>
    intro d cancels
    rcases cancels_cons.1 cancels with cancels | ⟨e, ends, cancels⟩
    · exact first.inside d cancels
    · exact (running _ ends).trans (cancels.forward (forward_group rest))
  case running =>
    intro x ends
    cases ends with
    | serial ends =>
      cases ends with
      | failed ends => exact running _ ends
      | next ends last => exact (running _ ends).trans (last.forward rest)
  case shows =>
    rw [same]
    exact shows_first shows rest fun e ends => ⟨c, rfl, running _ ends⟩

/-- A child that goes on for ever keeps the group from ending. -/
theorem Fate.inTurn_endless (forward : ∀ u ∈ ts, Forward work u) (free : limit = none)
    (never : ∀ x, ¬ Ends work t start x) (kept : ∀ c, ¬ Cancels work t start c)
    (stop : (run name work limit start t).stop = none)
    (shows : Shows (Starts work t start) none (run name work limit start t).spans) :
    Fate name work limit (.group false (t :: ts)) start := by
  have same := runInTurn_broken ts (.inl stop)
  refine .endless free ?never ?kept (same ▸ stop) ?shows
  case never =>
    intro x ends
    cases ends with
    | serial ends =>
      cases ends with
      | failed ends => exact never _ ends
      | next ends _ => exact never _ ends
  case kept =>
    intro c cancels
    rcases cancels_cons.1 cancels with cancels | ⟨e, ends, -⟩
    · exact kept c cancels
    · exact never _ ends
  case shows =>
    rw [same]
    exact shows_first shows forward fun e ends => absurd ends (never _)

theorem ends_next {e : Rat} (ends : Ends work t start ⟨e, none⟩) {x : Ending α} :
    Ends work (.group false (t :: ts)) start x ↔ Ends work (.group false ts) e x := by
  constructor
  · intro h
    cases h with
    | serial h =>
      cases h with
      | failed failed => exact absurd ((ends.agree failed).clean.1 rfl) (by simp)
      | next ends' rest =>
        obtain rfl := (ends.agree ends').time
        exact .serial rest
  · intro h
    cases h with
    | serial rest => exact .serial (.next ends rest)

theorem cancels_next {e : Rat} (ends : Ends work t start ⟨e, none⟩) {c : Rat} :
    Cancels work (.group false (t :: ts)) start c ↔ Cancels work (.group false ts) e c := by
  rw [cancels_cons]
  constructor
  · intro h
    rcases h with cancels | ⟨e', ends', cancels⟩
    · exact absurd cancels (ends.not_cancels c)
    · obtain rfl := (ends.agree ends').time
      exact cancels
  · exact fun cancels => .inr ⟨e, ends, cancels⟩

/-- After a child that ends without a failure, it is the fate of the others that counts. -/
theorem Fate.inTurn_next {e : Rat} (ends : Ends work t start ⟨e, none⟩)
    (same : run name work limit start t = run name work none start t)
    (runs : RunsTo name work t start (run name work none start t) ⟨e, none⟩)
    (shows : Shows (Starts work t start) none (run name work none start t).spans)
    (rest : Fate name work limit (.group false ts) e) :
    Fate name work limit (.group false (t :: ts)) start := by
  have whole : ∀ m, run name work m start t = run name work none start t →
      run name work m start (.group false (t :: ts)) =
        let r := run name work none start t
        let rest := run name work m e (.group false ts)
        ⟨r.spans ++ rest.spans, r.notes ++ rest.notes, rest.stop, rest.finish⟩ := by
    intro m same
    rw [run_serial, run_serial, ← same, runInTurn_done (same ▸ runs.stop) (same ▸ runs.done rfl)]
  cases rest with
  | ended last early same' runs' shows' =>
    refine .ended ((ends_next ends).2 last) early ?_ ?_ ?_
    · rw [whole limit same, whole none rfl, same']
    · rw [run_serial] at runs' ⊢
      exact runs.inTurn_done runs'
    · rw [whole none rfl]
      exact shows_next shows ends shows'
  | @cancelled c first running stop finish shows' =>
    have seen : Shows (Starts work t start) (some c) (run name work none start t).spans := by
      refine shows.until fun s hs => ?_
      obtain ⟨-, f, stop, le, last⟩ := runs.within s hs
      have before : f ≤ c := last.trans first.started
      exact ⟨le.trans before, f, stop, before⟩
    refine .cancelled ⟨runs.forward.trans first.started, ?_, first.outside, ?_⟩
      (fun x all => running x ((ends_next ends).1 all)) (by rw [whole limit same]; exact stop)
      (by rw [whole limit same]; exact finish)
      (by rw [whole limit same]; exact shows_next seen ends shows')
    · exact first.cause.imp_right (cancels_next ends).2
    · exact fun d cancels => first.inside d ((cancels_next ends).1 cancels)
  | endless free never kept stop shows' =>
    exact .endless free (fun x all => never x ((ends_next ends).1 all))
      (fun c cancels => kept c ((cancels_next ends).1 cancels))
      (by rw [whole limit same]; exact stop)
      (by rw [whole limit same]; exact shows_next shows ends shows')

theorem fate_empty (p : Bool) (started : ∀ l, limit = some l → start ≤ l) :
    Fate name work limit (.group p []) start := by
  have whole : ∀ m, run name work m start (.group p []) = ⟨[], [], some start, .done⟩ := by
    intro m
    cases p <;> simp [run, runInTurn]
  have ends : Ends work (.group p []) start ⟨start, none⟩ := by
    cases p with
    | false => exact .serial .nil
    | true => exact .parallel .nil (by constructor <;> simp)
  refine .ended ends started (by rw [whole, whole]) ?_ ?_
  · rw [whole]
    constructor <;> simp
  · rw [whole]
    refine .nil fun q s starts => ?_
    obtain ⟨a, time, begins, -⟩ := starts
    cases begins with
    | parallel child _ => cases child
    | serial child _ _ => cases child

/-- What becomes of children one after the other, from what becomes of each. -/
theorem fate_inTurn (forward : ∀ t ∈ ts, Forward work t)
    (each : ∀ t ∈ ts, ∀ start, (∀ l, limit = some l → start ≤ l) → Fate name work limit t start)
    (started : ∀ l, limit = some l → start ≤ l) : Fate name work limit (.group false ts) start := by
  induction ts generalizing start with
  | nil => exact fate_empty false started
  | cons t ts ih =>
    have behind : ∀ u ∈ ts, Forward work u := fun u hu => forward u (List.mem_cons_of_mem _ hu)
    -- The others begin only where the first child ends without a failure.
    cases each t List.mem_cons_self start started with
    | @ended x ends early same runs shows =>
      obtain ⟨e, fault⟩ := x
      cases fault with
      | some b => exact .inTurn_failed behind ends early same runs shows
      | none =>
        have rest := ih behind (fun u hu => each u (List.mem_cons_of_mem _ hu)) early
        exact .inTurn_next ends same runs shows rest
    | cancelled first running stop finish shows =>
      exact .inTurn_cancelled forward first running stop finish shows
    | endless free never kept stop shows => exact .inTurn_endless behind free never kept stop shows

end InTurn

/-! ## Children at once -/

/-- The first of the times at which something is the case, if there is one. -/
def IsFirst (P : Rat → Prop) : Option Rat → Prop
  | some c => P c ∧ ∀ d, P d → c ≤ d
  | none => ∀ d, ¬ P d

theorem IsFirst.congr {P Q : Rat → Prop} {o : Option Rat} (h : IsFirst P o)
    (same : ∀ c, P c ↔ Q c) : IsFirst Q o := by
  cases o with
  | none => exact fun d hd => h d ((same d).2 hd)
  | some c => exact ⟨(same c).1 h.1, fun d hd => h.2 d ((same d).2 hd)⟩

theorem isFirst_earlier {P Q : Rat → Prop} {a b : Option Rat} (ha : IsFirst P a)
    (hb : IsFirst Q b) : IsFirst (fun c => P c ∨ Q c) (earlier a b) := by
  cases a with
  | none =>
    refine hb.congr fun c => ?_
    simp only [ha c, false_or]
  | some x =>
    cases b with
    | none =>
      refine ha.congr fun c => ?_
      simp only [hb c, or_false]
    | some y =>
      rw [earlier, Clock.least]
      split
      case isTrue le =>
        exact ⟨.inl ha.1, fun d hd => hd.elim (ha.2 d) fun hd => le.trans (hb.2 d hd)⟩
      case isFalse gt =>
        refine ⟨.inr hb.1, fun d hd => ?_⟩
        rcases hd with hd | hd
        · exact (not_le.1 gt).le.trans (ha.2 d hd)
        · exact hb.2 d hd

/-- The first time at which a child has cancelled itself is what is looked for. -/
theorem isFirst_firstCancelled (children : List (Tasks α × Run α)) :
    IsFirst (fun d => ∃ c ∈ children, c.2.finish = .cancelled ∧ c.2.stop = some d)
      (firstCancelled children) := by
  -- The fold has looked at the children in front of these.
  have fold : ∀ (P : Rat → Prop) (o : Option Rat), IsFirst P o →
      IsFirst (fun d => P d ∨ ∃ c ∈ children, c.2.finish = .cancelled ∧ c.2.stop = some d)
        (children.foldl
          (fun c child => if child.2.finish == .cancelled then earlier c child.2.stop else c)
          o) := by
    induction children with
    | nil =>
      intro P o h
      simpa using h
    | cons c children ih =>
      intro P o h
      obtain ⟨t, r⟩ := c
      rw [List.foldl_cons]
      by_cases cancelled : r.finish = .cancelled
      case pos =>
        have own : IsFirst (fun d => r.stop = some d) r.stop := by
          cases r.stop <;> simp [IsFirst]
        simp only [cancelled, beq_self_eq_true, if_true]
        refine (ih _ _ (isFirst_earlier h own)).congr fun d => ?_
        simp [cancelled, or_assoc]
      case neg =>
        simp only [beq_eq_false_iff_ne.2 cancelled, Bool.false_eq_true, if_false]
        refine (ih _ _ h).congr fun d => ?_
        simp [cancelled]
  refine (fold (fun _ => False) none (by simp [IsFirst])).congr fun d => ?_
  simp

/-- When children at once would have ended, all of them, if nothing were cancelled. -/
def lastStop (start : Rat) (children : List (Tasks α × Run α)) : Option Rat :=
  children.foldl (fun e (_, r) => laterEnd e r.stop) (some start)

theorem laterEnd_eq_some {a b : Option Rat} {e : Rat} (h : laterEnd a b = some e) :
    ∃ x y, a = some x ∧ b = some y ∧ x ≤ e ∧ y ≤ e := by
  cases a with
  | none => cases h
  | some x =>
    cases b with
    | none => cases h
    | some y =>
      rw [laterEnd, Clock.greatest] at h
      refine ⟨x, y, rfl, rfl, ?_⟩
      split at h <;> obtain rfl := Option.some.inj h <;> grind

/-- They have all ended when the last of them has. -/
theorem lastStop_eq_some {start e : Rat} {children : List (Tasks α × Run α)}
    (h : lastStop start children = some e) : ∀ c ∈ children, ∃ d, c.2.stop = some d ∧ d ≤ e := by
  have fold : ∀ o : Option Rat, children.foldl (fun e (_, r) => laterEnd e r.stop) o = some e →
      (∃ m, o = some m ∧ m ≤ e) ∧ ∀ c ∈ children, ∃ d, c.2.stop = some d ∧ d ≤ e := by
    clear h
    induction children with
    | nil =>
      intro o h
      exact ⟨⟨e, h, le_rfl⟩, by simp⟩
    | cons c children ih =>
      intro o h
      obtain ⟨⟨m, later, le⟩, rest⟩ := ih _ h
      obtain ⟨x, y, hx, hy, hxm, hym⟩ := laterEnd_eq_some later
      exact ⟨⟨x, hx, hxm.trans le⟩, List.forall_mem_cons.2 ⟨⟨y, hy, hym.trans le⟩, rest⟩⟩
  exact (fold _ h).2

theorem lastStop_eq_none {start : Rat} {children : List (Tasks α × Run α)}
    (h : lastStop start children = none) : ∃ c ∈ children, c.2.stop = none := by
  by_contra none
  have fold : ∀ m : Rat, ∃ e,
      children.foldl (fun e (_, r) => laterEnd e r.stop) (some m) = some e := by
    clear h
    induction children with
    | nil => exact fun m => ⟨m, rfl⟩
    | cons c children ih =>
      intro m
      obtain ⟨t, r⟩ := c
      obtain ⟨d, stop⟩ := Option.ne_none_iff_exists'.1 fun h => none ⟨(t, r), by simp, h⟩
      obtain ⟨e, rest⟩ := ih (fun h => none (by
        obtain ⟨c, hc, h⟩ := h
        exact ⟨c, List.mem_cons_of_mem _ hc, h⟩)) (Clock.greatest m d)
      refine ⟨e, ?_⟩
      show children.foldl _ (laterEnd (some m) r.stop) = _
      rw [show r.stop = some d from stop]
      exact rest
  obtain ⟨e, some⟩ := fold start
  cases h.symm.trans some

/-- The run of children at once if nothing is cancelled. -/
def together (name : α → String) (start : Rat) (children : List (Tasks α × Run α)) : Run α :=
  ⟨children.flatMap fun (_, r) => r.spans,
    children.flatMap (fun (_, r) => r.notes) ++ (settle name children).2,
    lastStop start children, (settle name children).1⟩

/-- When children at once are cut off: at the limit, if one of them is not over by then, or when
the first of them cancels itself. -/
def cutTime (limit : Option Rat) (start : Rat) (children : List (Tasks α × Run α)) : Option Rat :=
  earlier (limit.filter fun l => (lastStop start children).all (l ≤ ·)) (firstCancelled children)

theorem gather_cut {limit : Option Rat} {start c : Rat} {children : List (Tasks α × Run α)}
    (h : cutTime limit start children = some c) :
    gather name limit start children = (together name start children).cut c := by
  show (match cutTime limit start children with
    | some c => (together name start children).cut c
    | none => together name start children) = _
  rw [h]

theorem gather_whole {limit : Option Rat} {start : Rat} {children : List (Tasks α × Run α)}
    (h : cutTime limit start children = none) :
    gather name limit start children = together name start children := by
  show (match cutTime limit start children with
    | some c => (together name start children).cut c
    | none => together name start children) = _
  rw [h]

theorem isFirst_cutTime (limit : Option Rat) (start : Rat) (children : List (Tasks α × Run α)) :
    IsFirst (fun d => (limit = some d ∧ ∀ e, lastStop start children = some e → d ≤ e) ∨
      ∃ c ∈ children, c.2.finish = .cancelled ∧ c.2.stop = some d)
      (cutTime limit start children) := by
  refine isFirst_earlier ?_ (isFirst_firstCancelled children)
  cases reached : limit.filter fun l => (lastStop start children).all (l ≤ ·) with
  | none =>
    intro d hk
    obtain ⟨rfl, before⟩ := hk
    rw [Option.filter_some] at reached
    split at reached
    · cases reached
    · rename_i longer
      apply longer
      cases h : lastStop start children with
      | none => rfl
      | some e => simpa using before e h
  | some l =>
    obtain ⟨rfl, before⟩ := Option.filter_eq_some_iff.1 reached
    refine ⟨⟨rfl, fun e h => ?_⟩, fun d hd => (Option.some.inj hd.1).le⟩
    simpa [h] using before

theorem mem_runEach {t : Tasks α} {r : Run α} {start : Rat} {ts : List (Tasks α)} :
    (t, r) ∈ runEach name work start ts ↔ t ∈ ts ∧ r = run name work none start t := by
  rw [runEach_eq_map, List.mem_map]
  constructor
  · intro h
    obtain ⟨u, hu, same⟩ := h
    cases same
    exact ⟨hu, rfl⟩
  · intro h
    obtain ⟨ht, rfl⟩ := h
    exact ⟨t, ht, rfl⟩

/-! ### What is seen of them -/

theorem cutSpans_flatMap {β : Type} (c : Rat) (f : β → List (Span α)) (bs : List β) :
    cutSpans c (bs.flatMap f) = bs.flatMap fun b => cutSpans c (f b) := by
  simp only [cutSpans, List.filter_flatMap, List.map_flatMap]

theorem shows_parallel {ts : List (Tasks α)} {start : Rat} {limit : Option Rat}
    {f : Run α → List (Span α)}
    (h : ∀ c ∈ ts, Shows (Starts work c start) limit (f (run name work none start c))) :
    Shows (Starts work (.group true ts) start) limit
      ((runEach name work start ts).flatMap fun (_, r) => f r) := by
  have each : ∀ k, Shows (fun q s => ∃ i c, ts[i]? = some c ∧
      ∃ u, q = (k + i) :: u ∧ Starts work c start u s) limit
        ((runEach name work start ts).flatMap fun (_, r) => f r) := by
    induction ts with
    | nil => exact fun k => .nil (by simp)
    | cons t ts ih =>
      intro k
      rw [runEach, List.flatMap_cons]
      have rest := ih (fun c hc => h c (List.mem_cons_of_mem _ hc)) (k + 1)
      refine ((h t List.mem_cons_self).beside k rest ?_).congr fun q s => ?_
      · intro q s hq
        obtain ⟨i, c, -, u, hu, -⟩ := hq
        exact ⟨i, u, hu⟩
      · rw [exists_child_cons]
        simp only [Nat.add_assoc, Nat.add_comm 1, Nat.add_zero]
  exact (each 0).congr fun q s => by simp only [starts_parallel, Nat.zero_add]

/-! ### What becomes of them -/

/-- A task that is cancelled at a time without a limit is so by a leaf of its own. -/
theorem Fate.first {t : Tasks α} {start c : Rat} (h : Fate name work none t start)
    (finish : (run name work none start t).finish = .cancelled)
    (stop : (run name work none start t).stop = some c) : FirstCancel work none t start c := by
  cases h with
  | @ended x _ _ _ runs _ =>
    rw [runs.finish_eq] at finish
    cases fault : x.fault <;> simp [fault] at finish
  | cancelled first _ stop' _ _ =>
    obtain rfl := Option.some.inj (stop.symm.trans stop')
    exact first
  | endless _ _ _ stop' => cases stop.symm.trans stop'

/-- A task in which a leaf cancels itself is cancelled by then. -/
theorem Fate.of_cancels {t : Tasks α} {start d : Rat} (h : Fate name work none t start)
    (cancels : Cancels work t start d) : ∃ c ≤ d,
      (run name work none start t).finish = .cancelled ∧
      (run name work none start t).stop = some c := by
  cases h with
  | ended ends => exact absurd cancels (ends.not_cancels d)
  | @cancelled c first _ stop finish _ => exact ⟨c, first.inside d cancels, finish, stop⟩
  | endless _ _ kept => exact absurd cancels (kept d)

theorem Fate.of_ends {t : Tasks α} {start : Rat} {x : Ending α} (h : Fate name work none t start)
    (ends : Ends work t start x) : ∃ y, Ends work t start y ∧
      RunsTo name work t start (run name work none start t) y := by
  cases h with
  | ended ends' _ _ runs _ => exact ⟨_, ends', runs⟩
  | cancelled first =>
    exact absurd (first.cause.resolve_left (by simp)) (ends.not_cancels _)
  | endless _ never => exact absurd ends (never x)

/-- The spans of a task that is not cancelled are all that there is to be seen. -/
theorem Fate.shows_all {t : Tasks α} {start : Rat} (h : Fate name work none t start)
    (kept : ∀ d, ¬ ((run name work none start t).finish = .cancelled ∧
      (run name work none start t).stop = some d)) :
    Shows (Starts work t start) none (run name work none start t).spans := by
  cases h with
  | ended _ _ _ _ shows => exact shows
  | cancelled _ _ stop finish _ => exact absurd ⟨finish, stop⟩ (kept _)
  | endless _ _ _ _ shows => exact shows

/-- A task that is not cancelled ends if it does not go on for ever. -/
theorem Fate.ends_of_stop {t : Tasks α} {start e : Rat} (h : Fate name work none t start)
    (stop : (run name work none start t).stop = some e)
    (kept : (run name work none start t).finish ≠ .cancelled) : ∃ x, Ends work t start x := by
  cases h with
  | ended ends => exact ⟨_, ends⟩
  | cancelled _ _ _ finish _ => exact absurd finish kept
  | endless _ _ _ stop' => cases stop.symm.trans stop'

/-- Whatever becomes of a task without a limit, its spans are what is seen until it is cancelled. -/
theorem Fate.shows {t : Tasks α} {start c : Rat} (h : Fate name work none t start)
    (first : ∀ d, (run name work none start t).finish = .cancelled →
      (run name work none start t).stop = some d → c ≤ d) :
    Shows (Starts work t start) (some c) (cutSpans c (run name work none start t).spans) := by
  cases h with
  | ended _ _ _ _ shows => exact shows.cut (by simp)
  | cancelled _ _ stop finish shows =>
    refine shows.cut fun d same => ?_
    obtain rfl := Option.some.inj same
    exact first _ finish stop
  | endless _ _ _ _ shows => exact shows.cut (by simp)

section AtOnce

variable {ts : List (Tasks α)} {start : Rat} {limit : Option Rat}

theorem EndsEach.exists_ends {xs : List (Ending α)} (h : EndsEach work ts start xs) :
    ∀ t ∈ ts, ∃ x, Ends work t start x := by
  induction ts generalizing xs with
  | nil => simp
  | cons t ts ih =>
    cases h with
    | cons ends rest => exact List.forall_mem_cons.2 ⟨⟨_, ends⟩, ih rest⟩

theorem Ends.exists_child {x : Ending α} (h : Ends work (.group true ts) start x) :
    ∀ t ∈ ts, ∃ y, Ends work t start y := by
  cases h with
  | parallel ends _ => exact ends.exists_ends

/-- Children at once that all end. -/
theorem ends_together (each : ∀ t ∈ ts, Fate name work none t start)
    (all : ∀ t ∈ ts, ∃ x, Ends work t start x) :
    ∃ x, Ends work (.group true ts) start x ∧ RunsTo name work (.group true ts) start
      (together name start (runEach name work start ts)) x := by
  obtain ⟨xs, ends, runs⟩ := ends_each name fun t ht => by
    obtain ⟨x, hx⟩ := all t ht
    exact (each t ht).of_ends hx
  obtain ⟨x, joins, runs'⟩ := runs.joins
  have kept : cutTime none start (runEach name work start ts) = none := by
    rw [cutTime, firstCancelled_eq_none runs]
    rfl
  rw [map_runEach, gather_whole kept] at runs'
  exact ⟨x, .parallel ends joins, runs'⟩

/-- A child that is cancelled at a time without a limit shows that a leaf of the group has cancelled
itself. -/
theorem cancels_of_child (each : ∀ t ∈ ts, Fate name work none t start) {d : Rat}
    (child : ∃ c ∈ runEach name work start ts, c.2.finish = .cancelled ∧ c.2.stop = some d) :
    start ≤ d ∧ Cancels work (.group true ts) start d := by
  obtain ⟨⟨t, r⟩, hr, finish, stop⟩ := child
  obtain ⟨ht, rfl⟩ := mem_runEach.1 hr
  have first := (each t ht).first finish stop
  exact ⟨first.started, cancels_parallel.2 ⟨t, ht, first.cause.resolve_left (by simp)⟩⟩

theorem child_of_cancels (each : ∀ t ∈ ts, Fate name work none t start) {d : Rat}
    (cancels : Cancels work (.group true ts) start d) :
    ∃ c ≤ d, ∃ r ∈ runEach name work start ts, r.2.finish = .cancelled ∧ r.2.stop = some c := by
  obtain ⟨t, ht, cancels⟩ := cancels_parallel.1 cancels
  obtain ⟨c, le, finish, stop⟩ := (each t ht).of_cancels cancels
  exact ⟨c, le, (t, _), mem_runEach.2 ⟨ht, rfl⟩, finish, stop⟩

/-- Children at once that are cut off. -/
theorem fate_cut {c : Rat} (each : ∀ t ∈ ts, Fate name work none t start)
    (started : ∀ l, limit = some l → start ≤ l)
    (cut : cutTime limit start (runEach name work start ts) = some c)
    (gathers : run name work limit start (.group true ts)
      = gather name limit start (runEach name work start ts)) :
    Fate name work limit (.group true ts) start := by
  obtain ⟨cause, first⟩ : IsFirst _ (some c) := cut ▸ isFirst_cutTime limit start _
  have same := gathers.trans (gather_cut cut)
  refine .cancelled ⟨?started, ?cause, ?outside, ?inside⟩ ?running (by rw [same]; rfl)
    (by rw [same]; rfl) ?shows
  case started => exact cause.elim (fun h => started c h.1) fun h => (cancels_of_child each h).1
  case cause => exact cause.imp And.left fun h => (cancels_of_child each h).2
  case outside =>
    intro l hl
    by_cases reached : ∀ e, lastStop start (runEach name work start ts) = some e → l ≤ e
    case pos => exact first l (.inl ⟨hl, reached⟩)
    case neg =>
      simp only [not_forall, not_le] at reached
      obtain ⟨e, last, lt⟩ := reached
      rcases cause with ⟨hc, -⟩ | ⟨r, hr, -, stop⟩
      · exact (Option.some.inj (hc.symm.trans hl)).le
      · obtain ⟨d, stop', le⟩ := lastStop_eq_some last r hr
        obtain rfl := Option.some.inj (stop.symm.trans stop')
        exact le.trans lt.le
  case inside =>
    intro d cancels
    obtain ⟨c', le, child⟩ := child_of_cancels each cancels
    exact (first c' (.inr child)).trans le
  case running =>
    intro x ends
    obtain ⟨y, ends', runs⟩ := ends_together each ends.exists_child
    rw [(ends.agree ends').time]
    rcases cause with ⟨-, before⟩ | child
    · exact before y.time runs.stop
    · exact absurd (cancels_of_child each child).2 (ends.not_cancels c)
  case shows =>
    have spans : (run name work limit start (.group true ts)).spans
        = (runEach name work start ts).flatMap fun (_, r) => cutSpans c r.spans := by
      rw [same, ← cutSpans_flatMap]
      rfl
    rw [spans]
    refine shows_parallel (f := fun r => cutSpans c r.spans) fun t ht =>
      (each t ht).shows fun d finish stop => ?_
    exact first d (.inr ⟨(t, _), mem_runEach.2 ⟨ht, rfl⟩, finish, stop⟩)

/-- Children at once that are not cut off. -/
theorem fate_whole (each : ∀ t ∈ ts, Fate name work none t start)
    (whole : cutTime limit start (runEach name work start ts) = none)
    (gathers : ∀ m, run name work m start (.group true ts)
      = gather name m start (runEach name work start ts)) :
    Fate name work limit (.group true ts) start := by
  have never : ∀ d, ¬ _ := (whole ▸ isFirst_cutTime limit start _ : IsFirst _ none)
  have kept : ∀ d, ¬ Cancels work (.group true ts) start d := by
    intro d cancels
    obtain ⟨c, -, child⟩ := child_of_cancels each cancels
    exact never c (.inr child)
  have free : cutTime none start (runEach name work start ts) = none := by
    cases h : cutTime none start (runEach name work start ts) with
    | none => rfl
    | some c =>
      obtain ⟨cause, -⟩ : IsFirst _ (some c) := h ▸ isFirst_cutTime none start _
      exact absurd (.inr (cause.resolve_left (by simp))) (never c)
  have same := (gathers limit).trans (gather_whole whole)
  have same' := (gathers none).trans (gather_whole free)
  have shown : Shows (Starts work (.group true ts) start) none
      (together name start (runEach name work start ts)).spans :=
    shows_parallel (f := Run.spans) fun t ht => (each t ht).shows_all fun d cancelled =>
      never d (.inr ⟨(t, _), mem_runEach.2 ⟨ht, rfl⟩, cancelled⟩)
  cases last : lastStop start (runEach name work start ts) with
  | none =>
    refine .endless ?free (fun x ends => ?never) kept (by rw [same]; exact last)
      (by rw [same]; exact shown)
    case free =>
      cases limit with
      | none => rfl
      | some l => exact absurd (.inl ⟨rfl, by simp [last]⟩) (never l)
    case never =>
      obtain ⟨⟨t, r⟩, hr, stop⟩ := lastStop_eq_none last
      obtain ⟨ht, rfl⟩ := mem_runEach.1 hr
      obtain ⟨y, ends⟩ := ends.exists_child t ht
      obtain ⟨z, -, runs⟩ := (each t ht).of_ends ends
      cases stop.symm.trans runs.stop
  | some e =>
    obtain ⟨x, ends, runs⟩ := ends_together each fun t ht => by
      have mem : (t, run name work none start t) ∈ runEach name work start ts :=
        mem_runEach.2 ⟨ht, rfl⟩
      obtain ⟨d, stop, -⟩ := lastStop_eq_some last _ mem
      exact (each t ht).ends_of_stop stop fun finish => never d (.inr ⟨_, mem, finish, stop⟩)
    refine .ended ends ?early (same.trans same'.symm) (by rw [same']; exact runs)
      (by rw [same']; exact shown)
    case early =>
      intro l hl
      by_contra late
      refine never l (.inl ⟨hl, fun e' last' => ?_⟩)
      obtain rfl : e' = x.time := Option.some.inj (last'.symm.trans runs.stop)
      exact (not_le.1 late).le

/-- What becomes of children at once, from what becomes of each. -/
theorem fate_atOnce (each : ∀ u ∈ ts, Fate name work none u start)
    (started : ∀ l, limit = some l → start ≤ l) :
    Fate name work limit (.group true ts) start := by
  cases ts with
  | nil => exact fate_empty true started
  | cons t ts =>
    have gathers : ∀ m, run name work m start (.group true (t :: ts))
        = gather name m start (runEach name work start (t :: ts)) := by
      intro m
      rw [run, runEach]
    cases cut : cutTime limit start (runEach name work start (t :: ts)) with
    | none => exact fate_whole each cut gathers
    | some c => exact fate_cut each started cut (gathers limit)

end AtOnce

/-! ## Any task -/

variable (name) in
/-- What becomes of any task that is run with a limit. -/
theorem fate_run {t : Tasks α} {limit : Option Rat} {start : Rat} (forward : Forward work t)
    (prompt : Prompt work t) (started : ∀ l, limit = some l → start ≤ l) :
    Fate name work limit t start := by
  induction t using induct generalizing limit start with
  | leaf a => exact fate_leaf forward prompt started
  | group p ts ih =>
    cases p with
    | false =>
      refine fate_inTurn (fun t ht => forward.child ht) (fun t ht start started => ?_) started
      exact ih t ht (forward.child ht) (prompt.child ht) started
    | true =>
      -- Children at once have no limit: they are run to their ends, and the group cuts them off.
      refine fate_atOnce (fun t ht => ?_) started
      exact ih t ht (forward.child ht) (prompt.child ht) (by simp)

end ClusterOps.Tasks
