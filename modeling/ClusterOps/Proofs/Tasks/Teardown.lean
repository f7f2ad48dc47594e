import ClusterOps.Proofs.Tasks.Fate

/-
Cancelling a tree tears down all of it. Whether it is cancelled from outside or
by one of its own leaves, and whatever has failed in it before, the tree is
cancelled then, everything in it that lasts longer is cancelled with it, and
nothing happens in it afterwards (`run_tornDown`).
-/

namespace ClusterOps.Tasks

variable {α : Type} {name : α → String} {work : α → Rat → Activity}

/-- What a task is like that was torn down at a time: the spans of its run, each with the path of
its leaf. -/
structure TornDown (work : α → Rat → Activity) (t : Tasks α) (start c : Rat) (r : Run α)
    (entries : List (Path × Span α)) : Prop where
  finish : r.finish = .cancelled
  stop : r.stop = some c
  spans : entries.map Prod.snd = r.spans
  /-- No leaf is started twice. -/
  once : (entries.map Prod.fst).Nodup
  /-- A leaf is started only when it would be in a task that is not cancelled. -/
  begun : ∀ q s, (q, s) ∈ entries → Begins work t start q (.leaf s.task) s.start
  /-- What would be started before is started. -/
  started : ∀ q a m, Begins work t start q (.leaf a) m → m < c →
    ∃ s, (q, s) ∈ entries ∧ s.task = a ∧ s.start = m
  /-- A leaf that would last longer is cancelled. -/
  past : ∀ q s, (q, s) ∈ entries → lasts (work s.task s.start).stop c = true →
    s.stop = some c ∧ s.finish = .cancelled
  /-- A leaf that has ended before keeps its outcome. -/
  kept : ∀ q s e, (q, s) ∈ entries → (work s.task s.start).stop = some e → e < c →
    s.stop = some e ∧ s.finish = (work s.task s.start).finish
  /-- Nothing happens to a leaf afterwards. -/
  within : ∀ s ∈ r.spans, ∀ event ∈ s.events, event.time ≤ c

/-- What is seen of a span until a time ends by then. -/
theorem SeenUntil.stop_le {c : Rat} {own s : Span α} (h : SeenUntil (some c) own s) :
    ∃ e, s.stop = some e ∧ e ≤ c := by
  cases h with
  | ended early => exact early c rfl
  | cancelled => exact ⟨c, rfl, le_rfl⟩

theorem SeenUntil.past {c : Rat} {own s : Span α} (h : SeenUntil (some c) own s)
    (longer : lasts own.stop c = true) : s.stop = some c ∧ s.finish = .cancelled := by
  cases h with
  | ended early =>
    obtain ⟨e, stop, le⟩ := early c rfl
    exact absurd (lasts_iff.1 longer e stop) le.not_gt
  | cancelled => exact ⟨rfl, rfl⟩

theorem SeenUntil.kept {c e : Rat} {own s : Span α} (h : SeenUntil (some c) own s)
    (stop : own.stop = some e) (before : e < c) : s = own := by
  cases h with
  | ended => rfl
  | cancelled past => exact absurd before (past e stop).not_gt

/-- What is shown until a time is torn down at that time. -/
theorem Shows.tornDown {t : Tasks α} {start c : Rat} {r : Run α}
    (h : Shows (Starts work t start) (some c) r.spans) (stop : r.stop = some c)
    (finish : r.finish = .cancelled) : ∃ entries, TornDown work t start c r entries := by
  obtain ⟨at_, ⟨entries, spans, once, mem⟩, sound, complete⟩ := h
  have seen : ∀ q s, (q, s) ∈ entries → ∃ a m, Begins work t start q (.leaf a) m ∧ m ≤ c ∧
      s.task = a ∧ s.start = m ∧ SeenUntil (some c) (ownSpan work a m) s := by
    intro q s hs
    obtain ⟨o, ⟨a, m, begins, rfl⟩, before, seen⟩ := sound q s ((mem q s).1 hs)
    exact ⟨a, m, begins, before c rfl, seen.task, seen.start, seen⟩
  refine ⟨entries, finish, stop, spans, once, ?begun, ?started, ?past, ?kept, ?within⟩
  case begun =>
    intro q s hs
    obtain ⟨a, m, begins, -, rfl, rfl, -⟩ := seen q s hs
    exact begins
  case started =>
    intro q a m begins before
    obtain ⟨s, hs, seen⟩ := complete q _ ⟨a, m, begins, rfl⟩ fun d same =>
      Option.some.inj same ▸ before
    exact ⟨s, (mem q s).2 hs, seen.task, seen.start⟩
  case past =>
    intro q s hs longer
    obtain ⟨a, m, -, -, rfl, rfl, seen⟩ := seen q s hs
    exact seen.past longer
  case kept =>
    intro q s e hs own before
    obtain ⟨a, m, -, -, rfl, rfl, seen⟩ := seen q s hs
    have same := seen.kept own before
    exact ⟨(congrArg Span.stop same).trans own, congrArg Span.finish same⟩
  case within =>
    intro s hs event hevent
    obtain ⟨⟨q, s⟩, entry, rfl⟩ := List.mem_map.1 (spans ▸ hs)
    obtain ⟨a, m, -, before, -, rfl, seen⟩ := seen q s entry
    obtain ⟨e, stop, le⟩ := seen.stop_le
    rw [Span.events, stop] at hevent
    rcases List.mem_cons.1 hevent with rfl | hevent
    · exact before
    · obtain rfl := List.mem_singleton.1 hevent
      exact le

variable (name) in
/-- **Teardown.** A task that still runs when it is cancelled for the first time is torn down
then. -/
theorem run_tornDown {t : Tasks α} {limit : Option Rat} {start c : Rat} (forward : Forward work t)
    (prompt : Prompt work t) (first : FirstCancel work limit t start c)
    (running : ∀ x, Ends work t start x → c < x.time) :
    ∃ entries, TornDown work t start c (run name work limit start t) entries := by
  have started : ∀ l, limit = some l → start ≤ l :=
    fun l hl => first.started.trans (first.outside l hl)
  cases fate_run name forward prompt started with
  | ended ends early same _ _ =>
    have before := running _ ends
    rcases first.cause with outside | inside
    · exact absurd (early c outside) before.not_ge
    · exact absurd inside (ends.not_cancels c)
  | cancelled first' _ stop finish shows =>
    obtain rfl := first'.unique first
    exact shows.tornDown stop finish
  | endless free _ kept _ _ =>
    rcases first.cause with outside | inside
    · cases free.symm.trans outside
    · exact absurd inside (kept c)

/-- A leaf that cancels itself takes a group with it in which a child has failed before, and another
would never end; the leaf behind it is never started. -/
theorem run_tornDown_failed :
    let work : String × Option Rat × Finish → Rat → Activity := fun a start =>
      ⟨a.2.1.map (start + ·), a.2.2, false⟩
    let t : Tasks (String × Option Rat × Finish) := .group true
      [.leaf ("fails", some 1, .failed (.provider "down")),
        .group false [.leaf ("gives up", some 3, .cancelled), .leaf ("behind", some 1, .done)],
        .group false [.leaf ("hangs", none, .done)]]
    (Forward work t ∧ Prompt work t ∧ FirstCancel work (some 5) t 0 3 ∧
      ∀ x, Ends work t 0 x → 3 < x.time) ∧
    (run Prod.fst work (some 5) 0 t).spans.map (fun s => (s.task.1, s.stop, s.finish))
      = [("fails", some 1, .failed (.provider "down")), ("gives up", some 3, .cancelled),
        ("hangs", some 3, .cancelled)] ∧
    ∃ entries, TornDown work t 0 3 (run Prod.fst work (some 5) 0 t) entries := by
  intro work t
  have spans : ∀ a ∈ t.leaves, ∀ d, a.2.1 = some d → 0 ≤ d ∧ (a.2.2 = .cancelled → 3 ≤ d) := by
    decide +kernel
  have forward : Forward work t := by
    intro a ha start e stop
    obtain ⟨d, hd, rfl⟩ := Option.map_eq_some_iff.1 stop
    simpa using (spans a ha d hd).1
  have prompt : Prompt work t := fun a ha start instant => by cases instant
  have cancels : Cancels work t 0 3 :=
    ⟨[1, 0], _, ⟨_, 0, .parallel rfl (.serial rfl .zero .root), rfl⟩, by decide +kernel, rfl⟩
  have inside : ∀ d, Cancels work t 0 d → 3 ≤ d := by
    intro d h
    obtain ⟨q, s, starts, stop, finish⟩ := h
    obtain ⟨a, m, begins, rfl⟩ := starts
    have later : 0 ≤ m := begins.forward forward
    obtain ⟨d', hd, rfl⟩ := Option.map_eq_some_iff.1 stop
    have three := (spans a (mem_leaves_of_at? begins.at? (by simp [leaves])) d' hd).2 finish
    exact three.trans (le_add_of_nonneg_left later)
  have outside : ∀ l, some (5 : Rat) = some l → 3 ≤ l := by
    intro l hl
    obtain rfl := Option.some.inj hl
    decide +kernel
  have first : FirstCancel work (some 5) t 0 3 :=
    ⟨by decide +kernel, .inr cancels, outside, inside⟩
  have running : ∀ x, Ends work t 0 x → 3 < x.time := fun x ends =>
    absurd cancels (ends.not_cancels 3)
  exact ⟨⟨forward, prompt, first, running⟩, by decide +kernel,
    run_tornDown Prod.fst forward prompt first running⟩

end ClusterOps.Tasks
