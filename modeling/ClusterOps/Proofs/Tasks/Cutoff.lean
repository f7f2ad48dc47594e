import ClusterOps.Proofs.Tasks.Timetable

/-
What is seen of the leaves of a tree until a limit. A leaf that has ended by then
is seen whole, and one that lasts longer as cancelled at the limit. What happens
at the limit itself is left open: a leaf that ends then may be seen either way,
and one that starts then may be missing. So it does not matter whether a tree is
cut off at once, or its parts before it.
-/

namespace ClusterOps.Tasks

variable {α : Type}

/-! ## Spans cut short -/

/-- What is seen of the own span of a leaf until a limit: all of it, if it has ended by then, or
that it was cancelled. -/
inductive SeenUntil : Option Rat → Span α → Span α → Prop
  | ended {limit own} : (∀ c, limit = some c → ∃ e, own.stop = some e ∧ e ≤ c) →
      SeenUntil limit own own
  | cancelled {c own} : (∀ e, own.stop = some e → c ≤ e) →
      SeenUntil (some c) own { own with stop := some c, finish := .cancelled }

theorem SeenUntil.start {limit : Option Rat} {own s : Span α} (h : SeenUntil limit own s) :
    s.start = own.start := by
  cases h <;> rfl

theorem SeenUntil.task {limit : Option Rat} {own s : Span α} (h : SeenUntil limit own s) :
    s.task = own.task := by
  cases h <;> rfl

theorem lasts_iff {stop : Option Rat} {c : Rat} :
    lasts stop c = true ↔ ∀ e, stop = some e → c < e := by
  cases stop <;> simp [lasts]

/-- An earlier cut of what is seen is all that is seen until then. -/
theorem SeenUntil.cut {limit : Option Rat} {own s : Span α} (h : SeenUntil limit own s) {c : Rat}
    (le : ∀ d, limit = some d → c ≤ d) : SeenUntil (some c) own (s.cut c) := by
  rw [Span.cut]
  cases h with
  | ended past =>
    split
    case isTrue longer => exact .cancelled fun e stop => (lasts_iff.1 longer e stop).le
    case isFalse shorter =>
      refine .ended fun d same => ?_
      obtain rfl := Option.some.inj same
      simp only [lasts_iff, not_forall, not_lt] at shorter
      obtain ⟨e, stop, le⟩ := shorter
      exact ⟨e, stop, le⟩
  | @cancelled d _ past =>
    have le := le d rfl
    split
    case isTrue => exact .cancelled fun e stop => le.trans (past e stop)
    case isFalse shorter =>
      obtain rfl : c = d := le_antisymm le (by simpa [lasts] using shorter)
      exact .cancelled past

/-- Some spans are what is seen until a limit of the own spans of leaves at paths. -/
def Shows (own : Path → Span α → Prop) (limit : Option Rat) (spans : List (Span α)) : Prop :=
  ∃ at_ : Path → Span α → Prop, Tabulates at_ spans ∧
    (∀ q s, at_ q s → ∃ o, own q o ∧ (∀ c, limit = some c → o.start ≤ c) ∧ SeenUntil limit o s) ∧
    ∀ q o, own q o → (∀ c, limit = some c → o.start < c) → ∃ s, at_ q s ∧ SeenUntil limit o s

section Shows

variable {own own' : Path → Span α → Prop} {limit : Option Rat} {spans spans' : List (Span α)}

theorem Tabulates.shows (h : Tabulates own spans) : Shows own none spans :=
  ⟨own, h, fun _ s hs => ⟨s, hs, by simp, .ended (by simp)⟩,
    fun _ o ho _ => ⟨o, ho, .ended (by simp)⟩⟩

/-- Leaves that start at the limit or later may be there or not. -/
theorem Shows.of_iff (h : Shows own limit spans) (sub : ∀ q o, own q o → own' q o)
    (rest : ∀ q o, own' q o → own q o ∨ ∃ c, limit = some c ∧ c ≤ o.start) :
    Shows own' limit spans := by
  obtain ⟨at_, tabulates, sound, complete⟩ := h
  refine ⟨at_, tabulates, fun q s hs => ?_, fun q o ho before => ?_⟩
  · obtain ⟨o, ho, seen⟩ := sound q s hs
    exact ⟨o, sub q o ho, seen⟩
  · rcases rest q o ho with ho | ⟨c, hc, le⟩
    · exact complete q o ho before
    · exact absurd (before c hc) le.not_gt

theorem Shows.congr (h : Shows own limit spans) (same : ∀ q o, own q o ↔ own' q o) :
    Shows own' limit spans :=
  h.of_iff (fun q o => (same q o).1) fun q o ho => .inl ((same q o).2 ho)

theorem Shows.nil (h : ∀ q o, ¬ own q o) : Shows own limit [] :=
  ⟨own, .nil h, fun q s hs => absurd hs (h q s), fun q o ho => absurd ho (h q o)⟩

theorem Shows.moved (h : Shows own limit spans) {f : Path → Path} (inj : Function.Injective f) :
    Shows (fun q s => ∃ u, q = f u ∧ own u s) limit spans := by
  obtain ⟨at_, tabulates, sound, complete⟩ := h
  refine ⟨_, tabulates.moved inj, ?_, ?_⟩
  · intro q s hs
    obtain ⟨u, rfl, hs⟩ := hs
    obtain ⟨o, ho, seen⟩ := sound u s hs
    exact ⟨o, ⟨u, rfl, ho⟩, seen⟩
  · intro q o ho before
    obtain ⟨u, rfl, ho⟩ := ho
    obtain ⟨s, hs, seen⟩ := complete u o ho before
    exact ⟨s, ⟨u, rfl, hs⟩, seen⟩

theorem Shows.beside (h : Shows own limit spans) (k : Nat) (h' : Shows own' limit spans')
    (behind : ∀ q o, own' q o → ∃ i u, q = (k + 1 + i) :: u) :
    Shows (fun q s => (∃ u, q = k :: u ∧ own u s) ∨ own' q s) limit (spans ++ spans') := by
  obtain ⟨at_, tabulates, sound, complete⟩ := h
  obtain ⟨at', tabulates', sound', complete'⟩ := h'
  refine ⟨_, tabulates.beside k tabulates' fun q s hs => ?_, ?_, ?_⟩
  · obtain ⟨o, ho, -⟩ := sound' q s hs
    exact behind q o ho
  · intro q s hs
    rcases hs with ⟨u, rfl, hs⟩ | hs
    · obtain ⟨o, ho, seen⟩ := sound u s hs
      exact ⟨o, .inl ⟨u, rfl, ho⟩, seen⟩
    · obtain ⟨o, ho, seen⟩ := sound' q s hs
      exact ⟨o, .inr ho, seen⟩
  · intro q o ho before
    rcases ho with ⟨u, rfl, ho⟩ | ho
    · obtain ⟨s, hs, seen⟩ := complete u o ho before
      exact ⟨s, .inl ⟨u, rfl, hs⟩, seen⟩
    · obtain ⟨s, hs, seen⟩ := complete' q o ho before
      exact ⟨s, .inr hs, seen⟩

/-- Spans that have all ended by a time are what is seen until then. -/
theorem Shows.until (h : Shows own none spans) {c : Rat}
    (early : ∀ s ∈ spans, s.start ≤ c ∧ ∃ e, s.stop = some e ∧ e ≤ c) :
    Shows own (some c) spans := by
  obtain ⟨at_, tabulates, sound, complete⟩ := h
  have whole : ∀ {o s : Span α}, s ∈ spans → SeenUntil none o s →
      o.start ≤ c ∧ SeenUntil (some c) o s := by
    intro o s hs seen
    cases seen
    obtain ⟨hstart, e, stop, le⟩ := early _ hs
    exact ⟨hstart, .ended fun d same => ⟨e, stop, Option.some.inj same ▸ le⟩⟩
  have mem : ∀ q s, at_ q s → s ∈ spans := by
    obtain ⟨entries, rfl, -, mem⟩ := tabulates
    exact fun q s hs => List.mem_map.2 ⟨(q, s), (mem q s).2 hs, rfl⟩
  refine ⟨at_, tabulates, fun q s hs => ?_, fun q o ho _ => ?_⟩
  · obtain ⟨o, ho, -, seen⟩ := sound q s hs
    obtain ⟨hstart, seen⟩ := whole (mem q s hs) seen
    exact ⟨o, ho, fun d same => Option.some.inj same ▸ hstart, seen⟩
  · obtain ⟨s, hs, seen⟩ := complete q o ho (by simp)
    exact ⟨s, hs, (whole (mem q s hs) seen).2⟩

/-- What is left of some spans when everything ends at a time. -/
def cutSpans (c : Rat) (spans : List (Span α)) : List (Span α) :=
  (spans.filter fun s => s.start ≤ c).map (Span.cut c)

theorem Tabulates.cut {at_ : Path → Span α → Prop} (h : Tabulates at_ spans) (c : Rat) :
    Tabulates (fun q s => ∃ u, at_ q u ∧ u.start ≤ c ∧ s = u.cut c) (cutSpans c spans) := by
  obtain ⟨entries, rfl, once, mem⟩ := h
  refine ⟨(entries.filter fun (_, s) => s.start ≤ c).map fun (q, s) => (q, s.cut c), ?_, ?_,
    fun q s => ?_⟩
  · rw [cutSpans, List.filter_map, List.map_map, List.map_map]
    rfl
  · rw [List.map_map]
    exact once.sublist (List.filter_sublist.map Prod.fst)
  · simp only [List.mem_map, List.mem_filter, Prod.exists, decide_eq_true_eq, Prod.mk.injEq]
    constructor
    · intro hk
      obtain ⟨u, v, ⟨huv, le⟩, rfl, rfl⟩ := hk
      exact ⟨v, (mem u v).1 huv, le, rfl⟩
    · intro hk
      obtain ⟨v, hv, le, rfl⟩ := hk
      exact ⟨q, v, ⟨(mem q v).2 hv, le⟩, rfl, rfl⟩

/-- An earlier cut shows what is seen until then. -/
theorem Shows.cut (h : Shows own limit spans) {c : Rat} (le : ∀ d, limit = some d → c ≤ d) :
    Shows own (some c) (cutSpans c spans) := by
  obtain ⟨at_, tabulates, sound, complete⟩ := h
  refine ⟨_, tabulates.cut c, ?_, ?_⟩
  · intro q s hs
    obtain ⟨u, hu, hstart, rfl⟩ := hs
    obtain ⟨o, ho, -, seen⟩ := sound q u hu
    exact ⟨o, ho, fun d same => Option.some.inj same ▸ seen.start ▸ hstart, seen.cut le⟩
  · intro q o ho before
    have before := before c rfl
    obtain ⟨s, hs, seen⟩ := complete q o ho fun d hd => before.trans_le (le d hd)
    exact ⟨s.cut c, ⟨s, hs, seen.start ▸ before.le, rfl⟩, seen.cut le⟩

end Shows

end ClusterOps.Tasks
