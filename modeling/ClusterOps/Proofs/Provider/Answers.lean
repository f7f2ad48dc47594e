import ClusterOps.Proofs.Provider.Calls
import ClusterOps.Proofs.Settings.Checked
import ClusterOps.Proofs.Wait.Steady

/-
What a provider does where the cloud answers. An answer is data or a failure and
comes within some time; only a question for the status of an update may be left
without one, because the wait for it has a deadline of its own. On a steady clock
every operation of a provider then returns: it ends with a value or a failure,
and is neither cancelled nor hung.
-/

namespace ClusterOps

variable {σ : Type}

/-- The activity ends with a value or with a failure. -/
inductive Outcome.Returns {α : Type} : Outcome α → Prop
  | done (a : α) : Returns (.done a)
  | failed (c : Cause) : Returns (.failed c)

/-- The cloud makes or refuses every connection and answers every call within some time, though a
call for the status of an update may be withdrawn or never be answered. -/
structure Cloud.Answers (cloud : Cloud σ) (within : Rat) : Prop where
  connects : ∀ state region, (cloud.connect state region).1.Returns
  soon : ∀ state now region r d, (cloud.call state now region r).1.delay = some d →
    0 ≤ d ∧ d ≤ within
  replies : ∀ state now region r, (∀ name update, r ≠ .describeUpdate name update) →
    (cloud.call state now region r).1.delay ≠ none ∧
      (cloud.call state now region r).1.outcome.Returns

theorem Cloud.Answers.within_nonneg {cloud : Cloud σ} {within : Rat} (h : cloud.Answers within)
    (state : σ) : 0 ≤ within := by
  have replies := h.replies state 0 "" (.listClusters 1 none) (by simp)
  obtain ⟨d, delay⟩ := Option.ne_none_iff_exists'.1 replies.1
  obtain ⟨positive, bounded⟩ := h.soon state 0 "" _ d delay
  exact positive.trans bounded

/-! ## Operations -/

namespace Op

variable {W α β : Type} {a b c : Rat}

/-- Begun at some time up to `a`, the operation returns, and at `b` at the latest. -/
def Returns (x : Op W α) (a b : Rat) : Prop :=
  ∀ s, 0 ≤ s.now → s.now ≤ a → (x s).1.Returns ∧ 0 ≤ (x s).2.now ∧ (x s).2.now ≤ b

theorem returns_ofExcept (e : Except Cause α) (a : Rat) : (ofExcept e : Op W α).Returns a a := by
  intro s soon before
  refine ⟨?_, soon, before⟩
  cases e with
  | error c => exact .failed c
  | ok v => exact .done v

theorem Returns.bind {x : Op W α} {f : α → Op W β} (hx : x.Returns a b)
    (hf : ∀ v, (f v).Returns b c) (le : b ≤ c) : (x >>= f).Returns a c := by
  intro s soon before
  obtain ⟨returns, soon', before'⟩ := hx s soon before
  rcases ran : x s with ⟨o, t⟩
  rw [ran] at returns soon' before'
  cases returns with
  | done v =>
    rw [bind_of_done ran]
    exact hf v t soon' before'
  | failed c =>
    rw [bind_of_failed ran]
    exact ⟨.failed c, soon', before'.trans le⟩

end Op

namespace Provider

theorem create_of_connected {cloud : Cloud σ} {t : Settings} {s : Session (Account σ)}
    (clock : Clock) (h : (cloud.connect s.world.cloud t.region).1 = .done ()) :
    create cloud clock t s
      = (.done ⟨cloud, clock, t⟩, { s with world := (s.world.connect cloud t.region).2 }) := by
  refine Op.bind_of_done (a := ()) ?_ _
  show ((cloud.connect s.world.cloud t.region).1, _) = _
  rw [h]
  rfl

/-- A refusal of the connection to its region is not worded. -/
theorem create_of_refused {cloud : Cloud σ} {t : Settings} {c : Cause} {s : Session (Account σ)}
    (clock : Clock) (h : (cloud.connect s.world.cloud t.region).1 = .failed c) :
    create cloud clock t s
      = (.failed c, { s with world := (s.world.connect cloud t.region).2 }) := by
  refine Op.bind_of_failed ?_ _
  show ((cloud.connect s.world.cloud t.region).1, _) = _
  rw [h]
  rfl

theorem wordedOutcome_returns {α : Type} {o : Outcome α} (h : o.Returns) (purpose : String) :
    (wordedOutcome purpose o).Returns := by
  cases h with
  | done v => exact .done v
  | failed c => exact .failed _

variable {p : Provider σ} {limit within a : Rat} (steady : p.clock.Steady limit)
  (answers : p.cloud.Answers within)

include steady answers

theorem returns_ask {r : Request} (asked : ∀ name update, r ≠ .describeUpdate name update)
    (purpose : String) (reach : a + within + 1 ≤ limit) :
    (p.ask purpose r).Returns a (a + within + 1 / 8) := by
  intro s soon before
  have replies := answers.replies s.world.cloud s.now p.region r asked
  obtain ⟨d, delay⟩ := Option.ne_none_iff_exists'.1 replies.1
  obtain ⟨positive, bounded⟩ := answers.soon s.world.cloud s.now p.region r d delay
  have delay : (p.made r s).reply.delay = some d := delay
  have returns : (p.made r s).reply.outcome.Returns := replies.2
  rw [ask_eq]
  simp only [delay]
  refine ⟨wordedOutcome_returns returns purpose, ?_⟩
  split
  · exact ⟨soon, by linarith⟩
  · have later := steady.fine.later s.now d (by linarith) (by linarith)
    exact ⟨steady.nonneg _ (by linarith), by linarith [later.2]⟩

theorem returns_currentLogging (name : String) (reach : a + within + 1 ≤ limit) :
    (p.currentLogging name).Returns a (a + within + 1 / 8) := by
  have described : (p.describe name).Returns a (a + within + 1 / 8) :=
    (returns_ask steady answers (by simp) _ reach).bind (fun _ => Op.returns_ofExcept _ _) le_rfl
  have active : (p.describeActive name).Returns a (a + within + 1 / 8) :=
    described.bind (fun _ => Op.returns_ofExcept _ _) le_rfl
  exact active.bind (fun _ => Op.returns_ofExcept _ _) le_rfl

theorem returns_updateLogging (name : String) (enabled disabled : List String)
    (reach : a + within + 1 ≤ limit) :
    (p.updateLogging name enabled disabled).Returns a (a + within + 1 / 8) :=
  (returns_ask steady answers (by simp) _ reach).bind (fun _ => Op.returns_ofExcept _ _) le_rfl

/-- A wait for an update returns, whatever comes of the calls for its status. -/
theorem waitForUpdate_returns (checked : p.settings.Checked) (name : String) (h : Handle)
    {s : Session (Account σ)} (soon : 0 ≤ s.now) (reach : s.now + 7200 + within + 2 ≤ limit) :
    (p.waitForUpdate name h s).1.Returns := by
  obtain ⟨positive, le, timeout⟩ := checked.times
  have hi : 1 ≤ (p.waitFor name h).interval := by
    show (1 : Rat) ≤ (p.settings.pollInterval : Rat)
    exact_mod_cast positive
  have ht : 1 ≤ (p.waitFor name h).timeout := by
    show (1 : Rat) ≤ (p.settings.waitTimeout : Rat)
    exact_mod_cast positive.trans le
  have hl : (p.waitFor name h).timeout ≤ 7200 := by
    show (p.settings.waitTimeout : Rat) ≤ 7200
    exact_mod_cast timeout
  have delays : ∀ source t d, (p.poll name h.id source t).1.delay = some d →
      0 ≤ d ∧ d ≤ within := by
    intro source t d delay
    simp only [poll] at delay
    split at delay
    · cases delay
    · exact answers.soon _ _ _ _ _ delay
  have ended := Wait.isOver_run_of_steady steady hi ht delays
    (answers.within_nonneg s.world.cloud) soon (by linarith) s.world
  obtain ⟨r, result⟩ := Wait.State.exists_result ended
  simp only [waitForUpdate, result]
  cases r with
  | reached v => exact .done ()
  | failed c => exact .failed c

end Provider

end ClusterOps
