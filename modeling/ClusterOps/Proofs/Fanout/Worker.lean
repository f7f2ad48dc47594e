import ClusterOps.Proofs.Fanout.Schedule
import ClusterOps.Proofs.Fanout.World

/-
What a worker lists is what its partition lists alone (`listing`), whatever the
others do meanwhile. The page calls share a world, but each answers by the
partition and by the worker's own calls so far, after as many waits as it likes
(`Follows`); then a worker that begins is on the way to the listing of its
partition and has a number of turns before it (`OnCourse`), and each turn keeps
it on its way, brings it nearer to its end and leaves the others where they are
(`turn_turned`).
-/

namespace ClusterOps.Fanout

open Listing

variable {σ ι α ρ : Type}

/-! ## A partition alone -/

/-- The page call of a partition that answers by the tokens it was asked for, the last one first. -/
def asking (answer : ι → List Value → Except Cause (Page α)) (p : ι) (asked : List Value)
    (token : Value) : Outcome (Page α) × List Value :=
  (.ofExcept (answer p (token :: asked)), token :: asked)

/-- The listing of a partition alone. -/
def listing (answer : ι → List Value → Except Cause (Page α)) (p : ι) : Outcome (List α) :=
  (paginate (asking answer p) []).1

variable {answer : ι → List Value → Except Cause (Page α)} {p : ι}

/-- What a listing comes to after an answer, with `left` more pages to be asked for. -/
def settled (answer : ι → List Value → Except Cause (Page α)) (p : ι) (left : Nat)
    (pages : List (List α)) (asked : List Value) : Except Cause (Page α) → Outcome (List α)
  | .error c => .failed c
  | .ok page =>
    if page.next.isTruthy then
      (follow (asking answer p) left page.next (page.items :: pages) asked).1
    else .done (joined (page.items :: pages))

theorem follow_succ (left : Nat) (token : Value) (pages : List (List α)) (asked : List Value) :
    (follow (asking answer p) (left + 1) token pages asked).1
      = settled answer p left pages (token :: asked) (answer p (token :: asked)) := by
  rw [follow, asking]
  cases answer p (token :: asked) with
  | error c => rfl
  | ok page =>
    simp only [Outcome.ofExcept, settled]
    split <;> rfl

/-- A partition that always answers is listed or fails. -/
theorem follow_ends (left : Nat) (token : Value) (pages : List (List α)) (asked : List Value) :
    (∃ items, (follow (asking answer p) left token pages asked).1 = .done items) ∨
      ∃ c, (follow (asking answer p) left token pages asked).1 = .failed c := by
  induction left generalizing token pages asked with
  | zero => exact .inr ⟨_, rfl⟩
  | succ left ih =>
    rw [follow_succ]
    cases answer p (token :: asked) with
    | error c => exact .inr ⟨c, rfl⟩
    | ok page =>
      rw [settled]
      split
      · exact ih ..
      · exact .inl ⟨_, rfl⟩

theorem listing_ends (answer : ι → List Value → Except Cause (Page α)) (p : ι) :
    (∃ items, listing answer p = .done items) ∨ ∃ c, listing answer p = .failed c :=
  follow_ends ..

/-! ## Page calls that share a world -/

/-- What of a world each worker can tell: the tokens it has asked for, the last one first, and what
the rest of a call that waits comes to, namely an answer after at most so many more waits. -/
structure View (σ α ρ : Type) where
  asked : σ → Nat → List Value
  owes : σ → Nat → ρ → Nat → Except Cause (Page α) → Prop

namespace View

variable (view : View σ α ρ)

/-- A reply leads to an answer, after at most so many waits. -/
def LeadsTo (world : σ) (k : Nat) (a : Except Cause (Page α)) : Nat → Reply α ρ → Prop
  | _, .page page => a = .ok page
  | _, .failed c => a = .error c
  | m + 1, .after (some _) rest => view.owes world k rest m a
  | _, _ => False

/-- A worker can tell no difference between two worlds. -/
structure Keeps (k : Nat) (world world' : σ) : Prop where
  asked : view.asked world' k = view.asked world k
  owes : ∀ rest m a, view.owes world k rest m a → view.owes world' k rest m a

variable {view}

theorem Keeps.refl (k : Nat) (world : σ) : view.Keeps k world world := ⟨rfl, fun _ _ _ h => h⟩

theorem Keeps.trans {k : Nat} {w₁ w₂ w₃ : σ} (h : view.Keeps k w₁ w₂) (h' : view.Keeps k w₂ w₃) :
    view.Keeps k w₁ w₃ :=
  ⟨h'.asked.trans h.asked, fun rest m a owes => h'.owes rest m a (h.owes rest m a owes)⟩

end View

/-- The page calls have the given answers: each comes after a number of waits, which may be of any
length and may depend on anything, and no call makes a difference to the other workers. -/
structure Follows (calls : Calls σ ι α ρ) (answer : ι → List Value → Except Cause (Page α))
    (view : View σ α ρ) : Prop where
  ask : ∀ {world now k p token reply world'},
    calls.ask world now k p token = (reply, world') →
      view.asked world' k = token :: view.asked world k ∧
      view.LeadsTo world' k (answer p (token :: view.asked world k)) calls.waits reply ∧
      ∀ j ≠ k, view.Keeps j world world'
  resume : ∀ {world now k p rest m a reply world'},
    view.owes world k rest m a → calls.resume world now k p rest = (reply, world') →
      view.asked world' k = view.asked world k ∧
      view.LeadsTo world' k a m reply ∧
      ∀ j ≠ k, view.Keeps j world world'

/-! ## A worker on its way -/

/-- A worker is on its way to the listing of its partition and has at most so many turns before
it, where a page call waits at most `waits` times. -/
inductive OnCourse (waits : Nat) (answer : ι → List Value → Except Cause (Page α))
    (view : View σ α ρ) (world : σ) (k : Nat) (p : ι) : Phase α ρ → Nat → Prop
  | fresh : view.asked world k = [] →
    OnCourse waits answer view world k p .fresh (limit * waits + 2)
  | queued : view.asked world k = [] →
    OnCourse waits answer view world k p .queued (limit * waits + 1)
  | granted : view.asked world k = [] →
    OnCourse waits answer view world k p .granted (limit * waits + 1)
  | listing {left pages rest m a} : view.owes world k rest m a →
    settled answer p left pages (view.asked world k) a = listing answer p →
    OnCourse waits answer view world k p (.listing left pages rest) (left * waits + m + 1)
  | ended : OnCourse waits answer view world k p (.over (listing answer p)) 0

variable {waits k : Nat} {view : View σ α ρ} {width : Option Nat}

theorem OnCourse.keep {world world' : σ} {ph : Phase α ρ} {b : Nat}
    (h : OnCourse waits answer view world k p ph b) (kept : view.Keeps k world world') :
    OnCourse waits answer view world' k p ph b := by
  cases h with
  | fresh none => exact .fresh (kept.asked.trans none)
  | queued none => exact .queued (kept.asked.trans none)
  | granted none => exact .granted (kept.asked.trans none)
  | listing owes eq => exact .listing (kept.owes _ _ _ owes) (kept.asked ▸ eq)
  | ended => exact .ended

/-- The worker has had a turn: it is on its way with at most so many turns left, and nothing has
happened to another one but that it may have got the slot it waits for. -/
structure Turned (width : Option Nat) (waits : Nat)
    (answer : ι → List Value → Except Cause (Page α)) (view : View σ α ρ) (k : Nat) (p : ι)
    (s : State σ α ρ) (b : Nat) (s' : State σ α ρ) : Prop where
  scheduled : Scheduled width none s'
  length : s'.phases.length = s.phases.length
  worlds : ∀ j ≠ k, view.Keeps j s.world s'.world
  others : ∀ j ≠ k, s'.phases[j]? = s.phases[j]? ∨
    s.phases[j]? = some .queued ∧ s'.phases[j]? = some .granted
  own : ∃ ph b', s'.phases[k]? = some ph ∧ OnCourse waits answer view s'.world k p ph b' ∧ b' ≤ b

variable {s s' : State σ α ρ} {b : Nat}

theorem Turned.mono (h : Turned width waits answer view k p s b s') {b' : Nat} (le : b ≤ b') :
    Turned width waits answer view k p s b' s' :=
  let ⟨ph, n, hk, on, hn⟩ := h.own
  { h with own := ⟨ph, n, hk, on, Nat.le_trans hn le⟩ }

/-- A turn can begin with what is no difference to the other workers. -/
theorem Turned.after {s₀ : State σ α ρ} (h : Turned width waits answer view k p s b s')
    (kept : ∀ j ≠ k, view.Keeps j s₀.world s.world) (phases : s.phases = s₀.phases) :
    Turned width waits answer view k p s₀ b s' :=
  { h with
    length := phases ▸ h.length
    worlds := fun j hj => (kept j hj).trans (h.worlds j hj)
    others := phases ▸ h.others }

@[simp] theorem State.length_release (s : State σ α ρ) :
    s.release.phases.length = s.phases.length := by
  rw [State.release]
  split <;> simp [State.enter]

/-- A worker that has a slot ends with the listing of its partition. -/
theorem finish_turned (h : Scheduled width (some k) (s.enter k .granted))
    (lt : k < s.phases.length) {o : Outcome (List α)} (eq : o = listing answer p) :
    Turned width waits answer view k p s b (s.finish k o) := by
  have at_ : (s.enter k .granted).phases[k]? = some .granted := by
    simp [State.phases_enter s k k _ lt]
  have finish : s.finish k o = ((s.enter k .granted).enter k (.over o)).release := by
    rw [State.enter_enter, eq]
    rcases listing_ends answer p with ⟨items, done⟩ | ⟨c, failed⟩
    · rw [done]; rfl
    · rw [failed]; rfl
  obtain ⟨own, others⟩ := h.phases_release at_ rfl o
  rw [finish]
  refine ⟨h.release at_ rfl o, by simp [State.enter], ?worlds, ?others, ?own⟩
  case worlds =>
    intro j _
    rw [State.world_release]
    exact .refl ..
  case others =>
    intro j hj
    simpa [State.phases_enter s k j _ lt, hj] using others j hj
  case own => exact ⟨_, 0, own, eq ▸ .ended, Nat.zero_le _⟩

/-! ## A turn -/

section Turn

variable {calls : Calls σ ι α ρ} (follows : Follows calls answer view) (clock : Clock)
include follows

/-- A worker that has a slot and the reply to a call is still on its way when it has to wait, and
is at its end otherwise. -/
theorem proceed_turned (left : Nat) (pages : List (List α)) (reply : Reply α ρ) {m : Nat}
    {a : Except Cause (Page α)} (h : Scheduled width (some k) (s.enter k .granted))
    (lt : k < s.phases.length) (leads : view.LeadsTo s.world k a m reply)
    (eq : settled answer p left pages (view.asked s.world k) a = listing answer p) :
    Turned width calls.waits answer view k p s (left * calls.waits + m)
      (proceed calls clock k p left pages reply s) := by
  fun_induction proceed calls clock k p left pages reply s generalizing m a with
  | case1 left pages rest s entered =>
    cases m with
    | zero => exact leads.elim
    | succ m =>
      have at_ : (s.enter k .granted).phases[k]? = some .granted := by
        simp [State.phases_enter s k k _ lt]
      have listing : entered.phases[k]? = some (.listing left pages rest) := by
        simp [entered, State.phases_enter s k k _ lt]
      have kept : Scheduled width (some k) entered := by
        have kept : Scheduled width (some k) ((s.enter k .granted).enter k _) :=
          h.keepSlot at_ rfl (show (Phase.listing left pages rest).holds = true from rfl)
        rwa [State.enter_enter] at kept
      refine ⟨kept.post ⟨_, listing, rfl⟩ _, ?length, fun j _ => .refl .., ?others, ?own⟩
      case length => simp [entered, State.enter]
      case others =>
        intro j hj
        simp [entered, State.phases_enter s k j _ lt, hj]
      case own => exact ⟨_, _, listing, .listing leads eq, Nat.le_refl _⟩
  | case2 => cases m <;> exact leads.elim
  | case3 left pages c s =>
    obtain rfl : a = .error c := by cases m <;> exact leads
    exact finish_turned h lt eq
  | case4 => cases m <;> exact leads.elim
  | case5 pages page s =>
    obtain rfl : a = .ok page := by cases m <;> exact leads
    exact finish_turned h lt eq
  | case6 left pages page s truthy reply world asks ih =>
    obtain rfl : a = .ok page := by cases m <;> exact leads
    obtain ⟨asked, leads', kept⟩ := follows.ask asks
    -- The next page is asked for in the same turn, and its waits are counted anew.
    have eq' : settled answer p left (page.items :: pages) (view.asked world k)
        (answer p (page.next :: view.asked s.world k)) = listing answer p := by
      rw [settled, if_pos truthy, follow_succ] at eq
      rw [asked, eq]
    refine ((ih (h.world world) lt leads' eq').after kept rfl).mono ?_
    rw [Nat.succ_mul]
    exact Nat.le_add_right _ m
  | case7 left pages page s last =>
    obtain rfl : a = .ok page := by cases m <;> exact leads
    rw [settled, if_neg last] at eq
    exact finish_turned h lt eq

/-- A worker that has a slot begins with the first page of its partition. -/
theorem begin_turned (h : Scheduled width (some k) (s.enter k .granted))
    (lt : k < s.phases.length) (none : view.asked s.world k = []) :
    Turned width calls.waits answer view k p s (limit * calls.waits)
      (begin calls clock k p s) := by
  cases asks : calls.ask s.world s.now k p firstToken with
  | mk reply world =>
    obtain ⟨asked, leads, kept⟩ := follows.ask asks
    have eq : settled answer p (limit - 1) [] (view.asked world k)
        (answer p (firstToken :: view.asked s.world k)) = listing answer p := by
      rw [asked, none, ← follow_succ]
      rfl
    rw [begin, asks]
    have went := proceed_turned (s := { s with world := world }) follows clock (limit - 1) [] reply
      (h.world world) lt leads eq
    refine (went.after kept rfl).mono ?_
    rw [← Nat.succ_mul]
    exact Nat.le_refl _

/-- A turn brings a worker nearer to its end. -/
theorem turn_turned {ph : Phase α ρ} (h : Scheduled width (some k) s)
    (at_ : s.phases[k]? = some ph) (isDue : ph.isDue = true)
    (on : OnCourse calls.waits answer view s.world k p ph b) :
    ∃ b' < b, Turned width calls.waits answer view k p s b' (turn calls clock k p s) := by
  obtain ⟨lt, -⟩ := List.getElem?_eq_some_iff.1 at_
  cases on with
  | fresh none =>
    by_cases full : s.free = some 0
    · refine ⟨limit * calls.waits + 1, Nat.lt_succ_self _, ?_⟩
      have lined : turn calls clock k p s
          = { s.enter k .queued with queue := s.queue ++ [k] } := by
        simp [turn, at_, full]
      rw [lined]
      refine ⟨h.lineUp at_ full, by simp [State.enter], fun j _ => .refl .., ?others, ?own⟩
      case others =>
        intro j hj
        exact .inl ((State.phases_enter s k j _ lt).trans (if_neg hj))
      case own =>
        have entered := (State.phases_enter s k k .queued lt).trans (if_pos rfl)
        exact ⟨_, _, entered, .queued none, Nat.le_refl _⟩
    · refine ⟨limit * calls.waits, by omega, ?_⟩
      have began : turn calls clock k p s
          = begin calls clock k p { s with free := s.free.map (· - 1) } := by
        simp [turn, at_]
      rw [began]
      exact (begin_turned follows clock (h.takeSlot at_ full) lt none).after
        (fun j _ => .refl ..) rfl
  | queued => cases isDue
  | granted none =>
    refine ⟨limit * calls.waits, Nat.lt_succ_self _, ?_⟩
    have began : turn calls clock k p s = begin calls clock k p s := by rw [turn, at_]
    rw [began]
    exact begin_turned follows clock (h.keepSlot at_ rfl rfl) lt none
  | @listing left pages rest m a owes eq =>
    refine ⟨left * calls.waits + m, Nat.lt_succ_self _, ?_⟩
    cases resumes : calls.resume s.world s.now k p rest with
    | mk reply world =>
      obtain ⟨asked, leads, kept⟩ := follows.resume owes resumes
      have resumed : turn calls clock k p s
          = proceed calls clock k p left pages reply { s with world := world } := by
        simp only [turn, at_, resumes]
      rw [resumed]
      exact (proceed_turned (s := { s with world := world }) follows clock left pages reply
        ((h.keepSlot at_ rfl rfl).world world) lt leads (asked ▸ eq)).after kept rfl
  | ended => cases isDue

end Turn

end ClusterOps.Fanout
