import ClusterOps.Fanout

/-
What a listing does to the world. It changes the world by its page calls alone:
what each of them keeps, a listing keeps (`Listing.paginate_keeps`), and so does a
run of listings in many partitions, in whatever order their calls come
(`world_run`). Of a world that holds more than its page calls can see, a run sees
what they see (`steps_seen`).
-/

namespace ClusterOps

namespace Listing

variable {α σ : Type} {P : σ → Prop} {ask : σ → Value → Outcome (Page α) × σ}

theorem follow_keeps (kept : ∀ s token, P s → P (ask s token).2) {left : Nat} {token : Value}
    {pages : List (List α)} {s : σ} (h : P s) : P (follow ask left token pages s).2 := by
  induction left generalizing token pages s with
  | zero => exact h
  | succ left ih =>
    have next := kept s token h
    rw [follow]
    split
    case h_1 page t asked =>
      rw [asked] at next
      split
      · exact ih next
      · exact next
    case h_2 | h_3 | h_4 => simp_all

/-- What every page call keeps, a listing keeps. -/
theorem paginate_keeps (kept : ∀ s token, P s → P (ask s token).2) {s : σ} (h : P s) :
    P (paginate ask s).2 :=
  follow_keeps kept h

end Listing

namespace Fanout

variable {σ ι α ρ : Type}

namespace State

@[simp] theorem world_post (s : State σ α ρ) (due : Rat) (signal : Signal) :
    (s.post due signal).world = s.world := rfl

@[simp] theorem world_enter (s : State σ α ρ) (k : Nat) (ph : Phase α ρ) :
    (s.enter k ph).world = s.world := rfl

@[simp] theorem world_release (s : State σ α ρ) : s.release.world = s.world := by
  rw [release]
  split <;> rfl

@[simp] theorem world_finish (s : State σ α ρ) (k : Nat) (o : Outcome (List α)) :
    (s.finish k o).world = s.world := by
  cases o <;> simp [finish]

end State

/-- A property of the world that every page call keeps. -/
structure Calls.Keep (calls : Calls σ ι α ρ) (P : σ → Prop) : Prop where
  ask : ∀ {world}, P world → ∀ now k p token, P (calls.ask world now k p token).2
  resume : ∀ {world}, P world → ∀ now k p rest, P (calls.resume world now k p rest).2

section Run

variable {P : σ → Prop} {calls : Calls σ ι α ρ} (keep : calls.Keep P) (clock : Clock)
  {s : State σ α ρ}
include keep

theorem world_proceed (k : Nat) (p : ι) (left : Nat) (pages : List (List α)) (reply : Reply α ρ)
    (h : P s.world) : P (proceed calls clock k p left pages reply s).world := by
  fun_induction proceed calls clock k p left pages reply s with
  | case6 left pages page s truthy reply world asks ih =>
    refine ih ?_
    have asked := keep.ask h s.now k p page.next
    rwa [asks] at asked
  | case1 | case2 => exact h
  | _ => rwa [State.world_finish]

theorem world_turn (k : Nat) (p : ι) (h : P s.world) : P (turn calls clock k p s).world := by
  rw [turn]
  split
  case h_1 =>
    split
    · exact h
    · exact world_proceed keep clock k p _ _ _ (keep.ask h ..)
  case h_2 => exact world_proceed keep clock k p _ _ _ (keep.ask h ..)
  case h_3 => exact world_proceed keep clock k p _ _ _ (keep.resume h ..)
  case h_4 => exact h

theorem world_step (partitions : List ι) (h : P s.world) :
    P (step calls clock partitions s).world := by
  rw [step]
  split
  case h_1 => exact h
  case h_2 =>
    dsimp only
    split
    case h_1 =>
      split
      · exact world_turn keep clock _ _ h
      · exact h
    case h_2 | h_3 => exact h

theorem world_steps (partitions : List ι) (fuel : Nat) (h : P s.world) :
    P (steps calls clock partitions fuel s).world := by
  induction fuel generalizing s with
  | zero => exact h
  | succ fuel ih =>
    rw [steps]
    split
    · exact h
    · exact ih (world_step keep clock partitions h)

/-- What every page call keeps, a run keeps. -/
theorem world_run (width : Option Nat) (partitions : List ι) {world : σ} (now : Rat)
    (h : P world) : P (run calls clock width partitions world now).world :=
  world_steps keep clock partitions _ h

end Run

/-! ## What is seen of a world -/

variable {τ : Type}

/-- Page calls do to a world what other calls do to what is seen of it. -/
structure Sees (f : σ → τ) (calls : Calls σ ι α ρ) (seen : Calls τ ι α ρ) : Prop where
  ask : ∀ world now k p token, seen.ask (f world) now k p token =
    ((calls.ask world now k p token).1, f (calls.ask world now k p token).2)
  resume : ∀ world now k p rest, seen.resume (f world) now k p rest =
    ((calls.resume world now k p rest).1, f (calls.resume world now k p rest).2)

/-- A state with what is seen of its world. -/
def State.seen (f : σ → τ) (s : State σ α ρ) : State τ α ρ :=
  ⟨s.now, f s.world, s.free, s.queue, s.phases, s.events, s.halted⟩

theorem State.seen_finish (f : σ → τ) (s : State σ α ρ) (k : Nat) (o : Outcome (List α)) :
    (s.finish k o).seen f = (s.seen f).finish k o := by
  rcases s with ⟨now, world, free, queue, phases, events, halted⟩
  cases queue <;> cases o <;> rfl

section Seen

variable {f : σ → τ} {calls : Calls σ ι α ρ} {seen : Calls τ ι α ρ} (sees : Sees f calls seen)
  (clock : Clock) (s : State σ α ρ)
include sees

theorem proceed_seen (k : Nat) (p : ι) (left : Nat) (pages : List (List α)) (reply : Reply α ρ) :
    (proceed calls clock k p left pages reply s).seen f =
      proceed seen clock k p left pages reply (s.seen f) := by
  fun_induction proceed calls clock k p left pages reply s with
  | case1 | case2 => rw [proceed]; rfl
  | case3 | case4 | case5 => rw [proceed, State.seen_finish]
  | case6 left pages page s truthy reply world asks ih =>
    have asked : seen.ask (s.seen f).world (s.seen f).now k p page.next = (reply, f world) := by
      have asked := sees.ask s.world s.now k p page.next
      rwa [asks] at asked
    rw [proceed, if_pos truthy, asked]
    exact ih
  | case7 left pages page s last => rw [proceed, if_neg last, State.seen_finish]

theorem begin_seen (k : Nat) (p : ι) :
    (begin calls clock k p s).seen f = begin seen clock k p (s.seen f) := by
  have asked := sees.ask s.world s.now k p Listing.firstToken
  rw [begin, begin, proceed_seen sees]
  show _ = proceed seen clock k p _ _ (seen.ask (f s.world) s.now k p Listing.firstToken).1
    { s.seen f with world := (seen.ask (f s.world) s.now k p Listing.firstToken).2 }
  rw [asked]
  rfl

theorem turn_seen (k : Nat) (p : ι) :
    (turn calls clock k p s).seen f = turn seen clock k p (s.seen f) := by
  have phase : (s.seen f).phases[k]? = s.phases[k]? := rfl
  have free : (s.seen f).free = s.free := rfl
  rw [turn, turn, phase]
  split
  case h_1 =>
    rw [free]
    split
    · rfl
    · exact begin_seen sees clock _ k p
  case h_2 => exact begin_seen sees clock s k p
  case h_3 left pages rest _ =>
    have resumed := sees.resume s.world s.now k p rest
    rw [proceed_seen sees]
    show _ = proceed seen clock k p left pages (seen.resume (f s.world) s.now k p rest).1
      { s.seen f with world := (seen.resume (f s.world) s.now k p rest).2 }
    rw [resumed]
    rfl
  case h_4 => rfl

theorem step_seen (partitions : List ι) :
    (step calls clock partitions s).seen f = step seen clock partitions (s.seen f) := by
  have events : (s.seen f).events = s.events := rfl
  rw [step, step, events]
  split
  case h_1 => rfl
  case h_2 e rest _ =>
    cases signal : e.signal with
    | turn k =>
      cases at_ : partitions[k]? with
      | none =>
        simp only [at_]
        rfl
      | some p =>
        simp only [at_]
        exact turn_seen sees clock _ k p
    | notice | halt => rfl

/-- A run sees nothing else of its world than its page calls see. -/
theorem steps_seen (partitions : List ι) (fuel : Nat) :
    (steps calls clock partitions fuel s).seen f = steps seen clock partitions fuel (s.seen f) := by
  induction fuel generalizing s with
  | zero => rfl
  | succ fuel ih =>
    have events : (s.seen f).events = s.events := rfl
    rw [steps, steps, events]
    split
    · rfl
    · rw [ih, step_seen sees]

end Seen

end Fanout

end ClusterOps
