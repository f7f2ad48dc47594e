import ClusterOps.Proofs.Tasks.Blame
import ClusterOps.Reconcile.Cluster

/-
Failures reach the caller as themselves. What fails is the expansion of the declaration, fetching
what is observed, or a task in the tree of the update: the update itself or a task beside it,
however deep in the tree (`Arises`). A tree wraps the failure of a leaf on its way up, and moving to
the declaration takes it out again, so that exactly the failures that arise come out of it, none of
them wrapped. Reconciling a cluster does not fail with them: it keeps them in its result
(`failures_surface`).
-/

namespace ClusterOps.Reconcile

variable {W : Type}

/-! ## Trees with an update -/

/-- The work behind the tasks of a tree whose update takes a course. -/
def workOf (course : Rat → Course W) (job : Job) (start : Rat) : Tasks.Activity :=
  match job with
  | .update _ => (course start).activity
  | .other _ work => work start

/-- The run of a tree whose update takes a course. -/
def runTree (course : Rat → Course W) (tree : Tasks Job) (start : Rat) : Tasks.Run Job :=
  tree.run Job.name (workOf course) none start

/-- The outcome of an update, from the run of its tree. -/
def outcomeOf (r : Tasks.Run Job) : Outcome Unit :=
  match r.stop with
  | none => .hung
  | some _ =>
    match r.finish with
    | .done => .done ()
    | .failed c => .failed c.unwrapped
    | .cancelled => .cancelled

theorem perform_fst (course : Rat → Course W) (tree : Tasks Job) (s : Session W) :
    (perform course tree s).1 = outcomeOf (runTree course tree s.now) := by
  rw [perform]
  dsimp only
  split
  case h_1 stop =>
    replace stop : (runTree course tree s.now).stop = none := stop
    rw [outcomeOf, stop]
  case h_2 e stop =>
    replace stop : (runTree course tree s.now).stop = some e := stop
    rw [outcomeOf, stop]
    rfl

/-- Performing an update fails with what is inside the failure of its tree. -/
theorem perform_failed_iff {course : Rat → Course W} {tree : Tasks Job} {s : Session W}
    {e : Cause} :
    (perform course tree s).1 = .failed e ↔ ∃ stop c, (runTree course tree s.now).stop = some stop ∧
      (runTree course tree s.now).finish = .failed c ∧ e = c.unwrapped := by
  rw [perform_fst, outcomeOf]
  cases (runTree course tree s.now).stop with
  | none => simp
  | some stop => cases (runTree course tree s.now).finish <;> simp [eq_comm]

/-! ## Where failures arise -/

/-- The course of the update from what is observed to an expanded declaration. -/
def courseTo (p : Parties W) (catalog desired : List String) (observed : Facility.Observed)
    (s : Session W) (start : Rat) : Course W :=
  let d := Facility.diff observed desired catalog
  p.update d.toEnable d.toDisable { s with now := start }

/-- Something fails while what is observed is moved to a declaration. A leaf that fails with the
failure of a task itself counts with what is inside. -/
inductive Arises (p : Parties W) (catalog : List String) (plan : Bool) (declared : List String)
    (s : Session W) (e : Cause) : Prop
  | unknown {u} (refused : Facility.expand declared catalog = .error u)
      (same : e = .unknownFacility u.name)
  | fetching {desired t} (expanded : Facility.expand declared catalog = .ok desired)
      (failed : p.fetch s = (.failed e, t))
  | task {desired observed t tree u stop b}
      (expanded : Facility.expand declared catalog = .ok desired)
      (fetched : p.fetch s = (.done observed, t)) (real : plan = false)
      (changed : (Facility.diff observed desired catalog).changed = true)
      (built : p.build t = (tree, u))
      (ended : (runTree (courseTo p catalog desired observed u) tree u.now).stop = some stop)
      (blames : tree.Blames Job.name (workOf (courseTo p catalog desired observed u))
        (runTree (courseTo p catalog desired observed u) tree u.now) b)
      (same : e = b.cause.unwrapped)

variable {p : Parties W} {catalog declared desired : List String} {plan : Bool} {s t : Session W}
  {observed : Facility.Observed} {e : Cause}

theorem map_eq_failed_iff {α β : Type} {f : α → β} {o : Outcome α} :
    o.map f = .failed e ↔ o = .failed e := by
  cases o <;> simp [Outcome.map]

theorem move_failed_iff : (move p catalog desired plan observed t).1.outcome = .failed e ↔
    plan = false ∧ (Facility.diff observed desired catalog).changed = true ∧
      ∃ tree u, p.build t = (tree, u) ∧
        (perform (courseTo p catalog desired observed u) tree u).1 = .failed e := by
  rcases built : p.build t with ⟨tree, u⟩
  simp only [move, built]
  split
  case isTrue idle =>
    refine iff_of_false (by simp) fun h => ?_
    obtain ⟨real, changed, -⟩ := h
    simp [real, changed] at idle
  case isFalse due =>
    simp only [Bool.or_eq_true, Bool.not_eq_true', not_or, Bool.not_eq_false,
      Bool.not_eq_true] at due
    obtain ⟨changed, real⟩ := due
    constructor
    · exact fun h => ⟨real, changed, tree, u, rfl, map_eq_failed_iff.1 h⟩
    · intro h
      obtain ⟨-, -, tree', u', same, failed⟩ := h
      obtain ⟨rfl, rfl⟩ := Prod.mk.inj same
      exact map_eq_failed_iff.2 failed

/-- Moving to a declaration fails exactly with what arises. -/
theorem run_failed_iff : (run p catalog plan declared s).1.outcome = .failed e ↔
    Arises p catalog plan declared s e := by
  rw [run]
  constructor
  · intro h
    split at h
    case h_1 u refused => exact .unknown refused (Outcome.failed.inj h).symm
    case h_2 desired expanded =>
      split at h
      case h_1 observed t fetched =>
        obtain ⟨real, changed, tree, u, built, failed⟩ := move_failed_iff.1 h
        obtain ⟨stop, c, ended, finish, rfl⟩ := perform_failed_iff.1 failed
        obtain ⟨b, blames⟩ := Tasks.exists_blames ended finish
        obtain rfl := Tasks.Finish.failed.inj (finish.symm.trans blames.failed)
        exact .task expanded fetched real changed built ended blames (Tasks.unwrapped_raised tree b)
      case h_2 c t fetched =>
        obtain rfl := Outcome.failed.inj h
        exact .fetching expanded fetched
      case h_3 | h_4 => cases h
  · intro h
    cases h with
    | unknown refused same => rw [refused, same]
    | fetching expanded failed =>
      rw [expanded]
      simp only [failed]
    | @task _ _ _ tree _ stop b expanded fetched real changed built ended blames same =>
      rw [expanded]
      simp only [fetched]
      refine move_failed_iff.2 ⟨real, changed, _, _, built, perform_failed_iff.2 ?_⟩
      exact ⟨stop, _, ended, blames.failed, same.trans (Tasks.unwrapped_raised tree b).symm⟩

/-! ## Results -/

/-- A failure ends up in the result. -/
theorem cluster_of_failed {d : ClusterDocument}
    (failed : (run p Facility.supported plan d.declared s).1.outcome = .failed e) :
    ∃ r d' t, cluster p plan d s = (.done r, d', t) ∧ r.error = some e ∧ r.succeeded = false ∧
      r.applied = false ∧ r.stop = some (.ofSeconds t.now) := by
  rw [cluster]
  generalize run p Facility.supported plan d.declared s = ran at failed
  obtain ⟨⟨outcome, declared, spans⟩, t⟩ := ran
  obtain rfl : outcome = .failed e := failed
  exact ⟨_, _, _, rfl, rfl, rfl, rfl, rfl⟩

variable (p plan s e) in
/-- **Failures surface.** Moving to a declaration fails with exactly the causes that arise while it
goes on, and with none of them wrapped. Reconciling a cluster does not fail with them: it ends with
a result that has the cause as its error, has not succeeded or applied anything, and tells when it
ended. -/
theorem failures_surface :
    (∀ catalog declared, (run p catalog plan declared s).1.outcome = .failed e ↔
      Arises p catalog plan declared s e) ∧
    ∀ d : ClusterDocument, Arises p Facility.supported plan d.declared s e →
      ∃ r d' t, cluster p plan d s = (.done r, d', t) ∧ r.error = some e ∧ r.succeeded = false ∧
        r.applied = false ∧ r.stop = some (.ofSeconds t.now) :=
  ⟨fun _ _ => run_failed_iff, fun _ arises => cluster_of_failed (run_failed_iff.2 arises)⟩

/-- A task beside the update, in groups of its own, fails while the update goes on. -/
theorem failures_surface_beside :
    let down : Cause := .provider "down"
    let fails (start : Rat) : Tasks.Activity := ⟨some (start + 1), .failed down, false⟩
    let p : Parties Unit :=
      { fetch := Op.done ⟨["api"], []⟩
        update := fun _ _ s => ⟨[], ⟨some (s.now + 5), .done, false⟩⟩
        build := fun s => (.group false [.group true
          [.leaf (.update "update"), .group false [.leaf (.other "beside" fails)]]], s) }
    let d : ClusterDocument := ⟨"v1", "Cluster", ⟨"demo", "eu-west-1", none, []⟩, some ["audit"]⟩
    let s : Session Unit := ⟨0, (), []⟩
    Arises p Facility.supported false d.declared s down ∧
      (run p Facility.supported false d.declared s).1.outcome = .failed down ∧
      ∃ r d' t, cluster p false d s = (.done r, d', t) ∧ r.error = some down ∧
        r.succeeded = false ∧ r.applied = false ∧ r.stop = some (.ofSeconds t.now) := by
  intro down fails p d s
  have outcome : (run p Facility.supported false d.declared s).1.outcome = .failed down := by
    decide +kernel
  obtain ⟨surfaces, results⟩ := failures_surface p false s down
  have arises := (surfaces _ _).1 outcome
  exact ⟨arises, outcome, results d arises⟩

end ClusterOps.Reconcile
