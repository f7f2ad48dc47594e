import ClusterOps.OneShot
import ClusterOps.Proofs.ClusterDocument.Sound
import ClusterOps.Proofs.CommandLine.Asks
import ClusterOps.Proofs.Reconcile.Place
import ClusterOps.Proofs.Settings.Checked

/-
A run acts where it says that it acts. Two kinds of runs reconcile: a single run
told by variables, and the update of logging on a command line. Each takes the
region and the name of its cluster from several texts, in an order of its own, and
hands them on twice, to the settings that the provider goes by and to the
declaration that the result goes by. A run acts in one place (`ActsIn`) if it asks
nothing of the cloud, or else reconciles, and then all that it asks is about the
cluster that its result names, in the region that its result names.
-/

namespace ClusterOps

variable {σ : Type}

/-! ## The first text that is given -/

namespace Environment

/-- The first of some texts that is not empty, or an empty text if there is none. -/
def firstGiven (texts : List String) : String := (texts.find? fun text => !text.isEmpty).getD ""

theorem firstGiven_cons (text : String) (rest : List String) :
    firstGiven (text :: rest) = orElse text (firstGiven rest) := by
  rw [firstGiven, List.find?_cons, orElse]
  cases text.isEmpty <;> rfl

theorem orElse_empty (text : String) : orElse text "" = text := by
  rw [orElse]
  split
  case isTrue empty => exact (String.isEmpty_iff.1 empty).symm
  case isFalse => rfl

theorem firstGiven_pair (a b : String) : firstGiven [a, b] = orElse a b := by
  rw [firstGiven_cons, firstGiven_cons]
  exact congrArg (orElse a) (orElse_empty b)

theorem orElse_of_given {a : String} (h : ¬ a.isEmpty) (b : String) : orElse a b = a := if_neg h

theorem orElse_of_isEmpty {a : String} (h : a.isEmpty = true) (b : String) : orElse a b = b :=
  if_pos h

theorem orElse_assoc (a b c : String) : orElse (orElse a b) c = orElse a (orElse b c) := by
  by_cases empty : a.isEmpty
  · rw [orElse_of_isEmpty empty, orElse_of_isEmpty empty]
  · rw [orElse_of_given empty, orElse_of_given empty, orElse_of_given empty]

theorem orElse_given {b : String} (h : ¬ b.isEmpty) (a : String) : ¬ (orElse a b).isEmpty := by
  rw [orElse]
  split
  case isTrue => exact h
  case isFalse given => exact given

end Environment

/-! ## Declarations -/

/-- The identity that the declaration in a file gives, if it holds one. -/
def Surroundings.identityIn (w : Surroundings σ) (path : String) : Option Identity :=
  (ClusterDocument.load w.files path).toOption.map ClusterDocument.identity

theorem Surroundings.load_of_document {W : Type} {w : Surroundings σ} {path : String}
    {d : ClusterDocument} {s t : Session W} (h : w.document path s = (.done d, t)) :
    ClusterDocument.load w.files path = .ok d := by
  obtain ⟨d', u, read, next⟩ := Op.done_of_bind h
  obtain rfl := Outcome.done.inj (Prod.mk.inj next).1
  exact Op.ok_of_ofExcept read

theorem Surroundings.identityIn_of_document {W : Type} {w : Surroundings σ} {path : String}
    {d : ClusterDocument} {s t : Session W} (h : w.document path s = (.done d, t)) :
    w.identityIn path = some d.identity := by
  rw [identityIn, load_of_document h]
  rfl

theorem ClusterDocument.identity_of_new {name region : String} {types : List String}
    {version : Option String} {d : ClusterDocument} (named : ¬ name.isEmpty)
    (h : new name region types version = .ok d) :
    d.identity.name = name ∧ d.identity.region = region := by
  rcases new_cases region types version named with ⟨-, made⟩ | ⟨-, refused⟩
  · obtain rfl := Except.ok.inj (made.symm.trans h)
    exact ⟨rfl, rfl⟩
  · cases refused.symm.trans h

/-! ## Runs that act in one place -/

/-- A run from one session to another reconciles, with a given outcome: all its calls are those of
one reconciliation, they are about the cluster of a name and go to its region, which is one, and the
result names the same cluster and the same region. -/
structure Reconciles (w : Surroundings σ) (region name : String) (s t : Session (Account σ))
    (o : Outcome Reconciliation) : Prop where
  valid : Settings.isRegion region = true
  ran : ∃ settings plan d u, u.world.calls = s.world.calls ∧
    Reconcile.result ⟨w.cloud, w.clock, settings⟩ plan d u = (o, t)
  asked : s.world.Adds (Call.Concerns region name) t.world
  told : ∀ r, o = .done r → r.region = region ∧ r.cluster = name

/-- A run has asked nothing of the cloud, or it reconciles the cluster of a name in its region and
finishes as the outcome has it. -/
def ActsIn {ε : Type} (w : Surroundings σ) (region name : String)
    (finish : Outcome Reconciliation → ε) (s : Session (Account σ))
    (ran : ε × Session (Account σ)) : Prop :=
  ran.2.world.calls = s.world.calls ∨
    ∃ o, Reconciles w region name s ran.2 o ∧ ran.1 = finish o

section

variable {w : Surroundings σ} {region name : String} {s : Session (Account σ)} {α β ε : Type}

/-- Settings and a declaration that have one region reconcile in it. -/
theorem reconciles_result {t : Settings} (checked : t.Checked) (plan : Bool) {d : ClusterDocument}
    (same : d.identity.region = t.region) (s : Session (Account σ)) :
    Reconciles w t.region d.identity.name s
      (Reconcile.result ⟨w.cloud, w.clock, t⟩ plan d s).2
      (Reconcile.result ⟨w.cloud, w.clock, t⟩ plan d s).1 where
  valid := checked.isRegion_region
  ran := ⟨t, plan, d, s, rfl, rfl⟩
  asked := Reconcile.asks_result ⟨w.cloud, w.clock, t⟩ plan d s
  told r done := by
    rw [← same]
    exact Reconcile.place_of_result (Prod.ext done rfl)

/-- A run that has asked nothing acts where the rest of it does. -/
theorem ActsIn.of_calls_eq {finish : Outcome Reconciliation → ε} {u : Session (Account σ)}
    {ran : ε × Session (Account σ)} (same : u.world.calls = s.world.calls)
    (h : ActsIn w region name finish u ran) : ActsIn w region name finish s ran := by
  refine h.imp (fun idle => idle.trans same) fun acts => ?_
  obtain ⟨o, reconciles, finished⟩ := acts
  obtain ⟨settings, plan, d, v, calls, ran⟩ := reconciles.ran
  exact ⟨o, ⟨reconciles.valid, ⟨settings, plan, d, v, calls.trans same, ran⟩,
    (Account.Adds.of_calls_eq same).trans reconciles.asked, reconciles.told⟩, finished⟩

theorem actsIn_bind {finish : Outcome Reconciliation → Outcome β} {x : Op (Account σ) α}
    {f : α → Op (Account σ) β} (quiet : x.Asks fun _ => False)
    (next : ∀ a u, x s = (.done a, u) → ActsIn w region name finish u (f a u)) :
    ActsIn w region name finish s ((x >>= f) s) := by
  rcases quiet.calls_bind f s with ⟨idle, -⟩ | ⟨a, u, ran, idle, goes⟩
  · exact .inl idle
  · rw [goes]
    exact (next a u ran).of_calls_eq idle

theorem actsIn_work {finish : Outcome Reconciliation → Outcome (Except CommandLine.Refusal β)}
    {x : CommandLine.Work σ α} {f : α → CommandLine.Work σ β} (quiet : x.Asks fun _ => False)
    (next : ∀ a u, x.run s = (.done (.ok a), u) → ActsIn w region name finish u ((f a).run u)) :
    ActsIn w region name finish s ((x >>= f).run s) := by
  rcases quiet.calls_bind f s with ⟨idle, -⟩ | ⟨a, u, ran, idle, goes⟩
  · exact .inl idle
  · rw [goes]
    exact (next a u ran).of_calls_eq idle

end

end ClusterOps
