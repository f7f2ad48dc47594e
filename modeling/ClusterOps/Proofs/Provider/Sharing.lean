import ClusterOps.Cloud.Simulated
import ClusterOps.Proofs.Fanout.World
import ClusterOps.Proofs.Provider.Ledger
import ClusterOps.Proofs.Settings.Checked
import Mathlib.Data.List.Perm.Subperm
import Mathlib.Logic.Relation

/-
What listings on one provider share, in whatever order things come. A worker makes a
connection only when it begins; then it waits for this connection, or there is one to its
region, or it is at its end (`Stands`). So no worker makes two, and a worker whose page
came through a connection makes none for the next. A turn in one listing leaves the others
as they stand (`Sharing.Kept`), and so do all turns of a run. The listing that runs is one
of these runs (`steps_clustersIn`), so that the same holds of it (`clustersIn_connections`).
-/

namespace ClusterOps.Provider

variable {σ : Type} {p : Provider σ}

/-! ## Workers -/

/-- What is known of the connection of a worker from its phase. -/
def Stands (p : Provider σ) (l : Ledger σ) (region : String) (link : Link) :
    Fanout.Phase ClusterSummary Rest → Prop
  | .fresh | .queued | .granted => ∀ c ∈ l.made, c.2 ≠ link
  | .listing _ _ rest => Awaits p l region link rest
  | .over _ => True

/-- What other workers do makes no difference to it. -/
theorem Stands.grows {l l' : Ledger σ} {region : String} {link : Link}
    {theirs : String × Link → Prop} {ph : Fanout.Phase ClusterSummary Rest}
    (h : Stands p l region link ph) (grows : l.Grows p theirs l')
    (other : ∀ c, theirs c → c.2 ≠ link) : Stands p l' region link ph := by
  obtain ⟨new, made, -⟩ := grows.made
  cases ph with
  | fresh | queued | granted =>
    intro c mem
    exact (grows.others c mem).elim (h c) (other c)
  | listing left pages rest =>
    cases rest with
    | connected token outcome =>
      show (region, link) ∈ l'.made
      exact made ▸ List.mem_append_left _ h
    | answered outcome =>
      obtain ⟨there, linked⟩ := Option.ne_none_iff_exists'.1 h
      exact fun none => Option.some_ne_none there ((grows.stays linked).symm.trans none)
  | _ => trivial

/-- How the workers of the listing of some number stand. Of one that has its turn nothing is
known. -/
structure Fit (p : Provider σ) (i : Nat) (busy : Option Nat) (regions : List String)
    (s : Fanout.State (Ledger σ) ClusterSummary Rest) : Prop where
  queued : ∀ k ∈ s.queue, s.phases[k]? = some .queued
  once : s.queue.Nodup
  unqueued : ∀ k ∈ s.queue, busy ≠ some k
  stands : ∀ {k region ph}, busy ≠ some k → regions[k]? = some region → s.phases[k]? = some ph →
    Stands p s.world region (.made i k) ph

namespace Fit

variable {i k : Nat} {busy : Option Nat} {regions : List String} {region : String}
  {s : Fanout.State (Ledger σ) ClusterSummary Rest} {ph : Fanout.Phase ClusterSummary Rest}

/-- How they stand has nothing to do with the time and with what is put off. -/
theorem of_eq (h : Fit p i busy regions s) {s' : Fanout.State (Ledger σ) ClusterSummary Rest}
    (world : s'.world = s.world) (queue : s'.queue = s.queue) (phases : s'.phases = s.phases) :
    Fit p i busy regions s' where
  queued := by
    rw [queue, phases]
    exact h.queued
  once := queue ▸ h.once
  unqueued := queue ▸ h.unqueued
  stands := by
    rw [world, phases]
    exact h.stands

/-- A worker that does not queue has its turn. -/
theorem turn (h : Fit p i none regions s) (at_ : s.phases[k]? = some ph) (ready : ph ≠ .queued) :
    Fit p i (some k) regions s where
  queued := h.queued
  once := h.once
  unqueued := by
    rintro j mem ⟨⟩
    exact ready (Option.some.inj (at_.symm.trans (h.queued k mem)))
  stands := fun _ => h.stands nofun

/-- The ledger grows by what is not done by one of the others. -/
theorem grows (h : Fit p i busy regions s) {l : Ledger σ} {theirs : String × Link → Prop}
    (grows : s.world.Grows p theirs l)
    (other : ∀ k, busy ≠ some k → ∀ c, theirs c → c.2 ≠ .made i k) :
    Fit p i busy regions { s with world := l } where
  queued := h.queued
  once := h.once
  unqueued := h.unqueued
  stands idle region at_ := (h.stands idle region at_).grows grows (other _ idle)

/-- The ledger grows by what a worker does in its turn. -/
theorem growsOwn (h : Fit p i (some k) regions s) {l : Ledger σ}
    (grows : s.world.Grows p (· = (region, .made i k)) l) :
    Fit p i (some k) regions { s with world := l } := by
  refine h.grows grows fun j idle c own same => idle ?_
  simpa [own] using same

/-- The turn of a worker is over when it has come to a phase. -/
theorem enter (h : Fit p i (some k) regions s)
    (stands : ∀ {region}, regions[k]? = some region → Stands p s.world region (.made i k) ph) :
    Fit p i none regions (s.enter k ph) where
  queued j mem := by
    have other : k ≠ j := fun same => h.unqueued j mem (congrArg some same)
    rw [Fanout.State.enter, List.getElem?_set_ne other]
    exact h.queued j mem
  once := h.once
  unqueued := nofun
  stands {j region ph'} _ region' at_ := by
    by_cases same : k = j
    · subst same
      rw [Fanout.State.enter, List.getElem?_set_self'] at at_
      obtain ⟨-, -, rfl⟩ := Option.map_eq_some_iff.1 at_
      exact stands region'
    · rw [Fanout.State.enter, List.getElem?_set_ne same] at at_
      exact h.stands (fun eq => same (Option.some.inj eq)) region' at_

/-- A worker that begins finds no slot and queues. -/
theorem lineUp (h : Fit p i none regions s) (fresh : s.phases[k]? = some .fresh) :
    Fit p i none regions { s.enter k .queued with queue := s.queue ++ [k] } := by
  have unqueued : k ∉ s.queue := fun mem => by cases fresh.symm.trans (h.queued k mem)
  have idle : ∀ {region}, regions[k]? = some region →
      Stands p s.world region (.made i k) .fresh := fun region => h.stands nofun region fresh
  have entered : Fit p i none regions (s.enter k .queued) := (h.turn fresh nofun).enter idle
  have once := List.Nodup.append h.once (List.nodup_singleton k) (by simpa using unqueued)
  refine ⟨fun j mem => ?_, once, nofun, entered.stands⟩
  rcases List.mem_append.1 mem with mem | mem
  · exact entered.queued j mem
  · obtain rfl := List.mem_singleton.1 mem
    obtain ⟨lt, -⟩ := List.getElem?_eq_some_iff.1 fresh
    simp [Fanout.State.enter, lt]

/-- The first that queues is given a slot. -/
theorem release (h : Fit p i none regions s) : Fit p i none regions s.release := by
  rw [Fanout.State.release]
  split
  case h_1 j rest queue =>
    have queued := h.queued
    have once := h.once
    rw [queue] at queued once
    obtain ⟨absent, once⟩ := List.nodup_cons.1 once
    have freed : Fit p i (some j) regions { s with queue := rest } :=
      ⟨fun k mem => queued k (List.mem_cons_of_mem _ mem), once,
        fun k mem same => absent (Option.some.inj same ▸ mem), fun _ => h.stands (by simp)⟩
    have idle : ∀ {region}, regions[j]? = some region →
        Stands p s.world region (.made i j) .queued :=
      fun region => h.stands (by simp) region (queued j List.mem_cons_self)
    have given : Fit p i none regions (Fanout.State.enter _ j .granted) := freed.enter idle
    exact given.of_eq rfl rfl rfl
  case h_2 => exact h.of_eq rfl rfl rfl

/-- A worker comes to its end. -/
theorem finish (h : Fit p i (some k) regions s) (o : Outcome (List ClusterSummary)) :
    Fit p i none regions (s.finish k o) := by
  have entered : Fit p i none regions (s.enter k (.over o)) := h.enter fun _ => trivial
  cases o with
  | cancelled => exact entered.release.of_eq rfl rfl rfl
  | _ => exact entered.release

end Fit

/-! ## Turns -/

/-- What a turn in a listing comes to, where such connections can be made. -/
structure Turned (p : Provider σ) (a : Account σ) (i : Nat) (regions : List String)
    (theirs : String × Link → Prop) (l : Ledger σ)
    (s : Fanout.State (Ledger σ) ClusterSummary Rest) : Prop where
  sound : s.world.Sound p a
  grows : l.Grows p theirs s.world
  fit : Fit p i none regions s

/-- The ledger can have grown before. -/
theorem Turned.after {a : Account σ} {i : Nat} {regions : List String}
    {theirs : String × Link → Prop} {l l' : Ledger σ}
    {s : Fanout.State (Ledger σ) ClusterSummary Rest} (h : Turned p a i regions theirs l' s)
    (grows : l.Grows p theirs l') : Turned p a i regions theirs l s :=
  { h with grows := grows.trans h.grows }

section Turn

variable {a : Account σ} {i k : Nat} {regions : List String} {region : String}
  (at_ : regions[k]? = some region) {s : Fanout.State (Ledger σ) ClusterSummary Rest}

include at_

/-- A worker comes to a phase or to its end. -/
theorem proceed_turned (left : Nat) (pages : List (List ClusterSummary))
    (reply : Fanout.Reply ClusterSummary Rest) (sound : s.world.Sound p a)
    (fit : Fit p i (some k) regions s) (replied : Replied p s.world region (.made i k) reply) :
    Turned p a i regions (· = (region, .made i k)) s.world
      (Fanout.proceed (p.pageCallsNoted i) p.clock k region left pages reply s) := by
  have ended : ∀ (s : Fanout.State (Ledger σ) ClusterSummary Rest) o, s.world.Sound p a →
      Fit p i (some k) regions s →
      Turned p a i regions (· = (region, .made i k)) s.world (s.finish k o) := by
    intro s o sound fit
    have world := Fanout.State.world_finish s k o
    exact ⟨world.symm ▸ sound, by rw [world]; exact .of_made_eq id rfl, fit.finish o⟩
  fun_induction Fanout.proceed (p.pageCallsNoted i) p.clock k region left pages reply s with
  | case1 left pages rest s entered | case2 left pages rest s entered =>
    have entered : Fit p i none regions (s.enter k (.listing left pages rest)) := by
      refine fit.enter fun region' => ?_
      obtain rfl := Option.some.inj (at_.symm.trans region')
      exact replied
    exact ⟨sound, .of_made_eq id rfl, entered.of_eq rfl rfl rfl⟩
  | case6 left pages page s truthy reply world asks ih =>
    -- The page came through a connection, so that none is made for the next one.
    have does := ask_does (i := i) (k := k) sound s.now
      (fun none => absurd none replied) page.next
    rw [asks] at does
    exact (ih does.sound (fit.growsOwn does.grows) does.replied).after does.grows
  | case3 | case4 | case5 | case7 => exact ended _ _ sound fit

/-- A worker that has made no connection begins. -/
theorem begin_turned (sound : s.world.Sound p a) (fit : Fit p i (some k) regions s)
    (idle : ∀ c ∈ s.world.made, c.2 ≠ .made i k) :
    Turned p a i regions (· = (region, .made i k)) s.world
      (Fanout.begin (p.pageCallsNoted i) p.clock k region s) := by
  have does : Does p _ _ region _ _ :=
    ask_does (i := i) (k := k) sound s.now (fun _ => idle) Listing.firstToken
  exact (proceed_turned at_ (Listing.limit - 1) [] _ does.sound (fit.growsOwn does.grows)
    does.replied).after does.grows

/-- A worker has its turn. -/
theorem turn_turned (sound : s.world.Sound p a) (fit : Fit p i none regions s) :
    Turned p a i regions (· = (region, .made i k)) s.world
      (Fanout.turn (p.pageCallsNoted i) p.clock k region s) := by
  rw [Fanout.turn]
  split
  case h_1 fresh =>
    split
    case h_1 => exact ⟨sound, .of_made_eq id rfl, fit.lineUp fresh⟩
    case h_2 =>
      exact begin_turned (s := { s with free := s.free.map (· - 1) }) at_ sound
        ((fit.turn fresh (by simp)).of_eq rfl rfl rfl) (fit.stands (by simp) at_ fresh)
  case h_2 granted =>
    exact begin_turned at_ sound (fit.turn granted (by simp)) (fit.stands (by simp) at_ granted)
  case h_3 left pages rest listing =>
    have does := resume_does (i := i) sound s.now k (fit.stands (by simp) at_ listing)
    exact (proceed_turned at_ left pages _ does.sound
      ((fit.turn listing (by simp)).growsOwn does.grows) does.replied).after does.grows
  case h_4 => exact ⟨sound, .of_made_eq id rfl, fit⟩

end Turn

/-- A connection that a worker of a listing makes, to its own region. -/
def Own (i : Nat) (regions : List String) (c : String × Link) : Prop :=
  ∃ k, c.2 = .made i k ∧ regions[k]? = some c.1

/-- What comes next in a listing comes to this. -/
theorem step_turned {a : Account σ} {i : Nat} {regions : List String}
    {s : Fanout.State (Ledger σ) ClusterSummary Rest} (sound : s.world.Sound p a)
    (fit : Fit p i none regions s) :
    Turned p a i regions (Own i regions) s.world
      (Fanout.step (p.pageCallsNoted i) p.clock regions s) := by
  rw [Fanout.step]
  split
  case h_1 => exact ⟨sound, .of_made_eq id rfl, fit⟩
  case h_2 e rest events =>
    cases signal : e.signal with
    | turn k =>
      cases at_ : regions[k]? with
      | none =>
        simp only [at_]
        exact ⟨sound, .of_made_eq id rfl, fit.of_eq rfl rfl rfl⟩
      | some region =>
        simp only [at_]
        have turned := turn_turned (s := { s with now := e.due, events := rest }) at_ sound
          (fit.of_eq rfl rfl rfl)
        refine { turned with grows := ⟨turned.grows.toLater, fun c mem => ?_⟩ }
        refine (turned.grows.others c mem).imp_right fun own => ?_
        exact ⟨k, by rw [own], by rw [own]; exact at_⟩
    | notice | halt => exact ⟨sound, .of_made_eq id rfl, fit.of_eq rfl rfl rfl⟩

/-! ## All listings -/

namespace Sharing

/-- What holds whatever has happened. -/
structure Kept (p : Provider σ) (a : Account σ) (s : Sharing σ) : Prop where
  sound : s.ledger.Sound p a
  fit : ∀ {i o}, s.listings[i]? = some o → Fit p i none o.regions (s.seenBy o)
  theirs : ∀ c ∈ s.ledger.made, ∃ i o, s.listings[i]? = some o ∧ Own i o.regions c

section

variable {a : Account σ} {s s' : Sharing σ}

theorem new_kept (p : Provider σ) (a : Account σ) : Kept p a (new a) where
  sound := Ledger.new_sound p a
  fit := nofun
  theirs := nofun

/-- At the start of a listing none of its workers has made a connection. -/
theorem start_fit {i : Nat} {l : Ledger σ} (idle : ∀ k, ∀ c ∈ l.made, c.2 ≠ .made i k)
    (width : Option Nat) (regions : List String) (now : Rat) :
    Fit p i none regions (Fanout.start width regions l now) where
  queued := nofun
  once := .nil
  unqueued := nofun
  stands {k region ph} _ _ at_ := by
    obtain ⟨_, -, rfl⟩ := List.mem_map.1 (List.mem_of_getElem? at_)
    exact idle k

/-- A listing is begun. -/
theorem Kept.listed (h : Kept p a s) (regions : List String) (now : Rat) :
    Kept p a (s.listed p regions now) where
  sound := h.sound
  fit := by
    intro i o at_
    rcases Nat.lt_or_ge i s.listings.length with lt | ge
    · exact h.fit ((List.getElem?_append_left lt).symm.trans at_)
    · rw [Sharing.listed, List.getElem?_append_right ge] at at_
      obtain rfl := List.mem_singleton.1 (List.mem_of_getElem? at_)
      refine start_fit (fun k c mem link => ?_) _ regions now
      obtain ⟨j, o, at_j, k', link', -⟩ := h.theirs c mem
      obtain ⟨lt, -⟩ := List.getElem?_eq_some_iff.1 at_j
      obtain ⟨rfl, -⟩ := Link.made.inj (link'.symm.trans link)
      exact absurd lt (Nat.not_lt.2 ge)
  theirs := by
    intro c mem
    obtain ⟨i, o, at_, own⟩ := h.theirs c mem
    obtain ⟨lt, -⟩ := List.getElem?_eq_some_iff.1 at_
    exact ⟨i, o, (List.getElem?_append_left lt).trans at_, own⟩

/-- Something comes that a listing waits for. -/
theorem Kept.happen (h : Kept p a s) {i : Nat} {o : Ongoing σ} (at_ : s.listings[i]? = some o)
    (t : Rat) (before after : List Fanout.Event) (e : Fanout.Event) :
    let state := Fanout.step (p.pageCallsNoted i) p.clock o.regions
      ((s.seenBy o).bring t before e after)
    Kept p a (s.moved i o.regions state) ∧ s.ledger.Later p state.world := by
  intro state
  have fit := h.fit at_
  have turned : Turned p a i o.regions (Own i o.regions) s.ledger state :=
    step_turned (s := (s.seenBy o).bring t before e after) h.sound (fit.of_eq rfl rfl rfl)
  obtain ⟨lt, -⟩ := List.getElem?_eq_some_iff.1 at_
  have moved : ∀ j, (s.moved i o.regions state).listings[j]?
      = if i = j then some ⟨o.regions, state⟩ else s.listings[j]? := fun j => by
    rw [Sharing.moved, List.getElem?_set]
    simp [lt]
  refine ⟨⟨turned.sound, fun {j q} at_j => ?fit, fun c mem => ?theirs⟩, turned.grows.toLater⟩
  case fit =>
    rw [moved] at at_j
    split at at_j
    case isTrue same =>
      subst same
      obtain rfl := Option.some.inj at_j
      exact turned.fit
    case isFalse other =>
      refine (h.fit at_j).grows turned.grows ?_
      rintro k - c ⟨k', link, -⟩ link'
      exact other (Link.made.inj (link.symm.trans link')).1
  case theirs =>
    rcases turned.grows.others c mem with mem | own
    · obtain ⟨j, q, at_j, own⟩ := h.theirs c mem
      by_cases same : i = j
      · subst same
        obtain rfl := Option.some.inj (at_.symm.trans at_j)
        exact ⟨i, _, (moved i).trans (if_pos rfl), own⟩
      · exact ⟨j, q, (moved j).trans ((if_neg same).trans at_j), own⟩
    · exact ⟨i, _, (moved i).trans (if_pos rfl), own⟩

/-- **One step.** -/
theorem Kept.step (h : Kept p a s) (step : Step p s s') :
    Kept p a s' ∧ s.ledger.Later p s'.ledger := by
  cases step with
  | list regions now => exact ⟨h.listed regions now, .refl _⟩
  | happen t at_ events => exact h.happen at_ t _ _ _

/-- **A run.** -/
theorem Kept.steps (h : Kept p a s) (steps : Relation.ReflTransGen (Step p) s s') :
    Kept p a s' ∧ s.ledger.Later p s'.ledger := by
  induction steps with
  | refl => exact ⟨h, .refl _⟩
  | tail _ step ih =>
    obtain ⟨kept, later⟩ := ih
    obtain ⟨kept', later'⟩ := kept.step step
    exact ⟨kept', later.trans later'⟩

end

/-! ### The listing that runs -/

/-- The regions of a listing are what they were when it was begun. -/
theorem regions_moved {s : Sharing σ} {i : Nat} {o : Ongoing σ} (at_ : s.listings[i]? = some o)
    (state : Fanout.State (Ledger σ) ClusterSummary Rest) :
    (s.moved i o.regions state).listings.map Ongoing.regions
      = s.listings.map Ongoing.regions := by
  obtain ⟨lt, rfl⟩ := List.getElem?_eq_some_iff.1 at_
  have lt' : i < (s.listings.map Ongoing.regions).length := by simpa using lt
  rw [moved, List.map_set]
  simpa using List.set_getElem_self lt'

/-- A listing can go on by itself, each time with what is due first. -/
theorem steps_run {i : Nat} (fuel : Nat) {s : Sharing σ} {o : Ongoing σ}
    (at_ : s.listings[i]? = some o) : ∃ s', Relation.ReflTransGen (Step p) s s' ∧
      s'.ledger = (Fanout.steps (p.pageCallsNoted i) p.clock o.regions fuel (s.seenBy o)).world ∧
      s'.listings.map Ongoing.regions = s.listings.map Ongoing.regions := by
  induction fuel generalizing s o with
  | zero => exact ⟨s, .refl, rfl, rfl⟩
  | succ fuel ih =>
    rw [Fanout.steps]
    split
    case isTrue => exact ⟨s, .refl, rfl, rfl⟩
    case isFalse more =>
      cases events : o.state.events with
      | nil => simp [seenBy, events] at more
      | cons e rest =>
        have next : o.state.events = [] ++ e :: rest := events
        have happen := Step.happen (p := p) e.due at_ next
        have first : (s.seenBy o).events = e :: rest := events
        rw [Fanout.State.bring_first first] at happen
        obtain ⟨lt, -⟩ := List.getElem?_eq_some_iff.1 at_
        generalize next : Fanout.step (p.pageCallsNoted i) p.clock o.regions (s.seenBy o) = state
          at happen ⊢
        have at' : (s.moved i o.regions state).listings[i]? = some ⟨o.regions, state⟩ := by
          simp [moved, lt]
        obtain ⟨s', steps, ledger, regions⟩ := ih at'
        exact ⟨s', .head happen steps, ledger, regions.trans (regions_moved at_ state)⟩

theorem pageCalls_sees (p : Provider σ) (i : Nat) :
    Fanout.Sees Ledger.account (p.pageCallsNoted i) p.pageCalls :=
  ⟨fun _ _ _ _ _ => rfl, fun _ _ _ _ _ => rfl⟩

/-- The listing that runs does to the account what can happen to it. -/
theorem steps_clustersIn (p : Provider σ) (s : Sharing σ) (regions : List String)
    {session : Session (Account σ)} (shared : session.world = s.ledger.account) :
    ∃ s', Relation.ReflTransGen (Step p) s s' ∧
      s'.ledger.account = (p.clustersIn regions session).2.world ∧
      s'.listings.map Ongoing.regions = s.listings.map Ongoing.regions ++
        [if regions.isEmpty then p.settings.regions else regions] := by
  rw [clustersIn]
  generalize (if regions.isEmpty then p.settings.regions else regions) = partitions
  have begun : (s.listed p partitions session.now).listings[s.listings.length]?
      = some ⟨partitions, Fanout.start (some p.settings.maxConcurrency.toNat) partitions s.ledger
          session.now⟩ := by simp [listed]
  obtain ⟨s', steps, ledger, regions⟩ := steps_run (p := p)
    (Fanout.bound p.pageCalls partitions) begun
  have seen := Fanout.steps_seen (pageCalls_sees p s.listings.length) p.clock
    (Fanout.start (some p.settings.maxConcurrency.toNat) partitions s.ledger session.now) partitions
    (Fanout.bound p.pageCalls partitions)
  refine ⟨s', .head (.list s partitions session.now) steps, ?_, regions.trans (by simp [listed])⟩
  rw [ledger]
  refine (congrArg Fanout.State.world seen).trans ?_
  rw [shared]
  rfl

/-! ### What they share -/

/-- The workers of all listings, each with its region and the connection that it can make. -/
def places (s : Sharing σ) : List (String × Link) :=
  s.listings.zipIdx.flatMap fun (o, i) =>
    o.regions.zipIdx.map fun (region, k) => (region, .made i k)

theorem mem_places {s : Sharing σ} {c : String × Link} {i : Nat} {o : Ongoing σ}
    (at_ : s.listings[i]? = some o) (own : Own i o.regions c) : c ∈ s.places := by
  obtain ⟨k, link, region⟩ := own
  refine List.mem_flatMap.2 ⟨(o, i), List.mem_zipIdx_iff_getElem?.2 at_, List.mem_map.2 ?_⟩
  exact ⟨(c.1, k), List.mem_zipIdx_iff_getElem?.2 region, Prod.ext rfl link.symm⟩

/-- There is one for each region of each listing. -/
theorem places_regions (s : Sharing σ) :
    s.places.map Prod.fst = s.listings.flatMap Ongoing.regions := by
  have own : ∀ x : Ongoing σ × Nat, (x.1.regions.zipIdx.map fun y => (y.1, Link.made x.2 y.2)).map
      Prod.fst = x.1.regions := fun x => by
    rw [List.map_map]
    exact List.zipIdx_map_fst 0 _
  rw [places, List.map_flatMap]
  simp only [own]
  rw [← List.flatMap_map, List.zipIdx_map_fst]

/-- How listings share the connections of a provider. None is made to its own region, and none where
one was kept before. No worker makes two, and each makes one only to its own region, so that to a
region no more are made than the listings name it. All pages of a region are asked for through one
connection: the provider's own in its region, else one that was kept before, or was made. -/
structure Shared (p : Provider σ) (a : Account σ) (s : Sharing σ) : Prop where
  connections : s.ledger.account.connections = a.connections ++ s.ledger.made.map Prod.fst
  calls : s.ledger.account.calls.map Call.region
    = a.calls.map Call.region ++ s.ledger.used.map Prod.fst
  foreign : ∀ c ∈ s.ledger.made, c.1 ≠ p.region ∧ c.1 ∉ a.kept
  theirs : ∀ c ∈ s.ledger.made, ∃ i o, s.listings[i]? = some o ∧ Own i o.regions c
  once : (s.ledger.made.map Prod.snd).Nodup
  few : ∀ region, (s.ledger.made.map Prod.fst).count region
    ≤ (s.listings.flatMap Ongoing.regions).count region
  one : ∀ u ∈ s.ledger.used, ∀ v ∈ s.ledger.used, u.1 = v.1 → u.2 = v.2
  through : ∀ u ∈ s.ledger.used,
    u = (p.region, .own) ∨ u.1 ∈ a.kept ∧ u.2 = .earlier ∨ u ∈ s.ledger.made

theorem Kept.shared {a : Account σ} {s : Sharing σ} (h : Kept p a s) : Shared p a s where
  connections := h.sound.connections
  calls := h.sound.calls
  foreign := h.sound.foreign
  theirs := h.theirs
  once := h.sound.once
  few region := by
    have made : s.ledger.made ⊆ s.places := fun c mem => by
      obtain ⟨i, o, at_, own⟩ := h.theirs c mem
      exact mem_places at_ own
    obtain ⟨among, perm, sublist⟩ := h.sound.once.of_map.subperm made
    rw [← places_regions, ← (perm.map Prod.fst).count_eq region]
    exact (sublist.map Prod.fst).count_le region
  one u hu v hv same := by
    have linked := h.sound.used u hu
    rw [same, h.sound.used v hv] at linked
    exact (Option.some.inj linked).symm
  through u mem := by
    have linked := h.sound.used u mem
    rw [Ledger.link?] at linked
    split at linked
    case isTrue own => exact .inl (Prod.ext own (Option.some.inj linked).symm)
    case isFalse =>
      obtain ⟨before, after, kept, -⟩ := List.lookup_eq_some_iff.1 linked
      exact .inr (h.sound.known u (by simp [kept]))

/-- Whatever listings are begun on a provider and in whatever order things come, they share its
connections. A connection that there is stays, and from then on none is made to its region. The
listing that runs is one of those that can go on from there. -/
theorem shared_of_steps (p : Provider σ) {a : Account σ} {s : Sharing σ}
    (steps : Relation.ReflTransGen (Step p) (.new a) s) : Shared p a s ∧
      (∀ s', Relation.ReflTransGen (Step p) s s' → s.ledger.Later p s'.ledger) ∧
      ∀ (regions : List String) (session : Session (Account σ)),
        session.world = s.ledger.account →
        ∃ s', Relation.ReflTransGen (Step p) s s' ∧
          s'.ledger.account = (p.clustersIn regions session).2.world ∧
          s'.listings.map Ongoing.regions = s.listings.map Ongoing.regions ++
            [if regions.isEmpty then p.settings.regions else regions] := by
  have kept := ((new_kept p a).steps steps).1
  exact ⟨kept.shared, fun s' later => (kept.steps later).2,
    fun regions session shared => steps_clustersIn p s regions shared⟩

/-- A listing in which a region is named twice. -/
theorem shared_of_steps_twice :
    let cloud : Simulated.State := ⟨[], [], 1, .text "Successful", [], [], []⟩
    let p : Provider Simulated.State := ⟨Simulated.cloud, .exact, Settings.forRegion "eu-west-1"⟩
    ∃ s, Relation.ReflTransGen (Step p) (.new (.new cloud)) s ∧
      s.ledger.made.map Prod.fst = ["eu-west-2", "eu-west-2"] ∧
      s.ledger.used.map Prod.fst = ["eu-west-1", "eu-west-2", "eu-west-2"] ∧
      ∀ u ∈ s.ledger.used, ∀ v ∈ s.ledger.used, u.1 = v.1 → u.2 = v.2 := by
  intro cloud p
  obtain ⟨-, -, run⟩ := shared_of_steps p (a := .new cloud) .refl
  obtain ⟨s, steps, account, -⟩ := run ["eu-west-2", "eu-west-2", "eu-west-1"]
    ⟨0, .new cloud, []⟩ rfl
  obtain ⟨shared, -, -⟩ := shared_of_steps p steps
  have connections := shared.connections
  have calls := shared.calls
  rw [account] at connections calls
  refine ⟨s, steps, ?_, ?_, shared.one⟩
  · refine connections.symm.trans ?_
    decide +kernel
  · refine calls.symm.trans ?_
    decide +kernel

end Sharing

/-- A listing makes no connection to the region of the provider and none where one is kept, and to
each other region no more than it names it. -/
theorem clustersIn_connections (p : Provider σ) (regions : List String)
    (s : Session (Account σ)) : ∃ made : List String,
      (p.clustersIn regions s).2.world.connections = s.world.connections ++ made ∧
      (∀ region ∈ made, region ≠ p.region ∧ region ∉ s.world.kept) ∧
      ∀ region, made.count region
        ≤ (if regions.isEmpty then p.settings.regions else regions).count region := by
  obtain ⟨s', steps, account, listed⟩ := Sharing.steps_clustersIn p (.new s.world) regions rfl
  have shared := ((Sharing.new_kept p s.world).steps steps).1.shared
  refine ⟨s'.ledger.made.map Prod.fst, account ▸ shared.connections, fun region mem => ?_,
    fun region => ?_⟩
  · obtain ⟨c, made, rfl⟩ := List.mem_map.1 mem
    exact shared.foreign c made
  · have few := shared.few region
    rw [List.flatMap_def, listed] at few
    simpa [Sharing.new] using few

/-- To a region that is named twice two connections can be made: both workers find none, as neither
stands yet, and both make one. Nothing fails, and both regions are listed. -/
theorem clustersIn_connects_twice :
    let cloud : Simulated.State := ⟨[], [], 1, .text "Successful", [], [], []⟩
    let p : Provider Simulated.State := ⟨Simulated.cloud, .exact, Settings.forRegion "eu-west-1"⟩
    let listed := p.clustersIn ["eu-west-2", "eu-west-2"] ⟨0, .new cloud, []⟩
    p.settings.Checked ∧ (∀ region, p.cloud.connect cloud region = (.done (), cloud)) ∧
      listed.1.value?.map Fanout.Result.complete = some true ∧
      listed.2.world.connections = ["eu-west-2", "eu-west-2"] := by
  intro cloud p listed
  exact ⟨by decide +kernel, fun _ => rfl, by decide +kernel, by decide +kernel⟩

end ClusterOps.Provider
