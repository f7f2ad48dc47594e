import ClusterOps.Proofs.Tasks.Run
import Mathlib.Data.List.Nodup

/-
Which leaves of a tree run, and when. A node is found by its path from the root.
The root begins when the tree is started; the children of a group at once begin
with the group; of children one after the other, each begins when the one before
it has ended without a failure. A leaf is in a run exactly if it begins, once,
and it runs as it does by itself (`exists_timetable`).
-/

namespace ClusterOps.Tasks

variable {α : Type}

/-! ## Paths -/

/-- The way from the root of a tree to a node: at each group, the number of the child. -/
abbrev Path := List Nat

/-- The node at a path. -/
def at? : Tasks α → Path → Option (Tasks α)
  | t, [] => some t
  | .leaf _, _ :: _ => none
  | .group _ ts, i :: q => ts[i]?.bind (at? · q)

/-- The node at a path stands in a branch of a group one after the other: the path of the group,
and the number of the branch. -/
def InBranch (t : Tasks α) (q p : Path) (i : Nat) : Prop :=
  (∃ u, q = p ++ i :: u) ∧ ∃ ts, t.at? p = some (.group false ts)

/-- The node at a path stands behind no other branch. -/
def Foremost (t : Tasks α) (q : Path) : Prop := ∀ p i, InBranch t q p i → i = 0

/-- The node at a path stands behind a branch, and this at the last group where it stands behind
one: the path of the group, and the number of the branch before its own. -/
structure Behind (t : Tasks α) (q p : Path) (i : Nat) : Prop where
  branch : InBranch t q p (i + 1)
  last : ∀ p' i', InBranch t q p' (i' + 1) → p'.length ≤ p.length

/-! ## Beginnings -/

/-- The first few of children one after the other have ended without a failure, the last of them at
a time. -/
inductive Passed (work : α → Rat → Activity) : List (Tasks α) → Rat → Nat → Rat → Prop
  | zero {ts start} : Passed work ts start 0 start
  | succ {t ts start e i m} : Ends work t start ⟨e, none⟩ → Passed work ts e i m →
      Passed work (t :: ts) start (i + 1) m

/-- A node at a path begins at a time, in a tree that is started at a time. -/
inductive Begins (work : α → Rat → Activity) : Tasks α → Rat → Path → Tasks α → Rat → Prop
  | root {t start} : Begins work t start [] t start
  | parallel {ts start i c q d time} : ts[i]? = some c → Begins work c start q d time →
      Begins work (.group true ts) start (i :: q) d time
  | serial {ts start i m c q d time} : ts[i]? = some c → Passed work ts start i m →
      Begins work c m q d time → Begins work (.group false ts) start (i :: q) d time

/-- The node at a path begins, and it ends without a failure at a time. -/
def Completes (work : α → Rat → Activity) (t : Tasks α) (start : Rat) (q : Path) (e : Rat) : Prop :=
  ∃ c time, Begins work t start q c time ∧ Ends work c time ⟨e, none⟩

variable {name : α → String} {work : α → Rat → Activity}

theorem Passed.unique {ts : List (Tasks α)} {start m n : Rat} {i : Nat}
    (hm : Passed work ts start i m) (hn : Passed work ts start i n) : m = n := by
  induction hm with
  | zero =>
    cases hn
    rfl
  | succ ends _ ih =>
    cases hn with
    | succ ends' rest =>
      obtain rfl := (ends.agree ends').time
      exact ih rest

theorem passed_zero {ts : List (Tasks α)} {start m : Rat} :
    Passed work ts start 0 m ↔ m = start := by
  constructor
  · intro h
    cases h
    rfl
  · intro h
    subst h
    exact .zero

theorem passed_cons {t : Tasks α} {ts : List (Tasks α)} {start m : Rat} {i : Nat} {x : Ending α}
    (h : Ends work t start x) : Passed work (t :: ts) start (i + 1) m ↔
      x.fault = none ∧ Passed work ts x.time i m := by
  constructor
  · intro passed
    cases passed with
    | succ ends rest =>
      have agrees := h.agree ends
      exact ⟨agrees.clean.2 rfl, by rwa [agrees.time]⟩
  · intro hk
    obtain ⟨clean, rest⟩ := hk
    obtain ⟨e, fault⟩ := x
    obtain rfl : fault = none := clean
    exact .succ h rest

/-- One more child has passed when it has ended without a failure after those before it. -/
theorem passed_succ {ts : List (Tasks α)} {start m : Rat} {i : Nat} :
    Passed work ts start (i + 1) m ↔
      ∃ n c, Passed work ts start i n ∧ ts[i]? = some c ∧ Ends work c n ⟨m, none⟩ := by
  constructor
  · intro h
    induction i generalizing ts start with
    | zero =>
      cases h with
      | succ ends rest =>
        cases rest
        exact ⟨start, _, .zero, rfl, ends⟩
    | succ i ih =>
      cases h with
      | succ ends rest =>
        obtain ⟨n, c, passed, child, last⟩ := ih rest
        exact ⟨n, c, .succ ends passed, by simpa using child, last⟩
  · intro hk
    obtain ⟨n, c, passed, child, last⟩ := hk
    induction passed with
    | @zero ts start =>
      cases ts with
      | nil => cases child
      | cons t ts =>
        obtain rfl : t = c := by simpa using child
        exact .succ last .zero
    | succ ends _ ih => exact .succ ends (ih (by simpa using child) last)

/-- Children that have passed have done so one by one. -/
theorem Passed.of_le {ts : List (Tasks α)} {start m : Rat} {i : Nat}
    (h : Passed work ts start i m) {j : Nat} (hj : j ≤ i) : ∃ n, Passed work ts start j n := by
  induction i generalizing m with
  | zero =>
    obtain rfl : j = 0 := by omega
    exact ⟨m, h⟩
  | succ i ih =>
    by_cases last : j = i + 1
    · exact ⟨m, last ▸ h⟩
    · obtain ⟨n, _, before, -⟩ := passed_succ.1 h
      exact ih before (by omega)

theorem Begins.at? {t d : Tasks α} {start time : Rat} {q : Path}
    (h : Begins work t start q d time) : t.at? q = some d := by
  induction h with
  | root => simp [Tasks.at?]
  | parallel child _ ih => simpa [Tasks.at?, child] using ih
  | serial child _ _ ih => simpa [Tasks.at?, child] using ih

theorem Begins.unique {t c d : Tasks α} {start m n : Rat} {q : Path}
    (hc : Begins work t start q c m) (hd : Begins work t start q d n) : c = d ∧ m = n := by
  induction hc with
  | root =>
    cases hd
    exact ⟨rfl, rfl⟩
  | parallel child _ ih =>
    cases hd with
    | parallel child' rest =>
      obtain rfl := Option.some.inj (child.symm.trans child')
      exact ih rest
  | serial child passed _ ih =>
    cases hd with
    | serial child' passed' rest =>
      obtain rfl := Option.some.inj (child.symm.trans child')
      obtain rfl := passed.unique passed'
      exact ih rest

/-- A node below a node begins as it does in the tree below that node. -/
theorem begins_append {t d : Tasks α} {start time : Rat} {p q : Path} :
    Begins work t start (p ++ q) d time ↔
      ∃ c m, Begins work t start p c m ∧ Begins work c m q d time := by
  constructor
  · intro h
    induction p generalizing t start with
    | nil => exact ⟨t, start, .root, h⟩
    | cons i p ih =>
      cases h with
      | parallel child rest =>
        obtain ⟨c, m, hc, hd⟩ := ih rest
        exact ⟨c, m, .parallel child hc, hd⟩
      | serial child passed rest =>
        obtain ⟨c, m, hc, hd⟩ := ih rest
        exact ⟨c, m, .serial child passed hc, hd⟩
  · intro hk
    obtain ⟨c, m, hc, hd⟩ := hk
    induction hc with
    | root => exact hd
    | parallel child _ ih => exact .parallel child (ih hd)
    | serial child passed _ ih => exact .serial child passed (ih hd)

/-- A node below a node completes as it does in the tree below that node. -/
theorem completes_append {t c : Tasks α} {start m e : Rat} {p q : Path}
    (h : Begins work t start p c m) :
    Completes work t start (p ++ q) e ↔ Completes work c m q e := by
  constructor
  · intro hk
    obtain ⟨d, time, begins, ends⟩ := hk
    obtain ⟨c', m', hp, hq⟩ := begins_append.1 begins
    obtain ⟨rfl, rfl⟩ := h.unique hp
    exact ⟨d, time, hq, ends⟩
  · intro hk
    obtain ⟨d, time, begins, ends⟩ := hk
    exact ⟨d, time, begins_append.2 ⟨c, m, h, begins⟩, ends⟩

theorem completes_child {ts : List (Tasks α)} {start e : Rat} {i : Nat} :
    Completes work (.group false ts) start [i] e ↔ Passed work ts start (i + 1) e := by
  rw [passed_succ]
  constructor
  · intro h
    obtain ⟨c, time, begins, ends⟩ := h
    cases begins with
    | serial child passed rest =>
      cases rest
      exact ⟨time, c, passed, child, ends⟩
  · intro h
    obtain ⟨n, c, passed, child, ends⟩ := h
    exact ⟨c, n, .serial child passed .root, ends⟩

/-! ## Which nodes begin -/

theorem inBranch_cons {b : Bool} {ts : List (Tasks α)} {i j : Nat} {q p : Path} :
    InBranch (.group b ts) (i :: q) p j ↔
      (p = [] ∧ b = false ∧ j = i) ∨
        ∃ p' c, p = i :: p' ∧ ts[i]? = some c ∧ InBranch c q p' j := by
  cases p with
  | nil => simp [InBranch, Tasks.at?, eq_comm, and_comm]
  | cons k p =>
    constructor
    · intro h
      obtain ⟨⟨u, hu⟩, us, hus⟩ := h
      obtain ⟨rfl, rfl⟩ := List.cons.inj hu
      obtain ⟨c, child, hc⟩ := Option.bind_eq_some_iff.1 hus
      exact .inr ⟨p, c, rfl, child, ⟨u, rfl⟩, us, hc⟩
    · intro h
      rcases h with ⟨empty, -⟩ | ⟨p', c, hp, child, ⟨u, rfl⟩, us, hc⟩
      · cases empty
      · obtain ⟨rfl, rfl⟩ := List.cons.inj hp
        exact ⟨⟨u, rfl⟩, us, Option.bind_eq_some_iff.2 ⟨c, child, hc⟩⟩

/-- At a group one after the other on the way to a node that begins, the earlier branches have
passed. -/
theorem Begins.completes {t d : Tasks α} {start time : Rat} {q p : Path} {i : Nat}
    (h : Begins work t start q d time) (hp : InBranch t q p i) :
    ∀ j < i, ∃ e, Completes work t start (p ++ [j]) e := by
  intro j hj
  obtain ⟨⟨u, rfl⟩, ts, hts⟩ := hp
  obtain ⟨c, m, hc, hd⟩ := begins_append.1 h
  obtain rfl := Option.some.inj (hc.at?.symm.trans hts)
  cases hd with
  | serial child passed rest =>
    obtain ⟨e, before⟩ := passed.of_le (Nat.succ_le_of_lt hj)
    exact ⟨e, (completes_append hc).2 (completes_child.2 before)⟩

/-- A child of the root begins if the earlier branches have passed. -/
theorem begins_child {b : Bool} {ts : List (Tasks α)} {start : Rat} {i : Nat} {c : Tasks α}
    (child : ts[i]? = some c)
    (h : b = false → ∀ j < i, ∃ e, Completes work (.group b ts) start [j] e) :
    ∃ m, Begins work (.group b ts) start [i] c m := by
  cases b with
  | true => exact ⟨start, .parallel child .root⟩
  | false =>
    cases i with
    | zero => exact ⟨start, .serial child .zero .root⟩
    | succ i =>
      obtain ⟨e, he⟩ := h rfl i (Nat.lt_succ_self i)
      exact ⟨e, .serial child (completes_child.1 he) .root⟩

/-- A node begins exactly if, at each group one after the other on the way to it, every branch
before its own ends without a failure. -/
theorem begins_iff {t d : Tasks α} {start : Rat} {q : Path} (node : t.at? q = some d) :
    (∃ time, Begins work t start q d time) ↔
      ∀ p i, InBranch t q p i → ∀ j < i, ∃ e, Completes work t start (p ++ [j]) e := by
  constructor
  · intro begins p i hp
    obtain ⟨time, h⟩ := begins
    exact h.completes hp
  · intro h
    induction q generalizing t start with
    | nil =>
      obtain rfl : t = d := by simpa [Tasks.at?] using node
      exact ⟨start, .root⟩
    | cons i q ih =>
      cases t with
      | leaf a => cases node
      | group b ts =>
        obtain ⟨c, child, node⟩ := Option.bind_eq_some_iff.1 node
        obtain ⟨m, hc⟩ : ∃ m, Begins work (.group b ts) start [i] c m :=
          begins_child child fun hb => h [] i (inBranch_cons.2 (.inl ⟨rfl, hb, rfl⟩))
        obtain ⟨time, hd⟩ : ∃ time, Begins work c m q d time := ih node fun p j hp k hk => by
          obtain ⟨e, he⟩ := h (i :: p) j (inBranch_cons.2 (.inr ⟨p, c, rfl, child, hp⟩)) k hk
          exact ⟨e, (completes_append hc).1 he⟩
        exact ⟨time, begins_append.2 ⟨c, m, hc, hd⟩⟩

/-! ## When they begin -/

theorem Foremost.cons {b : Bool} {ts : List (Tasks α)} {i : Nat} {c : Tasks α} {q : Path}
    (h : Foremost c q) (child : ts[i]? = some c) (first : b = false → i = 0) :
    Foremost (.group b ts) (i :: q) := by
  intro p j hp
  rcases inBranch_cons.1 hp with ⟨-, serial, rfl⟩ | ⟨p', c', -, child', hp'⟩
  · exact first serial
  · obtain rfl := Option.some.inj (child.symm.trans child')
    exact h p' j hp'

theorem Foremost.behind {ts : List (Tasks α)} {i : Nat} {c : Tasks α} {q : Path}
    (h : Foremost c q) (child : ts[i + 1]? = some c) :
    Behind (.group false ts) ((i + 1) :: q) [] i := by
  refine ⟨inBranch_cons.2 (.inl ⟨rfl, rfl, rfl⟩), fun p j hp => ?_⟩
  rcases inBranch_cons.1 hp with ⟨rfl, -⟩ | ⟨p', c', -, child', hp'⟩
  · exact le_rfl
  · obtain rfl := Option.some.inj (child.symm.trans child')
    cases h p' (j + 1) hp'

theorem Behind.cons {b : Bool} {ts : List (Tasks α)} {i j : Nat} {c : Tasks α} {q p : Path}
    (h : Behind c q p j) (child : ts[i]? = some c) : Behind (.group b ts) (i :: q) (i :: p) j := by
  refine ⟨inBranch_cons.2 (.inr ⟨p, c, rfl, child, h.branch⟩), fun p' k hp => ?_⟩
  rcases inBranch_cons.1 hp with ⟨rfl, -⟩ | ⟨p', c', rfl, child', hp'⟩
  · exact Nat.zero_le _
  · obtain rfl := Option.some.inj (child.symm.trans child')
    exact Nat.succ_le_succ (h.last p' k hp')

/-- A node begins when the branch before its own has ended, at the last group one after the other
on the way to it where there is such a branch; without one, it begins with the root. -/
theorem Begins.time_eq {t d : Tasks α} {start time : Rat} {q : Path}
    (h : Begins work t start q d time) :
    (Foremost t q ∧ time = start) ∨
      ∃ p i, Behind t q p i ∧ Completes work t start (p ++ [i]) time := by
  induction h with
  | root => exact .inl ⟨fun p i hp => by simp [InBranch] at hp, rfl⟩
  | @parallel ts start i c q d time child _ ih =>
    rcases ih with ⟨foremost, rfl⟩ | ⟨p, j, behind, completes⟩
    · exact .inl ⟨foremost.cons child (by simp), rfl⟩
    · have begins : Begins work (.group true ts) start [i] c start := .parallel child .root
      exact .inr ⟨_, j, behind.cons child, (completes_append begins).2 completes⟩
  | @serial ts start i m c q d time child passed _ ih =>
    rcases ih with ⟨foremost, rfl⟩ | ⟨p, j, behind, completes⟩
    · cases i with
      | zero =>
        cases passed
        exact .inl ⟨foremost.cons child fun _ => rfl, rfl⟩
      | succ i => exact .inr ⟨[], i, foremost.behind child, completes_child.2 passed⟩
    · have begins : Begins work (.group false ts) start [i] c m := .serial child passed .root
      exact .inr ⟨_, j, behind.cons child, (completes_append begins).2 completes⟩

theorem mem_leaves_of_at? {t d : Tasks α} {q : Path} {a : α} (node : t.at? q = some d)
    (ha : a ∈ d.leaves) : a ∈ t.leaves := by
  induction q generalizing t with
  | nil =>
    obtain rfl : t = d := by simpa [Tasks.at?] using node
    exact ha
  | cons i q ih =>
    cases t with
    | leaf b => cases node
    | group b ts =>
      obtain ⟨c, child, node⟩ := Option.bind_eq_some_iff.1 node
      exact mem_leaves_group.2 ⟨c, List.mem_of_getElem? child, ih node⟩

theorem Finishing.at? {t d : Tasks α} {q : Path} (h : Finishing work t)
    (node : t.at? q = some d) : Finishing work d :=
  fun a ha => h a (mem_leaves_of_at? node ha)

/-! ## Spans -/

/-- A leaf begins, and a span is its own from there. -/
def Starts (work : α → Rat → Activity) (t : Tasks α) (start : Rat) (q : Path) (s : Span α) : Prop :=
  ∃ a time, Begins work t start q (.leaf a) time ∧ s = ownSpan work a time

section Tabulates

variable {β : Type} {at_ at' : Path → β → Prop} {items items' : List β}

/-- Some items are those that stand at paths, every path with one item. -/
def Tabulates (at_ : Path → β → Prop) (items : List β) : Prop :=
  ∃ entries : List (Path × β), entries.map Prod.snd = items ∧
    (entries.map Prod.fst).Nodup ∧ ∀ q s, (q, s) ∈ entries ↔ at_ q s

theorem Tabulates.nil (h : ∀ q s, ¬ at_ q s) : Tabulates at_ [] :=
  ⟨[], rfl, .nil, fun q s => by simp [h q s]⟩

/-- The items of a tree stand at other paths if it is put elsewhere. -/
theorem Tabulates.moved (h : Tabulates at_ items) {f : Path → Path} (inj : Function.Injective f) :
    Tabulates (fun q s => ∃ u, q = f u ∧ at_ u s) items := by
  obtain ⟨entries, hitems, once, mem⟩ := h
  refine ⟨entries.map fun (q, s) => (f q, s), ?_, ?_, fun q s => ?_⟩
  · rw [← hitems, List.map_map]
    rfl
  · have paths : (entries.map fun (q, s) => ((f q, s) : Path × β)).map Prod.fst
        = (entries.map Prod.fst).map f := by
      rw [List.map_map, List.map_map]
      rfl
    rw [paths]
    exact List.Nodup.map inj once
  · simp only [List.mem_map, Prod.exists, Prod.mk.injEq]
    constructor
    · intro hk
      obtain ⟨u, s, hu, rfl, rfl⟩ := hk
      exact ⟨u, rfl, (mem u s).1 hu⟩
    · intro hk
      obtain ⟨u, rfl, hu⟩ := hk
      exact ⟨u, s, (mem u s).2 hu, rfl, rfl⟩

/-- The items of a child stand at the paths that go through the child. -/
theorem Tabulates.through (h : Tabulates at_ items) (i : Nat) :
    Tabulates (fun q s => ∃ u, q = i :: u ∧ at_ u s) items :=
  h.moved fun _ _ same => (List.cons.inj same).2

theorem Tabulates.append (h : Tabulates at_ items) (h' : Tabulates at' items')
    (apart : ∀ q s s', at_ q s → ¬ at' q s') :
    Tabulates (fun q s => at_ q s ∨ at' q s) (items ++ items') := by
  obtain ⟨entries, rfl, once, mem⟩ := h
  obtain ⟨entries', rfl, once', mem'⟩ := h'
  refine ⟨entries ++ entries', by simp, ?_, fun q s => ?_⟩
  · rw [List.map_append]
    refine List.Nodup.append once once' fun q hq hq' => ?_
    obtain ⟨⟨q, s⟩, hs, rfl⟩ := List.mem_map.1 hq
    obtain ⟨⟨q', s'⟩, hs', rfl⟩ := List.mem_map.1 hq'
    exact apart q' s s' ((mem _ s).1 hs) ((mem' _ s').1 hs')
  · rw [List.mem_append, mem, mem']

/-- The items of a child and those of the children behind it. -/
theorem Tabulates.beside (h : Tabulates at_ items) (k : Nat) (h' : Tabulates at' items')
    (behind : ∀ q s, at' q s → ∃ i u, q = (k + 1 + i) :: u) :
    Tabulates (fun q s => (∃ u, q = k :: u ∧ at_ u s) ∨ at' q s) (items ++ items') := by
  refine (h.through k).append h' fun q s s' hq hq' => ?_
  obtain ⟨u, rfl, -⟩ := hq
  obtain ⟨i, u', hu⟩ := behind _ _ hq'
  have := (List.cons.inj hu).1
  omega

theorem Tabulates.congr (h : Tabulates at_ items) (same : ∀ q s, at_ q s ↔ at' q s) :
    Tabulates at' items := by
  obtain ⟨entries, hitems, once, mem⟩ := h
  exact ⟨entries, hitems, once, fun q s => (mem q s).trans (same q s)⟩

/-- What holds of an element of a list and its number holds of the first or of one behind it. -/
theorem exists_child_cons {γ : Type} {t : γ} {ts : List γ} {at_ : Nat → γ → Prop} :
    (∃ i c, (t :: ts)[i]? = some c ∧ at_ i c) ↔
      at_ 0 t ∨ ∃ i c, ts[i]? = some c ∧ at_ (i + 1) c := by
  constructor
  · intro hk
    obtain ⟨i, c, child, h⟩ := hk
    cases i with
    | zero =>
      obtain rfl : t = c := by simpa using child
      exact .inl h
    | succ i => exact .inr ⟨i, c, by simpa using child, h⟩
  · intro hk
    rcases hk with h | ⟨i, c, child, h⟩
    · exact ⟨0, t, rfl, h⟩
    · exact ⟨i + 1, c, by simpa using child, h⟩

/-- The items of children that stand side by side. -/
theorem tabulates_flatMap {γ : Type} (cs : List γ) (at_ : Nat → γ → Path → β → Prop)
    (items : γ → List β) (h : ∀ i c, cs[i]? = some c → Tabulates (at_ i c) (items c)) :
    Tabulates (fun q s => ∃ i c, cs[i]? = some c ∧ ∃ u, q = i :: u ∧ at_ i c u s)
      (cs.flatMap items) := by
  have each : ∀ k, Tabulates
      (fun q s => ∃ i c, cs[i]? = some c ∧ ∃ u, q = (k + i) :: u ∧ at_ i c u s)
      (cs.flatMap items) := by
    induction cs generalizing at_ with
    | nil => exact fun k => .nil (by simp)
    | cons c cs ih =>
      intro k
      rw [List.flatMap_cons]
      have rest := ih (fun i => at_ (i + 1)) (fun i d child => h (i + 1) d child) (k + 1)
      refine ((h 0 c rfl).beside k rest ?_).congr fun q s => ?_
      · intro q s hq
        obtain ⟨i, d, -, u, hu, -⟩ := hq
        exact ⟨i, u, hu⟩
      · rw [exists_child_cons]
        simp only [Nat.add_assoc, Nat.add_comm 1, Nat.add_zero]
  exact (each 0).congr fun q s => by simp only [Nat.zero_add]

end Tabulates

variable (name) in
/-- The spans of children one after the other, the first of them with a number. -/
theorem tabulates_inTurn {ts : List (Tasks α)} (finishing : ∀ c ∈ ts, Finishing work c)
    (h : ∀ c ∈ ts, ∀ start, Tabulates (Starts work c start) (run name work none start c).spans)
    (k : Nat) (start : Rat) :
    Tabulates (fun q s => ∃ i c, ts[i]? = some c ∧
        ∃ m u, q = (k + i) :: u ∧ Passed work ts start i m ∧ Starts work c m u s)
      (runInTurn name work none start ts).spans := by
  induction ts generalizing k start with
  | nil => exact .nil (by simp)
  | cons t ts ih =>
    have first := h t List.mem_cons_self start
    obtain ⟨⟨e, fault⟩, ends, runs⟩ := run_ends name (finishing t List.mem_cons_self) start
    cases fault with
    | some b =>
      rw [runInTurn_failed runs.stop (runs.failed b rfl)]
      refine (first.through k).congr fun q s => ?_
      rw [exists_child_cons]
      simp [passed_zero, passed_cons ends]
    | none =>
      rw [runInTurn_done runs.stop (runs.done rfl)]
      have rest := ih (fun c hc => finishing c (List.mem_cons_of_mem _ hc))
        (fun c hc => h c (List.mem_cons_of_mem _ hc)) (k + 1) e
      refine (first.beside k rest ?_).congr fun q s => ?_
      · intro q s hq
        obtain ⟨i, c, -, m, u, hu, -⟩ := hq
        exact ⟨i, u, hu⟩
      · rw [exists_child_cons]
        simp [passed_zero, passed_cons ends, Nat.add_assoc, Nat.add_comm 1]

theorem starts_parallel {ts : List (Tasks α)} {start : Rat} {q : Path} {s : Span α} :
    Starts work (.group true ts) start q s ↔
      ∃ i c, ts[i]? = some c ∧ ∃ u, q = i :: u ∧ Starts work c start u s := by
  constructor
  · intro h
    obtain ⟨a, time, begins, rfl⟩ := h
    cases begins with
    | parallel child rest => exact ⟨_, _, child, _, rfl, a, time, rest, rfl⟩
  · intro h
    obtain ⟨i, c, child, u, rfl, a, time, rest, rfl⟩ := h
    exact ⟨a, time, .parallel child rest, rfl⟩

theorem starts_serial {ts : List (Tasks α)} {start : Rat} {q : Path} {s : Span α} :
    Starts work (.group false ts) start q s ↔
      ∃ i c, ts[i]? = some c ∧
        ∃ m u, q = i :: u ∧ Passed work ts start i m ∧ Starts work c m u s := by
  constructor
  · intro h
    obtain ⟨a, time, begins, rfl⟩ := h
    cases begins with
    | serial child passed rest => exact ⟨_, _, child, _, _, rfl, passed, a, time, rest, rfl⟩
  · intro h
    obtain ⟨i, c, child, m, u, rfl, passed, a, time, rest, rfl⟩ := h
    exact ⟨a, time, .serial child passed rest, rfl⟩

variable (name) in
/-- The spans of a run are those of the leaves that begin, one for each. -/
theorem tabulates_run {t : Tasks α} (h : Finishing work t) (start : Rat) :
    Tabulates (Starts work t start) (run name work none start t).spans := by
  induction t using induct generalizing start with
  | leaf a =>
    rw [run_leaf]
    refine ⟨[([], ownSpan work a start)], rfl, by simp, fun q s => ?_⟩
    constructor
    · intro hs
      obtain ⟨rfl, rfl⟩ : q = [] ∧ s = ownSpan work a start := by simpa using hs
      exact ⟨a, start, .root, rfl⟩
    · intro hk
      obtain ⟨b, time, begins, rfl⟩ := hk
      cases begins
      exact List.mem_cons_self
  | group p ts ih =>
    have finishing : ∀ c ∈ ts, Finishing work c := fun c hc => h.child hc
    cases p with
    | false =>
      rw [run_serial]
      have each := tabulates_inTurn name finishing
        (fun c hc start => ih c hc (finishing c hc) start) 0 start
      exact each.congr fun q s => by simp only [starts_serial, Nat.zero_add]
    | true =>
      obtain ⟨xs, -, runs⟩ := ends_each name fun c hc => run_ends name (finishing c hc) start
      rw [run_parallel, runs.spans_gather]
      rw [runEach_eq_map, List.flatMap_map]
      have each := tabulates_flatMap ts (fun _ c => Starts work c start)
        (fun c => (run name work none start c).spans) fun i c child =>
          ih c (List.mem_of_getElem? child) (finishing c (List.mem_of_getElem? child)) start
      exact each.congr fun q s => by rw [starts_parallel]

/-! ## Order in time -/

-- What a task is called plays no part in when it ends, so any names will do for its run.
/-- The span of a leaf lies between the start and the end of the tree. -/
theorem Starts.within {t : Tasks α} {start : Rat} {q : Path} {s : Span α} {x : Ending α}
    (h : Finishing work t) (hs : Starts work t start q s) (ends : Ends work t start x) :
    start ≤ s.start ∧ ∃ e, s.stop = some e ∧ s.start ≤ e ∧ e ≤ x.time := by
  obtain ⟨y, ends', runs⟩ := run_ends (fun _ => "") h start
  obtain ⟨entries, spans, -, mem⟩ := tabulates_run (fun _ => "") h start
  rw [(ends.agree ends').time]
  exact runs.within s (spans ▸ List.mem_map.2 ⟨(q, s), (mem q s).2 hs, rfl⟩)

theorem Passed.mono {ts : List (Tasks α)} {start m n : Rat} {i j : Nat}
    (h : ∀ c ∈ ts, Forward work c) (hi : Passed work ts start i m)
    (hj : Passed work ts start j n) (le : i ≤ j) : m ≤ n := by
  induction j generalizing n with
  | zero =>
    obtain rfl : i = 0 := by omega
    exact (hi.unique hj).le
  | succ j ih =>
    by_cases last : i = j + 1
    · subst last
      exact (hi.unique hj).le
    · obtain ⟨k, c, before, child, ends⟩ := passed_succ.1 hj
      have forward := ends.forward (h c (List.mem_of_getElem? child))
      exact (ih before (by omega)).trans forward

/-- A node begins no earlier than its tree is started. -/
theorem Begins.forward {t d : Tasks α} {start time : Rat} {q : Path} (h : Forward work t)
    (begins : Begins work t start q d time) : start ≤ time := by
  induction begins with
  | root => exact le_rfl
  | parallel child _ ih => exact ih (h.child (List.mem_of_getElem? child))
  | serial child passed _ ih =>
    have first := Passed.zero.mono (fun c hc => h.child hc) passed (Nat.zero_le _)
    exact first.trans (ih (h.child (List.mem_of_getElem? child)))

/-- What has passed before a child begins has ended by then. -/
theorem Passed.ends {ts : List (Tasks α)} {start m n : Rat} {i j : Nat} {c : Tasks α}
    (h : ∀ c ∈ ts, Finishing work c) (child : ts[i]? = some c) (hi : Passed work ts start i m)
    (hj : Passed work ts start j n) (lt : i < j) : ∃ e, Ends work c m ⟨e, none⟩ ∧ e ≤ n := by
  obtain ⟨e, he⟩ := hj.of_le (Nat.succ_le_of_lt lt)
  obtain ⟨k, c', before, child', ends⟩ := passed_succ.1 he
  obtain rfl := hi.unique before
  obtain rfl := Option.some.inj (child.symm.trans child')
  exact ⟨e, ends, he.mono (fun c hc => (h c hc).forward) hj (Nat.succ_le_of_lt lt)⟩

/-- The branches of a group one after the other do not overlap. -/
theorem Begins.apart {t c d : Tasks α} {start m n : Rat} {p : Path} {i j : Nat}
    {ts : List (Tasks α)} (h : Finishing work t) (group : t.at? p = some (.group false ts))
    (hc : Begins work t start (p ++ [i]) c m) (hd : Begins work t start (p ++ [j]) d n)
    (lt : i < j) : ∃ e, Ends work c m ⟨e, none⟩ ∧ e ≤ n := by
  obtain ⟨g, k, hg, hi⟩ := begins_append.1 hc
  obtain ⟨g', k', hg', hj⟩ := begins_append.1 hd
  obtain ⟨rfl, rfl⟩ := hg.unique hg'
  obtain rfl := Option.some.inj (hg.at?.symm.trans group)
  have children : ∀ c ∈ ts, Finishing work c := fun c hc => (h.at? group).child hc
  cases hi with
  | serial child passed rest =>
    cases rest
    cases hj with
    | serial _ passed' rest =>
      cases rest
      exact passed.ends children child passed' lt

/-- Nor do the spans of leaves in them. -/
theorem Starts.apart {t : Tasks α} {start : Rat} {q q' p : Path} {i j : Nat} {s s' : Span α}
    (h : Finishing work t) (hs : Starts work t start q s) (hs' : Starts work t start q' s')
    (hi : InBranch t q p i) (hj : InBranch t q' p j) (lt : i < j) :
    ∃ e, s.stop = some e ∧ e ≤ s'.start := by
  obtain ⟨⟨u, rfl⟩, ts, group⟩ := hi
  obtain ⟨⟨u', rfl⟩, -⟩ := hj
  obtain ⟨a, time, begins, hs⟩ := hs
  obtain ⟨a', time', begins', hs'⟩ := hs'
  rw [List.append_cons] at begins begins'
  obtain ⟨c, m, hc, below⟩ := begins_append.1 begins
  obtain ⟨d, n, hd, below'⟩ := begins_append.1 begins'
  obtain ⟨e, ends, before⟩ := hc.apart h group hd lt
  obtain ⟨y, ends', -⟩ := run_ends (fun _ => "") (h.at? hd.at?) n
  obtain ⟨-, f, stop, -, last⟩ := Starts.within (h.at? hc.at?) ⟨a, time, below, hs⟩ ends
  obtain ⟨first, -⟩ := Starts.within (h.at? hd.at?) ⟨a', time', below', hs'⟩ ends'
  exact ⟨f, stop, (last.trans before).trans first⟩

/-! ## Timetables -/

/-- Which leaves of a tree are in a run that is started at a time, and when: the spans of the run,
each with the path of its leaf. -/
structure Timetable (work : α → Rat → Activity) (t : Tasks α) (start : Rat) (r : Run α)
    (entries : List (Path × Span α)) : Prop where
  spans : entries.map Prod.snd = r.spans
  /-- No leaf is started twice. -/
  once : (entries.map Prod.fst).Nodup
  /-- A leaf that is started runs as it does by itself. -/
  own : ∀ q s, (q, s) ∈ entries → ∃ a, t.at? q = some (.leaf a) ∧ s = ownSpan work a s.start
  /-- A leaf is started if all that stands before it has ended without a failure, and only then. -/
  started : ∀ q a, t.at? q = some (.leaf a) → ((∃ s, (q, s) ∈ entries) ↔
    ∀ p i, InBranch t q p i → ∀ j < i, ∃ e, Completes work t start (p ++ [j]) e)
  /-- It starts when the last branch that it stands behind has ended. -/
  begun : ∀ q s, (q, s) ∈ entries → (Foremost t q ∧ s.start = start) ∨
    ∃ p i, Behind t q p i ∧ Completes work t start (p ++ [i]) s.start
  /-- The children of a group one after the other do not overlap. -/
  inTurn : ∀ p ts i j c d m n, t.at? p = some (.group false ts) →
    Begins work t start (p ++ [i]) c m → Begins work t start (p ++ [j]) d n → i < j →
    ∃ e, Ends work c m ⟨e, none⟩ ∧ e ≤ n
  /-- Nor do the leaves in them. -/
  apart : ∀ p i j q q' s s', InBranch t q p i → InBranch t q' p j → i < j →
    (q, s) ∈ entries → (q', s') ∈ entries → ∃ e, s.stop = some e ∧ e ≤ s'.start
  /-- Nothing happens to a leaf before the start of the run or after its end. -/
  within : ∃ e, r.stop = some e ∧ ∀ s ∈ r.spans, ∀ event ∈ s.events,
    start ≤ event.time ∧ event.time ≤ e

theorem events_within {s : Span α} {start e f : Rat} (first : start ≤ s.start)
    (stop : s.stop = some f) (forward : s.start ≤ f) (last : f ≤ e) :
    ∀ event ∈ s.events, start ≤ event.time ∧ event.time ≤ e := by
  intro event h
  rw [Span.events, stop] at h
  rcases List.mem_cons.1 h with rfl | h
  · exact ⟨first, forward.trans last⟩
  · obtain rfl := List.mem_singleton.1 h
    exact ⟨first.trans forward, last⟩

variable (name) in
/-- **The timetable of a run.** If every leaf ends, a run has a timetable. -/
theorem exists_timetable {t : Tasks α} (h : Finishing work t) (start : Rat) :
    ∃ entries, Timetable work t start (run name work none start t) entries := by
  obtain ⟨entries, spans, once, mem⟩ := tabulates_run name h start
  obtain ⟨x, -, runs⟩ := run_ends name h start
  refine ⟨entries, spans, once, ?own, ?started, ?begun, ?inTurn, ?apart, ?within⟩
  case own =>
    intro q s hs
    obtain ⟨a, time, begins, rfl⟩ := (mem q s).1 hs
    exact ⟨a, begins.at?, rfl⟩
  case started =>
    intro q a leaf
    rw [← begins_iff leaf]
    constructor
    · intro hk
      obtain ⟨s, hs⟩ := hk
      obtain ⟨b, time, begins, rfl⟩ := (mem q s).1 hs
      obtain rfl := Tasks.leaf.inj (Option.some.inj (begins.at?.symm.trans leaf))
      exact ⟨time, begins⟩
    · intro hk
      obtain ⟨time, begins⟩ := hk
      exact ⟨ownSpan work a time, (mem q _).2 ⟨a, time, begins, rfl⟩⟩
  case begun =>
    intro q s hs
    obtain ⟨a, time, begins, rfl⟩ := (mem q s).1 hs
    exact begins.time_eq
  case inTurn => exact fun p ts i j c d m n group hc hd lt => hc.apart h group hd lt
  case apart =>
    intro p i j q q' s s' hi hj lt hs hs'
    exact Starts.apart h ((mem q s).1 hs) ((mem q' s').1 hs') hi hj lt
  case within =>
    refine ⟨x.time, runs.stop, fun s hs => ?_⟩
    obtain ⟨first, f, stop, forward, last⟩ := runs.within s hs
    exact events_within first stop forward last

/-- A failure keeps the leaf behind it from starting, and not the leaf beside it. -/
theorem exists_timetable_beside :
    let work : String × Rat × Bool → Rat → Activity := fun a start =>
      ⟨some (start + a.2.1), if a.2.2 then .failed (.provider a.1) else .done, false⟩
    let first : Tasks (String × Rat × Bool) :=
      .group true [.leaf ("fails", 1, true), .leaf ("beside", 3, false)]
    let t : Tasks (String × Rat × Bool) := .group false [first, .leaf ("behind", 1, false)]
    Finishing work t ∧
      (run Prod.fst work none 0 t).spans.map (fun s => s.task.1) = ["fails", "beside"] ∧
      ∃ entries, Timetable work t 0 (run Prod.fst work none 0 t) entries := by
  intro work first t
  have forward : ∀ a ∈ t.leaves, 0 ≤ a.2.1 := by decide +kernel
  have finishing : Finishing work t := fun a ha start =>
    ⟨start + a.2.1, by simpa using forward a ha, rfl, by simp only [work]; split <;> simp⟩
  exact ⟨finishing, by decide +kernel, exists_timetable Prod.fst finishing 0⟩

end ClusterOps.Tasks
