import ClusterOps.Provider.Sharing
import Mathlib.Data.List.Nodup

/-
The connections that listings on one provider share. A ledger is true to its account and
to the connections there are (`Ledger.Sound`), and from one to the next a connection that
there is stays, and no other is made to its region (`Ledger.Later`). This is what every
page call does (`ask_does`, `resume_does`), if the worker that makes a connection has made
none before.
-/

namespace ClusterOps

namespace Account

variable {σ : Type}

@[simp] theorem connections_connect (cloud : Cloud σ) (region : String) (a : Account σ) :
    (a.connect cloud region).2.connections = a.connections ++ [region] := by
  simp [connect, connections]

@[simp] theorem calls_keep (region : String) (a : Account σ) : (a.keep region).calls = a.calls := by
  rw [keep]
  split <;> rfl

@[simp] theorem connections_keep (region : String) (a : Account σ) :
    (a.keep region).connections = a.connections := by
  rw [keep]
  split <;> rfl

end Account

namespace Provider

variable {σ : Type} {p : Provider σ}

/-! ## Ledgers -/

namespace Ledger

/-- From one ledger to a later one: the connections that there are stay, and no other is made to
their regions. -/
structure Later (p : Provider σ) (l l' : Ledger σ) : Prop where
  stays : ∀ {region there}, l.link? p region = some there → l'.link? p region = some there
  made : ∃ new, l'.made = l.made ++ new ∧ ∀ c ∈ new, l.link? p c.1 = none

theorem Later.refl (l : Ledger σ) : Later p l l := ⟨id, [], by simp, by simp⟩

theorem Later.trans {l l' l'' : Ledger σ} (h : Later p l l') (h' : Later p l' l'') :
    Later p l l'' := by
  obtain ⟨new, made, unlinked⟩ := h.made
  obtain ⟨new', made', unlinked'⟩ := h'.made
  refine ⟨fun there => h'.stays (h.stays there), new ++ new', by simp [made', made], ?_⟩
  intro c mem
  rcases List.mem_append.1 mem with mem | mem
  · exact unlinked c mem
  · by_contra linked
    obtain ⟨there, linked⟩ := Option.ne_none_iff_exists'.1 linked
    exact absurd (h.stays linked) (by simp [unlinked' c mem])

/-- A ledger that is later by what is done by some who can make such connections. -/
structure Grows (p : Provider σ) (theirs : String × Link → Prop) (l l' : Ledger σ) : Prop
    extends Later p l l' where
  others : ∀ c ∈ l'.made, c ∈ l.made ∨ theirs c

section

variable {theirs : String × Link → Prop} {l l' l'' : Ledger σ}

theorem Grows.trans (h : Grows p theirs l l') (h' : Grows p theirs l' l'') :
    Grows p theirs l l'' :=
  ⟨h.toLater.trans h'.toLater, fun c mem => (h'.others c mem).elim (h.others c) .inr⟩

/-- No connection is made. -/
theorem Grows.of_made_eq
    (stays : ∀ {region there}, l.link? p region = some there → l'.link? p region = some there)
    (made : l'.made = l.made) : Grows p theirs l l' :=
  ⟨⟨stays, [], by simp [made], by simp⟩, fun _ mem => .inl (made ▸ mem)⟩

end

/-- A ledger is true to the account with which it began and to the one it has come to. What is kept
was kept before or made, no connection is made in vain, and pages are asked for only through the
connections that there are. -/
structure Sound (p : Provider σ) (a : Account σ) (l : Ledger σ) : Prop where
  keys : l.kept.map Prod.fst = l.account.kept
  earlier : ∀ region ∈ a.kept, l.kept.lookup region = some .earlier
  known : ∀ c ∈ l.kept, c.1 ∈ a.kept ∧ c.2 = .earlier ∨ c ∈ l.made
  foreign : ∀ c ∈ l.made, c.1 ≠ p.region ∧ c.1 ∉ a.kept
  once : (l.made.map Prod.snd).Nodup
  used : ∀ u ∈ l.used, l.link? p u.1 = some u.2
  connections : l.account.connections = a.connections ++ l.made.map Prod.fst
  calls : l.account.calls.map Call.region = a.calls.map Call.region ++ l.used.map Prod.fst

theorem lookup_map_earlier {regions : List String} {region : String} (h : region ∈ regions) :
    (regions.map fun r => (r, Link.earlier)).lookup region = some .earlier := by
  induction regions with
  | nil => cases h
  | cons r rest ih =>
    rw [List.map_cons, List.lookup_cons]
    cases same : region == r with
    | true => rfl
    | false =>
      refine ih ((List.mem_cons.1 h).resolve_left fun eq => ?_)
      simp [eq] at same

/-- Before all listings. -/
theorem new_sound (p : Provider σ) (a : Account σ) : Sound p a (new a) where
  keys := by simp [new, Function.comp_def]
  earlier _ mem := lookup_map_earlier mem
  known c mem := by
    obtain ⟨region, kept, rfl⟩ := List.mem_map.1 mem
    exact .inl ⟨kept, rfl⟩
  foreign := by simp [new]
  once := by simp [new]
  used := by simp [new]
  connections := by simp [new]
  calls := by simp [new]

theorem lookup_eq_none_iff {l : List (String × Link)} {region : String} :
    l.lookup region = none ↔ region ∉ l.map Prod.fst := by
  rw [List.lookup_eq_none_iff, List.mem_map]
  constructor
  · rintro other ⟨c, mem, rfl⟩
    simpa using other c mem
  · intro absent c mem
    exact bne_iff_ne.2 fun same => absent ⟨c, mem, same.symm⟩

/-- A connection that there is stays when others are kept behind it. -/
theorem link?_append {l : Ledger σ} {region : String} {there : Link}
    (h : l.link? p region = some there) (entries : List (String × Link)) :
    ({ l with kept := l.kept ++ entries } : Ledger σ).link? p region = some there := by
  rw [link?] at h ⊢
  split at h
  case isTrue own => rwa [if_pos own]
  case isFalse other => simp [other, List.lookup_append, h]

/-- There is a connection to a region if the account says so. -/
theorem Sound.link?_eq_none_iff {a : Account σ} {l : Ledger σ} (h : Sound p a l) {region : String} :
    l.link? p region = none ↔
      (decide (region = p.region) || l.account.kept.contains region) = false := by
  rw [link?, ← h.keys]
  split
  case isTrue own => simp [own]
  case isFalse other =>
    rw [lookup_eq_none_iff]
    simp [other]

section

variable {a : Account σ} {l : Ledger σ} {region : String} {link : Link}

/-- A page is asked for through the connection there is. -/
theorem Sound.asked {there : Link} (h : Sound p a l) (linked : l.link? p region = some there)
    (now : Rat) (r : Request) :
    Sound p a { l with used := l.used ++ [(region, there)],
                       account := (l.account.send p.cloud now region r).2 } where
  keys := h.keys
  earlier := h.earlier
  known := h.known
  foreign := h.foreign
  once := h.once
  used := by
    intro u mem
    rcases List.mem_append.1 mem with mem | mem
    · exact h.used u mem
    · obtain rfl := List.mem_singleton.1 mem
      exact linked
  connections := h.connections
  calls := by simp [h.calls]

/-- A worker that has made none makes a connection, where there is none. -/
theorem Sound.connected (h : Sound p a l) (none : l.link? p region = none)
    (idle : ∀ c ∈ l.made, c.2 ≠ link) :
    Sound p a { l with made := l.made ++ [(region, link)],
                       account := (l.account.connect p.cloud region).2 } where
  keys := h.keys
  earlier := h.earlier
  known c mem := (h.known c mem).imp_right (List.mem_append_left _)
  foreign := by
    intro c mem
    rcases List.mem_append.1 mem with mem | mem
    · exact h.foreign c mem
    · obtain rfl := List.mem_singleton.1 mem
      rw [link?] at none
      split at none
      case isTrue => cases none
      case isFalse other => exact ⟨other, fun kept => by simp [h.earlier _ kept] at none⟩
  once := by
    rw [List.map_append, List.map_singleton]
    refine List.Nodup.append h.once (List.nodup_singleton link) ?_
    simpa using fun region mem => idle (region, link) mem rfl
  used := h.used
  connections := by simp [h.connections]
  calls := h.calls

/-- A connection that was made is kept. -/
theorem Sound.kept (h : Sound p a l) (none : l.kept.lookup region = none)
    (made : (region, link) ∈ l.made) :
    Sound p a { l with kept := l.kept ++ [(region, link)], account := l.account.keep region } where
  keys := by
    have absent : region ∉ l.account.kept := h.keys ▸ lookup_eq_none_iff.1 none
    simp [Account.keep, absent, h.keys]
  earlier r mem := by simp [List.lookup_append, h.earlier r mem]
  known := by
    intro c mem
    rcases List.mem_append.1 mem with mem | mem
    · exact h.known c mem
    · obtain rfl := List.mem_singleton.1 mem
      exact .inr made
  foreign := h.foreign
  once := h.once
  used := by
    intro u mem
    exact link?_append (h.used u mem) _
  connections := by simp [h.connections]
  calls := by simp [h.calls]

end

end Ledger

/-! ## Page calls -/

/-- What is known of the connection of a worker that waits in a page call. -/
def Awaits (p : Provider σ) (l : Ledger σ) (region : String) (link : Link) : Rest → Prop
  | .connected _ _ => (region, link) ∈ l.made
  | .answered _ => l.link? p region ≠ none

/-- What is known of it when the call has come to a reply. -/
def Replied (p : Provider σ) (l : Ledger σ) (region : String) (link : Link) :
    Fanout.Reply ClusterSummary Rest → Prop
  | .page _ => l.link? p region ≠ none
  | .failed _ | .cancelled => True
  | .after _ rest => Awaits p l region link rest

/-- What a page call of a worker does. -/
structure Does (p : Provider σ) (a : Account σ) (l : Ledger σ) (region : String) (link : Link)
    (r : Fanout.Reply ClusterSummary Rest × Ledger σ) : Prop where
  sound : r.2.Sound p a
  grows : l.Grows p (· = (region, link)) r.2
  replied : Replied p r.2 region link r.1

section Calls

variable {a : Account σ} {l : Ledger σ} {region : String} {link : Link}

/-- A page is asked for through the connection there is. -/
theorem askPage_does (sound : l.Sound p a) {there : Link} (linked : l.link? p region = some there)
    (now : Rat) (token : Value) :
    Does p a l region link ((p.askPage l.account now region token).1,
      { l with used := l.used ++ [(region, there)],
               account := (p.askPage l.account now region token).2 }) where
  sound := sound.asked linked now _
  grows := .of_made_eq id rfl
  replied := fun none => Option.some_ne_none there (linked.symm.trans none)

/-- A connection is made. -/
theorem connect_does (sound : l.Sound p a) (none : l.link? p region = none)
    (idle : ∀ c ∈ l.made, c.2 ≠ link) (token : Value) :
    Does p a l region link
      (.after (some 0) (.connected token (l.account.connect p.cloud region).1),
        { l with made := l.made ++ [(region, link)],
                 account := (l.account.connect p.cloud region).2 }) where
  sound := sound.connected none idle
  grows := by
    refine ⟨⟨id, [(region, link)], rfl, fun c mem => ?_⟩, fun c mem => ?_⟩
    · obtain rfl := List.mem_singleton.1 mem
      exact none
    · exact (List.mem_append.1 mem).imp_right List.mem_singleton.1
  replied := List.mem_append_right _ (List.mem_singleton_self _)

/-- A page call that leaves the ledger as it was. -/
theorem idle_does (sound : l.Sound p a) {reply : Fanout.Reply ClusterSummary Rest}
    (replied : Replied p l region link reply) : Does p a l region link (reply, l) :=
  ⟨sound, .of_made_eq id rfl, replied⟩

variable (sound : l.Sound p a) (i : Nat) (now : Rat) (k : Nat)
include sound

/-- A page call of a worker that has made no connection, or needs none. -/
theorem ask_does (idle : l.link? p region = none → ∀ c ∈ l.made, c.2 ≠ .made i k) (token : Value) :
    Does p a l region (.made i k) ((p.pageCallsNoted i).ask l now k region token) := by
  cases linked : l.link? p region with
  | none =>
    have absent := sound.link?_eq_none_iff.1 linked
    have asked : (p.pageCallsNoted i).ask l now k region token =
        (.after (some 0) (.connected token (l.account.connect p.cloud region).1),
          { l with made := l.made ++ [(region, .made i k)],
                   account := (l.account.connect p.cloud region).2 }) := by
      simp only [pageCallsNoted, pageCalls, absent, Ledger.needed, linked]
      rfl
    rw [asked]
    exact connect_does sound linked (idle linked) token
  | some there =>
    have present : (decide (region = p.region) || l.account.kept.contains region) = true := by
      by_contra absent
      have none := sound.link?_eq_none_iff.2 (Bool.eq_false_iff.2 absent)
      simp [linked] at none
    have asked : (p.pageCallsNoted i).ask l now k region token =
        ((p.askPage l.account now region token).1,
          { l with used := l.used ++ [(region, there)],
                   account := (p.askPage l.account now region token).2 }) := by
      simp only [pageCallsNoted, pageCalls, present, Ledger.needed, linked]
      rfl
    rw [asked]
    exact askPage_does sound linked now token

/-- A worker goes on with a connection of its own that stands, or with the one that is kept. -/
theorem stood_does (made : (region, link) ∈ l.made) (token : Value) :
    Does p a l region link ((p.askPage (l.account.keep region) now region token).1,
      { l.stood region link with
        account := (p.askPage (l.account.keep region) now region token).2 }) := by
  have other := (sound.foreign _ made).1
  cases kept : l.kept.lookup region with
  | none =>
    have sound' := sound.kept kept made
    have linked : Ledger.link? p region ⟨l.account.keep region, l.made,
        l.kept ++ [(region, link)], l.used⟩ = some link := by
      simp [Ledger.link?, other, List.lookup_append, kept]
    have does : Does p a _ region link _ := askPage_does sound' linked now token
    simp only [Ledger.stood, kept]
    exact { does with grows := .of_made_eq (fun there => Ledger.link?_append there _) rfl }
  | some there =>
    -- Another connection stood first, and this one is never used.
    have linked : l.link? p region = some there := by simp [Ledger.link?, other, kept]
    have held : l.account.keep region = l.account := by
      have mem : region ∈ l.account.kept := by
        by_contra absent
        rw [← sound.keys, ← Ledger.lookup_eq_none_iff, kept] at absent
        cases absent
      simp [Account.keep, mem]
    simp only [Ledger.stood, kept, held]
    exact askPage_does sound linked now token

/-- A worker goes on in its page call. -/
theorem resume_does {rest : Rest} (awaits : Awaits p l region (.made i k) rest) :
    Does p a l region (.made i k) ((p.pageCallsNoted i).resume l now k region rest) := by
  cases rest with
  | connected token outcome =>
    cases outcome with
    | done =>
      cases settings : p.settingsFor region with
      | ok t =>
        have resumed : (p.pageCallsNoted i).resume l now k region (.connected token (.done ())) =
            ((p.askPage (l.account.keep region) now region token).1,
              { l.stood region (.made i k) with
                account := (p.askPage (l.account.keep region) now region token).2 }) := by
          simp only [pageCallsNoted, pageCalls, wordedOutcome, settings, Rest.stands]
          rfl
        rw [resumed]
        exact stood_does sound now awaits token
      | error c =>
        have resumed : (p.pageCallsNoted i).resume l now k region (.connected token (.done ())) =
            (.failed c, l) := by
          simp only [pageCallsNoted, pageCalls, wordedOutcome, settings, Rest.stands]
          rfl
        rw [resumed]
        exact idle_does sound trivial
    | failed c => exact idle_does sound trivial
    | cancelled => exact idle_does sound trivial
    | hung => exact idle_does sound awaits
  | answered outcome =>
    cases outcome with
    | done reply =>
      cases page : pageOf reply with
      | ok page' =>
        have resumed : (p.pageCallsNoted i).resume l now k region (.answered (.done reply)) =
            (.page ⟨page'.items.map fun n => ⟨n, region⟩, page'.next⟩, l) := by
          simp only [pageCallsNoted, pageCalls, wordedOutcome, page]
          rfl
        rw [resumed]
        exact idle_does sound awaits
      | error c =>
        have resumed : (p.pageCallsNoted i).resume l now k region (.answered (.done reply)) =
            (.failed c, l) := by
          simp only [pageCallsNoted, pageCalls, wordedOutcome, page]
          rfl
        rw [resumed]
        exact idle_does sound trivial
    | failed c => exact idle_does sound trivial
    | cancelled => exact idle_does sound trivial
    | hung => exact idle_does sound awaits

end Calls

end Provider

end ClusterOps
