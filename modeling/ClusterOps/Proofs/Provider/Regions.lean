import ClusterOps.Proofs.Fanout.Served
import ClusterOps.Proofs.Provider.Paging

/-
Listing many regions at once, where each of them lists its names in pages. The page
calls of a region answer by the token, with a chunk of its names, once there is a
connection to it (`pageCalls_serves`); so the listing has for each region that was
asked for what this region has, and nothing else (`clustersIn_spec`). Regions are
taken as they are asked for, and one that is asked for twice is listed twice.
-/

namespace ClusterOps

variable {σ : Type}

namespace Provider

/-- The page of a region, its names being those of clusters there. -/
def inRegion (region : String) (page : Listing.Page Value) : Listing.Page ClusterSummary :=
  ⟨page.items.map fun n => ⟨n, region⟩, page.next⟩

theorem inRegion_chunk (region : String) (names : List String) (token : Nat → Value)
    (size start : Nat) : inRegion region (Listing.chunk (names.map .text) token size start)
      = Listing.chunk (names.map fun n => ⟨.text n, region⟩) token size start := by
  simp [inRegion, Listing.chunk, Function.comp_def]

/-- What the cloud in a state answers to a page call. -/
def pageIn (p : Provider σ) (state : σ) (region : String) (v : Value) :
    Except Cause (Listing.Page ClusterSummary) :=
  match (p.cloud.call state 0 region (p.pageRequest v)).1.outcome with
  | .done body => (pageOf body).map (inRegion region)
  | .failed c => .error c
  | .cancelled | .hung => .error default

/-- The page calls of regions that list their names in pages. The tokens that are asked for are
those of indices, and the answers are those of the cloud in one state. -/
def paging (p : Provider σ) (state : σ) (names : String → List String)
    (token : String → Nat → Value) : Fanout.Service String ClusterSummary Rest where
  asks region v := ∃ start, Listing.Reaches (names region) start ∧
    v = Listing.cursor (token region) start
  answer := p.pageIn state
  owes region rest m a :=
    match rest with
    | .connected v outcome => outcome = .done () ∧ 1 ≤ m ∧ a = p.pageIn state region v ∧
      ∃ start, Listing.Reaches (names region) start ∧ v = Listing.cursor (token region) start
    | .answered outcome => ∃ body, outcome = .done body ∧ a = (pageOf body).map (inRegion region)

section

variable {p : Provider σ} {regions : List String} {names : String → List String}
  {token : String → Nat → Value} {P : σ → Prop} {region : String} {state : σ} {account : Account σ}
  (lists : p.cloud.ListsRegions regions names token P) (positive : 1 ≤ p.settings.listChunk)
  (ready : P state)

include lists positive ready

/-- The answer to the token of an index is the chunk from there, in whatever state the cloud is. -/
theorem pageIn_cursor (mem : region ∈ regions) {start : Nat}
    (reaches : Listing.Reaches (names region) start) :
    p.pageIn state region (Listing.cursor (token region) start)
      = .ok (inRegion region (Listing.chunk ((names region).map .text) (token region)
          p.settings.listChunk.toNat start)) := by
  obtain ⟨delay, body, next, call, page, -⟩ :=
    call_page (lists.lists region mem) positive reaches ready 0
  simp only [pageIn, call, page]
  rfl

/-- A page call to a region to which there is a connection waits once, for its answer. -/
theorem askPage_leads (mem : region ∈ regions) {v : Value}
    (asks : (p.paging state names token).asks region v) (usable : P account.cloud) (now : Rat) :
    P (p.askPage account now region v).2.cloud ∧
      ∀ m, Fanout.Leads ((p.paging state names token).owes region) (p.pageIn state region v) (m + 1)
        (p.askPage account now region v).1 := by
  obtain ⟨start, reaches, rfl⟩ := asks
  obtain ⟨delay, body, next, call, page, usable'⟩ :=
    call_page (lists.lists region mem) positive reaches usable now
  simp only [askPage, Account.send, call]
  refine ⟨usable', fun m => ⟨body, rfl, ?_⟩⟩
  rw [pageIn_cursor lists positive ready mem reaches, page]
  rfl

/-- The page calls have these answers. -/
theorem pageCalls_serves (settings : ∀ region ∈ regions, ∃ t, p.settingsFor region = .ok t) :
    Fanout.Serves p.pageCalls regions (fun account => P account.cloud)
      (p.paging state names token) where
  first region _ := ⟨0, .inl rfl, rfl⟩
  next := by
    rintro region v page mem ⟨start, reaches, rfl⟩ answer truthy
    have answer : p.pageIn state region _ = _ := answer
    rw [pageIn_cursor lists positive ready mem reaches] at answer
    obtain rfl := Except.ok.inj answer
    simp only [inRegion, Listing.chunk, List.length_map] at truthy ⊢
    split at truthy
    case isTrue more =>
      rw [if_pos more]
      exact ⟨_, .inr more, by rw [Listing.cursor, if_neg (by omega)]⟩
    case isFalse => cases truthy
  ask := by
    intro account region v usable now k mem asks
    rw [pageCalls]
    dsimp only
    split
    case isTrue =>
      have asked := askPage_leads lists positive ready mem asks usable now
      exact ⟨asked.1, asked.2 1⟩
    case isFalse =>
      obtain ⟨connected, usable'⟩ := lists.connects usable region mem
      exact ⟨usable', connected, le_rfl, rfl, asks⟩
  resume := by
    intro account region rest usable now k mem expects
    obtain ⟨m, v, asks, owes⟩ := expects
    cases rest with
    | connected v outcome =>
      obtain ⟨rfl, -, -, asks⟩ := owes
      obtain ⟨t, settings⟩ := settings region mem
      have usable' : P (account.keep region).cloud := by
        rw [Account.keep]
        split <;> exact usable
      have asked := askPage_leads lists positive ready mem asks usable' now
      simp only [pageCalls, wordedOutcome, settings]
      refine ⟨asked.1, fun m a owes => ?_⟩
      obtain ⟨-, some, rfl, -⟩ := owes
      obtain ⟨m, rfl⟩ := Nat.exists_eq_add_of_le' some
      exact asked.2 m
    | answered outcome =>
      obtain ⟨body, rfl, -⟩ := owes
      have read : ∀ m a, (p.paging state names token).owes region (.answered (.done body)) m a →
          a = (pageOf body).map (inRegion region) := by
        rintro m a ⟨body', same, rfl⟩
        rw [Outcome.done.inj same]
      simp only [pageCalls, wordedOutcome]
      cases page : pageOf body with
      | ok page | error c =>
        refine ⟨usable, fun m a owes => ?_⟩
        have told := read _ a owes
        rw [page] at told
        cases m <;> exact told

/-- A region alone lists all its names. -/
theorem listing_paging (mem : region ∈ regions)
    (fits : (names region).length ≤ Listing.limit * p.settings.listChunk.toNat) :
    Fanout.listing (p.paging state names token).latest region
      = .done ((names region).map fun n => ⟨.text n, region⟩) := by
  have step : ∀ {j : Nat} {asked : List Value}, True →
      Listing.Reaches ((names region).map fun n => (⟨.text n, region⟩ : ClusterSummary))
        (j * p.settings.listChunk.toNat) → ∃ t,
      Fanout.asking (p.paging state names token).latest region asked
          (Listing.cursor (token region) (j * p.settings.listChunk.toNat))
        = (.done (Listing.chunk ((names region).map fun n => ⟨.text n, region⟩) (token region)
            p.settings.listChunk.toNat (j * p.settings.listChunk.toNat)), t) ∧ True := by
    intro j asked _ reaches
    rw [Listing.Reaches, List.length_map] at reaches
    have answer := pageIn_cursor lists positive ready mem reaches
    rw [inRegion_chunk] at answer
    simp only [Fanout.asking, Fanout.Service.latest, paging, List.headD_cons, answer]
    exact ⟨_, rfl, trivial⟩
  have room := Listing.pagesFor_le (by omega) (by decide) fits
  obtain ⟨t, listed, -⟩ := Listing.paginate_chunks
    (Fanout.asking (p.paging state names token).latest region) (P := fun _ _ => True)
    (lists.lists region mem).truthy (by omega) step (by rwa [List.length_map]) (s := []) trivial
  rw [Fanout.listing, listed]

end

section

variable {p : Provider σ} {names : String → List String} {token : String → Nat → Value}
  {P : σ → Prop} (lists : p.cloud.ListsRegions p.settings.regions names token P)
  (checked : p.settings.Checked)
  (fits : ∀ region ∈ p.settings.regions,
    ((names region).length : Int) ≤ Listing.limit * p.settings.listChunk)

include lists checked fits

/-- The clusters of the regions of the settings are those of each region in turn. -/
theorem clustersIn_spec {s : Session (Account σ)} (ready : P s.world.cloud) :
    (p.clustersIn [] s).1 = .done ⟨p.settings.regions.flatMap fun region =>
      (names region).map fun n => ⟨.text n, region⟩, p.settings.regions, []⟩ := by
  have positive := checked.listChunk_bounds.1
  have settings : ∀ region ∈ p.settings.regions, ∃ t, p.settingsFor region = .ok t := by
    intro region mem
    rw [settingsFor, checked.withOverrides_region (checked.isRegion_of_mem mem)]
    exact ⟨_, rfl⟩
  have wide : some p.settings.maxConcurrency.toNat ≠ some 0 := by
    have := checked.one_le_maxConcurrency
    simp
    omega
  have serves := pageCalls_serves lists positive ready settings
  have listing : ∀ region ∈ p.settings.regions,
      Fanout.listing (p.paging s.world.cloud names token).latest region
        = .done ((names region).map fun n => ⟨.text n, region⟩) := by
    intro region mem
    refine listing_paging lists positive ready mem ?_
    have fits := fits region mem
    zify
    rwa [Int.toNat_of_nonneg (by omega)]
  show (Fanout.run p.pageCalls p.clock _ p.settings.regions s.world s.now).result
    p.settings.regions = _
  rw [Fanout.run_served serves p.clock wide ready s.now, Fanout.listed_of_done listing]

end

/-- The clusters of a region are found as often as the region is gone through. -/
theorem count_flatMap {regions : List String} {names : String → List String} {region name : String}
    (distinct : ∀ r ∈ regions, (names r).Nodup) (mem : name ∈ names region) :
    (regions.flatMap fun r => (names r).map fun n => (⟨.text n, r⟩ : ClusterSummary)).count
      ⟨.text name, region⟩ = regions.count region := by
  induction regions with
  | nil => rfl
  | cons r rest ih =>
    have own : ((names r).map fun n => (⟨.text n, r⟩ : ClusterSummary)).count ⟨.text name, region⟩
        = if r = region then 1 else 0 := by
      split
      case isTrue same =>
        subst same
        have injective : Function.Injective fun n => (⟨.text n, r⟩ : ClusterSummary) := by
          intro a b same
          simpa using same
        rw [List.count_map_of_injective _ _ injective]
        exact List.count_eq_one_of_mem (distinct r (by simp)) mem
      case isFalse other =>
        refine List.count_eq_zero_of_not_mem fun found => ?_
        obtain ⟨n, -, same⟩ := List.mem_map.1 found
        exact other (congrArg ClusterSummary.region same)
    rw [List.flatMap_cons, List.count_append, own, ih fun q hq => distinct q (by simp [hq]),
      List.count_cons]
    simp [Nat.add_comm]

/-- The regions of the settings are listed all at once, if each of them can be listed. No region
fails. Every cluster of a region is found exactly as often as the settings name the region, so once
unless a region is repeated, and none is found that is not of one of these regions. -/
theorem clustersIn_complete {p : Provider σ} {names : String → List String}
    {token : String → Nat → Value} {P : σ → Prop} (checked : p.settings.Checked)
    (lists : p.cloud.ListsRegions p.settings.regions names token P)
    (distinct : ∀ region ∈ p.settings.regions, (names region).Nodup)
    (fits : ∀ region ∈ p.settings.regions,
      ((names region).length : Int) ≤ Listing.limit * p.settings.listChunk)
    {s : Session (Account σ)} (ready : P s.world.cloud) :
    ∃ r : Fanout.Result String ClusterSummary, (p.clustersIn [] s).1 = .done r ∧
      r.failures = [] ∧ r.succeeded = p.settings.regions ∧
      (∀ region ∈ p.settings.regions, ∀ name ∈ names region,
        r.items.count ⟨.text name, region⟩ = p.settings.regions.count region) ∧
      ∀ c ∈ r.items, c.region ∈ p.settings.regions ∧
        ∃ name ∈ names c.region, c.name = .text name := by
  refine ⟨_, clustersIn_spec lists checked fits ready, rfl, rfl, ?_, fun c mem => ?_⟩
  · exact fun region _ name mem => count_flatMap distinct mem
  · obtain ⟨region, named, found⟩ := List.mem_flatMap.1 mem
    obtain ⟨name, known, rfl⟩ := List.mem_map.1 found
    exact ⟨named, name, known, rfl⟩

/-- Two regions with clusters of one name, and a cluster elsewhere. -/
theorem clustersIn_complete_of_two :
    let cluster (name region : String) : Simulated.Cluster :=
      ⟨name, region, .text "ACTIVE", .text "1.27", [], .null⟩
    let cloud : Simulated.State := ⟨[cluster "a" "eu-west-1", cluster "b" "eu-west-1",
      cluster "a" "eu-west-2", cluster "x" "us-east-1"], [], 1, .text "Successful", [], [], []⟩
    let p : Provider Simulated.State := ⟨Simulated.cloud, .exact,
      { Settings.forRegion "eu-west-1" with regions := ["eu-west-2", "eu-west-1"] }⟩
    ∃ r, (p.clustersIn [] ⟨0, .new cloud, []⟩).1 = .done r ∧ r.failures = [] ∧
      r.items.count ⟨.text "a", "eu-west-1"⟩ = 1 ∧ r.items.count ⟨.text "a", "eu-west-2"⟩ = 1 ∧
      r.items.count ⟨.text "b", "eu-west-1"⟩ = 1 ∧ ∀ c ∈ r.items, c.region ≠ "us-east-1" := by
  intro cluster cloud p
  have few : ∀ region ∈ p.settings.regions, (cloud.namesIn region).length ≤ 10 := by decide
  have lists : p.cloud.ListsRegions p.settings.regions cloud.namesIn (fun _ => Simulated.token)
      (· = cloud) :=
    Simulated.State.listsRegions rfl (by decide) (by decide) fun region mem =>
      (few region mem).trans (Nat.le_self_pow (by decide) 10)
  obtain ⟨r, result, failures, -, each, only⟩ := clustersIn_complete (p := p) (by decide +kernel)
    lists (by decide) (by decide) (s := ⟨0, .new cloud, []⟩) rfl
  refine ⟨r, result, failures, each "eu-west-1" (by decide) "a" (by decide),
    each "eu-west-2" (by decide) "a" (by decide), each "eu-west-1" (by decide) "b" (by decide), ?_⟩
  intro c mem elsewhere
  exact absurd (elsewhere ▸ (only c mem).1) (by decide)

/-- Nothing drops a region that is named again: its cluster, which the region lists once, is found
twice. -/
theorem clustersIn_repeats :
    let cloud : Simulated.State :=
      ⟨[⟨"demo", "eu-west-1", .text "ACTIVE", .text "1.27", [], .null⟩], [], 1,
        .text "Successful", [], [], []⟩
    let p : Provider Simulated.State := ⟨Simulated.cloud, .exact,
      { Settings.forRegion "eu-west-1" with regions := ["eu-west-1", "eu-west-1"] }⟩
    p.settings.Checked ∧
      (p.clusters ⟨0, .new cloud, []⟩).1 = .done [⟨.text "demo", "eu-west-1"⟩] ∧
      ∃ r, (p.clustersIn [] ⟨0, .new cloud, []⟩).1 = .done r ∧
        r.items.count ⟨.text "demo", "eu-west-1"⟩ = 2 := by
  intro cloud p
  have checked : p.settings.Checked := by decide +kernel
  have few : ∀ region ∈ p.settings.regions, (cloud.namesIn region).length ≤ 10 := by decide
  have lists : p.cloud.ListsRegions p.settings.regions cloud.namesIn (fun _ => Simulated.token)
      (· = cloud) :=
    Simulated.State.listsRegions rfl (by decide) (by decide) fun region mem =>
      (few region mem).trans (Nat.le_self_pow (by decide) 10)
  have alone := clusters_spec (p := p) (lists.lists "eu-west-1" (by decide)) checked (by decide)
    (s := ⟨0, .new cloud, []⟩) rfl
  have all := clustersIn_spec lists checked (by decide) (s := ⟨0, .new cloud, []⟩) rfl
  exact ⟨checked, alone.1, _, all, by decide⟩

end Provider

end ClusterOps
