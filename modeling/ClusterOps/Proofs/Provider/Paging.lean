import ClusterOps.Proofs.Cloud.Paged
import ClusterOps.Proofs.Provider.Calls
import ClusterOps.Proofs.Settings.Checked
import ClusterOps.Provider.Listing

/-
Listing a region page by page. Each page call is one call to the cloud and gives a
chunk of the names that it has, so that all of them are listed, each once and in
their order. How large the chunks are can only be told from the calls.
-/

namespace ClusterOps

variable {σ : Type}

namespace Provider

/-- The requests for the first pages of a listing. -/
def pageRequests (p : Provider σ) (token : Nat → Value) (count : Nat) : List Request :=
  (List.range count).map fun j => .listClusters p.settings.listChunk
    (Listing.tokenFrom token (j * p.settings.listChunk.toNat))

section

variable {p : Provider σ} {names : List String} {token : Nat → Value} {P : σ → Prop}

theorem pageRequest_cursor (truthy : ∀ i, 0 < i → (token i).isTruthy = true) (start : Nat) :
    p.pageRequest (Listing.cursor token start)
      = .listClusters p.settings.listChunk (Listing.tokenFrom token start) := by
  unfold Listing.cursor Listing.tokenFrom
  split
  case isTrue => rfl
  case isFalse positive => simp [pageRequest, truthy start (by omega)]

/-- What is read of a page. -/
theorem pageOf_of_showsPage {body : Value} {start size : Nat}
    (h : body.ShowsPage names token start size) :
    pageOf body = .ok (Listing.chunk (names.map .text) token size start) := by
  obtain ⟨clusters, next⟩ := h
  cases body
  case map entries =>
    simp only [Value.get?] at clusters next
    have items : Payload.elements (Value.texts ((names.drop start).take size))
        = .ok (((names.drop start).take size).map .text) := Payload.elements_list _
    simp only [pageOf, Payload.field_map, clusters, next, Option.getD_some]
    show (Payload.elements _ >>= _) = _
    rw [items, Listing.chunk, ← List.map_drop, ← List.map_take, List.length_map]
    split <;> rfl
  all_goals cases clusters

/-- The answer to the request for the page from an index is data, and reads as this page. -/
theorem call_page {region : String} (lists : p.cloud.ListsInPages region names token P)
    (positive : 1 ≤ p.settings.listChunk) {start : Nat} (reaches : Listing.Reaches names start)
    {state : σ} (ready : P state) (now : Rat) : ∃ delay body next,
      p.cloud.call state now region (p.pageRequest (Listing.cursor token start))
        = (⟨some delay, .done body⟩, next) ∧
      pageOf body = .ok (Listing.chunk (names.map .text) token p.settings.listChunk.toNat start) ∧
      P next := by
  have size : (p.settings.listChunk.toNat : Int) = p.settings.listChunk :=
    Int.toNat_of_nonneg (by omega)
  obtain ⟨delay, body, next, call, shows, ready'⟩ :=
    lists.answers ready now p.settings.listChunk.toNat start (by omega) reaches
  rw [size, ← pageRequest_cursor lists.truthy] at call
  exact ⟨delay, body, next, call, pageOf_of_showsPage shows, ready'⟩

variable (lists : p.cloud.ListsInPages p.region names token P)

include lists

/-- A page call at an index is one call, and gives the page from there. -/
theorem page_spec (positive : 1 ≤ p.settings.listChunk) {start : Nat}
    (reaches : Listing.Reaches names start) {s : Session (Account σ)} (ready : P s.world.cloud) :
    ∃ (call : Call) (t : Session (Account σ)), p.page (Listing.cursor token start) s
        = (.done (Listing.chunk (names.map .text) token p.settings.listChunk.toNat start), t) ∧
      t.world.calls = s.world.calls ++ [call] ∧ call.region = p.region ∧
      call.request = .listClusters p.settings.listChunk (Listing.tokenFrom token start) ∧
      P t.world.cloud := by
  obtain ⟨delay, body, next, call, page, ready'⟩ := call_page lists positive reaches ready s.now
  obtain ⟨t, asked, calls, state⟩ : ∃ t : Session (Account σ),
      p.ask toList (p.pageRequest (Listing.cursor token start)) s = (.done body, t) ∧
        t.world.calls = s.world.calls ++ [p.made (p.pageRequest (Listing.cursor token start)) s] ∧
        t.world.cloud = next := by
    have reply : (p.made (p.pageRequest (Listing.cursor token start)) s).reply
        = ⟨some delay, .done body⟩ := congrArg Prod.fst call
    rw [ask_eq, reply]
    exact ⟨_, rfl, by simp [made], congrArg Prod.snd call⟩
  refine ⟨p.made (p.pageRequest (Listing.cursor token start)) s, t,
    (Op.bind_of_done asked _).trans ?_, calls, rfl, pageRequest_cursor lists.truthy start,
    state ▸ ready'⟩
  rw [page]
  rfl

/-- All names are listed, with the requests for the pages that they fill. -/
theorem clusters_spec (checked : p.settings.Checked)
    (fits : (names.length : Int) ≤ Listing.limit * p.settings.listChunk)
    {s : Session (Account σ)} (ready : P s.world.cloud) :
    (p.clusters s).1 = .done (names.map fun n => ⟨.text n, p.region⟩) ∧
    ∃ made : List Call, (p.clusters s).2.world.calls = s.world.calls ++ made ∧
      (∀ c ∈ made, c.region = p.region) ∧ made.map Call.request = p.pageRequests token
        (Listing.pagesFor names.length p.settings.listChunk.toNat) := by
  have positive := checked.listChunk_bounds.1
  have room : names.length ≤ Listing.limit * p.settings.listChunk.toNat := by
    zify
    rwa [Int.toNat_of_nonneg (by omega)]
  have room := Listing.pagesFor_le (by omega) (by decide) room
  rw [← List.length_map (f := Value.text)] at room
  -- What holds after so many pages: the calls made so far are those for these pages.
  let P' (j : Nat) (t : Session (Account σ)) : Prop := P t.world.cloud ∧
    ∃ made : List Call, t.world.calls = s.world.calls ++ made ∧
      (∀ c ∈ made, c.region = p.region) ∧ made.map Call.request = p.pageRequests token j
  have start : P' 0 s := ⟨ready, [], by simp, by simp, rfl⟩
  have step : ∀ {j u}, P' j u → Listing.Reaches (names.map Value.text)
      (j * p.settings.listChunk.toNat) → ∃ t, p.page (Listing.cursor token
          (j * p.settings.listChunk.toNat)) u
        = (.done (Listing.chunk (names.map .text) token p.settings.listChunk.toNat
          (j * p.settings.listChunk.toNat)), t) ∧ P' (j + 1) t := by
    intro j u h reaches
    obtain ⟨ready, made, calls, regions, requests⟩ := h
    rw [Listing.Reaches, List.length_map] at reaches
    obtain ⟨call, t, page, calls', region, request, ready'⟩ :=
      page_spec lists positive reaches ready
    refine ⟨t, page, ready', made ++ [call], by rw [calls', calls, List.append_assoc], ?_, ?_⟩
    · simpa [or_imp, forall_and, region] using regions
    · rw [List.map_append, requests, pageRequests, pageRequests, List.range_succ, List.map_append]
      simp [request]
  obtain ⟨t, listed, -, made, calls, regions, requests⟩ := Listing.paginate_chunks
    (fun s token => p.page token s) lists.truthy (by omega) step room start
  rw [List.length_map] at requests
  simp only [clusters, listed]
  exact ⟨by simp [Outcome.map], made, calls, regions, requests⟩

/-- However large the chunks are, a listing has all the names, each once and in their order, as long
as the limit of pages allows for them. It takes as many calls as the names fill pages, at least one,
and only the first call is one without a token. -/
theorem clusters_complete (checked : p.settings.Checked)
    (fits : (names.length : Int) ≤ Listing.limit * p.settings.listChunk)
    {s : Session (Account σ)} (ready : P s.world.cloud) :
    (p.clusters s).1 = .done (names.map fun n => ⟨.text n, p.region⟩) ∧
    (∃ made : List Call, (p.clusters s).2.world.calls = s.world.calls ++ made ∧
      (∀ c ∈ made, c.region = p.region) ∧
      made.map Call.request
        = (List.range (max 1 (names.length ⌈/⌉ p.settings.listChunk.toNat))).map fun j =>
          .listClusters p.settings.listChunk
            (if j = 0 then none else some (token (j * p.settings.listChunk.toNat)))) ∧
    ∀ t : Settings, t.Checked → t.region = p.region →
      (names.length : Int) ≤ Listing.limit * t.listChunk →
      (({ p with settings := t } : Provider σ).clusters s).1 = (p.clusters s).1 := by
  have positive := checked.listChunk_bounds.1
  obtain ⟨listed, made, calls, regions, requests⟩ := clusters_spec lists checked fits ready
  refine ⟨listed, ⟨made, calls, regions, ?_⟩, fun t checked' same fits' => ?_⟩
  · rw [requests]
    refine List.map_congr_left fun j _ => ?_
    have first : j * p.settings.listChunk.toNat = 0 ↔ j = 0 := by
      rw [Nat.mul_eq_zero]
      omega
    simp only [Listing.tokenFrom, first]
  · have lists' : p.cloud.ListsInPages t.region names token P := same ▸ lists
    rw [listed, (clusters_spec (p := { p with settings := t }) lists' checked' fits' ready).1]
    simp only [region, same]

end

/-- Three clusters in chunks of two, and one cluster elsewhere. -/
theorem clusters_complete_in_pairs :
    let cluster (name region : String) : Simulated.Cluster :=
      ⟨name, region, .text "ACTIVE", .text "1.27", [], .null⟩
    let cloud : Simulated.State := ⟨[cluster "b" "eu-west-1", cluster "x" "eu-west-2",
      cluster "a" "eu-west-1", cluster "c" "eu-west-1"], [], 1, .text "Successful", [], [], []⟩
    let p : Provider Simulated.State :=
      ⟨Simulated.cloud, .exact, { Settings.forRegion "eu-west-1" with listChunk := 2 }⟩
    (p.clusters ⟨0, .new cloud, []⟩).1
      = .done [⟨.text "b", "eu-west-1"⟩, ⟨.text "a", "eu-west-1"⟩, ⟨.text "c", "eu-west-1"⟩] := by
  intro cluster cloud p
  have lists : p.cloud.ListsInPages "eu-west-1" (cloud.namesIn "eu-west-1") Simulated.token
      (· = cloud) :=
    Simulated.State.listsInPages rfl rfl
      ((show 3 ≤ 10 by decide).trans (Nat.le_self_pow (by decide) 10))
  exact (clusters_complete (p := p) lists (by decide +kernel) (by decide)
    (s := ⟨0, .new cloud, []⟩) rfl).1

end Provider

end ClusterOps
