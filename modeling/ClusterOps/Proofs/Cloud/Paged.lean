import ClusterOps.Proofs.Cloud.Simulated
import ClusterOps.Proofs.Listing.Chunks
import ClusterOps.Proofs.Text.Decimal

/-
A cloud that lists in pages. A page holds as many names as are asked for, from the
index for which the token stands, and the token of the next page is that of the
index behind it, as long as names remain. How an index is written as a token is up
to the cloud; it only may not write one that counts as false.
-/

namespace ClusterOps

variable {σ : Type}

/-- The token with which the page from an index is asked for: none for the first page. -/
def Listing.tokenFrom (token : Nat → Value) (start : Nat) : Option Value :=
  if start = 0 then none else some (token start)

/-- The data is a page: `size` of the names from an index, and the token of the index behind them if
names remain. -/
def Value.ShowsPage (body : Value) (names : List String) (token : Nat → Value) (start size : Nat) :
    Prop :=
  body.get? "clusters" = some (.texts ((names.drop start).take size)) ∧
    body.get? "nextToken"
      = if start + size < names.length then some (token (start + size)) else none

/-- In a region the cloud answers calls for the pages of a list of names with these pages. `P` is
what it needs for that and keeps. -/
structure Cloud.ListsInPages (cloud : Cloud σ) (region : String) (names : List String)
    (token : Nat → Value) (P : σ → Prop) : Prop where
  truthy : ∀ i, 0 < i → (token i).isTruthy = true
  answers : ∀ {state : σ}, P state → ∀ (now : Rat) (size start : Nat), 0 < size →
    Listing.Reaches names start → ∃ delay body next,
      cloud.call state now region (.listClusters size (Listing.tokenFrom token start))
        = (⟨some delay, .done body⟩, next) ∧ body.ShowsPage names token start size ∧ P next

/-- Every one of the regions can be connected to, and lists its names in pages. -/
structure Cloud.ListsRegions (cloud : Cloud σ) (regions : List String)
    (names : String → List String) (token : String → Nat → Value) (P : σ → Prop) : Prop where
  connects : ∀ {state : σ}, P state → ∀ region ∈ regions,
    (cloud.connect state region).1 = .done () ∧ P (cloud.connect state region).2
  lists : ∀ region ∈ regions, cloud.ListsInPages region (names region) (token region) P

namespace Simulated

/-- The token that the computed cloud writes for an index. -/
def token (i : Nat) : Value := .text (toString i)

/-- The names of the clusters in a region. -/
def State.namesIn (s : State) (region : String) : List String :=
  (s.clusters.filter fun c => c.region == region).map Cluster.name

theorem token_isTruthy (i : Nat) : (token i).isTruthy = true := by
  simp [token, Value.isTruthy]

/-- The computed cloud reads its own tokens. -/
theorem tokenIndex_tokenFrom {i : Nat} (h : i < 10 ^ Text.maxDigits) :
    State.tokenIndex ((Listing.tokenFrom token i).getD (.int 0)) = some (i : Int) := by
  unfold Listing.tokenFrom
  split
  case isTrue zero => simp [State.tokenIndex, zero]
  case isFalse => exact Text.intLiteral?_toString h

/-- It lists the clusters of a region in pages, unless something is scripted or the listing of the
region is at fault. -/
theorem State.listsInPages {s : State} {region : String} (unscripted : s.script = [])
    (faultless : s.listFaults.lookup region = none)
    (short : (s.namesIn region).length ≤ 10 ^ Text.maxDigits) :
    cloud.ListsInPages region (s.namesIn region) token (· = s) := by
  refine ⟨fun i _ => token_isTruthy i, ?_⟩
  rintro state ready now size start - reaches
  rw [ready]
  have index : start < 10 ^ Text.maxDigits := by
    rcases reaches with rfl | reaches
    · exact Nat.pow_pos (by decide)
    · exact reaches.trans_le short
  let names := s.namesIn region
  let fields : List (String × Value) := ("clusters", .texts ((names.drop start).take size))
    :: if start + size < names.length then [("nextToken", token (start + size))] else []
  have listed : s.list region size (Listing.tokenFrom token start)
      = .done (Value.object fields) := by
    rw [list, faultless]
    simp only [tokenIndex_tokenFrom index, Int.toNat_natCast, ← Int.natCast_add, Nat.cast_lt]
    rfl
  refine ⟨0, Value.object fields, s, (call_unscripted unscripted now _).trans ?_, ?_, rfl⟩
  · rw [compute, listed]
  · by_cases more : start + size < names.length
    all_goals simp [fields, Value.ShowsPage, Value.object, Value.get?, Value.find?, more, names]

/-- It lists the clusters of all regions in pages, unless something is scripted or at fault. -/
theorem State.listsRegions {s : State} {regions : List String} (unscripted : s.script = [])
    (connects : ∀ region ∈ regions, s.connectFaults.lookup region = none)
    (faultless : ∀ region ∈ regions, s.listFaults.lookup region = none)
    (short : ∀ region ∈ regions, (s.namesIn region).length ≤ 10 ^ Text.maxDigits) :
    cloud.ListsRegions regions s.namesIn (fun _ => token) (· = s) where
  connects := by
    rintro _ rfl region mem
    simp [cloud, connects region mem]
  lists region mem := State.listsInPages unscripted (faultless region mem) (short region mem)

end Simulated

end ClusterOps
