import ClusterOps.Proofs.Fanout.World
import ClusterOps.Proofs.Provider.Asks
import ClusterOps.Provider.Listing

/-
Operations that only read. Whatever the cloud answers, an operation that is
`ReadOnly` requests no update: the calls that it adds to the account all describe
or list. That is `Asks` for one property of calls, so operations made of such
operations are such themselves, and so are all of a provider's but the two that
request updates.
-/

namespace ClusterOps

variable {σ : Type}

/-- Updates are requested by two operations. -/
theorem Request.isUpdate_eq_false_iff {r : Request} : r.isUpdate = false ↔
    r.operation ≠ "UpdateClusterConfig" ∧ r.operation ≠ "UpdateClusterVersion" := by
  cases r <;> simp [isUpdate, operation]

namespace Account

/-- What was asked from one account to a later one are calls that request no update. -/
def OnlyRead (a b : Account σ) : Prop :=
  ∃ made, b.calls = a.calls ++ made ∧ ∀ c ∈ made, c.request.isUpdate = false

variable {a b c : Account σ}

theorem OnlyRead.of_calls_eq (h : b.calls = a.calls) : a.OnlyRead b := Adds.of_calls_eq h

theorem OnlyRead.refl (a : Account σ) : a.OnlyRead a := Adds.refl a

theorem OnlyRead.trans (h : a.OnlyRead b) (h' : b.OnlyRead c) : a.OnlyRead c := Adds.trans h h'

theorem onlyRead_send (a : Account σ) (cloud : Cloud σ) (now : Rat) (region : String)
    {r : Request} (h : r.isUpdate = false) : a.OnlyRead (a.send cloud now region r).2 :=
  a.adds_send cloud now fun _ _ request => request ▸ h

theorem onlyRead_connect (a : Account σ) (cloud : Cloud σ) (region : String) :
    a.OnlyRead (a.connect cloud region).2 := a.adds_connect cloud region

theorem onlyRead_keep (a : Account σ) (region : String) : a.OnlyRead (a.keep region) := by
  rw [keep]
  split
  · exact .refl a
  · exact .of_calls_eq rfl

end Account

/-! ## Operations -/

namespace Op

variable {α β : Type}

/-- Whatever the cloud answers, the operation requests no update. -/
def ReadOnly (x : Op (Account σ) α) : Prop :=
  ∀ s : Session (Account σ), s.world.OnlyRead (x s).2.world

theorem readOnly_pure (a : α) : (pure a : Op (Account σ) α).ReadOnly := asks_pure a

theorem readOnly_ofExcept (e : Except Cause α) : (ofExcept e : Op (Account σ) α).ReadOnly :=
  asks_ofExcept e

theorem readOnly_record (level : Level) (source : Source) (message : String)
    (fields : List (String × Value)) :
    (record level source message fields : Op (Account σ) Unit).ReadOnly :=
  asks_record level source message fields

theorem ReadOnly.bind {x : Op (Account σ) α} {f : α → Op (Account σ) β} (hx : x.ReadOnly)
    (hf : ∀ a, (f a).ReadOnly) : (x >>= f).ReadOnly := Asks.bind hx hf

theorem ReadOnly.caught {x : Op (Account σ) α} (h : x.ReadOnly) (isCaught : Cause → Bool) :
    (x.caught isCaught).ReadOnly := Asks.caught h isCaught

end Op

/-! ## Providers -/

namespace Provider

variable (p : Provider σ)

theorem readOnly_create (cloud : Cloud σ) (clock : Clock) (t : Settings) :
    (create cloud clock t).ReadOnly := asks_create cloud clock t

theorem readOnly_ask (purpose : String) {r : Request} (h : r.isUpdate = false) :
    (p.ask purpose r).ReadOnly := p.asks_ask purpose fun _ _ request => request ▸ h

theorem readOnly_describe (name : String) : (p.describe name).ReadOnly :=
  (p.readOnly_ask _ rfl).bind fun _ => Op.readOnly_ofExcept _

theorem readOnly_describeActive (name : String) : (p.describeActive name).ReadOnly :=
  (p.readOnly_describe name).bind fun _ => Op.readOnly_ofExcept _

theorem readOnly_currentLogging (name : String) : (p.currentLogging name).ReadOnly :=
  (p.readOnly_describeActive name).bind fun _ => Op.readOnly_ofExcept _

theorem readOnly_getCluster (name : String) : (p.getCluster name).ReadOnly :=
  (p.readOnly_describe name).bind fun _ =>
    (Op.readOnly_record _ _ _ _).bind fun _ => Op.readOnly_pure _

theorem readOnly_page (token : Value) : (p.page token).ReadOnly :=
  (p.readOnly_ask _ rfl).bind fun _ => Op.readOnly_ofExcept _

theorem readOnly_clusters : p.clusters.ReadOnly :=
  fun s => Listing.paginate_keeps (P := fun t => s.world.OnlyRead t.world)
    (fun t token reads => reads.trans (p.readOnly_page token t)) (.refl _)

/-- The page calls of a listing in many regions only read. -/
theorem onlyRead_pageCalls (a : Account σ) : p.pageCalls.Keep a.OnlyRead := by
  have page : ∀ {world : Account σ}, a.OnlyRead world → ∀ now region token,
      a.OnlyRead (p.askPage world now region token).2 :=
    fun reads now region token => reads.trans (Account.onlyRead_send _ p.cloud now region rfl)
  refine ⟨fun reads now _ region token => ?ask, fun reads now _ region rest => ?resume⟩
  case ask =>
    rw [pageCalls]
    dsimp only
    split
    · exact page reads ..
    · exact reads.trans (Account.onlyRead_connect ..)
  case resume =>
    rw [pageCalls]
    dsimp only
    split
    case h_1 =>
      split
      case h_1 =>
        split
        · exact page (reads.trans (Account.onlyRead_keep ..)) ..
        · exact reads
      case h_2 | h_3 | h_4 => exact reads
    case h_2 =>
      split
      case h_1 => split <;> exact reads
      case h_2 | h_3 | h_4 => exact reads

theorem readOnly_clustersIn (regions : List String) : (p.clustersIn regions).ReadOnly :=
  fun s => Fanout.world_run (p.onlyRead_pageCalls s.world) p.clock _ _ _ (.refl _)

end Provider

end ClusterOps
