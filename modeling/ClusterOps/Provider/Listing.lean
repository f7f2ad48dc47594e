import ClusterOps.Fanout
import ClusterOps.Provider

/-
Listing clusters, in the region of a provider or in many regions at once. Each
other region needs a connection of its own, which is kept once it stands. While
a connection is being made others can start to make one to the same region; the
first that stands is kept, and the others are not used.
-/

namespace ClusterOps

/-- A cluster that was found. -/
structure ClusterSummary where
  name : Value
  region : String
deriving DecidableEq, Repr, Inhabited

/-- The cluster as a record for an operator. -/
def ClusterSummary.toRecord (c : ClusterSummary) : List (String × Value) :=
  [("name", c.name), ("region", .text c.region)]

namespace Provider

variable {σ : Type}

/-- What is wanted when clusters are listed. -/
def toList : String := "listing control planes"

/-- What is wanted when a connection to another region is made. -/
def toConnect (region : String) : String :=
  "unable to create EKS client for region " ++ Cause.named region

/-- The request for the page of a token. -/
def pageRequest (p : Provider σ) (token : Value) : Request :=
  .listClusters p.settings.listChunk (if token.isTruthy then some token else none)

/-- The page in a reply. -/
def pageOf (reply : Value) : Except Cause (Listing.Page Value) := do
  let names ← Payload.elements (← Payload.field reply "clusters")
  return ⟨names, ← Payload.field reply "nextToken"⟩

/-- One page of cluster names. -/
def page (p : Provider σ) (token : Value) : Op (Account σ) (Listing.Page Value) := do
  let reply ← p.ask toList (p.pageRequest token)
  Op.ofExcept (pageOf reply)

/-- The clusters in the region of the provider. -/
def clusters (p : Provider σ) : Op (Account σ) (List ClusterSummary) := fun s =>
  let (names, s) := Listing.paginate (fun s token => p.page token s) s
  (names.map fun ns => ns.map fun n => ⟨n, p.region⟩, s)

/-! ## Other regions -/

/-- The settings for another region. -/
def settingsFor (p : Provider σ) (region : String) : Except Cause Settings :=
  (p.settings.withOverrides { region := some region }).mapError fun e => .settings e.message

/-- The provider for a region: this one for its own, else one with a connection of its own. -/
def forRegion (p : Provider σ) (region : String) : Op (Account σ) (Provider σ) := fun s =>
  if region = p.region then (.done p, s)
  else if s.world.kept.contains region then
    (.ofExcept ((p.settingsFor region).map fun t => { p with settings := t }), s)
  else
    (do
      p.connect (some (toConnect region)) region
      let settings ← Op.ofExcept (p.settingsFor region)
      fun s => (.done { p with settings := settings },
        { s with world := s.world.keep region })) s

/-- What of a page call is left to be done after a wait: to go on with a new connection, or to read
the answer. -/
inductive Rest where
  | connected (token : Value) (outcome : Outcome Unit)
  | answered (outcome : Outcome Value)
deriving Repr, Inhabited

/-- A page call in a region to which there is a connection. -/
def askPage (p : Provider σ) (account : Account σ) (now : Rat) (region : String) (token : Value) :
    Fanout.Reply ClusterSummary Rest × Account σ :=
  let (reply, account) := account.send p.cloud now region (p.pageRequest token)
  (.after reply.delay (.answered reply.outcome), account)

/-- The page calls of a listing in many regions. -/
def pageCalls (p : Provider σ) : Fanout.Calls (Account σ) String ClusterSummary Rest where
  ask account now _ region token :=
    if region = p.region || account.kept.contains region then p.askPage account now region token
    else
      let (outcome, account) := account.connect p.cloud region
      (.after (some 0) (.connected token outcome), account)
  resume account now _ region rest :=
    match rest with
    | .connected token outcome =>
      match wordedOutcome (toConnect region) outcome with
      | .done () =>
        match p.settingsFor region with
        | .ok _ => p.askPage (account.keep region) now region token
        | .error c => (.failed c, account)
      | .failed c => (.failed c, account)
      | .cancelled => (.cancelled, account)
      | .hung => (.after none rest, account)
    | .answered outcome =>
      match wordedOutcome toList outcome with
      | .done reply =>
        match pageOf reply with
        | .ok page => (.page ⟨page.items.map fun n => ⟨n, region⟩, page.next⟩, account)
        | .error c => (.failed c, account)
      | .failed c => (.failed c, account)
      | .cancelled => (.cancelled, account)
      | .hung => (.after none rest, account)
  waits := 2

/-- The clusters in the given regions, or in those of the settings if none are given. Regions that
fail are left out. -/
def clustersIn (p : Provider σ) (regions : List String) :
    Op (Account σ) (Fanout.Result String ClusterSummary) := fun s =>
  let partitions := if regions.isEmpty then p.settings.regions else regions
  let w := Fanout.run p.pageCalls p.clock (some p.settings.maxConcurrency.toNat) partitions
    s.world s.now
  let result := w.result partitions
  let records := (result.value?.map fun r => r.records id w.now).getD []
  (result, ⟨w.now, w.world, s.log ++ records⟩)

end Provider

end ClusterOps
