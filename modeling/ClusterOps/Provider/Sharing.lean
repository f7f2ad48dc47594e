import ClusterOps.Fanout.Order
import ClusterOps.Provider.Listing

/-
Listings in many regions on one provider, any number of them and at the same time.
They share the connections that the provider keeps. To a region where none is kept
each worker that needs one makes its own; of those the first that stands is kept, and
whoever made another one asks through the one that is kept. Whatever the listings wait
for can come in any order and at any time.
-/

namespace ClusterOps.Provider

variable {σ : Type}

/-- Which connection it is: the provider's own, one that it kept already, or the one that a worker
of a listing made. -/
inductive Link where
  | own
  | earlier
  | made (listing worker : Nat)
deriving DecidableEq, Repr

/-- An account, and beside it the connections that were made and those that are kept, each with its
region, and the region and the connection of each page that was asked for. -/
structure Ledger (σ : Type) where
  account : Account σ
  made : List (String × Link)
  kept : List (String × Link)
  used : List (String × Link)

namespace Ledger

/-- The ledger of an account before all listings. -/
def new (account : Account σ) : Ledger σ :=
  ⟨account, [], account.kept.map fun region => (region, .earlier), []⟩

/-- The connection through which the pages of a region are asked for, if there is one. -/
def link? (p : Provider σ) (region : String) (l : Ledger σ) : Option Link :=
  if region = p.region then some .own else l.kept.lookup region

/-- Notes that a page of a region is needed: it is asked for, or a connection is made first. -/
def needed (p : Provider σ) (region : String) (link : Link) (l : Ledger σ) : Ledger σ :=
  match l.link? p region with
  | some there => { l with used := l.used ++ [(region, there)] }
  | none => { l with made := l.made ++ [(region, link)] }

/-- Notes that a connection stands: it is kept unless there is one, and a page is asked for through
the one that is kept. -/
def stood (region : String) (link : Link) (l : Ledger σ) : Ledger σ :=
  match l.kept.lookup region with
  | some there => { l with used := l.used ++ [(region, there)] }
  | none => { l with kept := l.kept ++ [(region, link)], used := l.used ++ [(region, link)] }

end Ledger

/-- Whether what is left to be done is to go on with a connection that stands and can be used. -/
def Rest.stands (p : Provider σ) (region : String) : Rest → Bool
  | .connected _ (.done ()) => (p.settingsFor region).isOk
  | _ => false

/-- The page calls of the listing of some number, with all connections noted. -/
def pageCallsNoted (p : Provider σ) (i : Nat) :
    Fanout.Calls (Ledger σ) String ClusterSummary Rest where
  ask l now k region token :=
    let (reply, account) := p.pageCalls.ask l.account now k region token
    (reply, { l.needed p region (.made i k) with account := account })
  resume l now k region rest :=
    let (reply, account) := p.pageCalls.resume l.account now k region rest
    let l := if rest.stands p region then l.stood region (.made i k) else l
    (reply, { l with account := account })
  waits := p.pageCalls.waits

/-- A listing in some regions, and how it stands. -/
structure Ongoing (σ : Type) where
  regions : List String
  state : Fanout.State (Ledger σ) ClusterSummary Rest

/-- All listings on a provider, and what they share. -/
structure Sharing (σ : Type) where
  ledger : Ledger σ
  listings : List (Ongoing σ)

namespace Sharing

/-- The provider before all listings. -/
def new (account : Account σ) : Sharing σ := ⟨.new account, []⟩

/-- A listing is begun. -/
def listed (p : Provider σ) (regions : List String) (now : Rat) (s : Sharing σ) : Sharing σ :=
  { s with listings := s.listings ++
      [⟨regions, Fanout.start (some p.settings.maxConcurrency.toNat) regions s.ledger now⟩] }

/-- A listing as it sees what all share. -/
def seenBy (s : Sharing σ) (o : Ongoing σ) : Fanout.State (Ledger σ) ClusterSummary Rest :=
  { o.state with world := s.ledger }

/-- A listing has come to a state, and what it did is seen by all. -/
def moved (i : Nat) (regions : List String) (state : Fanout.State (Ledger σ) ClusterSummary Rest)
    (s : Sharing σ) : Sharing σ :=
  ⟨state.world, s.listings.set i ⟨regions, state⟩⟩

/-- What can happen next: a listing is begun, or something comes that one of them waits for. -/
inductive Step (p : Provider σ) : Sharing σ → Sharing σ → Prop
  | list (s : Sharing σ) (regions : List String) (now : Rat) : Step p s (s.listed p regions now)
  | happen {s : Sharing σ} {i : Nat} {o : Ongoing σ} {before after : List Fanout.Event}
      {e : Fanout.Event} (t : Rat) : s.listings[i]? = some o →
      o.state.events = before ++ e :: after →
      Step p s (s.moved i o.regions (Fanout.step (p.pageCallsNoted i) p.clock o.regions
        ((s.seenBy o).bring t before e after)))

end Sharing

end ClusterOps.Provider
