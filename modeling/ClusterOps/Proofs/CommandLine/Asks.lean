import ClusterOps.CommandLine.Run
import ClusterOps.Proofs.Provider.Asks

/-
What the work of commands asks of the cloud, told as for operations. Work that
is refused asks what it had asked until then. To find out what is declared a
command asks nothing at all (`asks_declaration`).
-/

namespace ClusterOps

variable {σ : Type} {P : Call → Prop}

theorem Surroundings.asks_document (w : Surroundings σ) (path : String) :
    (w.document path : Op (Account σ) ClusterDocument).Asks P :=
  (Op.asks_ofExcept _).bind fun _ _ => .refl _

namespace CommandLine

namespace Work

variable {α β : Type}

/-- Whatever the cloud answers, the work asks no other calls than those with a property. -/
def Asks (P : Call → Prop) (x : Work σ α) : Prop := Op.Asks P x.run

theorem asks_pure (a : α) : Asks P (pure a : Work σ α) := Op.asks_pure _

theorem asks_refuse (r : Refusal) : Asks P (refuse r : Work σ α) := Op.asks_pure _

theorem Asks.bind {x : Work σ α} {f : α → Work σ β} (hx : x.Asks P) (hf : ∀ a, (f a).Asks P) :
    (x >>= f).Asks P := by
  rw [Asks, ExceptT.run_bind]
  refine Op.Asks.bind hx fun result => ?_
  cases result with
  | ok a => exact hf a
  | error r => exact Op.asks_pure _

/-- Work goes on with its value, or it ends all that would follow. -/
theorem bind_cases (x : Work σ α) (f : α → Work σ β) (s : Session (Account σ)) :
    (∃ a t, x.run s = (.done (.ok a), t) ∧ (x >>= f).run s = (f a).run t) ∨
      ((x >>= f).run s).2 = (x.run s).2 ∧ ∀ b, ((x >>= f).run s).1 ≠ .done (.ok b) := by
  rw [ExceptT.run_bind]
  rcases Op.bind_cases x.run _ s with ⟨result, t, ran, next⟩ | ⟨same, undone⟩
  · rw [next]
    cases result with
    | ok a => exact .inl ⟨a, t, ran, rfl⟩
    | error r =>
      rw [ran]
      exact .inr ⟨rfl, fun b same => by cases Outcome.done.inj same⟩
  · exact .inr ⟨same, fun b => undone (.ok b)⟩

/-- Work that asks nothing leaves all calls to what follows it, if anything follows. -/
theorem Asks.calls_bind {x : Work σ α} (quiet : x.Asks fun _ => False) (f : α → Work σ β)
    (s : Session (Account σ)) :
    (((x >>= f).run s).2.world.calls = s.world.calls ∧
        ∀ b, ((x >>= f).run s).1 ≠ .done (.ok b)) ∨
      ∃ a t, x.run s = (.done (.ok a), t) ∧ t.world.calls = s.world.calls ∧
        (x >>= f).run s = (f a).run t := by
  have idle : (x.run s).2.world.calls = s.world.calls := (quiet s).calls_eq
  rcases bind_cases x f s with ⟨a, t, ran, next⟩ | ⟨same, undone⟩
  · rw [ran] at idle
    exact .inr ⟨a, t, ran, idle, next⟩
  · rw [same]
    exact .inl ⟨idle, undone⟩

@[simp] theorem run_refusing_snd (isRefusal : Cause → Bool) (x : Op (Account σ) α)
    (s : Session (Account σ)) : ((refusing isRefusal x).run s).2 = (x s).2 := by
  rw [refusing, ExceptT.run_mk, Op.bind_pure_eq, Op.caught_snd]

theorem asks_refusing {x : Op (Account σ) α} (h : x.Asks P) (isRefusal : Cause → Bool) :
    (refusing isRefusal x).Asks P := (h.caught isRefusal).bind fun _ => Op.asks_pure _

theorem asks_note (level : Level) (message : String) : (note level message : Work σ Unit).Asks P :=
  asks_refusing (Op.asks_record level .commandLine message []) _

theorem asks_settings (w : Surroundings σ) (o : Settings.Overrides) : (settings w o).Asks P := by
  rw [settings]
  split
  · exact asks_pure _
  · exact asks_refuse _

end Work

theorem LoggingOrder.asks_declaration (w : Surroundings σ) (o : LoggingOrder) :
    (o.declaration w).Asks P := by
  rw [declaration]
  split
  case h_1 path _ =>
    rw [filed]
    split
    · exact Work.asks_refuse _
    · split
      · exact Work.asks_refuse _
      · exact (Work.asks_refusing (w.asks_document path) _).bind fun _ => Work.asks_pure _
  case h_2 =>
    rw [worded]
    split
    · dsimp only
      split
      · exact Work.asks_pure _
      · exact Work.asks_refuse _
    · exact Work.asks_refuse _

end CommandLine

end ClusterOps
