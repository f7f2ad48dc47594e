/-
What the result of a calculation tells of its parts: one that was changed or went
on with a value had a value. And what its parts tell of a result: if all of them
fail as told, so does the whole (`Fails`).
-/

namespace ClusterOps

variable {ε ε' α β γ : Type}

theorem ok_of_map {f : α → β} {x : Except ε α} {b : β} (h : x.map f = .ok b) :
    ∃ a, x = .ok a ∧ f a = b := by
  cases x with
  | error => cases h
  | ok a => exact ⟨a, rfl, Except.ok.inj h⟩

theorem ok_of_bind {f : α → Except ε β} {x : Except ε α} {b : β} (h : x >>= f = .ok b) :
    ∃ a, x = .ok a ∧ f a = .ok b := by
  cases x with
  | error => cases h
  | ok a => exact ⟨a, rfl, h⟩

theorem ok_of_mapError {f : ε → ε'} {x : Except ε α} {a : α} (h : x.mapError f = .ok a) :
    x = .ok a := by
  cases x with
  | error => cases h
  | ok b => rw [Except.ok.inj h]

/-- Whatever fails here is as told. -/
def Fails {ε α : Type} (told : ε → Prop) (x : Except ε α) : Prop := ∀ e, x = .error e → told e

variable {told : ε → Prop} {x : Except ε α}

theorem fails_ok (a : α) : Fails told (.ok a) := fun _ h => nomatch h

theorem fails_error {e : ε} (h : told e) : Fails told (.error e : Except ε α) := by
  rintro _ same
  cases same
  exact h

/-- What fails in one result fails in what is made of it. -/
theorem Fails.error {e : ε} (h : Fails told x) (failed : x = .error e) :
    Fails told (.error e : Except ε β) := fails_error (h e failed)

theorem Fails.bind {f : α → Except ε β} (h : Fails told x) (hf : ∀ a, Fails told (f a)) :
    Fails told (x >>= f) := by
  cases x with
  | error e => exact h.error rfl
  | ok a => exact hf a

theorem Fails.map (f : α → β) (h : Fails told x) : Fails told (x.map f) := by
  cases x with
  | error e => exact h.error rfl
  | ok a => exact fails_ok _

theorem Fails.mapError {told' : ε' → Prop} {f : ε → ε'} (h : Fails told x)
    (hf : ∀ e, told e → told' (f e)) : Fails told' (x.mapError f) := by
  cases x with
  | error e => exact fails_error (hf e (h e rfl))
  | ok a => exact fails_ok _

theorem Fails.ite {p : Prop} [Decidable p] {y : Except ε α} (hx : Fails told x)
    (hy : Fails told y) : Fails told (if p then x else y) := by
  split
  · exact hx
  · exact hy

theorem fails_foldlM {f : β → γ → Except ε β} (hf : ∀ b c, Fails told (f b c)) :
    ∀ (l : List γ) (b : β), Fails told (l.foldlM f b)
  | [], b => fails_ok b
  | c :: l, b => by
    rw [List.foldlM_cons]
    exact (hf b c).bind fun b => fails_foldlM hf l b

theorem fails_mapM {f : β → Except ε γ} (hf : ∀ b, Fails told (f b)) :
    ∀ l : List β, Fails told (l.mapM f)
  | [] => fails_ok []
  | b :: l => by
    rw [List.mapM_cons]
    exact (hf b).bind fun _ => (fails_mapM hf l).bind fun _ => fails_ok _

end ClusterOps
