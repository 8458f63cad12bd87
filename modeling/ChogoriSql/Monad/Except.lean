/-! Peeling apart a computation in `Except`: a bind that succeeded, a bind of a success, and a
reader mapped over what its writer wrote. -/

theorem Except.bind_eq_ok {ε α β : Type} {x : Except ε α} {f : α → Except ε β} {b : β}
    (ran : x >>= f = .ok b) : ∃ a, x = .ok a ∧ f a = .ok b := by
  cases x with
  | error e => cases ran
  | ok a => exact ⟨a, rfl, ran⟩

@[simp] theorem Except.ok_bind {ε α β : Type} (a : α) (f : α → Except ε β) :
    (Except.ok a >>= f) = f a :=
  rfl

theorem Except.mapM_map_of_inverse {ε α β : Type} {write : α → β} {read : β → Except ε α}
    (inverse : ∀ a, read (write a) = pure a) (as : List α) : (as.map write).mapM read = .ok as := by
  have each : read ∘ write = fun a => pure a := funext inverse
  rw [List.mapM_map, each, List.mapM_pure, List.map_id']
  rfl

theorem Except.eq_of_ite_ok {ε α : Type} {c : Prop} [Decidable c] {a b : α} {e : ε}
    (ran : (if c then Except.ok a else Except.error e) = .ok b) : a = b := by
  split at ran
  · exact Except.ok.inj ran
  · cases ran
