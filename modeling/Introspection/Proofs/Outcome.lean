import Introspection.Outcome

/-!
# Going on with outcomes

* `eq_ok_of_toOption`, `exists_of_any`: results that are no failures;
* `exists_of_bind_eq_ok`, `exists_of_map_eq_ok`: what a result comes from;
* `Outcome.ofExcept_ok_bind`: what follows a result;
* `Outcome.result_bind`, `Outcome.result_bind_of_error`, `Outcome.exists_of_bind`: what comes of
  going on;
* `Outcome.bind_pure_comp`: a value made of a result;
* `Outcome.warn_bind`, `Outcome.warnAll_bind_pure`: what follows warnings.
-/

namespace Introspection

theorem eq_ok_of_toOption {α ε : Type} {x : Except ε α} {a : α} (h : x.toOption = some a) :
    x = .ok a := by
  cases x with
  | error e => cases h
  | ok b => rw [Option.some.inj h]

theorem exists_of_bind_eq_ok {α β ε : Type} {x : Except ε α} {f : α → Except ε β} {b : β}
    (h : (x >>= f) = .ok b) : ∃ a, x = .ok a ∧ f a = .ok b := by
  cases x with
  | error e => cases h
  | ok a => exact ⟨a, rfl, h⟩

theorem exists_of_map_eq_ok {α β ε : Type} {x : Except ε α} {f : α → β} {b : β}
    (h : x.map f = .ok b) : ∃ a, x = .ok a ∧ f a = b := by
  cases x with
  | error e => cases h
  | ok a => exact ⟨a, rfl, Except.ok.inj h⟩

theorem exists_of_any {α ε : Type} {x : Except ε α} {p : α → Bool} (h : x.toOption.any p) :
    ∃ a, x = .ok a ∧ p a := by
  obtain ⟨a, ha, hp⟩ := (Option.any_eq_true _ _).mp h
  exact ⟨a, eq_ok_of_toOption ha, hp⟩

theorem exists_of_any_join {α ε : Type} {x : Except ε (Option α)} {p : α → Bool}
    (h : x.toOption.join.any p) : ∃ a, x = .ok (some a) ∧ p a := by
  obtain ⟨a, ha, hp⟩ := (Option.any_eq_true _ _).mp h
  exact ⟨a, eq_ok_of_toOption (Option.join_eq_some_iff.mp ha), hp⟩

namespace Outcome

variable {α β : Type}

theorem ofExcept_ok_bind (a : α) (f : α → Outcome β) : (ofExcept (.ok a) >>= f) = f a := rfl

theorem result_bind {x : Outcome α} {a : α} (h : x.result = .ok a) (f : α → Outcome β) :
    (x >>= f).result = (f a).result := by
  change (andThen x f).result = _
  rw [andThen, h]

theorem result_bind_of_error {x : Outcome α} {e : Failure} (h : x.result = .error e)
    (f : α → Outcome β) : (x >>= f).result = .error e := by
  change (andThen x f).result = _
  rw [andThen, h]

theorem exists_of_bind {x : Outcome α} {f : α → Outcome β} {b : β}
    (h : (x >>= f).result = .ok b) : ∃ a, x.result = .ok a ∧ (f a).result = .ok b := by
  cases hx : x.result with
  | error e =>
    rw [result_bind_of_error hx] at h
    cases h
  | ok a =>
    rw [result_bind hx] at h
    exact ⟨a, rfl, h⟩

theorem bind_pure_comp (x : Outcome α) (f : α → β) :
    (x >>= fun a => pure (f a)) = ⟨x.warnings, x.result.map f⟩ := by
  change andThen x _ = _
  rw [andThen]
  cases x.result with
  | error e => rfl
  | ok a =>
    change (⟨x.warnings ++ [], .ok (f a)⟩ : Outcome β) = _
    rw [List.append_nil]
    rfl

theorem warn_bind (w : Warning) (f : Unit → Outcome β) :
    (warn w >>= f) = ⟨w :: (f ()).warnings, (f ()).result⟩ := rfl

theorem warnAll_bind_pure (ws : List Warning) (b : β) :
    (warnAll ws >>= fun _ => pure b) = ⟨ws, .ok b⟩ :=
  bind_pure_comp (warnAll ws) fun _ => b

end Outcome

end Introspection
