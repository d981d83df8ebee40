/-!
# Results that may be errors

When one computation behind another gives a result, and when it gives an error.

## Main definitions

* `Except.Like related`: two results that are one error, or values that are related
-/

namespace Except

variable {ε ε' α β : Type}

theorem bind_eq_ok {x : Except ε α} {f : α → Except ε β} {b : β} :
    x >>= f = .ok b ↔ ∃ a, x = .ok a ∧ f a = .ok b := by
  constructor
  · intro h
    cases x with
    | error e => cases h
    | ok a => exact ⟨a, rfl, h⟩
  · rintro ⟨a, rfl, h⟩
    exact h

theorem bind_of_ok {x : Except ε α} {a : α} (h : x = .ok a) (f : α → Except ε β) :
    x >>= f = f a := by
  rw [h]
  rfl

theorem bind_of_error {x : Except ε α} {e : ε} (h : x = .error e) (f : α → Except ε β) :
    x >>= f = .error e := by
  rw [h]
  rfl

theorem map_eq_ok {x : Except ε α} {f : α → β} {b : β} :
    x.map f = .ok b ↔ ∃ a, x = .ok a ∧ f a = b := by
  cases x with
  | error e => simp [Except.map]
  | ok a => simp [Except.map]

theorem mapError_eq_ok {x : Except ε α} {f : ε → ε'} {a : α} :
    x.mapError f = .ok a ↔ x = .ok a := by
  cases x with
  | error e =>
    change (.error (f e) : Except ε' α) = .ok a ↔ _
    simp
  | ok a' =>
    change (.ok a' : Except ε' α) = .ok a ↔ _
    simp

theorem toOption_eq_some {x : Except ε α} {a : α} : x.toOption = some a ↔ x = .ok a := by
  cases x with
  | error e => simp [Except.toOption]
  | ok a => simp [Except.toOption]

/-- Two results that are the same error, or values that are related. -/
inductive Like (related : α → β → Prop) : Except ε α → Except ε β → Prop where
  | error (e : ε) : Like related (.error e) (.error e)
  | ok {a : α} {b : β} (h : related a b) : Like related (.ok a) (.ok b)

theorem Like.refl {related : α → α → Prop} (h : ∀ a, related a a) (x : Except ε α) :
    Like related x x := by
  cases x with
  | error e => exact .error e
  | ok a => exact .ok (h a)

theorem Like.mono {related related' : α → β → Prop} {x : Except ε α} {y : Except ε β}
    (h : Like related x y) (himp : ∀ a b, related a b → related' a b) : Like related' x y := by
  cases h with
  | error e => exact .error e
  | ok h => exact .ok (himp _ _ h)

theorem Like.map {α' β' : Type} {related : α → β → Prop} {related' : α' → β' → Prop}
    {x : Except ε α} {y : Except ε β} {f : α → α'} {g : β → β'} (h : Like related x y)
    (hfg : ∀ a b, related a b → related' (f a) (g b)) : Like related' (x.map f) (y.map g) := by
  cases h with
  | error e => exact .error e
  | ok h => exact .ok (hfg _ _ h)

theorem Like.mapError {related : α → β → Prop} {x : Except ε α} {y : Except ε β}
    (h : Like related x y) (f : ε → ε') : Like related (x.mapError f) (y.mapError f) := by
  cases h with
  | error e => exact .error (f e)
  | ok h => exact .ok h

theorem Like.bind {α' β' : Type} {related : α → β → Prop} {related' : α' → β' → Prop}
    {x : Except ε α} {y : Except ε β} {f : α → Except ε α'} {g : β → Except ε β'}
    (h : Like related x y) (hfg : ∀ a b, related a b → Like related' (f a) (g b)) :
    Like related' (x >>= f) (y >>= g) := by
  cases h with
  | error e => exact .error e
  | ok h => exact hfg _ _ h

theorem Like.eq {x y : Except ε α} (h : Like Eq x y) : x = y := by
  cases h with
  | error e => rfl
  | ok h => rw [h]

end Except
