import PipelinesOperator.Text.Character

/-!
# The digits of a number

The values of the digits of a number, put together again, give the number, whatever zeros stand
before them.

## Main results

* `ofDigits_filterMap_digit?`: the value of a run of digits
* `takeWhile_isDigit_append`: where a run of digits ends
-/

namespace PipelinesOperator.Text

theorem digit?_of_isDigit {c : Char} (h : c.isDigit) : digit? c = some (c.toNat - '0'.toNat) := by
  have hc : '0' ≤ c ∧ c ≤ '9' := by
    simp only [Char.isDigit, Bool.and_eq_true, decide_eq_true_eq] at h
    exact h
  rw [digit?, if_pos hc]

theorem foldl_filterMap_digit? {ds : List Char} (h : ∀ c ∈ ds, c.isDigit) (value : Nat) :
    (ds.filterMap digit?).foldl (fun value d => value * 10 + d) value =
      Nat.ofDigitChars 10 ds value := by
  induction ds generalizing value with
  | nil => rfl
  | cons c ds ih =>
    rw [List.filterMap_cons, digit?_of_isDigit (h c (by simp)), Nat.ofDigitChars_cons,
      Nat.mul_comm]
    exact ih (fun c' hc' => h c' (by simp [hc'])) _

/-- The value of a run of digits. -/
theorem ofDigits_filterMap_digit? {ds : List Char} (h : ∀ c ∈ ds, c.isDigit) :
    ofDigits 10 (ds.filterMap digit?) = Nat.ofDigitChars 10 ds 0 :=
  foldl_filterMap_digit? h 0

theorem isDigit_of_mem_toDigits {n : Nat} : ∀ c ∈ Nat.toDigits 10 n, c.isDigit :=
  fun _ hc => Nat.isDigit_of_mem_toDigits (by decide) (by decide) hc

/-- A run of digits ends where something else begins. -/
theorem takeWhile_isDigit_append {ds rest : List Char} (h : ∀ c ∈ ds, c.isDigit)
    (hrest : ∀ c ∈ rest.head?, ¬c.isDigit) :
    (ds ++ rest).takeWhile Char.isDigit = ds ∧ (ds ++ rest).dropWhile Char.isDigit = rest := by
  have hnone : rest.takeWhile Char.isDigit = [] ∧ rest.dropWhile Char.isDigit = rest := by
    cases rest with
    | nil => exact ⟨rfl, rfl⟩
    | cons c rest =>
      have hc : ¬c.isDigit := hrest c (by simp)
      simp [hc]
  rw [List.takeWhile_append_of_pos h, List.dropWhile_append_of_pos h, hnone.1, hnone.2]
  simp

end PipelinesOperator.Text
