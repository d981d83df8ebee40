import PipelinesOperator.Proofs.Text.Digits
import PipelinesOperator.Timestamp.Rfc3339

/-!
# Reading a timestamp back

The text of a timestamp reads as that timestamp, whatever its year and its fraction.  Each part
is read back on its own, in front of whatever follows.

## Main results

* `number_padded`: a number of a given width is read back
* `year_yearText`, `fraction_fractionText`: the parts that vary in form
* `read_text`: a timestamp is read back
-/

namespace PipelinesOperator.Timestamp

/-! ## Digits -/

theorem isDigit_of_mem_padded {width n : Nat} : ∀ c ∈ padded width n, c.isDigit := by
  intro c hc
  rcases List.mem_append.mp hc with hc | hc
  · rw [List.eq_of_mem_replicate hc]
    rfl
  · exact Text.isDigit_of_mem_toDigits c hc

theorem valueOf_padded (width n : Nat) : valueOf (padded width n) = n := by
  rw [valueOf, Text.ofDigits_filterMap_digit? isDigit_of_mem_padded, padded,
    Nat.ofDigitChars_append, Nat.ofDigitChars_replicate_zero, Nat.mul_zero,
    Nat.ofDigitChars_ten_toDigits]

theorem padded_ne_nil (width n : Nat) : padded width n ≠ [] := by
  simp [padded]

theorem length_padded {width n : Nat} (hw : 0 < width) (hn : n < Nat.pow 10 width) :
    (padded width n).length = width := by
  have hl := (Nat.length_toDigits_le_iff (b := 10) (by decide) hw).mpr hn
  simp only [padded, List.length_append, List.length_replicate]
  omega

theorem skipBlanks_digit {c : Char} (cs : List Char) (hc : c.isDigit) :
    skipBlanks (c :: cs) = c :: cs := by
  have hnot : Text.isBlank c = false := by
    simp only [Char.isDigit, Bool.and_eq_true, decide_eq_true_eq, ge_iff_le,
      UInt32.le_iff_toNat_le] at hc
    change 48 ≤ c.toNat ∧ c.toNat ≤ 57 at hc
    simp only [Text.isBlank, decide_eq_false_iff_not]
    omega
  rw [skipBlanks, List.dropWhile_cons, hnot]
  rfl

theorem skipBlanks_padded (width n : Nat) (rest : List Char) :
    skipBlanks (padded width n ++ rest) = padded width n ++ rest := by
  obtain ⟨c, cs, hcs⟩ := List.exists_cons_of_ne_nil (padded_ne_nil width n)
  have hc : c ∈ padded width n := by simp [hcs]
  rw [hcs, List.cons_append]
  exact skipBlanks_digit _ (isDigit_of_mem_padded c hc)

/-- A number of a given width is read back, in front of anything. -/
theorem number_padded {width n : Nat} (hw : 0 < width) (hn : n < Nat.pow 10 width)
    (rest : List Char) : number (some width) (padded width n ++ rest) = .ok (n, rest) := by
  have hl := length_padded hw hn
  have hlead : leadingDigits (some width) (padded width n ++ rest) = padded width n := by
    have hnil : ∀ c ∈ ([] : List Char).head?, ¬c.isDigit := nofun
    have hspan := Text.takeWhile_isDigit_append (@isDigit_of_mem_padded width n) hnil
    rw [leadingDigits, List.take_left' hl]
    rw [List.append_nil] at hspan
    exact hspan.1
  have hne : (padded width n ++ rest).isEmpty = false := by simp [padded]
  have hne' : (padded width n).isEmpty = false := by simp [padded]
  simp only [number, hlead, hne, hne', valueOf_padded, List.drop_left, Bool.false_eq_true,
    if_false]

/-- A number of any width is read back, in front of anything but a digit. -/
theorem number_none_padded (width n : Nat) {rest : List Char}
    (hrest : ∀ c ∈ rest.head?, ¬c.isDigit) :
    number none (padded width n ++ rest) = .ok (n, rest) := by
  have hlead : leadingDigits none (padded width n ++ rest) = padded width n :=
    (Text.takeWhile_isDigit_append isDigit_of_mem_padded hrest).1
  have hne : (padded width n ++ rest).isEmpty = false := by simp [padded]
  have hne' : (padded width n).isEmpty = false := by simp [padded]
  simp only [number, hlead, hne, hne', valueOf_padded, List.drop_left, Bool.false_eq_true,
    if_false]

theorem twoDigits_padded {least greatest n : Nat} (hl : least ≤ n) (hg : n ≤ greatest)
    (hn : n < 100) (rest : List Char) :
    twoDigits least greatest (padded 2 n ++ rest) = .ok (n, rest) := by
  rw [twoDigits, skipBlanks_padded, number_padded (by decide) hn]
  exact if_pos ⟨hl, hg⟩

/-! ## The parts of a timestamp -/

/-- A year is read back, in front of anything but a digit.  Outside four digits a sign stands before
the number, however long it is. -/
theorem year_yearText {y : Int} (hl : -2147483648 ≤ y) (hg : y ≤ 2147483647) {rest : List Char}
    (hrest : ∀ c ∈ rest.head?, ¬c.isDigit) : year (yearText y ++ rest) = .ok (y, rest) := by
  have hbounds : -2147483648 ≤ y ∧ y ≤ 2147483647 := ⟨hl, hg⟩
  rw [yearText]
  split
  · rename_i hy
    obtain ⟨n, rfl⟩ : ∃ n : Nat, y = n := ⟨y.toNat, by omega⟩
    have hn : n < 10 ^ 4 := by omega
    have hread := number_padded (by decide) hn rest
    obtain ⟨c, cs, hcs⟩ := List.exists_cons_of_ne_nil (padded_ne_nil 4 n)
    have hc : c.isDigit := isDigit_of_mem_padded c (by rw [hcs]; simp)
    rw [Int.toNat_natCast, year, skipBlanks_padded]
    rw [hcs, List.cons_append] at hread ⊢
    split
    · rename_i heq
      obtain ⟨rfl, -⟩ := List.cons.inj heq
      exact absurd hc (by decide)
    · rename_i heq
      obtain ⟨rfl, -⟩ := List.cons.inj heq
      exact absurd hc (by decide)
    · rw [hread]
      exact if_pos hbounds
  · have hread := number_none_padded 4 y.natAbs hrest
    by_cases hneg : y < 0
    · have hskip (cs : List Char) : skipBlanks ('-' :: cs) = '-' :: cs := rfl
      have hy : -(y.natAbs : Int) = y := by omega
      rw [if_pos hneg, List.cons_append, year]
      simp only [hskip, hread, Except.map, hy]
      exact if_pos hbounds
    · have hskip (cs : List Char) : skipBlanks ('+' :: cs) = '+' :: cs := rfl
      have hy : (y.natAbs : Int) = y := by omega
      rw [if_neg hneg, List.cons_append, year]
      simp only [hskip, hread, Except.map, hy]
      exact if_pos hbounds

/-- A fraction of at most nine digits is read back.  What stands behind them is no digit. -/
theorem fraction_padded {width n : Nat} (hw : width ≤ 9) (h0 : 0 < width)
    (hn : n < Nat.pow 10 width) :
    fraction ('.' :: padded width n ++ ['Z']) = .ok (n * Nat.pow 10 (9 - width), ['Z']) := by
  have hl := length_padded h0 hn
  have hend : ∀ c ∈ ['Z'].head?, ¬c.isDigit := by simp
  have hspan := Text.takeWhile_isDigit_append (@isDigit_of_mem_padded width n) hend
  have hlead : leadingDigits (some 9) (padded width n ++ ['Z']) = padded width n := by
    have htake : ∀ c ∈ (['Z'].take (9 - width)).head?, ¬c.isDigit := by
      intro c hc
      obtain rfl : c = 'Z' := by simpa using List.mem_of_mem_take (List.mem_of_mem_head? hc)
      decide
    rw [leadingDigits, List.take_append, hl, List.take_of_length_le (by omega)]
    exact (Text.takeWhile_isDigit_append (@isDigit_of_mem_padded width n) htake).1
  have hne : (padded width n ++ ['Z']).isEmpty = false := by simp
  have hne' : (padded width n).isEmpty = false := by simp [padded]
  simp only [fraction, List.cons_append, hlead, hne, hne', valueOf_padded, hspan.2, hl,
    Bool.false_eq_true, if_false]

/-- A fraction is read back whenever its digits leave nothing of it out. -/
theorem fraction_padded_eq {width n nanosecond : Nat} (hw : width ≤ 9) (h0 : 0 < width)
    (hn : n < Nat.pow 10 width) (heq : n * Nat.pow 10 (9 - width) = nanosecond) :
    fraction ('.' :: padded width n ++ ['Z']) = .ok (nanosecond, ['Z']) := by
  rw [fraction_padded hw h0 hn, heq]

/-- A fraction of a second is read back, in as many digits as it is written in. -/
theorem fraction_fractionText {nanosecond : Nat} (h : nanosecond ≤ 999999999) :
    fraction (fractionText nanosecond ++ ['Z']) = .ok (nanosecond, ['Z']) := by
  rw [fractionText]
  split
  · rename_i h0
    rw [h0]
    rfl
  · split
    · exact fraction_padded_eq (by decide) (by decide) (by rw [Nat.pow_eq]; omega)
        (by rw [Nat.pow_eq]; omega)
    · split
      · exact fraction_padded_eq (by decide) (by decide) (by rw [Nat.pow_eq]; omega)
          (by rw [Nat.pow_eq]; omega)
      · exact fraction_padded_eq (by decide) (by decide) (by rw [Nat.pow_eq]; omega)
          (by rw [Nat.pow_eq]; omega)

/-- A moment of universal time is itself. -/
theorem atOffset_zero (t : Timestamp) : atOffset t.date t.clock 0 = .ok t := by
  obtain ⟨date, clock, hdate, hclock⟩ := t
  have hvalid : clock.Valid := hclock
  obtain ⟨hh, hm, -, -⟩ := hclock
  have hminutes : ((clock.hour * 60 + clock.minute : Nat) : Int) - 0 =
      (clock.hour * 60 + clock.minute : Nat) := by omega
  have hlow : ¬((clock.hour * 60 + clock.minute : Nat) : Int) < 0 := by omega
  have hhigh : ¬(1440 : Int) ≤ (clock.hour * 60 + clock.minute : Nat) := by omega
  have hhour : (clock.hour * 60 + clock.minute) / 60 = clock.hour := by omega
  have hminute : (clock.hour * 60 + clock.minute) % 60 = clock.minute := by omega
  simp only [atOffset, hdate, not_true_eq_false, if_false, Int.natAbs_zero, hminutes, hlow,
    hhigh, Int.toNat_natCast, hhour, hminute, of?, hvalid, dif_pos]
  simp

theorem literal_cons {c : Char} (cs : List Char) (hc : Text.isBlank c = false) :
    literal c (c :: cs) = .ok cs := by
  have hskip : skipBlanks (c :: cs) = c :: cs := by
    rw [skipBlanks, List.dropWhile_cons, hc]
    rfl
  rw [literal, hskip]
  exact if_pos rfl

/-- A timestamp is read back. -/
theorem read_text (t : Timestamp) : read t.text = .ok t := by
  obtain ⟨⟨hyl, hyg⟩, ⟨hml, hmg⟩, ⟨hdl, hdg⟩⟩ := t.date_valid
  obtain ⟨hh, hm, hs, hn⟩ := t.clock_valid
  have hday : t.date.day ≤ 31 := by
    have hmax : daysIn t.date.year t.date.month ≤ 31 := by
      rw [daysIn]
      repeat' split
      all_goals decide
    omega
  have hyear (rest : List Char) :
      year (yearText t.date.year ++ '-' :: rest) = .ok (t.date.year, '-' :: rest) :=
    year_yearText (by omega) (by omega) (by simp)
  have hdash (rest : List Char) : literal '-' ('-' :: rest) = .ok rest := literal_cons rest rfl
  have hcolon (rest : List Char) : literal ':' (':' :: rest) = .ok rest := literal_cons rest rfl
  have hend : zone (skipBlanks ['Z']) = .ok (0, []) := rfl
  simp only [read, text, secondsText, List.append_assoc, List.cons_append, hyear, hdash, hcolon,
    twoDigits_padded hml hmg (by omega), twoDigits_padded hdl hday (by omega),
    twoDigits_padded (Nat.zero_le _) hh (by omega), twoDigits_padded (Nat.zero_le _) hm (by omega),
    twoDigits_padded (Nat.zero_le _) hs (by omega), fraction_fractionText hn, hend, bind,
    Except.bind, true_or, if_true]
  exact atOffset_zero t

end PipelinesOperator.Timestamp
