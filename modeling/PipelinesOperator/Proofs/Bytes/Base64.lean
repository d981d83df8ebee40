import PipelinesOperator.Bytes.Base64

/-!
# Reading base64 back

The letters that some bytes are written as read as those bytes.

## Main results

* `value?_letter`: a letter has the value that it was chosen for
* `decode_encode`: bytes are read back
-/

namespace PipelinesOperator.Base64

theorem value?_letter {n : Nat} (h : n < 64) : value? (letter n) = some n := by
  have hall : ∀ n < 64, value? (letter n) = some n := by decide +kernel
  exact hall n h

/-- No letter is the padding. -/
theorem letter_ne_padding {n : Nat} (h : n < 64) : letter n ≠ '=' := by
  have hall : ∀ n < 64, letter n ≠ '=' := by decide +kernel
  exact hall n h

theorem ofNat_eq {a : UInt8} {n : Nat} (h : n = a.toNat) : UInt8.ofNat n = a := by
  rw [h, UInt8.ofNat_toNat]

/-- Bytes are read back.  They go by groups of three; the two short groups are those that are
padded. -/
theorem decode?_encode (bytes : List UInt8) : decode? (encode bytes) = some bytes := by
  induction bytes using encode.induct with
  | case1 => rfl
  | case2 a =>
    have ha := a.toNat_lt
    simp only [encode, decode?, value?_letter (show a.toNat / 4 < 64 by omega),
      value?_letter (show a.toNat % 4 * 16 < 64 by omega), bind, Option.bind, if_true]
    rw [if_pos ⟨trivial, trivial, by omega⟩, ofNat_eq (a := a) (by omega)]
  | case3 a b =>
    have ha := a.toNat_lt
    have hb := b.toNat_lt
    have hlast : b.toNat % 16 * 4 < 64 := by omega
    simp only [encode, decode?, value?_letter (show a.toNat / 4 < 64 by omega),
      value?_letter (show a.toNat % 4 * 16 + b.toNat / 16 < 64 by omega), value?_letter hlast,
      letter_ne_padding hlast, bind, Option.bind, if_true, if_false]
    rw [if_pos ⟨trivial, by omega⟩, ofNat_eq (a := a) (by omega), ofNat_eq (a := b) (by omega)]
  | case4 a b c rest ih =>
    have ha := a.toNat_lt
    have hb := b.toNat_lt
    have hc := c.toNat_lt
    have hthird : b.toNat % 16 * 4 + c.toNat / 64 < 64 := by omega
    have hfourth : c.toNat % 64 < 64 := by omega
    simp only [encode, decode?, value?_letter (show a.toNat / 4 < 64 by omega),
      value?_letter (show a.toNat % 4 * 16 + b.toNat / 16 < 64 by omega), value?_letter hthird,
      value?_letter hfourth, letter_ne_padding hthird, letter_ne_padding hfourth, ih, bind,
      Option.bind, if_false]
    rw [ofNat_eq (a := a) (by omega), ofNat_eq (a := b) (by omega), ofNat_eq (a := c) (by omega)]

theorem decode_encode (bytes : List UInt8) : decode (encode bytes) = .ok bytes := by
  rw [decode, decode?_encode]

end PipelinesOperator.Base64
