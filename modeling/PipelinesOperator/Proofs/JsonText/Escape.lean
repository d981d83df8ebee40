import PipelinesOperator.Json.Compact
import PipelinesOperator.JsonText.Cursor
import PipelinesOperator.Proofs.Except

/-!
# Reading strings back

A string that was escaped reads back as it was, and the reading stops behind its closing quote.
So a text that starts with a string determines the string and what follows it.

## Main results

* `JsonText.stringBody_escaped`: an escaped string reads back
* `Json.compactString_append_inj`: a text that starts with a string determines both parts
-/

namespace PipelinesOperator

namespace JsonText

theorem hexFour?_hexDigit : ∀ n < 0x20,
    hexFour? '0' '0' (Text.hexDigit (n / 16)) (Text.hexDigit (n % 16)) = some n := by
  decide

theorem not_surrogate_of_lt : ∀ n < 0x20, isTrailing n = false ∧ isLeading n = false := by
  decide

theorem bytes_append (cs cs' : List Char) : bytes (cs ++ cs') = bytes cs + bytes cs' := by
  induction cs with
  | nil => exact (Nat.zero_add _).symm
  | cons c cs ih =>
    change c.utf8Size + bytes (cs ++ cs') = c.utf8Size + bytes cs + bytes cs'
    rw [ih, Nat.add_assoc]

/-- An escape by letter is read as what the letter stands for. -/
theorem stringBody_letter (index : Nat) {e c : Char} (rest : List Char) (he : escape? e = some c)
    (hu : e ≠ 'u') : stringBody index ('\\' :: e :: rest) =
      (stringBody (index + 2) rest).map fun r => (c :: r.1, r.2) := by
  rw [stringBody]
  · simp only [if_neg (show '\\' ≠ '"' by decide), ↓reduceIte, he]
    cases stringBody (index + 2) rest with
    | error b => rfl
    | ok r => rfl
  · exact fun _ _ _ _ _ h _ => hu h
  · exact hu

/-- An escape by number is read as the control character of the number. -/
theorem stringBody_number (index : Nat) {c : Char} (rest : List Char) (hc : c.toNat < 0x20) :
    stringBody index ('\\' :: 'u' :: '0' :: '0' :: Text.hexDigit (c.toNat / 16) ::
        Text.hexDigit (c.toNat % 16) :: rest) =
      (stringBody (index + 6) rest).map fun r => (c :: r.1, r.2) := by
  obtain ⟨htrailing, hleading⟩ := not_surrogate_of_lt c.toNat hc
  rw [stringBody]
  simp only [if_neg (show '\\' ≠ '"' by decide), ↓reduceIte, hexFour?_hexDigit c.toNat hc,
    htrailing, hleading, Bool.false_eq_true, Char.ofNat_toNat]
  cases stringBody (index + 6) rest with
  | error b => rfl
  | ok r => rfl

/-- A character that needs no escape is read as it stands. -/
theorem stringBody_plain (index : Nat) {c : Char} (rest : List Char) (hq : c ≠ '"')
    (hb : c ≠ '\\') (hc : ¬c.toNat < 0x20) :
    stringBody index (c :: rest) =
      (stringBody (index + c.utf8Size) rest).map fun r => (c :: r.1, r.2) := by
  rw [stringBody.eq_def]
  simp only [if_neg hq, if_neg hb, if_neg hc]
  cases stringBody (index + c.utf8Size) rest with
  | error b => rfl
  | ok r => rfl

/-- One escaped character is read as the character, whatever follows it. -/
theorem stringBody_escapedChar (index : Nat) (c : Char) (rest : List Char) :
    stringBody index (Json.escapedChar c ++ rest) =
      (stringBody (index + bytes (Json.escapedChar c)) rest).map
        fun r => (c :: r.1, r.2) := by
  rw [Json.escapedChar]
  iterate 7
    split
    · subst c
      exact stringBody_letter index rest (by decide) (by decide)
  split
  · rename_i hc
    have hbytes : bytes ['\\', 'u', '0', '0', Text.hexDigit (c.toNat / 16),
        Text.hexDigit (c.toNat % 16)] = 6 := by
      have small : ∀ n < 0x20, bytes ['\\', 'u', '0', '0', Text.hexDigit (n / 16),
        Text.hexDigit (n % 16)] = 6 := by decide
      exact small c.toNat hc
    rw [hbytes]
    exact stringBody_number index rest hc
  · rename_i hq hb _ _ _ _ _ hc
    have hbytes : bytes [c] = c.utf8Size := Nat.add_zero _
    rw [hbytes]
    exact stringBody_plain index rest hq hb hc

/-- An escaped string reads back, and the reading stops behind its closing quote. -/
theorem stringBody_escaped (index : Nat) (cs rest : List Char) :
    stringBody index (cs.flatMap Json.escapedChar ++ '"' :: rest) =
      .ok (cs, ⟨index + bytes (cs.flatMap Json.escapedChar) + 1, rest⟩) := by
  induction cs generalizing index with
  | nil =>
    rw [List.flatMap_nil, List.nil_append, stringBody.eq_def]
    exact if_pos rfl
  | cons c cs ih =>
    rw [List.flatMap_cons, List.append_assoc, stringBody_escapedChar, ih, bytes_append,
      Nat.add_assoc index]
    rfl

end JsonText

namespace Json

/-- A text that starts with a string determines the string and what follows it. -/
theorem compactString_append_inj {s s' : String} {rest rest' : List Char}
    (h : compactString s ++ rest = compactString s' ++ rest') : s = s' ∧ rest = rest' := by
  simp only [compactString, List.cons_append, List.append_assoc, List.nil_append,
    List.cons.injEq, true_and] at h
  have hread := JsonText.stringBody_escaped 0 s.toList rest
  rw [h, JsonText.stringBody_escaped 0 s'.toList rest'] at hread
  obtain ⟨hs, hc⟩ := Prod.mk.inj (Except.ok.inj hread)
  exact ⟨(String.toList_inj.mp hs).symm, (JsonText.Cursor.mk.inj hc).2.symm⟩

end Json

end PipelinesOperator
