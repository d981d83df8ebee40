import PipelinesOperator.Config.Inline
import PipelinesOperator.Text.Letter
import PipelinesOperator.Proofs.Text.Split

/-!
# Image references in one line

The value of an environment variable may be read as more than a text: as a boolean, a number, a
list, a table or a quoted text.  A reference to an image never is.  It has a slash or a colon, which
stand in no number, so even where it starts like a boolean or a number it is not one as a whole; and
it has no blank, quote or bracket.

## Main definitions

* `IsReference`: texts in the form of a reference to an image

## Main results

* `Double.ofText?_of_mem`, `Config.Inline.bare_of_mem`: no number has a slash or a colon in it
* `Config.Inline.read_reference`: a reference is read as the text that it is
-/

namespace PipelinesOperator

/-! ## References -/

/-- A character that may stand in a reference to an image: a letter, a number, or one of six
marks. -/
def isReferenceChar (c : Char) : Bool :=
  Text.isLetter c || Text.isNumber c || ['.', '_', '-', '/', ':', '@'].contains c

/-- A text in the form of a reference to an image that is more than one word: there is a slash or a
colon in it. -/
structure IsReference (s : String) : Prop where
  chars : ∀ c ∈ s.toList, isReferenceChar c = true
  mark : '/' ∈ s.toList ∨ ':' ∈ s.toList

theorem IsReference.ne_empty {s : String} (h : IsReference s) : s ≠ "" := by
  rintro rfl
  rcases h.mark with hm | hm
  · exact List.not_mem_nil hm
  · exact List.not_mem_nil hm

/-- The code points of the blanks. -/
def blankPoints : List Nat :=
  [0x9, 0xA, 0xB, 0xC, 0xD, 0x20, 0x85, 0xA0, 0x1680, 0x2000, 0x2001, 0x2002, 0x2003, 0x2004, 0x2005,
    0x2006, 0x2007, 0x2008, 0x2009, 0x200A, 0x2028, 0x2029, 0x202F, 0x205F, 0x3000]

theorem mem_blankPoints {c : Char} (h : Text.isBlank c = true) : c.toNat ∈ blankPoints := by
  simp only [Text.isBlank, decide_eq_true_eq] at h
  simp only [blankPoints, List.mem_cons, List.not_mem_nil, or_false]
  omega

/-- No blank stands in a reference. -/
theorem isBlank_of_isReferenceChar {c : Char} (h : isReferenceChar c = true) :
    Text.isBlank c = false := by
  have hnone : ∀ n ∈ blankPoints, isReferenceChar (Char.ofNat n) = false := by decide +kernel
  refine Bool.eq_false_iff.mpr fun hblank => ?_
  have hc := hnone c.toNat (mem_blankPoints hblank)
  rw [Char.ofNat_toNat, h] at hc
  cases hc

/-! ## Numbers -/

section Numbers

variable {m : Char} {cs : List Char}

theorem Text.digitIn?_of_mark (hm : m = '/' ∨ m = ':') : Text.digitIn? 10 m = none := by
  rcases hm with rfl | rfl
  · decide
  · decide

/-- No natural has a mark in it.  One character that is no digit spoils them all. -/
theorem Text.natural?_of_mem (hm : m = '/' ∨ m = ':') (h : m ∈ cs) :
    Text.natural? 10 cs = none := by
  have hnone : cs.mapM (Text.digitIn? 10) = none := by
    induction cs with
    | nil => exact absurd h List.not_mem_nil
    | cons c cs ih =>
      rw [List.mapM_cons]
      rcases List.mem_cons.mp h with rfl | h
      · rw [Text.digitIn?_of_mark hm]
        rfl
      · rw [ih h]
        cases Text.digitIn? 10 c with
        | none => rfl
        | some d => rfl
  rw [Text.natural?, hnone]
  split
  · rfl
  · rfl

namespace Double

theorem exponent?_of_mem (hm : m = '/' ∨ m = ':') (h : m ∈ cs) : exponent? cs = none := by
  cases cs with
  | nil => exact absurd h List.not_mem_nil
  | cons e rest =>
    simp only [exponent?]
    split
    · rename_i he
      have hrest : m ∈ rest := List.mem_of_ne_of_mem (by grind) h
      split
      · rename_i digits
        have hdigits : m ∈ digits := List.mem_of_ne_of_mem (by grind) hrest
        rw [Text.natural?_of_mem hm hdigits]
        rfl
      · rename_i digits
        have hdigits : m ∈ digits := List.mem_of_ne_of_mem (by grind) hrest
        rw [Text.natural?_of_mem hm hdigits]
        rfl
      · rw [Text.natural?_of_mem hm hrest]
        rfl
    · rfl

/-- A mark stands behind the leading digits. -/
theorem mem_dropWhile_isDigit (hm : m = '/' ∨ m = ':') (h : m ∈ cs) :
    m ∈ cs.dropWhile Char.isDigit := by
  rw [← List.takeWhile_append_dropWhile (p := Char.isDigit) (l := cs)] at h
  refine (List.mem_append.mp h).resolve_left fun hdigits => ?_
  have hdigit := List.all_eq_true.mp (List.all_takeWhile (p := Char.isDigit)) m hdigits
  rcases hm with rfl | rfl
  · exact absurd hdigit (by decide)
  · exact absurd hdigit (by decide)

theorem decimal?_of_mem (hm : m = '/' ∨ m = ':') (h : m ∈ cs) (negative : Bool) :
    decimal? negative cs = none := by
  have hrest := mem_dropWhile_isDigit hm h
  simp only [decimal?]
  split
  · rename_i rest heq
    rw [heq] at hrest
    have hbehind := mem_dropWhile_isDigit hm (List.mem_of_ne_of_mem (by grind) hrest)
    rw [exponent?_of_mem hm hbehind]
    split
    · rfl
    · rfl
  · rw [exponent?_of_mem hm hrest]
    split
    · rfl
    · rfl

theorem unsigned?_of_mem (hm : m = '/' ∨ m = ':') (h : m ∈ cs) (negative : Bool) :
    unsigned? negative cs = none := by
  have hlower : m.toLower = m := by rcases hm with rfl | rfl <;> decide
  have hword : m ∈ cs.map Char.toLower := hlower ▸ List.mem_map_of_mem h
  have hne {word : List Char} (hw : m ∉ word) : cs.map Char.toLower ≠ word := by
    rintro rfl
    exact hw hword
  rw [unsigned?, if_neg, if_neg, decimal?_of_mem hm h]
  · apply hne
    rcases hm with rfl | rfl <;> decide
  · rw [not_or]
    constructor
    · apply hne
      rcases hm with rfl | rfl <;> decide
    · apply hne
      rcases hm with rfl | rfl <;> decide

/-- No double has a mark in it. -/
theorem ofText?_of_mem (hm : m = '/' ∨ m = ':') (h : m ∈ cs) : ofText? cs = none := by
  unfold ofText?
  split
  · exact unsigned?_of_mem hm (List.mem_of_ne_of_mem (by grind) h) true
  · exact unsigned?_of_mem hm (List.mem_of_ne_of_mem (by grind) h) false
  · exact unsigned?_of_mem hm h false

end Double

namespace Config.Inline

theorem natural?_of_mem (hm : m = '/' ∨ m = ':') (h : m ∈ cs) : natural? cs = none := by
  unfold natural?
  split
  · exact Text.natural?_of_mem hm (List.mem_of_ne_of_mem (by grind) h)
  · exact Text.natural?_of_mem hm h

theorem integer?_of_mem (hm : m = '/' ∨ m = ':') (h : m ∈ cs) : integer? cs = none := by
  unfold integer?
  split
  · rw [Text.natural?_of_mem hm (List.mem_of_ne_of_mem (by grind) h)]
    rfl
  · rw [natural?_of_mem hm h]
    rfl

/-- Without quotes, what has a mark in it is a text. -/
theorem bare_of_mem (hm : m = '/' ∨ m = ':') (h : m ∈ cs) :
    bare cs = .str () (String.ofList cs) := by
  have hdouble : (if cs.contains '.' then Double.ofText? cs else none) = none := by
    rw [Double.ofText?_of_mem hm h, ite_self]
  rw [bare, hdouble, integer?_of_mem hm h]

end Config.Inline

end Numbers

/-! ## Whole texts -/

namespace Config.Inline

variable {cs : List Char} {m : Char}

theorem isAsciiBlank_of_isReferenceChar {c : Char} (h : isReferenceChar c = true) :
    Text.isAsciiBlank c = false := by
  have hblank := isBlank_of_isReferenceChar h
  refine Bool.eq_false_iff.mpr fun hascii => ?_
  simp only [Text.isAsciiBlank, decide_eq_true_eq] at hascii
  rcases hascii with rfl | rfl | rfl | rfl | rfl
  all_goals exact absurd hblank (by decide)

/-- What has a meaning of its own in a line stands in no reference. -/
theorem not_isReferenceChar {c : Char} (h : isSeparator c = true ∨ c = '"' ∨ c = '\'') :
    isReferenceChar c = false := by
  have hnone : [',', '\x7b', '\x7d', '[', ']', '"', '\''].all (!isReferenceChar ·) = true := by
    decide +kernel
  refine (Bool.not_eq_true' _).mp (List.all_eq_true.mp hnone c ?_)
  simpa [isSeparator, or_assoc] using h

theorem skipBlanks_eq (h : ∀ c ∈ cs, isReferenceChar c = true) : skipBlanks cs = cs := by
  cases cs with
  | nil => rfl
  | cons c cs =>
    have hc := isAsciiBlank_of_isReferenceChar (h c List.mem_cons_self)
    rw [skipBlanks, List.dropWhile_cons_of_neg (by simp [hc])]

theorem takeWhile_eq (h : ∀ c ∈ cs, isReferenceChar c = true) :
    cs.takeWhile (fun c => !isSeparator c) = cs := by
  have hall : ∀ c ∈ cs, (!isSeparator c) = true := by
    intro c hc
    rw [Bool.not_eq_true', Bool.eq_false_iff]
    intro hseparator
    have hnot := not_isReferenceChar (.inl hseparator)
    exact Bool.false_ne_true (hnot.symm.trans (h c hc))
  rw [← List.append_nil cs, List.takeWhile_append_of_pos hall, List.takeWhile_nil]

/-- A reference is read as a text, or as a boolean with something behind it.  It opens no list, no
table and no quotes, and unless it begins like a boolean it is read up to a separator, that is to
its end. -/
theorem value_reference (h : ∀ c ∈ cs, isReferenceChar c = true) (hm : m = '/' ∨ m = ':')
    (hmem : m ∈ cs) (n : Nat) : value (n + 1) cs = some (.str () (String.ofList cs), []) ∨
      ∃ b c rest, value (n + 1) cs = some (.bool () b, c :: rest) := by
  have hfirst {c : Char} {rest : List Char} (hcs : cs = c :: rest)
      (hc : isReferenceChar c = false) : False := by
    have := h c (hcs ▸ List.mem_cons_self)
    exact Bool.false_ne_true (hc.symm.trans this)
  have hbehind (rest : List Char) (hrest : m ∈ rest) (hsub : ∀ c ∈ rest, c ∈ cs) :
      ∃ c rest', skipBlanks rest = c :: rest' := by
    rw [skipBlanks_eq fun c hc => h c (hsub c hc)]
    exact List.exists_cons_of_ne_nil (List.ne_nil_of_mem hrest)
  simp only [value, skipBlanks_eq h]
  split
  · rename_i rest
    obtain ⟨c, rest', hrest'⟩ := hbehind rest (by grind) (by simp +contextual)
    exact .inr ⟨true, c, rest', by rw [hrest']⟩
  · rename_i rest
    obtain ⟨c, rest', hrest'⟩ := hbehind rest (by grind) (by simp +contextual)
    exact .inr ⟨false, c, rest', by rw [hrest']⟩
  · exact (hfirst rfl (not_isReferenceChar (.inl rfl))).elim
  · exact (hfirst rfl (not_isReferenceChar (.inl rfl))).elim
  · exact (hfirst rfl (not_isReferenceChar (.inr (.inl rfl)))).elim
  · exact (hfirst rfl (not_isReferenceChar (.inr (.inr rfl)))).elim
  · exact (hfirst rfl (not_isReferenceChar (.inr (.inr rfl)))).elim
  · left
    rw [takeWhile_eq h, Text.trim_eq_self fun c hc => isBlank_of_isReferenceChar (h c hc),
      bare_of_mem hm hmem, List.drop_length]

/-- A reference is read as the text that it is. -/
theorem read_reference {s : String} (h : IsReference s) : read s = .str () s := by
  obtain ⟨m, hm, hmem⟩ : ∃ m, (m = '/' ∨ m = ':') ∧ m ∈ s.toList := by
    rcases h.mark with hmem | hmem
    · exact ⟨'/', .inl rfl, hmem⟩
    · exact ⟨':', .inr rfl, hmem⟩
  rw [read]
  rcases value_reference h.chars hm hmem (2 * s.length + 1) with hv | ⟨b, c, rest, hv⟩
  · rw [hv, String.ofList_toList]
  · rw [hv]

end Config.Inline

end PipelinesOperator
