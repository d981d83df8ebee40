import PipelinesOperator.Text.Character

/-!
# Splitting and joining texts

A text is split between the occurrences of one character.  What stands before an occurrence and
what stands behind it are split on their own, and a text without an occurrence is one piece.  So
texts without the character come back when they were joined with it between them.

## Main results

* `split_append`: the pieces before a separator, and then those behind it
* `split_of_not_mem`: one piece
* `splitOn_join`: pieces that were joined
* `append_separator_inj`: the last separator tells what stands before it and what behind it
* `append_ne_append`: texts that begin differently differ
* `trim_eq_self`: what has no blanks is not trimmed
-/

namespace PipelinesOperator.Text

variable {separator : Char} {piece : List Char}

theorem split_ne_nil (separator : Char) (cs : List Char) : split separator cs ≠ [] := by
  cases cs with
  | nil => exact List.cons_ne_nil _ _
  | cons c cs =>
    rw [split]
    split
    · exact List.cons_ne_nil _ _
    · split <;> exact List.cons_ne_nil _ _

theorem split_of_not_mem (h : separator ∉ piece) : split separator piece = [piece] := by
  induction piece with
  | nil => rfl
  | cons c cs ih =>
    obtain ⟨hc, hcs⟩ := not_or.mp (fun h' => h (List.mem_cons.mpr h'))
    rw [split, if_neg (Ne.symm hc), ih hcs]

/-- What stands before a separator and what stands behind it are split on their own. -/
theorem split_append (before behind : List Char) :
    split separator (before ++ separator :: behind) =
      split separator before ++ split separator behind := by
  induction before with
  | nil => exact if_pos rfl
  | cons c cs ih =>
    rw [List.cons_append, split, split]
    by_cases hc : c = separator
    · rw [if_pos hc, if_pos hc, ih]
      rfl
    · rw [if_neg hc, if_neg hc, ih]
      obtain ⟨first, later, h⟩ := List.exists_cons_of_ne_nil (split_ne_nil separator cs)
      rw [h]
      rfl

/-- The last separator tells what stands before it and what behind it. -/
theorem append_separator_inj {before before' behind behind' : List Char} (h : separator ∉ behind)
    (h' : separator ∉ behind') :
    before ++ separator :: behind = before' ++ separator :: behind' ↔
      before = before' ∧ behind = behind' := by
  constructor
  · intro heq
    have hsplit := congrArg (split separator) heq
    rw [split_append, split_append, split_of_not_mem h, split_of_not_mem h'] at hsplit
    obtain ⟨-, rfl⟩ := List.append_singleton_inj.mp hsplit
    exact ⟨List.append_cancel_right heq, rfl⟩
  · rintro ⟨rfl, rfl⟩
    rfl

/-- Texts with beginnings of which neither begins with the other differ. -/
theorem append_ne_append {lead lead' : String} (h : ¬lead.toList <+: lead'.toList)
    (h' : ¬lead'.toList <+: lead.toList) (s s' : String) : lead ++ s ≠ lead' ++ s' := by
  intro heq
  have hlist : lead.toList ++ s.toList = lead'.toList ++ s'.toList := by
    rw [← String.toList_append, ← String.toList_append, heq]
  exact (List.prefix_or_prefix_of_prefix ⟨s.toList, hlist⟩ ⟨s'.toList, rfl⟩).elim h h'

/-! ## Joined texts -/

section Joined

variable {between : String} {pieces : List String}

theorem toList_join_cons (between s t : String) (rest : List String) :
    (join between (s :: t :: rest)).toList =
      s.toList ++ (between.toList ++ (join between (t :: rest)).toList) := by
  rw [join, String.toList_append, String.toList_append, List.append_assoc]
  exact List.cons_ne_nil t rest

/-- Pieces that were joined come back, if the separator is in none of them. -/
theorem splitOn_join (hbetween : between.toList = [separator]) (hne : pieces ≠ [])
    (h : ∀ s ∈ pieces, separator ∉ s.toList) :
    splitOn separator (join between pieces) = pieces := by
  induction pieces with
  | nil => exact absurd rfl hne
  | cons s rest ih =>
    obtain ⟨hs, hrest⟩ := List.forall_mem_cons.mp h
    cases rest with
    | nil => rw [join, splitOn, split_of_not_mem hs, List.map_singleton, String.ofList_toList]
    | cons t rest =>
      have hsplit := ih (List.cons_ne_nil t rest) hrest
      rw [splitOn] at hsplit
      rw [splitOn, toList_join_cons, hbetween, List.singleton_append, split_append,
        split_of_not_mem hs, List.singleton_append, List.map_cons, hsplit, String.ofList_toList]

/-- A character of a joined text is one of a piece or of what stands between the pieces. -/
theorem mem_join {c : Char} (h : c ∈ (join between pieces).toList) :
    c ∈ between.toList ∨ ∃ s ∈ pieces, c ∈ s.toList := by
  induction pieces with
  | nil => exact absurd h List.not_mem_nil
  | cons s rest ih =>
    cases rest with
    | nil => exact .inr ⟨s, List.mem_cons_self, h⟩
    | cons t rest =>
      rw [toList_join_cons, List.mem_append, List.mem_append] at h
      rcases h with hs | hbetween | hlater
      · exact .inr ⟨s, List.mem_cons_self, hs⟩
      · exact .inl hbetween
      · rcases ih hlater with hbetween | ⟨s', hs', hc⟩
        · exact .inl hbetween
        · exact .inr ⟨s', List.mem_cons_of_mem s hs', hc⟩

end Joined

/-! ## Blanks and case -/

/-- What has no blanks is not trimmed. -/
theorem trim_eq_self {cs : List Char} (h : ∀ c ∈ cs, isBlank c = false) : trim cs = cs := by
  have hdrop {ds : List Char} (hds : ∀ c ∈ ds, isBlank c = false) : ds.dropWhile isBlank = ds := by
    cases ds with
    | nil => rfl
    | cons c ds =>
      have hc := hds c List.mem_cons_self
      rw [List.dropWhile_cons_of_neg (by simp [hc])]
  rw [trim, hdrop h, hdrop fun c hc => h c (List.mem_reverse.mp hc), List.reverse_reverse]

theorem toList_upperAscii (s : String) : (upperAscii s).toList = s.toList.map Char.toUpper := by
  rw [upperAscii, String.toList_ofList]

theorem toList_lowerAscii (s : String) : (lowerAscii s).toList = s.toList.map Char.toLower := by
  rw [lowerAscii, String.toList_ofList]

end PipelinesOperator.Text
