import PipelinesOperator.JsonText.Read
import PipelinesOperator.Proofs.Json.Plain
import PipelinesOperator.Proofs.JsonText.Escape
import PipelinesOperator.Proofs.Shape.Marks
import PipelinesOperator.Proofs.Shape.Parts
import PipelinesOperator.Proofs.Text.Digits

/-!
# Reading documents back

The compact text of a plain document reads back as the document.  A value is read whatever stands
behind it, as long as that could not go on with a number, and in no more steps than its text has
characters.

## Main definitions

* `JsonText.Stops`: a remainder that does not go on with a number
* `JsonText.Reads`: a document is read from its text

## Main results

* `reads_of_plain`: plain documents are read from their texts
* `parse_compact`: the compact text is parsed as the tree of the document
* `document_compact`: the compact text reads as the document
* `read_compact`: what is read from the compact text is what is read from the document
-/

namespace PipelinesOperator

namespace JsonText

/-- A remainder that does not go on with a number before it. -/
def Stops (rest : List Char) : Prop :=
  ∀ c ∈ rest.head?, c.isDigit = false ∧ c ≠ '.' ∧ c ≠ 'e' ∧ c ≠ 'E'

theorem skipBlanks_cons {c : Char} (h : Cursor.isBlank c = false) (index : Nat)
    (rest : List Char) : (Cursor.mk index (c :: rest)).skipBlanks = ⟨index, c :: rest⟩ := by
  simp [Cursor.skipBlanks, Cursor.drop, h, bytes]

/-- A document is read from its text, whatever follows. -/
def Reads (n depth : Nat) (j : Json) : Prop :=
  ∀ index rest, Stops rest → ∃ tree index',
    value n depth ⟨index, j.compact ++ rest⟩ = (tree, some ⟨index', rest⟩) ∧
    tree.Like (Doc.ofJson j)

theorem reads_null (n depth : Nat) : Reads (n + 1) depth .null := by
  intro index rest _
  simp only [value, Json.compact, List.cons_append, List.nil_append,
    skipBlanks_cons (show Cursor.isBlank 'n' = false by decide)]
  exact ⟨_, _, rfl, .null _⟩

theorem reads_bool (n depth : Nat) (b : Bool) : Reads (n + 1) depth (.bool b) := by
  intro index rest _
  cases b with
  | true =>
    simp only [value, Json.compact, List.cons_append, List.nil_append,
      skipBlanks_cons (show Cursor.isBlank 't' = false by decide)]
    exact ⟨_, _, rfl, .bool _ true⟩
  | false =>
    simp only [value, Json.compact, List.cons_append, List.nil_append,
      skipBlanks_cons (show Cursor.isBlank 'f' = false by decide)]
    exact ⟨_, _, rfl, .bool _ false⟩

theorem reads_str (n depth : Nat) (s : String) : Reads (n + 1) depth (.str s) := by
  intro index rest _
  simp only [value, Json.compact, Json.compactString, List.cons_append, List.append_assoc,
    List.nil_append, skipBlanks_cons (show Cursor.isBlank '"' = false by decide),
    stringBody_escaped, Char.reduceEq, ↓reduceIte]
  refine ⟨_, _, rfl, ?_⟩
  simp only [String.ofList_toList]
  exact .str _ s

/-! ## Integers -/

/-- Digits are kept while the number that they make fits. -/
theorem le_foldl_digits (ds : List Nat) (value : Nat) :
    value ≤ ds.foldl (fun value d => value * 10 + d) value := by
  induction ds generalizing value with
  | nil => exact Nat.le_refl value
  | cons d ds ih =>
    have h := ih (value * 10 + d)
    rw [List.foldl_cons]
    omega

theorem keepDigits_eq {ds : List Nat} {value : Nat}
    (h : ds.foldl (fun value d => value * 10 + d) value ≤ maxUnsigned) :
    keepDigits value ds = (ds.foldl (fun value d => value * 10 + d) value, 0) := by
  induction ds generalizing value with
  | nil => rfl
  | cons d ds ih =>
    rw [List.foldl_cons] at h ⊢
    have hle := le_foldl_digits ds (value * 10 + d)
    rw [keepDigits, if_pos (by omega), ih h]

/-- Only zero is written with a leading zero. -/
theorem head_toDigits {n : Nat} (hn : n ≠ 0) : ∃ c cs, Nat.toDigits 10 n = c :: cs ∧ c ≠ '0' := by
  induction n using Nat.strongRecOn with
  | _ n ih =>
    by_cases h : n < 10
    · have hc : ∀ n < 10, n ≠ 0 → n.digitChar ≠ '0' := by decide
      exact ⟨_, [], Nat.toDigits_of_lt_base h, hc n h hn⟩
    · obtain ⟨c, cs, hcs, hc⟩ := ih (n / 10) (by omega) (by omega)
      rw [Nat.toDigits_of_base_le (by decide) (by omega), hcs]
      exact ⟨c, _, rfl, hc⟩

/-- Behind the digits of an integer a remainder that does not go on with it is left alone. -/
theorem afterInteger_of_stops (negative : Bool) (n index : Nat) {rest : List Char}
    (hrest : Stops rest) :
    afterInteger negative n 0 ⟨index, rest⟩ = .ok (integer negative n, ⟨index, rest⟩) := by
  cases rest with
  | nil => rfl
  | cons c rest =>
    obtain ⟨-, hpoint, he, hE⟩ := hrest c rfl
    rw [afterInteger]
    split
    · rename_i h
      exact absurd (List.cons.inj h).1 hpoint
    · rename_i h
      exact absurd (List.cons.inj h).1 he
    · rename_i h
      exact absurd (List.cons.inj h).1 hE
    · rfl

/-- A natural of sixty-four bits is read from its digits, whatever its sign.  A zero is read by
itself, since nothing may follow a leading zero. -/
theorem number_toDigits {n : Nat} (hn : n ≤ maxUnsigned) (negative : Bool) (index : Nat)
    {rest : List Char} (hrest : Stops rest) : ∃ index',
    number negative ⟨index, Nat.toDigits 10 n ++ rest⟩ =
      .ok (integer negative n, ⟨index', rest⟩) := by
  have hstop : ∀ c ∈ rest.head?, ¬c.isDigit := fun c hc => by simp [(hrest c hc).1]
  have hdigits : ∀ c ∈ Nat.toDigits 10 n, c.isDigit := Text.isDigit_of_mem_toDigits
  by_cases h0 : n = 0
  · subst h0
    have hnone : digits rest = [] := by
      have hspan := Text.takeWhile_isDigit_append (List.forall_mem_nil _) hstop
      rw [digits, ← List.nil_append rest, hspan.1]
      rfl
    rw [Nat.toDigits_zero, List.singleton_append, number]
    simp only [if_true, hnone, List.isEmpty_nil]
    exact ⟨_, afterInteger_of_stops negative 0 _ hrest⟩
  · obtain ⟨c, cs, hcs, hc⟩ := head_toDigits h0
    have hspan := Text.takeWhile_isDigit_append hdigits hstop
    have hvalue : (digits (Nat.toDigits 10 n ++ rest)).foldl (fun value d => value * 10 + d) 0 =
        n := by
      rw [digits, hspan.1]
      exact (Text.foldl_filterMap_digit? hdigits 0).trans Nat.ofDigitChars_ten_toDigits
    have hc' : c.isDigit := hdigits c (hcs ▸ List.mem_cons_self)
    rw [hcs, List.cons_append, number]
    simp only [if_neg hc, hc', if_true]
    rw [← List.cons_append, ← hcs, keepDigits_eq (hvalue.symm ▸ hn), hvalue]
    simp only [Cursor.skipDigits, Cursor.drop, hspan.2]
    exact ⟨_, afterInteger_of_stops negative n _ hrest⟩

theorem ne_of_isDigit {c c' : Char} (hc : c.isDigit) (hc' : c'.isDigit = false) : c ≠ c' := by
  rintro rfl
  rw [hc] at hc'
  cases hc'

theorem isBlank_of_isDigit {c : Char} (hc : c.isDigit) : Cursor.isBlank c = false := by
  simp [Cursor.isBlank, ne_of_isDigit hc]

/-- A value that starts with a digit is a number. -/
theorem value_digit (n depth index : Nat) {c : Char} (hc : c.isDigit) (cs : List Char) :
    value (n + 1) depth ⟨index, c :: cs⟩ =
      scalar ⟨index, c :: cs⟩ .num (number false ⟨index, c :: cs⟩) := by
  have hne (c' : Char) (h : c'.isDigit = false) : c ≠ c' := ne_of_isDigit hc h
  simp only [value, skipBlanks_cons (isBlank_of_isDigit hc), if_neg (hne 'n' rfl),
    if_neg (hne 't' rfl), if_neg (hne 'f' rfl), if_neg (hne '-' rfl), if_pos hc]

theorem compact_ofNat (k : Nat) :
    (Json.num (.integer (Int.ofNat k))).compact = Nat.toDigits 10 k := Nat.toList_repr

theorem compact_negSucc (k : Nat) :
    (Json.num (.integer (Int.negSucc k))).compact = '-' :: Nat.toDigits 10 (k + 1) := by
  change (toString (Int.negSucc k)).toList = _
  rw [Int.toString_eq_repr, Int.repr_eq_if, if_neg (by omega), String.toList_append,
    Nat.toList_repr]
  rfl

theorem reads_integer (n depth : Nat) {i : Int} (least : -9223372036854775808 ≤ i)
    (greatest : i ≤ 18446744073709551615) : Reads (n + 1) depth (.num (.integer i)) := by
  intro index rest hrest
  cases i with
  | ofNat k =>
    have hk : k ≤ maxUnsigned := Int.ofNat_le.mp greatest
    obtain ⟨index', hnumber⟩ := number_toDigits hk false index hrest
    rw [compact_ofNat]
    obtain ⟨c, cs, hcs⟩ := List.exists_cons_of_ne_nil (Nat.toDigits_ne_nil (n := k) (b := 10))
    have hc : c.isDigit := Text.isDigit_of_mem_toDigits c (hcs ▸ List.mem_cons_self)
    rw [hcs, List.cons_append] at hnumber ⊢
    rw [value_digit n depth index hc, hnumber]
    exact ⟨_, _, rfl, .num _ (.unsigned k)⟩
  | negSucc k =>
    have hk : k + 1 ≤ 9223372036854775808 := by omega
    obtain ⟨index', hnumber⟩ :=
      number_toDigits (n := k + 1) (by rw [maxUnsigned]; omega) true (index + 1) hrest
    have hinteger : integer true (k + 1) = .signed (Int.negSucc k) := by
      rw [integer, if_neg (by simp), if_neg (by omega), if_pos hk]
      rfl
    simp only [compact_negSucc, value, List.cons_append,
      skipBlanks_cons (show Cursor.isBlank '-' = false by decide), Char.reduceEq, ↓reduceIte,
      hnumber]
    rw [hinteger]
    exact ⟨_, _, rfl, .num _ (.signed (Int.negSucc k))⟩

/-! ## Arrays and objects -/

/-- The text of a document starts with neither a blank nor a closing bracket. -/
theorem exists_head {n : Nat} {j : Json} (h : j.Plain n) :
    ∃ c cs, j.compact = c :: cs ∧ Cursor.isBlank c = false ∧ c ≠ ']' := by
  cases h with
  | null n => exact ⟨'n', _, rfl, by decide, by decide⟩
  | bool n b =>
    cases b with
    | true => exact ⟨'t', _, rfl, by decide, by decide⟩
    | false => exact ⟨'f', _, rfl, by decide, by decide⟩
  | @integer n i least greatest =>
    cases i with
    | ofNat k =>
      obtain ⟨c, cs, hcs⟩ := List.exists_cons_of_ne_nil (Nat.toDigits_ne_nil (n := k) (b := 10))
      have hc : c.isDigit := Text.isDigit_of_mem_toDigits c (hcs ▸ List.mem_cons_self)
      exact ⟨c, cs, (compact_ofNat k).trans hcs, isBlank_of_isDigit hc, ne_of_isDigit hc rfl⟩
    | negSucc k => exact ⟨'-', _, compact_negSucc k, by decide, by decide⟩
  | str n s => exact ⟨'"', _, rfl, by decide, by decide⟩
  | @arr n items h =>
    cases items with
    | nil => exact ⟨'[', _, rfl, by decide, by decide⟩
    | cons j js => exact ⟨'[', _, rfl, by decide, by decide⟩
  | @obj n members h =>
    cases members with
    | nil => exact ⟨'\x7b', _, rfl, by decide, by decide⟩
    | cons m ms => exact ⟨'\x7b', _, rfl, by decide, by decide⟩

theorem one_le_length {n : Nat} {j : Json} (h : j.Plain n) : 1 ≤ j.compact.length := by
  obtain ⟨c, cs, hcs, -⟩ := exists_head h
  rw [hcs, List.length_cons]
  omega

theorem stops_compactItems (js : List Json) (rest : List Char) :
    Stops (Json.compactItems js ++ rest) := by
  cases js with
  | nil => simp [Stops, Json.compactItems]
  | cons j js => simp [Stops, Json.compactItems]

theorem stops_compactMembers (ms : List (String × Json)) (rest : List Char) :
    Stops (Json.compactMembers ms ++ rest) := by
  cases ms with
  | nil => simp [Stops, Json.compactMembers]
  | cons m ms => simp [Stops, Json.compactMembers]

/-- The first item is read as one behind a comma. -/
theorem items_first (n depth index : Nat) {c : Char} (hblank : Cursor.isBlank c = false)
    (hclose : c ≠ ']') (cs : List Char) :
    items (n + 1) depth true ⟨index + 1, c :: cs⟩ =
      items (n + 1) depth false ⟨index, ',' :: c :: cs⟩ := by
  simp only [items, skipBlanks_cons hblank,
    skipBlanks_cons (show Cursor.isBlank ',' = false by decide), if_neg hclose, Char.reduceEq,
    ↓reduceIte]
  simp

/-- The first member is read as one behind a comma. -/
theorem members_first (n depth index : Nat) (cs : List Char) :
    members (n + 1) depth true ⟨index + 1, '"' :: cs⟩ =
      members (n + 1) depth false ⟨index, ',' :: '"' :: cs⟩ := by
  simp only [members, skipBlanks_cons (show Cursor.isBlank '"' = false by decide),
    skipBlanks_cons (show Cursor.isBlank ',' = false by decide), Char.reduceEq, ↓reduceIte]
  simp

/-- The items of an array are read from their text.  Each takes one step, and its text has at least
the comma before it. -/
theorem items_compactItems {depth : Nat} {js : List Json} (hplain : ∀ j ∈ js, j.Plain depth)
    (hreads : ∀ j ∈ js, ∀ n, j.compact.length ≤ n → Reads n depth j) {n : Nat} (hn : 1 ≤ n)
    (hlength : (Json.compactItems js).length ≤ n + 1) (index : Nat) (rest : List Char) :
    ∃ trees index', items n depth false ⟨index, Json.compactItems js ++ rest⟩ =
      (trees, none, some ⟨index', rest⟩) ∧ Doc.LikeItems trees (Doc.ofItems js) := by
  induction js generalizing n index with
  | nil =>
    obtain ⟨n, rfl⟩ := Nat.exists_eq_add_of_le' hn
    simp only [items, Json.compactItems, List.singleton_append,
      skipBlanks_cons (show Cursor.isBlank ']' = false by decide), ↓reduceIte]
    exact ⟨_, _, rfl, .nil⟩
  | cons j js ih =>
    obtain ⟨hj, hjs⟩ := List.forall_mem_cons.mp hplain
    obtain ⟨hread, hreads⟩ := List.forall_mem_cons.mp hreads
    obtain ⟨c, cs, hcs, hblank, hclose⟩ := exists_head hj
    obtain ⟨n, rfl⟩ := Nat.exists_eq_add_of_le' hn
    have hpos : 1 ≤ (Json.compactItems js).length := by
      cases js <;> simp [Json.compactItems]
    have hpos' : 1 ≤ j.compact.length := by simp [hcs]
    simp only [Json.compactItems, List.length_cons, List.length_append] at hlength
    obtain ⟨tree, index₁, htree, hlike⟩ :=
      hread n (by omega) (index + 1) _ (stops_compactItems js rest)
    obtain ⟨trees, index₂, htrees, hlikes⟩ := ih hjs hreads (n := n) (by omega) (by omega) index₁
    rw [hcs, List.cons_append] at htree
    simp only [items, Json.compactItems, hcs, List.cons_append, List.append_assoc,
      skipBlanks_cons (show Cursor.isBlank ',' = false by decide), skipBlanks_cons hblank,
      if_neg hclose, Char.reduceEq, Bool.false_eq_true, not_false_eq_true, and_self, ↓reduceIte,
      htree, htrees]
    exact ⟨_, _, rfl, .cons hlike hlikes⟩

/-- The members of an object are read from their text.  The fuel that is left covers the text that
is left. -/
theorem members_compactMembers {depth : Nat} {ms : List (String × Json)}
    (hreads : ∀ m ∈ ms, ∀ n, m.2.compact.length ≤ n → Reads n depth m.2) {n : Nat} (hn : 1 ≤ n)
    (hlength : (Json.compactMembers ms).length ≤ n + 1) (index : Nat) (rest : List Char) :
    ∃ trees index', members n depth false ⟨index, Json.compactMembers ms ++ rest⟩ =
      (trees, none, some ⟨index', rest⟩) ∧ Doc.LikeMembers trees (Doc.ofMembers ms) := by
  induction ms generalizing n index with
  | nil =>
    obtain ⟨n, rfl⟩ := Nat.exists_eq_add_of_le' hn
    simp only [members, Json.compactMembers, List.singleton_append,
      skipBlanks_cons (show Cursor.isBlank '\x7d' = false by decide), ↓reduceIte]
    exact ⟨_, _, rfl, .nil⟩
  | cons m ms ih =>
    obtain ⟨key, j⟩ := m
    obtain ⟨hread, hreads⟩ := List.forall_mem_cons.mp hreads
    replace hread : ∀ n, j.compact.length ≤ n → Reads n depth j := hread
    obtain ⟨n, rfl⟩ := Nat.exists_eq_add_of_le' hn
    have hpos : 1 ≤ (Json.compactMembers ms).length := by
      cases ms <;> simp [Json.compactMembers]
    simp only [Json.compactMembers, Json.compactString, List.length_cons,
      List.length_append] at hlength
    simp only [members, Json.compactMembers, Json.compactString, List.cons_append,
      List.append_assoc, List.nil_append, List.tail_cons,
      skipBlanks_cons (show Cursor.isBlank ',' = false by decide),
      skipBlanks_cons (show Cursor.isBlank '"' = false by decide),
      skipBlanks_cons (show Cursor.isBlank ':' = false by decide), stringBody_escaped,
      Char.reduceEq, Bool.false_eq_true, not_false_eq_true, and_self, ↓reduceIte]
    obtain ⟨tree, index₁, htree, hlike⟩ :=
      hread n (by omega) _ _ (stops_compactMembers ms rest)
    obtain ⟨trees, index₂, htrees, hlikes⟩ := ih hreads (n := n) (by omega) (by omega) index₁
    rw [htree]
    simp only [htrees, String.ofList_toList]
    exact ⟨_, _, rfl, .cons key _ hlike hlikes⟩

theorem reads_arr {n depth : Nat} {js : List Json} (hplain : ∀ j ∈ js, j.Plain depth)
    (hreads : ∀ j ∈ js, ∀ n, j.compact.length ≤ n → Reads n depth j)
    (hlength : (Json.arr js).compact.length ≤ n) : Reads n (depth + 1) (.arr js) := by
  intro index rest _
  cases js with
  | nil =>
    obtain ⟨n, rfl⟩ := Nat.exists_eq_add_of_le' (show 2 ≤ n from hlength)
    simp only [value, items, Json.compact, List.cons_append, List.nil_append,
      skipBlanks_cons (show Cursor.isBlank '[' = false by decide),
      skipBlanks_cons (show Cursor.isBlank ']' = false by decide), Char.reduceEq, ↓reduceIte]
    exact ⟨_, _, rfl, .arr _ .nil⟩
  | cons j js =>
    obtain ⟨c, cs, hcs, hblank, hclose⟩ := exists_head (hplain j List.mem_cons_self)
    obtain ⟨n, rfl⟩ := Nat.exists_eq_add_of_le' (show 2 ≤ n by
      simp only [Json.compact, hcs, List.length_append, List.length_cons] at hlength
      omega)
    obtain ⟨trees, index', htrees, hlikes⟩ := items_compactItems hplain hreads (n := n + 1)
      (by omega) (by simpa [Json.compact, Json.compactItems] using hlength) index rest
    simp only [Json.compactItems, hcs, List.cons_append, List.append_assoc] at htrees
    simp only [value, Json.compact, hcs, List.cons_append, List.append_assoc,
      skipBlanks_cons (show Cursor.isBlank '[' = false by decide), Char.reduceEq, ↓reduceIte,
      items_first n depth index hblank hclose, htrees]
    exact ⟨_, _, rfl, .arr _ hlikes⟩

theorem reads_obj {n depth : Nat} {ms : List (String × Json)}
    (hreads : ∀ m ∈ ms, ∀ n, m.2.compact.length ≤ n → Reads n depth m.2)
    (hlength : (Json.obj ms).compact.length ≤ n) : Reads n (depth + 1) (.obj ms) := by
  intro index rest _
  cases ms with
  | nil =>
    obtain ⟨n, rfl⟩ := Nat.exists_eq_add_of_le' (show 2 ≤ n from hlength)
    simp only [value, members, Json.compact, List.cons_append, List.nil_append,
      skipBlanks_cons (show Cursor.isBlank '\x7b' = false by decide),
      skipBlanks_cons (show Cursor.isBlank '\x7d' = false by decide), Char.reduceEq, ↓reduceIte]
    exact ⟨_, _, rfl, .obj _ .nil⟩
  | cons m ms =>
    obtain ⟨n, rfl⟩ := Nat.exists_eq_add_of_le' (show 2 ≤ n by
      simp only [Json.compact, Json.compactString, List.length_append, List.length_cons]
        at hlength
      omega)
    obtain ⟨trees, index', htrees, hlikes⟩ := members_compactMembers hreads (n := n + 1)
      (by omega) (by simpa [Json.compact, Json.compactMembers] using hlength) index rest
    simp only [Json.compactMembers, Json.compactString, List.cons_append, List.append_assoc]
      at htrees
    simp only [value, Json.compact, Json.compactString, List.cons_append, List.append_assoc,
      skipBlanks_cons (show Cursor.isBlank '\x7b' = false by decide), Char.reduceEq, ↓reduceIte,
      members_first n depth index, htrees]
    exact ⟨_, _, rfl, .obj _ hlikes⟩

/-- A plain document is read from its text, whatever follows, in as many steps as the text has
characters. -/
theorem reads_of_plain {depth : Nat} {j : Json} (h : j.Plain depth) (n : Nat)
    (hn : j.compact.length ≤ n) : Reads n depth j := by
  induction h generalizing n with
  | null depth =>
    obtain ⟨n, rfl⟩ := Nat.exists_eq_add_of_le' (Nat.le_trans (one_le_length (.null depth)) hn)
    exact reads_null n depth
  | bool depth b =>
    obtain ⟨n, rfl⟩ := Nat.exists_eq_add_of_le' (Nat.le_trans (one_le_length (.bool depth b)) hn)
    exact reads_bool n depth b
  | integer depth least greatest =>
    obtain ⟨n, rfl⟩ := Nat.exists_eq_add_of_le'
      (Nat.le_trans (one_le_length (.integer depth least greatest)) hn)
    exact reads_integer n depth least greatest
  | str depth s =>
    obtain ⟨n, rfl⟩ := Nat.exists_eq_add_of_le' (Nat.le_trans (one_le_length (.str depth s)) hn)
    exact reads_str n depth s
  | arr hplain ih => exact reads_arr hplain ih hn
  | obj hplain ih => exact reads_obj ih hn

/-! ## Whole texts -/

theorem ordinary_manner : manner.Ordinary := by
  intro size mark items
  cases items with
  | nil => simp [manner]
  | cons d ds => simp [manner]

/-- The compact text of a plain document is parsed as the tree of the document, with nothing
behind it. -/
theorem parse_compact {j : Json} (h : j.Plain maxDepth) :
    (parse j.compact).tree.Like (Doc.ofJson j) ∧ (parse j.compact).trailing = none := by
  have hstops : Stops [] := fun c hc => by cases hc
  obtain ⟨tree, index, htree, hlike⟩ :=
    reads_of_plain h (2 * j.compact.length + 2) (by omega) 0 [] hstops
  rw [List.append_nil] at htree
  have hparse : parse j.compact = ⟨tree, none⟩ := by
    simp only [parse, Cursor.start, htree]
    rfl
  rw [hparse]
  exact ⟨hlike, rfl⟩

/-- The compact text of a plain document reads as the document. -/
theorem document_compact {j : Json} (h : j.Plain maxDepth) : document j.compact = .ok j := by
  obtain ⟨hlike, htrailing⟩ := parse_compact h
  have hj : (parse j.compact).tree.toJson = .ok j := (hlike.toJson j).mpr (Doc.toJson_ofJson j)
  rw [document, hj]
  simp only [bind, Except.bind, htrailing]

/-- From the compact text of a plain document the same is read as from the document. -/
theorem read_compact {α : Type} {j : Json} (h : j.Plain maxDepth) (shape : Shape α) (a : α) :
    read shape j.compact = .ok a ↔ shape.ofJson j = .ok a := by
  obtain ⟨hlike, htrailing⟩ := parse_compact h
  rw [read, readBy, Except.bind_eq_ok]
  simp only [htrailing, Except.ok.injEq, exists_eq_right]
  exact Shape.read_like ordinary_manner shape hlike a

end JsonText

end PipelinesOperator
