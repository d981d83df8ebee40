import PipelinesOperator.Proofs.Json.Alike
import PipelinesOperator.Proofs.JsonText.RoundTrip

/-!
# The canonical text tells the document

The first character of a compact text says what kind of document it is, and whatever follows a
document ends it: a number ends where no digit follows, and everything else ends with a character
of its own.  So a text cannot be taken for two documents without doubles, at whatever depth, and
two such documents have one canonical text exactly when they are the same up to the order of
members.

## Main definitions

* `Json.Integral`: documents without doubles
* `Json.Kind`: what the first character of a text says of the document
* `Json.Delimited`: a document that ends in its text where nothing more can belong to it

## Main results

* `Integral.delimited`: documents without doubles are delimited
* `canonicalText_up_to_order`: what the canonical form and its text keep of a document
-/

namespace PipelinesOperator

open JsonText (Stops)

/-- The digits of a natural, where they end, tell it and what follows them. -/
theorem JsonText.toDigits_append_inj {n n' : Nat} {rest rest' : List Char} (hrest : Stops rest)
    (hrest' : Stops rest') (h : Nat.toDigits 10 n ++ rest = Nat.toDigits 10 n' ++ rest') :
    n = n' ∧ rest = rest' := by
  have hspan {n : Nat} {rest : List Char} (hrest : Stops rest) :
      (Nat.toDigits 10 n ++ rest).takeWhile Char.isDigit = Nat.toDigits 10 n := by
    refine (Text.takeWhile_isDigit_append Text.isDigit_of_mem_toDigits fun c hc => ?_).1
    simp [(hrest c hc).1]
  have hdigits : Nat.toDigits 10 n = Nat.toDigits 10 n' := by
    rw [← hspan hrest, h, hspan hrest']
  refine ⟨?_, List.append_cancel_left (hdigits ▸ h)⟩
  rw [← Nat.ofDigitChars_ten_toDigits (n := n), hdigits, Nat.ofDigitChars_ten_toDigits]

/-- No digit is a sign. -/
theorem JsonText.toDigits_append_ne (n : Nat) (rest rest' : List Char) :
    Nat.toDigits 10 n ++ rest ≠ '-' :: rest' := by
  obtain ⟨c, cs, hcs⟩ := List.exists_cons_of_ne_nil (Nat.toDigits_ne_nil (n := n) (b := 10))
  have hc : c.isDigit := Text.isDigit_of_mem_toDigits c (hcs ▸ List.mem_cons_self)
  rw [hcs, List.cons_append]
  exact fun h => ne_of_isDigit hc rfl (List.cons.inj h).1

namespace Json

/-- Documents without doubles. -/
inductive Integral : Json → Prop where
  | null : Integral .null
  | bool (b : Bool) : Integral (.bool b)
  | integer (i : Int) : Integral (.num (.integer i))
  | str (s : String) : Integral (.str s)
  | arr {items : List Json} (h : ∀ j ∈ items, Integral j) : Integral (.arr items)
  | obj {members : List (String × Json)} (h : ∀ m ∈ members, Integral m.2) :
      Integral (.obj members)

attribute [simp] Integral.null Integral.bool Integral.integer Integral.str

variable {j j' : Json} {items items' : List Json} {members members' : List (String × Json)}
  {r r' : List Char}

theorem integral_arr_iff : (arr items).Integral ↔ ∀ j ∈ items, j.Integral := by
  constructor
  · rintro ⟨⟩
    assumption
  · exact .arr

theorem integral_obj_iff : (obj members).Integral ↔ ∀ m ∈ members, m.2.Integral := by
  constructor
  · rintro ⟨⟩
    assumption
  · exact .obj

/-- The canonical form of a document without doubles has none. -/
theorem Integral.canonical (h : j.Integral) : j.canonical.Integral := by
  induction h with
  | null => exact .null
  | bool b => exact .bool b
  | integer i => exact .integer i
  | str s => exact .str s
  | arr _ ih =>
    rw [canonical_arr]
    refine .arr fun j hj => ?_
    obtain ⟨item, hitem, rfl⟩ := List.mem_map.mp hj
    exact ih item hitem
  | obj _ ih =>
    rw [canonical_obj]
    refine .obj fun m hm => ?_
    obtain ⟨e, he, rfl⟩ := List.mem_map.mp hm
    exact ih e (Table.mem_of_mem_ofList he)

/-! ## The first character -/

/-- What kind of document a text begins with. -/
inductive Kind where
  | null
  | bool
  | number
  | string
  | array
  | object
  deriving DecidableEq

/-- The kind of a document. -/
def kind : Json → Kind
  | .null => .null
  | .bool _ => .bool
  | .num _ => .number
  | .str _ => .string
  | .arr _ => .array
  | .obj _ => .object

/-- The kind of the documents whose texts begin with a character. -/
def Kind.ofChar? (c : Char) : Option Kind :=
  if c = 'n' then some .null
  else if c = 't' ∨ c = 'f' then some .bool
  else if c = '"' then some .string
  else if c = '[' then some .array
  else if c = '\x7b' then some .object
  else if c = '-' ∨ c.isDigit then some .number
  else none

theorem Kind.ofChar?_of_isDigit {c : Char} (hc : c.isDigit) : ofChar? c = some .number := by
  simp [ofChar?, JsonText.ne_of_isDigit hc, hc]

/-- The first character of a text says what kind of document begins there. -/
theorem Integral.exists_first (h : j.Integral) :
    ∃ c cs, j.compact = c :: cs ∧ Kind.ofChar? c = some j.kind := by
  cases h with
  | null => exact ⟨'n', _, rfl, rfl⟩
  | bool b =>
    cases b with
    | true => exact ⟨'t', _, rfl, rfl⟩
    | false => exact ⟨'f', _, rfl, rfl⟩
  | integer i =>
    cases i with
    | ofNat k =>
      obtain ⟨c, cs, hcs⟩ := List.exists_cons_of_ne_nil (Nat.toDigits_ne_nil (n := k) (b := 10))
      have hc : c.isDigit := Text.isDigit_of_mem_toDigits c (hcs ▸ List.mem_cons_self)
      exact ⟨c, cs, (JsonText.compact_ofNat k).trans hcs, Kind.ofChar?_of_isDigit hc⟩
    | negSucc k => exact ⟨'-', _, JsonText.compact_negSucc k, rfl⟩
  | str s => exact ⟨'"', _, rfl, rfl⟩
  | @arr items h =>
    cases items with
    | nil => exact ⟨'[', _, rfl, rfl⟩
    | cons j js => exact ⟨'[', _, rfl, rfl⟩
  | @obj members h =>
    cases members with
    | nil => exact ⟨'\x7b', _, rfl, rfl⟩
    | cons m ms => exact ⟨'\x7b', _, rfl, rfl⟩

/-- No text begins with a closing bracket. -/
theorem Integral.compact_append_ne (h : j.Integral) : j.compact ++ r ≠ ']' :: r' := by
  obtain ⟨c, cs, hcs, hkind⟩ := h.exists_first
  rw [hcs, List.cons_append]
  intro heq
  rw [(List.cons.inj heq).1] at hkind
  cases hkind

/-- A text does not begin with documents of two kinds. -/
theorem Integral.kind_eq (hj : j.Integral) (hj' : j'.Integral)
    (h : j.compact ++ r = j'.compact ++ r') : j.kind = j'.kind := by
  obtain ⟨c, cs, hcs, hkind⟩ := hj.exists_first
  obtain ⟨c', cs', hcs', hkind'⟩ := hj'.exists_first
  rw [hcs, hcs', List.cons_append, List.cons_append] at h
  rw [(List.cons.inj h).1] at hkind
  exact Option.some.inj (hkind.symm.trans hkind')

/-! ## Where a document ends -/

/-- A text that begins with the document, and goes on with nothing that could belong to a number,
tells the document and what follows it. -/
def Delimited (j : Json) : Prop := ∀ ⦃j' : Json⦄ ⦃r r' : List Char⦄, j'.Integral → Stops r →
  Stops r' → j.compact ++ r = j'.compact ++ r' → j = j' ∧ r = r'

theorem delimited_integer (i : Int) : Delimited (.num (.integer i)) := by
  intro j' r r' hj' hr hr' h
  have hkind := (Integral.integer i).kind_eq hj' h
  cases hj' with
  | integer i' =>
    cases i with
    | ofNat k =>
      rw [JsonText.compact_ofNat] at h
      cases i' with
      | ofNat k' =>
        rw [JsonText.compact_ofNat] at h
        obtain ⟨rfl, rfl⟩ := JsonText.toDigits_append_inj hr hr' h
        exact ⟨rfl, rfl⟩
      | negSucc k' =>
        rw [JsonText.compact_negSucc] at h
        exact (JsonText.toDigits_append_ne _ _ _ h).elim
    | negSucc k =>
      rw [JsonText.compact_negSucc] at h
      cases i' with
      | ofNat k' =>
        rw [JsonText.compact_ofNat] at h
        exact (JsonText.toDigits_append_ne _ _ _ h.symm).elim
      | negSucc k' =>
        rw [JsonText.compact_negSucc] at h
        obtain ⟨hk, rfl⟩ := JsonText.toDigits_append_inj hr hr' (List.cons.inj h).2
        obtain rfl := Nat.succ.inj hk
        exact ⟨rfl, rfl⟩
  | _ => cases hkind

/-- The items of an array are told by their text.  What follows an item is a comma or the closing
bracket, which no number goes on with. -/
theorem compactItems_inj (delimited : ∀ j ∈ items, Delimited j) (hitems' : ∀ j ∈ items', j.Integral)
    (h : compactItems items ++ r = compactItems items' ++ r') : items = items' ∧ r = r' := by
  induction items generalizing items' with
  | nil =>
    cases items' with
    | nil => exact ⟨rfl, List.append_cancel_left h⟩
    | cons j' js' => simp [compactItems] at h
  | cons j js ih =>
    cases items' with
    | nil => simp [compactItems] at h
    | cons j' js' =>
      obtain ⟨hj, hjs⟩ := List.forall_mem_cons.mp delimited
      obtain ⟨hj', hjs'⟩ := List.forall_mem_cons.mp hitems'
      simp only [compactItems, List.cons_append, List.append_assoc, List.cons.injEq,
        true_and] at h
      obtain ⟨rfl, hrest⟩ := hj hj' (JsonText.stops_compactItems js r)
        (JsonText.stops_compactItems js' r') h
      obtain ⟨rfl, rfl⟩ := ih hjs hjs' hrest
      exact ⟨rfl, rfl⟩

/-- The members of an object are told by their text.  The key ends at its quote, and its value is
delimited as an item is. -/
theorem compactMembers_inj (delimited : ∀ m ∈ members, Delimited m.2)
    (hmembers' : ∀ m ∈ members', m.2.Integral)
    (h : compactMembers members ++ r = compactMembers members' ++ r') :
    members = members' ∧ r = r' := by
  induction members generalizing members' with
  | nil =>
    cases members' with
    | nil => exact ⟨rfl, List.append_cancel_left h⟩
    | cons m' ms' => simp [compactMembers] at h
  | cons m ms ih =>
    cases members' with
    | nil => simp [compactMembers] at h
    | cons m' ms' =>
      obtain ⟨hm, hms⟩ := List.forall_mem_cons.mp delimited
      obtain ⟨hm', hms'⟩ := List.forall_mem_cons.mp hmembers'
      simp only [compactMembers, List.cons_append, List.append_assoc, List.cons.injEq,
        true_and] at h
      obtain ⟨hkey, hvalue⟩ := compactString_append_inj h
      obtain ⟨heq, hrest⟩ := hm hm' (JsonText.stops_compactMembers ms r)
        (JsonText.stops_compactMembers ms' r') (List.cons.inj hvalue).2
      obtain ⟨rfl, rfl⟩ := ih hms hms' hrest
      exact ⟨congrArg (· :: ms) (Prod.ext hkey heq), rfl⟩

theorem delimited_arr (hitems : ∀ j ∈ items, j.Integral) (delimited : ∀ j ∈ items, Delimited j) :
    Delimited (.arr items) := by
  intro j' r r' hj' hr hr' h
  have hkind := (Integral.arr hitems).kind_eq hj' h
  cases hj' with
  | @arr items' hitems' =>
    cases items with
    | nil =>
      cases items' with
      | nil => exact ⟨rfl, List.append_cancel_left h⟩
      | cons j' js' =>
        simp only [compact, List.cons_append, List.append_assoc, List.cons.injEq, true_and] at h
        exact absurd h.symm (hitems' j' List.mem_cons_self).compact_append_ne
    | cons j js =>
      cases items' with
      | nil =>
        simp only [compact, List.cons_append, List.append_assoc, List.cons.injEq, true_and] at h
        exact absurd h (hitems j List.mem_cons_self).compact_append_ne
      | cons j' js' =>
        have h' : compactItems (j :: js) ++ r = compactItems (j' :: js') ++ r' := by
          simpa only [compact, compactItems, List.cons_append, List.cons.injEq, true_and] using h
        obtain ⟨heq, rfl⟩ := compactItems_inj delimited hitems' h'
        exact ⟨congrArg Json.arr heq, rfl⟩
  | _ => cases hkind

theorem delimited_obj (hmembers : ∀ m ∈ members, m.2.Integral)
    (delimited : ∀ m ∈ members, Delimited m.2) : Delimited (.obj members) := by
  intro j' r r' hj' hr hr' h
  have hkind := (Integral.obj hmembers).kind_eq hj' h
  cases hj' with
  | @obj members' hmembers' =>
    cases members with
    | nil =>
      cases members' with
      | nil => exact ⟨rfl, List.append_cancel_left h⟩
      | cons m' ms' => simp [compact, compactString] at h
    | cons m ms =>
      cases members' with
      | nil => simp [compact, compactString] at h
      | cons m' ms' =>
        have h' : compactMembers (m :: ms) ++ r = compactMembers (m' :: ms') ++ r' := by
          simpa only [compact, compactMembers, List.cons_append, List.cons.injEq, true_and] using h
        obtain ⟨heq, rfl⟩ := compactMembers_inj delimited hmembers' h'
        exact ⟨congrArg Json.obj heq, rfl⟩
  | _ => cases hkind

/-- Documents without doubles are delimited, at whatever depth.  The first character leaves only one
kind for the other document. -/
theorem Integral.delimited (hj : j.Integral) : Delimited j := by
  induction hj with
  | null =>
    intro j' r r' hj' _ _ h
    have hkind := Integral.null.kind_eq hj' h
    cases hj' with
    | null => exact ⟨rfl, List.append_cancel_left h⟩
    | _ => cases hkind
  | bool b =>
    intro j' r r' hj' _ _ h
    have hkind := (Integral.bool b).kind_eq hj' h
    cases hj' with
    | bool b' =>
      obtain rfl : b = b' := by cases b <;> cases b' <;> simp [compact] at h ⊢
      exact ⟨rfl, List.append_cancel_left h⟩
    | _ => cases hkind
  | integer i => exact delimited_integer i
  | str s =>
    intro j' r r' hj' _ _ h
    have hkind := (Integral.str s).kind_eq hj' h
    cases hj' with
    | str s' =>
      obtain ⟨rfl, rfl⟩ := compactString_append_inj h
      exact ⟨rfl, rfl⟩
    | _ => cases hkind
  | arr hitems ih => exact delimited_arr hitems ih
  | obj hmembers ih => exact delimited_obj hmembers ih

/-- Documents without doubles have one canonical text exactly when they have one canonical form. -/
theorem canonicalText_eq_iff (hj : j.Integral) (hj' : j'.Integral) :
    j.canonicalText = j'.canonicalText ↔ j.canonical = j'.canonical := by
  have hstops : Stops [] := fun c hc => by cases hc
  constructor
  · intro h
    have hcompact : j.canonical.compact = j'.canonical.compact := String.ofList_inj.mp h
    exact (hj.canonical.delimited hj'.canonical hstops hstops (congrArg (· ++ []) hcompact)).1
  · intro h
    rw [canonicalText, canonicalText, h]

/-- Two documents without doubles have one canonical text exactly when they are the same up to the
order of members.  The canonical form is that of itself, it is the same document up to the order of
members, and the keys of every object in it stand in increasing order. -/
theorem canonicalText_up_to_order :
    (∀ j j' : Json, j.Integral → j'.Integral →
      (j.canonicalText = j'.canonicalText ↔ j.Alike j')) ∧
    ∀ j : Json, j.canonical.canonical = j.canonical ∧ j.Alike j.canonical ∧
      j.canonical.InOrder := by
  refine ⟨fun j j' hj hj' => ?_, fun j => ⟨canonical_canonical j, alike_canonical j,
    inOrder_canonical j⟩⟩
  rw [canonicalText_eq_iff hj hj', alike_iff_canonical_eq]

/-- An object that gives a key twice. -/
def twofold : Json :=
  .obj [("host", .str "db"), ("ports", .arr [.num (.integer 3306), .num (.integer (-1)),
    .obj [("b", .null), ("a", .str "\"\n")]]), ("host", .str "db2")]

/-- The same object without the member that is overruled, and in another order. -/
def settled : Json :=
  .obj [("ports", .arr [.num (.integer 3306), .num (.integer (-1)),
    .obj [("a", .str "\"\n"), ("b", .null)]]), ("host", .str "db2")]

theorem canonicalText_up_to_order_twofold :
    twofold.Integral ∧ settled.Integral ∧ twofold.canonicalText = settled.canonicalText ∧
      twofold.Alike settled := by
  have htwofold : twofold.Integral := by
    simp [twofold, integral_obj_iff, integral_arr_iff]
  have hsettled : settled.Integral := by
    simp [settled, integral_obj_iff, integral_arr_iff]
  have htext : twofold.canonicalText = settled.canonicalText := by decide +kernel
  exact ⟨htwofold, hsettled, htext, (canonicalText_up_to_order.1 _ _ htwofold hsettled).mp htext⟩

end Json

end PipelinesOperator
