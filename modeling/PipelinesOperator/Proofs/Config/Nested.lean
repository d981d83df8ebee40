import PipelinesOperator.Config.Tree
import PipelinesOperator.Proofs.Except
import PipelinesOperator.Proofs.Json.Plain

/-!
# Texts under a path of keys

A text may stand alone under a path of keys: in one object for each key, with one member each.  The
tree of such a document has the same form, whatever marks it carries.  No object in it is an envelope,
unless a key says so, and so it is opened as it is.

## Main definitions

* `Json.nest`: a document under a path of keys
* `Labelled.IsOrdinary`: keys that make no envelope

## Main results

* `Doc.exists_member_of_toJson`: the tree of a document with one member
* `Labelled.ofTree_nest`, `Labelled.ofRoot_nest`: a nested text is opened as it is
* `Config.Tree.ofDoc_nest`: a nested text as a layer
-/

namespace PipelinesOperator

variable {μ φ : Type} {v : String} {keys : List String}

/-- A document under a path of keys. -/
def Json.nest (value : Json) (keys : List String) : Json :=
  keys.foldr (fun key j => .obj [(key, j)]) value

theorem Json.plain_nest {n : Nat} (h : keys.length ≤ n) : (Json.nest (.str v) keys).Plain n := by
  induction keys generalizing n with
  | nil => exact .str n v
  | cons key keys ih =>
    cases n with
    | zero => cases h
    | succ n => exact .obj (List.forall_mem_singleton.mpr (ih (Nat.le_of_succ_le_succ h)))

/-! ## Trees of a document -/

namespace Doc

theorem toJson_arr_eq_ok {m : μ} {items : List (Doc μ φ)} {broken : Option φ} {j : Json} :
    (arr m items broken).toJson = .ok j ↔
      broken = none ∧ ∃ js, toItems items = .ok js ∧ j = .arr js := by
  rw [toJson, Except.bind_eq_ok]
  cases broken with
  | none => simp [eq_comm]
  | some f => simp

theorem toJson_obj_eq_ok {m : μ} {members : List (Key μ φ × Doc μ φ)} {broken : Option φ}
    {j : Json} : (obj m members broken).toJson = .ok j ↔
      broken = none ∧ ∃ js, toMembers members = .ok js ∧ j = .obj js := by
  rw [toJson, Except.bind_eq_ok]
  cases broken with
  | none => simp [eq_comm]
  | some f => simp

theorem toMembers_cons_eq_ok {member : Key μ φ × Doc μ φ} {rest : List (Key μ φ × Doc μ φ)}
    {js : List (String × Json)} : toMembers (member :: rest) = .ok js ↔
      ∃ j, member.2.toJson = .ok j ∧ ∃ js', toMembers rest = .ok js' ∧
        (member.1.name, j) :: js' = js := by
  simp only [toMembers, Except.bind_eq_ok, Except.ok.injEq]

/-- A tree whose document is a text is that text. -/
theorem exists_str_of_toJson {d : Doc μ φ} (h : d.toJson = .ok (.str v)) : ∃ m, d = .str m v := by
  cases d with
  | str m s =>
    obtain rfl := Json.str.inj (Except.ok.inj h)
    exact ⟨m, rfl⟩
  | arr m items broken =>
    obtain ⟨-, js, -, ⟨⟩⟩ := toJson_arr_eq_ok.mp h
  | obj m members broken =>
    obtain ⟨-, js, -, ⟨⟩⟩ := toJson_obj_eq_ok.mp h
  | _ => cases h

/-- A tree whose document has one member is an object with one member. -/
theorem exists_member_of_toJson {d : Doc μ φ} {key : String} {j : Json}
    (h : d.toJson = .ok (.obj [(key, j)])) :
    ∃ m k child, d = .obj m [(k, child)] none ∧ k.name = key ∧ child.toJson = .ok j := by
  cases d with
  | obj m members broken =>
    obtain ⟨rfl, js, hmembers, ⟨⟩⟩ := toJson_obj_eq_ok.mp h
    cases members with
    | nil => cases hmembers
    | cons member rest =>
      obtain ⟨child, hchild, js, hrest, heq⟩ := toMembers_cons_eq_ok.mp hmembers
      obtain ⟨hmember, rfl⟩ := List.cons.inj heq
      obtain ⟨rfl, rfl⟩ := Prod.mk.inj hmember
      cases rest with
      | nil => exact ⟨m, member.1, member.2, rfl, rfl, hchild⟩
      | cons member' rest =>
        obtain ⟨_, _, _, _, ⟨⟩⟩ := toMembers_cons_eq_ok.mp hrest
  | arr m items broken =>
    obtain ⟨-, js, -, ⟨⟩⟩ := toJson_arr_eq_ok.mp h
  | _ => cases h

end Doc

/-! ## Envelopes -/

namespace Labelled

/-- A key that is not empty and means nothing in an envelope. -/
def IsOrdinary (key : String) : Prop := key ≠ "" ∧ key ≠ valueKey ∧ key ≠ numberKey

instance (key : String) : Decidable (IsOrdinary key) :=
  inferInstanceAs (Decidable (key ≠ "" ∧ key ≠ valueKey ∧ key ≠ numberKey))

theorem table_singleton {key : String} (h : IsOrdinary key) (d : Labelled) :
    table [(key, d)] = plainTable [(key, d)] := by
  obtain ⟨-, hvalue, hnumber⟩ := h
  have hlast : last? valueKey [(key, d)] = none := by
    simp [last?, lookup_cons_eq_ite, hvalue.symm]
  simp [table, hlast, hnumber]

theorem plainTable_singleton {key : String} (h : key ≠ "") (rest : List String) :
    plainTable [(key, Doc.nest none (.str none v) rest)] =
      Doc.nest none (.str none v) (key :: rest) := by
  rw [Doc.nest, if_neg h]
  rfl

/-- A nested text is opened as it is.  Its one key is not that of a number, so the object is read as
a table and is no envelope. -/
theorem ofTree_nest {d : Doc μ φ} (hkeys : ∀ key ∈ keys, IsOrdinary key)
    (h : d.toJson = .ok (.nest (.str v) keys)) :
    ofTree d = .ok (Doc.nest none (.str none v) keys) := by
  induction keys generalizing d with
  | nil =>
    obtain ⟨m, rfl⟩ := Doc.exists_str_of_toJson h
    rfl
  | cons key keys ih =>
    obtain ⟨hkey, hrest⟩ := List.forall_mem_cons.mp hkeys
    obtain ⟨m, k, child, rfl, rfl, hchild⟩ := Doc.exists_member_of_toJson h
    have hmembers : ofMembers [(k, child)] = .ok [(k.name, Doc.nest none (.str none v) keys)] := by
      simp only [ofMembers, if_neg hkey.2.2, ih hrest hchild]
      rfl
    rw [ofTree, hmembers, ← plainTable_singleton hkey.1, ← table_singleton hkey]
    rfl

/-- At the root too. -/
theorem ofRoot_nest {d : Doc μ φ} (hne : keys ≠ []) (hkeys : ∀ key ∈ keys, IsOrdinary key)
    (h : d.toJson = .ok (.nest (.str v) keys)) :
    ofRoot d = .ok (Doc.nest none (.str none v) keys) := by
  cases keys with
  | nil => exact absurd rfl hne
  | cons key keys =>
    obtain ⟨hkey, hrest⟩ := List.forall_mem_cons.mp hkeys
    obtain ⟨m, k, child, rfl, rfl, hchild⟩ := Doc.exists_member_of_toJson h
    have hmembers : ofPlainMembers [(k, child)] =
        .ok [(k.name, Doc.nest none (.str none v) keys)] := by
      simp only [ofPlainMembers, ofTree_nest hrest hchild]
      rfl
    rw [ofRoot, hmembers, ← plainTable_singleton hkey.1]
    rfl

end Labelled

/-- A nested text as a layer is the same text nested. -/
theorem Config.Tree.ofDoc_nest (source : μ → Config.Source) (m : μ) (v : String)
    (keys : List String) : ofDoc source (Doc.nest m (.str m v) keys) =
      Doc.nest (source m) (.str (source m) v) keys := by
  induction keys with
  | nil => rfl
  | cons key keys ih =>
    rw [Doc.nest, Doc.nest]
    split
    · rfl
    · rw [← ih]
      rfl

end PipelinesOperator
