import PipelinesOperator.Config.Registry
import PipelinesOperator.Proofs.Json.Frame
import PipelinesOperator.Proofs.Text.Split

/-!
# Documents laid flat

The texts of a document, empty ones apart, are its leaves, each at the end of a path of keys.  A
document laid flat has an entry for every leaf, under the keys of its path with dots between them.
If no key is empty or has a dot in it, and none stands twice in one object, then the path can be
told from the entry, and so what stands under a dotted path is the leaf at the end of that path.

## Main definitions

* `Json.leaves`: the leaves of a document, each with its path
* `IsPathKey`, `Json.Addressable`: keys that a dotted path can be told by, and documents of them
* `Registry.dotted`: a path of keys as one text

## Main results

* `Json.mem_leaves_iff`: the leaves are the texts behind paths
* `Registry.dotted_eq_join`: the text of a path
* `Registry.dotted_injective`: different paths have different texts
* `Registry.flatten_eq_ofList`: a document laid flat is the table of its leaves
* `Registry.get?_flatten_eq_some`: what stands under a dotted path
-/

namespace PipelinesOperator

/-- A key that is told from a dotted path: it is not empty and has no dot. -/
def IsPathKey (key : String) : Prop := key ≠ "" ∧ '.' ∉ key.toList

instance (key : String) : Decidable (IsPathKey key) := by unfold IsPathKey; infer_instance

namespace Json

/-! ## Leaves -/

mutual

/-- The texts of a document that are not empty, each behind the keys that lead to it. -/
def leaves : Json → List (List String × String)
  | .str s => if s = "" then [] else [([], s)]
  | .obj members => leavesOfMembers members
  | .null => []
  | .bool _ => []
  | .num _ => []
  | .arr _ => []

/-- The leaves of the members of an object. -/
def leavesOfMembers : List (String × Json) → List (List String × String)
  | [] => []
  | m :: ms => (leaves m.2).map (fun l => (m.1 :: l.1, l.2)) ++ leavesOfMembers ms

end

theorem mem_leaves_str {s : String} {l : List String × String} :
    l ∈ leaves (.str s) ↔ l = ([], s) ∧ s ≠ "" := by
  rw [leaves]
  split
  · simp [*]
  · simp [*]

theorem mem_leavesOfMembers {members : List (String × Json)} {l : List String × String} :
    l ∈ leavesOfMembers members ↔
      ∃ m ∈ members, ∃ path, l.1 = m.1 :: path ∧ (path, l.2) ∈ leaves m.2 := by
  induction members with
  | nil => simp [leavesOfMembers]
  | cons m ms ih =>
    have hfirst : l ∈ (leaves m.2).map (fun l => (m.1 :: l.1, l.2)) ↔
        ∃ path, l.1 = m.1 :: path ∧ (path, l.2) ∈ leaves m.2 := by
      rw [List.mem_map]
      constructor
      · rintro ⟨l', hl', rfl⟩
        exact ⟨l'.1, rfl, hl'⟩
      · rintro ⟨path, hpath, hl⟩
        exact ⟨(path, l.2), hl, Prod.ext hpath.symm rfl⟩
    rw [leavesOfMembers, List.mem_append, ih, hfirst]
    simp only [List.mem_cons, exists_eq_or_imp]

/-- No leaf is empty. -/
theorem ne_empty_of_mem_leaves {j : Json} {l : List String × String} (hl : l ∈ j.leaves) :
    l.2 ≠ "" := by
  induction j using Json.induction generalizing l with
  | str s =>
    obtain ⟨rfl, hs⟩ := mem_leaves_str.mp hl
    exact hs
  | obj members ih =>
    obtain ⟨m, hm, path, -, hleaf⟩ := mem_leavesOfMembers.mp hl
    exact ih m hm (l := (path, l.2)) hleaf
  | _ => exact absurd hl List.not_mem_nil

/-- A document whose keys can be told from dotted paths.  Nothing is said of arrays, which have no
leaves. -/
inductive Addressable : Json → Prop where
  | null : Addressable .null
  | bool (b : Bool) : Addressable (.bool b)
  | num (n : Number) : Addressable (.num n)
  | str (s : String) : Addressable (.str s)
  | arr (items : List Json) : Addressable (.arr items)
  | obj {members : List (String × Json)} (nodup : (members.map Prod.fst).Nodup)
      (keys : ∀ m ∈ members, IsPathKey m.1) (values : ∀ m ∈ members, Addressable m.2) :
      Addressable (.obj members)

/-- The member of a key that stands once at most. -/
theorem get?_obj_eq_some {members : List (String × Json)} (h : (members.map Prod.fst).Nodup)
    {key : String} {j : Json} : (obj members).get? key = some j ↔ (key, j) ∈ members := by
  rw [get?_eq_lookup, Json.members, lookup_reverse (distinct_of_nodup h [key]) List.mem_cons_self,
    lookup_eq_some_iff_mem h]

/-- The leaves of a document are the texts that its paths lead to, empty ones apart. -/
theorem mem_leaves_iff {j : Json} (h : j.Addressable) {path : List String} {s : String} :
    (path, s) ∈ j.leaves ↔ j.at? path = some (.str s) ∧ s ≠ "" := by
  induction h generalizing path with
  | str s' =>
    rw [mem_leaves_str]
    cases path with
    | nil => simp +contextual [at?, eq_comm]
    | cons key path => simp [at?_cons, get?, members]
  | @obj members nodup keys values ih =>
    rw [leaves, mem_leavesOfMembers]
    cases path with
    | nil => simp [at?]
    | cons key path =>
      rw [at?_cons]
      simp only [List.cons.injEq, Option.bind_eq_some_iff, get?_obj_eq_some nodup]
      constructor
      · rintro ⟨m, hm, path', ⟨rfl, rfl⟩, hleaf⟩
        obtain ⟨hat, hs⟩ := (ih m hm).mp hleaf
        exact ⟨⟨m.2, hm, hat⟩, hs⟩
      · rintro ⟨⟨j, hj, hat⟩, hs⟩
        exact ⟨(key, j), hj, path, ⟨rfl, rfl⟩, (ih (key, j) hj).mpr ⟨hat, hs⟩⟩
  | _ =>
    cases path with
    | nil => simp [leaves, at?]
    | cons key path => simp [leaves, at?_cons, get?, members]

/-- The path to a leaf is made of keys that it can be told by. -/
theorem isPathKey_of_mem_leaves {j : Json} (h : j.Addressable) {l : List String × String}
    (hl : l ∈ j.leaves) : ∀ key ∈ l.1, IsPathKey key := by
  induction h generalizing l with
  | str s =>
    obtain ⟨rfl, -⟩ := mem_leaves_str.mp hl
    exact fun _ h => absurd h List.not_mem_nil
  | obj nodup keys values ih =>
    obtain ⟨m, hm, path, hpath, hleaf⟩ := mem_leavesOfMembers.mp hl
    rw [hpath]
    exact List.forall_mem_cons.mpr ⟨keys m hm, ih m hm hleaf⟩
  | _ => exact absurd hl List.not_mem_nil

end Json

namespace Registry

/-! ## Dotted paths -/

/-- A path of keys as one text. -/
def dotted (path : List String) : String := path.foldl extend ""

theorem extend_of_ne {path : String} (h : path ≠ "") (key : String) :
    extend path key = path ++ "." ++ key := if_neg h

theorem foldl_extend_eq_join {path : String} (h : path ≠ "") (keys : List String) :
    keys.foldl extend path = Text.join "." (path :: keys) := by
  induction keys generalizing path with
  | nil => rfl
  | cons key keys ih =>
    have hne : path ++ "." ++ key ≠ "" := by simp
    rw [List.foldl_cons, extend_of_ne h, ih hne]
    cases keys with
    | nil => rfl
    | cons key' keys => simp only [Text.join, String.append_assoc]

/-- The text of a path is its keys with dots between them. -/
theorem dotted_eq_join {path : List String} (h : ∀ key ∈ path, IsPathKey key) :
    dotted path = Text.join "." path := by
  cases path with
  | nil => rfl
  | cons key keys =>
    obtain ⟨hkey, -⟩ := List.forall_mem_cons.mp h
    exact foldl_extend_eq_join hkey.1 keys

/-- A dotted path is split into its keys. -/
theorem splitOn_dotted {path : List String} (hne : path ≠ [])
    (h : ∀ key ∈ path, IsPathKey key) : Text.splitOn '.' (dotted path) = path := by
  rw [dotted_eq_join h]
  exact Text.splitOn_join rfl hne fun key hkey => (h key hkey).2

/-- Only the path without a key has the empty text. -/
theorem dotted_ne_empty {path : List String} (hne : path ≠ [])
    (h : ∀ key ∈ path, IsPathKey key) : dotted path ≠ "" := by
  intro hempty
  have hsplit := splitOn_dotted hne h
  rw [hempty] at hsplit
  have hkey : IsPathKey "" := h "" (by rw [← hsplit]; decide)
  exact hkey.1 rfl

/-- Different paths have different texts. -/
theorem dotted_injective {path path' : List String} (h : ∀ key ∈ path, IsPathKey key)
    (h' : ∀ key ∈ path', IsPathKey key) (heq : dotted path = dotted path') : path = path' := by
  by_cases hnil : path = []
  · subst hnil
    refine Decidable.byContradiction fun hne => ?_
    exact dotted_ne_empty (Ne.symm hne) h' heq.symm
  · by_cases hnil' : path' = []
    · subst hnil'
      exact absurd heq (dotted_ne_empty hnil h)
    · rw [← splitOn_dotted hnil h, heq, splitOn_dotted hnil' h']

/-! ## A document laid flat -/

/-- Laying a document flat adds its leaves one after the other.  The table varies, since the members
are laid flat one into the table of the other. -/
theorem flatten_eq_foldl (values : Table String) (path : String) (j : Json) :
    flatten values path j =
      j.leaves.foldl (fun t l => t.insert (l.1.foldl extend path) l.2) values := by
  induction j using Json.induction generalizing values path with
  | str s =>
    rw [flatten, Json.leaves]
    split
    · rfl
    · rfl
  | obj members ih =>
    rw [flatten, Json.leaves]
    induction members generalizing values with
    | nil => rfl
    | cons m ms ihms =>
      obtain ⟨hm, hms⟩ := List.forall_mem_cons.mp ih
      rw [flattenMembers, Json.leavesOfMembers, List.foldl_append, List.foldl_map, hm, ihms hms]
      rfl
  | _ => rfl

/-- A document laid flat is the table of its leaves by their dotted paths. -/
theorem flatten_eq_ofList (j : Json) :
    flatten {} "" j = Table.ofList (j.leaves.map fun l => (dotted l.1, l.2)) := by
  rw [flatten_eq_foldl, Table.ofList, List.foldl_map]
  rfl

/-- What stands anywhere in a document laid flat is a leaf, under its path. -/
theorem exists_leaf_of_get?_flatten {j : Json} {k s : String}
    (h : (flatten {} "" j).get? k = some s) : ∃ path, (path, s) ∈ j.leaves ∧ dotted path = k := by
  rw [flatten_eq_ofList, Table.get?_ofList] at h
  obtain ⟨l, hl, heq⟩ := List.mem_map.mp (List.mem_reverse.mp (mem_of_lookup_eq_some h))
  obtain ⟨rfl, rfl⟩ := Prod.mk.inj heq
  exact ⟨l.1, hl, rfl⟩

/-- No entry of a document laid flat is empty. -/
theorem ne_empty_of_get?_flatten {j : Json} {k s : String}
    (h : (flatten {} "" j).get? k = some s) : s ≠ "" := by
  obtain ⟨path, hleaf, -⟩ := exists_leaf_of_get?_flatten h
  exact Json.ne_empty_of_mem_leaves hleaf

/-- Under a dotted path stands the leaf at the end of the path. -/
theorem get?_flatten_eq_some {j : Json} (h : j.Addressable) {path : List String}
    (hpath : ∀ key ∈ path, IsPathKey key) {s : String} :
    (flatten {} "" j).get? (dotted path) = some s ↔ (path, s) ∈ j.leaves := by
  have hleaf {s : String} (hs : (flatten {} "" j).get? (dotted path) = some s) :
      (path, s) ∈ j.leaves := by
    obtain ⟨path', hmem, heq⟩ := exists_leaf_of_get?_flatten hs
    obtain rfl := dotted_injective (Json.isPathKey_of_mem_leaves h hmem) hpath heq
    exact hmem
  refine ⟨hleaf, fun hmem => ?_⟩
  have hentry : (dotted path, s) ∈ (j.leaves.map fun l => (dotted l.1, l.2)).reverse :=
    List.mem_reverse.mpr (List.mem_map.mpr ⟨(path, s), hmem, rfl⟩)
  obtain ⟨s', hs'⟩ := exists_lookup_of_mem hentry
  rw [← Table.get?_ofList, ← flatten_eq_ofList] at hs'
  obtain ⟨hat, -⟩ := (Json.mem_leaves_iff h).mp hmem
  obtain ⟨hat', -⟩ := (Json.mem_leaves_iff h).mp (hleaf hs')
  obtain rfl : s = s' := Json.str.inj (Option.some.inj (hat.symm.trans hat'))
  exact hs'

end Registry

end PipelinesOperator
