import PipelinesOperator.Proofs.Config.Flatten
import PipelinesOperator.Proofs.Shape.ReadBack
import PipelinesOperator.Proofs.Resolution.Plan

/-!
# The registry of a configuration

The registry has every image of the configuration that is not empty, under the path by which it is
looked up, and nothing else.

## Main definitions

* `Shape.Addressable`: a shape whose records have keys that a dotted path can be told by
* `Registry.Built`: the registries of configurations and of pairs

## Main results

* `Shape.addressable_write`: what such a shape writes can be laid flat
* `Config.get?_imagesShape`: an image under its key
* `Registry.get?_ofConfig`, `Registry.lookup_ofConfig`: an image under its path
* `Registry.get?_ofPairs`: the value of a key among pairs
* `Registry.Built.lookup_ne`: nothing that is looked up is empty
-/

namespace PipelinesOperator

namespace Shape

variable {α β : Type}

mutual

/-- All objects in the shape are records, and their keys can be told from dotted paths. -/
def Addressable : {α : Type} → Shape α → Prop
  | _, .document => False
  | _, .table _ => False
  | _, .optional shape => Addressable shape
  | _, .orNull _ shape => Addressable shape
  | _, .either .. => False
  | _, .record _ _ _ fields =>
    fields.keys.Nodup ∧ (∀ key ∈ fields.keys, IsPathKey key) ∧ AddressableAll fields
  | _, .view shape _ _ _ => Addressable shape
  | _, _ => True

/-- The keys in every field can be told from dotted paths. -/
def AddressableAll : {α : Type} → Fields α → Prop
  | _, .nil => True
  | _, .cons _ shape rest => Addressable shape ∧ AddressableAll rest

end

/-- What the shape writes can be laid flat.  Tables and documents have keys of any text, so their
shapes are not addressable. -/
theorem addressable_write {shape : Shape α} (h : shape.Addressable) (a : α) :
    (shape.write a).Addressable := by
  induction shape using Shape.rec (motive_2 := fun _ fields => AddressableAll fields → ∀ a,
    ∀ m ∈ members fields a, m.2.Addressable) with
  | document => exact h.elim
  | table => exact h.elim
  | flag => exact .bool a
  | int32 => exact .num _
  | int64 => exact .num _
  | nat16 => exact .num _
  | nat64 => exact .num _
  | optional shape ih =>
    cases a with
    | none => exact .null
    | some a => exact ih h a
  | orNull value shape ih => exact ih h a
  | list shape ih => exact .arr _
  | either => exact h.elim
  | record name note strictness fields ih =>
    obtain ⟨hnodup, hkeys, h⟩ := h
    have hsublist := members_map_fst_sublist fields a
    refine .obj (hnodup.sublist hsublist) ?_ (ih h a)
    exact fun m hm => hkeys m.1 (hsublist.subset (List.mem_map_of_mem hm))
  | view shape make parts make_parts ih => exact ih h (parts a)
  | nil _ _ m hm => exact (List.not_mem_nil hm).elim
  | cons field shape rest ih ihrest h a m hm =>
    obtain ⟨hshape, hrest⟩ := h
    obtain ⟨a, b⟩ := a
    rcases eq_or_mem_of_mem_members hm with rfl | hm
    · exact ih hshape a
    · exact ihrest hrest b m hm
  | _ => exact .str _

/-- What stands under the key of a field is the field, unless it is hidden. -/
theorem lookup_members_cons {field : Field α} {shape : Shape α} {rest : Fields β} (a : α) (b : β)
    (key : String) (h : field.key ∉ rest.keys) :
    (members (.cons field shape rest) (a, b)).lookup key =
      if key = field.key then (if field.hidden a then none else some (shape.write a))
      else (members rest b).lookup key := by
  rw [members]
  by_cases hh : field.hidden a
  · rw [if_pos hh, if_pos hh]
    split
    · subst key
      exact lookup_members_of_not_mem rest b h
    · rfl
  · rw [if_neg hh, if_neg hh, lookup_cons_eq_ite]

end Shape

namespace Config

open Shape

theorem addressable_imagesShape : imagesShape.Addressable := by
  refine ⟨by decide, by decide, ?_⟩
  simp [AddressableAll, Addressable]

theorem addressable_shape : shape.Addressable := by
  refine ⟨by decide, by decide, ⟨by decide, by decide, trivial, trivial, trivial⟩,
    addressable_imagesShape, ⟨by decide, by decide, ?_⟩, trivial⟩
  exact ⟨addressable_imagesShape, addressable_imagesShape, trivial⟩

theorem key_imageField (image : Image) : (imageField image).key = image.text := rfl

/-- What stands under the key of an image is the image, if it is configured. -/
theorem lookup_members_imageField {β : Type} {image : Image} {rest : Fields β}
    (h : image.text ∉ rest.keys) (value : Option String) (b : β) (key : String) :
    (members (.cons (imageField image) (.optional .text) rest) (value, b)).lookup key =
      if key = image.text then value.map .str else (members rest b).lookup key := by
  rw [lookup_members_cons value b key h]
  cases value with
  | none => rfl
  | some s => rfl

/-- Every image of a section stands under its key, if it is configured. -/
theorem get?_imagesShape (s : Images) (image : Image) :
    (imagesShape.write s).get? image.text = (s.get image).map .str := by
  have hnodup : ((imagesShape.write s).members.map Prod.fst).Nodup :=
    List.Nodup.sublist (members_map_fst_sublist _ _) addressable_imagesShape.1
  rw [Json.get?_eq_lookup, lookup_reverse (distinct_of_nodup hnodup [image.text])
    List.mem_cons_self, imagesShape, Shape.struct, write, write, Json.members]
  cases image <;>
    simp [lookup_members_imageField, key_imageField, Fields.keys, Image.text, Images.get]

end Config

/-! ## Paths -/

/-- The keys that lead to the section of a set of images. -/
def Family.keys : Family → List String
  | .legacy => ["images"]
  | .v2 driver => ["images_v2", driver.text]

/-- The keys that lead to an image. -/
def ImagePath.keys (p : ImagePath) : List String := p.family.keys ++ [p.image.text]

theorem ImagePath.isPathKey (p : ImagePath) : ∀ key ∈ p.keys, IsPathKey key := by
  obtain ⟨family, image⟩ := p
  have hfamily : ∀ key ∈ family.keys, IsPathKey key := by
    cases family with
    | legacy => decide
    | v2 driver => cases driver <;> decide
  have himage : IsPathKey image.text := by cases image <;> decide
  rw [keys, List.forall_mem_append]
  exact ⟨hfamily, List.forall_mem_singleton.mpr himage⟩

/-- The text of a path is that of its keys. -/
theorem ImagePath.dotted_keys (p : ImagePath) : Registry.dotted p.keys = p.text := by
  obtain ⟨family, image⟩ := p
  cases family with
  | legacy => rfl
  | v2 driver => cases driver <;> rfl

/-- What the configuration has behind the keys of an image. -/
theorem Config.at?_shape (c : Config) (p : ImagePath) :
    (Config.shape.write c).at? p.keys = ((c.imagesOf p.family).get p.image).map .str := by
  obtain ⟨family, image⟩ := p
  have hsection : (Config.shape.write c).at? family.keys =
      some (imagesShape.write (c.imagesOf family)) := by
    cases family with
    | legacy => rfl
    | v2 driver => cases driver <;> rfl
  rw [ImagePath.keys, Json.at?_append, hsection]
  exact (Option.bind_some ..).trans (get?_imagesShape _ image)

namespace Registry

/-- Under the path of an image the registry has what is configured, if that is not empty. -/
theorem get?_ofConfig (c : Config) (p : ImagePath) :
    (ofConfig c).get? p.text = nonEmpty ((c.imagesOf p.family).get p.image) := by
  have haddressable := Shape.addressable_write Config.addressable_shape c
  rw [← p.dotted_keys]
  refine Option.ext fun s => ?_
  rw [nonEmpty_eq_some, get?, ofConfig, get?_flatten_eq_some haddressable p.isPathKey,
    Json.mem_leaves_iff haddressable, Config.at?_shape]
  simp

/-- So the path of an image is looked up as the image that is configured, or as the sentinel. -/
theorem lookup_ofConfig (c : Config) (p : ImagePath) :
    (ofConfig c).lookup p.text = orDefault ((c.imagesOf p.family).get p.image) unset := by
  rw [lookup, get?_ofConfig, orDefault]

/-! ## Values -/

/-- Among pairs a key has the last value that is not empty. -/
theorem get?_ofPairs (pairs : List (String × String)) (k : String) : (ofPairs pairs).get? k =
    (pairs.filter fun p => p.1 = k ∧ p.2 ≠ "").getLast?.map Prod.snd := by
  rw [get?, ofPairs, Table.get?_ofList, ← find?_eq_lookup, ← List.filter_reverse,
    List.find?_filter, List.getLast?_filter]
  congr 2
  funext p
  simp [and_comm]

/-- No value of pairs is empty. -/
theorem ne_empty_of_get?_ofPairs {pairs : List (String × String)} {k s : String}
    (h : (ofPairs pairs).get? k = some s) : s ≠ "" := by
  rw [get?_ofPairs] at h
  obtain ⟨p, hp, rfl⟩ := Option.map_eq_some_iff.mp h
  have hmem := List.mem_of_getLast? hp
  exact (of_decide_eq_true (List.mem_filter.mp hmem).2).2

/-- Where no value is empty nothing that is looked up is, be it the sentinel. -/
theorem lookup_ne_of_get?_ne {r : Registry} (h : ∀ path s, r.get? path = some s → s ≠ "")
    (path : String) : r.lookup path ≠ "" := by
  rw [lookup]
  cases hs : r.get? path with
  | none =>
    show unset ≠ ""
    decide
  | some s => exact h path s hs

/-- The registries that are built: from a configuration, or from pairs of path and value. -/
inductive Built : Registry → Prop where
  | ofConfig (c : Config) : Built (ofConfig c)
  | ofPairs (pairs : List (String × String)) : Built (ofPairs pairs)

/-- A registry that is built has no empty values. -/
theorem Built.get?_ne {r : Registry} (h : r.Built) {path s : String} (hs : r.get? path = some s) :
    s ≠ "" := by
  cases h with
  | ofConfig c => exact ne_empty_of_get?_flatten hs
  | ofPairs pairs => exact ne_empty_of_get?_ofPairs hs

/-- So nothing that is looked up in it is empty. -/
theorem Built.lookup_ne {r : Registry} (h : r.Built) (path : String) : r.lookup path ≠ "" :=
  lookup_ne_of_get?_ne (fun _ _ => h.get?_ne) path

end Registry

end PipelinesOperator
