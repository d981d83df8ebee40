import PipelinesOperator.Proofs.Config.Registry

/-!
# The entries of a registry

A registry is a document laid flat, or it is collected from pairs.  Either way its entries can be
told from where it comes from.  A document has one for every text in it that is not empty, under the
keys that lead to the text with dots between them; of pairs it is the last value of a key that is not
empty.  So a registry has no empty values, and whatever is looked up in it is not empty.

## Main definitions

* `Registry.IsStocked`: registries without empty values that know what they lack

## Main results

* `Registry.get?_flatten_iff`: the entries of a document laid flat
* `Registry.join_injOn`: two paths to something in a document are spelled differently
* `Registry.entries_from_source`: what a registry has is told by where it comes from
* `Registry.get?_ofConfig_iff`: the entries of a configuration are its images
-/

namespace PipelinesOperator

namespace Json

variable {j j' : Json}

/-- A path that leads somewhere is made of keys that it can be told by. -/
theorem isPathKey_of_at? (h : j.Addressable) {path : List String} (hat : j.at? path = some j') :
    ∀ key ∈ path, IsPathKey key := by
  induction path generalizing j with
  | nil => exact List.forall_mem_nil _
  | cons key path ih =>
    rw [at?_cons] at hat
    obtain ⟨child, hchild, hrest⟩ := Option.bind_eq_some_iff.mp hat
    cases h with
    | obj nodup keys values =>
      have hmem := (get?_obj_eq_some nodup).mp hchild
      exact List.forall_mem_cons.mpr ⟨keys _ hmem, ih (values _ hmem) hrest⟩
    | _ => cases hchild

/-- What stands at the end of a path in an object stands in the member that the path goes through. -/
theorem exists_member_of_at?_obj {members : List (String × Json)} {path : List String} {s : String}
    (h : (obj members).at? path = some (.str s)) :
    ∃ m ∈ members, ∃ rest, path = m.1 :: rest ∧ m.2.at? rest = some (.str s) := by
  cases path with
  | nil => cases h
  | cons key rest =>
    rw [at?_cons] at h
    obtain ⟨child, hchild, hrest⟩ := Option.bind_eq_some_iff.mp h
    rw [get?_eq_lookup] at hchild
    have hmem := List.mem_reverse.mp (mem_of_lookup_eq_some hchild)
    exact ⟨(key, child), hmem, rest, rfl, hrest⟩

end Json

namespace Registry

variable {j : Json} {k s : String}

/-! ## Entries -/

/-- A document laid flat has under a key the text at the end of the path that the key spells, if
that is not empty. -/
theorem get?_flatten_iff (h : j.Addressable) : (flatten {} "" j).get? k = some s ↔
    ∃ path, Text.join "." path = k ∧ j.at? path = some (.str s) ∧ s ≠ "" := by
  constructor
  · intro hs
    obtain ⟨path, hleaf, rfl⟩ := exists_leaf_of_get?_flatten hs
    exact ⟨path, (dotted_eq_join (Json.isPathKey_of_mem_leaves h hleaf)).symm,
      (Json.mem_leaves_iff h).mp hleaf⟩
  · rintro ⟨path, rfl, hat⟩
    have hpath := Json.isPathKey_of_at? h hat.1
    rw [← dotted_eq_join hpath, get?_flatten_eq_some h hpath]
    exact (Json.mem_leaves_iff h).mpr hat

/-- Two paths that lead somewhere in a document are spelled by different keys. -/
theorem join_injOn (h : j.Addressable) {path path' : List String} (hpath : (j.at? path).isSome)
    (hpath' : (j.at? path').isSome) (heq : Text.join "." path = Text.join "." path') :
    path = path' := by
  obtain ⟨d, hd⟩ := Option.isSome_iff_exists.mp hpath
  obtain ⟨d', hd'⟩ := Option.isSome_iff_exists.mp hpath'
  have hkeys := Json.isPathKey_of_at? h hd
  have hkeys' := Json.isPathKey_of_at? h hd'
  rw [← dotted_eq_join hkeys, ← dotted_eq_join hkeys'] at heq
  exact dotted_injective hkeys hkeys' heq

/-! ## Values -/

/-- A registry without empty values, which knows the paths that it needs and lacks. -/
structure IsStocked (r : Registry) : Prop where
  ne_empty : ∀ path s, r.get? path = some s → s ≠ ""
  lookup_ne_empty : ∀ path, r.lookup path ≠ ""
  /-- The paths that are missing stand in the order in which they are needed. -/
  missing_sublist : r.missing.Sublist (ImagePath.needed.map ImagePath.text)
  mem_missing : ∀ path,
    path ∈ r.missing ↔ path ∈ ImagePath.needed.map ImagePath.text ∧ r.get? path = none

theorem isStocked_of_ne_empty {r : Registry} (h : ∀ path s, r.get? path = some s → s ≠ "") :
    r.IsStocked where
  ne_empty := h
  lookup_ne_empty := lookup_ne_of_get?_ne h
  missing_sublist := List.filter_sublist
  mem_missing path := by rw [missing, List.mem_filter, Option.isNone_iff_eq_none]

/-- What a registry has is told by where it comes from.  From a document it has one entry for every
text that is not empty, under the path to the text; from pairs it has for every key the last value
that is not empty.  Either way no value is empty, and what is missing can be told. -/
theorem entries_from_source :
    (∀ j : Json, j.Addressable →
      (∀ k s, (flatten {} "" j).get? k = some s ↔
        ∃ path, Text.join "." path = k ∧ j.at? path = some (.str s) ∧ s ≠ "") ∧
      (∀ path path', (j.at? path).isSome → (j.at? path').isSome →
        Text.join "." path = Text.join "." path' → path = path') ∧
      IsStocked ⟨flatten {} "" j⟩) ∧
    ∀ pairs : List (String × String),
      (∀ k, (ofPairs pairs).get? k =
        (pairs.filter fun p => p.1 = k ∧ p.2 ≠ "").getLast?.map Prod.snd) ∧
      IsStocked (ofPairs pairs) := by
  constructor
  · intro j hj
    refine ⟨fun k s => get?_flatten_iff hj, fun path path' => join_injOn hj, ?_⟩
    exact isStocked_of_ne_empty fun path s => ne_empty_of_get?_flatten
  · intro pairs
    refine ⟨get?_ofPairs pairs, ?_⟩
    exact isStocked_of_ne_empty fun path s => ne_empty_of_get?_ofPairs

/-- A section with a text and an empty one, and three pairs of one key of which the last is empty. -/
theorem entries_from_source_nested :
    (flatten {} "" (.obj [("images", .obj [("cache", .str "cache:1"), ("artifact", .str "")])])).get?
      "images.cache" = some "cache:1" ∧
    Text.join "." ["images", "cache"] ≠ Text.join "." ["images", "artifact"] ∧
    (ofPairs [("images.cache", "cache:1"), ("images.cache", "cache:2"),
      ("images.cache", "")]).get? "images.cache" = some "cache:2" := by
  obtain ⟨hdocument, hpairs⟩ := entries_from_source
  obtain ⟨hentries, hpaths, -⟩ := hdocument
    (.obj [("images", .obj [("cache", .str "cache:1"), ("artifact", .str "")])])
    (.obj (by decide) (by decide) (List.forall_mem_singleton.mpr
      (.obj (by decide) (by decide) (by simp [Json.Addressable.str]))))
  refine ⟨(hentries _ _).mpr ⟨["images", "cache"], by decide, rfl, by decide⟩, ?_, ?_⟩
  · exact fun heq => absurd (hpaths _ _ rfl rfl heq) (by decide)
  · rw [(hpairs _).1]
    decide

end Registry

/-! ## The entries of a configuration -/

namespace Config

open Shape

variable {path : List String} {s : String}

/-- A text in a section of images is one of the images. -/
theorem exists_image_of_at?_imagesShape {images : Images}
    (h : (imagesShape.write images).at? path = some (.str s)) :
    ∃ image : Image, path = [image.text] := by
  have hkeys : ((imagesShape.write images).members.map Prod.fst).Sublist
      ((Image.versioned ++ Image.unversioned).map Image.text) := members_map_fst_sublist _ _
  obtain ⟨m, hm, rest, rfl, -⟩ := Json.exists_member_of_at?_obj h
  obtain ⟨image, -, himage⟩ := List.mem_map.mp (hkeys.subset (List.mem_map_of_mem hm))
  rw [← himage, Json.at?_cons, get?_imagesShape] at h
  obtain ⟨child, hchild, hrest⟩ := Option.bind_eq_some_iff.mp h
  obtain ⟨text, -, rfl⟩ := Option.map_eq_some_iff.mp hchild
  cases rest with
  | nil => exact ⟨image, by rw [himage]⟩
  | cons key rest => cases hrest

/-- A text in a configuration is one of its images. -/
theorem exists_keys_of_at?_shape {c : Config}
    (h : (Config.shape.write c).at? path = some (.str s)) :
    ∃ p : ImagePath, path = p.keys := by
  have hsection (family : Family) {rest : List String}
      (hrest : (imagesShape.write (c.imagesOf family)).at? rest = some (.str s)) :
      ∃ p : ImagePath, family.keys ++ rest = p.keys := by
    obtain ⟨image, rfl⟩ := exists_image_of_at?_imagesShape hrest
    exact ⟨⟨family, image⟩, rfl⟩
  obtain ⟨m, hm, rest, rfl, hat⟩ := Json.exists_member_of_at?_obj h
  have hsections : m ∈ [("controller", intervalsShape.write c.intervals),
      ("images", imagesShape.write c.images), ("images_v2", versionedShape.write c.versioned)] := hm
  simp only [List.mem_cons, List.not_mem_nil, or_false] at hsections
  rcases hsections with rfl | rfl | rfl
  · obtain ⟨m', hm', rest, rfl, hnumber⟩ := Json.exists_member_of_at?_obj hat
    have hintervals : m' ∈ [("requeue_interval_secs", Shape.nat64.write c.intervals.requeue),
        ("error_requeue_secs", Shape.nat64.write c.intervals.errorRequeue)] := hm'
    simp only [List.mem_cons, List.not_mem_nil, or_false] at hintervals
    rcases hintervals with rfl | rfl
    · cases rest <;> cases hnumber
    · cases rest <;> cases hnumber
  · exact hsection .legacy hat
  · obtain ⟨m', hm', rest, rfl, himages⟩ := Json.exists_member_of_at?_obj hat
    have hengines : m' ∈ [("argo", imagesShape.write c.versioned.argo),
        ("tekton", imagesShape.write c.versioned.tekton)] := hm'
    simp only [List.mem_cons, List.not_mem_nil, or_false] at hengines
    rcases hengines with rfl | rfl
    · exact hsection (.v2 .argo) himages
    · exact hsection (.v2 .tekton) himages

end Config

theorem ImagePath.text_eq_join (p : ImagePath) : p.text = Text.join "." p.keys := by
  rw [← p.dotted_keys, Registry.dotted_eq_join p.isPathKey]

/-- The registry of a configuration has the images of the configuration that are not empty, and
nothing else. -/
theorem Registry.get?_ofConfig_iff {c : Config} {k s : String} :
    (ofConfig c).get? k = some s ↔
      ∃ p : ImagePath, p.text = k ∧ (c.imagesOf p.family).get p.image = some s ∧ s ≠ "" := by
  constructor
  · intro h
    have haddressable := Shape.addressable_write Config.addressable_shape c
    obtain ⟨path, rfl, hat, -⟩ := (get?_flatten_iff haddressable).mp h
    obtain ⟨p, rfl⟩ := Config.exists_keys_of_at?_shape hat
    rw [← dotted_eq_join p.isPathKey, p.dotted_keys, get?_ofConfig, nonEmpty_eq_some] at h
    exact ⟨p, p.text_eq_join, h⟩
  · rintro ⟨p, rfl, h⟩
    rw [get?_ofConfig, nonEmpty_eq_some]
    exact h

end PipelinesOperator
