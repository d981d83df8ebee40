import PipelinesOperator.Proofs.Config.Registry
import PipelinesOperator.Proofs.Config.Tree

/-!
# Reading the sections of a configuration

A configuration is read from a tree section by section.  A section is read from the value that its
path reaches, and is the default if the path is lost; a path that is stopped, and a value that is no
table, are at fault.  An array is the exception, since it may be a record with its fields in order.

So if there is no array at a section, then an image of the configuration is the text that its path
reaches, if it reaches one.

## Main definitions

* `ReadAt`: what is read at the end of a path
* `ArrayFree`: trees without an array at a section of images

## Main results

* `readAt_section`: a set of images is read at the end of its path
* `image_eq_some_iff`: an image is the text that its path reaches
-/

namespace PipelinesOperator.Config

open Shape PipelinesOperator.Config.Tree

variable {t : Tree} {source : Source} {members : Members} {name : String}

/-- Whether a tree is an array. -/
def isArray : Tree → Bool
  | .arr _ _ _ => true
  | _ => false

theorem not_isTable_of_isArray (h : isArray t = true) : ¬ t.IsTable := by
  rintro ⟨source, members, broken, rfl⟩
  cases h

/-- A strict record that is not read from an array is read from a table. -/
theorem exists_gather_of_read {α : Type} {note : Option String} {fields : Fields α}
    {a : α} (ht : isArray t = false)
    (h : (Shape.record name note .strict fields).read manner t = .ok a) :
    ∃ source members broken, t = .obj source members broken ∧
      Distinct fields.keys (names members) ∧ gather manner source fields members = .ok a := by
  cases t with
  | obj source members broken =>
    rw [Shape.read] at h
    obtain ⟨⟨⟩, htried, h⟩ := Except.bind_eq_ok.mp h
    obtain ⟨⟨⟩, -, h⟩ := Except.bind_eq_ok.mp h
    exact ⟨source, members, broken, rfl, ((tryMembers_eq_ok.mp htried).2.2 rfl).2, h⟩
  | arr source items broken => cases ht
  | bad source fault => exact fault.elim
  | _ => cases h

/-- A field is read from the value that its key reaches. -/
theorem lookup_eq_member? {keys : List String} (hd : Distinct keys (names members))
    (hname : name ∈ keys) : lookup name members = member? name members := by
  cases ht : member? name members with
  | none => exact lookup_eq_none_iff.mpr (member?_eq_none_iff.mp ht)
  | some t =>
    obtain ⟨m, hm, rfl, rfl⟩ := mem_of_member? ht
    exact lookup_of_mem hd hm hname

/-! ## Sections of images -/

section Images

variable {image : Image} {value : Option String}

/-- What the field of an image is taken to be. -/
structure TakesImage (members : Members) (image : Image) (value : Option String) : Prop where
  some : ∀ d, lookup image.text members = some d →
    (Shape.optional .text).read manner d = .ok value
  none : lookup image.text members = none → value = none

/-- The field of an image is the text that stands under its key.  A `null` gives none, and anything
else would not have been read. -/
theorem TakesImage.eq_some_iff (h : TakesImage members image value) {s : String} :
    value = Option.some s ↔ ∃ source, lookup image.text members = Option.some (.str source s) := by
  cases hd : lookup image.text members with
  | none => simp [h.none hd]
  | some d =>
    have hread := h.some d hd
    cases d with
    | null source =>
      cases hread
      simp
    | str source s' =>
      cases hread
      simp
    | bad source fault => exact fault.elim
    | _ => cases hread

theorem gather_imageField {β : Type} {rest : Fields β} {a : Option String × β} :
    gather manner source (.cons (imageField image) (.optional .text) rest) members = .ok a ↔
      TakesImage members image a.1 ∧ gather manner source rest members = .ok a.2 := by
  rw [gather_cons_eq_ok, ← and_assoc]
  refine and_congr_left fun _ => ?_
  constructor
  · rintro ⟨hsome, hnone⟩
    exact ⟨hsome, fun h => (Option.some.inj (hnone h)).symm⟩
  · rintro ⟨hsome, hnone⟩
    exact ⟨hsome, fun h => congrArg Option.some (hnone h).symm⟩

/-- An image of a section is the text that its key reaches. -/
theorem get_eq_some_iff {images : Images} (ht : isArray t = false)
    (h : imagesShape.read manner t = .ok images) (image : Image) {s : String} :
    images.get image = some s ↔ ∃ source, t.follow [image.text] = .reached (.str source s) := by
  obtain ⟨b, hb, hmake⟩ := Except.map_eq_ok.mp h
  obtain ⟨source, members, broken, rfl, hd, hg⟩ := exists_gather_of_read ht hb
  have hlookup : lookup image.text members = member? image.text members :=
    lookup_eq_member? hd (by cases image <;> decide)
  have htakes : TakesImage members image (images.get image) := by
    subst hmake
    simp only [gather_imageField] at hg
    obtain ⟨_, _, _, _, _, _, _, _, _, _, _, _, _, _, -⟩ := hg
    cases image <;> assumption
  rw [htakes.eq_some_iff, follow_obj, hlookup]
  cases member? image.text members with
  | none => simp
  | some d => simp [follow]

end Images

/-! ## The sections of a configuration -/

/-- What is read at the end of a path: nothing where it is stopped, and a default where it is
lost. -/
def ReadAt {α : Type} (shape : Shape α) (default : α) : Trail → α → Prop
  | .reached t, a => shape.read manner t = .ok a
  | .stopped, _ => False
  | .lost, a => a = default

theorem gather_defaulted {α β : Type} {shape : Shape α} {default : α} {rest : Fields β} {a : α × β}
    {broken : Option Empty} (hlookup : lookup name members = member? name members) :
    gather manner source (.cons (.defaulted name default none) shape rest) members = .ok a ↔
      ReadAt shape default (follow (.obj source members broken) [name]) a.1 ∧
        gather manner source rest members = .ok a.2 := by
  rw [gather_cons_eq_ok, ← and_assoc, follow_obj]
  refine and_congr_left fun _ => ?_
  simp only [Field.defaulted, hlookup]
  cases member? name members with
  | none => simp [ReadAt, eq_comm]
  | some t => simp [ReadAt, follow]

/-- The sections of the second version are read at the end of their keys. -/
theorem readAt_versioned {versioned : VersionedImages}
    (ht : isArray t = false)
    (h : versionedShape.read manner t = .ok versioned) :
    ReadAt imagesShape {} (t.follow ["argo"]) versioned.argo ∧
    ReadAt imagesShape {} (t.follow ["tekton"]) versioned.tekton := by
  obtain ⟨b, hb, rfl⟩ := Except.map_eq_ok.mp h
  obtain ⟨source, members, broken, rfl, hd, hg⟩ := exists_gather_of_read ht hb
  obtain ⟨hargo, hg⟩ := (gather_defaulted (lookup_eq_member? hd (by decide))).mp hg
  obtain ⟨htekton, -⟩ := (gather_defaulted (lookup_eq_member? hd (by decide))).mp hg
  exact ⟨hargo, htekton⟩

/-- The sections of a configuration are read at the end of their keys. -/
theorem readAt_shape {c : Config} (ht : isArray t = false)
    (h : Config.shape.read manner t = .ok c) :
    ReadAt intervalsShape defaultIntervals (t.follow ["controller"]) c.intervals ∧
    ReadAt imagesShape {} (t.follow ["images"]) c.images ∧
    ReadAt versionedShape {} (t.follow ["images_v2"]) c.versioned := by
  obtain ⟨b, hb, rfl⟩ := Except.map_eq_ok.mp h
  obtain ⟨source, members, broken, rfl, hd, hg⟩ := exists_gather_of_read ht hb
  obtain ⟨hintervals, hg⟩ := (gather_defaulted (lookup_eq_member? hd (by decide))).mp hg
  obtain ⟨himages, hg⟩ := (gather_defaulted (lookup_eq_member? hd (by decide))).mp hg
  obtain ⟨hversioned, -⟩ := (gather_defaulted (lookup_eq_member? hd (by decide))).mp hg
  exact ⟨hintervals, himages, hversioned⟩

/-- The paths to the sections that hold images, or sections of images. -/
def imageSections : List (List String) :=
  [["images"], ["images_v2"], ["images_v2", "argo"], ["images_v2", "tekton"]]

/-- Whether a path ends at an array. -/
def endsAtArray : Trail → Bool
  | .reached t => isArray t
  | _ => false

/-- A tree without an array at one of these sections. -/
def ArrayFree (t : Tree) : Prop := ∀ path ∈ imageSections, endsAtArray (t.follow path) = false

instance (t : Tree) : Decidable (ArrayFree t) := by unfold ArrayFree; infer_instance

theorem ArrayFree.isArray_eq_false (h : ArrayFree t) {path : List String}
    (hpath : path ∈ imageSections) {t' : Tree} (ht' : t.follow path = .reached t') :
    isArray t' = false := by
  have hends := h path hpath
  rwa [ht'] at hends

theorem keys_mem_imageSections (family : Family) : family.keys ∈ imageSections := by
  cases family with
  | legacy => decide
  | v2 driver => cases driver <;> decide

/-- A set of images is read at the end of its path. -/
theorem readAt_section {c : Config} (ht : isArray t = false) (harray : ArrayFree t)
    (h : Config.shape.read manner t = .ok c) (family : Family) :
    ReadAt imagesShape {} (t.follow family.keys) (c.imagesOf family) := by
  obtain ⟨-, himages, hversioned⟩ := readAt_shape ht h
  cases family with
  | legacy => exact himages
  | v2 driver =>
    change ReadAt _ _ (t.follow (["images_v2"] ++ [driver.text])) _
    rw [follow_append]
    cases htrail : t.follow ["images_v2"] with
    | reached d =>
      rw [htrail] at hversioned
      have hd : isArray d = false := harray.isArray_eq_false (by decide) htrail
      obtain ⟨hargo, htekton⟩ := readAt_versioned hd hversioned
      cases driver with
      | argo => exact hargo
      | tekton => exact htekton
    | stopped =>
      rw [htrail] at hversioned
      exact hversioned.elim
    | lost =>
      rw [htrail] at hversioned
      cases driver with
      | argo => exact congrArg VersionedImages.argo hversioned
      | tekton => exact congrArg VersionedImages.tekton hversioned

/-- An image of the configuration is the text that its path reaches. -/
theorem image_eq_some_iff {c : Config} (ht : isArray t = false) (harray : ArrayFree t)
    (h : Config.shape.read manner t = .ok c) (p : ImagePath) {s : String} :
    (c.imagesOf p.family).get p.image = some s ↔
      ∃ source, t.follow p.keys = .reached (.str source s) := by
  have hread := readAt_section ht harray h p.family
  rw [ImagePath.keys, follow_append]
  cases htrail : t.follow p.family.keys with
  | reached d =>
    rw [htrail] at hread
    have hd := harray.isArray_eq_false (keys_mem_imageSections p.family) htrail
    exact get_eq_some_iff hd hread p.image
  | stopped =>
    rw [htrail] at hread
    exact hread.elim
  | lost =>
    rw [htrail] at hread
    have hnone : (c.imagesOf p.family).get p.image = none := by
      rw [hread]
      cases p.image <;> rfl
    simp [hnone]

end PipelinesOperator.Config
