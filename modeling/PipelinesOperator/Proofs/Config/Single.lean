import PipelinesOperator.Proofs.Config.Entries
import PipelinesOperator.Proofs.Config.Layers

/-!
# One image over what is built in

Nothing is at fault in a layer that has one image in its place and nothing else.  Over what is built
in, it makes the configuration that is built in, with this image; and the registry of that has the
image and nothing else.

## Main definitions

* `Images.ofGet`: the section of images that are told one by one
* `Config.single`: what is built in, with one image

## Main results

* `read_imagesShape`, `read_versionedShape`, `read_shape`: a table is read if its fields can be taken
* `read_merge_nest`: a layer with one image, over what is built in
* `get?_ofConfig_single`: the registry of one image
-/

namespace PipelinesOperator

theorem Image.text_injective : Function.Injective Image.text := by
  intro image image' h
  cases image <;> cases image' <;> first | rfl | exact absurd h (by decide)

/-- The section of images that are told one by one. -/
def Images.ofGet (f : Image → Option String) : Images where
  apiServer := f .apiServer
  artifact := f .artifact
  cache := f .cache
  moveResults := f .moveResults
  persistenceAgent := f .persistenceAgent
  scheduledWorkflow := f .scheduledWorkflow
  mlmdEnvoy := f .mlmdEnvoy
  mlmdGrpc := f .mlmdGrpc
  mlmdWriter := f .mlmdWriter
  mariaDb := f .mariaDb
  oauthProxy := f .oauthProxy
  crdViewer := f .crdViewer
  visualizationServer := f .visualizationServer
  workflowController := f .workflowController

theorem Images.get_ofGet (f : Image → Option String) (image : Image) :
    (Images.ofGet f).get image = f image := by
  cases image with
  | _ => rfl

/-- The section of one image. -/
def Images.single (image : Image) (value : String) : Images :=
  .ofGet fun image' => if image' = image then some value else none

/-- What is built in, with one image. -/
def Config.single (p : ImagePath) (value : String) : Config :=
  match p.family with
  | .legacy => { Config.default with images := .single p.image value }
  | .v2 .argo => { Config.default with versioned := { argo := .single p.image value } }
  | .v2 .tekton => { Config.default with versioned := { tekton := .single p.image value } }

theorem Images.get_single (image image' : Image) (value : String) :
    (Images.single image value).get image' = if image' = image then some value else none :=
  Images.get_ofGet _ image'

theorem Images.get_empty (image : Image) : ({} : Images).get image = none := by
  cases image with
  | _ => rfl

theorem Config.imagesOf_single (p : ImagePath) (value : String) (family : Family) :
    (Config.single p value).imagesOf family =
      if family = p.family then .single p.image value else {} := by
  obtain ⟨family', image⟩ := p
  rcases family with _ | _ | _ <;> rcases family' with _ | _ | _ <;> rfl

/-- Of one image only this image is configured. -/
theorem Config.get_single (p q : ImagePath) (value : String) :
    ((Config.single p value).imagesOf q.family).get q.image =
      if q = p then some value else none := by
  obtain ⟨family, image⟩ := p
  obtain ⟨family', image'⟩ := q
  simp only [Config.imagesOf_single, ImagePath.mk.injEq]
  by_cases hfamily : family' = family
  · simp only [hfamily, true_and, if_true, Images.get_single]
  · simp only [hfamily, false_and, if_false, Images.get_empty]

end PipelinesOperator

namespace PipelinesOperator.Config

open Shape PipelinesOperator.Config.Tree

variable {source : Source} {members : Members}

/-! ## Tables that are read -/

/-- A section of images is read if each image can be taken. -/
theorem read_imagesShape {f : Image → Option String} (hskip : ∀ m ∈ members, m.1.skip = none)
    (hnodup : (names members).Nodup) (h : ∀ image, TakesImage members image (f image)) :
    imagesShape.read manner (.obj source members none) = .ok (Images.ofGet f) := by
  refine Except.map_eq_ok.mpr ⟨(f .apiServer, f .artifact, f .cache, f .moveResults,
    f .persistenceAgent, f .scheduledWorkflow, f .mlmdEnvoy, f .mlmdGrpc, f .mlmdWriter,
    f .mariaDb, f .oauthProxy, f .crdViewer, f .visualizationServer, f .workflowController, ()),
    read_record_of_gather hskip (distinct_of_nodup hnodup _) ?_, rfl⟩
  simp only [gather_imageField, h, true_and]
  rfl

/-- The sections of the second version are read if each of them can be. -/
theorem read_versionedShape {versioned : VersionedImages} (hskip : ∀ m ∈ members, m.1.skip = none)
    (hnodup : (names members).Nodup)
    (hargo : ReadAt imagesShape {} (follow (.obj source members none) ["argo"]) versioned.argo)
    (htekton : ReadAt imagesShape {} (follow (.obj source members none) ["tekton"])
      versioned.tekton) :
    versionedShape.read manner (.obj source members none) = .ok versioned := by
  have hd (keys : List String) : Distinct keys (names members) := distinct_of_nodup hnodup keys
  refine Except.map_eq_ok.mpr ⟨(versioned.argo, versioned.tekton, ()),
    read_record_of_gather hskip (hd _) ?_, rfl⟩
  refine (gather_defaulted (lookup_eq_member? (hd ["argo"]) (by decide))).mpr ⟨hargo, ?_⟩
  exact (gather_defaulted (lookup_eq_member? (hd ["tekton"]) (by decide))).mpr ⟨htekton, rfl⟩

/-- A configuration is read if each of its sections can be. -/
theorem read_shape {c : Config} (hskip : ∀ m ∈ members, m.1.skip = none)
    (hnodup : (names members).Nodup)
    (hintervals : ReadAt intervalsShape defaultIntervals
      (follow (.obj source members none) ["controller"]) c.intervals)
    (himages : ReadAt imagesShape {} (follow (.obj source members none) ["images"]) c.images)
    (hversioned : ReadAt versionedShape {} (follow (.obj source members none) ["images_v2"])
      c.versioned) :
    Config.shape.read manner (.obj source members none) = .ok c := by
  have hd (keys : List String) : Distinct keys (names members) := distinct_of_nodup hnodup keys
  refine Except.map_eq_ok.mpr ⟨(c.intervals, c.images, c.versioned, ()),
    read_record_of_gather hskip (hd _) ?_, rfl⟩
  refine (gather_defaulted (lookup_eq_member? (hd ["controller"]) (by decide))).mpr
    ⟨hintervals, ?_⟩
  refine (gather_defaulted (lookup_eq_member? (hd ["images"]) (by decide))).mpr ⟨himages, ?_⟩
  exact (gather_defaulted (lookup_eq_member? (hd ["images_v2"]) (by decide))).mpr ⟨hversioned, rfl⟩

/-! ## A layer of one image -/

/-- The section of one image, in a layer. -/
def oneImage (source : Source) (image : Image) (value : String) : Tree :=
  .obj source [(⟨image.text, source, none⟩, .str source value)] none

theorem takesImage_oneImage (source : Source) (image image' : Image) (value : String) :
    TakesImage [(⟨image.text, source, none⟩, .str source value)] image'
      (if image' = image then some value else none) := by
  by_cases himage : image' = image
  · subst himage
    rw [if_pos rfl]
    refine ⟨fun d hd => ?_, fun hnone => ?_⟩
    · simp only [lookup, if_true, Option.none_or, Option.some.injEq] at hd
      subst hd
      rfl
    · simp [lookup] at hnone
  · have hname : image.text ≠ image'.text := fun heq => himage (Image.text_injective heq.symm)
    rw [if_neg himage]
    refine ⟨fun d hd => ?_, fun _ => rfl⟩
    simp [lookup, hname] at hd

/-- A section of one image is read as this image. -/
theorem read_oneImage (source : Source) (image : Image) (value : String) :
    imagesShape.read manner (oneImage source image value) = .ok (.single image value) :=
  read_imagesShape (by simp) (by simp [names]) (takesImage_oneImage source image · value)

theorem nest_keys (source : Source) (p : ImagePath) (value : String) :
    Doc.nest source (.str source value : Tree) p.keys =
      Doc.nest source (oneImage source p.image value) p.family.keys := by
  obtain ⟨family, image⟩ := p
  have himage : image.text ≠ "" := by cases image <;> decide
  have hsection : Doc.nest source (.str source value : Tree) [image.text] =
      oneImage source image value := by
    rw [Doc.nest, if_neg himage, Doc.nest, oneImage]
  rw [← hsection]
  cases family with
  | legacy => rfl
  | v2 driver => cases driver <;> rfl

/-! ## Trees with every section -/

/-- The intervals, as they are built in. -/
def standardIntervals : Tree :=
  ofDoc (fun _ => .standard) (Doc.ofJson (intervalsShape.write defaultIntervals))

/-- An empty section, as it is built in. -/
def emptySection : Tree := .obj .standard [] none

/-- A tree with the intervals that are built in and with every section of images, each beside the
layer that its key comes from. -/
def sections (root : Source) (legacy : Source × Tree) (versioned : Source × Source)
    (argo tekton : Source × Tree) : Tree :=
  .obj root
    [(⟨"controller", .standard, none⟩, standardIntervals),
      (⟨"images", legacy.1, none⟩, legacy.2),
      (⟨"images_v2", versioned.1, none⟩, .obj versioned.2
        [(⟨"argo", argo.1, none⟩, argo.2), (⟨"tekton", tekton.1, none⟩, tekton.2)] none)] none

theorem standardTree_eq : standardTree = sections .standard (.standard, emptySection)
    (.standard, .standard) (.standard, emptySection) (.standard, emptySection) := rfl

/-- Such a tree is read if its sections of images are. -/
theorem read_sections {root : Source} {versioned : Source × Source}
    {legacy argo tekton : Source × Tree} {a b c : Images}
    (hlegacy : imagesShape.read manner legacy.2 = .ok a)
    (hargo : imagesShape.read manner argo.2 = .ok b)
    (htekton : imagesShape.read manner tekton.2 = .ok c) :
    Config.shape.read manner (sections root legacy versioned argo tekton) =
      .ok ⟨defaultIntervals, a, ⟨b, c⟩⟩ := by
  have hversioned : versionedShape.read manner (.obj versioned.2
      [(⟨"argo", argo.1, none⟩, argo.2), (⟨"tekton", tekton.1, none⟩, tekton.2)] none) =
      .ok ⟨b, c⟩ :=
    read_versionedShape (by simp) (by simp [names]) hargo htekton
  exact read_shape (by simp) (by simp [names]) rfl hlegacy hversioned

/-- What is built in, with one section replaced. -/
def replaced (source : Source) (t : Tree) : Family → Tree
  | .legacy => sections source (source, t) (.standard, .standard) (.standard, emptySection)
    (.standard, emptySection)
  | .v2 .argo => sections source (.standard, emptySection) (source, source) (source, t)
    (.standard, emptySection)
  | .v2 .tekton => sections source (.standard, emptySection) (source, source)
    (.standard, emptySection) (source, t)

/-- A section over what is built in takes the place of the empty one. -/
theorem merge_standardTree (source : Source) (family : Family) {t : Tree}
    (ht : merge emptySection t = t) :
    merge standardTree (Doc.nest source t family.keys) = replaced source t family := by
  rcases family with _ | _ | _ <;>
    simp (disch := decide) only [standardTree_eq, sections, replaced, Family.keys,
      EngineDriver.text, Doc.nest, merge_obj, mergeMembers, setMember_of_lt, setMember_self,
      member?_cons, ht, if_pos, if_neg]

/-- A layer of one image over what is built in is read as what is built in, with this image.  The
layer touches one section, and the standard tree supplies the other two empty. -/
theorem read_merge_nest (source : Source) (p : ImagePath) (value : String) :
    Config.shape.read manner (merge standardTree (Doc.nest source (.str source value) p.keys)) =
      .ok (Config.single p value) := by
  obtain ⟨family, image⟩ := p
  have hone := read_oneImage source image value
  have hempty : imagesShape.read manner emptySection = .ok {} := rfl
  rw [nest_keys, merge_standardTree source family rfl]
  cases family with
  | legacy => exact read_sections hone hempty hempty
  | v2 driver =>
    cases driver with
    | argo => exact read_sections hempty hone hempty
    | tekton => exact read_sections hempty hempty hone

/-- The registry of one image has the image, and nothing else. -/
theorem get?_ofConfig_single (p : ImagePath) {value : String} (h : value ≠ "") (k : String) :
    (Registry.ofConfig (Config.single p value)).get? k = if k = p.text then some value else none := by
  refine Option.ext fun s => ?_
  rw [Registry.get?_ofConfig_iff]
  constructor
  · rintro ⟨q, rfl, hget, -⟩
    rw [Config.get_single] at hget
    split at hget
    · rename_i hq
      rw [if_pos (congrArg ImagePath.text hq), hget]
    · cases hget
  · intro hk
    split at hk
    · rename_i htext
      obtain rfl := Option.some.inj hk
      exact ⟨p, htext.symm, by rw [Config.get_single, if_pos rfl], h⟩
    · cases hk

end PipelinesOperator.Config
