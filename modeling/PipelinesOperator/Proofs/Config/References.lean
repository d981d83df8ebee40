import PipelinesOperator.Proofs.Config.Environment
import PipelinesOperator.Proofs.Config.Inline
import PipelinesOperator.Proofs.Config.Nested
import PipelinesOperator.Proofs.Config.Single
import PipelinesOperator.Proofs.JsonText.RoundTrip

/-!
# References in every layer

A reference to an image means the same whether it stands in a file, in the environment or in a single
override.  Each of the three is a layer of one image: the file, since its document is opened as it is;
the environment, since the name of the variable leads along the keys and the value is read as the text
that it is; and the override, since the path is split at its dots.

## Main results

* `layer_file`, `layer_environment`, `layer_override`: the layers of one image
* `reference_means_the_same`: a reference in every layer
-/

namespace PipelinesOperator.Config

open PipelinesOperator.Config.Tree

variable {p : ImagePath} {v : String}

/-- What holds of the keys of the sections and of the keys in them holds of all keys of images. -/
theorem forall_mem_keys {P : String → Prop}
    (hsections : ∀ key ∈ ["images", "images_v2", "argo", "tekton"], P key)
    (himages : ∀ image : Image, P image.text) (p : ImagePath) : ∀ key ∈ p.keys, P key := by
  obtain ⟨family, image⟩ := p
  rw [ImagePath.keys, List.forall_mem_append]
  refine ⟨fun key hkey => hsections key ?_, List.forall_mem_singleton.mpr (himages image)⟩
  have hfamily : family.keys ⊆ ["images", "images_v2", "argo", "tekton"] := by
    rcases family with _ | _ | _ <;> decide
  exact hfamily hkey

theorem isKey_keys (p : ImagePath) : ∀ key ∈ p.keys, Environment.IsKey key := by
  refine forall_mem_keys (by decide) ?_ p
  intro image
  cases image <;> decide

theorem isOrdinary_keys (p : ImagePath) : ∀ key ∈ p.keys, Labelled.IsOrdinary key := by
  refine forall_mem_keys (by decide) ?_ p
  intro image
  cases image <;> decide

theorem keys_ne_nil (p : ImagePath) : p.keys ≠ [] := by
  simp [ImagePath.keys]

/-- The variable that is named after the path of an image leads along the keys of the image. -/
theorem path?_nameOf_text (p : ImagePath) :
    Environment.path? (Environment.nameOf p.text) = some p.keys := by
  rw [← p.dotted_keys]
  exact Environment.path?_nameOf (keys_ne_nil p) (isKey_keys p)

theorem fromUTF8?_toUTF8 (s : String) : String.fromUTF8? s.toUTF8 = some s :=
  dif_pos s.isValidUTF8

/-- A file in which a text is nested under the keys of an image. -/
theorem layer_file {file text : String} (hfile : extension file = "json")
    (htext : JsonText.document text.toList = .ok (.nest (.str v) p.keys)) :
    (Step.file file (some text.toUTF8)).layer? =
      some (.ok (Doc.nest (.file file .json) (.str (.file file .json) v) p.keys)) := by
  have hformat : Format.ofPath? file = some .json := by
    rw [Format.ofPath?, hfile]
    rfl
  have hread : Format.json.read text.toList = .ok (Doc.nest none (.str none v) p.keys) := by
    obtain ⟨j, hj, htrailing⟩ := Except.bind_eq_ok.mp htext
    refine Except.mapError_eq_ok.mpr (Except.bind_eq_ok.mpr ?_)
    cases hbehind : (JsonText.parse text.toList).trailing with
    | some b =>
      rw [hbehind] at htrailing
      cases htrailing
    | none =>
      rw [hbehind] at htrailing
      obtain rfl := Except.ok.inj htrailing
      exact ⟨_, Labelled.ofRoot_nest (keys_ne_nil p) (isOrdinary_keys p) hj, rfl⟩
  have hlayer : Format.json.layer file text.toUTF8 =
      .ok (Doc.nest (.file file .json) (.str (.file file .json) v) p.keys) := by
    rw [Format.layer, fromUTF8?_toUTF8]
    simp only [hread]
    exact congrArg Except.ok (ofDoc_nest (Source.file file .json).ofLabel none v p.keys)
  change fileLayer? file (some text.toUTF8) = _
  unfold fileLayer?
  rw [hformat]
  simp only [hlayer]
  rfl

/-- A single override of an image. -/
theorem layer_override (p : ImagePath) (v : String) :
    (Step.override p.text (some v)).layer? =
      some (.ok (Doc.nest .override (.str .override v) p.keys)) := by
  have hsplit : Text.splitOn '.' p.text = p.keys := by
    rw [← p.dotted_keys]
    exact Registry.splitOn_dotted (keys_ne_nil p) p.isPathKey
  change some (overrideLayer p.text v) = _
  rw [overrideLayer, hsplit, nest_keys]
  obtain ⟨family, image⟩ := p
  rcases family with _ | _ | _ <;> rfl

/-- The environment in which the variable of an image has a reference, and no other variable leads
anywhere. -/
theorem layer_environment {settings : Table String} (hv : IsReference v)
    (hname : settings.get? (Environment.nameOf p.text) = some v)
    (hothers : ∀ e ∈ settings.entries, e.1 ≠ Environment.nameOf p.text →
      Environment.path? e.1 = none) :
    (Step.environment settings).layer? =
      some (.ok (Doc.nest .environment (.str .environment v) p.keys)) := by
  change some (Except.ok (Environment.layer settings)) = _
  rw [Environment.layer_of_path? hname (path?_nameOf_text p) hothers, Inline.read_reference hv, ofDoc_nest,
    nest_keys]
  obtain ⟨family, image⟩ := p
  rcases family with _ | _ | _ <;> rfl

/-- A step whose layer has one image builds what is built in, with this image. -/
theorem build_step {s : Step} {source : Source}
    (h : s.layer? = some (.ok (Doc.nest source (.str source v) p.keys))) :
    (Draft.standard.step s).build = .ok (Config.single p v) := by
  rw [Draft.step_eq, h]
  exact Except.mapError_eq_ok.mpr (read_merge_nest source p v)

/-- A reference to an image means the same in every layer.  A file in which it is nested under the
keys of the image, the variable that is named after the path of the image, and an override of the path
build one configuration, of which the registry has the reference under the path, and nothing else.
There is such a file: one with the compact text of the nested reference. -/
theorem reference_means_the_same (p : ImagePath) (v : String) (hv : IsReference v) :
    ∃ c : Config,
      (∀ file text : String, extension file = "json" →
        JsonText.document text.toList = .ok (.nest (.str v) p.keys) →
          (Draft.standard.withFile file (some text.toUTF8)).build = .ok c) ∧
      JsonText.document (Json.nest (.str v) p.keys).compact = .ok (.nest (.str v) p.keys) ∧
      (∀ settings : Table String, settings.get? (Environment.nameOf p.text) = some v →
        (∀ e ∈ settings.entries, e.1 ≠ Environment.nameOf p.text → Environment.path? e.1 = none) →
          (Draft.standard.withEnvironment settings).build = .ok c) ∧
      (Draft.standard.withOverride p.text (some v)).build = .ok c ∧
      ∀ k, (Registry.ofConfig c).get? k = if k = p.text then some v else none := by
  refine ⟨Config.single p v, ?file, ?text, ?environment, ?override, ?registry⟩
  case file =>
    exact fun file text hfile htext => build_step (layer_file hfile htext)
  case text =>
    refine JsonText.document_compact (Json.plain_nest ?_)
    rcases p with ⟨_ | _ | _, image⟩ <;>
      simp [ImagePath.keys, Family.keys, JsonText.maxDepth]
  case environment =>
    exact fun settings hname hothers => build_step (layer_environment hv hname hothers)
  case override => exact build_step (layer_override p v)
  case registry => exact get?_ofConfig_single p hv.ne_empty

/-- A file with a reference that starts like a boolean and goes on like a number, at a path whose keys
have underscores of their own. -/
def moverText : String :=
  "\x7b\"images_v2\":\x7b\"argo\":" ++ "\x7b\"move_results_image\":\"true/1.5:e3\"\x7d\x7d\x7d"

theorem reference_means_the_same_mover : ∃ c : Config,
    (Draft.standard.withFile "config/app.json" (some moverText.toUTF8)).build = .ok c ∧
    (Draft.standard.withEnvironment (Table.ofList
      [("DSPO__IMAGES_V2__ARGO__MOVE_RESULTS_IMAGE", "true/1.5:e3"), ("PATH", "/bin")])).build =
        .ok c ∧
    (Draft.standard.withOverride "images_v2.argo.move_results_image" (some "true/1.5:e3")).build =
      .ok c ∧
    (Registry.ofConfig c).get? "images_v2.argo.move_results_image" = some "true/1.5:e3" := by
  obtain ⟨c, hfile, htext, henvironment, hoverride, hregistry⟩ :=
    reference_means_the_same ⟨.v2 .argo, .moveResults⟩ "true/1.5:e3"
      ⟨List.all_eq_true.mp (by decide +kernel), .inl (by decide)⟩
  have hcompact : (Json.nest (.str "true/1.5:e3")
      (ImagePath.mk (.v2 .argo) .moveResults).keys).compact = moverText.toList := by
    decide +kernel
  rw [hcompact] at htext
  exact ⟨c, hfile "config/app.json" moverText (by decide +kernel) htext,
    henvironment _ (by decide +kernel) (by decide +kernel), hoverride,
    (hregistry _).trans (if_pos (by decide))⟩

end PipelinesOperator.Config
