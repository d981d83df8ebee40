import PipelinesOperator.Config.Draft
import PipelinesOperator.Proofs.Config.Sections

/-!
# The precedence of layers

A configuration is put together in steps, each with a layer or without one, in any order.  A layer
may add to what is there, replace it, blank it out, or knock out a whole section that a later one
builds anew.  All the same an image can be told from the layers without merging them: the last one
that has a word on its path decides.  A layer has a word on a path if it leads it to a value, or
stops it at one that is no table; where the path is lost in a layer, the layer is silent.

The invariant of a merge is what a path reaches in it, if that is no table.  It goes from one layer
to the next, and at the end the configuration is read from what the paths of the images reach.

## Main definitions

* `Step`, `Draft.after`: steps in putting a configuration together, and the draft behind them
* `layers`: the layers of some steps
* `LastLeads`: the last layer that has a word on a path leads it to a value

## Main results

* `isLayer_of_mem_layers`: a layer is a table, and the keys of its tables are in order
* `reaches_foldl_merge_iff`: what a path reaches in merged layers
* `get?_iff_lastLeads`, `registry_heeds_last_word`: an image is what the last word on its path says
-/

namespace PipelinesOperator.Config

open Shape PipelinesOperator.Config.Tree

/-! ## Steps -/

/-- A step in putting the configuration together. -/
inductive Step where
  /-- A file, with its contents if it exists. -/
  | file (path : String) (contents : Option ByteArray)
  /-- The environment. -/
  | environment (settings : Table String)
  /-- A single value, if it is given. -/
  | override (key : String) (value : Option String)

/-- The layer of a file, or why it cannot be made; a file that does not exist has none, and neither
has one of an unknown format. -/
def fileLayer? (path : String) (contents : Option ByteArray) : Option (Except Error Tree) :=
  match Format.ofPath? path, contents with
  | some format, some contents =>
    some ((format.layer path contents).mapError (.unreadable (.file path format)))
  | _, _ => none

/-- The layer of a single value, or why it cannot be made. -/
def overrideLayer (key value : String) : Except Error Tree :=
  match Doc.nest .override (.str .override value) (Text.splitOn '.' key) with
  | .obj source members broken => .ok (.obj source members broken)
  | _ => .error (.keyless (.text value))

/-- The layer of a step, or why it cannot be made; some steps have none. -/
def Step.layer? : Step → Option (Except Error Tree)
  | .file path contents => fileLayer? path contents
  | .environment settings => some (.ok (Environment.layer settings))
  | .override key value => value.map (overrideLayer key)

/-- The layers of some steps, in their order. -/
def layers (steps : List Step) : List Tree :=
  steps.filterMap fun step => step.layer?.bind Except.toOption

namespace Draft

/-- The draft behind one more step. -/
def step (d : Draft) : Step → Draft
  | .file path contents => d.withFile path contents
  | .environment settings => d.withEnvironment settings
  | .override key value => d.withOverride key value

/-- The draft behind some more steps. -/
def after (d : Draft) (steps : List Step) : Draft := steps.foldl step d

variable {d : Draft} {s : Step} {steps : List Step} {tree : Tree} {c : Config}

/-- A step adds its layer, if it has one. -/
theorem step_eq : d.step s = match s.layer? with
    | some layer => d.add layer
    | none => d := by
  cases s with
  | file path contents =>
    change d.withFile path contents = match fileLayer? path contents with
      | some layer => d.add layer
      | none => d
    unfold withFile fileLayer?
    cases Format.ofPath? path with
    | none => rfl
    | some format =>
      cases contents with
      | none => rfl
      | some contents => rfl
  | environment settings => rfl
  | override key value =>
    cases value with
    | none => rfl
    | some value =>
      change d.withOverride key (some value) = d.add (overrideLayer key value)
      unfold withOverride overrideLayer
      dsimp only
      generalize (Doc.nest Source.override _ _ : Tree) = nested
      cases nested with
      | _ => rfl

/-- What spoilt a draft stays.  A further step may change what went wrong last, and not what went
wrong first. -/
theorem build_spoilt_after {first : Error} {last : Option Error} :
    ((spoilt first last).after steps).build ≠ .ok c := by
  induction steps generalizing last with
  | nil =>
    intro h
    cases h
  | cons s steps ih =>
    have hstep : ∃ last', (spoilt first last).step s = spoilt first last' := by
      rw [step_eq]
      cases s.layer? with
      | none => exact ⟨_, rfl⟩
      | some layer =>
        cases layer with
        | ok layer => exact ⟨_, rfl⟩
        | error e => exact ⟨_, rfl⟩
    obtain ⟨last', hlast⟩ := hstep
    rw [after, List.foldl_cons, hlast]
    exact ih

/-- A configuration is read from the layers merged. -/
theorem read_of_build (h : ((merged tree).after steps).build = .ok c) :
    Config.shape.read manner ((layers steps).foldl merge tree) = .ok c := by
  induction steps generalizing tree with
  | nil => exact Except.mapError_eq_ok.mp h
  | cons s steps ih =>
    rw [after, List.foldl_cons, step_eq] at h
    rw [layers, List.filterMap_cons]
    cases hlayer : s.layer? with
    | none =>
      rw [hlayer] at h
      exact ih h
    | some layer =>
      rw [hlayer] at h
      cases layer with
      | ok layer => exact ih h
      | error e => exact absurd h build_spoilt_after

end Draft

/-! ## What layers are -/

/-- What every layer is: a table, with the keys of its tables in increasing order. -/
structure IsLayer (t : Tree) : Prop where
  table : t.IsTable
  ordered : t.Ordered

theorem IsLayer.merge {old new : Tree} (hold : IsLayer old) (hnew : IsLayer new) :
    IsLayer (merge old new) :=
  ⟨hnew.table.merge old, hold.ordered.merge hnew.ordered⟩

theorem isLayer_foldl_merge {layers : List Tree} {base : Tree} (hbase : IsLayer base)
    (h : ∀ layer ∈ layers, IsLayer layer) : IsLayer (layers.foldl merge base) := by
  induction layers generalizing base with
  | nil => exact hbase
  | cons layer rest ih =>
    obtain ⟨hlayer, hrest⟩ := List.forall_mem_cons.mp h
    exact ih (hbase.merge hlayer) hrest

/-- An object is a layer. -/
theorem isLayer_ofDoc {μ : Type} (source : μ → Source) (m : μ)
    (members : List (Key μ Empty × Doc μ Empty)) (broken : Option Empty) :
    IsLayer (ofDoc source (.obj m members broken)) :=
  ⟨⟨_, _, _, rfl⟩, ordered_ofDoc source _⟩

theorem ordered_nest (source : Source) {value : Tree} (h : value.Ordered) (keys : List String) :
    Tree.Ordered (Doc.nest source value keys) := by
  induction keys with
  | nil => exact h
  | cons key rest ih =>
    simp only [Doc.nest]
    split
    · exact h
    · exact .obj (List.pairwise_singleton _ _) (by simpa using ih)

theorem eq_empty_of_lowerAscii {s : String} (h : Text.lowerAscii s = "") : s = "" := by
  have hlist := congrArg String.toList h
  rw [Text.toList_lowerAscii] at hlist
  exact String.toList_eq_nil_iff.mp (List.map_eq_nil_iff.mp hlist)

/-- The path of a variable starts with a key. -/
theorem exists_key_of_path? {name : String} {path : List String}
    (h : Environment.path? name = some path) : ∃ key rest, path = key :: rest ∧ key ≠ "" := by
  rw [Environment.path?] at h
  split at h
  · extract_lets keys at h
    have hne : keys ≠ [] := fun h => Text.split_ne_nil _ _ (List.map_eq_nil_iff.mp h)
    obtain ⟨key, rest, hkeys⟩ := List.exists_cons_of_ne_nil hne
    rw [hkeys] at h
    split at h
    · cases h
    · rename_i hempty
      obtain rfl := Option.some.inj h
      refine ⟨Text.lowerAscii key, _, rfl, fun hlower => hempty ?_⟩
      rw [eq_empty_of_lowerAscii hlower]
      rfl
  · cases h

theorem isLayer_environment (settings : Table String) : IsLayer (Environment.layer settings) := by
  rw [Environment.layer]
  generalize settings.entries = entries
  have hempty : IsLayer (.obj .environment [] none) := ⟨⟨_, _, _, rfl⟩, .obj .nil (by simp)⟩
  generalize Doc.obj Source.environment [] none = tree at hempty
  induction entries generalizing tree with
  | nil => exact hempty
  | cons v rest ih =>
    rw [List.foldl_cons]
    refine ih _ ?_
    cases hpath : Environment.path? v.1 with
    | none => exact hempty
    | some path =>
      obtain ⟨key, rest, rfl, hkey⟩ := exists_key_of_path? hpath
      refine hempty.merge ?_
      rw [Doc.nest, if_neg hkey]
      exact isLayer_ofDoc _ _ _ _

theorem exists_table_of_ofRoot {μ φ : Type} {d : Doc μ φ} {read : Labelled}
    (h : Labelled.ofRoot d = .ok read) : ∃ members, read = Labelled.plainTable members := by
  cases d with
  | obj m members broken =>
    obtain ⟨members, -, h⟩ := Except.bind_eq_ok.mp h
    cases broken with
    | none => exact ⟨members, (Except.ok.inj h).symm⟩
    | some fault => cases h
  | _ => cases h

theorem exists_table_of_read {format : Format} {text : List Char} {read : Labelled}
    (h : format.read text = .ok read) : ∃ members, read = Labelled.plainTable members := by
  cases format with
  | json =>
    obtain ⟨root, hroot, h⟩ := Except.bind_eq_ok.mp (Except.mapError_eq_ok.mp h)
    split at h
    · cases h
    · cases h
      exact exists_table_of_ofRoot hroot
  | yaml =>
    obtain ⟨⟨members, state⟩, -, h⟩ := Except.bind_eq_ok.mp (Except.mapError_eq_ok.mp h)
    dsimp only at h
    split at h
    · cases h
    · split at h
      · cases h
      · exact ⟨members, (Except.ok.inj h).symm⟩

theorem isLayer_file {path : String} {contents : Option ByteArray} {layer : Tree}
    (h : fileLayer? path contents = some (.ok layer)) : IsLayer layer := by
  unfold fileLayer? at h
  split at h
  · rename_i format contents _
    have hlayer := Except.mapError_eq_ok.mp (Option.some.inj h)
    rw [Format.layer] at hlayer
    split at hlayer
    · cases hlayer
    · obtain ⟨d, hd, hlayer⟩ := Except.bind_eq_ok.mp hlayer
      obtain ⟨members, rfl⟩ := exists_table_of_read hd
      cases hlayer
      exact isLayer_ofDoc _ _ _ _
  · cases h

theorem isLayer_override {key value : String} {layer : Tree}
    (h : overrideLayer key value = .ok layer) : IsLayer layer := by
  have hnest := ordered_nest .override (.str .override value) (Text.splitOn '.' key)
  unfold overrideLayer at h
  split at h
  · rename_i hobj
    cases h
    exact ⟨⟨_, _, _, rfl⟩, hobj ▸ hnest⟩
  · cases h

/-- The layers of steps are layers. -/
theorem isLayer_of_mem_layers {steps : List Step} {layer : Tree} (h : layer ∈ layers steps) :
    IsLayer layer := by
  obtain ⟨s, -, hs⟩ := List.mem_filterMap.mp h
  obtain ⟨made, hmade, hlayer⟩ := Option.bind_eq_some_iff.mp hs
  obtain rfl := Except.toOption_eq_some.mp hlayer
  cases s with
  | file path contents => exact isLayer_file hmade
  | environment settings =>
    cases hmade
    exact isLayer_environment settings
  | override key value =>
    obtain ⟨value, -, hvalue⟩ := Option.map_eq_some_iff.mp hmade
    exact isLayer_override hvalue

/-! ## The last word -/

/-- The last layer that has a word on a path, so that the path is not lost in it, leads it to a
value. -/
def LastLeads (layers : List Tree) (path : List String) (t : Tree) : Prop :=
  ∃ before layer after, layers = before ++ layer :: after ∧ layer.follow path = .reached t ∧
    ∀ l ∈ after, l.follow path = .lost

theorem lastLeads_cons {layers : List Tree} {layer t : Tree} {path : List String} :
    LastLeads (layer :: layers) path t ↔
      LastLeads layers path t ∨
        layer.follow path = .reached t ∧ ∀ l ∈ layers, l.follow path = .lost := by
  constructor
  · rintro ⟨before, last, after, heq, hreached, hlost⟩
    rcases List.cons_eq_append_iff.mp heq with ⟨rfl, hcons⟩ | ⟨before, rfl, rfl⟩
    · obtain ⟨rfl, rfl⟩ := List.cons.inj hcons
      exact .inr ⟨hreached, hlost⟩
    · exact .inl ⟨before, last, after, rfl, hreached, hlost⟩
  · rintro (⟨before, last, after, rfl, hreached, hlost⟩ | ⟨hreached, hlost⟩)
    · exact ⟨layer :: before, last, after, rfl, hreached, hlost⟩
    · exact ⟨[], layer, layers, rfl, hreached, hlost⟩

/-- What a path reaches behind layers that are merged one after the other, if it is no table, is
what the last one says that has a word on it, or what stood there before them all.  The base is any
tree, since the first layer becomes part of it. -/
theorem reaches_foldl_merge_iff {layers : List Tree} (h : ∀ layer ∈ layers, layer.Ordered)
    {base t : Tree} (ht : ¬ t.IsTable) {path : List String} :
    (layers.foldl merge base).follow path = .reached t ↔
      LastLeads layers path t ∨
        base.follow path = .reached t ∧ ∀ l ∈ layers, l.follow path = .lost := by
  induction layers generalizing base with
  | nil =>
    have hnil : ¬ LastLeads [] path t := by
      rintro ⟨before, layer, after, heq, -⟩
      simp at heq
    simp [hnil]
  | cons layer rest ih =>
    obtain ⟨hlayer, hrest⟩ := List.forall_mem_cons.mp h
    rw [List.foldl_cons, ih hrest, reaches_merge_iff hlayer ht, lastLeads_cons,
      List.forall_mem_cons, or_and_right, or_assoc, and_assoc, and_left_comm]

/-! ## What is built in -/

/-- The layer of what is built in. -/
def standardTree : Tree :=
  ofDoc (fun _ => .standard) (Doc.ofJson (Config.shape.write Config.default))

theorem isLayer_standardTree : IsLayer standardTree := ⟨⟨_, _, _, rfl⟩, ordered_ofDoc _ _⟩

/-- No image is built in.  What is built in has every section, and no member in any of them. -/
theorem follow_standardTree (p : ImagePath) : standardTree.follow p.keys = .lost := by
  have hsection : standardTree.follow p.family.keys = .reached (.obj .standard [] none) := by
    cases p.family with
    | legacy => rfl
    | v2 driver => cases driver <;> rfl
  rw [ImagePath.keys, follow_append, hsection]
  rfl

theorem arrayFree_standardTree : ArrayFree standardTree := by
  decide +kernel

/-! ## The registry behind layers -/

/-- Layers without arrays at the sections of images have none there when they are merged. -/
theorem arrayFree_foldl_merge {layers : List Tree} {base : Tree} (hbase : ArrayFree base)
    (hordered : ∀ layer ∈ layers, layer.Ordered) (h : ∀ layer ∈ layers, ArrayFree layer) :
    ArrayFree (layers.foldl merge base) := by
  intro path hpath
  cases ht : (layers.foldl merge base).follow path with
  | stopped | lost => rfl
  | reached t =>
    refine Bool.eq_false_iff.mpr fun harray => ?_
    have hword := (reaches_foldl_merge_iff hordered (not_isTable_of_isArray harray)).mp ht
    rcases hword with ⟨before, layer, after, rfl, hreached, -⟩ | ⟨hreached, -⟩
    · have hlayer := (h layer (by simp)).isArray_eq_false hpath hreached
      exact Bool.false_ne_true (hlayer.symm.trans harray)
    · exact Bool.false_ne_true ((hbase.isArray_eq_false hpath hreached).symm.trans harray)

/-- An image is in the registry if it is the text, and not the empty one, to which the last layer
leads its path that has a word on it.  The base has no word on the path of an image, so that only
the layers decide. -/
theorem get?_iff_lastLeads {steps : List Step} {c : Config}
    (hbuild : (Draft.standard.after steps).build = .ok c)
    (harray : ∀ layer ∈ layers steps, ArrayFree layer) (p : ImagePath) {v : String} :
    (Registry.ofConfig c).get? p.text = some v ↔
      v ≠ "" ∧ ∃ source, LastLeads (layers steps) p.keys (.str source v) := by
  have hlayers (layer : Tree) (h : layer ∈ layers steps) : IsLayer layer := isLayer_of_mem_layers h
  have hordered (layer : Tree) (h : layer ∈ layers steps) : layer.Ordered :=
    (hlayers layer h).ordered
  have hread : Config.shape.read manner ((layers steps).foldl merge standardTree) = .ok c :=
    Draft.read_of_build hbuild
  have hmerged := isLayer_foldl_merge isLayer_standardTree hlayers
  have hroot : isArray ((layers steps).foldl merge standardTree) = false :=
    Bool.eq_false_iff.mpr fun h => not_isTable_of_isArray h hmerged.table
  have hfree := arrayFree_foldl_merge arrayFree_standardTree hordered harray
  have htext (source : Source) : ((layers steps).foldl merge standardTree).follow p.keys =
      .reached (.str source v) ↔ LastLeads (layers steps) p.keys (.str source v) := by
    rw [reaches_foldl_merge_iff hordered (by rintro ⟨_, _, _, ⟨⟩⟩), follow_standardTree]
    simp
  rw [Registry.get?_ofConfig, nonEmpty_eq_some, image_eq_some_iff hroot hfree hread, and_comm]
  simp only [htext]

/-- A step without a layer changes nothing. -/
theorem Draft.step_eq_self (d : Draft) {s : Step} (h : s.layer? = none) : d.step s = d := by
  rw [step_eq, h]

/-- A file of an unknown format has no layer. -/
theorem fileLayer?_of_extension {path : String} (h : extension path ∉ ["json", "yaml", "yml"])
    (contents : Option ByteArray) : fileLayer? path contents = none := by
  have hformat : Format.ofPath? path = none := by
    simp only [List.mem_cons, List.not_mem_nil, or_false, not_or] at h
    obtain ⟨hjson, hyaml, hyml⟩ := h
    simp [Format.ofPath?, Format.ofExtension?, hjson, hyaml, hyml]
  unfold fileLayer?
  rw [hformat]

/-- A file that does not exist has no layer. -/
theorem fileLayer?_none (path : String) : fileLayer? path none = none := by
  unfold fileLayer?
  cases Format.ofPath? path with
  | none => rfl
  | some format => rfl

/-- A section is set, knocked out, and built anew. -/
def rebuiltSteps : List Step :=
  [.override "images.cache" (some "first"), .override "images" (some "gone"),
    .environment (Table.ofList [("DSPO__IMAGES__MARIADB", "second")]),
    .file "notes.txt" (some ByteArray.empty), .override "images.cache" none]

/-- What comes of it. -/
def rebuiltConfig : Config := { Config.default with images := { mariaDb := some "second" } }

end PipelinesOperator.Config
