import PipelinesOperator.Proofs.Config.Layers

/-!
# Intervals that nobody configures

Two defaults belong to an interval.  The built-in layer says thirty seconds, and in a section that
is given without the interval it is read as zero.  While every layer has a table at the section, or
nothing, the built-in value shines through.  A layer with anything else there, `null` included,
takes the built-in section away, and an interval that no layer supplies is zero then.

## Main definitions

* `Interval`, `Intervals.get`: the two intervals
* `Interval.value?`, `Supplies`: what a layer has for an interval
* `Displaces`: a layer has something other than a table at the section

## Main results

* `exists_reached_foldl_merge`: what is built in stays in reach while no layer stops its path
* `unsupplied_interval`: what an interval is that no layer supplies
* `emptied_section_gives_zero`: an empty section makes it zero
-/

namespace PipelinesOperator

/-- An interval of the configuration. -/
inductive Interval where
  | requeue
  | errorRequeue
  deriving DecidableEq, Repr

/-- One of the two intervals. -/
def Intervals.get (s : Intervals) : Interval → UInt64
  | .requeue => s.requeue
  | .errorRequeue => s.errorRequeue

namespace Interval

/-- The key of an interval in its section. -/
def text : Interval → String
  | .requeue => "requeue_interval_secs"
  | .errorRequeue => "error_requeue_secs"

/-- The place of an interval in a section that is given as an array. -/
def place : Interval → Nat
  | .requeue => 0
  | .errorRequeue => 1

/-- The path of an interval. -/
def keys (i : Interval) : List String := ["controller"] ++ [i.text]

/-- What a layer has for an interval: the member of the section with its key or, in a section that
is an array, the item in its place. -/
def value? (i : Interval) (layer : Config.Tree) : Option Config.Tree :=
  match layer.follow ["controller"] with
  | .reached (.obj _ members _) => Config.Tree.member? i.text members
  | .reached (.arr _ items _) => items[i.place]?
  | _ => none

end Interval

namespace Config

open Shape PipelinesOperator.Config.Tree

variable {t base layer : Tree} {source : Source} {members : Members} {path : List String}
  {i : Interval} {c : Config}

/-! ## What layers say of the intervals -/

/-- Whether a tree is `null`. -/
def isNull : Tree → Bool
  | .null _ => true
  | _ => false

/-- Whether a layer supplies an interval: it has a value for it, other than `null`. -/
def Supplies (layer : Tree) (i : Interval) : Bool := (i.value? layer).any fun t => !isNull t

/-- Whether a layer has something other than a table at the section of the intervals. -/
def Displaces (layer : Tree) : Bool :=
  match layer.follow ["controller"] with
  | .reached (.obj _ _ _) => false
  | .reached _ => true
  | _ => false

theorem displaces_iff :
    Displaces layer = true ↔ ∃ t, layer.follow ["controller"] = .reached t ∧ ¬t.IsTable := by
  rw [Displaces]
  cases layer.follow ["controller"] with
  | reached t =>
    cases t with
    | obj source members broken => simp [IsTable]
    | bad source fault => exact fault.elim
    | null _ | bool _ _ | num _ _ | str _ _ | arr _ _ _ => simp [IsTable]
  | stopped | lost => simp

/-- The path of the section is not stopped in a layer. -/
theorem follow_section_ne_stopped (hlayer : layer.IsTable) (name : String) :
    layer.follow [name] ≠ .stopped := by
  obtain ⟨source, members, broken, rfl⟩ := hlayer
  rw [follow_obj]
  cases member? name members with
  | none => simp
  | some t => simp [follow]

/-- What becomes of the path of an interval behind that of its section. -/
theorem follow_keys (i : Interval) : layer.follow i.keys =
    match layer.follow ["controller"] with
    | .reached t => t.follow [i.text]
    | trail => trail := follow_append [i.text]

/-- The path of an interval is stopped in the layers that displace the section, and in no other. -/
theorem follow_keys_eq_stopped_iff (hlayer : layer.IsTable) (i : Interval) :
    layer.follow i.keys = .stopped ↔ Displaces layer = true := by
  rw [displaces_iff, follow_keys]
  cases htrail : layer.follow ["controller"] with
  | reached t =>
    by_cases htable : t.IsTable
    · exact iff_of_false (follow_section_ne_stopped htable i.text) (by simp [htable])
    · exact iff_of_true (follow_of_not_isTable htable) ⟨t, rfl, htable⟩
  | stopped => exact absurd htrail (follow_section_ne_stopped hlayer _)
  | lost => simp

/-- A value that the path of an interval leads to, in a layer that does not supply the interval, is
`null`. -/
theorem isNull_of_reached (hnone : Supplies layer i = false)
    (h : layer.follow i.keys = .reached t) : isNull t = true := by
  rw [follow_keys] at h
  have hvalue : i.value? layer = some t := by
    rw [Interval.value?]
    cases htrail : layer.follow ["controller"] with
    | reached d =>
      rw [htrail] at h
      by_cases htable : d.IsTable
      · obtain ⟨source, members, broken, rfl⟩ := htable
        dsimp only at h ⊢
        rw [follow_obj] at h
        cases hmember : member? i.text members with
        | none => simp [hmember] at h
        | some t' => simpa [hmember, follow] using h
      · dsimp only at h
        rw [follow_of_not_isTable htable] at h
        cases h
    | stopped | lost => simp [htrail] at h
  rw [Supplies, hvalue] at hnone
  simpa using hnone

/-! ## Reading the section -/

/-- A number of seconds is not read from a table or from `null`. -/
theorem of_read_nat64 {n : UInt64} (h : Shape.nat64.read manner t = .ok n) :
    ¬t.IsTable ∧ isNull t = false := by
  cases t with
  | obj source members broken =>
    rw [Shape.read] at h
    cases h
  | null source =>
    rw [Shape.read] at h
    cases h
  | bad source fault => exact fault.elim
  | bool _ _ | num _ _ | str _ _ | arr _ _ _ => exact ⟨by rintro ⟨_, _, _, ⟨⟩⟩, rfl⟩

/-- The intervals of a section that is no array are read at the ends of their keys. -/
theorem readAt_intervals {s : Intervals} (ht : isArray t = false)
    (h : intervalsShape.read manner t = .ok s) (i : Interval) :
    ReadAt .nat64 0 (t.follow [i.text]) (s.get i) := by
  obtain ⟨b, hb, rfl⟩ := Except.map_eq_ok.mp h
  obtain ⟨source, members, broken, rfl, hd, hg⟩ := exists_gather_of_read ht hb
  obtain ⟨hrequeue, hg⟩ := (gather_defaulted (lookup_eq_member? hd (by decide))).mp hg
  obtain ⟨herror, -⟩ := (gather_defaulted (lookup_eq_member? hd (by decide))).mp hg
  cases i with
  | requeue => exact hrequeue
  | errorRequeue => exact herror

/-- The intervals of a section that is an array are read from the items in their places. -/
theorem read_intervals_of_array {s : Intervals} {items : List Tree} {broken : Option Empty}
    (h : intervalsShape.read manner (.arr source items broken) = .ok s) (i : Interval) :
    (∀ t, items[i.place]? = some t → Shape.nat64.read manner t = .ok (s.get i)) ∧
      (items[i.place]? = none → s.get i = 0) := by
  obtain ⟨⟨requeue, error, ⟨⟩⟩, hb, rfl⟩ := Except.map_eq_ok.mp h
  obtain rfl : broken = none := Option.eq_none_iff_forall_ne_some.mpr fun fault => fault.elim
  rw [Shape.read] at hb
  obtain ⟨hrequeue, hrequeue', hb⟩ := place_cons_eq_ok.mp hb
  obtain ⟨herror, herror', -⟩ := place_cons_eq_ok.mp hb
  cases i with
  | requeue =>
    change (∀ t, items[0]? = some t → _) ∧ (items[0]? = none → requeue = 0)
    rw [← List.head?_eq_getElem?, List.head?_eq_none_iff]
    exact ⟨hrequeue, fun hnil => (Option.some.inj (hrequeue' hnil)).symm⟩
  | errorRequeue =>
    change (∀ t, items[1]? = some t → _) ∧ (items[1]? = none → error = 0)
    rw [← List.getElem?_tail, ← List.head?_eq_getElem?, List.head?_eq_none_iff]
    exact ⟨herror, fun hnil => (Option.some.inj (herror' hnil)).symm⟩

/-! ## The section behind layers -/

/-- A path that leads to a value before some layers goes on leading to one behind them, unless one
of them stops it. -/
theorem exists_reached_foldl_merge {layers : List Tree} (h : ∀ layer ∈ layers, layer.Ordered)
    (hbase : base.follow path = .reached t) (hgo : ∀ layer ∈ layers, layer.follow path ≠ .stopped) :
    ∃ t', (layers.foldl merge base).follow path = .reached t' := by
  induction layers generalizing base t with
  | nil => exact ⟨t, hbase⟩
  | cons layer rest ih =>
    obtain ⟨hlayer, hrest⟩ := List.forall_mem_cons.mp h
    obtain ⟨hgo, hgoes⟩ := List.forall_mem_cons.mp hgo
    obtain ⟨t', ht'⟩ := exists_reached_merge hlayer hbase hgo
    exact ih hrest ht' hgoes

/-- The section of the intervals is built in. -/
theorem exists_standard_section : ∃ t, standardTree.follow ["controller"] = .reached t := ⟨_, rfl⟩

/-- Thirty seconds are built in for each interval. -/
theorem follow_standardTree_interval (i : Interval) :
    standardTree.follow i.keys = .reached (.num .standard (.unsigned 30)) := by
  cases i with
  | requeue => rfl
  | errorRequeue => rfl

/-- What the path of an interval leads to behind layers that do not supply it is built in, if it is
read as a number of seconds: then the path is lost in every layer. -/
theorem of_reached_unsupplied {layers : List Tree} (h : ∀ layer ∈ layers, layer.Ordered)
    (hnone : ∀ layer ∈ layers, Supplies layer i = false) (ht : ¬t.IsTable)
    (hnull : isNull t = false)
    (hreached : (layers.foldl merge standardTree).follow i.keys = .reached t) :
    t = .num .standard (.unsigned 30) ∧ ∀ layer ∈ layers, layer.follow i.keys = .lost := by
  rcases (reaches_foldl_merge_iff h ht).mp hreached with
    ⟨before, layer, after, rfl, hlayer, -⟩ | ⟨hbase, hlost⟩
  · have hword := isNull_of_reached (hnone layer (by simp)) hlayer
    rw [hnull] at hword
    cases hword
  · rw [follow_standardTree_interval] at hbase
    exact ⟨(Trail.reached.inj hbase).symm, hlost⟩

section Unsupplied

variable {steps : List Step}

theorem ordered_of_mem_layers : ∀ layer ∈ layers steps, layer.Ordered :=
  fun _ h => (isLayer_of_mem_layers h).ordered

theorem isTable_of_mem_layers (h : layer ∈ layers steps) : layer.IsTable :=
  (isLayer_of_mem_layers h).table

/-- The section is there behind all layers, and the intervals are read from it.  The built-in
section stays in reach, since every layer is a table. -/
theorem exists_section_of_build
    (hbuild : (Draft.standard.after steps).build = .ok c) :
    ∃ t, ((layers steps).foldl merge standardTree).follow ["controller"] = .reached t ∧
      intervalsShape.read manner t = .ok c.intervals := by
  have hread : Config.shape.read manner ((layers steps).foldl merge standardTree) = .ok c :=
    Draft.read_of_build hbuild
  have htable : ((layers steps).foldl merge standardTree).IsTable :=
    (isLayer_foldl_merge isLayer_standardTree fun _ h => isLayer_of_mem_layers h).table
  have hroot : isArray ((layers steps).foldl merge standardTree) = false :=
    Bool.eq_false_iff.mpr fun h => not_isTable_of_isArray h htable
  obtain ⟨t, ht⟩ := exists_reached_foldl_merge ordered_of_mem_layers
    exists_standard_section.choose_spec
    fun layer h => follow_section_ne_stopped (isTable_of_mem_layers h) "controller"
  have hsection := (readAt_shape hroot hread).1
  rw [ht] at hsection
  exact ⟨t, ht, hsection⟩

/-- While nothing displaces the section, the built-in value shines through. -/
theorem interval_eq_thirty (hbuild : (Draft.standard.after steps).build = .ok c)
    (hnone : ∀ layer ∈ layers steps, Supplies layer i = false)
    (hstays : ∀ layer ∈ layers steps, Displaces layer = false) : c.intervals.get i = 30 := by
  obtain ⟨d, hd, hread⟩ := exists_section_of_build hbuild
  obtain ⟨t, ht⟩ := exists_reached_foldl_merge ordered_of_mem_layers
    (follow_standardTree_interval i) fun layer h hstopped =>
      Bool.false_ne_true <| (hstays layer h).symm.trans
        ((follow_keys_eq_stopped_iff (isTable_of_mem_layers h) i).mp hstopped)
  have hkey := ht
  rw [follow_keys, hd] at hkey
  have harray : isArray d = false := by
    refine Bool.eq_false_iff.mpr fun h => ?_
    simp [follow_of_not_isTable (not_isTable_of_isArray h)] at hkey
  have hvalue := readAt_intervals harray hread i
  rw [show d.follow [i.text] = .reached t from hkey] at hvalue
  obtain ⟨hscalar, hnull⟩ := of_read_nat64 hvalue
  obtain ⟨rfl, -⟩ := of_reached_unsupplied ordered_of_mem_layers hnone hscalar hnull ht
  exact (Except.ok.inj hvalue).symm

/-- Where the section is displaced, an interval is zero that no layer supplies. -/
theorem interval_eq_zero (hbuild : (Draft.standard.after steps).build = .ok c)
    (hnone : ∀ layer ∈ layers steps, Supplies layer i = false) {layer : Tree}
    (hlayer : layer ∈ layers steps) (hdisplaces : Displaces layer = true) :
    c.intervals.get i = 0 := by
  have hstopped := (follow_keys_eq_stopped_iff (isTable_of_mem_layers hlayer) i).mpr hdisplaces
  obtain ⟨d, hd, hread⟩ := exists_section_of_build hbuild
  cases harray : isArray d with
  | false =>
    have hvalue := readAt_intervals harray hread i
    have hkey : ((layers steps).foldl merge standardTree).follow i.keys = d.follow [i.text] := by
      rw [follow_keys, hd]
    cases htrail : d.follow [i.text] with
    | reached t =>
      rw [htrail] at hvalue
      obtain ⟨hscalar, hnull⟩ := of_read_nat64 hvalue
      obtain ⟨-, hlost⟩ := of_reached_unsupplied ordered_of_mem_layers hnone hscalar hnull
        (hkey.trans htrail)
      rw [hlost layer hlayer] at hstopped
      cases hstopped
    | stopped =>
      rw [htrail] at hvalue
      exact hvalue.elim
    | lost =>
      rw [htrail] at hvalue
      exact hvalue
  | true =>
    have hscalar := not_isTable_of_isArray harray
    cases d with
    | arr source items broken =>
      obtain ⟨hitem, habsent⟩ := read_intervals_of_array hread i
      cases hplace : items[i.place]? with
      | none => exact habsent hplace
      | some t =>
        rcases (reaches_foldl_merge_iff ordered_of_mem_layers hscalar).mp hd with
          ⟨before, last, after, heq, hlast, -⟩ | ⟨hbase, -⟩
        · have hsupplies : Supplies last i = true := by
            rw [Supplies, Interval.value?, hlast]
            simp [hplace, (of_read_nat64 (hitem t hplace)).2]
          rw [hnone last (by simp [heq])] at hsupplies
          cases hsupplies
        · cases hbase
    | _ => cases harray

/-- An interval that no layer supplies is thirty seconds exactly if no layer has something other
than a table at the section of the intervals, and zero exactly if some layer has. -/
theorem unsupplied_interval (hbuild : (Draft.standard.after steps).build = .ok c) (i : Interval)
    (hnone : ∀ layer ∈ layers steps, Supplies layer i = false) :
    (c.intervals.get i = 30 ↔ ∀ layer ∈ layers steps, Displaces layer = false) ∧
    (c.intervals.get i = 0 ↔ ∃ layer ∈ layers steps, Displaces layer = true) := by
  by_cases hdisplaced : ∃ layer ∈ layers steps, Displaces layer = true
  · obtain ⟨layer, hlayer, hdisplaces⟩ := hdisplaced
    have hzero := interval_eq_zero hbuild hnone hlayer hdisplaces
    refine ⟨iff_of_false ?_ fun hstays => ?_, iff_of_true hzero ⟨layer, hlayer, hdisplaces⟩⟩
    · rw [hzero]
      decide
    · rw [hstays layer hlayer] at hdisplaces
      cases hdisplaces
  · have hstays (layer : Tree) (h : layer ∈ layers steps) : Displaces layer = false :=
      Bool.eq_false_iff.mpr fun hdisplaces => hdisplaced ⟨layer, h, hdisplaces⟩
    have hthirty := interval_eq_thirty hbuild hnone hstays
    refine ⟨iff_of_true hthirty hstays, iff_of_false ?_ hdisplaced⟩
    rw [hthirty]
    decide

end Unsupplied

/-- A file leaves the section empty, and the environment gives it one of its intervals. -/
def emptiedSteps : List Step :=
  [.file "config.yaml" (some "controller:\n".toUTF8),
    .environment (Table.ofList [("DSPO__CONTROLLER__REQUEUE_INTERVAL_SECS", "60")])]

/-- What comes of it. -/
def emptiedConfig : Config := { Config.default with intervals := ⟨60, 0⟩ }

/-- The interval that nobody supplies is zero then, and not the built-in thirty seconds. -/
theorem emptied_section_gives_zero :
    (∀ layer ∈ layers emptiedSteps, Supplies layer .errorRequeue = false) ∧
    (Draft.standard.after emptiedSteps).build = .ok emptiedConfig ∧
    emptiedConfig.intervals.get .errorRequeue = 0 :=
  ⟨by decide +kernel, Except.toOption_eq_some.mp (by decide +kernel), by decide⟩

theorem unsupplied_interval_emptied :
    (Draft.standard.after emptiedSteps).build = .ok emptiedConfig ∧
    (∀ layer ∈ layers emptiedSteps, Supplies layer .errorRequeue = false) ∧
    ∃ layer ∈ layers emptiedSteps, Displaces layer = true := by
  have hbuild : (Draft.standard.after emptiedSteps).build = .ok emptiedConfig :=
    Except.toOption_eq_some.mp (by decide +kernel)
  have hnone : ∀ layer ∈ layers emptiedSteps, Supplies layer .errorRequeue = false := by
    decide +kernel
  exact ⟨hbuild, hnone, (unsupplied_interval hbuild .errorRequeue hnone).2.mp (by decide)⟩

end Config

end PipelinesOperator
