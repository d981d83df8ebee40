import PipelinesOperator.Config.Tree
import PipelinesOperator.Proofs.Shape.Record

/-!
# Following paths through layers

A path of keys, followed from the root of a layer, reaches a value, is stopped by a value that is
no table, or is lost in a table that lacks its next key.  A layer over another one takes a path
wherever it leads itself, and leaves it to the other where the path is lost in it.  Only where both
have a table does the merge have something of both.

For this the keys of a table must not repeat.  They stand in increasing order in every layer, since
a member is put in its place when it is set.

## Main definitions

* `Tree.Ordered`: trees whose tables have their keys in increasing order
* `Tree.Trail`, `Tree.follow`: what becomes of a path in a tree

## Main results

* `Tree.ordered_ofDoc`, `Tree.Ordered.merge`: layers are ordered, and so are they merged
* `Tree.member?_mergeMembers`: the value of a key in a merged table
* `Tree.reaches_merge_iff`: what a path reaches in a merge, if it is no table
* `Tree.exists_reached_merge`: a path goes on leading somewhere, unless it is stopped
-/

namespace PipelinesOperator

/-- A fact about whole documents that holds of an object if it does of its members.  The lists
inside are taken along by motives of their own; of items nothing needs to be said. -/
theorem Doc.induction {μ : Type} {motive : Doc μ Empty → Prop} (null : ∀ m, motive (.null m))
    (bool : ∀ m b, motive (.bool m b)) (num : ∀ m n, motive (.num m n))
    (str : ∀ m s, motive (.str m s)) (arr : ∀ m items broken, motive (.arr m items broken))
    (obj : ∀ m members broken, (∀ e ∈ members, motive e.2) → motive (.obj m members broken))
    (d : Doc μ Empty) : motive d := by
  refine Doc.rec (motive_2 := fun _ => True) (motive_3 := fun ms => ∀ e ∈ ms, motive e.2)
    (motive_4 := fun e => motive e.2) null bool num str ?arr ?obj ?bad trivial ?item ?nil ?cons
    ?pair d
  case arr => exact fun m items broken _ => arr m items broken
  case obj => exact obj
  case bad => exact fun _ fault => fault.elim
  case item => exact fun _ _ _ _ => trivial
  case nil => exact fun _ h => absurd h List.not_mem_nil
  case cons => exact fun _ _ hm hms => List.forall_mem_cons.mpr ⟨hm, hms⟩
  case pair => exact fun _ _ h => h

namespace Config.Tree

open Shape

variable {old new t : Tree} {members olds news : Members} {key : Key Source Empty}
  {value : Tree} {name : String} {path : List String}

/-! ## Ordered trees -/

/-- A tree whose tables have their keys in increasing order.  Nothing is said of what is in arrays,
which are merged as a whole. -/
inductive Ordered : Tree → Prop where
  | null (source : Source) : Ordered (.null source)
  | bool (source : Source) (b : Bool) : Ordered (.bool source b)
  | num (source : Source) (n : Numeral) : Ordered (.num source n)
  | str (source : Source) (s : String) : Ordered (.str source s)
  | arr (source : Source) (items : List Tree) (broken : Option Empty) :
      Ordered (.arr source items broken)
  | obj {source : Source} {members : Members} {broken : Option Empty}
      (keys : (names members).Pairwise (· < ·)) (values : ∀ m ∈ members, Ordered m.2) :
      Ordered (.obj source members broken)

/-- Members in increasing order of their keys, with ordered values. -/
structure OrderedMembers (members : Members) : Prop where
  keys : (names members).Pairwise (· < ·)
  values : ∀ m ∈ members, m.2.Ordered

theorem orderedMembers_nil : OrderedMembers [] := ⟨.nil, by simp⟩

theorem ordered_obj_iff {source : Source} {broken : Option Empty} :
    Ordered (.obj source members broken) ↔ OrderedMembers members := by
  constructor
  · intro h
    cases h with
    | obj keys values => exact ⟨keys, values⟩
  · exact fun h => .obj h.keys h.values

/-- A key is set behind a lesser one. -/
theorem setMember_of_lt {lesser name : String} (h : lesser < name) (mark mark' : Source)
    (skip skip' : Option Empty) (old value : Tree) (members : Members) :
    setMember ⟨name, mark, skip⟩ value ((⟨lesser, mark', skip'⟩, old) :: members) =
      (⟨lesser, mark', skip'⟩, old) :: setMember ⟨name, mark, skip⟩ value members := by
  have hne : name ≠ lesser := fun heq => String.lt_irrefl _ (heq ▸ h)
  rw [setMember, if_neg (String.lt_asymm h), if_neg hne]

/-- A key is set in its own place. -/
theorem setMember_self (name : String) (mark mark' : Source) (skip skip' : Option Empty)
    (old value : Tree) (members : Members) :
    setMember ⟨name, mark, skip⟩ value ((⟨name, mark', skip'⟩, old) :: members) =
      (⟨name, mark, skip⟩, value) :: members := by
  rw [setMember, if_neg (String.lt_irrefl _), if_pos rfl]

theorem mem_setMember {m : Key Source Empty × Tree} (h : m ∈ setMember key value members) :
    m = (key, value) ∨ m ∈ members := by
  induction members with
  | nil => simpa [setMember] using h
  | cons m' rest ih =>
    rw [setMember] at h
    split at h
    · simpa using h
    · split at h
      · rcases List.mem_cons.mp h with rfl | h
        · exact .inl rfl
        · exact .inr (List.mem_cons_of_mem _ h)
      · rcases List.mem_cons.mp h with rfl | h
        · exact .inr List.mem_cons_self
        · exact (ih h).imp_right (List.mem_cons_of_mem _)

/-- Setting a key leaves members in order.  The key is put before a greater one, in place of its
own, or further back. -/
theorem OrderedMembers.setMember (h : OrderedMembers members) (hv : value.Ordered) :
    OrderedMembers (setMember key value members) := by
  refine ⟨?_, fun m hm => ?_⟩
  · obtain ⟨hkeys, -⟩ := h
    induction members with
    | nil => simp [Tree.setMember, names]
    | cons m rest ih =>
      obtain ⟨hm, hrest⟩ := List.pairwise_cons.mp hkeys
      rw [Tree.setMember]
      split
      · rename_i hlt
        refine List.pairwise_cons.mpr ⟨fun name hname => ?_, hkeys⟩
        rcases List.mem_cons.mp hname with rfl | hname
        · exact hlt
        · exact String.lt_trans hlt (hm name hname)
      · rename_i hnlt
        split
        · rename_i heq
          refine List.pairwise_cons.mpr ⟨fun name hname => ?_, hrest⟩
          simpa only [heq] using hm name hname
        · rename_i hne
          refine List.pairwise_cons.mpr ⟨fun name hname => ?_, ih hrest⟩
          obtain ⟨m', hm', rfl⟩ := List.mem_map.mp hname
          rcases mem_setMember hm' with rfl | hm'
          · exact Std.lt_of_le_of_ne (String.not_lt.mp hnlt) (Ne.symm hne)
          · exact hm _ (List.mem_map_of_mem hm')
  · rcases mem_setMember hm with rfl | hm
    · exact hv
    · exact h.values m hm

/-- Members that are set one after the other are in order. -/
theorem orderedMembers_ofMembers {μ : Type} {source : μ → Source}
    {ms : List (Key μ Empty × Doc μ Empty)} (h : ∀ m ∈ ms, (ofDoc source m.2).Ordered)
    (hdone : OrderedMembers members) : OrderedMembers (ofMembers source ms members) := by
  induction ms generalizing members with
  | nil => exact hdone
  | cons m ms ih =>
    obtain ⟨hm, hms⟩ := List.forall_mem_cons.mp h
    exact ih hms (hdone.setMember hm)

/-- Every document is ordered as a layer. -/
theorem ordered_ofDoc {μ : Type} (source : μ → Source) (d : Doc μ Empty) :
    (ofDoc source d).Ordered := by
  induction d using Doc.induction with
  | null m => exact .null _
  | bool m b => exact .bool _ b
  | num m n => exact .num _ n
  | str m s => exact .str _ s
  | arr m items broken => exact .arr _ _ _
  | obj m members broken ih =>
    exact ordered_obj_iff.mpr (orderedMembers_ofMembers ih orderedMembers_nil)

/-! ## Merged tables -/

/-- Whether a tree is a table. -/
def IsTable (t : Tree) : Prop := ∃ source members broken, t = .obj source members broken

theorem merge_of_not_isTable (h : ¬ new.IsTable) (old : Tree) : merge old new = new := by
  cases new with
  | obj source members broken => exact absurd ⟨source, members, broken, rfl⟩ h
  | bad source fault => exact fault.elim
  | _ => rfl

theorem merge_onto_not_isTable (h : ¬ old.IsTable) (new : Tree) : merge old new = new := by
  by_cases hnew : new.IsTable
  · obtain ⟨source, members, broken, rfl⟩ := hnew
    cases old with
    | obj source members broken => exact absurd ⟨source, members, broken, rfl⟩ h
    | _ => rfl
  · exact merge_of_not_isTable hnew old

theorem merge_obj {source source' : Source} {broken broken' : Option Empty} :
    merge (.obj source olds broken) (.obj source' news broken') =
      .obj source' (mergeMembers olds news) none := by
  rw [merge]

theorem IsTable.merge (h : new.IsTable) (old : Tree) : (merge old new).IsTable := by
  by_cases hold : old.IsTable
  · obtain ⟨source, olds, broken, rfl⟩ := hold
    obtain ⟨source', news, broken', rfl⟩ := h
    exact ⟨_, _, _, merge_obj⟩
  · rwa [merge_onto_not_isTable hold]

theorem member?_cons (m : Key Source Empty × Tree) :
    member? name (m :: members) = if m.1.name = name then some m.2 else member? name members := by
  by_cases h : m.1.name = name
  · simp [member?, h]
  · simp [member?, h]

/-- The value of a key in some members, one of which was set. -/
theorem member?_setMember : member? name (setMember key value members) =
    if key.name = name then some value else member? name members := by
  induction members with
  | nil => exact member?_cons (key, value)
  | cons m rest ih =>
    rw [setMember]
    split
    · exact member?_cons (key, value)
    · split
      · rename_i heq
        rw [member?_cons, member?_cons, ← heq]
        split
        · rfl
        · rfl
      · rename_i hne
        rw [member?_cons, member?_cons, ih]
        by_cases hm : m.1.name = name
        · rw [if_pos hm, if_pos hm, if_neg (hm ▸ hne)]
        · rw [if_neg hm, if_neg hm]

theorem member?_eq_none_iff : member? name members = none ↔ ∀ m ∈ members, m.1.name ≠ name := by
  simp [member?]

theorem mem_of_member? (h : member? name members = some t) :
    ∃ m ∈ members, m.1.name = name ∧ m.2 = t := by
  obtain ⟨m, hm, rfl⟩ := Option.map_eq_some_iff.mp h
  exact ⟨m, List.mem_of_find?_eq_some hm, by simpa using List.find?_some hm, rfl⟩

theorem OrderedMembers.ordered (h : OrderedMembers members) (ht : member? name members = some t) :
    t.Ordered := by
  obtain ⟨m, hm, -, rfl⟩ := mem_of_member? ht
  exact h.values m hm

/-- A value over the one that a table has under its key, if it has one. -/
def mergeOnto (old : Option Tree) (value : Tree) : Tree := old.elim value fun old => merge old value

theorem mergeMembers_cons (m : Key Source Empty × Tree) : mergeMembers olds (m :: news) =
    mergeMembers (setMember m.1 (mergeOnto (member? m.1.name olds) m.2) olds) news := by
  rw [mergeMembers]
  cases member? m.1.name olds with
  | none => rfl
  | some old => rfl

/-- The value of a key in a merged table, if the keys of the table above do not repeat. -/
theorem member?_mergeMembers (h : (names news).Pairwise (· < ·)) :
    member? name (mergeMembers olds news) =
      match member? name news with
      | some value => some (mergeOnto (member? name olds) value)
      | none => member? name olds := by
  induction news generalizing olds with
  | nil => rfl
  | cons m rest ih =>
    obtain ⟨hm, hrest⟩ := List.pairwise_cons.mp h
    rw [mergeMembers_cons, ih hrest, member?_setMember, member?_cons]
    by_cases hname : m.1.name = name
    · subst hname
      have hnone : member? m.1.name rest = none := by
        refine member?_eq_none_iff.mpr fun m' hm' heq => ?_
        exact String.lt_irrefl _ (heq ▸ hm _ (List.mem_map_of_mem hm'))
      rw [hnone, if_pos rfl, if_pos rfl]
    · rw [if_neg hname, if_neg hname]

theorem OrderedMembers.mergeMembers (holds : OrderedMembers olds)
    (h : ∀ m ∈ news, ∀ old : Tree, old.Ordered → (merge old m.2).Ordered)
    (hnews : ∀ m ∈ news, m.2.Ordered) : OrderedMembers (mergeMembers olds news) := by
  induction news generalizing olds with
  | nil => exact holds
  | cons m rest ih =>
    obtain ⟨hm, hrest⟩ := List.forall_mem_cons.mp h
    obtain ⟨hvalue, hvalues⟩ := List.forall_mem_cons.mp hnews
    rw [mergeMembers_cons]
    refine ih (holds.setMember ?_) hrest hvalues
    cases hold : member? m.1.name olds with
    | none => exact hvalue
    | some old => exact hm old (holds.ordered hold)

/-- Ordered layers are ordered when they are merged.  A merge goes down the layer above, whatever
there is below. -/
theorem Ordered.merge (hold : old.Ordered) (hnew : new.Ordered) : (merge old new).Ordered := by
  induction hnew generalizing old with
  | @obj source news broken keys values ih =>
    by_cases htable : old.IsTable
    · obtain ⟨source', olds, broken', rfl⟩ := htable
      rw [merge_obj]
      exact ordered_obj_iff.mpr ((ordered_obj_iff.mp hold).mergeMembers
        (fun m hm old hold => ih m hm hold) values)
    · rw [merge_onto_not_isTable htable]
      exact .obj keys values
  | null source => exact .null source
  | bool source b => exact .bool source b
  | num source n => exact .num source n
  | str source s => exact .str source s
  | arr source items broken => exact .arr source items broken

/-! ## Paths -/

/-- What becomes of a path in a tree. -/
inductive Trail where
  /-- It leads to a value. -/
  | reached (t : Tree)
  /-- It comes upon a value that is no table, and has keys left. -/
  | stopped
  /-- It comes to a table that lacks its next key. -/
  | lost

/-- Follows a path from the root of a tree. -/
def follow : Tree → List String → Trail
  | t, [] => .reached t
  | .obj _ members _, key :: path =>
    match member? key members with
    | some t => follow t path
    | none => .lost
  | _, _ :: _ => .stopped

theorem follow_obj {source : Source} {broken : Option Empty} :
    follow (.obj source members broken) (name :: path) =
      match member? name members with
      | some t => follow t path
      | none => .lost := by
  rw [follow]

theorem follow_of_not_isTable (h : ¬ t.IsTable) : t.follow (name :: path) = .stopped := by
  cases t with
  | obj source members broken => exact absurd ⟨source, members, broken, rfl⟩ h
  | _ => rfl

/-- A path is followed to its end behind its beginning. -/
theorem follow_append (path' : List String) : t.follow (path ++ path') =
    match t.follow path with
    | .reached t => t.follow path'
    | trail => trail := by
  induction path generalizing t with
  | nil => rfl
  | cons name path ih =>
    by_cases ht : t.IsTable
    · obtain ⟨source, members, broken, rfl⟩ := ht
      rw [List.cons_append, follow_obj, follow_obj]
      cases member? name members with
      | none => rfl
      | some t => exact ih
    · rw [List.cons_append, follow_of_not_isTable ht, follow_of_not_isTable ht]

/-- A path reaches a value that is no table in a merge if it reaches it in the layer above, or if it
is lost there and reaches the value below. -/
theorem reaches_merge_iff (hnew : new.Ordered) (ht : ¬ t.IsTable) :
    (merge old new).follow path = .reached t ↔
      new.follow path = .reached t ∨ new.follow path = .lost ∧ old.follow path = .reached t := by
  induction path generalizing old new with
  | nil =>
    simp only [follow, Trail.reached.injEq, reduceCtorEq, false_and, or_false]
    by_cases htable : new.IsTable
    · exact iff_of_false (fun h => ht (h ▸ htable.merge old)) (fun h => ht (h ▸ htable))
    · rw [merge_of_not_isTable htable]
  | cons name path ih =>
    by_cases htable : new.IsTable
    · obtain ⟨source, news, broken, rfl⟩ := htable
      obtain ⟨hkeys, hvalues⟩ := ordered_obj_iff.mp hnew
      by_cases hold : old.IsTable
      · -- both are tables
        obtain ⟨source', olds, broken', rfl⟩ := hold
        rw [merge_obj, follow_obj, follow_obj, follow_obj, member?_mergeMembers hkeys]
        cases hvalue : member? name news with
        | none => simp
        | some value =>
          have hordered := OrderedMembers.ordered ⟨hkeys, hvalues⟩ hvalue
          cases member? name olds with
          | none => simp [mergeOnto]
          | some o => exact ih hordered
      · rw [merge_onto_not_isTable hold, follow_of_not_isTable hold]
        simp
    · rw [merge_of_not_isTable htable, follow_of_not_isTable htable]
      simp

/-- A path that leads to a value goes on leading to one in a merge, unless the layer above stops
it. -/
theorem exists_reached_merge (hnew : new.Ordered) (hold : old.follow path = .reached t)
    (hgo : new.follow path ≠ .stopped) : ∃ t', (merge old new).follow path = .reached t' := by
  induction path generalizing old new with
  | nil => exact ⟨merge old new, rfl⟩
  | cons name path ih =>
    have htable : new.IsTable :=
      Classical.byContradiction fun h => hgo (follow_of_not_isTable h)
    have htable' : old.IsTable := by
      refine Classical.byContradiction fun h => ?_
      rw [follow_of_not_isTable h] at hold
      cases hold
    obtain ⟨source, news, broken, rfl⟩ := htable
    obtain ⟨source', olds, broken', rfl⟩ := htable'
    obtain ⟨hkeys, hvalues⟩ := ordered_obj_iff.mp hnew
    rw [follow_obj] at hold hgo
    rw [merge_obj, follow_obj, member?_mergeMembers hkeys]
    cases hlower : member? name olds with
    | none =>
      rw [hlower] at hold
      cases hold
    | some old =>
      rw [hlower] at hold
      cases hupper : member? name news with
      | none => exact ⟨t, hold⟩
      | some new =>
        rw [hupper] at hgo
        exact ih (OrderedMembers.ordered ⟨hkeys, hvalues⟩ hupper) hold hgo

end Config.Tree

end PipelinesOperator
