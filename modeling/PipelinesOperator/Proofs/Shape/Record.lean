import PipelinesOperator.Proofs.Json.Basic
import PipelinesOperator.Proofs.Shape.Parts

/-!
# Reading records

A record is read from an object in two passes.  The first tries every member, the second takes the
fields.  If no field stands there twice, the first pass says nothing that the second does not find
out.  So a strict record is read exactly when no field is there twice and all of them can be taken,
and what is taken depends on nothing but the values of the fields.

## Main definitions

* `Shape.Takes`, `Shape.TakesAll`: what fields are taken to be from the members of an object

## Main results

* `tryMembers_eq_ok`: when the first pass succeeds
* `read_strict_eq_ok`, `ofJson_strict_eq_ok`: when a strict record is read from an object
-/

namespace PipelinesOperator

namespace Shape

variable {μ φ α : Type} {manner : Manner μ φ} {mark : μ} {strictness : Strictness}
  {keys seen : List String} {members : List (Key μ φ × Doc μ φ)} {fields : Fields α}

/-- The names of the members of an object. -/
def names (members : List (Key μ φ × Doc μ φ)) : List String := members.map fun m => m.1.name

/-! ## The first pass -/

/-- The first pass over a record succeeds when every member of a field is read, every other one can
be passed over, and no field of a strict record is there twice.  The induction is on the members,
with the keys seen before. -/
theorem tryMembers_eq_ok {attempt : String → Doc μ φ → Except (Fault μ φ) Unit} :
    tryMembers strictness keys attempt seen members = .ok () ↔
      (∀ m ∈ members, m.1.name ∈ keys → attempt m.1.name m.2 = .ok ()) ∧
      (∀ m ∈ members, m.1.name ∉ keys → m.1.skip = none) ∧
      (strictness = .strict →
        (∀ m ∈ members, m.1.name ∈ keys → m.1.name ∉ seen) ∧ Distinct keys (names members)) := by
  induction members generalizing seen with
  | nil => simp [tryMembers, names, Distinct]
  | cons m rest ih =>
    obtain ⟨key, d⟩ := m
    simp only [tryMembers, List.forall_mem_cons, names, Distinct, List.map_cons,
      List.pairwise_cons, List.mem_map, forall_exists_index, and_imp, forall_apply_eq_imp_iff₂]
    by_cases hk : key.name ∈ keys
    · rw [if_pos hk]
      by_cases hs : strictness = .strict ∧ key.name ∈ seen
      · simp [hk, hs]
      · rw [if_neg hs]
        simp only [Except.bind_eq_ok, Except.mapError_eq_ok, ih, hk, names, Distinct,
          List.mem_cons, not_or, forall_const, not_true_eq_false, false_implies, true_and]
        constructor
        · rintro ⟨⟨⟩, hd, hrest, hskip, hstrict⟩
          refine ⟨⟨hd, hrest⟩, hskip, fun h => ?_⟩
          obtain ⟨hseen, hdistinct⟩ := hstrict h
          exact ⟨⟨fun hmem => hs ⟨h, hmem⟩, fun m hm hm' => (hseen m hm hm').2⟩,
            fun m hm hm' => (hseen m hm (hm' ▸ hk)).1 hm'.symm, hdistinct⟩
        · rintro ⟨⟨hd, hrest⟩, hskip, hstrict⟩
          refine ⟨(), hd, hrest, hskip, fun h => ?_⟩
          obtain ⟨⟨-, hseen⟩, hne, hdistinct⟩ := hstrict h
          exact ⟨fun m hm hm' => ⟨fun heq => hne m hm heq.symm, hseen m hm hm'⟩, hdistinct⟩
    · rw [if_neg hk]
      cases hskip : key.skip with
      | some f => simp [hk]
      | none => simp [hk, ih, names, Distinct]

/-! ## The values of keys -/

theorem lookup_eq_none_iff {key : String} :
    lookup key members = none ↔ ∀ m ∈ members, m.1.name ≠ key := by
  induction members with
  | nil => simp [lookup]
  | cons m rest ih =>
    rw [lookup, Option.or_eq_none_iff, ih, List.forall_mem_cons, and_comm]
    by_cases h : m.1.name = key
    · simp [h]
    · simp [h]

/-- The value of a key that is there once is that of its member. -/
theorem lookup_of_mem (hd : Distinct keys (names members)) {m : Key μ φ × Doc μ φ}
    (hm : m ∈ members) (hk : m.1.name ∈ keys) : lookup m.1.name members = some m.2 := by
  induction members with
  | nil => cases hm
  | cons m' rest ih =>
    obtain ⟨hne, hrest⟩ := List.pairwise_cons.mp hd
    rw [lookup]
    rcases List.mem_cons.mp hm with rfl | hm
    · have hnone : lookup m.1.name rest = none := by
        refine lookup_eq_none_iff.mpr fun m' hm' => ?_
        exact (hne _ (List.mem_map_of_mem hm') hk).symm
      rw [hnone, if_pos rfl]
      rfl
    · rw [ih hrest hm]
      rfl

/-! ## The second pass -/

/-- A field is taken from its member, or has the value that it has without one. -/
theorem gather_cons_eq_ok {β : Type} {field : Field α} {shape : Shape α} {rest : Fields β}
    {a : α × β} : gather manner mark (.cons field shape rest) members = .ok a ↔
      (∀ d, lookup field.key members = some d → read manner shape d = .ok a.1) ∧
      (lookup field.key members = none → field.absent = some a.1) ∧
      gather manner mark rest members = .ok a.2 := by
  obtain ⟨a, b⟩ := a
  rw [gather]
  cases lookup field.key members with
  | some d => simp [Except.bind_eq_ok]
  | none =>
    cases field.absent with
    | none => simp [Except.bind_eq_ok]
    | some a' =>
      simp only [Except.bind_eq_ok, Except.ok.injEq, Prod.mk.injEq, Option.some.injEq,
        exists_eq_left', reduceCtorEq, false_implies, implies_true, true_and, forall_const]
      constructor
      · rintro ⟨b', hrest, rfl, rfl⟩
        exact ⟨rfl, hrest⟩
      · rintro ⟨rfl, hrest⟩
        exact ⟨b, hrest, rfl, rfl⟩

/-- A value that was taken for its field is read by the first pass. -/
theorem readField_of_gather {a : α} (h : gather manner mark fields members = .ok a)
    {key : String} {d : Doc μ φ} (hkey : lookup key members = some d) :
    readField manner fields key d = .ok () := by
  induction fields using Fields.rec (motive_1 := fun _ _ => True) with
  | nil => rfl
  | cons field shape rest _ ih =>
    obtain ⟨hfield, -, hrest⟩ := gather_cons_eq_ok.mp h
    rw [readField]
    by_cases hf : field.key = key
    · rw [if_pos hf]
      exact Except.map_eq_ok.mpr ⟨_, hfield d (hf ▸ hkey), rfl⟩
    · rw [if_neg hf]
      exact ih hrest
  | _ => trivial

/-- In an array a field is taken from the next item, or has the value that it has behind the last
one. -/
theorem place_cons_eq_ok {β : Type} {field : Field α} {shape : Shape α} {rest : Fields β}
    {name : String} {size i : Nat} {items : List (Doc μ φ)} {a : α × β} :
    place manner name size mark (.cons field shape rest) i items none = .ok a ↔
      (∀ d, items.head? = some d → read manner shape d = .ok a.1) ∧
      (items = [] → field.short = some a.1) ∧
      place manner name size mark rest (i + 1) items.tail none = .ok a.2 := by
  obtain ⟨a, b⟩ := a
  cases items with
  | nil =>
    simp only [place]
    cases field.short with
    | none => simp [Except.bind_eq_ok]
    | some a' => simpa [Except.bind_eq_ok] using and_comm
  | cons d later =>
    simp only [place, Except.bind_eq_ok, Except.map_eq_ok, Except.mapError_eq_ok, List.head?_cons,
      Option.some.injEq, forall_eq', reduceCtorEq, false_implies, true_and, List.tail_cons]
    constructor
    · rintro ⟨-, ⟨c, hread, rfl⟩, c', hrest, heq⟩
      obtain ⟨rfl, rfl⟩ := Prod.mk.inj (Except.ok.inj heq)
      exact ⟨hread, hrest⟩
    · rintro ⟨hread, hrest⟩
      exact ⟨(a, later), ⟨a, hread, rfl⟩, b, hrest, rfl⟩

/-- A record is read from an object if no field is there twice and all of them can be taken. -/
theorem read_record_of_gather {name : String} {note : Option String} {a : α}
    (hskip : ∀ m ∈ members, m.1.skip = none) (hd : Distinct fields.keys (names members))
    (h : gather manner mark fields members = .ok a) :
    read manner (.record name note strictness fields) (.obj mark members none) = .ok a := by
  rw [read]
  refine Except.bind_eq_ok.mpr ⟨(), tryMembers_eq_ok.mpr ⟨?_, ?_, ?_⟩, h⟩
  · intro m hm hk
    exact readField_of_gather h (lookup_of_mem hd hm hk)
  · exact fun m hm _ => hskip m hm
  · exact fun _ => ⟨fun _ _ _ => List.not_mem_nil, hd⟩

/-- A strict record is read from an object only if no field is there twice. -/
theorem read_strict_eq_ok {name : String} {note : Option String} {a : α}
    (hskip : ∀ m ∈ members, m.1.skip = none) :
    read manner (.record name note .strict fields) (.obj mark members none) = .ok a ↔
      Distinct fields.keys (names members) ∧ gather manner mark fields members = .ok a := by
  constructor
  · intro h
    rw [read] at h
    obtain ⟨⟨⟩, htried, h⟩ := Except.bind_eq_ok.mp h
    exact ⟨((tryMembers_eq_ok.mp htried).2.2 rfl).2, h⟩
  · rintro ⟨hd, h⟩
    exact read_record_of_gather hskip hd h

/-! ## Objects of documents -/

section Documents

variable {ms ms' : List (String × Json)}

theorem names_ofMembers (ms : List (String × Json)) :
    names (Doc.ofMembers ms) = ms.map Prod.fst := by
  induction ms with
  | nil => rfl
  | cons m ms ih => exact congrArg (m.1 :: ·) ih

theorem skip_ofMembers (ms : List (String × Json)) : ∀ m ∈ Doc.ofMembers ms, m.1.skip = none := by
  induction ms with
  | nil => simp [Doc.ofMembers]
  | cons m ms ih => simpa [Doc.ofMembers] using ih

theorem lookup_ofMembers (key : String) (ms : List (String × Json)) :
    lookup key (Doc.ofMembers ms) = (ms.reverse.lookup key).map Doc.ofJson := by
  induction ms with
  | nil => rfl
  | cons m ms ih =>
    rw [Doc.ofMembers, lookup, ih, List.reverse_cons, List.lookup_append, lookup_cons_eq_ite,
      Option.map_or]
    by_cases hm : m.1 = key
    · simp [hm]
    · simp [hm, Ne.symm hm]

/-- What a field is taken to be from the value of its key, if there is one. -/
def Takes (field : Field α) (shape : Shape α) (value : Option Json) (a : α) : Prop :=
  match value with
  | some j => shape.ofJson j = .ok a
  | none => field.absent = some a

/-- What the fields of a record are taken to be from the members of an object. -/
def TakesAll : {α : Type} → Fields α → List (String × Json) → α → Prop
  | _, .nil, _, _ => True
  | _, .cons field shape rest, ms, (a, b) =>
    Takes field shape (ms.lookup field.key) a ∧ TakesAll rest ms b

theorem gather_ofMembers_eq_ok (hd : Distinct keys (ms.map Prod.fst))
    (hkeys : ∀ key ∈ fields.keys, key ∈ keys) {a : α} :
    gather .document () fields (Doc.ofMembers ms) = .ok a ↔ TakesAll fields ms a := by
  induction fields using Fields.rec (motive_1 := fun _ _ => True) with
  | nil => simp [gather, TakesAll]
  | cons field shape rest _ ih =>
    obtain ⟨a, b⟩ := a
    rw [gather_cons_eq_ok, TakesAll, ih fun key hkey => hkeys key (List.mem_cons_of_mem _ hkey),
      lookup_ofMembers, lookup_reverse hd (hkeys field.key List.mem_cons_self)]
    cases ms.lookup field.key with
    | none => simp [Takes]
    | some j => simp [Takes, ofJson]
  | _ => trivial

/-- A document that is an object is read as a strict record exactly when no field is there twice
and each is taken. -/
theorem ofJson_strict_eq_ok {name : String} {note : Option String} {a : α} :
    ofJson (.record name note .strict fields) (.obj ms) = .ok a ↔
      Distinct fields.keys (ms.map Prod.fst) ∧ TakesAll fields ms a := by
  rw [ofJson, Doc.ofJson, read_strict_eq_ok (skip_ofMembers ms), names_ofMembers]
  exact and_congr_right fun hd => gather_ofMembers_eq_ok hd fun _ => id

/-- A document that is an object is read as a structure of what its fields are taken to be. -/
theorem ofJson_struct_eq_ok {β : Type} {name : String} {fields : Fields β} {make : β → α}
    {parts : α → β} {note : Option String} {make_parts : ∀ a, make (parts a) = a} {a : α} :
    ofJson (.struct name fields make parts note .strict make_parts) (.obj ms) = .ok a ↔
      Distinct fields.keys (ms.map Prod.fst) ∧ ∃ b, TakesAll fields ms b ∧ make b = a := by
  change (ofJson (.record name note .strict fields) (.obj ms)).map make = .ok a ↔ _
  simp only [Except.map_eq_ok, ofJson_strict_eq_ok, and_assoc, exists_and_left]

end Documents

end Shape

end PipelinesOperator
