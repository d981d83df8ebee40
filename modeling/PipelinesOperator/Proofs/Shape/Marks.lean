import PipelinesOperator.Proofs.Shape.Record

/-!
# Reading does not depend on marks

What is read from a whole tree does not depend on the marks of its nodes.  Only faults tell where
they were met, so two trees that differ in their marks alone are read as the same, or not at all
both.

## Main definitions

* `Doc.Like d d'`: a whole tree, and the same one without marks
* `Manner.Ordinary`: a manner in which nothing may follow the last field of a record

## Main results

* `Doc.Like.toJson`: like trees are one document
* `Shape.read_like`: like trees are read as the same
-/

namespace PipelinesOperator

variable {μ φ : Type}

mutual

/-- A whole tree, and the same one without marks. -/
inductive Doc.Like : Doc μ φ → Doc.Plain → Prop where
  | null (m : μ) : Doc.Like (.null m) (.null ())
  | bool (m : μ) (b : Bool) : Doc.Like (.bool m b) (.bool () b)
  | num (m : μ) (n : Numeral) : Doc.Like (.num m n) (.num () n)
  | str (m : μ) (s : String) : Doc.Like (.str m s) (.str () s)
  | arr (m : μ) {items : List (Doc μ φ)} {items' : List Doc.Plain}
      (h : Doc.LikeItems items items') : Doc.Like (.arr m items none) (.arr () items' none)
  | obj (m : μ) {members : List (Key μ φ × Doc μ φ)}
      {members' : List (Key Unit Empty × Doc.Plain)} (h : Doc.LikeMembers members members') :
      Doc.Like (.obj m members none) (.obj () members' none)

/-- The items of an array, and the same ones without marks. -/
inductive Doc.LikeItems : List (Doc μ φ) → List Doc.Plain → Prop where
  | nil : Doc.LikeItems [] []
  | cons {d : Doc μ φ} {d' : Doc.Plain} {rest : List (Doc μ φ)} {rest' : List Doc.Plain}
      (h : Doc.Like d d') (hrest : Doc.LikeItems rest rest') :
      Doc.LikeItems (d :: rest) (d' :: rest')

/-- The members of an object, and the same ones without marks. -/
inductive Doc.LikeMembers :
    List (Key μ φ × Doc μ φ) → List (Key Unit Empty × Doc.Plain) → Prop where
  | nil : Doc.LikeMembers [] []
  | cons (name : String) (m : μ) {d : Doc μ φ} {d' : Doc.Plain}
      {rest : List (Key μ φ × Doc μ φ)} {rest' : List (Key Unit Empty × Doc.Plain)}
      (h : Doc.Like d d') (hrest : Doc.LikeMembers rest rest') :
      Doc.LikeMembers ((⟨name, m, none⟩, d) :: rest) ((⟨name, (), none⟩, d') :: rest')

end

/-- Nothing may follow the last field of a record, unless nothing does. -/
def Manner.Ordinary (manner : Manner μ φ) : Prop :=
  ∀ size mark items, manner.surplus size mark items none = none ↔ items = []

theorem Manner.ordinary_document : Manner.document.Ordinary := by
  intro size mark items
  cases items with
  | nil => simp [Manner.document]
  | cons d ds => simp [Manner.document]

/-! ## The document of a tree -/

mutual

theorem Doc.Like.toJson {d : Doc μ φ} {d' : Doc.Plain} (h : d.Like d') (j : Json) :
    d.toJson = .ok j ↔ d'.toJson = .ok j := by
  cases h with
  | null m => simp [Doc.toJson]
  | bool m b => simp [Doc.toJson]
  | num m n => simp [Doc.toJson]
  | str m s => simp [Doc.toJson]
  | arr m h => simp [Doc.toJson, Except.bind_eq_ok, h.toItems]
  | obj m h => simp [Doc.toJson, Except.bind_eq_ok, h.toMembers]

theorem Doc.LikeItems.toItems {items : List (Doc μ φ)} {items' : List Doc.Plain}
    (h : Doc.LikeItems items items') (js : List Json) :
    Doc.toItems items = .ok js ↔ Doc.toItems items' = .ok js := by
  cases h with
  | nil => simp [Doc.toItems]
  | cons h hrest => simp [Doc.toItems, Except.bind_eq_ok, h.toJson, hrest.toItems]

theorem Doc.LikeMembers.toMembers {members : List (Key μ φ × Doc μ φ)}
    {members' : List (Key Unit Empty × Doc.Plain)} (h : Doc.LikeMembers members members')
    (js : List (String × Json)) :
    Doc.toMembers members = .ok js ↔ Doc.toMembers members' = .ok js := by
  cases h with
  | nil => simp [Doc.toMembers]
  | cons name m h hrest => simp [Doc.toMembers, Except.bind_eq_ok, h.toJson, hrest.toMembers]

end

/-! ## Reading -/

namespace Shape

variable {α : Type} {manner : Manner μ φ}

theorem readWhole_like {name : String} {least greatest : Int} {d : Doc μ φ} {d' : Doc.Plain}
    (h : d.Like d') (n : Int) :
    readWhole name least greatest d = .ok n ↔ readWhole name least greatest d' = .ok n := by
  cases h with
  | num m numeral =>
    cases numeral with
    | unsigned k => simp only [readWhole]; split <;> simp
    | signed k => simp only [readWhole]; split <;> simp
    | _ => simp [readWhole]
  | _ => simp [readWhole]

theorem lookup_like (key : String) {members : List (Key μ φ × Doc μ φ)}
    {members' : List (Key Unit Empty × Doc.Plain)} (h : Doc.LikeMembers members members') :
    (lookup key members = none ∧ lookup key members' = none) ∨
    ∃ d d', lookup key members = some d ∧ lookup key members' = some d' ∧ d.Like d' := by
  induction members generalizing members' with
  | nil =>
    cases h
    exact .inl ⟨rfl, rfl⟩
  | cons m ms ih =>
    cases h with
    | @cons name mark d d' rest rest' h hrest =>
      rw [lookup, lookup]
      rcases ih hrest with ⟨hnone, hnone'⟩ | ⟨d₁, d₁', hsome, hsome', hlike⟩
      · rw [hnone, hnone', Option.none_or, Option.none_or]
        by_cases hk : name = key
        · exact .inr ⟨d, d', if_pos hk, if_pos hk, h⟩
        · exact .inl ⟨if_neg hk, if_neg hk⟩
      · rw [hsome, hsome']
        exact .inr ⟨d₁, d₁', rfl, rfl, hlike⟩

theorem readItems_like {read : Doc μ φ → Except (Fault μ φ) α}
    {read' : Doc.Plain → Except (Fault Unit Empty) α}
    (hread : ∀ d d', d.Like d' → ∀ a, read d = .ok a ↔ read' d' = .ok a) (i : Nat)
    {items : List (Doc μ φ)} {items' : List Doc.Plain} (h : Doc.LikeItems items items')
    (as : List α) : readItems read i items = .ok as ↔ readItems read' i items' = .ok as := by
  induction items generalizing items' i as with
  | nil =>
    cases h
    simp [readItems]
  | cons d ds ih =>
    cases h with
    | cons h hrest =>
      simp only [readItems, Except.bind_eq_ok, Except.mapError_eq_ok, hread _ _ h, ih _ hrest,
        Except.ok.injEq]

theorem readMembers_like {read : Doc μ φ → Except (Fault μ φ) α}
    {read' : Doc.Plain → Except (Fault Unit Empty) α}
    (hread : ∀ d d', d.Like d' → ∀ a, read d = .ok a ↔ read' d' = .ok a)
    {members : List (Key μ φ × Doc μ φ)} {members' : List (Key Unit Empty × Doc.Plain)}
    (h : Doc.LikeMembers members members') (as : List (String × α)) :
    readMembers read members = .ok as ↔ readMembers read' members' = .ok as := by
  induction members generalizing members' as with
  | nil =>
    cases h
    simp [readMembers]
  | cons m ms ih =>
    cases h with
    | cons name mark h hrest =>
      simp only [readMembers, Except.bind_eq_ok, Except.mapError_eq_ok, hread _ _ h, ih hrest,
        Except.ok.injEq]

theorem tryMembers_like {strictness : Strictness} {keys : List String}
    {attempt : String → Doc μ φ → Except (Fault μ φ) Unit}
    {attempt' : String → Doc.Plain → Except (Fault Unit Empty) Unit}
    (hattempt : ∀ key d d', d.Like d' → (attempt key d = .ok () ↔ attempt' key d' = .ok ()))
    {members : List (Key μ φ × Doc μ φ)} {members' : List (Key Unit Empty × Doc.Plain)}
    (h : Doc.LikeMembers members members') (seen : List String) :
    tryMembers strictness keys attempt seen members = .ok () ↔
      tryMembers strictness keys attempt' seen members' = .ok () := by
  induction members generalizing members' seen with
  | nil =>
    cases h
    simp [tryMembers]
  | cons m ms ih =>
    cases h with
    | cons name mark h hrest =>
      rw [tryMembers, tryMembers]
      split
      · split
        · simp
        · simp only [Except.bind_eq_ok, Except.mapError_eq_ok, hattempt _ _ _ h, ih hrest]
      · exact ih hrest seen

/-- What is said of the fields of a record: like members are taken to be the same, like values are
tried alike, and like items are placed alike. -/
structure FieldsLike (manner : Manner μ φ) (fields : Fields α) : Prop where
  gather : ∀ mark members members', Doc.LikeMembers members members' → ∀ a,
    Shape.gather manner mark fields members = .ok a ↔
      Shape.gather .document () fields members' = .ok a
  readField : ∀ key d d', d.Like d' →
    (Shape.readField manner fields key d = .ok () ↔
      Shape.readField .document fields key d' = .ok ())
  place : ∀ name size mark i items items', Doc.LikeItems items items' → ∀ a,
    Shape.place manner name size mark fields i items none = .ok a ↔
      Shape.place .document name size () fields i items' none = .ok a

theorem fieldsLike_nil (hm : manner.Ordinary) : FieldsLike manner .nil := by
  refine ⟨fun mark members members' h a => ?_, fun key d d' h => ?_,
    fun name size mark i items items' h a => ?_⟩
  · simp [Shape.gather]
  · simp [Shape.readField]
  · rw [Shape.place, Shape.place]
    cases h with
    | nil => simp [(hm _ _ _).mpr rfl, (Manner.ordinary_document _ _ _).mpr rfl]
    | @cons d d' ds ds' h hrest =>
      cases hs : manner.surplus i mark (d :: ds) none with
      | none => cases (hm i mark (d :: ds)).mp hs
      | some f => simp [Manner.document]

theorem fieldsLike_cons {β : Type} {field : Field α} {shape : Shape α} {rest : Fields β}
    (ih : ∀ d d', d.Like d' → ∀ a,
      read manner shape d = .ok a ↔ read .document shape d' = .ok a)
    (ihrest : FieldsLike manner rest) : FieldsLike manner (.cons field shape rest) := by
  refine ⟨fun mark members members' h a => ?_, fun key d d' h => ?_,
    fun name size mark i items items' h a => ?_⟩
  · obtain ⟨a, b⟩ := a
    rw [gather_cons_eq_ok, gather_cons_eq_ok, ihrest.gather mark members members' h]
    rcases lookup_like field.key h with ⟨hnone, hnone'⟩ | ⟨d, d', hsome, hsome', hlike⟩
    · rw [hnone, hnone']
      simp
    · rw [hsome, hsome']
      simp [ih _ _ hlike]
  · rw [Shape.readField, Shape.readField]
    split
    · simp only [Except.map_eq_ok, ih _ _ h]
    · exact ihrest.readField key d d' h
  · cases h with
    | nil =>
      simp only [Shape.place]
      cases field.short with
      | none => simp only [Except.bind_eq_ok, reduceCtorEq, false_and, exists_false]
      | some b =>
        simp only [Except.bind_eq_ok, Except.ok.injEq, exists_eq_left',
          ihrest.place name size mark (i + 1) [] [] .nil]
    | cons h hrest =>
      have hplace := ihrest.place name size mark (i + 1) _ _ hrest
      simp only [Shape.place, Except.bind_eq_ok, Except.map_eq_ok, Except.mapError_eq_ok, ih _ _ h,
        Except.ok.injEq]
      constructor
      · rintro ⟨_, ⟨b, hb, rfl⟩, c, hc, rfl⟩
        exact ⟨_, ⟨b, hb, rfl⟩, c, (hplace c).mp hc, rfl⟩
      · rintro ⟨_, ⟨b, hb, rfl⟩, c, hc, rfl⟩
        exact ⟨_, ⟨b, hb, rfl⟩, c, (hplace c).mpr hc, rfl⟩

/-- Like trees are read as the same.  The induction is on the shape, with what is said of fields as
the second motive. -/
theorem read_like (hm : manner.Ordinary) (shape : Shape α) {d : Doc μ φ} {d' : Doc.Plain}
    (h : d.Like d') (a : α) : read manner shape d = .ok a ↔ read .document shape d' = .ok a := by
  induction shape using Shape.rec (motive_2 := fun _ fields => FieldsLike manner fields)
    generalizing d d' with
  | text | flag => cases h <;> simp [read]
  | int32 | int64 | nat16 | nat64 => simp only [read, Except.map_eq_ok, readWhole_like h]
  | quantity =>
    cases h with
    | num m n => cases n <;> simp [read]
    | _ => simp [read]
  | timestamp | bytes | constant | word =>
    cases h with
    | str m s =>
      simp only [read]
      split <;> simp
    | _ => simp [read]
  | document =>
    simp only [read]
    have hj := h.toJson
    cases hd : d.toJson with
    | ok j => simp [(hj j).mp hd]
    | error f =>
      cases hd' : d'.toJson with
      | ok j => simp [(hj j).mpr hd'] at hd
      | error f' => simp
  | optional shape ih =>
    cases h with
    | null m => simp [read]
    | bool m b => simp only [read, Except.map_eq_ok, ih (.bool m b)]
    | num m n => simp only [read, Except.map_eq_ok, ih (.num m n)]
    | str m s => simp only [read, Except.map_eq_ok, ih (.str m s)]
    | arr m h => simp only [read, Except.map_eq_ok, ih (.arr m h)]
    | obj m h => simp only [read, Except.map_eq_ok, ih (.obj m h)]
  | orNull value shape ih =>
    cases h with
    | null m => simp [read]
    | bool m b => simp only [read, ih (.bool m b)]
    | num m n => simp only [read, ih (.num m n)]
    | str m s => simp only [read, ih (.str m s)]
    | arr m h => simp only [read, ih (.arr m h)]
    | obj m h => simp only [read, ih (.obj m h)]
  | list shape ih =>
    cases h with
    | arr m h =>
      simp only [read, Except.bind_eq_ok, readItems_like (fun _ _ h => ih h) 0 h, Doc.unbroken]
      simp
    | _ => simp [read]
  | table shape ih =>
    cases h with
    | obj m h =>
      simp only [read, Except.bind_eq_ok, readMembers_like (fun _ _ h => ih h) h, Doc.unbroken]
      simp
    | _ => simp [read]
  | either first left second right ihl ihr =>
    cases h with
    | str m s =>
      simp only [read]
      split <;> simp
    | obj m h =>
      cases h with
      | nil => simp [read]
      | cons name mark h hrest =>
        cases hrest with
        | nil =>
          simp only [read]
          split
          · simp only [Except.mapError_eq_ok, Except.map_eq_ok, ihl h]
          · split
            · simp only [Except.mapError_eq_ok, Except.map_eq_ok, ihr h]
            · simp
        | cons name' mark' h' hrest' => simp [read]
    | _ => simp [read]
  | record name note strictness fields ih =>
    cases h with
    | obj m h =>
      simp only [read, Except.bind_eq_ok, Doc.unbroken, tryMembers_like ih.readField h [],
        ih.gather m _ _ h]
    | arr m h =>
      cases strictness with
      | strict => simp only [read, ih.place name _ m 0 _ _ h]
      | lenient => simp [read]
    | _ => cases strictness <;> simp [read]
  | view shape make parts h' ih => simp only [read, Except.map_eq_ok, ih h]
  | nil => exact fieldsLike_nil hm
  | cons field shape rest ih ihrest => exact fieldsLike_cons (fun _ _ h => ih h) ihrest

end Shape

end PipelinesOperator
