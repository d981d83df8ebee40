import PipelinesOperator.Proofs.Json.Canonical
import PipelinesOperator.Proofs.JsonText.Escape

/-!
# Documents with one frame

The frame of a document is what remains when every text in it is emptied, its keys apart.  Two
documents with one frame differ in texts alone, and these can be told from the compact text: it
determines both documents.  The canonical form of a document has the canonical form of its frame.

## Main definitions

* `Json.frame`: the document with every text emptied
* `Json.at?`: the document behind a path of keys

## Main results

* `legible`: a text that starts with a document of known frame determines the document
* `canonicalText_inj`: documents with one frame have one text only if they are the same
* `frame_canonical`: the frame of the canonical form
* `at?_canonical`: what lies where in the canonical form
-/

namespace PipelinesOperator

namespace Json

mutual

/-- The document with every text in it emptied, the keys apart. -/
def frame : Json → Json
  | .null => .null
  | .bool b => .bool b
  | .num n => .num n
  | .str _ => .str ""
  | .arr items => .arr (frameItems items)
  | .obj members => .obj (frameMembers members)

/-- The frames of the items of an array. -/
def frameItems : List Json → List Json
  | [] => []
  | j :: js => frame j :: frameItems js

/-- The members of an object with the frames of their values. -/
def frameMembers : List (String × Json) → List (String × Json)
  | [] => []
  | m :: ms => (m.1, frame m.2) :: frameMembers ms

end

/-! ## The text of documents with one frame -/

/-- A text that starts with either of two documents determines the document and what follows it,
if the two have one frame. -/
def Legible (j : Json) : Prop := ∀ ⦃j' : Json⦄ ⦃r r' : List Char⦄, j.frame = j'.frame →
  j.compact ++ r = j'.compact ++ r' → j = j' ∧ r = r'

theorem compactItems_append_inj {items items' : List Json} {r r' : List Char}
    (legible : ∀ j ∈ items, Legible j) (hf : frameItems items = frameItems items')
    (h : compactItems items ++ r = compactItems items' ++ r') : items = items' ∧ r = r' := by
  induction items generalizing items' with
  | nil =>
    cases items' with
    | nil => exact ⟨rfl, List.append_cancel_left h⟩
    | cons j' js' => cases hf
  | cons j js ih =>
    cases items' with
    | nil => cases hf
    | cons j' js' =>
      obtain ⟨hj, hjs⟩ := List.cons.inj hf
      simp only [compactItems, List.cons_append, List.append_assoc, List.cons.injEq,
        true_and] at h
      obtain ⟨rfl, hrest⟩ := legible j List.mem_cons_self hj h
      obtain ⟨rfl, rfl⟩ := ih (fun i hi => legible i (List.mem_cons_of_mem j hi)) hjs hrest
      exact ⟨rfl, rfl⟩

/-- A member determines itself and what follows it. -/
theorem compactMember_append_inj {m m' : String × Json} {r r' : List Char}
    (legible : Legible m.2) (hf : m.2.frame = m'.2.frame)
    (h : compactString m.1 ++ ':' :: (m.2.compact ++ r) =
      compactString m'.1 ++ ':' :: (m'.2.compact ++ r')) : m = m' ∧ r = r' := by
  obtain ⟨hkey, hvalue⟩ := compactString_append_inj h
  obtain ⟨heq, rfl⟩ := legible hf (List.cons.inj hvalue).2
  exact ⟨Prod.ext hkey heq, rfl⟩

theorem compactMembers_append_inj {members members' : List (String × Json)} {r r' : List Char}
    (legible : ∀ m ∈ members, Legible m.2) (hf : frameMembers members = frameMembers members')
    (h : compactMembers members ++ r = compactMembers members' ++ r') :
    members = members' ∧ r = r' := by
  induction members generalizing members' with
  | nil =>
    cases members' with
    | nil => exact ⟨rfl, List.append_cancel_left h⟩
    | cons m' ms' => cases hf
  | cons m ms ih =>
    cases members' with
    | nil => cases hf
    | cons m' ms' =>
      obtain ⟨hm, hms⟩ := List.cons.inj hf
      simp only [compactMembers, List.cons_append, List.append_assoc, List.cons.injEq,
        true_and] at h
      obtain ⟨rfl, hrest⟩ :=
        compactMember_append_inj (legible m List.mem_cons_self) (Prod.mk.inj hm).2 h
      obtain ⟨rfl, rfl⟩ := ih (fun i hi => legible i (List.mem_cons_of_mem m hi)) hms hrest
      exact ⟨rfl, rfl⟩

/-- Of two documents with one frame, a text that starts with either determines the document and
what follows it. -/
theorem legible (j : Json) : Legible j := by
  induction j using Json.induction with
  | null =>
    intro j' r r' hf h
    cases j' with
    | null => exact ⟨rfl, List.append_cancel_left h⟩
    | _ => simp [frame] at hf
  | bool b =>
    intro j' r r' hf h
    cases j' with
    | bool b' =>
      obtain rfl : b = b' := by simpa [frame] using hf
      exact ⟨rfl, List.append_cancel_left h⟩
    | _ => simp [frame] at hf
  | num n =>
    intro j' r r' hf h
    cases j' with
    | num n' =>
      obtain rfl : n = n' := by simpa [frame] using hf
      exact ⟨rfl, List.append_cancel_left h⟩
    | _ => simp [frame] at hf
  | str s =>
    intro j' r r' hf h
    cases j' with
    | str s' =>
      obtain ⟨rfl, rfl⟩ := compactString_append_inj h
      exact ⟨rfl, rfl⟩
    | _ => simp [frame] at hf
  | arr items ih =>
    intro j' r r' hf h
    cases j' with
    | arr items' =>
      have hf : frameItems items = frameItems items' := by simpa [frame] using hf
      cases items with
      | nil =>
        cases items' with
        | nil => exact ⟨rfl, List.append_cancel_left h⟩
        | cons j' js' => cases hf
      | cons j js =>
        cases items' with
        | nil => cases hf
        | cons j' js' =>
          have h' : compactItems (j :: js) ++ r = compactItems (j' :: js') ++ r' := by
            simpa only [compact, compactItems, List.cons_append, List.cons.injEq,
              true_and] using h
          obtain ⟨heq, rfl⟩ := compactItems_append_inj ih hf h'
          exact ⟨congrArg Json.arr heq, rfl⟩
    | _ => simp [frame] at hf
  | obj members ih =>
    intro j' r r' hf h
    cases j' with
    | obj members' =>
      have hf : frameMembers members = frameMembers members' := by simpa [frame] using hf
      cases members with
      | nil =>
        cases members' with
        | nil => exact ⟨rfl, List.append_cancel_left h⟩
        | cons m' ms' => cases hf
      | cons m ms =>
        cases members' with
        | nil => cases hf
        | cons m' ms' =>
          have h' : compactMembers (m :: ms) ++ r = compactMembers (m' :: ms') ++ r' := by
            simpa only [compact, compactMembers, List.cons_append, List.cons.injEq,
              true_and] using h
          obtain ⟨heq, rfl⟩ := compactMembers_append_inj ih hf h'
          exact ⟨congrArg Json.obj heq, rfl⟩
    | _ => simp [frame] at hf

/-! ## The canonical form -/

theorem frameItems_eq_map (items : List Json) : frameItems items = items.map frame := by
  induction items with
  | nil => rfl
  | cons j js ih => rw [frameItems, ih, List.map_cons]

theorem frameMembers_eq_map (members : List (String × Json)) :
    frameMembers members = members.map fun m => (m.1, m.2.frame) := by
  induction members with
  | nil => rfl
  | cons m ms ih => rw [frameMembers, ih, List.map_cons]

/-- The frame of the canonical form is the canonical form of the frame.  Framing touches values
alone, and sorting goes by the keys. -/
theorem frame_canonical (j : Json) : j.canonical.frame = j.frame.canonical := by
  induction j using Json.induction with
  | arr items ih =>
    rw [canonical, frame, frame, canonical, frameItems_eq_map, frameItems_eq_map,
      canonicalItems_eq_map, canonicalItems_eq_map, List.map_map, List.map_map]
    exact congrArg Json.arr (List.map_congr_left ih)
  | obj members ih =>
    rw [canonical, frame, frame, canonical, frameMembers_eq_map, frameMembers_eq_map,
      canonicalMembers_eq_map, canonicalMembers_eq_map, List.map_map]
    have hmap : (members.map ((fun m => (m.1, m.2.canonical)) ∘ fun m => (m.1, m.2.frame))) =
        (members.map fun m => (m.1, m.2.canonical)).map fun m => (m.1, m.2.frame) := by
      rw [List.map_map]
      exact List.map_congr_left fun m hm => Prod.ext rfl (ih m hm).symm
    rw [hmap, Table.ofList_map frame]
    rfl
  | null => rfl
  | bool b => rfl
  | num n => rfl
  | str s => rfl

/-- Documents with one frame have one canonical text exactly when they have one canonical form. -/
theorem canonicalText_inj {j j' : Json} (h : j.frame = j'.frame) :
    j.canonicalText = j'.canonicalText ↔ j.canonical = j'.canonical := by
  constructor
  · intro ht
    have hf : j.canonical.frame = j'.canonical.frame := by
      rw [frame_canonical, frame_canonical, h]
    have hc : j.canonical.compact = j'.canonical.compact := String.ofList_inj.mp ht
    exact (legible _ hf (congrArg (· ++ []) hc)).1
  · intro hc
    rw [canonicalText, canonicalText, hc]

/-- The document behind a path of keys. -/
def at? (j : Json) (path : List String) : Option Json := path.foldlM get? j

theorem at?_cons (j : Json) (key : String) (path : List String) :
    j.at? (key :: path) = (j.get? key).bind fun j' => j'.at? path := List.foldlM_cons

theorem at?_append (j : Json) (path : List String) (key : String) :
    j.at? (path ++ [key]) = (j.at? path).bind fun j' => j'.get? key := by
  rw [at?, List.foldlM_append]
  simp [at?]

/-- What lies behind a path in the canonical form is the canonical form of what lies there. -/
theorem at?_canonical (j : Json) (path : List String) :
    j.canonical.at? path = (j.at? path).map canonical := by
  induction path generalizing j with
  | nil => rfl
  | cons key path ih =>
    rw [at?_cons, at?_cons, get?_canonical]
    cases j.get? key with
    | none => rfl
    | some j' => exact ih j'

end Json

end PipelinesOperator
