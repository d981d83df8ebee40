/-!
# Tables

A table gives values to finitely many keys.  Its entries stand in increasing order of the
keys, by code point, which is also the order of the keys' bytes; so two tables with the
same values are equal.
-/

namespace PipelinesOperator

/-- Entries with one key set: an entry of that key is replaced, else the new one goes to
its place in the order. -/
def Table.insertEntry {α : Type} (key : String) (value : α) :
    List (String × α) → List (String × α)
  | [] => [(key, value)]
  | entry :: rest =>
    if key < entry.1 then (key, value) :: entry :: rest
    else if key = entry.1 then (key, value) :: rest
    else entry :: insertEntry key value rest

theorem Table.mem_insertEntry {α : Type} {key : String} {value : α} {e : String × α} :
    ∀ {entries : List (String × α)}, e ∈ insertEntry key value entries →
      e = (key, value) ∨ e ∈ entries
  | [], h => by simpa [insertEntry] using h
  | entry :: rest, h => by
    simp only [insertEntry] at h
    split at h
    · simpa using h
    · split at h
      · simp only [List.mem_cons] at h ⊢
        exact h.imp_right Or.inr
      · simp only [List.mem_cons] at h ⊢
        rcases h with h | h
        · exact .inr (.inl h)
        · exact (mem_insertEntry h).imp_right Or.inr

theorem Table.pairwise_insertEntry {α : Type} (key : String) (value : α) :
    ∀ {entries : List (String × α)}, entries.Pairwise (fun a b => a.1 < b.1) →
      (insertEntry key value entries).Pairwise (fun a b => a.1 < b.1)
  | [], _ => by simp [insertEntry]
  | entry :: rest, h => by
    simp only [insertEntry]
    rw [List.pairwise_cons] at h
    split
    · rename_i hlt
      refine List.pairwise_cons.2 ⟨fun e he => ?_, List.pairwise_cons.2 h⟩
      rcases List.mem_cons.1 he with rfl | he
      · exact hlt
      · exact String.lt_trans hlt (h.1 e he)
    · split
      · rename_i heq
        exact List.pairwise_cons.2 ⟨fun e he => heq ▸ h.1 e he, h.2⟩
      · rename_i hnlt hne
        refine List.pairwise_cons.2 ⟨fun e he => ?_, pairwise_insertEntry key value h.2⟩
        rcases mem_insertEntry he with rfl | he
        · exact Std.lt_of_le_of_ne (String.not_lt.1 hnlt) (Ne.symm hne)
        · exact h.1 e he

/-- A finite assignment of values to keys. -/
structure Table (α : Type) where
  entries : List (String × α)
  sorted : entries.Pairwise (fun a b => a.1 < b.1)
  deriving DecidableEq, Repr

namespace Table

variable {α β : Type}

/-- The table with no entry. -/
def empty : Table α := ⟨[], List.Pairwise.nil⟩

instance : EmptyCollection (Table α) := ⟨empty⟩

instance : Inhabited (Table α) := ⟨empty⟩

/-- The table with one key set. -/
def insert (t : Table α) (key : String) (value : α) : Table α :=
  ⟨insertEntry key value t.entries, pairwise_insertEntry key value t.sorted⟩

/-- The value of a key. -/
def get? (t : Table α) (key : String) : Option α := t.entries.lookup key

/-- The table of a list of pairs, a later pair replacing an earlier one of its key. -/
def ofList (pairs : List (String × α)) : Table α :=
  pairs.foldl (fun t p => t.insert p.1 p.2) empty

/-- The table with each value replaced by its image. -/
def map (f : α → β) (t : Table α) : Table β :=
  ⟨t.entries.map fun e => (e.1, f e.2), List.pairwise_map.2 t.sorted⟩

/-- The keys in increasing order. -/
def keys (t : Table α) : List String := t.entries.map Prod.fst

end Table

end PipelinesOperator
