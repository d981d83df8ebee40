import PipelinesOperator.Table

/-!
# Looking up in tables

What a key has in a table with another key set, and in the list of entries with one value put
in the place of another.  Of a list of pairs a table has the last value of each key.

## Main definitions

* `Distinct keys names`: none of the keys is twice among the names

## Main results

* `Table.get?_insert`: the value of a key after one key was set
* `Table.get?_ofList`: the value of a key in the table of a list
* `Table.ext_get?`: a table is told by the values of its keys
* `Table.ofList_entries`: a table is that of its entries
* `Table.ofList_map`: the table of a list with its values replaced by their images
* `lookup_map_replace`: a list of entries in which every entry of a key is replaced
* `lookup_replace_or_append`: a list of entries with a key set
* `lookup_reverse`: the order does not matter for a key that is there once at most
-/

namespace PipelinesOperator

/-- None of the keys is twice among the names. -/
def Distinct {α : Type} (keys names : List α) : Prop :=
  names.Pairwise fun name name' => name ∈ keys → name ≠ name'

instance {α : Type} [DecidableEq α] (keys names : List α) : Decidable (Distinct keys names) :=
  inferInstanceAs (Decidable (List.Pairwise _ names))

/-- Where no name is twice at all, none of the keys is. -/
theorem distinct_of_nodup {α : Type} {names : List α} (h : names.Nodup) (keys : List α) :
    Distinct keys names := by
  refine h.imp ?_
  intro name name' hne _
  exact hne

section Entries

variable {α β γ : Type} [BEq α] [LawfulBEq α] [DecidableEq α]

theorem lookup_cons_eq_ite (k key : α) (value : β) (entries : List (α × β)) :
    ((key, value) :: entries).lookup k = if k = key then some value else entries.lookup k := by
  by_cases hk : k = key
  · simp [hk]
  · rw [List.lookup_cons, beq_eq_false_iff_ne.mpr hk, if_neg hk]

/-- The value of a key is that of the first entry with the key. -/
theorem find?_eq_lookup (k : α) (entries : List (α × β)) :
    (entries.find? fun e => e.1 == k).map Prod.snd = entries.lookup k := by
  induction entries with
  | nil => rfl
  | cons e entries ih =>
    obtain ⟨key, value⟩ := e
    rw [lookup_cons_eq_ite, List.find?_cons, ← ih]
    by_cases hk : k = key
    · simp [hk]
    · simp [hk, beq_eq_false_iff_ne.mpr (Ne.symm hk)]

/-- It does not matter how keys are compared. -/
theorem lookup_decEq (k : α) (entries : List (α × β)) :
    @List.lookup α β instBEqOfDecidableEq k entries = entries.lookup k := by
  induction entries with
  | nil => rfl
  | cons e entries ih =>
    obtain ⟨key, value⟩ := e
    refine (@lookup_cons_eq_ite α β instBEqOfDecidableEq _ _ k key value entries).trans ?_
    rw [ih, lookup_cons_eq_ite]

/-- Every entry of a key gets one value, and the others keep theirs. -/
theorem lookup_map_replace (key k : α) (value : β) (entries : List (α × β)) :
    (entries.map fun e => if e.1 = key then (e.1, value) else e).lookup k =
      if k = key then (entries.lookup k).map fun _ => value else entries.lookup k := by
  induction entries with
  | nil => simp
  | cons e entries ih =>
    obtain ⟨key', value'⟩ := e
    rw [List.map_cons, lookup_cons_eq_ite]
    by_cases he : key' = key
    · rw [if_pos he, lookup_cons_eq_ite, ih, he]
      by_cases hk : k = key
      · simp [hk]
      · simp [hk]
    · rw [if_neg he, lookup_cons_eq_ite, ih]
      by_cases hk : k = key'
      · simp [hk, he]
      · simp [hk]

/-- A key is set by replacing its entries where they stand, or by a new entry at the end. -/
theorem lookup_replace_or_append (key k : α) (value : β) (entries : List (α × β)) :
    (if (entries.lookup key).isSome then
        entries.map fun e => if e.1 = key then (e.1, value) else e
      else entries ++ [(key, value)]).lookup k =
      if k = key then some value else entries.lookup k := by
  cases hkey : entries.lookup key with
  | some old =>
    rw [Option.isSome_some, if_pos rfl, lookup_map_replace]
    by_cases hk : k = key
    · rw [if_pos hk, if_pos hk, hk, hkey]
      rfl
    · rw [if_neg hk, if_neg hk]
  | none =>
    rw [Option.isSome_none, if_neg Bool.false_ne_true, List.lookup_append, lookup_cons_eq_ite]
    by_cases hk : k = key
    · rw [if_pos hk, if_pos hk, hk, hkey]
      rfl
    · rw [if_neg hk, if_neg hk]
      exact Option.or_none

theorem lookup_map_snd (k : α) (f : β → γ) (entries : List (α × β)) :
    (entries.map fun e => (e.1, f e.2)).lookup k = (entries.lookup k).map f := by
  induction entries with
  | nil => rfl
  | cons e entries ih =>
    obtain ⟨key, value⟩ := e
    rw [List.map_cons, lookup_cons_eq_ite, lookup_cons_eq_ite, ih]
    by_cases hk : k = key
    · rw [if_pos hk, if_pos hk]
      rfl
    · rw [if_neg hk, if_neg hk]

omit [DecidableEq α] in
/-- What is found under a key is an entry. -/
theorem mem_of_lookup_eq_some {k : α} {value : β} {entries : List (α × β)}
    (h : entries.lookup k = some value) : (k, value) ∈ entries := by
  obtain ⟨before, rest, rfl, -⟩ := List.lookup_eq_some_iff.mp h
  exact List.mem_append_right before List.mem_cons_self

omit [DecidableEq α] in
/-- Under the key of an entry something is found. -/
theorem exists_lookup_of_mem {k : α} {value : β} {entries : List (α × β)}
    (h : (k, value) ∈ entries) : ∃ value', entries.lookup k = some value' := by
  refine Option.ne_none_iff_exists'.mp fun hnone => ?_
  exact absurd rfl (bne_iff_ne.mp (List.lookup_eq_none_iff.mp hnone _ h))

/-- If no key is there twice, every entry is found under its key. -/
theorem lookup_eq_some_iff_mem {k : α} {value : β} {entries : List (α × β)}
    (h : (entries.map Prod.fst).Nodup) : entries.lookup k = some value ↔ (k, value) ∈ entries := by
  refine ⟨mem_of_lookup_eq_some, fun hmem => ?_⟩
  induction entries with
  | nil => exact absurd hmem List.not_mem_nil
  | cons e entries ih =>
    obtain ⟨key, value'⟩ := e
    obtain ⟨hkey, hrest⟩ := List.nodup_cons.mp h
    rw [lookup_cons_eq_ite]
    rcases List.mem_cons.mp hmem with heq | hlater
    · obtain ⟨rfl, rfl⟩ := Prod.mk.inj heq
      exact if_pos rfl
    · have hne : k ≠ key := by
        rintro rfl
        exact hkey (List.mem_map.mpr ⟨_, hlater, rfl⟩)
      rw [if_neg hne]
      exact ih hrest hlater

/-- Of a key that is among the entries once at most, it does not matter from which end it is
sought. -/
theorem lookup_reverse {entries : List (α × β)} {keys : List α}
    (h : Distinct keys (entries.map Prod.fst)) {k : α} (hk : k ∈ keys) :
    entries.reverse.lookup k = entries.lookup k := by
  induction entries with
  | nil => rfl
  | cons e entries ih =>
    obtain ⟨key, value⟩ := e
    obtain ⟨hkey, hrest⟩ := List.pairwise_cons.mp h
    rw [List.reverse_cons, List.lookup_append, ih hrest, lookup_cons_eq_ite, lookup_cons_eq_ite]
    by_cases he : k = key
    · have hnone : entries.lookup k = none := by
        refine List.lookup_eq_none_iff.mpr fun e' he' => ?_
        exact bne_iff_ne.mpr (he ▸ hkey _ (List.mem_map_of_mem he') (he ▸ hk))
      rw [hnone, if_pos he, if_pos he]
      rfl
    · rw [if_neg he, if_neg he]
      exact Option.or_none

end Entries

namespace Table

variable {α β : Type}

theorem lookup_insertEntry (key k : String) (value : α) (entries : List (String × α)) :
    (insertEntry key value entries).lookup k =
      if k = key then some value else entries.lookup k := by
  induction entries with
  | nil => rw [insertEntry, lookup_cons_eq_ite]
  | cons e entries ih =>
    obtain ⟨key', value'⟩ := e
    rw [insertEntry]
    split
    · rw [lookup_cons_eq_ite]
    · split
      · rename_i he
        obtain rfl : key = key' := he
        rw [lookup_cons_eq_ite, lookup_cons_eq_ite]
        by_cases hk : k = key
        · rw [if_pos hk, if_pos hk]
        · rw [if_neg hk, if_neg hk, if_neg hk]
      · rename_i he
        have he : key ≠ key' := he
        rw [lookup_cons_eq_ite, lookup_cons_eq_ite, ih]
        by_cases hk : k = key'
        · rw [if_pos hk, if_pos hk, if_neg (hk ▸ he.symm)]
        · rw [if_neg hk, if_neg hk]

@[simp] theorem get?_empty (k : String) : (∅ : Table α).get? k = none := rfl

/-- A key that was set has its new value, and every other key the value it had. -/
theorem get?_insert (t : Table α) (key k : String) (value : α) :
    (t.insert key value).get? k = if k = key then some value else t.get? k :=
  lookup_insertEntry key k value t.entries

/-- A table has no key twice. -/
theorem nodup_keys (t : Table α) : (t.entries.map Prod.fst).Nodup :=
  List.pairwise_map.mpr (t.sorted.imp Std.ne_of_lt)

theorem distinct_keys (t : Table α) (keys : List String) :
    Distinct keys (t.entries.map Prod.fst) :=
  distinct_of_nodup t.nodup_keys keys

/-- The keys of a table are those that have a value. -/
theorem mem_keys_iff {t : Table α} {key : String} :
    key ∈ t.keys ↔ ∃ value, t.get? key = some value := by
  constructor
  · intro h
    obtain ⟨⟨key, value⟩, hmem, rfl⟩ := List.mem_map.mp h
    exact exists_lookup_of_mem hmem
  · rintro ⟨value, h⟩
    exact List.mem_map_of_mem (mem_of_lookup_eq_some h)

theorem get?_foldl_insert (t : Table α) (pairs : List (String × α)) (k : String) :
    (pairs.foldl (fun t p => t.insert p.1 p.2) t).get? k =
      (pairs.reverse.lookup k).or (t.get? k) := by
  induction pairs generalizing t with
  | nil => rfl
  | cons p pairs ih =>
    rw [List.foldl_cons, ih, get?_insert, List.reverse_cons, List.lookup_append,
      lookup_cons_eq_ite, Option.or_assoc]
    by_cases hk : k = p.1
    · rw [if_pos hk, if_pos hk]
      rfl
    · rw [if_neg hk, if_neg hk]
      rfl

theorem mem_foldl_insert {t : Table α} {pairs : List (String × α)} {e : String × α}
    (he : e ∈ (pairs.foldl (fun t p => t.insert p.1 p.2) t).entries) :
    e ∈ t.entries ∨ e ∈ pairs := by
  induction pairs generalizing t with
  | nil => exact .inl he
  | cons p pairs ih =>
    rcases ih he with he | he
    · rcases mem_insertEntry he with rfl | he
      · exact .inr List.mem_cons_self
      · exact .inl he
    · exact .inr (List.mem_cons_of_mem p he)

/-- What is in the table of a list of pairs is one of the pairs. -/
theorem mem_of_mem_ofList {pairs : List (String × α)} {e : String × α}
    (he : e ∈ (ofList pairs).entries) : e ∈ pairs := by
  rcases mem_foldl_insert he with he | he
  · cases he
  · exact he

/-- The table of a list of pairs has the last value that the list gives a key. -/
theorem get?_ofList (pairs : List (String × α)) (k : String) :
    (ofList pairs).get? k = pairs.reverse.lookup k := by
  rw [ofList, get?_foldl_insert]
  exact Option.or_none

theorem insertEntry_map (f : α → β) (key : String) (value : α) (entries : List (String × α)) :
    insertEntry key (f value) (entries.map fun e => (e.1, f e.2)) =
      (insertEntry key value entries).map fun e => (e.1, f e.2) := by
  induction entries with
  | nil => rfl
  | cons e entries ih =>
    rw [List.map_cons, insertEntry, insertEntry, ih]
    split
    · rfl
    · split
      · rfl
      · rfl

theorem map_insert (f : α → β) (t : Table α) (key : String) (value : α) :
    (t.insert key value).map f = (t.map f).insert key (f value) := by
  simp only [map, insert, insertEntry_map]

/-- An entry behind all others is set at the end. -/
theorem insertEntry_of_lt {key : String} (value : α) {entries : List (String × α)}
    (h : ∀ e ∈ entries, e.1 < key) :
    insertEntry key value entries = entries ++ [(key, value)] := by
  induction entries with
  | nil => rfl
  | cons e entries ih =>
    obtain ⟨he, hrest⟩ := List.forall_mem_cons.mp h
    rw [insertEntry, if_neg (Std.not_gt_of_lt he), if_neg (Std.ne_of_lt he).symm, ih hrest]
    rfl

/-- Entries in increasing order are set one behind the other. -/
theorem entries_foldl_insert (t : Table α) {pairs : List (String × α)}
    (h : (t.entries ++ pairs).Pairwise fun e e' => e.1 < e'.1) :
    (pairs.foldl (fun t p => t.insert p.1 p.2) t).entries = t.entries ++ pairs := by
  induction pairs generalizing t with
  | nil => exact (List.append_nil _).symm
  | cons p pairs ih =>
    have hinsert : (t.insert p.1 p.2).entries = t.entries ++ [p] :=
      insertEntry_of_lt p.2 fun e he => (List.pairwise_append.mp h).2.2 e he p List.mem_cons_self
    rw [List.foldl_cons, ih, hinsert, List.append_assoc]
    · rfl
    · rwa [hinsert, List.append_assoc]

@[ext] theorem ext {t t' : Table α} (h : t.entries = t'.entries) : t = t' := by
  cases t
  cases t'
  cases h
  rfl

/-- A table is told by the values of its keys. -/
theorem ext_get? {t t' : Table α} (h : ∀ key, t.get? key = t'.get? key) : t = t' := by
  have hmem (e : String × α) : e ∈ t.entries ↔ e ∈ t'.entries := by
    rw [← lookup_eq_some_iff_mem t.nodup_keys, ← lookup_eq_some_iff_mem t'.nodup_keys]
    exact Iff.of_eq (congrArg (· = some e.2) (h e.1))
  have hnodup (t : Table α) : t.entries.Nodup :=
    List.Pairwise.of_map Prod.fst (fun _ _ hne heq => hne (congrArg Prod.fst heq)) t.nodup_keys
  have hperm : t.entries.Perm t'.entries :=
    (List.perm_ext_iff_of_nodup (hnodup t) (hnodup t')).mpr hmem
  refine ext (hperm.eq_of_pairwise ?_ t.sorted t'.sorted)
  intro e e' _ _ hlt hgt
  exact absurd hlt (Std.not_gt_of_lt hgt)

/-- A table is that of its entries. -/
theorem ofList_entries (t : Table α) : ofList t.entries = t :=
  ext (entries_foldl_insert empty t.sorted)

/-- The table of a list with its values replaced by their images. -/
theorem ofList_map (f : α → β) (pairs : List (String × α)) :
    ofList (pairs.map fun p => (p.1, f p.2)) = (ofList pairs).map f := by
  have hfold (t : Table α) : (pairs.map fun p => (p.1, f p.2)).foldl
      (fun t p => t.insert p.1 p.2) (t.map f) =
        (pairs.foldl (fun t p => t.insert p.1 p.2) t).map f := by
    induction pairs generalizing t with
    | nil => rfl
    | cons p pairs ih => rw [List.map_cons, List.foldl_cons, List.foldl_cons, ← map_insert, ih]
  exact hfold empty

end Table

end PipelinesOperator
