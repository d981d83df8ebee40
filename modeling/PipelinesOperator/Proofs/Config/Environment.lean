import Mathlib.Data.List.Infix
import PipelinesOperator.Config.Environment
import PipelinesOperator.Proofs.Config.Flatten

/-!
# The names of environment variables

The name of a variable spells a path in upper case, with two underscores where the path has a dot.
Keys may have underscores of their own, but never two together and none at the end; so whoever
reads the name finds the dots where they were, and the keys in lower case again.

## Main definitions

* `Config.Environment.IsKey`: keys that can be told from the name of a variable
* `Config.Environment.nameOf`: the name of the variable for a path

## Main results

* `Config.Environment.dotted_upperAscii_join`: the dots of a path are found in its name
* `Config.Environment.path?_nameOf`: the variable for a path leads along its keys
* `Config.Environment.layer_of_path?`: the layer of one variable among others
-/

namespace PipelinesOperator.Config.Environment

/-- The characters of the keys of the configuration. -/
def keyChars : List Char := "abcdefghijklmnopqrstuvwxyz0123456789_".toList

/-- A key that can be told from the name of a variable: it is in lower case, and two underscores
in a name stand behind it and not in it. -/
structure IsKey (key : String) : Prop where
  ne_empty : key ≠ ""
  chars : ∀ c ∈ key.toList, c ∈ keyChars
  single : ¬['_', '_'] <:+: key.toList.map Char.toUpper ++ ['_']

instance (key : String) : Decidable (IsKey key) :=
  decidable_of_iff (key ≠ "" ∧ key.toList.all (· ∈ keyChars) = true ∧
      ¬['_', '_'] <:+: key.toList.map Char.toUpper ++ ['_'])
    ⟨fun h => ⟨h.1, by simpa using h.2.1, h.2.2⟩,
      fun h => ⟨h.ne_empty, by simpa using h.chars, h.single⟩⟩

/-- The name of the variable that sets the value of a dotted path. -/
def nameOf (path : String) : String :=
  lead ++ Text.upperAscii (Text.join "__" (Text.splitOn '.' path))

/-! ## Underscores -/

theorem dotted_cons {c : Char} {cs : List Char} (h : ¬['_', '_'] <+: c :: cs) :
    dotted (c :: cs) = c :: dotted cs := by
  rw [dotted]
  rintro rest rfl rfl
  exact h (List.prefix_append ['_', '_'] rest)

/-- Two underscores become a dot if they are the first two together. -/
theorem dotted_append {cs : List Char} (h : ¬['_', '_'] <:+: cs ++ ['_']) (rest : List Char) :
    dotted (cs ++ '_' :: '_' :: rest) = cs ++ '.' :: dotted rest := by
  induction cs with
  | nil => rfl
  | cons c cs ih =>
    rw [List.cons_append, List.infix_cons_iff, not_or] at h
    obtain ⟨hfirst, hlater⟩ := h
    rw [List.cons_append, dotted_cons, ih hlater, List.cons_append]
    cases cs with
    | nil => simpa using hfirst
    | cons d ds => simpa using hfirst

theorem dotted_eq_self {cs : List Char} (h : ¬['_', '_'] <:+: cs) : dotted cs = cs := by
  induction cs with
  | nil => rfl
  | cons c cs ih =>
    rw [List.infix_cons_iff, not_or] at h
    rw [dotted_cons h.1, ih h.2]

/-- Keys in upper case with two underscores between them become the same keys with dots between
them.  There is no separator within a key, so dots arise between the keys only. -/
theorem dotted_upperAscii_join {keys : List String} (h : ∀ key ∈ keys, IsKey key) :
    dotted (Text.upperAscii (Text.join "__" keys)).toList =
      (Text.join "." (keys.map Text.upperAscii)).toList := by
  induction keys with
  | nil => rfl
  | cons key keys ih =>
    obtain ⟨hkey, hkeys⟩ := List.forall_mem_cons.mp h
    cases keys with
    | nil =>
      rw [Text.join, List.map_singleton, Text.join, Text.toList_upperAscii]
      exact dotted_eq_self fun hpair =>
        hkey.single (hpair.trans (List.prefix_append _ _).isInfix)
    | cons key' keys =>
      have hrest := ih hkeys
      rw [Text.toList_upperAscii] at hrest
      rw [List.map_cons, List.map_cons, Text.toList_join_cons, ← List.map_cons, ← hrest,
        Text.toList_upperAscii, Text.toList_upperAscii, Text.toList_join_cons, List.map_append,
        List.map_append]
      exact dotted_append hkey.single _

/-! ## Characters -/

theorem isBlank_toUpper {c : Char} (h : c ∈ keyChars) : Text.isBlank c.toUpper = false := by
  have hall : keyChars.all (!Text.isBlank ·.toUpper) = true := by decide
  simpa using List.all_eq_true.mp hall c h

theorem toLower_toUpper {c : Char} (h : c ∈ keyChars) : c.toUpper.toLower = c := by
  have hall : keyChars.all (fun c => c.toUpper.toLower = c) = true := by decide
  simpa using List.all_eq_true.mp hall c h

namespace IsKey

variable {key : String}

theorem isPathKey (h : IsKey key) : IsPathKey key :=
  ⟨h.ne_empty, fun hdot => absurd (h.chars '.' hdot) (by decide)⟩

theorem isBlank_eq_false (h : IsKey key) {c : Char} (hc : c ∈ (Text.upperAscii key).toList) :
    Text.isBlank c = false := by
  rw [Text.toList_upperAscii] at hc
  obtain ⟨d, hd, rfl⟩ := List.mem_map.mp hc
  exact isBlank_toUpper (h.chars d hd)

theorem isPathKey_upperAscii (h : IsKey key) : IsPathKey (Text.upperAscii key) := by
  constructor
  · intro hempty
    have hlist := congrArg String.toList hempty
    rw [Text.toList_upperAscii] at hlist
    exact h.ne_empty (String.toList_eq_nil_iff.mp (List.map_eq_nil_iff.mp hlist))
  · rw [Text.toList_upperAscii]
    intro hdot
    obtain ⟨c, hc, heq⟩ := List.mem_map.mp hdot
    have hall : keyChars.all (·.toUpper ≠ '.') = true := by decide
    simpa [heq] using List.all_eq_true.mp hall c (h.chars c hc)

theorem lowerAscii_upperAscii (h : IsKey key) : Text.lowerAscii (Text.upperAscii key) = key := by
  have hmap : (key.toList.map Char.toUpper).map Char.toLower = key.toList := by
    rw [List.map_map]
    exact (List.map_congr_left fun c hc => toLower_toUpper (h.chars c hc)).trans (List.map_id _)
  rw [Text.lowerAscii, Text.toList_upperAscii, hmap, String.ofList_toList]

end IsKey

/-! ## Names -/

/-- No blank stands in the name of a variable. -/
theorem isBlank_of_mem_upperAscii_join {keys : List String} (h : ∀ key ∈ keys, IsKey key)
    {c : Char} (hc : c ∈ (Text.upperAscii (Text.join "__" keys)).toList) :
    Text.isBlank c = false := by
  rw [Text.toList_upperAscii] at hc
  obtain ⟨d, hd, rfl⟩ := List.mem_map.mp hc
  rcases Text.mem_join hd with hunderscore | ⟨key, hkey, hd⟩
  · obtain rfl : d = '_' := by simpa using hunderscore
    decide
  · exact isBlank_toUpper ((h key hkey).chars d hd)

/-- The variable that is named after a path leads along the keys of the path.  Nothing is trimmed,
neither from the name nor when its underscores have become dots. -/
theorem path?_nameOf {keys : List String} (hne : keys ≠ []) (h : ∀ key ∈ keys, IsKey key) :
    path? (nameOf (Registry.dotted keys)) = some keys := by
  have hsplit := Registry.splitOn_dotted hne fun key hkey => (h key hkey).isPathKey
  have hupper : ∀ key ∈ keys.map Text.upperAscii, IsPathKey key := by
    intro upper hmem
    obtain ⟨key, hkey, rfl⟩ := List.mem_map.mp hmem
    exact (h key hkey).isPathKey_upperAscii
  have hname : ∀ c ∈ lead.toList ++ (Text.upperAscii (Text.join "__" keys)).toList,
      Text.isBlank c = false := by
    intro c hc
    rcases List.mem_append.mp hc with hlead | hc
    · have hall : lead.toList.all (!Text.isBlank ·) = true := by decide
      simpa using List.all_eq_true.mp hall c hlead
    · exact isBlank_of_mem_upperAscii_join h hc
  have hdotted : ∀ c ∈ (Text.join "." (keys.map Text.upperAscii)).toList,
      Text.isBlank c = false := by
    intro c hc
    rcases Text.mem_join hc with hdot | ⟨upper, hmem, hc⟩
    · obtain rfl : c = '.' := by simpa using hdot
      decide
    · obtain ⟨key, hkey, rfl⟩ := List.mem_map.mp hmem
      exact (h key hkey).isBlank_eq_false hc
  have hlower : (keys.map Text.upperAscii).map Text.lowerAscii = keys := by
    rw [List.map_map]
    exact (List.map_congr_left fun key hkey => (h key hkey).lowerAscii_upperAscii).trans
      (List.map_id _)
  have hempty : (keys.map Text.upperAscii).contains "" = false := by
    refine Bool.eq_false_iff.mpr fun hmem => ?_
    exact (hupper "" (List.contains_iff_mem.mp hmem)).1 rfl
  rw [path?, nameOf, hsplit, String.toList_append, Text.trim_eq_self hname]
  have htake : (lead.toList ++ (Text.upperAscii (Text.join "__" keys)).toList).take lead.length =
      lead.toList := List.take_left' String.length_toList
  have hdrop : (lead.toList ++ (Text.upperAscii (Text.join "__" keys)).toList).drop lead.length =
      (Text.upperAscii (Text.join "__" keys)).toList := List.drop_left' String.length_toList
  simp only [htake, hdrop, dotted_upperAscii_join h, Text.trim_eq_self hdotted,
    String.ofList_toList]
  rw [if_pos (by decide), ← Registry.dotted_eq_join hupper,
    Registry.splitOn_dotted (by simpa using hne) hupper, hempty, hlower]
  rfl

/-! ## Layers -/

/-- A step that changes nothing may be taken any number of times. -/
theorem foldl_eq_self {α β : Type} {f : β → α → β} {b : β} {l : List α} (h : ∀ a ∈ l, f b a = b) :
    l.foldl f b = b := by
  induction l with
  | nil => rfl
  | cons a l ih =>
    obtain ⟨ha, hl⟩ := List.forall_mem_cons.mp h
    rw [List.foldl_cons, ha, ih hl]

/-- Of variables of which only one leads anywhere the layer is that of this one. -/
theorem layer_of_path? {settings : Table String} {name v : String} {keys : List String}
    (hname : settings.get? name = some v) (hkeys : path? name = some keys)
    (hothers : ∀ e ∈ settings.entries, e.1 ≠ name → path? e.1 = none) :
    layer settings = Tree.merge (.obj .environment [] none)
      (Tree.ofDoc (fun _ => .environment) ((Inline.read v).nest () keys)) := by
  have hmem : (name, v) ∈ settings.entries := mem_of_lookup_eq_some hname
  obtain ⟨before, after, hentries⟩ := List.append_of_mem hmem
  have hrest : ∀ e ∈ before ++ after, path? e.1 = none := by
    have hnodup : (((name, v) :: (before ++ after)).map Prod.fst).Nodup :=
      (List.perm_middle.map Prod.fst).nodup (hentries ▸ settings.nodup_keys)
    obtain ⟨hnew, -⟩ := List.nodup_cons.mp hnodup
    intro e he
    refine hothers e ?_ fun heq => hnew (List.mem_map.mpr ⟨e, he, heq⟩)
    rw [hentries, List.mem_append, List.mem_cons]
    exact (List.mem_append.mp he).imp_right .inr
  obtain ⟨hbefore, hafter⟩ := List.forall_mem_append.mp hrest
  rw [layer, hentries, List.foldl_append, List.foldl_cons, foldl_eq_self, foldl_eq_self]
  · simp only [hkeys]
  · intro e he
    simp only [hbefore e he]
  · intro e he
    simp only [hafter e he]

end PipelinesOperator.Config.Environment
