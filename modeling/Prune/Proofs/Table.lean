import Mathlib.Data.List.Find
import Prune.Table

/-!
# What a table holds

A name stands at one place of a table, and the entry found under it is the one
that stands there. Changing the entries, one by one or all at once, moves no
name: `keys_withValues` and `keys_map` say so, and a place depends on the names
alone (`place?_eq_findIdx?`). That is what lets a slot that was found before
linking be read in the graph after it.
-/

namespace Prune

namespace Table

variable {α : Type} {table : Table α} {key : String}

theorem place?_eq_findIdx? (table : Table α) (key : String) :
    table.place? key = table.keys.findIdx? fun name => name = key := by
  rw [place?, keys, List.findIdx?_map]
  rfl

theorem length_keys (table : Table α) : table.keys.length = table.size := by
  rw [keys, List.length_map, size]

theorem length_values (table : Table α) : table.values.length = table.size := by
  rw [values, List.length_map, size]

/-- A name that has a place stands there. -/
theorem entry_of_place? {place : Nat} (h : table.place? key = some place) :
    ∃ value, table.entries[place]? = some (key, value) := by
  obtain ⟨hlt, hkey, -⟩ := List.findIdx?_eq_some_iff_getElem.mp h
  refine ⟨table.entries[place].2, ?_⟩
  rw [List.getElem?_eq_getElem hlt]
  simp only [decide_eq_true_eq] at hkey
  rw [← hkey]

/-- Where a name stands is its place: no name comes twice. -/
theorem place?_of_entry {place : Nat} {value : α}
    (h : table.entries[place]? = some (key, value)) :
    table.place? key = some place := by
  obtain ⟨hlt, hget⟩ := List.getElem?_eq_some_iff.mp h
  refine List.findIdx?_eq_some_iff_getElem.mpr ⟨hlt, by simp [hget], ?_⟩
  intro other hother hsame
  simp only [decide_eq_true_eq] at hsame
  have hkeys := List.pairwise_iff_getElem.mp table.nodup other place
    (by rw [List.length_map]; omega) (by rw [List.length_map]; exact hlt) hother
  simp only [List.getElem_map, hget, hsame] at hkeys
  exact hkeys rfl

theorem mem_of_find? {value : α} (h : table.find? key = some value) :
    (key, value) ∈ table.entries := by
  rw [find?, Option.map_eq_some_iff] at h
  obtain ⟨entry, hfind, rfl⟩ := h
  have hkey := List.find?_some hfind
  simp only [decide_eq_true_eq] at hkey
  rw [← hkey]
  exact List.mem_of_find?_eq_some hfind

theorem mem_keys_of_find? {value : α} (h : table.find? key = some value) :
    key ∈ table.keys :=
  List.mem_map.mpr ⟨(key, value), mem_of_find? h, rfl⟩

theorem place?_eq_none_iff : table.place? key = none ↔ key ∉ table.keys := by
  rw [place?_eq_findIdx?, List.findIdx?_eq_none_iff]
  simp only [decide_eq_false_iff_not]
  exact ⟨fun h hmem => h key hmem rfl, fun h name hname heq => h (heq ▸ hname)⟩

theorem find?_eq_none_iff : table.find? key = none ↔ key ∉ table.keys := by
  rw [find?, Option.map_eq_none_iff, List.find?_eq_none, keys, List.mem_map]
  simp only [decide_eq_true_eq]
  exact ⟨fun h ⟨entry, hentry, heq⟩ => h entry hentry heq,
    fun h entry hentry heq => h ⟨entry, hentry, heq⟩⟩

theorem at?_of_entry {place : Nat} {value : α}
    (h : table.entries[place]? = some (key, value)) :
    table.at? place = some value := by
  rw [at?, h]
  rfl

theorem at?_eq_values (table : Table α) (place : Nat) :
    table.at? place = table.values[place]? := by
  rw [at?, values, List.getElem?_map]

theorem isSome_at? {place : Nat} :
    (table.at? place).isSome ↔ place < table.size := by
  simp only [at?, size, Option.isSome_map, List.getElem?_eq_some_iff,
    Option.isSome_iff_exists]
  exact ⟨fun ⟨_, hlt, _⟩ => hlt, fun hlt => ⟨_, hlt, rfl⟩⟩

/-! ## Changing the entries -/

@[simp]
theorem keys_withValues (table : Table α) (values : List α) :
    (table.withValues values).keys = table.keys :=
  map_fst_zipEntries table.entries values

theorem snd_zipEntries {entries : List (String × α)} {values : List α}
    (h : values.length = entries.length) :
    (zipEntries entries values).map Prod.snd = values := by
  induction entries generalizing values with
  | nil => rw [zipEntries, List.eq_nil_of_length_eq_zero h]; rfl
  | cons entry entries ih =>
      cases values with
      | nil => cases h
      | cons value values =>
          rw [zipEntries, List.map_cons, ih (Nat.succ.inj h)]

theorem values_withValues {values : List α} (h : values.length = table.size) :
    (table.withValues values).values = values := snd_zipEntries h

@[simp]
theorem size_map (table : Table α) (f : String → α → α) :
    (table.map f).size = table.size := by
  rw [← length_keys, keys_map, length_keys]

theorem size_insert (h : key ∉ table.keys) (value : α) :
    (table.insert key value).size = table.size + 1 := by
  have hnew : key ∉ table.entries.map Prod.fst := h
  rw [insert, dif_neg hnew, size, List.length_append]
  rfl

theorem keys_insert (h : key ∉ table.keys) (value : α) :
    (table.insert key value).keys = table.keys ++ [key] := by
  have hnew : key ∉ table.entries.map Prod.fst := h
  rw [insert, dif_neg hnew, keys, List.map_append]
  rfl

theorem values_insert (h : key ∉ table.keys) (value : α) :
    (table.insert key value).values = table.values ++ [value] := by
  have hnew : key ∉ table.entries.map Prod.fst := h
  rw [insert, dif_neg hnew, values, List.map_append]
  rfl

theorem contains_iff : table.contains key = true ↔ key ∈ table.keys :=
  List.contains_iff_mem

/-- What an insertion adds is its own entry. -/
theorem of_mem_entries_insert {value : α} {name : String} {found : α}
    (h : (name, found) ∈ (table.insert key value).entries) :
    name = key ∧ found = value ∨ (name, found) ∈ table.entries := by
  rw [insert] at h
  split at h
  · obtain ⟨⟨other, old⟩, hmem, heq⟩ := List.mem_map.mp h
    cases heq
    by_cases hother : other = key
    · exact Or.inl ⟨hother, if_pos hother⟩
    · simp only [if_neg hother]
      exact Or.inr hmem
  · rcases List.mem_append.mp h with hmem | hlast
    · exact Or.inr hmem
    · cases List.mem_singleton.mp hlast
      exact Or.inl ⟨rfl, rfl⟩

theorem ext {one other : Table α} (h : one.entries = other.entries) :
    one = other := by
  cases one
  cases other
  cases h
  rfl

theorem eq_of_keys_of_values {one other : Table α}
    (hkeys : one.keys = other.keys) (hvalues : one.values = other.values) :
    one = other := by
  have hone : one.keys.zip one.values = one.entries :=
    (List.zip_of_prod rfl rfl).symm
  have hother : other.keys.zip other.values = other.entries :=
    (List.zip_of_prod rfl rfl).symm
  exact ext (by rw [← hone, ← hother, hkeys, hvalues])

theorem values_map (table : Table α) (f : α → α) :
    (table.map fun _ value => f value).values = table.values.map f := by
  simp only [values, map, mapEntries, List.map_map, Function.comp_def]

/-- A change that looks at names, in a table where every value has its own
name. -/
theorem values_map_of_keyed {f : String → α → α} {g : α → α}
    (h : ∀ {name value},
      (name, value) ∈ table.entries → f name value = g value) :
    (table.map f).values = table.values.map g := by
  simp only [values, map, mapEntries, List.map_map]
  exact List.map_congr_left fun entry hentry => h hentry

section

variable {name : α → String}

/-- A table where every value has its own name is known by its values. -/
theorem entries_of_keyed
    (h : ∀ {key value}, (key, value) ∈ table.entries → name value = key) :
    table.entries = table.values.map fun value => (name value, value) := by
  rw [values, List.map_map]
  refine (List.map_id _).symm.trans (List.map_congr_left fun entry hentry => ?_)
  exact Prod.ext (h hentry).symm rfl

theorem keys_of_keyed
    (h : ∀ {key value}, (key, value) ∈ table.entries → name value = key) :
    table.keys = table.values.map name := by
  rw [keys, entries_of_keyed h, List.map_map]
  rfl

theorem find?_of_keyed
    (h : ∀ {key value}, (key, value) ∈ table.entries → name value = key) :
    table.find? key = table.values.find? fun value => name value = key := by
  rw [find?, entries_of_keyed h, List.find?_map, Option.map_map]
  exact Option.map_id'

end

@[simp]
theorem place?_map (table : Table α) (f : String → α → α) (key : String) :
    (table.map f).place? key = table.place? key := by
  rw [place?_eq_findIdx?, keys_map, ← place?_eq_findIdx?]

theorem mem_entries_map {f : String → α → α} {value : α}
    (h : (key, value) ∈ table.entries) :
    (key, f key value) ∈ (table.map f).entries :=
  List.mem_map.mpr ⟨(key, value), h, rfl⟩

theorem exists_of_mem_entries_map {f : String → α → α} {value : α}
    (h : (key, value) ∈ (table.map f).entries) :
    ∃ old, (key, old) ∈ table.entries ∧ f key old = value := by
  obtain ⟨⟨name, old⟩, hmem, heq⟩ := List.mem_map.mp h
  cases heq
  exact ⟨old, hmem, rfl⟩

theorem map_map (table : Table α) (f g : String → α → α) :
    (table.map f).map g = table.map fun name value =>
      g name (f name value) := by
  refine ext ?_
  simp only [map, mapEntries, List.map_map, Function.comp_def]

theorem at?_map (table : Table α) (f : α → α) (place : Nat) :
    (table.map fun _ value => f value).at? place = (table.at? place).map f := by
  rw [at?_eq_values, at?_eq_values, values_map, List.getElem?_map]

/-- New entries that are made of the old ones, each in its place. -/
theorem withValues_values_map (table : Table α) (f : α → α) :
    table.withValues (table.values.map f) = table.map fun _ value =>
      f value := by
  have hsize : (table.values.map f).length = table.size := by
    rw [List.length_map, length_values]
  refine eq_of_keys_of_values ?_ ?_
  · rw [keys_withValues, keys_map]
  · rw [values_withValues hsize, values_map]

end Table

end Prune
