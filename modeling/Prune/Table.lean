/-!
# Tables in the order of insertion

A table maps names to entries and remembers the order in which the names came.
Inserting under a name that is already there replaces the entry and keeps its
place, so the place of a name never changes once it is in. No name is in a
table twice; the type carries that fact.
-/

namespace Prune

/-- A map from names to entries that keeps the order of insertion. -/
structure Table (α : Type) where
  entries : List (String × α)
  nodup : (entries.map Prod.fst).Nodup
deriving DecidableEq

namespace Table

variable {α : Type}

def empty : Table α := ⟨[], List.nodup_nil⟩

instance : Inhabited (Table α) := ⟨empty⟩

instance [Repr α] : Repr (Table α) := ⟨fun table n => reprPrec table.entries n⟩

def keys (table : Table α) : List String := table.entries.map Prod.fst

def values (table : Table α) : List α := table.entries.map Prod.snd

def size (table : Table α) : Nat := table.entries.length

/-- The entry under a name. -/
def find? (table : Table α) (key : String) : Option α :=
  (table.entries.find? fun entry => entry.1 = key).map Prod.snd

/-- The place of a name. -/
def place? (table : Table α) (key : String) : Option Nat :=
  table.entries.findIdx? fun entry => entry.1 = key

/-- The entry at a place. -/
def at? (table : Table α) (place : Nat) : Option α :=
  (table.entries[place]?).map Prod.snd

def contains (table : Table α) (key : String) : Bool := table.keys.contains key

/-- Changes every entry and no name. -/
def mapEntries (f : String → α → α) (entries : List (String × α)) :
    List (String × α) :=
  entries.map fun entry => (entry.1, f entry.1 entry.2)

theorem map_fst_mapEntries (f : String → α → α) (entries : List (String × α)) :
    (mapEntries f entries).map Prod.fst = entries.map Prod.fst := by
  simp [mapEntries, Function.comp_def]

def map (table : Table α) (f : String → α → α) : Table α :=
  ⟨mapEntries f table.entries, by rw [map_fst_mapEntries]; exact table.nodup⟩

@[simp]
theorem keys_map (table : Table α) (f : String → α → α) :
    (table.map f).keys = table.keys :=
  map_fst_mapEntries f table.entries

/-- Puts an entry under a name: in its place if the name is known, at the end
otherwise. -/
def insert (table : Table α) (key : String) (value : α) : Table α :=
  if h : key ∈ table.entries.map Prod.fst then
    table.map fun other old => if other = key then value else old
  else
    ⟨table.entries ++ [(key, value)], by
      rw [List.map_append, List.nodup_append]
      refine ⟨table.nodup, by simp, ?_⟩
      intro a ha b hb hab
      simp at hb
      exact h (by rw [← hb, ← hab]; exact ha)⟩

/-- Inserts one entry after another. -/
def ofList (entries : List (String × α)) : Table α :=
  entries.foldl (fun table entry => table.insert entry.1 entry.2) empty

/-- Replaces the entries one by one by those of a list, as far as both go; the
names stay. -/
def zipEntries : List (String × α) → List α → List (String × α)
  | [], _ => []
  | entries, [] => entries
  | (key, _) :: entries, value :: values =>
      (key, value) :: zipEntries entries values

theorem map_fst_zipEntries (entries : List (String × α)) (values : List α) :
    (zipEntries entries values).map Prod.fst = entries.map Prod.fst := by
  induction entries generalizing values with
  | nil => simp [zipEntries]
  | cons entry entries ih =>
    cases values with
    | nil => simp [zipEntries]
    | cons value values => simp [zipEntries, ih]

def withValues (table : Table α) (values : List α) : Table α :=
  ⟨zipEntries table.entries values, by
    rw [map_fst_zipEntries]; exact table.nodup⟩

end Table

end Prune
