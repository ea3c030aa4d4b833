/-!
# Tables

A table holds at most one value for each key, in the order in which the keys were first added.
`get?` is its view: `get?_set`, `get?_erase`, `get?_filter` and `get?_mapValues` say what each
operation does to it, and `mem_entries_iff` ties it to the listed entries.
-/

namespace MediaRelay

/-- A finite map, listed in the order in which its keys were first added. -/
structure Table (κ α : Type) where
  entries : List (κ × α)
  distinct : (entries.map Prod.fst).Nodup := by simp

namespace Table

variable {κ α : Type}

instance [DecidableEq κ] [DecidableEq α] : DecidableEq (Table κ α) := fun left right =>
  decidable_of_iff (left.entries = right.entries) (by
    cases left
    cases right
    simp)

/-- The table without entries. -/
def empty : Table κ α := ⟨[], by simp⟩

instance : EmptyCollection (Table κ α) := ⟨empty⟩

/-- The keys, in the order in which they were first added. -/
def keys (table : Table κ α) : List κ := table.entries.map Prod.fst

/-- The values, in the order in which their keys were first added. -/
def values (table : Table κ α) : List α := table.entries.map Prod.snd

/-- Keeps the entries that pass the test. -/
def filter (table : Table κ α) (keep : κ → α → Bool) : Table κ α where
  entries := table.entries.filter fun entry => keep entry.1 entry.2
  distinct := table.distinct.sublist (List.filter_sublist.map _)

/-- Replaces every value, and keeps the keys. -/
def mapValues (table : Table κ α) (change : κ → α → α) : Table κ α where
  entries := table.entries.map fun entry => (entry.1, change entry.1 entry.2)
  distinct := by simpa [Function.comp_def] using table.distinct

variable [DecidableEq κ]

/-- The value held for a key. -/
def get? (table : Table κ α) (key : κ) : Option α := table.entries.lookup key

/-- Whether a key holds a value. -/
def contains (table : Table κ α) (key : κ) : Bool := (table.get? key).isSome

/-- Drops a key. -/
def erase (table : Table κ α) (key : κ) : Table κ α := table.filter fun held _ => held ≠ key

/-- Changes the value of one key, if it holds one. -/
def modify (table : Table κ α) (key : κ) (change : α → α) : Table κ α :=
  table.mapValues fun held value => if held = key then change value else value

/-- Gives a key a value: in place of its old one, or else last. -/
def set (table : Table κ α) (key : κ) (value : α) : Table κ α :=
  if held : key ∈ table.keys then
    table.modify key fun _ => value
  else
    ⟨table.entries ++ [(key, value)], by
      have distinct := table.distinct
      simp only [keys] at held
      rw [List.map_append, List.nodup_append]
      refine ⟨distinct, by simp, ?_⟩
      intro first member second single same
      simp only [List.map_cons, List.map_nil, List.mem_singleton] at single
      exact held (single ▸ same ▸ member)⟩

/-! ## What the operations do to the view -/

theorem mem_entries_iff (table : Table κ α) (key : κ) (value : α) :
    (key, value) ∈ table.entries ↔ table.get? key = some value := by
  obtain ⟨entries, distinct⟩ := table
  simp only [get?]
  induction entries with
  | nil => simp
  | cons first rest hypothesis =>
    obtain ⟨held, present⟩ := first
    simp only [List.map_cons, List.nodup_cons] at distinct
    rw [List.lookup_cons]
    by_cases same : key = held
    · subst same
      have absent : (key, value) ∉ rest := fun member =>
        distinct.1 (List.mem_map.mpr ⟨_, member, rfl⟩)
      simp [absent, eq_comm]
    · have different : (key == held) = false := by simpa using same
      simp [same, different, hypothesis distinct.2]

theorem mem_keys_iff (table : Table κ α) (key : κ) :
    key ∈ table.keys ↔ (table.get? key).isSome = true := by
  simp only [keys, List.mem_map, Prod.exists, exists_and_right, exists_eq_right,
    mem_entries_iff, Option.isSome_iff_exists]

theorem mem_values_iff (table : Table κ α) (value : α) :
    value ∈ table.values ↔ ∃ key, table.get? key = some value := by
  simp only [values, List.mem_map, Prod.exists, exists_eq_right, mem_entries_iff]

theorem get?_mapValues (table : Table κ α) (change : κ → α → α) (key : κ) :
    (table.mapValues change).get? key = (table.get? key).map (change key) := by
  obtain ⟨entries, distinct⟩ := table
  simp only [get?, mapValues]
  clear distinct
  induction entries with
  | nil => rfl
  | cons first rest hypothesis =>
    obtain ⟨held, present⟩ := first
    rw [List.map_cons, List.lookup_cons, List.lookup_cons]
    by_cases same : key = held
    · subst same
      simp
    · have different : (key == held) = false := by simpa using same
      simp only [different, hypothesis]

theorem get?_modify (table : Table κ α) (key other : κ) (change : α → α) :
    (table.modify key change).get? other =
      if other = key then (table.get? other).map change else table.get? other := by
  rw [modify, get?_mapValues]
  by_cases same : other = key <;> simp [same]

theorem get?_filter (table : Table κ α) (keep : κ → α → Bool) (key : κ) :
    (table.filter keep).get? key = (table.get? key).filter (keep key) := by
  apply Option.ext
  intro value
  rw [← mem_entries_iff, Option.filter_eq_some_iff, ← mem_entries_iff]
  simp [filter]

theorem get?_erase (table : Table κ α) (key other : κ) :
    (table.erase key).get? other = if other = key then none else table.get? other := by
  rw [erase, get?_filter]
  by_cases same : other = key
  · subst same
    cases table.get? other <;> simp
  · cases table.get? other <;> simp [same]

theorem get?_set (table : Table κ α) (key other : κ) (value : α) :
    (table.set key value).get? other = if other = key then some value else table.get? other := by
  unfold set
  split
  · rename_i held
    rw [get?_modify]
    by_cases same : other = key
    · subst same
      obtain ⟨present, found⟩ := Option.isSome_iff_exists.mp ((mem_keys_iff table other).mp held)
      simp [found]
    · simp [same]
  · rename_i absent
    apply Option.ext
    intro found
    rw [← mem_entries_iff]
    simp only [List.mem_append, List.mem_singleton, Prod.mk.injEq, mem_entries_iff]
    by_cases same : other = key
    · subst same
      have missing : table.get? other = none := by
        simpa [mem_keys_iff] using absent
      simp [missing, eq_comm]
    · simp [same]

/-- Changing every value into itself changes nothing. -/
theorem mapValues_eq_self {table : Table κ α} {change : κ → α → α}
    (fixed : ∀ key value, table.get? key = some value → change key value = value) :
    table.mapValues change = table := by
  have same : (table.mapValues change).entries = table.entries := by
    refine (List.map_congr_left ?_).trans (List.map_id _)
    rintro ⟨key, value⟩ member
    rw [fixed key value ((mem_entries_iff table key value).mp member), id_eq]
  obtain ⟨entries, distinct⟩ := table
  simpa [mapValues] using same

/-- Changing a value into itself changes nothing. -/
theorem modify_eq_self {table : Table κ α} {key : κ} {change : α → α}
    (fixed : ∀ value, table.get? key = some value → change value = value) :
    table.modify key change = table := by
  refine mapValues_eq_self fun held value found => ?_
  split
  · rename_i same
    exact fixed value (same ▸ found)
  · rfl

/-- Keeping every entry changes nothing. -/
theorem filter_eq_self {table : Table κ α} {keep : κ → α → Bool}
    (kept : ∀ key value, table.get? key = some value → keep key value = true) :
    table.filter keep = table := by
  have same : (table.filter keep).entries = table.entries := by
    refine List.filter_eq_self.mpr ?_
    rintro ⟨key, value⟩ member
    exact kept key value ((mem_entries_iff table key value).mp member)
  obtain ⟨entries, distinct⟩ := table
  simpa [filter] using same

theorem set_of_get? {table : Table κ α} {key : κ} {value : α} (found : table.get? key = some value)
    (next : α) : table.set key next = table.modify key fun _ => next := by
  have held : key ∈ table.keys := (mem_keys_iff table key).mpr (by rw [found]; rfl)
  unfold set
  rw [dif_pos held]

/-- A key that holds a value keeps the last one that it is given. -/
theorem set_set {table : Table κ α} {key : κ} {value : α} (found : table.get? key = some value)
    (first second : α) : (table.set key first).set key second = table.set key second := by
  have again : (table.set key first).get? key = some first := by rw [get?_set, if_pos rfl]
  rw [set_of_get? again, set_of_get? found, set_of_get? found]
  simp only [modify, mapValues, List.map_map]
  congr 1
  refine List.map_congr_left fun entry _ => ?_
  by_cases same : entry.1 = key <;> simp [same]

theorem erase_set {table : Table κ α} {key : κ} {value : α} (found : table.get? key = some value)
    (next : α) : (table.set key next).erase key = table.erase key := by
  rw [set_of_get? found]
  simp only [modify, mapValues, erase, filter, List.filter_map]
  congr 1
  refine (List.map_congr_left ?_).trans (List.map_id _)
  rintro entry member
  have other := (List.mem_filter.mp member).2
  simp only [Function.comp_apply, decide_eq_true_eq] at other
  simp [other]

theorem set_eq_self {table : Table κ α} {key : κ} {value : α} (found : table.get? key = some value) :
    table.set key value = table := by
  rw [set_of_get? found]
  exact modify_eq_self fun held same => Option.some.inj (found.symm.trans same)

theorem entries_ne_nil_of_get? {table : Table κ α} {key : κ} {value : α}
    (found : table.get? key = some value) : table.entries ≠ [] :=
  List.ne_nil_of_mem ((mem_entries_iff table key value).mpr found)

end Table

end MediaRelay
