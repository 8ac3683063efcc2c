/-!
# Insertion-ordered maps

A map from keys to values that remembers the order in which its keys arrived.
A value written to a key that is present keeps the key's place; a key that is
removed and written again goes to the end.  No key occurs twice, and the map
carries the proof.

The two views are `keys`, the order, and `get?`, the contents.  Each operation
comes with one lemma per view.
-/

namespace ServerResources

universe u v w

/-- Distinct keys with their values, in order of arrival. -/
structure OrderedMap (α : Type u) (β : Type v) where
  entries : List (α × β)
  keys_nodup : (entries.map Prod.fst).Nodup

namespace OrderedMap

variable {α : Type u} {β : Type v} {γ : Type w}

@[ext] theorem ext {left right : OrderedMap α β}
    (entriesEqual : left.entries = right.entries) : left = right := by
  cases left
  cases right
  simpa using entriesEqual

instance [DecidableEq α] [DecidableEq β] : DecidableEq (OrderedMap α β) :=
  fun left right =>
    decidable_of_iff (left.entries = right.entries)
      ⟨OrderedMap.ext, fun equal => equal ▸ rfl⟩

/-- The map without keys. -/
def empty : OrderedMap α β where
  entries := []
  keys_nodup := by simp

instance : EmptyCollection (OrderedMap α β) where
  emptyCollection := empty

instance : Inhabited (OrderedMap α β) where
  default := empty

/-- The keys in order of arrival. -/
def keys (map : OrderedMap α β) : List α :=
  map.entries.map Prod.fst

/-- The values in the order of their keys. -/
def values (map : OrderedMap α β) : List β :=
  map.entries.map Prod.snd

theorem nodup_keys (map : OrderedMap α β) : map.keys.Nodup :=
  map.keys_nodup

@[simp] theorem entries_empty : (∅ : OrderedMap α β).entries = [] :=
  rfl

@[simp] theorem keys_empty : (∅ : OrderedMap α β).keys = [] :=
  rfl

/-- Keeps the entries whose key passes a test. -/
def filterKeys (map : OrderedMap α β) (test : α → Bool) : OrderedMap α β where
  entries := map.entries.filter fun entry => test entry.1
  keys_nodup :=
    map.keys_nodup.sublist (List.filter_sublist.map Prod.fst)

theorem keys_filterKeys (map : OrderedMap α β) (test : α → Bool) :
    (map.filterKeys test).keys = map.keys.filter test := by
  simp only [keys, filterKeys, List.filter_map]
  rfl

section Lookup

variable [DecidableEq α]

/-- The value in the first entry that has the key. -/
def find (key : α) : List (α × β) → Option β
  | [] => none
  | entry :: rest => if entry.1 = key then some entry.2 else find key rest

/-- The value of a key. -/
def get? (map : OrderedMap α β) (key : α) : Option β :=
  find key map.entries

/-- Whether a key is present. -/
def contains (map : OrderedMap α β) (key : α) : Bool :=
  (map.get? key).isSome

@[simp] theorem get?_empty (key : α) : (∅ : OrderedMap α β).get? key = none :=
  rfl

theorem find_isSome (key : α) (entries : List (α × β)) :
    (find key entries).isSome ↔ key ∈ entries.map Prod.fst := by
  induction entries with
  | nil => simp [find]
  | cons entry rest ih =>
      by_cases here : entry.1 = key
      · simp [find, here]
      · simp only [find, here, if_false, ih, List.map_cons, List.mem_cons]
        constructor
        · exact Or.inr
        · rintro (equal | found)
          · exact (here equal.symm).elim
          · exact found

theorem contains_iff (map : OrderedMap α β) (key : α) :
    map.contains key = true ↔ key ∈ map.keys :=
  find_isSome key map.entries

theorem get?_eq_none_iff (map : OrderedMap α β) (key : α) :
    map.get? key = none ↔ key ∉ map.keys := by
  rw [← contains_iff]
  simp [contains]

end Lookup

section Update

variable [DecidableEq α]

/-- Overwrites the first entry of a key, or adds one at the end. -/
def put (key : α) (value : β) : List (α × β) → List (α × β)
  | [] => [(key, value)]
  | entry :: rest =>
      if entry.1 = key then (key, value) :: rest else entry :: put key value rest

/-- Writing a key keeps the order of keys, with a new key at the end. -/
theorem map_fst_put (key : α) (value : β) (entries : List (α × β)) :
    (put key value entries).map Prod.fst =
      if key ∈ entries.map Prod.fst then entries.map Prod.fst
      else entries.map Prod.fst ++ [key] := by
  induction entries with
  | nil => simp [put]
  | cons entry rest ih =>
      by_cases here : entry.1 = key
      · simp [put, here]
      · have away : key ≠ entry.1 := fun equal => here equal.symm
        by_cases there : key ∈ rest.map Prod.fst
        · simp only [put, here, if_false, List.map_cons, ih, there, if_true,
            List.mem_cons, or_true]
        · simp only [put, here, if_false, List.map_cons, ih, there,
            List.mem_cons, away, or_self, List.cons_append]

theorem find_put (key other : α) (value : β) (entries : List (α × β)) :
    find other (put key value entries) =
      if other = key then some value else find other entries := by
  induction entries with
  | nil =>
      by_cases same : other = key
      · simp [put, find, same]
      · have away : ¬ key = other := fun equal => same equal.symm
        simp [put, find, same, away]
  | cons entry rest ih =>
      by_cases here : entry.1 = key
      · by_cases same : other = key
        · simp [put, find, here, same]
        · have away : ¬ key = other := fun equal => same equal.symm
          simp [put, find, here, same, away]
      · by_cases there : entry.1 = other
        · have same : ¬ other = key := fun equal => here (there.trans equal)
          simp [put, find, there, same]
        · simp [put, find, here, there, ih]

/-- Writes a value to a key. -/
def insert (map : OrderedMap α β) (key : α) (value : β) : OrderedMap α β where
  entries := put key value map.entries
  keys_nodup := by
    rw [map_fst_put]
    by_cases present : key ∈ map.entries.map Prod.fst
    · rw [if_pos present]
      exact map.keys_nodup
    · rw [if_neg present]
      refine List.nodup_append.mpr ⟨map.keys_nodup, by simp, ?_⟩
      intro left leftMember right rightMember
      rw [List.mem_singleton] at rightMember
      intro equal
      exact present (rightMember ▸ equal ▸ leftMember)

/-- A written key keeps its place; a new one goes to the end. -/
theorem keys_insert (map : OrderedMap α β) (key : α) (value : β) :
    (map.insert key value).keys =
      if key ∈ map.keys then map.keys else map.keys ++ [key] :=
  map_fst_put key value map.entries

theorem get?_insert (map : OrderedMap α β) (key other : α) (value : β) :
    (map.insert key value).get? other =
      if other = key then some value else map.get? other :=
  find_put key other value map.entries

@[simp] theorem get?_insert_self (map : OrderedMap α β) (key : α) (value : β) :
    (map.insert key value).get? key = some value := by
  simp [get?_insert]

theorem get?_insert_of_ne (map : OrderedMap α β) {key other : α} (value : β)
    (different : other ≠ key) :
    (map.insert key value).get? other = map.get? other := by
  simp [get?_insert, different]

theorem find_filter (test : α → Bool) (key : α) (entries : List (α × β)) :
    find key (entries.filter fun entry => test entry.1) =
      if test key then find key entries else none := by
  induction entries with
  | nil => simp [find]
  | cons entry rest ih =>
      by_cases here : entry.1 = key
      · subst here
        by_cases passes : test entry.1
        · simp [passes, find]
        · simp [passes, ih]
      · by_cases passes : test entry.1
        · simp [passes, find, here, ih]
        · simp [passes, find, here, ih]

theorem get?_filterKeys (map : OrderedMap α β) (test : α → Bool) (key : α) :
    (map.filterKeys test).get? key =
      if test key then map.get? key else none :=
  find_filter test key map.entries

/-- Removes a key. -/
def erase (map : OrderedMap α β) (key : α) : OrderedMap α β :=
  map.filterKeys fun other => decide (other ≠ key)

theorem keys_erase (map : OrderedMap α β) (key : α) :
    (map.erase key).keys = map.keys.filter fun other => decide (other ≠ key) :=
  keys_filterKeys map _

theorem get?_erase (map : OrderedMap α β) (key other : α) :
    (map.erase key).get? other =
      if other = key then none else map.get? other := by
  rw [erase, get?_filterKeys]
  by_cases same : other = key <;> simp [same]

@[simp] theorem get?_erase_self (map : OrderedMap α β) (key : α) :
    (map.erase key).get? key = none := by
  simp [get?_erase]

/-- Writes a list of entries one after another: of entries with one key the
last gives the value and the first gives the place. -/
def insertAll (map : OrderedMap α β) (entries : List (α × β)) :
    OrderedMap α β :=
  entries.foldl (fun current entry => current.insert entry.1 entry.2) map

/-- The map of a list of entries. -/
def ofList (entries : List (α × β)) : OrderedMap α β :=
  insertAll ∅ entries

end Update

/-- Applies a function to every value. -/
def map (function : β → γ) (source : OrderedMap α β) : OrderedMap α γ where
  entries := source.entries.map fun entry => (entry.1, function entry.2)
  keys_nodup := by
    have keysEqual :
        (source.entries.map fun entry => (entry.1, function entry.2)).map
          Prod.fst = source.entries.map Prod.fst := by
      simp [Function.comp_def]
    rw [keysEqual]
    exact source.keys_nodup

@[simp] theorem keys_map (function : β → γ) (source : OrderedMap α β) :
    (source.map function).keys = source.keys := by
  simp [keys, map, Function.comp_def]

theorem get?_map [DecidableEq α] (function : β → γ) (source : OrderedMap α β)
    (key : α) :
    (source.map function).get? key = (source.get? key).map function := by
  have findMap : ∀ entries : List (α × β),
      find key (entries.map fun entry => (entry.1, function entry.2)) =
        (find key entries).map function := by
    intro entries
    induction entries with
    | nil => rfl
    | cons entry rest ih =>
        by_cases here : entry.1 = key
        · simp [find, here]
        · simp [find, here, ih]
  exact findMap source.entries

end OrderedMap

end ServerResources
