import ServerResources.OrderedMap

/-!
# Laws of ordered maps

How replacing the values commutes with updates, what the entries of a map say about
its keys, in which order keys stand that are written one after another, and that a map
is what its own entries make when they are written in this way.
-/

namespace ServerResources.OrderedMap

universe u v w x

variable {α : Type u} {β : Type v} {γ : Type w} [DecidableEq α]

theorem find_of_mem {key : α} {value : β} {entries : List (α × β)}
    (distinct : (entries.map Prod.fst).Nodup) (member : (key, value) ∈ entries) :
    find key entries = some value := by
  induction entries with
  | nil => cases member
  | cons entry rest ih =>
      rcases List.nodup_cons.mp distinct with ⟨fresh, restDistinct⟩
      rcases List.mem_cons.mp member with rfl | later
      · simp [find]
      · have away : entry.1 ≠ key := by
          intro equal
          exact fresh (List.mem_map.mpr ⟨(key, value), later, equal.symm⟩)
        simp only [find, away, if_false]
        exact ih restDistinct later

theorem mem_of_find {key : α} {value : β} {entries : List (α × β)}
    (found : find key entries = some value) : (key, value) ∈ entries := by
  induction entries with
  | nil => cases found
  | cons entry rest ih =>
      by_cases here : entry.1 = key
      · simp only [find, here, if_true, Option.some.injEq] at found
        rw [← here, ← found]
        exact List.mem_cons_self
      · simp only [find, here, if_false] at found
        exact List.mem_cons_of_mem entry (ih found)

theorem get?_eq_some_iff (map : OrderedMap α β) (key : α) (value : β) :
    map.get? key = some value ↔ (key, value) ∈ map.entries :=
  ⟨mem_of_find, find_of_mem map.keys_nodup⟩

/-- The order of the keys and their values are the whole map. -/
theorem ext_get? {left right : OrderedMap α β} (keysEqual : left.keys = right.keys)
    (same : ∀ key, left.get? key = right.get? key) : left = right := by
  have read : ∀ map : OrderedMap α β,
      (map.entries.map fun entry => (entry.1, some entry.2)) =
        map.keys.map fun key => (key, map.get? key) := by
    intro map
    rw [keys, List.map_map]
    apply List.map_congr_left
    rintro ⟨key, value⟩ member
    simp [(map.get?_eq_some_iff key value).mpr member]
  have entries : (left.entries.map fun entry => (entry.1, some entry.2)) =
      right.entries.map fun entry => (entry.1, some entry.2) := by
    rw [read, read, keysEqual]
    simp only [same]
  apply OrderedMap.ext
  refine (List.map_inj_right ?_).mp entries
  rintro ⟨key, value⟩ ⟨other, otherValue⟩ equal
  simpa using equal

/-- The order of the entries does not matter to their values. -/
theorem get?_of_perm {left right : OrderedMap α β} (same : left.entries.Perm right.entries)
    (key : α) : left.get? key = right.get? key := by
  apply Option.ext
  intro value
  rw [get?_eq_some_iff, get?_eq_some_iff, same.mem_iff]

theorem map_congr {left right : β → γ} (map : OrderedMap α β)
    (agree : ∀ key value, map.get? key = some value → left value = right value) :
    map.map left = map.map right := by
  apply OrderedMap.ext
  apply List.map_congr_left
  rintro ⟨key, value⟩ member
  rw [agree key value ((map.get?_eq_some_iff key value).mpr member)]

omit [DecidableEq α] in
@[simp] theorem map_id (map : OrderedMap α β) : map.map id = map :=
  OrderedMap.ext (List.map_id map.entries)

omit [DecidableEq α] in
theorem map_map {δ : Type x} (second : γ → δ) (first : β → γ) (map : OrderedMap α β) :
    (map.map first).map second = map.map (second ∘ first) :=
  OrderedMap.ext List.map_map

theorem map_put (function : β → γ) (key : α) (value : β) (entries : List (α × β)) :
    (put key value entries).map (fun entry => (entry.1, function entry.2)) =
      put key (function value) (entries.map fun entry => (entry.1, function entry.2)) := by
  induction entries with
  | nil => rfl
  | cons entry rest ih =>
      by_cases here : entry.1 = key
      · simp [put, here]
      · simp [put, here, ih]

theorem map_insert (function : β → γ) (map : OrderedMap α β) (key : α) (value : β) :
    (map.insert key value).map function = (map.map function).insert key (function value) :=
  OrderedMap.ext (map_put function key value map.entries)

theorem map_erase (function : β → γ) (map : OrderedMap α β) (key : α) :
    (map.erase key).map function = (map.map function).erase key := by
  apply OrderedMap.ext
  simp only [OrderedMap.map, erase, filterKeys, List.filter_map]
  rfl

/-! ## Keeping some keys -/

theorem filter_put (test : α → Bool) (key : α) (value : β) (entries : List (α × β)) :
    (put key value entries).filter (fun entry => test entry.1) =
      if test key then put key value (entries.filter fun entry => test entry.1)
      else entries.filter fun entry => test entry.1 := by
  induction entries with
  | nil =>
      cases passes : test key with
      | true => simp [put, passes]
      | false => simp [put, passes]
  | cons entry rest ih =>
      by_cases here : entry.1 = key
      · subst here
        cases passes : test entry.1 with
        | true => simp [put, passes]
        | false => simp [put, passes]
      · cases passes : test entry.1 with
        | true => cases kept : test key <;> simp [put, here, passes, kept, ih]
        | false => cases kept : test key <;> simp [put, here, passes, kept, ih]

/-- A write is seen through a filter if its key passes. -/
theorem filterKeys_insert (map : OrderedMap α β) (test : α → Bool) (key : α) (value : β) :
    (map.insert key value).filterKeys test =
      if test key then (map.filterKeys test).insert key value else map.filterKeys test := by
  have entries := filter_put test key value map.entries
  split
  next passes =>
      rw [if_pos passes] at entries
      exact OrderedMap.ext entries
  next fails =>
      rw [if_neg fails] at entries
      exact OrderedMap.ext entries

theorem filterKeys_erase (map : OrderedMap α β) (test : α → Bool) (key : α) :
    (map.erase key).filterKeys test = (map.filterKeys test).erase key := by
  apply OrderedMap.ext
  simp only [erase, filterKeys, List.filter_filter, Bool.and_comm]

theorem erase_of_get?_eq_none {map : OrderedMap α β} {key : α} (absent : map.get? key = none) :
    map.erase key = map := by
  rw [get?_eq_none_iff] at absent
  apply OrderedMap.ext
  simp only [erase, filterKeys]
  rw [List.filter_eq_self]
  rintro ⟨other, value⟩ member
  apply decide_eq_true
  rintro rfl
  exact absent (List.mem_map_of_mem member)

theorem erase_insert_self (map : OrderedMap α β) (key : α) (value : β) :
    (map.insert key value).erase key = map.erase key := by
  rw [erase, filterKeys_insert, if_neg (by simp), erase]

theorem isSome_get?_insert {map : OrderedMap α β} {key : α} (written : α) (value : β)
    (present : (map.get? key).isSome = true) :
    ((map.insert written value).get? key).isSome = true := by
  rw [get?_insert]
  split
  next => rfl
  next => exact present

theorem isSome_get?_erase {map : OrderedMap α β} {key erased : α} (different : key ≠ erased)
    (present : (map.get? key).isSome = true) : ((map.erase erased).get? key).isSome = true := by
  rw [get?_erase, if_neg different]
  exact present

/-- What a filter does not let through is not erased behind it. -/
theorem erase_filterKeys_of_not (map : OrderedMap α β) {test : α → Bool} {key : α}
    (fails : test key = false) : (map.filterKeys test).erase key = map.filterKeys test := by
  apply erase_of_get?_eq_none
  rw [get?_filterKeys, fails, if_neg Bool.false_ne_true]

/-! ## Without some keys -/

/-- Everything but some keys. -/
def without (map : OrderedMap α β) (keys : List α) : OrderedMap α β :=
  map.filterKeys fun key => decide (key ∉ keys)

/-- Only those of the keys matter that are present. -/
theorem without_congr {map : OrderedMap α β} {keys others : List α}
    (same : ∀ key ∈ map.keys, key ∈ keys ↔ key ∈ others) :
    map.without keys = map.without others := by
  apply OrderedMap.ext
  apply List.filter_congr
  intro entry member
  rw [decide_eq_decide, same entry.1 (List.mem_map_of_mem member)]

theorem without_eq_self {map : OrderedMap α β} {keys : List α}
    (absent : ∀ key ∈ keys, key ∉ map.keys) : map.without keys = map := by
  apply OrderedMap.ext
  apply List.filter_eq_self.mpr
  intro entry member
  apply decide_eq_true
  intro listed
  exact absent entry.1 listed (List.mem_map_of_mem member)

theorem without_insert (map : OrderedMap α β) {keys : List α} {key : α} (listed : key ∈ keys)
    (value : β) : (map.insert key value).without keys = map.without keys := by
  rw [without, filterKeys_insert, if_neg (by simpa using listed), without]

/-- Removing one key more. -/
theorem without_erase (map : OrderedMap α β) (keys : List α) (key : α) :
    (map.erase key).without keys = map.without (key :: keys) := by
  apply OrderedMap.ext
  simp only [without, erase, filterKeys, List.filter_filter, List.mem_cons, not_or,
    Bool.decide_and, Bool.and_comm]

/-! ## Writing many entries -/

theorem put_of_not_mem (key : α) (value : β) {entries : List (α × β)}
    (absent : key ∉ entries.map Prod.fst) :
    put key value entries = entries ++ [(key, value)] := by
  induction entries with
  | nil => rfl
  | cons entry rest ih =>
      rw [List.map_cons, List.mem_cons, not_or] at absent
      have away : entry.1 ≠ key := fun equal => absent.1 equal.symm
      simp [put, away, ih absent.2]

/-- Entries with new and different keys go to the end as they are. -/
theorem entries_insertAll (map : OrderedMap α β) (entries : List (α × β))
    (distinct : ((map.entries ++ entries).map Prod.fst).Nodup) :
    (map.insertAll entries).entries = map.entries ++ entries := by
  induction entries generalizing map with
  | nil => simp [insertAll]
  | cons entry rest ih =>
      have absent : entry.1 ∉ map.entries.map Prod.fst := by
        intro present
        rw [List.map_append, List.nodup_append] at distinct
        exact distinct.2.2 entry.1 present entry.1 (by simp) rfl
      have written : (map.insert entry.1 entry.2).entries = map.entries ++ [entry] :=
        put_of_not_mem entry.1 entry.2 absent
      have step := ih (map.insert entry.1 entry.2) (by
        rw [written, List.append_assoc]
        exact distinct)
      rw [written, List.append_assoc] at step
      exact step

/-- The keys of a map that is written to depend on the written keys only. -/
theorem keys_insertAll (map : OrderedMap α β) (entries : List (α × β)) :
    (map.insertAll entries).keys =
      (entries.map Prod.fst).foldl
        (fun keys key => if key ∈ keys then keys else keys ++ [key]) map.keys := by
  induction entries generalizing map with
  | nil => rfl
  | cons entry rest ih =>
      have step := ih (map.insert entry.1 entry.2)
      rw [keys_insert] at step
      exact step

theorem mem_keys_insert (map : OrderedMap α β) (key other : α) (value : β) :
    other ∈ (map.insert key value).keys ↔ other ∈ map.keys ∨ other = key := by
  rw [keys_insert]
  split
  next present =>
      constructor
      · exact Or.inl
      · rintro (old | rfl)
        · exact old
        · exact present
  next => simp

theorem mem_keys_insertAll (map : OrderedMap α β) (entries : List (α × β)) (key : α) :
    key ∈ (map.insertAll entries).keys ↔ key ∈ map.keys ∨ key ∈ entries.map Prod.fst := by
  induction entries generalizing map with
  | nil => simp [insertAll]
  | cons entry rest ih =>
      have step := ih (map.insert entry.1 entry.2)
      rw [mem_keys_insert] at step
      rw [List.map_cons, List.mem_cons, ← or_assoc]
      exact step

/-- Different keys go to the end, in order, unless they are there. -/
theorem keys_insertAll_of_nodup (map : OrderedMap α β) {entries : List (α × β)}
    (distinct : (entries.map Prod.fst).Nodup) :
    (map.insertAll entries).keys =
      map.keys ++ (entries.map Prod.fst).filter fun key => decide (key ∉ map.keys) := by
  rw [keys_insertAll]
  generalize map.keys = keys
  generalize entries.map Prod.fst = written at distinct
  induction written generalizing keys with
  | nil => simp
  | cons key rest ih =>
      obtain ⟨fresh, restDistinct⟩ := List.nodup_cons.mp distinct
      rw [List.foldl_cons, ih _ restDistinct]
      by_cases present : key ∈ keys
      · simp [present]
      · rw [if_neg present, List.filter_cons_of_pos (by simpa using present), List.append_assoc,
          List.singleton_append]
        apply congrArg fun kept => keys ++ key :: kept
        apply List.filter_congr
        intro other member
        have away : other ≠ key := by
          rintro rfl
          exact fresh member
        simp [away]

/-- The keys are those of a list, in the order in which they come first in the list. -/
structure Follows (map : OrderedMap α β) (written : List α) : Prop where
  mem_keys_iff : ∀ key, key ∈ map.keys ↔ key ∈ written
  ordered : map.keys.Pairwise fun key other => written.idxOf key < written.idxOf other

/-- A key that is written again keeps its place, and a new one comes after all others. -/
theorem Follows.insert {map : OrderedMap α β} {written : List α} (follows : map.Follows written)
    (key : α) (value : β) : (map.insert key value).Follows (written ++ [key]) := by
  have place : ∀ other ∈ map.keys, (written ++ [key]).idxOf other = written.idxOf other := by
    intro other member
    rw [List.idxOf_append, if_pos ((follows.mem_keys_iff other).mp member)]
  have kept : map.keys.Pairwise fun other later =>
      (written ++ [key]).idxOf other < (written ++ [key]).idxOf later := by
    apply follows.ordered.imp_of_mem
    intro other later member laterMember before
    rw [place other member, place later laterMember]
    exact before
  constructor
  case mem_keys_iff =>
    intro other
    rw [mem_keys_insert, follows.mem_keys_iff, List.mem_append, List.mem_singleton]
  case ordered =>
    rw [keys_insert]
    split
    next => exact kept
    next absent =>
        refine List.pairwise_append.mpr ⟨kept, List.pairwise_singleton _ _, ?_⟩
        intro other member last isLast
        rw [List.mem_singleton.mp isLast, place other member, List.idxOf_append,
          if_neg (absent ∘ (follows.mem_keys_iff key).mpr)]
        have before := List.idxOf_lt_length_of_mem ((follows.mem_keys_iff other).mp member)
        omega

theorem Follows.insertAll {map : OrderedMap α β} {written : List α}
    (follows : map.Follows written) (entries : List (α × β)) :
    (map.insertAll entries).Follows (written ++ entries.map Prod.fst) := by
  -- The list grows with the map, so places are counted from the first entry of all.
  induction entries generalizing map written with
  | nil =>
      rw [List.map_nil, List.append_nil]
      exact follows
  | cons entry rest ih =>
      have step := ih (follows.insert entry.1 entry.2)
      rw [List.append_assoc] at step
      exact step

/-- The place of a key is that of its first entry. -/
theorem follows_ofList (entries : List (α × β)) :
    (ofList entries).Follows (entries.map Prod.fst) := by
  have empty : (∅ : OrderedMap α β).Follows [] := ⟨fun _ => Iff.rfl, List.Pairwise.nil⟩
  exact empty.insertAll entries

theorem find_append (key : α) (left right : List (α × β)) :
    find key (left ++ right) = (find key left).or (find key right) := by
  induction left with
  | nil => rfl
  | cons entry rest ih =>
      by_cases here : entry.1 = key
      · simp [find, here]
      · simp only [List.cons_append, find, here, if_false, ih]

/-- What is found is the first entry of its key. -/
theorem find_eq_some_iff_append (key : α) (value : β) (entries : List (α × β)) :
    find key entries = some value ↔
      ∃ before after, entries = before ++ (key, value) :: after ∧ key ∉ before.map Prod.fst := by
  constructor
  · intro found
    induction entries with
    | nil => cases found
    | cons entry rest ih =>
        by_cases here : entry.1 = key
        · simp only [find, here, if_true, Option.some.injEq] at found
          exact ⟨[], rest, by rw [← here, ← found]; rfl, by simp⟩
        · simp only [find, here, if_false] at found
          obtain ⟨before, after, split, absent⟩ := ih found
          refine ⟨entry :: before, after, by rw [split]; rfl, ?_⟩
          rw [List.map_cons, List.mem_cons, not_or]
          exact ⟨fun same => here same.symm, absent⟩
  · rintro ⟨before, after, rfl, absent⟩
    have skipped : find key before = none := by
      rw [← Option.not_isSome_iff_eq_none, find_isSome]
      exact absent
    simp [find_append, skipped, find]

/-- The first of several items under one key is found. -/
theorem find_map {ι : Type w} (name : ι → α) (value : ι → β) (key : α) (items : List ι) :
    find key (items.map fun item => (name item, value item)) =
      (items.find? fun item => name item = key).map value := by
  induction items with
  | nil => rfl
  | cons item rest ih =>
      by_cases here : name item = key
      · simp [find, here]
      · simp [find, here, ih]

/-- The last entry with a key gives its value. -/
theorem get?_insertAll (map : OrderedMap α β) (entries : List (α × β)) (key : α) :
    (map.insertAll entries).get? key = (find key entries.reverse).or (map.get? key) := by
  induction entries generalizing map with
  | nil => rfl
  | cons entry rest ih =>
      have step := ih (map.insert entry.1 entry.2)
      rw [List.reverse_cons, find_append, Option.or_assoc]
      refine step.trans (congrArg (Option.or _) ?_)
      rw [get?_insert]
      by_cases here : key = entry.1
      · simp [find, here]
      · have away : ¬ entry.1 = key := fun equal => here equal.symm
        simp [find, here, away]

/-- Entries with different keys are read again, and hide what was there. -/
theorem get?_insertAll_eq_some_iff (map : OrderedMap α β) {entries : List (α × β)}
    (distinct : (entries.map Prod.fst).Nodup) (key : α) (value : β) :
    (map.insertAll entries).get? key = some value ↔
      (key, value) ∈ entries ∨ key ∉ entries.map Prod.fst ∧ map.get? key = some value := by
  have reversed : (entries.reverse.map Prod.fst).Nodup := by
    rw [List.map_reverse]
    exact (List.reverse_perm _).nodup_iff.mpr distinct
  have written : find key entries.reverse = some value ↔ (key, value) ∈ entries := by
    rw [← List.mem_reverse]
    exact ⟨mem_of_find, find_of_mem reversed⟩
  rw [get?_insertAll, Option.or_eq_some_iff, written, ← Option.not_isSome_iff_eq_none,
    find_isSome, List.map_reverse, List.mem_reverse]

theorem mem_keys_iff (map : OrderedMap α β) (key : α) :
    key ∈ map.keys ↔ ∃ value, map.get? key = some value := by
  rw [← contains_iff, contains, Option.isSome_iff_exists]

theorem mem_values_iff (map : OrderedMap α β) (value : β) :
    value ∈ map.values ↔ ∃ key, map.get? key = some value := by
  rw [values, List.mem_map]
  constructor
  · rintro ⟨entry, member, rfl⟩
    exact ⟨entry.1, (map.get?_eq_some_iff entry.1 entry.2).mpr member⟩
  · rintro ⟨key, found⟩
    exact ⟨(key, value), (map.get?_eq_some_iff key value).mp found, rfl⟩

/-- A map is what its entries make. -/
theorem ofList_entries (map : OrderedMap α β) : ofList map.entries = map := by
  apply OrderedMap.ext
  rw [ofList, entries_insertAll]
  · rfl
  · exact map.keys_nodup

/-- Values that carry their keys make the entries. -/
theorem entries_eq_of_values (map : OrderedMap α β) (key : β → α)
    (named : ∀ name value, map.get? name = some value → key value = name) :
    (map.values.map fun value => (key value, value)) = map.entries := by
  rw [values, List.map_map]
  refine (List.map_congr_left ?_).trans (List.map_id map.entries)
  rintro ⟨name, value⟩ member
  have found := (map.get?_eq_some_iff name value).mpr member
  exact Prod.ext (named name value found) rfl

end ServerResources.OrderedMap
