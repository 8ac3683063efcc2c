import ServerResources.Bean
import ServerResources.Proofs.OrderedMap

/-!
# Declared names and attributes

Declared names and attributes are matched whatever their case.  On both sides several
names may be spellings of one name.  Of the declared ones the first takes the default,
and of the attributes the last gives it.  An attribute that no declared name is a
spelling of keeps its own name, unless a later attribute is a spelling of it.

The loop over the declared names takes from a table of attributes what is matched.  The
invariant says what is left in the table and what was handed out after the names seen so
far.
-/

namespace ServerResources.Bean

/-! ## Readings -/

/-- What is read from a bean, in order: its properties, then its attributes. -/
def readings (bean : Bean) : Except ReadFailure (List (String × String)) := do
  let properties ← bean.readProperties bean.memberNames
  return properties ++ bean.attributeTexts

/-- The default of a name is what was read of it last; its place is that of what was read
of it first. -/
theorem defaults_eq_readings (bean : Bean) :
    bean.defaults = OrderedMap.ofList <$> bean.readings := by
  unfold defaults readings
  cases bean.readProperties bean.memberNames with
  | error failure => rfl
  | ok properties =>
      apply congrArg Except.ok
      rw [OrderedMap.ofList, OrderedMap.ofList, OrderedMap.insertAll, OrderedMap.insertAll,
        OrderedMap.insertAll, List.foldl_append]

/-! ## Spellings -/

/-- The first of some names that differs from a name at most in case. -/
def firstSpelling (names : List String) (name : String) : Option String :=
  names.find? fun other => Text.lowercase other = Text.lowercase name

/-- The last of some names that differs from a name at most in case. -/
def lastSpelling (names : List String) (name : String) : Option String :=
  firstSpelling names.reverse name

variable {names : List String} {name other : String}

theorem mem_of_firstSpelling (found : firstSpelling names name = some other) :
    other ∈ names ∧ Text.lowercase other = Text.lowercase name := by
  have same := List.find?_some found
  exact ⟨List.mem_of_find?_eq_some found, of_decide_eq_true same⟩

theorem mem_of_lastSpelling (found : lastSpelling names name = some other) :
    other ∈ names ∧ Text.lowercase other = Text.lowercase name := by
  rcases mem_of_firstSpelling found with ⟨member, same⟩
  exact ⟨List.mem_reverse.mp member, same⟩

theorem firstSpelling_eq_none_iff (names : List String) (name : String) :
    firstSpelling names name = none ↔ Text.lowercase name ∉ names.map Text.lowercase := by
  simp [firstSpelling, List.find?_eq_none, List.mem_map]

/-- A name is looked for by its small letters only. -/
theorem firstSpelling_congr (same : Text.lowercase name = Text.lowercase other) :
    firstSpelling names name = firstSpelling names other := by
  rw [firstSpelling, firstSpelling, same]

theorem lastSpelling_congr (same : Text.lowercase name = Text.lowercase other) :
    lastSpelling names name = lastSpelling names other :=
  firstSpelling_congr same

/-- A further name is the first spelling of itself only if none came before it. -/
theorem firstSpelling_snoc_self (names : List String) (last name : String) :
    firstSpelling (names ++ [last]) name = some name ↔
      firstSpelling names name = some name ∨ (firstSpelling names name = none ∧ last = name) := by
  rw [firstSpelling, List.find?_append, ← firstSpelling]
  cases firstSpelling names name with
  | some found => simp
  | none =>
      by_cases here : last = name
      · simp [here]
      · simp [here, List.find?_cons]
        split <;> simp [here]

/-! ## The loop over the declared names -/

variable {defaults : PropertyBag} {seen : List String} {state : Matching}

/-- The default of an attribute. -/
def textOf (defaults : PropertyBag) (source : String) : String :=
  (defaults.get? source).getD ""

/-- The table of attributes has the last spelling of each. -/
theorem get?_start (defaults : PropertyBag) (key : String) :
    (Matching.start defaults).remaining.get? key =
      defaults.keys.reverse.find? fun name => Text.lowercase name = key := by
  rw [Matching.start, OrderedMap.ofList, OrderedMap.get?_insertAll, ← List.map_reverse,
    OrderedMap.find_map, OrderedMap.get?_empty, Option.or_none, Option.map_id']

/-- What holds after some declared names: no attribute that one of them is a spelling of
is left, and the first spelling of each has its default. -/
structure Claimed (defaults : PropertyBag) (seen : List String) (state : Matching) : Prop where
  remaining : ∀ key, state.remaining.get? key =
    if key ∈ seen.map Text.lowercase then none else (Matching.start defaults).remaining.get? key
  result : ∀ name, state.result.get? name =
    if firstSpelling seen name = some name then
      (lastSpelling defaults.keys name).map (textOf defaults)
    else none

namespace Claimed

theorem start (defaults : PropertyBag) : Claimed defaults [] (Matching.start defaults) where
  remaining := fun _ => rfl
  result := fun _ => rfl

/-- What is left for a name that is not spelled yet is the last attribute of its spelling. -/
theorem get?_remaining (claimed : Claimed defaults seen state) (name : String) :
    state.remaining.get? (Text.lowercase name) =
      if firstSpelling seen name = none then lastSpelling defaults.keys name else none := by
  rw [claimed.remaining, get?_start]
  by_cases spelled : firstSpelling seen name = none
  · rw [if_pos spelled, if_neg ((firstSpelling_eq_none_iff seen name).mp spelled)]
    rfl
  · rw [if_neg spelled, if_pos]
    rw [firstSpelling_eq_none_iff, Decidable.not_not] at spelled
    exact spelled

/-- A declared name that matches nothing changes nothing. -/
theorem skip (claimed : Claimed defaults seen state) {name : String}
    (absent : state.remaining.get? (Text.lowercase name) = none) :
    Claimed defaults (seen ++ [name]) state where
  remaining := by
    intro key
    rw [List.map_append, List.map_singleton]
    by_cases here : key = Text.lowercase name
    · rw [here, absent, if_pos (by simp)]
    · rw [claimed.remaining]
      simp [here]
  result := by
    intro other
    simp only [claimed.result, firstSpelling_snoc_self]
    by_cases first : firstSpelling seen other = some other
    · rw [if_pos first, if_pos (.inl first)]
    · rw [if_neg first]
      split
      next new =>
          rcases new with old | ⟨fresh, rfl⟩
          · exact (first old).elim
          · rw [claimed.get?_remaining, if_pos fresh] at absent
            rw [absent]
            rfl
      next => rfl

/-- A declared name takes the attribute that it matches. -/
theorem take (claimed : Claimed defaults seen state) {name source : String}
    (found : state.remaining.get? (Text.lowercase name) = some source) :
    Claimed defaults (seen ++ [name])
      { remaining := state.remaining.erase (Text.lowercase name)
        result := state.result.insert name (textOf defaults source) } where
  remaining := by
    intro key
    rw [OrderedMap.get?_erase, List.map_append, List.map_singleton]
    by_cases here : key = Text.lowercase name
    · rw [if_pos here, if_pos (by simp [here])]
    · rw [if_neg here, claimed.remaining]
      simp [here]
  result := by
    intro other
    have free : firstSpelling seen name = none ∧ lastSpelling defaults.keys name = some source := by
      rw [claimed.get?_remaining] at found
      split at found
      next fresh => exact ⟨fresh, found⟩
      next => cases found
    simp only [OrderedMap.get?_insert, firstSpelling_snoc_self]
    by_cases here : other = name
    · subst here
      rw [if_pos rfl, if_pos (.inr ⟨free.1, rfl⟩), free.2]
      rfl
    · have away : ¬ name = other := fun same => here same.symm
      rw [if_neg here, claimed.result]
      simp [away]

theorem claim (claimed : Claimed defaults seen state) (name : String) :
    Claimed defaults (seen ++ [name]) (state.claim defaults name) := by
  unfold Matching.claim
  cases found : state.remaining.get? (Text.lowercase name) with
  | none =>
      simp only [found]
      exact claimed.skip found
  | some source =>
      simp only [found]
      exact claimed.take found

theorem claimAll (claimed : Claimed defaults seen state) (names : List String) :
    Claimed defaults (seen ++ names) (names.foldl (Matching.claim defaults) state) := by
  induction names generalizing seen state with
  | nil =>
      rw [List.append_nil]
      exact claimed
  | cons name rest ih =>
      rw [List.append_cons]
      exact ih (claimed.claim name)

/-- An attribute is left if no declared name is a spelling of it and no later attribute
is. -/
theorem mem_values_iff (claimed : Claimed defaults seen state) (source : String) :
    source ∈ state.remaining.values ↔
      firstSpelling seen source = none ∧ lastSpelling defaults.keys source = some source := by
  rw [OrderedMap.mem_values_iff]
  constructor
  · rintro ⟨key, found⟩
    have key_eq : key = Text.lowercase source := by
      rw [claimed.remaining, get?_start] at found
      split at found
      next => cases found
      next =>
          have same := List.find?_some found
          exact (of_decide_eq_true same).symm
    rw [key_eq, claimed.get?_remaining] at found
    split at found
    next fresh => exact ⟨fresh, found⟩
    next => cases found
  · rintro ⟨fresh, last⟩
    refine ⟨Text.lowercase source, ?_⟩
    rw [claimed.get?_remaining, if_pos fresh, last]

end Claimed

/-! ## The result -/

/-- The last attribute of a spelling gives its default to the first declared spelling, or
keeps it under its own name if there is none. -/
theorem get?_matchNames (defaults : PropertyBag) (known : List String) (name : String) :
    (matchNames defaults known).get? name =
      (lastSpelling defaults.keys name).bind fun source =>
        if (firstSpelling known name).getD source = name then defaults.get? source else none := by
  have claimed : Claimed defaults ([] ++ known)
      (known.foldl (Matching.claim defaults) (Matching.start defaults)) :=
    (Claimed.start defaults).claimAll known
  rw [List.nil_append] at claimed
  have present : ∀ source, source ∈ defaults.keys →
      defaults.get? source = some (textOf defaults source) := by
    intro source member
    rcases (OrderedMap.mem_keys_iff defaults source).mp member with ⟨text, found⟩
    rw [textOf, found, Option.getD_some]
  have finished : (matchNames defaults known).get? name =
      if firstSpelling known name = none ∧ lastSpelling defaults.keys name = some name then
        some (textOf defaults name)
      else if firstSpelling known name = some name then
        (lastSpelling defaults.keys name).map (textOf defaults)
      else none := by
    have texts := PropertyBag.find_map_pair (textOf defaults) name
      (known.foldl (Matching.claim defaults) (Matching.start defaults)).remaining.values.reverse
    simp only [List.mem_reverse, claimed.mem_values_iff] at texts
    rw [matchNames, Matching.finish, OrderedMap.get?_insertAll, ← List.map_reverse]
    refine (congrArg (Option.or · _) texts).trans ?_
    rw [claimed.result]
    split <;> simp
  rw [finished]
  cases last : lastSpelling defaults.keys name with
  | none => simp
  | some source =>
      have default := present source (mem_of_lastSpelling last).1
      cases first : firstSpelling known name with
      | none =>
          by_cases own : source = name
          · subst own
            simp [default]
          · simp [own]
      | some other =>
          by_cases own : other = name
          · simp [own, default]
          · simp [own]

variable {known : List String}

/-- An attribute that no declared name is a spelling of keeps its default unless a later
attribute is a spelling of it. -/
theorem get?_matchNames_of_unspelled (unspelled : firstSpelling known name = none) :
    (matchNames defaults known).get? name =
      if lastSpelling defaults.keys name = some name then defaults.get? name else none := by
  rw [get?_matchNames, unspelled]
  cases lastSpelling defaults.keys name with
  | none => rfl
  | some source =>
      by_cases own : source = name
      · simp [own]
      · simp [own]

/-- A declared name has the default of the last attribute that is a spelling of it unless
another spelling is declared before. -/
theorem get?_matchNames_of_declared (declared : name ∈ known) :
    (matchNames defaults known).get? name =
      if firstSpelling known name = some name then
        (lastSpelling defaults.keys name).bind defaults.get?
      else none := by
  rw [get?_matchNames]
  cases first : firstSpelling known name with
  | none =>
      rw [firstSpelling_eq_none_iff] at first
      exact (first (List.mem_map_of_mem declared)).elim
  | some other =>
      by_cases own : other = name
      · simp [own]
      · simp [own]

/-- The attribute that a name resolves to if it is not declared. -/
theorem get?_matchNames_of_undeclared (undeclared : name ∉ known) :
    (matchNames defaults known).get? name =
      if firstSpelling known name = none ∧ lastSpelling defaults.keys name = some name then
        defaults.get? name
      else none := by
  cases first : firstSpelling known name with
  | none =>
      rw [get?_matchNames_of_unspelled first]
      simp
  | some other =>
      have away : other ≠ name := by
        rintro rfl
        exact undeclared (mem_of_firstSpelling first).1
      rw [get?_matchNames, first]
      cases lastSpelling defaults.keys name with
      | none => simp
      | some source => simp [away]

end ServerResources.Bean
