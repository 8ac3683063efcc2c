import Mathlib.Data.List.Nodup
import ServerResources.Introspector
import ServerResources.Proofs.Bean.Matching

/-!
# Surviving defaults

What is read from a bean is a map of names, and names that differ only in case are
different names in it.  Matching looks attributes up by their small letters, so of such
names it knows the last one only, and it hands that one out once.  A default therefore
survives under its own name as far as no other spelling comes in the way: a later
attribute takes the place of an unmatched one and gives its default to a declared one,
and an earlier declared spelling leaves nothing for a later one.
-/

namespace ServerResources.Bean

variable {defaults : PropertyBag} {names : List String} {name : String}

/-! ## Names without another spelling -/

/-- A name that is present has a last spelling. -/
theorem exists_lastSpelling (member : name ∈ names) :
    ∃ last, lastSpelling names name = some last := by
  apply Option.ne_none_iff_exists'.mp
  rw [lastSpelling, Ne, firstSpelling_eq_none_iff, Decidable.not_not]
  exact List.mem_map_of_mem (List.mem_reverse.mpr member)

/-- Small letters tell distinct names apart just if each of them is its own last
spelling. -/
theorem nodup_lowercase_iff (distinct : names.Nodup) :
    (names.map Text.lowercase).Nodup ↔ ∀ name ∈ names, lastSpelling names name = some name := by
  constructor
  · intro apart name member
    obtain ⟨last, found⟩ := exists_lastSpelling member
    obtain ⟨present, same⟩ := mem_of_lastSpelling found
    rw [found, List.inj_on_of_nodup_map apart present member same]
  · intro own
    apply List.Nodup.map_on
    · intro left leftMember right rightMember same
      have lasts : lastSpelling names left = lastSpelling names right := lastSpelling_congr same
      rw [own left leftMember, own right rightMember] at lasts
      exact Option.some.inj lasts
    · exact distinct

/-! ## Without declared names -/

/-- The defaults are what their names read in them, in order. -/
theorem map_textOf_keys (defaults : PropertyBag) :
    (defaults.keys.map fun source => (source, textOf defaults source)) = defaults.entries := by
  rw [OrderedMap.keys, List.map_map]
  refine (List.map_congr_left ?_).trans (List.map_id defaults.entries)
  rintro ⟨source, text⟩ member
  have found := (defaults.get?_eq_some_iff source text).mpr member
  simp [textOf, found]

/-- Small letters that tell the attributes apart leave all of them in the table. -/
theorem values_start (apart : (defaults.keys.map Text.lowercase).Nodup) :
    (Matching.start defaults).remaining.values = defaults.keys := by
  rw [Matching.start, OrderedMap.values, OrderedMap.ofList, OrderedMap.entries_insertAll]
  · simp [Function.comp_def]
  · simpa [Function.comp_def] using apart

/-- Nothing is lost or moved without declared names just if no two attributes differ only
in case. -/
theorem matchNames_nil_eq_iff (defaults : PropertyBag) :
    matchNames defaults [] = defaults ↔ (defaults.keys.map Text.lowercase).Nodup := by
  constructor
  · intro same
    rw [nodup_lowercase_iff defaults.nodup_keys]
    intro name member
    obtain ⟨text, kept⟩ := (OrderedMap.mem_keys_iff defaults name).mp member
    rw [← same, get?_matchNames_of_unspelled rfl] at kept
    split at kept
    next own => exact own
    next => cases kept
  · intro apart
    have kept : matchNames defaults [] = OrderedMap.ofList
        ((Matching.start defaults).remaining.values.map fun source =>
          (source, textOf defaults source)) := rfl
    rw [kept, values_start apart, map_textOf_keys, OrderedMap.ofList_entries]

/-! ## With any declared names -/

/-- What becomes of the defaults of a class that is loaded, constructed and read. -/
theorem defaults_survive_matching (load : Loader) (className : String)
    (archive : Option String) {bean : Bean} (loaded : load className = .ok bean)
    (constructed : bean.constructorFailure = none) (read : bean.defaults = .ok defaults) :
    (Introspector.readBean load className [] archive = .ok defaults ↔
      (defaults.keys.map Text.lowercase).Nodup) ∧
    ∀ known, ∃ bag, Introspector.readBean load className known archive = .ok bag ∧
      (∀ name, firstSpelling known name = none →
        bag.get? name =
          if lastSpelling defaults.keys name = some name then defaults.get? name else none) ∧
      ∀ name ∈ known,
        bag.get? name =
          if firstSpelling known name = some name then
            (lastSpelling defaults.keys name).bind defaults.get?
          else none := by
  have answer : ∀ known, Introspector.readBean load className known archive =
      .ok (matchNames defaults known) := by
    intro known
    simp only [Introspector.readBean, loaded, bind, Except.bind, constructed, read]
  constructor
  · rw [answer, Except.ok.injEq]
    exact matchNames_nil_eq_iff defaults
  · intro known
    refine ⟨matchNames defaults known, answer known, ?_, ?_⟩
    · intro name unspelled
      exact get?_matchNames_of_unspelled unspelled
    · intro name declared
      exact get?_matchNames_of_declared declared

/-- A class with a property and an attribute. -/
def accountBean : Bean :=
  ⟨[{ attributes := [("Host", .text "localhost")]
      members := [("user", .property (some (.returns (.text "guest"))) true)] }]⟩

theorem defaults_survive_matching_account :
    Introspector.readBean (.ofClasses [("beans.Account", accountBean)]) "beans.Account" [] none =
        .ok (.ofList [("user", "guest"), ("Host", "localhost")]) ∧
      ∃ bag, Introspector.readBean (.ofClasses [("beans.Account", accountBean)]) "beans.Account"
          ["Host", "HOST"] none = .ok bag ∧
        bag.get? "user" = some "guest" ∧ bag.get? "Host" = some "localhost" := by
  have read : accountBean.defaults = .ok (.ofList [("user", "guest"), ("Host", "localhost")]) :=
    rfl
  obtain ⟨alone, declared⟩ := defaults_survive_matching
    (.ofClasses [("beans.Account", accountBean)]) "beans.Account" none rfl rfl read
  obtain ⟨bag, answer, unmatched, matched⟩ := declared ["Host", "HOST"]
  refine ⟨alone.mpr (by decide +kernel), bag, answer, ?_, ?_⟩
  · exact (unmatched "user" (by decide +kernel)).trans (by decide +kernel)
  · exact (matched "Host" (by decide)).trans (by decide +kernel)

/-- A class with two attributes that differ only in case. -/
def respelledBean : Bean :=
  ⟨[{ attributes := [("Name", .text "first"), ("name", .text "second")] }]⟩

/-- The first of two such attributes is lost, or reads as the second where it is declared;
and of two declared spellings the second gets nothing, though it is that of an attribute. -/
theorem respelled_defaults_lost :
    ∃ defaults, respelledBean.defaults = .ok defaults ∧
      defaults.get? "Name" = some "first" ∧ defaults.get? "name" = some "second" ∧
      ∀ archive, ∃ alone one two,
        Introspector.readBean (.ofClasses [("beans.Queue", respelledBean)]) "beans.Queue" []
          archive = .ok alone ∧
        alone.get? "Name" = none ∧
        Introspector.readBean (.ofClasses [("beans.Queue", respelledBean)]) "beans.Queue"
          ["Name"] archive = .ok one ∧
        one.get? "Name" = some "second" ∧
        Introspector.readBean (.ofClasses [("beans.Queue", respelledBean)]) "beans.Queue"
          ["NAME", "name"] archive = .ok two ∧
        two.get? "name" = none := by
  refine ⟨_, rfl, rfl, rfl, ?_⟩
  intro archive
  refine ⟨_, _, _, rfl, ?_, rfl, ?_, rfl, ?_⟩ <;> decide +kernel

end ServerResources.Bean
