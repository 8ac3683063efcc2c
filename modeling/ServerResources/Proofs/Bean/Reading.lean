import ServerResources.Introspector
import ServerResources.Proofs.Bean.Visibility

/-!
# Reading what a class offers

The properties of a class are read in ascending order, and only those that it offers.  So of
the getters that raise the one with the least name is blamed, and what stands behind it is not
read.  If none raises, the texts of the properties come first, in the same order, and the
attributes are written over them.

Both outcomes are described by what is offered and by the attributes alone.  The members
themselves play no part any more, and two classes that offer alike are read alike.
-/

namespace ServerResources.Bean

variable {bean : Bean}

/-! ## At one name -/

/-- Whether a property that is offered gives a text. -/
def ReadsProperty (bean : Bean) (name text : String) : Prop :=
  ∃ value, bean.Offers name (.returns value) ∧ value.text? = some text

/-- Whether a public attribute gives a text. -/
def ReadsAttribute (bean : Bean) (name text : String) : Prop :=
  Text.begins "_" name = false ∧
    ∃ value, bean.attributes.get? name = some value ∧ value.text? = some text

/-- The failure of the getter of a name, if it is read and raises. -/
def failure? (bean : Bean) (name : String) : Option ReadFailure :=
  match bean.readable name with
  | some (.raises cause) => some ⟨name, cause⟩
  | _ => none

/-- A name with the text that its getter gives, if it is read. -/
def propertyReading? (bean : Bean) (name : String) : Option (String × String) :=
  match bean.readable name with
  | some (.returns value) => value.text?.map (Prod.mk name)
  | _ => none

theorem failure?_eq_some_iff (bean : Bean) (name : String) (failure : ReadFailure) :
    bean.failure? name = some failure ↔
      failure.property = name ∧ bean.Offers name (.raises failure.cause) := by
  obtain ⟨property, cause⟩ := failure
  rw [← readable_eq_some_iff, failure?]
  rcases bean.readable name with _ | value | raised
  · simp
  · simp
  · simp [eq_comm]

theorem failure?_eq_none_iff (bean : Bean) (name : String) :
    bean.failure? name = none ↔ ∀ cause, ¬ bean.Offers name (.raises cause) := by
  simp only [← readable_eq_some_iff, failure?]
  rcases bean.readable name with _ | value | raised <;> simp

theorem propertyReading?_eq_some_iff (bean : Bean) (name other text : String) :
    bean.propertyReading? other = some (name, text) ↔
      other = name ∧ bean.ReadsProperty name text := by
  constructor
  · intro found
    rw [propertyReading?] at found
    split at found
    next value offered =>
        obtain ⟨read, given, same⟩ := Option.map_eq_some_iff.mp found
        cases same
        exact ⟨rfl, value, (readable_eq_some_iff bean _ _).mp offered, given⟩
    next => cases found
  · rintro ⟨rfl, value, offered, given⟩
    rw [propertyReading?, (readable_eq_some_iff bean _ _).mpr offered]
    simp [given]

/-! ## Up to the first failure -/

/-- The first getter that raises decides, and without one every text is taken. -/
theorem readProperties_eq (bean : Bean) (names : List String) :
    bean.readProperties names =
      match names.findSome? bean.failure? with
      | some failure => .error failure
      | none => .ok (names.filterMap bean.propertyReading?) := by
  induction names with
  | nil => rfl
  | cons name rest ih =>
      rw [readProperties, List.findSome?_cons, List.filterMap_cons, failure?, propertyReading?]
      rcases bean.readable name with _ | value | cause
      · exact ih
      · rw [ih]
        dsimp only
        cases rest.findSome? bean.failure? with
        | some failure => rfl
        | none => cases value.text? <;> rfl
      · rfl

/-- Names without anything to read do not matter. -/
theorem readProperties_filter (bean : Bean) (names : List String) :
    bean.readProperties (names.filter fun name => (bean.readable name).isSome) =
      bean.readProperties names := by
  induction names with
  | nil => rfl
  | cons name rest ih =>
      cases offered : bean.readable name with
      | none => simp [offered, readProperties, ih]
      | some getter => simp [offered, readProperties, ih]

theorem readProperties_offeredNames (bean : Bean) :
    bean.readProperties bean.offeredNames = bean.readProperties bean.memberNames :=
  bean.readProperties_filter bean.memberNames

theorem readProperties_congr {left right : Bean}
    (same : ∀ name, left.readable name = right.readable name) (names : List String) :
    left.readProperties names = right.readProperties names := by
  induction names with
  | nil => rfl
  | cons name rest ih => rw [readProperties, readProperties, same, ih]

/-! ## The defaults -/

/-- The defaults of a class of which no getter raises.  Its properties come in ascending
order, then its attributes in theirs, and an attribute replaces the property of its name. -/
structure Overlay (bean : Bean) (defaults : PropertyBag) : Prop where
  get?_iff : ∀ name text, defaults.get? name = some text ↔
    bean.ReadsAttribute name text ∨
      bean.ReadsProperty name text ∧ ∀ other, ¬ bean.ReadsAttribute name other
  ordered : ∃ properties attributes, defaults.keys = properties ++ attributes ∧
    properties.Pairwise (· < ·) ∧
    (∀ name, name ∈ properties ↔ ∃ text, bean.ReadsProperty name text) ∧
    attributes.Sublist bean.attributes.keys

theorem mem_attributeTexts (bean : Bean) (name text : String) :
    (name, text) ∈ bean.attributeTexts ↔ bean.ReadsAttribute name text := by
  simp only [attributeTexts, ReadsAttribute, List.mem_filterMap, isPublic,
    OrderedMap.get?_eq_some_iff]
  constructor
  · rintro ⟨⟨other, value⟩, member, given⟩
    cases hidden : Text.begins "_" other with
    | true => simp [hidden] at given
    | false =>
        simp only [hidden, Bool.not_false, if_true] at given
        obtain ⟨read, scalar, same⟩ := Option.map_eq_some_iff.mp given
        cases same
        exact ⟨hidden, value, member, scalar⟩
  · rintro ⟨isPublic, value, member, scalar⟩
    exact ⟨(name, value), member, by simp [isPublic, scalar]⟩

/-- Items that are kept keep their order. -/
theorem map_filterMap_sublist {α β γ : Type} {keep : α → Option β} {before : α → γ} {after : β → γ}
    (same : ∀ item kept, keep item = some kept → after kept = before item) (items : List α) :
    ((items.filterMap keep).map after).Sublist (items.map before) := by
  induction items with
  | nil => exact .slnil
  | cons item rest ih =>
      cases kept : keep item with
      | none =>
          rw [List.filterMap_cons_none kept]
          exact ih.cons _
      | some value =>
          rw [List.filterMap_cons_some kept, List.map_cons, List.map_cons, same item value kept]
          exact ih.cons_cons _

theorem map_fst_attributeTexts_sublist (bean : Bean) :
    (bean.attributeTexts.map Prod.fst).Sublist bean.attributes.keys := by
  apply map_filterMap_sublist
  intro entry kept given
  split at given
  next =>
      obtain ⟨text, -, rfl⟩ := Option.map_eq_some_iff.mp given
      rfl
  next => cases given

theorem map_fst_propertyReadings_sublist (bean : Bean) (names : List String) :
    ((names.filterMap bean.propertyReading?).map Prod.fst).Sublist names := by
  have named : ∀ name entry, bean.propertyReading? name = some entry → entry.1 = id name := by
    intro name entry given
    exact (((bean.propertyReading?_eq_some_iff _ _ _).mp given).1).symm
  simpa using map_filterMap_sublist named names

theorem mem_propertyReadings (bean : Bean) (name text : String) :
    (name, text) ∈ bean.memberNames.filterMap bean.propertyReading? ↔
      bean.ReadsProperty name text := by
  rw [List.mem_filterMap]
  constructor
  · rintro ⟨other, -, given⟩
    exact ((bean.propertyReading?_eq_some_iff name other text).mp given).2
  · intro reads
    have ⟨value, offered, _⟩ := reads
    exact ⟨name, mem_memberNames_of_offers offered,
      (bean.propertyReading?_eq_some_iff name name text).mpr ⟨rfl, reads⟩⟩

/-- Attributes that are written over properties. -/
theorem overlay_insertAll (bean : Bean) :
    Overlay bean ((OrderedMap.ofList (bean.memberNames.filterMap bean.propertyReading?)).insertAll
      bean.attributeTexts) := by
  have attributesDistinct : (bean.attributeTexts.map Prod.fst).Nodup :=
    bean.attributes.nodup_keys.sublist bean.map_fst_attributeTexts_sublist
  have ascending : ((bean.memberNames.filterMap bean.propertyReading?).map Prod.fst).Pairwise
      (· < ·) :=
    (Ascending.pairwise_ofList _).sublist (bean.map_fst_propertyReadings_sublist _)
  have propertiesDistinct := Ascending.nodup_of_ascending ascending
  constructor
  · intro name text
    rw [OrderedMap.get?_insertAll_eq_some_iff _ attributesDistinct, mem_attributeTexts,
      OrderedMap.ofList, OrderedMap.get?_insertAll_eq_some_iff _ propertiesDistinct,
      mem_propertyReadings]
    have absent : name ∉ bean.attributeTexts.map Prod.fst ↔
        ∀ other, ¬ bean.ReadsAttribute name other := by
      simp only [← mem_attributeTexts, List.mem_map, not_exists, not_and]
      constructor
      · intro none other member
        exact none (name, other) member rfl
      · rintro none ⟨_, other⟩ member rfl
        exact none other member
    rw [absent]
    simp [and_comm]
  · rw [OrderedMap.keys_insertAll_of_nodup _ attributesDistinct, OrderedMap.ofList,
      OrderedMap.keys_insertAll_of_nodup _ propertiesDistinct]
    refine ⟨_, _, rfl, by simpa using ascending, ?_,
      List.filter_sublist.trans bean.map_fst_attributeTexts_sublist⟩
    intro name
    simp [← mem_propertyReadings]

/-- If any getter raises, reading ends in the failure of the least property that does. -/
theorem defaults_eq_error (raising : ∃ name cause, bean.Offers name (.raises cause)) :
    ∃ failure, bean.defaults = .error failure ∧
      bean.Offers failure.property (.raises failure.cause) ∧
      ∀ name cause, bean.Offers name (.raises cause) → failure.property ≤ name := by
  cases first : bean.memberNames.findSome? bean.failure? with
  | none =>
      obtain ⟨name, cause, offered⟩ := raising
      have quiet := List.findSome?_eq_none_iff.mp first name (mem_memberNames_of_offers offered)
      exact ((bean.failure?_eq_none_iff name).mp quiet cause offered).elim
  | some failure =>
      obtain ⟨earlier, name, later, split, fails, quiet⟩ := List.findSome?_eq_some_iff.mp first
      obtain ⟨rfl, raises⟩ := (bean.failure?_eq_some_iff name failure).mp fails
      have failed : bean.defaults = .error failure := by
        rw [defaults, readProperties_eq, first]
        rfl
      refine ⟨failure, failed, raises, ?_⟩
      intro other cause offered
      have member : other ∈ bean.memberNames := mem_memberNames_of_offers offered
      have ascending : bean.memberNames.Pairwise (· < ·) := Ascending.pairwise_ofList _
      rw [split] at member ascending
      -- no name before the first failure raises, and all names behind it are greater
      rcases List.mem_append.mp member with before | after
      · exact ((bean.failure?_eq_none_iff other).mp (quiet other before) cause offered).elim
      · rcases List.mem_cons.mp after with rfl | behind
        · exact String.le_refl _
        · have less := List.rel_of_pairwise_cons (List.pairwise_append.mp ascending).2.1 behind
          exact String.not_lt.mp (String.lt_asymm less)

theorem defaults_eq_ok (quiet : ∀ name cause, ¬ bean.Offers name (.raises cause)) :
    ∃ defaults, bean.defaults = .ok defaults ∧ Overlay bean defaults := by
  have first : bean.memberNames.findSome? bean.failure? = none := by
    rw [List.findSome?_eq_none_iff]
    intro name _
    exact (bean.failure?_eq_none_iff name).mpr (quiet name)
  refine ⟨_, ?_, bean.overlay_insertAll⟩
  rw [defaults, readProperties_eq, first]
  rfl

/-- Members that are not offered do not matter. -/
theorem OffersAlike.defaults_eq {left right : Bean} (alike : OffersAlike left right) :
    left.defaults = right.defaults := by
  have properties : left.readProperties left.memberNames =
      right.readProperties right.memberNames := by
    rw [← readProperties_offeredNames left, ← readProperties_offeredNames right,
      alike.offeredNames_eq]
    exact readProperties_congr alike.readable_eq _
  have attributes : left.attributeTexts = right.attributeTexts := by
    rw [attributeTexts, attributeTexts, alike.attributes_eq]
  rw [defaults, defaults, properties, attributes]

/-! ## Introspection -/

/-- Whether a class is read like the one that a loader gives for the same name. -/
def ReadLike (load : Loader) (className : String) (bean : Bean) : Prop :=
  ∀ other : Loader, other className = .ok bean → ∀ known archive,
    Introspector.readBean other className known archive =
      Introspector.readBean load className known archive

/-- How introspection ends for a class that is loaded and constructed, and what that depends
on. -/
structure Introspected (load : Loader) (className : String) (bean : Bean) : Prop where
  /-- A property that is offered and raises is the only reason for a failure. -/
  fails_iff : ∀ known archive,
    (∃ fault, Introspector.readBean load className known archive = .error fault) ↔
      ∃ name cause, bean.Offers name (.raises cause)
  /-- The least of them is blamed, whatever is declared. -/
  blames_least : (∃ name cause, bean.Offers name (.raises cause)) →
    ∃ name cause, bean.Offers name (.raises cause) ∧
      (∀ other otherCause, bean.Offers other (.raises otherCause) → name ≤ other) ∧
      ∀ known archive, Introspector.readBean load className known archive =
        .error (.introspection (.unreadable name className cause))
  /-- Without any, declared names are matched with the properties and attributes. -/
  reads : (∀ name cause, ¬ bean.Offers name (.raises cause)) →
    ∃ defaults, bean.defaults = .ok defaults ∧ Overlay bean defaults ∧ ∀ known archive,
      Introspector.readBean load className known archive = .ok (matchNames defaults known)
  /-- Only what is offered matters, and the attributes. -/
  of_offers : ∀ other : Bean, (∀ name getter, bean.Offers name getter ↔ other.Offers name getter) →
    bean.attributes = other.attributes → bean.constructorFailure = other.constructorFailure →
    ReadLike load className other
  /-- No private, read-only, write-only or hidden member matters. -/
  of_ineffective : ∀ derived layer base earlier later name old new,
    bean = placing derived layer base earlier later name old →
    Ineffective derived later name old new →
    ReadLike load className (placing derived layer base earlier later name new)
  /-- The order of members does not matter as long as those of one name keep theirs. -/
  of_reordered : ∀ other : Bean, List.Forall₂ Layer.Reordered bean.layers other.layers →
    ReadLike load className other
  /-- So members with different names may come in any order. -/
  of_perm : ∀ derived layer base members, bean = ⟨derived ++ layer :: base⟩ →
    layer.members.Perm members → (layer.members.map Prod.fst).Nodup →
    ReadLike load className ⟨derived ++ { layer with members := members } :: base⟩

variable {load : Loader} {className : String}

/-- The declared names play no part before the defaults are read. -/
theorem readBean_of_loaded (loaded : load className = .ok bean)
    (constructed : bean.constructorFailure = none) (known : List String)
    (archive : Option String) :
    Introspector.readBean load className known archive =
      match bean.defaults with
      | .error failure =>
          .error (.introspection (.unreadable failure.property className failure.cause))
      | .ok defaults => .ok (matchNames defaults known) := by
  cases read : bean.defaults with
  | error failure =>
      simp only [Introspector.readBean, loaded, bind, Except.bind, constructed, read]
  | ok defaults =>
      simp only [Introspector.readBean, loaded, bind, Except.bind, constructed, read]

theorem OffersAlike.readLike {other : Bean} (alike : OffersAlike bean other)
    (loaded : load className = .ok bean) (constructed : bean.constructorFailure = none) :
    ReadLike load className other := by
  intro otherLoad otherLoaded known archive
  have otherConstructed : other.constructorFailure = none := by
    rw [← alike.constructorFailure_eq, constructed]
  rw [readBean_of_loaded loaded constructed, readBean_of_loaded otherLoaded otherConstructed,
    alike.defaults_eq]

/-- Introspection of a class is decided by what the class offers. -/
theorem introspected_of_loaded (load : Loader) (className : String) {bean : Bean}
    (loaded : load className = .ok bean) (constructed : bean.constructorFailure = none) :
    Introspected load className bean := by
  have answer := readBean_of_loaded loaded constructed
  constructor
  case fails_iff =>
      intro known archive
      rw [answer]
      constructor
      · rintro ⟨fault, failed⟩
        by_contra none
        obtain ⟨defaults, read, -⟩ := defaults_eq_ok fun name cause offered =>
          none ⟨name, cause, offered⟩
        rw [read] at failed
        cases failed
      · intro raising
        obtain ⟨failure, failed, -⟩ := defaults_eq_error raising
        rw [failed]
        exact ⟨_, rfl⟩
  case blames_least =>
      intro raising
      obtain ⟨failure, failed, raises, least⟩ := defaults_eq_error raising
      rw [failed] at answer
      exact ⟨failure.property, failure.cause, raises, least, answer⟩
  case reads =>
      intro quiet
      obtain ⟨defaults, read, overlay⟩ := defaults_eq_ok quiet
      rw [read] at answer
      exact ⟨defaults, read, overlay, answer⟩
  case of_offers =>
      intro other offers attributes failure
      exact (OffersAlike.of_offers attributes failure offers).readLike loaded constructed
  case of_ineffective =>
      rintro derived layer base earlier later name old new rfl ineffective
      exact (OffersAlike.of_ineffective ineffective layer base earlier).readLike loaded constructed
  case of_reordered =>
      intro other reordered
      exact (OffersAlike.of_reordered reordered).readLike loaded constructed
  case of_perm =>
      rintro derived layer base members rfl permuted distinct
      exact (OffersAlike.of_perm derived base permuted distinct).readLike loaded constructed

/-- A class with a property that its base class has too.  That of the base class raises, and
so do two others. -/
def sessionBean (getter : Getter) : Bean :=
  ⟨[{ members := [("user", .property (some (.raises "nobody")) true),
        ("host", .property (some getter) false),
        ("password", .property (some (.raises "locked")) true)] },
    { members := [("host", .property (some (.raises "offline")) true)] }]⟩

theorem introspected_of_loaded_session :
    (∃ name cause, (sessionBean (.raises "unknown")).Offers name (.raises cause) ∧
      Introspector.readBean (.ofClasses [("beans.Session", sessionBean (.raises "unknown"))])
          "beans.Session" ["Host"] none =
        .error (.introspection (.unreadable name "beans.Session" cause))) ∧
      Introspector.readBean
          (.ofClasses [("beans.Session", sessionBean (.returns (.text "localhost")))])
          "beans.Session" ["Host"] none =
        Introspector.readBean (.ofClasses [("beans.Session", sessionBean (.raises "unknown"))])
          "beans.Session" ["Host"] none := by
  have session : Introspected (.ofClasses [("beans.Session", sessionBean (.raises "unknown"))])
      "beans.Session" (sessionBean (.raises "unknown")) :=
    introspected_of_loaded _ "beans.Session" rfl rfl
  constructor
  · have raising := (session.fails_iff ["Host"] none).mp ⟨_, rfl⟩
    obtain ⟨name, cause, offers, -, answer⟩ := session.blames_least raising
    exact ⟨name, cause, offers, answer ["Host"] none⟩
  · have alike := session.of_ineffective [] {} _ [_] [_] "host"
      (some (.property (some (.raises "unknown")) false))
      (some (.property (some (.returns (.text "localhost"))) false)) rfl
      (.inr (.inr (.inr ⟨_, _, rfl, rfl, rfl, rfl⟩)))
    exact alike _ rfl ["Host"] none

end ServerResources.Bean
