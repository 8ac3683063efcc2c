import ServerResources.Definitions
import ServerResources.MailResource
import ServerResources.Proofs.Query.Declared

/-!
# What mail resources show of declared properties

A mail resource shows its properties in four ways: as a list, one at a time, by value with
a substitute, and as the classes of its protocols.  All of them tell of the same
declarations.  A name that is declared several times is listed once, at the place of its
first declaration and with the value of its last one, and a last declaration without a value
hides the values of those before it.
-/

namespace ServerResources.MailResource

variable (resource : MailResource MailSession)

/-! ## The list -/

theorem names_properties :
    resource.properties.map MailProperty.name =
      (Property.declared resource.session.properties).keys := by
  rw [properties, List.map_map]
  rfl

theorem mem_names_properties (name : String) :
    name ∈ resource.properties.map MailProperty.name ↔
      name ∈ resource.session.properties.map Property.name := by
  rw [names_properties, Property.mem_keys_declared]

/-- Each declared name is listed once, and no other name is listed. -/
theorem count_names_properties (name : String) :
    (resource.properties.map MailProperty.name).count name =
      if name ∈ resource.session.properties.map Property.name then 1 else 0 := by
  have distinct : (resource.properties.map MailProperty.name).Nodup := by
    rw [names_properties]
    exact OrderedMap.nodup_keys _
  simp only [distinct.count, mem_names_properties]

theorem pairwise_properties :
    resource.properties.Pairwise fun shown later =>
      Property.place resource.session.properties shown.name <
        Property.place resource.session.properties later.name := by
  have ordered := Property.pairwise_keys_declared resource.session.properties
  rw [← names_properties, List.pairwise_map] at ordered
  exact ordered

variable {resource}

/-- A listed property is what a last declaration says about its name. -/
theorem exists_isLastBy_of_mem {shown : MailProperty} (member : shown ∈ resource.properties) :
    ∃ declaration, IsLastBy Property.name resource.session.properties declaration ∧
      shown = { name := declaration.name, value := declaration.value } := by
  rcases List.mem_map.mp member with ⟨⟨name, value⟩, entry, rfl⟩
  have found := (OrderedMap.get?_eq_some_iff _ name value).mpr entry
  have listed : name ∈ resource.session.properties.map Property.name := by
    rw [← Property.mem_keys_declared, OrderedMap.mem_keys_iff]
    exact ⟨value, found⟩
  obtain ⟨declaration, last, rfl⟩ := exists_isLastBy listed
  rw [Property.get?_declared_of_isLastBy last, Option.some.injEq] at found
  exact ⟨declaration, last, by rw [found]⟩

/-! ## One property -/

theorem property_of_isLastBy {declaration : Property}
    (last : IsLastBy Property.name resource.session.properties declaration) :
    resource.property declaration.name =
      { name := declaration.name, value := declaration.value } := by
  rw [property, MailSession.property?, Property.value?_of_isLastBy last]

theorem property_of_undeclared {name : String}
    (undeclared : name ∉ resource.session.properties.map Property.name) :
    resource.property name = { name := name } := by
  rw [property, MailSession.property?, Property.value?_of_undeclared undeclared]

theorem propertyValue_of_isLastBy {declaration : Property}
    (last : IsLastBy Property.name resource.session.properties declaration)
    (absent : Option String) :
    resource.propertyValue declaration.name absent = declaration.value.or absent := by
  rw [propertyValue, MailSession.property?, Property.value?_of_isLastBy last]

theorem propertyValue_of_undeclared {name : String}
    (undeclared : name ∉ resource.session.properties.map Property.name)
    (absent : Option String) : resource.propertyValue name absent = absent := by
  rw [propertyValue, MailSession.property?, Property.value?_of_undeclared undeclared,
    Option.none_or]

/-! ## The classes of the protocols -/

/-- What is shown of the class of a protocol, by itself and under a key. -/
structure ShowsClass (resource : MailResource MailSession) (protocol shown : Option String)
    (key : String) : Prop where
  absent : protocol = none → shown = none ∧ resource.dump.field? key = some .null
  present : ∀ name, protocol = some name →
    shown = (resource.property ("mail." ++ name ++ ".class")).value ∧
      resource.dump.field? key =
        some (.ofString? (resource.property ("mail." ++ name ++ ".class")).value)

/-- Both protocols have their classes from the property that is named after them. -/
theorem showsClass_of_dumped {protocol shown : Option String} {key : String}
    (read : shown = protocol.bind fun name => resource.session.property? (classProperty name))
    (dumped : resource.dump.field? key = some (.ofString? shown)) :
    resource.ShowsClass protocol shown key := by
  constructor
  case absent =>
    rintro rfl
    rw [dumped, read]
    exact ⟨rfl, rfl⟩
  case present =>
    rintro name rfl
    rw [dumped, read]
    exact ⟨rfl, rfl⟩

/-! ## Agreement -/

/-- How a mail resource shows the declarations of its session. -/
structure ShowsDeclarations (resource : MailResource MailSession) : Prop where
  /-- Exactly the declared names are listed, each of them once. -/
  once : ∀ name, (resource.properties.map MailProperty.name).count name =
    if name ∈ resource.session.properties.map Property.name then 1 else 0
  /-- The names are listed in the order of their first declarations. -/
  ordered : resource.properties.Pairwise fun shown later =>
    Property.place resource.session.properties shown.name <
      Property.place resource.session.properties later.name
  /-- The listed values are those of the last declarations. -/
  values : ∀ shown ∈ resource.properties, ∃ declaration,
    IsLastBy Property.name resource.session.properties declaration ∧
      declaration.name = shown.name ∧ declaration.value = shown.value
  listed : ∀ shown ∈ resource.properties, resource.property shown.name = shown
  unlisted : ∀ name, name ∉ resource.properties.map MailProperty.name →
    resource.property name = { name := name }
  valued : ∀ declaration, IsLastBy Property.name resource.session.properties declaration →
    ∀ value, declaration.value = some value →
      ∀ absent, resource.propertyValue declaration.name absent = some value
  /-- A last declaration without a value hides the values of those before it. -/
  unvalued : ∀ declaration, IsLastBy Property.name resource.session.properties declaration →
    declaration.value = none →
      ∀ absent, resource.propertyValue declaration.name absent = absent
  undeclared : ∀ name, name ∉ resource.session.properties.map Property.name →
    ∀ absent, resource.propertyValue name absent = absent
  store : resource.ShowsClass resource.session.storeProtocol resource.storeProtocolClass
    "store_protocol_class"
  transport : resource.ShowsClass resource.session.transportProtocol
    resource.transportProtocolClass "transport_protocol_class"

/-- The list of properties, each single one, the values with a substitute and the classes of
the protocols tell of the same declarations. -/
theorem shows_declarations (resource : MailResource MailSession) :
    resource.ShowsDeclarations := by
  constructor
  case once => exact resource.count_names_properties
  case ordered => exact resource.pairwise_properties
  case values =>
    intro shown member
    obtain ⟨declaration, last, rfl⟩ := exists_isLastBy_of_mem member
    exact ⟨declaration, last, rfl, rfl⟩
  case listed =>
    intro shown member
    obtain ⟨declaration, last, rfl⟩ := exists_isLastBy_of_mem member
    exact property_of_isLastBy last
  case unlisted =>
    intro name unlisted
    rw [mem_names_properties] at unlisted
    exact property_of_undeclared unlisted
  case valued =>
    intro declaration last value valued absent
    rw [propertyValue_of_isLastBy last, valued, Option.some_or]
  case unvalued =>
    intro declaration last unvalued absent
    rw [propertyValue_of_isLastBy last, unvalued, Option.none_or]
  case undeclared =>
    intro name undeclared
    exact propertyValue_of_undeclared undeclared
  case store => exact showsClass_of_dumped rfl rfl
  case transport => exact showsClass_of_dumped rfl rfl

/-- A session that declares two names twice, the host without a value in the end. -/
def redeclaringSession : MailSession :=
  { MailSession.blank with
    name := "java:app/mail"
    storeProtocol := some "imap"
    properties :=
      [ ⟨"mail.host", some "mail.example.com", Property.defaultType, none, false⟩,
        ⟨"mail.imap.class", some "beans.Store", Property.defaultType, none, false⟩,
        ⟨"mail.port", some "143", Property.defaultType, none, false⟩,
        ⟨"mail.imap.class", some "beans.SecureStore", Property.defaultType, none, true⟩,
        ⟨"mail.host", none, Property.defaultType, none, false⟩ ] }

/-- The host comes first and the class before the port, as in the first declarations.  The
class is that of its last declaration, and the host has no value. -/
theorem shows_declarations_redeclaring :
    let resource : MailResource MailSession := ⟨redeclaringSession, "java:app/mail"⟩
    resource.properties =
      [ { name := "mail.host" },
        { name := "mail.imap.class", value := some "beans.SecureStore" },
        { name := "mail.port", value := some "143" } ] ∧
    (resource.properties.map MailProperty.name).count "mail.host" = 1 ∧
    resource.property "mail.user" = { name := "mail.user" } ∧
    resource.propertyValue "mail.port" none = some "143" ∧
    resource.propertyValue "mail.host" (some "localhost") = some "localhost" ∧
    resource.propertyValue "mail.user" (some "postmaster") = some "postmaster" ∧
    resource.storeProtocolClass = some "beans.SecureStore" ∧
    resource.dump.field? "transport_protocol_class" = some .null := by
  intro resource
  have shows := shows_declarations resource
  have list : resource.properties =
      [ { name := "mail.host" },
        { name := "mail.imap.class", value := some "beans.SecureStore" },
        { name := "mail.port", value := some "143" } ] := rfl
  have storeClass : resource.property "mail.imap.class" =
      { name := "mail.imap.class", value := some "beans.SecureStore" } := by
    apply shows.listed { name := "mail.imap.class", value := some "beans.SecureStore" }
    simp [list]
  refine ⟨list, ?_, ?_, ?_, ?_, ?_, ?_, ?_⟩
  · exact shows.once "mail.host"
  · exact shows.unlisted "mail.user" (by simp [list])
  · exact shows.valued _ ⟨redeclaringSession.properties.take 2, _, rfl, by decide⟩ "143" rfl none
  · exact shows.unvalued _ ⟨redeclaringSession.properties.take 4, _, rfl, by decide⟩ rfl
      (some "localhost")
  · exact shows.undeclared "mail.user" (by decide) (some "postmaster")
  · exact (shows.store.present "imap" rfl).1.trans (congrArg MailProperty.value storeClass)
  · exact (shows.transport.absent rfl).2

end ServerResources.MailResource
