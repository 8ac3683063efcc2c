import ServerResources.Document
import ServerResources.Proofs.OrderedMap
import ServerResources.Proofs.Schema.RoundTrip

/-!
# Kinds of document

For each kind of document a value is read from the document that is written for it.
Bundles and applications are the only kinds for which this takes that the value was
read, and so has room.  Reading a document and writing it back therefore gives a normal
form: what was written comes out unchanged when it is read and written again.
-/

namespace ServerResources

/-! ## Flat documents -/

theorem Settings.decode_dump (origin : Origin) (settings : Settings) :
    decode origin settings.dump = .valid settings := by
  simp [decode, dump, Decoder.object, Decoder.optional, OrderedMap.find, Decoder.string]

theorem BindingKey.decode_dump (origin : Origin) (key : BindingKey) :
    decode origin key.dump = .valid key := by
  simp [decode, dump, Decoder.object, Decoder.required, Decoder.optional,
    Decoder.optionalString, OrderedMap.find, Decoder.nullable_ofString?, Decoder.string]

theorem MailProperty.decode_dump (origin : Origin) (property : MailProperty) :
    decode origin property.dump = .valid property := by
  simp [decode, dump, Decoder.object, Decoder.required, Decoder.optional,
    Decoder.optionalString, OrderedMap.find, Decoder.nullable_ofString?, Decoder.string]

theorem RegistrationReport.decode_dump (origin : Origin) (report : RegistrationReport) :
    decode origin report.dump = .valid report := by
  have sessions : Decoder.list Decoder.string (.ofStrings report.sessions) =
      .valid report.sessions :=
    Decoder.list_map report.sessions fun _ _ => rfl
  simp [decode, dump, Decoder.object, Decoder.required, OrderedMap.find, Decoder.string,
    sessions]

/-- A bundle that was read is read back. -/
theorem Bundle.decode_dump_of_decode {origin : Origin} {document : Json}
    {bundle : Bundle MailSession} (read : decode origin document = .valid bundle)
    (again : Origin) : decode again bundle.dump = .valid bundle :=
  decodeAt_dump again 1 bundle (fits_of_decodeAt origin 1 document read)

/-- An application that was read is read back. -/
theorem Application.decode_dump_of_decode {origin : Origin} {document : Json}
    {application : Application MailSession} (read : decode origin document = .valid application)
    (again : Origin) : decode again application.dump = .valid application :=
  decode_dump again application (fits_of_decode read)

namespace Document

/-! ## Kinds -/

/-- A kind of document: how its values are read and written. -/
structure Kind where
  title : String
  Value : Type
  decode : Origin → Decoder Value
  dump : Value → Json

namespace Kind

/-- Every kind that there is. -/
def all : List Kind :=
  [ ⟨"ConfigProperty", Property, Property.decode, Property.dump⟩,
    ⟨"AdminObjectDefinition", AdminObject, AdminObject.decode, AdminObject.dump⟩,
    ⟨"ConnectorDescriptor", Connector, Connector.decode, Connector.dump⟩,
    ⟨"MailSessionDefinition", MailSession, MailSession.decode, MailSession.dump⟩,
    ⟨"ComponentDescriptor", Component MailSession, Component.decode, Component.dump⟩,
    ⟨"BundleDescriptor", Bundle MailSession, Bundle.decode, Bundle.dump⟩,
    ⟨"ApplicationDescriptor", Application MailSession, Application.decode, Application.dump⟩,
    ⟨"ConnectorRuntimeConfig", Settings, Settings.decode, Settings.dump⟩,
    ⟨"ResourceInfo", BindingKey, BindingKey.decode, BindingKey.dump⟩,
    ⟨"MailSessionProperty", MailProperty, MailProperty.decode, MailProperty.dump⟩,
    ⟨"RegistrationResponse", RegistrationReport, RegistrationReport.decode,
      RegistrationReport.dump⟩ ]

/-- What was read is read again, as it was, from the document that is written for it, be
that given as a document or as the body of a request. -/
def ReadsBack (kind : Kind) : Prop :=
  ∀ origin document value, kind.decode origin document = .valid value →
    ∀ again, kind.decode again (kind.dump value) = .valid value

theorem readsBack_of_decode_dump {kind : Kind}
    (decode_dump : ∀ origin value, kind.decode origin (kind.dump value) = .valid value) :
    kind.ReadsBack := by
  intro origin document value read again
  exact decode_dump again value

theorem readsBack_of_mem {kind : Kind} (member : kind ∈ all) : kind.ReadsBack := by
  simp only [all, List.mem_cons, List.not_mem_nil, or_false] at member
  rcases member with rfl | rfl | rfl | rfl | rfl | rfl | rfl | rfl | rfl | rfl | rfl
  · exact readsBack_of_decode_dump Property.decode_dump
  · exact readsBack_of_decode_dump AdminObject.decode_dump
  · exact readsBack_of_decode_dump Connector.decode_dump
  · exact readsBack_of_decode_dump MailSession.decode_dump
  · exact readsBack_of_decode_dump Component.decode_dump
  · intro origin document bundle read
    exact Bundle.decode_dump_of_decode read
  · intro origin document application read
    exact Application.decode_dump_of_decode read
  · exact readsBack_of_decode_dump Settings.decode_dump
  · exact readsBack_of_decode_dump BindingKey.decode_dump
  · exact readsBack_of_decode_dump MailProperty.decode_dump
  · exact readsBack_of_decode_dump RegistrationReport.decode_dump

/-- A document of this kind that is read and written back. -/
def normalize (kind : Kind) : Decoder Json :=
  normalizeWith (kind.decode .document) kind.dump

/-- Normalizing twice is normalizing once. -/
theorem ReadsBack.normalize_normalize {kind : Kind} (readsBack : kind.ReadsBack)
    {document written : Json} (normal : kind.normalize document = .valid written) :
    kind.normalize written = .valid written := by
  rw [normalize, normalizeWith, Validated.map_eq_valid_iff] at normal
  rcases normal with ⟨value, read, rfl⟩
  rw [normalize, normalizeWith, readsBack .document document value read .document,
    Validated.map_valid]

end Kind

theorem kinds_eq : kinds = Kind.all.map fun kind => (kind.title, kind.normalize) :=
  rfl

/-- What a document of a title was normalized to is normal. -/
theorem normalize?_normalize? {title : String} {document written : Json}
    (normal : normalize? title document = some (.valid written)) :
    normalize? title written = some (.valid written) := by
  rw [normalize?, Option.map_eq_some_iff] at normal
  rcases normal with ⟨normalize, found, normal⟩
  have member := OrderedMap.mem_of_find found
  rw [kinds_eq, List.mem_map] at member
  rcases member with ⟨kind, known, equal⟩
  cases equal
  rw [normalize?, found, Option.map_some,
    (Kind.readsBack_of_mem known).normalize_normalize normal]

end Document

end ServerResources
