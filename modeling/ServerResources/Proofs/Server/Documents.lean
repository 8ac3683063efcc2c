import ServerResources.Proofs.Schema.Kinds
import ServerResources.Proofs.Server.Isolation
import ServerResources.Proofs.Server.Storable

/-!
# Documents of the service

The descriptors that the service holds are read back from the documents that it writes
for them, after registration gave sessions to their applications as before.  A session is
read back whatever it is like, so all that matters is that the stored applications have
room, and they have it because they were read.
-/

namespace ServerResources

theorem Definitions.fits_install (definitions : Definitions)
    {application : Application MailSession} (fits : application.Fits) :
    (definitions.install application).1.Fits := by
  have same := definitions.read_install application
  rw [← same, read, Application.fits_map] at fits
  exact fits

/-- An application that was read and installed is read back, whatever became of the
definitions since. -/
theorem Application.decode_dump_of_install {origin : Origin} {document : Json}
    {application : Application MailSession} (read : decode origin document = .valid application)
    (definitions later : Definitions) (again : Origin) :
    decode again (later.read (definitions.install application).1).dump =
      .valid (later.read (definitions.install application).1) := by
  apply decode_dump
  rw [Definitions.read, fits_map]
  exact definitions.fits_install (fits_of_decode read)

/-- Every descriptor is read back. -/
structure Catalog.ReadsBack (catalog : Catalog MailSession) : Prop where
  connectors : ∀ name connector, catalog.connector? name = some connector →
    ∀ origin, Connector.decode origin connector.dump = .valid connector
  applications : ∀ name application, catalog.application? name = some application →
    ∀ origin, Application.decode origin application.dump = .valid application

namespace Server

open Http

variable {server : Server}

/-- The stored applications have room. -/
def Roomy (server : Server) : Prop :=
  ∀ name application, server.catalog.application? name = some application → application.Fits

/-- Only what is read is stored. -/
theorem Roomy.dispatch (roomy : server.Roomy) (request : Request) :
    (server.dispatch request).2.Roomy := by
  have change := server.change_dispatch request
  generalize (server.dispatch request).1 = response at change
  generalize (server.dispatch request).2 = after at change ⊢
  cases change with
  | nothing => exact roomy
  | connectorStored => exact roomy
  | connectorRemoved => exact roomy
  | applicationStored application posted =>
      intro name stored found
      rw [deployApplication_eq, application?_entering, catalog_withdraw] at found
      split at found
      next =>
        cases found
        exact Definitions.fits_install _ (Request.fits_of_application? posted)
      next => exact roomy name stored found
  | applicationRemoved removed known =>
      intro name stored found
      rw [removeApplication_of_some (Option.isSome_iff_ne_none.mp known), application?_leaving,
        catalog_withdraw] at found
      split at found
      next => cases found
      next => exact roomy name stored found

theorem Roomy.after (roomy : server.Roomy) (requests : List Request) :
    (server.after requests).Roomy := by
  induction requests generalizing server with
  | nil => exact roomy
  | cons request rest ih =>
      have silent : server.withoutWarnings.Roomy := roomy
      exact ih (silent.dispatch request)

theorem Roomy.readsBack (roomy : server.Roomy) : server.descriptors.ReadsBack where
  connectors := by
    intro name connector found origin
    exact Connector.decode_dump origin connector
  applications := by
    intro name application found origin
    rw [descriptors, Catalog.application?_map, Option.map_eq_some_iff] at found
    rcases found with ⟨references, found, rfl⟩
    apply Application.decode_dump
    rw [Application.fits_map]
    exact roomy name references found

/-- Whatever is read, of any kind, is read back from its own document, so that normalizing
twice is normalizing once.  That stays so when registration gives a session to an
application, and it holds of all descriptors of a service, whatever was asked of it and
whatever names are out of service. -/
theorem documents_read_back :
    (∀ kind ∈ Document.Kind.all, kind.ReadsBack) ∧
    (∀ title document written, Document.normalize? title document = some (.valid written) →
      Document.normalize? title written = some (.valid written)) ∧
    (∀ (σ : Type) (registrar : Registrar σ) (application : String) (session : MailSession)
        (origin : Origin),
      MailSession.decode origin (registrar.claim application session).dump =
        .valid (registrar.claim application session)) ∧
    (∀ origin document application,
      Application.decode origin document = .valid application →
        ∀ (definitions later : Definitions) (again : Origin),
          Application.decode again (later.read (definitions.install application).1).dump =
            .valid (later.read (definitions.install application).1)) ∧
    ∀ settings introspector exposesBindings outage requests,
      (((start settings introspector exposesBindings).disturb outage).after
        requests).descriptors.ReadsBack := by
  refine ⟨?kinds, ?normal, ?claimed, ?installed, ?service⟩
  case kinds =>
    intro kind member
    exact Document.Kind.readsBack_of_mem member
  case normal =>
    intro title document written normal
    exact Document.normalize?_normalize? normal
  case claimed =>
    intro σ registrar application session origin
    exact MailSession.decode_dump origin _
  case installed =>
    intro origin document application read definitions later again
    exact Application.decode_dump_of_install read definitions later again
  case service =>
    intro settings introspector exposesBindings outage requests
    have roomy : ((start settings introspector exposesBindings).disturb outage).Roomy := by
      intro name application found
      cases found
    exact (roomy.after requests).readsBack

/-- A bundle with an extension.  Its session gives the sender by the short name, and has a
property that is confidential in other words. -/
def nestedBundle : Json :=
  let property := Json.object [("name", .string "password"), ("confidential", .string "YES")]
  let session := Json.object
    [ ("name", .string "java:app/mail"),
      ("from", .string "shop@localhost"),
      ("config_properties", .array [property]) ]
  let extension := Json.object
    [ ("name", .string "beans"),
      ("bundle_type", .string "ejb"),
      ("mail_sessions", .array [session]) ]
  .object [("name", .string "web"), ("extension_descriptors", .array [extension])]

theorem documents_read_back_nested :
    ∃ bundle, Bundle.decode .document nestedBundle = .valid bundle ∧
      bundle.extensions.map Bundle.kind = [.ejb] ∧
      (bundle.extensions.flatMap Bundle.environment).map MailSession.sender =
        [some "shop@localhost"] ∧
      Bundle.decode .requestBody bundle.dump = .valid bundle ∧
      Document.normalize? "BundleDescriptor" bundle.dump = some (.valid bundle.dump) := by
  obtain ⟨readsBack, normal, -⟩ := documents_read_back
  have known : ⟨"BundleDescriptor", Bundle MailSession, Bundle.decode, Bundle.dump⟩ ∈
      Document.Kind.all := by
    simp [Document.Kind.all]
  refine ⟨_, rfl, rfl, rfl, ?again, ?normal⟩
  case again => exact readsBack _ known .document nestedBundle _ rfl .requestBody
  case normal => exact normal "BundleDescriptor" nestedBundle _ rfl

end Server

end ServerResources
