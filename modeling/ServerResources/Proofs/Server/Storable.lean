import ServerResources.Proofs.Schema.RoundTrip
import ServerResources.Proofs.Server.Effect

/-!
# Descriptors that can be stored again

A stored descriptor was read once, so that it is read back when it is posted, and its
sessions are adopted already, so that registering it again writes nothing new into
it.  `Storable` demands this of all stored descriptors, and that they stand under
their own names.  Every effect keeps it.
-/

namespace ServerResources

open Http

/-- A request that posts a document. -/
def Http.Request.posting (path : String) (body : Json) : Request :=
  { method := .post, path := path, body := some body }

theorem Http.Route.ofPath?_connectors : Route.ofPath? "/connectors" = some .connectors :=
  rfl

theorem Http.Route.ofPath?_applications : Route.ofPath? "/applications" = some .applications :=
  rfl

theorem Http.Request.connector?_posting (connector : Connector) :
    (Request.posting "/connectors" connector.dump).connector? = some connector := by
  rw [connector?, posted?_eq_some_iff]
  refine ⟨⟨rfl, Route.ofPath?_connectors⟩, ?_⟩
  simp only [document, posting, Connector.decode_dump, Validated.under_valid]

theorem Http.Request.application?_posting (application : Application MailSession)
    (fits : application.Fits) :
    (Request.posting "/applications" application.dump).application? = some application := by
  rw [application?, posted?_eq_some_iff]
  refine ⟨⟨rfl, Route.ofPath?_applications⟩, ?_⟩
  simp only [document, posting, Application.decode_dump _ _ fits, Validated.under_valid]

theorem Http.Request.fits_of_application? {request : Request}
    {application : Application MailSession}
    (posted : request.application? = some application) : application.Fits := by
  rw [application?, posted?_eq_some_iff, document] at posted
  rcases posted with ⟨-, read⟩
  split at read
  next => exact Application.fits_of_decode ((Validated.under_eq_valid_iff _ _ _).mp read)
  next => cases read

/-- Registration writes nothing new into an application. -/
def Settings.Settled (settings : Settings) (application : Application MailSession) : Prop :=
  settings.adopt settings.isShared application.name [] application.walk = application.walk

namespace Settings.Adopted

variable {settings : Settings} {application stored : Application MailSession}

theorem settled (adopted : settings.Adopted application stored) : settings.Settled stored := by
  unfold Settled
  rw [adopted.walk_eq, adopted.name_eq]
  exact settings.adopt_adopt _ _ _ _

theorem fits (adopted : settings.Adopted application stored) (fits : application.Fits) :
    stored.Fits := by
  rcases adopted with ⟨references, before, after, rfl, rfl, -⟩
  rw [Application.fits_map] at fits ⊢
  exact fits

end Settings.Adopted

namespace Catalog

/-- The stored descriptors can be stored again as they are. -/
structure Storable (settings : Settings) (catalog : Catalog MailSession) : Prop where
  connectorsNamed : ∀ name connector, catalog.connector? name = some connector →
    connector.name = name
  applicationsNamed : ∀ name application, catalog.application? name = some application →
    application.name = name
  settled : ∀ name application, catalog.application? name = some application →
    settings.Settled application
  fits : ∀ name application, catalog.application? name = some application → application.Fits

theorem storable_empty (settings : Settings) : Storable settings empty where
  connectorsNamed := by
    intro name connector found
    cases found
  applicationsNamed := by
    intro name application found
    cases found
  settled := by
    intro name application found
    cases found
  fits := by
    intro name application found
    cases found

variable {settings : Settings} {catalog : Catalog MailSession}

theorem Storable.storeConnector (storable : Storable settings catalog) (connector : Connector) :
    Storable settings (catalog.storeConnector connector) where
  connectorsNamed := by
    intro name other found
    rw [connector?, Catalog.storeConnector, OrderedMap.get?_insert] at found
    split at found
    next same =>
      cases found
      exact same.symm
    next => exact storable.connectorsNamed name other found
  applicationsNamed := storable.applicationsNamed
  settled := storable.settled
  fits := storable.fits

theorem Storable.removeConnector (storable : Storable settings catalog) (removed : String) :
    Storable settings (catalog.removeConnector removed) where
  connectorsNamed := by
    intro name connector found
    rw [connector?, Catalog.removeConnector, OrderedMap.get?_erase] at found
    split at found
    next => cases found
    next => exact storable.connectorsNamed name connector found
  applicationsNamed := storable.applicationsNamed
  settled := storable.settled
  fits := storable.fits

/-- Changing one application in a way that keeps what is demanded of each. -/
theorem Storable.of_applications {after : Catalog MailSession}
    (storable : Storable settings catalog)
    (connectors : after.connectors = catalog.connectors)
    (applications : ∀ name application, after.application? name = some application →
      catalog.application? name = some application ∨
        application.name = name ∧ settings.Settled application ∧ application.Fits) :
    Storable settings after where
  connectorsNamed := by
    unfold connector?
    rw [connectors]
    exact storable.connectorsNamed
  applicationsNamed := by
    intro name application found
    rcases applications name application found with old | new
    · exact storable.applicationsNamed name application old
    · exact new.1
  settled := by
    intro name application found
    rcases applications name application found with old | new
    · exact storable.settled name application old
    · exact new.2.1
  fits := by
    intro name application found
    rcases applications name application found with old | new
    · exact storable.fits name application old
    · exact new.2.2

/-- What a client can make of the descriptors can be stored again. -/
theorem Storable.effect {request : Request} {response : Response}
    {after : Catalog MailSession} (effect : Server.Effect settings request catalog response after)
    (storable : Storable settings catalog) : Storable settings after := by
  cases effect with
  | nothing => exact storable
  | connectorStored connector => exact storable.storeConnector connector
  | connectorRemoved name => exact storable.removeConnector name
  | applicationStored application stored posted adopted =>
      have connectors : (catalog.storeApplication stored).connectors = catalog.connectors := rfl
      apply storable.of_applications connectors
      intro name other found
      rw [application?_storeApplication] at found
      split at found
      next same =>
        cases found
        exact .inr ⟨same.symm, adopted.settled,
          adopted.fits (Request.fits_of_application? posted)⟩
      next => exact .inl found
  | applicationRemoved response removed =>
      have connectors : (catalog.removeApplication removed).connectors = catalog.connectors := rfl
      apply storable.of_applications connectors
      intro name other found
      rw [application?_removeApplication] at found
      split at found
      next => cases found
      next => exact .inl found

end Catalog

end ServerResources
