import Mathlib.Data.List.Induction
import ServerResources.Proofs.Server.Consistency

/-!
# What clients can tell

Seen from outside, the service is its stored descriptors.  Every request has an
effect on them that does not depend on how definitions are kept, and a service that
was consistent before a request is consistent after it.  So every run of the service
is a run of effects, and no request of it ever causes a warning.
-/

namespace ServerResources.Server

open Http

variable {settings : Settings} {server : Server} {request : Request}

/-- The answer to a request that stored or removed something under a name. -/
def acknowledgement (status name : String) : Response :=
  .ok (.object [("status", .string status), ("name", .string name)])

/-- The answers to a request, with the descriptors that are stored after it. -/
inductive Effect (settings : Settings) (request : Request) (before : Catalog MailSession) :
    Response → Catalog MailSession → Prop where
  | nothing (response : Response)
      (unposted : request.application? = none) :
      Effect settings request before response before
  | connectorStored (connector : Connector)
      (posted : request.connector? = some connector)
      (unposted : request.application? = none) :
      Effect settings request before (acknowledgement "registered" connector.name)
        (before.storeConnector connector)
  | connectorRemoved (name : String)
      (unposted : request.application? = none) :
      Effect settings request before (acknowledgement "removed" name)
        (before.removeConnector name)
  | applicationStored (application stored : Application MailSession)
      (posted : request.application? = some application)
      (adopted : settings.Adopted application stored) :
      Effect settings request before
        (.ok (RegistrationReport.mk application.name (application.sharedNames settings)).dump)
        (before.storeApplication stored)
  | applicationRemoved (response : Response) (name : String)
      (unposted : request.application? = none) :
      Effect settings request before response (before.removeApplication name)

/-- What serving a request comes to. -/
structure Serves (settings : Settings) (server : Server) (request : Request)
    (response : Response) (after : Server) : Prop where
  consistent : after.Consistent settings
  warnings_eq : after.deployment.registrar.warnings = server.deployment.registrar.warnings
  effect : Effect settings request server.descriptors response after.descriptors

/-- Every change to a consistent service has its effect. -/
theorem Consistent.serves {response : Response} {after : Server}
    (consistent : server.Consistent settings) (change : Change server request response after) :
    Serves settings server request response after := by
  cases change with
  | nothing response unposted => exact ⟨consistent, rfl, .nothing response unposted⟩
  | connectorStored connector posted unposted =>
      exact ⟨consistent.withConnectors _, rfl, .connectorStored connector posted unposted⟩
  | connectorRemoved name known unposted =>
      exact ⟨consistent.withConnectors _, rfl, .connectorRemoved name unposted⟩
  | applicationStored application posted =>
      have stores := consistent.deployApplication application
      rcases stores.descriptors_eq with ⟨stored, adopted, descriptors⟩
      refine ⟨stores.consistent, stores.warnings_eq, ?_⟩
      rw [stores.response_eq, descriptors]
      exact .applicationStored application stored posted adopted
  | applicationRemoved name known unposted =>
      have removes := consistent.removeApplication known
      refine ⟨removes.consistent, removes.warnings_eq, ?_⟩
      rw [removes.descriptors_eq]
      exact .applicationRemoved _ name unposted

theorem Consistent.dispatch (consistent : server.Consistent settings) (request : Request) :
    Serves settings server request (server.dispatch request).1 (server.dispatch request).2 :=
  consistent.serves (server.change_dispatch request)

theorem Effect.withoutWarnings {before after : Catalog MailSession} {response : Response}
    (effect : Effect settings request before response after) :
    Effect settings request before { response with warnings := [] } after := by
  cases effect with
  | nothing response unposted => exact .nothing _ unposted
  | connectorStored connector posted unposted => exact .connectorStored connector posted unposted
  | connectorRemoved name unposted => exact .connectorRemoved name unposted
  | applicationStored application stored posted adopted =>
      exact .applicationStored application stored posted adopted
  | applicationRemoved response name unposted => exact .applicationRemoved _ name unposted

/-- A request to a consistent service. -/
theorem Consistent.handle (consistent : server.Consistent settings) (request : Request) :
    Serves settings server.withoutWarnings request (server.handle request).1
      (server.handle request).2 := by
  have serves := consistent.withoutWarnings.dispatch request
  have silent : (server.withoutWarnings.dispatch request).2.deployment.registrar.warnings = [] :=
    serves.warnings_eq
  have effect := serves.effect.withoutWarnings
  rw [handle_eq]
  refine ⟨serves.consistent.withoutWarnings, rfl, ?_⟩
  rw [← silent] at effect
  exact effect

/-- A service stays consistent over every run. -/
theorem Consistent.after (consistent : server.Consistent settings) (requests : List Request) :
    (server.after requests).Consistent settings := by
  induction requests using List.reverseRecOn with
  | nil => exact consistent
  | append_singleton earlier request ih =>
      rw [after_snoc]
      exact (ih.handle request).consistent

/-- What every effect preserves, every run preserves. -/
theorem Consistent.descriptors_after {invariant : Catalog MailSession → Prop}
    (consistent : server.Consistent settings)
    (step : ∀ request before response after, Effect settings request before response after →
      invariant before → invariant after)
    (requests : List Request) (holds : invariant server.descriptors) :
    invariant (server.after requests).descriptors := by
  induction requests using List.reverseRecOn with
  | nil => exact holds
  | append_singleton earlier request ih =>
      rw [after_snoc]
      have serves := (consistent.after earlier).handle request
      exact step request _ _ _ serves.effect ih

end ServerResources.Server
