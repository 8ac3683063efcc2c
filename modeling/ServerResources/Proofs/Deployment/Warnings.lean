import ServerResources.Proofs.Deployment.Installation

/-!
# Earlier warnings

Warnings are written and never read.  A registrar that remembers warnings from before
registers as one that does not: it comes to the same state, except that the earlier
warnings stand before those that registration issues.
-/

namespace ServerResources

namespace Registrar

variable {σ π : Type} [NamingService σ π]

/-- A registrar with earlier warnings before its own. -/
def precededBy (registrar : Registrar σ) (earlier : List Warning) : Registrar σ :=
  { registrar with warnings := earlier ++ registrar.warnings }

theorem register_precededBy (registrar : Registrar σ) (earlier : List Warning)
    (application name : String) (payload : π) :
    (registrar.precededBy earlier).register application name payload =
      ((registrar.register application name payload).1,
        (registrar.register application name payload).2.precededBy earlier) := by
  have published : (registrar.precededBy earlier).isPublished application name =
      registrar.isPublished application name := rfl
  have settings : (registrar.precededBy earlier).settings = registrar.settings := rfl
  have naming : (registrar.precededBy earlier).naming = registrar.naming := rfl
  rw [register, register, published, settings, naming]
  by_cases known : registrar.isPublished application name = true
  · simp only [if_pos known]
  · by_cases shared : registrar.settings.isShared name = true
    · simp only [if_neg known, if_pos shared]
      rcases NamingService.bind registrar.naming (bindingKey application name) payload true with
        ⟨result, after⟩
      cases result with
      | ok bound => rfl
      | error cause =>
          simp only [precededBy, List.append_assoc]
    · simp only [if_neg known, if_neg shared]

end Registrar

namespace Deployment

variable (deployment : Deployment (NameServer Payload)) (earlier : List Warning)

/-- A deployment with earlier warnings before its own. -/
def precededBy : Deployment (NameServer Payload) :=
  { deployment with registrar := deployment.registrar.precededBy earlier }

/-- A deployment that has forgotten its warnings. -/
def silent : Deployment (NameServer Payload) :=
  { deployment with registrar := { deployment.registrar with warnings := [] } }

theorem register_precededBy (application : String) (id : DefinitionId) (payload : Payload) :
    (deployment.precededBy earlier).register application id payload =
      ((deployment.register application id payload).1,
        (deployment.register application id payload).2.precededBy earlier) := by
  have step := deployment.registrar.register_precededBy earlier application
    (deployment.definitions.get id).name payload
  simp only [register, precededBy] at step ⊢
  rw [step]
  rfl

theorem registerEach_precededBy (application : String) (ids : List DefinitionId) :
    registerEach application ids (deployment.precededBy earlier) =
      ((registerEach application ids deployment).1,
        (registerEach application ids deployment).2.precededBy earlier) := by
  induction ids generalizing deployment with
  | nil => rfl
  | cons id rest ih =>
      have resource : (deployment.precededBy earlier).resourceOf id =
          deployment.resourceOf id := rfl
      simp only [registerEach, resource, register_precededBy, ih]
      rfl

/-- An application is registered alike, whatever warnings there were before. -/
theorem registerAll_precededBy (application : Application DefinitionId) :
    (deployment.precededBy earlier).registerAll application =
      ((deployment.registerAll application).1,
        (deployment.registerAll application).2.precededBy earlier) :=
  deployment.registerEach_precededBy earlier application.name application.walk

/-- An application is installed and registered alike after the warnings were forgotten. -/
theorem registerAll_silent (application : Application MailSession) :
    (deployment.installing application).registerAll (deployment.installed application) =
      (((deployment.silent.installing application).registerAll
          (deployment.silent.installed application)).1,
        (deployment.silent.entering application).precededBy deployment.registrar.warnings) := by
  have same :
      (deployment.silent.installing application).precededBy deployment.registrar.warnings =
        deployment.installing application := by
    simp only [precededBy, Registrar.precededBy, silent, installing, List.append_nil]
  rw [← same]
  exact registerAll_precededBy _ _ _

end Deployment

end ServerResources
