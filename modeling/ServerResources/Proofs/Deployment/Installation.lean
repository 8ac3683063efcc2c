import ServerResources.Proofs.Definitions.Install
import ServerResources.Proofs.Deployment.Adoption

/-!
# Registering an installed application

An application is registered after its sessions were installed.  Registration gives
some of them to the application, publishes the names that it shows outside its
bundles, and does nothing to sessions that were there before.  `Adopted` relates an
application to what its registration makes of it, whatever the references are.
-/

namespace ServerResources

namespace Application

/-- The names that an application shows outside its bundles, each in the place of its
first visit. -/
def sharedNames (settings : Settings) (application : Application MailSession) : List String :=
  ((application.walk.map MailSession.name).filter settings.isShared).eraseDups

theorem mem_sharedNames_iff (settings : Settings) (application : Application MailSession)
    (name : String) :
    name ∈ application.sharedNames settings ↔
      settings.isShared name = true ∧ ∃ session ∈ application.walk, session.name = name := by
  simp only [sharedNames, List.mem_eraseDups, List.mem_filter, List.mem_map]
  exact And.comm

end Application

/-- `stored` is `application` after its registration: the sessions that the walk visits
are adopted, and all other sessions are as they were. -/
def Settings.Adopted (settings : Settings) (application stored : Application MailSession) :
    Prop :=
  ∃ (references : Application DefinitionId) (before after : DefinitionId → MailSession),
    references.map before = application ∧ references.map after = stored ∧
      references.walk.map after =
        settings.adopt settings.isShared application.name [] (references.walk.map before) ∧
      ∀ id ∈ references.members, id ∉ references.walk → after id = before id

namespace Settings.Adopted

variable {settings : Settings} {application stored : Application MailSession}

theorem name_eq (adopted : settings.Adopted application stored) :
    stored.name = application.name := by
  rcases adopted with ⟨references, before, after, rfl, rfl, -⟩
  rfl

theorem walk_eq (adopted : settings.Adopted application stored) :
    stored.walk =
      settings.adopt settings.isShared application.name [] application.walk := by
  rcases adopted with ⟨references, before, after, rfl, rfl, visited, -⟩
  rw [Application.walk_map, Application.walk_map]
  exact visited

theorem sharedNames_eq (adopted : settings.Adopted application stored) :
    stored.sharedNames settings = application.sharedNames settings := by
  unfold Application.sharedNames
  rw [adopted.walk_eq, Settings.map_name_adopt]

/-- An application whose sessions are adopted already is stored as it is. -/
theorem eq_of_settled (adopted : settings.Adopted application stored)
    (settled : settings.adopt settings.isShared application.name [] application.walk =
      application.walk) : stored = application := by
  rcases adopted with ⟨references, before, after, rfl, rfl, visited, unvisited⟩
  rw [Application.walk_map] at settled
  rw [settled, List.map_inj_left] at visited
  apply Application.map_congr
  intro id member
  by_cases walked : id ∈ references.walk
  · exact visited id walked
  · exact unvisited id member walked

end Settings.Adopted

namespace Deployment

variable (deployment : Deployment (NameServer Payload)) (application : Application MailSession)

/-- The deployment with the sessions of an application in its definitions. -/
def installing : Deployment (NameServer Payload) :=
  { deployment with definitions := (deployment.definitions.install application).2 }

/-- The references to the sessions of an application that is installed next. -/
def installed : Application DefinitionId :=
  (deployment.definitions.install application).1

/-- The deployment with an application installed and registered. -/
def entering : Deployment (NameServer Payload) :=
  ((deployment.installing application).registerAll (deployment.installed application)).2

/-- The application as its registration leaves it. -/
def stored : Application MailSession :=
  (deployment.installed application).map (deployment.entering application).definitions.get

theorem nodup_walk_installed : (deployment.installed application).walk.Nodup :=
  (deployment.definitions.nodup_members_install application).sublist
    (deployment.installed application).walk_sublist_members

theorem bounds_of_mem_walk_installed {id : DefinitionId}
    (walked : id ∈ (deployment.installed application).walk) :
    deployment.definitions.sessions.length ≤ id ∧
      id < (deployment.installing application).definitions.sessions.length :=
  deployment.definitions.mem_members_install application
    ((deployment.installed application).walk_sublist_members.subset walked)

/-- The walk reads what was installed. -/
theorem map_get_walk_installed :
    (deployment.installed application).walk.map
      (deployment.installing application).definitions.get = application.walk := by
  have read := congrArg Application.walk (deployment.definitions.read_install application)
  rw [Definitions.read, Application.walk_map] at read
  exact read

theorem length_entering :
    (deployment.entering application).definitions.sessions.length =
      (deployment.installing application).definitions.sessions.length :=
  length_registerEach _ _ _

/-- Definitions that were there before stay as they are. -/
theorem get_entering_of_lt {id : DefinitionId}
    (known : id < deployment.definitions.sessions.length) :
    (deployment.entering application).definitions.get id = deployment.definitions.get id := by
  have unvisited : id ∉ (deployment.installed application).walk := by
    intro walked
    have added := (deployment.bounds_of_mem_walk_installed application walked).1
    exact Nat.not_lt.mpr added known
  rw [entering, registerAll, get_registerEach_of_not_mem _ _ _ unvisited]
  exact deployment.definitions.get_install_of_lt application known

variable {deployment} {application}

theorem adopted_entering
    (unpublished : deployment.registrar.names (some application.name) = [])
    (accepts : deployment.registrar.accepts = deployment.registrar.settings.isShared) :
    deployment.registrar.settings.Adopted application (deployment.stored application) := by
  refine ⟨deployment.installed application, (deployment.installing application).definitions.get,
    (deployment.entering application).definitions.get, ?_, rfl, ?_, ?_⟩
  · exact deployment.definitions.read_install application
  · have visited := map_get_registerEach (deployment.installing application) application.name
      (deployment.installed application).walk (deployment.nodup_walk_installed application)
      fun id walked => (deployment.bounds_of_mem_walk_installed application walked).2
    change _ = deployment.registrar.settings.adopt deployment.registrar.accepts application.name
      (deployment.registrar.names (some application.name)) _ at visited
    rw [unpublished, accepts] at visited
    exact visited
  · intro id _ unvisited
    exact get_registerEach_of_not_mem _ _ _ unvisited

/-- The published names are those that the application shows. -/
theorem fst_entering
    (unpublished : deployment.registrar.names (some application.name) = [])
    (accepts : deployment.registrar.accepts = deployment.registrar.settings.isShared) :
    ((deployment.installing application).registerAll (deployment.installed application)).1 =
      application.sharedNames deployment.registrar.settings := by
  have names : (deployment.installed application).walk.map
      (deployment.installing application).nameOf = application.walk.map MailSession.name := by
    rw [← deployment.map_get_walk_installed application, List.map_map]
    rfl
  have hidden : ∀ name, deployment.registrar.isPublished application.name name = false := by
    intro name
    rw [Registrar.isPublished_eq_false_iff, unpublished]
    exact List.not_mem_nil
  have published := registerEach_fst (deployment.installing application) application.name
    (deployment.installed application).walk
  rw [names, fresh] at published
  rw [registerAll, Application.sharedNames, ← accepts]
  refine published.trans (congrArg List.eraseDups ?_)
  apply List.filter_congr
  intro name _
  have unseen := hidden name
  simp only [installing, unseen, Bool.not_false, Bool.true_and]

theorem names_entering
    (unpublished : deployment.registrar.names (some application.name) = [])
    (accepts : deployment.registrar.accepts = deployment.registrar.settings.isShared) :
    (deployment.entering application).registrar.names (some application.name) =
      application.sharedNames deployment.registrar.settings := by
  have names := names_registerEach (deployment.installing application) application.name
    (deployment.installed application).walk
  have published := fst_entering unpublished accepts
  rw [registerAll] at published
  change _ = deployment.registrar.names (some application.name) ++ _ at names
  rw [unpublished, List.nil_append] at names
  exact names.trans published

theorem names_entering_of_ne {other : String} (different : other ≠ application.name) :
    (deployment.entering application).registrar.names (some other) =
      deployment.registrar.names (some other) :=
  names_registerEach_of_ne _ _ _ different

theorem InService.entering (inService : deployment.InService) :
    (deployment.entering application).InService ∧
      (deployment.entering application).registrar.warnings = deployment.registrar.warnings := by
  have installing : (deployment.installing application).InService :=
    ⟨inService.outage, inService.aligned⟩
  exact installing.registerEach application.name (deployment.installed application).walk

end Deployment

end ServerResources
