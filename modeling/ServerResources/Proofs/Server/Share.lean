import ServerResources.Proofs.Deployment.Share
import ServerResources.Proofs.Server.Consistency

/-!
# Shares of the service

The share of an application in the service is its stored descriptor, its published names
and what is bound for it.  Storing or removing an application leaves every other
application its share, and comes to the same in two services in which the application
itself has the same share, whatever else they hold and whatever names are out of service.
-/

namespace ServerResources.Server

open Http

/-- Stored applications stand under their names, and whatever refers to a definition
refers to one that is there. -/
structure Sound (server : Server) : Prop where
  deployment : server.deployment.Sound
  known : ∀ name application, server.catalog.application? name = some application →
    ∀ id ∈ application.members, id < server.definitions.sessions.length
  named : ∀ name application, server.catalog.application? name = some application →
    application.name = name

/-- Two services in which an application has the same share. -/
structure Alike (name : String) (left right : Server) : Prop where
  settings_eq : left.deployment.settings = right.deployment.settings
  registrar : Registrar.Alike name left.deployment.registrar right.deployment.registrar
  stored_eq : left.descriptors.application? name = right.descriptors.application? name
  contentsOf_eq : left.deployment.contentsOf name = right.deployment.contentsOf name

variable {server left middle right : Server} {name other : String}

namespace Alike

theorem refl (name : String) (server : Server) : Alike name server server :=
  ⟨rfl, .refl name _, rfl, rfl⟩

theorem symm (alike : Alike name left right) : Alike name right left :=
  ⟨alike.settings_eq.symm, alike.registrar.symm, alike.stored_eq.symm,
    alike.contentsOf_eq.symm⟩

theorem trans (alike : Alike name left middle) (next : Alike name middle right) :
    Alike name left right :=
  ⟨alike.settings_eq.trans next.settings_eq, alike.registrar.trans next.registrar,
    alike.stored_eq.trans next.stored_eq, alike.contentsOf_eq.trans next.contentsOf_eq⟩

/-- Connectors do not matter. -/
theorem of_eq (deployment : left.deployment = right.deployment)
    (applications : left.catalog.applications = right.catalog.applications) :
    Alike name left right where
  settings_eq := by rw [deployment]
  registrar := by
    rw [deployment]
    exact .refl name _
  stored_eq := by
    rw [descriptors, descriptors, Catalog.application?_map, Catalog.application?_map,
      Catalog.application?, Catalog.application?, applications, definitions, definitions,
      deployment]
  contentsOf_eq := by rw [deployment]

/-- Warnings do not matter. -/
theorem withoutWarnings (name : String) (server : Server) :
    Alike name server.withoutWarnings server :=
  ⟨rfl, ⟨rfl, rfl, rfl⟩, rfl, rfl⟩

/-- An application is stored in both services or in neither. -/
theorem application?_eq_none_iff (alike : Alike name left right) :
    left.catalog.application? name = none ↔ right.catalog.application? name = none := by
  have stored := alike.stored_eq
  rw [descriptors, descriptors, Catalog.application?_map, Catalog.application?_map] at stored
  rw [← Option.map_eq_none_iff, stored, Option.map_eq_none_iff]

end Alike

theorem Sound.congr {after : Server} (sound : server.Sound)
    (deployment : after.deployment = server.deployment)
    (applications : after.catalog.applications = server.catalog.applications) :
    after.Sound where
  deployment := by
    rw [deployment]
    exact sound.deployment
  known := by
    rw [definitions, deployment]
    unfold Catalog.application?
    rw [applications]
    exact sound.known
  named := by
    unfold Catalog.application?
    rw [applications]
    exact sound.named

theorem Sound.withoutWarnings (sound : server.Sound) : server.withoutWarnings.Sound where
  deployment := ⟨⟨sound.deployment.intact.keyed, sound.deployment.intact.bound⟩,
    sound.deployment.known⟩
  known := sound.known
  named := sound.named

/-! ## Withdrawing -/

theorem withdraw_of_some {application : Application DefinitionId}
    (found : server.catalog.application? name = some application) :
    server.withdraw name =
      ((server.deployment.unregisterAll application).1,
        { server with deployment := (server.deployment.unregisterAll application).2 }) := by
  rw [withdraw, found]

theorem withdraw_of_none (absent : server.catalog.application? name = none) :
    server.withdraw name = ([], server) := by
  rw [withdraw, absent]

theorem catalog_withdraw (server : Server) (name : String) :
    (server.withdraw name).2.catalog = server.catalog := by
  cases found : server.catalog.application? name with
  | none => rw [withdraw_of_none found]
  | some application => rw [withdraw_of_some found]

theorem Sound.withdraw (sound : server.Sound) (name : String) :
    (server.withdraw name).2.Sound := by
  cases found : server.catalog.application? name with
  | none =>
      rw [withdraw_of_none found]
      exact sound
  | some application =>
      rw [withdraw_of_some found]
      have definitions : (server.deployment.unregisterAll application).2.definitions =
          server.deployment.definitions :=
        Deployment.definitions_unregisterEach _ _ _
      refine ⟨sound.deployment.unregisterEach _, ?_, sound.named⟩
      intro stored references present id member
      rw [Server.definitions, definitions]
      exact sound.known stored references present id member

/-- Withdrawing an application leaves every other application its share. -/
theorem Sound.withdraw_of_ne (sound : server.Sound) (different : name ≠ other) :
    Alike name (server.withdraw other).2 server := by
  cases found : server.catalog.application? other with
  | none =>
      rw [withdraw_of_none found]
      exact .refl name server
  | some application =>
      rw [withdraw_of_some found]
      have definitions : (server.deployment.unregisterAll application).2.definitions =
          server.deployment.definitions :=
        Deployment.definitions_unregisterEach _ _ _
      have elsewhere : name ≠ application.name := by
        rw [sound.named other application found]
        exact different
      obtain ⟨registrar, bindings⟩ :=
        Deployment.unregisterEach_of_ne elsewhere application.walk sound.deployment.intact
      refine ⟨Deployment.resourceSettings_unregisterEach _ _, registrar, ?_, ?_⟩
      · rw [descriptors, Server.definitions, definitions]
        rfl
      · rw [Deployment.contentsOf, definitions]
        exact congrArg (OrderedMap.map _) bindings

/-- Withdrawing an application comes to the same where its share is the same. -/
theorem Alike.withdraw (alike : Alike name left right) (leftSound : left.Sound)
    (rightSound : right.Sound) :
    (left.withdraw name).1 = (right.withdraw name).1 ∧
    Alike name (left.withdraw name).2 (right.withdraw name).2 ∧
    ∃ issued,
      (left.withdraw name).2.deployment.registrar.warnings =
        left.deployment.registrar.warnings ++ issued ∧
      (right.withdraw name).2.deployment.registrar.warnings =
        right.deployment.registrar.warnings ++ issued := by
  have stored := alike.stored_eq
  rw [descriptors, descriptors, Catalog.application?_map, Catalog.application?_map] at stored
  cases leftFound : left.catalog.application? name with
  | none =>
      rw [leftFound] at stored
      have rightFound := Option.map_eq_none_iff.mp stored.symm
      rw [withdraw_of_none leftFound, withdraw_of_none rightFound]
      exact ⟨rfl, alike, Registrar.issued_nothing _ _⟩
  | some mine =>
      rw [leftFound] at stored
      obtain ⟨yours, rightFound, same⟩ := Option.map_eq_some_iff.mp stored.symm
      have names : mine.walk.map left.deployment.nameOf =
          yours.walk.map right.deployment.nameOf := by
        have walks := congrArg (fun application => application.walk.map MailSession.name) same
        simp only [Application.walk_map, List.map_map] at walks
        exact walks.symm
      have leftBatch : left.deployment.unregisterAll mine =
          Deployment.unregisterEach name mine.walk left.deployment := by
        rw [Deployment.unregisterAll, leftSound.named name mine leftFound]
      have rightBatch : right.deployment.unregisterAll yours =
          Deployment.unregisterEach name yours.walk right.deployment := by
        rw [Deployment.unregisterAll, rightSound.named name yours rightFound]
      obtain ⟨withdrawn, registrar, warnings⟩ := Deployment.unregisterEach_alike
        alike.registrar leftSound.deployment.intact rightSound.deployment.intact names
      have contents := Deployment.bindings_unregisterEach alike.registrar
        leftSound.deployment.intact rightSound.deployment.intact names _ _ alike.contentsOf_eq
      rw [withdraw_of_some leftFound, withdraw_of_some rightFound, leftBatch, rightBatch]
      refine ⟨withdrawn, ⟨?settings, registrar, ?stored, ?contents⟩, warnings⟩
      case settings =>
        rw [Deployment.resourceSettings_unregisterEach,
          Deployment.resourceSettings_unregisterEach, alike.settings_eq]
      case stored =>
        simp only [descriptors, definitions, Deployment.definitions_unregisterEach]
        exact alike.stored_eq
      case contents =>
        simp only [Deployment.contentsOf, Deployment.definitions_unregisterEach]
        exact contents

/-! ## Storing and removing -/

theorem Sound.entering (sound : server.Sound) (application : Application MailSession) :
    (server.entering application).Sound where
  deployment := sound.deployment.entering application
  known := by
    intro stored references found id member
    change id < (server.deployment.entering application).definitions.sessions.length
    rw [Deployment.length_entering]
    rw [application?_entering] at found
    split at found
    next =>
        cases found
        exact (server.deployment.definitions.mem_members_install application member).2
    next =>
        have before := sound.known stored references found id member
        rw [Deployment.installing, Definitions.sessions_install, List.length_append]
        exact Nat.lt_add_right _ before
  named := by
    intro stored references found
    rw [application?_entering] at found
    split at found
    next same =>
        cases found
        exact same.symm
    next => exact sound.named stored references found

/-- Storing an application leaves every other application its share. -/
theorem Sound.entering_of_ne {application : Application MailSession} (sound : server.Sound)
    (different : name ≠ application.name) : Alike name (server.entering application) server := by
  obtain ⟨registrar, contents⟩ :=
    Deployment.entering_of_ne different sound.deployment
  refine ⟨Deployment.resourceSettings_entering application server.deployment, registrar, ?_,
    contents⟩
  rw [descriptors, descriptors, Catalog.application?_map, Catalog.application?_map,
    application?_entering, if_neg different]
  cases found : server.catalog.application? name with
  | none => rfl
  | some references =>
      apply congrArg some
      apply Application.map_congr
      intro id member
      exact server.deployment.get_entering_of_lt application
        (sound.known name references found id member)

/-- Storing an application comes to the same where its share is the same. -/
theorem Alike.entering {application : Application MailSession}
    (alike : Alike application.name left right) (leftSound : left.Sound)
    (rightSound : right.Sound) :
    ((left.deployment.installing application).registerAll
        (left.deployment.installed application)).1 =
      ((right.deployment.installing application).registerAll
        (right.deployment.installed application)).1 ∧
    Alike application.name (left.entering application) (right.entering application) ∧
    ∃ issued,
      (left.entering application).deployment.registrar.warnings =
        left.deployment.registrar.warnings ++ issued ∧
      (right.entering application).deployment.registrar.warnings =
        right.deployment.registrar.warnings ++ issued := by
  have entry := Deployment.sameEntry application alike.settings_eq alike.registrar
    leftSound.deployment rightSound.deployment alike.contentsOf_eq
  refine ⟨entry.names_eq, ⟨?settings, entry.registrar, ?stored, entry.contentsOf_eq⟩,
    entry.warnings⟩
  case settings =>
    rw [Server.entering, Server.entering, Deployment.resourceSettings_entering,
      Deployment.resourceSettings_entering, alike.settings_eq]
  case stored =>
    rw [descriptors, descriptors, Catalog.application?_map, Catalog.application?_map,
      application?_entering, application?_entering, if_pos rfl, if_pos rfl]
    exact congrArg some entry.stored_eq

theorem Sound.leaving (sound : server.Sound) (name : String) : (server.leaving name).Sound where
  deployment := sound.deployment
  known := by
    intro stored references found
    rw [application?_leaving] at found
    split at found
    next => cases found
    next => exact sound.known stored references found
  named := by
    intro stored references found
    rw [application?_leaving] at found
    split at found
    next => cases found
    next => exact sound.named stored references found

theorem leaving_of_ne (server : Server) (different : name ≠ other) :
    Alike name (server.leaving other) server := by
  refine ⟨rfl, .refl name _, ?_, rfl⟩
  rw [descriptors, descriptors, Catalog.application?_map, Catalog.application?_map,
    application?_leaving, if_neg different]
  rfl

theorem Alike.leaving (alike : Alike name left right) :
    Alike name (left.leaving name) (right.leaving name) := by
  refine ⟨alike.settings_eq, alike.registrar, ?_, alike.contentsOf_eq⟩
  rw [descriptors, descriptors, Catalog.application?_map, Catalog.application?_map,
    application?_leaving, application?_leaving, if_pos rfl, if_pos rfl]
  rfl

end ServerResources.Server
