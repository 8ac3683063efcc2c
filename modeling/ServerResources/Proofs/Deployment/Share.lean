import ServerResources.Proofs.Application.Shape
import ServerResources.Proofs.Deployment.Installation
import ServerResources.Proofs.Registrar.Share

/-!
# Batches and the shares of applications

A batch changes no share but that of its application.  Two batches over definitions of
the same contents come to the same in deployments in which the application has the same
share, wherever each deployment keeps the definitions: they return the same names, leave
the same warnings, and what is bound reads the same afterwards.

An application that is installed next gets references that count up from the end of the
table.  So its definitions correspond in any two deployments by their number, and
registering it comes to the same.
-/

namespace ServerResources

open Registrar

/-- A payload with the definition behind its reference. -/
inductive Content where
  | value (json : Json)
  | mailResource (resource : MailResource MailSession)

/-- Looks through the reference of a payload. -/
def Payload.read (definitions : Definitions) : Payload → Content
  | .value json => .value json
  | .mailResource resource => .mailResource (resource.map definitions.get)

namespace Deployment

/-- What is bound for an application, with the definitions as they are now. -/
def contentsOf (deployment : Deployment (NameServer Payload)) (application : String) :
    OrderedMap BindingKey Content :=
  (deployment.registrar.bindingsOf application).map (Payload.read deployment.definitions)

/-- Published names are bound, and what is bound refers to definitions that are there. -/
structure Sound (deployment : Deployment (NameServer Payload)) : Prop where
  intact : deployment.registrar.Intact
  known : ∀ key resource,
    deployment.registrar.lookup key = some (.mailResource resource) →
      resource.session < deployment.definitions.sessions.length

variable {deployment left right : Deployment (NameServer Payload)}
  {application other : String}

/-! ## Batches call by call -/

/-- Registers a definition with its mail resource. -/
def enroll (deployment : Deployment (NameServer Payload)) (application : String)
    (id : DefinitionId) : Bool × Deployment (NameServer Payload) :=
  deployment.register application id (.mailResource (deployment.resourceOf id))

theorem registerEach_cons (application : String) (id : DefinitionId) (rest : List DefinitionId)
    (deployment : Deployment (NameServer Payload)) :
    registerEach application (id :: rest) deployment =
      ((if (deployment.enroll application id).1 then [deployment.nameOf id] else []) ++
          (registerEach application rest (deployment.enroll application id).2).1,
        (registerEach application rest (deployment.enroll application id).2).2) := by
  have unfolded : registerEach application (id :: rest) deployment =
      (if (deployment.enroll application id).1 then
          deployment.nameOf id ::
            (registerEach application rest (deployment.enroll application id).2).1
        else (registerEach application rest (deployment.enroll application id).2).1,
        (registerEach application rest (deployment.enroll application id).2).2) := rfl
  rw [unfolded]
  split <;> rfl

theorem unregisterEach_cons (application : String) (id : DefinitionId)
    (rest : List DefinitionId) (deployment : Deployment (NameServer Payload)) :
    unregisterEach application (id :: rest) deployment =
      ((if (deployment.unregister application id).1 then [deployment.nameOf id] else []) ++
          (unregisterEach application rest (deployment.unregister application id).2).1,
        (unregisterEach application rest (deployment.unregister application id).2).2) := by
  simp only [unregisterEach, nameOf]
  split <;> rfl

theorem resourceSettings_registerEach (ids : List DefinitionId)
    (deployment : Deployment (NameServer Payload)) :
    (registerEach application ids deployment).2.settings = deployment.settings := by
  apply registerEach_preserves fun current => current.settings = deployment.settings
  · exact fun _ _ _ unchanged => unchanged
  · rfl

theorem resourceSettings_entering (application : Application MailSession)
    (deployment : Deployment (NameServer Payload)) :
    (deployment.entering application).settings = deployment.settings :=
  resourceSettings_registerEach _ (deployment.installing application)

theorem resourceSettings_unregisterEach (ids : List DefinitionId)
    (deployment : Deployment (NameServer Payload)) :
    (unregisterEach application ids deployment).2.settings = deployment.settings := by
  apply unregisterEach_preserves fun current => current.settings = deployment.settings
  · exact fun _ _ unchanged => unchanged
  · rfl

/-! ## Soundness -/

/-- Only the definitions that were there matter for what is bound. -/
theorem Sound.read_bindingsOf (sound : deployment.Sound) (application : String)
    {later : Definitions}
    (kept : ∀ id, id < deployment.definitions.sessions.length →
      later.get id = deployment.definitions.get id) :
    (deployment.registrar.bindingsOf application).map (Payload.read later) =
      deployment.contentsOf application := by
  apply OrderedMap.map_congr
  intro key payload found
  rw [bindingsOf, OrderedMap.get?_filterKeys] at found
  split at found
  next =>
      cases payload with
      | value json => rfl
      | mailResource resource =>
          have same := kept resource.session (sound.known key resource found)
          simp only [Payload.read, MailResource.map, same]
  next => cases found

theorem Sound.enroll (sound : deployment.Sound) (application : String) {id : DefinitionId}
    (known : id < deployment.definitions.sessions.length) :
    (deployment.enroll application id).2.Sound := by
  have call := register_registers deployment application id
    (.mailResource (deployment.resourceOf id))
  refine ⟨call.intact sound.intact, ?_⟩
  intro key resource found
  rw [Deployment.enroll, length_register]
  rw [Deployment.enroll, call.lookup_eq] at found
  split at found
  next =>
      cases found
      exact known
  next => exact sound.known key resource found

theorem Sound.registerEach (sound : deployment.Sound) (ids : List DefinitionId)
    (known : ∀ id ∈ ids, id < deployment.definitions.sessions.length) :
    (registerEach application ids deployment).2.Sound := by
  induction ids generalizing deployment with
  | nil => exact sound
  | cons id rest ih =>
      rw [registerEach_cons]
      apply ih (sound.enroll application (known id List.mem_cons_self))
      intro later member
      rw [Deployment.enroll, length_register]
      exact known later (List.mem_cons_of_mem id member)

theorem Sound.unregister (sound : deployment.Sound) (application : String)
    (id : DefinitionId) : (deployment.unregister application id).2.Sound := by
  have call := unregister_unregisters deployment application id
  refine ⟨call.intact sound.intact, ?_⟩
  intro key resource found
  rw [call.lookup_eq sound.intact.keyed] at found
  split at found
  next => cases found
  next => exact sound.known key resource found

theorem Sound.unregisterEach (sound : deployment.Sound) (ids : List DefinitionId) :
    (unregisterEach application ids deployment).2.Sound := by
  apply unregisterEach_preserves Sound
  · intro current id held
    exact held.unregister application id
  · exact sound

theorem Sound.entering (sound : deployment.Sound) (application : Application MailSession) :
    (deployment.entering application).Sound := by
  have added : deployment.definitions.sessions.length ≤
      (deployment.installing application).definitions.sessions.length := by
    rw [installing, Definitions.sessions_install, List.length_append]
    exact Nat.le_add_right _ _
  have installing : (deployment.installing application).Sound := by
    refine ⟨sound.intact, ?_⟩
    intro key resource found
    exact Nat.lt_of_lt_of_le (sound.known key resource found) added
  apply installing.registerEach
  intro id walked
  exact (deployment.bounds_of_mem_walk_installed application walked).2

/-! ## Other applications -/

/-- A batch of registrations leaves every other application its share. -/
theorem registerEach_of_ne (different : other ≠ application) (ids : List DefinitionId)
    (deployment : Deployment (NameServer Payload)) :
    Registrar.Alike other (registerEach application ids deployment).2.registrar
        deployment.registrar ∧
      (registerEach application ids deployment).2.registrar.bindingsOf other =
        deployment.registrar.bindingsOf other := by
  apply registerEach_preserves fun current =>
    Registrar.Alike other current.registrar deployment.registrar ∧
      current.registrar.bindingsOf other = deployment.registrar.bindingsOf other
  · rintro current id payload ⟨alike, bindings⟩
    obtain ⟨step, kept⟩ := Registrar.Alike.register_of_ne different current.registrar
      (current.nameOf id) payload
    exact ⟨step.trans alike, kept.trans bindings⟩
  · exact ⟨.refl other _, rfl⟩

theorem intact_unregister (intact : deployment.registrar.Intact) (application : String)
    (id : DefinitionId) : (deployment.unregister application id).2.registrar.Intact :=
  (unregister_unregisters deployment application id).intact intact

/-- A batch of withdrawals leaves every other application its share. -/
theorem unregisterEach_of_ne (different : other ≠ application) (ids : List DefinitionId)
    (intact : deployment.registrar.Intact) :
    Registrar.Alike other (unregisterEach application ids deployment).2.registrar
        deployment.registrar ∧
      (unregisterEach application ids deployment).2.registrar.bindingsOf other =
        deployment.registrar.bindingsOf other := by
  induction ids generalizing deployment with
  | nil => exact ⟨.refl other _, rfl⟩
  | cons id rest ih =>
      obtain ⟨alike, bindings⟩ := ih (intact_unregister intact application id)
      obtain ⟨step, kept⟩ := Registrar.Alike.unregister_of_ne different
        intact.keyed (deployment.nameOf id)
      exact ⟨alike.trans step, bindings.trans kept⟩

/-- Installing and registering an application leaves every other application its share. -/
theorem entering_of_ne {application : Application MailSession}
    (different : other ≠ application.name) (sound : deployment.Sound) :
    Registrar.Alike other (deployment.entering application).registrar deployment.registrar ∧
      (deployment.entering application).contentsOf other = deployment.contentsOf other := by
  obtain ⟨registrar, bindings⟩ := registerEach_of_ne different
    (deployment.installed application).walk (deployment.installing application)
  refine ⟨registrar, ?_⟩
  have raw : (deployment.entering application).registrar.bindingsOf other =
      deployment.registrar.bindingsOf other := bindings
  rw [contentsOf, raw]
  exact sound.read_bindingsOf other fun id known =>
    deployment.get_entering_of_lt application known

/-! ## Withdrawing in two deployments -/

/-- Withdrawals of definitions of one name come to the same. -/
theorem unregister_alike
    (alike : Registrar.Alike application left.registrar right.registrar)
    (leftIntact : left.registrar.Intact) (rightIntact : right.registrar.Intact)
    {id twin : DefinitionId}
    (name : left.nameOf id = right.nameOf twin) :
    (left.unregister application id).1 = (right.unregister application twin).1 ∧
    Registrar.Alike application (left.unregister application id).2.registrar
      (right.unregister application twin).2.registrar ∧
    ∃ issued,
      (left.unregister application id).2.registrar.warnings =
        left.registrar.warnings ++ issued ∧
      (right.unregister application twin).2.registrar.warnings =
        right.registrar.warnings ++ issued := by
  have step := alike.unregister leftIntact rightIntact (left.nameOf id)
  have call : right.registrar.unregister application (left.nameOf id) =
      right.registrar.unregister application (right.nameOf twin) := by
    rw [name]
  rw [call] at step
  exact step

/-- Batches of withdrawals over definitions of the same names come to the same. -/
theorem unregisterEach_alike
    (alike : Registrar.Alike application left.registrar right.registrar)
    (leftIntact : left.registrar.Intact) (rightIntact : right.registrar.Intact)
    {leftIds rightIds : List DefinitionId}
    (names : leftIds.map left.nameOf = rightIds.map right.nameOf) :
    (unregisterEach application leftIds left).1 = (unregisterEach application rightIds right).1 ∧
    Registrar.Alike application (unregisterEach application leftIds left).2.registrar
      (unregisterEach application rightIds right).2.registrar ∧
    ∃ issued,
      (unregisterEach application leftIds left).2.registrar.warnings =
        left.registrar.warnings ++ issued ∧
      (unregisterEach application rightIds right).2.registrar.warnings =
        right.registrar.warnings ++ issued := by
  induction leftIds generalizing left right rightIds with
  | nil =>
      cases rightIds with
      | nil => exact ⟨rfl, alike, issued_nothing _ _⟩
      | cons twin others => cases names
  | cons id rest ih =>
      cases rightIds with
      | nil => cases names
      | cons twin others =>
          obtain ⟨name, later⟩ := List.cons.inj names
          obtain ⟨result, next, issued⟩ := unregister_alike alike leftIntact rightIntact name
          obtain ⟨results, final, further⟩ :=
            ih next (intact_unregister leftIntact application id)
              (intact_unregister rightIntact application twin) later
          rw [unregisterEach_cons, unregisterEach_cons]
          refine ⟨?_, final, issued_trans issued further⟩
          rw [result, results, name]

/-- What is bound reads the same after batches of withdrawals if it did before. -/
theorem bindings_unregisterEach {γ : Type}
    (alike : Registrar.Alike application left.registrar right.registrar)
    (leftIntact : left.registrar.Intact) (rightIntact : right.registrar.Intact)
    {leftIds rightIds : List DefinitionId}
    (names : leftIds.map left.nameOf = rightIds.map right.nameOf)
    (readLeft readRight : Payload → γ)
    (same : (left.registrar.bindingsOf application).map readLeft =
      (right.registrar.bindingsOf application).map readRight) :
    ((unregisterEach application leftIds left).2.registrar.bindingsOf application).map readLeft =
      ((unregisterEach application rightIds right).2.registrar.bindingsOf application).map
        readRight := by
  induction leftIds generalizing left right rightIds with
  | nil =>
      cases rightIds with
      | nil => exact same
      | cons twin others => cases names
  | cons id rest ih =>
      cases rightIds with
      | nil => cases names
      | cons twin others =>
          obtain ⟨name, later⟩ := List.cons.inj names
          have step := alike.bindings_unregister leftIntact rightIntact readLeft
            readRight same (left.nameOf id)
          have call : right.registrar.unregister application (left.nameOf id) =
              right.registrar.unregister application (right.nameOf twin) := by
            rw [name]
          rw [call] at step
          rw [unregisterEach_cons, unregisterEach_cons]
          exact ih (unregister_alike alike leftIntact rightIntact name).2.1
            (intact_unregister leftIntact application id)
            (intact_unregister rightIntact application twin) later step

/-! ## Registering in two deployments -/

/-- Deployments in which an application has published the same names, and in which
definitions that are found under different references have the same contents. -/
structure Alike {ι : Type} (toLeft toRight : ι → DefinitionId) (application : String)
    (left right : Deployment (NameServer Payload)) : Prop where
  settings_eq : left.settings = right.settings
  registrar : Registrar.Alike application left.registrar right.registrar
  get_eq : ∀ index, left.definitions.get (toLeft index) = right.definitions.get (toRight index)
  known_iff : ∀ index, toLeft index < left.definitions.sessions.length ↔
    toRight index < right.definitions.sessions.length

namespace Alike

variable {ι : Type} {toLeft toRight : ι → DefinitionId}

theorem nameOf_eq (alike : Alike toLeft toRight application left right) (index : ι) :
    left.nameOf (toLeft index) = right.nameOf (toRight index) :=
  congrArg MailSession.name (alike.get_eq index)

/-- The registrar of the right deployment is asked for the same name. -/
theorem enroll_right (alike : Alike toLeft toRight application left right) (index : ι) :
    right.registrar.register application (left.nameOf (toLeft index))
        (.mailResource (right.resourceOf (toRight index))) =
      ((right.enroll application (toRight index)).1,
        (right.enroll application (toRight index)).2.registrar) := by
  rw [alike.nameOf_eq]
  rfl

theorem enroll (alike : Alike toLeft toRight application left right)
    (leftInjective : Function.Injective toLeft) (rightInjective : Function.Injective toRight)
    (index : ι) :
    (left.enroll application (toLeft index)).1 = (right.enroll application (toRight index)).1 ∧
    Alike toLeft toRight application (left.enroll application (toLeft index)).2
      (right.enroll application (toRight index)).2 ∧
    ∃ issued,
      (left.enroll application (toLeft index)).2.registrar.warnings =
        left.registrar.warnings ++ issued ∧
      (right.enroll application (toRight index)).2.registrar.warnings =
        right.registrar.warnings ++ issued := by
  have step := alike.registrar.register (left.nameOf (toLeft index))
    (.mailResource (left.resourceOf (toLeft index)))
    (.mailResource (right.resourceOf (toRight index)))
  rw [alike.enroll_right] at step
  obtain ⟨result, registrar, warnings⟩ := step
  refine ⟨result, ⟨alike.settings_eq, registrar, ?_, ?_⟩, warnings⟩
  · intro other
    have here : toLeft other = toLeft index ↔ toRight other = toRight index := by
      rw [leftInjective.eq_iff, rightInjective.eq_iff]
    simp only [Deployment.enroll, Deployment.register, Definitions.get_set, here,
      alike.known_iff, alike.get_eq, alike.registrar.claim_eq]
  · intro other
    rw [Deployment.enroll, Deployment.enroll, length_register, length_register]
    exact alike.known_iff other

/-- Batches of registrations over corresponding definitions come to the same. -/
theorem registerEach (alike : Alike toLeft toRight application left right)
    (leftInjective : Function.Injective toLeft) (rightInjective : Function.Injective toRight)
    (indices : List ι) :
    (Deployment.registerEach application (indices.map toLeft) left).1 =
      (Deployment.registerEach application (indices.map toRight) right).1 ∧
    Alike toLeft toRight application
      (Deployment.registerEach application (indices.map toLeft) left).2
      (Deployment.registerEach application (indices.map toRight) right).2 ∧
    ∃ issued,
      (Deployment.registerEach application (indices.map toLeft) left).2.registrar.warnings =
        left.registrar.warnings ++ issued ∧
      (Deployment.registerEach application (indices.map toRight) right).2.registrar.warnings =
        right.registrar.warnings ++ issued := by
  induction indices generalizing left right with
  | nil => exact ⟨rfl, alike, issued_nothing _ _⟩
  | cons index rest ih =>
      obtain ⟨result, next, issued⟩ := alike.enroll leftInjective rightInjective index
      obtain ⟨results, final, further⟩ := ih next
      rw [List.map_cons, List.map_cons, registerEach_cons, registerEach_cons]
      refine ⟨?_, final, issued_trans issued further⟩
      rw [result, results, alike.nameOf_eq]

/-- What is bound reads the same after batches of registrations if it did before and if
the definitions do. -/
theorem bindings_registerEach {γ : Type} (alike : Alike toLeft toRight application left right)
    (leftInjective : Function.Injective toLeft) (rightInjective : Function.Injective toRight)
    (indices : List ι) (readLeft readRight : Payload → γ)
    (reads : ∀ index name, readLeft (.mailResource ⟨toLeft index, name⟩) =
      readRight (.mailResource ⟨toRight index, name⟩))
    (same : (left.registrar.bindingsOf application).map readLeft =
      (right.registrar.bindingsOf application).map readRight) :
    ((Deployment.registerEach application (indices.map toLeft) left).2.registrar.bindingsOf
        application).map readLeft =
      ((Deployment.registerEach application (indices.map toRight) right).2.registrar.bindingsOf
        application).map readRight := by
  induction indices generalizing left right with
  | nil => exact same
  | cons index rest ih =>
      have payloads : readLeft (.mailResource (left.resourceOf (toLeft index))) =
          readRight (.mailResource (right.resourceOf (toRight index))) := by
        simp only [resourceOf, alike.settings_eq, alike.get_eq]
        exact reads index _
      have step := alike.registrar.bindings_register readLeft readRight same
        (left.nameOf (toLeft index)) payloads
      rw [alike.enroll_right] at step
      rw [List.map_cons, List.map_cons, registerEach_cons, registerEach_cons]
      exact ih (alike.enroll leftInjective rightInjective index).2.1 step

end Alike

/-! ## Installing in two deployments -/

section Installing

variable (application : Application MailSession)

/-- The references of an application that is installed at the beginning of a table. -/
def numbered : Application DefinitionId :=
  (Definitions.empty.install application).1

/-- An application is installed with its numbers counted from the end of the table. -/
theorem walk_installed (deployment : Deployment (NameServer Payload)) :
    (deployment.installed application).walk =
      (numbered application).walk.map (deployment.definitions.sessions.length + ·) := by
  have shape : (deployment.installed application).map
        (deployment.definitions.install application).2.get =
      (numbered application).map (Definitions.empty.install application).2.get :=
    (deployment.definitions.read_install application).trans
      (Definitions.empty.read_install application).symm
  have members : (deployment.installed application).members.map id =
      (numbered application).members.map (deployment.definitions.sessions.length + ·) := by
    rw [List.map_id, installed, numbered, Definitions.members_install,
      Definitions.members_install, List.map_add_range']
    rfl
  have walks := congrArg Application.walk (Application.map_eq_map shape members)
  rw [Application.walk_map, Application.walk_map, List.map_id] at walks
  exact walks

theorem get_installing (deployment : Deployment (NameServer Payload)) (index : Nat) :
    (deployment.installing application).definitions.get
        (deployment.definitions.sessions.length + index) =
      application.members.getD index MailSession.blank := by
  simp only [installing, Definitions.get, Definitions.sessions_install,
    List.getD_eq_getElem?_getD]
  rw [List.getElem?_append_right (Nat.le_add_right _ _), Nat.add_sub_cancel_left]

theorem alike_installing (settings_eq : left.settings = right.settings)
    (alike : Registrar.Alike application.name left.registrar right.registrar) :
    Alike (left.definitions.sessions.length + ·) (right.definitions.sessions.length + ·)
      application.name (left.installing application) (right.installing application) where
  settings_eq := settings_eq
  registrar := alike
  get_eq := by
    intro index
    rw [get_installing, get_installing]
  known_iff := by
    intro index
    simp only [installing, Definitions.sessions_install, List.length_append,
      Nat.add_lt_add_iff_left]

theorem registerAll_installed (deployment : Deployment (NameServer Payload)) :
    (deployment.installing application).registerAll (deployment.installed application) =
      registerEach application.name
        ((numbered application).walk.map (deployment.definitions.sessions.length + ·))
        (deployment.installing application) := by
  rw [← walk_installed]
  rfl

/-- What registering an application comes to in two deployments in which it has the same
share. -/
structure SameEntry (left right : Deployment (NameServer Payload)) : Prop where
  names_eq : ((left.installing application).registerAll (left.installed application)).1 =
    ((right.installing application).registerAll (right.installed application)).1
  registrar : Registrar.Alike application.name (left.entering application).registrar
    (right.entering application).registrar
  stored_eq : left.stored application = right.stored application
  contentsOf_eq : (left.entering application).contentsOf application.name =
    (right.entering application).contentsOf application.name
  warnings : ∃ issued,
    (left.entering application).registrar.warnings = left.registrar.warnings ++ issued ∧
    (right.entering application).registrar.warnings = right.registrar.warnings ++ issued

theorem sameEntry (settings_eq : left.settings = right.settings)
    (alike : Registrar.Alike application.name left.registrar right.registrar)
    (leftSound : left.Sound) (rightSound : right.Sound)
    (same : left.contentsOf application.name = right.contentsOf application.name) :
    SameEntry application left right := by
  have installed := alike_installing application settings_eq alike
  have leftInjective : Function.Injective (left.definitions.sessions.length + ·) :=
    fun _ _ => Nat.add_left_cancel
  have rightInjective : Function.Injective (right.definitions.sessions.length + ·) :=
    fun _ _ => Nat.add_left_cancel
  obtain ⟨names, final, warnings⟩ :=
    installed.registerEach leftInjective rightInjective (numbered application).walk
  rw [← registerAll_installed, ← registerAll_installed] at names final warnings
  refine ⟨names, final.registrar, ?stored, ?contents, warnings⟩
  case stored =>
    have shape : (left.installed application).map (left.installing application).definitions.get =
        (right.installed application).map (right.installing application).definitions.get :=
      (left.definitions.read_install application).trans
        (right.definitions.read_install application).symm
    refine Application.map_eq_map shape ?_
    rw [Deployment.installed, Deployment.installed, Definitions.members_install,
      Definitions.members_install, List.range'_eq_map_range, List.range'_eq_map_range,
      List.map_map, List.map_map]
    exact List.map_congr_left fun index _ => final.get_eq index
  case contents =>
    have before : (left.registrar.bindingsOf application.name).map
          (Payload.read (left.entering application).definitions) =
        (right.registrar.bindingsOf application.name).map
          (Payload.read (right.entering application).definitions) := by
      rw [leftSound.read_bindingsOf, rightSound.read_bindingsOf, same]
      · exact fun id known => right.get_entering_of_lt application known
      · exact fun id known => left.get_entering_of_lt application known
    have after := installed.bindings_registerEach leftInjective rightInjective
      (numbered application).walk (Payload.read (left.entering application).definitions)
      (Payload.read (right.entering application).definitions) ?reads before
    case reads =>
      intro index name
      have same := final.get_eq index
      simp only [Payload.read, MailResource.map, Content.mailResource.injEq,
        MailResource.mk.injEq, and_true]
      exact same
    rw [← registerAll_installed, ← registerAll_installed] at after
    exact after

end Installing

end Deployment

end ServerResources
