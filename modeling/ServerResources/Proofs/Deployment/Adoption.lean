import ServerResources.Proofs.Deployment.Batch

/-!
# What registration writes into definitions

Registration gives a session in the application scope to its application, unless
its name is published already.  `adopt` says what a batch of registrations makes of
a list of sessions: a session is given to the application when its name is met for
the first time, and again as long as its publication is refused.  A batch does that
to the definitions that it visits and leaves all others as they are, and doing it
twice is doing it once.
-/

namespace ServerResources

/-- Sessions as a batch of registrations leaves them, given which names are accepted
and which are published already. -/
def Settings.adopt (settings : Settings) (accepts : String → Bool) (application : String) :
    (published : List String) → List MailSession → List MailSession
  | _, [] => []
  | published, session :: rest =>
      (if session.name ∉ published ∧ Text.begins settings.applicationScope session.name = true
        then { session with owner := some application } else session) ::
        adopt settings accepts application
          (if accepts session.name then session.name :: published else published) rest

namespace Settings

variable (settings : Settings) (accepts : String → Bool) (application : String)

/-- Only the set of the published names matters. -/
theorem adopt_congr {left right : List String} (same : ∀ name, name ∈ left ↔ name ∈ right)
    (sessions : List MailSession) :
    settings.adopt accepts application left sessions =
      settings.adopt accepts application right sessions := by
  induction sessions generalizing left right with
  | nil => rfl
  | cons session rest ih =>
      simp only [adopt, same]
      congr 1
      apply ih
      intro name
      split
      next => simp [same]
      next => exact same name

theorem map_name_adopt (published : List String) (sessions : List MailSession) :
    (settings.adopt accepts application published sessions).map MailSession.name =
      sessions.map MailSession.name := by
  induction sessions generalizing published with
  | nil => rfl
  | cons session rest ih =>
      simp only [adopt, List.map_cons, ih]
      congr 1
      split <;> rfl

theorem adopt_adopt (published : List String) (sessions : List MailSession) :
    settings.adopt accepts application published
        (settings.adopt accepts application published sessions) =
      settings.adopt accepts application published sessions := by
  induction sessions generalizing published with
  | nil => rfl
  | cons session rest ih =>
      by_cases given : session.name ∉ published ∧
          Text.begins settings.applicationScope session.name = true
      · simp only [adopt, given, not_false_eq_true, and_self, if_true, ih]
      · simp only [adopt, given, if_false, ih]

end Settings

namespace Deployment

variable (deployment : Deployment (NameServer Payload)) (application : String)

theorem get_register_self {id : DefinitionId} (payload : Payload)
    (known : id < deployment.definitions.sessions.length) :
    (deployment.register application id payload).2.definitions.get id =
      deployment.registrar.claim application (deployment.definitions.get id) :=
  deployment.definitions.get_set_self _ known

theorem get_register_of_ne {id other : DefinitionId} (payload : Payload)
    (different : other ≠ id) :
    (deployment.register application id payload).2.definitions.get other =
      deployment.definitions.get other :=
  deployment.definitions.get_set_of_ne _ different.symm

theorem length_register (id : DefinitionId) (payload : Payload) :
    (deployment.register application id payload).2.definitions.sessions.length =
      deployment.definitions.sessions.length :=
  deployment.definitions.length_set id _

/-- A batch writes to the definitions that it visits only. -/
theorem get_registerEach_of_not_mem (ids : List DefinitionId) {other : DefinitionId}
    (unvisited : other ∉ ids) :
    (registerEach application ids deployment).2.definitions.get other =
      deployment.definitions.get other := by
  induction ids generalizing deployment with
  | nil => rfl
  | cons id rest ih =>
      rw [List.mem_cons, not_or] at unvisited
      rw [registerEach, ih _ unvisited.2]
      exact get_register_of_ne deployment application _ unvisited.1

theorem length_registerEach (ids : List DefinitionId) :
    (registerEach application ids deployment).2.definitions.sessions.length =
      deployment.definitions.sessions.length := by
  apply registerEach_preserves (fun current =>
    current.definitions.sessions.length = deployment.definitions.sessions.length)
  · intro current id payload unchanged
    rw [length_register, unchanged]
  · rfl

theorem claim_eq (session : MailSession) :
    deployment.registrar.claim application session =
      if session.name ∉ deployment.registrar.names (some application) ∧
          Text.begins deployment.registrar.settings.applicationScope session.name = true then
        { session with owner := some application }
      else session := by
  have condition : deployment.registrar.claims application session.name = true ↔
      session.name ∉ deployment.registrar.names (some application) ∧
        Text.begins deployment.registrar.settings.applicationScope session.name = true := by
    unfold Registrar.claims
    rw [Bool.and_eq_true, Bool.not_eq_true', Registrar.isPublished_eq_false_iff]
  simp only [Registrar.claim, condition]

theorem mem_names_register (id : DefinitionId) (payload : Payload) (name : String) :
    name ∈ (deployment.register application id payload).2.registrar.names (some application) ↔
      name ∈ if deployment.registrar.accepts (deployment.nameOf id) then
          deployment.nameOf id :: deployment.registrar.names (some application)
        else deployment.registrar.names (some application) := by
  have call := register_registers deployment application id payload
  rw [call.names_eq, call.result_eq]
  cases accepted : deployment.registrar.accepts (deployment.nameOf id) with
  | false => simp
  | true =>
      cases published : deployment.registrar.isPublished application (deployment.nameOf id) with
      | false => simp [or_comm]
      | true =>
          have present := (deployment.registrar.isPublished_iff application _).mp published
          simp only [Bool.not_true, Bool.false_and, Bool.false_eq_true, and_false, if_false,
            if_true, List.mem_cons, iff_or_self]
          intro equal
          exact equal ▸ present

/-- What a batch makes of the definitions that it visits. -/
theorem map_get_registerEach (ids : List DefinitionId) (distinct : ids.Nodup)
    (known : ∀ id ∈ ids, id < deployment.definitions.sessions.length) :
    ids.map (registerEach application ids deployment).2.definitions.get =
      deployment.registrar.settings.adopt deployment.registrar.accepts application
        (deployment.registrar.names (some application))
        (ids.map deployment.definitions.get) := by
  induction ids generalizing deployment with
  | nil => rfl
  | cons id rest ih =>
      rcases List.nodup_cons.mp distinct with ⟨fresh, restDistinct⟩
      have call := register_registers deployment application id
        (.mailResource (deployment.resourceOf id))
      have restKnown : ∀ other ∈ rest,
          other < (deployment.register application id
            (.mailResource (deployment.resourceOf id))).2.definitions.sessions.length := by
        intro other member
        rw [length_register]
        exact known other (List.mem_cons_of_mem id member)
      have restUnchanged : rest.map (deployment.register application id
          (.mailResource (deployment.resourceOf id))).2.definitions.get =
            rest.map deployment.definitions.get := by
        apply List.map_congr_left
        intro other member
        apply get_register_of_ne
        intro equal
        exact fresh (equal ▸ member)
      have step := ih _ restDistinct restKnown
      rw [restUnchanged, call.settings_eq, call.accepts_eq,
        Settings.adopt_congr _ _ _ (mem_names_register deployment application id _)] at step
      simp only [registerEach, List.map_cons, Settings.adopt]
      congr 1
      rw [get_registerEach_of_not_mem _ _ _ fresh,
        get_register_self _ _ _ (known id List.mem_cons_self), claim_eq]

end Deployment

end ServerResources
