import ServerResources.Deployment
import ServerResources.Proofs.Registrar.Alignment

/-!
# Batches

The sessions of an application are registered and withdrawn one after another.
What holds of each single call holds of the whole batch, and the lists that a
batch leaves and returns depend on the names of its definitions only: names do
not change, whatever registration writes into a definition.
-/

namespace ServerResources

namespace Definitions

/-- A reference that nobody handed out cannot be written through. -/
theorem get_set (definitions : Definitions) (id other : DefinitionId) (session : MailSession) :
    (definitions.set id session).get other =
      if other = id ∧ id < definitions.sessions.length then session
      else definitions.get other := by
  by_cases same : other = id
  · subst same
    by_cases known : other < definitions.sessions.length
    · rw [if_pos ⟨rfl, known⟩]
      exact definitions.get_set_self session known
    · have atEnd := Nat.le_of_not_lt known
      rw [if_neg fun both => known both.2]
      simp [get, set, List.set_eq_of_length_le atEnd]
  · rw [if_neg fun both => same both.1]
    exact definitions.get_set_of_ne session fun equal => same equal.symm

@[simp] theorem length_set (definitions : Definitions) (id : DefinitionId)
    (session : MailSession) :
    (definitions.set id session).sessions.length = definitions.sessions.length := by
  simp [set]

end Definitions

@[simp] theorem Registrar.name_claim {σ : Type} (registrar : Registrar σ) (application : String)
    (session : MailSession) : (registrar.claim application session).name = session.name := by
  unfold claim
  split <;> rfl

namespace Deployment

variable {σ : Type}

/-- The name of a definition. -/
def nameOf (deployment : Deployment σ) (id : DefinitionId) : String :=
  (deployment.definitions.get id).name

section Batches

variable [NamingService σ Payload]

/-- What every registration preserves, a batch of registrations preserves. -/
theorem registerEach_preserves {application : String} (invariant : Deployment σ → Prop)
    (step : ∀ deployment id payload, invariant deployment →
      invariant (deployment.register application id payload).2)
    (ids : List DefinitionId) (deployment : Deployment σ) (holds : invariant deployment) :
    invariant (registerEach application ids deployment).2 := by
  induction ids generalizing deployment with
  | nil => exact holds
  | cons id rest ih => exact ih _ (step deployment id _ holds)

/-- What every withdrawal preserves, a batch of withdrawals preserves. -/
theorem unregisterEach_preserves {application : String} (invariant : Deployment σ → Prop)
    (step : ∀ deployment id, invariant deployment →
      invariant (deployment.unregister application id).2)
    (ids : List DefinitionId) (deployment : Deployment σ) (holds : invariant deployment) :
    invariant (unregisterEach application ids deployment).2 := by
  induction ids generalizing deployment with
  | nil => exact holds
  | cons id rest ih => exact ih _ (step deployment id holds)

theorem nameOf_register (deployment : Deployment σ) (application : String)
    (id other : DefinitionId) (payload : Payload) :
    (deployment.register application id payload).2.nameOf other = deployment.nameOf other := by
  simp only [nameOf, register, Definitions.get_set]
  split
  next both => rw [Registrar.name_claim, both.1]
  next => rfl

/-- Withdrawing changes no definition. -/
theorem definitions_unregisterEach (application : String) (ids : List DefinitionId)
    (deployment : Deployment σ) :
    (unregisterEach application ids deployment).2.definitions = deployment.definitions := by
  apply unregisterEach_preserves
    (fun current => current.definitions = deployment.definitions)
  · intro current id unchanged
    exact unchanged
  · rfl

end Batches

/-! ## Over a name server -/

variable (deployment : Deployment (NameServer Payload)) (application : String)

theorem register_registers (id : DefinitionId) (payload : Payload) :
    Registrar.Registers deployment.registrar application (deployment.nameOf id) payload
      (deployment.register application id payload).1
      (deployment.register application id payload).2.registrar :=
  deployment.registrar.register_registers application (deployment.nameOf id) payload

theorem unregister_unregisters (id : DefinitionId) :
    Registrar.Unregisters deployment.registrar application (deployment.nameOf id)
      (deployment.unregister application id).1
      (deployment.unregister application id).2.registrar :=
  deployment.registrar.unregister_unregisters application (deployment.nameOf id)

theorem settings_registerEach (ids : List DefinitionId) :
    (registerEach application ids deployment).2.registrar.settings =
      deployment.registrar.settings := by
  apply registerEach_preserves
    (fun current => current.registrar.settings = deployment.registrar.settings)
  · intro current id payload unchanged
    rw [(register_registers current application id payload).settings_eq, unchanged]
  · rfl

theorem settings_unregisterEach (ids : List DefinitionId) :
    (unregisterEach application ids deployment).2.registrar.settings =
      deployment.registrar.settings := by
  apply unregisterEach_preserves
    (fun current => current.registrar.settings = deployment.registrar.settings)
  · intro current id unchanged
    rw [(unregister_unregisters current application id).settings_eq, unchanged]
  · rfl

/-- A batch touches the published names of its own application only. -/
theorem names_registerEach_of_ne (ids : List DefinitionId) {other : String}
    (different : other ≠ application) :
    (registerEach application ids deployment).2.registrar.names (some other) =
      deployment.registrar.names (some other) := by
  apply registerEach_preserves
    (fun current =>
      current.registrar.names (some other) = deployment.registrar.names (some other))
  · intro current id payload unchanged
    rw [(register_registers current application id payload).names_eq,
      if_neg fun both => different both.1, unchanged]
  · rfl

theorem names_unregisterEach_of_ne (ids : List DefinitionId) {other : String}
    (different : other ≠ application) :
    (unregisterEach application ids deployment).2.registrar.names (some other) =
      deployment.registrar.names (some other) := by
  apply unregisterEach_preserves
    (fun current =>
      current.registrar.names (some other) = deployment.registrar.names (some other))
  · intro current id unchanged
    rw [(unregister_unregisters current application id).names_eq, if_neg different, unchanged]
  · rfl

/-- The names that a batch of registrations publishes: the acceptable ones that are
not published yet, each in the place of its first visit. -/
def fresh (names : List String) : List String :=
  (names.filter fun name =>
    !deployment.registrar.isPublished application name &&
      deployment.registrar.accepts name).eraseDups

/-- After a call on a name, a later batch publishes what the whole batch does but
for the name itself. -/
theorem fresh_cons (id : DefinitionId) (payload : Payload) (names : List String) :
    deployment.fresh application (deployment.nameOf id :: names) =
      (if (deployment.register application id payload).1 then [deployment.nameOf id] else []) ++
        (deployment.register application id payload).2.fresh application names := by
  have call := register_registers deployment application id payload
  have accepts := call.accepts_eq
  have result := call.result_eq
  have published : ∀ name,
      (deployment.register application id payload).2.registrar.isPublished application name =
        (deployment.registrar.isPublished application name ||
          (deployment.register application id payload).1 &&
            decide (name = deployment.nameOf id)) := by
    intro name
    rw [Bool.eq_iff_iff, Registrar.isPublished_iff, call.names_eq, Bool.or_eq_true,
      Registrar.isPublished_iff, Bool.and_eq_true, decide_eq_true_eq]
    by_cases added : (deployment.register application id payload).1 = true
    · simp [added]
    · simp [added]
  cases added : (deployment.register application id payload).1 with
  | true =>
      rw [added] at result
      simp only [fresh, accepts, published, added, List.filter_cons, ← result, if_true,
        List.eraseDups_cons, List.filter_filter, Bool.true_and, List.cons_append,
        List.nil_append, List.cons.injEq, true_and]
      congr 2
      funext name
      by_cases same : name = deployment.nameOf id
      · simp [same]
      · simp [same]
  | false =>
      rw [added] at result
      simp [fresh, accepts, published, added, ← result]

theorem registerEach_fst (ids : List DefinitionId) :
    (registerEach application ids deployment).1 =
      deployment.fresh application (ids.map deployment.nameOf) := by
  induction ids generalizing deployment with
  | nil => rfl
  | cons id rest ih =>
      have names : rest.map (deployment.register application id
          (.mailResource (deployment.resourceOf id))).2.nameOf = rest.map deployment.nameOf := by
        apply List.map_congr_left
        intro other _
        exact nameOf_register deployment application id other _
      rw [List.map_cons,
        fresh_cons deployment application id (.mailResource (deployment.resourceOf id)),
        ← names, ← ih]
      simp only [registerEach, nameOf]
      split <;> rfl

/-- The names that a batch returns are those that it publishes. -/
theorem names_registerEach (ids : List DefinitionId) :
    (registerEach application ids deployment).2.registrar.names (some application) =
      deployment.registrar.names (some application) ++
        (registerEach application ids deployment).1 := by
  induction ids generalizing deployment with
  | nil => simp [registerEach]
  | cons id rest ih =>
      have call := register_registers deployment application id
        (.mailResource (deployment.resourceOf id))
      simp only [registerEach]
      rw [ih, call.names_eq]
      split
      next both => simp [both.2, nameOf]
      next neither => simp_all

/-- A name is published after a batch if it was before or the batch visits and publishes
it. -/
theorem isPublished_registerEach_iff (ids : List DefinitionId) (name : String) :
    (registerEach application ids deployment).2.registrar.isPublished application name = true ↔
      deployment.registrar.isPublished application name = true ∨
        (name ∈ ids.map deployment.nameOf ∧ deployment.registrar.accepts name = true) := by
  rw [Registrar.isPublished_iff, names_registerEach, List.mem_append, ← Registrar.isPublished_iff,
    registerEach_fst, fresh, List.mem_eraseDups, List.mem_filter, Bool.and_eq_true,
    Bool.not_eq_true']
  cases deployment.registrar.isPublished application name <;> simp

/-- After a batch of withdrawals none of its names is published. -/
theorem names_unregisterEach (ids : List DefinitionId) :
    (unregisterEach application ids deployment).2.registrar.names (some application) =
      (deployment.registrar.names (some application)).filter fun name =>
        decide (name ∉ ids.map deployment.nameOf) := by
  induction ids generalizing deployment with
  | nil => exact (List.filter_eq_self.mpr fun name _ => by simp).symm
  | cons id rest ih =>
      have call := unregister_unregisters deployment application id
      have names : (deployment.unregister application id).2.nameOf = deployment.nameOf := rfl
      simp only [unregisterEach]
      rw [ih, call.names_eq, if_pos rfl, List.filter_filter, names]
      congr 1
      funext name
      simp [not_or, Bool.and_comm]

/-! ## In service -/

/-- A deployment in step with a name server that never fails. -/
structure InService : Prop where
  outage : deployment.registrar.naming.outage = .none
  aligned : deployment.registrar.Aligned

variable {deployment}

theorem InService.register (inService : deployment.InService) (id : DefinitionId)
    (payload : Payload) :
    (deployment.register application id payload).2.InService ∧
      (deployment.register application id payload).2.registrar.warnings =
        deployment.registrar.warnings := by
  have call := register_registers deployment application id payload
  refine ⟨⟨call.outage_eq.trans inService.outage, call.aligned inService.aligned⟩, ?_⟩
  apply call.warnings_eq
  rw [inService.outage]
  rfl

theorem InService.unregister (inService : deployment.InService) (id : DefinitionId) :
    (deployment.unregister application id).2.InService ∧
      (deployment.unregister application id).2.registrar.warnings =
        deployment.registrar.warnings := by
  have call := unregister_unregisters deployment application id
  have answered : deployment.registrar.naming.outage.unbind (deployment.nameOf id) = false := by
    rw [inService.outage]
    rfl
  exact ⟨⟨call.outage_eq.trans inService.outage, call.aligned inService.aligned answered⟩,
    call.warnings_eq inService.aligned answered⟩

theorem InService.registerEach (inService : deployment.InService) (ids : List DefinitionId) :
    (registerEach application ids deployment).2.InService ∧
      (Deployment.registerEach application ids deployment).2.registrar.warnings =
        deployment.registrar.warnings := by
  apply registerEach_preserves
    (fun current =>
      current.InService ∧ current.registrar.warnings = deployment.registrar.warnings)
  · rintro current id payload ⟨served, unchanged⟩
    rcases served.register application id payload with ⟨still, silent⟩
    exact ⟨still, silent.trans unchanged⟩
  · exact ⟨inService, rfl⟩

theorem InService.unregisterEach (inService : deployment.InService) (ids : List DefinitionId) :
    (unregisterEach application ids deployment).2.InService ∧
      (Deployment.unregisterEach application ids deployment).2.registrar.warnings =
        deployment.registrar.warnings := by
  apply unregisterEach_preserves
    (fun current =>
      current.InService ∧ current.registrar.warnings = deployment.registrar.warnings)
  · rintro current id ⟨served, unchanged⟩
    rcases served.unregister application id with ⟨still, silent⟩
    exact ⟨still, silent.trans unchanged⟩
  · exact ⟨inService, rfl⟩

end Deployment

end ServerResources
