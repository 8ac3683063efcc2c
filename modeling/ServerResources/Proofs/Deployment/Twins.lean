import ServerResources.Proofs.Deployment.Share
import ServerResources.Proofs.Registrar.Payloads

/-!
# Deployments that differ in their references

Two deployments are twins if they are the same up to where their definitions are kept: one
registrar with labels in place of references becomes either of them, and definitions that a
label stands for have the same contents.  There may be further definitions in both, which no
label stands for.

Calls about definitions of one label come to the same in twins and leave them twins.
-/

namespace ServerResources

variable {ι : Type}

/-- A payload with labels in place of references. -/
abbrev LabelledPayload (ι : Type) := Json ⊕ MailResource ι

/-- The payload with the references that its labels stand for. -/
def LabelledPayload.resolve (reference : ι → DefinitionId) : LabelledPayload ι → Payload
  | .inl json => .value json
  | .inr resource => .mailResource (resource.map reference)

namespace Deployment

/-- Deployments that are the same up to the references of their definitions. -/
structure Twins (toLeft toRight : ι → DefinitionId)
    (left right : Deployment (NameServer Payload)) : Prop where
  settings_eq : left.settings = right.settings
  registrar : ∃ shared : Registrar (NameServer (LabelledPayload ι)),
    left.registrar = shared.map (LabelledPayload.resolve toLeft) ∧
      right.registrar = shared.map (LabelledPayload.resolve toRight)
  get_eq : ∀ label, left.definitions.get (toLeft label) = right.definitions.get (toRight label)
  known_iff : ∀ label, toLeft label < left.definitions.sessions.length ↔
    toRight label < right.definitions.sessions.length

namespace Twins

variable {toLeft toRight : ι → DefinitionId} {left right : Deployment (NameServer Payload)}

/-- Every application has the same share in twins. -/
theorem alike (twins : Twins toLeft toRight left right) (application : String) :
    Alike toLeft toRight application left right where
  settings_eq := twins.settings_eq
  registrar := by
    obtain ⟨shared, ofLeft, ofRight⟩ := twins.registrar
    rw [ofLeft, ofRight]
    exact ⟨rfl, rfl, rfl⟩
  get_eq := twins.get_eq
  known_iff := twins.known_iff

theorem nameOf_eq (twins : Twins toLeft toRight left right) (label : ι) :
    left.nameOf (toLeft label) = right.nameOf (toRight label) :=
  congrArg MailSession.name (twins.get_eq label)

/-! ## Calls -/

theorem during (twins : Twins toLeft toRight left right) (outage : Outage) :
    Twins toLeft toRight
      (left.withNaming { left.registrar.naming with outage := outage })
      (right.withNaming { right.registrar.naming with outage := outage }) where
  settings_eq := twins.settings_eq
  registrar := by
    obtain ⟨shared, ofLeft, ofRight⟩ := twins.registrar
    refine ⟨{ shared with naming := { shared.naming with outage := outage } }, ?_, ?_⟩
    · rw [withNaming, ofLeft]
      rfl
    · rw [withNaming, ofRight]
      rfl
  get_eq := twins.get_eq
  known_iff := twins.known_iff

/-- A registration hands over a payload of one label to both. -/
theorem enroll (twins : Twins toLeft toRight left right)
    (leftInjective : Function.Injective toLeft) (rightInjective : Function.Injective toRight)
    (application : String) (label : ι) :
    (left.enroll application (toLeft label)).1 = (right.enroll application (toRight label)).1 ∧
    Twins toLeft toRight (left.enroll application (toLeft label)).2
      (right.enroll application (toRight label)).2 := by
  obtain ⟨result, step, -⟩ := (twins.alike application).enroll leftInjective rightInjective label
  refine ⟨result, twins.settings_eq, ?_, step.get_eq, step.known_iff⟩
  obtain ⟨shared, ofLeft, ofRight⟩ := twins.registrar
  let payload : LabelledPayload ι := .inr ⟨label, (left.resourceOf (toLeft label)).name⟩
  have leftPayload : .mailResource (left.resourceOf (toLeft label)) =
      LabelledPayload.resolve toLeft payload := rfl
  have rightPayload : .mailResource (right.resourceOf (toRight label)) =
      LabelledPayload.resolve toRight payload := by
    simp only [LabelledPayload.resolve, MailResource.map, payload, resourceOf, twins.settings_eq,
      twins.get_eq]
  refine ⟨(shared.register application (left.nameOf (toLeft label)) payload).2, ?_, ?_⟩
  · have call := shared.register_map (LabelledPayload.resolve toLeft) application
      (left.nameOf (toLeft label)) payload
    rw [← ofLeft, ← leftPayload] at call
    exact congrArg Prod.snd call
  · have call := shared.register_map (LabelledPayload.resolve toRight) application
      (left.nameOf (toLeft label)) payload
    rw [← ofRight, ← rightPayload, twins.nameOf_eq] at call
    rw [twins.nameOf_eq]
    exact congrArg Prod.snd call

theorem unregister (twins : Twins toLeft toRight left right) (application : String) (label : ι) :
    (left.unregister application (toLeft label)).1 =
      (right.unregister application (toRight label)).1 ∧
    Twins toLeft toRight (left.unregister application (toLeft label)).2
      (right.unregister application (toRight label)).2 := by
  obtain ⟨shared, ofLeft, ofRight⟩ := twins.registrar
  have leftCall := shared.unregister_map (LabelledPayload.resolve toLeft) application
    (left.nameOf (toLeft label))
  have rightCall := shared.unregister_map (LabelledPayload.resolve toRight) application
    (left.nameOf (toLeft label))
  rw [← ofLeft] at leftCall
  rw [← ofRight] at rightCall
  have sameCall : right.registrar.unregister application (right.nameOf (toRight label)) =
      right.registrar.unregister application (left.nameOf (toLeft label)) := by
    rw [twins.nameOf_eq]
  refine ⟨?_, twins.settings_eq, ⟨_, congrArg Prod.snd leftCall, ?_⟩, twins.get_eq,
    twins.known_iff⟩
  · exact (congrArg Prod.fst leftCall).trans (congrArg Prod.fst (sameCall.trans rightCall)).symm
  · exact congrArg Prod.snd (sameCall.trans rightCall)

/-! ## What twins have in common -/

theorem published_eq (twins : Twins toLeft toRight left right) :
    left.registrar.published = right.registrar.published := by
  obtain ⟨shared, ofLeft, ofRight⟩ := twins.registrar
  rw [ofLeft, ofRight]
  rfl

theorem warnings_eq (twins : Twins toLeft toRight left right) :
    left.registrar.warnings = right.registrar.warnings := by
  obtain ⟨shared, ofLeft, ofRight⟩ := twins.registrar
  rw [ofLeft, ofRight]
  rfl

/-- What is bound reads the same. -/
theorem read_bindings_eq (twins : Twins toLeft toRight left right) :
    left.registrar.naming.directory.bindings.map (Payload.read left.definitions) =
      right.registrar.naming.directory.bindings.map (Payload.read right.definitions) := by
  obtain ⟨shared, ofLeft, ofRight⟩ := twins.registrar
  have reads : Payload.read left.definitions ∘ LabelledPayload.resolve toLeft =
      Payload.read right.definitions ∘ LabelledPayload.resolve toRight := by
    funext payload
    cases payload with
    | inl json => rfl
    | inr resource =>
        simp only [Function.comp_apply, LabelledPayload.resolve, Payload.read, MailResource.map,
          twins.get_eq]
  rw [ofLeft, ofRight]
  simp only [Registrar.map, NameServer.map, Directory.map, OrderedMap.map_map, reads]

end Twins

end Deployment

end ServerResources
