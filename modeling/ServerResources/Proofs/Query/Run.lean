import ServerResources.Query

/-!
# Runs of a question about properties

A question about the properties of an administered object looks the object up and asks
the introspector about its class.  These are the equations for one step of it after
another.  They say what the answer is and what the introspector was asked, and in
particular that there are only two ways to fail: no object fits, or the introspector
fails.
-/

namespace ServerResources.Query

open Introspector (Consultation)

variable {α β : Type} (introspector : Introspector) (calls : List Introspector.Call)

/-- A computation goes on after a reading that succeeds. -/
theorem run_bind_reading (reading : Except Fault α) (next : α → Consultation β) :
    ((liftM reading : Consultation α) >>= next).run calls =
      match reading with
      | .error fault => (.error fault, calls)
      | .ok value => (next value).run calls := by
  cases reading with
  | error fault => rfl
  | ok value => rfl

/-- A computation goes on after a consultation that succeeds. -/
theorem run_bind_ask (call : Introspector.Call) (next : PartialBag → Consultation β) :
    (introspector.ask call >>= next).run calls =
      match introspector.defaults call.className call.known call.archive with
      | .error fault => (.error fault, calls ++ [call])
      | .ok defaults => (next defaults).run (calls ++ [call]) := by
  have asked : introspector.ask call =
      (modify (· ++ [call]) >>= fun _ =>
        liftM (introspector.defaults call.className call.known call.archive)) := rfl
  cases answer : introspector.defaults call.className call.known call.archive with
  | error fault =>
      rw [asked, answer]
      rfl
  | ok defaults =>
      rw [asked, answer]
      rfl

/-! ## Effective properties -/

section Effective

variable {ρ : Type} [Configured ρ] (entity : ρ) (archive : Option String)

/-- Without a class there is nothing to ask about. -/
theorem run_effective_of_classless
    (classless : Configured.implementation entity = none ∨
      Configured.implementation entity = some "") :
    (introspector.effective entity archive).run calls = (.ok none, calls) := by
  unfold Introspector.effective
  rcases classless with absent | empty
  · rw [absent]
    rfl
  · rw [empty]
    rfl

theorem run_effective_of_class {className : String}
    (implemented : Configured.implementation entity = some className)
    (notEmpty : className ≠ "") :
    (introspector.effective entity archive).run calls =
      ((introspector.defaults className ((Configured.properties entity).map Property.name)
            archive).map
          fun defaults =>
            some (PropertyBag.merge (Property.declared (Configured.properties entity)) defaults),
        calls ++ [⟨className, (Configured.properties entity).map Property.name, archive⟩]) := by
  have asks : introspector.effective entity archive =
      introspector.ask
          ⟨className, (Configured.properties entity).map Property.name, archive⟩ >>=
        fun defaults =>
          pure (some (PropertyBag.merge (Property.declared (Configured.properties entity))
            defaults)) := by
    unfold Introspector.effective
    rw [implemented]
    split
    next absent => cases absent
    next empty =>
      cases empty
      exact (notEmpty rfl).elim
    next same =>
      cases same
      rfl
  rw [asks, run_bind_ask]
  cases introspector.defaults className ((Configured.properties entity).map Property.name)
      archive with
  | error fault => rfl
  | ok defaults => rfl

/-- Effective properties are missing only as the introspector says about the class. -/
theorem defaults_of_effective_eq_error {fault : Fault}
    (failed : ((introspector.effective entity archive).run calls).1 = .error fault) :
    ∃ className known, Configured.implementation entity = some className ∧
      introspector.defaults className known archive = .error fault := by
  cases implementation : Configured.implementation entity with
  | none =>
      rw [run_effective_of_classless _ _ entity _ (.inl implementation)] at failed
      cases failed
  | some className =>
      by_cases empty : className = ""
      · rw [empty] at implementation
        rw [run_effective_of_classless _ _ entity _ (.inr implementation)] at failed
        cases failed
      · rw [run_effective_of_class _ _ entity _ implementation empty] at failed
        refine ⟨className, (Configured.properties entity).map Property.name, rfl, ?_⟩
        cases answer : introspector.defaults className
            ((Configured.properties entity).map Property.name) archive with
        | error cause =>
            rw [answer] at failed
            cases failed
            rfl
        | ok defaults =>
            rw [answer] at failed
            cases failed

end Effective

/-! ## Administered objects -/

section AdminObjects

variable (connector : Connector) (interface implementation : Option String)

theorem adminObject_eq_find :
    adminObject (some connector) interface implementation =
      (Lookup.find (some connector.adminObjects) interface implementation).map
        (Option.map Lookup.Found.entity) := by
  simp only [adminObject, subject, bind, Except.bind]
  cases Lookup.find (some connector.adminObjects) interface implementation with
  | error fault => rfl
  | ok found => rfl

theorem run_beanProperties (archive : Option String) :
    (beanProperties introspector (some connector) interface implementation archive).run calls =
      match adminObject (some connector) interface implementation with
      | .error fault => (.error fault, calls)
      | .ok none => (.ok none, calls)
      | .ok (some object) =>
          (introspector.effective object (some (archiveName connector archive))).run calls := by
  unfold beanProperties
  rw [run_bind_reading]
  simp only [subject]
  rw [run_bind_reading]
  cases adminObject (some connector) interface implementation with
  | error fault => rfl
  | ok object =>
      cases object with
      | none => rfl
      | some object => rfl

end AdminObjects

end ServerResources.Query
