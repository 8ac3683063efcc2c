import ServerResources.Proofs.Query.Redaction
import ServerResources.Proofs.Query.Run

/-!
# Confidential values stay confidential

What a connector answers is compared with what its redacted form answers.  The lookup
of administered objects never looks at values, so both find the same object, and the
introspector is asked the same question.  Two connectors with the same redacted form
can therefore be told apart by the values of confidential names only, and these are
the names that the query for confidential properties returns.
-/

namespace ServerResources

namespace Lookup

variable {ρ σ : Type} [Configured ρ] [Configured σ]

/-- The same place with another definition. -/
def Found.map (image : ρ → σ) (found : Found ρ) : Found σ :=
  ⟨found.position, image found.entity⟩

/-- Keeps what a definition is looked up by. -/
structure KeepsKeys (image : ρ → σ) : Prop where
  interface_eq : ∀ entity, Configured.interface (image entity) = Configured.interface entity
  implementation_eq : ∀ entity,
    Configured.implementation (image entity) = Configured.implementation entity

theorem firstFrom_map {image : ρ → σ} (keeps : KeepsKeys image) (interface : String)
    (implementation : Option String) (position : Nat) (entities : List ρ) :
    firstFrom interface implementation position (entities.map image) =
      (firstFrom interface implementation position entities).map (Found.map image) := by
  induction entities generalizing position with
  | nil => rfl
  | cons entity rest ih =>
      have fits_eq : fits interface implementation (image entity) =
          fits interface implementation entity := by
        rw [fits, fits, keeps.interface_eq, keeps.implementation_eq]
      rw [List.map_cons, firstFrom, firstFrom, fits_eq, ih]
      split <;> rfl

/-- The lookup does not depend on anything else. -/
theorem find_map {image : ρ → σ} (keeps : KeepsKeys image) (entities : List ρ)
    (interface implementation : Option String) :
    find (some (entities.map image)) interface implementation =
      (find (some entities) interface implementation).map (Option.map (Found.map image)) := by
  cases interface with
  | none => rfl
  | some interface =>
      cases entities with
      | nil => rfl
      | cons entity rest =>
          have first := firstFrom_map keeps interface implementation 0 (entity :: rest)
          rw [List.map_cons] at first
          simp only [find, Option.getD_some, List.map_cons, first]
          cases firstFrom interface implementation 0 (entity :: rest) with
          | none => rfl
          | some found => rfl

end Lookup

theorem AdminObject.keepsKeys_redacted : Lookup.KeepsKeys AdminObject.redacted where
  interface_eq := by
    intro object
    rfl
  implementation_eq := by
    intro object
    rfl

/-- Two bags differ at most in the values of some names, which both of them have. -/
structure PropertyBag.AgreeBeyond (names : List String) (left right : PropertyBag) : Prop where
  keys_eq : left.keys = right.keys
  get?_eq : ∀ name, name ∉ names → left.get? name = right.get? name
  mem_keys : ∀ name ∈ names, name ∈ left.keys ∧ name ∈ right.keys

namespace Query

/-- Two answers to a question about properties, given the names that are confidential:
the same fault, nothing twice, or bags that differ at most in confidential values. -/
inductive Alike (confidential : Except Fault (List String)) :
    Except Fault (Option PropertyBag) → Except Fault (Option PropertyBag) → Prop where
  | fault (fault : Fault) : Alike confidential (.error fault) (.error fault)
  | nothing : Alike confidential (.ok none) (.ok none)
  | bags (names : List String) (left right : PropertyBag)
      (listed : confidential = .ok names) (agree : left.AgreeBeyond names right) :
      Alike confidential (.ok (some left)) (.ok (some right))

namespace Alike

variable {confidential : Except Fault (List String)}
  {first second third : Except Fault (Option PropertyBag)}

theorem symm (alike : Alike confidential first second) : Alike confidential second first := by
  cases alike with
  | fault fault => exact .fault fault
  | nothing => exact .nothing
  | bags names left right listed agree =>
      refine .bags names right left listed ⟨agree.keys_eq.symm, ?_, ?_⟩
      · intro name shown
        exact (agree.get?_eq name shown).symm
      · intro name member
        exact (agree.mem_keys name member).symm

theorem trans (alike : Alike confidential first second)
    (next : Alike confidential second third) : Alike confidential first third := by
  cases alike with
  | fault fault => exact next
  | nothing => exact next
  | bags names left middle listed agree =>
      cases next with
      | bags others _ right otherListed otherAgree =>
          rw [listed] at otherListed
          cases otherListed
          refine .bags names left right listed ⟨agree.keys_eq.trans otherAgree.keys_eq, ?_, ?_⟩
          · intro name shown
            exact (agree.get?_eq name shown).trans (otherAgree.get?_eq name shown)
          · intro name member
            exact ⟨(agree.mem_keys name member).1, (otherAgree.mem_keys name member).2⟩

end Alike

/-! ## One connector and its redacted form -/

section Redacted

variable (connector : Connector) (interface implementation : Option String)

/-- The redacted form of a connector finds the redacted form of the object. -/
theorem adminObject_redacted :
    adminObject (some connector.redacted) interface implementation =
      (adminObject (some connector) interface implementation).map
        (Option.map AdminObject.redacted) := by
  have found := Lookup.find_map AdminObject.keepsKeys_redacted connector.adminObjects
    interface implementation
  rw [adminObject_eq_find, adminObject_eq_find, Connector.redacted, found]
  cases Lookup.find (some connector.adminObjects) interface implementation with
  | error fault => rfl
  | ok found =>
      cases found with
      | none => rfl
      | some found => rfl

/-- The names of an object that may be absent. -/
def confidentialOf : Option AdminObject → List String
  | none => []
  | some object => Property.confidentialNames object.properties

theorem confidential_eq_adminObject (interface : String) (rest : List (Option String)) :
    confidential (some connector) (some interface :: rest) =
      (adminObject (some connector) (some interface) rest.head?.join).map confidentialOf := by
  rw [adminObject_eq_find]
  simp only [confidential, subject, Lookup.confidential, bind, Except.bind]
  cases Lookup.find (some connector.adminObjects) (some interface) rest.head?.join with
  | error fault => rfl
  | ok found =>
      cases found with
      | none => rfl
      | some found => rfl

theorem confidential_redacted (keys : List (Option String)) :
    confidential (some connector.redacted) keys = confidential (some connector) keys := by
  cases keys with
  | nil => rfl
  | cons interface rest =>
      cases interface with
      | none => rfl
      | some interface =>
          rw [confidential_eq_adminObject, confidential_eq_adminObject, adminObject_redacted]
          cases adminObject (some connector) (some interface) rest.head?.join with
          | error fault => rfl
          | ok found =>
              cases found with
              | none => rfl
              | some object =>
                  exact congrArg Except.ok (Property.confidentialNames_redacted object.properties)

end Redacted

/-! ## Runs -/

section Runs

variable (introspector : Introspector) (calls : List Introspector.Call)

/-- Redaction of an object can be told from confidential values only. -/
theorem alike_effective_redacted (object : AdminObject) (archive : Option String)
    {confidential : Except Fault (List String)}
    (listed : confidential = .ok (Property.confidentialNames object.properties)) :
    Alike confidential ((introspector.effective object.redacted archive).run calls).1
        ((introspector.effective object archive).run calls).1 ∧
      ((introspector.effective object.redacted archive).run calls).2 =
        ((introspector.effective object archive).run calls).2 := by
  cases implementation : object.implementation with
  | none =>
      rw [run_effective_of_classless _ _ object _ (.inl implementation),
        run_effective_of_classless _ _ object.redacted _ (.inl implementation)]
      exact ⟨.nothing, rfl⟩
  | some className =>
      by_cases empty : className = ""
      · have classless : object.implementation = some "" := implementation.trans (empty ▸ rfl)
        rw [run_effective_of_classless _ _ object _ (.inr classless),
          run_effective_of_classless _ _ object.redacted _ (.inr classless)]
        exact ⟨.nothing, rfl⟩
      · have names : (Configured.properties object.redacted).map Property.name =
            (Configured.properties object).map Property.name :=
          Property.names_redacted object.properties
        rw [run_effective_of_class _ _ object _ implementation empty,
          run_effective_of_class _ _ object.redacted _ implementation empty, names]
        refine ⟨?_, rfl⟩
        cases introspector.defaults className ((Configured.properties object).map Property.name)
            archive with
        | error fault => exact .fault fault
        | ok defaults =>
            refine .bags _ _ _ listed ⟨?_, ?_, ?_⟩
            · exact PropertyBag.keys_merge_redacted object.properties defaults
            · intro name shown
              exact PropertyBag.get?_merge_redacted object.properties defaults shown
            · intro name member
              have present := PropertyBag.mem_keys_merge_of_confidential defaults member
              refine ⟨?_, present⟩
              rw [← PropertyBag.keys_merge_redacted] at present
              exact present

theorem alike_beanProperties_redacted (connector : Connector) (interface : Option String)
    (rest : List (Option String)) (archive : Option String) :
    Alike (confidential (some connector) (interface :: rest))
        ((beanProperties introspector (some connector.redacted) interface rest.head?.join
          archive).run calls).1
        ((beanProperties introspector (some connector) interface rest.head?.join
          archive).run calls).1 ∧
      ((beanProperties introspector (some connector.redacted) interface rest.head?.join
          archive).run calls).2 =
        ((beanProperties introspector (some connector) interface rest.head?.join
          archive).run calls).2 := by
  rw [run_beanProperties, run_beanProperties, adminObject_redacted]
  cases found : adminObject (some connector) interface rest.head?.join with
  | error fault => exact ⟨.fault fault, rfl⟩
  | ok object =>
      cases object with
      | none => exact ⟨.nothing, rfl⟩
      | some object =>
          cases interface with
          | none => cases found
          | some interface =>
              have listed : confidential (some connector) (some interface :: rest) =
                  .ok (Property.confidentialNames object.properties) := by
                rw [confidential_eq_adminObject, found]
                rfl
              exact alike_effective_redacted introspector calls object _ listed

/-- Two connectors that differ in confidential values only are answered alike. -/
theorem confidential_values_stay_confidential {left right : Connector}
    (same : left.redacted = right.redacted) (interface : Option String)
    (rest : List (Option String)) (archive : Option String) :
    confidential (some left) (interface :: rest) =
        confidential (some right) (interface :: rest) ∧
      ((beanProperties introspector (some left) interface rest.head?.join archive).run calls).2 =
        ((beanProperties introspector (some right) interface rest.head?.join archive).run
          calls).2 ∧
      Alike (confidential (some left) (interface :: rest))
        ((beanProperties introspector (some left) interface rest.head?.join archive).run calls).1
        ((beanProperties introspector (some right) interface rest.head?.join archive).run
          calls).1 := by
  have lists : confidential (some left) (interface :: rest) =
      confidential (some right) (interface :: rest) := by
    rw [← confidential_redacted left, ← confidential_redacted right, same]
  obtain ⟨leftAlike, leftCalls⟩ :=
    alike_beanProperties_redacted introspector calls left interface rest archive
  obtain ⟨rightAlike, rightCalls⟩ :=
    alike_beanProperties_redacted introspector calls right interface rest archive
  rw [← lists, ← same] at rightAlike
  rw [← same] at rightCalls
  exact ⟨lists, leftCalls.symm.trans rightCalls, leftAlike.symm.trans rightAlike⟩

end Runs

/-- A connector with a confidential password and a host that everybody may see. -/
def queueWith (password : Option String) : Connector where
  name := "queues"
  adminObjects :=
    [ { interface := "jakarta.jms.Queue"
        implementation := some "queues.Queue"
        properties :=
          [ ⟨"host", some "localhost", Property.defaultType, none, false⟩,
            ⟨"password", password, Property.defaultType, none, true⟩ ] } ]

theorem confidential_values_stay_confidential_password :
    queueWith (some "first") ≠ queueWith none ∧
    confidential (some (queueWith none)) [some "jakarta.jms.Queue"] = .ok ["password"] ∧
    Alike (.ok ["password"])
      ((beanProperties (.ofTable []) (some (queueWith (some "first"))) (some "jakarta.jms.Queue")
        none none).run []).1
      ((beanProperties (.ofTable []) (some (queueWith none)) (some "jakarta.jms.Queue")
        none none).run []).1 := by
  have redacted : (queueWith (some "first")).redacted = (queueWith none).redacted := rfl
  have listed : confidential (some (queueWith none)) [some "jakarta.jms.Queue"] =
      .ok ["password"] := rfl
  rcases confidential_values_stay_confidential (.ofTable []) [] redacted
    (some "jakarta.jms.Queue") [] none with ⟨lists, -, alike⟩
  rw [lists, listed] at alike
  exact ⟨by decide, listed, alike⟩

end Query

end ServerResources
