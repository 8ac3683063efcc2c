import ServerResources.Proofs.Deployment.History
import ServerResources.Proofs.Deployment.Share

/-!
# Batches that commute

Two applications of different names whose sessions are kept apart may be registered and
withdrawn in either order.  Each batch returns the same names and leaves the same
warnings, the definitions are the same in the end, and every application has the same
share.  Only the places that keys of different applications take in the directory depend
on the order.
-/

namespace ServerResources

open Registrar

/-- What may be done to the mail sessions of an application. -/
inductive Batch where
  | register (application : Application DefinitionId)
  | unregister (application : Application DefinitionId)

/-- The application that a batch is about. -/
def Batch.application : Batch → Application DefinitionId
  | register application => application
  | unregister application => application

/-- Tables with the same definitions are equal. -/
theorem Definitions.ext_get {left right : Definitions}
    (length : left.sessions.length = right.sessions.length)
    (get : ∀ id, left.get id = right.get id) : left = right := by
  cases left with
  | mk leftSessions =>
      cases right with
      | mk rightSessions =>
          apply congrArg Definitions.mk
          apply List.ext_getElem length
          intro id leftKnown rightKnown
          have same := get id
          simp only [Definitions.get, List.getD_eq_getElem?_getD,
            List.getElem?_eq_getElem leftKnown, List.getElem?_eq_getElem rightKnown,
            Option.getD_some] at same
          exact same

namespace Deployment

variable {deployment left right : Deployment (NameServer Payload)} {other : String}
  {batch : Batch}

/-- Does a batch. -/
def process (deployment : Deployment (NameServer Payload)) :
    Batch → List String × Deployment (NameServer Payload)
  | .register application => deployment.registerAll application
  | .unregister application => deployment.unregisterAll application

/-! ## One batch -/

theorem intact_process (intact : deployment.registrar.Intact) (batch : Batch) :
    (deployment.process batch).2.registrar.Intact := by
  cases batch with
  | register application =>
      apply registerEach_preserves fun current => current.registrar.Intact
      · intro current id payload held
        exact (register_registers current application.name id payload).intact held
      · exact intact
  | unregister application =>
      apply unregisterEach_preserves fun current => current.registrar.Intact
      · intro current id held
        exact intact_unregister held application.name id
      · exact intact

theorem length_process (deployment : Deployment (NameServer Payload)) (batch : Batch) :
    (deployment.process batch).2.definitions.sessions.length =
      deployment.definitions.sessions.length := by
  cases batch with
  | register application => exact length_registerEach _ _ _
  | unregister application =>
      rw [process, unregisterAll, definitions_unregisterEach]

theorem settings_process (deployment : Deployment (NameServer Payload)) (batch : Batch) :
    (deployment.process batch).2.settings = deployment.settings := by
  cases batch with
  | register application => exact resourceSettings_registerEach _ _
  | unregister application => exact resourceSettings_unregisterEach _ _

/-- A batch writes into the definitions of its application only. -/
theorem get_process_of_not_mem {id : DefinitionId} (unvisited : id ∉ batch.application.walk)
    (deployment : Deployment (NameServer Payload)) :
    (deployment.process batch).2.definitions.get id = deployment.definitions.get id := by
  cases batch with
  | register application => exact get_registerEach_of_not_mem _ _ _ unvisited
  | unregister application =>
      rw [process, unregisterAll, definitions_unregisterEach]

/-- A batch leaves every other application its share. -/
theorem process_of_ne (different : other ≠ batch.application.name)
    (intact : deployment.registrar.Intact) :
    Registrar.Alike other (deployment.process batch).2.registrar deployment.registrar ∧
      (deployment.process batch).2.registrar.bindingsOf other =
        deployment.registrar.bindingsOf other := by
  cases batch with
  | register application => exact registerEach_of_ne different application.walk deployment
  | unregister application => exact unregisterEach_of_ne different application.walk intact

/-- What a batch comes to in two deployments. -/
structure SameBatch (batch : Batch) (left right : Deployment (NameServer Payload)) : Prop where
  names_eq : (left.process batch).1 = (right.process batch).1
  registrar : Registrar.Alike batch.application.name (left.process batch).2.registrar
    (right.process batch).2.registrar
  bindingsOf_eq : (left.process batch).2.registrar.bindingsOf batch.application.name =
    (right.process batch).2.registrar.bindingsOf batch.application.name
  get_eq : ∀ id ∈ batch.application.walk,
    (left.process batch).2.definitions.get id = (right.process batch).2.definitions.get id
  warnings : ∃ issued,
    (left.process batch).2.registrar.warnings = left.registrar.warnings ++ issued ∧
    (right.process batch).2.registrar.warnings = right.registrar.warnings ++ issued

/-- A batch comes to the same where its application has the same share and its
definitions are the same. -/
theorem sameBatch (settings : left.settings = right.settings)
    (alike : Registrar.Alike batch.application.name left.registrar right.registrar)
    (bindings : left.registrar.bindingsOf batch.application.name =
      right.registrar.bindingsOf batch.application.name)
    (length : left.definitions.sessions.length = right.definitions.sessions.length)
    (get : ∀ id ∈ batch.application.walk, left.definitions.get id = right.definitions.get id)
    (leftIntact : left.registrar.Intact) (rightIntact : right.registrar.Intact) :
    SameBatch batch left right := by
  have raw := congrArg (OrderedMap.map id) bindings
  cases batch with
  | register application =>
      -- The definitions correspond by themselves, as far as the walk visits them.
      have same : Alike (Subtype.val : { id // id ∈ application.walk } → DefinitionId)
          Subtype.val application.name left right := by
        refine ⟨settings, alike, ?_, ?_⟩
        · exact fun visited => get visited.val visited.property
        · exact fun visited => by rw [length]
      have injective : Function.Injective
          (Subtype.val : { id // id ∈ application.walk } → DefinitionId) :=
        fun _ _ => Subtype.ext
      obtain ⟨names, final, warnings⟩ :=
        same.registerEach injective injective application.walk.attach
      have contents := same.bindings_registerEach injective injective application.walk.attach
        id id (fun _ _ => rfl) raw
      rw [List.attach_map_subtype_val] at names final warnings contents
      rw [OrderedMap.map_id, OrderedMap.map_id] at contents
      exact ⟨names, final.registrar, contents, fun id visited => final.get_eq ⟨id, visited⟩,
        warnings⟩
  | unregister application =>
      have named : application.walk.map left.nameOf = application.walk.map right.nameOf := by
        apply List.map_congr_left
        intro id visited
        exact congrArg MailSession.name (get id visited)
      obtain ⟨names, final, warnings⟩ :=
        unregisterEach_alike alike leftIntact rightIntact named
      have contents := bindings_unregisterEach alike leftIntact rightIntact named id id raw
      rw [OrderedMap.map_id, OrderedMap.map_id] at contents
      refine ⟨names, final, contents, ?_, warnings⟩
      intro id visited
      rw [process, process, unregisterAll, unregisterAll, definitions_unregisterEach,
        definitions_unregisterEach]
      exact get id visited

/-! ## Two batches -/

/-- Two batches come to the same in either order. -/
structure Commute (deployment : Deployment (NameServer Payload)) (mine yours : Batch) :
    Prop where
  mine_eq : ((deployment.process yours).2.process mine).1 = (deployment.process mine).1
  yours_eq : ((deployment.process mine).2.process yours).1 = (deployment.process yours).1
  definitions_eq : ((deployment.process mine).2.process yours).2.definitions =
    ((deployment.process yours).2.process mine).2.definitions
  shares : ∀ application,
    Registrar.Alike application ((deployment.process mine).2.process yours).2.registrar
        ((deployment.process yours).2.process mine).2.registrar ∧
      ((deployment.process mine).2.process yours).2.registrar.bindingsOf application =
        ((deployment.process yours).2.process mine).2.registrar.bindingsOf application
  warnings : ∃ first second,
    ((deployment.process mine).2.process yours).2.registrar.warnings =
        deployment.registrar.warnings ++ first ++ second ∧
      ((deployment.process yours).2.process mine).2.registrar.warnings =
        deployment.registrar.warnings ++ second ++ first

section Commuting

variable {mine yours : Batch} (intact : deployment.registrar.Intact)
  (different : mine.application.name ≠ yours.application.name)
  (apart : ∀ id ∈ mine.application.walk, id ∉ yours.application.walk)

include intact different apart

/-- A batch comes to the same after a batch of another application. -/
theorem sameBatch_process : SameBatch mine (deployment.process yours).2 deployment := by
  obtain ⟨alike, bindings⟩ := process_of_ne different intact
  apply sameBatch (settings_process deployment yours) alike bindings
    (length_process deployment yours)
  · intro id visited
    exact get_process_of_not_mem (apart id visited) deployment
  · exact intact_process intact yours
  · exact intact

theorem share_commute :
    Registrar.Alike mine.application.name
        ((deployment.process mine).2.process yours).2.registrar
        ((deployment.process yours).2.process mine).2.registrar ∧
      ((deployment.process mine).2.process yours).2.registrar.bindingsOf
          mine.application.name =
        ((deployment.process yours).2.process mine).2.registrar.bindingsOf
          mine.application.name := by
  have later := sameBatch_process intact different apart
  obtain ⟨alike, bindings⟩ := process_of_ne different (intact_process intact mine)
  exact ⟨alike.trans later.registrar.symm, bindings.trans later.bindingsOf_eq.symm⟩

theorem get_commute {id : DefinitionId} (visited : id ∈ mine.application.walk) :
    ((deployment.process mine).2.process yours).2.definitions.get id =
      ((deployment.process yours).2.process mine).2.definitions.get id := by
  have later := sameBatch_process intact different apart
  rw [get_process_of_not_mem (apart id visited), later.get_eq id visited]

theorem batches_commute : Commute deployment mine yours := by
  have swapped : ∀ id ∈ yours.application.walk, id ∉ mine.application.walk :=
    fun id visited member => apart id member visited
  have mineLater := sameBatch_process intact different apart
  have yoursLater := sameBatch_process intact different.symm swapped
  refine ⟨mineLater.names_eq, yoursLater.names_eq, ?definitions, ?shares, ?warnings⟩
  case definitions =>
    apply Definitions.ext_get
    · simp only [length_process]
    · intro id
      by_cases ofMine : id ∈ mine.application.walk
      · exact get_commute intact different apart ofMine
      · by_cases ofYours : id ∈ yours.application.walk
        · exact (get_commute intact different.symm swapped ofYours).symm
        · simp only [get_process_of_not_mem ofMine, get_process_of_not_mem ofYours]
  case shares =>
    intro application
    by_cases ofMine : application = mine.application.name
    · rw [ofMine]
      exact share_commute intact different apart
    · by_cases ofYours : application = yours.application.name
      · rw [ofYours]
        obtain ⟨alike, bindings⟩ := share_commute intact different.symm swapped
        exact ⟨alike.symm, bindings.symm⟩
      · obtain ⟨afterMine, mineKept⟩ := process_of_ne ofMine intact
        obtain ⟨afterYours, yoursKept⟩ := process_of_ne ofYours intact
        obtain ⟨thenYours, kept⟩ := process_of_ne ofYours (intact_process intact mine)
        obtain ⟨thenMine, alsoKept⟩ := process_of_ne ofMine (intact_process intact yours)
        exact ⟨(thenYours.trans afterMine).trans (thenMine.trans afterYours).symm,
          (kept.trans mineKept).trans (alsoKept.trans yoursKept).symm⟩
  case warnings =>
    obtain ⟨first, mineAfter, mineFirst⟩ := mineLater.warnings
    obtain ⟨second, yoursAfter, yoursFirst⟩ := yoursLater.warnings
    refine ⟨first, second, ?_, ?_⟩
    · rw [yoursAfter, mineFirst]
    · rw [mineAfter, yoursFirst]

end Commuting

end Deployment

end ServerResources
