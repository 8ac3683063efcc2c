import ServerResources.Proofs.LastByKey
import ServerResources.Proofs.Registrar.Alignment

/-!
# Events of a registrar

Under outages the published names and the bindings drift apart, in one direction
only.  A name whose publication is refused is not published and not bound; a name
whose withdrawal is refused is forgotten, but stays bound.

Three events mark what happened to a name.  `Explains` says how the published names
and the bindings follow from the latest event of each name, and every call keeps it,
whatever the outage is at the time.
-/

namespace ServerResources.Registrar

variable {π : Type}

/-- What a call may have done to a name of an application. -/
inductive Event (π : Type) where
  | published (application name : String) (payload : π)
  | withdrawn (application name : String)
  /-- The name is forgotten, but the naming service refused to unbind its key. -/
  | lost (application name : String)

namespace Event

/-- The application and the name that an event is about. -/
def place : Event π → String × String
  | published application name _ => (application, name)
  | withdrawn application name => (application, name)
  | lost application name => (application, name)

end Event

/-- The event of a registration with the given result. -/
def eventOfRegister (application name : String) (payload : π) (result : Bool) :
    List (Event π) :=
  if result then [.published application name payload] else []

/-- The event of a withdrawal with the given result: only a published name has one. -/
def eventOfUnregister (registrar : Registrar (NameServer π)) (application name : String)
    (result : Bool) : List (Event π) :=
  match registrar.published.get? (application, name) with
  | none => []
  | some _ => [if result then .withdrawn application name else .lost application name]

/-- The published names and the bindings follow from the latest events. -/
structure Explains (history : List (Event π)) (registrar : Registrar (NameServer π)) :
    Prop where
  published : ∀ application name key,
    registrar.published.get? (application, name) = some key →
      key = bindingKey application name ∧ registrar.settings.isShared name = true ∧
        ∃ payload, IsLastBy Event.place history (.published application name payload) ∧
          registrar.naming.directory.lookup key = some payload
  bound : ∀ key ∈ registrar.boundKeys, ∃ application name,
    key = bindingKey application name ∧
      (registrar.published.get? (application, name) = none →
        IsLastBy Event.place history (.lost application name))

theorem explains_start (settings : Settings) :
    Explains [] (start settings (.start : NameServer π)) where
  published := by
    intro application name key found
    cases found
  bound := by
    intro key member
    cases member

variable {registrar after : Registrar (NameServer π)} {history : List (Event π)}
  {application name : String} {payload : π} {result : Bool}

/-- Neither a warning nor an outage matters. -/
theorem Explains.congr (explains : Explains history registrar)
    (settings : after.settings = registrar.settings)
    (directory : after.naming.directory = registrar.naming.directory)
    (published : after.published = registrar.published) : Explains history after where
  published := by
    rw [settings, directory, published]
    exact explains.published
  bound := by
    intro key member
    rw [boundKeys, directory] at member
    rcases explains.bound key member with ⟨owner, other, equal, lost⟩
    rw [published]
    exact ⟨owner, other, equal, lost⟩

theorem Explains.recorded (explains : Explains history registrar)
    (shared : registrar.settings.isShared name = true) :
    Explains (history ++ [.published application name payload])
      (registrar.recorded application name payload) where
  published := by
    intro owner other key found
    simp only [Registrar.recorded, OrderedMap.get?_insert] at found
    split at found
    next same =>
      cases found
      cases same
      refine ⟨rfl, shared, payload, isLastBy_snoc _ _ _, ?_⟩
      exact OrderedMap.get?_insert_self _ _ _
    next elsewhere =>
      obtain ⟨equal, otherShared, value, latest, bound⟩ :=
        explains.published owner other key found
      refine ⟨equal, otherShared, value, latest.snoc fun same => elsewhere same.symm, ?_⟩
      have away : key ≠ bindingKey application name := by
        rw [equal]
        exact bindingKey_ne elsewhere
      exact (OrderedMap.get?_insert_of_ne _ _ away).trans bound
  bound := by
    intro key member
    have before : key = bindingKey application name ∨ key ∈ registrar.boundKeys := by
      rw [boundKeys, Registrar.recorded, Directory.keys, OrderedMap.keys_insert] at member
      split at member
      next => exact .inr member
      next => exact (List.mem_append.mp member).symm.imp_left List.mem_singleton.mp
    simp only [Registrar.recorded, OrderedMap.get?_insert]
    rcases before with new | old
    · refine ⟨application, name, new, ?_⟩
      rw [if_pos rfl]
      intro absent
      cases absent
    · rcases explains.bound key old with ⟨owner, other, equal, lost⟩
      refine ⟨owner, other, equal, ?_⟩
      split
      next =>
        intro absent
        cases absent
      next elsewhere =>
        intro absent
        exact (lost absent).snoc fun same => elsewhere same.symm

/-- Forgetting a name, and its key with it unless the withdrawal was refused. -/
theorem Explains.forgotten (explains : Explains history registrar) (event : Event π)
    (about : event.place = (application, name)) {key : BindingKey}
    (published : registrar.published.get? (application, name) = some key)
    (settings : after.settings = registrar.settings)
    (names : after.published = registrar.published.erase (application, name))
    (bindings : event = .lost application name ∧
        after.naming.directory = registrar.naming.directory ∨
      after.naming.directory = ⟨registrar.naming.directory.bindings.erase key⟩) :
    Explains (history ++ [event]) after where
  published := by
    intro owner other otherKey found
    rw [names, OrderedMap.get?_erase] at found
    split at found
    next => cases found
    next elsewhere =>
      obtain ⟨equal, shared, payload, latest, bound⟩ :=
        explains.published owner other otherKey found
      rw [settings]
      refine ⟨equal, shared, payload, latest.snoc ?_, ?_⟩
      · rw [about]
        exact fun same => elsewhere same.symm
      · rcases bindings with ⟨-, kept⟩ | unbound
        · rw [kept]
          exact bound
        · have own := (explains.published application name key published).1
          have away : otherKey ≠ key := by
            rw [equal, own]
            exact bindingKey_ne elsewhere
          rw [unbound, Directory.lookup, OrderedMap.get?_erase, if_neg away]
          exact bound
  bound := by
    intro otherKey member
    have own := (explains.published application name key published).1
    have old : otherKey ∈ registrar.boundKeys ∧
        (event = .lost application name ∨ otherKey ≠ key) := by
      rw [boundKeys] at member
      rcases bindings with ⟨lost, kept⟩ | unbound
      · rw [kept] at member
        exact ⟨member, .inl lost⟩
      · rw [unbound, Directory.keys, OrderedMap.keys_erase, List.mem_filter,
          decide_eq_true_eq] at member
        exact ⟨member.1, .inr member.2⟩
    rcases explains.bound otherKey old.1 with ⟨owner, other, equal, lost⟩
    refine ⟨owner, other, equal, ?_⟩
    rw [names, OrderedMap.get?_erase]
    split
    -- The forgotten name itself is still bound only if its key was kept.
    next same =>
      intro _
      rcases Prod.mk.inj same with ⟨rfl, rfl⟩
      rcases old.2 with lost | away
      · rw [lost]
        exact isLastBy_snoc _ _ _
      · exact (away (equal.trans own.symm)).elim
    next elsewhere =>
      intro absent
      apply (lost absent).snoc
      rw [about]
      exact fun same => elsewhere same.symm

theorem place_of_eventOfRegister {event : Event π}
    (member : event ∈ eventOfRegister application name payload result) :
    event.place = (application, name) := by
  rw [eventOfRegister] at member
  split at member
  next => rw [List.mem_singleton.mp member, Event.place]
  next => cases member

theorem place_of_eventOfUnregister {event : Event π}
    (member : event ∈ eventOfUnregister registrar application name result) :
    event.place = (application, name) := by
  rw [eventOfUnregister] at member
  split at member
  next => cases member
  next =>
      rw [List.mem_singleton.mp member]
      split <;> rfl

theorem Registers.explains (call : Registers registrar application name payload result after)
    (explains : Explains history registrar) :
    Explains (history ++ eventOfRegister application name payload result) after := by
  cases call with
  | skipped =>
      rw [eventOfRegister, if_neg Bool.false_ne_true, List.append_nil]
      exact explains
  | refused =>
      rw [eventOfRegister, if_neg Bool.false_ne_true, List.append_nil]
      exact explains.congr rfl rfl rfl
  | published unpublished shared =>
      rw [eventOfRegister, if_pos rfl]
      exact explains.recorded shared

theorem Unregisters.explains (call : Unregisters registrar application name result after)
    (explains : Explains history registrar) :
    Explains (history ++ eventOfUnregister registrar application name result) after := by
  cases call with
  | skipped unpublished =>
      simp only [eventOfUnregister, unpublished, List.append_nil]
      exact explains
  | refused key cause published =>
      simp only [eventOfUnregister, published, Bool.false_eq_true, if_false]
      exact explains.forgotten _ rfl published rfl rfl (.inl ⟨rfl, rfl⟩)
  | withdrawn key published =>
      simp only [eventOfUnregister, published, if_true]
      exact explains.forgotten _ rfl published rfl rfl (.inr rfl)

end ServerResources.Registrar
