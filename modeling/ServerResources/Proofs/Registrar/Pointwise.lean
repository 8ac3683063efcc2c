import ServerResources.Proofs.Registrar.Event

/-!
# One name at a time

A call of the registrar is about one name of one application, and so about one key.
Its result decides what becomes of the entry of the name and of the binding of the
key; every other entry and every other binding stays as it is.

A registrar is intact if each of its published names is bound to its own key.  All
registrars that explain a history are, and an intact registrar is refused the
withdrawal of a name only while there is an outage.
-/

namespace ServerResources.Registrar

variable {π : Type}

/-- What is bound to a key. -/
def lookup (registrar : Registrar (NameServer π)) (key : BindingKey) : Option π :=
  registrar.naming.directory.lookup key

/-- Every published name is bound to its own key. -/
structure Intact (registrar : Registrar (NameServer π)) : Prop where
  keyed : registrar.Keyed
  bound : ∀ application name key, registrar.published.get? (application, name) = some key →
    (registrar.lookup key).isSome = true

variable {registrar after : Registrar (NameServer π)} {application name : String}
  {payload : π} {result : Bool}

theorem mem_boundKeys_iff (registrar : Registrar (NameServer π)) (key : BindingKey) :
    key ∈ registrar.boundKeys ↔ (registrar.lookup key).isSome = true :=
  (registrar.naming.directory.isBound_iff key).symm

theorem Explains.intact {history : List (Event π)} (explains : Explains history registrar) :
    registrar.Intact where
  keyed := by
    intro application name key found
    exact (explains.published application name key found).1
  bound := by
    intro application name key found
    obtain ⟨-, -, payload, -, bound⟩ := explains.published application name key found
    rw [lookup, bound]
    rfl

/-! ## Registrations -/

theorem Registers.get?_published
    (call : Registers registrar application name payload result after)
    (place : String × String) :
    after.published.get? place =
      if result = true ∧ place = (application, name) then some (bindingKey application name)
      else registrar.published.get? place := by
  cases call with
  | skipped => simp
  | refused => simp [warned]
  | published => simp [recorded, OrderedMap.get?_insert]

theorem Registers.lookup_eq
    (call : Registers registrar application name payload result after) (key : BindingKey) :
    after.lookup key =
      if result = true ∧ key = bindingKey application name then some payload
      else registrar.lookup key := by
  cases call with
  | skipped => simp
  | refused => simp [warned, lookup]
  | published => simp [recorded, lookup, Directory.lookup, OrderedMap.get?_insert]

/-- What is published under a name that an outage concerns stays published as it was. -/
theorem Registers.get?_published_of_outage
    (call : Registers registrar application name payload result after) {other : String}
    (outage : registrar.naming.outage.bind other = true) (owner : String) :
    after.published.get? (owner, other) = registrar.published.get? (owner, other) := by
  rw [call.get?_published, if_neg]
  rintro ⟨published, place⟩
  cases place
  rw [call.result_eq, accepts, outage] at published
  simp at published

/-- What is bound under a name that an outage concerns stays bound as it was. -/
theorem Registers.lookup_of_outage
    (call : Registers registrar application name payload result after) {key : BindingKey}
    (outage : registrar.naming.outage.bind key.name = true) :
    after.lookup key = registrar.lookup key := by
  rw [call.lookup_eq, if_neg]
  rintro ⟨published, equal⟩
  rw [equal, bindingKey] at outage
  rw [call.result_eq, accepts, outage] at published
  simp at published

/-- A registration leaves a warning if an outage keeps it from publishing its name. -/
theorem Registers.warnings_append
    (call : Registers registrar application name payload result after) :
    after.warnings = registrar.warnings ++
      if registrar.isPublished application name = false ∧
          registrar.settings.isShared name = true ∧ registrar.naming.outage.bind name = true then
        [.notPublished name application (.cannotBind name)]
      else [] := by
  cases call with
  | skipped idle =>
      rw [if_neg, List.append_nil]
      rintro ⟨unpublished, shared, -⟩
      rcases idle with published | hidden
      · exact Bool.false_ne_true (unpublished.symm.trans published)
      · exact Bool.false_ne_true (hidden.symm.trans shared)
  | refused unpublished shared outage => rw [if_pos ⟨unpublished, shared, outage⟩, warned]
  | published unpublished shared inService =>
      rw [if_neg, List.append_nil]
      · rfl
      · rintro ⟨-, -, outage⟩
        exact Bool.false_ne_true (inService.symm.trans outage)

/-! ## Withdrawals -/

theorem Unregisters.get?_published
    (call : Unregisters registrar application name result after) (place : String × String) :
    after.published.get? place =
      if place = (application, name) then none else registrar.published.get? place := by
  cases call with
  | skipped unpublished =>
      split
      next same => rw [same, unpublished]
      next => rfl
  | refused => exact registrar.published.get?_erase (application, name) place
  | withdrawn => exact registrar.published.get?_erase (application, name) place

theorem Unregisters.isPublished_eq
    (call : Unregisters registrar application name result after) (other : String) :
    after.isPublished application other =
      (registrar.isPublished application other && !(other == name)) := by
  rw [isPublished, OrderedMap.contains, call.get?_published]
  by_cases here : other = name
  · simp [here]
  · simp [here, isPublished, OrderedMap.contains]

theorem Unregisters.lookup_eq (call : Unregisters registrar application name result after)
    (keyed : registrar.Keyed) (key : BindingKey) :
    after.lookup key =
      if result = true ∧ key = bindingKey application name then none
      else registrar.lookup key := by
  cases call with
  | skipped => simp
  | refused => simp [warned, forgotten, lookup]
  | withdrawn own published =>
      rw [keyed application name own published]
      simp [unbound, forgotten, lookup, Directory.lookup, OrderedMap.get?_erase]

theorem isPublished_of_get? {key : BindingKey}
    (published : registrar.published.get? (application, name) = some key) :
    registrar.isPublished application name = true := by
  rw [isPublished, OrderedMap.contains, published]
  rfl

/-- A published name is withdrawn if no outage concerns it and its key is bound. -/
theorem Unregisters.result_eq_of_keyed
    (call : Unregisters registrar application name result after) (keyed : registrar.Keyed) :
    result =
      (registrar.isPublished application name &&
        (!registrar.naming.outage.unbind name &&
          decide (bindingKey application name ∈ registrar.boundKeys))) := by
  cases call with
  | skipped unpublished =>
      simp [isPublished, OrderedMap.contains, unpublished]
  | refused key cause published reason =>
      have own := keyed application name key published
      subst own
      rw [isPublished_of_get? published]
      rcases reason with outage | absent
      · have concerned : registrar.naming.outage.unbind name = true := outage
        simp [concerned]
      · simp [absent]
  | withdrawn key published inService present =>
      have own := keyed application name key published
      subst own
      have spared : registrar.naming.outage.unbind name = false := inService
      simp [isPublished_of_get? published, spared, present]

theorem Intact.mem_boundKeys (intact : registrar.Intact)
    (published : registrar.isPublished application name = true) :
    bindingKey application name ∈ registrar.boundKeys := by
  rw [isPublished, OrderedMap.contains, Option.isSome_iff_exists] at published
  obtain ⟨key, found⟩ := published
  have own := intact.keyed application name key found
  subst own
  exact (registrar.mem_boundKeys_iff _).mpr (intact.bound application name _ found)

/-- An intact registrar withdraws exactly the published names that no outage concerns. -/
theorem Unregisters.result_eq (call : Unregisters registrar application name result after)
    (intact : registrar.Intact) :
    result =
      (registrar.isPublished application name && !registrar.naming.outage.unbind name) := by
  rw [call.result_eq_of_keyed intact.keyed]
  cases published : registrar.isPublished application name with
  | false => rfl
  | true => rw [decide_eq_true (intact.mem_boundKeys published), Bool.and_true]

theorem Unregisters.intact (call : Unregisters registrar application name result after)
    (intact : registrar.Intact) : after.Intact where
  keyed := call.keyed intact.keyed
  bound := by
    intro owner other key found
    have kept := call.keyed intact.keyed owner other key found
    rw [call.get?_published] at found
    split at found
    next => cases found
    next elsewhere =>
      have away : key ≠ bindingKey application name := by
        rw [kept]
        exact bindingKey_ne elsewhere
      rw [call.lookup_eq intact.keyed, if_neg fun both => away both.2]
      exact intact.bound owner other key found

/-- The withdrawal of a published name during an outage. -/
theorem unregister_of_outage (keyed : registrar.Keyed)
    (published : registrar.isPublished application name = true)
    (outage : registrar.naming.outage.unbind name = true) :
    registrar.unregister application name =
      (false,
        (registrar.forgotten application name).warned
          (.notWithdrawn name (.cannotUnbind name))) := by
  rw [isPublished, OrderedMap.contains, Option.isSome_iff_exists] at published
  rcases published with ⟨key, found⟩
  have own := keyed application name key found
  subst own
  simp only [bindingKey] at found
  simp only [unregister, found, NamingService.unbind, NameServer.unbind, outage, if_true]
  rfl

/-- A withdrawal from an intact registrar leaves a warning if an outage keeps the key of
a published name bound. -/
theorem warnings_unregister (intact : registrar.Intact) (application name : String) :
    (registrar.unregister application name).2.warnings = registrar.warnings ++
      if registrar.isPublished application name = true ∧
          registrar.naming.outage.unbind name = true then
        [.notWithdrawn name (.cannotUnbind name)]
      else [] := by
  split
  next both => rw [unregister_of_outage intact.keyed both.1 both.2, warned, forgotten]
  next neither =>
      have call := registrar.unregister_unregisters application name
      have expected := call.result_eq intact
      revert call expected
      generalize (registrar.unregister application name).1 = result
      generalize (registrar.unregister application name).2 = after
      intro call expected
      cases call with
      | skipped => rw [List.append_nil]
      | refused key cause published =>
          have tracked := isPublished_of_get? published
          have outage := expected.symm
          rw [tracked, Bool.true_and, Bool.not_eq_false'] at outage
          exact (neither ⟨tracked, outage⟩).elim
      | withdrawn => rw [List.append_nil, unbound, forgotten]

/-! ## Whatever becomes of the naming service -/

/-- Every published name is shared and recorded with its own key.  What is bound does not
matter, so a registrar is sound whatever else its name server is used for. -/
structure Sound (registrar : Registrar (NameServer π)) : Prop where
  keyed : registrar.Keyed
  shared : ∀ application name key, registrar.published.get? (application, name) = some key →
    registrar.settings.isShared name = true

theorem Sound.congr (sound : registrar.Sound) (settings : after.settings = registrar.settings)
    (published : after.published = registrar.published) : after.Sound where
  keyed := by
    rw [Keyed, published]
    exact sound.keyed
  shared := by
    rw [settings, published]
    exact sound.shared

theorem sound_start (settings : Settings) (server : NameServer π) :
    (start settings server).Sound where
  keyed := by
    intro application name key found
    cases found
  shared := by
    intro application name key found
    cases found

theorem Registers.sound (call : Registers registrar application name payload result after)
    (sound : registrar.Sound) : after.Sound where
  keyed := call.keyed sound.keyed
  shared := by
    intro owner other key found
    rw [call.settings_eq]
    rw [call.get?_published] at found
    split at found
    next new =>
      rcases new with ⟨granted, place⟩
      cases place
      exact call.shared granted
    next => exact sound.shared owner other key found

theorem Unregisters.sound (call : Unregisters registrar application name result after)
    (sound : registrar.Sound) : after.Sound where
  keyed := call.keyed sound.keyed
  shared := by
    intro owner other key found
    rw [call.settings_eq]
    rw [call.get?_published] at found
    split at found
    next => cases found
    next => exact sound.shared owner other key found

/-- Only shared names have events. -/
theorem Registers.shared_of_event
    (call : Registers registrar application name payload result after)
    {event : Event π} (member : event ∈ eventOfRegister application name payload result) :
    registrar.settings.isShared event.place.2 = true := by
  cases call with
  | skipped => cases member
  | refused => cases member
  | published _ shared =>
      rw [eventOfRegister, if_pos rfl, List.mem_singleton] at member
      rw [member]
      exact shared

theorem shared_of_event_unregister (sound : registrar.Sound) {event : Event π}
    (member : event ∈ eventOfUnregister registrar application name result) :
    registrar.settings.isShared event.place.2 = true := by
  cases published : registrar.published.get? (application, name) with
  | none =>
      rw [eventOfUnregister, published] at member
      cases member
  | some key =>
      rw [place_of_eventOfUnregister member]
      exact sound.shared application name key published

/-- What is bound to a key changes only with an event of its name. -/
theorem Registers.lookup_of_events
    (call : Registers registrar application name payload result after) {key : BindingKey}
    (apart : ∀ event ∈ eventOfRegister application name payload result,
      bindingKey event.place.1 event.place.2 ≠ key) :
    after.lookup key = registrar.lookup key := by
  rw [call.lookup_eq, if_neg]
  rintro ⟨granted, own⟩
  rw [eventOfRegister, if_pos granted] at apart
  exact apart _ List.mem_cons_self own.symm

theorem Unregisters.lookup_of_events
    (call : Unregisters registrar application name result after) (keyed : registrar.Keyed)
    {key : BindingKey}
    (apart : ∀ event ∈ eventOfUnregister registrar application name result,
      bindingKey event.place.1 event.place.2 ≠ key) :
    after.lookup key = registrar.lookup key := by
  rw [call.lookup_eq keyed, if_neg]
  rintro ⟨granted, own⟩
  cases call with
  | skipped => cases granted
  | refused => cases granted
  | withdrawn _ published =>
      rw [eventOfUnregister, published] at apart
      exact apart _ List.mem_cons_self own.symm

/-! ## Published names and their bindings -/

/-- Every published name is bound to the payload that it was published with last, whatever
else is bound. -/
def Backed (history : List (Event π)) (registrar : Registrar (NameServer π)) : Prop :=
  ∀ application name key, registrar.published.get? (application, name) = some key →
    key = bindingKey application name ∧ registrar.settings.isShared name = true ∧
      ∃ payload, IsLastBy Event.place history (.published application name payload) ∧
        registrar.lookup key = some payload

variable {history : List (Event π)}

theorem Backed.sound (backed : Backed history registrar) : registrar.Sound where
  keyed := by
    intro application name key found
    exact (backed application name key found).1
  shared := by
    intro application name key found
    exact (backed application name key found).2.1

theorem backed_start (settings : Settings) (server : NameServer π) :
    Backed [] (start settings server) := by
  intro application name key found
  cases found

/-- Only the bindings of shared names matter. -/
theorem Backed.congr (backed : Backed history registrar)
    (settings : after.settings = registrar.settings)
    (published : after.published = registrar.published)
    (bound : ∀ key, registrar.settings.isShared key.name = true →
      after.lookup key = registrar.lookup key) : Backed history after := by
  intro application name key found
  rw [published] at found
  rcases backed application name key found with ⟨rfl, shared, payload, latest, before⟩
  rw [settings, bound (bindingKey application name) shared]
  exact ⟨rfl, shared, payload, latest, before⟩

theorem Registers.backed (call : Registers registrar application name payload result after)
    (backed : Backed history registrar) :
    Backed (history ++ eventOfRegister application name payload result) after := by
  intro owner other key found
  have sound := call.sound backed.sound
  have keyed := sound.keyed owner other key found
  refine ⟨keyed, sound.shared owner other key found, ?_⟩
  rw [call.get?_published] at found
  rw [call.lookup_eq, keyed]
  split at found
  next new =>
      rcases new with ⟨rfl, place⟩
      cases place
      refine ⟨payload, isLastBy_snoc _ _ _, ?_⟩
      rw [if_pos ⟨rfl, rfl⟩]
  next old =>
      rcases backed owner other key found with ⟨rfl, -, before, latest, bound⟩
      have away : ¬ (result = true ∧ bindingKey owner other = bindingKey application name) := by
        rintro ⟨granted, same⟩
        exact bindingKey_ne (fun place => old ⟨granted, place⟩) same
      rw [if_neg away]
      refine ⟨before, latest.append ?_, bound⟩
      intro event member same
      have place := place_of_eventOfRegister member
      cases result with
      | true => exact old ⟨rfl, same.symm.trans place⟩
      | false => cases member

theorem Unregisters.backed (call : Unregisters registrar application name result after)
    (backed : Backed history registrar) :
    Backed (history ++ eventOfUnregister registrar application name result) after := by
  intro owner other key found
  have sound := call.sound backed.sound
  have keyed := sound.keyed owner other key found
  refine ⟨keyed, sound.shared owner other key found, ?_⟩
  rw [call.get?_published] at found
  split at found
  next => cases found
  next elsewhere =>
      rcases backed owner other key found with ⟨rfl, -, before, latest, bound⟩
      rw [call.lookup_eq backed.sound.keyed, if_neg fun both => bindingKey_ne elsewhere both.2]
      refine ⟨before, latest.append ?_, bound⟩
      intro event member same
      exact elsewhere (same.symm.trans (place_of_eventOfUnregister member))

end ServerResources.Registrar
