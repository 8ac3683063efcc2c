import ServerResources.Proofs.OrderedMap
import ServerResources.Proofs.Registrar.Pointwise

/-!
# The share of an application

Of what a registrar has published and what is bound, each application has a share: the
names that were published for it and the keys that carry its name, in their order.  A
call for an application changes no share but its own, and what it comes to depends on
no share but its own.

`Alike` relates registrars in which an application has published the same names.  What
is bound may be held differently in them, so the payloads are compared as they are read.
-/

namespace ServerResources.Registrar

variable {π : Type}

/-- The published names of an application, with their keys. -/
def publishedOf (registrar : Registrar (NameServer π)) (application : String) :
    OrderedMap (String × String) BindingKey :=
  registrar.published.filterKeys fun place => decide (place.1 = application)

/-- What is bound for an application. -/
def bindingsOf (registrar : Registrar (NameServer π)) (application : String) :
    OrderedMap BindingKey π :=
  registrar.naming.directory.bindings.filterKeys fun key =>
    decide (key.application = some application)

variable {registrar after : Registrar (NameServer π)} {application name other : String}
  {payload : π} {result : Bool}

/-! ## What a call does to the shares -/

theorem Registers.published_eq
    (call : Registers registrar application name payload result after) :
    after.published =
      if result then registrar.published.insert (application, name) (bindingKey application name)
      else registrar.published := by
  cases call <;> rfl

theorem Registers.bindings_eq
    (call : Registers registrar application name payload result after) :
    after.naming.directory.bindings =
      if result then
        registrar.naming.directory.bindings.insert (bindingKey application name) payload
      else registrar.naming.directory.bindings := by
  cases call <;> rfl

theorem Unregisters.published_eq (call : Unregisters registrar application name result after) :
    after.published = registrar.published.erase (application, name) := by
  cases call with
  | skipped unpublished => exact (OrderedMap.erase_of_get?_eq_none unpublished).symm
  | refused => rfl
  | withdrawn => rfl

theorem Unregisters.bindings_eq (call : Unregisters registrar application name result after)
    (keyed : registrar.Keyed) :
    after.naming.directory.bindings =
      if result then registrar.naming.directory.bindings.erase (bindingKey application name)
      else registrar.naming.directory.bindings := by
  cases call with
  | skipped => rfl
  | refused => rfl
  | withdrawn key published =>
      rw [keyed application name key published]
      rfl

theorem Registers.publishedOf_self
    (call : Registers registrar application name payload result after) :
    after.publishedOf application =
      if result then
        (registrar.publishedOf application).insert (application, name)
          (bindingKey application name)
      else registrar.publishedOf application := by
  rw [publishedOf, call.published_eq]
  split
  next => rw [OrderedMap.filterKeys_insert, if_pos (decide_eq_true rfl), publishedOf]
  next => rfl

theorem Registers.bindingsOf_self
    (call : Registers registrar application name payload result after) :
    after.bindingsOf application =
      if result then
        (registrar.bindingsOf application).insert (bindingKey application name) payload
      else registrar.bindingsOf application := by
  rw [bindingsOf, call.bindings_eq]
  split
  next =>
      have own : decide ((bindingKey application name).application = some application) = true :=
        decide_eq_true rfl
      rw [OrderedMap.filterKeys_insert, if_pos own, bindingsOf]
  next => rfl

theorem Unregisters.publishedOf_eq (call : Unregisters registrar application name result after)
    (other : String) :
    after.publishedOf other = (registrar.publishedOf other).erase (application, name) := by
  rw [publishedOf, call.published_eq, OrderedMap.filterKeys_erase, publishedOf]

theorem Unregisters.bindingsOf_eq (call : Unregisters registrar application name result after)
    (keyed : registrar.Keyed) (other : String) :
    after.bindingsOf other =
      if result then (registrar.bindingsOf other).erase (bindingKey application name)
      else registrar.bindingsOf other := by
  rw [bindingsOf, call.bindings_eq keyed]
  split
  next => rw [OrderedMap.filterKeys_erase, bindingsOf]
  next => rfl

theorem Registers.intact (call : Registers registrar application name payload result after)
    (intact : registrar.Intact) : after.Intact where
  keyed := call.keyed intact.keyed
  bound := by
    intro owner other key found
    rw [call.lookup_eq]
    rw [call.get?_published] at found
    split
    next => rfl
    next elsewhere =>
      split at found
      next new =>
        cases found
        exact (elsewhere ⟨new.1, rfl⟩).elim
      next => exact intact.bound owner other key found

/-! ## Two registrars -/

/-- Runs that issue no warnings issue the same. -/
theorem issued_nothing (mine yours : List Warning) :
    ∃ issued, mine = mine ++ issued ∧ yours = yours ++ issued :=
  ⟨[], (List.append_nil mine).symm, (List.append_nil yours).symm⟩

/-- Runs that issue the same warnings step by step issue the same in the end. -/
theorem issued_trans {mine mineNext mineLast yours yoursNext yoursLast : List Warning}
    (first : ∃ issued, mineNext = mine ++ issued ∧ yoursNext = yours ++ issued)
    (second : ∃ issued, mineLast = mineNext ++ issued ∧ yoursLast = yoursNext ++ issued) :
    ∃ issued, mineLast = mine ++ issued ∧ yoursLast = yours ++ issued := by
  obtain ⟨issued, rfl, rfl⟩ := first
  obtain ⟨further, rfl, rfl⟩ := second
  exact ⟨issued ++ further, List.append_assoc .., List.append_assoc ..⟩

/-- Registrars with the same rules and outages in which an application has published the
same names. -/
structure Alike (application : String) (left right : Registrar (NameServer π)) : Prop where
  settings_eq : left.settings = right.settings
  outage_eq : left.naming.outage = right.naming.outage
  publishedOf_eq : left.publishedOf application = right.publishedOf application

namespace Alike

variable {left middle right : Registrar (NameServer π)}

theorem refl (application : String) (registrar : Registrar (NameServer π)) :
    Alike application registrar registrar :=
  ⟨rfl, rfl, rfl⟩

theorem symm (alike : Alike application left right) : Alike application right left :=
  ⟨alike.settings_eq.symm, alike.outage_eq.symm, alike.publishedOf_eq.symm⟩

theorem trans (alike : Alike application left middle) (next : Alike application middle right) :
    Alike application left right :=
  ⟨alike.settings_eq.trans next.settings_eq, alike.outage_eq.trans next.outage_eq,
    alike.publishedOf_eq.trans next.publishedOf_eq⟩

theorem isPublished_eq (alike : Alike application left right) (name : String) :
    left.isPublished application name = right.isPublished application name := by
  have share := congrArg (fun names => names.get? (application, name)) alike.publishedOf_eq
  simp only [publishedOf, OrderedMap.get?_filterKeys, decide_true, if_true] at share
  rw [isPublished, isPublished, OrderedMap.contains, OrderedMap.contains, share]

theorem accepts_eq (alike : Alike application left right) : left.accepts = right.accepts := by
  funext name
  rw [accepts, accepts, alike.settings_eq, alike.outage_eq]

theorem claim_eq (alike : Alike application left right) (session : MailSession) :
    left.claim application session = right.claim application session := by
  have claims : left.claims application session.name = right.claims application session.name := by
    rw [Registrar.claims, Registrar.claims, alike.isPublished_eq, alike.settings_eq]
  rw [claim, claim, claims]

/-- The names that an application has published are its share without the keys. -/
theorem names_eq (alike : Alike application left right) :
    left.names (some application) = right.names (some application) := by
  have share : ∀ registrar : Registrar (NameServer π),
      registrar.names (some application) =
        (registrar.publishedOf application).keys.map Prod.snd := by
    intro registrar
    rw [names, publishedOf, OrderedMap.keys_filterKeys]
    congr 1
    apply List.filter_congr
    intro place _
    simp [eq_comm]
  rw [share, share, alike.publishedOf_eq]

/-- A call for another application leaves an application its share. -/
theorem register_of_ne (different : other ≠ application) (registrar : Registrar (NameServer π))
    (name : String) (payload : π) :
    Alike other (registrar.register application name payload).2 registrar ∧
      (registrar.register application name payload).2.bindingsOf other =
        registrar.bindingsOf other := by
  have call := registrar.register_registers application name payload
  refine ⟨⟨call.settings_eq, call.outage_eq, ?_⟩, ?_⟩
  · rw [publishedOf, call.published_eq]
    split
    next =>
      rw [OrderedMap.filterKeys_insert, if_neg (by simpa using different.symm), publishedOf]
    next => rfl
  · rw [bindingsOf, call.bindings_eq]
    split
    next =>
      rw [OrderedMap.filterKeys_insert,
        if_neg (by simpa [bindingKey] using different.symm), bindingsOf]
    next => rfl

theorem unregister_of_ne (different : other ≠ application) (keyed : registrar.Keyed)
    (name : String) :
    Alike other (registrar.unregister application name).2 registrar ∧
      (registrar.unregister application name).2.bindingsOf other =
        registrar.bindingsOf other := by
  have call := registrar.unregister_unregisters application name
  refine ⟨⟨call.settings_eq, call.outage_eq, ?_⟩, ?_⟩
  · rw [call.publishedOf_eq, publishedOf]
    exact OrderedMap.erase_filterKeys_of_not _ (by simpa using different.symm)
  · rw [call.bindingsOf_eq keyed, bindingsOf]
    split
    next =>
      exact OrderedMap.erase_filterKeys_of_not _ (by simpa [bindingKey] using different.symm)
    next => rfl

/-- A registration comes to the same in both registrars. -/
theorem register (alike : Alike application left right) (name : String) (mine yours : π) :
    (left.register application name mine).1 = (right.register application name yours).1 ∧
    Alike application (left.register application name mine).2
      (right.register application name yours).2 ∧
    ∃ issued,
      (left.register application name mine).2.warnings = left.warnings ++ issued ∧
      (right.register application name yours).2.warnings = right.warnings ++ issued := by
  have leftCall := left.register_registers application name mine
  have rightCall := right.register_registers application name yours
  have results : (left.register application name mine).1 =
      (right.register application name yours).1 := by
    rw [leftCall.result_eq, rightCall.result_eq, alike.isPublished_eq, alike.accepts_eq]
  refine ⟨results, ⟨?settings, ?outage, ?published⟩, ?warnings⟩
  case settings => rw [leftCall.settings_eq, rightCall.settings_eq, alike.settings_eq]
  case outage => rw [leftCall.outage_eq, rightCall.outage_eq, alike.outage_eq]
  case published =>
    rw [leftCall.publishedOf_self, rightCall.publishedOf_self, results, alike.publishedOf_eq]
  case warnings =>
    refine ⟨_, leftCall.warnings_append, ?_⟩
    rw [rightCall.warnings_append, alike.isPublished_eq, alike.settings_eq, alike.outage_eq]

/-- What is bound reads the same after a registration if the new payloads do. -/
theorem bindings_register {γ : Type} (alike : Alike application left right)
    (readLeft readRight : π → γ)
    (same : (left.bindingsOf application).map readLeft =
      (right.bindingsOf application).map readRight)
    (name : String) {mine yours : π} (reads : readLeft mine = readRight yours) :
    ((left.register application name mine).2.bindingsOf application).map readLeft =
      ((right.register application name yours).2.bindingsOf application).map readRight := by
  have results := (alike.register name mine yours).1
  rw [(left.register_registers application name mine).bindingsOf_self,
    (right.register_registers application name yours).bindingsOf_self, results]
  split
  next => rw [OrderedMap.map_insert, OrderedMap.map_insert, same, reads]
  next => exact same

/-- A withdrawal comes to the same in both registrars. -/
theorem unregister (alike : Alike application left right) (leftIntact : left.Intact)
    (rightIntact : right.Intact) (name : String) :
    (left.unregister application name).1 = (right.unregister application name).1 ∧
    Alike application (left.unregister application name).2
      (right.unregister application name).2 ∧
    ∃ issued,
      (left.unregister application name).2.warnings = left.warnings ++ issued ∧
      (right.unregister application name).2.warnings = right.warnings ++ issued := by
  have leftCall := left.unregister_unregisters application name
  have rightCall := right.unregister_unregisters application name
  refine ⟨?results, ⟨?settings, ?outage, ?published⟩, ?warnings⟩
  case results =>
    rw [leftCall.result_eq leftIntact, rightCall.result_eq rightIntact, alike.isPublished_eq,
      alike.outage_eq]
  case settings => rw [leftCall.settings_eq, rightCall.settings_eq, alike.settings_eq]
  case outage => rw [leftCall.outage_eq, rightCall.outage_eq, alike.outage_eq]
  case published =>
    rw [leftCall.publishedOf_eq, rightCall.publishedOf_eq, alike.publishedOf_eq]
  case warnings =>
    refine ⟨_, warnings_unregister leftIntact application name, ?_⟩
    rw [warnings_unregister rightIntact, alike.isPublished_eq, alike.outage_eq]

theorem bindings_unregister {γ : Type} (alike : Alike application left right)
    (leftIntact : left.Intact) (rightIntact : right.Intact) (readLeft readRight : π → γ)
    (same : (left.bindingsOf application).map readLeft =
      (right.bindingsOf application).map readRight)
    (name : String) :
    ((left.unregister application name).2.bindingsOf application).map readLeft =
      ((right.unregister application name).2.bindingsOf application).map readRight := by
  have results := (alike.unregister leftIntact rightIntact name).1
  rw [(left.unregister_unregisters application name).bindingsOf_eq leftIntact.keyed,
    (right.unregister_unregisters application name).bindingsOf_eq rightIntact.keyed, results]
  split
  next => rw [OrderedMap.map_erase, OrderedMap.map_erase, same]
  next => exact same

end Alike

end ServerResources.Registrar
