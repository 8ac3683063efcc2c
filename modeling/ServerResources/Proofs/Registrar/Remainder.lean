import ServerResources.Proofs.Registrar.Share

/-!
# What is left without some names

A call for one of some names of an application leaves everything else as it was: what is
published but for these names, and what is bound but for their keys, with the order of
both.  A withdrawal moreover removes its name, and in service it leaves no key of a
published name behind, whether the key was bound or not.
-/

namespace ServerResources.Registrar

variable {π : Type}

/-- What is published but for some names of an application. -/
def publishedBut (registrar : Registrar (NameServer π)) (application : String)
    (names : List String) : OrderedMap (String × String) BindingKey :=
  registrar.published.without (names.map (Prod.mk application))

/-- What is bound but for the keys of some names of an application. -/
def bindingsBut (registrar : Registrar (NameServer π)) (application : String)
    (names : List String) : OrderedMap BindingKey π :=
  registrar.naming.directory.bindings.without (names.map (bindingKey application))

variable {registrar after : Registrar (NameServer π)} {application name : String}
  {names others : List String} {payload : π} {result : Bool}

/-- Only the published ones of some names matter. -/
theorem publishedBut_congr
    (same : ∀ name, registrar.isPublished application name = true →
      (name ∈ names ↔ name ∈ others)) :
    registrar.publishedBut application names = registrar.publishedBut application others := by
  apply OrderedMap.without_congr
  rintro ⟨owner, name⟩ present
  by_cases own : owner = application
  · subst own
    have published := (registrar.published.contains_iff (owner, name)).mpr present
    simp [same name published]
  · have away : application ≠ owner := fun equal => own equal.symm
    simp [away]

theorem bindingsBut_congr (same : ∀ name, name ∈ names ↔ name ∈ others) :
    registrar.bindingsBut application names = registrar.bindingsBut application others := by
  apply OrderedMap.without_congr
  intro key _
  simp only [List.mem_map, same]

/-! ## Registrations -/

/-- Nothing but the name and its key is seen of a registration. -/
theorem Registers.remainder_eq
    (call : Registers registrar application name payload result after)
    (covered : registrar.settings.isShared name = true → name ∈ names) :
    after.publishedBut application names = registrar.publishedBut application names ∧
      after.bindingsBut application names = registrar.bindingsBut application names := by
  rw [publishedBut, call.published_eq, bindingsBut, call.bindings_eq]
  split
  next granted =>
      have listed := covered (call.shared granted)
      constructor
      · exact OrderedMap.without_insert _ (List.mem_map_of_mem listed) _
      · exact OrderedMap.without_insert _ (List.mem_map_of_mem listed) _
  next => exact ⟨rfl, rfl⟩

/-- What a registration publishes it binds, and it unbinds nothing. -/
theorem Registers.mem_boundKeys
    (call : Registers registrar application name payload result after) {other : String}
    (bound : registrar.isPublished application other = true →
      bindingKey application other ∈ registrar.boundKeys)
    (published : after.isPublished application other = true) :
    bindingKey application other ∈ after.boundKeys := by
  rw [mem_boundKeys_iff, call.lookup_eq]
  split
  next => rfl
  next elsewhere =>
      rw [isPublished, OrderedMap.contains, call.get?_published, if_neg] at published
      · exact (registrar.mem_boundKeys_iff _).mp (bound published)
      · rintro ⟨granted, here⟩
        cases here
        exact elsewhere ⟨granted, rfl⟩

/-! ## Withdrawals -/

theorem Unregisters.publishedBut_eq
    (call : Unregisters registrar application name result after) (names : List String) :
    after.publishedBut application names = registrar.publishedBut application (name :: names) := by
  rw [publishedBut, call.published_eq, OrderedMap.without_erase]
  rfl

/-- In service a withdrawal leaves no binding of its key, even if it was refused because
there was none. -/
theorem Unregisters.bindings_of_inService
    (call : Unregisters registrar application name result after) (keyed : registrar.Keyed)
    (inService : registrar.naming.outage.unbind name = false) :
    after.naming.directory.bindings =
      if registrar.isPublished application name = true then
        registrar.naming.directory.bindings.erase (bindingKey application name)
      else registrar.naming.directory.bindings := by
  cases call with
  | skipped unpublished =>
      rw [if_neg]
      simp [isPublished, OrderedMap.contains, unpublished]
  | refused key cause published reason =>
      have own := keyed application name key published
      subst own
      rw [if_pos (isPublished_of_get? published)]
      rcases reason with outage | absent
      · exact (Bool.false_ne_true (inService.symm.trans outage)).elim
      · have unbound := (OrderedMap.get?_eq_none_iff _ _).mpr absent
        exact (OrderedMap.erase_of_get?_eq_none unbound).symm
  | withdrawn key published =>
      have own := keyed application name key published
      rw [own, if_pos (isPublished_of_get? published)]
      rfl

/-- Only the keys of published names are unbound, and each of them is. -/
theorem Unregisters.bindingsBut_eq
    (call : Unregisters registrar application name result after) (keyed : registrar.Keyed)
    (inService : registrar.naming.outage.unbind name = false) (names : List String) :
    after.bindingsBut application (names.filter (after.isPublished application)) =
      registrar.bindingsBut application
        ((name :: names).filter (registrar.isPublished application)) := by
  rw [bindingsBut, call.bindings_of_inService keyed inService]
  split
  next published =>
      rw [OrderedMap.without_erase, List.filter_cons_of_pos published, ← List.map_cons]
      apply bindingsBut_congr
      intro other
      -- The name itself is listed anyway, so it does not matter that it is unpublished now.
      by_cases here : other = name
      · simp [here]
      · simp [here, call.isPublished_eq]
  next unpublished =>
      rw [List.filter_cons_of_neg unpublished]
      apply bindingsBut_congr
      intro other
      rw [List.mem_filter, List.mem_filter, call.isPublished_eq]
      by_cases here : other = name
      · simp [here, unpublished]
      · simp [here]

end ServerResources.Registrar
