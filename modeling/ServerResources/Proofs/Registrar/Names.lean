import ServerResources.Proofs.Registrar.Outcome

/-!
# The published names of an application

`names` lists what is published for an application in order of publication.  A
registration adds its name at the end of the list of its own application, a
withdrawal takes its name out of that list, and neither touches the list of any
other application, whatever the naming service answers.
-/

namespace ServerResources.Registrar

variable {π : Type}

section Views

variable (registrar : Registrar (NameServer π)) (application other name : String)

theorem names_eq :
    registrar.names (some application) =
      (registrar.published.keys.filter fun key => decide (key.1 = application)).map
        Prod.snd := by
  unfold names
  congr 1
  apply List.filter_congr
  intro key _
  simp [eq_comm]

theorem mem_names_iff :
    name ∈ registrar.names (some application) ↔
      (application, name) ∈ registrar.published.keys := by
  rw [names_eq]
  constructor
  · intro member
    simp only [List.mem_map, List.mem_filter, decide_eq_true_eq] at member
    rcases member with ⟨key, ⟨present, rfl⟩, rfl⟩
    exact present
  · intro present
    exact List.mem_map_of_mem (List.mem_filter.mpr ⟨present, by simp⟩)

theorem isPublished_iff :
    registrar.isPublished application name = true ↔
      name ∈ registrar.names (some application) := by
  rw [mem_names_iff]
  exact registrar.published.contains_iff (application, name)

theorem isPublished_eq_false_iff :
    registrar.isPublished application name = false ↔
      name ∉ registrar.names (some application) := by
  rw [← isPublished_iff, Bool.not_eq_true]

theorem names_recorded (payload : π)
    (unpublished : registrar.isPublished application name = false) :
    (registrar.recorded application name payload).names (some other) =
      if other = application then registrar.names (some other) ++ [name]
      else registrar.names (some other) := by
  have fresh : (application, name) ∉ registrar.published.keys := by
    rw [← mem_names_iff]
    exact (isPublished_eq_false_iff registrar application name).mp unpublished
  have keys : (registrar.recorded application name payload).published.keys =
      registrar.published.keys ++ [(application, name)] := by
    simp only [recorded, OrderedMap.keys_insert, fresh, if_false]
  simp only [names_eq, keys, List.filter_append, List.map_append]
  by_cases same : other = application
  · subst same
    simp
  · have away : ¬ application = other := fun equal => same equal.symm
    simp [same, away]

theorem names_forgotten :
    (registrar.forgotten application name).names (some other) =
      if other = application then
        (registrar.names (some other)).filter fun kept => decide (kept ≠ name)
      else registrar.names (some other) := by
  have keys : (registrar.forgotten application name).published.keys =
      registrar.published.keys.filter fun key => decide (key ≠ (application, name)) :=
    registrar.published.keys_erase (application, name)
  simp only [names_eq, keys, List.filter_filter]
  by_cases same : other = application
  · subst same
    simp only [if_true, List.filter_map, List.filter_filter]
    congr 1
    apply List.filter_congr
    intro key _
    by_cases owner : key.1 = other
    · simp [Prod.ext_iff, owner]
    · simp [owner]
  · simp only [same, if_false]
    congr 1
    apply List.filter_congr
    intro key _
    by_cases owner : key.1 = other
    · have away : key ≠ (application, name) := by
        intro equal
        exact same (owner.symm.trans (congrArg Prod.fst equal))
      simp [owner, away]
    · simp [owner]

end Views

/-- Whether a registration publishes a name that is not published yet. -/
def accepts (registrar : Registrar (NameServer π)) (name : String) : Bool :=
  registrar.settings.isShared name && !registrar.naming.outage.bind name

section Calls

variable {registrar after : Registrar (NameServer π)} {application name : String}
  {payload : π} {result : Bool}

/-- A call publishes exactly the acceptable names that are not published. -/
theorem Registers.result_eq (call : Registers registrar application name payload result after) :
    result = (!registrar.isPublished application name && registrar.accepts name) := by
  cases call with
  | skipped idle =>
      rcases idle with published | hidden
      · simp [published]
      · simp [accepts, hidden]
  | refused unpublished shared outage => simp [accepts, outage]
  | published unpublished shared inService => simp [accepts, unpublished, shared, inService]

/-- A registration publishes its name only if the name is shared. -/
theorem Registers.shared (call : Registers registrar application name payload result after)
    (granted : result = true) : registrar.settings.isShared name = true := by
  rw [call.result_eq, accepts, Bool.and_eq_true, Bool.and_eq_true] at granted
  exact granted.2.1

theorem Registers.accepts_eq (call : Registers registrar application name payload result after) :
    after.accepts = registrar.accepts := by
  cases call <;> rfl

theorem Registers.settings_eq (call : Registers registrar application name payload result after) :
    after.settings = registrar.settings := by
  cases call <;> rfl

theorem Registers.outage_eq (call : Registers registrar application name payload result after) :
    after.naming.outage = registrar.naming.outage := by
  cases call <;> rfl

theorem Registers.names_eq (call : Registers registrar application name payload result after)
    (other : String) :
    after.names (some other) =
      if other = application ∧ result = true then registrar.names (some other) ++ [name]
      else registrar.names (some other) := by
  cases call with
  | skipped => simp
  | refused =>
      rw [if_neg fun both => Bool.false_ne_true both.2]
      rfl
  | published unpublished =>
      rw [names_recorded registrar application other name payload unpublished]
      simp

theorem Unregisters.settings_eq (call : Unregisters registrar application name result after) :
    after.settings = registrar.settings := by
  cases call <;> rfl

theorem Unregisters.outage_eq (call : Unregisters registrar application name result after) :
    after.naming.outage = registrar.naming.outage := by
  cases call <;> rfl

theorem Unregisters.names_eq (call : Unregisters registrar application name result after)
    (other : String) :
    after.names (some other) =
      if other = application then
        (registrar.names (some other)).filter fun kept => decide (kept ≠ name)
      else registrar.names (some other) := by
  cases call with
  | skipped unpublished =>
      by_cases same : other = application
      · subst same
        have absent : name ∉ registrar.names (some other) := by
          rw [mem_names_iff]
          exact (registrar.published.get?_eq_none_iff (other, name)).mp unpublished
        rw [if_pos rfl, eq_comm, List.filter_eq_self]
        intro kept member
        exact decide_eq_true fun equal => absent (equal ▸ member)
      · rw [if_neg same]
  | refused => exact registrar.names_forgotten application other name
  | withdrawn => exact registrar.names_forgotten application other name

end Calls

end ServerResources.Registrar
