import ServerResources.Proofs.Registrar.Names

/-!
# Registrars that agree with their name server

A registrar is aligned if exactly the keys of its published names are bound, in
the same order.  A registration keeps a registrar aligned even when it is refused;
a withdrawal does unless it is refused.  An aligned registrar in service never has
a reason to warn.
-/

namespace ServerResources.Registrar

variable {π : Type}

theorem bindingKey_inj {application other name second : String} :
    bindingKey application name = bindingKey other second ↔
      application = other ∧ name = second := by
  simp only [bindingKey, BindingKey.mk.injEq, Option.some.injEq, and_true]
  exact And.comm

/-- Different names, or the same name of different applications, have different keys. -/
theorem bindingKey_ne {application other name second : String}
    (different : ¬ (application, name) = (other, second)) :
    bindingKey application name ≠ bindingKey other second := by
  intro same
  rcases bindingKey_inj.mp same with ⟨rfl, rfl⟩
  exact different rfl

/-- Every published name is recorded with its own key. -/
def Keyed (registrar : Registrar (NameServer π)) : Prop :=
  ∀ application name key, registrar.published.get? (application, name) = some key →
    key = bindingKey application name

/-- The bound keys are those of the published names, in order of publication. -/
structure Aligned (registrar : Registrar (NameServer π)) : Prop where
  keyed : registrar.Keyed
  boundKeys_eq : registrar.boundKeys =
    registrar.published.keys.map fun place => bindingKey place.1 place.2

variable {registrar after : Registrar (NameServer π)} {application name : String}
  {payload : π} {result : Bool}

theorem aligned_start (settings : Settings) (outage : Outage) :
    (start settings (⟨.empty, outage⟩ : NameServer π)).Aligned where
  keyed := by
    intro application name key found
    simp [start] at found
  boundKeys_eq := rfl

theorem Aligned.mem_boundKeys_iff (aligned : registrar.Aligned) (application name : String) :
    bindingKey application name ∈ registrar.boundKeys ↔
      (application, name) ∈ registrar.published.keys := by
  rw [aligned.boundKeys_eq, List.mem_map]
  constructor
  · rintro ⟨place, present, equal⟩
    rcases bindingKey_inj.mp equal with ⟨sameOwner, sameName⟩
    rwa [← sameOwner, ← sameName]
  · intro present
    exact ⟨(application, name), present, rfl⟩

theorem Registers.keyed (call : Registers registrar application name payload result after)
    (keyed : registrar.Keyed) : after.Keyed := by
  cases call with
  | skipped => exact keyed
  | refused => exact keyed
  | published =>
      intro owner other key found
      simp only [recorded, OrderedMap.get?_insert, Prod.mk.injEq] at found
      split at found
      next same =>
        rcases same with ⟨rfl, rfl⟩
        exact (Option.some.inj found).symm
      next => exact keyed owner other key found

theorem Unregisters.keyed (call : Unregisters registrar application name result after)
    (keyed : registrar.Keyed) : after.Keyed := by
  have kept : (registrar.forgotten application name).Keyed := by
    intro owner other key found
    simp only [forgotten, OrderedMap.get?_erase] at found
    split at found
    next => simp at found
    next => exact keyed owner other key found
  cases call with
  | skipped => exact keyed
  | refused => exact kept
  | withdrawn => exact kept

theorem Registers.aligned (call : Registers registrar application name payload result after)
    (aligned : registrar.Aligned) : after.Aligned where
  keyed := call.keyed aligned.keyed
  boundKeys_eq := by
    cases call with
    | skipped => exact aligned.boundKeys_eq
    | refused => exact aligned.boundKeys_eq
    | published unpublished =>
        have fresh : (application, name) ∉ registrar.published.keys := by
          rw [← mem_names_iff]
          exact (isPublished_eq_false_iff registrar application name).mp unpublished
        have unbound : bindingKey application name ∉
            registrar.naming.directory.bindings.keys := by
          intro bound
          exact fresh ((aligned.mem_boundKeys_iff application name).mp bound)
        simp only [recorded, boundKeys, Directory.keys, OrderedMap.keys_insert, fresh, unbound,
          if_false, List.map_append, List.map_cons, List.map_nil, List.append_cancel_right_eq]
        exact aligned.boundKeys_eq

/-- The key of a published name is bound. -/
theorem Aligned.bound_of_published (aligned : registrar.Aligned) {key : BindingKey}
    (published : registrar.published.get? (application, name) = some key) :
    key = bindingKey application name ∧ key ∈ registrar.boundKeys := by
  have equal := aligned.keyed application name key published
  have tracked : (application, name) ∈ registrar.published.keys := by
    rw [← OrderedMap.contains_iff, OrderedMap.contains, published]
    rfl
  refine ⟨equal, ?_⟩
  rw [equal]
  exact (aligned.mem_boundKeys_iff application name).mpr tracked

/-- A withdrawal from an aligned registrar in service is not refused. -/
theorem Aligned.not_refused (aligned : registrar.Aligned)
    (inService : registrar.naming.outage.unbind name = false) {key : BindingKey}
    (published : registrar.published.get? (application, name) = some key) :
    ¬ (registrar.naming.outage.unbind key.name = true ∨ key ∉ registrar.boundKeys) := by
  rcases aligned.bound_of_published published with ⟨equal, bound⟩
  rintro (outage | absent)
  · rw [equal, bindingKey, inService] at outage
    exact Bool.false_ne_true outage
  · exact absent bound

theorem Unregisters.aligned (call : Unregisters registrar application name result after)
    (aligned : registrar.Aligned) (inService : registrar.naming.outage.unbind name = false) :
    after.Aligned where
  keyed := call.keyed aligned.keyed
  boundKeys_eq := by
    cases call with
    | skipped => exact aligned.boundKeys_eq
    | refused key cause published reason =>
        exact (aligned.not_refused inService published reason).elim
    | withdrawn key published =>
        rcases aligned.bound_of_published published with ⟨rfl, -⟩
        have bound := aligned.boundKeys_eq
        simp only [boundKeys, Directory.keys] at bound
        simp only [boundKeys, Directory.keys, unbound, forgotten, OrderedMap.keys_erase, bound,
          List.filter_map]
        congr 1
        apply List.filter_congr
        intro place _
        simp [bindingKey_inj, Prod.ext_iff]

theorem Unregisters.warnings_eq (call : Unregisters registrar application name result after)
    (aligned : registrar.Aligned) (inService : registrar.naming.outage.unbind name = false) :
    after.warnings = registrar.warnings := by
  cases call with
  | skipped => rfl
  | refused key cause published reason =>
      exact (aligned.not_refused inService published reason).elim
  | withdrawn => rfl

theorem Registers.warnings_eq (call : Registers registrar application name payload result after)
    (inService : registrar.naming.outage.bind name = false) :
    after.warnings = registrar.warnings := by
  cases call with
  | skipped => rfl
  | refused unpublished shared outage =>
      exact (Bool.false_ne_true (inService.symm.trans outage)).elim
  | published => rfl

end ServerResources.Registrar
