import ServerResources.Proofs.Deployment.Adoption
import ServerResources.Proofs.Deployment.History

/-!
# Batches during an outage

An outage concerns some names.  A batch that meets it always goes through to its end,
and it differs from the batch that the same deployment performs in service in the
concerned names only: they are missing in the list that is returned, each of them
leaves a warning, and what is bound under them stays as it was.  All other names are
published, bound and withdrawn as if there were no outage.

The two directions treat the entries of concerned names differently.  A registration
leaves them as they were, a withdrawal forgets them.
-/

namespace ServerResources

/-- Tests on the items of a list and on the list without repetitions are the same. -/
theorem filter_eraseDups {α : Type} [BEq α] [LawfulBEq α] (test : α → Bool) :
    (items : List α) → (items.filter test).eraseDups = items.eraseDups.filter test
  | [] => rfl
  | item :: rest => by
      have others := filter_eraseDups test (rest.filter fun other => !other == item)
      rw [List.eraseDups_cons]
      by_cases passes : test item = true
      · rw [List.filter_cons_of_pos passes, List.filter_cons_of_pos passes,
          List.eraseDups_cons, ← others, List.filter_filter, List.filter_filter]
        simp only [Bool.and_comm]
      · rw [List.filter_cons_of_neg passes, List.filter_cons_of_neg passes, ← others,
          List.filter_filter]
        congr 1
        apply List.filter_congr
        intro other _
        by_cases same : other = item
        · rw [Bool.not_eq_true] at passes
          simp [same, passes]
        · simp [same]
  termination_by items => items.length
  decreasing_by
    exact Nat.lt_succ_of_le (List.length_filter_le _ _)

namespace Deployment

open Registrar

/-- The deployment in the given outage. -/
def during (deployment : Deployment (NameServer Payload)) (outage : Outage) :
    Deployment (NameServer Payload) :=
  deployment.withNaming { deployment.registrar.naming with outage := outage }

variable (deployment : Deployment (NameServer Payload)) (application : String)

/-! ## Registrations -/

/-- What is published and bound under a name that an outage concerns stays so. -/
theorem registerEach_of_outage (ids : List DefinitionId) {name : String}
    (outage : deployment.registrar.naming.outage.bind name = true) :
    (∀ owner, (registerEach application ids deployment).2.registrar.published.get?
        (owner, name) = deployment.registrar.published.get? (owner, name)) ∧
      ∀ key, key.name = name →
        (registerEach application ids deployment).2.registrar.lookup key =
          deployment.registrar.lookup key := by
  induction ids generalizing deployment with
  | nil => exact ⟨fun _ => rfl, fun _ _ => rfl⟩
  | cons id rest ih =>
      have call := register_registers deployment application id
        (.mailResource (deployment.resourceOf id))
      rcases ih _ (call.outage_eq ▸ outage) with ⟨entries, bindings⟩
      constructor
      · intro owner
        exact (entries owner).trans (call.get?_published_of_outage outage owner)
      · intro key about
        exact (bindings key about).trans (call.lookup_of_outage (about ▸ outage))

/-- Whether an outage keeps the registration of a definition from publishing its name. -/
def hinders (id : DefinitionId) : Bool :=
  !deployment.registrar.isPublished application (deployment.nameOf id) &&
    deployment.registrar.settings.isShared (deployment.nameOf id) &&
      deployment.registrar.naming.outage.bind (deployment.nameOf id)

theorem hinders_register (id other : DefinitionId) (payload : Payload) :
    (deployment.register application id payload).2.hinders application other =
      deployment.hinders application other := by
  have call := register_registers deployment application id payload
  simp only [hinders, nameOf_register, call.settings_eq, call.outage_eq]
  cases outage : deployment.registrar.naming.outage.bind (deployment.nameOf other) with
  | false => simp
  | true =>
      have kept := call.get?_published_of_outage outage application
      simp only [isPublished, OrderedMap.contains, kept]

/-- One warning for each visited definition whose name is hindered. -/
theorem warnings_registerEach (ids : List DefinitionId) :
    (registerEach application ids deployment).2.registrar.warnings =
      deployment.registrar.warnings ++
        (ids.filter (deployment.hinders application)).map fun id =>
          .notPublished (deployment.nameOf id) application
            (.cannotBind (deployment.nameOf id)) := by
  induction ids generalizing deployment with
  | nil => exact (List.append_nil _).symm
  | cons id rest ih =>
      have call := register_registers deployment application id
        (.mailResource (deployment.resourceOf id))
      have step := ih (deployment.register application id
        (.mailResource (deployment.resourceOf id))).2
      have same : (deployment.register application id
          (.mailResource (deployment.resourceOf id))).2.hinders application =
            deployment.hinders application :=
        funext fun other => hinders_register deployment application id other _
      simp only [nameOf_register, same] at step
      refine step.trans ?_
      rw [call.warnings_append, List.append_assoc]
      congr 1
      by_cases hindered : deployment.hinders application id = true
      · rw [List.filter_cons_of_pos hindered, List.map_cons, if_pos]
        · rfl
        · simpa [hinders, and_assoc] using hindered
      · rw [List.filter_cons_of_neg hindered, if_neg]
        · rfl
        · simpa [hinders, and_assoc] using hindered

/-- Two deployments that do not differ in anything that concerns the names that pass a
test. -/
structure AgreeOn (test : String → Bool) (left right : Deployment (NameServer Payload)) :
    Prop where
  settings_eq : left.settings = right.settings
  registrarSettings_eq : left.registrar.settings = right.registrar.settings
  outage_eq : ∀ name, test name = true →
    left.registrar.naming.outage.bind name = right.registrar.naming.outage.bind name
  length_eq : left.definitions.sessions.length = right.definitions.sessions.length
  nameOf_eq : ∀ id, left.nameOf id = right.nameOf id
  get_eq : ∀ id, test (left.nameOf id) = true →
    left.definitions.get id = right.definitions.get id
  published_eq : ∀ owner name, test name = true →
    left.registrar.published.get? (owner, name) = right.registrar.published.get? (owner, name)
  lookup_eq : ∀ key, test key.name = true → left.registrar.lookup key = right.registrar.lookup key

section Agreement

variable {test : String → Bool} {left right : Deployment (NameServer Payload)}

theorem AgreeOn.isPublished_eq (agree : AgreeOn test left right) (owner : String) {name : String}
    (passes : test name = true) :
    left.registrar.isPublished owner name = right.registrar.isPublished owner name := by
  rw [isPublished, isPublished, OrderedMap.contains, OrderedMap.contains,
    agree.published_eq owner name passes]

theorem AgreeOn.resourceOf_eq (agree : AgreeOn test left right) {id : DefinitionId}
    (passes : test (left.nameOf id) = true) : left.resourceOf id = right.resourceOf id := by
  simp only [resourceOf, agree.settings_eq, agree.get_eq id passes]

theorem AgreeOn.claim_eq (agree : AgreeOn test left right) (application : String)
    {session : MailSession} (passes : test session.name = true) :
    left.registrar.claim application session = right.registrar.claim application session := by
  have same : left.registrar.claims application session.name =
      right.registrar.claims application session.name := by
    rw [claims, claims, agree.registrarSettings_eq, agree.isPublished_eq application passes]
  rw [Registrar.claim, Registrar.claim, same]

/-- A registration keeps the agreement: on a name that passes the test it does the same
in both deployments, and on any other name it does nothing that the test sees. -/
theorem AgreeOn.register (agree : AgreeOn test left right) (application : String)
    (id : DefinitionId) :
    AgreeOn test
      (left.register application id (.mailResource (left.resourceOf id))).2
      (right.register application id (.mailResource (right.resourceOf id))).2 := by
  have leftCall := register_registers left application id (.mailResource (left.resourceOf id))
  have rightCall := register_registers right application id
    (.mailResource (right.resourceOf id))
  have result : test (left.nameOf id) = true →
      (left.register application id (.mailResource (left.resourceOf id))).1 =
        (right.register application id (.mailResource (right.resourceOf id))).1 := by
    intro passes
    rw [leftCall.result_eq, rightCall.result_eq, ← agree.nameOf_eq, accepts, accepts,
      agree.isPublished_eq application passes, agree.registrarSettings_eq,
      agree.outage_eq _ passes]
  constructor
  · exact agree.settings_eq
  · rw [leftCall.settings_eq, rightCall.settings_eq, agree.registrarSettings_eq]
  · intro name passes
    rw [leftCall.outage_eq, rightCall.outage_eq, agree.outage_eq name passes]
  · rw [length_register, length_register, agree.length_eq]
  · intro other
    rw [nameOf_register, nameOf_register, agree.nameOf_eq]
  · intro other passes
    rw [nameOf_register] at passes
    have same := agree.get_eq other passes
    simp only [Deployment.register, Definitions.get_set, agree.length_eq, same]
    split
    next here =>
      rcases here with ⟨rfl, -⟩
      rw [same, agree.claim_eq application (same ▸ passes)]
    next => rfl
  · intro owner name passes
    rw [leftCall.get?_published, rightCall.get?_published, agree.published_eq owner name passes,
      ← agree.nameOf_eq]
    by_cases here : (owner, name) = (application, left.nameOf id)
    · cases here
      rw [result passes]
    · rw [if_neg fun both => here both.2, if_neg fun both => here both.2]
  · intro key passes
    rw [leftCall.lookup_eq, rightCall.lookup_eq, agree.lookup_eq key passes, ← agree.nameOf_eq]
    by_cases here : key = bindingKey application (left.nameOf id)
    · subst here
      rw [result passes, agree.resourceOf_eq passes]
    · rw [if_neg fun both => here both.2, if_neg fun both => here both.2]

theorem AgreeOn.registerEach (agree : AgreeOn test left right) (application : String)
    (ids : List DefinitionId) :
    AgreeOn test (Deployment.registerEach application ids left).2
      (Deployment.registerEach application ids right).2 := by
  induction ids generalizing left right with
  | nil => exact agree
  | cons id rest ih => exact ih (agree.register application id)

end Agreement

/-! ## Withdrawals -/

/-- The published names among the given ones that pass a test, each in the place of its
first visit. -/
def publishedAmong (test : String → Bool) (names : List String) : List String :=
  (names.filter fun name =>
    deployment.registrar.isPublished application name && test name).eraseDups

theorem isPublished_unregister (id : DefinitionId) (name : String) :
    (deployment.unregister application id).2.registrar.isPublished application name =
      (deployment.registrar.isPublished application name &&
        !(name == deployment.nameOf id)) :=
  (unregister_unregisters deployment application id).isPublished_eq name

/-- A withdrawal takes its own name out of those that later withdrawals find. -/
theorem publishedAmong_cons (test : String → Bool) (id : DefinitionId) (names : List String) :
    deployment.publishedAmong application test (deployment.nameOf id :: names) =
      (if deployment.registrar.isPublished application (deployment.nameOf id) = true ∧
          test (deployment.nameOf id) = true then [deployment.nameOf id] else []) ++
        (deployment.unregister application id).2.publishedAmong application test names := by
  simp only [publishedAmong, isPublished_unregister]
  by_cases found : deployment.registrar.isPublished application (deployment.nameOf id) = true ∧
      test (deployment.nameOf id) = true
  · rw [if_pos found, List.filter_cons_of_pos (by simp [found]), List.eraseDups_cons,
      List.filter_filter]
    congr 2
    apply List.filter_congr
    intro name _
    rw [Bool.and_comm, Bool.and_right_comm]
  · rw [if_neg found, List.filter_cons_of_neg (by simpa using found), List.nil_append]
    congr 1
    apply List.filter_congr
    intro name _
    by_cases same : name = deployment.nameOf id
    · rw [← Bool.and_eq_true, Bool.not_eq_true] at found
      simp [same, found]
    · have away : (name == deployment.nameOf id) = false := beq_eq_false_iff_ne.mpr same
      simp [away]

variable {deployment} in
/-- Only what is published matters for the tests. -/
theorem publishedAmong_congr {test other : String → Bool} (names : List String)
    (same : ∀ name, deployment.registrar.isPublished application name = true →
      test name = other name) :
    deployment.publishedAmong application test names =
      deployment.publishedAmong application other names := by
  rw [publishedAmong, publishedAmong]
  congr 1
  apply List.filter_congr
  intro name _
  cases published : deployment.registrar.isPublished application name with
  | false => rfl
  | true => rw [same name published]

variable {deployment} in
/-- The withdrawn names are the published ones that are bound and that no outage concerns. -/
theorem unregisterEach_fst_of_keyed (keyed : deployment.registrar.Keyed)
    (ids : List DefinitionId) :
    (unregisterEach application ids deployment).1 =
      deployment.publishedAmong application
        (fun name => !deployment.registrar.naming.outage.unbind name &&
          decide (bindingKey application name ∈ deployment.registrar.boundKeys))
        (ids.map deployment.nameOf) := by
  induction ids generalizing deployment with
  | nil => rfl
  | cons id rest ih =>
      have call := unregister_unregisters deployment application id
      have step := ih (call.keyed keyed)
      -- What is still published has another key, so for it the directory is as it was.
      have seen : ∀ name,
          (deployment.unregister application id).2.registrar.isPublished application name = true →
          (bindingKey application name ∈
              (deployment.unregister application id).2.registrar.boundKeys ↔
            bindingKey application name ∈ deployment.registrar.boundKeys) := by
        intro name published
        rw [isPublished_unregister, Bool.and_eq_true, Bool.not_eq_true',
          beq_eq_false_iff_ne] at published
        rw [mem_boundKeys_iff, mem_boundKeys_iff, call.lookup_eq keyed, if_neg]
        rintro ⟨-, same⟩
        exact published.2 (bindingKey_inj.mp same).2
      rw [call.outage_eq, publishedAmong_congr application (rest.map _)
        fun name published => by rw [decide_eq_decide.mpr (seen name published)]] at step
      rw [List.map_cons, publishedAmong_cons]
      simp only [unregisterEach, call.result_eq_of_keyed keyed, Bool.and_eq_true]
      rw [step]
      split <;> rfl

section Intact

variable {deployment} (intact : deployment.registrar.Intact)

include intact

/-- The withdrawn names are the published ones that no outage concerns. -/
theorem unregisterEach_fst (ids : List DefinitionId) :
    (unregisterEach application ids deployment).1 =
      deployment.publishedAmong application
        (fun name => !deployment.registrar.naming.outage.unbind name)
        (ids.map deployment.nameOf) := by
  rw [unregisterEach_fst_of_keyed application intact.keyed]
  apply publishedAmong_congr
  intro name published
  rw [decide_eq_true (intact.mem_boundKeys published), Bool.and_true]

/-- One warning for each published name among the visited ones that an outage concerns. -/
theorem warnings_unregisterEach (ids : List DefinitionId) :
    (unregisterEach application ids deployment).2.registrar.warnings =
      deployment.registrar.warnings ++
        (deployment.publishedAmong application deployment.registrar.naming.outage.unbind
          (ids.map deployment.nameOf)).map fun name => .notWithdrawn name (.cannotUnbind name) := by
  induction ids generalizing deployment with
  | nil => exact (List.append_nil _).symm
  | cons id rest ih =>
      have call := unregister_unregisters deployment application id
      have step := ih (call.intact intact)
      rw [call.outage_eq] at step
      refine step.trans ?_
      rw [List.map_cons, publishedAmong_cons, List.map_append, ← List.append_assoc]
      congr 1
      refine (warnings_unregister intact application (deployment.nameOf id)).trans ?_
      congr 1
      split <;> rfl

/-- Exactly the keys of the withdrawn names are unbound. -/
theorem lookup_unregisterEach (ids : List DefinitionId) (key : BindingKey) :
    (unregisterEach application ids deployment).2.registrar.lookup key =
      if key ∈ (unregisterEach application ids deployment).1.map (bindingKey application) then
        none
      else deployment.registrar.lookup key := by
  induction ids generalizing deployment with
  | nil => rfl
  | cons id rest ih =>
      have call := unregister_unregisters deployment application id
      have step := ih (call.intact intact)
      rw [call.lookup_eq intact.keyed] at step
      refine step.trans ?_
      by_cases withdrawn : (deployment.unregister application id).1 = true
      · have names : (unregisterEach application (id :: rest) deployment).1 =
            deployment.nameOf id ::
              (unregisterEach application rest (deployment.unregister application id).2).1 :=
          if_pos withdrawn
        rw [names]
        by_cases here : key = bindingKey application (deployment.nameOf id)
        · simp [here, withdrawn]
        · simp [here]
      · have names : (unregisterEach application (id :: rest) deployment).1 =
            (unregisterEach application rest (deployment.unregister application id).2).1 :=
          if_neg withdrawn
        simp [names, withdrawn]

end Intact

/-- The visited names are forgotten, whatever becomes of their keys. -/
theorem get?_published_unregisterEach (ids : List DefinitionId) (place : String × String) :
    (unregisterEach application ids deployment).2.registrar.published.get? place =
      if place.1 = application ∧ place.2 ∈ ids.map deployment.nameOf then none
      else deployment.registrar.published.get? place := by
  induction ids generalizing deployment with
  | nil => simp [unregisterEach]
  | cons id rest ih =>
      have call := unregister_unregisters deployment application id
      refine (ih (deployment.unregister application id).2).trans ?_
      have names : (deployment.unregister application id).2.nameOf = deployment.nameOf := rfl
      rw [call.get?_published, names]
      by_cases here : place = (application, deployment.nameOf id)
      · simp [here]
      · rw [if_neg here]
        congr 1
        simp only [List.map_cons, List.mem_cons, eq_iff_iff]
        constructor
        · rintro ⟨owner, member⟩
          exact ⟨owner, .inr member⟩
        · rintro ⟨owner, named | member⟩
          · exact (here (Prod.ext owner named)).elim
          · exact ⟨owner, member⟩

/-! ## Comparison with the same batch in service -/

/-- How the registration of an application during an outage compares with the same
registration in service. -/
structure RegistersDespite (state : Deployment (NameServer Payload))
    (application : Application DefinitionId) (outage : Outage) : Prop where
  names_eq : ((state.during outage).registerAll application).1 =
    ((state.during .none).registerAll application).1.filter fun name => !outage.bind name
  published_of_spared : ∀ owner name, outage.bind name = false →
    ((state.during outage).registerAll application).2.registrar.published.get? (owner, name) =
      ((state.during .none).registerAll application).2.registrar.published.get? (owner, name)
  lookup_of_spared : ∀ key, outage.bind key.name = false →
    ((state.during outage).registerAll application).2.registrar.lookup key =
      ((state.during .none).registerAll application).2.registrar.lookup key
  published_of_concerned : ∀ owner name, outage.bind name = true →
    ((state.during outage).registerAll application).2.registrar.published.get? (owner, name) =
      state.registrar.published.get? (owner, name)
  lookup_of_concerned : ∀ key, outage.bind key.name = true →
    ((state.during outage).registerAll application).2.registrar.lookup key =
      state.registrar.lookup key
  warnings_eq : ((state.during outage).registerAll application).2.registrar.warnings =
    state.registrar.warnings ++
      (application.walk.filter fun id =>
        !state.registrar.isPublished application.name (state.nameOf id) &&
          state.registrar.settings.isShared (state.nameOf id) &&
            outage.bind (state.nameOf id)).map fun id =>
        .notPublished (state.nameOf id) application.name (.cannotBind (state.nameOf id))

/-- How the withdrawal of an application during an outage compares with the same
withdrawal in service. -/
structure WithdrawsDespite (state : Deployment (NameServer Payload))
    (application : Application DefinitionId) (outage : Outage) : Prop where
  names_eq : ((state.during outage).unregisterAll application).1 =
    ((state.during .none).unregisterAll application).1.filter fun name => !outage.unbind name
  published_eq : ∀ place,
    ((state.during outage).unregisterAll application).2.registrar.published.get? place =
      ((state.during .none).unregisterAll application).2.registrar.published.get? place
  forgotten : ∀ id ∈ application.walk,
    ((state.during outage).unregisterAll application).2.registrar.published.get?
      (application.name, state.nameOf id) = none
  lookup_of_spared : ∀ key, outage.unbind key.name = false →
    ((state.during outage).unregisterAll application).2.registrar.lookup key =
      ((state.during .none).unregisterAll application).2.registrar.lookup key
  lookup_of_concerned : ∀ key, outage.unbind key.name = true →
    ((state.during outage).unregisterAll application).2.registrar.lookup key =
      state.registrar.lookup key
  warnings_eq : ((state.during outage).unregisterAll application).2.registrar.warnings =
    state.registrar.warnings ++
      ((application.walk.map state.nameOf).filter fun name =>
        state.registrar.isPublished application.name name && outage.unbind name).eraseDups.map
          fun name => .notWithdrawn name (.cannotUnbind name)

section Comparison

variable (application : Application DefinitionId) (outage : Outage)

theorem agreeOn_during :
    AgreeOn (fun name => !outage.bind name) (deployment.during outage)
      (deployment.during .none) where
  settings_eq := rfl
  registrarSettings_eq := rfl
  outage_eq := by
    intro name spared
    exact (Bool.not_eq_true' _).mp spared
  length_eq := rfl
  nameOf_eq := fun _ => rfl
  get_eq := fun _ _ => rfl
  published_eq := fun _ _ _ => rfl
  lookup_eq := fun _ _ => rfl

theorem registersDespite : deployment.RegistersDespite application outage := by
  have agree := (deployment.agreeOn_during outage).registerEach application.name application.walk
  constructor
  · simp only [registerAll, registerEach_fst, fresh]
    rw [← filter_eraseDups, List.filter_filter]
    congr 1
    apply List.filter_congr
    intro name _
    simp only [accepts, during, withNaming, Outage.none, Bool.not_false, Bool.and_true]
    rw [← Bool.and_assoc, Bool.and_comm]
    rfl
  · intro owner name spared
    exact agree.published_eq owner name (by rw [spared]; rfl)
  · intro key spared
    exact agree.lookup_eq key (by rw [spared]; rfl)
  · intro owner name concerned
    exact (registerEach_of_outage (deployment.during outage) application.name application.walk
      concerned).1 owner
  · intro key concerned
    exact (registerEach_of_outage (deployment.during outage) application.name application.walk
      concerned).2 key rfl
  · exact warnings_registerEach (deployment.during outage) application.name application.walk

variable {deployment} in
theorem withdrawsDespite (intact : deployment.registrar.Intact) :
    deployment.WithdrawsDespite application outage := by
  have failing : (deployment.during outage).registrar.Intact := ⟨intact.keyed, intact.bound⟩
  have serving : (deployment.during .none).registrar.Intact := ⟨intact.keyed, intact.bound⟩
  have names : ((deployment.during outage).unregisterAll application).1 =
      ((deployment.during .none).unregisterAll application).1.filter
        fun name => !outage.unbind name := by
    simp only [unregisterAll, unregisterEach_fst _ failing, unregisterEach_fst _ serving,
      publishedAmong]
    rw [← filter_eraseDups, List.filter_filter]
    congr 1
    apply List.filter_congr
    intro name _
    simp only [during, withNaming, Outage.none, Bool.not_false, Bool.and_true]
    exact Bool.and_comm _ _
  constructor
  · exact names
  · intro place
    simp only [unregisterAll, get?_published_unregisterEach]
    rfl
  · intro id walked
    rw [unregisterAll, get?_published_unregisterEach, if_pos]
    exact ⟨rfl, List.mem_map_of_mem walked⟩
  · intro key spared
    have same : key ∈ ((deployment.during outage).unregisterAll application).1.map
          (bindingKey application.name) ↔
        key ∈ ((deployment.during .none).unregisterAll application).1.map
          (bindingKey application.name) := by
      simp only [names, List.mem_map, List.mem_filter]
      constructor
      · rintro ⟨name, ⟨member, -⟩, equal⟩
        exact ⟨name, member, equal⟩
      · rintro ⟨name, member, rfl⟩
        exact ⟨name, ⟨member, (Bool.not_eq_true' _).mpr spared⟩, rfl⟩
    simp only [unregisterAll] at same
    simp only [unregisterAll, lookup_unregisterEach _ failing, lookup_unregisterEach _ serving,
      same]
    rfl
  · intro key concerned
    rw [unregisterAll, lookup_unregisterEach _ failing, if_neg]
    · rfl
    · intro member
      rcases List.mem_map.mp member with ⟨name, withdrawn, rfl⟩
      change name ∈ ((deployment.during outage).unregisterAll application).1 at withdrawn
      rw [names, List.mem_filter, Bool.not_eq_true'] at withdrawn
      exact Bool.false_ne_true (withdrawn.2.symm.trans concerned)
  · exact warnings_unregisterEach application.name failing application.walk

end Comparison

/-- In every state that a deployment reaches, whatever failed on the way, an outage
changes about a batch only what concerns the names in the outage. -/
theorem batches_spare_other_names (settings : Settings) (registrarSettings : Option Settings)
    (turns : List Turn) (application : Application DefinitionId) (outage : Outage) :
    let state := (Deployment.start settings registrarSettings
      (.start : NameServer Payload)).run turns
    state.RegistersDespite application outage ∧ state.WithdrawsDespite application outage := by
  intro state
  have intact : state.registrar.Intact := intact_run settings registrarSettings turns
  exact ⟨state.registersDespite application outage,
    withdrawsDespite application outage intact⟩

end Deployment

end ServerResources
