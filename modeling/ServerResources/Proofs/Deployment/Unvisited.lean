import ServerResources.Proofs.Deployment.Installation
import ServerResources.Proofs.Deployment.Rounds

/-!
# What registration does not visit

Two documents that agree at the positions which registration visits may have any number of
definitions elsewhere.  When each is installed, the definitions at one visited position get
different references.  With a label for every definition that was there before and for every
visited position, the two deployments are twins, and so they stay.
-/

namespace ServerResources

/-- A withdrawal binds nothing. -/
theorem Registrar.Unregisters.lookup_of_after {π : Type}
    {registrar after : Registrar (NameServer π)} {application name : String} {result : Bool}
    (call : Unregisters registrar application name result after) {key : BindingKey} {payload : π}
    (bound : after.lookup key = some payload) : registrar.lookup key = some payload := by
  cases call with
  | skipped => exact bound
  | refused => exact bound
  | withdrawn unboundKey =>
      change (registrar.naming.directory.bindings.erase unboundKey).get? key = some payload at bound
      rw [OrderedMap.get?_erase] at bound
      split at bound
      next => cases bound
      next => exact bound

namespace Deployment

open Registrar

/-! ## Labels -/

section Labels

variable {known width : Nat} {ids : List DefinitionId}

/-- The reference of a definition that was there before, or of one that is visited. -/
def referenceOf (known : Nat) (enough : ids.length = width) :
    Fin known ⊕ Fin width → DefinitionId
  | .inl id => id
  | .inr number => ids.get (number.cast enough.symm)

theorem referenceOf_injective (enough : ids.length = width) (distinct : ids.Nodup)
    (new : ∀ id ∈ ids, known ≤ id) : Function.Injective (referenceOf known enough) := by
  have apart : ∀ (id : Fin known) (number : Fin width),
      id.val ≠ ids.get (number.cast enough.symm) := by
    intro id number same
    have bound := new _ (List.get_mem ids (number.cast enough.symm))
    rw [← same] at bound
    exact Nat.not_lt.mpr bound id.isLt
  intro label other same
  cases label with
  | inl id =>
      cases other with
      | inl otherId => exact congrArg Sum.inl (Fin.ext same)
      | inr number => exact (apart id number same).elim
  | inr number =>
      cases other with
      | inl id => exact (apart id number same.symm).elim
      | inr otherNumber =>
          have numbers := List.nodup_iff_injective_get.mp distinct same
          exact congrArg Sum.inr (Fin.cast_injective _ numbers)

/-- The visited definitions are those of the labels for visited positions. -/
theorem map_referenceOf_visited (enough : ids.length = width) :
    ((List.finRange width).map Sum.inr).map (referenceOf known enough) = ids := by
  subst enough
  rw [List.map_map]
  exact List.map_get_finRange ids

/-- Definitions that were there before have labels of their own. -/
theorem exists_labels (others : List DefinitionId) (older : ∀ id ∈ others, id < known) :
    ∃ labels : List (Fin known ⊕ Fin width),
      ∀ {ids : List DefinitionId} (enough : ids.length = width),
        others = labels.map (referenceOf known enough) := by
  refine ⟨others.attach.map fun id => .inl ⟨id.val, older id.val id.property⟩, ?_⟩
  intro ids enough
  rw [List.map_map]
  exact (List.attach_map_subtype_val others).symm

/-- A payload with labels in place of its references to definitions that are there. -/
def labelled (known width : Nat) : Payload → LabelledPayload (Fin known ⊕ Fin width)
  | .value json => .inl json
  | .mailResource resource =>
      if older : resource.session < known then
        .inr ⟨.inl ⟨resource.session, older⟩, resource.name⟩
      else .inl .null

theorem resolve_labelled (enough : ids.length = width) {payload : Payload}
    (older : ∀ resource, payload = .mailResource resource → resource.session < known) :
    (labelled known width payload).resolve (referenceOf known enough) = payload := by
  cases payload with
  | value json => rfl
  | mailResource resource =>
      rw [labelled, dif_pos (older resource rfl)]
      rfl

end Labels

/-! ## Documents that are installed apart -/

/-- What is bound refers to definitions that are there. -/
def Grounded (deployment : Deployment (NameServer Payload)) : Prop :=
  ∀ key resource, deployment.registrar.lookup key = some (.mailResource resource) →
    resource.session < deployment.definitions.sessions.length

theorem grounded_start (settings : Settings) (registrarSettings : Option Settings) :
    (start settings registrarSettings (.start : NameServer Payload)).Grounded := by
  intro key resource bound
  cases bound

theorem Grounded.installing {deployment : Deployment (NameServer Payload)}
    (grounded : deployment.Grounded) (application : Application MailSession) :
    (deployment.installing application).Grounded := by
  intro key resource bound
  rw [Deployment.installing, Definitions.sessions_install, List.length_append]
  exact Nat.lt_add_right _ (grounded key resource bound)

theorem length_visit (direction : Direction) (application : String)
    (deployment : Deployment (NameServer Payload)) (id : DefinitionId) :
    (deployment.visit direction application id).2.definitions.sessions.length =
      deployment.definitions.sessions.length := by
  cases direction with
  | register => exact length_register deployment application id _
  | withdraw => rfl

theorem Grounded.visit {deployment : Deployment (NameServer Payload)}
    (grounded : deployment.Grounded) (direction : Direction) (application : String)
    {id : DefinitionId} (known : id < deployment.definitions.sessions.length) :
    (deployment.visit direction application id).2.Grounded := by
  intro key resource bound
  rw [length_visit]
  cases direction with
  | register =>
      have call := register_registers deployment application id
        (.mailResource (deployment.resourceOf id))
      rw [Deployment.visit, call.lookup_eq] at bound
      split at bound
      next =>
        cases bound
        exact known
      next => exact grounded key resource bound
  | withdraw =>
      have call := unregister_unregisters deployment application id
      exact grounded key resource (call.lookup_of_after bound)

/-- Batches about definitions that are there leave only references to such. -/
theorem Grounded.visitEach {deployment : Deployment (NameServer Payload)}
    (grounded : deployment.Grounded) (direction : Direction) (application : String)
    {ids : List DefinitionId} (known : ∀ id ∈ ids, id < deployment.definitions.sessions.length) :
    (visitEach direction application ids deployment).2.Grounded := by
  induction ids generalizing deployment with
  | nil =>
      rw [visitEach_nil]
      exact grounded
  | cons id rest ih =>
      rw [visitEach_cons]
      apply ih (grounded.visit direction application (known id List.mem_cons_self))
      intro later member
      rw [length_visit]
      exact known later (List.mem_cons_of_mem id member)

theorem length_visitEach (direction : Direction) (application : String)
    (ids : List DefinitionId) (deployment : Deployment (NameServer Payload)) :
    (visitEach direction application ids deployment).2.definitions.sessions.length =
      deployment.definitions.sessions.length := by
  cases direction with
  | register => exact length_registerEach _ _ _
  | withdraw => rw [visitEach, definitions_unregisterEach]

theorem Grounded.playAll {deployment : Deployment (NameServer Payload)}
    (grounded : deployment.Grounded) {application : Application DefinitionId}
    {rounds : List (Round Outage)}
    (known : ∀ id ∈ application.walk, id < deployment.definitions.sessions.length)
    (others : ∀ round ∈ rounds, ∀ other ∈ round.other, ∀ id ∈ other.walk,
      id < deployment.definitions.sessions.length) :
    (playAll NameServer.undergo application rounds deployment).2.Grounded := by
  induction rounds generalizing deployment with
  | nil => exact grounded
  | cons round rest ih =>
      have subject : ∀ id ∈ (round.other.getD application).walk,
          id < deployment.definitions.sessions.length := by
        cases about : round.other with
        | none => exact known
        | some other => exact others round List.mem_cons_self other about
      have length : (deployment.play NameServer.undergo application
          round).2.definitions.sessions.length = deployment.definitions.sessions.length := by
        rw [play, visitAll_eq]
        exact length_visitEach _ _ _ _
      have met : (deployment.withNaming
          (NameServer.undergo round.change deployment.registrar.naming)).Grounded := grounded
      refine @ih (deployment.play NameServer.undergo application round).2 ?_ ?_ ?_
      · rw [play, visitAll_eq]
        exact met.visitEach round.direction _ subject
      · rw [length]
        exact known
      · intro later member
        rw [length]
        exact others later (List.mem_cons_of_mem round member)

section Installing

variable {deployment : Deployment (NameServer Payload)} {left right : Application MailSession}

theorem length_walk_installed (deployment : Deployment (NameServer Payload))
    (application : Application MailSession) :
    (deployment.installed application).walk.length = application.walk.length := by
  rw [← map_get_walk_installed deployment application, List.length_map]

theorem get_walk_installed (deployment : Deployment (NameServer Payload))
    (application : Application MailSession)
    (number : Fin (deployment.installed application).walk.length) :
    some ((deployment.installing application).definitions.get
      ((deployment.installed application).walk.get number)) = application.walk[number.val]? := by
  rw [← map_get_walk_installed deployment application, List.getElem?_map,
    List.getElem?_eq_getElem number.isLt]
  rfl

theorem referenceOf_lt (deployment : Deployment (NameServer Payload))
    (application : Application MailSession) {width : Nat}
    (enough : (deployment.installed application).walk.length = width)
    (label : Fin deployment.definitions.sessions.length ⊕ Fin width) :
    referenceOf deployment.definitions.sessions.length enough label <
      (deployment.installing application).definitions.sessions.length := by
  cases label with
  | inl id =>
      rw [installing, Definitions.sessions_install, List.length_append]
      exact Nat.lt_add_right _ id.isLt
  | inr number =>
      exact (deployment.bounds_of_mem_walk_installed application (List.get_mem _ _)).2

/-- Documents that agree where they are visited make twins of a deployment. -/
theorem twins_installing (grounded : deployment.Grounded) (agree : left.walk = right.walk)
    {width : Nat} (leftEnough : (deployment.installed left).walk.length = width)
    (rightEnough : (deployment.installed right).walk.length = width) :
    Twins (referenceOf deployment.definitions.sessions.length leftEnough)
      (referenceOf deployment.definitions.sessions.length rightEnough)
      (deployment.installing left) (deployment.installing right) where
  settings_eq := rfl
  registrar := by
    refine ⟨deployment.registrar.map (labelled _ width), ?_, ?_⟩
    · refine (Registrar.map_map_eq_self ?_).symm
      intro key payload bound
      apply resolve_labelled
      rintro resource rfl
      exact grounded key resource bound
    · refine (Registrar.map_map_eq_self ?_).symm
      intro key payload bound
      apply resolve_labelled
      rintro resource rfl
      exact grounded key resource bound
  get_eq := by
    intro label
    cases label with
    | inl id =>
        exact (deployment.definitions.get_install_of_lt left id.isLt).trans
          (deployment.definitions.get_install_of_lt right id.isLt).symm
    | inr number =>
        apply Option.some.inj
        refine (get_walk_installed deployment left _).trans ?_
        rw [agree]
        exact (get_walk_installed deployment right (number.cast rightEnough.symm)).symm
  known_iff := by
    intro label
    exact iff_of_true (referenceOf_lt deployment left leftEnough label)
      (referenceOf_lt deployment right rightEnough label)

theorem referenceOf_installed_injective (deployment : Deployment (NameServer Payload))
    (application : Application MailSession) {width : Nat}
    (enough : (deployment.installed application).walk.length = width) :
    Function.Injective (referenceOf deployment.definitions.sessions.length enough) := by
  apply referenceOf_injective enough (deployment.nodup_walk_installed application)
  intro id walked
  exact (deployment.bounds_of_mem_walk_installed application walked).1

end Installing

/-! ## Runs that come to the same -/

/-- Runs that cannot be told apart from outside: the same names were returned, the same
names are published, the same warnings were left, and what is bound reads the same. -/
structure SameRun (left right : List (List String) × Deployment (NameServer Payload)) :
    Prop where
  names_eq : left.1 = right.1
  published_eq : left.2.registrar.published = right.2.registrar.published
  warnings_eq : left.2.registrar.warnings = right.2.registrar.warnings
  bindings_eq : left.2.registrar.naming.directory.bindings.map (Payload.read left.2.definitions) =
    right.2.registrar.naming.directory.bindings.map (Payload.read right.2.definitions)

/-- Rounds cannot tell documents apart that agree where they are visited. -/
theorem sameRun_installed {deployment : Deployment (NameServer Payload)}
    (grounded : deployment.Grounded) {left right : Application MailSession}
    (agree : left.AgreeWhereVisited right) {rounds : List (Round Outage)}
    (older : ∀ round ∈ rounds, ∀ other ∈ round.other, ∀ id ∈ other.walk,
      id < deployment.definitions.sessions.length) :
    SameRun
      (playAll NameServer.undergo (deployment.installed left) rounds (deployment.installing left))
      (playAll NameServer.undergo (deployment.installed right) rounds
        (deployment.installing right)) := by
  have leftEnough := length_walk_installed deployment left
  have rightEnough : (deployment.installed right).walk.length = left.walk.length := by
    rw [length_walk_installed, agree.walk_eq]
  have twins := twins_installing grounded agree.walk_eq leftEnough rightEnough
  have named : (deployment.installed left).name = (deployment.installed right).name :=
    agree.name_eq
  have shared : ∀ round ∈ rounds, ∀ other ∈ round.other,
      ∃ labels : List (Fin deployment.definitions.sessions.length ⊕ Fin left.walk.length),
        other.walk = labels.map (referenceOf _ leftEnough) ∧
          other.walk = labels.map (referenceOf _ rightEnough) := by
    intro round played other about
    rcases exists_labels other.walk (older round played other about) with ⟨labels, resolved⟩
    exact ⟨labels, resolved leftEnough, resolved rightEnough⟩
  obtain ⟨names, final⟩ := twins.playAll
    (deployment.referenceOf_installed_injective left leftEnough)
    (deployment.referenceOf_installed_injective right rightEnough) named
    (map_referenceOf_visited leftEnough).symm (map_referenceOf_visited rightEnough).symm shared
  exact ⟨names, final.published_eq, final.warnings_eq, final.read_bindings_eq⟩

/-- Rounds about a document that was installed leave only references to definitions that are
there. -/
theorem grounded_installed {deployment : Deployment (NameServer Payload)}
    (grounded : deployment.Grounded) (application : Application MailSession)
    {rounds : List (Round Outage)}
    (older : ∀ round ∈ rounds, ∀ other ∈ round.other, ∀ id ∈ other.walk,
      id < deployment.definitions.sessions.length) :
    (playAll NameServer.undergo (deployment.installed application) rounds
      (deployment.installing application)).2.Grounded := by
  apply (grounded.installing application).playAll
  · intro id walked
    exact (deployment.bounds_of_mem_walk_installed application walked).2
  · intro round played other about id walked
    rw [installing, Definitions.sessions_install, List.length_append]
    exact Nat.lt_add_right _ (older round played other about id walked)

/-! ## What is visited, and that it does not change -/

/-- The walk visits the positions that registration is to visit, each of them once and in
the order of nesting, and no others. -/
structure WalksPositions {μ : Type} (application : Application μ) (positions : List Position) :
    Prop where
  ordered : positions.Pairwise Position.Before
  once : positions.Nodup
  visited : ∀ position, position ∈ positions ↔ application.Visits position
  walk_eq : positions.map application.at? = application.walk.map some

theorem walksPositions {μ : Type} (application : Application μ) :
    WalksPositions application application.positions where
  ordered := application.pairwise_positions
  once := application.pairwise_positions.nodup
  visited := application.mem_positions_iff
  walk_eq := application.map_positions

section Undisturbed

variable {φ σ : Type} [NamingService σ Payload] (change : φ → σ → σ)

/-- Whatever is written in some rounds, the next one visits the definitions at the same
positions, also if it looks for each of them on its way. -/
structure Undisturbed (application : Application DefinitionId) (rounds : List (Round φ))
    (deployment : Deployment σ) : Prop where
  owners : SameButOwners deployment.definitions
    (playAll change application rounds deployment).2.definitions
  visits_iff : ∀ position,
    ((playAll change application rounds deployment).2.definitions.read application).Visits
        position ↔
      (deployment.definitions.read application).Visits position
  at?_eq : ∀ position,
    ((playAll change application rounds deployment).2.definitions.read application).at?
        position =
      (application.at? position).map
        (playAll change application rounds deployment).2.definitions.get
  proceeds_iff : ∀ direction names final,
    Proceeds direction application none (playAll change application rounds deployment).2 names
        final ↔
      (names, final) =
        (playAll change application rounds deployment).2.visitAll direction application

theorem undisturbed (application : Application DefinitionId) (rounds : List (Round φ))
    (deployment : Deployment σ) : Undisturbed change application rounds deployment where
  owners := sameButOwners_playAll change application rounds deployment
  visits_iff := by
    intro position
    exact (application.visits_map_iff _ position).trans (application.visits_map_iff _ position).symm
  at?_eq := application.at?_map _
  proceeds_iff := by
    intro direction names final
    exact proceeds_iff_visitAll direction application _ names final

end Undisturbed

/-- Registration visits the positions that it is to visit, and nothing else of an
application matters: neither in any state over any naming service, nor when the application
is installed as a document in any state that is reached.  What registration writes does not
change what is visited. -/
theorem visited_positions_matter :
    (∀ (μ : Type) (application : Application μ), ∃ positions,
      WalksPositions application positions) ∧
    (∀ (μ : Type) (left right : Application μ), left.trimmed = right.trimmed →
      left.AgreeWhereVisited right) ∧
    (∀ (φ σ : Type) [NamingService σ Payload] (change : φ → σ → σ)
      (left right : Application DefinitionId), left.AgreeWhereVisited right →
        ∀ (rounds : List (Round φ)) (deployment : Deployment σ),
          playAll change left rounds deployment = playAll change right rounds deployment) ∧
    (∀ settings registrarSettings,
      (start settings registrarSettings (.start : NameServer Payload)).Grounded) ∧
    (∀ deployment : Deployment (NameServer Payload), deployment.Grounded →
      ∀ left right : Application MailSession, left.AgreeWhereVisited right →
        ∀ rounds : List (Round Outage),
          (∀ round ∈ rounds, ∀ other ∈ round.other, ∀ id ∈ other.walk,
            id < deployment.definitions.sessions.length) →
          SameRun
              (playAll NameServer.undergo (deployment.installed left) rounds
                (deployment.installing left))
              (playAll NameServer.undergo (deployment.installed right) rounds
                (deployment.installing right)) ∧
            (playAll NameServer.undergo (deployment.installed left) rounds
              (deployment.installing left)).2.Grounded) ∧
    ∀ (φ σ : Type) [NamingService σ Payload] (change : φ → σ → σ)
      (application : Application DefinitionId) (rounds : List (Round φ))
      (deployment : Deployment σ), Undisturbed change application rounds deployment := by
  refine ⟨?_, ?_, ?_, grounded_start, ?_, ?_⟩
  · intro μ application
    exact ⟨application.positions, walksPositions application⟩
  · intro μ left right same
    exact Application.agreeWhereVisited_of_trimmed_eq same
  · intro φ σ _ change left right agree rounds deployment
    exact playAll_congr change agree rounds deployment
  · intro deployment grounded left right agree rounds older
    exact ⟨sameRun_installed grounded agree older, grounded_installed grounded left older⟩
  · intro φ σ _ change application rounds deployment
    exact undisturbed change application rounds deployment

/-- A document with sessions in an enterprise bean of a web module and in an extension of an
extension, where they are not visited. -/
def layered : Application MailSession :=
  let session (name : String) : MailSession := { MailSession.blank with name := name }
  let bean (name : String) : Component MailSession := ⟨"bean", [session name]⟩
  let inner : Bundle MailSession :=
    ⟨"inner", .ejb, [session "java:app/inner"], [], [], [], []⟩
  let extension : Bundle MailSession :=
    ⟨"extension", .ejb, [], [bean "java:app/ejb"], [], [], [inner]⟩
  ⟨"shop", [⟨"web", .web, [session "java:app/mail"], [bean "java:app/idle"], [],
    [bean "java:global/mail"], [extension]⟩]⟩

/-- Without those sessions the document is another one, but no sequence of batches and
outages tells. -/
theorem visited_positions_matter_layered :
    let deployment : Deployment (NameServer Payload) := start {} none .start
    let rounds : List (Round Outage) :=
      [ ⟨.ofNames ["java:app/ejb"] [], .register, none⟩,
        ⟨.none, .register, none⟩,
        ⟨.ofNames [] ["*"], .withdraw, none⟩ ]
    layered.members.length = 5 ∧ layered.trimmed.members.length = 3 ∧
    (playAll NameServer.undergo (deployment.installed layered) rounds
        (deployment.installing layered)).1 =
      [["java:app/mail", "java:global/mail"], ["java:app/ejb"], []] ∧
    SameRun
      (playAll NameServer.undergo (deployment.installed layered) rounds
        (deployment.installing layered))
      (playAll NameServer.undergo (deployment.installed layered.trimmed) rounds
        (deployment.installing layered.trimmed)) := by
  intro deployment rounds
  refine ⟨by decide, by decide, by decide +kernel, ?_⟩
  obtain ⟨-, trims, -, grounded, documents, -⟩ := visited_positions_matter
  have agree := trims MailSession layered layered.trimmed rfl
  have alone : ∀ round ∈ rounds, round.other = none := by
    simp [rounds]
  refine (documents deployment (grounded {} none) layered layered.trimmed agree rounds ?_).1
  intro round played other about
  rw [alone round played] at about
  cases about

end Deployment

end ServerResources
