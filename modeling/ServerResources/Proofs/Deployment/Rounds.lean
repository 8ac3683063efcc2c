import ServerResources.Proofs.Deployment.Visits

/-!
# Rounds of batches

An application is registered and withdrawn in rounds.  Before each round the naming service
may change in any way, and there may be rounds about other applications in between.

Nothing that stands at a position which is not visited plays a part.  Applications that agree
at the visited positions leave one and the same deployment, whatever the naming service is.
Documents that agree there are installed apart, so their definitions differ in number and in
place; in every round the same names are returned, and in the end the same names are
published, the same warnings are left, and what is bound reads the same.
-/

namespace ServerResources

/-- A batch about the application in question or about another one, after the naming service
changed. -/
structure Round (φ : Type) where
  change : φ
  direction : Direction
  /-- Another application, if the round is not about the one in question. -/
  other : Option (Application DefinitionId)

/-- The server in another outage. -/
def NameServer.undergo {π : Type} (outage : Outage) (server : NameServer π) : NameServer π :=
  { server with outage := outage }

namespace Deployment

section Rounds

variable {φ σ : Type} [NamingService σ Payload] (change : φ → σ → σ)

/-- Does the batch of a round. -/
def play (application : Application DefinitionId) (deployment : Deployment σ)
    (round : Round φ) : List String × Deployment σ :=
  (deployment.withNaming (change round.change deployment.registrar.naming)).visitAll
    round.direction (round.other.getD application)

/-- Plays rounds one after another, and gives the names that each returns. -/
def playAll (application : Application DefinitionId) :
    List (Round φ) → Deployment σ → List (List String) × Deployment σ
  | [], deployment => ([], deployment)
  | round :: rest, deployment =>
      let (names, deployment) := deployment.play change application round
      let (others, deployment) := playAll application rest deployment
      (names :: others, deployment)

/-- Rounds come to the same for applications that agree where they are visited. -/
theorem playAll_congr {left right : Application DefinitionId}
    (agree : left.AgreeWhereVisited right) (rounds : List (Round φ))
    (deployment : Deployment σ) :
    playAll change left rounds deployment = playAll change right rounds deployment := by
  have play : ∀ (deployment : Deployment σ) (round : Round φ),
      deployment.play change left round = deployment.play change right round := by
    intro deployment round
    rw [Deployment.play, Deployment.play, visitAll_eq, visitAll_eq]
    cases round.other with
    | some other => rfl
    | none => rw [Option.getD_none, Option.getD_none, agree.name_eq, agree.walk_eq]
  induction rounds generalizing deployment with
  | nil => rfl
  | cons round rest ih => simp only [playAll, play, ih]

/-! ## What rounds write -/

/-- Definitions that differ in their owners only. -/
def SameButOwners (before after : Definitions) : Prop :=
  ∀ id, ∃ owner, after.get id = { before.get id with owner := owner }

theorem sameButOwners_trans {first second third : Definitions}
    (before : SameButOwners first second) (after : SameButOwners second third) :
    SameButOwners first third := by
  intro id
  rcases before id with ⟨earlier, written⟩
  rcases after id with ⟨owner, writtenLater⟩
  exact ⟨owner, by rw [writtenLater, written]⟩

theorem sameButOwners_refl (definitions : Definitions) : SameButOwners definitions definitions :=
  fun id => ⟨(definitions.get id).owner, rfl⟩

theorem sameButOwners_visit (direction : Direction) (application : String)
    (deployment : Deployment σ) (id : DefinitionId) :
    SameButOwners deployment.definitions
      (deployment.visit direction application id).2.definitions := by
  cases direction with
  | withdraw => exact sameButOwners_refl _
  | register =>
      intro other
      simp only [visit, register, Definitions.get_set, Registrar.claim]
      split
      next here =>
        rw [here.1]
        split
        next => exact ⟨some application, rfl⟩
        next => exact ⟨_, rfl⟩
      next => exact ⟨_, rfl⟩

theorem sameButOwners_visitEach (direction : Direction) (application : String)
    (ids : List DefinitionId) (deployment : Deployment σ) :
    SameButOwners deployment.definitions
      (visitEach direction application ids deployment).2.definitions := by
  induction ids generalizing deployment with
  | nil =>
      rw [visitEach_nil]
      exact sameButOwners_refl _
  | cons id rest ih =>
      rw [visitEach_cons]
      exact sameButOwners_trans (sameButOwners_visit direction application deployment id) (ih _)

theorem sameButOwners_playAll (application : Application DefinitionId)
    (rounds : List (Round φ)) (deployment : Deployment σ) :
    SameButOwners deployment.definitions
      (playAll change application rounds deployment).2.definitions := by
  induction rounds generalizing deployment with
  | nil => exact sameButOwners_refl _
  | cons round rest ih =>
      refine sameButOwners_trans ?_ (ih (deployment.play change application round).2)
      rw [play, visitAll_eq]
      exact sameButOwners_visitEach _ _ _ _

end Rounds

/-! ## Rounds in twins -/

section TwinRounds

variable {ι : Type} {toLeft toRight : ι → DefinitionId}
  {left right : Deployment (NameServer Payload)}
  {leftApplication rightApplication : Application DefinitionId} {labels : List ι}

theorem Twins.visit (twins : Twins toLeft toRight left right)
    (leftInjective : Function.Injective toLeft) (rightInjective : Function.Injective toRight)
    (direction : Direction) (application : String) (label : ι) :
    (left.visit direction application (toLeft label)).1 =
      (right.visit direction application (toRight label)).1 ∧
    Twins toLeft toRight (left.visit direction application (toLeft label)).2
      (right.visit direction application (toRight label)).2 := by
  cases direction with
  | register => exact twins.enroll leftInjective rightInjective application label
  | withdraw => exact twins.unregister application label

/-- Batches over definitions of the same labels come to the same. -/
theorem Twins.visitEach (twins : Twins toLeft toRight left right)
    (leftInjective : Function.Injective toLeft) (rightInjective : Function.Injective toRight)
    (direction : Direction) (application : String) (labels : List ι) :
    (Deployment.visitEach direction application (labels.map toLeft) left).1 =
      (Deployment.visitEach direction application (labels.map toRight) right).1 ∧
    Twins toLeft toRight
      (Deployment.visitEach direction application (labels.map toLeft) left).2
      (Deployment.visitEach direction application (labels.map toRight) right).2 := by
  induction labels generalizing left right with
  | nil =>
      rw [List.map_nil, List.map_nil, visitEach_nil, visitEach_nil]
      exact ⟨rfl, twins⟩
  | cons label rest ih =>
      obtain ⟨result, next⟩ :=
        twins.visit leftInjective rightInjective direction application label
      obtain ⟨results, final⟩ := ih next
      rw [List.map_cons, List.map_cons, visitEach_cons, visitEach_cons]
      refine ⟨?_, final⟩
      rw [result, results, twins.nameOf_eq]

theorem Twins.visitAll (twins : Twins toLeft toRight left right)
    (leftInjective : Function.Injective toLeft) (rightInjective : Function.Injective toRight)
    (direction : Direction) (names : leftApplication.name = rightApplication.name)
    (leftWalk : leftApplication.walk = labels.map toLeft)
    (rightWalk : rightApplication.walk = labels.map toRight) :
    (left.visitAll direction leftApplication).1 =
      (right.visitAll direction rightApplication).1 ∧
    Twins toLeft toRight (left.visitAll direction leftApplication).2
      (right.visitAll direction rightApplication).2 := by
  rw [visitAll_eq, visitAll_eq, leftWalk, rightWalk, names]
  exact twins.visitEach leftInjective rightInjective direction _ labels

/-- Rounds come to the same in twins. -/
theorem Twins.playAll (twins : Twins toLeft toRight left right)
    (leftInjective : Function.Injective toLeft) (rightInjective : Function.Injective toRight)
    (names : leftApplication.name = rightApplication.name)
    (leftWalk : leftApplication.walk = labels.map toLeft)
    (rightWalk : rightApplication.walk = labels.map toRight)
    {rounds : List (Round Outage)}
    (shared : ∀ round ∈ rounds, ∀ other ∈ round.other, ∃ labels : List ι,
      other.walk = labels.map toLeft ∧ other.walk = labels.map toRight) :
    (Deployment.playAll NameServer.undergo leftApplication rounds left).1 =
      (Deployment.playAll NameServer.undergo rightApplication rounds right).1 ∧
    Twins toLeft toRight
      (Deployment.playAll NameServer.undergo leftApplication rounds left).2
      (Deployment.playAll NameServer.undergo rightApplication rounds right).2 := by
  induction rounds generalizing left right with
  | nil => exact ⟨rfl, twins⟩
  | cons round rest ih =>
      have met := twins.during round.change
      have step : (left.play NameServer.undergo leftApplication round).1 =
            (right.play NameServer.undergo rightApplication round).1 ∧
          Twins toLeft toRight (left.play NameServer.undergo leftApplication round).2
            (right.play NameServer.undergo rightApplication round).2 := by
        rw [play, play]
        cases about : round.other with
        | none =>
            exact met.visitAll leftInjective rightInjective round.direction names leftWalk
              rightWalk
        | some other =>
            rcases shared round List.mem_cons_self other about with ⟨labels, ofLeft, ofRight⟩
            exact met.visitAll leftInjective rightInjective round.direction rfl ofLeft ofRight
      rcases ih step.2 fun round member => shared round (List.mem_cons_of_mem _ member) with
        ⟨results, final⟩
      refine ⟨?_, final⟩
      rw [Deployment.playAll, Deployment.playAll]
      exact congrArg₂ List.cons step.1 results

end TwinRounds

end Deployment

end ServerResources
