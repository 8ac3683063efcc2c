import ServerResources.Proofs.Application.Unvisited
import ServerResources.Proofs.Deployment.Twins

/-!
# Which definitions are visited

Registering and withdrawing an application visit its definitions at certain positions, and
nothing else of the application matters but its name.  Whatever the naming service is and
does, applications that agree at the visited positions are registered and withdrawn alike,
over any number of batches.  If they are two documents that are installed separately, then
their definitions are kept in different places, but all that can be seen from outside is the
same.

Registration writes to the definitions while it visits them.  It writes owners only, so a
registration that looks for its next position in the application as it is by then visits the
same definitions, and so does every later one.
-/

namespace ServerResources

variable {μ : Type}

/-! ## The next position -/

namespace Application

/-- A position comes after the last one, if there was one. -/
def After (last : Option Position) (position : Position) : Prop :=
  ∀ previous ∈ last, previous.Before position

/-- The first visited position after the last one. -/
structure IsNext (application : Application μ) (last : Option Position) (position : Position) :
    Prop where
  visits : application.Visits position
  after : After last position
  first : ∀ other, application.Visits other → After last other →
    other = position ∨ position.Before other

/-- No visited position comes after the last one. -/
def IsDone (application : Application μ) (last : Option Position) : Prop :=
  ∀ position, application.Visits position → ¬ After last position

section Split

variable {application : Application μ} {visited rest : List Position}
  (split : application.positions = visited ++ rest)

include split

/-- Of the visited positions, those after the last one are the remaining ones. -/
theorem after_iff {position : Position} (visits : application.Visits position) :
    After visited.getLast? position ↔ position ∈ rest := by
  have ordered := application.pairwise_positions
  rw [split, List.pairwise_append] at ordered
  have member := (application.mem_positions_iff position).mpr visits
  rw [split, List.mem_append] at member
  constructor
  · intro after
    rcases member with earlier | remaining
    · rcases List.eq_nil_or_concat visited with rfl | ⟨front, last, rfl⟩
      · cases earlier
      · rw [List.concat_eq_append] at earlier ordered after
        have before := after last (by simp)
        rcases List.mem_append.mp earlier with inFront | same
        · have behind := (List.pairwise_append.mp ordered.1).2.2 position inFront last (by simp)
          exact (lt_asymm before behind).elim
        · rw [List.mem_singleton.mp same] at before
          exact (lt_irrefl _ before).elim
    · exact remaining
  · intro remaining previous isLast
    exact ordered.2.2 previous (List.mem_of_getLast? isLast) position remaining

theorem isDone_iff : application.IsDone visited.getLast? ↔ rest = [] := by
  have visits : ∀ position ∈ rest, application.Visits position := by
    intro position member
    rw [← mem_positions_iff, split]
    exact List.mem_append_right _ member
  constructor
  · intro done
    rw [List.eq_nil_iff_forall_not_mem]
    intro position member
    exact done position (visits position member)
      ((after_iff split (visits position member)).mpr member)
  · rintro rfl position visited after
    cases (after_iff split visited).mp after

theorem isNext_iff (position : Position) :
    application.IsNext visited.getLast? position ↔ rest.head? = some position := by
  have ordered := application.pairwise_positions
  rw [split, List.pairwise_append] at ordered
  have visits : ∀ position ∈ rest, application.Visits position := by
    intro position member
    rw [← mem_positions_iff, split]
    exact List.mem_append_right _ member
  constructor
  · rintro ⟨here, after, first⟩
    have member := (after_iff split here).mp after
    cases rest with
    | nil => cases member
    | cons head tail =>
        have headVisits := visits head List.mem_cons_self
        rcases first head headVisits ((after_iff split headVisits).mpr List.mem_cons_self) with
          same | before
        · rw [same, List.head?_cons]
        · rcases List.mem_cons.mp member with same | later
          · rw [same, List.head?_cons]
          · have behind := (List.pairwise_cons.mp ordered.2.1).1 position later
            exact (lt_asymm before behind).elim
  · intro found
    cases rest with
    | nil => cases found
    | cons head tail =>
        cases found
        have here := visits position List.mem_cons_self
        refine ⟨here, (after_iff split here).mpr List.mem_cons_self, ?_⟩
        intro other otherVisits after
        rcases List.mem_cons.mp ((after_iff split otherVisits).mp after) with same | later
        · exact .inl same
        · exact .inr ((List.pairwise_cons.mp ordered.2.1).1 other later)

end Split

end Application

/-! ## Visiting definitions one after another -/

/-- What is done to the definitions of an application. -/
inductive Direction where
  | register
  | withdraw
  deriving DecidableEq, Repr

namespace Deployment

variable {σ : Type} [NamingService σ Payload]

/-- Registers or withdraws one definition. -/
def visit (direction : Direction) (application : String) (deployment : Deployment σ)
    (id : DefinitionId) : Bool × Deployment σ :=
  match direction with
  | .register => deployment.register application id (.mailResource (deployment.resourceOf id))
  | .withdraw => deployment.unregister application id

/-- Registers or withdraws some definitions. -/
def visitEach (direction : Direction) (application : String) (ids : List DefinitionId)
    (deployment : Deployment σ) : List String × Deployment σ :=
  match direction with
  | .register => registerEach application ids deployment
  | .withdraw => unregisterEach application ids deployment

/-- Registers or withdraws an application. -/
def visitAll (direction : Direction) (deployment : Deployment σ)
    (application : Application DefinitionId) : List String × Deployment σ :=
  match direction with
  | .register => deployment.registerAll application
  | .withdraw => deployment.unregisterAll application

theorem visitAll_eq (direction : Direction) (deployment : Deployment σ)
    (application : Application DefinitionId) :
    deployment.visitAll direction application =
      visitEach direction application.name application.walk deployment := by
  cases direction <;> rfl

theorem visitEach_nil (direction : Direction) (application : String)
    (deployment : Deployment σ) : visitEach direction application [] deployment =
      ([], deployment) := by
  cases direction <;> rfl

theorem visitEach_cons (direction : Direction) (application : String) (id : DefinitionId)
    (rest : List DefinitionId) (deployment : Deployment σ) :
    visitEach direction application (id :: rest) deployment =
      (if (deployment.visit direction application id).1 then
          deployment.nameOf id ::
            (visitEach direction application rest
              (deployment.visit direction application id).2).1
        else (visitEach direction application rest
          (deployment.visit direction application id).2).1,
        (visitEach direction application rest
          (deployment.visit direction application id).2).2) := by
  cases direction <;> rfl

/-- A batch that looks for its next position in the application as it is by then. -/
inductive Proceeds (direction : Direction) (application : Application DefinitionId) :
    Option Position → Deployment σ → List String → Deployment σ → Prop where
  | finished (last : Option Position) (deployment : Deployment σ)
      (done : (deployment.definitions.read application).IsDone last) :
      Proceeds direction application last deployment [] deployment
  | visited (last : Option Position) (deployment : Deployment σ) (position : Position)
      (id : DefinitionId) (names : List String) (final : Deployment σ)
      (next : (deployment.definitions.read application).IsNext last position)
      (here : application.at? position = some id)
      (rest : Proceeds direction application (some position)
        (deployment.visit direction application.name id).2 names final) :
      Proceeds direction application last deployment
        (if (deployment.visit direction application.name id).1 then
          deployment.nameOf id :: names else names)
        final

section Proceeding

variable {direction : Direction} {application : Application DefinitionId}
  {visited rest : List Position}

omit [NamingService σ Payload] in
theorem isDone_read_iff (deployment : Deployment σ)
    (split : application.positions = visited ++ rest) :
    (deployment.definitions.read application).IsDone visited.getLast? ↔ rest = [] := by
  apply Application.isDone_iff
  rw [Definitions.read, Application.positions_map, split]

omit [NamingService σ Payload] in
theorem isNext_read_iff (deployment : Deployment σ)
    (split : application.positions = visited ++ rest) (position : Position) :
    (deployment.definitions.read application).IsNext visited.getLast? position ↔
      rest.head? = some position := by
  apply Application.isNext_iff
  rw [Definitions.read, Application.positions_map, split]

/-- From any position on, the definitions at the remaining positions are visited, whatever
was written to the definitions before. -/
theorem proceeds_iff {ids : List DefinitionId}
    (split : application.positions = visited ++ rest)
    (stand : rest.map application.at? = ids.map some) (deployment : Deployment σ)
    (names : List String) (final : Deployment σ) :
    Proceeds direction application visited.getLast? deployment names final ↔
      (names, final) = visitEach direction application.name ids deployment := by
  induction rest generalizing visited ids deployment names with
  | nil =>
      cases ids with
      | cons id others => cases stand
      | nil =>
          rw [visitEach_nil, Prod.mk.injEq]
          constructor
          · intro proceeds
            cases proceeds with
            | finished => exact ⟨rfl, rfl⟩
            | visited _ _ position id names _ next =>
                cases (isNext_read_iff deployment split position).mp next
          · rintro ⟨rfl, rfl⟩
            exact .finished _ _ ((isDone_read_iff _ split).mpr rfl)
  | cons position remaining ih =>
      cases ids with
      | nil => cases stand
      | cons id others =>
          rw [List.map_cons, List.map_cons, List.cons.injEq] at stand
          have further : application.positions = (visited ++ [position]) ++ remaining := by
            rw [split, List.append_assoc, List.singleton_append]
          have later := fun names =>
            ih further stand.2 (deployment.visit direction application.name id).2 names
          rw [List.getLast?_concat] at later
          rw [visitEach_cons]
          constructor
          · intro proceeds
            cases proceeds with
            | finished _ _ done => cases (isDone_read_iff _ split).mp done
            | visited _ _ found other names _ next here rest =>
                cases (isNext_read_iff _ split found).mp next
                cases stand.1.symm.trans here
                rw [← (later names).mp rest]
          · intro same
            cases same
            exact .visited _ _ position id _ _
              ((isNext_read_iff deployment split position).mpr rfl) stand.1 ((later _).mpr rfl)

/-- Looking for the next position on the way comes to the same as looking for all of them
beforehand. -/
theorem proceeds_iff_visitAll (direction : Direction) (application : Application DefinitionId)
    (deployment : Deployment σ) (names : List String) (final : Deployment σ) :
    Proceeds direction application none deployment names final ↔
      (names, final) = deployment.visitAll direction application := by
  have split : application.positions = [] ++ application.positions := rfl
  rw [visitAll_eq]
  exact proceeds_iff split application.map_positions deployment names final

end Proceeding

end Deployment

end ServerResources
