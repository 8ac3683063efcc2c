import Mathlib.Data.List.Chain
import ServerResources.Proofs.Registrar.Alignment

/-!
# Watched naming services

Any naming service can be watched: it does what it did before, and every call to it is
written down with whether it was granted.  What a registrar asks of its service is then
part of the state, and nothing is known of the answers.

For each name of an application the granted publications and the attempted withdrawals
take turns, beginning with a publication, and the name is published exactly if the last
of them is a publication.  `Faithful` says so of a registrar, and every call keeps it.
-/

namespace ServerResources

/-- A call to a naming service, and whether it was granted. -/
inductive Attempt where
  | bind (key : BindingKey) (granted : Bool)
  | unbind (key : BindingKey) (granted : Bool)
  deriving DecidableEq, Repr

/-- What counts in the life of a key. -/
inductive Mark where
  | published
  | withdrawn
  deriving DecidableEq, Repr

namespace Attempt

/-- What an attempt means for a key.  Publishing counts only if it was granted,
withdrawing counts in any case. -/
def mark? (key : BindingKey) : Attempt → Option Mark
  | bind other granted => if other = key ∧ granted = true then some .published else none
  | unbind other _ => if other = key then some .withdrawn else none

/-- What some attempts mean for a key. -/
def marks (key : BindingKey) (attempts : List Attempt) : List Mark :=
  attempts.filterMap (mark? key)

/-- The key that an attempt bound. -/
def bound? : Attempt → Option BindingKey
  | bind key true => some key
  | _ => none

/-- The key that an attempt unbound. -/
def unbound? : Attempt → Option BindingKey
  | unbind key true => some key
  | _ => none

end Attempt

/-- Publications and withdrawals take turns, and the first is a publication. -/
structure Mark.Alternate (marks : List Mark) : Prop where
  first : marks.head? ≠ some .withdrawn
  turns : marks.IsChain fun earlier later => earlier ≠ later

/-- A naming service with the calls that were made to it. -/
structure Watched (σ : Type) where
  service : σ
  attempts : List Attempt

instance {σ π : Type} [NamingService σ π] : NamingService (Watched σ) π where
  bind watched key payload again :=
    let (answer, service) := NamingService.bind watched.service key payload again
    (answer, ⟨service, watched.attempts ++ [.bind key answer.isOk]⟩)
  unbind watched key :=
    let (answer, service) := NamingService.unbind watched.service key
    (answer, ⟨service, watched.attempts ++ [.unbind key answer.isOk]⟩)

theorem Mark.alternate_nil : Alternate [] where
  first := by simp
  turns := .nil

theorem Mark.Alternate.snoc {marks : List Mark} (alternate : Alternate marks) {mark : Mark}
    (turn : marks.getLast? = some .published ↔ mark = .withdrawn) :
    Alternate (marks ++ [mark]) where
  first := by
    cases marks with
    | nil =>
        have unpublished : ¬ ([] : List Mark).getLast? = some .published := by simp
        rw [turn] at unpublished
        simpa using unpublished
    | cons head rest => exact alternate.first
  turns := by
    rw [List.isChain_append]
    refine ⟨alternate.turns, .singleton mark, ?_⟩
    intro last isLast next isNext
    simp only [List.head?_cons, Option.mem_def, Option.some.injEq] at isNext
    rw [← isNext]
    rintro rfl
    cases last with
    | published => cases turn.mp isLast
    | withdrawn => cases isLast.symm.trans (turn.mpr rfl)

theorem Attempt.marks_append (key : BindingKey) (earlier later : List Attempt) :
    marks key (earlier ++ later) = marks key earlier ++ marks key later :=
  List.filterMap_append

namespace Registrar

variable {σ π : Type}

/-- The calls that a registrar made to its naming service. -/
def attempts (registrar : Registrar (Watched σ)) : List Attempt :=
  registrar.naming.attempts

/-- The outcomes of a call, by what the call is for: its result, the calls that it made
to the naming service and the names that are published after it. -/
inductive Asks (registrar : Registrar (Watched σ)) (application name : String) :
    Mark → Bool → List Attempt → OrderedMap (String × String) BindingKey → Prop where
  | nothing (purpose : Mark) : Asks registrar application name purpose false [] registrar.published
  | bind (granted : Bool) (unpublished : registrar.isPublished application name = false) :
      Asks registrar application name .published granted
        [.bind (bindingKey application name) granted]
        (if granted then
          registrar.published.insert (application, name) (bindingKey application name)
        else registrar.published)
  | unbind (granted : Bool) (key : BindingKey)
      (published : registrar.published.get? (application, name) = some key) :
      Asks registrar application name .withdrawn granted [.unbind key granted]
        (registrar.published.erase (application, name))

section Calls

variable [NamingService σ π] (registrar : Registrar (Watched σ)) (application name : String)

theorem register_asks (payload : π) :
    ∃ made, (registrar.register application name payload).2.attempts =
        registrar.attempts ++ made ∧
      Asks registrar application name .published
        (registrar.register application name payload).1 made
        (registrar.register application name payload).2.published := by
  cases published : registrar.isPublished application name with
  | true =>
      simp only [register, published, if_true]
      exact ⟨[], (List.append_nil _).symm, .nothing .published⟩
  | false =>
      cases shared : registrar.settings.isShared name with
      | false =>
          simp only [register, published, shared, Bool.false_eq_true, if_false]
          exact ⟨[], (List.append_nil _).symm, .nothing .published⟩
      | true =>
          simp only [register, published, shared, Bool.false_eq_true, if_false, if_true,
            NamingService.bind]
          rcases NamingService.bind registrar.naming.service (bindingKey application name)
            payload true with ⟨answer, service⟩
          cases answer with
          | ok granted => exact ⟨_, rfl, .bind true published⟩
          | error cause => exact ⟨_, rfl, .bind false published⟩

theorem unregister_asks :
    ∃ made, (registrar.unregister application name).2.attempts = registrar.attempts ++ made ∧
      Asks registrar application name .withdrawn
        (registrar.unregister application name).1 made
        (registrar.unregister application name).2.published := by
  cases published : registrar.published.get? (application, name) with
  | none =>
      simp only [unregister, published]
      exact ⟨[], (List.append_nil _).symm, .nothing .withdrawn⟩
  | some key =>
      simp only [unregister, published, NamingService.unbind]
      rcases NamingService.unbind registrar.naming.service key with ⟨answer, service⟩
      cases answer with
      | ok granted => exact ⟨_, rfl, .unbind true key published⟩
      | error cause => exact ⟨_, rfl, .unbind false key published⟩

end Calls

/-- What is published follows from the calls to the naming service, in which the
publications and the withdrawals of each name take turns. -/
structure Faithful (registrar : Registrar (Watched σ)) : Prop where
  keyed : ∀ application name key, registrar.published.get? (application, name) = some key →
    key = bindingKey application name
  alternate : ∀ application name,
    Mark.Alternate (Attempt.marks (bindingKey application name) registrar.attempts)
  published_iff : ∀ application name, registrar.isPublished application name = true ↔
    (Attempt.marks (bindingKey application name) registrar.attempts).getLast? = some .published

theorem faithful_start (settings : Settings) (service : σ) :
    (start settings (Watched.mk service [])).Faithful where
  keyed := by
    intro application name key found
    cases found
  alternate := fun _ _ => Mark.alternate_nil
  published_iff := by
    intro application name
    simp [start, isPublished, attempts, Attempt.marks, OrderedMap.contains]

variable {registrar after : Registrar (Watched σ)} {application name : String}
  {purpose : Mark} {result : Bool} {made : List Attempt}
  {published : OrderedMap (String × String) BindingKey}

/-- A name that some further calls do not concern keeps its state; a name that they mark
once takes the state of the mark, which it did not have. -/
theorem Faithful.extend (faithful : registrar.Faithful)
    (keyed : ∀ application name key, after.published.get? (application, name) = some key →
      key = bindingKey application name)
    (extended : after.attempts = registrar.attempts ++ made)
    (each : ∀ application name,
      (Attempt.marks (bindingKey application name) made = [] ∧
        after.isPublished application name = registrar.isPublished application name) ∨
      ∃ mark, Attempt.marks (bindingKey application name) made = [mark] ∧
        (registrar.isPublished application name = true ↔ mark = .withdrawn) ∧
        (after.isPublished application name = true ↔ mark = .published)) :
    after.Faithful where
  keyed := keyed
  alternate := by
    intro owner other
    rw [extended, Attempt.marks_append]
    rcases each owner other with ⟨none, -⟩ | ⟨mark, once, before, -⟩
    · rw [none, List.append_nil]
      exact faithful.alternate owner other
    · rw [once]
      exact (faithful.alternate owner other).snoc
        ((faithful.published_iff owner other).symm.trans before)
  published_iff := by
    intro owner other
    rw [extended, Attempt.marks_append]
    rcases each owner other with ⟨none, same⟩ | ⟨mark, once, -, now⟩
    · rw [none, List.append_nil, same]
      exact faithful.published_iff owner other
    · rw [once, now]
      simp

theorem Asks.faithful (asks : Asks registrar application name purpose result made published)
    (faithful : registrar.Faithful) (extended : after.attempts = registrar.attempts ++ made)
    (names : after.published = published) : after.Faithful := by
  -- Any other name of any application has another key, so that no call is about it.
  have elsewhere : ∀ owner other, ¬ (owner, other) = (application, name) →
      ¬ bindingKey application name = bindingKey owner other := by
    intro owner other away same
    exact bindingKey_ne away same.symm
  cases asks with
  | nothing =>
      refine faithful.extend ?_ extended ?_
      · rw [names]
        exact faithful.keyed
      · intro owner other
        exact .inl ⟨rfl, by rw [isPublished, isPublished, names]⟩
  | bind _ unpublished =>
      cases result with
      | false =>
          refine faithful.extend ?_ extended ?_
          · rw [names]
            exact faithful.keyed
          · intro owner other
            exact .inl ⟨by simp [Attempt.marks, Attempt.mark?],
              by rw [isPublished, isPublished, names]; rfl⟩
      | true =>
          refine faithful.extend ?_ extended ?_
          · intro owner other key found
            rw [names, if_pos rfl, OrderedMap.get?_insert] at found
            split at found
            next same =>
              cases same
              exact (Option.some.inj found).symm
            next => exact faithful.keyed owner other key found
          · intro owner other
            rw [isPublished, names, if_pos rfl, OrderedMap.contains, OrderedMap.get?_insert]
            by_cases here : (owner, other) = (application, name)
            · cases here
              exact .inr ⟨.published, by simp [Attempt.marks, Attempt.mark?],
                by simp [unpublished], by simp⟩
            · rw [if_neg here]
              exact .inl ⟨by simp [Attempt.marks, Attempt.mark?, elsewhere owner other here], rfl⟩
  | unbind granted key found =>
      have own := faithful.keyed application name key found
      refine faithful.extend ?_ extended ?_
      · intro owner other otherKey kept
        rw [names, OrderedMap.get?_erase] at kept
        split at kept
        next => cases kept
        next => exact faithful.keyed owner other otherKey kept
      · intro owner other
        rw [isPublished, isPublished, names, OrderedMap.contains, OrderedMap.contains,
          OrderedMap.get?_erase]
        by_cases here : (owner, other) = (application, name)
        · cases here
          exact .inr ⟨.withdrawn, by simp [Attempt.marks, Attempt.mark?, own],
            by simp [found], by simp⟩
        · rw [if_neg here]
          exact .inl ⟨by simp [Attempt.marks, Attempt.mark?, own, elsewhere owner other here],
            rfl⟩

/-- A call that publishes is granted exactly if it bound its key. -/
theorem Asks.result_iff_bound
    (asks : Asks registrar application name .published result made published) :
    result = true ↔ made = [.bind (bindingKey application name) true] := by
  cases asks with
  | nothing => simp
  | bind granted => simp

/-- A call that withdraws is granted exactly if it unbound its key. -/
theorem Asks.result_iff_unbound
    (asks : Asks registrar application name .withdrawn result made published)
    (faithful : registrar.Faithful) :
    result = true ↔ made = [.unbind (bindingKey application name) true] := by
  cases asks with
  | nothing => simp
  | unbind granted key found =>
      rw [faithful.keyed application name key found]
      simp

/-- The keys that a call binds: its own if it is granted. -/
theorem Asks.bound_eq
    (asks : Asks registrar application name .published result made published) :
    made.filterMap Attempt.bound? =
      if result then [bindingKey application name] else [] := by
  cases asks with
  | nothing => rfl
  | bind => cases result <;> rfl

/-- The keys that a call unbinds: its own if it is granted. -/
theorem Asks.unbound_eq
    (asks : Asks registrar application name .withdrawn result made published)
    (faithful : registrar.Faithful) :
    made.filterMap Attempt.unbound? =
      if result then [bindingKey application name] else [] := by
  cases asks with
  | nothing => rfl
  | unbind _ key found =>
      rw [faithful.keyed application name key found]
      cases result <;> rfl

/-! ## Watching changes nothing -/

/-- The registrar with its naming service unwatched. -/
def unwatched (registrar : Registrar (Watched σ)) : Registrar σ :=
  { registrar with naming := registrar.naming.service }

section Unwatched

variable [NamingService σ π] (registrar : Registrar (Watched σ)) (application name : String)

theorem register_unwatched (payload : π) :
    registrar.unwatched.register application name payload =
      ((registrar.register application name payload).1,
        (registrar.register application name payload).2.unwatched) := by
  have published : registrar.unwatched.isPublished application name =
      registrar.isPublished application name := rfl
  have settings : registrar.unwatched.settings = registrar.settings := rfl
  have naming : registrar.unwatched.naming = registrar.naming.service := rfl
  simp only [register, published, settings, naming]
  split
  next => rfl
  next =>
      split
      next =>
          simp only [NamingService.bind]
          rcases NamingService.bind registrar.naming.service (bindingKey application name)
            payload true with ⟨answer, service⟩
          cases answer <;> rfl
      next => rfl

theorem unregister_unwatched :
    registrar.unwatched.unregister application name =
      ((registrar.unregister application name).1,
        (registrar.unregister application name).2.unwatched) := by
  have published : registrar.unwatched.published = registrar.published := rfl
  have naming : registrar.unwatched.naming = registrar.naming.service := rfl
  simp only [unregister, published, naming]
  cases registrar.published.get? (application, name) with
  | none => rfl
  | some key =>
      simp only [NamingService.unbind]
      rcases NamingService.unbind registrar.naming.service key with ⟨answer, service⟩
      cases answer <;> rfl

end Unwatched

end Registrar

end ServerResources
