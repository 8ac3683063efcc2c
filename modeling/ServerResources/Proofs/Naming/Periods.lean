import Mathlib.Data.List.Induction
import ServerResources.Naming.NameServer
import ServerResources.Proofs.LastByKey

/-!
# Bound periods

A name server is visited again and again, and before every visit its outage may change in
any way.  What is bound in the end follows from the requests that were granted: a key has
the payload of the last request about it, if that one bound it.  A refused request leaves
no trace.

The order of the keys follows from when they were bound.  The present period of a key is
the longest time up to now in which it was bound throughout.  The keys are in the order in
which their present periods began, so a key that is bound again keeps its place, and a key
that is unbound and bound again goes to the end.
-/

namespace ServerResources

variable {π : Type}

namespace NameServer

/-- What a name server is asked to do. -/
inductive Request (π : Type) where
  | bind (key : BindingKey) (payload : π) (again : Bool)
  | unbind (key : BindingKey)

namespace Request

/-- The key that a request is about. -/
def key : Request π → BindingKey
  | bind key _ _ => key
  | unbind key => key

end Request

/-- A request with the outage that it meets. -/
structure Visit (π : Type) where
  outage : Outage
  request : Request π

/-- Answers a request in its outage. -/
def answer (server : NameServer π) (visit : Visit π) :
    Except NamingError Unit × NameServer π :=
  let met : NameServer π := { server with outage := visit.outage }
  match visit.request with
  | .bind key payload again => met.bind key payload again
  | .unbind key => met.unbind key

/-- The server after some visits. -/
def after (server : NameServer π) (visits : List (Visit π)) : NameServer π :=
  visits.foldl (fun current visit => (current.answer visit).2) server

/-- The request of a visit, if the result says that it was granted. -/
def Visit.granted (visit : Visit π) : Except NamingError Unit → List (Request π)
  | .ok _ => [visit.request]
  | .error _ => []

/-- The granted requests among those of some visits. -/
def granted (server : NameServer π) : List (Visit π) → List (Request π)
  | [] => []
  | visit :: rest =>
      visit.granted (server.answer visit).1 ++ (server.answer visit).2.granted rest

theorem after_snoc (server : NameServer π) (visits : List (Visit π)) (visit : Visit π) :
    server.after (visits ++ [visit]) = ((server.after visits).answer visit).2 :=
  List.foldl_append

theorem granted_snoc (server : NameServer π) (visits : List (Visit π)) (visit : Visit π) :
    server.granted (visits ++ [visit]) =
      server.granted visits ++ visit.granted ((server.after visits).answer visit).1 := by
  induction visits generalizing server with
  | nil => exact List.append_nil _
  | cons first rest ih =>
      rw [List.cons_append, granted, granted, ih, List.append_assoc]
      rfl

/-! ## One visit -/

/-- Why a visit is refused. -/
inductive Refuses (directory : Directory π) : Visit π → NamingError → Prop where
  | cannotBind {outage : Outage} {key : BindingKey} {payload : π} {again : Bool}
      (down : outage.bind key.name = true) :
      Refuses directory ⟨outage, .bind key payload again⟩ (.cannotBind key.name)
  | alreadyBound {outage : Outage} {key : BindingKey} {payload : π}
      (inService : outage.bind key.name = false) (bound : key ∈ directory.keys) :
      Refuses directory ⟨outage, .bind key payload false⟩ (.alreadyBound key)
  | cannotUnbind {outage : Outage} {key : BindingKey}
      (down : outage.unbind key.name = true) :
      Refuses directory ⟨outage, .unbind key⟩ (.cannotUnbind key.name)
  | notBound {outage : Outage} {key : BindingKey}
      (inService : outage.unbind key.name = false) (free : key ∉ directory.keys) :
      Refuses directory ⟨outage, .unbind key⟩ (.notBound key)

/-- What a visit comes to. -/
inductive Answers (directory : Directory π) :
    Visit π → Except NamingError Unit → Directory π → Prop where
  | refused {visit : Visit π} {cause : NamingError} (reason : Refuses directory visit cause) :
      Answers directory visit (.error cause) directory
  | bound {outage : Outage} {key : BindingKey} {payload : π} {again : Bool}
      {next : Directory π} (inService : outage.bind key.name = false)
      (success : directory.bind key payload again = .ok next) :
      Answers directory ⟨outage, .bind key payload again⟩ (.ok ()) next
  | unbound {outage : Outage} {key : BindingKey} {next : Directory π}
      (inService : outage.unbind key.name = false) (success : directory.unbind key = .ok next) :
      Answers directory ⟨outage, .unbind key⟩ (.ok ()) next

theorem answer_answers (server : NameServer π) (visit : Visit π) :
    Answers server.directory visit (server.answer visit).1 (server.answer visit).2.directory := by
  rcases visit with ⟨outage, ⟨key, payload, again⟩ | ⟨key⟩⟩
  case bind =>
    cases down : outage.bind key.name with
    | true =>
        simp only [answer, bind, down, if_true]
        exact .refused (.cannotBind down)
    | false =>
        simp only [answer, bind, down, Bool.false_eq_true, if_false]
        cases taken : server.directory.bind key payload again with
        | error cause =>
            obtain ⟨⟨rfl, present⟩, rfl⟩ :=
              (server.directory.bind_eq_error_iff key payload again cause).mp taken
            exact .refused (.alreadyBound down present)
        | ok next => exact .bound down taken
  case unbind =>
    cases down : outage.unbind key.name with
    | true =>
        simp only [answer, unbind, down, if_true]
        exact .refused (.cannotUnbind down)
    | false =>
        simp only [answer, unbind, down, Bool.false_eq_true, if_false]
        cases taken : server.directory.unbind key with
        | error cause =>
            obtain ⟨free, rfl⟩ := (server.directory.unbind_eq_error_iff key cause).mp taken
            exact .refused (.notBound down free)
        | ok next => exact .unbound down taken

section OneVisit

variable {directory next : Directory π} {visit : Visit π} {result : Except NamingError Unit}

/-- There is never more than one reason. -/
theorem Refuses.unique {cause other : NamingError} (reason : Refuses directory visit cause)
    (otherReason : Refuses directory visit other) : cause = other := by
  cases reason <;> cases otherReason <;> simp_all

/-- A visit is refused exactly for a reason. -/
theorem Answers.eq_error_iff (answers : Answers directory visit result next)
    (cause : NamingError) : result = .error cause ↔ Refuses directory visit cause := by
  cases answers with
  | refused reason =>
      constructor
      · intro same
        cases same
        exact reason
      · intro otherReason
        rw [reason.unique otherReason]
  | bound inService success =>
      constructor
      · intro same
        cases same
      · intro reason
        cases reason with
        | cannotBind down => simp [inService] at down
        | alreadyBound _ present =>
            rw [(directory.bind_eq_error_iff _ _ _ _).mpr ⟨⟨rfl, present⟩, rfl⟩] at success
            cases success
  | unbound inService success =>
      constructor
      · intro same
        cases same
      · intro reason
        cases reason with
        | cannotUnbind down => simp [inService] at down
        | notBound _ free =>
            rw [(directory.unbind_eq_error_iff _ _).mpr ⟨free, rfl⟩] at success
            cases success

/-- A refused visit changes nothing. -/
theorem Answers.directory_eq (answers : Answers directory visit result next)
    {cause : NamingError} (refused : result = .error cause) : next = directory := by
  cases answers with
  | refused reason => rfl
  | bound => cases refused
  | unbound => cases refused

/-- A visit leaves every other key its payload. -/
theorem Answers.lookup_of_ne (answers : Answers directory visit result next)
    {key : BindingKey} (different : key ≠ visit.request.key) :
    next.lookup key = directory.lookup key := by
  cases answers with
  | refused reason => rfl
  | bound _ success => exact (Directory.lookup_of_bind success key).trans (if_neg different)
  | unbound _ success => exact (Directory.lookup_of_unbind success key).trans (if_neg different)

/-- A visit leaves the other keys their order. -/
theorem Answers.others_eq (answers : Answers directory visit result next) :
    (next.keys.filter fun key => decide (key ≠ visit.request.key)) =
      directory.keys.filter fun key => decide (key ≠ visit.request.key) := by
  cases answers with
  | refused reason => rfl
  | bound _ success =>
      rw [Directory.keys_of_bind success]
      split
      next => rfl
      next => simp [Request.key]
  | unbound _ success =>
      rw [Directory.keys_of_unbind success]
      exact List.filter_eq_self.mpr fun key member => (List.mem_filter.mp member).2

theorem Answers.keys_of_rebound {outage : Outage} {key : BindingKey} {payload : π}
    {again : Bool} (answers : Answers directory ⟨outage, .bind key payload again⟩ result next)
    (present : key ∈ directory.keys) : next.keys = directory.keys := by
  cases answers with
  | refused reason => rfl
  | bound _ success => rw [Directory.keys_of_bind success, if_pos present]

theorem Answers.keys_of_unbound {outage : Outage} {key : BindingKey}
    (answers : Answers directory ⟨outage, .unbind key⟩ (.ok ()) next) :
    next.keys = directory.keys.filter fun other => decide (other ≠ key) := by
  cases answers with
  | unbound _ success => exact Directory.keys_of_unbind success

theorem Answers.keys_of_bound {outage : Outage} {key : BindingKey} {payload : π}
    {again : Bool} (answers : Answers directory ⟨outage, .bind key payload again⟩ (.ok ()) next)
    (free : key ∉ directory.keys) : next.keys = directory.keys ++ [key] := by
  cases answers with
  | bound _ success => rw [Directory.keys_of_bind success, if_neg free]

/-- Keys go away, or a new one goes to the end. -/
theorem Answers.keys_change (answers : Answers directory visit result next) :
    next.keys.Sublist directory.keys ∨
      ∃ key, key ∉ directory.keys ∧ next.keys = directory.keys ++ [key] := by
  cases answers with
  | refused reason => exact .inl (List.Sublist.refl _)
  | bound _ success =>
      rw [Directory.keys_of_bind success]
      split
      next => exact .inl (List.Sublist.refl _)
      next free => exact .inr ⟨_, free, rfl⟩
  | unbound _ success =>
      rw [Directory.keys_of_unbind success]
      exact .inl List.filter_sublist

/-- The payloads of a directory are those of the last requests. -/
def Contains (directory : Directory π) (requests : List (Request π)) : Prop :=
  ∀ key payload, directory.lookup key = some payload ↔
    ∃ again, IsLastBy Request.key requests (.bind key payload again)

theorem Answers.contains (answers : Answers directory visit result next)
    {requests : List (Request π)} (contains : Contains directory requests) :
    Contains next (requests ++ visit.granted result) := by
  intro other value
  have before := contains other value
  cases answers with
  | refused reason =>
      rw [Visit.granted, List.append_nil]
      exact before
  | @bound outage key payload again next inService success =>
      simp only [Visit.granted, isLastBy_snoc_iff, Request.bind.injEq, Request.key]
      rw [Directory.lookup_of_bind success]
      by_cases same : other = key
      · simp [same, eq_comm]
      · have away : key ≠ other := fun equal => same equal.symm
        simpa [same, away] using before
  | @unbound outage key next inService success =>
      simp only [Visit.granted, isLastBy_snoc_iff, reduceCtorEq, false_or, Request.key]
      rw [Directory.lookup_of_unbind success]
      by_cases same : other = key
      · simp [same]
      · have away : key ≠ other := fun equal => same equal.symm
        simpa [same, away] using before

end OneVisit

/-! ## Periods -/

/-- A key is bound without a break since a visit, counted from the first: it was not bound
before that visit, and it is bound after it and after every later one. -/
structure BoundSince (visits : List (Visit π)) (key : BindingKey) (first : Nat) : Prop where
  inRun : first < visits.length
  before : key ∉ (start.after (visits.take first)).directory.keys
  since : ∀ count, first < count → count ≤ visits.length →
    key ∈ (start.after (visits.take count)).directory.keys

namespace BoundSince

variable {visits : List (Visit π)} {visit : Visit π} {key : BindingKey} {first other : Nat}

/-- A period does not begin while another one lasts. -/
theorem le (since : BoundSince visits key first) (otherSince : BoundSince visits key other) :
    other ≤ first := by
  apply Nat.le_of_not_lt
  intro later
  exact otherSince.before (since.since other later (Nat.le_of_lt otherSince.inRun))

theorem unique (since : BoundSince visits key first)
    (otherSince : BoundSince visits key other) : other = first :=
  Nat.le_antisymm (since.le otherSince) (otherSince.le since)

/-- A period goes on while the key stays bound. -/
theorem snoc (since : BoundSince visits key first)
    (bound : key ∈ (start.after (visits ++ [visit])).directory.keys) :
    BoundSince (visits ++ [visit]) key first where
  inRun := by
    rw [List.length_append]
    exact Nat.lt_add_right 1 since.inRun
  before := by
    rw [List.take_append_of_le_length (Nat.le_of_lt since.inRun)]
    exact since.before
  since := by
    intro count later within
    by_cases last : count ≤ visits.length
    · rw [List.take_append_of_le_length last]
      exact since.since count later last
    · rw [List.take_of_length_le (by simp at within ⊢; omega)]
      exact bound

/-- A period begins with the visit after which the key is bound for the first time. -/
theorem begin (free : key ∉ (start.after visits).directory.keys)
    (bound : key ∈ (start.after (visits ++ [visit])).directory.keys) :
    BoundSince (visits ++ [visit]) key visits.length where
  inRun := by simp
  before := by
    rw [List.take_left]
    exact free
  since := by
    intro count later within
    rw [List.take_of_length_le (by simp at within ⊢; omega)]
    exact bound

/-- A key that was bound already has been so since before the last visit. -/
theorem of_snoc (since : BoundSince (visits ++ [visit]) key first)
    (bound : key ∈ (start.after visits).directory.keys) : BoundSince visits key first := by
  have earlier : first < visits.length := by
    apply Nat.lt_of_le_of_ne
    · exact Nat.le_of_lt_succ (by simpa using since.inRun)
    · rintro rfl
      have free := since.before
      rw [List.take_left] at free
      exact free bound
  constructor
  case inRun => exact earlier
  case before =>
    have free := since.before
    rw [List.take_append_of_le_length (Nat.le_of_lt earlier)] at free
    exact free
  case since =>
    intro count later within
    have still := since.since count later (by simp; omega)
    rw [List.take_append_of_le_length within] at still
    exact still

end BoundSince

/-- One key has been bound for longer than another one. -/
def Longer (visits : List (Visit π)) (key other : BindingKey) : Prop :=
  ∀ first second, BoundSince visits key first → BoundSince visits other second → first < second

theorem exists_boundSince (visits : List (Visit π)) {key : BindingKey}
    (bound : key ∈ (start.after visits).directory.keys) :
    ∃ first, BoundSince visits key first := by
  induction visits using List.reverseRecOn with
  | nil => cases bound
  | append_singleton visits visit ih =>
      by_cases already : key ∈ (start.after visits).directory.keys
      · rcases ih already with ⟨first, since⟩
        exact ⟨first, since.snoc bound⟩
      · exact ⟨visits.length, .begin already bound⟩

theorem longer_snoc {visits : List (Visit π)} {visit : Visit π} {key other : BindingKey}
    (keyBound : key ∈ (start.after visits).directory.keys)
    (otherBound : other ∈ (start.after visits).directory.keys)
    (longer : Longer visits key other) : Longer (visits ++ [visit]) key other := by
  intro first second since otherSince
  exact longer first second (since.of_snoc keyBound) (otherSince.of_snoc otherBound)

theorem pairwise_longer (visits : List (Visit π)) :
    (start.after visits).directory.keys.Pairwise (Longer visits) := by
  induction visits using List.reverseRecOn with
  | nil => exact .nil
  | append_singleton visits visit ih =>
      have before : (start.after visits).directory.keys.Pairwise
          (Longer (visits ++ [visit])) := ih.imp_of_mem longer_snoc
      have change := (answer_answers (start.after visits) visit).keys_change
      rw [← after_snoc] at change
      rcases change with fewer | ⟨newest, free, keys⟩
      · exact before.sublist fewer
      · have bound : newest ∈ (start.after (visits ++ [visit])).directory.keys := by
          rw [keys]
          exact List.mem_append_right _ List.mem_cons_self
        rw [keys, List.pairwise_append]
        refine ⟨before, List.pairwise_singleton _ _, ?_⟩
        intro key keyBound other member first second since otherSince
        rw [List.mem_singleton.mp member] at otherSince
        rw [(BoundSince.begin free bound).unique otherSince]
        exact (since.of_snoc keyBound).inRun

/-! ## Whole runs -/

theorem contains_after (visits : List (Visit π)) :
    Contains (start.after visits).directory (start.granted visits) := by
  induction visits using List.reverseRecOn with
  | nil =>
      intro key payload
      constructor
      · intro found
        cases found
      · rintro ⟨again, last⟩
        exact (not_isLastBy_nil _ _ last).elim
  | append_singleton visits visit ih =>
      rw [after_snoc, granted_snoc]
      exact (answer_answers _ visit).contains ih

/-- How the bindings of a server follow from the visits that led to it, and what one more
visit does to them. -/
structure FollowsVisits (visits : List (Visit π)) (server : NameServer π) : Prop where
  /-- A key is bound if the last granted request about it was one to bind it. -/
  bound_iff : ∀ key, server.directory.isBound key = true ↔
    ∃ payload again, IsLastBy Request.key (start.granted visits) (.bind key payload again)
  /-- Its payload is the one of that request. -/
  lookup_iff : ∀ key payload, server.directory.lookup key = some payload ↔
    ∃ again, IsLastBy Request.key (start.granted visits) (.bind key payload again)
  /-- Every bound key is listed, once. -/
  mem_keys_iff : ∀ key, key ∈ server.directory.keys ↔ server.directory.isBound key = true
  nodup_keys : server.directory.keys.Nodup
  /-- Every bound key is in its present period since one visit. -/
  period : ∀ key ∈ server.directory.keys,
    ∃ first, BoundSince visits key first ∧ ∀ other, BoundSince visits key other → other = first
  /-- The order of the keys is that of these visits. -/
  ordered : server.directory.keys.Pairwise (Longer visits)
  /-- A visit is refused during an outage of its name; so is binding once more what is not
  to be bound again, and unbinding what is not bound. -/
  refused_iff : ∀ visit cause,
    (server.answer visit).1 = .error cause ↔ Refuses server.directory visit cause
  /-- A refused visit leaves the keys, their payloads and their order as they are. -/
  unchanged : ∀ visit cause, (server.answer visit).1 = .error cause →
    (server.answer visit).2.directory = server.directory
  /-- A bound key that is bound again keeps its place. -/
  rebound : ∀ outage key payload again, key ∈ server.directory.keys →
    (server.answer ⟨outage, .bind key payload again⟩).2.directory.keys = server.directory.keys
  /-- A key that is unbound and bound again goes to the end. -/
  moved : ∀ outage laterOutage key payload again,
    let unbound := server.answer ⟨outage, .unbind key⟩
    let bound := unbound.2.answer ⟨laterOutage, .bind key payload again⟩
    unbound.1 = .ok () → bound.1 = .ok () →
      bound.2.directory.keys =
        (server.directory.keys.filter fun other => decide (other ≠ key)) ++ [key]
  /-- A visit affects no other key: neither whether it is bound nor its payload nor the
  order of such keys. -/
  elsewhere : ∀ visit key, key ≠ visit.request.key →
    (server.answer visit).2.directory.lookup key = server.directory.lookup key ∧
    (server.answer visit).2.directory.isBound key = server.directory.isBound key
  elsewhere_order : ∀ visit,
    ((server.answer visit).2.directory.keys.filter fun key => decide (key ≠ visit.request.key)) =
      server.directory.keys.filter fun key => decide (key ≠ visit.request.key)

/-- In any run of visits and outages, what is bound is what was bound by the last granted
request about its key, in the order in which the present periods of the keys began. -/
theorem bindings_follow_visits (visits : List (Visit π)) :
    FollowsVisits visits (start.after visits) where
  bound_iff := by
    intro key
    have isBound_eq : (start.after visits).directory.isBound key =
        ((start.after visits).directory.lookup key).isSome := rfl
    rw [isBound_eq, Option.isSome_iff_exists]
    exact exists_congr fun payload => contains_after visits key payload
  lookup_iff := contains_after visits
  mem_keys_iff := by
    intro key
    exact ((start.after visits).directory.isBound_iff key).symm
  nodup_keys := (start.after visits).directory.nodup_keys
  period := by
    intro key bound
    rcases exists_boundSince visits bound with ⟨first, since⟩
    exact ⟨first, since, fun other otherSince => since.unique otherSince⟩
  ordered := pairwise_longer visits
  refused_iff := by
    intro visit cause
    exact (answer_answers _ visit).eq_error_iff cause
  unchanged := by
    intro visit cause refused
    exact (answer_answers _ visit).directory_eq refused
  rebound := by
    intro outage key payload again present
    exact (answer_answers _ ⟨outage, .bind key payload again⟩).keys_of_rebound present
  moved := by
    intro outage laterOutage key payload again unbound bound unboundGranted boundGranted
    have first := answer_answers (start.after visits) ⟨outage, .unbind key⟩
    have second := answer_answers unbound.2 ⟨laterOutage, .bind key payload again⟩
    rw [unboundGranted] at first
    rw [boundGranted] at second
    have keys := first.keys_of_unbound
    rw [second.keys_of_bound (by simp [unbound, keys]), keys]
  elsewhere := by
    intro visit key different
    have lookup_eq := (answer_answers (start.after visits) visit).lookup_of_ne different
    exact ⟨lookup_eq, congrArg Option.isSome lookup_eq⟩
  elsewhere_order := by
    intro visit
    exact (answer_answers _ visit).others_eq

/-- A key without an application and one with an empty application.  The first is unbound
and bound again; the second is bound again, and cannot be unbound. -/
def renewedMail : List (Visit String) :=
  let mail : BindingKey := { name := "mail" }
  let unnamed : BindingKey := { name := "mail", application := some "" }
  [ ⟨.none, .bind mail "first" false⟩,
    ⟨.none, .bind unnamed "other" false⟩,
    ⟨.none, .bind mail "refused" false⟩,
    ⟨.none, .bind unnamed "another" true⟩,
    ⟨.ofNames [] ["mail"], .unbind unnamed⟩,
    ⟨.none, .unbind mail⟩,
    ⟨.none, .bind mail "second" false⟩ ]

theorem bindings_follow_visits_renewed :
    let server := start.after renewedMail
    server.directory.keys =
      [{ name := "mail", application := some "" }, { name := "mail", application := none }] ∧
    (∃ again, IsLastBy Request.key (start.granted renewedMail)
      (.bind { name := "mail", application := some "" } "another" again)) ∧
    Longer renewedMail { name := "mail", application := some "" } { name := "mail" } ∧
    (server.answer ⟨.none, .bind { name := "mail" } "third" false⟩).1 =
      .error (.alreadyBound { name := "mail" }) := by
  intro server
  have follows := bindings_follow_visits renewedMail
  have keys : server.directory.keys =
      [{ name := "mail", application := some "" }, { name := "mail", application := none }] := by
    decide +kernel
  have payload : server.directory.lookup { name := "mail", application := some "" } =
      some "another" := by
    decide +kernel
  refine ⟨keys, ?_, ?_, ?_⟩
  · exact (follows.lookup_iff _ _).mp payload
  · have ordered := follows.ordered
    rw [show (start.after renewedMail).directory.keys = _ from keys] at ordered
    exact List.rel_of_pairwise_cons ordered List.mem_cons_self
  · apply (follows.refused_iff _ _).mpr
    apply Refuses.alreadyBound rfl
    rw [show (start.after renewedMail).directory.keys = _ from keys]
    exact List.mem_cons_of_mem _ List.mem_cons_self

end NameServer

end ServerResources
