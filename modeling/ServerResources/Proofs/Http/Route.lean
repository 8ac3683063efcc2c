import ServerResources.Http.Route

/-!
# Names in paths

A name without a slash is one segment of the path that it stands in, so that the path of
a descriptor leads to the descriptor, whatever else is in its name.  A name that is empty
or has a slash in it stands in no path: whatever descriptor a path leads to, its name is
a segment.
-/

namespace ServerResources.Http

theorem segments_ne_nil (path : List Char) : segments path ≠ [] := by
  cases path with
  | nil => simp [segments]
  | cons character rest =>
      rw [segments]
      split
      next => simp
      next => split <;> simp

theorem segments_slash (rest : List Char) : segments ('/' :: rest) = [] :: segments rest := by
  obtain ⟨head, tail, split⟩ := List.exists_cons_of_ne_nil (segments_ne_nil rest)
  rw [segments, split]
  simp

theorem segments_cons {character : Char} (other : character ≠ '/') {rest head : List Char}
    {tail : List (List Char)} (split : segments rest = head :: tail) :
    segments (character :: rest) = (character :: head) :: tail := by
  rw [segments, split]
  simp [other]

/-- What has no slash is one segment. -/
theorem segments_of_slashless {word : List Char} (slashless : '/' ∉ word) :
    segments word = [word] := by
  induction word with
  | nil => rfl
  | cons character rest ih =>
      rw [List.mem_cons, not_or] at slashless
      exact segments_cons (Ne.symm slashless.1) (ih slashless.2)

/-- A first segment ends at a slash. -/
theorem segments_append {word : List Char} (slashless : '/' ∉ word) (rest : List Char) :
    segments (word ++ '/' :: rest) = word :: segments rest := by
  induction word with
  | nil => exact segments_slash rest
  | cons character word ih =>
      rw [List.mem_cons, not_or] at slashless
      exact segments_cons (Ne.symm slashless.1) (ih slashless.2)

/-- Whether a name can stand in a path, as one segment of it. -/
def IsSegment (name : String) : Prop :=
  name ≠ "" ∧ '/' ∉ name.toList

instance (name : String) : Decidable (IsSegment name) :=
  inferInstanceAs (Decidable (_ ∧ _))

/-- A segment of a path ends where the next slash is. -/
theorem slashless_of_mem_segments {path part : List Char} (member : part ∈ segments path) :
    '/' ∉ part := by
  induction path generalizing part with
  | nil =>
      rw [segments, List.mem_singleton] at member
      simp [member]
  | cons character rest ih =>
      by_cases slash : character = '/'
      · rw [slash, segments_slash, List.mem_cons] at member
        rcases member with rfl | later
        · simp
        · exact ih later
      · obtain ⟨head, tail, split⟩ := List.exists_cons_of_ne_nil (segments_ne_nil rest)
        rw [segments_cons slash split, List.mem_cons] at member
        rcases member with rfl | later
        · have headSlashless : '/' ∉ head := ih (by rw [split]; exact List.mem_cons_self)
          rw [List.mem_cons, not_or]
          exact ⟨Ne.symm slash, headSlashless⟩
        · exact ih (by rw [split]; exact List.mem_cons_of_mem head later)

namespace Route

theorem ofPath?_member (collection : String) {name : String}
    (collectionSlashless : '/' ∉ collection.toList) (slashless : '/' ∉ name.toList) :
    ofPath? ("/" ++ collection ++ "/" ++ name) = ofSegments? ["", collection, name] := by
  have characters : ("/" ++ collection ++ "/" ++ name).toList =
      [] ++ '/' :: (collection.toList ++ '/' :: name.toList) := by
    simp
  rw [ofPath?, characters, segments_append (by simp), segments_append collectionSlashless,
    segments_of_slashless slashless]
  simp

theorem ofPath?_application {name : String} (nonempty : name ≠ "") (slashless : '/' ∉ name.toList) :
    ofPath? ("/applications/" ++ name) = some (.application name) := by
  refine (ofPath?_member "applications" (by decide) slashless).trans ?_
  simp [ofSegments?, nonempty]

theorem ofPath?_connector {name : String} (nonempty : name ≠ "") (slashless : '/' ∉ name.toList) :
    ofPath? ("/connectors/" ++ name) = some (.connector name) := by
  refine (ofPath?_member "connectors" (by decide) slashless).trans ?_
  simp [ofSegments?, nonempty]

/-! ## The names in paths -/

/-- The name of the descriptor that a resource is. -/
def descriptor? : Route → Option String
  | .connector name => some name
  | .application name => some name
  | _ => none

theorem descriptor?_of_ofWord? {word : String} {route : Route}
    (read : ofWord? word = some route) : route.descriptor? = none := by
  unfold ofWord? at read
  split at read
  all_goals cases read
  all_goals rfl

/-- A descriptor is named by a part of the path that is not empty. -/
theorem mem_of_ofSegments? {parts : List String} {route : Route} {name : String}
    (read : ofSegments? parts = some route) (named : route.descriptor? = some name) :
    name ≠ "" ∧ name ∈ parts := by
  unfold ofSegments? at read
  split at read
  next word =>
      rw [descriptor?_of_ofWord? read] at named
      cases named
  next collection part =>
      split at read
      next =>
          split at read
          next =>
              cases read
              cases named
          next => cases read
      next =>
          split at read
          next => cases read
          next nonempty =>
              have same : part = name := by
                split at read
                next =>
                    cases read
                    exact Option.some.inj named
                next =>
                    split at read
                    next =>
                        cases read
                        exact Option.some.inj named
                    next => cases read
              rw [← same]
              exact ⟨nonempty, by simp⟩
  next =>
      split at read
      next =>
          cases read
          cases named
      next => cases read
  next =>
      split at read
      next =>
          obtain ⟨question, -, rfl⟩ := Option.map_eq_some_iff.mp read
          cases named
      next => cases read
  next => cases read

/-- A descriptor that a path names has a name that can stand in a path. -/
theorem isSegment_of_ofPath? {path name : String} {route : Route}
    (read : ofPath? path = some route) (named : route.descriptor? = some name) :
    IsSegment name := by
  obtain ⟨nonempty, member⟩ := mem_of_ofSegments? read named
  rcases List.mem_map.mp member with ⟨part, segment, rfl⟩
  refine ⟨nonempty, ?_⟩
  rw [String.toList_ofList]
  exact slashless_of_mem_segments segment

end Route

end ServerResources.Http
