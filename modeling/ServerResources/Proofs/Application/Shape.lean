import ServerResources.Proofs.Application.Members

/-!
# The shape of an application

An application is its shape together with its members: two applications of one shape
become equal under functions that make their members equal.  The shape is what is left
when all sessions are replaced by the same thing.
-/

namespace ServerResources

variable {μ ν : Type}

/-! ## Members of an application with its sessions replaced -/

theorem Component.flatMap_sessions_map (function : μ → ν) (components : List (Component μ)) :
    (components.map (Component.map function)).flatMap Component.sessions =
      (components.flatMap Component.sessions).map function := by
  rw [List.flatMap_map, List.map_flatMap]
  rfl

mutual

theorem Bundle.members_map (function : μ → ν) :
    (bundle : Bundle μ) → (bundle.map function).members = bundle.members.map function
  | ⟨name, kind, sessions, ejbs, interceptors, managedBeans, extensions⟩ => by
    simp only [Bundle.map, Bundle.members, List.map_append, Component.flatMap_sessions_map,
      Bundle.allMembers_mapAll function extensions]

theorem Bundle.allMembers_mapAll (function : μ → ν) :
    (bundles : List (Bundle μ)) →
      Bundle.allMembers (Bundle.mapAll function bundles) =
        (Bundle.allMembers bundles).map function
  | [] => rfl
  | bundle :: rest => by
    simp only [Bundle.mapAll, Bundle.allMembers, List.map_append,
      Bundle.members_map function bundle, Bundle.allMembers_mapAll function rest]

end

/-! ## Equal shapes and equal members -/

section Shape

variable {α β γ δ : Type} {left : α → γ} {right : β → γ} {first : α → δ} {second : β → δ}

/-- Lists of which equal images are known have one length. -/
theorem append_inj_of_map {leftFront : List α} {rightFront : List β} {leftBack : List α}
    {rightBack : List β} (shape : leftFront.map left = rightFront.map right)
    (members : (leftFront ++ leftBack).map first = (rightFront ++ rightBack).map second) :
    leftFront.map first = rightFront.map second ∧
      leftBack.map first = rightBack.map second := by
  rw [List.map_append, List.map_append] at members
  apply List.append_inj members
  have lengths := congrArg List.length shape
  rw [List.length_map, List.length_map] at lengths ⊢
  exact lengths

theorem Component.map_all_eq_map {leftParts : List (Component α)}
    {rightParts : List (Component β)}
    (shape : leftParts.map (Component.map left) = rightParts.map (Component.map right))
    (members : (leftParts.flatMap Component.sessions).map first =
      (rightParts.flatMap Component.sessions).map second) :
    leftParts.map (Component.map first) = rightParts.map (Component.map second) := by
  induction leftParts generalizing rightParts with
  | nil =>
      cases rightParts with
      | nil => rfl
      | cons part rest => cases shape
  | cons part rest ih =>
      cases rightParts with
      | nil => cases shape
      | cons other others =>
          simp only [List.map_cons, Component.map, List.cons.injEq, Component.mk.injEq] at shape
          obtain ⟨⟨name, sessions⟩, tail⟩ := shape
          rw [List.flatMap_cons, List.flatMap_cons] at members
          obtain ⟨here, later⟩ := append_inj_of_map sessions members
          rw [List.map_cons, List.map_cons, ih tail later, Component.map, name, here]
          rfl

/-- The members of some components are known as far as the components are. -/
theorem Component.sessions_of_map {leftParts : List (Component α)}
    {rightParts : List (Component β)}
    (shape : leftParts.map (Component.map left) = rightParts.map (Component.map right)) :
    (leftParts.flatMap Component.sessions).map left =
      (rightParts.flatMap Component.sessions).map right := by
  rw [← Component.flatMap_sessions_map, ← Component.flatMap_sessions_map, shape]

mutual

theorem Bundle.map_eq_map :
    (leftPart : Bundle α) → (rightPart : Bundle β) → leftPart.map left = rightPart.map right →
      leftPart.members.map first = rightPart.members.map second →
      leftPart.map first = rightPart.map second
  | ⟨name, kind, own, ejbs, interceptors, managedBeans, extensions⟩,
    ⟨otherName, otherKind, otherOwn, otherEjbs, otherInterceptors, otherManagedBeans,
      otherExtensions⟩, shape, members => by
    simp only [Bundle.map, Bundle.mk.injEq] at shape
    obtain ⟨sameName, sameKind, ownShape, ejbsShape, interceptorsShape, managedBeansShape,
      extensionsShape⟩ := shape
    simp only [Bundle.members] at members
    obtain ⟨ownEqual, afterOwn⟩ := append_inj_of_map ownShape members
    obtain ⟨ejbsEqual, afterEjbs⟩ :=
      append_inj_of_map (Component.sessions_of_map ejbsShape) afterOwn
    obtain ⟨interceptorsEqual, afterInterceptors⟩ :=
      append_inj_of_map (Component.sessions_of_map interceptorsShape) afterEjbs
    obtain ⟨managedBeansEqual, extensionsEqual⟩ :=
      append_inj_of_map (Component.sessions_of_map managedBeansShape) afterInterceptors
    simp only [Bundle.map, Bundle.mk.injEq]
    exact ⟨sameName, sameKind, ownEqual, Component.map_all_eq_map ejbsShape ejbsEqual,
      Component.map_all_eq_map interceptorsShape interceptorsEqual,
      Component.map_all_eq_map managedBeansShape managedBeansEqual,
      Bundle.mapAll_eq_mapAll extensions otherExtensions extensionsShape extensionsEqual⟩

theorem Bundle.mapAll_eq_mapAll :
    (leftParts : List (Bundle α)) → (rightParts : List (Bundle β)) →
      Bundle.mapAll left leftParts = Bundle.mapAll right rightParts →
      (Bundle.allMembers leftParts).map first = (Bundle.allMembers rightParts).map second →
      Bundle.mapAll first leftParts = Bundle.mapAll second rightParts
  | [], [], _, _ => rfl
  | [], _ :: _, shape, _ => by cases shape
  | _ :: _, [], shape, _ => by cases shape
  | part :: rest, other :: others, shape, members => by
    simp only [Bundle.mapAll, List.cons.injEq] at shape
    obtain ⟨partShape, restShape⟩ := shape
    have partMembers : part.members.map left = other.members.map right := by
      rw [← Bundle.members_map, ← Bundle.members_map, partShape]
    simp only [Bundle.allMembers] at members
    obtain ⟨here, later⟩ := append_inj_of_map partMembers members
    simp only [Bundle.mapAll, List.cons.injEq]
    exact ⟨Bundle.map_eq_map part other partShape here,
      Bundle.mapAll_eq_mapAll rest others restShape later⟩

end

/-- Applications of one shape whose members become equal become equal. -/
theorem Application.map_eq_map {leftApplication : Application α}
    {rightApplication : Application β}
    (shape : leftApplication.map left = rightApplication.map right)
    (members : leftApplication.members.map first = rightApplication.members.map second) :
    leftApplication.map first = rightApplication.map second := by
  simp only [Application.map, Application.mk.injEq] at shape ⊢
  exact ⟨shape.1, Bundle.mapAll_eq_mapAll _ _ shape.2 members⟩

end Shape

end ServerResources
