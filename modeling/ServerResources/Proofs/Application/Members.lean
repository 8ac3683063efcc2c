import Mathlib.Data.List.Flatten
import ServerResources.Application

/-!
# The members of an application

`members` lists every session that stands anywhere in an application, in the order
in which the sessions are replaced one by one.  The walk visits some of them, in
the same order.  Replacing the sessions changes an application at its members and
nowhere else.
-/

namespace ServerResources

variable {μ ν : Type}

mutual

/-- Every session of a bundle and of its extensions, extensions last. -/
def Bundle.members : Bundle μ → List μ
  | ⟨_, _, sessions, ejbs, interceptors, managedBeans, extensions⟩ =>
    sessions
      ++ (ejbs.flatMap Component.sessions
        ++ (interceptors.flatMap Component.sessions
          ++ (managedBeans.flatMap Component.sessions
            ++ Bundle.allMembers extensions)))

/-- Every session of several bundles. -/
def Bundle.allMembers : List (Bundle μ) → List μ
  | [] => []
  | bundle :: rest => Bundle.members bundle ++ Bundle.allMembers rest

end

/-- Every session of an application. -/
def Application.members (application : Application μ) : List μ :=
  Bundle.allMembers application.bundles

namespace Bundle

theorem allMembers_eq_flatMap (bundles : List (Bundle μ)) :
    Bundle.allMembers bundles = bundles.flatMap Bundle.members := by
  induction bundles with
  | nil => rfl
  | cons bundle rest ih => simp [Bundle.allMembers, ih]

theorem environment_append_extensions_sublist (bundle : Bundle μ) :
    (bundle.environment ++ allMembers bundle.extensions).Sublist bundle.members := by
  cases bundle with
  | mk name kind sessions ejbs interceptors managedBeans extensions =>
      by_cases isEjb : kind = .ejb
      · simp [environment, members, isEjb]
      · simp [environment, members, isEjb]

theorem environment_sublist_members (bundle : Bundle μ) :
    bundle.environment.Sublist bundle.members :=
  (List.sublist_append_left _ _).trans bundle.environment_append_extensions_sublist

end Bundle

/-- The walk visits members only, each at most once, in the order of the members. -/
theorem Application.walk_sublist_members (application : Application μ) :
    application.walk.Sublist application.members := by
  unfold walk members
  rw [Bundle.allMembers_eq_flatMap]
  apply List.Sublist.flatMap_right
  intro bundle _
  apply List.Sublist.trans _ bundle.environment_append_extensions_sublist
  rw [Bundle.allMembers_eq_flatMap]
  exact (List.Sublist.refl _).append
    (List.Sublist.flatMap_right _ fun extension _ => extension.environment_sublist_members)

/-! ## Replacing sessions at the members -/

theorem Component.map_congr {left right : μ → ν} (component : Component μ)
    (agree : ∀ session ∈ component.sessions, left session = right session) :
    component.map left = component.map right := by
  unfold Component.map
  rw [List.map_congr_left agree]

theorem Component.map_all_congr {left right : μ → ν} (components : List (Component μ))
    (agree : ∀ session ∈ components.flatMap Component.sessions, left session = right session) :
    components.map (Component.map left) = components.map (Component.map right) := by
  apply List.map_congr_left
  intro component member
  apply Component.map_congr
  intro session visited
  exact agree session (List.mem_flatMap.mpr ⟨component, member, visited⟩)

mutual

theorem Bundle.map_congr {left right : μ → ν} :
    (bundle : Bundle μ) → (∀ session ∈ bundle.members, left session = right session) →
      bundle.map left = bundle.map right
  | ⟨name, kind, sessions, ejbs, interceptors, managedBeans, extensions⟩, agree => by
    simp only [Bundle.members, List.mem_append] at agree
    simp only [Bundle.map, Bundle.mk.injEq, true_and]
    refine ⟨?_, ?_, ?_, ?_, ?_⟩
    · exact List.map_congr_left fun session member => agree session (.inl member)
    · exact Component.map_all_congr ejbs fun session member =>
        agree session (.inr (.inl member))
    · exact Component.map_all_congr interceptors fun session member =>
        agree session (.inr (.inr (.inl member)))
    · exact Component.map_all_congr managedBeans fun session member =>
        agree session (.inr (.inr (.inr (.inl member))))
    · exact Bundle.mapAll_congr extensions fun session member =>
        agree session (.inr (.inr (.inr (.inr member))))

theorem Bundle.mapAll_congr {left right : μ → ν} :
    (bundles : List (Bundle μ)) →
      (∀ session ∈ Bundle.allMembers bundles, left session = right session) →
      Bundle.mapAll left bundles = Bundle.mapAll right bundles
  | [], _ => rfl
  | bundle :: rest, agree => by
    simp only [Bundle.allMembers, List.mem_append] at agree
    simp only [Bundle.mapAll]
    rw [Bundle.map_congr bundle fun session member => agree session (.inl member),
      Bundle.mapAll_congr rest fun session member => agree session (.inr member)]

end

/-- Functions that agree on the members replace the sessions alike. -/
theorem Application.map_congr {left right : μ → ν} (application : Application μ)
    (agree : ∀ session ∈ application.members, left session = right session) :
    application.map left = application.map right := by
  unfold Application.map
  rw [Bundle.mapAll_congr application.bundles agree]

end ServerResources
