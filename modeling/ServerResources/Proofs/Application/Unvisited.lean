import ServerResources.Proofs.Application.Positions

/-!
# What is not visited

Replacing the sessions leaves every position where it is, and so do changes of what stands
at positions that registration does not visit: enterprise beans and interceptors of a bundle
or extension that is no enterprise bean module, and extensions of extensions.  Applications
that differ in those only have the same walk.
-/

namespace ServerResources

variable {μ ν : Type}

/-! ## Replacing the sessions -/

namespace Bundle

variable (function : μ → ν)

theorem kind_map (bundle : Bundle μ) : (bundle.map function).kind = bundle.kind := by
  cases bundle
  rfl

theorem at?_map (bundle : Bundle μ) (place : Place) :
    (bundle.map function).at? place = (bundle.at? place).map function := by
  cases bundle with
  | mk name kind sessions ejbs interceptors managedBeans extensions =>
      cases place with
      | own index => simp [Bundle.map, at?]
      | component kind number index =>
          have components : ∀ parts : List (Component μ),
              ((parts.map (Component.map function))[number]?.bind fun component =>
                component.sessions[index]?) =
              (parts[number]?.bind fun component => component.sessions[index]?).map function := by
            intro parts
            rw [List.getElem?_map]
            cases parts[number]? with
            | none => rfl
            | some component => simp [Component.map]
          cases kind <;> exact components _

theorem extension?_map (bundle : Bundle μ) (steps : List Nat) :
    (bundle.map function).extension? steps = (bundle.extension? steps).map (map function) := by
  induction steps generalizing bundle with
  | nil => rfl
  | cons step rest ih =>
      have extensions : (bundle.map function).extensions =
          bundle.extensions.map (map function) := by
        cases bundle
        simp [map, mapAll_eq_map]
      rw [extension?, extension?, extensions, List.getElem?_map]
      cases bundle.extensions[step]? with
      | none => rfl
      | some extension => exact ih extension

theorem visits_map_iff (bundle : Bundle μ) (place : Place) :
    (bundle.map function).Visits place ↔ bundle.Visits place := by
  rw [Visits, Visits, at?_map, kind_map, Option.isSome_map]

end Bundle

namespace Application

variable (function : μ → ν) (application : Application μ)

theorem bundle?_map (position : Position) :
    (application.map function).bundle? position =
      (application.bundle? position).map (Bundle.map function) := by
  rw [bundle?, bundle?, map, Bundle.mapAll_eq_map, List.getElem?_map]
  cases application.bundles[position.bundle]? with
  | none => rfl
  | some bundle => exact bundle.extension?_map function position.extensions

/-- Sessions are replaced where they stand. -/
theorem at?_map (position : Position) :
    (application.map function).at? position = (application.at? position).map function := by
  rw [at?, at?, bundle?_map]
  cases application.bundle? position with
  | none => rfl
  | some bundle => exact bundle.at?_map function position.place

theorem visits_map_iff (position : Position) :
    (application.map function).Visits position ↔ application.Visits position := by
  simp only [Visits, bundle?_map, Option.map_eq_some_iff]
  constructor
  · rintro ⟨short, _, ⟨bundle, reached, rfl⟩, visits⟩
    exact ⟨short, bundle, reached, (bundle.visits_map_iff function position.place).mp visits⟩
  · rintro ⟨short, bundle, reached, visits⟩
    exact ⟨short, _, ⟨bundle, reached, rfl⟩,
      (bundle.visits_map_iff function position.place).mpr visits⟩

/-- Replacing the sessions does not change which positions are visited. -/
theorem positions_map : (application.map function).positions = application.positions :=
  positions_eq_of_visits_iff (application.visits_map_iff function)

end Application

/-! ## Applications that agree where registration looks -/

namespace Application

/-- Applications of one name in which the same positions are visited, and in which the same
stands at those. -/
structure AgreeWhereVisited (left right : Application μ) : Prop where
  name_eq : left.name = right.name
  visits_iff : ∀ position, left.Visits position ↔ right.Visits position
  at?_eq : ∀ position, left.Visits position → left.at? position = right.at? position

/-- What stands elsewhere does not matter for the walk. -/
theorem AgreeWhereVisited.walk_eq {left right : Application μ}
    (agree : left.AgreeWhereVisited right) : left.walk = right.walk := by
  apply List.map_injective_iff.mpr (Option.some_injective μ)
  rw [← map_positions, ← map_positions, ← positions_eq_of_visits_iff agree.visits_iff]
  apply List.map_congr_left
  intro position member
  exact agree.at?_eq position ((left.mem_positions_iff position).mp member)

end Application

/-! ## Leaving out what is not visited -/

namespace Bundle

/-- A bundle without the components that do not count in it. -/
def counting (bundle : Bundle μ) : Bundle μ :=
  { bundle with
    ejbs := if bundle.kind = .ejb then bundle.ejbs else []
    interceptors := if bundle.kind = .ejb then bundle.interceptors else [] }

/-- A bundle with its extensions down to a depth, and only with components that count. -/
def trimmed : Nat → Bundle μ → Bundle μ
  | 0, bundle => { bundle.counting with extensions := [] }
  | depth + 1, bundle =>
      { bundle.counting with extensions := bundle.extensions.map (trimmed depth) }

theorem kind_trimmed (depth : Nat) (bundle : Bundle μ) :
    (bundle.trimmed depth).kind = bundle.kind := by
  cases depth <;> rfl

theorem at?_trimmed (depth : Nat) (bundle : Bundle μ) {place : Place}
    (counts : place.CountsIn bundle.kind) :
    (bundle.trimmed depth).at? place = bundle.at? place := by
  have components : ∀ kind, kind.CountsIn bundle.kind →
      (bundle.trimmed depth).components kind = bundle.components kind := by
    intro kind counts
    cases depth <;> cases kind <;>
      simp_all [trimmed, counting, Bundle.components, ComponentKind.CountsIn]
  cases place with
  | own index => cases depth <;> rfl
  | component kind number index => rw [at?, at?, components kind counts]

theorem extension?_trimmed {depth : Nat} {steps : List Nat} (short : steps.length ≤ depth)
    (bundle : Bundle μ) :
    (bundle.trimmed depth).extension? steps =
      (bundle.extension? steps).map (trimmed (depth - steps.length)) := by
  induction steps generalizing depth bundle with
  | nil => rfl
  | cons step rest ih =>
      cases depth with
      | zero => cases short
      | succ depth =>
          rw [List.length_cons, Nat.succ_le_succ_iff] at short
          rw [extension?, extension?, trimmed, List.getElem?_map, List.length_cons,
            Nat.succ_sub_succ]
          cases bundle.extensions[step]? with
          | none => rfl
          | some extension => exact ih short extension

theorem visits_trimmed_iff (depth : Nat) (bundle : Bundle μ) (place : Place) :
    (bundle.trimmed depth).Visits place ↔ bundle.Visits place := by
  rw [Visits, Visits, kind_trimmed]
  exact and_congr_left fun counts => by rw [at?_trimmed depth bundle counts]

end Bundle

namespace Application

/-- An application without the extensions of extensions, and without the enterprise beans
and interceptors of bundles and extensions that are no enterprise bean modules. -/
def trimmed (application : Application μ) : Application μ :=
  { application with bundles := application.bundles.map (Bundle.trimmed 1) }

theorem bundle?_trimmed (application : Application μ) {position : Position}
    (short : position.extensions.length ≤ 1) :
    application.trimmed.bundle? position =
      (application.bundle? position).map
        (Bundle.trimmed (1 - position.extensions.length)) := by
  rw [bundle?, bundle?, trimmed, List.getElem?_map]
  cases application.bundles[position.bundle]? with
  | none => rfl
  | some bundle => exact Bundle.extension?_trimmed short bundle

theorem visits_trimmed_iff (application : Application μ) (position : Position) :
    application.trimmed.Visits position ↔ application.Visits position := by
  apply and_congr_right
  intro short
  simp only [application.bundle?_trimmed short, Option.map_eq_some_iff]
  constructor
  · rintro ⟨_, ⟨bundle, reached, rfl⟩, visits⟩
    exact ⟨bundle, reached, (Bundle.visits_trimmed_iff _ bundle position.place).mp visits⟩
  · rintro ⟨bundle, reached, visits⟩
    exact ⟨_, ⟨bundle, reached, rfl⟩,
      (Bundle.visits_trimmed_iff _ bundle position.place).mpr visits⟩

/-- What is left out is not visited. -/
theorem agreeWhereVisited_trimmed (application : Application μ) :
    application.AgreeWhereVisited application.trimmed where
  name_eq := rfl
  visits_iff position := (application.visits_trimmed_iff position).symm
  at?_eq := by
    rintro position ⟨short, bundle, reached, -, counts⟩
    rw [at?, at?, application.bundle?_trimmed short, reached, Option.bind_some, Option.map_some,
      Option.bind_some, Bundle.at?_trimmed _ bundle counts]

/-- Applications that differ in what is left out only agree. -/
theorem agreeWhereVisited_of_trimmed_eq {left right : Application μ}
    (same : left.trimmed = right.trimmed) : left.AgreeWhereVisited right := by
  have toLeft := left.agreeWhereVisited_trimmed
  have toRight := right.agreeWhereVisited_trimmed
  rw [← same] at toRight
  constructor
  · exact toLeft.name_eq.trans toRight.name_eq.symm
  · intro position
    exact (toLeft.visits_iff position).trans (toRight.visits_iff position).symm
  · intro position visited
    have there := (toRight.visits_iff position).mpr ((toLeft.visits_iff position).mp visited)
    exact (toLeft.at?_eq position visited).trans (toRight.at?_eq position there).symm

end Application

end ServerResources
