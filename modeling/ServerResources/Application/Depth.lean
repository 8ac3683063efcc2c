import ServerResources.Application

/-!
# Depth of sessions

A session lies as deep as the bundle or component that defines it.  Components
and extensions lie one deeper than their bundle.
-/

namespace ServerResources

variable {μ : Type}

/-- The sessions of a component at a depth. -/
def Component.located (depth : Nat) (component : Component μ) : List (Nat × μ) :=
  component.sessions.map fun session => (depth, session)

mutual

/-- The sessions of a bundle at a depth and of everything in it, with their depths. -/
def Bundle.located (depth : Nat) : Bundle μ → List (Nat × μ)
  | ⟨_, _, sessions, ejbs, interceptors, managedBeans, extensions⟩ =>
      sessions.map (fun session => (depth, session))
        ++ (ejbs ++ interceptors ++ managedBeans).flatMap (Component.located (depth + 1))
        ++ Bundle.allLocated (depth + 1) extensions

/-- The sessions of several bundles at a depth. -/
def Bundle.allLocated (depth : Nat) : List (Bundle μ) → List (Nat × μ)
  | [] => []
  | bundle :: rest => Bundle.located depth bundle ++ Bundle.allLocated depth rest

end

/-- All sessions of an application with their depths. -/
def Application.located (application : Application μ) : List (Nat × μ) :=
  Bundle.allLocated Application.bundleDepth application.bundles

theorem Bundle.allLocated_eq_flatMap (depth : Nat) (bundles : List (Bundle μ)) :
    Bundle.allLocated depth bundles = bundles.flatMap (Bundle.located depth) := by
  induction bundles with
  | nil => rfl
  | cons bundle rest ih => simp [Bundle.allLocated, ih]

/-- The sessions of a component all lie at its depth. -/
theorem Component.depth_of_mem_located {depth : Nat} {component : Component μ}
    {place : Nat × μ} (member : place ∈ component.located depth) : place.1 = depth := by
  simp only [Component.located, List.mem_map] at member
  obtain ⟨session, _, rfl⟩ := member
  rfl

end ServerResources
