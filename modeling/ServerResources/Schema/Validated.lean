import ServerResources.Schema.Issue

/-!
# Values or issues

Reading a document either yields a value or all of its issues.  Two readings
that do not depend on each other are combined without stopping at the first
that fails: the issues of both are kept, in order.
-/

namespace ServerResources

universe u

/-- A value, or the issues that prevent it. -/
inductive Validated (α : Type u) where
  | valid (value : α)
  | invalid (issues : List Issue)

namespace Validated

variable {α β : Type u}

/-- Applies a function to the value. -/
def map (function : α → β) : Validated α → Validated β
  | .valid value => .valid (function value)
  | .invalid issues => .invalid issues

/-- Combines two readings and keeps the issues of both. -/
def apply : Validated (α → β) → Validated α → Validated β
  | .valid function, .valid value => .valid (function value)
  | .valid _, .invalid issues => .invalid issues
  | .invalid issues, .valid _ => .invalid issues
  | .invalid left, .invalid right => .invalid (left ++ right)

instance : Applicative Validated where
  pure := .valid
  map := map
  seq left right := apply left (right ())

@[simp] theorem pure_eq (value : α) : (pure value : Validated α) = .valid value :=
  rfl

@[simp] theorem map_valid (function : α → β) (value : α) :
    function <$> (Validated.valid value) = .valid (function value) :=
  rfl

@[simp] theorem map_invalid (function : α → β) (issues : List Issue) :
    function <$> (Validated.invalid issues) = .invalid issues :=
  rfl

@[simp] theorem seq_valid (function : α → β) (value : α) :
    Validated.valid function <*> Validated.valid value = .valid (function value) :=
  rfl

/-- Two readings that fail together report the issues of both. -/
@[simp] theorem seq_invalid (left right : List Issue) :
    (Validated.invalid left : Validated (α → β)) <*> Validated.invalid right =
      .invalid (left ++ right) :=
  rfl

theorem map_eq_valid_iff (function : α → β) (reading : Validated α) (result : β) :
    function <$> reading = .valid result ↔
      ∃ value, reading = .valid value ∧ function value = result := by
  cases reading with
  | valid value => simp
  | invalid issues => simp

/-- A combination has a value only if both of its parts have. -/
theorem seq_eq_valid_iff (left : Validated (α → β)) (right : Validated α) (result : β) :
    left <*> right = .valid result ↔
      ∃ function value,
        left = .valid function ∧ right = .valid value ∧ function value = result := by
  cases left with
  | valid function =>
      cases right with
      | valid value => simp
      | invalid issues => simp [Seq.seq, apply]
  | invalid issues =>
      cases right with
      | valid value => simp [Seq.seq, apply]
      | invalid others => simp

/-- Places the issues of a part. -/
def under (segment : Segment) : Validated α → Validated α
  | .valid value => .valid value
  | .invalid issues => .invalid (issues.map (Issue.under segment))

@[simp] theorem under_valid (segment : Segment) (value : α) :
    (Validated.valid value).under segment = .valid value :=
  rfl

theorem under_eq_valid_iff (segment : Segment) (reading : Validated α) (value : α) :
    reading.under segment = .valid value ↔ reading = .valid value := by
  cases reading with
  | valid other => simp
  | invalid issues => simp [under]

/-- A single issue at the place that is being read. -/
def complain (complaint : Complaint) : Validated α :=
  .invalid [⟨[], complaint⟩]

/-- The value, or the issues as an error. -/
def toExcept : Validated α → Except (List Issue) α
  | .valid value => .ok value
  | .invalid issues => .error issues

end Validated

end ServerResources
