import ServerResources.Naming.BindingKey
import ServerResources.OrderedMap

/-!
# The naming directory

The directory binds keys to payloads.  A call that is refused changes nothing.
Binding a key again keeps its place; a key that is unbound and bound again goes
to the end.
-/

namespace ServerResources

/-- Why a name cannot be bound or unbound. -/
inductive NamingError where
  | alreadyBound (key : BindingKey)
  | notBound (key : BindingKey)
  /-- The directory is out of service for binding this name. -/
  | cannotBind (name : String)
  /-- The directory is out of service for unbinding this name. -/
  | cannotUnbind (name : String)
  deriving DecidableEq, Repr

/-- The wording of a naming error. -/
def NamingError.message : NamingError → String
  | .alreadyBound key => "Name already bound: " ++ key.text
  | .notBound key => "Name not bound: " ++ key.text
  | .cannotBind name => "cannot bind " ++ name
  | .cannotUnbind name => "cannot unbind " ++ name

/-- What is bound, in order. -/
structure Directory (π : Type) where
  bindings : OrderedMap BindingKey π

namespace Directory

variable {π : Type}

/-- The directory without bindings. -/
def empty : Directory π :=
  ⟨∅⟩

/-- The payload that is bound to a key. -/
def lookup (directory : Directory π) (key : BindingKey) : Option π :=
  directory.bindings.get? key

/-- Whether a key is bound. -/
def isBound (directory : Directory π) (key : BindingKey) : Bool :=
  directory.bindings.contains key

/-- The bound keys in order. -/
def keys (directory : Directory π) : List BindingKey :=
  directory.bindings.keys

/-- Binds a key, which must be free unless it may be bound again. -/
def bind (directory : Directory π) (key : BindingKey) (payload : π) (again : Bool) :
    Except NamingError (Directory π) :=
  if !again && directory.isBound key then .error (.alreadyBound key)
  else .ok ⟨directory.bindings.insert key payload⟩

/-- Unbinds a key, which must be bound. -/
def unbind (directory : Directory π) (key : BindingKey) : Except NamingError (Directory π) :=
  if directory.isBound key then .ok ⟨directory.bindings.erase key⟩
  else .error (.notBound key)

/-! ## What the calls do to the bindings -/

theorem isBound_iff (directory : Directory π) (key : BindingKey) :
    directory.isBound key = true ↔ key ∈ directory.keys :=
  directory.bindings.contains_iff key

theorem nodup_keys (directory : Directory π) : directory.keys.Nodup :=
  directory.bindings.nodup_keys

/-- Only a key that is bound and may not be bound again is refused. -/
theorem bind_eq_error_iff (directory : Directory π) (key : BindingKey) (payload : π)
    (again : Bool) (cause : NamingError) :
    directory.bind key payload again = .error cause ↔
      (again = false ∧ key ∈ directory.keys) ∧ cause = .alreadyBound key := by
  rw [← isBound_iff]
  unfold bind
  cases again with
  | true => simp
  | false =>
      cases directory.isBound key with
      | true =>
          constructor
          · intro refused
            cases refused
            simp
          · rintro ⟨_, rfl⟩
            rfl
      | false => simp

/-- Only a key that is not bound is refused. -/
theorem unbind_eq_error_iff (directory : Directory π) (key : BindingKey)
    (cause : NamingError) :
    directory.unbind key = .error cause ↔ key ∉ directory.keys ∧ cause = .notBound key := by
  rw [← isBound_iff]
  unfold unbind
  cases directory.isBound key with
  | true => simp
  | false =>
      constructor
      · intro refused
        cases refused
        simp
      · rintro ⟨_, rfl⟩
        rfl

theorem lookup_of_bind {directory bound : Directory π} {key : BindingKey} {payload : π}
    {again : Bool} (success : directory.bind key payload again = .ok bound)
    (other : BindingKey) :
    bound.lookup other = if other = key then some payload else directory.lookup other := by
  unfold bind at success
  split at success
  · simp at success
  · cases success
    exact directory.bindings.get?_insert key other payload

/-- A key that is bound again keeps its place; a new one goes to the end. -/
theorem keys_of_bind {directory bound : Directory π} {key : BindingKey} {payload : π}
    {again : Bool} (success : directory.bind key payload again = .ok bound) :
    bound.keys = if key ∈ directory.keys then directory.keys else directory.keys ++ [key] := by
  unfold bind at success
  split at success
  · simp at success
  · cases success
    exact directory.bindings.keys_insert key payload

theorem lookup_of_unbind {directory unbound : Directory π} {key : BindingKey}
    (success : directory.unbind key = .ok unbound) (other : BindingKey) :
    unbound.lookup other = if other = key then none else directory.lookup other := by
  unfold unbind at success
  split at success
  · cases success
    exact directory.bindings.get?_erase key other
  · simp at success

/-- The other keys keep their order. -/
theorem keys_of_unbind {directory unbound : Directory π} {key : BindingKey}
    (success : directory.unbind key = .ok unbound) :
    unbound.keys = directory.keys.filter fun other => decide (other ≠ key) := by
  unfold unbind at success
  split at success
  · cases success
    exact directory.bindings.keys_erase key
  · simp at success

end Directory

end ServerResources
