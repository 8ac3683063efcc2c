import ServerResources.Proofs.OrderedMap
import ServerResources.Proofs.Registrar.Outcome

/-!
# Payloads do not matter

A name server binds payloads without looking at them, and so does a registrar.  If every
payload is replaced, the registrar gives the same answers, publishes and withdraws the same
names and leaves the same warnings, and what is bound in the end is replaced in the same way.
-/

namespace ServerResources

variable {π ρ : Type}

namespace Directory

/-- Replaces everything that is bound. -/
def map (function : π → ρ) (directory : Directory π) : Directory ρ :=
  ⟨directory.bindings.map function⟩

theorem isBound_map (function : π → ρ) (directory : Directory π) (key : BindingKey) :
    (directory.map function).isBound key = directory.isBound key := by
  simp only [map, isBound, OrderedMap.contains, OrderedMap.get?_map, Option.isSome_map]

theorem bind_map (function : π → ρ) (directory : Directory π) (key : BindingKey) (payload : π)
    (again : Bool) :
    (directory.map function).bind key (function payload) again =
      (directory.bind key payload again).map (map function) := by
  rw [bind, bind, isBound_map]
  cases !again && directory.isBound key with
  | true => rfl
  | false =>
      simp only [map, Bool.false_eq_true, if_false, Except.map, OrderedMap.map_insert]

theorem unbind_map (function : π → ρ) (directory : Directory π) (key : BindingKey) :
    (directory.map function).unbind key = (directory.unbind key).map (map function) := by
  rw [unbind, unbind, isBound_map]
  cases directory.isBound key with
  | true => simp only [map, if_true, Except.map, OrderedMap.map_erase]
  | false => rfl

end Directory

namespace NameServer

/-- Replaces everything that is bound. -/
def map (function : π → ρ) (server : NameServer π) : NameServer ρ where
  directory := server.directory.map function
  outage := server.outage

theorem bind_map (function : π → ρ) (server : NameServer π) (key : BindingKey) (payload : π)
    (again : Bool) :
    (server.map function).bind key (function payload) again =
      ((server.bind key payload again).1, (server.bind key payload again).2.map function) := by
  have answer := server.directory.bind_map function key payload again
  simp only [bind, map, answer]
  cases server.outage.bind key.name with
  | true => rfl
  | false => cases server.directory.bind key payload again <;> rfl

theorem unbind_map (function : π → ρ) (server : NameServer π) (key : BindingKey) :
    (server.map function).unbind key =
      ((server.unbind key).1, (server.unbind key).2.map function) := by
  have answer := server.directory.unbind_map function key
  simp only [unbind, map, answer]
  cases server.outage.unbind key.name with
  | true => rfl
  | false => cases server.directory.unbind key <;> rfl

end NameServer

namespace Registrar

/-- Replaces everything that is bound. -/
def map (function : π → ρ) (registrar : Registrar (NameServer π)) :
    Registrar (NameServer ρ) where
  settings := registrar.settings
  naming := registrar.naming.map function
  published := registrar.published
  warnings := registrar.warnings

/-- Replacing twice is replacing once, and nothing changes if what is bound is replaced by
itself. -/
theorem map_map_eq_self {function : π → ρ} {back : ρ → π} {registrar : Registrar (NameServer π)}
    (inverse : ∀ key payload, registrar.naming.directory.lookup key = some payload →
      back (function payload) = payload) :
    (registrar.map function).map back = registrar := by
  have bindings : (registrar.naming.directory.bindings.map function).map back =
      registrar.naming.directory.bindings := by
    rw [OrderedMap.map_map]
    exact (OrderedMap.map_congr _ inverse).trans (OrderedMap.map_id _)
  simp only [map, NameServer.map, Directory.map, bindings]

theorem register_map (function : π → ρ) (registrar : Registrar (NameServer π))
    (application name : String) (payload : π) :
    (registrar.map function).register application name (function payload) =
      ((registrar.register application name payload).1,
        (registrar.register application name payload).2.map function) := by
  have answer := registrar.naming.bind_map function (bindingKey application name) payload true
  have published : (registrar.map function).isPublished application name =
      registrar.isPublished application name := rfl
  rw [register, register, published]
  cases registrar.isPublished application name with
  | true => rfl
  | false =>
      cases shared : registrar.settings.isShared name with
      | false => simp only [map, shared, Bool.false_eq_true, if_false]
      | true =>
          simp only [map, shared, NamingService.bind, answer]
          rcases registrar.naming.bind (bindingKey application name) payload true with
            ⟨_ | _, server⟩ <;> rfl

theorem unregister_map (function : π → ρ) (registrar : Registrar (NameServer π))
    (application name : String) :
    (registrar.map function).unregister application name =
      ((registrar.unregister application name).1,
        (registrar.unregister application name).2.map function) := by
  simp only [unregister, map, NamingService.unbind]
  cases registrar.published.get? (application, name) with
  | none => rfl
  | some key =>
      simp only [NameServer.unbind_map]
      rcases registrar.naming.unbind key with ⟨_ | _, server⟩ <;> rfl

end Registrar

end ServerResources
