import ServerResources.Registrar

/-!
# What a call of the registrar comes to

Over a name server a registration either leaves everything as it is, or is
refused, or binds its key and records the name; a withdrawal of a published name
always forgets it, and unbinds its key unless it is refused.  These are the only
outcomes, and every later statement about the registrar goes through them.
-/

namespace ServerResources

variable {π : Type}

namespace NameServer

/-- Binding a key again is refused only during an outage. -/
theorem bind_again (server : NameServer π) (key : BindingKey) (payload : π) :
    server.bind key payload true =
      if server.outage.bind key.name then (.error (.cannotBind key.name), server)
      else
        (.ok (),
          { server with directory := ⟨server.directory.bindings.insert key payload⟩ }) := by
  simp [bind, Directory.bind]

end NameServer

namespace Registrar

/-- The keys that are bound. -/
def boundKeys (registrar : Registrar (NameServer π)) : List BindingKey :=
  registrar.naming.directory.keys

/-- The registrar after its name server bound a key for a name of an application. -/
def recorded (registrar : Registrar (NameServer π)) (application name : String) (payload : π) :
    Registrar (NameServer π) :=
  let key := bindingKey application name
  { registrar with
    naming :=
      { registrar.naming with
        directory := ⟨registrar.naming.directory.bindings.insert key payload⟩ }
    published := registrar.published.insert (application, name) key }

/-- The registrar without a name of an application, whatever became of its key. -/
def forgotten (registrar : Registrar (NameServer π)) (application name : String) :
    Registrar (NameServer π) :=
  { registrar with published := registrar.published.erase (application, name) }

/-- The registrar after a further warning. -/
def warned (registrar : Registrar (NameServer π)) (warning : Warning) :
    Registrar (NameServer π) :=
  { registrar with warnings := registrar.warnings ++ [warning] }

/-- The registrar after its name server unbound a key. -/
def unbound (registrar : Registrar (NameServer π)) (key : BindingKey) :
    Registrar (NameServer π) :=
  { registrar with
    naming :=
      { registrar.naming with
        directory := ⟨registrar.naming.directory.bindings.erase key⟩ } }

/-- The outcomes of a registration. -/
inductive Registers (registrar : Registrar (NameServer π)) (application name : String)
    (payload : π) : Bool → Registrar (NameServer π) → Prop where
  | skipped
      (idle : registrar.isPublished application name = true ∨
        registrar.settings.isShared name = false) :
      Registers registrar application name payload false registrar
  | refused
      (unpublished : registrar.isPublished application name = false)
      (shared : registrar.settings.isShared name = true)
      (outage : registrar.naming.outage.bind name = true) :
      Registers registrar application name payload false
        (registrar.warned (.notPublished name application (.cannotBind name)))
  | published
      (unpublished : registrar.isPublished application name = false)
      (shared : registrar.settings.isShared name = true)
      (inService : registrar.naming.outage.bind name = false) :
      Registers registrar application name payload true
        (registrar.recorded application name payload)

theorem register_registers (registrar : Registrar (NameServer π))
    (application name : String) (payload : π) :
    Registers registrar application name payload
      (registrar.register application name payload).1
      (registrar.register application name payload).2 := by
  cases published : registrar.isPublished application name with
  | true =>
      simp only [register, published, if_true]
      exact .skipped (.inl published)
  | false =>
      cases shared : registrar.settings.isShared name with
      | false =>
          simp only [register, published, shared, Bool.false_eq_true, if_false]
          exact .skipped (.inr shared)
      | true =>
          have answer := registrar.naming.bind_again (bindingKey application name) payload
          cases outage : registrar.naming.outage.bind name with
          | true =>
              simp only [bindingKey, outage, if_true] at answer
              simp only [register, published, shared, NamingService.bind, bindingKey, answer,
                Bool.false_eq_true, if_false, if_true]
              exact .refused published shared outage
          | false =>
              simp only [bindingKey, outage, Bool.false_eq_true, if_false] at answer
              simp only [register, published, shared, NamingService.bind, bindingKey, answer,
                Bool.false_eq_true, if_false, if_true]
              exact .published published shared outage

/-- The outcomes of a withdrawal. -/
inductive Unregisters (registrar : Registrar (NameServer π)) (application name : String) :
    Bool → Registrar (NameServer π) → Prop where
  | skipped (unpublished : registrar.published.get? (application, name) = none) :
      Unregisters registrar application name false registrar
  | refused (key : BindingKey) (cause : NamingError)
      (published : registrar.published.get? (application, name) = some key)
      (reason : registrar.naming.outage.unbind key.name = true ∨ key ∉ registrar.boundKeys) :
      Unregisters registrar application name false
        ((registrar.forgotten application name).warned (.notWithdrawn name cause))
  | withdrawn (key : BindingKey)
      (published : registrar.published.get? (application, name) = some key)
      (inService : registrar.naming.outage.unbind key.name = false)
      (present : key ∈ registrar.boundKeys) :
      Unregisters registrar application name true
        ((registrar.forgotten application name).unbound key)

theorem unregister_unregisters (registrar : Registrar (NameServer π))
    (application name : String) :
    Unregisters registrar application name
      (registrar.unregister application name).1
      (registrar.unregister application name).2 := by
  cases published : registrar.published.get? (application, name) with
  | none =>
      simp only [unregister, published]
      exact .skipped published
  | some key =>
      cases outage : registrar.naming.outage.unbind key.name with
      | true =>
          simp only [unregister, published, NamingService.unbind, NameServer.unbind, outage,
            if_true]
          exact .refused key _ published (.inl outage)
      | false =>
          cases present : registrar.naming.directory.isBound key with
          | true =>
              simp only [unregister, published, NamingService.unbind, NameServer.unbind, outage,
                Directory.unbind, present, Bool.false_eq_true, if_false, if_true]
              exact .withdrawn key published outage
                ((registrar.naming.directory.isBound_iff key).mp present)
          | false =>
              simp only [unregister, published, NamingService.unbind, NameServer.unbind, outage,
                Directory.unbind, present, Bool.false_eq_true, if_false]
              refine .refused key _ published (.inr ?_)
              intro bound
              have found := (registrar.naming.directory.isBound_iff key).mpr bound
              rw [present] at found
              exact Bool.false_ne_true found

end Registrar

end ServerResources
