import ServerResources.Naming.Directory

/-!
# Naming services

A naming service is anything that can be asked to bind and unbind keys and that
says whether it did.  What it does otherwise is its own business, so its state
may change with every call, refused ones included.

`NameServer` is the service that the library runs: a directory with outages.  A
name that an outage concerns is refused before anything else is looked at.
-/

namespace ServerResources

/-- A service with states `σ` that binds payloads `π`. -/
class NamingService (σ : Type) (π : outParam Type) where
  bind : σ → BindingKey → π → Bool → Except NamingError Unit × σ
  unbind : σ → BindingKey → Except NamingError Unit × σ

/-- Which names cannot be bound and which cannot be unbound. -/
structure Outage where
  bind : String → Bool
  unbind : String → Bool

namespace Outage

/-- The absence of any outage. -/
def none : Outage :=
  ⟨fun _ => false, fun _ => false⟩

/-- Whether a list concerns a name: it contains the name, or a star. -/
def concerns (names : List String) (name : String) : Bool :=
  names.contains "*" || names.contains name

/-- The outage of listed names. -/
def ofNames (bind unbind : List String) : Outage :=
  ⟨concerns bind, concerns unbind⟩

end Outage

/-- A directory with outages. -/
structure NameServer (π : Type) where
  directory : Directory π
  outage : Outage

namespace NameServer

variable {π : Type}

/-- A server in service, without bindings. -/
def start : NameServer π :=
  ⟨.empty, .none⟩

/-- Binds a key unless there is an outage. -/
def bind (server : NameServer π) (key : BindingKey) (payload : π) (again : Bool) :
    Except NamingError Unit × NameServer π :=
  if server.outage.bind key.name then (.error (.cannotBind key.name), server)
  else
    match server.directory.bind key payload again with
    | .ok directory => (.ok (), { server with directory := directory })
    | .error cause => (.error cause, server)

/-- Unbinds a key unless there is an outage. -/
def unbind (server : NameServer π) (key : BindingKey) :
    Except NamingError Unit × NameServer π :=
  if server.outage.unbind key.name then (.error (.cannotUnbind key.name), server)
  else
    match server.directory.unbind key with
    | .ok directory => (.ok (), { server with directory := directory })
    | .error cause => (.error cause, server)

instance : NamingService (NameServer π) π where
  bind := bind
  unbind := unbind

end NameServer

end ServerResources
