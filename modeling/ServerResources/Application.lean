import ServerResources.Resource

/-!
# Applications

An application consists of bundles, a bundle has components, and each of them
may define mail sessions.  Bundles nest: a bundle has extensions, which are
bundles again.

The structure is the same whatever stands in the place of a mail session, so it
takes that as a parameter: a descriptor that was read holds the definitions
themselves, an installed application holds references to them.

`walk` lists the sessions of an application in the order in which they are
registered.  It sees a bundle and its direct extensions, and the components
that count for the kind of each.
-/

namespace ServerResources

/-- A component of a bundle with an environment of its own. -/
structure Component (μ : Type) where
  name : String
  sessions : List μ
  deriving Repr

/-- The kinds of bundle. -/
inductive BundleKind where
  | web
  | ejb
  | applicationClient
  | connector
  deriving DecidableEq, Repr

/-- A module of an application, or an extension of one. -/
structure Bundle (μ : Type) where
  name : String
  kind : BundleKind
  /-- The sessions of the bundle's own environment. -/
  sessions : List μ
  ejbs : List (Component μ)
  interceptors : List (Component μ)
  managedBeans : List (Component μ)
  extensions : List (Bundle μ)

/-- A deployed application. -/
structure Application (μ : Type) where
  name : String
  bundles : List (Bundle μ)

variable {μ ν : Type}

namespace BundleKind

/-- The kinds by their names. -/
def table : List (String × BundleKind) :=
  [("web", .web), ("ejb", .ejb), ("appclient", .applicationClient), ("connector", .connector)]

/-- The name of a kind. -/
def name : BundleKind → String
  | .web => "web"
  | .ejb => "ejb"
  | .applicationClient => "appclient"
  | .connector => "connector"

end BundleKind

/-! ## Walking -/

/-- The sessions of one bundle, without its extensions.  Enterprise beans and
interceptors count in enterprise bean modules only. -/
def Bundle.environment (bundle : Bundle μ) : List μ :=
  bundle.sessions
    ++ (if bundle.kind = .ejb then
          bundle.ejbs.flatMap Component.sessions
            ++ bundle.interceptors.flatMap Component.sessions
        else [])
    ++ bundle.managedBeans.flatMap Component.sessions

/-- The sessions of an application in order of registration: for each bundle its
own, then those of its direct extensions. -/
def Application.walk (application : Application μ) : List μ :=
  application.bundles.flatMap fun bundle =>
    bundle.environment ++ bundle.extensions.flatMap Bundle.environment

/-! ## Replacing the sessions -/

/-- Replaces the sessions of a component from first to last. -/
def Component.mapM {m : Type → Type} [Monad m] (function : μ → m ν)
    (component : Component μ) : m (Component ν) := do
  return ⟨component.name, ← component.sessions.mapM function⟩

mutual

/-- Replaces the sessions of a bundle from first to last, extensions last. -/
def Bundle.mapM {m : Type → Type} [Monad m] (function : μ → m ν) :
    Bundle μ → m (Bundle ν)
  | ⟨name, kind, sessions, ejbs, interceptors, managedBeans, extensions⟩ => do
    let sessions ← sessions.mapM function
    let ejbs ← ejbs.mapM (Component.mapM function)
    let interceptors ← interceptors.mapM (Component.mapM function)
    let managedBeans ← managedBeans.mapM (Component.mapM function)
    let extensions ← Bundle.mapAllM function extensions
    return ⟨name, kind, sessions, ejbs, interceptors, managedBeans, extensions⟩

/-- Replaces the sessions of several bundles. -/
def Bundle.mapAllM {m : Type → Type} [Monad m] (function : μ → m ν) :
    List (Bundle μ) → m (List (Bundle ν))
  | [] => return []
  | bundle :: rest => do
    let bundle ← Bundle.mapM function bundle
    let rest ← Bundle.mapAllM function rest
    return bundle :: rest

end

/-- Replaces the sessions of an application from first to last. -/
def Application.mapM {m : Type → Type} [Monad m] (function : μ → m ν)
    (application : Application μ) : m (Application ν) := do
  return ⟨application.name, ← Bundle.mapAllM function application.bundles⟩

/-- Replaces the sessions of a component. -/
def Component.map (function : μ → ν) (component : Component μ) : Component ν :=
  ⟨component.name, component.sessions.map function⟩

mutual

/-- Replaces the sessions of a bundle. -/
def Bundle.map (function : μ → ν) : Bundle μ → Bundle ν
  | ⟨name, kind, sessions, ejbs, interceptors, managedBeans, extensions⟩ =>
    ⟨name, kind, sessions.map function, ejbs.map (Component.map function),
      interceptors.map (Component.map function), managedBeans.map (Component.map function),
      Bundle.mapAll function extensions⟩

/-- Replaces the sessions of several bundles. -/
def Bundle.mapAll (function : μ → ν) : List (Bundle μ) → List (Bundle ν)
  | [] => []
  | bundle :: rest => Bundle.map function bundle :: Bundle.mapAll function rest

end

/-- Replaces the sessions of an application. -/
def Application.map (function : μ → ν) (application : Application μ) : Application ν :=
  ⟨application.name, Bundle.mapAll function application.bundles⟩

theorem Bundle.mapAll_eq_map (function : μ → ν) (bundles : List (Bundle μ)) :
    Bundle.mapAll function bundles = bundles.map (Bundle.map function) := by
  induction bundles with
  | nil => rfl
  | cons bundle rest ih => simp [Bundle.mapAll, ih]

theorem Bundle.environment_map (function : μ → ν) (bundle : Bundle μ) :
    (bundle.map function).environment = bundle.environment.map function := by
  have components : ∀ parts : List (Component μ),
      (parts.map (Component.map function)).flatMap Component.sessions =
        (parts.flatMap Component.sessions).map function := by
    intro parts
    induction parts with
    | nil => rfl
    | cons part rest ih => simp [Component.map, ih]
  cases bundle with
  | mk name kind sessions ejbs interceptors managedBeans extensions =>
      by_cases isEjb : kind = .ejb
      · simp [Bundle.map, Bundle.environment, isEjb, components]
      · simp [Bundle.map, Bundle.environment, isEjb, components]

/-- Replacing the sessions does not change which positions the walk visits. -/
theorem Application.walk_map (function : μ → ν) (application : Application μ) :
    (application.map function).walk = application.walk.map function := by
  have extensions : ∀ bundle : Bundle μ,
      (bundle.map function).extensions = bundle.extensions.map (Bundle.map function) := by
    intro bundle
    cases bundle
    simp [Bundle.map, Bundle.mapAll_eq_map]
  simp only [Application.walk, Application.map, Bundle.mapAll_eq_map, List.flatMap_map,
    List.map_flatMap, List.map_append, Bundle.environment_map, extensions]

/-! ## Documents

Bundles are read down to a fixed depth.  A bundle that is a document of its own
lies at depth 1 and a bundle of an application at depth 2; the extensions and the
components of a bundle lie one deeper than the bundle.  What a component consists
of does not count.
-/

namespace Component

/-- Reads a component. -/
def decode (origin : Origin) : Decoder (Component MailSession) :=
  Decoder.object origin "ComponentDescriptor" fun fields =>
    Component.mk
      <$> Decoder.required fields "name" Decoder.string
      <*> Decoder.optionalList fields "mail_sessions" (MailSession.decode origin)

/-- Writes a component, given how sessions are written. -/
def dumpWith (session : μ → Json) (component : Component μ) : Json :=
  .object
    [ ("name", .string component.name),
      ("mail_sessions", .array (component.sessions.map session)) ]

/-- Writes a component with all of its fields. -/
def dump : Component MailSession → Json :=
  dumpWith MailSession.dump

end Component

namespace Bundle

/-- Reads the fields of a bundle at a depth, given its extensions. -/
def decodeFields (origin : Origin) (depth : Nat) (fields : List (String × Json))
    (extensions : Validated (List (Bundle MailSession))) : Validated (Bundle MailSession) :=
  let component := Decoder.atDepth (depth + 1) (Component.decode origin)
  Bundle.mk
    <$> Decoder.required fields "name" Decoder.string
    <*> Decoder.optional fields "bundle_type" .web (Decoder.choice BundleKind.table)
    <*> Decoder.optionalList fields "mail_sessions" (MailSession.decode origin)
    <*> Decoder.optionalList fields "ejbs" component
    <*> Decoder.optionalList fields "interceptors" component
    <*> Decoder.optionalList fields "managed_beans" component
    <*> extensions

mutual

/-- Reads a bundle at a depth. -/
def decodeAt (origin : Origin) (depth : Nat) : Json → Validated (Bundle MailSession)
  | .object fields =>
      decodeFields origin depth fields (decodeExtensions origin (depth + 1) fields)
  | _ => .complain (origin.notObject "BundleDescriptor")

/-- Reads the extensions, which lie at a depth, among the fields of a bundle. -/
def decodeExtensions (origin : Origin) (depth : Nat) :
    List (String × Json) → Validated (List (Bundle MailSession))
  | [] => .valid []
  | (name, value) :: rest =>
      if name = "extension_descriptors" then
        (decodeList origin depth value).under (.key "extension_descriptors")
      else decodeExtensions origin depth rest

/-- Reads an array of bundles at a depth. -/
def decodeList (origin : Origin) (depth : Nat) :
    Json → Validated (List (Bundle MailSession))
  | .array values => decodeItems origin depth 0 values
  | _ => .complain .notList

/-- Reads the items of an array of bundles at a depth, counted from a position. -/
def decodeItems (origin : Origin) (depth : Nat) :
    Nat → List Json → Validated (List (Bundle MailSession))
  | _, [] => .valid []
  | position, value :: rest =>
      List.cons
        <$> Validated.under (.index position)
          (if Decoder.depthLimit < depth then .complain .tooDeep
            else decodeAt origin depth value)
        <*> decodeItems origin depth (position + 1) rest

end

/-- Reads a bundle that is a document of its own. -/
def decode (origin : Origin) : Decoder (Bundle MailSession) :=
  decodeAt origin 1

mutual

/-- Writes a bundle, given how sessions are written. -/
def dumpWith (session : μ → Json) : Bundle μ → Json
  | ⟨name, kind, sessions, ejbs, interceptors, managedBeans, extensions⟩ =>
    .object
      [ ("name", .string name),
        ("bundle_type", .string kind.name),
        ("mail_sessions", .array (sessions.map session)),
        ("ejbs", .array (ejbs.map (Component.dumpWith session))),
        ("interceptors", .array (interceptors.map (Component.dumpWith session))),
        ("managed_beans", .array (managedBeans.map (Component.dumpWith session))),
        ("extension_descriptors", .array (dumpAllWith session extensions)) ]

/-- Writes several bundles. -/
def dumpAllWith (session : μ → Json) : List (Bundle μ) → List Json
  | [] => []
  | bundle :: rest => dumpWith session bundle :: dumpAllWith session rest

end

/-- Writes a bundle with all of its fields. -/
def dump : Bundle MailSession → Json :=
  dumpWith MailSession.dump

end Bundle

namespace Application

/-- The depth of the bundles of an application. -/
def bundleDepth : Nat := 2

/-- Reads an application descriptor. -/
def decode (origin : Origin) : Decoder (Application MailSession) :=
  Decoder.object origin "ApplicationDescriptor" fun fields =>
    Application.mk
      <$> Decoder.required fields "app_name" Decoder.string
      <*> Decoder.optionalList fields "bundles" (Bundle.decodeAt origin bundleDepth)

/-- Writes an application descriptor, given how sessions are written. -/
def dumpWith (session : μ → Json) (application : Application μ) : Json :=
  .object
    [ ("app_name", .string application.name),
      ("bundles", .array (Bundle.dumpAllWith session application.bundles)) ]

/-- Writes an application descriptor with all of its fields. -/
def dump : Application MailSession → Json :=
  dumpWith MailSession.dump

end Application

end ServerResources
