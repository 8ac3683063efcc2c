import ServerResources.Text.Absent
import ServerResources.Text.Quoted

/-!
# Faults

Why a lookup, a query or an introspection has no answer.  The causes are data;
`message` words them.
-/

namespace ServerResources

/-- An argument without which a question makes no sense. -/
inductive MissingArgument where
  | connector
  | interface
  | interfaceAndClass
  | lookupKey
  | adminObjectKey
  deriving DecidableEq, Repr

/-- What is asked for when an argument is missing. -/
def MissingArgument.message : MissingArgument → String
  | .connector => "Invalid arguments: connector descriptor is required"
  | .interface => "Invalid arguments: interface name is required"
  | .interfaceAndClass => "Invalid arguments: interface and class name are required"
  | .lookupKey => "interface name must be specified"
  | .adminObjectKey => "admin object interface must be specified"

/-- Why a module has no such class. -/
inductive ImportFailure where
  | noModule (name : String)
  /-- A module that should contain another one cannot contain modules. -/
  | notPackage (name parent : String)
  | noClass (module name : String)
  deriving DecidableEq, Repr

/-- The wording of an import failure. -/
def ImportFailure.message : ImportFailure → String
  | .noModule name => "No module named " ++ Text.quoted name
  | .notPackage name parent =>
      "No module named " ++ Text.quoted name ++ "; " ++ Text.quoted parent
        ++ " is not a package"
  | .noClass module name => "module '" ++ module ++ "' has no attribute '" ++ name ++ "'"

/-- Why the defaults of a bean class cannot be read. -/
inductive IntrospectionFailure where
  /-- The class name does not say which module the class is in. -/
  | unqualified (className : String)
  | unknownClass (className : String)
  | notImported (className : String) (cause : ImportFailure)
  | notConstructed (className : String) (archive : Option String) (cause : String)
  | unreadable (property className cause : String)
  deriving DecidableEq, Repr

/-- The wording of an introspection failure. -/
def IntrospectionFailure.message : IntrospectionFailure → String
  | .unqualified className => "Not a fully qualified class name: " ++ className
  | .unknownClass className => "Unable to load class [" ++ className ++ "]"
  | .notImported className cause =>
      "Unable to load class [" ++ className ++ "]: " ++ cause.message
  | .notConstructed className archive cause =>
      "Unable to instantiate [" ++ className ++ "] of [" ++ Text.orAbsent archive ++ "]: " ++ cause
  | .unreadable property className cause =>
      "Unable to read property [" ++ property ++ "] of [" ++ className ++ "]: " ++ cause

/-- Why there is no answer. -/
inductive Fault where
  | missing (argument : MissingArgument)
  /-- There are definitions, but none for the interface and class. -/
  | notFound (interface : String) (implementation : Option String)
  | introspection (failure : IntrospectionFailure)
  /-- A module name that is relative to a package, where there is none. -/
  | relativeModule (module : String)
  deriving DecidableEq, Repr

/-- The wording of a fault. -/
def Fault.message : Fault → String
  | .missing argument => argument.message
  | .notFound interface none => "No resource with interface [" ++ interface ++ "] found"
  | .notFound interface (some implementation) =>
      "No resource with interface [" ++ interface ++ "] found for class ["
        ++ implementation ++ "]"
  | .introspection failure => failure.message
  | .relativeModule module =>
      "the 'package' argument is required to perform a relative import for "
        ++ Text.quoted module

end ServerResources
