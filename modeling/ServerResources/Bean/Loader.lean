import ServerResources.Bean
import ServerResources.Fault
import ServerResources.Text.Dotted

/-!
# Loading bean classes

A class is loaded by its name, either from a table of classes or from modules.
In the second case the name is dotted: all but its last part names the module.
A module that does not exist is looked for together with the modules that it
lies within, from the inside out, and the outermost one that is missing is
blamed.
-/

namespace ServerResources.Bean

/-- Finds the class of a name. -/
abbrev Loader := String → Except Fault Bean

/-- Classes by name. -/
abbrev Classes := List (String × Bean)

/-- Modules by name. -/
abbrev Modules := List (String × Classes)

/-- Finds classes in a table. -/
def Loader.ofClasses (classes : Classes) : Loader := fun className =>
  match OrderedMap.find className classes with
  | some bean => .ok bean
  | none => .error (.introspection (.unknownClass className))

/-- Why the first of some modules, each lying within the next, is missing. -/
def Modules.failure? (modules : Modules) : List String → Option ImportFailure
  | [] => none
  | name :: outer =>
      if (OrderedMap.find name modules).isSome then none
      else
        match outer with
        | [] => some (.noModule name)
        | parent :: _ => (modules.failure? outer).or (some (.notPackage name parent))

/-- A class under the name that it has in its module. -/
structure Imported where
  name : String
  bean : Bean

/-- Finds a class by its dotted name. -/
def Modules.find (modules : Modules) (className : String) : Except Fault Imported :=
  match Text.splitLastDot className.toList with
  | none | some ([], _) => .error (.introspection (.unqualified className))
  | some (before, after) =>
      let module := String.ofList before
      let name := String.ofList after
      if before.head? = some '.' then .error (.relativeModule module)
      else
        match OrderedMap.find module modules with
        | some classes =>
            match OrderedMap.find name classes with
            | some bean => .ok ⟨name, bean⟩
            | none => .error (.introspection (.notImported className (.noClass module name)))
        | none =>
            let cause := (modules.failure? (Text.enclosing module)).getD (.noModule module)
            .error (.introspection (.notImported className cause))

/-- Finds classes in modules. -/
def Loader.ofModules (modules : Modules) : Loader := fun className =>
  Imported.bean <$> modules.find className

end ServerResources.Bean
