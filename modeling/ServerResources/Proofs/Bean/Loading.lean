import ServerResources.Introspector

/-!
# How the loading of a class ends

A class that is loaded from modules is the one of its name in the module that its name
says.  Whatever is missing on the way there is reported as a failure of introspection,
and so is everything that goes wrong with the class afterwards.

There is one exception.  A class name that begins with a dot and has another one names
its module relative to a package.  There is no package, but nobody expects that: the
fault is not one of introspection.
-/

namespace ServerResources

namespace Text

theorem splitLastDot_eq_none_iff (characters : List Char) :
    splitLastDot characters = none ↔ '.' ∉ characters := by
  induction characters with
  | nil => simp [splitLastDot]
  | cons character rest ih =>
      rw [List.mem_cons, not_or, ← ih, splitLastDot]
      cases splitLastDot rest with
      | some parts => simp
      | none => simp [eq_comm]

/-- A name has one last dot. -/
theorem splitLastDot_append (before : List Char) {after : List Char} (undotted : '.' ∉ after) :
    splitLastDot (before ++ '.' :: after) = some (before, after) := by
  induction before with
  | nil => simp [splitLastDot, (splitLastDot_eq_none_iff after).mpr undotted]
  | cons character rest ih => rw [List.cons_append, splitLastDot, ih]

theorem not_mem_of_splitLastDot {characters before after : List Char}
    (split : splitLastDot characters = some (before, after)) : '.' ∉ after := by
  induction characters generalizing before with
  | nil => cases split
  | cons character rest ih =>
      cases inRest : splitLastDot rest with
      | some parts =>
          simp only [splitLastDot, inRest] at split
          cases split
          exact ih inRest
      | none =>
          simp only [splitLastDot, inRest] at split
          split at split
          next =>
              cases split
              exact (splitLastDot_eq_none_iff _).mp inRest
          next => cases split

/-- The last dot separates the parts of a name. -/
theorem splitLastDot_eq_some_iff (name : String) (before after : String) :
    splitLastDot name.toList = some (before.toList, after.toList) ↔
      name = before ++ "." ++ after ∧ '.' ∉ after.toList := by
  constructor
  · intro split
    refine ⟨?_, not_mem_of_splitLastDot split⟩
    apply String.toList_injective
    rw [splitLastDot_eq_some split]
    simp
  · rintro ⟨rfl, undotted⟩
    rw [← splitLastDot_append before.toList undotted]
    simp

end Text

namespace Bean

/-- Whether a class name names its module relative to a package: it begins with a dot,
and that is not its last one. -/
def isRelative (className : String) : Bool :=
  match className.toList with
  | [] => false
  | first :: rest => first = '.' && '.' ∈ rest

/-- The module of a relative name begins with a dot. -/
theorem isRelative_iff (className : String) :
    isRelative className = true ↔
      ∃ before after, Text.splitLastDot className.toList = some ('.' :: before, after) := by
  cases characters : className.toList with
  | nil => simp [isRelative, characters, Text.splitLastDot]
  | cons first rest =>
      simp only [isRelative, characters, Bool.and_eq_true, decide_eq_true_eq]
      constructor
      · rintro ⟨rfl, dotted⟩
        cases split : Text.splitLastDot rest with
        | none => exact ((Text.splitLastDot_eq_none_iff rest).mp split dotted).elim
        | some parts => exact ⟨parts.1, parts.2, by rw [Text.splitLastDot, split]⟩
      · rintro ⟨before, after, split⟩
        have same := Text.splitLastDot_eq_some split
        rw [List.cons_append, List.cons.injEq] at same
        refine ⟨same.1, ?_⟩
        rw [same.2]
        simp

/-- The class of a name in a module. -/
def Modules.class? (modules : Modules) (module name : String) : Option Bean :=
  (OrderedMap.find module modules).bind (OrderedMap.find name)

/-- What loading a class by its dotted name comes to.  All but the last part of the name
is that of the module. -/
inductive Loads (modules : Modules) (className : String) : Except Fault Imported → Prop where
  | loaded (absolute : isRelative className = false) (module : String) (imported : Imported)
      (named : className = module ++ "." ++ imported.name) (last : '.' ∉ imported.name.toList)
      (found : modules.class? module imported.name = some imported.bean) :
      Loads modules className (.ok imported)
  | failed (absolute : isRelative className = false) (failure : IntrospectionFailure)
      (missing : ∀ module name, className = module ++ "." ++ name → '.' ∉ name.toList →
        module ≠ "" → modules.class? module name = none) :
      Loads modules className (.error (.introspection failure))
  | relative (relative : isRelative className = true) (module name : String)
      (named : className = module ++ "." ++ name) (last : '.' ∉ name.toList) :
      Loads modules className (.error (.relativeModule module))

/-- The module decides about a qualified name that is not relative. -/
theorem Modules.find_of_qualified (modules : Modules) {className : String}
    {first : Char} {rest after : List Char} (notDot : first ≠ '.')
    (split : Text.splitLastDot className.toList = some (first :: rest, after)) :
    match modules.class? (String.ofList (first :: rest)) (String.ofList after) with
    | some bean => modules.find className = .ok ⟨String.ofList after, bean⟩
    | none => ∃ failure, modules.find className = .error (.introspection failure) := by
  have leading : ¬ (first :: rest).head? = some '.' := by
    rw [List.head?_cons, Option.some.injEq]
    exact notDot
  simp only [Modules.find, split, leading, if_false, Modules.class?]
  cases OrderedMap.find (String.ofList (first :: rest)) modules with
  | none => exact ⟨_, rfl⟩
  | some classes =>
      simp only [Option.bind_some]
      cases OrderedMap.find (String.ofList after) classes with
      | none => exact ⟨_, rfl⟩
      | some bean => rfl

theorem find_loads (modules : Modules) (className : String) :
    Loads modules className (modules.find className) := by
  cases split : Text.splitLastDot className.toList with
  | none =>
      simp only [Modules.find, split]
      apply Loads.failed
      · rw [← Bool.not_eq_true, isRelative_iff, split]
        simp
      · intro module name named last
        cases split.symm.trans ((Text.splitLastDot_eq_some_iff _ _ _).mpr ⟨named, last⟩)
  | some parts =>
      rcases parts with ⟨before, after⟩
      have parts : Text.splitLastDot className.toList =
          some ((String.ofList before).toList, (String.ofList after).toList) := by
        rw [split, String.toList_ofList, String.toList_ofList]
      rcases (Text.splitLastDot_eq_some_iff _ _ _).mp parts with ⟨named, last⟩
      have only : ∀ module name, className = module ++ "." ++ name → '.' ∉ name.toList →
          module = String.ofList before ∧ name = String.ofList after := by
        intro module name same undotted
        have other := (Text.splitLastDot_eq_some_iff _ _ _).mpr ⟨same, undotted⟩
        rw [parts, Option.some.injEq, Prod.mk.injEq] at other
        exact ⟨String.toList_injective other.1.symm, String.toList_injective other.2.symm⟩
      cases before with
      | nil =>
          simp only [Modules.find, split]
          apply Loads.failed
          · rw [← Bool.not_eq_true, isRelative_iff, split]
            simp
          · intro module name same undotted given
            exact (given (only module name same undotted).1).elim
      | cons first rest =>
          by_cases dot : first = '.'
          · subst dot
            have relative : isRelative className = true :=
              (isRelative_iff className).mpr ⟨rest, after, split⟩
            simp only [Modules.find, split, List.head?_cons, if_true]
            exact .relative relative _ _ named last
          · have absolute : isRelative className = false := by
              rw [← Bool.not_eq_true, isRelative_iff, split]
              simp [dot]
            have answer := modules.find_of_qualified dot split
            split at answer
            next bean found =>
                rw [answer]
                exact .loaded absolute _ ⟨_, bean⟩ named last found
            next absent =>
                rcases answer with ⟨failure, answer⟩
                rw [answer]
                apply Loads.failed absolute
                intro module name same undotted _
                rcases only module name same undotted with ⟨rfl, rfl⟩
                exact absent

/-- What may come of a class of some name: a failure of introspection, unless the name is
relative. -/
def LoadingFault (className : String) (fault : Fault) : Prop :=
  if isRelative className then
    ∃ module name, className = module ++ "." ++ name ∧ fault = .relativeModule module
  else ∃ failure, fault = .introspection failure

theorem Modules.loadingFault_of_find {modules : Modules} {className : String} {fault : Fault}
    (failed : modules.find className = .error fault) : LoadingFault className fault := by
  have loads := find_loads modules className
  rw [failed] at loads
  rw [LoadingFault]
  cases loads with
  | failed absolute failure =>
      rw [absolute]
      exact ⟨failure, rfl⟩
  | relative relative module name named last =>
      rw [if_pos relative]
      exact ⟨module, name, named, rfl⟩

/-- No class has a relative name. -/
theorem Modules.find_of_relative (modules : Modules) {className : String}
    (relative : isRelative className = true) :
    ∃ fault, modules.find className = .error fault := by
  have loads := find_loads modules className
  generalize modules.find className = result at loads ⊢
  cases loads with
  | loaded absolute => exact (Bool.false_ne_true (absolute.symm.trans relative)).elim
  | failed => exact ⟨_, rfl⟩
  | relative => exact ⟨_, rfl⟩

end Bean

namespace Introspector

variable {className : String} {known : List String} {archive : Option String} {fault : Fault}

/-- Once a class is loaded, its defaults are missing only for a failure of introspection. -/
theorem fault_of_readBean {load : Bean.Loader}
    (failed : readBean load className known archive = .error fault) :
    load className = .error fault ∨
      (∃ bean, load className = .ok bean) ∧ ∃ failure, fault = .introspection failure := by
  unfold readBean at failed
  cases loaded : load className with
  | error cause =>
      rw [loaded] at failed
      cases failed
      exact .inl rfl
  | ok bean =>
      refine .inr ⟨⟨bean, rfl⟩, ?_⟩
      rw [loaded] at failed
      simp only [bind, Except.bind] at failed
      split at failed
      next =>
          cases failed
          exact ⟨_, rfl⟩
      next =>
          split at failed
          next =>
              cases failed
              exact ⟨_, rfl⟩
          next => cases failed

theorem readBean_of_defaults_eq_error {load : Bean.Loader}
    (failed : (ofLoader load).defaults className known archive = .error fault) :
    readBean load className known archive = .error fault := by
  simp only [ofLoader] at failed
  cases read : readBean load className known archive with
  | error cause =>
      rw [read] at failed
      cases failed
      rfl
  | ok defaults =>
      rw [read] at failed
      cases failed

variable {modules : Bean.Modules}

/-- Neither a constructor nor a getter adds another kind of fault. -/
theorem loadingFault_of_defaults
    (failed : (ofLoader (.ofModules modules)).defaults className known archive = .error fault) :
    Bean.LoadingFault className fault := by
  rcases fault_of_readBean (readBean_of_defaults_eq_error failed) with missing | ⟨loaded, failure⟩
  · apply Bean.Modules.loadingFault_of_find
    cases found : modules.find className with
    | error cause =>
        rw [Bean.Loader.ofModules, found] at missing
        cases missing
        rfl
    | ok imported =>
        rw [Bean.Loader.ofModules, found] at missing
        cases missing
  · rw [Bean.LoadingFault, if_neg]
    · exact failure
    · intro relative
      rcases modules.find_of_relative relative with ⟨cause, found⟩
      rcases loaded with ⟨bean, loaded⟩
      rw [Bean.Loader.ofModules, found] at loaded
      cases loaded

end Introspector

end ServerResources
