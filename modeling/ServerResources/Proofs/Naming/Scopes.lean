import ServerResources.Naming.ResourceName

/-!
# Scopes and name spaces that overlap

A scope, and the name space of the server, is all names that begin with its prefix.
Two of them have a name in common exactly if one of the prefixes begins with the
other.  Whether a name is in a scope therefore says nothing about another scope only
if the prefixes do not overlap, and that is a condition on the settings.
-/

namespace ServerResources

namespace Text

/-- Whether one of two texts begins with the other. -/
def overlap (left right : String) : Bool :=
  begins left right || begins right left

theorem begins_append (start rest : String) : begins start (start ++ rest) = true := by
  rw [begins_iff, String.toList_append]
  exact List.prefix_append _ _

/-- Two prefixes overlap exactly if some text begins with both. -/
theorem overlap_iff_exists (left right : String) :
    overlap left right = true ↔ ∃ text, begins left text = true ∧ begins right text = true := by
  simp only [overlap, Bool.or_eq_true]
  constructor
  · rintro (shorter | longer)
    · exact ⟨right, shorter, (begins_iff right right).mpr List.prefix_rfl⟩
    · exact ⟨left, (begins_iff left left).mpr List.prefix_rfl, longer⟩
  · rintro ⟨text, ofLeft, ofRight⟩
    simp only [begins_iff] at ofLeft ofRight ⊢
    exact List.prefix_or_prefix_of_prefix ofLeft ofRight

/-- A text begins with at most one of two prefixes that do not overlap. -/
theorem not_begins_of_apart {left right text : String} (apart : overlap left right = false)
    (ofLeft : begins left text = true) : begins right text = false := by
  rw [← Bool.not_eq_true]
  intro ofRight
  have both := (overlap_iff_exists left right).mpr ⟨text, ofLeft, ofRight⟩
  exact Bool.false_ne_true (apart.symm.trans both)

end Text

namespace Settings

variable (settings : Settings)

/-- No name is both in the scope of the application and in that of a component or a
module. -/
def ScopesApart : Prop :=
  Text.overlap settings.applicationScope settings.componentScope = false ∧
    Text.overlap settings.applicationScope settings.moduleScope = false

instance : Decidable settings.ScopesApart :=
  inferInstanceAs (Decidable (_ ∧ _))

/-- No name that is shared under some rules is in the name space of the server. -/
def ReservesNames (rules : Settings) : Prop :=
  Text.overlap settings.sessionNamespace rules.applicationScope = false ∧
    Text.overlap settings.sessionNamespace rules.globalScope = false

instance (rules : Settings) : Decidable (settings.ReservesNames rules) :=
  inferInstanceAs (Decidable (_ ∧ _))

variable {settings}

theorem ScopesApart.isOwned_eq_false (apart : settings.ScopesApart) {name : String}
    (inScope : Text.begins settings.applicationScope name = true) :
    settings.isOwned name = false := by
  rw [isOwned, Text.not_begins_of_apart apart.1 inScope,
    Text.not_begins_of_apart apart.2 inScope, Bool.or_false]

theorem ReservesNames.isShared_eq_false {rules : Settings}
    (reserved : settings.ReservesNames rules) {name : String}
    (inside : Text.begins settings.sessionNamespace name = true) :
    rules.isShared name = false := by
  rw [isShared, Text.not_begins_of_apart reserved.1 inside,
    Text.not_begins_of_apart reserved.2 inside, Bool.or_false]

/-- If the scopes overlap, some name in the scope of the application is unique only
within its owner. -/
theorem exists_owned_of_not_apart (overlapping : ¬ settings.ScopesApart) :
    ∃ name, Text.begins settings.applicationScope name = true ∧
      settings.isOwned name = true := by
  have shared : Text.overlap settings.applicationScope settings.componentScope = true ∨
      Text.overlap settings.applicationScope settings.moduleScope = true := by
    rw [ScopesApart, Decidable.not_and_iff_not_or_not, Bool.not_eq_false, Bool.not_eq_false]
      at overlapping
    exact overlapping
  rcases shared with component | module
  · rcases (Text.overlap_iff_exists _ _).mp component with ⟨name, inScope, owned⟩
    exact ⟨name, inScope, by rw [isOwned, owned, Bool.true_or]⟩
  · rcases (Text.overlap_iff_exists _ _).mp module with ⟨name, inScope, owned⟩
    exact ⟨name, inScope, by rw [isOwned, owned, Bool.or_true]⟩

/-- Only an owned name has its owner in front. -/
theorem resourceName_of_not_owned {name : String} (notOwned : settings.isOwned name = false)
    (owner : Option String) :
    settings.resourceName owner name = settings.sessionNamespace ++ name := by
  cases owner with
  | none => rfl
  | some owner => simp [resourceName, qualified, notOwned]

/-- The owner makes a difference to an owned name. -/
theorem resourceName_some_ne_none {owner name : String} (given : owner ≠ "")
    (owned : settings.isOwned name = true) :
    settings.resourceName (some owner) name ≠ settings.resourceName none name := by
  intro same
  have lengths := congrArg String.length same
  simp only [resourceName, qualified, given, owned, ne_eq, not_false_eq_true, and_self, if_true,
    String.length_append] at lengths
  have slash : String.length "/" = 1 := rfl
  omega

/-- Every resource name is in the name space of the server. -/
theorem begins_resourceName (owner : Option String) (name : String) :
    Text.begins settings.sessionNamespace (settings.resourceName owner name) = true :=
  Text.begins_append _ _

end Settings

end ServerResources
