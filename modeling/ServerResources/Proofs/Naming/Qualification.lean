import ServerResources.Proofs.Naming.Scopes

/-!
# Names behind their owners

An owned name is kept behind its owner and a slash.  Nothing is escaped, so the slash that
was put in cannot be told from one of the owner or of the name, and two pairs of owner and
name make one text if one owner goes on where the other ends: with a slash and what stands
before a slash of the other's name.

That name is in a scope, and a scope ends with its first slash.  So what the longer owner
goes on with begins with the scope, and owners that do not go on like this keep all their
names apart.
-/

namespace ServerResources

namespace Text

/-! ## Where a slash was put in -/

/-- Whether a text goes on where a shorter one ends: with a slash and the part of `front`
before a slash, after which `back` is left. -/
def GoesOn (short front long back : String) : Prop :=
  ∃ between, long = short ++ "/" ++ between ∧ front = between ++ "/" ++ back

/-- A longer text covers nothing of what follows the shorter one, or it covers the slash. -/
theorem eq_or_goesOn {short front long back : String} {between : List Char}
    (longer : long.toList = short.toList ++ between)
    (rest : '/' :: front.toList = between ++ '/' :: back.toList) :
    (short = long ∧ front = back) ∨ GoesOn short front long back := by
  rcases List.cons_eq_append_iff.mp rest with ⟨rfl, same⟩ | ⟨covered, rfl, same⟩
  · rw [List.append_nil] at longer
    rw [List.cons.injEq] at same
    exact .inl ⟨String.toList_injective longer.symm, String.toList_injective same.2.symm⟩
  · refine .inr ⟨String.ofList covered, ?_, ?_⟩
    · apply String.toList_injective
      simpa using longer
    · apply String.toList_injective
      simpa using same

/-- Two texts with a slash put in are equal just if they have the same parts or one part
goes on where the other ends. -/
theorem append_slash_eq_iff (left front right back : String) :
    left ++ "/" ++ front = right ++ "/" ++ back ↔
      (left = right ∧ front = back) ∨
        GoesOn left front right back ∨ GoesOn right back left front := by
  constructor
  · intro same
    have characters : left.toList ++ '/' :: front.toList = right.toList ++ '/' :: back.toList := by
      simpa using congrArg String.toList same
    rcases List.append_eq_append_iff.mp characters with
      ⟨between, longer, rest⟩ | ⟨between, longer, rest⟩
    · rcases eq_or_goesOn longer rest with equal | goesOn
      · exact .inl equal
      · exact .inr (.inl goesOn)
    · rcases eq_or_goesOn longer rest with ⟨rfl, rfl⟩ | goesOn
      · exact .inl ⟨rfl, rfl⟩
      · exact .inr (.inr goesOn)
  · rintro (⟨rfl, rfl⟩ | ⟨between, rfl, rfl⟩ | ⟨between, rfl, rfl⟩)
    · rfl
    · simp only [String.append_assoc]
    · simp only [String.append_assoc]

theorem begins_iff_exists (start text : String) :
    begins start text = true ↔ ∃ rest, text = start ++ rest := by
  constructor
  · intro starts
    obtain ⟨rest, same⟩ := (begins_iff start text).mp starts
    refine ⟨String.ofList rest, ?_⟩
    apply String.toList_injective
    simpa using same.symm
  · rintro ⟨rest, rfl⟩
    exact begins_append start rest

/-- A text that has no slash of its own before the first one of another text is where that
one begins. -/
theorem begins_of_append_slash {stem head rest : String} (slashless : '/' ∉ stem.toList)
    (starts : begins (stem ++ "/") (head ++ "/" ++ rest) = true) : begins stem head = true := by
  obtain ⟨after, same⟩ := (begins_iff_exists _ _).mp starts
  rcases (append_slash_eq_iff head rest stem after).mp same with
    ⟨rfl, -⟩ | ⟨between, rfl, -⟩ | ⟨between, rfl, -⟩
  · exact (begins_iff head head).mpr List.prefix_rfl
  · simp at slashless
  · rw [String.append_assoc]
    exact begins_append stem _

/-- What goes on with a part of a name in a scope goes on with the scope. -/
theorem GoesOn.begins {short front long back scope : String}
    (goesOn : GoesOn short front long back) (slashless : '/' ∉ scope.toList)
    (inScope : Text.begins (scope ++ "/") front = true) :
    Text.begins (short ++ "/" ++ scope) long = true := by
  obtain ⟨between, rfl, rfl⟩ := goesOn
  obtain ⟨rest, rfl⟩ := (begins_iff_exists _ _).mp (begins_of_append_slash slashless inScope)
  rw [← String.append_assoc]
  exact begins_append _ rest

theorem GoesOn.slash_mem {short front long back : String}
    (goesOn : GoesOn short front long back) : '/' ∈ long.toList := by
  obtain ⟨between, rfl, -⟩ := goesOn
  simp

end Text

namespace Settings

/-! ## Resource names of owned names -/

section Owned

variable {settings : Settings} {left right name other : String}

/-- An owned name has its owner and a slash in front. -/
theorem resourceName_of_owned (given : left ≠ "") (owned : settings.isOwned name = true) :
    settings.resourceName (some left) name =
      settings.sessionNamespace ++ (left ++ "/" ++ name) := by
  simp [resourceName, qualified, given, owned]

/-- When two owners keep two names under one resource name. -/
theorem resourceName_eq_iff (leftGiven : left ≠ "") (rightGiven : right ≠ "")
    (nameOwned : settings.isOwned name = true) (otherOwned : settings.isOwned other = true) :
    settings.resourceName (some left) name = settings.resourceName (some right) other ↔
      (left = right ∧ name = other) ∨
        Text.GoesOn left name right other ∨ Text.GoesOn right other left name := by
  rw [resourceName_of_owned leftGiven nameOwned, resourceName_of_owned rightGiven otherOwned,
    String.append_right_inj, Text.append_slash_eq_iff]

end Owned

/-! ## The usual scopes -/

/-- The scopes in which a name is unique only within its owner, under the usual settings. -/
def ownedScopes : List String := ["java:comp", "java:module"]

/-- The scopes in which a name is visible outside its bundle, under the usual settings. -/
def sharedScopes : List String := ["java:app", "java:global"]

/-- Whether a name is in one of some scopes. -/
def InScopes (scopes : List String) (name : String) : Prop :=
  ∃ scope ∈ scopes, Text.begins (scope ++ "/") name = true

instance (scopes : List String) (name : String) : Decidable (InScopes scopes name) :=
  inferInstanceAs (Decidable (∃ scope ∈ scopes, _))

/-- Whether an owner begins with another one, a slash and one of the scopes of owned
names. -/
def Overreaches (long short : String) : Prop :=
  ∃ scope ∈ ownedScopes, Text.begins (short ++ "/" ++ scope) long = true

instance (long short : String) : Decidable (Overreaches long short) :=
  inferInstanceAs (Decidable (∃ scope ∈ ownedScopes, _))

/-- A scope has no slash but the one after it. -/
theorem slashless_of_mem {scope : String} (member : scope ∈ ownedScopes ++ sharedScopes) :
    '/' ∉ scope.toList := by
  revert scope
  decide

theorem isOwned_iff (name : String) :
    ({} : Settings).isOwned name = true ↔ InScopes ownedScopes name := by
  simp [isOwned, InScopes, ownedScopes]

/-- No name is in scopes of both kinds. -/
theorem isOwned_eq_false_of_shared {name : String} (shared : InScopes sharedScopes name) :
    ({} : Settings).isOwned name = false := by
  have apart : ∀ scope ∈ sharedScopes, Text.overlap (scope ++ "/") "java:comp/" = false ∧
      Text.overlap (scope ++ "/") "java:module/" = false := by
    decide +kernel
  obtain ⟨scope, member, starts⟩ := shared
  obtain ⟨component, module⟩ := apart scope member
  rw [isOwned, Text.not_begins_of_apart component starts, Text.not_begins_of_apart module starts,
    Bool.or_false]

theorem Overreaches.of_goesOn {short front long back : String}
    (goesOn : Text.GoesOn short front long back) (inScope : InScopes ownedScopes front) :
    Overreaches long short := by
  obtain ⟨scope, member, starts⟩ := inScope
  exact ⟨scope, member, goesOn.begins (slashless_of_mem (List.mem_append_left _ member)) starts⟩

/-- Under the usual settings, owners keep owned names apart unless one owner goes on after
another like a name in one of their scopes; an owner keeps them apart from the shared names
unless it looks like one of those itself; and no other name depends on an owner. -/
theorem owners_keep_names_apart :
    let usual : Settings := {}
    (∀ left right name other, left ≠ "" → right ≠ "" →
      InScopes ownedScopes name → InScopes ownedScopes other →
      usual.resourceName (some left) name = usual.resourceName (some right) other →
        (left = right ∧ name = other) ∨ Overreaches left right ∨ Overreaches right left) ∧
    (∀ left right name other, left ≠ "" → right ≠ "" →
      InScopes ownedScopes name → InScopes ownedScopes other →
      '/' ∉ left.toList → '/' ∉ right.toList →
      usual.resourceName (some left) name = usual.resourceName (some right) other →
        left = right ∧ name = other) ∧
    (∀ owner name shared any, owner ≠ "" →
      InScopes ownedScopes name → InScopes sharedScopes shared →
      usual.resourceName (some owner) name = usual.resourceName any shared →
        ∃ scope ∈ sharedScopes, Text.begins scope owner = true) ∧
    ∀ name, ¬ InScopes ownedScopes name →
      (∀ any, usual.resourceName any name = usual.resourceName none name) ∧
      ∀ other, ¬ InScopes ownedScopes other → ∀ left right,
        usual.resourceName left name = usual.resourceName right other → name = other := by
  intro usual
  refine ⟨?_, ?_, ?_, ?_⟩
  · intro left right name other leftGiven rightGiven nameOwned otherOwned same
    rw [resourceName_eq_iff leftGiven rightGiven ((isOwned_iff name).mpr nameOwned)
      ((isOwned_iff other).mpr otherOwned)] at same
    rcases same with equal | goesOn | goesOn
    · exact .inl equal
    · exact .inr (.inr (.of_goesOn goesOn nameOwned))
    · exact .inr (.inl (.of_goesOn goesOn otherOwned))
  · intro left right name other leftGiven rightGiven nameOwned otherOwned leftSlashless
      rightSlashless same
    rw [resourceName_eq_iff leftGiven rightGiven ((isOwned_iff name).mpr nameOwned)
      ((isOwned_iff other).mpr otherOwned)] at same
    rcases same with equal | goesOn | goesOn
    · exact equal
    · exact (rightSlashless goesOn.slash_mem).elim
    · exact (leftSlashless goesOn.slash_mem).elim
  · intro owner name shared any given owned inShared same
    obtain ⟨scope, member, starts⟩ := inShared
    rw [resourceName_of_owned given ((isOwned_iff name).mpr owned),
      resourceName_of_not_owned (isOwned_eq_false_of_shared ⟨scope, member, starts⟩),
      String.append_right_inj] at same
    refine ⟨scope, member, ?_⟩
    apply Text.begins_of_append_slash (slashless_of_mem (List.mem_append_right _ member))
    rw [same]
    exact starts
  · intro name notOwned
    have plain : ∀ other, ¬ InScopes ownedScopes other → ∀ any,
        usual.resourceName any other = usual.sessionNamespace ++ other := by
      intro other otherNotOwned any
      apply resourceName_of_not_owned
      rw [← Bool.not_eq_true, isOwned_iff]
      exact otherNotOwned
    constructor
    · intro any
      rw [plain name notOwned, plain name notOwned]
    · intro other otherNotOwned left right same
      rw [plain name notOwned, plain other otherNotOwned, String.append_right_inj] at same
      exact same

/-- Two owners of which the longer goes on like a name of the shorter, and two that keep all
names apart. -/
theorem owners_keep_names_apart_shop :
    let usual : Settings := {}
    (usual.resourceName (some "shop") "java:comp/java:module/mail" =
        usual.resourceName (some "shop/java:comp") "java:module/mail" ∧
      Overreaches "shop/java:comp" "shop") ∧
    usual.resourceName (some "shop") "java:comp/mail" ≠
      usual.resourceName (some "bank") "java:comp/mail" ∧
    usual.resourceName (some "shop") "java:comp/mail" ≠
      usual.resourceName (some "shop") "java:app/mail" ∧
    usual.resourceName (some "shop") "mail" = usual.resourceName none "mail" ∧
    usual.resourceName (some "shop") "mail" ≠ usual.resourceName none "java:app/mail" := by
  intro usual
  obtain ⟨collision, slashless, shared, unowned⟩ := owners_keep_names_apart
  have inComponent : InScopes ownedScopes "java:comp/mail" := by
    decide +kernel
  have same : usual.resourceName (some "shop") "java:comp/java:module/mail" =
      usual.resourceName (some "shop/java:comp") "java:module/mail" := by
    decide +kernel
  refine ⟨⟨same, ?_⟩, ?_, ?_, ?_, ?_⟩
  · rcases collision "shop" "shop/java:comp" "java:comp/java:module/mail" "java:module/mail"
        (by decide) (by decide) (by decide +kernel) (by decide +kernel) same with
      ⟨equal, -⟩ | short | long
    · exact absurd equal (by decide)
    · exact absurd short (by decide +kernel)
    · exact long
  · intro equal
    have owners := slashless "shop" "bank" _ _ (by decide) (by decide) inComponent inComponent
      (by decide) (by decide) equal
    exact absurd owners.1 (by decide)
  · intro equal
    have prefixed := shared "shop" _ "java:app/mail" _ (by decide) inComponent (by decide +kernel)
      equal
    exact absurd prefixed (by decide +kernel)
  · exact (unowned "mail" (by decide +kernel)).1 (some "shop")
  · intro equal
    have names := (unowned "mail" (by decide +kernel)).2 "java:app/mail" (by decide +kernel) _ _
      equal
    exact absurd names (by decide)

end Settings

end ServerResources
