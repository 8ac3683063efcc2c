import Mathlib.Data.List.Forall2
import ServerResources.Bean
import ServerResources.Proofs.LastByKey
import ServerResources.Proofs.OrderedMap

/-!
# What a class offers

A reader of a bean sees of each name one member, whatever else the chain of classes declares:
the last one of the most derived class that has any.  If that is a public property with a
getter and a setter the bean offers it, and otherwise it offers nothing under the name, even
if a hidden member would do.

Reading depends on the attributes and on what is offered only.  So the order of declarations
does not matter as long as those of one name keep theirs, and neither does what stands in a
place from where nothing is offered.
-/

namespace ServerResources.Bean

/-! ## Visible members -/

/-- Whether a member is the last one that is declared under a name by the most derived class
that has any. -/
def Shows (bean : Bean) (name : String) (member : Member) : Prop :=
  ∃ derived layer base, bean.layers = derived ++ layer :: base ∧
    (∀ other ∈ derived, name ∉ other.members.map Prod.fst) ∧
      IsLastBy Prod.fst layer.members (name, member)

/-- Whether a name is that of a public property with this getter and with a setter. -/
def Offers (bean : Bean) (name : String) (getter : Getter) : Prop :=
  Text.begins "_" name = false ∧ bean.Shows name (.property (some getter) true)

variable {bean : Bean} {name : String}

theorem Layer.member?_eq_some_iff (layer : Layer) (name : String) (member : Member) :
    layer.member? name = some member ↔ IsLastBy Prod.fst layer.members (name, member) := by
  rw [Layer.member?, OrderedMap.find_eq_some_iff_append]
  constructor
  · rintro ⟨later, earlier, split, absent⟩
    refine ⟨earlier.reverse, later.reverse, by simpa using congrArg List.reverse split, ?_⟩
    intro other found same
    exact absent (List.mem_map.mpr ⟨other, List.mem_reverse.mp found, same⟩)
  · rintro ⟨earlier, later, split, others⟩
    refine ⟨later.reverse, earlier.reverse, by simp [split], ?_⟩
    intro present
    obtain ⟨other, found, same⟩ := List.mem_map.mp present
    exact others other (List.mem_reverse.mp found) same

theorem Layer.member?_eq_none_iff (layer : Layer) (name : String) :
    layer.member? name = none ↔ name ∉ layer.members.map Prod.fst := by
  rw [← Option.not_isSome_iff_eq_none, Layer.member?, OrderedMap.find_isSome, List.map_reverse,
    List.mem_reverse]

theorem visible_eq_some_iff (bean : Bean) (name : String) (member : Member) :
    bean.visible name = some member ↔ bean.Shows name member := by
  simp only [visible, List.findSome?_eq_some_iff, Shows, Layer.member?_eq_some_iff,
    Layer.member?_eq_none_iff]
  constructor
  · rintro ⟨derived, layer, base, split, declares, absent⟩
    exact ⟨derived, layer, base, split, absent, declares⟩
  · rintro ⟨derived, layer, base, split, absent, declares⟩
    exact ⟨derived, layer, base, split, declares, absent⟩

theorem readable_eq_some_iff (bean : Bean) (name : String) (getter : Getter) :
    bean.readable name = some getter ↔ bean.Offers name getter := by
  rw [Offers, ← visible_eq_some_iff, readable, isPublic]
  cases Text.begins "_" name with
  | true => simp
  | false =>
      simp only [Bool.not_false, if_true, true_and]
      constructor
      · intro offered
        split at offered
        next found => rw [found, ← Option.some.inj offered]
        next => cases offered
      · intro found
        rw [found]

theorem mem_memberNames_of_offers {getter : Getter} (offers : bean.Offers name getter) :
    name ∈ bean.memberNames := by
  obtain ⟨-, derived, layer, base, split, -, last⟩ := offers
  rw [memberNames, Ascending.mem_ofList, split]
  have declared : name ∈ layer.members.map Prod.fst := List.mem_map_of_mem last.mem
  simp [declared]

/-- The names of what is offered, ascending. -/
def offeredNames (bean : Bean) : List String :=
  bean.memberNames.filter fun name => (bean.readable name).isSome

theorem mem_offeredNames_iff (bean : Bean) (name : String) :
    name ∈ bean.offeredNames ↔ (bean.readable name).isSome = true := by
  rw [offeredNames, List.mem_filter, and_iff_right_iff_imp]
  intro present
  obtain ⟨getter, found⟩ := Option.isSome_iff_exists.mp present
  exact mem_memberNames_of_offers ((readable_eq_some_iff bean name getter).mp found)

theorem pairwise_offeredNames (bean : Bean) : bean.offeredNames.Pairwise (· < ·) :=
  (Ascending.pairwise_ofList _).filter _

/-! ## Beans that offer the same -/

/-- Two beans that a reader cannot tell apart. -/
structure OffersAlike (left right : Bean) : Prop where
  readable_eq : ∀ name, left.readable name = right.readable name
  attributes_eq : left.attributes = right.attributes
  constructorFailure_eq : left.constructorFailure = right.constructorFailure

theorem OffersAlike.of_offers {left right : Bean}
    (attributes_eq : left.attributes = right.attributes)
    (constructorFailure_eq : left.constructorFailure = right.constructorFailure)
    (offers_iff : ∀ name getter, left.Offers name getter ↔ right.Offers name getter) :
    OffersAlike left right := by
  refine ⟨?_, attributes_eq, constructorFailure_eq⟩
  intro name
  apply Option.ext
  intro getter
  rw [readable_eq_some_iff, readable_eq_some_iff, offers_iff]

theorem OffersAlike.offeredNames_eq {left right : Bean} (alike : OffersAlike left right) :
    left.offeredNames = right.offeredNames := by
  apply Ascending.eq_of_mem_iff left.pairwise_offeredNames right.pairwise_offeredNames
  intro name
  rw [mem_offeredNames_iff, mem_offeredNames_iff, alike.readable_eq]

theorem readable_congr {left right : Bean}
    (same : left.visible name = right.visible name) : left.readable name = right.readable name := by
  rw [readable, readable, same]

theorem visible_cons (layer : Layer) (base : List Layer) (name : String) :
    (⟨layer :: base⟩ : Bean).visible name =
      (layer.member? name).or ((⟨base⟩ : Bean).visible name) := by
  rw [visible, List.findSome?_cons]
  cases layer.member? name <;> rfl

theorem visible_append (derived base : List Layer) (name : String) :
    (⟨derived ++ base⟩ : Bean).visible name =
      ((⟨derived⟩ : Bean).visible name).or ((⟨base⟩ : Bean).visible name) :=
  List.findSome?_append

/-! ### In another order -/

/-- Two layers that differ in the order of their declarations only, and not in the order of
those of one name. -/
structure Layer.Reordered (left right : Layer) : Prop where
  attributes_eq : left.attributes = right.attributes
  constructorFailure_eq : left.constructorFailure = right.constructorFailure
  writesAttributes_eq : left.writesAttributes = right.writesAttributes
  declarations_eq : ∀ name, (left.members.filter fun declared => decide (declared.1 = name)) =
    right.members.filter fun declared => decide (declared.1 = name)

namespace Layer.Reordered

theorem refl (layer : Layer) : Layer.Reordered layer layer :=
  ⟨rfl, rfl, rfl, fun _ => rfl⟩

/-- Declarations with different names are reordered by any permutation. -/
theorem of_perm (layer : Layer) {members : List (String × Member)}
    (permuted : layer.members.Perm members) (distinct : (layer.members.map Prod.fst).Nodup) :
    Layer.Reordered layer { layer with members := members } := by
  refine ⟨rfl, rfl, rfl, ?_⟩
  intro name
  have apart : ∀ {members : List (String × Member)}, (members.map Prod.fst).Nodup →
      (members.filter fun declared => decide (declared.1 = name)).Pairwise
        fun one other => one.1 ≠ other.1 := by
    intro members distinct
    exact (List.pairwise_map.mp distinct).filter _
  refine (permuted.filter _).eq_of_pairwise ?_ (apart distinct)
    (apart ((permuted.map Prod.fst).nodup_iff.mp distinct))
  -- there are no two members of one name
  intro one other oneMember otherMember different _
  simp only [List.mem_filter, decide_eq_true_eq] at oneMember otherMember
  exact (different (oneMember.2.trans otherMember.2.symm)).elim

theorem member?_eq {left right : Layer} (reordered : Layer.Reordered left right)
    (name : String) : left.member? name = right.member? name := by
  have own : ∀ layer : Layer, layer.member? name = OrderedMap.find name
      (layer.members.filter fun declared => decide (declared.1 = name)).reverse := by
    intro layer
    rw [← List.filter_reverse, OrderedMap.find_filter fun other => decide (other = name)]
    simp [Layer.member?]
  rw [own, own, reordered.declarations_eq]

end Layer.Reordered

theorem OffersAlike.of_reordered {left right : Bean}
    (reordered : List.Forall₂ Layer.Reordered left.layers right.layers) :
    OffersAlike left right := by
  obtain ⟨left⟩ := left
  obtain ⟨right⟩ := right
  change List.Forall₂ Layer.Reordered left right at reordered
  have same : (∀ name, visible ⟨left⟩ name = visible ⟨right⟩ name) ∧
      attributes ⟨left⟩ = attributes ⟨right⟩ ∧
      constructorFailure ⟨left⟩ = constructorFailure ⟨right⟩ := by
    induction reordered with
    | nil => exact ⟨fun _ => rfl, rfl, rfl⟩
    | cons layer _ ih =>
        obtain ⟨visible_eq, attributes_eq, constructorFailure_eq⟩ := ih
        refine ⟨?_, ?_, ?_⟩
        · intro name
          rw [visible_cons, visible_cons, layer.member?_eq, visible_eq]
        · simp only [attributes, List.foldr_cons, layer.attributes_eq,
            layer.writesAttributes_eq] at attributes_eq ⊢
          rw [attributes_eq]
        · simp only [constructorFailure, List.findSome?_cons,
            layer.constructorFailure_eq] at constructorFailure_eq ⊢
          rw [constructorFailure_eq]
  exact ⟨fun name => readable_congr (same.1 name), same.2.1, same.2.2⟩

theorem OffersAlike.of_perm (derived base : List Layer) {layer : Layer}
    {members : List (String × Member)} (permuted : layer.members.Perm members)
    (distinct : (layer.members.map Prod.fst).Nodup) :
    OffersAlike ⟨derived ++ layer :: base⟩
      ⟨derived ++ { layer with members := members } :: base⟩ := by
  have same : ∀ layers : List Layer, List.Forall₂ Layer.Reordered layers layers :=
    fun layers => List.forall₂_same.mpr fun layer _ => Layer.Reordered.refl layer
  apply of_reordered
  exact List.rel_append (same derived) (.cons (.of_perm layer permuted distinct) (same base))

/-! ### With other declarations -/

/-- Whether a member is a property with a getter and a setter. -/
def Member.isFull : Member → Bool
  | .property (some _) true => true
  | _ => false

/-- The declaration of a member under a name, if there is one. -/
def declaring (name : String) (member : Option Member) : List (String × Member) :=
  (member.map (Prod.mk name)).toList

/-- Whether nothing is offered from a place among the declarations of a class, neither with
one declaration there nor with another: the name is private, or it is hidden by a later
declaration or a more derived class, or both members are read-only, write-only or no
properties. -/
def Ineffective (derived : List Layer) (later : List (String × Member)) (name : String)
    (old new : Option Member) : Prop :=
  Text.begins "_" name = true ∨ name ∈ later.map Prod.fst ∨
    (∃ layer ∈ derived, name ∈ layer.members.map Prod.fst) ∨
    ∃ oldMember newMember, old = some oldMember ∧ new = some newMember ∧
      oldMember.isFull = false ∧ newMember.isFull = false

/-- The class whose declarations at some place are given. -/
def placing (derived : List Layer) (layer : Layer) (base : List Layer)
    (earlier later : List (String × Member)) (name : String) (member : Option Member) : Bean :=
  ⟨derived ++ { layer with members := earlier ++ declaring name member ++ later } :: base⟩

theorem visible_placing (derived : List Layer) (layer : Layer) (base : List Layer)
    (earlier later : List (String × Member)) (name other : String) (member : Option Member) :
    (placing derived layer base earlier later name member).visible other =
      (((⟨derived⟩ : Bean).visible other).or (OrderedMap.find other later.reverse)).or
        ((if other = name then member else none).or
          ((OrderedMap.find other earlier.reverse).or ((⟨base⟩ : Bean).visible other))) := by
  have placed : OrderedMap.find other (declaring name member).reverse =
      if other = name then member else none := by
    cases member with
    | none => simp [declaring, OrderedMap.find]
    | some member => simp [declaring, OrderedMap.find, eq_comm]
  rw [placing, visible_append, visible_cons, Layer.member?, List.reverse_append,
    List.reverse_append, OrderedMap.find_append, OrderedMap.find_append, placed]
  simp only [Option.or_assoc]

/-- A full property is offered only by itself. -/
theorem readable_eq_none_of_visible {member : Member} (found : bean.visible name = some member)
    (half : member.isFull = false) : bean.readable name = none := by
  rw [readable, found]
  rcases member with _ | ⟨_ | getter, _ | _⟩
  · simp
  · simp
  · simp
  · simp
  · cases half

theorem OffersAlike.of_ineffective {derived : List Layer} {later : List (String × Member)}
    {old new : Option Member} (ineffective : Ineffective derived later name old new)
    (layer : Layer) (base : List Layer) (earlier : List (String × Member)) :
    OffersAlike (placing derived layer base earlier later name old)
      (placing derived layer base earlier later name new) := by
  have hidden : (((⟨derived⟩ : Bean).visible name).or
        (OrderedMap.find name later.reverse)).isSome = true →
      (placing derived layer base earlier later name old).readable name =
        (placing derived layer base earlier later name new).readable name := by
    intro present
    obtain ⟨member, found⟩ := Option.isSome_iff_exists.mp present
    apply readable_congr
    rw [visible_placing, visible_placing, found, Option.some_or, Option.some_or]
  refine ⟨?_, ?_, ?_⟩
  · intro other
    by_cases here : other = name
    · subst here
      rcases ineffective with isPrivate | declared | declared | halves
      · simp [readable, isPublic, isPrivate]
      · apply hidden
        rw [Option.isSome_or, Bool.or_eq_true, OrderedMap.find_isSome]
        exact .inr (by simpa using declared)
      · obtain ⟨front, member, declared⟩ := declared
        apply hidden
        rw [Option.isSome_or, Bool.or_eq_true, visible, List.findSome?_isSome_iff]
        refine .inl ⟨front, member, ?_⟩
        rw [Layer.member?, OrderedMap.find_isSome]
        simpa using declared
      · obtain ⟨oldMember, newMember, rfl, rfl, oldHalf, newHalf⟩ := halves
        cases front : ((⟨derived⟩ : Bean).visible other).or
            (OrderedMap.find other later.reverse) with
        | some member => exact hidden (by rw [front]; rfl)
        | none =>
            have shown : ∀ member, (placing derived layer base earlier later other
                (some member)).visible other = some member := by
              intro member
              rw [visible_placing, front, if_pos rfl]
              rfl
            rw [readable_eq_none_of_visible (shown oldMember) oldHalf,
              readable_eq_none_of_visible (shown newMember) newHalf]
    · apply readable_congr
      rw [visible_placing, visible_placing, if_neg here, if_neg here]
  · simp only [attributes, placing, List.foldr_append, List.foldr_cons]
  · simp only [constructorFailure, placing, List.findSome?_append, List.findSome?_cons]

end ServerResources.Bean
