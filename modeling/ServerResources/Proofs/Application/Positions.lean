import Mathlib.Data.List.Lex
import Mathlib.Data.List.Nodup
import Mathlib.Data.List.Sort
import ServerResources.Application

/-!
# The positions of an application

A session stands at a position: in a bundle or in an extension of it, in the environment
of the bundle itself or in that of one of its components.  Positions have an order, which
is the order of nesting.

The walk visits a position if it lies in a bundle or in a direct extension of one, and if
its components count for the kind of that bundle or extension.  It visits each such
position exactly once, in order, and no others.
-/

namespace ServerResources

variable {μ ν : Type}

/-! ## Positions -/

/-- The components of a bundle, by what they are. -/
inductive ComponentKind where
  | ejb
  | interceptor
  | managedBean
  deriving DecidableEq, Repr

namespace ComponentKind

/-- The kinds in the order of their components. -/
def all : List ComponentKind :=
  [.ejb, .interceptor, .managedBean]

/-- The number of a kind among all. -/
def rank : ComponentKind → Nat
  | .ejb => 1
  | .interceptor => 2
  | .managedBean => 3

/-- Managed beans count everywhere, other components in enterprise bean modules only. -/
def CountsIn (kind : ComponentKind) (bundle : BundleKind) : Prop :=
  kind = .managedBean ∨ bundle = .ejb

instance (kind : ComponentKind) (bundle : BundleKind) : Decidable (kind.CountsIn bundle) :=
  inferInstanceAs (Decidable (_ ∨ _))

theorem mem_all (kind : ComponentKind) : kind ∈ all := by
  cases kind <;> decide

end ComponentKind

/-- A place in a bundle, without its extensions. -/
inductive Place where
  /-- In the environment of the bundle itself. -/
  | own (index : Nat)
  | component (kind : ComponentKind) (number index : Nat)
  deriving DecidableEq, Repr

/-- Whether the sessions at a place count in a bundle of some kind. -/
def Place.CountsIn (bundle : BundleKind) : Place → Prop
  | .own _ => True
  | .component kind _ _ => kind.CountsIn bundle

/-- A place in a bundle of an application, or in an extension that is reached from it by
the given steps. -/
structure Position where
  bundle : Nat
  extensions : List Nat
  place : Place
  deriving DecidableEq, Repr

/-- The numbers that tell a place from the others. -/
def Place.key : Place → List Nat
  | .own index => [0, index]
  | .component kind number index => [kind.rank, number, index]

/-- The numbers that tell a position from the others.  A zero ends the steps, so that a
bundle comes before its extensions. -/
def Position.key (position : Position) : List Nat :=
  position.bundle :: (position.extensions.map Nat.succ ++ 0 :: position.place.key)

/-- The order of nesting. -/
def Position.Before (position other : Position) : Prop :=
  position.key < other.key

instance (position other : Position) : Decidable (position.Before other) :=
  inferInstanceAs (Decidable (_ < _))

instance : Std.Irrefl Position.Before :=
  ⟨fun position => lt_irrefl position.key⟩

instance : Std.Antisymm Position.Before :=
  ⟨fun _ _ before after => (lt_asymm before after).elim⟩

/-- Positions in one bundle or extension are ordered by their places. -/
theorem Position.before_of_place (bundle : Nat) (extensions : List Nat) {place other : Place}
    (less : place.key < other.key) :
    Before ⟨bundle, extensions, place⟩ ⟨bundle, extensions, other⟩ := by
  have later : 0 :: place.key < 0 :: other.key := List.cons_lt_cons_self.mpr less
  exact List.cons_lt_cons_self.mpr (List.append_left_lt later)

/-! ## What stands at a position -/

namespace Bundle

/-- The components of a kind. -/
def components (bundle : Bundle μ) : ComponentKind → List (Component μ)
  | .ejb => bundle.ejbs
  | .interceptor => bundle.interceptors
  | .managedBean => bundle.managedBeans

/-- The session at a place. -/
def at? (bundle : Bundle μ) : Place → Option μ
  | .own index => bundle.sessions[index]?
  | .component kind number index =>
      (bundle.components kind)[number]?.bind fun component => component.sessions[index]?

/-- The extension that is reached by some steps. -/
def extension? : Bundle μ → List Nat → Option (Bundle μ)
  | bundle, [] => some bundle
  | bundle, index :: rest =>
      bundle.extensions[index]?.bind fun extension => extension.extension? rest

/-- There is a session at a place that counts. -/
def Visits (bundle : Bundle μ) (place : Place) : Prop :=
  (bundle.at? place).isSome = true ∧ place.CountsIn bundle.kind

end Bundle

namespace Application

/-- The bundle or extension in which a position lies. -/
def bundle? (application : Application μ) (position : Position) : Option (Bundle μ) :=
  application.bundles[position.bundle]?.bind fun bundle => bundle.extension? position.extensions

/-- The session at a position. -/
def at? (application : Application μ) (position : Position) : Option μ :=
  (application.bundle? position).bind fun bundle => bundle.at? position.place

/-- A position is one that registration visits: it lies in a bundle or in a direct
extension, at a place that counts for the kind of that bundle or extension. -/
def Visits (application : Application μ) (position : Position) : Prop :=
  position.extensions.length ≤ 1 ∧
    ∃ bundle, application.bundle? position = some bundle ∧ bundle.Visits position.place

end Application

/-! ## Listing the positions -/

/-- What comes of each item and its number. -/
def enumerate {α β : Type} (items : List α) (each : Nat → α → List β) : List β :=
  items.zipIdx.flatMap fun entry => each entry.2 entry.1

section Enumeration

variable {α β γ : Type} {items : List α} {each : Nat → α → List β}

theorem mem_enumerate_iff {value : β} :
    value ∈ enumerate items each ↔
      ∃ index item, items[index]? = some item ∧ value ∈ each index item := by
  simp only [enumerate, List.mem_flatMap, Prod.exists, List.mem_zipIdx_iff_getElem?]
  exact exists_comm

theorem pairwise_enumerate {before : β → β → Prop}
    (within : ∀ index item, items[index]? = some item → (each index item).Pairwise before)
    (across : ∀ first second item other, first < second → ∀ value ∈ each first item,
      ∀ later ∈ each second other, before value later) :
    (enumerate items each).Pairwise before := by
  rw [enumerate, List.pairwise_flatMap]
  constructor
  · intro entry member
    exact within _ _ (List.mem_zipIdx_iff_getElem?.mp member)
  · have ascending : (items.zipIdx.map Prod.snd).Pairwise (· < ·) := by
      rw [List.zipIdx_map_snd]
      exact List.pairwise_lt_range'
    exact (List.pairwise_map.mp ascending).imp fun less value member later laterMember =>
      across _ _ _ _ less value member later laterMember

theorem map_enumerate {function : β → Option γ} {image : α → List γ}
    (maps : ∀ index item, items[index]? = some item →
      (each index item).map function = (image item).map some) :
    (enumerate items each).map function = (items.flatMap image).map some := by
  have enumerated : items.flatMap image =
      items.zipIdx.flatMap fun entry => image entry.1 := by
    conv_lhs => rw [← List.zipIdx_map_fst 0 items]
    exact List.flatMap_map ..
  rw [enumerated, enumerate, List.map_flatMap, List.map_flatMap]
  apply List.flatMap_congr
  intro entry member
  exact maps _ _ (List.mem_zipIdx_iff_getElem?.mp member)

/-- The items under their numbers. -/
theorem map_getElem?_range (items : List α) :
    (List.range items.length).map (items[·]?) = items.map some := by
  apply List.ext_getElem
  · simp
  · intro index known _
    rw [List.length_map, List.length_range] at known
    simp [known]

end Enumeration

/-- The places in some components of a kind. -/
def Component.places (kind : ComponentKind) (components : List (Component μ)) : List Place :=
  enumerate components fun number component =>
    (List.range component.sessions.length).map (.component kind number)

/-- The places of a bundle that count. -/
def Bundle.places (bundle : Bundle μ) : List Place :=
  (List.range bundle.sessions.length).map .own ++
    ComponentKind.all.flatMap fun kind =>
      if kind.CountsIn bundle.kind then Component.places kind (bundle.components kind) else []

/-- The positions that registration visits in a bundle of a number. -/
def Bundle.positions (number : Nat) (bundle : Bundle μ) : List Position :=
  bundle.places.map (.mk number []) ++
    enumerate bundle.extensions fun step extension => extension.places.map (.mk number [step])

/-- The positions that registration visits. -/
def Application.positions (application : Application μ) : List Position :=
  enumerate application.bundles Bundle.positions

/-! ### The places of a bundle -/

namespace Component

variable (kind : ComponentKind) (components : List (Component μ))

theorem mem_places_iff (place : Place) :
    place ∈ places kind components ↔
      ∃ number index, place = .component kind number index ∧
        (components[number]?.bind fun component => component.sessions[index]?).isSome = true := by
  simp only [places, mem_enumerate_iff, List.mem_map, List.mem_range]
  constructor
  · rintro ⟨number, component, found, index, known, rfl⟩
    refine ⟨number, index, rfl, ?_⟩
    rw [found, Option.bind_some, List.getElem?_eq_getElem known]
    rfl
  · rintro ⟨number, index, rfl, present⟩
    rcases Option.isSome_iff_exists.mp present with ⟨session, found⟩
    rcases Option.bind_eq_some_iff.mp found with ⟨component, here, there⟩
    exact ⟨number, component, here, index, (List.getElem?_eq_some_iff.mp there).1, rfl⟩

theorem pairwise_places :
    (places kind components).Pairwise fun place other => place.key < other.key := by
  apply pairwise_enumerate
  · intro number component _
    rw [List.pairwise_map]
    apply List.pairwise_lt_range.imp
    intro first second less
    simp [Place.key, List.cons_lt_cons_iff, less]
  · intro first second component other less place member later laterMember
    rcases List.mem_map.mp member with ⟨index, -, rfl⟩
    rcases List.mem_map.mp laterMember with ⟨laterIndex, -, rfl⟩
    simp [Place.key, List.cons_lt_cons_iff, less]

/-- The sessions at the places are those of the components, in their order. -/
theorem map_places {read : Place → Option μ}
    (reads : ∀ number index, read (.component kind number index) =
      components[number]?.bind fun component => component.sessions[index]?) :
    (places kind components).map read = (components.flatMap Component.sessions).map some := by
  apply map_enumerate
  intro number component found
  rw [List.map_map, ← map_getElem?_range]
  apply List.map_congr_left
  intro index _
  rw [Function.comp_apply, reads, found, Option.bind_some]

end Component

namespace Bundle

variable (bundle : Bundle μ)

/-- Exactly the places that count are listed. -/
theorem mem_places_iff (place : Place) : place ∈ bundle.places ↔ bundle.Visits place := by
  rw [places, List.mem_append, List.mem_flatMap]
  cases place with
  | own index => simp [Visits, at?, Place.CountsIn, Component.mem_places_iff]
  | component kind number index =>
      simp only [List.mem_map, reduceCtorEq, and_false, exists_false, false_or, Visits, at?,
        Place.CountsIn]
      constructor
      · rintro ⟨other, -, member⟩
        split at member
        next counts =>
          rcases (Component.mem_places_iff _ _ _).mp member with ⟨_, _, same, present⟩
          cases same
          exact ⟨present, counts⟩
        next => cases member
      · rintro ⟨present, counts⟩
        refine ⟨kind, ComponentKind.mem_all kind, ?_⟩
        rw [if_pos counts, Component.mem_places_iff]
        exact ⟨number, index, rfl, present⟩

/-- Places are listed in their order. -/
theorem pairwise_places :
    bundle.places.Pairwise fun place other => place.key < other.key := by
  have rank : ∀ kind, ∀ place ∈ if kind.CountsIn bundle.kind then
        Component.places kind (bundle.components kind) else [],
      ∃ number index, place = .component kind number index := by
    intro kind place member
    split at member
    next =>
      rcases (Component.mem_places_iff _ _ _).mp member with ⟨number, index, same, -⟩
      exact ⟨number, index, same⟩
    next => cases member
  rw [places, List.pairwise_append, List.pairwise_map, List.pairwise_flatMap]
  refine ⟨?own, ⟨?within, ?across⟩, ?components⟩
  case own =>
    apply List.pairwise_lt_range.imp
    intro first second less
    simp [Place.key, List.cons_lt_cons_iff, less]
  case within =>
    intro kind _
    split
    next => exact Component.pairwise_places _ _
    next => exact List.Pairwise.nil
  case across =>
    have ascending : ComponentKind.all.Pairwise fun kind other => kind.rank < other.rank := by
      decide
    apply ascending.imp
    intro kind other less place member later laterMember
    rcases rank kind place member with ⟨number, index, rfl⟩
    rcases rank other later laterMember with ⟨laterNumber, laterIndex, rfl⟩
    simp [Place.key, List.cons_lt_cons_iff, less]
  case components =>
    intro place member later laterMember
    rcases List.mem_map.mp member with ⟨index, -, rfl⟩
    rcases List.mem_flatMap.mp laterMember with ⟨kind, -, listed⟩
    rcases rank kind later listed with ⟨number, laterIndex, rfl⟩
    have positive : 0 < kind.rank := by cases kind <;> decide
    simp [Place.key, List.cons_lt_cons_iff, positive]

/-- The sessions at the places are those of the environment. -/
theorem map_places : bundle.places.map bundle.at? = bundle.environment.map some := by
  have own : ((List.range bundle.sessions.length).map Place.own).map bundle.at? =
      bundle.sessions.map some := by
    rw [List.map_map, ← map_getElem?_range]
    rfl
  have components : ∀ kind, (Component.places kind (bundle.components kind)).map bundle.at? =
      ((bundle.components kind).flatMap Component.sessions).map some := by
    intro kind
    exact Component.map_places kind _ fun _ _ => rfl
  have ejbs := components .ejb
  have interceptors := components .interceptor
  have managedBeans := components .managedBean
  simp only [Bundle.components] at ejbs interceptors managedBeans
  rw [places, List.map_append, own, List.map_flatMap]
  by_cases isEjb : bundle.kind = .ejb
  · simp [environment, isEjb, ComponentKind.all, ComponentKind.CountsIn, Bundle.components, ejbs,
      interceptors, managedBeans]
  · simp [environment, isEjb, ComponentKind.all, ComponentKind.CountsIn, Bundle.components,
      managedBeans]

/-! ### The positions in a bundle -/

theorem mem_positions_iff (number : Nat) (position : Position) :
    position ∈ bundle.positions number ↔
      position.bundle = number ∧ position.extensions.length ≤ 1 ∧
        ∃ part, bundle.extension? position.extensions = some part ∧ part.Visits position.place := by
  rw [positions, List.mem_append, List.mem_map, mem_enumerate_iff]
  constructor
  · rintro (⟨place, member, rfl⟩ | ⟨step, extension, found, listed⟩)
    · exact ⟨rfl, Nat.zero_le 1, bundle, rfl, (bundle.mem_places_iff place).mp member⟩
    · rcases List.mem_map.mp listed with ⟨place, member, rfl⟩
      refine ⟨rfl, Nat.le_refl 1, extension, ?_, (extension.mem_places_iff place).mp member⟩
      rw [extension?, found, Option.bind_some, extension?]
  · rcases position with ⟨_, extensions, place⟩
    rintro ⟨rfl, short, part, reached, visits⟩
    rcases extensions with _ | ⟨step, _ | ⟨next, rest⟩⟩
    case nil =>
      cases reached
      exact .inl ⟨place, (bundle.mem_places_iff place).mpr visits, rfl⟩
    case cons.nil =>
      rcases Option.bind_eq_some_iff.mp reached with ⟨extension, found, here⟩
      cases here
      have listed := (part.mem_places_iff place).mpr visits
      exact .inr ⟨step, part, found, List.mem_map_of_mem listed⟩
    case cons.cons => simp at short

theorem pairwise_positions (number : Nat) :
    (bundle.positions number).Pairwise Position.Before := by
  have within : ∀ (part : Bundle μ) extensions,
      (part.places.map (Position.mk number extensions)).Pairwise Position.Before := by
    intro part extensions
    rw [List.pairwise_map]
    exact part.pairwise_places.imp fun less => Position.before_of_place number extensions less
  rw [positions, List.pairwise_append]
  refine ⟨within bundle [], ?extensions, ?across⟩
  case extensions =>
    apply pairwise_enumerate
    · intro step extension _
      exact within extension [step]
    · intro first second extension other less position member later laterMember
      rcases List.mem_map.mp member with ⟨place, -, rfl⟩
      rcases List.mem_map.mp laterMember with ⟨laterPlace, -, rfl⟩
      simp [Position.Before, Position.key, List.cons_lt_cons_iff, less]
  case across =>
    intro position member later laterMember
    rcases List.mem_map.mp member with ⟨place, -, rfl⟩
    rcases mem_enumerate_iff.mp laterMember with ⟨step, extension, -, listed⟩
    rcases List.mem_map.mp listed with ⟨laterPlace, -, rfl⟩
    simp [Position.Before, Position.key, List.cons_lt_cons_iff]

/-- The sessions at the positions in a bundle, its own before those of its extensions. -/
theorem map_positions (number : Nat) {read : Position → Option μ}
    (reads : ∀ extensions place, read ⟨number, extensions, place⟩ =
      (bundle.extension? extensions).bind fun part => part.at? place) :
    (bundle.positions number).map read =
      (bundle.environment ++ bundle.extensions.flatMap Bundle.environment).map some := by
  rw [positions, List.map_append, List.map_append]
  congr 1
  · rw [List.map_map, ← map_places]
    apply List.map_congr_left
    intro place _
    rw [Function.comp_apply, reads, extension?, Option.bind_some]
  · apply map_enumerate
    intro step extension found
    rw [List.map_map, ← map_places]
    apply List.map_congr_left
    intro place _
    rw [Function.comp_apply, reads, extension?, found, Option.bind_some, extension?,
      Option.bind_some]

end Bundle

/-! ### The positions of an application -/

namespace Application

variable (application : Application μ)

/-- Exactly the positions that registration visits are listed. -/
theorem mem_positions_iff (position : Position) :
    position ∈ application.positions ↔ application.Visits position := by
  simp only [positions, mem_enumerate_iff, Bundle.mem_positions_iff, Visits, bundle?]
  constructor
  · rintro ⟨number, bundle, found, rfl, short, part, reached, visits⟩
    refine ⟨short, part, ?_, visits⟩
    rw [found, Option.bind_some, reached]
  · rintro ⟨short, part, reached, visits⟩
    rcases Option.bind_eq_some_iff.mp reached with ⟨bundle, found, there⟩
    exact ⟨_, bundle, found, rfl, short, part, there, visits⟩

/-- Positions are listed in the order of nesting. -/
theorem pairwise_positions : application.positions.Pairwise Position.Before := by
  apply pairwise_enumerate
  · intro number bundle _
    exact bundle.pairwise_positions number
  · intro first second bundle other less position member later laterMember
    have here := ((bundle.mem_positions_iff first position).mp member).1
    have there := ((other.mem_positions_iff second later).mp laterMember).1
    simp [Position.Before, Position.key, List.cons_lt_cons_iff, here, there, less]

/-- The walk lists the sessions at the positions. -/
theorem map_positions : application.positions.map application.at? = application.walk.map some := by
  apply map_enumerate
  intro number bundle found
  apply bundle.map_positions
  intro extensions place
  rw [at?, bundle?, found, Option.bind_some]

/-- Applications in which the same positions are visited list them alike. -/
theorem positions_eq_of_visits_iff {left : Application μ} {right : Application ν}
    (same : ∀ position, left.Visits position ↔ right.Visits position) :
    left.positions = right.positions := by
  apply left.pairwise_positions.eq_of_mem_iff right.pairwise_positions
  intro position
  rw [mem_positions_iff, mem_positions_iff, same]

end Application

end ServerResources
