import ServerResources.Definitions
import ServerResources.Proofs.Application.Members

/-!
# Installing an application

Installing adds the sessions of an application at the end of the table and puts
references in their place.  The references are new and all different, they count
up in the order of the members, and reading them back gives the application that
was installed, also after further definitions were added.
-/

namespace ServerResources

namespace Definitions

theorem get_of_lt_of_prefix {definitions later : Definitions} {id : DefinitionId}
    (extended : definitions.sessions <+: later.sessions)
    (known : id < definitions.sessions.length) : later.get id = definitions.get id := by
  rcases extended with ⟨added, equal⟩
  simp only [get, List.getD_eq_getElem?_getD, ← equal]
  rw [List.getElem?_append_left known]

theorem get_length_of_prefix {definitions later : Definitions} {session : MailSession}
    (extended : definitions.sessions ++ [session] <+: later.sessions) :
    later.get definitions.sessions.length = session := by
  rcases extended with ⟨added, equal⟩
  simp [get, List.getD_eq_getElem?_getD, ← equal]

end Definitions

/-- A way of replacing the sessions of a part that adds them to the definitions, and
that `image` undoes.  `before` lists the sessions of a part, `after` the references
of its replacement. -/
structure Installs {α β : Type} (image : (DefinitionId → MailSession) → β → α)
    (before : α → List MailSession) (after : β → List DefinitionId)
    (traverse : α → StateM Definitions β) (part : α) : Prop where
  sessions_eq : ∀ definitions, ((traverse part).run definitions).2.sessions =
    definitions.sessions ++ before part
  references_eq : ∀ definitions, after ((traverse part).run definitions).1 =
    List.range' definitions.sessions.length (before part).length
  image_eq : ∀ definitions (later : Definitions),
    ((traverse part).run definitions).2.sessions <+: later.sessions →
      image later.get ((traverse part).run definitions).1 = part

namespace Installs

variable {α β : Type} {image : (DefinitionId → MailSession) → β → α}
  {before : α → List MailSession} {after : β → List DefinitionId}
  {traverse : α → StateM Definitions β}

/-- Adds one session. -/
def add (session : MailSession) : StateM Definitions DefinitionId :=
  fun definitions => definitions.add session

theorem session (session : MailSession) :
    Installs (fun get => get) (fun session => [session]) (fun id => [id]) add session where
  sessions_eq := by
    intro definitions
    rfl
  references_eq := by
    intro definitions
    rfl
  image_eq := by
    intro definitions later extended
    exact Definitions.get_length_of_prefix extended

/-- Nothing that was there is overwritten. -/
theorem prefix_run {part : α} (installs : Installs image before after traverse part)
    (definitions : Definitions) :
    definitions.sessions <+: ((traverse part).run definitions).2.sessions := by
  rw [installs.sessions_eq]
  exact List.prefix_append _ _

theorem run_mapM_cons (part : α) (rest : List α) (definitions : Definitions) :
    (List.mapM traverse (part :: rest)).run definitions =
      let first := (traverse part).run definitions
      let others := (List.mapM traverse rest).run first.2
      (first.1 :: others.1, others.2) := by
  rw [List.mapM_cons]
  rfl

theorem list (parts : List α)
    (each : ∀ part ∈ parts, Installs image before after traverse part) :
    Installs (fun get => List.map (image get)) (List.flatMap before) (List.flatMap after)
      (List.mapM traverse) parts := by
  induction parts with
  | nil =>
      constructor
      · intro definitions
        exact (List.append_nil definitions.sessions).symm
      · intro definitions
        rfl
      · intro definitions later extended
        rfl
  | cons part rest ih =>
      have first := each part List.mem_cons_self
      have others := ih fun other member => each other (List.mem_cons_of_mem part member)
      constructor
      · intro definitions
        rw [run_mapM_cons]
        have step := others.sessions_eq ((traverse part).run definitions).2
        rw [first.sessions_eq, List.append_assoc] at step
        exact step
      · intro definitions
        rw [run_mapM_cons]
        have step := others.references_eq ((traverse part).run definitions).2
        rw [first.sessions_eq, List.length_append] at step
        simp only [List.flatMap_cons, List.length_append, step, first.references_eq,
          List.range'_append_1]
      · intro definitions later extended
        rw [run_mapM_cons] at extended ⊢
        have firstExtended := (others.prefix_run _).trans extended
        simp only [List.map_cons, first.image_eq definitions later firstExtended,
          others.image_eq ((traverse part).run definitions).2 later extended]

theorem sessions (sessions : List MailSession) :
    Installs (fun get => List.map get) id id (List.mapM add) sessions := by
  have installs := list sessions fun part _ => session part
  constructor
  · intro definitions
    simpa using installs.sessions_eq definitions
  · intro definitions
    simpa using installs.references_eq definitions
  · exact installs.image_eq

theorem component (part : Component MailSession) :
    Installs Component.map Component.sessions Component.sessions (Component.mapM add) part where
  sessions_eq := (sessions part.sessions).sessions_eq
  references_eq := (sessions part.sessions).references_eq
  image_eq := by
    intro definitions later extended
    have image := (sessions part.sessions).image_eq definitions later extended
    exact congrArg (Component.mk part.name) image

theorem components (parts : List (Component MailSession)) :
    Installs (fun get => List.map (Component.map get)) (List.flatMap Component.sessions)
      (List.flatMap Component.sessions) (List.mapM (Component.mapM add)) parts :=
  list parts fun part _ => component part

/-- One part after another: the second is added behind the first. -/
theorem references_append {before rest : List MailSession} {first second : List DefinitionId}
    {definitions middle : Definitions}
    (added : middle.sessions = definitions.sessions ++ before)
    (front : first = List.range' definitions.sessions.length before.length)
    (back : second = List.range' middle.sessions.length rest.length) :
    first ++ second = List.range' definitions.sessions.length (before ++ rest).length := by
  rw [front, back, added, List.length_append, List.length_append, List.range'_append_1]

mutual

theorem bundle : (part : Bundle MailSession) →
    Installs Bundle.map Bundle.members Bundle.members (Bundle.mapM add) part
  | ⟨name, kind, own, ejbs, interceptors, managedBeans, extensions⟩ => by
    have ownInstalls := sessions own
    have ejbsInstall := components ejbs
    have interceptorsInstall := components interceptors
    have managedBeansInstall := components managedBeans
    have extensionsInstall := bundles extensions
    constructor
    · intro definitions
      rw [Bundle.mapM]
      simp only [StateT.run_bind, StateT.run_pure, Bundle.members]
      exact (extensionsInstall.sessions_eq _).trans (by
        rw [managedBeansInstall.sessions_eq, interceptorsInstall.sessions_eq,
          ejbsInstall.sessions_eq, ownInstalls.sessions_eq]
        simp only [List.append_assoc, id])
    · intro definitions
      rw [Bundle.mapM]
      simp only [StateT.run_bind, StateT.run_pure, Bundle.members]
      exact references_append (ownInstalls.sessions_eq _) (ownInstalls.references_eq _)
        (references_append (ejbsInstall.sessions_eq _) (ejbsInstall.references_eq _)
          (references_append (interceptorsInstall.sessions_eq _)
            (interceptorsInstall.references_eq _)
            (references_append (managedBeansInstall.sessions_eq _)
              (managedBeansInstall.references_eq _) (extensionsInstall.references_eq _))))
    · intro definitions later extended
      rw [Bundle.mapM] at extended ⊢
      simp only [StateT.run_bind, StateT.run_pure] at extended ⊢
      have fourth := (extensionsInstall.prefix_run _).trans extended
      have third := (managedBeansInstall.prefix_run _).trans fourth
      have second := (interceptorsInstall.prefix_run _).trans third
      have first := (ejbsInstall.prefix_run _).trans second
      have ownImage := ownInstalls.image_eq _ later first
      have ejbsImage := ejbsInstall.image_eq _ later second
      have interceptorsImage := interceptorsInstall.image_eq _ later third
      have managedBeansImage := managedBeansInstall.image_eq _ later fourth
      have extensionsImage := extensionsInstall.image_eq _ later extended
      exact (Bundle.mk.injEq ..).mpr ⟨rfl, rfl, ownImage, ejbsImage, interceptorsImage,
        managedBeansImage, extensionsImage⟩

theorem bundles : (parts : List (Bundle MailSession)) →
    Installs Bundle.mapAll Bundle.allMembers Bundle.allMembers (Bundle.mapAllM add) parts
  | [] => by
    constructor
    · intro definitions
      exact (List.append_nil definitions.sessions).symm
    · intro definitions
      rfl
    · intro definitions later extended
      rfl
  | part :: rest => by
    have first := bundle part
    have others := bundles rest
    constructor
    · intro definitions
      rw [Bundle.mapAllM]
      simp only [StateT.run_bind, StateT.run_pure, Bundle.allMembers]
      exact (others.sessions_eq _).trans (by rw [first.sessions_eq, List.append_assoc])
    · intro definitions
      rw [Bundle.mapAllM]
      simp only [StateT.run_bind, StateT.run_pure, Bundle.allMembers]
      exact references_append (first.sessions_eq _) (first.references_eq _)
        (others.references_eq _)
    · intro definitions later extended
      rw [Bundle.mapAllM] at extended ⊢
      simp only [StateT.run_bind, StateT.run_pure] at extended ⊢
      have firstImage := first.image_eq _ later ((others.prefix_run _).trans extended)
      have othersImage := others.image_eq _ later extended
      exact (List.cons.injEq ..).mpr ⟨firstImage, othersImage⟩

end

theorem application (application : Application MailSession) :
    Installs Application.map Application.members Application.members
      (Application.mapM add) application where
  sessions_eq := (bundles application.bundles).sessions_eq
  references_eq := (bundles application.bundles).references_eq
  image_eq := by
    intro definitions later extended
    have image := (bundles application.bundles).image_eq definitions later extended
    exact congrArg (Application.mk application.name) image

end Installs

namespace Definitions

variable (definitions : Definitions) (application : Application MailSession)

theorem sessions_install : (definitions.install application).2.sessions =
    definitions.sessions ++ application.members :=
  (Installs.application application).sessions_eq definitions

theorem members_install : (definitions.install application).1.members =
    List.range' definitions.sessions.length application.members.length :=
  (Installs.application application).references_eq definitions

/-- What was installed is read back as it was. -/
theorem read_install :
    (definitions.install application).2.read (definitions.install application).1 = application :=
  (Installs.application application).image_eq definitions _ List.prefix_rfl

/-- The references of an installed application are new. -/
theorem mem_members_install {id : DefinitionId}
    (member : id ∈ (definitions.install application).1.members) :
    definitions.sessions.length ≤ id ∧
      id < (definitions.install application).2.sessions.length := by
  rw [members_install, List.mem_range'_1] at member
  rw [sessions_install, List.length_append]
  exact member

theorem nodup_members_install : (definitions.install application).1.members.Nodup := by
  rw [members_install]
  exact List.nodup_range'

theorem get_install_of_lt {id : DefinitionId} (known : id < definitions.sessions.length) :
    (definitions.install application).2.get id = definitions.get id := by
  apply get_of_lt_of_prefix _ known
  rw [sessions_install]
  exact List.prefix_append _ _

end Definitions

end ServerResources
