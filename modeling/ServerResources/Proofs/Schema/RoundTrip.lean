import ServerResources.Application

/-!
# Written documents are read back

Every definition is read back from the document that is written for it.  For
bundles this needs room: nothing may lie deeper than documents are read.  Whatever
was read has room, and replacing the sessions does not take it away.
-/

namespace ServerResources

namespace Decoder

universe u

variable {α : Type u} {decode : Decoder α} {dump : α → Json}

theorem nullable_ofString? (text : Option String) :
    nullable string (Json.ofString? text) = .valid text := by
  cases text with
  | none => rfl
  | some text => rfl

theorem items_map (position : Nat) (values : List α)
    (each : ∀ value ∈ values, decode (dump value) = .valid value) :
    items decode position (values.map dump) = .valid values := by
  induction values generalizing position with
  | nil => rfl
  | cons value rest ih =>
      have others := ih (position + 1) fun other member =>
        each other (List.mem_cons_of_mem value member)
      rw [List.map_cons, items, each value List.mem_cons_self, others]
      rfl

/-- An array is read back if its items are. -/
theorem list_map (values : List α)
    (each : ∀ value ∈ values, decode (dump value) = .valid value) :
    list decode (.array (values.map dump)) = .valid values :=
  items_map 0 values each

theorem choice_of_find {table : List (String × α)} {word : String} {value : α}
    (found : OrderedMap.find word table = some value) :
    choice table (.string word) = .valid value := by
  simp only [choice, found]

/-- What was read below the limit of depth is empty. -/
theorem list_atDepth_eq_valid {depth : Nat} {value : Json} {values : List α}
    (read : list (atDepth depth decode) value = .valid values) :
    values = [] ∨ depth ≤ depthLimit := by
  cases value with
  | array documents =>
      cases documents with
      | nil =>
          cases read
          exact .inl rfl
      | cons document rest =>
          by_cases fits : depthLimit < depth
          · rw [list, items, Validated.seq_eq_valid_iff] at read
            rcases read with ⟨function, others, first, -⟩
            rw [Validated.map_eq_valid_iff] at first
            rcases first with ⟨item, first, -⟩
            simp [atDepth, fits, Validated.complain, Validated.under] at first
          · exact .inr (Nat.not_lt.mp fits)
  | _ => cases read

theorem items_forall {property : α → Prop}
    (each : ∀ document value, decode document = .valid value → property value)
    (position : Nat) (documents : List Json) {values : List α}
    (read : items decode position documents = .valid values) :
    ∀ value ∈ values, property value := by
  induction documents generalizing position values with
  | nil =>
      cases read
      intro value member
      cases member
  | cons document rest ih =>
      rw [items, Validated.seq_eq_valid_iff] at read
      rcases read with ⟨_, others, first, restRead, rfl⟩
      rw [Validated.map_eq_valid_iff] at first
      rcases first with ⟨head, first, rfl⟩
      rw [Validated.under_eq_valid_iff] at first
      intro value member
      rcases List.mem_cons.mp member with rfl | later
      · exact each document value first
      · exact ih (position + 1) restRead value later

/-- What holds of every value that is read holds of the values of a field. -/
theorem optionalList_forall {property : α → Prop}
    (each : ∀ document value, decode document = .valid value → property value)
    {fields : List (String × Json)} {name : String} {values : List α}
    (read : optionalList fields name decode = .valid values) :
    ∀ value ∈ values, property value := by
  rw [optionalList, optional] at read
  split at read
  next document _ =>
    rw [Validated.under_eq_valid_iff] at read
    cases document with
    | array documents => exact items_forall each 0 documents read
    | _ => cases read
  next =>
    cases read
    intro value member
    cases member

theorem optionalList_atDepth_eq_valid {fields : List (String × Json)} {name : String}
    {depth : Nat} {values : List α}
    (read : optionalList fields name (atDepth depth decode) = .valid values) :
    values = [] ∨ depth ≤ depthLimit := by
  rw [optionalList, optional] at read
  split at read
  next => exact list_atDepth_eq_valid ((Validated.under_eq_valid_iff _ _ _).mp read)
  next =>
    cases read
    exact .inl rfl

end Decoder

/-! ## Flat definitions -/

theorem Property.decode_dump (origin : Origin) (property : Property) :
    decode origin property.dump = .valid property := by
  simp [decode, dump, Decoder.object, Decoder.required, Decoder.optional,
    Decoder.optionalString, OrderedMap.find, Decoder.nullable_ofString?, Decoder.string,
    Decoder.boolean]

theorem AdminObject.decode_dump (origin : Origin) (object : AdminObject) :
    decode origin object.dump = .valid object := by
  have properties := Decoder.list_map object.properties
    fun property _ => Property.decode_dump origin property
  simp [decode, dump, Decoder.object, Decoder.required, Decoder.optional,
    Decoder.optionalString, Decoder.optionalList, OrderedMap.find, Decoder.nullable_ofString?,
    Decoder.string, properties]

theorem Connector.decode_dump (origin : Origin) (connector : Connector) :
    decode origin connector.dump = .valid connector := by
  have objects := Decoder.list_map connector.adminObjects
    fun object _ => AdminObject.decode_dump origin object
  simp [decode, dump, Decoder.object, Decoder.required, Decoder.optional,
    Decoder.optionalList, OrderedMap.find, Decoder.string, objects]

/-- The sender is read back from its long name, as there is no short one. -/
theorem MailSession.decode_dump (origin : Origin) (session : MailSession) :
    decode origin session.dump = .valid session := by
  have properties := Decoder.list_map session.properties
    fun property _ => Property.decode_dump origin property
  simp [decode, dump, senderField, Decoder.object, Decoder.required, Decoder.optional,
    Decoder.optionalString, Decoder.optionalList, OrderedMap.find, Decoder.nullable_ofString?,
    Decoder.string, properties]

theorem Component.decode_dump (origin : Origin) (component : Component MailSession) :
    decode origin component.dump = .valid component := by
  have sessions := Decoder.list_map component.sessions
    fun session _ => MailSession.decode_dump origin session
  simp [decode, dump, dumpWith, Decoder.object, Decoder.required, Decoder.optional,
    Decoder.optionalList, OrderedMap.find, Decoder.string, sessions]

/-! ## Bundles -/

namespace Bundle

variable {μ ν : Type}

mutual

/-- A bundle at a depth has room: what lies in it does not lie too deep. -/
def Fits (depth : Nat) : Bundle μ → Prop
  | ⟨_, _, _, ejbs, interceptors, managedBeans, extensions⟩ =>
    (ejbs = [] ∧ interceptors = [] ∧ managedBeans = [] ∧ extensions = [] ∨
      depth < Decoder.depthLimit) ∧ AllFit (depth + 1) extensions

/-- Several bundles at a depth have room. -/
def AllFit (depth : Nat) : List (Bundle μ) → Prop
  | [] => True
  | bundle :: rest => Fits depth bundle ∧ AllFit depth rest

end

mutual

/-- The sessions play no part. -/
theorem fits_map (function : μ → ν) (depth : Nat) : (bundle : Bundle μ) →
    ((bundle.map function).Fits depth ↔ bundle.Fits depth)
  | ⟨name, kind, sessions, ejbs, interceptors, managedBeans, extensions⟩ => by
    have deeper := allFit_mapAll function (depth + 1) extensions
    simp only [Bundle.map, Fits, List.map_eq_nil_iff, mapAll_eq_map] at deeper ⊢
    rw [deeper]

theorem allFit_mapAll (function : μ → ν) (depth : Nat) : (bundles : List (Bundle μ)) →
    (AllFit depth (mapAll function bundles) ↔ AllFit depth bundles)
  | [] => Iff.rfl
  | bundle :: rest => by
    simp only [mapAll, AllFit]
    rw [fits_map function depth bundle, allFit_mapAll function depth rest]

end

theorem allFit_iff (depth : Nat) (bundles : List (Bundle μ)) :
    AllFit depth bundles ↔ ∀ bundle ∈ bundles, Fits depth bundle := by
  induction bundles with
  | nil => simp [AllFit]
  | cons bundle rest ih => simp [AllFit, ih]

theorem dumpAllWith_eq_map (session : μ → Json) (bundles : List (Bundle μ)) :
    dumpAllWith session bundles = bundles.map (dumpWith session) := by
  induction bundles with
  | nil => rfl
  | cons bundle rest ih => rw [dumpAllWith, ih, List.map_cons]

theorem kind_find (kind : BundleKind) :
    OrderedMap.find kind.name BundleKind.table = some kind := by
  cases kind <;> decide

/-- Components are read back wherever there is room for them. -/
theorem components_dump (origin : Origin) {depth : Nat} (components : List (Component MailSession))
    (room : components = [] ∨ depth < Decoder.depthLimit) :
    Decoder.list (Decoder.atDepth (depth + 1) (Component.decode origin))
      (.array (components.map Component.dump)) = .valid components := by
  apply Decoder.list_map
  intro component member
  rcases room with rfl | room
  · cases member
  · rw [Decoder.atDepth, if_neg (Nat.not_lt.mpr room)]
    exact Component.decode_dump origin component

mutual

theorem decodeAt_dump (origin : Origin) (depth : Nat) : (bundle : Bundle MailSession) →
    bundle.Fits depth → decodeAt origin depth bundle.dump = .valid bundle
  | ⟨name, kind, sessions, ejbs, interceptors, managedBeans, extensions⟩, fits => by
    rcases fits with ⟨room, deeper⟩
    have sessionsRead := Decoder.list_map sessions
      fun session _ => MailSession.decode_dump origin session
    have ejbsRead := components_dump origin ejbs (room.imp_left fun empty => empty.1)
    have interceptorsRead :=
      components_dump origin interceptors (room.imp_left fun empty => empty.2.1)
    have managedBeansRead :=
      components_dump origin managedBeans (room.imp_left fun empty => empty.2.2.1)
    have extensionsRead := decodeItems_dump origin (depth + 1) 0 extensions deeper
      (room.imp_left fun empty => empty.2.2.2)
    have kindRead := Decoder.choice_of_find (kind_find kind)
    rw [Component.dump] at ejbsRead interceptorsRead managedBeansRead
    simp [dump, dumpWith, decodeAt, decodeFields, decodeExtensions, decodeList, Decoder.required,
      Decoder.optional, Decoder.optionalList, OrderedMap.find, Decoder.string, sessionsRead,
      ejbsRead, interceptorsRead, managedBeansRead, extensionsRead, kindRead]

/-- Bundles are read back wherever there is room for them. -/
theorem decodeItems_dump (origin : Origin) (depth position : Nat) :
    (bundles : List (Bundle MailSession)) →
    AllFit depth bundles → bundles = [] ∨ depth ≤ Decoder.depthLimit →
    decodeItems origin depth position (dumpAllWith MailSession.dump bundles) = .valid bundles
  | [], _, _ => by
    rw [dumpAllWith, decodeItems]
  | bundle :: rest, fits, room => by
    have within : ¬ Decoder.depthLimit < depth := by
      rcases room with empty | within
      · cases empty
      · exact Nat.not_lt.mpr within
    have first := decodeAt_dump origin depth bundle fits.1
    have others := decodeItems_dump origin depth (position + 1) rest fits.2
      (.inr (Nat.not_lt.mp within))
    rw [dump] at first
    rw [dumpAllWith, decodeItems, if_neg within, first, others]
    rfl

end

/-- The extensions decide about the room of a bundle that was read. -/
theorem fits_of_decodeFields {origin : Origin} {depth : Nat} {fields : List (String × Json)}
    {extensions : Validated (List (Bundle MailSession))} {bundle : Bundle MailSession}
    (read : decodeFields origin depth fields extensions = .valid bundle)
    (deeper : ∀ bundles, extensions = .valid bundles →
      AllFit (depth + 1) bundles ∧ (bundles = [] ∨ depth < Decoder.depthLimit)) :
    bundle.Fits depth := by
  simp only [decodeFields, Validated.seq_eq_valid_iff, Validated.map_eq_valid_iff] at read
  obtain ⟨_, extended, ⟨_, managedBeans, ⟨_, interceptors, ⟨_, ejbs, ⟨_, sessions, ⟨_, kind,
    ⟨name, -, rfl⟩, -, rfl⟩, -, rfl⟩, ejbsRead, rfl⟩, interceptorsRead, rfl⟩,
    managedBeansRead, rfl⟩, extensionsRead, rfl⟩ := read
  rcases deeper extended extensionsRead with ⟨inside, extensionsFit⟩
  have ejbsFit := Decoder.optionalList_atDepth_eq_valid ejbsRead
  have interceptorsFit := Decoder.optionalList_atDepth_eq_valid interceptorsRead
  have managedBeansFit := Decoder.optionalList_atDepth_eq_valid managedBeansRead
  refine ⟨?_, inside⟩
  by_cases room : depth < Decoder.depthLimit
  · exact .inr room
  · exact .inl ⟨ejbsFit.resolve_right room, interceptorsFit.resolve_right room,
      managedBeansFit.resolve_right room, extensionsFit.resolve_right room⟩

mutual

/-- Every bundle that was read has room. -/
theorem fits_of_decodeAt (origin : Origin) (depth : Nat) : (document : Json) →
    {bundle : Bundle MailSession} → decodeAt origin depth document = .valid bundle →
    bundle.Fits depth
  | .object fields, _, read => by
    rw [decodeAt] at read
    apply fits_of_decodeFields read
    intro bundles extended
    exact fits_of_decodeExtensions origin (depth + 1) fields extended
  | .null, _, read => by simp [decodeAt, Validated.complain] at read
  | .bool _, _, read => by simp [decodeAt, Validated.complain] at read
  | .int _, _, read => by simp [decodeAt, Validated.complain] at read
  | .float _, _, read => by simp [decodeAt, Validated.complain] at read
  | .string _, _, read => by simp [decodeAt, Validated.complain] at read
  | .array _, _, read => by simp [decodeAt, Validated.complain] at read

theorem fits_of_decodeExtensions (origin : Origin) (depth : Nat) :
    (fields : List (String × Json)) → {bundles : List (Bundle MailSession)} →
    decodeExtensions origin depth fields = .valid bundles →
    AllFit depth bundles ∧ (bundles = [] ∨ depth ≤ Decoder.depthLimit)
  | [], _, read => by
    rw [decodeExtensions] at read
    cases read
    exact ⟨trivial, .inl rfl⟩
  | (name, value) :: rest, _, read => by
    rw [decodeExtensions] at read
    split at read
    next =>
      rw [Validated.under_eq_valid_iff] at read
      exact fits_of_decodeList origin depth value read
    next => exact fits_of_decodeExtensions origin depth rest read

theorem fits_of_decodeList (origin : Origin) (depth : Nat) : (document : Json) →
    {bundles : List (Bundle MailSession)} →
    decodeList origin depth document = .valid bundles →
    AllFit depth bundles ∧ (bundles = [] ∨ depth ≤ Decoder.depthLimit)
  | .array values, _, read => by
    rw [decodeList] at read
    exact fits_of_decodeItems origin depth 0 values read
  | .null, _, read => by simp [decodeList, Validated.complain] at read
  | .bool _, _, read => by simp [decodeList, Validated.complain] at read
  | .int _, _, read => by simp [decodeList, Validated.complain] at read
  | .float _, _, read => by simp [decodeList, Validated.complain] at read
  | .string _, _, read => by simp [decodeList, Validated.complain] at read
  | .object _, _, read => by simp [decodeList, Validated.complain] at read

theorem fits_of_decodeItems (origin : Origin) (depth position : Nat) :
    (documents : List Json) → {bundles : List (Bundle MailSession)} →
    decodeItems origin depth position documents = .valid bundles →
    AllFit depth bundles ∧ (bundles = [] ∨ depth ≤ Decoder.depthLimit)
  | [], _, read => by
    rw [decodeItems] at read
    cases read
    exact ⟨trivial, .inl rfl⟩
  | document :: rest, _, read => by
    rw [decodeItems, Validated.seq_eq_valid_iff] at read
    rcases read with ⟨_, others, first, restRead, rfl⟩
    rw [Validated.map_eq_valid_iff] at first
    rcases first with ⟨bundle, first, rfl⟩
    rw [Validated.under_eq_valid_iff] at first
    split at first
    next => cases first
    next within =>
      have fits := fits_of_decodeAt origin depth document first
      have others := fits_of_decodeItems origin depth (position + 1) rest restRead
      exact ⟨⟨fits, others.1⟩, .inr (Nat.not_lt.mp within)⟩

end

end Bundle

/-! ## Applications -/

namespace Application

variable {μ ν : Type}

/-- The bundles of an application have room. -/
def Fits (application : Application μ) : Prop :=
  Bundle.AllFit bundleDepth application.bundles

theorem fits_map (function : μ → ν) (application : Application μ) :
    (application.map function).Fits ↔ application.Fits :=
  Bundle.allFit_mapAll function bundleDepth application.bundles

theorem decode_dump (origin : Origin) (application : Application MailSession)
    (fits : application.Fits) : decode origin application.dump = .valid application := by
  have bundles := Decoder.list_map application.bundles fun bundle member =>
    Bundle.decodeAt_dump origin bundleDepth bundle ((Bundle.allFit_iff _ _).mp fits bundle member)
  have written : Bundle.dumpAllWith MailSession.dump application.bundles =
      application.bundles.map Bundle.dump := Bundle.dumpAllWith_eq_map _ _
  simp [decode, dump, dumpWith, written, Decoder.object, Decoder.required, Decoder.optional,
    Decoder.optionalList, OrderedMap.find, Decoder.string, bundles]

/-- Every application that was read has room. -/
theorem fits_of_decode {origin : Origin} {document : Json}
    {application : Application MailSession}
    (read : decode origin document = .valid application) : application.Fits := by
  cases document with
  | object fields =>
      simp only [decode, Decoder.object, Validated.seq_eq_valid_iff,
        Validated.map_eq_valid_iff] at read
      rcases read with ⟨_, bundles, ⟨name, -, rfl⟩, bundlesRead, rfl⟩
      rw [Fits, Bundle.allFit_iff]
      have each : ∀ document bundle,
          Bundle.decodeAt origin bundleDepth document = .valid bundle →
            bundle.Fits bundleDepth := by
        intro document bundle bundleRead
        exact Bundle.fits_of_decodeAt origin bundleDepth document bundleRead
      exact Decoder.optionalList_forall each bundlesRead
  | _ => cases read

end Application

end ServerResources
