import ServerResources.Proofs.Deployment.Commutation
import ServerResources.Proofs.Server.Share

/-!
# Isolation of applications

A request names an application if it posts it, removes it or asks for its mail sessions.
A request that does not name an application leaves it its share of the service, and one
that does is answered by that share alone.  So of a run of the service an application
sees only the requests that name it, and requests that name different applications
commute, whatever names the applications declare and whatever names are out of service.
-/

namespace ServerResources

open Http

/-! ## What a request names -/

/-- The application name that stands in the body of a request, be the rest of the body
well formed or not. -/
def Http.Request.bodyName? (request : Request) : Option String :=
  match request.body with
  | some (.object fields) =>
      match OrderedMap.find "app_name" fields with
      | some (.string name) => some name
      | _ => none
  | _ => none

/-- The application that a request names. -/
def Http.Request.subject? (request : Request) : Option String :=
  match Route.ofPath? request.path, request.method with
  | some .applications, .post => request.bodyName?
  | some (.application name), .delete => some name
  | some (.mailSessions name), .get => some name
  | _, _ => none

/-- Whether a request names an application. -/
def Http.Request.names (name : String) (request : Request) : Bool :=
  decide (request.subject? = some name)

/-- An application that is read has the name that stands in the document. -/
theorem Application.find_of_decode {origin : Origin} {fields : List (String × Json)}
    {application : Application MailSession}
    (read : Application.decode origin (.object fields) = .valid application) :
    OrderedMap.find "app_name" fields = some (.string application.name) := by
  simp only [decode, Decoder.object, Validated.seq_eq_valid_iff,
    Validated.map_eq_valid_iff] at read
  obtain ⟨_, _, ⟨name, nameRead, rfl⟩, -, rfl⟩ := read
  rw [Decoder.required] at nameRead
  split at nameRead
  next value found =>
      rw [Validated.under_eq_valid_iff] at nameRead
      cases value with
      | string text =>
          cases nameRead
          exact found
      | _ => cases nameRead
  next => cases nameRead

theorem Http.Request.bodyName?_of_document {request : Request}
    {application : Application MailSession}
    (read : request.document Application.decode = .valid application) :
    request.bodyName? = some application.name := by
  rw [document] at read
  rw [bodyName?]
  split at read
  next body present =>
      rw [Validated.under_eq_valid_iff] at read
      rw [present]
      cases body with
      | object fields => simp only [Application.find_of_decode read]
      | _ => cases read
  next => cases read

namespace Server

/-- How a request that names an application is served: in a way that depends on the
service, or with an answer that does not. -/
inductive Errand (request : Request) (name : String) : Prop where
  | store (application : Application MailSession) (named : application.name = name)
      (serves : ∀ server : Server,
        server.dispatch request = server.deployApplication application)
  | refuse (response : Response)
      (serves : ∀ server : Server, server.dispatch request = (response, server))
  | remove
      (serves : ∀ server : Server, server.dispatch request = server.removeApplication name)
  | list
      (serves : ∀ server : Server, server.dispatch request = (server.mailSessions name, server))

theorem errand_of_subject? {request : Request} {name : String}
    (subject : request.subject? = some name) : Errand request name := by
  rw [Request.subject?] at subject
  split at subject
  next route post =>
      cases reading : request.document Application.decode with
      | valid application =>
          rw [Request.bodyName?_of_document reading] at subject
          refine .store application (Option.some.inj subject) ?_
          intro server
          simp only [dispatch, route, serve, post, storeApplication, reading]
      | invalid issues =>
          refine .refuse (.invalid issues) ?_
          intro server
          simp only [dispatch, route, serve, post, storeApplication, reading]
  next removed route delete =>
      cases subject
      refine .remove ?_
      intro server
      simp only [dispatch, route, serve, delete]
  next listed route get =>
      cases subject
      refine .list ?_
      intro server
      simp only [dispatch, route, serve, get]
  next => cases subject

/-- A request that names no application leaves all applications and the deployment as
they are. -/
theorem dispatch_of_no_subject {request : Request} (unnamed : request.subject? = none)
    (server : Server) :
    (server.dispatch request).2.deployment = server.deployment ∧
      (server.dispatch request).2.catalog.applications = server.catalog.applications := by
  rw [Request.subject?] at unnamed
  unfold dispatch
  cases route : Route.ofPath? request.path with
  | none => cases movedPath? request.path <;> exact ⟨rfl, rfl⟩
  | some resource =>
      rw [route] at unnamed
      simp only [serve]
      split
      next =>
          unfold storeConnector
          split <;> exact ⟨rfl, rfl⟩
      next => exact ⟨rfl, rfl⟩
      next =>
          unfold removeConnector
          split <;> exact ⟨rfl, rfl⟩
      next => exact ⟨rfl, rfl⟩
      next post =>
          simp only [post] at unnamed
          unfold storeApplication
          cases reading : request.document Application.decode with
          | invalid issues => exact ⟨rfl, rfl⟩
          | valid application =>
              rw [Request.bodyName?_of_document reading] at unnamed
              cases unnamed
      next removed delete =>
          simp only [delete] at unnamed
          cases unnamed
      all_goals exact ⟨rfl, rfl⟩

/-! ## Requests -/

variable {server left right : Server} {request : Request} {name other : String}

theorem deployApplication_eq (server : Server) (application : Application MailSession) :
    server.deployApplication application =
      (.ok (RegistrationReport.mk application.name
          (((server.withdraw application.name).2.deployment.installing application).registerAll
            ((server.withdraw application.name).2.deployment.installed application)).1).dump,
        (server.withdraw application.name).2.entering application) :=
  rfl

theorem removeApplication_of_none (absent : server.catalog.application? name = none) :
    server.removeApplication name = (.notFound "Application not found", server) := by
  rw [removeApplication, absent]

theorem removeApplication_of_some (present : server.catalog.application? name ≠ none) :
    server.removeApplication name =
      (.ok (RegistrationReport.mk name (server.withdraw name).1).dump,
        (server.withdraw name).2.leaving name) := by
  rw [removeApplication]
  cases found : server.catalog.application? name with
  | none => exact (present found).elim
  | some application => rfl

theorem Sound.deployApplication (sound : server.Sound) (application : Application MailSession) :
    (server.deployApplication application).2.Sound :=
  (sound.withdraw application.name).entering application

theorem Sound.removeApplication (sound : server.Sound) (name : String) :
    (server.removeApplication name).2.Sound := by
  by_cases absent : server.catalog.application? name = none
  · rw [removeApplication_of_none absent]
    exact sound
  · rw [removeApplication_of_some absent]
    exact (sound.withdraw name).leaving name

/-- A request that does not name an application leaves it its share. -/
theorem Sound.dispatch_of_ne (sound : server.Sound) (elsewhere : request.subject? ≠ some name) :
    Alike name (server.dispatch request).2 server := by
  cases subject : request.subject? with
  | none =>
      obtain ⟨deployment, applications⟩ := dispatch_of_no_subject subject server
      exact .of_eq deployment applications
  | some other =>
      have different : name ≠ other := by
        rintro rfl
        exact elsewhere subject
      cases errand_of_subject? subject with
      | store application named serves =>
          rw [serves]
          have current := sound.withdraw application.name
          have away : name ≠ application.name := by
            rw [named]
            exact different
          exact (current.entering_of_ne away).trans (sound.withdraw_of_ne away)
      | refuse response serves =>
          rw [serves]
          exact .refl name server
      | remove serves =>
          rw [serves]
          by_cases absent : server.catalog.application? other = none
          · rw [removeApplication_of_none absent]
            exact .refl name server
          · rw [removeApplication_of_some absent]
            exact (leaving_of_ne _ different).trans (sound.withdraw_of_ne different)
      | list serves =>
          rw [serves]
          exact .refl name server

theorem Sound.dispatch (sound : server.Sound) (request : Request) :
    (server.dispatch request).2.Sound := by
  cases subject : request.subject? with
  | none =>
      obtain ⟨deployment, applications⟩ := dispatch_of_no_subject subject server
      exact sound.congr deployment applications
  | some name =>
      cases errand_of_subject? subject with
      | store application named serves =>
          rw [serves]
          exact sound.deployApplication application
      | refuse response serves =>
          rw [serves]
          exact sound
      | remove serves =>
          rw [serves]
          exact sound.removeApplication name
      | list serves =>
          rw [serves]
          exact sound

theorem Sound.handle (sound : server.Sound) (request : Request) :
    (server.handle request).2.Sound :=
  (sound.withoutWarnings.dispatch request).withoutWarnings

theorem Sound.handle_of_ne (sound : server.Sound) (elsewhere : request.subject? ≠ some name) :
    Alike name (server.handle request).2 server := by
  have dispatched := sound.withoutWarnings.dispatch_of_ne elsewhere
  exact (Alike.withoutWarnings name _).trans (dispatched.trans (.withoutWarnings name server))

/-- A request that names an application is answered by its share. -/
theorem Alike.dispatch (alike : Alike name left right) (leftSound : left.Sound)
    (rightSound : right.Sound) (subject : request.subject? = some name) :
    (left.dispatch request).1 = (right.dispatch request).1 ∧
    Alike name (left.dispatch request).2 (right.dispatch request).2 ∧
    ∃ issued,
      (left.dispatch request).2.deployment.registrar.warnings =
        left.deployment.registrar.warnings ++ issued ∧
      (right.dispatch request).2.deployment.registrar.warnings =
        right.deployment.registrar.warnings ++ issued := by
  cases errand_of_subject? subject with
  | store application named serves =>
      subst named
      rw [serves, serves]
      obtain ⟨-, current, issued⟩ := alike.withdraw leftSound rightSound
      obtain ⟨names, after, further⟩ :=
        current.entering (leftSound.withdraw _) (rightSound.withdraw _)
      rw [deployApplication_eq, deployApplication_eq]
      refine ⟨?_, after, Registrar.issued_trans issued further⟩
      rw [names]
  | refuse response serves =>
      rw [serves, serves]
      exact ⟨rfl, alike, Registrar.issued_nothing _ _⟩
  | remove serves =>
      rw [serves, serves]
      by_cases absent : left.catalog.application? name = none
      · rw [removeApplication_of_none absent,
          removeApplication_of_none (alike.application?_eq_none_iff.mp absent)]
        exact ⟨rfl, alike, Registrar.issued_nothing _ _⟩
      · obtain ⟨names, after, warnings⟩ := alike.withdraw leftSound rightSound
        rw [removeApplication_of_some absent,
          removeApplication_of_some (mt alike.application?_eq_none_iff.mpr absent)]
        refine ⟨?_, after.leaving, warnings⟩
        rw [names]
  | list serves =>
      rw [serves, serves]
      refine ⟨?_, alike, Registrar.issued_nothing _ _⟩
      rw [mailSessions, mailSessions, alike.registrar.names_eq]
      cases leftFound : left.catalog.application? name with
      | none => rw [alike.application?_eq_none_iff.mp leftFound]
      | some mine =>
          cases rightFound : right.catalog.application? name with
          | none =>
              rw [alike.application?_eq_none_iff.mpr rightFound] at leftFound
              cases leftFound
          | some yours => rfl

theorem Alike.handle (alike : Alike name left right) (leftSound : left.Sound)
    (rightSound : right.Sound) (subject : request.subject? = some name) :
    (left.handle request).1 = (right.handle request).1 ∧
      Alike name (left.handle request).2 (right.handle request).2 := by
  have silent : Alike name left.withoutWarnings right.withoutWarnings :=
    (Alike.withoutWarnings name left).trans (alike.trans (Alike.withoutWarnings name right).symm)
  obtain ⟨response, after, issued, leftIssued, rightIssued⟩ :=
    silent.dispatch leftSound.withoutWarnings rightSound.withoutWarnings subject
  have warnings := leftIssued.trans rightIssued.symm
  constructor
  · rw [handle_eq, handle_eq, response, warnings]
  · exact (Alike.withoutWarnings name _).trans
      (after.trans (Alike.withoutWarnings name _).symm)

/-! ## Runs -/

/-- The answers to those of some requests that name an application. -/
def answersTo (server : Server) (name : String) (requests : List Request) : List Response :=
  ((requests.zip (server.responses requests)).filter fun exchange =>
    exchange.1.names name).map Prod.snd

theorem answersTo_cons (server : Server) (name : String) (request : Request)
    (rest : List Request) :
    server.answersTo name (request :: rest) =
      (if request.names name then [(server.handle request).1] else []) ++
        (server.handle request).2.answersTo name rest := by
  rw [answersTo, responses, List.zip_cons_cons, List.filter_cons]
  split <;> rfl

/-- An application sees of a run only the requests that name it: it could as well have
been served by a service that received no others. -/
theorem Alike.after_filter (alike : Alike name left right) (leftSound : left.Sound)
    (rightSound : right.Sound) (requests : List Request) :
    left.answersTo name requests = right.responses (requests.filter (Request.names name)) ∧
      Alike name (left.after requests)
        (right.after (requests.filter (Request.names name))) := by
  induction requests generalizing left right with
  | nil => exact ⟨rfl, alike⟩
  | cons request rest ih =>
      by_cases named : request.names name = true
      · have subject : request.subject? = some name := of_decide_eq_true named
        obtain ⟨response, next⟩ := alike.handle leftSound rightSound subject
        obtain ⟨answers, after⟩ := ih next (leftSound.handle request) (rightSound.handle request)
        rw [List.filter_cons_of_pos named]
        refine ⟨?_, after⟩
        rw [answersTo_cons, if_pos named, response, answers]
        rfl
      · have elsewhere : request.subject? ≠ some name :=
          of_decide_eq_false (eq_false_of_ne_true named)
        have next : Alike name (left.handle request).2 right :=
          (leftSound.handle_of_ne elsewhere).trans alike
        obtain ⟨answers, after⟩ := ih next (leftSound.handle request) rightSound
        rw [List.filter_cons_of_neg named]
        refine ⟨?_, after⟩
        rw [answersTo_cons, if_neg named, answers]
        rfl

/-- An application cannot tell two runs apart. -/
structure SameFor (server : Server) (name : String) (first second : List Request) : Prop where
  answers_eq : server.answersTo name first = server.answersTo name second
  stored_eq : (server.after first).descriptors.application? name =
    (server.after second).descriptors.application? name
  namesOf_eq : (server.after first).namesOf name = (server.after second).namesOf name
  contentsOf_eq : (server.after first).deployment.contentsOf name =
    (server.after second).deployment.contentsOf name

theorem sound_start (settings : Settings) (introspector : Introspector) (exposesBindings : Bool)
    (outage : Outage) : ((start settings introspector exposesBindings).disturb outage).Sound where
  deployment := by
    refine ⟨⟨?_, ?_⟩, ?_⟩
    · intro application name key found
      cases found
    · intro application name key found
      cases found
    · intro key resource found
      cases found
  known := by
    intro name application found
    cases found
  named := by
    intro name application found
    cases found

theorem Sound.sameFor (sound : server.Sound) {first second : List Request}
    (same : first.filter (Request.names name) = second.filter (Request.names name)) :
    server.SameFor name first second := by
  obtain ⟨firstAnswers, firstAfter⟩ := (Alike.refl name server).after_filter sound sound first
  obtain ⟨secondAnswers, secondAfter⟩ := (Alike.refl name server).after_filter sound sound second
  rw [← same] at secondAnswers secondAfter
  have after := firstAfter.trans secondAfter.symm
  exact ⟨firstAnswers.trans secondAnswers.symm, after.stored_eq, after.registrar.names_eq,
    after.contentsOf_eq⟩

/-- Requests that name different applications are the same to every application in either
order. -/
theorem filter_swap {mine yours : Request} (different : mine.subject? ≠ yours.subject?)
    (name : String) (earlier later : List Request) :
    (earlier ++ mine :: yours :: later).filter (Request.names name) =
      (earlier ++ yours :: mine :: later).filter (Request.names name) := by
  simp only [List.filter_append, List.filter_cons]
  by_cases ofMine : mine.names name = true
  · have notYours : ¬ yours.names name = true := by
      intro ofYours
      exact different ((of_decide_eq_true ofMine).trans (of_decide_eq_true ofYours).symm)
    simp only [if_neg notYours]
  · simp only [if_neg ofMine]

/-- Whatever names are out of service, an application is answered, stored, published and
bound alike in runs in which the requests that name it are the same.  So requests that
name different applications commute, and so do batches of applications that keep their
sessions apart. -/
theorem applications_isolated (settings : Settings) (introspector : Introspector)
    (exposesBindings : Bool) (outage : Outage) :
    let fresh := (start settings introspector exposesBindings).disturb outage
    (∀ name first second,
      first.filter (Request.names name) = second.filter (Request.names name) →
        fresh.SameFor name first second) ∧
    (∀ earlier later mine yours, mine.subject? ≠ yours.subject? → ∀ name,
      fresh.SameFor name (earlier ++ mine :: yours :: later)
        (earlier ++ yours :: mine :: later)) ∧
    ∀ registrarSettings turns (mine yours : Batch),
      mine.application.name ≠ yours.application.name →
      (∀ id ∈ mine.application.walk, id ∉ yours.application.walk) →
        ((Deployment.start settings registrarSettings .start).run turns).Commute mine yours := by
  intro fresh
  have sound : fresh.Sound := sound_start settings introspector exposesBindings outage
  refine ⟨?alike, ?requests, ?batches⟩
  case alike =>
    intro name first second same
    exact sound.sameFor same
  case requests =>
    intro earlier later mine yours different name
    exact sound.sameFor (filter_swap different name earlier later)
  case batches =>
    intro registrarSettings turns mine yours different apart
    exact Deployment.batches_commute (Deployment.intact_run settings registrarSettings turns)
      different apart

/-- A request that posts an application with one global name. -/
def postingGlobal (name : String) : Request where
  method := .post
  path := "/applications"
  body := some (.object
    [ ("app_name", .string name),
      ("bundles", .array
        [.object
          [ ("name", .string "web"),
            ("mail_sessions", .array [.object [("name", .string "java:global/mail")]]) ]]) ])

/-- An application of one bundle with one session. -/
def ofSession (name : String) (id : DefinitionId) : Application DefinitionId where
  name := name
  bundles := [
    { name := "web", kind := .web, sessions := [id], ejbs := [], interceptors := [],
      managedBeans := [], extensions := [] }]

/-- A turn in which the shop is registered, and which meets two sessions of one global
name. -/
def openingShop : Turn where
  outage := .none
  definitions :=
    let session := { MailSession.blank with name := "java:global/mail" }
    ⟨[session, session]⟩
  operation := .registerAll (ofSession "shop" 0)

theorem applications_isolated_global :
    let fresh := (start {} (.ofTable []) true).disturb (.ofNames [] ["java:global/mail"])
    fresh.SameFor "shop" [postingGlobal "shop", postingGlobal "crm"] [postingGlobal "shop"] ∧
    fresh.SameFor "crm" [postingGlobal "shop", postingGlobal "crm"]
      [postingGlobal "crm", postingGlobal "shop"] ∧
    ((Deployment.start {} none .start).run [openingShop]).Commute
      (.unregister (ofSession "shop" 0)) (.register (ofSession "crm" 1)) := by
  have isolated := applications_isolated {} (.ofTable []) true (.ofNames [] ["java:global/mail"])
  have named : (postingGlobal "shop").names "shop" = true := by
    decide +kernel
  have unnamed : (postingGlobal "crm").names "shop" = false := by
    decide +kernel
  have different : (postingGlobal "shop").subject? ≠ (postingGlobal "crm").subject? := by
    decide +kernel
  refine ⟨isolated.1 "shop" _ _ ?same, isolated.2.1 [] [] _ _ different "crm",
    isolated.2.2 none [openingShop] _ _ ?names ?walks⟩
  case same => simp [named, unnamed]
  case names => decide
  case walks => decide

end Server

end ServerResources
