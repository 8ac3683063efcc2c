import ServerResources.Server

/-!
# What a request changes

Whatever its path, method, query and body, a request does one of five things to the
service: it stores or removes a connector, stores or removes an application, or
changes nothing.  Which requests store something is decided by the request alone.  A
write that changes nothing is answered with a refusal.
Every statement about runs of the service is a case analysis over `Change`.
-/

namespace ServerResources

open Http

/-- Whether a request asks for something to be stored or removed. -/
def Http.Request.IsWrite (request : Request) : Prop :=
  request.method = .post ∨ request.method = .delete

/-- Whether a response says that the request succeeded. -/
def Http.Response.isSuccess (response : Response) : Bool :=
  200 ≤ response.status && response.status < 300

/-- The document that a request posts to a route, if it posts one that is well
formed. -/
def Http.Request.posted? {α : Type} (request : Request) (route : Route)
    (decode : Origin → Decoder α) : Option α :=
  if request.method = .post ∧ Route.ofPath? request.path = some route then
    match request.document decode with
    | .valid value => some value
    | .invalid _ => none
  else none

/-- The connector that a request posts. -/
def Http.Request.connector? (request : Request) : Option Connector :=
  request.posted? .connectors Connector.decode

/-- The application that a request posts. -/
def Http.Request.application? (request : Request) : Option (Application MailSession) :=
  request.posted? .applications Application.decode

/-- A document is posted if the request is a post to its route and it can be read. -/
theorem Http.Request.posted?_eq_some_iff {α : Type} (request : Request) (route : Route)
    (decode : Origin → Decoder α) (value : α) :
    request.posted? route decode = some value ↔
      (request.method = .post ∧ Route.ofPath? request.path = some route) ∧
        request.document decode = .valid value := by
  unfold posted?
  by_cases addressed : request.method = .post ∧ Route.ofPath? request.path = some route
  · rw [if_pos addressed]
    cases reading : request.document decode with
    | valid read => simp [addressed]
    | invalid issues => simp
  · simp [addressed]

theorem Http.Request.posted?_of_ne {α : Type} {request : Request} {route other : Route}
    (decode : Origin → Decoder α) (named : Route.ofPath? request.path = some route)
    (different : route ≠ other) : request.posted? other decode = none := by
  rw [posted?, if_neg]
  rintro ⟨-, equal⟩
  rw [named] at equal
  exact different (Option.some.inj equal)

namespace Server

/-- The possible answers to a request, with the states in which they leave the
service. -/
inductive Change (server : Server) (request : Request) : Response → Server → Prop where
  | nothing (response : Response)
      (unposted : request.application? = none)
      (idle : request.IsWrite → response.isSuccess = false) :
      Change server request response server
  | connectorStored (connector : Connector)
      (posted : request.connector? = some connector)
      (unposted : request.application? = none) :
      Change server request
        (.ok (.object [("status", .string "registered"), ("name", .string connector.name)]))
        { server with catalog := server.catalog.storeConnector connector }
  | connectorRemoved (name : String)
      (known : (server.catalog.connector? name).isSome = true)
      (unposted : request.application? = none)
      (delete : request.method = .delete)
      (named : Route.ofPath? request.path = some (.connector name)) :
      Change server request
        (.ok (.object [("status", .string "removed"), ("name", .string name)]))
        { server with catalog := server.catalog.removeConnector name }
  | applicationStored (application : Application MailSession)
      (posted : request.application? = some application) :
      Change server request (server.deployApplication application).1
        (server.deployApplication application).2
  | applicationRemoved (name : String)
      (known : (server.catalog.application? name).isSome = true)
      (unposted : request.application? = none)
      (delete : request.method = .delete)
      (named : Route.ofPath? request.path = some (.application name)) :
      Change server request (server.removeApplication name).1
        (server.removeApplication name).2

variable {server : Server} {request : Request}

theorem change_storeConnector (post : request.method = .post)
    (named : Route.ofPath? request.path = some .connectors) :
    Change server request (server.storeConnector request).1 (server.storeConnector request).2 := by
  have unposted : request.application? = none :=
    Request.posted?_of_ne _ named (by decide)
  unfold storeConnector
  cases reading : request.document Connector.decode with
  | invalid issues => exact .nothing _ unposted fun _ => rfl
  | valid connector =>
      have posted : request.connector? = some connector :=
        (request.posted?_eq_some_iff _ _ _).mpr ⟨⟨post, named⟩, reading⟩
      exact .connectorStored connector posted unposted

theorem change_removeConnector {name : String} (delete : request.method = .delete)
    (named : Route.ofPath? request.path = some (.connector name)) :
    Change server request (server.removeConnector name).1 (server.removeConnector name).2 := by
  have unposted : request.application? = none :=
    Request.posted?_of_ne _ named (by simp)
  unfold removeConnector
  cases known : server.catalog.connector? name with
  | none => exact .nothing _ unposted fun _ => rfl
  | some connector => exact .connectorRemoved name (by rw [known]; rfl) unposted delete named

theorem change_storeApplication (post : request.method = .post)
    (named : Route.ofPath? request.path = some .applications) :
    Change server request (server.storeApplication request).1
      (server.storeApplication request).2 := by
  unfold storeApplication
  cases reading : request.document Application.decode with
  | invalid issues =>
      refine .nothing _ ?_ fun _ => rfl
      simp only [Request.application?, Request.posted?, post, named, and_self, if_true, reading]
  | valid application =>
      have posted : request.application? = some application :=
        (request.posted?_eq_some_iff _ _ _).mpr ⟨⟨post, named⟩, reading⟩
      exact .applicationStored application posted

theorem change_removeApplication {name : String} (delete : request.method = .delete)
    (named : Route.ofPath? request.path = some (.application name)) :
    Change server request (server.removeApplication name).1
      (server.removeApplication name).2 := by
  have unposted : request.application? = none :=
    Request.posted?_of_ne _ named (by simp)
  cases known : server.catalog.application? name with
  | none =>
      simp only [removeApplication, known]
      exact .nothing _ unposted fun _ => rfl
  | some application => exact .applicationRemoved name (by rw [known]; rfl) unposted delete named

/-- Nothing is changed by reading, whatever the answer. -/
theorem change_of_get (get : request.method = .get) (response : Response) :
    Change server request response server := by
  apply Change.nothing
  case unposted => simp [Request.application?, Request.posted?, get]
  case idle => simp [Request.IsWrite, get]

theorem change_serve (route : Route) (named : Route.ofPath? request.path = some route) :
    Change server request (server.serve route request).1 (server.serve route request).2 := by
  by_cases storing : route = .applications ∧ request.method = .post
  · rcases storing with ⟨rfl, post⟩
    simp only [serve, post]
    exact change_storeApplication post named
  · have unposted : request.application? = none := by
      rw [Request.application?, Request.posted?, if_neg]
      rintro ⟨post, equal⟩
      rw [named] at equal
      exact storing ⟨Option.some.inj equal, post⟩
    unfold serve
    split
    next post => exact change_storeConnector post named
    next get => exact change_of_get get _
    next delete => exact change_removeConnector delete named
    next get => exact change_of_get get _
    next post => exact change_storeApplication post named
    next delete => exact change_removeApplication delete named
    next get => exact change_of_get get _
    next get => exact change_of_get get _
    next get => exact change_of_get get _
    next => exact .nothing _ unposted fun _ => rfl

theorem change_dispatch (server : Server) (request : Request) :
    Change server request (server.dispatch request).1 (server.dispatch request).2 := by
  unfold dispatch
  cases named : Route.ofPath? request.path with
  | some route => exact change_serve route named
  | none =>
      have unposted : request.application? = none := by
        rw [Request.application?, Request.posted?, if_neg]
        rintro ⟨-, equal⟩
        rw [named] at equal
        cases equal
      cases movedPath? request.path with
      | some path => exact .nothing _ unposted fun _ => rfl
      | none => exact .nothing _ unposted fun _ => rfl

theorem dispatch_of_connector? (server : Server) {connector : Connector}
    (posted : request.connector? = some connector) :
    server.dispatch request =
      (.ok (.object [("status", .string "registered"), ("name", .string connector.name)]),
        { server with catalog := server.catalog.storeConnector connector }) := by
  rw [Request.connector?, Request.posted?_eq_some_iff] at posted
  rcases posted with ⟨⟨post, named⟩, reading⟩
  simp only [dispatch, named, serve, post, storeConnector, reading]

theorem dispatch_of_application? (server : Server) {application : Application MailSession}
    (posted : request.application? = some application) :
    server.dispatch request = server.deployApplication application := by
  rw [Request.application?, Request.posted?_eq_some_iff] at posted
  rcases posted with ⟨⟨post, named⟩, reading⟩
  simp only [dispatch, named, serve, post, storeApplication, reading]

/-- The warnings of a request go into its response and nowhere else. -/
theorem handle_eq (server : Server) (request : Request) :
    server.handle request =
      ({ (server.withoutWarnings.dispatch request).1 with
          warnings := (server.withoutWarnings.dispatch request).2.deployment.registrar.warnings },
        (server.withoutWarnings.dispatch request).2.withoutWarnings) :=
  rfl

/-! ## Runs -/

/-- The answers to some requests. -/
def responses (server : Server) : List Request → List Response
  | [] => []
  | request :: rest =>
      (server.handle request).1 :: responses (server.handle request).2 rest

/-- The service after some requests. -/
def after (server : Server) (requests : List Request) : Server :=
  requests.foldl (fun current request => (current.handle request).2) server

@[simp] theorem after_nil (server : Server) : server.after [] = server :=
  rfl

theorem after_append (server : Server) (first second : List Request) :
    server.after (first ++ second) = (server.after first).after second :=
  List.foldl_append

theorem responses_append (server : Server) (first second : List Request) :
    server.responses (first ++ second) =
      server.responses first ++ (server.after first).responses second := by
  induction first generalizing server with
  | nil => rfl
  | cons request rest ih =>
      rw [List.cons_append, responses, ih]
      rfl

theorem after_snoc (server : Server) (requests : List Request) (request : Request) :
    server.after (requests ++ [request]) = ((server.after requests).handle request).2 := by
  rw [after_append]
  rfl

end Server

end ServerResources
