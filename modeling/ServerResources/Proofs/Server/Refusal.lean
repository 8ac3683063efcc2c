import ServerResources.Proofs.Http.Delivery
import ServerResources.Proofs.Server.Reachable

/-!
# Refusals

A request that only reads, and a write that does not succeed, leave the service as it was:
the stored descriptors and their order, every definition, the published names and the
bindings are the same, and no later answer tells that the request was made.  A document
with a mistake anywhere in it is refused, so that a faulty replacement of an application
does not touch the application that is there.

Success is not always received.  A write is carried out before its answer is written, and
nothing is taken back if a name in the answer cannot be written; but no other write changes
the service without the client receiving that it succeeded.

Nothing is asked of the service, so this holds in every state and during any outage.
-/

namespace ServerResources

open Http

theorem Http.Request.isWrite_of_posted? {α : Type} {request : Request} {route : Route}
    {decode : Origin → Decoder α} {value : α}
    (posted : request.posted? route decode = some value) : request.IsWrite := by
  rw [posted?_eq_some_iff] at posted
  exact .inl posted.1.1

namespace Server

/-- Two services between which nobody can tell a difference. -/
structure Unchanged (before after : Server) : Prop where
  catalog_eq : after.catalog = before.catalog
  definitions_eq : after.definitions = before.definitions
  published_eq : after.deployment.registrar.published = before.deployment.registrar.published
  naming_eq : after.deployment.registrar.naming = before.deployment.registrar.naming
  responses_eq : ∀ later, after.responses later = before.responses later

variable {server after : Server} {request : Request} {response : Response}

/-- Warnings are for the request that causes them, not for later ones. -/
theorem responses_withoutWarnings (server : Server) (requests : List Request) :
    server.withoutWarnings.responses requests = server.responses requests := by
  cases requests with
  | nil => rfl
  | cons request rest => rfl

theorem unchanged_withoutWarnings (server : Server) : Unchanged server server.withoutWarnings where
  catalog_eq := rfl
  definitions_eq := rfl
  published_eq := rfl
  naming_eq := rfl
  responses_eq := server.responses_withoutWarnings

/-! ## Answers of writes that are carried out -/

/-- The words in these answers can be written. -/
theorem isEncodable_words : ∀ word ∈ ["status", "registered", "name", "app_name", "mail_sessions"],
    Text.isEncodable word = true := by
  decide +kernel

theorem textual_connector (status name : String) :
    (Response.ok (.object [("status", .string status), ("name", .string name)])).Textual
      ["status", status, "name", name] where
  issues_eq := rfl
  leaves_eq := by simp [Response.ok, Json.leaves, Json.fieldLeaves]

theorem textual_report (report : RegistrationReport) :
    (Response.ok report.dump).Textual
      ("app_name" :: report.application :: "mail_sessions" :: report.sessions) where
  issues_eq := rfl
  leaves_eq := by
    simp [Response.ok, RegistrationReport.dump, Json.leaves, Json.fieldLeaves,
      Json.leaves_ofStrings]

/-- What changes the service is a write.  It succeeds, and its answer is made of texts. -/
theorem Change.eq_or_textual (change : Change server request response after) :
    after = server ∨
      request.IsWrite ∧ response.isSuccess = true ∧ ∃ texts, response.Textual texts := by
  cases change with
  | nothing => exact .inl rfl
  | connectorStored connector posted =>
      exact .inr ⟨Request.isWrite_of_posted? posted, rfl, _, textual_connector _ _⟩
  | connectorRemoved name known unposted delete =>
      exact .inr ⟨.inr delete, rfl, _, textual_connector _ _⟩
  | applicationStored application posted =>
      exact .inr ⟨Request.isWrite_of_posted? posted, rfl, _, textual_report _⟩
  | applicationRemoved name known unposted delete =>
      obtain ⟨application, found⟩ := Option.isSome_iff_exists.mp known
      rw [removeApplication, found]
      exact .inr ⟨.inr delete, rfl, _, textual_report _⟩

theorem answer_eq (server : Server) (request : Request) :
    server.answer request =
      ((server.handle request).1.deliver request, (server.handle request).2) :=
  rfl

/-- The service is changed by a write only whose success is received or cannot be written. -/
theorem unchanged_answer
    (unanswered : ¬ (request.IsWrite ∧ ((server.answer request).1.isSuccess = true ∨
      (server.answer request).1.isUnreported = true))) :
    Unchanged server (server.answer request).2 := by
  rcases (server.withoutWarnings.change_dispatch request).eq_or_textual with
    same | ⟨write, success, texts, textual⟩
  · have unchanged := server.unchanged_withoutWarnings
    rw [answer_eq, handle_eq, same]
    exact unchanged
  · refine (unanswered ⟨write, ?_⟩).elim
    by_cases received : (server.answer request).1.isSuccess = true
    · exact .inl received
    · exact .inr (isUnreported_deliver (textual.withWarnings _) success received)

/-! ## Documents -/

/-- A document of an application with a mistake in it is refused with all of its mistakes. -/
theorem handle_of_invalid_application (server : Server) {issues : List Issue}
    (post : request.method = .post)
    (named : Route.ofPath? request.path = some .applications)
    (mistaken : request.document Application.decode = .invalid issues) :
    (server.handle request).1.status = 422 ∧
      (server.handle request).1.body = (Response.invalid issues).body := by
  have refused : server.withoutWarnings.dispatch request =
      (.invalid issues, server.withoutWarnings) := by
    simp only [dispatch, named, serve, post, storeApplication, mistaken]
  rw [handle_eq, refused]
  exact ⟨rfl, rfl⟩

/-- The answer to a connector that is posted. -/
theorem reported_of_connector? (server : Server) {connector : Connector}
    (posted : request.connector? = some connector) :
    (server.handle request).1.isSuccess = true ∧
      (server.handle request).1.Textual ["status", "registered", "name", connector.name] ∧
      (server.handle request).2.catalog.connector? connector.name = some connector := by
  rw [handle_eq, server.withoutWarnings.dispatch_of_connector? posted]
  exact ⟨rfl, (textual_connector _ _).withWarnings _, OrderedMap.get?_insert_self _ _ _⟩

/-- The answer to an application that is posted. -/
theorem reported_of_application? (server : Server) {application : Application MailSession}
    (posted : request.application? = some application) :
    (server.handle request).1.isSuccess = true ∧
      (∃ names,
        (server.handle request).1.body = (RegistrationReport.mk application.name names).dump ∧
        (server.handle request).1.Textual
          ("app_name" :: application.name :: "mail_sessions" :: names)) ∧
      ((server.handle request).2.catalog.application? application.name).isSome = true := by
  have stored := (server.withoutWarnings.withdraw application.name).2.application?_entering
    application application.name
  rw [if_pos rfl] at stored
  rw [handle_eq, server.withoutWarnings.dispatch_of_application? posted]
  exact ⟨rfl, ⟨_, rfl, (textual_report _).withWarnings _⟩, congrArg Option.isSome stored⟩

/-- Unless a request is a write that succeeds, it changes nothing; and a write that succeeds is
received as such, or it is one with a text in its answer that cannot be written.  In particular
a document of an application with a mistake in it is refused and changes nothing, whatever is
stored.  A well formed document is stored, and its success is received exactly if the names in
the answer can be written. -/
theorem only_writes_carried_out_change (server : Server) (request : Request) :
    let delivery := (server.answer request).1
    let after := (server.answer request).2
    (¬ (request.IsWrite ∧ (delivery.isSuccess = true ∨ delivery.isUnreported = true)) →
      Unchanged server after) ∧
    (∀ issues, request.method = .post → Route.ofPath? request.path = some .applications →
      request.document Application.decode = .invalid issues →
        delivery.isSuccess = false ∧ delivery.response.status = 422 ∧
          delivery.response.body = (Response.invalid issues).body ∧ Unchanged server after) ∧
    (∀ connector, request.connector? = some connector →
      after.catalog.connector? connector.name = some connector ∧
        (delivery.isSuccess = true ↔ Text.isEncodable connector.name = true)) ∧
    ∀ application, request.application? = some application →
      (after.catalog.application? application.name).isSome = true ∧
        ∃ names, delivery.response.body = (RegistrationReport.mk application.name names).dump ∧
          (delivery.isSuccess = true ↔
            ∀ name ∈ application.name :: names, Text.isEncodable name = true) := by
  intro delivery after
  refine ⟨unchanged_answer, ?mistaken, ?connector, ?application⟩
  case mistaken =>
    intro issues post named mistaken
    obtain ⟨status, body⟩ := handle_of_invalid_application server post named mistaken
    have refused : (server.handle request).1.isSuccess = false := by
      rw [Response.isSuccess, status]
      rfl
    have notCarriedOut : ¬ (delivery.isSuccess = true ∨ delivery.isUnreported = true) := by
      intro carriedOut
      have success : (server.handle request).1.isSuccess = true := isSuccess_of_deliver carriedOut
      rw [refused] at success
      cases success
    have unsuccessful : delivery.isSuccess = false :=
      Bool.eq_false_iff.mpr fun received => notCarriedOut (.inl received)
    have same : delivery.response = (server.handle request).1 := response_deliver _ _
    exact ⟨unsuccessful, by rw [same, status], by rw [same, body],
      unchanged_answer fun answered => notCarriedOut answered.2⟩
  case connector =>
    intro connector posted
    obtain ⟨success, textual, stored⟩ := server.reported_of_connector? posted
    refine ⟨stored, (isSuccess_deliver_iff textual success request).trans ?_⟩
    simp [isEncodable_words]
  case application =>
    intro application posted
    obtain ⟨success, ⟨names, body, textual⟩, stored⟩ := server.reported_of_application? posted
    have same : delivery.response = (server.handle request).1 := response_deliver _ _
    refine ⟨stored, names, by rw [same, body],
      (isSuccess_deliver_iff textual success request).trans ?_⟩
    simp [isEncodable_words]

/-- A replacement for an application in which the host of the last session is no text. -/
def faultyReplacement : Request :=
  { method := .post
    path := "/applications"
    body := some (.object
      [ ("app_name", .string "shop"),
        ("bundles", .array
          [.object
            [ ("name", .string "ejb"),
              ("bundle_type", .string "ejb"),
              ("ejbs", .array
                [.object
                  [ ("name", .string "Orders"),
                    ("mail_sessions", .array
                      [ .object [("name", .string "java:app/mail")],
                        .object
                          [ ("name", .string "java:global/mail"),
                            ("host", .array []) ] ]) ]]) ]]) ]) }

/-- Where the mistake is. -/
def faultyHost : Issue where
  location :=
    [ .key "body", .key "bundles", .index 0, .key "ejbs", .index 0, .key "mail_sessions",
      .index 1, .key "host" ]
  complaint := .notString

theorem only_writes_carried_out_change_faulty :
    let server := (start {} (.ofTable []) true).after redeployment
    let delivery := (server.answer faultyReplacement).1
    let after := (server.answer faultyReplacement).2
    faultyReplacement.document Application.decode = .invalid [faultyHost] ∧
    delivery.isSuccess = false ∧ delivery.response.status = 422 ∧
    after.descriptors = server.descriptors ∧
    after.boundKeys =
      [ { name := "java:global/mail", application := some "shop" },
        { name := "java:global/news", application := some "shop" } ] := by
  intro server delivery after
  have mistaken : faultyReplacement.document Application.decode = .invalid [faultyHost] := rfl
  obtain ⟨unsuccessful, status, -, unchanged⟩ :=
    (only_writes_carried_out_change server faultyReplacement).2.1 [faultyHost] rfl rfl mistaken
  have bound : server.boundKeys =
      [ { name := "java:global/mail", application := some "shop" },
        { name := "java:global/news", application := some "shop" } ] := by
    decide +kernel
  refine ⟨mistaken, unsuccessful, status, ?descriptors, ?bound⟩
  case descriptors =>
    rw [descriptors, descriptors, unchanged.catalog_eq, unchanged.definitions_eq]
  case bound =>
    rw [← bound, boundKeys, boundKeys, Registrar.boundKeys, Registrar.boundKeys,
      unchanged.naming_eq]

/-- The name "mq" with a surrogate without a partner behind it. -/
def brokenName : String :=
  Text.ofCodePoints [0x6D, 0x71, 0xD800]

/-- A connector of this name. -/
def brokenPost : Request :=
  { method := .post
    path := "/connectors"
    body := some (.object [("name", .string brokenName)]) }

/-- The connector is stored, and then its name cannot be written into the answer: the client
receives an error, and the connector stays.  From then on the connectors cannot be listed. -/
theorem unreported_write_changes :
    let server := start {} (.ofTable []) true
    let delivery := (server.answer brokenPost).1
    let after := (server.answer brokenPost).2
    let listing : Request := { method := .get, path := "/connectors" }
    brokenPost.IsWrite ∧ delivery.status = 500 ∧ delivery.isSuccess = false ∧
    server.catalog.connectors.values.map Connector.name = [] ∧
    after.catalog.connectors.values.map Connector.name = [brokenName] ∧
    ¬ Unchanged server after ∧
    (server.answer listing).1.status = 200 ∧ (after.answer listing).1.status = 500 := by
  intro server delivery after listing
  have before : server.catalog.connectors.values.map Connector.name = [] := rfl
  have stored : after.catalog.connectors.values.map Connector.name = [brokenName] := by
    decide +kernel
  refine ⟨.inl rfl, by decide +kernel, by decide +kernel, before, stored, ?changed,
    by decide +kernel, by decide +kernel⟩
  case changed =>
    intro unchanged
    rw [unchanged.catalog_eq, before] at stored
    cases stored

end Server

end ServerResources
