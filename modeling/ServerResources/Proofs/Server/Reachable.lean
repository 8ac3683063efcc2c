import ServerResources.Proofs.Server.Effect

/-!
# Reachable states

What is published and bound after any run of a service that started empty, in terms
of the stored descriptors and of the answers that clients received.
-/

namespace ServerResources

open Http

/-- Whether a request posts an application of a name. -/
def Http.Request.Posts (request : Request) (name : String) : Prop :=
  ∃ application, request.application? = some application ∧ application.name = name

theorem Http.Request.not_posts_of_unposted {request : Request}
    (unposted : request.application? = none) (name : String) : ¬ request.Posts name := by
  rintro ⟨application, posted, -⟩
  rw [unposted] at posted
  cases posted

namespace Server

variable {settings : Settings} {server : Server}

/-- Of the requests that post an application of a name, the last is answered with a
report of the given names. -/
def LastReport (server : Server) (requests : List Request) (name : String)
    (names : List String) : Prop :=
  ∃ earlier request later, requests = earlier ++ request :: later ∧
    request.Posts name ∧ (∀ other ∈ later, ¬ other.Posts name) ∧
      ((server.after earlier).handle request).1 = .ok (RegistrationReport.mk name names).dump

theorem LastReport.snoc {requests : List Request} {name : String} {names : List String}
    (reported : LastReport server requests name names) {request : Request}
    (silent : ¬ request.Posts name) :
    LastReport server (requests ++ [request]) name names := by
  rcases reported with ⟨earlier, post, later, rfl, posts, none, response⟩
  refine ⟨earlier, post, later ++ [request], ?_, posts, ?_, response⟩
  · rw [List.append_assoc, List.cons_append]
  · intro other member
    rcases List.mem_append.mp member with before | last
    · exact none other before
    · rw [List.mem_singleton.mp last]
      exact silent

/-- The report on a stored application named what its stored descriptor shows. -/
theorem Consistent.lastReport (consistent : server.Consistent settings)
    (empty : server.descriptors.applications = ∅) (requests : List Request) {name : String}
    {stored : Application MailSession}
    (found : (server.after requests).descriptors.application? name = some stored) :
    LastReport server requests name (stored.sharedNames settings) := by
  induction requests using List.reverseRecOn with
  | nil =>
      rw [after_nil, Catalog.application?, empty] at found
      cases found
  | append_singleton earlier request ih =>
      have serves := (consistent.after earlier).handle request
      have effect := serves.effect
      rw [after_snoc] at found
      generalize answered : ((server.after earlier).handle request).1 = response at effect
      generalize ((server.after earlier).handle request).2.descriptors = after at effect found
      -- Only a request that stores an application of the name starts the split anew;
      -- behind any other request the old split is extended.
      cases effect with
      | nothing response unposted =>
          exact (ih found).snoc (Request.not_posts_of_unposted unposted name)
      | connectorStored connector posted unposted =>
          exact (ih found).snoc (Request.not_posts_of_unposted unposted name)
      | connectorRemoved removed unposted =>
          exact (ih found).snoc (Request.not_posts_of_unposted unposted name)
      | applicationRemoved response removed unposted =>
          rw [Catalog.application?_removeApplication] at found
          split at found
          next => cases found
          next => exact (ih found).snoc (Request.not_posts_of_unposted unposted name)
      | applicationStored application latest posted adopted =>
          rw [Catalog.application?_storeApplication] at found
          split at found
          next same =>
            cases found
            have named : application.name = name := adopted.name_eq.symm.trans same.symm
            refine ⟨earlier, request, [], rfl, ⟨application, posted, named⟩, ?_, ?_⟩
            · intro other member
              cases member
            · rw [answered, adopted.sharedNames_eq, named]
          next different =>
            apply (ih found).snoc
            rintro ⟨other, same, named⟩
            rw [posted] at same
            cases same
            exact different (named.symm.trans adopted.name_eq.symm)

/-- How the published names of an application are shown. -/
theorem handle_mailSessions (request : Request) {name : String}
    (get : request.method = .get)
    (named : Route.ofPath? request.path = some (.mailSessions name))
    (stored : (server.descriptors.application? name).isSome = true) :
    (server.handle request).1 = .ok (.ofStrings (server.namesOf name)) := by
  rw [descriptors, Catalog.application?_map, Option.isSome_map] at stored
  rcases Option.isSome_iff_exists.mp stored with ⟨references, found⟩
  have answer : server.withoutWarnings.mailSessions name =
      .ok (.ofStrings (server.namesOf name)) := by
    have same : server.withoutWarnings.catalog.application? name = some references := found
    simp only [mailSessions, same]
    rfl
  simp only [handle, dispatch, named, serve, get, answer]
  rfl

theorem Consistent.mem_published_iff (consistent : server.Consistent settings)
    (application name : String) :
    (application, name) ∈ server.deployment.registrar.published.keys ↔
      ∃ stored, server.descriptors.application? application = some stored ∧
        settings.isShared name = true ∧ ∃ session ∈ stored.walk, session.name = name := by
  rw [← Registrar.mem_names_iff]
  change name ∈ server.namesOf application ↔ _
  rw [consistent.namesOf_eq]
  cases server.descriptors.application? application with
  | none => simp
  | some stored => simp [Application.mem_sharedNames_iff]

/-- After every run the stored descriptors, the published names and the bindings
agree, and the clients were told so. -/
theorem state_agrees (settings : Settings) (introspector : Introspector)
    (exposesBindings : Bool) (requests : List Request) :
    let first := start settings introspector exposesBindings
    let server := first.after requests
    (∀ application name,
      (application, name) ∈ server.deployment.registrar.published.keys ↔
        ∃ stored, server.descriptors.application? application = some stored ∧
          settings.isShared name = true ∧ ∃ session ∈ stored.walk, session.name = name) ∧
    (server.boundKeys = server.deployment.registrar.published.keys.map (fun place =>
        { name := place.2, application := some place.1, module := none }) ∧
      server.boundKeys.Nodup) ∧
    ∀ application stored, server.descriptors.application? application = some stored →
      (∀ request, request.method = .get →
        Route.ofPath? request.path = some (.mailSessions application) →
          (server.handle request).1 = .ok (.ofStrings
            ((stored.walk.map MailSession.name).filter settings.isShared).eraseDups)) ∧
      first.LastReport requests application
        ((stored.walk.map MailSession.name).filter settings.isShared).eraseDups := by
  intro first server
  have beginning := consistent_start settings introspector exposesBindings
  have consistent : server.Consistent settings := beginning.after requests
  refine ⟨consistent.mem_published_iff, ⟨consistent.inService.aligned.boundKeys_eq, ?_⟩, ?_⟩
  · exact server.deployment.registrar.naming.directory.bindings.nodup_keys
  · intro application stored found
    constructor
    · intro request get named
      have shown := consistent.namesOf_eq application
      rw [found, Option.map_some, Option.getD_some] at shown
      rw [handle_mailSessions request get named (by rw [found]; rfl), shown]
      rfl
    · exact beginning.lastReport rfl requests found

/-- A run that stores an application twice, the second time with another name and with
one of its names twice. -/
def redeployment : List Request :=
  let session := fun name => Json.object [("name", .string name)]
  let post := fun names : List String =>
    { method := .post
      path := "/applications"
      body := some (.object
        [ ("app_name", .string "shop"),
          ("bundles", .array
            [.object
              [ ("name", .string "web"),
                ("mail_sessions", .array (names.map session)) ]]) ]) : Request }
  [ post ["java:app/mail", "java:global/mail"],
    post ["java:global/mail", "java:comp/mail", "java:global/news", "java:global/mail"] ]

theorem state_agrees_redeployment :
    let server := (start {} (.ofTable []) true).after redeployment
    server.boundKeys =
      [ { name := "java:global/mail", application := some "shop" },
        { name := "java:global/news", application := some "shop" } ] ∧
    ("shop", "java:app/mail") ∉ server.deployment.registrar.published.keys ∧
    (server.handle { method := .get, path := "/applications/shop/mail-sessions" }).1 =
      .ok (.ofStrings ["java:global/mail", "java:global/news"]) := by
  intro server
  have agrees := state_agrees {} (.ofTable []) true redeployment
  have bound : server.boundKeys =
      [ { name := "java:global/mail", application := some "shop" },
        { name := "java:global/news", application := some "shop" } ] := by
    decide +kernel
  refine ⟨bound, ?_, ?_⟩
  · intro published
    have stale := List.mem_map_of_mem published (f := fun place : String × String =>
      ({ name := place.2, application := some place.1 } : BindingKey))
    rw [← agrees.2.1.1] at stale
    revert stale
    decide +kernel
  · have names : (server.descriptors.application? "shop").map (fun stored =>
        ((stored.walk.map MailSession.name).filter (Settings.isShared {})).eraseDups) =
          some ["java:global/mail", "java:global/news"] := by
      decide +kernel
    rcases Option.map_eq_some_iff.mp names with ⟨stored, found, shown⟩
    have answer := (agrees.2.2 "shop" stored found).1
      { method := .get, path := "/applications/shop/mail-sessions" } rfl (by decide +kernel)
    rw [shown] at answer
    exact answer

end Server

end ServerResources
