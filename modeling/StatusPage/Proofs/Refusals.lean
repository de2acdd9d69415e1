import StatusPage.Proofs.RequestEffects

/-!
Callers that are turned away. The caller is checked before anything else of a request is read, and
the check depends on nothing but the authorization header, the clock and the keys. So a refusal
tells nothing about the store, and nothing of the request but its header shows in it.
-/

set_option autoImplicit false

namespace StatusPage

namespace Http

/-- Who may use an endpoint: whoever has a role, or, if none is asked for, whoever is signed in.
There is nothing for the endpoints that everybody may use. -/
def Endpoint.guarded : Endpoint → Option (Option Role)
  | .everybody _ => none
  | .member _ => some none
  | .operator _ => some (some .operator)
  | .admin _ => some (some .admin)

theorem headOnly_body (request : Request) (response : Response) :
    (headOnly request response).body = if request.method = "HEAD" then .empty
      else response.body := by
  unfold headOnly
  split <;> rfl

theorem route_eq (settings : Settings) {request : Request} {found : Route}
    {captured : List (List Char)} {endpoint : Endpoint}
    (reached : (segments request.path).bind findRoute = some (found, captured))
    (chosen : found.endpoint? request.method = some endpoint) :
    route settings request = endpoint.serve settings captured request := by
  unfold route
  rw [reached]
  simp only [chosen]

/-! ### What becomes of a caller -/

variable {verify verify' : String → Except AuthError Identity} {required : Option Role}
  {header : Option String}
  {response response' : Response} {caller : Identity}

def nobody : Option String → Response
  | none => unauthorized "Missing Authorization header"
  | some text =>
      match bearerToken text with
      | none => unauthorized "Invalid Authorization format. Expected: Bearer <token>"
      | some _ => unauthorized "Invalid or expired token"

theorem nobody_status (header : Option String) : (nobody header).status = 401 := by
  unfold nobody
  split
  · rfl
  · split <;> rfl

private theorem identify_error (refused : identify verify header = .error response) :
    response = nobody header := by
  cases header with
  | none =>
      cases refused
      rfl
  | some text =>
      simp only [identify] at refused
      simp only [nobody]
      cases bearer : bearerToken text with
      | none =>
          rw [bearer] at refused
          cases refused
          rfl
      | some token =>
          rw [bearer] at refused
          cases verdict : verify token with
          | ok caller =>
              simp only [verdict] at refused
              cases refused
          | error e =>
              simp only [verdict] at refused
              cases refused
              rfl

private theorem admission_error (refused : admission required caller = .error response) :
    ∃ role, required = some role ∧ response = outranked role := by
  cases required with
  | none => cases refused
  | some role =>
      simp only [admission] at refused
      split at refused
      · cases refused
      · cases refused
        exact ⟨role, rfl, rfl⟩

theorem check_error (refused : check verify required header = .error response) :
    response = nobody header ∨ ∃ role, required = some role ∧ response = outranked role := by
  unfold check at refused
  cases known : identify verify header with
  | error refusal =>
      rw [known] at refused
      cases refused
      exact .inl (identify_error known)
  | ok caller =>
      rw [known] at refused
      exact .inr (admission_error refused)

/-- A refusal is known by its status: nothing else of the caller shows in it. -/
theorem check_alike (refused : check verify required header = .error response)
    (refused' : check verify' required header = .error response')
    (same : response.status = response'.status) :
    response = response' := by
  rcases check_error refused with rfl | ⟨role, reserved, rfl⟩
  · rcases check_error refused' with rfl | ⟨role', -, rfl⟩
    · rfl
    · rw [nobody_status] at same
      cases same
  · rcases check_error refused' with rfl | ⟨role', reserved', rfl⟩
    · rw [nobody_status] at same
      cases same
    · cases reserved.symm.trans reserved'
      rfl

end Http

namespace Application

variable {app : Application} {request : Http.Request} {world : World} {required : Option Role}

/-- A request is turned away with this status: it brings no header that can be read, or one of
another form, or a token that is not valid, or its caller ranks too low. -/
inductive TurnsAway (app : Application) (required : Option Role) (request : Http.Request)
    (world : World) :
    Nat → Prop
  | missing (absent : request.asciiHeader? "authorization" = none) :
      TurnsAway app required request world 401
  | malformed {text : String} (present : request.asciiHeader? "authorization" = some text)
      (other : Http.bearerToken text = none) : TurnsAway app required request world 401
  | unverified {text token : String} {e : AuthError}
      (present : request.asciiHeader? "authorization" = some text)
      (bearer : Http.bearerToken text = some token)
      (refused : app.keyring.verify world.now.seconds token = .error e) :
      TurnsAway app required request world 401
  | outranked {caller : Identity} {role : Role} (known : app.Bearer request world caller)
      (reserved : required = some role) (low : Role.rankOf caller.role < role.rank) :
      TurnsAway app required request world 403

theorem TurnsAway.checked {status : Nat} (away : app.TurnsAway required request world status) :
    ∃ response,
      Http.check (app.keyring.verify world.now.seconds) required
        (request.asciiHeader? "authorization") = .error response ∧ response.status = status := by
  cases away with
  | missing absent =>
      rw [absent]
      exact ⟨_, rfl, rfl⟩
  | malformed present other =>
      refine ⟨Http.unauthorized "Invalid Authorization format. Expected: Bearer <token>",
        ?_, rfl⟩
      rw [present]
      simp only [Http.check, Http.identify, other]
      rfl
  | unverified present bearer refused =>
      refine ⟨Http.unauthorized "Invalid or expired token", ?_, rfl⟩
      rw [present]
      simp only [Http.check, Http.identify, bearer, refused]
      rfl
  | @outranked caller role known reserved low =>
      refine ⟨Http.outranked role, ?_, rfl⟩
      have refused : ¬Role.permits caller.role role := by
        simp only [Role.permits, decide_eq_true_eq]
        omega
      rw [Http.check, Application.bearer_iff.mp known, reserved]
      exact if_neg refused

/-! ### Endpoints that are guarded -/

private theorem run_guarded {endpoint : Http.Endpoint} (guarded : endpoint.guarded = some required)
    (captured : List (List Char)) {response : Http.Response}
    (refused : Http.check (app.keyring.verify world.now.seconds) required
      (request.asciiHeader? "authorization") = .error response) :
    app.run (endpoint.serve app.settings captured request) world = (.value response, world) := by
  have ran := run_authorize app required request world
  rw [refused] at ran
  cases endpoint with
  | everybody endpoint => cases guarded
  | member endpoint =>
      cases guarded
      exact app.run_bind_value ran _
  | operator endpoint =>
      cases guarded
      exact app.run_bind_value ran _
  | admin endpoint =>
      cases guarded
      exact app.run_bind_value ran _

/-- No route has an endpoint for the question of a browser that asks first. -/
theorem endpoint_method {segments : List (List Char)} {found : Http.Route}
    {captured : List (List Char)} {method : String} {endpoint : Http.Endpoint}
    (reached : Http.findRoute segments = some (found, captured))
    (chosen : found.endpoint? method = some endpoint) : method ≠ "OPTIONS" := by
  rintro rfl
  obtain ⟨route, member, matched⟩ := List.exists_of_findSome?_eq_some reached
  obtain ⟨_, -, same⟩ := Option.map_eq_some_iff.mp matched
  cases same
  have none : ∀ route ∈ Http.routes, route.endpoint? "OPTIONS" = none := by decide
  rw [none found member] at chosen
  cases chosen

private theorem serve_guarded {found : Http.Route} {captured : List (List Char)}
    {endpoint : Http.Endpoint} {response : Http.Response} (freshId : String)
    (reached : (Http.segments request.path).bind Http.findRoute = some (found, captured))
    (chosen : found.endpoint? request.method = some endpoint)
    (guarded : endpoint.guarded = some required)
    (refused : Http.check (app.keyring.verify world.now.seconds) required
      (request.asciiHeader? "authorization") = .error response) :
    (app.serve freshId request world).1.status = response.status ∧
      (app.serve freshId request world).1.body =
        (if request.method = "HEAD" then .empty else response.body) ∧
      (app.serve freshId request world).2 = world := by
  obtain ⟨segments, -, located⟩ := Option.bind_eq_some_iff.mp reached
  have asks := endpoint_method located chosen
  have ran : (Http.route app.settings request).run app.interpreter world =
      (.value response, world) := by
    rw [Http.route_eq app.settings reached chosen]
    exact run_guarded guarded captured refused
  unfold Application.serve Http.serve
  rw [if_neg asks, ran]
  exact ⟨Http.headOnly_status _ _, Http.headOnly_body _ _, rfl⟩

end Application

/-- The answers to two requests that are turned away, with nothing changed for either. -/
structure RefusedAlike (app : Application) (freshId freshId' : String)
    (request request' : Http.Request) (world world' : World) (status status' : Nat) : Prop where
  refused : (app.serve freshId request world).1.status = status
  refused' : (app.serve freshId' request' world').1.status = status'
  /-- One header is refused for one reason, as long as the tokens that are valid stay the same. -/
  reason : (∀ token,
    app.keyring.verify world'.now.seconds token = app.keyring.verify world.now.seconds token) →
    status' = status
  body : status' = status →
    (app.serve freshId' request' world').1.body = (app.serve freshId request world).1.body
  unchanged : (app.serve freshId request world).2 = world
  unchanged' : (app.serve freshId' request' world').2 = world'

/-- Two requests to one guarded endpoint with the same authorization header, each of them turned
away: whatever else they bring and whatever is stored, they are answered alike. -/
theorem refusals_alike (app : Application) (freshId freshId' : String)
    {request request' : Http.Request} {world world' : World} {found : Http.Route}
    {captured captured' : List (List Char)} {endpoint : Http.Endpoint}
    {required : Option Role} {status status' : Nat}
    (reached : (Http.segments request.path).bind Http.findRoute = some (found, captured))
    (reached' : (Http.segments request'.path).bind Http.findRoute = some (found, captured'))
    (method : request'.method = request.method)
    (chosen : found.endpoint? request.method = some endpoint)
    (guarded : endpoint.guarded = some required)
    (header : request'.header? "authorization" = request.header? "authorization")
    (away : app.TurnsAway required request world status)
    (away' : app.TurnsAway required request' world' status') :
    RefusedAlike app freshId freshId' request request' world world' status status' := by
  obtain ⟨response, refused, rfl⟩ := away.checked
  obtain ⟨response', refused', rfl⟩ := away'.checked
  have chosen' : found.endpoint? request'.method = some endpoint := by rw [method, chosen]
  have ascii : request'.asciiHeader? "authorization" = request.asciiHeader? "authorization" := by
    unfold Http.Request.asciiHeader?
    rw [header]
  obtain ⟨first, body, unchanged⟩ :=
    Application.serve_guarded freshId reached chosen guarded refused
  obtain ⟨first', body', unchanged'⟩ :=
    Application.serve_guarded freshId' reached' chosen' guarded refused'
  rw [ascii] at refused'
  constructor
  · exact first
  · exact first'
  · intro tokens
    rw [funext tokens, refused] at refused'
    cases refused'
    rfl
  · intro same
    have equal := Http.check_alike refused' refused same
    rw [body, body', equal, method]
  · exact unchanged
  · exact unchanged'

def oneEvent : World :=
  { World.start ⟨1700000000, 0⟩ with
    memory := { Store.Memory.empty with
      events := [⟨.ofNat 1, "Disk full", .incident, .investigating, some .major, "", none, none,
        none, none, false, none, .ofNat 9, [], ⟨1, 0⟩, ⟨1, 0⟩⟩] } }

def intruding (path query body : String) : Http.Request :=
  ⟨"DELETE", path.toList, query.toList, [("authorization", "Bearer nonsense")], Text.utf8 body⟩

def eventRoute : Http.Route :=
  ⟨Http.apiPath [.fixed "events", .any],
    [("GET", .operator .showEvent), ("DELETE", .admin .deleteEvent)]⟩

def oneKey : Application :=
  ⟨.ofMinutes "key" "secret" [] 15, ⟨8, 1, 1⟩, ⟨⟨7, ""⟩, false⟩, ⟨[]⟩⟩

theorem intruders_refused_alike :
    ((oneEvent.memory.findEvent (.ofNat 1)).isSome ∧
      ((World.start ⟨5, 0⟩).memory.findEvent (.ofNat 1)).isNone) ∧
      RefusedAlike oneKey "first" "second"
        (intruding "/api/v1/events/00000000-0000-0000-0000-000000000001" "" "")
        (intruding "/api/v1/events/%zz" "limit=ten" "no JSON") oneEvent
        (World.start ⟨5, 0⟩) 401 401 := by
  have stored : (oneEvent.memory.findEvent (.ofNat 1)).isSome ∧
      ((World.start ⟨5, 0⟩).memory.findEvent (.ofNat 1)).isNone := by decide +kernel
  have reached :
      (Http.segments "/api/v1/events/00000000-0000-0000-0000-000000000001".toList).bind
        Http.findRoute =
      some (eventRoute, ["00000000-0000-0000-0000-000000000001".toList]) := by decide +kernel
  have reached' : (Http.segments "/api/v1/events/%zz".toList).bind Http.findRoute =
      some (eventRoute, ["%zz".toList]) := by decide +kernel
  have chosen : eventRoute.endpoint? "DELETE" = some (.admin .deleteEvent) := by decide
  have header : ∀ path query body,
      (intruding path query body).header? "authorization" = some "Bearer nonsense" :=
    fun _ _ _ => rfl
  have present : ∀ path query body,
      (intruding path query body).asciiHeader? "authorization" = some "Bearer nonsense" := by
    intro path query body
    rw [Http.Request.asciiHeader?, header]
    decide +kernel
  have bearer : Http.bearerToken "Bearer nonsense" = some "nonsense" := by decide +kernel
  have refused : oneKey.keyring.verify oneEvent.now.seconds "nonsense" = .error .invalidToken := by
    decide +kernel
  have refused' : oneKey.keyring.verify (World.start ⟨5, 0⟩).now.seconds "nonsense" =
      .error .invalidToken := by
    decide +kernel
  exact ⟨stored, refusals_alike oneKey "first" "second" reached reached' rfl chosen rfl
    ((header _ _ _).trans (header _ _ _).symm)
    (.unverified (present _ _ _) bearer refused) (.unverified (present _ _ _) bearer refused')⟩

end StatusPage
