import StatusPage.Proofs.RouterPrograms

/-!
What clients see when a request fails. An error is an object with a text and one of the codes,
except where the body, the path or the query cannot be read: then the answer is a bare text. Which
of the two it is does not depend on the store or on anything else that a program asks.
-/

set_option autoImplicit false

namespace StatusPage

namespace Program

variable {α β σ : Type}

def Yields (good : α → Prop) : Program α → Prop
  | .done value => good value
  | .ask _ next => ∀ answer, (next answer).Yields good

theorem Yields.bind {good : α → Prop} {better : β → Prop} {program : Program α}
    {next : α → Program β} (first : program.Yields good)
    (later : ∀ value, good value → (next value).Yields better) :
    (program.bind next).Yields better := by
  induction program with
  | done value => exact later value first
  | ask op rest ih => exact fun answer => ih answer (first answer)

private theorem yields_anything (program : Program α) : program.Yields fun _ => True := by
  induction program with
  | done value => trivial
  | ask op rest ih => exact ih

theorem Yields.map {good : β → Prop} {f : α → β} (program : Program α)
    (each : ∀ value, good (f value)) :
    (program.bind fun value => .done (f value)).Yields good :=
  program.yields_anything.bind fun value _ => each value

theorem Yields.run {good : α → Prop} {program : Program α} (yields : program.Yields good)
    {interpreter : Interpreter σ} {state : σ} {value : α}
    (ended : (program.run interpreter state).1 = .value value) :
    good value := by
  induction program generalizing state with
  | done result =>
      cases ended
      exact yields
  | ask op next ih =>
      rcases given : interpreter.answer op state with ⟨answer | _ | _, state'⟩
      · rw [Program.run, given] at ended
        exact ih answer (yields answer) ended
      · rw [Program.run, given] at ended
        cases ended
      · rw [Program.run, given] at ended
        cases ended

end Program

namespace Http

/-- An error as it is documented, with the status that goes with its code. -/
def Response.IsUniform (response : Response) : Prop :=
  ∃ text code,
    response.body = .json (.object [("error", .str text), ("code", .str (ErrorCode.text code))]) ∧
    response.status = code.status

private theorem Failure.uniform (failure : Failure) : failure.response.IsUniform :=
  ⟨_, _, rfl, rfl⟩

private theorem nobody_uniform (header : Option String) : (nobody header).IsUniform := by
  unfold nobody
  split
  · exact Failure.uniform _
  · split <;> exact Failure.uniform _

section Api

variable {settings : Settings} {request : Request} {captured : List (List Char)}
  {endpoint : Endpoint}

/-- What is answered: no error, an error as it is documented, or a text about
something that cannot be read. -/
def Response.Explained (request : Request) (captured : List (List Char)) (endpoint : Endpoint)
    (response : Response) : Prop :=
  response.status < 400 ∨ response.IsUniform ∨ Unread request captured endpoint response

def Explains (request : Request) (captured : List (List Char)) (endpoint : Endpoint)
    (program : Program Response) :
    Prop :=
  program.Yields (Response.Explained request captured endpoint)

private theorem respond_explained {ε α : Type} (wrap : ε → Failure) {write : α → Response}
    (low : ∀ a, (write a).status < 400) (result : Except ε α) :
    (respond wrap write result).Explained request captured endpoint := by
  cases result with
  | error e => exact .inr (.inl (wrap e).uniform)
  | ok a => exact .inl (low a)

private theorem shows_explained {work : EventRequest} {write : work.Result → Response}
    (shows : Shows work write) (result : work.Result) :
    (write result).Explained request captured endpoint := by
  cases outcome : work.outcome result with
  | error e =>
      rw [shows.failed result e outcome]
      exact .inr (.inl (Failure.uniform _))
  | ok _ => exact .inl (shows.accepted result outcome)

private theorem authorize_explains {required : Option Role} {next : Identity → Program Response}
    (each : ∀ caller, Explains request captured endpoint (next caller)) :
    Explains request captured endpoint (authorize required request >>= fun
      | .error response => return response
      | .ok caller => next caller) := by
  have turnedAway : (authorize required request).Yields fun verdict =>
      ∀ response, verdict = .error response → response.IsUniform := by
    rcases authorize_cases required request
      with ⟨response, refused, rfl⟩ | ⟨token, -, asking⟩
    · rw [refused]
      rintro _ ⟨⟩
      exact nobody_uniform _
    · rw [asking]
      intro verdict response refused
      rcases check_error refused with rfl | ⟨role, -, rfl⟩
      · exact nobody_uniform _
      · exact Failure.uniform _
  refine turnedAway.bind ?_
  rintro (response | caller) uniform
  · exact .inr (.inl (uniform response rfl))
  · exact each caller

theorem Request.RoutedTo.unique {captured' : List (List Char)} {endpoint' : Endpoint}
    (routed : request.RoutedTo captured endpoint) (routed' : request.RoutedTo captured' endpoint') :
    captured' = captured ∧ endpoint' = endpoint := by
  obtain ⟨found, reached, chosen⟩ := routed
  obtain ⟨found', reached', chosen'⟩ := routed'
  obtain ⟨rfl, rfl⟩ := Prod.mk.inj (Option.some.inj (reached'.symm.trans reached))
  exact ⟨rfl, Option.some.inj (chosen'.symm.trans chosen)⟩

private theorem refusal_explained (routed : request.RoutedTo captured endpoint)
    {response : Response} (refusal : Refusal request response) :
    response.Explained request captured endpoint := by
  cases refusal with
  | unread routed' unread =>
      obtain ⟨rfl, rfl⟩ := routed.unique routed'
      exact .inr (.inr unread)
  | failure failure => exact .inr (.inl failure.uniform)
  | noRoute unknown =>
      obtain ⟨found, reached, -⟩ := routed
      cases unknown.symm.trans reached
  | noMethod reached' unknown =>
      obtain ⟨found, reached, chosen⟩ := routed
      cases reached'.symm.trans reached
      cases unknown.symm.trans chosen

private theorem routeProperty_explains (settings : Settings)
    (routed : request.RoutedTo captured endpoint)
    (other : segments request.path ≠ some ["ready".toList]) :
    RouteProperty settings request (Explains request captured endpoint)
      (Explains request captured endpoint) where
  refused _ refusal := refusal_explained routed refusal
  refusedBehind _ refusal := refusal_explained routed refusal
  member _ each := authorize_explains each
  guarded _ _ _ each := authorize_explains each
  health := .inl (by decide : 200 < 400)
  readiness path := absurd path other
  register _ := .map _ (respond_explained .auth fun _ => (by decide : 201 < 400))
  login _ := .map _ (respond_explained .auth fun _ => (by decide : 200 < 400))
  refresh _ _ _ := .map _ (respond_explained .auth fun _ => (by decide : 200 < 400))
  logout _ := .map _ (respond_explained .auth fun _ => (by decide : 204 < 400))
  logoutAll _ := .map _ (respond_explained .auth fun _ => (by decide : 204 < 400))
  me _ := .map _ (respond_explained .auth fun _ => (by decide : 200 < 400))
  showSubscription _ := .map _ (respond_explained .core fun _ => (by decide : 200 < 400))
  subscribe _ _ := .map _ (respond_explained .core fun _ => (by decide : 200 < 400))
  unsubscribe _ := .map _ (respond_explained .core fun _ => (by decide : 204 < 400))
  recent _ := .map _ (respond_explained .event fun _ => (by decide : 200 < 400))
  work _ _ shows := .map _ (shows_explained shows)

private theorem not_readiness {found : Route} {parts : List PathPart}
    (reached : (segments request.path).bind findRoute = some (found, captured))
    (api : found.parts = apiPath parts) :
    segments request.path ≠ some ["ready".toList] := by
  intro ready
  have readiness :
      findRoute ["ready".toList] =
        some (⟨[.fixed "ready"], [("GET", .everybody .readiness)]⟩, []) := by
    decide
  rw [ready] at reached
  cases readiness.symm.trans reached
  exact absurd (congrArg List.head? api)
    (by decide : ¬some (PathPart.fixed "ready") = some (.fixed "api"))

end Api

/-- Every request that reaches an endpoint below `/api/v1` and is answered with an error gets an
object with a text and one of the codes, or only the head of it if it asked for no more; unless the
endpoint cannot read the body, the path or the query of the request, which is answered with a bare
text. -/
theorem api_errors_shaped {σ : Type} (interpreter : Interpreter σ) (settings : Settings)
    (cors : Cors) (incoming : Incoming) (state : σ) {found : Route} {captured : List (List Char)}
    {endpoint : Endpoint} {parts : List PathPart} {response : Response}
    (reached : (segments incoming.request.path).bind findRoute = some (found, captured))
    (api : found.parts = apiPath parts)
    (chosen : found.endpoint? incoming.request.method = some endpoint)
    (answered : ((route settings incoming.request).run interpreter state).1 = .value response)
    (failed : 400 ≤
      (serve interpreter settings cors incoming.freshId incoming.request state).1.status) :
    let sent := (serve interpreter settings cors incoming.freshId incoming.request state).1
    sent.status = response.status ∧
      sent.body = (if incoming.request.method = "HEAD" then .empty else response.body) ∧
      (response.IsUniform ∨ Unread incoming.request captured endpoint response ∧
        response.IsPlain) := by
  intro sent
  -- The head of a response is cut off after the program has ended, so the programs
  -- are about whole responses.
  have explained :=
    (routeProperty_explains settings ⟨found, reached, chosen⟩
      (not_readiness reached api)).route.run answered
  have shown : sent = finish cors incoming response := by
    obtain ⟨segments, -, located⟩ := Option.bind_eq_some_iff.mp reached
    have asks := Application.endpoint_method located chosen
    rcases run : (route settings incoming.request).run interpreter state with ⟨reply, state'⟩
    rw [run] at answered
    cases answered
    unfold sent serve
    rw [if_neg asks, run]
    rfl
  have status : sent.status = response.status := by rw [shown, finish_status]
  refine ⟨status, by rw [shown, finish_body], ?_⟩
  rcases explained with low | uniform | unread
  · exact absurd (status ▸ failed) (Nat.not_le.mpr low)
  · exact .inl uniform
  · exact .inr ⟨unread, unread.plain⟩

/-- A question for one's own account by nobody is refused with an error as it is documented. -/
theorem anonymous_error_shaped :
    let sent :=
      (oneKey.serve "first" ⟨"GET", "/api/v1/me".toList, [], [], []⟩ (World.start ⟨5, 0⟩)).1
    sent.status = 401 ∧ sent.IsUniform := by
  intro sent
  let asking : Incoming := ⟨⟨"GET", "/api/v1/me".toList, [], [], []⟩, "first"⟩
  have reached : (segments asking.request.path).bind findRoute =
      some (⟨apiPath [.fixed "me"], [("GET", .member .me)]⟩, []) := by decide +kernel
  have answered :
      ((route oneKey.settings asking.request).run oneKey.interpreter (World.start ⟨5, 0⟩)).1 =
      .value (unauthorized "Missing Authorization header") := by
    rw [route_eq oneKey.settings reached rfl]
    rfl
  have status : sent.status = 401 := by decide +kernel
  obtain ⟨same, body, shape⟩ :=
    api_errors_shaped oneKey.interpreter oneKey.settings oneKey.cors asking
    (World.start ⟨5, 0⟩) reached rfl rfl answered (status ▸ (by decide : 400 ≤ 401))
  refine ⟨status, ?_⟩
  rcases shape with ⟨text, code, shaped, coded⟩ | ⟨unread, -⟩
  · exact ⟨text, code, body.trans shaped, same.trans coded⟩
  · cases unread with
    | body record => cases record
    | identifier member => exact absurd member (by decide)
    | key member => exact absurd member (by decide)

/-- A login with a body that is no JSON is answered with a bare text. -/
theorem brokenLogin_plain :
    let request : Request :=
      ⟨"POST", "/api/v1/auth/login".toList, [], [("content-type", "application/json")],
        Text.utf8 "\x7b"⟩
    let sent := (oneKey.serve "first" request (World.start ⟨5, 0⟩)).1
    (segments request.path).bind findRoute = some (authRoute "login" (.everybody .login), []) ∧
      (authRoute "login" (.everybody .login)).endpoint? request.method =
        some (.everybody .login) ∧
      sent.status = 400 ∧ sent.body = .plain "Failed to parse the request body as JSON" ∧
      (∀ text code, sent.body ≠ .json (.object [("error", text), ("code", code)])) ∧
      ¬sent.IsUniform := by
  intro request sent
  have shown : (match sent.body with | .plain text => some text | _ => none) =
      some "Failed to parse the request body as JSON" := by decide +kernel
  have plain : sent.body = .plain "Failed to parse the request body as JSON" := by
    generalize sent.body = body at shown
    cases body with
    | plain text => exact congrArg Body.plain (Option.some.inj shown)
    | _ => cases shown
  have bare (text code : Json) :
      sent.body ≠ .json (.object [("error", text), ("code", code)]) := by
    rw [plain]
    nofun
  refine ⟨by decide +kernel, by decide, by decide +kernel, plain, bare, ?_⟩
  rintro ⟨text, code, body, -⟩
  exact bare _ _ body

end Http

end StatusPage
