import StatusPage.Proofs.Refusals

/-!
The router as a service, and what its programs are made of. A request is refused as soon as
something about it cannot be read; otherwise one program of the services is run, behind a check of
the caller where there is one, and its result is shown. What holds of these parts holds of the
programs for all requests.
-/

set_option autoImplicit false

namespace StatusPage

open Store (Memory)

namespace Http

/-! ### Requests as they come in -/

/-- A request with the identifier that it gets unless it brings one. -/
structure Incoming where
  request : Request
  freshId : String

def finish (cors : Cors) (incoming : Incoming) (response : Response) : Response :=
  headOnly incoming.request (response.withHeaders (cors.headers incoming.request ++
    [("x-request-id", (incoming.request.header? "x-request-id").getD incoming.freshId)]))

theorem finish_status (cors : Cors) (incoming : Incoming) (response : Response) :
    (finish cors incoming response).status = response.status :=
  headOnly_status _ _

theorem finish_body (cors : Cors) (incoming : Incoming) (response : Response) :
    (finish cors incoming response).body = if incoming.request.method = "HEAD" then .empty
      else response.body :=
  headOnly_body _ _

/-- The program for a request. A browser that asks first is answered at once. -/
def program (settings : Settings) (cors : Cors) (incoming : Incoming) : Program Response :=
  if incoming.request.method = "OPTIONS" then
    .done ((cors.preflight incoming.request).withHeaders (allowHeader incoming.request))
  else (route settings incoming.request).bind fun response => .done (finish cors incoming response)

def responseOf (cors : Cors) (incoming : Incoming) : Reply Response → Response
  | .value response => response
  | reply => finish cors incoming (ofReply reply)

theorem serve_eq {σ : Type} (interpreter : Interpreter σ) (settings : Settings) (cors : Cors)
    (incoming : Incoming) (state : σ) :
    serve interpreter settings cors incoming.freshId incoming.request state =
      (responseOf cors incoming ((program settings cors incoming).run interpreter state).1,
        ((program settings cors incoming).run interpreter state).2) := by
  unfold serve program
  by_cases preflight : incoming.request.method = "OPTIONS"
  · rw [if_pos preflight, if_pos preflight]
    rfl
  · rw [if_neg preflight, if_neg preflight, Program.run_bind]
    rcases (route settings incoming.request).run interpreter state
      with ⟨_ | _ | _, state'⟩ <;> rfl

/-- The response to a request of which a program is left, once there is one. -/
def responseOf? (cors : Cors) (incoming : Incoming) : Program Response → Option Response
  | .done response => some response
  | .ask (.abort reason) _ => some (responseOf cors incoming (.aborted reason))
  | .ask _ _ => none

end Http

def router (settings : Http.Settings) (cors : Http.Cors) : Service :=
  ⟨Http.Incoming, fun _ => Http.Response, Http.program settings cors⟩

def Run.response? {settings : Http.Settings} {cors : Http.Cors} (run : Run (router settings cors))
    (n : Nat) :
    Option Http.Response :=
  run.tasks[n]?.bind fun task => Http.responseOf? cors task.request task.rest

theorem Http.ended_of_response {cors : Http.Cors} {incoming : Http.Incoming}
    {rest : Program Http.Response} {response : Http.Response}
    (ended : Http.responseOf? cors incoming rest = some response) :
    rest = .done response ∨ ∃ reason next, rest = .ask (.abort reason) next := by
  cases rest with
  | done value =>
      cases ended
      exact .inl rfl
  | ask op next =>
      cases op with
      | abort reason => exact .inr ⟨reason, next, rfl⟩
      | _ => cases ended

theorem response_path {settings : Http.Settings} {cors : Http.Cors} {memory : Memory}
    {moves : List (Move (router settings cors))} {n : Nat} {response : Http.Response}
    (answered : (Run.after memory moves).response? n = some response) :
    ∃ incoming rest, (Run.after memory moves).tasks[n]? = some ⟨incoming, rest⟩ ∧
      Http.responseOf? cors incoming rest = some response ∧
      Program.Path (Http.program settings cors incoming)
        ((Run.after memory moves).view n) rest := by
  obtain ⟨⟨incoming, rest⟩, found, response⟩ := Option.bind_eq_some_iff.mp answered
  exact ⟨incoming, rest, found, response, Run.view_path memory moves n _ found⟩

/-! ### Refusals -/

namespace Http

def Endpoint.record? : Endpoint → Option (Sigma Json.Fields)
  | .everybody .register => some ⟨_, Registration.fields⟩
  | .everybody .login => some ⟨_, Credentials.fields⟩
  | .everybody .refresh | .everybody .logout => some ⟨_, PresentedToken.fields⟩
  | .member .subscribe => some ⟨_, ServiceChoice.fields⟩
  | .operator .createEvent => some ⟨_, EventDraft.fields⟩
  | .operator .addUpdate => some ⟨_, UpdateDraft.fields⟩
  | .admin .createTemplate => some ⟨_, TemplateDraft.fields⟩
  | .admin .updateTemplate => some ⟨_, TemplateEdit.fields⟩
  | .admin .preview => some ⟨_, TemplateData.fields⟩
  | _ => none

def Endpoint.identified : List Endpoint :=
  [.operator .showEvent, .operator .listUpdates, .operator .addUpdate, .admin .deleteEvent]

def Endpoint.keyed : List Endpoint :=
  [.admin .showTemplate, .admin .updateTemplate, .admin .deleteTemplate, .admin .preview]

def Request.RoutedTo (request : Request) (captured : List (List Char))
    (endpoint : Endpoint) : Prop :=
  ∃ found : Route, (segments request.path).bind findRoute = some (found, captured) ∧
    found.endpoint? request.method = some endpoint

/-- What an endpoint answers to a request of which it cannot read the
body, the path or the query. -/
inductive Unread (request : Request) (captured : List (List Char)) : Endpoint → Response → Prop
  | body {endpoint : Endpoint} {α : Type} {fields : Json.Fields α} {response : Response}
      (record : endpoint.record? = some ⟨α, fields⟩)
      (unread : readRecord fields request = .error response) :
      Unread request captured endpoint response
  | identifier {endpoint : Endpoint} {response : Response}
      (member : endpoint ∈ Endpoint.identified) (unread : pathId captured = .error response) :
      Unread request captured endpoint response
  | key {endpoint : Endpoint} {response : Response} (member : endpoint ∈ Endpoint.keyed)
      (unread : pathText captured = .error response) : Unread request captured endpoint response
  | query {response : Response} (unread : readQuery request = .error response) :
      Unread request captured (.operator .listEvents) response

section Plain

variable {request : Request} {captured : List (List Char)} {response : Response}

def Response.IsPlain (response : Response) : Prop := ∃ status text, response = .plain status text

private theorem readRecord_plain {α : Type} {fields : Json.Fields α}
    (unread : readRecord fields request = .error response) :
    response.IsPlain := by
  unfold readRecord readBody at unread
  split at unread
  · cases unread
    exact ⟨_, _, rfl⟩
  · split at unread
    · cases unread
      exact ⟨_, _, rfl⟩
    · split at unread
      · cases unread
      · cases unread
        exact ⟨_, _, rfl⟩
      · cases unread
        exact ⟨_, _, rfl⟩

private theorem pathText_plain (unread : pathText captured = .error response) :
    response.IsPlain := by
  unfold pathText at unread
  split at unread
  · cases unread
  · cases unread
    exact ⟨_, _, rfl⟩

private theorem pathId_plain (unread : pathId captured = .error response) : response.IsPlain := by
  unfold pathId at unread
  cases text : pathText captured with
  | error other =>
      rw [text] at unread
      cases unread
      exact pathText_plain text
  | ok written =>
      rw [text] at unread
      dsimp only [bind, Except.bind] at unread
      split at unread
      · cases unread
      · cases unread
        exact ⟨_, _, rfl⟩

private theorem readQuery_plain (unread : readQuery request = .error response) :
    response.IsPlain := by
  unfold readQuery at unread
  split at unread
  · cases unread
  · cases unread
    exact ⟨_, _, rfl⟩

theorem Unread.plain {endpoint : Endpoint} (unread : Unread request captured endpoint response) :
    response.IsPlain := by
  cases unread with
  | body _ unread => exact readRecord_plain unread
  | identifier _ unread => exact pathId_plain unread
  | key _ unread => exact pathText_plain unread
  | query unread => exact readQuery_plain unread

end Plain

inductive Refusal (request : Request) : Response → Prop
  | unread {captured : List (List Char)} {endpoint : Endpoint} {response : Response}
      (routed : request.RoutedTo captured endpoint)
      (unread : Unread request captured endpoint response) :
      Refusal request response
  | failure (failure : Failure) : Refusal request failure.response
  | noRoute (unknown : (segments request.path).bind findRoute = none) :
      Refusal request (.noBody 404)
  | noMethod {found : Route} {captured : List (List Char)}
      (reached : (segments request.path).bind findRoute = some (found, captured))
      (unknown : found.endpoint? request.method = none) (allowed : String) :
      Refusal request ((Response.noBody 405).withHeaders [("allow", allowed)])

def RefusesBad {α : Type} (request : Request) (read : Except Response α) : Prop :=
  ∀ response, read = .error response → Refusal request response

namespace RefusesBad

variable {α β : Type} {request : Request} {captured : List (List Char)} {endpoint : Endpoint}

theorem ok (a : α) : RefusesBad request (.ok a) := nofun

theorem bind {read : Except Response α} {next : α → Except Response β}
    (first : RefusesBad request read) (later : ∀ a, RefusesBad request (next a)) :
    RefusesBad request (read >>= next) := by
  intro response refused
  cases result : read with
  | error other =>
      rw [result] at refused
      cases refused
      exact first response result
  | ok a =>
      rw [result] at refused
      exact later a response refused

theorem readRecord (routed : request.RoutedTo captured endpoint) {fields : Json.Fields α}
    (record : endpoint.record? = some ⟨α, fields⟩) :
    RefusesBad request (readRecord fields request) :=
  fun _ unread => .unread routed (.body record unread)

theorem checked (problems : List Problem) : RefusesBad request (checked problems) := by
  intro response refused
  unfold Http.checked at refused
  cases report : Problem.check problems with
  | error text =>
      rw [report] at refused
      cases refused
      exact .failure _
  | ok _ =>
      rw [report] at refused
      cases refused

theorem pathText (routed : request.RoutedTo captured endpoint)
    (member : endpoint ∈ Endpoint.keyed) :
    RefusesBad request (pathText captured) :=
  fun _ unread => .unread routed (.key member unread)

theorem pathId (routed : request.RoutedTo captured endpoint)
    (member : endpoint ∈ Endpoint.identified) :
    RefusesBad request (pathId captured) :=
  fun _ unread => .unread routed (.identifier member unread)

theorem templateId (key : String) : RefusesBad request (templateId key) := by
  intro response refused
  unfold Http.templateId at refused
  split at refused
  · cases refused
  · cases refused
    exact .failure _

theorem readQuery (routed : request.RoutedTo captured (.operator .listEvents)) :
    RefusesBad request (readQuery request) :=
  fun _ unread => .unread routed (.query unread)

end RefusesBad

end Http

/-! ### What is shown of a result -/

namespace Json

def at? : List String → Json → Option Json
  | [], value => some value
  | key :: path, .record members => (members.lookup (some key)).bind (at? path)
  | _, _ => none

end Json

/-- The access tokens that are handed out in a body: that of a token pair, alone
or in the answer to a login. -/
def Http.Body.accessTokens : Http.Body → List String
  | .json value =>
    [["data", "access_token"], ["data", "tokens", "access_token"]].filterMap fun path =>
      match value.at? path with
      | some (.text text) => text
      | _ => none
  | _ => []

theorem Http.nobody_tokenless (header : Option String) :
    (Http.nobody header).body.accessTokens = [] := by
  unfold Http.nobody
  split
  · rfl
  · split <;> rfl

theorem Http.Refusal.tokenless {request : Http.Request} {response : Http.Response}
    (refusal : Http.Refusal request response) : response.body.accessTokens = [] := by
  cases refusal with
  | unread _ unread =>
      obtain ⟨status, text, rfl⟩ := unread.plain
      rfl
  | _ => rfl

def EventRequest.outcome : (work : EventRequest) → work.Result → Except EventError Unit
  | .create _ _, result => Except.map (fun _ => ()) result
  | .get _, result => Except.map (fun _ => ()) result
  | .list _, result => Except.map (fun _ => ()) result
  | .recent _, result => Except.map (fun _ => ()) result
  | .addUpdate _ _ _, result => Except.map (fun _ => ()) result
  | .listUpdates _, result => Except.map (fun _ => ()) result
  | .delete _, result => Except.map (fun _ => ()) result
  | .createTemplate _, result => Except.map (fun _ => ()) result
  | .getTemplate _, result => Except.map (fun _ => ()) result
  | .listTemplates, result => Except.map (fun _ => ()) result
  | .updateTemplate _ _, result => Except.map (fun _ => ()) result
  | .deleteTemplate _, result => Except.map (fun _ => ()) result
  | .preview _ _, result => Except.map (fun _ => ()) result

namespace Http

structure Shows (work : EventRequest) (write : work.Result → Response) : Prop where
  accepted : ∀ result, work.outcome result = .ok () → (write result).status < 400
  failed : ∀ result e, work.outcome result = .error e →
    write result = (Failure.event e).response
  tokenless : ∀ result, (write result).body.accessTokens = []

/-- The programs behind the endpoints: what holds of each of them holds of the program for a
request. `behind` is what is needed of a program that only operators or admins reach. -/
structure RouteProperty (settings : Settings) (request : Request)
    (holds behind : Program Response → Prop) :
    Prop where
  refused : ∀ response, Refusal request response → holds (.done response)
  refusedBehind : ∀ response, Refusal request response → behind (.done response)
  member : ∀ next : Identity → Program Response, (∀ caller, holds (next caller)) →
    holds (authorize none request >>= fun
      | .error response => return response
      | .ok caller => next caller)
  guarded : ∀ role : Role, Role.operator.rank ≤ role.rank →
    ∀ next : Identity → Program Response,
    (∀ caller, behind (next caller)) → holds (authorize (some role) request >>= fun
      | .error response => return response
      | .ok caller => next caller)
  health : holds (.done health)
  readiness : segments request.path = some ["ready".toList] →
    holds (PublicEndpoint.readiness.serve settings request)
  register : ∀ registration, holds ((Auth.register registration).bind fun result =>
    .done (respondAuth (fun user => .data 201 user.profile.toJson) result))
  login : ∀ credentials : Credentials, holds
    ((Auth.login settings.auth credentials.email credentials.password).bind fun result =>
      .done (respondAuth (fun login => .data 200 (loginJson login)) result))
  refresh : ∀ presented : PresentedToken, request.Posts "refresh" →
    readRecord PresentedToken.fields request = .ok presented →
      holds ((Auth.refresh settings.auth presented.token).bind fun result =>
        .done (respondAuth (fun tokens => .data 200 tokens.toJson) result))
  logout : ∀ presented : PresentedToken,
    holds ((Auth.logout presented.token).bind fun result => .done (respondAuth done result))
  logoutAll : ∀ userId,
    holds ((Auth.logoutAll userId).bind fun result => .done (respondAuth done result))
  me : ∀ userId, holds ((Auth.getUser userId).bind fun result =>
    .done (respondAuth (fun user => .data 200 user.profile.toJson) result))
  showSubscription : ∀ userId, holds ((Subscriptions.get userId).bind fun result =>
    .done (respondCore (fun s => .data 200 s.toJson) result))
  subscribe : ∀ userId choice, holds ((Subscriptions.subscribe userId choice).bind fun result =>
    .done (respondCore (fun s => .data 200 s.toJson) result))
  unsubscribe : ∀ userId, holds ((Subscriptions.unsubscribe userId).bind fun result =>
    .done (respondCore done result))
  recent : ∀ limit, holds ((Events.recent limit).bind fun result => .done (showEvents result))
  work : ∀ (work : EventRequest) write, Shows work write →
    behind ((work.program settings.notices).bind fun result => .done (write result))

namespace RouteProperty

variable {settings : Settings} {request : Request} {holds behind : Program Response →
  Prop} {α : Type}

theorem withRead {good : Program Response → Prop} {read : Except Response α}
    {next : α → Program Response}
    (refused : ∀ response, Refusal request response → good (.done response))
    (refuses : RefusesBad request read) (each : ∀ a, read = .ok a → good (next a)) :
    good (withRead read next) := by
  cases result : read with
  | error response => exact refused response (refuses response result)
  | ok a => exact each a result

theorem shows (work : EventRequest) {write : α → Response}
    {f : work.Result → Except EventError α}
    (outcome : ∀ result, work.outcome result = (f result).map fun _ => ())
    {status : Nat} (low : status < 400) (told : ∀ a, (write a).status = status)
    (none : ∀ a, (write a).body.accessTokens = []) :
    Shows work fun result => respondEvent write (f result) where
  accepted result ok := by
    rw [outcome] at ok
    cases value : f result with
    | error e =>
        rw [value] at ok
        cases ok
    | ok a => exact (told a).symm ▸ low
  failed result e error := by
    rw [outcome] at error
    cases value : f result with
    | error other =>
        rw [value] at error
        cases error
        rfl
    | ok a =>
        rw [value] at error
        cases error
  tokenless result := by
    cases f result with
    | error e => rfl
    | ok a => exact none a

variable (property : RouteProperty settings request holds behind)

include property

theorem everybody {found : Route} {captured : List (List Char)} {endpoint : PublicEndpoint}
    (reached : (segments request.path).bind findRoute = some (found, captured))
    (chosen : found.endpoint? request.method = some (.everybody endpoint)) :
    holds (endpoint.serve settings request) := by
  have routed : request.RoutedTo captured (.everybody endpoint) := ⟨found, reached, chosen⟩
  cases endpoint with
  | health => exact property.health
  | readiness =>
      obtain ⟨-, path⟩ := path_of_endpoint "GET" ["ready"] (by decide) reached chosen
      exact property.readiness path
  | register =>
      have refuses := (RefusesBad.readRecord routed rfl).bind fun registration =>
        (RefusesBad.checked registration.problems).bind fun _ => .ok registration
      exact withRead property.refused refuses fun registration _ => property.register registration
  | login =>
      exact withRead property.refused (.readRecord routed rfl) fun credentials _ =>
        property.login credentials
  | refresh =>
      have posted : request.Posts "refresh" := posts_of_endpoint (by decide) reached chosen
      exact withRead property.refused (.readRecord routed rfl) fun presented read =>
        property.refresh presented posted read
  | logout =>
      exact withRead property.refused (.readRecord routed rfl) fun presented _ =>
        property.logout presented
  | status => exact property.recent recentLimit
  | history => exact property.recent historyLimit

private theorem signedIn {captured : List (List Char)} {endpoint : MemberEndpoint}
    (routed : request.RoutedTo captured (.member endpoint)) (caller : Identity) :
    holds (endpoint.serve caller request) := by
  cases endpoint with
  | logoutAll => exact property.logoutAll caller.userId
  | me => exact property.me caller.userId
  | showSubscription => exact property.showSubscription caller.userId
  | subscribe =>
      exact withRead property.refused (.readRecord routed rfl) fun choice _ =>
        property.subscribe caller.userId choice
  | unsubscribe => exact property.unsubscribe caller.userId

theorem operator {captured : List (List Char)} {endpoint : OperatorEndpoint}
    (routed : request.RoutedTo captured (.operator endpoint)) (caller : Identity) :
    behind (endpoint.serve settings caller captured request) := by
  cases endpoint with
  | listEvents =>
      refine withRead property.refusedBehind (.readQuery routed) fun query _ => ?_
      exact property.work (.list query) _
        (shows _ (fun _ => rfl) (by decide) (fun _ => rfl) fun _ => rfl)
  | createEvent =>
      have refuses := (RefusesBad.readRecord routed rfl).bind fun draft =>
        (RefusesBad.checked draft.problems).bind fun _ => .ok draft
      refine withRead property.refusedBehind refuses fun draft _ => ?_
      exact property.work (.create caller.userId draft) _
        (shows _ (fun _ => rfl) (by decide) (fun _ => rfl) fun _ => rfl)
  | showEvent =>
      refine withRead property.refusedBehind (.pathId routed (by decide)) fun id _ => ?_
      exact property.work (.get id) _
        (shows _ (fun _ => rfl) (by decide) (fun _ => rfl) fun _ => rfl)
  | listUpdates =>
      refine withRead property.refusedBehind (.pathId routed (by decide)) fun id _ => ?_
      exact property.work (.listUpdates id) _
        (shows _ (fun _ => rfl) (by decide) (fun _ => rfl) fun _ => rfl)
  | addUpdate =>
      have refuses := (RefusesBad.pathId routed (by decide)).bind fun id =>
        (RefusesBad.readRecord routed rfl).bind fun draft =>
          (RefusesBad.checked draft.problems).bind fun _ => .ok (id, draft)
      refine withRead property.refusedBehind refuses fun (id, draft) _ => ?_
      exact property.work (.addUpdate id caller.userId draft) _
        (shows _ (fun _ => rfl) (by decide) (fun _ => rfl) fun _ => rfl)

theorem admin {captured : List (List Char)} {endpoint : AdminEndpoint}
    (routed : request.RoutedTo captured (.admin endpoint)) :
    behind (endpoint.serve captured request) := by
  cases endpoint with
  | deleteEvent =>
      refine withRead property.refusedBehind (.pathId routed (by decide)) fun id _ => ?_
      exact property.work (.delete id) _
        (shows _ (fun _ => rfl) (by decide) (fun _ => rfl) fun _ => rfl)
  | listTemplates =>
      exact property.work .listTemplates _
        (shows _ (fun _ => rfl) (by decide) (fun _ => rfl) fun _ => rfl)
  | createTemplate =>
      have refuses := (RefusesBad.readRecord routed rfl).bind fun draft =>
        (RefusesBad.checked draft.problems).bind fun _ => .ok draft
      refine withRead property.refusedBehind refuses fun draft _ => ?_
      exact property.work (.createTemplate draft) _
        (shows _ (fun _ => rfl) (by decide) (fun _ => rfl) fun _ => rfl)
  | showTemplate =>
      refine withRead property.refusedBehind (.pathText routed (by decide)) fun slug _ => ?_
      exact property.work (.getTemplate slug) _
        (shows _ (fun _ => rfl) (by decide) (fun _ => rfl) fun _ => rfl)
  | updateTemplate =>
      have refuses := (RefusesBad.pathText routed (by decide)).bind fun key =>
        (RefusesBad.readRecord routed rfl).bind fun edit =>
          (RefusesBad.templateId key).bind fun id =>
            (RefusesBad.checked edit.problems).bind fun _ => .ok (id, edit)
      refine withRead property.refusedBehind refuses fun (id, edit) _ => ?_
      exact property.work (.updateTemplate id edit) _
        (shows _ (fun _ => rfl) (by decide) (fun _ => rfl) fun _ => rfl)
  | deleteTemplate =>
      have refuses := (RefusesBad.pathText routed (by decide)).bind fun key => .templateId key
      refine withRead property.refusedBehind refuses fun id _ => ?_
      exact property.work (.deleteTemplate id) _
        (shows _ (fun _ => rfl) (by decide) (fun _ => rfl) fun _ => rfl)
  | preview =>
      have refuses := (RefusesBad.pathText routed (by decide)).bind fun slug =>
        (RefusesBad.readRecord routed rfl).bind fun data => .ok (slug, data)
      refine withRead property.refusedBehind refuses fun (slug, data) _ => ?_
      exact property.work (.preview slug data) _
        (shows _ (fun _ => rfl) (by decide) (fun _ => rfl) fun _ => rfl)

theorem route : holds (route settings request) := by
  unfold Http.route
  split
  · rename_i unknown
    exact property.refused _ (.noRoute unknown)
  · rename_i found captured reached
    split
    · rename_i unknown
      exact property.refused _ (.noMethod reached unknown _)
    · rename_i endpoint chosen
      have routed : request.RoutedTo captured endpoint := ⟨found, reached, chosen⟩
      cases endpoint with
      | everybody endpoint => exact property.everybody reached chosen
      | member endpoint => exact property.member _ fun caller => property.signedIn routed caller
      | operator endpoint =>
          exact property.guarded .operator (by decide) _ fun caller =>
            property.operator routed caller
      | admin endpoint => exact property.guarded .admin (by decide) _ fun _ => property.admin routed

end RouteProperty

/-! ### The check of a caller as a program -/

def Bears (request : Request) (token : String) : Prop :=
  ∃ header, request.asciiHeader? "authorization" = some header ∧ bearerToken header = some token

theorem Bears.unique {request : Request} {token other : String} (bears : Bears request token)
    (bears' : Bears request other) : token = other := by
  obtain ⟨header, present, bearer⟩ := bears
  obtain ⟨header', present', bearer'⟩ := bears'
  cases present.symm.trans present'
  exact Option.some.inj (bearer.symm.trans bearer')

theorem check_of_bears {request : Request} {token : String} (bears : Bears request token)
    (required : Option Role) (verdict : Except AuthError Identity) :
    check (fun _ => verdict) required (request.asciiHeader? "authorization") =
      (verdict.mapError fun _ => unauthorized "Invalid or expired token") >>=
        admission required := by
  obtain ⟨header, present, bearer⟩ := bears
  simp only [present, check, identify, bearer]

theorem authorize_cases (required : Option Role) (request : Request) :
    (∃ response, authorize required request = .done (.error response) ∧
      response = nobody (request.asciiHeader? "authorization")) ∨
      ∃ token, Bears request token ∧
        authorize required request = .ask (.verify token) fun verdict =>
          .done (check (fun _ => verdict) required (request.asciiHeader? "authorization")) := by
  cases header : request.asciiHeader? "authorization" with
  | none =>
      left
      simp only [authorize, authenticate, header]
      exact ⟨_, rfl, rfl⟩
  | some text =>
      cases bearer : bearerToken text with
      | none =>
          left
          simp only [authorize, authenticate, header, bearer, nobody]
          exact ⟨_, rfl, rfl⟩
      | some token =>
          right
          have bears : Bears request token := ⟨text, header, bearer⟩
          refine ⟨token, bears, ?_⟩
          simp only [authorize, authenticate, header, bearer]
          refine congrArg (Program.ask (.verify token)) (funext fun verdict => ?_)
          rw [← header, check_of_bears bears]
          cases verdict with
          | error e => rfl
          | ok caller =>
              cases required with
              | none => rfl
              | some role =>
                  change (if Role.permits caller.role role then _ else _) =
                    Program.done (if Role.permits caller.role role then _ else _)
                  split <;> rfl

theorem authorize_asks (required : Option Role) (request : Request) :
    (authorize required request).Asks fun op => ∃ token, Bears request token ∧
      op = .verify token := by
  rcases authorize_cases required request with
    ⟨response, refused, -⟩ | ⟨token, bears, asking⟩
  · rw [refused]
    trivial
  · rw [asking]
    exact ⟨⟨token, bears, rfl⟩, fun _ => trivial⟩

/-- Who does not pass a check speaks for nobody, or ranks too low. -/
theorem authorize_refused {required : Option Role} {request : Request} {exchanges : List Exchange}
    {response : Response}
    (path : Program.Path (authorize required request) exchanges (.done (.error response))) :
    response = nobody (request.asciiHeader? "authorization") ∨
      ∃ role, required = some role ∧ response = outranked role := by
  rcases authorize_cases required request with ⟨refusal, refused, rfl⟩ | ⟨token, -, asking⟩
  · rw [refused] at path
    obtain ⟨-, ⟨⟩⟩ := path.of_done
    exact .inl rfl
  · rw [asking] at path
    obtain ⟨stamp, verdict, later, -, answered⟩ := path.ended
    obtain ⟨-, checked⟩ := answered.of_done
    exact check_error (Program.done.inj checked).symm

end Http

end StatusPage
