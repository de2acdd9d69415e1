import StatusPage.Proofs.RouterPrograms

/-!
What clients learn of a failing store. As soon as a call fails in the store's backend, the program
for a request ends with a response that is fixed beforehand. So the text of the failure is in no
response, and two stores that differ in such texts alone cannot be told apart.
-/

set_option autoImplicit false

namespace StatusPage

variable {σ τ : Type}

/-! ### Runs against two stores -/

/-- Two answers to a question are the same, but for the text of a failure in the backend. -/
inductive AnswersAlike : (op : Op) → Reply op.Answer → Reply op.Answer → Prop
  | same (op : Op) (reply : Reply op.Answer) : AnswersAlike op reply reply
  | backend (call : Store.Call) (text text' : String) :
      AnswersAlike (.store call) (.value (.error (.backend text)))
        (.value (.error (.backend text')))

/-- From related states on, two interpreters answer everything alike. -/
def Interpreter.Alike (first : Interpreter σ) (second : Interpreter τ)
    (related : σ → τ → Prop) : Prop :=
  ∀ op state state', related state state' →
    AnswersAlike op (first.answer op state).1 (second.answer op state').1 ∧
      related (first.answer op state).2 (second.answer op state').2

namespace Program

variable {α β : Type}

def dialogue (interpreter : Interpreter σ) : Program α → σ → List ((op : Op) × op.Answer)
  | .done _, _ => []
  | .ask op next, state =>
      match interpreter.answer op state with
      | (.value answer, state) => ⟨op, answer⟩ :: (next answer).dialogue interpreter state
      | _ => []

/-- A failure in the backend ends the program, and with a value that hides it. -/
def Hides (hidden : α → Prop) : Program α → Prop
  | .done _ => True
  | .ask (.store _) next =>
      (∀ text, ∃ value, next (.error (.backend text)) = .done value ∧ hidden value) ∧
        ∀ answer, (next answer).Hides hidden
  | .ask _ next => ∀ answer, (next answer).Hides hidden

theorem Hides.next {hidden : α → Prop} {op : Op} {rest : op.Answer → Program α}
    (hides : (ask op rest).Hides hidden) (answer : op.Answer) : (rest answer).Hides hidden := by
  cases op with
  | store call => exact hides.2 answer
  | _ => exact hides answer

theorem Hides.bind {hidden : α → Prop} {hidden' : β → Prop} {program : Program α}
    {next : α → Program β} (hides : program.Hides hidden)
    (ends : ∀ value, hidden value → ∃ value', next value = .done value' ∧ hidden' value')
    (later : ∀ value, (next value).Hides hidden') : (program.bind next).Hides hidden' := by
  induction program with
  | done value => exact later value
  | ask op rest ih =>
      cases op with
      | store call =>
          refine ⟨fun text => ?_, fun answer => ih answer (hides.2 answer)⟩
          obtain ⟨value, ended, kept⟩ := hides.1 text
          obtain ⟨value', ended', kept'⟩ := ends value kept
          exact ⟨value', (congrArg (Program.bind · next) ended).trans ended', kept'⟩
      | _ => exact fun answer => ih answer (hides answer)

theorem Hides.map {hidden : β → Prop} {program : Program α} {f : α → β}
    (hides : program.Hides fun value => hidden (f value)) :
    (program.bind fun value => .done (f value)).Hides hidden :=
  hides.bind (fun value kept => ⟨f value, rfl, kept⟩) fun _ => trivial

theorem Hides.call {hidden : β → Prop} {call : Store.Call}
    {f : Except StoreError call.Result → β}
    (masks : ∀ text, hidden (f (.error (.backend text)))) :
    (ask (.store call) fun answer => .done (f answer)).Hides hidden :=
  ⟨fun text => ⟨_, rfl, masks text⟩, fun _ => trivial⟩

theorem Hides.of_asks {hidden : α → Prop} {program : Program α}
    (asks : program.Asks fun op => ∀ call, op ≠ .store call) : program.Hides hidden := by
  induction program with
  | done value => trivial
  | ask op next ih =>
      cases op with
      | store call => exact absurd rfl (asks.1 call)
      | _ => exact fun answer => ih answer (asks.2 answer)

/-- A program that ends with one and the same value on every failure comes to
the same against both stores. -/
theorem Hides.run_alike {program : Program α} {value : α} (hides : program.Hides (· = value))
    {first : Interpreter σ} {second : Interpreter τ} {related : σ → τ → Prop}
    (alike : first.Alike second related) {state : σ} {state' : τ} (start : related state state') :
    (program.run first state).1 = (program.run second state').1 := by
  induction program generalizing state state' with
  | done value => rfl
  | ask op next ih =>
      obtain ⟨answers, later⟩ := alike op state state' start
      rw [run, run]
      rcases asked : first.answer op state with ⟨reply, after⟩
      rcases asked' : second.answer op state' with ⟨reply', after'⟩
      rw [asked, asked'] at answers later
      cases answers with
      | same =>
          cases reply with
          | value answer => exact ih answer (hides.next answer) later
          | never => rfl
          | aborted reason => rfl
      | backend call text text' =>
          obtain ⟨_, ended, rfl⟩ := hides.1 text
          obtain ⟨_, ended', rfl⟩ := hides.1 text'
          simp only [ended, ended', run]

theorem Hides.run_failed {program : Program α} {value : α} (hides : program.Hides (· = value))
    {interpreter : Interpreter σ} {state : σ} {call : Store.Call} {text : String}
    (failed : ⟨.store call, .error (.backend text)⟩ ∈ program.dialogue interpreter state) :
    (program.run interpreter state).1 = .value value := by
  induction program generalizing state with
  | done value => cases failed
  | ask op next ih =>
      rw [dialogue] at failed
      rw [run]
      rcases asked : interpreter.answer op state with ⟨reply, after⟩
      rw [asked] at failed
      cases reply with
      | never => cases failed
      | aborted reason => cases failed
      | value answer =>
          rcases List.mem_cons.mp failed with now | later
          · cases now
            obtain ⟨_, ended, rfl⟩ := hides.1 text
            simp only [ended, run]
          · exact ih answer (hides.next answer) later

end Program

/-! ### The services -/

section Services

private theorem notify_hides {hidden : Unit → Prop} (notices : Bool) (event : Event)
    (subject body : String) :
    (Events.notify notices event subject body).Hides hidden := by
  unfold Events.notify
  split
  · exact fun _ => trivial
  · trivial

private theorem call_first_hides {β : Type} {hidden : Except EventError β → Prop}
    (masks : ∀ text, hidden (.error (.internal text))) {call : Store.Call}
    {describe : StoreError → EventError}
    (internal : ∀ text, ∃ context, describe (.backend text) = .internal context)
    {next : Except EventError call.Result → Program (Except EventError β)}
    (ends : ∀ e, next (.error e) = .done (.error e))
    (later : ∀ value, (next (.ok value)).Hides hidden) :
    ((Events.calling call describe).bind next).Hides hidden := by
  have called : (Events.calling call describe).Hides fun result =>
      ∃ text, result = .error (.internal text) :=
    .call fun text => (internal text).imp fun context same => congrArg Except.error same
  refine called.bind ?_ ?_
  · rintro _ ⟨text, rfl⟩
    exact ⟨_, ends _, masks text⟩
  · rintro (e | value)
    · rw [ends]
      trivial
    · exact later value

private theorem create_hides {hidden : Except EventError Event → Prop}
    (masks : ∀ text, hidden (.error (.internal text))) (notices : Bool) (createdBy : Uuid)
    (draft : EventDraft) :
    (Events.create notices createdBy draft).Hides hidden := by
  unfold Events.create
  cases classify draft.kind draft.status draft.severity with
  | error e => trivial
  | ok c =>
      dsimp -zeta only
      extract_lets new insert
      have inserting : (insert (.ok ())).Hides hidden := by
        refine call_first_hides masks (fun text => ⟨_, rfl⟩) (fun _ => rfl) fun event => ?_
        change Program.Hides hidden (if event.notify then _ else _)
        split
        · exact (notify_hides _ _ _ _).map
        · trivial
      cases draft.templateId with
      | none => exact inserting
      | some id =>
          exact call_first_hides masks (fun text => ⟨_, rfl⟩) (fun _ => rfl) fun _ => inserting

private theorem addUpdate_hides {hidden : Except EventError (Event × EventUpdate) → Prop}
    (masks : ∀ text, hidden (.error (.internal text))) (notices : Bool) (eventId createdBy : Uuid)
    (draft : UpdateDraft) : (Events.addUpdate notices eventId createdBy draft).Hides hidden := by
  unfold Events.addUpdate Events.get
  refine call_first_hides masks (fun text => ⟨_, rfl⟩) (fun _ => rfl) fun event => ?_
  cases planned : planUpdate event.kind draft.status with
  | error e => simp only [planned]; trivial
  | ok change =>
      simp only [planned]
      refine call_first_hides masks (fun text => ⟨_, rfl⟩) (fun _ => rfl) fun both => ?_
      change Program.Hides hidden (if both.2.notify then _ else _)
      split
      · exact (notify_hides _ _ _ _).map
      · trivial

private theorem list_hides {hidden : Except EventError (List Event) → Prop}
    (masks : ∀ text, hidden (.error (.internal text))) (query : EventQuery) :
    (Events.list query).Hides hidden := by
  unfold Events.list
  split
  · trivial
  · split
    · trivial
    · exact .call fun text => masks _

private theorem createTemplate_hides {hidden : Except EventError EventTemplate → Prop}
    (masks : ∀ text, hidden (.error (.internal text))) (draft : TemplateDraft) :
    (Events.createTemplate draft).Hides hidden := by
  unfold Events.createTemplate
  split
  · trivial
  · exact .call fun text => masks _

private theorem updateTemplate_hides {hidden : Except EventError EventTemplate → Prop}
    (masks : ∀ text, hidden (.error (.internal text))) (id : Uuid) (edit : TemplateEdit) :
    (Events.updateTemplate id edit).Hides hidden := by
  unfold Events.updateTemplate
  split
  · trivial
  · exact .call fun text => masks _

private theorem work_hides {work : EventRequest} {hidden : work.Result → Prop} (notices : Bool)
    (masks : ∀ result text, work.outcome result = .error (.internal text) → hidden result) :
    (work.program notices).Hides hidden := by
  cases work with
  | create createdBy draft =>
    exact create_hides (fun text => masks _ text rfl) notices createdBy draft
  | addUpdate eventId createdBy draft =>
      exact addUpdate_hides (fun text => masks _ text rfl) notices eventId createdBy draft
  | list query => exact list_hides (fun text => masks _ text rfl) query
  | recent limit =>
    exact list_hides (fun text => masks _ text rfl) ⟨none, none, some limit, none⟩
  | get | delete | getTemplate | listTemplates | deleteTemplate =>
    exact .call fun text => masks _ _ rfl
  | listUpdates eventId =>
      exact call_first_hides (fun text => masks _ text rfl) (fun text =>
        ⟨_, rfl⟩) (fun _ => rfl) fun _ =>
        .call fun text => masks _ _ rfl
  | createTemplate draft => exact createTemplate_hides (fun text => masks _ text rfl) draft
  | updateTemplate id edit => exact updateTemplate_hides (fun text => masks _ text rfl) id edit
  | preview slug data =>
      exact call_first_hides (fun text => masks _ text rfl) (fun text =>
        ⟨_, rfl⟩) (fun _ => rfl) fun _ => trivial

private theorem register_hides {hidden : Except AuthError User → Prop}
    (masks : ∀ text, hidden (.error (.internal text))) (request : Registration) :
    (Auth.register request).Hides hidden := by
  refine ⟨fun text => ⟨_, rfl, masks _⟩, fun found => ?_⟩
  rcases found with (_ | _ | _) | user
  · intro hashed
    cases hashed with
    | error text => trivial
    | ok hash =>
        refine ⟨fun text => ⟨_, rfl, masks _⟩, fun created => ?_⟩
        rcases created with (_ | _ | _) | _ <;> trivial
  · trivial
  · trivial
  · trivial

private theorem generateTokens_hides {hidden : Except AuthError TokenPair → Prop}
    (masks : ∀ text, hidden (.error (.internal text))) (settings : Auth.Settings) (user : User) :
    (Auth.generateTokens settings user).Hides hidden := by
  intro signed
  rcases signed with e | access
  · trivial
  · intro token now
    change ((Auth.daysFrom now settings.refreshDays).bind _).Hides hidden
    rcases Auth.daysFrom_cases now settings.refreshDays with ⟨-, later⟩ | ⟨-, reason, never⟩
    · rw [later]
      refine ⟨fun text => ⟨_, rfl, masks _⟩, fun stored => ?_⟩
      cases stored <;> trivial
    · rw [never]
      exact nofun

private theorem login_hides {hidden : Except AuthError (User × TokenPair) → Prop}
    (masks : ∀ text, hidden (.error (.internal text))) (settings : Auth.Settings)
    (email password : String) :
    (Auth.login settings email password).Hides hidden := by
  refine ⟨fun text => ⟨_, rfl, masks _⟩, fun found => ?_⟩
  rcases found with (_ | _ | _) | user
  · exact fun _ => trivial
  · trivial
  · trivial
  · intro verified
    rcases verified with text | _ | _
    · trivial
    · trivial
    · exact (generateTokens_hides (fun text => masks text) settings user).map

private theorem refresh_hides {hidden : Except AuthError TokenPair → Prop}
    (masks : ∀ text, hidden (.error (.internal text))) (settings : Auth.Settings)
    (token : String) : (Auth.refresh settings token).Hides hidden := by
  refine ⟨fun text => ⟨_, rfl, masks _⟩, fun taken => ?_⟩
  rcases taken with (_ | _ | _) | row
  · trivial
  · trivial
  · trivial
  · intro now
    change Program.Hides hidden (if row.isExpired now then _ else _)
    split
    · trivial
    · refine ⟨fun text => ⟨_, rfl, masks _⟩, fun found => ?_⟩
      rcases found with (_ | _ | _) | user
      · trivial
      · trivial
      · trivial
      · exact generateTokens_hides masks settings user

private theorem logout_hides {hidden : Except AuthError Unit → Prop}
    (masks : ∀ text, hidden (.error (.internal text))) (token : String) :
    (Auth.logout token).Hides hidden := by
  refine ⟨fun text => ⟨_, rfl, masks _⟩, fun deleted => ?_⟩
  cases deleted <;> trivial

private theorem logoutAll_hides {hidden : Except AuthError Nat → Prop}
    (masks : ∀ text, hidden (.error (.internal text))) (userId : Uuid) :
    (Auth.logoutAll userId).Hides hidden := by
  refine ⟨fun text => ⟨_, rfl, masks _⟩, fun deleted => ?_⟩
  cases deleted <;> trivial

private theorem getUser_hides {hidden : Except AuthError User → Prop}
    (masks : ∀ text, hidden (.error (.internal text))) (userId : Uuid) :
    (Auth.getUser userId).Hides hidden := by
  refine ⟨fun text => ⟨_, rfl, masks _⟩, fun found => ?_⟩
  rcases found with (_ | _ | _) | _ <;> trivial

end Services

/-! ### The router -/

namespace Http

def internalFailure : Response :=
  .ofJson 500 (.object [("error", .str "An internal error occurred"),
    ("code", .str "INTERNAL_ERROR")])

def notReady : Response :=
  .ofJson 503 (.object [("status", .str "unavailable"), ("store_healthy", .bool false)])

def failureFor (request : Request) : Response :=
  if segments request.path = some ["ready".toList] then notReady else internalFailure

private theorem authorize_hides {hidden : Response → Prop} {required : Option Role}
    {request : Request} {next : Identity → Program Response}
    (each : ∀ caller, (next caller).Hides hidden) :
    (authorize required request >>= fun
      | .error response => return response
      | .ok caller => next caller).Hides hidden := by
  have asks : (authorize required request).Asks fun op => ∀ call, op ≠ .store call := by
    refine (authorize_asks required request).mono ?_
    rintro _ ⟨token, -, rfl⟩ call same
    cases same
  have checked : (authorize required request).Hides fun _ => False := .of_asks asks
  refine checked.bind (fun _ => False.elim) ?_
  rintro (response | caller)
  · trivial
  · exact each caller

/-- Away from the question whether the service is ready, every failure of
the backend is answered alike. -/
theorem routeProperty_hides (settings : Settings) {request : Request}
    (other : segments request.path ≠ some ["ready".toList]) :
    RouteProperty settings request (Program.Hides (· = internalFailure))
      (Program.Hides (· = internalFailure)) where
  refused _ _ := trivial
  refusedBehind _ _ := trivial
  member _ each := authorize_hides each
  guarded _ _ _ each := authorize_hides each
  health := trivial
  readiness path := absurd path other
  register registration := .map (register_hides (fun _ => rfl) registration)
  login _ := .map (login_hides (fun _ => rfl) settings.auth _ _)
  refresh presented _ _ := .map (refresh_hides (fun _ => rfl) settings.auth presented.token)
  logout presented := .map (logout_hides (fun _ => rfl) presented.token)
  logoutAll userId := .map (logoutAll_hides (fun _ => rfl) userId)
  me userId := .map (getUser_hides (fun _ => rfl) userId)
  showSubscription _ := .map (.call fun _ => rfl)
  subscribe _ _ := .map (.call fun _ => rfl)
  unsubscribe _ := .map (.call fun _ => rfl)
  recent limit := .map (list_hides (fun _ => rfl) ⟨none, none, some limit, none⟩)
  work _ _ shows :=
  .map (work_hides settings.notices fun result _ error => shows.failed result _ error)

private theorem route_hides (settings : Settings) (request : Request) :
    (route settings request).Hides (· = failureFor request) := by
  unfold failureFor
  by_cases ready : segments request.path = some ["ready".toList]
  · rw [if_pos ready]
    have reached : (segments request.path).bind findRoute =
        some (⟨[.fixed "ready"], [("GET", .everybody .readiness)]⟩, []) := by
      rw [ready]
      decide
    unfold route
    rw [reached]
    dsimp only
    split
    · trivial
    · rename_i endpoint chosen
      have only : endpoint = .everybody .readiness := by
        simp only [Route.endpoint?, List.lookup_cons, List.lookup_nil] at chosen
        split at chosen <;> cases chosen
        rfl
      rw [only]
      refine ⟨fun text => ⟨_, rfl, rfl⟩, fun answer => ?_⟩
      cases answer <;> trivial
  · rw [if_neg ready]
    exact (routeProperty_hides settings ready).route

private theorem program_hides (settings : Settings) (cors : Cors) (incoming : Incoming) :
    (program settings cors incoming).Hides (· =
      finish cors incoming (failureFor incoming.request)) := by
  unfold program
  split
  · trivial
  · refine (route_hides settings incoming.request).bind ?_ fun _ => trivial
    rintro _ rfl
    exact ⟨_, rfl, rfl⟩

end Http

/-- No text from the backend reaches a client. Against two stores that answer all calls alike, but
for the texts of failures in the backend, every request gets the same response. And a request that
meets such a failure is answered with the fixed response for it, of which only the head is sent if
only that was asked for. -/
theorem backend_texts_hidden (settings : Http.Settings) (cors : Http.Cors)
    (incoming : Http.Incoming) {first : Interpreter σ} {second : Interpreter τ}
    {related : σ → τ → Prop} (alike : first.Alike second related)
    {state : σ} {state' : τ} (start : related state state') :
    (Http.serve first settings cors incoming.freshId incoming.request state).1 =
        (Http.serve second settings cors incoming.freshId incoming.request state').1 ∧
      ∀ call text,
        ⟨.store call, .error (.backend text)⟩ ∈
          (Http.program settings cors incoming).dialogue first state →
        let response := (Http.serve first settings cors incoming.freshId incoming.request state).1
        response.status = (Http.failureFor incoming.request).status ∧
          response.body =
            if incoming.request.method = "HEAD" then .empty
              else (Http.failureFor incoming.request).body := by
  have hides := Http.program_hides settings cors incoming
  constructor
  · rw [Http.serve_eq, Http.serve_eq, hides.run_alike alike start]
  · intro call text failed
    rw [Http.serve_eq, hides.run_failed failed]
    exact ⟨Http.finish_status _ _ _, Http.finish_body _ _ _⟩

/-! ### A store that cannot be reached -/

/-- The world when the store cannot be reached by one of its methods, and says why. -/
def unreachable (method text : String) (world : World) : World :=
  { world with faults := [(method, .fails (.backend text))] }

def SaysOther (method text text' : String) (state state' : World) : Prop :=
  ∃ world, state = unreachable method text world ∧ state' = unreachable method text' world

private theorem unreachable_alike (app : Application) (method text text' : String) :
    app.interpreter.Alike app.interpreter (SaysOther method text text') := by
  rintro op _ _ ⟨world, rfl, rfl⟩
  cases op with
  | store call =>
      change AnswersAlike (.store call) (World.perform _ call).1 (World.perform _ call).1 ∧
        SaysOther method text text' (World.perform _ call).2 (World.perform _ call).2
      unfold World.perform unreachable
      by_cases lost : call.method = method
      · simp only [lost, List.lookup_cons_self]
        exact ⟨.backend call text text', world, rfl, rfl⟩
      · have other : (call.method == method) = false := beq_eq_false_iff_ne.mpr lost
        simp only [List.lookup_cons, List.lookup_nil, other]
        let after :=
          (world.memory.perform ⟨world.now, World.identifier world.identifiers⟩ call).2
        exact ⟨.same _ _,
          { world with memory := after, identifiers := world.identifiers + 1 }, rfl, rfl⟩
  | now | verify | abort | verifyPassword => exact ⟨.same _ _, world, rfl, rfl⟩
  | newRefreshToken | hashPassword | sign =>
    exact ⟨.same _ _, { world with secrets := world.secrets + 1 }, rfl, rfl⟩
  | notify notice =>
    exact ⟨.same _ _, { world with notices := world.notices ++ [notice] }, rfl, rfl⟩

def readyRequest (method : String) : Http.Incoming :=
  ⟨⟨method, "/ready".toList, [], [], []⟩, "first"⟩

private theorem readyRequest_fails {method : String} (asked : method = "GET" ∨ method = "HEAD")
    (text : String) :
    ⟨.store .ping, .error (.backend text)⟩ ∈
      (Http.program oneKey.settings oneKey.cors (readyRequest method)).dialogue oneKey.interpreter
        (unreachable "ping" text (World.start ⟨5, 0⟩)) := by
  have reached : (Http.segments "/ready".toList).bind Http.findRoute =
      some (⟨[.fixed "ready"], [("GET", .everybody .readiness)]⟩, []) := by decide +kernel
  have chosen :
      (⟨[.fixed "ready"], [("GET", .everybody .readiness)]⟩ : Http.Route).endpoint? method =
      some (.everybody .readiness) := by
    rcases asked with rfl | rfl <;> rfl
  have routed : Http.route oneKey.settings (readyRequest method).request = _ :=
    Http.route_eq oneKey.settings reached chosen
  unfold Http.program
  rw [routed]
  rcases asked with rfl | rfl <;> exact List.mem_cons_self

def statusRequest : Http.Incoming := ⟨⟨"GET", "/api/v1/status".toList, [], [], []⟩, "first"⟩

private theorem statusRequest_fails (text : String) :
    ∃ filter, ⟨.store (.listEvents filter), .error (.backend text)⟩ ∈
      (Http.program oneKey.settings oneKey.cors statusRequest).dialogue oneKey.interpreter
        (unreachable "list_events" text (World.start ⟨5, 0⟩)) := by
  have reached : (Http.segments "/api/v1/status".toList).bind Http.findRoute =
      some (⟨Http.apiPath [.fixed "status"], [("GET", .everybody .status)]⟩, []) := by
    decide +kernel
  have routed : Http.route oneKey.settings statusRequest.request = _ :=
    Http.route_eq oneKey.settings reached rfl
  unfold Http.program
  rw [routed]
  exact ⟨_, List.mem_cons_self⟩

theorem unreachable_hidden :
    let ready (text : String) :=
      (oneKey.serve "first" (readyRequest "GET").request
        (unreachable "ping" text (World.start ⟨5, 0⟩))).1
    let status (text : String) :=
      (oneKey.serve "first" statusRequest.request
        (unreachable "list_events" text (World.start ⟨5, 0⟩))).1
    (ready "disk full" = ready "connection lost" ∧ (ready "disk full").status = 503 ∧
      (ready "disk full").body =
        .json (.object [("status", .str "unavailable"), ("store_healthy", .bool false)])) ∧
      status "disk full" = status "connection lost" ∧ (status "disk full").status = 500 ∧
      (status "disk full").body =
        .json (.object [("error", .str "An internal error occurred"),
          ("code", .str "INTERNAL_ERROR")]) := by
  constructor
  · obtain ⟨same, fixed⟩ :=
      backend_texts_hidden oneKey.settings oneKey.cors (readyRequest "GET")
      (unreachable_alike oneKey "ping" "disk full" "connection lost")
      ⟨World.start ⟨5, 0⟩, rfl, rfl⟩
    obtain ⟨status, body⟩ := fixed .ping "disk full" (readyRequest_fails (.inl rfl) "disk full")
    have ready : Http.failureFor (readyRequest "GET").request = Http.notReady :=
      if_pos (by decide +kernel)
    rw [ready] at status body
    exact ⟨same, status, body⟩
  · obtain ⟨same, fixed⟩ := backend_texts_hidden oneKey.settings oneKey.cors statusRequest
      (unreachable_alike oneKey "list_events" "disk full" "connection lost")
      ⟨World.start ⟨5, 0⟩, rfl, rfl⟩
    obtain ⟨filter, failed⟩ := statusRequest_fails "disk full"
    obtain ⟨status, body⟩ := fixed (.listEvents filter) "disk full" failed
    have internal : Http.failureFor statusRequest.request = Http.internalFailure :=
      if_neg (by decide +kernel)
    rw [internal] at status body
    exact ⟨same, status, body⟩

/-- Whoever asks for the head alone is not sent the fixed body. -/
theorem headOfFailure_empty :
    ¬∀ (settings : Http.Settings) (cors : Http.Cors) (incoming : Http.Incoming)
      (state : World) call text,
      ⟨.store call, .error (.backend text)⟩ ∈
          (Http.program settings cors incoming).dialogue oneKey.interpreter state →
        let response :=
          (Http.serve oneKey.interpreter settings cors incoming.freshId incoming.request state).1
        response.status = (Http.failureFor incoming.request).status ∧
          response.body = (Http.failureFor incoming.request).body := by
  intro every
  have failed := readyRequest_fails (.inr rfl) "disk full"
  obtain ⟨-, body⟩ := every _ _ _ _ _ _ failed
  rw [Http.serve_eq, (Http.program_hides _ _ _).run_failed failed] at body
  have ready : Http.failureFor (readyRequest "HEAD").request = Http.notReady :=
    if_pos (by decide +kernel)
  rw [Http.responseOf, Http.finish_body, ready] at body
  cases body

end StatusPage
