import StatusPage.Proofs.SoloRuns

/-!
What a request may change. `Authorized` lists what can become of the store when the application
answers a request, each case with the authority that the request has shown for it. Everything that
is said about single collections is read off this list.
-/

set_option autoImplicit false

namespace StatusPage

open Store (Memory Stamp)

def Http.Request.Posts (request : Http.Request) (name : String) : Prop :=
  request.method = "POST" ∧
    Http.segments request.path = some (["api", "v1", "auth", name].map String.toList)

/-- The request carries a valid access token, and this is whom it speaks for. -/
def Application.Bearer (app : Application) (request : Http.Request) (world : World)
    (caller : Identity) : Prop :=
  ∃ header token, request.asciiHeader? "authorization" = some header ∧
    Http.bearerToken header = some token ∧
    app.keyring.verify world.now.seconds token = .ok caller

/-- The request carries a valid access token whose role permits what
is reserved for another role. -/
def Application.Allowed (app : Application) (request : Http.Request) (world : World)
    (role : Role) : Prop :=
  ∃ caller, app.Bearer request world caller ∧ Role.permits caller.role role

/-- The role for which a call on events or templates is reserved. -/
def Store.Call.role : Store.Call → Option Role
  | .createEvent _ | .recordUpdate _ _ => some .operator
  | .deleteEvent _ | .createTemplate _ | .updateTemplate _ _ | .deleteTemplate _ => some .admin
  | _ => none

/-- The calls of the store for which a request has the authority, sessions apart. -/
inductive MayCall (app : Application) (request : Http.Request) (world : World) : Store.Call → Prop
  | register (new : NewUser) (posted : request.Posts "register") (least : new.role = .user) :
      MayCall app request world (.createUser new)
  | subscribe (caller : Identity) (serviceIds : List Uuid)
      (bearer : app.Bearer request world caller) :
      MayCall app request world (.setSubscription caller.userId serviceIds)
  | unsubscribe (caller : Identity) (bearer : app.Bearer request world caller) :
      MayCall app request world (.deleteSubscription caller.userId)
  | work (call : Store.Call) (role : Role) (reserved : call.role = some role)
      (allowed : app.Allowed request world role) :
      MayCall app request world call

/-- What an answer with a status can have made of the store, and why. -/
inductive Authorized (app : Application) (request : Http.Request) (world : World) :
    Nat → Memory → Prop
  | unchanged (status : Nat) : Authorized app request world status world.memory
  | called (status : Nat) (stamp : Stamp) (call : Store.Call)
      (may : MayCall app request world call) :
      Authorized app request world status (world.memory.perform stamp call).2
  | loggedIn (stamp : Stamp) (credentials : Credentials) (user : User) (new : NewRefreshToken)
      (row : RefreshToken) (after : Memory) (posted : request.Posts "login")
      (read : Http.readRecord Credentials.fields request = .ok credentials)
      (known : user ∈ world.memory.users)
      (address : user.email = Auth.normalizeEmail credentials.email)
      (matching : Auth.verifyPassword credentials.password user.passwordHash = .ok true)
      (owner : new.userId = user.id)
      (stored : world.memory.perform stamp (.createRefreshToken new) = (.ok row, after)) :
      Authorized app request world 200 after
  | ended (status : Nat) (presented : PresentedToken)
      (posted : request.Posts "refresh" ∨ request.Posts "logout")
      (read : Http.readRecord PresentedToken.fields request = .ok presented) :
      Authorized app request world status
        (world.memory.dropRefreshTokens fun token => token.digest == refreshDigest presented.token)
  | refreshed (stamp : Stamp) (presented : PresentedToken) (old row : RefreshToken)
      (new : NewRefreshToken) (after : Memory) (posted : request.Posts "refresh")
      (read : Http.readRecord PresentedToken.fields request = .ok presented)
      (known : old ∈ world.memory.refreshTokens)
      (digest : old.digest = refreshDigest presented.token) (owner : new.userId = old.userId)
      (stored : (world.memory.dropRefreshTokens fun token =>
        token.digest == refreshDigest presented.token).perform stamp (.createRefreshToken new) =
          (.ok row, after)) :
      Authorized app request world 200 after
  | endedAll (status : Nat) (caller : Identity) (posted : request.Posts "logout-all")
      (bearer : app.Bearer request world caller) :
      Authorized app request world status
        (world.memory.dropRefreshTokens fun token => token.userId == caller.userId)

/-! ### Routes -/

namespace Http

private theorem capture_fixed {texts : List String} {segments captured : List (List Char)}
    (found : PathPart.capture (texts.map .fixed) segments = some captured) :
    segments = texts.map String.toList := by
  induction texts generalizing segments with
  | nil =>
      cases segments with
      | nil => rfl
      | cons segment segments => cases found
  | cons text texts ih =>
      cases segments with
      | nil => cases found
      | cons segment segments =>
          rw [List.map_cons, PathPart.capture] at found
          split at found
          · rename_i same
            rw [same, ih found, List.map_cons]
          · cases found

/-- An endpoint that stands nowhere else is only reached by its method and its path. A request for a
head is looked up as a get. -/
theorem path_of_endpoint {request : Request} (method : String) (texts : List String)
    {endpoint : Endpoint} {found : Route} {captured : List (List Char)}
    (only : ∀ route ∈ routes, ∀ entry ∈ route.endpoints, entry.2 = endpoint →
      entry.1 = method ∧ route.parts = texts.map .fixed)
    (reached : (segments request.path).bind findRoute = some (found, captured))
    (chosen : found.endpoint? request.method = some endpoint) :
    (if request.method = "HEAD" then "GET" else request.method) = method ∧
      segments request.path = some (texts.map String.toList) := by
  obtain ⟨parts, path, reached⟩ := Option.bind_eq_some_iff.mp reached
  obtain ⟨route, member, matched⟩ := List.exists_of_findSome?_eq_some reached
  obtain ⟨found', capture, same⟩ := Option.map_eq_some_iff.mp matched
  cases same
  obtain ⟨before, after, entries, -⟩ := List.lookup_eq_some_iff.mp chosen
  have listed : (if request.method = "HEAD" then "GET" else request.method, endpoint) ∈
      found.endpoints := by
    rw [entries]
    exact List.mem_append_right _ List.mem_cons_self
  obtain ⟨asked, path'⟩ := only found member _ listed rfl
  rw [path'] at capture
  exact ⟨asked, path.trans (congrArg some (capture_fixed capture))⟩

theorem posts_of_endpoint {request : Request} {name : String} {endpoint : Endpoint} {found : Route}
    {captured : List (List Char)}
    (only : ∀ route ∈ routes, ∀ entry ∈ route.endpoints, entry.2 = endpoint →
      entry.1 = "POST" ∧ route.parts = ["api", "v1", "auth", name].map .fixed)
    (reached : (segments request.path).bind findRoute = some (found, captured))
    (chosen : found.endpoint? request.method = some endpoint) : request.Posts name := by
  obtain ⟨post, path⟩ := path_of_endpoint _ _ only reached chosen
  refine ⟨?_, path⟩
  by_cases head : request.method = "HEAD"
  · rw [if_pos head] at post
    exact absurd post (by decide : ¬"GET" = "POST")
  · rwa [if_neg head] at post

theorem headOnly_status (request : Request) (response : Response) :
    (headOnly request response).status = response.status := by
  unfold headOnly
  split <;> rfl

/-! ### The check of a caller -/

def identify (verify : String → Except AuthError Identity) :
    Option String → Except Response Identity
  | none => .error (unauthorized "Missing Authorization header")
  | some text =>
      match bearerToken text with
      | none => .error (unauthorized "Invalid Authorization format. Expected: Bearer <token>")
      | some token => (verify token).mapError fun _ => unauthorized "Invalid or expired token"

def outranked (role : Role) : Response :=
  Failure.response (.core (.forbidden (role.name ++ " role required")))

def admission : Option Role → Identity → Except Response Identity
  | none, caller => .ok caller
  | some role, caller =>
    if Role.permits caller.role role then .ok caller else .error (outranked role)

def check (verify : String → Except AuthError Identity) (required : Option Role)
    (header : Option String) :
    Except Response Identity := do
  admission required (← identify verify header)

end Http

/-! ### Runs of the endpoints -/

namespace Application

variable {app : Application} {request : Http.Request} {world : World}

private theorem run_authenticate (app : Application) (request : Http.Request) (world : World) :
    app.run (Http.authenticate request) world =
      (.value (Http.identify (app.keyring.verify world.now.seconds)
        (request.asciiHeader? "authorization")),
        world) := by
  unfold Http.authenticate Http.identify
  cases request.asciiHeader? "authorization" with
  | none => rfl
  | some text =>
      dsimp only
      cases Http.bearerToken text with
      | none => rfl
      | some token =>
          dsimp only
          rw [run_validate]
          cases app.keyring.verify world.now.seconds token with
          | error e => rfl
          | ok caller => rfl

theorem run_authorize (app : Application) (required : Option Role) (request : Http.Request)
    (world : World) :
    app.run (Http.authorize required request) world =
      (.value (Http.check (app.keyring.verify world.now.seconds) required
        (request.asciiHeader? "authorization")),
        world) := by
  unfold Http.authorize Http.check
  rw [app.run_bind_value (run_authenticate app request world)]
  cases Http.identify (app.keyring.verify world.now.seconds)
    (request.asciiHeader? "authorization") with
  | error response => rfl
  | ok caller =>
      cases required with
      | none => rfl
      | some role =>
          change app.run (if Role.permits caller.role role then _ else _) world =
            (.value (if Role.permits caller.role role then _ else _), world)
          by_cases permitted : Role.permits caller.role role
          · rw [if_pos permitted, if_pos permitted]
            rfl
          · rw [if_neg permitted, if_neg permitted]
            rfl

theorem bearer_iff {caller : Identity} :
    app.Bearer request world caller ↔
      Http.identify (app.keyring.verify world.now.seconds) (request.asciiHeader? "authorization") =
        .ok caller := by
  constructor
  · rintro ⟨text, token, present, bearer, verified⟩
    simp only [present, Http.identify, bearer, verified]
    rfl
  · intro known
    unfold Http.identify at known
    split at known
    · cases known
    · rename_i text present
      split at known
      · cases known
      · rename_i token bearer
        cases verified : app.keyring.verify world.now.seconds token with
        | error e =>
            rw [verified] at known
            cases known
        | ok valid =>
            rw [verified] at known
            cases known
            exact ⟨text, token, present, bearer, verified⟩

private theorem passed_check {required : Option Role} {caller : Identity}
    (passed : Http.check (app.keyring.verify world.now.seconds) required
      (request.asciiHeader? "authorization") = .ok caller) :
    app.Bearer request world caller ∧ ∀ role, required = some role →
      Role.permits caller.role role := by
  unfold Http.check at passed
  cases known :
    Http.identify (app.keyring.verify world.now.seconds) (request.asciiHeader? "authorization") with
  | error response =>
      rw [known] at passed
      cases passed
  | ok valid =>
      rw [known] at passed
      change Http.admission required valid = _ at passed
      cases required with
      | none =>
          cases passed
          exact ⟨bearer_iff.mpr known, nofun⟩
      | some role =>
          simp only [Http.admission] at passed
          split at passed
          · rename_i permitted
            cases passed
            exact ⟨bearer_iff.mpr known, fun _ same => Option.some.inj same ▸ permitted⟩
          · cases passed

end Application

def EventRequest.role : EventRequest → Option Role
  | .create _ _ | .addUpdate _ _ _ => some .operator
  | .delete _ | .createTemplate _ | .updateTemplate _ _ | .deleteTemplate _ => some .admin
  | _ => none

theorem EventRequest.MayAsk.role {request : EventRequest} {call : Store.Call}
    (asked : request.MayAsk (.store call)) :
    call.writes = [] ∨ call.role = request.role ∧ request.role.isSome := by
  cases asked with
  | createEvent | recordUpdate | delete | createTemplate | updateTemplate | deleteTemplate =>
    exact .inr ⟨rfl, rfl⟩
  | _ => exact .inl rfl

/-- Whatever a program does to the store on its way to a response, the
request has the authority for. -/
def Justified (app : Application) (request : Http.Request) (world : World)
    (program : Program Http.Response) : Prop :=
  Authorized app request world (Http.ofReply (app.run program world).1).status
    (app.run program world).2.memory

namespace Justified

variable {app : Application} {request : Http.Request} {world : World}
  {program : Program Http.Response}

private theorem of_same (same : (app.run program world).2.memory = world.memory) :
    Justified app request world program := by
  rw [Justified, same]
  exact .unchanged _

theorem of_reads (reads : program.AsksAtMost Op.writes 0) : Justified app request world program :=
  of_same (app.run_reads reads world)

private theorem of_once {allowed : Op → Prop} (asks : program.Asks allowed)
    (once : program.AsksAtMost Op.writes 1)
    (may : ∀ call,
      allowed (.store call) → call.writes ≠ [] → MayCall app request world call) :
    Justified app request world program := by
  rcases app.run_once asks once world with same | ⟨call, stamp, asked, changed⟩
  · exact of_same same
  · by_cases reads : call.writes = []
    · exact of_same (changed.trans (world.memory.perform_of_reads stamp reads))
    · rw [Justified, changed]
      exact .called _ stamp call (may call asked reads)

private theorem of_call {call : Store.Call}
    {answer : Except StoreError call.Result → Http.Response}
    (may : MayCall app request world call) :
    Justified app request world (.ask (.store call) fun result => .done (answer result)) := by
  have asks : (Program.ask (.store call) fun result => .done (answer result)).Asks (· =
      .store call) :=
    ⟨rfl, fun _ => trivial⟩
  have once : (Program.ask (.store call) fun result =>
      .done (answer result)).AsksAtMost Op.writes 1 :=
    ⟨Bool.toNat_le _, fun _ => trivial⟩
  refine of_once asks once fun call' same _ => ?_
  cases same
  exact may

private theorem of_events (work : EventRequest) (write : work.Result → Http.Response)
    (allowed : ∀ role, work.role = some role → app.Allowed request world role) :
    Justified app request world ((work.program app.settings.notices).bind fun result =>
      .done (write result)) := by
  have asks : ((work.program app.settings.notices).bind fun result =>
      .done (write result)).Asks work.MayAsk :=
    (EventRequest.program_asks app.settings.notices work).bind fun _ => trivial
  refine of_once asks ((EventRequest.program_writes_once app.settings.notices work).map write) ?_
  intro call asked writes
  rcases asked.role with reads | ⟨same, reserved⟩
  · exact absurd reads writes
  · obtain ⟨role, work_role⟩ := Option.isSome_iff_exists.mp reserved
    exact .work call role (same.trans work_role) (allowed role work_role)

theorem withRead {α : Type} {read : Except Http.Response α} {next : α → Program Http.Response}
    (each : ∀ value, read = .ok value → Justified app request world (next value)) :
    Justified app request world (Http.withRead read next) := by
  cases result : read with
  | error response => exact of_same rfl
  | ok value => exact each value result

theorem register (posted : request.Posts "register") (registration : Registration)
    (write : Except AuthError User → Http.Response) :
    Justified app request world ((Auth.register registration).bind fun result =>
      .done (write result)) := by
  have asks : ((Auth.register registration).bind fun result => .done (write result)).Asks fun op =>
      op.writes = true → ∃ new, op = .store (.createUser new) ∧ new.role = .user :=
    (Application.register_asks registration).bind fun _ => trivial
  refine of_once asks ((Application.register_writes_once registration).map write) ?_
  intro call asked writes
  obtain ⟨new, ⟨⟩, least⟩ := asked (by simpa [Op.writes] using writes)
  exact .register new posted least

theorem login (posted : request.Posts "login") {credentials : Credentials}
    (read : Http.readRecord Credentials.fields request = .ok credentials) :
    Justified app request world
      ((Auth.login app.settings.auth credentials.email credentials.password).bind fun result =>
        .done (Http.respondAuth (fun login => .data 200 (loginJson login)) result)) := by
  rw [Justified, app.run_map_world]
  rcases app.run_login app.settings.auth credentials.email credentials.password world with
    unchanged | ⟨user, known, address, matching, stamp, new, row, tokens, owner, reply, stored⟩
  · rw [unchanged]
    exact .unchanged _
  · rw [app.run_map_reply _ reply]
    exact .loggedIn stamp credentials user new row _ posted read known address matching owner stored

theorem refresh (posted : request.Posts "refresh") {presented : PresentedToken}
    (read : Http.readRecord PresentedToken.fields request = .ok presented) :
    Justified app request world
      ((Auth.refresh app.settings.auth presented.token).bind fun result =>
        .done (Http.respondAuth (fun tokens => .data 200 tokens.toJson) result)) := by
  rw [Justified, app.run_map_world]
  rcases app.run_refresh app.settings.auth presented.token world with
    unchanged | ⟨old, known, digest, taken | ⟨stamp, new, row, pair, owner, reply, stored⟩⟩
  · rw [unchanged]
    exact .unchanged _
  · rw [taken]
    exact .ended _ presented (.inl posted) read
  · rw [app.run_map_reply _ reply]
    exact .refreshed stamp presented old row new _ posted read known digest owner stored

theorem logoutAll (posted : request.Posts "logout-all") {caller : Identity}
    (bearer : app.Bearer request world caller) (write : Except AuthError Nat → Http.Response) :
    Justified app request world ((Auth.logoutAll caller.userId).bind fun result =>
      .done (write result)) := by
  rw [Justified, app.run_map_world]
  rcases app.run_logoutAll caller.userId world with unchanged | deleted
  · rw [unchanged]
    exact .unchanged _
  · rw [deleted]
    exact .endedAll _ caller posted bearer

theorem logout (posted : request.Posts "logout") {presented : PresentedToken}
    (read : Http.readRecord PresentedToken.fields request = .ok presented)
    (write : Except AuthError Unit → Http.Response) :
    Justified app request world ((Auth.logout presented.token).bind fun result =>
      .done (write result)) := by
  rw [Justified, app.run_map_world]
  rcases app.run_logout presented.token world with unchanged | deleted
  · rw [unchanged]
    exact .unchanged _
  · rw [deleted]
    exact .ended _ presented (.inr posted) read

section Endpoints

variable {found : Http.Route} {captured : List (List Char)}
  (reached : (Http.segments request.path).bind Http.findRoute = some (found, captured))

include reached

theorem everybody {endpoint : Http.PublicEndpoint}
    (chosen : found.endpoint? request.method = some (.everybody endpoint)) :
    Justified app request world (endpoint.serve app.settings request) := by
  cases endpoint with
  | health => exact of_same rfl
  | readiness =>
      have reads :
          (Http.PublicEndpoint.readiness.serve app.settings request).AsksAtMost Op.writes 0 := by
        refine ⟨Nat.le_refl 0, fun answer => ?_⟩
        cases answer <;> trivial
      exact of_reads reads
  | register =>
      refine withRead fun registration _ => ?_
      exact register (Http.posts_of_endpoint (by decide) reached chosen) registration _
  | login =>
      exact withRead fun _ read => login (Http.posts_of_endpoint (by decide) reached chosen) read
  | refresh =>
    exact withRead fun _ read => refresh (Http.posts_of_endpoint (by decide) reached chosen) read
  | logout =>
      exact withRead fun _ read => logout (Http.posts_of_endpoint (by decide) reached chosen) read _
  | status => exact of_events (.recent Http.recentLimit) Http.showEvents nofun
  | history => exact of_events (.recent Http.historyLimit) Http.showEvents nofun

theorem member {endpoint : Http.MemberEndpoint} {caller : Identity}
    (bearer : app.Bearer request world caller)
    (chosen : found.endpoint? request.method = some (.member endpoint)) :
    Justified app request world (endpoint.serve caller request) := by
  cases endpoint with
  | logoutAll => exact logoutAll (Http.posts_of_endpoint (by decide) reached chosen) bearer _
  | me =>
      have reads : (Http.MemberEndpoint.me.serve caller request).AsksAtMost Op.writes 0 := by
        refine ⟨Nat.le_refl 0, fun answer => ?_⟩
        rcases answer with (_ | _ | _) | _ <;> trivial
      exact of_reads reads
  | showSubscription =>
      have reads :
          (Http.MemberEndpoint.showSubscription.serve caller request).AsksAtMost Op.writes 0 :=
        ⟨Nat.le_refl 0, fun _ => trivial⟩
      exact of_reads reads
  | subscribe => exact withRead fun choice _ => of_call (.subscribe caller choice.serviceIds bearer)
  | unsubscribe => exact of_call (.unsubscribe caller bearer)

end Endpoints

theorem operator {endpoint : Http.OperatorEndpoint} {caller : Identity}
    (captured : List (List Char)) (bearer : app.Bearer request world caller)
    (permitted : Role.permits caller.role .operator) :
    Justified app request world (endpoint.serve app.settings caller captured request) := by
  have allowed : ∀ role, some .operator = some role → app.Allowed request world role := by
    rintro _ ⟨⟩
    exact ⟨caller, bearer, permitted⟩
  cases endpoint with
  | listEvents => exact withRead fun query _ => of_events (.list query) _ nofun
  | createEvent => exact withRead fun draft _ => of_events (.create caller.userId draft) _ allowed
  | showEvent => exact withRead fun id _ => of_events (.get id) _ nofun
  | listUpdates => exact withRead fun id _ => of_events (.listUpdates id) _ nofun
  | addUpdate =>
    exact withRead fun (id, draft) _ => of_events (.addUpdate id caller.userId draft) _ allowed

theorem admin {endpoint : Http.AdminEndpoint} {caller : Identity} (captured : List (List Char))
    (bearer : app.Bearer request world caller) (permitted : Role.permits caller.role .admin) :
    Justified app request world (endpoint.serve captured request) := by
  have allowed : ∀ role, some .admin = some role → app.Allowed request world role := by
    rintro _ ⟨⟩
    exact ⟨caller, bearer, permitted⟩
  cases endpoint with
  | deleteEvent => exact withRead fun id _ => of_events (.delete id) _ allowed
  | listTemplates => exact of_events .listTemplates _ nofun
  | createTemplate => exact withRead fun draft _ => of_events (.createTemplate draft) _ allowed
  | showTemplate => exact withRead fun slug _ => of_events (.getTemplate slug) _ nofun
  | updateTemplate =>
    exact withRead fun (id, edit) _ => of_events (.updateTemplate id edit) _ allowed
  | deleteTemplate => exact withRead fun id _ => of_events (.deleteTemplate id) _ allowed
  | preview => exact withRead fun (slug, data) _ => of_events (.preview slug data) _ nofun

theorem authorize {required : Option Role} {next : Identity → Program Http.Response}
    (each : ∀ caller, app.Bearer request world caller →
      (∀ role, required = some role → Role.permits caller.role role) →
      Justified app request world (next caller)) :
    Justified app request world (do
      match ← Http.authorize required request with
      | .error response => return response
      | .ok caller => next caller) := by
  rw [Justified, app.run_bind_value (app.run_authorize required request world)]
  cases checked : Http.check (app.keyring.verify world.now.seconds) required
      (request.asciiHeader? "authorization") with
  | error response => exact .unchanged _
  | ok caller =>
      obtain ⟨bearer, permitted⟩ := Application.passed_check checked
      exact each caller bearer permitted

theorem route (app : Application) (request : Http.Request) (world : World) :
    Justified app request world (Http.route app.settings request) := by
  unfold Http.route
  split
  · exact of_same rfl
  · rename_i found captured reached
    split
    · exact of_same rfl
    · rename_i endpoint chosen
      cases endpoint with
      | everybody endpoint => exact everybody reached chosen
      | member endpoint => exact authorize fun caller bearer _ => member reached bearer chosen
      | operator endpoint =>
          exact authorize fun caller bearer permitted =>
            operator captured bearer (permitted .operator rfl)
      | admin endpoint =>
          exact authorize fun caller bearer permitted =>
            admin captured bearer (permitted .admin rfl)

end Justified

/-- Whatever an answer to a request does to the store, the request has the authority for. -/
theorem serve_authorized (app : Application) (freshId : String) (request : Http.Request)
    (world : World) :
    Authorized app request world (app.serve freshId request world).1.status
      (app.serve freshId request world).2.memory := by
  unfold Application.serve Http.serve
  by_cases preflight : request.method = "OPTIONS"
  · rw [if_pos preflight]
    exact .unchanged _
  · rw [if_neg preflight]
    change Authorized app request world
      (Http.headOnly request ((Http.ofReply _).withHeaders _)).status
      (app.run (Http.route app.settings request) world).2.memory
    rw [Http.headOnly_status]
    exact Justified.route app request world

end StatusPage
