import StatusPage.Proofs.RouterPrograms

/-!
Requests that are answered with an error. No program fails once it has changed the store: a change
is its last call that can fail. The one exception is the exchange of a refresh token, which takes
the old token out of the store before it knows whether there will be a new one.
-/

set_option autoImplicit false

namespace StatusPage

open Store (Memory Stamp)

/-- A call has succeeded that may have changed the store; the calls that are spared do not count. -/
def Op.Changes (spared : Store.Call → Prop) : (op : Op) → op.Answer → Prop
  | .store call, .ok _ => call.writes ≠ [] ∧ ¬spared call
  | _, _ => False

namespace Program

variable {α β : Type} {spared : Store.Call → Prop}

def EndsWell (good : α → Prop) : Program α → Prop
  | .done value => good value
  | .ask (.abort _) _ => False
  | .ask _ next => ∀ answer, (next answer).EndsWell good

/-- Once the program has changed the store, it comes to a good end. -/
def FailsClean (spared : Store.Call → Prop) (good : α → Prop) : Program α → Prop
  | .done _ => True
  | .ask op next => ∀ answer, (next answer).FailsClean spared good ∧
      (op.Changes spared answer → (next answer).EndsWell good)

theorem EndsWell.bind {good : β → Prop} {program : Program α} {next : α → Program β}
    (well : program.EndsWell fun value => (next value).EndsWell good) :
    (program.bind next).EndsWell good := by
  induction program with
  | done value => exact well
  | ask op rest ih =>
      cases op with
      | abort reason => exact well.elim
      | _ => exact fun answer => ih answer (well answer)

theorem FailsClean.bind {good : β → Prop} {program : Program α} {next : α → Program β}
    (clean : program.FailsClean spared fun value => (next value).EndsWell good)
    (later : ∀ value, (next value).FailsClean spared good) :
    (program.bind next).FailsClean spared good := by
  induction program with
  | done value => exact later value
  | ask op rest ih =>
    exact fun answer =>
      ⟨ih answer (clean answer).1, fun changed => ((clean answer).2 changed).bind⟩

theorem FailsClean.map {good : β → Prop} {program : Program α} {f : α → β}
    (clean : program.FailsClean spared fun value => good (f value)) :
    (program.bind fun value => .done (f value)).FailsClean spared good :=
  clean.bind fun _ => trivial

theorem FailsClean.of_reads {good : α → Prop} {program : Program α}
    (reads : program.Asks fun op => op.writes = false) : program.FailsClean spared good := by
  induction program with
  | done value => trivial
  | ask op next ih =>
      intro answer
      refine ⟨ih answer (reads.2 answer), fun changed => ?_⟩
      obtain ⟨quiet, -⟩ := reads
      unfold Op.Changes at changed
      split at changed
      · rename_i call _
        simp [Op.writes, changed.1] at quiet
      · exact changed.elim

theorem FailsClean.call {good : β → Prop} {call : Store.Call}
    {f : Except StoreError call.Result → β} (each : ∀ value, good (f (.ok value))) :
    (Program.ask (.store call) fun answer => .done (f answer)).FailsClean spared good := by
  intro answer
  refine ⟨trivial, fun changed => ?_⟩
  cases answer with
  | error e => exact changed.elim
  | ok value => exact each value

theorem Path.fails_clean {good : α → Prop} {program rest : Program α}
    {exchanges : List Exchange} (path : Path program exchanges rest)
    (clean : program.FailsClean spared good) (failed : ¬rest.EndsWell good) :
    ∀ exchange ∈ exchanges, ¬exchange.op.Changes spared exchange.answer := by
  have stays {program rest : Program α} {exchanges : List Exchange}
      (path : Path program exchanges rest) :
      program.EndsWell good → rest.EndsWell good := by
    induction path with
    | nil => exact id
    | @cons op next answer exchanges rest stamp _ ih =>
        intro well
        cases op with
        | abort reason => exact well.elim
        | _ => exact ih (well answer)
  induction path with
  | nil =>
      intro exchange member
      cases member
  | @cons op next answer exchanges rest stamp path ih =>
      intro exchange member
      rcases List.mem_cons.mp member with rfl | later
      · intro changed
        exact failed (stays path ((clean answer).2 changed))
      · exact ih (clean answer).1 failed exchange later

end Program

private theorem Exchange.effect_of_unchanged {exchange : Exchange} {memory : Memory}
    {spared : Store.Call → Prop} (honest : exchange.Honest memory)
    (unchanged : ¬exchange.op.Changes spared exchange.answer) :
    exchange.effect memory = memory ∨ ∃ call, exchange.op = .store call ∧ spared call := by
  obtain ⟨stamp, op, answer⟩ := exchange
  cases op with
  | store call =>
      cases answer with
      | error e => exact .inl (memory.perform_of_error stamp honest.symm)
      | ok value =>
          by_cases reads : call.writes = []
          · exact .inl (memory.perform_of_reads stamp reads)
          · right
            exact ⟨call, rfl, not_not.mp fun other => unchanged ⟨reads, other⟩⟩
  | _ => exact .inl rfl

/-! ### The services -/

section Services

variable {ε α : Type} {good : Except ε α → Prop} {spared : Store.Call → Prop}

private theorem notify_ends_well (good : Unit → Prop) (ok : good ()) (notices : Bool)
    (event : Event) (subject body : String) :
    (Events.notify notices event subject body).EndsWell good := by
  unfold Events.notify
  split
  · exact fun _ => ok
  · exact ok

private theorem notify_clean {good : Unit → Prop} (notices : Bool) (event : Event)
    (subject body : String) :
    (Events.notify notices event subject body).FailsClean spared good := by
  unfold Events.notify
  split
  · exact fun _ => ⟨trivial, False.elim⟩
  · trivial

private theorem create_clean {good : Except EventError Event → Prop}
    (ok : ∀ event, good (.ok event)) (notices : Bool) (createdBy : Uuid) (draft : EventDraft) :
    (Events.create notices createdBy draft).FailsClean spared good := by
  unfold Events.create
  cases classify draft.kind draft.status draft.severity with
  | error e => trivial
  | ok c =>
      dsimp -zeta only
      extract_lets new insert
      have inserting (found : Except EventError Unit) : (insert found).FailsClean spared good := by
        cases found with
        | error e => trivial
        | ok _ =>
            refine Program.FailsClean.bind (Program.FailsClean.call fun event => ?_) ?_
            · change Program.EndsWell good (if event.notify then _ else _)
              split
              · exact (notify_ends_well (fun _ => good (.ok event)) (ok event) _ _ _ _).bind
              · exact ok event
            · rintro (e | event)
              · trivial
              · change Program.FailsClean spared good (if event.notify then _ else _)
                split
                · exact (notify_clean _ _ _ _).map
                · trivial
      cases draft.templateId with
      | none => exact inserting (.ok ())
      | some id =>
          have reads :
              (Events.calling (.findTemplate id) (Events.templateMissing "loading template")).Asks
              fun op => op.writes = false := ⟨rfl, fun _ => trivial⟩
          exact (Program.FailsClean.of_reads reads).bind fun template => inserting (template.map _)

private theorem addUpdate_clean {good : Except EventError (Event × EventUpdate) → Prop}
    (ok : ∀ both, good (.ok both)) (notices : Bool) (eventId createdBy : Uuid)
    (draft : UpdateDraft) :
    (Events.addUpdate notices eventId createdBy draft).FailsClean spared good := by
  unfold Events.addUpdate
  have reads : (Events.get eventId).Asks fun op => op.writes = false := ⟨rfl, fun _ => trivial⟩
  refine (Program.FailsClean.of_reads reads).bind ?_
  rintro (e | event)
  · trivial
  · cases planned : planUpdate event.kind draft.status with
    | error e => simp only [planned]; trivial
    | ok change =>
        simp only [planned]
        refine Program.FailsClean.bind (Program.FailsClean.call fun both => ?_) ?_
        · change Program.EndsWell good (if both.2.notify then _ else _)
          split
          · exact (notify_ends_well (fun _ => good (.ok (both.1, both.2))) (ok _) _ _ _ _).bind
          · exact ok _
        · rintro (e | ⟨event, update⟩)
          · trivial
          · change Program.FailsClean spared good (if update.notify then _ else _)
            split
            · exact (notify_clean _ _ _ _).map
            · trivial

private theorem work_clean (work : EventRequest) {good : work.Result → Prop} (notices : Bool)
    (ok : ∀ result, work.outcome result = .ok () → good result) :
    (work.program notices).FailsClean spared good := by
  have reading (none : work.role = none) : (work.program notices).FailsClean spared good := by
    refine .of_reads ((work.program_asks notices).mono fun op asked => ?_)
    cases op with
    | store call =>
        rcases asked.role with nothing | ⟨-, some⟩
        · simp [Op.writes, nothing]
        · rw [none] at some
          cases some
    | _ => rfl
  cases work with
  | create createdBy draft =>
    exact create_clean (fun event => ok (.ok event) rfl) notices createdBy draft
  | addUpdate eventId createdBy draft =>
      exact addUpdate_clean (fun both => ok (.ok both) rfl) notices eventId createdBy draft
  | delete | deleteTemplate => exact .call fun value => ok (.ok value) rfl
  | createTemplate draft =>
      change (Events.createTemplate draft).FailsClean spared good
      unfold Events.createTemplate
      split
      · trivial
      · exact .call fun value => ok (.ok value) rfl
  | updateTemplate id edit =>
      change (Events.updateTemplate id edit).FailsClean spared good
      unfold Events.updateTemplate
      split
      · trivial
      · exact .call fun value => ok (.ok value) rfl
  | _ => exact reading rfl

private theorem register_clean {good : Except AuthError User → Prop}
    (ok : ∀ user, good (.ok user)) (request : Registration) :
    (Auth.register request).FailsClean spared good := by
  intro found
  refine ⟨?_, fun changed => ?_⟩
  · rcases found with (_ | _ | _) | user
    · intro hashed
      refine ⟨?_, False.elim⟩
      rcases hashed with text | hash
      · trivial
      · intro created
        refine ⟨?_, fun changed => ?_⟩
        · rcases created with (_ | _ | _) | _ <;> trivial
        · cases created with
          | error e => exact changed.elim
          | ok user => exact ok user
    · trivial
    · trivial
    · trivial
  · cases found with
    | error e => exact changed.elim
    | ok user => exact absurd rfl changed.1

private theorem generateTokens_clean {good : Except AuthError TokenPair → Prop}
    (ok : ∀ pair, good (.ok pair)) (settings : Auth.Settings) (user : User) :
    (Auth.generateTokens settings user).FailsClean spared good := by
  intro signed
  refine ⟨?_, False.elim⟩
  rcases signed with e | access
  · trivial
  · refine fun token => ⟨fun now => ⟨?_, False.elim⟩, False.elim⟩
    change ((Auth.daysFrom now settings.refreshDays).bind _).FailsClean spared good
    rcases Auth.daysFrom_cases now settings.refreshDays with ⟨-, later⟩ | ⟨-, reason, never⟩
    · rw [later]
      intro stored
      refine ⟨?_, fun changed => ?_⟩
      · cases stored <;> trivial
      · cases stored with
        | error e => exact changed.elim
        | ok row => exact ok _
    · rw [never]
      exact nofun

private theorem login_clean {good : Except AuthError (User × TokenPair) → Prop}
    (ok : ∀ both, good (.ok both)) (settings : Auth.Settings) (email password : String) :
    (Auth.login settings email password).FailsClean spared good := by
  intro found
  refine ⟨?_, fun changed => ?_⟩
  · rcases found with (_ | _ | _) | user
    · exact fun verified => ⟨trivial, False.elim⟩
    · trivial
    · trivial
    · intro verified
      refine ⟨?_, False.elim⟩
      rcases verified with text | _ | _
      · trivial
      · trivial
      · exact (generateTokens_clean (fun pair => ok (user, pair)) settings user).map
  · cases found with
    | error e => exact changed.elim
    | ok user => exact absurd rfl changed.1

/-- An exchange that fails has at most taken the old token out of the store. -/
theorem refresh_clean {good : Except AuthError TokenPair → Prop} (ok : ∀ pair, good (.ok pair))
    (settings : Auth.Settings) {token : String}
    (spares : spared (.takeRefreshToken (refreshDigest token))) :
    (Auth.refresh settings token).FailsClean spared good := by
  intro taken
  refine ⟨?_, fun changed => ?_⟩
  · rcases taken with (_ | _ | _) | row
    · trivial
    · trivial
    · trivial
    · intro now
      refine ⟨?_, False.elim⟩
      change Program.FailsClean spared good (if row.isExpired now then _ else _)
      split
      · trivial
      · intro found
        refine ⟨?_, fun changed => ?_⟩
        · rcases found with (_ | _ | _) | user
          · trivial
          · trivial
          · trivial
          · exact generateTokens_clean ok settings user
        · cases found with
          | error e => exact changed.elim
          | ok user => exact absurd rfl changed.1
  · cases taken with
    | error e => exact changed.elim
    | ok row => exact absurd spares changed.2

private theorem logout_clean {good : Except AuthError Unit → Prop} (ok : good (.ok ()))
    (token : String) :
    (Auth.logout token).FailsClean spared good := by
  intro deleted
  cases deleted with
  | error e => exact ⟨trivial, False.elim⟩
  | ok existed => exact ⟨trivial, fun _ => ok⟩

private theorem logoutAll_clean {good : Except AuthError Nat → Prop}
    (ok : ∀ count, good (.ok count)) (userId : Uuid) :
    (Auth.logoutAll userId).FailsClean spared good := by
  intro deleted
  cases deleted with
  | error e => exact ⟨trivial, False.elim⟩
  | ok count => exact ⟨trivial, fun _ => ok count⟩

/-! ### The router -/

/-- The call that takes the token which a request to exchange one presents. -/
def TakesPresented (request : Http.Request) (call : Store.Call) : Prop :=
  ∃ presented, request.Posts "refresh" ∧
    Http.readRecord PresentedToken.fields request = .ok presented ∧
    call = .takeRefreshToken (refreshDigest presented.token)

/-- The program for a request fails only before it has changed anything,
the token that it takes apart. -/
def FailsClean (request : Http.Request) (program : Program Http.Response) : Prop :=
  program.FailsClean (TakesPresented request) fun response => response.status < 400

private theorem authorize_clean {required : Option Role} {request : Http.Request}
    {next : Identity → Program Http.Response}
    (each : ∀ caller, FailsClean request (next caller)) :
    FailsClean request (Http.authorize required request >>= fun
      | .error response => return response
      | .ok caller => next caller) := by
  have reads : (Http.authorize required request).Asks fun op => op.writes = false := by
    refine (Http.authorize_asks required request).mono ?_
    rintro _ ⟨token, -, rfl⟩
    rfl
  refine Program.FailsClean.bind (.of_reads reads) ?_
  rintro (response | caller)
  · trivial
  · exact each caller

private theorem routeProperty_clean (settings : Http.Settings) (request : Http.Request) :
    Http.RouteProperty settings request (FailsClean request) (FailsClean request) where
  refused _ _ := trivial
  refusedBehind _ _ := trivial
  member _ each := authorize_clean each
  guarded _ _ _ each := authorize_clean each
  health := trivial
  readiness _ := by
    refine .of_reads ⟨rfl, fun answer => ?_⟩
    cases answer <;> trivial
  register registration := .map (register_clean (fun _ => (by decide : 201 < 400)) registration)
  login credentials := .map (login_clean (fun _ => (by decide : 200 < 400)) settings.auth _ _)
  refresh presented posted read :=
    .map (refresh_clean (fun _ => (by decide : 200 < 400)) settings.auth
      ⟨presented, posted, read, rfl⟩)
  logout presented := .map (logout_clean (by decide : 204 < 400) presented.token)
  logoutAll userId := .map (logoutAll_clean (fun _ => (by decide : 204 < 400)) userId)
  me userId := by
    refine .of_reads ⟨rfl, fun answer => ?_⟩
    rcases answer with (_ | _ | _) | _ <;> trivial
  showSubscription userId := .of_reads ⟨rfl, fun _ => trivial⟩
  subscribe userId choice := .map (.call fun _ => (by decide : 200 < 400))
  unsubscribe userId := .map (.call fun _ => (by decide : 204 < 400))
  recent limit := by
    refine .map (work_clean (.recent limit) settings.notices fun result ok => ?_)
    cases result with
    | error e => cases ok
    | ok events => exact (by decide : 200 < 400)
  work work write shows := .map (work_clean work settings.notices shows.accepted)

end Services

private theorem program_clean (settings : Http.Settings) (cors : Http.Cors)
    (incoming : Http.Incoming) :
    FailsClean incoming.request (Http.program settings cors incoming) := by
  unfold Http.program
  split
  · trivial
  · refine Program.FailsClean.map ?_
    simp only [Http.finish_status]
    exact (routeProperty_clean settings incoming.request).route

/-- In any run of requests to the router, in any order of their turns: the store calls of a request
that is answered with an error have changed nothing, each when it was made, except that a request to
exchange a refresh token may have removed what is stored for the token it presents. And no call of
the store that fails changes anything. -/
theorem errors_change_nothing (settings : Http.Settings) (cors : Http.Cors) (memory : Memory)
    (moves : List (Move (router settings cors))) {n : Nat} {response : Http.Response}
    (answered : (Run.after memory moves).response? n = some response)
    (failed : 400 ≤ response.status) :
    (∀ before entry after,
      (Run.after memory moves).log = before ++ entry :: after → entry.task = n →
      let reached := replay memory (before.map Entry.exchange)
      entry.exchange.effect reached = reached ∨
        ∃ presented, entry.request.request.Posts "refresh" ∧
          Http.readRecord PresentedToken.fields entry.request.request = .ok presented ∧
          entry.exchange.effect reached =
            reached.dropRefreshTokens fun token =>
              token.digest == refreshDigest presented.token) ∧
    ∀ (state : Memory) stamp call e, (state.perform stamp call).1 = .error e →
      (state.perform stamp call).2 = state := by
  refine ⟨?_, fun state stamp call e error => state.perform_of_error stamp error⟩
  rintro before ⟨m, incoming, exchange⟩ after split (mine : m = n)
  subst mine
  obtain ⟨incoming', rest, found, ended, path⟩ := response_path answered
  have bad : ¬Program.EndsWell (fun response : Http.Response => response.status < 400) rest := by
    rcases Http.ended_of_response ended with rfl | ⟨reason, next, rfl⟩
    · exact Nat.not_lt.mpr failed
    · exact id
  have logged : ⟨m, incoming, exchange⟩ ∈ (Run.after memory moves).log :=
    split ▸ List.mem_append_right _ List.mem_cons_self
  obtain ⟨_, owner⟩ := Run.log_owner memory moves _ logged
  cases found.symm.trans owner
  have unchanged : ¬exchange.op.Changes (TakesPresented incoming.request) exchange.answer :=
    path.fails_clean (program_clean settings cors incoming) bad exchange
      (Run.mem_view.mpr ⟨_, logged, rfl, rfl⟩)
  have honest : exchange.Honest (replay memory (before.map Entry.exchange)) :=
    Run.entry_honest split
  rcases Exchange.effect_of_unchanged honest unchanged with same | ⟨call, asked, presented,
    posted, read, rfl⟩
  · exact .inl same
  · obtain ⟨stamp, op, answer⟩ := exchange
    cases asked
    cases known :
      (replay memory (before.map Entry.exchange)).findRefreshToken
        (refreshDigest presented.token) with
    | none =>
        left
        simp only [Exchange.effect, Memory.perform, Memory.takeRefreshToken, known]
    | some row =>
        right
        refine ⟨presented, posted, read, ?_⟩
        simp only [Exchange.effect, Memory.perform, Memory.takeRefreshToken, known]

def lateMemory : Memory :=
  { Memory.empty with
    users := [⟨.ofNat 1, "ada@example.com", "hash", none, none, "user", ⟨0, 0⟩, ⟨0, 0⟩⟩]
    refreshTokens := [⟨.ofNat 2, .ofNat 1, refreshDigest "old", ⟨10, 0⟩, ⟨0, 0⟩⟩] }

/-- A request to exchange the token, answered while another request looks at the events. -/
def lateMoves : List (Move (router oneKey.settings oneKey.cors)) :=
  [.arrival ⟨⟨"POST", "/api/v1/auth/refresh".toList, [], [("content-type", "application/json")],
      Text.utf8 "\x7b\"refresh_token\":\"old\"\x7d"⟩, "first"⟩,
    .arrival ⟨⟨"GET", "/api/v1/status".toList, [], [], []⟩, "second"⟩,
    .turn 0 (.plain 20 3), .turn 1 (.plain 20 4), .turn 0 (.plain 20 5)]

theorem lateExchange_changes :
    ((Run.after lateMemory lateMoves).response? 0).map Http.Response.status = some 401 ∧
      (Run.after lateMemory lateMoves).memory.refreshTokens = [] ∧
      ∀ before entry after, (Run.after lateMemory lateMoves).log = before ++ entry :: after →
        entry.task = 0 →
        let reached := replay lateMemory (before.map Entry.exchange)
        entry.exchange.effect reached = reached ∨
          ∃ presented, entry.request.request.Posts "refresh" ∧
            Http.readRecord PresentedToken.fields entry.request.request = .ok presented ∧
            entry.exchange.effect reached =
              reached.dropRefreshTokens fun token =>
                token.digest == refreshDigest presented.token := by
  have refused : ((Run.after lateMemory lateMoves).response? 0).map Http.Response.status =
      some 401 := by
    decide +kernel
  have taken : (Run.after lateMemory lateMoves).memory.refreshTokens = [] := by decide +kernel
  obtain ⟨response, answered, status⟩ := Option.map_eq_some_iff.mp refused
  have bad : 400 ≤ response.status := by omega
  exact ⟨refused, taken,
    (errors_change_nothing oneKey.settings oneKey.cors lateMemory lateMoves answered bad).1⟩

end StatusPage
