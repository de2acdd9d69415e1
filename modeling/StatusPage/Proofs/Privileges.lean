import StatusPage.Proofs.Authority
import StatusPage.Proofs.IssuedTokens

/-!
Roles are not gained by requests. New accounts are those of plain users, tokens carry the roles that
are stored, and whoever brings no token of an operator comes no further than the check of the
caller. So where nobody is an operator, nobody becomes one, and no event and no template is touched.
-/

set_option autoImplicit false

namespace StatusPage

open Store (Memory Stamp)
open Auth (Keyring)

namespace Program

variable {α β : Type} {trusted : (op : Op) → op.Answer → Prop} {allowed wider : Op → Prop}
  {good : α → Prop}

/-- As long as the answers can be trusted, the program asks only what is allowed,
and it comes to a good end. -/
def Within (trusted : (op : Op) → op.Answer → Prop) (allowed : Op → Prop)
    (good : α → Prop) : Program α → Prop
  | .done value => good value
  | .ask op next =>
    allowed op ∧ ∀ answer, trusted op answer → (next answer).Within trusted allowed good

theorem Within.bind {program : Program α} {next : α → Program β} {ends : β → Prop}
    (within : program.Within trusted allowed good)
    (later : ∀ value, good value → (next value).Within trusted allowed ends) :
    (program.bind next).Within trusted allowed ends := by
  induction program with
  | done value => exact later value within
  | ask op rest ih => exact ⟨within.1, fun answer trust => ih answer (within.2 answer trust)⟩

theorem Within.mono {program : Program α} (within : program.Within trusted allowed good)
    (implies : ∀ op, allowed op → wider op) : program.Within trusted wider good := by
  induction program with
  | done value => exact within
  | ask op rest ih =>
    exact ⟨implies op within.1, fun answer trust => ih answer (within.2 answer trust)⟩

theorem Within.of_asks {program : Program α} (asks : program.Asks allowed) :
    program.Within trusted allowed fun _ => True := by
  induction program with
  | done value => trivial
  | ask op next ih => exact ⟨asks.1, fun answer _ => ih answer (asks.2 answer)⟩

theorem Path.within {program rest : Program α} {exchanges : List Exchange}
    (path : Path program exchanges rest) (within : program.Within trusted allowed good)
    (trust : ∀ exchange ∈ exchanges, trusted exchange.op exchange.answer) :
    rest.Within trusted allowed good := by
  induction path with
  | nil => exact within
  | cons stamp _ ih =>
      have first := trust _ List.mem_cons_self
      exact ih (within.2 _ first) fun exchange later =>
        trust exchange (List.mem_cons_of_mem _ later)

private theorem Path.asked_within {program rest : Program α} {exchanges : List Exchange}
    (path : Path program exchanges rest) (within : program.Within trusted allowed good)
    (trust : ∀ exchange ∈ exchanges, trusted exchange.op exchange.answer) :
    ∀ exchange ∈ exchanges, allowed exchange.op := by
  intro exchange member
  obtain ⟨first, last, rfl⟩ := List.append_of_mem member
  obtain ⟨next, before, -⟩ := path.split
  have waiting :=
    before.within within fun earlier past => trust earlier (List.mem_append_left _ past)
  exact waiting.1

end Program

/-! ### Programs for callers of low rank -/

def LowCaller : (op : Op) → op.Answer → Prop
  | .verify _, .ok caller => Role.rankOf caller.role < Role.operator.rank
  | _, _ => True

/-- What may be asked for a request that shows no authority over events and templates. -/
def Op.Modest (request : Http.Request) : Op → Prop
  | .verify token => Http.Bears request token
  | .store (.createUser new) => new.role = .user
  | .store call => call.role = none
  | _ => True

/-- The program for a request shows no authority, as long as no caller has one. -/
def Modest (request : Http.Request) (program : Program Http.Response) : Prop :=
  program.Within LowCaller (Op.Modest request) fun _ => True

def TurnedAway (response : Http.Response) : Prop := response.status = 401 ∨ response.status = 403

namespace Http

private theorem authorize_low (role : Role) (high : Role.operator.rank ≤ role.rank)
    (request : Request) :
    (authorize (some role) request).Within LowCaller (fun op => ∃ token,
      Bears request token ∧ op = .verify token)
      fun result => ∃ response, result = .error response ∧ TurnedAway response := by
  rcases authorize_cases (some role) request with
    ⟨response, refused, rfl⟩ | ⟨token, bears, asking⟩
  · rw [refused]
    exact ⟨_, rfl, .inl (nobody_status _)⟩
  · rw [asking]
    refine ⟨⟨token, bears, rfl⟩, fun verdict low => ?_⟩
    change ∃ response,
      check (fun _ => verdict) (some role) (request.asciiHeader? "authorization") =
      .error response ∧ _
    rw [check_of_bears bears]
    cases verdict with
    | error e => exact ⟨_, rfl, .inl rfl⟩
    | ok caller =>
        have small : Role.rankOf caller.role < Role.operator.rank := low
        have refused : ¬Role.permits caller.role role := by
          rw [Role.permits, decide_eq_true_eq]
          omega
        exact ⟨outranked role, if_neg refused, .inr rfl⟩

end Http

section Programs

variable {request : Http.Request}

private theorem Op.modest_of_verify {op : Op}
    (verifies : ∃ token, Http.Bears request token ∧ op = .verify token) :
    op.Modest request := by
  obtain ⟨token, bears, rfl⟩ := verifies
  exact bears

/-- No program for accounts and sessions shows authority. That of a check is
not meant to run on its own. -/
theorem AuthRequest.MayAsk.modest {auth : AuthRequest} {op : Op} (asked : auth.MayAsk op)
    (other : ∀ token, auth ≠ .validate token) : op.Modest request := by
  cases asked with
  | validate => exact absurd rfl (other _)
  | sign | generate | look | giveUp | hash | compare => trivial
  | _ => exact rfl

private theorem modest_map {α : Type} {program : Program α} {write : α → Http.Response}
    (asks : program.Asks (Op.Modest request)) :
    Modest request (program.bind fun a => .done (write a)) :=
  .of_asks (asks.bind fun _ => trivial)

private theorem modest_auth (settings : Auth.Settings) (auth : AuthRequest)
    {write : auth.Result → Http.Response} (other : ∀ token, auth ≠ .validate token) :
    Modest request ((auth.program settings).bind fun a => .done (write a)) :=
  modest_map ((auth.program_asks settings).mono fun _ asked => asked.modest other)

/-- What is behind a check for operators is out of reach, whatever it is. -/
theorem routeProperty_modest (settings : Http.Settings) (request : Http.Request) :
    Http.RouteProperty settings request (Modest request) fun _ => True where
  refused _ _ := trivial
  refusedBehind _ _ := trivial
  member next each := by
    refine .bind (.of_asks ((Http.authorize_asks none request).mono fun _ =>
      Op.modest_of_verify)) ?_
    rintro (response | caller) -
    · trivial
    · exact each caller
  guarded role high next _ := by
    refine .bind ((Http.authorize_low role high request).mono fun _ => Op.modest_of_verify) ?_
    rintro _ ⟨response, rfl, -⟩
    trivial
  health := trivial
  readiness _ := by
    refine ⟨rfl, fun answer _ => ?_⟩
    cases answer <;> trivial
  register registration := modest_auth settings.auth (.register registration) nofun
  login credentials :=
  modest_auth settings.auth (.login credentials.email credentials.password) nofun
  refresh presented _ _ := modest_auth settings.auth (.refresh presented.token) nofun
  logout presented := modest_auth settings.auth (.logout presented.token) nofun
  logoutAll userId := modest_auth settings.auth (.logoutAll userId) nofun
  me userId := modest_auth settings.auth (.getUser userId) nofun
  showSubscription _ := modest_map ⟨rfl, fun _ => trivial⟩
  subscribe _ _ := modest_map ⟨rfl, fun _ => trivial⟩
  unsubscribe _ := modest_map ⟨rfl, fun _ => trivial⟩
  recent limit := by
    refine modest_map ((EventRequest.program_asks settings.notices (.recent limit)).mono ?_)
    rintro _ ⟨filter⟩
    rfl
  work _ _ _ := trivial

private theorem program_modest (settings : Http.Settings) (cors : Http.Cors)
    (incoming : Http.Incoming) :
    Modest incoming.request (Http.program settings cors incoming) := by
  unfold Http.program
  split
  · trivial
  · exact Program.Within.bind (routeProperty_modest settings incoming.request).route
      fun _ _ => trivial

def Http.Request.Reaches (request : Http.Request) (endpoint : Http.Endpoint) : Prop :=
  ∃ found captured, (Http.segments request.path).bind Http.findRoute = some (found, captured) ∧
    found.endpoint? request.method = some endpoint

private theorem serve_reserved (settings : Http.Settings) (captured : List (List Char))
    (request : Http.Request) {endpoint : Http.Endpoint} {role : Role}
    (guarded : endpoint.guarded = some (some role)) :
    (endpoint.serve settings captured request).Within LowCaller
      (fun op => ∃ token, Http.Bears request token ∧ op = .verify token) TurnedAway := by
  cases endpoint with
  | everybody endpoint => cases guarded
  | member endpoint => cases guarded
  | operator endpoint =>
      refine (Http.authorize_low .operator (by decide) request).bind ?_
      rintro _ ⟨response, rfl, away⟩
      exact away
  | admin endpoint =>
      refine (Http.authorize_low .admin (by decide) request).bind ?_
      rintro _ ⟨response, rfl, away⟩
      exact away

private theorem program_reserved (settings : Http.Settings) (cors : Http.Cors)
    {incoming : Http.Incoming} {endpoint : Http.Endpoint} {role : Role}
    (reaches : incoming.request.Reaches endpoint) (guarded : endpoint.guarded = some (some role)) :
    (Http.program settings cors incoming).Within LowCaller
      (fun op => ∃ token, Http.Bears incoming.request token ∧ op = .verify token)
      TurnedAway := by
  obtain ⟨found, captured, reached, chosen⟩ := reaches
  obtain ⟨segments, -, located⟩ := Option.bind_eq_some_iff.mp reached
  unfold Http.program
  rw [if_neg (Application.endpoint_method located chosen), Http.route_eq settings reached chosen]
  apply (serve_reserved settings captured incoming.request guarded).bind
  intro response away
  change TurnedAway (Http.finish cors incoming response)
  rw [TurnedAway, Http.finish_status]
  exact away

end Programs

/-! ### What becomes of the store -/

/-- Nobody stored ranks as an operator, and events and templates are those that there were first. -/
structure Store.Memory.Untouched (first memory : Memory) : Prop where
  low : ∀ user ∈ memory.users, Role.rankOf user.role < Role.operator.rank
  events : memory.events = first.events
  updates : memory.updates = first.updates
  templates : memory.templates = first.templates

theorem Store.Memory.Untouched.effect {first memory : Memory} {request : Http.Request}
    {exchange : Exchange} (untouched : first.Untouched memory)
    (modest : exchange.op.Modest request) :
    first.Untouched (exchange.effect memory) := by
  obtain ⟨stamp, op, answer⟩ := exchange
  cases op with
  | store call =>
      have frame := memory.perform_unchanged stamp call
      cases call with
      | createUser new =>
          have least : new.role = .user := modest
          refine ⟨fun user present => ?_, ?_, ?_, ?_⟩
          · change user ∈ (memory.perform stamp (.createUser new)).2.users at present
            rcases Memory.createUser_users memory stamp new with same | ⟨made, more, named⟩
            · rw [same] at present
              exact untouched.low user present
            · rw [more] at present
              rcases List.mem_cons.mp present with rfl | old
              · rw [named, least]
                decide
              · exact untouched.low user old
          · exact (frame.events (by simp [Store.Call.writes])).trans untouched.events
          · exact (frame.updates (by simp [Store.Call.writes])).trans untouched.updates
          · exact (frame.templates (by simp [Store.Call.writes])).trans untouched.templates
      | createEvent | recordUpdate | deleteEvent | createTemplate | updateTemplate
      | deleteTemplate => cases modest
      | _ =>
          constructor
          · exact (frame.users (by simp [Store.Call.writes])).symm ▸ untouched.low
          · exact (frame.events (by simp [Store.Call.writes])).trans untouched.events
          · exact (frame.updates (by simp [Store.Call.writes])).trans untouched.updates
          · exact (frame.templates (by simp [Store.Call.writes])).trans untouched.templates
  | _ => exact untouched

/-! ### Runs -/

section Runs

variable {settings : Http.Settings} {cors : Http.Cors} {keyring : Keyring} {memory : Memory}
  {moves : List (Move (router settings cors))}

/-- Whenever a request gets an answer, the token that it brings has been returned before, or it is
not accepted. -/
def BringsOwnTokens (keyring : Keyring) (memory : Memory)
    (moves : List (Move (router settings cors))) : Prop :=
  ∀ earlier n moment later, moves = earlier ++ .turn n moment :: later →
    ∀ task token, (Run.after memory earlier).tasks[n]? = some task →
      Http.Bears task.request.request token →
      token ∈ (Run.after memory earlier).returned ∨
        ∀ caller, keyring.verify moment.stamp.now.seconds token ≠ .ok caller

theorem BringsOwnTokens.before {earlier later : List (Move (router settings cors))}
    (own : BringsOwnTokens keyring memory (earlier ++ later)) :
    BringsOwnTokens keyring memory earlier := by
  intro first n moment rest split
  apply own first n moment (rest ++ later)
  rw [split, List.append_assoc, List.cons_append]

/-- No answer in a run has said that a caller ranks as an operator. -/
def Run.LowCallers (run : Run (router settings cors)) : Prop :=
  ∀ exchange ∈ run.exchanges, LowCaller exchange.op exchange.answer

theorem Run.LowCallers.view {run : Run (router settings cors)} (low : run.LowCallers) (n : Nat) :
    ∀ exchange ∈ run.view n, LowCaller exchange.op exchange.answer :=
  fun exchange member => low exchange (Run.mem_exchanges member)

private theorem untouched_of_lowCallers (start : memory.Untouched memory)
    (low : (Run.after memory moves).LowCallers) :
    memory.Untouched (Run.after memory moves).memory := by
  rw [← (Run.replay_exchanges memory moves).1]
  refine replay_keeps memory.Untouched start fun exchange member reached untouched => ?_
  obtain ⟨entry, logged, rfl⟩ := List.mem_map.mp member
  obtain ⟨rest, owner⟩ := Run.log_owner memory moves entry logged
  have path := Run.view_path memory moves entry.task _ owner
  have modest :=
    path.asked_within (program_modest settings cors entry.request) (low.view entry.task)
  exact untouched.effect (modest entry.exchange (Run.mem_view.mpr ⟨entry, logged, rfl, rfl⟩))

/-- A token is accepted only for someone who is stored, and so for
nobody who ranks as an operator. -/
theorem lowCallers (start : memory.Untouched memory)
    (keyed : ∀ n moment, .turn n moment ∈ moves → moment.UsesKeys keyring)
    (own : BringsOwnTokens keyring memory moves) : (Run.after memory moves).LowCallers := by
  induction size : moves.length using Nat.strong_induction_on generalizing moves with
  | h count ih =>
      intro exchange member
      obtain ⟨⟨n, incoming, stamp, op, answer⟩, logged, rfl⟩ := List.mem_map.mp member
      obtain ⟨earlier, moment, later, next, reached, rfl, found, -, answered⟩ :=
        Run.entry_turn logged
      cases op with
      | verify token =>
          cases answer with
          | error e => trivial
          | ok caller =>
              have shorter : earlier.length < count := by
                rw [← size, List.length_append, List.length_cons]
                omega
              have keyedBefore : ∀ n moment, .turn n moment ∈ earlier →
                  moment.UsesKeys keyring :=
                fun n moment turn => keyed n moment (List.mem_append_left _ turn)
              have low := ih earlier.length shorter keyedBefore own.before rfl
              have keys := keyed n moment (List.mem_append_right _ List.mem_cons_self)
              have accepted : keyring.verify moment.stamp.now.seconds token = .ok caller := by
                rw [← keys.verifies]
                exact Reply.value.inj (congrArg Prod.fst answered)
              have path := Run.view_path memory earlier n _ found
              have bears : Http.Bears incoming.request token :=
                (path.within (program_modest settings cors incoming) (low.view n)).1
              rcases own earlier n moment later rfl _ token found bears with returned | refused
              · obtain ⟨user, present, issued, tokenId, time, rfl⟩ :=
                  returned_signed keyedBefore returned
                rw [Keyring.identity_of_sign time accepted]
                exact (untouched_of_lowCallers start low).low user present
              · exact absurd accepted (refused caller)
      | _ => trivial

end Runs

structure WithoutOperators {settings : Http.Settings} {cors : Http.Cors} (keyring : Keyring)
    (memory : Memory) (moves : List (Move (router settings cors))) : Prop where
  /-- Every token that has been returned is, as long as it lasts, accepted for someone who is
  stored, with the role that is stored. -/
  tokens : ∀ token ∈ (Run.after memory moves).returned,
    ∃ user ∈ (Run.after memory moves).memory.users,
    ∃ issued tokenId, token = (keyring.sign issued tokenId ⟨user.id, user.role⟩).1 ∧
      ∀ now, 0 ≤ now → now ≤ Auth.wrap64 (issued + keyring.lifetime) →
        keyring.verify now token = .ok ⟨user.id, user.role⟩
  /-- Every request for what is reserved for operators or admins is turned away. -/
  reserved : ∀ (n : Nat) task response endpoint role,
    (Run.after memory moves).tasks[n]? = some task →
    (Run.after memory moves).response? n = some response →
    task.request.request.Reaches endpoint →
    endpoint.guarded = some (some role) → TurnedAway response
  /-- At no time has anything been done to events and templates, and
  nobody has become an operator. -/
  untouched : ∀ earlier later, moves = earlier ++ later →
    memory.Untouched (Run.after memory earlier).memory

/-- Where nobody is an operator at first, nobody becomes one by any run of requests that bring no
tokens but those that they have been given. -/
theorem privileges_not_gained {settings : Http.Settings} {cors : Http.Cors} {keyring : Keyring}
    {memory : Memory} {moves : List (Move (router settings cors))}
    (low : ∀ user ∈ memory.users, Role.rankOf user.role < Role.operator.rank)
    (keyed : ∀ n moment, .turn n moment ∈ moves → moment.UsesKeys keyring)
    (own : BringsOwnTokens keyring memory moves) : WithoutOperators keyring memory moves := by
  have start : memory.Untouched memory := ⟨low, rfl, rfl, rfl⟩
  constructor
  · intro token returned
    obtain ⟨user, present, issued, tokenId, time, rfl⟩ := returned_signed keyed returned
    refine ⟨user, present, issued, tokenId, rfl, fun now first last => ?_⟩
    have ends : 0 ≤ Auth.wrap64 (issued + keyring.lifetime) := Int.le_trans first last
    rw [keyring.verify_sign tokenId _ time ends now, if_neg (by omega)]
  · intro n task response endpoint role found answered reaches guarded
    obtain ⟨incoming, rest, found', ended, path⟩ := response_path answered
    cases found.symm.trans found'
    have callers := lowCallers start keyed own
    have turned := path.within (program_reserved settings cors reaches guarded) (callers.view n)
    rcases Http.ended_of_response ended with rfl | ⟨reason, next, rfl⟩
    · cases ended
      exact turned
    · obtain ⟨⟨token, -, impossible⟩, -⟩ := turned
      cases impossible
  · rintro earlier later rfl
    have keyedBefore : ∀ n moment, .turn n moment ∈ earlier → moment.UsesKeys keyring :=
      fun n moment turn => keyed n moment (List.mem_append_left _ turn)
    exact untouched_of_lowCallers start (lowCallers start keyedBefore own.before)

/-- A second at which tokens are signed and verified with a keyring, and at
which everything else succeeds. -/
def Moment.keyed (keyring : Keyring) (second : Int) (id : Nat) : Moment :=
  { Moment.plain second id with
    sign := fun identity => .ok (keyring.sign second "token" identity)
    verify := keyring.verify second }

private theorem Moment.keyed_usesKeys (keyring : Keyring) {second : Int} (id : Nat)
    (inRange : Time.Instant.InRange ⟨second, 0⟩) :
    (Moment.keyed keyring second id).UsesKeys keyring where
  inRange := inRange
  signs _ _ signed := ⟨"token", (Except.ok.inj signed).symm⟩
  verifies := rfl

def plainMemory : Memory :=
  { Memory.empty with
    users :=
      [⟨.ofNat 1, "ada@example.com", "secret", none, none, "user", ⟨0, 0⟩, ⟨0, 0⟩⟩] }

def signingIn : List (Move (router oneKey.settings oneKey.cors)) :=
  .arrival ⟨⟨"POST", "/api/v1/auth/login".toList, [], [("content-type", "application/json")],
      Text.utf8 "\x7b\"email\":\"ada@example.com\",\"password\":\"secret\"\x7d"⟩, "first"⟩ ::
    [1, 2, 3, 4, 5, 6].map fun k : Nat => .turn 0 (.keyed oneKey.keyring k k)

def plainToken : String := (Run.after plainMemory signingIn).returned.headD ""

def listingEvents : Http.Incoming :=
  ⟨⟨"GET", "/api/v1/events".toList, [], [("authorization", "Bearer " ++ plainToken)], []⟩,
    "second"⟩

def lookingAround : List (Move (router oneKey.settings oneKey.cors)) :=
  signingIn ++ [.arrival listingEvents, .turn 1 (.keyed oneKey.keyring 7 7)]

private theorem keyed_lookingAround :
    ∀ n moment, .turn n moment ∈ lookingAround → moment.UsesKeys oneKey.keyring := by
  have keyed : ∀ k : Nat, k < 8 →
      (Moment.keyed oneKey.keyring k k).UsesKeys oneKey.keyring := by
    intro k early
    have calendar : Time.Instant.firstSecond ≤ 0 ∧ 8 ≤ Time.Instant.lastSecond := by
      decide +kernel
    apply Moment.keyed_usesKeys
    constructor
    · exact Int.le_trans calendar.1 (Int.natCast_nonneg k)
    · have last : (k : Int) ≤ 8 := by omega
      exact Int.le_trans last calendar.2
  intro n moment turn
  rcases List.mem_append.mp turn with first | second
  · rcases List.mem_cons.mp first with arrival | turn
    · cases arrival
    · obtain ⟨k, listed, same⟩ := List.mem_map.mp turn
      cases same
      have early : ∀ k ∈ [1, 2, 3, 4, 5, 6], k < 8 := by decide
      exact keyed k (early k listed)
  · rcases List.mem_cons.mp second with arrival | turn
    · cases arrival
    · cases List.mem_singleton.mp turn
      exact keyed 7 (by decide)

private theorem plainToken_returned :
    (Run.after plainMemory signingIn).returned = [plainToken] := by
  have one : (Run.after plainMemory signingIn).returned.length = 1 := by decide +kernel
  obtain ⟨token, only⟩ := List.length_eq_one_iff.mp one
  rw [plainToken, only, List.headD_cons]

private theorem listingEvents_bears : Http.Bears listingEvents.request plainToken := by
  have returned : plainToken ∈ (Run.after plainMemory signingIn).returned := by
    rw [plainToken_returned]
    exact List.mem_singleton_self _
  have keyed : ∀ n moment, .turn n moment ∈ signingIn → moment.UsesKeys oneKey.keyring :=
    fun n moment turn => keyed_lookingAround n moment (List.mem_append_left _ turn)
  have header : listingEvents.request.header? "authorization" = some ("Bearer " ++ plainToken) :=
    rfl
  obtain ⟨user, -, issued, tokenId, -, signed⟩ := returned_signed keyed returned
  rw [signed] at header ⊢
  exact Http.bears_signed header

private theorem own_lookingAround : BringsOwnTokens oneKey.keyring plainMemory lookingAround := by
  intro earlier n moment later split task token found bears
  have arrived : (earlier.filterMap Move.arrived)[n]? = some task.request := by
    rw [← Run.tasks_arrived plainMemory earlier, List.getElem?_map, found]
    rfl
  have among : (lookingAround.filterMap Move.arrived)[n]? = some task.request := by
    have within := (List.getElem?_eq_some_iff.mp arrived).1
    rw [split, List.filterMap_append, List.getElem?_append_left within, arrived]
  match n with
  | 0 =>
      -- Whoever logs in brings no token.
      have request := Option.some.inj among
      obtain ⟨header, present, -⟩ := bears
      rw [← request] at present
      cases present
  | 1 =>
      have request := Option.some.inj among
      rw [← request] at bears
      cases bears.unique listingEvents_bears
      rcases List.append_eq_append_iff.mp split
        with ⟨middle, rfl, rest⟩ | ⟨middle, whole, rest⟩
      · cases middle with
        | nil => cases rest
        | cons first middle =>
            obtain ⟨rfl, rest⟩ := List.cons.inj rest
            cases middle with
            | nil =>
                left
                rw [Run.after_concat]
                apply Run.returned_arrive
                rw [plainToken_returned]
                exact List.mem_singleton_self _
            | cons second middle =>
                have sizes := congrArg List.length rest
                simp at sizes
      · cases middle with
        | nil => cases rest
        | cons first middle =>
            obtain ⟨rfl, -⟩ := List.cons.inj rest
            have turn : .turn 1 moment ∈ signingIn :=
              whole ▸ List.mem_append_right _ List.mem_cons_self
            simp [signingIn] at turn
  | n + 2 => cases among

theorem lookingAround_withoutOperators :
    (Run.after plainMemory signingIn).returned = [plainToken] ∧
    Http.Bears listingEvents.request plainToken ∧
      WithoutOperators oneKey.keyring plainMemory lookingAround := by
  have low : ∀ user ∈ plainMemory.users, Role.rankOf user.role < Role.operator.rank := by decide
  exact ⟨plainToken_returned, listingEvents_bears,
    privileges_not_gained low keyed_lookingAround own_lookingAround⟩

end StatusPage
