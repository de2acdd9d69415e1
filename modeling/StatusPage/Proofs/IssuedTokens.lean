import StatusPage.Proofs.Logins
import StatusPage.Proofs.RouterPrograms
import StatusPage.Proofs.SignedTokens

/-!
Where access tokens come from. A request that hands one out has looked up an account and has had the
token signed for it, with the role that is stored there. So what the token says, as long as it
lasts, is what is stored of its owner.
-/

set_option autoImplicit false

namespace StatusPage

open Store (Memory Stamp)
open Auth (Keyring)
open Text (Base64Alphabet)

namespace Exchange

def loaded : Exchange → Option User
  | ⟨_, .store (.findUserByEmail _), .ok user⟩ => some user
  | ⟨_, .store (.findUserById _), .ok user⟩ => some user
  | _ => none

private theorem loaded_present {exchange : Exchange} {memory : Memory} {user : User}
    (honest : exchange.Honest memory) (loaded : exchange.loaded = some user) :
    user ∈ memory.users := by
  unfold Exchange.loaded at loaded
  split at loaded
  · cases loaded
    exact (email_found honest).1
  · cases loaded
    exact (found_present honest).1
  · cases loaded

end Exchange

/-! ### One request -/

def SignedFor (exchanges : List Exchange) (token : String) : Prop :=
  ∃ user lookup stamp expiresIn, lookup ∈ exchanges ∧ lookup.loaded = some user ∧
    ⟨stamp, .sign ⟨user.id, user.role⟩, .ok (token, expiresIn)⟩ ∈ exchanges

theorem SignedFor.mono {fewer more : List Exchange} {token : String}
    (signed : SignedFor fewer token) (subset : fewer ⊆ more) : SignedFor more token := by
  obtain ⟨user, lookup, stamp, expiresIn, found, loaded, signing⟩ := signed
  exact ⟨user, lookup, stamp, expiresIn, subset found, loaded, subset signing⟩

/-- Every token that the program hands out has been signed for an account
that the program has looked up. -/
def HandsOutSigned (program : Program Http.Response) : Prop :=
  ∀ exchanges response, program.Path exchanges (.done response) →
    ∀ token ∈ response.body.accessTokens, SignedFor exchanges token

section Programs

variable {α : Type}

private theorem handsOut_done {response : Http.Response}
    (tokenless : response.body.accessTokens = []) :
    HandsOutSigned (.done response) := by
  intro exchanges other path token handed
  obtain ⟨-, ⟨⟩⟩ := path.of_done
  rw [tokenless] at handed
  cases handed

private theorem handsOut_map {program : Program α} {write : α → Http.Response}
    (tokenless : ∀ a, (write a).body.accessTokens = []) :
    HandsOutSigned (program.bind fun a => .done (write a)) := by
  intro exchanges response path token handed
  obtain ⟨a, -, rfl⟩ := path.of_map
  rw [tokenless] at handed
  cases handed

theorem TokensTranscript.signed {user : User} {exchanges : List Exchange} {pair : TokenPair}
    (transcript : TokensTranscript user exchanges (.ok pair)) :
    ∃ stamp, ⟨stamp, .sign ⟨user.id, user.role⟩,
      .ok (pair.accessToken, pair.expiresIn)⟩ ∈ exchanges := by
  cases transcript with
  | issued s₁ s₂ s₃ s₄ access token now expiresAt row =>
    exact ⟨s₁, List.mem_cons_self⟩

private theorem handsOut_login (settings : Auth.Settings) (email password : String) :
    HandsOutSigned ((Auth.login settings email password).bind fun result =>
      .done (Http.respondAuth (fun login => .data 200 (loginJson login)) result)) := by
  intro exchanges response path token handed
  obtain ⟨result, login, rfl⟩ := path.of_map
  rcases result with e | ⟨user, pair⟩
  · cases handed
  · have only : token = pair.accessToken := List.mem_singleton.mp handed
    subst only
    have transcript := loginTranscript login
    generalize outcome : Except.ok (user, pair) = result at transcript
    cases transcript with
    | right s₁ s₂ known exchanges result tokens =>
        cases result with
        | error e => cases outcome
        | ok made =>
            cases outcome
            obtain ⟨stamp, signing⟩ := tokens.signed
            refine ⟨user, _, stamp, pair.expiresIn, List.mem_cons_self, rfl, ?_⟩
            exact List.mem_cons_of_mem _ (List.mem_cons_of_mem _ signing)
    | _ => cases outcome

private theorem handsOut_refresh (settings : Auth.Settings) (presented : String) :
    HandsOutSigned ((Auth.refresh settings presented).bind fun result =>
      .done (Http.respondAuth (fun tokens => .data 200 tokens.toJson) result)) := by
  intro exchanges response path token handed
  obtain ⟨result, refresh, rfl⟩ := path.of_map
  rcases result with e | pair
  · cases handed
  · have only : token = pair.accessToken := List.mem_singleton.mp handed
    subst only
    have transcript := refreshTranscript refresh
    generalize outcome : Except.ok pair = result at transcript
    cases transcript with
    | owned s₁ s₂ s₃ row now valid user exchanges result tokens =>
        subst outcome
        obtain ⟨stamp, signing⟩ := tokens.signed
        refine ⟨user, ⟨s₃, .store (.findUserById row.userId), .ok user⟩, stamp,
          pair.expiresIn, ?_, rfl, ?_⟩
        · simp
        · simp [signing]
    | _ => cases outcome

private theorem handsOut_authorize {required : Option Role} {request : Http.Request}
    {next : Identity → Program Http.Response} (each : ∀ caller, HandsOutSigned (next caller)) :
    HandsOutSigned (Http.authorize required request >>= fun
      | .error response => return response
      | .ok caller => next caller) := by
  intro exchanges response path token handed
  obtain ⟨first, last, verdict, rfl, checking, going⟩ := path.of_bind
  cases verdict with
  | ok caller =>
    exact (each caller last response going token handed).mono (List.subset_append_right first last)
  | error refusal =>
      obtain ⟨-, ⟨⟩⟩ := going.of_done
      have refused : response.body.accessTokens = [] := by
        rcases Http.authorize_refused checking with rfl | ⟨role, -, rfl⟩
        · exact Http.nobody_tokenless _
        · rfl
      rw [refused] at handed
      cases handed

private theorem routeProperty_handsOut (settings : Http.Settings) (request : Http.Request) :
    Http.RouteProperty settings request HandsOutSigned HandsOutSigned where
  refused _ refusal := handsOut_done refusal.tokenless
  refusedBehind _ refusal := handsOut_done refusal.tokenless
  member _ each := handsOut_authorize each
  guarded _ _ _ each := handsOut_authorize each
  health := handsOut_done rfl
  readiness _ := by
    intro exchanges response path token handed
    obtain ⟨stamp, answer, later, -, answered⟩ := path.ended
    cases answer <;> obtain ⟨-, ⟨⟩⟩ := answered.of_done <;> cases handed
  register _ := handsOut_map fun result => by cases result <;> rfl
  login credentials := handsOut_login settings.auth credentials.email credentials.password
  refresh presented _ _ := handsOut_refresh settings.auth presented.token
  logout _ := handsOut_map fun result => by cases result <;> rfl
  logoutAll _ := handsOut_map fun result => by cases result <;> rfl
  me _ := handsOut_map fun result => by cases result <;> rfl
  showSubscription _ := handsOut_map fun result => by cases result <;> rfl
  subscribe _ _ := handsOut_map fun result => by cases result <;> rfl
  unsubscribe _ := handsOut_map fun result => by cases result <;> rfl
  recent _ := handsOut_map fun result => by cases result <;> rfl
  work _ _ shows := handsOut_map shows.tokenless

end Programs

private theorem accessTokens_of_finish {cors : Http.Cors} {incoming : Http.Incoming}
    {response : Http.Response} {token : String}
    (handed : token ∈ (Http.finish cors incoming response).body.accessTokens) :
    token ∈ response.body.accessTokens := by
  rw [Http.finish_body] at handed
  split at handed
  · cases handed
  · exact handed

private theorem program_handsOut (settings : Http.Settings) (cors : Http.Cors)
    (incoming : Http.Incoming) :
    HandsOutSigned (Http.program settings cors incoming) := by
  unfold Http.program
  split
  · exact handsOut_done rfl
  · intro exchanges response path token handed
    obtain ⟨routed, route, rfl⟩ := path.of_map
    have property := routeProperty_handsOut settings incoming.request
    exact property.route exchanges routed route token (accessTokens_of_finish handed)

/-! ### Runs -/

section Runs

variable {settings : Http.Settings} {cors : Http.Cors}

def Run.returned (run : Run (router settings cors)) : List String :=
  run.tasks.flatMap fun task =>
    ((Http.responseOf? cors task.request task.rest).map fun response =>
      response.body.accessTokens).getD []

/-- At this moment tokens are signed and verified with the keys of a keyring, by the clock. -/
structure Moment.UsesKeys (keyring : Keyring) (moment : Moment) : Prop where
  inRange : moment.stamp.now.InRange
  signs : ∀ identity access, moment.sign identity = .ok access →
    ∃ tokenId, access = keyring.sign moment.stamp.now.seconds tokenId identity
  verifies : moment.verify = keyring.verify moment.stamp.now.seconds

theorem Moment.UsesKeys.int64 {keyring : Keyring} {moment : Moment}
    (keyed : moment.UsesKeys keyring) :
    Text.int64Min ≤ moment.stamp.now.seconds ∧ moment.stamp.now.seconds ≤ Text.int64Max :=
  keyed.inRange.int64

variable {memory : Memory} {moves : List (Move (router settings cors))} {keyring : Keyring}
  {token : String}

private theorem mem_returned {run : Run (router settings cors)} :
    token ∈ run.returned ↔ ∃ n response, run.response? n = some response ∧
      token ∈ response.body.accessTokens := by
  constructor
  · intro returned
    obtain ⟨task, member, handed⟩ := List.mem_flatMap.mp returned
    obtain ⟨n, found⟩ := List.mem_iff_getElem?.mp member
    cases answered : Http.responseOf? cors task.request task.rest with
    | none =>
        rw [answered] at handed
        cases handed
    | some response =>
        rw [answered] at handed
        exact ⟨n, response, Option.bind_eq_some_iff.mpr ⟨task, found, answered⟩, handed⟩
  · rintro ⟨n, response, answered, handed⟩
    obtain ⟨task, found, answered⟩ := Option.bind_eq_some_iff.mp answered
    refine List.mem_flatMap.mpr ⟨task, List.mem_of_getElem? found, ?_⟩
    rw [answered]
    exact handed

theorem Run.returned_arrive {run : Run (router settings cors)} (incoming : Http.Incoming)
    (returned : token ∈ run.returned) : token ∈ (run.arrive incoming).returned := by
  obtain ⟨task, member, handed⟩ := List.mem_flatMap.mp returned
  exact List.mem_flatMap.mpr ⟨task, List.mem_append_left _ member, handed⟩

private theorem returned_signedFor (returned : token ∈ (Run.after memory moves).returned) :
    ∃ n, SignedFor ((Run.after memory moves).view n) token := by
  obtain ⟨n, response, answered, handed⟩ := mem_returned.mp returned
  obtain ⟨incoming, rest, -, ended, path⟩ := response_path answered
  rcases Http.ended_of_response ended with rfl | ⟨reason, next, rfl⟩
  · cases ended
    exact ⟨n, program_handsOut settings cors incoming _ response path token handed⟩
  · cases ended
    cases accessTokens_of_finish handed

/-- Whatever token is returned in a run has been signed in it, for someone who is stored. -/
theorem returned_signed (keyed : ∀ n moment, .turn n moment ∈ moves → moment.UsesKeys keyring)
    (returned : token ∈ (Run.after memory moves).returned) :
    ∃ user ∈ (Run.after memory moves).memory.users, ∃ issued tokenId,
      (Text.int64Min ≤ issued ∧ issued ≤ Text.int64Max) ∧
        token = (keyring.sign issued tokenId ⟨user.id, user.role⟩).1 := by
  obtain ⟨n, user, lookup, stamp, expiresIn, found, loaded, signing⟩ :=
    returned_signedFor returned
  have present : user ∈ (Run.after memory moves).memory.users := by
    obtain ⟨entry, logged, -, rfl⟩ := Run.mem_view.mp found
    obtain ⟨before, after, split⟩ := List.append_of_mem logged
    have known := mem_users_replay ((entry :: after).map Entry.exchange)
      (Exchange.loaded_present (Run.entry_honest split) loaded)
    rwa [← replay_append, ← List.map_append, ← split, ← Run.exchanges,
      (Run.replay_exchanges memory moves).1] at known
  obtain ⟨⟨m, incoming, exchange⟩, logged, -, rfl⟩ := Run.mem_view.mp signing
  obtain ⟨earlier, moment, later, next, reached, rfl, -, same, answered⟩ :=
    Run.entry_turn logged
  have keys := keyed m moment (List.mem_append_right _ List.mem_cons_self)
  obtain ⟨tokenId, access⟩ := keys.signs _ _ (Reply.value.inj (congrArg Prod.fst answered))
  exact ⟨user, present, _, tokenId, keys.int64, congrArg Prod.fst access⟩

end Runs

/-! ### Tokens as they are presented -/

theorem Text.Base64Alphabet.mem_encode {alphabet : Base64Alphabet} {bytes : Text.Bytes} {c : Char}
    (member : c ∈ alphabet.encode bytes) : c ∈ alphabet.digits := by
  have known := decode?_digits (decode?_encode bytes) c member
  rw [value?, List.findIdx?_isSome, List.any_eq_true] at known
  obtain ⟨digit, listed, same⟩ := known
  exact eq_of_beq same ▸ listed

private theorem Text.trim_of_plain {text : List Char} (plain : ∀ c ∈ text, isBlank c = false) :
    trim text = text := by
  have front : text.dropWhile isBlank = text := by
    rw [List.dropWhile_eq_self_iff]
    intro nonempty
    rw [plain _ (List.getElem_mem nonempty)]
    exact Bool.false_ne_true
  have back : text.reverse.dropWhile isBlank = text.reverse := by
    rw [List.dropWhile_eq_self_iff]
    intro nonempty
    rw [plain _ (List.mem_reverse.mp (List.getElem_mem nonempty))]
    exact Bool.false_ne_true
  rw [trim, dropBlanks, front, dropEndBlanks, back, List.reverse_reverse]

private theorem Auth.Keyring.sign_digits (keyring : Keyring) (now : Int) (tokenId : String)
    (identity : Identity) :
    ∀ c ∈ (keyring.sign now tokenId identity).1.toList,
      c ∈ '.' :: Base64Alphabet.urlSafe.digits := by
  intro c member
  simp only [sign, assemble, String.toList_ofList, List.mem_append, List.mem_cons] at member
  rcases member with (header | dot | claims) | dot | signature
  · exact List.mem_cons_of_mem _ (Base64Alphabet.mem_encode header)
  · exact dot ▸ List.mem_cons_self
  · exact List.mem_cons_of_mem _ (Base64Alphabet.mem_encode claims)
  · exact dot ▸ List.mem_cons_self
  · exact List.mem_cons_of_mem _ (Base64Alphabet.mem_encode signature)

private theorem Http.bearerToken_append {token : String} (nonempty : token.toList ≠ [])
    (plain : ∀ c ∈ token.toList, Text.isBlank c = false) :
    bearerToken ("Bearer " ++ token) = some token := by
  have word : ("Bearer " ++ token).toList = "Bearer".toList ++ ' ' :: token.toList := by
    rw [String.toList_append]
    rfl
  have scheme : ("Bearer".toList ++ ' ' :: token.toList).takeWhile (· ≠ ' ') =
      "Bearer".toList := by
    rw [List.takeWhile_append_of_pos (List.all_eq_true.mp (by decide)),
      List.takeWhile_cons_of_neg (by decide), List.append_nil]
  have rest : ("Bearer".toList ++ ' ' :: token.toList).drop ("Bearer".toList.length + 1) =
      token.toList := by
    rw [← List.drop_drop, List.drop_left]
    rfl
  have known : String.ofList ("Bearer".toList.map Char.toLower) = "bearer" := by decide
  have some : (!token.toList.isEmpty) = true := by simpa using nonempty
  simp only [bearerToken, word, scheme, rest, Text.trim_of_plain plain]
  rw [if_pos ⟨known, some⟩, String.ofList_toList]

theorem Http.bears_signed {request : Http.Request} {keyring : Keyring} {now : Int}
    {tokenId : String} {identity : Identity}
    (header : request.header? "authorization" =
      some ("Bearer " ++ (keyring.sign now tokenId identity).1)) :
    Bears request (keyring.sign now tokenId identity).1 := by
  have digits := keyring.sign_digits now tokenId identity
  have nonempty : (keyring.sign now tokenId identity).1.toList ≠ [] := by
    simp [Keyring.sign, Auth.assemble]
  have letters : ('.' :: Base64Alphabet.urlSafe.digits).all (fun c =>
      !Text.isBlank c && isVisibleAscii c) := by
    decide
  have letter : ∀ c ∈ '.' :: Base64Alphabet.urlSafe.digits, Text.isBlank c = false ∧
      isVisibleAscii c = true := by
    simpa only [List.all_eq_true, Bool.and_eq_true, Bool.not_eq_true'] using letters
  have visible :
      ("Bearer " ++ (keyring.sign now tokenId identity).1).toList.all isVisibleAscii := by
    rw [String.toList_append, List.all_append, Bool.and_eq_true]
    refine ⟨by decide, List.all_eq_true.mpr fun c member => (letter c (digits c member)).2⟩
  refine ⟨_, ?_, bearerToken_append nonempty fun c member => (letter c (digits c member)).1⟩
  rw [Request.asciiHeader?, header, Option.filter_some, if_pos visible]

end StatusPage
