import StatusPage.Application
import StatusPage.Proofs.Services

/-!
One program at a time on the world of the application. A call of the store is carried out, fails
without a change, or ends the program; nothing else that a program asks for touches the store. The
programs that change accounts and sessions are run through to all their ends.
-/

set_option autoImplicit false

namespace StatusPage

open Store (Memory Stamp)

variable {α β σ : Type}

theorem Program.run_bind (interpreter : Interpreter σ) (program : Program α)
    (next : α → Program β) (state : σ) :
    (program.bind next).run interpreter state =
      match program.run interpreter state with
      | (.value a, state) => (next a).run interpreter state
      | (.never, state) => (.never, state)
      | (.aborted reason, state) => (.aborted reason, state) := by
  induction program generalizing state with
  | done a => rfl
  | ask op rest ih =>
      rw [Program.bind, Program.run, Program.run]
      rcases interpreter.answer op state with ⟨_ | _ | _, state'⟩
      · exact ih _ state'
      · rfl
      · rfl

private theorem World.perform_cases (world : World) (call : Store.Call) :
    (∃ answer memory,
      world.memory.perform ⟨world.now, identifier world.identifiers⟩ call = (answer, memory) ∧
        world.perform call =
          (.value answer,
            { world with memory := memory, identifiers := world.identifiers + 1 })) ∨
      (∃ e, world.perform call = (.value (.error e), world)) ∨
        ∃ reply, (∀ answer, reply ≠ .value answer) ∧
          world.perform call = (reply, world) := by
  unfold World.perform
  split
  · exact .inr (.inl ⟨_, rfl⟩)
  · exact .inr (.inr ⟨.never, nofun, rfl⟩)
  · exact .inr (.inr ⟨.aborted _, nofun, rfl⟩)
  · exact .inl ⟨_, _, rfl, rfl⟩

namespace Application

variable (app : Application)

private theorem run_store_cases (call : Store.Call)
    (next : Except StoreError call.Result → Program α) (world : World) :
    (∃ answer memory,
      world.memory.perform ⟨world.now, World.identifier world.identifiers⟩ call =
        (answer, memory) ∧
        app.run (.ask (.store call) next) world =
          app.run (next answer)
            { world with memory := memory, identifiers := world.identifiers + 1 }) ∨
      (∃ e, app.run (.ask (.store call) next) world = app.run (next (.error e)) world) ∨
        ∃ reply, (∀ value, reply ≠ .value value) ∧
          app.run (.ask (.store call) next) world = (reply, world) := by
  have meaning : app.interpreter.answer (.store call) world = world.perform call := rfl
  simp only [run, Program.run, meaning]
  rcases world.perform_cases call
    with ⟨answer, memory, performed, same⟩ | ⟨e, same⟩ | ⟨reply, other, same⟩
  · rw [same]
    exact .inl ⟨answer, memory, performed, rfl⟩
  · rw [same]
    exact .inr (.inl ⟨e, rfl⟩)
  · rw [same]
    cases reply with
    | value answer => exact absurd rfl (other answer)
    | never => exact .inr (.inr ⟨.never, nofun, rfl⟩)
    | aborted reason => exact .inr (.inr ⟨.aborted reason, nofun, rfl⟩)

private theorem run_call_cases (call : Store.Call)
    (next : Except StoreError call.Result → Program α) (world : World) :
    (∃ answer memory,
      world.memory.perform ⟨world.now, World.identifier world.identifiers⟩ call =
        (answer, memory) ∧
        app.run (Program.store call >>= next) world =
          app.run (next answer)
            { world with memory := memory, identifiers := world.identifiers + 1 }) ∨
      (∃ e, app.run (Program.store call >>= next) world = app.run (next (.error e)) world) ∨
        ∃ reply, (∀ value, reply ≠ .value value) ∧
          app.run (Program.store call >>= next) world = (reply, world) :=
  app.run_store_cases call next world

theorem run_bind (program : Program α) (next : α → Program β) (world : World) :
    app.run (program.bind next) world =
      match app.run program world with
      | (.value a, world) => app.run (next a) world
      | (.never, world) => (.never, world)
      | (.aborted reason, world) => (.aborted reason, world) := by
  unfold Application.run
  rw [Program.run_bind]
  rcases program.run app.interpreter world with ⟨_ | _ | _, world'⟩ <;> rfl

theorem run_bind_value {program : Program α} {value : α} {world world' : World}
    (ended : app.run program world = (.value value, world')) (next : α → Program β) :
    app.run (program >>= next) world = app.run (next value) world' := by
  refine (app.run_bind program next world).trans ?_
  rw [ended]

theorem run_validate (token : String) (next : Except AuthError Identity → Program α)
    (world : World) :
    app.run (Auth.validateAccessToken token >>= next) world =
      app.run (next (app.keyring.verify world.now.seconds token)) world := rfl

private theorem run_verifyPassword (password hash : String)
    (next : Except String Bool → Program α) (world : World) :
    app.run (Program.perform (.verifyPassword password hash) >>= next) world =
      app.run (next ((Auth.verifyPassword password hash).mapError
        Auth.PasswordError.message)) world := rfl

theorem run_map_world (program : Program α) (f : α → β) (world : World) :
    (app.run (program.bind fun value => .done (f value)) world).2 = (app.run program world).2 := by
  rw [run_bind]
  rcases app.run program world with ⟨_ | _ | _, world'⟩ <;> rfl

theorem run_map_reply {program : Program α} (f : α → β) {world : World} {value : α}
    (reply : (app.run program world).1 = .value value) :
    (app.run (program.bind fun value => .done (f value)) world).1 = .value (f value) := by
  rw [run_bind]
  rcases result : app.run program world with ⟨ended, world'⟩
  rw [result] at reply
  cases reply
  rfl

theorem run_reads {program : Program α} (reads : program.AsksAtMost Op.writes 0) (world : World) :
    (app.run program world).2.memory = world.memory := by
  induction program generalizing world with
  | done value => rfl
  | ask op next ih =>
      have quiet : op.writes = false := by
        have none := reads.1
        cases writes : op.writes with
        | false => rfl
        | true => rw [writes] at none; cases none
      have later (answer : op.Answer) : (next answer).AsksAtMost Op.writes 0 := by
        have rest := reads.2 answer
        rw [Nat.zero_sub] at rest
        exact rest
      cases op with
      | store call =>
          rcases app.run_store_cases call next world with
            ⟨answer, memory, performed, run⟩ | ⟨e, run⟩ | ⟨reply, -, run⟩
          · have nothing : call.writes = [] := by simpa [Op.writes] using quiet
            have same :=
              world.memory.perform_of_reads
                ⟨world.now, World.identifier world.identifiers⟩ nothing
            rw [performed] at same
            rw [run, ih answer (later answer)]
            exact same
          · rw [run, ih _ (later _)]
          · rw [run]
      | abort reason => rfl
      | _ => exact ih _ (later _) _

/-- A program that writes at most once changes the store by one of its calls, if at all. -/
theorem run_once {allowed : Op → Prop} {program : Program α} (asks : program.Asks allowed)
    (once : program.AsksAtMost Op.writes 1) (world : World) :
    (app.run program world).2.memory = world.memory ∨
      ∃ call stamp, allowed (.store call) ∧
        (app.run program world).2.memory = (world.memory.perform stamp call).2 := by
  induction program generalizing world with
  | done value => exact .inl rfl
  | ask op next ih =>
      cases op with
      | store call =>
          rcases app.run_store_cases call next world with
            ⟨answer, memory, performed, run⟩ | ⟨e, run⟩ | ⟨reply, -, run⟩
          · rw [run]
            cases writes : (Op.store call).writes with
            | false =>
                -- The call only reads, so the one write is still to come.
                have nothing : call.writes = [] := by simpa [Op.writes] using writes
                have same :=
                  world.memory.perform_of_reads
                    ⟨world.now, World.identifier world.identifiers⟩ nothing
                have rest := once.2 answer
                rw [writes] at rest
                rw [performed] at same
                have outcome := ih answer (asks.2 answer) rest
                  { world with memory := memory, identifiers := world.identifiers + 1 }
                rw [show memory = world.memory from same] at outcome ⊢
                exact outcome
            | true =>
                have rest := once.2 answer
                rw [writes] at rest
                refine .inr ⟨call,
                  ⟨world.now, World.identifier world.identifiers⟩, asks.1, ?_⟩
                rw [performed, app.run_reads rest]
          · rw [run]
            exact ih _ (asks.2 _) ((once.2 _).mono (Nat.sub_le 1 _)) world
          · rw [run]
            exact .inl rfl
      | abort reason => exact .inl rfl
      | _ => exact ih _ (asks.2 _) (once.2 _) _

private theorem run_generateTokens (settings : Auth.Settings) (user : User) (world : World) :
    (app.run (Auth.generateTokens settings user) world).2.memory = world.memory ∨
      ∃ stamp new row pair, new.userId = user.id ∧
        (app.run (Auth.generateTokens settings user) world).1 = .value (.ok pair) ∧
        world.memory.perform stamp (.createRefreshToken new) =
          (.ok row, (app.run (Auth.generateTokens settings user) world).2.memory) := by
  let signed : World := { world with secrets := world.secrets + 1 + 1 }
  let token := World.refreshToken (world.secrets + 1)
  let access :=
    app.keyring.sign world.now.seconds (World.randomIdentifier world.secrets).toText
      ⟨user.id, user.role⟩
  let storing (expiresAt : Time.Instant) : Program (Except AuthError TokenPair) :=
    .ask (.store (.createRefreshToken ⟨user.id, refreshDigest token, expiresAt⟩)) fun stored =>
      match stored with
      | .error e => .done (.error (Auth.failed "storing refresh token" e))
      | .ok _ => .done (.ok ⟨access.1, token, access.2⟩)
  have start : app.run (Auth.generateTokens settings user) world =
      app.run ((Auth.daysFrom world.now settings.refreshDays).bind storing) signed := rfl
  rcases Auth.daysFrom_cases world.now settings.refreshDays with
    ⟨-, later⟩ | ⟨-, reason, never⟩
  · rw [later] at start
    rcases app.run_store_cases _ _ signed with ⟨answer, memory,
      performed, run⟩ | ⟨e, run⟩ | ⟨reply, -, run⟩
    · rw [start.trans run]
      cases answer with
      | error e =>
          left
          have unchanged := signed.memory.perform_of_error _ (congrArg Prod.fst performed)
          rw [performed] at unchanged
          exact unchanged
      | ok row => exact .inr ⟨_, _, row, _, rfl, rfl, performed⟩
    · rw [start.trans run]
      exact .inl rfl
    · rw [start.trans run]
      exact .inl rfl
  · rw [start, never]
    exact .inl rfl

private theorem run_tokens_for (settings : Auth.Settings) (userId : Uuid)
    {next : Except StoreError User → Program (Except AuthError TokenPair)}
    (granted : ∀ user, next (.ok user) = Auth.generateTokens settings user)
    (refused : ∀ e, ∃ refusal, next (.error e) = .done (.error refusal)) (world : World) :
    (app.run (Program.store (.findUserById userId) >>= next) world).2.memory = world.memory ∨
      ∃ stamp new row pair, new.userId = userId ∧
        (app.run (Program.store (.findUserById userId) >>= next) world).1 = .value (.ok pair) ∧
        world.memory.perform stamp (.createRefreshToken new) =
          (.ok row, (app.run (Program.store (.findUserById userId) >>= next) world).2.memory) := by
  rcases app.run_call_cases (.findUserById userId) next world with
    ⟨answer, memory, performed, run⟩ | ⟨e, run⟩ | ⟨reply, -, run⟩
  · rw [run]
    simp only [Memory.perform, Memory.reading] at performed
    split at performed
    · rename_i user found
      cases performed
      have owner : user.id = userId := by simpa using List.find?_some found
      rw [granted]
      rcases app.run_generateTokens settings user { world with
        identifiers := world.identifiers + 1 } with
        unchanged | ⟨stamp, new, row, pair, mine, reply, stored⟩
      · exact .inl unchanged
      · exact .inr ⟨stamp, new, row, pair, mine.trans owner, reply, stored⟩
    · cases performed
      obtain ⟨refusal, ended⟩ := refused .notFound
      rw [ended]
      exact .inl rfl
  · obtain ⟨refusal, ended⟩ := refused e
    rw [run, ended]
    exact .inl rfl
  · rw [run]
    exact .inl rfl

/-- A refresh token that is exchanged is taken out of the store, and what is new
then is one row for its user. -/
theorem run_refresh (settings : Auth.Settings) (text : String) (world : World) :
    (app.run (Auth.refresh settings text) world).2.memory = world.memory ∨
      ∃ old ∈ world.memory.refreshTokens, old.digest = refreshDigest text ∧
        ((app.run (Auth.refresh settings text) world).2.memory =
            world.memory.dropRefreshTokens (fun token => token.digest == refreshDigest text) ∨
          ∃ stamp new row pair, new.userId = old.userId ∧
            (app.run (Auth.refresh settings text) world).1 = .value (.ok pair) ∧
            (world.memory.dropRefreshTokens fun token =>
              token.digest == refreshDigest text).perform stamp
              (.createRefreshToken new) =
                (.ok row, (app.run (Auth.refresh settings text) world).2.memory)) := by
  generalize ran : app.run (Auth.refresh settings text) world = outcome
  unfold Auth.refresh at ran
  rcases app.run_call_cases (.takeRefreshToken (refreshDigest text)) _ world with
    ⟨answer, memory, performed, taking⟩ | ⟨e, taking⟩ | ⟨reply, -, taking⟩
  · rw [taking] at ran
    simp only [Memory.perform, Memory.takeRefreshToken] at performed
    split at performed
    · cases performed
      subst ran
      exact .inl rfl
    · rename_i old found
      cases performed
      refine .inr ⟨old, List.mem_of_find?_eq_some found,
        by simpa using List.find?_some found, ?_⟩
      change app.run (if old.isExpired world.now then _ else Program.store _ >>= _) _ =
        outcome at ran
      by_cases expired : old.isExpired world.now
      · rw [if_pos expired] at ran
        subst ran
        exact .inl rfl
      · rw [if_neg expired] at ran
        subst ran
        refine app.run_tokens_for settings old.userId (fun _ => rfl) ?_ _
        intro e
        cases e <;> exact ⟨_, rfl⟩
  · rw [taking] at ran
    cases e <;> (subst ran; exact .inl rfl)
  · rw [taking] at ran
    subst ran
    exact .inl rfl

theorem run_login (settings : Auth.Settings) (email password : String) (world : World) :
    (app.run (Auth.login settings email password) world).2.memory = world.memory ∨
      ∃ user ∈ world.memory.users, user.email = Auth.normalizeEmail email ∧
        Auth.verifyPassword password user.passwordHash = .ok true ∧
        ∃ stamp new row tokens, new.userId = user.id ∧
          (app.run (Auth.login settings email password) world).1 = .value (.ok (user, tokens)) ∧
          world.memory.perform stamp (.createRefreshToken new) =
            (.ok row, (app.run (Auth.login settings email password) world).2.memory) := by
  generalize ran : app.run (Auth.login settings email password) world = outcome
  unfold Auth.login at ran
  rcases app.run_call_cases (.findUserByEmail (Auth.normalizeEmail email)) _ world with
    ⟨answer, memory, performed, loading⟩ | ⟨e, loading⟩ | ⟨reply, -, loading⟩
  · rw [loading] at ran
    simp only [Memory.perform, Memory.reading] at performed
    split at performed
    · rename_i user found
      cases performed
      dsimp only at ran
      rw [run_verifyPassword] at ran
      rcases verified : Auth.verifyPassword password user.passwordHash with e | _ | _
      · rw [verified] at ran
        subst ran
        exact .inl rfl
      · rw [verified] at ran
        subst ran
        exact .inl rfl
      · rw [verified] at ran
        have address : user.email = Auth.normalizeEmail email := by
          simpa using List.find?_some found
        let counted : World := { world with identifiers := world.identifiers + 1 }
        change app.run ((Auth.generateTokens settings user).bind fun tokens =>
          .done (tokens.map fun tokens => (user, tokens))) counted = outcome at ran
        rw [← ran, run_map_world]
        rcases app.run_generateTokens settings user counted with
          unchanged | ⟨stamp, new, row, pair, mine, reply, stored⟩
        · exact .inl unchanged
        · exact .inr ⟨user, List.mem_of_find?_eq_some found, address, verified, stamp, new,
            row, pair, mine, app.run_map_reply _ reply, stored⟩
    · cases performed
      subst ran
      exact .inl rfl
  · rw [loading] at ran
    cases e <;> (subst ran; exact .inl rfl)
  · rw [loading] at ran
    subst ran
    exact .inl rfl

theorem register_asks (request : Registration) :
    (Auth.register request).Asks fun op =>
      op.writes = true → ∃ new, op = .store (.createUser new) ∧ new.role = .user := by
  refine ⟨nofun, fun known => ?_⟩
  rcases known with (_ | _ | _) | _
  · refine ⟨nofun, fun hashed => ?_⟩
    rcases hashed with _ | hash
    · trivial
    · refine ⟨fun _ => ⟨_, rfl, rfl⟩, fun created => ?_⟩
      rcases created with (_ | _ | _) | _ <;> trivial
  · trivial
  · trivial
  · trivial

theorem register_writes_once (request : Registration) :
    (Auth.register request).AsksAtMost Op.writes 1 := by
  refine ⟨Nat.zero_le 1, fun known => ?_⟩
  rcases known with (_ | _ | _) | _
  · refine ⟨Nat.zero_le 1, fun hashed => ?_⟩
    rcases hashed with _ | hash
    · trivial
    · refine ⟨Nat.le_refl 1, fun created => ?_⟩
      rcases created with (_ | _ | _) | _ <;> trivial
  · trivial
  · trivial
  · trivial

theorem run_logout (text : String) (world : World) :
    (app.run (Auth.logout text) world).2.memory = world.memory ∨
      (app.run (Auth.logout text) world).2.memory =
        world.memory.dropRefreshTokens fun token => token.digest == refreshDigest text := by
  unfold Auth.logout
  rcases app.run_call_cases (.deleteRefreshToken (refreshDigest text)) _ world with
    ⟨answer, memory, performed, deleting⟩ | ⟨e, deleting⟩ | ⟨reply, -, deleting⟩
  · rw [deleting]
    cases performed
    exact .inr rfl
  · rw [deleting]
    exact .inl rfl
  · rw [deleting]
    exact .inl rfl

theorem run_logoutAll (userId : Uuid) (world : World) :
    (app.run (Auth.logoutAll userId) world).2.memory = world.memory ∨
      (app.run (Auth.logoutAll userId) world).2.memory =
        world.memory.dropRefreshTokens fun token => token.userId == userId := by
  unfold Auth.logoutAll
  rcases app.run_call_cases (.deleteUserRefreshTokens userId) _ world with
    ⟨answer, memory, performed, deleting⟩ | ⟨e, deleting⟩ | ⟨reply, -, deleting⟩
  · rw [deleting]
    cases performed
    exact .inr rfl
  · rw [deleting]
    exact .inl rfl
  · rw [deleting]
    exact .inl rfl

end Application

end StatusPage
