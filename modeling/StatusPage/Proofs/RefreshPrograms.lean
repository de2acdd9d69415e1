import StatusPage.Proofs.Services

/-!
The programs that make and exchange refresh tokens. A program offers the store only what it has
generated itself, and once at most; a transcript lists all exchanges of a program that has come to
its end.
-/

set_option autoImplicit false

namespace StatusPage

open Store (Stamp)
open Time (Instant)

namespace Exchange

def generated : Exchange → Option String
  | ⟨_, .newRefreshToken, token⟩ => some token
  | _ => none

/-- What the store has been asked to keep, whether it does so or not. -/
def offered : Exchange → Option NewRefreshToken
  | ⟨_, .store (.createRefreshToken new), _⟩ => some new
  | _ => none

end Exchange

def Op.offersToken : Op → Bool
  | .store (.createRefreshToken _) => true
  | _ => false

namespace Program

variable {α β : Type}

/-- Every refresh token that a program offers to the store is one that it knows: one that it knew at
the start or has generated since. -/
def OffersKnown : List String → Program α → Prop
  | _, .done _ => True
  | known, .ask op next =>
      (∀ new, op = .store (.createRefreshToken new) → ∃ token ∈ known,
        new.digest = refreshDigest token) ∧
        ∀ stamp answer, (next answer).OffersKnown
          ((⟨stamp, op, answer⟩ : Exchange).generated.toList ++ known)

theorem OffersKnown.of_asks {program : Program α}
    (asks : program.Asks fun op => op.offersToken = false) (known : List String) :
    program.OffersKnown known := by
  induction program generalizing known with
  | done value => trivial
  | ask op next ih =>
      refine ⟨?_, fun stamp answer => ih answer (asks.2 answer) _⟩
      rintro new rfl
      cases asks.1

theorem OffersKnown.map {program : Program α} {known : List String}
    (offers : program.OffersKnown known) (f : α → β) :
    (program.bind fun value => .done (f value)).OffersKnown known := by
  induction program generalizing known with
  | done value => trivial
  | ask op rest ih => exact ⟨offers.1, fun stamp answer => ih answer (offers.2 stamp answer)⟩

theorem Path.offered_known {program rest : Program α} {exchanges : List Exchange}
    {known : List String} (path : Path program exchanges rest)
    (offers : program.OffersKnown known) :
    ∀ exchange ∈ exchanges, ∀ new, exchange.offered = some new →
      ∃ token ∈ exchanges.filterMap Exchange.generated ++ known,
        new.digest = refreshDigest token := by
  induction path generalizing known with
  | nil => intro exchange member; cases member
  | @cons op next answer exchanges rest stamp _ ih =>
      intro exchange member new offered
      rcases List.mem_cons.mp member with rfl | later
      · unfold Exchange.offered at offered
        split at offered
        · rename_i same
          cases same
          cases offered
          obtain ⟨token, old, digest⟩ := offers.1 _ rfl
          exact ⟨token, List.mem_append_right _ old, digest⟩
        · cases offered
      · obtain ⟨token, origin, digest⟩ := ih (offers.2 stamp answer) exchange later new offered
        refine ⟨token, ?_, digest⟩
        cases generated : (⟨stamp, op, answer⟩ : Exchange).generated with
        | none =>
            rw [List.filterMap_cons_none generated]
            simpa [generated] using origin
        | some text =>
            rw [List.filterMap_cons_some generated]
            simp only [generated, Option.toList_some, List.mem_append, List.mem_cons,
              List.not_mem_nil, or_false] at origin ⊢
            tauto

end Program

namespace AuthRequest

private theorem generateTokens_offers (settings : Auth.Settings) (user : User)
    (known : List String) :
    (Auth.generateTokens settings user).OffersKnown known ∧
      (Auth.generateTokens settings user).AsksAtMost Op.offersToken 1 := by
  constructor
  · refine ⟨nofun, fun _ signed => ?_⟩
    rcases signed with e | ⟨accessToken, expiresIn⟩
    · trivial
    · refine ⟨nofun, fun _ token => ⟨nofun, fun _ now => ?_⟩⟩
      change ((Auth.daysFrom now settings.refreshDays).bind _).OffersKnown _
      rcases Auth.daysFrom_cases now settings.refreshDays with
        ⟨-, later⟩ | ⟨-, reason, never⟩
      · rw [later]
        refine ⟨?_, fun _ answer => ?_⟩
        · rintro new ⟨⟩
          exact ⟨token, by simp [Exchange.generated], rfl⟩
        · cases answer <;> trivial
      · rw [never]
        exact ⟨nofun, nofun⟩
  · refine ⟨Nat.zero_le 1, fun signed => ?_⟩
    rcases signed with e | ⟨accessToken, expiresIn⟩
    · trivial
    · refine ⟨Nat.zero_le 1, fun token => ⟨Nat.zero_le 1, fun now => ?_⟩⟩
      change ((Auth.daysFrom now settings.refreshDays).bind _).AsksAtMost Op.offersToken 1
      rcases Auth.daysFrom_cases now settings.refreshDays with
        ⟨-, later⟩ | ⟨-, reason, never⟩
      · rw [later]
        refine ⟨Nat.le_refl 1, fun answer => ?_⟩
        cases answer <;> trivial
      · rw [never]
        exact ⟨Nat.zero_le 1, nofun⟩

private theorem offers_nothing {α : Type} {program : Program α}
    (asks : program.Asks fun op => op.offersToken = false) (known : List String) :
    program.OffersKnown known ∧ program.AsksAtMost Op.offersToken 1 :=
  ⟨.of_asks asks known, .of_asks asks 1⟩

private theorem offers_later {α : Type} {op : Op} {next : op.Answer → Program α}
    (quiet : op.offersToken = false)
    (later : ∀ answer known,
      (next answer).OffersKnown known ∧ (next answer).AsksAtMost Op.offersToken 1)
    (known : List String) :
    (Program.ask op next).OffersKnown known ∧
    (Program.ask op next).AsksAtMost Op.offersToken 1 := by
  constructor
  · refine ⟨?_, fun _ answer => (later answer _).1⟩
    rintro new rfl
    cases quiet
  · rw [Program.AsksAtMost, quiet]
    exact ⟨Nat.zero_le 1, fun answer => (later answer []).2⟩

private theorem login_offers (settings : Auth.Settings) (email password : String) :
    (Auth.login settings email password).OffersKnown [] ∧
      (Auth.login settings email password).AsksAtMost Op.offersToken 1 := by
  refine offers_later rfl (fun found known => ?_) []
  rcases found with (_ | _ | _) | user
  · refine offers_later rfl (fun _ known => ?_) known
    exact ⟨trivial, trivial⟩
  · exact ⟨trivial, trivial⟩
  · exact ⟨trivial, trivial⟩
  · refine offers_later rfl (fun verified known => ?_) known
    rcases verified with text | _ | _
    · exact ⟨trivial, trivial⟩
    · exact ⟨trivial, trivial⟩
    · obtain ⟨offers, once⟩ := generateTokens_offers settings user known
      exact ⟨offers.map _, once.map _⟩

private theorem refresh_offers (settings : Auth.Settings) (token : String) :
    (Auth.refresh settings token).OffersKnown [] ∧
      (Auth.refresh settings token).AsksAtMost Op.offersToken 1 := by
  refine offers_later rfl (fun taken known => ?_) []
  rcases taken with (_ | _ | _) | stored
  · exact ⟨trivial, trivial⟩
  · exact ⟨trivial, trivial⟩
  · exact ⟨trivial, trivial⟩
  · refine offers_later rfl (fun now known => ?_) known
    change (ite _ _ _ : Program _).OffersKnown known ∧ (ite _ _ _ : Program _).AsksAtMost _ 1
    split
    · exact ⟨trivial, trivial⟩
    · refine offers_later rfl (fun found known => ?_) known
      rcases found with (_ | _ | _) | user
      · exact ⟨trivial, trivial⟩
      · exact ⟨trivial, trivial⟩
      · exact ⟨trivial, trivial⟩
      · exact generateTokens_offers settings user known

/-- Each program offers at most one refresh token to the store, and this it has generated itself. -/
theorem program_offers (settings : Auth.Settings) (request : AuthRequest) :
    (request.program settings).OffersKnown [] ∧
    (request.program settings).AsksAtMost Op.offersToken 1 := by
  cases request with
  | register request =>
      refine offers_nothing ?_ []
      refine ⟨rfl, fun known => ?_⟩
      rcases known with (_ | _ | _) | _
      · refine ⟨rfl, fun hashed => ?_⟩
        rcases hashed with _ | hash
        · trivial
        · refine ⟨rfl, fun created => ?_⟩
          rcases created with (_ | _ | _) | _ <;> trivial
      · trivial
      · trivial
      · trivial
  | login email password => exact login_offers settings email password
  | refresh token => exact refresh_offers settings token
  | logout token | revoke token | logoutAll userId =>
      refine offers_nothing ?_ []
      refine ⟨rfl, fun deleted => ?_⟩
      cases deleted <;> trivial
  | getUser userId =>
      refine offers_nothing ?_ []
      refine ⟨rfl, fun found => ?_⟩
      rcases found with (_ | _ | _) | _ <;> trivial
  | validate token | sweep =>
      refine offers_nothing ?_ []
      exact ⟨rfl, fun _ => trivial⟩

end AuthRequest

theorem generateTokens_asks_four (settings : Auth.Settings) (user : User) :
    (Auth.generateTokens settings user).AsksAtMost (fun _ => true) 4 := by
  refine ⟨by simp, fun signed => ?_⟩
  rcases signed with e | access
  · trivial
  · refine ⟨by simp, fun token => ⟨by simp, fun now => ?_⟩⟩
    change ((Auth.daysFrom now settings.refreshDays).bind _).AsksAtMost _ _
    rcases Auth.daysFrom_cases now settings.refreshDays with ⟨-, later⟩ | ⟨-, reason, never⟩
    · rw [later]
      refine ⟨by simp, fun stored => ?_⟩
      cases stored <;> trivial
    · rw [never]
      exact ⟨by simp, nofun⟩

theorem refresh_asks_seven (settings : Auth.Settings) (token : String) :
    (Auth.refresh settings token).AsksAtMost (fun _ => true) 7 := by
  refine ⟨by simp, fun taken => ?_⟩
  rcases taken with (_ | _ | _) | row
  · trivial
  · trivial
  · trivial
  · refine ⟨by simp, fun now => ?_⟩
    change (ite _ _ _ : Program _).AsksAtMost _ _
    split
    · trivial
    · refine ⟨by simp, fun found => ?_⟩
      rcases found with (_ | _ | _) | user
      · trivial
      · trivial
      · trivial
      · exact generateTokens_asks_four settings user

/-- All exchanges of a program that has made, or has failed to make, new tokens for a user. -/
inductive TokensTranscript (user : User) : List Exchange → Except AuthError TokenPair → Prop
  | unsigned (s : Stamp) (e : AuthError) :
      TokensTranscript user [⟨s, .sign ⟨user.id, user.role⟩, .error e⟩] (.error e)
  | unstored (s₁ s₂ s₃ s₄ : Stamp) (access : String × Int) (token : String)
      (now expiresAt : Instant) (e : StoreError) :
      TokensTranscript user
        [⟨s₁, .sign ⟨user.id, user.role⟩, .ok access⟩,
          ⟨s₂, .newRefreshToken, token⟩, ⟨s₃, .now, now⟩,
          ⟨s₄, .store (.createRefreshToken ⟨user.id, refreshDigest token, expiresAt⟩),
            .error e⟩]
        (.error (Auth.failed "storing refresh token" e))
  | issued (s₁ s₂ s₃ s₄ : Stamp) (access : String × Int) (token : String)
      (now expiresAt : Instant) (row : RefreshToken) :
      TokensTranscript user
        [⟨s₁, .sign ⟨user.id, user.role⟩, .ok access⟩,
          ⟨s₂, .newRefreshToken, token⟩, ⟨s₃, .now, now⟩,
          ⟨s₄, .store (.createRefreshToken ⟨user.id, refreshDigest token, expiresAt⟩),
            .ok row⟩]
        (.ok ⟨access.1, token, access.2⟩)

theorem tokensTranscript {settings : Auth.Settings} {user : User} {exchanges : List Exchange}
    {result : Except AuthError TokenPair}
    (path : Program.Path (Auth.generateTokens settings user) exchanges (.done result)) :
    TokensTranscript user exchanges result := by
  obtain ⟨s₁, signed, exchanges, rfl, signing⟩ := path.ended
  rcases signed with e | access
  · obtain ⟨rfl, ⟨⟩⟩ := signing.of_done
    exact .unsigned s₁ e
  · obtain ⟨s₂, token, exchanges, rfl, generating⟩ := signing.ended
    obtain ⟨s₃, now, exchanges, rfl, dating⟩ := generating.ended
    change Program.Path ((Auth.daysFrom now settings.refreshDays).bind _) _ _ at dating
    rcases Auth.daysFrom_cases now settings.refreshDays with ⟨-, later⟩ | ⟨-, reason, never⟩
    · rw [later] at dating
      obtain ⟨s₄, answer, exchanges, rfl, storing⟩ := dating.ended
      rcases answer with e | row
      · obtain ⟨rfl, ⟨⟩⟩ := storing.of_done
        exact .unstored s₁ s₂ s₃ s₄ access token now _ e
      · obtain ⟨rfl, ⟨⟩⟩ := storing.of_done
        exact .issued s₁ s₂ s₃ s₄ access token now _ row
    · rw [never] at dating
      obtain ⟨_, impossible, -⟩ := dating.ended
      cases impossible

theorem generateTokens_abandoned {settings : Auth.Settings} {user : User}
    {exchanges : List Exchange} {reason : String}
    {next : (Op.abort reason).Answer → Program (Except AuthError TokenPair)}
    (path : Program.Path (Auth.generateTokens settings user) exchanges
      (.ask (.abort reason) next)) :
    ∃ stamp now, ⟨stamp, .now, now⟩ ∈ exchanges ∧
      ¬(now.addSeconds (settings.refreshDays * 86400)).InRange := by
  obtain ⟨s₁, signed, exchanges, rfl, signing⟩ := path.past nofun
  rcases signed with e | access
  · cases signing.of_done.2
  · obtain ⟨s₂, token, exchanges, rfl, generating⟩ := signing.past nofun
    obtain ⟨s₃, now, exchanges, rfl, dating⟩ := generating.past nofun
    change Program.Path ((Auth.daysFrom now settings.refreshDays).bind _) _ _ at dating
    rcases Auth.daysFrom_cases now settings.refreshDays with ⟨-, later⟩ | ⟨outside, -⟩
    · rw [later] at dating
      obtain ⟨s₄, answer, exchanges, rfl, storing⟩ := dating.past nofun
      rcases answer with e | row
      · cases storing.of_done.2
      · cases storing.of_done.2
    · refine ⟨s₃, now, ?_, outside⟩
      exact List.mem_cons_of_mem _ (List.mem_cons_of_mem _ List.mem_cons_self)

theorem refresh_abandoned {settings : Auth.Settings} {token : String} {exchanges : List Exchange}
    {reason : String} {next : (Op.abort reason).Answer → Program (Except AuthError TokenPair)}
    (path : Program.Path (Auth.refresh settings token) exchanges (.ask (.abort reason) next)) :
    ∃ stamp now, ⟨stamp, .now, now⟩ ∈ exchanges ∧
      ¬(now.addSeconds (settings.refreshDays * 86400)).InRange := by
  obtain ⟨s₁, taken, exchanges, rfl, taking⟩ := path.past nofun
  rcases taken with e | row
  · cases e <;> cases taking.of_done.2
  · obtain ⟨s₂, now, exchanges, rfl, dating⟩ := taking.past nofun
    change Program.Path (if row.isExpired now then _ else _) _ _ at dating
    split at dating
    · cases dating.of_done.2
    · obtain ⟨s₃, found, exchanges, rfl, loading⟩ := dating.past nofun
      rcases found with e | user
      · cases e <;> cases loading.of_done.2
      · obtain ⟨stamp, later, member, outside⟩ := generateTokens_abandoned loading
        exact ⟨stamp, later, by simp [member], outside⟩

/-- All exchanges of a request that has ended, by which a refresh token was to
be exchanged for new tokens. -/
inductive RefreshTranscript (token : String) : List Exchange → Except AuthError TokenPair → Prop
  | unknown (s : Stamp) :
      RefreshTranscript token
        [⟨s, .store (.takeRefreshToken (refreshDigest token)), .error .notFound⟩]
        (.error .invalidToken)
  | untaken (s : Stamp) (e : StoreError) (other : e ≠ .notFound) :
      RefreshTranscript token [⟨s, .store (.takeRefreshToken (refreshDigest token)), .error e⟩]
        (.error (Auth.failed "taking refresh token" e))
  | expired (s₁ s₂ : Stamp) (row : RefreshToken) (now : Instant)
      (late : row.isExpired now = true) :
      RefreshTranscript token
        [⟨s₁, .store (.takeRefreshToken (refreshDigest token)), .ok row⟩,
          ⟨s₂, .now, now⟩]
        (.error .invalidToken)
  | ownerless (s₁ s₂ s₃ : Stamp) (row : RefreshToken) (now : Instant)
      (valid : row.isExpired now = false) :
      RefreshTranscript token
        [⟨s₁, .store (.takeRefreshToken (refreshDigest token)), .ok row⟩,
          ⟨s₂, .now, now⟩, ⟨s₃, .store (.findUserById row.userId), .error .notFound⟩]
        (.error .invalidToken)
  | unloaded (s₁ s₂ s₃ : Stamp) (row : RefreshToken) (now : Instant)
      (valid : row.isExpired now = false) (e : StoreError) (other : e ≠ .notFound) :
      RefreshTranscript token
        [⟨s₁, .store (.takeRefreshToken (refreshDigest token)), .ok row⟩,
          ⟨s₂, .now, now⟩, ⟨s₃, .store (.findUserById row.userId), .error e⟩]
        (.error (Auth.failed "loading token owner" e))
  | owned (s₁ s₂ s₃ : Stamp) (row : RefreshToken) (now : Instant)
      (valid : row.isExpired now = false) (user : User) (exchanges : List Exchange)
      (result : Except AuthError TokenPair) (tokens : TokensTranscript user exchanges result) :
      RefreshTranscript token
        (⟨s₁, .store (.takeRefreshToken (refreshDigest token)), .ok row⟩ ::
          ⟨s₂, .now, now⟩ ::
          ⟨s₃, .store (.findUserById row.userId), .ok user⟩ :: exchanges)
        result

theorem refreshTranscript {settings : Auth.Settings} {token : String} {exchanges : List Exchange}
    {result : Except AuthError TokenPair}
    (path : Program.Path (Auth.refresh settings token) exchanges (.done result)) :
    RefreshTranscript token exchanges result := by
  obtain ⟨s₁, taken, exchanges, rfl, taking⟩ := path.ended
  rcases taken with e | row
  · cases e <;> obtain ⟨rfl, ⟨⟩⟩ := taking.of_done
    · exact .unknown s₁
    · exact .untaken s₁ _ nofun
    · exact .untaken s₁ _ nofun
  · obtain ⟨s₂, now, exchanges, rfl, dating⟩ := taking.ended
    change Program.Path (if row.isExpired now then _ else _) _ _ at dating
    cases valid : row.isExpired now with
    | true =>
        rw [if_pos valid] at dating
        obtain ⟨rfl, ⟨⟩⟩ := dating.of_done
        exact .expired s₁ s₂ row now valid
    | false =>
        rw [if_neg (by simp [valid])] at dating
        obtain ⟨s₃, found, exchanges, rfl, loading⟩ := dating.ended
        rcases found with e | user
        · cases e <;> obtain ⟨rfl, ⟨⟩⟩ := loading.of_done
          · exact .ownerless s₁ s₂ s₃ row now valid
          · exact .unloaded s₁ s₂ s₃ row now valid _ nofun
          · exact .unloaded s₁ s₂ s₃ row now valid _ nofun
        · exact .owned s₁ s₂ s₃ row now valid user exchanges result
            (tokensTranscript loading)

end StatusPage
