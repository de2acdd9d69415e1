import Mathlib.Data.List.Nodup
import Mathlib.Data.List.Pairwise
import StatusPage.Proofs.RefreshPrograms

/-!
Refresh tokens are used at most once. A request that exchanges a token takes it out of the store,
looks at the clock and at the owner, and stores a new one, each in a turn of its own, with any other
requests in between. What makes this safe is that a token that has left the store never comes back:
each digest is stored once.
-/

set_option autoImplicit false

namespace StatusPage

open Store (Memory Stamp)
open Time (Instant)

namespace Exchange

def stored : Exchange → Option RefreshToken
  | ⟨_, .store (.createRefreshToken _), .ok token⟩ => some token
  | _ => none

def unsigned : Exchange → Bool
  | ⟨_, .sign _, .error _⟩ => true
  | _ => false

/-- After such an exchange a refresh token is not in the store any more. -/
def Removes (token : RefreshToken) (exchange : Exchange) : Prop :=
  exchange.op = .store (.takeRefreshToken token.digest) ∨
    exchange.op = .store (.deleteRefreshToken token.digest) ∨
      exchange.op = .store (.deleteUserRefreshTokens token.userId)

variable {exchange : Exchange} {memory : Memory}

theorem created_row {stamp : Stamp} {new : NewRefreshToken} {row : RefreshToken}
    (honest : (⟨stamp, .store (.createRefreshToken new), .ok row⟩ : Exchange).Honest memory) :
    row.userId = new.userId ∧ row.digest = new.digest :=
  (Memory.createRefreshToken_stored (Prod.ext honest.symm rfl)).2

private theorem stored_offered {token : RefreshToken} (honest : exchange.Honest memory)
    (stored : exchange.stored = some token) :
    ∃ new, exchange.offered = some new ∧ new.digest = token.digest := by
  obtain ⟨stamp, op, answer⟩ := exchange
  unfold Exchange.stored at stored
  split at stored
  · rename_i same
    cases same
    cases stored
    exact ⟨_, rfl, (created_row honest).2.symm⟩
  · cases stored

theorem taken_present {stamp : Stamp} {digest : String} {token : RefreshToken}
    (honest : (⟨stamp, .store (.takeRefreshToken digest),
      .ok token⟩ : Exchange).Honest memory) :
    token ∈ memory.refreshTokens ∧ token.digest = digest := by
  simp only [Honest, Memory.perform, Memory.takeRefreshToken] at honest
  split at honest
  · cases honest
  · rename_i row found
    cases honest
    exact Memory.findRefreshToken_spec found

private theorem take_error {stamp : Stamp} {digest : String} {e : StoreError}
    (honest : (⟨stamp, .store (.takeRefreshToken digest), .error e⟩ : Exchange).Honest memory) :
    e = .notFound := by
  simp only [Honest, Memory.perform, Memory.takeRefreshToken] at honest
  split at honest
  · cases honest
    rfl
  · cases honest

private theorem find_error {stamp : Stamp} {id : Uuid} {e : StoreError}
    (honest : (⟨stamp, .store (.findUserById id), .error e⟩ : Exchange).Honest memory) :
    e = .notFound := by
  simp only [Honest, Memory.perform, Memory.reading] at honest
  split at honest
  · cases honest
  · cases honest
    rfl

theorem found_present {stamp : Stamp} {id : Uuid} {user : User}
    (honest : (⟨stamp, .store (.findUserById id), .ok user⟩ : Exchange).Honest memory) :
    user ∈ memory.users ∧ user.id = id := by
  have found := (memory.reading_eq_ok).mp honest.symm
  exact ⟨List.mem_of_find?_eq_some found, by simpa using List.find?_some found⟩

private theorem offer_error {stamp : Stamp} {new : NewRefreshToken} {e : StoreError}
    (honest : (⟨stamp, .store (.createRefreshToken new), .error e⟩ : Exchange).Honest memory) :
    memory.hasUser new.userId = false ∨
    ∃ token ∈ memory.refreshTokens, token.digest = new.digest := by
  simp only [Honest, Memory.perform, Memory.createRefreshToken] at honest
  split at honest
  · rename_i unknown
    exact .inl (by simpa using unknown)
  · split at honest
    · rename_i present
      obtain ⟨token, found⟩ := Option.isSome_iff_exists.mp present
      exact .inr ⟨token, Memory.findRefreshToken_spec found⟩
    · cases honest

/-- The only way for a token to get into the store is to be created there. -/
theorem mem_refreshTokens_effect {token : RefreshToken} (honest : exchange.Honest memory)
    (present : token ∈ (exchange.effect memory).refreshTokens) :
    token ∈ memory.refreshTokens ∨ exchange.stored = some token := by
  obtain ⟨stamp, op, answer⟩ := exchange
  cases op with
  | store call =>
      have frame := memory.perform_unchanged stamp call
      cases call with
      | createRefreshToken new =>
          simp only [Honest] at honest
          subst honest
          simp only [effect, Memory.perform, Memory.createRefreshToken] at present ⊢
          split at present
          · exact .inl present
          · split at present
            · exact .inl present
            · rename_i known free
              rcases List.mem_cons.mp present with rfl | old
              · right
                simp [stored, known, free]
              · exact .inl old
      | takeRefreshToken digest =>
          left
          simp only [effect, Memory.perform, Memory.takeRefreshToken] at present
          split at present
          · exact present
          · exact List.mem_of_mem_filter present
      | deleteRefreshToken digest => exact .inl (List.mem_of_mem_filter present)
      | deleteUserRefreshTokens userId => exact .inl (List.mem_of_mem_filter present)
      | deleteExpiredRefreshTokens => exact .inl (List.mem_of_mem_filter present)
      | _ => exact .inl (frame.refreshTokens (by simp [Store.Call.writes]) ▸ present)
  | _ => exact .inl present

private theorem Removes.not_mem {token : RefreshToken} (removes : exchange.Removes token) :
    token ∉ (exchange.effect memory).refreshTokens := by
  obtain ⟨stamp, op, answer⟩ := exchange
  rcases removes with rfl | rfl | rfl
  · intro present
    simp only [effect, Memory.perform, Memory.takeRefreshToken] at present
    split at present
    · rename_i none
      simpa using List.find?_eq_none.mp none token present
    · simpa using (List.mem_filter.mp present).2
  · intro present
    simpa using (List.mem_filter.mp present).2
  · intro present
    simpa using (List.mem_filter.mp present).2

end Exchange

/-! ### Tokens that have been issued -/

/-- The refresh tokens that were in a store and those that have been stored since. -/
def issuedTokens (memory : Memory) (exchanges : List Exchange) : List RefreshToken :=
  memory.refreshTokens ++ exchanges.filterMap Exchange.stored

def offeredDigests (memory : Memory) (exchanges : List Exchange) : List String :=
  memory.refreshTokens.map RefreshToken.digest ++
    (exchanges.filterMap Exchange.offered).map NewRefreshToken.digest

section Issued

variable {memory : Memory} {exchanges before after : List Exchange} {token other : RefreshToken}

theorem issuedTokens_append (after : List Exchange)
    (issued : token ∈ issuedTokens memory before) :
    token ∈ issuedTokens memory (before ++ after) := by
  rw [issuedTokens, List.filterMap_append, ← List.append_assoc]
  exact List.mem_append_left _ issued

theorem mem_issuedTokens_of_present (honest : HonestFrom memory exchanges)
    (present : token ∈ (replay memory exchanges).refreshTokens) :
    token ∈ issuedTokens memory exchanges := by
  induction exchanges using List.reverseRecOn with
  | nil => simpa [issuedTokens] using present
  | append_singleton exchanges last ih =>
      obtain ⟨earlier, fits⟩ := honest.init
      rw [replay_append] at present
      rcases Exchange.mem_refreshTokens_effect fits present with old | new
      · exact issuedTokens_append [last] (ih earlier old)
      · refine List.mem_append_right _ (List.mem_filterMap.mpr ⟨last, ?_, new⟩)
        exact List.mem_append_right _ List.mem_cons_self

private theorem issuedTokens_digests_sublist (honest : HonestFrom memory exchanges) :
    ((issuedTokens memory exchanges).map RefreshToken.digest).Sublist
      (offeredDigests memory exchanges) := by
  induction exchanges using List.reverseRecOn with
  | nil => simp [issuedTokens, offeredDigests]
  | append_singleton exchanges last ih =>
      obtain ⟨earlier, fits⟩ := honest.init
      have sublist := ih earlier
      simp only [issuedTokens, offeredDigests, List.filterMap_append, List.map_append,
        ← List.append_assoc] at sublist ⊢
      refine sublist.append ?_
      cases stored : last.stored with
      | none => simp [stored]
      | some token =>
          obtain ⟨new, offered, digest⟩ := Exchange.stored_offered fits stored
          simp [stored, offered, digest]

private theorem offeredDigests_nodup_before
    (distinct : (offeredDigests memory (before ++ after)).Nodup) :
    (offeredDigests memory before).Nodup := by
  rw [offeredDigests, List.filterMap_append, List.map_append, ← List.append_assoc] at distinct
  exact (List.nodup_append.mp distinct).1

theorem issuedTokens_unique (honest : HonestFrom memory exchanges)
    (distinct : (offeredDigests memory exchanges).Nodup)
    (first : token ∈ issuedTokens memory exchanges)
    (second : other ∈ issuedTokens memory exchanges) (same : token.digest = other.digest) :
    token = other :=
  List.inj_on_of_nodup_map (distinct.sublist (issuedTokens_digests_sublist honest))
    first second same

/-- A token that has been issued and has left the store never comes back, nor does its digest. -/
theorem absent_stays (honest : HonestFrom memory (before ++ after))
    (distinct : (offeredDigests memory (before ++ after)).Nodup)
    (issued : token ∈ issuedTokens memory before)
    (absent : token ∉ (replay memory before).refreshTokens)
    (present : other ∈ (replay memory (before ++ after)).refreshTokens) :
    other.digest ≠ token.digest := by
  intro same
  have digests := distinct.sublist (issuedTokens_digests_sublist honest)
  rw [issuedTokens, List.filterMap_append, ← List.append_assoc, List.map_append] at digests
  have apart := (List.nodup_append.mp digests).2.2
  rw [replay_append] at present
  rcases List.mem_append.mp (mem_issuedTokens_of_present honest.split.2 present) with old | new
  · have equal := List.inj_on_of_nodup_map (List.nodup_append.mp digests).1
      (mem_issuedTokens_of_present honest.split.1 old) issued same
    exact absent (equal ▸ old)
  · exact apart _ (List.mem_map_of_mem issued) _ (List.mem_map_of_mem new) same.symm

theorem offered_absent {offer : Exchange} {new : NewRefreshToken}
    (honest : HonestFrom memory (before ++ offer :: after))
    (distinct : (offeredDigests memory (before ++ offer :: after)).Nodup)
    (offered : offer.offered = some new)
    (present : token ∈ (replay memory before).refreshTokens) : token.digest ≠ new.digest := by
  have earlier := (issuedTokens_digests_sublist honest.split.1).subset
    (List.mem_map_of_mem (mem_issuedTokens_of_present honest.split.1 present))
  rw [offeredDigests, List.filterMap_append, List.filterMap_cons_some offered, List.map_append,
    ← List.append_assoc] at distinct
  exact (List.nodup_append.mp distinct).2.2 _ earlier _ (List.mem_map_of_mem List.mem_cons_self)

end Issued

/-! ### Runs of the service -/

theorem mem_users_replay {user : User} {memory : Memory} (exchanges : List Exchange)
    (known : user ∈ memory.users) : user ∈ (replay memory exchanges).users := by
  induction exchanges generalizing memory with
  | nil => exact known
  | cons exchange rest ih =>
      refine ih ?_
      obtain ⟨stamp, op, answer⟩ := exchange
      cases op with
      | store call =>
          have frame := memory.perform_unchanged stamp call
          cases call with
          | createUser new =>
              simp only [Exchange.effect, Memory.perform, Memory.createUser]
              split
              · exact known
              · exact List.mem_cons_of_mem _ known
          | _ => exact frame.users (by simp [Store.Call.writes]) ▸ known
      | _ => exact known

section Runs

variable {settings : Auth.Settings} {memory : Memory} {moves : List (Move (authService settings))}

private theorem offered_generated {entry : Entry (authService settings)} {new : NewRefreshToken}
    (member : entry ∈ (Run.after memory moves).log)
    (offered : entry.exchange.offered = some new) :
    ∃ origin ∈ (Run.after memory moves).log, origin.task = entry.task ∧
      ∃ token, origin.exchange.generated = some token ∧ new.digest = refreshDigest token := by
  obtain ⟨rest, owner⟩ := Run.log_owner memory moves entry member
  have path := Run.view_path memory moves entry.task _ owner
  obtain ⟨token, known, digest⟩ :=
    path.offered_known (AuthRequest.program_offers settings entry.request).1
    entry.exchange (Run.mem_view.mpr ⟨entry, member, rfl, rfl⟩) new offered
  rw [List.append_nil, List.mem_filterMap] at known
  obtain ⟨exchange, happened, generated⟩ := known
  obtain ⟨origin, logged, same, rfl⟩ := Run.mem_view.mp happened
  exact ⟨origin, logged, same, token, generated, digest⟩

private theorem offers_of_offered {exchange : Exchange} {new : NewRefreshToken}
    (offered : exchange.offered = some new) : exchange.op.offersToken := by
  unfold Exchange.offered at offered
  split at offered
  · rfl
  · cases offered

theorem eq_of_same_image {α β γ : Type} {f : α → Option β} {g : β → γ} {list : List α}
    (nodup : ((list.filterMap f).map g).Nodup) {x y : α} {a b : β} (first : x ∈ list)
    (second : y ∈ list) (left : f x = some a) (right : f y = some b)
    (same : g a = g b) : x = y := by
  rw [List.Nodup, List.pairwise_map, List.pairwise_filterMap] at nodup
  have symmetric : Std.Symm fun x y => ∀ a, f x = some a →
      ∀ b, f y = some b → g a ≠ g b :=
    ⟨fun _ _ apart b right a left same => apart a left b right same.symm⟩
  by_contra different
  exact nodup.forall first second different a left b right same

theorem offeredDigests_nodup
    (distinct : (memory.refreshTokens.map RefreshToken.digest ++
      ((Run.after memory moves).exchanges.filterMap Exchange.generated).map refreshDigest).Nodup) :
    (offeredDigests memory (Run.after memory moves).exchanges).Nodup := by
  obtain ⟨stored, generated, apart⟩ := List.nodup_append.mp distinct
  rw [offeredDigests, List.nodup_append]
  refine ⟨stored, ?_, ?_⟩
  -- Two offers of one digest come from one generated token, hence from one
  -- request, which offers only once.
  · have once : ∀ entry ∈ (Run.after memory moves).log, entry.exchange.op.offersToken →
        entry.exchange.op.offersToken ∧
          ((authService settings).program entry.request).AsksAtMost Op.offersToken 1 :=
      fun entry _ offers => ⟨offers, (AuthRequest.program_offers settings entry.request).2⟩
    have tasks := Run.asked_once once
    rw [List.Nodup, List.pairwise_map, List.pairwise_filter] at tasks
    rw [Run.exchanges, List.filterMap_map] at generated ⊢
    rw [List.Nodup, List.pairwise_map, List.pairwise_filterMap]
    refine tasks.imp_of_mem
      fun {first second} member member' different new offered new' offered' same => ?_
    obtain ⟨origin, logged, mine, token, made, digest⟩ := offered_generated member offered
    obtain ⟨origin', logged', mine', token', made', digest'⟩ :=
      offered_generated member' offered'
    have equal : origin = origin' := eq_of_same_image generated logged logged' made made'
      (digest.symm.trans (same.trans digest'))
    subst equal
    exact different (offers_of_offered offered) (offers_of_offered offered') (mine.symm.trans mine')
  · intro digest old digest' offered
    obtain ⟨new, asked, rfl⟩ := List.mem_map.mp offered
    obtain ⟨exchange, happened, offers⟩ := List.mem_filterMap.mp asked
    obtain ⟨entry, logged, rfl⟩ := List.mem_map.mp happened
    obtain ⟨origin, logged', -, token, made, digest⟩ := offered_generated logged offers
    rw [digest]
    refine apart _ old _
      (List.mem_map_of_mem (List.mem_filterMap.mpr ⟨origin.exchange, ?_, made⟩))
    exact List.mem_map_of_mem logged'

end Runs

/-- The turns that use up a refresh token: its exchange for new tokens, its end by the owner or by
an administrator, and the end of all sessions of its owner. -/
inductive Entry.Ends {settings : Auth.Settings} (row : RefreshToken) :
    Entry (authService settings) → Prop
  | refresh (n : Nat) (token : String) (stamp : Stamp) (answer : Except StoreError RefreshToken)
      (mine : refreshDigest token = row.digest) :
      Ends row ⟨n, .refresh token,
        ⟨stamp, .store (.takeRefreshToken (refreshDigest token)), answer⟩⟩
  | logout (n : Nat) (token : String) (stamp : Stamp) (answer : Except StoreError Bool)
      (mine : refreshDigest token = row.digest) :
      Ends row ⟨n, .logout token,
        ⟨stamp, .store (.deleteRefreshToken (refreshDigest token)), answer⟩⟩
  | revoke (n : Nat) (token : String) (stamp : Stamp) (answer : Except StoreError Bool)
      (mine : refreshDigest token = row.digest) :
      Ends row ⟨n, .revoke token,
        ⟨stamp, .store (.deleteRefreshToken (refreshDigest token)), answer⟩⟩
  | logoutAll (n : Nat) (stamp : Stamp) (answer : Except StoreError Nat) :
      Ends row ⟨n, .logoutAll row.userId,
        ⟨stamp, .store (.deleteUserRefreshTokens row.userId), answer⟩⟩

theorem Entry.Ends.removes {settings : Auth.Settings} {row : RefreshToken}
    {entry : Entry (authService settings)} (ends : entry.Ends row) :
    entry.exchange.Removes row := by
  cases ends with
  | refresh n token stamp answer mine => exact .inl (mine ▸ rfl)
  | logout n token stamp answer mine => exact .inr (.inl (mine ▸ rfl))
  | revoke n token stamp answer mine => exact .inr (.inl (mine ▸ rfl))
  | logoutAll n stamp answer => exact .inr (.inr rfl)

/-- The requests that end a session, or all sessions of its owner, and begin none. -/
inductive AuthRequest.Closes (row : RefreshToken) : AuthRequest → Prop
  | logout (token : String) (mine : refreshDigest token = row.digest) : Closes row (.logout token)
  | revoke (token : String) (mine : refreshDigest token = row.digest) : Closes row (.revoke token)
  | logoutAll : Closes row (.logoutAll row.userId)

/-- A request to exchange a refresh token has ended, with this result. -/
def Run.Refreshed {settings : Auth.Settings} (run : Run (authService settings)) (n : Nat)
    (token : String) (result : Except AuthError TokenPair) : Prop :=
  run.tasks[n]? = some ⟨.refresh token, .done result⟩

/-- What a run over a store says about the exchange of refresh tokens. -/
structure SingleUse {settings : Auth.Settings} (memory : Memory)
    (moves : List (Move (authService settings))) : Prop where
  /-- A token is exchanged by one request at most. -/
  once : ∀ n m token first second, (Run.after memory moves).Refreshed n token (.ok first) →
    (Run.after memory moves).Refreshed m token (.ok second) → n = m
  /-- A token that has been issued and used up is not exchanged by a request that takes it later. -/
  ended : ∀ before ending between n token stamp answer after row,
    (Run.after memory moves).log = before ++ ending :: (between ++
      ⟨n, .refresh token,
        ⟨stamp, .store (.takeRefreshToken (refreshDigest token)), answer⟩⟩ :: after) →
    row ∈ issuedTokens memory (before.map Entry.exchange) → row.digest = refreshDigest token →
      ending.Ends row → ∀ pair, ¬(Run.after memory moves).Refreshed n token (.ok pair)
  /-- A logout, a revocation or an end of all sessions that has been answered has
  had its turn in the store. -/
  closed : ∀ n row (request : AuthRequest) result, request.Closes row →
    (Run.after memory moves).tasks[n]? = some ⟨request, .done result⟩ →
      ∃ entry ∈ (Run.after memory moves).log, entry.task = n ∧ entry.Ends row
  /-- A token is not exchanged by a request that finds, on looking at the clock, that
  it has expired. The clock is looked at once more when the new token is made; this
  second look does not matter. -/
  expired : ∀ n token row stamp now,
    row ∈ issuedTokens memory (Run.after memory moves).exchanges →
    row.digest = refreshDigest token →
      (((Run.after memory moves).view n).find? fun exchange => exchange.op == .now) =
        some ⟨stamp, .now, now⟩ →
        row.expiresAt ≤ now → ∀ pair, ¬(Run.after memory moves).Refreshed n token (.ok pair)
  /-- Every request that ends without new tokens says that the token is invalid. -/
  refused : ∀ n token e, (Run.after memory moves).Refreshed n token (.error e) →
    e = .invalidToken
  /-- A request gives up only when the new token would expire after the end of the calendar. -/
  abandoned : ∀ n (token reason : String) next,
    (Run.after memory moves).tasks[n]? =
        some (⟨.refresh token, .ask (.abort reason) next⟩ : Task (authService settings)) →
      ∃ stamp now, ⟨stamp, .now, now⟩ ∈ (Run.after memory moves).view n ∧
        ¬(now.addSeconds (settings.refreshDays * 86400)).InRange
  /-- A request that gets its turns ends or gives up. -/
  settlesInTime : ∀ earlier later (n : Nat) (token : String)
    (rest : Program (Except AuthError TokenPair)), moves = earlier ++ later →
      (Run.after memory earlier).tasks[n]? = some ⟨.refresh token, rest⟩ →
        7 < later.countP (Move.isTurnOf n) →
          ∃ rest, (Run.after memory moves).tasks[n]? = some ⟨.refresh token, rest⟩ ∧
            rest.Settled

theorem RefreshTranscript.granted {token : String} {exchanges : List Exchange} {pair : TokenPair}
    (transcript : RefreshTranscript token exchanges (.ok pair)) :
    ∃ s₁ s₂ row now rest,
      exchanges = ⟨s₁, .store (.takeRefreshToken (refreshDigest token)), .ok row⟩ ::
        ⟨s₂, .now, now⟩ :: rest ∧
        row.isExpired now = false ∧
        ∀ exchange ∈ rest, ∀ digest, exchange.op ≠ .store (.takeRefreshToken digest) := by
  cases transcript with
  | owned s₁ s₂ s₃ row now valid user exchanges result tokens =>
      refine ⟨s₁, s₂, row, now, _, rfl, valid, ?_⟩
      cases tokens with
      | issued => simp

section Runs

variable {settings : Auth.Settings} {memory : Memory} {moves : List (Move (authService settings))}

theorem Run.Refreshed.transcript {n : Nat} {token : String} {result : Except AuthError TokenPair}
    (ended : (Run.after memory moves).Refreshed n token result) :
    RefreshTranscript token ((Run.after memory moves).view n) result :=
  refreshTranscript (Run.view_path memory moves n _ ended)

theorem log_honest {before after : List (Entry (authService settings))}
    {entry : Entry (authService settings)}
    (split : (Run.after memory moves).log = before ++ entry :: after) :
    (Run.after memory moves).exchanges =
        before.map Entry.exchange ++ entry.exchange :: after.map Entry.exchange ∧
      HonestFrom memory (before.map Entry.exchange ++ entry.exchange ::
        after.map Entry.exchange) := by
  have exchanges : (Run.after memory moves).exchanges =
      before.map Entry.exchange ++ entry.exchange :: after.map Entry.exchange := by
    rw [Run.exchanges, split, List.map_append, List.map_cons]
  exact ⟨exchanges, exchanges ▸ (Run.replay_exchanges memory moves).2⟩

theorem not_granted_of_ended
    (distinct : (offeredDigests memory (Run.after memory moves).exchanges).Nodup)
    {before between after : List (Entry (authService settings))}
    {ending use : Entry (authService settings)} {token : String} {row : RefreshToken}
    (split : (Run.after memory moves).log = before ++ ending :: (between ++ use :: after))
    (takes : use.exchange.op = .store (.takeRefreshToken (refreshDigest token)))
    (issued : row ∈ issuedTokens memory (before.map Entry.exchange))
    (same : row.digest = refreshDigest token) (removes : ending.exchange.Removes row)
    (pair : TokenPair) :
    ¬(Run.after memory moves).Refreshed use.task token (.ok pair) := by
  intro granted
  obtain ⟨s₁, s₂, row', now, rest, view, -, others⟩ := granted.transcript.granted
  have regrouped :
      (Run.after memory moves).log = (before ++ ending :: between) ++ use :: after := by
    rw [split, List.append_assoc, List.cons_append]
  obtain ⟨exchanges, honest⟩ := log_honest regrouped
  -- The request takes only once, and it got a row then.
  have taken : use.exchange = ⟨s₁, .store (.takeRefreshToken (refreshDigest token)),
      .ok row'⟩ := by
    have member : use.exchange ∈ (Run.after memory moves).view use.task :=
      Run.mem_view.mpr ⟨use, regrouped ▸ List.mem_append_right _ List.mem_cons_self, rfl, rfl⟩
    rw [view] at member
    rcases List.mem_cons.mp member with first | member
    · exact first
    · rcases List.mem_cons.mp member with second | later
      · rw [second] at takes
        cases takes
      · exact absurd takes (others _ later _)
  have fits := honest _ _ _ rfl
  rw [taken] at fits
  obtain ⟨present, digest⟩ := Exchange.taken_present fits
  have grouped : (before ++ ending :: between).map Entry.exchange =
      before.map Entry.exchange ++ [ending.exchange] ++ between.map Entry.exchange := by
    rw [List.map_append, List.map_cons, List.append_cons]
  rw [grouped] at honest present exchanges
  have absent :
      row ∉ (replay memory (before.map Entry.exchange ++ [ending.exchange])).refreshTokens := by
    rw [replay_append]
    exact removes.not_mem
  have known : row ∈ issuedTokens memory (before.map Entry.exchange ++ [ending.exchange]) :=
    issuedTokens_append _ issued
  exact absent_stays honest.split.1 (offeredDigests_nodup_before (exchanges ▸ distinct)) known
    absent present
    (digest.trans same.symm)

/-- A request that has been granted has taken a row that had been issued before, and that was valid
when the request looked at the clock. -/
theorem Run.Refreshed.taken {n : Nat} {token : String} {pair : TokenPair}
    (granted : (Run.after memory moves).Refreshed n token (.ok pair)) :
    ∃ before use after row stamp now, (Run.after memory moves).log = before ++ use :: after ∧
      use.task = n ∧
      use.exchange.op = .store (.takeRefreshToken (refreshDigest token)) ∧
      row ∈ issuedTokens memory (before.map Entry.exchange) ∧
      row.digest = refreshDigest token ∧
      (((Run.after memory moves).view n).find? fun exchange => exchange.op == .now) =
        some ⟨stamp, .now, now⟩ ∧
      row.isExpired now = false := by
  obtain ⟨s₁, s₂, row, now, rest, view, valid, -⟩ := granted.transcript.granted
  obtain ⟨before, after, request, split, -⟩ :=
    Run.view_split (view.trans (List.nil_append _).symm)
  obtain ⟨-, honest⟩ := log_honest split
  obtain ⟨present, digest⟩ := Exchange.taken_present (honest _ _ _ rfl)
  refine ⟨before, _, after, row, s₂, now, split, rfl, rfl, ?_, digest, ?_, valid⟩
  · exact mem_issuedTokens_of_present honest.split.1 present
  · rw [view]
    rfl

private theorem equal_or_apart {α : Type} {list before after before' after' : List α} {x y : α}
    (first : list = before ++ x :: after) (second : list = before' ++ y :: after') :
    x = y ∨ (∃ between, list = before ++ x :: (between ++ y :: after')) ∨
      ∃ between, list = before' ++ y :: (between ++ x :: after) := by
  rcases List.append_eq_append_iff.mp (first.symm.trans second)
    with ⟨middle, -, rest⟩ | ⟨middle, -, rest⟩
  · cases middle with
    | nil => exact .inl (List.cons.inj rest).1
    | cons _ between =>
        obtain ⟨rfl, rfl⟩ := List.cons.inj rest
        exact .inr (.inl ⟨between, first⟩)
  · cases middle with
    | nil => exact .inl (List.cons.inj rest).1.symm
    | cons _ between =>
        obtain ⟨rfl, rfl⟩ := List.cons.inj rest
        exact .inr (.inr ⟨between, second⟩)

private theorem granted_once
    (distinct : (offeredDigests memory (Run.after memory moves).exchanges).Nodup)
    {n m : Nat} {token : String} {first second : TokenPair}
    (granted : (Run.after memory moves).Refreshed n token (.ok first))
    (granted' : (Run.after memory moves).Refreshed m token (.ok second)) : n = m := by
  obtain ⟨before, use, after, row, -, -, split, rfl, takes, issued, digest, -⟩ := granted.taken
  obtain ⟨before', use', after', row', -, -, split', rfl, takes', issued', digest', -⟩ :=
    granted'.taken
  rcases equal_or_apart split split' with rfl | ⟨between, ordered⟩ | ⟨between, ordered⟩
  · rfl
  · exact absurd granted'
      (not_granted_of_ended distinct ordered takes' issued digest (.inl (digest ▸ takes)) second)
  · exact absurd granted
      (not_granted_of_ended distinct ordered takes issued' digest'
        (.inl (digest' ▸ takes')) first)

private theorem not_granted_of_expired
    (distinct : (offeredDigests memory (Run.after memory moves).exchanges).Nodup)
    {n : Nat} {token : String} {row : RefreshToken} {stamp : Stamp} {now : Instant}
    (issued : row ∈ issuedTokens memory (Run.after memory moves).exchanges)
    (same : row.digest = refreshDigest token)
    (looked : (((Run.after memory moves).view n).find? fun exchange => exchange.op == .now) =
      some ⟨stamp, .now, now⟩)
    (late : row.expiresAt ≤ now) (pair : TokenPair) :
    ¬(Run.after memory moves).Refreshed n token (.ok pair) := by
  intro granted
  obtain ⟨before, use, after, row', stamp', now', split, -, -, issued', digest,
    looked', valid⟩ := granted.taken
  obtain ⟨exchanges, honest⟩ := log_honest split
  rw [exchanges] at issued distinct
  have equal : row = row' :=
    issuedTokens_unique honest distinct issued (issuedTokens_append _ issued')
      (same.trans digest.symm)
  rw [looked] at looked'
  cases looked'
  rw [← equal, RefreshToken.isExpired, decide_eq_false_iff_not] at valid
  exact valid late

private theorem ends_of_answered {n : Nat} {row : RefreshToken} {request : AuthRequest}
    {result : (authService settings).Result request} (closes : request.Closes row)
    (answered : (Run.after memory moves).tasks[n]? = some ⟨request, .done result⟩) :
    ∃ entry ∈ (Run.after memory moves).log, entry.task = n ∧ entry.Ends row := by
  have path := Run.view_path memory moves n _ answered
  cases closes with
  | logout token mine =>
      obtain ⟨stamp, answer, later, view, -⟩ := path.ended
      exact ⟨_, Run.logged_of_view answered (view ▸ List.mem_cons_self), rfl,
        .logout n token stamp answer mine⟩
  | revoke token mine =>
      obtain ⟨stamp, answer, later, view, -⟩ := path.ended
      exact ⟨_, Run.logged_of_view answered (view ▸ List.mem_cons_self), rfl,
        .revoke n token stamp answer mine⟩
  | logoutAll =>
      obtain ⟨stamp, answer, later, view, -⟩ := path.ended
      exact ⟨_, Run.logged_of_view answered (view ▸ List.mem_cons_self), rfl,
        .logoutAll n stamp answer⟩

theorem view_honest {n : Nat} {exchange : Exchange}
    (member : exchange ∈ (Run.after memory moves).view n) :
    ∃ reached, exchange.Honest reached := by
  obtain ⟨entry, logged, -, rfl⟩ := Run.mem_view.mp member
  obtain ⟨before, after, split⟩ := List.append_of_mem logged
  exact ⟨_, (log_honest split).2 _ _ _ rfl⟩

private theorem offer_stored
    (distinct : (offeredDigests memory (Run.after memory moves).exchanges).Nodup)
    {n : Nat} {first last : List Exchange} {stamp : Stamp} {lookup : Exchange} {user : User}
    {new : NewRefreshToken} {e : StoreError} (owner : new.userId = user.id)
    (finds : ∀ reached, lookup.Honest reached → user ∈ reached.users)
    (loaded : lookup ∈ first) :
    (Run.after memory moves).view n ≠
      first ++ ⟨stamp, .store (.createRefreshToken new), .error e⟩ :: last := by
  intro view
  obtain ⟨before, after, request, split, earlier⟩ := Run.view_split view
  obtain ⟨exchanges, honest⟩ := log_honest split
  rw [exchanges] at distinct
  rcases Exchange.offer_error (honest _ _ _ rfl) with unknown | ⟨row, present, same⟩
  · rw [← earlier] at loaded
    obtain ⟨entry, mine, rfl⟩ := List.mem_map.mp loaded
    obtain ⟨front, back, parts⟩ :=
      List.append_of_mem (List.mem_map_of_mem (f := Entry.exchange) (List.mem_of_mem_filter mine))
    rw [parts] at honest unknown
    have known := mem_users_replay (entry.exchange :: back) (finds _ (honest.split.1 _ _ _ rfl))
    rw [← replay_append] at known
    have absent := List.any_eq_false.mp unknown user known
    exact absent (by rw [owner, beq_self_eq_true])
  · exact offered_absent honest distinct rfl present same

theorem tokens_issued (digests : (offeredDigests memory (Run.after memory moves).exchanges).Nodup)
    (signed : ∀ exchange ∈ (Run.after memory moves).exchanges, exchange.unsigned = false)
    {n : Nat} {lookup : Exchange} {user : User} {exchanges : List Exchange}
    {result : Except AuthError TokenPair}
    (finds : ∀ reached, lookup.Honest reached → user ∈ reached.users) (first : List Exchange)
    (loaded : lookup ∈ first) (view : (Run.after memory moves).view n = first ++ exchanges)
    (tokens : TokensTranscript user exchanges result) :
    ∃ pair, result = .ok pair := by
  cases tokens with
  | unsigned s e =>
      have member : ⟨s, .sign ⟨user.id, user.role⟩, .error e⟩ ∈
          (Run.after memory moves).view n := by
        rw [view]
        simp
      cases signed _ (Run.mem_exchanges member)
  | unstored s₁ s₂ s₃ s₄ access token now expiresAt e =>
      have regrouped : (Run.after memory moves).view n =
          (first ++ [⟨s₁, .sign ⟨user.id, user.role⟩, .ok access⟩,
            ⟨s₂, .newRefreshToken, token⟩, ⟨s₃, .now, now⟩]) ++
            ⟨s₄, .store (.createRefreshToken ⟨user.id, refreshDigest token, expiresAt⟩),
              .error e⟩ :: [] := by
        rw [view, List.append_assoc]
        rfl
      exact absurd regrouped (offer_stored digests rfl finds (List.mem_append_left _ loaded))
  | issued => exact ⟨_, rfl⟩

private theorem refused_invalid
    (distinct : (offeredDigests memory (Run.after memory moves).exchanges).Nodup)
    (signed : ∀ exchange ∈ (Run.after memory moves).exchanges, exchange.unsigned = false)
    {n : Nat} {token : String} {e : AuthError}
    (refused : (Run.after memory moves).Refreshed n token (.error e)) :
    e = .invalidToken := by
  have transcript := refused.transcript
  generalize view : (Run.after memory moves).view n = exchanges at transcript
  generalize outcome : Except.error e = result at transcript
  cases transcript with
  | unknown s => exact (Except.error.inj outcome)
  | untaken s e other =>
      obtain ⟨_, honest⟩ := view_honest (view ▸ List.mem_cons_self)
      exact absurd (Exchange.take_error honest) other
  | expired s₁ s₂ row now late => exact (Except.error.inj outcome)
  | ownerless s₁ s₂ s₃ row now valid => exact (Except.error.inj outcome)
  | unloaded s₁ s₂ s₃ row now valid e other =>
      have member : ⟨s₃, .store (.findUserById row.userId), .error e⟩ ∈
          (Run.after memory moves).view n := by
        rw [view]
        simp
      obtain ⟨_, honest⟩ := view_honest member
      exact absurd (Exchange.find_error honest) other
  | owned s₁ s₂ s₃ row now valid user exchanges result tokens =>
      have issued :=
        tokens_issued distinct signed (fun _ honest => (Exchange.found_present honest).1) [_, _, _]
        (List.mem_cons_of_mem _ (List.mem_cons_of_mem _ List.mem_cons_self)) view tokens
      obtain ⟨pair, rfl⟩ := issued
      cases outcome

end Runs

/-- In every run of any requests over any store, in which all refresh tokens are different and no
signing fails, refresh tokens are used at most once. -/
theorem refresh_single_use {settings : Auth.Settings} (memory : Memory)
    (moves : List (Move (authService settings)))
    (distinct : (memory.refreshTokens.map RefreshToken.digest ++
      ((Run.after memory moves).exchanges.filterMap Exchange.generated).map refreshDigest).Nodup)
    (signed : ∀ exchange ∈ (Run.after memory moves).exchanges, exchange.unsigned = false) :
    SingleUse memory moves := by
  have digests := offeredDigests_nodup distinct
  constructor
  · intro n m token first second granted granted'
    exact granted_once digests granted granted'
  · intro before ending between n token stamp answer after row split issued same ends pair
    exact not_granted_of_ended digests split rfl issued same ends.removes pair
  · intro n row request result closes answered
    exact ends_of_answered closes answered
  · intro n token row stamp now issued same looked late pair
    exact not_granted_of_expired digests issued same looked late pair
  · intro n token e refused
    exact refused_invalid digests signed refused
  · intro n token reason next waiting
    exact refresh_abandoned (Run.view_path memory moves n _ waiting)
  · rintro earlier later n token rest rfl found turns
    exact Run.settles found (refresh_asks_seven settings token) turns

/-- Two requests exchange the token of one login. The second is first to get an answer, and the
other finds nothing. -/
def racingRefreshes : List (Move (authService ⟨7, ""⟩)) :=
  [.arrival (.register ⟨"ada@example.org", "secret", none, none⟩),
    .turn 0 (.plain 1 1), .turn 0 (.plain 2 2), .turn 0 (.plain 3 3),
    .arrival (.login "ada@example.org" "secret"),
    .turn 1 (.plain 4 4), .turn 1 (.plain 5 5), .turn 1 (.plain 6 6), .turn 1 (.plain 7 7),
    .turn 1 (.plain 8 8), .turn 1 (.plain 9 9),
    .arrival (.refresh "rrrrrrr"), .arrival (.refresh "rrrrrrr"),
    .turn 3 (.plain 10 10), .turn 2 (.plain 11 11), .turn 3 (.plain 12 12), .turn 3 (.plain 13 13),
    .turn 3 (.plain 14 14), .turn 3 (.plain 15 15), .turn 3 (.plain 16 16), .turn 3 (.plain 17 17)]

theorem racingRefreshes_single_use :
    SingleUse .empty racingRefreshes ∧
      ((Run.after .empty racingRefreshes).exchanges.filterMap Exchange.stored).map
        RefreshToken.createdAt = [⟨9, 0⟩, ⟨17, 0⟩] :=
  ⟨refresh_single_use .empty racingRefreshes (by decide +kernel) (by decide +kernel),
    by decide +kernel⟩

/-! ### Refresh tokens that would outlast the calendar -/

/-- Refresh tokens that are made on the first day of 1970 expire on the last day of the calendar.
The token of a login on this day is exchanged on the next one. -/
def lastingTokens : List (Move (authService ⟨95026236, ""⟩)) :=
  [.arrival (.register ⟨"ada@example.org", "secret", none, none⟩),
    .turn 0 (.plain 86391 1), .turn 0 (.plain 86392 2), .turn 0 (.plain 86393 3),
    .arrival (.login "ada@example.org" "secret"),
    .turn 1 (.plain 86394 4), .turn 1 (.plain 86395 5), .turn 1 (.plain 86396 6),
    .turn 1 (.plain 86397 7), .turn 1 (.plain 86398 8), .turn 1 (.plain 86399 9),
    .arrival (.refresh "rrrrrrr"),
    .turn 2 (.plain 86400 10), .turn 2 (.plain 86401 11), .turn 2 (.plain 86402 12),
    .turn 2 (.plain 86403 13), .turn 2 (.plain 86404 14), .turn 2 (.plain 86405 15)]

/-- The refresh takes the token of the login, which is valid, and then gives up: it has no answer,
neither new tokens nor that the token is invalid, however long the run goes on. -/
theorem lastingTokens_unanswered :
    Auth.Settings.ofDays 95026236 "" = .ok ⟨95026236, ""⟩ ∧
      (Memory.empty.refreshTokens.map RefreshToken.digest ++
        ((Run.after .empty lastingTokens).exchanges.filterMap Exchange.generated).map
        refreshDigest).Nodup ∧
      (∀ exchange ∈ (Run.after .empty lastingTokens).exchanges, exchange.unsigned = false) ∧
      ((Run.after .empty lastingTokens).exchanges.filterMap Exchange.stored).map
        RefreshToken.digest = [refreshDigest "rrrrrrr"] ∧
      (Run.after .empty lastingTokens).memory.refreshTokens = [] ∧
      ∀ later result,
        ¬(Run.after .empty (lastingTokens ++ later)).Refreshed 2 "rrrrrrr" result := by
  have gone : (Run.after .empty lastingTokens).abandoned 2 = true := by decide +kernel
  obtain ⟨request, reason, next, found⟩ := Run.abandoned_rest gone
  refine ⟨by decide +kernel, by decide +kernel, by decide +kernel, by decide +kernel,
    by decide +kernel, ?_⟩
  intro later result ended
  rw [Run.Refreshed, Run.settled_stays found trivial later] at ended
  cases ended

end StatusPage
