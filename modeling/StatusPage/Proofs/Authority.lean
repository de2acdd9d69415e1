import StatusPage.Proofs.RequestEffects

/-!
What has changed in the store after an answer, collection by collection, shows what authority the
request had.
-/

set_option autoImplicit false

namespace StatusPage

open Store (Memory Stamp)

/-! ### What single calls leave alone -/

namespace Store.Memory

variable {memory after : Memory} {stamp : Stamp}

private theorem of_dropRefreshTokens {drop : RefreshToken → Bool} {row : RefreshToken}
    (known : row ∈ memory.refreshTokens)
    (gone : row ∉ (memory.dropRefreshTokens drop).refreshTokens) :
    drop row = true := by
  cases dropped : drop row with
  | true => rfl
  | false => exact absurd (List.mem_filter.mpr ⟨known, by rw [dropped]; rfl⟩) gone

theorem digest_of_dropped {digest : String} {row : RefreshToken}
    (known : row ∈ memory.refreshTokens)
    (gone : row ∉ (memory.dropRefreshTokens fun token => token.digest == digest).refreshTokens) :
    digest = row.digest := by
  have same := of_dropRefreshTokens known gone
  exact (eq_of_beq same).symm

theorem owner_of_dropped {userId : Uuid} {row : RefreshToken} (known : row ∈ memory.refreshTokens)
    (gone : row ∉ (memory.dropRefreshTokens fun token => token.userId == userId).refreshTokens) :
    userId = row.userId := by
  have same := of_dropRefreshTokens known gone
  exact (eq_of_beq same).symm

theorem mem_of_dropRefreshTokens {drop : RefreshToken → Bool} {row : RefreshToken}
    (member : row ∈ (memory.dropRefreshTokens drop).refreshTokens) :
    row ∈ memory.refreshTokens :=
  (List.mem_filter.mp member).1

theorem createUser_users (memory : Memory) (stamp : Stamp) (new : NewUser) :
    (memory.perform stamp (.createUser new)).2.users = memory.users ∨
      ∃ user, (memory.perform stamp (.createUser new)).2.users = user :: memory.users ∧
        user.role = new.role.name := by
  simp only [perform, createUser]
  split
  · exact .inl rfl
  · exact .inr ⟨_, rfl, rfl⟩

private theorem find_others {subscriptions : List Subscription} {mine userId : Uuid}
    (other : userId ≠ mine) :
    (subscriptions.filter fun subscription => subscription.userId != mine).find?
        (fun subscription => subscription.userId == userId) =
      subscriptions.find? fun subscription => subscription.userId == userId := by
  rw [List.find?_filter]
  congr 1
  funext subscription
  by_cases same : subscription.userId = userId
  · simp [same, other]
  · simp [same]

theorem setSubscription_others {mine userId : Uuid} (serviceIds : List Uuid)
    (other : userId ≠ mine) :
    (memory.perform stamp (.setSubscription mine serviceIds)).2.findSubscription userId =
      memory.findSubscription userId := by
  simp only [perform, setSubscription]
  split
  · rfl
  · have owner :
        ((memory.findSubscription mine).getD ⟨stamp.id, mine, [], stamp.now⟩).userId =
          mine := by
      cases found : memory.findSubscription mine with
      | none => rfl
      | some subscription => simpa using List.find?_some found
    rw [findSubscription, List.find?_cons_of_neg (by simpa [owner] using other.symm),
      find_others other]
    rfl

theorem deleteSubscription_others {mine userId : Uuid} (other : userId ≠ mine) :
    (memory.perform stamp (.deleteSubscription mine)).2.findSubscription userId =
      memory.findSubscription userId := by
  simp only [perform, deleteSubscription]
  split
  · rfl
  · exact find_others other

/-- What is reserved for operators leaves every event in place, together with the template that it
is made from. -/
theorem operator_keeps (stamp : Stamp) {call : Call} {id : Uuid} {event : Event}
    (reserved : call.role = some .operator) (found : memory.findEvent id = some event) :
    ∃ later ∈ (memory.perform stamp call).2.events, later.id = id ∧
      later.templateId = event.templateId := by
  have member := List.mem_of_find?_eq_some found
  have key : event.id = id := by simpa using List.find?_some found
  cases call with
  | createEvent new =>
      simp only [perform, createEvent]
      split
      · exact ⟨event, member, key, rfl⟩
      · exact ⟨event, List.mem_cons_of_mem _ member, key, rfl⟩
  | recordUpdate eventId new =>
      simp only [perform, recordUpdate]
      split
      · exact ⟨event, member, key, rfl⟩
      · rename_i old looked
        refine ⟨_, List.mem_map_of_mem member, ?_⟩
        by_cases same : event.id = eventId
        · rw [if_pos same]
          rw [← same, key, found] at looked
          cases looked
          exact ⟨key, rfl⟩
        · rw [if_neg same]
          exact ⟨key, rfl⟩
  | _ => cases reserved

end Store.Memory

/-! ### What the collections tell of a request -/

/-- A session ends by its refresh token, or with all sessions of its user. -/
def MayEnd (app : Application) (request : Http.Request) (before : World)
    (row : RefreshToken) : Prop :=
  ((request.Posts "refresh" ∨ request.Posts "logout") ∧
      ∃ presented, Http.readRecord PresentedToken.fields request = .ok presented ∧
        refreshDigest presented.token = row.digest) ∨
    (request.Posts "logout-all" ∧ ∃ caller, app.Bearer request before caller ∧
      caller.userId = row.userId)

/-- A session begins with a password, or goes on by a refresh token of the same user. -/
def MayStart (request : Http.Request) (before : World) (row : RefreshToken) : Prop :=
  (request.Posts "login" ∧
      ∃ credentials, Http.readRecord Credentials.fields request = .ok credentials ∧
        ∃ user ∈ before.memory.users, user.id = row.userId ∧
          user.email = Auth.normalizeEmail credentials.email ∧
          Auth.verifyPassword credentials.password user.passwordHash = .ok true) ∨
    (request.Posts "refresh" ∧
      ∃ presented, Http.readRecord PresentedToken.fields request = .ok presented ∧
        ∃ old ∈ before.memory.refreshTokens, old.userId = row.userId ∧
          old.digest = refreshDigest presented.token)

/-- What must be true of a request that has changed the store, by what has changed. -/
structure AuthorityFrame (app : Application) (request : Http.Request) (before : World)
    (status : Nat) (after : Memory) : Prop where
  /-- Events and their history are changed by operators. -/
  events : after.events ≠ before.memory.events ∨ after.updates ≠ before.memory.updates →
    app.Allowed request before .operator
  /-- An event is taken away, or parted from its template, by admins. -/
  kept : ∀ id event, before.memory.findEvent id = some event →
    (∀ later ∈ after.events, later.id = id → later.templateId ≠ event.templateId) →
      app.Allowed request before .admin
  templates : after.templates ≠ before.memory.templates → app.Allowed request before .admin
  subscriptions : ∀ userId,
    after.findSubscription userId ≠ before.memory.findSubscription userId →
    ∃ caller, app.Bearer request before caller ∧ caller.userId = userId
  removed : ∀ row ∈ before.memory.refreshTokens, row ∉ after.refreshTokens →
    MayEnd app request before row
  added : ∀ row ∈ after.refreshTokens, row ∉ before.memory.refreshTokens →
    status = 200 ∧ MayStart request before row
  users : after.users = before.memory.users ∨
    request.Posts "register" ∧ ∃ user, after.users = user :: before.memory.users ∧
      user.role = "user"
  channels : after.channels = before.memory.channels

private theorem Role.permits_of_le {text : String} {required lower : Role}
    (le : lower.rank ≤ required.rank) (permitted : Role.permits text required) :
    Role.permits text lower := by
  simp only [Role.permits, decide_eq_true_eq] at permitted ⊢
  omega

namespace Store.Call

variable {call : Store.Call} {role : Role}

private theorem operator_le_role (reserved : call.role = some role) :
    Role.rank .operator ≤ role.rank := by
  cases call with
  | createEvent | recordUpdate | deleteEvent | createTemplate | updateTemplate | deleteTemplate =>
      cases reserved
      decide
  | _ => cases reserved

private theorem not_writes_of_role {collection : Collection} (reserved : call.role = some role)
    (other : collection ∉ [Collection.events, .updates, .templates]) :
    collection ∉ call.writes := by
  simp only [List.mem_cons, List.not_mem_nil, or_false, not_or] at other
  obtain ⟨events, updates, templates⟩ := other
  cases call with
  | createEvent | recordUpdate | deleteEvent | createTemplate | updateTemplate | deleteTemplate =>
      simp [writes, events, updates, templates]
  | _ => cases reserved

private theorem role_of_writes_templates (reserved : call.role = some role)
    (written : .templates ∈ call.writes) :
    role = .admin := by
  cases call with
  | createEvent | recordUpdate | deleteEvent => simp [writes] at written
  | createTemplate | updateTemplate | deleteTemplate =>
      cases reserved
      rfl
  | _ => cases reserved

end Store.Call

namespace MayCall

variable {app : Application} {request : Http.Request} {world : World} {call : Store.Call}

private theorem not_writes (may : MayCall app request world call) :
    .refreshTokens ∉ call.writes ∧ .channels ∉ call.writes := by
  cases may with
  | register | subscribe | unsubscribe => simp [Store.Call.writes]
  | work call role reserved =>
      constructor
      · exact Store.Call.not_writes_of_role reserved (by decide)
      · exact Store.Call.not_writes_of_role reserved (by decide)

theorem users (may : MayCall app request world call) (written : .users ∈ call.writes) :
    request.Posts "register" ∧ ∃ new, call = .createUser new ∧ new.role = .user := by
  cases may with
  | register new posted least => exact ⟨posted, new, rfl, least⟩
  | subscribe | unsubscribe => simp [Store.Call.writes] at written
  | work call role reserved =>
      exact absurd written (Store.Call.not_writes_of_role reserved (by decide))

theorem subscriptions (may : MayCall app request world call)
    (written : .subscriptions ∈ call.writes) :
    ∃ caller, app.Bearer request world caller ∧
      ((∃ serviceIds, call = .setSubscription caller.userId serviceIds) ∨
        call = .deleteSubscription caller.userId) := by
  cases may with
  | register => simp [Store.Call.writes] at written
  | subscribe caller serviceIds bearer => exact ⟨caller, bearer, .inl ⟨serviceIds, rfl⟩⟩
  | unsubscribe caller bearer => exact ⟨caller, bearer, .inr rfl⟩
  | work call role reserved =>
      exact absurd written (Store.Call.not_writes_of_role reserved (by decide))

theorem reserved (may : MayCall app request world call)
    (written : .events ∈ call.writes ∨ .updates ∈ call.writes ∨ .templates ∈
      call.writes) :
    ∃ role, call.role = some role ∧ app.Allowed request world role := by
  cases may with
  | register | subscribe | unsubscribe => simp [Store.Call.writes] at written
  | work call role reserved allowed => exact ⟨role, reserved, allowed⟩

end MayCall

theorem Application.Allowed.operator {app : Application} {request : Http.Request} {world : World}
    {call : Store.Call} {role : Role} (allowed : app.Allowed request world role)
    (reserved : call.role = some role) : app.Allowed request world .operator := by
  obtain ⟨caller, bearer, permitted⟩ := allowed
  exact ⟨caller, bearer, Role.permits_of_le (Store.Call.operator_le_role reserved) permitted⟩

namespace Authorized

variable {app : Application} {request : Http.Request} {world : World} {status : Nat}
  {after : Memory}

/-- A store is changed in its refresh tokens only, or by one call for which there is authority. -/
theorem sessions_or_call (authorized : Authorized app request world status after) :
    Memory.Unchanged [.refreshTokens] world.memory after ∨
      ∃ stamp call, MayCall app request world call ∧
        after = (world.memory.perform stamp call).2 := by
  cases authorized with
  | unchanged status => exact .inl (.refl world.memory _)
  | called status stamp call may => exact .inr ⟨stamp, call, may, rfl⟩
  | loggedIn stamp credentials user new row after posted read known address matching owner stored =>
      exact .inl (Memory.unchanged_of_perform _ _ stored)
  | ended status presented posted read => exact .inl (world.memory.dropRefreshTokens_unchanged _)
  | refreshed stamp presented old row new after posted read known digest owner stored =>
      exact .inl ((world.memory.dropRefreshTokens_unchanged _).trans
        (Memory.unchanged_of_perform _ _ stored))
  | endedAll status caller posted bearer => exact .inl (world.memory.dropRefreshTokens_unchanged _)

theorem events (authorized : Authorized app request world status after)
    (changed : after.events ≠ world.memory.events ∨ after.updates ≠ world.memory.updates) :
    app.Allowed request world .operator := by
  rcases authorized.sessions_or_call with same | ⟨stamp, call, may, rfl⟩
  · rcases changed with events | updates
    · exact absurd (same.events (by decide)) events
    · exact absurd (same.updates (by decide)) updates
  · have frame := world.memory.perform_unchanged stamp call
    have written : .events ∈ call.writes ∨ .updates ∈ call.writes ∨
        .templates ∈ call.writes := by
      by_contra none
      obtain ⟨events, updates, -⟩ : _ ∧ _ ∧ _ := by simpa only [not_or] using none
      exact changed.elim (· (frame.events events)) (· (frame.updates updates))
    obtain ⟨role, reserved, allowed⟩ := may.reserved written
    exact allowed.operator reserved

theorem kept (authorized : Authorized app request world status after) {id : Uuid} {event : Event}
    (found : world.memory.findEvent id = some event)
    (gone : ∀ later ∈ after.events, later.id = id → later.templateId ≠ event.templateId) :
    app.Allowed request world .admin := by
  have changed : after.events ≠ world.memory.events := by
    intro same
    have key : event.id = id := by simpa using List.find?_some found
    exact gone event (same ▸ List.mem_of_find?_eq_some found) key rfl
  rcases authorized.sessions_or_call with same | ⟨stamp, call, may, rfl⟩
  · exact absurd (same.events (by decide)) changed
  · have written : .events ∈ call.writes := by
      by_contra none
      exact changed ((world.memory.perform_unchanged stamp call).events none)
    obtain ⟨role, reserved, allowed⟩ := may.reserved (.inl written)
    -- Calls for operators keep the event, so that only the calls for admins are left.
    cases role with
    | user => exact absurd (Store.Call.operator_le_role reserved) (by decide)
    | operator =>
        obtain ⟨later, member, key, template⟩ := Memory.operator_keeps stamp reserved found
        exact absurd template (gone later member key)
    | admin => exact allowed

theorem templates (authorized : Authorized app request world status after)
    (changed : after.templates ≠ world.memory.templates) : app.Allowed request world .admin := by
  rcases authorized.sessions_or_call with same | ⟨stamp, call, may, rfl⟩
  · exact absurd (same.templates (by decide)) changed
  · have written : .templates ∈ call.writes := by
      by_contra none
      exact changed ((world.memory.perform_unchanged stamp call).templates none)
    obtain ⟨role, reserved, allowed⟩ := may.reserved (.inr (.inr written))
    cases Store.Call.role_of_writes_templates reserved written
    exact allowed

theorem subscriptions (authorized : Authorized app request world status after) {userId : Uuid}
    (changed : after.findSubscription userId ≠ world.memory.findSubscription userId) :
    ∃ caller, app.Bearer request world caller ∧ caller.userId = userId := by
  have differ : after.subscriptions ≠ world.memory.subscriptions := by
    intro same
    apply changed
    rw [Memory.findSubscription, Memory.findSubscription, same]
  rcases authorized.sessions_or_call with same | ⟨stamp, call, may, rfl⟩
  · exact absurd (same.subscriptions (by decide)) differ
  · have written : .subscriptions ∈ call.writes := by
      by_contra none
      exact differ ((world.memory.perform_unchanged stamp call).subscriptions none)
    obtain ⟨caller, bearer, call⟩ := may.subscriptions written
    refine ⟨caller, bearer, ?_⟩
    by_contra other
    rcases call with ⟨serviceIds, rfl⟩ | rfl
    · exact changed (Memory.setSubscription_others serviceIds (Ne.symm other))
    · exact changed (Memory.deleteSubscription_others (Ne.symm other))

theorem users (authorized : Authorized app request world status after) :
    after.users = world.memory.users ∨
      request.Posts "register" ∧ ∃ user, after.users = user :: world.memory.users ∧
        user.role = "user" := by
  rcases authorized.sessions_or_call with same | ⟨stamp, call, may, rfl⟩
  · exact .inl (same.users (by decide))
  · by_cases written : .users ∈ call.writes
    · obtain ⟨posted, new, rfl, least⟩ := may.users written
      rcases world.memory.createUser_users stamp new with same | ⟨user, added, role⟩
      · exact .inl same
      · exact .inr ⟨posted, user, added, by rw [role, least]; rfl⟩
    · exact .inl ((world.memory.perform_unchanged stamp call).users written)

theorem channels (authorized : Authorized app request world status after) :
    after.channels = world.memory.channels := by
  rcases authorized.sessions_or_call with same | ⟨stamp, call, may, rfl⟩
  · exact same.channels (by decide)
  · exact (world.memory.perform_unchanged stamp call).channels may.not_writes.2

theorem removed (authorized : Authorized app request world status after) {row : RefreshToken}
    (known : row ∈ world.memory.refreshTokens) (gone : row ∉ after.refreshTokens) :
    MayEnd app request world row := by
  cases authorized with
  | unchanged => exact absurd known gone
  | called status stamp call may =>
      rw [(world.memory.perform_unchanged stamp call).refreshTokens may.not_writes.1] at gone
      exact absurd known gone
  | loggedIn stamp credentials user new row' after posted read known' address matching
    owner stored =>
      rw [(Memory.createRefreshToken_stored stored).1] at gone
      exact absurd (List.mem_cons_of_mem _ known) gone
  | ended status presented posted read =>
      exact .inl ⟨posted, presented, read, Memory.digest_of_dropped known gone⟩
  | refreshed stamp presented old row' new after posted read known' digest owner stored =>
      rw [(Memory.createRefreshToken_stored stored).1] at gone
      have left := fun member => gone (List.mem_cons_of_mem row' member)
      exact .inl ⟨.inl posted, presented, read, Memory.digest_of_dropped known left⟩
  | endedAll status caller posted bearer =>
      exact .inr ⟨posted, caller, bearer, Memory.owner_of_dropped known gone⟩

theorem added (authorized : Authorized app request world status after) {row : RefreshToken}
    (present : row ∈ after.refreshTokens) (fresh : row ∉ world.memory.refreshTokens) :
    status = 200 ∧ MayStart request world row := by
  cases authorized with
  | unchanged => exact absurd present fresh
  | called status stamp call may =>
      rw [(world.memory.perform_unchanged stamp call).refreshTokens may.not_writes.1] at present
      exact absurd present fresh
  | loggedIn stamp credentials user new row' after posted read known address matching
    owner stored =>
      obtain ⟨rows, mine, -⟩ := Memory.createRefreshToken_stored stored
      rw [rows] at present
      rcases List.mem_cons.mp present with rfl | earlier
      · exact ⟨rfl, .inl ⟨posted, credentials, read, user, known, (mine.trans owner).symm,
          address, matching⟩⟩
      · exact absurd earlier fresh
  | refreshed stamp presented old row' new after posted read known digest owner stored =>
      obtain ⟨rows, mine, -⟩ := Memory.createRefreshToken_stored stored
      rw [rows] at present
      rcases List.mem_cons.mp present with rfl | earlier
      · exact ⟨rfl,
          .inr ⟨posted, presented, read, old, known, (mine.trans owner).symm, digest⟩⟩
      · exact absurd (Memory.mem_of_dropRefreshTokens earlier) fresh
  | ended | endedAll => exact absurd (Memory.mem_of_dropRefreshTokens present) fresh

end Authorized

/-- Whatever request is answered over whatever store: what has changed shows
the authority of the request. -/
theorem authority_frame (app : Application) (freshId : String) (request : Http.Request)
    (world : World) :
    AuthorityFrame app request world (app.serve freshId request world).1.status
      (app.serve freshId request world).2.memory := by
  have authorized := serve_authorized app freshId request world
  constructor
  case events => exact authorized.events
  case kept => exact fun id event found gone => authorized.kept found gone
  case templates => exact authorized.templates
  case subscriptions => exact fun userId changed => authorized.subscriptions changed
  case removed => exact fun row known gone => authorized.removed known gone
  case added => exact fun row present fresh => authorized.added present fresh
  case users => exact authorized.users
  case channels => exact authorized.channels

end StatusPage
