import Mathlib.Data.String.Basic
import StatusPage.Proofs.StoreIntegrity

/-!
What is looked up is found. Users, refresh tokens and subscriptions are kept in no order, and they
may be gone through in another one at each call. Every record is nevertheless found by each of its
keys, because no two records of a collection share one, and a key that no record has finds nothing.
The order cannot be told from any answer: two stores that differ in it alone answer every call
alike, and differ in it alone afterwards.
-/

set_option autoImplicit false

namespace StatusPage

namespace Store.Memory

/-! ### Another order -/

/-- The same store, whose unordered collections are gone through in another order. -/
inductive Reordered (memory : Memory) : Memory → Prop
  | intro {people : List User} {tokens : List RefreshToken} {choices : List Subscription}
      (users : memory.users.Perm people) (refreshTokens : memory.refreshTokens.Perm tokens)
      (subscriptions : memory.subscriptions.Perm choices) :
      Reordered memory
        { memory with users := people, refreshTokens := tokens, subscriptions := choices }

section Keys

variable {α κ : Type} [BEq κ] [LawfulBEq κ] {key : α → κ} {items items' : List α}

private theorem find?_eq_some_iff (keys : (items.map key).Nodup) {k : κ} {item : α} :
    (items.find? fun other => key other == k) = some item ↔ item ∈ items ∧ key item = k := by
  constructor
  · intro found
    exact ⟨List.mem_of_find?_eq_some found, by simpa using List.find?_some found⟩
  · rintro ⟨member, rfl⟩
    exact find?_key keys member

/-- Where no two records share a key, the order does not matter to who looks for one. -/
theorem find?_perm (perm : items.Perm items') (keys : (items.map key).Nodup) (k : κ) :
    (items.find? fun item => key item == k) = items'.find? fun item => key item == k := by
  have keys' : (items'.map key).Nodup := (perm.map key).nodup_iff.mp keys
  refine Option.ext fun item => ?_
  rw [find?_eq_some_iff keys, find?_eq_some_iff keys', perm.mem_iff]

end Keys

variable {memory other : Memory} {stamp : Stamp}

private theorem Intact.reordered (intact : memory.Intact) (reordered : memory.Reordered other) :
    other.Intact := by
  obtain ⟨users, refreshTokens, subscriptions⟩ := reordered
  have known {id : Uuid} (owner : ∃ user ∈ memory.users, user.id = id) :=
    owner.imp fun user found =>
    And.intro (users.mem_iff.mp found.1) found.2
  exact
    { intact with
      userIds := (users.map User.id).nodup_iff.mp intact.userIds
      emails := (users.map User.email).nodup_iff.mp intact.emails
      digests := (refreshTokens.map RefreshToken.digest).nodup_iff.mp intact.digests
      tokenOwners :=
        fun token member => known (intact.tokenOwners token (refreshTokens.mem_iff.mpr member))
      subscribers := (subscriptions.map Subscription.userId).nodup_iff.mp intact.subscribers
      subscriptionOwners := fun subscription member =>
        known (intact.subscriptionOwners subscription (subscriptions.mem_iff.mpr member))
      subscribedServices := fun subscription member =>
        intact.subscribedServices subscription (subscriptions.mem_iff.mpr member) }

private theorem Reordered.mem_identifiers_iff (reordered : memory.Reordered other) {id : Uuid} :
    id ∈ other.identifiers ↔ id ∈ memory.identifiers := by
  obtain ⟨users, -, -⟩ := reordered
  simp only [mem_identifiers, users.mem_iff]

/-- Two calls with the same answer, after which the stores differ in their order alone. -/
structure Alike {α : Type} (left right : Except StoreError α × Memory) : Prop where
  answer : left.1 = right.1
  store : left.2.Reordered right.2

theorem Alike.ite {α : Type} {refused : Prop} [Decidable refused]
    {left right left' right' : Except StoreError α × Memory} (first : Alike left left')
    (second : Alike right right') :
    Alike (if refused then left else right) (if refused then left' else right') := by
  split
  · exact first
  · exact second

namespace Reordered

theorem users (reordered : memory.Reordered other) : memory.users.Perm other.users := by
  obtain ⟨users, -, -⟩ := reordered
  exact users

theorem hasUser (reordered : memory.Reordered other) (id : Uuid) :
    memory.hasUser id = other.hasUser id :=
  reordered.users.any_eq

theorem findRefreshToken (reordered : memory.Reordered other) (intact : memory.Intact)
    (digest : String) :
    memory.findRefreshToken digest = other.findRefreshToken digest := by
  obtain ⟨-, refreshTokens, -⟩ := reordered
  exact find?_perm refreshTokens intact.digests digest

theorem findSubscription (reordered : memory.Reordered other) (intact : memory.Intact)
    (userId : Uuid) :
    memory.findSubscription userId = other.findSubscription userId := by
  obtain ⟨-, -, subscriptions⟩ := reordered
  exact find?_perm subscriptions intact.subscribers userId

theorem reading (reordered : memory.Reordered other) {α : Type} {found found' : Option α}
    (same : found = found') :
    Alike (memory.reading found) (other.reading found') := by
  subst same
  exact ⟨rfl, reordered⟩

theorem unchanged (reordered : memory.Reordered other) {α : Type} (answer : Except StoreError α) :
    Alike (answer, memory) (answer, other) := ⟨rfl, reordered⟩

theorem dropRefreshTokens (reordered : memory.Reordered other) (drop : RefreshToken → Bool) :
    (memory.dropRefreshTokens drop).Reordered (other.dropRefreshTokens drop) := by
  obtain ⟨users, refreshTokens, subscriptions⟩ := reordered
  exact ⟨users, refreshTokens.filter _, subscriptions⟩

/-! ### Calls in another order -/

theorem createUser (reordered : memory.Reordered other) (new : NewUser) :
    Alike (memory.createUser stamp new) (other.createUser stamp new) := by
  obtain ⟨users, refreshTokens, subscriptions⟩ := reordered
  unfold Memory.createUser
  rw [users.any_eq]
  split
  · exact ⟨rfl, users, refreshTokens, subscriptions⟩
  · exact ⟨rfl, users.cons _, refreshTokens, subscriptions⟩

theorem createRefreshToken (reordered : memory.Reordered other) (intact : memory.Intact)
    (new : NewRefreshToken) :
    Alike (memory.createRefreshToken stamp new) (other.createRefreshToken stamp new) := by
  unfold Memory.createRefreshToken
  rw [reordered.hasUser, reordered.findRefreshToken intact]
  obtain ⟨users, refreshTokens, subscriptions⟩ := reordered
  split
  · exact ⟨rfl, users, refreshTokens, subscriptions⟩
  · split
    · exact ⟨rfl, users, refreshTokens, subscriptions⟩
    · exact ⟨rfl, users, refreshTokens.cons _, subscriptions⟩

theorem takeRefreshToken (reordered : memory.Reordered other) (intact : memory.Intact)
    (digest : String) :
    Alike (memory.takeRefreshToken digest) (other.takeRefreshToken digest) := by
  unfold Memory.takeRefreshToken
  rw [reordered.findRefreshToken intact]
  cases other.findRefreshToken digest with
  | none => exact reordered.unchanged _
  | some token => exact ⟨rfl, reordered.dropRefreshTokens _⟩

theorem deleteRefreshTokens (reordered : memory.Reordered other) (drop : RefreshToken → Bool) :
    Alike (memory.deleteRefreshTokens drop) (other.deleteRefreshTokens drop) := by
  refine ⟨?_, reordered.dropRefreshTokens drop⟩
  obtain ⟨-, refreshTokens, -⟩ := reordered
  exact congrArg Except.ok (refreshTokens.countP_eq drop)

theorem setSubscription (reordered : memory.Reordered other) (intact : memory.Intact)
    (userId : Uuid) (serviceIds : List Uuid) :
    Alike (memory.setSubscription stamp userId serviceIds)
      (other.setSubscription stamp userId serviceIds) := by
  unfold Memory.setSubscription
  rw [reordered.hasUser, reordered.findSubscription intact]
  obtain ⟨users, refreshTokens, subscriptions⟩ := reordered
  split
  · exact ⟨rfl, users, refreshTokens, subscriptions⟩
  · exact ⟨rfl, users, refreshTokens, (subscriptions.filter _).cons _⟩

theorem deleteSubscription (reordered : memory.Reordered other) (intact : memory.Intact)
    (userId : Uuid) :
    Alike (memory.deleteSubscription userId) (other.deleteSubscription userId) := by
  unfold Memory.deleteSubscription
  rw [reordered.findSubscription intact]
  obtain ⟨users, refreshTokens, subscriptions⟩ := reordered
  split
  · exact ⟨rfl, users, refreshTokens, subscriptions⟩
  · exact ⟨rfl, users, refreshTokens, subscriptions.filter _⟩

theorem subscribersFor (reordered : memory.Reordered other) (intact : memory.Intact)
    (serviceIds : List Uuid) :
    memory.subscribersFor serviceIds = other.subscribersFor serviceIds := by
  have same := reordered.findSubscription intact
  obtain ⟨users, refreshTokens, subscriptions⟩ := reordered
  simp only [Memory.subscribersFor, same]

theorem perform (reordered : memory.Reordered other) (intact : memory.Intact) (stamp : Stamp)
    (call : Call) :
    Alike (memory.perform stamp call) (other.perform stamp call) := by
  cases call with
  | createUser new => exact reordered.createUser new
  | createRefreshToken new => exact reordered.createRefreshToken intact new
  | takeRefreshToken digest => exact reordered.takeRefreshToken intact digest
  | deleteUserRefreshTokens | deleteExpiredRefreshTokens => exact reordered.deleteRefreshTokens _
  | setSubscription userId serviceIds => exact reordered.setSubscription intact userId serviceIds
  | deleteSubscription userId => exact reordered.deleteSubscription intact userId
  | findSubscription userId => exact reordered.reading (reordered.findSubscription intact userId)
  | subscribersFor serviceIds =>
      simp only [Memory.perform, reordered.subscribersFor intact]
      exact reordered.unchanged _
  | deleteRefreshToken digest =>
      simp only [Memory.perform, Memory.deleteRefreshToken, reordered.findRefreshToken intact]
      exact ⟨rfl, reordered.dropRefreshTokens _⟩
  | findUserById id => exact reordered.reading (find?_perm reordered.users intact.userIds id)
  | findUserByEmail email =>
    exact reordered.reading (find?_perm reordered.users intact.emails email)
  -- The other calls neither read nor write what has no order.
  | findEvent | listEvents | listUpdates | findTemplate | findTemplateBySlug | listTemplates
  | addChannel | ping =>
      obtain ⟨users, refreshTokens, subscriptions⟩ := reordered
      exact ⟨rfl, users, refreshTokens, subscriptions⟩
  | createEvent | deleteEvent | createTemplate | deleteTemplate =>
      obtain ⟨users, refreshTokens, subscriptions⟩ := reordered
      exact .ite ⟨rfl, users, refreshTokens, subscriptions⟩ ⟨rfl, users, refreshTokens,
        subscriptions⟩
  | recordUpdate | updateTemplate =>
      obtain ⟨users, refreshTokens, subscriptions⟩ := reordered
      simp only [Memory.perform, Memory.recordUpdate, Memory.updateTemplate, Memory.findTemplate,
        Memory.findEvent]
      split <;> exact ⟨rfl, users, refreshTokens, subscriptions⟩

end Reordered

/-! ### Templates in the order of their names -/

private theorem slug_trans (a b c : EventTemplate) (first : decide (a.slug ≤ b.slug) = true)
    (second : decide (b.slug ≤ c.slug) = true) : decide (a.slug ≤ c.slug) = true :=
  decide_eq_true (String.le_trans (of_decide_eq_true first) (of_decide_eq_true second))

private theorem slug_total (a b : EventTemplate) :
    (decide (a.slug ≤ b.slug) || decide (b.slug ≤ a.slug)) = true := by
  rw [Bool.or_eq_true, decide_eq_true_iff, decide_eq_true_iff]
  exact String.le_total a.slug b.slug

private theorem listTemplates_perm (memory : Memory) : memory.listTemplates.Perm memory.templates :=
  List.mergeSort_perm memory.templates _

private theorem listTemplates_increasing (slugs : (memory.templates.map EventTemplate.slug).Nodup) :
    memory.listTemplates.Pairwise fun a b => a.slug < b.slug := by
  have sorted := List.pairwise_mergeSort slug_trans slug_total memory.templates
  have distinct : memory.listTemplates.Pairwise fun a b => a.slug ≠ b.slug :=
    List.pairwise_map.mp ((memory.listTemplates_perm.map EventTemplate.slug).nodup_iff.mpr slugs)
  exact (sorted.and distinct).imp fun both => lt_of_le_of_ne (of_decide_eq_true both.1) both.2

end Store.Memory

open Store (Call Memory Stamp)

/-! ### Looking for a record -/

/-- A way to look for a record: among which records, by which key, and what is asked. -/
structure Lookup (α κ : Type) where
  items : Memory → List α
  key : α → κ
  ask : κ → Memory → Stamp → Except StoreError α × Memory

/-- A record is found by its key, and a key that no record has finds nothing and changes nothing. -/
structure Lookup.Exact {α κ : Type} (lookup : Lookup α κ) (memory : Memory) : Prop where
  found : ∀ item ∈ lookup.items memory, ∀ stamp,
    (lookup.ask (lookup.key item) memory stamp).1 = .ok item
  missed : ∀ key, (∀ item ∈ lookup.items memory, lookup.key item ≠ key) → ∀ stamp,
    lookup.ask key memory stamp = (.error .notFound, memory)

namespace Lookup

def userByEmail : Lookup User String where
  items := Memory.users
  key := User.email
  ask email memory stamp := memory.perform stamp (.findUserByEmail email)

def userById : Lookup User Uuid where
  items := Memory.users
  key := User.id
  ask id memory stamp := memory.perform stamp (.findUserById id)

/-- A refresh token is gone once it has been found. -/
def tokenByDigest : Lookup RefreshToken String where
  items := Memory.refreshTokens
  key := RefreshToken.digest
  ask digest memory stamp := memory.perform stamp (.takeRefreshToken digest)

def eventById : Lookup Event Uuid where
  items := Memory.events
  key := Event.id
  ask id memory stamp := memory.perform stamp (.findEvent id)

def templateById : Lookup EventTemplate Uuid where
  items := Memory.templates
  key := EventTemplate.id
  ask id memory stamp := memory.perform stamp (.findTemplate id)

def templateBySlug : Lookup EventTemplate String where
  items := Memory.templates
  key := EventTemplate.slug
  ask slug memory stamp := memory.perform stamp (.findTemplateBySlug slug)

def subscriptionByUser : Lookup Subscription Uuid where
  items := Memory.subscriptions
  key := Subscription.userId
  ask userId memory stamp := memory.perform stamp (.findSubscription userId)

variable {α κ : Type} [BEq κ] [LawfulBEq κ] {lookup : Lookup α κ} {memory : Memory}

private theorem exact_of (unique : ((lookup.items memory).map lookup.key).Nodup)
    (hit : ∀ key stamp item,
      ((lookup.items memory).find? fun item => lookup.key item == key) = some item →
      (lookup.ask key memory stamp).1 = .ok item)
    (miss : ∀ key stamp,
      ((lookup.items memory).find? fun item => lookup.key item == key) = none →
      lookup.ask key memory stamp = (.error .notFound, memory)) : lookup.Exact memory where
  found item member stamp := hit (lookup.key item) stamp item (Memory.find?_key unique member)
  missed key absent stamp := by
    refine miss key stamp (List.find?_eq_none.mpr fun item member same => ?_)
    exact absent item member (eq_of_beq same)

private theorem exact_of_reading (unique : ((lookup.items memory).map lookup.key).Nodup)
    (reads : ∀ key stamp, lookup.ask key memory stamp =
      memory.reading ((lookup.items memory).find? fun item => lookup.key item == key)) :
        lookup.Exact memory := by
  refine exact_of unique ?_ ?_
  · intro key stamp item first
    rw [reads, first]
    rfl
  · intro key stamp none
    rw [reads, none]
    rfl

end Lookup

/-- All ways to look for a record are exact, and all templates are listed, each once and in the
order of their names. -/
structure Store.Memory.FoundByKeys (memory : Memory) : Prop where
  usersByEmail : Lookup.userByEmail.Exact memory
  usersById : Lookup.userById.Exact memory
  tokens : Lookup.tokenByDigest.Exact memory
  events : Lookup.eventById.Exact memory
  templatesById : Lookup.templateById.Exact memory
  templatesBySlug : Lookup.templateBySlug.Exact memory
  subscriptions : Lookup.subscriptionByUser.Exact memory
  listed : ∀ stamp, ∃ templates,
    memory.perform stamp .listTemplates = (.ok templates, memory) ∧
    templates.Perm memory.templates ∧ templates.Pairwise fun a b => a.slug < b.slug

private theorem Store.Memory.Intact.foundByKeys {memory : Memory} (intact : memory.Intact) :
    memory.FoundByKeys where
  usersByEmail := Lookup.exact_of_reading intact.emails fun _ _ => rfl
  usersById := Lookup.exact_of_reading intact.userIds fun _ _ => rfl
  tokens := by
    refine Lookup.exact_of intact.digests ?_ ?_
    · intro digest stamp token (found : memory.findRefreshToken digest = some token)
      simp only [Lookup.tokenByDigest, Memory.perform, Memory.takeRefreshToken, found]
    · intro digest stamp (none : memory.findRefreshToken digest = none)
      simp only [Lookup.tokenByDigest, Memory.perform, Memory.takeRefreshToken, none]
  events := Lookup.exact_of_reading intact.eventIds fun _ _ => rfl
  templatesById := Lookup.exact_of_reading intact.templateIds fun _ _ => rfl
  templatesBySlug := Lookup.exact_of_reading intact.slugs fun _ _ => rfl
  subscriptions := Lookup.exact_of_reading intact.subscribers fun _ _ => rfl
  listed _ := ⟨_, rfl, memory.listTemplates_perm, Memory.listTemplates_increasing intact.slugs⟩

/-! ### Stores that can come about -/

/-- A store after calls, if in between it may be gone through in any other order. -/
inductive Reached : List Exchange → Memory → Prop
  | start : Reached [] .empty
  | performed {exchanges : List Exchange} {memory : Memory} (reached : Reached exchanges memory)
      (stamp : Stamp) (call : Call) :
      Reached (exchanges ++ [⟨stamp, .store call, (memory.perform stamp call).1⟩])
        (memory.perform stamp call).2
  | reordered {exchanges : List Exchange} {memory other : Memory}
      (reached : Reached exchanges memory) (reordered : memory.Reordered other) :
      Reached exchanges other

theorem Reached.run {exchanges : List Exchange} {memory : Memory}
    (reached : Reached exchanges memory) (calls : List (Stamp × Call)) :
    Reached (exchanges ++ Exchange.carriedOut memory calls) (memory.run calls) := by
  induction calls generalizing exchanges memory with
  | nil =>
      rw [Exchange.carriedOut, List.append_nil]
      exact reached
  | cons call later ih =>
      have next := ih (reached.performed call.1 call.2)
      rw [List.append_assoc, List.singleton_append] at next
      exact next

theorem Reached.intact {exchanges : List Exchange} {memory : Memory}
    (reached : Reached exchanges memory) (distinct : (exchanges.filterMap Exchange.issued).Nodup) :
    memory.Intact ∧
    ∀ id ∈ memory.identifiers, id ∈ exchanges.filterMap Exchange.issued := by
  induction reached with
  | start => exact ⟨.empty, nofun⟩
  | @performed exchanges memory _ stamp call ih =>
      obtain ⟨intact, known⟩ := ih (nodup_filterMap_init distinct)
      have honest : Exchange.Honest ⟨stamp, .store call, (memory.perform stamp call).1⟩ memory := rfl
      exact intact.concat known honest distinct
  | reordered _ reordered ih =>
      obtain ⟨intact, known⟩ := ih distinct
      exact ⟨intact.reordered reordered,
        fun id member => known id (reordered.mem_identifiers_iff.mp member)⟩

/-- Whatever a store has been asked, and in whatever order it is gone through: each record is found
by each of its keys, other keys find nothing, and no answer tells the order. -/
theorem lookups_exact {exchanges : List Exchange} {memory : Memory}
    (reached : Reached exchanges memory) (distinct : (exchanges.filterMap Exchange.issued).Nodup) :
    memory.FoundByKeys ∧ ∀ other, memory.Reordered other → other.FoundByKeys ∧
      ∀ stamp call, Memory.Alike (memory.perform stamp call) (other.perform stamp call) := by
  have intact := (reached.intact distinct).1
  refine ⟨intact.foundByKeys,
    fun other reordered => ⟨(intact.reordered reordered).foundByKeys, ?_⟩⟩
  exact reordered.perform intact

def firstCalls : List (Stamp × Call) :=
  ((List.range 4).map fun n : Nat => (⟨⟨n, 0⟩, .ofNat n⟩ : Stamp)).zip
    [.createUser ⟨"ada@example.com", "secret", none, none, .admin⟩,
      .createUser ⟨"bob@example.com", "secret", none, none, .user⟩,
      .createRefreshToken ⟨.ofNat 0, "digest", ⟨90, 0⟩⟩,
      .setSubscription (.ofNat 0) [.ofNat 9]]

/-- Templates that are not made in the order of their names, and a user whose address is taken. -/
def laterCalls : List (Stamp × Call) :=
  ((List.range 4).map fun n : Nat => (⟨⟨n + 4, 0⟩, .ofNat (n + 4)⟩ : Stamp)).zip
    [.createTemplate ⟨"outage", .incident, "Outage", "We look into it."⟩,
      .createTemplate ⟨"move", .maintenance, "Move", "Soon."⟩,
      .createUser ⟨"bob@example.com", "other", none, none, .user⟩,
      .updateTemplate (.ofNat 4) ⟨none, some "Great outage", none⟩]

/-- The users are gone through the other way round between the calls. -/
def turnedStore : Memory :=
  { Memory.empty.run firstCalls with users := (Memory.empty.run firstCalls).users.reverse }

theorem turnedStore_lookups :
    (turnedStore.run laterCalls).FoundByKeys ∧
      (turnedStore.run laterCalls).users.map User.email = ["ada@example.com", "bob@example.com"] ∧
      (turnedStore.run laterCalls).templates.map (fun template =>
        (template.slug, template.titleSource)) =
        [("outage", "Great outage"), ("move", "Move")] := by
  have before :
      Reached ([] ++ Exchange.carriedOut .empty firstCalls) (Memory.empty.run firstCalls) :=
    Reached.start.run firstCalls
  have turned : (Memory.empty.run firstCalls).Reordered turnedStore :=
    ⟨(List.reverse_perm _).symm, .refl _, .refl _⟩
  have reached := (before.reordered turned).run laterCalls
  exact ⟨(lookups_exact reached (by decide +kernel)).1, by decide +kernel, by decide +kernel⟩

end StatusPage
