import Mathlib.Data.List.Chain
import StatusPage.Proofs.StoreIntegrity

/-!
The subscribers for some services. Channels are picked one by one, brought into the order of their
users and then grouped. A sort that leaves channels of one user in their order makes neighbours of
them, so that a user has one group, with the channels as they were registered.
-/

set_option autoImplicit false

namespace StatusPage

open Store (Memory Stamp Call)

theorem Uuid.le_trans {a b c : Uuid} (first : a ≤ b) (second : b ≤ c) : a ≤ c :=
  Nat.le_trans (n := a.toNat) first second

theorem Uuid.le_total (a b : Uuid) : a ≤ b ∨ b ≤ a := Nat.le_total a.toNat b.toNat

theorem Uuid.lt_of_le_of_ne {a b : Uuid} (notAfter : a ≤ b) (different : a ≠ b) : a < b := by
  refine Uuid.lt_of_not_lt different.symm fun before => ?_
  exact Nat.lt_irrefl _ (Nat.lt_of_lt_of_le (n := b.toNat) before notAfter)

theorem Uuid.ne_of_lt {a b : Uuid} (before : a < b) : a ≠ b := by
  rintro rfl
  exact Nat.lt_irrefl a.toNat before

/-! ### Groups -/

/-- Channels in groups of neighbours that have one user. -/
structure Groups (channels : List Channel) (groups : List Subscriber) : Prop where
  whole : groups.flatMap Subscriber.channels = channels
  inhabited : ∀ group ∈ groups, group.channels ≠ []
  owned : ∀ group ∈ groups, ∀ channel ∈ group.channels, channel.userId = group.userId
  apart : (groups.map Subscriber.userId).IsChain (· ≠ ·)

namespace Groups

variable {channel : Channel} {channels : List Channel} {group : Subscriber}
  {groups : List Subscriber}

theorem join (grouped : Groups channels (group :: groups)) (same : group.userId = channel.userId) :
    Groups (channel :: channels) (⟨group.userId, channel :: group.channels⟩ :: groups) where
  whole := congrArg (channel :: ·) grouped.whole
  inhabited := by
    intro other member
    rcases List.mem_cons.mp member with rfl | later
    · exact List.cons_ne_nil _ _
    · exact grouped.inhabited other (List.mem_cons_of_mem _ later)
  owned := by
    intro other member
    rcases List.mem_cons.mp member with rfl | later
    · intro owned inside
      rcases List.mem_cons.mp inside with rfl | earlier
      · exact same.symm
      · exact grouped.owned group List.mem_cons_self owned earlier
    · exact grouped.owned other (List.mem_cons_of_mem _ later)
  apart := grouped.apart

theorem start (grouped : Groups channels groups)
    (other : ∀ first ∈ groups.head?, channel.userId ≠ first.userId) :
    Groups (channel :: channels) (⟨channel.userId, [channel]⟩ :: groups) where
  whole := congrArg (channel :: ·) grouped.whole
  inhabited := by
    intro group member
    rcases List.mem_cons.mp member with rfl | later
    · exact List.cons_ne_nil _ _
    · exact grouped.inhabited group later
  owned := by
    intro group member
    rcases List.mem_cons.mp member with rfl | later
    · intro owned inside
      rw [List.mem_singleton.mp inside]
    · exact grouped.owned group later
  apart := by
    refine List.isChain_cons.mpr ⟨?_, grouped.apart⟩
    intro user first
    rw [List.head?_map] at first
    obtain ⟨group, found, rfl⟩ := Option.map_eq_some_iff.mp first
    exact other group found

end Groups

theorem groupByUser_groups (channels : List Channel) : Groups channels (groupByUser channels) := by
  induction channels with
  | nil => exact ⟨rfl, nofun, nofun, .nil⟩
  | cons channel rest ih =>
      unfold groupByUser
      cases grouped : groupByUser rest with
      | nil =>
          rw [grouped] at ih
          exact ih.start nofun
      | cons group groups =>
          rw [grouped] at ih
          by_cases same : group.userId = channel.userId
          · simp only [if_pos same]
            exact ih.join same
          · simp only [if_neg same]
            refine ih.start fun first found => ?_
            cases found
            exact fun equal => same equal.symm

namespace Groups

variable {channels : List Channel} {groups : List Subscriber} (grouped : Groups channels groups)
include grouped

theorem mem_users {user : Uuid} :
    user ∈ groups.map Subscriber.userId ↔ ∃ channel ∈ channels, channel.userId = user := by
  constructor
  · intro member
    obtain ⟨group, present, rfl⟩ := List.mem_map.mp member
    obtain ⟨channel, inside⟩ := List.exists_mem_of_ne_nil _ (grouped.inhabited group present)
    have kept : channel ∈ channels :=
      grouped.whole ▸ List.mem_flatMap.mpr ⟨group, present, inside⟩
    exact ⟨channel, kept, grouped.owned group present channel inside⟩
  · rintro ⟨channel, kept, rfl⟩
    obtain ⟨group, present, inside⟩ := List.mem_flatMap.mp (grouped.whole.symm ▸ kept)
    exact List.mem_map.mpr ⟨group, present, (grouped.owned group present channel inside).symm⟩

private theorem channels_eq (distinct : (groups.map Subscriber.userId).Nodup) {group : Subscriber}
    (member : group ∈ groups) :
    group.channels = channels.filter fun channel => channel.userId = group.userId := by
  have own : (group.channels.filter fun channel => channel.userId = group.userId) =
      group.channels :=
    List.filter_eq_self.mpr fun channel inside =>
      decide_eq_true (grouped.owned group member channel inside)
  have foreign (others : List Subscriber)
      (different : ∀ other ∈ others, other ∈ groups ∧ group.userId ≠ other.userId) :
      (others.flatMap Subscriber.channels).filter (fun channel =>
        channel.userId = group.userId) = [] := by
    refine List.filter_eq_nil_iff.mpr fun channel inside mine => ?_
    obtain ⟨other, among, owned⟩ := List.mem_flatMap.mp inside
    obtain ⟨present, apart⟩ := different other among
    exact apart ((of_decide_eq_true mine).symm.trans (grouped.owned other present channel owned))
  obtain ⟨before, after, split⟩ := List.append_of_mem member
  rw [split, List.map_append, List.map_cons, List.nodup_middle, List.nodup_cons,
    List.mem_append] at distinct
  have earlier (other : Subscriber) (among : other ∈ before) :
      other ∈ groups ∧ group.userId ≠ other.userId :=
    ⟨split ▸ List.mem_append_left _ among,
      fun same => distinct.1 (.inl (same ▸ List.mem_map_of_mem among))⟩
  have later (other : Subscriber) (among : other ∈ after) :
      other ∈ groups ∧ group.userId ≠ other.userId :=
    ⟨split ▸ List.mem_append_right _ (List.mem_cons_of_mem _ among),
      fun same => distinct.1 (.inr (same ▸ List.mem_map_of_mem among))⟩
  rw [← grouped.whole, split, List.flatMap_append, List.flatMap_cons, List.filter_append,
    List.filter_append, foreign before earlier, foreign after later, own, List.nil_append,
    List.append_nil]

end Groups

private theorem increasing_of_apart {users : List Uuid} (notAfter : users.Pairwise (· ≤ ·))
    (apart : users.IsChain (· ≠ ·)) : users.Pairwise (· < ·) := by
  induction users with
  | nil => exact .nil
  | cons user rest ih =>
      obtain ⟨first, others⟩ := List.pairwise_cons.mp notAfter
      obtain ⟨differs, apart⟩ := List.isChain_cons.mp apart
      have increasing := ih others apart
      refine List.pairwise_cons.mpr ⟨?_, increasing⟩
      cases rest with
      | nil => exact nofun
      | cons next rest =>
          have before : user < next :=
            Uuid.lt_of_le_of_ne (first next List.mem_cons_self) (differs next rfl)
          intro other member
          rcases List.mem_cons.mp member with rfl | later
          · exact before
          · exact Uuid.lt_trans before ((List.pairwise_cons.mp increasing).1 other later)

theorem Groups.increasing {channels : List Channel} {groups : List Subscriber}
    (grouped : Groups channels groups)
    (sorted : channels.Pairwise fun a b => a.userId ≤ b.userId) :
    (groups.map Subscriber.userId).Pairwise (· < ·) := by
  rw [← grouped.whole, List.pairwise_flatMap] at sorted
  refine increasing_of_apart (List.pairwise_map.mpr ?_) grouped.apart
  refine sorted.2.imp_of_mem fun {a b} left right ordered => ?_
  obtain ⟨first, inFirst⟩ := List.exists_mem_of_ne_nil _ (grouped.inhabited a left)
  obtain ⟨second, inSecond⟩ := List.exists_mem_of_ne_nil _ (grouped.inhabited b right)
  rw [← grouped.owned a left first inFirst, ← grouped.owned b right second inSecond]
  exact ordered first inFirst second inSecond

/-! ### Channels in the order of their users -/

namespace Channel

def byUser (channels : List Channel) : List Channel :=
  channels.mergeSort fun a b => decide (a.userId ≤ b.userId)

private theorem mem_byUser {channel : Channel} {channels : List Channel} :
    channel ∈ byUser channels ↔ channel ∈ channels :=
  List.mem_mergeSort

private theorem notAfter_trans (a b c : Channel) (first : decide (a.userId ≤ b.userId) = true)
    (second : decide (b.userId ≤ c.userId) = true) : decide (a.userId ≤ c.userId) = true :=
  decide_eq_true (Uuid.le_trans (of_decide_eq_true first) (of_decide_eq_true second))

private theorem notAfter_total (a b : Channel) :
    (decide (a.userId ≤ b.userId) || decide (b.userId ≤ a.userId)) = true := by
  rw [Bool.or_eq_true, decide_eq_true_iff, decide_eq_true_iff]
  exact Uuid.le_total a.userId b.userId

theorem byUser_sorted (channels : List Channel) :
    (byUser channels).Pairwise fun a b => a.userId ≤ b.userId :=
  (List.pairwise_mergeSort notAfter_trans notAfter_total channels).imp of_decide_eq_true

private theorem byUser_filter (channels : List Channel) (user : Uuid) :
    ((byUser channels).filter fun channel => channel.userId = user) =
      channels.filter fun channel => channel.userId = user := by
  have mine : (channels.filter fun channel => channel.userId = user).Pairwise
      fun a b => decide (a.userId ≤ b.userId) = true := by
    refine List.pairwise_of_forall_mem_list fun a left b right => decide_eq_true ?_
    have same : a.userId = b.userId :=
      (of_decide_eq_true (List.mem_filter.mp left).2).trans
        (of_decide_eq_true (List.mem_filter.mp right).2).symm
    exact same ▸ Nat.le_refl a.userId.toNat
  have kept :=
    (List.sublist_mergeSort notAfter_trans notAfter_total mine List.filter_sublist).filter
    fun channel => channel.userId = user
  simp only [List.filter_filter, Bool.and_self] at kept
  have count := ((List.mergeSort_perm channels fun a b => decide (a.userId ≤ b.userId)).filter
    fun channel => channel.userId = user).length_eq
  exact (kept.eq_of_length count.symm).symm

end Channel

/-! ### Subscriptions and channels of a store -/

def Exchange.registered : Exchange → Option Channel
  | ⟨_, .store (.addChannel _), .ok channel⟩ => some channel
  | _ => none

namespace Store.Memory

private theorem perform_channels (memory : Memory) (stamp : Stamp) (call : Call) :
    (memory.perform stamp call).2.channels =
      memory.channels ++
        (Exchange.registered ⟨stamp, .store call, (memory.perform stamp call).1⟩).toList := by
  have frame := memory.perform_unchanged stamp call
  cases call with
  | addChannel new => rfl
  | _ => exact (frame.channels (by simp [Call.writes])).trans (List.append_nil _).symm

theorem run_channels (memory : Memory) (calls : List (Stamp × Call)) :
    (memory.run calls).channels =
      memory.channels ++ (Exchange.carriedOut memory calls).filterMap Exchange.registered := by
  induction calls generalizing memory with
  | nil => exact (List.append_nil _).symm
  | cons first later ih =>
      have rest := ih (memory.perform first.1 first.2).2
      rw [perform_channels, List.append_assoc] at rest
      refine rest.trans ?_
      rw [Exchange.carriedOut, List.filterMap_cons]
      cases Exchange.registered ⟨first.1, .store first.2,
        (memory.perform first.1 first.2).1⟩ <;> rfl

private theorem perform_subscribers {memory : Memory}
    (distinct : (memory.subscriptions.map Subscription.userId).Nodup)
    (stamp : Stamp) (call : Call) :
    ((memory.perform stamp call).2.subscriptions.map Subscription.userId).Nodup := by
  have frame := memory.perform_unchanged stamp call
  cases call with
  | setSubscription userId serviceIds =>
      simp only [perform, setSubscription]
      split
      · exact distinct
      · refine keys_cons (keys_filter _ distinct) fun other member => ?_
        have foreign : other.userId ≠ userId := bne_iff_ne.mp (List.mem_filter.mp member).2
        exact (memory.kept_userId stamp userId).symm ▸ foreign
  | deleteSubscription userId =>
      simp only [perform, deleteSubscription]
      split
      · exact distinct
      · exact keys_filter _ distinct
  | _ => exact (frame.subscriptions (by simp [Call.writes])).symm ▸ distinct

theorem run_subscribers (memory : Memory)
    (distinct : (memory.subscriptions.map Subscription.userId).Nodup)
    (calls : List (Stamp × Call)) :
    ((memory.run calls).subscriptions.map Subscription.userId).Nodup := by
  induction calls generalizing memory with
  | nil => exact distinct
  | cons first later ih => exact ih _ (perform_subscribers distinct first.1 first.2)

end Store.Memory

/-! ### Selection -/

/-- The subscription covers one of the services, or all services that there are. -/
def Subscription.Follows (subscription : Subscription) (serviceIds : List Uuid) : Prop :=
  subscription.serviceIds = [] ∨ ∃ id ∈ subscription.serviceIds, id ∈ serviceIds

/-- The subscribers for some services, as a store is to find them: each user who follows one of the
services and has a channel, with the user's channels. -/
structure Selected (memory : Memory) (serviceIds : List Uuid)
    (selected : List Subscriber) : Prop where
  increasing : (selected.map Subscriber.userId).Pairwise (· < ·)
  users : ∀ user, user ∈ selected.map Subscriber.userId ↔
    (∃ subscription ∈ memory.subscriptions,
      subscription.userId = user ∧ subscription.Follows serviceIds) ∧
      ∃ channel ∈ memory.channels, channel.userId = user
  channels : ∀ subscriber ∈ selected,
    subscriber.channels = memory.channels.filter fun channel => channel.userId = subscriber.userId

namespace Store.Memory

private theorem covers_iff {subscription : Subscription} {serviceIds : List Uuid} :
    covers subscription serviceIds = true ↔ subscription.Follows serviceIds := by
  simp [covers, Subscription.Follows]

def informs (memory : Memory) (serviceIds : List Uuid) (user : Uuid) : Bool :=
  (memory.findSubscription user).any fun subscription => covers subscription serviceIds

private theorem subscribersFor_eq (memory : Memory) (serviceIds : List Uuid) :
    memory.subscribersFor serviceIds =
      groupByUser (Channel.byUser
        (memory.channels.filter fun channel => memory.informs serviceIds channel.userId)) := rfl

private theorem informs_iff {memory : Memory}
    (distinct : (memory.subscriptions.map Subscription.userId).Nodup)
    {serviceIds : List Uuid} {user : Uuid} :
    memory.informs serviceIds user = true ↔
      ∃ subscription ∈ memory.subscriptions, subscription.userId = user ∧
        subscription.Follows serviceIds := by
  rw [informs, Option.any_eq_true]
  constructor
  · rintro ⟨subscription, found, covering⟩
    exact ⟨subscription, List.mem_of_find?_eq_some found, by simpa using List.find?_some found,
      covers_iff.mp covering⟩
  · rintro ⟨subscription, member, rfl, follows⟩
    exact ⟨subscription, find?_key distinct member, covers_iff.mpr follows⟩

private theorem informs_congr (memory : Memory) {serviceIds others : List Uuid}
    (same : ∀ id, id ∈ others ↔ id ∈ serviceIds) (user : Uuid) :
    memory.informs others user = memory.informs serviceIds user := by
  have covering (subscription : Subscription) :
      covers subscription others = covers subscription serviceIds := by
    rw [Bool.eq_iff_iff, covers_iff, covers_iff, Subscription.Follows, Subscription.Follows]
    simp only [same]
  simp only [informs, covering]

private theorem subscribersFor_congr (memory : Memory) {serviceIds others : List Uuid}
    (same : ∀ id, id ∈ others ↔ id ∈ serviceIds) :
    memory.subscribersFor others = memory.subscribersFor serviceIds := by
  rw [subscribersFor_eq, subscribersFor_eq, funext (memory.informs_congr same)]

theorem subscribersFor_selected {memory : Memory}
    (distinct : (memory.subscriptions.map Subscription.userId).Nodup) (serviceIds : List Uuid) :
    Selected memory serviceIds (memory.subscribersFor serviceIds) := by
  have grouped := groupByUser_groups (Channel.byUser
    (memory.channels.filter fun channel => memory.informs serviceIds channel.userId))
  rw [← subscribersFor_eq] at grouped
  have increasing := grouped.increasing (Channel.byUser_sorted _)
  have users (user : Uuid) : user ∈ (memory.subscribersFor serviceIds).map Subscriber.userId ↔
      memory.informs serviceIds user = true ∧
      ∃ channel ∈ memory.channels, channel.userId = user := by
    rw [grouped.mem_users]
    constructor
    · rintro ⟨channel, picked, rfl⟩
      obtain ⟨member, informed⟩ := List.mem_filter.mp (Channel.mem_byUser.mp picked)
      exact ⟨informed, channel, member, rfl⟩
    · rintro ⟨informed, channel, member, rfl⟩
      exact ⟨channel, Channel.mem_byUser.mpr (List.mem_filter.mpr ⟨member, informed⟩), rfl⟩
  refine ⟨increasing, fun user => ?_, fun subscriber member => ?_⟩
  · rw [users, informs_iff distinct]
  · have informed := ((users subscriber.userId).mp (List.mem_map_of_mem member)).1
    have once : ((memory.subscribersFor serviceIds).map Subscriber.userId).Nodup :=
      increasing.imp Uuid.ne_of_lt
    rw [grouped.channels_eq once member, Channel.byUser_filter, List.filter_filter]
    refine List.filter_congr fun channel _ => ?_
    by_cases mine : channel.userId = subscriber.userId
    · rw [decide_eq_true mine, mine, informed, Bool.and_self]
    · rw [decide_eq_false mine, Bool.false_and]

end Store.Memory

/-- In every state that a store in memory can get into, the subscribers for some services are those
users, in the order of their identifiers and each once, who follow one of the services or all and
have a channel; each has all channels of the user in the order in which they were registered.
Nothing depends on the order of the services or on how often they are given. -/
theorem subscribers_selected (calls : List (Stamp × Call)) (stamp : Stamp)
    (serviceIds : List Uuid) :
    (Memory.empty.run calls).channels =
      (Exchange.carriedOut .empty calls).filterMap Exchange.registered ∧
      ∃ selected, Selected (Memory.empty.run calls) serviceIds selected ∧
        ∀ others, (∀ id, id ∈ others ↔ id ∈ serviceIds) →
          (Memory.empty.run calls).perform stamp (.subscribersFor others) =
            (.ok selected, Memory.empty.run calls) := by
  have distinct := Memory.run_subscribers .empty List.nodup_nil calls
  refine ⟨Memory.run_channels .empty calls, _,
    Memory.subscribersFor_selected distinct serviceIds, ?_⟩
  intro others same
  have equal := (Memory.empty.run calls).subscribersFor_congr same
  rw [Memory.perform, equal]

end StatusPage
