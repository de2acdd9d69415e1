import StatusPage.Database.Script
import StatusPage.Proofs.ConfiguredNumbers
import StatusPage.Proofs.DatabaseTalks
import StatusPage.Proofs.PreviousKeys
import StatusPage.Proofs.SubscriberSelection

/-!
Channels that are taken in one by one, looking at the last group only. The groups hold all channels
in their order, and there is no other way to put these into groups so that neighbours of one user
are together: the groups are those that `groupByUser` makes from the other end. Both stores group
channels that are in the order of their users, the one because it sorts them, the other because its
statement asks for this order, and then a user has one group.
-/

set_option autoImplicit false

namespace StatusPage

open Store (Memory Stamp Call)

/-! ### One channel after the other -/

/-- Takes in a channel: it joins the last group, if that is of its user,
and begins a group otherwise. -/
def takeIn (groups : List Subscriber) (channel : Channel) : List Subscriber :=
  match groups.getLast? with
  | none => [⟨channel.userId, [channel]⟩]
  | some last =>
      if last.userId = channel.userId
        then groups.dropLast ++ [⟨last.userId, last.channels ++ [channel]⟩]
      else groups ++ [⟨channel.userId, [channel]⟩]

section Steps

variable {channel : Channel} {group : Subscriber} {groups : List Subscriber}

private theorem takeIn_same (groups : List Subscriber) (same : group.userId = channel.userId) :
    takeIn (groups ++ [group]) channel =
      groups ++ [⟨group.userId, group.channels ++ [channel]⟩] := by
  simp only [takeIn, List.getLast?_append, List.getLast?_singleton, Option.some_or,
    List.dropLast_concat, if_pos same]

private theorem takeIn_other (groups : List Subscriber) (other : group.userId ≠ channel.userId) :
    takeIn (groups ++ [group]) channel =
      groups ++ [group] ++ [⟨channel.userId, [channel]⟩] := by
  simp only [takeIn, List.getLast?_append, List.getLast?_singleton, Option.some_or, if_neg other]

end Steps

namespace Groups

variable {channel : Channel} {channels : List Channel} {group : Subscriber}
  {groups : List Subscriber}

private theorem joinLast (grouped : Groups channels (groups ++ [group]))
    (same : group.userId = channel.userId) :
    Groups (channels ++ [channel])
      (groups ++ [⟨group.userId, group.channels ++ [channel]⟩]) where
  whole := by
    rw [← grouped.whole]
    simp
  inhabited := by
    intro other member
    rcases List.mem_append.mp member with earlier | last
    · exact grouped.inhabited other (List.mem_append_left _ earlier)
    · rw [List.mem_singleton.mp last]
      simp
  owned := by
    intro other member
    rcases List.mem_append.mp member with earlier | last
    · exact grouped.owned other (List.mem_append_left _ earlier)
    · rw [List.mem_singleton.mp last]
      intro owned inside
      rcases List.mem_append.mp inside with before | added
      · exact grouped.owned group (by simp) owned before
      · rw [List.mem_singleton.mp added]
        exact same.symm
  apart := by
    have apart := grouped.apart
    simpa using apart

private theorem startLast (grouped : Groups channels groups)
    (other : ∀ last ∈ groups.getLast?, last.userId ≠ channel.userId) :
    Groups (channels ++ [channel]) (groups ++ [⟨channel.userId, [channel]⟩]) where
  whole := by
    rw [← grouped.whole]
    simp
  inhabited := by
    intro group member
    rcases List.mem_append.mp member with earlier | last
    · exact grouped.inhabited group earlier
    · rw [List.mem_singleton.mp last]
      exact List.cons_ne_nil _ _
  owned := by
    intro group member
    rcases List.mem_append.mp member with earlier | last
    · exact grouped.owned group earlier
    · rw [List.mem_singleton.mp last]
      intro owned inside
      rw [List.mem_singleton.mp inside]
  apart := by
    rw [List.map_append, List.isChain_append]
    refine ⟨grouped.apart, List.isChain_singleton _, ?_⟩
    intro user last next first
    rw [List.getLast?_map] at last
    obtain ⟨group, found, rfl⟩ := Option.map_eq_some_iff.mp last
    cases first
    exact other group found

private theorem takenIn (grouped : Groups channels groups) (channel : Channel) :
    Groups (channels ++ [channel]) (takeIn groups channel) := by
  rcases List.eq_nil_or_concat' groups with rfl | ⟨earlier, last, rfl⟩
  · exact grouped.startLast nofun
  · by_cases same : last.userId = channel.userId
    · rw [takeIn_same earlier same]
      exact grouped.joinLast same
    · rw [takeIn_other earlier same]
      refine grouped.startLast fun group found => ?_
      rw [List.getLast?_concat] at found
      cases found
      exact same

private theorem foldl_takeIn (channels : List Channel) :
    Groups channels (channels.foldl takeIn []) := by
  induction channels using List.reverseRecOn with
  | nil => exact ⟨rfl, nofun, nofun, .nil⟩
  | append_singleton channels channel ih =>
      rw [List.foldl_concat]
      exact ih.takenIn channel

private theorem shorten {more : List Channel}
    (grouped : Groups (channel :: channels) (⟨channel.userId, channel :: more⟩ :: groups))
    (some : more ≠ []) :
    Groups channels (⟨channel.userId, more⟩ :: groups) where
  whole := (List.cons.inj grouped.whole).2
  inhabited := by
    intro other member
    rcases List.mem_cons.mp member with rfl | later
    · exact some
    · exact grouped.inhabited other (List.mem_cons_of_mem _ later)
  owned := by
    intro other member
    rcases List.mem_cons.mp member with rfl | later
    · exact fun owned inside =>
        grouped.owned _ List.mem_cons_self owned (List.mem_cons_of_mem _ inside)
    · exact grouped.owned other (List.mem_cons_of_mem _ later)
  apart := grouped.apart

theorem drop (grouped : Groups (channel :: channels) (⟨channel.userId, [channel]⟩ :: groups)) :
    Groups channels groups where
  whole := (List.cons.inj grouped.whole).2
  inhabited other member := grouped.inhabited other (List.mem_cons_of_mem _ member)
  owned other member := grouped.owned other (List.mem_cons_of_mem _ member)
  apart := (List.isChain_cons.mp grouped.apart).2

private theorem exists_first (grouped : Groups (channel :: channels) groups) :
    ∃ more later, groups = ⟨channel.userId, channel :: more⟩ :: later := by
  rcases groups with _ | ⟨⟨user, _ | ⟨first, more⟩⟩, later⟩
  · cases grouped.whole
  · exact absurd rfl (grouped.inhabited _ List.mem_cons_self)
  · obtain ⟨rfl, -⟩ := List.cons.inj grouped.whole
    have owned : first.userId = user := grouped.owned _ List.mem_cons_self first List.mem_cons_self
    subst owned
    exact ⟨more, later, rfl⟩

theorem eq_groupByUser (grouped : Groups channels groups) : groups = groupByUser channels := by
  -- Without the first channel the groups are still groups; the first one is shorter, or gone if it
  -- had no other.
  induction channels generalizing groups with
  | nil =>
      cases groups with
      | nil => rfl
      | cons group groups =>
          have empty := (List.append_eq_nil_iff.mp grouped.whole).1
          exact absurd empty (grouped.inhabited group List.mem_cons_self)
  | cons channel channels ih =>
      obtain ⟨more, later, rfl⟩ := grouped.exists_first
      unfold groupByUser
      cases more with
      | nil =>
          rw [← ih grouped.drop]
          cases later with
          | nil => rfl
          | cons next others =>
              have apart : channel.userId ≠ next.userId :=
                (List.isChain_cons_cons.mp grouped.apart).1
              simp only [if_neg apart.symm]
      | cons second others =>
          rw [← ih (grouped.shorten (List.cons_ne_nil _ _))]
          simp only [if_pos trivial]

end Groups

private theorem groupByUser_eq_foldl (channels : List Channel) :
    groupByUser channels = channels.foldl takeIn [] :=
  (Groups.foldl_takeIn channels).eq_groupByUser.symm

/-! ### Channels in the order of their users -/

def InUserOrder (channels : List Channel) : Prop :=
  channels.Pairwise fun a b => a.userId ≤ b.userId

instance (channels : List Channel) : Decidable (InUserOrder channels) :=
  inferInstanceAs (Decidable (channels.Pairwise _))

/-- Whoever has a channel has one group, and nobody else has any. -/
def OncePerUser (channels : List Channel) (groups : List Subscriber) : Prop :=
  ∀ user, (groups.map Subscriber.userId).count user = if user ∈ channels.map Channel.userId
    then 1 else 0

private theorem Groups.oncePerUser {channels : List Channel} {groups : List Subscriber}
    (grouped : Groups channels groups) (ordered : InUserOrder channels) :
    OncePerUser channels groups := by
  intro user
  have distinct : (groups.map Subscriber.userId).Nodup :=
    (grouped.increasing ordered).imp Uuid.ne_of_lt
  have present : user ∈ groups.map Subscriber.userId ↔
      user ∈ channels.map Channel.userId := by
    rw [grouped.mem_users, List.mem_map]
  rw [distinct.count]
  simp only [present]

/-! ### What the stores group -/

private theorem Store.Memory.subscribersFor_supplied (memory : Memory) (serviceIds : List Uuid) :
    ∃ supplied, supplied.Perm (memory.channels.filter fun channel =>
      memory.informs serviceIds channel.userId) ∧
      InUserOrder supplied ∧ memory.subscribersFor serviceIds = groupByUser supplied :=
  ⟨_, List.mergeSort_perm _ _, Channel.byUser_sorted _, rfl⟩

namespace Database

def rowUser (row : Row) : Option Uuid := (row.get "user_id" .uuid).toOption

def RowsInUserOrder (rows : List Row) : Prop :=
  rows.Pairwise fun a b => ∀ x ∈ rowUser a, ∀ y ∈ rowUser b, x ≤ y

instance (rows : List Row) : Decidable (RowsInUserOrder rows) :=
  inferInstanceAs (Decidable (rows.Pairwise _))

private theorem readChannel_userId {row : Row} {channel : Channel}
    (read : readChannel row = .ok channel) :
    rowUser row = some channel.userId := by
  simp only [readChannel, Config.bind_eq_ok_iff, Config.pure_eq_ok_iff] at read
  obtain ⟨-, -, userId, found, -, -, -, -, -, -, -, -, -, -, -, -, rfl⟩ := read
  rw [rowUser, found]
  rfl

private theorem readChannels_inUserOrder {rows : List Row} {supplied : List Channel}
    (read : rows.mapM readChannel = .ok supplied) (ordered : RowsInUserOrder rows) :
    InUserOrder supplied := by
  have each := mapM_eq_ok_iff.mp read
  clear read
  induction each with
  | nil => exact .nil
  | @cons row channel rows channels first later ih =>
      obtain ⟨before, others⟩ := List.pairwise_cons.mp ordered
      refine List.pairwise_cons.mpr ⟨fun other member => ?_, ih others⟩
      obtain ⟨row', among, second⟩ := exists_of_forall₂ later.flip member
      exact before row' among _ (readChannel_userId first) _ (readChannel_userId second)

private theorem perform_subscribersFor (serviceIds : List Uuid) :
    perform (.subscribersFor serviceIds) =
      .send (.perform (selectChannelsFor serviceIds)) fun answer =>
      .done ((((answer.mapError .refused).bind fun reply => reply.rows.mapM readChannel).map
        groupByUser).mapError Error.toStoreError) := by
  change Exchange.send _ _ = _
  congr 1
  funext answer
  cases answer with
  | error refusal => rfl
  | ok reply =>
      change Exchange.bind (Exchange.bind (.done (reply.rows.mapM readChannel)) _) _ =
        .done (Except.mapError _ (Except.map groupByUser (reply.rows.mapM readChannel)))
      cases reply.rows.mapM readChannel <;> rfl

private theorem subscribersFor_supplied {σ : Type} (server : Server σ) (state : σ)
    {serviceIds : List Uuid} {subscribers : List Subscriber}
    (listed : ((perform (.subscribersFor serviceIds)).run server state).1 = .ok subscribers) :
    ∃ reply supplied,
      (server.answer (.perform (selectChannelsFor serviceIds)) state).1 = .ok reply ∧
      reply.rows.mapM readChannel = .ok supplied ∧ subscribers = groupByUser supplied := by
  rw [perform_subscribersFor, Exchange.run] at listed
  rcases answered : server.answer (.perform (selectChannelsFor serviceIds)) state
    with ⟨refusal | reply, after⟩
  · rw [answered] at listed
    cases listed
  · rw [answered] at listed
    cases read : reply.rows.mapM readChannel with
    | error e =>
        simp only [Exchange.run, Except.mapError, Except.bind, read] at listed
        cases listed
    | ok supplied =>
        simp only [Exchange.run, Except.mapError, Except.bind, read] at listed
        cases listed
        exact ⟨reply, supplied, rfl, read, rfl⟩

end Database

/-- The groups of a list of channels are the only ones there are, whichever end they are made from,
and channels in the order of their users have one group for each of these. A store in memory groups
the channels it has picked, brought into this order. A database gives them in the order in which its
statement asks for them; if it keeps to that, its channels are in this order, too. -/
theorem grouping_lossless :
    (∀ channels,
      (∀ groups, Groups channels groups ↔ groups = groupByUser channels) ∧
        groupByUser channels = channels.foldl takeIn [] ∧
        (InUserOrder channels → OncePerUser channels (groupByUser channels))) ∧
      (∀ (memory : Memory) stamp serviceIds, ∃ supplied,
        supplied.Perm (memory.channels.filter fun channel =>
          memory.informs serviceIds channel.userId) ∧
          InUserOrder supplied ∧
          memory.perform stamp (.subscribersFor serviceIds) =
            (.ok (groupByUser supplied), memory)) ∧
      ∀ serviceIds,
        (∃ selection, (Database.selectChannelsFor serviceIds).text =
          selection ++ "ORDER BY c.user_id, c.created_at, c.id") ∧
        ∀ {σ : Type} (server : Database.Server σ) (state : σ) subscribers,
          ((Database.perform (.subscribersFor serviceIds)).run server state).1 = .ok subscribers →
            ∃ reply supplied,
              (server.answer (.perform (Database.selectChannelsFor serviceIds)) state).1 =
                .ok reply ∧
                reply.rows.mapM Database.readChannel = .ok supplied ∧
                subscribers = groupByUser supplied ∧
                (Database.RowsInUserOrder reply.rows → InUserOrder supplied) := by
  refine ⟨fun channels => ⟨fun groups => ?_, groupByUser_eq_foldl channels, ?_⟩, ?_,
    fun serviceIds => ⟨⟨_, rfl⟩, ?_⟩⟩
  · constructor
    · exact Groups.eq_groupByUser
    · rintro rfl
      exact groupByUser_groups channels
  · exact (groupByUser_groups channels).oncePerUser
  · intro memory stamp serviceIds
    obtain ⟨supplied, picked, ordered, grouped⟩ := memory.subscribersFor_supplied serviceIds
    exact ⟨supplied, picked, ordered,
      congrArg (fun groups => (Except.ok groups, memory)) grouped⟩
  · intro σ server state subscribers listed
    obtain ⟨reply, supplied, answered, read, grouped⟩ :=
      Database.subscribersFor_supplied server state listed
    exact ⟨reply, supplied, answered, read, grouped, Database.readChannels_inUserOrder read⟩

def mailRow (id user : Nat) (target : String) : Database.Row :=
  [("id", .uuid (.ofNat id)), ("user_id", .uuid (.ofNat user)), ("channel_type", .text "email"),
    ("target", .text target), ("is_enabled", .bool true), ("is_verified", .bool true),
    ("created_at", .instant 0),
    ("updated_at", .instant 0)]

def mailChannel (id user : Nat) (target : String) : Channel :=
  ⟨.ofNat id, .ofNat user, .email, target, true, true, ⟨0, 0⟩, ⟨0, 0⟩⟩

def threeRows : Database.Script where
  replies :=
    [.ok ⟨[mailRow 7 1 "ada@example.org", mailRow 5 1 "ada@example.com",
      mailRow 6 2 "ben@example.org"], 0⟩]
  onBegin := none
  onCommit := none
  onRollback := none

def threeChannels : List Channel :=
  [mailChannel 7 1 "ada@example.org", mailChannel 5 1 "ada@example.com",
    mailChannel 6 2 "ben@example.org"]

def twoSubscribers : List Subscriber :=
  [⟨.ofNat 1, [mailChannel 7 1 "ada@example.org", mailChannel 5 1 "ada@example.com"]⟩,
    ⟨.ofNat 2, [mailChannel 6 2 "ben@example.org"]⟩]

theorem threeChannels_grouped :
    (threeRows.play (Database.perform (.subscribersFor []))).1 = .ok twoSubscribers ∧
    InUserOrder threeChannels ∧
      twoSubscribers = groupByUser threeChannels ∧ OncePerUser threeChannels twoSubscribers := by
  have listed : (threeRows.play (Database.perform (.subscribersFor []))).1 = .ok twoSubscribers :=
    rfl
  obtain ⟨reply, supplied, answered, read, grouped, inOrder⟩ :=
    (grouping_lossless.2.2 []).2 threeRows.server threeRows.replies twoSubscribers listed
  cases answered
  cases read
  have ordered : InUserOrder threeChannels := inOrder (by decide)
  refine ⟨listed, ordered, grouped, ?_⟩
  rw [grouped]
  exact (grouping_lossless.1 threeChannels).2.2 ordered

end StatusPage
