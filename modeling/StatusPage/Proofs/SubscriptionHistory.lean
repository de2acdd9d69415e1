import Mathlib.Data.List.DropRight
import Mathlib.Data.List.Sort
import StatusPage.Proofs.EventCreation

/-!
The history of a subscription. It is made when it is set for the first time, set anew as often as
the user likes, and deleted; and all this may happen again. Its identifier and its time of creation
go back to the first setting since it was deleted the last time, its services to the last setting. A
list of services is kept as a set: neither the order in which it was given nor repetitions matter,
and the same goes for the services of an event.
-/

set_option autoImplicit false

namespace StatusPage

open Store (Call Memory Stamp)

/-! ### Lists of services as sets -/

instance : Std.Irrefl (α := Uuid) (· < ·) := ⟨fun id => Nat.lt_irrefl id.toNat⟩

instance : Std.Antisymm (α := Uuid) (· < ·) :=
  ⟨fun _ _ less more => absurd more (Nat.lt_asymm less)⟩

namespace Store

structure Keeps (given kept : List Uuid) : Prop where
  increasing : kept.Pairwise (· < ·)
  members : ∀ id, id ∈ kept ↔ id ∈ given

private theorem idSet_keeps (given : List Uuid) : Keeps given (idSet given) :=
  ⟨idSet_increasing given, fun _ => mem_idSet⟩

theorem Keeps.unique {given given' kept kept' : List Uuid} (keeps : Keeps given kept)
    (keeps' : Keeps given' kept') (same : ∀ id, id ∈ given ↔ id ∈ given') : kept = kept' :=
  keeps.increasing.eq_of_mem_iff keeps'.increasing fun id =>
    (keeps.members id).trans ((same id).trans (keeps'.members id).symm)

private theorem idSet_congr {given given' : List Uuid}
    (same : ∀ id, id ∈ given ↔ id ∈ given') : idSet given = idSet given' :=
  (idSet_keeps given).unique (idSet_keeps given') same

end Store

/-! ### What a subscription was set to -/

namespace Exchange

def subscribed (userId : Uuid) : Exchange → Option (Stamp × List Uuid)
  | ⟨stamp, .store (.setSubscription owner serviceIds), .ok _⟩ =>
      if owner = userId then some (stamp, serviceIds) else none
  | _ => none

def unsubscribes (userId : Uuid) : Exchange → Bool
  | ⟨_, .store (.deleteSubscription owner), _⟩ => owner == userId
  | _ => false

end Exchange

/-- What the subscription of a user was set to since it was deleted the
last time, the oldest first. -/
def subscriptionSettings (userId : Uuid) (exchanges : List Exchange) : List (Stamp × List Uuid) :=
  (exchanges.rtakeWhile fun exchange => !exchange.unsubscribes userId).filterMap
    (Exchange.subscribed userId)

def Subscription.after (userId : Uuid) : List (Stamp × List Uuid) → Option Subscription
  | [] => none
  | first :: later =>
    some ⟨first.1.id, userId, Store.idSet (later.getLastD first).2, first.1.now⟩

section

variable {userId : Uuid} {exchanges : List Exchange} {last : Exchange}

private theorem subscriptionSettings_unsubscribed (ended : last.unsubscribes userId = true) :
    subscriptionSettings userId (exchanges ++ [last]) = [] := by
  rw [subscriptionSettings, List.rtakeWhile_concat_neg _ _ _ (by simp [ended])]
  rfl

private theorem subscriptionSettings_concat (goesOn : last.unsubscribes userId = false) :
    subscriptionSettings userId (exchanges ++ [last]) =
      subscriptionSettings userId exchanges ++ (last.subscribed userId).toList := by
  rw [subscriptionSettings, List.rtakeWhile_concat_pos _ _ _ (by simp [goesOn]), filterMap_concat]
  rfl

theorem Subscription.after_concat (settings : List (Stamp × List Uuid))
    (setting : Stamp × List Uuid) :
    Subscription.after userId (settings ++ [setting]) =
      some { (Subscription.after userId settings).getD ⟨setting.1.id, userId, [],
        setting.1.now⟩ with serviceIds := Store.idSet setting.2 } := by
  cases settings with
  | nil => rfl
  | cons first later => simp [Subscription.after]

end

/-! ### One step -/

namespace Store.Memory

variable {memory : Memory} {userId : Uuid}

private theorem find?_others (other : Uuid) (different : other ≠ userId)
    (subscriptions : List Subscription) :
    (subscriptions.filter fun subscription => subscription.userId != other).find?
        (fun subscription => subscription.userId == userId) =
      subscriptions.find? fun subscription => subscription.userId == userId := by
  rw [List.find?_filter]
  congr 1
  funext subscription
  by_cases mine : subscription.userId = userId
  · simp [mine, different.symm]
  · simp [mine]

private theorem find?_removed (subscriptions : List Subscription) :
    (subscriptions.filter fun subscription => subscription.userId != userId).find?
      (fun subscription => subscription.userId == userId) = none := by
  rw [List.find?_eq_none]
  intro subscription member
  simpa using (List.mem_filter.mp member).2

def resubscribed (memory : Memory) (stamp : Stamp) (owner : Uuid) (serviceIds : List Uuid) :
    Subscription :=
  { (memory.findSubscription owner).getD ⟨stamp.id, owner, [], stamp.now⟩ with
    serviceIds := idSet serviceIds }

private theorem setSubscription_known {owner : Uuid} (known : memory.hasUser owner = true)
    (stamp : Stamp) (serviceIds : List Uuid) :
    memory.perform stamp (.setSubscription owner serviceIds) =
      (.ok (memory.resubscribed stamp owner serviceIds),
        { memory with
          subscriptions := memory.resubscribed stamp owner serviceIds ::
            memory.subscriptions.filter fun subscription => subscription.userId != owner }) := by
  rw [perform, setSubscription, known]
  rfl

private theorem setSubscription_unknown {owner : Uuid} (unknown : memory.hasUser owner = false)
    (stamp : Stamp) (serviceIds : List Uuid) :
    memory.perform stamp (.setSubscription owner serviceIds) = (.error .notFound, memory) := by
  rw [perform, setSubscription, unknown]
  rfl

private theorem setSubscription_found {owner : Uuid} (known : memory.hasUser owner = true)
    (stamp : Stamp) (serviceIds : List Uuid) :
    (memory.perform stamp (.setSubscription owner serviceIds)).2.findSubscription userId =
      if owner = userId then some (memory.resubscribed stamp owner serviceIds)
        else memory.findSubscription userId := by
  have owned : (memory.resubscribed stamp owner serviceIds).userId = owner :=
    memory.kept_userId stamp owner
  rw [setSubscription_known known, findSubscription]
  by_cases mine : owner = userId
  · rw [if_pos mine, List.find?_cons_of_pos (by rw [owned, mine]; exact beq_self_eq_true userId)]
  · rw [if_neg mine, List.find?_cons_of_neg (by simp [owned, mine])]
    exact find?_others owner mine memory.subscriptions

private theorem deleteSubscription_found (owner : Uuid) (stamp : Stamp) :
    (memory.perform stamp (.deleteSubscription owner)).2.findSubscription userId =
      if owner = userId then none else memory.findSubscription userId := by
  rw [perform, deleteSubscription]
  by_cases absent : (memory.findSubscription owner).isNone = true
  · rw [if_pos absent]
    by_cases mine : owner = userId
    · rw [if_pos mine, ← mine, Option.isNone_iff_eq_none.mp absent]
    · rw [if_neg mine]
  · rw [if_neg absent]
    by_cases mine : owner = userId
    · subst mine
      rw [if_pos rfl]
      exact find?_removed memory.subscriptions
    · rw [if_neg mine]
      exact find?_others owner mine memory.subscriptions

/-- What becomes of the subscription of a user: it is gone when it is deleted, it is set when it is
set, and nothing else changes it. -/
theorem findSubscription_effect {exchange : Exchange} (honest : exchange.Honest memory) :
    (exchange.effect memory).findSubscription userId =
      if exchange.unsubscribes userId then none
      else
        match exchange.subscribed userId with
        | none => memory.findSubscription userId
        | some (stamp, serviceIds) => some (memory.resubscribed stamp userId serviceIds) := by
  obtain ⟨stamp, op, answer⟩ := exchange
  cases op with
  | store call =>
      have frame := memory.perform_unchanged stamp call
      simp only [Exchange.Honest] at honest
      subst honest
      have same (subscriptions : (memory.perform stamp call).2.subscriptions =
            memory.subscriptions) :
          (memory.perform stamp call).2.findSubscription userId =
            memory.findSubscription userId := by
        rw [findSubscription, subscriptions]
        rfl
      cases call with
      | setSubscription owner serviceIds =>
          cases known : memory.hasUser owner with
          | false =>
              simp [Exchange.effect, Exchange.unsubscribes, Exchange.subscribed,
                setSubscription_unknown known]
          | true =>
              have set : (memory.perform stamp
                  (.setSubscription owner serviceIds)).2.findSubscription userId = _ :=
                setSubscription_found known stamp serviceIds
              simp only [setSubscription_known known] at set
              simp only [Exchange.effect, Exchange.unsubscribes, Exchange.subscribed,
                setSubscription_known known, set]
              by_cases mine : owner = userId
              · simp [mine]
              · simp [mine]
      | deleteSubscription owner =>
          have deleted :
              (memory.perform stamp (.deleteSubscription owner)).2.findSubscription userId = _ :=
            deleteSubscription_found owner stamp
          simpa [Exchange.effect, Exchange.unsubscribes, Exchange.subscribed] using deleted
      | _ => exact same (frame.subscriptions (by simp [Call.writes]))
  | _ => rfl

end Store.Memory

/-! ### Runs -/

/-- At any time a subscription is what it was set to since it was deleted the last time. -/
theorem findSubscription_replay {exchanges : List Exchange} (honest : HonestFrom .empty exchanges)
    (userId : Uuid) :
    (replay .empty exchanges).findSubscription userId =
      Subscription.after userId (subscriptionSettings userId exchanges) := by
  induction exchanges using List.reverseRecOn with
  | nil => rfl
  | append_singleton exchanges last ih =>
      obtain ⟨earlier, fits⟩ := honest.init
      rw [replay_append, replay_cons, replay_nil,
        Store.Memory.findSubscription_effect fits, ih earlier]
      cases ended : last.unsubscribes userId with
      | true =>
          rw [subscriptionSettings_unsubscribed ended]
          rfl
      | false =>
          rw [subscriptionSettings_concat ended]
          cases set : last.subscribed userId with
          | none => simp
          | some setting => simp [Subscription.after_concat, Store.Memory.resubscribed, ih earlier]

private theorem Store.Memory.hasUser_run {memory : Memory} {userId : Uuid}
    (known : memory.hasUser userId = true) (calls : List (Stamp × Call)) :
    (memory.run calls).hasUser userId = true := by
  induction calls generalizing memory with
  | nil => exact known
  | cons call later ih =>
      obtain ⟨stamp, call⟩ := call
      refine ih ?_
      obtain ⟨user, member, mine⟩ := hasUser_iff.mp known
      cases call with
      | createUser new =>
          simp only [perform, createUser]
          split
          · exact known
          · exact hasUser_iff.mpr ⟨user, List.mem_cons_of_mem _ member, mine⟩
      | _ =>
          rw [hasUser_iff, (memory.perform_unchanged stamp _).users (by simp [Call.writes])]
          exact ⟨user, member, mine⟩

/-- The answer about the subscription of a user, by what it was set to since
it was deleted the last time. -/
inductive Recalls (userId : Uuid) :
    List (Stamp × List Uuid) → Except StoreError Subscription → Prop
  | unset : Recalls userId [] (.error .notFound)
  | set {settings : List (Stamp × List Uuid)} {first last : Stamp × List Uuid}
      {subscription : Subscription} (opening : settings.head? = some first)
      (closing : settings.getLast? = some last) (id : subscription.id = first.1.id)
      (owner : subscription.userId = userId) (created : subscription.createdAt = first.1.now)
      (services : Store.Keeps last.2 subscription.serviceIds) :
      Recalls userId settings (.ok subscription)

private theorem Subscription.after_recalls (userId : Uuid) (settings : List (Stamp × List Uuid))
    (memory : Memory) :
    Recalls userId settings (memory.reading (Subscription.after userId settings)).1 := by
  cases settings with
  | nil => exact .unset
  | cons first later =>
      have closing : (first :: later).getLast? = some (later.getLastD first) := by
        rw [List.getLast?_cons, List.getLastD_eq_getLast?]
      exact .set rfl closing rfl rfl rfl (Store.idSet_keeps _)

/-! ### Runs that differ in the order of services -/

/-- Two calls that differ at most in the order of services and in repetitions. -/
inductive Store.Call.Alike : Call → Call → Prop
  | same (call : Call) : Alike call call
  | setSubscription {userId : Uuid} {given given' : List Uuid}
      (same : ∀ id, id ∈ given ↔ id ∈ given') :
      Alike (.setSubscription userId given) (.setSubscription userId given')
  | createEvent {new : NewEvent} {serviceIds : List Uuid}
      (same : ∀ id, id ∈ new.serviceIds ↔ id ∈ serviceIds) :
      Alike (.createEvent new) (.createEvent { new with serviceIds := serviceIds })

private theorem Store.Memory.perform_alike (memory : Memory) (stamp : Stamp) {call call' : Call}
    (alike : call.Alike call') :
    (memory.perform stamp call).2 = (memory.perform stamp call').2 := by
  cases alike with
  | same => rfl
  | setSubscription same => simp only [perform, setSubscription, idSet_congr same]
  | createEvent same => simp only [perform, createEvent, idSet_congr same]

theorem Store.Memory.run_alike (memory : Memory) {calls calls' : List (Stamp × Call)}
    (alike : List.Forall₂ (fun call call' => call.1 = call'.1 ∧ call.2.Alike call'.2)
      calls calls') :
    memory.run calls = memory.run calls' := by
  induction alike generalizing memory with
  | nil => rfl
  | @cons call call' later later' first _ ih =>
      change (memory.perform call.1 call.2).2.run later =
        (memory.perform call'.1 call'.2).2.run later'
      rw [ih, first.1, memory.perform_alike call'.1 first.2]

private theorem Subscription.after_alike (userId : Uuid)
    {settings settings' : List (Stamp × List Uuid)}
    (alike : List.Forall₂ (fun setting setting' => ∀ id, id ∈ setting.2 ↔ id ∈ setting'.2)
      settings settings') :
    (Subscription.after userId settings).map Subscription.serviceIds =
      (Subscription.after userId settings').map Subscription.serviceIds := by
  cases alike with
  | nil => rfl
  | @cons first first' later later' same others =>
      refine congrArg some (Store.idSet_congr ?_)
      clear userId
      induction others generalizing first first' with
      | nil => exact same
      | cons next _ ih =>
          rw [List.getLastD_cons, List.getLastD_cons]
          exact ih next

private theorem Events.created_services {notices : Bool} {memory after : Memory} {moment : Moment}
    {createdBy : Uuid} {draft : EventDraft} {event : Event}
    (created : (create notices createdBy draft).run moment.interpreter memory =
      (.value (.ok event), after)) :
    Store.Keeps draft.serviceIds event.serviceIds := by
  have creation := create_creation notices memory moment createdBy draft
  rw [created] at creation
  cases creation with
  | created _ _ _ _ holds => exact ⟨holds.increasing, holds.services⟩

/-- Whatever an empty store is asked: a subscription is not found exactly when it has not been set
since it was deleted the last time; else it has the identifier and the time of the first setting
since then and the services of the last one. Once a user is there, each setting succeeds. Orders and
repetitions of services leave no trace, neither in subscriptions nor in events. -/
theorem subscriptions_recalled (calls : List (Stamp × Call)) (stamp : Stamp) (userId : Uuid) :
    Recalls userId (subscriptionSettings userId (Exchange.carriedOut .empty calls))
        ((Memory.empty.run calls).perform stamp (.findSubscription userId)).1 ∧
    ((Memory.empty.run calls).hasUser userId = true → ∀ later serviceIds, ∃ subscription,
      ((Memory.empty.run (calls ++ later)).perform stamp (.setSubscription userId serviceIds)).1 =
        .ok subscription) ∧
    (∀ calls', List.Forall₂ (fun call call' => call.1 = call'.1 ∧
      call.2.Alike call'.2) calls calls' →
      Memory.empty.run calls = Memory.empty.run calls') ∧
    (∀ calls', List.Forall₂ (fun setting setting' => ∀ id,
      id ∈ setting.2 ↔ id ∈ setting'.2)
        (subscriptionSettings userId (Exchange.carriedOut .empty calls))
        (subscriptionSettings userId (Exchange.carriedOut .empty calls')) →
      ((Memory.empty.run calls).findSubscription userId).map Subscription.serviceIds =
        ((Memory.empty.run calls').findSubscription userId).map Subscription.serviceIds) ∧
    ∀ (notices : Bool) (memory after : Memory) (moment : Moment) (createdBy : Uuid)
      (draft : EventDraft)
        (event : Event),
      (Events.create notices createdBy draft).run moment.interpreter memory =
        (.value (.ok event), after) →
        Store.Keeps draft.serviceIds event.serviceIds := by
  have found (calls : List (Stamp × Call)) : (Memory.empty.run calls).findSubscription userId =
      Subscription.after userId
        (subscriptionSettings userId (Exchange.carriedOut .empty calls)) := by
    rw [← replay_carriedOut, findSubscription_replay (carriedOut_honest .empty calls)]
  refine ⟨?_, ?_, ?_, ?_, ?_⟩
  · rw [Store.Memory.perform, found]
    exact Subscription.after_recalls userId _ _
  · intro known later serviceIds
    have still := Store.Memory.hasUser_run known later
    rw [Store.Memory.run, Store.Memory.run, ← List.foldl_append] at still
    exact ⟨_, congrArg Prod.fst (Store.Memory.setSubscription_known still stamp serviceIds)⟩
  · exact fun calls' => Store.Memory.run_alike .empty
  · intro calls' alike
    rw [found, found]
    exact Subscription.after_alike userId alike
  · exact fun notices memory after moment createdBy draft event => Events.created_services

end StatusPage
