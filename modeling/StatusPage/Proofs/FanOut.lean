import Mathlib.Data.List.Forall2
import Mathlib.Data.List.Induction
import StatusPage.Notification.Dispatch

/-!
A notice goes to every channel that can be reached, and to each of them once. The channels are gone
through in one loop and the outcomes are counted in another, so each loop has a statement of its
own: what has been planned after some channels, and what has been counted after some outcomes.
-/

set_option autoImplicit false

namespace StatusPage.Notification

/-! ### Senders -/

private theorem senderFor_concat (senders : List ChannelKind) (last kind : ChannelKind) :
    senderFor (senders ++ [last]) kind = if last = kind then some senders.length
      else senderFor senders kind := by
  unfold senderFor
  rw [List.zipIdx_append, List.filter_append]
  by_cases same : last = kind
  · simp [same]
  · simp [same]

private theorem senderFor_eq_some {senders : List ChannelKind} {kind : ChannelKind} {sender : Nat}
    (found : senderFor senders kind = some sender) :
    senders[sender]? = some kind ∧ ∀ later, sender < later →
      senders[later]? ≠ some kind := by
  induction senders using List.reverseRecOn with
  | nil => cases found
  | append_singleton senders last ih =>
      rw [senderFor_concat] at found
      by_cases same : last = kind
      · rw [if_pos same] at found
        cases found
        refine ⟨by simp [same], fun later after => ?_⟩
        have beyond : (senders ++ [last]).length ≤ later := by
          rw [List.length_append]
          exact after
        rw [List.getElem?_eq_none beyond]
        nofun
      · rw [if_neg same] at found
        obtain ⟨registered, none⟩ := ih found
        have within := (List.getElem?_eq_some_iff.mp registered).1
        refine ⟨by rw [List.getElem?_append_left within, registered], fun later after => ?_⟩
        rcases Nat.lt_or_ge later senders.length with old | new
        · rw [List.getElem?_append_left old]
          exact none later after
        · rw [List.getElem?_append_right new, List.getElem?_singleton]
          split
          · exact fun equal => same (Option.some.inj equal)
          · nofun

private theorem senderFor_eq_none {senders : List ChannelKind} {kind : ChannelKind} :
    senderFor senders kind = none ↔ kind ∉ senders := by
  induction senders using List.reverseRecOn with
  | nil => simp [senderFor]
  | append_singleton senders last ih =>
      rw [senderFor_concat]
      by_cases same : last = kind
      · simp [same]
      · rw [if_neg same, ih, List.mem_append, List.mem_singleton, not_or]
        exact (and_iff_left (Ne.symm same)).symm

/-! ### What is planned -/

/-- A channel can be reached when it is switched on and verified and
somebody delivers to its kind. -/
def Reachable (senders : List ChannelKind) (channel : Channel) : Prop :=
  channel.enabled = true ∧ channel.verified = true ∧ channel.kind ∈ senders

instance (senders : List ChannelKind) (channel : Channel) : Decidable (Reachable senders channel) :=
  inferInstanceAs (Decidable (_ ∧ _ ∧ _))

/-- A delivery of a notice to a channel: it is left to the last sender that is registered for the
kind of the channel, and says what the notice says to the target of the channel. -/
structure Delivers (senders : List ChannelKind) (notice : Notice) (channel : Channel)
    (delivery : Delivery) : Prop where
  registered : senders[delivery.sender]? = some channel.kind
  last : ∀ later, delivery.sender < later → senders[later]? ≠ some channel.kind
  message : delivery.message = ⟨channel.target, notice.subject, notice.body⟩

namespace Plan

/-- A channel that can be reached is given one message; every other one is
skipped, for whichever reason. -/
theorem visit_cases (senders : List ChannelKind) (notice : Notice) (plan : Plan)
    (channel : Channel) :
    (Reachable senders channel ∧ ∃ delivery, Delivers senders notice channel delivery ∧
        visit senders notice plan channel = plan.send delivery) ∨
      (¬Reachable senders channel ∧ visit senders notice plan channel = plan.skip) := by
  unfold visit
  by_cases deliverable : channel.isDeliverable = true
  · obtain ⟨enabled, verified⟩ := Bool.and_eq_true_iff.mp deliverable
    rw [deliverable, Bool.not_true, if_neg Bool.false_ne_true]
    cases found : senderFor senders channel.kind with
    | none =>
        have nobody := senderFor_eq_none.mp found
        exact .inr ⟨fun reachable => nobody reachable.2.2, rfl⟩
    | some sender =>
        obtain ⟨registered, last⟩ := senderFor_eq_some found
        have known := List.mem_of_getElem? registered
        exact .inl ⟨⟨enabled, verified, known⟩, _, ⟨registered, last, rfl⟩, rfl⟩
  · refine .inr ⟨fun reachable => deliverable ?_, by simp [deliverable]⟩
    exact Bool.and_eq_true_iff.mpr ⟨reachable.1, reachable.2.1⟩

/-- Going through some channels adds one message for each of those that can be reached, in their
order, and counts the others. -/
theorem visited (senders : List ChannelKind) (notice : Notice) (channels : List Channel)
    (plan : Plan) :
    ∃ sends, (channels.foldl (visit senders notice) plan).sends = plan.sends ++ sends ∧
      List.Forall₂ (Delivers senders notice) (channels.filter fun channel =>
        Reachable senders channel) sends ∧
      sends.length + (channels.foldl (visit senders notice) plan).skipped =
        plan.skipped + channels.length := by
  induction channels generalizing plan with
  | nil => exact ⟨[], (List.append_nil _).symm, .nil, Nat.zero_add _⟩
  | cons channel rest ih =>
      obtain ⟨sends, same, delivered, counted⟩ := ih (visit senders notice plan channel)
      rw [List.foldl_cons, List.length_cons]
      rcases visit_cases senders notice plan channel with ⟨reachable, delivery,
        delivers, step⟩ | ⟨unreachable, step⟩
      · rw [step] at same counted ⊢
        rw [List.filter_cons_of_pos (by simpa using reachable)]
        refine ⟨delivery :: sends, ?_, .cons delivers delivered, ?_⟩
        · rw [same, send, List.append_assoc, List.singleton_append]
        · change _ = plan.skipped + _ at counted
          rw [List.length_cons]
          omega
      · rw [step] at same counted ⊢
        rw [List.filter_cons_of_neg (by simpa using unreachable)]
        refine ⟨sends, same, delivered, ?_⟩
        change _ = plan.skipped + 1 + _ at counted
        omega

private theorem build_spec (senders : List ChannelKind) (notice : Notice)
    (subscribers : List Subscriber) :
    List.Forall₂ (Delivers senders notice)
        ((allChannels subscribers).filter fun channel => Reachable senders channel)
        (build senders notice subscribers).sends ∧
      (build senders notice subscribers).sends.length + (build senders notice subscribers).skipped =
        (allChannels subscribers).length := by
  obtain ⟨sends, same, delivered, counted⟩ :=
    visited senders notice (allChannels subscribers) empty
  change (build senders notice subscribers).sends = sends at same
  rw [same]
  exact ⟨delivered, counted.trans (Nat.zero_add _)⟩

end Plan

/-! ### What is counted -/

private theorem outcomes_sends (succeeds : Nat → Delivery → Bool) (sends : List Delivery) :
    (outcomes succeeds sends).map Prod.fst = sends := by
  rw [outcomes, List.map_map]
  exact List.zipIdx_map_fst 0 sends

private theorem outcomes_getElem? (succeeds : Nat → Delivery → Bool) (sends : List Delivery)
    (n : Nat) :
    (outcomes succeeds sends)[n]? = sends[n]?.map fun delivery =>
      (delivery, succeeds n delivery) := by
  rw [outcomes, List.getElem?_map, List.getElem?_zipIdx, Option.map_map, Nat.zero_add]
  rfl

namespace Report

theorem counted (results : List (Delivery × Bool)) (report : Report) :
    results.foldl count report =
      { report with
        delivered := report.delivered + results.countP Prod.snd
        failed := report.failed + results.countP fun result => !result.2 } := by
  induction results generalizing report with
  | nil => rfl
  | cons result rest ih =>
      obtain ⟨delivery, ok⟩ := result
      rw [List.foldl_cons, ih, List.countP_cons, List.countP_cons]
      cases ok with
      | false =>
          simp only [count, Bool.false_eq_true, if_false, Bool.not_false, if_true]
          congr 1
          omega
      | true =>
          simp only [count, if_true, Bool.not_true, Bool.false_eq_true, if_false]
          congr 1
          omega

end Report

/-- What a notice comes to: the messages with their outcomes, and the numbers. -/
structure FansOut (senders : List ChannelKind) (succeeds : Nat → Delivery → Bool)
    (notice : Notice) (channels : List Channel) (results : List (Delivery × Bool))
    (report : Report) : Prop where
  /-- The messages are, one by one, those for the channels that can be reached. There are no others,
  and which they are does not depend on what becomes of any. -/
  sends : List.Forall₂ (Delivers senders notice) (channels.filter fun channel =>
    Reachable senders channel)
    (results.map Prod.fst)
  /-- Each message has the outcome of its own sending. -/
  outcome : ∀ n delivery ok, results[n]? = some (delivery, ok) → ok = succeeds n delivery
  attempted : report.attempted = results.length
  delivered : report.delivered = results.countP Prod.snd
  balance : report.attempted = report.delivered + report.failed
  accounted : report.attempted + report.skipped = channels.length

/-- Whoever the subscribers are, whoever sends, and whatever becomes of the messages. -/
theorem dispatch_exactly_once {σ : Type} (interpreter : Interpreter σ)
    (senders : List ChannelKind) (succeeds : Nat → Delivery → Bool) (notice : Notice)
    (subscribers : List Subscriber) (before after : σ)
    (listed : interpreter.answer (.store (.subscribersFor notice.serviceIds)) before =
      (.value (.ok subscribers), after)) :
    ∃ results report,
      (dispatch senders succeeds notice).run interpreter before =
        (.value (.ok (results, report)), after) ∧
        FansOut senders succeeds notice (allChannels subscribers) results report := by
  obtain ⟨delivered, accounted⟩ := Plan.build_spec senders notice subscribers
  generalize planned : Plan.build senders notice subscribers = plan at delivered accounted
  have sends := outcomes_sends succeeds plan.sends
  have length : (outcomes succeeds plan.sends).length = plan.sends.length := by
    rw [← List.length_map Prod.fst, sends]
  refine ⟨outcomes succeeds plan.sends,
    (outcomes succeeds plan.sends).foldl Report.count (.start plan), ?_, ?_⟩
  · change Program.run interpreter (.ask _ _) before = _
    rw [Program.run, listed, ← planned]
    rfl
  · rw [Report.counted]
    constructor
    · rw [sends]
      exact delivered
    · intro n delivery ok found
      rw [outcomes_getElem?] at found
      obtain ⟨_, -, same⟩ := Option.map_eq_some_iff.mp found
      cases same
      rfl
    · exact length.symm
    · exact Nat.zero_add _
    · change plan.sends.length = 0 + _ + (0 + _)
      rw [Nat.zero_add, Nat.zero_add, ← length]
      have whole := List.length_eq_countP_add_countP Prod.snd (l := outcomes succeeds plan.sends)
      simpa only [Bool.not_eq_true, Bool.decide_eq_false] using whole
    · exact accounted

/-- Two senders for mail, of which the second counts, and none for the other kind; one user has four
channels, and the first message to them fails. -/
def mailOnly : List ChannelKind := [.email, .email]

def outage : Notice := ⟨[.ofNat 7], "[incident] API", "Investigating"⟩

def ada : Subscriber where
  userId := .ofNat 1
  channels :=
    [⟨.ofNat 2, .ofNat 1, .email, "old@example.org", false, true, ⟨0, 0⟩, ⟨0, 0⟩⟩,
      ⟨.ofNat 3, .ofNat 1, .email, "full@example.org", true, true, ⟨0, 0⟩, ⟨0, 0⟩⟩,
      ⟨.ofNat 4, .ofNat 1, .telegram, "1001", true, true, ⟨0, 0⟩, ⟨0, 0⟩⟩,
      ⟨.ofNat 5, .ofNat 1, .email, "ada@example.org", true, true, ⟨0, 0⟩, ⟨0, 0⟩⟩]

def knowsAda : Interpreter Unit where
  answer
    | .store (.subscribersFor _), _ => (.value (.ok [ada]), ())
    | _, _ => (.never, ())

theorem dispatch_outage :
    knowsAda.answer (.store (.subscribersFor outage.serviceIds)) () = (.value (.ok [ada]), ()) ∧
      ∃ results report,
        (dispatch mailOnly (fun n _ => n != 0) outage).run knowsAda () =
          (.value (.ok (results, report)), ()) ∧
          FansOut mailOnly (fun n _ => n != 0) outage (allChannels [ada]) results report :=
  ⟨rfl, dispatch_exactly_once knowsAda mailOnly _ outage [ada] () () rfl⟩

example :
    (dispatch mailOnly (fun n _ => n != 0) outage).run knowsAda () =
      (.value (.ok
        ([(⟨1, "full@example.org", outage.subject, outage.body⟩, false),
          (⟨1, "ada@example.org", outage.subject, outage.body⟩, true)],
          ⟨2, 1, 1, 2⟩)), ()) := rfl

end StatusPage.Notification
