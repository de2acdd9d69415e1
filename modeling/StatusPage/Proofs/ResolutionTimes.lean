import StatusPage.Proofs.EventHistory

/-!
When events were resolved. The time is taken when an update gives an event a final status and the
event has no such time yet. A new event has none, whatever its status: one that is entered as
resolved or completed stays without it until there is an update of this kind.
-/

set_option autoImplicit false

namespace StatusPage

open Store (Memory Stamp)
open Time (Instant)

/-- The times of an event, after some exchanges: it was created during one of them, it was not
resolved before, and as long as it has a final status and no time of resolution, it is what it was
when it was created. -/
structure Event.Dated (exchanges : List Exchange) (event : Event) : Prop where
  born : ∃ exchange ∈ exchanges, exchange.stamp.now = event.createdAt
  ordered : ∀ time, event.resolvedAt = some time → event.createdAt ≤ time
  unresolved : event.status.isFinal → event.resolvedAt = none →
    ∃ created ∈ exchanges.filterMap Exchange.createdEvent,
      { event with templateId := created.templateId } = created

namespace Event.Dated

variable {exchanges : List Exchange} {event : Event}

theorem append (dated : event.Dated exchanges) (later : List Exchange) :
    event.Dated (exchanges ++ later) where
  born := by
    obtain ⟨exchange, member, time⟩ := dated.born
    exact ⟨exchange, List.mem_append_left _ member, time⟩
  ordered := dated.ordered
  unresolved := by
    intro final none
    obtain ⟨created, made, same⟩ := dated.unresolved final none
    rw [List.filterMap_append]
    exact ⟨created, List.mem_append_left _ made, same⟩

theorem detached (dated : event.Dated exchanges) (templateId : Option Uuid) :
    Event.Dated exchanges { event with templateId := templateId } :=
  ⟨dated.born, dated.ordered, dated.unresolved⟩

theorem created {last : Exchange} {memory : Memory} (honest : last.Honest memory)
    (made : last.createdEvent = some event) (unresolved : event.resolvedAt = none) :
    event.Dated (exchanges ++ [last]) where
  born := by
    obtain ⟨_, _, _, _, _, time⟩ := Exchange.createdEvent_spec honest made
    exact ⟨last, List.mem_append_right _ List.mem_cons_self, time.symm⟩
  ordered := by
    intro time resolved
    rw [unresolved] at resolved
    cases resolved
  unresolved := by
    intro _ _
    refine ⟨event, ?_, rfl⟩
    rw [List.filterMap_append, List.filterMap_cons_some made]
    exact List.mem_append_right _ List.mem_cons_self

theorem changed (dated : event.Dated exchanges) {change : StatusChange} {now : Instant}
    (planned : change.resolves = change.status.isFinal)
    (later : ∀ exchange ∈ exchanges, exchange.stamp.now ≤ now) :
    (Memory.changed event change now).Dated exchanges where
  born := dated.born
  ordered := by
    intro time resolved
    simp only [Memory.changed, nextResolvedAt] at resolved
    cases before : event.resolvedAt with
    | some first =>
        rw [before] at resolved
        exact dated.ordered time (before.trans resolved)
    | none =>
        rw [before] at resolved
        obtain ⟨exchange, member, born⟩ := dated.born
        cases resolves : change.resolves with
        | false =>
            rw [resolves] at resolved
            cases resolved
        | true =>
            rw [resolves] at resolved
            cases resolved
            exact born ▸ later exchange member
  unresolved := by
    intro final none
    have resolves : change.resolves = true := planned.trans final
    simp only [Memory.changed, nextResolvedAt, resolves, if_true] at none
    split at none <;> cases none

end Event.Dated

/-- What one more exchange keeps, when no time before it was later. -/
theorem Event.Dated.effect {exchanges : List Exchange} {memory : Memory} {last : Exchange}
    (dated : ∀ event ∈ memory.events, event.Dated exchanges) (honest : last.Honest memory)
    (planned : last.Planned)
    (later : ∀ exchange ∈ exchanges, exchange.stamp.now ≤ last.stamp.now) :
    ∀ event ∈ (last.effect memory).events, event.Dated (exchanges ++ [last]) := by
  intro event member
  -- Identifiers may occur twice here: a change is then made to every event with the identifier,
  -- from the first of them.
  cases eventEffect honest with
  | none events =>
      rw [events] at member
      exact (dated event member).append _
  | created new events _ made _ _ unresolved =>
      rw [events] at member
      rcases List.mem_cons.mp member with rfl | earlier
      · exact .created honest made unresolved
      · exact (dated event earlier).append _
  | recorded old new update op found events _ _ _ _ recorded =>
      rw [events] at member
      obtain ⟨other, present, rfl⟩ := List.mem_map.mp member
      obtain ⟨stamp, _, _, rfl, -, time⟩ :=
        Exchange.recordedFor_spec ((recorded old.id).trans (if_pos rfl))
      by_cases same : other.id = old.id
      · rw [if_pos same, time]
        exact ((dated old (Memory.findEvent_spec found).1).changed (planned _ _ op) later).append _
      · rw [if_neg same]
        exact (dated other present).append _
  | deleted id events =>
      rw [events] at member
      exact (dated event (List.mem_of_mem_filter member)).append _
  | detached id events =>
      rw [events] at member
      obtain ⟨old, present, rfl⟩ := List.mem_map.mp member
      by_cases attached : old.templateId = some id
      · rw [if_pos attached]
        exact ((dated old present).detached none).append _
      · rw [if_neg attached]
        exact (dated old present).append _

theorem Event.Dated.replay {exchanges : List Exchange} (honest : HonestFrom .empty exchanges)
    (planned : ∀ exchange ∈ exchanges, exchange.Planned)
    (clock : exchanges.Pairwise fun earlier later => earlier.stamp.now ≤ later.stamp.now) :
    ∀ event ∈ (StatusPage.replay .empty exchanges).events, event.Dated exchanges := by
  induction exchanges using List.reverseRecOn with
  | nil => simp [Memory.empty]
  | append_singleton exchanges last ih =>
      obtain ⟨earlier, fits⟩ := honest.init
      obtain ⟨before, -, later⟩ := List.pairwise_append.mp clock
      have dated :=
        ih earlier (fun exchange member => planned exchange (List.mem_append_left _ member)) before
      rw [replay_append]
      exact Event.Dated.effect dated fits
        (planned last (List.mem_append_right _ List.mem_cons_self))
        fun exchange member => later exchange member last List.mem_cons_self

/-- In every run of any requests over an empty store, while the clock does not go back, an event
that is resolved or completed has a time of resolution that is not before its creation, or it was
created as it is and has never been changed. -/
theorem resolution_dated {notices : Bool} (moves : List (Move (eventService notices)))
    (clock : (Run.after .empty moves).exchanges.Pairwise fun earlier later =>
      earlier.stamp.now ≤ later.stamp.now)
    {event : Event} (present : event ∈ (Run.after .empty moves).memory.events)
    (final : event.status.isFinal) :
    (∃ time, event.resolvedAt = some time ∧ event.createdAt ≤ time) ∨
      event.resolvedAt = none ∧ ∃ entry ∈ (Run.after .empty moves).log,
        ∃ createdBy draft created,
        entry.request = .create createdBy draft ∧ entry.exchange.createdEvent = some created ∧
          { event with templateId := created.templateId } = created := by
  obtain ⟨reached, honest⟩ := Run.replay_exchanges .empty moves
  have dated := Event.Dated.replay honest (Run.planned moves) clock event (reached ▸ present)
  rcases Option.eq_none_or_eq_some event.resolvedAt with unresolved | ⟨time, resolved⟩
  · obtain ⟨created, made, same⟩ := dated.unresolved final unresolved
    obtain ⟨exchange, happened, made⟩ := List.mem_filterMap.mp made
    obtain ⟨entry, logged, rfl⟩ := List.mem_map.mp happened
    have asked := Run.log_asked (EventRequest.program_asks notices) .empty moves entry logged
    obtain ⟨createdBy, draft, request⟩ := createdEvent_asked asked made
    exact .inr ⟨unresolved, entry, logged, createdBy, draft, created, request, made, same⟩
  · exact .inl ⟨time, resolved, dated.ordered time resolved⟩

/-- One incident is entered as resolved, another is resolved by an update. -/
def twoIncidents : List (Move (eventService false)) :=
  [.arrival (.create (.ofNat 9)
      ⟨"Disk full", "incident", "resolved", some "major", "", none, none, none,
        false, none, []⟩),
    .turn 0 (.plain 1 1),
    .arrival (.create (.ofNat 9)
      ⟨"Disk lost", "incident", "investigating", some "major", "", none, none, none,
        false, none, []⟩),
    .turn 1 (.plain 2 2),
    .arrival (.addUpdate (.ofNat 2) (.ofNat 9) ⟨"resolved", "fixed", false⟩),
    .turn 2 (.plain 3 3),
    .turn 2 (.plain 4 4)]

theorem twoIncidents_dated :
    ∃ event ∈ (Run.after .empty twoIncidents).memory.events, event.id = .ofNat 2 ∧
      event.status = .resolved ∧
      ∃ time, event.resolvedAt = some time ∧ event.createdAt ≤ time := by
  have clock : (Run.after .empty twoIncidents).exchanges.Pairwise
      fun earlier later => earlier.stamp.now ≤ later.stamp.now := by decide +kernel
  obtain ⟨event, found⟩ : ∃ event,
    (Run.after .empty twoIncidents).memory.findEvent (.ofNat 2) = some event :=
    Option.isSome_iff_exists.mp (by decide +kernel)
  have known : ((Run.after .empty twoIncidents).memory.findEvent (.ofNat 2)).map
      (fun event => (event.status, event.resolvedAt)) = some (.resolved, some ⟨4, 0⟩) := by
    decide +kernel
  rw [found] at known
  obtain ⟨status, resolved⟩ := Prod.mk.inj (Option.some.inj known)
  obtain ⟨present, mine⟩ := Memory.findEvent_spec found
  refine ⟨event, present, mine, status, ?_⟩
  rcases resolution_dated twoIncidents clock present (by rw [status]; rfl)
    with dated | ⟨none, -⟩
  · exact dated
  · cases none.symm.trans resolved

theorem enteredAsResolved_undated :
    (Run.after .empty twoIncidents).exchanges.Pairwise (fun earlier later =>
      earlier.stamp.now ≤ later.stamp.now) ∧
      ∃ event ∈ (Run.after .empty twoIncidents).memory.events, event.status.isFinal ∧
        event.resolvedAt = none := by
  decide +kernel

end StatusPage
