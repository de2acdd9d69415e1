import StatusPage.Database.Store
import StatusPage.Proofs.DatabaseTalks
import StatusPage.Proofs.EventHistory
import StatusPage.Proofs.Names
import StatusPage.Proofs.StoreIntegrity

/-!
Lists of events and their pages. A list has the events that match two filters, the one that was
created last first, and a page shows a part of it; pages of one size that follow each other show
each event of the list once. A database is asked for the same page as the store in memory.
-/

set_option autoImplicit false

namespace StatusPage

open Store (Memory Stamp Call)

/-! ### Pages -/

private theorem Paging.page_eq {α : Type} (limit offset : Option Int) (items : List α) :
    Paging.page limit offset items =
      (items.drop (max (offset.getD 0) 0).toNat).take (min (max (limit.getD 50) 1) 100).toNat := rfl

private theorem Paging.page_within {α : Type} {size : Nat} (least : 1 ≤ size)
    (most : size ≤ 100) (start : Nat) (items : List α) :
    Paging.page (some size) (some start) items = (items.drop start).take size := by
  have taken : (min (max (size : Int) 1) 100).toNat = size := by omega
  have dropped : (max (start : Int) 0).toNat = start := by omega
  rw [Paging.page_eq, Option.getD_some, Option.getD_some, taken, dropped]

private theorem Paging.flatMap_pages {α : Type} (items : List α) (size count : Nat) :
    (List.range count).flatMap (fun i => (items.drop (i * size)).take size) =
      items.take (count * size) := by
  induction count with
  | zero => rw [Nat.zero_mul, List.take_zero, List.range_zero, List.flatMap_nil]
  | succ count ih =>
      rw [List.range_succ, List.flatMap_append, ih, List.flatMap_singleton, Nat.succ_mul,
        List.take_add]

/-! ### Filters -/

section Filters

variable {α : Type} [Named α]

theorem Events.readFilter_cases (complete : ∀ a : α, a ∈ Named.all) (unknown : EventError)
    (given : Option String) :
    (∃ filter : Option α,
      given = filter.map Named.name ∧ readFilter unknown given = .ok filter) ∨
      ∃ text, given = some text ∧ (∀ a : α, Named.name a ≠ text) ∧
        readFilter (α := α) unknown given = .error unknown := by
  cases given with
  | none => exact .inl ⟨none, rfl, rfl⟩
  | some text =>
      cases named : (Named.ofName? text : Option α) with
      | some a =>
          have name : Named.name a = text := by simpa using List.find?_some named
          refine .inl ⟨some a, congrArg some name.symm, ?_⟩
          rw [readFilter, named]
      | none =>
          refine .inr ⟨text, rfl, fun a same => ?_, by rw [readFilter, named]⟩
          exact List.find?_eq_none.mp named a (complete a) (beq_iff_eq.mpr same)

private theorem Events.readFilter_name (complete : ∀ a : α, a ∈ Named.all)
    (distinct : Function.Injective (Named.name : α → String)) (unknown : EventError)
    (filter : Option α) :
    readFilter unknown (filter.map Named.name) = .ok filter := by
  rcases readFilter_cases complete unknown (filter.map Named.name)
    with ⟨read, same, known⟩ | ⟨text, given, other, -⟩
  · rw [known, Option.map_injective distinct same]
  · obtain ⟨a, -, name⟩ := Option.map_eq_some_iff.mp given
    exact absurd name (other a)

end Filters

def Event.Matches (kind : Option EventKind) (status : Option EventStatus) (event : Event) : Prop :=
  (∀ k, kind = some k → event.kind = k) ∧ ∀ s, status = some s → event.status = s

instance (kind : Option EventKind) (status : Option EventStatus) (event : Event) :
    Decidable (event.Matches kind status) :=
  inferInstanceAs (Decidable (_ ∧ _))

private theorem all_beq_iff {α : Type} [DecidableEq α] {filter : Option α} {a : α} :
    filter.all (· == a) = true ↔ ∀ b, filter = some b → a = b := by
  simp only [Option.all_eq_true, beq_iff_eq]
  exact forall_congr' fun b => imp_congr_right fun _ => eq_comm

private theorem Store.Memory.matchingEvents_eq (memory : Memory) (filter : EventFilter) :
    memory.matchingEvents filter = memory.events.filter fun event =>
      event.Matches filter.kind filter.status := by
  refine List.filter_congr fun event _ => ?_
  rw [Bool.eq_iff_iff, Bool.and_eq_true, all_beq_iff, all_beq_iff, decide_eq_true_iff,
    Event.Matches]

/-! ### Lists -/

/-- What a list of events is to be, given the events with the newest first. -/
inductive Listed (events : List Event) (query : EventQuery) :
    Except EventError (List Event) → Prop
  | unknownKind (text : String) (given : query.kind = some text)
      (unknown : ∀ kind : EventKind, kind.name ≠ text) :
      Listed events query (.error .invalidKind)
  | unknownStatus (kind : Option EventKind) (known : query.kind = kind.map EventKind.name)
      (text : String) (given : query.status = some text)
      (unknown : ∀ status : EventStatus, status.name ≠ text) :
      Listed events query (.error .invalidStatus)
  | page (kind : Option EventKind) (status : Option EventStatus)
      (knownKind : query.kind = kind.map EventKind.name)
      (knownStatus : query.status = status.map EventStatus.name) :
      Listed events query
        (.ok (((events.filter fun event => event.Matches kind status).drop
          (max (query.offset.getD 0) 0).toNat).take (min (max (query.limit.getD 50) 1) 100).toNat))

/-- The answer to a query at any moment, if the store is this one; the store stays as it is. -/
def Events.Answers (memory : Memory) (query : EventQuery)
    (answer : Except EventError (List Event)) : Prop :=
  ∀ moment : Moment, (Events.list query).run moment.interpreter memory = (.value answer, memory)

namespace Events

private theorem list_unknownKind (memory : Memory) {query : EventQuery}
    (unknown : readFilter (α := EventKind) .invalidKind query.kind = .error .invalidKind) :
    Answers memory query (.error .invalidKind) := by
  intro moment
  rw [list, unknown]
  rfl

private theorem list_unknownStatus (memory : Memory) {query : EventQuery} {kind : Option EventKind}
    (known : readFilter .invalidKind query.kind = .ok kind)
    (unknown : readFilter (α := EventStatus) .invalidStatus query.status = .error .invalidStatus) :
    Answers memory query (.error .invalidStatus) := by
  intro moment
  simp only [list, known, unknown]
  rfl

private theorem list_known (memory : Memory) (query : EventQuery) {kind : Option EventKind}
    {status : Option EventStatus} (knownKind : readFilter .invalidKind query.kind = .ok kind)
    (knownStatus : readFilter .invalidStatus query.status = .ok status) :
    Answers memory query (.ok (Paging.page query.limit query.offset
      (memory.events.filter fun event => event.Matches kind status))) := by
  intro moment
  simp only [list, knownKind, knownStatus]
  rw [← memory.matchingEvents_eq ⟨kind, status, query.limit, query.offset⟩]
  rfl

theorem list_listed (memory : Memory) (query : EventQuery) :
    ∃ answer, Answers memory query answer ∧ Listed memory.events query answer := by
  rcases readFilter_cases EventKind.mem_all .invalidKind query.kind with
    ⟨kind, sameKind, knownKind⟩ | ⟨text, given, other, unknown⟩
  · rcases readFilter_cases EventStatus.mem_all .invalidStatus query.status with
      ⟨status, sameStatus, knownStatus⟩ | ⟨text, given, other, unknown⟩
    · exact ⟨_, list_known memory query knownKind knownStatus,
        .page kind status sameKind sameStatus⟩
    · exact ⟨_, list_unknownStatus memory knownKind unknown,
        .unknownStatus kind sameKind text given other⟩
  · exact ⟨_, list_unknownKind memory unknown, .unknownKind text given other⟩

/-- Pages of one size, put together, are the list up to their end. -/
theorem list_pages (memory : Memory) (kind : Option EventKind) (status : Option EventStatus)
    {size : Nat} (least : 1 ≤ size) (most : size ≤ 100) :
    ∃ pages : Nat → List Event,
      (∀ i, Answers memory
        ⟨kind.map EventKind.name, status.map EventStatus.name, some size, some (i * size : Nat)⟩
        (.ok (pages i))) ∧
      ∀ count, (List.range count).flatMap pages =
        (memory.events.filter fun event => event.Matches kind status).take (count * size) := by
  have knownKind := readFilter_name EventKind.mem_all EventKind.name_injective .invalidKind kind
  have knownStatus :=
    readFilter_name EventStatus.mem_all EventStatus.name_injective .invalidStatus status
  refine ⟨fun i =>
    ((memory.events.filter fun event => event.Matches kind status).drop (i * size)).take size, ?_,
    ?_⟩
  · intro i
    have page :=
      list_known memory ⟨_, _, some size, some (i * size : Nat)⟩ knownKind knownStatus
    rwa [Paging.page_within least most] at page
  · exact Paging.flatMap_pages _ size

end Events

/-! ### The order of events -/

private theorem EventEffect.newest_first {before after : Memory} {exchange : Exchange}
    (effect : EventEffect before exchange after) :
    (after.events.map Event.id).Sublist
      (exchange.createdEvent.toList.map Event.id ++ before.events.map Event.id) := by
  cases effect with
  | none events _ created _ =>
      rw [events, created]
      exact .refl _
  | created event events _ created _ _ _ _ =>
      rw [events, created]
      exact .refl _
  | recorded event new update _ found events _ _ _ created _ =>
      have ids (e : Event) :=
        Memory.replaced_id (Memory.findEvent_spec found).2 new.change update.createdAt e
      rw [events, created, Memory.keys_map fun e _ => ids e]
      exact .refl _
  | deleted id events _ created _ =>
      rw [events, created]
      exact List.filter_sublist.map Event.id
  | detached id events _ created _ =>
      rw [events, created, Memory.keys_map fun event _ => Memory.detached_id id event]
      exact .refl _

/-- The events that are left are in the order of their creation, the last one first. -/
theorem replay_newest_first {exchanges : List Exchange} (honest : HonestFrom .empty exchanges) :
    ((replay .empty exchanges).events.map Event.id).Sublist
      ((exchanges.filterMap Exchange.createdEvent).map Event.id).reverse := by
  induction exchanges using List.reverseRecOn with
  | nil => exact .refl _
  | append_singleton exchanges last ih =>
      obtain ⟨earlier, fits⟩ := honest.init
      have added : ([last].filterMap Exchange.createdEvent).reverse = last.createdEvent.toList := by
        cases made : last.createdEvent <;> simp [made]
      rw [replay_append, List.filterMap_append, List.map_append, List.reverse_append,
        ← List.map_reverse, added]
      exact (eventEffect fits).newest_first.trans ((List.Sublist.refl _).append (ih earlier))

/-! ### Pages of a database -/

private theorem Database.listEvents_sent {σ : Type} (server : Server σ) (state : σ)
    (filter : EventFilter) :
    ((perform (.listEvents filter)).run server state).2 = [.perform (selectEvents filter)] := by
  change (((listEvents filter).run.bind _).run server state).2 = _
  rw [listEvents, Work.allRows_run]
  rfl

private theorem Database.selectEvents_page : ∃ front, ∀ filter : EventFilter,
    selectEvents filter =
      ⟨front ++ " LIMIT $3 OFFSET $4",
        [.orNull .ofName filter.kind, .orNull .ofName filter.status,
          .int (min (max (filter.limit.getD 50) 1) 100),
          .int (max (filter.offset.getD 0) 0)]⟩ := by
  refine ⟨"SELECT " ++ eventColumns ++
    " FROM events e WHERE ($1::text IS NULL OR e.event_type = $1) " ++
    "AND ($2::text IS NULL OR e.status = $2) ORDER BY e.created_at DESC, e.id DESC",
    fun filter => ?_⟩
  have last :
      "AND ($2::text IS NULL OR e.status = $2) ORDER BY e.created_at DESC, e.id DESC LIMIT $3 OFFSET $4" =
      "AND ($2::text IS NULL OR e.status = $2) ORDER BY e.created_at DESC, e.id DESC" ++
        " LIMIT $3 OFFSET $4" := rfl
  rw [selectEvents, last, ← String.append_assoc]
  rfl

/-- In every state that a store in memory can get into, a query is answered with the error for its
kind, else with the error for its status, else with a part of the events that match, of which the
last created comes first. Pages of one size that follow each other have all of these events and each
once. A database is asked for a page with the same bounds. -/
theorem events_listed (calls : List (Stamp × Call)) :
    (∀ query, ∃ answer, Events.Answers (Memory.empty.run calls) query answer ∧
      Listed (Memory.empty.run calls).events query answer) ∧
    ((Memory.empty.run calls).events.map Event.id).Sublist
      (((Exchange.carriedOut .empty calls).filterMap Exchange.createdEvent).map
        Event.id).reverse ∧
    (∀ kind status, ∀ size : Nat,
      1 ≤ size → size ≤ 100 → ∃ pages : Nat → List Event,
      (∀ i, Events.Answers (Memory.empty.run calls)
        ⟨kind.map EventKind.name, status.map EventStatus.name, some size, some (i * size : Nat)⟩
        (.ok (pages i))) ∧
      ∀ count, ((Memory.empty.run calls).events.filter fun event =>
        event.Matches kind status).length ≤ count * size →
        (List.range count).flatMap pages =
          (Memory.empty.run calls).events.filter fun event => event.Matches kind status) ∧
    ∃ front, ∀ {σ : Type} (server : Database.Server σ) (state : σ) (filter : EventFilter),
      ((Database.perform (.listEvents filter)).run server state).2 =
        [.perform ⟨front ++ " LIMIT $3 OFFSET $4",
          [.orNull .ofName filter.kind, .orNull .ofName filter.status,
            .int (min (max (filter.limit.getD 50) 1) 100),
            .int (max (filter.offset.getD 0) 0)]⟩] := by
  refine ⟨Events.list_listed _, ?_, ?_, ?_⟩
  · rw [← replay_carriedOut]
    exact replay_newest_first (carriedOut_honest .empty calls)
  · intro kind status size least most
    obtain ⟨pages, answered, whole⟩ :=
      Events.list_pages (Memory.empty.run calls) kind status least most
    refine ⟨pages, answered, fun count enough => ?_⟩
    rw [whole, List.take_of_length_le enough]
  · obtain ⟨front, page⟩ := Database.selectEvents_page
    refine ⟨front, fun server state filter => ?_⟩
    rw [Database.listEvents_sent, page]

end StatusPage
