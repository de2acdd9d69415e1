import StatusPage.Event.Service
import StatusPage.Proofs.Interleaving
import StatusPage.Proofs.Names
import StatusPage.Proofs.StoreIntegrity

/-!
New events. A draft has texts for a kind, a status and a severity and may refer to a template, and
each of these may be wrong; the first that is wrong is what the caller is told. A draft that is
right in all of them becomes one event, and nothing else that is stored is changed.
-/

set_option autoImplicit false

namespace StatusPage

open Store (Memory Stamp)

/-! ### Legal drafts -/

namespace EventDraft

variable (draft : EventDraft)

def KnownKind : Prop := ∃ kind : EventKind, draft.kind = kind.name

def LegalStatus : Prop :=
  ∃ (kind : EventKind) (status : EventStatus),
    draft.kind = kind.name ∧ draft.status = status.name ∧ status.LegalFor kind

/-- An incident has a severity that is known. For maintenance it does not matter what is given. -/
def Graded : Prop :=
  draft.kind = "incident" → ∃ severity : Severity, draft.severity = some severity.name

def FromStored (memory : Memory) : Prop :=
  ∀ id, draft.templateId = some id → ∃ template ∈ memory.templates, template.id = id

structure ClassedAs (c : Classification) : Prop where
  kind : draft.kind = c.kind.name
  status : draft.status = c.status.name
  legal : c.status.LegalFor c.kind
  severity : c.severity.map Severity.name = if draft.kind = "incident" then draft.severity else none
  graded : draft.Graded

inductive Classifies : Except EventError Classification → Prop
  | unknownKind (unknown : ¬draft.KnownKind) : Classifies (.error .invalidKind)
  | illegalStatus (known : draft.KnownKind) (illegal : ¬draft.LegalStatus) :
      Classifies (.error .invalidStatus)
  | ungraded (legal : draft.LegalStatus) (ungraded : ¬draft.Graded) :
      Classifies (.error .invalidSeverity)
  | legal {c : Classification} (classed : draft.ClassedAs c) : Classifies (.ok c)

variable {draft}

theorem LegalStatus.known (legal : draft.LegalStatus) : draft.KnownKind := by
  obtain ⟨kind, _, known, -⟩ := legal
  exact ⟨kind, known⟩

private theorem ClassedAs.legalStatus {c : Classification} (classed : draft.ClassedAs c) :
    draft.LegalStatus :=
  ⟨c.kind, c.status, classed.kind, classed.status, classed.legal⟩

private theorem readStatus_eq_ok_iff {kind : EventKind} {text : String} {status : EventStatus} :
    kind.readStatus text = .ok status ↔ text = status.name ∧ status.LegalFor kind := by
  unfold EventKind.readStatus
  cases named : (Named.ofName? text : Option EventStatus) with
  | none =>
      have unknown := Named.ofName?_eq_none.mp named status
      exact ⟨nofun, fun both => absurd both.1 unknown⟩
  | some found =>
      have name : text = found.name := Named.ofName?_eq_some.mp named
      constructor
      · intro read
        by_cases legal : found.LegalFor kind
        · simp only [if_pos legal] at read
          cases read
          exact ⟨name, legal⟩
        · simp only [if_neg legal] at read
          cases read
      · rintro ⟨same, legal⟩
        cases EventStatus.name_injective (name.symm.trans same)
        exact if_pos legal

theorem readStatus_error {kind : EventKind} {text : String} {e : EventError}
    (refused : kind.readStatus text = .error e) : e = .invalidStatus := by
  unfold EventKind.readStatus at refused
  split at refused
  · split at refused
    · cases refused
    · cases refused
      rfl
  · cases refused
    rfl

private theorem classifies_severity {kind : EventKind} {status : EventStatus}
    (known : draft.kind = kind.name) (named : draft.status = status.name)
    (legal : status.LegalFor kind) :
    draft.Classifies ((kind.readSeverity draft.severity).map fun severity =>
      ⟨kind, status, severity⟩) := by
  cases kind with
  | maintenance =>
      have other : draft.kind ≠ "incident" := by
        rw [known]
        decide
      exact .legal ⟨known, named, legal, (if_neg other).symm,
        fun incident => absurd incident other⟩
  | incident =>
      have incident : draft.kind = "incident" := known
      have stated : draft.LegalStatus := ⟨.incident, status, known, named, legal⟩
      unfold EventKind.readSeverity
      cases read : draft.severity.bind fun text => (Named.ofName? text : Option Severity) with
      | none =>
          refine .ungraded stated fun graded => ?_
          obtain ⟨severity, given⟩ := graded incident
          rw [given, Option.bind_some] at read
          exact Named.ofName?_eq_none.mp read severity rfl
      | some severity =>
          obtain ⟨text, given, found⟩ := Option.bind_eq_some_iff.mp read
          have name : text = severity.name := Named.ofName?_eq_some.mp found
          have severe : draft.severity = some severity.name := given.trans (congrArg some name)
          have kept : some severity.name = if draft.kind = "incident" then draft.severity
              else none := by
            rw [if_pos incident, severe]
          exact .legal ⟨known, named, legal, kept, fun _ => ⟨severity, severe⟩⟩

theorem classifies (draft : EventDraft) :
    draft.Classifies (classify draft.kind draft.status draft.severity) := by
  unfold classify readKind
  cases kindNamed : (Named.ofName? draft.kind : Option EventKind) with
  | none =>
      refine .unknownKind ?_
      rintro ⟨kind, known⟩
      exact Named.ofName?_eq_none.mp kindNamed kind known
  | some kind =>
      have known : draft.kind = kind.name := Named.ofName?_eq_some.mp kindNamed
      change draft.Classifies (kind.readStatus draft.status >>= _)
      cases read : kind.readStatus draft.status with
      | error e =>
          cases readStatus_error read
          refine .illegalStatus ⟨kind, known⟩ ?_
          rintro ⟨other, status, same, named, legal⟩
          cases EventKind.name_injective (known.symm.trans same)
          rw [readStatus_eq_ok_iff.mpr ⟨named, legal⟩] at read
          cases read
      | ok status =>
          obtain ⟨named, legal⟩ := readStatus_eq_ok_iff.mp read
          have graded := classifies_severity known named legal
          change draft.Classifies (kind.readSeverity draft.severity >>= _)
          cases severity : kind.readSeverity draft.severity with
          | error e =>
              rw [severity] at graded
              exact graded
          | ok severity' =>
              rw [severity] at graded
              exact graded

end EventDraft

/-! ### Creations -/

structure Event.Holds (event : Event) (draft : EventDraft) (createdBy : Uuid)
    (stamp : Stamp) : Prop where
  id : event.id = stamp.id
  title : event.title = draft.title
  kind : event.kind.name = draft.kind
  status : event.status.name = draft.status
  severity : event.severity.map Severity.name = if draft.kind = "incident"
    then draft.severity else none
  description : event.description = draft.description
  startedAt : event.startedAt = draft.startedAt
  resolvedAt : event.resolvedAt = none
  scheduledStart : event.scheduledStart = draft.scheduledStart
  scheduledEnd : event.scheduledEnd = draft.scheduledEnd
  notify : event.notify = draft.notify
  templateId : event.templateId = draft.templateId
  createdBy : event.createdBy = createdBy
  increasing : event.serviceIds.Pairwise (· < ·)
  services : ∀ id, id ∈ event.serviceIds ↔ id ∈ draft.serviceIds
  createdAt : event.createdAt = stamp.now
  updatedAt : event.updatedAt = stamp.now

inductive Creation (memory : Memory) (stamp : Stamp) (createdBy : Uuid) (draft : EventDraft) :
    Reply (Except EventError Event) × Memory → Prop
  | unknownKind (unknown : ¬draft.KnownKind) :
      Creation memory stamp createdBy draft (.value (.error .invalidKind), memory)
  | illegalStatus (known : draft.KnownKind) (illegal : ¬draft.LegalStatus) :
      Creation memory stamp createdBy draft (.value (.error .invalidStatus), memory)
  | ungraded (known : draft.KnownKind) (legal : draft.LegalStatus) (ungraded : ¬draft.Graded) :
      Creation memory stamp createdBy draft (.value (.error .invalidSeverity), memory)
  | unknownTemplate (known : draft.KnownKind) (legal : draft.LegalStatus) (graded : draft.Graded)
      (unknown : ¬draft.FromStored memory) :
      Creation memory stamp createdBy draft (.value (.error .templateNotFound), memory)
  | created (known : draft.KnownKind) (legal : draft.LegalStatus) (graded : draft.Graded)
      (stored : draft.FromStored memory) {event : Event}
      (holds : event.Holds draft createdBy stamp) :
      Creation memory stamp createdBy draft (.value (.ok event),
        { memory with events := event :: memory.events })

namespace Events

variable {memory : Memory} {moment : Moment}

def written (createdBy : Uuid) (draft : EventDraft) (c : Classification) : NewEvent :=
  { title := draft.title, kind := c.kind, status := c.status, severity := c.severity,
    description := draft.description, startedAt := draft.startedAt,
    scheduledStart := draft.scheduledStart, scheduledEnd := draft.scheduledEnd,
    notify := draft.notify, templateId := draft.templateId, createdBy := createdBy,
    serviceIds := firstOccurrences draft.serviceIds }

private theorem calling_run {β : Type} (call : Store.Call) (describe : StoreError → EventError)
    (next : Except EventError call.Result → Program β) :
    ((calling call describe).bind next).run moment.interpreter memory =
      (next ((memory.perform moment.stamp call).1.mapError describe)).run moment.interpreter
        (memory.perform moment.stamp call).2 := rfl

private theorem notify_run {β : Type} (notices : Bool) (event : Event) (subject body : String)
    (next : Unit → Program β) :
    ((notify notices event subject body).bind next).run moment.interpreter memory =
      (next ()).run moment.interpreter memory := by
  unfold notify
  split
  · rfl
  · rfl

private theorem create_refused (notices : Bool) (createdBy : Uuid) {draft : EventDraft}
    {e : EventError} (refused : classify draft.kind draft.status draft.severity = .error e) :
    (create notices createdBy draft).run moment.interpreter memory =
      (.value (.error e), memory) := by
  unfold create
  rw [refused]
  rfl

private theorem create_unknownTemplate (notices : Bool) (createdBy : Uuid) {draft : EventDraft}
    {c : Classification} (legal : classify draft.kind draft.status draft.severity = .ok c)
    {id : Uuid} (chosen : draft.templateId = some id) (absent : memory.findTemplate id = none) :
    (create notices createdBy draft).run moment.interpreter memory =
      (.value (.error .templateNotFound), memory) := by
  unfold create
  rw [legal, chosen]
  change ((calling (.findTemplate id) (templateMissing "loading template")).bind _).run
    moment.interpreter memory = _
  rw [calling_run]
  simp only [Memory.perform, absent]
  rfl

/-- Nothing keeps the store from writing what refers to a template that it has, or to none. -/
theorem createEvent_stored (new : NewEvent) {stamp : Stamp}
    (stored : ∀ id, new.templateId = some id → (memory.findTemplate id).isSome) :
    ∃ event, memory.perform stamp (.createEvent new) = (.ok event,
      { memory with events := event :: memory.events }) ∧
      event =
        { id := stamp.id, title := new.title, kind := new.kind, status := new.status,
          severity := new.severity, description := new.description, startedAt := new.startedAt,
          resolvedAt := none, scheduledStart := new.scheduledStart,
          scheduledEnd := new.scheduledEnd, notify := new.notify,
          templateId := new.templateId, createdBy := new.createdBy,
          serviceIds := Store.idSet new.serviceIds, createdAt := stamp.now,
          updatedAt := stamp.now } := by
  have found : ¬(new.templateId.any fun id => (memory.findTemplate id).isNone) = true := by
    rw [Option.any_eq_true]
    rintro ⟨id, chosen, missing⟩
    have present := stored id chosen
    rw [Option.isNone_iff_eq_none.mp missing] at present
    cases present
  refine ⟨_, ?_, rfl⟩
  rw [Memory.perform, Memory.createEvent, if_neg found]

private theorem create_stored (notices : Bool) (createdBy : Uuid) {draft : EventDraft}
    {c : Classification} (legal : classify draft.kind draft.status draft.severity = .ok c)
    (stored : ∀ id, draft.templateId = some id → (memory.findTemplate id).isSome)
    {event : Event}
    (performed : memory.perform moment.stamp (.createEvent (written createdBy draft c)) =
      (.ok event, { memory with events := event :: memory.events })) :
    (create notices createdBy draft).run moment.interpreter memory =
      (.value (.ok event), { memory with events := event :: memory.events }) := by
  unfold create
  rw [legal]
  dsimp -zeta only
  extract_lets new insert
  have inserted : (insert (.ok ())).run moment.interpreter memory =
      (.value (.ok event), { memory with events := event :: memory.events }) := by
    change ((calling (.createEvent (written createdBy draft c)) _).bind _).run
      moment.interpreter memory = _
    rw [calling_run, performed]
    by_cases flagged : event.notify
    · simp only [Except.mapError, flagged, if_true]
      exact notify_run notices event _ _ _
    · simp only [Except.mapError, flagged]
      rfl
  cases chosen : draft.templateId with
  | none => exact inserted
  | some id =>
      obtain ⟨template, found⟩ := Option.isSome_iff_exists.mp (stored id chosen)
      change ((calling (.findTemplate id) (templateMissing "loading template")).bind _).run _ _ = _
      rw [calling_run]
      simp only [Memory.perform, found]
      exact inserted

end Events

private theorem EventDraft.fromStored_iff {draft : EventDraft} {memory : Memory} :
    draft.FromStored memory ↔ ∀ id, draft.templateId = some id →
      (memory.findTemplate id).isSome := by
  refine forall_congr' fun id => imp_congr_right fun _ => ?_
  rw [Memory.findTemplate, List.find?_isSome]
  simp only [beq_iff_eq]

theorem EventDraft.ClassedAs.holds {draft : EventDraft} {c : Classification}
    (classed : draft.ClassedAs c) (memory : Memory) (stamp : Stamp) (createdBy : Uuid)
    (stored : ∀ id, draft.templateId = some id → (memory.findTemplate id).isSome) :
    ∃ event : Event, event.Holds draft createdBy stamp ∧
      memory.perform stamp (.createEvent (Events.written createdBy draft c)) =
        (.ok event, { memory with events := event :: memory.events }) := by
  obtain ⟨event, performed, same⟩ :=
    Events.createEvent_stored (Events.written createdBy draft c) stored
  refine ⟨event, ?_, performed⟩
  subst same
  exact
    { id := rfl, title := rfl, kind := classed.kind.symm, status := classed.status.symm,
      severity := classed.severity, description := rfl, startedAt := rfl, resolvedAt := rfl,
      scheduledStart := rfl, scheduledEnd := rfl, notify := rfl, templateId := rfl,
      createdBy := rfl, increasing := Store.idSet_increasing _,
      services := fun id => Store.mem_idSet.trans List.mem_eraseDups, createdAt := rfl,
      updatedAt := rfl }

theorem Events.create_creation (notices : Bool) (memory : Memory) (moment : Moment)
    (createdBy : Uuid) (draft : EventDraft) :
    Creation memory moment.stamp createdBy draft
      ((create notices createdBy draft).run moment.interpreter memory) := by
  have classes := draft.classifies
  cases classified : classify draft.kind draft.status draft.severity with
  | error e =>
      rw [classified] at classes
      rw [create_refused notices createdBy classified]
      cases classes with
      | unknownKind unknown => exact .unknownKind unknown
      | illegalStatus known illegal => exact .illegalStatus known illegal
      | ungraded legal ungraded => exact .ungraded legal.known legal ungraded
  | ok c =>
      rw [classified] at classes
      cases classes with
      | legal classed =>
          have legal := classed.legalStatus
          by_cases stored : draft.FromStored memory
          · have found := EventDraft.fromStored_iff.mp stored
            obtain ⟨event, holds, performed⟩ :=
              classed.holds memory moment.stamp createdBy found
            rw [create_stored notices createdBy classified found performed]
            exact .created legal.known legal classed.graded stored holds
          · have missing := stored
            rw [EventDraft.fromStored_iff] at missing
            push Not at missing
            obtain ⟨id, chosen, absent⟩ := missing
            rw [create_unknownTemplate notices createdBy classified chosen (by simpa using absent)]
            exact .unknownTemplate legal.known legal classed.graded stored

/-- Whatever is stored and whatever a request says: it succeeds exactly when its kind is known, its
status is legal for the kind, an incident has a known severity and the template that is referred to
is stored; else the first of these that fails is reported and nothing changes. On success one event
is added, in front of all others, and nothing else. -/
theorem legal_drafts_accepted (notices : Bool) (memory : Memory) (moment : Moment)
    (createdBy : Uuid) (draft : EventDraft) :
    ((∃ event, ((Events.create notices createdBy draft).run moment.interpreter memory).1 =
      .value (.ok event)) ↔
        draft.KnownKind ∧ draft.LegalStatus ∧ draft.Graded ∧ draft.FromStored memory) ∧
      Creation memory moment.stamp createdBy draft
        ((Events.create notices createdBy draft).run moment.interpreter memory) ∧
      ∀ event after,
        (Events.create notices createdBy draft).run moment.interpreter memory =
          (.value (.ok event), after) →
        after.matchingEvents ⟨none, none, none, none⟩ =
          event :: memory.matchingEvents ⟨none, none, none, none⟩ ∧
          ∀ id, after.listUpdates id = memory.listUpdates id := by
  have creation := Events.create_creation notices memory moment createdBy draft
  refine ⟨⟨?_, ?_⟩, creation, ?_⟩
  · rintro ⟨event, succeeded⟩
    generalize (Events.create notices createdBy draft).run moment.interpreter memory =
      outcome at creation succeeded
    cases creation with
    | created known legal graded stored => exact ⟨known, legal, graded, stored⟩
    | _ => cases succeeded
  · rintro ⟨known, legal, graded, stored⟩
    generalize (Events.create notices createdBy draft).run moment.interpreter memory =
      outcome at creation ⊢
    cases creation with
    | unknownKind unknown => exact absurd known unknown
    | illegalStatus _ illegal => exact absurd legal illegal
    | ungraded _ _ ungraded => exact absurd graded ungraded
    | unknownTemplate _ _ _ unknown => exact absurd stored unknown
    | created => exact ⟨_, rfl⟩
  · intro event after succeeded
    rw [succeeded] at creation
    cases creation
    exact ⟨rfl, fun _ => rfl⟩

end StatusPage
