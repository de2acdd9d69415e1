import StatusPage.Proofs.EventHistory
import StatusPage.Proofs.EventListing
import StatusPage.Proofs.Names
import StatusPage.Proofs.StoreIntegrity

/-!
The history of a template. An edit supplies some of the three parts of a template, and a template is
at any time what it was created as, with each part as the last successful edit that supplied it has
left it. An edit that fails leaves no trace. An event refers to the template that it was made from
until this template is deleted; a deletion changes nothing else of any event.
-/

set_option autoImplicit false

namespace StatusPage

open Store (Memory Stamp)
open Time (Instant)

/-! ### Acts on templates -/

inductive TemplateAct where
  | created (template : EventTemplate)
  | edited (id : Uuid) (change : TemplateChange) (now : Instant)
  | deleted (id : Uuid)
  deriving DecidableEq

def TemplateAct.id : TemplateAct → Uuid
  | .created template => template.id
  | .edited id _ _ => id
  | .deleted id => id

def TemplateAct.editOf (id : Uuid) : TemplateAct → Option (TemplateChange × Instant)
  | .edited other change now => if other = id then some (change, now) else none
  | _ => none

private theorem TemplateAct.editOf_of_other {act : TemplateAct} {id : Uuid}
    (other : act.id ≠ id) : act.editOf id = none := by
  cases act with
  | edited other' change now => exact if_neg other
  | _ => rfl

/-- A template as its edits, the oldest first, have left it. -/
def EventTemplate.after (created : EventTemplate) (edits : List (TemplateChange × Instant)) :
    EventTemplate :=
  { created with
    kind := (edits.filterMap fun edit => edit.1.kind).getLast?.getD created.kind
    titleSource :=
      (edits.filterMap fun edit => edit.1.titleSource).getLast?.getD created.titleSource
    bodySource := (edits.filterMap fun edit => edit.1.bodySource).getLast?.getD created.bodySource
    updatedAt := (edits.getLast?.map Prod.snd).getD created.updatedAt }

theorem EventTemplate.after_nil (created : EventTemplate) : created.after [] = created := rfl

private theorem getLast?_filterMap_concat {α β : Type} (f : α → Option β) (items : List α)
    (last : α) (first : β) :
    ((items ++ [last]).filterMap f).getLast?.getD first =
      (f last).getD ((items.filterMap f).getLast?.getD first) := by
  rw [filterMap_concat]
  cases f last with
  | none => rw [Option.toList_none, List.append_nil, Option.getD_none]
  | some value => rw [Option.toList_some, List.getLast?_concat, Option.getD_some, Option.getD_some]

theorem EventTemplate.after_concat (created : EventTemplate)
    (edits : List (TemplateChange × Instant)) (change : TemplateChange) (now : Instant) :
    created.after (edits ++ [(change, now)]) = Memory.edited (created.after edits) change now := by
  simp only [after, Memory.edited, getLast?_filterMap_concat, List.getLast?_concat, Option.map_some,
    Option.getD_some]

/-- An event refers to the template that it was made from, unless this has been deleted. -/
def remaining (acts : List TemplateAct) (templateId : Option Uuid) : Option Uuid :=
  templateId.filter fun id => .deleted id ∉ acts

private theorem remaining_eq_self {acts : List TemplateAct} {templateId : Option Uuid}
    (present : ∀ id, templateId = some id → .deleted id ∉ acts) :
    remaining acts templateId = templateId := by
  cases templateId with
  | none => rfl
  | some id => simp [remaining, Option.filter, present id rfl]

@[simp] theorem remaining_nil (templateId : Option Uuid) :
    remaining [] templateId = templateId := by
  cases templateId <;> rfl

private theorem remaining_deleted (id : Uuid) (templateId : Option Uuid) :
    remaining [.deleted id] templateId = if templateId = some id then none else templateId := by
  cases templateId with
  | none => rfl
  | some other => by_cases same : other = id <;> simp [remaining, Option.filter, same]

private theorem remaining_append (acts more : List TemplateAct) (templateId : Option Uuid) :
    remaining (acts ++ more) templateId = remaining more (remaining acts templateId) := by
  cases templateId with
  | none => rfl
  | some id =>
      by_cases gone : .deleted id ∈ acts
      · simp [remaining, Option.filter, gone]
      · simp [remaining, Option.filter, gone]

def Event.unreferred (event : Event) : Event := { event with templateId := none }

def Exchange.templateAct : Exchange → Option TemplateAct
  | ⟨_, .store (.createTemplate _), .ok template⟩ => some (.created template)
  | ⟨stamp, .store (.updateTemplate id change), .ok _⟩ => some (.edited id change stamp.now)
  | ⟨_, .store (.deleteTemplate id), .ok _⟩ => some (.deleted id)
  | _ => none

inductive TemplateEffect (before : Memory) (exchange : Exchange) (after : Memory) : Prop
  | kept (templates : after.templates = before.templates) (act : exchange.templateAct = none)
  | created (template : EventTemplate)
      (templates : after.templates = before.templates ++ [template])
      (act : exchange.templateAct = some (.created template))
      (issued : exchange.issued = some template.id)
  | edited (template : EventTemplate) (change : TemplateChange) (now : Instant)
      (present : template ∈ before.templates)
      (templates : after.templates = before.templates.map fun t =>
        if t.id = template.id then Memory.edited template change now else t)
      (act : exchange.templateAct = some (.edited template.id change now))
  | deleted (template : EventTemplate) (present : template ∈ before.templates)
      (templates : after.templates = before.templates.filter fun t => t.id != template.id)
      (act : exchange.templateAct = some (.deleted template.id))

private theorem templateEffect {exchange : Exchange} {memory : Memory}
    (honest : exchange.Honest memory) :
    TemplateEffect memory exchange (exchange.effect memory) := by
  obtain ⟨stamp, op, answer⟩ := exchange
  cases op with
  | store call =>
      have frame := memory.perform_unchanged stamp call
      simp only [Exchange.Honest] at honest
      subst honest
      cases call with
      | createTemplate new =>
          simp only [Exchange.effect, Memory.perform, Memory.createTemplate]
          split
          · exact .kept rfl rfl
          · exact .created _ rfl rfl rfl
      | updateTemplate id change =>
          simp only [Exchange.effect, Memory.perform, Memory.updateTemplate]
          cases found : memory.findTemplate id with
          | none => exact .kept rfl rfl
          | some template =>
              obtain ⟨present, rfl⟩ := Memory.findTemplate_spec found
              exact .edited template change stamp.now present rfl rfl
      | deleteTemplate id =>
          simp only [Exchange.effect, Memory.perform, Memory.deleteTemplate]
          cases found : memory.findTemplate id with
          | none => exact .kept rfl rfl
          | some template =>
              obtain ⟨present, rfl⟩ := Memory.findTemplate_spec found
              exact .deleted template present rfl rfl
      | _ => exact .kept (frame.templates (by simp [Store.Call.writes])) rfl
  | _ => exact .kept rfl rfl

inductive Referring (before : Memory) (exchange : Exchange) (event : Event) : Prop
  | created (created : exchange.createdEvent = some event) (act : exchange.templateAct = none)
      (stored : ∀ id, event.templateId = some id → ∃ template ∈ before.templates,
        template.id = id)
  | kept (old : Event) (present : old ∈ before.events) (same : old.id = event.id)
      (remains : event.templateId = remaining exchange.templateAct.toList old.templateId)

private theorem remaining_of_keeps {exchange : Exchange}
    (keeps : ∀ id, exchange.op ≠ .store (.deleteTemplate id))
    (templateId : Option Uuid) : remaining exchange.templateAct.toList templateId = templateId := by
  refine remaining_eq_self fun id _ member => ?_
  obtain ⟨stamp, op, answer⟩ := exchange
  have act := Option.mem_toList.mp member
  unfold Exchange.templateAct at act
  split at act
  · cases act
  · cases act
  · rename_i same
    cases same
    exact keeps _ rfl
  · cases act

section

variable {memory : Memory} {stamp : Stamp} {event : Event}

theorem Store.Memory.createEvent_events {new : NewEvent}
    (member : event ∈ (memory.perform stamp (.createEvent new)).2.events) :
    event ∈ memory.events ∨ (memory.perform stamp (.createEvent new)).1 = .ok event ∧
      ∀ id, event.templateId = some id →
        ∃ template ∈ memory.templates, template.id = id := by
  rw [perform, createEvent] at member ⊢
  by_cases unknown : (new.templateId.any fun id => (memory.findTemplate id).isNone) = true
  · rw [if_pos unknown] at member
    exact .inl member
  · rw [if_neg unknown] at member ⊢
    rcases List.mem_cons.mp member with rfl | old
    · refine .inr ⟨rfl, fun id chosen => ?_⟩
      cases found : memory.findTemplate id with
      | none =>
          have given : new.templateId = some id := chosen
          simp [given, found] at unknown
      | some template => exact ⟨template, findTemplate_spec found⟩
    · exact .inl old

theorem Store.Memory.recordUpdate_events {eventId : Uuid} {new : NewUpdate}
    (member : event ∈ (memory.perform stamp (.recordUpdate eventId new)).2.events) :
    ∃ old ∈ memory.events, old.id = event.id ∧ event.templateId = old.templateId := by
  rw [perform, recordUpdate] at member
  cases found : memory.findEvent eventId with
  | none =>
      rw [found] at member
      exact ⟨event, member, rfl, rfl⟩
  | some first =>
      rw [found] at member
      obtain ⟨old, present, rfl⟩ := List.mem_map.mp member
      obtain ⟨there, mine⟩ := findEvent_spec found
      by_cases same : old.id = eventId
      · rw [if_pos same]
        exact ⟨first, there, rfl, rfl⟩
      · rw [if_neg same]
        exact ⟨old, present, rfl, rfl⟩

theorem Store.Memory.deleteEvent_events {id : Uuid}
    (member : event ∈ (memory.perform stamp (.deleteEvent id)).2.events) :
    event ∈ memory.events := by
  rw [perform, deleteEvent] at member
  split at member
  · exact member
  · exact List.mem_of_mem_filter member

end

private theorem referring {exchange : Exchange} {memory : Memory} (honest : exchange.Honest memory)
    {event : Event} (member : event ∈ (exchange.effect memory).events) :
    Referring memory exchange event := by
  obtain ⟨stamp, op, answer⟩ := exchange
  have still (keeps : ∀ id, op ≠ .store (.deleteTemplate id)) {old : Event}
      (present : old ∈ memory.events) (same : old.id = event.id)
      (templateId : event.templateId = old.templateId) :
      Referring memory ⟨stamp, op, answer⟩ event :=
    .kept old present same (templateId.trans (remaining_of_keeps keeps _).symm)
  cases op with
  | store call =>
      have frame := memory.perform_unchanged stamp call
      simp only [Exchange.Honest] at honest
      subst honest
      cases call with
      | createEvent new =>
          rcases Memory.createEvent_events member with old | ⟨made, stored⟩
          · exact still (by simp) old rfl rfl
          · refine .created ?_ rfl stored
            rw [made]
            rfl
      | recordUpdate eventId new =>
          obtain ⟨old, present, same, templateId⟩ := Memory.recordUpdate_events member
          exact still (by simp) present same templateId
      | deleteEvent id => exact still (by simp) (Memory.deleteEvent_events member) rfl rfl
      | deleteTemplate id =>
          by_cases absent : (memory.findTemplate id).isNone = true
          · simp only [Exchange.effect, Memory.perform, Memory.deleteTemplate,
              if_pos absent] at member ⊢
            exact .kept event member rfl (remaining_nil event.templateId).symm
          · simp only [Exchange.effect, Memory.perform, Memory.deleteTemplate,
              if_neg absent] at member ⊢
            obtain ⟨old, present, rfl⟩ := List.mem_map.mp member
            refine .kept old present (Memory.detached_id id old).symm ?_
            change _ = remaining [.deleted id] old.templateId
            rw [remaining_deleted, apply_ite Event.templateId]
      | _ =>
          rw [Exchange.effect, frame.events (by simp [Store.Call.writes])] at member
          exact still (by simp) member rfl rfl
  | _ => exact still (by simp) member rfl rfl

/-! ### What the store and the exchanges have to do with each other -/

/-- A template that stands after some exchanges: it is what these have made
of the one that was created. -/
structure EventTemplate.Stands (exchanges : List Exchange) (template : EventTemplate) : Prop where
  issued : template.id ∈ exchanges.filterMap Exchange.issued
  undeleted : .deleted template.id ∉ exchanges.filterMap Exchange.templateAct
  folded : ∃ created, .created created ∈ exchanges.filterMap Exchange.templateAct ∧
    created.id = template.id ∧
    template = created.after ((exchanges.filterMap Exchange.templateAct).filterMap
      (TemplateAct.editOf template.id))

structure TemplatesKept (exchanges : List Exchange) (memory : Memory) : Prop where
  acted : ∀ act ∈ exchanges.filterMap Exchange.templateAct,
    act.id ∈ exchanges.filterMap Exchange.issued
  stand : ∀ template ∈ memory.templates, template.Stands exchanges
  refer : ∀ event ∈ memory.events, ∃ created ∈ exchanges.filterMap Exchange.createdEvent,
    created.id = event.id ∧
    event.templateId = remaining (exchanges.filterMap Exchange.templateAct) created.templateId

namespace EventTemplate.Stands

variable {exchanges : List Exchange} {template : EventTemplate} {last : Exchange}

theorem carried (stands : template.Stands exchanges)
    (other : ∀ act, last.templateAct = some act → act.id ≠ template.id) :
    template.Stands (exchanges ++ [last]) where
  issued := by
    rw [filterMap_concat]
    exact List.mem_append_left _ stands.issued
  undeleted := by
    rw [filterMap_concat, List.mem_append, Option.mem_toList]
    rintro (earlier | now)
    · exact stands.undeleted earlier
    · exact other _ now rfl
  folded := by
    obtain ⟨created, made, same, folded⟩ := stands.folded
    have unedited : last.templateAct.toList.filterMap (TemplateAct.editOf template.id) = [] := by
      rw [List.filterMap_eq_nil_iff]
      exact fun act now => TemplateAct.editOf_of_other (other act (Option.mem_toList.mp now))
    rw [filterMap_concat]
    refine ⟨created, List.mem_append_left _ made, same, ?_⟩
    rw [List.filterMap_append, unedited, List.append_nil]
    exact folded

theorem created
    (acted : ∀ act ∈ exchanges.filterMap Exchange.templateAct,
      act.id ∈ exchanges.filterMap Exchange.issued)
    (act : last.templateAct = some (.created template)) (issued : last.issued = some template.id)
    (fresh : template.id ∉ exchanges.filterMap Exchange.issued) :
    template.Stands (exchanges ++ [last]) where
  issued := by
    rw [filterMap_concat, issued]
    exact List.mem_append_right _ List.mem_cons_self
  undeleted := by
    rw [filterMap_concat, act, List.mem_append]
    rintro (earlier | now)
    · exact fresh (acted _ earlier)
    · cases List.mem_singleton.mp now
  folded := by
    have untouched :
        (exchanges.filterMap Exchange.templateAct).filterMap (TemplateAct.editOf template.id) =
          [] := by
      rw [List.filterMap_eq_nil_iff]
      intro earlier member
      refine TemplateAct.editOf_of_other ?_
      rintro same
      exact fresh (same ▸ acted earlier member)
    rw [filterMap_concat, act]
    refine ⟨template, List.mem_append_right _ List.mem_cons_self, rfl, ?_⟩
    rw [List.filterMap_append, untouched]
    exact (after_nil template).symm

theorem edited (stands : template.Stands exchanges) {change : TemplateChange} {now : Instant}
    (act : last.templateAct = some (.edited template.id change now)) :
    (Memory.edited template change now).Stands (exchanges ++ [last]) where
  issued := by
    rw [filterMap_concat]
    exact List.mem_append_left _ stands.issued
  undeleted := by
    rw [filterMap_concat, act, List.mem_append]
    rintro (earlier | now)
    · exact stands.undeleted earlier
    · cases List.mem_singleton.mp now
  folded := by
    obtain ⟨created, made, same, folded⟩ := stands.folded
    have mine : [TemplateAct.edited template.id change now].filterMap (TemplateAct.editOf
        template.id) = [(change, now)] := List.filterMap_cons_some (if_pos rfl)
    rw [filterMap_concat, act, Option.toList_some]
    refine ⟨created, List.mem_append_left _ made, same, ?_⟩
    change _ = created.after (List.filterMap (TemplateAct.editOf template.id) _)
    rw [List.filterMap_append, mine, after_concat, ← folded]

end EventTemplate.Stands

namespace TemplatesKept

variable {exchanges : List Exchange} {before : Memory} {last : Exchange}

theorem empty : TemplatesKept [] .empty where
  acted := by simp
  stand := by simp [Memory.empty]
  refer := by simp [Memory.empty]

private theorem concat_acted (kept : TemplatesKept exchanges before) (honest : last.Honest before) :
    ∀ act ∈ (exchanges ++ [last]).filterMap Exchange.templateAct,
      act.id ∈ (exchanges ++ [last]).filterMap Exchange.issued := by
  intro act member
  rw [filterMap_concat, List.mem_append] at member ⊢
  rcases member with earlier | now
  · exact .inl (kept.acted act earlier)
  · have mine := Option.mem_toList.mp now
    cases templateEffect honest with
    | kept _ none => cases none.symm.trans mine
    | created template _ made issued =>
        cases made.symm.trans mine
        exact .inr (Option.mem_toList.mpr issued)
    | edited template change time present _ made =>
        cases made.symm.trans mine
        exact .inl (kept.stand template present).issued
    | deleted template present _ made =>
        cases made.symm.trans mine
        exact .inl (kept.stand template present).issued

private theorem concat_stand (kept : TemplatesKept exchanges before) (honest : last.Honest before)
    (fresh : ((exchanges ++ [last]).filterMap Exchange.issued).Nodup) :
    ∀ template ∈ (last.effect before).templates, template.Stands (exchanges ++ [last]) := by
  intro template member
  cases templateEffect honest with
  | kept templates none =>
      rw [templates] at member
      refine (kept.stand template member).carried ?_
      rw [none]
      nofun
  | created new templates made issued =>
      have unissued : new.id ∉ exchanges.filterMap Exchange.issued :=
        not_mem_filterMap_init fresh issued
      rw [templates] at member
      rcases List.mem_append.mp member with old | added
      · refine (kept.stand template old).carried ?_
        rintro act now same
        cases made.symm.trans now
        have taken : new.id = template.id := same
        exact unissued (taken ▸ (kept.stand template old).issued)
      · cases List.mem_singleton.mp added
        exact .created kept.acted made issued unissued
  | edited first change now present templates made =>
      rw [templates] at member
      obtain ⟨old, earlier, rfl⟩ := List.mem_map.mp member
      by_cases same : old.id = first.id
      · rw [if_pos same]
        exact (kept.stand first present).edited made
      · rw [if_neg same]
        refine (kept.stand old earlier).carried ?_
        rintro act mine equal
        cases made.symm.trans mine
        exact same equal.symm
  | deleted first present templates made =>
      rw [templates, List.mem_filter, bne_iff_ne] at member
      refine (kept.stand template member.1).carried ?_
      rintro act mine equal
      cases made.symm.trans mine
      exact member.2 equal.symm

/-- An event that is created refers to a template that stands, and a later act
takes it away if it deletes it. -/
theorem concat_refer (kept : TemplatesKept exchanges before) (honest : last.Honest before) :
    ∀ event ∈ (last.effect before).events,
      ∃ created ∈ (exchanges ++ [last]).filterMap Exchange.createdEvent,
      created.id = event.id ∧
        event.templateId =
          remaining ((exchanges ++ [last]).filterMap Exchange.templateAct) created.templateId := by
  intro event member
  rw [filterMap_concat, filterMap_concat]
  cases referring honest member with
  | created made act stored =>
      refine ⟨event, List.mem_append_right _ (Option.mem_toList.mpr made), rfl, ?_⟩
      rw [act, Option.toList_none, List.append_nil, remaining_eq_self]
      intro id chosen
      obtain ⟨template, present, rfl⟩ := stored id chosen
      exact (kept.stand template present).undeleted
  | kept old present same remains =>
      obtain ⟨created, made, owner, refers⟩ := kept.refer old present
      refine ⟨created, List.mem_append_left _ made, owner.trans same, ?_⟩
      rw [remaining_append, ← refers, remains]

theorem replay {exchanges : List Exchange} (honest : HonestFrom .empty exchanges)
    (distinct : (exchanges.filterMap Exchange.issued).Nodup) :
    TemplatesKept exchanges (StatusPage.replay .empty exchanges) := by
  induction exchanges using List.reverseRecOn with
  | nil => exact .empty
  | append_singleton exchanges last ih =>
      obtain ⟨earlier, fits⟩ := honest.init
      have kept := ih earlier (nodup_filterMap_init distinct)
      rw [replay_append]
      exact ⟨kept.concat_acted fits, kept.concat_stand fits distinct, kept.concat_refer fits⟩

end TemplatesKept

/-! ### Runs of the service -/

def TemplateEdit.change (edit : TemplateEdit) : TemplateChange :=
  ⟨edit.kind.bind Named.ofName?, edit.titleSource, edit.bodySource⟩

/-- What a request has done to a template, if this is the turn in which it succeeded. -/
def Entry.templateAct {notices : Bool} : Entry (eventService notices) → Option TemplateAct
  | ⟨_, .createTemplate _, ⟨_, .store (.createTemplate _), .ok template⟩⟩ =>
    some (.created template)
  | ⟨_, .updateTemplate id edit, ⟨stamp, .store (.updateTemplate _ _), .ok _⟩⟩ =>
      some (.edited id edit.change stamp.now)
  | ⟨_, .deleteTemplate id, ⟨_, .store (.deleteTemplate _), .ok _⟩⟩ => some (.deleted id)
  | _ => none

structure EventTemplate.Holds (template : EventTemplate) (draft : TemplateDraft)
    (stamp : Stamp) : Prop where
  id : template.id = stamp.id
  slug : template.slug = draft.slug
  kind : template.kind.name = draft.kind
  titleSource : template.titleSource = draft.titleSource
  bodySource : template.bodySource = draft.bodySource
  createdAt : template.createdAt = stamp.now
  updatedAt : template.updatedAt = stamp.now

private theorem readKind_eq_ok {text : String} {kind : EventKind}
    (known : readKind text = .ok kind) : kind.name = text := by
  unfold readKind at known
  cases named : (Named.ofName? text : Option EventKind) with
  | none =>
      rw [named] at known
      cases known
  | some found =>
      rw [named] at known
      cases known
      exact Named.name_of_ofName? named

private theorem TemplateEdit.change_kind {edit : TemplateEdit} {kind : Option EventKind}
    (known : Events.readFilter .invalidKind edit.kind = .ok kind) :
    edit.change.kind = kind ∧ edit.kind = kind.map EventKind.name := by
  rcases Events.readFilter_cases EventKind.mem_all .invalidKind edit.kind with
    ⟨read, given, known'⟩ | ⟨text, -, -, refused⟩
  · cases known.symm.trans known'
    refine ⟨?_, given⟩
    rw [change, given]
    cases kind with
    | none => rfl
    | some kind => exact Named.ofName?_name kind
  · cases known.symm.trans refused

section

variable {notices : Bool} {moves : List (Move (eventService notices))}
  {entry : Entry (eventService notices)}

/-- A program that acts on templates does so as its request says. -/
theorem templateAct_eq (asked : EventRequest.MayAsk entry.request entry.exchange.op) :
    entry.exchange.templateAct = entry.templateAct := by
  obtain ⟨n, request, stamp, op, answer⟩ := entry
  cases asked with
  | createTemplate known title body => cases answer <;> rfl
  | deleteTemplate => cases answer <;> rfl
  | @updateTemplate id edit kind known title body =>
      cases (TemplateEdit.change_kind known).1
      cases answer <;> rfl
  | _ => rfl

private theorem created_holds {memory : Memory} {template : EventTemplate}
    (asked : EventRequest.MayAsk entry.request entry.exchange.op)
    (honest : entry.exchange.Honest memory)
    (made : entry.exchange.templateAct = some (.created template)) :
    ∃ draft, entry.request = .createTemplate draft ∧
      template.Holds draft entry.exchange.stamp := by
  obtain ⟨n, request, stamp, op, answer⟩ := entry
  cases asked with
  | @createTemplate draft kind known title body =>
      simp only [Exchange.Honest, Memory.perform, Memory.createTemplate] at honest
      split at honest
      · cases honest
        cases made
      · cases honest
        cases made
        exact ⟨draft, rfl, rfl, rfl, readKind_eq_ok known, rfl, rfl, rfl, rfl⟩
  | updateTemplate | deleteTemplate => cases answer <;> cases made
  | _ => cases made

private theorem created_refers {memory : Memory} {created : Event}
    (asked : EventRequest.MayAsk entry.request entry.exchange.op)
    (honest : entry.exchange.Honest memory) (made : entry.exchange.createdEvent = some created) :
    ∃ createdBy draft, entry.request = .create createdBy draft ∧
      created.templateId = draft.templateId := by
  obtain ⟨n, request, stamp, op, answer⟩ := entry
  cases asked with
  | @createEvent createdBy draft c legal =>
      simp only [Exchange.Honest, Memory.perform, Memory.createEvent] at honest
      split at honest
      · cases honest
        cases made
      · cases honest
        cases made
        exact ⟨createdBy, draft, rfl, rfl⟩
  | _ => cases made

private theorem updateTemplate_path {id : Uuid} {edit : TemplateEdit} {exchanges : List Exchange}
    {result : Except EventError EventTemplate}
    (path : Program.Path (Events.updateTemplate id edit) exchanges (.done result)) :
    (exchanges = [] ∧ ∃ e, result = .error e) ∨
      ∃ (stamp : Stamp) (change : TemplateChange) (answer : Except StoreError EventTemplate)
        (describe : StoreError → EventError),
        exchanges = [⟨stamp, .store (.updateTemplate id change), answer⟩] ∧
        result = answer.mapError describe := by
  unfold Events.updateTemplate at path
  split at path
  · obtain ⟨rfl, same⟩ := path.of_done
    cases same
    exact .inl ⟨rfl, _, rfl⟩
  · obtain ⟨stamp, answer, later, rfl, rest⟩ := Program.Path.ended path
    obtain ⟨rfl, same⟩ := rest.of_done
    cases same
    exact .inr ⟨stamp, _, answer, _, rfl, rfl⟩

end

/-- In a run, templates follow from what requests have done, and so do the
references of events to them. -/
structure Run.TemplatesFollow {notices : Bool} (run : Run (eventService notices)) : Prop where
  /-- A template is what it was created as, with each part as the last successful edit that supplied
  it has left it. -/
  templates : ∀ template ∈ run.memory.templates, ∃ entry ∈ run.log, ∃ draft created,
    entry.request = .createTemplate draft ∧ entry.templateAct = some (.created created) ∧
      created.Holds draft entry.exchange.stamp ∧ created.id = template.id ∧
        template = created.after ((run.log.filterMap Entry.templateAct).filterMap
          (TemplateAct.editOf template.id))
  /-- An edit that succeeds counts, and a kind that it supplies is known. -/
  succeeded : ∀ n id edit template,
    run.tasks[n]? = some ⟨.updateTemplate id edit, .done (.ok template)⟩ →
    edit.kind = edit.change.kind.map EventKind.name ∧ ∃ entry ∈ run.log, entry.task = n ∧
      entry.templateAct = some (.edited id edit.change entry.exchange.stamp.now)
  /-- An edit that fails changes nothing in any of its turns. -/
  failed : ∀ n id edit e, run.tasks[n]? = some ⟨.updateTemplate id edit, .done (.error e)⟩ →
    ∀ before entry later, run.log = before ++ entry :: later → entry.task = n →
      replay .empty ((before ++ [entry]).map Entry.exchange) =
        replay .empty (before.map Entry.exchange)
  /-- An event refers to the template that its request named, unless this has been deleted. -/
  references : ∀ event ∈ run.memory.events, ∃ entry ∈ run.log, ∃ createdBy draft created,
    entry.request = .create createdBy draft ∧ entry.exchange.createdEvent = some created ∧
    created.id = event.id ∧
      event.templateId = remaining (run.log.filterMap Entry.templateAct) draft.templateId
  /-- A deletion changes nothing else of any event. -/
  deletions : ∀ before entry later id, run.log = before ++ entry :: later →
    entry.request = .deleteTemplate id →
    (replay .empty ((before ++ [entry]).map Entry.exchange)).events.map Event.unreferred =
      (replay .empty (before.map Entry.exchange)).events.map Event.unreferred

private theorem Exchange.effect_of_error {memory : Memory} {stamp : Stamp} {call : Store.Call}
    {e : StoreError} (honest : Exchange.Honest ⟨stamp, .store call, .error e⟩ memory) :
    Exchange.effect ⟨stamp, .store call, .error e⟩ memory = memory :=
  memory.perform_of_error stamp honest.symm

private theorem Store.Memory.deleteTemplate_unreferred (memory : Memory) (stamp : Stamp)
    (id : Uuid) :
    (memory.perform stamp (.deleteTemplate id)).2.events.map Event.unreferred =
      memory.events.map Event.unreferred := by
  simp only [perform, deleteTemplate]
  split
  · rfl
  · simp only [List.map_map]
    refine List.map_congr_left fun event _ => ?_
    by_cases attached : event.templateId = some id
    · simp only [Function.comp_apply, if_pos attached, Event.unreferred]
    · simp only [Function.comp_apply, if_neg attached]

section

variable {notices : Bool} {moves : List (Move (eventService notices))} {n : Nat} {id : Uuid}
  {edit : TemplateEdit}

private theorem edit_succeeded {template : EventTemplate}
    (ended : (Run.after .empty moves).tasks[n]? =
      some ⟨.updateTemplate id edit, .done (.ok template)⟩) :
    edit.kind = edit.change.kind.map EventKind.name ∧ ∃ entry ∈ (Run.after .empty moves).log,
      entry.task = n ∧
      entry.templateAct = some (.edited id edit.change entry.exchange.stamp.now) := by
  rcases updateTemplate_path (Run.view_path .empty moves n _ ended) with
    ⟨-, e, failed⟩ | ⟨stamp, change, answer, describe, view, told⟩
  · cases failed
  · have logged := Run.logged_of_view ended (view ▸ List.mem_cons_self)
    cases answer with
    | error e => cases told
    | ok updated =>
        refine ⟨?_, _, logged, rfl, rfl⟩
        cases Run.log_asked (EventRequest.program_asks notices) .empty moves _ logged with
        | updateTemplate known title body =>
            obtain ⟨same, given⟩ := TemplateEdit.change_kind known
            rw [given, same]

private theorem edit_failed {e : EventError}
    (ended : (Run.after .empty moves).tasks[n]? =
      some ⟨.updateTemplate id edit, .done (.error e)⟩)
    {before later : List (Entry (eventService notices))} {entry : Entry (eventService notices)}
    (split : (Run.after .empty moves).log = before ++ entry :: later) (mine : entry.task = n) :
    entry.exchange.effect (replay .empty (before.map Entry.exchange)) =
      replay .empty (before.map Entry.exchange) := by
  have member : entry.exchange ∈ (Run.after .empty moves).view n :=
    Run.mem_view.mpr ⟨entry, split ▸ List.mem_append_right _ List.mem_cons_self, mine, rfl⟩
  have honest := Run.entry_honest split
  rcases updateTemplate_path (Run.view_path .empty moves n _ ended) with
    ⟨view, -⟩ | ⟨stamp, change, answer, describe, view, told⟩
  · rw [view] at member
    cases member
  · rw [view, List.mem_singleton] at member
    rw [member] at honest ⊢
    cases answer with
    | ok template => cases told
    | error e' => exact Exchange.effect_of_error honest

end

theorem templates_eq_history {notices : Bool} (moves : List (Move (eventService notices)))
    (distinct : ((Run.after .empty moves).exchanges.filterMap Exchange.issued).Nodup) :
    (Run.after .empty moves).TemplatesFollow := by
  have asked : ∀ entry ∈ (Run.after .empty moves).log,
      EventRequest.MayAsk entry.request entry.exchange.op :=
    Run.log_asked (EventRequest.program_asks notices) .empty moves
  obtain ⟨reached, honest⟩ := Run.replay_exchanges .empty moves
  have kept := TemplatesKept.replay honest distinct
  have acts : (Run.after .empty moves).exchanges.filterMap Exchange.templateAct =
      (Run.after .empty moves).log.filterMap Entry.templateAct := by
    rw [Run.exchanges, List.filterMap_map]
    exact List.filterMap_congr fun entry logged => templateAct_eq (asked entry logged)
  have grown (before : List (Entry (eventService notices))) (entry : Entry (eventService notices)) :
      replay .empty ((before ++ [entry]).map Entry.exchange) =
        entry.exchange.effect (replay .empty (before.map Entry.exchange)) := by
    rw [List.map_append, replay_append]
    rfl
  rw [reached] at kept
  constructor
  · intro template member
    obtain ⟨created, made, same, folded⟩ := (kept.stand template member).folded
    obtain ⟨exchange, happened, act⟩ := List.mem_filterMap.mp made
    obtain ⟨entry, logged, rfl⟩ := List.mem_map.mp happened
    obtain ⟨before, later, split⟩ := List.append_of_mem logged
    obtain ⟨draft, request, holds⟩ :=
      created_holds (asked entry logged) (Run.entry_honest split) act
    rw [acts] at folded
    exact ⟨entry, logged, draft, created, request,
      (templateAct_eq (asked entry logged)).symm.trans act, holds, same,
      folded⟩
  · exact fun n id edit template => edit_succeeded
  · intro n id edit e ended before entry later split mine
    rw [grown]
    exact edit_failed ended split mine
  · intro event member
    obtain ⟨created, made, same, refers⟩ := kept.refer event member
    obtain ⟨exchange, happened, made⟩ := List.mem_filterMap.mp made
    obtain ⟨entry, logged, rfl⟩ := List.mem_map.mp happened
    obtain ⟨before, later, split⟩ := List.append_of_mem logged
    obtain ⟨createdBy, draft, request, chosen⟩ :=
      created_refers (asked entry logged) (Run.entry_honest split) made
    rw [acts, chosen] at refers
    exact ⟨entry, logged, createdBy, draft, created, request, made, same, refers⟩
  · intro before entry later id split request
    rw [grown]
    have mayAsk := asked entry (split ▸ List.mem_append_right _ List.mem_cons_self)
    obtain ⟨m, request', stamp, op, answer⟩ := entry
    cases request
    cases mayAsk with
    | deleteTemplate => exact Store.Memory.deleteTemplate_unreferred _ stamp id

/-- One template is edited three times, once in vain, and another is deleted
after an event was made from it. -/
def editedTemplates : List (Move (eventService false)) :=
  [.arrival (.createTemplate ⟨"move", "maintenance",
    "Move of \x7b\x7bservice_name\x7d\x7d", "Soon."⟩),
    .turn 0 (.plain 1 1), .arrival (.createTemplate ⟨"outage", "incident", "Outage", "Now."⟩),
    .turn 1 (.plain 2 2),
    .arrival (.updateTemplate (.ofNat 1) ⟨none, some "Moved", none⟩),
    .arrival (.updateTemplate (.ofNat 1) ⟨some "incident", none, some "\x7b\x7b#"⟩),
    .arrival (.updateTemplate (.ofNat 1) ⟨some "incident", none, none⟩),
    .arrival (.create (.ofNat 9)
      ⟨"Disk full", "incident", "investigating", some "major", "", none, none, none, false,
        some (.ofNat 2), []⟩),
    .turn 5 (.plain 3 3), .turn 4 (.plain 4 4), .turn 5 (.plain 5 5), .turn 2 (.plain 6 6),
    .arrival (.deleteTemplate (.ofNat 2)), .turn 6 (.plain 7 7)]

theorem editedTemplates_follow :
    (Run.after .empty editedTemplates).TemplatesFollow ∧
      (Run.after .empty editedTemplates).memory.templates =
        [⟨.ofNat 1, "move", .incident, "Moved", "Soon.", ⟨1, 0⟩, ⟨6, 0⟩⟩] ∧
      (Run.after .empty editedTemplates).memory.events.map Event.templateId = [none] ∧
      ((Run.after .empty editedTemplates).exchanges.filterMap Exchange.createdEvent).map
        Event.templateId = [some (.ofNat 2)] :=
  ⟨templates_eq_history editedTemplates (by decide +kernel), by decide +kernel, by decide +kernel,
    by decide +kernel⟩

end StatusPage
