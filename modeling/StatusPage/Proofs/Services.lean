import StatusPage.Auth.Service
import StatusPage.Event.Service
import StatusPage.Proofs.Interleaving
import StatusPage.Proofs.StoreFrame

/-!
The requests that clients make of the services, as families of programs. For each request it is said
which questions its program may ask, together with what the program has checked before it asks.
-/

set_option autoImplicit false

namespace StatusPage

theorem ok_of_bind {ε α β : Type} {first : Except ε α} {next : α → Except ε β}
    {value : β} (whole : (first >>= next) = .ok value) :
    ∃ a, first = .ok a ∧ next a = .ok value := by
  cases first with
  | error e => cases whole
  | ok a => exact ⟨a, rfl, whole⟩

/-! ### Events and templates -/

inductive EventRequest where
  | create (createdBy : Uuid) (draft : EventDraft)
  | get (id : Uuid)
  | list (query : EventQuery)
  | recent (limit : Int)
  | addUpdate (eventId createdBy : Uuid) (draft : UpdateDraft)
  | listUpdates (eventId : Uuid)
  | delete (id : Uuid)
  | createTemplate (draft : TemplateDraft)
  | getTemplate (slug : String)
  | listTemplates
  | updateTemplate (id : Uuid) (edit : TemplateEdit)
  | deleteTemplate (id : Uuid)
  | preview (slug : String) (data : TemplateData)

namespace EventRequest

@[reducible] def Result : EventRequest → Type
  | .create _ _ => Except EventError Event
  | .get _ => Except EventError Event
  | .list _ => Except EventError (List Event)
  | .recent _ => Except EventError (List Event)
  | .addUpdate _ _ _ => Except EventError (Event × EventUpdate)
  | .listUpdates _ => Except EventError (List EventUpdate)
  | .delete _ => Except EventError Unit
  | .createTemplate _ => Except EventError EventTemplate
  | .getTemplate _ => Except EventError EventTemplate
  | .listTemplates => Except EventError (List EventTemplate)
  | .updateTemplate _ _ => Except EventError EventTemplate
  | .deleteTemplate _ => Except EventError Unit
  | .preview _ _ => Except EventError RenderedTemplate

def program (notices : Bool) : (request : EventRequest) → Program request.Result
  | .create createdBy draft => Events.create notices createdBy draft
  | .get id => Events.get id
  | .list query => Events.list query
  | .recent limit => Events.recent limit
  | .addUpdate eventId createdBy draft => Events.addUpdate notices eventId createdBy draft
  | .listUpdates eventId => Events.listUpdates eventId
  | .delete id => Events.delete id
  | .createTemplate draft => Events.createTemplate draft
  | .getTemplate slug => Events.getTemplate slug
  | .listTemplates => Events.listTemplates
  | .updateTemplate id edit => Events.updateTemplate id edit
  | .deleteTemplate id => Events.deleteTemplate id
  | .preview slug data => Events.preview slug data

/-- The questions of a request. What a program writes it has checked before. -/
inductive MayAsk : EventRequest → Op → Prop
  | findTemplate {createdBy : Uuid} {draft : EventDraft} {id : Uuid}
      (chosen : draft.templateId = some id) :
      MayAsk (.create createdBy draft) (.store (.findTemplate id))
  | createEvent {createdBy : Uuid} {draft : EventDraft} {c : Classification}
      (legal : classify draft.kind draft.status draft.severity = .ok c) :
      MayAsk (.create createdBy draft)
        (.store (.createEvent
          { title := draft.title, kind := c.kind, status := c.status, severity := c.severity,
            description := draft.description, startedAt := draft.startedAt,
            scheduledStart := draft.scheduledStart, scheduledEnd := draft.scheduledEnd,
            notify := draft.notify, templateId := draft.templateId, createdBy := createdBy,
            serviceIds := Events.firstOccurrences draft.serviceIds }))
  | announce {createdBy : Uuid} {draft : EventDraft} (notice : Notice) :
      MayAsk (.create createdBy draft) (.notify notice)
  | get {id : Uuid} : MayAsk (.get id) (.store (.findEvent id))
  | list {query : EventQuery} (filter : EventFilter) :
      MayAsk (.list query) (.store (.listEvents filter))
  | recent {limit : Int} (filter : EventFilter) :
      MayAsk (.recent limit) (.store (.listEvents filter))
  | findUpdated {eventId createdBy : Uuid} {draft : UpdateDraft} :
      MayAsk (.addUpdate eventId createdBy draft) (.store (.findEvent eventId))
  | recordUpdate {eventId createdBy : Uuid} {draft : UpdateDraft} {kind : EventKind}
      {change : StatusChange} (planned : planUpdate kind draft.status = .ok change) :
      MayAsk (.addUpdate eventId createdBy draft)
        (.store (.recordUpdate eventId ⟨change, draft.message, draft.notify, createdBy⟩))
  | report {eventId createdBy : Uuid} {draft : UpdateDraft} (notice : Notice) :
      MayAsk (.addUpdate eventId createdBy draft) (.notify notice)
  | findListed {eventId : Uuid} : MayAsk (.listUpdates eventId) (.store (.findEvent eventId))
  | listUpdates {eventId : Uuid} : MayAsk (.listUpdates eventId) (.store (.listUpdates eventId))
  | delete {id : Uuid} : MayAsk (.delete id) (.store (.deleteEvent id))
  | createTemplate {draft : TemplateDraft} {kind : EventKind}
      (known : readKind draft.kind = .ok kind)
      (title : Template.validate draft.titleSource = .ok ())
      (body : Template.validate draft.bodySource = .ok ()) :
      MayAsk (.createTemplate draft)
        (.store (.createTemplate ⟨draft.slug, kind, draft.titleSource, draft.bodySource⟩))
  | getTemplate {slug : String} : MayAsk (.getTemplate slug) (.store (.findTemplateBySlug slug))
  | listTemplates : MayAsk .listTemplates (.store .listTemplates)
  | updateTemplate {id : Uuid} {edit : TemplateEdit} {kind : Option EventKind}
      (known : Events.readFilter .invalidKind edit.kind = .ok kind)
      (title : ∀ source, edit.titleSource = some source → Template.validate source = .ok ())
      (body : ∀ source, edit.bodySource = some source → Template.validate source = .ok ()) :
      MayAsk (.updateTemplate id edit)
        (.store (.updateTemplate id ⟨kind, edit.titleSource, edit.bodySource⟩))
  | deleteTemplate {id : Uuid} : MayAsk (.deleteTemplate id) (.store (.deleteTemplate id))
  | preview {slug : String} {data : TemplateData} :
      MayAsk (.preview slug data) (.store (.findTemplateBySlug slug))

private theorem calling_asks {allowed : Op → Prop} {call : Store.Call}
    (permitted : allowed (.store call)) (describe : StoreError → EventError) :
    (Events.calling call describe).Asks allowed :=
  ⟨permitted, fun _ => trivial⟩

private theorem notify_asks {allowed : Op → Prop}
    (permitted : ∀ notice, allowed (.notify notice)) (notices : Bool) (event : Event)
    (subject body : String) :
    (Events.notify notices event subject body).Asks allowed := by
  unfold Events.notify
  split
  · exact ⟨permitted _, fun _ => trivial⟩
  · trivial

private theorem create_asks (notices : Bool) (createdBy : Uuid) (draft : EventDraft) :
    (Events.create notices createdBy draft).Asks (MayAsk (.create createdBy draft)) := by
  unfold Events.create
  cases legal : classify draft.kind draft.status draft.severity with
  | error e => trivial
  | ok c =>
      dsimp -zeta only
      extract_lets new insert
      have inserting (found : Except EventError Unit) :
          (insert found).Asks (MayAsk (.create createdBy draft)) := by
        cases found with
        | error e => trivial
        | ok _ =>
            refine (calling_asks (.createEvent legal) _).bind ?_
            rintro (e | event)
            · trivial
            · by_cases announced : event.notify
              · simp only [announced, if_true]
                exact (notify_asks .announce _ _ _ _).bind fun _ => trivial
              · simp only [announced]
                trivial
      cases chosen : draft.templateId with
      | none => exact inserting (.ok ())
      | some id =>
        exact (calling_asks (.findTemplate chosen) _).bind fun template =>
          inserting (template.map _)

private theorem list_asks {allowed : Op → Prop}
    (permitted : ∀ filter, allowed (.store (.listEvents filter)))
    (query : EventQuery) : (Events.list query).Asks allowed := by
  unfold Events.list
  split
  · trivial
  · split
    · trivial
    · exact calling_asks (permitted _) _

private theorem addUpdate_asks (notices : Bool) (eventId createdBy : Uuid) (draft : UpdateDraft) :
    (Events.addUpdate notices eventId createdBy draft).Asks
      (MayAsk (.addUpdate eventId createdBy draft)) := by
  unfold Events.addUpdate
  refine (calling_asks .findUpdated _).bind ?_
  rintro (e | event)
  · trivial
  · cases planned : planUpdate event.kind draft.status with
    | error e => simp only [planned]; trivial
    | ok change =>
        simp only [planned]
        refine (calling_asks (.recordUpdate planned) _).bind ?_
        rintro (e | ⟨event, update⟩)
        · trivial
        · by_cases reported : update.notify
          · simp only [reported, if_true]
            exact (notify_asks .report _ _ _ _).bind fun _ => trivial
          · simp only [reported]
            trivial

private theorem validate_of_checkSource {source : String}
    (checked : Events.checkSource source = .ok ()) :
    Template.validate source = .ok () := by
  unfold Events.checkSource at checked
  cases valid : Template.validate source with
  | error e => rw [valid] at checked; cases checked
  | ok _ => rfl

private theorem createTemplate_asks (draft : TemplateDraft) :
    (Events.createTemplate draft).Asks (MayAsk (.createTemplate draft)) := by
  unfold Events.createTemplate
  cases known : readKind draft.kind with
  | error e => trivial
  | ok kind =>
      cases title : Events.checkSource draft.titleSource with
      | error e => trivial
      | ok _ =>
          cases body : Events.checkSource draft.bodySource with
          | error e => trivial
          | ok _ =>
              exact calling_asks
                (.createTemplate known (validate_of_checkSource title)
                  (validate_of_checkSource body)) _

private theorem updateTemplate_asks (id : Uuid) (edit : TemplateEdit) :
    (Events.updateTemplate id edit).Asks (MayAsk (.updateTemplate id edit)) := by
  unfold Events.updateTemplate
  split
  · trivial
  · rename_i kind checked
    obtain ⟨editKind, title, body⟩ := edit
    obtain ⟨found, known, checked⟩ := ok_of_bind checked
    -- Each source that is given stands as a check of its own in front of the result.
    cases title with
    | none =>
        cases body with
        | none =>
            cases checked
            exact calling_asks (.updateTemplate known nofun nofun) _
        | some body =>
            obtain ⟨_, bodyValid, ⟨⟩⟩ := ok_of_bind checked
            refine calling_asks (.updateTemplate known nofun ?_) _
            rintro _ ⟨⟩
            exact validate_of_checkSource bodyValid
    | some title =>
        obtain ⟨_, titleValid, checked⟩ := ok_of_bind checked
        cases body with
        | none =>
            cases checked
            refine calling_asks (.updateTemplate known ?_ nofun) _
            rintro _ ⟨⟩
            exact validate_of_checkSource titleValid
        | some body =>
            obtain ⟨_, bodyValid, ⟨⟩⟩ := ok_of_bind checked
            refine calling_asks (.updateTemplate known ?_ ?_) _
            · rintro _ ⟨⟩
              exact validate_of_checkSource titleValid
            · rintro _ ⟨⟩
              exact validate_of_checkSource bodyValid

theorem program_asks (notices : Bool) (request : EventRequest) :
    (request.program notices).Asks request.MayAsk := by
  cases request with
  | create createdBy draft => exact create_asks notices createdBy draft
  | get id => exact calling_asks .get _
  | list query => exact list_asks .list query
  | recent limit =>
    exact list_asks (fun filter => MayAsk.recent filter) ⟨none, none, some limit, none⟩
  | addUpdate eventId createdBy draft => exact addUpdate_asks notices eventId createdBy draft
  | listUpdates eventId =>
      refine (calling_asks .findListed _).bind ?_
      rintro (e | event)
      · trivial
      · exact calling_asks .listUpdates _
  | delete id => exact calling_asks .delete _
  | createTemplate draft => exact createTemplate_asks draft
  | getTemplate slug => exact calling_asks .getTemplate _
  | listTemplates => exact calling_asks .listTemplates _
  | updateTemplate id edit => exact updateTemplate_asks id edit
  | deleteTemplate id => exact calling_asks .deleteTemplate _
  | preview slug data =>
      refine (calling_asks .preview _).bind ?_
      rintro (e | template)
      · trivial
      · trivial

private theorem calling_writes_once (call : Store.Call) (describe : StoreError → EventError) :
    (Events.calling call describe).AsksAtMost Op.writes 1 :=
  ⟨Bool.toNat_le _, fun _ => trivial⟩

private theorem calling_reads {call : Store.Call} (reads : call.writes = [])
    (describe : StoreError → EventError) :
    (Events.calling call describe).AsksAtMost Op.writes 0 := by
  refine ⟨?_, fun _ => trivial⟩
  simp [Op.writes, reads]

private theorem notify_reads (notices : Bool) (event : Event) (subject body : String) :
    (Events.notify notices event subject body).AsksAtMost Op.writes 0 :=
  .of_asks (notify_asks (fun _ => rfl) notices event subject body) 0

private theorem list_writes_once (query : EventQuery) :
    (Events.list query).AsksAtMost Op.writes 1 := by
  have asks : (Events.list query).Asks fun op => op.writes = false := list_asks (fun _ => rfl) query
  exact .of_asks asks 1

private theorem create_writes_once (notices : Bool) (createdBy : Uuid) (draft : EventDraft) :
    (Events.create notices createdBy draft).AsksAtMost Op.writes 1 := by
  unfold Events.create
  cases classify draft.kind draft.status draft.severity with
  | error e => trivial
  | ok c =>
      dsimp -zeta only
      extract_lets new insert
      have inserting (found : Except EventError Unit) : (insert found).AsksAtMost Op.writes 1 := by
        cases found with
        | error e => trivial
        | ok _ =>
            change Program.AsksAtMost Op.writes (1 + 0) _
            refine (calling_writes_once _ _).bind ?_
            rintro (e | event)
            · trivial
            · by_cases announced : event.notify
              · simp only [announced, if_true]
                exact (notify_reads _ _ _ _).map _
              · simp only [announced]
                trivial
      cases draft.templateId with
      | none => exact inserting (.ok ())
      | some id =>
          change Program.AsksAtMost Op.writes (0 + 1) _
          exact (calling_reads rfl _).bind fun template => inserting (template.map _)

/-- A program for an update looks at the event before it records the update, and records it once. -/
theorem addUpdate_writes_once (notices : Bool) (eventId createdBy : Uuid) (draft : UpdateDraft) :
    (Events.addUpdate notices eventId createdBy draft).AsksAtMost Op.writes 1 := by
  unfold Events.addUpdate
  change Program.AsksAtMost Op.writes (0 + 1) _
  refine (calling_reads rfl _).bind ?_
  rintro (e | event)
  · trivial
  · cases planned : planUpdate event.kind draft.status with
    | error e => simp only [planned]; trivial
    | ok change =>
        simp only [planned]
        change Program.AsksAtMost Op.writes (1 + 0) _
        refine (calling_writes_once _ _).bind ?_
        rintro (e | ⟨event, update⟩)
        · trivial
        · by_cases reported : update.notify
          · simp only [reported, if_true]
            exact (notify_reads _ _ _ _).map _
          · simp only [reported]
            trivial

theorem program_writes_once (notices : Bool) (request : EventRequest) :
    (request.program notices).AsksAtMost Op.writes 1 := by
  cases request with
  | create createdBy draft => exact create_writes_once notices createdBy draft
  | addUpdate eventId createdBy draft => exact addUpdate_writes_once notices eventId createdBy draft
  | get | delete | getTemplate | listTemplates | deleteTemplate => exact calling_writes_once _ _
  | list query => exact list_writes_once query
  | recent limit => exact list_writes_once ⟨none, none, some limit, none⟩
  | listUpdates eventId =>
      change Program.AsksAtMost Op.writes (0 + 1) _
      refine (calling_reads rfl _).bind ?_
      rintro (e | event)
      · trivial
      · exact calling_writes_once _ _
  | createTemplate draft =>
      change Program.AsksAtMost Op.writes 1 (Events.createTemplate draft)
      unfold Events.createTemplate
      split
      · trivial
      · exact calling_writes_once _ _
  | updateTemplate id edit =>
      change Program.AsksAtMost Op.writes 1 (Events.updateTemplate id edit)
      unfold Events.updateTemplate
      split
      · trivial
      · exact calling_writes_once _ _
  | preview slug data =>
      change Program.AsksAtMost Op.writes (1 + 0) _
      refine (calling_writes_once _ _).bind ?_
      rintro (e | template)
      · trivial
      · trivial

end EventRequest

/-- The service for events and templates; `notices` tells whether notices are sent at all. -/
def eventService (notices : Bool) : Service :=
  ⟨EventRequest, EventRequest.Result, EventRequest.program notices⟩

/-! ### Accounts and sessions -/

inductive AuthRequest where
  | register (request : Registration)
  | login (email password : String)
  | refresh (token : String)
  | logout (token : String)
  /-- What an administrator does is what the owner does on logging out. -/
  | revoke (token : String)
  | logoutAll (userId : Uuid)
  | getUser (userId : Uuid)
  | validate (token : String)
  | sweep

namespace AuthRequest

@[reducible] def Result : AuthRequest → Type
  | .register _ => Except AuthError User
  | .login _ _ => Except AuthError (User × TokenPair)
  | .refresh _ => Except AuthError TokenPair
  | .logout _ => Except AuthError Unit
  | .revoke _ => Except AuthError Unit
  | .logoutAll _ => Except AuthError Nat
  | .getUser _ => Except AuthError User
  | .validate _ => Except AuthError Identity
  | .sweep => Unit

def program (settings : Auth.Settings) : (request : AuthRequest) → Program request.Result
  | .register request => Auth.register request
  | .login email password => Auth.login settings email password
  | .refresh token => Auth.refresh settings token
  | .logout token => Auth.logout token
  | .revoke token => Auth.logout token
  | .logoutAll userId => Auth.logoutAll userId
  | .getUser userId => Auth.getUser userId
  | .validate token => Auth.validateAccessToken token
  | .sweep => Auth.sweep

end AuthRequest

/-- The moment some days from now, or nothing more when there is no such moment. -/
theorem Auth.daysFrom_cases (now : Time.Instant) (days : Int) :
    (now.addSeconds (days * 86400)).InRange ∧
    daysFrom now days = .done (now.addSeconds (days * 86400)) ∨
      ¬(now.addSeconds (days * 86400)).InRange ∧
      ∃ reason, daysFrom now days = .abort reason := by
  by_cases within : (now.addSeconds (days * 86400)).InRange
  · exact .inl ⟨within, if_pos within⟩
  · exact .inr ⟨within, _, if_neg within⟩

def authService (settings : Auth.Settings) : Service :=
  ⟨AuthRequest, AuthRequest.Result, AuthRequest.program settings⟩

end StatusPage
