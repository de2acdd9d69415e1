import StatusPage.Proofs.Services

/-!
The templates that are stored. Sources are checked before they are sent to the store, all at once
for a new template and later for each part that is changed; so every stored source can be parsed at
all times, and a preview fails only where a value is missing.
-/

set_option autoImplicit false

namespace StatusPage

open Store (Memory Stamp)

namespace Template

def Parses (source : String) : Prop := ∃ nodes, parse source = .ok nodes

private theorem parses_of_validate {source : String} (valid : validate source = .ok ()) :
    Parses source := by
  unfold validate at valid
  cases parsed : parse source with
  | error e =>
      rw [parsed] at valid
      cases valid
  | ok nodes => exact ⟨nodes, parsed⟩

private theorem render_cases {source : String} (parses : Parses source) (data : TemplateData) :
    (∃ text, render source data = .ok text) ∨
    ∃ reason, render source data = .error (.render reason) := by
  obtain ⟨nodes, parsed⟩ := parses
  have rendered : render source data = renderParsed data nodes := by
    unfold render
    rw [parsed]
    rfl
  rw [rendered, renderParsed]
  cases renderNodes data nodes with
  | ok chars => exact .inl ⟨_, rfl⟩
  | error field => exact .inr ⟨_, rfl⟩

end Template

def EventTemplate.Parses (template : EventTemplate) : Prop :=
  Template.Parses template.titleSource ∧ Template.Parses template.bodySource

/-! ### What is sent to the store -/

namespace Store

def Call.Checked : Call → Prop
  | .createTemplate new => Template.Parses new.titleSource ∧ Template.Parses new.bodySource
  | .updateTemplate _ change =>
      (∀ source, change.titleSource = some source → Template.Parses source) ∧
        ∀ source, change.bodySource = some source → Template.Parses source
  | _ => True

namespace Memory

variable {memory : Memory} {stamp : Stamp}

def TemplatesParse (memory : Memory) : Prop := ∀ template ∈ memory.templates, template.Parses

theorem TemplatesParse.createTemplate (parse : memory.TemplatesParse) {new : NewTemplate}
    (title : Template.Parses new.titleSource) (body : Template.Parses new.bodySource) :
    (memory.createTemplate stamp new).2.TemplatesParse := by
  unfold Memory.createTemplate
  split
  · exact parse
  · intro template member
    rcases List.mem_append.mp member with old | added
    · exact parse template old
    · cases List.mem_singleton.mp added
      exact ⟨title, body⟩

/-- A part that is not changed keeps a source that was checked at some earlier time. -/
theorem edited_parses {template : EventTemplate} (parses : template.Parses)
    {change : TemplateChange}
    (title : ∀ source, change.titleSource = some source → Template.Parses source)
    (body : ∀ source, change.bodySource = some source → Template.Parses source)
    (now : Time.Instant) :
    (edited template change now).Parses := by
  constructor
  · change Template.Parses (change.titleSource.getD template.titleSource)
    cases given : change.titleSource with
    | none => exact parses.1
    | some source => exact title source given
  · change Template.Parses (change.bodySource.getD template.bodySource)
    cases given : change.bodySource with
    | none => exact parses.2
    | some source => exact body source given

theorem TemplatesParse.updateTemplate (parse : memory.TemplatesParse) (id : Uuid)
    {change : TemplateChange}
    (title : ∀ source, change.titleSource = some source → Template.Parses source)
    (body : ∀ source, change.bodySource = some source → Template.Parses source) :
    (memory.updateTemplate stamp id change).2.TemplatesParse := by
  unfold Memory.updateTemplate
  cases found : memory.findTemplate id with
  | none => exact parse
  | some template =>
      intro stored member
      obtain ⟨old, earlier, rfl⟩ := List.mem_map.mp member
      by_cases same : old.id = id
      · rw [if_pos same]
        exact edited_parses (parse template (findTemplate_spec found).1) title body stamp.now
      · rw [if_neg same]
        exact parse old earlier

theorem TemplatesParse.deleteTemplate (parse : memory.TemplatesParse) (id : Uuid) :
    (memory.deleteTemplate id).2.TemplatesParse := by
  unfold Memory.deleteTemplate
  split
  · exact parse
  · intro template member
    exact parse template (List.mem_filter.mp member).1

theorem TemplatesParse.perform (parse : memory.TemplatesParse) {call : Call}
    (checked : call.Checked) :
    (memory.perform stamp call).2.TemplatesParse := by
  by_cases writes : .templates ∈ call.writes
  · cases call with
    | createTemplate new => exact parse.createTemplate checked.1 checked.2
    | updateTemplate id change => exact parse.updateTemplate id checked.1 checked.2
    | deleteTemplate id => exact parse.deleteTemplate id
    | _ => simp [Call.writes] at writes
  · intro template member
    rw [(perform_unchanged memory stamp call).templates writes] at member
    exact parse template member

end Memory

end Store

theorem EventRequest.MayAsk.checked {request : EventRequest} {call : Store.Call}
    (asked : request.MayAsk (.store call)) : call.Checked := by
  cases asked with
  | createTemplate known title body =>
      exact ⟨Template.parses_of_validate title, Template.parses_of_validate body⟩
  | updateTemplate known title body =>
      constructor
      · exact fun source given => Template.parses_of_validate (title source given)
      · exact fun source given => Template.parses_of_validate (body source given)
  | _ => trivial

/-! ### Previews -/

inductive Previewed : Except EventError RenderedTemplate → Prop
  | rendered (rendered : RenderedTemplate) : Previewed (.ok rendered)
  | missing : Previewed (.error .templateNotFound)
  | incomplete (reason : String) : Previewed (.error (.invalidTemplate (.render reason)))

namespace Events

def shown (data : TemplateData) (answer : Except StoreError EventTemplate) :
    Except EventError RenderedTemplate := do
  let template ← answer.mapError (templateMissing "loading template")
  (do
    let title ← Template.render template.titleSource data
    let body ← Template.render template.bodySource data
    return ⟨title, body⟩ : Except TemplateError RenderedTemplate).mapError .invalidTemplate

private theorem preview_eq (slug : String) (data : TemplateData) :
    preview slug data = .ask (.store (.findTemplateBySlug slug)) fun answer =>
      .done (shown data answer) := by
  change Program.ask _ _ = _
  congr 1
  funext answer
  cases answer <;> rfl

private theorem shown_previewed {memory : Memory} (parse : memory.TemplatesParse) (slug : String)
    (data : TemplateData) :
    Previewed (shown data (memory.reading (memory.findTemplateBySlug slug)).1) := by
  cases found : memory.findTemplateBySlug slug with
  | none => exact .missing
  | some template =>
      obtain ⟨title, body⟩ := parse template (List.mem_of_find?_eq_some found)
      have whole : shown data (memory.reading (some template)).1 =
          (do
            let title ← Template.render template.titleSource data
            let body ← Template.render template.bodySource data
            return ⟨title, body⟩ :
              Except TemplateError RenderedTemplate).mapError .invalidTemplate := rfl
      rw [whole]
      rcases Template.render_cases title data with ⟨titleText, titled⟩ | ⟨reason, failed⟩
      · rcases Template.render_cases body data with ⟨bodyText, bodied⟩ | ⟨reason, failed⟩
        · rw [titled, bodied]
          exact .rendered ⟨titleText, bodyText⟩
        · rw [titled, failed]
          exact .incomplete reason
      · rw [failed]
        exact .incomplete reason

end Events

/-! ### Runs of the service -/

section Runs

variable {notices : Bool}

private theorem call_checked {moves : List (Move (eventService notices))} {exchange : Exchange}
    (happened : exchange ∈ (Run.after .empty moves).exchanges) {call : Store.Call}
    (same : exchange.op = .store call) : call.Checked := by
  obtain ⟨entry, logged, rfl⟩ := List.mem_map.mp happened
  have asked := Run.log_asked (EventRequest.program_asks notices) .empty moves entry logged
  rw [same] at asked
  exact asked.checked

private theorem templates_parse_at {moves : List (Move (eventService notices))}
    {before after : List Exchange} (split : (Run.after .empty moves).exchanges = before ++ after) :
    (replay .empty before).TemplatesParse := by
  apply replay_keeps Memory.TemplatesParse
  · intro template member
    cases member
  · intro exchange earlier memory parse
    have happened : exchange ∈ (Run.after .empty moves).exchanges := by
      rw [split]
      exact List.mem_append_left _ earlier
    have checked : ∀ call, exchange.op = .store call → call.Checked :=
      fun _ => call_checked happened
    obtain ⟨stamp, op, answer⟩ := exchange
    cases op with
    | store call => exact parse.perform (checked call rfl)
    | _ => exact parse

private theorem preview_cases {moves : List (Move (eventService notices))} {n : Nat} {slug : String}
    {data : TemplateData} {rest : Program (Except EventError RenderedTemplate)}
    (found : (Run.after .empty moves).tasks[n]? = some ⟨.preview slug data, rest⟩) :
    rest = Events.preview slug data ∨ ∃ result, rest = .done result ∧ Previewed result := by
  have path : Program.Path (Events.preview slug data) _ rest := Run.view_path .empty moves n _ found
  rw [Events.preview_eq] at path ⊢
  rcases path.of_ask with ⟨-, waiting⟩ | ⟨stamp, answer, later, view, following⟩
  · exact .inl waiting
  · obtain ⟨rfl, rfl⟩ := following.of_done
    obtain ⟨before, after, split⟩ :=
      List.append_of_mem (Run.mem_exchanges (view ▸ List.mem_cons_self))
    have same : answer =
        ((replay .empty before).reading ((replay .empty before).findTemplateBySlug slug)).1 :=
      (Run.replay_exchanges .empty moves).2 _ _ _ split
    rw [same]
    exact .inr ⟨_, rfl, Events.shown_previewed (templates_parse_at split) slug data⟩

private theorem preview_ends {run : Run (eventService notices)} {n : Nat} {slug : String}
    {data : TemplateData}
    (found : run.tasks[n]? = some ⟨.preview slug data, Events.preview slug data⟩)
    (moment : Moment) :
    ∃ result, (run.turn n moment).tasks[n]? = some ⟨.preview slug data, .done result⟩ := by
  have within := (List.getElem?_eq_some_iff.mp found).1
  rw [Events.preview_eq] at found
  unfold Run.turn
  rw [found]
  exact ⟨_, List.getElem?_set_self within⟩

end Runs

/-- The stored templates of a run can be parsed, and previews come to an end that shows it. -/
structure Run.TemplatesRead {notices : Bool} (run : Run (eventService notices)) : Prop where
  parse : ∀ template ∈ run.memory.templates,
    (∃ nodes, Template.parse template.titleSource = .ok nodes) ∧
      ∃ nodes, Template.parse template.bodySource = .ok nodes
  ended : ∀ (n : Nat) (slug : String) (data : TemplateData)
    (result : Except EventError RenderedTemplate),
    run.tasks[n]? = some ⟨.preview slug data, .done result⟩ → Previewed result
  /-- One turn is enough for a preview, at whatever moment it is. -/
  ends : ∀ (n : Nat) (slug : String) (data : TemplateData)
    (rest : Program (Except EventError RenderedTemplate))
    (moment : Moment), run.tasks[n]? = some ⟨.preview slug data, rest⟩ →
    ∃ result, (run.turn n moment).tasks[n]? = some ⟨.preview slug data, .done result⟩ ∧
      Previewed result

theorem stored_templates_parse {notices : Bool} (moves : List (Move (eventService notices))) :
    (Run.after .empty moves).TemplatesRead := by
  have ended :
      ∀ (moves' : List (Move (eventService notices))) (n : Nat) (slug : String)
        (data : TemplateData)
      (result : Except EventError RenderedTemplate),
      (Run.after .empty moves').tasks[n]? = some ⟨.preview slug data, .done result⟩ →
      Previewed result := by
    intro moves' n slug data result found
    rcases preview_cases found with waiting | ⟨result, same, previewed⟩
    · rw [Events.preview_eq] at waiting
      cases waiting
    · cases same
      exact previewed
  constructor
  · intro template member
    rw [← (Run.replay_exchanges .empty moves).1] at member
    exact templates_parse_at (List.append_nil _).symm template member
  · exact ended moves
  · intro n slug data rest moment found
    rcases preview_cases found with rfl | ⟨result, rfl, previewed⟩
    · obtain ⟨result, after⟩ := preview_ends found moment
      refine ⟨result, after, ?_⟩
      have next := Run.after_concat .empty moves (.turn n moment)
      change _ = (Run.after .empty moves).turn n moment at next
      rw [← next] at after
      exact ended _ n slug data result after
    · have still : (Run.after .empty moves).turn n moment = Run.after .empty moves := by
        unfold Run.turn
        rw [found]
      rw [still]
      exact ⟨result, found, previewed⟩

end StatusPage
