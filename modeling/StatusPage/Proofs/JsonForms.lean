import StatusPage.Form.Account
import StatusPage.Form.Event
import StatusPage.Form.Subscriber
import StatusPage.Form.Template
import StatusPage.Proofs.Names
import StatusPage.Proofs.RecordMembers
import StatusPage.Proofs.SignedTokens
import StatusPage.Proofs.WrittenInstants

/-!
The types that are both written as JSON and read from it. What is written is read back; the order of
the keys and keys of other names do not count; and a field that holds one of several names takes
these names only, each as a text or as the one key of an object over null.
-/

set_option autoImplicit false

namespace StatusPage

open Json (Fields Plain Reader ReadsBack)
open Json.Reader (text_readsBack bool_readsBack int64_readsBack parsed_readsBack orNull_readsBack)
open Form
open Text (Bytes)

/-! ### Values -/

namespace Form

section

variable {α : Type}

private theorem instant_readsBack {t : Time.Instant} (valid : t.Valid) :
    ReadsBack readInstant (instant t) t :=
  parsed_readsBack (Time.Instant.ofText?_toText valid)

private theorem named_readsBack [Named α] [Named.Complete α] (a : α) :
    ReadsBack readNamed (named a) a :=
  ⟨.str _, by simp [readNamed, named, Reader.variant, Json.str]⟩

private theorem textOrNull_readsBack (value : Option String) :
    ReadsBack (Reader.orNull Reader.text) (.orNull .str value) value :=
  orNull_readsBack (fun text _ => text_readsBack text) nofun

private theorem uuidOrNull_readsBack (value : Option Uuid) :
    ReadsBack readUuid.orNull (.orNull uuid value) value :=
  orNull_readsBack (fun id _ => uuid_readsBack id) nofun

private theorem instantOrNull_readsBack {value : Option Time.Instant}
    (valid : ∀ t ∈ value, t.Valid) :
    ReadsBack readInstant.orNull (.orNull instant value) value :=
  orNull_readsBack (fun t there => instant_readsBack (valid t there)) nofun

private theorem namedOrNull_readsBack [Named α] [Named.Complete α] (value : Option α) :
    ReadsBack readNamed.orNull (.orNull named value) value :=
  orNull_readsBack (fun a _ => named_readsBack a) nofun

private theorem uuids_readsBack (ids : List Uuid) :
    ReadsBack (Reader.list readUuid) (uuids ids) ids where
  plain := by
    refine .list _ fun item among => ?_
    obtain ⟨id, -, rfl⟩ := List.mem_map.mp among
    exact (uuid_readsBack id).plain
  value := by
    change (ids.map uuid).mapM readUuid = .ok ids
    induction ids with
    | nil => rfl
    | cons id ids ih =>
        rw [List.map_cons, List.mapM_cons, (uuid_readsBack id).value, ih]
        rfl

private theorem readNamed_eq_ok [Named α] [Named.Complete α] {j : Json} {a : α} :
    readNamed j = .ok a ↔ j = .str (Named.name a) ∨ j = .object [(Named.name a, .null)] := by
  constructor
  · intro read
    unfold readNamed Reader.variant at read
    split at read
    · rename_i text
      cases found : (Named.ofName? text : Option α) with
      | none => simp [found] at read
      | some b =>
          rw [found] at read
          cases read
          rw [Named.ofName?_eq_some.mp found]
          exact .inl rfl
    · cases read
    · rename_i key value rest
      split at read
      · cases read
      · rename_i b found
        split at read
        · split at read
          · rename_i alone
            cases read
            rw [Named.ofName?_eq_some.mp found, List.isEmpty_iff.mp alone]
            exact .inr rfl
          · cases read
        · cases read
    · cases read
  · rintro (rfl | rfl)
    · exact (named_readsBack a).value
    · simp [readNamed, Reader.variant, Json.object]

end

end Form

/-! ### Forms -/

/-- A field that holds one of several names: its key, the names, and the one that stands for a
value, if any. -/
structure NamedField (α : Type) where
  key : String
  names : List String
  name : α → Option String

namespace NamedField

variable {α β : Type} [Named β]

def of (key : String) (get : α → Option β) : NamedField α where
  key := key
  names := (Named.all : List β).map Named.name
  name a := (get a).map Named.name

/-- How the name of a value is stated: as a text, or as the one key of an object over null. -/
structure Spelled (field : NamedField α) (a : α) (states : Json → Prop) : Prop where
  given : ∀ name, field.name a = some name →
    name ∈ field.names ∧ (∃ j, states j) ∧ ∀ j, states j → j = .str name ∨
      j = .object [(name, .null)]
  missing : field.name a = none → ∀ j, states j → j = .null

variable [Named.Complete β] {find : String → Option Json} {a : α}

private theorem spelled_required {key : String} {get : α → β}
    (assembled : (Fields.required key readNamed).assemble find = .ok (get a)) :
    (of key fun a => some (get a)).Spelled a fun j => find key = some j where
  given name called := by
    cases called
    obtain ⟨j, there, read⟩ := Fields.required_ok.mp assembled
    refine ⟨List.mem_map_of_mem (Named.Complete.mem_all _), ⟨j, there⟩, fun j' there' => ?_⟩
    cases there.symm.trans there'
    exact readNamed_eq_ok.mp read
  missing called := by cases called

private theorem spelled_nullable {key : String} {get : α → Option β}
    (assembled : (Fields.nullable key readNamed).assemble find = .ok (get a)) :
    (of key get).Spelled a fun j => find key = some j where
  given name called := by
    obtain ⟨b, chosen, rfl⟩ := Option.map_eq_some_iff.mp called
    rw [chosen] at assembled
    rcases Json.nullable_ok.mp assembled with ⟨-, ⟨⟩⟩ | ⟨j, there, read⟩
    rcases Json.orNull_eq_ok.mp read with ⟨-, ⟨⟩⟩ | ⟨-, _, read, ⟨⟩⟩
    refine ⟨List.mem_map_of_mem (Named.Complete.mem_all _), ⟨j, there⟩, fun j' there' => ?_⟩
    cases there.symm.trans there'
    exact readNamed_eq_ok.mp read
  missing called j there := by
    rw [Option.map_eq_none_iff.mp called] at assembled
    rcases Json.nullable_ok.mp assembled with ⟨absent, -⟩ | ⟨j', there', read⟩
    · cases there.symm.trans absent
    · cases there.symm.trans there'
      rcases Json.orNull_eq_ok.mp read with ⟨null, -⟩ | ⟨-, _, -, ⟨⟩⟩
      exact null

end NamedField

/-- How a type is written and read, and what its values are made of. -/
structure RecordForm (α : Type) where
  write : α → Json
  fields : Fields α
  instants : α → List Time.Instant
  integers : α → List Int
  named : List (NamedField α)

namespace RecordForm

variable {α : Type} {form : RecordForm α} {a : α}

def encode (form : RecordForm α) (a : α) : Bytes := (form.write a).write

def decode (form : RecordForm α) (text : Bytes) : Option α :=
  (Json.readAll (Reader.record form.fields) text).toOption

/-- The clock has the instants of the value, and its integers have 64 bits. -/
def Valid (form : RecordForm α) (a : α) : Prop :=
  (∀ t ∈ form.instants a, t.Valid) ∧ ∀ i ∈ form.integers a, Text.int64Min ≤ i ∧
    i ≤ Text.int64Max

structure Lawful (form : RecordForm α) : Prop where
  distinct : form.fields.names.Nodup
  written : ∀ {a}, form.Valid a → ∃ members, form.write a = .object members ∧
    form.fields.ReadsBack members a
  spelled : ∀ {find : String → Option Json} {a : α}, form.fields.assemble find = .ok a →
    ∀ field ∈ form.named, field.Spelled a fun j => find field.key = some j

private theorem decode_eq_some {text : Bytes} :
    form.decode text = some a ↔
      Reader.record form.fields (Json.parse text).value = .ok a ∧
      (Json.parse text).trailing = false := by
  simp only [decode, Json.readAll, bind]
  cases Reader.record form.fields (Json.parse text).value with
  | error e => simp [Except.bind, Except.toOption]
  | ok a' => cases (Json.parse text).trailing <;> simp [Except.bind, Except.toOption]

private theorem Lawful.decode_object (lawful : form.Lawful) {members : List (String × Json)}
    (whole : form.fields.ReadsBack members a) :
    form.decode (Json.object members).write = some a := by
  rw [decode, Json.readAll_write _ whole.plain_object, whole.record lawful.distinct]
  rfl

private theorem Lawful.decode_encode (lawful : form.Lawful) (valid : form.Valid a) :
    form.decode (form.encode a) = some a := by
  obtain ⟨members, written, whole⟩ := lawful.written valid
  rw [encode, written]
  exact lawful.decode_object whole

/-- Two texts that differ in the order of the members and in members of other names. -/
theorem decode_rearranged {text text' : Bytes} {members members' : List (Option String × Json)}
    {extras : List (String × Json)} (parsed : Json.parse text = ⟨.record members, false⟩)
    (parsed' : Json.parse text' = ⟨.record members', false⟩)
    (rearranged : members'.Perm (members ++ extras.map fun (key, value) => (some key, value)))
    (others : ∀ extra ∈ extras, extra.1 ∉ form.fields.names ∧ extra.2.isWhole = true) :
    form.decode text' = form.decode text := by
  refine Option.ext fun a => ?_
  rw [decode_eq_some, decode_eq_some, parsed, parsed', Json.record_perm rearranged,
    Json.record_append others]

private theorem Lawful.decode_spelled (lawful : form.Lawful) {text : Bytes}
    (decoded : form.decode text = some a) {field : NamedField α} (member : field ∈ form.named) :
    field.Spelled a fun j =>
      (field.key, j) ∈ Json.stated form.fields.names (Json.parse text).value := by
  obtain ⟨once, assembled⟩ := Json.record_stated lawful.distinct (decode_eq_some.mp decoded).1
  have spelled := lawful.spelled assembled field member
  simpa only [Json.lookup_eq_some_of_distinct once] using spelled

end RecordForm

/-! ### The forms -/

def Event.form : RecordForm Event where
  write := Event.toJson
  fields := Event.fields
  instants event :=
    event.startedAt.toList ++ event.resolvedAt.toList ++ event.scheduledStart.toList ++
    event.scheduledEnd.toList ++ [event.createdAt, event.updatedAt]
  integers _ := []
  named := [.of "type" fun event => some event.kind, .of "status" fun event => some event.status,
    .of "severity" Event.severity]

private theorem Event.form_lawful : Event.form.Lawful where
  distinct := by decide
  written {event} valid := by
    obtain ⟨dated, -⟩ := valid
    simp only [Event.form, List.forall_mem_append, List.forall_mem_cons, Option.mem_toList] at dated
    obtain ⟨⟨⟨⟨started, resolved⟩, starts⟩, ends⟩, created, updated, -⟩ := dated
    have whole := Fields.ReadsBack.map Event.mk (.required "id" (uuid_readsBack event.id))
      |>.seq (.required "title" (text_readsBack event.title))
      |>.seq (.required "type" (named_readsBack event.kind))
      |>.seq (.required "status" (named_readsBack event.status))
      |>.seq (.nullable "severity" (namedOrNull_readsBack event.severity))
      |>.seq (.required "description" (text_readsBack event.description))
      |>.seq (.nullable "started_at" (instantOrNull_readsBack started))
      |>.seq (.nullable "resolved_at" (instantOrNull_readsBack resolved))
      |>.seq (.nullable "scheduled_start_at" (instantOrNull_readsBack starts))
      |>.seq (.nullable "scheduled_end_at" (instantOrNull_readsBack ends))
      |>.seq (.required "notify_subscribers" (bool_readsBack event.notify))
      |>.seq (.nullable "template_id" (uuidOrNull_readsBack event.templateId))
      |>.seq (.required "created_by" (uuid_readsBack event.createdBy))
      |>.seq (.required "service_ids" (uuids_readsBack event.serviceIds))
      |>.seq (.required "created_at" (instant_readsBack created))
      |>.seq (.required "updated_at" (instant_readsBack updated))
    exact ⟨_, rfl, whole⟩
  spelled {find event} assembled := by
    simp only [Event.form, Event.fields, Fields.seq_ok, Fields.map_ok] at assembled
    -- The last field is the outermost one: the fields behind the severity are put aside first.
    iterate 11 obtain ⟨_, _, assembled, -, rfl⟩ := assembled
    obtain ⟨_, severity,
      ⟨_, status, ⟨_, kind, ⟨_, _, ⟨_, -, rfl⟩, -, rfl⟩, kinds, rfl⟩,
        statuses, rfl⟩, severities, rfl⟩ := assembled
    simp only [Event.form, List.forall_mem_cons]
    exact ⟨NamedField.spelled_required kinds, NamedField.spelled_required statuses,
      NamedField.spelled_nullable severities, nofun⟩

def EventUpdate.form : RecordForm EventUpdate where
  write := EventUpdate.toJson
  fields := EventUpdate.fields
  instants update := [update.createdAt]
  integers _ := []
  named := [.of "status" fun update => some update.status]

private theorem EventUpdate.form_lawful : EventUpdate.form.Lawful where
  distinct := by decide
  written {update} valid := by
    have whole := Fields.ReadsBack.map EventUpdate.mk (.required "id" (uuid_readsBack update.id))
      |>.seq (.required "event_id" (uuid_readsBack update.eventId))
      |>.seq (.required "status" (named_readsBack update.status))
      |>.seq (.required "message" (text_readsBack update.message))
      |>.seq (.required "notify_subscribers" (bool_readsBack update.notify))
      |>.seq (.required "created_by" (uuid_readsBack update.createdBy))
      |>.seq (.required "created_at" (instant_readsBack (valid.1 _ List.mem_cons_self)))
    exact ⟨_, rfl, whole⟩
  spelled {find update} assembled := by
    simp only [EventUpdate.form, EventUpdate.fields, Fields.seq_ok, Fields.map_ok] at assembled
    iterate 4 obtain ⟨_, _, assembled, -, rfl⟩ := assembled
    obtain ⟨_, status, ⟨_, _, ⟨_, -, rfl⟩, -, rfl⟩, statuses, rfl⟩ := assembled
    simp only [EventUpdate.form, List.forall_mem_cons]
    exact ⟨NamedField.spelled_required statuses, nofun⟩

def EventTemplate.form : RecordForm EventTemplate where
  write := EventTemplate.toJson
  fields := EventTemplate.fields
  instants template := [template.createdAt, template.updatedAt]
  integers _ := []
  named := [.of "type" fun template => some template.kind]

def EventTemplate.entries (template : EventTemplate) (kind : Json) : List (String × Json) :=
  [("id", uuid template.id), ("slug", .str template.slug), ("type", kind),
    ("title_template", .str template.titleSource), ("body_template", .str template.bodySource),
    ("created_at", instant template.createdAt), ("updated_at", instant template.updatedAt)]

private theorem EventTemplate.entries_readBack (template : EventTemplate)
    (valid : EventTemplate.form.Valid template) {kind : Json}
    (named : ReadsBack readNamed kind template.kind) :
    EventTemplate.form.fields.ReadsBack (template.entries kind) template := by
  obtain ⟨dated, -⟩ := valid
  simp only [EventTemplate.form, List.forall_mem_cons] at dated
  obtain ⟨created, updated, -⟩ := dated
  have whole := Fields.ReadsBack.map EventTemplate.mk (.required "id" (uuid_readsBack template.id))
    |>.seq (.required "slug" (text_readsBack template.slug))
    |>.seq (.required "type" named)
    |>.seq (.required "title_template" (text_readsBack template.titleSource))
    |>.seq (.required "body_template" (text_readsBack template.bodySource))
    |>.seq (.required "created_at" (instant_readsBack created))
    |>.seq (.required "updated_at" (instant_readsBack updated))
  exact whole

private theorem EventTemplate.form_lawful : EventTemplate.form.Lawful where
  distinct := by decide
  written {template} valid :=
    ⟨_, rfl, template.entries_readBack valid (named_readsBack template.kind)⟩
  spelled {find template} assembled := by
    simp only [EventTemplate.form, EventTemplate.fields, Fields.seq_ok, Fields.map_ok] at assembled
    iterate 4 obtain ⟨_, _, assembled, -, rfl⟩ := assembled
    obtain ⟨_, kind, ⟨_, _, ⟨_, -, rfl⟩, -, rfl⟩, kinds, rfl⟩ := assembled
    simp only [EventTemplate.form, List.forall_mem_cons]
    exact ⟨NamedField.spelled_required kinds, nofun⟩

def Channel.form : RecordForm Channel where
  write := Channel.toJson
  fields := Channel.fields
  instants channel := [channel.createdAt, channel.updatedAt]
  integers _ := []
  named := [.of "channel_type" fun channel => some channel.kind]

private theorem Channel.form_lawful : Channel.form.Lawful where
  distinct := by decide
  written {channel} valid := by
    obtain ⟨dated, -⟩ := valid
    simp only [Channel.form, List.forall_mem_cons] at dated
    obtain ⟨created, updated, -⟩ := dated
    have whole := Fields.ReadsBack.map Channel.mk (.required "id" (uuid_readsBack channel.id))
      |>.seq (.required "user_id" (uuid_readsBack channel.userId))
      |>.seq (.required "channel_type" (named_readsBack channel.kind))
      |>.seq (.required "target" (text_readsBack channel.target))
      |>.seq (.required "is_enabled" (bool_readsBack channel.enabled))
      |>.seq (.required "is_verified" (bool_readsBack channel.verified))
      |>.seq (.required "created_at" (instant_readsBack created))
      |>.seq (.required "updated_at" (instant_readsBack updated))
    exact ⟨_, rfl, whole⟩
  spelled {find channel} assembled := by
    simp only [Channel.form, Channel.fields, Fields.seq_ok, Fields.map_ok] at assembled
    iterate 5 obtain ⟨_, _, assembled, -, rfl⟩ := assembled
    obtain ⟨_, kind, ⟨_, _, ⟨_, -, rfl⟩, -, rfl⟩, kinds, rfl⟩ := assembled
    simp only [Channel.form, List.forall_mem_cons]
    exact ⟨NamedField.spelled_required kinds, nofun⟩

def Profile.form : RecordForm Profile where
  write := Profile.toJson
  fields := Profile.fields
  instants profile := [profile.createdAt, profile.updatedAt]
  integers _ := []
  named := []

private theorem Profile.form_lawful : Profile.form.Lawful where
  distinct := by decide
  written {profile} valid := by
    obtain ⟨dated, -⟩ := valid
    simp only [Profile.form, List.forall_mem_cons] at dated
    obtain ⟨created, updated, -⟩ := dated
    have whole := Fields.ReadsBack.map Profile.mk (.required "id" (uuid_readsBack profile.id))
      |>.seq (.required "email" (text_readsBack profile.email))
      |>.seq (.nullable "first_name" (textOrNull_readsBack profile.firstName))
      |>.seq (.nullable "last_name" (textOrNull_readsBack profile.lastName))
      |>.seq (.required "role" (text_readsBack profile.role))
      |>.seq (.required "created_at" (instant_readsBack created))
      |>.seq (.required "updated_at" (instant_readsBack updated))
    exact ⟨_, rfl, whole⟩
  spelled _ := nofun

def TokenPair.form : RecordForm TokenPair where
  write := TokenPair.toJson
  fields := TokenPair.fields
  instants _ := []
  integers pair := [pair.expiresIn]
  named := []

private theorem TokenPair.form_lawful : TokenPair.form.Lawful where
  distinct := by decide
  written {pair} valid := by
    have whole :=
      Fields.ReadsBack.map TokenPair.mk (.required "access_token" (text_readsBack pair.accessToken))
      |>.seq (.required "refresh_token" (text_readsBack pair.refreshToken))
      |>.seq (.required "expires_in" (int64_readsBack (valid.2 _ List.mem_cons_self)))
    exact ⟨_, rfl, whole⟩
  spelled _ := nofun

def TemplateData.form : RecordForm TemplateData where
  write := TemplateData.toJson
  fields := TemplateData.fields
  instants data := data.startedAt.toList ++ data.resolvedAt.toList ++ data.scheduledStart.toList ++
    data.scheduledEnd.toList
  integers _ := []
  named := []

private theorem TemplateData.form_lawful : TemplateData.form.Lawful where
  distinct := by decide
  written {data} valid := by
    obtain ⟨dated, -⟩ := valid
    simp only [TemplateData.form, List.forall_mem_append, Option.mem_toList] at dated
    obtain ⟨⟨⟨started, resolved⟩, starts⟩, ends⟩ := dated
    have whole :=
      Fields.ReadsBack.map TemplateData.mk
        (.omissible "service_name" (textOrNull_readsBack data.serviceName))
      |>.seq (.omissible "service_group_name" (textOrNull_readsBack data.serviceGroupName))
      |>.seq (.omissible "started_at" (instantOrNull_readsBack started))
      |>.seq (.omissible "resolved_at" (instantOrNull_readsBack resolved))
      |>.seq (.omissible "scheduled_start" (instantOrNull_readsBack starts))
      |>.seq (.omissible "scheduled_end" (instantOrNull_readsBack ends))
    exact ⟨_, rfl, whole⟩
  spelled _ := nofun

def RenderedTemplate.form : RecordForm RenderedTemplate where
  write := RenderedTemplate.toJson
  fields := RenderedTemplate.fields
  instants _ := []
  integers _ := []
  named := []

private theorem RenderedTemplate.form_lawful : RenderedTemplate.form.Lawful where
  distinct := by decide
  written {rendered} _ := by
    have whole :=
      Fields.ReadsBack.map RenderedTemplate.mk (.required "title" (text_readsBack rendered.title))
      |>.seq (.required "body" (text_readsBack rendered.body))
    exact ⟨_, rfl, whole⟩
  spelled _ := nofun

def Claims.form : RecordForm Claims where
  write := Claims.toJson
  fields := Claims.fields
  instants _ := []
  integers claims := [claims.expires, claims.issued]
  named := []

private theorem Claims.form_lawful : Claims.form.Lawful where
  distinct := by decide
  written {claims} valid := by
    obtain ⟨-, bounded⟩ := valid
    simp only [Claims.form, List.forall_mem_cons] at bounded
    obtain ⟨expires, issued, -⟩ := bounded
    exact ⟨_, rfl, claims.readsBack ⟨expires, issued⟩⟩
  spelled _ := nofun

inductive Schema where
  | event
  | eventUpdate
  | eventTemplate
  | channel
  | profile
  | tokenPair
  | templateData
  | renderedTemplate
  | claims

namespace Schema

def Value : Schema → Type
  | event => Event
  | eventUpdate => EventUpdate
  | eventTemplate => EventTemplate
  | channel => Channel
  | profile => Profile
  | tokenPair => TokenPair
  | templateData => TemplateData
  | renderedTemplate => RenderedTemplate
  | claims => Claims

def form : (schema : Schema) → RecordForm schema.Value
  | event => Event.form
  | eventUpdate => EventUpdate.form
  | eventTemplate => EventTemplate.form
  | channel => Channel.form
  | profile => Profile.form
  | tokenPair => TokenPair.form
  | templateData => TemplateData.form
  | renderedTemplate => RenderedTemplate.form
  | claims => Claims.form

private theorem form_lawful (schema : Schema) : schema.form.Lawful := by
  cases schema with
  | event => exact Event.form_lawful
  | eventUpdate => exact EventUpdate.form_lawful
  | eventTemplate => exact EventTemplate.form_lawful
  | channel => exact Channel.form_lawful
  | profile => exact Profile.form_lawful
  | tokenPair => exact TokenPair.form_lawful
  | templateData => exact TemplateData.form_lawful
  | renderedTemplate => exact RenderedTemplate.form_lawful
  | claims => exact Claims.form_lawful

/-- What is written is read back; members may be moved and others put between them; and the name in
a field is one of the names for it. -/
theorem forms_read_back (schema : Schema) :
    (∀ value : schema.Value,
      schema.form.Valid value → schema.form.decode (schema.form.encode value) = some value) ∧
    (∀ {text text' : Bytes} {members members' : List (Option String × Json)}
      {extras : List (String × Json)},
      Json.parse text = ⟨.record members, false⟩ →
      Json.parse text' = ⟨.record members', false⟩ →
      members'.Perm (members ++ extras.map fun (key, value) => (some key, value)) →
      (∀ extra ∈ extras, extra.1 ∉ schema.form.fields.names ∧ extra.2.isWhole = true) →
      schema.form.decode text' = schema.form.decode text) ∧
    (∀ {text : Bytes} {value : schema.Value}, schema.form.decode text = some value →
      ∀ field ∈ schema.form.named,
        field.Spelled value fun j =>
          (field.key, j) ∈ Json.stated schema.form.fields.names (Json.parse text).value) :=
  ⟨fun _ valid => schema.form_lawful.decode_encode valid, RecordForm.decode_rearranged,
    fun decoded _ member => schema.form_lawful.decode_spelled decoded member⟩

def diskTemplate : EventTemplate :=
  ⟨.ofNat 1, "disk", .incident, "Disk full", "We are on it.", ⟨1709285400, 0⟩,
    ⟨1709285400, 0⟩⟩

private theorem diskTemplate_valid : EventTemplate.form.Valid diskTemplate := ⟨by decide, nofun⟩

/-- The members for this template from the last to the first, after one of another name. -/
def commentedEntries : List (String × Json) :=
  (diskTemplate.entries (named EventKind.incident) ++ [("comment", Json.null)]).reverse

theorem disk_template_read_back :
    EventTemplate.form.decode (EventTemplate.form.encode diskTemplate) = some diskTemplate ∧
      EventTemplate.form.decode (Json.object commentedEntries).write = some diskTemplate ∧
      ∀ j, ("type", j) ∈
        Json.stated EventTemplate.form.fields.names (Json.object commentedEntries) →
        j = .str "incident" ∨ j = .object [("incident", .null)] := by
  obtain ⟨readBack, rearranged, spelled⟩ := forms_read_back .eventTemplate
  have plain : ∀ member ∈ diskTemplate.entries (named EventKind.incident), Plain member.2 :=
    (diskTemplate.entries_readBack diskTemplate_valid (named_readsBack EventKind.incident)).plain
  have plain' : ∀ member ∈ commentedEntries, Plain member.2 := by
    intro member there
    rcases List.mem_append.mp (List.mem_reverse.mp there) with old | new
    · exact plain member old
    · cases List.mem_singleton.mp new
      exact .null
  have parsed : Json.parse (EventTemplate.form.encode diskTemplate) =
      ⟨diskTemplate.toJson, false⟩ :=
    Json.parse_write (.object _ plain)
  have parsed' : Json.parse (Json.object commentedEntries).write =
      ⟨.object commentedEntries, false⟩ :=
    Json.parse_write (.object _ plain')
  have first : EventTemplate.form.decode (EventTemplate.form.encode diskTemplate) =
      some diskTemplate :=
    readBack diskTemplate diskTemplate_valid
  have perm : (commentedEntries.map fun (key, value) => (some key, value)).Perm
      ((diskTemplate.entries (named EventKind.incident)).map (fun (key, value) =>
        (some key, value)) ++
        [("comment", Json.null)].map fun (key, value) => (some key, value)) := by
    rw [← List.map_append, commentedEntries]
    exact (List.reverse_perm _).map _
  have second : EventTemplate.form.decode (Json.object commentedEntries).write =
      some diskTemplate :=
    (rearranged parsed parsed' perm (by decide)).trans first
  have names := spelled second _ List.mem_cons_self
  rw [parsed'] at names
  exact ⟨first, second, (names.given "incident" rfl).2.2⟩

/-- The kind of a template is also read from an object, which is no text. -/
theorem kind_read_from_object :
    EventTemplate.form.decode
      (Json.object (diskTemplate.entries (.object [("incident", .null)]))).write =
        some diskTemplate ∧
      ∀ text, Json.object [("incident", .null)] ≠ .str text := by
  have plain : Plain (.object [("incident", .null)]) := .object _ (by simp [Plain.null])
  have kind : ReadsBack readNamed (.object [("incident", .null)]) EventKind.incident :=
    ⟨plain, readNamed_eq_ok.mpr (.inr rfl)⟩
  exact ⟨EventTemplate.form_lawful.decode_object (diskTemplate.entries_readBack
    diskTemplate_valid kind), nofun⟩

end Schema

end StatusPage
