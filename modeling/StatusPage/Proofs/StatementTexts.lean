import StatusPage.Database.Script
import StatusPage.Proofs.DatabaseTalks

/-!
What callers provide never gets into the text of a statement. A talk is looked at with all values
blotted out: what is left of it is the same for all calls of one method, so the values decide
nothing about which texts are sent. And each text has as many numbered places as there are values.
-/

set_option autoImplicit false

namespace StatusPage.Database

open Store (Call)

/-! ### Talks without their values -/

def Statement.blank (statement : Statement) : Statement :=
  { statement with params := statement.params.map fun _ => .null }

def Command.blank : Command → Command
  | .perform statement => .perform statement.blank
  | command => command

@[simp] theorem Command.blank_perform (statement : Statement) :
    (Command.perform statement).blank = .perform statement.blank := rfl

/-- A database that looks at the texts of statements alone. -/
def Server.Blind {σ : Type} (server : Server σ) : Prop :=
  ∀ command state, server.answer command.blank state = server.answer command state

namespace Exchange

variable {σ α β : Type}

def blank : Exchange α → Exchange α
  | .done value => .done value
  | .send command next => .send command.blank fun answer => (next answer).blank

private theorem blank_bind (talk : Exchange α) (next : α → Exchange β) :
    (talk.bind next).blank = talk.blank.bind fun value => (next value).blank := by
  induction talk with
  | done value => rfl
  | send command rest ih =>
      simp only [bind, blank]
      congr 1
      funext answer
      exact ih answer

/-- Against a database that looks at texts alone, a talk sends the texts of the blotted talk. -/
theorem run_blank {server : Server σ} (blind : server.Blind) (talk : Exchange α) (state : σ) :
    (talk.run server state).2.map Command.blank = (talk.blank.run server state).2 := by
  induction talk generalizing state with
  | done value => rfl
  | send command next ih =>
      simp only [run, blank, List.map_cons, ih]
      exact congrArg (fun reply : Answer × σ =>
        command.blank :: ((next reply.1).blank.run server reply.2).2)
        (blind command state).symm

end Exchange

/-! ### The same texts -/

namespace Work

variable {α β : Type} {work work' : Work α} {statement statement' : Statement}

/-- Two works that send the same texts and make the same of every answer. -/
def Alike (work work' : Work α) : Prop := work.run.blank = work'.run.blank

theorem Alike.refl (work : Work α) : work.Alike work := rfl

theorem Alike.bind {next next' : α → Work β} (first : work.Alike work')
    (later : ∀ value, (next value).Alike (next' value)) :
    Alike (work >>= next) (work' >>= next') := by
  change (work.run.bind (ExceptT.bindCont next)).blank =
    (work'.run.bind (ExceptT.bindCont next')).blank
  rw [Exchange.blank_bind, Exchange.blank_bind, first]
  congr 1
  funext result
  cases result with
  | ok value => exact later value
  | error e => rfl

private theorem affected_alike (same : statement.blank = statement'.blank) :
    (affected statement).Alike (affected statement') := by
  unfold Alike
  rw [affected_run, affected_run]
  simp only [Exchange.blank, Command.blank_perform, same]

private theorem firstRow?_alike (same : statement.blank = statement'.blank)
    (read : Row → Except Error α) :
    (firstRow? statement read).Alike (firstRow? statement' read) := by
  unfold Alike
  rw [firstRow?_run, firstRow?_run]
  simp only [Exchange.blank, Command.blank_perform, same]

private theorem firstRow_alike (same : statement.blank = statement'.blank)
    (read : Row → Except Error α) :
    (firstRow statement read).Alike (firstRow statement' read) := by
  unfold Alike
  rw [firstRow_run, firstRow_run]
  simp only [Exchange.blank, Command.blank_perform, same]

private theorem request_alike (same : statement.blank = statement'.blank) :
    (request (.perform statement)).Alike (request (.perform statement')) := by
  change Exchange.send _ _ = Exchange.send _ _
  simp only [Command.blank_perform, same]

private theorem allRows_alike (same : statement.blank = statement'.blank)
    (read : Row → Except Error α) :
    (allRows statement read).Alike (allRows statement' read) :=
  (request_alike same).bind fun _ => .refl _

private theorem changeRow_alike (same : statement.blank = statement'.blank) :
    (changeRow statement).Alike (changeRow statement') :=
  (affected_alike same).bind fun _ => .refl _

private theorem transaction_alike (same : work.Alike work') (keep : α → Bool) :
    (transaction keep work).Alike (transaction keep work') := by
  unfold Alike
  rw [transaction_run, transaction_run]
  simp only [Exchange.blank]
  congr 1
  funext answer
  cases answer with
  | error refusal => rfl
  | ok begun =>
      simp only
      rw [Exchange.blank_bind, Exchange.blank_bind, same]

private theorem whenNeeded_alike {needed needed' : Bool} {rest : Work β} (agree : needed = needed')
    (same : work.Alike work') :
    Alike (if needed then (do let _ ← work; rest) else rest)
      (if needed' then (do let _ ← work'; rest) else rest) := by
  subst agree
  cases needed with
  | false => exact .refl rest
  | true => exact same.bind fun _ => .refl rest

end Work

/-! ### What is sent at all -/

namespace Exchange

variable {σ α β : Type}

/-- All statements that a talk may send, whatever the answers are. -/
def Sends (allowed : Statement → Prop) : Exchange α → Prop
  | .done _ => True
  | .send command next => (∀ statement, command = .perform statement → allowed statement) ∧
      ∀ answer, (next answer).Sends allowed

theorem Sends.bind {allowed : Statement → Prop} {talk : Exchange α} {next : α → Exchange β}
    (first : talk.Sends allowed) (later : ∀ value, (next value).Sends allowed) :
    (talk.bind next).Sends allowed := by
  induction talk with
  | done value => exact later value
  | send command rest ih => exact ⟨first.1, fun answer => ih answer (first.2 answer)⟩

theorem Sends.sent {allowed : Statement → Prop} {talk : Exchange α} (sends : talk.Sends allowed)
    (server : Server σ) (state : σ) :
    ∀ statement, .perform statement ∈ (talk.run server state).2 → allowed statement := by
  induction talk generalizing state with
  | done value =>
      intro statement member
      cases member
  | send command next ih =>
      intro statement member
      simp only [run] at member
      rcases List.mem_cons.mp member with now | later
      · exact sends.1 statement now.symm
      · exact ih _ (sends.2 _) _ statement later

end Exchange

namespace Work

variable {α β : Type} {allowed : Statement → Prop} {work : Work α} {statement : Statement}

private theorem sends_bind {next : α → Work β} (first : work.run.Sends allowed)
    (later : ∀ value, (next value).run.Sends allowed) : (work >>= next).run.Sends allowed := by
  change (work.run.bind (ExceptT.bindCont next)).Sends allowed
  apply first.bind
  intro result
  cases result with
  | ok value => exact later value
  | error e => trivial

private theorem sends_request (permitted : allowed statement) :
    (request (.perform statement)).run.Sends allowed := by
  refine ⟨?_, fun answer => ?_⟩
  · rintro _ ⟨⟩
    exact permitted
  · cases answer <;> trivial

private theorem sends_affected (permitted : allowed statement) :
    (affected statement).run.Sends allowed :=
  sends_bind (sends_request permitted) fun _ => trivial

private theorem sends_firstRow? (permitted : allowed statement) (read : Row → Except Error α) :
    (firstRow? statement read).run.Sends allowed := by
  rw [firstRow?_run]
  refine ⟨?_, fun _ => trivial⟩
  rintro _ ⟨⟩
  exact permitted

private theorem sends_firstRow (permitted : allowed statement) (read : Row → Except Error α) :
    (firstRow statement read).run.Sends allowed := by
  rw [firstRow_run]
  refine ⟨?_, fun _ => trivial⟩
  rintro _ ⟨⟩
  exact permitted

private theorem sends_allRows (permitted : allowed statement) (read : Row → Except Error α) :
    (allRows statement read).run.Sends allowed :=
  sends_bind (sends_request permitted) fun _ => trivial

private theorem sends_changeRow (permitted : allowed statement) :
    (changeRow statement).run.Sends allowed := by
  apply sends_bind (sends_affected permitted)
  intro count
  split <;> trivial

private theorem sends_transaction (sends : work.run.Sends allowed) (keep : α → Bool) :
    (transaction keep work).run.Sends allowed := by
  rw [transaction_run]
  refine ⟨nofun, fun answer => ?_⟩
  cases answer with
  | error refusal => trivial
  | ok begun =>
      apply sends.bind
      intro result
      cases result with
      | error e => exact ⟨nofun, fun _ => trivial⟩
      | ok value =>
          refine ⟨?_, fun answer => ?_⟩
          · intro statement same
            cases kept : keep value <;> (rw [kept] at same; cases same)
          · cases answer with
            | ok reply => trivial
            | error refusal => exact ⟨nofun, fun _ => trivial⟩

end Work

/-! ### Texts and their places -/

def isDigit (b : UInt8) : Bool := Text.ascii '0' ≤ b && b ≤ Text.ascii '9'

def numberAhead (text : Text.Bytes) : Nat :=
  (text.takeWhile isDigit).foldl (fun number digit =>
    10 * number + (digit - Text.ascii '0').toNat) 0

def highestPlace : Text.Bytes → Nat
  | [] => 0
  | b :: rest =>
    if b = Text.ascii '$' then max (numberAhead rest) (highestPlace rest) else highestPlace rest

example : highestPlace (Text.utf8 "a = $2::text OR b = $13") = 13 := by decide +kernel

/-- There are as many values as the highest place says. -/
def Statement.Filled (statement : Statement) : Prop :=
  statement.params.length = highestPlace (Text.utf8 statement.text)

instance (statement : Statement) : Decidable statement.Filled := inferInstanceAs (Decidable (_ = _))

private theorem Statement.filled_blank {statement : Statement} :
    statement.blank.Filled ↔ statement.Filled := by
  unfold Filled blank
  rw [List.length_map]

/-- The statements that link an event or a subscription to its services,
as far as their texts tell. -/
def Statement.LinksServices (statement : Statement) : Prop :=
  ∃ id serviceIds, statement.text = (linkEventServices id serviceIds).text ∨
    statement.text = (linkSubscriptionServices id serviceIds).text

def anyId : Uuid := .ofNat 0

/-- A statement that has its values and links nothing. -/
def Statement.Plain (statement : Statement) : Prop :=
  statement.Filled ∧ statement.text ≠ (linkEventServices anyId []).text ∧
    statement.text ≠ (linkSubscriptionServices anyId []).text

instance (statement : Statement) : Decidable statement.Plain :=
  inferInstanceAs (Decidable (_ ∧ _))

private theorem Statement.filled_of_blank {statement sample : Statement}
    (same : statement.blank = sample.blank) (filled : sample.Filled) : statement.Filled := by
  rw [← filled_blank, same, filled_blank]
  exact filled

/-- The values do not matter, so a sample tells. -/
theorem Statement.plain_of_blank {statement sample : Statement}
    (same : statement.blank = sample.blank) (plain : sample.Plain) : statement.Plain := by
  have sameText : statement.blank.text = sample.blank.text := by rw [same]
  refine ⟨filled_of_blank same plain.1, ?_⟩
  change statement.text = sample.text at sameText
  rw [sameText]
  exact plain.2

private theorem Statement.Plain.links_nothing {statement : Statement} (plain : statement.Plain) :
    ¬ statement.LinksServices := by
  rintro ⟨id, serviceIds, event | subscription⟩
  · exact plain.2.1 event
  · exact plain.2.2 subscription

def linkedServices : Call → List Uuid
  | .createEvent new => new.serviceIds
  | .setSubscription _ serviceIds => serviceIds
  | _ => []

/-- A statement that has its values, and that links services only if there are some. -/
def Sound (call : Call) (statement : Statement) : Prop :=
  statement.Filled ∧ (statement.LinksServices → linkedServices call ≠ [])

private theorem sound_of_sample {call : Call} {statement : Statement} (sample : Statement)
    (plain : sample.Plain) (same : statement.blank = sample.blank := by rfl) :
    Sound call statement := by
  have alike := Statement.plain_of_blank same plain
  exact ⟨alike.1, fun links => absurd links alike.links_nothing⟩

/-! ### The calls -/

private theorem createEvent_alike {new new' : NewEvent}
    (agree : new.serviceIds.isEmpty = new'.serviceIds.isEmpty) :
    (createEvent new).Alike (createEvent new') := by
  unfold createEvent writeEvent
  apply Work.transaction_alike
  apply Work.Alike.bind
  · exact Work.firstRow_alike rfl _
  · intro id
    exact Work.whenNeeded_alike (congrArg Bool.not agree) (Work.affected_alike rfl)

private theorem setSubscription_alike (userId userId' : Uuid) {serviceIds serviceIds' : List Uuid}
    (agree : serviceIds.isEmpty = serviceIds'.isEmpty) :
    (setSubscription userId serviceIds).Alike (setSubscription userId' serviceIds') := by
  unfold setSubscription writeSubscription
  apply Work.transaction_alike
  apply Work.Alike.bind
  · exact Work.firstRow_alike rfl _
  · intro id
    apply (Work.Alike.refl _).bind
    intro _
    exact Work.whenNeeded_alike (congrArg Bool.not agree) (Work.affected_alike rfl)

private theorem recordUpdate_alike (eventId eventId' : Uuid) (new new' : NewUpdate) :
    (recordUpdate eventId new).Alike (recordUpdate eventId' new') := by
  unfold recordUpdate writeUpdate
  apply Work.Alike.bind
  · apply Work.transaction_alike
    apply Work.Alike.bind
    · exact Work.firstRow?_alike rfl _
    · intro found
      cases found with
      | none => exact .refl _
      | some event =>
          apply Work.Alike.bind
          · exact Work.firstRow_alike rfl _
          · exact fun _ => .refl _
  · exact fun _ => .refl _

private theorem sends_link {α : Type} {call : Call} {statement : Statement} {rest : Work α}
    (sample : Statement) (filled : sample.Filled) (same : statement.blank = sample.blank)
    (after : rest.run.Sends (Sound call)) :
    (if !(linkedServices call).isEmpty then (do let _ ← Work.affected statement; rest)
      else rest : Work α).run.Sends
      (Sound call) := by
  cases empty : (linkedServices call).isEmpty with
  | true => exact after
  | false =>
      apply Work.sends_bind
      · apply Work.sends_affected
        refine ⟨Statement.filled_of_blank same filled, fun _ none => ?_⟩
        rw [none] at empty
        cases empty
      · exact fun _ => after

private theorem createEvent_sends (new : NewEvent) :
    (createEvent new).run.Sends (Sound (.createEvent new)) := by
  unfold createEvent writeEvent
  apply Work.sends_transaction
  apply Work.sends_bind
  · apply Work.sends_firstRow
    exact sound_of_sample
      (insertEvent ⟨"", .incident, .resolved, none, "", none, none, none, false,
        none, anyId, []⟩)
      (by decide +kernel)
  · intro id
    have selected :
        (Work.firstRow (selectEvent id) readEvent).run.Sends (Sound (.createEvent new)) :=
      Work.sends_firstRow (sound_of_sample (selectEvent anyId) (by decide +kernel)) _
    exact sends_link (linkEventServices anyId []) (by decide +kernel) rfl selected

private theorem setSubscription_sends (userId : Uuid) (serviceIds : List Uuid) :
    (setSubscription userId serviceIds).run.Sends (Sound (.setSubscription userId serviceIds)) := by
  unfold setSubscription writeSubscription
  apply Work.sends_transaction
  apply Work.sends_bind
  · exact Work.sends_firstRow (sound_of_sample (insertSubscription anyId) (by decide +kernel)) _
  · intro id
    apply Work.sends_bind
    · exact Work.sends_affected
        (sound_of_sample (unlinkSubscriptionServices anyId) (by decide +kernel))
    · intro _
      have selected : (Work.firstRow (selectSubscription id) readSubscription).run.Sends
          (Sound (.setSubscription userId serviceIds)) :=
        Work.sends_firstRow (sound_of_sample (selectSubscription anyId) (by decide +kernel)) _
      exact sends_link (linkSubscriptionServices anyId []) (by decide +kernel) rfl selected

private theorem recordUpdate_sends (eventId : Uuid) (new : NewUpdate) :
    (recordUpdate eventId new).run.Sends (Sound (.recordUpdate eventId new)) := by
  unfold recordUpdate writeUpdate
  apply Work.sends_bind
  · apply Work.sends_transaction
    apply Work.sends_bind
    · exact Work.sends_firstRow?
        (sound_of_sample (updateEventStatus anyId ⟨.resolved, true⟩) (by decide +kernel)) _
    · intro found
      cases found with
      | none => trivial
      | some event =>
          apply Work.sends_bind
          · exact Work.sends_firstRow (sound_of_sample
              (insertEventUpdate anyId ⟨⟨.resolved, true⟩, "", false, anyId⟩)
              (by decide +kernel)) _
          · exact fun _ => trivial
  · intro written
    cases written <;> trivial

private theorem subscribersFor_sends (serviceIds : List Uuid) :
    (subscribersFor serviceIds).run.Sends (Sound (.subscribersFor serviceIds)) := by
  apply Work.sends_bind
  · exact Work.sends_allRows (sound_of_sample (selectChannelsFor []) (by decide +kernel)) _
  · exact fun _ => trivial

private theorem work_sends (call : Call) : (work call).run.Sends (Sound call) := by
  cases call with
  | createUser new =>
      exact Work.sends_firstRow
        (sound_of_sample (insertUser ⟨"", "", none, none, .user⟩) (by decide +kernel)) _
  | findUserById id =>
    exact Work.sends_firstRow (sound_of_sample (selectUserById anyId) (by decide +kernel)) _
  | findUserByEmail email =>
      exact Work.sends_firstRow (sound_of_sample (selectUserByEmail "") (by decide +kernel)) _
  | createRefreshToken new =>
      exact Work.sends_firstRow
        (sound_of_sample (insertRefreshToken ⟨anyId, "", ⟨0, 0⟩⟩) (by decide +kernel)) _
  | takeRefreshToken digest =>
      exact Work.sends_firstRow (sound_of_sample (takeRefreshTokenRow "") (by decide +kernel)) _
  | deleteRefreshToken digest =>
      apply Work.sends_bind
      · exact Work.sends_affected (sound_of_sample (deleteRefreshTokenRow "") (by decide +kernel))
      · exact fun _ => trivial
  | deleteUserRefreshTokens userId =>
      exact Work.sends_affected
        (sound_of_sample (deleteRefreshTokenRowsOf anyId) (by decide +kernel))
  | deleteExpiredRefreshTokens =>
      exact Work.sends_affected (sound_of_sample deleteExpiredRefreshTokenRows (by decide +kernel))
  | createEvent new => exact createEvent_sends new
  | findEvent id =>
    exact Work.sends_firstRow (sound_of_sample (selectEvent anyId) (by decide +kernel)) _
  | listEvents filter =>
      exact Work.sends_allRows
        (sound_of_sample (selectEvents ⟨none, none, none, none⟩) (by decide +kernel)) _
  | recordUpdate eventId new => exact recordUpdate_sends eventId new
  | listUpdates eventId =>
      exact Work.sends_allRows (sound_of_sample (selectEventUpdates anyId) (by decide +kernel)) _
  | deleteEvent id =>
    exact Work.sends_changeRow (sound_of_sample (deleteEventRow anyId) (by decide +kernel))
  | createTemplate new =>
      exact Work.sends_firstRow
        (sound_of_sample (insertTemplate ⟨"", .incident, "", ""⟩) (by decide +kernel)) _
  | findTemplate id =>
    exact Work.sends_firstRow (sound_of_sample (selectTemplate anyId) (by decide +kernel)) _
  | findTemplateBySlug slug =>
      exact Work.sends_firstRow (sound_of_sample (selectTemplateBySlug "") (by decide +kernel)) _
  | listTemplates =>
    exact Work.sends_allRows (sound_of_sample selectTemplates (by decide +kernel)) _
  | updateTemplate id change =>
      exact Work.sends_firstRow
        (sound_of_sample (updateTemplateRow anyId ⟨none, none, none⟩) (by decide +kernel)) _
  | deleteTemplate id =>
    exact Work.sends_changeRow (sound_of_sample (deleteTemplateRow anyId) (by decide +kernel))
  | addChannel new =>
      exact Work.sends_firstRow
        (sound_of_sample (insertChannel ⟨anyId, .email, "", false, false⟩)
          (by decide +kernel)) _
  | subscribersFor serviceIds => exact subscribersFor_sends serviceIds
  | findSubscription userId =>
      exact Work.sends_firstRow (sound_of_sample (selectSubscriptionOf anyId) (by decide +kernel)) _
  | setSubscription userId serviceIds => exact setSubscription_sends userId serviceIds
  | deleteSubscription userId =>
      exact Work.sends_changeRow (sound_of_sample (deleteSubscriptionRow anyId) (by decide +kernel))
  | ping =>
      apply Work.sends_bind
      · exact Work.sends_affected (sound_of_sample ⟨"SELECT 1", []⟩ (by decide +kernel))
      · exact fun _ => trivial

/-! ### The store -/

section

variable {σ : Type} {server : Server σ}

def commandsOf (server : Server σ) (state : σ) (call : Call) : List Command :=
  ((perform call).run server state).2

private theorem commandsOf_eq (server : Server σ) (state : σ) (call : Call) :
    commandsOf server state call = ((work call).run.run server state).2 := by
  change (((work call).run.bind fun result => .done (result.mapError Error.toStoreError)).run
    server state).2 = _
  generalize (work call).run = talk
  induction talk generalizing state with
  | done result => rfl
  | send command next ih => exact congrArg (command :: ·) (ih _ _)

end

/-- The texts for two calls are the same, whatever the answers are. -/
def SameTexts (call call' : Call) : Prop :=
  ∀ {σ : Type} {server : Server σ} (state : σ), server.Blind →
    (commandsOf server state call).map Command.blank =
      (commandsOf server state call').map Command.blank

private theorem sameTexts_of_alike {call call' : Call} {α : Type} (talk talk' : Work α)
    (alike : talk.Alike talk') (first : ∀ {σ : Type} (server : Server σ) (state : σ),
      ((work call).run.run server state).2 = (talk.run.run server state).2 := by intros; rfl)
    (second : ∀ {σ : Type} (server : Server σ) (state : σ),
      ((work call').run.run server state).2 = (talk'.run.run server state).2 := by intros; rfl) :
    SameTexts call call' := by
  intro σ server state blind
  rw [commandsOf_eq, commandsOf_eq, first, second, Exchange.run_blank blind,
    Exchange.run_blank blind]
  exact congrArg (fun talk : Exchange (Except Error α) => (talk.run server state).2) alike

private theorem sameTexts_of_method {call call' : Call} (same : call.method = call'.method)
    (agree : (linkedServices call).isEmpty = (linkedServices call').isEmpty) :
    SameTexts call call' := by
  -- Two different methods have two different names, so only the pairs of one method are left.
  cases call <;> cases call' <;> simp only [Call.method, String.reduceEq] at same
  case createUser.createUser new new' =>
      exact sameTexts_of_alike (createUser new) (createUser new') (Work.firstRow_alike rfl _)
  case findUserById.findUserById id id' =>
      exact sameTexts_of_alike (findUserById id) (findUserById id') (Work.firstRow_alike rfl _)
  case findUserByEmail.findUserByEmail email email' =>
      exact sameTexts_of_alike (findUserByEmail email) (findUserByEmail email')
        (Work.firstRow_alike rfl _)
  case createRefreshToken.createRefreshToken new new' =>
      exact sameTexts_of_alike (createRefreshToken new) (createRefreshToken new')
        (Work.firstRow_alike rfl _)
  case takeRefreshToken.takeRefreshToken digest digest' =>
      exact sameTexts_of_alike (takeRefreshToken digest) (takeRefreshToken digest')
        (Work.firstRow_alike rfl _)
  case deleteRefreshToken.deleteRefreshToken digest digest' =>
      exact sameTexts_of_alike (deleteRefreshToken digest) (deleteRefreshToken digest')
        ((Work.affected_alike rfl).bind fun _ => .refl _)
  case deleteUserRefreshTokens.deleteUserRefreshTokens userId userId' =>
      exact sameTexts_of_alike (deleteUserRefreshTokens userId) (deleteUserRefreshTokens userId')
        (Work.affected_alike rfl)
  case deleteExpiredRefreshTokens.deleteExpiredRefreshTokens =>
      exact sameTexts_of_alike deleteExpiredRefreshTokens deleteExpiredRefreshTokens (.refl _)
  case createEvent.createEvent new new' =>
      exact sameTexts_of_alike (createEvent new) (createEvent new') (createEvent_alike agree)
  case findEvent.findEvent id id' =>
      exact sameTexts_of_alike (findEvent id) (findEvent id') (Work.firstRow_alike rfl _)
  case listEvents.listEvents filter filter' =>
      exact sameTexts_of_alike (listEvents filter) (listEvents filter') (Work.allRows_alike rfl _)
  case recordUpdate.recordUpdate eventId new eventId' new' =>
      exact sameTexts_of_alike (recordUpdate eventId new) (recordUpdate eventId' new')
        (recordUpdate_alike eventId eventId' new new')
  case listUpdates.listUpdates eventId eventId' =>
      exact sameTexts_of_alike (listUpdates eventId) (listUpdates eventId')
        (Work.allRows_alike rfl _)
  case deleteEvent.deleteEvent id id' =>
      exact sameTexts_of_alike (deleteEvent id) (deleteEvent id') (Work.changeRow_alike rfl)
  case createTemplate.createTemplate new new' =>
      exact sameTexts_of_alike (createTemplate new) (createTemplate new')
        (Work.firstRow_alike rfl _)
  case findTemplate.findTemplate id id' =>
      exact sameTexts_of_alike (findTemplate id) (findTemplate id') (Work.firstRow_alike rfl _)
  case findTemplateBySlug.findTemplateBySlug slug slug' =>
      exact sameTexts_of_alike (findTemplateBySlug slug) (findTemplateBySlug slug')
        (Work.firstRow_alike rfl _)
  case listTemplates.listTemplates => exact sameTexts_of_alike listTemplates listTemplates (.refl _)
  case updateTemplate.updateTemplate id change id' change' =>
      exact sameTexts_of_alike (updateTemplate id change) (updateTemplate id' change')
        (Work.firstRow_alike rfl _)
  case deleteTemplate.deleteTemplate id id' =>
      exact sameTexts_of_alike (deleteTemplate id) (deleteTemplate id') (Work.changeRow_alike rfl)
  case addChannel.addChannel new new' =>
      exact sameTexts_of_alike (addChannel new) (addChannel new') (Work.firstRow_alike rfl _)
  case subscribersFor.subscribersFor serviceIds serviceIds' =>
      exact sameTexts_of_alike (subscribersFor serviceIds) (subscribersFor serviceIds')
        ((Work.allRows_alike rfl _).bind fun _ => .refl _)
  case findSubscription.findSubscription userId userId' =>
      exact sameTexts_of_alike (findSubscription userId) (findSubscription userId')
        (Work.firstRow_alike rfl _)
  case setSubscription.setSubscription userId serviceIds userId' serviceIds' =>
      exact sameTexts_of_alike (setSubscription userId serviceIds)
        (setSubscription userId' serviceIds')
        (setSubscription_alike userId userId' agree)
  case deleteSubscription.deleteSubscription userId userId' =>
      exact sameTexts_of_alike (deleteSubscription userId) (deleteSubscription userId')
        (Work.changeRow_alike rfl)
  case ping.ping => exact sameTexts_of_alike ping ping (.refl _)

/-- Calls of one method send the same texts, with the same number of values for each,
whatever else their callers provide. Each text has a place for each value, and services are
linked only if there are some. -/
theorem sent_texts_independent {σ : Type} {server : Server σ} (blind : server.Blind) (state : σ)
    {call call' : Call} (same : call.method = call'.method)
    (agree : (linkedServices call).isEmpty = (linkedServices call').isEmpty) :
    (commandsOf server state call).map Command.blank =
      (commandsOf server state call').map Command.blank ∧
      ∀ statement, .perform statement ∈ commandsOf server state call →
        statement.Filled ∧ (statement.LinksServices → linkedServices call ≠ []) := by
  constructor
  · exact sameTexts_of_method same agree state blind
  · intro statement sent
    rw [commandsOf_eq] at sent
    exact (work_sends call).sent server state statement sent

private theorem Script.server_blind (script : Script) : script.server.Blind := by
  intro command left
  cases command with
  | perform statement => cases left <;> rfl
  | _ => rfl

def subscribed : Script :=
  ⟨[.ok ⟨[[("id", .uuid anyId)]], 1⟩, .ok ⟨[], 0⟩, .ok ⟨[], 2⟩], none, none, none⟩

/-- Two users with services of their own; links are written for both. -/
theorem sent_texts_subscriptions :
    subscribed.server.Blind ∧
      .perform (linkSubscriptionServices anyId [.ofNat 5]) ∈
        commandsOf subscribed.server subscribed.replies (.setSubscription (.ofNat 1) [.ofNat 5]) ∧
      (commandsOf subscribed.server subscribed.replies (.setSubscription (.ofNat 1) [.ofNat 5])).map
        Command.blank =
        (commandsOf subscribed.server subscribed.replies
          (.setSubscription (.ofNat 2) [.ofNat 7, .ofNat 6])).map
          Command.blank ∧
      ∀ statement,
        .perform statement ∈
            commandsOf subscribed.server subscribed.replies
            (.setSubscription (.ofNat 1) [.ofNat 5]) →
          statement.Filled ∧
            (statement.LinksServices →
              linkedServices (.setSubscription (.ofNat 1) [.ofNat 5]) ≠ []) := by
  refine ⟨subscribed.server_blind, by decide +kernel, ?_⟩
  exact sent_texts_independent subscribed.server_blind subscribed.replies rfl rfl

end StatusPage.Database
