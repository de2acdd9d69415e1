import Mathlib.Data.List.Basic
import StatusPage.Proofs.Transactions

/-!
The first reply that fails decides. Each call of the store needs certain things of the replies to
its commands, one after the other. Up to the first reply that does not give what is needed all goes
as planned; after it nothing is sent but rollbacks, and the kind of this failure alone decides what
the caller is told. If no reply fails the call succeeds, unless it was to remove a row and there was
none.
-/

set_option autoImplicit false

namespace StatusPage.Database

open Store (Call)

/-! ### Rows that cannot be read -/

def Error.OfRow : Error → Prop
  | .columnNotFound _ | .unexpectedNull _ | .unexpectedType _ | .unknownName _ _ => True
  | _ => False

def Decodes {α : Type} (outcome : Except Error α) : Prop := ∀ e, outcome = .error e → e.OfRow

section

variable {α β : Type}

@[simp] theorem decodes_ok (a : α) : Decodes (.ok a : Except Error α) := nofun

@[simp] theorem decodes_pure (a : α) : Decodes (pure a : Except Error α) := nofun

@[simp] theorem decodes_error {e : Error} : Decodes (.error e : Except Error α) ↔ e.OfRow := by
  constructor
  · intro decodes
    exact decodes e rfl
  · rintro ofRow _ ⟨⟩
    exact ofRow

@[simp] theorem decodes_bind {first : Except Error α} {next : α → Except Error β} :
    Decodes (first >>= next) ↔ Decodes first ∧ ∀ a, first = .ok a → Decodes (next a) := by
  cases first with
  | ok a =>
      change Decodes (next a) ↔ _
      simp
  | error e =>
      change Decodes (.error e) ↔ _
      simp

@[simp] theorem decodes_map {outcome : Except Error α} {f : α → β} :
    Decodes (f <$> outcome) ↔ Decodes outcome := by
  cases outcome <;> simp

def Decoder.Sound (decoder : Decoder α) : Prop :=
  ∀ column value, Decodes (decoder.read column value)

private theorem Decoder.ofKind_sound (take : Value → Option α) :
    (Decoder.ofKind take).Sound := by
  intro column value
  unfold ofKind
  dsimp only
  split
  · exact decodes_error.mpr trivial
  · split
    · exact decodes_ok _
    · exact decodes_error.mpr trivial

@[simp] theorem Decoder.text_sound : Decoder.text.Sound := ofKind_sound _
@[simp] theorem Decoder.bool_sound : Decoder.bool.Sound := ofKind_sound _
@[simp] theorem Decoder.uuid_sound : Decoder.uuid.Sound := ofKind_sound _
@[simp] theorem Decoder.instant_sound : Decoder.instant.Sound := ofKind_sound _

@[simp] theorem Decoder.uuids_sound : Decoder.uuids.Sound := by
  intro column value
  unfold uuids
  dsimp only
  split
  · exact decodes_error.mpr trivial
  · split
    · exact decodes_ok _
    · exact decodes_error.mpr trivial
  · exact decodes_error.mpr trivial

@[simp] theorem Decoder.orNull_sound {decoder : Decoder α} (sound : decoder.Sound) :
    decoder.orNull.Sound := by
  intro column value
  unfold orNull
  dsimp only
  split
  · exact decodes_ok _
  · exact decodes_map.mpr (sound column _)

namespace Row

variable (row : Row) (column : String)

@[simp] theorem decodes_get {decoder : Decoder α} (sound : decoder.Sound) :
    Decodes (row.get column decoder) := by
  unfold get
  split
  · exact sound _ _
  · exact decodes_error.mpr trivial

private theorem decodes_first {decoder : Decoder α} (sound : decoder.Sound) :
    Decodes (row.first decoder) := by
  unfold first
  split
  · exact sound _ _
  · exact decodes_error.mpr trivial

@[simp] theorem decodes_readName [Named α] (text : String) :
    Decodes (readName column text : Except Error α) := by
  unfold readName
  cases (Named.ofName text : Except UnknownName α) <;> simp [Except.mapError, Error.OfRow]

@[simp] theorem decodes_getName [Named α] : Decodes (row.getName column : Except Error α) := by
  simp [getName]

@[simp] theorem decodes_getNameOrNull [Named α] :
    Decodes (row.getNameOrNull column : Except Error (Option α)) := by
  simp only [getNameOrNull, decodes_bind]
  refine ⟨by simp, ?_⟩
  rintro (_ | text) -
  · simp
  · simp

end Row

end

private theorem readUser_decodes (row : Row) : Decodes (readUser row) := by simp [readUser]

private theorem readRefreshToken_decodes (row : Row) : Decodes (readRefreshToken row) := by
  simp [readRefreshToken]

theorem readEvent_decodes (row : Row) : Decodes (readEvent row) := by simp [readEvent]

private theorem readEventUpdate_decodes (row : Row) : Decodes (readEventUpdate row) := by
  simp [readEventUpdate]

theorem readTemplate_decodes (row : Row) : Decodes (readTemplate row) := by simp [readTemplate]

private theorem readChannel_decodes (row : Row) : Decodes (readChannel row) := by simp [readChannel]

private theorem readSubscription_decodes (row : Row) : Decodes (readSubscription row) := by
  simp [readSubscription]

private theorem readId_decodes (row : Row) : Decodes (row.first Decoder.uuid) :=
  row.decodes_first Decoder.uuid_sound

/-! ### What is needed of a reply -/

def unreadable {α : Type} (read : Row → Except Error α) (row : Row) : Option Error :=
  match read row with
  | .ok _ => none
  | .error e => some e

inductive Failing where
  | refused (refusal : Refusal)
  | missingRow
  | undecoded (e : Error)

/-- What is needed of a reply: nothing but that it is one, a first row that can be read, or rows
that all can be read. -/
inductive Demand where
  | reply
  | firstRow (unreadable : Row → Option Error)
  | allRows (unreadable : Row → Option Error)

/-- What a transaction needs: its begin and its commit are replied to, and
its work has what it needs. -/
def transactional (demands : List Demand) : List Demand := .reply :: (demands ++ [.reply])

def linked (serviceIds : List Uuid) (demands : List Demand) : List Demand :=
  (if !serviceIds.isEmpty then [.reply] else []) ++ demands

def Demand.failing : Demand → Answer → Option Failing
  | _, .error refusal => some (.refused refusal)
  | .reply, .ok _ => none
  | .firstRow _, .ok ⟨[], _⟩ => some .missingRow
  | .firstRow unreadable, .ok ⟨row :: _, _⟩ => (unreadable row).map .undecoded
  | .allRows unreadable, .ok ⟨rows, _⟩ => (rows.findSome? unreadable).map .undecoded

/-- The first reply that fails its demand, with all that is said after it. -/
def firstFailing : List Demand → Transcript → Option (Failing × Transcript)
  | demand :: demands, (_, answer) :: said =>
      match demand.failing answer with
      | some failing => some (failing, said)
      | none => firstFailing demands said
  | _, _ => none

private theorem firstFailing_append_of_some {demands : List Demand} {said after : Transcript}
    {failing : Failing} (found : firstFailing demands said = some (failing, after))
    (others : List Demand) (more : Transcript) :
    firstFailing (demands ++ others) (said ++ more) = some (failing, after ++ more) := by
  induction demands generalizing said with
  | nil => cases found
  | cons demand demands ih =>
      cases said with
      | nil => cases found
      | cons entry said =>
          obtain ⟨command, answer⟩ := entry
          simp only [List.cons_append, firstFailing] at found ⊢
          cases fails : demand.failing answer with
          | none =>
              rw [fails] at found
              exact ih found
          | some failing =>
              rw [fails] at found
              cases found
              rfl

private theorem firstFailing_append_of_none {demands : List Demand} {said : Transcript}
    (met : firstFailing demands said = none) (length : said.length = demands.length)
    (others : List Demand) (more : Transcript) :
    firstFailing (demands ++ others) (said ++ more) = firstFailing others more := by
  induction demands generalizing said with
  | nil =>
      rw [List.length_eq_zero_iff.mp length]
      rfl
  | cons demand demands ih =>
      cases said with
      | nil => cases length
      | cons entry said =>
          obtain ⟨command, answer⟩ := entry
          simp only [List.cons_append, firstFailing] at met ⊢
          cases fails : demand.failing answer with
          | none =>
              rw [fails] at met
              exact ih met (Nat.succ.inj length)
          | some failing =>
              rw [fails] at met
              cases met

/-- What the caller is told of a failure. Two codes of refusals have a meaning for callers, and so
has a missing row; everything else, a lost connection included, is a failure of the backend. -/
inductive Failing.ToldAs : Failing → StoreError → Prop
  | exists (text : String) : ToldAs (.refused ⟨some "23505", text⟩) .alreadyExists
  | dangling (text : String) : ToldAs (.refused ⟨some "23503", text⟩) .notFound
  | refused {refusal : Refusal} (unique : refusal.code ≠ some "23505")
      (bound : refusal.code ≠ some "23503") :
      ToldAs (.refused refusal) (.backend (Error.refused refusal).message)
  | missingRow : ToldAs .missingRow .notFound
  | undecoded (e : Error) : ToldAs (.undecoded e) (.backend e.message)

private theorem toldAs_refused (refusal : Refusal) :
    (Failing.refused refusal).ToldAs (Error.refused refusal).toStoreError := by
  obtain ⟨code, text⟩ := refusal
  by_cases unique : code = some "23505"
  · subst unique
    exact .exists text
  · by_cases bound : code = some "23503"
    · subst bound
      exact .dangling text
    · have other :
          (Error.refused ⟨code, text⟩).toStoreError =
            .backend (Error.refused ⟨code, text⟩).message := by
        simp only [Error.toStoreError, uniqueViolation, foreignKeyViolation, unique,
          bound, if_false]
      rw [other]
      exact .refused unique bound

private theorem toldAs_undecoded {e : Error} (ofRow : e.OfRow) :
    (Failing.undecoded e).ToldAs e.toStoreError := by
  cases e with
  | columnNotFound | unexpectedNull | unexpectedType | unknownName => exact .undecoded _
  | _ => cases ofRow

/-! ### Work that its first failing reply decides -/

namespace Work

variable {α β : Type}

/-- Either all demands are met, and the work succeeds; or after the first reply that fails its
demand nothing but rollbacks is sent, and the work fails for this reply. -/
inductive Verdict (demands : List Demand) (said : Transcript) : Except Error α → Prop
  | met {value : α} (allMet : firstFailing demands said = none)
      (whole : said.length = demands.length) :
      Verdict demands said (.ok value)
  | failed {failing : Failing} {after : Transcript} {e : Error}
      (first : firstFailing demands said = some (failing, after))
      (silent : ∀ command ∈ after.commands, command = .rollback)
      (told : failing.ToldAs e.toStoreError) :
      Verdict demands said (.error e)

def DecidedBy (work : Work α) (demands : List Demand) : Prop :=
  ∀ ⦃said outcome⦄, work.run.Ends said outcome → Verdict demands said outcome

private theorem decidedBy_of_asked {work : Work α} {command : Command}
    {read : Answer → Except Error α} {demand : Demand}
    (asks : work.run = .send command fun answer => .done (read answer))
    (decides : ∀ answer, (∃ value, demand.failing answer = none ∧ read answer = .ok value) ∨
      ∃ failing e, demand.failing answer = some failing ∧ read answer = .error e ∧
        failing.ToldAs e.toStoreError) :
    work.DecidedBy [demand] := by
  intro said outcome ends
  rw [asks] at ends
  obtain ⟨answer, rfl, rfl⟩ := ends.of_asked
  rcases decides answer with ⟨value, meets, ok⟩ | ⟨failing, e, fails, error, told⟩
  · rw [ok]
    exact .met (by simp only [firstFailing, meets]) rfl
  · have first : firstFailing [demand] [(command, answer)] = some (failing, []) := by
      simp only [firstFailing, fails]
    rw [error]
    exact .failed first nofun told

private theorem affected_decided (statement : Statement) :
    (affected statement).DecidedBy [.reply] := by
  apply decidedBy_of_asked (affected_run statement)
  rintro (refusal | reply)
  · exact .inr ⟨_, _, rfl, rfl, toldAs_refused refusal⟩
  · exact .inl ⟨_, rfl, rfl⟩

theorem firstRow_decided (statement : Statement) {read : Row → Except Error α}
    (decodes : ∀ row, Decodes (read row)) :
    (firstRow statement read).DecidedBy [.firstRow (unreadable read)] := by
  apply decidedBy_of_asked (firstRow_run statement read)
  rintro (refusal | ⟨_ | ⟨row, others⟩, affected⟩)
  · exact .inr ⟨_, _, rfl, rfl, toldAs_refused refusal⟩
  · exact .inr ⟨_, _, rfl, rfl, .missingRow⟩
  · simp only [Demand.failing, readFirst, unreadable]
    cases found : read row with
    | ok value => exact .inl ⟨value, rfl, rfl⟩
    | error e => exact .inr ⟨_, e, rfl, rfl, toldAs_undecoded (decodes row e found)⟩

private theorem mapM_unreadable {read : Row → Except Error α}
    (decodes : ∀ row, Decodes (read row)) (rows : List Row) :
    (∃ values, rows.findSome? (unreadable read) = none ∧ rows.mapM read = .ok values) ∨
      ∃ e, rows.findSome? (unreadable read) = some e ∧
        rows.mapM read = .error e ∧ e.OfRow := by
  induction rows with
  | nil => exact .inl ⟨[], rfl, rfl⟩
  | cons row rows ih =>
      rw [List.findSome?_cons, List.mapM_cons, unreadable]
      cases found : read row with
      | error e => exact .inr ⟨e, rfl, rfl, decodes row e found⟩
      | ok value =>
          rcases ih with ⟨values, allRead, ok⟩ | ⟨e, first, error, ofRow⟩
          · exact .inl ⟨value :: values, allRead, by rw [ok]; rfl⟩
          · exact .inr ⟨e, first, by rw [error]; rfl, ofRow⟩

private theorem allRows_decided (statement : Statement) {read : Row → Except Error α}
    (decodes : ∀ row, Decodes (read row)) :
    (allRows statement read).DecidedBy [.allRows (unreadable read)] := by
  apply decidedBy_of_asked (allRows_run statement read)
  rintro (refusal | ⟨rows, affected⟩)
  · exact .inr ⟨_, _, rfl, rfl, toldAs_refused refusal⟩
  · simp only [Demand.failing]
    rcases mapM_unreadable decodes rows with
      ⟨values, allRead, ok⟩ | ⟨e, first, error, ofRow⟩
    · exact .inl ⟨values, by rw [allRead]; rfl, ok⟩
    · exact .inr ⟨_, e, by rw [first]; rfl, error, toldAs_undecoded ofRow⟩

private theorem pure_decided (value : α) : (pure value : Work α).DecidedBy [] := by
  intro said outcome ends
  obtain ⟨rfl, rfl⟩ := Exchange.Ends.of_done ends
  exact .met rfl rfl

theorem DecidedBy.bind {work : Work α} {next : α → Work β} {demands others : List Demand}
    (first : work.DecidedBy demands) (later : ∀ value, (next value).DecidedBy others) :
    (work >>= next).DecidedBy (demands ++ others) := by
  intro said outcome ends
  rcases ends_bind ends with ⟨front, rest, value, rfl, former, latter⟩ | ⟨e, former, rfl⟩
  · cases first former with
    | met allMet whole =>
        have shifted := firstFailing_append_of_none allMet whole others rest
        cases later value latter with
        | met restMet restWhole =>
            exact .met (shifted.trans restMet)
              (by rw [List.length_append, List.length_append, whole, restWhole])
        | failed failing silent told => exact .failed (shifted.trans failing) silent told
  · cases first former with
    | failed failing silent told =>
        have kept := firstFailing_append_of_some failing others []
        rw [List.append_nil, List.append_nil] at kept
        exact .failed kept silent told

theorem DecidedBy.map {work : Work α} {demands : List Demand} (decided : work.DecidedBy demands)
    (f : α → β) :
    (do return f (← work) : Work β).DecidedBy demands := by
  have whole := decided.bind fun value => pure_decided (f value)
  rwa [List.append_nil] at whole

private theorem DecidedBy.whenNeeded {rest : Work α} {demands : List Demand}
    (decided : rest.DecidedBy demands) (serviceIds : List Uuid) (statement : Statement) :
    DecidedBy (if !serviceIds.isEmpty then (do let _ ← affected statement; rest) else rest)
      (linked serviceIds demands) := by
  unfold linked
  cases serviceIds.isEmpty with
  | true => exact decided
  | false => exact (affected_decided statement).bind fun _ => decided

private theorem Verdict.close {keep : α → Bool} {demands : List Demand} {begun : Reply}
    {body closing : Transcript} {between result : Except Error α}
    (verdict : Verdict demands body between) (closes : Closes keep between closing result) :
    Verdict (transactional demands) ((.begin, .ok begun) :: (body ++ closing)) result := by
  -- The reply to the begin meets its demand, so what is left is the matter
  -- of the work and of the end.
  cases closes with
  | broken e answer =>
      cases verdict with
      | failed failing silent told =>
          refine .failed (firstFailing_append_of_some failing _ _) ?_ told
          simpa [or_imp, forall_and] using silent
  | finished value reply =>
      cases verdict with
      | met allMet whole =>
        exact .met (firstFailing_append_of_none allMet whole _ _) (by simp [transactional, whole])
  | unfinished value refusal answer =>
      cases verdict with
      | met allMet whole =>
          exact .failed (firstFailing_append_of_none allMet whole _ _) (by simp)
            (toldAs_refused refusal)

theorem DecidedBy.transaction {work : Work α} {demands : List Demand}
    (decided : work.DecidedBy demands) :
    (Work.transaction (fun _ => true) work).DecidedBy (transactional demands) := by
  intro said outcome ends
  rcases ends_transaction ends with ⟨refusal, rfl, rfl⟩ | ⟨begun, body, between, closing, rfl,
    working, closes⟩
  · exact .failed rfl nofun (toldAs_refused refusal)
  · exact (decided working).close closes

private theorem ends_affected_cases {statement : Statement} {said : Transcript}
    {outcome : Except Error Nat} (ends : (affected statement).run.Ends said outcome) :
    (∃ refusal, said = [(.perform statement, .error refusal)] ∧
      outcome = .error (.refused refusal)) ∨
      ∃ reply, said = [(.perform statement, .ok reply)] ∧ outcome = .ok reply.affected := by
  rw [affected_run] at ends
  obtain ⟨answer, rfl, rfl⟩ := ends.of_asked
  cases answer with
  | error refusal => exact .inl ⟨refusal, rfl, rfl⟩
  | ok reply => exact .inr ⟨reply, rfl, rfl⟩

end Work

/-! ### The calls of the store -/

/-- What a call needs of the replies, in their order. -/
def demands : Call → List Demand
  | .createUser _ | .findUserById _ | .findUserByEmail _ => [.firstRow (unreadable readUser)]
  | .createRefreshToken _ | .takeRefreshToken _ => [.firstRow (unreadable readRefreshToken)]
  | .deleteRefreshToken _ | .deleteUserRefreshTokens _ | .deleteExpiredRefreshTokens => [.reply]
  | .createEvent new =>
      transactional (.firstRow (unreadable fun row => row.first .uuid) ::
        linked new.serviceIds [.firstRow (unreadable readEvent)])
  | .findEvent _ => [.firstRow (unreadable readEvent)]
  | .listEvents _ => [.allRows (unreadable readEvent)]
  | .recordUpdate _ _ =>
      transactional [.firstRow (unreadable readEvent), .firstRow (unreadable readEventUpdate)]
  | .listUpdates _ => [.allRows (unreadable readEventUpdate)]
  | .createTemplate _ | .findTemplate _ | .findTemplateBySlug _ | .updateTemplate _ _ =>
      [.firstRow (unreadable readTemplate)]
  | .listTemplates => [.allRows (unreadable readTemplate)]
  | .addChannel _ => [.firstRow (unreadable readChannel)]
  | .subscribersFor _ => [.allRows (unreadable readChannel)]
  | .findSubscription _ => [.firstRow (unreadable readSubscription)]
  | .setSubscription _ serviceIds =>
      transactional (.firstRow (unreadable fun row => row.first .uuid) :: .reply ::
        linked serviceIds [.firstRow (unreadable readSubscription)])
  | .deleteEvent _ | .deleteTemplate _ | .deleteSubscription _ | .ping => [.reply]

/-- The failure that the caller is told of. It is the first one, but for an update of an event that
is not there: when the rollback that follows is refused as well, this refusal takes its place. -/
def decisive (call : Call) (said : Transcript) : Option Failing :=
  match call, said with
  | .recordUpdate _ _, (_, .ok _) :: (_, .ok ⟨[], _⟩) :: (_, .error refusal) :: _ =>
    some (.refused refusal)
  | _, _ => (firstFailing (demands call) said).map Prod.fst

def changedRows : Transcript → Nat
  | [(_, .ok reply)] => reply.affected
  | _ => 0

def removes : Call → Bool
  | .deleteEvent _ | .deleteTemplate _ | .deleteSubscription _ => true
  | _ => false

def counted : (call : Call) → Nat → Option call.Result
  | .deleteRefreshToken _, changed => some (decide (0 < changed))
  | .deleteUserRefreshTokens _, changed => some changed
  | .deleteExpiredRefreshTokens, changed => some changed
  | _, _ => none

/-- How a call ends when no reply fails. -/
inductive Finishes : (call : Call) → Nat → Except StoreError call.Result → Prop
  | counted {call : Call} {changed : Nat} {value : call.Result}
      (tells : counted call changed = some value) :
      Finishes call changed (.ok value)
  | removed {call : Call} {changed : Nat} (value : call.Result) (removes : removes call = true)
      (some : 0 < changed) : Finishes call changed (.ok value)
  | nothingRemoved {call : Call} (removes : removes call = true) :
      Finishes call 0 (.error .notFound)
  | plain {call : Call} {changed : Nat} (value : call.Result) (silent : counted call changed = none)
      (keeps : removes call = false) : Finishes call changed (.ok value)

/-- The first failing reply decides how a call ends. -/
structure Decided (call : Call) (said : Transcript)
    (result : Except StoreError call.Result) : Prop where
  silent : ∀ failing after, firstFailing (demands call) said = some (failing, after) →
    ∀ command ∈ after.commands, command = .rollback
  told : ∀ failing, decisive call said = some failing → ∃ e, failing.ToldAs e ∧
    result = .error e
  finished : firstFailing (demands call) said = none →
    said.length = (demands call).length ∧ Finishes call (changedRows said) result

theorem decided_of_verdict {call : Call} {said : Transcript} {outcome : Except Error call.Result}
    (verdict : Work.Verdict (demands call) said outcome)
    (decisive : decisive call said = (firstFailing (demands call) said).map Prod.fst)
    (finishes : ∀ value, outcome = .ok value → Finishes call (changedRows said) (.ok value)) :
    Decided call said (outcome.mapError Error.toStoreError) := by
  cases verdict with
  | @met value allMet whole =>
      refine ⟨?_, ?_, fun _ => ⟨whole, finishes value rfl⟩⟩
      · intro failing after found
        rw [allMet] at found
        cases found
      · intro failing found
        rw [decisive, allMet] at found
        cases found
  | @failed failing after e first silent told =>
      refine ⟨?_, ?_, ?_⟩
      · intro other rest found
        rw [first] at found
        cases found
        exact silent
      · intro other found
        rw [decisive, first] at found
        cases found
        exact ⟨_, told, rfl⟩
      · intro none
        rw [first] at none
        cases none

private theorem decided_of_affected {call : Call} {statement : Statement}
    {next : Nat → Work call.Result} {said : Transcript} {outcome : Except Error call.Result}
    (single : demands call = [.reply])
    (decisive : decisive call said = (firstFailing (demands call) said).map Prod.fst)
    (ends : (Work.affected statement >>= next).run.Ends said outcome)
    (finishes : ∀ changed last outcome, (next changed).run.Ends last outcome →
      last = [] ∧ Finishes call changed (outcome.mapError Error.toStoreError)) :
    Decided call said (outcome.mapError Error.toStoreError) := by
  rcases Work.ends_bind ends with
    ⟨first, last, changed, rfl, counting, following⟩ | ⟨e, counting, rfl⟩
  · rcases Work.ends_affected_cases counting with ⟨refusal, -, other⟩ | ⟨reply, rfl, same⟩
    · cases other
    · cases same
      obtain ⟨rfl, ending⟩ := finishes _ _ _ following
      have allMet :
          firstFailing (demands call) ([(.perform statement, .ok reply)] ++ []) = none := by
        rw [single]
        rfl
      refine ⟨?_, ?_, fun _ => ⟨by rw [single]; rfl, ending⟩⟩
      · intro failing after found
        rw [allMet] at found
        cases found
      · intro failing found
        rw [decisive, allMet] at found
        cases found
  · rcases Work.ends_affected_cases counting with ⟨refusal, rfl, same⟩ | ⟨reply, -, other⟩
    · cases same
      have first : firstFailing (demands call) [(.perform statement, .error refusal)] =
          some (.refused refusal, []) := by
        rw [single]
        rfl
      exact decided_of_verdict (.failed first nofun (toldAs_refused refusal)) decisive nofun
    · cases other

private theorem decided_of_removal {call : Call} {statement : Statement} {value : call.Result}
    {said : Transcript} {outcome : Except Error call.Result} (removing : removes call = true)
    (single : demands call = [.reply])
    (decisive : decisive call said = (firstFailing (demands call) said).map Prod.fst)
    (ends : (do
      if (← Work.affected statement) = 0 then throw .rowNotFound else pure value :
        Work call.Result).run.Ends said outcome) :
    Decided call said (outcome.mapError Error.toStoreError) := by
  refine decided_of_affected single decisive ends ?_
  intro changed last outcome following
  by_cases none : changed = 0
  · subst none
    obtain ⟨rfl, rfl⟩ := Exchange.Ends.of_done following
    exact ⟨rfl, .nothingRemoved removing⟩
  · rw [if_neg none] at following
    obtain ⟨rfl, rfl⟩ := Exchange.Ends.of_done following
    exact ⟨rfl, .removed value removing (Nat.pos_of_ne_zero none)⟩

private theorem affected_counts {statement : Statement} {said : Transcript} {count : Nat}
    (ends : (Work.affected statement).run.Ends said (.ok count)) : changedRows said = count := by
  rcases Work.ends_affected_cases ends with ⟨refusal, -, other⟩ | ⟨reply, rfl, same⟩
  · cases other
  · cases same
    rfl

theorem createEvent_decided (new : NewEvent) :
    (createEvent new).DecidedBy (demands (.createEvent new)) := by
  have written := (Work.firstRow_decided (insertEvent new) readId_decodes).bind fun id =>
    (Work.firstRow_decided (selectEvent id) readEvent_decodes).whenNeeded new.serviceIds
      (linkEventServices id new.serviceIds)
  exact Work.DecidedBy.transaction written

private theorem setSubscription_decided (userId : Uuid) (serviceIds : List Uuid) :
    (setSubscription userId serviceIds).DecidedBy
      (demands (.setSubscription userId serviceIds)) := by
  have written := (Work.firstRow_decided (insertSubscription userId) readId_decodes).bind fun id =>
    (Work.affected_decided (unlinkSubscriptionServices id)).bind fun _ =>
      (Work.firstRow_decided (selectSubscription id) readSubscription_decodes).whenNeeded serviceIds
        (linkSubscriptionServices id serviceIds)
  exact Work.DecidedBy.transaction written

/-! ### Updates of events -/

section

variable {eventId : Uuid} {new : NewUpdate}

/-- Either there is no such event, or the work of an update is decided by what
it needs of its two replies. -/
theorem writeUpdate_verdict {body : Transcript}
    {outcome : Except Error (Option (Event × EventUpdate))}
    (ends : (writeUpdate eventId new).run.Ends body outcome) :
    (∃ affected,
      body = [(.perform (updateEventStatus eventId new.change), .ok ⟨[], affected⟩)] ∧
      outcome = .ok none) ∨
      ∃ answer rest, body = (.perform (updateEventStatus eventId new.change), answer) :: rest ∧
        (∀ affected, answer ≠ .ok ⟨[], affected⟩) ∧ outcome ≠ .ok none ∧
          Work.Verdict [.firstRow (unreadable readEvent), .firstRow (unreadable readEventUpdate)]
            body outcome := by
  rcases Work.ends_bind ends with
    ⟨first, rest, found, rfl, changing, following⟩ | ⟨e, changing, rfl⟩
  · rw [Work.firstRow?_run] at changing
    obtain ⟨answer, rfl, same⟩ := changing.of_asked
    rcases answer with refusal | ⟨_ | ⟨row, others⟩, affected⟩
    · cases same
    · cases same
      obtain ⟨rfl, rfl⟩ := Exchange.Ends.of_done following
      exact .inl ⟨affected, rfl, rfl⟩
    · simp only [Work.readFirst?] at same
      cases read : readEvent row with
      | error e =>
          rw [read] at same
          cases same
      | ok event =>
          rw [read] at same
          cases same
          have inserted :=
            (Work.firstRow_decided (insertEventUpdate eventId new) readEventUpdate_decodes).map
            fun update => some (event, update)
          refine .inr ⟨_, rest, rfl, by simp, ?_, ?_⟩
          · rintro rfl
            obtain ⟨_, _, update, -, -, final⟩ := Work.ends_bind_ok following
            obtain ⟨-, other⟩ := Exchange.Ends.of_done final
            cases other
          · have skipped (more : Transcript) : firstFailing
                [.firstRow (unreadable readEvent), .firstRow (unreadable readEventUpdate)]
                ((.perform (updateEventStatus eventId new.change),
                  .ok ⟨row :: others, affected⟩) :: more) =
                  firstFailing [.firstRow (unreadable readEventUpdate)] more := by
              simp only [firstFailing, Demand.failing, unreadable, read, Option.map_none]
            cases inserted following with
            | met allMet whole => exact .met ((skipped rest).trans allMet) (congrArg Nat.succ whole)
            | failed failing silent told => exact .failed ((skipped rest).trans failing) silent told
  · rw [Work.firstRow?_run] at changing
    obtain ⟨answer, rfl, same⟩ := changing.of_asked
    refine .inr ⟨answer, [], rfl, ?_, by simp, ?_⟩
    · rintro affected rfl
      cases same
    · rcases answer with refusal | ⟨_ | ⟨row, others⟩, affected⟩
      · cases same
        have first : firstFailing [.firstRow (unreadable readEvent),
            .firstRow (unreadable readEventUpdate)]
            [(.perform (updateEventStatus eventId new.change), .error refusal)] =
              some (.refused refusal, []) := rfl
        exact .failed first (by simp) (toldAs_refused refusal)
      · cases same
      · simp only [Work.readFirst?] at same
        cases read : readEvent row with
        | ok event =>
            rw [read] at same
            cases same
        | error e' =>
            rw [read] at same
            cases same
            have first :
                firstFailing [.firstRow (unreadable readEvent),
                  .firstRow (unreadable readEventUpdate)]
                [(.perform (updateEventStatus eventId new.change),
                  .ok ⟨row :: others, affected⟩)] = some (.undecoded e, []) := by
              simp only [firstFailing, Demand.failing, unreadable, read, Option.map_some]
            exact .failed first (by simp) (toldAs_undecoded (readEvent_decodes row e read))

/-- There is no such event: what follows is the rollback, and what the caller is told is what
becomes of it. -/
theorem decided_missing {begun : Reply} {affected : Nat} {after : Transcript} {failing : Failing}
    {e : StoreError} {command : Command}
    (silent : ∀ command ∈ after.commands, command = .rollback)
    (decides : decisive (.recordUpdate eventId new)
      ((.begin, .ok begun) :: (command, .ok ⟨[], affected⟩) :: after) = some failing)
    (told : failing.ToldAs e) :
    Decided (.recordUpdate eventId new)
      ((.begin, .ok begun) :: (command, .ok ⟨[], affected⟩) :: after) (.error e) := by
  refine ⟨?_, ?_, nofun⟩
  · rintro _ _ ⟨⟩
    exact silent
  · intro other found
    cases decides.symm.trans found
    exact ⟨e, told, rfl⟩

/-- The event is there, so that the first failing reply is the decisive one. -/
theorem decided_present {begun : Reply} {command : Command} {answer : Answer} {rest : Transcript}
    {outcome : Except Error (Event × EventUpdate)}
    (present : ∀ affected, answer ≠ .ok ⟨[], affected⟩)
    (verdict : Work.Verdict (demands (.recordUpdate eventId new))
      ((.begin, .ok begun) :: (command, answer) :: rest) outcome) :
    Decided (.recordUpdate eventId new) ((.begin, .ok begun) :: (command, answer) :: rest)
      (outcome.mapError Error.toStoreError) := by
  refine decided_of_verdict verdict ?_ fun value _ => .plain value rfl rfl
  rcases answer with refusal | ⟨_ | ⟨row, others⟩, affected⟩
  · rfl
  · exact absurd rfl (present affected)
  · rfl

theorem recordUpdate_decided {said : Transcript} {outcome : Except Error (Event × EventUpdate)}
    (ends : (recordUpdate eventId new).run.Ends said outcome) :
    Decided (.recordUpdate eventId new) said (outcome.mapError Error.toStoreError) := by
  rcases Work.ends_bind ends with ⟨first, last, found, rfl,
    former, latter⟩ | ⟨e, former, rfl⟩
  · rcases Work.ends_transaction former with ⟨refusal, -, other⟩ | ⟨begun, body, between,
      closing, rfl, working, closes⟩
    · cases other
    · rcases writeUpdate_verdict working with ⟨affected, rfl, rfl⟩ | ⟨answer, rest, rfl,
        present, some, verdict⟩
      · cases closes with
        | finished found reply =>
            obtain ⟨rfl, rfl⟩ := Exchange.Ends.of_done latter
            exact decided_missing (by simp) rfl .missingRow
      · cases found with
        | none =>
            cases closes
            exact absurd rfl some
        | some pair =>
            obtain ⟨rfl, rfl⟩ := Exchange.Ends.of_done latter
            rw [List.append_nil]
            cases verdict.close closes with
            | met allMet whole => exact decided_present present (.met allMet whole)
  · rcases Work.ends_transaction former with
      ⟨refusal, rfl, same⟩ | ⟨begun, body, between, closing, rfl, working, closes⟩
    · cases same
      have first : firstFailing (demands (.recordUpdate eventId new)) [(.begin, .error refusal)] =
          some (.refused refusal, []) := rfl
      have same : decisive (.recordUpdate eventId new) [(.begin, .error refusal)] =
          (firstFailing (demands (.recordUpdate eventId new))
            [(.begin, .error refusal)]).map Prod.fst := rfl
      exact decided_of_verdict (.failed first (by simp) (toldAs_refused refusal)) same (by simp)
    · rcases writeUpdate_verdict working with ⟨affected, rfl, rfl⟩ | ⟨answer, rest, rfl,
        present, some, verdict⟩
      · cases closes with
        | unfinished found refusal answer =>
          exact decided_missing (by simp) rfl (toldAs_refused refusal)
      · cases verdict.close closes with
        | failed failing silent told => exact decided_present present (.failed failing silent told)

end

/-- Whatever the database answers. A script of replies is one such database. -/
theorem first_failure_decides {σ : Type} (server : Server σ) (state : σ) (call : Call) :
    ((perform call).run server state).2 = ((perform call).transcript server state).commands ∧
      Decided call ((perform call).transcript server state)
        ((perform call).run server state).1 := by
  refine ⟨Exchange.run_sent server _ state, ?_⟩
  obtain ⟨outcome, ends, same⟩ := ends_perform ((perform call).run_ends server state)
  rw [same]
  clear same
  generalize (perform call).transcript server state = said at ends
  have plain (decided : (work call).DecidedBy (demands call))
      (decisive : decisive call said = (firstFailing (demands call) said).map Prod.fst := by rfl)
      (silent : counted call (changedRows said) = none := by rfl)
      (keeps : removes call = false := by rfl) :
      Decided call said (outcome.mapError Error.toStoreError) :=
    decided_of_verdict (decided ends) decisive fun value _ => .plain value silent keeps
  cases call with
  | createUser new => exact plain (Work.firstRow_decided _ readUser_decodes)
  | findUserById id => exact plain (Work.firstRow_decided _ readUser_decodes)
  | findUserByEmail email => exact plain (Work.firstRow_decided _ readUser_decodes)
  | createRefreshToken new => exact plain (Work.firstRow_decided _ readRefreshToken_decodes)
  | takeRefreshToken digest => exact plain (Work.firstRow_decided _ readRefreshToken_decodes)
  | deleteRefreshToken digest =>
      refine decided_of_affected rfl rfl ends fun changed last outcome following => ?_
      obtain ⟨rfl, rfl⟩ := Exchange.Ends.of_done following
      exact ⟨rfl, .counted rfl⟩
  | deleteUserRefreshTokens userId =>
      exact decided_of_verdict (Work.affected_decided _ ends) rfl fun count ok =>
        .counted (congrArg some (affected_counts (ok ▸ ends)))
  | deleteExpiredRefreshTokens =>
      exact decided_of_verdict (Work.affected_decided _ ends) rfl fun count ok =>
        .counted (congrArg some (affected_counts (ok ▸ ends)))
  | createEvent new => exact plain (createEvent_decided new)
  | findEvent id => exact plain (Work.firstRow_decided _ readEvent_decodes)
  | listEvents filter => exact plain (Work.allRows_decided _ readEvent_decodes)
  | recordUpdate eventId new => exact recordUpdate_decided ends
  | listUpdates eventId => exact plain (Work.allRows_decided _ readEventUpdate_decodes)
  | deleteEvent id => exact decided_of_removal rfl rfl rfl ends
  | createTemplate new => exact plain (Work.firstRow_decided _ readTemplate_decodes)
  | findTemplate id => exact plain (Work.firstRow_decided _ readTemplate_decodes)
  | findTemplateBySlug slug => exact plain (Work.firstRow_decided _ readTemplate_decodes)
  | listTemplates => exact plain (Work.allRows_decided _ readTemplate_decodes)
  | updateTemplate id change => exact plain (Work.firstRow_decided _ readTemplate_decodes)
  | deleteTemplate id => exact decided_of_removal rfl rfl rfl ends
  | addChannel new => exact plain (Work.firstRow_decided _ readChannel_decodes)
  | subscribersFor serviceIds =>
    exact plain ((Work.allRows_decided _ readChannel_decodes).map groupByUser)
  | findSubscription userId => exact plain (Work.firstRow_decided _ readSubscription_decodes)
  | setSubscription userId serviceIds => exact plain (setSubscription_decided userId serviceIds)
  | deleteSubscription userId => exact decided_of_removal rfl rfl rfl ends
  | ping => exact plain ((Work.affected_decided _).map fun _ => ())

end StatusPage.Database
