import StatusPage.Database.Script
import StatusPage.Proofs.DatabaseTalks
import StatusPage.Proofs.Names

/-!
What is written comes back as it was. The text of an insertion says which column gets which value; a
row that holds these values in these columns, whatever their order, is read as a model with the
fields that were given. Names of columns, numbers of places, the order of the values, the names of
enumerations and the way in which columns are read have to agree for this.
-/

set_option autoImplicit false

namespace StatusPage.Database

open Store (Call)
open Time (Instant)

/-! ### What an insertion says -/

def bracketed (text : List Char) : List Char × List Char :=
  let inner := (text.dropWhile (· != '(')).drop 1
  (inner.takeWhile (· != ')'), (inner.dropWhile (· != ')')).drop 1)

def itemsOf (text : List Char) : List (List Char) :=
  (text.splitOn ',').map fun item => item.dropWhile (· == ' ')

def placeOf : List Char → Nat
  | '$' :: digits => Nat.ofDigitChars 10 digits 0
  | _ => 0

/-- The columns that an insertion names in its first brackets, each with the number of the place
that its second brackets have for it. -/
def layout (text : List Char) : List (String × Nat) :=
  let columns := bracketed text
  ((itemsOf columns.1).map String.ofList).zip ((itemsOf (bracketed columns.2).1).map placeOf)

def Statement.bound (statement : Statement) : Nat → Option Value
  | 0 => none
  | i + 1 => statement.params[i]?

/-- The columns of the new row with their values, as the text and the
values of the statement tell. -/
def Statement.written (statement : Statement) : List (String × Value) :=
  (layout statement.text.toList).filterMap fun (column, place) =>
    (statement.bound place).map (column, ·)

private theorem bracketed_append {before inner after : List Char} (unopened : '(' ∉ before)
    (unclosed : ')' ∉ inner) :
    bracketed (before ++ '(' :: (inner ++ ')' :: after)) = (inner, after) := by
  have front : ∀ c ∈ before, (c != '(') = true :=
    fun c member => bne_iff_ne.mpr fun same => unopened (same ▸ member)
  have within : ∀ c ∈ inner, (c != ')') = true :=
    fun c member => bne_iff_ne.mpr fun same => unclosed (same ▸ member)
  have opening : (before ++ '(' :: (inner ++ ')' :: after)).dropWhile (· != '(') =
      '(' :: (inner ++ ')' :: after) :=
    List.dropWhile_append_of_pos front
  have closing : (inner ++ ')' :: after).dropWhile (· != ')') = ')' :: after :=
    List.dropWhile_append_of_pos within
  have taken : (inner ++ ')' :: after).takeWhile (· != ')') = inner :=
    (List.takeWhile_append_of_pos within).trans (List.append_nil inner)
  simp only [bracketed, opening, List.drop_one, List.tail_cons, closing, taken]

def Whole (item : List Char) : Prop := ',' ∉ item ∧ item.head? ≠ some ' '

instance (item : List Char) : Decidable (Whole item) := inferInstanceAs (Decidable (_ ∧ _))

theorem Whole.dropWhile {item : List Char} (whole : Whole item) :
    item.dropWhile (· == ' ') = item := by
  cases item with
  | nil => rfl
  | cons c rest =>
    exact List.dropWhile_cons_of_neg fun blank => whole.2 (congrArg some (eq_of_beq blank))

private theorem itemsOf_blank (text : List Char) : itemsOf (' ' :: text) = itemsOf text := by
  unfold itemsOf
  rw [List.splitOn_cons_eq_if_modifyHead, if_neg (by decide)]
  cases text.splitOn ',' with
  | nil => rfl
  | cons item items => rfl

private theorem itemsOf_intercalate {items : List (List Char)} (some : items ≠ [])
    (whole : ∀ item ∈ items, Whole item) :
    itemsOf ([',', ' '].intercalate items) = items := by
  induction items with
  | nil => exact absurd rfl some
  | cons item rest ih =>
      obtain ⟨first, others⟩ := List.forall_mem_cons.mp whole
      cases rest with
      | nil =>
          have alone : item.splitOn ',' = [item] := List.splitOn_eq_singleton first.1
          simp only [List.intercalate_singleton, itemsOf, alone, List.map_cons, List.map_nil,
            first.dropWhile]
      | cons next rest =>
          have later := ih (List.cons_ne_nil _ _) others
          rw [List.intercalate_cons_cons, List.append_assoc]
          calc itemsOf (item ++ ',' :: ' ' :: [',', ' '].intercalate (next :: rest))
              = item.dropWhile (· == ' ') ::
                itemsOf (' ' :: [',', ' '].intercalate (next :: rest)) := by
                rw [itemsOf, List.splitOn_append_cons_self_of_not_mem first.1,
                  List.map_cons, itemsOf]
            _ = item :: next :: rest := by rw [first.dropWhile, itemsOf_blank, later]

private theorem placeOf_place (n : Nat) : placeOf ("$" ++ toString n).toList = n := by
  have digits : ("$" ++ toString n).toList = '$' :: Nat.toDigits 10 n := by
    rw [String.toList_append]
    exact congrArg ('$' :: ·) String.toList_ofList
  rw [digits]
  exact Nat.ofDigitChars_ten_toDigits

private theorem place_chars {n : Nat} {c : Char} (member : c ∈ ("$" ++ toString n).toList) :
    c = '$' ∨ c.isDigit = true := by
  rw [String.toList_append] at member
  rcases List.mem_append.mp member with sign | digit
  · exact .inl (List.mem_singleton.mp sign)
  · have digit : c ∈ (String.ofList (Nat.toDigits 10 n)).toList := digit
    rw [String.toList_ofList] at digit
    exact .inr (Nat.isDigit_of_mem_toDigits (by decide) (by decide) digit)

/-- Names of columns that do not disturb the list they stand in. -/
def PlainItem (name : String) : Prop := Whole name.toList ∧ ')' ∉ name.toList

instance (name : String) : Decidable (PlainItem name) := inferInstanceAs (Decidable (_ ∧ _))

private theorem place_plain (n : Nat) : PlainItem ("$" ++ toString n) := by
  have other {c : Char} (sign : c ≠ '$') (digit : c.isDigit = false) :
      c ∉ ("$" ++ toString n).toList := by
    intro member
    rcases place_chars member with same | isDigit
    · exact sign same
    · exact absurd isDigit (by rw [digit]; decide)
  refine ⟨⟨other (by decide) (by decide), ?_⟩, other (by decide) (by decide)⟩
  exact fun blank => other (by decide) (by decide) (List.mem_of_head? blank)

section

variable {items : List String}

private theorem itemsOf_commaList (some : items ≠ [])
    (plain : ∀ item ∈ items, PlainItem item) :
    itemsOf (Statement.commaList items).toList = items.map String.toList := by
  rw [Statement.commaList, String.toList_intercalate]
  refine itemsOf_intercalate (mt List.map_eq_nil_iff.mp some) fun item member => ?_
  obtain ⟨text, listed, rfl⟩ := List.mem_map.mp member
  exact (plain text listed).1

private theorem commaList_unclosed (plain : ∀ item ∈ items, PlainItem item) :
    ')' ∉ (Statement.commaList items).toList := by
  have each : ∀ item ∈ items.map String.toList, ')' ∉ item := by
    intro item member
    obtain ⟨text, listed, rfl⟩ := List.mem_map.mp member
    exact (plain text listed).2
  rw [Statement.commaList, String.toList_intercalate]
  change ')' ∉ [',', ' '].intercalate _
  generalize items.map String.toList = texts at each
  induction texts with
  | nil => exact List.not_mem_nil
  | cons text rest ih =>
      obtain ⟨first, others⟩ := List.forall_mem_cons.mp each
      cases rest with
      | nil => rwa [List.intercalate_singleton]
      | cons next rest =>
          rw [List.intercalate_cons_cons, List.mem_append, List.mem_append]
          rintro ((member | member) | member)
          · exact first member
          · exact absurd member (by decide)
          · exact ih others member

end

/-- The text of an insertion names its columns in order and gives them the places in order. -/
theorem layout_insert {table rest : String} {columns : List (String × Value)}
    (unopened : '(' ∉ table.toList) (some : columns ≠ [])
    (plain : ∀ name ∈ columns.map Prod.fst, PlainItem name) :
    layout (Statement.insert table columns rest).text.toList = (columns.map Prod.fst).zipIdx 1 := by
  have places : ∀ place ∈ Statement.places columns.length, PlainItem place := by
    intro place member
    obtain ⟨i, -, rfl⟩ := List.mem_map.mp member
    exact place_plain (i + 1)
  have somePlaces : Statement.places columns.length ≠ [] := by
    simpa [Statement.places] using some
  have text : (Statement.insert table columns rest).text.toList =
      ("INSERT INTO ".toList ++ table.toList ++ [' ']) ++
      '(' :: ((Statement.commaList (columns.map Prod.fst)).toList ++ ')' :: (" VALUES ".toList ++
        '(' :: ((Statement.commaList (Statement.places columns.length)).toList ++ ')' ::
          (' ' :: rest.toList)))) := by
    unfold Statement.insert
    dsimp only
    have opening : " (".toList = [' ', '('] := rfl
    have between : ") VALUES (".toList = ')' :: (" VALUES ".toList ++ ['(']) := rfl
    have closing : ") ".toList = [')', ' '] := rfl
    simp only [String.toList_append, opening, between, closing, List.append_assoc, List.cons_append,
      List.nil_append]
  have before : '(' ∉ "INSERT INTO ".toList ++ table.toList ++ [' '] := by
    simp only [List.mem_append, not_or]
    exact ⟨⟨by decide, unopened⟩, by decide⟩
  have numbers : (Statement.places columns.length).map (placeOf ·.toList) =
      List.range' 1 columns.length := by
    rw [Statement.places, List.map_map, List.range'_eq_map_range]
    refine List.map_congr_left fun i _ => ?_
    exact (placeOf_place (i + 1)).trans (Nat.add_comm i 1)
  have names (texts : List String) : (texts.map String.toList).map String.ofList = texts := by
    rw [List.map_map]
    exact List.map_id'' (fun name => String.ofList_toList) texts
  rw [layout, text, bracketed_append before (commaList_unclosed plain)]
  dsimp only
  rw [bracketed_append (by decide) (commaList_unclosed places),
    itemsOf_commaList (mt List.map_eq_nil_iff.mp some) plain,
    itemsOf_commaList somePlaces places, names, List.map_map, List.zipIdx_eq_zip_range',
    List.length_map, ← numbers]
  rfl

private theorem bound_in_order {text : String} (columns : List (String × Value)) :
    ((columns.map Prod.fst).zipIdx 1).filterMap
        (fun (column, place) =>
          ((⟨text, columns.map Prod.snd⟩ : Statement).bound place).map (column, ·)) =
      columns := by
  -- The induction needs the places to start anywhere, behind the values that are already used up.
  have behind (used : List Value) : ((columns.map Prod.fst).zipIdx (used.length + 1)).filterMap
      (fun (column, place) =>
        ((⟨text, used ++ columns.map Prod.snd⟩ : Statement).bound place).map (column, ·)) =
          columns := by
    induction columns generalizing used with
    | nil => rfl
    | cons entry rest ih =>
        have later := ih (used ++ [entry.2])
        rw [List.length_append, List.append_assoc] at later
        simpa [Statement.bound] using later
  exact behind []

private theorem written_insert {table rest : String} {columns : List (String × Value)}
    (unopened : '(' ∉ table.toList) (some : columns ≠ [])
    (plain : ∀ name ∈ columns.map Prod.fst, PlainItem name) :
    (Statement.insert table columns rest).written = columns := by
  rw [Statement.written, layout_insert unopened some plain]
  exact bound_in_order columns

/-! ### Reading what was written -/

/-- What a database of timestamps in microseconds can keep: whole
microseconds, and none of a leap second. -/
def Storable (t : Instant) : Prop := t.nanos % 1000 = 0 ∧ t.nanos < 1000000000

instance (t : Instant) : Decidable (Storable t) := inferInstanceAs (Decidable (_ ∧ _))

private theorem instantOfMicros_microsTowards2000 {t : Instant} (storable : Storable t) :
    instantOfMicros t.microsTowards2000 = t := by
  obtain ⟨seconds, nanos⟩ := t
  obtain ⟨whole, ordinary⟩ := storable
  obtain ⟨micros, rfl⟩ := Nat.dvd_of_mod_eq_zero whole
  dsimp only at ordinary
  have scaled : (seconds - 946684800) * 1000000000 + ((1000 * micros : Nat) : Int) =
      ((seconds - 946684800) * 1000000 + micros) * 1000 := by omega
  have counted : (Instant.mk seconds (1000 * micros)).microsTowards2000 =
      seconds * 1000000 + micros := by
    simp only [Instant.microsTowards2000]
    rw [scaled, Int.mul_tdiv_cancel _ (by decide)]
    omega
  rw [counted, instantOfMicros]
  congr 1 <;> omega

/-- A column of a row by its name. Of several columns of one name the last counts. -/
def Row.Holds (row : Row) (column : String) (value : Value) : Prop :=
  row.reverse.lookup column = some value

instance (row : Row) (column : String) (value : Value) : Decidable (row.Holds column value) :=
  inferInstanceAs (Decidable (_ = _))

namespace Row

variable {α : Type} {row : Row} {column : String}

theorem Holds.get {value : Value} (holds : row.Holds column value) (decoder : Decoder α) :
    row.get column decoder = decoder.read (.named column) value := by
  rw [Row.get, holds]

theorem Holds.text {text : String} (holds : row.Holds column (.text text)) :
    row.get column .text = .ok text :=
  holds.get _

theorem Holds.bool {value : Bool} (holds : row.Holds column (.bool value)) :
    row.get column .bool = .ok value :=
  holds.get _

theorem Holds.uuid {id : Uuid} (holds : row.Holds column (.uuid id)) :
    row.get column .uuid = .ok id :=
  holds.get _

theorem Holds.instant {micros : Int} (holds : row.Holds column (.instant micros)) :
    row.get column .instant = .ok (instantOfMicros micros) :=
  holds.get _

theorem Holds.stored {t : Instant} (holds : row.Holds column (.ofInstant t))
    (storable : Storable t) :
    row.get column .instant = .ok t := by
  rw [holds.get]
  exact congrArg Except.ok (instantOfMicros_microsTowards2000 storable)

theorem Holds.uuids {ids : List Uuid} (holds : row.Holds column (.ofUuids ids)) :
    row.get column .uuids = .ok ids := by
  have present : (ids.map some).mapM id = some ids := by
    clear holds
    induction ids with
    | nil => rfl
    | cons first rest ih =>
      rw [List.map_cons, List.mapM_cons, ih, id, Option.bind_eq_bind, Option.bind_some]; rfl
  rw [holds.get]
  simp only [Value.ofUuids, Decoder.uuids, present]

theorem Holds.orNull {decoder : Decoder α} {write : α → Value} {given : Option α}
    (holds : row.Holds column (.orNull write given)) (solid : ∀ a, write a ≠ .null)
    (restored : ∀ a, given = some a → decoder.read (.named column) (write a) = .ok a) :
    row.get column decoder.orNull = .ok given := by
  rw [holds.get]
  cases given with
  | none => rfl
  | some a =>
      have same : decoder.orNull.read (.named column) (write a) =
          (decoder.read (.named column) (write a)).map some := by
        cases written : write a with
        | null => exact absurd written (solid a)
        | _ => rfl
      rw [Value.orNull, same, restored a rfl]
      rfl

private theorem Holds.textOrNull {given : Option String}
    (holds : row.Holds column (.orNull .text given)) :
    row.get column (.orNull .text) = .ok given :=
  holds.orNull nofun fun _ _ => rfl

private theorem Holds.uuidOrNull {given : Option Uuid}
    (holds : row.Holds column (.orNull .uuid given)) :
    row.get column (.orNull .uuid) = .ok given :=
  holds.orNull nofun fun _ _ => rfl

private theorem Holds.storedOrNull {given : Option Instant}
    (holds : row.Holds column (.orNull .ofInstant given))
    (storable : ∀ t, given = some t → Storable t) :
    row.get column (.orNull .instant) = .ok given :=
  holds.orNull nofun fun t same =>
    congrArg Except.ok (instantOfMicros_microsTowards2000 (storable t same))

private theorem Holds.instantOrNull {given : Option Int}
    (holds : row.Holds column (.orNull .instant given)) :
    row.get column (.orNull .instant) = .ok (given.map instantOfMicros) := by
  rw [holds.get]
  cases given <;> rfl

variable [Named α] [Named.Complete α]

@[simp] theorem readName_name (a : α) : readName column (Named.name a) = .ok a := by
  rw [readName, Named.ofName_name]
  rfl

theorem Holds.name {a : α} (holds : row.Holds column (.ofName a)) :
    row.getName column = .ok a := by
  rw [getName, Holds.text holds]
  exact readName_name a

private theorem Holds.nameOrNull {given : Option α}
    (holds : row.Holds column (.orNull .ofName given)) :
    row.getNameOrNull column = .ok given := by
  have named : row.get column (.orNull .text) = .ok (given.map Named.name) := by
    rw [holds.get]
    cases given <;> rfl
  rw [getNameOrNull, named]
  cases given with
  | none => rfl
  | some a => exact congrArg (· >>= fun a => pure (some a)) (readName_name a)

end Row

/-! ### Talks put together -/

/-- These are the answers of a database to these commands, one after the other. -/
def Server.Answers {σ : Type} (server : Server σ) : σ → Transcript → Prop
  | _, [] => True
  | state, (command, answer) :: said =>
      (server.answer command state).1 = answer ∧
      server.Answers (server.answer command state).2 said

theorem Exchange.Ends.run {σ α : Type} {server : Server σ} {state : σ} {talk : Exchange α}
    {said : Transcript} {result : α} (ends : talk.Ends said result)
    (answers : server.Answers state said) :
    talk.run server state = (result, said.commands) := by
  induction ends generalizing state with
  | done value => rfl
  | send rest ih =>
      obtain ⟨rfl, others⟩ := answers
      simp only [Exchange.run, ih others, Transcript.commands_cons]

theorem Exchange.Ends.bind {α β : Type} {talk : Exchange α} {next : α → Exchange β}
    {first last : Transcript} {value : α} {result : β} (former : talk.Ends first value)
    (latter : (next value).Ends last result) :
    (talk.bind next).Ends (first ++ last) result := by
  induction former with
  | done value => exact latter
  | send rest ih => exact .send (ih latter)

namespace Work

variable {α β : Type}

private theorem bind_ends {work : Work α} {next : α → Work β} {first last : Transcript}
    {value : α} {result : Except Error β} (former : work.run.Ends first (.ok value))
    (latter : (next value).run.Ends last result) :
    (work >>= next).run.Ends (first ++ last) result :=
  Exchange.Ends.bind former latter

private theorem firstRow_ends (statement : Statement) {read : Row → Except Error α} {row : Row}
    {value : α} (reads : read row = .ok value) (others : List Row) (affected : Nat) :
    (firstRow statement read).run.Ends [(.perform statement, .ok ⟨row :: others, affected⟩)]
      (.ok value) := by
  rw [firstRow_run, ← reads]
  exact .send (.done _)

private theorem firstRow?_ends (statement : Statement) {read : Row → Except Error α} {row : Row}
    {value : α} (reads : read row = .ok value) (others : List Row) (affected : Nat) :
    (firstRow? statement read).run.Ends [(.perform statement, .ok ⟨row :: others, affected⟩)]
      (.ok (some value)) := by
  have same : readFirst? read (.ok ⟨row :: others, affected⟩) = .ok (some value) :=
    congrArg (Except.map some) reads
  rw [firstRow?_run, ← same]
  exact .send (.done _)

private theorem affected_ends (statement : Statement) (reply : Reply) :
    (affected statement).run.Ends [(.perform statement, .ok reply)] (.ok reply.affected) := by
  rw [affected_run]
  exact .send (.done _)

private theorem whenNeeded_ends (statement : Statement) {needed : Bool} {rest : Work α}
    {answers : List Answer} {last : Transcript} {outcome : Except Error α}
    (answered : if needed then ∃ reply, answers = [.ok reply] else answers = [])
    (later : rest.run.Ends last outcome) :
    (if needed then (do let _ ← Work.affected statement; rest) else rest : Work α).run.Ends
      (answers.map (fun answer => (.perform statement, answer)) ++ last) outcome := by
  cases needed with
  | false =>
      cases answered
      exact later
  | true =>
      obtain ⟨reply, rfl⟩ := answered
      exact bind_ends (affected_ends statement reply) later

private theorem transaction_ends {keep : α → Bool} {work : Work α} {body : Transcript}
    {value : α} (working : work.run.Ends body (.ok value)) (begun committed : Reply)
    (kept : keep value = true) :
    (transaction keep work).run.Ends ((.begin, .ok begun) :: (body ++ [(.commit, .ok committed)]))
      (.ok value) := by
  rw [transaction_run]
  refine .send (working.bind ?_)
  simp only [kept, if_true]
  exact .send (.done _)

end Work

/-! ### Inputs that become new rows -/

inductive Insertion where
  | user (new : NewUser)
  | refreshToken (new : NewRefreshToken)
  | event (new : NewEvent)
  | update (eventId : Uuid) (new : NewUpdate)
  | template (new : NewTemplate)
  | channel (new : NewChannel)

/-- What the database adds to a new row; the services are in a table of their own. Times are in
microseconds. -/
structure Added where
  id : Uuid
  createdAt : Int
  updatedAt : Int
  resolvedAt : Option Int
  serviceIds : List Uuid

namespace Insertion

def call : Insertion → Call
  | .user new => .createUser new
  | .refreshToken new => .createRefreshToken new
  | .event new => .createEvent new
  | .update eventId new => .recordUpdate eventId new
  | .template new => .createTemplate new
  | .channel new => .addChannel new

def statement : Insertion → Statement
  | .user new => insertUser new
  | .refreshToken new => insertRefreshToken new
  | .event new => insertEvent new
  | .update eventId new => insertEventUpdate eventId new
  | .template new => insertTemplate new
  | .channel new => insertChannel new

def instants : Insertion → List Instant
  | .refreshToken new => [new.expiresAt]
  | .event new => new.startedAt.toList ++ new.scheduledStart.toList ++ new.scheduledEnd.toList
  | _ => []

def addedColumns (added : Added) : Insertion → List (String × Value)
  | .user _ | .template _ | .channel _ =>
      [("id", .uuid added.id), ("created_at", .instant added.createdAt),
        ("updated_at", .instant added.updatedAt)]
  | .refreshToken _ | .update _ _ =>
    [("id", .uuid added.id), ("created_at", .instant added.createdAt)]
  | .event _ =>
      [("id", .uuid added.id), ("created_at", .instant added.createdAt),
        ("updated_at", .instant added.updatedAt),
        ("resolved_at", .orNull .instant added.resolvedAt),
        ("service_ids", .ofUuids added.serviceIds)]

def HeldBy (insertion : Insertion) (added : Added) (row : Row) : Prop :=
  ∀ entry ∈ insertion.statement.written ++ insertion.addedColumns added,
    row.Holds entry.1 entry.2

instance (insertion : Insertion) (added : Added) (row : Row) :
    Decidable (insertion.HeldBy added row) :=
  inferInstanceAs (Decidable (∀ entry ∈ _, _))

/-- The answers to the statements before the one that reads the new row: for an event those to its
insertion, which asks for the new identifier alone, and to the links to its services, if there are
some; for an update that to the change of the event. -/
def Preceding : Insertion → List Answer → Prop
  | .event new, answers => ∃ name id columns others affected links,
      answers = .ok ⟨((name, .uuid id) :: columns) :: others, affected⟩ :: links ∧
        if !new.serviceIds.isEmpty then ∃ reply, links = [.ok reply] else links = []
  | .update _ _, answers => ∃ row others affected event,
      answers = [.ok ⟨row :: others, affected⟩] ∧ readEvent row = .ok event
  | _, answers => answers = []

/-- The model has the fields that were given, and what the database has added. -/
def Restored (added : Added) : (insertion : Insertion) → insertion.call.Result → Prop
  | .user new, model => model =
      { id := added.id, email := new.email, passwordHash := new.passwordHash,
        firstName := new.firstName, lastName := new.lastName, role := Named.name new.role,
        createdAt := instantOfMicros added.createdAt, updatedAt := instantOfMicros added.updatedAt }
  | .refreshToken new, model => model =
      { id := added.id, userId := new.userId, digest := new.digest, expiresAt := new.expiresAt,
        createdAt := instantOfMicros added.createdAt }
  | .event new, model => model =
      { id := added.id, title := new.title, kind := new.kind, status := new.status,
        severity := new.severity, description := new.description, startedAt := new.startedAt,
        resolvedAt := added.resolvedAt.map instantOfMicros, scheduledStart := new.scheduledStart,
        scheduledEnd := new.scheduledEnd, notify := new.notify, templateId := new.templateId,
        createdBy := new.createdBy, serviceIds := added.serviceIds,
        createdAt := instantOfMicros added.createdAt, updatedAt := instantOfMicros added.updatedAt }
  | .update eventId new, (_, model) => model =
      { id := added.id, eventId, status := new.change.status, message := new.message,
        notify := new.notify, createdBy := new.createdBy,
        createdAt := instantOfMicros added.createdAt }
  | .template new, model => model =
      { id := added.id, slug := new.slug, kind := new.kind, titleSource := new.titleSource,
        bodySource := new.bodySource, createdAt := instantOfMicros added.createdAt,
        updatedAt := instantOfMicros added.updatedAt }
  | .channel new, model => model =
      { id := added.id, userId := new.userId, kind := new.kind, target := new.target,
        enabled := new.enabled, verified := new.verified,
        createdAt := instantOfMicros added.createdAt, updatedAt := instantOfMicros added.updatedAt }

/-- What an insertion writes are the columns that it was made for. -/
theorem heldBy_iff {insertion : Insertion} {added : Added} {row : Row} {table rest : String}
    {columns : List (String × Value)} (same : insertion.statement = .insert table columns rest)
    (unopened : '(' ∉ table.toList := by decide)
    (some : columns ≠ [] := by exact List.cons_ne_nil _ _)
    (plain : ∀ name ∈ columns.map Prod.fst, PlainItem name := by
      simp only [List.map_cons, List.map_nil, List.forall_mem_cons]
      decide) :
    insertion.HeldBy added row ↔ ∀ entry ∈ columns ++ insertion.addedColumns added,
      row.Holds entry.1 entry.2 := by
  rw [HeldBy, same, written_insert unopened some plain]

end Insertion

/-! ### Rows of the new models -/

section

variable {added : Added} {row : Row}

private theorem readUser_inserted {new : NewUser} (held : (Insertion.user new).HeldBy added row) :
    ∃ user, readUser row = .ok user ∧ (Insertion.user new).Restored added user := by
  have columns := (Insertion.heldBy_iff rfl).mp held
  simp only [Insertion.addedColumns, List.cons_append, List.nil_append,
    List.forall_mem_cons] at columns
  obtain ⟨email, passwordHash, firstName, lastName, role, id, createdAt, updatedAt, -⟩ :=
    columns
  refine ⟨_, ?_, rfl⟩
  have named : row.get "role" .text = .ok (Named.name new.role) := role.get _
  simp only [readUser, email.text, passwordHash.text, firstName.textOrNull, lastName.textOrNull,
    named, id.uuid, createdAt.instant, updatedAt.instant]
  rfl

private theorem readRefreshToken_inserted {new : NewRefreshToken}
    (storable : Storable new.expiresAt) (held : (Insertion.refreshToken new).HeldBy added row) :
    ∃ token, readRefreshToken row = .ok token ∧
      (Insertion.refreshToken new).Restored added token := by
  have columns := (Insertion.heldBy_iff rfl).mp held
  simp only [Insertion.addedColumns, List.cons_append, List.nil_append,
    List.forall_mem_cons] at columns
  obtain ⟨userId, digest, expiresAt, id, createdAt, -⟩ := columns
  refine ⟨_, ?_, rfl⟩
  simp only [readRefreshToken, userId.uuid, digest.text, expiresAt.stored storable, id.uuid,
    createdAt.instant]
  rfl

private theorem readEvent_inserted {new : NewEvent}
    (storable : ∀ t ∈ (Insertion.event new).instants, Storable t)
    (held : (Insertion.event new).HeldBy added row) :
    ∃ event, readEvent row = .ok event ∧ (Insertion.event new).Restored added event := by
  have columns := (Insertion.heldBy_iff rfl).mp held
  simp only [Insertion.addedColumns, List.cons_append, List.nil_append,
    List.forall_mem_cons] at columns
  obtain ⟨title, kind, status, severity, description, startedAt, scheduledStart, scheduledEnd,
    notify, templateId, createdBy, id, createdAt, updatedAt, resolvedAt, serviceIds, -⟩ := columns
  simp only [Insertion.instants, List.mem_append, Option.mem_toList, or_imp, forall_and] at storable
  obtain ⟨⟨started, begins⟩, ends⟩ := storable
  refine ⟨_, ?_, rfl⟩
  simp only [readEvent, title.text, kind.name, status.name, severity.nameOrNull, description.text,
    startedAt.storedOrNull started, scheduledStart.storedOrNull begins,
    scheduledEnd.storedOrNull ends, notify.bool, templateId.uuidOrNull, createdBy.uuid, id.uuid,
    createdAt.instant, updatedAt.instant, resolvedAt.instantOrNull,
    serviceIds.uuids]
  rfl

private theorem readEventUpdate_inserted {eventId : Uuid} {new : NewUpdate}
    (held : (Insertion.update eventId new).HeldBy added row) :
    ∃ update, readEventUpdate row = .ok update ∧
      ∀ event, (Insertion.update eventId new).Restored added (event, update) := by
  have columns := (Insertion.heldBy_iff rfl).mp held
  simp only [Insertion.addedColumns, List.cons_append, List.nil_append,
    List.forall_mem_cons] at columns
  obtain ⟨ofEvent, status, message, notify, createdBy, id, createdAt, -⟩ := columns
  refine ⟨_, ?_, fun _ => rfl⟩
  simp only [readEventUpdate, ofEvent.uuid, status.name, message.text, notify.bool,
    createdBy.uuid, id.uuid, createdAt.instant]
  rfl

private theorem readTemplate_inserted {new : NewTemplate}
    (held : (Insertion.template new).HeldBy added row) :
    ∃ template, readTemplate row = .ok template ∧
      (Insertion.template new).Restored added template := by
  have columns := (Insertion.heldBy_iff rfl).mp held
  simp only [Insertion.addedColumns, List.cons_append, List.nil_append,
    List.forall_mem_cons] at columns
  obtain ⟨slug, kind, title, body, id, createdAt, updatedAt, -⟩ := columns
  refine ⟨_, ?_, rfl⟩
  simp only [readTemplate, slug.text, kind.name, title.text, body.text, id.uuid, createdAt.instant,
    updatedAt.instant]
  rfl

private theorem readChannel_inserted {new : NewChannel}
    (held : (Insertion.channel new).HeldBy added row) :
    ∃ channel, readChannel row = .ok channel ∧
      (Insertion.channel new).Restored added channel := by
  have columns := (Insertion.heldBy_iff rfl).mp held
  simp only [Insertion.addedColumns, List.cons_append, List.nil_append,
    List.forall_mem_cons] at columns
  obtain ⟨userId, kind, target, enabled, verified, id, createdAt, updatedAt, -⟩ := columns
  refine ⟨_, ?_, rfl⟩
  simp only [readChannel, userId.uuid, kind.name, target.text, enabled.bool, verified.bool, id.uuid,
    createdAt.instant, updatedAt.instant]
  rfl

end

/-! ### The calls -/

section

variable {script : Script} {left : List Answer}

/-- All that a call says to a script is answered, and this comes of it. -/
structure Course (script : Script) (call : Call) (said : Transcript)
    (result : call.Result) : Prop where
  ends : (work call).run.Ends said (.ok result)
  answers : script.server.Answers script.replies said

theorem Course.play {call : Call} {said : Transcript} {result : call.Result}
    (course : Course script call said result) :
    script.play (perform call) = (.ok result, said.commands) := by
  have whole : (perform call).Ends (said ++ []) (.ok result) := course.ends.bind (.done _)
  rw [List.append_nil] at whole
  exact whole.run course.answers

private theorem firstRow_answered {call : Call} {statement : Statement}
    {read : Row → Except Error call.Result} {row : Row} {others : List Row} {affected : Nat}
    {result : call.Result} (single : (work call).run = (Work.firstRow statement read).run)
    (reads : read row = .ok result)
    (replies : script.replies = .ok ⟨row :: others, affected⟩ :: left) :
    Course script call [(.perform statement, .ok ⟨row :: others, affected⟩)] result where
  ends := single ▸ Work.firstRow_ends statement reads others affected
  answers := by
    rw [replies]
    exact ⟨rfl, trivial⟩

variable (begins : script.onBegin = none) (commits : script.onCommit = none)

include begins commits

private theorem answers_transaction (statements : List (Statement × Answer)) (more : List Answer)
    (replies : script.replies = statements.map Prod.snd ++ more) :
    script.server.Answers script.replies ((.begin, .ok ⟨[], 0⟩) ::
      (statements.map (fun (statement, answer) => (.perform statement, answer)) ++
        [(.commit, .ok ⟨[], 0⟩)])) := by
  refine ⟨congrArg Script.control begins, ?_⟩
  rw [replies]
  change script.server.Answers (statements.map Prod.snd ++ more) _
  clear replies
  induction statements with
  | nil => exact ⟨congrArg Script.control commits, trivial⟩
  | cons entry statements ih => exact ⟨rfl, ih⟩

private theorem createEvent_answered {new : NewEvent} {ahead : List Answer} {row : Row}
    {others : List Row} {affected : Nat} {event : Event}
    (preceding : (Insertion.event new).Preceding ahead) (reads : readEvent row = .ok event)
    (replies : script.replies = ahead ++ .ok ⟨row :: others, affected⟩ :: left) :
    ∃ said, Course script (.createEvent new) said event ∧
      .perform (insertEvent new) ∈ said.commands := by
  obtain ⟨name, id, columns, olds, changed, links, rfl, linked⟩ := preceding
  have inserting : (Work.firstRow (insertEvent new) fun row => row.first .uuid).run.Ends
      [(.perform (insertEvent new), .ok ⟨((name, .uuid id) :: columns) :: olds, changed⟩)]
      (.ok id) := by
    apply Work.firstRow_ends
    rfl
  have selecting := Work.firstRow_ends (selectEvent id) reads others affected
  have working : (writeEvent new).run.Ends _ (.ok event) :=
    Work.bind_ends inserting
      (Work.whenNeeded_ends (linkEventServices id new.serviceIds) linked selecting)
  have answers := answers_transaction begins commits
    ((insertEvent new, .ok ⟨((name, .uuid id) :: columns) :: olds, changed⟩) ::
      (links.map (linkEventServices id new.serviceIds, ·) ++
        [(selectEvent id, .ok ⟨row :: others, affected⟩)]))
    left (by simp [replies, Function.comp_def])
  refine ⟨_, ⟨Work.transaction_ends working ⟨[], 0⟩ ⟨[], 0⟩ rfl, ?_⟩, by simp⟩
  simpa [Function.comp_def] using answers

private theorem recordUpdate_answered {eventId : Uuid} {new : NewUpdate} {ahead : List Answer}
    {row : Row} {others : List Row} {affected : Nat} {update : EventUpdate}
    (preceding : (Insertion.update eventId new).Preceding ahead)
    (reads : readEventUpdate row = .ok update)
    (replies : script.replies = ahead ++ .ok ⟨row :: others, affected⟩ :: left) :
    ∃ said event, Course script (.recordUpdate eventId new) said (event, update) ∧
      .perform (insertEventUpdate eventId new) ∈ said.commands := by
  obtain ⟨old, olds, changed, event, rfl, found⟩ := preceding
  have changing := Work.firstRow?_ends (updateEventStatus eventId new.change) found olds changed
  have inserting := Work.firstRow_ends (insertEventUpdate eventId new) reads others affected
  have working : (writeUpdate eventId new).run.Ends _ (.ok (some (event, update))) :=
    Work.bind_ends changing (Work.bind_ends inserting (.done _))
  have answers := answers_transaction begins commits
    [(updateEventStatus eventId new.change, .ok ⟨old :: olds, changed⟩),
      (insertEventUpdate eventId new, .ok ⟨row :: others, affected⟩)] left replies
  have whole : (recordUpdate eventId new).run.Ends _ (.ok (event, update)) :=
    Work.bind_ends (Work.transaction_ends working ⟨[], 0⟩ ⟨[], 0⟩ rfl) (.done _)
  refine ⟨_, event, ⟨whole, ?_⟩, by simp⟩
  simpa using answers

end

/-- A row that holds what was inserted, whatever the order of its columns and whatever else it
holds, is given back as the model of the input. -/
theorem inserted_rows_read_back {insertion : Insertion} {script : Script} {added : Added}
    {row : Row} {ahead left : List Answer} {others : List Row} {affected : Nat}
    (storable : ∀ t ∈ insertion.instants, Storable t) (begins : script.onBegin = none)
    (commits : script.onCommit = none) (preceding : insertion.Preceding ahead)
    (held : insertion.HeldBy added row)
    (replies : script.replies = ahead ++ .ok ⟨row :: others, affected⟩ :: left) :
    .perform insertion.statement ∈ (script.play (perform insertion.call)).2 ∧
      ∃ model, (script.play (perform insertion.call)).1 = .ok model ∧
        insertion.Restored added model := by
  obtain ⟨model, said, course, sent, restored⟩ : ∃ model said,
    Course script insertion.call said model ∧
      .perform insertion.statement ∈ said.commands ∧ insertion.Restored added model := by
    cases insertion with
    | user new =>
        obtain ⟨user, reads, restored⟩ := readUser_inserted held
        cases preceding
        exact ⟨user, _, firstRow_answered rfl reads replies,
          by simp [Insertion.statement], restored⟩
    | refreshToken new =>
        obtain ⟨token, reads, restored⟩ :=
          readRefreshToken_inserted (storable _ List.mem_cons_self) held
        cases preceding
        exact ⟨token, _, firstRow_answered rfl reads replies,
          by simp [Insertion.statement], restored⟩
    | event new =>
        obtain ⟨event, reads, restored⟩ := readEvent_inserted storable held
        obtain ⟨said, course, sent⟩ :=
          createEvent_answered begins commits preceding reads replies
        exact ⟨event, said, course, sent, restored⟩
    | update eventId new =>
        obtain ⟨update, reads, restored⟩ := readEventUpdate_inserted held
        obtain ⟨said, event, course, sent⟩ :=
          recordUpdate_answered begins commits preceding reads replies
        exact ⟨(event, update), said, course, sent, restored event⟩
    | template new =>
        obtain ⟨template, reads, restored⟩ := readTemplate_inserted held
        cases preceding
        exact ⟨template, _, firstRow_answered rfl reads replies,
          by simp [Insertion.statement], restored⟩
    | channel new =>
        obtain ⟨channel, reads, restored⟩ := readChannel_inserted held
        cases preceding
        exact ⟨channel, _, firstRow_answered rfl reads replies,
          by simp [Insertion.statement], restored⟩
  rw [course.play]
  exact ⟨sent, model, rfl, restored⟩

def startedEvent (startedAt : Instant) (serviceIds : List Uuid) : NewEvent :=
  ⟨"Database latency", .incident, .investigating, some .minor, "slow", some startedAt, none,
    none, true, none, .ofNat 1, serviceIds⟩

def startedRow (startedAt : Instant) : Row :=
  [("id", .uuid (.ofNat 3)), ("title", .text "Database latency"), ("event_type", .text "incident"),
    ("status", .text "investigating"), ("severity", .text "minor"), ("description", .text "slow"),
    ("started_at", .ofInstant startedAt), ("resolved_at", .null), ("scheduled_start_at", .null),
    ("scheduled_end_at", .null), ("notify_subscribers", .bool true), ("template_id", .null),
    ("created_by", .uuid (.ofNat 1)), ("service_ids", .ofUuids [.ofNat 11, .ofNat 12]),
    ("created_at", .instant 1709285400000000), ("updated_at", .instant 1709290800123456)]

def startedAdded : Added :=
  ⟨.ofNat 3, 1709285400000000, 1709290800123456, none, [.ofNat 11, .ofNat 12]⟩

private theorem startedRow_held (startedAt : Instant) (serviceIds : List Uuid) (front : Row) :
    (Insertion.event (startedEvent startedAt serviceIds)).HeldBy startedAdded
      (front ++ startedRow startedAt) := by
  apply (Insertion.heldBy_iff rfl).mpr
  simp only [Insertion.addedColumns, List.cons_append, List.nil_append,
    List.forall_mem_cons, Row.Holds, List.reverse_append]
  exact ⟨rfl, rfl, rfl, rfl, rfl, rfl, rfl, rfl, rfl, rfl, rfl, rfl, rfl, rfl, rfl, rfl, nofun⟩

def answering (inserted : Row) (links : List Answer) (read : Row) : Script :=
  ⟨.ok ⟨[inserted], 1⟩ :: (links ++ [.ok ⟨[read], 1⟩]), none, none, none⟩

theorem started_event_read_back :
    (∀ t ∈ (Insertion.event
      (startedEvent ⟨1709285400, 123456000⟩ [.ofNat 12, .ofNat 11])).instants, Storable t) ∧
      ∃ event,
        ((answering [("id", .uuid (.ofNat 3))] [.ok ⟨[], 2⟩]
          (startedRow ⟨1709285400, 123456000⟩)).play
          (perform (.createEvent
            (startedEvent ⟨1709285400, 123456000⟩ [.ofNat 12, .ofNat 11])))).1 = .ok event ∧
        event.startedAt = some ⟨1709285400, 123456000⟩ ∧ event.severity = some .minor ∧
        event.templateId = none := by
  have storable :
      ∀ t ∈ (Insertion.event
        (startedEvent ⟨1709285400, 123456000⟩ [.ofNat 12, .ofNat 11])).instants,
      Storable t := by decide
  have begins : (answering [("id", .uuid (.ofNat 3))] [.ok ⟨[], 2⟩]
      (startedRow ⟨1709285400, 123456000⟩)).onBegin = none := rfl
  obtain ⟨-, event, result, restored⟩ := inserted_rows_read_back storable begins rfl
    ⟨"id", .ofNat 3, [], [], 1, [.ok ⟨[], 2⟩], rfl, ⟨[], 2⟩, rfl⟩
    (startedRow_held _ _ []) rfl
  cases restored
  exact ⟨storable, _, result, rfl, rfl, rfl⟩

/-- A leap second of whole microseconds comes back as the second after it. And the identifier of a
new event is the first column of its row, so the rest of the row must not stand before it. -/
theorem leap_second_not_read_back :
    (¬∀ (insertion : Insertion) (script : Script) (added : Added) (row : Row)
      (ahead left : List Answer) (others : List Row) (affected : Nat),
      (∀ t ∈ insertion.instants, t.nanos % 1000 = 0) → script.onBegin = none →
      script.onCommit = none →
        insertion.Preceding ahead → insertion.HeldBy added row →
        script.replies = ahead ++ .ok ⟨row :: others, affected⟩ :: left →
        ∃ model, (script.play (perform insertion.call)).1 = .ok model ∧
          insertion.Restored added model) ∧
    ¬∀ (new : NewEvent) (script : Script) (added : Added) (row : Row),
      (∀ t ∈ (Insertion.event new).instants, Storable t) → script.onBegin = none →
      script.onCommit = none →
        (Insertion.event new).HeldBy added row → new.serviceIds = [] →
        script.replies = [.ok ⟨[row], 1⟩, .ok ⟨[row], 1⟩] →
        ∃ model, (script.play (perform (.createEvent new))).1 = .ok model := by
  constructor
  · intro claim
    obtain ⟨event, result, restored⟩ :=
      claim (.event (startedEvent ⟨1483228799, 1000000000⟩ []))
      (answering [("id", .uuid (.ofNat 3))] [] (startedRow ⟨1483228799, 1000000000⟩))
      startedAdded
      (startedRow ⟨1483228799, 1000000000⟩) [.ok ⟨[[("id", .uuid (.ofNat 3))]], 1⟩] [] [] 1
      (by decide) rfl rfl
      ⟨"id", .ofNat 3, [], [], 1, [], rfl, rfl⟩ (startedRow_held _ _ []) rfl
    cases restored
    have started := congrArg (Except.map Event.startedAt) result
    change Except.ok (some (⟨1483228800, 0⟩ : Instant)) =
      .ok (some ⟨1483228799, 1000000000⟩) at started
    cases started
  · intro claim
    obtain ⟨event, result⟩ := claim (startedEvent ⟨1709285400, 0⟩ [])
      (answering (("template_id", .null) :: startedRow ⟨1709285400, 0⟩) []
        (("template_id", .null) :: startedRow ⟨1709285400, 0⟩))
      startedAdded _ (by decide) rfl rfl (startedRow_held _ _ [("template_id", .null)]) rfl rfl
    cases result

end StatusPage.Database
