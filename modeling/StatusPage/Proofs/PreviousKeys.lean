import Mathlib.Data.List.Forall2
import Mathlib.Data.List.TakeWhile
import StatusPage.Config
import StatusPage.Proofs.TemplateTags

/-!
The list of retired keys. Whatever stands between two commas is an entry, blanks around it apart,
and entries of which nothing is left do not count. An entry is a key when its first equals sign has
a name in front of it and a secret behind it. The name loses the blanks around it; the secret is
taken as it stands, further equals signs included. So a list that was written with care is read
back, and of a list with flaws the first is reported.
-/

set_option autoImplicit false

namespace StatusPage

/-! ### Reading one item after the other -/

section Traversal

variable {ε α β : Type} {f : α → Except ε β} {items : List α}

theorem exists_of_forall₂ {related : α → β → Prop} {results : List β}
    (each : List.Forall₂ related items results) {item : α} (member : item ∈ items) :
    ∃ result ∈ results, related item result := by
  induction each with
  | nil => cases member
  | cons first _ ih =>
      rcases List.mem_cons.mp member with rfl | later
      · exact ⟨_, List.mem_cons_self, first⟩
      · obtain ⟨result, among, holds⟩ := ih later
        exact ⟨result, List.mem_cons_of_mem _ among, holds⟩

theorem mapM_eq_ok_iff {results : List β} :
    items.mapM f = .ok results ↔
    List.Forall₂ (fun item result => f item = .ok result) items results := by
  induction items generalizing results with
  | nil =>
      rw [List.mapM_nil, List.forall₂_nil_left_iff]
      exact ⟨fun same => (Except.ok.inj same).symm, fun none => congrArg Except.ok none.symm⟩
  | cons item rest ih =>
      rw [List.mapM_cons, List.forall₂_cons_left_iff]
      constructor
      · intro read
        cases first : f item with
        | error e => rw [first] at read; cases read
        | ok result =>
            cases later : rest.mapM f with
            | error e => rw [first, later] at read; cases read
            | ok others =>
                rw [first, later] at read
                cases read
                exact ⟨result, others, rfl, ih.mp later, rfl⟩
      · rintro ⟨result, others, first, later, rfl⟩
        rw [first, ih.mpr later]
        rfl

private theorem mapM_eq_error {e : ε} (failed : items.mapM f = .error e) :
    ∃ before item after, items = before ++ item :: after ∧
      (∀ earlier ∈ before, ∃ result, f earlier = .ok result) ∧
      f item = .error e := by
  induction items with
  | nil => cases failed
  | cons item rest ih =>
      rw [List.mapM_cons] at failed
      cases first : f item with
      | error e' =>
          rw [first] at failed
          cases failed
          exact ⟨[], item, rest, rfl, nofun, first⟩
      | ok result =>
          have later : rest.mapM f = .error e := by
            cases others : rest.mapM f with
            | error e' => rw [first, others] at failed; cases failed; rfl
            | ok results => rw [first, others] at failed; cases failed
          obtain ⟨before, flawed, after, rfl, good, bad⟩ := ih later
          refine ⟨item :: before, flawed, after, rfl, fun earlier member => ?_, bad⟩
          rcases List.mem_cons.mp member with rfl | behind
          · exact ⟨result, first⟩
          · exact good earlier behind

end Traversal

/-! ### Blanks -/

private theorem Text.trim_eq_nil {text : List Char} :
    trim text = [] ↔ ∀ c ∈ text, isBlank c = true := by
  constructor
  · intro nothing c member
    obtain ⟨before, after, whole, front, back⟩ := Template.trim_spec text
    rw [whole, nothing, List.append_nil] at member
    exact (List.mem_append.mp member).elim (front c) (back c)
  · intro blank
    rw [trim, dropBlanks, List.dropWhile_eq_nil_iff.mpr blank]
    rfl

private theorem Text.trim_padded {before text after : List Char}
    (front : ∀ c ∈ before, isBlank c = true) (back : ∀ c ∈ after, isBlank c = true)
    (first : ∃ c, text.head? = some c ∧ isBlank c = false)
    (last : ∃ c, text.getLast? = some c ∧ isBlank c = false) :
    trim (before ++ text ++ after) = text := by
  obtain ⟨c, head, plain⟩ := first
  obtain ⟨d, final, plain'⟩ := last
  have begins : dropBlanks (before ++ (text ++ after)) = text ++ after := by
    obtain ⟨rest, rfl⟩ := List.head?_eq_some_iff.mp head
    rw [dropBlanks, List.dropWhile_append_of_pos front]
    exact List.dropWhile_cons_of_neg (by rw [plain]; exact Bool.false_ne_true)
  have ends : dropEndBlanks (text ++ after) = text := by
    obtain ⟨rest, rfl⟩ := List.getLast?_eq_some_iff.mp final
    rw [dropEndBlanks, List.reverse_append,
      List.dropWhile_append_of_pos fun e member => back e (List.mem_reverse.mp member),
      List.reverse_append]
    change (List.dropWhile isBlank (d :: rest.reverse)).reverse = _
    rw [List.dropWhile_cons_of_neg (by rw [plain']; exact Bool.false_ne_true), List.reverse_cons,
      List.reverse_reverse]
  rw [trim, List.append_assoc, begins, ends]

private theorem Text.head_of_trimmed {text : List Char} (some : text ≠ [])
    (trimmed : trim text = text) :
    ∃ c, text.head? = .some c ∧ isBlank c = false := by
  have front : trim text <+: dropBlanks text := by
    rw [← List.reverse_suffix, trim, dropEndBlanks, List.reverse_reverse]
    exact List.dropWhile_suffix isBlank
  rw [trimmed] at front
  obtain ⟨rest, whole⟩ := front
  cases text with
  | nil => exact absurd rfl some
  | cons c text =>
      have plain := List.head?_dropWhile_not isBlank (c :: text)
      rw [← dropBlanks, ← whole] at plain
      exact ⟨c, rfl, plain⟩

namespace Config

open Text (trim isBlank)

/-! ### One entry -/

def IsKey (entry : List Char) : Prop :=
  ∃ front secret, entry = front ++ '=' :: secret ∧ '=' ∉ front ∧
    (∃ c ∈ front, isBlank c = false) ∧ secret ≠ []

/-- The name is the text in front of the first equals sign, without the blanks around it; the secret
is all that stands behind this sign. -/
def Describes (entry : List Char) (key : String × String) : Prop :=
  ∃ front, entry = front ++ '=' :: key.2.toList ∧ '=' ∉ front ∧ key.1.toList = trim front

private theorem parts_of_split {front : List Char} (first : '=' ∉ front) (secret : List Char) :
    (front ++ '=' :: secret).takeWhile (· ≠ '=') = front ∧
      ((front ++ '=' :: secret).dropWhile (· ≠ '=')).drop 1 = secret := by
  have before : ∀ c ∈ front, decide (c ≠ '=') = true := by
    intro c member
    refine decide_eq_true ?_
    rintro rfl
    exact first member
  constructor
  · rw [List.takeWhile_append_of_pos before, List.takeWhile_cons_of_neg (by decide),
      List.append_nil]
  · rw [List.dropWhile_append_of_pos before, List.dropWhile_cons_of_neg (by decide)]
    rfl

private theorem previousKey_split {front secret : List Char} (first : '=' ∉ front) :
    previousKey (front ++ '=' :: secret) =
      if trim front ≠ [] ∧ secret ≠ []
        then .ok (String.ofList (trim front), String.ofList secret)
      else .error (front ++ '=' :: secret) := by
  obtain ⟨name, rest⟩ := parts_of_split first secret
  have signed : (front ++ '=' :: secret).contains '=' = true := by simp
  simp only [previousKey, name, rest, signed, Bool.true_and, Bool.and_eq_true, Bool.not_eq_true',
    List.isEmpty_eq_false_iff]

private theorem previousKey_unsigned {entry : List Char} (absent : '=' ∉ entry) :
    previousKey entry = .error entry := by
  have unsigned : entry.contains '=' = false := by simpa using absent
  simp only [previousKey, unsigned, Bool.false_and, Bool.false_eq_true, if_false]

/-- A key is read as what it describes, and anything else is the flaw. -/
theorem previousKey_cases (entry : List Char) :
    (IsKey entry ∧ ∃ key, previousKey entry = .ok key ∧ Describes entry key) ∨
      ¬IsKey entry ∧ previousKey entry = .error entry := by
  by_cases signed : '=' ∈ entry
  · obtain ⟨front, secret, rfl, first⟩ := List.eq_append_cons_of_mem signed
    have named : trim front ≠ [] ↔ ∃ c ∈ front, isBlank c = false := by
      rw [Ne, Text.trim_eq_nil]
      simp
    rw [previousKey_split first]
    by_cases whole : trim front ≠ [] ∧ secret ≠ []
    · rw [if_pos whole]
      refine .inl ⟨⟨front, secret, rfl, first, named.mp whole.1, whole.2⟩, _, rfl, front,
        ?_, first, ?_⟩
      · rw [String.toList_ofList]
      · exact String.toList_ofList
    · rw [if_neg whole]
      refine .inr ⟨?_, rfl⟩
      rintro ⟨front', secret', same, first', nonblank, some⟩
      have parts := parts_of_split first secret
      rw [same, (parts_of_split first' secret').1, (parts_of_split first' secret').2] at parts
      obtain ⟨rfl, rfl⟩ := parts
      exact whole ⟨named.mpr nonblank, some⟩
  · refine .inr ⟨?_, previousKey_unsigned signed⟩
    rintro ⟨front, secret, rfl, -⟩
    exact signed (by simp)

/-! ### The list -/

structure Divides (text : String) (pieces : List (List Char)) : Prop where
  whole : [','].intercalate pieces = text.toList
  apart : ∀ piece ∈ pieces, ',' ∉ piece

def listed (pieces : List (List Char)) : List (List Char) := (pieces.map trim).filter (· ≠ [])

private theorem not_mem_of_mem_splitOn (text : List Char) :
    ∀ piece ∈ text.splitOn ',', ',' ∉ piece := by
  by_cases more : ',' ∈ text
  · obtain ⟨front, rest, rfl, first⟩ := List.eq_append_cons_of_mem more
    rw [List.splitOn_append_cons_self_of_not_mem first]
    intro piece member
    rcases List.mem_cons.mp member with rfl | later
    · exact first
    · exact not_mem_of_mem_splitOn rest piece later
  · rw [List.splitOn_eq_singleton more]
    intro piece member
    cases List.mem_singleton.mp member
    exact more
  termination_by text.length

private theorem exists_divides (text : String) : ∃ pieces, Divides text pieces :=
  ⟨text.toList.splitOn ',', List.intercalate_splitOn ',', not_mem_of_mem_splitOn text.toList⟩

theorem Divides.entries {text : String} {pieces : List (List Char)}
    (divides : Divides text pieces) :
    entries text = listed pieces := by
  cases pieces with
  | nil =>
      have nothing : text.toList = [] := divides.whole.symm
      rw [Config.entries, nothing]
      rfl
  | cons piece pieces =>
      rw [Config.entries, ← divides.whole,
        List.splitOn_intercalate ',' divides.apart (List.cons_ne_nil _ _)]
      refine List.filter_congr fun entry _ => ?_
      cases entry <;> rfl

structure KeysRead (pieces : List (List Char))
    (outcome : Except String (List (String × String))) : Prop where
  succeeds : (∃ keys, outcome = .ok keys) ↔ ∀ entry ∈ listed pieces, IsKey entry
  keys : ∀ keys, outcome = .ok keys → List.Forall₂ Describes (listed pieces) keys
  flaw : ∀ text, outcome = .error text →
    ∃ before after, listed pieces = before ++ text.toList :: after ∧
    (∀ entry ∈ before, IsKey entry) ∧ ¬IsKey text.toList

private theorem readPreviousKeys_read {text : String} {pieces : List (List Char)}
    (divides : Divides text pieces) :
    KeysRead pieces (readPreviousKeys text) := by
  have good {entry : List Char} {key : String × String} (read : previousKey entry = .ok key) :
      IsKey entry ∧ Describes entry key := by
    rcases previousKey_cases entry with ⟨isKey, key', read', describes⟩ | ⟨-, failed⟩
    · cases read.symm.trans read'
      exact ⟨isKey, describes⟩
    · cases read.symm.trans failed
  have bad {entry flaw : List Char} (failed : previousKey entry = .error flaw) :
      flaw = entry ∧ ¬IsKey entry := by
    rcases previousKey_cases entry with ⟨-, key, read, -⟩ | ⟨flawed, failed'⟩
    · cases failed.symm.trans read
    · cases failed.symm.trans failed'
      exact ⟨rfl, flawed⟩
  rw [readPreviousKeys, divides.entries]
  cases outcome : (listed pieces).mapM previousKey with
  | ok keys =>
      have each := mapM_eq_ok_iff.mp outcome
      refine ⟨?_, ?_, nofun⟩
      · refine ⟨fun _ entry member => ?_, fun _ => ⟨keys, rfl⟩⟩
        obtain ⟨key, -, read⟩ := exists_of_forall₂ each member
        exact (good read).1
      · rintro _ ⟨⟩
        exact each.imp fun entry key read => (good read).2
  | error entry =>
      obtain ⟨before, flawed, after, split, read, failed⟩ := mapM_eq_error outcome
      obtain ⟨rfl, notKey⟩ := bad failed
      refine ⟨?_, nofun, ?_⟩
      · refine ⟨nofun, fun every => ?_⟩
        exact absurd (every entry (split ▸ by simp)) notKey
      · rintro _ ⟨⟩
        rw [String.toList_ofList]
        refine ⟨before, after, split, fun earlier member => ?_, notKey⟩
        obtain ⟨key, ok⟩ := read earlier member
        exact (good ok).1

structure Writable (key : String × String) : Prop where
  named : key.1 ≠ ""
  trimmed : trim key.1.toList = key.1.toList
  nameApart : ',' ∉ key.1.toList
  signless : '=' ∉ key.1.toList
  secret : key.2 ≠ ""
  secretApart : ',' ∉ key.2.toList
  ends : ∀ c ∈ key.2.toList.getLast?, isBlank c = false

/-- The key is written with an equals sign, and with blanks around it or without. -/
def Writes (piece : List Char) (key : String × String) : Prop :=
  ∃ before after, piece = before ++ (key.1.toList ++ '=' :: key.2.toList) ++ after ∧
    (∀ c ∈ before, isBlank c = true) ∧ ∀ c ∈ after, isBlank c = true

section Written

variable {piece : List Char} {key : String × String}

theorem Writes.apart (writes : Writes piece key) (writable : Writable key) : ',' ∉ piece := by
  obtain ⟨before, after, rfl, front, back⟩ := writes
  have comma : ¬isBlank ',' = true := by decide
  simp only [List.mem_append, List.mem_cons]
  rintro ((early | name | sign | secret) | late)
  · exact comma (front _ early)
  · exact writable.nameApart name
  · exact absurd sign (by decide)
  · exact writable.secretApart secret
  · exact comma (back _ late)

theorem Writes.trimmed (writes : Writes piece key) (writable : Writable key) :
    trim piece = key.1.toList ++ '=' :: key.2.toList := by
  obtain ⟨before, after, rfl, front, back⟩ := writes
  refine Text.trim_padded front back ?_ ?_
  · have named : key.1.toList ≠ [] :=
      fun nothing => writable.named (String.toList_eq_nil_iff.mp nothing)
    obtain ⟨c, head, plain⟩ := Text.head_of_trimmed named writable.trimmed
    exact ⟨c, by rw [List.head?_append, head]; rfl, plain⟩
  · have some : key.2.toList ≠ [] :=
      fun nothing => writable.secret (String.toList_eq_nil_iff.mp nothing)
    obtain ⟨c, last⟩ := Option.ne_none_iff_exists'.mp (mt List.getLast?_eq_none_iff.mp some)
    refine ⟨c, ?_, writable.ends c last⟩
    rw [List.getLast?_append, List.getLast?_cons, last]
    rfl

theorem Writable.read (writable : Writable key) :
    previousKey (key.1.toList ++ '=' :: key.2.toList) = .ok key := by
  have named : key.1.toList ≠ [] :=
    fun nothing => writable.named (String.toList_eq_nil_iff.mp nothing)
  have some : key.2.toList ≠ [] :=
    fun nothing => writable.secret (String.toList_eq_nil_iff.mp nothing)
  rw [previousKey_split writable.signless, writable.trimmed, if_pos ⟨named, some⟩,
    String.ofList_toList, String.ofList_toList]

end Written

/-- Keys that can be written are read back, whatever blanks stand around the commas. -/
theorem readPreviousKeys_written {keys : List (String × String)} {pieces : List (List Char)}
    (writable : ∀ key ∈ keys, Writable key) (written : List.Forall₂ Writes pieces keys) :
    readPreviousKeys (String.ofList ([','].intercalate pieces)) = .ok keys := by
  have divides : Divides (String.ofList ([','].intercalate pieces)) pieces := by
    refine ⟨String.toList_ofList.symm, fun piece member => ?_⟩
    obtain ⟨key, among, writes⟩ := exists_of_forall₂ written member
    exact writes.apart (writable key among)
  rw [readPreviousKeys, divides.entries]
  have read : (listed pieces).mapM previousKey = .ok keys := by
    rw [mapM_eq_ok_iff]
    clear divides
    induction written with
    | nil => exact .nil
    | @cons piece key pieces keys writes _ ih =>
        have own := writable key List.mem_cons_self
        have later := ih fun other member => writable other (List.mem_cons_of_mem _ member)
        have first : listed (piece :: pieces) = trim piece :: listed pieces := by
          rw [listed, List.map_cons, List.filter_cons_of_pos, listed]
          rw [writes.trimmed own]
          simp
        rw [first]
        refine .cons ?_ later
        rw [writes.trimmed own]
        exact own.read
  rw [read]
  rfl

/-! ### The list as a setting -/

private theorem Jwt.load_flawed {env : Environment} {secret entry : String}
    (set : env.lookup "JWT_SECRET" = some secret) (some : secret ≠ "")
    (flawed : readPreviousKeys (textOr env "JWT_PREVIOUS_SECRETS" "") = .error entry) :
    Jwt.load env =
      .error ("JWT_PREVIOUS_SECRETS must be a comma-separated list of kid=secret pairs: " ++
      Text.quote ("malformed key entry " ++ Text.quote entry)) := by
  have present : requiredText env "JWT_SECRET" "JWT_SECRET must be set in the environment" =
      .ok secret := by
    rw [requiredText, set]
  rw [Jwt.load, present, flawed]
  change (if secret = "" then _ else _) = _
  rw [if_neg some]
  rfl

/-- A text is read as a list of keys exactly when each entry is one, and then as what the
entries describe, in their order; otherwise the first entry that is none is reported.
What is written is read back. -/
theorem previous_keys_exact :
    (∀ text, (∃ pieces, Divides text pieces) ∧
      ∀ pieces, Divides text pieces → KeysRead pieces (readPreviousKeys text)) ∧
      (∀ keys pieces, (∀ key ∈ keys, Writable key) → List.Forall₂ Writes pieces keys →
        readPreviousKeys (String.ofList ([','].intercalate pieces)) = .ok keys) ∧
      ∀ env secret entry, env.lookup "JWT_SECRET" = some secret → secret ≠ "" →
        readPreviousKeys (textOr env "JWT_PREVIOUS_SECRETS" "") = .error entry →
          Jwt.load env =
            .error ("JWT_PREVIOUS_SECRETS must be a comma-separated list of kid=secret pairs: " ++
            Text.quote ("malformed key entry " ++ Text.quote entry)) := by
  refine ⟨fun text => ⟨exists_divides text,
    fun pieces divides => readPreviousKeys_read divides⟩, ?_, ?_⟩
  · intro keys pieces writable written
    exact readPreviousKeys_written writable written
  · intro env secret entry set some flawed
    exact Jwt.load_flawed set some flawed

def twoKeys : List (String × String) := [("old", "s1"), ("older", " s=2")]

theorem twoKeys_read :
    (∀ key ∈ twoKeys, Writable key) ∧
    List.Forall₂ Writes ["old=s1 ".toList, "\tolder= s=2".toList] twoKeys ∧
      readPreviousKeys (String.ofList
        ([','].intercalate ["old=s1 ".toList, "\tolder= s=2".toList])) = .ok twoKeys ∧
      readPreviousKeys (textOr [("JWT_SECRET", "s"), ("JWT_PREVIOUS_SECRETS", "old=s1,older, =s2")]
        "JWT_PREVIOUS_SECRETS" "") = .error "older" ∧
      Jwt.load [("JWT_SECRET", "s"), ("JWT_PREVIOUS_SECRETS", "old=s1,older, =s2")] =
        .error ("JWT_PREVIOUS_SECRETS must be a comma-separated list of kid=secret pairs: " ++
          Text.quote ("malformed key entry " ++ Text.quote "older")) := by
  have writable : ∀ key ∈ twoKeys, Writable key := by
    intro key member
    rcases List.mem_cons.mp member with rfl | last
    · exact ⟨by decide, by decide, by decide, by decide, by decide, by decide,
        by rintro c ⟨⟩; rfl⟩
    · cases List.mem_singleton.mp last
      exact ⟨by decide, by decide, by decide, by decide, by decide, by decide,
        by rintro c ⟨⟩; rfl⟩
  have spaced (c : Char) (blank : isBlank c = true) : ∀ d ∈ [c], isBlank d = true :=
    List.forall_mem_singleton.mpr blank
  have written : List.Forall₂ Writes ["old=s1 ".toList, "\tolder= s=2".toList] twoKeys :=
    .cons ⟨[], [' '], by decide, List.forall_mem_nil _, spaced ' ' (by decide)⟩
      (.cons ⟨['\t'], [], by decide, spaced '\t' (by decide), List.forall_mem_nil _⟩ .nil)
  have flawed :
      readPreviousKeys (textOr [("JWT_SECRET", "s"), ("JWT_PREVIOUS_SECRETS", "old=s1,older, =s2")]
      "JWT_PREVIOUS_SECRETS" "") = .error "older" := by decide +kernel
  exact ⟨writable, written, previous_keys_exact.2.1 _ _ writable written, flawed,
    previous_keys_exact.2.2 _ "s" _ rfl (by decide) flawed⟩

end Config

end StatusPage
