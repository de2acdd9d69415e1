import StatusPage.Template.Parser

/-!
The tags of a template, apart from their order: where a pair of braces is first found, and which
bodies between two pairs are read as a tag.
-/

set_option autoImplicit false

namespace StatusPage.Template

/-! ### Pairs of a mark -/

section Pairs

variable {mark : Char} {source before after : List Char}

private theorem pair_prefix_iff {c d : Char} {rest : List Char} :
    [mark, mark] <+: c :: d :: rest ↔ c = mark ∧ d = mark := by
  rw [List.cons_prefix_cons, List.cons_prefix_cons]
  constructor
  · rintro ⟨rfl, rfl, -⟩
    exact ⟨rfl, rfl⟩
  · rintro ⟨rfl, rfl⟩
    exact ⟨rfl, rfl, List.nil_prefix⟩

theorem splitAtPair_eq_none_iff :
    splitAtPair mark source = none ↔ ¬[mark, mark] <:+: source := by
  fun_induction splitAtPair mark source with
  | case1 => simp
  | case2 c =>
      refine iff_of_true rfl fun pair => ?_
      have short := pair.length_le
      simp at short
  | case3 c d rest both =>
      refine iff_of_false (Option.some_ne_none _) fun free => free ?_
      exact (pair_prefix_iff.mpr both).isInfix
  | case4 c d rest other ih =>
      have step : [mark, mark] <:+: c :: d :: rest ↔ [mark, mark] <:+: d :: rest := by
        rw [List.infix_cons_iff, pair_prefix_iff]
        simp only [other, false_or]
      rw [Option.map_eq_none_iff, ih, step]

theorem splitAtPair_first (split : splitAtPair mark source = some (before, after)) :
    ¬[mark, mark] <:+: before ++ [mark] := by
  fun_induction splitAtPair mark source generalizing before after with
  | case1 => cases split
  | case2 => cases split
  | case3 c d rest both =>
      cases split
      intro pair
      have short := pair.length_le
      simp at short
  | case4 c d rest other ih =>
      obtain ⟨⟨front, back⟩, inner, ⟨⟩⟩ := Option.map_eq_some_iff.mp split
      rw [List.cons_append, List.infix_cons_iff]
      rintro (here | later)
      · cases front with
        | nil =>
            obtain ⟨rfl, -⟩ := List.cons.inj (splitAtPair_eq inner)
            exact other ⟨(pair_prefix_iff.mp here).1, rfl⟩
        | cons e front =>
            obtain ⟨rfl, -⟩ := List.cons.inj (splitAtPair_eq inner)
            exact other (pair_prefix_iff.mp here)
      · exact ih inner later

theorem splitAtPair_append (free : ¬[mark, mark] <:+: before ++ [mark]) :
    splitAtPair mark (before ++ mark :: mark :: after) = some (before, after) := by
  induction before with
  | nil => simp [splitAtPair]
  | cons c before ih =>
      rw [List.cons_append, List.infix_cons_iff, not_or] at free
      have inner := ih free.2
      -- The mark, or the next character of the part in front, comes second.
      cases before with
      | nil =>
          have other : ¬(c = mark ∧ mark = mark) := fun both => free.1 (pair_prefix_iff.mpr both)
          change splitAtPair mark (c :: mark :: mark :: after) = _
          rw [splitAtPair, if_neg other,
            show splitAtPair mark (mark :: mark :: after) = _ from inner]
          rfl
      | cons d before =>
          have other : ¬(c = mark ∧ d = mark) := fun both => free.1 (pair_prefix_iff.mpr both)
          change splitAtPair mark (c :: d :: (before ++ mark :: mark :: after)) = _
          rw [splitAtPair, if_neg other,
            show splitAtPair mark (d :: (before ++ mark :: mark :: after)) = _ from inner]
          rfl

theorem pair_concat_iff : [mark, mark] <:+: before ++ [mark] ↔
    [mark, mark] <:+: before ∨ before.getLast? = some mark := by
  rw [List.infix_concat_iff, or_comm]
  change _ ∨ [mark] ++ [mark] <:+ before ++ [mark] ↔ _
  rw [List.suffix_append_self_iff, List.singleton_suffix_iff_getLast?_eq_some]

end Pairs

/-! ### Bodies of tags -/

namespace Sigil

def chars : Sigil → List Char
  | .none => []
  | .shown => ['#']
  | .hidden => ['^']
  | .closing => ['/']

end Sigil

/-- What stands between the braces of a tag: no end of a tag, and, when the blanks at both ends are
taken away, a sigil or none, blanks, and the name of a field. -/
structure TagBody (sigil : Sigil) (field : Field) (body : List Char) : Prop where
  open_ended : ¬['\x7d', '\x7d'] <:+: body
  trimmed : ∃ blanks, (∀ c ∈ blanks, Text.isBlank c) ∧
    Text.trim body = sigil.chars ++ blanks ++ field.name.toList

theorem tagOf_inj {sigil sigil' : Sigil} {field field' : Field}
    (same : tagOf sigil field = tagOf sigil' field') :
    sigil = sigil' ∧ field = field' := by
  cases sigil <;> cases sigil' <;> cases same <;> exact ⟨rfl, rfl⟩

private theorem ofName?_field_iff {text : String} {field : Field} :
    Named.ofName? text = some field ↔ text = field.name := by
  constructor
  · intro found
    unfold Named.ofName? at found
    have named := List.find?_some found
    exact (eq_of_beq named).symm
  · rintro rfl
    cases field <;> decide

private theorem field_name (field : Field) :
    isName field.name.toList = true ∧ ∃ c, field.name.toList.getLast? = some c ∧
      c ≠ '\x7d' := by
  cases field <;> exact ⟨by decide, _, rfl, by decide⟩

private theorem name_head {name : List Char} (named : isName name = true) :
    ∃ c rest, name = c :: rest ∧ Text.isBlank c = false ∧ c ∉ ['#', '^', '/'] := by
  cases name with
  | nil => cases named
  | cons c rest =>
      have letter : isNameStart c = true := (Bool.and_eq_true_iff.mp named).1
      refine ⟨c, rest, rfl, ?_, ?_⟩
      · have bounds : 65 ≤ c.toNat ∧ c.toNat ≤ 122 := by
          simp only [isNameStart, Bool.or_eq_true, Bool.and_eq_true, decide_eq_true_eq,
            beq_iff_eq, Char.le_def, UInt32.le_iff_toNat_le] at letter
          rcases letter with (⟨low, high⟩ | ⟨low, high⟩) | rfl
          · exact ⟨low, Nat.le_trans high (by decide)⟩
          · exact ⟨Nat.le_trans (by decide) low, high⟩
          · decide
        simp [Text.isBlank]
        omega
      · intro sign
        simp only [List.mem_cons, List.not_mem_nil, or_false] at sign
        rcases sign with rfl | rfl | rfl <;> cases letter

private theorem splitSigil_chars (sigil : Sigil) {blanks name : List Char}
    (blank : ∀ c ∈ blanks, Text.isBlank c) (named : isName name = true) :
    splitSigil (sigil.chars ++ blanks ++ name) = (sigil, blanks ++ name) := by
  cases sigil with
  | none =>
      obtain ⟨c, rest, rfl, -, plain⟩ := name_head named
      have unmarked (d : Char) (others : List Char) (other : d ∉ ['#', '^', '/']) :
          splitSigil (d :: others) = (.none, d :: others) := by
        unfold splitSigil
        split <;> simp_all
      cases blanks with
      | nil => exact unmarked c rest plain
      | cons b blanks =>
          refine unmarked b _ fun sign => ?_
          have space := blank b List.mem_cons_self
          simp only [List.mem_cons, List.not_mem_nil, or_false] at sign
          rcases sign with rfl | rfl | rfl <;> exact absurd space (by decide)
  | shown | hidden | closing => rfl

private theorem dropBlanks_name {blanks name : List Char} (blank : ∀ c ∈ blanks, Text.isBlank c)
    (named : isName name = true) : Text.dropBlanks (blanks ++ name) = name := by
  obtain ⟨c, rest, rfl, letter, -⟩ := name_head named
  rw [Text.dropBlanks, List.dropWhile_append_of_pos blank,
    List.dropWhile_cons_of_neg (by simp [letter])]

private theorem splitSigil_eq {body rest : List Char} {sigil : Sigil}
    (split : splitSigil body = (sigil, rest)) :
    body = sigil.chars ++ rest := by
  unfold splitSigil at split
  split at split <;> cases split <;> rfl

private theorem readTag_named {body blanks name : List Char} {sigil : Sigil}
    (blank : ∀ c ∈ blanks, Text.isBlank c) (named : isName name = true)
    (trimmed : Text.trim body = sigil.chars ++ blanks ++ name) :
    readTag body =
      (Named.ofName? (String.ofList name)).elim (.error (.unknownField (String.ofList name)))
      fun field => .ok (tagOf sigil field) := by
  have present : (sigil.chars ++ blanks ++ name).isEmpty = false := by
    obtain ⟨c, rest, rfl, -⟩ := name_head named
    simp
  unfold readTag
  simp only [trimmed, present, splitSigil_chars sigil blank named, dropBlanks_name blank named,
    named, if_true, Bool.false_eq_true, if_false]
  cases (Named.ofName? (String.ofList name) : Option Field) <;> rfl

theorem readTag_eq_ok_iff {body : List Char} {tag : Tag} :
    readTag body = .ok tag ↔
      ∃ sigil field blanks, tag = tagOf sigil field ∧ (∀ c ∈ blanks, Text.isBlank c) ∧
        Text.trim body = sigil.chars ++ blanks ++ field.name.toList := by
  constructor
  · intro read
    unfold readTag at read
    rcases split : splitSigil (Text.trim body) with ⟨sigil, rest⟩
    simp only [split] at read
    by_cases empty : (Text.trim body).isEmpty
    · rw [if_pos empty] at read
      cases read
    rw [if_neg empty] at read
    by_cases name : isName (Text.dropBlanks rest)
    · rw [if_pos name] at read
      cases known : (Named.ofName? (String.ofList (Text.dropBlanks rest)) : Option Field) with
      | none => rw [known] at read; cases read
      | some field =>
          rw [known] at read
          cases read
          have whole : rest = rest.takeWhile Text.isBlank ++ field.name.toList := by
            rw [← ofName?_field_iff.mp known, String.toList_ofList, Text.dropBlanks,
              List.takeWhile_append_dropWhile]
          refine ⟨sigil, field, rest.takeWhile Text.isBlank, rfl, fun c member => ?_, ?_⟩
          · exact List.all_eq_true.mp List.all_takeWhile c member
          · rw [splitSigil_eq split, List.append_assoc, ← whole]
    · rw [if_neg name] at read
      cases read
  · rintro ⟨sigil, field, blanks, rfl, blank, trimmed⟩
    rw [readTag_named blank (field_name field).1 trimmed, String.ofList_toList,
      ofName?_field_iff.mpr rfl]
    rfl

/-- What is wrong with a body that is not read as a tag: there is nothing in it, it is no sigil or
none, blanks and a name, or the name is not the name of a field. -/
inductive BodyFlaw (body : List Char) : Flaw → Prop
  | empty (blank : Text.trim body = []) : BodyFlaw body .empty
  | malformed (present : Text.trim body ≠ [])
      (nameless : ∀ (sigil : Sigil) (blanks name : List Char),
        (∀ c ∈ blanks, Text.isBlank c) →
        Text.trim body = sigil.chars ++ blanks ++ name → ¬isName name) :
      BodyFlaw body (.malformed (String.ofList (Text.trim body)))
  | unknownField {sigil : Sigil} {blanks name : List Char}
      (blank : ∀ c ∈ blanks, Text.isBlank c) (named : isName name)
      (trimmed : Text.trim body = sigil.chars ++ blanks ++ name)
      (unknown : ∀ field : Field, name ≠ field.name.toList) :
      BodyFlaw body (.unknownField (String.ofList name))

private theorem readTag_blank {body : List Char} (blank : Text.trim body = []) :
    readTag body = .error .empty := by
  unfold readTag
  simp only [blank, List.isEmpty_nil, if_true]

private theorem readTag_nameless {body : List Char} (present : Text.trim body ≠ [])
    (nameless : ∀ (sigil : Sigil) (blanks name : List Char),
      (∀ c ∈ blanks, Text.isBlank c) →
      Text.trim body = sigil.chars ++ blanks ++ name → ¬isName name) :
    readTag body = .error (.malformed (String.ofList (Text.trim body))) := by
  rcases split : splitSigil (Text.trim body) with ⟨sigil, rest⟩
  have whole :
      Text.trim body = sigil.chars ++ rest.takeWhile Text.isBlank ++ Text.dropBlanks rest := by
    rw [splitSigil_eq split, List.append_assoc, Text.dropBlanks, List.takeWhile_append_dropWhile]
  have blank := List.all_eq_true.mp (List.all_takeWhile (p := Text.isBlank) (l := rest))
  have some : (Text.trim body).isEmpty = false := by simpa using present
  unfold readTag
  simp only [some, split, nameless sigil _ _ blank whole, Bool.false_eq_true, if_false]

theorem readTag_eq_error_iff {body : List Char} {flaw : Flaw} :
    readTag body = .error flaw ↔ BodyFlaw body flaw := by
  constructor
  · intro read
    by_cases blank : Text.trim body = []
    · cases (readTag_blank blank).symm.trans read
      exact .empty blank
    by_cases readable : ∃ (sigil : Sigil) (blanks name : List Char),
      (∀ c ∈ blanks, Text.isBlank c) ∧
        isName name ∧ Text.trim body = sigil.chars ++ blanks ++ name
    · obtain ⟨sigil, blanks, name, spaces, named, trimmed⟩ := readable
      rw [readTag_named spaces named trimmed] at read
      cases known : (Named.ofName? (String.ofList name) : Option Field) with
      | some field => rw [known] at read; cases read
      | none =>
          rw [known] at read
          cases read
          refine .unknownField spaces named trimmed fun field same => ?_
          rw [same, String.ofList_toList, ofName?_field_iff.mpr rfl] at known
          cases known
    · have nameless (sigil : Sigil) (blanks name : List Char)
          (spaces : ∀ c ∈ blanks, Text.isBlank c)
          (trimmed : Text.trim body = sigil.chars ++ blanks ++ name) : ¬isName name :=
        fun named => readable ⟨sigil, blanks, name, spaces, named, trimmed⟩
      cases (readTag_nameless blank nameless).symm.trans read
      exact .malformed blank nameless
  · rintro (blank | ⟨present, nameless⟩ | ⟨blank, named, trimmed, unknown⟩)
    · exact readTag_blank blank
    · exact readTag_nameless present nameless
    · rw [readTag_named blank named trimmed]
      cases known : (Named.ofName? (String.ofList _) : Option Field) with
      | some field =>
          have same := congrArg String.toList (ofName?_field_iff.mp known)
          exact absurd (String.toList_ofList.symm.trans same) (unknown field)
      | none => rfl

theorem trim_spec (text : List Char) :
    ∃ before after, text = before ++ Text.trim text ++ after ∧
    (∀ c ∈ before, Text.isBlank c) ∧ ∀ c ∈ after, Text.isBlank c := by
  refine ⟨text.takeWhile Text.isBlank,
    ((Text.dropBlanks text).reverse.takeWhile Text.isBlank).reverse, ?_, ?_, ?_⟩
  · rw [Text.trim, Text.dropEndBlanks, List.append_assoc, ← List.reverse_append,
      List.takeWhile_append_dropWhile, List.reverse_reverse, Text.dropBlanks,
      List.takeWhile_append_dropWhile]
  · exact List.all_eq_true.mp List.all_takeWhile
  · exact fun c member => List.all_eq_true.mp List.all_takeWhile c (List.mem_reverse.mp member)

theorem TagBody.read {sigil : Sigil} {field : Field} {body : List Char}
    (is_tag : TagBody sigil field body) :
    readTag body = .ok (tagOf sigil field) := by
  obtain ⟨blanks, blank, trimmed⟩ := is_tag.trimmed
  exact readTag_eq_ok_iff.mpr ⟨sigil, field, blanks, rfl, blank, trimmed⟩

theorem TagBody.bare (sigil : Sigil) (field : Field) :
    TagBody sigil field (sigil.chars ++ field.name.toList) where
  open_ended := by
    have braceless : '\x7d' ∉ sigil.chars ++ field.name.toList := by
      cases sigil <;> cases field <;> decide
    exact fun pair => braceless (pair.subset List.mem_cons_self)
  trimmed := by
    have unpadded :
        Text.trim (sigil.chars ++ field.name.toList) = sigil.chars ++ field.name.toList := by
      cases sigil <;> cases field <;> decide
    exact ⟨[], nofun, by rw [unpadded, List.append_nil]⟩

/-- The first pair of closing braces after a tag's body is the one that ends the tag. -/
theorem TagBody.ends {sigil : Sigil} {field : Field} {body : List Char}
    (is_tag : TagBody sigil field body) :
    ¬['\x7d', '\x7d'] <:+: body ++ ['\x7d'] := by
  rw [pair_concat_iff, not_or]
  refine ⟨is_tag.open_ended, fun last => ?_⟩
  obtain ⟨blanks, -, trimmed⟩ := is_tag.trimmed
  obtain ⟨before, after, whole, -, blank⟩ := trim_spec body
  obtain ⟨-, c, final, letter⟩ := field_name field
  rw [whole, trimmed, List.getLast?_append] at last
  cases ending : after.getLast? with
  | none =>
      rw [ending, List.getLast?_append, List.getLast?_append, final] at last
      exact letter (by simpa using last)
  | some d =>
      rw [ending] at last
      cases last
      exact absurd (blank _ (List.mem_of_getLast? ending)) (by decide)

end StatusPage.Template
