import StatusPage.Proofs.TemplateGrammar

/-!
Sources that are no templates, and where their first flaw is. A source is read from its beginning;
as long as all tags are in order, what has been read is described by `InOrder`, with the sections
that are still open. The parser stops at the first tag that is not in order, before it has looked at
anything behind that tag, or at the end of the source when a section is open there. So the place and
the reason that it reports are the same for all sources that begin alike.
-/

set_option autoImplicit false

namespace StatusPage.Template

/-- A section that waits for its end: where its tag begins, and its field. -/
structure Opened where
  offset : Nat
  field : Field

def OpenSection.opened (waiting : OpenSection) : Opened := ⟨waiting.offset, waiting.field⟩

/-- A text in front of a tag: the first pair of opening braces is that of the tag. -/
def Leads (text : List Char) : Prop := ¬['\x7b', '\x7b'] <:+: text ++ ['\x7b']

/-- The beginning of a source up to the end of a tag, when it is made of texts and well-formed tags
and every tag that closes a section closes the one that was opened last; with the sections that are
still open, the last one first. -/
inductive InOrder : List Char → List Opened → Prop
  | nil : InOrder [] []
  | value {front text body : List Char} {opened : List Opened} {field : Field}
      (earlier : InOrder front opened) (leads : Leads text) (tag : TagBody .none field body) :
      InOrder (front ++ text ++ tagged body []) opened
  | opening {front text body : List Char} {opened : List Opened} {field : Field} {inverted : Bool}
      (earlier : InOrder front opened) (leads : Leads text)
      (tag : TagBody (.opening inverted) field body) :
      InOrder (front ++ text ++ tagged body [])
        (⟨Text.utf8Length (front ++ text), field⟩ :: opened)
  | closing {front text body : List Char} {opened : List Opened} {offset : Nat} {field : Field}
      (earlier : InOrder front (⟨offset, field⟩ :: opened)) (leads : Leads text)
      (tag : TagBody .closing field body) :
      InOrder (front ++ text ++ tagged body []) opened

/-- What stands in front of a tag, when all tags before that one are in order. -/
def Reaches (before : List Char) (opened : List Opened) : Prop :=
  ∃ front text, before = front ++ text ∧ InOrder front opened ∧ Leads text

/-- What is wrong with a tag that has an end, where some sections are open. -/
inductive TagFlaw (opened : List Opened) (body : List Char) : Flaw → Prop
  | body {flaw : Flaw} (unreadable : BodyFlaw body flaw) : TagFlaw opened body flaw
  | strayClose {field : Field} (tag : TagBody .closing field body) (none : opened = []) :
      TagFlaw opened body (.strayClose field)
  | wrongClose {field : Field} {last : Opened} {others : List Opened}
      (tag : TagBody .closing field body) (some : opened = last :: others)
      (other : last.field ≠ field) : TagFlaw opened body (.wrongClose field last.field)

/-- The first flaw of a source and its place: a tag that has no end, a tag that is not in order, or,
when there is no such tag, the section opened last of those that are open at the end. -/
inductive FirstFlaw : List Char → Nat → Flaw → Prop
  | unterminated {before rest : List Char} {opened : List Opened} (earlier : Reaches before opened)
      (endless : ¬['\x7d', '\x7d'] <:+: rest) :
      FirstFlaw (before ++ '\x7b' :: '\x7b' :: rest) (Text.utf8Length before) .unterminated
  | tag {before body rest : List Char} {opened : List Opened} {flaw : Flaw}
      (earlier : Reaches before opened) (ends : ¬['\x7d', '\x7d'] <:+: body ++ ['\x7d'])
      (flawed : TagFlaw opened body flaw) :
      FirstFlaw (before ++ tagged body rest) (Text.utf8Length before) flaw
  | neverClosed {front text : List Char} {last : Opened} {others : List Opened}
      (earlier : InOrder front (last :: others)) (plain : ¬['\x7b', '\x7b'] <:+: text) :
      FirstFlaw (front ++ text) last.offset (.neverClosed last.field)

/-! ### Places -/

theorem utf8Length_append (first second : List Char) :
    Text.utf8Length (first ++ second) = Text.utf8Length first + Text.utf8Length second := by
  have from_start (n : Nat) (text : List Char) :
      text.foldl (fun n c => n + c.utf8Size) n = n + text.foldl (fun n c => n + c.utf8Size) 0 := by
    induction text generalizing n with
    | nil => rfl
    | cons c text ih =>
        rw [List.foldl_cons, List.foldl_cons, ih, ih (0 + c.utf8Size)]
        omega
  rw [Text.utf8Length, List.foldl_append, from_start]
  rfl

theorem utf8Length_toList (text : String) : Text.utf8Length text.toList = text.utf8ByteSize := by
  have listed (chars : List Char) : Text.utf8Length chars = (String.ofList chars).utf8ByteSize := by
    induction chars with
    | nil => rfl
    | cons c chars ih =>
        change Text.utf8Length ([c] ++ chars) = _
        rw [utf8Length_append, ih, String.ofList_cons, String.utf8ByteSize_append,
          String.utf8ByteSize_singleton]
        exact congrArg (· + _) (Nat.zero_add c.utf8Size)
  rw [listed, String.ofList_toList]

theorem utf8Length_tagged (body : List Char) :
    Text.utf8Length (tagged body []) = 2 + Text.utf8Length body + 2 := by
  change Text.utf8Length (['\x7b', '\x7b'] ++ (body ++ ['\x7d', '\x7d'])) = _
  rw [utf8Length_append, utf8Length_append, Nat.add_assoc]
  rfl

theorem cut_next (front text body rest : List Char) (leads : Leads text)
    (ends : ¬['\x7d', '\x7d'] <:+: body ++ ['\x7d']) :
    cut (Text.utf8Length front) (text ++ tagged body rest) =
      textPiece text ++ .tag (Text.utf8Length (front ++ text)) body ::
        cut (Text.utf8Length (front ++ text ++ tagged body [])) rest := by
  rw [cut_tagged _ rest leads ends, utf8Length_append (front ++ text), utf8Length_append front,
    utf8Length_tagged]
  simp only [Nat.add_assoc]

theorem cut_unterminated {text rest : List Char} (offset : Nat) (leads : Leads text)
    (endless : ¬['\x7d', '\x7d'] <:+: rest) :
    cut offset (text ++ '\x7b' :: '\x7b' :: rest) =
      textPiece text ++ [.unterminated (offset + Text.utf8Length text)] := by
  have opened : splitAtPair '\x7b' (text ++ '\x7b' :: '\x7b' :: rest) = some (text, rest) :=
    splitAtPair_append leads
  have closed : splitAtPair '\x7d' rest = none := splitAtPair_eq_none_iff.mpr endless
  rw [cut]
  split
  · rename_i none
    rw [opened] at none
    cases none
  · rename_i some
    rw [opened] at some
    cases some
    simp only
    split
    · rfl
    · rename_i some
      rw [closed] at some
      cases some

theorem source_cases (source : List Char) :
    ¬['\x7b', '\x7b'] <:+: source ∨
      (∃ text rest,
        source = text ++ '\x7b' :: '\x7b' :: rest ∧ Leads text ∧
        ¬['\x7d', '\x7d'] <:+: rest) ∨
      ∃ text body rest, source = text ++ tagged body rest ∧ Leads text ∧
        ¬['\x7d', '\x7d'] <:+: body ++ ['\x7d'] := by
  cases opened : splitAtPair '\x7b' source with
  | none => exact .inl (splitAtPair_eq_none_iff.mp opened)
  | some split =>
      obtain ⟨text, inside⟩ := split
      have leads : Leads text := splitAtPair_first opened
      refine .inr ?_
      rw [splitAtPair_eq opened]
      cases closed : splitAtPair '\x7d' inside with
      | none => exact .inl ⟨text, inside, rfl, leads, splitAtPair_eq_none_iff.mp closed⟩
      | some split =>
          obtain ⟨body, rest⟩ := split
          refine .inr ⟨text, body, rest, ?_, leads, splitAtPair_first closed⟩
          rw [splitAtPair_eq closed]
          rfl

/-! ### What the parser does -/

/-- After a beginning that is in order, the parser waits for the ends of the open
sections, whatever follows. -/
theorem InOrder.read {front : List Char} {opened : List Opened} (inOrder : InOrder front opened) :
    ∃ sections nodes, sections.map OpenSection.opened = opened ∧ ∀ rest,
      parseChars (front ++ rest) = nest sections nodes (cut (Text.utf8Length front) rest) := by
  induction inOrder with
  | nil => exact ⟨[], [], rfl, fun rest => rfl⟩
  | @value front text body opened field earlier leads tag ih =>
      obtain ⟨sections, nodes, waiting, before⟩ := ih
      refine ⟨sections, .value field :: ((textNodes text).reverse ++ nodes), waiting,
        fun rest => ?_⟩
      rw [List.append_assoc, List.append_assoc, tagged_nil_append, before,
        cut_next _ _ _ _ leads tag.ends, nest_textPiece, nest, tag.read]
      rfl
  | @opening front text body opened field inverted earlier leads tag ih =>
      obtain ⟨sections, nodes, waiting, before⟩ := ih
      refine ⟨⟨field, inverted, Text.utf8Length (front ++ text),
        (textNodes text).reverse ++ nodes⟩ :: sections, [],
        congrArg (List.cons _) waiting, fun rest => ?_⟩
      rw [List.append_assoc, List.append_assoc, tagged_nil_append, before,
        cut_next _ _ _ _ leads tag.ends, nest_textPiece, nest_opening tag]
  | @closing front text body opened offset field earlier leads tag ih =>
      obtain ⟨sections, nodes, waiting, before⟩ := ih
      obtain ⟨innermost, outer, rfl, same, rest⟩ := List.map_eq_cons_iff.mp waiting
      obtain ⟨field, inverted, offset, outside⟩ := innermost
      cases same
      refine ⟨outer,
        .conditional field inverted ((textNodes text).reverse ++ nodes).reverse :: outside, rest,
        fun rest => ?_⟩
      rw [List.append_assoc, List.append_assoc, tagged_nil_append, before,
        cut_next _ _ _ _ leads tag.ends, nest_textPiece, nest_closing tag]

theorem FirstFlaw.reported {source : List Char} {offset : Nat} {flaw : Flaw}
    (first : FirstFlaw source offset flaw) :
    parseChars source = .error (offset, flaw) := by
  cases first with
  | @unterminated _ rest opened earlier endless =>
      obtain ⟨front, text, rfl, inOrder, leads⟩ := earlier
      obtain ⟨sections, nodes, -, before⟩ := inOrder.read
      rw [List.append_assoc, before, cut_unterminated _ leads endless, nest_textPiece, nest,
        utf8Length_append]
  | @tag _ body rest opened flaw earlier ends flawed =>
      obtain ⟨front, text, rfl, inOrder, leads⟩ := earlier
      obtain ⟨sections, nodes, waiting, before⟩ := inOrder.read
      rw [List.append_assoc, before, cut_next _ _ _ _ leads ends, nest_textPiece, nest]
      cases flawed with
      | body unreadable => rw [readTag_eq_error_iff.mpr unreadable]
      | strayClose tag none =>
          subst none
          cases List.map_eq_nil_iff.mp waiting
          rw [tag.read]
          rfl
      | wrongClose tag some other =>
          subst some
          obtain ⟨innermost, outer, rfl, rfl, -⟩ := List.map_eq_cons_iff.mp waiting
          rw [tag.read]
          exact if_neg other
  | @neverClosed front text last others earlier plain =>
      obtain ⟨sections, nodes, waiting, before⟩ := earlier.read
      obtain ⟨innermost, outer, rfl, rfl, -⟩ := List.map_eq_cons_iff.mp waiting
      rw [before, cut_plain _ plain, ← List.append_nil (textPiece text), nest_textPiece]
      rfl

/-- At a tag the parser stops for a flaw, or goes on and what it has read is in order. -/
theorem nest_tag {front text body : List Char} {opened : List Opened} {sections : List OpenSection}
    (inOrder : InOrder front opened) (waiting : sections.map OpenSection.opened = opened)
    (leads : Leads text) (ends : ¬['\x7d', '\x7d'] <:+: body ++ ['\x7d']) (nodes : List Node)
    (pieces : List Piece) :
    let offset := Text.utf8Length (front ++ text)
    (∃ flaw, TagFlaw opened body flaw ∧ nest sections nodes (.tag offset body :: pieces) =
      .error (offset, flaw)) ∨
      ∃ opened' sections' nodes', InOrder (front ++ text ++ tagged body []) opened' ∧
        sections'.map OpenSection.opened = opened' ∧
        nest sections nodes (.tag offset body :: pieces) = nest sections' nodes' pieces := by
  intro offset
  cases read : readTag body with
  | error flaw =>
      refine .inl ⟨flaw, .body (readTag_eq_error_iff.mp read), ?_⟩
      simp only [nest, read]
  | ok tag =>
      cases tag with
      | value field =>
          refine .inr ⟨opened, sections, .value field :: nodes,
            .value inOrder leads (.of_read read ends), waiting, ?_⟩
          simp only [nest, read]
      | opening field inverted =>
          have tag : TagBody (.opening inverted) field body :=
            .of_read (read.trans (congrArg _ (tagOf_opening inverted field).symm)) ends
          exact .inr ⟨_, ⟨field, inverted, offset, nodes⟩ :: sections, [],
            .opening inOrder leads tag, congrArg (List.cons _) waiting, nest_opening tag⟩
      | closing field =>
          have tag : TagBody .closing field body := .of_read read ends
          cases sections with
          | nil =>
              refine .inl ⟨_, .strayClose tag waiting.symm, ?_⟩
              simp only [nest, read]
          | cons innermost outer =>
              subst waiting
              by_cases same : innermost.field = field
              · subst same
                exact .inr ⟨_, outer, _, .closing inOrder leads tag, rfl, nest_closing tag⟩
              · refine .inl ⟨_, .wrongClose tag rfl same, ?_⟩
                simp only [nest, read, if_neg same]
                rfl

/-- When the parser stops, what it has read is in order, and what it stops at is the first flaw. -/
theorem nest_flaw {front source : List Char} {opened : List Opened} {sections : List OpenSection}
    {nodes : List Node} {offset : Nat} {flaw : Flaw} (inOrder : InOrder front opened)
    (waiting : sections.map OpenSection.opened = opened)
    (rejected : nest sections nodes (cut (Text.utf8Length front) source) = .error (offset, flaw)) :
    FirstFlaw (front ++ source) offset flaw := by
  -- What is in order grows by one tag at a time, and the rest of the source gets shorter.
  induction length : source.length using Nat.strongRecOn
    generalizing front source opened sections nodes with
  | ind n ih =>
      rcases source_cases source with plain | ⟨text, rest, rfl, leads, endless⟩ | ⟨text, body,
        rest, rfl, leads, ends⟩
      · rw [cut_plain _ plain, ← List.append_nil (textPiece source), nest_textPiece] at rejected
        cases sections with
        | nil => cases rejected
        | cons innermost outer =>
            cases rejected
            subst waiting
            exact .neverClosed inOrder plain
      · rw [cut_unterminated _ leads endless, nest_textPiece, nest,
          ← utf8Length_append] at rejected
        cases rejected
        rw [← List.append_assoc]
        exact .unterminated ⟨front, text, rfl, inOrder, leads⟩ endless
      · rw [cut_next _ _ _ _ leads ends, nest_textPiece] at rejected
        rw [← List.append_assoc]
        rcases nest_tag inOrder waiting leads ends _ _ with
          ⟨found, flawed, stops⟩ | ⟨opened', sections', nodes', inOrder', waiting', goes⟩
        · cases stops.symm.trans rejected
          exact .tag ⟨front, text, rfl, inOrder, leads⟩ ends flawed
        · have shorter : rest.length < n := by
            rw [← length]
            simp [tagged]
            omega
          rw [← tagged_nil_append, ← List.append_assoc]
          exact ih rest.length shorter inOrder' waiting' (goes.symm.trans rejected) rfl

private theorem parseChars_eq_error_iff {source : List Char} {offset : Nat} {flaw : Flaw} :
    parseChars source = .error (offset, flaw) ↔ FirstFlaw source offset flaw :=
  ⟨fun rejected => nest_flaw .nil rfl rejected, FirstFlaw.reported⟩

/-! ### What is reported -/

def Opened.BegunIn (waiting : Opened) (front : List Char) : Prop :=
  ∃ before inverted body rest, front = before ++ tagged body rest ∧
    Text.utf8Length before = waiting.offset ∧
    TagBody (.opening inverted) waiting.field body

theorem Opened.BegunIn.append {waiting : Opened} {front : List Char} (begun : waiting.BegunIn front)
    (more : List Char) : waiting.BegunIn (front ++ more) := by
  obtain ⟨before, inverted, body, rest, rfl, place, opens⟩ := begun
  exact ⟨before, inverted, body, rest ++ more,
    by rw [List.append_assoc, tagged_append], place, opens⟩

theorem InOrder.begun {front : List Char} {opened : List Opened} (inOrder : InOrder front opened) :
    ∀ waiting ∈ opened, waiting.BegunIn front := by
  induction inOrder with
  | nil => nofun
  | value earlier leads tag ih =>
    exact fun waiting member => ((ih waiting member).append _).append _
  | @opening front text body opened field inverted earlier leads tag ih =>
      intro waiting member
      rcases List.mem_cons.mp member with rfl | member
      · exact ⟨front ++ text, inverted, body, [], rfl, rfl, tag⟩
      · exact ((ih waiting member).append _).append _
  | closing earlier leads tag ih =>
      exact fun waiting member => ((ih waiting (List.mem_cons_of_mem _ member)).append _).append _

private theorem parse_eq_error_iff {source : String} {e : TemplateError} :
    parse source = .error e ↔ ∃ offset flaw, e = .parse offset flaw.reason ∧
      FirstFlaw source.toList offset flaw := by
  unfold parse
  constructor
  · intro rejected
    cases read : parseChars source.toList with
    | ok nodes =>
        rw [read] at rejected
        cases rejected
    | error report =>
        obtain ⟨offset, flaw⟩ := report
        rw [read] at rejected
        cases rejected
        exact ⟨offset, flaw, rfl, parseChars_eq_error_iff.mp read⟩
  · rintro ⟨offset, flaw, rfl, first⟩
    rw [first.reported]
    rfl

def written (body : String) : String := "\x7b\x7b" ++ body ++ "\x7d\x7d"

private theorem written_toList (before body rest : String) :
    (before ++ written body ++ rest).toList = before.toList ++ tagged body.toList rest.toList := by
  simp [written, tagged]

/-- Of a source that is no template the first tag that is not in order is reported, by the number of
bytes in front of it. Whatever stands behind that tag does not matter: a tag without an end is
reported for all sources that begin alike and in which it has no end, any other tag for all sources
that begin alike up to its end. When all tags are in order, the tag of the section opened last of
those still open is reported. -/
theorem parse_error_first {source : String} {e : TemplateError}
    (rejected : parse source = .error e) :
    ∃ (before : String) (flaw : Flaw), e = .parse before.utf8ByteSize flaw.reason ∧
      ((∃ opened rest, flaw = .unterminated ∧ source = before ++ "\x7b\x7b" ++ rest ∧
          Reaches before.toList opened ∧ ¬['\x7d', '\x7d'] <:+: rest.toList ∧
          ∀ other : String, ¬['\x7d', '\x7d'] <:+: other.toList →
            parse (before ++ "\x7b\x7b" ++ other) = .error e) ∨
        (∃ opened body rest,
          TagFlaw opened body.toList flaw ∧ source = before ++ written body ++ rest ∧
          Reaches before.toList opened ∧ ¬['\x7d', '\x7d'] <:+: body.toList ++ ['\x7d'] ∧
          ∀ other, parse (before ++ written body ++ other) = .error e) ∨
        ∃ field inverted body rest, flaw = .neverClosed field ∧
          source = before ++ written body ++ rest ∧
          TagBody (.opening inverted) field body.toList ∧
          ∃ front text others, source = front ++ text ∧
            InOrder front.toList (⟨before.utf8ByteSize, field⟩ :: others) ∧
            ¬['\x7b', '\x7b'] <:+: text.toList) := by
  obtain ⟨offset, flaw, rfl, first⟩ := parse_eq_error_iff.mp rejected
  have report {other : String} (first : FirstFlaw other.toList offset flaw) :
      parse other = .error (.parse offset flaw.reason) :=
    parse_eq_error_iff.mpr ⟨offset, flaw, rfl, first⟩
  have string (chars : List Char) : ∃ text : String, chars = text.toList :=
    ⟨String.ofList chars, String.toList_ofList.symm⟩
  generalize chars : source.toList = whole at first
  cases first with
  | @unterminated before rest opened earlier endless =>
      obtain ⟨before, rfl⟩ := string before
      obtain ⟨rest, rfl⟩ := string rest
      refine ⟨before, .unterminated, by rw [utf8Length_toList],
        .inl ⟨opened, rest, rfl, ?_, earlier, endless, fun other endless => report ?_⟩⟩
      · exact String.toList_inj.mp (by simp [chars])
      · have first := FirstFlaw.unterminated earlier endless
        simpa using first
  | @tag before body rest opened flaw earlier ends flawed =>
      obtain ⟨before, rfl⟩ := string before
      obtain ⟨body, rfl⟩ := string body
      obtain ⟨rest, rfl⟩ := string rest
      refine ⟨before, flaw, by rw [utf8Length_toList],
        .inr (.inl ⟨opened, body, rest, flawed, ?_, earlier, ends,
        fun other => report ?_⟩)⟩
      · exact String.toList_inj.mp (by rw [chars, written_toList])
      · rw [written_toList]
        exact .tag earlier ends flawed
  | @neverClosed front text last others earlier plain =>
      -- The flaw has the place that was noted when the section was opened.
      obtain ⟨before, inverted, body, rest, rfl, place, opens⟩ :=
        earlier.begun last List.mem_cons_self
      obtain ⟨before, rfl⟩ := string before
      obtain ⟨body, rfl⟩ := string body
      obtain ⟨rest, rfl⟩ := string rest
      obtain ⟨text, rfl⟩ := string text
      rw [utf8Length_toList] at place
      refine ⟨before, .neverClosed last.field, by rw [place],
        .inr (.inr ⟨last.field, inverted, body, rest ++ text, rfl,
        ?_, opens, before ++ written body ++ rest, text, others, ?_, ?_, plain⟩)⟩
      · refine String.toList_inj.mp ?_
        rw [chars, written_toList, String.toList_append, List.append_assoc, tagged_append]
      · exact String.toList_inj.mp (by rw [chars, String.toList_append, written_toList])
      · rw [written_toList, place]
        exact earlier

/-- The tag that closes the wrong section is reported, at its place in bytes, not the one without an
end after it. -/
theorem crossed_sections_reported :
    parse "é\x7b\x7b#service_name\x7d\x7ddown\x7b\x7b/started_at\x7d\x7d \x7b\x7b" =
        .error (.parse 23 "closing \"started_at\" but \"service_name\" is open") ∧
      ∃ before rest : String,
        "é\x7b\x7b#service_name\x7d\x7ddown\x7b\x7b/started_at\x7d\x7d \x7b\x7b" =
          before ++ "\x7b\x7b" ++ rest ∧
          before.utf8ByteSize = 23 := by
  have opened :
      InOrder ([] ++ ['é'] ++ tagged "#service_name".toList []) [⟨2, .serviceName⟩] :=
    .opening .nil (by unfold Leads; decide) (.bare (.opening false) .serviceName)
  have crossed : FirstFlaw
      ("é\x7b\x7b#service_name\x7d\x7ddown".toList ++
        tagged "/started_at".toList " \x7b\x7b".toList) 23
      (.wrongClose .startedAt .serviceName) :=
    .tag ⟨_, "down".toList, rfl, opened, by unfold Leads; decide⟩
      (TagBody.bare .closing .startedAt).ends
      (.wrongClose (.bare .closing .startedAt) rfl (by decide))
  have rejected : parse "é\x7b\x7b#service_name\x7d\x7ddown\x7b\x7b/started_at\x7d\x7d \x7b\x7b" =
      .error (.parse 23 "closing \"started_at\" but \"service_name\" is open") :=
    parse_eq_error_iff.mpr ⟨23, .wrongClose .startedAt .serviceName, rfl, crossed⟩
  refine ⟨rejected, ?_⟩
  obtain ⟨before, flaw, report, first⟩ := parse_error_first rejected
  have place : 23 = before.utf8ByteSize := (TemplateError.parse.inj report).1
  rcases first with ⟨-, rest, -, whole, -⟩ | ⟨-, body, rest, -, whole, -⟩ | ⟨-, -, body,
    rest, -, whole, -⟩
  · exact ⟨before, rest, whole, place.symm⟩
  all_goals
    refine ⟨before, body ++ "\x7d\x7d" ++ rest, whole.trans ?_, place.symm⟩
    simp only [written, String.append_assoc]

end StatusPage.Template
