import StatusPage.Proofs.TemplateTags

/-!
The grammar of templates, and that a source is parsed exactly when it has a derivation. The parser
works with a stack of open sections and with lists in reverse. What such a stack still asks of the
rest of a source is stated as `Completes`; each step of the parser keeps it.
-/

set_option autoImplicit false

namespace StatusPage.Template

def Sigil.opening : Bool → Sigil
  | false => .shown
  | true => .hidden

def tagged (body rest : List Char) : List Char :=
  '\x7b' :: '\x7b' :: (body ++ '\x7d' :: '\x7d' :: rest)

/-- The source of a template and its nodes. With `followed` the template stands in front of a tag,
the one that closes its section. Texts are as long as they can be: none stands next to another, and
none has, or makes with the tag after it, an earlier pair of opening braces. -/
inductive Derives : Bool → List Char → List Node → Prop
  | nil (followed : Bool) : Derives followed [] []
  | text {followed : Bool} {chars source : List Char} {nodes : List Node} (nonempty : chars ≠ [])
      (plain : ¬['\x7b', '\x7b'] <:+: chars)
      (apart : followed = true ∨ nodes ≠ [] → chars.getLast? ≠ some '\x7b')
      (maximal : ∀ others rest, nodes ≠ .text others :: rest)
      (rest : Derives followed source nodes) :
      Derives followed (chars ++ source) (.text chars :: nodes)
  | value {followed : Bool} {body source : List Char} {field : Field} {nodes : List Node}
      (tag : TagBody .none field body) (rest : Derives followed source nodes) :
      Derives followed (tagged body source) (.value field :: nodes)
  | conditional {followed : Bool} {opening inner closing source : List Char} {field : Field}
      {inverted : Bool} {nodes others : List Node}
      (opens : TagBody (.opening inverted) field opening) (content : Derives true inner nodes)
      (closes : TagBody .closing field closing) (rest : Derives followed source others) :
      Derives followed (tagged opening (inner ++ tagged closing source))
        (.conditional field inverted nodes :: others)

theorem tagOf_opening (inverted : Bool) (field : Field) :
    tagOf (.opening inverted) field = .opening field inverted := by
  cases inverted <;> rfl

theorem tagged_append (body rest after : List Char) :
    tagged body rest ++ after = tagged body (rest ++ after) := by
  simp [tagged]

theorem tagged_nil_append (body rest : List Char) : tagged body [] ++ rest = tagged body rest :=
  tagged_append body [] rest

/-! ### What is cut -/

section Cut

variable {before body : List Char}

private theorem cut_cases (offset : Nat) (source : List Char) :
    ¬['\x7b', '\x7b'] <:+: source ∧ cut offset source = textPiece source ∨
      (∃ before start, cut offset source = textPiece before ++ [.unterminated start]) ∨
      ∃ before body rest later, source = before ++ tagged body rest ∧
        ¬['\x7b', '\x7b'] <:+: before ++ ['\x7b'] ∧ ¬['\x7d', '\x7d'] <:+: body ++ ['\x7d'] ∧
        cut offset source = textPiece before ++ .tag (offset + Text.utf8Length before) body ::
          cut later rest := by
  rw [cut]
  split
  · rename_i none
    exact .inl ⟨splitAtPair_eq_none_iff.mp none, rfl⟩
  · rename_i before inside opened
    simp only
    split
    · exact .inr (.inl ⟨before, _, rfl⟩)
    · rename_i body rest closed
      refine .inr (.inr ⟨before, body, rest, _, ?_, splitAtPair_first opened,
        splitAtPair_first closed, rfl⟩)
      rw [splitAtPair_eq opened, splitAtPair_eq closed]
      rfl

theorem cut_plain (offset : Nat) (plain : ¬['\x7b', '\x7b'] <:+: before) :
    cut offset before = textPiece before := by
  have none := splitAtPair_eq_none_iff.mpr plain
  unfold cut
  split
  · rfl
  · rename_i some
    rw [none] at some
    cases some

theorem cut_tagged (offset : Nat) (rest : List Char)
    (first : ¬['\x7b', '\x7b'] <:+: before ++ ['\x7b'])
    (ends : ¬['\x7d', '\x7d'] <:+: body ++ ['\x7d']) :
    cut offset (before ++ tagged body rest) =
      textPiece before ++ .tag (offset + Text.utf8Length before) body ::
        cut (offset + Text.utf8Length before + 2 + Text.utf8Length body + 2) rest := by
  have opened : splitAtPair '\x7b' (before ++ tagged body rest) = some (before,
      body ++ '\x7d' :: '\x7d' :: rest) :=
    splitAtPair_append first
  have closed : splitAtPair '\x7d' (body ++ '\x7d' :: '\x7d' :: rest) = some (body, rest) :=
    splitAtPair_append ends
  rw [cut]
  split
  · rename_i none
    rw [opened] at none
    cases none
  · rename_i some
    rw [opened] at some
    cases some
    simp only
    split
    · rename_i none
      rw [closed] at none
      cases none
    · rename_i some
      rw [closed] at some
      cases some
      rfl

end Cut

/-! ### Every derivation is parsed -/

/-- What may come after a template: nothing, or a tag. -/
def Follows (followed : Bool) (after : List Char) : Prop :=
  if followed then ∃ body rest, after = tagged body rest ∧
    ¬['\x7d', '\x7d'] <:+: body ++ ['\x7d']
  else after = []

theorem TagBody.follows {sigil : Sigil} {field : Field} {body : List Char}
    (is_tag : TagBody sigil field body) (rest : List Char) : Follows true (tagged body rest) :=
  ⟨body, rest, rfl, is_tag.ends⟩

theorem Derives.ahead {followed : Bool} {source after : List Char} {nodes : List Node}
    (derives : Derives followed source nodes)
    (maximal : ∀ others rest, nodes ≠ .text others :: rest)
    (follows : Follows followed after) :
    Follows (followed || !nodes.isEmpty) (source ++ after) := by
  cases derives with
  | nil => simpa using follows
  | text => exact absurd rfl (maximal _ _)
  | value tag rest =>
      rw [tagged_append]
      simpa using tag.follows _
  | conditional opens content closes rest =>
      rw [tagged_append]
      simpa using opens.follows _

private theorem cut_text {chars after : List Char} {followed : Bool} (offset : Nat)
    (nonempty : chars ≠ []) (plain : ¬['\x7b', '\x7b'] <:+: chars)
    (apart : followed = true → chars.getLast? ≠ some '\x7b')
    (follows : Follows followed after) :
    cut offset (chars ++ after) = .text chars :: cut (offset + Text.utf8Length chars) after := by
  have piece : textPiece chars = [.text chars] := if_neg (by simpa using nonempty)
  cases followed with
  | false =>
      cases follows
      rw [List.append_nil, cut_plain offset plain, piece, cut_plain _ (by simp)]
      rfl
  | true =>
      obtain ⟨body, rest, rfl, ends⟩ := follows
      have first : ¬['\x7b', '\x7b'] <:+: chars ++ ['\x7b'] := by
        rw [pair_concat_iff, not_or]
        exact ⟨plain, apart rfl⟩
      have single : ¬['\x7b', '\x7b'] <:+: [] ++ ['\x7b'] := by decide
      have here := cut_tagged (offset + Text.utf8Length chars) rest single ends
      rw [List.nil_append] at here
      rw [cut_tagged offset rest first ends, here, piece]
      rfl

theorem nest_opening {sections : List OpenSection} {nodes : List Node} {offset : Nat}
    {body : List Char} {pieces : List Piece} {field : Field} {inverted : Bool}
    (opens : TagBody (.opening inverted) field body) :
    nest sections nodes (.tag offset body :: pieces) =
      nest (⟨field, inverted, offset, nodes⟩ :: sections) [] pieces := by
  simp only [nest, opens.read, tagOf_opening]

theorem nest_closing {sections : List OpenSection} {nodes outer : List Node} {offset opened : Nat}
    {body : List Char} {pieces : List Piece} {field : Field} {inverted : Bool}
    (closes : TagBody .closing field body) :
    nest (⟨field, inverted, opened, outer⟩ :: sections) nodes (.tag offset body :: pieces) =
      nest sections (.conditional field inverted nodes.reverse :: outer) pieces := by
  simp only [nest, closes.read, tagOf, if_true]

private theorem cut_tag {sigil : Sigil} {field : Field} {body : List Char} (offset : Nat)
    (rest : List Char) (is_tag : TagBody sigil field body) :
    ∃ later, cut offset (tagged body rest) = .tag offset body :: cut later rest := by
  have single : ¬['\x7b', '\x7b'] <:+: [] ++ ['\x7b'] := by decide
  exact ⟨_, cut_tagged offset rest single is_tag.ends⟩

/-- The parser goes over the source of a derivation and has its nodes in
the innermost section then. -/
theorem Derives.nested {followed : Bool} {source : List Char} {nodes : List Node}
    (derives : Derives followed source nodes) {after : List Char} (follows : Follows followed after)
    (sections : List OpenSection) (before : List Node) (offset : Nat) :
    ∃ later, nest sections before (cut offset (source ++ after)) =
      nest sections (nodes.reverse ++ before) (cut later after) := by
  induction derives generalizing after sections before offset with
  | nil followed => exact ⟨offset, rfl⟩
  | @text followed chars source nodes nonempty plain apart maximal rest ih =>
      have ahead := rest.ahead maximal follows
      have guarded : (followed || !nodes.isEmpty) = true → chars.getLast? ≠ some '\x7b' := by
        intro some
        refine apart ?_
        simpa using some
      rw [List.append_assoc, cut_text offset nonempty plain guarded ahead, nest]
      obtain ⟨later, parsed⟩ :=
        ih follows sections (.text chars :: before) (offset + Text.utf8Length chars)
      refine ⟨later, parsed.trans ?_⟩
      rw [List.reverse_cons, List.append_assoc]
      rfl
  | @value followed body source field nodes tag rest ih =>
      rw [tagged_append]
      obtain ⟨next, cutting⟩ := cut_tag offset (source ++ after) tag
      obtain ⟨later, parsed⟩ := ih follows sections (.value field :: before) next
      refine ⟨later, ?_⟩
      rw [cutting, List.reverse_cons, List.append_assoc]
      simp only [nest, tag.read, tagOf]
      exact parsed
  | @conditional followed opening inner closing source field inverted nodes others opens content
      closes rest ihContent ihRest =>
      rw [tagged_append, List.append_assoc, tagged_append]
      obtain ⟨inside, cutting⟩ :=
        cut_tag offset (inner ++ tagged closing (source ++ after)) opens
      obtain ⟨ending, parsed⟩ := ihContent (closes.follows (source ++ after))
        (⟨field, inverted, offset, before⟩ :: sections) [] inside
      obtain ⟨next, cutting'⟩ := cut_tag ending (source ++ after) closes
      obtain ⟨later, parsed'⟩ :=
        ihRest follows sections (.conditional field inverted nodes :: before) next
      refine ⟨later, ?_⟩
      rw [cutting, nest_opening opens, parsed, cutting', nest_closing closes, List.append_nil,
        List.reverse_reverse, parsed', List.reverse_cons, List.append_assoc]
      rfl

theorem Derives.parsed {source : List Char} {nodes : List Node}
    (derives : Derives false source nodes) :
    parseChars source = .ok nodes := by
  have follows : Follows false [] := rfl
  obtain ⟨later, parsed⟩ := derives.nested follows [] [] 0
  rw [List.append_nil, List.append_nil, cut_plain later (by simp)] at parsed
  rw [parseChars, parsed]
  simp [textPiece, nest]

/-! ### Whatever is parsed has a derivation -/

def textNodes (chars : List Char) : List Node := if chars.isEmpty then [] else [.text chars]

theorem nest_textPiece (sections : List OpenSection) (nodes : List Node) (chars : List Char)
    (pieces : List Piece) :
    nest sections nodes (textPiece chars ++ pieces) =
      nest sections ((textNodes chars).reverse ++ nodes) pieces := by
  unfold textPiece textNodes
  split
  · rfl
  · rfl

theorem Derives.after_text {followed : Bool} {chars source : List Char} {nodes : List Node}
    (derives : Derives followed source nodes) (plain : ¬['\x7b', '\x7b'] <:+: chars)
    (apart : followed = true ∨ nodes ≠ [] → chars.getLast? ≠ some '\x7b')
    (maximal : ∀ others rest, nodes ≠ .text others :: rest) :
    Derives followed (chars ++ source) (textNodes chars ++ nodes) := by
  unfold textNodes
  split
  · rename_i empty
    rw [List.isEmpty_iff.mp empty]
    exact derives
  · rename_i some
    exact .text (by simpa using some) plain apart maximal derives

/-- What the rest of a source must still be for an end with these nodes: for each open section the
rest of its content and the tag that closes it, and then the rest of the template. -/
def Completes : List OpenSection → List Node → List Char → List Node → Prop
  | [], before, source, result =>
    ∃ nodes, Derives false source nodes ∧ result = before.reverse ++ nodes
  | innermost :: sections, before, source, result =>
      ∃ inner nodes closing rest, source = inner ++ tagged closing rest ∧
        Derives true inner nodes ∧
        TagBody .closing innermost.field closing ∧
        Completes sections
          (.conditional innermost.field innermost.inverted (before.reverse ++ nodes) ::
            innermost.outer) rest result

/-- Nodes in the innermost section may as well be derived from the source in front of the rest. -/
theorem Completes.extend {front : List Char} {extra : List Node} {sections : List OpenSection}
    {before result : List Node} {source : List Char}
    (sound : ∀ followed source nodes, Derives followed source nodes →
      Derives followed (front ++ source) (extra ++ nodes))
    (completes : Completes sections (extra.reverse ++ before) source result) :
    Completes sections before (front ++ source) result := by
  cases sections with
  | nil =>
      obtain ⟨nodes, derives, rfl⟩ := completes
      refine ⟨extra ++ nodes, sound _ _ _ derives, ?_⟩
      rw [List.reverse_append, List.reverse_reverse, List.append_assoc]
  | cons innermost sections =>
      obtain ⟨inner, nodes, closing, rest, rfl, content, closes, completes⟩ := completes
      refine ⟨front ++ inner, extra ++ nodes, closing, rest, ?_,
        sound _ _ _ content, closes, ?_⟩
      · rw [List.append_assoc]
      · rw [List.reverse_append, List.reverse_reverse, List.append_assoc] at completes
        exact completes

theorem TagBody.of_read {sigil : Sigil} {field : Field} {body : List Char}
    (read : readTag body = .ok (tagOf sigil field))
    (ends : ¬['\x7d', '\x7d'] <:+: body ++ ['\x7d']) :
    TagBody sigil field body := by
  obtain ⟨sigil', field', blanks, same, blank, trimmed⟩ := readTag_eq_ok_iff.mp read
  obtain ⟨rfl, rfl⟩ := tagOf_inj same
  rw [pair_concat_iff, not_or] at ends
  exact ⟨ends.1, blanks, blank, trimmed⟩

private theorem nest_completes {source : List Char} {result : List Node}
    (sections : List OpenSection) (before : List Node) (offset : Nat)
    (parsed : nest sections before (cut offset source) = .ok result) :
    Completes sections before source result := by
  induction length : source.length using Nat.strongRecOn
    generalizing source sections before offset with
  | ind n ih =>
      rcases cut_cases offset source with ⟨plain, cutting⟩ | ⟨chars, start, cutting⟩ |
        ⟨chars, body, rest, later, rfl, first, ends, cutting⟩
      · rw [cutting, ← List.append_nil (textPiece source), nest_textPiece] at parsed
        cases sections with
        | nil =>
            cases parsed
            refine ⟨textNodes source, ?_, by simp⟩
            have derives := (Derives.nil false).after_text plain (by simp) (by simp)
            simpa using derives
        | cons innermost sections => cases parsed
      · rw [cutting, nest_textPiece] at parsed
        cases parsed
      · rw [cutting, nest_textPiece] at parsed
        rw [pair_concat_iff, not_or] at first
        obtain ⟨plain, apart⟩ := first
        have shorter : rest.length < n := by
          rw [← length]
          simp [tagged]
          omega
        cases read : readTag body with
        | error flaw =>
            simp only [nest, read] at parsed
            cases parsed
        | ok tag =>
            cases tag with
            | value field =>
                simp only [nest, read] at parsed
                have tags : TagBody .none field body := .of_read read ends
                have completes := ih rest.length shorter _ _ _ parsed rfl
                rw [← List.cons_append, ← List.reverse_concat] at completes
                rw [← tagged_nil_append, ← List.append_assoc]
                refine completes.extend fun followed source nodes derives => ?_
                rw [List.append_assoc, tagged_nil_append, List.append_assoc]
                exact (Derives.value tags derives).after_text plain (fun _ => apart) nofun
            | opening field inverted =>
                simp only [nest, read] at parsed
                have opens : TagBody (.opening inverted) field body :=
                  .of_read (read.trans (congrArg _ (tagOf_opening inverted field).symm)) ends
                obtain ⟨inner, nodes, closing, rest, rfl, content, closes, completes⟩ :=
                  ih rest.length shorter _ _ _ parsed rfl
                rw [List.reverse_nil, List.nil_append, ← List.cons_append,
                  ← List.reverse_concat] at completes
                rw [← tagged_nil_append closing, ← List.append_assoc, ← tagged_append,
                  ← List.append_assoc]
                refine completes.extend fun followed source nodes derives => ?_
                rw [List.append_assoc, tagged_append, List.append_assoc, tagged_nil_append,
                  List.append_assoc]
                exact (Derives.conditional opens content closes derives).after_text plain
                  (fun _ => apart) nofun
            | closing field =>
                simp only [nest, read] at parsed
                cases sections with
                | nil => cases parsed
                | cons innermost sections =>
                    change (if innermost.field = field then _ else _) = _ at parsed
                    by_cases same : innermost.field = field
                    · subst same
                      rw [if_pos rfl] at parsed
                      refine ⟨chars, textNodes chars, body, rest, rfl, ?_,
                        .of_read read ends, ?_⟩
                      · have derives := (Derives.nil true).after_text plain (fun _ => apart) nofun
                        simpa using derives
                      · have completes := ih rest.length shorter _ _ _ parsed rfl
                        rw [List.reverse_append, List.reverse_reverse] at completes
                        exact completes
                    · rw [if_neg same] at parsed
                      cases parsed

theorem derives_of_parse {source : String} {nodes : List Node} (parsed : parse source = .ok nodes) :
    Derives false source.toList nodes := by
  unfold parse parseChars at parsed
  cases nested : nest [] [] (cut 0 source.toList) with
  | error e => rw [nested] at parsed; cases parsed
  | ok found =>
      rw [nested] at parsed
      cases parsed
      obtain ⟨nodes, derives, rfl⟩ := nest_completes [] [] 0 nested
      exact derives

theorem Derives.parse {source : String} {nodes : List Node}
    (derives : Derives false source.toList nodes) :
    Template.parse source = .ok nodes := by
  rw [Template.parse, derives.parsed]
  rfl

/-- A source is parsed exactly when it has a derivation, and has no other nodes then. -/
theorem parse_eq_ok_iff (source : String) (nodes : List Node) :
    (parse source = .ok nodes ↔ Derives false source.toList nodes) ∧
      (parse source = .ok nodes → ∀ others, Derives false source.toList others →
        others = nodes) := by
  refine ⟨⟨derives_of_parse, Derives.parse⟩, fun parsed others derives => ?_⟩
  exact Except.ok.inj (derives.parse.symm.trans parsed)

end StatusPage.Template
