import StatusPage.Proofs.TemplateGrammar
import StatusPage.Template.Render

/-!
Templates put together. Two sources, one after the other, are a template again and show what the
first shows and then what the second shows; a source inside a section is shown whole or not at all.
Where two sources meet, the last text of the first and the first text of the second become one, so
that the nodes are not just put in line. Two braces that meet there would open a tag.
-/

set_option autoImplicit false

namespace StatusPage

/-- Whether a field has a value: a text that is not empty, or a time. -/
def TemplateData.Has (data : TemplateData) : Field → Prop
  | .serviceName => ∃ text, data.serviceName = some text ∧ text ≠ ""
  | .serviceGroupName => ∃ text, data.serviceGroupName = some text ∧ text ≠ ""
  | .startedAt => ∃ time, data.startedAt = some time
  | .resolvedAt => ∃ time, data.resolvedAt = some time
  | .scheduledStart => ∃ time, data.scheduledStart = some time
  | .scheduledEnd => ∃ time, data.scheduledEnd = some time

theorem TemplateData.value_isSome {data : TemplateData} {field : Field} :
    (data.value field).isSome ↔ data.Has field := by
  have some_text (text : Option String) :
      (text.filter (· ≠ "")).isSome ↔ ∃ shown, text = some shown ∧ shown ≠ "" := by
    cases text with
    | none => simp
    | some text => by_cases empty : text = "" <;> simp [Option.filter, empty]
  cases field with
  | serviceName => exact some_text data.serviceName
  | serviceGroupName => exact some_text data.serviceGroupName
  | startedAt | resolvedAt | scheduledStart | scheduledEnd =>
      simp only [value, Has, Option.isSome_map, Option.isSome_iff_exists]

namespace Template

/-! ### Nodes put together -/

def Node.before : Node → List Node → List Node
  | .text chars, .text others :: rest => .text (chars ++ others) :: rest
  | node, rest => node :: rest

def joined (first second : List Node) : List Node := first.foldr Node.before second

private theorem renderNodes_before (data : TemplateData) (node : Node) (rest : List Node) :
    renderNodes data (node.before rest) = renderNodes data (node :: rest) := by
  unfold Node.before
  split
  · rename_i chars others rest
    simp only [renderNodes, renderNode]
    cases renderNodes data rest with
    | error field => rfl
    | ok shown => exact congrArg Except.ok (List.append_assoc chars others shown)
  · rfl

private theorem renderNodes_joined (data : TemplateData) (first second : List Node) :
    renderNodes data (joined first second) = (do
      let shown ← renderNodes data first
      let others ← renderNodes data second
      return shown ++ others) := by
  induction first with
  | nil =>
      change renderNodes data second = _
      cases renderNodes data second <;> rfl
  | cons node first ih =>
      change renderNodes data (node.before (joined first second)) = _
      rw [renderNodes_before]
      simp only [renderNodes, ih]
      cases renderNode data node with
      | error field => rfl
      | ok shown =>
          cases renderNodes data first with
          | error field => rfl
          | ok others =>
              cases renderNodes data second with
              | error field => rfl
              | ok rest => exact congrArg Except.ok (List.append_assoc shown others rest).symm

/-! ### Derivations put together -/

/-- Two sources can stand next to each other when no pair of opening braces
comes into being between them. -/
def Apart (first second : List Char) : Prop :=
  ¬(first.getLast? = some '\x7b' ∧ second.head? = some '\x7b')

private theorem pair_append {mark : Char} {first second : List Char}
    (pair : [mark, mark] <:+: first ++ second) :
    [mark, mark] <:+: first ∨ [mark, mark] <:+: second ∨
      first.getLast? = some mark ∧ second.head? = some mark := by
  induction first with
  | nil => exact .inr (.inl pair)
  | cons c first ih =>
      rw [List.cons_append, List.infix_cons_iff] at pair
      rcases pair with here | later
      · cases first with
        | nil =>
            obtain ⟨rfl, rest⟩ := List.cons_prefix_cons.mp here
            cases second with
            | nil => simp at rest
            | cons d second =>
                obtain ⟨rfl, -⟩ := List.cons_prefix_cons.mp rest
                exact .inr (.inr ⟨rfl, rfl⟩)
        | cons d first =>
            refine .inl (List.infix_cons_iff.mpr (.inl ?_))
            obtain ⟨rfl, rest⟩ := List.cons_prefix_cons.mp here
            obtain ⟨rfl, -⟩ := List.cons_prefix_cons.mp rest
            exact ⟨first, rfl⟩
      · rcases ih later with inside | other | ⟨last, head⟩
        · exact .inl (List.infix_cons_iff.mpr (.inr inside))
        · exact .inr (.inl other)
        · refine .inr (.inr ⟨?_, head⟩)
          rw [List.getLast?_cons, last]
          rfl

theorem Apart.of_append {front first second : List Char} (apart : Apart (front ++ first) second) :
    Apart first second := by
  rintro ⟨last, head⟩
  exact apart ⟨by rw [List.getLast?_append, last]; rfl, head⟩

/-- A text in front of a template, of which it becomes the first text, or the
beginning of the first text. -/
theorem Derives.before {chars source : List Char} {nodes : List Node}
    (derives : Derives false source nodes) (nonempty : chars ≠ [])
    (plain : ¬['\x7b', '\x7b'] <:+: chars) (apart : Apart chars source) :
    Derives false (chars ++ source) ((Node.text chars).before nodes) := by
  have tag_apart {body rest : List Char} (meets : Apart chars (tagged body rest)) :
      chars.getLast? ≠ some '\x7b' :=
    fun last => meets ⟨last, rfl⟩
  cases derives with
  | nil => exact .text nonempty plain (by simp) nofun (.nil false)
  | @text _ others source nodes some others_plain others_apart maximal rest =>
      rw [← List.append_assoc]
      refine .text (by simp [nonempty]) ?_ ?_ maximal rest
      · intro pair
        rcases pair_append pair with inside | other | ⟨last, head⟩
        · exact plain inside
        · exact others_plain other
        · exact apart ⟨last, by rw [List.head?_append, head]; rfl⟩
      · intro followed last
        obtain ⟨front, final, rfl⟩ := List.eq_nil_or_concat others |>.resolve_left some
        refine others_apart followed ?_
        rw [← last, List.concat_eq_append, ← List.append_assoc, List.getLast?_concat,
          List.getLast?_concat]
  | value tag rest => exact .text nonempty plain (fun _ => tag_apart apart) nofun (.value tag rest)
  | conditional opens content closes rest =>
      exact .text nonempty plain (fun _ =>
        tag_apart apart) nofun (.conditional opens content closes rest)

theorem Derives.append {first second : List Char} {nodes others : List Node}
    (derives : Derives false first nodes) (after : Derives false second others)
    (apart : Apart first second) :
    Derives false (first ++ second) (joined nodes others) := by
  generalize outside : false = followed at derives
  induction derives with
  | nil =>
      subst outside
      exact after
  | @text followed chars source nodes nonempty plain ends maximal rest ih =>
      subst outside
      rw [List.append_assoc]
      refine (ih apart.of_append rfl).before nonempty plain ?_
      rintro ⟨last, head⟩
      cases rest with
      | nil => exact apart ⟨by rwa [List.append_nil], head⟩
      | text => exact maximal _ _ rfl
      | value => exact ends (.inr nofun) last
      | conditional => exact ends (.inr nofun) last
  | @value followed body source field nodes tag rest ih =>
      subst outside
      rw [tagged_append]
      rw [← tagged_nil_append] at apart
      exact .value tag (ih apart.of_append rfl)
  | @conditional followed opening inner closing source field inverted nodes others opens content
    closes rest _ ih =>
      subst outside
      rw [tagged_append, List.append_assoc, tagged_append]
      rw [← tagged_nil_append closing, ← List.append_assoc, ← tagged_append] at apart
      exact .conditional opens content closes (ih apart.of_append rfl)

theorem Derives.followed {source : List Char} {nodes : List Node}
    (derives : Derives false source nodes) (ends : source.getLast? ≠ some '\x7b') :
    Derives true source nodes := by
  generalize outside : false = followed at derives
  induction derives with
  | nil => exact .nil true
  | @text followed chars source nodes nonempty plain apart maximal rest ih =>
      subst outside
      have inner : source.getLast? ≠ some '\x7b' :=
        fun last => ends (by rw [List.getLast?_append, last]; rfl)
      refine .text nonempty plain (fun _ => ?_) maximal (ih inner rfl)
      cases rest with
      | nil => rwa [List.append_nil] at ends
      | text => exact absurd rfl (maximal _ _)
      | value => exact apart (.inr nofun)
      | conditional => exact apart (.inr nofun)
  | @value followed body source field nodes tag rest ih =>
      subst outside
      refine .value tag (ih (fun last => ends ?_) rfl)
      rw [← tagged_nil_append, List.getLast?_append, last]
      rfl
  | @conditional followed opening inner closing source field inverted nodes others opens content
    closes rest _ ih =>
      subst outside
      refine .conditional opens content closes (ih (fun last => ends ?_) rfl)
      rw [← tagged_nil_append closing, ← List.append_assoc, ← tagged_append,
        List.getLast?_append, last]
      rfl

/-! ### Sources put together -/

private theorem render_of_parse {source : String} {nodes : List Node}
    (parsed : parse source = .ok nodes) (data : TemplateData) :
    render source data = renderParsed data nodes := by
  unfold render
  rw [parsed]
  rfl

private theorem renderParsed_joined (data : TemplateData) (first second : List Node) :
    renderParsed data (joined first second) = (do
      let shown ← renderParsed data first
      let others ← renderParsed data second
      return shown ++ others) := by
  unfold renderParsed
  rw [renderNodes_joined]
  cases renderNodes data first with
  | error field => rfl
  | ok shown =>
      cases renderNodes data second with
      | error field => rfl
      | ok others => exact congrArg Except.ok (String.ofList_append)

private theorem parse_append {source other : String} {nodes others : List Node}
    (parsed : parse source = .ok nodes) (parsed' : parse other = .ok others)
    (apart : Apart source.toList other.toList) :
    parse (source ++ other) = .ok (joined nodes others) := by
  refine Derives.parse ?_
  rw [String.toList_append]
  exact (derives_of_parse parsed).append (derives_of_parse parsed') apart

def sectionOf (inverted : Bool) (field : Field) (source : String) : String :=
  "\x7b\x7b" ++ (if inverted then "^" else "#") ++ field.name ++ "\x7d\x7d" ++ source ++
    "\x7b\x7b/" ++ field.name ++ "\x7d\x7d"

example : sectionOf true .startedAt "soon" =
      "\x7b\x7b^started_at\x7d\x7dsoon\x7b\x7b/started_at\x7d\x7d" := rfl

private theorem sectionOf_toList (inverted : Bool) (field : Field) (source : String) :
    (sectionOf inverted field source).toList =
      tagged ((Sigil.opening inverted).chars ++ field.name.toList)
        (source.toList ++ tagged (Sigil.closing.chars ++ field.name.toList) []) := by
  cases inverted <;> simp [sectionOf, tagged, Sigil.opening, Sigil.chars]

private theorem parse_sectionOf {source : String} {nodes : List Node}
    (parsed : parse source = .ok nodes) (ends : source.toList.getLast? ≠ some '\x7b')
    (inverted : Bool) (field : Field) :
    parse (sectionOf inverted field source) = .ok [.conditional field inverted nodes] := by
  have content : Derives true source.toList nodes := (derives_of_parse parsed).followed ends
  refine Derives.parse ?_
  rw [sectionOf_toList]
  exact .conditional (.bare _ field) content (.bare _ field) (.nil false)

private theorem renderParsed_conditional (data : TemplateData) (field : Field) (inverted : Bool)
    (nodes : List Node) :
    renderParsed data [.conditional field inverted nodes] =
      if (data.value field).isSome ≠ inverted then renderParsed data nodes else .ok "" := by
  unfold renderParsed
  simp only [renderNodes, renderNode]
  by_cases shown : (data.value field).isSome ≠ inverted
  · rw [if_pos shown, if_pos shown]
    cases renderNodes data nodes with
    | error field => rfl
    | ok text => exact congrArg (Except.ok ∘ String.ofList) (List.append_nil text)
  · rw [if_neg shown, if_neg shown]
    rfl

/-- What two sources show, one after the other, is what the first shows and then what the second
shows, or what is missing first; and a section shows what is in it, or nothing. -/
theorem render_compositional {source : String} {nodes : List Node}
    (parsed : parse source = .ok nodes) :
    (∀ other others, parse other = .ok others → Apart source.toList other.toList →
      (∃ both, parse (source ++ other) = .ok both) ∧
      ∀ data, render (source ++ other) data = (do
        let shown ← render source data
        let rest ← render other data
        return shown ++ rest)) ∧
      (source.toList.getLast? ≠ some '\x7b' → ∀ field,
        (∃ both, parse (sectionOf false field source) = .ok both) ∧
          (∃ both, parse (sectionOf true field source) = .ok both) ∧
          ∀ data : TemplateData,
            (data.Has field → render (sectionOf false field source) data = render source data ∧
              render (sectionOf true field source) data = .ok "") ∧
            (¬data.Has field → render (sectionOf false field source) data = .ok "" ∧
              render (sectionOf true field source) data = render source data)) := by
  constructor
  · intro other others parsed' apart
    have both := parse_append parsed parsed' apart
    refine ⟨⟨_, both⟩, fun data => ?_⟩
    rw [render_of_parse both, render_of_parse parsed, render_of_parse parsed', renderParsed_joined]
  · intro ends field
    have parts (inverted : Bool) := parse_sectionOf parsed ends inverted field
    refine ⟨⟨_, parts false⟩, ⟨_, parts true⟩, fun data => ?_⟩
    rw [render_of_parse (parts false), render_of_parse (parts true), render_of_parse parsed,
      renderParsed_conditional, renderParsed_conditional, ← TemplateData.value_isSome]
    cases (data.value field).isSome <;> simp

/-- A brace at the end of a source stays text when other text follows, and a section about what is
missing is shown. -/
theorem outage_compositional :
    let data : TemplateData := ⟨some "API", none, none, none, none, none⟩
    parse "\x7b\x7bservice_name\x7d\x7d: \x7b" =
      .ok [.value .serviceName, .text [':', ' ', '\x7b']] ∧
      parse "down\x7d" = .ok [.text ['d', 'o', 'w', 'n', '\x7d']] ∧
      Apart "\x7b\x7bservice_name\x7d\x7d: \x7b".toList "down\x7d".toList ∧
      render ("\x7b\x7bservice_name\x7d\x7d: \x7b" ++ "down\x7d") data = .ok "API: \x7bdown\x7d" ∧
      "down\x7d".toList.getLast? ≠ some '\x7b' ∧ ¬data.Has .resolvedAt ∧
      render (sectionOf true .resolvedAt "down\x7d") data = .ok "down\x7d" := by
  intro data
  have text (chars : List Char) (nonempty : chars ≠ []) (plain : ¬['\x7b', '\x7b'] <:+: chars) :
      Derives false chars [.text chars] := by
    have derives := Derives.text nonempty plain (by simp) (by simp) (.nil false)
    rwa [List.append_nil] at derives
  have first : parse "\x7b\x7bservice_name\x7d\x7d: \x7b" = .ok [.value .serviceName,
      .text [':', ' ', '\x7b']] :=
    Derives.parse
      (.value (.bare .none .serviceName) (text [':', ' ', '\x7b'] (by decide) (by decide)))
  have second : parse "down\x7d" = .ok [.text ['d', 'o', 'w', 'n', '\x7d']] :=
    Derives.parse (text ['d', 'o', 'w', 'n', '\x7d'] (by decide) (by decide))
  have apart : Apart "\x7b\x7bservice_name\x7d\x7d: \x7b".toList "down\x7d".toList := by
    unfold Apart; decide
  have ends : "down\x7d".toList.getLast? ≠ some '\x7b' := by decide
  have missing : ¬data.Has .resolvedAt := nofun
  have shown : render "down\x7d" data = .ok "down\x7d" := by
    rw [render_of_parse second]
    rfl
  refine ⟨first, second, apart, ?_, ends, missing, ?_⟩
  · refine (((render_compositional first).1 _ _ second apart).2 data).trans ?_
    rw [render_of_parse first, shown]
    rfl
  · obtain ⟨-, -, forms⟩ := (render_compositional second).2 ends .resolvedAt
    exact ((forms data).2 missing).2.trans shown

end Template

end StatusPage
