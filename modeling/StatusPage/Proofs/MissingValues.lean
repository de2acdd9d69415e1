import StatusPage.Proofs.TemplateComposition

/-!
What a template needs to be shown. A place in a template is given by the positions at which one goes
down to it, so that places are read in the order of their lists. Rendering fails at the first place
that is shown and where there is no value to show. Fields that the template does not name play no
part.
-/

set_option autoImplicit false

namespace StatusPage.Template

/-! ### Places -/

/-- The node at a place, and the fields of the sections around it with their
signs, the outermost first. -/
inductive At : List Node → List Nat → List (Field × Bool) → Node → Prop
  | here {nodes : List Node} {i : Nat} {node : Node} (found : nodes[i]? = some node) :
      At nodes [i] [] node
  | inside {nodes inner : List Node} {i : Nat} {field : Field} {inverted : Bool} {place : List Nat}
      {around : List (Field × Bool)} {node : Node}
      (found : nodes[i]? = some (.conditional field inverted inner))
      (within : At inner place around node) :
      At nodes (i :: place) ((field, inverted) :: around) node

def Active (data : TemplateData) : Field × Bool → Prop
  | (field, false) => data.Has field
  | (field, true) => ¬data.Has field

/-- A value is to be shown at a place, all sections around it are shown, and there is no value. -/
def Missing (data : TemplateData) (nodes : List Node) (place : List Nat) (field : Field) : Prop :=
  ∃ around, At nodes place around (.value field) ∧
    (∀ enclosing ∈ around, Active data enclosing) ∧ ¬data.Has field

/-- A place is read before another one, or is the same or a section around it. -/
def NotAfter : List Nat → List Nat → Prop
  | [], _ => True
  | _ :: _, [] => False
  | i :: place, j :: other => i < j ∨ i = j ∧ NotAfter place other

/-- The place is read before all others at which a value is missing. -/
structure FirstMissing (data : TemplateData) (nodes : List Node) (place : List Nat)
    (field : Field) : Prop where
  missing : Missing data nodes place field
  first : ∀ other field', Missing data nodes other field' → NotAfter place other

def Node.field? : Node → Option Field
  | .text _ => none
  | .value field => some field
  | .conditional field _ _ => some field

def Names (nodes : List Node) (field : Field) : Prop :=
  ∃ place around node, At nodes place around node ∧ node.field? = some field

private theorem active_iff {data : TemplateData} {field : Field} {inverted : Bool} :
    Active data (field, inverted) ↔ (data.value field).isSome ≠ inverted := by
  cases inverted with
  | false => simp only [Active, ← TemplateData.value_isSome, ne_eq, Bool.not_eq_false]
  | true => simp only [Active, ← TemplateData.value_isSome, ne_eq]

section Places

variable {node target : Node} {rest inner : List Node} {place : List Nat}
  {around : List (Field × Bool)}
  {field : Field} {inverted : Bool}

private theorem not_at_nil : ¬At [] place around target := by
  intro there
  cases there with
  | here found => cases found
  | inside found => cases found

private theorem At.place_cons {nodes : List Node} (there : At nodes place around target) :
    ∃ i below, place = i :: below := by
  cases there with
  | here => exact ⟨_, _, rfl⟩
  | inside => exact ⟨_, _, rfl⟩

private theorem at_cons : At (node :: rest) place around target ↔
    At [node] place around target ∨ ∃ i below, place = (i + 1) :: below ∧
      At rest (i :: below) around target := by
  constructor
  · intro there
    cases there with
    | @here _ i _ found =>
        cases i with
        | zero => exact .inl (.here found)
        | succ i => exact .inr ⟨i, [], rfl, .here found⟩
    | @inside _ _ i _ _ below _ _ found within =>
        cases i with
        | zero => exact .inl (.inside found within)
        | succ i => exact .inr ⟨i, below, rfl, .inside found within⟩
  · rintro (there | ⟨i, below, rfl, there⟩)
    · cases there with
      | @here _ i _ found =>
          cases i with
          | zero => exact .here found
          | succ i => simp at found
      | @inside _ _ i _ _ _ _ _ found within =>
          cases i with
          | zero => exact .inside found within
          | succ i => simp at found
    · cases there with
      | here found => exact .here found
      | inside found within => exact .inside found within

private theorem at_single : At [node] place around target ↔
    place = [0] ∧ around = [] ∧ target = node ∨
      ∃ field inverted inner below outer, node = .conditional field inverted inner ∧
        place = 0 :: below ∧
        around = (field, inverted) :: outer ∧ At inner below outer target := by
  constructor
  · intro there
    cases there with
    | @here _ i _ found =>
        cases i with
        | zero =>
            cases found
            exact .inl ⟨rfl, rfl, rfl⟩
        | succ i => simp at found
    | @inside _ inner i field inverted below outer _ found within =>
        cases i with
        | zero =>
            cases found
            exact .inr ⟨field, inverted, inner, below, outer, rfl, rfl, rfl, within⟩
        | succ i => simp at found
  · rintro (⟨rfl, rfl, rfl⟩ | ⟨field, inverted, inner, below, outer, rfl,
      rfl, rfl, within⟩)
    · exact .here rfl
    · exact .inside rfl within

private theorem At.single_cons (there : At [node] place around target) :
    ∃ below, place = 0 :: below := by
  rcases at_single.mp there with ⟨rfl, -⟩ | ⟨_, _, _, below, _, -, rfl, -⟩
  · exact ⟨[], rfl⟩
  · exact ⟨below, rfl⟩

end Places

/-! ### Missing values -/

section Missing

variable {data : TemplateData} {node : Node} {rest inner : List Node} {place : List Nat}
  {field : Field}

private theorem missing_cons : Missing data (node :: rest) place field ↔
    Missing data [node] place field ∨ ∃ i below, place = (i + 1) :: below ∧
      Missing data rest (i :: below) field := by
  constructor
  · rintro ⟨around, there, active, none⟩
    rcases at_cons.mp there with first | ⟨i, below, rfl, later⟩
    · exact .inl ⟨around, first, active, none⟩
    · exact .inr ⟨i, below, rfl, around, later, active, none⟩
  · rintro (⟨around, first, active, none⟩ | ⟨i, below, rfl, around, later, active, none⟩)
    · exact ⟨around, at_cons.mpr (.inl first), active, none⟩
    · exact ⟨around, at_cons.mpr (.inr ⟨i, below, rfl, later⟩), active, none⟩

private theorem not_missing_text {chars : List Char} :
    ¬Missing data [.text chars] place field := by
  rintro ⟨around, there, -, -⟩
  rcases at_single.mp there with ⟨-, -, same⟩ | ⟨_, _, _, _, _, same, -⟩
  · cases same
  · cases same

private theorem missing_value {shown : Field} : Missing data [.value shown] place field ↔
    place = [0] ∧ field = shown ∧ ¬data.Has shown := by
  constructor
  · rintro ⟨around, there, -, none⟩
    rcases at_single.mp there with ⟨rfl, -, same⟩ | ⟨_, _, _, _, _, same, -⟩
    · cases same
      exact ⟨rfl, rfl, none⟩
    · cases same
  · rintro ⟨rfl, rfl, none⟩
    exact ⟨[], .here rfl, nofun, none⟩

private theorem missing_conditional {condition : Field} {inverted : Bool} :
    Missing data [.conditional condition inverted inner] place field ↔
      Active data (condition, inverted) ∧ ∃ below, place = 0 :: below ∧
        Missing data inner below field := by
  constructor
  · rintro ⟨around, there, active, none⟩
    rcases at_single.mp there with ⟨-, -, same⟩ | ⟨_, _, _, below, outer, same,
      rfl, rfl, within⟩
    · cases same
    · cases same
      obtain ⟨shown, others⟩ := List.forall_mem_cons.mp active
      exact ⟨shown, below, rfl, outer, within, others, none⟩
  · rintro ⟨shown, below, rfl, outer, within, others, none⟩
    exact ⟨_, .inside rfl within, List.forall_mem_cons.mpr ⟨shown, others⟩, none⟩

/-- Whatever is missing at the first node comes before all that is missing behind it. -/
theorem FirstMissing.head (first : FirstMissing data [node] place field) :
    FirstMissing data (node :: rest) place field where
  missing := missing_cons.mpr (.inl first.missing)
  first := by
    intro other field' missing
    rcases missing_cons.mp missing with here | ⟨i, below, rfl, -⟩
    · exact first.first other field' here
    · obtain ⟨around, there, -⟩ := first.missing
      obtain ⟨below', rfl⟩ := there.single_cons
      exact .inl (Nat.succ_pos i)

theorem FirstMissing.tail {i : Nat} {below : List Nat}
    (complete : ∀ place field, ¬Missing data [node] place field)
    (first : FirstMissing data rest (i :: below) field) :
    FirstMissing data (node :: rest) ((i + 1) :: below) field where
  missing := missing_cons.mpr (.inr ⟨i, below, rfl, first.missing⟩)
  first := by
    intro other field' missing
    rcases missing_cons.mp missing with here | ⟨i', below', rfl, later⟩
    · exact absurd here (complete other field')
    · rcases first.first _ field' later with before | ⟨same, inside⟩
      · exact .inl (Nat.succ_lt_succ before)
      · exact .inr ⟨congrArg (· + 1) same, inside⟩

theorem FirstMissing.inside {condition : Field} {inverted : Bool}
    (shown : Active data (condition, inverted)) (first : FirstMissing data inner place field) :
    FirstMissing data [.conditional condition inverted inner] (0 :: place) field where
  missing := missing_conditional.mpr ⟨shown, place, rfl, first.missing⟩
  first := by
    intro other field' missing
    obtain ⟨-, below, rfl, within⟩ := missing_conditional.mp missing
    exact .inr ⟨rfl, first.first below field' within⟩

end Missing

/-! ### Rendering -/

/-- A text is shown when nothing is missing; otherwise what is missing first is reported. -/
def Reports (data : TemplateData) (nodes : List Node) : Except Field (List Char) → Prop
  | .ok _ => ∀ place field, ¬Missing data nodes place field
  | .error field => ∃ place, FirstMissing data nodes place field

mutual

private theorem renderNode_reports (data : TemplateData) :
    ∀ node : Node, Reports data [node] (renderNode data node)
  | .text chars => fun _ _ => not_missing_text
  | .value field => by
      unfold renderNode
      cases value : data.value field with
      | some shown =>
          intro place other missing
          have has := TemplateData.value_isSome.mp (Option.isSome_of_eq_some value)
          exact (missing_value.mp missing).2.2 has
      | none =>
          have none : ¬data.Has field := by
            rw [← TemplateData.value_isSome, value]
            exact Bool.false_ne_true
          refine ⟨[0], missing_value.mpr ⟨rfl, rfl, none⟩, fun other field' missing => ?_⟩
          rw [(missing_value.mp missing).1]
          exact .inr ⟨rfl, trivial⟩
  | .conditional condition inverted nodes => by
      unfold renderNode
      by_cases shown : (data.value condition).isSome ≠ inverted
      · rw [if_pos shown]
        have inner := renderNodes_reports data nodes
        cases rendered : renderNodes data nodes with
        | ok text =>
            rw [rendered] at inner
            intro place field missing
            obtain ⟨-, below, -, within⟩ := missing_conditional.mp missing
            exact inner below field within
        | error field =>
            rw [rendered] at inner
            obtain ⟨place, first⟩ := inner
            exact ⟨0 :: place, first.inside (active_iff.mpr shown)⟩
      · rw [if_neg shown]
        intro place field missing
        exact shown (active_iff.mp (missing_conditional.mp missing).1)

private theorem renderNodes_reports (data : TemplateData) :
    ∀ nodes : List Node, Reports data nodes (renderNodes data nodes)
  | [] => by
      rintro place field ⟨around, there, -⟩
      exact not_at_nil there
  | node :: rest => by
      have first := renderNode_reports data node
      have others := renderNodes_reports data rest
      simp only [renderNodes]
      cases rendered : renderNode data node with
      | error field =>
          rw [rendered] at first
          obtain ⟨place, first⟩ := first
          exact ⟨place, first.head⟩
      | ok text =>
          rw [rendered] at first
          cases rendered' : renderNodes data rest with
          | error field =>
              rw [rendered'] at others
              obtain ⟨place, later⟩ := others
              obtain ⟨around, there, -⟩ := later.missing
              obtain ⟨i, below, rfl⟩ := there.place_cons
              exact ⟨(i + 1) :: below, later.tail first⟩
          | ok text' =>
              rw [rendered'] at others
              intro place field missing
              rcases missing_cons.mp missing with here | ⟨i, below, rfl, later⟩
              · exact first place field here
              · exact others (i :: below) field later

end

section Agreement

variable {node : Node} {rest inner : List Node} {field : Field}

theorem Names.head (named : Names [node] field) : Names (node :: rest) field := by
  obtain ⟨place, around, target, there, same⟩ := named
  exact ⟨place, around, target, at_cons.mpr (.inl there), same⟩

theorem Names.tail (named : Names rest field) : Names (node :: rest) field := by
  obtain ⟨place, around, target, there, same⟩ := named
  obtain ⟨i, below, rfl⟩ := there.place_cons
  exact ⟨_, around, target, at_cons.mpr (.inr ⟨i, below, rfl, there⟩), same⟩

theorem Names.inside {condition : Field} {inverted : Bool} (named : Names inner field) :
    Names [.conditional condition inverted inner] field := by
  obtain ⟨place, around, target, there, same⟩ := named
  exact ⟨0 :: place, (condition, inverted) :: around, target, .inside rfl there, same⟩

private theorem names_self (same : node.field? = some field) : Names [node] field :=
  ⟨[0], [], node, .here rfl, same⟩

variable {data data' : TemplateData}

mutual

private theorem renderNode_agree :
    ∀ node : Node, (∀ field, Names [node] field → data.value field = data'.value field) →
    renderNode data node = renderNode data' node
  | .text chars, _ => rfl
  | .value field, agree => by
      unfold renderNode
      rw [agree field (names_self rfl)]
  | .conditional condition inverted inner, agree => by
      unfold renderNode
      rw [agree condition (names_self rfl),
        renderNodes_agree inner fun field named => agree field named.inside]

private theorem renderNodes_agree : ∀ nodes : List Node,
    (∀ field, Names nodes field → data.value field = data'.value field) →
      renderNodes data nodes = renderNodes data' nodes
  | [], _ => rfl
  | node :: rest, agree => by
      unfold renderNodes
      rw [renderNode_agree node fun field named => agree field named.head,
        renderNodes_agree rest fun field named => agree field named.tail]

end

end Agreement

private theorem renderParsed_cases (nodes : List Node) (data : TemplateData) :
    (∃ text, renderParsed data nodes = .ok text ∧ ∀ place field,
      ¬Missing data nodes place field) ∨
      ∃ place field, renderParsed data nodes = .error (missingValue field) ∧
        FirstMissing data nodes place field := by
  have reports := renderNodes_reports data nodes
  unfold renderParsed
  cases rendered : renderNodes data nodes with
  | ok chars =>
      rw [rendered] at reports
      exact .inl ⟨String.ofList chars, rfl, reports⟩
  | error field =>
      rw [rendered] at reports
      obtain ⟨place, first⟩ := reports
      exact .inr ⟨place, field, rfl, first⟩

/-- A template cannot be shown exactly when at some place that is shown there is no value. The field
at the first such place is then reported. And what is shown, or reported, depends only on the values
of fields that the template names. -/
theorem render_fails_first (nodes : List Node) (data : TemplateData) :
    ((∃ e, renderParsed data nodes = .error e) ↔ ∃ place field,
      Missing data nodes place field) ∧
      (∀ e, renderParsed data nodes = .error e → ∃ place field,
        FirstMissing data nodes place field ∧
        e = .render ("no value for " ++ Text.quote field.name)) ∧
      ∀ data', (∀ field, Names nodes field → data.value field = data'.value field) →
        renderParsed data nodes = renderParsed data' nodes := by
  have agreement (data' : TemplateData)
      (agree : ∀ field, Names nodes field → data.value field = data'.value field) :
      renderParsed data nodes = renderParsed data' nodes := by
    unfold renderParsed
    rw [renderNodes_agree nodes agree]
  rcases renderParsed_cases nodes data with ⟨text, shown, complete⟩ | ⟨place, field,
    failed, first⟩
  · refine ⟨⟨?_, ?_⟩, ?_, agreement⟩
    · rintro ⟨e, failed⟩
      cases shown.symm.trans failed
    · rintro ⟨place, field, missing⟩
      exact absurd missing (complete place field)
    · intro e failed
      cases shown.symm.trans failed
  · refine ⟨⟨fun _ => ⟨place, field, first.missing⟩, fun _ => ⟨_, failed⟩⟩,
      ?_, agreement⟩
    intro e failed'
    cases failed.symm.trans failed'
    exact ⟨place, field, first, rfl⟩

/-- What a section shows is read before what comes behind it. -/
example : renderParsed ⟨some "API", some "", none, none, none, none⟩
    [.conditional .serviceGroupName false [.value .scheduledEnd],
      .conditional .serviceName false [.text ['s', 'i', 'n', 'c', 'e', ' '], .value .startedAt],
      .value .resolvedAt] = .error (.render "no value for \"started_at\"") := by
  rfl

end StatusPage.Template
