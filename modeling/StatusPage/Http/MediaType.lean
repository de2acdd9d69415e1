/-!
Media types of request bodies: which content types announce JSON.
-/

set_option autoImplicit false

namespace StatusPage.Http

private def isNameChar (c : Char) : Bool := c.isAlphanum || "!#$%&'-.^_`|~".toList.contains c

private def isQuotedChar (c : Char) : Bool := ' ' ≤ c && c ≤ '~' && c ≠ '"'

/-- What a parameter's value may be followed by: blanks, and another parameter. -/
private def afterQuoted : List Char → Option (List Char)
  | [] => some []
  | ' ' :: rest => afterQuoted rest
  | ';' :: rest => some rest
  | _ => none

private theorem afterQuoted_length {text rest : List Char} (h : afterQuoted text = some rest) :
    rest.length ≤ text.length := by
  fun_induction afterQuoted text with
  | case1 => simp only [Option.some.injEq] at h; simp [← h]
  | case2 tail ih => exact Nat.le_succ_of_le (ih h)
  | case3 tail => simp only [Option.some.injEq] at h; simp [← h]
  | case4 => simp at h

private def afterValue (text : List Char) : Option (List Char) :=
  match text with
  | '"' :: rest =>
      let value := rest.takeWhile isQuotedChar
      match rest.drop value.length with
      | '"' :: rest => if value.isEmpty then none else afterQuoted rest
      | _ => none
  | _ =>
      let value := text.takeWhile isNameChar
      match text.drop value.length with
      | [] => some []
      | ';' :: rest => if value.isEmpty then none else some rest
      | _ => none

private theorem length_of_drop_eq {text tail : List Char} {n : Nat} {c : Char}
    (h : text.drop n = c :: tail) : tail.length < text.length := by
  have := congrArg List.length h
  simp only [List.length_drop, List.length_cons] at this
  omega

private theorem afterValue_length {text rest : List Char} (h : afterValue text = some rest) :
    rest.length ≤ text.length := by
  simp only [afterValue] at h
  split at h
  · split at h
    · next dropped =>
        split at h
        · simp at h
        · have := afterQuoted_length h
          have := length_of_drop_eq dropped
          simp only [List.length_cons]
          omega
    · simp at h
  · split at h
    · simp only [Option.some.injEq] at h
      simp [← h]
    · next dropped =>
        split at h
        · simp at h
        · simp only [Option.some.injEq] at h
          have := length_of_drop_eq dropped
          rw [← h]
          omega
    · simp at h

private def areParameters (text : List Char) : Bool :=
  match text with
  | [] => true
  | ' ' :: rest => areParameters rest
  | text =>
      let name := text.takeWhile isNameChar
      match _h : text.drop name.length with
      | '=' :: value =>
          match _h' : afterValue value with
          | some rest => !name.isEmpty && areParameters rest
          | none => false
      | _ => false
  termination_by text.length
  decreasing_by
    · simp
    · have := length_of_drop_eq _h
      have := afterValue_length _h'
      omega

private def splitSuffix (subtype : List Char) : List Char × Option (List Char) :=
  let suffix := (subtype.reverse.takeWhile (· ≠ '+')).reverse
  if suffix.length = subtype.length then (subtype, none)
  else (subtype.take (subtype.length - suffix.length - 1), some suffix)

/-- Whether a content type is `application/json` or `application/…+json`. -/
def isJsonType (contentType : String) : Bool :=
  let text := contentType.toList
  let type := text.takeWhile isNameChar
  match text.drop type.length with
  | '/' :: rest =>
      let subtype := rest.takeWhile fun c => isNameChar c || c = '+'
      let (base, suffix) := splitSuffix subtype
      let lower (name : List Char) : String := String.ofList (name.map Char.toLower)
      let parameters := match rest.drop subtype.length with
        | [] => true
        | ';' :: rest => areParameters rest
        | _ => false
      !type.isEmpty && !subtype.isEmpty && subtype.head? != some '+' && parameters &&
        lower type == "application" &&
        (lower base == "json" || suffix.any fun suffix => lower suffix == "json")
  | _ => false

end StatusPage.Http
