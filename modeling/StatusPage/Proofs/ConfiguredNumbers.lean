import Mathlib.Data.List.Basic
import StatusPage.Config
import StatusPage.Proofs.WrittenInstants

/-!
Numbers among the settings. A text that is no numeral of a number that the setting may have stops
the loading, and one that is gives its number; a default stands only for a setting that is not
there. The port of the mail server is the one exception: a text that gives no port is passed over
for the usual port, as if nothing were set.
-/

set_option autoImplicit false

namespace StatusPage

/-! ### Numerals -/

namespace Text

open Time (numberOf)

variable {lowest highest n : Int} {text : List Char}

def AreDigits (digits : List Char) : Prop := digits ≠ [] ∧ ∀ c ∈ digits, isDigit c = true

/-- The text is a numeral of the number, which lies within the bounds. A plus sign may lead, and a
minus sign where there are negative numbers. -/
inductive Denotes (lowest highest : Int) : List Char → Int → Prop
  | plain {digits : List Char} (digital : AreDigits digits) (least : lowest ≤ numberOf digits)
      (most : numberOf digits ≤ highest) : Denotes lowest highest digits (numberOf digits)
  | positive {digits : List Char} (digital : AreDigits digits) (least : lowest ≤ numberOf digits)
      (most : numberOf digits ≤ highest) :
      Denotes lowest highest ('+' :: digits) (numberOf digits)
  | negative {digits : List Char} (signed : lowest < 0) (digital : AreDigits digits)
      (least : lowest ≤ -(numberOf digits : Int)) :
      Denotes lowest highest ('-' :: digits) (-(numberOf digits : Int))

private theorem digitsUpTo_eq_ok_iff {bound value n : Nat} {overflow : NumeralError}
    {digits : List Char} (within : value ≤ bound) :
    digitsUpTo bound overflow value digits = .ok n ↔ (∀ c ∈ digits, isDigit c = true) ∧
      digits.foldl (fun n c => n * 10 + digitValue c) value = n ∧ n ≤ bound := by
  have grows (digits : List Char) (value : Nat) :
      value ≤ digits.foldl (fun n c => n * 10 + digitValue c) value := by
    induction digits generalizing value with
    | nil => exact Nat.le_refl value
    | cons c rest ih => exact Nat.le_trans (by omega) (ih (value * 10 + digitValue c))
  induction digits generalizing value with
  | nil =>
      constructor
      · rintro ⟨⟩
        exact ⟨nofun, rfl, within⟩
      · rintro ⟨-, rfl, -⟩
        rfl
  | cons c rest ih =>
      rw [digitsUpTo, List.forall_mem_cons, List.foldl_cons]
      by_cases digit : isDigit c = true
      · rw [digit, Bool.not_true, if_neg Bool.false_ne_true]
        by_cases more : bound < value * 10 + digitValue c
        · have later := grows rest (value * 10 + digitValue c)
          rw [if_pos more]
          refine ⟨nofun, ?_⟩
          rintro ⟨-, rfl, most⟩
          omega
        · rw [if_neg more]
          exact (ih (Nat.le_of_not_lt more)).trans (by simp only [true_and])
      · rw [if_pos (by simpa using digit)]
        exact ⟨nofun, fun whole => absurd whole.1.1 digit⟩

private theorem map_digitsUpTo_eq_ok_iff {bound : Nat} {overflow : NumeralError}
    {digits : List Char} {value : Nat → Int} (some : digits ≠ []) :
    (digitsUpTo bound overflow 0 digits).map value = .ok n ↔
      AreDigits digits ∧ value (numberOf digits) = n ∧ numberOf digits ≤ bound := by
  cases read : digitsUpTo bound overflow 0 digits with
  | error e =>
      refine ⟨nofun, ?_⟩
      rintro ⟨digital, -, most⟩
      have ok : digitsUpTo bound overflow 0 digits = .ok (numberOf digits) :=
        (digitsUpTo_eq_ok_iff (Nat.zero_le bound)).mpr ⟨digital.2, rfl, most⟩
      cases read.symm.trans ok
  | ok number =>
      obtain ⟨each, rfl, most⟩ := (digitsUpTo_eq_ok_iff (Nat.zero_le bound)).mp read
      constructor
      · rintro ⟨⟩
        exact ⟨⟨some, each⟩, rfl, most⟩
      · rintro ⟨-, rfl, -⟩
        rfl

private theorem denotes_plus {digits : List Char} :
    Denotes lowest highest ('+' :: digits) n ↔
      AreDigits digits ∧ (numberOf digits : Int) = n ∧ lowest ≤ n ∧ n ≤ highest := by
  constructor
  · intro denotes
    cases denotes with
    | plain digital => exact absurd (digital.2 '+' List.mem_cons_self) (by decide)
    | positive digital least most => exact ⟨digital, rfl, least, most⟩
  · rintro ⟨digital, rfl, least, most⟩
    exact .positive digital least most

private theorem denotes_minus {digits : List Char} :
    Denotes lowest highest ('-' :: digits) n ↔
      lowest < 0 ∧ AreDigits digits ∧ -(numberOf digits : Int) = n ∧ lowest ≤ n := by
  constructor
  · intro denotes
    cases denotes with
    | plain digital => exact absurd (digital.2 '-' List.mem_cons_self) (by decide)
    | negative signed digital least => exact ⟨signed, digital, rfl, least⟩
  · rintro ⟨signed, digital, rfl, least⟩
    exact .negative signed digital least

private theorem denotes_signless (plus : ∀ digits, text ≠ '+' :: digits)
    (minus : ∀ digits, text ≠ '-' :: digits) :
    Denotes lowest highest text n ↔ AreDigits text ∧ (numberOf text : Int) = n ∧
    lowest ≤ n ∧ n ≤ highest := by
  constructor
  · intro denotes
    cases denotes with
    | plain digital least most => exact ⟨digital, rfl, least, most⟩
    | positive => exact absurd rfl (plus _)
    | negative => exact absurd rfl (minus _)
  · rintro ⟨digital, rfl, least, most⟩
    exact .plain digital least most

/-- A text is read as a number exactly when it is a numeral of this number. -/
theorem readNumeral_eq_ok_iff (zeroAbove : lowest ≤ 0) (zeroBelow : 0 ≤ highest) :
    readNumeral lowest highest text = .ok n ↔ Denotes lowest highest text n := by
  have bare {digits : List Char} (some : digits ≠ []) :
      (digitsUpTo highest.toNat .posOverflow 0 digits).map Int.ofNat = .ok n ↔
        AreDigits digits ∧ (numberOf digits : Int) = n ∧ lowest ≤ n ∧ n ≤ highest := by
    rw [map_digitsUpTo_eq_ok_iff some]
    refine and_congr_right fun _ => and_congr_right fun same => ?_
    change (numberOf digits : Int) = n at same
    omega
  fun_cases readNumeral lowest highest text with
  | case1 =>
      refine ⟨nofun, fun denotes => ?_⟩
      cases denotes with
      | plain digital => exact absurd rfl digital.1
  | case2 c digit =>
      have plus (digits : List Char) : [c] ≠ '+' :: digits := by
        rintro ⟨⟩
        exact absurd digit (by decide)
      have minus (digits : List Char) : [c] ≠ '-' :: digits := by
        rintro ⟨⟩
        exact absurd digit (by decide)
      rw [bare (List.cons_ne_nil _ _), denotes_signless plus minus]
  | case3 c other =>
      refine ⟨nofun, fun denotes => absurd ?_ other⟩
      cases denotes with
      | plain digital => exact digital.2 c List.mem_cons_self
      | positive digital => exact absurd rfl digital.1
      | negative _ digital => exact absurd rfl digital.1
  | case4 digits some => rw [bare some, denotes_plus]
  | case5 digits some signed =>
      rw [map_digitsUpTo_eq_ok_iff some, denotes_minus]
      simp only [signed, true_and]
      refine and_congr_right fun _ => and_congr_right fun same => ?_
      change -(numberOf digits : Int) = n at same
      omega
  | case6 digits _ unsigned =>
    exact ⟨nofun, fun denotes => absurd (denotes_minus.mp denotes).1 unsigned⟩
  | case7 digits some _ plus minus => rw [bare some, denotes_signless plus minus]

theorem Denotes.least (denotes : Denotes lowest highest text n) : lowest ≤ n := by
  cases denotes with
  | plain _ least _ => exact least
  | positive _ least _ => exact least
  | negative _ _ least => exact least

theorem Denotes.unique {m : Int} (denotes : Denotes lowest highest text n)
    (also : Denotes lowest highest text m) :
    n = m := by
  cases denotes with
  | plain digital least most =>
      have digit := digital.2
      cases also with
      | plain => rfl
      | positive => exact absurd (digit '+' List.mem_cons_self) (by decide)
      | negative => exact absurd (digit '-' List.mem_cons_self) (by decide)
  | positive => exact (denotes_plus.mp also).2.1
  | negative => exact (denotes_minus.mp also).2.2.1

/-- Zero apart, the numerals from zero on are those from one on. -/
theorem denotes_one_iff : Denotes 1 highest text n ↔ Denotes 0 highest text n ∧ n ≠ 0 := by
  constructor
  · intro denotes
    cases denotes with
    | plain digital least most => exact ⟨.plain digital (by omega) most, by omega⟩
    | positive digital least most => exact ⟨.positive digital (by omega) most, by omega⟩
    | negative signed => omega
  · rintro ⟨denotes, some⟩
    cases denotes with
    | plain digital least most => exact .plain digital (by omega) most
    | positive digital least most => exact .positive digital (by omega) most
    | negative signed => omega

theorem denotes_decimalInt (least : lowest ≤ n) (most : n ≤ highest) :
    Denotes lowest highest (decimalInt n) n := by
  have digital : AreDigits (decimal n.natAbs) :=
    ⟨Nat.toDigits_ne_nil, fun c => Time.isDigit_of_mem_decimal⟩
  have value : numberOf (decimal n.natAbs) = n.natAbs := by
    have unpadded : padded 0 n.natAbs = decimal n.natAbs := by simp [padded]
    rw [← unpadded, Time.numberOf_padded]
  rw [decimalInt]
  split
  · have same : -(numberOf (decimal n.natAbs) : Int) = n := by omega
    exact denotes_minus.mpr ⟨by omega, digital, same, least⟩
  · have same : (numberOf (decimal n.natAbs) : Int) = n := by omega
    have plain : Denotes lowest highest (decimal n.natAbs) (numberOf (decimal n.natAbs)) :=
      .plain digital (by omega) (by omega)
    rwa [same] at plain

end Text

namespace Config

open Text (Denotes readNumeral int64Min int64Max word64Max word32Max word16Max)

/-! ### Numbers that are set -/

structure NumberVariable where
  name : String
  least : Int
  most : Int
  default : Int

/-- What the setting stands for: the default when it is not there, and else the number that its text
denotes, if it denotes one. -/
inductive NumberVariable.Gives (number : NumberVariable) (env : Environment) : Int → Prop
  | unset (absent : env.lookup number.name = none) : number.Gives env number.default
  | written {text : String} {n : Int} (set : env.lookup number.name = some text)
      (denotes : Denotes number.least number.most text.toList n) : number.Gives env n

namespace NumberVariable

def port : NumberVariable := ⟨"PORT", 0, word16Max, 8080⟩
def requestTimeout : NumberVariable := ⟨"REQUEST_TIMEOUT_SECS", 0, word64Max, 30⟩
def cleanupInterval : NumberVariable := ⟨"TOKEN_CLEANUP_INTERVAL_SECS", 1, word64Max, 3600⟩
def accessMinutes : NumberVariable := ⟨"JWT_ACCESS_EXPIRY_MINS", int64Min, int64Max, 15⟩
def refreshDays : NumberVariable := ⟨"JWT_REFRESH_EXPIRY_DAYS", int64Min, int64Max, 7⟩
def hashMemory : NumberVariable := ⟨"PASSWORD_HASH_MEMORY_KIB", 0, word32Max, 19456⟩
def hashIterations : NumberVariable := ⟨"PASSWORD_HASH_ITERATIONS", 0, word32Max, 2⟩
def hashParallelism : NumberVariable := ⟨"PASSWORD_HASH_PARALLELISM", 0, word32Max, 1⟩
def maxConnections : NumberVariable := ⟨"DATABASE_MAX_CONNECTIONS", 0, word32Max, 20⟩
def mailPort : NumberVariable := ⟨"SMTP_PORT", 0, word16Max, 587⟩

variable {number : NumberVariable} {env : Environment} {n m : Int}

private theorem gives_of_unset (absent : env.lookup number.name = none) :
    number.Gives env n ↔ number.default = n := by
  constructor
  · intro gives
    cases gives with
    | unset => rfl
    | written set => cases absent.symm.trans set
  · rintro rfl
    exact .unset absent

private theorem gives_of_set {text : String} (set : env.lookup number.name = some text) :
    number.Gives env n ↔ Denotes number.least number.most text.toList n := by
  constructor
  · intro gives
    cases gives with
    | unset absent => cases set.symm.trans absent
    | written set' denotes =>
        cases set.symm.trans set'
        exact denotes
  · exact .written set

theorem Gives.least (gives : number.Gives env n) (defaulted : number.least ≤ number.default) :
    number.least ≤ n := by
  cases gives with
  | unset => exact defaulted
  | written _ denotes => exact denotes.least

theorem Gives.unique (gives : number.Gives env n) (also : number.Gives env m) : n = m := by
  cases gives with
  | unset absent => exact (gives_of_unset absent).mp also
  | written set denotes => exact denotes.unique ((gives_of_set set).mp also)

end NumberVariable

/-! ### Reading one setting -/

section Readers

variable {env : Environment} {name type complaint text : String} {lowest highest default n : Int}

private theorem mapError_eq_ok_iff {ε ε' α : Type} {read : Except ε α} {f : ε → ε'}
    {a : α} :
    read.mapError f = .ok a ↔ read = .ok a := by
  cases read with
  | error e => exact ⟨nofun, nofun⟩
  | ok a' => rw [Except.mapError, Except.ok.injEq, Except.ok.injEq]

theorem bind_eq_ok_iff {ε α β : Type} {first : Except ε α} {next : α → Except ε β}
    {b : β} :
    first >>= next = .ok b ↔ ∃ a, first = .ok a ∧ next a = .ok b := by
  cases first with
  | error e => exact ⟨nofun, nofun⟩
  | ok a =>
      refine ⟨fun result => ⟨a, rfl, result⟩, ?_⟩
      rintro ⟨a, ⟨⟩, result⟩
      exact result

theorem pure_eq_ok_iff {ε α : Type} {a b : α} : (pure a : Except ε α) = .ok b ↔ a = b :=
  iff_of_eq (Except.ok.injEq a b)

private theorem refused_eq_ok_iff {ε α β : Type} {wrong : Prop} [Decidable wrong] {e : ε}
    {next : α → Except ε β} {result : Except ε β} {b : β} :
    (if wrong then .error e >>= next else result) = .ok b ↔ ¬wrong ∧ result = .ok b := by
  by_cases refused : wrong
  · rw [if_pos refused]
    exact ⟨nofun, fun whole => absurd refused whole.1⟩
  · rw [if_neg refused]
    exact ⟨fun read => ⟨refused, read⟩, And.right⟩

private theorem requiredText_eq_ok_iff :
    requiredText env name complaint = .ok text ↔ env.lookup name = some text := by
  rw [requiredText]
  cases env.lookup name with
  | none => exact ⟨nofun, nofun⟩
  | some text' => rw [Except.ok.injEq, Option.some.injEq]

private theorem numberOr_eq_ok_iff (zeroAbove : lowest ≤ 0) (zeroBelow : 0 ≤ highest) :
    numberOr env name lowest highest type default = .ok n ↔
      (NumberVariable.mk name lowest highest default).Gives env n := by
  rw [numberOr]
  cases set : env.lookup name with
  | none => rw [NumberVariable.gives_of_unset set, Except.ok.injEq]
  | some text =>
      rw [NumberVariable.gives_of_set set, ← Text.readNumeral_eq_ok_iff zeroAbove zeroBelow]
      exact mapError_eq_ok_iff

private theorem costOr_eq_ok_iff {default cost : Nat} :
    costOr env name default = .ok cost ↔
    (NumberVariable.mk name 0 word32Max default).Gives env cost := by
  rw [costOr]
  cases set : env.lookup name with
  | none => rw [NumberVariable.gives_of_unset set, Except.ok.injEq, Int.natCast_inj]
  | some text =>
      rw [NumberVariable.gives_of_set set]
      dsimp only
      cases read : readNumeral 0 word32Max text.toList with
      | error e =>
          refine ⟨nofun, fun denotes => ?_⟩
          have read' := (Text.readNumeral_eq_ok_iff (Int.le_refl 0) (by decide)).mpr denotes
          cases read.symm.trans read'
      | ok n =>
          have denotes := (Text.readNumeral_eq_ok_iff (Int.le_refl 0) (by decide)).mp read
          have natural := denotes.least
          rw [Except.ok.injEq]
          constructor
          · rintro rfl
            rwa [Int.toNat_of_nonneg natural]
          · intro denotes'
            rw [denotes.unique denotes', Int.toNat_natCast]

end Readers

/-! ### Loading all of them -/

/-- A loader, with the numbers among its settings and where it keeps them. -/
structure Loader (Result : Type) where
  load : Environment → Load Result
  Usable : Environment → Prop
  numbers : List (NumberVariable × (Result → Int))

/-- A setting that gives no number stops the loading, and what is loaded has the numbers that the
settings give. -/
structure Loader.FailsFast {Result : Type} (loader : Loader Result) (env : Environment) : Prop where
  loads : (∃ config, loader.load env = .ok config) ↔
    loader.Usable env ∧ ∀ number ∈ loader.numbers, ∃ n, number.1.Gives env n
  keeps : ∀ config, loader.load env = .ok config → ∀ number ∈ loader.numbers, ∀ n,
    number.1.Gives env n ↔ number.2 config = n

variable {env : Environment}

theorem Loader.FailsFast.of {Result : Type} {loader : Loader Result}
    (sound : ∀ config, loader.load env = .ok config →
      loader.Usable env ∧ ∀ number ∈ loader.numbers, number.1.Gives env (number.2 config))
    (complete : loader.Usable env →
      (∀ number ∈ loader.numbers, ∃ n, number.1.Gives env n) →
      ∃ config, loader.load env = .ok config) : loader.FailsFast env := by
  refine ⟨⟨?_, fun given => complete given.1 given.2⟩, ?_⟩
  · rintro ⟨config, loaded⟩
    obtain ⟨usable, gives⟩ := sound config loaded
    exact ⟨usable, fun number member => ⟨_, gives number member⟩⟩
  · intro config loaded number member n
    have gives := (sound config loaded).2 number member
    refine ⟨gives.unique, ?_⟩
    rintro rfl
    exact gives

theorem Jwt.load_eq_ok_iff {jwt : Jwt} :
    Jwt.load env = .ok jwt ↔
    ∃ secret, env.lookup "JWT_SECRET" = some secret ∧ secret ≠ "" ∧
      ∃ keys, readPreviousKeys (textOr env "JWT_PREVIOUS_SECRETS" "") = .ok keys ∧
      ∃ minutes, NumberVariable.accessMinutes.Gives env minutes ∧
        ∃ days, NumberVariable.refreshDays.Gives env days ∧
        ⟨textOr env "JWT_KEY_ID" "primary", secret, keys, minutes, days⟩ = jwt := by
  unfold Jwt.load
  simp (disch := decide) only [bind_eq_ok_iff, refused_eq_ok_iff, pure_eq_ok_iff,
    mapError_eq_ok_iff, requiredText_eq_ok_iff, numberOr_eq_ok_iff]
  exact Iff.rfl

private theorem loadCosts_eq_ok_iff {costs : Auth.PasswordCosts} :
    loadCosts env = .ok costs ↔ ∃ memory : Nat, NumberVariable.hashMemory.Gives env memory ∧
      ∃ iterations : Nat, NumberVariable.hashIterations.Gives env iterations ∧
      ∃ parallelism : Nat, NumberVariable.hashParallelism.Gives env parallelism ∧
        ⟨memory, iterations, parallelism⟩ = costs := by
  unfold loadCosts
  simp only [bind_eq_ok_iff, pure_eq_ok_iff, costOr_eq_ok_iff]
  exact Iff.rfl

theorem Database.load_eq_ok_iff {database : Database} :
    Database.load env = .ok database ↔ ∃ url, env.lookup "DATABASE_URL" = some url ∧
      ∃ connections, NumberVariable.maxConnections.Gives env connections ∧
        ⟨url, connections⟩ = database := by
  unfold Database.load
  simp (disch := decide) only [bind_eq_ok_iff, pure_eq_ok_iff, requiredText_eq_ok_iff,
    numberOr_eq_ok_iff]
  exact Iff.rfl

private theorem cleanupInterval_gives_iff {n : Int} :
    NumberVariable.cleanupInterval.Gives env n ↔
      (NumberVariable.mk "TOKEN_CLEANUP_INTERVAL_SECS" 0 word64Max 3600).Gives env n ∧
      n ≠ 0 := by
  cases set : env.lookup "TOKEN_CLEANUP_INTERVAL_SECS" with
  | none =>
      rw [NumberVariable.gives_of_unset set, NumberVariable.gives_of_unset set]
      refine ⟨fun same => ⟨same, ?_⟩, And.left⟩
      rintro rfl
      exact absurd same (by decide)
  | some text =>
      rw [NumberVariable.gives_of_set set, NumberVariable.gives_of_set set]
      exact Text.denotes_one_iff

theorem Server.load_eq_ok_iff {server : Server} :
    Server.load env = .ok server ↔ ∃ port, NumberVariable.port.Gives env port ∧
      ∃ timeout, NumberVariable.requestTimeout.Gives env timeout ∧
      ∃ cleanup, NumberVariable.cleanupInterval.Gives env cleanup ∧
      ∃ logFormat, loadLogFormat env = .ok logFormat ∧ ∃ jwt, Jwt.load env = .ok jwt ∧
      ∃ password, loadCosts env = .ok password ∧
        ⟨textOr env "HOST" "0.0.0.0", port,
          (entries (textOr env "CORS_ORIGINS" "http://localhost:5173")).map String.ofList, timeout,
          logFormat, cleanup,
          jwt, password⟩ = server := by
  unfold Server.load
  simp (disch := decide) only [bind_eq_ok_iff, refused_eq_ok_iff, pure_eq_ok_iff,
    numberOr_eq_ok_iff, cleanupInterval_gives_iff, and_assoc]
  exact Iff.rfl

private theorem exists_loadLogFormat_iff :
    (∃ format, loadLogFormat env = .ok format) ↔
    textOr env "LOG_FORMAT" "pretty" ∈ ["pretty", "json"] := by
  rw [loadLogFormat, textOr]
  cases env.lookup "LOG_FORMAT" with
  | none => simp
  | some text =>
      by_cases json : text = "json"
      · simp [json]
      · by_cases pretty : text = "pretty" <;> simp [json, pretty]

def Jwt.loader : Loader Jwt where
  load := Jwt.load
  Usable env := (∃ secret, env.lookup "JWT_SECRET" = some secret ∧ secret ≠ "") ∧
    ∃ keys, readPreviousKeys (textOr env "JWT_PREVIOUS_SECRETS" "") = .ok keys
  numbers := [(.accessMinutes, accessMinutes), (.refreshDays, refreshDays)]

def costsLoader : Loader Auth.PasswordCosts where
  load := loadCosts
  Usable _ := True
  numbers :=
    [(.hashMemory, fun costs => costs.memoryKib), (.hashIterations, fun costs => costs.iterations),
    (.hashParallelism, fun costs => costs.parallelism)]

def Database.loader : Loader Database where
  load := Database.load
  Usable env := ∃ url, env.lookup "DATABASE_URL" = some url
  numbers := [(.maxConnections, maxConnections)]

def Server.loader : Loader Server where
  load := Server.load
  Usable env := textOr env "LOG_FORMAT" "pretty" ∈ ["pretty", "json"] ∧ Jwt.loader.Usable env
  numbers := [(.port, port), (.requestTimeout, requestTimeoutSeconds),
    (.cleanupInterval, cleanupIntervalSeconds)] ++
    Jwt.loader.numbers.map (fun number => (number.1, fun server => number.2 server.jwt)) ++
    costsLoader.numbers.map fun number => (number.1, fun server => number.2 server.password)

private theorem Jwt.loader_failsFast : Jwt.loader.FailsFast env := by
  refine .of ?_ ?_
  · rintro jwt loaded
    obtain ⟨secret, set, some, keys, read, minutes, first, days, second, rfl⟩ :=
      Jwt.load_eq_ok_iff.mp loaded
    exact ⟨⟨⟨secret, set, some⟩, keys, read⟩,
      List.forall_mem_cons.mpr ⟨first, List.forall_mem_singleton.mpr second⟩⟩
  · rintro ⟨⟨secret, set, some⟩, keys, read⟩ gives
    obtain ⟨minutes, first⟩ := gives _ List.mem_cons_self
    obtain ⟨days, second⟩ := gives _ (List.mem_cons_of_mem _ List.mem_cons_self)
    exact ⟨_, Jwt.load_eq_ok_iff.mpr ⟨secret, set, some, keys, read, minutes, first,
      days, second, rfl⟩⟩

private theorem costsLoader_failsFast : costsLoader.FailsFast env := by
  have natural {number : NumberVariable} (zero : number.least = 0)
      (defaulted : 0 ≤ number.default) (given : ∃ n, number.Gives env n) :
      ∃ n : Nat, number.Gives env n := by
    obtain ⟨n, gives⟩ := given
    have above := gives.least (zero ▸ defaulted)
    obtain ⟨k, rfl⟩ := Int.eq_ofNat_of_zero_le (zero ▸ above)
    exact ⟨k, gives⟩
  refine .of ?_ ?_
  · rintro costs loaded
    obtain ⟨memory, first, iterations, second, parallelism, third, rfl⟩ :=
      loadCosts_eq_ok_iff.mp loaded
    exact ⟨trivial, List.forall_mem_cons.mpr ⟨first, List.forall_mem_cons.mpr
      ⟨second, List.forall_mem_singleton.mpr third⟩⟩⟩
  · intro _ gives
    obtain ⟨first, rest⟩ := List.forall_mem_cons.mp gives
    obtain ⟨second, rest⟩ := List.forall_mem_cons.mp rest
    have third := List.forall_mem_singleton.mp rest
    obtain ⟨memory, first⟩ := natural rfl (by decide) first
    obtain ⟨iterations, second⟩ := natural rfl (by decide) second
    obtain ⟨parallelism, third⟩ := natural rfl (by decide) third
    exact ⟨_, loadCosts_eq_ok_iff.mpr ⟨memory, first, iterations, second,
      parallelism, third, rfl⟩⟩

private theorem Database.loader_failsFast : Database.loader.FailsFast env := by
  refine .of ?_ ?_
  · rintro database loaded
    obtain ⟨url, set, connections, gives, rfl⟩ := Database.load_eq_ok_iff.mp loaded
    exact ⟨⟨url, set⟩, List.forall_mem_singleton.mpr gives⟩
  · rintro ⟨url, set⟩ gives
    obtain ⟨connections, gives⟩ := List.forall_mem_singleton.mp gives
    exact ⟨_, Database.load_eq_ok_iff.mpr ⟨url, set, connections, gives, rfl⟩⟩

private theorem Server.loader_failsFast : Server.loader.FailsFast env := by
  refine .of ?_ ?_
  · rintro server loaded
    obtain ⟨port, first, timeout, second, cleanup, third, logFormat, read, jwt, keys, password,
      costs, rfl⟩ :=
      Server.load_eq_ok_iff.mp loaded
    have usable := (Jwt.loader_failsFast.loads.mp ⟨jwt, keys⟩).1
    refine ⟨⟨exists_loadLogFormat_iff.mp ⟨logFormat, read⟩, usable⟩, ?_⟩
    refine List.forall_mem_append.mpr ⟨List.forall_mem_append.mpr ⟨?_, ?_⟩, ?_⟩
    · exact List.forall_mem_cons.mpr ⟨first,
        List.forall_mem_cons.mpr ⟨second, List.forall_mem_singleton.mpr third⟩⟩
    · exact List.forall_mem_map.mpr fun number member =>
        (Jwt.loader_failsFast.keeps jwt keys number member _).mpr rfl
    · exact List.forall_mem_map.mpr fun number member =>
        (costsLoader_failsFast.keeps password costs number member _).mpr rfl
  · rintro ⟨format, usable⟩ gives
    obtain ⟨gives, ofCosts⟩ := List.forall_mem_append.mp gives
    obtain ⟨own, ofKeys⟩ := List.forall_mem_append.mp gives
    obtain ⟨⟨port, first⟩, own⟩ := List.forall_mem_cons.mp own
    obtain ⟨⟨timeout, second⟩, own⟩ := List.forall_mem_cons.mp own
    obtain ⟨cleanup, third⟩ := List.forall_mem_singleton.mp own
    obtain ⟨logFormat, read⟩ := exists_loadLogFormat_iff.mpr format
    obtain ⟨jwt, keys⟩ := Jwt.loader_failsFast.loads.mpr
      ⟨usable, fun _ member => ofKeys _ (List.mem_map_of_mem member)⟩
    obtain ⟨password, costs⟩ := costsLoader_failsFast.loads.mpr
      ⟨trivial, fun _ member => ofCosts _ (List.mem_map_of_mem member)⟩
    exact ⟨_, Server.load_eq_ok_iff.mpr
      ⟨port, first, timeout, second, cleanup, third, logFormat, read, jwt, keys,
        password, costs, rfl⟩⟩

/-! ### The port of the mail server -/

/-- The port that the setting gives, or the usual one where it gives none. -/
structure Email.PortRead (env : Environment) (email : Email) : Prop where
  given : ∀ n, NumberVariable.mailPort.Gives env n → email.port = n
  passedOver : (¬∃ n, NumberVariable.mailPort.Gives env n) →
    email.port = NumberVariable.mailPort.default

private theorem Email.load_portRead {host : String} (set : env.lookup "SMTP_HOST" = some host) :
    ∃ email, Email.load env = some email ∧ Email.PortRead env email := by
  rw [Email.load, set]
  refine ⟨_, rfl, ?_⟩
  cases port : env.lookup "SMTP_PORT" with
  | none =>
      have usual : NumberVariable.mailPort.Gives env 587 := .unset port
      exact ⟨fun n gives => usual.unique gives, fun nothing => absurd ⟨_, usual⟩ nothing⟩
  | some text =>
      have gives_iff {n : Int} :
          NumberVariable.mailPort.Gives env n ↔ readNumeral 0 word16Max text.toList = .ok n := by
        rw [NumberVariable.gives_of_set port,
          Text.readNumeral_eq_ok_iff (Int.le_refl 0) (by decide)]
        exact Iff.rfl
      dsimp only [Option.bind_some]
      cases read : readNumeral 0 word16Max text.toList with
      | error e =>
          refine ⟨fun n gives => ?_, fun _ => rfl⟩
          cases read.symm.trans (gives_iff.mp gives)
      | ok n =>
          have given := gives_iff.mpr read
          exact ⟨fun m gives => given.unique gives,
            fun nothing => absurd ⟨n, given⟩ nothing⟩

/-- Of the numbers among the settings each is the default when it is not there, and the number that
its text denotes when it is; where the text denotes none, nothing is loaded. Only the mail server
gets its usual port instead. -/
theorem configured_numbers_exact (env : Environment) :
    Server.loader.FailsFast env ∧ Jwt.loader.FailsFast env ∧ costsLoader.FailsFast env ∧
      Database.loader.FailsFast env ∧
      ∀ host, env.lookup "SMTP_HOST" = some host → ∃ email, Email.load env = some email ∧
        Email.PortRead env email :=
  ⟨Server.loader_failsFast, Jwt.loader_failsFast, costsLoader_failsFast,
    Database.loader_failsFast, fun _ set => Email.load_portRead set⟩

def mistypedMailServer : Environment := [("SMTP_HOST", "mail.example.com"), ("SMTP_PORT", "70000")]

theorem mistypedMailServer_usualPort :
    (¬∃ n, NumberVariable.mailPort.Gives mistypedMailServer n) ∧
      ∃ email, Email.load mistypedMailServer = some email ∧ email.port = 587 := by
  have nothing : ¬∃ n, NumberVariable.mailPort.Gives mistypedMailServer n := by
    rintro ⟨n, gives⟩
    have set : mistypedMailServer.lookup NumberVariable.mailPort.name = some "70000" := rfl
    have denotes := (NumberVariable.gives_of_set set).mp gives
    have read := (Text.readNumeral_eq_ok_iff (Int.le_refl 0) (by decide)).mpr denotes
    cases read
  exact ⟨nothing, _, rfl, rfl⟩

end Config

end StatusPage
