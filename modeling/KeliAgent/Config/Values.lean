import KeliAgent.Ktp.Reconnect
import KeliAgent.Lib.Format
import KeliAgent.Tunnel.BatchPolicy

/-!
# Values of options

The checks of `config.rs` on the text of one option. Options that are read in the same way are of
one kind; `Kind.parse` reads the text of a value of that kind.

* `Kind.accept`: the value that a text stands for. **`toOption_parseRest`**,
  `toOption_parse_clean`: the ways to read a text differ in their errors only.
* `checked_of_accept`, `checked_of_ofFile`: numbers that have to be positive are, and a policy that
  was given is explicit.
-/

namespace KeliAgent.Config

open Wire

/-! ## The code -/

inductive ConfigError where
  | missingEndpoint
  | missingToken
  | missingValue (flag : String)
  | invalidValue (flag value : String)
  | configFileRead (message : String)
  | configFileParse (message : String)
  | unknownArgument (arg : String)
  deriving DecidableEq, Repr

/-- What the code uses of the numbers `f64`. -/
structure Floats where
  F64 : Type
  parse : String → Option F64
  isFinite : F64 → Bool
  /-- `parsed <= 0.0` -/
  nonpositive : F64 → Bool
  display : F64 → String
  one : F64
  /-- `as f64` of a number in a JSON document -/
  ofInt : ℤ → F64
  /-- Trimmed text is never read as a number if it is empty. -/
  parse_empty : parse "" = none

/-- The number that the decimal digits stand for, if it is below the bound. -/
def parseDigits (bound : ℕ) : ℕ → List Char → Option ℕ
  | value, [] => some value
  | value, c :: cs =>
    if 0x30 ≤ c.toNat ∧ c.toNat ≤ 0x39 ∧ value * 10 + (c.toNat - 0x30) < bound then
      parseDigits bound (value * 10 + (c.toNat - 0x30)) cs
    else none

/-- `str::parse` of an unsigned number: decimal digits, after a plus sign if there are any. -/
def parseUnsigned (bound : ℕ) (s : String) : Option ℕ :=
  match s.toList with
  | [] => none
  | ['+'] => none
  | '+' :: cs => parseDigits bound 0 cs
  | cs => parseDigits bound 0 cs

/-- `Option::ok_or` -/
def okOr {α : Type} (x : Option α) (e : ConfigError) : Except ConfigError α := x.elim (.error e) .ok

/-- The text without the blanks around it; it always returns `Some`. -/
def cleanRequired (value flag : String) : Except ConfigError String :=
  let value := Text.trim value
  if value = "" then .error (.missingValue flag) else .ok value

def cleanOptional (value : Option String) : Option String :=
  value.bind fun value =>
    let value := Text.trim value
    if value = "" then none else some value

def cleanConfigRequiredString (value : String) : Option String :=
  let value := Text.trim value
  if value = "" then none else some value

def cleanConfigString (value : String) : String := Text.trim value

def parseBool (value : String) : Bool :=
  let value := Text.lowercase (Text.trim value)
  value == "1" || value == "true"

def parseTunnelControlEnabled (value : String) : Option Bool :=
  let value := Text.lowercase (Text.trim value)
  if value ∈ ["1", "true", "enabled", "enable", "auto", "on", "yes"] then some true
  else if value ∈ ["0", "false", "disabled", "disable", "off", "no"] then some false
  else none

def parseTunnelRelayBatchPolicy (flag value : String) :
    Except ConfigError TunnelRelayBatchPolicy :=
  okOr (TunnelRelayBatchPolicy.parseConfigValue (Text.lowercase (Text.trim value)))
    (.invalidValue flag (Text.trim value))

def parseKtpTcpAuthVersion (flag value : String) : Except ConfigError KtpTcpAuthVersion :=
  let lower := Text.lowercase (Text.trim value)
  if lower ∈ ["1", "v1", "kta1"] then .ok .v1
  else if lower ∈ ["2", "v2", "kta2"] then .ok .v2
  else .error (.invalidValue flag (Text.trim value))

def validatePositiveF64 (floats : Floats) (flag : String) (parsed : floats.F64) :
    Except ConfigError floats.F64 :=
  if !floats.isFinite parsed || floats.nonpositive parsed then
    .error (.invalidValue flag (floats.display parsed))
  else .ok parsed

def parseF64 (floats : Floats) (flag value : String) : Except ConfigError floats.F64 := do
  validatePositiveF64 floats flag
    (← okOr (floats.parse (Text.trim value)) (.invalidValue flag value))

/-- `str::parse` of a number below the bound. -/
def parseNumber (bound : ℕ) (flag value : String) : Except ConfigError ℕ :=
  okOr (parseUnsigned bound (Text.trim value)) (.invalidValue flag value)

/-- `validate_positive_usize` and `validate_positive_u64` -/
def validatePositive (flag : String) (parsed : ℕ) : Except ConfigError ℕ :=
  if parsed = 0 then .error (.invalidValue flag (toString parsed)) else .ok parsed

def parseU32 : String → String → Except ConfigError ℕ := parseNumber (2 ^ 32)

def parseU64AllowZero : String → String → Except ConfigError ℕ := parseNumber (2 ^ 64)

def parseU64 (flag value : String) : Except ConfigError ℕ := do
  validatePositive flag (← parseNumber (2 ^ 64) flag value)

def parseUsize (flag value : String) : Except ConfigError ℕ := do
  validatePositive flag (← parseNumber (2 ^ 64) flag value)

/-! ## Kinds of values -/

/-- A policy, and whether it was set explicitly. -/
structure BatchPolicyChoice where
  policy : TunnelRelayBatchPolicy
  explicit : Bool
  deriving DecidableEq, Repr

inductive Kind where
  /-- a text that may be missing in the end -/
  | optional
  | text
  | authVersion
  | batchPolicy
  | usize
  | u64
  | u64AllowZero
  | u32
  | f64
  deriving DecidableEq, Repr

variable (floats : Floats)

/-- The variable that holds a value of the kind. -/
@[reducible] def Kind.Value : Kind → Type
  | optional => Option String
  | text => String
  | authVersion => KtpTcpAuthVersion
  | batchPolicy => BatchPolicyChoice
  | usize | u64 | u64AllowZero | u32 => ℕ
  | f64 => floats.F64

/-- The value in a configuration file, as `serde` reads it. -/
@[reducible] def Kind.FileValue : Kind → Type
  | optional | text | authVersion | batchPolicy => String
  | usize | u64 | u64AllowZero => Fin (2 ^ 64)
  | u32 => Fin (2 ^ 32)
  | f64 => floats.F64

/-- A text that is not blank, without blanks around it. -/
def Kind.parse (flag value : String) : (kind : Kind) → Except ConfigError (kind.Value floats)
  | optional => .ok (some value)
  | text => .ok value
  | authVersion => parseKtpTcpAuthVersion flag value
  | batchPolicy => (parseTunnelRelayBatchPolicy flag value).map (⟨·, true⟩)
  | usize => parseUsize flag value
  | u64 => parseU64 flag value
  | u64AllowZero => parseU64AllowZero flag value
  | u32 => parseU32 flag value
  | f64 => parseF64 floats flag value

/-- The text behind `flag=`. -/
def Kind.parseRest (flag rest : String) : (kind : Kind) → Except ConfigError (kind.Value floats)
  | optional => (cleanRequired rest flag).map some
  | text => cleanRequired rest flag
  | kind => kind.parse floats flag rest

/-- A value of the configuration file. -/
def Kind.ofFile (key : String) : (kind : Kind) → kind.FileValue floats →
    Except ConfigError (kind.Value floats)
  | optional, value => .ok (cleanConfigRequiredString value)
  | text, value => .ok (cleanConfigString value)
  | authVersion, value => parseKtpTcpAuthVersion key value
  | batchPolicy, value => (parseTunnelRelayBatchPolicy key value).map (⟨·, true⟩)
  | usize, value => validatePositive key value.val
  | u64, value => validatePositive key value.val
  | u64AllowZero, value => .ok value.val
  | u32, value => .ok value.val
  | f64, value => validatePositiveF64 floats key value

/-! ## Accepted texts -/

/-- The text without the blanks around it, if something is left. -/
def nonblank (text : String) : Option String :=
  if Text.trim text = "" then none else some (Text.trim text)

/-- The value that a text stands for, if it is accepted. -/
def Kind.accept : (kind : Kind) → String → Option (kind.Value floats)
  | optional, value => (nonblank value).map some
  | text, value => nonblank value
  | authVersion, value =>
    if Text.lowercase (Text.trim value) ∈ ["1", "v1", "kta1"] then some .v1
    else if Text.lowercase (Text.trim value) ∈ ["2", "v2", "kta2"] then some .v2
    else none
  | batchPolicy, value =>
    (TunnelRelayBatchPolicy.parseConfigValue (Text.lowercase (Text.trim value))).map (⟨·, true⟩)
  | usize, value | u64, value => (parseUnsigned (2 ^ 64) (Text.trim value)).filter (0 < ·)
  | u64AllowZero, value => parseUnsigned (2 ^ 64) (Text.trim value)
  | u32, value => parseUnsigned (2 ^ 32) (Text.trim value)
  | f64, value =>
    (floats.parse (Text.trim value)).filter fun x => floats.isFinite x && !floats.nonpositive x

section Accept

variable {floats}

theorem toOption_map {α β ε : Type} (x : Except ε α) (f : α → β) :
    (x.map f).toOption = x.toOption.map f := by
  cases x <;> rfl

theorem toOption_okOr {α : Type} (x : Option α) (e : ConfigError) : (okOr x e).toOption = x := by
  cases x <;> rfl

theorem toOption_validatePositive (flag : String) (n : ℕ) :
    (validatePositive flag n).toOption = (some n).filter (0 < ·) := by
  rw [validatePositive]
  cases n <;> rfl

theorem toOption_validatePositiveF64 (flag : String) (x : floats.F64) :
    (validatePositiveF64 floats flag x).toOption =
      (some x).filter fun x => floats.isFinite x && !floats.nonpositive x := by
  rw [validatePositiveF64, Option.filter]
  cases floats.isFinite x <;> cases floats.nonpositive x <;> rfl

theorem toOption_parseU64 (flag value : String) : (parseU64 flag value).toOption =
    (parseUnsigned (2 ^ 64) (Text.trim value)).filter (0 < ·) := by
  rw [parseU64, parseNumber]
  cases parseUnsigned (2 ^ 64) (Text.trim value) with
  | none => rfl
  | some n => exact toOption_validatePositive flag n

/-- Kinds that are more than a text trim it themselves. -/
theorem toOption_parse {kind : Kind} (hkind : kind ≠ .optional ∧ kind ≠ .text)
    (flag value : String) :
    (kind.parse floats flag value).toOption = kind.accept floats value := by
  cases kind with
  | optional => exact absurd rfl hkind.1
  | text => exact absurd rfl hkind.2
  | authVersion =>
    rw [Kind.parse, Kind.accept, parseKtpTcpAuthVersion]
    split_ifs <;> rfl
  | batchPolicy =>
    rw [Kind.parse, toOption_map, parseTunnelRelayBatchPolicy, toOption_okOr]
    rfl
  | usize | u64 => exact toOption_parseU64 flag value
  | u64AllowZero | u32 => exact toOption_okOr _ _
  | f64 =>
    rw [Kind.parse, Kind.accept, parseF64]
    cases floats.parse (Text.trim value) with
    | none => rfl
    | some x => exact toOption_validatePositiveF64 flag x

theorem accept_trim (kind : Kind) (value : String) :
    kind.accept floats (Text.trim value) = kind.accept floats value := by
  cases kind <;> simp only [Kind.accept, nonblank, Text.trim_trim]

/-- No kind accepts a blank text. -/
theorem accept_blank (kind : Kind) {value : String} (h : Text.trim value = "") :
    kind.accept floats value = none := by
  rw [← accept_trim, h]
  cases kind with
  | f64 =>
    have hparse : floats.parse (Text.trim "") = none := floats.parse_empty
    rw [Kind.accept, hparse]
    rfl
  | _ => rfl

/-- A cleaned text is read as its value, under any name. -/
theorem toOption_parse_clean (kind : Kind) (flag : String) {text : String}
    (h : Text.trim text ≠ "") :
    (kind.parse floats flag (Text.trim text)).toOption = kind.accept floats text := by
  by_cases hkind : kind ≠ .optional ∧ kind ≠ .text
  · rw [toOption_parse hkind, accept_trim]
  · rcases not_and_or.mp hkind with hkind | hkind
    · rw [not_not.mp hkind, Kind.accept, nonblank, if_neg h]
      rfl
    · rw [not_not.mp hkind, Kind.accept, nonblank, if_neg h]
      rfl

/-- **The text behind an equals sign** is read like a text of its own. -/
theorem toOption_parseRest (kind : Kind) (flag rest : String) :
    (kind.parseRest floats flag rest).toOption = kind.accept floats rest := by
  cases kind with
  | optional =>
    rw [Kind.parseRest, toOption_map, cleanRequired, Kind.accept, nonblank]
    split_ifs <;> rfl
  | text =>
    rw [Kind.parseRest, cleanRequired, Kind.accept, nonblank]
    split_ifs <;> rfl
  | authVersion | batchPolicy | usize | u64 | u64AllowZero | u32 | f64 =>
    rw [Kind.parseRest, toOption_parse ⟨by decide, by decide⟩]
    all_goals exact fun h => Kind.noConfusion h

end Accept

/-! ## Checked values -/

/-- What holds of a value that was given. -/
def Kind.Checked : (kind : Kind) → kind.Value floats → Prop
  | usize, n | u64, n => 0 < n
  | batchPolicy, choice => choice.explicit = true
  | _, _ => True

section Checked

variable {floats}

theorem eq_ok_of_toOption {α ε : Type} {x : Except ε α} {a : α} (h : x.toOption = some a) :
    x = .ok a := by
  cases x with
  | error e => cases h
  | ok b => exact congrArg Except.ok (Option.some.inj h)

theorem pos_of_validatePositive {flag : String} {n m : ℕ} (h : validatePositive flag n = .ok m) :
    0 < m := by
  rw [validatePositive] at h
  split_ifs at h with hzero
  cases h
  exact Nat.pos_of_ne_zero hzero

theorem explicit_of_map {x : Except ConfigError TunnelRelayBatchPolicy} {choice : BatchPolicyChoice}
    (h : x.map (⟨·, true⟩) = .ok choice) : choice.explicit = true := by
  cases x with
  | error e => cases h
  | ok policy =>
    cases h
    rfl

theorem checked_of_accept {kind : Kind} {text : String} {v : kind.Value floats}
    (h : kind.accept floats text = some v) : kind.Checked floats v := by
  cases kind with
  | usize | u64 =>
    rw [Kind.accept] at h
    have hpos : decide (0 < v) = true := (Option.filter_eq_some_iff.mp h).2
    change 0 < v
    exact decide_eq_true_iff.mp hpos
  | batchPolicy =>
    rw [Kind.accept] at h
    obtain ⟨policy, -, rfl⟩ := Option.map_eq_some_iff.mp h
    rfl
  | optional | text | authVersion | u64AllowZero | u32 | f64 => trivial

theorem checked_of_ofFile {kind : Kind} {key : String} {value : kind.FileValue floats}
    {v : kind.Value floats} (h : kind.ofFile floats key value = .ok v) :
    kind.Checked floats v := by
  cases kind with
  | usize | u64 => exact pos_of_validatePositive h
  | batchPolicy =>
    rw [Kind.ofFile] at h
    exact explicit_of_map h
  | optional | text | authVersion | u64AllowZero | u32 | f64 => trivial

end Checked

end KeliAgent.Config
