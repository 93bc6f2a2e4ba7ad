import Split402.Host
import Split402.Protocol.Numbers
import Split402.Protocol.Offers

/-! # Registries

What the registries of merchants, campaigns and routes share: the engine and its libraries, the
errors they throw and the checks of their inputs. -/

namespace Split402

variable {ν : Type}

/-- The engine, the schema library and the messages of its issues of a claim. `isHttpOrigin` says
that `new URL(value)` is an http or https URL whose origin is `value`. -/
structure RegistryRuntime (ν : Type) extends Runtime ν where
  host : Host
  zod : Zod
  isHttpOrigin : String → Bool
  toUpperCase : String → String
  claimIssues : Option ReferralClaimV1 → List String

/-- The error classes of a registry; `other` is an error of another class. -/
inductive RegistryError
  | validation (message : String)
  | conflict (message : String)
  | other (message : String)
  deriving DecidableEq, Repr

/-- What a protocol function throws is an `Error`. -/
def ofProtocolError {α : Type} : Except String α → Except RegistryError α
  | .ok a => .ok a
  | .error message => .error (.other message)

theorem ofProtocolError_eq_ok {α : Type} {result : Except String α} {a : α} :
    ofProtocolError result = .ok a ↔ result = .ok a := by
  cases result with
  | ok b => simp [ofProtocolError]
  | error message => simp [ofProtocolError]

/-- A value that passes a check, or the error that names what it is checked to be. -/
def assertThat {α : Type} (p : Bool) (value : α) (message : String) : Except RegistryError α :=
  if p then pure value else throw (.validation message)

theorem assertThat_eq_ok {α : Type} {p : Bool} {value a : α} {message : String} :
    assertThat p value message = .ok a ↔ p = true ∧ value = a := by
  rw [assertThat]
  cases p with
  | true => simp
  | false => simp

/-- `if (p) throw error`. -/
def throwIf (p : Prop) [Decidable p] (error : RegistryError) : Except RegistryError Unit :=
  if p then throw error else pure ()

theorem throwIf_eq_ok {p : Prop} [Decidable p] {error : RegistryError} {u : Unit} :
    throwIf p error = .ok u ↔ ¬ p :=
  Base.guard_eq_ok

namespace Registry

def assertSplit402Id (value label : String) : Except RegistryError String :=
  assertThat (isSplit402Id value) value s!"{label} must be a Split402 id"

def assertBase58PublicKey (value label : String) : Except RegistryError String :=
  assertThat (base58Regex value) value s!"{label} must be a base58 public key"

def assertNonEmptyString (value label : String) : Except RegistryError String :=
  assertThat (!isBlank value) value s!"{label} must be a non-empty string"

def assertAtomicAmount (value label : String) : Except RegistryError String :=
  assertThat (decimalAmountRegex value) value s!"{label} must be an atomic amount"

def assertBasisPoints (value : JsNumber) (label : String) : Except RegistryError Nat :=
  match value.toInteger.filter (fun bps => 0 ≤ bps ∧ bps ≤ 10000) with
  | none => throw (.validation s!"{label} must be 0-10000")
  | some bps => pure bps.toNat

def assertPositiveVersion (value : JsNumber) : Except RegistryError Nat :=
  match value.toInteger.filter (0 < ·) with
  | none => throw (.validation "version must be a positive integer")
  | some version => pure version.toNat

section Checks

variable (runtime : RegistryRuntime ν)

def assertUtcTimestamp (value label : String) : Except RegistryError String :=
  assertThat (rfc3339UtcSchema runtime.zod value) value s!"{label} must be UTC RFC3339"

def assertUrlOrigin (value label : String) : Except RegistryError String :=
  assertThat (runtime.isHttpOrigin value) value s!"{label} must be an http(s) URL origin"

/-- `Date.parse(left) <= Date.parse(right)`, which is false of what does not parse. -/
def parsesNotAfter (left right : String) : Bool :=
  match runtime.host.dateParse left, runtime.host.dateParse right with
  | some l, some r => l ≤ r
  | _, _ => false

/-- `Date.parse(left) > Date.parse(right)`. -/
def parsesAfter (left right : String) : Bool :=
  match runtime.host.dateParse left, runtime.host.dateParse right with
  | some l, some r => r < l
  | _, _ => false

end Checks

end Registry

end Split402
