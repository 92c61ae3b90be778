import AgentShield.Lib.JsonCompact
import AgentShield.Lib.Nested

/-!
The metadata that telemetry may carry (`telemetry/sentry.py`): what the allowlist leaves
of a call's fields.
-/
namespace AgentShield.Telemetry
open CodePoints JsonText Nested

def safeFieldNames : List Str :=
  ["artifact_id", "attack_detected", "context_artifact_ids", "decision", "event_type",
    "exit_code", "fail_closed", "files_written", "from_worker_id", "latency_ms", "model",
    "model_backed", "model_latency_ms", "phase", "policy_result", "provider",
    "pytest_exit_code", "quarantined_worker", "replacement_relationship", "replaces",
    "replacement_worker_id", "resource_path", "requested_files", "role", "rule", "run_id",
    "security_state", "session_id", "task_id", "task_identifier", "tests_passed",
    "tainted_artifact_ids", "trusted_artifacts", "to_worker_id", "violation_type",
    "vulnerability_proven", "worker_id"].map str

/- An object of any other class is itself all there is to know of it. -/
inductive Key (Object : Type) where
  | text (name : Str)
  | other (object : Object)
  deriving DecidableEq

inductive Leaf (Object : Type) where
  | scalar (s : Scalar)
  | other (object : Object)

inductive Collection where
  | list | tuple | set | frozenset
  deriving DecidableEq

abbrev Value (Object : Type) := Nested.Value (Key Object) Collection (Leaf Object)

abbrev Entries (Object : Type) := Nested.Entries (Key Object) Collection (Leaf Object)

/-- A mapping has one entry a key, and so has every mapping in it. -/
structure Fields (Object : Type) where
  entries : Entries Object
  distinct : (entries.map Prod.fst).Nodup
  proper : ProperEntries entries

variable {Object : Type}

def safeName : Key Object → Option Str
  | .text name => if name ∈ safeFieldNames then some name else none
  | .other _ => none

def isSafe (key : Key Object) : Bool := (safeName key).isSome

section
variable (interpreter : Interpreter)

mutual

/- `_safe_value`; `none` is `_DROP`. -/
def safeValue : Value Object → Except DumpError (Option Scalar)
  | .leaf (.scalar s) => .ok (some s)
  | .leaf (.other _) => .ok none
  | .mapping entries => do
    let nested ← safeEntries entries
    return some (.text (← compactObject interpreter nested))
  | .items _ values => do
    let nestedValues ← safeItems values
    return some (.text (← compactList interpreter nestedValues))

def safeEntries : Entries Object → Except DumpError (List (Str × Scalar))
  | [] => .ok []
  | (key, item) :: rest => match safeName key with
    | none => safeEntries rest
    | some name => do
      let scrubbed ← safeValue item
      let nested ← safeEntries rest
      return (scrubbed.map (Prod.mk name)).toList ++ nested

/- A mapping in a collection is filtered, not dumped. -/
def safeItems : List (Value Object) → Except DumpError (List Item)
  | [] => .ok []
  | item :: rest => do
    let scrubbed : Option Item ← match item with
      | .mapping entries => (safeEntries entries).map fun filtered => some (.fields filtered)
      | item => (safeValue item).map fun scrubbed => scrubbed.map .scalar
    let nestedValues ← safeItems rest
    return scrubbed.toList ++ nestedValues

end

/-- `_safe_fields`: only explicitly approved correlation metadata. -/
def safeFields (fields : Fields Object) : Except DumpError (List (Str × Scalar)) :=
  safeEntries interpreter fields.entries

end

/-- The entries under every other key are deleted, at every depth. -/
def Fields.erase (fields : Fields Object) : Fields Object :=
  ⟨eraseEntries isSafe fields.entries, by
    rw [erased_keys]
    exact fields.distinct.filter isSafe, eraseEntries_proper fields.proper⟩

def Fields.Agree (a b : Fields Object) : Prop := AgreeEntries a.entries b.entries

end AgentShield.Telemetry
