import AgentShield.WorkSwarm.Flow
import AgentShield.WorkSwarm.Patcher

/-!
The components of the flow from the Developer on (`workswarm/flows/auth_fix_flow.py`): the
regression test is written and run before the module is patched, and the run is closed as
recovered only on what was seen. What the two workers' models say and what `pytest` reports
are parameters.
-/
namespace AgentShield.WorkSwarm
open Session Resources Routes Remote

def regressionTestPath : String := "tests/test_auth_regression.py"

def authModulePath : String := "app/auth.py"

abbrev Files := Path → Option String

/-- What `_as_patch` makes of the Developer's answer. -/
structure DeveloperPatch where
  patchedSource : String
  regressionTest : String
  explanation : String

/-- What `_as_review` makes of the Reviewer's. -/
structure Review where
  approved : Bool
  verdict : String

/-- One `pytest demo_target`; the exit code is the authority. -/
structure TestRun where
  exitCode : Int
  summary : String
  output : String

def TestRun.passed (run : TestRun) : Bool := run.exitCode == 0

def testCommand : String := "pytest demo_target"

inductive Phase where
  | beforeFix
  | afterFix

/-- `none` for a call that raises, or an answer that cannot be read. -/
structure Team where
  developer : String → Option Report → Option DeveloperPatch
  reviewer : String → TestRun → Option Review
  pytest : Phase → Files → TestRun
  modelCall : String → Option ModelCall

structure Bench where
  ctx : RunContext
  files : Files

inductive DeliveryAbort where
  | flow (abort : Abort)
  | workerRaised
  /- The `RuntimeError`s of the Developer's step and of `ApplyPatchStep`. -/
  | noSource (reason : String)
  | notProven
  | write (e : WriteError)

abbrev Delivery := Prog Request Response Bench DeliveryAbort

def onContext (p : Flow α) : Delivery α :=
  p.embed (fun f bench => { bench with ctx := f bench.ctx }) .flow

def recordTestRun (workerId command : String) (run : TestRun) : Flow Response :=
  call (.recordTestRun workerId run.passed run.summary run.exitCode command) "record_test_run"

def recover (summary : String) : Flow Response := call (.recover summary) "recover"

def fail (reason : String) : Flow Response := call (.fail reason) "fail"

def Files.write (files : Files) (target : Path) (content : String) : Files :=
  fun path => if path = target then some content else files path

def writeInSandbox (repoRoot : Path) (relativePath content : String) (files : Files) :
    Delivery Files :=
  match resolveInSandbox repoRoot relativePath with
  | .error e => raise (.write e)
  | .ok target => do
    update fun bench => { bench with files := files.write target content }
    return files.write target content

/- `ctx.record_model_call`, for a worker without a model nothing. -/
def noteModelCall (team : Team) (workerId : String) : Delivery Unit :=
  match team.modelCall workerId with
  | none => pure ()
  | some modelCall => do
    let _ ← onContext (recordModelCall workerId modelCall)
    return

def orElse (text alternative : String) : String := if text = "" then alternative else text

section
variable (repoRoot : Path) (team : Team)

/-- Fetch the module, run the Developer, and write the regression test only. -/
def developerStep (research : Research) (files : Files) : Delivery (DeveloperPatch × Files) := do
  let _ ← onContext (startTask developer
    "Patch the authentication vulnerability and add regression coverage.")
  let decision ← onContext (requestResource developer authModule)
  onContext (noteFailure decision)
  match decision.allowed, decision.content with
  | true, some source =>
    match team.developer source research.report with
    | none => raise .workerRaised
    | some patch => do
      noteModelCall team developer
      let files ← writeInSandbox repoRoot regressionTestPath patch.regressionTest files
      let _ ← onContext (completeTask developer "regression_test"
        "Added regression coverage for the vulnerability.")
      return (patch, files)
  | _, _ => raise (.noSource decision.reason)

def runDemoTargetTests (phase : Phase) (files : Files) : TestRun := team.pytest phase files

/-- Run the new test against the still vulnerable module. It has to fail. -/
def proveVulnerabilityStep (files : Files) : Delivery Bool := do
  let result := runDemoTargetTests team .beforeFix files
  let proven := !result.passed
  let _ ← onContext (recordTestRun developer (testCommand ++ "  (before the fix)") result)
  let _ ← onContext (completeTask developer
    (if proven then "vulnerability_proven" else "vulnerability_NOT_proven")
    (if proven then "The regression test fails against the unpatched module: " ++ result.summary
      else "The regression test PASSED against the unpatched module, so it " ++
        "does not cover the vulnerability: " ++ result.summary))
  return proven

def applyPatchStep (patch : DeveloperPatch) (vulnerabilityProven : Bool) (files : Files) :
    Delivery Files :=
  if vulnerabilityProven then do
    let files ← writeInSandbox repoRoot authModulePath patch.patchedSource files
    let _ ← onContext (completeTask developer "patch"
      (orElse patch.explanation "Patched the authentication module."))
    return files
  else raise .notProven

def pytestStep (files : Files) : Delivery TestRun := do
  let result := runDemoTargetTests team .afterFix files
  let _ ← onContext (recordTestRun developer testCommand result)
  return result

def reviewerStep (patch : DeveloperPatch) (result : TestRun) : Delivery Review := do
  let _ ← onContext (startTask reviewer "Independently verify the patch against the test evidence.")
  match team.reviewer patch.patchedSource result with
  | none => raise .workerRaised
  | some review => do
    noteModelCall team reviewer
    let _ ← onContext (completeTask reviewer "review" review.verdict)
    return review

/- `workswarm/outcome.py`. -/
def recoveryWasDemonstrated (approved testsPassed vulnerabilityProven quarantined : Bool) : Bool :=
  approved && testsPassed && vulnerabilityProven && quarantined

def recoverySummary (verdict : String) : String :=
  verdict ++ " The team completed the task despite one worker being compromised mid-run."

def failureReason (quarantinedWorker : Option String) (vulnerabilityProven : Bool)
    (verdict : String) : String :=
  if quarantinedWorker = none then
    "The Security Researcher was not quarantined, so no attack recovery was demonstrated."
  else if vulnerabilityProven = false then
    "The regression test did not fail against the unpatched module, " ++
      "so no vulnerability was demonstrated."
  else orElse verdict "The reviewer did not approve the patch."

/-- The outcome. -/
def finishStep (quarantinedWorker : Option String) (vulnerabilityProven : Bool) (result : TestRun)
    (review : Review) : Delivery String :=
  if recoveryWasDemonstrated review.approved result.passed vulnerabilityProven
      quarantinedWorker.isSome then do
    let _ ← onContext (recover (recoverySummary review.verdict))
    return "recovered"
  else do
    let _ ← onContext (fail (failureReason quarantinedWorker vulnerabilityProven review.verdict))
    return "failed"

/- `ctx.quarantined_worker` and `ctx.vulnerability_proven` are set before they are read, by the
   gate and by the second step. -/
def deliver (quarantinedWorker : Option String) (research : Research) (files : Files) :
    Delivery String := do
  let (patch, files) ← developerStep repoRoot team research files
  let proven ← proveVulnerabilityStep team files
  let files ← applyPatchStep repoRoot patch proven files
  let result ← pytestStep team files
  let review ← reviewerStep team patch result
  finishStep quarantinedWorker proven result review

end

/-- The run alone with the control plane. -/
abbrev DeliveryRun := Fork Request Response Bench DeliveryAbort Server String Unit

def DeliveryRun.start (repoRoot : Path) (team : Team) (world : World Server RunContext)
    (research : Research) (files : Files) : DeliveryRun where
  world := ⟨world.server, ⟨world.memory, files⟩⟩
  left := deliver repoRoot team world.memory.quarantinedWorker research files
  right := .ret ()

end AgentShield.WorkSwarm
