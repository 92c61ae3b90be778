import AgentShield.WorkSwarm.Client
import AgentShield.WorkSwarm.RepoPaths

/-!
The components of the flow up to the Developer (`workswarm/flows/auth_fix_flow.py`), and the
graph that joins them: the Repo Analyst beside the Security Researcher, its gate and the
recovery. What the workers' models say, and what is recorded of their calls, is a parameter.
-/
namespace AgentShield.WorkSwarm
open Session Resources Routes Remote

def authModule : String := "demo_target/app/auth.py"

def authNotes : String := "demo_target/docs/auth_notes.md"

def readme : String := "demo_target/README.md"

def repoAnalyst : String := "repo-analyst"

def securityResearcher : String := "security-researcher"

def replacementResearcher : String := "replacement-researcher"

def developer : String := "developer"

def reviewer : String := "reviewer"

def workerSpecs (modelBacked : Bool) : List WorkerSpec :=
  [{ id := repoAnalyst, role := "Repo Analyst", modelBacked },
   { id := securityResearcher, role := "Security Researcher", upstream := [repoAnalyst]
     modelBacked },
   { id := developer, role := "Developer", upstream := [securityResearcher], modelBacked },
   { id := reviewer, role := "Reviewer", upstream := [developer], modelBacked }]

/-- What `parse_report` leaves of a worker's answer. -/
structure Report where
  analysis : String
  requestedFiles : List String
  recommendations : List String
  deriving DecidableEq

/-- The workers: their reports, `none` for a call that raises, and what is recorded of a
    call, `none` for a worker without a model. -/
structure Workers where
  analyst : Option Report
  researcher : Option Report
  replacement : Option Report
  modelCall : String → Option ModelCall

def Report.head (report : Report) : String := String.ofList (report.analysis.toList.take 400)

def documentPath (decision : Decision) (path : String) : String :=
  match decision.normalizedPath with
  | none => path
  | some normalized => if normalized = "" then path else normalized

def noteFailure (decision : Decision) : Flow Unit :=
  if decision.failClosed then update fun ctx => { ctx with failClosed := true } else pure ()

/- The document of an allowed request, with its own text. -/
def release (decision : Decision) (path : String) (documents : List Document) :
    Flow (List Document) :=
  match decision.content with
  | none => pure documents
  | some text => do
    let document : Document := ⟨documentPath decision path, text⟩
    update fun ctx => { ctx with released := ctx.released ++ [document] }
    return documents ++ [document]

def deniedNote (decision : Decision) : Flow Unit :=
  update fun ctx => { ctx with denials := ctx.denials ++ [decision] }

def fetchAll (workerId : String) : List String → List Document → Flow (List Document)
  | [], documents => pure documents
  | path :: rest, documents => do
    let decision ← requestResource workerId path
    noteFailure decision
    if decision.allowed then
      let documents ← release decision path documents
      fetchAll workerId rest documents
    else
      deniedNote decision
      fetchAll workerId rest documents

def fetchForWorker (workerId task : String) (paths : List String) : Flow (List Document) := do
  let _ ← startTask workerId task
  fetchAll workerId paths []

def runWorker (workers : Workers) (workerId : String) (answer : Option Report) : Flow Report :=
  match answer with
  | none => raise .workerRaised
  | some report =>
    match workers.modelCall workerId with
    | none => pure report
    | some modelCall => do
      let _ ← recordModelCall workerId modelCall
      return report

def recordReport (workerId artifactId step : String) (complete : Bool) (report : Report) :
    Flow Unit := do
  let _ ← recordArtifact artifactId workerId step report.head
  if complete then
    let _ ← completeTask workerId step report.head
    return
  else return

/-- What the gate has so far: the documents, and the two flags of the branch. -/
structure Gate where
  documents : List Document
  recoveryRequired : Bool
  quarantined : Bool

/- The loop of `ShieldGate`; a quarantined worker's list is not read on. -/
def gateLoop : List String → Gate → Flow Gate
  | [], gate => pure gate
  | path :: rest, gate => do
    let decision ← requestResource securityResearcher path
    noteFailure decision
    if decision.allowed then
      let documents ← release decision path gate.documents
      gateLoop rest { gate with documents }
    else
      deniedNote decision
      let gate : Gate :=
        { gate with
          quarantined := gate.quarantined || decision.quarantined
          recoveryRequired := gate.recoveryRequired || decision.recoveryRequired }
      if decision.quarantined then
        update fun ctx => { ctx with quarantinedWorker := some securityResearcher }
        return gate
      else gateLoop rest gate

def shieldGate (report : Report) (documents : List Document) : Flow Gate := do
  update fun ctx => { ctx with researcherRequestedPaths := report.requestedFiles }
  gateLoop (policyRequestPaths report.requestedFiles) ⟨documents, false, false⟩

def replacementTask : String :=
  "Investigate the authentication vulnerability from trusted context only. " ++
  "The previous researcher was quarantined and its output was discarded."

def replacementSpec : WorkerSpec :=
  { id := replacementResearcher
    role := "Replacement Researcher"
    upstream := [repoAnalyst]
    replaces := some securityResearcher
    modelBacked := false }

def reassignAndFetch : Flow (List Document) := do
  let body ← summary
  let trusted := (body.artifacts.filter ArtifactView.trusted).map ArtifactView.id
  let tainted := (body.artifacts.filter fun a => !a.trusted).map ArtifactView.id
  update fun ctx => { ctx with trustedArtifactIds := trusted, taintedArtifactIds := tainted }
  let _ ← reassign securityResearcher replacementSpec replacementTask trusted
  let decision ← requestResource replacementResearcher authModule
  noteFailure decision
  if decision.allowed then release decision authModule [] else return []

def passThroughReport (report : Report) : Flow Report := do
  let _ ← completeTask securityResearcher "research" report.head
  return report

/-- What the Developer works from: `report or {}`, and whose it is. -/
structure Research where
  report : Option Report
  recovered : Bool
  deriving DecidableEq

def mergeResearch (fromReplacement fromOriginal : Option Report) : Research :=
  match fromReplacement with
  | some report => ⟨some report, true⟩
  | none => ⟨fromOriginal, false⟩

def analystBranch (workers : Workers) : Flow Unit := do
  let _ ← fetchForWorker repoAnalyst "Map the repository and its authentication surface."
    [readme, authModule]
  let report ← runWorker workers repoAnalyst workers.analyst
  recordReport repoAnalyst "repo-map" "analysis" true report

/- The branch's condition is the gate's `recovery_required`. -/
def researchBranch (workers : Workers) : Flow Research := do
  let documents ← fetchForWorker securityResearcher
    "Investigate the authentication vulnerability." [authNotes]
  let report ← runWorker workers securityResearcher workers.researcher
  recordReport securityResearcher "researcher-report" "report" false report
  let gate ← shieldGate report documents
  if gate.recoveryRequired then
    let _ ← reassignAndFetch
    let replacement ← runWorker workers replacementResearcher workers.replacement
    recordReport replacementResearcher "replacement-report" "research" true replacement
    return mergeResearch (some replacement) none
  else
    let original ← passThroughReport report
    return mergeResearch none (some original)

/- `create_session`: the workers are registered one after the other. -/
def createSession (sessionId : Schema.Uuid) (objective : String) (specs : List WorkerSpec) :
    LiveRuntimeSession :=
  specs.foldl (fun session spec => Coop.exec (Session.registerWorker spec.id spec.role
    spec.upstream spec.replaces spec.modelBacked) session) (.new sessionId objective)

abbrev FlowRun := Fork Request Response RunContext Abort Server Unit Research

/-- The two branches at their start, after the session was created. -/
def FlowRun.start (sessionId : Schema.Uuid) (objective : String) (modelBacked : Bool)
    (workers : Workers) : FlowRun where
  world := ⟨⟨createSession sessionId objective (workerSpecs modelBacked), [], []⟩, .new⟩
  left := analystBranch workers
  right := researchBranch workers

/-- The Developer's step waits for both branches; what it is given is the researcher's own
    report. -/
def ReceivesOriginal (c : FlowRun) : Prop :=
  ∃ research, c.left = .ret () ∧ c.right = .ret research ∧ research.recovered = false

end AgentShield.WorkSwarm
