import AgentShield.WorkSwarm.Delivery
import AgentShield.WorkSwarm.FlowTrust

/-!
What stands behind a recovery that is reported, whatever the models answer, whatever the test
suite says, and whatever is lost on the way to the control plane.
-/
namespace AgentShield.WorkSwarm
open Text Lexical Session Resources Routes Quarantine Coop Remote

def testTarget (repoRoot : Path) : Path :=
  sandboxDir repoRoot ++ ["tests".toList, "test_auth_regression.py".toList]

def moduleTarget (repoRoot : Path) : Path :=
  sandboxDir repoRoot ++ ["app".toList, "auth.py".toList]

/-- The two requests that close a run. -/
def Settles : Request → Prop
  | .recover _ => True
  | .fail _ => True
  | _ => False

section
variable (repoRoot : Path) (team : Team) (quarantinedWorker : Option String) (files : Files)

def tested (patch : DeveloperPatch) : Files :=
  files.write (testTarget repoRoot) patch.regressionTest

def fixed (patch : DeveloperPatch) : Files :=
  (tested repoRoot files patch).write (moduleTarget repoRoot) patch.patchedSource

def redRun (patch : DeveloperPatch) : TestRun := team.pytest .beforeFix (tested repoRoot files patch)

def greenRun (patch : DeveloperPatch) : TestRun := team.pytest .afterFix (fixed repoRoot files patch)

def recordOf (command : String) (run : TestRun) : Request :=
  .recordTestRun developer run.passed run.summary run.exitCode command

def evidence (patch : DeveloperPatch) : List Request :=
  [recordOf (testCommand ++ "  (before the fix)") (redRun repoRoot team files patch),
   recordOf testCommand (greenRun repoRoot team files patch)]

/-- A worker is out; the new test failed on the module as it was, and the suite passed on the
    patched one; the reviewer has seen that run and approves; the control plane was told of both
    runs, in that order. -/
structure Demonstrated (before : List Request) (disk : Files) (summary : String) : Prop where
  quarantined : quarantinedWorker ≠ none
  proven : ∃ patch review, disk = fixed repoRoot files patch ∧
    (redRun repoRoot team files patch).passed = false ∧
    (greenRun repoRoot team files patch).passed = true ∧
    team.reviewer patch.patchedSource (greenRun repoRoot team files patch) = some review ∧
    review.approved = true ∧ summary = recoverySummary review.verdict ∧
    (evidence repoRoot team files patch).Sublist before

/-- The module is written only after the new test has failed on it, and no other file but that
    test is. -/
def Written (disk : Files) : Prop :=
  disk = files ∨ (∃ patch, disk = tested repoRoot files patch) ∨
    ∃ patch, disk = fixed repoRoot files patch ∧ (redRun repoRoot team files patch).passed = false

def Closed (w : World Server Bench) : Prop :=
  (∀ r ∈ w.server.received, ¬ Settles r) ∨ ∃ before last, w.server.received = before ++ [last] ∧
    (∀ r ∈ before, ¬ Settles r) ∧ ∀ summary, last = .recover summary →
      Demonstrated repoRoot team quarantinedWorker files before w.memory.files summary

structure Honest (w : World Server Bench) : Prop where
  written : Written repoRoot team files w.memory.files
  closed : Closed repoRoot team quarantinedWorker files w
  out : quarantinedWorker ≠ none → Quarantined securityResearcher w.server.session

end

def Asks (request : Request) : Prop := Spared request ∧ ¬ Settles request

/-- No other program is there. -/
def alone (inv : World Server Bench → Prop) : Contract Server Bench :=
  ⟨fun _ _ => False, fun _ _ => True, inv⟩

section
variable {disk : Disk} {root repoRoot : Path} {team : Team} {quarantinedWorker : Option String}
  {files now : Files} {told : List Request}

abbrev Holds (disk : Disk) (root repoRoot : Path) (team : Team)
    (quarantinedWorker : Option String) (files : Files) (P : World Server Bench → Prop)
    (p : Delivery α) (Q : α → World Server Bench → Prop) : Prop :=
  Triple (serveRequest disk root) (alone (Honest repoRoot team quarantinedWorker files)) P p Q

end

end AgentShield.WorkSwarm
