import AgentShield.WorkSwarm.LostReads
import AgentShield.WorkSwarm.ProvenRecovery

/-!
A whole run of the flow, from the created session to the verdict: the two branches in any
interleaving, then the delivery. Only a run that has put its researcher out, and has proved
the vulnerability and its fix, is told to the control plane as recovered.
-/
namespace AgentShield.WorkSwarm
open Schema Session Routes Resources Quarantine Coop Policy Remote

section
variable {disk : Disk} {root : Path}

/- Nothing is closed yet, and whoever the flow holds for quarantined is. -/
structure Truthful (w : World Server RunContext) : Prop where
  registered : w.server.session.workers.Has securityResearcher
  unsettled : ∀ r ∈ w.server.received, ¬ Settles r
  quarantined : w.memory.quarantinedWorker ≠ none → Quarantined securityResearcher w.server.session

def Stays (w w' : World Server RunContext) : Prop :=
  Quarantined securityResearcher w.server.session → Quarantined securityResearcher w'.server.session

def truth : Contract Server RunContext := ⟨Stays, Stays, Truthful⟩

end

section
variable {disk : Disk} {root : Path}

def Told (decision : Decision) (w : World Server RunContext) : Prop :=
  decision.quarantined = true → Quarantined securityResearcher w.server.session

section
variable {sessionId : Schema.Uuid} {objective : String} {modelBacked : Bool} {workers : Workers}
  {c : FlowRun} {repoRoot : Path} {team : Team} {files : Files} {research : Research}
  {d : DeliveryRun}

end

end

end AgentShield.WorkSwarm
