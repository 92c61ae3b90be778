import Mathlib.Data.Finset.Insert
import Mathlib.Data.List.Sort
import Mathlib.Data.String.Basic
import AgentShield.Lib.Table
import AgentShield.Schema.Experiment

/-!
The world of a simulated experiment (`engine/state.py`) and its keyed random
draws (`engine/rng.py`).
-/
namespace AgentShield.Engine
open Schema Keyed

/-- What one fresh generator returns when it is asked once: `random()`, `choice(xs)`,
    `sample(xs, k)` and `getrandbits(64)`; `again` is a second `random()`. -/
structure Random where
  random : Rat
  again : Rat
  choice : List String → String
  sample : List String → Nat → List String
  getrandbits : Nat
  random_nonneg : 0 ≤ random
  random_lt_one : random < 1
  choice_member : ∀ xs, xs ≠ [] → choice xs ∈ xs
  sample_subset : ∀ xs k, sample xs k ⊆ xs
  sample_length : ∀ xs k, k ≤ xs.length → (sample xs k).length = k
  getrandbits_lt : getrandbits < 2 ^ 64

/- `rng(seed, tick, agent_id, purpose)`: the key fully determines the stream. -/
abbrev Rng := Int → Nat → String → String → Random

instance : Inhabited Random where
  default :=
    { random := 0
      again := 0
      choice := fun xs => xs.headD ""
      sample := fun xs k => xs.take k
      getrandbits := 0
      random_nonneg := by decide
      random_lt_one := by decide
      choice_member := by
        intro xs nonempty
        cases xs with
        | nil => exact absurd rfl nonempty
        | cons x rest => exact List.mem_cons_self
      sample_subset := fun xs k => List.take_subset k xs
      sample_length := by
        intro xs k enough
        rw [List.length_take]
        omega
      getrandbits_lt := by decide }

structure AgentNode where
  id : String
  softwareType : String
  securityState : SecurityState
  neighbors : List String
  compromisedBy : Option String := none
  tickCompromised : Option Nat := none
  agentKind : AgentKind := .simulated
  confidentialToken : Option String := none
  deriving DecidableEq

structure WorldState where
  tick : Nat
  nodes : Table AgentNode.id
  edges : List (String × String)
  compromisedGraphNodes : Finset String := ∅

/- `f"{n:03d}"` is `padded 10 3 n`, `f"{n:016x}"` is `padded 16 16 n`. -/
def padded (base width n : Nat) : String :=
  let digits := Nat.toDigits base n
  String.ofList (List.replicate (width - digits.length) '0' ++ digits)

def sorted (ids : List String) : List String := ids.insertionSort (· ≤ ·)

def sortedById (nodes : List AgentNode) : List AgentNode :=
  nodes.insertionSort fun a b => a.id ≤ b.id

def WorldState.inState (state : WorldState) (securityState : SecurityState) : List AgentNode :=
  sortedById (state.nodes.values.filter fun node => node.securityState = securityState)

/- `sorted(t for t in node.neighbors if state.nodes[t].security_state == HEALTHY)`; every
   neighbour of a node is a node. -/
def WorldState.healthyNeighbors (state : WorldState) (node : AgentNode) : List AgentNode :=
  sortedById ((node.neighbors.filterMap state.nodes.get?).filter
    fun target => target.securityState = .healthy)

def AgentNode.view (node : AgentNode) : NodeView :=
  { id := node.id
    softwareType := node.softwareType
    securityState := node.securityState
    compromisedBy := node.compromisedBy
    tickCompromised := node.tickCompromised
    agentKind := node.agentKind }

def WorldState.views (state : WorldState) : List NodeView :=
  state.nodes.values.map AgentNode.view

@[simp] theorem view_id (node : AgentNode) : node.view.id = node.id := rfl

@[simp] theorem view_securityState (node : AgentNode) :
    node.view.securityState = node.securityState := rfl

theorem mem_sortedById {nodes : List AgentNode} {node : AgentNode} :
    node ∈ sortedById nodes ↔ node ∈ nodes :=
  (List.perm_insertionSort _ nodes).mem_iff

theorem mem_sorted {ids : List String} {id : String} : id ∈ sorted ids ↔ id ∈ ids :=
  (List.perm_insertionSort _ ids).mem_iff

theorem mem_inState {state : WorldState} {securityState : SecurityState} {node : AgentNode} :
    node ∈ state.inState securityState ↔
      node ∈ state.nodes.values ∧ node.securityState = securityState := by
  unfold WorldState.inState
  rw [mem_sortedById, List.mem_filter, decide_eq_true_eq]

theorem mem_healthyNeighbors {state : WorldState} {node target : AgentNode} :
    target ∈ state.healthyNeighbors node ↔
      target.id ∈ node.neighbors ∧ target ∈ state.nodes.values ∧
        target.securityState = .healthy := by
  unfold WorldState.healthyNeighbors
  rw [mem_sortedById, List.mem_filter, List.mem_filterMap, decide_eq_true_eq]
  constructor
  · rintro ⟨⟨id, neighbor, found⟩, healthy⟩
    have same := Table.get?_key found
    exact ⟨same ▸ neighbor, Table.get?_member found, healthy⟩
  · rintro ⟨neighbor, member, healthy⟩
    exact ⟨⟨target.id, neighbor, Table.get?_of_member member⟩, healthy⟩

end AgentShield.Engine
