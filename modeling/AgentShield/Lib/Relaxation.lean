import Mathlib.Data.Finset.Card
import Mathlib.Data.Finset.Dedup
import Mathlib.Logic.Relation

/-!
Relaxation in place: a value for every node, recomputed from the node's parents in passes over
all nodes, until a pass changes nothing. Where nobody is its own ancestor, as many passes as
there are nodes settle every value.
-/
namespace Relaxation
open Relation
variable {α κ β σ : Type}

/- The values stand in a store under the nodes' names; `next` reads a node's parents only. -/
structure System (α κ β σ : Type) [DecidableEq κ] where
  name : α → κ
  get : σ → κ → Option β
  put : σ → κ → β → σ
  next : σ → α → β
  Parent : α → α → Prop
  get_put : ∀ s k v k', get (put s k v) k' = if k' = k then some v else get s k'
  reads : ∀ s t a, (∀ p, Parent a p → get s (name p) = get t (name p)) → next s a = next t a

namespace System
variable [DecidableEq κ] [DecidableEq β] (sys : System α κ β σ)

def relax (pass : σ × Bool) (a : α) : σ × Bool :=
  if sys.get pass.1 (sys.name a) = some (sys.next pass.1 a) then pass
  else (sys.put pass.1 (sys.name a) (sys.next pass.1 a), true)

def relaxAll (nodes : List α) : Nat → σ → σ
  | 0, s => s
  | passes + 1, s =>
    let pass := nodes.foldl sys.relax (s, false)
    if pass.2 then relaxAll nodes passes pass.1 else pass.1

def Settled (s : σ) (a : α) : Prop := sys.get s (sys.name a) = some (sys.next s a)

variable {sys}

theorem relax_settled {pass : σ × Bool} {a : α} (settled : sys.Settled pass.1 a) :
    sys.relax pass a = pass :=
  if_pos settled

theorem pass_settled {nodes : List α} {pass : σ × Bool}
    (settled : ∀ a ∈ nodes, sys.Settled pass.1 a) : nodes.foldl sys.relax pass = pass := by
  induction nodes with
  | nil => rfl
  | cons a rest ih =>
    rw [List.foldl_cons, relax_settled (settled a List.mem_cons_self)]
    exact ih fun b later => settled b (List.mem_cons_of_mem a later)

theorem pass_unchanged {nodes : List α} {pass : σ × Bool}
    (same : (nodes.foldl sys.relax pass).2 = false) :
    nodes.foldl sys.relax pass = pass ∧ ∀ a ∈ nodes, sys.Settled pass.1 a := by
  induction nodes generalizing pass with
  | nil => exact ⟨rfl, fun _ never => nomatch never⟩
  | cons a rest ih =>
    obtain ⟨whole, later⟩ := ih same
    rw [List.foldl_cons] at same ⊢
    rw [whole] at same ⊢
    by_cases settled : sys.Settled pass.1 a
    · rw [relax_settled settled] at later ⊢
      exact ⟨rfl, List.forall_mem_cons.mpr ⟨settled, later⟩⟩
    · rw [relax, if_neg (by exact settled)] at same
      cases same

theorem relaxAll_settled {nodes : List α} {s : σ} (settled : ∀ a ∈ nodes, sys.Settled s a)
    (passes : Nat) : sys.relaxAll nodes passes s = s := by
  cases passes with
  | zero => rfl
  | succ passes =>
    have same : nodes.foldl sys.relax (s, false) = (s, false) := pass_settled settled
    rw [relaxAll, same]
    rfl

theorem relaxAll_add (nodes : List α) (first later : Nat) (s : σ) :
    sys.relaxAll nodes (first + later) s =
      sys.relaxAll nodes later (sys.relaxAll nodes first s) := by
  induction first generalizing s with
  | zero => rw [Nat.zero_add]; rfl
  | succ first ih =>
    rw [Nat.succ_add, relaxAll, relaxAll]
    split
    · exact ih _
    · rename_i unchanged
      obtain ⟨same, settled⟩ := pass_unchanged (Bool.eq_false_iff.mpr unchanged)
      rw [same]
      exact (relaxAll_settled settled later).symm

theorem relax_elsewhere {pass : σ × Bool} {a : α} {k : κ} (other : k ≠ sys.name a) :
    sys.get (sys.relax pass a).1 k = sys.get pass.1 k := by
  unfold relax
  split
  · rfl
  · exact (sys.get_put _ _ _ _).trans (if_neg other)

theorem relax_here (pass : σ × Bool) (a : α) :
    sys.get (sys.relax pass a).1 (sys.name a) = some (sys.next pass.1 a) := by
  unfold relax
  split
  · assumption
  · exact (sys.get_put _ _ _ _).trans (if_pos rfl)

theorem pass_elsewhere {nodes : List α} {pass : σ × Bool} {k : κ}
    (other : k ∉ nodes.map sys.name) :
    sys.get (nodes.foldl sys.relax pass).1 k = sys.get pass.1 k := by
  induction nodes generalizing pass with
  | nil => rfl
  | cons a rest ih =>
    obtain ⟨here, later⟩ := not_or.mp (mt List.mem_cons.mpr other)
    rw [List.foldl_cons, ih later, relax_elsewhere here]

/- Nodes that are settled together with their parents: no pass writes to them. -/
structure Firm (sys : System α κ β σ) (nodes : List α) (firm : α → Prop) (s : σ) : Prop where
  inside : ∀ a, firm a → a ∈ nodes
  closed : ∀ a p, firm a → sys.Parent a p → firm p
  settled : ∀ a, firm a → sys.Settled s a

theorem firm_kept {nodes visited : List α} {firm : α → Prop} {s : σ}
    (distinct : (nodes.map sys.name).Nodup) (stands : Firm sys nodes firm s)
    (inside : ∀ a ∈ visited, a ∈ nodes) {pass : σ × Bool}
    (start : ∀ p, firm p → sys.get pass.1 (sys.name p) = sys.get s (sys.name p)) :
    ∀ p, firm p → sys.get (visited.foldl sys.relax pass).1 (sys.name p) = sys.get s (sys.name p) := by
  induction visited generalizing pass with
  | nil => exact start
  | cons a rest ih =>
    apply ih fun b later => inside b (List.mem_cons_of_mem a later)
    intro p firm_p
    by_cases named : sys.name p = sys.name a
    · have same : p = a := List.inj_on_of_nodup_map distinct (stands.inside p firm_p)
        (inside a List.mem_cons_self) named
      subst same
      have again : sys.next pass.1 p = sys.next s p :=
        sys.reads _ _ p fun q parent => start q (stands.closed p q firm_p parent)
      rw [relax_here, again]
      exact (stands.settled p firm_p).symm
    · rw [relax_elsewhere named]
      exact start p firm_p

/-- A pass settles the nodes whose parents are firm. -/
theorem pass_firm {nodes : List α} {firm : α → Prop} {s : σ}
    (distinct : (nodes.map sys.name).Nodup) (stands : Firm sys nodes firm s) (flag : Bool) {a : α}
    (here : a ∈ nodes) (parents : ∀ p, sys.Parent a p → firm p) :
    sys.Settled (nodes.foldl sys.relax (s, flag)).1 a := by
  obtain ⟨before, after, rfl⟩ := List.append_of_mem here
  have whole : ∀ p, firm p →
      sys.get ((before ++ a :: after).foldl sys.relax (s, flag)).1 (sys.name p) =
        sys.get s (sys.name p) :=
    firm_kept distinct stands (fun _ => id) fun _ _ => rfl
  have halfway : ∀ p, firm p →
      sys.get (before.foldl sys.relax (s, flag)).1 (sys.name p) = sys.get s (sys.name p) :=
    firm_kept distinct stands (fun _ there => List.mem_append_left _ there) fun _ _ => rfl
  have apart : sys.name a ∉ after.map sys.name := by
    rw [List.map_append, List.map_cons] at distinct
    exact (List.nodup_cons.mp (List.nodup_append.mp distinct).2.1).1
  unfold Settled
  rw [sys.reads _ s a fun p parent => whole p (parents p parent), List.foldl_append,
    List.foldl_cons, pass_elsewhere apart, relax_here,
    sys.reads _ s a fun p parent => halfway p (parents p parent)]

theorem relaxAll_ranked {nodes : List α} (distinct : (nodes.map sys.name).Nodup)
    {rank : α → Nat} (inside : ∀ a ∈ nodes, ∀ p, sys.Parent a p → p ∈ nodes)
    (falls : ∀ a ∈ nodes, ∀ p, sys.Parent a p → rank p < rank a) {bound : Nat}
    (bounded : ∀ a ∈ nodes, rank a < bound) (passes reached : Nat)
    (enough : bound ≤ reached + passes) {s : σ} (below : ∀ a ∈ nodes, rank a < reached → sys.Settled s a) :
    ∀ a ∈ nodes, sys.Settled (sys.relaxAll nodes passes s) a := by
  induction passes generalizing reached s with
  | zero =>
    intro a here
    exact below a here (Nat.lt_of_lt_of_le (bounded a here) enough)
  | succ passes ih =>
    rw [relaxAll]
    split
    · apply ih (reached + 1) (by omega)
      intro a here low
      have stands : Firm sys nodes (fun b => b ∈ nodes ∧ rank b < reached) s := by
        refine ⟨fun b firm => firm.1, ?_, fun b firm => below b firm.1 firm.2⟩
        intro b p firm parent
        exact ⟨inside b firm.1 p parent, (falls b firm.1 p parent).trans firm.2⟩
      apply pass_firm distinct stands false here
      intro p parent
      have lower := falls a here p parent
      exact ⟨inside a here p parent, by omega⟩
    · rename_i unchanged
      obtain ⟨same, settled⟩ := pass_unchanged (Bool.eq_false_iff.mpr unchanged)
      rw [same]
      exact settled

noncomputable def ancestors (Parent : α → α → Prop) (nodes : List α) (a : α) : Nat :=
  open Classical in (nodes.toFinset.filter fun p => TransGen Parent a p).card

theorem ancestors_fall {Parent : α → α → Prop} {nodes : List α}
    (acyclic : ∀ a ∈ nodes, ¬ TransGen Parent a a) {a p : α} (parent : Parent a p)
    (here : p ∈ nodes) : ancestors Parent nodes p < ancestors Parent nodes a := by
  classical
  apply Finset.card_lt_card
  apply (Finset.ssubset_iff_of_subset _).mpr
  · refine ⟨p, ?_, ?_⟩
    · exact Finset.mem_filter.mpr ⟨List.mem_toFinset.mpr here, .single parent⟩
    · intro among
      exact acyclic p here (Finset.mem_filter.mp among).2
  · intro q among
    obtain ⟨there, above⟩ := Finset.mem_filter.mp among
    exact Finset.mem_filter.mpr ⟨there, .head parent above⟩

theorem ancestors_few {Parent : α → α → Prop} {nodes : List α}
    (acyclic : ∀ a ∈ nodes, ¬ TransGen Parent a a) {a : α} (here : a ∈ nodes) :
    ancestors Parent nodes a < nodes.length := by
  classical
  have proper : nodes.toFinset.filter (fun p => TransGen Parent a p) ⊂ nodes.toFinset := by
    apply (Finset.ssubset_iff_of_subset (Finset.filter_subset _ _)).mpr
    exact ⟨a, List.mem_toFinset.mpr here, fun among => acyclic a here (Finset.mem_filter.mp among).2⟩
  exact (Finset.card_lt_card proper).trans_le nodes.toFinset_card_le

/-- Without a cycle every node is settled in the end. -/
theorem relaxAll_settles {nodes : List α} (distinct : (nodes.map sys.name).Nodup)
    (inside : ∀ a ∈ nodes, ∀ p, sys.Parent a p → p ∈ nodes)
    (acyclic : ∀ a ∈ nodes, ¬ TransGen sys.Parent a a) (s : σ) {passes : Nat}
    (enough : nodes.length ≤ passes) :
    ∀ a ∈ nodes, sys.Settled (sys.relaxAll nodes passes s) a := by
  have falls : ∀ a ∈ nodes, ∀ p, sys.Parent a p →
      ancestors sys.Parent nodes p < ancestors sys.Parent nodes a :=
    fun a here p parent => ancestors_fall acyclic parent (inside a here p parent)
  apply relaxAll_ranked distinct inside falls (fun a here => ancestors_few acyclic here) passes 0
  · omega
  · intro a _ negative
    exact absurd negative (Nat.not_lt_zero _)

end System

theorem acyclic_of_rank {Parent : α → α → Prop} {nodes : List α} (rank : α → Nat)
    (inside : ∀ a p, Parent a p → p ∈ nodes)
    (falls : ∀ a ∈ nodes, ∀ p ∈ nodes, Parent a p → rank p < rank a) :
    ∀ a ∈ nodes, ¬ TransGen Parent a a := by
  have lower : ∀ {a p}, a ∈ nodes → TransGen Parent a p → rank p < rank a := by
    intro a p here links
    induction links with
    | single parent => exact falls a here _ (inside _ _ parent) parent
    | tail links parent ih =>
      obtain ⟨_, _, last⟩ := TransGen.tail'_iff.mp links
      exact (falls _ (inside _ _ last) _ (inside _ _ parent) parent).trans ih
  intro a here cycle
  exact Nat.lt_irrefl _ (lower here cycle)

end Relaxation
