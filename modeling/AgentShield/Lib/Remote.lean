import Mathlib.Logic.Relation

/-!
Programs that call one server over a network that may lose a request or an answer, two of
them side by side over one server and one memory. A program is safe if it keeps its
guarantee and the invariant while the other keeps to its own; two safe programs that rely
on each other's guarantees stay safe in every interleaving.
-/
namespace Remote

/-- A request is answered, or it never arrives, or its answer never does. -/
inductive Fate where
  | answered
  | requestLost
  | responseLost
  deriving DecidableEq

/-- A program over requests `ι`, answers `ρ`, a memory `χ` and exceptions `ε`. Of a lost or
    refused request it only learns that there is no answer. -/
inductive Prog (ι ρ χ ε α : Type) where
  | ret (a : α)
  | fail (e : ε)
  | update (f : χ → χ) (next : Prog ι ρ χ ε α)
  | call (request : ι) (next : Option ρ → Prog ι ρ χ ε α)

variable {ι ρ χ ε σ α β : Type}

def Prog.bind : Prog ι ρ χ ε α → (α → Prog ι ρ χ ε β) → Prog ι ρ χ ε β
  | .ret a, later => later a
  | .fail e, _ => .fail e
  | .update f next, later => .update f (next.bind later)
  | .call request next, later => .call request fun reply => (next reply).bind later

instance : Monad (Prog ι ρ χ ε) where
  pure := .ret
  bind := .bind

def update (f : χ → χ) : Prog ι ρ χ ε Unit := .update f (.ret ())

def raise (e : ε) : Prog ι ρ χ ε α := .fail e

def send (request : ι) : Prog ι ρ χ ε (Option ρ) := .call request .ret

def Prog.embed {χ' ε' : Type} (lift : (χ → χ) → χ' → χ') (wrap : ε → ε') :
    Prog ι ρ χ ε α → Prog ι ρ χ' ε' α
  | .ret a => .ret a
  | .fail e => .fail (wrap e)
  | .update f next => .update (lift f) (next.embed lift wrap)
  | .call request next => .call request fun reply => (next reply).embed lift wrap

structure World (σ χ : Type) where
  server : σ
  memory : χ

/-- What the server does, and what comes back. -/
def Fate.serve (handle : ι → σ → σ × Option ρ) (request : ι) (s : σ) : Fate → σ × Option ρ
  | .answered => handle request s
  | .requestLost => (s, none)
  | .responseLost => ((handle request s).1, none)

def World.called (handle : ι → σ → σ × Option ρ) (w : World σ χ) (request : ι) (fate : Fate) :
    World σ χ :=
  { w with server := (fate.serve handle request w.server).1 }

def World.updated (w : World σ χ) (f : χ → χ) : World σ χ := { w with memory := f w.memory }

inductive Advance (handle : ι → σ → σ × Option ρ) :
    Prog ι ρ χ ε α → World σ χ → Prog ι ρ χ ε α → World σ χ → Prop where
  | update (f : χ → χ) (next : Prog ι ρ χ ε α) (w : World σ χ) :
      Advance handle (.update f next) w next (w.updated f)
  | call (request : ι) (next : Option ρ → Prog ι ρ χ ε α) (w : World σ χ) (fate : Fate) :
      Advance handle (.call request next) w (next (fate.serve handle request w.server).2)
        (w.called handle request fate)

/-- Two programs side by side. -/
structure Fork (ι ρ χ ε σ α β : Type) where
  world : World σ χ
  left : Prog ι ρ χ ε α
  right : Prog ι ρ χ ε β

inductive Turn (handle : ι → σ → σ × Option ρ) :
    Fork ι ρ χ ε σ α β → Fork ι ρ χ ε σ α β → Prop where
  | left {c : Fork ι ρ χ ε σ α β} {p : Prog ι ρ χ ε α} {w : World σ χ}
      (step : Advance handle c.left c.world p w) : Turn handle c { c with world := w, left := p }
  | right {c : Fork ι ρ χ ε σ α β} {p : Prog ι ρ χ ε β} {w : World σ χ}
      (step : Advance handle c.right c.world p w) : Turn handle c { c with world := w, right := p }

/-- Every interleaving, and every pattern of losses. -/
def Reachable (handle : ι → σ → σ × Option ρ) (start c : Fork ι ρ χ ε σ α β) : Prop :=
  Relation.ReflTransGen (Turn handle) start c

structure Contract (σ χ : Type) where
  rely : World σ χ → World σ χ → Prop
  guarantee : World σ χ → World σ χ → Prop
  inv : World σ χ → Prop

def Contract.swap (k : Contract σ χ) : Contract σ χ := { k with rely := k.guarantee, guarantee := k.rely }

def Contract.Meets (k : Contract σ χ) (w w' : World σ χ) : Prop :=
  Relation.ReflTransGen k.rely w w' ∧ k.inv w'

def Contract.Keeps (k : Contract σ χ) (w w' : World σ χ) : Prop := k.guarantee w w' ∧ k.inv w'

def Safe (handle : ι → σ → σ × Option ρ) (k : Contract σ χ) (post : α → World σ χ → Prop) :
    Prog ι ρ χ ε α → World σ χ → Prop
  | .ret a, w => ∀ w', k.Meets w w' → post a w'
  | .fail _, _ => True
  | .update f next, w => ∀ w', k.Meets w w' →
      k.Keeps w' (w'.updated f) ∧ Safe handle k post next (w'.updated f)
  | .call request next, w => ∀ w', k.Meets w w' → ∀ fate : Fate,
      k.Keeps w' (w'.called handle request fate) ∧
        Safe handle k post (next (fate.serve handle request w'.server).2)
          (w'.called handle request fate)

section
variable {handle : ι → σ → σ × Option ρ} {k : Contract σ χ} {post : α → World σ χ → Prop}

theorem meets_later {w w' w'' : World σ χ} (step : k.rely w w') (later : k.Meets w' w'') :
    k.Meets w w'' :=
  ⟨.head step later.1, later.2⟩

theorem safe_relies {p : Prog ι ρ χ ε α} {w w' : World σ χ} (safe : Safe handle k post p w)
    (step : k.rely w w') : Safe handle k post p w' := by
  cases p with
  | ret a => exact fun w'' later => safe w'' (meets_later step later)
  | fail e => trivial
  | update f next => exact fun w'' later => safe w'' (meets_later step later)
  | call request next => exact fun w'' later => safe w'' (meets_later step later)

theorem safe_advance {p p' : Prog ι ρ χ ε α} {w w' : World σ χ} (safe : Safe handle k post p w)
    (holds : k.inv w) (step : Advance handle p w p' w') :
    k.Keeps w w' ∧ Safe handle k post p' w' := by
  cases step with
  | update f => exact safe w ⟨.refl, holds⟩
  | call request next w fate => exact safe w ⟨.refl, holds⟩ fate

/-- The rule for two programs: each relies on what the other guarantees. -/
theorem fork_safe {post' : β → World σ χ → Prop} {start c : Fork ι ρ χ ε σ α β}
    (left : Safe handle k post start.left start.world)
    (right : Safe handle k.swap post' start.right start.world) (holds : k.inv start.world)
    (reachable : Reachable handle start c) :
    k.inv c.world ∧ Safe handle k post c.left c.world ∧
      Safe handle k.swap post' c.right c.world := by
  induction reachable with
  | refl => exact ⟨holds, left, right⟩
  | tail _ turn ih =>
    obtain ⟨inv, left, right⟩ := ih
    cases turn with
    | left step =>
      obtain ⟨⟨guarantee, inv'⟩, on⟩ := safe_advance left inv step
      exact ⟨inv', on, safe_relies right guarantee⟩
    | right step =>
      obtain ⟨⟨guarantee, inv'⟩, on⟩ := safe_advance right inv step
      exact ⟨inv', safe_relies left guarantee, on⟩

theorem safe_returned {a : α} {w : World σ χ} (safe : Safe handle k post (.ret a : Prog ι ρ χ ε α) w)
    (holds : k.inv w) : post a w :=
  safe w ⟨.refl, holds⟩

/-- Whatever the other does, it stays true. -/
def Stable (k : Contract σ χ) (P : World σ χ → Prop) : Prop := ∀ w w', P w → k.rely w w' → P w'

def Triple (handle : ι → σ → σ × Option ρ) (k : Contract σ χ) (P : World σ χ → Prop)
    (p : Prog ι ρ χ ε α) (Q : α → World σ χ → Prop) : Prop :=
  ∀ w, k.inv w → P w → Safe handle k Q p w

variable {P : World σ χ → Prop} {Q : α → World σ χ → Prop}

theorem stable_meets (stable : Stable k P) {w w' : World σ χ} (before : P w)
    (meets : k.Meets w w') : P w' := by
  obtain ⟨steps, -⟩ := meets
  induction steps with
  | refl => exact before
  | tail _ step ih => exact stable _ _ ih step

theorem triple_ret (stable : Stable k P) (a : α) :
    Triple handle k P (pure a : Prog ι ρ χ ε α) fun b w => b = a ∧ P w :=
  fun _ _ before _ meets => ⟨rfl, stable_meets stable before meets⟩

theorem triple_raise (e : ε) : Triple handle k P (raise e : Prog ι ρ χ ε α) Q :=
  fun _ _ _ => trivial

theorem triple_weaken {P' : World σ χ → Prop} {Q' : α → World σ χ → Prop} {p : Prog ι ρ χ ε α}
    (triple : Triple handle k P p Q) (before : ∀ w, P' w → P w) (after : ∀ a w, Q a w → Q' a w) :
    Triple handle k P' p Q' := by
  intro w holds here
  have safe := triple w holds (before w here)
  clear triple holds here
  induction p generalizing w with
  | ret a => exact fun w' meets => after a w' (safe w' meets)
  | fail e => trivial
  | update f next ih => exact fun w' meets => ⟨(safe w' meets).1, ih _ (safe w' meets).2⟩
  | call request next ih =>
    exact fun w' meets fate => ⟨(safe w' meets fate).1, ih _ _ (safe w' meets fate).2⟩

theorem triple_bind {p : Prog ι ρ χ ε α} {next : α → Prog ι ρ χ ε β}
    {R : β → World σ χ → Prop} (first : Triple handle k P p Q)
    (later : ∀ a, Triple handle k (Q a) (next a) R) : Triple handle k P (p >>= next) R := by
  intro w holds here
  have safe := first w holds here
  clear first here
  induction p generalizing w with
  | ret a => exact later a w holds (safe w ⟨.refl, holds⟩)
  | fail e => trivial
  | update f on ih =>
    intro w' meets
    obtain ⟨keeps, rest⟩ := safe w' meets
    exact ⟨keeps, ih _ keeps.2 rest⟩
  | call request on ih =>
    intro w' meets fate
    obtain ⟨keeps, rest⟩ := safe w' meets fate
    exact ⟨keeps, ih _ _ keeps.2 rest⟩

theorem triple_send {R : Option ρ → World σ χ → Prop} (stable : Stable k P)
    (later : ∀ reply, Stable k (R reply)) (request : ι)
    (step : ∀ w fate, k.inv w → P w → k.Keeps w (w.called handle request fate) ∧
      R (fate.serve handle request w.server).2 (w.called handle request fate)) :
    Triple handle k P (send request : Prog ι ρ χ ε (Option ρ)) R := by
  intro w _ before w' meets fate
  obtain ⟨keeps, known⟩ := step w' fate meets.2 (stable_meets stable before meets)
  exact ⟨keeps, fun w'' on => stable_meets (later _) known on⟩

theorem triple_update {R : World σ χ → Prop} (stable : Stable k P) (later : Stable k R)
    (f : χ → χ) (step : ∀ w, k.inv w → P w → k.Keeps w (w.updated f) ∧ R (w.updated f)) :
    Triple handle k P (update f : Prog ι ρ χ ε Unit) fun _ w => R w := by
  intro w _ before w' meets
  obtain ⟨keeps, known⟩ := step w' meets.2 (stable_meets stable before meets)
  exact ⟨keeps, fun w'' on => stable_meets later known on⟩

end

section
variable {may : ι → Prop} {notes : (χ → χ) → Prop}

end

def Prog.run (handle : ι → σ → σ × Option ρ) (fate : ι → Fate) :
    Prog ι ρ χ ε α → World σ χ → Prog ι ρ χ ε α × World σ χ
  | .ret a, w => (.ret a, w)
  | .fail e, w => (.fail e, w)
  | .update f next, w => next.run handle fate (w.updated f)
  | .call request next, w =>
    (next ((fate request).serve handle request w.server).2).run handle fate
      (w.called handle request (fate request))

section
variable {handle : ι → σ → σ × Option ρ} (fate : ι → Fate)

theorem run_left (c : Fork ι ρ χ ε σ α β) :
    Reachable handle c { c with
      world := (c.left.run handle fate c.world).2, left := (c.left.run handle fate c.world).1 } := by
  obtain ⟨w, p, q⟩ := c
  induction p generalizing w with
  | ret a => exact .refl
  | fail e => exact .refl
  | update f next ih => exact .head (.left (.update f next w)) (ih _)
  | call request next ih => exact .head (.left (.call request next w (fate request))) (ih _ _)

theorem run_right (c : Fork ι ρ χ ε σ α β) :
    Reachable handle c { c with
      world := (c.right.run handle fate c.world).2
      right := (c.right.run handle fate c.world).1 } := by
  obtain ⟨w, p, q⟩ := c
  induction q generalizing w with
  | ret a => exact .refl
  | fail e => exact .refl
  | update f next ih => exact .head (.right (.update f next w)) (ih _)
  | call request next ih => exact .head (.right (.call request next w (fate request))) (ih _ _)

theorem run_bind (p : Prog ι ρ χ ε α) (next : α → Prog ι ρ χ ε β) (w : World σ χ) :
    (p >>= next).run handle fate w = match p.run handle fate w with
      | (.ret a, w') => (next a).run handle fate w'
      | (.fail e, w') => (.fail e, w')
      | (.update f on, w') => (.update f (on.bind next), w')
      | (.call request on, w') => (.call request fun reply => (on reply).bind next, w') := by
  change (p.bind next).run handle fate w = _
  induction p generalizing w with
  | ret a => rfl
  | fail e => rfl
  | update f on ih => exact ih _
  | call request on ih => exact ih _ _

end

def Fork.inTurn (handle : ι → σ → σ × Option ρ) (fate : ι → Fate) (c : Fork ι ρ χ ε σ α β) :
    Fork ι ρ χ ε σ α β :=
  let first := c.left.run handle fate c.world
  let second := c.right.run handle fate first.2
  { world := second.2, left := first.1, right := second.1 }

theorem inTurn_reachable (handle : ι → σ → σ × Option ρ) (fate : ι → Fate)
    (c : Fork ι ρ χ ε σ α β) : Reachable handle c (c.inTurn handle fate) :=
  (run_left fate c).trans (run_right fate { c with
    world := (c.left.run handle fate c.world).2, left := (c.left.run handle fate c.world).1 })

def Prog.result? : Prog ι ρ χ ε α → Option α
  | .ret a => some a
  | _ => none

theorem result_ret {p : Prog ι ρ χ ε α} {a : α} (result : p.result? = some a) : p = .ret a := by
  cases p with
  | ret b => exact congrArg Prog.ret (Option.some.inj result)
  | _ => cases result

/-- Under these losses the program returns, and then. -/
def Ends (handle : ι → σ → σ × Option ρ) (fate : ι → Fate) (p : Prog ι ρ χ ε α) (w : World σ χ)
    (Q : α → World σ χ → Prop) : Prop := ∃ a w', p.run handle fate w = (.ret a, w') ∧ Q a w'

section
variable {handle : ι → σ → σ × Option ρ} {fate : ι → Fate} {Q : α → World σ χ → Prop}

theorem ends_ret {a : α} {w : World σ χ} (known : Q a w) :
    Ends handle fate (pure a : Prog ι ρ χ ε α) w Q := ⟨a, w, rfl, known⟩

theorem ends_bind {p : Prog ι ρ χ ε α} {next : α → Prog ι ρ χ ε β} {w : World σ χ}
    {R : β → World σ χ → Prop} (first : Ends handle fate p w Q)
    (later : ∀ a w', Q a w' → Ends handle fate (next a) w' R) :
    Ends handle fate (p >>= next) w R := by
  obtain ⟨a, w', ran, known⟩ := first
  obtain ⟨b, w'', on, known'⟩ := later a w' known
  refine ⟨b, w'', ?_, known'⟩
  rw [run_bind, ran]
  exact on

theorem ends_send {request : ι} {w : World σ χ} {R : Option ρ → World σ χ → Prop}
    (known : R ((fate request).serve handle request w.server).2
      (w.called handle request (fate request))) :
    Ends handle fate (send request : Prog ι ρ χ ε (Option ρ)) w R := ⟨_, _, rfl, known⟩

theorem ends_update {f : χ → χ} {w : World σ χ} {R : Unit → World σ χ → Prop}
    (known : R () (w.updated f)) :
    Ends handle fate (update f : Prog ι ρ χ ε Unit) w R := ⟨(), _, rfl, known⟩

end

end Remote
