import Mathlib.Data.List.Basic
import Mathlib.Order.Lattice

/-!
Reading a sorted table page by page: each page starts after the last key of the one
before, and a page that is not full is the last. Nothing is read twice or skipped.
-/
namespace Paging
variable {α κ ε : Type} [LinearOrder κ]

structure Page (α κ : Type) where
  rows : List α
  next : Option κ

/- `WHERE key > since ORDER BY key`, of rows in that order. -/
def after (key : α → κ) (rows : List α) (since : κ) : List α :=
  rows.filter fun row => since < key row

def page (key : α → κ) (rows : List α) (limit : Nat) (since : κ) : Page α κ :=
  let chosen := (after key rows since).take limit
  { rows := chosen
    next := if chosen.length = limit then chosen.getLast?.map key else none }

/- One page after the other; `none` when the rounds do not suffice. -/
def collect (fetch : κ → Except ε (Page α κ)) : Nat → κ → List α → Option (Except ε (List α))
  | 0, _, _ => none
  | rounds + 1, since, sofar =>
    match fetch since with
    | .error error => some (.error error)
    | .ok page =>
      match page.next with
      | none => some (.ok (sofar ++ page.rows))
      | some next => collect fetch rounds next (sofar ++ page.rows)

def Sorted (key : α → κ) (rows : List α) : Prop := rows.Pairwise fun a b => key a < key b

theorem sorted_after {key : α → κ} {rows : List α} (sorted : Sorted key rows) (since : κ) :
    Sorted key (after key rows since) := List.Pairwise.filter _ sorted

theorem after_front {key : α → κ} {front rest : List α} {last : α}
    (sorted : Sorted key (front ++ last :: rest)) :
    after key (front ++ last :: rest) (key last) = rest := by
  obtain ⟨_, tail, across⟩ := List.pairwise_append.mp sorted
  obtain ⟨above, _⟩ := List.pairwise_cons.mp tail
  unfold after
  rw [List.filter_append, List.filter_eq_nil_iff.mpr, List.nil_append, List.filter_cons_of_neg]
  · apply List.filter_eq_self.mpr
    intro row member
    exact decide_eq_true (above row member)
  · simp
  · intro row member
    have below := across row member last List.mem_cons_self
    simpa using le_of_lt below

theorem after_after (key : α → κ) (rows : List α) {since later : κ} (order : since ≤ later) :
    after key (after key rows since) later = after key rows later := by
  unfold after
  rw [List.filter_filter]
  apply List.filter_congr
  intro row _
  by_cases above : later < key row
  · simp [above, lt_of_le_of_lt order above]
  · simp [above]

def resume (key : α → κ) (rows : List α) : Option κ → List α
  | none => rows
  | some since => after key rows since

theorem resume_after {key : α → κ} {rows front rest : List α} {last : α} {since : Option κ}
    (sorted : Sorted key rows) (split : resume key rows since = front ++ last :: rest) :
    after key rows (key last) = rest := by
  cases since with
  | none =>
    have whole : rows = front ++ last :: rest := split
    rw [whole] at sorted ⊢
    exact after_front sorted
  | some since =>
    have whole : after key rows since = front ++ last :: rest := split
    have above : since < key last := by
      have member : last ∈ after key rows since := by
        rw [whole]
        exact List.mem_append_right front List.mem_cons_self
      exact of_decide_eq_true (List.mem_filter.mp member).2
    have later := sorted_after sorted since
    rw [whole] at later
    rw [← after_after key rows (le_of_lt above), whole]
    exact after_front later

theorem page_next {key : α → κ} {rows : List α} (sorted : Sorted key rows) {limit : Nat}
    {since next : κ} (more : (page key rows limit since).next = some next) :
    after key rows next = (after key rows since).drop limit ∧
      limit ≤ (after key rows since).length := by
  unfold page at more
  dsimp only at more
  split at more
  · rename_i full
    obtain ⟨last, found, rfl⟩ := Option.map_eq_some_iff.mp more
    obtain ⟨front, split⟩ := List.getLast?_eq_some_iff.mp found
    have whole : after key rows since = front ++ last :: (after key rows since).drop limit := by
      rw [List.append_cons, ← split, List.take_append_drop]
    have begun : resume key rows (some since) = _ := whole
    constructor
    · exact resume_after sorted begun
    · rw [List.length_take] at full
      omega
  · cases more

theorem page_last {key : α → κ} {rows : List α} {limit : Nat} (some_limit : 0 < limit) {since : κ}
    (none_ : (page key rows limit since).next = none) :
    (page key rows limit since).rows = after key rows since := by
  unfold page at none_ ⊢
  dsimp only at none_ ⊢
  split at none_
  · rename_i full
    rw [Option.map_eq_none_iff, List.getLast?_eq_none_iff] at none_
    rw [none_, List.length_nil] at full
    omega
  · rename_i short
    rw [List.length_take] at short
    apply List.take_of_length_le
    omega

omit [LinearOrder κ] in
/-- When each cursor stands before some rows and each page takes the next of them, the pages
    are those rows. -/
theorem collect_before {fetch : κ → Except ε (Page α κ)} {Before : κ → List α → Prop}
    {limit : Nat} (pages : ∀ {since rest}, Before since rest →
      fetch since = .ok ⟨rest, none⟩ ∨ ∃ next, fetch since = .ok ⟨rest.take limit, some next⟩ ∧
        limit ≤ rest.length ∧ Before next (rest.drop limit))
    {rounds : Nat} {since : κ} {rest : List α} (before : Before since rest)
    (enough : rest.length < rounds * limit) (sofar : List α) :
    collect fetch rounds since sofar = some (.ok (sofar ++ rest)) := by
  induction rounds generalizing since rest sofar with
  | zero =>
    rw [Nat.zero_mul] at enough
    exact absurd enough (Nat.not_lt_zero _)
  | succ rounds ih =>
    unfold collect
    rcases pages before with last | ⟨next, more, full, onward⟩
    · rw [last]
    · rw [more]
      dsimp only
      have fewer : (rest.drop limit).length < rounds * limit := by
        rw [List.length_drop]
        rw [Nat.succ_mul] at enough
        omega
      rw [ih onward fewer, List.append_assoc, List.take_append_drop]

/-- Every row after `since`, once and in order. -/
theorem collect_all {key : α → κ} {rows : List α} (sorted : Sorted key rows) {limit : Nat}
    (some_limit : 0 < limit) {fetch : κ → Except ε (Page α κ)}
    (fetches : ∀ since, fetch since = .ok (page key rows limit since)) {rounds : Nat} {since : κ}
    (enough : (after key rows since).length < rounds * limit) (sofar : List α) :
    collect fetch rounds since sofar = some (.ok (sofar ++ after key rows since)) := by
  refine @collect_before α κ ε fetch (fun since rest => rest = after key rows since) limit ?_
    rounds since _ rfl enough sofar
  rintro since rest rfl
  rw [fetches]
  cases more : (page key rows limit since).next with
  | none =>
    left
    rw [← page_last some_limit more, ← more]
  | some next =>
    right
    obtain ⟨rest, full⟩ := page_next sorted more
    refine ⟨next, ?_, full, rest.symm⟩
    rw [← more]
    rfl

def pageAhead (key : α → κ) (rows : List α) (limit : Nat) (since : Option κ) : Page α κ :=
  let fetched := (resume key rows since).take (limit + 1)
  let chosen := fetched.take limit
  { rows := chosen
    next := if limit < fetched.length then chosen.getLast?.map key else none }

theorem pageAhead_rows (key : α → κ) (rows : List α) (limit : Nat) (since : Option κ) :
    (pageAhead key rows limit since).rows = (resume key rows since).take limit := by
  unfold pageAhead
  dsimp only
  rw [List.take_take, Nat.min_eq_left (Nat.le_succ limit)]

theorem pageAhead_pages {key : α → κ} {rows : List α} (sorted : Sorted key rows) {limit : Nat}
    (some_limit : 0 < limit) (since : Option κ) :
    pageAhead key rows limit since = ⟨resume key rows since, none⟩ ∨
      ∃ next, pageAhead key rows limit since = ⟨(resume key rows since).take limit, some next⟩ ∧
        limit ≤ (resume key rows since).length ∧
        after key rows next = (resume key rows since).drop limit := by
  have chosen := pageAhead_rows key rows limit since
  generalize rest : resume key rows since = left_ at chosen
  by_cases more : limit < left_.length
  · right
    have inhabited : left_.take limit ≠ [] := by
      intro nothing
      have counted := congrArg List.length nothing
      rw [List.length_take, List.length_nil] at counted
      omega
    have found := List.getLast?_eq_some_getLast inhabited
    obtain ⟨front, split⟩ := List.getLast?_eq_some_iff.mp found
    have whole : left_ = front ++ (left_.take limit).getLast inhabited :: left_.drop limit := by
      rw [List.append_cons, ← split, List.take_append_drop]
    refine ⟨key ((left_.take limit).getLast inhabited), ?_, le_of_lt more, ?_⟩
    · unfold pageAhead at chosen ⊢
      dsimp only at chosen ⊢
      rw [rest] at chosen ⊢
      rw [chosen, found, if_pos]
      · rfl
      · rw [List.length_take]
        omega
    · exact resume_after sorted (rest.trans whole)
  · left
    unfold pageAhead at chosen ⊢
    dsimp only at chosen ⊢
    rw [rest] at chosen ⊢
    rw [chosen, if_neg]
    · rw [List.take_of_length_le (not_lt.mp more)]
    · rw [List.length_take]
      omega

end Paging
