import Mathlib.Data.Prod.Lex
import AgentShield.Lib.Base64
import AgentShield.Api.History

/-!
The list of experiments (`api/routes_history.py`), newest first, page by page behind an opaque
cursor.
-/
namespace AgentShield.ExperimentHistory
open Schema Keyed Events Orchestrator Paging

/- How Python prints a value and reads it again: `isoformat` and `fromisoformat`, `str` and
   `UUID`. -/
structure Printing (α : Type) where
  print : α → String
  parse : String → Option α
  faithful : ∀ value, parse (print value) = some value

/- `defense_enabled` is generated from `config`, and `seed` is its seed. -/
structure ListedRow (τ : Type) extends ExperimentRow where
  createdAt : τ

structure ExperimentListItem (τ : Type) where
  experimentId : Uuid
  seed : Int
  config : ExperimentConfig
  createdAt : τ
  finalStatus : Option Status
  finalSimTick : Option Nat
  finalLastSeq : Option Int
  isComplete : Option Bool

def rowToListItem {τ : Type} (row : ListedRow τ) : ExperimentListItem τ :=
  { experimentId := row.experimentId
    seed := row.config.seed
    config := row.config
    createdAt := row.createdAt
    finalStatus := row.finalStatus
    finalSimTick := row.finalSimTick
    finalLastSeq := row.finalLastSeq
    isComplete := row.isComplete }

inductive StatusFilter where
  | finished
  | stopped
  | incomplete
  deriving DecidableEq

structure ListFilter where
  status : Option StatusFilter := none
  defenseEnabled : Option Bool := none

def StatusFilter.admits : StatusFilter → Option Status → Bool
  | .incomplete, finalStatus => finalStatus.isNone
  | .finished, finalStatus => finalStatus = some .finished
  | .stopped, finalStatus => finalStatus = some .stopped

def ListFilter.admits (filter : ListFilter) (row : ExperimentRow) : Bool :=
  filter.status.all (fun status => status.admits row.finalStatus) &&
    filter.defenseEnabled.all (fun enabled => row.config.defenseEnabled = enabled)

/- `raw.split(sep, 1)` into two; without a separator the unpacking fails. -/
def splitOnce (sep : Char) (s : List Char) : Option (List Char × List Char) :=
  match s.dropWhile (· ≠ sep) with
  | [] => none
  | _ :: back => some (s.takeWhile (· ≠ sep), back)

def utf8 (s : String) : List UInt8 := s.toUTF8.data.toList

def fromUtf8 (bytes : List UInt8) : Option String := String.fromUTF8? ⟨bytes.toArray⟩

section
variable {τ : Type} (iso : Printing τ) (uuid : Printing Uuid)

def encodeCursor (createdAt : τ) (experimentId : Uuid) : String :=
  String.ofList (Base64.encode (utf8 (iso.print createdAt ++ "|" ++ uuid.print experimentId)))

def decodeCursor (cursor : String) : Except HTTPException (τ × Uuid) :=
  let decoded : Option (τ × Uuid) := do
    let raw ← fromUtf8 (← Base64.decode cursor.toList)
    let (createdAt, experimentId) ← splitOnce '|' raw.toList
    return (← iso.parse (String.ofList createdAt), ← uuid.parse (String.ofList experimentId))
  match decoded with
  | none => .error ⟨400, "invalid cursor"⟩
  | some decoded => .ok decoded

variable [LinearOrder τ]

/- `ORDER BY created_at DESC, experiment_id DESC`: the greatest pair first. -/
abbrev SortKey (τ : Type) := (Lex (τ × Fin (2 ^ 128)))ᵒᵈ

def sortKey (createdAt : τ) (experimentId : Uuid) : SortKey τ :=
  OrderDual.toDual (toLex (createdAt, experimentId.toFin))

def ListedRow.key (row : ListedRow τ) : SortKey τ := sortKey row.createdAt row.experimentId

abbrev Experiments (τ : Type) := Table fun row : ListedRow τ => row.experimentId

/-- The rows of a filter, in the order of the list. -/
def listed (experiments : Experiments τ) (filter : ListFilter) : List (ListedRow τ) :=
  (experiments.values.filter fun row => filter.admits row.toExperimentRow).insertionSort
    fun a b => a.key ≤ b.key

def listExperiments (connected : Option (Experiments τ)) (filter : ListFilter) (limit : Nat)
    (cursor : Option String) : Except HTTPException (Page (ExperimentListItem τ) String) :=
  match connected with
  | none => .error ⟨503, "history unavailable: Postgres not connected"⟩
  | some experiments =>
    match cursor.mapM (decodeCursor iso uuid) with
    | .error error => .error error
    | .ok decoded =>
      let rows := ((experiments.values.filter fun row =>
          filter.admits row.toExperimentRow &&
            decoded.all fun since => sortKey since.1 since.2 < row.key).insertionSort
        fun a b => a.key ≤ b.key).take (limit + 1)
      let hasMore := rows.length > limit
      let chosen := rows.take limit
      .ok
        { rows := chosen.map rowToListItem
          next := if hasMore then
              chosen.getLast?.map fun row => encodeCursor iso uuid row.createdAt row.experimentId
            else none }

end

theorem splitOnce_append {sep : Char} {front : List Char} (plain : sep ∉ front)
    (back : List Char) : splitOnce sep (front ++ sep :: back) = some (front, back) := by
  have before : ∀ c ∈ front, decide (c ≠ sep) = true := by
    intro c member
    apply decide_eq_true
    rintro rfl
    exact plain member
  unfold splitOnce
  rw [List.dropWhile_append_of_pos before, List.takeWhile_append_of_pos before]
  simp

theorem fromUtf8_utf8 (s : String) : fromUtf8 (utf8 s) = some s := by
  have valid : s.toUTF8.IsValidUTF8 := s.isValidUTF8
  change String.fromUTF8? s.toUTF8 = some s
  unfold String.fromUTF8?
  rw [dif_pos valid]
  rfl

section
variable {τ : Type} {iso : Printing τ} {uuid : Printing Uuid}

theorem decode_encodeCursor (plain : ∀ createdAt, '|' ∉ (iso.print createdAt).toList)
    (createdAt : τ) (experimentId : Uuid) :
    decodeCursor iso uuid (encodeCursor iso uuid createdAt experimentId) =
      .ok (createdAt, experimentId) := by
  have parts : (iso.print createdAt ++ "|" ++ uuid.print experimentId).toList =
      (iso.print createdAt).toList ++ '|' :: (uuid.print experimentId).toList := by
    simp
  unfold decodeCursor encodeCursor
  rw [String.toList_ofList, Base64.decode_encode]
  simp only [Option.bind_eq_bind, Option.bind_some, fromUtf8_utf8, parts,
    splitOnce_append (plain createdAt), String.ofList_toList, iso.faithful, uuid.faithful]
  rfl

end

def hexDigits : Nat → Nat → List Char
  | 0, _ => []
  | k + 1, n => hexDigits k (n / 16) ++ [Nat.digitChar (n % 16)]

def readHex (s : List Char) : Nat :=
  s.foldl (fun n c => 16 * n + "0123456789abcdef".toList.idxOf c) 0

theorem digit_kept (n : Nat) : Nat.digitChar (n % 16) ≠ '-' ∧
    "0123456789abcdef".toList.idxOf (Nat.digitChar (n % 16)) = n % 16 := by
  have all : ∀ d : Fin 16, Nat.digitChar d.val ≠ '-' ∧
      "0123456789abcdef".toList.idxOf (Nat.digitChar d.val) = d.val := by decide
  exact all ⟨n % 16, Nat.mod_lt n (by decide)⟩

theorem readHex_digits (k n : Nat) : readHex (hexDigits k n) = n % 16 ^ k := by
  induction k generalizing n with
  | zero => rw [Nat.pow_zero, Nat.mod_one]; rfl
  | succ k ih =>
    have step := ih (n / 16)
    unfold readHex at step ⊢
    rw [hexDigits, List.foldl_append, step, List.foldl_cons, List.foldl_nil, (digit_kept n).2,
      Nat.pow_succ, Nat.mul_comm (16 ^ k) 16, Nat.mod_mul]
    omega

theorem hexDigits_plain (k n : Nat) : ∀ c ∈ hexDigits k n, c ≠ '-' := by
  induction k generalizing n with
  | zero =>
    intro c member
    cases member
  | succ k ih =>
    intro c member
    rcases List.mem_append.mp member with early | last
    · exact ih _ c early
    · rw [List.mem_singleton.mp last]
      exact (digit_kept n).1

def grouped : List Nat → List Char → List Char
  | [], s => s
  | size :: sizes, s => s.take size ++ '-' :: grouped sizes (s.drop size)

theorem ungrouped (sizes : List Nat) {s : List Char} (plain : ∀ c ∈ s, c ≠ '-') :
    (grouped sizes s).filter (· ≠ '-') = s := by
  induction sizes generalizing s with
  | nil => exact List.filter_eq_self.mpr fun c member => decide_eq_true (plain c member)
  | cons size sizes ih =>
    have front : (s.take size).filter (· ≠ '-') = s.take size :=
      List.filter_eq_self.mpr fun c member =>
        decide_eq_true (plain c (List.mem_of_mem_take member))
    have back : (grouped sizes (s.drop size)).filter (· ≠ '-') = s.drop size :=
      ih fun c member => plain c (List.mem_of_mem_drop member)
    rw [grouped, List.filter_append, List.filter_cons_of_neg, front, back, List.take_append_drop]
    simp

def canonical : Printing Uuid where
  print id := String.ofList (grouped [8, 4, 4, 4] (hexDigits 32 id.toNat))
  parse s := some (BitVec.ofNat 128 (readHex (s.toList.filter (· ≠ '-'))))
  faithful id := by
    rw [String.toList_ofList, ungrouped _ (hexDigits_plain 32 id.toNat), readHex_digits]
    have small : id.toNat < 16 ^ 32 := id.isLt
    rw [Nat.mod_eq_of_lt small, BitVec.ofNat_toNat, BitVec.setWidth_eq]

def withinMinute : Printing (Fin 10) where
  print second := "2026-09-12T10:00:0" ++ toString second.val ++ "+00:00"
  parse s := (List.finRange 10).find? fun second =>
    s = "2026-09-12T10:00:0" ++ toString second.val ++ "+00:00"
  faithful := by decide

example : encodeCursor withinMinute canonical 5 0x0123456789abcdef0123456789abcdef#128 =
    "MjAyNi0wOS0xMlQxMDowMDowNSswMDowMHwwMTIzNDU2Ny04OWFiLWNkZWYtMDEyMy00NTY3ODlhYmNkZWY=" := by
  decide

section
variable {τ : Type} {iso : Printing τ} {uuid : Printing Uuid}

theorem key_injective {a b : ListedRow τ} (same : a.key = b.key) :
    a.experimentId = b.experimentId := by
  have pair : (a.createdAt, a.experimentId.toFin) = (b.createdAt, b.experimentId.toFin) := same
  exact BitVec.toFin_inj.mp (Prod.mk.inj pair).2

theorem kept_distinct (experiments : Experiments τ) (keep : ListedRow τ → Bool) :
    ((experiments.values.filter keep).map fun row => row.experimentId).Nodup :=
  experiments.distinct.sublist (List.filter_sublist.map _)

variable [LinearOrder τ]

theorem sorted_listing {rows : List (ListedRow τ)}
    (distinct : (rows.map fun row => row.experimentId).Nodup) :
    Sorted ListedRow.key (rows.insertionSort fun a b => a.key ≤ b.key) := by
  have total : Std.Total fun a b : ListedRow τ => a.key ≤ b.key :=
    ⟨fun a b => le_total a.key b.key⟩
  have trans : IsTrans (ListedRow τ) fun a b => a.key ≤ b.key := ⟨fun _ _ _ => le_trans⟩
  have weak : (rows.insertionSort fun a b => a.key ≤ b.key).Pairwise fun a b => a.key ≤ b.key :=
    List.pairwise_insertionSort _ _
  have apart : (rows.insertionSort fun a b => a.key ≤ b.key).Pairwise fun a b =>
      a.experimentId ≠ b.experimentId := by
    apply List.pairwise_map.mp
    exact ((List.perm_insertionSort _ rows).map _).nodup_iff.mpr distinct
  apply (weak.and apart).imp
  rintro a b ⟨below, differ⟩
  exact lt_of_le_of_ne below fun same => differ (key_injective same)

theorem listed_sorted (experiments : Experiments τ) (filter : ListFilter) :
    Sorted ListedRow.key (listed experiments filter) :=
  sorted_listing (kept_distinct experiments _)

theorem sort_filter (rows : List (ListedRow τ)) (keep : ListedRow τ → Bool)
    (distinct : (rows.map fun row => row.experimentId).Nodup) :
    (rows.filter keep).insertionSort (fun a b => a.key ≤ b.key) =
      (rows.insertionSort fun a b => a.key ≤ b.key).filter keep := by
  have left_ := sorted_listing (distinct.sublist ((@List.filter_sublist _ keep rows).map _))
  have right_ : Sorted ListedRow.key ((rows.insertionSort fun a b => a.key ≤ b.key).filter keep) :=
    List.Pairwise.filter _ (sorted_listing distinct)
  have perm : ((rows.filter keep).insertionSort fun a b => a.key ≤ b.key).Perm
      ((rows.insertionSort fun a b => a.key ≤ b.key).filter keep) :=
    (List.perm_insertionSort _ _).trans ((List.perm_insertionSort _ rows).filter keep).symm
  apply perm.eq_of_pairwise _ left_ right_
  intro a b _ _ below above
  exact absurd (lt_trans below above) (lt_irrefl _)

theorem queried_rows (experiments : Experiments τ) (filter : ListFilter)
    (since : Option (τ × Uuid)) :
    ((experiments.values.filter fun row => filter.admits row.toExperimentRow &&
        since.all fun since => sortKey since.1 since.2 < row.key).insertionSort
      fun a b => a.key ≤ b.key) =
    resume ListedRow.key (listed experiments filter) (since.map fun since =>
      sortKey since.1 since.2) := by
  have both := sort_filter
    (experiments.values.filter fun row => filter.admits row.toExperimentRow)
    (fun row => since.all fun since => sortKey since.1 since.2 < row.key)
    (kept_distinct experiments _)
  rw [List.filter_filter] at both
  have swapped : (experiments.values.filter fun row => filter.admits row.toExperimentRow &&
      since.all fun since => sortKey since.1 since.2 < row.key) =
      experiments.values.filter fun row =>
        (since.all fun since => sortKey since.1 since.2 < row.key) &&
          filter.admits row.toExperimentRow := by
    apply List.filter_congr
    intro row _
    exact Bool.and_comm _ _
  rw [swapped, both]
  cases since with
  | none =>
    apply List.filter_eq_self.mpr
    intro row _
    rfl
  | some since => rfl

def cursorOf (iso : Printing τ) (uuid : Printing Uuid) (key : SortKey τ) : String :=
  encodeCursor iso uuid (ofLex (OrderDual.ofDual key)).1 ⟨(ofLex (OrderDual.ofDual key)).2⟩

def listedPage (iso : Printing τ) (uuid : Printing Uuid) (page : Page (ListedRow τ) (SortKey τ)) :
    Page (ExperimentListItem τ) String :=
  { rows := page.rows.map rowToListItem
    next := page.next.map (cursorOf iso uuid) }

theorem listExperiments_page (plain : ∀ createdAt, '|' ∉ (iso.print createdAt).toList)
    (experiments : Experiments τ) (filter : ListFilter) (limit : Nat)
    (since : Option (SortKey τ)) :
    listExperiments iso uuid (some experiments) filter limit (since.map (cursorOf iso uuid)) =
      .ok (listedPage iso uuid (pageAhead ListedRow.key (listed experiments filter) limit since)) := by
  obtain ⟨decoded, same, key⟩ : ∃ decoded : Option (τ × Uuid),
      (since.map (cursorOf iso uuid)).mapM (decodeCursor iso uuid) = .ok decoded ∧
        decoded.map (fun since => sortKey since.1 since.2) = since := by
    cases since with
    | none => exact ⟨none, rfl, rfl⟩
    | some since =>
      refine ⟨some ((ofLex (OrderDual.ofDual since)).1, ⟨(ofLex (OrderDual.ofDual since)).2⟩), ?_, rfl⟩
      change (decodeCursor iso uuid (cursorOf iso uuid since)).map some = _
      unfold cursorOf
      rw [decode_encodeCursor plain]
      rfl
  unfold listExperiments
  dsimp only
  rw [same]
  dsimp only
  rw [queried_rows, key]
  unfold listedPage pageAhead
  dsimp only
  split <;> simp [Option.map_map, Function.comp_def, cursorOf, ListedRow.key, sortKey]

end

end AgentShield.ExperimentHistory
