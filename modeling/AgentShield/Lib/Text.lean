import Mathlib.Algebra.Ring.Nat
import Mathlib.Data.List.DropRight
import Mathlib.Data.List.Infix

/-!
The Python string operations the program uses, on lists of code points:
`strip`, `rstrip`, `replace`, `split`, `in` and `lower`. A text is a list of
Unicode scalar values; `str` can also hold lone surrogates, which no JSON body
delivers.
-/
namespace Text

/-- `str.isspace` for one code point; `str.strip()` removes exactly these. -/
def isSpace (c : Char) : Bool :=
  let n := c.toNat
  (9 ≤ n && n ≤ 13) || (28 ≤ n && n ≤ 32) || n == 0x85 || n == 0xA0 || n == 0x1680 ||
    (0x2000 ≤ n && n ≤ 0x200A) || n == 0x2028 || n == 0x2029 || n == 0x202F || n == 0x205F ||
    n == 0x3000

def strip (s : List Char) : List Char := (s.dropWhile isSpace).rdropWhile isSpace

def rstrip (chars s : List Char) : List Char := s.rdropWhile fun c => c ∈ chars

def replace (old new : Char) (s : List Char) : List Char :=
  s.map fun c => if c = old then new else c

def contains (sub s : List Char) : Bool := s.tails.any fun t => sub.isPrefixOf t

def join (sep : Char) (parts : List (List Char)) : List Char := [sep].intercalate parts

/- first, last, step, and what to add: a code point of the run has a one-code-point
   lower case. -/
structure CaseRun where
  first : Nat
  last : Nat
  step : Nat
  shift : Int

/- Unicode 15 lower-case mappings outside ASCII; U+0130 is the one that maps to two. -/
def caseRuns : List CaseRun :=
  [⟨192, 214, 1, 32⟩, ⟨216, 222, 1, 32⟩, ⟨256, 302, 2, 1⟩, ⟨306, 310, 2, 1⟩, ⟨313, 327, 2, 1⟩,
   ⟨330, 374, 2, 1⟩, ⟨376, 376, 1, -121⟩, ⟨377, 381, 2, 1⟩, ⟨385, 385, 1, 210⟩, ⟨386, 388, 2, 1⟩,
   ⟨390, 390, 1, 206⟩, ⟨391, 391, 1, 1⟩, ⟨393, 394, 1, 205⟩, ⟨395, 395, 1, 1⟩, ⟨398, 398, 1, 79⟩,
   ⟨399, 399, 1, 202⟩, ⟨400, 400, 1, 203⟩, ⟨401, 401, 1, 1⟩, ⟨403, 403, 1, 205⟩,
   ⟨404, 404, 1, 207⟩, ⟨406, 406, 1, 211⟩, ⟨407, 407, 1, 209⟩, ⟨408, 408, 1, 1⟩,
   ⟨412, 412, 1, 211⟩, ⟨413, 413, 1, 213⟩, ⟨415, 415, 1, 214⟩, ⟨416, 420, 2, 1⟩,
   ⟨422, 422, 1, 218⟩, ⟨423, 423, 1, 1⟩, ⟨425, 425, 1, 218⟩, ⟨428, 428, 1, 1⟩,
   ⟨430, 430, 1, 218⟩, ⟨431, 431, 1, 1⟩, ⟨433, 434, 1, 217⟩, ⟨435, 437, 2, 1⟩,
   ⟨439, 439, 1, 219⟩, ⟨440, 440, 1, 1⟩, ⟨444, 444, 1, 1⟩, ⟨452, 452, 1, 2⟩, ⟨453, 453, 1, 1⟩,
   ⟨455, 455, 1, 2⟩, ⟨456, 456, 1, 1⟩, ⟨458, 458, 1, 2⟩, ⟨459, 475, 2, 1⟩, ⟨478, 494, 2, 1⟩,
   ⟨497, 497, 1, 2⟩, ⟨498, 500, 2, 1⟩, ⟨502, 502, 1, -97⟩, ⟨503, 503, 1, -56⟩, ⟨504, 542, 2, 1⟩,
   ⟨544, 544, 1, -130⟩, ⟨546, 562, 2, 1⟩, ⟨570, 570, 1, 10795⟩, ⟨571, 571, 1, 1⟩,
   ⟨573, 573, 1, -163⟩, ⟨574, 574, 1, 10792⟩, ⟨577, 577, 1, 1⟩, ⟨579, 579, 1, -195⟩,
   ⟨580, 580, 1, 69⟩, ⟨581, 581, 1, 71⟩, ⟨582, 590, 2, 1⟩, ⟨880, 882, 2, 1⟩, ⟨886, 886, 1, 1⟩,
   ⟨895, 895, 1, 116⟩, ⟨902, 902, 1, 38⟩, ⟨904, 906, 1, 37⟩, ⟨908, 908, 1, 64⟩,
   ⟨910, 911, 1, 63⟩, ⟨913, 929, 1, 32⟩, ⟨931, 939, 1, 32⟩, ⟨975, 975, 1, 8⟩, ⟨984, 1006, 2, 1⟩,
   ⟨1012, 1012, 1, -60⟩, ⟨1015, 1015, 1, 1⟩, ⟨1017, 1017, 1, -7⟩, ⟨1018, 1018, 1, 1⟩,
   ⟨1021, 1023, 1, -130⟩, ⟨1024, 1039, 1, 80⟩, ⟨1040, 1071, 1, 32⟩, ⟨1120, 1152, 2, 1⟩,
   ⟨1162, 1214, 2, 1⟩, ⟨1216, 1216, 1, 15⟩, ⟨1217, 1229, 2, 1⟩, ⟨1232, 1326, 2, 1⟩,
   ⟨1329, 1366, 1, 48⟩, ⟨4256, 4293, 1, 7264⟩, ⟨4295, 4295, 1, 7264⟩, ⟨4301, 4301, 1, 7264⟩,
   ⟨5024, 5103, 1, 38864⟩, ⟨5104, 5109, 1, 8⟩, ⟨7312, 7354, 1, -3008⟩, ⟨7357, 7359, 1, -3008⟩,
   ⟨7680, 7828, 2, 1⟩, ⟨7838, 7838, 1, -7615⟩, ⟨7840, 7934, 2, 1⟩, ⟨7944, 7951, 1, -8⟩,
   ⟨7960, 7965, 1, -8⟩, ⟨7976, 7983, 1, -8⟩, ⟨7992, 7999, 1, -8⟩, ⟨8008, 8013, 1, -8⟩,
   ⟨8025, 8031, 2, -8⟩, ⟨8040, 8047, 1, -8⟩, ⟨8072, 8079, 1, -8⟩, ⟨8088, 8095, 1, -8⟩,
   ⟨8104, 8111, 1, -8⟩, ⟨8120, 8121, 1, -8⟩, ⟨8122, 8123, 1, -74⟩, ⟨8124, 8124, 1, -9⟩,
   ⟨8136, 8139, 1, -86⟩, ⟨8140, 8140, 1, -9⟩, ⟨8152, 8153, 1, -8⟩, ⟨8154, 8155, 1, -100⟩,
   ⟨8168, 8169, 1, -8⟩, ⟨8170, 8171, 1, -112⟩, ⟨8172, 8172, 1, -7⟩, ⟨8184, 8185, 1, -128⟩,
   ⟨8186, 8187, 1, -126⟩, ⟨8188, 8188, 1, -9⟩, ⟨8486, 8486, 1, -7517⟩, ⟨8490, 8490, 1, -8383⟩,
   ⟨8491, 8491, 1, -8262⟩, ⟨8498, 8498, 1, 28⟩, ⟨8544, 8559, 1, 16⟩, ⟨8579, 8579, 1, 1⟩,
   ⟨9398, 9423, 1, 26⟩, ⟨11264, 11311, 1, 48⟩, ⟨11360, 11360, 1, 1⟩, ⟨11362, 11362, 1, -10743⟩,
   ⟨11363, 11363, 1, -3814⟩, ⟨11364, 11364, 1, -10727⟩, ⟨11367, 11371, 2, 1⟩,
   ⟨11373, 11373, 1, -10780⟩, ⟨11374, 11374, 1, -10749⟩, ⟨11375, 11375, 1, -10783⟩,
   ⟨11376, 11376, 1, -10782⟩, ⟨11378, 11378, 1, 1⟩, ⟨11381, 11381, 1, 1⟩,
   ⟨11390, 11391, 1, -10815⟩, ⟨11392, 11490, 2, 1⟩, ⟨11499, 11501, 2, 1⟩, ⟨11506, 11506, 1, 1⟩,
   ⟨42560, 42604, 2, 1⟩, ⟨42624, 42650, 2, 1⟩, ⟨42786, 42798, 2, 1⟩, ⟨42802, 42862, 2, 1⟩,
   ⟨42873, 42875, 2, 1⟩, ⟨42877, 42877, 1, -35332⟩, ⟨42878, 42886, 2, 1⟩, ⟨42891, 42891, 1, 1⟩,
   ⟨42893, 42893, 1, -42280⟩, ⟨42896, 42898, 2, 1⟩, ⟨42902, 42920, 2, 1⟩,
   ⟨42922, 42922, 1, -42308⟩, ⟨42923, 42923, 1, -42319⟩, ⟨42924, 42924, 1, -42315⟩,
   ⟨42925, 42925, 1, -42305⟩, ⟨42926, 42926, 1, -42308⟩, ⟨42928, 42928, 1, -42258⟩,
   ⟨42929, 42929, 1, -42282⟩, ⟨42930, 42930, 1, -42261⟩, ⟨42931, 42931, 1, 928⟩,
   ⟨42932, 42946, 2, 1⟩, ⟨42948, 42948, 1, -48⟩, ⟨42949, 42949, 1, -42307⟩,
   ⟨42950, 42950, 1, -35384⟩, ⟨42951, 42953, 2, 1⟩, ⟨42960, 42960, 1, 1⟩, ⟨42966, 42968, 2, 1⟩,
   ⟨42997, 42997, 1, 1⟩, ⟨65313, 65338, 1, 32⟩, ⟨66560, 66599, 1, 40⟩, ⟨66736, 66771, 1, 40⟩,
   ⟨66928, 66938, 1, 39⟩, ⟨66940, 66954, 1, 39⟩, ⟨66956, 66962, 1, 39⟩, ⟨66964, 66965, 1, 39⟩,
   ⟨68736, 68786, 1, 64⟩, ⟨71840, 71871, 1, 32⟩, ⟨93760, 93791, 1, 32⟩, ⟨125184, 125217, 1, 34⟩]

def CaseRun.covers (r : CaseRun) (n : Nat) : Bool :=
  r.first ≤ n && n ≤ r.last && (n - r.first) % r.step == 0

/-- The final form of sigma is not chosen by context here: both forms are outside
   ASCII, and the program compares lowered texts with ASCII words only. -/
def lowerChar (c : Char) : List Char :=
  let n := c.toNat
  if n < 128 then [if 65 ≤ n ∧ n ≤ 90 then Char.ofNat (n + 32) else c]
  else if n = 0x130 then ['i', Char.ofNat 0x307]
  else match caseRuns.find? (·.covers n) with
    | some run => [Char.ofNat (n + run.shift).toNat]
    | none => [c]

def lower (s : List Char) : List Char := s.flatMap lowerChar

example : lower "Demo_TARGET".toList = "demo_target".toList := by decide

theorem contains_iff (sub s : List Char) : contains sub s = true ↔ sub <:+: s := by
  simp only [contains, List.any_eq_true, List.mem_tails, List.isPrefixOf_iff_prefix]
  constructor
  · rintro ⟨t, suffix, pre⟩
    exact pre.isInfix.trans suffix.isInfix
  · intro inside
    obtain ⟨t, pre, suffix⟩ := List.infix_iff_prefix_suffix.mp inside
    exact ⟨t, suffix, pre⟩

theorem strip_sublist (s : List Char) : (strip s).Sublist s :=
  (List.rdropWhile_prefix _ _).sublist.trans (List.dropWhile_suffix _).sublist

theorem strip_length_le (s : List Char) : (strip s).length ≤ s.length :=
  (strip_sublist s).length_le

theorem strip_member {c : Char} {s : List Char} (h : c ∈ strip s) : c ∈ s :=
  (strip_sublist s).subset h

theorem rdropWhile_past {p : α → Bool} {c : α} (stays : p c = false) (before after : List α) :
    (before ++ c :: after).rdropWhile p = before ++ c :: after.rdropWhile p := by
  induction after using List.reverseRecOn with
  | nil => simp [stays]
  | append_singleton after last ih =>
    rw [← List.cons_append, ← List.append_assoc]
    by_cases dropped : p last = true
    · rw [List.rdropWhile_concat_pos _ _ _ dropped, List.rdropWhile_concat_pos _ _ _ dropped, ih]
    · rw [List.rdropWhile_concat_neg _ _ _ dropped, List.rdropWhile_concat_neg _ _ _ dropped,
        List.append_assoc, List.cons_append]

theorem dropWhile_keeps {p : Char → Bool} {c : Char} {s : List Char} (member : c ∈ s)
    (solid : p c = false) : c ∈ s.dropWhile p := by
  induction s with
  | nil => cases member
  | cons d rest ih =>
    rw [List.dropWhile_cons]
    split
    · rename_i dropped
      rcases List.mem_cons.mp member with rfl | later
      · simp [solid] at dropped
      · exact ih later
    · exact member

theorem strip_keeps {c : Char} {s : List Char} (member : c ∈ s) (solid : isSpace c = false) :
    c ∈ strip s := by
  have front := List.mem_reverse.mpr (dropWhile_keeps member solid)
  exact List.mem_reverse.mpr (dropWhile_keeps front solid)

def Trimmed (s : List Char) : Prop :=
  (∀ c, s.head? = some c → isSpace c = false) ∧ ∀ c, s.getLast? = some c → isSpace c = false

theorem strip_trimmed (s : List Char) : Trimmed (strip s) := by
  constructor
  · intro c head
    have pre := List.rdropWhile_prefix isSpace (s.dropWhile isSpace)
    have front : (s.dropWhile isSpace).head? = some c := by
      obtain ⟨rest, split⟩ := pre
      rw [← split]
      cases h : strip s with
      | nil => simp [h] at head
      | cons d ds =>
        rw [strip] at h
        rw [strip, h] at head
        rw [h]
        simpa using head
    have first := List.head?_dropWhile_not isSpace s
    rw [front] at first
    simpa using first
  · intro c last
    have nonempty : strip s ≠ [] := by
      intro empty
      simp [empty] at last
    have notSpace := List.rdropWhile_last_not isSpace (s.dropWhile isSpace) nonempty
    rw [List.getLast?_eq_some_getLast nonempty] at last
    rw [← Option.some.inj last]
    exact Bool.eq_false_iff.mpr notSpace

theorem trimmed_strip {s : List Char} (h : Trimmed s) : strip s = s := by
  have front : s.dropWhile isSpace = s := by
    cases s with
    | nil => rfl
    | cons c cs =>
      have notSpace := h.1 c rfl
      exact List.dropWhile_cons_of_neg (by simp [notSpace])
  rw [strip, front, List.rdropWhile_eq_self_iff]
  intro nonempty
  have notSpace := h.2 _ (List.getLast?_eq_some_getLast nonempty)
  simp [notSpace]

theorem strip_shortens {s : List Char} (h : ¬ Trimmed s) : (strip s).length < s.length := by
  have proper : strip s ≠ s := fun same => h (same ▸ strip_trimmed s)
  have le := strip_length_le s
  have differ : (strip s).length ≠ s.length := fun same =>
    proper ((strip_sublist s).eq_of_length same)
  omega

theorem rstrip_eq_self_iff (chars s : List Char) :
    rstrip chars s = s ↔ ∀ c, s.getLast? = some c → c ∉ chars := by
  rw [rstrip, List.rdropWhile_eq_self_iff]
  constructor
  · intro h c last
    have nonempty : s ≠ [] := by
      intro empty
      simp [empty] at last
    rw [List.getLast?_eq_some_getLast nonempty] at last
    rw [← Option.some.inj last]
    simpa using h nonempty
  · intro h nonempty
    simpa using h _ (List.getLast?_eq_some_getLast nonempty)

theorem replace_absent {old new : Char} (differ : new ≠ old) (s : List Char) :
    old ∉ replace old new s := by
  intro member
  obtain ⟨c, _, same⟩ := List.mem_map.mp member
  split at same
  · exact differ same
  · rename_i kept
    exact kept same

theorem replace_eq_self {old new : Char} {s : List Char} (absent : old ∉ s) :
    replace old new s = s := by
  rw [replace]
  conv => rhs; rw [← List.map_id s]
  refine List.map_congr_left fun c member => ?_
  have differ : c ≠ old := fun same => absent (same ▸ member)
  simp [differ]

theorem replace_length (old new : Char) (s : List Char) :
    (replace old new s).length = s.length := List.length_map _

theorem replace_member {old new c : Char} {s : List Char} (h : c ∈ replace old new s) :
    c = new ∨ c ∈ s := by
  obtain ⟨d, member, same⟩ := List.mem_map.mp h
  split at same
  · exact Or.inl same.symm
  · exact Or.inr (same ▸ member)

theorem join_split (sep : Char) (s : List Char) : join sep (s.splitOn sep) = s :=
  List.intercalate_splitOn sep

theorem split_join (sep : Char) {parts : List (List Char)} (nonempty : parts ≠ [])
    (absent : ∀ p ∈ parts, sep ∉ p) : (join sep parts).splitOn sep = parts :=
  List.splitOn_intercalate sep absent nonempty

@[simp] theorem join_nil (sep : Char) : join sep [] = [] := rfl

@[simp] theorem join_singleton (sep : Char) (p : List Char) : join sep [p] = p := by
  simp [join, List.intercalate]

theorem join_cons (sep : Char) (p : List Char) {ps : List (List Char)} (nonempty : ps ≠ []) :
    join sep (p :: ps) = p ++ sep :: join sep ps := by
  cases ps with
  | nil => contradiction
  | cons q qs => simp [join, List.intercalate]

theorem split_absent (sep : Char) (s : List Char) : ∀ p ∈ s.splitOn sep, sep ∉ p := by
  induction s with
  | nil => simp
  | cons c cs ih =>
    rw [List.splitOn_cons_eq_if_modifyHead]
    split
    · intro p member
      rcases List.mem_cons.mp member with empty | later
      · simp [empty]
      · exact ih p later
    · rename_i other
      obtain ⟨q, qs, parts⟩ := List.exists_cons_of_ne_nil (List.splitOn_ne_nil sep cs)
      rw [parts] at ih ⊢
      intro p member
      rcases List.mem_cons.mp member with first | later
      · subst first
        have differ : sep ≠ c := by
          intro same
          simp [same] at other
        simp only [List.mem_cons, not_or]
        exact ⟨differ, ih q (by simp)⟩
      · exact ih p (List.mem_cons_of_mem q later)

theorem join_member {sep c : Char} {parts : List (List Char)} (h : c ∈ join sep parts) :
    c = sep ∨ ∃ p ∈ parts, c ∈ p := by
  induction parts with
  | nil => simp at h
  | cons p ps ih =>
    by_cases last : ps = []
    · rw [last, join_singleton] at h
      exact Or.inr ⟨p, by simp, h⟩
    · rw [join_cons sep p last, List.mem_append, List.mem_cons] at h
      rcases h with here | same | later
      · exact Or.inr ⟨p, by simp, here⟩
      · exact Or.inl same
      · rcases ih later with same | ⟨q, member, inside⟩
        · exact Or.inl same
        · exact Or.inr ⟨q, List.mem_cons_of_mem p member, inside⟩

theorem part_member {sep c : Char} {parts : List (List Char)} {p : List Char}
    (member : p ∈ parts) (h : c ∈ p) : c ∈ join sep parts := by
  induction parts with
  | nil => simp at member
  | cons q qs ih =>
    by_cases last : qs = []
    · subst last
      obtain rfl := List.mem_singleton.mp member
      simpa using h
    · rw [join_cons sep q last, List.mem_append, List.mem_cons]
      rcases List.mem_cons.mp member with same | later
      · exact Or.inl (same ▸ h)
      · exact Or.inr (Or.inr (ih later))

theorem join_length (sep : Char) {parts : List (List Char)} (nonempty : parts ≠ []) :
    (join sep parts).length + 1 = (parts.map fun p => p.length + 1).sum := by
  induction parts with
  | nil => contradiction
  | cons p ps ih =>
    by_cases last : ps = []
    · simp [last]
    · rw [join_cons sep p last, List.map_cons, List.sum_cons, ← ih last]
      simp only [List.length_append, List.length_cons]
      omega

theorem join_getLast {sep : Char} {parts : List (List Char)} {p : List Char}
    (last : parts.getLast? = some p) (nonempty : p ≠ []) :
    (join sep parts).getLast? = p.getLast? := by
  induction parts with
  | nil => simp at last
  | cons q qs ih =>
    by_cases single : qs = []
    · subst single
      simp only [List.getLast?_singleton, Option.some.injEq] at last
      rw [join_singleton, last]
    · have later : qs.getLast? = some p := by
        rw [← last, List.getLast?_cons_of_ne_nil single]
      have tail := ih later
      have some_char : (join sep qs) ≠ [] := by
        intro empty
        rw [empty] at tail
        exact nonempty (List.getLast?_eq_none_iff.mp tail.symm)
      rw [join_cons sep q single, List.getLast?_append_of_ne_nil _ (by simp),
        List.getLast?_cons_of_ne_nil some_char, tail]

end Text
