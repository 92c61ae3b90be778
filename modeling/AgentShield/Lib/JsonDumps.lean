import AgentShield.Lib.JsonScan

/-!
`json.dumps` with its default arguments, and what `json.loads` makes of its text: the same
strings, but for two halves of a surrogate pair that stand side by side.
-/
namespace JsonText
open CodePoints Keyed

def escapeDct : List (CodePoint × CodePoint) :=
  [(backslash, backslash), (quote, quote), (8, ofChar 'b'), (12, ofChar 'f'), (10, ofChar 'n'),
    (13, ofChar 'r'), (9, ofChar 't')]

def hexChar (d : Nat) : CodePoint := Fin.ofNat _ (if d < 10 then 48 + d else 87 + d)

def numbered (n : Nat) : Str :=
  [backslash, ofChar 'u', hexChar (n / 4096 % 16), hexChar (n / 256 % 16), hexChar (n / 16 % 16),
    hexChar (n % 16)]

def highHalf (c : CodePoint) : Nat := 0xD800 + (c.val - 0x10000) / 0x400

def lowHalf (c : CodePoint) : Nat := 0xDC00 + (c.val - 0x10000) % 0x400

def escape (c : CodePoint) : Str :=
  match escapeDct.lookup c with
  | some e => [backslash, e]
  | none =>
    if 32 ≤ c.val ∧ c.val ≤ 126 then [c]
    else if c.val < 0x10000 then numbered c.val
    else numbered (highHalf c) ++ numbered (lowHalf c)

def dumpsString (x : Str) : Str := quote :: x.flatMap escape ++ [quote]

def dumpsList (items : List Str) : Str := str "[" ++ (str ", ").intercalate items ++ str "]"

def dumpsMember (entry : Str × Str) : Str := dumpsString entry.1 ++ str ": " ++ entry.2

def dumpsObject (entries : List (Str × Str)) : Str :=
  str "\x7b" ++ (str ", ").intercalate (entries.map dumpsMember) ++ str "\x7d"

def joined : Str → Str
  | [] => []
  | [c] => [c]
  | h :: l :: rest => if high h ∧ low l then pair h l :: joined rest else h :: joined (l :: rest)

/-- Some character is the first half of a surrogate pair and the next is the second. -/
def SplitPair : Str → Prop
  | h :: l :: rest => high h = true ∧ low l = true ∨ SplitPair (l :: rest)
  | _ => False

theorem joined_length_le (x : Str) : (joined x).length ≤ x.length := by
  induction x using joined.induct with
  | case1 => exact Nat.le_refl 0
  | case2 c => exact Nat.le_refl 1
  | case3 h l rest pair ih =>
    rw [joined, if_pos pair]
    simp only [List.length_cons]
    omega
  | case4 h l rest apart ih =>
    rw [joined, if_neg apart]
    simp only [List.length_cons] at ih ⊢
    omega

theorem joined_eq_iff (x : Str) : joined x = x ↔ ¬ SplitPair x := by
  induction x using joined.induct with
  | case1 => simp [joined, SplitPair]
  | case2 c => simp [joined, SplitPair]
  | case3 h l rest pair ih =>
    have short : (joined (h :: l :: rest)).length < (h :: l :: rest).length := by
      rw [joined, if_pos pair]
      have := joined_length_le rest
      simp only [List.length_cons]
      omega
    have differ : joined (h :: l :: rest) ≠ h :: l :: rest := by
      intro same
      rw [same] at short
      exact Nat.lt_irrefl _ short
    exact iff_of_false differ fun apart => apart (.inl pair)
  | case4 h l rest apart ih =>
    rw [joined, if_neg apart, List.cons_inj_right, ih, SplitPair, not_or]
    exact ⟨fun later => ⟨apart, later⟩, fun both => both.2⟩

def pieces (c : CodePoint) : List Piece :=
  if escapeDct.lookup c ≠ none ∨ 32 ≤ c.val ∧ c.val ≤ 126 then [⟨c, false⟩]
  else if c.val < 0x10000 then [⟨c, true⟩]
  else [⟨Fin.ofNat _ (highHalf c), true⟩, ⟨Fin.ofNat _ (lowHalf c), true⟩]

theorem hex_digit_char {d : Nat} (h : d < 16) : hexDigit (hexChar d) = some d := by
  have all : ((List.range 16).all fun d => hexDigit (hexChar d) = some d) = true := by
    decide
  exact of_decide_eq_true (List.all_eq_true.mp all d (List.mem_range.mpr h))

theorem numbered_read {n : Nat} (h : n < 0x10000) (s : Str) :
    scanUnits .between (numbered n ++ s) =
      (scanUnits .between s).map fun read => (⟨Fin.ofNat _ n, true⟩ :: read.1, read.2) := by
  have value : 16 * (16 * (16 * (16 * 0 + n / 4096 % 16) + n / 256 % 16) + n / 16 % 16) + n % 16 =
      n := by omega
  have small : ∀ k, k % 16 < 16 := fun k => Nat.mod_lt k (by decide)
  have differ : backslash ≠ quote := by decide
  unfold numbered
  simp only [List.cons_append, List.nil_append, scanUnits, if_neg differ, if_true,
    hex_digit_char (small _), value]

theorem escape_read (c : CodePoint) (s : Str) :
    scanUnits .between (escape c ++ s) =
      (scanUnits .between s).map fun read => (pieces c ++ read.1, read.2) := by
  unfold escape pieces
  split
  · rename_i e found
    have all : (escapeDct.all fun entry => shortEscapes.lookup entry.2 = some entry.1 ∧
        entry.2 ≠ ofChar 'u') = true := by decide
    obtain ⟨before, later, split, -⟩ := List.lookup_eq_some_iff.mp found
    obtain ⟨back, short⟩ : shortEscapes.lookup e = some c ∧ e ≠ ofChar 'u' :=
      of_decide_eq_true (List.all_eq_true.mp all (c, e) (by simp [split]))
    have differ : backslash ≠ quote := by decide
    rw [if_pos (.inl (by simp [found]))]
    simp only [List.cons_append, List.nil_append, scanUnits, if_neg differ, if_true, if_neg short,
      back]
  · rename_i absent
    have known : quote ≠ c ∧ backslash ≠ c := by
      constructor
      · rintro rfl
        exact absurd absent (by decide)
      · rintro rfl
        exact absurd absent (by decide)
    by_cases printable : 32 ≤ c.val ∧ c.val ≤ 126
    · rw [if_pos printable, if_pos (.inr printable), List.singleton_append, scanUnits,
        if_neg known.1.symm, if_neg known.2.symm, if_neg (Nat.not_lt.mpr printable.1)]
      rfl
    · rw [if_neg printable, if_neg (not_or.mpr ⟨not_not.mpr absent, printable⟩)]
      by_cases plane : c.val < 0x10000
      · rw [if_pos plane, if_pos plane, numbered_read plane, Fin.ofNat_val_eq_self]
        rfl
      · have := c.isLt
        rw [if_neg plane, if_neg plane, List.append_assoc,
          numbered_read (by unfold highHalf; omega), numbered_read (by unfold lowHalf; omega)]
        cases scanUnits .between s <;> rfl

theorem units_read (x rest : Str) :
    scanUnits .between (x.flatMap escape ++ quote :: rest) = .ok (x.flatMap pieces, rest) := by
  induction x with
  | nil => rfl
  | cons c x ih =>
    rw [List.flatMap_cons, List.append_assoc, escape_read, ih]
    rfl

theorem half_values (c : CodePoint) :
    (Fin.ofNat 0x110000 (highHalf c)).val = highHalf c ∧
      (Fin.ofNat 0x110000 (lowHalf c)).val = lowHalf c := by
  have := c.isLt
  unfold highHalf lowHalf
  exact ⟨Nat.mod_eq_of_lt (by omega), Nat.mod_eq_of_lt (by omega)⟩

theorem halves_of {c : CodePoint} (astral : 0x10000 ≤ c.val) :
    high (Fin.ofNat _ (highHalf c)) = true ∧ low (Fin.ofNat _ (lowHalf c)) = true ∧
      pair (Fin.ofNat _ (highHalf c)) (Fin.ofNat _ (lowHalf c)) = c := by
  have bound := c.isLt
  obtain ⟨first, second⟩ := half_values c
  rw [high_iff, low_iff, first, second]
  unfold pair
  rw [first, second]
  unfold highHalf lowHalf
  refine ⟨by omega, by omega, Fin.ext ?_⟩
  simp only [Fin.ofNat]
  omega

def Apart (c : CodePoint) (rest : List Piece) : Prop :=
  ∀ p ∈ rest.head?, high c = true → low p.code = false

theorem join_pieces {c : CodePoint} {rest : List Piece} (apart : Apart c rest) :
    join (pieces c ++ rest) = c :: join rest := by
  have single : ∀ b, join (⟨c, b⟩ :: rest) = c :: join rest := by
    intro b
    cases rest with
    | nil => rfl
    | cons p rest =>
      rw [join, if_neg]
      rintro ⟨-, -, first, second⟩
      rw [apart p rfl first] at second
      cases second
  unfold pieces
  split
  · exact single false
  · split
    · exact single true
    · rename_i astral
      obtain ⟨first, second, whole⟩ := halves_of (Nat.not_lt.mp astral)
      rw [List.cons_append, List.cons_append, List.nil_append, join,
        if_pos ⟨rfl, rfl, first, second⟩, whole]

theorem surrogate_pieces {c : CodePoint} (surrogate : high c = true ∨ low c = true) :
    pieces c = [⟨c, true⟩] := by
  have range : 0xD800 ≤ c.val ∧ c.val ≤ 0xDFFF := by
    rw [high_iff, low_iff] at surrogate
    omega
  have absent : escapeDct.lookup c = none := by
    rw [List.lookup_eq_none_iff]
    have all : (escapeDct.all fun entry => entry.1.val < 0xD800) = true := by decide
    intro entry member
    have small := of_decide_eq_true (List.all_eq_true.mp all entry member)
    rw [bne_iff_ne]
    rintro rfl
    omega
  unfold pieces
  rw [if_neg (by rw [absent]; simp; omega), if_pos (by omega)]

theorem first_piece {c : CodePoint} {rest : List Piece} {p : Piece}
    (first : p ∈ (pieces c ++ rest).head?) (second : low p.code = true) : low c = true := by
  unfold pieces at first
  split at first
  · obtain rfl : ⟨c, false⟩ = p := by simpa using first
    exact second
  · split at first
    · obtain rfl : ⟨c, true⟩ = p := by simpa using first
      exact second
    · obtain rfl : ⟨Fin.ofNat _ (highHalf c), true⟩ = p := by simpa using first
      have := c.isLt
      rw [low_iff, (half_values c).1, highHalf] at second
      omega

theorem join_joined (x : Str) : join (x.flatMap pieces) = joined x := by
  induction x using joined.induct with
  | case1 => rfl
  | case2 c =>
    have apart : Apart c [] := fun p absent => by cases absent
    exact join_pieces apart
  | case3 h l rest pair ih =>
    rw [List.flatMap_cons, List.flatMap_cons, surrogate_pieces (.inl pair.1),
      surrogate_pieces (.inr pair.2), joined, if_pos pair, ← ih]
    rw [List.singleton_append, List.singleton_append, join, if_pos ⟨rfl, rfl, pair.1, pair.2⟩]
  | case4 h l rest apart ih =>
    rw [List.flatMap_cons, joined, if_neg apart, ← ih, List.flatMap_cons]
    apply join_pieces
    intro p first opens
    rw [Bool.eq_false_iff]
    exact fun closes => apart ⟨opens, first_piece first closes⟩

theorem string_reads (x rest : Str) :
    scanString (x.flatMap escape ++ quote :: rest) = .ok (joined x, rest) := by
  unfold scanString
  rw [units_read, ← join_joined]
  rfl

/-- The text is read as the value wherever it stands, and begins with neither white space
    nor the end of a list. -/
structure Reads (scan : Scan) (text : Str) (v : Json) : Prop where
  read : ∀ rest, scan (text ++ rest) = .ok (v, rest)
  solid : ∃ c t, text = c :: t ∧ isBlank c = false ∧ c ≠ ofChar ']'

theorem Reads.skip {scan : Scan} {text : Str} {v : Json} (reads : Reads scan text v) (rest : Str) :
    skip (text ++ rest) = text ++ rest := by
  obtain ⟨c, t, rfl, solid, -⟩ := reads.solid
  exact List.dropWhile_cons_of_neg (by simp [solid])

theorem dumpsString_reads (limits : Limits) (depth : Nat) (x : Str) :
    Reads (scanOnce limits depth) (dumpsString x) (.str (joined x)) := by
  constructor
  · intro rest
    have text : dumpsString x ++ rest = quote :: (x.flatMap escape ++ quote :: rest) := by
      simp [dumpsString]
    have once : scanOnce limits depth (dumpsString x ++ rest) =
        (scanString (x.flatMap escape ++ quote :: rest)).map fun read => (.str read.1, read.2) := by
      rw [text]
      cases depth <;> rfl
    rw [once, string_reads]
    rfl
  · exact ⟨quote, x.flatMap escape ++ [quote], rfl, by decide, by decide⟩

section Written
variable {scan : Scan}

theorem skip_solid {c : CodePoint} (solid : isBlank c = false) (s : Str) : skip (c :: s) = c :: s :=
  List.dropWhile_cons_of_neg (by simp [solid])

theorem intercalate_front (sep first : Str) (others : List Str) :
    ∃ more, sep.intercalate (first :: others) = first ++ more := by
  cases others with
  | nil => exact ⟨[], by rw [List.intercalate_singleton, List.append_nil]⟩
  | cons second others =>
    exact ⟨sep ++ sep.intercalate (second :: others), by
      rw [List.intercalate_cons_cons, List.append_assoc]⟩

theorem skip_separated {text : Str} {v : Json} (reads : Reads scan text v) (others : List Str)
    (rest : Str) : skip (ofChar ' ' :: ((str ", ").intercalate (text :: others) ++ rest)) =
      (str ", ").intercalate (text :: others) ++ rest := by
  obtain ⟨more, front⟩ := intercalate_front (str ", ") text others
  rw [front, List.append_assoc]
  have blank : isBlank (ofChar ' ') = true := by decide
  unfold skip
  rw [List.dropWhile_cons_of_pos blank]
  exact reads.skip _

theorem items_read {fuel : Nat} {texts : List Str} {values : List Json}
    (reads : List.Forall₂ (Reads scan) texts values) (nonempty : texts ≠ [])
    (enough : texts.length ≤ fuel) (rest : Str) :
    scanItems scan fuel ((str ", ").intercalate texts ++ (str "]" ++ rest)) = .ok (values, rest) := by
  induction reads generalizing fuel with
  | nil => exact absurd rfl nonempty
  | @cons text value texts values first others ih =>
    rw [List.length_cons] at enough
    obtain ⟨fuel, rfl⟩ : ∃ k, fuel = k + 1 := ⟨fuel - 1, by omega⟩
    cases others with
    | nil =>
      rw [List.intercalate_singleton]
      simp only [scanItems, first.read, bind, Except.bind]
      rfl
    | @cons next second nexts seconds following later =>
      have tail := ih (List.cons_ne_nil next nexts) (Nat.le_of_succ_le_succ enough)
      have white := skip_separated following nexts (str "]" ++ rest)
      have comma : ∀ s, skip (ofChar ',' :: s) = ofChar ',' :: s := skip_solid (by decide)
      have differ : ofChar ',' ≠ ofChar ']' := by decide
      have text_eq : (str ", ").intercalate (text :: next :: nexts) ++ (str "]" ++ rest) =
          text ++ (ofChar ',' :: ofChar ' ' ::
            ((str ", ").intercalate (next :: nexts) ++ (str "]" ++ rest))) := by
        rw [List.intercalate_cons_cons, List.append_assoc, List.append_assoc]
        rfl
      rw [text_eq]
      simp only [scanItems, first.read, bind, Except.bind, comma, if_neg differ, if_true, white,
        tail]
      rfl

theorem member_reads {key text : Str} {v : Json} (reads : Reads scan text v) (rest : Str) :
    scanMember scan (key.flatMap escape ++ quote :: (str ": " ++ (text ++ rest))) =
      .ok ((joined key, v), rest) := by
  have colon : skip (str ": " ++ (text ++ rest)) = ofChar ':' :: ofChar ' ' :: (text ++ rest) :=
    skip_solid (by decide) _
  have here : expect (ofChar ':') (ofChar ':' :: ofChar ' ' :: (text ++ rest)) =
      .ok (ofChar ' ' :: (text ++ rest)) := by
    rw [expect, if_pos rfl]
  have white : skip (ofChar ' ' :: (text ++ rest)) = text ++ rest := by
    have blank : isBlank (ofChar ' ') = true := by decide
    unfold skip
    rw [List.dropWhile_cons_of_pos blank]
    exact reads.skip rest
  simp only [scanMember, string_reads, bind, Except.bind, colon, here, white, reads.read]

/-- A member of an object: its key, what its value is written as, and the value read. -/
structure Member where
  key : Str
  text : Str
  value : Json

def Member.written (m : Member) : Str × Str := (m.key, m.text)

def entered (members : List Member) (entries : Entries) : Entries :=
  members.foldl (fun entries m => replaceOrAppend Prod.fst (joined m.key, m.value) entries) entries

def Member.read (m : Member) : Str × Json := (m.key, m.value)

theorem entered_distinct {members : List Member} {entries : Entries}
    (kept : ∀ m ∈ members, joined m.key = m.key)
    (distinct : ((entries ++ members.map Member.read).map Prod.fst).Nodup) :
    entered members entries = entries ++ members.map Member.read := by
  induction members generalizing entries with
  | nil => exact (List.append_nil entries).symm
  | cons m members ih =>
    rw [List.forall_mem_cons] at kept
    have absent : Prod.fst m.read ∉ entries.map Prod.fst := by
      intro old
      rw [List.map_append] at distinct
      exact (List.nodup_append.mp distinct).2.2 _ old _ List.mem_cons_self rfl
    have first : replaceOrAppend Prod.fst (joined m.key, m.value) entries = entries ++ [m.read] := by
      rw [kept.1]
      exact new_appended absent
    have split : entries ++ (m :: members).map Member.read =
        entries ++ [m.read] ++ members.map Member.read := by simp
    rw [split] at distinct ⊢
    rw [entered, List.foldl_cons, first]
    exact ih kept.2 distinct

theorem lookup_distinct {entries : Entries} {key : Str} {v : Json}
    (distinct : (entries.map Prod.fst).Nodup) (member : (key, v) ∈ entries) :
    entries.lookup key = some v := by
  induction entries with
  | nil => cases member
  | cons entry entries ih =>
    obtain ⟨fresh, later⟩ := List.nodup_cons.mp distinct
    rcases List.mem_cons.mp member with rfl | inside
    · exact List.lookup_cons_self
    · have differ : key ≠ entry.1 := by
        rintro rfl
        exact fresh (List.mem_map.mpr ⟨_, inside, rfl⟩)
      rw [List.lookup_cons, beq_false_of_ne differ]
      exact ih later inside

def Member.opened (m : Member) : Str := m.key.flatMap escape ++ quote :: (str ": " ++ m.text)

theorem member_opened (m : Member) : dumpsMember m.written = quote :: m.opened := by
  simp [dumpsMember, dumpsString, Member.written, Member.opened]

def Member.following (m : Member) : Str := str ", " ++ quote :: m.opened

theorem members_opened (m : Member) (members : List Member) :
    (str ", ").intercalate ((m :: members).map fun m => dumpsMember m.written) =
      quote :: (m.opened ++ members.flatMap Member.following) := by
  induction members generalizing m with
  | nil =>
    rw [List.map_singleton, List.intercalate_singleton, member_opened]
    simp
  | cons next members ih =>
    have tail := ih next
    rw [List.map_cons] at tail
    rw [List.map_cons, List.map_cons, List.intercalate_cons_cons, tail, member_opened,
      List.flatMap_cons]
    simp [Member.following]

theorem entries_read {fuel : Nat} {m : Member} {members : List Member}
    (reads : ∀ n ∈ m :: members, Reads scan n.text n.value) (enough : members.length < fuel)
    (rest : Str) (entries : Entries) :
    scanEntries scan fuel (m.opened ++ members.flatMap Member.following ++ (str "\x7d" ++ rest)) entries =
      .ok (entered (m :: members) entries, rest) := by
  induction members generalizing fuel m entries with
  | nil =>
    obtain ⟨fuel, rfl⟩ : ∃ k, fuel = k + 1 := ⟨fuel - 1, by omega⟩
    have text : m.opened ++ [].flatMap Member.following ++ (str "\x7d" ++ rest) =
        m.key.flatMap escape ++ quote :: (str ": " ++ (m.text ++ (str "\x7d" ++ rest))) := by
      simp [Member.opened]
    rw [text]
    simp only [scanEntries, member_reads (reads m List.mem_cons_self), bind, Except.bind]
    rfl
  | cons next members ih =>
    rw [List.length_cons] at enough
    obtain ⟨fuel, rfl⟩ : ∃ k, fuel = k + 1 := ⟨fuel - 1, by omega⟩
    have others : ∀ n ∈ next :: members, Reads scan n.text n.value :=
      fun n member => reads n (List.mem_cons_of_mem m member)
    have tail := ih others (Nat.lt_of_succ_lt_succ enough)
      (replaceOrAppend Prod.fst (joined m.key, m.value) entries)
    have text : m.opened ++ (next :: members).flatMap Member.following ++ (str "\x7d" ++ rest) =
        m.key.flatMap escape ++ quote :: (str ": " ++ (m.text ++ (ofChar ',' :: ofChar ' ' :: quote ::
          (next.opened ++ members.flatMap Member.following ++ (str "\x7d" ++ rest))))) := by
      have separator : str ", " = [ofChar ',', ofChar ' '] := rfl
      simp [Member.opened, Member.following, separator]
    have comma : ∀ s, skip (ofChar ',' :: s) = ofChar ',' :: s := skip_solid (by decide)
    have differ : ofChar ',' ≠ ofChar '}' := by decide
    have white : ∀ s, expect quote (skip (ofChar ' ' :: quote :: s)) = .ok s := by
      intro s
      have blank : isBlank (ofChar ' ') = true := by decide
      rw [skip, List.dropWhile_cons_of_pos blank, List.dropWhile_cons_of_neg (by decide), expect,
        if_pos rfl]
    rw [text]
    simp only [scanEntries, member_reads (reads m List.mem_cons_self), bind, Except.bind, comma,
      if_neg differ, if_true, white, tail]
    rfl

end Written

theorem list_reads {limits : Limits} {depth : Nat} {texts : List Str} {values : List Json}
    (reads : List.Forall₂ (Reads (scanOnce limits depth)) texts values) :
    Reads (scanOnce limits (depth + 1)) (dumpsList texts) (.arr values) := by
  refine ⟨fun rest => ?_, ofChar '[', (str ", ").intercalate texts ++ str "]", rfl, by decide,
    by decide⟩
  have once : ∀ s, scanOnce limits (depth + 1) (str "[" ++ s) = scanArray (scanOnce limits depth) s :=
    fun s => rfl
  rw [dumpsList, List.append_assoc, List.append_assoc, once]
  cases reads with
  | nil => rfl
  | @cons text value texts values first others =>
    have items : ∀ fuel, (text :: texts).length ≤ fuel → _ := fun fuel enough =>
      items_read (.cons first others) (List.cons_ne_nil text texts) enough rest
    obtain ⟨more, front⟩ := intercalate_front (str ", ") text texts
    obtain ⟨c, t, rfl, solid, no_end⟩ := first.solid
    rw [front, List.cons_append, List.cons_append] at items ⊢
    unfold scanArray
    rw [skip_solid solid]
    dsimp only
    have enough : ∀ s : Str, (c :: s).length < s.length + 2 := fun s => Nat.lt_succ_self _
    rw [if_neg no_end, items_settled (fun _ _ _ => once_consumed) (enough _) items]
    rfl

/-- An object reads as the dict its members leave. -/
theorem object_reads {limits : Limits} {depth : Nat} {members : List Member}
    (reads : ∀ m ∈ members, Reads (scanOnce limits depth) m.text m.value) :
    Reads (scanOnce limits (depth + 1)) (dumpsObject (members.map Member.written))
      (.obj (entered members [])) := by
  refine ⟨fun rest => ?_, ofChar '{',
    (str ", ").intercalate ((members.map Member.written).map dumpsMember) ++ str "\x7d", rfl, by decide,
    by decide⟩
  have once : ∀ s, scanOnce limits (depth + 1) (str "\x7b" ++ s) = scanObject (scanOnce limits depth) s :=
    fun s => rfl
  rw [dumpsObject, List.append_assoc, List.append_assoc, once, List.map_map]
  cases members with
  | nil => rfl
  | cons m members =>
    have entries : ∀ fuel, members.length < fuel → _ := fun fuel enough =>
      entries_read reads enough rest []
    have opened := members_opened m members
    unfold scanObject
    rw [show dumpsMember ∘ Member.written = fun m => dumpsMember m.written from rfl, opened,
      List.cons_append, skip_solid (by decide)]
    dsimp only
    have differ : quote ≠ ofChar '}' := by decide
    rw [if_neg differ, if_pos rfl,
      entries_settled (fun _ _ _ => once_consumed) (Nat.lt_succ_self _) entries]
    rfl

/-- What `loads` makes of a text that reads as a value. -/
theorem loads_read {limits : Limits} {text : Str} {v : Json}
    (reads : Reads (scanOnce limits limits.nesting) text v) (marked : text.head? ≠ some 0xFEFF) :
    loads limits text = .ok v := by
  have white := reads.skip []
  have read := reads.read []
  rw [List.append_nil] at white read
  rw [loads, if_neg marked, white, read]
  rfl

end JsonText
