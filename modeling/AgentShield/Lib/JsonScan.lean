import AgentShield.Lib.Json

/-!
What the scanner has read is a run of a small machine that only knows whether it stands
in a string; and the loops of the scanner never run out of fuel.
-/
namespace JsonText
open CodePoints Keyed

inductive Mode where
  | outside | inside | escaped
  deriving DecidableEq

def tokenChars : List CodePoint := str "\x7b\x7d[]:,-+.0123456789eEnultrfasNIiy \t\n\r"

def Mode.step : Mode → CodePoint → Option Mode
  | .outside, c => if c = quote then some .inside else if c ∈ tokenChars then some .outside else none
  | .inside, c =>
    if c = quote then some .outside else if c = backslash then some .escaped
    else if c.val < 32 then none else some .inside
  | .escaped, c => if c.val < 32 then none else some .inside

def lex (m : Mode) (p : Str) : Option Mode := p.foldlM Mode.step m

/-- The text leads from one mode to the other before the rest of it. -/
def Takes (m : Mode) (s : Str) (n : Mode) (rest : Str) : Prop :=
  ∃ p, s = p ++ rest ∧ lex m p = some n

theorem Takes.refl (m : Mode) (s : Str) : Takes m s m s := ⟨[], rfl, rfl⟩

theorem Takes.trans {m n k : Mode} {s t rest : Str} (first : Takes m s n t)
    (second : Takes n t k rest) : Takes m s k rest := by
  obtain ⟨p, rfl, one⟩ := first
  obtain ⟨q, rfl, two⟩ := second
  refine ⟨p ++ q, (List.append_assoc p q rest).symm, ?_⟩
  unfold lex at *
  rw [List.foldlM_append, one]
  exact two

theorem Takes.one {m n : Mode} {c : CodePoint} (step : m.step c = some n) (s : Str) :
    Takes m (c :: s) n s := by
  refine ⟨[c], rfl, ?_⟩
  unfold lex
  rw [List.foldlM_cons, step]
  rfl

theorem Takes.short {m n : Mode} {s rest : Str} (takes : Takes m s n rest) :
    rest.length ≤ s.length := by
  obtain ⟨p, rfl, -⟩ := takes
  rw [List.length_append]
  exact Nat.le_add_left _ _

theorem token_step {c : CodePoint} (token : c ∈ tokenChars) :
    Mode.outside.step c = some .outside := by
  have differ : c ≠ quote := by
    rintro rfl
    exact absurd token (by decide)
  rw [Mode.step, if_neg differ, if_pos token]

theorem quote_step : Mode.outside.step quote = some .inside := rfl

theorem takes_tokens {p : Str} (tokens : ∀ c ∈ p, c ∈ tokenChars) (rest : Str) :
    Takes .outside (p ++ rest) .outside rest := by
  induction p with
  | nil => exact .refl .outside rest
  | cons c p ih =>
    have step := token_step (tokens c List.mem_cons_self)
    exact (Takes.one step _).trans (ih fun d later => tokens d (List.mem_cons_of_mem c later))

theorem takes_skip (s : Str) : Takes .outside s .outside (skip s) := by
  have blank : ∀ c ∈ s.takeWhile isBlank, c ∈ tokenChars := by
    intro c member
    have white : ((str " \t\n\r").all fun d => d ∈ tokenChars) = true := by decide
    have here : c ∈ str " \t\n\r" := by simpa [isBlank] using List.mem_takeWhile_imp member
    simpa using List.all_eq_true.mp white c here
  have taken := takes_tokens blank (s.dropWhile isBlank)
  rwa [List.takeWhile_append_dropWhile] at taken

theorem takes_past {s rest : Str} {c : CodePoint} (stands : skip s = c :: rest)
    (token : c ∈ tokenChars) : Takes .outside s .outside rest := by
  have white := takes_skip s
  rw [stands] at white
  exact white.trans (.one (token_step token) rest)

theorem map_ok {e : Except ε α} {f : α → β} {y : β} (read : e.map f = .ok y) :
    ∃ x, e = .ok x ∧ f x = y := by
  cases e with
  | error error => cases read
  | ok x => exact ⟨x, rfl, Except.ok.inj read⟩

theorem bind_ok {e : Except ε α} {f : α → Except ε β} {y : β} (read : (e >>= f) = .ok y) :
    ∃ x, e = .ok x ∧ f x = .ok y := by
  cases e with
  | error error => cases read
  | ok x => exact ⟨x, rfl, read⟩

def Place.mode : Place → Mode
  | .between => .inside
  | .escape => .escaped
  | .digits _ _ => .inside

theorem escape_step {c d : CodePoint} (found : shortEscapes.lookup c = some d) :
    Mode.escaped.step c = some .inside := by
  have printable : (shortEscapes.all fun entry => 32 ≤ entry.1.val) = true := by decide
  obtain ⟨before, later, split, -⟩ := List.lookup_eq_some_iff.mp found
  have known := List.all_eq_true.mp printable (c, d) (by simp [split])
  have bound : ¬ c.val < 32 := Nat.not_lt.mpr (of_decide_eq_true known)
  rw [Mode.step, if_neg bound]

theorem digit_step {c : CodePoint} {d : Nat} (found : hexDigit c = some d) :
    Mode.inside.step c = some .inside := by
  have bounds : 48 ≤ c.val ∧ c.val ≤ 57 ∨ 97 ≤ c.val ∧ c.val ≤ 102 ∨ 65 ≤ c.val ∧ c.val ≤ 70 := by
    unfold hexDigit at found
    split at found
    · left; assumption
    · split at found
      · right; left; assumption
      · split at found
        · right; right; assumption
        · cases found
  have unquoted : c ≠ quote := by
    rintro rfl
    exact absurd bounds (by decide)
  have plain : c ≠ backslash := by
    rintro rfl
    exact absurd bounds (by decide)
  rw [Mode.step, if_neg unquoted, if_neg plain, if_neg (by omega)]

theorem units_take {place : Place} {s rest : Str} {units : List Piece}
    (read : scanUnits place s = .ok (units, rest)) : Takes place.mode s .outside rest := by
  induction s generalizing place units with
  | nil => cases place <;> cases read
  | cons c s ih =>
    cases place with
    | between =>
      rw [scanUnits] at read
      split at read
      · rename_i closing
        obtain ⟨-, rfl⟩ := Prod.mk.inj (Except.ok.inj read)
        exact .one (by rw [closing]; rfl) s
      · rename_i unquoted
        split at read
        · rename_i escaping
          exact (Takes.one (by rw [escaping]; rfl) s).trans (ih read)
        · rename_i plain
          split at read
          · cases read
          · rename_i printable
            obtain ⟨left, later, same⟩ := map_ok read
            obtain ⟨-, rfl⟩ := Prod.mk.inj same
            have step : Mode.inside.step c = some .inside := by
              rw [Mode.step, if_neg unquoted, if_neg plain, if_neg printable]
            exact (Takes.one step s).trans (ih later)
    | escape =>
      rw [scanUnits] at read
      split at read
      · rename_i numbered
        exact (Takes.one (by rw [numbered]; rfl) s).trans (ih read)
      · split at read
        · rename_i d found
          obtain ⟨left, later, same⟩ := map_ok read
          obtain ⟨-, rfl⟩ := Prod.mk.inj same
          exact (Takes.one (escape_step found) s).trans (ih later)
        · cases read
    | digits left value =>
      rw [scanUnits] at read
      split at read
      · cases read
      · rename_i d found
        have step := (Takes.one (digit_step found) s)
        cases left with
        | zero =>
          obtain ⟨left, later, same⟩ := map_ok read
          obtain ⟨-, rfl⟩ := Prod.mk.inj same
          exact step.trans (ih later)
        | succ left => exact step.trans (ih read)

theorem string_takes {s rest x : Str} (read : scanString s = .ok (x, rest)) :
    Takes .inside s .outside rest := by
  obtain ⟨⟨units, left⟩, units_read, same⟩ := map_ok read
  obtain ⟨-, rfl⟩ := Prod.mk.inj same
  exact units_take units_read

def Spells (reader : Str → Option (Str × Str)) : Prop :=
  ∀ s p rest, reader s = some (p, rest) → s = p ++ rest ∧ p ≠ [] ∧ ∀ c ∈ p, c ∈ tokenChars

theorem digit_token {c : CodePoint} (digit : isDigit c = true) : c ∈ tokenChars := by
  have bounds : 48 ≤ c.val ∧ c.val ≤ 57 := by simpa [isDigit] using digit
  have all : ((List.range 10).all fun d => Fin.ofNat 0x110000 (48 + d) ∈ tokenChars) = true := by
    decide
  have here := List.all_eq_true.mp all (c.val - 48) (List.mem_range.mpr (by omega))
  have same : Fin.ofNat 0x110000 (48 + (c.val - 48)) = c := by
    apply Fin.ext
    have := c.isLt
    simp only [Fin.ofNat]
    omega
  rw [same] at here
  exact of_decide_eq_true here

theorem digits_spell : Spells digits := by
  intro s p rest read
  unfold digits at read
  split at read
  · cases read
  · rename_i nonempty
    obtain ⟨rfl, rfl⟩ := Prod.mk.inj (Option.some.inj read)
    exact ⟨(List.takeWhile_append_dropWhile).symm, nonempty,
      fun c member => digit_token (List.mem_takeWhile_imp member)⟩

theorem natural_spells : Spells natural := by
  intro s p rest read
  cases s with
  | nil => cases read
  | cons c s =>
    rw [natural] at read
    split at read
    · rename_i zero
      obtain ⟨rfl, rfl⟩ := Prod.mk.inj (Option.some.inj read)
      refine ⟨rfl, List.cons_ne_nil c [], fun d member => ?_⟩
      rw [List.mem_singleton.mp member, zero]
      decide
    · exact digits_spell _ _ _ read

theorem after_spells {chars : List CodePoint} {next : Str → Option (Str × Str)}
    (tokens : chars ⊆ tokenChars) (spells : Spells next) : Spells (after chars next) := by
  intro s p rest read
  cases s with
  | nil => cases read
  | cons c s =>
    rw [after] at read
    split at read
    · rename_i listed
      obtain ⟨left, later, same⟩ := Option.map_eq_some_iff.mp read
      obtain ⟨rfl, rfl⟩ := Prod.mk.inj same
      obtain ⟨split, -, all⟩ := spells _ _ _ later
      refine ⟨by rw [split]; rfl, List.cons_ne_nil _ _, fun d member => ?_⟩
      rcases List.mem_cons.mp member with rfl | inside
      · exact tokens listed
      · exact all d inside
    · cases read

theorem or_spells {first second : Str → Option (Str × Str)} (one : Spells first)
    (two : Spells second) : Spells fun s => (first s).or (second s) := by
  intro s p rest read
  rcases Option.or_eq_some_iff.mp read with found | ⟨-, found⟩
  · exact one _ _ _ found
  · exact two _ _ _ found

theorem subset_tokens {chars : List CodePoint}
    (all : (chars.all fun c => c ∈ tokenChars) = true) : chars ⊆ tokenChars :=
  fun c member => of_decide_eq_true (List.all_eq_true.mp all c member)

theorem integer_spells : Spells scanInteger :=
  or_spells (after_spells (subset_tokens (by decide)) natural_spells) natural_spells

theorem fraction_spells : Spells (after (str ".") digits) :=
  after_spells (subset_tokens (by decide)) digits_spell

theorem exponent_spells :
    Spells (after (str "eE") fun s => (after (str "-+") digits s).or (digits s)) :=
  after_spells (subset_tokens (by decide))
    (or_spells (after_spells (subset_tokens (by decide)) digits_spell) digits_spell)

theorem optional_takes {reader : Str → Option (Str × Str)} (spells : Spells reader) (s : Str) :
    Takes .outside s .outside ((reader s).getD ([], s)).2 := by
  cases read : reader s with
  | none => exact .refl .outside s
  | some taken =>
    obtain ⟨split, -, tokens⟩ := spells _ _ _ read
    nth_rewrite 1 [split]
    exact takes_tokens tokens _

def Consumes (s rest : Str) : Prop := Takes .outside s .outside rest ∧ rest.length < s.length

theorem tokens_consumed {p rest : Str} (nonempty : p ≠ []) (tokens : ∀ c ∈ p, c ∈ tokenChars) :
    Consumes (p ++ rest) rest := by
  refine ⟨takes_tokens tokens rest, ?_⟩
  have := List.length_pos_iff.mpr nonempty
  rw [List.length_append]
  omega

theorem number_consumed {limits : Limits} {s rest : Str} {v : Json}
    (read : scanNumber limits s = .ok (v, rest)) : Consumes s rest := by
  unfold scanNumber at read
  split at read
  · cases read
  · rename_i integer left found
    obtain ⟨rfl, nonempty, tokens⟩ := integer_spells _ _ _ found
    have start : Consumes (integer ++ left) left := tokens_consumed nonempty tokens
    have middle : Takes .outside left .outside (scanFraction left).2 :=
      optional_takes fraction_spells left
    have finish : Takes .outside (scanFraction left).2 .outside
        (scanExponent (scanFraction left).2).2 := optional_takes exponent_spells _
    have through := middle.trans finish
    have same : (scanExponent (scanFraction left).2).2 = rest := by
      dsimp only at read
      split at read
      · obtain ⟨n, -, same⟩ := map_ok read
        exact (Prod.mk.inj same).2
      · exact (Prod.mk.inj (Except.ok.inj read)).2
    rw [same] at through
    exact ⟨start.1.trans through, Nat.lt_of_le_of_lt through.short start.2⟩

theorem number_kind {limits : Limits} {s rest : Str} {v : Json}
    (read : scanNumber limits s = .ok (v, rest)) :
    (∃ n, v = .int n) ∨ ∃ literal, v = .float literal := by
  unfold scanNumber at read
  split at read
  · cases read
  · dsimp only at read
    split at read
    · obtain ⟨n, -, same⟩ := map_ok read
      exact .inl ⟨n, (Prod.mk.inj same).1.symm⟩
    · exact .inr ⟨_, (Prod.mk.inj (Except.ok.inj read)).1.symm⟩

theorem constant_listed {s rest : Str} {v : Json} (read : scanConstant s = some (v, rest)) :
    ∃ name, (name, v) ∈ constants := by
  obtain ⟨constant, listed, found⟩ := List.exists_of_findSome?_eq_some read
  split at found
  · rw [← (Prod.mk.inj (Option.some.inj found)).1]
    exact ⟨constant.1, listed⟩
  · cases found

theorem constant_no_object {s rest : Str} {v : Json} (read : scanConstant s = some (v, rest)) :
    v.isObject = false := by
  have all : (constants.all fun constant => !constant.2.isObject) = true := by decide
  obtain ⟨name, listed⟩ := constant_listed read
  simpa using List.all_eq_true.mp all (name, v) listed

theorem constant_consumed {s rest : Str} {v : Json} (read : scanConstant s = some (v, rest)) :
    Consumes s rest := by
  obtain ⟨constant, listed, found⟩ := List.exists_of_findSome?_eq_some read
  split at found
  · rename_i start
    obtain ⟨left, rfl⟩ := List.isPrefixOf_iff_prefix.mp start
    rw [List.drop_left] at found
    obtain ⟨-, rfl⟩ := Prod.mk.inj (Option.some.inj found)
    have all : (constants.all fun constant => str constant.1 ≠ [] ∧
        (str constant.1).all fun c => c ∈ tokenChars) = true := by decide
    obtain ⟨nonempty, tokens⟩ : str constant.1 ≠ [] ∧
        ((str constant.1).all fun c => c ∈ tokenChars) = true := by
      simpa using List.all_eq_true.mp all constant listed
    exact tokens_consumed nonempty fun c member =>
      of_decide_eq_true (List.all_eq_true.mp tokens c member)
  · cases found

section Loops
variable {scan : Scan}

theorem expected {c : CodePoint} {s rest : Str} (read : expect c s = .ok rest) :
    s = c :: rest := by
  cases s with
  | nil => cases read
  | cons d s =>
    rw [expect] at read
    split at read
    · rename_i same
      rw [same, Except.ok.inj read]
    · cases read

theorem member_turn {s rest : Str} {member : Str × Json}
    (read : scanMember scan s = .ok (member, rest)) :
    ∃ after_key value_text, scanString s = .ok (member.1, after_key) ∧
      skip after_key = ofChar ':' :: value_text ∧ scan (skip value_text) = .ok (member.2, rest) := by
  obtain ⟨key, key_read, read⟩ := bind_ok read
  obtain ⟨value_text, colon, read⟩ := bind_ok read
  obtain ⟨value, value_read, same⟩ := bind_ok read
  obtain ⟨rfl, rfl⟩ := Prod.mk.inj (Except.ok.inj same)
  exact ⟨key.2, value_text, key_read, expected colon, value_read⟩

/-- What one turn of the object's loop reads. -/
theorem entries_turn {fuel : Nat} {s rest : Str} {entries result : Entries}
    (read : scanEntries scan (fuel + 1) s entries = .ok (result, rest)) :
    ∃ member left, scanMember scan s = .ok (member, left) ∧
      (skip left = ofChar '}' :: rest ∧ result = replaceOrAppend Prod.fst member entries ∨
        ∃ comma next, skip left = ofChar ',' :: comma ∧ skip comma = quote :: next ∧
          scanEntries scan fuel next (replaceOrAppend Prod.fst member entries) =
            .ok (result, rest)) := by
  obtain ⟨⟨member, left⟩, member_read, read⟩ := bind_ok read
  refine ⟨member, left, member_read, ?_⟩
  dsimp only at read
  split at read
  · cases read
  · rename_i c s stands
    split at read
    · rename_i brace
      obtain ⟨rfl, rfl⟩ := Prod.mk.inj (Except.ok.inj read)
      exact .inl ⟨by rw [stands, brace], rfl⟩
    · split at read
      · rename_i comma
        obtain ⟨next, opened, read⟩ := bind_ok read
        exact .inr ⟨s, next, by rw [stands, comma], expected opened, read⟩
      · cases read

theorem items_turn {fuel : Nat} {s rest : Str} {items : List Json}
    (read : scanItems scan (fuel + 1) s = .ok (items, rest)) :
    ∃ value left, scan s = .ok (value, left) ∧
      (skip left = ofChar ']' :: rest ∧ items = [value] ∨
        ∃ comma others, skip left = ofChar ',' :: comma ∧ items = value :: others ∧
          scanItems scan fuel (skip comma) = .ok (others, rest)) := by
  obtain ⟨⟨value, left⟩, value_read, read⟩ := bind_ok read
  refine ⟨value, left, value_read, ?_⟩
  dsimp only at read
  split at read
  · cases read
  · rename_i c s stands
    split at read
    · rename_i bracket
      obtain ⟨rfl, rfl⟩ := Prod.mk.inj (Except.ok.inj read)
      exact .inl ⟨by rw [stands, bracket], rfl⟩
    · split at read
      · rename_i comma
        obtain ⟨⟨others, others_left⟩, others_read, same⟩ := map_ok read
        obtain ⟨rfl, rfl⟩ := Prod.mk.inj same
        exact .inr ⟨s, others, by rw [stands, comma], rfl, others_read⟩
      · cases read

theorem array_kind {s rest : Str} {v : Json} (read : scanArray scan s = .ok (v, rest)) :
    ∃ items, v = .arr items := by
  unfold scanArray at read
  split at read
  · cases read
  · split at read
    · exact ⟨[], (Prod.mk.inj (Except.ok.inj read)).1.symm⟩
    · obtain ⟨items, -, same⟩ := map_ok read
      exact ⟨items.1, (Prod.mk.inj same).1.symm⟩

variable (consumes : ∀ s v rest, scan s = .ok (v, rest) → Consumes s rest)
include consumes

theorem member_takes {s rest : Str} {member : Str × Json}
    (read : scanMember scan s = .ok (member, rest)) : Takes .inside s .outside rest := by
  obtain ⟨after_key, value_text, key, colon, value⟩ := member_turn read
  have past := (string_takes key).trans (takes_past colon (by decide))
  exact (past.trans (takes_skip value_text)).trans (consumes _ _ _ value).1

theorem entries_take {fuel : Nat} {s rest : Str} {entries result : Entries}
    (read : scanEntries scan fuel s entries = .ok (result, rest)) :
    Takes .inside s .outside rest := by
  induction fuel generalizing s entries with
  | zero => cases read
  | succ fuel ih =>
    obtain ⟨member, left, member_read, next⟩ := entries_turn read
    have past := member_takes consumes member_read
    rcases next with ⟨brace, -⟩ | ⟨comma, next, separated, opened, read⟩
    · exact past.trans (takes_past brace (by decide))
    · have key := (past.trans (takes_past separated (by decide))).trans (takes_skip comma)
      rw [opened] at key
      exact (key.trans (.one quote_step next)).trans (ih read)

theorem items_take {fuel : Nat} {s rest : Str} {items : List Json}
    (read : scanItems scan fuel s = .ok (items, rest)) : Takes .outside s .outside rest := by
  induction fuel generalizing s items with
  | zero => cases read
  | succ fuel ih =>
    obtain ⟨value, left, value_read, next⟩ := items_turn read
    have past := (consumes _ _ _ value_read).1
    rcases next with ⟨bracket, -⟩ | ⟨comma, others, separated, -, read⟩
    · exact past.trans (takes_past bracket (by decide))
    · have next := (past.trans (takes_past separated (by decide))).trans (takes_skip comma)
      exact next.trans (ih read)

theorem object_takes {s rest : Str} {v : Json} (read : scanObject scan s = .ok (v, rest)) :
    Takes .outside s .outside rest := by
  unfold scanObject at read
  have white := takes_skip s
  split at read
  · cases read
  · rename_i c left stands
    rw [stands] at white
    split at read
    · rename_i brace
      obtain ⟨-, rfl⟩ := Prod.mk.inj (Except.ok.inj read)
      exact white.trans (.one (token_step (by rw [brace]; decide)) left)
    · split at read
      · rename_i opened
        obtain ⟨⟨entries, past⟩, entries_read, same⟩ := map_ok read
        obtain ⟨-, rfl⟩ := Prod.mk.inj same
        rw [opened] at white
        exact (white.trans (.one quote_step left)).trans (entries_take consumes entries_read)
      · cases read

theorem array_takes {s rest : Str} {v : Json} (read : scanArray scan s = .ok (v, rest)) :
    Takes .outside s .outside rest := by
  unfold scanArray at read
  have white := takes_skip s
  split at read
  · cases read
  · rename_i c left stands
    rw [stands] at white
    split at read
    · rename_i bracket
      obtain ⟨-, rfl⟩ := Prod.mk.inj (Except.ok.inj read)
      exact white.trans (.one (token_step (by rw [bracket]; decide)) left)
    · obtain ⟨⟨items, past⟩, items_read, same⟩ := map_ok read
      obtain ⟨-, rfl⟩ := Prod.mk.inj same
      exact white.trans (items_take consumes items_read)

/- The loops end before their fuel does. -/
theorem entries_fuel {n m : Nat} {s : Str} (enough : s.length < n) (more : s.length < m)
    (entries : Entries) : scanEntries scan n s entries = scanEntries scan m s entries := by
  induction n generalizing m s entries with
  | zero => omega
  | succ n ih =>
    obtain ⟨m, rfl⟩ : ∃ k, m = k + 1 := ⟨m - 1, by omega⟩
    cases read : scanMember scan s with
    | error e => simp only [scanEntries, read, bind, Except.bind]
    | ok member =>
      have member_short := (member_takes consumes read).short
      simp only [scanEntries, read, bind, Except.bind]
      split
      · rfl
      · rename_i c next stands
        split
        · rfl
        · split
          · cases opened : expect quote (skip next) with
            | error e => rfl
            | ok following =>
              have skipped := (takes_skip member.2).short
              have again := (takes_skip next).short
              rw [stands, List.length_cons] at skipped
              rw [expected opened, List.length_cons] at again
              exact ih (by omega) (by omega) _
          · rfl

theorem items_fuel {n m : Nat} {s : Str} (enough : s.length < n) (more : s.length < m) :
    scanItems scan n s = scanItems scan m s := by
  induction n generalizing m s with
  | zero => omega
  | succ n ih =>
    obtain ⟨m, rfl⟩ : ∃ k, m = k + 1 := ⟨m - 1, by omega⟩
    cases read : scan s with
    | error e => simp only [scanItems, read, bind, Except.bind]
    | ok value =>
      have value_short := (consumes _ _ _ read).2
      simp only [scanItems, read, bind, Except.bind]
      split
      · rfl
      · rename_i c next stands
        have skipped := (takes_skip value.2).short
        have again := (takes_skip next).short
        rw [stands, List.length_cons] at skipped
        rw [ih (s := skip next) (m := m) (by omega) (by omega)]

theorem entries_settled {k m : Nat} {s : Str} {entries : Entries}
    {result : Except LoadError (Entries × Str)} (enough : s.length < m)
    (read : ∀ n, k < n → scanEntries scan n s entries = result) :
    scanEntries scan m s entries = result := by
  have more : s.length < m + (k + 1) := Nat.lt_of_lt_of_le enough (Nat.le_add_right m (k + 1))
  rw [entries_fuel consumes enough more]
  exact read _ (by omega)

theorem items_settled {k m : Nat} {s : Str} {result : Except LoadError (List Json × Str)}
    (enough : s.length < m) (read : ∀ n, k ≤ n → scanItems scan n s = result) :
    scanItems scan m s = result := by
  rw [items_fuel consumes enough (Nat.lt_of_lt_of_le enough (Nat.le_add_right m k))]
  exact read _ (Nat.le_add_left k m)

end Loops

theorem opened_consumed {m : Mode} {c : CodePoint} {s rest : Str}
    (step : Mode.outside.step c = some m) (takes : Takes m s .outside rest) :
    Consumes (c :: s) rest :=
  ⟨(Takes.one step s).trans takes, Nat.lt_succ_of_le takes.short⟩

theorem value_consumed {limits : Limits} {inside : Option Scan}
    (consumes : ∀ scan ∈ inside, ∀ s v rest, scan s = .ok (v, rest) → Consumes s rest)
    {s rest : Str} {v : Json} (read : scanValue limits inside s = .ok (v, rest)) :
    Consumes s rest := by
  cases s with
  | nil => cases read
  | cons c s =>
    unfold scanValue at read
    dsimp only at read
    split at read
    · rename_i quoted
      obtain ⟨⟨x, left⟩, string, same⟩ := map_ok read
      obtain ⟨-, rfl⟩ := Prod.mk.inj same
      exact opened_consumed (by rw [quoted]; rfl) (string_takes string)
    · split at read
      · rename_i brace
        split at read
        · cases read
        · rename_i scan
          exact opened_consumed (token_step (by rw [brace]; decide))
            (object_takes (consumes scan rfl) read)
      · split at read
        · rename_i bracket
          split at read
          · cases read
          · rename_i scan
            exact opened_consumed (token_step (by rw [bracket]; decide))
              (array_takes (consumes scan rfl) read)
        · split at read
          · rename_i constant found
            rw [Except.ok.inj read] at found
            exact constant_consumed found
          · exact number_consumed read

theorem once_consumed {limits : Limits} {depth : Nat} {s rest : Str} {v : Json}
    (read : scanOnce limits depth s = .ok (v, rest)) : Consumes s rest := by
  induction depth generalizing s v rest with
  | zero => exact value_consumed (fun _ absent => by cases absent) read
  | succ depth ih =>
    refine value_consumed (fun scan here => ?_) read
    obtain rfl := Option.some.inj here
    exact fun s v rest inner => ih inner

theorem object_opened {limits : Limits} {inside : Option Scan} {s rest : Str} {entries : Entries}
    (read : scanValue limits inside s = .ok (.obj entries, rest)) :
    ∃ scan ∈ inside, ∃ t, s = ofChar '{' :: t ∧ scanObject scan t = .ok (.obj entries, rest) := by
  cases s with
  | nil => cases read
  | cons c s =>
    unfold scanValue at read
    dsimp only at read
    split at read
    · obtain ⟨x, -, same⟩ := map_ok read
      cases (Prod.mk.inj same).1
    · split at read
      · rename_i brace
        split at read
        · cases read
        · rename_i scan
          exact ⟨scan, rfl, s, by rw [brace], read⟩
      · split at read
        · split at read
          · cases read
          · obtain ⟨items, same⟩ := array_kind read
            cases same
        · split at read
          · rename_i constant found
            rw [Except.ok.inj read] at found
            exact absurd (constant_no_object found) (by simp [Json.isObject])
          · rcases number_kind read with ⟨n, same⟩ | ⟨literal, same⟩ <;> cases same

/-- A text that loads as an object is one, white space apart. -/
theorem loads_object {limits : Limits} {s : Str} {entries : Entries}
    (loaded : loads limits s = .ok (.obj entries)) :
    ∃ depth t rest, skip s = ofChar '{' :: t ∧
      scanObject (scanOnce limits depth) t = .ok (.obj entries, rest) := by
  unfold loads at loaded
  split at loaded
  · cases loaded
  · obtain ⟨⟨v, rest⟩, read, ends⟩ := bind_ok loaded
    split at ends
    · obtain rfl : v = .obj entries := Except.ok.inj ends
      cases depth : limits.nesting with
      | zero =>
        rw [depth] at read
        obtain ⟨scan, absent, -⟩ := object_opened read
        cases absent
      | succ depth' =>
        rw [depth] at read
        obtain ⟨scan, here, t, opened, object⟩ := object_opened read
        obtain rfl := Option.some.inj here
        exact ⟨depth', t, rest, opened, object⟩
    · cases ends

end JsonText
