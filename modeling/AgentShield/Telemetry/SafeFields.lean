import AgentShield.Telemetry.Sentry

/-!
What telemetry reveals: nothing that is stored under a key outside the allowlist, at
whatever depth, makes a difference.
-/
namespace AgentShield.Telemetry
open CodePoints JsonText Nested

variable {Object : Type}

section
variable {α : Type} {related : List α → List α → Prop}

def both (first second : Except DumpError (List α)) : Except DumpError (List α) := do
  let xs ← first
  let ys ← second
  return xs ++ ys

/-- The same error, or two lists that are so related. -/
inductive Alike (related : List α → List α → Prop) :
    Except DumpError (List α) → Except DumpError (List α) → Prop where
  | fails (e : DumpError) : Alike related (.error e) (.error e)
  | returns {xs ys : List α} (lists : related xs ys) : Alike related (.ok xs) (.ok ys)

/-- The same entries, as a dict has them: in whatever order. -/
abbrev SameEntries : Except DumpError (List α) → Except DumpError (List α) → Prop :=
  Alike List.Perm

theorem alike_refl (refl : ∀ xs, related xs xs) (x : Except DumpError (List α)) :
    Alike related x x := by
  cases x with
  | error e => exact .fails e
  | ok xs => exact .returns (refl xs)

theorem alike_cases {x y : Except DumpError (List α)} (alike : Alike related x y) :
    (∃ e, x = .error e ∧ y = .error e) ∨
      ∃ xs ys, x = .ok xs ∧ y = .ok ys ∧ related xs ys := by
  cases alike with
  | fails e => exact .inl ⟨e, rfl, rfl⟩
  | returns lists => exact .inr ⟨_, _, rfl, rfl, lists⟩

theorem alike_both (appended : ∀ {a b c d}, related a b → related c d → related (a ++ c) (b ++ d))
    {x y z w : Except DumpError (List α)} (first : Alike related x y)
    (second : Alike related z w) : Alike related (both x z) (both y w) := by
  cases first with
  | fails e => exact .fails e
  | returns front =>
    cases second with
    | fails e => exact .fails e
    | returns back => exact .returns (appended front back)

theorem same_trans {x y z : Except DumpError (List α)} (first : SameEntries x y)
    (second : SameEntries y z) : SameEntries x z := by
  cases first with
  | fails e => exact second
  | returns here =>
    cases second with
    | returns later => exact .returns (here.trans later)

theorem both_nil (x : Except DumpError (List α)) : both (.ok []) x = x := by
  cases x <;> rfl

theorem both_assoc (x y z : Except DumpError (List α)) :
    both (both x y) z = both x (both y z) := by
  cases x with
  | error e => rfl
  | ok xs =>
    cases y with
    | error f => rfl
    | ok ys =>
      cases z with
      | error g => rfl
      | ok zs => exact congrArg Except.ok (List.append_assoc xs ys zs)

theorem both_comm (x y : Except DumpError (List α)) : SameEntries (both x y) (both y x) := by
  cases x with
  | error e =>
    cases e
    cases y with
    | error f => exact .fails _
    | ok ys => exact .fails _
  | ok xs =>
    cases y with
    | error f => exact .fails f
    | ok ys => exact .returns List.perm_append_comm

theorem both_ok {x y : Except DumpError (List α)} {zs : List α} (returned : both x y = .ok zs) :
    ∃ xs ys, x = .ok xs ∧ y = .ok ys ∧ zs = xs ++ ys := by
  cases x with
  | error e => cases returned
  | ok xs =>
    cases y with
    | error f => cases returned
    | ok ys => exact ⟨xs, ys, rfl, rfl, (Except.ok.inj returned).symm⟩

end

theorem safeName_text {key : Key Object} {name : Str} (safe : safeName key = some name) :
    key = .text name := by
  cases key with
  | text other =>
    rw [safeName] at safe
    split at safe
    · rw [Option.some.inj safe]
    · cases safe
  | other object => cases safe

section
variable (interpreter : Interpreter)

def safeEntry (key : Key Object) (item : Value Object) : Except DumpError (List (Str × Scalar)) :=
  match safeName key with
  | none => .ok []
  | some name => (safeValue interpreter item).map fun scrubbed =>
      (scrubbed.map (Prod.mk name)).toList

def safeItem : Value Object → Except DumpError (List Item)
  | .mapping entries => (safeEntries interpreter entries).map fun filtered => [.fields filtered]
  | item => (safeValue interpreter item).map fun scrubbed => (scrubbed.map .scalar).toList

theorem safeEntries_cons (key : Key Object) (item : Value Object) (rest : Entries Object) :
    safeEntries interpreter ((key, item) :: rest) =
      both (safeEntry interpreter key item) (safeEntries interpreter rest) := by
  rw [safeEntries, safeEntry]
  cases safeName key with
  | none => exact (both_nil _).symm
  | some name => cases safeValue interpreter item <;> rfl

theorem safeItems_cons (item : Value Object) (rest : List (Value Object)) :
    safeItems interpreter (item :: rest) =
      both (safeItem interpreter item) (safeItems interpreter rest) := by
  cases item with
  | leaf a =>
    rw [safeItems, safeItem]
    · cases safeValue interpreter (.leaf a) <;> rfl
    · simp
    · simp
  | mapping entries =>
    rw [safeItems, safeItem]
    cases safeEntries interpreter entries <;> rfl
  | items kind values =>
    rw [safeItems, safeItem]
    · cases safeValue interpreter (.items kind values) <;> rfl
    · simp
    · simp

theorem safeEntries_append (xs ys : Entries Object) :
    safeEntries interpreter (xs ++ ys) =
      both (safeEntries interpreter xs) (safeEntries interpreter ys) := by
  induction xs with
  | nil => exact (both_nil _).symm
  | cons entry rest ih =>
    obtain ⟨key, item⟩ := entry
    rw [List.cons_append, safeEntries_cons, safeEntries_cons, ih, both_assoc]

theorem safeEntries_middle (key : Key Object) (item : Value Object) (before after : Entries Object) :
    SameEntries
      (both (safeEntry interpreter key item) (safeEntries interpreter (before ++ after)))
      (safeEntries interpreter (before ++ (key, item) :: after)) := by
  rw [safeEntries_append, safeEntries_append, safeEntries_cons, ← both_assoc, ← both_assoc]
  exact alike_both List.Perm.append (both_comm _ _) (alike_refl List.Perm.refl _)

theorem safe_names {entries : Entries Object} {nested : List (Str × Scalar)}
    (returned : safeEntries interpreter entries = .ok nested) :
    (nested.map fun entry => (Key.text entry.1 : Key Object)).Sublist (entries.map Prod.fst) := by
  induction entries generalizing nested with
  | nil =>
    obtain rfl := Except.ok.inj returned
    exact List.Sublist.refl []
  | cons entry rest ih =>
    obtain ⟨key, item⟩ := entry
    rw [safeEntries_cons] at returned
    obtain ⟨here, later, first, second, rfl⟩ := both_ok returned
    have tail := ih second
    rw [List.map_append, List.map_cons]
    unfold safeEntry at first
    cases safe : safeName key with
    | none =>
      rw [safe] at first
      obtain rfl := Except.ok.inj first
      exact tail.cons key
    | some name =>
      rw [safe] at first
      cases scrubbed : safeValue interpreter item with
      | error e =>
        rw [scrubbed] at first
        cases first
      | ok kept =>
        rw [scrubbed] at first
        obtain rfl := Except.ok.inj first
        cases kept with
        | none => exact tail.cons key
        | some s =>
          rw [safeName_text safe]
          exact tail.cons_cons (Key.text name)

theorem names_distinct {entries : Entries Object} {nested : List (Str × Scalar)}
    (returned : safeEntries interpreter entries = .ok nested)
    (distinct : (entries.map Prod.fst).Nodup) : (nested.map Prod.fst).Nodup := by
  have texts := distinct.sublist (safe_names interpreter returned)
  have split : (nested.map fun entry => (Key.text entry.1 : Key Object)) =
      (nested.map Prod.fst).map Key.text := by
    rw [List.map_map]
    rfl
  rw [split] at texts
  exact texts.of_map

mutual

theorem safeValue_erased : ∀ value : Value Object,
    safeValue interpreter (erase isSafe value) = safeValue interpreter value
  | .leaf _ => rfl
  | .mapping entries => by rw [erase, safeValue, safeValue, safeEntries_erased entries]
  | .items _ values => by rw [erase, safeValue, safeValue, safeItems_erased values]

theorem safeEntries_erased : ∀ entries : Entries Object,
    safeEntries interpreter (eraseEntries isSafe entries) = safeEntries interpreter entries
  | [] => rfl
  | (key, item) :: rest => by
    rw [eraseEntries, safeEntries_cons, ← safeEntries_erased rest]
    cases safe : safeName key with
    | none =>
      have drops : ¬ isSafe key = true := by rw [isSafe, safe]; decide
      have skipped : safeEntry interpreter key item = .ok [] := by rw [safeEntry, safe]
      rw [if_neg drops, skipped, both_nil]
    | some name =>
      have keeps : isSafe key = true := by rw [isSafe, safe]; rfl
      have here : safeEntry interpreter key (erase isSafe item) =
          safeEntry interpreter key item := by
        rw [safeEntry, safeEntry, safeValue_erased item]
      rw [if_pos keeps, safeEntries_cons, here]

theorem safeItems_erased : ∀ values : List (Value Object),
    safeItems interpreter (eraseItems isSafe values) = safeItems interpreter values
  | [] => rfl
  | item :: rest => by
    have here : safeItem interpreter (erase isSafe item) = safeItem interpreter item := by
      cases item with
      | leaf a => rfl
      | mapping entries => rw [erase, safeItem, safeItem, safeEntries_erased entries]
      | items kind values =>
        have dumped := safeValue_erased (.items kind values)
        exact congrArg (Except.map _) dumped
    rw [eraseItems, safeItems_cons, safeItems_cons, here, safeItems_erased rest]

end

theorem safeFields_erased (fields : Fields Object) :
    safeFields interpreter fields.erase = safeFields interpreter fields :=
  safeEntries_erased interpreter fields.entries

/-- Items that are dumped as the same texts. -/
abbrev SameTexts : Except DumpError (List Item) → Except DumpError (List Item) → Prop :=
  Alike fun xs ys => xs.map (compactItem interpreter) = ys.map (compactItem interpreter)

theorem same_texts_append {a b c d : List Item}
    (first : a.map (compactItem interpreter) = b.map (compactItem interpreter))
    (second : c.map (compactItem interpreter) = d.map (compactItem interpreter)) :
    (a ++ c).map (compactItem interpreter) = (b ++ d).map (compactItem interpreter) := by
  rw [List.map_append, List.map_append, first, second]

theorem same_texts_of_eq {x y : Except DumpError (List Item)} (same : x = y) :
    SameTexts interpreter x y := by
  rw [same]
  apply alike_refl
  intro items
  rfl

section
variable {xs ys : Entries Object} (distinct : (xs.map Prod.fst).Nodup)
  (same : SameEntries (safeEntries interpreter xs) (safeEntries interpreter ys))
include distinct same

theorem same_mapping :
    safeValue interpreter (.mapping xs : Value Object) = safeValue interpreter (.mapping ys) := by
  rw [safeValue, safeValue]
  rcases alike_cases same with ⟨e, left, right⟩ | ⟨nested, other, left, right, order⟩
  · rw [left, right]
  · have object := compactObject_perm interpreter order (names_distinct interpreter left distinct)
    rw [left, right]
    exact congrArg (Except.map fun text => some (Scalar.text text)) object

theorem same_filtered :
    SameTexts interpreter (safeItem interpreter (.mapping xs : Value Object))
      (safeItem interpreter (.mapping ys)) := by
  rw [safeItem, safeItem]
  rcases alike_cases same with ⟨e, left, right⟩ | ⟨nested, other, left, right, order⟩
  · rw [left, right]
    exact .fails e
  · have object := compactObject_perm interpreter order (names_distinct interpreter left distinct)
    rw [left, right]
    exact .returns (congrArg (fun text => [text]) object)

end

theorem same_items (kind : Collection) {xs ys : List (Value Object)}
    (same : SameTexts interpreter (safeItems interpreter xs) (safeItems interpreter ys)) :
    safeValue interpreter (.items kind xs : Value Object) =
      safeValue interpreter (.items kind ys) := by
  rw [safeValue, safeValue]
  rcases alike_cases same with ⟨e, left, right⟩ | ⟨nested, other, left, right, texts⟩
  · rw [left, right]
  · have list := compactList_congr interpreter texts
    rw [left, right]
    exact congrArg (Except.map fun text => some (Scalar.text text)) list

mutual

theorem safeValue_agree : ∀ {x y : Value Object}, Agree x y → Proper x →
    safeValue interpreter x = safeValue interpreter y
  | _, _, .leaf _, _ => rfl
  | _, _, .mapping entries, proper =>
    same_mapping interpreter proper.1 (safeEntries_agree entries proper.2)
  | _, _, .items kind values, proper =>
    same_items interpreter kind (safeItems_agree values proper)

theorem safeEntries_agree : ∀ {xs ys : Entries Object}, AgreeEntries xs ys → ProperEntries xs →
    SameEntries (safeEntries interpreter xs) (safeEntries interpreter ys)
  | _, _, .nil, _ => alike_refl List.Perm.refl _
  | _, _, @AgreeEntries.cons _ _ _ key x y _ before after value rest, proper => by
    have here : safeEntry interpreter key x = safeEntry interpreter key y := by
      rw [safeEntry, safeEntry, safeValue_agree value proper.1]
    have later := safeEntries_agree rest proper.2
    rw [safeEntries_cons, here]
    exact same_trans (alike_both List.Perm.append (alike_refl List.Perm.refl _) later)
      (safeEntries_middle interpreter key y before after)

theorem safeItems_agree : ∀ {xs ys : List (Value Object)}, AgreeItems xs ys → ProperItems xs →
    SameTexts interpreter (safeItems interpreter xs) (safeItems interpreter ys)
  | _, _, .nil, _ => same_texts_of_eq interpreter rfl
  | _, _, @AgreeItems.cons _ _ _ x y _ _ value rest, proper => by
    have here : SameTexts interpreter (safeItem interpreter x) (safeItem interpreter y) := by
      cases value with
      | leaf a => exact same_texts_of_eq interpreter rfl
      | mapping entries =>
        exact same_filtered interpreter proper.1.1 (safeEntries_agree entries proper.1.2)
      | items kind values =>
        have dumped := same_items interpreter kind (safeItems_agree values proper.1)
        exact same_texts_of_eq interpreter (congrArg (Except.map _) dumped)
    rw [safeItems_cons, safeItems_cons]
    exact alike_both (same_texts_append interpreter) here (safeItems_agree rest proper.2)

end

end

/-- Nothing under another key, at whatever depth, has any influence on what is sent. -/
theorem only_safe_fields_are_sent (interpreter : Interpreter) (a b : Fields Object)
    (agree : a.erase.Agree b.erase) :
    SameEntries (safeFields interpreter a) (safeFields interpreter b) := by
  rw [← safeFields_erased interpreter a, ← safeFields_erased interpreter b]
  exact safeEntries_agree interpreter agree a.erase.proper

def text (s : String) : Value Nat := .leaf (.scalar (.text (str s)))

def written : Fields Nat where
  entries :=
    [(.text (str "prompt"), text "key"), (.text (str "worker_id"), text "w"),
      (.text (str "files_written"), .items .list
        [.mapping [(.text (str "task_id"), text "7"), (.text (str "content"), text "secret")]])]
  distinct := by decide
  proper := ⟨trivial, trivial, ⟨⟨by decide, trivial, trivial, trivial⟩, trivial⟩, trivial⟩

def writtenFirst : Fields Nat where
  entries :=
    [(.text (str "files_written"), .items .list
        [.mapping [(.text (str "content"), text "plain"), (.text (str "task_id"), text "7")]]),
      (.text (str "worker_id"), text "w")]
  distinct := by decide
  proper := ⟨⟨⟨by decide, trivial, trivial, trivial⟩, trivial⟩, trivial, trivial⟩

def cpython : Interpreter := ⟨4300, fun _ => str "0.0"⟩

theorem prompt_is_not_sent :
    SameEntries (safeFields cpython written) (safeFields cpython writtenFirst) := by
  have kept : written.erase.entries =
      [(.text (str "worker_id"), text "w"), (.text (str "files_written"),
        .items .list [.mapping [(.text (str "task_id"), text "7")]])] := by rfl
  have other : writtenFirst.erase.entries =
      [(.text (str "files_written"), .items .list [.mapping [(.text (str "task_id"), text "7")]]),
        (.text (str "worker_id"), text "w")] := by rfl
  apply only_safe_fields_are_sent
  unfold Fields.Agree
  rw [kept, other]
  exact @AgreeEntries.cons _ _ _ _ _ _ _ [_] [] (agree_refl _) (agree_entries_refl _)

end AgentShield.Telemetry
