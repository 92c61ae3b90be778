import AgentShield.Telemetry.Sentry

/-!
The last scrubber before a payload leaves (`telemetry/sentry.py`): what of a payload and
of a log it lets out.
-/
namespace AgentShield.Telemetry
open CodePoints JsonText Nested

def sensitiveKeys : List Str :=
  ["api_key", "apikey", "authorization", "body", "completion", "content", "cookie", "data",
    "file_contents", "messages", "password", "prompt", "refresh_token", "repository_contents",
    "request_body", "response_body", "secret", "source_code"].map str

def sensitiveEndings : List Str :=
  ["_api_key", "_authorization", "_password", "_secret", "_token"].map str

def isSensitiveKey (key : Str) : Bool :=
  sensitiveKeys.contains key || sensitiveEndings.any fun ending => ending.isSuffixOf key

def structuredLogNames : List Str :=
  ["security.policy_violation", "security.tool_denied", "security.agent_quarantined",
    "swarm.task_reassigned", "swarm.replacement_started", "developer.regression_failed",
    "developer.patch_applied", "swarm.tests_passed", "swarm.recovery_complete"].map str

/- A lone surrogate has no other case. -/
def lowerPoint (c : CodePoint) : Str :=
  if high c || low c then [c] else (Text.lowerChar (Char.ofNat c.val)).map ofChar

def lower (s : Str) : Str := s.flatMap lowerPoint

def normalized (s : Str) : Str :=
  (lower s).map fun c => if c = ofChar '-' then ofChar '_' else c

def filtered : Str := str "[Filtered]"

/- `isinstance(value, list)`, `isinstance(value, tuple)`; a set is left as it is. -/
def Collection.scrubbed : Collection → Bool
  | .list | .tuple => true
  | .set | .frozenset => false

variable {Object : Type}

section
/- `str` of a key that is no text, and whether an object has a hash. -/
variable (spelled : Object → Str) (hashes : Object → Bool)

def sensitive : Key Object → Bool
  | .text name => isSensitiveKey (normalized name)
  | .other object => isSensitiveKey (normalized (spelled object))

def covered : Leaf Object := .scalar (.text filtered)

/-- `_scrub_payload`. -/
def scrubPayload : Value Object → Value Object :=
  mask (sensitive spelled) Collection.scrubbed covered

def scrubEntries : Entries Object → Entries Object :=
  maskEntries (sensitive spelled) Collection.scrubbed covered

/-- `_before_send`. -/
def beforeSend (event : Value Object) : Value Object := scrubPayload spelled event

mutual

def hashable : Value Object → Bool
  | .leaf (.scalar _) => true
  | .leaf (.other object) => hashes object
  | .mapping _ => false
  | .items .tuple values => hashableItems values
  | .items .frozenset _ => true
  | .items .list _ => false
  | .items .set _ => false

def hashableItems : List (Value Object) → Bool
  | [] => true
  | value :: rest => hashable value && hashableItems rest

end

/- Whether `body in STRUCTURED_LOG_NAMES` raises no `TypeError`: a set without a hash is
   looked up as the `frozenset` of its items. -/
def lookable : Value Object → Bool
  | .items .set _ => true
  | value => hashable hashes value

def bodyKey : Key Object := .text (str "body")

end

def bodyEntry [DecidableEq Object] (log : Entries Object) : Option (Value Object) :=
  (log.find? fun entry => entry.1 = bodyKey).map Prod.snd

def body [DecidableEq Object] (log : Entries Object) : Value Object :=
  (bodyEntry log).getD (.leaf (.scalar .null))

def structuredName : Value Object → Option Str
  | .leaf (.scalar (.text name)) =>
    if structuredLogNames.contains name then some name else none
  | _ => none

def setBody [DecidableEq Object] (value : Value Object) (log : Entries Object) :
    Entries Object :=
  log.map fun entry => if entry.1 = bodyKey then (entry.1, value) else entry

inductive LogError where
  | unhashable
  deriving DecidableEq

/-- `_before_send_log`. -/
def beforeSendLog [DecidableEq Object] (spelled : Object → Str) (hashes : Object → Bool)
    (log : Entries Object) : Except LogError (Entries Object) :=
  let scrubbed := scrubEntries spelled log
  if lookable hashes (body log) then
    match structuredName (body log) with
    | some name => .ok (setBody (.leaf (.scalar (.text name))) scrubbed)
    | none => .ok scrubbed
  else .error .unhashable

/-- The scrubber is exact: two payloads are sent as one and the same when and only when
    they coincide outside the sensitive keys, and to scrub twice is to scrub once. -/
theorem scrubbed_payloads (spelled : Object → Str) (a b : Value Object) :
    (beforeSend spelled a = beforeSend spelled b ↔
      Coincide (sensitive spelled) Collection.scrubbed a b) ∧
    beforeSend spelled (beforeSend spelled a) = beforeSend spelled a :=
  ⟨mask_iff a b, mask_mask a⟩

theorem structuredName_text {name : Str} {value : Value Object}
    (told : structuredName value = some name) :
    value = .leaf (.scalar (.text name)) ∧ name ∈ structuredLogNames := by
  unfold structuredName at told
  split at told
  · split at told
    · rename_i member
      obtain rfl := Option.some.inj told
      exact ⟨rfl, List.contains_iff_mem.mp member⟩
    · cases told
  · cases told

theorem body_sensitive (spelled : Object → Str) : sensitive spelled bodyKey = true := by
  have here : isSensitiveKey (normalized (str "body")) = true := by decide
  exact here

section
variable [DecidableEq Object] {spelled : Object → Str}

theorem bodyEntry_cons (key : Key Object) (value : Value Object) (log : Entries Object) :
    bodyEntry ((key, value) :: log) = if key = bodyKey then some value else bodyEntry log := by
  by_cases here : key = bodyKey <;> simp [bodyEntry, here]

theorem setBody_cons (key : Key Object) (value body : Value Object) (log : Entries Object) :
    setBody body ((key, value) :: log) =
      (key, if key = bodyKey then body else value) :: setBody body log := by
  by_cases here : key = bodyKey <;> simp [setBody, here]

theorem bodyEntry_set (value : Value Object) (log : Entries Object) :
    bodyEntry (setBody value log) = (bodyEntry log).map fun _ => value := by
  induction log with
  | nil => rfl
  | cons entry log ih =>
    rw [setBody_cons, bodyEntry_cons, bodyEntry_cons]
    by_cases here : entry.1 = bodyKey <;> simp [here, ih]

theorem bodyEntry_scrubbed (log : Entries Object) :
    bodyEntry (scrubEntries spelled log) = (bodyEntry log).map fun _ => .leaf covered := by
  induction log with
  | nil => rfl
  | cons entry log ih =>
    rw [scrubEntries, maskEntries, bodyEntry_cons, bodyEntry_cons, ← scrubEntries]
    by_cases here : entry.1 = bodyKey
    · simp [here, body_sensitive]
    · simp [here, ih]

theorem setBody_set (value other : Value Object) (log : Entries Object) :
    setBody value (setBody other log) = setBody value log := by
  induction log with
  | nil => rfl
  | cons entry log ih =>
    rw [setBody_cons, setBody_cons, setBody_cons, ih]
    by_cases here : entry.1 = bodyKey <;> simp [here]

theorem setBody_scrubbed (log : Entries Object) :
    setBody (.leaf covered) (scrubEntries spelled log) = scrubEntries spelled log := by
  induction log with
  | nil => rfl
  | cons entry log ih =>
    rw [scrubEntries, maskEntries, setBody_cons, ← scrubEntries, ih]
    by_cases here : entry.1 = bodyKey
    · simp [here, body_sensitive]
    · simp [here]

theorem scrubEntries_set (value : Value Object) (log : Entries Object) :
    scrubEntries spelled (setBody value log) = scrubEntries spelled log := by
  induction log with
  | nil => rfl
  | cons entry log ih =>
    rw [setBody_cons, scrubEntries, maskEntries, maskEntries, ← scrubEntries, ih]
    by_cases here : entry.1 = bodyKey <;> simp [here, body_sensitive]

/- The log as it is sent, given the name its body is, if it is one. -/
def sent (spelled : Object → Str) (log : Entries Object) : Option Str → Entries Object
  | none => scrubEntries spelled log
  | some name => setBody (.leaf (.scalar (.text name))) (scrubEntries spelled log)

theorem beforeSendLog_eq (hashes : Object → Bool) (log : Entries Object) :
    beforeSendLog spelled hashes log = if lookable hashes (body log) then
      .ok (sent spelled log (structuredName (body log))) else .error .unhashable := by
  unfold beforeSendLog sent
  cases structuredName (body log) <;> rfl

theorem sent_covered (log : Entries Object) (name : Option Str) :
    setBody (.leaf covered) (sent spelled log name) = scrubEntries spelled log := by
  cases name with
  | none => exact setBody_scrubbed log
  | some name =>
    rw [sent, setBody_set]
    exact setBody_scrubbed log

theorem sent_sent (log : Entries Object) (name : Option Str) :
    sent spelled (sent spelled log name) name = sent spelled log name := by
  have twice : scrubEntries spelled (scrubEntries spelled log) = scrubEntries spelled log :=
    maskEntries_coincide (maskEntries_coincide_self log)
  cases name with
  | none => exact twice
  | some name => simp only [sent, scrubEntries_set, twice]

theorem body_sent (hashes : Object → Bool) {log : Entries Object} {name : Option Str}
    (told : structuredName (body log) = name) :
    structuredName (body (sent spelled log name)) = name ∧
      lookable hashes (body (sent spelled log name)) = true := by
  cases name with
  | none =>
    have hidden : filtered ∉ structuredLogNames := by decide
    rw [body, sent, bodyEntry_scrubbed]
    cases bodyEntry log <;> simp [structuredName, covered, hidden, lookable, hashable]
  | some name =>
    obtain ⟨here, member⟩ := structuredName_text told
    rw [body, sent, bodyEntry_set, bodyEntry_scrubbed]
    rw [body] at here
    cases found : bodyEntry log with
    | none => simp [found] at here
    | some value => simp [structuredName, member, lookable, hashable]

end

def eventName : Str := str "event.name"

/- `{"event.name": name, **safe_fields}` under "attributes". -/
def attributesKey : Key Object := .text (str "attributes")

def attributesOf (name : Str) (safe : List (Str × Scalar)) : Value Object :=
  .mapping ((.text eventName, .leaf (.scalar (.text name))) ::
    safe.map fun field => (.text field.1, .leaf (.scalar field.2)))

theorem safe_not_sensitive : ∀ name ∈ str "attributes" :: eventName :: safeFieldNames,
    isSensitiveKey (normalized name) = false := by
  have all : (str "attributes" :: eventName :: safeFieldNames).all
      (fun name => !isSensitiveKey (normalized name)) = true := by decide
  intro name member
  simpa using List.all_eq_true.mp all name member

theorem safeEntries_names (interpreter : Interpreter) {entries : Entries Object} :
    ∀ {safe : List (Str × Scalar)}, safeEntries interpreter entries = .ok safe →
      ∀ field ∈ safe, field.1 ∈ safeFieldNames := by
  induction entries with
  | nil =>
    intro safe read field member
    simp only [safeEntries, Except.ok.injEq] at read
    simp [← read] at member
  | cons entry entries ih =>
    intro safe read field member
    obtain ⟨key, item⟩ := entry
    rw [safeEntries] at read
    cases named : safeName key with
    | none => exact ih (by simpa [named] using read) field member
    | some name =>
      simp only [named] at read
      cases value : safeValue interpreter item with
      | error e => simp [value, bind, Except.bind] at read
      | ok scrubbed =>
        cases rest : safeEntries interpreter entries with
        | error e => simp [value, rest, bind, Except.bind] at read
        | ok nested =>
          simp only [value, rest, bind, Except.bind, pure, Except.pure, Except.ok.injEq] at read
          subst read
          rcases List.mem_append.mp member with here | later
          · have allowed : name ∈ safeFieldNames := by
              cases key with
              | text s =>
                simp only [safeName] at named
                split at named <;> simp_all
              | other object => simp [safeName] at named
            cases scrubbed with
            | none => simp at here
            | some s =>
              obtain rfl : field = (name, s) := by simpa using here
              exact allowed
          · exact ih rest field later

theorem attributes_kept (spelled : Object → Str) (name : Str) {safe : List (Str × Scalar)}
    (allowed : ∀ field ∈ safe, field.1 ∈ safeFieldNames) :
    scrubPayload spelled (attributesOf name safe) = attributesOf name safe := by
  have kept : ∀ fields : List (Str × Scalar),
      (∀ field ∈ fields, field.1 ∈ eventName :: safeFieldNames) →
      scrubEntries spelled (fields.map fun field => (.text field.1, .leaf (.scalar field.2))) =
        fields.map fun field => (.text field.1, .leaf (.scalar field.2)) := by
    intro fields
    induction fields with
    | nil => intro _; rfl
    | cons field fields ih =>
      intro allowed
      have shown : sensitive spelled (.text field.1) = false :=
        safe_not_sensitive field.1 (List.mem_cons_of_mem _ (allowed field (by simp)))
      rw [List.map_cons, scrubEntries, maskEntries, ← scrubEntries,
        ih fun other member => allowed other (List.mem_cons_of_mem _ member)]
      simp [shown, mask]
  have whole := kept ((eventName, .text name) :: safe) (by
    intro field member
    rcases List.mem_cons.mp member with rfl | member
    · simp
    · exact List.mem_cons_of_mem _ (allowed field member))
  exact congrArg Nested.Value.mapping whole

/-- Of a log, what is outside the sensitive keys is sent, and the body when it is one of the
    structured names; a sent log passes again as it is, and the attributes of `log_event`
    pass as they are. -/
theorem sent_logs [DecidableEq Object] (spelled : Object → Str) (hashes : Object → Bool)
    (a b x y : Entries Object) (first : beforeSendLog spelled hashes a = .ok x)
    (second : beforeSendLog spelled hashes b = .ok y) :
    (x = y ↔ CoincideEntries (sensitive spelled) Collection.scrubbed a b ∧
      structuredName (body a) = structuredName (body b)) ∧
    beforeSendLog spelled hashes x = .ok x ∧
    ∀ interpreter (fields : Fields Object) safe name,
      safeFields interpreter fields = .ok safe →
      (attributesKey, attributesOf name safe) ∈ a →
      (attributesKey, attributesOf name safe) ∈ x := by
  have ok : ∀ {log z}, beforeSendLog spelled hashes log = .ok z →
      z = sent spelled log (structuredName (body log)) := by
    intro log z read
    rw [beforeSendLog_eq] at read
    split at read
    · exact (Except.ok.inj read).symm
    · cases read
  obtain rfl := ok first
  obtain rfl := ok second
  refine ⟨⟨fun same => ?_, fun ⟨coincide, told⟩ => ?_⟩, ?_, ?_⟩
  · have scrubbed := congrArg (setBody (.leaf covered)) same
    rw [sent_covered, sent_covered] at scrubbed
    have told := congrArg (fun log => structuredName (body log)) same
    simp only [(body_sent hashes rfl).1] at told
    exact ⟨(maskEntries_iff a b).mp scrubbed, told⟩
  · have scrubbed : scrubEntries spelled a = scrubEntries spelled b :=
      maskEntries_coincide coincide
    rw [told]
    cases structuredName (body b) <;> simp only [sent, scrubbed]
  · obtain ⟨told, hashed⟩ := @body_sent _ _ spelled hashes a _ rfl
    rw [beforeSendLog_eq, if_pos hashed, told, sent_sent]
  · intro interpreter fields safe name read member
    have allowed := safeEntries_names interpreter read
    have shown : sensitive spelled (attributesKey : Key Object) = false :=
      safe_not_sensitive _ (by simp)
    have inside : (attributesKey, attributesOf name safe) ∈ scrubEntries spelled a := by
      have entry : (attributesKey, scrubPayload spelled (attributesOf name safe)) ∈
          scrubEntries spelled a := shown_entry member shown
      rwa [attributes_kept spelled name allowed] at entry
    cases structuredName (body a) with
    | none => exact inside
    | some told =>
      have apart : (attributesKey : Key Object) ≠ bodyKey := by
        have texts : str "attributes" ≠ str "body" := by decide
        simpa [attributesKey, bodyKey] using texts
      exact List.mem_map.mpr ⟨_, inside, if_neg apart⟩

def denied (password : String) : Entries Nat :=
  [(bodyKey, .leaf (.scalar (.text (str "security.tool_denied")))),
    (.text (str "password"), .leaf (.scalar (.text (str password))))]

theorem passwords_are_not_sent :
    sent (fun _ => []) (denied "one") (some (str "security.tool_denied")) =
      sent (fun _ => []) (denied "another") (some (str "security.tool_denied")) := by
  have secret : sensitive (fun _ : Nat => []) (.text (str "password")) = true := by decide
  have coincide : CoincideEntries (sensitive fun _ => []) Collection.scrubbed (denied "one")
      (denied "another") :=
    .hidden (body_sensitive _) _ _ (.hidden secret _ _ .nil)
  exact (sent_logs (fun _ => []) (fun _ => true) (denied "one") (denied "another") _ _
    rfl rfl).1.mpr ⟨coincide, rfl⟩

end AgentShield.Telemetry
