import AgentShield.Client.IncidentStory
import AgentShield.Client.TestReport
import AgentShield.Client.Verdict
import AgentShield.Lib.Binary64
import AgentShield.Lib.Comparator
import AgentShield.Lib.Grouping

/-!
Which model answered, as the screen reads it off the events it holds, against the calls the
session took: every call of these is counted once, for its worker and for its model.
-/
namespace AgentShield.Client.Provenance
open Schema Events Keyed Grouping Coop Session LiveRuntimeSession Routes Resources Binary64

structure ModelProvenance where
  model : String
  provider : String
  endpointHost : String
  route : String
  fallbackUsed : Bool
  calls : Nat
  latencyMs : Double
  deriving DecidableEq

/- Each pattern is one domain, alone or after a dot, in any case. -/
def hostLabel : List (List String × String) :=
  [(["openrouter.ai"], "OpenRouter"), (["runpod.ai", "runpod.io"], "RunPod"),
    (["api.openai.com"], "OpenAI"), (["anthropic.com"], "Anthropic")]

def within (endpointHost domain : String) : Bool :=
  let folded := endpointHost.toList.map Char.toLower
  folded = domain.toList || ('.' :: domain.toList).isSuffixOf folded

def providerLabel (endpointHost : String) : String :=
  match hostLabel.find? fun (domains, _) => domains.any (within endpointHost) with
  | some (_, label) => label
  | none => endpointHost

def str (value : Option JsonValue) : String :=
  match value with
  | some (.str text) => text
  | _ => ""

def finiteOrZero : Double → Double
  | .finite q => .finite q
  | .infinite _ => .finite 0
  | .nan => .finite 0

def num (value : Option JsonValue) : Double :=
  match value with
  | some (.int n) => finiteOrZero (.of n)
  | some (.float q) => finiteOrZero (.of q)
  | _ => .finite 0

structure FallbackRoute where
  workerId : String
  route : String
  deriving DecidableEq

structure Derivation where
  byWorker : Groups String ModelProvenance
  distinct : Groups String ModelProvenance
  calls : Nat

def ModelProvenance.later (prev entry : ModelProvenance) : ModelProvenance :=
  { entry with
    calls := prev.calls + 1
    latencyMs := prev.latencyMs.plus entry.latencyMs
    fallbackUsed := prev.fallbackUsed || entry.fallbackUsed }

def ModelProvenance.seenAgain (seen entry : ModelProvenance) : ModelProvenance :=
  { seen with
    calls := seen.calls + 1
    latencyMs := seen.latencyMs.plus entry.latencyMs
    fallbackUsed := seen.fallbackUsed || entry.fallbackUsed }

def ModelProvenance.key (entry : ModelProvenance) : String :=
  entry.model ++ "@" ++ entry.endpointHost

def Derivation.count (d : Derivation) (agentId : Option String) (entry : ModelProvenance) :
    Derivation :=
  { byWorker :=
      match truthy agentId with
      | none => d.byWorker
      | some workerId =>
        gather Prod.fst Prod.snd (fun prev next => prev.later next.2) d.byWorker (workerId, entry)
    distinct := gather ModelProvenance.key id ModelProvenance.seenAgain d.distinct entry
    calls := d.calls + 1 }

def derive (d : Derivation) (event : Event) : Derivation :=
  if event.eventType ≠ .modelRequested then d
  else
    let model := str (metadataGet event.metadata "model")
    let endpointHost := str (metadataGet event.metadata "endpoint_host")
    if model = "" ∧ endpointHost = "" then d
    else
      d.count event.agentId
        { model
          provider := providerLabel endpointHost
          endpointHost
          route := str (metadataGet event.metadata "provider_route")
          fallbackUsed := metadataGet event.metadata "fallback_used" = some (.bool true)
          calls := 1
          latencyMs := num (metadataGet event.metadata "latency_ms") }

structure ProvenanceIndex where
  byWorker : Groups String ModelProvenance
  fallbacks : List FallbackRoute
  distinct : List ModelProvenance
  primary : Option ModelProvenance
  calls : Nat

def byCalls (a b : ModelProvenance) : Int := b.calls - a.calls

def Derivation.index (d : Derivation) : ProvenanceIndex :=
  let ranked := Comparator.sort byCalls (d.distinct.values.map Prod.snd)
  { byWorker := d.byWorker
    fallbacks := (d.byWorker.values.filter fun row => row.2.fallbackUsed).map
      fun row => ⟨row.1, row.2.route⟩
    distinct := ranked
    primary := ranked.head?
    calls := d.calls }

def noCalls : Derivation := ⟨Table.empty, Table.empty, 0⟩

def deriveProvenance (events : List Event) : ProvenanceIndex := (events.foldl derive noCalls).index

abbrev Call := String × ModelCall

def Named (call : Call) : Prop := ¬ (call.2.model = "" ∧ call.2.endpointHost = "")

instance : DecidablePred Named := fun call =>
  inferInstanceAs (Decidable (¬ (call.2.model = "" ∧ call.2.endpointHost = "")))

def entry (call : Call) : ModelProvenance :=
  { model := call.2.model
    provider := providerLabel call.2.endpointHost
    endpointHost := call.2.endpointHost
    route := call.2.providerRoute
    fallbackUsed := call.2.fallbackUsed
    calls := 1
    latencyMs := num (some (.int call.2.latencyMs)) }

/-- What a request adds to the calls the session has taken. -/
def taken (s : LiveRuntimeSession) : Request → List Call
  | .recordModelCall workerId call =>
    match s.workers.get? workerId with
    | some w => if w.isActive then [(workerId, call)] else []
    | none => []
  | _ => []

def takenCalls (disk : Disk) (root : Path) : LiveRuntimeSession → List Request → List Call
  | _, [] => []
  | s, request :: rest =>
    taken s request ++ takenCalls disk root (exec (handle disk root request) s) rest

def requestedEvents (log : List Event) : List Event :=
  log.filter fun event => event.eventType = .modelRequested

def Keeps (event : Event) (call : Call) : Prop :=
  event.eventType = .modelRequested ∧ event.agentId = some call.1 ∧
    event.metadata = call.2.metadata

theorem foldl_requested (log : List Event) (d : Derivation) :
    log.foldl derive d = (requestedEvents log).foldl derive d := by
  induction log generalizing d with
  | nil => rfl
  | cons event log ih =>
    by_cases requested : event.eventType = .modelRequested
    · simp [requestedEvents, requested, ih]
    · have skipped : derive d event = d := by simp [derive, requested]
      simp [requestedEvents, requested, skipped, ih]

theorem metadata_read (call : ModelCall) :
    metadataGet call.metadata "model" = some (.str call.model) ∧
      metadataGet call.metadata "endpoint_host" = some (.str call.endpointHost) ∧
      metadataGet call.metadata "provider_route" = some (.str call.providerRoute) ∧
      metadataGet call.metadata "fallback_used" = some (.bool call.fallbackUsed) ∧
      metadataGet call.metadata "latency_ms" = some (.int call.latencyMs) := by
  simp [metadataGet, ModelCall.metadata]

theorem derive_kept {event : Event} {call : Call} (keeps : Keeps event call) (d : Derivation) :
    derive d event = if Named call then d.count (some call.1) (entry call) else d := by
  obtain ⟨type, agent, metadata⟩ := keeps
  obtain ⟨model, host, route, fallback, latency⟩ := metadata_read call.2
  by_cases named : Named call
  · have told : ¬ (call.2.model = "" ∧ call.2.endpointHost = "") := named
    simp [derive, type, agent, metadata, model, host, route, fallback, latency, named, told, str,
      entry]
  · have blank : call.2.model = "" ∧ call.2.endpointHost = "" := not_not.mp named
    simp [derive, type, metadata, model, host, named, blank, str]

theorem foldl_kept {events : List Event} {calls : List Call}
    (kept : List.Forall₂ Keeps events calls) (d : Derivation) :
    events.foldl derive d =
      (calls.filter Named).foldl (fun d call => d.count (some call.1) (entry call)) d := by
  induction kept generalizing d with
  | nil => rfl
  | @cons event call events calls keeps kept ih =>
    rw [List.foldl_cons, derive_kept keeps, ih]
    by_cases named : Named call <;> simp [named]

def Attributed (call : Call) : Prop := call.1 ≠ ""

instance : DecidablePred Attributed := fun call => inferInstanceAs (Decidable (call.1 ≠ ""))

def workerRows : List Call → Groups String ModelProvenance :=
  Grouping.group Prod.fst entry fun prev call => prev.later (entry call)

def modelRows : List Call → Groups String ModelProvenance :=
  Grouping.group (fun call => (entry call).key) entry fun seen call => seen.seenAgain (entry call)

theorem count_fold (calls : List Call) :
    calls.foldl (fun d call => d.count (some call.1) (entry call)) noCalls =
      ⟨workerRows (calls.filter Attributed), modelRows calls, calls.length⟩ := by
  induction calls using List.reverseRecOn with
  | nil => rfl
  | append_singleton calls last ih =>
    rw [List.foldl_append, List.foldl_cons, List.foldl_nil, ih, List.filter_append,
      List.length_append, modelRows, group_concat]
    by_cases attributed : Attributed last
    · have worker : truthy (some last.1) = some last.1 := truthy_text attributed
      have kept : [last].filter Attributed = [last] := by simp [attributed]
      rw [kept, workerRows, group_concat, Derivation.count, worker]
      rfl
    · have worker : truthy (some last.1) = none := by rw [not_not.mp attributed]; rfl
      have dropped : [last].filter Attributed = [] := by simp [attributed]
      rw [dropped, List.append_nil, Derivation.count, worker]
      rfl

def counted (calls : List Call) : Derivation :=
  ⟨workerRows ((calls.filter Named).filter Attributed), modelRows (calls.filter Named),
    (calls.filter Named).length⟩

theorem derived {log : List Event} {calls : List Call}
    (kept : List.Forall₂ Keeps (requestedEvents log) calls) :
    deriveProvenance log = (counted calls).index := by
  rw [deriveProvenance, foldl_requested, foldl_kept kept, count_fold]
  rfl

def total : List Call → Double
  | [] => .finite 0
  | first :: rest =>
    rest.foldl (fun sum call => sum.plus (entry call).latencyMs) (entry first).latencyMs

theorem total_concat {own : List Call} (inhabited : own ≠ []) (last : Call) :
    total (own ++ [last]) = (total own).plus (entry last).latencyMs := by
  cases own with
  | nil => exact absurd rfl inhabited
  | cons first rest => exact List.foldl_concat _ _ _ _

theorem latency_exact {call : Call} (small : call.2.latencyMs < 2 ^ 53) :
    (entry call).latencyMs = .finite call.2.latencyMs := by
  have read : (entry call).latencyMs = finiteOrZero (.of ((call.2.latencyMs : ℤ) : ℚ)) := rfl
  rw [read, Int.cast_natCast, Double.of_nat small, finiteOrZero]

/-- It is exact as long as it needs no more than 53 binary digits. -/
theorem total_exact {own : List Call}
    (small : (own.map fun call => call.2.latencyMs).sum < 2 ^ 53) :
    total own = .finite ((own.map fun call => call.2.latencyMs).sum : ℕ) := by
  induction own using List.reverseRecOn with
  | nil => rfl
  | append_singleton own last ih =>
    rw [List.map_append, List.sum_append, List.map_singleton, List.sum_singleton] at small ⊢
    by_cases inhabited : own = []
    · subst inhabited
      simpa [total] using latency_exact (Nat.lt_of_le_of_lt (Nat.le_add_left _ _) small)
    · rw [total_concat inhabited, ih (Nat.lt_of_le_of_lt (Nat.le_add_right _ _) small),
        latency_exact (Nat.lt_of_le_of_lt (Nat.le_add_left _ _) small), Double.plus_nat small]

/-- The row of some calls, under the identity of one of them. -/
def row (identity : Call) (own : List Call) : ModelProvenance :=
  { entry identity with
    fallbackUsed := own.any fun call => call.2.fallbackUsed
    calls := own.length
    latencyMs := total own }

theorem combined_last (own : List Call) :
    combined entry (fun prev call => prev.later (entry call)) own =
      own.getLast?.map fun last => row last own := by
  induction own using List.reverseRecOn with
  | nil => rfl
  | append_singleton own last ih =>
    rw [combined_concat, ih, List.getLast?_concat]
    cases found : own.getLast? with
    | none =>
      obtain rfl := List.getLast?_eq_none_iff.mp found
      simp [row, entry, total]
    | some _ =>
      have inhabited : own ≠ [] := by
        rintro rfl
        cases found
      simp [row, entry, ModelProvenance.later, total_concat inhabited]

theorem combined_first (own : List Call) :
    combined entry (fun seen call => seen.seenAgain (entry call)) own =
      own.head?.map fun first => row first own := by
  induction own using List.reverseRecOn with
  | nil => rfl
  | append_singleton own last ih =>
    rw [combined_concat, ih]
    cases own with
    | nil => simp [row, entry, total]
    | cons first own =>
      have inhabited : first :: own ≠ [] := List.cons_ne_nil _ _
      have more : total (first :: (own ++ [last])) =
          (total (first :: own)).plus (entry last).latencyMs := total_concat inhabited last
      simp only [row, ModelProvenance.seenAgain, List.head?_cons, Option.map_some, more,
        List.cons_append, List.any_cons, List.any_append, List.any_nil, Bool.or_false,
        Bool.or_assoc, List.length_cons, List.length_append, List.length_nil]
      rfl

def ownCalls (calls : List Call) (workerId : String) : List Call :=
  (calls.filter Named).filter fun call => call.1 = workerId

def callsOf (calls : List Call) (key : String) : List Call :=
  (calls.filter Named).filter fun call => (entry call).key = key

/-- What the index has to say of the calls: each is in its worker's row and in its model's,
    once, and nothing else is. -/
structure Accounted (calls : List Call) (shown : ProvenanceIndex) : Prop where
  total : shown.calls = (calls.filter Named).length
  workers : ∀ workerId, workerId ≠ "" → (shown.byWorker.get? workerId).map Prod.snd =
    (ownCalls calls workerId).getLast?.map fun last => row last (ownCalls calls workerId)
  fallbacks : ∀ fallback, fallback ∈ shown.fallbacks ↔ fallback.workerId ≠ "" ∧
    (∃ call ∈ ownCalls calls fallback.workerId, call.2.fallbackUsed = true) ∧
    (ownCalls calls fallback.workerId).getLast?.map (fun last => last.2.providerRoute) =
      some fallback.route
  models : ∀ p, p ∈ shown.distinct ↔ ∃ first key, (callsOf calls key).head? = some first ∧
    p = row first (callsOf calls key)
  once : (shown.distinct.map ModelProvenance.key).Nodup
  shares : (shown.distinct.map ModelProvenance.calls).sum = shown.calls
  busiest : ∀ best, shown.primary = some best →
    best ∈ shown.distinct ∧ ∀ p ∈ shown.distinct, p.calls ≤ best.calls
  idle : shown.primary = none ↔ calls.filter Named = []

theorem attributed_blank (calls : List Call) :
    (calls.filter Attributed).filter (fun call => call.1 = "") = [] := by
  rw [List.filter_eq_nil_iff]
  intro call member
  have attributed : Attributed call := of_decide_eq_true (List.mem_filter.mp member).2
  exact fun blank => attributed (of_decide_eq_true blank)

theorem attributed_own (calls : List Call) {workerId : String} (told : workerId ≠ "") :
    ((calls.filter Named).filter Attributed).filter (fun call => call.1 = workerId) =
      ownCalls calls workerId := by
  rw [ownCalls, List.filter_filter]
  apply List.filter_congr
  intro call _
  by_cases same : call.1 = workerId <;> simp [same, Attributed, told]

theorem workerRows_member (calls : List Call) (found : String × ModelProvenance) :
    found ∈ (workerRows ((calls.filter Named).filter Attributed)).values ↔ found.1 ≠ "" ∧
      (ownCalls calls found.1).getLast?.map (fun last => row last (ownCalls calls found.1)) =
        some found.2 := by
  rw [workerRows, group_member, ← combined_last]
  by_cases blank : found.1 = ""
  · rw [blank, attributed_blank]
    simp [combined]
  · rw [attributed_own calls blank]
    exact (and_iff_right blank).symm

theorem modelRows_member (calls : List Call) (found : String × ModelProvenance) :
    found ∈ (modelRows (calls.filter Named)).values ↔
      (callsOf calls found.1).head?.map (fun first => row first (callsOf calls found.1)) =
        some found.2 := by
  rw [modelRows, group_member, combined_first]
  rfl

theorem modelRows_key (calls : List Call) :
    ∀ found ∈ (modelRows (calls.filter Named)).values, found.2.key = found.1 := by
  intro found member
  obtain ⟨first, head, same⟩ :=
    Option.map_eq_some_iff.mp ((modelRows_member calls found).mp member)
  have here : (entry first).key = found.1 := by
    simpa [callsOf] using List.of_mem_filter (List.mem_of_mem_head? head)
  rw [← same]
  exact here

theorem distinct_perm (calls : List Call) : (counted calls).index.distinct.Perm
    ((modelRows (calls.filter Named)).values.map Prod.snd) :=
  Comparator.sort_perm byCalls _

theorem distinct_member (calls : List Call) (p : ModelProvenance) :
    p ∈ (counted calls).index.distinct ↔ ∃ first key,
      (callsOf calls key).head? = some first ∧ p = row first (callsOf calls key) := by
  rw [(distinct_perm calls).mem_iff, List.mem_map]
  constructor
  · rintro ⟨found, inside, rfl⟩
    obtain ⟨first, head, same⟩ :=
      Option.map_eq_some_iff.mp ((modelRows_member calls found).mp inside)
    exact ⟨first, found.1, head, same.symm⟩
  · rintro ⟨first, key, head, rfl⟩
    refine ⟨(key, row first (callsOf calls key)), ?_, rfl⟩
    rw [modelRows_member, head]
    rfl

theorem distinct_keys (calls : List Call) :
    ((counted calls).index.distinct.map ModelProvenance.key).Nodup := by
  have keys : (modelRows (calls.filter Named)).values.map (ModelProvenance.key ∘ Prod.snd) =
      (modelRows (calls.filter Named)).values.map Prod.fst :=
    List.map_congr_left (modelRows_key calls)
  rw [((distinct_perm calls).map ModelProvenance.key).nodup_iff, List.map_map, keys]
  exact (modelRows (calls.filter Named)).distinct

theorem distinct_sum {μ : Type} [AddCancelCommMonoid μ] (weight : ModelProvenance → μ)
    (adds : ∀ seen call,
      weight (seen.seenAgain (entry call)) = weight seen + weight (entry call))
    (calls : List Call) :
    ((counted calls).index.distinct.map weight).sum =
      ((calls.filter Named).map fun call => weight (entry call)).sum := by
  rw [((distinct_perm calls).map weight).sum_eq, List.map_map]
  exact group_sum (fun _ => rfl) adds (calls.filter Named)

theorem distinct_calls (calls : List Call) :
    ((counted calls).index.distinct.map ModelProvenance.calls).sum =
      (calls.filter Named).length := by
  have ones : ((calls.filter Named).map fun call => (entry call).calls).sum =
      (calls.filter Named).length := by simp [entry]
  exact (distinct_sum ModelProvenance.calls (fun _ _ => rfl) calls).trans ones

theorem fallback_member (calls : List Call) (fallback : FallbackRoute) :
    fallback ∈ (counted calls).index.fallbacks ↔ fallback.workerId ≠ "" ∧
      (∃ call ∈ ownCalls calls fallback.workerId, call.2.fallbackUsed = true) ∧
      (ownCalls calls fallback.workerId).getLast?.map (fun last => last.2.providerRoute) =
        some fallback.route := by
  constructor
  · intro member
    obtain ⟨found, kept, rfl⟩ := List.mem_map.mp member
    obtain ⟨inside, used⟩ := List.mem_filter.mp kept
    obtain ⟨told, rows⟩ := (workerRows_member calls found).mp inside
    obtain ⟨last, latest, same⟩ := Option.map_eq_some_iff.mp rows
    refine ⟨told, ?_, ?_⟩
    · rw [← same] at used
      exact List.any_eq_true.mp used
    · rw [latest, ← same]
      rfl
  · rintro ⟨told, used, route⟩
    obtain ⟨last, latest, same⟩ := Option.map_eq_some_iff.mp route
    have inside := (workerRows_member calls
      (fallback.workerId, row last (ownCalls calls fallback.workerId))).mpr
        ⟨told, by rw [latest]; rfl⟩
    apply List.mem_map.mpr
    refine ⟨_, List.mem_filter.mpr ⟨inside, List.any_eq_true.mpr used⟩, ?_⟩
    rw [FallbackRoute.mk.injEq]
    exact ⟨rfl, same⟩

theorem byCalls_consistent (among : List ModelProvenance) :
    Comparator.Consistent byCalls among := by
  constructor <;> intros <;> simp only [byCalls] at * <;> omega

theorem primary_busiest (calls : List Call) (best : ModelProvenance)
    (first : (counted calls).index.primary = some best) :
    best ∈ (counted calls).index.distinct ∧
      ∀ p ∈ (counted calls).index.distinct, p.calls ≤ best.calls := by
  have sorted : (counted calls).index.distinct.Pairwise fun a b => byCalls a b ≤ 0 :=
    (byCalls_consistent _).sorted
  have head : (counted calls).index.distinct.head? = some best := first
  obtain ⟨rest, order⟩ := List.head?_eq_some_iff.mp head
  refine ⟨List.mem_of_mem_head? head, ?_⟩
  intro p member
  rw [order] at member sorted
  rcases List.mem_cons.mp member with rfl | later
  · exact le_rfl
  · have below := (List.pairwise_cons.mp sorted).1 p later
    simp only [byCalls] at below
    omega

theorem primary_none (calls : List Call) :
    (counted calls).index.primary = none ↔ calls.filter Named = [] := by
  have shared := distinct_calls calls
  constructor
  · intro absent
    have head : (counted calls).index.distinct.head? = none := absent
    rw [List.head?_eq_none_iff.mp head] at shared
    exact List.length_eq_zero_iff.mp shared.symm
  · intro silent
    rw [counted, silent]
    rfl

theorem index_accounted (calls : List Call) : Accounted calls (counted calls).index where
  total := rfl
  workers workerId told := by
    rw [← combined_last, ← attributed_own calls told]
    exact group_get _ workerId
  fallbacks := fallback_member calls
  models := distinct_member calls
  once := distinct_keys calls
  shares := distinct_calls calls
  busiest := primary_busiest calls
  idle := primary_none calls

theorem effect_uncalled {s body : LiveRuntimeSession} {op : Operation} {drafts : List EventDraft}
    (effect : Effect s op body drafts)
    (other : ∀ workerId call, op ≠ .recordModelCall workerId call) :
    body.modelCalls = s.modelCalls ∧ ∀ draft ∈ drafts, draft.eventType ≠ .modelRequested := by
  cases effect with
  | called _ call => exact absurd rfl (other _ call)
  | recovered summary =>
    refine ⟨rfl, forall_recovered (fun w => ?_) ?_⟩
    · simp
    · simp
  | unchanged => exact ⟨rfl, List.forall_mem_nil _⟩
  | recorded => exact ⟨rfl, List.forall_mem_nil _⟩
  | testRejected => exact ⟨rfl, List.forall_mem_nil _⟩
  | registered => exact ⟨rfl, by simp⟩
  | started => exact ⟨rfl, by simp⟩
  | completed found active drafted => exact ⟨rfl, by simp [completedDraft_eventType drafted]⟩
  | undrafted => exact ⟨rfl, List.forall_mem_nil _⟩
  | tested => exact ⟨rfl, by simp⟩
  | refused => exact ⟨rfl, by simp [requestedDraft]⟩
  | served => exact ⟨rfl, by simp [requestedDraft]⟩
  | denied => exact ⟨rfl, by simp [requestedDraft, denyDrafts, quarantinedDraft]⟩
  | quarantined => exact ⟨rfl, by simp [quarantinedDraft]⟩
  | reassigned => exact ⟨rfl, by simp [reassignedDrafts]⟩
  | failed => exact ⟨rfl, by simp⟩

/-- What a state has taken since another. -/
def Took (s s' : LiveRuntimeSession) (calls : List Call) : Prop :=
  s'.modelCalls = s.modelCalls + calls.length ∧ ∃ events, s'.log = s.log ++ events ∧
    List.Forall₂ Keeps (requestedEvents events) calls

theorem took_nothing (s : LiveRuntimeSession) : Took s s [] :=
  ⟨rfl, [], (List.append_nil _).symm, .nil⟩

theorem Took.trans {s s' s'' : LiveRuntimeSession} {first later : List Call}
    (took : Took s s' first) (took' : Took s' s'' later) : Took s s'' (first ++ later) := by
  obtain ⟨calls, events, log, kept⟩ := took
  obtain ⟨calls', events', log', kept'⟩ := took'
  refine ⟨?_, events ++ events', ?_, ?_⟩
  · rw [calls', calls, List.length_append]
    omega
  · rw [log', log, List.append_assoc]
  · rw [requestedEvents, List.filter_append]
    exact List.rel_append kept kept'

theorem perform_uncalled (op : Operation) (s : LiveRuntimeSession)
    (other : ∀ workerId call, op ≠ .recordModelCall workerId call) :
    Took s (exec (perform op) s) [] := by
  obtain ⟨body, drafts, effect, performed⟩ := perform_effect op s
  obtain ⟨calls, silent⟩ := effect_uncalled effect other
  obtain ⟨events, log, drafted⟩ := effect_appends effect
  rw [performed]
  refine ⟨calls, events, log, ?_⟩
  have nothing : requestedEvents events = [] := by
    rw [requestedEvents, List.filter_eq_nil_iff]
    intro event member
    simpa using silent _ (drafted event member)
  rw [nothing]
  exact .nil

theorem handle_took (disk : Disk) (root : Path) (request : Request) (s : LiveRuntimeSession) :
    Took s (exec (handle disk root request) s) (taken s request) := by
  have others : taken s request = [] →
      (∀ op, Issues s request op → ∀ workerId call, op ≠ .recordModelCall workerId call) →
      Took s (exec (handle disk root request) s) (taken s request) := by
    intro untaken other
    rw [untaken]
    rcases handle_effect disk root request s with same | ⟨op, issues, performed⟩
    · rw [same]
      exact took_nothing s
    · rw [performed]
      exact perform_uncalled op s (other op issues)
  cases request with
  | recordModelCall workerId call =>
    -- the route lets the call through for a worker that is registered and active
    rcases @active_route _ _ (atomic_recordModelCall workerId call) workerId
      (exceptUnknownWorker 409) s with ⟨⟨w, found, active⟩, performed⟩ | ⟨refused, same⟩
    · obtain ⟨r, run⟩ := recordModelCall_run found call
      have one : taken s (.recordModelCall workerId call) = [(workerId, call)] := by
        simp [taken, found, active]
      rw [handle, Routes.recordModelCall, performed, atomic_exec run, one]
      exact ⟨rfl, _, effect_log (.called found call), .cons ⟨rfl, rfl, rfl⟩ .nil⟩
    · have untaken : taken s (.recordModelCall workerId call) = [] := by
        cases found : s.workers.get? workerId with
        | none => simp [taken, found]
        | some w =>
          have inactive : ¬ w.isActive = true := fun active => refused ⟨w, found, active⟩
          simp [taken, found, inactive]
      rw [handle, Routes.recordModelCall, same, untaken]
      exact took_nothing s
  | _ =>
    apply others rfl
    intro op issues workerId call same
    subst same
    cases issues

theorem run_took (disk : Disk) (root : Path) (requests : List Request) (s : LiveRuntimeSession) :
    Took s (serial (handle disk root) s requests) (takenCalls disk root s requests) := by
  induction requests generalizing s with
  | nil => exact took_nothing s
  | cons request rest ih => exact (handle_took disk root request s).trans (ih _)

def heldCalls (held : List Event) (calls : List Call) : List Call :=
  calls.drop (calls.length - (requestedEvents held).length)

theorem kept_last {log : List Event} {calls : List Call} (cap : Nat)
    (kept : List.Forall₂ Keeps (requestedEvents log) calls) :
    List.Forall₂ Keeps (requestedEvents (Window.last cap log))
      (heldCalls (Window.last cap log) calls) := by
  have split : requestedEvents log = requestedEvents (log.take (log.length - cap)) ++
      requestedEvents (Window.last cap log) := by
    unfold requestedEvents Window.last
    rw [← List.filter_append, List.take_append_drop]
  have count := kept.length_eq
  rw [split, List.length_append] at count
  have later := List.forall₂_drop
    (requestedEvents (log.take (log.length - cap))).length kept
  rw [split, List.drop_left] at later
  have skipped : calls.length - (requestedEvents (Window.last cap log)).length =
      (requestedEvents (log.take (log.length - cap))).length := by omega
  rw [heldCalls, skipped]
  exact later

theorem heldCalls_all {held : List Event} {calls : List Call}
    (full : (requestedEvents held).length = calls.length) : heldCalls held calls = calls := by
  rw [heldCalls, full, Nat.sub_self, List.drop_zero]

/- A total over the calls that are held is the whole number when no call is left out. -/
theorem accounted_total {held : List Event} {calls : List Call} {shown : ProvenanceIndex}
    (accounted : Accounted (heldCalls held calls) shown)
    (kept : List.Forall₂ Keeps (requestedEvents held) (heldCalls held calls)) :
    shown.calls = calls.length ↔
      (∀ call ∈ calls, Named call) ∧ (requestedEvents held).length = calls.length := by
  have few := List.length_filter_le (fun call => decide (Named call)) (heldCalls held calls)
  have count := kept.length_eq
  have dropped : (heldCalls held calls).length ≤ calls.length :=
    (List.drop_sublist _ calls).length_le
  rw [accounted.total]
  constructor
  · intro same
    have full : (requestedEvents held).length = calls.length := by omega
    refine ⟨?_, full⟩
    rw [heldCalls_all full] at same
    simpa using List.length_filter_eq_length_iff.mp same
  · rintro ⟨named, full⟩
    rw [heldCalls_all full, List.length_filter_eq_length_iff]
    simpa using named

/-- Throughout a run the screen accounts for exactly the calls the session has taken that name
    who answered and whose events it still holds: by worker, by model, and in all. Its total is
    the session's own unless a call named neither a model nor a host, or is held no longer. -/
theorem provenance_of_run (disk : Disk) (root : Path) (sessionId : Uuid) (objective : String)
    (requests : List Request) :
    let start := LiveRuntimeSession.new sessionId objective
    let s := serial (handle disk root) start requests
    let calls := takenCalls disk root start requests
    ∃ client, reduceAll initialGraphState s.log = .ok client ∧
      Accounted (heldCalls client.recentEvents calls) (deriveProvenance client.recentEvents) ∧
      s.modelCalls = calls.length ∧
      ((deriveProvenance client.recentEvents).calls = s.modelCalls ↔
        (∀ call ∈ calls, Named call) ∧
          (requestedEvents client.recentEvents).length = calls.length) := by
  intro start s calls
  obtain ⟨counted, events, log, kept⟩ := run_took disk root requests start
  have all : s.modelCalls = calls.length := counted.trans (Nat.zero_add _)
  have all_kept : List.Forall₂ Keeps (requestedEvents s.log) calls := by
    rw [log]
    exact kept
  obtain ⟨client, reduced⟩ := reduceAll_total initialGraphState s.log
  have recent := reduceAll_recent reduced (Nat.zero_le _)
  have fresh : initialGraphState.recentEvents = [] := rfl
  rw [fresh, List.nil_append] at recent
  have held := kept_last eventLogCap all_kept
  rw [← recent] at held
  have accounted : Accounted (heldCalls client.recentEvents calls)
      (deriveProvenance client.recentEvents) := by
    rw [derived held]
    exact index_accounted _
  refine ⟨client, reduced, accounted, all, ?_⟩
  rw [all]
  exact accounted_total accounted held

end AgentShield.Client.Provenance
