import Mathlib.Algebra.Order.BigOperators.Group.List
import Mathlib.Algebra.Order.Group.Nat
import AgentShield.Runtime.Resources
import AgentShield.WorkSwarm.RepoPaths

/-!
The guard of the Developer's writes (`workswarm/patcher.py`) beside the policy of the
reads. Paths are POSIX paths without symbolic links, as they are for the reads.
-/
namespace AgentShield.WorkSwarm
open Text Lexical Policy Resources

def protectedDirname : String := "secrets"

/-- The `SandboxViolation`s, each with what its text is made of. -/
inductive WriteError where
  | emptyPath
  | sandboxItself
  | outside (relativePath : String) (root : Path)
  | protectedDirectory (relativePath : String)
  /- A `ValueError`: `os.lstat` takes no null byte. -/
  | embeddedNull
  deriving DecidableEq

def sandboxDir (repoRoot : Path) : Path := resolve (joinPath repoRoot rootName)

/- Sandbox-relative and repository-relative spellings are both accepted. -/
def sandboxRelative (candidate : List Char) : List Char :=
  if sandboxPrefix.toList.isPrefixOf candidate then candidate.drop sandboxPrefix.toList.length
  else candidate

def resolveInSandbox (repoRoot : Path) (relativePath : String) : Except WriteError Path :=
  let candidate := replace '\\' '/' (strip relativePath.toList)
  if candidate = [] then .error .emptyPath
  else if candidate = rootName ∨ candidate = rootName ++ ['/'] then .error .sandboxItself
  else
    let candidate := sandboxRelative candidate
    let root := sandboxDir repoRoot
    if Char.ofNat 0 ∈ candidate then .error .embeddedNull
    else
      let target := resolve (joinPath root candidate)
      if isRelativeTo target root = false then .error (.outside relativePath root)
      else match relativeTo target root with
        | [] => .error .sandboxItself
        | first :: _ =>
          if lower first = protectedDirname.toList then .error (.protectedDirectory relativePath)
          else .ok target

def writtenPath (repoRoot target : Path) : String :=
  sandboxPrefix ++ asPosix (relativeTo target (sandboxDir repoRoot))

example : (resolveInSandbox ["repo".toList] "demo_target\\app/../docs/x.md").map
    (writtenPath ["repo".toList]) = .ok "demo_target/docs/x.md" := by rfl

/-- The names below the sandbox that a path comes to. -/
def LeadsTo (repoRoot : Path) (path : String) (names : Path) : Prop :=
  resolve (joinPath (sandboxDir repoRoot) (sandboxRelative (spelling path))) =
    sandboxDir repoRoot ++ names

/-- The policy strips the text first: the last name loses the white space at its end, and
    what is left of it may be a step. -/
def seen (names : Path) : Path :=
  climb names.dropLast (segmentMove ((names.getLastD []).rdropWhile isSpace))

/-- The names that are an ordinary resource of the sandbox on every platform. -/
structure Ordinary (names : Path) : Prop where
  nonempty : names ≠ []
  unprotected : ∀ first, names.head? = some first →
    lower (rstrip [' ', '.'] first) ≠ protectedDirname.toList
  no_stream : ∀ name ∈ names, ':' ∉ name
  unambiguous : ∀ name ∈ names, ∀ c, name.getLast? = some c → c ≠ ' ' ∧ c ≠ '.'

theorem served_ordinary (names : Path) : Served (rootName :: names) ↔ Ordinary names := by
  constructor
  · intro served
    constructor
    · rintro rfl
      exact absurd served.deep (by decide)
    · intro first head
      exact served.unprotected first (by rwa [List.getElem?_cons_succ, ← List.head?_eq_getElem?])
    · exact fun name member => served.no_stream name (List.mem_cons_of_mem _ member)
    · exact fun name member => served.unambiguous name (List.mem_cons_of_mem _ member)
  · intro ordinary
    constructor
    · obtain ⟨first, rest, rfl⟩ := List.exists_cons_of_ne_nil ordinary.nonempty
      simp
    · intro first head
      obtain rfl : rootName = first := Option.some.inj head
      decide
    · intro second head
      rw [List.getElem?_cons_succ, ← List.head?_eq_getElem?] at head
      exact ordinary.unprotected second head
    · intro name member
      rcases List.mem_cons.mp member with rfl | inside
      · decide
      · exact ordinary.no_stream name inside
    · intro name member c last
      rcases List.mem_cons.mp member with rfl | inside
      · obtain rfl : 't' = c := Option.some.inj last
        decide
      · exact ordinary.unambiguous name inside c last

/-- A name that a resolved path can have: no segment that stays or goes up, one piece. -/
structure Proper (name : List Char) : Prop where
  move : segmentMove name = .down name
  slashed : '/' ∉ name ∧ '\\' ∉ name
  no_null : Char.ofNat 0 ∉ name

theorem proper_nonempty {name : List Char} (proper : Proper name) : name ≠ [] := by
  rintro rfl
  exact absurd proper.move (by decide)

theorem parts_names (candidate : List Char) :
    (((parts candidate).map segmentMove).filterMap Move.name?).Sublist
      (candidate.splitOn '/') := by
  rw [segment_names]
  exact (List.filter_sublist).trans List.filter_sublist

theorem resolved_moves (path : Path) :
    (resolve path).map segmentMove = (resolve path).map .down := by
  refine List.map_congr_left fun name member => ?_
  obtain ⟨raw, _, move⟩ := List.mem_map.mp (rooted_member member)
  rw [← down_of_segmentMove move, move, down_of_segmentMove move]

section
variable {repoRoot names : Path} {path : String}

theorem leads_names {candidate : List Char}
    (leads : resolve (joinPath (sandboxDir repoRoot) candidate) = sandboxDir repoRoot ++ names) :
    names.Sublist (((parts candidate).map segmentMove).filterMap Move.name?) := by
  have below : names = (resolve (joinPath (sandboxDir repoRoot) candidate)).drop
      (sandboxDir repoRoot).length := by
    rw [leads, List.drop_left]
  rw [below]
  unfold resolve joinPath rooted
  split
  · simpa using climb_sublist ((parts candidate).map segmentMove) [] (sandboxDir repoRoot).length
  · have start : (sandboxDir repoRoot).map segmentMove = (sandboxDir repoRoot).map .down :=
      resolved_moves _
    rw [List.map_append, List.foldl_append, start, climb_names, List.nil_append]
    simpa using climb_sublist ((parts candidate).map segmentMove) (sandboxDir repoRoot)
      (sandboxDir repoRoot).length

theorem leads_proper {candidate : List Char} (slashed : '\\' ∉ candidate)
    (no_null : Char.ofNat 0 ∉ candidate)
    (leads : resolve (joinPath (sandboxDir repoRoot) candidate) = sandboxDir repoRoot ++ names) :
    ∀ name ∈ names, Proper name := by
  intro name member
  have own := (leads_names leads).subset member
  have piece := (parts_names candidate).subset own
  have inside : ∀ c ∈ name, c ∈ candidate := by
    intro c there
    rw [← join_split '/' candidate]
    exact part_member piece there
  rw [segment_names, List.mem_filter] at own
  refine ⟨by simpa using own.2, ⟨split_absent '/' candidate name piece, ?_⟩, ?_⟩
  · exact fun there => slashed (inside _ there)
  · exact fun there => no_null (inside _ there)

theorem leads_length {candidate : List Char} (nonempty : names ≠ [])
    (leads : resolve (joinPath (sandboxDir repoRoot) candidate) = sandboxDir repoRoot ++ names) :
    (join '/' names).length ≤ candidate.length := by
  have own := (leads_names leads).trans (parts_names candidate)
  have sum := (own.map fun name => name.length + 1).sum_le_sum fun _ _ => Nat.zero_le _
  have whole := join_length '/' (List.splitOn_ne_nil '/' candidate)
  rw [join_split] at whole
  have part := join_length '/' nonempty
  omega

/-- What an accepted path has been checked for. -/
theorem accepted_leads {target : Path} (accepted : resolveInSandbox repoRoot path = .ok target) :
    Char.ofNat 0 ∉ sandboxRelative (spelling path) ∧
    LeadsTo repoRoot path (relativeTo target (sandboxDir repoRoot)) ∧
    relativeTo target (sandboxDir repoRoot) ≠ [] := by
  unfold resolveInSandbox at accepted
  change (if spelling path = [] then _ else _) = _ at accepted
  split at accepted
  · cases accepted
  · split at accepted
    · cases accepted
    · change (if Char.ofNat 0 ∈ sandboxRelative (spelling path) then _ else
        if isRelativeTo (resolve (joinPath (sandboxDir repoRoot)
          (sandboxRelative (spelling path)))) (sandboxDir repoRoot) = false then _ else _) = _
        at accepted
      split at accepted
      · cases accepted
      · rename_i no_null
        split at accepted
        · cases accepted
        · rename_i relative
          split at accepted
          · cases accepted
          · rename_i first rest below
            split at accepted
            · cases accepted
            · obtain rfl := Except.ok.inj accepted
              refine ⟨no_null, ?_, by rw [below]; exact List.cons_ne_nil _ _⟩
              have inside : sandboxDir repoRoot <+: resolve (joinPath (sandboxDir repoRoot)
                  (sandboxRelative (spelling path))) :=
                List.isPrefixOf_iff_prefix.mp ((Bool.not_eq_false _).mp relative)
              exact (List.prefix_iff_eq_append.mp inside).symm

end

section
variable {init : Path} {last : List Char}

theorem written_toList (names : Path) (nonempty : names ≠ []) :
    (sandboxPrefix ++ asPosix names).toList = join '/' (rootName :: names) := by
  have some_ : names.isEmpty = false := by simpa using nonempty
  rw [asPosix, some_, String.toList_append, if_neg (by decide), String.toList_ofList,
    join_cons '/' rootName nonempty]
  rfl

theorem join_concat (sep : Char) {parts : Path} (nonempty : parts ≠ []) (last : List Char) :
    join sep (parts ++ [last]) = join sep parts ++ sep :: last := by
  induction parts with
  | nil => exact absurd rfl nonempty
  | cons part rest ih =>
    by_cases single : rest = []
    · rw [single, join_singleton]
      simp [join_cons]
    · rw [List.cons_append, join_cons sep part (by simp), join_cons sep part single, ih single,
        List.append_assoc, List.cons_append]

theorem written_strip (init : Path) (last : List Char) :
    strip (join '/' (rootName :: (init ++ [last]))) =
      join '/' (rootName :: init ++ [last.rdropWhile isSpace]) := by
  rw [← List.cons_append, join_concat '/' (List.cons_ne_nil _ _),
    join_concat '/' (List.cons_ne_nil _ _)]
  have front : (join '/' (rootName :: init) ++ '/' :: last).dropWhile isSpace =
      join '/' (rootName :: init) ++ '/' :: last := by
    cases init with
    | nil => rfl
    | cons first rest =>
      rw [join_cons '/' rootName (List.cons_ne_nil _ _)]
      rfl
  rw [strip, front, rdropWhile_past (by decide)]

theorem written_no_scheme (solid : ∀ name ∈ init, name ≠ []) (slashed : ∀ name ∈ init, '/' ∉ name)
    (clean : '/' ∉ last) : ¬ "://".toList <:+: join '/' (rootName :: init ++ [last]) := by
  rintro ⟨before, after, scheme⟩
  have pieces : (join '/' (rootName :: init ++ [last])).splitOn '/' = rootName :: init ++ [last] := by
    apply split_join '/' (by simp)
    intro name member
    rcases List.mem_append.mp member with front | final
    · rcases List.mem_cons.mp front with rfl | inside
      · decide
      · exact slashed name inside
    · rw [List.mem_singleton.mp final]
      exact clean
  have cut : (before ++ "://".toList ++ after).splitOn '/' =
      (before ++ [':']).splitOn '/' ++ [] :: after.splitOn '/' := by
    have shape : before ++ "://".toList ++ after = (before ++ [':']) ++ '/' :: ([] ++ '/' :: after) := by
      simp
    rw [shape, List.splitOn_append_cons_self, List.splitOn_append_cons_self]
    rfl
  rw [scheme, pieces] at cut
  obtain ⟨rest, final, tail⟩ := List.eq_nil_or_concat (after.splitOn '/') |>.resolve_left
    (List.splitOn_ne_nil '/' after)
  rw [tail, List.concat_eq_append, ← List.cons_append, ← List.append_assoc] at cut
  obtain ⟨front, -⟩ := List.append_inj' cut rfl
  have empty : [] ∈ rootName :: init := by
    rw [front]
    exact List.mem_append_right _ List.mem_cons_self
  rcases List.mem_cons.mp empty with root | inside
  · revert root
    decide
  · exact solid [] inside rfl

theorem tail_clean {c : Char} (clean : c ∉ last) : c ∉ last.rdropWhile isSpace :=
  fun there => clean ((List.rdropWhile_prefix isSpace last).subset there)

theorem written_checks (proper : ∀ name ∈ init ++ [last], Proper name)
    (short : (join '/' (init ++ [last])).length ≤ 400) :
    PassesRawChecks (sandboxPrefix ++ asPosix (init ++ [last])) := by
  have text := written_toList (init ++ [last]) (by simp)
  have front : ∀ name ∈ init, Proper name :=
    fun name member => proper name (List.mem_append_left _ member)
  have back : Proper last := proper last (by simp)
  have ahead : ∃ rest, join '/' (rootName :: init ++ [last.rdropWhile isSpace]) =
      rootName ++ rest := by
    rw [List.cons_append, join_cons '/' rootName (by simp)]
    exact ⟨_, rfl⟩
  obtain ⟨rest, ahead⟩ := ahead
  constructor
  · rw [text, join_cons '/' rootName (by simp), List.length_append, List.length_cons]
    have root : rootName.length = 11 := by decide
    have most : maxPathLength = 512 := rfl
    omega
  · rw [text]
    intro null
    rcases join_member null with slash | ⟨name, member, inside⟩
    · revert slash
      decide
    · rcases List.mem_cons.mp member with rfl | below
      · revert inside
        decide
      · exact (proper name below).no_null inside
  · rw [text, written_strip, ahead]
    exact List.append_ne_nil_of_left_ne_nil (by decide) _
  · rw [text, written_strip]
    exact written_no_scheme (fun name member => proper_nonempty (front name member))
      (fun name member => (front name member).slashed.1) (tail_clean back.slashed.1)
  · rw [text, written_strip, ahead]
    intro c head
    obtain rfl : 'd' = c := Option.some.inj head
    decide
  · rw [text, written_strip, ahead]
    intro drive
    exact absurd (Option.some.inj drive) (by decide)

theorem written_resolves (proper : ∀ name ∈ init ++ [last], Proper name) (segments : Path) :
    LexicallyResolves (strip (sandboxPrefix ++ asPosix (init ++ [last])).toList) segments ↔
      walk (rootName :: init) (segmentMove (last.rdropWhile isSpace)) = some segments := by
  have front : ∀ name ∈ rootName :: init, Proper name := by
    intro name member
    rcases List.mem_cons.mp member with rfl | inside
    · exact ⟨by decide, by decide, by decide⟩
    · exact proper name (List.mem_append_left _ inside)
  have back : Proper last := proper last (by simp)
  have pieces : ∀ name ∈ rootName :: init ++ [last.rdropWhile isSpace], '/' ∉ name ∧ '\\' ∉ name := by
    intro name member
    rcases List.mem_append.mp member with inside | final
    · exact (front name inside).slashed
    · rw [List.mem_singleton.mp final]
      exact ⟨tail_clean back.slashed.1, tail_clean back.slashed.2⟩
  have slashed : '\\' ∉ join '/' (rootName :: init ++ [last.rdropWhile isSpace]) := by
    intro there
    rcases join_member there with slash | ⟨name, member, inside⟩
    · revert slash
      decide
    · exact (pieces name member).2 inside
  have names : (rootName :: init).map segmentMove = (rootName :: init).map .down :=
    List.map_congr_left fun name member => (front name member).move
  rw [written_toList _ (by simp), written_strip, LexicallyResolves, replace_eq_self slashed,
    split_join '/' (by simp) fun name member => (pieces name member).1, List.map_append, names,
    List.map_singleton, resolves_concat]
  constructor
  · rintro ⟨mid, before, step⟩
    rwa [resolves_unique before (strict_iff.mp (strict_names _))] at step
  · exact fun step => ⟨_, strict_iff.mp (strict_names _), step⟩

theorem walk_seen (init : Path) (move : Move (List Char)) :
    (∃ segments, walk (rootName :: init) move = some segments ∧ Served segments) ↔
      Ordinary (climb init move) := by
  cases move with
  | stay =>
    rw [← served_ordinary]
    simp [walk, climb]
  | down name =>
    rw [← served_ordinary]
    simp [walk, climb]
  | up =>
    cases init with
    | nil =>
      apply iff_of_false
      · rintro ⟨segments, step, served⟩
        obtain rfl : [] = segments := Option.some.inj step
        exact absurd served.deep (by decide)
      · exact fun ordinary => ordinary.nonempty rfl
    | cons first rest =>
      rw [← served_ordinary]
      simp [walk, climb]

/-- The policy on a path of proper names below the sandbox. -/
theorem written_allowed {names : Path} (nonempty : names ≠ [])
    (proper : ∀ name ∈ names, Proper name) (short : (join '/' names).length ≤ 400) :
    (evaluate (.text (sandboxPrefix ++ asPosix names))).allowed = true ↔
      Ordinary (seen names) := by
  obtain ⟨init, last, rfl⟩ := List.eq_nil_or_concat names |>.resolve_left nonempty
  rw [List.concat_eq_append] at *
  have whole : seen (init ++ [last]) = climb init (segmentMove (last.rdropWhile isSpace)) := by
    rw [seen, List.dropLast_concat, List.getLastD_concat]
  rw [whole, ← walk_seen]
  have checked := written_checks proper short
  constructor
  · intro allowed
    obtain ⟨_, segments, resolves, served, _⟩ := allowed_resolution allowed
    exact ⟨segments, (written_resolves proper segments).mp resolves, served⟩
  · rintro ⟨segments, step, served⟩
    exact resolution_allowed checked ((written_resolves proper segments).mpr step) served

end

theorem sandboxRelative_sublist (candidate : List Char) :
    (sandboxRelative candidate).Sublist candidate := by
  unfold sandboxRelative
  split
  · exact List.drop_sublist _ _
  · exact List.Sublist.refl _

/-- What may be written may be read exactly if the path leads to an ordinary resource. -/
theorem write_guard_iff (repoRoot target : Path) (path : String) (short : path.length ≤ 400)
    (accepted : resolveInSandbox repoRoot path = .ok target) :
    (evaluate (.text (writtenPath repoRoot target))).allowed = true ↔
      ∃ names, LeadsTo repoRoot path names ∧ Ordinary (seen names) := by
  obtain ⟨no_null, leads, nonempty⟩ := accepted_leads accepted
  have own := sandboxRelative_sublist (spelling path)
  have slashed : '\\' ∉ sandboxRelative (spelling path) :=
    fun there => spelling_slashed path (own.subset there)
  have bound : (sandboxRelative (spelling path)).length ≤ 400 := by
    have whole : (spelling path).length ≤ path.length := by
      rw [spelling, replace_length, ← String.length_toList]
      exact strip_length_le path.toList
    exact own.length_le.trans (whole.trans short)
  rw [writtenPath, written_allowed nonempty (leads_proper slashed no_null leads)
    ((leads_length nonempty leads).trans bound)]
  constructor
  · exact fun ordinary => ⟨_, leads, ordinary⟩
  · rintro ⟨names, also, ordinary⟩
    rwa [List.append_cancel_left (leads.symm.trans also)]

def checkout : Path := ["repo".toList]

theorem auth_write_ordinary :
    "app/auth.py".length ≤ 400 ∧
      ∃ names, LeadsTo checkout "app/auth.py" names ∧ Ordinary (seen names) :=
  ⟨by decide, (write_guard_iff checkout _ "app/auth.py" (by decide) rfl).mp (by decide)⟩

/-- A drive is a name like any other to the guard; the policy refuses its colon. -/
theorem drive_write_unreadable :
    let path := "C:\\Windows\\System32\\drivers\\etc\\hosts"
    path.length ≤ 400 ∧
      ∃ target, resolveInSandbox checkout path = .ok target ∧
        writtenPath checkout target = "demo_target/C:/Windows/System32/drivers/etc/hosts" ∧
        (evaluate (.text (writtenPath checkout target))).allowed = false :=
  ⟨by decide, _, rfl, by decide, by decide⟩

example : ((resolveInSandbox checkout "secrets./demo_secret.txt").map fun target =>
    (evaluate (.text (writtenPath checkout target))).rule) = .ok .protectedPath := by rfl

end AgentShield.WorkSwarm
