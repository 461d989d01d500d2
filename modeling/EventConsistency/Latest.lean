import Mathlib.Data.List.Induction
import Mathlib.Data.List.Lex
import Mathlib.Data.List.TakeWhile
import EventConsistency.FailClosed
import EventConsistency.Scripts.IncidentAnalyzer
import EventConsistency.Stamps

/-!
# The latest incident directory

`latest_incident_dir` goes by the names of the directories: the second of the creation, the scenario, and a suffix if
the name was taken. In one second the names do not sort in the order of creation.

* `createUniqueIncidentDir_eq_ok_iff` : the first suffix that is free; `latestIncidentDir_append_iff` : when a new
  directory is the latest;
* `CreateCall.Ordered` : of the names that a call may take, those that sort before a directory of the same second are
  taken already;
* **`latest_iff`** : every call of a run makes the directory that is then the latest one if and only if all are ordered.
-/

namespace EventConsistency.IncidentArtifact

open Lib Lib.Python IncidentAnalyzer

/-! ## Names -/

section Names

variable {mkdir : Text → Mkdir} {id path : Text} {tails : List Text}

/-- The directory has the first suffix that is free. -/
theorem createUniqueIncidentDir_eq_ok_iff : createUniqueIncidentDir mkdir id tails = .ok path ↔
    ∃ before tail after, tails = before ++ tail :: after ∧ path = id ++ tail ∧ mkdir path = .created ∧
      ∀ tried ∈ before, mkdir (id ++ tried) = .fileExists := by
  induction tails with
  | nil => simp [createUniqueIncidentDir]
  | cons first tails ih =>
      unfold createUniqueIncidentDir
      cases made : mkdir (id ++ first) with
      | created =>
          simp only [Except.ok.injEq]
          constructor
          · rintro rfl
            exact ⟨[], first, tails, rfl, rfl, made, by simp⟩
          · rintro ⟨before, tail, after, split, rfl, -, tried⟩
            cases before with
            | nil => rw [(List.cons.inj split).1]
            | cons other before =>
                have taken := tried other List.mem_cons_self
                rw [← (List.cons.inj split).1, made] at taken
                cases taken
      | fileExists =>
          simp only [ih]
          constructor
          · rintro ⟨before, tail, after, rfl, rfl, created, tried⟩
            exact ⟨first :: before, tail, after, rfl, rfl, created, by simpa using ⟨made, tried⟩⟩
          · rintro ⟨before, tail, after, split, rfl, created, tried⟩
            cases before with
            | nil =>
                rw [← (List.cons.inj split).1, made] at created
                cases created
            | cons other before =>
                exact ⟨before, tail, after, (List.cons.inj split).2, rfl, created,
                  fun t ht => tried t (List.mem_cons_of_mem _ ht)⟩
      | osError =>
          simp only [reduceCtorEq, false_iff]
          rintro ⟨before, tail, after, split, rfl, created, tried⟩
          cases before with
          | nil =>
              rw [← (List.cons.inj split).1, made] at created
              cases created
          | cons other before =>
              have taken := tried other List.mem_cons_self
              rw [← (List.cons.inj split).1, made] at taken
              cases taken

/-- The suffixes are tried in the order in which they sort. -/
theorem suffixes_sorted : suffixes.Pairwise (· < ·) := by
  unfold suffixes
  rw [List.pairwise_cons, List.pairwise_map]
  constructor
  · intro tail htail
    obtain ⟨i, -, rfl⟩ := List.mem_map.mp htail
    exact List.nil_lt_cons _ _
  · refine List.pairwise_lt_range.imp fun {i j} h => ?_
    simp only [List.cons_lt_cons_iff, List.not_lt_nil, and_false, or_false]
    refine .inr ⟨trivial, ?_⟩
    by_cases hundreds : (i + 1) / 100 = (j + 1) / 100
    · by_cases tens : (i + 1) / 10 % 10 = (j + 1) / 10 % 10
      · exact .inr ⟨by omega, .inr ⟨by omega, by omega⟩⟩
      · exact .inr ⟨by omega, .inl (by omega)⟩
    · exact .inl (by omega)

theorem slash_notMem_suffix {tail : Text} (h : tail ∈ suffixes) : 0x2F ∉ tail := by
  obtain rfl | h := List.mem_cons.mp h
  · simp
  · obtain ⟨i, -, rfl⟩ := List.mem_map.mp h
    simp only [List.mem_cons, List.not_mem_nil, or_false]
    omega

theorem pathName_of_notMem (h : 0x2F ∉ path) : pathName path = path := by
  have whole : (path.reverse.takeWhile fun c => c != 0x2F) = path.reverse := by
    rw [List.takeWhile_eq_self_iff]
    intro c hc
    rw [bne_iff_ne]
    rintro rfl
    exact h (List.mem_reverse.mp hc)
  rw [pathName, whole, List.reverse_reverse]

end Names

/-! ## The latest of a root -/

section Latest

variable {dir : IncidentDir} {root : List IncidentDir}

/-- The later of two directories, by their names. -/
def later (latest dir : IncidentDir) : IncidentDir := if latest.name < dir.name then dir else latest

theorem foldl_later_mem (root : List IncidentDir) (dir : IncidentDir) : root.foldl later dir ∈ dir :: root := by
  induction root generalizing dir with
  | nil => exact List.mem_singleton_self dir
  | cons next root ih =>
      rw [List.foldl_cons]
      obtain same | member := List.mem_cons.mp (ih (later dir next))
      · rw [same]
        unfold later
        split_ifs <;> simp
      · exact List.mem_cons_of_mem _ (List.mem_cons_of_mem _ member)

theorem le_foldl_later (root : List IncidentDir) (dir : IncidentDir) :
    ∀ d ∈ dir :: root, d.name ≤ (root.foldl later dir).name := by
  induction root generalizing dir with
  | nil => simp
  | cons next root ih =>
      have best := ih (later dir next) (later dir next) List.mem_cons_self
      have both : dir.name ≤ (later dir next).name ∧ next.name ≤ (later dir next).name := by
        unfold later
        split_ifs with less
        · exact ⟨less.le, le_rfl⟩
        · exact ⟨le_rfl, not_lt.mp less⟩
      rw [List.foldl_cons, List.forall_mem_cons, List.forall_mem_cons]
      exact ⟨both.1.trans best, both.2.trans best, fun d hd => ih _ d (List.mem_cons_of_mem _ hd)⟩

/-- A new directory is the latest one if and only if its name sorts after all others. -/
theorem latestIncidentDir_append_iff (incidents : ∀ d ∈ root ++ [dir], text "inc-" <+: d.name)
    (fresh : dir.name ∉ root.map IncidentDir.name) :
    latestIncidentDir (root ++ [dir]) = .ok dir ↔ ∀ d ∈ root, d.name < dir.name := by
  have all : ((root ++ [dir]).filter fun d => (text "inc-").isPrefixOf d.name) = root ++ [dir] :=
    List.filter_eq_self.mpr fun d hd => List.isPrefixOf_iff_prefix.mpr (incidents d hd)
  unfold latestIncidentDir
  rw [all]
  cases root with
  | nil => simp
  | cons first root =>
      show Except.ok ((root ++ [dir]).foldl later first) = .ok dir ↔ _
      rw [List.foldl_append, List.foldl_cons, List.foldl_nil, Except.ok.injEq]
      have member := foldl_later_mem root first
      constructor
      · intro latest d hd
        refine (le_foldl_later root first d hd).trans_lt ?_
        by_contra above
        rw [later, if_neg above] at latest
        rw [latest] at member
        exact fresh (List.mem_map_of_mem member)
      · intro above
        exact if_pos (above _ member)

end Latest

/-! ## Calls on one root -/

/-- The offset of the times, in microseconds. -/
def kst : Int := 32400000000

/-- A call of `create_artifact`, with the clock and the output of `docker compose ps` that it meets. -/
structure CreateCall where
  now : Int
  in_range : Datetime.InRange (now + kst)
  args : CreateArguments
  dockerComposeStatus : Text

namespace CreateCall

variable (rt : Runtime) (call : CreateCall)

/-- `_now_kst()`. -/
def createdAt : CreatedAt where
  stamp := Datetime.stamp (call.now + kst)
  isoformat := text (Datetime.isoformat ⟨call.now + kst, some kst⟩)

def id : Text := incidentId rt call.createdAt call.args.scenario

/-- The slug of the scenario can be part of a file name. -/
def ValidName : Prop := 0x2F ∉ rt.lower call.args.scenario

/-- What the call meets under a root with these directories. -/
def host (root : List IncidentDir) : Host where
  createdAt := call.createdAt
  mkdir := fun path => if path ∈ root.map IncidentDir.name then .fileExists else .created
  dockerComposeStatus := call.dockerComposeStatus

/-- Every name that the call may take and that sorts before a directory of the same second is taken. -/
def Ordered (root : List IncidentDir) : Prop :=
  ∀ d ∈ root, text "inc-" ++ call.createdAt.stamp <+: d.name →
    ∀ tail ∈ suffixes, call.id rt ++ tail < d.name → call.id rt ++ tail ∈ root.map IncidentDir.name

end CreateCall

/-- The root after the files of a directory were written. -/
def put (root : List IncidentDir) (dir : IncidentDir) : List IncidentDir :=
  (root.filter fun d => d.name != dir.name) ++ [dir]

/-- A call, with its directory and the root after it. -/
def create (rt : Runtime) (root : List IncidentDir) (call : CreateCall) :
    Except PyError (IncidentDir × List IncidentDir) := do
  let dir ← createArtifact rt (call.host root) call.args
  return (dir, put root dir)

/-- The root after calls that all return. -/
def creates (rt : Runtime) (root : List IncidentDir) : List CreateCall → Except PyError (List IncidentDir)
  | [] => .ok root
  | call :: calls => do
      let made ← create rt root call
      creates rt made.2 calls

/-- The call made a new directory, left the others as they were, and its directory is the latest one. -/
structure Newest (root : List IncidentDir) (dir : IncidentDir) (root' : List IncidentDir) : Prop where
  fresh : dir.name ∉ root.map IncidentDir.name
  kept : root' = root ++ [dir]
  latest : latestIncidentDir root' = .ok dir
  selected : ∀ given, selectIncidentDir true given root' = some (.ok dir)

/-- Every call of a run makes the latest directory. -/
def EachNewest (rt : Runtime) (calls : List CreateCall) : Prop :=
  ∀ before call root dir root', before ++ [call] <+: calls → creates rt [] before = .ok root →
    create rt root call = .ok (dir, root') → Newest root dir root'

section Calls

variable {rt : Runtime} {call earlier : CreateCall} {root root' : List IncidentDir} {dir : IncidentDir}

theorem name_createArtifact {host : Host} {args : CreateArguments} (h : createArtifact rt host args = .ok dir) :
    ∃ path, createUniqueIncidentDir host.mkdir (incidentId rt host.createdAt args.scenario) suffixes = .ok path ∧
      dir.name = pathName path := by
  simp only [createArtifact, bind_eq_ok_iff] at h
  obtain ⟨path, made, manifest, -, stateValue, -, state, -, health, -, v, -, file, -, command, -, docker, -, report, -,
    reportFile, -, hdir⟩ := h
  cases hdir
  exact ⟨path, made, rfl⟩

theorem slash_notMem_stamp (wall : Int) : 0x2F ∉ Datetime.stamp wall := by
  have digits : ∀ width n, 0x2F ∉ fixedDigits width n := by
    intro width n h
    have := le_of_mem_fixedDigits h
    omega
  simp [Datetime.stamp, digits]

theorem CreateCall.ValidName.slash_notMem (h : call.ValidName rt) : 0x2F ∉ call.id rt := by
  unfold CreateCall.id incidentId
  simp only [List.mem_append, List.mem_map, not_or]
  refine ⟨⟨⟨by decide, slash_notMem_stamp _⟩, by decide⟩, ?_⟩
  rintro ⟨c, hc, same⟩
  split_ifs at same
  · cases same
  · rw [same] at hc
    exact h hc

theorem mkdir_host (call : CreateCall) (root : List IncidentDir) (path : Text) :
    (call.host root).mkdir path = if path ∈ root.map IncidentDir.name then .fileExists else .created := rfl

theorem create_eq_ok (valid : call.ValidName rt) (h : create rt root call = .ok (dir, root')) :
    dir.name ∉ root.map IncidentDir.name ∧ root' = root ++ [dir] ∧
      ∃ before tail after, suffixes = before ++ tail :: after ∧ dir.name = call.id rt ++ tail ∧
        ∀ tried ∈ before, call.id rt ++ tried ∈ root.map IncidentDir.name := by
  obtain ⟨made, hmade, result⟩ := (bind_eq_ok_iff _ _ _).mp h
  cases result
  obtain ⟨path, allocated, name⟩ := name_createArtifact hmade
  obtain ⟨before, tail, after, split, rfl, created, tried⟩ := createUniqueIncidentDir_eq_ok_iff.mp allocated
  have taken : ∀ path, (call.host root).mkdir path = .fileExists → path ∈ root.map IncidentDir.name := by
    intro path h
    by_contra free
    rw [mkdir_host, if_neg free] at h
    cases h
  have plain : 0x2F ∉ call.id rt ++ tail := by
    have member : tail ∈ suffixes := by
      rw [split]
      simp
    rw [List.mem_append, not_or]
    exact ⟨valid.slash_notMem, slash_notMem_suffix member⟩
  have named : dir.name = call.id rt ++ tail := name.trans (pathName_of_notMem plain)
  have fresh : dir.name ∉ root.map IncidentDir.name := by
    intro there
    rw [named] at there
    have refused : (call.host root).mkdir (call.id rt ++ tail) = .fileExists := by
      rw [mkdir_host, if_pos there]
    cases refused.symm.trans created
  refine ⟨fresh, ?_, before, tail, after, split, named, fun t ht => taken _ (tried t ht)⟩
  have others : (root.filter fun d => d.name != dir.name) = root := by
    rw [List.filter_eq_self]
    intro d hd
    rw [bne_iff_ne]
    intro same
    exact fresh (same ▸ List.mem_map_of_mem hd)
  rw [put, others]

/-- A directory that some call made. -/
def MadeBy (rt : Runtime) (call : CreateCall) (d : IncidentDir) : Prop := ∃ tail, d.name = call.id rt ++ tail

theorem MadeBy.incident {d : IncidentDir} (h : MadeBy rt call d) : text "inc-" <+: d.name := by
  obtain ⟨tail, name⟩ := h
  rw [name, CreateCall.id, incidentId]
  simp only [List.append_assoc]
  exact List.prefix_append _ _

/-- Directories of an earlier second sort before. -/
theorem MadeBy.lt {d d' : IncidentDir} (h : MadeBy rt earlier d) (h' : MadeBy rt call d')
    (second : (earlier.now + kst) / 1000000 < (call.now + kst) / 1000000) : d.name < d'.name := by
  obtain ⟨tail, name⟩ := h
  obtain ⟨tail', name'⟩ := h'
  have stamps : Datetime.stamp (earlier.now + kst) < Datetime.stamp (call.now + kst) :=
    Datetime.stamp_lt second earlier.in_range call.in_range
  rw [name, name', CreateCall.id, CreateCall.id, incidentId, incidentId]
  simp only [List.append_assoc]
  refine List.append_left_lt (append_lt_append stamps ?_)
  rw [CreateCall.createdAt, CreateCall.createdAt, Datetime.length_stamp, Datetime.length_stamp]

/-- The call makes the latest directory if and only if its names are ordered. -/
theorem create_newest_iff (valid : call.ValidName rt)
    (made : ∀ d ∈ root, ∃ earlier, MadeBy rt earlier d ∧ earlier.now ≤ call.now)
    (h : create rt root call = .ok (dir, root')) : Newest root dir root' ↔ call.Ordered rt root := by
  obtain ⟨fresh, rfl, before, tail, after, split, name, tried⟩ := create_eq_ok valid h
  have own : MadeBy rt call dir := ⟨tail, name⟩
  have incidents : ∀ d ∈ root ++ [dir], text "inc-" <+: d.name := by
    intro d hd
    obtain old | new := List.mem_append.mp hd
    · obtain ⟨earlier, madeBy, -⟩ := made d old
      exact madeBy.incident
    · rw [List.mem_singleton.mp new]
      exact own.incident
  have latest_iff := latestIncidentDir_append_iff incidents fresh
  constructor
  · intro newest d hd _ other hother less
    have below := latest_iff.mp newest.latest d hd
    have sorted := suffixes_sorted
    rw [split] at hother sorted
    have between : other < tail := by
      rw [name] at below
      by_contra above
      obtain same | greater := (not_lt.mp above).eq_or_lt
      · rw [same] at below
        exact lt_asymm less below
      · exact lt_asymm (less.trans below) (List.append_left_lt greater)
    obtain front | back := List.mem_append.mp hother
    · exact tried other front
    · rw [List.pairwise_append, List.pairwise_cons] at sorted
      obtain same | back := List.mem_cons.mp back
      · exact absurd (same ▸ between) (lt_irrefl tail)
      · exact absurd (sorted.2.1.1 other back) (lt_asymm between)
  · intro ordered
    have latest : latestIncidentDir (root ++ [dir]) = .ok dir := by
      refine latest_iff.mpr fun d hd => ?_
      obtain ⟨earlier, madeBy, clock⟩ := made d hd
      obtain second | second := (show (earlier.now + kst) / 1000000 ≤ (call.now + kst) / 1000000 by omega).eq_or_lt
      · -- in one second the condition decides
        have stamped : text "inc-" ++ call.createdAt.stamp <+: d.name := by
          obtain ⟨tail', name'⟩ := madeBy
          rw [name', CreateCall.id, incidentId, List.append_assoc, List.append_assoc]
          rw [show call.createdAt.stamp = earlier.createdAt.stamp from (Datetime.stamp_congr second).symm]
          exact List.prefix_append _ _
        have suffix : tail ∈ suffixes := by
          rw [split]
          simp
        by_contra above
        have different : dir.name ≠ d.name := fun same => fresh (same ▸ List.mem_map_of_mem hd)
        have less : dir.name < d.name := lt_of_le_of_ne (not_lt.mp above) different
        rw [name] at less fresh
        exact fresh (ordered d hd stamped tail suffix less)
      · exact madeBy.lt own second
    exact ⟨fresh, rfl, latest, fun given => congrArg some latest⟩

end Calls

/-! ## Runs -/

section Runs

variable {rt : Runtime} {calls before : List CreateCall} {call : CreateCall} {root root' : List IncidentDir}

theorem creates_append (root : List IncidentDir) (calls : List CreateCall) :
    creates rt root (before ++ calls) = creates rt root before >>= fun root' => creates rt root' calls := by
  induction before generalizing root with
  | nil => rfl
  | cons call before ih =>
      rw [List.cons_append, creates, creates]
      cases create rt root call with
      | error e => rfl
      | ok made => exact ih made.2

theorem creates_concat : creates rt root (before ++ [call]) = .ok root' ↔
    ∃ root₀ dir, creates rt root before = .ok root₀ ∧ create rt root₀ call = .ok (dir, root') := by
  rw [creates_append, bind_eq_ok_iff]
  constructor
  · rintro ⟨root₀, first, last⟩
    obtain ⟨made, hmade, result⟩ := (bind_eq_ok_iff _ _ _).mp last
    cases result
    exact ⟨root₀, made.1, first, hmade⟩
  · rintro ⟨root₀, dir, first, last⟩
    exact ⟨root₀, first, (bind_eq_ok_iff _ _ _).mpr ⟨(dir, root'), last, rfl⟩⟩

/-- The directories of a run are those of its calls. -/
theorem madeBy_of_creates (valid : ∀ call ∈ calls, call.ValidName rt) (h : creates rt [] calls = .ok root) :
    ∀ d ∈ root, ∃ call ∈ calls, MadeBy rt call d := by
  induction calls using List.reverseRecOn generalizing root with
  | nil =>
      cases h
      simp
  | append_singleton calls call ih =>
      simp only [List.mem_append, List.mem_singleton] at valid ⊢
      obtain ⟨root₀, dir, first, last⟩ := creates_concat.mp h
      obtain ⟨-, rfl, before, tail, after, -, name, -⟩ := create_eq_ok (valid call (.inr rfl)) last
      intro d hd
      obtain old | new := List.mem_append.mp hd
      · obtain ⟨earlier, member, madeBy⟩ := ih (fun c hc => valid c (.inl hc)) first d old
        exact ⟨earlier, .inl member, madeBy⟩
      · exact ⟨call, .inr rfl, tail, List.mem_singleton.mp new ▸ name⟩

/-- Every call makes the latest directory if and only if the names of every call are ordered where it is made. -/
theorem latest_iff (rt : Runtime) (calls : List CreateCall) (root : List IncidentDir)
    (clock : calls.Pairwise fun earlier call => earlier.now ≤ call.now)
    (valid : ∀ call ∈ calls, call.ValidName rt) (successful : creates rt [] calls = .ok root) :
    EachNewest rt calls ↔
      ∀ before call root₀, before ++ [call] <+: calls → creates rt [] before = .ok root₀ → call.Ordered rt root₀ := by
  have step : ∀ {before call root₀ dir root₁}, before ++ [call] <+: calls → creates rt [] before = .ok root₀ →
      create rt root₀ call = .ok (dir, root₁) → (Newest root₀ dir root₁ ↔ call.Ordered rt root₀) := by
    intro before call root₀ dir root₁ hprefix first last
    have member : ∀ c, c ∈ before ∨ c = call → c ∈ calls := fun c hc => hprefix.subset (by simpa using hc)
    refine create_newest_iff (valid call (member call (.inr rfl))) (fun d hd => ?_) last
    obtain ⟨earlier, hearlier, madeBy⟩ := madeBy_of_creates (fun c hc => valid c (member c (.inl hc))) first d hd
    have ordered := clock.sublist hprefix.sublist
    rw [List.pairwise_append] at ordered
    exact ⟨earlier, madeBy, ordered.2.2 earlier hearlier call (List.mem_singleton_self call)⟩
  constructor
  · intro newest before call root₀ hprefix first
    obtain ⟨rest, whole⟩ := hprefix
    rw [← whole, creates_append, bind_eq_ok_iff] at successful
    obtain ⟨root₁, made, -⟩ := successful
    obtain ⟨root₀', dir, first', last⟩ := creates_concat.mp made
    rw [first, Except.ok.injEq] at first'
    rw [← first'] at last
    exact (step ⟨rest, whole⟩ first last).mp (newest before call root₀ dir root₁ ⟨rest, whole⟩ first last)
  · intro ordered before call root₀ dir root₁ hprefix first last
    exact (step hprefix first last).mpr (ordered before call root₀ hprefix first)

end Runs

/-! ## Two calls -/

namespace Trial

/-- A text without surrogates. -/
def Plain (s : Text) : Prop := (s.any fun c => isHigh c || isLow c) = false

theorem plain_text (s : String) : Plain (text s) := by
  unfold Plain text
  rw [List.any_map, List.any_eq_false]
  intro c _
  have valid : c.toNat < 0xD800 ∨ (0xDFFF < c.toNat ∧ c.toNat < 0x110000) := c.valid
  simp only [Function.comp_apply, isHigh, isLow, Bool.or_eq_true, Bool.and_eq_true, decide_eq_true_eq]
  omega

theorem plain_append_iff {s t : Text} : Plain (s ++ t) ↔ Plain s ∧ Plain t := by
  unfold Plain
  rw [List.any_append, Bool.or_eq_false_iff]

theorem textFile_of_plain {s : Text} (h : Plain s) : textFile s = .ok s := by
  unfold textFile
  rw [h]
  rfl

theorem plain_floatText (x : PyFloat) : Plain (cpython.floatText x) := by
  cases x <;> exact plain_text _

theorem plain_severityFor (scenario : Text) : Plain (severityFor scenario) := plain_text _

/-- A call without files to read. -/
structure Quiet (call : CreateCall) : Prop where
  scenario : Plain call.args.scenario
  source : Plain call.args.source
  runId : call.args.runId = none
  writeSuspendState : call.args.writeSuspendState = none
  ph1 : call.args.ph1 = .notGiven
  docker : Plain call.dockerComposeStatus

theorem jsonFile_of_nesting {v : Value} (h : v.nesting ≤ 320) :
    jsonFile cpython v = .ok (encode cpython 0 v ++ [0x0A]) := by
  have written : dumps cpython v = .ok (encode cpython 0 v) := if_pos h
  unfold jsonFile
  rw [written]
  rfl

theorem renderReport_eq_ok {id scenario createdAt source runId : Text} (hid : Plain id) (hscenario : Plain scenario)
    (hcreatedAt : Plain createdAt) (hsource : Plain source) (hrunId : Plain runId) :
    ∃ report, renderReport cpython ⟨id, scenario, createdAt, source, runId⟩ (.dict emptySummary) = .ok report ∧
      Plain report := by
  have retry :
      cpython.str (getOr emptySummary "retry_after_present" (.str (text "unknown"))) = .ok (text "unknown") := by
    decide +kernel
  have check : cpython.str (getOr emptySummary "result" notCollected) = .ok (text "not_collected") := by
    decide +kernel
  unfold renderReport
  simp only [retry, check, bind, Except.bind, pure, Except.pure, Except.ok.injEq, exists_eq_left']
  simp only [plain_append_iff, plain_text, plain_floatText, plain_severityFor, hid, hscenario, hcreatedAt, hsource,
    hrunId, and_self]

theorem nesting_manifest (m : Manifest) : m.toValue.nesting ≤ 320 := Nat.le_of_ble_eq_true rfl

theorem plain_isoformat (call : CreateCall) : Plain call.createdAt.isoformat := by
  unfold CreateCall.createdAt
  dsimp only
  generalize Datetime.isoformat _ = s
  exact plain_text s

/-- Where a name is free, the call goes through. -/
theorem createArtifact_eq_ok {call : CreateCall} {root : List IncidentDir} {path : Text} (quiet : Quiet call)
    (plain : Plain (pathName path))
    (allocated : createUniqueIncidentDir (call.host root).mkdir (call.id cpython) suffixes = .ok path) :
    ∃ dir, createArtifact cpython (call.host root) call.args = .ok dir := by
  obtain ⟨report, rendered, written⟩ := renderReport_eq_ok plain quiet.scenario (plain_isoformat call) quiet.source
    (plain_text "not_collected")
  have manifest := jsonFile_of_nesting (nesting_manifest
    ⟨pathName path, call.args.scenario, call.createdAt.isoformat, call.args.source, text "not_collected"⟩)
  have health : healthReadySummary.nesting ≤ 320 := Nat.le_of_ble_eq_true rfl
  have commands : commandResults.nesting ≤ 320 := Nat.le_of_ble_eq_true rfl
  have summary : (Value.dict emptySummary).nesting ≤ 320 := Nat.le_of_ble_eq_true rfl
  have state : (Value.dict [
      (text "active", .bool false), (text "reason", notCollected), (text "retry_after_seconds", notCollected),
      (text "source", notCollected), (text "run_id", notCollected),
      (text "sensitive_data_included", .bool false)]).nesting ≤ 320 := Nat.le_of_ble_eq_true rfl
  have noReport : consistencySummary cpython .notGiven = .ok (.dict emptySummary) := rfl
  have time : (call.host root).createdAt.isoformat = call.createdAt.isoformat := rfl
  have docker : (call.host root).dockerComposeStatus = call.dockerComposeStatus := rfl
  simp only [createArtifact, bind_ok_iff, quiet.runId, quiet.writeSuspendState, quiet.ph1, time, docker]
  exact ⟨path, allocated, _, manifest, _, rfl, _, jsonFile_of_nesting state, _, jsonFile_of_nesting health, _, noReport,
    _, jsonFile_of_nesting summary, _, jsonFile_of_nesting commands, _, textFile_of_plain quiet.docker, _, rendered, _,
    textFile_of_plain written, _, rfl⟩

theorem create_of_free {call : CreateCall} (root : List IncidentDir) (quiet : Quiet call)
    (valid : call.ValidName cpython) (plain : Plain (call.id cpython))
    (free : call.id cpython ∉ root.map IncidentDir.name) :
    ∃ dir, create cpython root call = .ok (dir, root ++ [dir]) ∧ dir.name = call.id cpython := by
  have own : call.id cpython ++ [] = call.id cpython := List.append_nil _
  have allocated :
      createUniqueIncidentDir (call.host root).mkdir (call.id cpython) suffixes = .ok (call.id cpython) := by
    refine createUniqueIncidentDir_eq_ok_iff.mpr ⟨[], [], _, rfl, own.symm, ?_, by simp⟩
    rw [mkdir_host, if_neg free]
  have path : pathName (call.id cpython) = call.id cpython := pathName_of_notMem valid.slash_notMem
  obtain ⟨dir, made⟩ := createArtifact_eq_ok quiet (path.symm ▸ plain) allocated
  have created : create cpython root call = .ok (dir, put root dir) :=
    (bind_eq_ok_iff _ _ _).mpr ⟨dir, made, rfl⟩
  obtain ⟨-, same, -⟩ := create_eq_ok valid created
  obtain ⟨path', allocated', name⟩ := name_createArtifact made
  have unique : path' = call.id cpython := Except.ok.inj (allocated'.symm.trans allocated)
  rw [unique, path] at name
  exact ⟨dir, same ▸ created, name⟩

/-- A call on a machine without evidence, in a second of one minute. -/
def callAt (second : Fin 60) (scenario : String) : CreateCall where
  now := 1778576400000000 + second * 1000000
  in_range := by
    unfold Datetime.InRange kst
    omega
  args := ⟨text scenario, none, text "manual", none, .notGiven⟩
  dockerComposeStatus := text "docker_compose_status: not_collected\n"

theorem quiet (second : Fin 60) (scenario : String) : Quiet (callAt second scenario) where
  scenario := plain_text scenario
  source := plain_text "manual"
  runId := rfl
  writeSuspendState := rfl
  ph1 := rfl
  docker := plain_text "docker_compose_status: not_collected\n"

def first : CreateCall := callAt 0 "POSTGRES_DOWN"

/-- In the same second. -/
def second : CreateCall := callAt 0 "CONSISTENCY_VIOLATION"

def later : CreateCall := callAt 1 "CONSISTENCY_VIOLATION"

theorem valid_first : first.ValidName cpython := by
  unfold CreateCall.ValidName
  decide +kernel

theorem valid_second : second.ValidName cpython := by
  unfold CreateCall.ValidName
  decide +kernel

/-- Two calls that take different names go through. -/
theorem two_calls {a b : CreateCall} (quiet_a : Quiet a) (quiet_b : Quiet b) (valid_a : a.ValidName cpython)
    (valid_b : b.ValidName cpython) (plain_a : Plain (a.id cpython)) (plain_b : Plain (b.id cpython))
    (other : b.id cpython ≠ a.id cpython) :
    ∃ d d', create cpython [] a = .ok (d, [d]) ∧ create cpython [d] b = .ok (d', [d, d']) ∧
      d.name = a.id cpython ∧ d'.name = b.id cpython := by
  obtain ⟨d, made, name⟩ := create_of_free [] quiet_a valid_a plain_a (by simp)
  obtain ⟨d', made', name'⟩ := create_of_free [d] quiet_b valid_b plain_b (by simpa [name] using other)
  exact ⟨d, d', made, made', name, name'⟩

theorem creates_one {a : CreateCall} {d : IncidentDir} (made : create cpython [] a = .ok (d, [d])) :
    creates cpython [] [a] = .ok [d] := by
  rw [creates, made]
  rfl

theorem creates_two {a b : CreateCall} {d d' : IncidentDir} (made : create cpython [] a = .ok (d, [d]))
    (made' : create cpython [d] b = .ok (d', [d, d'])) : creates cpython [] [a, b] = .ok [d, d'] := by
  rw [creates, made]
  show (create cpython [d] b >>= fun made => creates cpython made.2 []) = _
  rw [made']
  rfl

theorem prefix_pair {a b call : CreateCall} {before : List CreateCall} (h : before ++ [call] <+: [a, b]) :
    (before = [] ∧ call = a) ∨ (before = [a] ∧ call = b) := by
  obtain ⟨rest, whole⟩ := h
  rcases before with - | ⟨c, - | ⟨c', before⟩⟩
  · exact .inl ⟨rfl, (List.cons.inj whole).1⟩
  · simp only [List.cons_append, List.nil_append, List.cons.injEq] at whole
    exact .inr ⟨by rw [whole.1], whole.2.1⟩
  · simp at whole

end Trial

theorem latest_in_two_seconds : EachNewest cpython [Trial.first, Trial.later] := by
  have plain : Trial.Plain (Trial.first.id cpython) ∧ Trial.Plain (Trial.later.id cpython) := by
    unfold Trial.Plain
    decide +kernel
  have other : Trial.later.id cpython ≠ Trial.first.id cpython := by
    decide +kernel
  obtain ⟨d, d', made, made', name, name'⟩ := Trial.two_calls (a := Trial.first) (b := Trial.later) (Trial.quiet 0 _)
    (Trial.quiet 1 _) Trial.valid_first Trial.valid_second plain.1 plain.2 other
  refine (latest_iff cpython [Trial.first, Trial.later] [d, d'] ?_ ?_ (Trial.creates_two made made')).mpr ?_
  · simp [Trial.first, Trial.later, Trial.callAt]
  · simpa using ⟨Trial.valid_first, Trial.valid_second⟩
  · intro before call root hprefix run
    obtain ⟨rfl, rfl⟩ | ⟨rfl, rfl⟩ := Trial.prefix_pair hprefix
    · cases run
      intro e he
      cases he
    · have same : [d] = root := Except.ok.inj ((Trial.creates_one made).symm.trans run)
      have apart : ¬text "inc-" ++ Trial.later.createdAt.stamp <+: Trial.first.id cpython := by
        decide +kernel
      rw [← same]
      intro e he stamped
      rw [List.mem_singleton.mp he, name] at stamped
      exact absurd stamped apart

/-- The second directory sorts before the first one. -/
theorem latest_in_one_second : [Trial.first, Trial.second].Pairwise (fun earlier call => earlier.now ≤ call.now) ∧
    (∀ call ∈ [Trial.first, Trial.second], call.ValidName cpython) ∧
      (∃ root, creates cpython [] [Trial.first, Trial.second] = .ok root) ∧
        ¬EachNewest cpython [Trial.first, Trial.second] := by
  have plain : Trial.Plain (Trial.first.id cpython) ∧ Trial.Plain (Trial.second.id cpython) := by
    unfold Trial.Plain
    decide +kernel
  have other : Trial.second.id cpython ≠ Trial.first.id cpython := by
    decide +kernel
  have before : Trial.second.id cpython < Trial.first.id cpython := by
    decide +kernel
  obtain ⟨d, d', made, made', name, name'⟩ := Trial.two_calls (a := Trial.first) (b := Trial.second) (Trial.quiet 0 _)
    (Trial.quiet 0 _) Trial.valid_first Trial.valid_second plain.1 plain.2 other
  refine ⟨?_, ?_, ⟨_, Trial.creates_two made made'⟩, fun newest => ?_⟩
  · simp [Trial.first, Trial.second, Trial.callAt]
  · simpa using ⟨Trial.valid_first, Trial.valid_second⟩
  · have last := newest [Trial.first] Trial.second [d] d' [d, d'] List.prefix_rfl (Trial.creates_one made) made'
    have incidents : ∀ e ∈ [d] ++ [d'], text "inc-" <+: e.name := by
      simpa [name, name'] using (by decide +kernel :
        text "inc-" <+: Trial.first.id cpython ∧ text "inc-" <+: Trial.second.id cpython)
    have sorted := (latestIncidentDir_append_iff incidents last.fresh).mp last.latest d (List.mem_singleton_self d)
    rw [name, name'] at sorted
    exact lt_asymm sorted before

end EventConsistency.IncidentArtifact
