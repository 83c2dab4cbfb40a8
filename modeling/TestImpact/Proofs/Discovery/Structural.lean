import TestImpact.Discovery.Resolver
import TestImpact.Proofs.Discovery.Naming
import TestImpact.Proofs.Entries
import TestImpact.Proofs.FileSystem.Walk
import TestImpact.Proofs.Outcome
import TestImpact.Proofs.SmallProject

/-!
# Tests at the same place

Resolving by place asks for each changed path alone and remembers nothing (`gives_resolve`), so
what changed paths affect is a plain function of them (`affectedAt`). It fails for two reasons
only: a path is too long, or a source file lies in the source root and its test name does not
(`testsAt_eq_error_iff`). The second happens to names with a backslash, which is a character of the
name for one question and a separator for the other, and otherwise only to a file that is itself
the source root (`misplaced_iff`). Main statement: `resolves_unless_spoiled`.

Only the tests of a source file depend on how tests are found. What is the same for all strategies
is stated for any way to find them (`dispatch`, `Affected.collect`).
-/

namespace TestImpact

/-! ## Entries of a map -/

namespace Affected

/-- The changed paths of a map are those met so far, each once, and each has its own tests. -/
structure Records (tests : String → Except Failure (List String)) (met : List String)
    (affected : Affected) : Prop where
  keys : affected.map Prod.fst = met.eraseDups
  own : ∀ entry ∈ affected, tests entry.1 = .ok entry.2

theorem mem_put {affected : Affected} {path : String} {tests : List String}
    {entry : String × List String} (mem : entry ∈ affected.put path tests) :
    entry ∈ affected ∨ entry = (path, tests) := by
  rw [put_eq] at mem
  exact Entries.mem_put mem

variable {tests : String → Except Failure (List String)} {met : List String} {affected : Affected}

theorem Records.put (records : Records tests met affected) {path : String} {found : List String}
    (own : tests path = .ok found) : Records tests (met ++ [path]) (affected.put path found) where
  keys := by
    rw [put_eq, Entries.keys_put, records.keys, List.eraseDups_append]
    by_cases known : path ∈ met
    · simp [known, List.removeAll]
    · simp [known, List.removeAll, List.eraseDups_cons]
  own entry mem := by
    rcases mem_put mem with old | rfl
    · exact records.own entry old
    · exact own

/-- Each of some changed paths with its tests. -/
def collect (tests : String → Except Failure (List String)) (paths : List String) :
    Except Failure Affected :=
  paths.foldlM (fun affected path => do pure (Affected.put affected path (← tests path))) []

theorem records_collect {paths : List String} (resolved : collect tests paths = .ok affected) :
    Records tests paths affected := by
  have kept : ∀ (rest met : List String) (start : Affected), Records tests met start →
      rest.foldlM (fun affected path => do
        pure (Affected.put affected path (← tests path))) start = .ok affected →
      Records tests (met ++ rest) affected := by
    intro rest
    induction rest with
    | nil =>
      intro met start records ended
      cases ended
      rwa [List.append_nil]
    | cons path rest ih =>
      intro met start records ended
      rw [List.foldlM_cons] at ended
      obtain ⟨next, stepped, ended⟩ := of_bind_ok ended
      obtain ⟨found, own, same⟩ := of_bind_ok stepped
      cases same
      have grown := ih (met ++ [path]) _ (records.put own) ended
      rwa [List.append_assoc, List.singleton_append] at grown
  exact kept paths [] [] ⟨rfl, fun _ mem => nomatch mem⟩ resolved

theorem collect_meets (tests : String → Except Failure (List String)) (paths : List String) :
    Meets (paths.flatMap fun path => (problem? (tests path)).toList) (collect tests paths) := by
  refine Meets.foldlM (fun affected path _ => ?_) []
  exact (Meets.of_problem? (tests path)).map fun found => Affected.put affected path found

/-- All changed paths are looked up exactly if each of them is. -/
theorem exists_collect_iff {paths : List String} :
    (∃ affected, collect tests paths = .ok affected) ↔
      ∀ path ∈ paths, ∃ found, tests path = .ok found := by
  rw [(collect_meets tests paths).ok_iff, List.flatMap_eq_nil_iff]
  exact forall₂_congr fun path _ => (Meets.of_problem? (tests path)).ok_iff.symm

theorem exists_of_collect_error {paths : List String} {failure : Failure}
    (failed : collect tests paths = .error failure) :
    ∃ path ∈ paths, tests path = .error failure := by
  have first := (collect_meets tests paths).error_iff.1 failed
  obtain ⟨path, mem, spoilt⟩ := List.mem_flatMap.1 (List.mem_of_mem_head? first)
  exact ⟨path, mem, mem_problem?.1 spoilt⟩

end Affected

/-! ## Actions that leave the memory alone -/

namespace Resolving

variable {α β : Type}

/-- The action comes to the outcome, whatever is remembered, and remembers nothing more. -/
def Gives (action : Resolving α) (outcome : Except Failure α) : Prop :=
  ∀ memory, action.run.run memory = (outcome, memory)

theorem gives_pure (a : α) : Gives (pure a) (pure a) :=
  fun _ => rfl

theorem gives_lift (outcome : Except Failure α) : Gives (monadLift outcome) outcome := by
  intro memory
  cases outcome <;> rfl

/-- How the outcome of a sequence comes about. -/
theorem run_bind (action : Resolving α) (next : α → Resolving β) (memory : Memory) :
    (action >>= next).run.run memory =
      match action.run.run memory with
      | (.ok a, between) => (next a).run.run between
      | (.error failure, between) => (.error failure, between) := by
  simp only [ExceptT.run_bind, StateT.run_bind]
  rcases action.run.run memory with ⟨_ | _, _⟩ <;> rfl

theorem Gives.bind {action : Resolving α} {outcome : Except Failure α}
    {next : α → Resolving β} {later : α → Except Failure β} (first : action.Gives outcome)
    (rest : ∀ a, (next a).Gives (later a)) : (action >>= next).Gives (outcome >>= later) := by
  intro memory
  rw [run_bind, first memory]
  cases outcome with
  | error failure => rfl
  | ok a => exact rest a memory

theorem gives_foldlM {step : β → α → Resolving β} {plain : β → α → Except Failure β}
    (each : ∀ b a, (step b a).Gives (plain b a)) (start : β) (items : List α) :
    (items.foldlM step start).Gives (items.foldlM plain start) := by
  induction items generalizing start with
  | nil => exact gives_pure start
  | cons item rest ih =>
    rw [List.foldlM_cons, List.foldlM_cons]
    exact (each start item).bind ih

end Resolving

namespace Resolver

variable {r : Resolver} {fs : FileSystem} {path : String}

/-- The text of the place of a path on disk. -/
def placeText (r : Resolver) (path : String) : String :=
  (r.onDisk path).toString

/-- The changed path itself, if it is a test. -/
def ownTest (r : Resolver) (fs : FileSystem) (path : String) : List String :=
  if Lexical.within fs.cwd (r.placeText path) r.testRoot &&
    Convention.endsWith path r.convention.testSuffix then [path] else []

/-- The tests of a changed path, if `ofSource` finds those of a source file. -/
def dispatch (r : Resolver) (fs : FileSystem) (ofSource : String → Except Failure (List String))
    (path : String) : Except Failure (List String) := do
  if ← orFailure (fs.isDirectory (r.onDisk path)) then
    r.testsOfDirectory fs path (r.placeText path)
  else if !Convention.endsWith path r.convention.sourceSuffix then pure []
  else
    let others ←
      if Lexical.within fs.cwd (r.placeText path) r.sourceRoot then ofSource (r.placeText path)
      else pure []
    pure (r.ownTest fs path ++ others)

section Dispatch

variable {ofSource : String → Except Failure (List String)}

theorem dispatch_of_fault {fault : Fault} (asked : fs.isDirectory (r.onDisk path) = .error fault) :
    r.dispatch fs ofSource path = .error (.file fault) := by
  rw [dispatch, asked]
  rfl

theorem dispatch_of_directory (asked : fs.isDirectory (r.onDisk path) = .ok true) :
    r.dispatch fs ofSource path = r.testsOfDirectory fs path (r.placeText path) := by
  rw [dispatch, asked]
  generalize r.testsOfDirectory fs path (r.placeText path) = tests
  rfl

theorem dispatch_of_other (asked : fs.isDirectory (r.onDisk path) = .ok false)
    (other : Convention.endsWith path r.convention.sourceSuffix = false) :
    r.dispatch fs ofSource path = .ok [] := by
  rw [dispatch, asked, other]
  rfl

theorem dispatch_of_source (asked : fs.isDirectory (r.onDisk path) = .ok false)
    (ends : Convention.endsWith path r.convention.sourceSuffix = true)
    (inside : Lexical.within fs.cwd (r.placeText path) r.sourceRoot = true) :
    r.dispatch fs ofSource path =
      (fun others => r.ownTest fs path ++ others) <$> ofSource (r.placeText path) := by
  rw [dispatch, asked, ends, inside]
  cases ofSource (r.placeText path) <;> rfl

theorem dispatch_of_not_source (asked : fs.isDirectory (r.onDisk path) = .ok false)
    (ends : Convention.endsWith path r.convention.sourceSuffix = true)
    (outside : Lexical.within fs.cwd (r.placeText path) r.sourceRoot = false) :
    r.dispatch fs ofSource path = .ok (r.ownTest fs path) := by
  rw [dispatch, asked, ends, outside]
  exact congrArg Except.ok (List.append_nil _)

end Dispatch

/-- The tests of a changed path, found by their places alone. -/
def testsAt (r : Resolver) (fs : FileSystem) (path : String) : Except Failure (List String) := do
  if ← orFailure (fs.isDirectory (r.onDisk path)) then
    r.testsOfDirectory fs path (r.placeText path)
  else if !Convention.endsWith path r.convention.sourceSuffix then pure []
  else
    let others ←
      if Lexical.within fs.cwd (r.placeText path) r.sourceRoot then
        (fun test => [test]) <$> r.counterpart fs (r.placeText path)
      else pure []
    pure (r.ownTest fs path ++ others)

theorem testsAt_eq_dispatch (r : Resolver) (fs : FileSystem) (path : String) :
    r.testsAt fs path =
      r.dispatch fs (fun place => (fun test => [test]) <$> r.counterpart fs place) path :=
  rfl

theorem gives_testsOfSource (structural : r.strategy = .structural) (fs : FileSystem)
    (place : String) :
    (r.testsOfSource fs place).Gives ((fun test => [test]) <$> r.counterpart fs place) := by
  unfold testsOfSource
  rw [structural, map_eq_pure_bind]
  exact (Resolving.gives_lift _).bind fun _ => Resolving.gives_pure _

theorem gives_testsOf (structural : r.strategy = .structural) (fs : FileSystem) (path : String) :
    (r.testsOf fs path).Gives (r.testsAt fs path) := by
  unfold testsOf testsAt ownTest placeText
  refine (Resolving.gives_lift _).bind fun directory => ?_
  split
  · exact Resolving.gives_lift _
  · split
    · exact Resolving.gives_pure _
    · dsimp only
      by_cases inside : Lexical.within fs.cwd (r.onDisk path).toString r.sourceRoot = true
      · rw [if_pos inside, if_pos inside]
        exact (gives_testsOfSource structural fs _).bind fun _ => Resolving.gives_pure _
      · rw [if_neg inside, if_neg inside]
        exact (Resolving.gives_pure _).bind fun _ => Resolving.gives_pure _

theorem testsAt_of_fault {fault : Fault} (asked : fs.isDirectory (r.onDisk path) = .error fault) :
    r.testsAt fs path = .error (.file fault) := by
  rw [testsAt_eq_dispatch, dispatch_of_fault asked]

theorem testsAt_of_directory (asked : fs.isDirectory (r.onDisk path) = .ok true) :
    r.testsAt fs path = r.testsOfDirectory fs path (r.placeText path) := by
  rw [testsAt_eq_dispatch, dispatch_of_directory asked]

theorem testsAt_of_other (asked : fs.isDirectory (r.onDisk path) = .ok false)
    (other : Convention.endsWith path r.convention.sourceSuffix = false) :
    r.testsAt fs path = .ok [] := by
  rw [testsAt_eq_dispatch, dispatch_of_other asked other]

theorem testsAt_of_source (asked : fs.isDirectory (r.onDisk path) = .ok false)
    (ends : Convention.endsWith path r.convention.sourceSuffix = true)
    (inside : Lexical.within fs.cwd (r.placeText path) r.sourceRoot = true) :
    r.testsAt fs path =
      (fun test => r.ownTest fs path ++ [test]) <$> r.counterpart fs (r.placeText path) := by
  rw [testsAt_eq_dispatch, dispatch_of_source asked ends inside]
  cases r.counterpart fs (r.placeText path) <;> rfl

theorem testsAt_of_not_source (asked : fs.isDirectory (r.onDisk path) = .ok false)
    (ends : Convention.endsWith path r.convention.sourceSuffix = true)
    (outside : Lexical.within fs.cwd (r.placeText path) r.sourceRoot = false) :
    r.testsAt fs path = .ok (r.ownTest fs path) := by
  rw [testsAt_eq_dispatch, dispatch_of_not_source asked ends outside]

/-- What changed paths affect, found by their places alone. -/
def affectedAt (r : Resolver) (fs : FileSystem) (paths : List String) : Except Failure Affected :=
  paths.foldlM (fun affected path => do
    pure (Affected.put affected path (← r.testsAt fs path))) []

theorem gives_resolve (structural : r.strategy = .structural) (fs : FileSystem)
    (paths : List String) : (r.resolve fs paths).Gives (r.affectedAt fs paths) :=
  Resolving.gives_foldlM
    (fun _ path => (gives_testsOf structural fs path).bind fun _ => Resolving.gives_pure _) [] paths

theorem resolve_singleton (r : Resolver) (fs : FileSystem) (path : String) :
    r.resolve fs [path] = r.testsOf fs path >>= fun tests => pure [(path, tests)] := by
  rw [resolve, List.foldlM_cons, bind_assoc]
  rfl

/-- A path alone is given its tests. -/
theorem gives_resolve_singleton {outcome : Except Failure (List String)}
    (gives : (r.testsOf fs path).Gives outcome) :
    (r.resolve fs [path]).Gives ((fun tests => [(path, tests)]) <$> outcome) := by
  rw [resolve_singleton, map_eq_pure_bind]
  exact gives.bind fun _ => Resolving.gives_pure _

/-- The tests of a directory are found by places under both strategies. -/
theorem gives_testsOf_of_directory (asked : fs.isDirectory (r.onDisk path) = .ok true) :
    (r.testsOf fs path).Gives (r.testsAt fs path) := by
  intro memory
  unfold testsOf
  rw [testsAt_of_directory asked, asked]
  exact Resolving.gives_lift (r.testsOfDirectory fs path (r.placeText path)) memory

theorem affectedAt_eq_collect (r : Resolver) (fs : FileSystem) (paths : List String) :
    r.affectedAt fs paths = Affected.collect (r.testsAt fs) paths :=
  rfl

/-! ## What goes wrong -/

/-- A source file whose name is changed to a test name that lies outside the source root. -/
def Misplaced (r : Resolver) (fs : FileSystem) (path : String) : Prop :=
  fs.isDirectory (r.onDisk path) = .ok false ∧
    Convention.endsWith path r.convention.sourceSuffix = true ∧
    Lexical.within fs.cwd (r.placeText path) r.sourceRoot = true ∧
    Lexical.within fs.cwd (r.convention.counterpart (r.placeText path)) r.sourceRoot = false

/-- A path with a name that is too long, where it is or where its tests are looked for. -/
def TooLong (r : Resolver) (fs : FileSystem) (path : String) : Prop :=
  fs.isDirectory (r.onDisk path) = .error .nameTooLong ∨
    fs.isDirectory (r.onDisk path) = .ok true ∧
      Lexical.within fs.cwd (r.placeText path) r.testRoot = false ∧
      ∃ directory,
        Lexical.transplant? fs.cwd (r.placeText path) r.sourceRoot r.testRoot = some directory ∧
        fs.locate true (Path.ofString directory) = .error .nameTooLong

/-- What goes wrong with a path. -/
def Spoils (r : Resolver) (fs : FileSystem) (path : String) (failure : Failure) : Prop :=
  r.Misplaced fs path ∧
      failure = .outside (r.convention.counterpart (r.placeText path)) r.sourceRoot ∨
    r.TooLong fs path ∧ failure = .file .nameTooLong

theorem testsBelow_eq_error_iff {base : Option Path} {directory suffix : String}
    {failure : Failure} :
    testsBelow fs base directory suffix = .error failure ↔
      fs.locate true (CoverageIndex.anchored base directory) = .error .nameTooLong ∧
        failure = .file .nameTooLong := by
  unfold testsBelow
  dsimp only
  split
  next found => simp [found, pure, Except.pure]
  next fault found =>
    by_cases absent : fault.isAbsence = true
    · have short : fault ≠ .nameTooLong := by
        rintro rfl
        cases absent
      simp [found, absent, short, pure, Except.pure]
    · obtain rfl := (FileSystem.fault_of_locate found).resolve_left absent
      rw [if_neg absent]
      simp [found, eq_comm, throw, throwThe, MonadExceptOf.throw]
  next other found =>
    have led : fs.locate true (CoverageIndex.anchored base directory) ≠ .error .nameTooLong := by
      rw [found]
      exact fun same => nomatch same
    simp [led, pure, Except.pure]

theorem counterpart_eq_error_iff {place : String} {failure : Failure} :
    r.counterpart fs place = .error failure ↔
      Lexical.within fs.cwd (r.convention.counterpart place) r.sourceRoot = false ∧
        failure = .outside (r.convention.counterpart place) r.sourceRoot := by
  unfold counterpart Lexical.transplant?
  by_cases inside :
      Lexical.within fs.cwd (r.convention.counterpart place) r.sourceRoot = true
  · simp [inside]
  · simp [inside, eq_comm]

theorem counterpart_eq_ok_iff {place test : String} :
    r.counterpart fs place = .ok test ↔
      Lexical.transplant? fs.cwd (r.convention.counterpart place) r.sourceRoot r.testRoot =
        some test := by
  unfold counterpart
  dsimp only
  cases Lexical.transplant? fs.cwd (r.convention.counterpart place) r.sourceRoot r.testRoot <;>
    simp

/-- A look-up fails at a path that is too long, or where that of a source file does. -/
theorem dispatch_eq_error_iff {ofSource : String → Except Failure (List String)}
    {failure : Failure} :
    r.dispatch fs ofSource path = .error failure ↔
      (fs.isDirectory (r.onDisk path) = .ok false ∧
        Convention.endsWith path r.convention.sourceSuffix = true ∧
        Lexical.within fs.cwd (r.placeText path) r.sourceRoot = true ∧
        ofSource (r.placeText path) = .error failure) ∨
      r.TooLong fs path ∧ failure = .file .nameTooLong := by
  unfold TooLong
  cases asked : fs.isDirectory (r.onDisk path) with
  | error fault =>
    obtain rfl := FileSystem.fault_of_ask asked
    rw [dispatch_of_fault asked]
    simp [eq_comm (b := failure)]
  | ok directory =>
    cases directory with
    | true =>
      obtain ⟨location, led⟩ := FileSystem.isDirectory_eq_true_iff.1 asked
      have short : fs.locate true (r.onDisk path) ≠ .error .nameTooLong := by
        rw [led]
        exact fun same => nomatch same
      rw [dispatch_of_directory asked, testsOfDirectory]
      by_cases test : Lexical.within fs.cwd (r.placeText path) r.testRoot = true
      · rw [if_pos test, testsBelow_eq_error_iff]
        constructor
        · rintro ⟨same, -⟩
          exact absurd same short
        · simp [test]
      · rw [if_neg test]
        cases moved :
            Lexical.transplant? fs.cwd (r.placeText path) r.sourceRoot r.testRoot with
        | none => simp
        | some directory =>
          simp only
          rw [testsBelow_eq_error_iff]
          simp [test, CoverageIndex.anchored]
    | false =>
      by_cases ends : Convention.endsWith path r.convention.sourceSuffix = true
      · by_cases inside : Lexical.within fs.cwd (r.placeText path) r.sourceRoot = true
        · rw [dispatch_of_source asked ends inside]
          cases ofSource (r.placeText path) <;> simp [ends, inside]
        · rw [dispatch_of_not_source asked ends (Bool.eq_false_iff.2 inside)]
          simp [inside]
      · rw [dispatch_of_other asked (Bool.eq_false_iff.2 ends)]
        simp [ends]

theorem testsAt_eq_error_iff {failure : Failure} :
    r.testsAt fs path = .error failure ↔ r.Spoils fs path failure := by
  have mapped : ((fun test => [test]) <$> r.counterpart fs (r.placeText path)) = .error failure ↔
      r.counterpart fs (r.placeText path) = .error failure := by
    cases r.counterpart fs (r.placeText path) <;> simp
  rw [testsAt_eq_dispatch, dispatch_eq_error_iff, mapped, counterpart_eq_error_iff, Spoils,
    Misplaced]
  simp only [and_assoc]

theorem exists_testsAt_iff :
    (∃ tests, r.testsAt fs path = .ok tests) ↔ ¬ r.Misplaced fs path ∧ ¬ r.TooLong fs path := by
  simp only [exists_ok_iff, ne_eq, testsAt_eq_error_iff, Spoils]
  constructor
  · intro clean
    exact ⟨fun misplaced => clean _ (Or.inl ⟨misplaced, rfl⟩), fun long => clean _ (Or.inr ⟨long, rfl⟩)⟩
  · rintro ⟨placed, short⟩ failure (⟨misplaced, -⟩ | ⟨long, -⟩)
    · exact placed misplaced
    · exact short long

theorem testsAt_of_outside {tests : List String} (found : r.testsAt fs path = .ok tests)
    (source : Lexical.within fs.cwd (r.placeText path) r.sourceRoot = false)
    (test : Lexical.within fs.cwd (r.placeText path) r.testRoot = false) : tests = [] := by
  have not_own : r.ownTest fs path = [] := by simp [ownTest, test]
  cases asked : fs.isDirectory (r.onDisk path) with
  | error fault =>
    rw [testsAt_of_fault asked] at found
    cases found
  | ok directory =>
    cases directory with
    | true =>
      rw [testsAt_of_directory asked, testsOfDirectory, if_neg (by simp [test]),
        Lexical.transplant?_eq_none source] at found
      cases found
      rfl
    | false =>
      by_cases ends : Convention.endsWith path r.convention.sourceSuffix = true
      · rw [testsAt_of_not_source asked ends source, not_own] at found
        cases found
        rfl
      · rw [testsAt_of_other asked (Bool.eq_false_iff.2 ends)] at found
        cases found
        rfl

/-! ## Names of source files -/

theorem proper_onDisk (based : ∀ base, r.base = some base → base.Proper) (path : String) :
    (r.onDisk path).Proper := by
  unfold onDisk CoverageIndex.anchored
  split
  · exact Path.proper_ofString path
  next base given => exact (based base given).div (Path.proper_ofString path)

/-- An absolute path is found where it says. -/
theorem anchored_of_isAbsolute (base : Option Path)
    (absolute : (Path.ofString path).isAbsolute = true) :
    CoverageIndex.anchored base path = Path.ofString path := by
  unfold CoverageIndex.anchored
  split
  · rfl
  · exact Path.div_eq_of_isAbsolute absolute

theorem onDisk_of_isAbsolute (r : Resolver) (absolute : (Path.ofString path).isAbsolute = true) :
    r.onDisk path = Path.ofString path :=
  anchored_of_isAbsolute r.base absolute

/-- From an absolute base directory every path is found at an absolute place. -/
theorem anchored_onDisk
    (based : ∃ base, r.base = some base ∧ base.isAbsolute = true ∧ base.Proper) (path : String) :
    (r.onDisk path).isAbsolute = true ∧ (r.onDisk path).Proper := by
  obtain ⟨base, given, absolute, proper⟩ := based
  unfold onDisk CoverageIndex.anchored
  rw [given]
  exact ⟨Path.isAbsolute_div absolute _, proper.div (Path.proper_ofString path)⟩

/-- The last segment of a path on disk ends as the path does. -/
theorem exists_onDisk_concat {suffix : String} (free : '/' ∉ suffix.toList)
    (named : ∃ c ∈ suffix.toList, c ≠ '.') (ends : Convention.endsWith path suffix = true) :
    ∃ anchor above name, r.onDisk path = ⟨anchor, above ++ [name]⟩ ∧
      suffix.toList <:+ name.toList := by
  obtain ⟨above, name, parts, behind⟩ :=
    Path.exists_segments_concat (Convention.endsWith_iff.1 ends) free named
  have read : Path.ofString path = ⟨Path.anchorOf path.toList, above ++ [name]⟩ := by
    rw [Path.ofString, parts]
  unfold onDisk CoverageIndex.anchored
  split
  · exact ⟨_, above, name, read, behind⟩
  next base _ =>
    show ∃ anchor above name, Path.append base (Path.ofString path) = _ ∧ _
    unfold Path.append
    split
    · exact ⟨_, above, name, read, behind⟩
    · exact ⟨_, base.parts ++ above, name, by rw [read, List.append_assoc], behind⟩

/-- The test name of a source file whose name holds no backslash is a name in the same
directory. -/
theorem counterpart_placeText (plain : r.convention.Plain) (proper : (r.onDisk path).Proper)
    {anchor : Anchor} {above : List String} {name : String}
    (place : r.onDisk path = ⟨anchor, above ++ [name]⟩)
    (suffix : r.convention.sourceSuffix.toList <:+ name.toList) (free : '\\' ∉ name.toList) :
    Lexical.IsFileName name ∧
      Lexical.IsFileName (String.ofList (r.convention.testName name.toList)) ∧
      r.convention.testSuffix.toList <:+ r.convention.testName name.toList ∧
      r.convention.counterpart (r.placeText path) =
        (⟨anchor, above ++ [String.ofList (r.convention.testName name.toList)]⟩ :
          Path).toString := by
  rw [place] at proper
  have proper_above : ∀ part ∈ above, Path.IsSegment part :=
    fun part mem => proper part (List.mem_append_left _ mem)
  have segment : Path.IsSegment name := proper name (by simp)
  have name_free : ∀ c ∈ name.toList, ¬ Text.IsSeparator c := by
    rintro c mem (rfl | rfl)
    · exact segment.2.2 mem
    · exact free mem
  have valid : Lexical.IsFileName name := by
    have listed := plain.isFileName suffix name_free
    rwa [String.ofList_toList] at listed
  obtain ⟨test_suffix, test_free⟩ := plain.testName suffix name_free
  have valid' : Lexical.IsFileName (String.ofList (r.convention.testName name.toList)) :=
    plain.isFileName ((Convention.sourceSuffix_suffix _).trans test_suffix) test_free
  have begins : (r.convention.testName name.toList).head? ≠ some '/' := fun slash =>
    test_free '/' (List.mem_of_mem_head? slash) (Or.inl rfl)
  refine ⟨valid, valid', test_suffix, ?_⟩
  rw [placeText, place]
  exact r.convention.counterpart_toString proper_above segment.2.2 begins

/-- Under an ordinary convention the test name of a file without backslashes lies where the file
does. So only the source root itself can be left by it. -/
theorem misplaced_iff (plain : r.convention.Plain)
    (based : ∀ base, r.base = some base → base.Proper)
    (free : '\\' ∉ (r.onDisk path).name.toList) :
    r.Misplaced fs path ↔
      fs.isDirectory (r.onDisk path) = .ok false ∧
        Convention.endsWith path r.convention.sourceSuffix = true ∧
        Lexical.within fs.cwd (r.placeText path) r.sourceRoot = true ∧
        Lexical.within fs.cwd r.sourceRoot (r.placeText path) = true ∧
        r.convention.testName (r.onDisk path).name.toList ≠ (r.onDisk path).name.toList := by
  unfold Misplaced
  refine and_congr_right fun _ => and_congr_right fun ends => and_congr_right fun inside => ?_
  obtain ⟨anchor, above, name, place, suffix⟩ : ∃ anchor above name,
      r.onDisk path = ⟨anchor, above ++ [name]⟩ ∧
        r.convention.sourceSuffix.toList <:+ name.toList :=
    exists_onDisk_concat (fun slash => plain.suffix_free _ slash (Or.inl rfl)) plain.named ends
  have proper := proper_onDisk based path
  have last : (r.onDisk path).name = name := by
    rw [place]
    simp [Path.name]
  rw [last] at free ⊢
  obtain ⟨valid, valid', -, counterpart⟩ := counterpart_placeText plain proper place suffix free
  have proper_above : ∀ part ∈ above, Path.IsSegment part := by
    rw [place] at proper
    exact fun part mem => proper part (List.mem_append_left _ mem)
  rw [← Lexical.names_eq_iff inside, counterpart]
  have text : r.placeText path = (⟨anchor, above ++ [name]⟩ : Path).toString :=
    congrArg Path.toString place
  rw [text] at inside ⊢
  rw [← Bool.not_eq_true, Lexical.within_last_iff proper_above valid valid' inside, not_or,
    not_not, ne_eq, ← String.toList_inj, String.toList_ofList]

/-! ## Resolving -/

/-- Resolving by place gives every changed path its tests, and to a path in neither root none,
unless it meets a path that is too long or a source file whose test name lies outside the source
root. Under an ordinary convention that is the source root itself, or a file whose name holds a
backslash. -/
theorem resolves_unless_spoiled (structural : r.strategy = .structural) (fs : FileSystem)
    (paths : List String) :
    ∃ outcome, (r.resolve fs paths).Gives outcome ∧
      ((∃ affected, outcome = .ok affected) ↔
        ∀ path ∈ paths, ¬ r.Misplaced fs path ∧ ¬ r.TooLong fs path) ∧
      (∀ failure, outcome = .error failure → ∃ path ∈ paths, r.Spoils fs path failure) ∧
      (∀ affected, outcome = .ok affected →
        affected.map Prod.fst = paths.eraseDups ∧
        ∀ entry ∈ affected, Lexical.within fs.cwd (r.placeText entry.1) r.sourceRoot = false →
          Lexical.within fs.cwd (r.placeText entry.1) r.testRoot = false → entry.2 = []) ∧
      (r.convention.Plain → (∀ base, r.base = some base → base.Proper) →
        ∀ path ∈ paths, '\\' ∉ (r.onDisk path).name.toList →
          (r.Misplaced fs path ↔
            fs.isDirectory (r.onDisk path) = .ok false ∧
              Convention.endsWith path r.convention.sourceSuffix = true ∧
              Lexical.within fs.cwd (r.placeText path) r.sourceRoot = true ∧
              Lexical.within fs.cwd r.sourceRoot (r.placeText path) = true ∧
              r.convention.testName (r.onDisk path).name.toList ≠
                (r.onDisk path).name.toList)) := by
  refine ⟨r.affectedAt fs paths, gives_resolve structural fs paths, ?_, ?_, ?_, ?_⟩
  · rw [affectedAt_eq_collect, Affected.exists_collect_iff]
    exact forall₂_congr fun path _ => exists_testsAt_iff
  · intro failure failed
    obtain ⟨path, mem, spoilt⟩ := Affected.exists_of_collect_error failed
    exact ⟨path, mem, testsAt_eq_error_iff.1 spoilt⟩
  · intro affected resolved
    have records := Affected.records_collect resolved
    exact ⟨records.keys, fun entry mem => testsAt_of_outside (records.own entry mem)⟩
  · exact fun plain based path _ free => misplaced_iff plain based free

/-- A source file that is spelled with a backslash stops the resolving of all paths. -/
theorem spoiled_of_backslash :
    SmallProject.resolver.Misplaced SmallProject.files "src\\A.php" ∧
      ∃ failure, (SmallProject.resolver.resolve SmallProject.files
        ["src/A.php", "src\\A.php"]).Gives (.error failure) := by
  have misplaced : SmallProject.resolver.Misplaced SmallProject.files "src\\A.php" :=
    ⟨by rfl, by decide +kernel, by decide +kernel, by decide +kernel⟩
  obtain ⟨outcome, gives, returns, -⟩ := resolves_unless_spoiled
    (r := SmallProject.resolver) rfl SmallProject.files ["src/A.php", "src\\A.php"]
  refine ⟨misplaced, ?_⟩
  cases outcome with
  | ok affected =>
    have clean := returns.1 ⟨affected, rfl⟩ "src\\A.php" (by simp)
    exact absurd misplaced clean.1
  | error failure => exact ⟨failure, gives⟩

end Resolver

end TestImpact
