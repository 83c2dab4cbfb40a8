import TestImpact.Proofs.Report.LineCounts
import TestImpact.Proofs.Report.Suites

/-!
# What can be wrong with the reports of a test file

`Reading.problems` lists, in the order in which they are met, everything that is wrong with
a pair of reports, and the reading of the reports ends with the first of them
(`Reading.resultsBy_meets`). Most of these problems are report errors. The other ones are
what `Reading.Escapes` describes: suites that are nested too deep, and source files that
are there and cannot be read.

`Reading.escapes_iff` says that these are all.
-/

namespace TestImpact

/-! ## Clover reports -/

namespace Clover

/-- What is wrong with a file of a report: its lines cannot be counted, or one of its statements
cannot be read. -/
def problemsOf (cwd : String) (root : Path) (oracle : String → Except Failure Int)
    (file : Element) : List Failure :=
  (problem? (oracle (shownPath cwd root file))).toList ++
    ((problem? (statements file)).map .report).toList

/-- What is wrong with a report. -/
def problems (cwd : String) (root : Path) (oracle : String → Except Failure Int) (xml : String) :
    List Failure :=
  match Xml.parse xml with
  | .ok document => (document.withTag "file").flatMap (problemsOf cwd root oracle)
  | .error problem => [.report (.clover problem)]

variable {cwd : String} {root : Path} {oracle : String → Except Failure Int}

theorem problems_of_ok {xml : String} {document : Element} (parsed : Xml.parse xml = .ok document) :
    problems cwd root oracle xml =
      (document.withTag "file").flatMap (problemsOf cwd root oracle) := by
  unfold problems
  rw [parsed]

theorem problems_of_error {xml : String} {problem : XmlProblem}
    (refused : Xml.parse xml = .error problem) :
    problems cwd root oracle xml = [.report (.clover problem)] := by
  unfold problems
  rw [refused]

theorem addFile_meets (coverage : CoverageMap) (file : Element) :
    Meets (problemsOf cwd root oracle file)
      (addFile (fun name => Lexical.displayed cwd name root.toString) oracle coverage file) := by
  refine (Meets.of_problem? _).bind fun lines _ => ?_
  cases statements file with
  | error e => exact Meets.error (Failure.report e)
  | ok found =>
    simp only [problem?]
    split
    · exact Meets.ok _
    · exact Meets.ok _

/-- The reading of a Clover report ends with the first problem in it. -/
theorem parse_meets (xml : String) :
    Meets (problems cwd root oracle xml) (parse cwd root oracle xml) := by
  unfold problems parse
  cases Xml.parse xml with
  | error problem => exact Meets.error (Failure.report (.clover problem))
  | ok document => exact Meets.foldlM (fun coverage file _ => addFile_meets coverage file) []

end Clover

/-! ## JUnit reports -/

namespace Junit

/-- What is wrong with a text as a report. -/
def textProblems (xml : String) : List Failure :=
  match Xml.parse xml with
  | .ok root => problems root
  | .error problem => [.report (.junit problem)]

theorem textProblems_of_ok {xml : String} {root : Element} (parsed : Xml.parse xml = .ok root) :
    textProblems xml = problems root := by
  unfold textProblems
  rw [parsed]

theorem textProblems_of_error {xml : String} {problem : XmlProblem}
    (refused : Xml.parse xml = .error problem) :
    textProblems xml = [.report (.junit problem)] := by
  unfold textProblems
  rw [refused]

/-- The reading of a JUnit report ends with the first problem in it. -/
theorem parse_meets (xml : String) : Meets (textProblems xml) (parse xml) := by
  unfold textProblems parse
  cases Xml.parse xml with
  | error problem => exact Meets.error (Failure.report (.junit problem))
  | ok root => exact cases_meets root

end Junit

/-! ## Both reports -/

namespace Reading

/-- Is there no report, or did the process write to its error stream? -/
def HasCrashed (junit stderr : String) : Prop :=
  isBlankText junit = true ∨ stderr ≠ ""

instance (junit stderr : String) : Decidable (HasCrashed junit stderr) :=
  inferInstanceAs (Decidable (_ ∨ _))

/-- What is wrong with the reports of a test file. Those of a process that crashed are not
looked at. -/
def problems (cwd : String) (root : Path) (oracle : String → Except Failure Int) (junit : String)
    (clover : Option String) (stderr : String) : List Failure :=
  if HasCrashed junit stderr then []
  else Junit.textProblems junit ++ clover.toList.flatMap (Clover.problems cwd root oracle)

variable {cwd : String} {root : Path} {oracle : String → Except Failure Int}
  {testPath junit stderr : String} {clover : Option String}

theorem resultsBy_of_crashed (crashed : HasCrashed junit stderr) :
    resultsBy cwd root oracle testPath junit clover stderr = .ok [crash testPath stderr] := by
  unfold resultsBy
  rw [if_pos (by simpa [HasCrashed] using crashed)]
  rfl

theorem resultsBy_of_not_crashed (fine : ¬ HasCrashed junit stderr) :
    resultsBy cwd root oracle testPath junit clover stderr = (do
      let cases ← Junit.parse junit
      let coverage ← clover.mapM (Clover.parse cwd root oracle)
      pure (cases.map (resultOf testPath coverage))) := by
  unfold resultsBy
  rw [if_neg (by simpa [HasCrashed] using fine)]
  cases Junit.parse junit <;> rfl

/-- A reading that succeeds gives the one result of a process that crashed, or the cases of a JUnit
report with the coverage of a Clover report. -/
theorem of_resultsBy_ok {found : List TestResult}
    (ok : resultsBy cwd root oracle testPath junit clover stderr = .ok found) :
    (HasCrashed junit stderr ∧ found = [crash testPath stderr]) ∨
      (¬ HasCrashed junit stderr ∧ ∃ document cases coverage, Xml.parse junit = .ok document ∧
        Junit.cases document = .ok cases ∧
        clover.mapM (Clover.parse cwd root oracle) = .ok coverage ∧
        found = cases.map (resultOf testPath coverage)) := by
  by_cases crashed : HasCrashed junit stderr
  · rw [resultsBy_of_crashed crashed] at ok
    cases ok
    exact Or.inl ⟨crashed, rfl⟩
  · rw [resultsBy_of_not_crashed crashed] at ok
    obtain ⟨cases, parsed, ok⟩ := of_bind_ok ok
    obtain ⟨coverage, covered, ok⟩ := of_bind_ok ok
    cases ok
    unfold Junit.parse at parsed
    cases document : Xml.parse junit with
    | error problem =>
      rw [document] at parsed
      cases parsed
    | ok root =>
      rw [document] at parsed
      exact Or.inr ⟨crashed, root, cases, coverage, rfl, parsed, covered, rfl⟩

/-- Every result of a reading names the test file. -/
theorem testPath_of_resultsBy {found : List TestResult}
    (ok : resultsBy cwd root oracle testPath junit clover stderr = .ok found) {result : TestResult}
    (mem : result ∈ found) : result.testPath = some testPath := by
  rcases of_resultsBy_ok ok with ⟨-, rfl⟩ | ⟨-, _, cases, coverage, -, -, -, rfl⟩
  · rw [List.mem_singleton.1 mem]
    rfl
  · obtain ⟨case, -, rfl⟩ := List.mem_map.1 mem
    rfl

/-- The reading of the reports of a test file ends with the first problem in them. -/
theorem resultsBy_meets :
    Meets (problems cwd root oracle junit clover stderr)
      (resultsBy cwd root oracle testPath junit clover stderr) := by
  unfold problems
  by_cases crashed : HasCrashed junit stderr
  · rw [if_pos crashed, resultsBy_of_crashed crashed]
    exact Meets.ok _
  · rw [if_neg crashed, resultsBy_of_not_crashed crashed]
    refine (Junit.parse_meets junit).bind fun cases _ => ?_
    cases clover with
    | none => exact Meets.ok _
    | some xml =>
      rw [Option.toList_some, List.flatMap_cons, List.flatMap_nil]
      exact ((Clover.parse_meets xml).map some).bind fun coverage _ => Meets.ok _

/-! ## Failures that are no report errors -/

/-- A failure that is no report error ends the reading of some reports: suites that are nested
too deep, or a source file that is there and cannot be read. Everything that stands before it in
the reports is fine. -/
inductive Escapes (fs : FileSystem) (root : Path) (counts : LineCounts) (junit : String)
    (clover : Option String) (stderr : String) : Failure → Prop
  | tooDeep {document : Element} {before after : List Junit.Visit} {visit : Junit.Visit} :
      ¬ HasCrashed junit stderr → Xml.parse junit = .ok document →
      Junit.visits document = before ++ visit :: after →
      (∀ earlier ∈ before, earlier.problem? = none) →
      visit.element.tag = "testsuite" → Junit.nestingLimit ≤ visit.depth →
      Escapes fs root counts junit clover stderr .tooDeep
  | unreadable {document report file : Element} {before after : List Element} {xml : String}
      {fault : Fault} :
      ¬ HasCrashed junit stderr → Xml.parse junit = .ok document → Junit.problems document = [] →
      clover = some xml → Xml.parse xml = .ok report →
      report.withTag "file" = before ++ file :: after →
      (∀ earlier ∈ before,
        Clover.problemsOf fs.cwd root (LineCounts.answer fs root counts) earlier = []) →
      counts.lookup (Clover.shownPath fs.cwd root file) = none →
      fs.readText (root / Path.ofString (Clover.shownPath fs.cwd root file)) = .error fault →
      fault ≠ .missing →
      Escapes fs root counts junit clover stderr (.file fault)

theorem head?_flatMap_eq_some_iff {α ε : Type} {problemsOf : α → List ε} {first : ε}
    {steps : List α} :
    (steps.flatMap problemsOf).head? = some first ↔
      ∃ before step after, steps = before ++ step :: after ∧ (problemsOf step).head? = some first ∧
        ∀ earlier ∈ before, problemsOf earlier = [] := by
  rw [List.head?_flatMap, List.findSome?_eq_some_iff]
  simp only [List.head?_eq_none_iff]

/-- The lines of a source file cannot be counted only if they are not known, and the file is there
and cannot be read. -/
theorem answer_eq_error_iff {fs : FileSystem} {counts : LineCounts} {path : String}
    {failure : Failure} :
    LineCounts.answer fs root counts path = .error failure ↔
      counts.lookup path = none ∧ ∃ fault, fs.readText (root / Path.ofString path) = .error fault ∧
        fault ≠ .missing ∧ failure = .file fault := by
  unfold LineCounts.answer LineCounts.read
  cases counts.lookup path with
  | some known => simp
  | none =>
    cases fs.readText (root / Path.ofString path) with
    | ok content => simp [Functor.map, Except.map]
    | error fault => cases fault <;> simp [Functor.map, Except.map, eq_comm]

variable {fs : FileSystem} {counts : LineCounts} {failure : Failure}

theorem tooDeep_of_visit {visit : Junit.Visit} (wrong : visit.problem? = some failure)
    (foreign : ∀ error, failure ≠ .report error) :
    visit.element.tag = "testsuite" ∧ Junit.nestingLimit ≤ visit.depth ∧ failure = .tooDeep := by
  unfold Junit.Visit.problem? at wrong
  by_cases isSuite : visit.element.tag = "testsuite"
  · rw [if_pos isSuite] at wrong
    split at wrong
    · cases wrong
      exact ⟨isSuite, ‹_›, rfl⟩
    · cases wrong
  · rw [if_neg isSuite] at wrong
    split at wrong
    · obtain ⟨error, -, rfl⟩ := Option.map_eq_some_iff.1 wrong
      exact absurd rfl (foreign error)
    · cases wrong

theorem unreadable_of_file {file : Element} {oracle : String → Except Failure Int}
    (wrong : (Clover.problemsOf cwd root oracle file).head? = some failure)
    (foreign : ∀ error, failure ≠ .report error) :
    oracle (Clover.shownPath cwd root file) = .error failure := by
  unfold Clover.problemsOf at wrong
  cases asked : oracle (Clover.shownPath cwd root file) with
  | error other =>
    rw [asked] at wrong
    cases wrong
    rfl
  | ok lines =>
    rw [asked, problem?, Option.toList_none, List.nil_append, Option.head?_toList] at wrong
    obtain ⟨error, -, rfl⟩ := Option.map_eq_some_iff.1 wrong
    exact absurd rfl (foreign error)

/-- A failure that escapes is the first thing wrong, and no report error. -/
theorem Escapes.head?_problems (escapes : Escapes fs root counts junit clover stderr failure) :
    (problems fs.cwd root (LineCounts.answer fs root counts) junit clover stderr).head? =
        some failure ∧
      ∀ error, failure ≠ .report error := by
  unfold problems
  cases escapes with
  | tooDeep fine parsed visited before isSuite deep =>
    refine ⟨?_, fun error same => nomatch same⟩
    have first : (Junit.textProblems junit).head? = some .tooDeep := by
      rw [Junit.textProblems_of_ok parsed, Junit.problems, head?_flatMap_eq_some_iff]
      refine ⟨_, _, _, visited, ?_, fun earlier mem => ?_⟩
      · simp [Junit.Visit.problem?, isSuite, deep]
      · rw [before earlier mem, Option.toList_none]
    rw [if_neg fine, List.head?_append, first, Option.some_or]
  | @unreadable _ _ _ _ _ xml fault fine parsed nothing given read listed before unknown failed
      there =>
    refine ⟨?_, fun error same => nomatch same⟩
    have first : (Clover.problems fs.cwd root (LineCounts.answer fs root counts) xml).head? =
        some (.file fault) := by
      rw [Clover.problems_of_ok read, head?_flatMap_eq_some_iff]
      refine ⟨_, _, _, listed, ?_, before⟩
      unfold Clover.problemsOf
      rw [answer_eq_error_iff.2 ⟨unknown, _, failed, there, rfl⟩]
      rfl
    rw [if_neg fine, Junit.textProblems_of_ok parsed, nothing, List.nil_append, given,
      Option.toList_some, List.flatMap_cons, List.flatMap_nil, List.append_nil, first]

theorem escapes_of_junit (fine : ¬ HasCrashed junit stderr)
    (head : (Junit.textProblems junit).head? = some failure)
    (foreign : ∀ error, failure ≠ .report error) :
    Escapes fs root counts junit clover stderr failure := by
  cases parsed : Xml.parse junit with
  | error problem =>
    rw [Junit.textProblems_of_error parsed] at head
    cases head
    exact absurd rfl (foreign _)
  | ok document =>
    rw [Junit.textProblems_of_ok parsed] at head
    obtain ⟨before, visit, after, visited, wrong, clean⟩ := head?_flatMap_eq_some_iff.1 head
    rw [Option.head?_toList] at wrong
    obtain ⟨isSuite, deep, rfl⟩ := tooDeep_of_visit wrong foreign
    exact .tooDeep fine parsed visited
      (fun earlier mem => Option.toList_eq_nil_iff.1 (clean earlier mem)) isSuite deep

theorem escapes_of_clover {xml : String} (fine : ¬ HasCrashed junit stderr)
    (nothing : Junit.textProblems junit = [])
    (head : (Clover.problems fs.cwd root (LineCounts.answer fs root counts) xml).head? =
      some failure)
    (foreign : ∀ error, failure ≠ .report error) :
    Escapes fs root counts junit (some xml) stderr failure := by
  cases parsed : Xml.parse junit with
  | error problem =>
    rw [Junit.textProblems_of_error parsed] at nothing
    cases nothing
  | ok document =>
    rw [Junit.textProblems_of_ok parsed] at nothing
    cases read : Xml.parse xml with
    | error problem =>
      rw [Clover.problems_of_error read] at head
      cases head
      exact absurd rfl (foreign _)
    | ok report =>
      rw [Clover.problems_of_ok read] at head
      obtain ⟨before, file, after, listed, wrong, clean⟩ := head?_flatMap_eq_some_iff.1 head
      obtain ⟨unknown, fault, failed, there, rfl⟩ :=
        answer_eq_error_iff.1 (unreadable_of_file wrong foreign)
      exact .unreadable fine parsed nothing rfl read listed clean unknown failed there

/-- What is wrong first escapes if it is no report error. -/
theorem escapes_of_head?_problems
    (head : (problems fs.cwd root (LineCounts.answer fs root counts) junit clover stderr).head? =
      some failure)
    (foreign : ∀ error, failure ≠ .report error) :
    Escapes fs root counts junit clover stderr failure := by
  unfold problems at head
  by_cases crashed : HasCrashed junit stderr
  · rw [if_pos crashed] at head
    cases head
  · rw [if_neg crashed, List.head?_append] at head
    cases first : (Junit.textProblems junit).head? with
    | some problem =>
      rw [first, Option.some_or] at head
      exact escapes_of_junit crashed (first.trans head) foreign
    | none =>
      rw [first, Option.none_or] at head
      cases clover with
      | none => cases head
      | some xml =>
        rw [Option.toList_some, List.flatMap_cons, List.flatMap_nil, List.append_nil] at head
        exact escapes_of_clover crashed (List.head?_eq_none_iff.1 first) head foreign

/-- What the reading of the reports of a test file comes to, with some known counts. -/
def outcome (fs : FileSystem) (root : Path) (counts : LineCounts) (testPath junit : String)
    (clover : Option String) (stderr : String) : Except Failure (List TestResult) :=
  ((results fs root testPath junit clover stderr).run.run counts).1

theorem outcome_eq_resultsBy (counts : LineCounts) :
    outcome fs root counts testPath junit clover stderr =
      resultsBy fs.cwd root (LineCounts.answer fs root counts) testPath junit clover stderr :=
  (asks_results testPath junit clover stderr counts rfl).1

/-- What escapes is what the reading fails with, if that is no report error. -/
theorem escapes_iff (testPath : String) :
    Escapes fs root counts junit clover stderr failure ↔
      outcome fs root counts testPath junit clover stderr = .error failure ∧
        ∀ error, failure ≠ .report error := by
  rw [outcome_eq_resultsBy, resultsBy_meets.error_iff]
  constructor
  · exact Escapes.head?_problems
  · rintro ⟨head, foreign⟩
    exact escapes_of_head?_problems head foreign

end Reading

end TestImpact
