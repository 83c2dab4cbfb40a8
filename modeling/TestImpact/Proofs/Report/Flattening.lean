import Mathlib.Data.List.Forall2
import TestImpact.Proofs.Report.Problems

/-!
# Every case once and in its place

A document is listed with everything that each element lies in (`nodesOf`), which is a list of its
elements in document order (`map_element_nodesOf`). The reading of a report visits those elements
that lie in suites alone, the root apart (`visits_eq`), so it reads each case among them once and in
document order (`cases_eq_mapM`), unless suites are nested too deep (`Shallow`). Main statement:
`flattens`.
-/

namespace TestImpact.Junit

/-! ## Elements and what they lie in -/

/-- An element of a document, and the elements that it lies in, the innermost first. -/
structure Node where
  above : List Element
  element : Element

mutual

/-- An element and everything in it, in document order. -/
def nodesOf (above : List Element) : Element → List Node
  | .mk tag attributes text children =>
    ⟨above, .mk tag attributes text children⟩ ::
      nodesIn (.mk tag attributes text children :: above) children

/-- Elements and everything in them, in document order. -/
def nodesIn (above : List Element) : List Element → List Node
  | [] => []
  | element :: rest => nodesOf above element ++ nodesIn above rest

end

theorem nodesOf_eq (above : List Element) (element : Element) :
    nodesOf above element = ⟨above, element⟩ :: nodesIn (element :: above) element.children := by
  cases element
  rw [nodesOf]
  rfl

mutual

theorem map_element_nodesOf (above : List Element) :
    (element : Element) → (nodesOf above element).map Node.element = element.subtree
  | .mk tag attributes text children => by
    rw [nodesOf, Element.subtree, List.map_cons, map_element_nodesIn]

theorem map_element_nodesIn (above : List Element) :
    (elements : List Element) →
      (nodesIn above elements).map Node.element = Element.forest elements
  | [] => by
    rw [nodesIn, Element.forest, List.map_nil]
  | element :: rest => by
    rw [nodesIn, Element.forest, List.map_append, map_element_nodesOf, map_element_nodesIn]

end

mutual

theorem suffix_of_mem_nodesOf {above : List Element} {node : Node} :
    (element : Element) → node ∈ nodesOf above element → above <:+ node.above
  | .mk tag attributes text children, mem => by
    rw [nodesOf] at mem
    rcases List.mem_cons.1 mem with rfl | deeper
    · exact List.suffix_rfl
    · exact (List.suffix_cons _ _).trans (suffix_of_mem_nodesIn children deeper)

theorem suffix_of_mem_nodesIn {above : List Element} {node : Node} :
    (elements : List Element) → node ∈ nodesIn above elements → above <:+ node.above
  | element :: rest, mem => by
    rw [nodesIn] at mem
    rcases List.mem_append.1 mem with here | later
    · exact suffix_of_mem_nodesOf element here
    · exact suffix_of_mem_nodesIn rest later

end

/-! ## Elements that suites lead to -/

/-- The suite that the nearest suites around something give it: the first name among theirs. -/
def suiteIn (above : List Element) : String :=
  ((above.filter (·.tag = "testsuite")).findSome? (·.attribute? "name")).getD ""

/-- The suite that a node lies in. -/
def Node.suite (node : Node) : String :=
  suiteIn node.above

/-- Around a node there are only suites, the root apart, and no case. -/
structure Node.Led (node : Node) : Prop where
  suites : ∀ outer ∈ node.above.dropLast, outer.tag = "testsuite"
  caseless : ∀ outer ∈ node.above, outer.tag ≠ "testcase"

instance (node : Node) : Decidable node.Led :=
  decidable_of_iff ((∀ outer ∈ node.above.dropLast, outer.tag = "testsuite") ∧
      ∀ outer ∈ node.above, outer.tag ≠ "testcase")
    ⟨fun led => ⟨led.1, led.2⟩, fun led => ⟨led.suites, led.caseless⟩⟩

/-- The cases of a document that suites lead to, in document order. -/
def caseNodes (root : Element) : List Node :=
  (nodesOf [] root).filter fun node => node.Led ∧ node.element.tag = "testcase"

/-- The suites of a document that suites lead to are not nested too deep. -/
def Shallow (root : Element) : Prop :=
  ∀ node ∈ nodesOf [] root, node.Led → node.element.tag = "testsuite" →
    node.above.length ≤ nestingLimit

instance (root : Element) : Decidable (Shallow root) :=
  inferInstanceAs (Decidable (∀ node ∈ nodesOf [] root, _))

theorem suiteIn_cons (element : Element) (above : List Element) :
    suiteIn (element :: above) =
      if element.tag = "testsuite" then (element.attribute? "name").getD (suiteIn above)
      else suiteIn above := by
  unfold suiteIn
  rw [List.filter_cons]
  by_cases isSuite : element.tag = "testsuite"
  · simp only [isSuite, decide_true, if_true, List.findSome?_cons]
    cases element.attribute? "name" <;> rfl
  · simp only [isSuite, decide_false, if_false, Bool.false_eq_true]

/-- What lies in something that lies in something else is led to only if that is a suite. -/
theorem Node.Led.isSuite {node : Node} (led : node.Led) {element : Element} {above : List Element}
    (inner : above ≠ []) (inside : element :: above <:+ node.above) :
    element.tag = "testsuite" := by
  obtain ⟨nearer, rest⟩ := inside
  refine led.suites element ?_
  rw [← rest, List.dropLast_append_of_ne_nil (List.cons_ne_nil _ _),
    List.dropLast_cons_of_ne_nil inner]
  exact List.mem_append_right _ List.mem_cons_self

/-! ## Visits -/

/-- The visit to a node. -/
def Node.visit (node : Node) : Visit :=
  ⟨node.above.length - 1, node.suite, node.element⟩

/-- Is a node visited? The root is, if it is a case. -/
def Node.isVisited (node : Node) : Bool :=
  node.Led ∧ (node.above ≠ [] ∨ node.element.tag = "testcase")

theorem Node.isVisited_iff {node : Node} :
    node.isVisited = true ↔ node.Led ∧ (node.above ≠ [] ∨ node.element.tag = "testcase") := by
  unfold Node.isVisited
  exact decide_eq_true_iff

theorem filter_isVisited_nodesIn_of_not_suite {element : Element} {above : List Element}
    (inner : above ≠ []) (notSuite : element.tag ≠ "testsuite") (elements : List Element) :
    (nodesIn (element :: above) elements).filter Node.isVisited = [] := by
  rw [List.filter_eq_nil_iff]
  intro node mem visited
  exact notSuite ((Node.isVisited_iff.1 visited).1.isSuite inner (suffix_of_mem_nodesIn _ mem))

mutual

/-- What is looked at in an element that suites lead to. -/
theorem visitsOf_eq {above : List Element} (inner : above ≠ [])
    (suites : ∀ outer ∈ above.dropLast, outer.tag = "testsuite")
    (caseless : ∀ outer ∈ above, outer.tag ≠ "testcase") :
    (element : Element) → visitsOf (above.length - 1) (suiteIn above) element =
      ((nodesOf above element).filter Node.isVisited).map Node.visit
  | .mk tag attributes text children => by
    have here : Node.isVisited ⟨above, .mk tag attributes text children⟩ = true :=
      Node.isVisited_iff.2 ⟨⟨suites, caseless⟩, Or.inl inner⟩
    unfold visitsOf nodesOf
    rw [List.filter_cons_of_pos here, List.map_cons]
    by_cases isSuite : tag = "testsuite"
    · have deeper := @visitsIn_eq (.mk tag attributes text children :: above)
        (List.cons_ne_nil _ _)
        (by
          rw [List.dropLast_cons_of_ne_nil inner]
          exact List.forall_mem_cons.2 ⟨isSuite, suites⟩)
        (List.forall_mem_cons.2 ⟨by rw [Element.tag, isSuite]; decide, caseless⟩) children
      have levels : above.length - 1 + 1 = above.length :=
        Nat.sub_add_cancel (List.length_pos_iff.2 inner)
      have opens : (Element.mk tag attributes text children).tag = "testsuite" := isSuite
      rw [suiteIn_cons, if_pos opens, List.length_cons, Nat.add_sub_cancel] at deeper
      rw [if_pos isSuite, levels]
      exact congrArg (_ :: ·) deeper
    · -- What lies in anything else is listed among the nodes and not visited.
      rw [if_neg isSuite, filter_isVisited_nodesIn_of_not_suite inner (by exact isSuite)]
      rfl

theorem visitsIn_eq {above : List Element} (inner : above ≠ [])
    (suites : ∀ outer ∈ above.dropLast, outer.tag = "testsuite")
    (caseless : ∀ outer ∈ above, outer.tag ≠ "testcase") :
    (elements : List Element) → visitsIn (above.length - 1) (suiteIn above) elements =
      ((nodesIn above elements).filter Node.isVisited).map Node.visit
  | [] => by
    unfold visitsIn nodesIn
    rfl
  | element :: rest => by
    unfold visitsIn nodesIn
    rw [List.filter_append, List.map_append, visitsOf_eq inner suites caseless,
      visitsIn_eq inner suites caseless]

end

/-- What is looked at in a document is what suites lead to, in document order. -/
theorem visits_eq (root : Element) :
    visits root = ((nodesOf [] root).filter Node.isVisited).map Node.visit := by
  unfold visits
  rw [nodesOf_eq]
  by_cases isCase : root.tag = "testcase"
  · -- A root that is a case is the only one, since it lies around everything else.
    have here : Node.isVisited ⟨[], root⟩ = true :=
      Node.isVisited_iff.2 ⟨⟨List.forall_mem_nil _, List.forall_mem_nil _⟩, Or.inr isCase⟩
    have nothing : (nodesIn [root] root.children).filter Node.isVisited = [] := by
      rw [List.filter_eq_nil_iff]
      intro node mem visited
      exact (Node.isVisited_iff.1 visited).1.caseless root
        ((suffix_of_mem_nodesIn _ mem).subset List.mem_cons_self) isCase
    rw [if_pos isCase, List.filter_cons_of_pos here, nothing]
    cases root with
    | mk tag attributes text children =>
      unfold visitsOf
      rw [if_neg (by rw [show tag = "testcase" from isCase]; decide)]
      rfl
  · -- Any other root is passed over, and may have any tag.
    have skipped : ¬ Node.isVisited ⟨[], root⟩ = true := by
      rw [Node.isVisited_iff]
      rintro ⟨-, notRoot | same⟩
      · exact notRoot rfl
      · exact isCase same
    have below := @visitsIn_eq [root] (List.cons_ne_nil _ _) (List.forall_mem_nil _)
      (List.forall_mem_singleton.2 isCase) root.children
    rw [if_neg isCase, List.filter_cons_of_neg skipped, ← below, suiteIn_cons]
    rfl

/-! ## One case for each node -/

/-- Reads the case at a node. -/
def Node.read (node : Node) : Except Failure Case :=
  (Case.of node.suite node.element).mapError .report

/-- Where no suite is too deep, what some visits give are the cases among them. -/
theorem readAll_eq_mapM {visited : List Visit}
    (shallow : ∀ visit ∈ visited, visit.element.tag = "testsuite" → visit.depth < nestingLimit) :
    readAll visited = (visited.filter fun visit => visit.element.tag = "testcase").mapM
      fun visit => (Case.of visit.suite visit.element).mapError .report := by
  have nothing_more : ∀ rest : Except Failure (List Case),
      (do let first ← Except.ok []; pure (first ++ (← rest))) = rest :=
    fun rest => bind_pure rest
  induction visited with
  | nil => rfl
  | cons visit rest ih =>
    rw [readAll_cons, ih (List.forall_mem_of_forall_mem_cons shallow), List.filter_cons]
    unfold Visit.read
    by_cases isSuite : visit.element.tag = "testsuite"
    · have fine := Nat.not_le.2 (shallow visit List.mem_cons_self isSuite)
      have notCase : ¬ "testsuite" = "testcase" := by decide
      simp only [isSuite, fine, notCase, decide_false, Bool.false_eq_true, if_true, if_false,
        nothing_more]
    · by_cases isCase : visit.element.tag = "testcase"
      · simp only [isCase, decide_true, if_true, List.mapM_cons]
        rcases (Case.of visit.suite visit.element).mapError Failure.report with _ | _ <;> rfl
      · simp only [isSuite, isCase, decide_false, Bool.false_eq_true, if_false, nothing_more]

theorem filter_isCase_visits (root : Element) :
    (visits root).filter (fun visit => visit.element.tag = "testcase") =
      (caseNodes root).map Node.visit := by
  rw [visits_eq, List.filter_map, List.filter_filter, caseNodes]
  congr 1
  refine List.filter_congr fun node _ => ?_
  rw [Bool.eq_iff_iff, Bool.and_eq_true, Node.isVisited_iff, Function.comp_apply,
    decide_eq_true_iff, decide_eq_true_iff]
  exact ⟨fun both => ⟨both.2.1, both.1⟩, fun both => ⟨both.2, both.1, Or.inr both.2⟩⟩

theorem Shallow.depth_lt {root : Element} (shallow : Shallow root) {visit : Visit}
    (visited : visit ∈ visits root) (isSuite : visit.element.tag = "testsuite") :
    visit.depth < nestingLimit := by
  rw [visits_eq] at visited
  obtain ⟨node, mem, rfl⟩ := List.mem_map.1 visited
  obtain ⟨among, looked⟩ := List.mem_filter.1 mem
  have led := Node.isVisited_iff.1 looked
  have notCase : node.element.tag ≠ "testcase" := by
    rw [show node.element.tag = "testsuite" from isSuite]
    decide
  have inner : 0 < node.above.length :=
    List.length_pos_iff.2 (led.2.resolve_right notCase)
  have within := shallow node among led.1 isSuite
  show node.above.length - 1 < nestingLimit
  omega

/-- The cases of a document are read once each, in document order. -/
theorem cases_eq_mapM {root : Element} (shallow : Shallow root) :
    cases root = (caseNodes root).mapM Node.read := by
  rw [cases_eq, readAll_eq_mapM fun visit visited => shallow.depth_lt visited,
    filter_isCase_visits, List.mapM_map]
  rfl

/-- In a document that is read no suite is too deep. -/
theorem shallow_of_cases_ok {root : Element} {found : List Case} (ok : cases root = .ok found) :
    Shallow root := by
  intro node among led isSuite
  by_cases isRoot : node.above = []
  · rw [isRoot]
    exact Nat.zero_le _
  have visited : node.visit ∈ visits root := by
    rw [visits_eq]
    exact List.mem_map_of_mem
      (List.mem_filter.2 ⟨among, Node.isVisited_iff.2 ⟨led, Or.inl isRoot⟩⟩)
  have nothing : problems root = [] := (cases_meets root).ok_iff.1 ⟨found, ok⟩
  have fine : node.visit.problem? = none :=
    Option.toList_eq_nil_iff.1 (List.flatMap_eq_nil_iff.1 nothing _ visited)
  unfold Visit.problem? at fine
  rw [if_pos (show node.visit.element.tag = _ from isSuite), ite_eq_right_iff] at fine
  have depth : ¬ nestingLimit ≤ node.above.length - 1 := fun deep => nomatch fine deep
  omega

/-! ## What a case says -/

/-- What the case of a node says. -/
structure Node.Gives (node : Node) (case : Case) : Prop where
  suite : case.suite =
    ((nonEmpty? node.element "class").or (nonEmpty? node.element "classname")).getD node.suite
  name : case.name = (node.element.attribute? "name").getD ""
  outcome : (case.outcome, case.message) = classify node.element
  duration : case.duration = (node.element.attribute? "time").bind Numeral.float?

/-- The time of an element is given and no number. -/
def Untimed (element : Element) : Prop :=
  ∃ raw, element.attribute? "time" = some raw ∧ Numeral.float? raw = none

theorem seconds_eq_ok {element : Element} {duration : Option Float}
    (ok : seconds element = .ok duration) :
    duration = (element.attribute? "time").bind Numeral.float? := by
  unfold seconds at ok
  cases given : element.attribute? "time" with
  | none =>
    rw [given] at ok
    exact (Except.ok.inj ok).symm
  | some raw =>
    cases number : Numeral.float? raw with
    | none =>
      simp only [given, number] at ok
      cases ok
    | some value =>
      simp only [given, number] at ok
      rw [Option.bind_some, number]
      exact (Except.ok.inj ok).symm

theorem seconds_eq_error_iff {element : Element} {error : ReportError} :
    seconds element = .error error ↔
      ∃ raw, element.attribute? "time" = some raw ∧ Numeral.float? raw = none ∧
        error = .time raw := by
  unfold seconds
  cases given : element.attribute? "time" with
  | none => simp
  | some raw =>
    cases number : Numeral.float? raw with
    | none => simp [number, eq_comm]
    | some value => simp [number]

theorem Node.gives_of_read {node : Node} {case : Case} (read : node.read = .ok case) :
    node.Gives case := by
  unfold Node.read Case.of at read
  cases timed : seconds node.element with
  | error error =>
    rw [timed] at read
    cases read
  | ok duration =>
    rw [timed] at read
    cases read
    exact ⟨rfl, rfl, rfl, seconds_eq_ok timed⟩

/-- What is wrong with a document that is not nested too deep are times. -/
theorem cases_meets_times {root : Element} (shallow : Shallow root) :
    Meets ((caseNodes root).flatMap fun node =>
      (TestImpact.problem? (seconds node.element)).toList.map .report) (cases root) := by
  rw [cases_eq_mapM shallow]
  exact Meets.mapM fun node _ => (Case.of_meets node.suite node.element).mapError Failure.report

theorem time_of_cases_error {root : Element} (shallow : Shallow root) {failure : Failure}
    (failed : cases root = .error failure) :
    ∃ node ∈ caseNodes root, ∃ raw, node.element.attribute? "time" = some raw ∧
      Numeral.float? raw = none ∧ failure = .report (.time raw) := by
  have first := List.mem_of_head? ((cases_meets_times shallow).error_iff.1 failed)
  obtain ⟨node, mem, wrong⟩ := List.mem_flatMap.1 first
  obtain ⟨error, isError, rfl⟩ := List.mem_map.1 wrong
  obtain ⟨raw, given, refused, rfl⟩ := seconds_eq_error_iff.1 (mem_problem?.1 isError)
  exact ⟨node, mem, raw, given, refused, rfl⟩

/-- A document is refused exactly if a case that suites lead to has a time that is no number. -/
theorem cases_error_iff {root : Element} (shallow : Shallow root) :
    (∃ failure, cases root = .error failure) ↔
      ∃ node ∈ caseNodes root, Untimed node.element := by
  constructor
  · rintro ⟨failure, failed⟩
    obtain ⟨node, mem, raw, given, refused, -⟩ := time_of_cases_error shallow failed
    exact ⟨node, mem, raw, given, refused⟩
  · rintro ⟨node, mem, raw, given, refused⟩
    cases outcome : cases root with
    | error failure => exact ⟨failure, rfl⟩
    | ok found =>
      have nothing := List.flatMap_eq_nil_iff.1
        ((cases_meets_times shallow).ok_iff.1 ⟨found, outcome⟩) node mem
      rw [seconds_eq_error_iff.2 ⟨raw, given, refused, rfl⟩] at nothing
      cases nothing

/-! ## A further element around the root -/

mutual

/-- One level more changes nothing where the levels are enough. -/
theorem casesOf_succ {levels : Nat} {suite : String} :
    (element : Element) → casesOf levels suite element ≠ .error .tooDeep →
      casesOf (levels + 1) suite element = casesOf levels suite element
  | .mk tag attributes text children, enough => by
    unfold casesOf at enough ⊢
    by_cases isSuite : tag = "testsuite"
    · simp only [isSuite, if_true] at enough ⊢
      cases levels with
      | zero => exact absurd rfl enough
      | succ levels =>
        rw [if_neg (Nat.succ_ne_zero _)] at enough
        rw [if_neg (Nat.succ_ne_zero _), if_neg (Nat.succ_ne_zero _)]
        exact casesIn_succ children enough
    · rw [if_neg isSuite, if_neg isSuite]

theorem casesIn_succ {levels : Nat} {suite : String} :
    (elements : List Element) → casesIn levels suite elements ≠ .error .tooDeep →
      casesIn (levels + 1) suite elements = casesIn levels suite elements
  | [], _ => by
    unfold casesIn
    rfl
  | element :: rest, enough => by
    unfold casesIn at enough ⊢
    have here : casesOf levels suite element ≠ .error .tooDeep := fun deep =>
      enough (by rw [deep]; rfl)
    rw [casesOf_succ element here]
    cases outcome : casesOf levels suite element with
    | error failure => rfl
    | ok first =>
      have later : casesIn levels suite rest ≠ .error .tooDeep := fun deep =>
        enough (by rw [outcome, deep]; rfl)
      rw [casesIn_succ rest later]

end

theorem casesIn_singleton (levels : Nat) (suite : String) (element : Element) :
    casesIn levels suite [element] = casesOf levels suite element := by
  unfold casesIn casesIn
  rcases casesOf levels suite element with _ | found
  · rfl
  · exact congrArg Except.ok (List.append_nil found)

/-- A suite or a case in a further element gives the cases that it gives as a root. -/
theorem cases_wrapped {root : Element} (attributes : List (String × String)) (text : String)
    (tagged : root.tag = "testsuite" ∨ root.tag = "testcase")
    (enough : cases (.mk "testsuites" attributes text [root]) ≠ .error .tooDeep) :
    cases (.mk "testsuites" attributes text [root]) = cases root := by
  have wrapped : cases (.mk "testsuites" attributes text [root]) = casesOf nestingLimit "" root :=
    casesIn_singleton nestingLimit "" root
  rw [wrapped] at enough ⊢
  unfold cases
  rcases tagged with isSuite | isCase
  · have notCase : ¬ root.tag = "testcase" := by
      rw [isSuite]
      decide
    have opened : casesOf nestingLimit "" root =
        casesIn (nestingLimit - 1) ((root.attribute? "name").getD "") root.children := by
      cases root with
      | mk tag attributes text children =>
        rw [casesOf, if_pos (show tag = _ from isSuite), if_neg (by decide)]
        rfl
    rw [opened] at enough ⊢
    rw [if_neg notCase, if_pos isSuite]
    exact (casesIn_succ root.children enough).symm
  · rw [if_pos isCase]

/-! ## Results -/

/-- A result tells what a case does, with the file it was read for and the coverage of all. -/
structure Case.Told (testPath : String) (coverage : Option CoverageMap) (case : Case)
    (result : TestResult) : Prop where
  names : (result.owner, result.name) = TestName.split case.suite case.name
  outcome : result.outcome = case.outcome
  duration : result.duration = case.duration
  message : result.userData = case.message
  testPath : result.testPath = some testPath
  coverage : result.coverage = coverage

theorem told_of_outcome_ok {fs : FileSystem} {projectRoot : Path} {counts : LineCounts}
    {testPath xml : String} {clover : Option String} {results : List TestResult}
    (given : Reading.isBlankText xml = false)
    (ok : Reading.outcome fs projectRoot counts testPath xml clover "" = .ok results) :
    ∃ found coverage, parse xml = .ok found ∧
      List.Forall₂ (Case.Told testPath coverage) found results := by
  rw [Reading.outcome_eq_resultsBy] at ok
  rcases Reading.of_resultsBy_ok ok with ⟨crashed, -⟩ | ⟨-, document, found, coverage, parsed, read,
    -, rfl⟩
  · rcases crashed with blank | written
    · rw [given] at blank
      cases blank
    · exact absurd rfl written
  · refine ⟨found, coverage, ?_, ?_⟩
    · rw [parse, parsed]
      exact read
    · rw [List.forall₂_map_right_iff]
      exact List.forall₂_same.2 fun case _ => ⟨rfl, rfl, rfl, rfl, rfl, rfl⟩

/-- The cases of a document are those that suites lead to, once each and in document order, and a
document whose suites are not nested too deep is refused exactly if the time of one of them is no
number. A further element around a suite or a case changes nothing, and every case of a report
gives one result. -/
theorem flattens (root : Element) :
    (∀ found, cases root = .ok found → List.Forall₂ Node.Gives (caseNodes root) found) ∧
    (Shallow root →
      ((∃ failure, cases root = .error failure) ↔
        ∃ node ∈ caseNodes root, Untimed node.element) ∧
      ∀ failure, cases root = .error failure → ∃ raw, failure = .report (.time raw)) ∧
    (∀ xml, Xml.parse xml = .ok root → parse xml = cases root) ∧
    (∀ attributes text, root.tag = "testsuite" ∨ root.tag = "testcase" →
      cases (.mk "testsuites" attributes text [root]) ≠ .error .tooDeep →
      cases (.mk "testsuites" attributes text [root]) = cases root) ∧
    ∀ fs projectRoot counts testPath xml clover results, Reading.isBlankText xml = false →
      Reading.outcome fs projectRoot counts testPath xml clover "" = .ok results →
      ∃ found coverage, parse xml = .ok found ∧
        List.Forall₂ (Case.Told testPath coverage) found results := by
  refine ⟨fun found ok => ?_, fun shallow => ⟨cases_error_iff shallow, fun failure failed => ?_⟩,
    fun xml parsed => ?_, fun attributes text => cases_wrapped attributes text,
    fun _ _ _ _ _ _ _ => told_of_outcome_ok⟩
  · have each := cases_eq_mapM (shallow_of_cases_ok ok)
    rw [ok, eq_comm, mapM_eq_ok_iff] at each
    exact each.imp fun _ _ => Node.gives_of_read
  · obtain ⟨_, -, raw, -, -, same⟩ := time_of_cases_error shallow failed
    exact ⟨raw, same⟩
  · rw [parse, parsed]

/-- A report with a foreign element around a suite, suites in suites with a name or without, and a
case with a class of its own. -/
def mixedReport : Element :=
  let case (attributes : List (String × String)) : Element := .mk "testcase" attributes "" []
  .mk "report" [("name", "whole")] "" [
    case [("name", "a")],
    .mk "testsuite" [("name", "outer")] "" [
      .mk "testsuite" [] "" [case [("name", "b")], case [("name", "c"), ("classname", "C")]],
      .mk "properties" [] "" [case [("name", "d")]],
      case [("name", "e"), ("class", "")]]]

/-- The cases of the mixed report, each under its suite. -/
theorem flattens_mixedReport :
    Shallow mixedReport ∧ ∃ found, cases mixedReport = .ok found ∧
      List.Forall₂ Node.Gives (caseNodes mixedReport) found ∧
      found.map (fun case => (case.suite, case.name)) =
        [("", "a"), ("outer", "b"), ("C", "c"), ("outer", "e")] := by
  have shallow : Shallow mixedReport := by decide
  have untimed : ∀ node ∈ caseNodes mixedReport, node.element.attribute? "time" = none := by
    decide
  have evaluated : (cases mixedReport).map (fun found => found.map fun case =>
      (case.suite, case.name)) = .ok [("", "a"), ("outer", "b"), ("C", "c"), ("outer", "e")] := by
    decide
  obtain ⟨gives, refuses, -⟩ := flattens mixedReport
  cases outcome : cases mixedReport with
  | error failure =>
    obtain ⟨node, mem, raw, given, -⟩ := (refuses shallow).1.1 ⟨failure, outcome⟩
    rw [untimed node mem] at given
    cases given
  | ok found =>
    rw [outcome] at evaluated
    exact ⟨shallow, found, rfl, gives found outcome, Except.ok.inj evaluated⟩

/-- A case in a case that is the root. -/
def caseInCase : Element :=
  .mk "testcase" [("name", "a")] "" [.mk "testcase" [("name", "b")] "" []]

/-- A case in some suites. -/
def tower : Nat → Element
  | 0 => .mk "testcase" [("name", "a")] "" []
  | suites + 1 => .mk "testsuite" [] "" [tower suites]

theorem casesOf_tower (levels more : Nat) (suite : String) :
    casesOf levels suite (tower (levels + more + 1)) = .error .tooDeep := by
  induction levels generalizing suite with
  | zero =>
    rw [Nat.zero_add, tower, casesOf, if_pos rfl, if_pos rfl]
  | succ levels ih =>
    rw [Nat.succ_add, tower, casesOf, if_pos rfl, if_neg (Nat.succ_ne_zero _), Nat.add_sub_cancel,
      casesIn_singleton, ih]

/-- Of two cases with suites alone around them, the root apart, the one in a root that is a case is
not read, and too many suites in each other are refused with something that is no report error. -/
theorem flattens_not_always :
    ((nodesOf [] caseInCase).countP (fun node => node.element.tag = "testcase" ∧
        ∀ outer ∈ node.above.dropLast, outer.tag = "testsuite") = 2 ∧
      (cases caseInCase).map List.length = .ok 1) ∧
    cases (.mk "testsuites" [] "" [tower 1200]) = .error .tooDeep := by
  refine ⟨⟨by decide, by decide⟩, ?_⟩
  have deep := casesOf_tower nestingLimit 209 ""
  rw [← casesIn_singleton] at deep
  exact deep

end TestImpact.Junit
