import TestImpact.Proofs.Outcome
import TestImpact.Report.Junit

/-!
# What the reading of a JUnit report visits

The reading of a JUnit report goes through nested suites and looks at nothing else. Here
this is said twice. `Reached` is a relation: a case is reached from the root through suites
alone. `visits` lists everything that is looked at, in document order, with the number of
suites around it.

* `cases_eq`: the cases of a report are what its visits give, one after the other.
* `cases_meets`: the reading of a report fails at the first visit that has a problem.
* `exists_mem_cases_of_reached`, `exists_reached_of_mem_cases`: a report that is read gives
  every case that is reached, and no other one.
-/

namespace TestImpact.Junit

/-! ## Cases that suites lead to -/

/-- A case lies in an element, with nothing but suites between them. -/
inductive Within : Element → Element → Prop
  | child {parent case : Element} : case ∈ parent.children → case.tag = "testcase" →
      Within parent case
  | deeper {parent suite case : Element} : suite ∈ parent.children → suite.tag = "testsuite" →
      Within suite case → Within parent case

/-- A case is reached from the root of a report through suites. A root that is a case itself
leads to no other one. -/
inductive Reached : Element → Element → Prop
  | root {case : Element} : case.tag = "testcase" → Reached case case
  | below {root case : Element} : root.tag ≠ "testcase" → Within root case → Reached root case

/-! ## Visits -/

/-- Something that is looked at: with the suite that counts for it, and the number of suites
around it. -/
structure Visit where
  depth : Nat
  suite : String
  element : Element

mutual

/-- What is looked at in an element. -/
def visitsOf (depth : Nat) (suite : String) : Element → List Visit
  | .mk tag attributes text children =>
    ⟨depth, suite, .mk tag attributes text children⟩ ::
      if tag = "testsuite" then
        visitsIn (depth + 1) ((attributes.lookup "name").getD suite) children
      else []

/-- What is looked at in some elements. -/
def visitsIn (depth : Nat) (suite : String) : List Element → List Visit
  | [] => []
  | element :: rest => visitsOf depth suite element ++ visitsIn depth suite rest

end

/-- What is looked at in a report, in document order. -/
def visits (root : Element) : List Visit :=
  if root.tag = "testcase" then visitsOf 0 "" root
  else
    visitsIn 0 (if root.tag = "testsuite" then (root.attribute? "name").getD "" else "")
      root.children

/-- What a visit gives: a case for a case, and nothing for anything else. There is an end to how
deep suites may lie. -/
def Visit.read (visit : Visit) : Except Failure (List Case) :=
  if visit.element.tag = "testsuite" then
    if nestingLimit ≤ visit.depth then .error .tooDeep else .ok []
  else if visit.element.tag = "testcase" then
    (fun case => [case]) <$> (Case.of visit.suite visit.element).mapError .report
  else .ok []

/-- What some visits give, one after the other. -/
def readAll (visits : List Visit) : Except Failure (List Case) :=
  List.flatten <$> visits.mapM Visit.read

@[simp]
theorem readAll_nil : readAll [] = .ok [] :=
  rfl

theorem readAll_cons (visit : Visit) (rest : List Visit) :
    readAll (visit :: rest) = (do
      let first ← visit.read
      pure (first ++ (← readAll rest))) := by
  unfold readAll
  rw [List.mapM_cons]
  rcases visit.read with _ | first
  · rfl
  · rcases rest.mapM Visit.read with _ | _ <;> rfl

theorem readAll_append (left right : List Visit) :
    readAll (left ++ right) = (do
      let first ← readAll left
      pure (first ++ (← readAll right))) := by
  induction left with
  | nil =>
    rw [List.nil_append, readAll_nil]
    rcases readAll right with _ | _ <;> rfl
  | cons visit rest ih =>
    rw [List.cons_append, readAll_cons, readAll_cons, ih]
    rcases visit.read with _ | first
    · rfl
    · rcases readAll rest with _ | second
      · rfl
      · rcases readAll right with _ | third
        · rfl
        · exact congrArg Except.ok (List.append_assoc first second third).symm

mutual

theorem casesOf_eq {depth levels : Nat} (within : depth + levels = nestingLimit) (suite : String) :
    (element : Element) → casesOf levels suite element = readAll (visitsOf depth suite element)
  | .mk tag attributes text children => by
    unfold casesOf visitsOf
    rw [readAll_cons]
    unfold Visit.read
    simp only [Element.tag]
    by_cases isSuite : tag = "testsuite"
    · simp only [isSuite, if_true]
      cases levels with
      | zero =>
        rw [if_pos rfl, if_pos (by omega)]
        rfl
      | succ levels =>
        have deeper : depth + 1 + levels = nestingLimit := by omega
        rw [if_neg (by omega), if_neg (by omega), Nat.add_sub_cancel, casesIn_eq deeper]
        rcases readAll (visitsIn (depth + 1) _ children) with _ | _ <;> rfl
    · simp only [isSuite, if_false, readAll_nil]
      by_cases isCase : tag = "testcase"
      · simp only [isCase, if_true]
        rcases (Case.of suite _).mapError Failure.report with _ | _ <;> rfl
      · simp only [isCase, if_false]
        rfl

theorem casesIn_eq {depth levels : Nat} (within : depth + levels = nestingLimit) (suite : String) :
    (elements : List Element) →
      casesIn levels suite elements = readAll (visitsIn depth suite elements)
  | [] => by
    unfold casesIn visitsIn
    rfl
  | element :: rest => by
    unfold casesIn visitsIn
    rw [readAll_append, casesOf_eq within, casesIn_eq within]

end

/-- The cases of a report are what its visits give, one after the other. -/
theorem cases_eq (root : Element) : cases root = readAll (visits root) := by
  unfold cases visits
  split
  · exact casesOf_eq (Nat.zero_add _) "" root
  · exact casesIn_eq (Nat.zero_add _) _ root.children

/-! ## Problems -/

/-- What is wrong with a visit: a suite lies too deep, or a case has an unreadable time. -/
def Visit.problem? (visit : Visit) : Option Failure :=
  if visit.element.tag = "testsuite" then
    if nestingLimit ≤ visit.depth then some .tooDeep else none
  else if visit.element.tag = "testcase" then
    (TestImpact.problem? (seconds visit.element)).map .report
  else none

/-- What is wrong with a report, in document order. -/
def problems (root : Element) : List Failure :=
  (visits root).flatMap fun visit => visit.problem?.toList

theorem Case.of_meets (suite : String) (case : Element) :
    Meets (TestImpact.problem? (seconds case)).toList (Case.of suite case) := by
  have last : ∀ duration, seconds case = .ok duration → Meets []
      (.ok ⟨((nonEmpty? case "class").or (nonEmpty? case "classname")).getD suite,
        (case.attribute? "name").getD "", (classify case).1, duration, (classify case).2⟩ :
        Except ReportError Case) :=
    fun duration _ => Meets.ok _
  have whole := (Meets.of_problem? (seconds case)).bind last
  rw [List.append_nil] at whole
  exact whole

theorem Visit.read_meets (visit : Visit) : Meets visit.problem?.toList visit.read := by
  unfold Visit.problem? Visit.read
  split
  · split
    · exact Meets.error Failure.tooDeep
    · exact Meets.ok []
  · split
    · have read := ((Case.of_meets visit.suite visit.element).mapError Failure.report).map
        fun case => [case]
      rw [← Option.toList_map] at read
      exact read
    · exact Meets.ok []

/-- The reading of a report fails at the first visit that has a problem. -/
theorem cases_meets (root : Element) : Meets (problems root) (cases root) := by
  have each : Meets (problems root) ((visits root).mapM Visit.read) :=
    Meets.mapM fun visit _ => visit.read_meets
  rw [cases_eq]
  exact each.map List.flatten

/-! ## The cases that are read -/

theorem Visit.mem_read_iff {visit : Visit} {found : List Case} (ok : visit.read = .ok found)
    (case : Case) :
    case ∈ found ↔
      visit.element.tag = "testcase" ∧ Case.of visit.suite visit.element = .ok case := by
  unfold Visit.read at ok
  by_cases isSuite : visit.element.tag = "testsuite"
  · rw [if_pos isSuite] at ok
    split at ok
    · cases ok
    · cases ok
      simp [isSuite]
  · rw [if_neg isSuite] at ok
    by_cases isCase : visit.element.tag = "testcase"
    · rw [if_pos isCase] at ok
      obtain ⟨read, mapped, rfl⟩ := of_map_ok ok
      cases outcome : Case.of visit.suite visit.element with
      | error e =>
        rw [outcome] at mapped
        cases mapped
      | ok other =>
        rw [outcome] at mapped
        cases mapped
        simp [isCase, eq_comm]
    · rw [if_neg isCase] at ok
      cases ok
      simp [isCase]

theorem mem_readAll_iff {visited : List Visit} {found : List Case}
    (ok : readAll visited = .ok found) (case : Case) :
    case ∈ found ↔ ∃ visit ∈ visited, visit.element.tag = "testcase" ∧
      Case.of visit.suite visit.element = .ok case := by
  induction visited generalizing found with
  | nil =>
    cases ok
    simp
  | cons visit rest ih =>
    rw [readAll_cons] at ok
    obtain ⟨first, read, ok⟩ := of_bind_ok ok
    obtain ⟨others, later, ok⟩ := of_bind_ok ok
    cases ok
    rw [List.mem_append, Visit.mem_read_iff read, ih later]
    simp

theorem visitsIn_eq_flatMap (depth : Nat) (suite : String) (elements : List Element) :
    visitsIn depth suite elements = elements.flatMap (visitsOf depth suite) := by
  induction elements with
  | nil => rfl
  | cons element rest ih =>
    unfold visitsIn
    rw [ih, List.flatMap_cons]

theorem mem_visitsOf_iff {depth : Nat} {suite : String} {element : Element} {visit : Visit} :
    visit ∈ visitsOf depth suite element ↔
      visit = ⟨depth, suite, element⟩ ∨ element.tag = "testsuite" ∧
        visit ∈ visitsIn (depth + 1) ((element.attribute? "name").getD suite) element.children := by
  cases element with
  | mk tag attributes text children =>
    unfold visitsOf
    rw [List.mem_cons]
    by_cases isSuite : tag = "testsuite" <;>
      simp [isSuite, Element.tag, Element.children, Element.attribute?, Element.attributes]

/-- Is an element a case, or a suite in which a case lies? -/
def LeadsTo (element case : Element) : Prop :=
  element = case ∨ element.tag = "testsuite" ∧ Within element case

theorem LeadsTo.within {parent element case : Element} (mem : element ∈ parent.children)
    (isCase : case.tag = "testcase") (leads : LeadsTo element case) : Within parent case := by
  rcases leads with rfl | ⟨isSuite, within⟩
  · exact .child mem isCase
  · exact .deeper mem isSuite within

mutual

theorem leadsTo_of_mem_visitsOf {depth : Nat} {suite : String} {visit : Visit}
    (isCase : visit.element.tag = "testcase") :
    (element : Element) → visit ∈ visitsOf depth suite element → LeadsTo element visit.element
  | .mk tag attributes text children, mem => by
    rcases mem_visitsOf_iff.1 mem with rfl | ⟨isSuite, later⟩
    · exact Or.inl rfl
    · obtain ⟨child, among, leads⟩ := leadsTo_of_mem_visitsIn isCase children later
      exact Or.inr ⟨isSuite, leads.within among isCase⟩

theorem leadsTo_of_mem_visitsIn {depth : Nat} {suite : String} {visit : Visit}
    (isCase : visit.element.tag = "testcase") :
    (elements : List Element) → visit ∈ visitsIn depth suite elements →
      ∃ element ∈ elements, LeadsTo element visit.element
  | element :: rest, mem => by
    unfold visitsIn at mem
    rcases List.mem_append.1 mem with here | later
    · exact ⟨element, List.mem_cons_self, leadsTo_of_mem_visitsOf isCase element here⟩
    · obtain ⟨other, among, leads⟩ := leadsTo_of_mem_visitsIn isCase rest later
      exact ⟨other, List.mem_cons_of_mem _ among, leads⟩

end

theorem Within.visited {parent case : Element} (within : Within parent case) (depth : Nat)
    (suite : String) :
    case.tag = "testcase" ∧
      ∃ visit ∈ visitsIn depth suite parent.children, visit.element = case := by
  induction within generalizing depth suite with
  | @child parent element mem isCase =>
    refine ⟨isCase, ⟨depth, suite, element⟩, ?_, rfl⟩
    rw [visitsIn_eq_flatMap]
    exact List.mem_flatMap.2 ⟨element, mem, mem_visitsOf_iff.2 (Or.inl rfl)⟩
  | @deeper parent inner _ mem isSuite _ ih =>
    obtain ⟨isCase, visit, visited, same⟩ := ih (depth + 1) ((inner.attribute? "name").getD suite)
    refine ⟨isCase, visit, ?_, same⟩
    rw [visitsIn_eq_flatMap]
    exact List.mem_flatMap.2 ⟨inner, mem, mem_visitsOf_iff.2 (Or.inr ⟨isSuite, visited⟩)⟩

/-- The cases among the visits are the ones that are reached. -/
theorem reached_iff (root case : Element) :
    Reached root case ↔ case.tag = "testcase" ∧ ∃ visit ∈ visits root, visit.element = case := by
  unfold visits
  constructor
  · intro reached
    cases reached with
    | root isCase =>
      rw [if_pos isCase]
      exact ⟨isCase, ⟨0, "", root⟩, mem_visitsOf_iff.2 (Or.inl rfl), rfl⟩
    | below notCase within =>
      rw [if_neg notCase]
      exact within.visited _ _
  · rintro ⟨isCase, visit, visited, rfl⟩
    by_cases rootIsCase : root.tag = "testcase"
    · rw [if_pos rootIsCase] at visited
      rcases leadsTo_of_mem_visitsOf isCase root visited with rfl | ⟨isSuite, -⟩
      · exact .root isCase
      · rw [rootIsCase] at isSuite
        exact absurd isSuite (by decide)
    · rw [if_neg rootIsCase] at visited
      obtain ⟨child, among, leads⟩ := leadsTo_of_mem_visitsIn isCase root.children visited
      exact .below rootIsCase (leads.within among isCase)

/-- Every case of a report was read from a case that is reached. -/
theorem exists_reached_of_mem_cases {root : Element} {found : List Case}
    (ok : cases root = .ok found) {case : Case} (mem : case ∈ found) :
    ∃ element suite, Reached root element ∧ Case.of suite element = .ok case := by
  rw [cases_eq] at ok
  obtain ⟨visit, visited, isCase, read⟩ := (mem_readAll_iff ok case).1 mem
  exact ⟨visit.element, visit.suite, (reached_iff root _).2 ⟨isCase, visit, visited, rfl⟩, read⟩

/-- Every case that is reached is among the cases of a report that is read. -/
theorem exists_mem_cases_of_reached {root : Element} {found : List Case}
    (ok : cases root = .ok found) {element : Element} (reached : Reached root element) :
    ∃ case ∈ found, ∃ suite, Case.of suite element = .ok case := by
  obtain ⟨isCase, visit, visited, rfl⟩ := (reached_iff root _).1 reached
  have none_wrong : problems root = [] := (cases_meets root).ok_iff.1 ⟨found, ok⟩
  have fine : visit.problem? = none := by
    have nothing := List.flatMap_eq_nil_iff.1 none_wrong visit visited
    rwa [Option.toList_eq_nil_iff] at nothing
  have timed : TestImpact.problem? (seconds visit.element) = none := by
    unfold Visit.problem? at fine
    rw [if_neg (by rw [isCase]; decide), if_pos isCase, Option.map_eq_none_iff] at fine
    exact fine
  obtain ⟨case, read⟩ := (Case.of_meets visit.suite visit.element).ok_iff.2 (by rw [timed]; rfl)
  rw [cases_eq] at ok
  exact ⟨case, (mem_readAll_iff ok case).2 ⟨visit, visited, isCase, read⟩, visit.suite, read⟩

/-- A report that is read gives no case exactly if none is reached. -/
theorem cases_eq_nil_iff {root : Element} {found : List Case} (ok : cases root = .ok found) :
    found = [] ↔ ∀ element, ¬ Reached root element := by
  constructor
  · rintro rfl element reached
    obtain ⟨case, mem, -⟩ := exists_mem_cases_of_reached ok reached
    cases mem
  · intro nowhere
    rw [List.eq_nil_iff_forall_not_mem]
    intro case mem
    obtain ⟨element, suite, reached, -⟩ := exists_reached_of_mem_cases ok mem
    exact nowhere element reached

end TestImpact.Junit
