import TestImpact.Proofs.Entries
import TestImpact.Proofs.Outcome
import TestImpact.Proofs.Report.LineCounts
import TestImpact.Result.OfTable

/-!
# What a coverage map says

The files of a Clover report may lie in each other, come twice and name lines that are not there.
Of a file the statement lines count, of several ones with one number the last (`letterAt`), and a
later file takes the place of an earlier one that is shown under the same path. Here this is said of
the document alone, and the reading of the document is compared with it.

* `getElem?_foldl_record`: what statements leave on a line is what the last one on it says.
* `coverage_eq`: the map is made of the files in which a statement ran, put in one by one.
* `coverage_of_acceptable`: the keys, the lengths and the letters of the map.
-/

namespace TestImpact

/-! ## Letters -/

theorem LineState.ofText?_text (states : List LineState) : ofText? (text states) = some states := by
  rw [ofText?, text, String.toList_ofList]
  induction states with
  | nil => rfl
  | cons state rest ih =>
    rw [List.map_cons, List.mapM_cons, ofLetter?_letter, ih]
    rfl

/-- The letters of a coverage map are always those of a coverage map. -/
theorem TestResult.coverageOfTexts_text (coverage : CoverageMap) :
    coverageOfTexts (coverage.map fun entry => (entry.1, LineState.text entry.2)) =
      .ok coverage := by
  induction coverage with
  | nil => rfl
  | cons entry rest ih =>
    rw [List.map_cons, coverageOfTexts, LineState.ofText?_text, ih]
    rfl

theorem LineState.mem_text {states : List LineState} {c : Char} (mem : c ∈ (text states).toList) :
    c = 'C' ∨ c = 'U' ∨ c = 'N' := by
  rw [text, String.toList_ofList] at mem
  obtain ⟨state, -, rfl⟩ := List.mem_map.1 mem
  cases state <;> simp [letter]

namespace Clover

/-! ## Lines of a document -/

/-- How often the statement of a line ran, if that can be read. -/
def count? (line : Element) : Option Int :=
  (line.attribute? "count").bind Numeral.int?

/-- The number of a line, if it can be read; a line without one has number zero. -/
def number? (line : Element) : Option Int :=
  match line.attribute? "num" with
  | none => some 0
  | some raw => Numeral.int? raw

/-- The lines of a file that hold a statement, in document order. -/
def statementLines (file : Element) : List Element :=
  (file.withTag "line").filter fun line => line.attribute? "type" = some "stmt"

/-- A statement line can be read: it has a count that is not negative, and a number or none. -/
structure Acceptable (line : Element) : Prop where
  counted : ∃ count : Nat, count? line = some (count : Int)
  numbered : ∃ number, number? line = some number

instance (line : Element) : Decidable (Acceptable line) :=
  decidable_of_iff ((count? line).any (0 ≤ ·) = true ∧ (number? line).isSome = true) (by
    rw [Option.isSome_iff_exists, Option.any_eq_true]
    constructor
    · rintro ⟨⟨count, read, notNegative⟩, numbered⟩
      obtain ⟨n, rfl⟩ := Int.eq_ofNat_of_zero_le (of_decide_eq_true notNegative)
      exact ⟨⟨n, read⟩, numbered⟩
    · rintro ⟨⟨count, read⟩, numbered⟩
      exact ⟨⟨count, read, decide_eq_true (Int.natCast_nonneg count)⟩, numbered⟩)

/-- Did the statement of a line run? -/
def hasRun (line : Element) : Bool :=
  0 < (count? line).getD 0

/-- Did a statement of a file run, on whatever line it stands? -/
def isCovered (file : Element) : Bool :=
  (statementLines file).any hasRun

/-- The files of a document in which a statement ran, in document order. -/
def coveredFiles (document : Element) : List Element :=
  (document.withTag "file").filter isCovered

/-- The letter of a line of a file: the last statement line with its number decides. -/
def letterAt (file : Element) (number : Int) : Char :=
  match ((statementLines file).filter fun line => number? line = some number).getLast? with
  | none => 'N'
  | some line => if hasRun line then 'C' else 'U'

/-! ## Statements -/

/-- What a statement line says. -/
def statement (line : Element) : Statement :=
  ⟨(number? line).getD 0, hasRun line⟩

theorem Acceptable.statement_eq {line : Element} (acceptable : Acceptable line) :
    Statement.of line = .ok (statement line) := by
  obtain ⟨count, counted⟩ := acceptable.counted
  obtain ⟨number, numbered⟩ := acceptable.numbered
  have runs_eq : runs line = .ok count := by
    unfold count? at counted
    simp only [runs, counted]
  have number_eq : lineNumber line = .ok number := by
    unfold number? at numbered
    unfold lineNumber
    cases given : line.attribute? "num" with
    | none =>
      rw [given] at numbered
      exact congrArg Except.ok (Option.some.inj numbered)
    | some raw =>
      rw [given] at numbered
      simp only [show Numeral.int? raw = some number from numbered]
  have whole : statement line = ⟨number, decide (count > 0)⟩ := by
    rw [statement, hasRun, counted, numbered]
    simp
  rw [Statement.of, runs_eq, number_eq, whole]
  rfl

theorem statements_eq {file : Element}
    (acceptable : ∀ line ∈ statementLines file, Acceptable line) :
    statements file = .ok ((statementLines file).map statement) := by
  refine mapM_eq_ok_iff.2 (List.forall₂_map_right_iff.2 (List.forall₂_same.2 fun line mem => ?_))
  exact (acceptable line mem).statement_eq

/-! ## States of lines -/

/-- The state of a line whose last statement this is. -/
def Statement.state (statement : Statement) : LineState :=
  if statement.ran then .covered else .uncovered

/-- A statement decides the state of its line and no other one. -/
theorem getElem?_record (states : List LineState) (statement : Statement) (i : Nat) :
    (record states statement)[i]? =
      if statement.line = i + 1 then states[i]?.map fun _ => statement.state else states[i]? := by
  unfold record
  by_cases here : statement.line = i + 1
  · have place : statement.line.toNat - 1 = i := by omega
    rw [if_pos here, if_pos (by omega), place, List.getElem?_set_self', Statement.state]
    rfl
  · rw [if_neg here]
    split
    · have elsewhere : statement.line.toNat - 1 ≠ i := by omega
      rw [List.getElem?_set_ne elsewhere]
    · rfl

/-- What statements leave on a line is what the last one on it says. -/
theorem getElem?_foldl_record (states : List LineState) (found : List Statement) (i : Nat) :
    (found.foldl record states)[i]? = states[i]?.map fun old =>
      ((found.filter fun s => s.line = (i : Int) + 1).getLast?.map Statement.state).getD old := by
  -- From the end, since the last statement on a line decides and those before it do not matter.
  induction found using List.reverseRecOn with
  | nil => simp
  | append_singleton earlier last ih =>
    rw [List.foldl_append, List.foldl_cons, List.foldl_nil, getElem?_record, ih, List.filter_append]
    by_cases here : last.line = i + 1
    · have kept : ([last].filter fun s => s.line = (i : Int) + 1) = [last] := by simp [here]
      rw [if_pos here, kept, List.getLast?_concat, Option.map_map]
      rfl
    · have dropped : ([last].filter fun s => s.line = (i : Int) + 1) = [] := by simp [here]
      rw [if_neg here, dropped, List.append_nil]

theorem length_record (states : List LineState) (statement : Statement) :
    (record states statement).length = states.length := by
  unfold record
  split
  · rw [List.length_set]
  · rfl

theorem length_foldl_record (states : List LineState) (found : List Statement) :
    (found.foldl record states).length = states.length := by
  induction found generalizing states with
  | nil => rfl
  | cons first rest ih => rw [List.foldl_cons, ih, length_record]

/-- The states of the lines of a file that has some number of lines now. -/
def statesOf (lines : Nat) (file : Element) : List LineState :=
  ((statementLines file).map statement).foldl record (List.replicate lines .notApplicable)

theorem length_statesOf (lines : Nat) (file : Element) : (statesOf lines file).length = lines := by
  rw [statesOf, length_foldl_record, List.length_replicate]

/-- A line number that is not zero is the number of a line that has it, and of no other one. -/
theorem line_statement_iff (line : Element) (i : Nat) :
    (statement line).line = (i : Int) + 1 ↔ number? line = some ((i : Int) + 1) := by
  rw [statement]
  cases number? line with
  -- A number that cannot be read is kept as zero, which is no line.
  | none => simp; omega
  | some number => simp

theorem getElem?_statesOf {lines i : Nat} (file : Element) (inside : i < lines) :
    ((statesOf lines file)[i]?).map LineState.letter = some (letterAt file (i + 1)) := by
  have same : ((statementLines file).map statement).filter (fun s => s.line = (i : Int) + 1) =
      ((statementLines file).filter fun line => number? line = some ((i : Int) + 1)).map
        statement := by
    rw [List.filter_map]
    refine congrArg _ (List.filter_congr fun line _ => ?_)
    exact decide_eq_decide.2 (line_statement_iff line i)
  rw [statesOf, getElem?_foldl_record, List.getElem?_replicate_of_lt inside, same, letterAt,
    List.getLast?_map]
  cases ((statementLines file).filter fun line => number? line = some ((i : Int) + 1)).getLast? with
  | none => rfl
  | some line =>
    by_cases ran : hasRun line = true <;>
      simp [Statement.state, statement, ran, LineState.letter]

/-! ## Maps -/

variable {cwd : String} {root : Path} {lines : String → Int}

/-- What a file comes to in a coverage map. -/
def entryOf (cwd : String) (root : Path) (lines : String → Int) (file : Element) :
    String × List LineState :=
  (shownPath cwd root file, statesOf (lines (shownPath cwd root file)).toNat file)

/-- The map after a file: only one in which a statement ran is put in. -/
def withFile (cwd : String) (root : Path) (lines : String → Int) (known : CoverageMap)
    (file : Element) : CoverageMap :=
  if isCovered file then
    Entries.put known (entryOf cwd root lines file).1 (entryOf cwd root lines file).2
  else known

theorem states?_eq (count : Nat) (file : Element) :
    states? count ((statementLines file).map statement) =
      if isCovered file then some (statesOf count file) else none := by
  have ran : ((statementLines file).map statement).any (·.ran) = isCovered file := List.any_map
  rw [states?, ran, statesOf]

theorem addFile_of_ok {shown : String → String} {count : String → Except Failure Int}
    {file : Element} {length : Int} {found : List Statement} (known : CoverageMap)
    (counted : count (shown ((file.attribute? "name").getD "")) = .ok length)
    (read : statements file = .ok found) :
    addFile shown count known file = .ok ((states? length.toNat found).elim known
      (known.put (shown ((file.attribute? "name").getD "")))) := by
  unfold addFile
  simp only [counted, read]
  cases recorded : states? length.toNat found <;>
    simp only [bind, Except.bind, recorded, Option.elim] <;> rfl

theorem addFile_eq {file : Element} (acceptable : ∀ line ∈ statementLines file, Acceptable line)
    (known : CoverageMap) :
    addFile (fun name => Lexical.displayed cwd name root.toString)
        (fun path => (.ok (lines path) : Except Failure Int)) known file =
      pure (withFile cwd root lines known file) := by
  rw [addFile_of_ok known rfl (statements_eq acceptable), states?_eq, withFile, entryOf]
  cases isCovered file with
  | false => rfl
  | true =>
    simp only [if_true, Option.elim_some, CoverageMap.put_eq, shownPath, pure, Except.pure]

/-- The map is made of the files in which a statement ran, put in one by one. -/
theorem coverage_eq {document : Element}
    (acceptable : ∀ file ∈ document.withTag "file", ∀ line ∈ statementLines file,
      Acceptable line) :
    coverage (fun name => Lexical.displayed cwd name root.toString)
        (fun path => (.ok (lines path) : Except Failure Int)) document =
      .ok (Entries.putAll ((coveredFiles document).map (entryOf cwd root lines))) := by
  have each : ∀ file ∈ document.withTag "file", ∀ known,
      addFile (fun name => Lexical.displayed cwd name root.toString)
        (fun path => (.ok (lines path) : Except Failure Int)) known file =
      pure (withFile cwd root lines known file) :=
    fun file mem known => addFile_eq (acceptable file mem) known
  have folded : (document.withTag "file").foldl (withFile cwd root lines) [] =
      Entries.putAll ((coveredFiles document).map (entryOf cwd root lines)) := by
    rw [Entries.putAll, List.foldl_map, coveredFiles, List.foldl_filter]
    rfl
  unfold coverage
  rw [foldlM_congr_of_mem each, List.foldlM_pure, folded]
  rfl

/-- What a coverage map says about a document: which files it lists, and the letters of each. -/
structure Describes (cwd : String) (root : Path) (lines : String → Int) (document : Element)
    (coverage : CoverageMap) : Prop where
  keys : coverage.map Prod.fst = ((coveredFiles document).map (shownPath cwd root)).eraseDups
  /-- Of several files that are shown under one path the last counts. -/
  letters : ∀ path states, (path, states) ∈ coverage → ∃ file,
    ((coveredFiles document).filter fun file => shownPath cwd root file = path).getLast? =
      some file ∧
    (LineState.text states).toList.length = (lines path).toNat ∧
    ∀ i < (lines path).toNat, (LineState.text states).toList[i]? = some (letterAt file (i + 1))

theorem describes_putAll (document : Element) :
    Describes cwd root lines document
      (Entries.putAll ((coveredFiles document).map (entryOf cwd root lines))) where
  keys := by
    rw [Entries.keys_putAll, List.map_map]
    simp only [Function.comp_def, entryOf]
  letters path states mem := by
    unfold entryOf at mem
    obtain ⟨file, last, rfl⟩ := Entries.mem_putAll_map_iff.1 mem
    have shown : shownPath cwd root file = path :=
      of_decide_eq_true (List.mem_filter.1 (List.mem_of_getLast? last)).2
    rw [shown]
    refine ⟨file, last, ?_, fun i inside => ?_⟩
    · rw [LineState.text, String.toList_ofList, List.length_map, length_statesOf]
    · rw [LineState.text, String.toList_ofList, List.getElem?_map]
      exact getElem?_statesOf file inside

/-- A document whose statement lines can be read gives a map that describes it, whatever number of
lines its files have, and a map of states alone. A text is read as the document in it, and the map
is the same if the numbers of lines are remembered. -/
theorem describes_of_acceptable {document : Element} (lines : String → Int)
    (acceptable : ∀ file ∈ document.withTag "file", ∀ line ∈ statementLines file,
      Acceptable line) :
    ∃ found : CoverageMap,
      coverage (fun name => Lexical.displayed cwd name root.toString)
        (fun path => (.ok (lines path) : Except Failure Int)) document = .ok found ∧
      (∀ xml, Xml.parse xml = .ok document →
        parse cwd root (fun path => (.ok (lines path) : Except Failure Int)) xml = .ok found ∧
        ∀ fs counts, (∀ path ∈ named cwd root xml,
            LineCounts.answer fs root counts path = .ok (lines path)) →
          ((parse cwd root (LineCounts.count fs root) xml).run.run counts).1 = .ok found) ∧
      Describes cwd root lines document found ∧
      (∀ path states, (path, states) ∈ found →
        ∀ c ∈ (LineState.text states).toList, c = 'C' ∨ c = 'U' ∨ c = 'N') ∧
      TestResult.coverageOfTexts (found.map fun entry => (entry.1, LineState.text entry.2)) =
        .ok found := by
  refine ⟨_, coverage_eq acceptable, fun xml parsed => ?_, describes_putAll document,
    fun path states _ c mem => LineState.mem_text mem, TestResult.coverageOfTexts_text _⟩
  have read : parse cwd root (fun path => (.ok (lines path) : Except Failure Int)) xml =
      .ok (Entries.putAll ((coveredFiles document).map (entryOf cwd root lines))) := by
    rw [parse, parsed]
    exact coverage_eq acceptable
  refine ⟨read, fun fs counts answered => ?_⟩
  rw [(asks_parse cwd xml counts rfl).1, parse_congr answered, read]

/-- A report with one file in a package and once more behind it, spelled in another way, and with
lines that come twice, lie behind the end of the file or hold no statement. -/
def listedTwice : Element :=
  let line (number type count : String) : Element :=
    .mk "line" [("num", number), ("type", type), ("count", count)] "" []
  .mk "coverage" [] "" [.mk "project" [] "" [
    .mk "package" [] "" [.mk "file" [("name", "/p/src/A.php")] "" [line "1" "stmt" "1"]],
    .mk "file" [("name", "/p/src/B.php")] "" [line "1" "stmt" "0"],
    .mk "file" [("name", "/p/src/./A.php")] "" [
      line "2" "stmt" "0", line "2" "stmt" "4", line "3" "stmt" "0", line "4" "method" "1",
      line "-1" "stmt" "1", line "9" "stmt" "1"]]]

/-- The file is listed once, with what was said of it last. -/
theorem describes_listedTwice :
    (∀ file ∈ listedTwice.withTag "file", ∀ line ∈ statementLines file, Acceptable line) ∧
      ∃ found : CoverageMap, Describes "/" ⟨.root, ["p"]⟩ (fun _ => 4) listedTwice found ∧
        found.map (fun entry => (entry.1, LineState.text entry.2)) = [("src/A.php", "NCUN")] := by
  have acceptable : ∀ file ∈ listedTwice.withTag "file", ∀ line ∈ statementLines file,
      Acceptable line := by
    decide +kernel
  have evaluated : (coverage (fun name => Lexical.displayed "/" name "/p")
      (fun _ => (.ok 4 : Except Failure Int)) listedTwice).map (fun found => found.map fun entry =>
        (entry.1, LineState.text entry.2)) = .ok [("src/A.php", "NCUN")] := by
    decide +kernel
  have rooted : (⟨.root, ["p"]⟩ : Path).toString = "/p" := by decide +kernel
  obtain ⟨found, covered, -, describes, -⟩ :=
    @describes_of_acceptable "/" ⟨.root, ["p"]⟩ _ (fun _ => 4) acceptable
  rw [rooted] at covered
  rw [covered] at evaluated
  exact ⟨acceptable, found, describes, Except.ok.inj evaluated⟩

end Clover

end TestImpact
