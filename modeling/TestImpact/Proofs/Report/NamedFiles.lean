import TestImpact.Proofs.Path.Containment
import TestImpact.Proofs.Report.Coverage
import TestImpact.Proofs.Report.Problems
import TestImpact.Proofs.SmallProject

/-!
# The files that coverage is measured on

A Clover report names its files from the root, and a file of the project is shown under its place in
the project. The lines that are counted under what is shown are those of a file at the place that
the report named (`resolved_opened`). So files at different places are shown differently, and what a
coverage map says under a path was read from one file of the report and measured on the file at its
place (`coverage_of_named_files`).
-/

namespace TestImpact

namespace Lexical

variable {cwd name root : String} {rest : List String}

/-! ## What is shown, and what is opened under it -/

/-- A path that is given from the root and holds no backslash. -/
structure FromRoot (path : String) : Prop where
  slash : path.toList.head? = some '/'
  plain : '\\' ∉ path.toList

instance (path : String) : Decidable (FromRoot path) :=
  decidable_of_iff (path.toList.head? = some '/' ∧ '\\' ∉ path.toList)
    ⟨fun both => ⟨both.1, both.2⟩, fun from_root => ⟨from_root.slash, from_root.plain⟩⟩

theorem displayed_of_within (joined : names cwd name = names cwd root ++ rest)
    (down : rest.head? ≠ some parentSegment) :
    displayed cwd name root = "/".intercalate rest := by
  rw [displayed, if_pos (within_iff.2 ⟨rest, joined, down⟩), below_of_names_eq joined]

theorem displayed_of_outside (outside : within cwd name root = false) :
    displayed cwd name root = slashed name := by
  rw [displayed, if_neg (by simp [outside])]

theorem resolved_eq_of_slash {other : String} (slash : name.toList.head? = some '/')
    (slash_other : other.toList.head? = some '/') (same : names cwd name = names cwd other) :
    resolved cwd name = resolved cwd other := by
  rw [names_of_slash cwd slash, names_of_slash cwd slash_other] at same
  rw [resolved_of_slash cwd (head?_slashed slash), same,
    resolved_of_slash cwd (head?_slashed slash_other)]

/-- The names of a path in a directory that is given from the root are those of the directory and
then its own, unless they lead up. -/
theorem names_div {directory : Path} (absolute : directory.isAbsolute = true)
    (down : parentSegment ∉ rest) (proper : ∀ part ∈ rest, Path.IsSegment part)
    (plain : ∀ part ∈ rest, '\\' ∉ part.toList) :
    names cwd (directory / ⟨.relative, rest⟩ : Path).toString =
      names cwd directory.toString ++ rest := by
  have inside : (directory / ⟨.relative, rest⟩ : Path).isAbsolute = true :=
    Path.isAbsolute_div absolute _
  rw [names_of_isAbsolute cwd inside, Path.div_eq_of_relative rfl, List.flatMap_append,
    flatMap_segments_slashed proper plain, collapse_append true _ down,
    ← names_of_isAbsolute cwd absolute]

/-- Under what is shown of a file a path is opened that leads to the place of the file. -/
theorem resolved_opened (cwd : String) (from_root : FromRoot root) (named : FromRoot name) :
    resolved cwd
        (Path.ofString root /
          Path.ofString (displayed cwd name (Path.ofString root).toString)).toString =
      resolved cwd name := by
  have absolute : (Path.ofString root).isAbsolute = true :=
    isAbsolute_ofString from_root.slash
  have absolute_name : (Path.ofString name).isAbsolute = true :=
    isAbsolute_ofString named.slash
  have opened := Path.isAbsolute_div absolute
    (Path.ofString (displayed cwd name (Path.ofString root).toString))
  apply resolved_eq_of_slash (head?_toString_of_isAbsolute opened) named.slash
  cases inside : within cwd name (Path.ofString root).toString with
  | true =>
    -- Inside the project the path is joined to the root again.
    obtain ⟨rest, joined, down⟩ := within_iff.1 inside
    have kept : rest ⊆ names cwd name := joined ▸ List.subset_append_right _ rest
    have proper : ∀ part ∈ rest, Path.IsSegment part :=
      fun _ mem => isSegment_of_mem_names (kept mem)
    have plain : ∀ part ∈ rest, '\\' ∉ part.toList := fun _ mem => notMem_of_mem_names (kept mem)
    have below : parentSegment ∉ rest := fun mem =>
      parentSegment_notMem_names cwd named.slash (kept mem)
    rw [displayed_of_within joined down, Path.ofString_intercalate proper,
      names_div absolute below proper plain, joined]
  | false =>
    -- Outside it the path stands for itself.
    rw [displayed_of_outside inside, slashed_of_notMem named.plain,
      Path.div_eq_of_isAbsolute absolute_name, names_ofString cwd named.slash]

end Lexical

namespace Clover

open Lexical (FromRoot displayed resolved resolved_opened)

variable {cwd : String} {project : Path}

/-! ## What was read -/

/-- The name that a report gives to a file. -/
def nameOf (file : Element) : String :=
  (file.attribute? "name").getD ""

theorem number?_of_lineNumber {line : Element} {number : Int}
    (numbered : lineNumber line = .ok number) : number? line = some number := by
  unfold lineNumber at numbered
  unfold number?
  cases given : line.attribute? "num" with
  | none =>
    simp only [given] at numbered
    exact congrArg some (Except.ok.inj numbered)
  | some raw =>
    simp only [given] at numbered
    cases read : Numeral.int? raw with
    | none =>
      simp only [read] at numbered
      cases numbered
    | some found =>
      simp only [read] at numbered
      exact read.trans (congrArg some (Except.ok.inj numbered))

theorem count?_of_runs {line : Element} {count : Nat} (counted : runs line = .ok count) :
    count? line = some (count : Int) := by
  simp only [runs] at counted
  unfold count?
  cases read : (line.attribute? "count").bind Numeral.int? with
  | none =>
    simp only [read] at counted
    cases counted
  | some found =>
    cases found with
    | ofNat n =>
      simp only [read] at counted
      rw [Except.ok.inj counted]
      rfl
    | negSucc n =>
      simp only [read] at counted
      cases counted

/-- A statement line that is read has a count and, if it has a number, a number. -/
theorem acceptable_of_read {line : Element} {statement : Statement}
    (read : Statement.of line = .ok statement) : Acceptable line := by
  obtain ⟨count, counted, read⟩ := of_bind_ok read
  obtain ⟨number, numbered, -⟩ := of_bind_ok read
  exact ⟨⟨count, count?_of_runs counted⟩, number, number?_of_lineNumber numbered⟩

theorem acceptable_of_statements {file : Element} {found : List Statement}
    (read : statements file = .ok found) : ∀ line ∈ statementLines file, Acceptable line := by
  intro line mem
  have each : Meets ((statementLines file).flatMap fun line =>
      (problem? (Statement.of line)).toList) (statements file) :=
    Meets.mapM fun line _ => Meets.of_problem? (Statement.of line)
  have fine := List.flatMap_eq_nil_iff.1 (each.ok_iff.1 ⟨found, read⟩) line mem
  obtain ⟨statement, given⟩ := (Meets.of_problem? (Statement.of line)).ok_iff.2 fine
  exact acceptable_of_read given

/-- A report that is read had countable lines and readable statements in all its files. -/
theorem of_parse_ok {oracle : String → Except Failure Int} {xml : String} {document : Element}
    {found : CoverageMap} (parsed : Xml.parse xml = .ok document)
    (ok : parse cwd project oracle xml = .ok found) {file : Element}
    (mem : file ∈ document.withTag "file") :
    (∃ lines, oracle (shownPath cwd project file) = .ok lines) ∧
      ∀ line ∈ statementLines file, Acceptable line := by
  have fine := (parse_meets xml).ok_iff.1 ⟨found, ok⟩
  rw [problems_of_ok parsed, List.flatMap_eq_nil_iff] at fine
  obtain ⟨counted, read⟩ := List.append_eq_nil_iff.1 (fine file mem)
  refine ⟨(Meets.of_problem? _).ok_iff.2 counted, ?_⟩
  cases outcome : statements file with
  | ok found => exact acceptable_of_statements outcome
  | error e =>
    rw [outcome] at read
    cases read

/-! ## What was measured -/

/-- A coverage map that was read from a report holds under each path what one file of the report
says, the last one that is shown so, and as many lines as are counted under the path. -/
theorem of_mem_coverage {oracle : String → Except Failure Int} {xml : String} {document : Element}
    {found : CoverageMap} (parsed : Xml.parse xml = .ok document)
    (ok : parse cwd project oracle xml = .ok found) {path : String} {states : List LineState}
    (mem : (path, states) ∈ found) :
    ∃ file lines,
      ((coveredFiles document).filter fun file => shownPath cwd project file = path).getLast? =
        some file ∧
      oracle path = .ok lines ∧ states = statesOf lines.toNat file := by
  have named_eq : named cwd project xml =
      (document.withTag "file").map (shownPath cwd project) := by
    rw [named, parsed]
  obtain ⟨lines, answered⟩ : ∃ lines : String → Int,
      ∀ path ∈ named cwd project xml, oracle path = .ok (lines path) := by
    refine ⟨fun path => (oracle path).toOption.getD 0, fun path listed => ?_⟩
    rw [named_eq] at listed
    obtain ⟨file, mem, rfl⟩ := List.mem_map.1 listed
    obtain ⟨count, counted⟩ := (of_parse_ok parsed ok mem).1
    simp only [counted, Except.toOption, Option.getD_some]
  have acceptable : ∀ file ∈ document.withTag "file", ∀ line ∈ statementLines file,
      Acceptable line := fun file mem => (of_parse_ok parsed ok mem).2
  have read : parse cwd project (fun path => (.ok (lines path) : Except Failure Int)) xml =
      .ok (Entries.putAll ((coveredFiles document).map (entryOf cwd project lines))) := by
    rw [parse, parsed]
    exact coverage_eq acceptable
  rw [parse_congr answered, read] at ok
  rw [← Except.ok.inj ok] at mem
  unfold entryOf at mem
  obtain ⟨file, last, rfl⟩ := Entries.mem_putAll_map_iff.1 mem
  obtain ⟨among, shown⟩ := List.mem_filter.1 (List.mem_of_getLast? last)
  rw [of_decide_eq_true shown]
  refine ⟨file, lines path, last, ?_, rfl⟩
  apply answered
  rw [named_eq]
  exact List.mem_map.2 ⟨file, List.mem_of_mem_filter among, of_decide_eq_true shown⟩

/-- For a project and files that are given from the root: what is opened under the path that a file
is shown under leads to the place of the file, whatever the working directory is, and files at
different places are shown under different paths. So what a coverage map says under a path was read
from one file of the report, the last one that is shown so, and has a state for each line of the file
that is opened; that one lies where the report says, and every other file of the report that is
shown under the path lies there too. -/
theorem coverage_of_named_files {root : String} (cwd : String) (from_root : FromRoot root) :
    (∀ name, FromRoot name →
      resolved cwd
          (Path.ofString root /
            Path.ofString (displayed cwd name (Path.ofString root).toString)).toString =
        resolved cwd name) ∧
    (∀ name other, FromRoot name → FromRoot other →
      displayed cwd name (Path.ofString root).toString =
        displayed cwd other (Path.ofString root).toString →
      resolved cwd name = resolved cwd other) ∧
    ∀ fs counts xml document found, Xml.parse xml = .ok document →
      (∀ file ∈ document.withTag "file", FromRoot (nameOf file)) →
      LineCounts.answer fs (Path.ofString root) counts =
        LineCounts.answer fs (Path.ofString root) [] →
      ((parse cwd (Path.ofString root) (LineCounts.count fs (Path.ofString root)) xml).run.run
        counts).1 = .ok found →
      ∀ path states, (path, states) ∈ found → ∃ file lines,
        ((coveredFiles document).filter fun file =>
            shownPath cwd (Path.ofString root) file = path).getLast? = some file ∧
        LineCounts.read fs (Path.ofString root) path = .ok lines ∧
        states = statesOf lines file ∧
        resolved cwd (Path.ofString root / Path.ofString path).toString =
          resolved cwd (nameOf file) ∧
        ∀ other ∈ document.withTag "file", shownPath cwd (Path.ofString root) other = path →
          resolved cwd (nameOf other) = resolved cwd (nameOf file) := by
  have opened : ∀ name, FromRoot name → _ := fun name named =>
    resolved_opened cwd from_root named
  refine ⟨opened, ?_, ?_⟩
  · intro name other named named_other same
    rw [← opened name named, same, opened other named_other]
  · intro fs counts xml document found parsed named right ok path states mem
    rw [(asks_parse cwd xml counts right).1] at ok
    obtain ⟨file, lines, last, counted, rfl⟩ := of_mem_coverage parsed ok mem
    obtain ⟨count, read, rfl⟩ := of_map_ok counted
    obtain ⟨among, shown⟩ := List.mem_filter.1 (List.mem_of_getLast? last)
    have led : ∀ other ∈ document.withTag "file",
        shownPath cwd (Path.ofString root) other = path →
        resolved cwd (Path.ofString root / Path.ofString path).toString =
          resolved cwd (nameOf other) := by
      rintro other listed rfl
      exact opened (nameOf other) (named other listed)
    have place := led file (List.mem_of_mem_filter among) (of_decide_eq_true shown)
    refine ⟨file, count, last, read, rfl, place, fun other listed same => ?_⟩
    rw [← led other listed same, place]

/-- Two files of one name, one of them in the project and with a detour. -/
def twoFiles : String :=
  "<coverage><file name='/p/lib/../A.php'><line num='2' type='stmt' count='1'/></file>" ++
    "<file name='//A.php'><line num='2' type='stmt' count='1'/></file></coverage>"

/-- Only the one in the project is there. -/
def oneFile : FileSystem :=
  .ofListing [(["p"], .directory), (["p", "A.php"], .file (Utf8.encode "<?php\nrun();\n") false)]
    ["p"] (by decide +kernel)

/-- The two are told apart, and the lines of the one in the project are counted for it alone. -/
theorem coverage_of_twoFiles :
    ∃ document found, Xml.parse twoFiles = .ok document ∧
      (∀ file ∈ document.withTag "file", FromRoot (nameOf file)) ∧
      ((parse "/w" (Path.ofString "/p") (LineCounts.count oneFile (Path.ofString "/p"))
        twoFiles).run.run []).1 = .ok found ∧
      found = [("A.php", [.notApplicable, .covered]), ("//A.php", [])] ∧
      ∃ file ∈ document.withTag "file",
        resolved "/w" (nameOf file) = resolved "/w" "/p/A.php" := by
  have well_formed : ((Xml.parse twoFiles).toOption.any fun document =>
      (document.withTag "file").all fun file => FromRoot (nameOf file)) = true := by
    decide +kernel
  have evaluated : ((parse "/w" (Path.ofString "/p") (LineCounts.count oneFile (Path.ofString "/p"))
      twoFiles).run.run []).1.toOption =
        some [("A.php", [.notApplicable, .covered]), ("//A.php", [])] := by
    decide +kernel
  have opened : (Path.ofString "/p" / Path.ofString "A.php").toString = "/p/A.php" := by
    decide +kernel
  cases parsed : Xml.parse twoFiles with
  | error problem =>
    rw [parsed] at well_formed
    cases well_formed
  | ok document =>
    rw [parsed] at well_formed
    have named : ∀ file ∈ document.withTag "file", FromRoot (nameOf file) :=
      fun file mem => of_decide_eq_true (List.all_eq_true.1 well_formed file mem)
    cases run : ((parse "/w" (Path.ofString "/p")
        (LineCounts.count oneFile (Path.ofString "/p")) twoFiles).run.run []).1 with
    | error failure =>
      rw [run] at evaluated
      cases evaluated
    | ok found =>
      rw [run] at evaluated
      obtain rfl : found = _ := Option.some.inj evaluated
      obtain ⟨-, -, measured⟩ := @coverage_of_named_files "/p" "/w" (by decide +kernel)
      obtain ⟨file, -, last, -, -, place, -⟩ := measured oneFile [] twoFiles document _ parsed named
        rfl run "A.php" _ List.mem_cons_self
      rw [opened] at place
      have among := List.mem_of_mem_filter (List.mem_of_getLast? last)
      exact ⟨document, _, rfl, named, rfl, rfl, file, List.mem_of_mem_filter among, place.symm⟩

end Clover

end TestImpact
