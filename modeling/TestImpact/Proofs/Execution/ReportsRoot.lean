import TestImpact.Proofs.FileSystem.Making
import TestImpact.Proofs.Layout
import TestImpact.Proofs.Report.NamedFiles

/-!
# Reports and the directory they belong under

A configuration names a directory under its `reportsRoot`. The name is spelled like a path, so it may
lead up, or start at the root of all directories. The directory of reports lies strictly below
`reportsRoot` exactly if the name leads down from there (`LeadsDown`). Then every report does, too, and
to make room for reports changes nothing else, new directories on the way apart
(`Layout.reports_below_root_iff`).
-/

namespace TestImpact

open Lexical (names within collapse)

namespace Lexical

open TestImpact.Path (segments)

variable {cwd path root : String} {more : List String}

/-! ## Strictly below -/

/-- The path lies within the root and is not the root itself. -/
def StrictlyWithin (cwd path root : String) : Prop :=
  within cwd path root = true ∧ within cwd root path = false

instance (cwd path root : String) : Decidable (StrictlyWithin cwd path root) :=
  inferInstanceAs (Decidable (_ ∧ _))

theorem strictlyWithin_iff (plain : parentSegment ∉ names cwd path) :
    StrictlyWithin cwd path root ↔ ∃ more ≠ [], names cwd path = names cwd root ++ more := by
  constructor
  · rintro ⟨inside, apart⟩
    obtain ⟨more, joined⟩ := (within_iff_below plain).1 inside
    refine ⟨more, ?_, joined.symm⟩
    rintro rfl
    rw [List.append_nil] at joined
    rw [(names_eq_iff inside).1 joined] at apart
    cases apart
  · rintro ⟨more, some_more, joined⟩
    have inside : within cwd path root = true := by
      apply (within_iff_below plain).2
      rw [joined]
      exact List.prefix_append _ _
    refine ⟨inside, ?_⟩
    rw [Bool.eq_false_iff, ne_eq, ← names_eq_iff inside, joined]
    exact fun same => some_more (List.self_eq_append_right.1 same)

/-- From a place a spelling leads down through some names. It may name the whole place again, from the
root of all directories on, or as much of it as it leads up before. -/
def LeadsDown (place : List String) (spelling : String) (more : List String) : Prop :=
  if (Path.ofString spelling).isAbsolute then
    collapse true (segments (slashed spelling)) = place ++ more
  else
    descent (segments (slashed spelling)) =
      place.drop (place.length - climb (segments (slashed spelling))) ++ more

/-- What a spelling leads down through are the names behind those of the directory it stands in. -/
theorem names_div_iff {base : Path} (absolute : base.isAbsolute = true) (spelling : String) :
    names cwd (base / Path.ofString spelling).toString = names cwd base.toString ++ more ↔
      LeadsDown (names cwd base.toString) spelling more := by
  unfold LeadsDown
  split
  next rooted =>
    have slash := Path.head?_of_isAbsolute rooted
    rw [Path.div_eq_of_isAbsolute rooted, names_ofString cwd slash, names_of_slash cwd slash]
  next relative =>
    have spelled : names cwd (base / Path.ofString spelling).toString =
        (names cwd base.toString).take
            ((names cwd base.toString).length - climb (segments (slashed spelling))) ++
          descent (segments (slashed spelling)) := by
      rw [names_of_isAbsolute cwd (Path.isAbsolute_div absolute _),
        Path.div_eq_of_relative (Bool.eq_false_iff.2 relative), List.flatMap_append,
        Path.parts_ofString, ← segments_slashed, (climb_descent _).2.2,
        ← names_of_isAbsolute cwd absolute]
    rw [spelled]
    generalize names cwd base.toString = place
    conv_lhs => rhs; rw [← List.take_append_drop
      (place.length - climb (segments (slashed spelling))) place, List.append_assoc]
    exact List.append_right_inj _

end Lexical

open Lexical (StrictlyWithin LeadsDown)

/-! ## What making room changes -/

/-- Only files change, and outside the places only new directories are made. -/
structure OnlyMakes (places : Set Location) (before after : World) : Prop where
  rest : after = { before with files := after.files }
  files : FileSystem.MadeBut places before.files after.files

namespace OnlyMakes

variable {places : Set Location} {before between after : World} {α β : Type}

theorem refl (places : Set Location) (before : World) : OnlyMakes places before before :=
  ⟨rfl, .refl places before.files⟩

theorem trans (first : OnlyMakes places before between) (later : OnlyMakes places between after) :
    OnlyMakes places before after := by
  refine ⟨?_, first.files.trans later.files⟩
  rw [later.rest, first.rest]

theorem change {operation : FileSystem → Except Fault FileSystem}
    (made : ∀ files, operation before.files = .ok files →
      FileSystem.MadeBut places before.files files) :
    OnlyMakes places before ((Action.change operation).outcome before).2 := by
  rw [Action.outcome_change]
  cases changed : operation before.files with
  | ok files => exact ⟨rfl, made files changed⟩
  | error fault => exact .refl places before

theorem bind {action : Action α} {next : α → Action β}
    (first : OnlyMakes places before (action.outcome before).2)
    (later : ∀ a between, OnlyMakes places before between →
      OnlyMakes places between ((next a).outcome between).2) :
    OnlyMakes places before ((action >>= next).outcome before).2 :=
  Action.after_bind trans first fun a between _ made => later a between made

end OnlyMakes

namespace ReportPlace

variable {place : ReportPlace} {testPath cwd : String} {path directory report : Path}
  {places : Set Location} {before : World}

/-- To clear a report changes no more than what stands at the place of the report. -/
theorem onlyMakes_clear (linkless : before.files.Linkless) (absolute : report.isAbsolute = true)
    (among : collapse true report.parts ∈ places) :
    OnlyMakes places before ((clear directory report).outcome before).2 := by
  apply OnlyMakes.bind
  · exact .change fun _ made => FileSystem.madeBut_makeDirectories made
  · intro _ between made
    exact .change fun _ removed =>
      FileSystem.madeBut_remove (made.files.linkless linkless) absolute removed among

/-- To make room for the reports of a test file changes no more than what stands at their places. -/
theorem onlyMakes_allocate (linkless : before.files.Linkless)
    (absolute : place.directory.isAbsolute = true)
    (among : ∀ path ∈ (place.outputs testPath).paths, collapse true path.parts ∈ places) :
    OnlyMakes places before ((place.allocate testPath).outcome before).2 := by
  apply OnlyMakes.bind
  · have junit : (place.outputs testPath).junit ∈ (place.outputs testPath).paths :=
      List.mem_cons_self
    exact onlyMakes_clear linkless
      (Path.isAbsolute_div (Path.isAbsolute_div absolute _) _) (among _ junit)
  · intro _ between made
    split
    next clover found =>
      obtain rfl := eq_of_clover found
      have listed : place.cloverDirectory.child (fileName testPath) ∈
          (place.outputs testPath).paths := by
        rw [Outputs.paths, found]
        simp
      apply OnlyMakes.bind
      · exact onlyMakes_clear (made.files.linkless linkless)
          (Path.isAbsolute_div absolute _) (among _ listed)
      · exact fun _ between' _ => .refl places between'
    next => exact .refl places between

/-- Every report lies two names below the directory of reports. -/
theorem exists_div_of_mem_paths (mem : path ∈ (place.outputs testPath).paths) :
    ∃ kind, kind ∈ ["junit", "clover"] ∧
      path = place.directory / ⟨.relative, [kind, fileName testPath]⟩ := by
  have joined : ∀ kind, Path.ofString kind = ⟨.relative, [kind]⟩ →
      (place.directory / Path.ofString kind).child (fileName testPath) =
        place.directory / ⟨.relative, [kind, fileName testPath]⟩ := by
    intro kind read
    rw [read, Path.div_eq_of_relative rfl, Path.div_eq_of_relative rfl, Path.child,
      List.append_assoc]
    rfl
  rcases mem_paths mem with rfl | ⟨-, rfl⟩
  · exact ⟨"junit", by simp, joined _ (by decide +kernel)⟩
  · exact ⟨"clover", by simp, joined _ (by decide +kernel)⟩

theorem names_of_mem_paths (cwd : String) (anchored : place.Anchored)
    (mem : path ∈ (place.outputs testPath).paths) :
    ∃ more ≠ [], names cwd path.toString = names cwd place.directory.toString ++ more ∧
      path.parts = place.directory.parts ++ more ∧ ∀ part ∈ more, '\\' ∉ part.toList := by
  have valid := isFileName_fileName testPath
  obtain ⟨kind, listed, rfl⟩ := exists_div_of_mem_paths mem
  have named : Path.IsSegment kind ∧ Lexical.parentSegment ≠ kind ∧ '\\' ∉ kind.toList := by
    rcases List.mem_pair.1 listed with rfl | rfl
    · exact ⟨⟨by decide, by decide, by decide⟩, by decide, by decide⟩
    · exact ⟨⟨by decide, by decide, by decide⟩, by decide, by decide⟩
  have free : ∀ part ∈ [kind, fileName testPath], '\\' ∉ part.toList := by
    simpa using ⟨named.2.2, valid.plain⟩
  refine ⟨_, List.cons_ne_nil _ _, Lexical.names_div anchored.absolute ?_ ?_ free, ?_, free⟩
  · simpa using ⟨named.2.1, Ne.symm valid.down⟩
  · simpa using ⟨named.1, valid.segment⟩
  · rw [Path.div_eq_of_relative rfl]

/-- Reports in a directory within a root lie strictly below the root. -/
theorem strictlyWithin_of_mem_paths {root : String} (anchored : place.Anchored)
    (inside : within cwd place.directory.toString root = true)
    (mem : path ∈ (place.outputs testPath).paths) : StrictlyWithin cwd path.toString root := by
  obtain ⟨more, some_more, below, -⟩ := names_of_mem_paths cwd anchored mem
  obtain ⟨rest, joined, -⟩ := Lexical.within_iff.1 inside
  have begins := Lexical.head?_toString_of_isAbsolute (anchored.report mem).1
  apply (Lexical.strictlyWithin_iff (Lexical.parentSegment_notMem_names cwd begins)).2
  refine ⟨rest ++ more, ?_, ?_⟩
  · exact fun none_left => some_more (List.append_eq_nil_iff.1 none_left).2
  · rw [below, joined, List.append_assoc]

/-- Where no backslash is, the place of a report that lies strictly below a root is spelled by the
names of the root and some behind them. -/
theorem collapse_of_strictlyWithin {root : Path} (anchored : place.Anchored)
    (absolute : root.isAbsolute = true) (proper : root.Proper)
    (free : ∀ part ∈ root.parts ++ place.directory.parts, '\\' ∉ part.toList)
    (mem : path ∈ (place.outputs testPath).paths)
    (inside : StrictlyWithin cwd path.toString root.toString) :
    ∃ more ≠ [], collapse true path.parts = collapse true root.parts ++ more := by
  obtain ⟨rest, -, -, parts, plain⟩ := names_of_mem_paths cwd anchored mem
  obtain ⟨path_absolute, path_proper⟩ := anchored.report mem
  have begins := Lexical.head?_toString_of_isAbsolute path_absolute
  obtain ⟨more, some_more, joined⟩ :=
    (Lexical.strictlyWithin_iff (Lexical.parentSegment_notMem_names cwd begins)).1 inside
  refine ⟨more, some_more, ?_⟩
  have path_plain : ∀ part ∈ path.parts, '\\' ∉ part.toList := by
    rw [parts]
    intro part mem
    rcases List.mem_append.1 mem with above | last
    · exact free part (List.mem_append_right _ above)
    · exact plain part last
  rwa [Lexical.names_toString cwd path_absolute path_proper path_plain,
    Lexical.names_toString cwd absolute proper fun part mem =>
      free part (List.mem_append_left _ mem)] at joined

end ReportPlace

/-! ## Layouts -/

namespace Layout

variable {fs : FileSystem} {config : Config} {root : Path} {checked : Bool} {layout : Layout}

/-- For every layout and every name that a configuration gives to the directory of reports: the
directory lies strictly below `reportsRoot` exactly if the name leads down through something from
there. If it lies within `reportsRoot` at all, all reports lie strictly below. To make room for
reports in a file system without links, where no backslash counts as a slash, changes nothing that
does not lie strictly below, but for directories that were not there. -/
theorem reports_below_root_iff (home : (FileSystem.pathOf fs.workingDirectory).Proper)
    (proper : root.Proper) (configured : config.reportsRoot.Proper)
    (made : ofConfig fs config root checked = .ok layout) :
    (StrictlyWithin fs.cwd layout.reportsDirectory.toString
        (layout.root / config.reportsRoot).toString ↔
      ∃ more ≠ [], LeadsDown (names fs.cwd (layout.root / config.reportsRoot).toString)
        config.reports more) ∧
    (within fs.cwd layout.reportsDirectory.toString
        (layout.root / config.reportsRoot).toString = true →
      ∀ coverage testPath,
        (∀ path ∈ (ReportPlace.outputs ⟨layout.reportsDirectory, coverage⟩ testPath).paths,
          StrictlyWithin fs.cwd path.toString (layout.root / config.reportsRoot).toString) ∧
        ((∀ part ∈ (layout.root / config.reportsRoot).parts ++ layout.reportsDirectory.parts,
            '\\' ∉ part.toList) →
          ∀ before : World, before.files.Linkless →
            OnlyMakes { location | ∃ more ≠ [],
                location = collapse true (layout.root / config.reportsRoot).parts ++ more }
              before
              ((ReportPlace.allocate ⟨layout.reportsDirectory, coverage⟩ testPath).outcome
                before).2)) := by
  have anchored : ∀ coverage, (ReportPlace.mk layout.reportsDirectory coverage).Anchored :=
    fun _ => anchored_ofConfig home proper configured made
  obtain ⟨resolved, found, rfl⟩ := eq_below_of_ofConfig made
  obtain ⟨absolute, segments⟩ := FileSystem.proper_resolve home proper found
  have base_absolute : (resolved / config.reportsRoot).isAbsolute = true :=
    Path.isAbsolute_div absolute _
  have base_proper : (resolved / config.reportsRoot).Proper := segments.div configured
  simp only [below] at anchored ⊢
  generalize resolved / config.reportsRoot = base at base_absolute base_proper anchored
  constructor
  · have plain := Lexical.parentSegment_notMem_names fs.cwd
      (Lexical.head?_toString_of_isAbsolute (anchored false).absolute)
    rw [Lexical.strictlyWithin_iff plain]
    simp only [Lexical.names_div_iff base_absolute]
  · intro inside coverage testPath
    have reports := fun path mem =>
      @ReportPlace.strictlyWithin_of_mem_paths _ testPath _ path _ (anchored coverage) inside mem
    refine ⟨reports, fun free before linkless => ?_⟩
    apply ReportPlace.onlyMakes_allocate linkless (anchored coverage).absolute
    intro path mem
    exact ReportPlace.collapse_of_strictlyWithin (anchored coverage) base_absolute base_proper free
      mem (reports path mem)

/-- A project whose directory of reports is there. -/
def reportingProject : FileSystem :=
  .ofListing [(["p"], .directory), (["p", "reports"], .directory)] ["p"] (by decide +kernel)

/-- The layout of that project under a name for the directory of reports. -/
def layoutNaming (reports : String) : Layout :=
  below { reports } "/p" (Path.ofString "/p")

/-- A name that comes back to `reportsRoot` and goes on is accepted, and so is one that leads out of
it. The reports lie below in the first case only. -/
theorem reports_below_root_of_accepted :
    Config.reportsName (.string "../reports/run/") = .ok "../reports/run" ∧
    ofConfig reportingProject { reports := "../reports/run" } (Path.ofString "/p") false =
      .ok (layoutNaming "../reports/run") ∧
    (∀ path ∈ (ReportPlace.outputs ⟨(layoutNaming "../reports/run").reportsDirectory, true⟩
        "/p/test/ATest.php").paths, StrictlyWithin "/p" path.toString "/p/reports") ∧
    (∀ before : World, before.files = reportingProject →
      OnlyMakes { location | ∃ more ≠ [], location = ["p", "reports"] ++ more } before
        ((ReportPlace.allocate ⟨(layoutNaming "../reports/run").reportsDirectory, true⟩
          "/p/test/ATest.php").outcome before).2) ∧
    Config.reportsName (.string "..") = .ok ".." ∧
    ofConfig reportingProject { reports := ".." } (Path.ofString "/p") false =
      .ok (layoutNaming "..") ∧
    ¬ StrictlyWithin "/p" (layoutNaming "..").reportsDirectory.toString "/p/reports" := by
  have root_proper : (Path.ofString "/p").Proper := Path.proper_ofString "/p"
  have home : (FileSystem.pathOf reportingProject.workingDirectory).Proper := root_proper
  have configured : (Path.ofString "reports").Proper := Path.proper_ofString "reports"
  have made : ofConfig reportingProject { reports := "../reports/run" } (Path.ofString "/p") false =
      .ok (layoutNaming "../reports/run") := by
    decide +kernel
  have made_outside : ofConfig reportingProject { reports := ".." } (Path.ofString "/p") false =
      .ok (layoutNaming "..") := by
    decide +kernel
  have base : (Path.ofString "/p" / Path.ofString "reports").toString = "/p/reports" := by
    decide +kernel
  have inside : StrictlyWithin "/p" (layoutNaming "../reports/run").reportsDirectory.toString
      (Path.ofString "/p" / Path.ofString "reports").toString := by
    refine (reports_below_root_iff home root_proper configured made).1.2 ⟨["run"], by simp, ?_⟩
    rw [LeadsDown, if_neg (by decide +kernel)]
    decide +kernel
  obtain ⟨below, room⟩ := (reports_below_root_iff home root_proper configured made).2 inside.1 true
    "/p/test/ATest.php"
  refine ⟨by decide +kernel, made, ?_, ?_, by decide +kernel, made_outside, ?_⟩
  · rw [← base]
    exact below
  · intro before listed
    have linkless : before.files.Linkless := by
      rw [listed]
      exact FileSystem.linkless_of_entries (by decide +kernel)
    exact room (by decide +kernel) before linkless
  · intro strict
    rw [← base] at strict
    obtain ⟨more, some_more, led⟩ :=
      (reports_below_root_iff home root_proper configured made_outside).1.1 strict
    have nothing : Lexical.descent (Path.segments (Lexical.slashed "..")) = [] := by
      decide +kernel
    rw [LeadsDown, if_neg (by decide +kernel), nothing] at led
    exact some_more (List.append_eq_nil_iff.1 led.symm).2

end Layout

end TestImpact
