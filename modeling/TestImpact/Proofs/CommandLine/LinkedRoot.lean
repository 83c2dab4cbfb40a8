import TestImpact.Proofs.CommandLine.Green
import TestImpact.Proofs.Engine.Respelled
import TestImpact.Proofs.Layout

/-!
# Roots behind links

The root of a run is freed of links, and the changed paths are not: they are only made absolute. A
file that is named below the root, as the root was given, is therefore handed on under the place
that it has in the root exactly if the root was given without links (`ofString_handed_iff`). Then
the same tests are planned as for the file's own name below the root. Otherwise the file may lie in
neither of the two source trees as far as names go, and a run that should test it ends well without
a test (`not_returns_plan_of_outside`). Main statement: `plans_below_root`.
-/

namespace TestImpact

/-! ## Paths in neither root -/

namespace Resolver

variable {r : Resolver} {fs : FileSystem} {path : String}

/-- A path in neither root affects nothing, however tests are found. -/
theorem gives_testsOf_of_outside
    (source : Lexical.within fs.cwd (r.placeText path) r.sourceRoot = false)
    (test : Lexical.within fs.cwd (r.placeText path) r.testRoot = false) :
    (r.testsOf fs path).Gives ((fun _ => []) <$> orFailure (fs.isDirectory (r.onDisk path))) := by
  have listed : r.testsOfDirectory fs path (r.placeText path) = .ok [] := by
    rw [testsOfDirectory, if_neg (by simp [test]), Lexical.transplant?_eq_none source]
  unfold testsOf
  rw [map_eq_pure_bind]
  refine (Resolving.gives_lift _).bind fun directory => ?_
  unfold placeText at source test listed
  simp only [source, test, listed]
  split
  · exact Resolving.gives_lift _
  split
  · exact Resolving.gives_pure _
  · exact (Resolving.gives_pure _).bind fun _ => Resolving.gives_pure _

theorem gives_resolve_of_outside
    (source : Lexical.within fs.cwd (r.placeText path) r.sourceRoot = false)
    (test : Lexical.within fs.cwd (r.placeText path) r.testRoot = false) :
    (r.resolve fs [path]).Gives
      ((fun _ => [(path, [])]) <$> orFailure (fs.isDirectory (r.onDisk path))) := by
  have gives := gives_resolve_singleton (gives_testsOf_of_outside source test)
  rwa [Functor.map_map] at gives

end Resolver

namespace Engine

variable {engine : Engine} {path : String} {start after : World}

/-- Nothing is planned for a path in neither root. -/
theorem not_returns_plan_of_outside
    (source : Lexical.within start.files.cwd (engine.resolver.placeText path)
      engine.layout.sourceRoot = false)
    (test : Lexical.within start.files.cwd (engine.resolver.placeText path)
      engine.layout.testRoot = false) {jobs : List Job} :
    ¬ (engine.plan [path]).Returns start jobs after := by
  intro returned
  unfold plan at returned
  rw [Action.returns_get_bind] at returned
  obtain ⟨affected, between, resolved, returned⟩ := Action.returns_bind.1 returned
  obtain ⟨_, _, -, returned⟩ := Action.returns_bind.1 returned
  obtain ⟨_, _, -, returned⟩ := Action.returns_bind.1 returned
  have gives := Resolver.gives_resolve_of_outside (r := engine.resolver) source test
    start.knowledge.index
  cases asked : orFailure (start.files.isDirectory (engine.resolver.onDisk path)) with
  | error failure =>
    rw [asked] at gives
    exact resolved.not_fails (fails_resolving_of_yields gives)
  | ok directory =>
    rw [asked] at gives
    obtain ⟨rfl, -⟩ := resolved.unique (returns_resolving_of_yields gives)
    obtain ⟨some_job, went⟩ := Executor.returns_plan returned
    exact some_job (Action.returns_pure.1 went).1

end Engine

/-! ## Files below a root -/

namespace CommandLine

variable {fs : FileSystem} {given path : String} {names : List String} {root : Path}

/-- The place of a path that is given from the root, as far as names go. -/
theorem absolutePath_eq (cwd : String) (slash : path.toList.head? = some '/') :
    absolutePath cwd path = (Lexical.normalPath path).toString := by
  rw [absolutePath, if_pos slash, Lexical.normalise_eq]

theorem ofString_absolutePath (cwd : String) (slash : path.toList.head? = some '/') :
    Path.ofString (absolutePath cwd path) = Lexical.normalPath path := by
  rw [absolutePath_eq cwd slash, Path.ofString_toString (Lexical.proper_normalPath path)]

/-- What is named below a root is found below it, as far as names go. -/
theorem normalPath_below (down : Lexical.parentSegment ∉ names)
    (below : Path.ofString path = Path.ofString given / ⟨.relative, names⟩) :
    Lexical.normalPath path =
      ⟨(Lexical.normalPath given).anchor, (Lexical.normalPath given).parts ++ names⟩ := by
  rw [Path.div_eq_of_relative rfl] at below
  have anchor : Path.anchorOf path.toList = Path.anchorOf given.toList := congrArg Path.anchor below
  have parts : Path.segments path = Path.segments given ++ names := congrArg Path.parts below
  rw [Lexical.normalPath, anchor, parts, Lexical.collapse_append _ _ down]
  rfl

/-- A path that names a file below a root: both are given from the top, and the names of the file
are names that a directory can hold. -/
structure NamesBelow (given path : String) (names : List String) : Prop where
  slash : given.toList.head? = some '/'
  below : Path.ofString path = Path.ofString given / ⟨.relative, names⟩
  nonempty : names ≠ []
  segments : ∀ name ∈ names, Path.IsSegment name ∧ name ≠ Lexical.parentSegment

namespace NamesBelow

variable (file : NamesBelow given path names)
include file

theorem down : Lexical.parentSegment ∉ names := fun up => (file.segments _ up).2 rfl

theorem path_slash : path.toList.head? = some '/' := by
  refine Path.head?_of_isAbsolute ?_
  rw [file.below]
  refine Path.isAbsolute_div ?_ _
  exact Lexical.isAbsolute_ofString file.slash

/-- The file is handed on under its place in the root exactly if the root was given without
links. -/
theorem ofString_handed_iff (cwd : String) :
    Path.ofString (absolutePath cwd path) = root / ⟨.relative, names⟩ ↔
      Path.ofString (absolutePath cwd given) = root := by
  obtain ⟨anchor, parts⟩ := root
  rw [ofString_absolutePath cwd file.path_slash, ofString_absolutePath cwd file.slash,
    normalPath_below file.down file.below, Path.div_eq_of_relative rfl, Path.mk.injEq,
    List.append_left_inj]
  exact (Path.mk.injEq ..).symm.to_iff

theorem isAbsolute_handed : (Lexical.normalPath path).isAbsolute = true :=
  Lexical.isAbsolute_ofString file.path_slash

theorem slash_handed (cwd : String) : (absolutePath cwd path).toList.head? = some '/' := by
  rw [absolutePath_eq cwd file.path_slash]
  exact Lexical.head?_toString_of_isAbsolute file.isAbsolute_handed

/-- What is handed on stands for itself. -/
theorem placeText_handed {r : Resolver} {base : Path} (based : r.base = some base) (cwd : String) :
    r.placeText (absolutePath cwd path) = absolutePath cwd path := by
  unfold Resolver.placeText Resolver.onDisk CoverageIndex.anchored
  rw [based]
  simp only
  rw [ofString_absolutePath cwd file.path_slash, Path.div_eq_of_isAbsolute file.isAbsolute_handed,
    absolutePath_eq cwd file.path_slash]

/-- The name below the root and the place in it are spellings of one path, for a root without
links. -/
theorem spells {r : Resolver} (based : r.base = some root)
    (free : '/' ∉ r.convention.testSuffix.toList) (cwd : String)
    (real : Path.ofString (absolutePath cwd given) = root) :
    r.Spells (absolutePath cwd path) ("/".intercalate names) := by
  have handed : Path.ofString (absolutePath cwd path) = root / ⟨.relative, names⟩ :=
    (file.ofString_handed_iff cwd).2 real
  have proper : ∀ name ∈ names, Path.IsSegment name := fun name mem => (file.segments name mem).1
  have rooted : root.isAbsolute = true := by
    rw [← real, ofString_absolutePath cwd file.slash]
    exact Lexical.isAbsolute_ofString file.slash
  have proper_root : root.Proper := real ▸ Path.proper_ofString _
  have written : absolutePath cwd path = (root / ⟨.relative, names⟩ : Path).toString := by
    rw [← handed, ofString_absolutePath cwd file.path_slash, absolutePath_eq cwd file.path_slash]
  have ends : ∀ suffix : String, '/' ∉ suffix.toList →
      Convention.endsWith (absolutePath cwd path) suffix =
        Convention.endsWith ("/".intercalate names) suffix := by
    intro suffix free
    obtain ⟨above, name, split⟩ := (List.eq_nil_or_concat' names).resolve_left file.nonempty
    have proper_above : ∀ part ∈ above, Path.IsSegment part := fun part mem =>
      proper part (split ▸ List.mem_append_left _ mem)
    have relative : "/".intercalate names = (⟨.relative, above ++ [name]⟩ : Path).toString := by
      rw [Path.toString_of_parts (by simp), split, Anchor.text, String.empty_append]
    have proper_front : ∀ part ∈ root.parts ++ above, Path.IsSegment part := fun part mem =>
      (List.mem_append.1 mem).elim (proper_root part) (proper_above part)
    rw [written, relative, Path.div_eq_of_relative rfl, split, ← List.append_assoc,
      Convention.endsWith_toString proper_front free,
      Convention.endsWith_toString proper_above free]
  have source_free : '/' ∉ r.convention.sourceSuffix.toList := fun mem =>
    free ((Convention.sourceSuffix_suffix _).subset mem)
  refine ⟨?_, ⟨?_, ?_⟩, ends _ source_free, ends _ free⟩
  · unfold Resolver.onDisk CoverageIndex.anchored
    rw [based]
    simp only
    rw [handed, Path.ofString_intercalate proper,
      Path.div_eq_of_isAbsolute (Path.isAbsolute_div rooted _)]
  · refine Path.exists_char_of_segments ?_
    rw [← Path.parts_ofString, handed, Path.div_eq_of_relative rfl]
    exact List.append_ne_nil_of_right_ne_nil _ file.nonempty
  · refine Path.exists_char_of_segments ?_
    rw [Path.segments_intercalate_self proper]
    exact file.nonempty

end NamesBelow

/-- A run whose paths are planned nothing for ends well, if it ends at all. -/
theorem statusFine_of_returns_runAffected {engine : Engine} {flags : RunFlags}
    {paths : List String} {start after : World} {status : Nat} (some_paths : flags.everything = false)
    (nothing : ∀ start jobs after, ¬ (engine.plan paths).Returns start jobs after)
    (returned : (runAffected engine flags paths).Returns start status after) :
    status = statusFine := by
  obtain ⟨outcome, between, caught, returned⟩ := Action.returns_bind.1 returned
  cases outcome with
  | none => exact (Action.returns_pure.1 returned).1
  | some report =>
    rcases Action.returns_tryCatch.1 caught with done | ⟨raised, last, -, handled⟩
    · obtain ⟨_, ran, -⟩ := Action.returns_map.1 done
      obtain ⟨_, _, prepared, -⟩ := Action.returns_bind.1 ran
      unfold Engine.prepare at prepared
      obtain ⟨_, _, -, prepared⟩ := Action.returns_bind.1 prepared
      obtain ⟨_, _, -, prepared⟩ := Action.returns_bind.1 prepared
      obtain ⟨starting, _, chosen, prepared⟩ := Action.returns_bind.1 prepared
      obtain ⟨jobs, last, planned, -⟩ := Action.returns_bind.1 prepared
      rw [Engine.startingPaths, some_paths] at chosen
      obtain ⟨rfl, -⟩ := Action.returns_pure.1 chosen
      exact absurd planned (nothing _ jobs last)
    · split at handled
      · obtain ⟨_, _, -, ended⟩ := Action.returns_bind.1 handled
        cases (Action.returns_pure.1 ended).1
      · exact absurd handled Action.not_returns_throw

variable {before : World} {flags : RunFlags}

/-- A run takes its root free of links, and a file below the root only made absolute. So the file is
handed on under its place in the root exactly if the root was given without links, and then the same
test files on disk are planned as for the name of the file below the root, for every engine that
works on the layout of this root. However the root was given, nothing is planned if the path lies in
neither source tree as far as names go, and the run ends well. -/
theorem plans_below_root (file : NamesBelow given path names)
    (rooted : flags.root = Path.ofString given)
    (resolved : before.files.resolve flags.root = .ok root) :
    RunOptions.ofFlags before.files flags [path] =
        .ok ⟨root, [absolutePath before.files.cwd path], overridesOf flags⟩ ∧
    (∀ config layout after,
      (loadProject ⟨root, [absolutePath before.files.cwd path], overridesOf flags⟩).Returns before
        (config, layout) after →
      Layout.ofConfig before.files config flags.root true = .ok layout) ∧
    (Path.ofString (absolutePath before.files.cwd path) = root / ⟨.relative, names⟩ ↔
      Path.ofString (absolutePath before.files.cwd given) = root) ∧
    ∀ (engine : Engine) (checked : Bool),
      Layout.ofConfig before.files engine.config flags.root checked = .ok engine.layout →
      (Path.ofString (absolutePath before.files.cwd given) = root →
        '/' ∉ engine.config.convention.testSuffix.toList → ∀ start,
          engine.PlansAlike [absolutePath before.files.cwd path] ["/".intercalate names] start ∧
          engine.PlansAlike ["/".intercalate names] [absolutePath before.files.cwd path] start) ∧
      (Lexical.within before.files.cwd (absolutePath before.files.cwd path)
          engine.layout.sourceRoot = false →
        Lexical.within before.files.cwd (absolutePath before.files.cwd path)
          engine.layout.testRoot = false →
        (∀ start jobs after,
          ¬ (engine.plan [absolutePath before.files.cwd path]).Returns start jobs after) ∧
        (flags.everything = false → ∀ start status after,
          (runAffected engine flags [absolutePath before.files.cwd path]).Returns start status
            after → status = statusFine)) := by
  have absolute : flags.root.isAbsolute = true := by
    rw [rooted]
    exact Lexical.isAbsolute_ofString file.slash
  refine ⟨by rw [RunOptions.ofFlags, resolved]; rfl, ?_, file.ofString_handed_iff _, ?_⟩
  · intro config layout after loaded
    have made := (project_eq_ok_iff.1 (returns_loadProject_iff.1 loaded).1).2
    rw [← Layout.ofConfig_of_resolved absolute resolved]
    exact made
  · intro engine checked made
    have based : engine.layout.root = root := by
      obtain ⟨other, found, laid⟩ := Layout.eq_below_of_ofConfig made
      cases resolved.symm.trans found
      rw [laid]
      rfl
    constructor
    · intro real free start
      have spells := file.spells (r := engine.resolver) (congrArg some based) free
        before.files.cwd real
      exact ⟨Engine.plansAlike spells start, Engine.plansAlike spells.symm start⟩
    · intro source test
      obtain ⟨-, source_slash, test_slash, -⟩ := Layout.absolute_of_ofConfig made
      have slash := file.slash_handed before.files.cwd
      have placed := file.placeText_handed (r := engine.resolver) rfl before.files.cwd
      have nothing : ∀ start jobs after,
          ¬ (engine.plan [absolutePath before.files.cwd path]).Returns start jobs after := by
        intro start jobs after
        refine Engine.not_returns_plan_of_outside ?_ ?_
        · rw [placed, Lexical.within_of_slash _ before.files.cwd slash source_slash, source]
        · rw [placed, Lexical.within_of_slash _ before.files.cwd slash test_slash, test]
      exact ⟨nothing, fun some_paths start status after returned =>
        statusFine_of_returns_runAffected some_paths nothing returned⟩

/-! ## A project and a link to it -/

/-- The small project, beside which a link leads to it. -/
def linkedWorld : World :=
  { files := SmallProject.linked }

/-- Runs of the project without coverage. -/
def linkedEngine : Engine :=
  let config : Config := { coverage := some false }
  { config
    layout := Layout.below config SmallProject.linked.cwd (Path.ofString "/p")
    runner := (SmallProject.leaving "").runner }

theorem namesBelow_source {given path : String} (slash : given.toList.head? = some '/')
    (below : Path.ofString path = Path.ofString given / ⟨.relative, ["src", "A.php"]⟩) :
    NamesBelow given path ["src", "A.php"] where
  slash := slash
  below := below
  nonempty := List.cons_ne_nil _ _
  segments := by simp [Path.IsSegment, Lexical.parentSegment]

/-- The test is the only one that the source file affects, so nothing disturbs its planning. -/
theorem undisturbed_source :
    ∀ path ∈ ["/p/src/A.php", "src/A.php"], linkedEngine.Undisturbed [path] linkedWorld := by
  have evaluated : ∀ path ∈ ["/p/src/A.php", "src/A.php"],
      (Action.resolving (linkedEngine.resolver.resolve linkedWorld.files [path])).returnsSome
        linkedWorld (fun affected => Executor.uniqueTests linkedEngine.executor.base affected =
          ["/p/test/ATest.php"]) = true := by
    decide +kernel
  intro path mem affected between resolved
  obtain ⟨_, _, returned, single⟩ := Action.exists_of_returnsSome (evaluated path mem)
  obtain ⟨rfl, -⟩ := resolved.unique returned
  exact Executor.undisturbed_of_single (of_decide_eq_true single)

/-- The test of a source file is planned, unless the root of the project is given by the link. -/
theorem lost_behind_link :
    (linkedEngine.PlansAlike ["/p/src/A.php"] ["src/A.php"] linkedWorld ∧
      linkedEngine.Undisturbed ["/p/src/A.php"] linkedWorld ∧
      linkedEngine.Undisturbed ["src/A.php"] linkedWorld) ∧
    (∀ path ∈ ["/p/src/A.php", "src/A.php"], ∃ jobs after,
      (linkedEngine.plan [path]).Returns linkedWorld jobs after ∧
        jobs.map Job.testPath = ["/p/test/ATest.php"]) ∧
    ∀ jobs after, ¬ (linkedEngine.plan ["/link/src/A.php"]).Returns linkedWorld jobs after := by
  have resolved : ∀ given ∈ ["/p", "/link"],
      linkedWorld.files.resolve (Path.ofString given) = .ok (Path.ofString "/p") := by
    decide +kernel
  have made : ∀ given ∈ ["/p", "/link"],
      Layout.ofConfig linkedWorld.files linkedEngine.config (Path.ofString given) true =
        .ok linkedEngine.layout := by
    decide +kernel
  have handed : ∀ path ∈ ["/p/src/A.php", "/link/src/A.php"],
      absolutePath linkedWorld.files.cwd path = path := by
    decide +kernel
  have rooted : ∀ given, ({ root := Path.ofString given } : RunFlags).root = Path.ofString given :=
    fun _ => rfl
  have file : NamesBelow "/p" "/p/src/A.php" ["src", "A.php"] :=
    namesBelow_source (by decide) (by decide +kernel)
  have linked : NamesBelow "/link" "/link/src/A.php" ["src", "A.php"] :=
    namesBelow_source (by decide) (by decide +kernel)
  obtain ⟨-, -, -, real⟩ := plans_below_root file (rooted "/p") (resolved "/p" (by decide))
  obtain ⟨-, -, -, behind⟩ :=
    plans_below_root linked (rooted "/link") (resolved "/link" (by decide))
  have evaluated : ∀ path ∈ ["/p/src/A.php", "src/A.php"],
      (linkedEngine.plan [path]).returnsSome linkedWorld
        (fun jobs => jobs.map Job.testPath = ["/p/test/ATest.php"]) = true := by
    decide +kernel
  have joined : "/".intercalate ["src", "A.php"] = "src/A.php" := rfl
  refine ⟨⟨?_, undisturbed_source _ (by decide), undisturbed_source _ (by decide)⟩, ?_, ?_⟩
  · have same := ((real linkedEngine true (made "/p" (by decide))).1 (by decide +kernel)
      (by decide +kernel) linkedWorld).1
    rwa [handed "/p/src/A.php" (by decide), joined] at same
  · intro path mem
    obtain ⟨jobs, after, returned, planned⟩ := Action.exists_of_returnsSome (evaluated path mem)
    exact ⟨jobs, after, returned, of_decide_eq_true planned⟩
  · have lost := ((behind linkedEngine true (made "/link" (by decide))).2 (by decide +kernel)
      (by decide +kernel)).1 linkedWorld
    rwa [handed "/link/src/A.php" (by decide)] at lost

end CommandLine

end TestImpact
