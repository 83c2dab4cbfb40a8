import TestImpact.Layout
import TestImpact.Proofs.Execution.Room
import TestImpact.Proofs.Outcome

/-!
# Where the reports of a project lie

A path in which links are resolved is named from the root, by segments of a path
(`FileSystem.proper_resolve`), and stays as it is when its links are resolved once more
(`FileSystem.resolve_resolved`). So a project has one layout, from whatever spelling of its root it
is made (`Layout.ofConfig_of_resolved`). The directory of reports is named from the root, too, in
every layout that a configuration has (`Layout.anchored_ofConfig`), no matter how the configuration
names it.
-/

namespace TestImpact

namespace FileSystem

variable {fs : FileSystem} {path resolved : Path} {visiting : List Location}
  {here there : Location} {names : List String} {budget : Nat}

theorem proper_resolveFrom {follow : Location → Location → List String → Resolution}
    (enters : ∀ link here names there, (pathOf here).Proper → (pathOf names).Proper →
      follow link here names = .clear there → (pathOf there).Proper)
    (named : (pathOf here).Proper) (proper : (pathOf names).Proper)
    (found : fs.resolveFrom visiting follow here names = .clear there) :
    (pathOf there).Proper := by
  induction names generalizing here with
  | nil =>
    cases found
    exact named
  | cons name rest ih =>
    have proper_rest : (pathOf rest).Proper := fun part mem =>
      proper part (List.mem_cons_of_mem _ mem)
    unfold resolveFrom at found
    split at found
    · exact ih (fun part mem => named part ((List.dropLast_sublist _).mem mem)) proper_rest found
    split at found
    next target _ =>
      split at found
      · cases found
      simp only at found
      split at found
      next behind entered =>
        refine ih (enters _ _ _ _ ?_ (Path.proper_ofString target) entered) proper_rest found
        split
        · exact nofun
        · exact named
      next => cases found
    next =>
      refine ih (fun part mem => ?_) proper_rest found
      rcases List.mem_append.1 mem with above | last
      · exact named part above
      · rw [List.mem_singleton.1 last]
        exact proper name List.mem_cons_self

theorem proper_resolveNames (named : (pathOf here).Proper) (proper : (pathOf names).Proper)
    (found : fs.resolveNames budget visiting here names = .clear there) :
    (pathOf there).Proper := by
  induction budget generalizing visiting here there names with
  | zero =>
    refine proper_resolveFrom (fun _ _ _ _ _ _ entered => ?_) named proper found
    cases entered
  | succ budget ih =>
    exact proper_resolveFrom (fun _ _ _ _ named proper => ih named proper) named proper found

theorem isAbsolute_resolve (found : fs.resolve path = .ok resolved) :
    resolved.isAbsolute = true := by
  unfold resolve at found
  split at found
  · cases found
    rfl
  · cases found

/-- A resolved path is named from the root, by segments. -/
theorem proper_resolve (home : (pathOf fs.workingDirectory).Proper) (proper : path.Proper)
    (found : fs.resolve path = .ok resolved) : resolved.isAbsolute = true ∧ resolved.Proper := by
  refine ⟨isAbsolute_resolve found, ?_⟩
  unfold resolve at found
  split at found
  next location clear =>
    cases found
    refine proper_resolveNames ?_ proper clear
    unfold start
    split
    · exact nofun
    · exact home
  next => cases found

/-! ## Places that are spelled without links -/

/-- The names lead straight to the location: none of them leads upwards or through a link. -/
def Direct (fs : FileSystem) (location : Location) : Prop :=
  ∀ above name rest, location = above ++ name :: rest →
    name ≠ ".." ∧ ∀ target, fs.node? (above ++ [name]) ≠ some (.link target)

theorem direct_nil (fs : FileSystem) : fs.Direct [] := by
  intro above name rest split
  cases above <;> cases split

theorem Direct.of_append (direct : fs.Direct (here ++ there)) : fs.Direct here := by
  rintro above name rest rfl
  exact direct above name (rest ++ there) (by rw [List.append_assoc, List.cons_append])

theorem Direct.concat {name : String} (direct : fs.Direct here) (down : name ≠ "..")
    (plain : ∀ target, fs.node? (here ++ [name]) ≠ some (.link target)) :
    fs.Direct (here ++ [name]) := by
  intro above other rest split
  rcases List.eq_nil_or_concat' rest with rfl | ⟨front, last, rfl⟩
  · obtain ⟨rfl, same⟩ := List.append_inj' split rfl
    cases same
    exact ⟨down, plain⟩
  · refine direct above other front ?_
    rw [← List.cons_append, ← List.append_assoc] at split
    exact (List.append_inj' split rfl).1

theorem direct_resolveFrom {follow : Location → Location → List String → Resolution}
    (enters : ∀ link here names there, fs.Direct here → follow link here names = .clear there →
      fs.Direct there)
    (direct : fs.Direct here) (found : fs.resolveFrom visiting follow here names = .clear there) :
    fs.Direct there := by
  induction names generalizing here with
  | nil =>
    cases found
    exact direct
  | cons name rest ih =>
    unfold resolveFrom at found
    split at found
    · rcases List.eq_nil_or_concat' here with rfl | ⟨front, last, rfl⟩
      · exact ih fs.direct_nil found
      · rw [List.dropLast_concat] at found
        exact ih direct.of_append found
    next down =>
      split at found
      next target _ =>
        split at found
        · cases found
        simp only at found
        split at found
        next behind entered =>
          refine ih (enters _ _ _ _ ?_ entered) found
          split
          · exact fs.direct_nil
          · exact direct
        next => cases found
      next plain => exact ih (direct.concat down fun target => plain target) found

theorem direct_resolveNames (direct : fs.Direct here)
    (found : fs.resolveNames budget visiting here names = .clear there) : fs.Direct there := by
  induction budget generalizing visiting here there names with
  | zero =>
    refine direct_resolveFrom (fun _ _ _ _ _ entered => ?_) direct found
    cases entered
  | succ budget ih =>
    exact direct_resolveFrom (fun _ _ _ _ direct => ih direct) direct found

/-- Where no link stands in the way, a place is what its names say. -/
theorem resolveFrom_of_direct (visiting : List Location)
    (follow : Location → Location → List String → Resolution)
    (direct : fs.Direct (here ++ names)) :
    fs.resolveFrom visiting follow here names = .clear (here ++ names) := by
  induction names generalizing here with
  | nil => rw [resolveFrom, List.append_nil]
  | cons name rest ih =>
    obtain ⟨down, plain⟩ := direct here name rest rfl
    have joined : here ++ name :: rest = here ++ [name] ++ rest := by simp
    rw [resolveFrom, if_neg down]
    split
    next target link => exact absurd link (plain target)
    next =>
      rw [joined] at direct ⊢
      exact ih direct

/-- A path in which links were resolved stays as it is. -/
theorem resolve_resolved (absolute : path.isAbsolute = true)
    (found : fs.resolve path = .ok resolved) : fs.resolve resolved = .ok resolved := by
  unfold resolve at found
  split at found
  next location clear =>
    cases found
    have direct : fs.Direct location := by
      rw [start, if_pos absolute] at clear
      exact direct_resolveNames fs.direct_nil clear
    have again : fs.resolveNames (fs.entries.length + 1) [] (fs.start (pathOf location))
        (pathOf location).parts = .clear location :=
      resolveFrom_of_direct [] _ direct
    rw [resolve, again]
  next => cases found

end FileSystem

namespace Layout

variable {fs : FileSystem} {config : Config} {root : Path} {checked coverage : Bool}
  {layout : Layout}

/-- The layout of a configuration lies below the root without links, checked or not. -/
theorem eq_below_of_ofConfig (made : ofConfig fs config root checked = .ok layout) :
    ∃ resolved, fs.resolve root = .ok resolved ∧ layout = below config fs.cwd resolved := by
  unfold ofConfig at made
  split at made
  next => cases made
  next resolved found =>
    refine ⟨resolved, found, ?_⟩
    simp only at made
    split at made
    next =>
      obtain ⟨_, -, rest⟩ := of_bind_ok made
      cases rest
      rfl
    next =>
      cases made
      rfl

/-- A layout that was made from a root without links is the layout of every spelling that leads
there. -/
theorem ofConfig_of_resolved {resolved : Path} (absolute : root.isAbsolute = true)
    (found : fs.resolve root = .ok resolved) :
    ofConfig fs config resolved checked = ofConfig fs config root checked := by
  unfold ofConfig
  rw [FileSystem.resolve_resolved absolute found, found]

/-- The places of a layout are named from the root, however the root of the project was given. -/
theorem absolute_of_ofConfig (made : ofConfig fs config root checked = .ok layout) :
    layout.root.isAbsolute = true ∧ layout.sourceRoot.toList.head? = some '/' ∧
      layout.testRoot.toList.head? = some '/' ∧ layout.reportsDirectory.isAbsolute = true := by
  obtain ⟨resolved, found, rfl⟩ := eq_below_of_ofConfig made
  have absolute := FileSystem.isAbsolute_resolve found
  have spelled : ∀ directory : Path, (resolved / directory).toString.toList.head? = some '/' :=
    fun directory => Lexical.head?_toString_of_isAbsolute (Path.isAbsolute_div absolute directory)
  exact ⟨absolute, Lexical.head?_canonicalRoot _ (spelled _), Lexical.head?_canonicalRoot _ (spelled _),
    Path.isAbsolute_div (Path.isAbsolute_div absolute _) _⟩

/-- The directory of reports that a configuration names is named from the root, by segments. -/
theorem anchored_ofConfig (home : (FileSystem.pathOf fs.workingDirectory).Proper)
    (proper : root.Proper) (configured : config.reportsRoot.Proper)
    (made : ofConfig fs config root checked = .ok layout) :
    (ReportPlace.mk layout.reportsDirectory coverage).Anchored := by
  obtain ⟨resolved, found, rfl⟩ := eq_below_of_ofConfig made
  obtain ⟨absolute, segments⟩ := FileSystem.proper_resolve home proper found
  exact ⟨Path.isAbsolute_div (Path.isAbsolute_div absolute _) _,
    (segments.div configured).div (Path.proper_ofString _)⟩

/-! ## What a layout lacks -/

/-- What is wrong with a place that is asked for. -/
def lacking (answer : Except Fault Bool) (missing : UsageError) : List Failure :=
  match answer with
  | .ok true => []
  | .ok false => [.usage missing]
  | .error fault => [.file fault]

/-- What is wrong with the places that a run needs, in the order in which they are asked for. -/
def problems (fs : FileSystem) (config : Config) (layout : Layout) : List Failure :=
  let source := layout.root / config.sourceDirectory
  let test := layout.root / config.testDirectory
  lacking (fs.isDirectory source) (.pathMissing source "source_directory") ++
    (lacking (fs.isDirectory test) (.pathMissing test "test_directory") ++
      ((layout.runnerConfig.toList.flatMap fun path =>
          lacking (fs.isPresent path) (.pathMissing path "runner_config")) ++
        if config.docker.enabled then []
        else lacking (fs.isFile layout.binary) (.runnerMissing layout.binary) ++
          if fs.isExecutable layout.binary = .ok false then [.usage (.runnerMissing layout.binary)]
          else []))

theorem meets_demand (answer : Except Fault Bool) (missing : UsageError) :
    Meets (lacking answer missing) (demand answer missing) := by
  rcases answer with fault | _ | _
  · exact Meets.error _
  · exact Meets.error _
  · exact Meets.ok ()

theorem of_demand_ok {answer : Except Fault Bool} {missing : UsageError} {u : Unit}
    (demanded : demand answer missing = .ok u) : answer = .ok true := by
  rcases answer with fault | _ | _
  · cases demanded
  · cases demanded
  · rfl

theorem meets_requireRunner (fs : FileSystem) (path : Path) :
    Meets (lacking (fs.isFile path) (.runnerMissing path) ++
        if fs.isExecutable path = .ok false then [.usage (.runnerMissing path)] else [])
      (requireRunner fs path) := by
  refine (meets_demand _ _).bind fun _ demanded => ?_
  obtain ⟨content, executable, found⟩ := FileSystem.stat_of_isFile (of_demand_ok demanded)
  rw [FileSystem.isExecutable, found]
  cases executable with
  | false => exact Meets.error _
  | true => exact Meets.ok ()

theorem meets_requireRunnerConfig (fs : FileSystem) (place : Option Path) :
    Meets (place.toList.flatMap fun path =>
        lacking (fs.isPresent path) (.pathMissing path "runner_config"))
      (requireRunnerConfig fs place) := by
  cases place with
  | none => exact Meets.ok ()
  | some path =>
    rw [Option.toList_some, List.flatMap_singleton]
    exact meets_demand _ _

theorem meets_require (fs : FileSystem) (config : Config) (layout : Layout) :
    Meets (problems fs config layout) (require fs config layout) := by
  unfold problems require requireDirectory
  refine (meets_demand _ _).bind fun _ _ => (meets_demand _ _).bind fun _ _ => ?_
  refine (meets_requireRunnerConfig fs layout.runnerConfig).bind fun _ _ => ?_
  cases config.docker.enabled with
  | true => exact Meets.ok ()
  | false => exact meets_requireRunner fs layout.binary

/-- What is wrong with a place is that it is missing, or that its name is too long. -/
theorem forms_of_mem_problems {failure : Failure} (mem : failure ∈ problems fs config layout) :
    (∃ error, failure = .usage error) ∨ failure = .file .nameTooLong := by
  have asked : ∀ {question path missing}, failure ∈ lacking (fs.ask question path) missing →
      (∃ error, failure = .usage error) ∨ failure = .file .nameTooLong := by
    intro question path missing mem
    unfold lacking at mem
    split at mem
    next => cases mem
    next => exact Or.inl ⟨_, List.mem_singleton.1 mem⟩
    next refused =>
      obtain rfl := FileSystem.fault_of_ask refused
      exact Or.inr (List.mem_singleton.1 mem)
  simp only [problems, List.mem_append, List.mem_flatMap] at mem
  rcases mem with mem | mem | ⟨_, -, mem⟩ | mem
  · exact asked mem
  · exact asked mem
  · exact asked mem
  · split at mem
    · cases mem
    rcases List.mem_append.1 mem with mem | mem
    · exact asked mem
    · split at mem
      · exact Or.inl ⟨_, List.mem_singleton.1 mem⟩
      · cases mem

/-- A layout that is checked fails where the links of its root lead in a circle, and otherwise with
the first problem of its places. -/
theorem ofConfig_eq_error_iff {failure : Failure} :
    ofConfig fs config root true = .error failure ↔
      (∃ circle, fs.resolve root = .error circle ∧ failure = .linkCircle circle) ∨
        ∃ resolved, fs.resolve root = .ok resolved ∧
          (problems fs config (below config fs.cwd resolved)).head? = some failure := by
  unfold ofConfig
  cases fs.resolve root with
  | error circle => simp [throw, throwThe, MonadExceptOf.throw, eq_comm]
  | ok resolved =>
    simp only [reduceCtorEq, false_and, exists_false, false_or, Except.ok.injEq, exists_eq_left']
    rw [← (meets_require fs config _).error_iff]
    cases require fs config (below config fs.cwd resolved) <;>
      simp [bind, Except.bind, pure, Except.pure]

end Layout

end TestImpact
