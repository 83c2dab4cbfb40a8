import TestImpact.Proofs.Action
import TestImpact.Proofs.Dependency
import TestImpact.Proofs.SmallProject

/-!
# Advice about dependencies

A run looks for stale packages to warn about them, and goes on if a manifest is malformed. What is
no manifest error is not caught, so some manifests block a run: `Engine.BlockedBy` lists them.
Main statement: `Engine.advisory_unless_blocked`.
-/

namespace TestImpact.Engine

variable {engine : Engine} {before after : World} {files : FileSystem}

/-- Where the lock file of the project lies. -/
def lockPath (engine : Engine) : Path :=
  engine.layout.root / engine.config.lockFile

/-- Where the manifest of the installed packages lies. -/
def installedPath (engine : Engine) : Path :=
  engine.layout.root / engine.config.installedManifest

/-- The manifests in the files block a run: they spoil the check, or name stale packages that cannot
be shown. -/
inductive BlockedBy (engine : Engine) (files : FileSystem) : Failure → Prop
  | spoilt {failure : Failure} :
      Dependency.Spoils files engine.lockPath engine.installedPath failure →
      BlockedBy engine files failure
  | unshowable {found : List Value} {failure : Failure} :
      Dependency.check files engine.lockPath engine.installedPath = .ok found →
      Dependency.Unshowable found failure → BlockedBy engine files failure

theorem BlockedBy.ne_usage {failure : Failure} (blocked : engine.BlockedBy files failure)
    (error : UsageError) : failure ≠ .usage error := by
  cases blocked with
  | spoilt spoils => exact spoils.foreign.2 error
  | unshowable _ unshowable => cases unshowable <;> exact nofun

theorem fails_warnAbout_iff {stale : List Value} {raised : Raised} :
    (engine.warnAbout stale).Fails before raised after ↔
      Dependency.Unshowable stale raised.failure ∧ raised.notes = [] ∧ after = before := by
  rw [← Dependency.names_eq_error_iff, ← Action.fails_ofExcept]
  unfold warnAbout
  rw [Action.fails_bind]
  refine or_iff_left ?_
  rintro ⟨names, _, -, failed⟩
  simp only at failed
  split at failed
  · simp at failed
  · simp at failed

theorem returns_warnAbout {stale : List Value} {names : List String}
    (returned : (engine.warnAbout stale).Returns before names after) :
    stale = names.map .string ∧ ∃ output, after = { before with output } := by
  unfold warnAbout at returned
  obtain ⟨shown, between, read, last⟩ := Action.returns_bind.1 returned
  obtain ⟨texts, rfl⟩ := Action.returns_ofExcept.1 read
  rw [Dependency.names_eq_ok_iff] at texts
  simp only at last
  split at last
  · obtain ⟨_, _, reported, last⟩ := Action.returns_bind.1 last
    obtain ⟨rfl, rfl⟩ := Action.returns_pure.1 last
    exact ⟨texts, Action.returns_report reported⟩
  · obtain ⟨rfl, rfl⟩ := Action.returns_pure.1 last
    exact ⟨texts, _, rfl⟩

/-- The search for stale packages fails exactly with what blocks it, and then has done nothing. -/
theorem fails_staleDependencies_iff {raised : Raised} :
    engine.staleDependencies.Fails before raised after ↔
      engine.BlockedBy before.files raised.failure ∧ raised.notes = [] ∧ after = before := by
  unfold staleDependencies
  rw [Action.fails_get_bind]
  simp only
  split
  next stale checked =>
    rw [fails_warnAbout_iff]
    refine and_congr_left fun _ => ⟨.unshowable checked, ?_⟩
    rintro (spoils | ⟨found, unshowable⟩)
    · have failed := (Dependency.check_eq_error_iff spoils.foreign.1).2 spoils
      cases checked.symm.trans failed
    · cases checked.symm.trans found
      exact unshowable
  next error checked =>
    refine iff_of_false (by simp) ?_
    rintro ⟨spoils | ⟨found, unshowable⟩, -⟩
    · have failed := (Dependency.check_eq_error_iff spoils.foreign.1).2 spoils
      exact spoils.foreign.1 _ (Except.error.inj (failed.symm.trans checked))
    · cases checked.symm.trans found
  next failure other checked =>
    rw [Action.fails_fail]
    constructor
    · rintro ⟨rfl, rfl⟩
      exact ⟨.spoilt ((Dependency.check_eq_error_iff other).1 checked), rfl, rfl⟩
    · rcases raised with ⟨_, _⟩
      rintro ⟨spoils | ⟨found, unshowable⟩, rfl, rfl⟩
      · have failed := (Dependency.check_eq_error_iff spoils.foreign.1).2 spoils
        cases checked.symm.trans failed
        exact ⟨rfl, rfl⟩
      · cases checked.symm.trans found

/-- The search for stale packages gives their names, or none if a manifest is malformed, and changes
only the output. -/
theorem returns_staleDependencies {names : List String}
    (returned : engine.staleDependencies.Returns before names after) :
    (∃ output, after = { before with output }) ∧
      (Dependency.check before.files engine.lockPath engine.installedPath =
          .ok (names.map .string) ∨
        names = [] ∧ ∃ error,
          Dependency.check before.files engine.lockPath engine.installedPath =
            .error (.manifest error)) := by
  unfold staleDependencies at returned
  rw [Action.returns_get_bind] at returned
  simp only at returned
  split at returned
  next stale checked =>
    obtain ⟨rfl, reported⟩ := returns_warnAbout returned
    exact ⟨reported, Or.inl checked⟩
  next error checked =>
    obtain ⟨_, _, reported, returned⟩ := Action.returns_bind.1 returned
    obtain ⟨rfl, rfl⟩ := Action.returns_pure.1 returned
    exact ⟨Action.returns_report reported, Or.inr ⟨rfl, error, checked⟩⟩
  next => exact absurd returned Action.not_returns_fail

/-- The comparison of two documents gives a list, or says that one of them is malformed, unless it
is met by more than it can take or by a name that cannot be looked up. The check of two files that
a run begins with only warns, unless that happens, or a file cannot be read as a text, or a stale
package has a name that cannot be shown. In these cases it fails, and the run with it. -/
theorem advisory_unless_blocked (engine : Engine) :
    (∀ lock installed,
      (∃ found, Dependency.stale lock installed = .ok found) ∨
        (∃ error, Dependency.stale lock installed = .error (.manifest error)) ∨
          ∃ failure, Dependency.Escapes lock installed failure ∧
            Dependency.stale lock installed = .error failure) ∧
    (∀ lock installed failure, Dependency.Escapes lock installed failure →
      Dependency.stale lock installed = .error failure ∧ ∀ error, failure ≠ .manifest error) ∧
    (∀ before raised after, engine.staleDependencies.Fails before raised after ↔
      engine.BlockedBy before.files raised.failure ∧ raised.notes = [] ∧ after = before) ∧
    (∀ before names after, engine.staleDependencies.Returns before names after →
      (∃ output, after = { before with output }) ∧
        (Dependency.check before.files engine.lockPath engine.installedPath =
            .ok (names.map .string) ∨
          names = [] ∧ ∃ error,
            Dependency.check before.files engine.lockPath engine.installedPath =
              .error (.manifest error))) ∧
    ∀ paths everything before start failure, engine.checkPreconditions.Returns before () start →
      engine.BlockedBy start.files failure →
      (engine.run paths everything).Fails before ⟨failure, []⟩ start := by
  refine ⟨fun lock installed => ?_, fun lock installed failure escapes => ?_,
    fun before raised after => fails_staleDependencies_iff,
    fun before names after => returns_staleDependencies, ?_⟩
  · cases outcome : Dependency.stale lock installed with
    | ok found => exact Or.inl ⟨found, rfl⟩
    | error failure =>
      by_cases other : ∃ error, failure = .manifest error
      · obtain ⟨error, rfl⟩ := other
        exact Or.inr (Or.inl ⟨error, rfl⟩)
      · have other : Dependency.NoManifest failure := fun error same => other ⟨error, same⟩
        exact Or.inr (Or.inr ⟨failure, (Dependency.stale_eq_error_iff other).1 outcome, rfl⟩)
  · exact ⟨(Dependency.stale_eq_error_iff escapes.foreign.1).2 escapes, escapes.foreign.1⟩
  · intro paths everything before start failure ready blocked
    have stopped : engine.staleDependencies.Fails start ⟨failure, []⟩ start :=
      fails_staleDependencies_iff.2 ⟨blocked, rfl, rfl⟩
    unfold run prepare
    refine Action.fails_bind.2 (Or.inl ?_)
    refine Action.fails_bind.2 (Or.inr ⟨(), start, ready, ?_⟩)
    exact Action.fails_bind.2 (Or.inl stopped)

/-- The files of the small project with a lock file in which the name of a package is a list. -/
def nameless : FileSystem :=
  .ofListing (SmallProject.files.entries ++
    [(["p", "composer.lock"],
      .file (Utf8.encode "\x7b\"packages\": [\x7b\"name\": []\x7d]\x7d") false)])
    ["p"] (by decide +kernel)

/-- A package with a list for a name is enough to block a run. -/
theorem blocked_by_name :
    (SmallProject.engine "").BlockedBy nameless .wrongKind ∧
      ((SmallProject.engine "").run ["test/ATest.php"]).Fails { files := nameless }
        ⟨.wrongKind, []⟩ { files := nameless } := by
  have evaluated : (SmallProject.engine "").staleDependencies.failsAs { files := nameless }
      ⟨.wrongKind, []⟩ = true := by
    decide +kernel
  obtain ⟨-, -, fails_iff, -, blocks⟩ := advisory_unless_blocked (SmallProject.engine "")
  obtain ⟨after, failed⟩ := Action.exists_of_failsAs evaluated
  obtain ⟨blocked, -, -⟩ := (fails_iff _ _ _).1 failed
  have ready : (SmallProject.engine "").checkPreconditions.Returns { files := nameless } ()
      { files := nameless } :=
    Action.returns_pure.2 ⟨rfl, rfl⟩
  exact ⟨blocked, blocks _ _ _ _ _ ready blocked⟩

end TestImpact.Engine
