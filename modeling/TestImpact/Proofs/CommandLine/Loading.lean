import TestImpact.CommandLine.Program
import TestImpact.Proofs.Action
import TestImpact.Proofs.Config.Failures
import TestImpact.Proofs.Layout
import TestImpact.Proofs.SmallProject

/-!
# Loading a project

The loader of a configuration is meant to end in a configuration or in a configuration error, and
the program in the status for mistakes of the caller. Both hold but for what escapes from the two
settings files (`Config.Escapes`), and for the program also but for links that lead in a circle and
places whose names are too long (`CommandLine.Escapes`). Nothing else goes out, and all of this
does. Main statement: `mended_unless_escapes`.
-/

namespace TestImpact.CommandLine

variable {options : RunOptions} {flags : RunFlags} {before after : World} {failure : Failure}

/-! ## One failure, one outcome -/

/-- The configuration of a project and the places of its parts, as the world has them. -/
def project (before : World) (options : RunOptions) : Except Failure (Config × Layout) := do
  let config ← Config.load before.files options.root before.environment options.overrides
  let layout ← Layout.ofConfig before.files config options.root true
  pure (config, layout)

theorem outcome_loadProject (options : RunOptions) (before : World) :
    (loadProject options).outcome before =
      (Action.ofExcept (project before options)).outcome before := by
  unfold loadProject project
  rw [Action.outcome_get_bind]
  cases Config.load before.files options.root before.environment options.overrides with
  | error => rfl
  | ok config =>
    show (Action.ofExcept (Layout.ofConfig before.files config options.root true) >>=
        fun layout => pure (config, layout)).outcome before =
      (Action.ofExcept (Layout.ofConfig before.files config options.root true >>=
        fun layout => pure (config, layout))).outcome before
    cases Layout.ofConfig before.files config options.root true <;> rfl

theorem returns_loadProject_iff {loaded : Config × Layout} :
    (loadProject options).Returns before loaded after ↔
      project before options = .ok loaded ∧ after = before := by
  rw [Action.Returns, outcome_loadProject]
  exact Action.returns_ofExcept

theorem fails_loadProject_iff {raised : Raised} :
    (loadProject options).Fails before raised after ↔
      project before options = .error raised.failure ∧ raised.notes = [] ∧ after = before := by
  rw [Action.Fails, outcome_loadProject]
  exact Action.fails_ofExcept

theorem project_eq_ok_iff {config : Config} {layout : Layout} :
    project before options = .ok (config, layout) ↔
      Config.load before.files options.root before.environment options.overrides = .ok config ∧
        Layout.ofConfig before.files config options.root true = .ok layout := by
  constructor
  · intro loaded
    obtain ⟨_, configured, loaded⟩ := of_bind_ok loaded
    obtain ⟨_, laid, loaded⟩ := of_bind_ok loaded
    cases loaded
    exact ⟨configured, laid⟩
  · rintro ⟨configured, laid⟩
    rw [project, configured]
    show (Layout.ofConfig before.files config options.root true >>=
      fun layout => pure (config, layout)) = _
    rw [laid]
    rfl

theorem project_eq_error_iff :
    project before options = .error failure ↔
      Config.load before.files options.root before.environment options.overrides = .error failure ∨
        ∃ config,
          Config.load before.files options.root before.environment options.overrides = .ok config ∧
            Layout.ofConfig before.files config options.root true = .error failure := by
  rw [project, bind_eq_error_iff]
  refine or_congr_right (exists_congr fun config => and_congr_right fun _ => ?_)
  rw [bind_eq_error_iff]
  exact or_iff_left fun ⟨_, _, same⟩ => nomatch same

/-! ## What the caller cannot mend -/

/-- What goes out of the program although nothing is done yet: it escapes from the settings files,
links of the root lead in a circle, or the first problem with the places of the project is a name
that is too long. -/
inductive Escapes (before : World) (options : RunOptions) : Failure → Prop
  | config {failure : Failure} : Config.Escapes before.files options.root failure →
      Escapes before options failure
  | circle {config : Config} {circle : Path} :
      Config.load before.files options.root before.environment options.overrides = .ok config →
      before.files.resolve options.root = .error circle →
      Escapes before options (.linkCircle circle)
  | place {config : Config} {root : Path} :
      Config.load before.files options.root before.environment options.overrides = .ok config →
      before.files.resolve options.root = .ok root →
      (Layout.problems before.files config
        (Layout.below config before.files.cwd root)).head? = some (.file .nameTooLong) →
      Escapes before options (.file .nameTooLong)

theorem Escapes.not_isUsage (escapes : Escapes before options failure) :
    isUsage failure = false := by
  cases escapes with
  | config escapes =>
    rcases escapes.forms with rfl | rfl | ⟨count, rfl⟩ | rfl <;> rfl
  | circle => rfl
  | place => rfl

theorem Escapes.project_eq (escapes : Escapes before options failure) :
    project before options = .error failure := by
  rw [project_eq_error_iff]
  cases escapes with
  | config escapes => exact Or.inl (Config.escapes_iff.1 escapes).1
  | circle configured circle =>
    exact Or.inr ⟨_, configured, Layout.ofConfig_eq_error_iff.2 (Or.inl ⟨_, circle, rfl⟩)⟩
  | place configured resolved first =>
    exact Or.inr ⟨_, configured, Layout.ofConfig_eq_error_iff.2 (Or.inr ⟨_, resolved, first⟩)⟩

/-- A project that is not loaded lacks something that the caller can mend, or something escapes. -/
theorem isUsage_or_escapes (failed : project before options = .error failure) :
    isUsage failure = true ∨ Escapes before options failure := by
  rcases project_eq_error_iff.1 failed with failed | ⟨config, configured, failed⟩
  · rcases Config.config_or_escapes failed with ⟨error, rfl⟩ | escapes
    · exact Or.inl rfl
    · exact Or.inr (.config escapes)
  · rcases Layout.ofConfig_eq_error_iff.1 failed with ⟨circle, found, rfl⟩ | ⟨root, found, first⟩
    · exact Or.inr (.circle configured found)
    · rcases Layout.forms_of_mem_problems (List.mem_of_mem_head? first) with ⟨error, rfl⟩ | rfl
      · exact Or.inl rfl
      · exact Or.inr (.place configured found first)

/-- A failure that the caller can mend ends in the status for mistakes of the caller. -/
theorem returns_mending {action : Action Nat} (usage : isUsage failure = true)
    (failed : action.Fails before ⟨failure, []⟩ before) :
    ∃ output, (mending flags action).Returns before statusUsage { before with output } := by
  obtain ⟨output, reported⟩ := Action.exists_returns_report .fail failure.message flags.emoji
    (some flags.colour) before
  refine ⟨output, Action.returns_tryCatch.2 (Or.inr ⟨_, _, failed, ?_⟩)⟩
  rw [if_pos usage]
  exact Action.returns_bind.2 ⟨(), _, reported, Action.returns_pure.2 ⟨rfl, rfl⟩⟩

theorem fails_mending {action : Action Nat} (other : isUsage failure = false)
    (failed : action.Fails before ⟨failure, []⟩ before) :
    (mending flags action).Fails before ⟨failure, []⟩ before := by
  refine Action.fails_tryCatch.2 ⟨_, _, failed, ?_⟩
  rw [if_neg (by rw [other]; exact Bool.false_ne_true)]
  exact Action.fails_throw.2 ⟨rfl, rfl⟩

/-- Loading a configuration ends in one, or in a configuration error, unless something escapes: bytes
that are no text, values that are nested too deep, numbers with too many digits, or a path that is
too long. Nothing escapes from files that are missing, or hold texts whose settings can be read and
are not nested too deep, or texts that are no TOML, and such a text is named in the error. So a
project is loaded, or the program ends with the status for mistakes of the caller, unless something
escapes from the settings, links of the root lead in a circle, or the name of a place is too long.
In these cases the failure leaves the program. -/
theorem mended_unless_escapes (fs : FileSystem) (root : Path) (env : Variables.Environment)
    (overrides : List (String × Value)) (before : World) (options : RunOptions) :
    ((∃ config, Config.load fs root env overrides = .ok config) ∨
      (∃ error, Config.load fs root env overrides = .error (.config error)) ∨
        ∃ failure, Config.Escapes fs root failure ∧
          Config.load fs root env overrides = .error failure) ∧
    (∀ failure, Config.Escapes fs root failure →
      Config.load fs root env overrides = .error failure ∧
        (failure = .undecodable ∨ failure = .tooDeep ∨
          (∃ count, failure = .argument (.tooManyDigits count)) ∨ failure = .file .nameTooLong)) ∧
    (Config.Legible fs (root / Config.sharedFile) → Config.Legible fs (root / Config.ownFile) →
      ∀ failure, ¬ Config.Escapes fs root failure) ∧
    (∀ file, Config.load fs root env overrides = .error (.config (.unparsable file)) ↔
      Config.Malformed fs root file) ∧
    ((∃ loaded, (loadProject options).Returns before loaded before) ∨
      (∃ failure, (loadProject options).Fails before ⟨failure, []⟩ before ∧
        ∀ flags next, ∃ output,
          (mending flags (loadProject options >>= next)).Returns before statusUsage
            { before with output }) ∨
        ∃ failure, Escapes before options failure) ∧
    ∀ failure, Escapes before options failure →
      (loadProject options).Fails before ⟨failure, []⟩ before ∧
        ∀ flags next,
          (mending flags (loadProject options >>= next)).Fails before ⟨failure, []⟩ before := by
  refine ⟨?_, ?_, ?_, fun file => Config.malformed_iff.symm, ?_, ?_⟩
  · cases loaded : Config.load fs root env overrides with
    | ok config => exact Or.inl ⟨config, rfl⟩
    | error failure =>
      rcases Config.config_or_escapes loaded with ⟨error, rfl⟩ | escapes
      · exact Or.inr (Or.inl ⟨error, rfl⟩)
      · exact Or.inr (Or.inr ⟨failure, escapes, rfl⟩)
  · exact fun failure escapes => ⟨(Config.escapes_iff.1 escapes).1, escapes.forms⟩
  · exact fun legible legible' failure => Config.not_escapes_of_legible legible legible'
  · cases loaded : project before options with
    | ok found => exact Or.inl ⟨found, returns_loadProject_iff.2 ⟨loaded, rfl⟩⟩
    | error failure =>
      refine Or.inr ((isUsage_or_escapes loaded).imp (fun usage => ?_) fun escapes => ⟨_, escapes⟩)
      have failed : (loadProject options).Fails before ⟨failure, []⟩ before :=
        fails_loadProject_iff.2 ⟨loaded, rfl, rfl⟩
      exact ⟨failure, failed, fun flags next =>
        returns_mending usage (Action.fails_bind.2 (Or.inl failed))⟩
  · intro failure escapes
    have failed : (loadProject options).Fails before ⟨failure, []⟩ before :=
      fails_loadProject_iff.2 ⟨escapes.project_eq, rfl, rfl⟩
    exact ⟨failed, fun flags next =>
      fails_mending escapes.not_isUsage (Action.fails_bind.2 (Or.inl failed))⟩

/-- A project of which there is nothing but a settings file with one byte, which is no text. -/
def garbled : FileSystem :=
  .ofListing [(["p"], .directory), (["p", ".unitrun.toml"], .file [0xff] false)] ["p"]
    (by decide +kernel)

/-- One byte is enough for the failure to leave the program. -/
theorem lost_by_garbled_settings :
    Config.Escapes garbled (Path.ofString "/p") .undecodable ∧
      ∀ flags next,
        (mending flags (loadProject ⟨Path.ofString "/p", [], []⟩ >>= next)).Fails
          { files := garbled } ⟨.undecodable, []⟩ { files := garbled } := by
  obtain ⟨-, -, -, -, -, leaves⟩ := mended_unless_escapes garbled (Path.ofString "/p") [] []
    { files := garbled } ⟨Path.ofString "/p", [], []⟩
  have holds : Config.Holds garbled (Path.ofString "/p" / Config.ownFile) [0xff] :=
    ⟨by decide +kernel, by decide +kernel⟩
  have undecoded : ¬ ∃ text, Utf8.encode text = [0xff] := Utf8.decode?_eq_none_iff.1 (by decide)
  have nothing : Config.sharedTable garbled (Path.ofString "/p") = .ok [] := rfl
  have escapes : Config.Escapes garbled (Path.ofString "/p") .undecodable :=
    ⟨.own nothing (by decide) (.undecodable holds undecoded), nofun⟩
  exact ⟨escapes, (leaves _ (.config escapes)).2⟩

end TestImpact.CommandLine
