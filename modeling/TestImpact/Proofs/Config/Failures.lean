import TestImpact.Proofs.Config.Layers
import TestImpact.Proofs.FileSystem.Walk
import TestImpact.Proofs.Text.Utf8

/-!
# Why there is no configuration

A settings file that is no TOML is a configuration error, and so are settings that are not valid.
Not everything that can be wrong with a file is: `Unreadable` lists why no settings come out of one,
and `Stops` why none come out of both. The lists are complete and every entry is met
(`readFile_eq_error_iff`, `document_eq_error_iff`). What of it is no configuration error goes out of
the loader as it is (`Escapes`), and is the only thing that does (`escapes_iff`).
-/

namespace TestImpact.Config

variable {fs : FileSystem} {root file : Path} {env : Variables.Environment}
  {overrides entries : List (String × Value)} {bytes : List UInt8} {failure : Failure}

/-! ## One file -/

/-- There is a file with these bytes at a path. -/
def Holds (fs : FileSystem) (file : Path) (bytes : List UInt8) : Prop :=
  fs.isFile file = .ok true ∧ fs.read file = .ok bytes

/-- Why no settings come out of a file. -/
inductive Unreadable (fs : FileSystem) (file : Path) : Failure → Prop
  /-- The file system does not say whether the file is there. -/
  | refused {fault : Fault} : fs.isFile file = .error fault → Unreadable fs file (.file fault)
  | undecodable {bytes : List UInt8} : Holds fs file bytes →
      (¬ ∃ text, Utf8.encode text = bytes) → Unreadable fs file .undecodable
  | malformed {text : String} : Holds fs file (Utf8.encode text) →
      Toml.parse text = .error .malformed → Unreadable fs file (.config (.unparsable file))
  | digits {text : String} {count : Nat} : Holds fs file (Utf8.encode text) →
      Toml.parse text = .error (.tooManyDigits count) →
      Unreadable fs file (.argument (.tooManyDigits count))
  | nested {text : String} : Holds fs file (Utf8.encode text) →
      Toml.parse text = .error .tooDeep → Unreadable fs file .tooDeep

theorem readFile_of_holds (holds : Holds fs file bytes) :
    readFile fs file =
      match Utf8.decode? bytes with
      | none => .error .undecodable
      | some text =>
        match Toml.parse text with
        | .ok entries => .ok entries
        | .error .malformed => .error (.config (.unparsable file))
        | .error (.tooManyDigits count) => .error (.argument (.tooManyDigits count))
        | .error .tooDeep => .error .tooDeep := by
  unfold readFile
  rw [holds.1, holds.2]
  rfl

theorem readFile_of_encode {text : String} (holds : Holds fs file (Utf8.encode text)) :
    readFile fs file =
      match Toml.parse text with
      | .ok entries => .ok entries
      | .error .malformed => .error (.config (.unparsable file))
      | .error (.tooManyDigits count) => .error (.argument (.tooManyDigits count))
      | .error .tooDeep => .error .tooDeep := by
  rw [readFile_of_holds holds, Utf8.decode?_eq_some_iff.2 rfl]

theorem unreadable_of_readFile (failed : readFile fs file = .error failure) :
    Unreadable fs file failure := by
  rcases of_bind_error failed with unasked | ⟨there, asked, absent⟩
  · obtain ⟨fault, refused, rfl⟩ := orFailure_eq_error_iff.1 unasked
    exact .refused refused
  rw [orFailure_eq_ok_iff] at asked
  cases there with
  | false => cases absent
  | true =>
    obtain ⟨bytes, found⟩ := FileSystem.exists_read asked
    have holds : Holds fs file bytes := ⟨asked, found⟩
    cases decoded : Utf8.decode? bytes with
    | none =>
      rw [readFile_of_holds holds, decoded] at failed
      cases failed
      exact .undecodable holds (Utf8.decode?_eq_none_iff.1 decoded)
    | some text =>
      obtain rfl := Utf8.decode?_eq_some_iff.1 decoded
      rw [readFile_of_encode holds] at failed
      split at failed
      next => cases failed
      next parsed => cases failed; exact .malformed holds parsed
      next parsed => cases failed; exact .digits holds parsed
      next parsed => cases failed; exact .nested holds parsed

theorem readFile_eq_error_iff : readFile fs file = .error failure ↔ Unreadable fs file failure := by
  refine ⟨unreadable_of_readFile, fun unreadable => ?_⟩
  cases unreadable with
  | refused refused =>
    rw [readFile, refused]
    rfl
  | undecodable holds undecoded =>
    rw [readFile_of_holds holds, Utf8.decode?_eq_none_iff.2 undecoded]
  | malformed holds parsed => rw [readFile_of_encode holds, parsed]
  | digits holds parsed => rw [readFile_of_encode holds, parsed]
  | nested holds parsed => rw [readFile_of_encode holds, parsed]

/-! ## Both files -/

theorem sharedTable_eq_error_iff :
    sharedTable fs root = .error failure ↔ Unreadable fs (root / sharedFile) failure := by
  rw [← readFile_eq_error_iff, sharedTable]
  cases readFile fs (root / sharedFile) <;> simp [Except.map]

/-- Why no settings come out of the two files: one of them cannot be read, the shared one first, or
its settings are nested too deep for variables to be looked for. -/
inductive Stops (fs : FileSystem) (root : Path) : Failure → Prop
  | shared {failure : Failure} : Unreadable fs (root / sharedFile) failure → Stops fs root failure
  | sharedDeep {shared : List (String × Value)} : sharedTable fs root = .ok shared →
      nestingLimit < (Value.table shared).depth → Stops fs root .tooDeep
  | own {shared : List (String × Value)} {failure : Failure} : sharedTable fs root = .ok shared →
      (Value.table shared).depth ≤ nestingLimit → Unreadable fs (root / ownFile) failure →
      Stops fs root failure
  | ownDeep {shared own : List (String × Value)} : sharedTable fs root = .ok shared →
      (Value.table shared).depth ≤ nestingLimit → readFile fs (root / ownFile) = .ok own →
      nestingLimit < (Value.table own).depth → Stops fs root .tooDeep

theorem document_eq_error_iff :
    document fs root env overrides = .error failure ↔ Stops fs root failure := by
  rw [document, sharedLayer_eq, ownLayer_eq]
  constructor
  · intro failed
    rcases of_bind_error failed with failed | ⟨lower, loaded, failed⟩
    · rcases of_bind_error failed with unread | ⟨shared, read, unexpanded⟩
      · exact .shared (sharedTable_eq_error_iff.1 unread)
      · obtain ⟨deep, rfl⟩ := expanded_eq_error_iff.1 unexpanded
        exact .sharedDeep read deep
    · obtain ⟨shared, read, expansion⟩ := of_bind_ok loaded
      have shallow := (expanded_eq_ok_iff.1 expansion).1
      rcases of_bind_error failed with failed | ⟨upper, -, last⟩
      · rcases of_bind_error failed with unread | ⟨own, ownRead, unexpanded⟩
        · exact .own read shallow (readFile_eq_error_iff.1 unread)
        · obtain ⟨deep, rfl⟩ := expanded_eq_error_iff.1 unexpanded
          exact .ownDeep read shallow ownRead deep
      · cases last
  · have goes_on : ∀ {shared} {next : List (String × Value) →
        Except Failure (List (String × Value))}, sharedTable fs root = .ok shared →
        (Value.table shared).depth ≤ nestingLimit →
        (sharedTable fs root >>= expanded env) >>= next =
          next (Variables.expandEntries env shared) := by
      intro shared next read shallow
      have expansion : expanded env shared = _ := expanded_eq_ok_iff.2 ⟨shallow, rfl⟩
      rw [read]
      exact congrArg (· >>= next) expansion
    intro stops
    cases stops with
    | shared unreadable =>
      rw [sharedTable_eq_error_iff.2 unreadable]
      rfl
    | sharedDeep read deep =>
      have failed : expanded env _ = _ := expanded_eq_error_iff.2 ⟨deep, rfl⟩
      rw [read]
      exact congrArg (· >>= _) failed
    | own read shallow unreadable =>
      rw [goes_on read shallow, readFile_eq_error_iff.2 unreadable]
      rfl
    | ownDeep read shallow ownRead deep =>
      have failed : expanded env _ = _ := expanded_eq_error_iff.2 ⟨deep, rfl⟩
      rw [goes_on read shallow, ownRead]
      exact congrArg (· >>= _) failed

/-! ## What escapes -/

/-- What stops the loader although it is no configuration error. -/
def Escapes (fs : FileSystem) (root : Path) (failure : Failure) : Prop :=
  Stops fs root failure ∧ ∀ error, failure ≠ .config error

/-- One of the two files is no TOML, and nothing is wrong before it is read. -/
inductive Malformed (fs : FileSystem) (root : Path) : Path → Prop
  | shared {text : String} : Holds fs (root / sharedFile) (Utf8.encode text) →
      Toml.parse text = .error .malformed → Malformed fs root (root / sharedFile)
  | own {shared : List (String × Value)} {text : String} : sharedTable fs root = .ok shared →
      (Value.table shared).depth ≤ nestingLimit → Holds fs (root / ownFile) (Utf8.encode text) →
      Toml.parse text = .error .malformed → Malformed fs root (root / ownFile)

/-- There is no file, or it holds a text that is no TOML or whose settings are not nested too deep
for variables to be looked for. -/
structure Legible (fs : FileSystem) (file : Path) : Prop where
  asked : ∃ there, fs.isFile file = .ok there
  text : ∀ bytes, Holds fs file bytes → ∃ text, Utf8.encode text = bytes ∧
    (Toml.parse text = .error .malformed ∨
      ∃ entries, Toml.parse text = .ok entries ∧ (Value.table entries).depth ≤ nestingLimit)

theorem Unreadable.forms (unreadable : Unreadable fs file failure) :
    failure = .config (.unparsable file) ∨ failure = .undecodable ∨ failure = .tooDeep ∨
      (∃ count, failure = .argument (.tooManyDigits count)) ∨ failure = .file .nameTooLong := by
  cases unreadable with
  | refused refused =>
    obtain rfl := FileSystem.fault_of_ask refused
    simp
  | undecodable => simp
  | malformed => simp
  | digits => simp
  | nested => simp

/-- Bytes that are no text, values that are nested too deep, numbers with too many digits and paths
that are too long are all that escapes. -/
theorem Escapes.forms (escapes : Escapes fs root failure) :
    failure = .undecodable ∨ failure = .tooDeep ∨
      (∃ count, failure = .argument (.tooManyDigits count)) ∨ failure = .file .nameTooLong := by
  obtain ⟨stops, other⟩ := escapes
  cases stops with
  | shared unreadable => exact unreadable.forms.resolve_left (other _)
  | sharedDeep => simp
  | own _ _ unreadable => exact unreadable.forms.resolve_left (other _)
  | ownDeep => simp

theorem Legible.malformed_of_unreadable (legible : Legible fs file)
    (unreadable : Unreadable fs file failure) : failure = .config (.unparsable file) := by
  obtain ⟨⟨there, asked⟩, text⟩ := legible
  have parsed : ∀ {read problem}, Holds fs file (Utf8.encode read) →
      Toml.parse read = .error problem → problem = .malformed := by
    intro read problem holds failed
    obtain ⟨other, same, outcome⟩ := text _ holds
    obtain rfl := Utf8.encode_inj.1 same
    rcases outcome with malformed | ⟨entries, fine, -⟩
    · exact (Except.error.inj (malformed.symm.trans failed)).symm
    · cases fine.symm.trans failed
  cases unreadable with
  | refused refused => cases asked.symm.trans refused
  | undecodable holds undecoded =>
    obtain ⟨read, same, -⟩ := text _ holds
    exact absurd ⟨read, same⟩ undecoded
  | malformed => rfl
  | digits holds failed => cases parsed holds failed
  | nested holds failed => cases parsed holds failed

theorem Legible.shallow (legible : Legible fs file) (read : readFile fs file = .ok entries) :
    (Value.table entries).depth ≤ nestingLimit := by
  obtain ⟨⟨there, asked⟩, text⟩ := legible
  cases there with
  | false =>
    rw [readFile, asked] at read
    cases read
    exact Nat.le_of_ble_eq_true rfl
  | true =>
    obtain ⟨bytes, found⟩ := FileSystem.exists_read asked
    have holds : Holds fs file bytes := ⟨asked, found⟩
    obtain ⟨text, rfl, malformed | ⟨parsed, fine, shallow⟩⟩ := text _ holds
    · rw [readFile_of_encode holds, malformed] at read
      cases read
    · rw [readFile_of_encode holds, fine] at read
      cases read
      exact shallow

theorem depth_tableAt_le (entries : List (String × Value)) (key : String) :
    (Value.table (tableAt entries key)).depth ≤ (Value.table entries).depth := by
  unfold tableAt
  split
  next found => exact (Value.depth_le_of_get? found).trans (Nat.le_succ _)
  next => exact Nat.succ_le_succ (Nat.zero_le _)

/-- Nothing escapes from legible files. -/
theorem not_escapes_of_legible (legible : Legible fs (root / sharedFile))
    (legible' : Legible fs (root / ownFile)) : ¬ Escapes fs root failure := by
  rintro ⟨stops, other⟩
  cases stops with
  | shared unreadable => exact other _ (legible.malformed_of_unreadable unreadable)
  | sharedDeep read deep =>
    obtain ⟨whole, wholeRead, rfl⟩ := of_map_ok read
    have shallow := legible.shallow wholeRead
    have inside := (depth_tableAt_le (tableAt whole "tool") "unitrun").trans
      (depth_tableAt_le whole "tool")
    omega
  | own _ _ unreadable => exact other _ (legible'.malformed_of_unreadable unreadable)
  | ownDeep _ _ read deep =>
    have shallow := legible'.shallow read
    omega

theorem load_eq_error_iff : load fs root env overrides = .error failure ↔
    Stops fs root failure ∨ ∃ merged details, document fs root env overrides = .ok merged ∧
      ofTable merged = .error details ∧ failure = .config (.invalid details) := by
  rw [load, bind_eq_error_iff, document_eq_error_iff]
  refine or_congr_right (exists_congr fun merged => ?_)
  cases made : ofTable merged with
  | ok config => simp [pure, Except.pure]
  | error details => simp [throw, throwThe, MonadExceptOf.throw, eq_comm]

/-- The loader fails with something else than a configuration error exactly if that escapes. -/
theorem escapes_iff : Escapes fs root failure ↔
    load fs root env overrides = .error failure ∧ ∀ error, failure ≠ .config error := by
  rw [Escapes, load_eq_error_iff]
  refine and_congr_left fun other => (or_iff_left ?_).symm
  rintro ⟨merged, details, -, -, rfl⟩
  exact other _ rfl

/-- What stops the loader is a configuration error, or it escapes. -/
theorem config_or_escapes (failed : load fs root env overrides = .error failure) :
    (∃ error, failure = .config error) ∨ Escapes fs root failure := by
  by_cases caught : ∃ error, failure = .config error
  · exact Or.inl caught
  · exact Or.inr (escapes_iff.2 ⟨failed, fun error same => caught ⟨error, same⟩⟩)

/-- A file is named as one that cannot be parsed exactly if it is the first that cannot. -/
theorem malformed_iff : Malformed fs root file ↔
    load fs root env overrides = .error (.config (.unparsable file)) := by
  rw [load_eq_error_iff]
  have invalid : ¬ ∃ merged details, document fs root env overrides = .ok merged ∧
      ofTable merged = .error details ∧
        Failure.config (.unparsable file) = .config (.invalid details) := by
    rintro ⟨merged, details, -, -, same⟩
    cases same
  rw [or_iff_left invalid]
  constructor
  · intro malformed
    cases malformed with
    | shared holds parsed => exact .shared (.malformed holds parsed)
    | own read shallow holds parsed => exact .own read shallow (.malformed holds parsed)
  · intro stops
    generalize whole : Failure.config (.unparsable file) = failure at stops
    cases stops with
    | shared unreadable =>
      cases unreadable <;> cases whole
      exact .shared ‹_› ‹_›
    | sharedDeep => cases whole
    | own read shallow unreadable =>
      cases unreadable <;> cases whole
      exact .own read shallow ‹_› ‹_›
    | ownDeep => cases whole

end TestImpact.Config
