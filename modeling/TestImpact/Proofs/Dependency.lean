import Mathlib.Data.List.Basic
import TestImpact.Dependency
import TestImpact.Proofs.Outcome
import TestImpact.Proofs.Text.Utf8

/-!
# What manifests can do to the check of them

Two documents are compared, and most of what can be wrong with them is a manifest error. Some of
it is not: `Dependency.Escapes` lists what else may come out of the comparison of two texts, and
`Dependency.Spoils` what may come out of the check of two files. Both lists are complete and
every entry of them is met (`stale_eq_error_iff`, `check_eq_error_iff`).
-/

namespace TestImpact.Dependency

/-- The failure is not that a manifest is malformed. -/
def NoManifest (failure : Failure) : Prop :=
  ∀ error, failure ≠ .manifest error

/-! ## Two texts -/

/-- A document is more than the reader of it can take. -/
inductive Overtaxes (document : String) : Failure → Prop
  | nested {error : Json.SyntaxError} : Json.parse document = .error error →
      error.problem = .tooDeep → Overtaxes document .tooDeep
  | digits {error : Json.SyntaxError} {count : Nat} : Json.parse document = .error error →
      error.problem = .tooManyDigits count →
      Overtaxes document (.argument (.tooManyDigits count))

theorem load_eq_error_iff {manifest : Manifest} {document : String} {failure : Failure}
    (other : NoManifest failure) :
    load manifest document = .error failure ↔ Overtaxes document failure := by
  unfold load
  constructor
  · intro failed
    split at failed
    · cases failed
    · split at failed
      · cases failed
        exact .nested ‹_› ‹_›
      · cases failed
        exact .digits ‹_› ‹_›
      · cases failed
        exact absurd rfl (other _)
  · intro overtaxes
    cases overtaxes with
    | nested failed problem => rw [failed]; simp only [problem]
    | digits failed problem => rw [failed]; simp only [problem]

theorem packages_ne_error {manifest : Manifest} {list : Value} {failure : Failure}
    (other : NoManifest failure) : packages manifest list ≠ .error failure := by
  unfold packages
  rintro failed
  split at failed
  · split at failed <;> cases failed
    exact other _ rfl
  · cases failed
    exact other _ rfl

theorem locked_eq_error_iff {document : String} {failure : Failure} (other : NoManifest failure) :
    locked document = .error failure ↔ Overtaxes document failure := by
  rw [← @load_eq_error_iff .lock document failure other]
  constructor
  · intro failed
    rcases of_bind_error failed with failed | ⟨read, -, failed⟩
    · exact failed
    · split at failed
      · exact absurd failed (packages_ne_error other)
      · cases failed
        exact absurd rfl (other _)
  · intro failed
    rw [locked, failed]
    rfl

theorem installed_eq_error_iff {document : String} {failure : Failure}
    (other : NoManifest failure) :
    installed document = .error failure ↔ Overtaxes document failure := by
  rw [← @load_eq_error_iff .installed document failure other]
  constructor
  · intro failed
    rcases of_bind_error failed with failed | ⟨read, -, failed⟩
    · exact failed
    · split at failed <;> exact absurd failed (packages_ne_error other)
  · intro failed
    rw [installed, failed]
    rfl

theorem requireKeys_eq_error_iff {found : List Package} {failure : Failure} :
    requireKeys found = .error failure ↔
      failure = .wrongKind ∧ ∃ package ∈ found, isKey package.name = false := by
  unfold requireKeys
  split
  next all =>
    have keys := List.all_eq_true.1 all
    simp only [reduceCtorEq, false_iff]
    rintro ⟨-, package, mem, unfit⟩
    rw [keys package mem] at unfit
    cases unfit
  next some_unfit =>
    have unfit : ∃ package ∈ found, isKey package.name = false := by
      simpa using some_unfit
    rw [and_iff_left unfit, Except.error.injEq, eq_comm]

/-- What comes out of the comparison of two documents although neither of them is malformed: one is
more than can be read, or the name of a package cannot be looked up. -/
inductive Escapes (lockDocument installedDocument : String) : Failure → Prop
  | lock {failure : Failure} : Overtaxes lockDocument failure →
      Escapes lockDocument installedDocument failure
  | installed {wanted : List Package} {failure : Failure} : locked lockDocument = .ok wanted →
      Overtaxes installedDocument failure → Escapes lockDocument installedDocument failure
  | name {wanted present : List Package} {package : Package} : locked lockDocument = .ok wanted →
      Dependency.installed installedDocument = .ok present → package ∈ present ++ wanted →
      isKey package.name = false → Escapes lockDocument installedDocument .wrongKind

/-- The comparison of two documents gives a list, or says that one is malformed, unless something
escapes. -/
theorem stale_eq_error_iff {lockDocument installedDocument : String} {failure : Failure}
    (other : NoManifest failure) :
    stale lockDocument installedDocument = .error failure ↔
      Escapes lockDocument installedDocument failure := by
  simp only [stale, bind_eq_error_iff]
  constructor
  · rintro (failed | ⟨wanted, lock_read, failed | ⟨present, installed_read, failed⟩⟩)
    · exact .lock ((locked_eq_error_iff other).1 failed)
    · exact .installed lock_read ((installed_eq_error_iff other).1 failed)
    · rcases failed with failed | ⟨_, -, failed | ⟨_, -, failed⟩⟩
      · obtain ⟨rfl, package, mem, unfit⟩ := requireKeys_eq_error_iff.1 failed
        exact .name lock_read installed_read (List.mem_append_left _ mem) unfit
      · obtain ⟨rfl, package, mem, unfit⟩ := requireKeys_eq_error_iff.1 failed
        exact .name lock_read installed_read (List.mem_append_right _ mem) unfit
      · cases failed
  · intro escapes
    cases escapes with
    | lock overtaxes => exact Or.inl ((locked_eq_error_iff other).2 overtaxes)
    | installed lock_read overtaxes =>
      exact Or.inr ⟨_, lock_read, Or.inl ((installed_eq_error_iff other).2 overtaxes)⟩
    | @name wanted present package lock_read installed_read mem unfit =>
      refine Or.inr ⟨wanted, lock_read, Or.inr ⟨present, installed_read, ?_⟩⟩
      by_cases here : ∃ package ∈ present, isKey package.name = false
      · exact Or.inl (requireKeys_eq_error_iff.2 ⟨rfl, here⟩)
      · have fit : requireKeys present = .ok () := by
          cases required : requireKeys present with
          | ok _ => rfl
          | error _ => exact absurd (requireKeys_eq_error_iff.1 required).2 here
        have there : package ∈ wanted := (List.mem_append.1 mem).resolve_left fun listed =>
          here ⟨package, listed, unfit⟩
        exact Or.inr ⟨(), fit, Or.inl (requireKeys_eq_error_iff.2 ⟨rfl, package, there, unfit⟩)⟩

/-! ## Two files -/

variable {files : FileSystem} {lockFile installedManifest : Path}

/-- A file is there and cannot be read as a text. -/
inductive Illegible (files : FileSystem) (path : Path) : Failure → Prop
  | refused {fault : Fault} : files.read path = .error fault → Illegible files path (.file fault)
  | bytes {content : List UInt8} : files.read path = .ok content →
      (¬ ∃ text, Utf8.encode text = content) → Illegible files path .undecodable

theorem readManifest_eq_error_iff {path : Path} {failure : Failure} :
    readManifest files path = .error failure ↔ Illegible files path failure := by
  unfold readManifest FileSystem.readText?
  constructor
  · intro failed
    cases content_read : files.read path with
    | error fault =>
      rw [content_read] at failed
      cases failed
      exact .refused content_read
    | ok content =>
      rw [content_read] at failed
      cases decoded : Utf8.decode? content with
      | none =>
        simp only [bind, Except.bind, decoded, Option.map_none, pure, Except.pure] at failed
        cases failed
        exact .bytes content_read (Utf8.decode?_eq_none_iff.1 decoded)
      | some text =>
        simp only [bind, Except.bind, decoded, Option.map_some, pure, Except.pure] at failed
        cases failed
  · intro illegible
    cases illegible with
    | refused content_read => rw [content_read]; rfl
    | bytes content_read no_text =>
      rw [content_read]
      simp only [bind, Except.bind, Utf8.decode?_eq_none_iff.2 no_text, Option.map_none, pure, Except.pure]

/-- The text of the installed manifest: without a file, that of an empty list. -/
def installedText (files : FileSystem) (installedManifest : Path) : Except Failure String := do
  if ← orFailure (files.isFile installedManifest) then readManifest files installedManifest
  else pure "[]"

/-- What comes out of the check of two files although neither document is malformed: the file
system does not say whether they are there, one of them cannot be read as a text, or something
escapes from the comparison of the texts. -/
inductive Spoils (files : FileSystem) (lockFile installedManifest : Path) : Failure → Prop
  | lockRefused {fault : Fault} : files.isFile lockFile = .error fault →
      Spoils files lockFile installedManifest (.file fault)
  | installedRefused {fault : Fault} : files.isFile lockFile = .ok true →
      files.isFile installedManifest = .error fault →
      Spoils files lockFile installedManifest (.file fault)
  | installed {failure : Failure} : files.isFile lockFile = .ok true →
      files.isFile installedManifest = .ok true → Illegible files installedManifest failure →
      Spoils files lockFile installedManifest failure
  | lock {installed : String} {failure : Failure} : files.isFile lockFile = .ok true →
      installedText files installedManifest = .ok installed → Illegible files lockFile failure →
      Spoils files lockFile installedManifest failure
  | texts {lock installed : String} {failure : Failure} : files.isFile lockFile = .ok true →
      installedText files installedManifest = .ok installed →
      readManifest files lockFile = .ok lock → Escapes lock installed failure →
      Spoils files lockFile installedManifest failure

theorem installedText_eq_error_iff {failure : Failure} :
    installedText files installedManifest = .error failure ↔
      (∃ fault, files.isFile installedManifest = .error fault ∧ failure = .file fault) ∨
        files.isFile installedManifest = .ok true ∧
          Illegible files installedManifest failure := by
  simp only [installedText, bind_eq_error_iff, orFailure_eq_error_iff, orFailure_eq_ok_iff]
  refine or_congr_right ⟨?_, ?_⟩
  · rintro ⟨there, asked, failed⟩
    split at failed
    next found =>
      rw [found] at asked
      exact ⟨asked, readManifest_eq_error_iff.1 failed⟩
    next => cases failed
  · rintro ⟨asked, illegible⟩
    exact ⟨true, asked, readManifest_eq_error_iff.2 illegible⟩

/-- A check is that of the lock file, then of the installed manifest, and then of their texts. -/
theorem check_eq (files : FileSystem) (lockFile installedManifest : Path) :
    check files lockFile installedManifest =
      orFailure (files.isFile lockFile) >>= fun there =>
        if there then
          installedText files installedManifest >>= fun installed =>
            readManifest files lockFile >>= fun lock => stale lock installed
        else pure [] := by
  unfold check installedText
  refine congrArg (orFailure (files.isFile lockFile) >>= ·) (funext fun there => ?_)
  cases there with
  | false => rfl
  | true =>
    cases orFailure (files.isFile installedManifest) with
    | error failure => rfl
    | ok present => cases present <;> rfl

/-- The check of two files gives a list, or says that a document is malformed, unless something
spoils it. -/
theorem check_eq_error_iff {failure : Failure} (other : NoManifest failure) :
    check files lockFile installedManifest = .error failure ↔
      Spoils files lockFile installedManifest failure := by
  rw [check_eq, bind_eq_error_iff, orFailure_eq_error_iff]
  constructor
  · rintro (⟨fault, refused, rfl⟩ | ⟨there, asked, failed⟩)
    · exact .lockRefused refused
    rw [orFailure_eq_ok_iff] at asked
    cases there with
    | false => cases failed
    | true =>
      rcases of_bind_error failed with failed | ⟨installed, installed_read, failed⟩
      · rcases installedText_eq_error_iff.1 failed with ⟨fault, refused, rfl⟩ | ⟨found, illegible⟩
        · exact .installedRefused asked refused
        · exact .installed asked found illegible
      rcases of_bind_error failed with failed | ⟨lock, lock_read, failed⟩
      · exact .lock asked installed_read (readManifest_eq_error_iff.1 failed)
      · exact .texts asked installed_read lock_read ((stale_eq_error_iff other).1 failed)
  · have goes_on : ∀ {next : Except Failure (List Value)}, files.isFile lockFile = .ok true →
        next = .error failure → ∃ there, orFailure (files.isFile lockFile) = .ok there ∧
          (if there then next else pure []) = .error failure :=
      fun asked failed => ⟨true, orFailure_eq_ok_iff.2 asked, failed⟩
    intro spoils
    cases spoils with
    | lockRefused refused => exact Or.inl ⟨_, refused, rfl⟩
    | installedRefused asked refused =>
      refine Or.inr (goes_on asked (bind_eq_error_iff.2 (Or.inl ?_)))
      exact installedText_eq_error_iff.2 (Or.inl ⟨_, refused, rfl⟩)
    | installed asked found illegible =>
      refine Or.inr (goes_on asked (bind_eq_error_iff.2 (Or.inl ?_)))
      exact installedText_eq_error_iff.2 (Or.inr ⟨found, illegible⟩)
    | lock asked installed_read illegible =>
      refine Or.inr (goes_on asked (bind_eq_error_iff.2 (Or.inr ⟨_, installed_read, ?_⟩)))
      exact bind_eq_error_iff.2 (Or.inl (readManifest_eq_error_iff.2 illegible))
    | texts asked installed_read lock_read escapes =>
      refine Or.inr (goes_on asked (bind_eq_error_iff.2 (Or.inr ⟨_, installed_read, ?_⟩)))
      exact bind_eq_error_iff.2 (Or.inr ⟨_, lock_read, (stale_eq_error_iff other).2 escapes⟩)

theorem Overtaxes.foreign {document : String} {failure : Failure}
    (overtaxes : Overtaxes document failure) :
    NoManifest failure ∧ ∀ error, failure ≠ .usage error := by
  cases overtaxes <;> exact ⟨nofun, nofun⟩

/-- What escapes is neither a manifest error nor a condition that the user can mend. -/
theorem Escapes.foreign {lockDocument installedDocument : String} {failure : Failure}
    (escapes : Escapes lockDocument installedDocument failure) :
    NoManifest failure ∧ ∀ error, failure ≠ .usage error := by
  cases escapes with
  | lock overtaxes => exact overtaxes.foreign
  | installed _ overtaxes => exact overtaxes.foreign
  | name => exact ⟨nofun, nofun⟩

/-- What spoils the check is neither a manifest error nor a condition that the user can mend. -/
theorem Spoils.foreign {failure : Failure} (spoils : Spoils files lockFile installedManifest failure) :
    NoManifest failure ∧ ∀ error, failure ≠ .usage error := by
  have illegible_foreign : ∀ {path}, Illegible files path failure →
      NoManifest failure ∧ ∀ error, failure ≠ .usage error := by
    intro path illegible
    cases illegible <;> exact ⟨nofun, nofun⟩
  cases spoils with
  | lockRefused => exact ⟨nofun, nofun⟩
  | installedRefused => exact ⟨nofun, nofun⟩
  | installed _ _ illegible => exact illegible_foreign illegible
  | lock _ _ illegible => exact illegible_foreign illegible
  | texts _ _ _ escapes => exact escapes.foreign

/-! ## Names that are shown -/

/-- Names of stale packages that cannot be shown: one of them is no text, or all are texts and one
of them has half of a pair in it. -/
inductive Unshowable (found : List Value) : Failure → Prop
  | kind {name : Value} : name ∈ found → textOf name = .error .wrongKind →
      Unshowable found .wrongKind
  | half {points : List Nat} : (∀ name ∈ found, textOf name ≠ .error .wrongKind) →
      .points points ∈ found → Unshowable found .unencodable

theorem textOf_cases (name : Value) :
    (∃ text, name = .string text ∧ textOf name = .ok text) ∨
      (∃ points, name = .points points ∧ textOf name = .error .unencodable) ∨
      textOf name = .error .wrongKind ∧ (name matches .string _ | .points _) = false := by
  cases name with
  | string text => exact Or.inl ⟨text, rfl, rfl⟩
  | points points => exact Or.inr (Or.inl ⟨points, rfl, rfl⟩)
  | _ => exact Or.inr (Or.inr ⟨rfl, rfl⟩)

theorem mapM_textOf_eq_ok_iff {found : List Value} {shown : List String} :
    found.mapM textOf = .ok shown ↔ found = shown.map .string := by
  induction found generalizing shown with
  | nil => cases shown <;> simp [pure, Except.pure]
  | cons name rest ih =>
    rw [List.mapM_cons]
    constructor
    · intro given
      obtain ⟨first, read, given⟩ := of_bind_ok given
      obtain ⟨others, rest_read, given⟩ := of_bind_ok given
      cases given
      rcases textOf_cases name with ⟨text, rfl, given⟩ | ⟨points, rfl, given⟩ | ⟨given, -⟩
      · rw [given] at read
        cases read
        rw [ih.1 rest_read, List.map_cons]
      all_goals
        rw [given] at read
        cases read
    · intro given
      cases shown with
      | nil => cases given
      | cons first others =>
        obtain ⟨rfl, rfl⟩ := List.cons.inj given
        rw [ih.2 rfl]
        rfl

theorem of_mapM_textOf_error {found : List Value} {failure : Failure}
    (failed : found.mapM textOf = .error failure) : ∃ name ∈ found, textOf name = .error failure := by
  induction found with
  | nil => cases failed
  | cons name rest ih =>
    rw [List.mapM_cons] at failed
    rcases of_bind_error failed with failed | ⟨_, -, failed⟩
    · exact ⟨name, List.mem_cons_self, failed⟩
    rcases of_bind_error failed with failed | ⟨_, -, failed⟩
    · obtain ⟨other, mem, failed⟩ := ih failed
      exact ⟨other, List.mem_cons_of_mem _ mem, failed⟩
    · cases failed

theorem names_eq_of_no_wrong_kind {found : List Value}
    (kinds : ∀ name ∈ found, textOf name ≠ .error .wrongKind) :
    names found = found.mapM textOf := by
  refine if_pos (List.all_eq_true.2 fun name mem => ?_)
  rcases textOf_cases name with ⟨text, rfl, -⟩ | ⟨points, rfl, -⟩ | ⟨unfit, -⟩
  · rfl
  · rfl
  · exact absurd unfit (kinds name mem)

theorem names_eq_of_wrong_kind {found : List Value} {name : Value} (mem : name ∈ found)
    (unfit : textOf name = .error .wrongKind) : names found = .error .wrongKind := by
  refine if_neg fun all => ?_
  have kind := List.all_eq_true.1 all name mem
  rcases textOf_cases name with ⟨text, rfl, read⟩ | ⟨points, rfl, read⟩ | ⟨-, no_text⟩
  · rw [read] at unfit
    cases unfit
  · rw [read] at unfit
    cases unfit
  · exact Bool.false_ne_true (no_text.symm.trans kind)

/-- Names are shown exactly if they are texts. -/
theorem names_eq_ok_iff {found : List Value} {shown : List String} :
    names found = .ok shown ↔ found = shown.map .string := by
  by_cases kinds : ∀ name ∈ found, textOf name ≠ .error .wrongKind
  · rw [names_eq_of_no_wrong_kind kinds, mapM_textOf_eq_ok_iff]
  · simp only [not_forall, not_not] at kinds
    obtain ⟨name, mem, unfit⟩ := kinds
    rw [names_eq_of_wrong_kind mem unfit]
    refine iff_of_false nofun ?_
    rintro rfl
    obtain ⟨text, -, rfl⟩ := List.mem_map.1 mem
    cases unfit

theorem names_eq_error_iff {found : List Value} {failure : Failure} :
    names found = .error failure ↔ Unshowable found failure := by
  constructor
  · intro failed
    by_cases kinds : ∀ name ∈ found, textOf name ≠ .error .wrongKind
    · rw [names_eq_of_no_wrong_kind kinds] at failed
      obtain ⟨name, mem, unread⟩ := of_mapM_textOf_error failed
      rcases textOf_cases name with ⟨text, rfl, read⟩ | ⟨points, rfl, read⟩ | ⟨read, -⟩
      · rw [read] at unread
        cases unread
      · rw [read] at unread
        cases unread
        exact .half kinds mem
      · exact absurd read (kinds name mem)
    · simp only [not_forall, not_not] at kinds
      obtain ⟨name, mem, unfit⟩ := kinds
      rw [names_eq_of_wrong_kind mem unfit] at failed
      cases failed
      exact .kind mem unfit
  · intro unshowable
    cases unshowable with
    | kind mem unfit => exact names_eq_of_wrong_kind mem unfit
    | @half points kinds mem =>
      rw [names_eq_of_no_wrong_kind kinds]
      cases outcome : found.mapM textOf with
      | ok shown =>
        obtain ⟨text, -, same⟩ := List.mem_map.1 (mapM_textOf_eq_ok_iff.1 outcome ▸ mem)
        cases same
      | error failure =>
        obtain ⟨name, mem, unread⟩ := of_mapM_textOf_error outcome
        rcases textOf_cases name with ⟨text, rfl, read⟩ | ⟨points, rfl, read⟩ | ⟨read, -⟩
        · rw [read] at unread
          cases unread
        · rw [read] at unread
          cases unread
          rfl
        · exact absurd read (kinds name mem)

end TestImpact.Dependency
