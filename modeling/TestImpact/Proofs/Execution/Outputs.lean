import TestImpact.Execution.Outputs
import TestImpact.Proofs.Path.Lexical

/-!
# The paths of reports

The reports of a test file are its `Outputs.paths`. Each lies directly inside one of the two
directories of reports (`ReportPlace.mem_paths`), under a name that is one segment of a path. Names
are taken here with any `Digest`, for only the number and the kind of its signs matter.
-/

namespace TestImpact

/-- The report files of a test file. -/
def Outputs.paths (outputs : Outputs) : List Path :=
  outputs.junit :: outputs.clover.toList

theorem Outputs.texts_congr {outputs : Outputs} {files others : FileSystem}
    (same : ∀ path ∈ outputs.paths, files.readText path = others.readText path) :
    outputs.texts files = outputs.texts others := by
  have text : ∀ path ∈ outputs.paths, Outputs.text files path = Outputs.text others path := by
    intro path mem
    unfold Outputs.text
    rw [same path mem]
  unfold Outputs.texts
  rw [text outputs.junit List.mem_cons_self]
  cases clover : outputs.clover with
  | none => rfl
  | some path =>
    rw [Option.mapM_some, Option.mapM_some, text path (by simp [Outputs.paths, clover])]

theorem Outputs.clover_of_texts {outputs : Outputs} {files : FileSystem} {junit : String}
    {clover : Option String} (unwritten : outputs.clover = none)
    (read : outputs.texts files = .ok (junit, clover)) : clover = none := by
  unfold texts at read
  rw [unwritten, Option.mapM_none, pure_bind] at read
  cases first : text files outputs.junit with
  | error failure =>
    rw [first] at read
    cases read
  | ok said =>
    rw [first] at read
    cases read
    rfl

/-! ## Digests -/

/-- A digest of texts, in thirty-two hexadecimal digits. -/
structure Digest where
  digits : String → List Char
  length_digits (text : String) : (digits text).length = 32
  isDigit_digits {text : String} {c : Char} (mem : c ∈ digits text) : Hex.isDigit c = true

theorem Md5.isDigit_of_mem_hex {text : List UInt8} {c : Char} (mem : c ∈ hex text) :
    Hex.isDigit c = true := by
  unfold hex Hex.write at mem
  obtain ⟨byte, -, mem⟩ := List.mem_flatMap.1 mem
  have small := byte.toNat_lt
  have half : ∀ n < 16, Hex.isDigit (Nat.digitChar n) = true := by
    intro n fits
    rw [Hex.isDigit, Hex.value?_digitChar fits]
    rfl
  simp only [Hex.byte, List.mem_cons, List.not_mem_nil, or_false] at mem
  rcases mem with rfl | rfl
  · exact half _ (by omega)
  · exact half _ (by omega)

/-- The digest that reports are named by. -/
def Digest.md5 : Digest where
  digits text := Md5.hex (Utf8.encode text)
  length_digits _ := Md5.length_hex _
  isDigit_digits mem := Md5.isDigit_of_mem_hex mem

/-! ## Names of reports -/

namespace ReportPlace

/-- The name of the file of a report, with a digest of any kind. -/
def fileNameWith (digest : Digest) (testPath : String) : String :=
  String.ofList (stem (lastSegment testPath) ++
    '-' :: (digest.digits testPath).take digestLength) ++ ".xml"

theorem toList_fileNameWith (digest : Digest) (testPath : String) :
    (fileNameWith digest testPath).toList = stem (lastSegment testPath) ++
      ('-' :: (digest.digits testPath).take digestLength ++ ".xml".toList) := by
  rw [fileNameWith, String.toList_append, String.toList_ofList, List.append_assoc]

theorem mem_of_mem_stem {name : List Char} {c : Char} (mem : c ∈ stem name) : c ∈ name := by
  unfold stem at mem
  simp only at mem
  split at mem
  · exact mem
  · rcases List.mem_append.1 mem with dot | behind
    · exact (List.takeWhile_sublist _).mem dot
    · exact List.mem_of_mem_drop (List.mem_of_mem_take behind)

theorem notMem_lastSegment (testPath : String) :
    '/' ∉ lastSegment testPath ∧ '\\' ∉ lastSegment testPath := by
  unfold lastSegment
  constructor
  · intro mem
    have differs := List.all_eq_true.1 List.all_takeWhile _ (List.mem_reverse.1 mem)
    simp at differs
  · intro mem
    have among := (List.takeWhile_sublist _).mem (List.mem_reverse.1 mem)
    exact Lexical.notMem_slashed testPath (List.mem_reverse.1 among)

theorem notMem_fileNameWith {digest : Digest} {c : Char} {testPath : String}
    (free : c ∉ lastSegment testPath) (other : Hex.isDigit c = false) (dash : c ≠ '-')
    (ending : c ∉ ".xml".toList) : c ∉ (fileNameWith digest testPath).toList := by
  rw [toList_fileNameWith]
  intro mem
  rcases List.mem_append.1 mem with front | behind
  · exact free (mem_of_mem_stem front)
  · rcases List.mem_append.1 behind with mark | last
    · rcases List.mem_cons.1 mark with same | digit
      · exact dash same
      · rw [digest.isDigit_digits (List.mem_of_mem_take digit)] at other
        cases other
    · exact ending last

/-- The name of the file of a report is one segment of a path, however the path is spelled. -/
theorem isFileName_fileNameWith (digest : Digest) (testPath : String) :
    Lexical.IsFileName (fileNameWith digest testPath) := by
  obtain ⟨slash, backslash⟩ := notMem_lastSegment testPath
  have chars := toList_fileNameWith digest testPath
  have long : ∀ text : String, text.toList.length < 4 → fileNameWith digest testPath ≠ text := by
    rintro text short rfl
    rw [chars, List.length_append, List.length_append] at short
    have ending : ".xml".toList.length = 4 := rfl
    omega
  refine ⟨⟨long _ (by decide), long _ (by decide), ?_⟩, long _ (by decide), ?_, ?_⟩
  · exact notMem_fileNameWith slash (by decide) (by decide) (by decide)
  · exact notMem_fileNameWith backslash (by decide) (by decide) (by decide)
  · rw [chars]
    exact List.mem_append_right _ (List.mem_append_right _ (by decide))

theorem isFileName_fileName (testPath : String) : Lexical.IsFileName (fileName testPath) :=
  isFileName_fileNameWith .md5 testPath

/-! ## Reports of one name -/

/-- The reports of one name. -/
def named (place : ReportPlace) (name : String) : Outputs :=
  { junit := place.junitDirectory.child name
    clover := if place.coverage then some (place.cloverDirectory.child name) else none }

/-- The reports of a test file, named with a digest of any kind. -/
def outputsWith (digest : Digest) (place : ReportPlace) (testPath : String) : Outputs :=
  { junit := place.junitDirectory / Path.ofString (fileNameWith digest testPath)
    clover := if place.coverage
      then some (place.cloverDirectory / Path.ofString (fileNameWith digest testPath))
      else none }

/-- Makes room for the reports of a test file, named with a digest of any kind. -/
def allocateWith (digest : Digest) (place : ReportPlace) (testPath : String) : Action Outputs := do
  let outputs := place.outputsWith digest testPath
  clear place.junitDirectory outputs.junit
  if let some clover := outputs.clover then clear place.cloverDirectory clover
  pure outputs

theorem outputsWith_md5 (place : ReportPlace) (testPath : String) :
    place.outputs testPath = place.outputsWith .md5 testPath :=
  rfl

theorem allocateWith_md5 (place : ReportPlace) (testPath : String) :
    place.allocate testPath = place.allocateWith .md5 testPath :=
  rfl

theorem outputsWith_eq (digest : Digest) (place : ReportPlace) (testPath : String) :
    place.outputsWith digest testPath = place.named (fileNameWith digest testPath) := by
  have segment := (isFileName_fileNameWith digest testPath).segment
  rw [outputsWith, Path.div_of_isSegment _ segment, Path.div_of_isSegment _ segment, named]

theorem outputs_eq (place : ReportPlace) (testPath : String) :
    place.outputs testPath = place.named (fileName testPath) := by
  rw [outputsWith_md5, outputsWith_eq]
  rfl

variable {place : ReportPlace} {name testPath : String} {path : Path}

theorem eq_of_clover_named (found : (place.named name).clover = some path) :
    path = place.cloverDirectory.child name := by
  unfold named at found
  split at found
  · exact (Option.some.inj found).symm
  · cases found

theorem eq_of_clover (found : (place.outputs testPath).clover = some path) :
    path = place.cloverDirectory.child (fileName testPath) := by
  rw [outputs_eq] at found
  exact eq_of_clover_named found

/-- A report lies directly inside one of the two directories. -/
theorem mem_paths (mem : path ∈ (place.outputs testPath).paths) :
    path = place.junitDirectory.child (fileName testPath) ∨
      (place.outputs testPath).clover = some path ∧
        path = place.cloverDirectory.child (fileName testPath) := by
  rw [outputs_eq] at mem ⊢
  rcases List.mem_cons.1 mem with same | other
  · exact Or.inl same
  · have found := Option.mem_toList.1 other
    exact Or.inr ⟨found, eq_of_clover_named found⟩

end ReportPlace

end TestImpact
