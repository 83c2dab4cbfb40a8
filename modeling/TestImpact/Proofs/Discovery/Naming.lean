import TestImpact.Discovery.Convention
import TestImpact.Proofs.Path.Lexical

/-!
# Names of tests

Under an ordinary convention (`Convention.Plain`) a source file and its test have names of
files, in the same directory: the counterpart of a path is the path with another last segment
(`counterpart_toString`), and that segment is a name again (`isFileName_testName`).
-/

namespace TestImpact

open Lexical (IsFileName)

/-! ## Capitals -/

namespace Text

/-- The characters that stand between the names of a path. -/
def IsSeparator (c : Char) : Prop :=
  c = '/' ∨ c = '\\'

instance (c : Char) : Decidable (IsSeparator c) :=
  inferInstanceAs (Decidable (c = '/' ∨ c = '\\'))

/-- The codes of the separators. -/
def separatorCodes : List Nat := [0x2f, 0x5c]

theorem mem_separatorCodes_of_ofNat {n : Nat} (separator : IsSeparator (Char.ofNat n)) :
    n ∈ separatorCodes := by
  by_cases valid : n.isValidChar
  · have code : (Char.ofNat n).toNat = n := by
      rw [Char.ofNat, dif_pos valid]
      rfl
    rcases separator with same | same <;> rw [same] at code <;> subst code <;> decide
  · have none : Char.ofNat n = Char.ofNat 0 := by
      rw [Char.ofNat, dif_neg valid]
      rfl
    rw [none] at separator
    exact absurd separator (by decide)

theorem disjoint_capitalSequences :
    ∀ entry ∈ capitalSequences, ∀ n ∈ entry.2, n ∉ separatorCodes := by
  decide

/-- Does a run of letters lead past a code? -/
def LetterRun.Misses (run : LetterRun) (n : Nat) : Prop :=
  (run.last : Int) + run.distance < n ∨ (n : Int) < run.first + run.distance

instance (run : LetterRun) (n : Nat) : Decidable (run.Misses n) :=
  inferInstanceAs (Decidable (_ ∨ _))

theorem capitalRuns_miss : ∀ run ∈ capitalRuns, ∀ n ∈ separatorCodes, run.Misses n := by
  decide +kernel

theorem not_isSeparator_partner {run : LetterRun} {c : Char} (listed : run ∈ capitalRuns)
    (holds : run.holds c.toNat = true) : ¬ IsSeparator (run.partner c) := by
  intro separator
  have code := mem_separatorCodes_of_ofNat separator
  have positive : ∀ n ∈ separatorCodes, 0 < n := by decide
  have missed := capitalRuns_miss run listed _ code
  have some_code := positive _ code
  simp only [LetterRun.holds, Bool.and_eq_true, decide_eq_true_eq] at holds
  unfold LetterRun.Misses at missed
  omega

/-- No separator comes from another character. -/
theorem eq_of_mem_capitals {c sep : Char} (separator : IsSeparator sep) (mem : sep ∈ capitals c) :
    sep = c := by
  unfold capitals at mem
  split at mem
  next sequence found =>
    obtain ⟨n, listed, rfl⟩ := List.mem_map.1 mem
    obtain ⟨before, after, entries, -⟩ := List.lookup_eq_some_iff.1 found
    have entry : (c.toNat, sequence) ∈ capitalSequences := by
      rw [entries]
      exact List.mem_append_right _ List.mem_cons_self
    exact absurd (mem_separatorCodes_of_ofNat separator)
      (disjoint_capitalSequences _ entry n listed)
  next =>
    split at mem
    next run found =>
      obtain rfl := List.mem_singleton.1 mem
      have holds : run.holds c.toNat = true := by simpa using List.find?_some found
      exact absurd separator
        (not_isSeparator_partner (List.mem_of_find?_eq_some found) holds)
    next => exact List.mem_singleton.1 mem

theorem mem_of_mem_capitalised {sep : Char} {text : List Char} (separator : IsSeparator sep)
    (mem : sep ∈ capitalised text) : sep ∈ text := by
  cases text with
  | nil => exact mem
  | cons c rest =>
    rcases List.mem_append.1 mem with first | later
    · exact eq_of_mem_capitals separator first ▸ List.mem_cons_self
    · exact List.mem_cons_of_mem _ later

theorem capitalSequences_ne_nil : ∀ entry ∈ capitalSequences, entry.2 ≠ [] := by
  decide

theorem capitals_ne_nil (c : Char) : capitals c ≠ [] := by
  unfold capitals
  split
  next sequence found =>
    obtain ⟨before, after, entries, -⟩ := List.lookup_eq_some_iff.1 found
    have entry : (c.toNat, sequence) ∈ capitalSequences := by
      rw [entries]
      exact List.mem_append_right _ List.mem_cons_self
    exact fun none => capitalSequences_ne_nil _ entry (List.map_eq_nil_iff.1 none)
  next => split <;> exact List.cons_ne_nil _ _

theorem length_le_capitalised (text : List Char) : text.length ≤ (capitalised text).length := by
  cases text with
  | nil => exact Nat.le_refl _
  | cons c rest =>
    have some_capital := List.length_pos_iff.2 (capitals_ne_nil c)
    rw [capitalised, List.length_append, List.length_cons]
    omega

end Text

namespace Convention

/-- A convention as it is meant: the suffix begins with a dot and is not made of dots, and
neither the suffix nor the marker holds a separator. -/
structure Plain (convention : Convention) : Prop where
  dotted : convention.sourceSuffix.toList.head? = some '.'
  named : ∃ c ∈ convention.sourceSuffix.toList, c ≠ '.'
  suffix_free : ∀ c ∈ convention.sourceSuffix.toList, ¬ Text.IsSeparator c
  marker_free : ∀ c ∈ convention.testMarker.toList, ¬ Text.IsSeparator c

variable {convention : Convention}

theorem endsWith_iff {text suffix : String} :
    endsWith text suffix = true ↔ suffix.toList <:+ text.toList :=
  List.isSuffixOf_iff_suffix

theorem Plain.testSuffix_free (plain : convention.Plain) :
    ∀ c ∈ convention.testSuffix.toList, ¬ Text.IsSeparator c := by
  intro c mem
  rw [testSuffix, String.toList_append] at mem
  rcases List.mem_append.1 mem with mem | mem
  · exact plain.marker_free c mem
  · exact plain.suffix_free c mem

theorem sourceSuffix_suffix (convention : Convention) :
    convention.sourceSuffix.toList <:+ convention.testSuffix.toList := by
  rw [testSuffix, String.toList_append]
  exact List.suffix_append _ _

theorem testSuffix_suffix (convention : Convention) (kind : String) :
    convention.testSuffix.toList <:+ (convention.testSuffixOf kind).toList := by
  rw [testSuffixOf, String.toList_append]
  exact List.suffix_append _ _

theorem Plain.testSuffix_named (plain : convention.Plain) :
    ∃ c ∈ convention.testSuffix.toList, c ≠ '.' := by
  obtain ⟨c, mem, differs⟩ := plain.named
  exact ⟨c, (sourceSuffix_suffix convention).subset mem, differs⟩

/-- What ends with the suffix and holds no separator is a name. -/
theorem Plain.isFileName (plain : convention.Plain) {text : List Char}
    (ends : convention.sourceSuffix.toList <:+ text)
    (free : ∀ c ∈ text, ¬ Text.IsSeparator c) : IsFileName (String.ofList text) := by
  have dotted : '.' ∈ text := ends.subset (List.mem_of_mem_head? plain.dotted)
  obtain ⟨c, mem, differs⟩ := plain.named
  have named : ∀ dots : List Char, (∀ d ∈ dots, d = '.') → text ≠ dots := by
    rintro dots all rfl
    exact differs (all c (ends.subset mem))
  have other : ∀ dots : String, (∀ d ∈ dots.toList, d = '.') → String.ofList text ≠ dots := by
    intro dots all same
    exact named dots.toList all (by rw [← same, String.toList_ofList])
  refine ⟨⟨other "" (by simp), other "." (by simp), ?_⟩, other ".." (by simp), ?_, ?_⟩
  · rw [String.toList_ofList]
    exact fun slash => free '/' slash (Or.inl rfl)
  · rw [String.toList_ofList]
    exact fun backslash => free '\\' backslash (Or.inr rfl)
  · rwa [String.toList_ofList]

/-! ## Names of source files -/

theorem testName_of_suffix (stem : List Char) (nonempty : convention.sourceSuffix ≠ "") :
    convention.testName (stem ++ convention.sourceSuffix.toList) =
      Text.capitalised stem ++ convention.testSuffix.toList := by
  have some_suffix : convention.sourceSuffix.toList ≠ [] :=
    fun none => nonempty (String.toList_eq_nil_iff.1 none)
  have ends : convention.sourceSuffix.toList.isSuffixOf
      (stem ++ convention.sourceSuffix.toList) = true :=
    List.isSuffixOf_iff_suffix.2 (List.suffix_append _ _)
  simp [testName, withoutSuffix, ends, some_suffix]

theorem Plain.ne_empty (plain : convention.Plain) : convention.sourceSuffix ≠ "" := by
  intro empty
  have dotted := plain.dotted
  rw [empty] at dotted
  cases dotted

/-- The test of a source file has a name again, which ends as tests do. -/
theorem Plain.testName (plain : convention.Plain) {name : List Char}
    (ends : convention.sourceSuffix.toList <:+ name) (free : ∀ c ∈ name, ¬ Text.IsSeparator c) :
    convention.testSuffix.toList <:+ convention.testName name ∧
      ∀ c ∈ convention.testName name, ¬ Text.IsSeparator c := by
  obtain ⟨stem, rfl⟩ := ends
  rw [testName_of_suffix stem plain.ne_empty]
  refine ⟨List.suffix_append _ _, fun c mem separator => ?_⟩
  rcases List.mem_append.1 mem with mem | mem
  · exact free c (List.mem_append_left _ (Text.mem_of_mem_capitalised separator mem)) separator
  · exact plain.testSuffix_free c mem separator

/-- With a marker the test of a source file has another name than the file. -/
theorem testName_ne {name : List Char} (marked : convention.testMarker ≠ "")
    (nonempty : convention.sourceSuffix ≠ "") (ends : convention.sourceSuffix.toList <:+ name) :
    convention.testName name ≠ name := by
  obtain ⟨stem, rfl⟩ := ends
  rw [testName_of_suffix stem nonempty]
  intro same
  have lengths := congrArg List.length same
  have longer := Text.length_le_capitalised stem
  have some_marker : 0 < convention.testMarker.toList.length :=
    List.length_pos_iff.2 fun none => marked (String.toList_eq_nil_iff.1 none)
  rw [testSuffix, String.toList_append] at lengths
  simp only [List.length_append] at lengths
  omega

/-! ## Counterparts -/

theorem cutName_of_notMem {name : List Char} (free : '/' ∉ name) : cutName name = ([], name) := by
  have whole : (name.reverse ++ []).takeWhile (· ≠ '/') = name.reverse := by
    rw [List.takeWhile_append_of_pos, List.takeWhile_nil, List.append_nil]
    intro c mem
    exact decide_eq_true fun same => free (same ▸ List.mem_reverse.1 mem)
  rw [List.append_nil] at whole
  simp only [cutName, whole, List.reverse_reverse, Nat.sub_self, List.take_zero]
  rfl

theorem cutName_append_slash (left : List Char) {name : List Char} (free : '/' ∉ name) :
    cutName (left ++ '/' :: name) =
      (if (Text.dropTrailing '/' left).isEmpty then left ++ ['/'] else Text.dropTrailing '/' left,
        name) := by
  have whole : (left ++ '/' :: name).reverse.takeWhile (· ≠ '/') = name.reverse := by
    rw [List.reverse_append, List.reverse_cons, List.append_assoc, List.takeWhile_append_of_pos]
    · simp
    · intro c mem
      exact decide_eq_true fun same => free (same ▸ List.mem_reverse.1 mem)
  have front : left ++ '/' :: name = (left ++ ['/']) ++ name := by simp
  have head : (left ++ '/' :: name).take ((left ++ '/' :: name).length - name.length) =
      left ++ ['/'] := by
    rw [front, List.length_append, Nat.add_sub_cancel, List.take_left']
    rfl
  simp only [cutName, whole, List.reverse_reverse, head, Text.dropTrailing_concat]

/-- The test of a path that is given from the root is given from the root. -/
theorem head?_counterpart (convention : Convention) {path : String}
    (slash : path.toList.head? = some '/') :
    (convention.counterpart path).toList.head? = some '/' := by
  obtain ⟨left, name, chars, free⟩ := Text.exists_last_sep (List.mem_of_mem_head? slash)
  rw [chars] at slash
  have begins : (if (Text.dropTrailing '/' left).isEmpty then left ++ ['/']
      else Text.dropTrailing '/' left).head? = some '/' := by
    obtain ⟨count, whole⟩ := Text.exists_dropTrailing_append '/' left
    split
    next =>
      cases left with
      | nil => rfl
      | cons c rest => exact slash
    next some_left =>
      generalize Text.dropTrailing '/' left = front at whole some_left
      cases front with
      | nil => exact absurd rfl some_left
      | cons c rest =>
        rw [whole] at slash
        exact slash
  rw [counterpart, chars, cutName_append_slash _ free]
  simp only [String.toList_ofList]
  generalize (if (Text.dropTrailing '/' left).isEmpty then left ++ ['/']
    else Text.dropTrailing '/' left) = directory at begins
  cases directory with
  | nil => cases begins
  | cons c rest =>
    unfold joinName
    split
    next whole => simpa using whole
    next => split <;> exact begins

/-- A path ends with a suffix of names if its last name does. -/
theorem endsWith_toString {anchor : Anchor} {above : List String} {name suffix : String}
    (proper : ∀ part ∈ above, Path.IsSegment part) (free : '/' ∉ suffix.toList) :
    endsWith (⟨anchor, above ++ [name]⟩ : Path).toString suffix = endsWith name suffix := by
  by_cases bare : anchor = .relative ∧ above = []
  · obtain ⟨rfl, rfl⟩ := bare
    rw [Path.toString_of_parts (List.cons_ne_nil _ _), List.nil_append,
      String.intercalate_singleton, Anchor.text, String.empty_append]
  · obtain ⟨left, -, written⟩ := Lexical.exists_toString_append_slash proper bare
    have cut : (left ++ "/" ++ name).toList = left.toList ++ '/' :: name.toList := by simp
    rw [written, Bool.eq_iff_iff, endsWith_iff, endsWith_iff, cut, Text.suffix_append_sep_iff free]

/-- The test of a path is the path with another last segment. -/
theorem counterpart_toString (convention : Convention) {anchor : Anchor} {above : List String}
    {name : String} (proper : ∀ part ∈ above, Path.IsSegment part) (free : '/' ∉ name.toList)
    (begins : (convention.testName name.toList).head? ≠ some '/') :
    convention.counterpart (⟨anchor, above ++ [name]⟩ : Path).toString =
      (⟨anchor, above ++ [String.ofList (convention.testName name.toList)]⟩ : Path).toString := by
  by_cases bare : anchor = .relative ∧ above = []
  · obtain ⟨rfl, rfl⟩ := bare
    rw [Path.toString_of_parts (List.cons_ne_nil _ _), Path.toString_of_parts (List.cons_ne_nil _ _)]
    simp only [List.nil_append, String.intercalate_singleton, Anchor.text, String.empty_append]
    rw [counterpart, cutName_of_notMem free]
    rfl
  · obtain ⟨left, slashes, written⟩ := Lexical.exists_toString_append_slash proper bare
    have chars : (left ++ "/" ++ name).toList = left.toList ++ '/' :: name.toList := by simp
    have joined : joinName (if (Text.dropTrailing '/' left.toList).isEmpty
        then left.toList ++ ['/'] else Text.dropTrailing '/' left.toList)
        (convention.testName name.toList) =
        left.toList ++ '/' :: convention.testName name.toList := by
      rcases slashes with rfl | last
      · simp [Text.dropTrailing, joinName, begins]
      · rw [Text.dropTrailing_of_getLast? last]
        by_cases empty : left.toList = []
        · simp [empty, joinName, begins]
        · simp [empty, joinName, begins, last]
    rw [written, written, counterpart, chars, cutName_append_slash _ free]
    simp only [joined]
    rw [← String.toList_inj]
    simp

end Convention

end TestImpact
