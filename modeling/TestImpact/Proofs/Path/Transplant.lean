import TestImpact.Proofs.Path.Lexical

/-!
# Moving a path and moving it back

From a working directory that is given from the root every spelling without a drive letter leads to
a place below the root (`resolved_of_driveless`), and what is put behind a directory keeps its names
there (`names_behind`). So a path that is moved to another root lies there where it lay before, and
moving it back leads to the same place (`transplants_exactly`).
-/

namespace TestImpact.Lexical

open TestImpact.Path (IsSegment segments)

variable {cwd path directory text : String}

/-! ## Spellings without a drive letter -/

theorem mem_of_mem_withoutTrailingSlashes {c : Char}
    (mem : c ∈ (withoutTrailingSlashes directory).toList) : c ∈ directory.toList := by
  obtain ⟨count, whole⟩ := exists_withoutTrailingSlashes_append directory
  rw [whole, String.toList_append]
  exact List.mem_append_left _ mem

theorem notMem_anchored (plain : '\\' ∉ cwd.toList) (free : '\\' ∉ text.toList) :
    '\\' ∉ (anchored cwd text).toList := by
  rw [anchored]
  split
  · exact free
  · have above : '\\' ∉ (withoutTrailingSlashes cwd).toList :=
      fun mem => plain (mem_of_mem_withoutTrailingSlashes mem)
    simp [above, free]

theorem toString_root (parts : List String) :
    (⟨.root, parts⟩ : Path).toString = "/" ++ "/".intercalate parts :=
  Path.toString_of_isAbsolute rfl

theorem names_of_driveless (slash : cwd.toList.head? = some '/') (plain : '\\' ∉ cwd.toList)
    (driveless : hasDrive (slashed path) = false) :
    names cwd path = collapse true (segments (anchored cwd (slashed path))) := by
  have parts : (placeOf cwd (slashed path)).parts =
      collapse true (segments (anchored cwd (slashed path))) := by
    rw [placeOf_of_driveless slash driveless]
  rw [names_eq, parts]
  exact flatMap_segments_slashed
    (proper_collapse fun _ mem => Path.isSegment_of_mem_segments mem)
    fun _ mem => notMem_of_mem_segments (notMem_anchored plain (notMem_slashed path))
      (mem_of_mem_collapse mem)

/-- The normalised absolute form of a spelling is made of its names. -/
theorem resolved_of_driveless (slash : cwd.toList.head? = some '/') (plain : '\\' ∉ cwd.toList)
    (driveless : hasDrive (slashed path) = false) :
    resolved cwd path = "/" ++ "/".intercalate (names cwd path) := by
  rw [resolved, absolute_eq, placeOf_of_driveless slash driveless,
    ← names_of_driveless slash plain driveless, toString_root]

theorem parentSegment_notMem_names_of_driveless (slash : cwd.toList.head? = some '/')
    (plain : '\\' ∉ cwd.toList) (driveless : hasDrive (slashed path) = false) :
    parentSegment ∉ names cwd path := by
  rw [names_of_driveless slash plain driveless]
  exact parentSegment_notMem_collapse _

/-! ## What stands behind a directory -/

theorem slashed_slashes (count : Nat) :
    slashed (String.ofList (List.replicate count '/')) =
      String.ofList (List.replicate count '/') := by
  refine slashed_of_notMem fun mem => ?_
  rw [String.toList_ofList] at mem
  cases List.eq_of_mem_replicate mem

theorem hasDrive_iff : hasDrive path = true ↔ ∃ letter rest, path.toList = letter :: ':' :: rest ∧
    letter.isAlpha = true ∧ (rest = [] ∨ rest = ['\n'] ∨ rest.head? = some '/') := by
  unfold hasDrive
  split
  next letter rest chars => simp [chars, or_assoc, List.isEmpty_iff]
  next other =>
    refine iff_of_false Bool.false_ne_true ?_
    rintro ⟨letter, rest, chars, -⟩
    exact other letter rest chars

/-- What is a drive letter in front of a slash is one in front of any number of them. -/
theorem hasDrive_of_append_slash {front : String} (drive : hasDrive (front ++ "/" ++ text) = true)
    (count : Nat) : hasDrive (front ++ String.ofList (List.replicate count '/')) = true := by
  obtain ⟨letter, rest, chars, alpha, ends⟩ := hasDrive_iff.1 drive
  have behind : (front ++ "/" ++ text).toList = front.toList ++ '/' :: text.toList := by
    simp
  rw [behind] at chars
  rw [hasDrive_iff, String.toList_append, String.toList_ofList]
  clear behind
  generalize front.toList = before at chars ⊢
  rcases before with _ | ⟨first, _ | ⟨second, more⟩⟩
  · obtain ⟨rfl, -⟩ := List.cons.inj chars
    exact absurd alpha (by decide)
  · cases chars
  · simp only [List.cons_append, List.cons.injEq] at chars
    obtain ⟨rfl, rfl, rfl⟩ := chars
    refine ⟨first, more ++ List.replicate count '/', rfl, alpha, ?_⟩
    cases more with
    | nil => cases count <;> simp [List.replicate_succ]
    | cons c more =>
      have slash : c = '/' := by simpa using ends
      exact Or.inr (Or.inr (congrArg some slash))

/-- What is put behind a directory without a drive letter has none. -/
theorem hasDrive_behind (driveless : hasDrive (slashed directory) = false) (text : String) :
    hasDrive (slashed (withoutTrailingSlashes directory ++ "/" ++ text)) = false := by
  obtain ⟨count, whole⟩ := exists_withoutTrailingSlashes_append directory
  rw [Bool.eq_false_iff]
  intro drive
  rw [slashed_append, slashed_append, slashed_slash] at drive
  have drive' := hasDrive_of_append_slash drive count
  rw [← slashed_slashes, ← slashed_append, ← whole, driveless] at drive'
  cases drive'

theorem isRooted_of_driveless (driveless : hasDrive path = false) :
    isRooted path = true ↔ path.toList.head? = some '/' := by
  simp [isRooted, driveless]

/-- What is put behind a directory begins as the directory does. -/
theorem head?_slashed_behind (named : directory ≠ "") (text : String) :
    (slashed (withoutTrailingSlashes directory ++ "/" ++ text)).toList.head? =
      (slashed directory).toList.head? := by
  obtain ⟨count, whole⟩ := exists_withoutTrailingSlashes_append directory
  conv_rhs => rw [whole]
  simp only [toList_slashed, List.head?_map, String.toList_append, String.toList_ofList]
  cases chars : (withoutTrailingSlashes directory).toList with
  | cons c rest => rfl
  | nil =>
    cases count with
    | succ count => simp [List.replicate_succ]
    | zero =>
      rw [String.toList_eq_nil_iff.1 chars] at whole
      exact absurd (whole.trans (by simp)) named

theorem segments_slashed_behind (directory text : String) :
    segments (slashed (withoutTrailingSlashes directory ++ "/" ++ text)) =
      segments (slashed directory) ++ segments (slashed text) := by
  obtain ⟨count, whole⟩ := exists_withoutTrailingSlashes_append directory
  conv_rhs => rw [whole]
  rw [slashed_append, slashed_append, slashed_slash, Path.segments_append_slash, slashed_append,
    slashed_slashes, Path.segments_append_slashes]

theorem segments_anchored_behind (named : directory ≠ "")
    (driveless : hasDrive (slashed directory) = false) (cwd text : String) :
    segments (anchored cwd (slashed (withoutTrailingSlashes directory ++ "/" ++ text))) =
      segments (anchored cwd (slashed directory)) ++ segments (slashed text) := by
  have rooted : isRooted (slashed (withoutTrailingSlashes directory ++ "/" ++ text)) = true ↔
      isRooted (slashed directory) = true := by
    rw [isRooted_of_driveless (hasDrive_behind driveless text), isRooted_of_driveless driveless,
      head?_slashed_behind named]
  unfold anchored
  by_cases top : isRooted (slashed directory) = true
  · rw [if_pos top, if_pos (rooted.2 top), segments_slashed_behind]
  · rw [if_neg top, if_neg fun other => top (rooted.1 other), Path.segments_append_slash,
      Path.segments_append_slash, segments_slashed_behind, List.append_assoc]

/-- Names that are put behind a directory are the names of what lies there. -/
theorem names_behind (slash : cwd.toList.head? = some '/') (plain : '\\' ∉ cwd.toList)
    (named : directory ≠ "") (driveless : hasDrive (slashed directory) = false)
    {rest : List String} (proper : ∀ name ∈ rest, IsSegment name)
    (free : ∀ name ∈ rest, '\\' ∉ name.toList) (down : parentSegment ∉ rest) :
    names cwd (withoutTrailingSlashes directory ++ "/" ++ "/".intercalate rest) =
      names cwd directory ++ rest := by
  have segmented := segments_slashed_intercalate proper free
  rw [names_of_driveless slash plain (hasDrive_behind driveless _),
    names_of_driveless slash plain driveless, segments_anchored_behind named driveless, segmented,
    collapse_append true _ down]

/-! ## There and back -/

section

variable {source target moved : String}

/-- A path that is moved keeps its place below the root. -/
theorem of_transplant?_eq_some (slash : cwd.toList.head? = some '/') (plain : '\\' ∉ cwd.toList)
    (driveless : hasDrive (slashed path) = false) (named : target ≠ "")
    (driveless' : hasDrive (slashed target) = false)
    (led : transplant? cwd path source target = some moved) :
    ∃ rest, names cwd path = names cwd source ++ rest ∧ names cwd moved = names cwd target ++ rest ∧
      rest.head? ≠ some parentSegment ∧ hasDrive (slashed moved) = false ∧
      moved = if rest = [] then target
        else withoutTrailingSlashes target ++ "/" ++ "/".intercalate rest := by
  obtain ⟨rest, joined, down⟩ := within_iff.1 (within_of_transplant? led)
  rw [transplant?_eq joined down, Option.some.injEq] at led
  have kept : rest ⊆ names cwd path := joined ▸ List.subset_append_right _ rest
  have single : parentSegment ∉ rest := fun up =>
    parentSegment_notMem_names_of_driveless slash plain driveless (kept up)
  refine ⟨rest, joined, ?_, down, ?_, led.symm⟩
  · rw [← led]
    split
    next none_left => rw [none_left, List.append_nil]
    next =>
      exact names_behind slash plain named driveless'
        (fun _ mem => isSegment_of_mem_names (kept mem))
        (fun _ mem => notMem_of_mem_names (kept mem)) single
  · rw [← led]
    split
    · exact driveless'
    · exact hasDrive_behind driveless' _

theorem transplant?_eq_none_iff :
    transplant? cwd path source target = none ↔ within cwd path source = false := by
  unfold transplant?
  cases within cwd path source <;> simp

end

/-! ## Normalised paths -/

/-- An absolute path that is spelled in its normalised form. -/
structure IsNormal (cwd path : String) : Prop where
  slash : path.toList.head? = some '/'
  same : resolved cwd path = path

theorem hasDrive_of_slash (slash : path.toList.head? = some '/') :
    hasDrive (slashed path) = false := by
  rw [Bool.eq_false_iff]
  intro drive
  obtain ⟨letter, rest, chars, alpha, -⟩ := hasDrive_iff.1 drive
  obtain ⟨more, whole⟩ := List.head?_eq_some_iff.1 slash
  rw [toList_slashed, whole, List.map_cons, if_neg (by decide)] at chars
  obtain ⟨rfl, -⟩ := List.cons.inj chars
  exact absurd alpha (by decide)

/-- A normalised path is made of its names. -/
theorem IsNormal.eq (slash : cwd.toList.head? = some '/') (plain : '\\' ∉ cwd.toList)
    (normal : IsNormal cwd path) : "/" ++ "/".intercalate (names cwd path) = path :=
  (resolved_of_driveless slash plain (hasDrive_of_slash normal.slash)).symm.trans normal.same

theorem withoutTrailingSlashes_append_slash (directory : String) :
    withoutTrailingSlashes (directory ++ "/") = withoutTrailingSlashes directory := by
  rw [withoutTrailingSlashes, String.toList_append]
  exact congrArg String.ofList (Text.dropTrailing_concat '/' directory.toList)

/-- A directory that is made of names has no trailing slashes. -/
theorem withoutTrailingSlashes_intercalate {above : List String}
    (proper : ∀ name ∈ above, IsSegment name) (some_name : above ≠ []) :
    withoutTrailingSlashes ("/" ++ "/".intercalate above) = "/" ++ "/".intercalate above := by
  have ends : ("/" ++ "/".intercalate above).toList.getLast? ≠ some '/' := by
    rw [String.toList_append,
      List.getLast?_append_of_ne_nil _ (Path.toList_intercalate_ne_nil proper some_name)]
    exact Path.getLast?_intercalate_ne_slash proper
  rw [withoutTrailingSlashes, Text.dropTrailing_of_getLast? ends, String.ofList_toList]

theorem withoutTrailingSlashes_root : withoutTrailingSlashes ("/" ++ "/".intercalate []) = "" := by
  decide +kernel

/-- Names behind the text of a directory that is made of names are written behind its own. -/
theorem behind_intercalate {above rest : List String} (proper : ∀ name ∈ above, IsSegment name)
    (some_left : rest ≠ []) :
    withoutTrailingSlashes ("/" ++ "/".intercalate above) ++ "/" ++ "/".intercalate rest =
      "/" ++ "/".intercalate (above ++ rest) := by
  by_cases top : above = []
  · rw [top, withoutTrailingSlashes_root, List.nil_append, String.empty_append]
  · rw [withoutTrailingSlashes_intercalate proper top,
      String.intercalate_append_of_ne_nil top some_left, String.append_assoc,
      String.append_assoc, String.append_assoc]

/-- A slash at the end of a directory that is given from the root changes neither its names nor
what is put behind it. -/
theorem names_append_slash (slash : cwd.toList.head? = some '/') (plain : '\\' ∉ cwd.toList)
    (given : directory.toList.head? = some '/') :
    names cwd (directory ++ "/") = names cwd directory := by
  have given' : (directory ++ "/").toList.head? = some '/' := by
    rw [String.toList_append, List.head?_append, given]
    rfl
  have named : ∀ {text : String}, text.toList.head? = some '/' → text ≠ "" := by
    rintro text first rfl
    cases first
  have nothing : ∀ {text : String}, text.toList.head? = some '/' →
      names cwd (withoutTrailingSlashes text ++ "/" ++ "/".intercalate []) = names cwd text := by
    intro text first
    rw [names_behind slash plain (named first) (hasDrive_of_slash first)
      (List.forall_mem_nil _) (List.forall_mem_nil _) List.not_mem_nil, List.append_nil]
  rw [← nothing given', withoutTrailingSlashes_append_slash, nothing given]

/-- A path that is moved lies below its new root where it lay below the old one, and is moved
exactly if it lies in the old one. Moved back it leads to the same place, and is the same text if
it was a normalised one below a normalised directory. -/
theorem transplants_exactly {source target : String} (slash : cwd.toList.head? = some '/')
    (plain : '\\' ∉ cwd.toList) (driveless : hasDrive (slashed path) = false)
    (driveless_source : hasDrive (slashed source) = false)
    (driveless_target : hasDrive (slashed target) = false) (named_source : source ≠ "")
    (named_target : target ≠ "") :
    (transplant? cwd path source target = none ↔ within cwd path source = false) ∧
    ∀ moved, transplant? cwd path source target = some moved →
      within cwd moved target = true ∧
      below cwd moved target = below cwd path source ∧
      (∃ rest, names cwd path = names cwd source ++ rest ∧
        names cwd moved = names cwd target ++ rest) ∧
      ∃ back, transplant? cwd moved target source = some back ∧
        resolved cwd back = resolved cwd path ∧
        ∀ directory, IsNormal cwd path → IsNormal cwd directory →
          source = directory ∨ source = directory ++ "/" →
          resolved cwd path ≠ resolved cwd source → back = path := by
  refine ⟨transplant?_eq_none_iff, fun moved led => ?_⟩
  obtain ⟨rest, joined, joined', down, driveless_moved, -⟩ :=
    of_transplant?_eq_some slash plain driveless named_target driveless_target led
  -- What was moved lies in the new root with the same rest, so it can be moved back.
  have returns := transplant?_eq joined' down source
  obtain ⟨rest', same, joined_back, -, driveless_back, -⟩ :=
    of_transplant?_eq_some slash plain driveless_moved named_source driveless_source returns
  rw [joined', List.append_cancel_left_eq] at same
  subst same
  refine ⟨within_iff.2 ⟨rest, joined', down⟩, ?_, ⟨rest, joined, joined'⟩, _, returns, ?_, ?_⟩
  · rw [below_of_names_eq joined, below_of_names_eq joined']
  · rw [resolved_of_driveless slash plain driveless_back,
      resolved_of_driveless slash plain driveless, joined_back, joined]
  · intro directory normal normal_directory spelled apart
    -- With nothing left the result is the root as it is spelled, with its trailing slash.
    have some_left : rest ≠ [] := by
      rintro rfl
      rw [resolved_of_driveless slash plain driveless,
        resolved_of_driveless slash plain driveless_source, joined, List.append_nil] at apart
      exact apart rfl
    have alike : withoutTrailingSlashes source = withoutTrailingSlashes directory ∧
        names cwd source = names cwd directory := by
      rcases spelled with rfl | rfl
      · exact ⟨rfl, rfl⟩
      · exact ⟨withoutTrailingSlashes_append_slash directory,
          names_append_slash slash plain normal_directory.slash⟩
    have written := behind_intercalate
      (fun name (mem : name ∈ names cwd directory) => isSegment_of_mem_names mem) some_left
    rw [normal_directory.eq slash plain] at written
    rw [if_neg some_left, alike.1, written, ← alike.2, ← joined, normal.eq slash plain]

/-- A file is moved to a relative root that is spelled with a dot and backslashes, and back. -/
theorem transplanted_and_back :
    transplant? "/w" "/p/src/a/B.php" "/p/src/" "./t\\u\\" = some "./t\\u\\/a/B.php" ∧
      below "/w" "./t\\u\\/a/B.php" "./t\\u\\" = below "/w" "/p/src/a/B.php" "/p/src/" ∧
      transplant? "/w" "./t\\u\\/a/B.php" "./t\\u\\" "/p/src/" = some "/p/src/a/B.php" := by
  have led : transplant? "/w" "/p/src/a/B.php" "/p/src/" "./t\\u\\" = some "./t\\u\\/a/B.php" := by
    decide +kernel
  have normal : IsNormal "/w" "/p/src/a/B.php" := ⟨by decide +kernel, by decide +kernel⟩
  have normal_source : IsNormal "/w" "/p/src" := ⟨by decide +kernel, by decide +kernel⟩
  obtain ⟨-, moves⟩ := @transplants_exactly "/w" "/p/src/a/B.php" "/p/src/" "./t\\u\\"
    (by decide +kernel) (by decide +kernel) (by decide +kernel) (by decide +kernel)
    (by decide +kernel) (by decide +kernel) (by decide +kernel)
  obtain ⟨-, placed, -, back, returns, -, same⟩ := moves _ led
  have whole := same "/p/src" normal normal_source (Or.inr (by decide +kernel)) (by decide +kernel)
  exact ⟨led, placed, returns.trans (congrArg some whole)⟩

end TestImpact.Lexical
