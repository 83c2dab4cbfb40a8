import TestImpact.FileSystem.Access
import TestImpact.Proofs.Path.Lexical

/-!
# Where paths lead

A walk that fails finds nothing of the kind asked for, or meets a name that is too long
(`fault_of_locate`). Without links a path leads to the place its names spell
(`entry_of_walkNames`), through the directories above it (`walkNames_append`), and the files below
a directory are those that are listed there (`mem_filesBelow_iff`).
-/

namespace TestImpact

/-- A fault that a walk may end with. -/
def Fault.OfWalk (fault : Fault) : Prop :=
  fault.isAbsence = true ∨ fault = .nameTooLong

namespace FileSystem

variable {fs : FileSystem} {here location : Location} {node : Node} {path : Path}

/-! ## Faults -/

theorem fault_of_walkNames {followLast : Bool}
    {enter : Location → List String → Except Fault Target}
    (entered : ∀ here names fault, enter here names = .error fault → Fault.OfWalk fault)
    {names : List String} {fault : Fault}
    (failed : fs.walkNames followLast enter here names = .error fault) : Fault.OfWalk fault := by
  induction names generalizing here with
  | nil =>
    rw [walkNames] at failed
    split at failed <;> cases failed
    exact Or.inl rfl
  | cons name rest ih =>
    rw [walkNames] at failed
    split at failed
    · exact ih failed
    · split at failed
      · cases failed
        exact Or.inr rfl
      · split at failed
        · split at failed <;> cases failed
          exact Or.inl rfl
        · exact ih failed
        · split at failed
          · cases failed
          · exact entered _ _ _ failed
        · split at failed <;> cases failed
          exact Or.inl rfl

theorem fault_of_walk {followLast : Bool} {budget : Nat} {names : List String} {fault : Fault}
    (failed : fs.walk followLast budget here names = .error fault) : Fault.OfWalk fault := by
  induction budget generalizing here names fault with
  | zero =>
    refine fault_of_walkNames (fun _ _ _ same => ?_) failed
    cases same
    exact Or.inl rfl
  | succ budget ih => exact fault_of_walkNames (fun _ _ _ same => ih same) failed

theorem fault_of_locate {followLast : Bool} {fault : Fault}
    (failed : fs.locate followLast path = .error fault) : Fault.OfWalk fault := by
  unfold locate at failed
  dsimp only at failed
  split at failed
  · cases failed
    exact Or.inl rfl
  · split at failed
    · cases failed
      exact Or.inr rfl
    · exact fault_of_walk failed

theorem stat_eq_ok_iff : fs.stat path = .ok node ↔
    ∃ location, fs.locate true path = .ok (.entry location node) := by
  unfold stat
  rcases fs.locate true path with fault | ⟨location, found⟩ | ⟨above, name⟩
  · exact ⟨(nomatch ·), fun found => nomatch found.choose_spec⟩
  · constructor
    · intro same
      cases same
      exact ⟨location, rfl⟩
    · rintro ⟨_, same⟩
      cases same
      rfl
  · exact ⟨(nomatch ·), fun found => nomatch found.choose_spec⟩

theorem ask_eq_true_iff {question : Node → Bool} : fs.ask question path = .ok true ↔
    ∃ location node, fs.locate true path = .ok (.entry location node) ∧ question node = true := by
  have through : fs.ask question path = .ok true ↔
      ∃ node, fs.stat path = .ok node ∧ question node = true := by
    unfold ask
    cases fs.stat path with
    | ok node => simp
    | error fault => by_cases absent : fault.isAbsence = true <;> simp [absent]
  rw [through]
  constructor
  · rintro ⟨node, found, yes⟩
    obtain ⟨location, located⟩ := stat_eq_ok_iff.1 found
    exact ⟨location, node, located, yes⟩
  · rintro ⟨location, node, located, yes⟩
    exact ⟨node, stat_eq_ok_iff.2 ⟨location, located⟩, yes⟩

/-- A question is refused exactly when a name on the way, or the path, is too long. -/
theorem ask_eq_error_iff {question : Node → Bool} {fault : Fault} :
    fs.ask question path = .error fault ↔
      fs.locate true path = .error .nameTooLong ∧ fault = .nameTooLong := by
  unfold ask stat
  cases located : fs.locate true path with
  | error other =>
    rcases fault_of_locate located with absent | rfl
    · have short : other ≠ .nameTooLong := by
        rintro rfl
        cases absent
      simp [bind, Except.bind, absent, short]
    · simp [bind, Except.bind, Fault.isAbsence, eq_comm]
  | ok target => cases target <;> simp [bind, Except.bind, pure, Except.pure, throw, throwThe,
      MonadExceptOf.throw, Fault.isAbsence]

/-- A question is refused only when a name is too long. -/
theorem fault_of_ask {question : Node → Bool} {fault : Fault}
    (failed : fs.ask question path = .error fault) : fault = .nameTooLong :=
  (ask_eq_error_iff.1 failed).2

theorem isDirectory_eq_true_iff : fs.isDirectory path = .ok true ↔
    ∃ location, fs.locate true path = .ok (.entry location .directory) := by
  rw [isDirectory, ask_eq_true_iff]
  constructor
  · rintro ⟨location, node, located, yes⟩
    obtain rfl := of_decide_eq_true yes
    exact ⟨location, located⟩
  · rintro ⟨location, located⟩
    exact ⟨location, _, located, rfl⟩

theorem isFile_eq_true_iff : fs.isFile path = .ok true ↔
    ∃ location content executable,
      fs.locate true path = .ok (.entry location (.file content executable)) := by
  rw [isFile, ask_eq_true_iff]
  constructor
  · rintro ⟨location, node, located, yes⟩
    cases node with
    | file content executable => exact ⟨location, content, executable, located⟩
    | directory => cases yes
    | link target => cases yes
  · rintro ⟨location, content, executable, located⟩
    exact ⟨location, _, located, rfl⟩

theorem stat_of_isFile (existing : fs.isFile path = .ok true) :
    ∃ content executable, fs.stat path = .ok (.file content executable) := by
  obtain ⟨location, content, executable, led⟩ := isFile_eq_true_iff.1 existing
  exact ⟨content, executable, stat_eq_ok_iff.2 ⟨location, led⟩⟩

/-- A file that is there can be read. -/
theorem exists_read (existing : fs.isFile path = .ok true) : ∃ content, fs.read path = .ok content := by
  obtain ⟨content, executable, found⟩ := stat_of_isFile existing
  refine ⟨content, ?_⟩
  rw [read, found]
  rfl

/-! ## Walks without links -/

/-- No entry is a link. -/
def Linkless (fs : FileSystem) : Prop :=
  ∀ location target, fs.node? location ≠ some (.link target)

theorem linkless_of_entries
    (listed : fs.entries.all (fun entry => !entry.2 matches .link _) = true) : fs.Linkless := by
  intro location target found
  by_cases top : location = []
  · rw [top] at found
    cases found
  · have other := List.all_eq_true.1 listed _ (fs.mem_entries_iff.2 ⟨top, found⟩)
    cases other

/-- The place that names lead to, if everything on the way is a directory. -/
def follow (here : Location) (names : List String) : Location :=
  names.foldl (fun here name => if name = ".." then here.dropLast else here ++ [name]) here

theorem node?_dropLast (found : fs.node? here = some .directory) :
    fs.node? here.dropLast = some .directory := by
  by_cases top : here = []
  · rw [top]
    rfl
  · obtain ⟨above, name, rfl, -, home⟩ := fs.placed _ (fs.mem_entries_iff.2 ⟨top, found⟩)
    rw [List.dropLast_concat]
    rcases home with rfl | listed
    · rfl
    · exact (fs.mem_entries_iff.1 listed).2

theorem entry_of_walkNames {followLast : Bool}
    {enter : Location → List String → Except Fault Target}
    (linkless : fs.Linkless) {names : List String} (start : fs.node? here = some .directory)
    (led : fs.walkNames followLast enter here names = .ok (.entry location node)) :
    location = follow here names ∧ fs.node? location = some node := by
  induction names generalizing here with
  | nil =>
    rw [walkNames, start] at led
    cases led
    exact ⟨rfl, start⟩
  | cons name rest ih =>
    rw [walkNames] at led
    rw [follow, List.foldl_cons]
    split at led
    next up =>
      rw [if_pos up]
      exact ih (node?_dropLast start) led
    next down =>
      rw [if_neg down]
      split at led
      · cases led
      · split at led
        · split at led <;> cases led
        next found => exact ih found led
        next target found => exact absurd found (linkless _ _)
        next other _ _ found =>
          split at led
          next last =>
            cases led
            obtain rfl := List.isEmpty_iff.1 last
            exact ⟨rfl, found⟩
          next => cases led

/-- A walk to an entry leads through the directories above it. -/
theorem walkNames_append {enter : Location → List String → Except Fault Target}
    (linkless : fs.Linkless) {front back : List String} (more : back ≠ [])
    (start : fs.node? here = some .directory)
    (led : fs.walkNames true enter here (front ++ back) = .ok (.entry location node)) :
    fs.walkNames true enter here front = .ok (.entry (follow here front) .directory) := by
  induction front generalizing here with
  | nil => rw [walkNames, start, follow, List.foldl_nil]
  | cons name rest ih =>
    rw [List.cons_append, walkNames] at led
    rw [walkNames, follow, List.foldl_cons]
    have unfinished : (rest ++ back).isEmpty = false := by
      rw [List.isEmpty_eq_false_iff]
      exact List.append_ne_nil_of_right_ne_nil rest more
    split at led
    next up =>
      rw [if_pos up, if_pos up]
      exact ih (node?_dropLast start) led
    next down =>
      rw [if_neg down, if_neg down]
      split at led
      · cases led
      next short =>
        rw [if_neg short]
        split at led
        · rw [unfinished] at led
          cases led
        next found => exact ih found led
        next target found => exact absurd found (linkless _ _)
        next other _ _ found =>
          rw [unfinished] at led
          cases led

/-- Names lead where they do without asking the file system. -/
theorem follow_eq_collapse (names : List String) : follow [] names = Lexical.collapse true names := by
  have stacked : ∀ (names stack : List String), Lexical.parentSegment ∉ stack →
      follow stack.reverse names = (names.foldl (Lexical.push true) stack).reverse := by
    intro names
    induction names with
    | nil => exact fun _ _ => rfl
    | cons name rest ih =>
      intro stack plain
      have pushed : (if name = ".." then stack.reverse.dropLast else stack.reverse ++ [name]) =
          (Lexical.push true stack name).reverse := by
        unfold Lexical.push Lexical.parentSegment
        split
        next up =>
          cases stack with
          | nil => rfl
          | cons top below =>
            rw [List.mem_cons, not_or] at plain
            have down : top ≠ ".." := Ne.symm plain.1
            simp [down]
        next down => exact List.reverse_cons.symm
      rw [follow, List.foldl_cons, List.foldl_cons, pushed]
      exact ih _ (Lexical.parentSegment_notMem_push plain name)
  exact stacked names [] List.not_mem_nil

/-! ## Paths without links -/

theorem byteLength_append (left right : String) :
    byteLength (left ++ right) = byteLength left + byteLength right := by
  have summed : ∀ (chars : List Char) (start : Nat),
      chars.foldl (fun length c => length + c.utf8Size) start =
        start + (chars.map Char.utf8Size).sum := by
    intro chars
    induction chars with
    | nil => exact fun start => rfl
    | cons c rest ih =>
      intro start
      rw [List.foldl_cons, ih, List.map_cons, List.sum_cons, Nat.add_assoc]
  unfold byteLength
  simp only [summed, String.toList_append, List.map_append, List.sum_append, Nat.zero_add]

theorem exists_toString_append {anchor : Anchor} (anchored : anchor ≠ .relative)
    (front back : List String) :
    ∃ rest, (⟨anchor, front ++ back⟩ : Path).toString = (⟨anchor, front⟩ : Path).toString ++ rest := by
  have absolute : ∀ parts, (⟨anchor, parts⟩ : Path).toString =
      anchor.text ++ "/".intercalate parts :=
    fun parts => Path.toString_of_isAbsolute (decide_eq_true anchored)
  rw [absolute, absolute]
  by_cases top : front = []
  · exact ⟨"/".intercalate back, by rw [top]; simp⟩
  · by_cases last : back = []
    · exact ⟨"", by rw [last]; simp⟩
    · refine ⟨"/" ++ "/".intercalate back, ?_⟩
      rw [String.intercalate_append_of_ne_nil top last]
      simp only [String.append_assoc]

/-- Where an absolute path leads, if it leads to anything. -/
theorem entry_of_locate {followLast : Bool} (linkless : fs.Linkless)
    (absolute : path.isAbsolute = true)
    (led : fs.locate followLast path = .ok (.entry location node)) :
    location = Lexical.collapse true path.parts ∧ fs.node? location = some node := by
  unfold locate at led
  dsimp only at led
  split at led
  · cases led
  · split at led
    · cases led
    · rw [start, if_pos absolute] at led
      rw [← follow_eq_collapse]
      exact entry_of_walkNames linkless rfl led

/-- A path that leads to anything leads through the directories above it. -/
theorem locate_front (linkless : fs.Linkless) {anchor : Anchor} {front back : List String}
    (anchored : anchor ≠ .relative) (more : back ≠ [])
    (led : fs.locate true ⟨anchor, front ++ back⟩ = .ok (.entry location node)) :
    fs.locate true ⟨anchor, front⟩ =
      .ok (.entry (Lexical.collapse true front) .directory) := by
  obtain ⟨rest, written⟩ := exists_toString_append anchored front back
  unfold locate at led ⊢
  dsimp only at led ⊢
  rw [written, byteLength_append, String.toList_append] at led
  split at led
  · cases led
  next free =>
    split at led
    · cases led
    next short =>
      have absolute : ∀ parts, (⟨anchor, parts⟩ : Path).isAbsolute = true :=
        fun parts => decide_eq_true anchored
      have free_front :
          ¬ (⟨anchor, front⟩ : Path).toString.toList.contains '\x00' = true := by
        intro inside
        refine free (List.contains_iff_mem.2 ?_)
        exact List.mem_append_left _ (List.contains_iff_mem.1 inside)
      rw [if_neg free_front, if_neg (by omega), start, if_pos (absolute _), ← follow_eq_collapse]
      rw [start, if_pos (absolute _)] at led
      exact walkNames_append linkless more rfl led

/-! ## Files below a directory -/

theorem below?_eq_some_iff {front location rest : Location} :
    below? front location = some rest ↔ location = front ++ rest := by
  induction front generalizing location with
  | nil => simp [below?, eq_comm]
  | cons name more ih =>
    cases location with
    | nil => simp [below?]
    | cons other others =>
      rw [below?, List.cons_append, List.cons.injEq]
      split
      next same => rw [ih, eq_comm (a := other)]; simp [same]
      next differ => simp [Ne.symm differ]

theorem mem_filesBelow_iff {directory names : Location} :
    names ∈ fs.filesBelow directory ↔
      ∃ node, (directory ++ names, node) ∈ fs.entries ∧
        fs.leadsToDirectory (directory ++ names) node = false := by
  unfold filesBelow
  rw [List.mem_mergeSort, List.mem_filterMap]
  constructor
  · rintro ⟨⟨location, node⟩, listed, found⟩
    dsimp only at found
    split at found
    next rest below =>
      obtain rfl := below?_eq_some_iff.1 below
      split at found
      · cases found
      next other =>
        cases found
        exact ⟨node, listed, Bool.eq_false_iff.2 other⟩
    next => cases found
  · rintro ⟨node, listed, other⟩
    refine ⟨(directory ++ names, node), listed, ?_⟩
    dsimp only
    rw [below?_eq_some_iff.2 rfl]
    simp [other]

/-- Without links the files below a directory are the files that are listed there. -/
theorem mem_filesBelow_iff_file (linkless : fs.Linkless) {directory names : Location} :
    names ∈ fs.filesBelow directory ↔
      ∃ content executable, fs.node? (directory ++ names) = some (.file content executable) := by
  rw [mem_filesBelow_iff]
  constructor
  · rintro ⟨node, listed, other⟩
    have found := (fs.mem_entries_iff.1 listed).2
    cases node with
    | directory => cases other
    | file content executable => exact ⟨content, executable, found⟩
    | link target => exact absurd found (linkless _ _)
  · rintro ⟨content, executable, found⟩
    refine ⟨.file content executable, fs.mem_entries_iff.2 ⟨?_, found⟩, rfl⟩
    intro top
    rw [top] at found
    cases found

/-- A file is not the directory that it lies below. -/
theorem ne_nil_of_file_below {directory names : Location} {content : List UInt8} {executable : Bool}
    (place : fs.node? directory = some .directory)
    (file : fs.node? (directory ++ names) = some (.file content executable)) : names ≠ [] := by
  rintro rfl
  rw [List.append_nil, place] at file
  cases file

/-- What is listed has names that a directory can hold. -/
theorem isName_of_node? {fs : FileSystem} {location : Location} {node : Node}
    (found : fs.node? location = some node) : ∀ name ∈ location, isName name = true := by
  by_cases top : location = []
  · rw [top]
    exact fun _ mem => nomatch mem
  · obtain ⟨above, last, same, named, home⟩ := fs.placed _ (fs.mem_entries_iff.2 ⟨top, found⟩)
    dsimp only at same
    intro name mem
    rw [same] at mem
    rcases List.mem_append.1 mem with inside | final
    · rcases home with rfl | listed
      · cases inside
      · have shorter : above.length < location.length := by simp [same]
        have above_found := (fs.mem_entries_iff.1 listed).2
        exact isName_of_node? above_found name inside
    · rwa [List.mem_singleton.1 final]
termination_by location.length

theorem isSegment_of_isName {name : String} (named : isName name = true) :
    Path.IsSegment name ∧ name ≠ Lexical.parentSegment := by
  simp only [isName, Bool.and_eq_true, decide_eq_true_eq, Bool.not_eq_true', Bool.eq_false_iff,
    ne_eq, List.contains_iff_mem] at named
  obtain ⟨⟨⟨nonempty, here⟩, up⟩, free⟩ := named
  exact ⟨⟨nonempty, here, free⟩, up⟩

/-- What is listed below a directory is listed under names that a directory can hold. -/
theorem isSegment_of_mem_filesBelow {directory names : Location}
    (below : names ∈ fs.filesBelow directory) :
    ∀ name ∈ names, Path.IsSegment name ∧ name ≠ Lexical.parentSegment := by
  obtain ⟨node, listed, -⟩ := mem_filesBelow_iff.1 below
  have found := (fs.mem_entries_iff.1 listed).2
  exact fun name mem => isSegment_of_isName (isName_of_node? found name (List.mem_append_right _ mem))

end FileSystem

end TestImpact
