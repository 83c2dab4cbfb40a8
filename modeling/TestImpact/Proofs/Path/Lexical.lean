import TestImpact.Path.Lexical
import TestImpact.Proofs.Path.Segments

/-!
# Where spellings lead

The names of a spelling are the segments of its normalised absolute form (`names`). A spelling
lies within a root if the names of the root begin its own (`within_iff`), and moving it to another
root keeps the rest (`names_of_transplant?`). A path that is absolute as it stands has its own
segments as names, each `..` with the one before it taken away (`names_of_slash`). A way from a
directory leads up first and then down (`climb_descent`), so names behind those of a directory stay
there unless they lead out of it (`collapse_append_of_inside`). A path with another last segment has
the same names but for the last (`exists_names_last`).
-/

namespace TestImpact.Lexical

open TestImpact.Path (IsSegment segments anchorOf)

/-! ## Taking away what `..` leaves -/

theorem push_of_ne {segment : String} (down : segment ≠ parentSegment) (rooted : Bool)
    (stack : List String) : push rooted stack segment = segment :: stack := by
  rw [push.eq_def, if_neg down]

theorem push_up {top : String} (down : top ≠ parentSegment) (rooted : Bool)
    (below : List String) : push rooted (top :: below) parentSegment = below := by
  rw [push, if_pos rfl, if_neg down]

theorem foldl_push_names (rooted : Bool) (stack : List String) {names : List String}
    (plain : parentSegment ∉ names) :
    names.foldl (push rooted) stack = names.reverse ++ stack := by
  induction names generalizing stack with
  | nil => rfl
  | cons name rest ih =>
    rw [List.mem_cons, not_or] at plain
    rw [List.foldl_cons, push_of_ne (Ne.symm plain.1), ih _ plain.2, List.reverse_cons,
      List.append_assoc, List.singleton_append]

theorem collapse_append (rooted : Bool) (left : List String) {names : List String}
    (plain : parentSegment ∉ names) :
    collapse rooted (left ++ names) = collapse rooted left ++ names := by
  unfold collapse
  rw [List.foldl_append, foldl_push_names rooted _ plain, List.reverse_append, List.reverse_reverse]

theorem collapse_of_notMem (rooted : Bool) {names : List String} (plain : parentSegment ∉ names) :
    collapse rooted names = names := by
  have joined := collapse_append rooted [] plain
  rwa [List.nil_append] at joined

theorem mem_of_mem_push {rooted : Bool} {stack : List String} {segment name : String}
    (mem : name ∈ push rooted stack segment) : name ∈ stack ∨ name = segment := by
  unfold push at mem
  split at mem
  next up =>
    split at mem
    · split at mem
      · cases mem
      · exact Or.inr (List.mem_singleton.1 mem ▸ up.symm)
    · split at mem
      · rcases List.mem_cons.1 mem with rfl | mem
        · exact Or.inr up.symm
        · exact Or.inl mem
      · exact Or.inl (List.mem_cons_of_mem _ mem)
  next => exact (List.mem_cons.1 mem).symm

theorem mem_of_mem_collapse {rooted : Bool} {all : List String} {name : String}
    (mem : name ∈ collapse rooted all) : name ∈ all := by
  have traced : ∀ stack, name ∈ all.foldl (push rooted) stack → name ∈ stack ∨ name ∈ all := by
    clear mem
    induction all with
    | nil => exact fun _ mem => Or.inl mem
    | cons segment rest ih =>
      intro stack mem
      rcases ih _ mem with mem | mem
      · exact (mem_of_mem_push mem).imp id (List.mem_cons.2 <| Or.inl ·)
      · exact Or.inr (List.mem_cons_of_mem _ mem)
  exact (traced [] (List.mem_reverse.1 mem)).resolve_left List.not_mem_nil

theorem parentSegment_notMem_push {stack : List String} (plain : parentSegment ∉ stack)
    (segment : String) : parentSegment ∉ push true stack segment := by
  unfold push
  split
  next =>
    split
    · exact List.not_mem_nil
    next top below =>
      rw [List.mem_cons, not_or] at plain
      rw [if_neg (Ne.symm plain.1)]
      exact plain.2
  next down =>
    rw [List.mem_cons, not_or]
    exact ⟨Ne.symm down, plain⟩

/-- Above a root no `..` is left. -/
theorem parentSegment_notMem_collapse (all : List String) :
    parentSegment ∉ collapse true all := by
  have kept : ∀ stack, parentSegment ∉ stack → parentSegment ∉ all.foldl (push true) stack := by
    induction all with
    | nil => exact fun _ plain => plain
    | cons segment rest ih =>
      exact fun stack plain => ih _ (parentSegment_notMem_push plain segment)
  exact fun mem => kept [] List.not_mem_nil (List.mem_reverse.1 mem)

/-- The segments of a way lead up some directories and then down through names. They do so behind
every place, as far as there are directories above it. -/
theorem exists_foldl_push (way : List String) :
    ∃ climbed names, parentSegment ∉ names ∧
      way.foldl (push false) [] = names ++ List.replicate climbed parentSegment ∧
      ∀ stack, parentSegment ∉ stack → way.foldl (push true) stack = names ++ stack.drop climbed := by
  induction way using List.reverseRecOn with
  | nil => exact ⟨0, [], List.not_mem_nil, rfl, fun _ _ => rfl⟩
  | append_singleton front segment ih =>
    obtain ⟨climbed, names, plain, bare, behind⟩ := ih
    by_cases up : segment = parentSegment
    · subst up
      cases names with
      | nil =>
        refine ⟨climbed + 1, [], List.not_mem_nil, ?_, fun stack clean => ?_⟩
        · rw [List.foldl_concat, bare]
          cases climbed with
          | zero => rfl
          | succ more => exact if_pos rfl
        · rw [List.foldl_concat, behind stack clean, List.nil_append, List.nil_append,
            ← List.drop_drop]
          cases left : stack.drop climbed with
          | nil => rfl
          | cons top below =>
            have among : top ∈ stack := List.mem_of_mem_drop (left ▸ List.mem_cons_self)
            rw [push_up fun same => clean (same ▸ among)]
            rfl
      | cons top below =>
        rw [List.mem_cons, not_or] at plain
        have down : top ≠ parentSegment := Ne.symm plain.1
        refine ⟨climbed, below, plain.2, ?_, fun stack clean => ?_⟩
        · rw [List.foldl_concat, bare, List.cons_append, push_up down]
        · rw [List.foldl_concat, behind stack clean, List.cons_append, push_up down]
    · refine ⟨climbed, segment :: names, ?_, ?_, fun stack clean => ?_⟩
      · rw [List.mem_cons, not_or]
        exact ⟨Ne.symm up, plain⟩
      · rw [List.foldl_concat, bare, push_of_ne up, List.cons_append]
      · rw [List.foldl_concat, behind stack clean, push_of_ne up, List.cons_append]

/-- How many directories a way leads up before it leads down. -/
def climb (way : List String) : Nat :=
  ((collapse false way).takeWhile (· = parentSegment)).length

/-- The names that a way leads down through in the end. -/
def descent (way : List String) : List String :=
  (collapse false way).dropWhile (· = parentSegment)

/-- A way leads up some directories above every place and then down. -/
theorem climb_descent (way : List String) :
    collapse false way = List.replicate (climb way) parentSegment ++ descent way ∧
      parentSegment ∉ descent way ∧
      ∀ place, collapse true (place ++ way) =
        (collapse true place).take ((collapse true place).length - climb way) ++ descent way := by
  obtain ⟨climbed, names, plain, bare, behind⟩ := exists_foldl_push way
  have whole : collapse false way = List.replicate climbed parentSegment ++ names.reverse := by
    rw [collapse, bare, List.reverse_append, List.reverse_replicate]
  have first : names.reverse.head? ≠ some parentSegment := fun up =>
    plain (List.mem_reverse.1 (List.mem_of_mem_head? up))
  have ups : climb way = climbed := by
    rw [climb, whole, List.takeWhile_append_of_pos (by simp)]
    cases left : names.reverse with
    | nil => simp
    | cons name more =>
      rw [left, List.head?_cons, ne_eq, Option.some.injEq] at first
      simp [List.takeWhile_cons_of_neg, first]
  have downs : descent way = names.reverse := by
    rw [descent, whole, List.dropWhile_append_of_pos (by simp)]
    cases left : names.reverse with
    | nil => rfl
    | cons name more =>
      rw [left, List.head?_cons, ne_eq, Option.some.injEq] at first
      simp [List.dropWhile_cons_of_neg, first]
  rw [ups, downs]
  refine ⟨whole, fun mem => plain (List.mem_reverse.1 mem), fun place => ?_⟩
  have clean : parentSegment ∉ place.foldl (push true) [] := fun mem =>
    parentSegment_notMem_collapse place (List.mem_reverse.2 mem)
  unfold collapse
  rw [List.foldl_append, behind _ clean, List.reverse_append, List.reverse_drop,
    List.length_reverse]

/-- Segments that lead out of the directory they start in. -/
def LeadsOut (segments : List String) : Prop :=
  (collapse false segments).head? = some parentSegment

instance (segments : List String) : Decidable (LeadsOut segments) :=
  inferInstanceAs (Decidable (_ = _))

theorem not_leadsOut_of_notMem {names : List String} (plain : parentSegment ∉ names) :
    ¬ LeadsOut names := by
  rw [LeadsOut, collapse_of_notMem false plain]
  exact fun first => plain (List.mem_of_mem_head? first)

theorem climb_of_inside {way : List String} (inside : ¬ LeadsOut way) : climb way = 0 := by
  rw [LeadsOut, (climb_descent way).1] at inside
  cases ups : climb way with
  | zero => rfl
  | succ more =>
    rw [ups, List.replicate_succ, List.cons_append, List.head?_cons] at inside
    exact absurd rfl inside

/-- Segments that stay in a directory lead to what they lead to from there. -/
theorem collapse_append_of_inside (left : List String) {right : List String}
    (inside : ¬ LeadsOut right) :
    collapse true (left ++ right) = collapse true left ++ collapse false right := by
  obtain ⟨whole, -, behind⟩ := climb_descent right
  rw [climb_of_inside inside, List.replicate_zero, List.nil_append] at whole
  rw [behind, climb_of_inside inside, Nat.sub_zero, List.take_length, whole]

theorem proper_collapse {rooted : Bool} {all : List String}
    (proper : ∀ part ∈ all, IsSegment part) :
    ∀ part ∈ collapse rooted all, IsSegment part :=
  fun part mem => proper part (mem_of_mem_collapse mem)

/-! ## Normalised texts -/

/-- The normalised form of a text, as a path. -/
def normalPath (text : String) : Path :=
  ⟨anchorOf text.toList, collapse (anchorOf text.toList ≠ .relative) (segments text)⟩

theorem proper_normalPath (text : String) : (normalPath text).Proper :=
  proper_collapse fun _ mem => Path.isSegment_of_mem_segments mem

theorem normalise_eq (text : String) : normalise text = (normalPath text).toString :=
  (Path.toString_eq_ite (proper_normalPath text)).symm

/-! ## Backslashes -/

theorem toList_slashed (text : String) :
    (slashed text).toList = text.toList.map fun c => if c = '\\' then '/' else c :=
  String.toList_ofList

theorem slashed_append (left right : String) :
    slashed (left ++ right) = slashed left ++ slashed right := by
  rw [← String.toList_inj, String.toList_append]
  simp only [toList_slashed, String.toList_append, List.map_append]

theorem slashed_of_notMem {text : String} (plain : '\\' ∉ text.toList) : slashed text = text := by
  rw [← String.toList_inj, toList_slashed]
  refine (List.map_congr_left fun c mem => if_neg ?_).trans (List.map_id _)
  rintro rfl
  exact plain mem

theorem notMem_slashed (text : String) : '\\' ∉ (slashed text).toList := by
  rw [toList_slashed]
  intro mem
  obtain ⟨c, -, same⟩ := List.mem_map.1 mem
  split at same
  · cases same
  next differs => exact differs same

@[simp]
theorem slashed_slash : slashed "/" = "/" :=
  slashed_of_notMem (by simp)

theorem slashed_anchor_append (anchor : Anchor) (text : String) :
    slashed (anchor.text ++ text) = anchor.text ++ slashed text := by
  have plain : '\\' ∉ anchor.text.toList := by cases anchor <;> simp [Anchor.text]
  rw [slashed_append, slashed_of_notMem plain]

theorem slashed_intercalate (texts : List String) :
    slashed ("/".intercalate texts) = "/".intercalate (texts.map slashed) := by
  induction texts with
  | nil => exact slashed_of_notMem (by simp)
  | cons text rest ih =>
    cases rest with
    | nil => rw [List.map_singleton, String.intercalate_singleton, String.intercalate_singleton]
    | cons next more =>
      rw [String.intercalate_cons_cons, slashed_append, slashed_append, slashed_slash, ih,
        List.map_cons, List.map_cons, List.map_cons, String.intercalate_cons_cons]

/-- A text that has no backslash has none between its slashes. -/
theorem notMem_of_mem_segments {text part : String} (plain : '\\' ∉ text.toList)
    (mem : part ∈ segments text) : '\\' ∉ part.toList := by
  obtain ⟨among, -⟩ := List.mem_filter.1 mem
  obtain ⟨piece, cut, rfl⟩ := List.mem_map.1 among
  rw [String.toList_ofList]
  exact fun inside => plain (Text.mem_of_mem_pieces cut inside)

theorem segments_slashed_of_notMem {text : String} (free : '/' ∉ text.toList) :
    segments (slashed text) = (segments text).flatMap fun part => segments (slashed part) := by
  by_cases empty : text = ""
  · rw [empty, slashed_of_notMem (by simp), Path.segments_empty, List.flatMap_nil]
  · by_cases dot : text = "."
    · have bare : segments "." = [] := by simp [segments, Text.pieces]
      rw [dot, slashed_of_notMem (by simp), bare, List.flatMap_nil]
    · rw [Path.segments_of_isSegment ⟨empty, dot, free⟩, List.flatMap_singleton]

/-- A text is cut at its slashes first and at its backslashes then. -/
theorem segments_slashed (text : String) :
    segments (slashed text) = (segments text).flatMap fun part => segments (slashed part) := by
  induction whole : text.toList.length using Nat.strongRecOn generalizing text with
  | ind length ih =>
    by_cases slash : '/' ∈ text.toList
    · obtain ⟨front, back, chars, free⟩ := Text.exists_last_sep slash
      have joined : text = String.ofList front ++ "/" ++ String.ofList back := by
        rw [← String.toList_inj, chars]
        simp
      have shorter : (String.ofList front).toList.length < length := by
        rw [← whole, chars, String.toList_ofList, List.length_append, List.length_cons]
        omega
      rw [joined, slashed_append, slashed_append, slashed_slash, Path.segments_append_slash,
        Path.segments_append_slash, List.flatMap_append, ih _ shorter _ rfl,
        segments_slashed_of_notMem (by rwa [String.toList_ofList])]
    · exact segments_slashed_of_notMem slash

/-- The segments of a path in which backslashes count as slashes. -/
theorem segments_slashed_toString (path : Path) :
    segments (slashed path.toString) = path.parts.flatMap fun part => segments (slashed part) := by
  rcases path.toString_cases with ⟨-, empty, written⟩ | written
  · rw [written, empty, slashed_of_notMem (by simp)]
    simp [segments, Text.pieces]
  · rw [written, slashed_anchor_append, slashed_intercalate, Path.segments_anchor_append,
      Path.segments_intercalate, List.flatMap_map]

/-- A path whose segments hold no backslash holds none. -/
theorem notMem_toString {path : Path} (plain : ∀ part ∈ path.parts, '\\' ∉ part.toList) :
    '\\' ∉ path.toString.toList := by
  unfold Path.toString
  split
  · simp
  · have same : path.parts.map slashed = path.parts :=
      (List.map_congr_left fun part mem => slashed_of_notMem (plain part mem)).trans
        (List.map_id _)
    have whole : slashed (path.anchor.text ++ "/".intercalate path.parts) =
        path.anchor.text ++ "/".intercalate path.parts := by
      rw [slashed_anchor_append, slashed_intercalate, same]
    rw [← whole]
    exact notMem_slashed _

theorem flatMap_segments_slashed {parts : List String}
    (proper : ∀ part ∈ parts, IsSegment part) (plain : ∀ part ∈ parts, '\\' ∉ part.toList) :
    (parts.flatMap fun part => segments (slashed part)) = parts := by
  rw [List.flatMap_congr fun part mem => congrArg segments (slashed_of_notMem (plain part mem)),
    Path.flatMap_segments proper]

/-- Segments without backslashes that are put together are taken apart again. -/
theorem segments_slashed_intercalate {parts : List String}
    (proper : ∀ part ∈ parts, IsSegment part) (plain : ∀ part ∈ parts, '\\' ∉ part.toList) :
    segments (slashed ("/".intercalate parts)) = parts := by
  rw [slashed_intercalate, Path.segments_intercalate, List.flatMap_map,
    flatMap_segments_slashed proper plain]

/-! ## Absolute forms -/

/-- The text whose normalised form is absolute: what is not rooted starts at the working
directory. -/
def anchored (cwd text : String) : String :=
  if isRooted text then text else withoutTrailingSlashes cwd ++ "/" ++ text

/-- The same place with one leading slash instead of two. -/
def singleRooted (path : Path) : Path :=
  { path with anchor := if path.anchor = .doubleRoot then .root else path.anchor }

/-- The normalised absolute form of a text with forward slashes, as a path. -/
def placeOf (cwd text : String) : Path :=
  singleRooted (normalPath (anchored cwd text))

/-- The names of the place that a spelling leads to. -/
def names (cwd path : String) : List String :=
  segments (slashed (resolved cwd path))

theorem singleRooted_eq {path : Path} (anchored : path.anchor ≠ .relative) :
    singleRooted path = ⟨.root, path.parts⟩ := by
  obtain ⟨anchor, parts⟩ := path
  cases anchor with
  | relative => exact absurd rfl anchored
  | root => rfl
  | doubleRoot => rfl

theorem toString_singleRooted {path : Path} (proper : path.Proper) :
    (if anchorOf path.toString.toList = .doubleRoot then String.ofList (path.toString.toList.drop 1)
      else path.toString) = (singleRooted path).toString := by
  rw [Path.anchorOf_toString proper]
  split
  next double =>
    rw [Path.toString_of_isAbsolute (by simp [Path.isAbsolute, double]),
      Path.toString_of_isAbsolute (by simp [Path.isAbsolute, singleRooted, double]),
      ← String.toList_inj]
    simp [singleRooted, double, Anchor.text]
  next single => simp [singleRooted, single]

theorem absolute_eq (text cwd : String) : absolute text cwd = (placeOf cwd text).toString := by
  rw [placeOf, ← toString_singleRooted (proper_normalPath _), ← normalise_eq]
  rfl

theorem names_eq (cwd path : String) :
    names cwd path = (placeOf cwd (slashed path)).parts.flatMap fun part =>
      segments (slashed part) := by
  rw [names, resolved, absolute_eq, segments_slashed_toString]

theorem isSegment_of_mem_names {cwd path name : String} (mem : name ∈ names cwd path) :
    IsSegment name :=
  Path.isSegment_of_mem_segments mem

theorem notMem_of_mem_names {cwd path name : String} (mem : name ∈ names cwd path) :
    '\\' ∉ name.toList :=
  notMem_of_mem_segments (notMem_slashed _) mem

theorem anchorOf_ne_relative {text : List Char} (slash : text.head? = some '/') :
    anchorOf text ≠ .relative := by
  obtain ⟨rest, rfl⟩ := List.head?_eq_some_iff.1 slash
  unfold anchorOf
  split <;> simp_all

theorem isAbsolute_ofString {text : String} (slash : text.toList.head? = some '/') :
    (Path.ofString text).isAbsolute = true :=
  decide_eq_true (anchorOf_ne_relative slash)

/-- A text that begins with a slash leads to a place below the root, wherever it is read. -/
theorem placeOf_of_slash (cwd : String) {text : String} (slash : text.toList.head? = some '/') :
    placeOf cwd text = ⟨.root, collapse true (segments text)⟩ := by
  have rooted : anchored cwd text = text := if_pos (by rw [isRooted, slash]; rfl)
  have anchor : anchorOf text.toList ≠ .relative := anchorOf_ne_relative slash
  rw [placeOf, rooted, singleRooted_eq anchor, normalPath, decide_eq_true anchor]

theorem head?_slashed {path : String} (slash : path.toList.head? = some '/') :
    (slashed path).toList.head? = some '/' := by
  rw [toList_slashed, List.head?_map, slash]
  rfl

/-- A path that begins with a slash has its own segments as names. -/
theorem names_of_slash (cwd : String) {path : String} (slash : path.toList.head? = some '/') :
    names cwd path = collapse true (segments (slashed path)) := by
  have parts : (placeOf cwd (slashed path)).parts = collapse true (segments (slashed path)) := by
    rw [placeOf_of_slash cwd (head?_slashed slash)]
  rw [names_eq, parts]
  exact flatMap_segments_slashed
    (proper_collapse fun _ mem => Path.isSegment_of_mem_segments mem)
    fun _ mem => notMem_of_mem_segments (notMem_slashed path) (mem_of_mem_collapse mem)

theorem parentSegment_notMem_names (cwd : String) {path : String}
    (slash : path.toList.head? = some '/') :
    parentSegment ∉ names cwd path := by
  rw [names_of_slash cwd slash]
  exact parentSegment_notMem_collapse _

theorem head?_toString_of_isAbsolute {path : Path} (absolute : path.isAbsolute = true) :
    path.toString.toList.head? = some '/' := by
  rw [Path.toString_of_isAbsolute absolute]
  cases anchor : path.anchor with
  | relative => simp [Path.isAbsolute, anchor] at absolute
  | root => simp [Anchor.text]
  | doubleRoot => simp [Anchor.text]

theorem isAbsolute_placeOf (cwd : String) {text : String} (slash : text.toList.head? = some '/') :
    (placeOf cwd text).isAbsolute = true := by
  rw [placeOf_of_slash cwd slash]
  rfl

/-! ## Directories without their trailing slashes -/

theorem exists_withoutTrailingSlashes_append (directory : String) :
    ∃ count, directory =
      withoutTrailingSlashes directory ++ String.ofList (List.replicate count '/') := by
  obtain ⟨count, whole⟩ := Text.exists_dropTrailing_append '/' directory.toList
  refine ⟨count, ?_⟩
  rw [withoutTrailingSlashes, ← String.ofList_append, ← whole, String.ofList_toList]

theorem segments_withoutTrailingSlashes (directory : String) :
    segments (withoutTrailingSlashes directory) = segments directory := by
  obtain ⟨count, whole⟩ := exists_withoutTrailingSlashes_append directory
  conv_rhs => rw [whole]
  rw [Path.segments_append_slashes]

/-- What stands behind a directory that is given from the root is given from the root. -/
theorem head?_behind {directory : String} (slash : directory.toList.head? = some '/')
    (text : String) :
    (withoutTrailingSlashes directory ++ "/" ++ text).toList.head? = some '/' := by
  obtain ⟨count, whole⟩ := exists_withoutTrailingSlashes_append directory
  cases kept : (withoutTrailingSlashes directory).toList with
  | nil => simp [kept]
  | cons c rest =>
    rw [whole, String.toList_append, kept, List.cons_append, List.head?_cons] at slash
    rw [String.toList_append, String.toList_append, kept, List.cons_append, List.cons_append,
      List.head?_cons, slash]

/-- What is made absolute from a directory that is given from the root is given from the root. -/
theorem head?_anchored {cwd text : String} (slash : cwd.toList.head? = some '/')
    (driveless : hasDrive text = false) : (anchored cwd text).toList.head? = some '/' := by
  rw [anchored]
  split
  next rooted => simpa [isRooted, driveless] using rooted
  next => exact head?_behind slash text

/-- Without a drive letter every text leads to a place below the root. -/
theorem placeOf_of_driveless {cwd text : String} (slash : cwd.toList.head? = some '/')
    (driveless : hasDrive text = false) :
    placeOf cwd text = ⟨.root, collapse true (segments (anchored cwd text))⟩ := by
  have rooted := anchorOf_ne_relative (head?_anchored slash driveless)
  rw [placeOf, singleRooted_eq rooted, normalPath, decide_eq_true rooted]

/-- A directory that is given from the root is spelled from the root. -/
theorem head?_canonicalRoot (cwd : String) {path : String} (slash : path.toList.head? = some '/') :
    (canonicalRoot cwd path none).toList.head? = some '/' := by
  have begins : (absolute (slashed path) (absolute cwd cwd)).toList.head? = some '/' := by
    rw [absolute_eq]
    exact head?_toString_of_isAbsolute (isAbsolute_placeOf _ (head?_slashed slash))
  have whole := head?_behind begins ""
  rwa [String.append_empty] at whole

/-- The names of an absolute path are its segments, cut at their backslashes. -/
theorem names_of_isAbsolute (cwd : String) {path : Path} (absolute : path.isAbsolute = true) :
    names cwd path.toString =
      collapse true (path.parts.flatMap fun part => segments (slashed part)) := by
  rw [names_of_slash cwd (head?_toString_of_isAbsolute absolute), segments_slashed_toString]

theorem names_toString (cwd : String) {path : Path} (absolute : path.isAbsolute = true)
    (proper : path.Proper) (plain : ∀ part ∈ path.parts, '\\' ∉ part.toList) :
    names cwd path.toString = collapse true path.parts := by
  rw [names_of_isAbsolute cwd absolute, flatMap_segments_slashed proper plain]

/-- A text that begins with a slash leads where the path does that is read from it. -/
theorem names_ofString (cwd : String) {text : String} (slash : text.toList.head? = some '/') :
    names cwd (Path.ofString text).toString = names cwd text := by
  have absolute : (Path.ofString text).isAbsolute = true :=
    isAbsolute_ofString slash
  rw [names_of_isAbsolute cwd absolute, names_of_slash cwd slash, segments_slashed]
  rfl

/-! ## Places within others -/

theorem sharedPrefix_append (source rest : List String) :
    sharedPrefix source (source ++ rest) = source.length := by
  induction source with
  | nil => cases rest <;> rfl
  | cons name more ih => rw [List.cons_append, sharedPrefix, if_pos rfl, ih, List.length_cons]

theorem sharedPrefix_le (source target : List String) :
    sharedPrefix source target ≤ source.length := by
  induction source generalizing target with
  | nil => cases target <;> exact Nat.le_refl 0
  | cons name more ih =>
    cases target with
    | nil => exact Nat.zero_le _
    | cons other rest =>
      rw [sharedPrefix]
      split
      · exact Nat.succ_le_succ (ih rest)
      · exact Nat.zero_le _

theorem prefix_of_sharedPrefix {source target : List String}
    (whole : sharedPrefix source target = source.length) : source <+: target := by
  induction source generalizing target with
  | nil => exact List.nil_prefix
  | cons name more ih =>
    cases target with
    | nil => cases whole
    | cons other rest =>
      rw [sharedPrefix] at whole
      split at whole
      next same => exact List.cons_prefix_cons.2 ⟨same, ih (Nat.succ.inj whole)⟩
      next => cases whole

@[simp]
theorem route_append (source rest : List String) : route source (source ++ rest) = rest := by
  simp [route, sharedPrefix_append]

/-- The way to a place that does not lie below leads up first. -/
theorem head?_route_of_outside {source target : List String} (outside : ¬ source <+: target) :
    (route source target).head? = some parentSegment := by
  have fewer : sharedPrefix source target < source.length :=
    Nat.lt_of_le_of_ne (sharedPrefix_le source target) fun whole =>
      outside (prefix_of_sharedPrefix whole)
  obtain ⟨more, left⟩ := Nat.exists_eq_succ_of_ne_zero (Nat.sub_ne_zero_of_lt fewer)
  simp only [route, left, List.replicate_succ, List.cons_append, List.head?_cons]

theorem within_iff {cwd path root : String} :
    within cwd path root = true ↔
      ∃ rest, names cwd path = names cwd root ++ rest ∧ rest.head? ≠ some parentSegment := by
  have asked : within cwd path root = true ↔
      (route (names cwd root) (names cwd path)).head? ≠ some parentSegment :=
    decide_eq_true_iff
  rw [asked]
  constructor
  · intro down
    by_cases below : names cwd root <+: names cwd path
    · obtain ⟨rest, joined⟩ := below
      rw [← joined, route_append] at down
      exact ⟨rest, joined.symm, down⟩
    · exact absurd (head?_route_of_outside below) down
  · rintro ⟨rest, joined, down⟩
    rwa [joined, route_append]

theorem within_iff_below {cwd path root : String} (plain : parentSegment ∉ names cwd path) :
    within cwd path root = true ↔ names cwd root <+: names cwd path := by
  rw [within_iff]
  constructor
  · rintro ⟨rest, joined, -⟩
    exact ⟨rest, joined.symm⟩
  · rintro ⟨rest, joined⟩
    refine ⟨rest, joined.symm, fun first => plain ?_⟩
    rw [← joined]
    exact List.mem_append_right _ (List.mem_of_mem_head? first)

/-- Between absolute spellings the working directory does not matter. -/
theorem within_of_slash (cwd cwd' : String) {path root : String}
    (slash : path.toList.head? = some '/') (slash' : root.toList.head? = some '/') :
    within cwd path root = within cwd' path root := by
  rw [Bool.eq_iff_iff, within_iff_below (parentSegment_notMem_names cwd slash),
    within_iff_below (parentSegment_notMem_names cwd' slash),
    names_of_slash cwd slash, names_of_slash cwd' slash,
    names_of_slash cwd slash', names_of_slash cwd' slash']

theorem below_of_names_eq {cwd path root : String} {rest : List String}
    (joined : names cwd path = names cwd root ++ rest) :
    below cwd path root = "/".intercalate rest := by
  have routed : below cwd path root =
      "/".intercalate (route (names cwd root) (names cwd path)) := rfl
  rw [routed, joined, route_append]

/-- A path that is moved keeps the rest of its names. -/
theorem transplant?_eq {cwd path source : String} {rest : List String}
    (joined : names cwd path = names cwd source ++ rest)
    (down : rest.head? ≠ some parentSegment) (target : String) :
    transplant? cwd path source target =
      some (if rest = [] then target
        else withoutTrailingSlashes target ++ "/" ++ "/".intercalate rest) := by
  have inside : within cwd path source = true := within_iff.2 ⟨rest, joined, down⟩
  have segmented : segments ("/".intercalate rest) = rest := by
    rw [Path.segments_intercalate]
    have kept : rest ⊆ names cwd path := joined ▸ List.subset_append_right _ rest
    exact Path.flatMap_segments fun _ mem => isSegment_of_mem_names (kept mem)
  have empty : "/".intercalate rest = "" ↔ rest = [] := by
    constructor
    · intro none
      rw [← segmented, none, Path.segments_empty]
    · rintro rfl
      rfl
  rw [transplant?, if_pos inside, below_of_names_eq joined]
  simp only [empty]

theorem transplant?_eq_none {cwd path source target : String}
    (outside : within cwd path source = false) : transplant? cwd path source target = none := by
  rw [transplant?, if_neg (by simp [outside])]

theorem within_of_transplant? {cwd path source target moved : String}
    (led : transplant? cwd path source target = some moved) : within cwd path source = true := by
  by_contra outside
  rw [transplant?_eq_none (Bool.eq_false_iff.2 outside)] at led
  cases led

/-- Between absolute spellings a path is moved to the same place from every working directory. -/
theorem transplant?_of_slash (cwd cwd' : String) {path source : String} (target : String)
    (slash : path.toList.head? = some '/') (slash' : source.toList.head? = some '/') :
    transplant? cwd path source target = transplant? cwd' path source target := by
  have rest : ∀ cwd, below cwd path source =
      "/".intercalate (route (names cwd source) (names cwd path)) := fun _ => rfl
  rw [transplant?, transplant?, within_of_slash cwd cwd' slash slash', rest, rest,
    names_of_slash cwd slash, names_of_slash cwd' slash, names_of_slash cwd slash',
    names_of_slash cwd' slash']

/-- A path that is moved to a root that is given from the top is given from the top. -/
theorem head?_of_transplant? {cwd path source target moved : String}
    (slash : target.toList.head? = some '/')
    (led : transplant? cwd path source target = some moved) : moved.toList.head? = some '/' := by
  unfold transplant? at led
  generalize below cwd path source = rest at led
  split at led
  · rw [← Option.some.inj led]
    split
    · exact slash
    · exact head?_behind slash rest
  · cases led

/-- A path that is moved has the same names below its new root. -/
theorem names_of_transplant? {cwd path source target moved : String}
    (slash : path.toList.head? = some '/') (slash' : target.toList.head? = some '/')
    (led : transplant? cwd path source target = some moved) :
    ∃ rest, names cwd path = names cwd source ++ rest ∧ names cwd moved = names cwd target ++ rest ∧
      segments moved = segments target ++ rest := by
  obtain ⟨rest, joined, down⟩ := within_iff.1 (within_of_transplant? led)
  have begins := head?_of_transplant? slash' led
  rw [transplant?_eq joined down] at led
  have kept : rest ⊆ names cwd path := joined ▸ List.subset_append_right _ rest
  have proper : ∀ name ∈ rest, IsSegment name := fun _ mem => isSegment_of_mem_names (kept mem)
  have segmented : segments moved = segments target ++ rest := by
    rw [← Option.some.inj led]
    split
    next none_left => rw [none_left, List.append_nil]
    next =>
      rw [Path.segments_append_slash, segments_withoutTrailingSlashes,
        Path.segments_intercalate_self proper]
  refine ⟨rest, joined, ?_, segmented⟩
  have plain : ∀ name ∈ rest, '\\' ∉ name.toList :=
    fun name mem => notMem_of_mem_names (kept mem)
  have single : parentSegment ∉ rest := fun up => parentSegment_notMem_names cwd slash (kept up)
  rw [names_of_slash cwd begins, names_of_slash cwd slash', segments_slashed, segmented,
    List.flatMap_append, ← segments_slashed, flatMap_segments_slashed proper plain,
    collapse_append true _ single]

/-! ## Paths below a directory -/

theorem anchorOf_eq_of_char {front : List Char} {c : Char} (differs : c ≠ '/') (rest : List Char) :
    anchorOf (front ++ c :: rest) = anchorOf front :=
  Path.anchorOf_append front (by simpa using differs)

/-- Names behind the text of a directory are names below the directory, unless its text is empty or
made of slashes. -/
theorem ofString_below {directory : String} (some_char : ∃ c ∈ directory.toList, c ≠ '/')
    {names : List String} (proper : ∀ name ∈ names, IsSegment name) :
    Path.ofString (withoutTrailingSlashes directory ++ "/" ++ "/".intercalate names) =
      ⟨(Path.ofString directory).anchor, (Path.ofString directory).parts ++ names⟩ := by
  obtain ⟨front, c, count, differs, kept, whole⟩ := Text.exists_dropTrailing some_char
  have cut : withoutTrailingSlashes directory = String.ofList (front ++ [c]) :=
    congrArg String.ofList kept
  have anchor : anchorOf (withoutTrailingSlashes directory ++ "/" ++
      "/".intercalate names).toList = anchorOf directory.toList := by
    rw [cut, whole]
    simp only [String.toList_append, String.toList_ofList, List.append_assoc, List.cons_append,
      List.nil_append]
    rw [anchorOf_eq_of_char differs, anchorOf_eq_of_char differs]
  unfold Path.ofString
  rw [anchor, Path.segments_append_slash, segments_withoutTrailingSlashes,
    Path.segments_intercalate_self proper]

/-! ## Paths with another last segment -/

/-- A name that stays the last one however the path is spelled. -/
structure IsFileName (name : String) : Prop where
  segment : IsSegment name
  down : name ≠ parentSegment
  plain : '\\' ∉ name.toList
  /-- So it is no drive letter. -/
  dotted : '.' ∈ name.toList

theorem IsFileName.head?_ne_slash {name : String} (valid : IsFileName name) :
    name.toList.head? ≠ some '/' := by
  intro slash
  exact valid.segment.2.2 (List.mem_of_mem_head? slash)

theorem IsFileName.isRooted {name : String} (valid : IsFileName name) : isRooted name = false := by
  have drive : hasDrive name = false := by
    have dotted := valid.dotted
    have free := valid.segment.2.2
    unfold hasDrive
    split
    next letter rest chars =>
      rw [chars] at dotted free
      have listed : '.' = letter ∨ '.' ∈ rest := by simpa using dotted
      rcases listed with rfl | dotted
      · rfl
      · have some_left : rest ≠ [] := List.ne_nil_of_mem dotted
        have no_line : rest ≠ ['\n'] := by
          rintro rfl
          simp at dotted
        have no_slash : rest.head? ≠ some '/' := fun slash =>
          free (List.mem_cons_of_mem _ (List.mem_cons_of_mem _ (List.mem_of_mem_head? slash)))
        simp [some_left, no_line, no_slash]
    next => rfl
  simp [Lexical.isRooted, valid.head?_ne_slash, drive]

/-- What stands behind a slash does not make a path rooted. -/
theorem isRooted_append_slash (left : String) (name other : String) :
    isRooted (left ++ "/" ++ name) = isRooted (left ++ "/" ++ other) := by
  have chars : ∀ text, (left ++ "/" ++ text).toList = left.toList ++ '/' :: text.toList := by
    simp
  unfold isRooted hasDrive
  rw [chars, chars]
  rcases left.toList with _ | ⟨c, _ | ⟨d, _ | ⟨e, more⟩⟩⟩
  · simp
  · simp
  · by_cases colon : d = ':' <;> simp [colon]
  · by_cases colon : d = ':' <;> simp [colon]

/-- Behind a slash a name is the last one of the normalised path. -/
theorem normalPath_append_slash (left : String) {name : String} (valid : IsFileName name) :
    normalPath (left ++ "/" ++ name) =
      ⟨anchorOf (left ++ "/").toList,
        collapse (anchorOf (left ++ "/").toList ≠ .relative) (segments left) ++ [name]⟩ := by
  have anchor : anchorOf (left ++ "/" ++ name).toList = anchorOf (left ++ "/").toList := by
    rw [String.toList_append, Path.anchorOf_append _ valid.head?_ne_slash]
  have single : parentSegment ∉ [name] := by simpa using Ne.symm valid.down
  rw [normalPath, anchor, Path.segments_append_slash, Path.segments_of_isSegment valid.segment,
    collapse_append _ _ single]

theorem exists_parts_last (left : String) :
    ∃ before, ∀ name, IsFileName name →
      ((singleRooted (normalPath (left ++ "/" ++ name))).parts.flatMap fun part =>
        segments (slashed part)) = before ++ [name] := by
  refine ⟨(collapse (anchorOf (left ++ "/").toList ≠ .relative) (segments left)).flatMap
    fun part => segments (slashed part), fun name valid => ?_⟩
  rw [normalPath_append_slash left valid, singleRooted, List.flatMap_append,
    List.flatMap_singleton, slashed_of_notMem valid.plain,
    Path.segments_of_isSegment valid.segment]

/-- Unless a path is a single name, its last segment stands behind a slash, and before that
stands another slash only behind the root. -/
theorem exists_toString_append_slash {anchor : Anchor} {above : List String}
    (proper : ∀ part ∈ above, IsSegment part) (more : ¬ (anchor = .relative ∧ above = [])) :
    ∃ left : String, (left = "/" ∨ left.toList.getLast? ≠ some '/') ∧
      ∀ name, (⟨anchor, above ++ [name]⟩ : Path).toString = left ++ "/" ++ name := by
  by_cases top : above = []
  · subst top
    cases anchor with
    | relative => exact absurd ⟨rfl, rfl⟩ more
    | root => exact ⟨"", by simp, fun name => by simp [Path.toString, Anchor.text]⟩
    | doubleRoot =>
      refine ⟨"/", Or.inl rfl, fun name => ?_⟩
      rw [Path.toString_of_parts (List.cons_ne_nil _ _), List.nil_append,
        String.intercalate_singleton]
      rfl
  · have some_char := Path.toList_intercalate_ne_nil proper top
    refine ⟨anchor.text ++ "/".intercalate above, Or.inr ?_, fun name => ?_⟩
    · rw [String.toList_append, List.getLast?_append_of_ne_nil _ some_char]
      exact Path.getLast?_intercalate_ne_slash proper
    · rw [Path.toString_of_parts (by simp),
        String.intercalate_append_of_ne_nil top (List.cons_ne_nil _ _),
        String.intercalate_singleton, ← String.append_assoc, ← String.append_assoc]

/-- Paths that differ in their last segment have names that differ in the last one. -/
theorem exists_names_last (cwd : String) (anchor : Anchor) {above : List String}
    (proper : ∀ part ∈ above, IsSegment part) :
    ∃ before, ∀ name, IsFileName name →
      names cwd (⟨anchor, above ++ [name]⟩ : Path).toString = before ++ [name] := by
  by_cases bare : anchor = .relative ∧ above = []
  · obtain ⟨rfl, rfl⟩ := bare
    obtain ⟨before, last⟩ := exists_parts_last (withoutTrailingSlashes cwd)
    refine ⟨before, fun name valid => ?_⟩
    have written : (⟨.relative, [] ++ [name]⟩ : Path).toString = name := by
      rw [Path.toString_of_parts (List.cons_ne_nil _ _), List.nil_append,
        String.intercalate_singleton, Anchor.text, String.empty_append]
    rw [written, names_eq, slashed_of_notMem valid.plain, placeOf, anchored,
      if_neg (by simp [valid.isRooted])]
    exact last name valid
  · obtain ⟨left, -, written⟩ := exists_toString_append_slash proper bare
    obtain ⟨before, last⟩ := exists_parts_last
      (if isRooted (slashed left ++ "/") then slashed left
        else withoutTrailingSlashes cwd ++ "/" ++ slashed left)
    refine ⟨before, fun name valid => ?_⟩
    have rooted := isRooted_append_slash (slashed left) name ""
    rw [String.append_empty] at rooted
    rw [written, names_eq, slashed_append, slashed_append, slashed_slash,
      slashed_of_notMem valid.plain, placeOf, anchored, rooted]
    have joined := last name valid
    split at joined
    next yes => rwa [if_pos yes]
    next no =>
      rw [if_neg no]
      simpa only [String.append_assoc] using joined

/-- A path in a root stays in it with another last segment, unless it is the root itself. -/
theorem within_last_iff {cwd root name other : String} {anchor : Anchor} {above : List String}
    (proper : ∀ part ∈ above, IsSegment part) (valid : IsFileName name)
    (valid' : IsFileName other)
    (inside : within cwd (⟨anchor, above ++ [name]⟩ : Path).toString root = true) :
    within cwd (⟨anchor, above ++ [other]⟩ : Path).toString root = true ↔
      names cwd root ≠ names cwd (⟨anchor, above ++ [name]⟩ : Path).toString ∨ other = name := by
  obtain ⟨before, last⟩ := exists_names_last cwd anchor proper
  obtain ⟨rest, joined, down⟩ := within_iff.1 inside
  rw [within_iff, last other valid', last name valid]
  rw [last name valid] at joined
  generalize names cwd root = outer at joined ⊢
  rcases List.eq_nil_or_concat' rest with rfl | ⟨earlier, final, rfl⟩
  · rw [List.append_nil] at joined
    rw [← joined]
    constructor
    · rintro ⟨more, same, -⟩
      rw [List.append_assoc] at same
      exact Or.inr (List.cons.inj (List.append_cancel_left same)).1
    · rintro (differ | rfl)
      · exact absurd rfl differ
      · exact ⟨[], (List.append_nil _).symm, by simp⟩
  · rw [← List.append_assoc] at joined
    obtain ⟨rfl, rfl⟩ := List.append_singleton_inj.1 joined
    have shorter : outer ≠ outer ++ earlier ++ [name] := by
      intro same
      have lengths := congrArg List.length same
      simp at lengths
    refine iff_of_true ⟨earlier ++ [other], List.append_assoc _ _ _, ?_⟩ (Or.inl shorter)
    cases earlier with
    | nil => simpa using valid'.down
    | cons first more => simpa using down

/-- Places that lie within each other are the same. -/
theorem names_eq_iff {cwd path root : String} (inside : within cwd path root = true) :
    names cwd root = names cwd path ↔ within cwd root path = true := by
  obtain ⟨rest, joined, -⟩ := within_iff.1 inside
  constructor
  · intro same
    exact within_iff.2 ⟨[], by rw [same, List.append_nil], by simp⟩
  · intro back
    obtain ⟨more, joined', -⟩ := within_iff.1 back
    rw [joined, List.append_assoc] at joined'
    have none_left := List.self_eq_append_right.1 joined'
    rw [joined, (List.append_eq_nil_iff.1 none_left).1, List.append_nil]

end TestImpact.Lexical
