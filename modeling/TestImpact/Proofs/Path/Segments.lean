import Mathlib.Data.List.Basic
import Mathlib.Data.List.Induction
import TestImpact.Path.Basic

/-!
# Segments of path texts

A path is read from its text and written to it, and nothing is lost on the way: a path whose
segments are segments (`Path.Proper`) is the one that is read from its text
(`ofString_toString`). The segments of texts that are put together with a slash are those of
the first text and then those of the second (`segments_append_slash`).
-/

namespace TestImpact

namespace Text

theorem pieces_of_notMem {sep : Char} {text : List Char} (absent : sep ∉ text) :
    pieces sep text = [text] := by
  induction text with
  | nil => rfl
  | cons c rest ih =>
    rw [List.mem_cons, not_or] at absent
    rw [pieces, if_neg (Ne.symm absent.1), ih absent.2]

/-- A separator between two texts cuts them apart. -/
theorem pieces_append_sep (sep : Char) (left right : List Char) :
    pieces sep (left ++ sep :: right) = pieces sep left ++ pieces sep right := by
  induction left with
  | nil => simp [pieces]
  | cons c rest ih =>
    rw [List.cons_append, pieces, pieces]
    by_cases same : c = sep
    · rw [if_pos same, if_pos same, ih, List.cons_append]
    · rw [if_neg same, if_neg same, ih]
      cases found : pieces sep rest with
      | nil => exact absurd found (pieces_ne_nil sep rest)
      | cons piece more => rfl

theorem mem_of_mem_pieces {sep c : Char} {text piece : List Char} (cut : piece ∈ pieces sep text)
    (mem : c ∈ piece) : c ∈ text := by
  induction text generalizing piece with
  | nil =>
    rw [pieces, List.mem_singleton] at cut
    rwa [cut] at mem
  | cons first rest ih =>
    rw [pieces] at cut
    split at cut
    · rcases List.mem_cons.1 cut with rfl | later
      · cases mem
      · exact List.mem_cons_of_mem _ (ih later mem)
    · split at cut
      next found => exact absurd found (pieces_ne_nil sep rest)
      next head more found =>
        rcases List.mem_cons.1 cut with rfl | later
        · rcases List.mem_cons.1 mem with rfl | inside
          · exact List.mem_cons_self
          · exact List.mem_cons_of_mem _ (ih (found ▸ List.mem_cons_self) inside)
        · exact List.mem_cons_of_mem _ (ih (found ▸ List.mem_cons_of_mem _ later) mem)

theorem dropTrailing_concat (c : Char) (text : List Char) :
    dropTrailing c (text ++ [c]) = dropTrailing c text := by
  simp [dropTrailing]

theorem exists_dropTrailing_append (sep : Char) (text : List Char) :
    ∃ count, text = dropTrailing sep text ++ List.replicate count sep := by
  induction text using List.reverseRecOn with
  | nil => exact ⟨0, rfl⟩
  | append_singleton rest last ih =>
    by_cases same : last = sep
    · subst same
      obtain ⟨count, whole⟩ := ih
      refine ⟨count + 1, ?_⟩
      rw [dropTrailing_concat, List.replicate_succ', ← List.append_assoc, ← whole]
    · exact ⟨0, by simp [dropTrailing, same]⟩

theorem dropTrailing_of_getLast? {c : Char} {text : List Char} (last : text.getLast? ≠ some c) :
    dropTrailing c text = text := by
  rcases List.eq_nil_or_concat' text with rfl | ⟨earlier, d, rfl⟩
  · rfl
  · have differs : d ≠ c := by simpa using last
    simp [dropTrailing, differs]

/-- What is left of a text without its trailing separators ends with another character. -/
theorem exists_dropTrailing {sep : Char} {text : List Char} (some_char : ∃ c ∈ text, c ≠ sep) :
    ∃ front c count, c ≠ sep ∧ dropTrailing sep text = front ++ [c] ∧
      text = front ++ [c] ++ List.replicate count sep := by
  induction text using List.reverseRecOn with
  | nil => exact absurd some_char (by simp)
  | append_singleton rest last ih =>
    by_cases same : last = sep
    · subst same
      have earlier : ∃ c ∈ rest, c ≠ last := by
        obtain ⟨c, mem, differs⟩ := some_char
        refine ⟨c, (List.mem_append.1 mem).resolve_right fun single => ?_, differs⟩
        exact differs (List.mem_singleton.1 single)
      obtain ⟨front, c, count, differs, kept, whole⟩ := ih earlier
      refine ⟨front, c, count + 1, differs, (dropTrailing_concat last rest).trans kept, ?_⟩
      rw [List.replicate_succ', ← List.append_assoc, ← whole]
    · refine ⟨rest, last, 0, same, dropTrailing_of_getLast? (by simpa using same), ?_⟩
      rw [List.replicate_zero, List.append_nil]

/-- A text is cut at its last separator. -/
theorem exists_last_sep {sep : Char} {text : List Char} (mem : sep ∈ text) :
    ∃ front back, text = front ++ sep :: back ∧ sep ∉ back := by
  obtain ⟨back, front, reversed, last⟩ := List.eq_append_cons_of_mem (List.mem_reverse.2 mem)
  have turned := congrArg List.reverse reversed
  exact ⟨front.reverse, back.reverse, by simpa using turned,
    fun inside => last (List.mem_reverse.1 inside)⟩

/-- What holds no separator ends a text if it ends what stands behind a separator. -/
theorem suffix_append_sep_iff {sep : Char} {ending front back : List Char} (free : sep ∉ ending) :
    ending <:+ front ++ sep :: back ↔ ending <:+ back := by
  constructor
  · intro ends
    rcases List.suffix_or_suffix_of_suffix ends (List.suffix_append front (sep :: back)) with
      inside | around
    · exact (List.suffix_cons_iff.1 inside).resolve_left fun whole =>
        free (whole ▸ List.mem_cons_self)
    · exact absurd (around.subset List.mem_cons_self) free
  · exact fun ends => (ends.trans (List.suffix_cons sep back)).trans (List.suffix_append front _)

end Text

namespace Path

/-- A text that stands between the slashes of a path and says something. -/
def IsSegment (text : String) : Prop :=
  text ≠ "" ∧ text ≠ "." ∧ '/' ∉ text.toList

/-- Every segment of the path is one. -/
def Proper (path : Path) : Prop :=
  ∀ part ∈ path.parts, IsSegment part

/-! ## Segments of texts -/

theorem isSegment_of_mem_segments {text part : String} (mem : part ∈ segments text) :
    IsSegment part := by
  obtain ⟨among, kept⟩ := List.mem_filter.1 mem
  obtain ⟨piece, cut, rfl⟩ := List.mem_map.1 among
  simp only [Bool.and_eq_true, decide_eq_true_eq] at kept
  refine ⟨kept.1, kept.2, ?_⟩
  rw [String.toList_ofList]
  exact Text.sep_notMem_of_mem_pieces cut

theorem segments_append_slash (left right : String) :
    segments (left ++ "/" ++ right) = segments left ++ segments right := by
  have cut : (left ++ "/" ++ right).toList = left.toList ++ '/' :: right.toList := by
    simp
  unfold segments
  rw [cut, Text.pieces_append_sep, List.map_append, List.filter_append]

theorem segments_of_isSegment {text : String} (segment : IsSegment text) :
    segments text = [text] := by
  unfold segments
  rw [Text.pieces_of_notMem segment.2.2, List.map_singleton, String.ofList_toList,
    List.filter_cons_of_pos (by simp [segment.1, segment.2.1]), List.filter_nil]

@[simp]
theorem segments_empty : segments "" = [] := by
  simp [segments, Text.pieces]

@[simp]
theorem segments_slash : segments "/" = [] := by
  simp [segments, Text.pieces]

theorem segments_slash_append (text : String) : segments ("/" ++ text) = segments text := by
  have joined := segments_append_slash "" text
  rwa [String.empty_append, segments_empty, List.nil_append] at joined

theorem segments_append_slashes (text : String) (count : Nat) :
    segments (text ++ String.ofList (List.replicate count '/')) = segments text := by
  induction count with
  | zero => simp
  | succ count ih =>
    have joined : text ++ String.ofList (List.replicate (count + 1) '/') =
        text ++ String.ofList (List.replicate count '/') ++ "/" ++ "" := by
      rw [← String.toList_inj]
      simp [List.replicate_succ']
    rw [joined, segments_append_slash, ih, segments_empty, List.append_nil]

theorem exists_char_of_head? {text : String} (nonempty : text ≠ "")
    (plain : text.toList.head? ≠ some '/') : ∃ c ∈ text.toList, c ≠ '/' := by
  cases chars : text.toList with
  | nil => exact absurd (String.toList_eq_nil_iff.1 chars) nonempty
  | cons c rest =>
    rw [chars] at plain
    exact ⟨c, List.mem_cons_self, fun same => plain (congrArg some same)⟩

/-- A text that is made of slashes has no segments. -/
theorem exists_char_of_segments {text : String} (some_segment : segments text ≠ []) :
    ∃ c ∈ text.toList, c ≠ '/' := by
  by_contra none
  have slashes : ∀ c ∈ text.toList, c = '/' :=
    fun c mem => by_contra fun differs => none ⟨c, mem, differs⟩
  have written : text = "" ++ String.ofList (List.replicate text.toList.length '/') := by
    rw [← String.toList_inj, String.empty_append, String.toList_ofList]
    exact List.eq_replicate_iff.2 ⟨rfl, slashes⟩
  refine some_segment ?_
  rw [written, segments_append_slashes, segments_empty]

theorem segments_intercalate (texts : List String) :
    segments ("/".intercalate texts) = texts.flatMap segments := by
  induction texts with
  | nil => rw [String.intercalate_nil, segments_empty, List.flatMap_nil]
  | cons text rest ih =>
    cases rest with
    | nil => rw [String.intercalate_singleton, List.flatMap_singleton]
    | cons next more =>
      rw [String.intercalate_cons_cons, segments_append_slash, ih]
      rfl

theorem flatMap_segments {parts : List String} (proper : ∀ part ∈ parts, IsSegment part) :
    parts.flatMap segments = parts := by
  induction parts with
  | nil => rfl
  | cons part rest ih =>
    rw [List.flatMap_cons, segments_of_isSegment (proper part List.mem_cons_self),
      ih fun other mem => proper other (List.mem_cons_of_mem _ mem), List.singleton_append]

/-- Segments that are put together are taken apart again. -/
theorem segments_intercalate_self {parts : List String} (proper : ∀ part ∈ parts, IsSegment part) :
    segments ("/".intercalate parts) = parts := by
  rw [segments_intercalate, flatMap_segments proper]

theorem segments_slash_intercalate {parts : List String}
    (proper : ∀ part ∈ parts, IsSegment part) :
    segments ("/" ++ "/".intercalate parts) = parts := by
  rw [segments_slash_append, segments_intercalate_self proper]

theorem toList_intercalate_cons (part : String) {rest : List String} (some_part : rest ≠ []) :
    ("/".intercalate (part :: rest)).toList =
      part.toList ++ '/' :: ("/".intercalate rest).toList := by
  obtain ⟨next, more, rfl⟩ := List.exists_cons_of_ne_nil some_part
  rw [String.intercalate_cons_cons]
  simp

theorem toList_intercalate_ne_nil {parts : List String} (proper : ∀ part ∈ parts, IsSegment part)
    (some_part : parts ≠ []) : ("/".intercalate parts).toList ≠ [] := by
  intro none
  have whole := segments_intercalate_self proper
  rw [String.toList_eq_nil_iff.1 none, segments_empty] at whole
  exact some_part whole.symm

/-- The last segment of a text ends as the text does, unless the text ends with a slash or with
nothing but dots. -/
theorem exists_segments_concat {text : String} {ending : List Char} (ends : ending <:+ text.toList)
    (free : '/' ∉ ending) (named : ∃ c ∈ ending, c ≠ '.') :
    ∃ above name, segments text = above ++ [name] ∧ ending <:+ name.toList := by
  obtain ⟨c, mem, differs⟩ := named
  have segment : ∀ chars : List Char, ending <:+ chars → '/' ∉ chars →
      IsSegment (String.ofList chars) := by
    intro chars behind plain
    have inside : c ∈ (String.ofList chars).toList := by
      rw [String.toList_ofList]
      exact behind.subset mem
    refine ⟨?_, ?_, by rwa [String.toList_ofList]⟩
    · intro empty
      rw [empty] at inside
      cases inside
    · intro dot
      rw [dot] at inside
      exact differs (by simpa using inside)
  by_cases slash : '/' ∈ text.toList
  · obtain ⟨front, back, chars, plain⟩ := Text.exists_last_sep slash
    have behind : ending <:+ back := (Text.suffix_append_sep_iff free).1 (chars ▸ ends)
    have joined : text = String.ofList front ++ "/" ++ String.ofList back := by
      rw [← String.toList_inj, chars]
      simp
    refine ⟨segments (String.ofList front), String.ofList back, ?_, ?_⟩
    · rw [joined, segments_append_slash, segments_of_isSegment (segment _ behind plain)]
    · rwa [String.toList_ofList]
  · have whole := segment text.toList ends slash
    rw [String.ofList_toList] at whole
    exact ⟨[], text, segments_of_isSegment whole, ends⟩

/-! ## Paths and their texts -/

theorem proper_ofString (text : String) : (ofString text).Proper :=
  fun _ mem => isSegment_of_mem_segments mem

theorem Proper.div {base path : Path} (left : base.Proper) (right : path.Proper) :
    (base / path).Proper := by
  show (Path.append base path).Proper
  unfold Path.append
  split
  · exact right
  · intro part mem
    rcases List.mem_append.1 mem with mem | mem
    · exact left part mem
    · exact right part mem

theorem isAbsolute_div {base : Path} (absolute : base.isAbsolute = true) (path : Path) :
    (base / path).isAbsolute = true := by
  show (Path.append base path).isAbsolute = true
  unfold Path.append
  split
  · assumption
  · exact absolute

theorem anchorOf_cons (c : Char) (rest : List Char) :
    anchorOf (c :: rest) =
      if c = '/' then
        if rest.head? = some '/' ∧ (rest.drop 1).head? ≠ some '/' then .doubleRoot else .root
      else .relative := by
  rcases rest with _ | ⟨d, _ | ⟨e, more⟩⟩ <;> by_cases first : c = '/' <;> simp [anchorOf, first]
  · by_cases second : d = '/' <;> simp [second]
  · by_cases second : d = '/' <;> by_cases third : e = '/' <;> simp [second, third]

theorem head?_of_isAbsolute {text : String} (absolute : (ofString text).isAbsolute = true) :
    text.toList.head? = some '/' := by
  have anchored : anchorOf text.toList ≠ .relative := of_decide_eq_true absolute
  cases chars : text.toList with
  | nil =>
    rw [chars] at anchored
    exact absurd rfl anchored
  | cons c rest =>
    rw [chars, anchorOf_cons] at anchored
    by_cases slash : c = '/'
    · rw [slash, List.head?_cons]
    · rw [if_neg slash] at anchored
      exact absurd rfl anchored

theorem parts_ofString (text : String) : (ofString text).parts = segments text :=
  rfl

theorem div_eq_of_relative {base path : Path} (relative : path.isAbsolute = false) :
    base / path = ⟨base.anchor, base.parts ++ path.parts⟩ :=
  if_neg (by rw [relative]; exact Bool.false_ne_true)

theorem div_eq_of_isAbsolute {base path : Path} (absolute : path.isAbsolute = true) :
    base / path = path :=
  if_pos absolute

/-- What does not begin with a slash does not change the anchor. -/
theorem anchorOf_append (left : List Char) {right : List Char} (plain : right.head? ≠ some '/') :
    anchorOf (left ++ right) = anchorOf left := by
  rcases left with _ | ⟨c, _ | ⟨d, _ | ⟨e, more⟩⟩⟩
  · cases right with
    | nil => rfl
    | cons f rest => simp_all [anchorOf]
  all_goals simp [anchorOf_cons, plain]

theorem child_inj {directory : Path} {name other : String} :
    directory.child name = directory.child other ↔ name = other := by
  simp [child]

/-- A name that is one segment makes a path one longer. -/
theorem div_of_isSegment (directory : Path) {name : String} (segment : IsSegment name) :
    directory / ofString name = directory.child name := by
  have plain : name.toList.head? ≠ some '/' :=
    fun first => segment.2.2 (List.mem_of_head? first)
  have relative : ofString name = ⟨.relative, [name]⟩ := by
    unfold ofString
    rw [segments_of_isSegment segment, ← List.nil_append name.toList, anchorOf_append [] plain]
    rfl
  rw [relative, div_eq_of_relative rfl, child]

@[simp]
theorem anchorOf_text (anchor : Anchor) : anchorOf anchor.text.toList = anchor := by
  cases anchor <;> simp [Anchor.text, anchorOf]

theorem head?_intercalate_ne_slash {parts : List String}
    (proper : ∀ part ∈ parts, IsSegment part) :
    ("/".intercalate parts).toList.head? ≠ some '/' := by
  cases parts with
  | nil => simp
  | cons part rest =>
    obtain ⟨nonempty, -, free⟩ := proper part List.mem_cons_self
    cases chars : part.toList with
    | nil => exact absurd (String.toList_eq_nil_iff.1 chars) nonempty
    | cons c more =>
      have differs : c ≠ '/' := by
        rintro rfl
        exact free (chars ▸ List.mem_cons_self)
      cases rest with
      | nil => simp [chars, differs]
      | cons next others => simp [chars, differs]

/-- Segments that are put together make a relative path. -/
theorem ofString_intercalate {parts : List String} (proper : ∀ part ∈ parts, IsSegment part) :
    ofString ("/".intercalate parts) = ⟨.relative, parts⟩ := by
  have anchor := anchorOf_append [] (head?_intercalate_ne_slash proper)
  rw [List.nil_append] at anchor
  rw [ofString, anchor, segments_intercalate_self proper]
  rfl

theorem getLast?_intercalate_ne_slash {parts : List String}
    (proper : ∀ part ∈ parts, IsSegment part) :
    ("/".intercalate parts).toList.getLast? ≠ some '/' := by
  rcases List.eq_nil_or_concat' parts with rfl | ⟨earlier, part, rfl⟩
  · simp
  · obtain ⟨nonempty, -, free⟩ := proper part (by simp)
    have chars : part.toList ≠ [] := fun none => nonempty (String.toList_eq_nil_iff.1 none)
    have ends : ∃ front, ("/".intercalate (earlier ++ [part])).toList = front ++ part.toList := by
      by_cases single : earlier = []
      · exact ⟨[], by simp [single]⟩
      · rw [String.intercalate_append_of_ne_nil single (List.cons_ne_nil _ _),
          String.intercalate_singleton, String.toList_append]
        exact ⟨_, rfl⟩
    obtain ⟨front, joined⟩ := ends
    rw [joined, List.getLast?_append_of_ne_nil _ chars]
    exact fun slash => free (List.mem_of_getLast? slash)

variable {path : Path}

/-- A path is its anchor and its parts with slashes between them, unless it is empty. -/
theorem toString_cases (path : Path) :
    (path.anchor = .relative ∧ path.parts = [] ∧ path.toString = ".") ∨
      path.toString = path.anchor.text ++ "/".intercalate path.parts := by
  unfold Path.toString
  split
  next bare =>
    rw [Bool.and_eq_true, List.isEmpty_iff] at bare
    exact Or.inl ⟨of_decide_eq_true bare.1, bare.2, rfl⟩
  next => exact Or.inr rfl

theorem toString_of_parts (nonempty : path.parts ≠ []) :
    path.toString = path.anchor.text ++ "/".intercalate path.parts := by
  unfold Path.toString
  rw [if_neg (by simp [nonempty])]

theorem toString_of_isAbsolute (absolute : path.isAbsolute = true) :
    path.toString = path.anchor.text ++ "/".intercalate path.parts := by
  unfold Path.toString
  have anchored : path.anchor ≠ .relative := of_decide_eq_true absolute
  rw [if_neg (by simp [anchored])]

theorem segments_anchor_append (anchor : Anchor) (text : String) :
    segments (anchor.text ++ text) = segments text := by
  cases anchor with
  | relative => rw [Anchor.text, String.empty_append]
  | root => exact segments_slash_append text
  | doubleRoot =>
    have joined := segments_append_slash "/" text
    rwa [segments_slash, List.nil_append] at joined

/-- Only the empty relative path has no text of its own. -/
theorem toString_eq_ite {anchor : Anchor} {parts : List String}
    (proper : ∀ part ∈ parts, IsSegment part) :
    (⟨anchor, parts⟩ : Path).toString =
      if anchor.text ++ "/".intercalate parts = "" then "."
      else anchor.text ++ "/".intercalate parts := by
  cases parts with
  | nil => cases anchor <;> simp [Path.toString, Anchor.text]
  | cons part rest =>
    have nonempty : anchor.text ++ "/".intercalate (part :: rest) ≠ "" := by
      intro empty
      have whole := congrArg segments empty
      rw [segments_anchor_append, segments_intercalate_self proper, segments_empty] at whole
      cases whole
    rw [if_neg nonempty, Path.toString, if_neg (by simp)]

theorem segments_toString (proper : path.Proper) : segments path.toString = path.parts := by
  rcases path.toString_cases with ⟨-, empty, written⟩ | written
  · rw [written, empty]
    simp [segments, Text.pieces]
  · rw [written, segments_anchor_append, segments_intercalate_self proper]

theorem anchorOf_toString (proper : path.Proper) :
    anchorOf path.toString.toList = path.anchor := by
  rcases path.toString_cases with ⟨relative, -, written⟩ | written
  · rw [written, relative]
    rfl
  · rw [written, String.toList_append, anchorOf_append _ (head?_intercalate_ne_slash proper),
      anchorOf_text]

/-- A path is the one that is read from its text. -/
theorem ofString_toString (proper : path.Proper) : ofString path.toString = path := by
  unfold ofString
  rw [segments_toString proper, anchorOf_toString proper]

theorem toString_inj {left right : Path} (proper : left.Proper) (proper' : right.Proper) :
    left.toString = right.toString ↔ left = right := by
  constructor
  · intro same
    rw [← ofString_toString proper, same, ofString_toString proper']
  · rintro rfl
    rfl

end Path

end TestImpact
