import TestImpact.Proofs.Report.NamedFiles

/-!
# Lines that line feeds end

Coverage is reported for lines that line feeds end. A source file is cut into lines at other
characters as well (`Text.isLineEnd`), such as a form feed or a line separator, and each of these
stray ends of a line inside of a text makes its count one too large (`Text.length_splitLines`). So
the number of lines is the right one exactly for a text without stray ends, the last character
apart, and what a coverage map says of a file has one letter for each line that was counted
(`LineCounts.count_unless_stray`).
-/

namespace TestImpact

/-! ## Texts -/

namespace Text

variable {c d : Char} {text rest : List Char}

/-- The number of lines of a text in which line feeds alone end lines. -/
def fedLines (text : List Char) : Nat :=
  text.count '\n' + if text.getLast?.any (· ≠ '\n') then 1 else 0

/-- Does a character end a line without being a line feed? -/
def isStray (c : Char) : Bool :=
  isLineEnd c && c ≠ '\n'

theorem carriageReturn_notMem_unifyNewlines (text : List Char) : '\r' ∉ unifyNewlines text := by
  fun_induction unifyNewlines text with
  | case1 => exact List.not_mem_nil
  | case2 rest ih => simpa using ih
  | case3 rest _ ih => simpa using ih
  | case4 c rest _ differs ih =>
    intro mem
    rcases List.mem_cons.1 mem with rfl | later
    · exact differs rfl
    · exact ih later

theorem length_extendFirst (c : Char) (lines : List (List Char)) :
    (extendFirst c lines).length = max 1 lines.length := by
  cases lines with
  | nil => rfl
  | cons line more => simp [extendFirst]

theorem splitLines_cons (plain : c ≠ '\r') (rest : List Char) :
    splitLines (c :: rest) =
      if isLineEnd c then [] :: splitLines rest else extendFirst c (splitLines rest) := by
  rw [splitLines.eq_def]
  split
  · contradiction
  next same =>
    cases same
    exact absurd rfl plain
  next same =>
    cases same
    rfl

theorem length_splitLines_pos (plain : c ≠ '\r') (rest : List Char) :
    0 < (splitLines (c :: rest)).length := by
  rw [splitLines_cons plain]
  split
  · exact Nat.succ_pos _
  · rw [length_extendFirst]
    omega

/-- In front of another character, one that ends a line makes one line more. -/
theorem length_splitLines_cons_cons (plain : c ≠ '\r') (plain' : d ≠ '\r') (rest : List Char) :
    (splitLines (c :: d :: rest)).length =
      (splitLines (d :: rest)).length + if isLineEnd c then 1 else 0 := by
  have some_line := length_splitLines_pos plain' rest
  rw [splitLines_cons plain]
  split
  · rfl
  · rw [length_extendFirst]
    omega

theorem isLineEnd_count (c : Char) :
    (if isLineEnd c then 1 else 0) = (if c = '\n' then 1 else 0) + if isStray c then 1 else 0 := by
  by_cases feed : c = '\n'
  · subst feed
    rfl
  · simp [isStray, feed]

theorem fedLines_cons_cons (c d : Char) (rest : List Char) :
    fedLines (c :: d :: rest) = fedLines (d :: rest) + if c = '\n' then 1 else 0 := by
  unfold fedLines
  rw [List.getLast?_cons_cons, List.count_cons]
  simp only [beq_iff_eq]
  omega

/-- Without carriage returns a text has its lines between line feeds, and one line more for each
other character in it that ends a line, unless that is the last character. -/
theorem length_splitLines (unified : '\r' ∉ text) :
    (splitLines text).length = fedLines text + text.dropLast.countP isStray := by
  induction text with
  | nil => rfl
  | cons c rest ih =>
    rw [List.mem_cons, not_or] at unified
    have plain : c ≠ '\r' := Ne.symm unified.1
    cases rest with
    | nil =>
      -- A last line is one line, whatever ends it.
      have alone : (splitLines [c]).length = 1 := by
        rw [splitLines_cons plain]
        split <;> rfl
      have fed : fedLines [c] = 1 := by
        by_cases feed : c = '\n' <;> simp [fedLines, feed]
      rw [alone, fed]
      rfl
    | cons d more =>
      have plain' : d ≠ '\r' := fun same => unified.2 (same ▸ List.mem_cons_self)
      rw [length_splitLines_cons_cons plain plain', ih unified.2, fedLines_cons_cons,
        List.dropLast_cons_cons, List.countP_cons, isLineEnd_count]
      omega

end Text

/-! ## Source files -/

namespace LineCounts

variable {fs : FileSystem} {root : Path} {path content : String} {counts : LineCounts}

/-- A path leads to a source file that holds a text. A file that is missing holds the empty one. -/
def Holds (fs : FileSystem) (root : Path) (path content : String) : Prop :=
  fs.readText (root / Path.ofString path) = .ok content ∨
    fs.readText (root / Path.ofString path) = .error .missing ∧ content = ""

theorem carriageReturn_notMem_of_holds (holds : Holds fs root path content) :
    '\r' ∉ content.toList := by
  rcases holds with read | ⟨-, rfl⟩
  · obtain ⟨bytes, -, unified⟩ := of_bind_ok read
    rw [← Except.ok.inj unified, FileSystem.unified, String.toList_ofList]
    exact Text.carriageReturn_notMem_unifyNewlines _
  · exact List.not_mem_nil

theorem read_eq_ok_iff {lines : Nat} : read fs root path = .ok lines ↔
    ∃ content, Holds fs root path content ∧ lines = ofText content := by
  unfold read Holds
  cases fs.readText (root / Path.ofString path) with
  | ok text => simp [eq_comm]
  | error fault =>
    cases fault
    case missing =>
      have nothing : ofText "" = 0 := rfl
      simp [nothing, eq_comm]
    all_goals simp

/-- The lines of a source file are counted at the line feeds of its text, and at each stray end of a
line inside of it. -/
theorem ofText_eq (holds : Holds fs root path content) :
    ofText content = Text.fedLines content.toList + content.toList.dropLast.countP Text.isStray :=
  Text.length_splitLines (carriageReturn_notMem_of_holds holds)

/-- The number of lines of a source file, known or not, is that of the lines which line feeds end in
its text, and one more for each other end of a line in front of the last character. So it is the
number of the first exactly if there is no such character. Of each file that it lists, a coverage map
holds one letter for each line that is counted so. -/
theorem count_unless_stray (right : answer fs root counts = answer fs root []) :
    (∀ path content, Holds fs root path content →
      ∃ lines : Nat, ((count fs root path).run.run counts).1 = .ok (lines : Int) ∧
        lines = Text.fedLines content.toList + content.toList.dropLast.countP Text.isStray ∧
        (lines = Text.fedLines content.toList ↔
          ∀ c ∈ content.toList.dropLast, Text.isLineEnd c = true → c = '\n')) ∧
    ∀ cwd xml found,
      ((Clover.parse cwd root (count fs root) xml).run.run counts).1 = .ok found →
      ∀ path states, (path, states) ∈ found → ∃ content, Holds fs root path content ∧
        (LineState.text states).toList.length =
          Text.fedLines content.toList + content.toList.dropLast.countP Text.isStray := by
  constructor
  · intro path content holds
    have answered : answer fs root [] path = .ok (ofText content : Int) := by
      have found := read_eq_ok_iff.2 ⟨content, holds, rfl⟩
      rw [answer, List.lookup_nil, found]
      rfl
    refine ⟨ofText content, ?_, ofText_eq holds, ?_⟩
    · rw [(asks_count path counts rfl).1, right, answered]
    · rw [ofText_eq holds, Nat.add_eq_left, List.countP_eq_zero]
      simp [Text.isStray]
  · intro cwd xml found ok path states mem
    rw [(asks_parse cwd xml counts right).1] at ok
    obtain ⟨document, parsed⟩ : ∃ document, Xml.parse xml = .ok document := by
      cases parsed : Xml.parse xml with
      | ok document => exact ⟨document, rfl⟩
      | error problem =>
        rw [Clover.parse, parsed] at ok
        cases ok
    obtain ⟨file, lines, -, counted, rfl⟩ := Clover.of_mem_coverage parsed ok mem
    obtain ⟨number, read, rfl⟩ := of_map_ok counted
    obtain ⟨content, holds, rfl⟩ := read_eq_ok_iff.1 read
    refine ⟨content, holds, ?_⟩
    rw [LineState.text, String.toList_ofList, List.length_map, Clover.length_statesOf,
      ← ofText_eq holds]
    rfl

/-- A source file with a form feed in its second line and a vertical tab at its end. -/
def formFeed : FileSystem :=
  .ofListing [(["p"], .directory),
    (["p", "A.php"], .file (Utf8.encode "<?php\n/* \x0c */\n\x0b") false)] ["p"] (by decide +kernel)

/-- The form feed makes a fourth line of three, and the vertical tab does not make a fifth. -/
theorem count_of_formFeed :
    answer formFeed (Path.ofString "/p") [("A.php", 4)] = answer formFeed (Path.ofString "/p") [] ∧
      Holds formFeed (Path.ofString "/p") "A.php" "<?php\n/* \x0c */\n\x0b" ∧
      ((count formFeed (Path.ofString "/p") "A.php").run.run [("A.php", 4)]).1 = .ok 4 ∧
      Text.fedLines "<?php\n/* \x0c */\n\x0b".toList = 3 := by
  have holds : Holds formFeed (Path.ofString "/p") "A.php" "<?php\n/* \x0c */\n\x0b" :=
    Or.inl (by decide +kernel)
  have read : LineCounts.read formFeed (Path.ofString "/p") "A.php" = .ok 4 := by decide +kernel
  have right : answer formFeed (Path.ofString "/p") [("A.php", 4)] =
      answer formFeed (Path.ofString "/p") [] :=
    answer_set rfl read
  obtain ⟨lines, counted, whole, -⟩ := (count_unless_stray right).1 _ _ holds
  refine ⟨right, holds, ?_, by decide +kernel⟩
  rw [whole] at counted
  exact counted

end LineCounts

end TestImpact
