import Mathlib.Data.List.Permutation
import Mathlib.Data.String.Basic
import TestImpact.Proofs.Discovery.Listing

/-!
# How listings are sorted

A listing goes through the tree as a walk does: the files of a directory come first, by name, and
then what lies in each of its directories, also by name (`FileSystem.Earlier`). The texts of the
files are in another order. The slash behind the name of a directory counts in them, and they know
no files that come first, so what a walk lists later may have the smaller text (`Crossed`). A
listing is sorted exactly if this happens nowhere in it. Main statement: `sorted_unless_crossed`.
-/

namespace TestImpact

/-! ## Texts and separators -/

namespace Text

theorem append_lt_append_iff {above left right : List Char} :
    above ++ left < above ++ right ↔ left < right := by
  induction above with
  | nil => rfl
  | cons c rest ih => rw [List.cons_append, List.cons_append, List.cons_lt_cons_self, ih]

/-- What stands behind a separator does not matter to a text without one. -/
theorem lt_append_sep_iff {sep : Char} {left right behind : List Char} (free : sep ∉ left) :
    left < right ++ sep :: behind ↔ left < right ++ [sep] := by
  induction left generalizing right with
  | nil => cases right <;> simp
  | cons c rest ih =>
    rw [List.mem_cons, not_or] at free
    cases right with
    | nil => simp [List.cons_lt_cons_iff, Ne.symm free.1]
    | cons d more =>
      rw [List.cons_append, List.cons_append, List.cons_lt_cons_iff, List.cons_lt_cons_iff,
        ih free.2]

/-- Two different texts with a separator behind them are ordered by what stands before it. -/
theorem append_sep_lt_append_sep_iff {sep : Char} {left right behind behind' : List Char}
    (free : sep ∉ left) (free' : sep ∉ right) (differ : left ≠ right) :
    left ++ sep :: behind < right ++ sep :: behind' ↔ left ++ [sep] < right ++ [sep] := by
  induction left generalizing right with
  | nil =>
    cases right with
    | nil => exact absurd rfl differ
    | cons d more =>
      rw [List.mem_cons, not_or] at free'
      simp [List.cons_lt_cons_iff, free'.1]
  | cons c rest ih =>
    rw [List.mem_cons, not_or] at free
    cases right with
    | nil => simp [List.cons_lt_cons_iff, Ne.symm free.1]
    | cons d more =>
      rw [List.mem_cons, not_or] at free'
      rw [List.cons_append, List.cons_append, List.cons_append, List.cons_append,
        List.cons_lt_cons_iff, List.cons_lt_cons_iff]
      refine or_congr_right (and_congr_right fun same => ih free.2 free'.2 fun alike => ?_)
      exact differ (by rw [same, alike])

end Text

/-! ## The order of a walk -/

namespace FileSystem

variable {fs : FileSystem} {location above first second : Location} {suffix : String}

/-- A walk lists the first before the second. -/
def Earlier (first second : Location) : Prop :=
  walkOrder first second = true ∧ first ≠ second

instance : DecidableRel Earlier :=
  fun first second => inferInstanceAs (Decidable (walkOrder first second = true ∧ first ≠ second))

theorem Earlier.asymm (earlier : Earlier first second) : ¬ Earlier second first :=
  fun back => earlier.2 (walkOrder_antisymm first second earlier.1 back.1)

/-- The files below a directory come in the order of a walk. -/
theorem pairwise_filesBelow (fs : FileSystem) (directory : Location) :
    (fs.filesBelow directory).Pairwise Earlier :=
  (List.pairwise_mergeSort walkOrder_trans walkOrder_total _).and (nodup_filesBelow fs directory)

/-- Directories that are entered on both ways do not matter. -/
theorem earlier_append_iff (some_first : first ≠ []) (some_second : second ≠ []) :
    Earlier (above ++ first) (above ++ second) ↔ Earlier first second := by
  refine and_congr ?_ (not_congr (List.append_right_inj above))
  induction above with
  | nil => rfl
  | cons name rest ih =>
    have some_first' : rest ++ first ≠ [] := List.append_ne_nil_of_right_ne_nil _ some_first
    have some_second' : rest ++ second ≠ [] := List.append_ne_nil_of_right_ne_nil _ some_second
    rw [List.cons_append, List.cons_append, walkOrder_cons, ← ih]
    simp [some_first', some_second']

/-- Where two ways fork, a file comes before a directory, and otherwise the smaller name first. -/
theorem earlier_cons_iff {a b : String} {as bs : Location} (differ : a ≠ b) :
    Earlier (a :: as) (b :: bs) ↔ as = [] ∧ bs ≠ [] ∨ (as = [] ↔ bs = []) ∧ a < b := by
  have strict : a ≤ b ↔ a < b := ⟨fun below => lt_of_le_of_ne below differ, le_of_lt⟩
  have apart : a :: as ≠ b :: bs := fun same => differ (List.cons.inj same).1
  rw [Earlier, and_iff_left apart, walkOrder_cons, strict]
  by_cases file : as = [] <;> by_cases file' : bs = [] <;> simp [file, file', differ]

/-- Two ways of which neither goes on behind the other fork. -/
theorem exists_fork {first second : Location} (ends : ¬ first <+: second)
    (ends' : ¬ second <+: first) :
    ∃ above a as b bs, first = above ++ a :: as ∧ second = above ++ b :: bs ∧ a ≠ b := by
  induction first generalizing second with
  | nil => exact absurd List.nil_prefix ends
  | cons a as ih =>
    cases second with
    | nil => exact absurd List.nil_prefix ends'
    | cons b bs =>
      by_cases same : a = b
      · subst same
        rw [List.cons_prefix_cons, and_iff_right rfl] at ends ends'
        obtain ⟨above, c, cs, d, ds, rfl, rfl, differ⟩ := ih ends ends'
        exact ⟨a :: above, c, cs, d, ds, rfl, rfl, differ⟩
      · exact ⟨[], a, as, b, bs, rfl, rfl, same⟩

/-! ## Crossings -/

/-- Some entry is listed under these names. -/
def ListedAs (fs : FileSystem) (location : Location) (suffix : String) (names : Location) : Prop :=
  ∃ node, fs.Listed location suffix names node

/-- What a walk lists first has the greater text: a file beside a directory in which something is
listed, or what is listed in one directory beside another one. -/
inductive Crossed (fs : FileSystem) (location : Location) (suffix : String) : Prop
  | file (above : Location) (file directory : String) (rest : Location) :
      fs.ListedAs location suffix (above ++ [file]) →
      fs.ListedAs location suffix (above ++ directory :: rest) → rest ≠ [] →
      directory ++ "/" < file → Crossed fs location suffix
  | directory (above : Location) (first second : String) (rest rest' : Location) :
      fs.ListedAs location suffix (above ++ first :: rest) → rest ≠ [] →
      fs.ListedAs location suffix (above ++ second :: rest') → rest' ≠ [] →
      first < second → second ++ "/" < first ++ "/" → Crossed fs location suffix

/-- Nothing that is listed lies behind something else that is listed. -/
theorem ListedAs.not_prefix (listed : fs.ListedAs location suffix first)
    (listed' : fs.ListedAs location suffix second) (differ : first ≠ second) :
    ¬ first <+: second := by
  obtain ⟨node, inside, plain, -⟩ := listed
  obtain ⟨node', inside', -, -⟩ := listed'
  intro behind
  have found := (inside_iff.1 inside).2
  have closed : fs.node? (location ++ first) ≠ some .directory := by
    intro directory
    rw [found, Option.some.injEq] at directory
    subst directory
    cases plain
  have nothing := none_below closed ((List.prefix_append_right_inj location).2 behind)
    fun same => differ (List.append_cancel_left same).symm
  cases nothing.symm.trans (inside_iff.1 inside').2

theorem ListedAs.isSegment (listed : fs.ListedAs location suffix first) :
    ∀ name ∈ first, Path.IsSegment name :=
  fun name mem => (isSegment_of_isName (listed.choose_spec.inside.isName name mem)).1

end FileSystem

/-! ## The texts of a listing -/

namespace Resolver

open CoverageIndex (anchored)
open FileSystem (Earlier)

variable {fs : FileSystem} {base : Option Path} {directory suffix : String} {location : Location}
  {above rest rest' : Location} {a b : String} {names : List Location}

/-- The directory that is listed and directories on both ways do not matter. -/
theorem fileText_lt_iff {first second : Location} (some_first : first ≠ [])
    (some_second : second ≠ []) :
    fileText directory (above ++ first) < fileText directory (above ++ second) ↔
      "/".intercalate first < "/".intercalate second := by
  have behind : ∃ front : String, ∀ names : Location, names ≠ [] →
      fileText directory (above ++ names) = front ++ "/".intercalate names := by
    by_cases top : above = []
    · refine ⟨Lexical.withoutTrailingSlashes directory ++ "/", fun names _ => ?_⟩
      rw [fileText, top]
      rfl
    · refine ⟨Lexical.withoutTrailingSlashes directory ++ "/" ++ "/".intercalate above ++ "/",
        fun names some_name => ?_⟩
      rw [fileText, String.intercalate_append_of_ne_nil top some_name]
      simp only [String.append_assoc]
  obtain ⟨front, written⟩ := behind
  rw [written first some_first, written second some_second, String.lt_iff_toList_lt,
    String.toList_append, String.toList_append, Text.append_lt_append_iff,
    ← String.lt_iff_toList_lt]

/-- The name of a directory counts with its slash. -/
theorem file_lt_directory_iff (proper : Path.IsSegment a) (some_left : rest ≠ []) :
    "/".intercalate [a] < "/".intercalate (b :: rest) ↔ a < b ++ "/" := by
  rw [String.intercalate_singleton, String.lt_iff_toList_lt,
    Path.toList_intercalate_cons _ some_left, Text.lt_append_sep_iff proper.2.2,
    String.lt_iff_toList_lt, String.toList_append]
  rfl

theorem directory_lt_directory_iff (proper : Path.IsSegment a) (proper' : Path.IsSegment b)
    (differ : a ≠ b) (some_left : rest ≠ []) (some_left' : rest' ≠ []) :
    "/".intercalate (a :: rest) < "/".intercalate (b :: rest') ↔ a ++ "/" < b ++ "/" := by
  have texts_differ : a.toList ≠ b.toList := fun same => differ (String.toList_inj.1 same)
  rw [String.lt_iff_toList_lt, Path.toList_intercalate_cons _ some_left,
    Path.toList_intercalate_cons _ some_left',
    Text.append_sep_lt_append_sep_iff proper.2.2 proper'.2.2 texts_differ, String.lt_iff_toList_lt,
    String.toList_append, String.toList_append]
  rfl

/-- Without a crossing what a walk lists first has the smaller text. -/
theorem fileText_lt_of_not_crossed (straight : ¬ fs.Crossed location suffix)
    {first second : Location} (listed : fs.ListedAs location suffix first)
    (listed' : fs.ListedAs location suffix second) (earlier : Earlier first second) :
    fileText directory first < fileText directory second := by
  obtain ⟨above, a, as, b, bs, rfl, rfl, differ⟩ :=
    FileSystem.exists_fork (listed.not_prefix listed' earlier.2)
      (listed'.not_prefix listed (Ne.symm earlier.2))
  have proper : Path.IsSegment a := listed.isSegment a (by simp)
  have proper' : Path.IsSegment b := listed'.isSegment b (by simp)
  rw [FileSystem.earlier_append_iff (List.cons_ne_nil _ _) (List.cons_ne_nil _ _),
    FileSystem.earlier_cons_iff differ] at earlier
  rw [fileText_lt_iff (List.cons_ne_nil _ _) (List.cons_ne_nil _ _)]
  by_cases file : as = []
  · subst file
    by_cases file' : bs = []
    · subst file'
      simpa using earlier
    · rw [file_lt_directory_iff proper file']
      by_contra later
      have distinct : a ≠ b ++ "/" := by
        rintro rfl
        exact proper.2.2 (by simp)
      exact straight (.file above a b bs listed listed' file'
        (Std.lt_of_le_of_ne (String.not_lt.1 later) (Ne.symm distinct)))
  · have file' : bs ≠ [] := by
      rintro rfl
      simp [file] at earlier
    have smaller : a < b := by simpa [file, file'] using earlier
    rw [directory_lt_directory_iff proper proper' differ file file']
    by_contra later
    have distinct : b ++ "/" ≠ a ++ "/" := fun same =>
      differ ((String.append_left_inj "/").1 same).symm
    exact straight (.directory above a b as bs listed file listed' file' smaller
      (Std.lt_of_le_of_ne (String.not_lt.1 later) distinct))

/-- At a crossing what a walk lists first has the greater text. -/
theorem exists_of_crossed (directory : String) (crossed : fs.Crossed location suffix) :
    ∃ first second, fs.ListedAs location suffix first ∧ fs.ListedAs location suffix second ∧
      Earlier first second ∧ ¬ fileText directory first < fileText directory second := by
  cases crossed with
  | file above file other rest listed listed' some_left smaller =>
    have proper : Path.IsSegment file := listed.isSegment file (by simp)
    have differ : file ≠ other := by
      rintro rfl
      exact listed.not_prefix listed' (by simpa using Ne.symm some_left)
        ((List.prefix_append_right_inj above).2 (by simp))
    refine ⟨_, _, listed, listed', ?_, ?_⟩
    · rw [FileSystem.earlier_append_iff (List.cons_ne_nil _ _) (List.cons_ne_nil _ _),
        FileSystem.earlier_cons_iff differ]
      exact Or.inl ⟨rfl, some_left⟩
    · rw [fileText_lt_iff (List.cons_ne_nil _ _) (List.cons_ne_nil _ _),
        file_lt_directory_iff proper some_left]
      exact String.lt_asymm smaller
  | directory above a b as bs listed some_left listed' some_left' smaller greater =>
    have proper : Path.IsSegment a := listed.isSegment a (by simp)
    have proper' : Path.IsSegment b := listed'.isSegment b (by simp)
    have differ : a ≠ b := ne_of_lt smaller
    refine ⟨_, _, listed, listed', ?_, ?_⟩
    · rw [FileSystem.earlier_append_iff (List.cons_ne_nil _ _) (List.cons_ne_nil _ _),
        FileSystem.earlier_cons_iff differ]
      exact Or.inr ⟨iff_of_false some_left some_left', smaller⟩
    · rw [fileText_lt_iff (List.cons_ne_nil _ _) (List.cons_ne_nil _ _),
        directory_lt_directory_iff proper proper' differ some_left some_left']
      exact String.lt_asymm greater

/-- In a list that is sorted by a walk, every pair stands in the order of the walk. -/
theorem pairwise_iff_of_earlier {order : Location → Location → Prop}
    (walked : names.Pairwise Earlier) : names.Pairwise order ↔
      ∀ first ∈ names, ∀ second ∈ names, Earlier first second → order first second := by
  constructor
  · intro ordered first mem second mem' earlier
    obtain ⟨i, short, rfl⟩ := List.mem_iff_getElem.1 mem
    obtain ⟨j, short', rfl⟩ := List.mem_iff_getElem.1 mem'
    rcases Nat.lt_trichotomy i j with before | rfl | behind
    · exact List.pairwise_iff_getElem.1 ordered i j short short' before
    · exact absurd rfl earlier.2
    · exact absurd (List.pairwise_iff_getElem.1 walked j i short' short behind) earlier.asymm
  · intro ordered
    exact walked.imp_of_mem fun {first second} mem mem' earlier =>
      ordered first mem second mem' earlier

/-- A listing names the files of a directory by name and then, also by name, goes through the
directories in it. So its texts are sorted exactly if nothing in it is crossed: if every file has a
smaller name than each directory beside it has with its slash, and directories are in the same order
with their slashes as without, as far as anything in them is listed. Where no directory is, nothing
is listed. -/
theorem sorted_unless_crossed (fs : FileSystem) (base : Option Path) (directory suffix : String) :
    (∀ location, fs.locate true (anchored base directory) = .ok (.entry location .directory) →
      ∃ names : List Location,
        testsBelow fs base directory suffix = .ok (names.map (fileText directory)) ∧
        names.Pairwise Earlier ∧
        ((names.map (fileText directory)).Pairwise (· < ·) ↔ ¬ fs.Crossed location suffix)) ∧
    (fs.isDirectory (anchored base directory) = .ok false →
      testsBelow fs base directory suffix = .ok []) := by
  refine ⟨fun location led => ⟨_, testsBelow_of_directory led, ?_⟩, testsBelow_of_not_directory⟩
  have walked : ((fs.filesBelow location).filter fun names =>
      Convention.endsWith (names.getLastD "") suffix).Pairwise Earlier :=
    (FileSystem.pairwise_filesBelow fs location).sublist List.filter_sublist
  have listed_iff : ∀ names, names ∈ _ ↔ fs.ListedAs location suffix names :=
    fun names => FileSystem.mem_filter_filesBelow_iff (FileSystem.node?_of_locate led)
  refine ⟨walked, ?_⟩
  rw [List.pairwise_map, pairwise_iff_of_earlier walked]
  constructor
  · intro sorted crossed
    obtain ⟨first, second, listed, listed', earlier, greater⟩ := exists_of_crossed directory crossed
    exact greater
      (sorted first ((listed_iff first).2 listed) second ((listed_iff second).2 listed') earlier)
  · intro straight first mem second mem' earlier
    exact fileText_lt_of_not_crossed straight ((listed_iff first).1 mem)
      ((listed_iff second).1 mem') earlier

end Resolver

/-- A project with a test beside a directory that holds another test. -/
def SmallProject.crossed : FileSystem :=
  .ofListing
    [(["p"], .directory), (["p", "test"], .directory), (["p", "test", "A"], .directory),
      (["p", "test", "A", "ATest.php"], .file [] false),
      (["p", "test", "BTest.php"], .file [] false)]
    ["p"] (by decide +kernel)

namespace Resolver

open CoverageIndex (anchored)

/-- The test is listed before the directory that has the smaller name. -/
theorem unsorted_beside_directory :
    testsBelow SmallProject.crossed (some (Path.ofString "/p")) "test" "Test.php" =
        .ok ["test/BTest.php", "test/A/ATest.php"] ∧
      SmallProject.crossed.Crossed ["p", "test"] "Test.php" ∧
      ¬ ["test/BTest.php", "test/A/ATest.php"].Pairwise (· < ·) := by
  have led : SmallProject.crossed.locate true (anchored (some (Path.ofString "/p")) "test") =
      .ok (.entry ["p", "test"] .directory) := by
    decide +kernel
  have listed : SmallProject.crossed.ListedAs ["p", "test"] "Test.php" ["BTest.php"] :=
    ⟨_, .entry rfl, rfl, by decide +kernel⟩
  have listed' : SmallProject.crossed.ListedAs ["p", "test"] "Test.php" ["A", "ATest.php"] :=
    ⟨_, .enter rfl (.entry rfl), rfl, by decide +kernel⟩
  have crossed : SmallProject.crossed.Crossed ["p", "test"] "Test.php" :=
    .file [] "BTest.php" "A" ["ATest.php"] listed listed' (List.cons_ne_nil _ _) (by decide +kernel)
  have evaluated : testsBelow SmallProject.crossed (some (Path.ofString "/p")) "test" "Test.php" =
      .ok ["test/BTest.php", "test/A/ATest.php"] := by
    rw [testsBelow_of_directory led]
    cbv
  obtain ⟨names, found, -, sorted_iff⟩ := (sorted_unless_crossed SmallProject.crossed
    (some (Path.ofString "/p")) "test" "Test.php").1 _ led
  rw [Except.ok.inj (found.symm.trans evaluated)] at sorted_iff
  exact ⟨evaluated, crossed, fun sorted => sorted_iff.1 sorted crossed⟩

end Resolver

end TestImpact
