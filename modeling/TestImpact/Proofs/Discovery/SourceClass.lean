import Mathlib.Data.List.Infix
import TestImpact.Proofs.Discovery.CoversTag
import TestImpact.Proofs.Outcome
import TestImpact.Proofs.Path.Segments
import TestImpact.Proofs.SmallProject

/-!
# The class of a source file

The class that a source file declares is found behind the first `namespace` of its text that a blank
follows, and a file without one declares a class of no namespace. The name of the namespace is read
up to the last semicolon of its line, not up to the first one, so what stands behind a declaration on
its line belongs to the name if there is a semicolon in it (`overrun`). All in all the class is the
one that the text declares exactly if there is none (`CoversTag.class_unless_overrun`).
-/

namespace TestImpact

/-! ## Cuts at the last character of a kind -/

namespace Text

variable {p : Char → Bool} {c : Char} {text front back : List Char}

/-- A text without its end, up to the last character of a kind. -/
theorem dropWhile_reverse_append (stop : p c = false) (front : List Char)
    (all : ∀ d ∈ back, p d = true) :
    (front ++ c :: back).reverse.dropWhile p = c :: front.reverse := by
  rw [List.reverse_append, List.reverse_cons, List.append_assoc,
    List.dropWhile_append_of_pos fun d mem => all d (List.mem_reverse.1 mem),
    List.singleton_append, List.dropWhile_cons_of_neg (by simp [stop])]

/-- What is taken off the end of a text lies behind the last character of another kind. -/
theorem trimRightOf_append (stop : p c = false) (front back : List Char) :
    trimRightOf p (front ++ c :: back) = front ++ c :: trimRightOf p back := by
  unfold trimRightOf
  rw [List.reverse_append, List.reverse_cons, List.append_assoc, List.dropWhile_append]
  split
  next none_left =>
    rw [List.isEmpty_iff.1 none_left, List.singleton_append,
      List.dropWhile_cons_of_neg (by simp [stop])]
    simp
  next => simp

theorem trimLeftOf_of_head? (starts : ∀ c, text.head? = some c → p c = false) :
    trimLeftOf p text = text := by
  cases text with
  | nil => rfl
  | cons c rest => exact List.dropWhile_cons_of_neg (by simp [starts c rfl])

theorem trimOf_of_forall (none_of : ∀ c ∈ text, p c = false) : trimOf p text = text := by
  rw [trimOf, trimLeftOf_of_head? fun c first => none_of c (List.mem_of_mem_head? first)]
  rcases List.eq_nil_or_concat' text with rfl | ⟨front, last, rfl⟩
  · rfl
  · exact trimRightOf_append (none_of last (by simp)) front []

end Text

namespace CoversTag

variable {text before behind blanks name after front back : List Char}

/-! ## Where a namespace is declared -/

/-- The word `namespace` stands somewhere in a text with a blank behind it. -/
def Mentions (text : List Char) : Prop :=
  ∃ blank, Text.isBlank blank = true ∧ "namespace".toList ++ [blank] <:+: text

theorem Mentions.of_wordAndBlanks? {found : List Char × List Char}
    (read : wordAndBlanks? "namespace".toList text = some found) : Mentions text := by
  obtain ⟨blanks, rest⟩ := found
  obtain ⟨rfl, some_blank, all, -⟩ := wordAndBlanks?_eq_some_iff.1 read
  obtain ⟨blank, more, rfl⟩ := List.exists_cons_of_ne_nil some_blank
  exact ⟨blank, all blank List.mem_cons_self, [], more ++ rest, by simp⟩

theorem mentions_iff : Mentions text ↔
    ∃ tail ∈ text.tails, (wordAndBlanks? "namespace".toList tail).isSome = true := by
  constructor
  · rintro ⟨blank, isBlank, front, rest, rfl⟩
    refine ⟨"namespace".toList ++ blank :: rest, ?_, ?_⟩
    · rw [List.mem_tails]
      exact ⟨front, by simp⟩
    · have begins : Text.after? "namespace".toList ("namespace".toList ++ blank :: rest) =
          some (blank :: rest) := Text.after?_eq_some_iff.2 rfl
      rw [wordAndBlanks?, begins]
      simp [isBlank]
  · rintro ⟨tail, ends, read⟩
    obtain ⟨found, read⟩ := Option.isSome_iff_exists.1 read
    obtain ⟨blank, isBlank, inside⟩ := Mentions.of_wordAndBlanks? read
    exact ⟨blank, isBlank, inside.trans ((List.mem_tails _ _).1 ends).isInfix⟩

instance (text : List Char) : Decidable (Mentions text) :=
  decidable_of_iff _ mentions_iff.symm

/-- The word does not overlap with itself, so none of the words in front of one reaches into it. -/
theorem Mentions.of_overlap {late : List Char} {found : List Char × List Char} (some_char : late ≠ [])
    (read : wordAndBlanks? "namespace".toList (late ++ "namespace".toList ++ behind) = some found) :
    Mentions late := by
  obtain ⟨blanks, rest⟩ := found
  obtain ⟨whole, some_blank, all, -⟩ := wordAndBlanks?_eq_some_iff.1 read
  obtain ⟨blank, more, rfl⟩ := List.exists_cons_of_ne_nil some_blank
  have isBlank := all blank List.mem_cons_self
  have split : late ++ ("namespace".toList ++ behind) =
      ("namespace".toList ++ [blank]) ++ (more ++ rest) := by
    simpa using whole
  refine ⟨blank, isBlank, ?_⟩
  rcases List.append_eq_append_iff.1 split with ⟨inner, same, other⟩ | ⟨inner, same, -⟩
  · cases inner with
    | nil => exact ⟨[], [], by simpa using same⟩
    | cons c cs =>
      -- The second word would begin with a letter of the first one, or with its blank.
      exfalso
      obtain ⟨rfl, -⟩ : 'n' = c ∧ _ := List.cons.inj other
      obtain ⟨d, ds, rfl⟩ := List.exists_cons_of_ne_nil some_char
      have among : 'n' ∈ "amespace".toList ++ [blank] := by
        have tails : "amespace".toList ++ [blank] = ds ++ 'n' :: cs := (List.cons.inj same).2
        rw [tails]
        simp
      rcases List.mem_append.1 among with letter | last
      · exact absurd letter (by decide)
      · rw [← List.mem_singleton.1 last] at isBlank
        exact absurd isBlank (by decide)
  · exact ⟨[], inner, by simpa using same.symm⟩

theorem namespaceText?_of_not_mentions (free : ¬ Mentions text) : namespaceText? text = none := by
  induction text with
  | nil => rfl
  | cons c rest ih =>
    have here : wordAndBlanks? "namespace".toList (c :: rest) = none := by
      rw [Option.eq_none_iff_forall_ne_some]
      exact fun found read => free (.of_wordAndBlanks? read)
    have later : ¬ Mentions rest := fun ⟨blank, isBlank, inside⟩ =>
      free ⟨blank, isBlank, List.infix_cons_iff.2 (Or.inr inside)⟩
    rw [namespaceText?, here, ih later]
    rfl

/-- A text in front of the word is passed over. -/
theorem namespaceText?_append (free : ¬ Mentions before) (behind : List Char) :
    namespaceText? (before ++ ("namespace".toList ++ behind)) =
      namespaceText? ("namespace".toList ++ behind) := by
  induction before with
  | nil => rfl
  | cons c rest ih =>
    have here : wordAndBlanks? "namespace".toList (c :: rest ++ "namespace".toList ++ behind) =
        none := by
      rw [Option.eq_none_iff_forall_ne_some]
      exact fun found read => free (.of_overlap (List.cons_ne_nil c rest) read)
    rw [List.append_assoc] at here
    have later : ¬ Mentions rest := fun ⟨blank, isBlank, inside⟩ =>
      free ⟨blank, isBlank, List.infix_cons_iff.2 (Or.inr inside)⟩
    rw [List.cons_append] at here ⊢
    rw [namespaceText?, here, ih later]
    rfl

/-- Behind the word and blanks everything up to the last semicolon of the line is taken. -/
theorem namespaceText?_of_line (some_blank : blanks ≠ [])
    (all : ∀ c ∈ blanks, Text.isBlank c = true)
    (starts : ∀ c, behind.head? = some c → Text.isBlank c = false)
    (line : behind.takeWhile (· ≠ '\n') = front ++ ';' :: back) (last : ';' ∉ back) :
    namespaceText? ("namespace".toList ++ (blanks ++ behind)) = some front := by
  have cut : wordAndBlanks? "namespace".toList ("namespace".toList ++ (blanks ++ behind)) =
      some (blanks, behind) :=
    wordAndBlanks?_eq_some_iff.2 ⟨(List.append_assoc _ _ _).symm, some_blank, all, starts⟩
  have taken : (behind.takeWhile (· ≠ '\n')).reverse.dropWhile (· ≠ ';') =
      ';' :: front.reverse := by
    rw [line]
    refine Text.dropWhile_reverse_append (by decide) front fun d mem => ?_
    exact decide_eq_true fun same => last (same ▸ mem)
  have entered : "namespace".toList ++ (blanks ++ behind) =
      'n' :: ("amespace".toList ++ (blanks ++ behind)) := rfl
  rw [entered] at cut ⊢
  rw [namespaceText?, cut]
  simp only [taken]
  simp

/-! ## Declarations -/

/-- The first word `namespace` of a text with a blank behind it begins a declaration: blanks, a name
without blanks and semicolons, and a semicolon. -/
structure Declares (text before name after : List Char) : Prop where
  first : ¬ Mentions before
  whole : ∃ blanks, blanks ≠ [] ∧ (∀ c ∈ blanks, Text.isBlank c = true) ∧
    text = before ++ "namespace".toList ++ blanks ++ name ++ ';' :: after
  unbroken : ∀ c ∈ name, Text.isBlank c = false
  closed : ';' ∉ name

/-- The rest of the line that a text begins on. -/
def restOfLine (text : List Char) : List Char :=
  text.takeWhile (· ≠ '\n')

/-- What is taken for the end of a name because it stands between the semicolon of the name and the
last one of the line: nothing if there is no other one. -/
def overrun (after : List Char) : List Char :=
  if ';' ∈ restOfLine after then
    ';' :: Text.trimRightOf Text.isBlank
      (((restOfLine after).reverse.dropWhile (· ≠ ';')).drop 1).reverse
  else []

theorem overrun_eq_nil_iff : overrun after = [] ↔ ';' ∉ restOfLine after := by
  unfold overrun
  split
  next other => simp [other]
  next none_left => simp [none_left]

theorem overrun_of_split (line : restOfLine after = front ++ ';' :: back) (last : ';' ∉ back) :
    overrun after = ';' :: Text.trimRightOf Text.isBlank front := by
  have mem : ';' ∈ restOfLine after := line ▸ List.mem_append_right front List.mem_cons_self
  have taken : (restOfLine after).reverse.dropWhile (· ≠ ';') = ';' :: front.reverse := by
    rw [line]
    refine Text.dropWhile_reverse_append (by decide) front fun d mem => ?_
    exact decide_eq_true fun same => last (same ▸ mem)
  rw [overrun, if_pos mem, taken, List.drop_succ_cons, List.drop_zero, List.reverse_reverse]

theorem canonical_append (name rest : List Char) :
    canonical (name ++ ';' :: rest) = canonical name ++ ';' :: rest := by
  unfold canonical
  rw [List.dropWhile_append]
  split
  next none_left =>
    rw [List.isEmpty_iff.1 none_left, List.dropWhile_cons_of_neg (by decide), List.nil_append]
  next => rfl

/-- A declaration gives its name, with what is taken for the end of it. -/
theorem Declares.canonical_text (declares : Declares text before name after) :
    ∃ found, namespaceText? text = some found ∧
      canonical (Text.trimOf Text.isBlank found) = canonical name ++ overrun after := by
  obtain ⟨blanks, some_blank, all, rfl⟩ := declares.whole
  have starts : ∀ c, (name ++ ';' :: after).head? = some c → Text.isBlank c = false := by
    intro c first
    cases name with
    | nil =>
      obtain rfl := Option.some.inj first
      decide
    | cons d more =>
      obtain rfl := Option.some.inj first
      exact declares.unbroken _ List.mem_cons_self
  have line : (name ++ ';' :: after).takeWhile (· ≠ '\n') = name ++ ';' :: restOfLine after := by
    rw [List.takeWhile_append_of_pos, List.takeWhile_cons_of_pos (by decide), restOfLine]
    intro c mem
    apply decide_eq_true
    rintro rfl
    exact absurd (declares.unbroken _ mem) (by decide)
  have read : ∀ {front back}, name ++ ';' :: restOfLine after = front ++ ';' :: back →
      ';' ∉ back → namespaceText? (before ++ "namespace".toList ++ blanks ++ name ++
        ';' :: after) = some front := by
    intro front back split last
    have shape : before ++ "namespace".toList ++ blanks ++ name ++ ';' :: after =
        before ++ ("namespace".toList ++ (blanks ++ (name ++ ';' :: after))) := by simp
    rw [shape, namespaceText?_append declares.first]
    exact namespaceText?_of_line some_blank all starts (line.trans split) last
  by_cases other : ';' ∈ restOfLine after
  · obtain ⟨front, back, split, last⟩ := Text.exists_last_sep other
    refine ⟨name ++ ';' :: front, read (by rw [split]; simp) last, ?_⟩
    have left : Text.trimLeftOf Text.isBlank (name ++ ';' :: front) = name ++ ';' :: front := by
      refine Text.trimLeftOf_of_head? fun c first => starts c ?_
      cases name <;> exact first
    rw [Text.trimOf, left, Text.trimRightOf_append (by decide), canonical_append,
      overrun_of_split split last]
  · refine ⟨name, read rfl other, ?_⟩
    rw [Text.trimOf_of_forall declares.unbroken, overrun_eq_nil_iff.2 other, List.append_nil]

/-! ## Files -/

variable {fs : FileSystem} {path : Path} {stem suffix content : String}

/-- What is left of a file name without the suffix of source files: its stem, but nothing if the
suffix is empty. -/
def keptStem (stem suffix : String) : String :=
  if suffix = "" then "" else stem

theorem keptStem_eq_iff : keptStem stem suffix = stem ↔ suffix ≠ "" ∨ stem = "" := by
  unfold keptStem
  split
  next empty => simp [empty, eq_comm]
  next nonempty => simp [nonempty]

theorem declaredClass_of_name (named : path.name = stem ++ suffix) :
    declaredClass path suffix content =
      match namespaceText? content.toList with
      | none => keptStem stem suffix
      | some text => String.ofList
          (canonical (Text.trimOf Text.isBlank text) ++ '\\' :: (keptStem stem suffix).toList) := by
  have ends : suffix.toList.isSuffixOf path.name.toList = true := by
    rw [named, String.toList_append, List.isSuffixOf_iff_suffix]
    exact List.suffix_append _ _
  have left : Convention.withoutSuffix path.name.toList suffix.toList =
      (keptStem stem suffix).toList := by
    unfold Convention.withoutSuffix keptStem
    by_cases empty : suffix = ""
    · simp [empty]
    · have nonempty : suffix.toList.isEmpty = false := by simpa using empty
      rw [named, nonempty, String.toList_append, List.length_append, Nat.add_sub_cancel,
        List.take_left]
      simp [empty]
  unfold declaredClass
  simp only [ends, if_true, left]
  cases namespaceText? content.toList with
  | none => exact String.ofList_toList
  | some text => rfl

theorem sourceClass_of_readText (read : fs.readText path = .ok content) (suffix : String) :
    sourceClass fs path suffix = .ok (some (declaredClass path suffix content)) := by
  have existing : fs.isFile path = .ok true := by
    obtain ⟨bytes, found, -⟩ := of_bind_ok read
    obtain ⟨node, stat, given⟩ := of_bind_ok found
    unfold FileSystem.isFile FileSystem.ask
    rw [stat]
    cases node with
    | file => rfl
    | directory | link => cases given
  rw [sourceClass, existing, read]
  rfl

/-- A source file whose text never has the word `namespace` with a blank behind it declares the class
that its name says. If the first such word begins a declaration, the class is the name of the
namespace without leading backslashes, with what is taken for the end of the name because a semicolon
stands behind it on the line, and then the stem of the file. So it is the one that is declared exactly
if the rest of the line has no semicolon, given that source files have a suffix. -/
theorem class_unless_overrun (named : path.name = stem ++ suffix)
    (read : fs.readText path = .ok content) :
    (¬ Mentions content.toList →
      sourceClass fs path suffix = .ok (some (keptStem stem suffix))) ∧
    (∀ before name after, Declares content.toList before name after →
      sourceClass fs path suffix = .ok (some (String.ofList
        (canonical name ++ overrun after ++ '\\' :: (keptStem stem suffix).toList))) ∧
      (sourceClass fs path suffix =
          .ok (some (String.ofList (canonical name ++ '\\' :: stem.toList))) ↔
        ';' ∉ restOfLine after ∧ (suffix ≠ "" ∨ stem = ""))) := by
  have whole := sourceClass_of_readText read suffix
  rw [declaredClass_of_name named] at whole
  constructor
  · intro free
    rw [whole, namespaceText?_of_not_mentions free]
  · intro before name after declares
    obtain ⟨found, taken, same⟩ := declares.canonical_text
    rw [taken] at whole
    simp only [same] at whole
    refine ⟨whole, ?_⟩
    rw [whole, Except.ok.injEq, Option.some.injEq, String.ofList_inj, ← overrun_eq_nil_iff,
      ← keptStem_eq_iff, List.append_assoc, List.append_cancel_left_eq]
    constructor
    · intro alike
      have nothing : overrun after = [] := by
        rw [overrun_eq_nil_iff]
        intro other
        unfold overrun at alike
        rw [if_pos other] at alike
        cases alike
      rw [nothing, List.nil_append] at alike
      exact ⟨nothing, String.toList_inj.1 (List.cons.inj alike).2⟩
    · intro both
      rw [both.1, both.2, List.nil_append]

/-- A file that uses something on the line of its namespace. -/
def oneLiner : FileSystem :=
  .ofListing [(["p"], .directory), (["p", "A.php"],
    .file (Utf8.encode "<?php // namespaces\nnamespace \\App; use B;\n") false)] ["p"]
    (by decide)

/-- Up to its last semicolon the line is taken for the name. -/
theorem class_of_oneLiner :
    oneLiner.readText ⟨.root, ["p", "A.php"]⟩ =
        .ok "<?php // namespaces\nnamespace \\App; use B;\n" ∧
      Declares "<?php // namespaces\nnamespace \\App; use B;\n".toList
        "<?php // namespaces\n".toList "\\App".toList " use B;\n".toList ∧
      sourceClass oneLiner ⟨.root, ["p", "A.php"]⟩ ".php" =
        .ok (some "App; use B\\A") ∧
      sourceClass oneLiner ⟨.root, ["p", "A.php"]⟩ ".php" ≠ .ok (some "App\\A") := by
  have read : oneLiner.readText ⟨.root, ["p", "A.php"]⟩ =
      .ok "<?php // namespaces\nnamespace \\App; use B;\n" := by
    decide
  have declares : Declares "<?php // namespaces\nnamespace \\App; use B;\n".toList
      "<?php // namespaces\n".toList "\\App".toList " use B;\n".toList :=
    ⟨by decide, ⟨[' '], by decide, fun c mem => List.mem_singleton.1 mem ▸ rfl,
      by decide⟩, Text.unbroken_of_all (by decide), by decide⟩
  have named : (⟨.root, ["p", "A.php"]⟩ : Path).name = "A" ++ ".php" := by decide
  obtain ⟨found, plain_iff⟩ := (class_unless_overrun named read).2 _ _ _ declares
  have spelled : String.ofList (canonical "\\App".toList ++ overrun " use B;\n".toList ++
      '\\' :: (keptStem "A" ".php").toList) = "App; use B\\A" := by
    decide
  have plain : String.ofList (canonical "\\App".toList ++ '\\' :: "A".toList) = "App\\A" := by
    decide
  have semicolon : ';' ∈ restOfLine " use B;\n".toList := by decide
  rw [spelled] at found
  rw [plain] at plain_iff
  exact ⟨read, declares, found, fun same => (plain_iff.1 same).1 semicolon⟩

end CoversTag

end TestImpact
