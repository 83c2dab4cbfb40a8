import TestImpact.Discovery.CoversTag
import TestImpact.Proofs.Text.Runs

/-!
# What a test declares to cover

A text is scanned once from left to right, and a tag is taken wherever one begins (`Scans`); a
target names what stands before its first `::` (`ClassOf`). A test covers a class when a target of
its text names it (`Covers`), and these are the classes it is listed under (`covers_iff`).

A line of a comment that declares a class is never missed (`covers_of_line`). A tag before it may
reach into the line, since blanks may cross lines, but then the star at its beginning is the
target of that tag, and the tag of the line comes after it (`prefix_of_overlap`).
-/

namespace TestImpact.CoversTag

/-! ## Scanning for tags -/

/-- How a tag and its target are written before some text: the word, blanks, and a run without
blanks that is not cut short. -/
inductive Tagged (target : List Char) : (written behind : List Char) → Prop
  | mk {word blanks behind : List Char} :
      word ∈ ["@covers".toList, "@coversDefaultClass".toList] →
      blanks ≠ [] → (∀ c ∈ blanks, Text.isBlank c = true) →
      target ≠ [] → (∀ c ∈ target, Text.isBlank c = false) →
      (∀ c, behind.head? = some c → Text.isBlank c = true) →
      Tagged target (word ++ blanks ++ target) behind

/-- The targets of the tags in a text that is read from left to right. A tag is taken where it
begins and read on behind it. -/
inductive Scans : List Char → List (List Char) → Prop
  | done : Scans [] []
  | tag {target written behind : List Char} {later : List (List Char)} :
      Tagged target written behind → Scans behind later →
      Scans (written ++ behind) (target :: later)
  | char {c : Char} {rest : List Char} {later : List (List Char)} :
      (∀ target written behind, c :: rest = written ++ behind → ¬ Tagged target written behind) →
      Scans rest later → Scans (c :: rest) later

variable {word text target written behind blanks rest : List Char} {targets : List (List Char)}

theorem wordAndBlanks?_eq_some_iff : wordAndBlanks? word text = some (blanks, rest) ↔
    text = word ++ blanks ++ rest ∧ blanks ≠ [] ∧ (∀ c ∈ blanks, Text.isBlank c = true) ∧
      ∀ c, rest.head? = some c → Text.isBlank c = false := by
  unfold wordAndBlanks?
  constructor
  · intro found
    split at found
    · cases found
    next behind begins =>
      dsimp only at found
      split at found
      · cases found
      next some_blank =>
        obtain ⟨rfl, rfl⟩ := Prod.mk.inj (Option.some.inj found)
        obtain ⟨rest, whole, all, stops⟩ := Text.takeWhile_eq_iff.1 (rfl :
          behind.takeWhile Text.isBlank = behind.takeWhile Text.isBlank)
        have left : behind.drop (behind.takeWhile Text.isBlank).length = rest :=
          (congrArg (List.drop _) whole).trans List.drop_left
        rw [left, List.append_assoc, ← whole]
        exact ⟨Text.after?_eq_some_iff.1 begins, by simpa using some_blank, all, stops⟩
  · rintro ⟨rfl, nonempty, all, stops⟩
    have begins : Text.after? word (word ++ blanks ++ rest) = some (blanks ++ rest) :=
      Text.after?_eq_some_iff.2 (List.append_assoc _ _ _)
    have run : (blanks ++ rest).takeWhile Text.isBlank = blanks :=
      Text.takeWhile_eq_iff.2 ⟨rest, rfl, all, stops⟩
    simp only [begins, run]
    simp [nonempty]

/-- The longer word is not the shorter one with blanks behind it. -/
theorem wordAndBlanks?_longer (rest : List Char) :
    wordAndBlanks? "@covers".toList ("@coversDefaultClass".toList ++ rest) = none := by
  rw [Option.eq_none_iff_forall_ne_some]
  rintro ⟨blanks, behind⟩ found
  obtain ⟨whole, nonempty, all, -⟩ := wordAndBlanks?_eq_some_iff.1 found
  have longer : "@coversDefaultClass".toList = "@covers".toList ++ "DefaultClass".toList := by
    decide
  rw [longer, List.append_assoc, List.append_assoc] at whole
  have same := List.append_cancel_left whole
  cases blanks with
  | nil => exact nonempty rfl
  | cons c more =>
    obtain ⟨rfl, -⟩ := List.cons.inj same
    exact absurd (all 'D' List.mem_cons_self) (by decide)

/-- A tag is read at the beginning of a text exactly where one is written. -/
theorem tag?_eq_some_iff {length : Nat} : tag? text = some (target, length) ↔
    ∃ written behind, text = written ++ behind ∧ Tagged target written behind ∧
      length = written.length := by
  unfold tag?
  constructor
  · intro found
    obtain ⟨word, listed, read⟩ := List.exists_of_findSome?_eq_some found
    split at read
    · cases read
    next blanks rest cut =>
      dsimp only at read
      split at read
      · cases read
      next some_target =>
        obtain ⟨rfl, rfl⟩ := Prod.mk.inj (Option.some.inj read)
        obtain ⟨rfl, some_blank, blank, -⟩ := wordAndBlanks?_eq_some_iff.1 cut
        obtain ⟨behind, whole, all, stops⟩ := Text.takeWhile_eq_iff.1 (rfl :
          rest.takeWhile (!Text.isBlank ·) = rest.takeWhile (!Text.isBlank ·))
        refine ⟨word ++ blanks ++ rest.takeWhile (!Text.isBlank ·), behind, ?_, .mk listed
          some_blank blank (by simpa using some_target) (fun c mem => by simpa using all c mem)
          fun c first => by simpa using stops c first, by simp only [List.length_append]⟩
        rw [List.append_assoc _ _ behind, ← whole]
  · rintro ⟨written, behind, rfl, tagged, rfl⟩
    cases tagged with
    | @mk word blanks _ listed some_blank blank some_target all stops =>
      have starts : ∀ c, (target ++ behind).head? = some c → Text.isBlank c = false := by
        intro c first
        cases target with
        | nil => exact absurd rfl some_target
        | cons d more =>
          obtain rfl : d = c := Option.some.inj first
          exact all d List.mem_cons_self
      have cut : wordAndBlanks? word (word ++ blanks ++ target ++ behind) =
          some (blanks, target ++ behind) :=
        wordAndBlanks?_eq_some_iff.2 ⟨List.append_assoc _ _ _, some_blank, blank, starts⟩
      have run : (target ++ behind).takeWhile (!Text.isBlank ·) = target :=
        Text.takeWhile_eq_iff.2 ⟨behind, rfl, fun c mem => by simp [all c mem],
          fun c first => by simp [stops c first]⟩
      have named : target.isEmpty = false := by simpa using some_target
      simp only [List.mem_cons, List.not_mem_nil, or_false] at listed
      rcases listed with rfl | rfl
      · simp only [List.findSome?_cons, cut, run, named, Bool.false_eq_true, if_false,
          List.length_append]
      · have shorter : wordAndBlanks? "@covers".toList
            ("@coversDefaultClass".toList ++ blanks ++ target ++ behind) = none := by
          rw [List.append_assoc, List.append_assoc]
          exact wordAndBlanks?_longer _
        simp only [List.findSome?_cons, shorter, cut, run, named, Bool.false_eq_true, if_false,
          List.length_append]

theorem targetsFrom_eq_drop (skip : Nat) (text : List Char) :
    targetsFrom skip text = targetsFrom 0 (text.drop skip) := by
  induction text generalizing skip with
  | nil => cases skip <;> simp [targetsFrom]
  | cons c rest ih =>
    cases skip with
    | zero => rfl
    | succ skip => rw [targetsFrom, ih, List.drop_succ_cons]

theorem Tagged.length_pos (tagged : Tagged target written behind) : 0 < written.length := by
  cases tagged with
  | mk _ _ _ some_target =>
    have := List.length_pos_iff.2 some_target
    simp only [List.length_append]
    omega

theorem Tagged.head? (tagged : Tagged target written behind) : written.head? = some '@' := by
  cases tagged with
  | mk listed =>
    simp only [List.mem_cons, List.not_mem_nil, or_false] at listed
    rcases listed with rfl | rfl <;> rfl

/-- What is read at one place is one tag. -/
theorem Tagged.unique {target' written' behind' : List Char}
    (tagged : Tagged target written behind) (tagged' : Tagged target' written' behind')
    (whole : written ++ behind = written' ++ behind') : target = target' := by
  have read := tag?_eq_some_iff.2 ⟨written, behind, rfl, tagged, rfl⟩
  rw [tag?_eq_some_iff.2 ⟨written', behind', whole, tagged', rfl⟩] at read
  exact (Prod.mk.inj (Option.some.inj read)).1.symm

theorem targetsFrom_of_tagged (tagged : Tagged target written behind) :
    targetsFrom 0 (written ++ behind) = target :: targetsFrom 0 behind := by
  have read : tag? (written ++ behind) = some (target, written.length) :=
    tag?_eq_some_iff.2 ⟨written, behind, rfl, tagged, rfl⟩
  obtain ⟨c, more, rfl⟩ := List.exists_cons_of_length_pos tagged.length_pos
  rw [List.cons_append] at read ⊢
  rw [targetsFrom, read]
  simp [targetsFrom_eq_drop more.length]

/-- A text can be scanned in one way, which gives its targets. -/
theorem scans_iff : Scans text targets ↔ targets = targetsFrom 0 text := by
  constructor
  · intro scans
    induction scans with
    | done => rfl
    | tag tagged _ ih => rw [targetsFrom_of_tagged tagged, ih]
    | @char c rest later untagged _ ih =>
      have absent : tag? (c :: rest) = none := by
        rw [Option.eq_none_iff_forall_ne_some]
        rintro ⟨target, length⟩ found
        obtain ⟨written, behind, whole, tagged, -⟩ := tag?_eq_some_iff.1 found
        exact untagged target written behind whole tagged
      rw [targetsFrom, absent, ih]
  · rintro rfl
    -- The text behind a tag is shorter by the whole tag, so the induction is on its length.
    induction size : text.length using Nat.strong_induction_on generalizing text with
    | h size' ih =>
      subst size
      cases text with
      | nil => exact .done
      | cons c rest =>
        cases read : tag? (c :: rest) with
        | none =>
          rw [targetsFrom, read]
          refine .char (fun target written behind whole tagged => ?_) (ih _ (by simp) rfl)
          rw [tag?_eq_some_iff.2 ⟨written, behind, whole, tagged, rfl⟩] at read
          cases read
        | some found =>
          obtain ⟨target, length⟩ := found
          obtain ⟨written, behind, whole, tagged, -⟩ := tag?_eq_some_iff.1 read
          have shorter := tagged.length_pos
          rw [whole] at ih ⊢
          rw [targetsFrom_of_tagged tagged]
          exact .tag tagged (ih _ (by simp; omega) rfl)

/-! ## Classes -/

/-- The class that a target names: what stands before its first `::`, if anything, and all of a
target without one. -/
inductive ClassOf (target : List Char) : List Char → Prop
  | whole : ¬ [':', ':'] <:+: target → ClassOf target target
  | cut {before behind : List Char} : target = before ++ [':', ':'] ++ behind →
      (∀ before' behind', target = before' ++ [':', ':'] ++ behind' →
        before.length ≤ before'.length) →
      before ≠ [] → ClassOf target before

/-- A target of a text names a class, leading backslashes apart. -/
def Covers (text className : String) : Prop :=
  ∃ targets, Scans text.toList targets ∧
    ∃ target ∈ targets, ∃ name, ClassOf target name ∧ name.dropWhile (· = '\\') = className.toList

theorem classOf?_eq_some_iff {name : List Char} : classOf? target = some name ↔
    ClassOf target name := by
  have some_colon : [':', ':'] ≠ [] := List.cons_ne_nil _ _
  unfold classOf?
  constructor
  · intro found
    split at found
    next uncut =>
      cases found
      exact .whole ((Text.cutAt_eq_none_iff some_colon).1 uncut)
    next before behind cut =>
      split at found
      · cases found
      next nonempty =>
        cases found
        obtain ⟨whole, least⟩ := Text.cutAt_eq_some_iff.1 cut
        exact .cut whole least (by simpa using nonempty)
  · intro named
    cases named with
    | whole absent => rw [(Text.cutAt_eq_none_iff some_colon).2 absent]
    | cut whole least nonempty =>
      rw [Text.cutAt_eq_some_iff.2 ⟨whole, least⟩]
      simp [nonempty]

/-- A test covers the classes it is listed under. -/
theorem covers_iff {content className : String} : Covers content className ↔
    className ∈ (classes content).map fun name => String.ofList (canonical name.toList) := by
  simp only [Covers, classes, scans_iff, exists_eq_left, List.mem_map, List.mem_filterMap,
    classOf?_eq_some_iff, exists_exists_and_eq_and, String.toList_ofList]
  constructor
  · rintro ⟨target, mem, name, named, same⟩
    exact ⟨name, ⟨target, mem, named⟩, by rw [canonical, same, String.ofList_toList]⟩
  · rintro ⟨name, ⟨target, mem, named⟩, same⟩
    exact ⟨target, mem, name, named, by rw [← same, String.toList_ofList]; rfl⟩

/-! ## Lines of comments -/

/-- A line of a comment that declares to cover a class or one of its methods. A class that ends
with a colon cannot be told from the colons before a method. -/
inductive DocLine (className : List Char) : List Char → Prop
  | ofClass : DocLine className (" * @covers \\".toList ++ className)
  | ofMethod {method : List Char} : className.getLast? ≠ some ':' →
      (∀ c ∈ method, Text.isBlank c = false) →
      DocLine className (" * @covers \\".toList ++ className ++ "::".toList ++ method)

/-- A text has a line, which line feeds or its ends bound. -/
def HasLine (text line : List Char) : Prop :=
  ∃ before behind, text = before ++ line ++ behind ∧
    (before = [] ∨ before.getLast? = some '\n') ∧ (behind = [] ∨ behind.head? = some '\n')

/-- A text in which a star and blanks stand last, so that no tag reaches beyond its end. -/
def Starred (front : List Char) : Prop :=
  ∃ before, front <:+ before ++ "\n * ".toList

theorem Starred.of_suffix {front front' : List Char} (starred : Starred front)
    (ends : front' <:+ front) : Starred front' := by
  obtain ⟨before, behind⟩ := starred
  exact ⟨before, ends.trans behind⟩

theorem starred_of_line {before : List Char} (bound : before = [] ∨ before.getLast? = some '\n') :
    Starred (before ++ " * ".toList) := by
  rcases bound with rfl | last
  · exact ⟨[], by decide⟩
  · obtain ⟨front, rfl⟩ := List.getLast?_eq_some_iff.1 last
    exact ⟨front, by simp⟩

/-- No tag has a blank, a character and another blank behind each other unless that character is a
blank as well: a blank before it keeps it out of the word, and one behind it out of the target. -/
theorem Tagged.isBlank_between {front rest : List Char} {left middle right : Char}
    (tagged : Tagged target written behind)
    (whole : written = front ++ left :: middle :: right :: rest)
    (blankLeft : Text.isBlank left = true) (blankRight : Text.isBlank right = true) :
    Text.isBlank middle = true := by
  cases tagged with
  | @mk word blanks _ listed _ blank _ all _ =>
    have unbroken : ∀ c ∈ word, Text.isBlank c = false := by
      simp only [List.mem_cons, List.not_mem_nil, or_false] at listed
      rcases listed with rfl | rfl <;> exact Text.unbroken_of_all (by decide)
    have atRight : word ++ blanks ++ target = (front ++ [left, middle]) ++ right :: rest := by
      simp [whole]
    rcases List.append_eq_append_iff.1 atRight with ⟨more, -, same⟩ | ⟨more, same, -⟩
    · have mem : right ∈ target := same ▸ List.mem_append_right _ List.mem_cons_self
      rw [all right mem] at blankRight
      cases blankRight
    · have atMiddle : word ++ blanks = (front ++ [left]) ++ middle :: more := by simp [same]
      rcases List.append_eq_append_iff.1 atMiddle with ⟨inner, -, same⟩ | ⟨inner, same, -⟩
      · exact blank middle (same ▸ List.mem_append_right _ List.mem_cons_self)
      · have mem : left ∈ word := by simp [same]
        rw [unbroken left mem] at blankLeft
        cases blankLeft

/-- A tag that begins in front of a starred end does not reach beyond it: it would hold the star
between two blanks. -/
theorem prefix_of_overlap {front tail : List Char} (tagged : Tagged target written behind)
    (starred : Starred front) (nonempty : front ≠ []) (whole : written ++ behind = front ++ tail) :
    written <+: front := by
  rcases List.append_eq_append_iff.1 whole with ⟨more, same, -⟩ | ⟨more, same, -⟩
  · exact ⟨more, same.symm⟩
  · exfalso
    obtain ⟨before, front', suffix⟩ := starred
    rcases List.append_eq_append_iff.1 suffix with ⟨early, -, here⟩ | ⟨early, -, here⟩
    · have cut : written = early ++ ['\n'] ++ ' ' :: '*' :: ' ' :: more := by simp [same, here]
      have starBlank := tagged.isBlank_between cut (by decide) (by decide)
      exact absurd starBlank (by decide)
    · have first : front.head? = some '@' := by
        obtain ⟨c, front, rfl⟩ := List.exists_cons_of_ne_nil nonempty
        rw [← tagged.head?, same]
        rfl
      have mem : '@' ∈ "\n * ".toList := here ▸
        List.mem_append_right _ (List.mem_of_mem_head? first)
      exact absurd mem (by decide)

/-- A tag with a star in front of it is taken, whatever stands before and behind it. -/
theorem mem_of_scans {front token rest : List Char} (scans : Scans text targets)
    (starred : Starred front) (tagged : Tagged token written rest)
    (whole : text = front ++ (written ++ rest)) : token ∈ targets := by
  induction scans generalizing front with
  | done =>
    have length := congrArg List.length whole
    have positive := tagged.length_pos
    simp only [List.length_nil, List.length_append] at length
    omega
  | @tag target written' behind later taken _ ih =>
    by_cases here : front = []
    · subst here
      rw [taken.unique tagged whole]
      exact List.mem_cons_self
    · obtain ⟨front', rfl⟩ := prefix_of_overlap taken starred here whole
      refine List.mem_cons_of_mem _ (ih (starred.of_suffix (List.suffix_append _ _)) ?_)
      exact List.append_cancel_left (whole.trans (List.append_assoc _ _ _))
  | @char c rest' later untagged _ ih =>
    cases front with
    | nil => exact absurd tagged (untagged token written rest whole)
    | cons d front' =>
      refine ih (starred.of_suffix (List.suffix_cons d front')) ?_
      exact (List.cons.inj whole).2

theorem covers_of_token {text className : String} {token : List Char}
    (unbroken : ∀ c ∈ token, Text.isBlank c = false)
    (named : ClassOf token ('\\' :: className.toList)) (bare : className.toList.head? ≠ some '\\')
    (nonempty : token ≠ []) (has : HasLine text.toList (" * @covers ".toList ++ token)) :
    Covers text className := by
  obtain ⟨before, behind, whole, startBound, endBound⟩ := has
  have stops : ∀ c, behind.head? = some c → Text.isBlank c = true := by
    intro c first
    rcases endBound with rfl | feed
    · cases first
    · rw [feed] at first
      cases first
      decide
  have tagged : Tagged token ("@covers".toList ++ [' '] ++ token) behind :=
    .mk List.mem_cons_self (List.cons_ne_nil _ _) (List.all_eq_true.1 (by decide)) nonempty unbroken
      stops
  have split : text.toList =
      before ++ " * ".toList ++ ("@covers".toList ++ [' '] ++ token ++ behind) := by
    rw [whole]
    simp
  refine ⟨_, scans_iff.2 rfl, token,
    mem_of_scans (scans_iff.2 rfl) (starred_of_line startBound) tagged split, _, named, ?_⟩
  rw [List.dropWhile_cons_of_pos (by simp)]
  cases letters : className.toList with
  | nil => rfl
  | cons c rest =>
    rw [letters] at bare
    exact List.dropWhile_cons_of_neg (by simpa using bare)

theorem not_infix_cons_backslash {className : List Char} (uncut : ¬ [':', ':'] <:+: className) :
    ¬ [':', ':'] <:+: '\\' :: className := by
  rw [List.infix_cons_iff, not_or]
  exact ⟨fun begins => absurd (List.cons_prefix_cons.1 begins).1 (by decide), uncut⟩

/-- The first `::` of a class with a method is the one between them. -/
theorem classOf_method {className method : List Char} (uncut : ¬ [':', ':'] <:+: className)
    (closed : className.getLast? ≠ some ':') :
    ClassOf ('\\' :: className ++ "::".toList ++ method) ('\\' :: className) := by
  refine .cut rfl (fun before behind whole => ?_) (List.cons_ne_nil _ _)
  rw [List.append_assoc, List.append_assoc before] at whole
  rcases List.append_eq_append_iff.1 whole with ⟨more, rfl, -⟩ | ⟨more, same, colons⟩
  · exact (List.prefix_append _ _).length_le
  · -- An earlier `::` would lie in the class or begin with its last character.
    match more with
    | [] => rw [same, List.append_nil]
    | [c] =>
      obtain ⟨rfl, -⟩ := List.cons.inj colons
      have last : ('\\' :: className).getLast? = some ':' := by rw [same]; simp
      cases className with
      | nil => cases last
      | cons d rest => exact absurd (List.getLast?_cons_cons ▸ last) closed
    | c :: d :: more =>
      obtain ⟨rfl, later⟩ := List.cons.inj colons
      obtain ⟨rfl, -⟩ := List.cons.inj later
      exact absurd ⟨before, more, by simp [same]⟩ (not_infix_cons_backslash uncut)

/-- A line that declares a class is never missed, whatever surrounds it, if the name of the class
is not cut itself: it has no blank and no `::` and does not begin with a backslash. -/
theorem covers_of_line {text className : String} {line : List Char}
    (unbroken : ∀ c ∈ className.toList, Text.isBlank c = false)
    (uncut : ¬ [':', ':'] <:+: className.toList) (bare : className.toList.head? ≠ some '\\')
    (declared : DocLine className.toList line) (has : HasLine text.toList line) :
    Covers text className := by
  have slashUnbroken : ∀ c ∈ '\\' :: className.toList, Text.isBlank c = false :=
    List.forall_mem_cons.2 ⟨by decide, unbroken⟩
  cases declared with
  | ofClass =>
    exact covers_of_token slashUnbroken (.whole (not_infix_cons_backslash uncut)) bare
      (List.cons_ne_nil _ _) has
  | ofMethod closed methodUnbroken =>
    refine covers_of_token (fun c mem => ?_) (classOf_method uncut closed) bare
      (List.cons_ne_nil _ _) (by simpa using has)
    simp only [List.mem_append] at mem
    rcases mem with (mem | mem) | mem
    · exact slashUnbroken c mem
    · exact Text.unbroken_of_all (by decide) c mem
    · exact methodUnbroken c mem

end TestImpact.CoversTag
