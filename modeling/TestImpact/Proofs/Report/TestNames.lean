import TestImpact.Proofs.Text.Runs
import TestImpact.Report.TestName
import TestImpact.Text.Blank

/-!
# What is kept of a name

The name of a case is its class, its method, the mark of its data set and the values in brackets.
The class goes up to a first colon that is doubled (`withoutOwner_of_doubled`), and what is kept of
the rest stands before a first ` (` (`withoutValues_eq_kept`). So marks and values that hold such
signs themselves decide what is left of a name: `split_eq` says what, whatever they are.
-/

namespace TestImpact.TestName

/-! ## The class in front -/

/-- A colon comes first in a text and is doubled: between what stands before it and behind it. -/
def Doubled (text before behind : List Char) : Prop :=
  text = before ++ ':' :: ':' :: behind ∧ ':' ∉ before

variable {text before behind front : List Char}

theorem Doubled.takeWhile (doubled : Doubled text before behind) :
    text.takeWhile (· ≠ ':') = before := by
  refine Text.takeWhile_eq_iff.2 ⟨_, doubled.1, fun c mem => ?_, fun c first => ?_⟩
  · exact decide_eq_true fun colon => doubled.2 (colon ▸ mem)
  · cases first
    rfl

/-- What stands before a text without a colon stands before the first one. -/
theorem doubled_append_iff (plain : ':' ∉ front) :
    (∃ before behind, Doubled (front ++ text) before behind) ↔
      ∃ before behind, Doubled text before behind := by
  constructor
  · rintro ⟨before, behind, whole, fresh⟩
    rcases List.append_eq_append_iff.1 whole with ⟨rest, rfl, tail⟩ | ⟨rest, rfl, tail⟩
    · exact ⟨rest, behind, tail, fun mem => fresh (List.mem_append_right _ mem)⟩
    · cases rest with
      | nil => exact ⟨[], behind, tail.symm, List.not_mem_nil⟩
      | cons c rest =>
        obtain ⟨rfl, -⟩ := List.cons.inj tail
        exact absurd (List.mem_append_right _ List.mem_cons_self) plain
  · rintro ⟨before, behind, rfl, fresh⟩
    refine ⟨front ++ before, behind, (List.append_assoc _ _ _).symm, fun mem => ?_⟩
    exact (List.mem_append.1 mem).elim plain fresh

theorem withoutOwner_of_doubled (doubled : Doubled text before behind) (some_owner : before ≠ []) :
    withoutOwner text = behind := by
  unfold withoutOwner
  simp only [doubled.takeWhile]
  rw [doubled.1, List.drop_left]
  cases before with
  | nil => exact absurd rfl some_owner
  | cons c before => rfl

theorem withoutOwner_of_not_doubled (single : ¬ ∃ before behind, Doubled text before behind) :
    withoutOwner text = text := by
  unfold withoutOwner
  dsimp only
  split
  next c before rest taken dropped =>
    refine absurd ⟨text.takeWhile (· ≠ ':'), rest, ?_, fun mem => ?_⟩ single
    · rw [← dropped, List.prefix_iff_eq_append.1 (List.takeWhile_prefix _)]
    · simpa using List.mem_takeWhile_imp mem
  next => rfl

/-! ## The values behind -/

/-- What stands before the values in a text: before the first ` (`. -/
def kept (text : List Char) : List Char :=
  ((Text.cutAt [' ', '('] text).map Prod.fst).getD text

theorem kept_cons (c : Char) (text : List Char) :
    kept (c :: text) = if [' ', '('] <+: c :: text then [] else c :: kept text := by
  unfold kept
  rw [Text.cutAt]
  cases found : Text.after? [' ', '('] (c :: text) with
  | some behind =>
    rw [if_pos ⟨behind, (Text.after?_eq_some_iff.1 found).symm⟩]
    rfl
  | none =>
    have absent : ¬ [' ', '('] <+: c :: text := by
      rintro ⟨behind, whole⟩
      rw [Text.after?_eq_some_iff.2 whole.symm] at found
      cases found
    rw [if_neg absent]
    cases Text.cutAt [' ', '('] text <;> rfl

/-- A text is kept whole exactly if it holds no ` (`. -/
theorem kept_eq_self_iff : kept text = text ↔ ¬ [' ', '('] <:+: text := by
  rw [← Text.cutAt_eq_none_iff (List.cons_ne_nil _ _)]
  unfold kept
  cases cut : Text.cutAt [' ', '('] text with
  | none => exact ⟨fun _ => rfl, fun _ => rfl⟩
  | some sides =>
    obtain ⟨before, behind⟩ := sides
    have whole := congrArg List.length (Text.eq_of_cutAt cut)
    refine ⟨fun same => absurd (congrArg List.length same) ?_, fun none => nomatch none⟩
    simp only [List.length_append, List.length_cons] at whole
    show before.length ≠ text.length
    omega

theorem kept_append (unopened : '(' ∉ front) (start : text.head? ≠ some '(') :
    kept (front ++ text) = front ++ kept text := by
  induction front with
  | nil => rfl
  | cons c front ih =>
    have inner : '(' ∉ front := fun mem => unopened (List.mem_cons_of_mem _ mem)
    have absent : ¬ [' ', '('] <+: c :: (front ++ text) := by
      rintro ⟨behind, whole⟩
      obtain ⟨-, next⟩ := List.cons.inj whole
      cases front with
      | nil =>
        rw [List.nil_append] at next
        rw [← next] at start
        exact start rfl
      | cons d front =>
        obtain ⟨rfl, -⟩ := List.cons.inj next
        exact inner List.mem_cons_self
    rw [List.cons_append, kept_cons, if_neg absent, ih inner]
    rfl

/-- Values are never kept, whatever they are. -/
theorem kept_append_values (text values : List Char) :
    kept (text ++ ' ' :: '(' :: values) = kept text := by
  induction text with
  | nil => rfl
  | cons c text ih =>
    have opens : [' ', '('] <+: c :: (text ++ ' ' :: '(' :: values) ↔ [' ', '('] <+: c :: text := by
      cases text with
      | nil => simp
      | cons d text => simp
    rw [List.cons_append, kept_cons, kept_cons, ih]
    simp only [opens]

/-- Of a name that ends with a bracket the values go up to its end. -/
theorem withoutValues_eq_kept (closed : text.getLast? = some ')') :
    withoutValues text = kept text := by
  unfold withoutValues kept
  cases cut : Text.cutAt [' ', '('] text with
  | none => rfl
  | some sides =>
    obtain ⟨before, behind⟩ := sides
    rw [Text.eq_of_cutAt cut] at closed
    obtain ⟨values, rfl⟩ : ∃ values, behind = values ++ [')'] := by
      rcases List.eq_nil_or_concat behind with rfl | ⟨values, c, rfl⟩
      · simp at closed
      · rw [List.concat_eq_append, ← List.append_assoc, List.getLast?_concat] at closed
        cases closed
        exact ⟨values, List.concat_eq_append⟩
    simp

theorem withoutValues_of_unopened (unopened : '(' ∉ text) : withoutValues text = text := by
  have absent : Text.cutAt [' ', '('] text = none :=
    (Text.cutAt_eq_none_iff (List.cons_ne_nil _ _)).2 fun present =>
      unopened (present.subset (by simp))
  unfold withoutValues
  rw [absent]

/-! ## The class of a suite -/

theorem owner_of_unbroken (unbroken : '\n' ∉ text) :
    owner text = ((Text.cutAt [':', ':'] text).map Prod.fst).getD text := by
  have ending : text.getLast? ≠ some '\n' := fun last => unbroken (List.mem_of_getLast? last)
  have line : text.reverse.takeWhile (· ≠ '\n') = text.reverse :=
    List.takeWhile_eq_self_iff.2 fun c mem =>
      decide_eq_true fun feed => unbroken (feed ▸ List.mem_reverse.1 mem)
  unfold owner
  simp only [ending, if_false, line, List.reverse_reverse, Nat.sub_self, List.take_zero,
    List.nil_append, List.append_nil]
  cases Text.cutAt [':', ':'] text <;> rfl

theorem owner_of_plain (plain : ':' ∉ text) (unbroken : '\n' ∉ text) : owner text = text := by
  have absent : Text.cutAt [':', ':'] text = none :=
    (Text.cutAt_eq_none_iff (List.cons_ne_nil _ _)).2 fun present =>
      plain (present.subset List.mem_cons_self)
  rw [owner_of_unbroken unbroken, absent]
  rfl

theorem owner_of_doubled (doubled : Doubled text before behind) (unbroken : '\n' ∉ text) :
    owner text = before := by
  have cut : Text.cutAt [':', ':'] text = some (before, behind) := by
    refine Text.cutAt_eq_some_iff.2 ⟨by simpa using doubled.1, fun before' behind' whole => ?_⟩
    -- A cut further to the front would need a colon there.
    by_contra shorter
    have inside : ':' ∈ before := by
      rw [doubled.1, List.append_assoc] at whole
      rcases List.append_eq_append_iff.1 whole with ⟨rest, rfl, -⟩ | ⟨rest, rfl, tail⟩
      · simp at shorter
      · cases rest with
        | nil => simp at shorter
        | cons c rest =>
          obtain ⟨rfl, -⟩ := List.cons.inj tail
          exact List.mem_append_right _ List.mem_cons_self
    exact doubled.2 inside
  rw [owner_of_unbroken unbroken, cut]
  rfl

/-! ## Names -/

/-- What marks a data set: its number, or its label in quotes. -/
inductive IsMark : String → Prop
  | number {digits : String} : digits ≠ "" → (∀ d ∈ digits.toList, d.isDigit = true) →
      IsMark ("#" ++ digits)
  | label (label : String) : IsMark ("\"" ++ label ++ "\"")

theorem IsMark.head?_ne {mark : String} (isMark : IsMark mark) (rest : List Char) :
    (mark.toList ++ rest).head? ≠ some '(' := by
  cases isMark with
  | number => simp
  | label => simp

/-- The class and the method of a test, with no sign in them that a name is cut at. -/
structure Plain (owner method : String) : Prop where
  owned : owner ≠ ""
  owner_colon : ':' ∉ owner.toList
  owner_line : '\n' ∉ owner.toList
  method_colon : ':' ∉ method.toList
  method_line : '\n' ∉ method.toList
  method_bracket : '(' ∉ method.toList

/-- The name of a method with a data set. -/
def withDataSet (method mark values : String) : String :=
  method ++ " with data set " ++ mark ++ " (" ++ values ++ ")"

/-- What stands before the values in a text. -/
def keptText (text : String) : String :=
  String.ofList (kept text.toList)

theorem toList_withDataSet (method mark values : String) :
    (withDataSet method mark values).toList = (method ++ " with data set ").toList ++
      (mark.toList ++ ' ' :: '(' :: (values.toList ++ [')'])) := by
  simp [withDataSet]

theorem Plain.owner_suite {owner method suite : String} (plain : Plain owner method)
    (fits : suite = owner ∨ suite = owner ++ "::" ++ method) :
    TestName.owner suite.toList = owner.toList := by
  rcases fits with rfl | rfl
  · exact owner_of_plain plain.owner_colon plain.owner_line
  · have doubled : Doubled (owner ++ "::" ++ method).toList owner.toList method.toList :=
      ⟨by simp, plain.owner_colon⟩
    refine owner_of_doubled doubled fun mem => ?_
    have apart : '\n' ∈ owner.toList ∨ '\n' ∈ method.toList := by simpa using mem
    exact apart.elim plain.owner_line plain.method_line

section

variable {owner method suite mark : String}

theorem Plain.split_owned (plain : Plain owner method)
    (fits : suite = owner ∨ suite = owner ++ "::" ++ method) (name : String) :
    split suite (owner ++ "::" ++ name) = (owner, String.ofList (withoutValues name.toList)) := by
  have doubled : Doubled (owner ++ "::" ++ name).toList owner.toList name.toList :=
    ⟨by simp, plain.owner_colon⟩
  have owned : owner.toList ≠ [] := fun empty => plain.owned (String.toList_eq_nil_iff.1 empty)
  rw [split, plain.owner_suite fits, withoutOwner_of_doubled doubled owned, String.ofList_toList]

/-- Nothing in front of the mark holds a sign that a name is cut at. -/
theorem Plain.uncut (plain : Plain owner method) :
    ':' ∉ (method ++ " with data set ").toList ∧ '(' ∉ (method ++ " with data set ").toList := by
  simp [plain.method_colon, plain.method_bracket]

theorem getLast?_withDataSet (method mark values : String) :
    (withDataSet method mark values).toList.getLast? = some ')' := by
  rw [withDataSet, String.toList_append]
  exact List.getLast?_concat

/-- What is kept of a name with a data set, as soon as its values are found. -/
theorem Plain.withoutValues_withDataSet (plain : Plain owner method) (isMark : IsMark mark)
    (values : String) :
    String.ofList (withoutValues (withDataSet method mark values).toList) =
      method ++ " with data set " ++ keptText mark := by
  rw [withoutValues_eq_kept (getLast?_withDataSet method mark values), toList_withDataSet,
    kept_append plain.uncut.2 (isMark.head?_ne _), kept_append_values, String.ofList_append,
    String.ofList_toList]
  rfl

/-- The name of a case is its method with its data set. What is kept of the mark stands before a
first ` (` in it. A name without the class in front is cut behind a first colon in the mark or in
the values that is doubled. -/
theorem split_eq (plain : Plain owner method)
    (fits : suite = owner ∨ suite = owner ++ "::" ++ method) (isMark : IsMark mark)
    (values : String) :
    split suite (owner ++ "::" ++ withDataSet method mark values) =
        (owner, method ++ " with data set " ++ keptText mark) ∧
      (keptText mark = mark ↔ ¬ [' ', '('] <:+: mark.toList) ∧
      ((¬ ∃ before behind, Doubled (mark ++ " (" ++ values ++ ")").toList before behind) →
        split suite (withDataSet method mark values) =
          (owner, method ++ " with data set " ++ keptText mark)) ∧
      (∀ before behind, Doubled (mark ++ " (" ++ values ++ ")").toList before behind →
        split suite (withDataSet method mark values) = (owner, String.ofList (kept behind))) ∧
      split suite (owner ++ "::" ++ method) = (owner, method) ∧
      split suite method = (owner, method) := by
  have class_eq := plain.owner_suite fits
  have parts : (withDataSet method mark values).toList =
      (method ++ " with data set ").toList ++ (mark ++ " (" ++ values ++ ")").toList := by
    rw [toList_withDataSet]
    simp
  have bare : withoutValues method.toList = method.toList :=
    withoutValues_of_unopened plain.method_bracket
  refine ⟨?_, ?_, fun single => ?_, fun before behind doubled => ?_, ?_, ?_⟩
  · rw [plain.split_owned fits, plain.withoutValues_withDataSet isMark]
  · rw [← kept_eq_self_iff, keptText, ← String.toList_inj, String.toList_ofList]
  · have whole : withoutOwner (withDataSet method mark values).toList =
        (withDataSet method mark values).toList := by
      refine withoutOwner_of_not_doubled ?_
      rwa [parts, doubled_append_iff plain.uncut.1]
    rw [split, class_eq, whole, plain.withoutValues_withDataSet isMark, String.ofList_toList]
  · have later : Doubled (withDataSet method mark values).toList
        ((method ++ " with data set ").toList ++ before) behind := by
      refine ⟨by rw [parts, doubled.1, List.append_assoc], fun mem => ?_⟩
      exact (List.mem_append.1 mem).elim plain.uncut.1 doubled.2
    have closed : behind.getLast? = some ')' := by
      have last := getLast?_withDataSet method mark values
      rw [later.1, List.getLast?_append, List.getLast?_cons_cons] at last
      cases behind with
      | nil => cases last
      | cons c behind => simpa [List.getLast?_cons_cons] using last
    rw [split, class_eq, withoutOwner_of_doubled later (by simp), withoutValues_eq_kept closed,
      String.ofList_toList]
  · rw [plain.split_owned fits, bare, String.ofList_toList]
  · have single : ¬ ∃ before behind, Doubled method.toList before behind := by
      rintro ⟨before, behind, whole, -⟩
      exact plain.method_colon (by rw [whole]; simp)
    rw [split, class_eq, withoutOwner_of_not_doubled single, bare, String.ofList_toList,
      String.ofList_toList]

/-- A doubled colon in the values or a ` (` in the label leaves something else of a name. -/
theorem split_of_signs :
    Plain "SomeTest" "test" ∧ IsMark "#3" ∧ IsMark "\"one (1)\"" ∧
      split "SomeTest" (withDataSet "test" "#3" "'Foo::bar'") = ("SomeTest", "bar')") ∧
      split "SomeTest::test" ("SomeTest" ++ "::" ++ withDataSet "test" "\"one (1)\"" "1") =
        ("SomeTest", "test with data set \"one") := by
  have plain : Plain "SomeTest" "test" := by
    constructor <;> decide
  have number : IsMark "#3" := @IsMark.number "3" (by decide) (by simp)
  have label : IsMark "\"one (1)\"" := .label "one (1)"
  obtain ⟨-, -, -, unowned, -⟩ := split_eq plain (Or.inl rfl) number "'Foo::bar'"
  obtain ⟨owned, -⟩ := split_eq plain (Or.inr rfl) label "1"
  refine ⟨plain, number, label, ?_, owned.trans (by decide)⟩
  exact (unowned "#3 ('Foo".toList "bar')".toList ⟨by decide, by decide⟩).trans
    (by decide)

end

end TestImpact.TestName
