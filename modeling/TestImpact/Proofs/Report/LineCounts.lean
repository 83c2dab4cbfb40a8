import TestImpact.Report.Reading

/-!
# Counting lines is asking an oracle

Known line counts save the reading of a file, and nothing else: what a report comes to does
not depend on which of the counts are known already, as long as the known ones are right.
`LineCounts.answer` is what is known or would be read, and an action that counts lines
`Asks` for these answers. It comes to what it would with an oracle in place of the counts,
and it leaves all answers as they were (`asks_results`). Only the answers about the files that a
report names matter (`Reading.resultsBy_congr`).
-/

namespace TestImpact

variable {α β : Type} {fs : FileSystem} {root : Path} {oracle : String → Except Failure Int}

/-- The number of lines of a source file, known or read. -/
def LineCounts.answer (fs : FileSystem) (root : Path) (counts : LineCounts) (path : String) :
    Except Failure Int :=
  match counts.lookup path with
  | some known => .ok known
  | none => Int.ofNat <$> LineCounts.read fs root path

/-- An action that counts lines comes to what an oracle makes of it, and leaves the answers of
the oracle as they were. -/
def Asks (fs : FileSystem) (root : Path) (oracle : String → Except Failure Int)
    (action : Counting α) (answer : Except Failure α) : Prop :=
  ∀ counts, LineCounts.answer fs root counts = oracle →
    (action.run.run counts).1 = answer ∧
      LineCounts.answer fs root (action.run.run counts).2 = oracle

theorem asks_pure (a : α) : Asks fs root oracle (pure a) (.ok a) :=
  fun _ same => ⟨rfl, same⟩

theorem asks_throw (failure : Failure) :
    Asks fs root oracle (throw failure : Counting α) (.error failure) :=
  fun _ same => ⟨rfl, same⟩

theorem run_bind_counting (action : Counting α) (next : α → Counting β) (counts : LineCounts) :
    (action >>= next).run.run counts =
      match action.run.run counts with
      | (.ok a, between) => (next a).run.run between
      | (.error failure, between) => (.error failure, between) := by
  have unfolded : (action >>= next).run.run counts =
      (ExceptT.bindCont next (action.run.run counts).1) (action.run.run counts).2 := rfl
  rw [unfolded]
  rcases action.run.run counts with ⟨_ | _, _⟩ <;> rfl

theorem asks_bind {action : Counting α} {next : α → Counting β} {answer : Except Failure α}
    {later : α → Except Failure β} (first : Asks fs root oracle action answer)
    (second : ∀ a, Asks fs root oracle (next a) (later a)) :
    Asks fs root oracle (action >>= next) (answer >>= later) := by
  intro counts same
  obtain ⟨came, kept⟩ := first counts same
  rw [run_bind_counting]
  cases run : action.run.run counts with
  | mk outcome between =>
    rw [run] at came kept
    subst came
    cases outcome with
    | ok a => exact second a between kept
    | error failure => exact ⟨rfl, kept⟩

theorem asks_map {action : Counting α} {answer : Except Failure α}
    (asks : Asks fs root oracle action answer) (change : α → β) :
    Asks fs root oracle (change <$> action) (change <$> answer) := by
  rw [map_eq_pure_bind, map_eq_pure_bind]
  exact asks_bind asks fun a => asks_pure (change a)

theorem asks_foldlM {step : β → α → Counting β} {answer : β → α → Except Failure β}
    (each : ∀ b a, Asks fs root oracle (step b a) (answer b a)) (steps : List α) (start : β) :
    Asks fs root oracle (steps.foldlM step start) (steps.foldlM answer start) := by
  induction steps generalizing start with
  | nil => exact asks_pure start
  | cons first rest ih =>
    rw [List.foldlM_cons, List.foldlM_cons]
    exact asks_bind (each start first) ih

/-- A count that is noted is the answer that would have been given. -/
theorem LineCounts.answer_set {counts : LineCounts} {path : String} {lines : Nat}
    (unknown : counts.lookup path = none) (read : LineCounts.read fs root path = .ok lines) :
    LineCounts.answer fs root (counts.set path lines) = LineCounts.answer fs root counts := by
  funext other
  unfold LineCounts.answer LineCounts.set
  rw [List.lookup_cons]
  cases same : other == path with
  | true =>
    rw [eq_of_beq same, unknown, read]
    rfl
  | false => rfl

/-- To count the lines of a file is to ask for their number. -/
theorem asks_count (path : String) :
    Asks fs root oracle (LineCounts.count fs root path) (oracle path) := by
  rintro counts rfl
  have entered : (LineCounts.count fs root path).run.run counts =
      (match counts.lookup path with
        | some known => (pure known : Counting Int)
        | none => do
          let found ← (LineCounts.read fs root path : Except Failure Nat)
          modify fun known : LineCounts => known.set path found
          pure (found : Int)).run.run counts := rfl
  rw [entered]
  unfold LineCounts.answer
  cases known : counts.lookup path with
  | some lines => exact ⟨rfl, rfl⟩
  | none =>
    cases read : LineCounts.read fs root path with
    | error failure => exact ⟨rfl, rfl⟩
    | ok lines => exact ⟨rfl, LineCounts.answer_set known read⟩

/-- To add a file to a coverage is to ask for the number of its lines. -/
theorem asks_addFile (shown : String → String) (coverage : CoverageMap) (file : Element) :
    Asks fs root oracle (Clover.addFile shown (LineCounts.count fs root) coverage file)
      (Clover.addFile shown oracle coverage file) := by
  refine asks_bind (asks_count _) fun lines => ?_
  cases Clover.statements file with
  | error e => exact asks_throw (.report e)
  | ok found =>
    simp only
    split
    · exact asks_pure _
    · exact asks_pure _

/-- To read a Clover report is to ask for the lines of the files that it names. -/
theorem asks_parse (cwd xml : String) :
    Asks fs root oracle (Clover.parse cwd root (LineCounts.count fs root) xml)
      (Clover.parse cwd root oracle xml) := by
  unfold Clover.parse
  cases Xml.parse xml with
  | error problem => exact asks_throw (.report (.clover problem))
  | ok document => exact asks_foldlM (asks_addFile _) _ []

/-- To read the reports of a test file is to ask for the lines of the files that they name. -/
theorem asks_results (testPath junit : String) (clover : Option String) (stderr : String) :
    Asks fs root oracle (Reading.results fs root testPath junit clover stderr)
      (Reading.resultsBy fs.cwd root oracle testPath junit clover stderr) := by
  unfold Reading.results Reading.resultsBy
  split
  · exact asks_pure _
  · cases Junit.parse junit with
    | error failure => exact asks_throw failure
    | ok cases =>
      refine asks_bind ?_ fun coverage => asks_pure _
      cases clover with
      | none => exact asks_pure none
      | some xml => exact asks_map (asks_parse fs.cwd xml) some

/-! ## Which answers matter -/

/-- The name under which a file of a Clover report is shown, and its lines counted. -/
def Clover.shownPath (cwd : String) (root : Path) (file : Element) : String :=
  Lexical.displayed cwd ((file.attribute? "name").getD "") root.toString

/-- The source files whose lines a Clover report asks for. -/
def Clover.named (cwd : String) (root : Path) (xml : String) : List String :=
  match Xml.parse xml with
  | .ok document => (document.withTag "file").map (shownPath cwd root)
  | .error _ => []

section

variable {m : Type → Type} [Monad m]

theorem foldlM_congr_of_mem {step next : β → α → m β} {steps : List α}
    (same : ∀ a ∈ steps, ∀ b, step b a = next b a) (start : β) :
    steps.foldlM step start = steps.foldlM next start := by
  induction steps generalizing start with
  | nil => rfl
  | cons first rest ih =>
    rw [List.foldlM_cons, List.foldlM_cons, same first List.mem_cons_self start]
    exact congrArg (next start first >>= ·)
      (funext fun b => ih (fun a mem => same a (List.mem_cons_of_mem _ mem)) b)

variable [MonadExceptOf Failure m] {cwd : String} {count other : String → m Int}

/-- The coverage that a report comes to depends on the lines of the files that it names only. -/
theorem Clover.parse_congr {xml : String}
    (same : ∀ path ∈ Clover.named cwd root xml, count path = other path) :
    Clover.parse cwd root count xml = Clover.parse cwd root other xml := by
  unfold Clover.named at same
  unfold Clover.parse
  cases parsed : Xml.parse xml with
  | error problem => rfl
  | ok document =>
    rw [parsed] at same
    refine foldlM_congr_of_mem (fun file listed coverage => ?_) []
    have asked := same _ (List.mem_map.2 ⟨file, listed, rfl⟩)
    unfold Clover.shownPath at asked
    simp only [Clover.addFile, asked]

/-- What the reports of a test file come to depends on the lines of the files that they name
only. -/
theorem Reading.resultsBy_congr {testPath junit stderr : String} {clover : Option String}
    (same : ∀ path ∈ clover.toList.flatMap (Clover.named cwd root), count path = other path) :
    Reading.resultsBy cwd root count testPath junit clover stderr =
      Reading.resultsBy cwd root other testPath junit clover stderr := by
  unfold Reading.resultsBy
  cases clover with
  | none => rfl
  | some xml =>
    rw [Option.toList_some, List.flatMap_cons, List.flatMap_nil, List.append_nil] at same
    rw [Option.mapM_some, Option.mapM_some, Clover.parse_congr same]

end

end TestImpact
