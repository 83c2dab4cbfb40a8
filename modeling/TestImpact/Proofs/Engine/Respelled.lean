import TestImpact.Proofs.Discovery.Declared
import TestImpact.Proofs.Engine.Untouched

/-!
# Changed paths under two spellings

What a changed path affects depends on the place that it is found at and on how its text ends
(`Resolver.abreast_testsOf`): two spellings of one place affect tests at the same places, though the
tests may be spelled differently. Planning sees of a test only its place until it is found
(`Executor.places_uniqueTests`, `Executor.places_of_undisturbed`). What it does then is not the same for
both spellings, because reports are named after the text of a test, and the file system may refuse
one of two names. Main statement: `Engine.plansAlike`.
-/

namespace TestImpact

/-! ## Actions that go abreast -/

namespace Resolving

variable {α β γ δ : Type} {related : α → β → Prop} {related' : γ → δ → Prop}

/-- Two actions come to related values or to the same failure, and then remember the same, whatever
was remembered before. -/
def Abreast (related : α → β → Prop) (first : Resolving α) (second : Resolving β) : Prop :=
  ∀ memory,
    (∃ a b after, Yields memory first (.ok a) after ∧ Yields memory second (.ok b) after ∧
      related a b) ∨
    ∃ failure after, Yields memory first (.error failure) after ∧
      Yields memory second (.error failure) after

theorem abreast_refl (action : Resolving α) : Abreast Eq action action := by
  intro memory
  rcases ran : action.run.run memory with ⟨failure | a, after⟩
  · exact Or.inr ⟨failure, after, ran, ran⟩
  · exact Or.inl ⟨a, a, after, ran, ran, rfl⟩

theorem abreast_pure {a : α} {b : β} (same : related a b) :
    Abreast related (pure a) (pure b) :=
  fun memory => Or.inl ⟨a, b, memory, rfl, rfl, same⟩

theorem abreast_lift {first : Except Failure α} {second : Except Failure β}
    (same : (∃ a b, first = .ok a ∧ second = .ok b ∧ related a b) ∨
      ∃ failure, first = .error failure ∧ second = .error failure) :
    Abreast related (monadLift first) (monadLift second) := by
  intro memory
  rcases same with ⟨a, b, returned, returned', same⟩ | ⟨failure, failed, failed'⟩
  · exact Or.inl ⟨a, b, memory, yields_lift returned memory, yields_lift returned' memory, same⟩
  · exact Or.inr ⟨failure, memory, yields_lift failed memory, yields_lift failed' memory⟩

theorem Abreast.bind {first : Resolving α} {second : Resolving β} {next : α → Resolving γ}
    {next' : β → Resolving δ} (abreast : Abreast related first second)
    (later : ∀ a b, related a b → Abreast related' (next a) (next' b)) :
    Abreast related' (first >>= next) (second >>= next') := by
  intro memory
  rcases abreast memory with ⟨a, b, between, ran, ran', same⟩ | ⟨failure, after, ran, ran'⟩
  · rcases later a b same between with
      ⟨c, d, after, ends, ends', same⟩ | ⟨failure, after, ends, ends'⟩
    · exact Or.inl ⟨c, d, after, ran.bind ends, ran'.bind ends', same⟩
    · exact Or.inr ⟨failure, after, ran.bind ends, ran'.bind ends'⟩
  · exact Or.inr ⟨failure, after, ran.stop next, ran'.stop next'⟩

end Resolving

/-! ## Tests at the same places -/

namespace Executor

variable {base : Option Path} {tests others : List String}

/-- The places that test files are found at. -/
def places (base : Option Path) (tests : List String) : List Path :=
  tests.map (located base)

theorem places_append (base : Option Path) (tests others : List String) :
    places base (tests ++ others) = places base tests ++ places base others :=
  List.map_append

/-- Which spellings are kept depends on their places. -/
theorem places_addUnique (known : List String) (same : places base tests = places base others) :
    places base (addUnique base known tests) = places base (addUnique base known others) := by
  induction tests generalizing others known with
  | nil => rw [List.map_eq_nil_iff.1 same.symm]
  | cons test rest ih =>
    cases others with
    | nil => cases same
    | cons other more =>
      obtain ⟨here, later⟩ := List.cons.inj same
      have known_as : identity base test = identity base other := by
        rw [identity, identity, here]
      rw [addUnique, addUnique, known_as]
      split
      · exact ih known later
      · exact congrArg₂ List.cons here (ih _ later)

theorem places_uniqueTests {affected affected' : Affected}
    (same : places base (affected.flatMap Prod.snd) = places base (affected'.flatMap Prod.snd)) :
    places base (uniqueTests base affected) = places base (uniqueTests base affected') :=
  places_addUnique [] same

end Executor

/-! ## Spellings of one changed path -/

namespace Resolver

open Executor (places)

variable {r : Resolver} {fs : FileSystem} {path other : String}

/-- Two spellings lead to one place, neither is made of slashes alone, and both end as the name of a
source file does, or neither, and likewise for a test file. -/
structure Spells (r : Resolver) (path other : String) : Prop where
  onDisk : r.onDisk path = r.onDisk other
  named : (∃ c ∈ path.toList, c ≠ '/') ∧ ∃ c ∈ other.toList, c ≠ '/'
  source : Convention.endsWith path r.convention.sourceSuffix =
    Convention.endsWith other r.convention.sourceSuffix
  test : Convention.endsWith path r.convention.testSuffix =
    Convention.endsWith other r.convention.testSuffix

theorem Spells.symm (spells : r.Spells path other) : r.Spells other path :=
  ⟨spells.onDisk.symm, spells.named.symm, spells.source.symm, spells.test.symm⟩

theorem places_fileText (spells : r.Spells path other) {found : List Location}
    (segments : ∀ names ∈ found, ∀ name ∈ names, Path.IsSegment name) :
    places r.base (found.map (fileText path)) = places r.base (found.map (fileText other)) := by
  unfold places
  rw [List.map_map, List.map_map]
  refine List.map_congr_left fun names mem => ?_
  show Executor.located r.base (fileText path names) = Executor.located r.base (fileText other names)
  rw [located_eq_onDisk, located_eq_onDisk, onDisk_fileText spells.named.1 (segments names mem),
    onDisk_fileText spells.named.2 (segments names mem), spells.onDisk]

/-- A directory has the same files under both spellings. -/
theorem testsBelow_spelled (spells : r.Spells path other) (suffix : String) :
    (∃ tests tests', testsBelow fs r.base path suffix = .ok tests ∧
      testsBelow fs r.base other suffix = .ok tests' ∧ places r.base tests = places r.base tests') ∨
    ∃ failure, testsBelow fs r.base path suffix = .error failure ∧
      testsBelow fs r.base other suffix = .error failure := by
  have led : CoverageIndex.anchored r.base path = CoverageIndex.anchored r.base other :=
    spells.onDisk
  unfold testsBelow
  simp only
  rw [← led]
  split
  next location _ =>
    refine Or.inl ⟨_, _, rfl, rfl, places_fileText spells fun names mem name inside => ?_⟩
    have below := (List.mem_filter.1 mem).1
    exact (FileSystem.isSegment_of_mem_filesBelow below name inside).1
  next fault _ =>
    split
    · exact Or.inl ⟨[], [], rfl, rfl, rfl⟩
    · exact Or.inr ⟨.file fault, rfl, rfl⟩
  next => exact Or.inl ⟨[], [], rfl, rfl, rfl⟩

theorem abreast_testsOfDirectory (spells : r.Spells path other) (place : String) :
    Resolving.Abreast (fun tests tests' => places r.base tests = places r.base tests')
      (monadLift (r.testsOfDirectory fs path place))
      (monadLift (r.testsOfDirectory fs other place)) := by
  refine Resolving.abreast_lift ?_
  unfold testsOfDirectory
  split
  · exact testsBelow_spelled spells _
  · split
    next directory _ =>
      cases testsBelow fs none directory r.convention.testSuffix with
      | ok tests => exact Or.inl ⟨tests, tests, rfl, rfl, rfl⟩
      | error failure => exact Or.inr ⟨failure, rfl, rfl⟩
    next => exact Or.inl ⟨[], [], rfl, rfl, rfl⟩

/-- What a changed path affects depends on its place and on how it ends. -/
theorem abreast_testsOf (spells : r.Spells path other) :
    Resolving.Abreast (fun tests tests' => places r.base tests = places r.base tests')
      (r.testsOf fs path) (r.testsOf fs other) := by
  have itself : ∀ inside : Bool,
      places r.base (if inside then [path] else []) =
        places r.base (if inside then [other] else []) := by
    intro inside
    cases inside with
    | false => rfl
    | true =>
      refine congrArg (fun place => [place]) ?_
      rw [located_eq_onDisk, located_eq_onDisk, spells.onDisk]
  unfold testsOf
  simp only [spells.onDisk, spells.source, spells.test]
  refine (Resolving.abreast_refl _).bind ?_
  rintro directory _ rfl
  split
  · exact abreast_testsOfDirectory spells _
  split
  · exact Resolving.abreast_pure rfl
  split <;>
  · refine (Resolving.abreast_refl _).bind ?_
    rintro tests _ rfl
    refine Resolving.abreast_pure ?_
    rw [Executor.places_append, Executor.places_append, itself]

theorem abreast_resolve (spells : r.Spells path other) :
    Resolving.Abreast
      (fun affected affected' =>
        places r.base (affected.flatMap Prod.snd) = places r.base (affected'.flatMap Prod.snd))
      (r.resolve fs [path]) (r.resolve fs [other]) := by
  unfold resolve
  simp only [List.foldlM_cons, List.foldlM_nil, bind_assoc, pure_bind]
  refine (abreast_testsOf spells).bind fun tests tests' same => Resolving.abreast_pure ?_
  simpa [Affected.put] using same

end Resolver

/-! ## Planning -/

namespace Executor

variable {executor : Executor} {before after : World} {affected affected' : Affected}
  {jobs : List Job}

/-- If the answers about tests do not change on the way, the tests that lead to a file are planned. -/
theorem testPath_of_answers {tests : List String} {answer : String → Except Fault Bool}
    (answered : ∀ passed later made between, tests = passed ++ later →
      (executor.planTests passed).Returns before made between → ∀ test ∈ later,
        between.files.isFile (located executor.base test) = answer test)
    (went : (executor.planTests tests).Returns before jobs after) :
    jobs.map Job.testPath = tests.filter fun test => answer test = .ok true := by
  induction tests generalizing before jobs with
  | nil =>
    obtain ⟨rfl, -⟩ := Action.returns_pure.1 went
    rfl
  | cons test rest ih =>
    obtain ⟨found, start, asked, went⟩ := Action.returns_bind.1 went
    obtain ⟨asked, rfl⟩ := Action.returns_ask.1 asked
    have told : answer test = .ok found := by
      have none_passed : (executor.planTests []).Returns start [] start :=
        Action.returns_pure.2 ⟨rfl, rfl⟩
      rw [← answered [] (test :: rest) [] start rfl none_passed test List.mem_cons_self, asked]
    have asked' : (Action.ask (·.isFile (located executor.base test))).Returns start found start :=
      Action.returns_ask.2 ⟨asked, rfl⟩
    cases found with
    | false =>
      rw [List.filter_cons_of_neg (by simp [told])]
      refine ih (fun passed later made between split passed_made => ?_) went
      exact answered (test :: passed) later made between (by rw [split, List.cons_append])
        (Action.returns_bind.2 ⟨false, start, asked', passed_made⟩)
    | true =>
      obtain ⟨job, next, job_made, went⟩ := Action.returns_bind.1 went
      obtain ⟨more, stop, rest_made, ended⟩ := Action.returns_bind.1 went
      obtain ⟨rfl, rfl⟩ := Action.returns_pure.1 ended
      rw [List.filter_cons_of_pos (by simp [told]), List.map_cons, (returns_jobOf job_made).1]
      refine congrArg (test :: ·) (ih (fun passed later made between split passed_made => ?_)
        rest_made)
      refine answered (test :: passed) later (job :: made) between
        (by rw [split, List.cons_append]) ?_
      refine Action.returns_bind.2 ⟨true, start, asked', ?_⟩
      refine Action.returns_bind.2 ⟨job, next, job_made, ?_⟩
      exact Action.returns_bind.2 ⟨made, between, passed_made, Action.returns_pure.2 ⟨rfl, rfl⟩⟩

/-- When planning comes to an affected test, the answer about it is what it was at the beginning: to
make room for the reports of the tests before it has neither removed nor made it. -/
def Undisturbed (executor : Executor) (affected : Affected) (before : World) : Prop :=
  ∀ passed later made between, uniqueTests executor.base affected = passed ++ later →
    (executor.planTests passed).Returns before made between → ∀ test ∈ later,
      between.files.isFile (located executor.base test) =
        before.files.isFile (located executor.base test)

/-- Nothing comes before the only test. -/
theorem undisturbed_of_single {test : String} (single : uniqueTests executor.base affected = [test]) :
    executor.Undisturbed affected before := by
  intro passed later made between split passed_made other mem
  rw [single] at split
  cases passed with
  | nil =>
    obtain ⟨-, rfl⟩ := Action.returns_pure.1 passed_made
    rfl
  | cons first rest =>
    obtain ⟨-, none_left⟩ := List.cons.inj split
    obtain ⟨-, rfl⟩ := List.append_eq_nil_iff.1 none_left.symm
    cases mem

/-- The places of planned tests are those of affected tests that lead to a file. -/
theorem places_of_undisturbed (undisturbed : executor.Undisturbed affected before)
    (returned : (executor.plan affected).Returns before jobs after) :
    places executor.base (jobs.map Job.testPath) =
      (places executor.base (uniqueTests executor.base affected)).filter fun place =>
        before.files.isFile place = .ok true := by
  have kept : jobs.map Job.testPath = (uniqueTests executor.base affected).filter fun test =>
      before.files.isFile (located executor.base test) = .ok true :=
    testPath_of_answers undisturbed (returns_plan returned).2
  rw [kept, places, places, List.filter_map]
  rfl

theorem returns_planTests_nil_iff {tests : List String} :
    (executor.planTests tests).Returns before [] after ↔
      after = before ∧ ∀ place ∈ places executor.base tests, before.files.isFile place = .ok false := by
  constructor
  · intro returned
    refine ⟨unchanged_of_no_jobs returned, ?_⟩
    induction tests with
    | nil => exact fun _ mem => nomatch mem
    | cons test rest ih =>
      obtain ⟨found, start, asked, returned⟩ := Action.returns_bind.1 returned
      obtain ⟨asked, rfl⟩ := Action.returns_ask.1 asked
      cases found with
      | false => exact List.forall_mem_cons.2 ⟨asked, ih returned⟩
      | true =>
        obtain ⟨job, _, -, returned⟩ := Action.returns_bind.1 returned
        obtain ⟨more, _, -, ended⟩ := Action.returns_bind.1 returned
        cases (Action.returns_pure.1 ended).1
  · rintro ⟨rfl, absent⟩
    induction tests with
    | nil => exact Action.returns_pure.2 ⟨rfl, rfl⟩
    | cons test rest ih =>
      obtain ⟨here, later⟩ := List.forall_mem_cons.1 absent
      exact Action.returns_bind.2 ⟨false, after, Action.returns_ask.2 ⟨here, rfl⟩, ih later⟩

/-- Planning finds nothing to run exactly if no affected test leads to a file. -/
theorem fails_plan_noTests_iff :
    (executor.plan affected).Fails before ⟨.usage .noTests, []⟩ after ↔
      after = before ∧ ∀ place ∈ places executor.base (uniqueTests executor.base affected),
        before.files.isFile place = .ok false := by
  rw [← returns_planTests_nil_iff]
  constructor
  · intro failed
    rcases plan_fails failed with ⟨went, -⟩ | failed
    · exact went
    · obtain ⟨_, _, _, _, _, _, -, -, -, other⟩ := fails_planTests failed
      cases other
  · exact fun went => Action.fails_bind.2 (Or.inr ⟨[], after, went, Action.fails_fail.2 ⟨rfl, rfl⟩⟩)

/-- Where planning of tests at the same places goes another way, the file system refuses something
for one of them. -/
theorem plan_of_same_places
    (same : places executor.base (affected.flatMap Prod.snd) =
      places executor.base (affected'.flatMap Prod.snd))
    (undisturbed : executor.Undisturbed affected before)
    (undisturbed' : executor.Undisturbed affected' before)
    (returned : (executor.plan affected).Returns before jobs after) :
    (∃ jobs' after', (executor.plan affected').Returns before jobs' after' ∧
      places executor.base (jobs'.map Job.testPath) =
        places executor.base (jobs.map Job.testPath)) ∨
    ∃ test between fault after', executor.Refuses test between fault ∧
      (executor.plan affected').Fails before ⟨.file fault, []⟩ after' := by
  have unique := places_uniqueTests same
  rcases Action.returns_or_fails (executor.plan affected') before with
    ⟨jobs', after', returned'⟩ | ⟨raised, after', failed⟩
  · refine Or.inl ⟨jobs', after', returned', ?_⟩
    rw [places_of_undisturbed undisturbed returned,
      places_of_undisturbed undisturbed' returned', unique]
  · rcases plan_fails failed with ⟨went, rfl⟩ | stopped
    · obtain ⟨rfl, absent⟩ := fails_plan_noTests_iff.1 failed
      rw [← unique] at absent
      exact absurd (fails_plan_noTests_iff.2 ⟨rfl, absent⟩) returned.not_fails
    · obtain ⟨_, first, _, _, between, fault, -, -, refused, rfl⟩ := fails_planTests stopped
      exact Or.inr ⟨first, between, fault, after', refused, failed⟩

end Executor

namespace Engine

variable {engine : Engine} {paths others : List String} {start : World}

/-- Planning for some paths finds that there is nothing to run. -/
def PlansNothing (engine : Engine) (paths : List String) (start : World) : Prop :=
  ∃ after, (engine.plan paths).Fails start ⟨.usage .noTests, []⟩ after

/-- When planning for some paths comes to a test that they affect, the answer about it is what it was
at the beginning. -/
def Undisturbed (engine : Engine) (paths : List String) (start : World) : Prop :=
  ∀ affected between,
    (Action.resolving (engine.resolver.resolve start.files paths)).Returns start affected between →
    engine.executor.Undisturbed affected between

/-- The same test files on disk are planned for some paths and for others, in the same order, unless
the file system refuses something for a test of the others; and there is nothing to run for both or
for neither. -/
structure PlansAlike (engine : Engine) (paths others : List String) (start : World) : Prop where
  nothing : engine.PlansNothing paths start ↔ engine.PlansNothing others start
  planned : engine.Undisturbed paths start → engine.Undisturbed others start →
    ∀ jobs after, (engine.plan paths).Returns start jobs after →
    (∃ jobs' after', (engine.plan others).Returns start jobs' after' ∧
      Executor.places engine.executor.base (jobs'.map Job.testPath) =
        Executor.places engine.executor.base (jobs.map Job.testPath)) ∨
    ∃ test between fault after', engine.executor.Refuses test between fault ∧
      (engine.plan others).Fails start ⟨.file fault, []⟩ after'

/-- Resolving comes to what it yields, and leaves the index that it leaves. -/
theorem outcome_resolving_of_yields {α : Type} {action : Resolving α} {outcome : Except Failure α}
    {after : Memory} (yields : Resolving.Yields start.knowledge.index action outcome after) :
    (Action.resolving action).outcome start = (Action.ofExcept outcome).outcome
      { start with knowledge := { start.knowledge with index := after } } := by
  show (Action.ofExcept (action.run.run start.knowledge.index).1).outcome
    { start with knowledge :=
      { start.knowledge with index := (action.run.run start.knowledge.index).2 } } = _
  rw [yields]

theorem returns_resolving_of_yields {α : Type} {action : Resolving α} {a : α} {after : Memory}
    (yields : Resolving.Yields start.knowledge.index action (.ok a) after) :
    (Action.resolving action).Returns start a
      { start with knowledge := { start.knowledge with index := after } } :=
  outcome_resolving_of_yields yields

theorem fails_resolving_of_yields {α : Type} {action : Resolving α} {failure : Failure}
    {after : Memory}
    (yields : Resolving.Yields start.knowledge.index action (.error failure) after) :
    (Action.resolving action).Fails start ⟨failure, []⟩
      { start with knowledge := { start.knowledge with index := after } } :=
  outcome_resolving_of_yields yields

/-- Between resolving the paths and planning the tests nothing is asked for that depends on the
paths. -/
theorem plan_after_resolving (engine : Engine) (between : World) :
    (∃ raised after, ∀ {paths start affected},
      (Action.resolving (engine.resolver.resolve start.files paths)).Returns start affected between →
      (engine.plan paths).Fails start raised after) ∨
    ∀ {paths start affected},
      (Action.resolving (engine.resolver.resolve start.files paths)).Returns start affected between →
      (engine.plan paths).outcome start = (engine.executor.plan affected).outcome between := by
  rcases Action.returns_or_fails engine.builder.requireAvailable between with
    ⟨_, last, available⟩ | ⟨raised, after, unavailable⟩
  · have unchanged : engine.builder.requireAvailable.Keeps (id : World → World) :=
      keeps_requireAvailable _
    have same : last = between := available.keeps unchanged
    rw [same] at available
    rcases Action.returns_or_fails (Action.ofExcept engine.executor.require) between with
      ⟨_, last, enough⟩ | ⟨raised, after, refused⟩
    · obtain ⟨-, rfl⟩ := Action.returns_ofExcept.1 enough
      refine Or.inr fun resolved => ?_
      unfold plan
      rw [Action.outcome_get_bind, Action.outcome_bind, resolved]
      simp only
      rw [Action.outcome_bind, available]
      simp only
      rw [Action.outcome_bind, enough]
    · refine Or.inl ⟨raised, after, fun resolved => ?_⟩
      unfold plan
      rw [Action.fails_get_bind]
      refine Action.fails_bind.2 (Or.inr ⟨_, _, resolved, ?_⟩)
      exact Action.fails_bind.2 (Or.inr ⟨_, _, available, Action.fails_bind.2 (Or.inl refused)⟩)
  · refine Or.inl ⟨raised, after, fun resolved => ?_⟩
    unfold plan
    rw [Action.fails_get_bind]
    exact Action.fails_bind.2 (Or.inr ⟨_, _, resolved, Action.fails_bind.2 (Or.inl unavailable)⟩)

theorem Fails.plansAlike {raised : Raised} {after : World}
    (failed : (engine.plan paths).Fails start raised after)
    (failed' : (engine.plan others).Fails start raised after) :
    engine.PlansAlike paths others start where
  nothing := by
    have decided : ∀ {some : List String}, (engine.plan some).Fails start raised after →
        (engine.PlansNothing some start ↔ raised = ⟨.usage .noTests, []⟩) := by
      intro some failed
      constructor
      · rintro ⟨_, nothing⟩
        cases failed.symm.trans nothing
        rfl
      · rintro rfl
        exact ⟨after, failed⟩
    rw [decided failed, decided failed']
  planned _ _ jobs last returned := absurd failed returned.not_fails

/-- Two spellings of a changed path plan the same tests. -/
theorem plansAlike {path other : String} (spells : engine.resolver.Spells path other)
    (start : World) : engine.PlansAlike [path] [other] start := by
  have abreast : Resolving.Abreast _ (engine.resolver.resolve start.files [path])
      (engine.resolver.resolve start.files [other]) := Resolver.abreast_resolve spells
  rcases abreast start.knowledge.index with
    ⟨affected, affected', index, resolved, resolved', same⟩ | ⟨failure, index, failed, failed'⟩
  · have resolved := returns_resolving_of_yields resolved
    have resolved' := returns_resolving_of_yields resolved'
    rcases engine.plan_after_resolving
        { start with knowledge := { start.knowledge with index := index } } with
      ⟨raised, after, stops⟩ | goes
    · exact Fails.plansAlike (stops resolved) (stops resolved')
    have here := goes resolved
    have there := goes resolved'
    constructor
    · unfold PlansNothing Action.Fails
      rw [here, there]
      refine exists_congr fun after => ?_
      have unique : Executor.places engine.executor.base
            (Executor.uniqueTests engine.executor.base affected) =
          Executor.places engine.executor.base
            (Executor.uniqueTests engine.executor.base affected') :=
        Executor.places_uniqueTests same
      show (engine.executor.plan affected).Fails _ _ after ↔
        (engine.executor.plan affected').Fails _ _ after
      rw [Executor.fails_plan_noTests_iff, Executor.fails_plan_noTests_iff, unique]
    · intro undisturbed undisturbed' jobs after returned
      unfold Action.Returns Action.Fails at *
      rw [here] at returned
      rw [there]
      exact Executor.plan_of_same_places same (undisturbed _ _ resolved)
        (undisturbed' _ _ resolved') returned
  · have stops : ∀ {path}, Resolving.Yields start.knowledge.index
        (engine.resolver.resolve start.files [path]) (.error failure) index →
        (engine.plan [path]).Fails start ⟨failure, []⟩
          { start with knowledge := { start.knowledge with index := index } } := by
      intro path failed
      unfold plan
      rw [Action.fails_get_bind]
      exact Action.fails_bind.2 (Or.inl (fails_resolving_of_yields failed))
    exact Fails.plansAlike (stops failed) (stops failed')

end Engine

end TestImpact
