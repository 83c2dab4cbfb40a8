import TestImpact.Proofs.Execution.Calls

/-!
# Two runs side by side

`World.Twins` are two worlds that differ in their files only, by a relation between file systems.
Actions that are done in two worlds go `Abreast` if they return the same or fail with the same, and
leave related worlds. Sequences go abreast if their parts do (`abreast_bind`). An action that
neither looks at files nor changes them is `Blind` and goes abreast with itself in twins
(`Blind.abreast`).
-/

namespace TestImpact

variable {related : FileSystem → FileSystem → Prop} {left right : World}

/-- Two worlds that differ in their files only, and in these as a relation allows. -/
structure World.Twins (related : FileSystem → FileSystem → Prop) (left right : World) : Prop where
  same : right = { left with files := right.files }
  files : related left.files right.files

theorem World.Twins.imp {related' : FileSystem → FileSystem → Prop}
    (twins : World.Twins related left right)
    (weaker : related left.files right.files → related' left.files right.files) :
    World.Twins related' left right :=
  ⟨twins.same, weaker twins.files⟩

theorem World.twins_of_files {related : FileSystem → FileSystem → Prop} {files others : FileSystem}
    (fine : related files others) : World.Twins related { files } { files := others } :=
  ⟨rfl, fine⟩

/-- Two worlds that have the files of two others, and else differ in nothing. -/
abbrev World.Still (left right : World) : World → World → Prop :=
  World.Twins fun files others => files = left.files ∧ others = right.files

theorem World.Twins.still (twins : World.Twins related left right) :
    World.Still left right left right :=
  ⟨twins.same, rfl, rfl⟩

theorem World.Twins.of_still {left' right' : World} (twins : World.Twins related left right)
    (still : World.Still left right left' right') : World.Twins related left' right' := by
  refine still.imp fun ⟨same, same'⟩ => ?_
  rw [same, same']
  exact twins.files

namespace Action

variable {α β : Type} {first second : Action α} {post post' : α → World → World → Prop}
  {broken broken' : World → World → Prop}

/-- Two actions, done in two worlds, return the same and leave worlds that are related, or fail with
the same and leave worlds that are related in another way. -/
def Abreast (first second : Action α) (left right : World) (post : α → World → World → Prop)
    (broken : World → World → Prop) : Prop :=
  (∃ a left' right', first.Returns left a left' ∧ second.Returns right a right' ∧
    post a left' right') ∨
  ∃ raised left' right', first.Fails left raised left' ∧ second.Fails right raised right' ∧
    broken left' right'

/-! ## Sequences -/

theorem Abreast.imp (abreast : Abreast first second left right post broken)
    (returned : ∀ a left' right', first.Returns left a left' → post a left' right' →
      post' a left' right')
    (failed : ∀ left' right', broken left' right' → broken' left' right') :
    Abreast first second left right post' broken' := by
  rcases abreast with ⟨a, left', right', ran, ran', related⟩ | ⟨raised, left', right', ran, ran',
    related⟩
  · exact Or.inl ⟨a, left', right', ran, ran', returned a left' right' ran related⟩
  · exact Or.inr ⟨raised, left', right', ran, ran', failed left' right' related⟩

theorem Abreast.imp_broken (abreast : Abreast first second left right post broken)
    (failed : ∀ left' right', broken left' right' → broken' left' right') :
    Abreast first second left right post broken' :=
  abreast.imp (fun _ _ _ _ related => related) failed

/-- Actions that leave worlds of one kind, whatever comes of them, come to the same. -/
theorem Abreast.outcomes (abreast : Abreast first second left right (fun _ => broken) broken) :
    (first.outcome left).1 = (second.outcome right).1 ∧
      broken (first.outcome left).2 (second.outcome right).2 := by
  rcases abreast with ⟨a, _, _, ran, ran', related⟩ | ⟨raised, _, _, ran, ran', related⟩
  · rw [ran, ran']
    exact ⟨rfl, related⟩
  · rw [ran, ran']
    exact ⟨rfl, related⟩

theorem abreast_pure {a : α} (related : post a left right) :
    Abreast (pure a) (pure a) left right post broken :=
  Or.inl ⟨a, left, right, returns_pure.2 ⟨rfl, rfl⟩, returns_pure.2 ⟨rfl, rfl⟩, related⟩

theorem abreast_throw {raised : Raised} (related : broken left right) :
    Abreast (throw raised) (throw raised) left right post broken :=
  Or.inr ⟨raised, left, right, fails_throw.2 ⟨rfl, rfl⟩, fails_throw.2 ⟨rfl, rfl⟩, related⟩

theorem abreast_bind {next next' : α → Action β} {after : β → World → World → Prop}
    (abreast : Abreast first second left right post broken)
    (later : ∀ a left' right', first.Returns left a left' → second.Returns right a right' →
      post a left' right' → Abreast (next a) (next' a) left' right' after broken) :
    Abreast (first >>= next) (second >>= next') left right after broken := by
  rcases abreast with ⟨a, left', right', ran, ran', related⟩ | ⟨raised, left', right', ran, ran',
    related⟩
  · rcases later a left' right' ran ran' related with ⟨b, left'', right'', ends, ends', related⟩ |
      ⟨raised, left'', right'', ends, ends', related⟩
    · exact Or.inl ⟨b, left'', right'', returns_bind.2 ⟨a, left', ran, ends⟩,
        returns_bind.2 ⟨a, right', ran', ends'⟩, related⟩
    · exact Or.inr ⟨raised, left'', right'', fails_bind.2 (Or.inr ⟨a, left', ran, ends⟩),
        fails_bind.2 (Or.inr ⟨a, right', ran', ends'⟩), related⟩
  · exact Or.inr ⟨raised, left', right', fails_bind.2 (Or.inl ran), fails_bind.2 (Or.inl ran'),
      related⟩

theorem abreast_get_bind {next next' : World → Action α}
    (later : Abreast (next left) (next' right) left right post broken) :
    Abreast (get >>= next) (get >>= next') left right post broken :=
  later

/-- What comes of actions that are caught. -/
theorem abreast_attempt (abreast : Abreast first second left right post broken) :
    Abreast (attempt first) (attempt second) left right
      (fun outcome left' right' => match outcome with
        | .ok a => post a left' right'
        | .error _ => broken left' right') broken' := by
  rcases abreast with ⟨a, left', right', ran, ran', related⟩ | ⟨raised, left', right', ran, ran',
    related⟩
  · exact Or.inl ⟨.ok a, left', right', returns_attempt.2 ran, returns_attempt.2 ran', related⟩
  · exact Or.inl ⟨.error raised, left', right', returns_attempt.2 ran, returns_attempt.2 ran',
      related⟩

theorem abreast_tryCatch {handler handler' : Raised → Action α}
    (abreast : Abreast first second left right post broken)
    (handled : ∀ raised left' right', broken left' right' →
      Abreast (handler raised) (handler' raised) left' right' post broken') :
    Abreast (tryCatch first handler) (tryCatch second handler') left right post broken' := by
  rcases abreast with ⟨a, left', right', ran, ran', related⟩ | ⟨raised, left', right', ran, ran',
    related⟩
  · exact Or.inl ⟨a, left', right', returns_tryCatch.2 (Or.inl ran),
      returns_tryCatch.2 (Or.inl ran'), related⟩
  · rcases handled raised left' right' related with ⟨a, left'', right'', ends, ends', related⟩ |
      ⟨raised', left'', right'', ends, ends', related⟩
    · exact Or.inl ⟨a, left'', right'', returns_tryCatch.2 (Or.inr ⟨raised, left', ran, ends⟩),
        returns_tryCatch.2 (Or.inr ⟨raised, right', ran', ends'⟩), related⟩
    · exact Or.inr ⟨raised', left'', right'', fails_tryCatch.2 ⟨raised, left', ran, ends⟩,
        fails_tryCatch.2 ⟨raised, right', ran', ends'⟩, related⟩

/-! ## Actions that do not see files -/

/-- The action neither looks at files nor changes them. -/
def Blind (action : Action α) : Prop :=
  ∀ world files, action.outcome { world with files } =
    ((action.outcome world).1, { (action.outcome world).2 with files })

theorem Blind.files_eq {action : Action α} (blind : action.Blind) (before : World) :
    (action.outcome before).2.files = before.files :=
  congrArg (fun outcome => outcome.2.files) (blind before before.files)

theorem blind_pure (a : α) : (pure a : Action α).Blind :=
  fun _ _ => rfl

theorem blind_throw (raised : Raised) : (throw raised : Action α).Blind :=
  fun _ _ => rfl

theorem blind_ofExcept (outcome : Except Failure α) : (ofExcept outcome).Blind := by
  cases outcome with
  | ok a => exact blind_pure a
  | error failure => exact blind_throw failure

theorem blind_report (level : Level) (message : String) (emoji : Bool) (coloured : Option Bool) :
    (report level message emoji coloured).Blind :=
  fun _ _ => rfl

theorem blind_tick : tick.Blind :=
  fun _ _ => rfl

theorem blind_resolving (action : Resolving α) : (resolving action).Blind :=
  fun world files => blind_ofExcept (action.run world.knowledge.index).1
    { world with knowledge :=
      { world.knowledge with index := (action.run world.knowledge.index).2 } } files

theorem blind_counting (action : Counting α) : (counting action).Blind :=
  fun _ _ => rfl

theorem composes_blind : Composes fun _ => Blind where
  ofPure := blind_pure
  ofBind {_ _ action next} blind later := by
    intro world files
    rw [outcome_bind, outcome_bind, blind world files]
    rcases found : action.outcome world with ⟨_ | a, between⟩
    · rfl
    · exact later a world between found between files

theorem blind_bind {action : Action α} {next : α → Action β} (blind : action.Blind)
    (later : ∀ a, (next a).Blind) : (action >>= next).Blind :=
  composes_blind.ofBind blind fun a _ _ _ => later a

/-- An action that does not see files goes abreast with itself. -/
theorem Blind.abreast {action : Action α} (blind : action.Blind)
    (twins : World.Twins related left right) :
    Abreast action action left right (fun _ => World.Twins related) (World.Twins related) := by
  have there : action.outcome right =
      ((action.outcome left).1, { (action.outcome left).2 with files := right.files }) := by
    rw [twins.same]
    exact blind left right.files
  have kept := blind.files_eq left
  have twins' : World.Twins related (action.outcome left).2
      { (action.outcome left).2 with files := right.files } :=
    ⟨rfl, by rw [kept]; exact twins.files⟩
  cases same : action.outcome left with
  | mk outcome left' =>
    rw [same] at there twins'
    cases outcome with
    | ok a => exact Or.inl ⟨a, left', _, same, there, twins'⟩
    | error raised => exact Or.inr ⟨raised, left', _, same, there, twins'⟩

/-! ## Asking and changing files -/

theorem abreast_ask {question : FileSystem → Except Fault α}
    (same : question left.files = question right.files)
    (returned : ∀ a, question left.files = .ok a → post a left right) (failed : broken left right) :
    Abreast (ask question) (ask question) left right post broken := by
  unfold Abreast
  simp only [returns_ask, fails_ask, ← same]
  cases asked : question left.files with
  | ok a => exact Or.inl ⟨a, left, right, ⟨rfl, rfl⟩, ⟨rfl, rfl⟩, returned a asked⟩
  | error fault => exact Or.inr ⟨_, left, right, ⟨fault, rfl, rfl, rfl⟩, ⟨fault, rfl, rfl, rfl⟩,
      failed⟩

/-- A call that is answered the same in twins, and leaves related files, goes abreast. -/
theorem abreast_call {runner : Runner} {command : Call} {related' : FileSystem → FileSystem → Prop}
    (twins : World.Twins related left right)
    (answered : (runner left.calls command left.files).1 =
      (runner left.calls command right.files).1)
    (wrote : related' (runner left.calls command left.files).2
      (runner left.calls command right.files).2) :
    Abreast (call runner command) (call runner command) left right
      (fun _ => World.Twins related') (World.Twins related') := by
  have same_calls : right.calls = left.calls := by rw [twins.same]
  have twins' : World.Twins related' (called runner command left)
      (called runner command right) := by
    refine ⟨?_, ?_⟩
    · unfold called
      rw [twins.same]
    · unfold called
      simp only
      rw [same_calls]
      exact wrote
  have outcome := outcome_call runner command left
  have outcome' := outcome_call runner command right
  rw [same_calls, ← answered] at outcome'
  cases reply : (runner left.calls command left.files).1 with
  | finished process =>
    rw [reply] at outcome outcome'
    exact Or.inl ⟨_, _, _, outcome, outcome', twins'⟩
  | notStarted refusal =>
    rw [reply] at outcome outcome'
    exact Or.inl ⟨_, _, _, outcome, outcome', twins'⟩
  | broken failure =>
    rw [reply] at outcome outcome'
    exact Or.inr ⟨_, _, _, outcome, outcome', twins'⟩

end Action

end TestImpact
