import Mathlib.Data.List.Forall2
import TestImpact.Error

/-!
# Outcomes and their first problem

What is read step by step fails at the first step that does. `Meets problems outcome` says
so of an outcome: it is a value where there are no problems, and the first problem where
there are some. The problems of a sequence are those of its steps, one after the other
(`Meets.bind`, `Meets.mapM`, `Meets.foldlM`), so the problems of a report can be listed
beside the reading of it.
-/

namespace TestImpact

variable {ε α β : Type}

/-- The outcome is a value if there are no problems, and otherwise the first of them. -/
def Meets (problems : List ε) (outcome : Except ε α) : Prop :=
  match problems with
  | [] => ∃ a, outcome = .ok a
  | first :: _ => outcome = .error first

/-- The problem of an outcome, if it has one. -/
def problem? : Except ε α → Option ε
  | .ok _ => none
  | .error e => some e

theorem mem_problem? {outcome : Except ε α} {e : ε} :
    e ∈ (problem? outcome).toList ↔ outcome = .error e := by
  cases outcome with
  | ok a => simp [problem?]
  | error first => simp [problem?, eq_comm]

theorem exists_ok_iff {outcome : Except ε α} :
    (∃ a, outcome = .ok a) ↔ ∀ e, outcome ≠ .error e := by
  cases outcome with
  | ok a => simp
  | error e => simp

theorem of_bind_ok {outcome : Except ε α} {next : α → Except ε β} {b : β}
    (ok : (outcome >>= next) = .ok b) : ∃ a, outcome = .ok a ∧ next a = .ok b := by
  cases outcome with
  | ok a => exact ⟨a, rfl, ok⟩
  | error e => cases ok

theorem of_bind_error {outcome : Except ε α} {next : α → Except ε β} {e : ε}
    (failed : (outcome >>= next) = .error e) :
    outcome = .error e ∨ ∃ a, outcome = .ok a ∧ next a = .error e := by
  cases outcome with
  | ok a => exact Or.inr ⟨a, rfl, failed⟩
  | error first =>
    cases failed
    exact Or.inl rfl

/-- A sequence fails exactly where one of its parts does. -/
theorem bind_eq_error_iff {outcome : Except ε α} {next : α → Except ε β} {e : ε} :
    (outcome >>= next) = .error e ↔
      outcome = .error e ∨ ∃ a, outcome = .ok a ∧ next a = .error e := by
  refine ⟨of_bind_error, ?_⟩
  rintro (failed | ⟨a, ok, failed⟩)
  · rw [failed]
    rfl
  · rw [ok]
    exact failed

theorem of_map_error {outcome : Except ε α} {change : α → β} {e : ε}
    (failed : change <$> outcome = .error e) : outcome = .error e := by
  cases outcome with
  | ok a => cases failed
  | error first =>
    cases failed
    rfl

theorem of_map_ok {outcome : Except ε α} {change : α → β} {b : β}
    (ok : change <$> outcome = .ok b) : ∃ a, outcome = .ok a ∧ change a = b := by
  cases outcome with
  | ok a =>
    cases ok
    exact ⟨a, rfl, rfl⟩
  | error e => cases ok

/-- Steps that are taken one after the other give the results of the steps, each at its place. -/
theorem mapM_eq_ok_iff {step : α → Except ε β} {steps : List α} {found : List β} :
    steps.mapM step = .ok found ↔ List.Forall₂ (fun a b => step a = .ok b) steps found := by
  induction steps generalizing found with
  | nil =>
    rw [List.forall₂_nil_left_iff]
    exact ⟨fun ok => (Except.ok.inj ok).symm, fun empty => congrArg Except.ok empty.symm⟩
  | cons first rest ih =>
    rw [List.mapM_cons, List.forall₂_cons_left_iff]
    constructor
    · intro ok
      obtain ⟨b, here, ok⟩ := of_bind_ok ok
      obtain ⟨others, later, ok⟩ := of_bind_ok ok
      exact ⟨b, others, here, ih.1 later, (Except.ok.inj ok).symm⟩
    · rintro ⟨b, others, here, later, rfl⟩
      rw [here, ih.2 later]
      rfl

/-- A refusal of the file system is one failure among others. -/
theorem orFailure_eq_error_iff {outcome : Except Fault α} {failure : Failure} :
    orFailure outcome = .error failure ↔
      ∃ fault, outcome = .error fault ∧ failure = .file fault := by
  cases outcome with
  | ok a =>
    have kept : orFailure (.ok a : Except Fault α) = .ok a := rfl
    simp [kept]
  | error fault =>
    have turned : orFailure (.error fault : Except Fault α) = .error (.file fault) := rfl
    simp [turned, eq_comm]

theorem orFailure_eq_ok_iff {outcome : Except Fault α} {a : α} :
    orFailure outcome = .ok a ↔ outcome = .ok a := by
  cases outcome with
  | ok b =>
    have kept : orFailure (.ok b : Except Fault α) = .ok b := rfl
    simp [kept]
  | error fault =>
    have turned : orFailure (.error fault : Except Fault α) = .error (.file fault) := rfl
    simp [turned]

namespace Meets

variable {problems others : List ε} {outcome : Except ε α}

theorem ok (a : α) : Meets [] (.ok a : Except ε α) :=
  ⟨a, rfl⟩

theorem error (e : ε) : Meets [e] (.error e : Except ε α) :=
  rfl

theorem of_problem? (outcome : Except ε α) : Meets (problem? outcome).toList outcome := by
  cases outcome with
  | ok a => exact ok a
  | error e => exact error e

theorem ok_iff (meets : Meets problems outcome) : (∃ a, outcome = .ok a) ↔ problems = [] := by
  cases problems with
  | nil => exact ⟨fun _ => rfl, fun _ => meets⟩
  | cons first rest =>
    have failed : outcome = .error first := meets
    simp [failed]

theorem error_iff (meets : Meets problems outcome) {e : ε} :
    outcome = .error e ↔ problems.head? = some e := by
  cases problems with
  | nil =>
    obtain ⟨a, rfl⟩ := meets
    simp
  | cons first rest =>
    have failed : outcome = .error first := meets
    simp [failed]

theorem map (meets : Meets problems outcome) (change : α → β) :
    Meets problems (change <$> outcome) := by
  cases problems with
  | nil =>
    obtain ⟨a, rfl⟩ := meets
    exact ok (change a)
  | cons first rest =>
    have failed : outcome = .error first := meets
    rw [failed]
    rfl

theorem mapError {δ : Type} (meets : Meets problems outcome) (change : ε → δ) :
    Meets (problems.map change) (outcome.mapError change) := by
  cases problems with
  | nil =>
    obtain ⟨a, rfl⟩ := meets
    exact ok a
  | cons first rest =>
    have failed : outcome = .error first := meets
    rw [failed]
    rfl

/-- Problems of the second step come after those of the first. -/
theorem bind {next : α → Except ε β} (meets : Meets problems outcome)
    (later : ∀ a, outcome = .ok a → Meets others (next a)) :
    Meets (problems ++ others) (outcome >>= next) := by
  cases problems with
  | nil =>
    obtain ⟨a, rfl⟩ := meets
    exact later a rfl
  | cons first rest =>
    have failed : outcome = .error first := meets
    rw [failed]
    rfl

theorem mapM {problemsOf : α → List ε} {step : α → Except ε β} {steps : List α}
    (each : ∀ a ∈ steps, Meets (problemsOf a) (step a)) :
    Meets (steps.flatMap problemsOf) (steps.mapM step) := by
  induction steps with
  | nil => exact ok []
  | cons first rest ih =>
    rw [List.mapM_cons, List.flatMap_cons]
    refine (each first List.mem_cons_self).bind fun b _ => ?_
    exact (ih fun a mem => each a (List.mem_cons_of_mem _ mem)).map (b :: ·)

theorem foldlM {problemsOf : α → List ε} {step : β → α → Except ε β} {steps : List α}
    (each : ∀ b, ∀ a ∈ steps, Meets (problemsOf a) (step b a)) (start : β) :
    Meets (steps.flatMap problemsOf) (steps.foldlM step start) := by
  induction steps generalizing start with
  | nil => exact ok start
  | cons first rest ih =>
    rw [List.foldlM_cons, List.flatMap_cons]
    refine (each start first List.mem_cons_self).bind fun b _ => ?_
    exact ih (fun b a mem => each b a (List.mem_cons_of_mem _ mem)) b

end Meets

end TestImpact
