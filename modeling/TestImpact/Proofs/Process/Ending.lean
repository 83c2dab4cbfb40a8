import TestImpact.Execution.Job
import TestImpact.Process.Spawn
import TestImpact.Proofs.Action
import TestImpact.Proofs.Outcome
import TestImpact.Proofs.Text.Utf8

/-!
# What silence on the error channel means

A job is taken for well run when nothing was said on the error channel. That is enough,
because everything that may go wrong with a process is said there: a refusal to start it has
words, a process that was stopped because its time was up is noted, and bytes are not lost
when they become text.

* `System.Lawful`: what is taken for granted about the system that calls go to.
* `System.ranCleanly_of_silent`: a call that left nothing on the error channel was a process
  that ended before its time was up and wrote nothing there.
* `System.BreaksOff.answered`: a call that is refused, or whose time is up, is answered, too.
* `lawful_machineSystem`: the machine that holds the files is such a system.
-/

namespace TestImpact

/-! ## Bytes that become the empty text -/

/-- Only no bytes at all are the empty text. -/
theorem Utf8.eq_nil_of_decode? {bytes : List UInt8} (decoded : decode? bytes = some "") :
    bytes = [] :=
  (decode?_eq_some_iff.1 decoded).symm

theorem Text.eq_nil_of_unifyNewlines {text : List Char} (empty : unifyNewlines text = []) :
    text = [] := by
  unfold unifyNewlines at empty
  split at empty
  · rfl
  all_goals cases empty

theorem FileSystem.eq_empty_of_unified {text : String} (empty : unified text = "") : text = "" := by
  have nothing := Text.eq_nil_of_unifyNewlines (String.ofList_eq_empty_iff.1 empty)
  exact String.toList_eq_nil_iff.1 nothing

/-! ## What is said when something went wrong -/

theorem timeoutNote_ne (limit : Float) : timeoutNote limit ≠ "" := by
  unfold timeoutNote
  intro empty
  have begun := congrArg String.toList empty
  simp [toString] at begun

theorem Remains.err_interrupted_ne (remains : Remains) (limit : Float) :
    (remains.interrupted limit).err.getD "" ≠ "" := by
  unfold Remains.interrupted
  simp only [Option.getD_some]
  split
  · exact timeoutNote_ne limit
  · intro empty
    have length := congrArg String.length empty
    simp [String.length_append] at length

/-! ## Calls -/

/-- The system stopped the process of a call because its time was up. -/
def Remains.TimedOut (remains : Remains) (command : Call) : Prop :=
  remains.ending = .stopped ∧ (command.options.getD {}).timeout.isSome = true

/-- Of a process that was stopped in time everything is kept that can be read. -/
theorem Remains.reply_of_timedOut {remains : Remains} {command : Call}
    (timedOut : remains.TimedOut command) :
    ∃ limit, remains.reply (command.options.getD {}).timeout =
      .finished (remains.interrupted limit) := by
  obtain ⟨stopped, limited⟩ := timedOut
  obtain ⟨limit, given⟩ := Option.isSome_iff_exists.1 limited
  refine ⟨limit, ?_⟩
  simp only [reply, stopped, given]

/-- Of a process that ended by itself all has to be read. -/
theorem Remains.reply_of_inTime {remains : Remains} {command : Call}
    (inTime : ¬ remains.TimedOut command) :
    remains.reply (command.options.getD {}).timeout =
      match remains.completed? with
      | some process => .finished process
      | none => .broken .undecodable := by
  unfold reply
  split
  next limit stopped limited =>
    refine absurd ⟨stopped, ?_⟩ inTime
    rw [limited]
    rfl
  next => rfl

theorem Remains.reply_finished_or_broken (remains : Remains) (limit : Option Float) :
    (∃ process, remains.reply limit = .finished process) ∨
      remains.reply limit = .broken .undecodable := by
  unfold reply
  split
  · exact Or.inl ⟨_, rfl⟩
  · split
    · exact Or.inl ⟨_, rfl⟩
    · exact Or.inr rfl

/-- A process that ended by itself and wrote nothing that is kept wrote nothing. -/
theorem Remains.err_of_completed? {remains : Remains} {process : Finished}
    (completed : remains.completed? = some process) (silent : process.err.getD "" = "") :
    remains.err = [] := by
  simp only [completed?, bind, Option.bind_eq_some_iff] at completed
  obtain ⟨out, -, err, decoded, made⟩ := completed
  cases made
  rw [FileSystem.eq_empty_of_unified silent] at decoded
  exact Utf8.eq_nil_of_decode? decoded

/-- A process of which nothing is kept on the error channel ended in time and wrote nothing
there. -/
theorem Remains.inTime_of_silent {remains : Remains} {command : Call} {process : Finished}
    (replied : remains.reply (command.options.getD {}).timeout = .finished process)
    (silent : process.err.getD "" = "") : ¬ remains.TimedOut command ∧ remains.err = [] := by
  have inTime : ¬ remains.TimedOut command := by
    intro timedOut
    obtain ⟨limit, interrupted⟩ := reply_of_timedOut timedOut
    cases interrupted.symm.trans replied
    exact remains.err_interrupted_ne limit silent
  refine ⟨inTime, ?_⟩
  rw [reply_of_inTime inTime] at replied
  split at replied
  next completed =>
    cases replied
    exact err_of_completed? completed silent
  next => cases replied

/-- A call is refused, and the refusal has words; or it is broken off by something that the user of
the program cannot mend. -/
inductive Reply.Declines : Reply → Prop
  | notStarted {refusal : Refusal} : refusal.message ≠ "" → Declines (.notStarted refusal)
  | broken {failure : Failure} : (∀ error, failure ≠ .usage error) → Declines (.broken failure)

namespace System

variable {system : System} {earlier : List Call} {command : Call} {files : FileSystem}

/-- A call that becomes no process is declined. -/
def Lawful (system : System) : Prop :=
  ∀ {earlier command files reply after}, system earlier command files = (.error reply, after) →
    reply.Declines

/-- A call becomes a process, which ends before its time is up and writes nothing to its error
channel. -/
def RanCleanly (system : System) (earlier : List Call) (command : Call) (files : FileSystem) :
    Prop :=
  ∃ remains after, system earlier command files = (.ok remains, after) ∧
    ¬ remains.TimedOut command ∧ remains.err = []

/-- A call is refused, or the time of its process is up. -/
inductive BreaksOff (system : System) (earlier : List Call) (command : Call) (files : FileSystem) :
    Prop
  | refused {refusal : Refusal} {after : FileSystem} :
      system earlier command files = (.error (.notStarted refusal), after) →
      BreaksOff system earlier command files
  | timedOut {remains : Remains} {after : FileSystem} :
      system earlier command files = (.ok remains, after) → remains.TimedOut command →
      BreaksOff system earlier command files

theorem BreaksOff.not_ranCleanly (breaksOff : system.BreaksOff earlier command files) :
    ¬ system.RanCleanly earlier command files := by
  rintro ⟨remains, after, replied, inTime, -⟩
  cases breaksOff with
  | refused refused =>
    rw [refused] at replied
    cases replied
  | timedOut stopped timedOut =>
    rw [stopped] at replied
    cases replied
    exact inTime timedOut

/-- A call that is refused is answered, and so is one whose time is up. -/
theorem BreaksOff.answered (breaksOff : system.BreaksOff earlier command files) :
    ∃ answer, (system.runner earlier command files).1 = .answered answer := by
  unfold System.runner
  cases breaksOff with
  | @refused refusal after refused =>
    rw [refused]
    exact ⟨.error refusal, rfl⟩
  | @timedOut remains after stopped timedOut =>
    obtain ⟨limit, interrupted⟩ := Remains.reply_of_timedOut timedOut
    rw [stopped]
    exact ⟨.ok (remains.interrupted limit), interrupted⟩

/-- A call that was answered and left nothing on the error channel ran cleanly. -/
theorem ranCleanly_of_silent (lawful : system.Lawful) {answer : Except Refusal Finished} {job : Job}
    {elapsed : Float}
    (answered : (system.runner earlier command files).1 = .answered answer)
    (silent : (Completion.of job elapsed answer).err = "") :
    system.RanCleanly earlier command files := by
  unfold System.runner at answered
  rcases replied : system earlier command files with ⟨reply | remains, after⟩
  · rw [replied] at answered
    cases answer with
    | ok process =>
      have declines := lawful replied
      rw [show reply = .finished process from answered] at declines
      cases declines
    | error refusal =>
      have declines := lawful replied
      rw [show reply = .notStarted refusal from answered] at declines
      cases declines with
      | notStarted worded => exact absurd silent worded
  · rw [replied] at answered
    cases answer with
    | ok process =>
      obtain ⟨inTime, quiet⟩ := Remains.inTime_of_silent answered silent
      exact ⟨remains, after, replied, inTime, quiet⟩
    | error refusal =>
      rcases remains.reply_finished_or_broken (command.options.getD {}).timeout with
        ⟨process, finished⟩ | broken
      · cases finished.symm.trans answered
      · cases broken.symm.trans answered

/-- A lawful system replies with nothing that the user of the program can mend. -/
theorem Lawful.runner_ne_usage (lawful : system.Lawful) (error : UsageError) :
    (system.runner earlier command files).1 ≠ .broken (.usage error) := by
  intro replied
  unfold System.runner at replied
  rcases called : system earlier command files with ⟨reply | remains, after⟩
  · rw [called] at replied
    have declines := lawful called
    rw [show reply = .broken (.usage error) from replied] at declines
    cases declines with
    | broken foreign => exact foreign error rfl
  · rw [called] at replied
    rcases remains.reply_finished_or_broken (command.options.getD {}).timeout with
      ⟨process, finished⟩ | broken
    · cases finished.symm.trans replied
    · cases broken.symm.trans replied

end System

/-! ## The machine that holds the files -/

theorem Refusal.message_ne {refusal : Refusal} (worded : refusal.text ≠ "") :
    refusal.message ≠ "" := by
  unfold Refusal.message
  rw [if_neg worded]
  exact worded

theorem Refusal.message_ofFault_ne (fault : Fault) (name : String) :
    (Refusal.ofFault fault name).message ≠ "" := by
  apply message_ne
  intro empty
  have begun := congrArg String.toList empty
  simp [ofFault, toString] at begun

namespace Spawn

theorem declines_breakOff {α : Type} {failure : Failure} {reply : Reply}
    (stopped : (breakOff failure : Refused α) = .error reply)
    (foreign : ∀ error, failure ≠ .usage error) : reply.Declines := by
  cases stopped
  exact .broken foreign

theorem declines_refuse {α : Type} {refusal : Refusal} {reply : Reply}
    (stopped : (refuse refusal : Refused α) = .error reply) (worded : refusal.message ≠ "") :
    reply.Declines := by
  cases stopped
  exact .notStarted worded

theorem declines_located {files : FileSystem} {searchPath : String} {arguments : List String}
    {reply : Reply} (stopped : located files searchPath arguments = .error reply) :
    reply.Declines := by
  cases arguments with
  | nil => exact declines_breakOff stopped fun _ same => nomatch same
  | cons name rest =>
    unfold located at stopped
    simp only at stopped
    split at stopped
    · cases stopped
    · split at stopped
      · cases stopped
      · refine declines_refuse stopped (Refusal.message_ne fun empty => ?_)
        have begun := congrArg String.toList empty
        simp [toString] at begun

theorem declines_requirePassable {arguments : List String} {bindings : List (String × String)}
    {reply : Reply} (stopped : requirePassable arguments bindings = .error reply) :
    reply.Declines := by
  unfold requirePassable at stopped
  split at stopped
  · exact declines_breakOff stopped fun _ same => nomatch same
  · split at stopped
    · cases stopped
    · exact declines_breakOff stopped fun _ same => nomatch same

theorem declines_enter {files : FileSystem} {directory : Option Path} {reply : Reply}
    (stopped : enter files directory = .error reply) : reply.Declines := by
  unfold enter at stopped
  split at stopped
  · cases stopped
  · split at stopped
    · cases stopped
    · exact declines_refuse stopped (Refusal.message_ofFault_ne _ _)
    · exact declines_refuse stopped (Refusal.message_ofFault_ne _ _)
    · exact declines_breakOff stopped fun _ same => nomatch same
    · exact declines_refuse stopped (Refusal.message_ofFault_ne _ _)

theorem declines_requireTimeout {limit : Option Float} {reply : Reply}
    (stopped : requireTimeout limit = .error reply) : reply.Declines := by
  unfold requireTimeout at stopped
  split at stopped
  · cases stopped
  · split at stopped
    · exact declines_breakOff stopped fun _ same => nomatch same
    · split at stopped
      · exact declines_breakOff stopped fun _ same => nomatch same
      · split at stopped
        · exact declines_breakOff stopped fun _ same => nomatch same
        · cases stopped

theorem declines_process {environment : List (String × String)} {command : Call}
    {files : FileSystem} {reply : Reply}
    (stopped : process environment command files = .error reply) : reply.Declines := by
  unfold process at stopped
  rcases of_bind_error stopped with unfound | ⟨⟨file, rest⟩, -, stopped⟩
  · exact declines_located unfound
  rcases of_bind_error stopped with unfit | ⟨_, -, stopped⟩
  · exact declines_requirePassable unfit
  rcases of_bind_error stopped with outside | ⟨inside, -, stopped⟩
  · exact declines_enter outside
  split at stopped
  · exact declines_refuse stopped (Refusal.message_ofFault_ne _ _)
  · rcases of_bind_error stopped with endless | ⟨_, -, done⟩
    · exact declines_requireTimeout endless
    · cases done

end Spawn

/-- The machine that holds the files declines what it cannot start. -/
theorem lawful_machineSystem (environment : List (String × String)) :
    (machineSystem environment).Lawful := by
  intro earlier command files reply after replied
  unfold machineSystem at replied
  split at replied
  next declined stopped =>
    cases replied
    exact Spawn.declines_process stopped
  next => cases replied

end TestImpact
