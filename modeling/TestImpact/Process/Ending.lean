import TestImpact.FileSystem.Content
import TestImpact.Number.Fixed
import TestImpact.Process.Basic

/-!
# What a process leaves

`Remains` are the bytes that a process wrote and how it ended. Of a process that ended by
itself the bytes have to be UTF-8, and all line ends become line feeds. Of one that was
stopped because its time was up everything that can be read is kept as it is, and a note
about the time limit follows what it said on the error channel.
-/

namespace TestImpact

/-- How a process ends. -/
inductive Ending where
  | exited (status : Nat)
  | killed (signal : Nat)
  /-- It was still running when its time was up. -/
  | stopped
  deriving DecidableEq, Repr

/-- The status of a process that ended in a given way. -/
def Ending.status : Ending → Int
  | .exited status => status
  | .killed signal => -signal
  | .stopped => timeoutStatus

/-- The bytes of a process on its two channels, and its end. -/
structure Remains where
  ending : Ending
  out : List UInt8 := []
  err : List UInt8 := []
  deriving DecidableEq, Repr

/-- What is said when a process was stopped. -/
def timeoutNote (limit : Float) : String :=
  s!"Command timed out after {Fixed.write 1 limit}s"

namespace Remains

/-- What is kept of a process that was stopped. -/
def interrupted (remains : Remains) (limit : Float) : Finished :=
  let said := Utf8.decodeSkipping remains.err
  { status := timeoutStatus
    out := some (Utf8.decodeSkipping remains.out)
    err := some (if said = "" then timeoutNote limit else said ++ "\n" ++ timeoutNote limit) }

/-- What is kept of a process that ended by itself, if its bytes are texts. -/
def completed? (remains : Remains) : Option Finished := do
  let out ← Utf8.decode? remains.out
  let err ← Utf8.decode? remains.err
  pure ⟨remains.ending.status, some (FileSystem.unified out), some (FileSystem.unified err)⟩

/-- What the caller of a process gets. -/
def reply (remains : Remains) (limit : Option Float) : Reply :=
  match remains.ending, limit with
  | .stopped, some limit => .finished (remains.interrupted limit)
  | _, _ =>
    match remains.completed? with
    | some process => .finished process
    | none => .broken .undecodable

end Remains

/-- What a system makes of calls, knowing the earlier ones and the files: a process that leaves
something, or the reply to a call that becomes none. -/
abbrev System := List Call → Call → FileSystem → Except Reply Remains × FileSystem

/-- The runner that calls programs on a system. -/
def System.runner (system : System) : Runner := fun earlier command files =>
  match system earlier command files with
  | (.ok remains, after) => (remains.reply (command.options.getD {}).timeout, after)
  | (.error reply, after) => (reply, after)

end TestImpact
