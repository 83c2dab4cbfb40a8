import TestImpact.Process.Ending

/-!
# A machine in memory

A `Machine` is what processes share: the files, the time that is left to them, and the
bytes they wrote, in order. A `Program` runs on a machine from its `Start` to a status,
unless the process ends on the way. `rerouting` sends what a program writes
elsewhere, and `captured` keeps it for a reader.
-/

namespace TestImpact

/-- The two channels that a process writes to. -/
inductive Stream where
  | out
  | err
  deriving DecidableEq, Repr

/-- What can be read: some bytes, or zeros without an end. -/
inductive Source where
  | bytes (content : List UInt8)
  | zeros
  deriving DecidableEq, Repr

/-- The first bytes of a source. -/
def Source.take (count : Nat) : Source → List UInt8
  | .bytes content => content.take count
  | .zeros => List.replicate count 0

/-- What processes share while they run. -/
structure Machine where
  files : FileSystem
  /-- The seconds until everything is stopped, if there is a limit. -/
  left : Option Float := none
  written : List (Stream × List UInt8) := []

/-- What a process is started with; the first argument is what it is called. -/
structure Start where
  arguments : List String
  bindings : List (String × String) := []
  input : Source := .bytes []

/-- Something that a process does and that may be its end. -/
abbrev Running := ExceptT Ending (StateM Machine)

/-- What a process does from its start to its status. -/
abbrev Program := Start → Running Nat

/-- The bytes that were written to a stream. -/
def Machine.bytes (machine : Machine) (stream : Stream) : List UInt8 :=
  machine.written.flatMap fun (into, content) => if into = stream then content else []

namespace Running

/-- Writes bytes. -/
def write (stream : Stream) (content : List UInt8) : Running Unit :=
  modify fun machine => { machine with written := machine.written ++ [(stream, content)] }

/-- Writes a text. -/
def say (stream : Stream) (text : String) : Running Unit :=
  write stream (Utf8.encode text)

/-- Says on the error channel what is wrong, and gives a status. -/
def complain (message : String) (status : Nat := 1) : Running Nat := do
  say .err (message ++ "\n")
  pure status

/-- Lets time pass. -/
def wait (seconds : Float) : Running Unit := do
  let machine ← get
  match machine.left with
  | none => pure ()
  | some left =>
    if left ≤ seconds then throw .stopped
    else set { machine with left := some (left - seconds) }

/-- Never ends. -/
def forever : Running Nat := throw .stopped

/-- Runs something up to its end, which is not the end of what goes on behind it. Only when the
time is up everything ends. -/
def ending (action : Running Nat) : Running Ending :=
  ExceptT.mk do
    match ← action.run with
    | .ok status => pure (.ok (.exited status))
    | .error .stopped => pure (.error .stopped)
    | .error ending => pure (.ok ending)

/-- Runs something and hands what it wrote to a distributor. -/
def rerouting {α : Type} (distribute : Stream × List UInt8 → Machine → Machine)
    (action : Running α) : Running α :=
  ExceptT.mk fun machine =>
    let (outcome, after) := action.run.run { machine with written := [] }
    (outcome, after.written.foldl (fun machine entry => distribute entry machine)
      { after with written := machine.written })

/-- Runs something and gives what it wrote to the output as well. -/
def captured {α : Type} (action : Running α) : Running (α × List UInt8) :=
  ExceptT.mk fun machine =>
    let (outcome, after) := action.run.run { machine with written := [] }
    (outcome.map (·, after.bytes .out),
      { after with written := machine.written ++ after.written.filter (·.1 = .err) })

end Running

end TestImpact
