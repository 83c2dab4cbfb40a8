import TestImpact.Machine.Launch

/-!
# Calling programs

`spawn` answers a call with a process on the machine that holds the files. A program that
is named by no absolute path is looked for first, and a call that cannot become a process
is refused or broken off before anything runs.
-/

namespace TestImpact

/-- The number that a fault is known by. -/
def Fault.number : Fault → Nat
  | .missing => 2
  | .notRunnable => 8
  | .notPermitted => 13
  | .alreadyExists => 17
  | .notDirectory => 20
  | .isDirectory => 21
  | .nulByte => 22
  | .nameTooLong => 36
  | .tooManyLinks => 40

/-- The refusal to start a process because of a file. -/
def Refusal.ofFault (fault : Fault) (name : String) : Refusal :=
  { text := s!"[Errno {fault.number}] {Tools.faultText fault}: {Quoted.write name}", fault }

namespace Spawn

/-- Why a call does not become a process. -/
abbrev Refused := Except Reply

/-- Breaks a call off. -/
def breakOff {α : Type} (failure : Failure) : Refused α :=
  .error (.broken failure)

/-- Refuses to start a process. -/
def refuse {α : Type} (refusal : Refusal) : Refused α :=
  .error (.notStarted refusal)

/-- The arguments of a call with the file of the program in front. -/
def located (files : FileSystem) (searchPath : String) :
    List String → Refused (String × List String)
  | [] => breakOff (.argument .emptyCommand)
  | name :: rest =>
    let path := Path.ofString name
    if path.isAbsolute then .ok (path.toString, rest)
    else
      match Search.find? files searchPath name with
      | some file => .ok (file, rest)
      | none => refuse { text := s!"Executable '{name}' was not found on PATH" }

/-- Can a text be handed to a process? -/
def isPassable (text : String) : Bool := !text.toList.contains '\x00'

/-- Refuses texts that cannot be handed to a process. -/
def requirePassable (arguments : List String) (bindings : List (String × String)) :
    Refused Unit :=
  if bindings.any fun (name, _) => name.toList.contains '=' then
    breakOff (.argument .variableName)
  else if arguments.all isPassable && bindings.all fun (name, value) =>
      isPassable name && isPassable value then .ok ()
  else breakOff (.file .nulByte)

/-- Goes to the directory that a process is to run in. -/
def enter (files : FileSystem) : Option Path → Refused FileSystem
  | none => .ok files
  | some path =>
    match files.locate true path with
    | .ok (.entry location .directory) => .ok { files with workingDirectory := location }
    | .ok (.entry _ _) => refuse (.ofFault .notDirectory path.toString)
    | .ok (.vacant _ _) => refuse (.ofFault .missing path.toString)
    | .error .nulByte => breakOff (.file .nulByte)
    | .error fault => refuse (.ofFault fault path.toString)

/-- The most seconds that can be waited for. -/
def longestTimeout : Float := 2147483.647

/-- Refuses time limits that nobody can wait for. -/
def requireTimeout : Option Float → Refused Unit
  | none => .ok ()
  | some seconds =>
    if seconds.isNaN then breakOff (.argument .notANumber)
    else if seconds.isInf && 0 < seconds then breakOff (.argument .unbounded)
    else if longestTimeout < seconds then breakOff (.argument .timeoutTooLong)
    else .ok ()

/-- The process that a call becomes: what it leaves, and the files after it. -/
def process (environment : List (String × String)) (command : Call) (files : FileSystem) :
    Refused (Remains × FileSystem) := do
  let options := command.options.getD {}
  let (file, rest) ← located files ((environment.lookup "PATH").getD "") command.arguments
  let bindings := match options.bindings with
    | some more => ProcessOptions.overlaid (some environment) more
    | none => environment
  requirePassable (file :: rest) (options.bindings.getD [])
  let inside ← enter files options.directory
  match Machine.launch inside file with
  | .error fault => refuse (.ofFault fault file)
  | .ok program =>
    requireTimeout options.timeout
    let (remains, after) :=
      Machine.run program { arguments := file :: rest, bindings } options.timeout inside
    pure (remains, { after with workingDirectory := files.workingDirectory })

end Spawn

/-- The machine that holds the files, as the system that calls go to. -/
def machineSystem (environment : List (String × String)) : System := fun _ command files =>
  match Spawn.process environment command files with
  | .error reply => (.error reply, files)
  | .ok (remains, after) => (.ok remains, after)

/-- Answers calls with processes on the machine that holds the files. -/
def spawn (environment : List (String × String)) : Runner :=
  (machineSystem environment).runner

end TestImpact
