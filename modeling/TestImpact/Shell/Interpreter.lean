import TestImpact.Machine.Tools
import TestImpact.Process.Search
import TestImpact.Shell.Session

/-!
# Running scripts

`Doing` is what a shell does: it changes its session and the machine, and may be the end
of its process. Programs other than its own commands are found by a `Launcher`. The stages
of a pipeline are shells of their own, so only a command that stands alone changes the
session.
-/

namespace TestImpact.Shell

open Running

/-- Finds the program of a file, or says why it cannot be run. -/
abbrev Launcher := FileSystem → String → Except Fault Program

/-- What a shell does. -/
abbrev Doing := StateT Session Running

/-- The status of a command that cannot be found. -/
def unknownStatus : Nat := 127

/-- The status of a command that cannot be run. -/
def unusableStatus : Nat := 126

/-- The status of a command that is used wrongly. -/
def misuseStatus : Nat := 2

/-- Complains, and gives a status. -/
def complain (message : String) (status : Nat) : Doing Nat := do
  Running.complain ((← get).complaint message) status

/-! ## Words -/

/-- Drops the line feeds at the end of what a script printed. -/
def withoutEnd (content : List UInt8) : String :=
  String.ofList (Text.dropTrailing '\n' (Utf8.decodeReplacing content).toList)

/-- The parts of a piece. `print` gives what a script prints. -/
def partsOf (print : String → Doing String) : Piece → Doing (List Part)
  | .text content _ => pure [.fixed content]
  | .parameter name fallback quoted => do pure ((← get).parts name fallback quoted)
  | .printed script quoted => do
    let text ← print script
    pure [if quoted then .fixed text else .loose text]

/-- The fields of a word. -/
def fieldsOf (print : String → Doing String) (word : Word) : Doing (List String) := do
  let parts ← word.mapM (partsOf print)
  pure (Fields.ofParts parts.flatten)

/-- The one text that a word stands for where it is not cut. -/
def textOf (print : String → Doing String) (word : Word) : Doing String := do
  let parts ← word.mapM (partsOf print)
  pure (String.join (parts.flatten.map fun
    | .fixed text | .loose text => text
    | .boundary => " "))

/-! ## Redirections -/

/-- Where a channel leads. -/
inductive Target where
  | stream (stream : Stream)
  | file (path : Path)
  | nothing
  deriving DecidableEq, Repr

/-- Where the channels of a command lead. -/
structure Routes where
  input : Source
  out : Target := .stream .out
  err : Target := .stream .err

/-- Sends what was written to where its channel leads. -/
def Routes.distribute (routes : Routes) (entry : Stream × List UInt8) (machine : Machine) :
    Machine :=
  let target := match entry.1 with
    | .out => routes.out
    | .err => routes.err
  match target with
  | .stream stream => { machine with written := machine.written ++ [(stream, entry.2)] }
  | .nothing => machine
  | .file path =>
    let before := (machine.files.read path).toOption.getD []
    match machine.files.write path (before ++ entry.2) with
    | .ok files => { machine with files }
    | .error _ => machine

/-- Does something with its channels leading elsewhere. -/
def Routes.apply {α : Type} (routes : Routes) (action : Doing α) : Doing α := fun session =>
  rerouting routes.distribute (action.run session)

/-- Lets a channel lead somewhere. -/
def Routes.lead (routes : Routes) (channel : Nat) (target : Target) : Routes :=
  if channel = 2 then { routes with err := target } else { routes with out := target }

/-- Opens what a redirection names. An error holds a complaint. -/
def Routes.redirect (routes : Routes) (channel : Nat) (arrow : Arrow) (name : String) :
    Running (Except String Routes) := do
  let path := Path.ofString name
  let machine ← get
  let opened (files : Except Fault FileSystem) : Running (Except String Routes) := do
    match files with
    | .ok files =>
      set { machine with files }
      pure (.ok (routes.lead channel (.file path)))
    | .error .missing => pure (.error s!"cannot create {name}: Directory nonexistent")
    | .error fault => pure (.error s!"cannot create {name}: {Tools.faultText fault}")
  match arrow with
  | .duplicate =>
    pure (.ok (routes.lead channel (if name = "2" then routes.err else routes.out)))
  | .read =>
    match Tools.sourceOf machine.files name with
    | .ok input => pure (.ok { routes with input })
    | .error .missing => pure (.error s!"cannot open {name}: No such file")
    | .error fault => pure (.error s!"cannot open {name}: {Tools.faultText fault}")
  | .write =>
    if name = Tools.nullDevice then pure (.ok (routes.lead channel .nothing))
    else opened (machine.files.write path [])
  | .append =>
    if name = Tools.nullDevice then pure (.ok (routes.lead channel .nothing))
    else opened (machine.files.touch path)

/-- Opens what the redirections of a command name. -/
def redirectAll (print : String → Doing String) :
    List Redirection → Routes → Doing (Except String Routes)
  | [], routes => pure (.ok routes)
  | redirection :: rest, routes => do
    let name ← textOf print redirection.target
    match ← routes.redirect redirection.channel redirection.arrow name with
    | .ok routes => redirectAll print rest routes
    | .error message => pure (.error message)

/-! ## Commands of the shell itself -/

/-- The signals by name. -/
def signals : List (String × Nat) := [
  ("HUP", 1), ("INT", 2), ("QUIT", 3), ("KILL", 9), ("USR1", 10), ("USR2", 12), ("PIPE", 13),
  ("ALRM", 14), ("TERM", 15)]

/-- What is said about a process that a signal ended. -/
def signalTexts : List (Nat × String) := [
  (1, "Hangup"), (3, "Quit"), (9, "Killed"), (10, "User defined signal 1"),
  (12, "User defined signal 2"), (14, "Alarm clock"), (15, "Terminated")]

/-- The signal that a text names, by number or by name. -/
def signal? (text : String) : Option Nat :=
  match text.toNat? with
  | some number => some number
  | none => signals.lookup text

/-- Sends a signal to the shell itself. There are no other processes. -/
def kill (arguments : List String) : Doing Nat :=
  let (signal, processes) := match arguments with
    | "-s" :: name :: processes => (signal? name, processes)
    | first :: processes =>
      match first.toList with
      | '-' :: name => (signal? (String.ofList name), processes)
      | _ => (some 15, first :: processes)
    | [] => (some 15, [])
  match signal, processes with
  | some 0, _ => pure 0
  | some number, process :: _ =>
    if process = toString Session.processNumber then throw (.killed number)
    else complain "kill: No such process" 1
  | _, _ => complain "kill: Illegal argument" misuseStatus

/-- Ends the shell with a status. -/
def exit (arguments : List String) : Doing Nat := do
  match arguments with
  | [] => throw (.exited (← get).status)
  | text :: _ =>
    match text.toNat? with
    | some status => throw (.exited (status % 256))
    | none => do
      let status ← complain ("exit: Illegal number: " ++ text) misuseStatus
      throw (.exited status)

/-- Goes to another directory. -/
def changeDirectory (arguments : List String) : Doing Nat := do
  let target := arguments.headD (((← get).value? "HOME").getD "/")
  let machine ← getThe Machine
  match machine.files.locate true (Path.ofString target) with
  | .ok (.entry location .directory) => do
    set { machine with files := { machine.files with workingDirectory := location } }
    pure 0
  | _ => complain ("cd: can't cd to " ++ target) misuseStatus

/-- Cuts a text at its first `=`. -/
def cutEntry (text : String) : String × Option String :=
  match Text.cutAt ['='] text.toList with
  | some (name, value) => (String.ofList name, some (String.ofList value))
  | none => (text, none)

/-- Hands variables to other programs from now on. -/
def export_ (arguments : List String) : Doing Nat := do
  arguments.forM fun argument => do
    match cutEntry argument with
    | (name, some value) => modify fun session => (session.assign name value).share name
    | (name, none) => modify (·.share name)
  pure 0

/-- The commands that change the session or end the shell. -/
def ownCommands : List (String × (List String → Doing Nat)) := [
  (":", fun _ => pure 0), ("exit", exit), ("kill", kill), ("cd", changeDirectory),
  ("export", export_),
  ("unset", fun names => do
    names.forM fun name => modify (·.forget name)
    pure 0),
  ("shift", fun _ => do
    modify fun session => { session with arguments := session.arguments.tail }
    pure 0)]

/-- The tools that the shell has itself, in their own dialect. -/
def ownTools (session : Session) : List (String × Program) := [
  ("echo", Tools.escapingEcho),
  ("printf", Tools.printf {} fun message => session.complaint ("printf: " ++ message)),
  ("pwd", Tools.pwd), ("test", Tools.test), ("[", Tools.test),
  ("true", fun _ => pure 0), ("false", fun _ => pure 1)]

/-! ## Other programs -/

/-- The file that a command names. -/
def fileOf? (files : FileSystem) (searchPath name : String) : Option String :=
  if name.toList.contains '/' then some name else Search.find? files searchPath name

/-- Waits for a program, which leaves the working directory as it is. One that a signal ended has
a status above 128. -/
def await (program : Running Nat) : Running Nat := do
  let directory := (← get).files.workingDirectory
  let outcome ← ending program
  modify fun machine =>
    { machine with files := { machine.files with workingDirectory := directory } }
  match outcome with
  | .exited status => pure status
  | .killed signal => do
    if let some text := signalTexts.lookup signal then say .err (text ++ "\n")
    pure (128 + signal)
  | .stopped => forever

/-- Runs a program that is no command of the shell. `replacing` says whether the shell ends with
it. A file that is no program is run as a script by `interpret`. -/
def external (launch : Launcher) (interpret : Start → Running Nat) (replacing : Bool)
    (words : List String) (start : Start) : Doing Nat := do
  let name := words.headD ""
  let files := (← getThe Machine).files
  let run (program : Running Nat) : Doing Nat :=
    if replacing then do throw (.exited (← program)) else await program
  match fileOf? files ((start.bindings.lookup "PATH").getD "") name with
  | none => complain (name ++ ": not found") unknownStatus
  | some file =>
    let start := { start with arguments := words }
    match launch files file with
    | .ok program => run (program start)
    | .error .notRunnable => run (interpret { start with arguments := "sh" :: file :: words.tail })
    | .error .missing => complain (name ++ ": not found") unknownStatus
    | .error _ => complain (name ++ ": Permission denied") unusableStatus

/-! ## Running -/

/-- What a shell needs to run commands. -/
structure Means where
  launch : Launcher
  /-- Runs a script in a shell of its own. -/
  interpret : Start → Running Nat
  /-- Does the shell end with the last command? -/
  ends : Bool := false

/-- Gives what a script prints. The status of the script becomes the status of the session. -/
def Means.print (means : Means) (script : String) : Doing String := do
  let session ← get
  let start : Start := ⟨session.name :: "-c" :: script :: session.name :: session.arguments,
    session.bindings, session.input⟩
  let (status, content) ← (captured (await (means.interpret start)) : Running (Nat × List UInt8))
  set { session with status }
  pure (withoutEnd content)

/-- Runs words. -/
def Means.runWords (means : Means) (last : Bool) (assigned : List (String × String))
    (input : Source) : List String → Doing Nat
  | [] => do
    modify (·.assignAll assigned)
    pure (← get).status
  | "exec" :: rest => do
    if rest.isEmpty then pure 0
    else
      let status ← external means.launch means.interpret true rest (← startOf)
      throw (.exited status)
  | name :: rest => do
    let session ← get
    match ownCommands.lookup name, (ownTools session).lookup name with
    | some command, _ => do
      modify (·.assignAll assigned)
      command rest
    | none, some tool => tool { arguments := name :: rest, input }
    | none, none =>
      external means.launch means.interpret (last && means.ends) (name :: rest) (← startOf)
where
  /-- What another program is started with. -/
  startOf : Doing Start := do
    let bindings := assigned.foldl (fun all (name, value) => withEntry name value all)
      (← get).environment
    pure { arguments := [], bindings, input }

/-- Runs a command. -/
def Means.runCommand (means : Means) (last : Bool) (input : Source) (command : Command) :
    Doing Nat := do
  modify fun session => { session with line := command.line, input }
  let words ← command.words.mapM (fieldsOf means.print)
  let assigned ← command.assignments.mapM fun (name, word) => do
    pure (name, ← textOf means.print word)
  match ← redirectAll means.print command.redirections { input } with
  | .error message => complain message misuseStatus
  | .ok routes => routes.apply (means.runWords last assigned routes.input words.flatten)

/-- Runs stages, each in a shell of its own that reads what the one before it printed. -/
def Means.runStages (means : Means) (session : Session) : Source → List Command → Running Nat
  | _, [] => pure 0
  | input, [stage] => await (stageOf input stage)
  | input, stage :: rest => do
    let (_, content) ← captured (await (stageOf input stage))
    means.runStages session (.bytes content) rest
where
  /-- One stage. -/
  stageOf (input : Source) (stage : Command) : Running Nat :=
    Prod.fst <$> (means.runCommand false input stage).run session

/-- Runs a pipeline. -/
def Means.runPipeline (means : Means) (last : Bool) (input : Source) :
    List Command → Doing Nat
  | [command] => means.runCommand last input command
  | stages => do
    let session ← get
    (means.runStages session input stages : Running Nat)

/-- Runs a script. -/
def Means.runScript (means : Means) (input : Source) : Script → Doing Nat
  | [] => do pure (← get).status
  | pipeline :: rest => do
    if pipeline.link.holds (← get).status then
      let status ← means.runPipeline rest.isEmpty input pipeline.stages
      modify fun session => { session with status }
    means.runScript input rest

/-- The session that a shell begins with. -/
def Session.begin (name : String) (arguments : List String) (start : Start) : Session :=
  { name, arguments, bindings := start.bindings, exported := start.bindings.map Prod.fst
    input := start.input }

/-- A shell. It runs the script behind `-c`, or the one in a file, or the one it reads. -/
def program (launch : Launcher) (interpret : Start → Running Nat) : Program := fun start => do
  let run (ends : Bool) (script : String) (session : Session) : Running Nat :=
    Prod.fst <$> (Means.runScript { launch, interpret, ends } start.input
      (Script.ofString script)).run session
  let name := start.arguments.headD "sh"
  match start.arguments.tail with
  | "-c" :: script :: arguments =>
    run true script (Session.begin (arguments.headD name) arguments.tail start)
  | file :: arguments => do
    match (← get).files.read (Path.ofString file) with
    | .ok content =>
      run false (Utf8.decodeReplacing content) (Session.begin file arguments start)
    | .error fault =>
      Running.complain s!"{name}: 0: cannot open {file}: {Tools.faultText fault}" misuseStatus
  | [] =>
    match start.input with
    | .bytes content => run false (Utf8.decodeReplacing content) (Session.begin name [] start)
    | .zeros => forever

end TestImpact.Shell
