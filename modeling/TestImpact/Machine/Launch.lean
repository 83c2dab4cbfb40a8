import TestImpact.Shell.Interpreter

/-!
# Starting programs

A file can be run when it is one of the tools of the machine, or when its first line names
the program that runs it. `run` starts a command on a machine as a process of its own and
gives what it leaves.
-/

namespace TestImpact.Machine

/-- The directory of the tools. -/
def toolDirectory : Location := ["usr", "bin"]

/-- The most files that name one another as the program that runs them. -/
def nestingLimit : Nat := 32

/-- The program that a file names in its first line, and an argument for it. -/
def interpreter? (content : List UInt8) : Option (String × List String) :=
  match content with
  | 35 :: 33 :: rest =>
    let line := Utf8.decodeReplacing (rest.takeWhile (· ≠ 10))
    match Text.trimOf (fun c => c = ' ' || c = '\t') line.toList with
    | [] => none
    | text =>
      let file := text.takeWhile fun c => c ≠ ' ' && c ≠ '\t'
      let argument := Text.trim (String.ofList (text.drop file.length))
      some (String.ofList file, if argument = "" then [] else [argument])
  | _ => none

/-- Prints the variables, or runs a program with more of them. -/
def environmentTool (launch : Shell.Launcher) : Program := fun start => do
  let entries := (start.arguments.tail.takeWhile (·.toList.contains '=')).map Shell.cutEntry
  let bindings := entries.foldl (fun all (name, value) => withEntry name (value.getD "") all)
    start.bindings
  match start.arguments.drop (1 + entries.length) with
  | [] => do
    bindings.forM fun (name, value) => Running.say .out (name ++ "=" ++ value ++ "\n")
    pure 0
  | name :: rest => do
    let files := (← get).files
    let found := Shell.fileOf? files ((bindings.lookup "PATH").getD "") name
    match found.map (launch files) with
    | some (.ok program) => program { start with arguments := name :: rest, bindings }
    | _ => Running.complain s!"env: ‘{name}’: No such file or directory" Shell.unknownStatus

/-- The programs of the machine by name. `launch` finds the programs that they start. -/
def programs (launch : Shell.Launcher) (interpret : Start → Running Nat) :
    List (String × Program) :=
  Tools.all ++ [("sh", Shell.program launch interpret), ("env", environmentTool launch)]

/-- Finds the program of a file, of which the programs that it starts are found by `launch`. -/
def launchWith (launch : Shell.Launcher) (interpret : Start → Running Nat) : Shell.Launcher :=
  fun files file =>
    match files.locate true (Path.ofString file) with
    | .ok (.entry location (.file content true)) =>
      let tool := if location.dropLast = toolDirectory
        then (programs launch interpret).lookup (location.getLastD "") else none
      match tool, interpreter? content with
      | some program, _ => .ok program
      | none, some (interpreter, arguments) =>
        (launch files interpreter).map fun program start =>
          program { start with
            arguments := interpreter :: arguments ++ file :: start.arguments.tail }
      | none, none => .error .notRunnable
    | .ok (.entry _ _) => .error .notPermitted
    | .ok (.vacant _ _) => .error .missing
    | .error fault => .error fault

/-- Nothing can be started where too much is nested. -/
def tooDeep : Program := fun _ =>
  Running.complain "sh: too many processes" Shell.misuseStatus

/-- The launcher and the shell, by how deep they may be nested. -/
def nested : (depth : Nat) → Shell.Launcher × Program
  | 0 => (fun _ _ => .error .notPermitted, tooDeep)
  | depth + 1 =>
    let (launch, interpret) := nested depth
    (launchWith launch interpret, Shell.program launch interpret)

/-- Finds the program of a file. -/
def launch : Shell.Launcher := (nested nestingLimit).1

/-- Puts the tools into a file system. -/
def installTools (files : FileSystem) : FileSystem :=
  let names := (programs (fun _ _ => .error .missing) tooDeep).map Prod.fst
  match files.makeDirectories ⟨.root, toolDirectory⟩ with
  | .ok files =>
    (names.foldl (fun files name => files.place toolDirectory name (.file [] true)) files).place
      [] "bin" (.link "usr/bin")
  | .error _ => files

/-- Runs a program as a process. With no time at all it is stopped before it begins. -/
def run (program : Program) (start : Start) (limit : Option Float) (files : FileSystem) :
    Remains × FileSystem :=
  if limit.any (· ≤ 0) then (⟨.stopped, [], []⟩, files)
  else
    let (outcome, machine) := (program start).run.run { files, left := limit }
    let ending := match outcome with
      | .ok status => .exited status
      | .error ending => ending
    (⟨ending, machine.bytes .out, machine.bytes .err⟩, machine.files)

end TestImpact.Machine
