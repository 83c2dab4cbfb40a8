import TestImpact.Shell.Token

/-!
# Scripts

A script is a row of pipelines, each with the condition under which it runs, and a pipeline
is a row of commands, each of which reads what the one before it prints. A command has
assignments in front, then its words; redirections may stand anywhere.
-/

namespace TestImpact.Shell

/-- Sends a channel to what a word names. -/
structure Redirection where
  channel : Nat
  arrow : Arrow
  target : Word
  deriving DecidableEq, Repr

/-- A single command. -/
structure Command where
  line : Nat := 1
  assignments : List (String × Word) := []
  words : List Word := []
  redirections : List Redirection := []
  deriving DecidableEq, Repr

/-- Does a command do nothing at all? -/
def Command.isEmpty (command : Command) : Bool :=
  command.assignments.isEmpty && command.words.isEmpty && command.redirections.isEmpty

/-- When a pipeline runs: always, or if the status before it is or is not zero. -/
inductive Link where
  | always
  | onSuccess
  | onFailure
  deriving DecidableEq, Repr

/-- Does a pipeline run behind a status? -/
def Link.holds (link : Link) (status : Nat) : Bool :=
  match link with
  | .always => true
  | .onSuccess => status = 0
  | .onFailure => status ≠ 0

/-- Commands that read from one another, and when they run. -/
structure Pipeline where
  link : Link := .always
  stages : List Command := []
  deriving DecidableEq, Repr

/-- What is run one after the other. -/
abbrev Script := List Pipeline

/-- The characters of unquoted text at the beginning of a word. -/
def plainStart : Word → List Char
  | .text content false :: rest => content.toList ++ plainStart rest
  | _ => []

/-- Drops characters of unquoted text from the beginning of a word. -/
def dropPlain : Nat → Word → Word
  | 0, word => word
  | count, .text content false :: rest =>
    if content.length ≤ count then dropPlain (count - content.length) rest
    else .text (String.ofList (content.toList.drop count)) false :: rest
  | _, word => word

/-- Cuts an assignment into the name and the value. -/
def assignment? (word : Word) : Option (String × Word) :=
  let plain := plainStart word
  let name := plain.takeWhile Token.isNameChar
  match name, plain.drop name.length with
  | c :: _, '=' :: _ =>
    if Token.isNameStart c then some (String.ofList name, dropPlain (name.length + 1) word)
    else none
  | _, _ => none

/-- How far the reading of a script has come. -/
structure Reading where
  finished : Script := []
  pipeline : Pipeline := {}
  command : Command := {}
  /-- The arrow that waits for its word. -/
  awaiting : Option (Nat × Arrow) := none
  line : Nat := 1

namespace Reading

/-- Closes the command that is being read. -/
def closeCommand (reading : Reading) : Reading :=
  { reading with
    pipeline := { reading.pipeline with stages := reading.pipeline.stages ++ [reading.command] }
    command := { line := reading.line }
    awaiting := none }

/-- Closes the pipeline that is being read, and says when the next one runs. -/
def closePipeline (reading : Reading) (link : Link) : Reading :=
  let reading := reading.closeCommand
  let stages := reading.pipeline.stages.filter (!·.isEmpty)
  { reading with
    finished := if stages.isEmpty then reading.finished
      else reading.finished ++ [⟨reading.pipeline.link, stages⟩]
    pipeline := { link } }

/-- Adds a word to the command. -/
def addWord (reading : Reading) (word : Word) : Reading :=
  let command := reading.command
  match reading.awaiting with
  | some (channel, arrow) =>
    { reading with
      command := { command with redirections := command.redirections ++ [⟨channel, arrow, word⟩] }
      awaiting := none }
  | none =>
    match command.words, assignment? word with
    | [], some entry =>
      { reading with command := { command with assignments := command.assignments ++ [entry] } }
    | _, _ => { reading with command := { command with words := command.words ++ [word] } }

/-- The reading on the next line. -/
def nextLine (reading : Reading) : Reading :=
  let line := reading.line + 1
  { reading with
    line
    command := if reading.command.isEmpty then { reading.command with line } else reading.command }

/-- Takes in one token. A line that ends where a command has to come goes on. -/
def step (reading : Reading) : Token → Reading
  | .word word => reading.addWord word
  | .arrow channel kind => { reading with awaiting := some (channel, kind) }
  | .mark .pipe => reading.closeCommand
  | .mark .next => reading.closePipeline .always
  | .mark .onSuccess => reading.closePipeline .onSuccess
  | .mark .onFailure => reading.closePipeline .onFailure
  | .newline =>
    (if reading.command.isEmpty then reading else reading.closePipeline .always).nextLine

end Reading

/-- Reads a script. -/
def Script.ofString (text : String) : Script :=
  (((Token.scan text).foldl Reading.step {}).closePipeline .always).finished

end TestImpact.Shell
