import TestImpact.Error

/-!
# Calls of other programs

A `Call` is a command with the surroundings it runs in. What becomes of it is decided by
a `Runner`: the process finishes with a status and two texts, it cannot be started, or
the call is broken off by a failure. A runner may write files and may answer a repeated
call differently, so it is told the earlier calls.
-/

namespace TestImpact

/-- Pairs of names and values. A name given again keeps its place and gets the new value. -/
def withEntry {α : Type} (name : String) (value : α) : List (String × α) → List (String × α)
  | [] => [(name, value)]
  | (n, old) :: rest =>
    if n = name then (name, value) :: rest else (n, old) :: withEntry name value rest

/-- The surroundings of a process, as far as they differ from the caller's. -/
structure ProcessOptions where
  directory : Option Path := none
  bindings : Option (List (String × String)) := none
  timeout : Option Float := none

namespace ProcessOptions

/-- Variables with more of them laid over. -/
def overlaid (bindings : Option (List (String × String))) (more : List (String × String)) :
    List (String × String) :=
  more.foldl (fun all (name, value) => withEntry name value all) (bindings.getD [])

/-- The options with some of them replaced. Variables are added to those there are. A time limit
below zero is refused. -/
def override (options : ProcessOptions) (directory : Option Path)
    (bindings : Option (List (String × String))) (timeout : Option Float) :
    Except ArgumentError ProcessOptions :=
  if timeout.any (· < 0) then .error .negativeTimeout
  else
    .ok {
      directory := directory.or options.directory
      bindings := match bindings with
        | some more => some (overlaid options.bindings more)
        | none => options.bindings
      timeout := timeout.or options.timeout }

end ProcessOptions

/-- A command and its surroundings, if any are asked for. -/
structure Call where
  arguments : List String
  options : Option ProcessOptions := none

/-- What a finished process leaves. -/
structure Finished where
  status : Int := 0
  out : Option String := none
  err : Option String := none
  deriving DecidableEq, Repr

/-- Why a process could not be started: a text, and a word for refusals without a text. -/
structure Refusal where
  text : String
  word : String := ""
  fault : Fault := .missing
  deriving DecidableEq, Repr

/-- What is said about a refusal. -/
def Refusal.message (refusal : Refusal) : String :=
  if refusal.text = "" then refusal.word else refusal.text

/-- What becomes of a call. -/
inductive Reply where
  | finished (process : Finished)
  | notStarted (refusal : Refusal)
  | broken (failure : Failure)
  deriving DecidableEq, Repr

/-- What answers calls, knowing the earlier ones and the files. -/
abbrev Runner := List Call → Call → FileSystem → Reply × FileSystem

/-- The status of a process that was stopped because its time was up. -/
def timeoutStatus : Int := 124

/-- The status that stands for a process that could not be started. -/
def refusedStatus : Int := 127

end TestImpact
