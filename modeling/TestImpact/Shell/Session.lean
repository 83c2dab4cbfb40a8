import TestImpact.Machine.Basic
import TestImpact.Shell.Script

/-!
# The state of a shell and the fields of words

A word stands for a row of fields. Quoted text belongs to the field it stands in, values
that are not quoted are cut at blanks, and `"$@"` makes a field of each argument.
-/

namespace TestImpact.Shell

/-- What a shell remembers. -/
structure Session where
  name : String := "sh"
  arguments : List String := []
  bindings : List (String × String) := []
  /-- The variables that are handed to other programs. -/
  exported : List String := []
  status : Nat := 0
  line : Nat := 1
  input : Source := .bytes []

namespace Session

/-- The number of the process that a shell takes itself to be. -/
def processNumber : Nat := 1

/-- The value of a parameter. -/
def value? (session : Session) (name : String) : Option String :=
  match name with
  | "?" => some (toString session.status)
  | "$" => some (toString processNumber)
  | "#" => some (toString session.arguments.length)
  | "0" => some session.name
  | "@" | "*" => some (" ".intercalate session.arguments)
  | _ =>
    match name.toNat? with
    | some n => session.arguments[n - 1]?
    | none => session.bindings.lookup name

/-- Gives a variable a value. -/
def assign (session : Session) (name value : String) : Session :=
  { session with bindings := withEntry name value session.bindings }

/-- Gives variables their values, one after the other. -/
def assignAll (session : Session) (entries : List (String × String)) : Session :=
  entries.foldl (fun session (name, value) => session.assign name value) session

/-- Hands a variable to other programs from now on. -/
def share (session : Session) (name : String) : Session :=
  { session with exported := name :: session.exported }

/-- Forgets a variable. -/
def forget (session : Session) (name : String) : Session :=
  { session with bindings := session.bindings.filter (·.1 ≠ name) }

/-- What is handed to another program. -/
def environment (session : Session) : List (String × String) :=
  session.bindings.filter fun (name, _) => session.exported.contains name

/-- A complaint with the name of the shell and the line in front. -/
def complaint (session : Session) (message : String) : String :=
  s!"{session.name}: {session.line}: {message}"

end Session

/-- A part of what a word stands for. -/
inductive Part where
  /-- Belongs to the field it stands in. -/
  | fixed (text : String)
  /-- Is cut at blanks. -/
  | loose (text : String)
  /-- Ends a field. -/
  | boundary
  deriving DecidableEq, Repr

/-- The fields that are finished, and the one that was begun. -/
structure Fields where
  finished : List String := []
  begun : Option String := none

namespace Fields

/-- Ends the field that was begun. -/
def close (fields : Fields) : Fields :=
  ⟨fields.finished ++ fields.begun.toList, none⟩

/-- Adds a text to the field that was begun, or begins one. -/
def extend (fields : Fields) (text : String) : Fields :=
  { fields with begun := some (fields.begun.getD "" ++ text) }

/-- Adds a part. -/
def add (fields : Fields) : Part → Fields
  | .fixed text => fields.extend text
  | .boundary => fields.close
  | .loose text => text.toList.foldl (fun fields c =>
    if [' ', '\t', '\n'].contains c then fields.close else fields.extend (String.ofList [c])) fields

/-- The fields of a row of parts. -/
def ofParts (parts : List Part) : List String :=
  (parts.foldl add {}).close.finished

end Fields

/-- The parts that a parameter stands for. -/
def Session.parts (session : Session) (name : String) (fallback : Option String)
    (quoted : Bool) : List Part :=
  if name = "@" && quoted then (session.arguments.map Part.fixed).intersperse .boundary
  else
    let value := match session.value? name, fallback with
      | some "", some fallback | none, some fallback => fallback
      | value, _ => value.getD ""
    [if quoted then .fixed value else .loose value]

end TestImpact.Shell
