import TestImpact.Document.Value
import TestImpact.FileSystem.Content
import TestImpact.Text.Hex

/-!
# Trees of files as documents

A table from paths to what stands there describes a tree of files: a text is a file that
holds it, and a table describes a file by its text or by the digits of its bytes, a
program, a directory or a link. `Snapshot.load` puts what is described into a file system,
with the directories above it, and `Snapshot.describe` gives the description of a place.
-/

namespace TestImpact.Snapshot

/-- The text under a key. -/
def text? (description : Value) (key : String) : Option String :=
  match description.field? key with
  | some (.string text) => some text
  | _ => none

/-- Is a key true? -/
def isSet (description : Value) (key : String) : Bool :=
  description.field? key matches some (.bool true)

/-- The bytes that are described. -/
def bytesOf (description : Value) : List UInt8 :=
  match description, text? description "hex" with
  | .string text, _ => Utf8.encode text
  | _, some digits => Hex.read digits.toList
  | _, none => Utf8.encode ((text? description "text").getD "")

/-- The node that is described. -/
def nodeOf (description : Value) : Node :=
  if isSet description "dir" then .directory
  else
    match text? description "link" with
    | some target => .link target
    | none => .file (bytesOf description) (isSet description "exec")

/-- The file system after a change, or the old one if the change is refused. -/
def unlessRefused (fs : FileSystem) (change : Except Fault FileSystem) : FileSystem :=
  match change with
  | .ok fs => fs
  | .error _ => fs

/-- Puts a node where a path leads to. A file goes where a link leads, and a directory that is
there stays. -/
def put (fs : FileSystem) (path : Path) (node : Node) : FileSystem :=
  let fs := unlessRefused fs (fs.makeDirectories path.parent)
  match fs.locate (node matches .file _ _) path with
  | .ok (.vacant above name) => fs.place above name node
  | .ok (.entry location _) => if node = .directory then fs else fs.replaceAt location node
  | .error _ => fs

/-- Puts what a table describes below a path. -/
def load (fs : FileSystem) (base : Path) (files : List (String × Value)) : FileSystem :=
  files.foldl (fun fs (name, description) =>
    put fs (base / Path.ofString name) (nodeOf description)) fs

/-- Takes away what stands at paths, with everything below it. -/
def delete (fs : FileSystem) (base : Path) (names : List String) : FileSystem :=
  names.foldl (fun fs name =>
    match fs.locate false (base / Path.ofString name) with
    | .ok (.entry location _) => fs.prune location
    | _ => fs) fs

/-- The names in a directory. -/
def namesIn (fs : FileSystem) (directory : Location) : List String :=
  let names := fs.entries.filterMap fun (location, _) =>
    if location.dropLast = directory && location ≠ [] then location.getLast? else none
  names.mergeSort fun a b => a ≤ b

/-- What stands at a path: the text of a file, the digits of its bytes if they are no text, the
names in a directory, or nothing. -/
def describe (fs : FileSystem) (path : Path) : Value :=
  match fs.locate true path with
  | .ok (.entry _ (.file content _)) =>
    match Utf8.decode? content with
    | some text => .string text
    | none => .table [("hex", .string (String.ofList (Hex.write content)))]
  | .ok (.entry location .directory) =>
    .table [("dir", .list ((namesIn fs location).map .string))]
  | _ => .null

/-- Goes to the directory that a path leads to. -/
def enter (fs : FileSystem) (path : Path) : FileSystem :=
  match fs.locate true path with
  | .ok (.entry location .directory) => { fs with workingDirectory := location }
  | _ => fs

end TestImpact.Snapshot
