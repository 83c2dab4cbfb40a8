import TestImpact.FileSystem.Walk

/-!
# Reading and changing files

Each operation asks `locate` for the place of a path and then reads or changes that
one place. A change gives the new file system, a refusal the reason.
-/

namespace TestImpact.FileSystem

/-- The bytes of the file a path leads to. -/
def read (fs : FileSystem) (path : Path) : Except Fault (List UInt8) := do
  match ← fs.stat path with
  | .file content _ => pure content
  | _ => throw .isDirectory

/-- Replaces the node at a location. -/
def replaceAt (fs : FileSystem) (location : Location) (node : Node) : FileSystem :=
  fs.place location.dropLast (location.getLastD "") node

/-- Writes a file. A file that is there keeps its permission, a link is followed. -/
def write (fs : FileSystem) (path : Path) (content : List UInt8) : Except Fault FileSystem := do
  match ← fs.locate true path with
  | .vacant above name => pure (fs.place above name (.file content false))
  | .entry location (.file _ executable) => pure (fs.replaceAt location (.file content executable))
  | .entry _ _ => throw .isDirectory

/-- Makes an empty file where nothing is. -/
def touch (fs : FileSystem) (path : Path) : Except Fault FileSystem := do
  match ← fs.locate true path with
  | .vacant above name => pure (fs.place above name (.file [] false))
  | .entry _ _ => pure fs

/-- Removes a file or a link; where nothing is, nothing happens. -/
def remove (fs : FileSystem) (path : Path) : Except Fault FileSystem :=
  match fs.locate false path with
  | .ok (.entry _ .directory) => .error .isDirectory
  | .ok (.entry location _) => .ok (fs.prune location)
  | .ok (.vacant _ _) => .ok fs
  | .error .missing => .ok fs
  | .error fault => .error fault

/-- Makes one directory. -/
def makeDirectory (fs : FileSystem) (path : Path) : Except Fault FileSystem := do
  match ← fs.locate false path with
  | .vacant above name => pure (fs.place above name .directory)
  | .entry _ _ => throw .alreadyExists

/-- Makes the directory of a path whose names are given from the last to the first, with
every directory above it that is missing. -/
def makeDirectoriesFrom (fs : FileSystem) (anchor : Anchor) :
    (reversed : List String) → Except Fault FileSystem
  | [] => settle fs ⟨anchor, []⟩ (fs.makeDirectory ⟨anchor, []⟩)
  | name :: above =>
    let path : Path := ⟨anchor, (name :: above).reverse⟩
    match fs.makeDirectory path with
    | .error .missing =>
      match makeDirectoriesFrom fs anchor above with
      | .ok fs => settle fs path (fs.makeDirectory path)
      | .error fault => .error fault
    | outcome => settle fs path outcome
where
  /-- A directory that is already there is as good as a new one. -/
  settle (fs : FileSystem) (path : Path) (outcome : Except Fault FileSystem) :
      Except Fault FileSystem :=
    match outcome with
    | .ok fs => .ok fs
    | .error .missing => .error .missing
    | .error fault =>
      match fs.isDirectory path with
      | .ok true => .ok fs
      | .ok false => .error fault
      | .error other => .error other

/-- Makes a directory and those above it. -/
def makeDirectories (fs : FileSystem) (path : Path) : Except Fault FileSystem :=
  makeDirectoriesFrom fs path.anchor path.parts.reverse

/-! ## Files below a directory -/

/-- The order of a walk that lists the files of a directory by name before it enters the
directories below, also by name. -/
def walkOrder : Location → Location → Bool
  | [], _ => true
  | _ :: _, [] => false
  | [a], [b] => a ≤ b
  | [_], _ :: _ :: _ => true
  | _ :: _ :: _, [_] => false
  | a :: as, b :: bs => if a = b then walkOrder as bs else a < b

/-- Is a node a directory, or a link that leads to one? -/
def leadsToDirectory (fs : FileSystem) (location : Location) (node : Node) : Bool :=
  match node with
  | .directory => true
  | .file _ _ => false
  | .link _ =>
    match fs.walk true linkLimit [] location with
    | .ok (.entry _ .directory) => true
    | _ => false

/-- What follows a prefix of a location. -/
def below? : Location → Location → Option Location
  | [], location => some location
  | a :: as, b :: bs => if a = b then below? as bs else none
  | _ :: _, [] => none

/-- The locations, seen from a directory, of everything below it that is no directory. Links to
directories are not entered. -/
def filesBelow (fs : FileSystem) (directory : Location) : List Location :=
  let found := fs.entries.filterMap fun (location, node) =>
    match below? directory location with
    | some rest => if fs.leadsToDirectory location node then none else some rest
    | none => none
  found.mergeSort walkOrder

end TestImpact.FileSystem
