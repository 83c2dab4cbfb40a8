import TestImpact.FileSystem.Basic

/-!
# Following a path

`locate` follows a path name by name from the root or the working directory, as the
system does: `..` leaves the directory that was really entered, links are followed
wherever more names come behind them, and a link at the end is followed on demand.
At most `linkLimit` links are followed, so a circle of links is a fault.

`resolve` names the same place without links. It does not ask for the place to
exist.
-/

namespace TestImpact.FileSystem

/-- Where a path leads. -/
inductive Target where
  | entry (location : Location) (node : Node)
  /-- Nothing is there, but the directory for it is. -/
  | vacant (above : Location) (name : String)
  deriving DecidableEq, Repr

/-- The most links that are followed on one way. -/
def linkLimit : Nat := 40

/-- The most bytes of a name. -/
def nameLimit : Nat := 255

/-- A path with this many bytes is too long. -/
def pathLimit : Nat := 4096

/-- The number of bytes a text is stored in. -/
def byteLength (text : String) : Nat :=
  text.toList.foldl (fun length c => length + c.utf8Size) 0

/-- Where the names of a path start. -/
def start (fs : FileSystem) (path : Path) : Location :=
  if path.isAbsolute then [] else fs.workingDirectory

/-- Follows names from a directory. `enter` goes on at a link. -/
def walkNames (fs : FileSystem) (followLast : Bool)
    (enter : Location → List String → Except Fault Target) :
    Location → List String → Except Fault Target
  | here, [] =>
    match fs.node? here with
    | some node => .ok (.entry here node)
    | none => .error .missing
  | here, name :: rest =>
    if name = ".." then walkNames fs followLast enter here.dropLast rest
    else if nameLimit < byteLength name then .error .nameTooLong
    else
      match fs.node? (here ++ [name]) with
      | none => if rest.isEmpty then .ok (.vacant here name) else .error .missing
      | some .directory => walkNames fs followLast enter (here ++ [name]) rest
      | some (.link target) =>
        if rest.isEmpty && !followLast then .ok (.entry (here ++ [name]) (.link target))
        else
          let path := Path.ofString target
          enter (if path.isAbsolute then [] else here) (path.parts ++ rest)
      | some node =>
        if rest.isEmpty then .ok (.entry (here ++ [name]) node) else .error .notDirectory

/-- Follows names and as many links as the budget allows. -/
def walk (fs : FileSystem) (followLast : Bool) :
    (budget : Nat) → Location → List String → Except Fault Target
  | 0 => walkNames fs followLast fun _ _ => .error .tooManyLinks
  | budget + 1 => walkNames fs followLast (walk fs followLast budget)

/-- Finds what a path leads to. -/
def locate (fs : FileSystem) (followLast : Bool) (path : Path) : Except Fault Target :=
  let text := path.toString
  if text.toList.contains '\x00' then .error .nulByte
  else if pathLimit ≤ byteLength text then .error .nameTooLong
  else walk fs followLast linkLimit (fs.start path) path.parts

/-- The node a path leads to. -/
def stat (fs : FileSystem) (path : Path) : Except Fault Node := do
  match ← fs.locate true path with
  | .entry _ node => pure node
  | .vacant _ _ => throw .missing

/-- Asks about the node a path leads to; where nothing is, the answer is no. -/
def ask (fs : FileSystem) (question : Node → Bool) (path : Path) : Except Fault Bool :=
  match fs.stat path with
  | .ok node => .ok (question node)
  | .error fault => if fault.isAbsence then .ok false else .error fault

/-- Does a path lead to a file? -/
def isFile (fs : FileSystem) : Path → Except Fault Bool :=
  fs.ask fun | .file _ _ => true | _ => false

/-- Does a path lead to a directory? -/
def isDirectory (fs : FileSystem) : Path → Except Fault Bool :=
  fs.ask (· = .directory)

/-- Does a path lead to anything? -/
def isPresent (fs : FileSystem) : Path → Except Fault Bool :=
  fs.ask fun _ => true

/-- May what a path leads to be run or entered? -/
def isExecutable (fs : FileSystem) (path : Path) : Except Fault Bool :=
  match fs.stat path with
  | .ok (.file _ executable) => .ok executable
  | .ok _ => .ok true
  | .error .nulByte => .error .nulByte
  | .error _ => .ok false

/-- The spelling of a location. -/
def pathOf (location : Location) : Path :=
  ⟨.root, location⟩

/-- The names of a place without links, or, where links lead in a circle, what is left to
follow behind the link that closes it. -/
inductive Resolution where
  | clear (location : Location)
  | circle (names : List String)

/-- Follows the names of a path and gives up no name that does not exist. `open_` are the
links that are being followed, and `follow` goes where a further link leads to. -/
def resolveFrom (fs : FileSystem) (open_ : List Location)
    (follow : Location → Location → List String → Resolution) :
    Location → List String → Resolution
  | here, [] => .clear here
  | here, name :: rest =>
    if name = ".." then resolveFrom fs open_ follow here.dropLast rest
    else
      match fs.node? (here ++ [name]) with
      | some (.link target) =>
        if open_.contains (here ++ [name]) then .circle (here ++ name :: rest)
        else
          let path := Path.ofString target
          match follow (here ++ [name]) (if path.isAbsolute then [] else here) path.parts with
          | .clear there => resolveFrom fs open_ follow there rest
          | .circle names => .circle (names ++ rest)
      | _ => resolveFrom fs open_ follow (here ++ [name]) rest

/-- Follows the names of a path through links that are nested as deep as the budget allows. -/
def resolveNames (fs : FileSystem) : (budget : Nat) → (open_ : List Location) → Location →
    List String → Resolution
  | 0, open_ => resolveFrom fs open_ fun link _ _ => .circle link
  | budget + 1, open_ =>
    resolveFrom fs open_ fun link => resolveNames fs budget (link :: open_)

/-- The path without links and `..`; an error holds the path in which links lead in a circle. -/
def resolve (fs : FileSystem) (path : Path) : Except Path Path :=
  match fs.resolveNames (fs.entries.length + 1) [] (fs.start path) path.parts with
  | .clear location => .ok (pathOf location)
  | .circle names =>
    .error ⟨.root, names.foldl (fun stack name =>
      if name = ".." then stack.dropLast else stack ++ [name]) []⟩

end TestImpact.FileSystem
