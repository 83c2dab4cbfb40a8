import TestImpact.Error
import TestImpact.FileSystem.Content

/-!
# Line counts of source files

The lines of a source file are counted when its coverage is first read, and the count
is kept (`LineCounts`). A file that is missing has no lines.
-/

namespace TestImpact

/-- The counts that are known, by the path they were asked for. -/
abbrev LineCounts := List (String × Int)

/-- An action that may fail and remembers line counts. -/
abbrev Counting := ExceptT Failure (StateM LineCounts)

namespace LineCounts

/-- Records a count. -/
def set (counts : LineCounts) (path : String) (count : Int) : LineCounts :=
  (path, count) :: counts

/-- The number of lines of a text. -/
def ofText (content : String) : Nat :=
  (Text.splitLines content.toList).length

/-- The number of lines of a file; a relative path starts at the project root. -/
def read (fs : FileSystem) (root : Path) (path : String) : Except Failure Nat :=
  match fs.readText (root / Path.ofString path) with
  | .ok content => .ok (ofText content)
  | .error .missing => .ok 0
  | .error fault => .error (.file fault)

/-- The number of lines of a file, counted unless it is known. -/
def count (fs : FileSystem) (root : Path) (path : String) : Counting Int := do
  match (← get).lookup path with
  | some known => pure known
  | none =>
    let found ← read fs root path
    modify (·.set path found)
    pure found

end LineCounts

end TestImpact
