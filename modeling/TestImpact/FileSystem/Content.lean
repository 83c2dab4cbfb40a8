import TestImpact.FileSystem.Access
import TestImpact.Text.Lines
import TestImpact.Text.Utf8

/-!
# Files as texts

Bytes become text by UTF-8, and every kind of line end becomes a line feed.
-/

namespace TestImpact.FileSystem

/-- A text with line feeds for all its line ends. -/
def unified (text : String) : String :=
  String.ofList (Text.unifyNewlines text.toList)

/-- The text of a file; bytes that are no UTF-8 are replaced. -/
def readText (fs : FileSystem) (path : Path) : Except Fault String := do
  pure (unified (Utf8.decodeReplacing (← fs.read path)))

/-- The text of a file, or nothing when its bytes are no UTF-8. -/
def readText? (fs : FileSystem) (path : Path) : Except Fault (Option String) := do
  pure ((Utf8.decode? (← fs.read path)).map unified)

/-- Writes a text to a file. -/
def writeText (fs : FileSystem) (path : Path) (text : String) : Except Fault FileSystem :=
  fs.write path (Utf8.encode text)

end TestImpact.FileSystem
