import TestImpact.Display.Style
import TestImpact.Text.Columns
import TestImpact.Text.Pieces

/-!
# Text with styles

A `StyledText` is a list of runs of one style each. Control characters that would move
a terminal about are dropped when a run is made. `write` gives what is sent to a
terminal: each line ends with a line feed, tabs lead to the next of the columns that
are eight apart, and a styled run is told to the terminal line by line.
-/

namespace TestImpact

/-- Characters that all have one style. -/
structure Run where
  text : List Char
  style : Style := {}
  deriving DecidableEq, Repr

/-- A text in runs of one style each. -/
abbrev StyledText := List Run

/-- Is a character dropped because it would ring, go back or go down? -/
def isMotion (c : Char) : Bool :=
  [7, 8, 11, 12, 13].contains c.toNat

/-- A run of a style. -/
def Run.of (text : String) (style : Style) : Run :=
  ⟨text.toList.filter (!isMotion ·), style⟩

namespace StyledText

/-- A text without a style. -/
def plain (text : String) : StyledText := [Run.of text {}]

/-- A text with one style. -/
def styled (text : String) (style : Style) : StyledText := [Run.of text style]

/-- The characters without their styles. -/
def letters (text : StyledText) : List Char :=
  text.flatMap Run.text

/-- The text without its styles. -/
def characters (text : StyledText) : String :=
  String.ofList text.letters

/-- The number of columns of a text. -/
def columns (text : StyledText) : Nat :=
  Text.columns text.letters

/-- Other letters in the styles that a text has at their positions. Letters behind its end have
no style. -/
def relettered : StyledText → List Char → StyledText
  | [], letters => if letters.isEmpty then [] else [⟨letters, {}⟩]
  | run :: rest, letters =>
    ⟨letters.take run.text.length, run.style⟩ ::
      relettered rest (letters.drop run.text.length)

theorem letters_relettered (text : StyledText) (new : List Char) :
    (text.relettered new).letters = new := by
  induction text generalizing new with
  | nil =>
    simp only [relettered]
    split <;> simp_all [letters]
  | cons run rest ih =>
    have later := ih (new.drop run.text.length)
    simp only [letters] at later
    simp [relettered, letters, later]

/-- The first and the last position of each styled run and its style. -/
def spansFrom (position : Nat) : StyledText → List (Nat × Nat × Style)
  | [] => []
  | run :: rest =>
    let stop := position + run.text.length
    if run.style = {} || run.text.isEmpty then spansFrom stop rest
    else (position, stop, run.style) :: spansFrom stop rest

/-- The styled parts of a text, by their positions. -/
def spans (text : StyledText) : List (Nat × Nat × Style) :=
  spansFrom 0 text

/-- Puts the pieces of a run in front of the lines that follow: its last piece belongs to the
first of them. -/
def prepend (style : Style) : List (List Char) → List StyledText → List StyledText
  | [], lines => lines
  | [piece], line :: lines => (⟨piece, style⟩ :: line) :: lines
  | piece :: rest, lines => [⟨piece, style⟩] :: prepend style rest lines

/-- Cuts a text into its lines. -/
def lines : StyledText → List StyledText
  | [] => [[]]
  | run :: rest => prepend run.style (Text.pieces '\n' run.text) (lines rest)

/-- The distance of the columns that a tab leads to. -/
def tabDistance : Nat := 8

/-- The blanks that a tab stands for behind some characters: it leads to the next column at a
full distance, at least one column away. -/
def tabWidth (before : Text.Measure) : Nat :=
  let stop := (before.step ' ').columns
  1 + (tabDistance - stop % tabDistance) % tabDistance

/-- Writes out the tabs of a run, and cuts the run behind each of them. `before` measures what
stands between the last tab and the run; the measure behind the run is given, too. -/
def expandTabs (before : Text.Measure) (part : List Char) :
    List Char → List (List Char) × Text.Measure
  | [] => (if part.isEmpty then [] else [part.reverse], before)
  | c :: rest =>
    if c = '\t' then
      let (parts, after) := expandTabs {} [] rest
      ((part.reverse ++ List.replicate (tabWidth before) ' ') :: parts, after)
    else expandTabs (before.step c) (c :: part) rest

/-- Writes out the tabs of the rest of a line. -/
def withoutTabsBehind (before : Text.Measure) : StyledText → StyledText
  | [] => []
  | run :: rest =>
    let (parts, after) := expandTabs before [] run.text
    parts.map (⟨·, run.style⟩) ++ withoutTabsBehind after rest

/-- Writes out the tabs of a line. -/
def withoutTabs (line : StyledText) : StyledText :=
  withoutTabsBehind {} line

/-- A run as it is sent to a terminal. -/
def writeRun (coloured : Bool) (run : Run) : String :=
  let codes := run.style.codes
  let text := String.ofList run.text
  if !coloured || codes.isEmpty || run.text.isEmpty then text
  else "\x1b[" ++ ";".intercalate (codes.map toString) ++ "m" ++ text ++ "\x1b[0m"

/-- A line as it is sent to a terminal. -/
def writeLine (coloured : Bool) (line : StyledText) : String :=
  String.join (line.withoutTabs.map (writeRun coloured)) ++ "\n"

/-- A text as it is sent to a terminal. -/
def write (coloured : Bool) (text : StyledText) : String :=
  String.join (text.lines.map (writeLine coloured))

end StyledText

end TestImpact
