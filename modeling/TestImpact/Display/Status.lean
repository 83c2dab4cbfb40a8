import TestImpact.Display.Markup

/-!
# Status lines and headings

A status line reports on the course of a run. Its level chooses a glyph and a colour. A
heading parts one block of output from the next: on a coloured terminal a rule across the
whole width, elsewhere a line between dashes. Headings may hold tags.
-/

namespace TestImpact

/-- Where output goes. -/
structure Terminal where
  isTerminal : Bool := false
  width : Nat := 80
  deriving DecidableEq, Repr

/-- What is sent to a terminal for a text. Nothing can be seen in no column at all. -/
def Terminal.show (terminal : Terminal) (coloured : Bool) (text : StyledText) : String :=
  if terminal.width = 0 then "" else text.write coloured

/-- What the standard output may be connected to. -/
inductive Channel where
  | terminal
  | pipe
  | closed
  | absent
  deriving DecidableEq, Repr

/-- Is somebody looking at the output? -/
def Channel.isTerminal : Channel → Bool
  | .terminal => true
  | .pipe | .closed | .absent => false

/-- How serious a status line is. -/
inductive Level where
  | info
  | ok
  | warn
  | fail
  deriving DecidableEq, Repr

namespace Level

/-- The glyph of a level. -/
def glyph : Level → String
  | .info => "\u2139\ufe0f"
  | .ok => "\u2705"
  | .warn => "\u26a0\ufe0f"
  | .fail => "\u274c"

/-- The colour of a level. -/
def hue : Level → Hue
  | .info => .cyan
  | .ok => .green
  | .warn => .yellow
  | .fail => .red

/-- The level of a name. -/
def ofName? : String → Option Level
  | "info" => some .info
  | "ok" => some .ok
  | "warn" => some .warn
  | "fail" => some .fail
  | _ => none

end Level

namespace Status

/-- A status line. Without a wish about colours the terminal decides. -/
def line (terminal : Terminal) (level : Level) (message : String) (emoji : Bool)
    (coloured : Option Bool) : String :=
  let text := if emoji then level.glyph ++ " " ++ message else message
  terminal.show (terminal.isTerminal && coloured.getD terminal.isTerminal)
    (StyledText.styled text (Style.ofHue level.hue))

/-- A title with at most a number of columns, the last one an ellipsis if something is cut. -/
def shortened (room : Nat) (title : StyledText) : StyledText :=
  if title.columns ≤ room then title
  else title.relettered (Text.fitted (room - 1) title.letters ++ ['…'])

/-- The style of rules. -/
def ruleStyle : Style := { foreground := some (.bright .green) }

/-- A piece of a rule. -/
def stroke (length : Nat) : String :=
  String.ofList (List.replicate length '─')

/-- A rule across the terminal. -/
def plainRule (width : Nat) : StyledText :=
  StyledText.styled (stroke width) ruleStyle

/-- A rule across the terminal with a title in its middle. -/
def titledRule (width : Nat) (title : StyledText) : StyledText :=
  let side := (width - title.columns) / 2
  let line := StyledText.styled (stroke (side - 1) ++ " ") ruleStyle ++ title ++
    StyledText.styled (" " ++ stroke (side + 1)) ruleStyle
  line.relettered (Text.fitted width line.letters)

/-- A rule with a title, if there is room for one. Line feeds in the title become blanks. -/
def rule (width : Nat) (title : Markup) : Except Failure StyledText := do
  if width ≤ 4 then pure (plainRule width)
  else
    let flat : StyledText := (← title.styled).map fun run =>
      { run with text := run.text.map fun c => if c = '\n' then ' ' else c }
    pure (titledRule width (shortened (width - 4) flat.withoutTabs))

/-- The words of a heading: a title and a detail in brackets. -/
def headingText (title : String) (detail : Option String) : String :=
  match detail with
  | none | some "" => title
  | some detail => title ++ " (" ++ detail ++ ")"

/-- A heading. -/
def heading (terminal : Terminal) (coloured : Bool) (title : String) (detail : Option String) :
    Except Failure String := do
  let text := headingText title detail
  if coloured && terminal.isTerminal then
    if terminal.width = 0 || text = "" then
      pure (terminal.show true (plainRule terminal.width))
    else pure (terminal.show true (← rule terminal.width (← Markup.parse text)))
  else
    let line ← Markup.parse ("--- " ++ text ++ " ---")
    pure (terminal.show false (← line.styled))

end Status

end TestImpact
