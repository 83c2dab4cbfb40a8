import TestImpact.Display.Color

/-!
# Styles of text on a terminal

A `Style` has emphases and colours. A terminal is told about a style by a list of
numbers (`Style.codes`), and people by words such as `bold white on green`
(`Style.words`, `Style.ofWords`). A style may lead somewhere as well; a terminal is not
told where.
-/

namespace TestImpact

/-- Ways to make text stand out. -/
inductive Emphasis where
  | bold
  | dim
  | italic
  | underline
  | blink
  | blinkFast
  | reverse
  | conceal
  | strike
  | underlineTwice
  | frame
  | encircle
  | overline
  deriving DecidableEq, Repr

namespace Emphasis

/-- The emphases in the order in which a terminal is told about them, with their words and
numbers. -/
def table : List (Emphasis × List String × Nat) := [
  (.bold, ["bold", "b"], 1), (.dim, ["dim", "d"], 2), (.italic, ["italic", "i"], 3),
  (.underline, ["underline", "u"], 4), (.blink, ["blink"], 5), (.blinkFast, ["blink2"], 6),
  (.reverse, ["reverse", "r"], 7), (.conceal, ["conceal", "c"], 8), (.strike, ["strike", "s"], 9),
  (.underlineTwice, ["underline2", "uu"], 21), (.frame, ["frame"], 51),
  (.encircle, ["encircle"], 52), (.overline, ["overline", "o"], 53)]

/-- The emphasis of a word. -/
def ofWord? (word : String) : Option Emphasis :=
  (table.find? fun (_, words, _) => words.contains word).map Prod.fst

end Emphasis

/-- A style: what stands out, in which colours, and where it leads. An emphasis may be taken
back inside a larger text that has it. -/
structure Style where
  emphases : List (Emphasis × Bool) := []
  foreground : Option Color := none
  background : Option Color := none
  link : Option String := none
  deriving DecidableEq, Repr

namespace Style

/-- A colour for letters and nothing else. -/
def ofHue (hue : Hue) : Style :=
  { foreground := some (.ofHue hue) }

/-- Bold letters on a coloured ground. -/
def badge (letters ground : Hue) : Style :=
  { emphases := [(.bold, true)]
    foreground := some (.ofHue letters)
    background := some (.ofHue ground) }

/-- The style of text inside a larger text that has a style of its own. -/
def inside (inner outer : Style) : Style :=
  ⟨inner.emphases ++ outer.emphases, inner.foreground.or outer.foreground,
    inner.background.or outer.background, inner.link.or outer.link⟩

/-- The numbers that tell a terminal about a style. -/
def codes (style : Style) : List Nat :=
  (Emphasis.table.filterMap fun (emphasis, _, code) =>
    if style.emphases.lookup emphasis = some true then some code else none) ++
    (style.foreground.map (·.shade.codes)).getD [] ++
    (style.background.map (·.shade.groundCodes)).getD []

/-- A style in words; `none` is the word for nothing special. -/
def words (style : Style) : String :=
  let words := (Emphasis.table.filterMap fun (emphasis, names, _) =>
      match style.emphases.lookup emphasis with
      | some true => names.head?
      | some false => names.head?.map ("not " ++ ·)
      | none => none) ++
    (style.foreground.map Color.word).toList ++
    (style.background.map ("on " ++ ·.word)).toList ++
    (style.link.map ("link " ++ ·)).toList
  if words.isEmpty then "none" else " ".intercalate words

/-- Reads words one by one. Capital letters are allowed, but not behind `not`. -/
def readWords : Style → List String → Except Color.Problem Style
  | style, [] => .ok style
  | style, first :: rest =>
    match Text.lowercase first, rest with
    | "on", word :: more => do
      let color ← Color.ofWord word
      readWords { style with background := some color } more
    | "not", word :: more =>
      match Emphasis.ofWord? word with
      | some emphasis =>
        readWords { style with emphases := (emphasis, false) :: style.emphases } more
      | none => .error .unknown
    | "link", target :: more => readWords { style with link := some target } more
    | word, more =>
      match Emphasis.ofWord? word with
      | some emphasis =>
        readWords { style with emphases := (emphasis, true) :: style.emphases } more
      | none => do
        let color ← Color.ofWord word
        readWords { style with foreground := some color } more
termination_by _ words => words.length

/-- The style of a text in words. -/
def ofWords (text : String) : Except Color.Problem Style :=
  if Text.trim text = "none" then .ok {} else readWords {} (Text.words text)

end Style

end TestImpact
