import TestImpact.Display.Handler
import TestImpact.Display.NamedStyle
import TestImpact.Display.StyledText

/-!
# Text with tags

A tag such as `[bold]` begins a style and `[/bold]` or `[/]` ends it. A tag begins with a
small letter or one of `#`, `/` and `@`, so `[1]` is text, and a backslash in front of
a bracket makes it text. Tags that name no style vanish all the same. A closing tag
needs an open one. A tag with `@` calls a handler, which has no style, and what it is
called with has to be readable when the tag is closed.

Tags may cross each other, so a `Markup` is plain letters with spans over them. Where
spans lie over each other, the one that begins later decides, and of two that begin
together the one that was closed first.
-/

namespace TestImpact

/-- A style over a part of a text, by its name or its words. -/
structure Span where
  start : Nat
  stop : Nat
  style : String
  deriving DecidableEq, Repr

/-- A text with styles over its parts. -/
structure Markup where
  letters : List Char
  spans : List Span
  deriving DecidableEq, Repr

namespace Markup

/-! ## Tags -/

/-- What a text is made of. -/
inductive Part where
  | text (characters : List Char)
  | opening (name : String) (parameters : Option String)
  | closing (name : String)
  deriving DecidableEq, Repr

/-- Can a tag begin with a character? -/
def beginsTag (c : Char) : Bool :=
  ('a' ≤ c && c ≤ 'z') || c = '#' || c = '/' || c = '@'

/-- What stands between the brackets at the beginning of a text, if they make a tag. -/
def tag? : List Char → Option (List Char)
  | '[' :: c :: rest =>
    let body := rest.takeWhile fun d => d ≠ ']' && d ≠ '['
    if beginsTag c && (rest.drop body.length).head? = some ']' then some (c :: body) else none
  | _ => none

/-- The part that a tag is. -/
def partOf (body : List Char) : Part :=
  let name := body.takeWhile (· ≠ '=')
  match name, body.drop name.length with
  | '/' :: closed, _ => .closing (Text.trim (String.ofList closed))
  | _, [] => .opening (String.ofList name) none
  | _, _ :: parameters => .opening (String.ofList name) (some (String.ofList parameters))

/-- Cuts a text into parts. `escapes` counts the backslashes just read. -/
def parts : (escapes : Nat) → List Char → List Part
  | escapes, [] => [.text (List.replicate escapes '\\')]
  | escapes, c :: rest =>
    if c = '\\' then parts (escapes + 1) rest
    else
      match tag? (c :: rest) with
      | some body =>
        let behind := rest.drop (body.length + 1)
        let kept : Part := .text (List.replicate (escapes / 2) '\\')
        if escapes % 2 = 1 then kept :: .text ('[' :: body ++ [']']) :: parts 0 behind
        else kept :: partOf body :: parts 0 behind
      | none =>
        let kept := if c = '[' then escapes - 1 else escapes
        .text (List.replicate kept '\\' ++ [c]) :: parts 0 rest
termination_by _ text => text.length
decreasing_by all_goals simp only [List.length_drop, List.length_cons]; omega

/-! ## Putting a text together -/

/-- A tag that was opened: its normal name, what it is called with, and where it stands. -/
structure Opened where
  name : String
  parameters : Option String
  start : Nat
  deriving DecidableEq, Repr

namespace Opened

/-- Does a tag call a handler? -/
def callsHandler (tag : Opened) : Bool :=
  tag.name.startsWith "@"

/-- The style of a tag. -/
def style (tag : Opened) : String :=
  if tag.callsHandler then "none" else tag.name ++ (tag.parameters.map (" " ++ ·)).getD ""

/-- The span of a tag that ends at a position. -/
def span (tag : Opened) (stop : Nat) : Span :=
  ⟨tag.start, stop, tag.style⟩

end Opened

/-- A text that is being put together: its letters, the open tags with the innermost first, and
the spans of the closed ones with the last one first. -/
structure Builder where
  letters : List Char := []
  opened : List Opened := []
  closed : List Span := []

namespace Builder

/-- The tag that a closing tag ends. Without a name it is the innermost one. -/
def ended? (builder : Builder) (name : String) : Except ArgumentError (Option Opened) := do
  if name = "" then pure builder.opened.head?
  else
    let normal ← Style.normalWords name
    pure (builder.opened.find? (·.name = normal))

/-- Goes on by one part. -/
def step (builder : Builder) : Part → Except Failure Builder
  | .text characters =>
    .ok { builder with letters := builder.letters ++ characters.filter (!isMotion ·) }
  | .opening name parameters => do
    let normal ← (Style.normalWords name).mapError .argument
    pure { builder with opened := ⟨normal, parameters, builder.letters.length⟩ :: builder.opened }
  | .closing name => do
    match ← (builder.ended? name).mapError .argument with
    | none => throw .markup
    | some tag =>
      if tag.callsHandler && !tag.parameters.all Handler.isReadable then throw .markup
      else
        pure { builder with
          opened := builder.opened.erase tag
          closed := tag.span builder.letters.length :: builder.closed }

/-- The finished text. Tags that are still open end here. -/
def finish (builder : Builder) : Markup :=
  let left := builder.opened.map (·.span builder.letters.length)
  ⟨builder.letters, (left.reverse ++ builder.closed).mergeSort fun a b => a.start ≤ b.start⟩

end Builder

/-- Reads a text with tags. -/
def parse (text : String) : Except Failure Markup := do
  pure (← (parts 0 text.toList).foldlM Builder.step {}).finish

/-! ## Styles -/

/-- A span with the style that its words stand for. -/
def resolved (span : Span) : Except Failure (Span × Style) := do
  pure (span, ← (Style.resolve span.style).mapError .argument)

/-- The style at a position. -/
def styleAt (spans : List (Span × Style)) (position : Nat) : Style :=
  spans.foldl (fun outer (span, style) =>
    if span.start ≤ position && position < span.stop then style.inside outer else outer) {}

/-- Does a span begin or end at a position? -/
def isBoundary (spans : List Span) (position : Nat) : Bool :=
  spans.any fun span => span.start = position || span.stop = position

/-- The text in runs: there is a new one wherever a span begins or ends. -/
def styled (text : Markup) : Except Failure StyledText := do
  let spans ← text.spans.mapM resolved
  pure ((text.letters.zipIdx.splitBy fun _ next => !isBoundary text.spans next.2).map fun run =>
    ⟨run.map Prod.fst, styleAt spans ((run.head?.map Prod.snd).getD 0)⟩)

end Markup

end TestImpact
