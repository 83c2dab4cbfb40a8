import TestImpact.Display.StyledText
import TestImpact.Error
import TestImpact.Number.Fixed

/-!
# Durations

A duration is shown in minutes and seconds, in seconds with one place, or in
milliseconds, whichever is the largest unit that it fills. Its colour tells how
acceptable it is, and a star marks the fastest. A value that is no number is shown as
less than a millisecond and without a colour; a duration without end cannot be shown.
-/

namespace TestImpact.Duration

/-- The seconds of a minute. -/
def minute : Float := 60

/-- The whole minutes of a duration. The seconds that are left over are taken off first, and
both that difference and its sixtieth part are doubles. -/
def minutes (seconds : Float) (leftOver : Nat) (fraction : Binary64.Ratio) : Nat :=
  let rest := Binary64.ofRatio false
    ⟨leftOver * fraction.denominator + fraction.numerator % fraction.denominator,
      fraction.denominator⟩
  let quotient := (seconds - rest) / minute
  ((Binary64.truncate? quotient).getD 0).toNat

/-- A duration of a minute or more. -/
def minutesText (seconds : Float) : Except ArgumentError String :=
  match Binary64.ratio? seconds with
  | none => .error .notANumber
  | some r =>
    let leftOver := (r.numerator / r.denominator) % 60
    .ok (toString (minutes seconds leftOver r) ++ "m" ++
      Fixed.padLeft '0' 2 (toString leftOver) ++ "s")

/-- A duration in its largest unit. -/
def text (seconds : Float) : Except ArgumentError String :=
  let milliseconds := seconds * 1000
  if seconds >= minute then minutesText seconds
  else if seconds >= 1 then .ok (Fixed.padLeft ' ' 4 (Fixed.write 1 seconds) ++ "s")
  else if milliseconds >= 1 then
    .ok (Fixed.padLeft ' ' 3 (toString ((Fixed.nearest? milliseconds).getD 0)) ++ "ms")
  else .ok " <1ms"

/-- The greatest number of milliseconds that deserves a star. -/
def fast : Float := 50

/-- The greatest numbers of milliseconds that deserve a colour. -/
def grades : List (Float × Hue) :=
  [(200, .green), (500, .yellow), (Float.ofBits 0x7ff0000000000000, .red)]

/-- The style of a number of milliseconds. -/
def style (milliseconds : Float) : Style :=
  match grades.find? fun (bound, _) => milliseconds <= bound with
  | some (_, hue) => Style.ofHue hue
  | none => {}

/-- A duration in its colour, with a star or a blank behind it. -/
def styled (seconds : Float) : Except ArgumentError StyledText := do
  let milliseconds := seconds * 1000
  let shown := StyledText.styled (← text seconds) (style milliseconds)
  let star := if milliseconds <= fast then StyledText.styled "★" (Style.ofHue .yellow)
    else StyledText.plain " "
  pure (shown ++ star)

end TestImpact.Duration
