import TestImpact.Text.Pieces

/-!
# Paths

A `Path` is an anchor and a list of segments. Reading a text drops empty and `.`
segments and keeps `..`, since the directory before a `..` may be a symbolic link.
Exactly two leading slashes are an anchor of their own, three or more are one.
-/

namespace TestImpact

/-- Where the segments of a path start. -/
inductive Anchor where
  | relative
  | root
  | doubleRoot
  deriving DecidableEq, Repr

/-- The text an anchor is written as. -/
def Anchor.text : Anchor → String
  | .relative => ""
  | .root => "/"
  | .doubleRoot => "//"

/-- A file-system path in the form it is written: no `.` segments, no repeated separators. -/
structure Path where
  anchor : Anchor := .relative
  parts : List String := []
  deriving DecidableEq, Repr

namespace Path

/-- The segments between the slashes of a text, without the empty ones and `.`. -/
def segments (text : String) : List String :=
  ((Text.pieces '/' text.toList).map String.ofList).filter fun part => part ≠ "" && part ≠ "."

/-- The anchor that the leading slashes of a text make. -/
def anchorOf : List Char → Anchor
  | '/' :: '/' :: '/' :: _ => .root
  | '/' :: '/' :: _ => .doubleRoot
  | '/' :: _ => .root
  | _ => .relative

/-- Reads a path from its text. -/
def ofString (text : String) : Path :=
  ⟨anchorOf text.toList, segments text⟩

/-- The text of a path; the empty relative path is `.`. -/
protected def toString (path : Path) : String :=
  if path.anchor = .relative && path.parts.isEmpty then "."
  else path.anchor.text ++ "/".intercalate path.parts

instance : ToString Path := ⟨Path.toString⟩

/-- Does the path name the same place from every working directory? -/
def isAbsolute (path : Path) : Bool :=
  path.anchor ≠ .relative

/-- `base / path`: an absolute `path` stands for itself. -/
def append (base path : Path) : Path :=
  if path.isAbsolute then path else { base with parts := base.parts ++ path.parts }

instance : Div Path := ⟨append⟩

/-- One more segment below a path. -/
def child (path : Path) (name : String) : Path :=
  { path with parts := path.parts ++ [name] }

/-- The path without its last segment. -/
def parent (path : Path) : Path :=
  { path with parts := path.parts.dropLast }

/-- The last segment, empty for a bare anchor. -/
def name (path : Path) : String :=
  path.parts.getLastD ""

/-- Cuts a file name at its last dot. A name that begins or ends with its last dot is left whole. -/
def cutExtension (name : List Char) : List Char × List Char :=
  let ending := name.reverse.takeWhile (· ≠ '.')
  let stem := (name.reverse.drop ending.length).drop 1
  if stem.isEmpty || ending.isEmpty then (name, []) else (stem.reverse, '.' :: ending.reverse)

/-- The last segment without its extension. -/
def stem (path : Path) : String :=
  String.ofList (cutExtension path.name.toList).1

end Path

end TestImpact
