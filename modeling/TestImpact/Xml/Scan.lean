import TestImpact.Document.Json
import TestImpact.Xml.Element
import TestImpact.Xml.Name

/-!
# Pieces of XML

Readers for what occurs in several places of a document: names, references, comments,
processing instructions and attribute values. Each takes its piece from the front
of the remaining characters.
-/

namespace TestImpact.Xml

/-- A reader gives a value and the rest, or says why the text is refused. -/
abbrev Reader (α : Type) := List Char → Except XmlProblem (α × List Char)

/-- The refusal of a text that is not well-formed. -/
def malformed {α : Type} : Except XmlProblem α := .error .malformed

/-- The white space of XML. -/
def isSpace (c : Char) : Bool :=
  c = ' ' || c = '\t' || c = '\n' || c = '\r'

/-- May a character stand in a document? -/
def isAllowed (c : Char) : Bool :=
  (0x20 ≤ c.toNat || c = '\t' || c = '\n' || c = '\r') && c.toNat ≠ 0xfffe && c.toNat ≠ 0xffff

/-- Drops leading white space. -/
def skipSpace (text : List Char) : List Char :=
  text.dropWhile isSpace

/-- Reads a name without a colon. -/
def simpleName : Reader (List Char)
  | c :: rest =>
    if isNameStart c then
      let more := rest.takeWhile isNameChar
      .ok (c :: more, rest.drop more.length)
    else malformed
  | [] => malformed

/-- Reads a name with at most one colon inside. -/
def qualifiedName : Reader (List Char) := fun text => do
  let (first, rest) ← simpleName text
  match rest with
  | ':' :: rest =>
    let (second, rest) ← simpleName rest
    match rest with
    | ':' :: _ => malformed
    | _ => pure (first ++ ':' :: second, rest)
  | _ => pure (first, rest)

/-- The part of a qualified name before the colon, empty without one, and the part behind it. -/
def cutPrefix (name : List Char) : List Char × List Char :=
  match Text.cutAt [':'] name with
  | some (before, behind) => (before, behind)
  | none => ([], name)

/-- The entities that need no declaration. -/
def predefined? (name : List Char) : Option Char :=
  match String.ofList name with
  | "lt" => some '<'
  | "gt" => some '>'
  | "amp" => some '&'
  | "quot" => some '"'
  | "apos" => some '\''
  | _ => none

/-- What a reference stands for. -/
inductive Reference where
  | character (c : Char)
  | entity (name : List Char)

/-- The character of a number, if it may stand in a document. -/
def numbered? (n : Nat) : Option Char :=
  if n.isValidChar && isAllowed (Char.ofNat n) then some (Char.ofNat n) else none

/-- Reads the number of a character between `&#` and the semicolon. -/
def numberReference : Reader Char := fun text =>
  let (base, digits, rest) :=
    match text with
    | 'x' :: rest =>
      let digits := rest.takeWhile Hex.isDigit
      (16, digits, rest.drop digits.length)
    | _ =>
      let digits := text.takeWhile Char.isDigit
      (10, digits, text.drop digits.length)
  match digits, rest with
  | _ :: _, ';' :: rest =>
    match numbered? (Hex.valueOf base digits) with
    | some c => .ok (c, rest)
    | none => malformed
  | _, _ => malformed

/-- Reads a reference behind its `&`. -/
def reference : Reader Reference
  | '#' :: rest => do
    let (c, rest) ← numberReference rest
    pure (.character c, rest)
  | text => do
    let (name, rest) ← simpleName text
    match rest with
    | ';' :: rest => pure (.entity name, rest)
    | _ => malformed

/-- Drops a comment behind its `<!--`. Two hyphens only stand at its end. -/
def comment : List Char → Except XmlProblem (List Char)
  | '-' :: '-' :: '>' :: rest => .ok rest
  | '-' :: '-' :: _ => malformed
  | c :: rest => if isAllowed c then comment rest else malformed
  | [] => malformed

/-- Reads up to the end mark of an instruction. -/
def instructionBody : Reader (List Char)
  | '?' :: '>' :: rest => .ok ([], rest)
  | c :: rest =>
    if isAllowed c then do
      let (body, rest) ← instructionBody rest
      pure (c :: body, rest)
    else malformed
  | [] => malformed

/-- A processing instruction, or the declaration at the top of a document. -/
inductive Instruction where
  | processing
  | declaration (body : List Char)

/-- Reads an instruction behind its `<?`. Only the declaration may be called `xml`. -/
def instruction : Reader Instruction := fun text => do
  let (target, rest) ← simpleName text
  let reserved := String.ofList (target.map Char.toLower) = "xml"
  if reserved && String.ofList target ≠ "xml" then malformed
  else
    match rest with
    | c :: _ =>
      if isSpace c || c = '?' then
        if c = '?' && rest[1]? ≠ some '>' then malformed
        else
          let (body, rest) ← instructionBody rest
          pure (if reserved then .declaration body else .processing, rest)
      else malformed
    | [] => malformed

/-! ## Attribute values -/

/-- A character of an attribute value. Spaces may be dropped later, characters not. -/
inductive ValuePiece where
  | space
  | character (c : Char)

/-- Reads the pieces of a raw attribute value. References to unknown entities vanish where
declarations may have gone unread, and are refused elsewhere. -/
def valuePieces (unread : Bool) : (fuel : Nat) → List Char → Except XmlProblem (List ValuePiece)
  | 0, _ => malformed
  | _, [] => .ok []
  | fuel + 1, '\r' :: '\n' :: rest => do pure (.space :: (← valuePieces unread fuel rest))
  | fuel + 1, '&' :: rest => do
    let (found, rest) ← reference rest
    match found with
    | .character ' ' => pure (.space :: (← valuePieces unread fuel rest))
    | .character c => pure (.character c :: (← valuePieces unread fuel rest))
    | .entity name =>
      match predefined? name with
      | some c => pure (.character c :: (← valuePieces unread fuel rest))
      | none => if unread then valuePieces unread fuel rest else malformed
  | fuel + 1, c :: rest =>
    if c = '<' || !isAllowed c then malformed
    else do
      pure ((if isSpace c then .space else .character c) :: (← valuePieces unread fuel rest))

/-- The characters of a value. In a value made of words, spaces at the ends are dropped and
runs of them become one. -/
def normaliseValue (words : Bool) (pieces : List ValuePiece) : String :=
  let reversed := pieces.foldl (fun out piece =>
    match piece with
    | .character c => c :: out
    | .space => if words && (out.isEmpty || out.head? = some ' ') then out else ' ' :: out) []
  let reversed := if words && reversed.head? = some ' ' then reversed.drop 1 else reversed
  String.ofList reversed.reverse

/-- The value of an attribute from the raw text between its quotes. -/
def attributeValue (unread words : Bool) (raw : List Char) : Except XmlProblem String := do
  pure (normaliseValue words (← valuePieces unread (raw.length + 1) raw))

end TestImpact.Xml
