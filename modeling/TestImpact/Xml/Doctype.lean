import TestImpact.Xml.Scan

/-!
# Document type declarations

Of a document type only the defaults of attributes are kept, and whether
declarations outside the document may have gone unread. Declaring an entity is
refused, as entities let a small document grow without bound.
-/

namespace TestImpact.Xml

/-- What an attribute declaration says: whether the value is made of words, and the value to
use where none is given. -/
structure AttributeRule where
  element : List Char
  name : List Char
  words : Bool
  default? : Option String

/-- What is kept of a document type while it is read. -/
structure Doctype where
  /-- The document says that it needs no outside declarations. -/
  standalone : Bool := false
  /-- Outside declarations were mentioned. -/
  mentionsOutside : Bool := false
  /-- Declarations still count: none has been skipped before them. -/
  counts : Bool := true
  rules : List AttributeRule := []

namespace Doctype

/-- May an unknown entity have been declared outside? -/
def unread (doctype : Doctype) : Bool :=
  doctype.mentionsOutside && !doctype.standalone

/-- The rule for an attribute of an element; the first declaration counts. -/
def rule? (doctype : Doctype) (element name : List Char) : Option AttributeRule :=
  doctype.rules.find? fun rule => rule.element = element && rule.name = name

/-- Adds a rule unless the attribute has one. -/
def addRule (doctype : Doctype) (rule : AttributeRule) : Doctype :=
  if (doctype.rule? rule.element rule.name).isSome then doctype
  else { doctype with rules := doctype.rules ++ [rule] }

/-! ## Tokens -/

/-- The kinds of names. Only a simple or a qualified one can name something. -/
inductive NameKind where
  | simple
  | qualified
  | other
  deriving DecidableEq

/-- The tokens of a document type. -/
inductive Token where
  | literal (text : List Char)
  | opening (word : List Char)
  | comment
  | instruction
  | percent
  | parameter
  | comma
  | bar
  | openBracket
  | closeBracket
  | openParen
  /-- A closing parenthesis and the mark behind it, if any. -/
  | closeParen (mark : Option Char)
  | closing
  | pound (word : List Char)
  | name (kind : NameKind) (text : List Char)
  /-- A name and the mark behind it. -/
  | marked (text : List Char)

/-- Reads a literal up to its quote; behind it only certain characters may follow. -/
def literal (quote : Char) : Reader (List Char)
  | [] => malformed
  | c :: rest =>
    if c = quote then
      match rest with
      | [] => .ok ([], rest)
      | next :: _ =>
        if isSpace next || next = '>' || next = '%' || next = '[' then .ok ([], rest) else malformed
    else if isAllowed c then do
      let (text, rest) ← literal quote rest
      pure (c :: text, rest)
    else malformed

/-- Reads the word that opens a declaration, behind `<!`. -/
def declarationWord (text : List Char) : Except XmlProblem (Token × List Char) :=
  let word := text.takeWhile fun c => isNameStart c && c.isAlpha || c = '_'
  let rest := text.drop word.length
  match word, rest with
  | [], _ => malformed
  | _, '%' :: next :: _ =>
    if isSpace next || next = '%' then malformed else .ok (.opening word, rest)
  | _, c :: _ => if isSpace c then .ok (.opening word, rest) else malformed
  | _, [] => malformed

/-- Does a character end a name in a document type? -/
def endsName (c : Char) : Bool :=
  isSpace c || c = '>' || c = ')' || c = ',' || c = '|' || c = '[' || c = '%'

/-- Reads on in a name, `read` holding the characters so far in reverse. -/
def nameToken : NameKind → (read : List Char) → List Char → Except XmlProblem (Token × List Char)
  | kind, read, [] => .ok (.name kind read.reverse, [])
  | kind, read, ':' :: rest =>
    match kind, rest with
    | .simple, [] => malformed
    | .simple, c :: more =>
      if isNameChar c then nameToken .qualified (c :: ':' :: read) more
      else nameToken .other (':' :: read) (c :: more)
    | _, rest => nameToken .other (':' :: read) rest
  | kind, read, c :: rest =>
    if isNameChar c then nameToken kind (c :: read) rest
    else if endsName c then .ok (.name kind read.reverse, c :: rest)
    else if c = '+' || c = '*' || c = '?' then
      if kind = .other then malformed else .ok (.marked read.reverse, rest)
    else malformed

/-- Reads what follows a percent sign: nothing, or the name of a parameter. -/
def percentToken (text : List Char) : Except XmlProblem (Token × List Char) :=
  match text with
  | [] => malformed
  | c :: _ =>
    if isSpace c || c = '%' then .ok (.percent, text)
    else do
      let (_, rest) ← simpleName text
      match rest with
      | ';' :: rest => pure (.parameter, rest)
      | _ => malformed

/-- Reads a word behind a number sign. -/
def poundToken (text : List Char) : Except XmlProblem (Token × List Char) := do
  let (word, rest) ← simpleName text
  match rest with
  | [] => pure (.pound word, rest)
  | c :: _ =>
    if isSpace c || c = ')' || c = '>' || c = '%' || c = '|' then pure (.pound word, rest)
    else malformed

/-- Reads a closing parenthesis and its mark. -/
def closeParenToken (text : List Char) : Except XmlProblem (Token × List Char) :=
  match text with
  | [] => .ok (.closeParen none, [])
  | c :: rest =>
    if c = '*' || c = '?' || c = '+' then .ok (.closeParen (some c), rest)
    else if isSpace c || c = '>' || c = ',' || c = '|' || c = ')' then
      .ok (.closeParen none, text)
    else malformed

/-- Reads the next token, white space before it aside. -/
def token (text : List Char) : Except XmlProblem (Token × List Char) :=
  match skipSpace text with
  | [] => malformed
  | '"' :: rest => do let (value, rest) ← literal '"' rest; pure (.literal value, rest)
  | '\'' :: rest => do let (value, rest) ← literal '\'' rest; pure (.literal value, rest)
  | '<' :: '!' :: '-' :: '-' :: rest => do pure (.comment, ← comment rest)
  | '<' :: '!' :: rest => declarationWord rest
  | '<' :: '?' :: rest => do
    match ← instruction rest with
    | (.processing, rest) => pure (.instruction, rest)
    | (.declaration _, _) => malformed
  | '%' :: rest => percentToken rest
  | ',' :: rest => .ok (.comma, rest)
  | '[' :: rest => .ok (.openBracket, rest)
  | ']' :: rest => .ok (.closeBracket, rest)
  | '(' :: rest => .ok (.openParen, rest)
  | ')' :: rest => closeParenToken rest
  | '|' :: rest => .ok (.bar, rest)
  | '>' :: rest => .ok (.closing, rest)
  | '#' :: rest => poundToken rest
  | ':' :: rest => nameToken .other [':'] rest
  | c :: rest =>
    if isNameStart c then nameToken .simple [c] rest
    else if isNameChar c then nameToken .other [c] rest
    else malformed

/-! ## Declarations -/

/-- The end of a declaration. -/
def close (text : List Char) : Except XmlProblem (List Char) := do
  match ← token text with
  | (.closing, rest) => pure rest
  | _ => malformed

/-- A literal. -/
def anyLiteral : Reader (List Char) := fun text => do
  match ← token text with
  | (.literal value, rest) => pure (value, rest)
  | _ => malformed

/-- May a character stand in a public identifier? -/
def isPublicChar (c : Char) : Bool :=
  c.isAlphanum || " \n\r-'()+,./:=?;!*#@$_%".toList.contains c

/-- A public identifier. -/
def publicLiteral (text : List Char) : Except XmlProblem (List Char) := do
  let (value, rest) ← anyLiteral text
  if value.all isPublicChar then pure rest else malformed

/-- A name that is a keyword. -/
def keyword : Reader String := fun text => do
  match ← token text with
  | (.name .simple word, rest) => pure (String.ofList word, rest)
  | _ => malformed

/-- A name that may have a prefix. -/
def elementName : Reader (List Char) := fun text => do
  match ← token text with
  | (.name .other _, _) => malformed
  | (.name _ name, rest) => pure (name, rest)
  | _ => malformed

/-- Is the text of an entity made of characters and well-formed references, without
parameters? -/
def entityText : (fuel : Nat) → List Char → Except XmlProblem Unit
  | 0, _ => malformed
  | _, [] => .ok ()
  | fuel + 1, '&' :: rest => do
    let (_, rest) ← reference rest
    entityText fuel rest
  | fuel + 1, c :: rest => if c = '%' then malformed else entityText fuel rest

/-- The declaration of an entity becomes known: where declarations count, it is refused. -/
def declare (doctype : Doctype) (reserved : Bool) : Except XmlProblem Unit :=
  if doctype.counts && !reserved then .error .entityDeclared else .ok ()

/-- Reads what an entity stands for and the end of its declaration. A reserved name may be
declared again without effect; only a general entity can have a notation. -/
def entityBody (doctype : Doctype) (reserved general : Bool) (text : List Char) :
    Except XmlProblem (List Char) := do
  let outside (text : List Char) : Except XmlProblem (List Char) := do
    let (_, rest) ← anyLiteral text
    match ← token rest with
    | (.closing, rest) =>
      declare doctype reserved
      pure rest
    | (.name .simple word, rest) =>
      if general && String.ofList word = "NDATA" then
        let (_, rest) ← keyword rest
        declare doctype reserved
        close rest
      else malformed
    | _ => malformed
  match ← token text with
  | (.literal value, rest) =>
    declare doctype reserved
    if doctype.counts then entityText (value.length + 1) value
    close rest
  | (.name .simple word, rest) =>
    match String.ofList word with
    | "SYSTEM" => outside rest
    | "PUBLIC" => outside (← publicLiteral rest)
    | _ => malformed
  | _ => malformed

/-- Reads the declaration of an entity. -/
def entity (doctype : Doctype) (text : List Char) : Except XmlProblem (List Char) := do
  match ← token text with
  | (.percent, rest) =>
    let (_, rest) ← keyword rest
    entityBody doctype false false rest
  | (.name .simple name, rest) => entityBody doctype (predefined? name).isSome true rest
  | _ => malformed

/-- Reads the declaration of a notation. -/
def notationDeclaration (text : List Char) : Except XmlProblem (List Char) := do
  let (_, rest) ← keyword text
  let (kind, rest) ← keyword rest
  match kind with
  | "SYSTEM" =>
    let (_, rest) ← anyLiteral rest
    close rest
  | "PUBLIC" =>
    let rest ← publicLiteral rest
    match ← token rest with
    | (.closing, rest) => pure rest
    | (.literal _, rest) => close rest
    | _ => malformed
  | _ => malformed

/-- Reads the alternatives of an attribute type up to the closing parenthesis. -/
def alternatives (simpleOnly : Bool) : (fuel : Nat) → List Char → Except XmlProblem (List Char)
  | 0, _ => malformed
  | fuel + 1, text => do
    match ← token text with
    | (.name kind _, rest) =>
      if simpleOnly && kind ≠ .simple then malformed
      else
        match ← token rest with
        | (.closeParen none, rest) => pure rest
        | (.bar, rest) => alternatives simpleOnly fuel rest
        | _ => malformed
    | _ => malformed

/-- The types of attributes that are words. -/
def wordTypes : List String :=
  ["ID", "IDREF", "IDREFS", "ENTITY", "ENTITIES", "NMTOKEN", "NMTOKENS"]

/-- Reads the type of an attribute: is it made of words? -/
def attributeType : Reader Bool := fun text => do
  match ← token text with
  | (.openParen, rest) => pure (true, ← alternatives false (rest.length + 1) rest)
  | (.name .simple word, rest) =>
    if String.ofList word = "CDATA" then pure (false, rest)
    else if wordTypes.contains (String.ofList word) then pure (true, rest)
    else if String.ofList word = "NOTATION" then
      match ← token rest with
      | (.openParen, rest) => pure (true, ← alternatives true (rest.length + 1) rest)
      | _ => malformed
    else malformed
  | _ => malformed

/-- Reads the default of an attribute: the raw text, if there is one. -/
def attributeDefault : Reader (Option (List Char)) := fun text => do
  match ← token text with
  | (.literal value, rest) => pure (some value, rest)
  | (.pound word, rest) =>
    match String.ofList word with
    | "IMPLIED" | "REQUIRED" => pure (none, rest)
    | "FIXED" =>
      let (value, rest) ← anyLiteral rest
      pure (some value, rest)
    | _ => malformed
  | _ => malformed

/-- Reads the attributes of an element up to the end of the declaration. -/
def attributeList (element : List Char) :
    (fuel : Nat) → Doctype → List Char → Except XmlProblem (Doctype × List Char)
  | 0, _, _ => malformed
  | fuel + 1, doctype, text => do
    match ← token text with
    | (.closing, rest) => pure (doctype, rest)
    | (.name .other _, _) => malformed
    | (.name _ name, rest) =>
      let (words, rest) ← attributeType rest
      let (raw, rest) ← attributeDefault rest
      let doctype ←
        if doctype.counts then do
          let default? ← raw.mapM (attributeValue doctype.unread words)
          pure (doctype.addRule ⟨element, name, words, default?⟩)
        else pure doctype
      attributeList element fuel doctype rest
    | _ => malformed

/-- Reads a list of names between bars up to `)*`, behind `(#PCDATA` and a bar. -/
def mixedNames : (fuel : Nat) → List Char → Except XmlProblem (List Char)
  | 0, _ => malformed
  | fuel + 1, text => do
    let (_, rest) ← elementName text
    match ← token rest with
    | (.closeParen (some '*'), rest) => close rest
    | (.bar, rest) => mixedNames fuel rest
    | _ => malformed

/-- Reads groups of elements. `open_` holds, for each group that is open, what its parts are
separated by once that is known; `expectPart` says whether a part has to follow. -/
def groups : (fuel : Nat) → (open_ : List (Option Bool)) → (expectPart : Bool) → List Char →
    Except XmlProblem (List Char)
  | 0, _, _, _ => malformed
  | fuel + 1, open_, true, text => do
    match ← token text with
    | (.openParen, rest) => groups fuel (none :: open_) true rest
    | (.marked _, rest) => groups fuel open_ false rest
    | (.name .other _, _) => malformed
    | (.name _ _, rest) => groups fuel open_ false rest
    | _ => malformed
  | fuel + 1, open_, false, text => do
    let separated (comma : Bool) (rest : List Char) : Except XmlProblem (List Char) :=
      match open_ with
      | [] => malformed
      | known :: outer =>
        if known = some (!comma) then malformed else groups fuel (some comma :: outer) true rest
    match ← token text with
    | (.closeParen _, rest) =>
      match open_ with
      | [] | [_] => close rest
      | _ :: outer => groups fuel outer false rest
    | (.comma, rest) => separated true rest
    | (.bar, rest) => separated false rest
    | _ => malformed

/-- Reads the declaration of an element. -/
def elementDeclaration (text : List Char) : Except XmlProblem (List Char) := do
  let (_, rest) ← elementName text
  match ← token rest with
  | (.name .simple word, rest) =>
    if String.ofList word = "EMPTY" || String.ofList word = "ANY" then close rest else malformed
  | (.openParen, rest) =>
    match token rest with
    | .ok (.pound word, rest) =>
      if String.ofList word ≠ "PCDATA" then malformed
      else
        match ← token rest with
        | (.closeParen none, rest) | (.closeParen (some '*'), rest) => close rest
        | (.bar, rest) => mixedNames (rest.length + 1) rest
        | _ => malformed
    | _ => groups (rest.length + 1) [none] true rest
  | _ => malformed

/-- Reads declarations up to the closing bracket. -/
def subset : (fuel : Nat) → Doctype → List Char → Except XmlProblem (Doctype × List Char)
  | 0, _, _ => malformed
  | fuel + 1, doctype, text => do
    match ← token text with
    | (.closeBracket, rest) => pure (doctype, rest)
    | (.comment, rest) | (.instruction, rest) => subset fuel doctype rest
    | (.parameter, rest) =>
      subset fuel { doctype with mentionsOutside := true, counts := doctype.standalone } rest
    | (.opening word, rest) =>
      match String.ofList word with
      | "ENTITY" => subset fuel doctype (← entity doctype rest)
      | "NOTATION" => subset fuel doctype (← notationDeclaration rest)
      | "ELEMENT" => subset fuel doctype (← elementDeclaration rest)
      | "ATTLIST" =>
        let (element, rest) ← elementName rest
        let (doctype, rest) ← attributeList element (rest.length + 1) doctype rest
        subset fuel doctype rest
      | _ => malformed
    | _ => malformed

/-- Reads a document type behind the word `DOCTYPE`. -/
def read (doctype : Doctype) (text : List Char) : Except XmlProblem (Doctype × List Char) := do
  let finish (doctype : Doctype) (text : List Char) : Except XmlProblem (Doctype × List Char) := do
    match ← token text with
    | (.closing, rest) => pure (doctype, rest)
    | (.openBracket, rest) =>
      let (doctype, rest) ← subset (rest.length + 1) doctype rest
      pure (doctype, ← close rest)
    | _ => malformed
  let (_, rest) ← elementName text
  match ← token rest with
  | (.name .simple word, rest) =>
    let outside := { doctype with mentionsOutside := true }
    match String.ofList word with
    | "SYSTEM" =>
      let (_, rest) ← anyLiteral rest
      finish outside rest
    | "PUBLIC" =>
      let rest ← publicLiteral rest
      let (_, rest) ← anyLiteral rest
      finish outside rest
    | _ => malformed
  | _ => finish doctype rest

end Doctype

end TestImpact.Xml
