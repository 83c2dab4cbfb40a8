import TestImpact.Xml.Doctype

/-!
# Reading XML documents

`Xml.parse` reads a whole text as one document and gives its root element, with
namespaces resolved, attribute defaults filled in and line ends unified. Comments
and processing instructions leave nothing behind. The text is already decoded, so
a declared encoding is not looked at.
-/

namespace TestImpact.Xml

/-! ## Namespaces -/

/-- A namespace that the standard itself defines, by the last part of its name. -/
def standardNamespace (part : String) : String :=
  "".intercalate ["http:", "//www.w3.org/", part]

/-- The namespace of the prefix `xml`. -/
def xmlNamespace : String := standardNamespace "XML/1998/namespace"

/-- The namespace of declarations, to which nothing may be bound. -/
def xmlnsNamespace : String := standardNamespace "2000/xmlns/"

/-- What prefixes stand for. The empty prefix is the default, and an empty namespace is none. -/
abbrev Scope := List (List Char × String)

/-- The prefixes that are known everywhere. -/
def outerScope : Scope := [("xml".toList, xmlNamespace)]

/-- Binds a prefix to a namespace, if that is allowed. -/
def bind (scope : Scope) (prefix_ : List Char) (uri : String) : Except XmlProblem Scope :=
  let isXml := prefix_ = "xml".toList
  if uri = "" && !prefix_.isEmpty then malformed
  else if prefix_ = "xmlns".toList then malformed
  else if uri.toList.contains '\x7d' then malformed
  else if isXml != (uri = xmlNamespace) then malformed
  else if uri = xmlnsNamespace then malformed
  else .ok ((prefix_, uri) :: scope)

/-- The prefix that an attribute declares: `xmlns` the default, `xmlns:p` the prefix `p`. -/
def declaredPrefix? (name : List Char) : Option (List Char) :=
  if name = "xmlns".toList then some []
  else
    match cutPrefix name with
    | (before, behind) => if before = "xmlns".toList then some behind else none

/-- A name in a namespace. -/
def expanded (uri : String) (name : List Char) : String :=
  if uri = "" then String.ofList name else "\x7b" ++ uri ++ "\x7d" ++ String.ofList name

/-- The full name of an element or attribute. The default namespace is for elements only. -/
def resolveName (scope : Scope) (useDefault : Bool) (name : List Char) :
    Except XmlProblem String :=
  match cutPrefix name with
  | ([], behind) => .ok (expanded (if useDefault then (scope.lookup []).getD "" else "") behind)
  | (before, behind) =>
    match scope.lookup before with
    | some uri => .ok (expanded uri behind)
    | none => malformed

/-! ## Tags -/

/-- A start tag as it is written. -/
structure StartTag where
  name : List Char
  attributes : List (List Char × List Char)
  isEmpty : Bool

/-- Reads a raw attribute value up to its quote. -/
def rawValue (quote : Char) : Reader (List Char)
  | [] => malformed
  | c :: rest =>
    if c = quote then .ok ([], rest)
    else if c = '<' || !isAllowed c then malformed
    else do
      let (value, rest) ← rawValue quote rest
      pure (c :: value, rest)

/-- Reads an attribute. -/
def attributePair : Reader (List Char × List Char) := fun text => do
  let (name, rest) ← qualifiedName text
  match skipSpace rest with
  | '=' :: rest =>
    match skipSpace rest with
    | '"' :: rest => do
      let (value, rest) ← rawValue '"' rest
      pure ((name, value), rest)
    | '\'' :: rest => do
      let (value, rest) ← rawValue '\'' rest
      pure ((name, value), rest)
    | _ => malformed
  | _ => malformed

/-- Reads attributes up to the end of the tag: is the element empty? -/
def attributesFrom : (fuel : Nat) → Reader (List (List Char × List Char) × Bool)
  | 0, _ => malformed
  | fuel + 1, text =>
    match skipSpace text with
    | '>' :: rest => .ok (([], false), rest)
    | '/' :: '>' :: rest => .ok (([], true), rest)
    | found =>
      if found.length = text.length then malformed
      else do
        let (first, rest) ← attributePair found
        let ((others, isEmpty), rest) ← attributesFrom fuel rest
        pure ((first :: others, isEmpty), rest)

/-- Reads a start tag behind its `<`. -/
def startTag : Reader StartTag := fun text => do
  let (name, rest) ← qualifiedName text
  let ((attributes, isEmpty), rest) ← attributesFrom (rest.length + 1) rest
  pure (⟨name, attributes, isEmpty⟩, rest)

/-- Reads the end tag of an element behind its `</`. -/
def endTag (name text : List Char) : Except XmlProblem (List Char) :=
  match Text.after? name text with
  | none => malformed
  | some rest =>
    match skipSpace rest with
    | '>' :: rest => .ok rest
    | _ => malformed

/-- Have a list of names no repetition? -/
def allDistinct {α : Type} [BEq α] : List α → Bool
  | [] => true
  | a :: rest => !rest.contains a && allDistinct rest

/-- The attributes of an element, those that the document type adds included, before
namespaces are resolved. -/
def fullAttributes (doctype : Doctype) (tag : StartTag) :
    Except XmlProblem (List (List Char × String)) := do
  if !allDistinct (tag.attributes.map Prod.fst) then malformed
  let given ← tag.attributes.mapM fun (name, raw) => do
    let words := ((doctype.rule? tag.name name).map (·.words)).getD false
    pure (name, ← attributeValue doctype.unread words raw)
  let added := doctype.rules.filterMap fun rule =>
    if rule.element = tag.name && !(given.any fun (name, _) => name = rule.name) then
      rule.default?.map (rule.name, ·)
    else none
  pure (given ++ added)

/-- The scope inside an element, its full name and its attributes. -/
def openElement (doctype : Doctype) (scope : Scope) (tag : StartTag) :
    Except XmlProblem (Scope × String × List (String × String)) := do
  let attributes ← fullAttributes doctype tag
  let scope ← attributes.foldlM (fun scope (name, value) =>
    match declaredPrefix? name with
    | some prefix_ => bind scope prefix_ value
    | none => .ok scope) scope
  let others := attributes.filter fun (name, _) => (declaredPrefix? name).isNone
  let resolved ← others.mapM fun (name, value) => do
    pure (← resolveName scope false name, value)
  if !allDistinct (resolved.map Prod.fst) then malformed
  pure (scope, ← resolveName scope true tag.name, resolved)

/-! ## Content -/

/-- Reads the characters of a literal section up to its end mark, line ends unified. -/
def sectionBody : Reader (List Char)
  | ']' :: ']' :: '>' :: rest => .ok ([], rest)
  | '\r' :: '\n' :: rest => do
    let (body, rest) ← sectionBody rest
    pure ('\n' :: body, rest)
  | c :: rest =>
    if isAllowed c then do
      let (body, rest) ← sectionBody rest
      pure ((if c = '\r' then '\n' else c) :: body, rest)
    else malformed
  | [] => malformed

mutual

/-- Reads an element behind the `<` of its start tag. -/
def element (doctype : Doctype) : (fuel : Nat) → Scope → Reader Element
  | 0, _, _ => malformed
  | fuel + 1, scope, text => do
    let (tag, rest) ← startTag text
    let (inner, name, attributes) ← openElement doctype scope tag
    if tag.isEmpty then pure (.mk name attributes "" [], rest)
    else
      let ((text, children), rest) ← content doctype fuel inner rest
      let rest ← endTag tag.name rest
      pure (.mk name attributes (String.ofList text) children, rest)

/-- Reads content up to the `</` of the end tag: the text before the first child, and the
children. -/
def content (doctype : Doctype) : (fuel : Nat) → Scope → Reader (List Char × List Element)
  | 0, _, _ => malformed
  | fuel + 1, scope, text => do
    let withText (cs rest : List Char) :
        Except XmlProblem ((List Char × List Element) × List Char) := do
      let ((more, children), rest) ← content doctype fuel scope rest
      pure ((cs ++ more, children), rest)
    match text with
    | '<' :: '/' :: rest => pure (([], []), rest)
    | '<' :: '!' :: '-' :: '-' :: rest => content doctype fuel scope (← comment rest)
    | '<' :: '!' :: rest =>
      match Text.after? "[CDATA[".toList rest with
      | none => malformed
      | some rest =>
        let (body, rest) ← sectionBody rest
        withText body rest
    | '<' :: '?' :: rest =>
      match ← instruction rest with
      | (.processing, rest) => content doctype fuel scope rest
      | (.declaration _, _) => malformed
    | '<' :: rest =>
      let (child, rest) ← element doctype fuel scope rest
      let ((_, children), rest) ← content doctype fuel scope rest
      pure (([], child :: children), rest)
    | '&' :: rest =>
      match ← reference rest with
      | (.character c, rest) => withText [c] rest
      | (.entity name, rest) =>
        match predefined? name with
        | some c => withText [c] rest
        | none => malformed
    | ']' :: ']' :: '>' :: _ => malformed
    | '\r' :: '\n' :: rest => withText ['\n'] rest
    | c :: rest => if isAllowed c then withText [if c = '\r' then '\n' else c] rest else malformed
    | [] => malformed

end

/-! ## Documents -/

/-- May a character stand in the values of the declaration at the top? -/
def isDeclarationChar (c : Char) : Bool :=
  c.isAlphanum || c = '.' || c = '-' || c = '_'

/-- Reads `name = "value"` behind white space; nothing when only white space is left. -/
def pseudoAttribute : Reader (Option (String × List Char)) := fun text =>
  match text with
  | [] => .ok (none, [])
  | c :: _ =>
    if !isSpace c then malformed
    else
      match skipSpace text with
      | [] => .ok (none, [])
      | found =>
        let name := found.takeWhile fun c => c ≠ '=' && !isSpace c
        if name.isEmpty || !name.all (·.toNat < 128) then malformed
        else
          match skipSpace (found.drop name.length) with
          | '=' :: rest =>
            match skipSpace rest with
            | quote :: rest =>
              let value := rest.takeWhile isDeclarationChar
              match rest.drop value.length with
              | last :: rest =>
                if (quote = '"' || quote = '\'') && last = quote then
                  .ok (some (String.ofList name, value), rest)
                else malformed
              | [] => malformed
            | [] => malformed
          | _ => malformed

/-- Reads the declaration at the top of a document: does it need no outside declarations? -/
def declaration (body : List Char) : Except XmlProblem Bool := do
  let standalone (found : Option (String × List Char)) (rest : List Char) :
      Except XmlProblem Bool :=
    match found with
    | none => .ok false
    | some ("standalone", value) =>
      if !(skipSpace rest).isEmpty then malformed
      else
        match String.ofList value with
        | "yes" => .ok true
        | "no" => .ok false
        | _ => malformed
    | some _ => malformed
  match ← pseudoAttribute body with
  | (some ("version", _), rest) =>
    let (found, rest) ← pseudoAttribute rest
    match found with
    | some ("encoding", value) =>
      if (value.head?.map Char.isAlpha).getD false then
        let (found, rest) ← pseudoAttribute rest
        standalone found rest
      else malformed
    | found => standalone found rest
  | _ => malformed

/-- Reads what may stand before and between the parts of a document. -/
def prolog : (fuel : Nat) → (typeSeen : Bool) → Doctype → List Char →
    Except XmlProblem (Doctype × List Char)
  | 0, _, _, _ => malformed
  | fuel + 1, typeSeen, doctype, text => do
    match skipSpace text with
    | '<' :: '!' :: '-' :: '-' :: rest => prolog fuel typeSeen doctype (← comment rest)
    | '<' :: '?' :: rest =>
      match ← instruction rest with
      | (.processing, rest) => prolog fuel typeSeen doctype rest
      | (.declaration _, _) => malformed
    | '<' :: '!' :: rest =>
      match ← Doctype.declarationWord rest with
      | (.opening word, rest) =>
        if typeSeen || String.ofList word ≠ "DOCTYPE" then malformed
        else
          let (doctype, rest) ← doctype.read rest
          prolog fuel true doctype rest
      | _ => malformed
    | '<' :: rest => pure (doctype, rest)
    | _ => malformed

/-- Only comments and instructions may follow the root element. -/
def epilog : (fuel : Nat) → List Char → Except XmlProblem Unit
  | 0, _ => malformed
  | fuel + 1, text => do
    match skipSpace text with
    | [] => pure ()
    | '<' :: '!' :: '-' :: '-' :: rest => epilog fuel (← comment rest)
    | '<' :: '?' :: rest =>
      match ← instruction rest with
      | (.processing, rest) => epilog fuel rest
      | (.declaration _, _) => malformed
    | _ => malformed

/-- Reads the declaration at the top, if there is one. -/
def top (text : List Char) : Except XmlProblem (Doctype × List Char) := do
  match Text.after? "<?".toList text with
  | none => pure ({}, text)
  | some rest =>
    match ← instruction rest with
    | (.processing, rest) => pure ({}, rest)
    | (.declaration body, rest) => pure ({ standalone := ← declaration body }, rest)

/-- Reads a text as an XML document. -/
def parse (document : String) : Except XmlProblem Element := do
  let text :=
    match document.toList with
    | '\ufeff' :: rest => rest
    | text => text
  let fuel := text.length + 1
  let (doctype, rest) ← top text
  let (doctype, rest) ← prolog fuel false doctype rest
  let (root, rest) ← element doctype fuel outerScope rest
  epilog fuel rest
  pure root

end TestImpact.Xml
