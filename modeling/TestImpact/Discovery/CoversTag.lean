import TestImpact.Discovery.Convention
import TestImpact.Error
import TestImpact.FileSystem.Content

/-!
# Classes that tests declare to cover

A test says which class it covers with `@covers Class` or `@coversDefaultClass Class`,
and a source file says which class it declares with its `namespace` and its name.
`CoverageIndex` leads from a class to the tests that cover it. Classes are kept
without a leading backslash.
-/

namespace TestImpact

namespace CoversTag

/-- Cuts a text behind a word that blanks follow: the blanks and the rest. -/
def wordAndBlanks? (word text : List Char) : Option (List Char × List Char) :=
  match Text.after? word text with
  | none => none
  | some behind =>
    let blanks := behind.takeWhile Text.isBlank
    if blanks.isEmpty then none else some (blanks, behind.drop blanks.length)

/-- The word behind one of the two tags, and the number of characters up to its end. -/
def tag? (text : List Char) : Option (List Char × Nat) :=
  ["@covers".toList, "@coversDefaultClass".toList].findSome? fun word =>
    match wordAndBlanks? word text with
    | none => none
    | some (blanks, rest) =>
      let target := rest.takeWhile (!Text.isBlank ·)
      if target.isEmpty then none
      else some (target, word.length + blanks.length + target.length)

/-- The words behind the tags of a text from left to right. The characters of one tag and its
word begin no other tag; `skip` counts those that are left of the last one. -/
def targetsFrom : (skip : Nat) → List Char → List (List Char)
  | _, [] => []
  | skip + 1, _ :: rest => targetsFrom skip rest
  | 0, c :: rest =>
    match tag? (c :: rest) with
    | some (target, length) => target :: targetsFrom (length - 1) rest
    | none => targetsFrom 0 rest

/-- The class a target names: what stands before the first `::`, if anything. -/
def classOf? (target : List Char) : Option (List Char) :=
  match Text.cutAt [':', ':'] target with
  | none => some target
  | some (before, _) => if before.isEmpty then none else some before

/-- The classes that a test file declares to cover, in order and with repetitions. -/
def classes (content : String) : List String :=
  ((targetsFrom 0 content.toList).filterMap classOf?).map String.ofList

/-- A class name without leading backslashes. -/
def canonical (name : List Char) : List Char :=
  name.dropWhile (· = '\\')

/-- The text between the first `namespace` and the last semicolon of the line that the text
behind it begins on. -/
def namespaceText? : List Char → Option (List Char)
  | [] => none
  | c :: rest =>
    let here :=
      match wordAndBlanks? "namespace".toList (c :: rest) with
      | none => none
      | some (_, behind) =>
        let upToSemicolon := (behind.takeWhile (· ≠ '\n')).reverse.dropWhile (· ≠ ';')
        if upToSemicolon.isEmpty then none else some (upToSemicolon.drop 1).reverse
    here.or (namespaceText? rest)

/-- The class that a file with this name and content declares. -/
def declaredClass (path : Path) (sourceSuffix content : String) : String :=
  let name := path.name.toList
  let suffix := sourceSuffix.toList
  let stem :=
    if suffix.isSuffixOf name then Convention.withoutSuffix name suffix else path.stem.toList
  match namespaceText? content.toList with
  | none => String.ofList stem
  | some text => String.ofList (canonical (Text.trimOf Text.isBlank text) ++ '\\' :: stem)

/-- The class that a source file declares; nothing when the path leads to no file. -/
def sourceClass (fs : FileSystem) (path : Path) (sourceSuffix : String) :
    Except Failure (Option String) := do
  if ← orFailure (fs.isFile path) then
    let content ← orFailure (fs.readText path)
    pure (some (declaredClass path sourceSuffix content))
  else pure none

end CoversTag

/-- Classes in the order they were first met, each with the tests that cover it. -/
abbrev CoverageIndex := List (String × List String)

namespace CoverageIndex

/-- Lists a test under a class, once. -/
def add (index : CoverageIndex) (className test : String) : CoverageIndex :=
  match index with
  | [] => [(className, [test])]
  | (name, tests) :: rest =>
    if name = className then
      (name, if tests.contains test then tests else tests ++ [test]) :: rest
    else (name, tests) :: add rest className test

/-- Lists a test under every class it declares. -/
def addFile (index : CoverageIndex) (test content : String) : CoverageIndex :=
  (CoversTag.classes content).foldl (fun index name =>
    index.add (String.ofList (CoversTag.canonical name.toList)) test) index

/-- The tests of a class. -/
def testsOf (index : CoverageIndex) (className : String) : List String :=
  (index.lookup className).getD []

/-- Where a path is found, seen from a base directory. -/
def anchored (base : Option Path) (path : String) : Path :=
  match base with
  | none => Path.ofString path
  | some base => base / Path.ofString path

/-- Reads test files and lists them under the classes they declare. -/
def build (fs : FileSystem) (base : Option Path) (tests : List String) :
    Except Failure CoverageIndex :=
  tests.foldlM (fun index test => do
    let content ← orFailure (fs.readText (anchored base test))
    pure (addFile index test content)) []

end CoverageIndex

end TestImpact
