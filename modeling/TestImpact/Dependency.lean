import TestImpact.Error
import TestImpact.FileSystem.Content

/-!
# Stale dependencies

A lock file names the packages and versions a project wants, the installed manifest
those it has. A locked package is stale when it is not installed or is installed in
another version. Both documents come from users, so names and versions may be any
JSON values.
-/

namespace TestImpact.Dependency

/-- A package as a manifest lists it. A missing version is the same as `null`. -/
structure Package where
  name : Value
  version : Value := .null

/-- Can a value be looked up? Lists and tables cannot. -/
def isKey : Value → Bool
  | .list _ | .table _ => false
  | _ => true

/-- Reads one item of a package list. -/
def Package.ofValue? (item : Value) : Option Package :=
  (item.field? "name").map fun name => ⟨name, (item.field? "version").getD .null⟩

/-- Reads a package list. -/
def packages (manifest : Manifest) (list : Value) : Except Failure (List Package) :=
  match list with
  | .list items =>
    match items.mapM Package.ofValue? with
    | some found => .ok found
    | none => .error (.manifest (.notPackages manifest))
  | _ => .error (.manifest (.notPackages manifest))

/-- Reads a manifest as JSON. -/
def load (manifest : Manifest) (document : String) : Except Failure Value :=
  match Json.parse document with
  | .ok v => .ok v
  | .error error =>
    match error.problem with
    | .tooDeep => .error .tooDeep
    | .tooManyDigits count => .error (.argument (.tooManyDigits count))
    | _ => .error (.manifest (.unparsable manifest error))

/-- The packages of a lock file, under the key `packages` of a table. -/
def locked (document : String) : Except Failure (List Package) := do
  match ← load .lock document with
  | .table entries => packages .lock ((Value.get? entries "packages").getD (.list []))
  | _ => throw (.manifest .notTable)

/-- The packages of an installed manifest: a list, or a table with one under `packages`. -/
def installed (document : String) : Except Failure (List Package) := do
  match ← load .installed document with
  | .table entries => packages .installed ((Value.get? entries "packages").getD (.list []))
  | list => packages .installed list

/-- The version of a package; of packages with one name the last one counts. -/
def versionOf? (installed : List Package) (name : Value) : Option Value :=
  (installed.reverse.find? fun package => Value.alike package.name name).map (·.version)

/-- Is a locked package installed in its version? -/
def isFresh (installed : List Package) (package : Package) : Bool :=
  match versionOf? installed package.name with
  | some version => Value.equal version package.version
  | none => false

/-- Names that cannot be looked up are refused. -/
def requireKeys (found : List Package) : Except Failure Unit :=
  if found.all (isKey ·.name) then .ok () else .error .wrongKind

/-- The names of the stale packages, in the order of the lock file. -/
def stale (lockDocument installedDocument : String) : Except Failure (List Value) := do
  let wanted ← locked lockDocument
  let present ← installed installedDocument
  requireKeys present
  requireKeys wanted
  pure ((wanted.filter fun package => !isFresh present package).map (·.name))

/-- The text of a manifest on disk. -/
def readManifest (fs : FileSystem) (path : Path) : Except Failure String :=
  match fs.readText? path with
  | .ok (some text) => .ok text
  | .ok none => .error .undecodable
  | .error fault => .error (.file fault)

/-- The stale packages of a project. Without a lock file there is nothing to compare, and
without an installed manifest every locked package is stale. -/
def check (fs : FileSystem) (lockFile installedManifest : Path) : Except Failure (List Value) := do
  if ← orFailure (fs.isFile lockFile) then
    let installedDocument ←
      if ← orFailure (fs.isFile installedManifest) then readManifest fs installedManifest
      else pure "[]"
    stale (← readManifest fs lockFile) installedDocument
  else pure []

/-- A name as a text. -/
def textOf : Value → Except Failure String
  | .string name => .ok name
  | .points _ => .error .unencodable
  | _ => .error .wrongKind

/-- The names as texts, if all of them are and can be shown. -/
def names (found : List Value) : Except Failure (List String) :=
  if found.all fun name => name matches .string _ | .points _ then found.mapM textOf
  else .error .wrongKind

/-- The warning about stale packages. -/
def warning (names : List String) : String :=
  "The following Composer dependencies are out-of-date: " ++ ", ".intercalate names ++ ". " ++
    "This could cause unit test failures. Run \x60composer install\x60 to resolve this issue."

end TestImpact.Dependency
