import TestImpact.Path.Basic

/-!
# Path arithmetic on spellings

Everything here works on the text of a path and on the working directory it is
relative to, and never asks the file system, so a path that was deleted or never
existed can still be placed. Backslashes count as separators.

`absolute` gives every spelling one normalised absolute form. `within` asks for
containment of those forms, `transplant` moves a path from one root to another,
`displayed` shortens a path below a root, and `canonicalRoot` spells a directory
with exactly one trailing slash.
-/

namespace TestImpact.Lexical

/-- The segment that leads to the enclosing directory. -/
def parentSegment : String := ".."

/-- A text with every backslash made a slash. -/
def slashed (path : String) : String :=
  String.ofList (path.toList.map fun c => if c = '\\' then '/' else c)

/-- Puts one segment on top of a stack of segments, the innermost first. A `..` takes the
segment below it away; above a root it is dropped, and in a relative path it stays. -/
def push (rooted : Bool) (stack : List String) (segment : String) : List String :=
  if segment = parentSegment then
    match stack with
    | [] => if rooted then [] else [parentSegment]
    | top :: below => if top = parentSegment then parentSegment :: stack else below
  else segment :: stack

/-- Resolves the `..` segments of a list without asking the file system. -/
def collapse (rooted : Bool) (segments : List String) : List String :=
  (segments.foldl (push rooted) []).reverse

/-- The shortest spelling of a path: no `.`, no repeated or trailing slashes, `..` only in
front of a relative path. Two leading slashes stay. -/
def normalise (path : String) : String :=
  let anchor := Path.anchorOf path.toList
  let text := anchor.text ++ "/".intercalate (collapse (anchor ≠ .relative) (Path.segments path))
  if text = "" then "." else text

/-- Does a path begin with a drive letter, as in `c:/` or a bare `c:`? -/
def hasDrive (path : String) : Bool :=
  match path.toList with
  | letter :: ':' :: rest =>
    letter.isAlpha && (rest.isEmpty || rest = ['\n'] || rest.head? = some '/')
  | _ => false

/-- Is a text with forward slashes the same path in every working directory? -/
def isRooted (path : String) : Bool :=
  path.toList.head? = some '/' || hasDrive path

/-- A text without its trailing slashes. -/
def withoutTrailingSlashes (path : String) : String :=
  String.ofList (Text.dropTrailing '/' path.toList)

/-- The normalised absolute form of a forward-slash path. Two leading slashes become one. -/
def absolute (path cwd : String) : String :=
  let anchored := if isRooted path then path else withoutTrailingSlashes cwd ++ "/" ++ path
  let text := normalise anchored
  if Path.anchorOf text.toList = .doubleRoot then String.ofList (text.toList.drop 1) else text

/-- The normalised absolute form of any spelling of a path. -/
def resolved (cwd path : String) : String :=
  absolute (slashed path) cwd

/-- How many leading segments two lists share. -/
def sharedPrefix : List String → List String → Nat
  | a :: as, b :: bs => if a = b then sharedPrefix as bs + 1 else 0
  | _, _ => 0

/-- The way from one list of segments to another: up to the last shared one, then down. -/
def route (source target : List String) : List String :=
  let shared := sharedPrefix source target
  List.replicate (source.length - shared) parentSegment ++ target.drop shared

/-- The segments that lead from the directory `source` to `target`, both as they are spelled. -/
def steps (source target : String) : List String :=
  route (Path.segments (slashed source)) (Path.segments (slashed target))

/-- The place of `target` as seen from the directory `source`; empty when they are equal. -/
def relative (source target : String) : String :=
  "/".intercalate (steps source target)

/-- Does `path` lie below `root`, or is it `root` itself? -/
def within (cwd path root : String) : Bool :=
  (steps (resolved cwd root) (resolved cwd path)).head? ≠ some parentSegment

/-- The place of `path` below `root`, both made absolute. -/
def below (cwd path root : String) : String :=
  relative (resolved cwd root) (resolved cwd path)

/-- Moves `path` from the root `source` to the same place below `target`; nothing when the
path lies outside `source`. -/
def transplant? (cwd path source target : String) : Option String :=
  if within cwd path source then
    let rest := below cwd path source
    some (if rest = "" then target else withoutTrailingSlashes target ++ "/" ++ rest)
  else none

/-- How a path is shown to someone who works in `root`. -/
def displayed (cwd path root : String) : String :=
  if within cwd path root then below cwd path root else slashed path

/-- An absolute spelling of a directory that ends with exactly one slash. A relative path
starts at `base`, and a relative `base` at the working directory. -/
def canonicalRoot (cwd path : String) (base : Option String) : String :=
  let anchor := absolute ((base.map slashed).getD cwd) cwd
  withoutTrailingSlashes (absolute (slashed path) anchor) ++ "/"

end TestImpact.Lexical
