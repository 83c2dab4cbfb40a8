import TestImpact.FileSystem.Walk

/-!
# Finding programs

A name without a slash is looked for in the directories of the search path, one after
the other. A name with a slash stands for the file itself.
-/

namespace TestImpact.Search

/-- Can a text be called as a program: is there a file, or something else that is no directory,
and may it be run? -/
def isProgram (fs : FileSystem) (name : String) : Bool :=
  match fs.stat (Path.ofString name) with
  | .ok (.file _ executable) => executable && !name.endsWith "/"
  | _ => false

/-- A name in a directory of the search path. An empty directory is the working directory. -/
def inDirectory (directory name : String) : String :=
  if directory = "" || directory.endsWith "/" then directory ++ name else directory ++ "/" ++ name

/-- The directories of a search path. -/
def directories (searchPath : String) : List String :=
  if searchPath = "" then []
  else (Text.pieces ':' searchPath.toList).map String.ofList

/-- The program that a name stands for. -/
def find? (fs : FileSystem) (searchPath : String) (name : String) : Option String :=
  if name.toList.contains '/' then if isProgram fs name then some name else none
  else ((directories searchPath).map (inDirectory · name)).find? (isProgram fs)

end TestImpact.Search
