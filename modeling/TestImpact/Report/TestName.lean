import TestImpact.Text.Pieces

/-!
# Names of test cases

A report names a test case by a suite such as `OrderTest::testTotal` and a name such as
`OrderTest::testTotal with data set #0 (1, 2)`. What is kept is the class and the
method with the mark of its data set, without the values.
-/

namespace TestImpact.TestName

/-- The class part of a suite: on the last line, what stands before the first `::`. A line feed
at the very end stays. -/
def owner (suite : List Char) : List Char :=
  let (body, ending) :=
    if suite.getLast? = some '\n' then (suite.dropLast, ['\n']) else (suite, [])
  let line := (body.reverse.takeWhile (· ≠ '\n')).reverse
  match Text.cutAt [':', ':'] line with
  | some (before, _) => body.take (body.length - line.length) ++ before ++ ending
  | none => suite

/-- A name without the class in front of it. -/
def withoutOwner (name : List Char) : List Char :=
  let before := name.takeWhile (· ≠ ':')
  match before, name.drop before.length with
  | _ :: _, ':' :: ':' :: rest => rest
  | _, _ => name

/-- A name without the values of its data set, from the first ` (` to the last `)` behind it. -/
def withoutValues (name : List Char) : List Char :=
  match Text.cutAt [' ', '('] name with
  | none => name
  | some (before, behind) =>
    let after := (behind.reverse.takeWhile (· ≠ ')')).reverse
    if after.length = behind.length then name else before ++ after

/-- The class and the name of a test case. -/
def split (suite name : String) : String × String :=
  (String.ofList (owner suite.toList),
    String.ofList (withoutValues (withoutOwner name.toList)))

end TestImpact.TestName
