import TestImpact.Machine.Basic
import TestImpact.Machine.Format

/-!
# Tools

The small programs that every machine has: they print texts, pass bytes on, count and
change them, answer questions about files, or wait.
-/

namespace TestImpact.Tools

open Running

/-! ## Printing -/

/-- Do the letters of an argument ask `echo` for something? -/
def echoLetters? (argument : String) : Option (List Char) :=
  match argument.toList with
  | '-' :: letter :: rest =>
    if (letter :: rest).all ['n', 'e', 'E'].contains then some (letter :: rest) else none
  | _ => none

/-- Cuts off the options of `echo`: is the line feed left out, are escapes read, and the rest. -/
def echoOptions (quiet escaped : Bool) : List String → Bool × Bool × List String
  | [] => (quiet, escaped, [])
  | argument :: rest =>
    match echoLetters? argument with
    | some letters =>
      echoOptions (quiet || letters.contains 'n')
        (letters.foldl (fun on c =>
          if c = 'e' then true else if c = 'E' then false else on) escaped) rest
    | none => (quiet, escaped, argument :: rest)

/-- Prints the arguments in one line. -/
def echo : Program := fun start => do
  let (quiet, escaped, words) := echoOptions false false start.arguments.tail
  let line := " ".intercalate words
  let (content, stopped) :=
    if escaped then Escape.read { leadingZero := true, extended := true } line.toList
    else (Utf8.encode line, false)
  write .out (content ++ if quiet || stopped then [] else [10])
  pure 0

/-- Prints the arguments in one line, reading escapes. Only `-n` is an option. -/
def escapingEcho : Program := fun start => do
  let (quiet, words) := match start.arguments.tail with
    | "-n" :: words => (true, words)
    | words => (false, words)
  let (content, stopped) := Escape.read { leadingZero := true } (" ".intercalate words).toList
  write .out (content ++ if quiet || stopped then [] else [10])
  pure 0

/-- Prints by a format. Arguments that are no numbers and should be are complained about. -/
def printf (dialect : Escape.Dialect) (complaint : String → String) : Program := fun start => do
  let arguments := match start.arguments.tail with
    | "--" :: arguments => arguments
    | arguments => arguments
  match arguments with
  | [] => complain (complaint "missing operand") 2
  | format :: arguments => do
    let printed := Format.print dialect format arguments
    write .out printed.content
    printed.wrong.forM fun argument => do
      let _ ← complain (complaint (argument ++ ": expected numeric value"))
    pure (if printed.wrong.isEmpty then 0 else 1)

/-! ## Passing bytes on -/

/-- What a fault is called. -/
def faultText : Fault → String
  | .missing => "No such file or directory"
  | .notDirectory => "Not a directory"
  | .isDirectory => "Is a directory"
  | .alreadyExists => "File exists"
  | .tooManyLinks => "Too many levels of symbolic links"
  | .nameTooLong => "File name too long"
  | .notPermitted => "Permission denied"
  | .notRunnable => "Exec format error"
  | .nulByte => "Invalid argument"

/-- The device that gives zeros without an end. -/
def zeroDevice : String := "/dev/zero"

/-- The device that takes everything and gives nothing. -/
def nullDevice : String := "/dev/null"

/-- What can be read under a name. -/
def sourceOf (files : FileSystem) (name : String) : Except Fault Source :=
  if name = zeroDevice then .ok .zeros
  else if name = nullDevice then .ok (.bytes [])
  else (files.read (Path.ofString name)).map .bytes

/-- Hands on what stands under names, or the input if there are none; a name that cannot be read
is complained about. -/
def forSources (tool : String) (names : List String) (start : Start)
    (handle : Source → Running Unit) : Running Nat := do
  let names := if names.isEmpty then ["-"] else names
  let statuses ← names.mapM fun name => do
    if name = "-" then
      handle start.input
      pure 0
    else
      match sourceOf (← get).files name with
      | .ok source => do
        handle source
        pure 0
      | .error fault => complain s!"{tool}: {name}: {faultText fault}"
  pure (statuses.foldl max 0)

/-- Writes all of a source. -/
def copy : Source → Running Unit
  | .bytes content => write .out content
  | .zeros => throw .stopped

/-- Copies its sources to the output. -/
def cat : Program := fun start =>
  forSources "cat" start.arguments.tail start copy

/-- The first lines of some bytes. -/
def firstLines : (count : Nat) → List UInt8 → List UInt8
  | 0, _ => []
  | count + 1, content =>
    match content.dropWhile (· ≠ 10) with
    | [] => content
    | _ :: rest => content.takeWhile (· ≠ 10) ++ 10 :: firstLines count rest

/-- The beginning of a source: so many bytes, or so many lines. -/
def beginning (inBytes : Bool) (count : Nat) (source : Source) : Running Unit :=
  if inBytes then write .out (source.take count)
  else
    match source with
    | .bytes content => write .out (firstLines count content)
    | .zeros => throw .stopped

/-- Copies the beginning of its sources. -/
def head : Program := fun start =>
  let run (inBytes : Bool) (count : String) (names : List String) : Running Nat :=
    match Numeral.plainInt? count.toList with
    | some (.ofNat count) => forSources "head" names start (beginning inBytes count)
    | _ =>
      let unit := if inBytes then "bytes" else "lines"
      complain s!"head: invalid number of {unit}: ‘{count}’"
  match start.arguments.tail with
  | "-c" :: count :: names => run true count names
  | "-n" :: count :: names => run false count names
  | argument :: names =>
    match argument.toList with
    | '-' :: 'c' :: count => run true (String.ofList count) names
    | '-' :: 'n' :: count => run false (String.ofList count) names
    | '-' :: digit :: count => run false (String.ofList (digit :: count)) names
    | _ => run false "10" (argument :: names)
  | [] => run false "10" []

/-! ## Changing and counting bytes -/

/-- The bytes from one to another. -/
def range (first last : UInt8) : List UInt8 :=
  (List.range (last.toNat + 1 - first.toNat)).map fun i => UInt8.ofNat (first.toNat + i)

/-- The set of bytes that a list with `-` for ranges stands for. -/
def spread : List UInt8 → List UInt8
  | first :: 45 :: last :: rest => range first last ++ spread rest
  | byte :: rest => byte :: spread rest
  | [] => []

/-- The sets of bytes that have names. -/
def namedSets : List (String × List UInt8) := [
  ("[:lower:]", range 97 122), ("[:upper:]", range 65 90), ("[:digit:]", range 48 57),
  ("[:alpha:]", range 65 90 ++ range 97 122), ("[:space:]", range 9 13 ++ [32])]

/-- The set of bytes that a text stands for. -/
def byteSet (text : String) : List UInt8 :=
  match namedSets.lookup text with
  | some set => set
  | none => spread (Escape.read {} text.toList).1

/-- What a byte becomes when the bytes of one set stand for those of another, the last of which
stands for all that follow. -/
def exchange (from_ into : List UInt8) (byte : UInt8) : UInt8 :=
  match from_.idxOf? byte with
  | some i => into.getD i (into.getLastD byte)
  | none => byte

/-- Changes or deletes bytes of the input. -/
def tr : Program := fun start =>
  match start.input, start.arguments.tail with
  | .zeros, _ => forever
  | .bytes content, ["-d", set] => do
    write .out (content.filter (!(byteSet set).contains ·))
    pure 0
  | .bytes content, [from_, into] => do
    let (from_, into) := (byteSet from_, byteSet into)
    write .out (content.map (exchange from_ into))
    pure 0
  | _, _ => complain "tr: missing operand"

/-- The words in some bytes. -/
def countWords (content : List UInt8) : Nat :=
  let isBlank (byte : UInt8) : Bool := byte = 32 || (9 ≤ byte && byte ≤ 13)
  (content.zip (32 :: content)).countP fun (byte, before) => isBlank before && !isBlank byte

/-- Counts lines, words and bytes. -/
def wc : Program := fun start =>
  let (options, names) := start.arguments.tail.partition fun argument =>
    argument.startsWith "-" && argument ≠ "-"
  let letters := options.flatMap fun option => option.toList.tail
  let letters := if letters.isEmpty then ['l', 'w', 'c'] else letters
  let report (content : List UInt8) : String :=
    let counts := [('l', content.count 10), ('w', countWords content), ('c', content.length)]
    let wanted := counts.filter fun (letter, _) => letters.contains letter
    match wanted.map fun (_, n) => toString n with
    | [only] => only
    | several => " ".intercalate (several.map (Fixed.padLeft ' ' 7))
  forSources "wc" names start fun
    | .zeros => throw .stopped
    | .bytes content => say .out (" ".intercalate (report content :: names) ++ "\n")

/-! ## Waiting -/

/-- The seconds that a text with an optional unit stands for. -/
def seconds? (text : String) : Option Float :=
  let units : List (Char × Float) := [('s', 1), ('m', 60), ('h', 3600), ('d', 86400)]
  let characters := text.toList
  match characters.getLast?.bind (fun unit => units.lookup unit) with
  | some unit => (Numeral.plainFloat? characters.dropLast).map (· * unit)
  | none => Numeral.plainFloat? characters

/-- Waits. -/
def sleep : Program := fun start =>
  match start.arguments.tail.mapM seconds? with
  | some (first :: more) => do
    wait (more.foldl (· + ·) first)
    pure 0
  | some [] => complain "sleep: missing operand"
  | none => complain "sleep: invalid time interval"

/-! ## Asking -/

/-- Two whole numbers in a relation. -/
def compares (relation : String) (a b : Int) : Option Bool :=
  match relation with
  | "-eq" => some (a = b)
  | "-ne" => some (a ≠ b)
  | "-lt" => some (a < b)
  | "-le" => some (a ≤ b)
  | "-gt" => some (b < a)
  | "-ge" => some (b ≤ a)
  | _ => none

/-- The answer to a question about texts, numbers or files, if there is such a question. -/
def answer? (files : FileSystem) : List String → Option Bool
  | [] => some false
  | ["!"] => some true
  | "!" :: rest => (answer? files rest).map (!·)
  | [text] => some (text ≠ "")
  | ["-n", text] => some (text ≠ "")
  | ["-z", text] => some (text = "")
  | ["-t", _] => some false
  | ["-e", name] => (files.isPresent (Path.ofString name)).toOption
  | ["-f", name] => (files.isFile (Path.ofString name)).toOption
  | ["-d", name] => (files.isDirectory (Path.ofString name)).toOption
  | ["-x", name] => (files.isExecutable (Path.ofString name)).toOption
  | [a, "=", b] => some (a = b)
  | [a, "!=", b] => some (a ≠ b)
  | [a, relation, b] => do
    compares relation (← Numeral.plainInt? a.toList) (← Numeral.plainInt? b.toList)
  | _ => none

/-- Answers a question by its status. Called by its bracket, it ends with the other one. -/
def test : Program := fun start => do
  let question := if start.arguments.head? = some "[" then start.arguments.tail.dropLast
    else start.arguments.tail
  match answer? (← get).files question with
  | some true => pure 0
  | some false => pure 1
  | none => complain "test: bad question" 2

/-- Prints the working directory. -/
def pwd : Program := fun _ => do
  say .out ((FileSystem.pathOf (← get).files.workingDirectory).toString ++ "\n")
  pure 0

/-- The tools by name. -/
def all : List (String × Program) := [
  ("true", fun _ => pure 0), ("false", fun _ => pure 1), ("echo", echo),
  ("printf", printf { extended := true } ("printf: " ++ ·)), ("cat", cat), ("head", head),
  ("tr", tr), ("wc", wc), ("sleep", sleep), ("pwd", pwd), ("test", test), ("[", test)]

end TestImpact.Tools
