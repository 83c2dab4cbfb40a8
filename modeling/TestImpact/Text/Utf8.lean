/-!
# UTF-8

`units` reads bytes as characters. Where the bytes do not follow the encoding, the
longest run that could still have begun a character is one bad unit (`none`), and
reading goes on behind it. A text is decoded by giving up on a bad unit (`decode?`), by
putting the replacement character in its place (`decodeReplacing`) or by leaving it
out (`decodeSkipping`).
-/

namespace TestImpact.Utf8

/-- The bytes of a character. -/
def encodeChar (c : Char) : List UInt8 :=
  String.utf8EncodeChar c

/-- The bytes of a text. -/
def encode (text : String) : List UInt8 :=
  text.toList.flatMap encodeChar

/-- Where the reader stands between two bytes. -/
inductive State where
  | ready
  /-- Inside a character: how many bytes are owed, the bounds of the next one, and the value of
  the bits read so far. -/
  | inside (owed low high value : Nat)
  deriving DecidableEq, Repr

/-- What the first byte of a character gives: the units that are finished and the state. -/
def first (byte : Nat) : List (Option Char) × State :=
  if byte < 0x80 then ([some (Char.ofNat byte)], .ready)
  else if 0xc2 ≤ byte && byte ≤ 0xdf then ([], .inside 1 0x80 0xbf (byte - 0xc0))
  else if byte = 0xe0 then ([], .inside 2 0xa0 0xbf 0)
  else if byte = 0xed then ([], .inside 2 0x80 0x9f 0xd)
  else if 0xe1 ≤ byte && byte ≤ 0xef then ([], .inside 2 0x80 0xbf (byte - 0xe0))
  else if byte = 0xf0 then ([], .inside 3 0x90 0xbf 0)
  else if 0xf1 ≤ byte && byte ≤ 0xf3 then ([], .inside 3 0x80 0xbf (byte - 0xf0))
  else if byte = 0xf4 then ([], .inside 3 0x80 0x8f 4)
  else ([none], .ready)

/-- What one more byte gives. A byte that cannot go on the character begins a new one. -/
def step (state : State) (byte : Nat) : List (Option Char) × State :=
  match state with
  | .ready => first byte
  | .inside owed low high value =>
    if low ≤ byte && byte ≤ high then
      let value := 64 * value + (byte - 0x80)
      if owed ≤ 1 then ([some (Char.ofNat value)], .ready)
      else ([], .inside (owed - 1) 0x80 0xbf value)
    else
      let (units, next) := first byte
      (none :: units, next)

/-- The units of bytes from a state on. -/
def unitsFrom : State → List UInt8 → List (Option Char)
  | .ready, [] => []
  | .inside _ _ _ _, [] => [none]
  | state, byte :: rest =>
    let (units, next) := step state byte.toNat
    units ++ unitsFrom next rest

/-- The characters and the bad units of bytes. -/
def units (bytes : List UInt8) : List (Option Char) :=
  unitsFrom .ready bytes

/-- The text of bytes that follow the encoding throughout. -/
def decode? (bytes : List UInt8) : Option String :=
  ((units bytes).mapM id).map String.ofList

/-- The text of bytes, with a replacement character for each bad unit. -/
def decodeReplacing (bytes : List UInt8) : String :=
  String.ofList ((units bytes).map (·.getD '\ufffd'))

/-- The text of bytes without the bad units. -/
def decodeSkipping (bytes : List UInt8) : String :=
  String.ofList ((units bytes).filterMap id)

end TestImpact.Utf8
