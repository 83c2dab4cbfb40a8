/-!
# Hexadecimal digits

Digits have values, and rows of them stand for numbers in any base up to sixteen.
`Hex.write` writes each byte as two digits, and `Hex.read` reads them back: reading what
was written gives the bytes again.
-/

namespace TestImpact.Hex

/-- The value of a hexadecimal digit. -/
def value? (c : Char) : Option Nat :=
  if c.isDigit then some (c.toNat - '0'.toNat)
  else if 'a' ≤ c && c ≤ 'f' then some (c.toNat - 'a'.toNat + 10)
  else if 'A' ≤ c && c ≤ 'F' then some (c.toNat - 'A'.toNat + 10)
  else none

/-- Is a character a hexadecimal digit? -/
def isDigit (c : Char) : Bool := (value? c).isSome

/-- The number that digits stand for in a base. -/
def valueOf (base : Nat) (digits : List Char) : Nat :=
  digits.foldl (fun n c => base * n + (value? c).getD 0) 0

/-- The two digits of a byte. -/
def byte (byte : UInt8) : List Char :=
  [Nat.digitChar (byte.toNat / 16), Nat.digitChar (byte.toNat % 16)]

/-- The digits of some bytes. -/
def write (bytes : List UInt8) : List Char := bytes.flatMap byte

/-- The bytes that pairs of digits stand for, up to the first pair that is none. -/
def read : List Char → List UInt8
  | high :: low :: rest =>
    match value? high, value? low with
    | some high, some low => UInt8.ofNat (16 * high + low) :: read rest
    | _, _ => []
  | _ => []

theorem length_write (bytes : List UInt8) : (write bytes).length = 2 * bytes.length := by
  induction bytes with
  | nil => rfl
  | cons first rest ih =>
    rw [write, List.flatMap_cons, List.length_append, ← write, ih]
    simp [byte]
    omega

theorem value?_digitChar {n : Nat} (h : n < 16) : value? (Nat.digitChar n) = some n := by
  have all : ∀ n : Fin 16, value? (Nat.digitChar n) = some n.val := by decide
  exact all ⟨n, h⟩

/-- Reading what was written gives the bytes again. -/
theorem read_write (bytes : List UInt8) : read (write bytes) = bytes := by
  induction bytes with
  | nil => rfl
  | cons first rest ih =>
    have small := first.toNat_lt
    have high := value?_digitChar (n := first.toNat / 16) (by omega)
    have low := value?_digitChar (n := first.toNat % 16) (by omega)
    have whole : 16 * (first.toNat / 16) + first.toNat % 16 = first.toNat := Nat.div_add_mod _ _
    change read (_ :: _ :: write rest) = first :: rest
    rw [read, high, low]
    simp only [whole, ih]
    simp

end TestImpact.Hex
