import Mathlib.Data.List.Basic
import TestImpact.Text.Utf8

/-!
# Which bytes are texts

`Utf8.decode?` gives up on bytes that do not follow the encoding. The other ones are exactly
the encodings of texts, and each is decoded to the text that it encodes (`decode?_eq_some_iff`).
Both directions go one character at a time: in front of anything, the encoding of a character is
one unit (`unitsFrom_encodeChar`), and a unit that is a character comes from its encoding
(`exists_of_unitsFrom`).
-/

namespace TestImpact.Utf8

/-! ## One byte at a time -/

theorem unitsFrom_ready (byte : UInt8) (rest : List UInt8) :
    unitsFrom .ready (byte :: rest) =
      (first byte.toNat).1 ++ unitsFrom (first byte.toNat).2 rest :=
  rfl

theorem step_ready_ne (state : State) (byte : Nat) :
    (step state byte).1 ≠ [] ∨ (step state byte).2 ≠ .ready := by
  have begun : (first byte).1 ≠ [] ∨ (first byte).2 ≠ .ready := by
    unfold first
    grind
  cases state with
  | ready => exact begun
  | inside owed low high value =>
    unfold step
    grind

/-- Bytes have units, and so has an unfinished character before them. -/
theorem unitsFrom_ne_nil {state : State} {bytes : List UInt8}
    (something : state ≠ .ready ∨ bytes ≠ []) : unitsFrom state bytes ≠ [] := by
  induction bytes generalizing state with
  | nil =>
    cases state with
    | ready => simp at something
    | inside owed low high value => simp [unitsFrom]
  | cons byte rest ih =>
    have unfolded : unitsFrom state (byte :: rest) =
        (step state byte.toNat).1 ++ unitsFrom (step state byte.toNat).2 rest := by
      cases state <;> rfl
    rw [unfolded]
    rcases step_ready_ne state byte.toNat with given | open_
    · exact List.append_ne_nil_of_left_ne_nil given _
    · exact List.append_ne_nil_of_right_ne_nil _ (ih (Or.inl open_))

/-- What a first byte gives, by the number of bytes that are owed after it. -/
inductive Begins (byte : Nat) : List (Option Char) × State → Prop
  | alone : byte < 0x80 → Begins byte ([some (Char.ofNat byte)], .ready)
  | two : 0xc2 ≤ byte → byte ≤ 0xdf → Begins byte ([], .inside 1 0x80 0xbf (byte - 0xc0))
  | three {low high : Nat} : 0xe0 ≤ byte → byte ≤ 0xef →
      (∀ next, low ≤ next ∧ next ≤ high ↔ 0x80 ≤ next ∧ next ≤ 0xbf ∧
        (byte = 0xe0 → 0xa0 ≤ next) ∧ (byte = 0xed → next ≤ 0x9f)) →
      Begins byte ([], .inside 2 low high (byte - 0xe0))
  | four {low high : Nat} : 0xf0 ≤ byte → byte ≤ 0xf4 →
      (∀ next, low ≤ next ∧ next ≤ high ↔ 0x80 ≤ next ∧ next ≤ 0xbf ∧
        (byte = 0xf0 → 0x90 ≤ next) ∧ (byte = 0xf4 → next ≤ 0x8f)) →
      Begins byte ([], .inside 3 low high (byte - 0xf0))
  | bad : 0x80 ≤ byte ∧ byte < 0xc2 ∨ 0xf4 < byte → Begins byte ([none], .ready)

theorem begins_first (byte : Nat) : Begins byte (first byte) := by
  unfold first
  simp only [Bool.and_eq_true, decide_eq_true_eq]
  split
  next ascii => exact .alone ascii
  split
  next bounds => exact .two bounds.1 bounds.2
  split
  next same =>
    subst same
    exact .three (by omega) (by omega) (by omega)
  split
  next same =>
    subst same
    exact .three (by omega) (by omega) (by omega)
  split
  next bounds => exact .three (by omega) bounds.2 (by omega)
  split
  next same =>
    subst same
    exact .four (by omega) (by omega) (by omega)
  split
  next bounds => exact .four (by omega) (by omega) (by omega)
  split
  next same =>
    subst same
    exact .four (by omega) (by omega) (by omega)
  next => exact .bad (by omega)

/-- The last byte that a character owes. -/
theorem unitsFrom_last {low high value : Nat} {byte : UInt8} (rest : List UInt8)
    (fits : low ≤ byte.toNat ∧ byte.toNat ≤ high) :
    unitsFrom (.inside 1 low high value) (byte :: rest) =
      some (Char.ofNat (64 * value + (byte.toNat - 0x80))) :: unitsFrom .ready rest := by
  simp [unitsFrom, step, fits]

/-- A byte that a character owes, with another one behind it. -/
theorem unitsFrom_owed {owed low high value : Nat} {byte : UInt8} (rest : List UInt8)
    (fits : low ≤ byte.toNat ∧ byte.toNat ≤ high) :
    unitsFrom (.inside (owed + 2) low high value) (byte :: rest) =
      unitsFrom (.inside (owed + 1) 0x80 0xbf (64 * value + (byte.toNat - 0x80))) rest := by
  simp [unitsFrom, step, fits]

/-- Inside a character, a unit that is a character begins with a byte that goes on. -/
theorem exists_of_inside {owed low high value : Nat} {bytes : List UInt8} {c : Char}
    {others : List (Option Char)}
    (given : unitsFrom (.inside owed low high value) bytes = some c :: others) :
    ∃ byte rest, bytes = byte :: rest ∧ low ≤ byte.toNat ∧ byte.toNat ≤ high := by
  cases bytes with
  | nil => cases given
  | cons byte rest =>
    refine ⟨byte, rest, rfl, ?_⟩
    by_contra unfit
    simp [unitsFrom, step, unfit] at given

/-! ## One character at a time -/

/-- The encoding of a character, by the length of it. -/
theorem encodeChar_cases (c : Char) :
    (c.toNat < 0x80 ∧ ∃ a, encodeChar c = [a] ∧ a.toNat = c.toNat) ∨
    (0x80 ≤ c.toNat ∧ c.toNat < 0x800 ∧ ∃ a b, encodeChar c = [a, b] ∧
      a.toNat = 0xc0 + c.toNat / 64 ∧ b.toNat = 0x80 + c.toNat % 64) ∨
    (0x800 ≤ c.toNat ∧ c.toNat < 0x10000 ∧ ∃ a b d, encodeChar c = [a, b, d] ∧
      a.toNat = 0xe0 + c.toNat / 4096 ∧ b.toNat = 0x80 + c.toNat / 64 % 64 ∧
      d.toNat = 0x80 + c.toNat % 64) ∨
    (0x10000 ≤ c.toNat ∧ c.toNat < 0x110000 ∧ ∃ a b d e, encodeChar c = [a, b, d, e] ∧
      a.toNat = 0xf0 + c.toNat / 262144 ∧ b.toNat = 0x80 + c.toNat / 4096 % 64 ∧
      d.toNat = 0x80 + c.toNat / 64 % 64 ∧ e.toNat = 0x80 + c.toNat % 64) := by
  have bounded : c.toNat < 0x110000 := by
    have valid : c.toNat < 55296 ∨ 57343 < c.toNat ∧ c.toNat < 1114112 := c.valid
    omega
  have value : c.val.toNat = c.toNat := rfl
  unfold encodeChar String.utf8EncodeChar
  simp only [value]
  split
  · refine Or.inl ⟨by omega, _, rfl, ?_⟩
    rw [UInt8.toNat_ofNat']
    omega
  · split
    · refine Or.inr (Or.inl ⟨by omega, by omega, _, _, rfl, ?_, ?_⟩) <;>
        rw [UInt8.toNat_ofNat'] <;> omega
    · split
      · refine Or.inr (Or.inr (Or.inl ⟨by omega, by omega, _, _, _, rfl, ?_, ?_, ?_⟩)) <;>
          rw [UInt8.toNat_ofNat'] <;> omega
      · refine Or.inr (Or.inr (Or.inr ⟨by omega, by omega, _, _, _, _, rfl, ?_, ?_, ?_, ?_⟩)) <;>
          rw [UInt8.toNat_ofNat'] <;> omega

/-- In front of anything, the encoding of a character is one unit. -/
theorem unitsFrom_encodeChar (c : Char) (rest : List UInt8) :
    unitsFrom .ready (encodeChar c ++ rest) = some c :: unitsFrom .ready rest := by
  have valid : c.toNat < 55296 ∨ 57343 < c.toNat ∧ c.toNat < 1114112 := c.valid
  rcases encodeChar_cases c with ⟨small, a, encoded, ha⟩ | ⟨from_, to_, a, b, encoded, ha, hb⟩ |
    ⟨from_, to_, a, b, d, encoded, ha, hb, hd⟩ | ⟨from_, to_, a, b, d, e, encoded, ha, hb, hd, he⟩
  all_goals
    have begins := begins_first a.toNat
    rw [encoded, List.cons_append, unitsFrom_ready]
    generalize first a.toNat = begun at begins ⊢
  · cases begins with
    | alone => rw [ha, Char.ofNat_toNat]; rfl
    | _ => omega
  · cases begins with
    | two =>
      have whole : 64 * (a.toNat - 0xc0) + (b.toNat - 0x80) = c.toNat := by omega
      rw [List.nil_append, List.cons_append, unitsFrom_last _ (by omega), whole, Char.ofNat_toNat]
      rfl
    | _ => omega
  · cases begins with
    | @three low high _ _ fits =>
      have whole : 64 * (64 * (a.toNat - 0xe0) + (b.toNat - 0x80)) + (d.toNat - 0x80) =
          c.toNat := by
        omega
      have second : low ≤ b.toNat ∧ b.toNat ≤ high := (fits _).2 (by omega)
      rw [List.nil_append, List.cons_append, unitsFrom_owed _ second, List.cons_append,
        unitsFrom_last _ (by omega), whole, Char.ofNat_toNat]
      rfl
    | _ => omega
  · cases begins with
    | @four low high _ _ fits =>
      have whole : 64 * (64 * (64 * (a.toNat - 0xf0) + (b.toNat - 0x80)) + (d.toNat - 0x80)) +
          (e.toNat - 0x80) = c.toNat := by
        omega
      have second : low ≤ b.toNat ∧ b.toNat ≤ high := (fits _).2 (by omega)
      rw [List.nil_append, List.cons_append, unitsFrom_owed _ second, List.cons_append,
        unitsFrom_owed _ (by omega), List.cons_append, unitsFrom_last _ (by omega), whole,
        Char.ofNat_toNat]
      rfl
    | _ => omega

theorem toNat_ofNat {value : Nat} (valid : value.isValidChar) :
    (Char.ofNat value).toNat = value := by
  rw [Char.ofNat, dif_pos valid]
  rfl

/-! A character is encoded by the bytes that its number is made of, if they fit the length. -/

theorem encodeChar_of_one {c : Char} {a : UInt8} (small : a.toNat < 0x80)
    (number : c.toNat = a.toNat) : encodeChar c = [a] := by
  rcases encodeChar_cases c with ⟨-, a', encoded, ha⟩ | h | h | h
  · rw [encoded, UInt8.toNat_inj.1 (ha.trans number)]
  all_goals omega

theorem encodeChar_of_two {c : Char} {a b : UInt8} (first : 0xc2 ≤ a.toNat ∧ a.toNat ≤ 0xdf)
    (second : 0x80 ≤ b.toNat ∧ b.toNat ≤ 0xbf)
    (number : c.toNat = 64 * (a.toNat - 0xc0) + (b.toNat - 0x80)) : encodeChar c = [a, b] := by
  rcases encodeChar_cases c with h | ⟨-, -, a', b', encoded, ha, hb⟩ | h | h
  · omega
  · obtain rfl : a' = a := UInt8.toNat_inj.1 (by omega)
    obtain rfl : b' = b := UInt8.toNat_inj.1 (by omega)
    exact encoded
  all_goals omega

/-- The second byte is not so small that two bytes would do. -/
theorem encodeChar_of_three {c : Char} {a b d : UInt8} (first : 0xe0 ≤ a.toNat ∧ a.toNat ≤ 0xef)
    (second : 0x80 ≤ b.toNat ∧ b.toNat ≤ 0xbf) (long : a.toNat = 0xe0 → 0xa0 ≤ b.toNat)
    (third : 0x80 ≤ d.toNat ∧ d.toNat ≤ 0xbf)
    (number : c.toNat = 64 * (64 * (a.toNat - 0xe0) + (b.toNat - 0x80)) + (d.toNat - 0x80)) :
    encodeChar c = [a, b, d] := by
  rcases encodeChar_cases c with h | h | ⟨-, -, a', b', d', encoded, ha, hb, hd⟩ | h
  · omega
  · omega
  · obtain rfl : a' = a := UInt8.toNat_inj.1 (by omega)
    obtain rfl : b' = b := UInt8.toNat_inj.1 (by omega)
    obtain rfl : d' = d := UInt8.toNat_inj.1 (by omega)
    exact encoded
  · omega

/-- The second byte is not so small that three bytes would do. -/
theorem encodeChar_of_four {c : Char} {a b d e : UInt8} (first : 0xf0 ≤ a.toNat ∧ a.toNat ≤ 0xf4)
    (second : 0x80 ≤ b.toNat ∧ b.toNat ≤ 0xbf) (long : a.toNat = 0xf0 → 0x90 ≤ b.toNat)
    (third : 0x80 ≤ d.toNat ∧ d.toNat ≤ 0xbf) (fourth : 0x80 ≤ e.toNat ∧ e.toNat ≤ 0xbf)
    (number : c.toNat = 64 * (64 * (64 * (a.toNat - 0xf0) + (b.toNat - 0x80)) +
      (d.toNat - 0x80)) + (e.toNat - 0x80)) : encodeChar c = [a, b, d, e] := by
  rcases encodeChar_cases c with h | h | h | ⟨-, -, a', b', d', e', encoded, ha, hb, hd, he⟩
  · omega
  · omega
  · omega
  · obtain rfl : a' = a := UInt8.toNat_inj.1 (by omega)
    obtain rfl : b' = b := UInt8.toNat_inj.1 (by omega)
    obtain rfl : d' = d := UInt8.toNat_inj.1 (by omega)
    obtain rfl : e' = e := UInt8.toNat_inj.1 (by omega)
    exact encoded

/-- A unit that is a character comes from the encoding of it. -/
theorem exists_of_unitsFrom {bytes : List UInt8} {c : Char} {others : List (Option Char)}
    (given : unitsFrom .ready bytes = some c :: others) :
    ∃ rest, bytes = encodeChar c ++ rest ∧ unitsFrom .ready rest = others := by
  cases bytes with
  | nil => cases given
  | cons a bytes =>
    rw [unitsFrom_ready] at given
    have begins := begins_first a.toNat
    generalize first a.toNat = begun at begins given
    cases begins with
    | alone small =>
      obtain ⟨whole, rfl⟩ := List.cons.inj given
      have number : c.toNat = a.toNat := by
        rw [← Option.some.inj whole, toNat_ofNat (by omega)]
      refine ⟨bytes, ?_, rfl⟩
      rw [encodeChar_of_one small number]
      rfl
    | two from_ to_ =>
      rw [List.nil_append] at given
      obtain ⟨b, rest, rfl, hb⟩ := exists_of_inside given
      rw [unitsFrom_last _ hb] at given
      obtain ⟨whole, rfl⟩ := List.cons.inj given
      have number : c.toNat = 64 * (a.toNat - 0xc0) + (b.toNat - 0x80) := by
        rw [← Option.some.inj whole, toNat_ofNat (by omega)]
      refine ⟨rest, ?_, rfl⟩
      rw [encodeChar_of_two ⟨from_, to_⟩ hb number]
      rfl
    | three from_ to_ fits =>
      rw [List.nil_append] at given
      obtain ⟨b, rest, rfl, hb⟩ := exists_of_inside given
      rw [unitsFrom_owed _ hb] at given
      obtain ⟨d, rest, rfl, hd⟩ := exists_of_inside given
      rw [unitsFrom_last _ hd] at given
      obtain ⟨whole, rfl⟩ := List.cons.inj given
      obtain ⟨low, high, long, valid⟩ := (fits _).1 hb
      have number : c.toNat =
          64 * (64 * (a.toNat - 0xe0) + (b.toNat - 0x80)) + (d.toNat - 0x80) := by
        rw [← Option.some.inj whole, toNat_ofNat (by omega)]
      refine ⟨rest, ?_, rfl⟩
      rw [encodeChar_of_three ⟨from_, to_⟩ ⟨low, high⟩ long hd number]
      rfl
    | four from_ to_ fits =>
      rw [List.nil_append] at given
      obtain ⟨b, rest, rfl, hb⟩ := exists_of_inside given
      rw [unitsFrom_owed _ hb] at given
      obtain ⟨d, rest, rfl, hd⟩ := exists_of_inside given
      rw [unitsFrom_owed _ hd] at given
      obtain ⟨e, rest, rfl, he⟩ := exists_of_inside given
      rw [unitsFrom_last _ he] at given
      obtain ⟨whole, rfl⟩ := List.cons.inj given
      obtain ⟨low, high, long, short⟩ := (fits _).1 hb
      have number : c.toNat = 64 * (64 * (64 * (a.toNat - 0xf0) + (b.toNat - 0x80)) +
          (d.toNat - 0x80)) + (e.toNat - 0x80) := by
        rw [← Option.some.inj whole, toNat_ofNat (by omega)]
      refine ⟨rest, ?_, rfl⟩
      rw [encodeChar_of_four ⟨from_, to_⟩ ⟨low, high⟩ long hd he number]
      rfl
    | bad => cases given

/-! ## Whole texts -/

/-- The units of bytes are all characters exactly if the bytes are the encodings of these. -/
theorem units_eq_iff {bytes : List UInt8} {text : List Char} :
    units bytes = text.map some ↔ text.flatMap encodeChar = bytes := by
  unfold units
  induction text generalizing bytes with
  | nil =>
    constructor
    · intro nothing
      cases bytes with
      | nil => rfl
      | cons a bytes => exact absurd nothing (unitsFrom_ne_nil (Or.inr (List.cons_ne_nil _ _)))
    · rintro rfl
      rfl
  | cons c text ih =>
    rw [List.map_cons, List.flatMap_cons]
    constructor
    · intro given
      obtain ⟨rest, rfl, others⟩ := exists_of_unitsFrom given
      rw [ih.1 others]
    · rintro rfl
      rw [unitsFrom_encodeChar, ih.2 rfl]

theorem mapM_id_eq_some_iff {units : List (Option Char)} {text : List Char} :
    units.mapM id = some text ↔ units = text.map some := by
  induction units generalizing text with
  | nil => cases text <;> simp
  | cons unit rest ih =>
    rw [List.mapM_cons]
    cases unit with
    | none => cases text <;> simp
    | some c => cases text <;> simp [Option.bind_eq_some_iff, ih, and_comm]

/-- Bytes are decoded to a text exactly if they are its encoding. -/
theorem decode?_eq_some_iff {bytes : List UInt8} {text : String} :
    decode? bytes = some text ↔ encode text = bytes := by
  rw [decode?, Option.map_eq_some_iff, encode, ← units_eq_iff, ← mapM_id_eq_some_iff]
  constructor
  · rintro ⟨chars, read, rfl⟩
    rwa [String.toList_ofList]
  · intro read
    exact ⟨text.toList, read, String.ofList_toList⟩

theorem encode_inj {left right : String} : encode left = encode right ↔ left = right := by
  rw [← decode?_eq_some_iff, decode?_eq_some_iff.2 rfl, Option.some.injEq, eq_comm]

theorem decode?_eq_none_iff {bytes : List UInt8} :
    decode? bytes = none ↔ ¬ ∃ text, encode text = bytes := by
  simp only [← decode?_eq_some_iff, ← Option.isSome_iff_exists, Option.not_isSome_iff_eq_none]

end TestImpact.Utf8
