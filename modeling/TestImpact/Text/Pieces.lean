/-!
# Cutting texts at separators

`pieces sep` cuts a list of characters at every occurrence of one separator and
keeps empty pieces, so a text with `n` separators has `n + 1` pieces and joining
them again gives the text back (`join_pieces`). `cutAt` and `cutAtLast` cut at one
occurrence of a longer marker.
-/

namespace TestImpact.Text

/-- The parts of a text between the occurrences of `sep`, empty ones included. -/
def pieces (sep : Char) : List Char → List (List Char)
  | [] => [[]]
  | c :: rest =>
    if c = sep then [] :: pieces sep rest
    else match pieces sep rest with
      | [] => [[c]]
      | piece :: more => (c :: piece) :: more

/-- The texts of a list with one separator between neighbours. -/
def join (sep : List Char) : List (List Char) → List Char
  | [] => []
  | [piece] => piece
  | piece :: more => piece ++ sep ++ join sep more

theorem pieces_ne_nil (sep : Char) (text : List Char) : pieces sep text ≠ [] := by
  cases text with
  | nil => simp [pieces]
  | cons c rest =>
    simp only [pieces]
    split
    · simp
    · split <;> simp

/-- Joining the pieces of a text with the separator gives the text back. -/
theorem join_pieces (sep : Char) (text : List Char) : join [sep] (pieces sep text) = text := by
  induction text with
  | nil => rfl
  | cons c rest ih =>
    simp only [pieces]
    split
    next h =>
      subst h
      cases e : pieces c rest with
      | nil => exact absurd e (pieces_ne_nil c rest)
      | cons piece more => simpa [join, e] using ih
    next h =>
      cases e : pieces sep rest with
      | nil => exact absurd e (pieces_ne_nil sep rest)
      | cons piece more =>
        rw [e] at ih
        cases more with
        | nil => simpa [join] using ih
        | cons next others => simpa [join] using ih

/-- No piece holds the separator. -/
theorem sep_notMem_of_mem_pieces {sep : Char} {text piece : List Char}
    (h : piece ∈ pieces sep text) : sep ∉ piece := by
  induction text generalizing piece with
  | nil => simp_all [pieces]
  | cons c rest ih =>
    simp only [pieces] at h
    split at h
    · rcases List.mem_cons.1 h with rfl | h
      · simp
      · exact ih h
    next hc =>
      split at h
      next e => exact absurd e (pieces_ne_nil sep rest)
      next head more e =>
        rcases List.mem_cons.1 h with rfl | h
        · have notIn : sep ∉ head := ih (by simp [e])
          simp only [List.mem_cons, not_or]
          exact ⟨fun hs => hc hs.symm, notIn⟩
        · exact ih (by simp [e, h])

/-- What follows `marker` in a text that begins with it. -/
def after? : (marker text : List Char) → Option (List Char)
  | [], text => some text
  | _ :: _, [] => none
  | m :: marker, c :: text => if m = c then after? marker text else none

theorem after?_eq_some_iff {marker text rest : List Char} :
    after? marker text = some rest ↔ text = marker ++ rest := by
  induction marker generalizing text with
  | nil => simp [after?, eq_comm]
  | cons m marker ih =>
    cases text with
    | nil => simp [after?]
    | cons c text =>
      simp only [after?, List.cons_append, List.cons.injEq]
      split
      next h => simp [ih, h]
      next h => simp [Ne.symm h]

/-- Cuts a text at the first occurrence of `marker`: what stands before it and what after it. -/
def cutAt (marker : List Char) : List Char → Option (List Char × List Char)
  | [] => if marker = [] then some ([], []) else none
  | c :: rest =>
    match after? marker (c :: rest) with
    | some behind => some ([], behind)
    | none => (cutAt marker rest).map fun (before, behind) => (c :: before, behind)

/-- The two sides of a cut and the marker between them make up the text. -/
theorem eq_of_cutAt {marker text before behind : List Char}
    (h : cutAt marker text = some (before, behind)) : text = before ++ marker ++ behind := by
  induction text generalizing before with
  | nil =>
    simp only [cutAt] at h
    split at h
    next hm => cases h; simp [hm]
    next => cases h
  | cons c rest ih =>
    simp only [cutAt] at h
    split at h
    next found =>
      cases h
      simpa using after?_eq_some_iff.1 found
    next =>
      obtain ⟨⟨b, a⟩, hb, heq⟩ := Option.map_eq_some_iff.1 h
      cases heq
      simp [ih hb]

/-- Does `part` occur anywhere in the text? -/
def occurs (part text : List Char) : Bool :=
  (cutAt part text).isSome

/-- Drops every copy of `c` from the end of a text. -/
def dropTrailing (c : Char) (text : List Char) : List Char :=
  (text.reverse.dropWhile (· == c)).reverse

end TestImpact.Text
