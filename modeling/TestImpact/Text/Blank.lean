/-!
# Blank characters

A blank is a character that is white space or a separator of lines, paragraphs or
records. `trim` takes blanks off both ends of a text, and `words` are what stands between
blanks.
-/

namespace TestImpact.Text

/-- Is a character a blank? -/
def isBlank (c : Char) : Bool :=
  let n := c.toNat
  (9 ≤ n && n ≤ 13) || (0x1c ≤ n && n ≤ 0x20) || n = 0x85 || n = 0xa0 || n = 0x1680 ||
    (0x2000 ≤ n && n ≤ 0x200a) || n = 0x2028 || n = 0x2029 || n = 0x202f || n = 0x205f ||
    n = 0x3000

theorem unbroken_of_all {text : List Char} (all : text.all (!isBlank ·) = true) :
    ∀ c ∈ text, isBlank c = false := by
  simpa using all

theorem isBlank_of_isWhitespace {c : Char} (h : c.isWhitespace = true) : isBlank c = true := by
  simp only [Char.isWhitespace, Bool.or_eq_true, decide_eq_true_eq] at h
  rcases h with ((rfl | rfl) | rfl) | rfl <;> rfl

/-- A text without the leading characters of a class. -/
def trimLeftOf (p : Char → Bool) (text : List Char) : List Char :=
  text.dropWhile p

/-- A text without the trailing characters of a class. -/
def trimRightOf (p : Char → Bool) (text : List Char) : List Char :=
  (text.reverse.dropWhile p).reverse

/-- A text without the characters of a class at either end. -/
def trimOf (p : Char → Bool) (text : List Char) : List Char :=
  trimRightOf p (trimLeftOf p text)

/-- A text without the blanks at either end. -/
def trim (text : String) : String :=
  String.ofList (trimOf isBlank text.toList)

/-- The parts of a text between blanks, given the beginning of the first part, last character
first. -/
def wordsBehind (word : List Char) : List Char → List (List Char)
  | [] => if word.isEmpty then [] else [word.reverse]
  | c :: rest =>
    if !isBlank c then wordsBehind (c :: word) rest
    else if word.isEmpty then wordsBehind [] rest
    else word.reverse :: wordsBehind [] rest

/-- The parts of a text between blanks. None of them is empty. -/
def words (text : String) : List String :=
  (wordsBehind [] text.toList).map String.ofList

theorem ne_nil_of_mem_wordsBehind {word text part : List Char}
    (h : part ∈ wordsBehind word text) : part ≠ [] := by
  fun_induction wordsBehind word text <;>
    grind [List.isEmpty_iff, List.reverse_eq_nil_iff]

end TestImpact.Text
