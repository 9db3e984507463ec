import Easel.Text.Basic

/-! Which characters are blank, where lines end, and trimming. -/
namespace Easel

/-- The characters with the Unicode property White_Space. -/
def whiteSpaceRanges : Ranges :=
  [(0x9, 0xd), (0x20, 0x20), (0x85, 0x85), (0xa0, 0xa0), (0x1680, 0x1680), (0x2000, 0x200a),
   (0x2028, 0x2029), (0x202f, 0x202f), (0x205f, 0x205f), (0x3000, 0x3000)]

def isWhiteSpace (c : Char) : Bool := whiteSpaceRanges.contains c.toNat

/-- White space, and the four ASCII separators `0x1c` to `0x1f` beside it. -/
def isBlank (c : Char) : Bool := isWhiteSpace c || (0x1c ≤ c.toNat && c.toNat ≤ 0x1f)

/-- The characters that end a line; a carriage return and a line feed after it end one line. -/
def isLineBreak (c : Char) : Bool :=
  let n := c.toNat
  (0xa ≤ n && n ≤ 0xd) || (0x1c ≤ n && n ≤ 0x1e) || n == 0x85 || n == 0x2028 || n == 0x2029

theorem isBlank_of_isLineBreak {c : Char} (h : isLineBreak c = true) : isBlank c = true := by
  simp [isLineBreak] at h
  simp [isBlank, isWhiteSpace, whiteSpaceRanges, Ranges.contains]
  omega

variable {α : Type}

def trimLeftBy (p : α → Bool) (xs : List α) : List α := xs.dropWhile p

def trimRightBy (p : α → Bool) (xs : List α) : List α := (xs.reverse.dropWhile p).reverse

def trimBy (p : α → Bool) (xs : List α) : List α := trimRightBy p (trimLeftBy p xs)

namespace Text

def skipBlanks (t : Text) : Text := t.dropWhile (CodePoint.satisfies isBlank)

def trimEnd (t : Text) : Text := trimRightBy (CodePoint.satisfies isBlank) t

def trim (t : Text) : Text := trimBy (CodePoint.satisfies isBlank) t

/-- The lines of a text without their line breaks; a break at the very end starts no line. -/
def lines : Text → List Text
  | [] => []
  | .scalar '\r' :: .scalar '\n' :: rest => [] :: lines rest
  | c :: rest =>
    if c.satisfies isLineBreak then [] :: lines rest
    else match lines rest with
      | [] => [[c]]
      | line :: more => (c :: line) :: more

end Text

end Easel
