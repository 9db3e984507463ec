import Easel.Text.Blank
import Easel.Text.Digit
import Easel.Text.Word

/-! Breaking prose into lines. A line may end at a blank, after a hyphen inside a word, and at a
dash between words; only a piece that is longer than a line is broken anywhere else. -/
namespace Easel.Wrap

def isGap (c : Char) : Bool := c = ' '

def isLetter (c : Char) : Bool := isWord c && (digitValue? c).isNone

/-- What may stand before a dash between words. -/
def isWordOrMark (c : Char) : Bool :=
  isWord c || ['!', '"', '\'', '&', '.', ',', '?'].contains c

/-- Whether a dash of two hyphens or more begins here and a word follows it. -/
def dashLength? (before after : List Char) : Option Nat :=
  let hyphens := (after.takeWhile (· == '-')).length
  if 2 ≤ hyphens && (before.head?.any isWordOrMark) && ((after.drop hyphens).head?.any isWord) then
    some hyphens
  else none

/-- Whether the text before a hyphen, which is given backwards, is part of a word. -/
def joinsBefore : List Char → Bool
  | a :: b :: rest =>
    isLetter a && (isLetter b || (b == '-' && rest.head?.any isLetter))
  | _ => false

/-- Whether the text after a hyphen is part of a word. -/
def joinsAfter : List Char → Bool
  | a :: b :: rest =>
    isLetter a && (isLetter b || (b == '-' && rest.head?.any isLetter))
  | _ => false

/-- The length of the piece of a word that begins at the first character. -/
def pieceLength (before : List Char) : List Char → Nat
  | [] => 0
  | c :: rest =>
    match rest with
    | [] => 1
    | d :: after =>
      if isGap d then 1
      else if d = '-' ∧ joinsBefore (c :: before) ∧ joinsAfter after then 2
      else if (dashLength? (c :: before) rest).isSome then 1
      else 1 + pieceLength (c :: before) rest

/-- The length of the next chunk: blanks, a dash, or a piece of a word. -/
def chunkLength (before cs : List Char) : Nat :=
  if cs.head?.any isGap then (cs.takeWhile isGap).length
  else (dashLength? before cs).getD (pieceLength before cs)

/-- Splits a text into chunks between which lines may end. -/
def chunks (before cs : List Char) : List (List Char) :=
  match _h : cs with
  | [] => []
  | c :: rest =>
    let n := chunkLength before cs - 1
    (c :: rest.take n) :: chunks ((c :: rest.take n).reverse ++ before) (rest.drop n)
termination_by cs.length
decreasing_by simp only [List.length_drop, List.length_cons]; omega

/-- The chunks at the beginning that fit into the room, and the others. -/
def fitting (room : Nat) : List (List Char) → List (List Char) × List (List Char)
  | [] => ([], [])
  | c :: rest =>
    if c.length ≤ room then
      let r := fitting (room - c.length) rest
      (c :: r.1, r.2)
    else ([], c :: rest)

def isAllBlank (c : List Char) : Bool := c.all isBlank

/-- Where a chunk that is longer than a line is broken: at the end of the room, or after the last
hyphen before that. -/
def breakPlace (room : Nat) (c : List Char) : Nat :=
  let beforeHyphen := ((c.take room).reverse.dropWhile (· != '-')).drop 1
  if beforeHyphen.any (· != '-') then beforeHyphen.length + 1 else room

/-- Drops the last chunk if it is blank. -/
def dropBlankEnd (line : List (List Char)) : List (List Char) :=
  match line.getLast? with
  | some c => if isAllBlank c then line.dropLast else line
  | none => line

/-- The next line, and the chunks that are left. -/
def nextLine (width : Nat) (cs : List (List Char)) : List Char × List (List Char) :=
  let (line, rest) := fitting width cs
  let room := width - line.flatten.length
  match rest with
  | [] => ((dropBlankEnd line).flatten, [])
  | c :: more =>
    if width < c.length then
      let n := breakPlace room c
      ((dropBlankEnd (line ++ [c.take n])).flatten, c.drop n :: more)
    else ((dropBlankEnd line).flatten, rest)

/-- Fills lines from chunks, at most `limit` of them. Blanks at the beginning of a line other
than the first are dropped. -/
def fill (width : Nat) : (limit : Nat) → (isFirst : Bool) → List (List Char) → List (List Char)
  | 0, _, _ => []
  | _ + 1, _, [] => []
  | limit + 1, isFirst, c :: rest =>
    let cs := if isAllBlank c && !isFirst then rest else c :: rest
    let (line, left) := nextLine width cs
    if line.isEmpty then fill width limit isFirst left else line :: fill width limit false left

end Easel.Wrap

namespace Easel

/-- The lines of a text of single blanks, none of them longer than `width`. -/
def wrap (width : Nat) (s : String) : List String :=
  let cs := Wrap.chunks [] s.toList
  (Wrap.fill width (s.length + cs.length + 1) true cs).map String.ofList

end Easel
