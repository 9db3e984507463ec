import Easel.Text.Digit
import Easel.Text.Quoted

/-! Templates. A percent sign opens a slot, which may name its value in parentheses and say by
flags, a width, a precision and a letter how the value is written. Two percent signs are one. -/
namespace Easel.Template

inductive Value where
  | nothing
  | flag (b : Bool)
  | text (s : String)
  | list (items : List String)

/-- The values that slots may name. -/
abbrev Table := List (String × Value)

/-- What is written into a slot: a value, or the table where the slot names none. -/
inductive Operand where
  | value (v : Value)
  | table (t : Table)

/-- Why a template cannot be filled. -/
inductive Fault where
  | openName
  | unknownName (name : String)
  | openSlot
  | hugeWidth
  | hugePrecision
  | noOperand
  | badStar
  | unknownLetter (letter : Char) (place : Nat)
  | notReal (letter : Char) (kind : String)
  | notInteger (letter : Char) (kind : String)
  | notFloat (kind : String)
  | notCharacter

def Fault.message : Fault → String
  | openName => "incomplete format key"
  | unknownName name => name
  | openSlot => "incomplete format"
  | hugeWidth => "width too big"
  | hugePrecision => "precision too big"
  | noOperand => "not enough arguments for format string"
  | badStar => "* wants int"
  | unknownLetter letter place =>
    let shown := if 31 ≤ letter.toNat ∧ letter.toNat < 127 then letter else '?'
    let code := String.ofList (Nat.toDigits 16 letter.toNat)
    s!"unsupported format character '{shown}' (0x{code}) at index {place}"
  | notReal letter kind => s!"%{letter} format: a real number is required, not {kind}"
  | notInteger letter kind => s!"%{letter} format: an integer is required, not {kind}"
  | notFloat kind => "must be real number, not " ++ kind
  | notCharacter => "%c requires int or char"

def Value.kindName : Value → String
  | nothing => "NoneType"
  | flag _ => "bool"
  | text _ => "str"
  | list _ => "list"

/-- A value as it stands inside others: texts are quoted. -/
def Value.shown : Value → String
  | nothing => "None"
  | flag b => if b then "True" else "False"
  | text s => quoted s
  | list items => "[" ++ String.intercalate ", " (items.map quoted) ++ "]"

namespace Operand

def kindName : Operand → String
  | value v => v.kindName
  | table _ => "dict"

def shown : Operand → String
  | value v => v.shown
  | table t =>
    "\x7b" ++ String.intercalate ", " (t.map fun f => quoted f.1 ++ ": " ++ f.2.shown) ++ "\x7d"

/-- Flags count as the numbers 0 and 1. -/
def digit? : Operand → Option Nat
  | value (.flag b) => some b.toNat
  | _ => none

end Operand

structure Slot where
  flags : List Char
  width : Nat
  precision : Option Nat
  letter : Char

namespace Slot

def has (s : Slot) (flag : Char) : Bool := s.flags.contains flag

/-- Fills up to the width: with blanks on the left, or on the right if a hyphen says so; numbers
whose flags have a zero are filled with zeros after their head. -/
def pad (s : Slot) (zeros : Bool) (head body : List Char) : List Char :=
  let room := s.width - (head.length + body.length)
  if s.has '-' then head ++ body ++ List.replicate room ' '
  else if zeros then head ++ List.replicate room '0' ++ body
  else List.replicate room ' ' ++ head ++ body

/-- A text, cut to the precision. -/
def words (s : Slot) (t : String) : List Char :=
  s.pad false [] (match s.precision with
    | some n => t.toList.take n
    | none => t.toList)

/-- What stands in front of a number that is not negative. -/
def sign (s : Slot) : List Char :=
  if s.has '+' then ['+'] else if s.has ' ' then [' '] else []

/-- A number of one digit, with as many digits as the precision asks for. -/
def integer (s : Slot) (mark : List Char) (digit : Nat) : List Char :=
  let digits := Nat.toDigits 10 digit
  let room := s.precision.getD 0 - digits.length
  s.pad (s.has '0') (s.sign ++ if s.has '#' then mark else []) (List.replicate room '0' ++ digits)

/-- The same with a fraction. A number sign keeps the point and the zeros that may be left out. -/
def fraction (s : Slot) (digit : Nat) : List Char :=
  let places := s.precision.getD 6
  let zeros := match s.letter.toLower with
    | 'g' => if s.has '#' then places - 1 else 0
    | _ => places
  let point := if zeros ≠ 0 ∨ s.has '#' then ['.'] else []
  let exponent := match s.letter with
    | 'e' => ['e', '+', '0', '0']
    | 'E' => ['E', '+', '0', '0']
    | _ => []
  s.pad (s.has '0') s.sign (Nat.toDigits 10 digit ++ point ++ List.replicate zeros '0' ++ exponent)

/-- Writes an operand; `place` is that of the letter. -/
def fill (s : Slot) (place : Nat) (o : Operand) : Except Fault (List Char) :=
  match s.letter with
  | 's' => .ok (s.words (match o with
    | .value (.text t) => t
    | _ => o.shown))
  | 'r' => .ok (s.words o.shown)
  | 'a' => .ok (s.words (escapeWide o.shown))
  | 'd' | 'i' | 'u' => number (.notReal s.letter o.kindName) (s.integer [])
  | 'o' => number (.notInteger 'o' o.kindName) (s.integer ['0', 'o'])
  | 'x' => number (.notInteger 'x' o.kindName) (s.integer ['0', 'x'])
  | 'X' => number (.notInteger 'X' o.kindName) (s.integer ['0', 'X'])
  | 'e' | 'E' | 'f' | 'F' | 'g' | 'G' => number (.notFloat o.kindName) s.fraction
  | 'c' =>
    match o, o.digit? with
    | .value (.text t), _ =>
      if t.length = 1 then .ok (s.pad false [] t.toList) else .error .notCharacter
    | _, some d => .ok (s.pad false [] [Char.ofNat d])
    | _, none => .error .notCharacter
  | c => .error (.unknownLetter c place)
where
  number (fault : Fault) (write : Nat → List Char) : Except Fault (List Char) :=
    match o.digit? with
    | some d => .ok (write d)
    | none => .error fault
  escapeWide (t : String) : String :=
    String.ofList (t.toList.flatMap fun c =>
      if c.toNat < 0x80 then [c] else Quoted.escapeCode c.toNat)

end Slot

/-- The length of a name up to the parenthesis that closes it. -/
def nameLength? (depth : Nat) : List Char → Option Nat
  | [] => none
  | ')' :: rest =>
    match depth with
    | 0 => some 0
    | depth + 1 => (nameLength? depth rest).map (· + 1)
  | '(' :: rest => (nameLength? (depth + 1) rest).map (· + 1)
  | _ :: rest => (nameLength? depth rest).map (· + 1)

/-- What the slots that name nothing take: each value serves once. -/
abbrev Supply := Option Operand

def Supply.take (s : Supply) : Except Fault Operand :=
  match s with
  | some o => .ok o
  | none => .error .noOperand

/-- The value that a slot names, if it does, and what follows the name. -/
def readName (table : Table) (supply : Supply) : List Char → Except Fault (Supply × List Char)
  | '(' :: rest =>
    match nameLength? 0 rest with
    | none => .error .openName
    | some n =>
      let name := String.ofList (rest.take n)
      match table.lookup name with
      | some v => .ok (some (.value v), rest.drop (n + 1))
      | none => .error (.unknownName name)
  | cs => .ok (supply, cs)

/-- A number of at most `limit`, or a star for the next value. -/
def readAmount (limit : Nat) (fault : Fault) (supply : Supply) (cs : List Char) :
    Except Fault (Option Nat × Supply × List Char) :=
  match cs with
  | '*' :: rest => do
    match (← supply.take).digit? with
    | some n => .ok (some n, none, rest)
    | none => .error .badStar
  | _ =>
    let digits := cs.takeWhile Char.isDigit
    if digits.isEmpty then .ok (none, supply, cs)
    else
      let n := digits.foldl (fun n d => 10 * n + (d.toNat - '0'.toNat)) 0
      if limit < n then .error fault else .ok (some n, supply, cs.drop digits.length)

/-- The slot that a percent sign opens, its operand, and the supply and text after it. -/
structure Opened where
  slot : Slot
  operand : Operand
  supply : Supply
  rest : List Char

def maxWidth : Nat := 9223372036854775807

def maxPrecision : Nat := 2147483647

def openSlot (table : Table) (supply : Supply) (cs : List Char) : Except Fault Opened := do
  let (supply, afterName) ← readName table supply cs
  let flags := afterName.takeWhile ['-', '+', ' ', '#', '0'].contains
  let (width, supply, afterWidth) ←
    readAmount maxWidth .hugeWidth supply (afterName.drop flags.length)
  let (precision, supply, afterPrecision) ← match afterWidth with
    | '.' :: rest => do
      let (n, supply, rest) ← readAmount maxPrecision .hugePrecision supply rest
      pure (some (n.getD 0), supply, rest)
    | _ => pure (none, supply, afterWidth)
  let afterSize := match afterPrecision with
    | c :: rest => if ['h', 'l', 'L'].contains c then rest else c :: rest
    | [] => []
  match afterSize with
  | [] => .error .openSlot
  | letter :: rest =>
    let operand ← supply.take
    .ok ⟨⟨flags, width.getD 0, precision, letter⟩, operand, none, rest⟩

/-- Fills the slots of a text of which `place` characters have been passed. There are no more
slots than `fuel` tells. -/
def fillFrom (table : Table) : (fuel : Nat) → Supply → (place : Nat) → List Char →
    Except Fault (List Char)
  | 0, _, _, cs => .ok cs
  | fuel + 1, supply, place, cs =>
    let plain := cs.takeWhile (· != '%')
    let place := place + plain.length
    match cs.drop plain.length with
    | [] => .ok plain
    | _ :: '%' :: rest => do
      .ok (plain ++ '%' :: (← fillFrom table fuel supply (place + 2) rest))
    | _ :: rest => do
      let opened ← openSlot table supply rest
      let next := place + 1 + (rest.length - opened.rest.length)
      let written ← opened.slot.fill (next - 1) opened.operand
      .ok (plain ++ written ++ (← fillFrom table fuel opened.supply next opened.rest))

/-- Fills a template from a table. The first slot without a name takes the whole table, unless a
named one comes before it. -/
def fill (table : Table) (template : String) : Except Fault String :=
  (fillFrom table template.length (some (.table table)) 0 template.toList).map String.ofList

end Easel.Template
