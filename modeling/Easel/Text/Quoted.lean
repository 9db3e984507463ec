import Easel.Text.Hex
import Easel.Text.Printable

/-! Quoted strings, as messages show what was given. -/
namespace Easel.Quoted

/-- Single quotes, unless the string holds one and no double quote. -/
def mark (s : List Char) : Char :=
  if '\'' ∈ s ∧ '"' ∉ s then '"' else '\''

/-- A character as an escape of two, four or eight hexadecimal digits. -/
def escapeCode (n : Nat) : List Char :=
  if n ≤ 0xff then '\\' :: 'x' :: hexDigits 2 n
  else if n ≤ 0xffff then '\\' :: 'u' :: hexDigits 4 n
  else '\\' :: 'U' :: hexDigits 8 n

/-- A character inside quotes: the mark, the backslash and what has no glyph are escaped. -/
def encodeChar (mark c : Char) : List Char :=
  if c = mark ∨ c = '\\' then ['\\', c]
  else if c = '\t' then ['\\', 't']
  else if c = '\n' then ['\\', 'n']
  else if c = '\r' then ['\\', 'r']
  else if isPrintable c then [c]
  else escapeCode c.toNat

def encode (s : List Char) : List Char :=
  let m := mark s
  m :: s.flatMap (encodeChar m) ++ [m]

end Easel.Quoted

namespace Easel

/-- The string in quotes, with escapes. -/
def quoted (s : String) : String := String.ofList (Quoted.encode s.toList)

end Easel
