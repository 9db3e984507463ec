import Easel.Json.Depth
import Easel.Text.Hex
import Easel.Decimal.Layout
import Easel.Decimal.Numeral

/-! JSON text: ASCII only, one space after each comma and colon, keys in their own order. -/
namespace Easel.Json

/-- Doubles are shown with the fewest digits that read back, positionally below `10 ^ 16`. -/
def numberFormat : NumberFormat := ⟨-4, 16, true, "NaN", "Infinity"⟩

/-- A UTF-16 unit as an escape. -/
def unitEscape (n : Nat) : List Char := '\\' :: 'u' :: hexDigits 4 n

/-- A code point inside a string; what is not printable ASCII is written in UTF-16 units. -/
def escape (p : CodePoint) : List Char :=
  match p with
  | .surrogate _ => unitEscape p.value
  | .scalar c =>
    if c = '"' ∨ c = '\\' then ['\\', c]
    else if c = '\n' then ['\\', 'n']
    else if c = '\r' then ['\\', 'r']
    else if c = '\t' then ['\\', 't']
    else if c = '\x0c' then ['\\', 'f']
    else if c = '\x08' then ['\\', 'b']
    else if 0x20 ≤ c.toNat ∧ c.toNat < 0x7f then [c]
    else if c.toNat < 0x10000 then unitEscape c.toNat
    else
      let n := c.toNat - 0x10000
      unitEscape (0xd800 + n / 0x400) ++ unitEscape (0xdc00 + n % 0x400)

def renderInt (n : Int) : List Char :=
  (if n < 0 then ['-'] else []) ++ digitsOf n.natAbs

def renderFloat (x : Float) : List Char := numberFormat.render Binary.shortest x

/-- Characters in front of a text. -/
def prepend (cs : List Char) (t : Text) : Text :=
  match cs with
  | [] => t
  | c :: rest => .scalar c :: prepend rest t

/-- The body of a string and its closing quote, in front of a text. -/
def writeBody : Text → Text → Text
  | [], t => .scalar '"' :: t
  | p :: rest, t => prepend (escape p) (writeBody rest t)

def writeString (s t : Text) : Text := .scalar '"' :: writeBody s t

mutual

/-- The JSON text of a value, in front of a text. -/
def write : Json → Text → Text
  | null, t => prepend ['n', 'u', 'l', 'l'] t
  | bool true, t => prepend ['t', 'r', 'u', 'e'] t
  | bool false, t => prepend ['f', 'a', 'l', 's', 'e'] t
  | int n, t => prepend (renderInt n) t
  | float x, t => prepend (renderFloat x) t
  | string s, t => writeString s t
  | array items, t => .scalar '[' :: writeItems items (.scalar ']' :: t)
  | object fields, t => .scalar '\x7b' :: writeFields fields (.scalar '\x7d' :: t)

def writeItems : List Json → Text → Text
  | [], t => t
  | [v], t => write v t
  | v :: w :: rest, t => write v (.scalar ',' :: .scalar ' ' :: writeItems (w :: rest) t)

def writeFields : List (Text × Json) → Text → Text
  | [], t => t
  | [(k, v)], t => writeString k (.scalar ':' :: .scalar ' ' :: write v t)
  | (k, v) :: f :: rest, t =>
    writeString k (.scalar ':' :: .scalar ' ' ::
      write v (.scalar ',' :: .scalar ' ' :: writeFields (f :: rest) t))

end

theorem write_string (s t : Text) : (string s).write t = writeString s t := by
  rw [write]

/-- The JSON text of a value. -/
def render (v : Json) : Text := v.write []

mutual

/-- The first limit that the writer meets in a value, if any; `room` tells how many containers it
may go down. -/
def obstacle? (room : Nat) : Json → Option Limit
  | null | bool _ | float _ | string _ => none
  | int n => if maxIntegerDigits < (digitsOf n.natAbs).length then some .writeDigits else none
  | array items =>
    match room with
    | 0 => some .writeDepth
    | room + 1 => obstacleInItems? room items
  | object fields =>
    match room with
    | 0 => some .writeDepth
    | room + 1 => obstacleInFields? room fields

def obstacleInItems? (room : Nat) : List Json → Option Limit
  | [] => none
  | v :: rest => (v.obstacle? room).or (obstacleInItems? room rest)

def obstacleInFields? (room : Nat) : List (Text × Json) → Option Limit
  | [] => none
  | (_, v) :: rest => (v.obstacle? room).or (obstacleInFields? room rest)

end

/-- The JSON text of a value, unless a limit is met on the way. -/
def render? (room : Nat) (v : Json) : Except Limit Text :=
  match v.obstacle? room with
  | some e => .error e
  | none => .ok v.render

theorem render?_eq_ok_iff {room : Nat} {v : Json} {t : Text} :
    v.render? room = .ok t ↔ v.obstacle? room = none ∧ v.render = t := by
  unfold render?
  cases v.obstacle? room <;> simp

end Easel.Json
