import Easel.Flowchart.Basic
import Easel.Proofs.Text.Lines

/-! How charts are written: every piece of the grammar with its text and with its share of the
chart that the text means. Nothing can be built here that is not in the grammar. -/
namespace Easel.Grammar

/-- Blanks within a line, as many as one likes. -/
structure Gap where
  text : Text
  blank : ∀ c ∈ text, c.isBlank = true
  unbroken : text.Unbroken

/-- A text before its closing mark. -/
structure Enclosed (closing : Char) where
  text : Text
  unclosed : .scalar closing ∉ text
  unbroken : text.Unbroken

/-- What is shown of a label: neither the blanks around it, nor a pair of quotes around the rest
with the blanks within them. An empty label is none. -/
def shown? (t : Text) : Option Text :=
  let quote : CodePoint := .scalar '"'
  let quoted := 2 ≤ t.trim.length ∧ t.trim.head? = some quote ∧ t.trim.getLast? = some quote
  let bare := if quoted then Text.trim (t.trim.drop 1).dropLast else t.trim
  if bare = [] then none else some bare

def opening : ContainerKind → Char
  | .rectangle => '['
  | .ellipse => '('
  | .diamond => '{'

def closing : ContainerKind → Char
  | .rectangle => ']'
  | .ellipse => ')'
  | .diamond => '}'

structure Bracket where
  kind : ContainerKind
  label : Enclosed (closing kind)

def Bracket.text (b : Bracket) : Text :=
  .scalar (opening b.kind) :: b.label.text ++ [.scalar (closing b.kind)]

/-- A node as it is written: a word, and a bracket if one likes. -/
structure Spot where
  id : Text
  id_ne : id ≠ []
  id_word : ∀ c ∈ id, c.isWord = true
  bracket : Option Bracket

def Spot.text (s : Spot) : Text := s.id ++ s.bracket.elim [] Bracket.text

/-- The node that is meant. It shows its id where its bracket gives it no label. -/
def Spot.node (s : Spot) : Node where
  id := s.id
  label := (s.bracket.bind fun b => shown? b.label.text).getD s.id
  outline := .known (s.bracket.elim .rectangle Bracket.kind)

/-- The connectors without a label inside. -/
inductive Plain where
  | line
  | arrow
  | thick
  | dotted

/-- The shortest form of a connector, or one with more dashes, equals signs, or dots. -/
def Plain.text (more : Nat) : Plain → Text
  | line => List.replicate (more + 3) (.scalar '-')
  | arrow => List.replicate (more + 2) (.scalar '-') ++ Text.ofString ">"
  | thick => List.replicate (more + 2) (.scalar '=') ++ Text.ofString ">"
  | dotted => Text.ofString "-" ++ List.replicate (more + 1) (.scalar '.') ++ Text.ofString "->"

/-- A label between bars after a connector. -/
structure Bar where
  gap : Gap
  label : Enclosed '|'

def Bar.text (b : Bar) : Text := b.gap.text ++ .scalar '|' :: b.label.text ++ [.scalar '|']

/-- The connectors around a label. -/
inductive Around where
  | dashes
  | equals
  | dots

namespace Around

def opening : Around → String
  | dashes => "--"
  | equals => "=="
  | dots => "-."

def closing : Around → String
  | dashes => "-->"
  | equals => "==>"
  | dots => ".->"

/-- With which characters the label must not begin. -/
def notFirst : Around → List Char
  | dashes => ['-']
  | equals => ['=']
  | dots => ['-', '.']

end Around

structure Inside (around : Around) where
  text : Text
  ne : text ≠ []
  trimmed : text.trim = text
  first : ∀ c ∈ around.notFirst, text.head? ≠ some (.scalar c)
  no_bar : .scalar '|' ∉ text
  no_head : .scalar '>' ∉ text
  unbroken : text.Unbroken

inductive Connector where
  | plain (form : Plain) (more : Nat) (bar : Option Bar)
  | around (form : Around) (before : Gap) (label : Inside form) (after : Gap)

namespace Connector

def text : Connector → Text
  | plain form more bar => form.text more ++ bar.elim [] Bar.text
  | around form before label after =>
    Text.ofString form.opening ++ before.text ++ label.text ++ after.text ++
      Text.ofString form.closing

def label? : Connector → Option Text
  | plain _ _ bar => bar.bind fun b => shown? b.label.text
  | around _ _ label _ => shown? label.text

end Connector

/-- A connector with the node to which it leads. -/
structure Hop where
  before : Gap
  connector : Connector
  after : Gap
  target : Spot

def Hop.text (h : Hop) : Text :=
  h.before.text ++ h.connector.text ++ h.after.text ++ h.target.text

inductive Statement where
  | declaration (spot : Spot) (bracketed : spot.bracket.isSome = true)
  | chain (first : Spot) (hop : Hop) (more : List Hop)

namespace Statement

def text : Statement → Text
  | declaration spot _ => spot.text
  | chain first hop more => first.text ++ (hop :: more).flatMap Hop.text

/-- The nodes in the order in which they are written. -/
def spots : Statement → List Spot
  | declaration spot _ => [spot]
  | chain first hop more => first :: hop.target :: more.map Hop.target

/-- One edge for each connector, between the nodes on both sides of it. -/
def edges : Statement → List Edge
  | declaration _ _ => []
  | chain first hop more =>
    List.zipWith (fun source h => ⟨source.id, h.target.id, h.connector.label?⟩)
      (chain first hop more).spots (hop :: more)

end Statement

/-- The end of a statement: nothing, or a semicolon after a gap. -/
def ending : Option Gap → Text
  | none => []
  | some gap => gap.text ++ [.scalar ';']

/-- The beginnings of lines that are passed over. -/
def skipped : List String := ["%%", "style ", "classDef ", "class ", "linkStyle ", "click "]

structure Row where
  indent : Gap
  statement : Statement
  semicolon : Option Gap
  trailing : Gap
  kept : ∀ start ∈ skipped, ¬ Text.ofString start <+: statement.text ++ ending semicolon

namespace Row

/-- The line without the blanks around it. -/
def core (r : Row) : Text := r.statement.text ++ ending r.semicolon

def text (r : Row) : Text := r.indent.text ++ (r.core ++ r.trailing.text)

end Row

/-- The first line. Letters may be of either case, and more may follow the direction. -/
structure Heading where
  indent : Gap
  keyword : String
  is_keyword : keyword.toLower ∈ ["graph", "flowchart"]
  gap : Gap
  gap_ne : gap.text ≠ []
  direction : String
  is_direction : direction.toLower ∈ ["td", "tb", "lr", "rl", "bt"]
  rest : Text
  rest_word : ∀ c ∈ rest.head?, c.isWord = false
  rest_unbroken : rest.Unbroken

namespace Heading

def text (h : Heading) : Text :=
  h.indent.text ++ Text.ofString h.keyword ++ h.gap.text ++ Text.ofString h.direction ++ h.rest

def isHorizontal (h : Heading) : Bool := h.direction.toLower = "lr" || h.direction.toLower = "rl"

end Heading

structure Break where
  text : Text
  is_break : text.IsBreak

/-- A chart as it is written: a heading and rows, each on a line of its own. -/
structure Script where
  heading : Heading
  rows : List (Break × Row)
  final : Option Break

/-- Of the nodes with one id, only the first. -/
def firsts : List Node → List Node
  | [] => []
  | n :: rest => n :: (firsts rest).filter fun m => m.id ≠ n.id

namespace Script

def text (s : Script) : Text :=
  s.heading.text ++ (s.rows.flatMap fun r => r.1.text ++ r.2.text) ++ s.final.elim [] Break.text

/-- The chart that is meant. -/
def chart (s : Script) : Flowchart where
  nodes := firsts (s.rows.flatMap fun r => r.2.statement.spots.map Spot.node)
  edges := s.rows.flatMap fun r => r.2.statement.edges
  horizontal := s.heading.isHorizontal

end Script

end Easel.Grammar
