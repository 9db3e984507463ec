import Easel.Flowchart.Basic
import Easel.Text.Blank
import Easel.Text.Word

/-! The lines of a flowchart's text: chains of linked nodes, and nodes in brackets. Each reader
gives what it has read and the rest of the line. -/
namespace Easel

/-- What follows the given beginning of a text. -/
def Text.after? : Text → Text → Option Text
  | [], t => some t
  | _ :: _, [] => none
  | c :: start, d :: t => if c = d then after? start t else none

/-- A piece of text between whose ends the closing character does not stand, and what follows
that character. -/
def Text.before? (closing : Char) : Text → Option (Text × Text)
  | [] => none
  | c :: rest =>
    if c = .scalar closing then some ([], rest)
    else (before? closing rest).map fun r => (c :: r.1, r.2)

/-- Without the blanks and the quotes around it; nothing if that leaves nothing. -/
def Text.cleanLabel? (t : Text) : Option Text :=
  let bare := match t.trim with
    | .scalar '"' :: rest =>
      if rest.getLast? = some (.scalar '"') then Text.trim rest.dropLast else t.trim
    | _ => t.trim
  if bare.isEmpty then none else some bare

/-- A node as a line names it. -/
structure Mention where
  id : Text
  bracket : Option (ContainerKind × Text)

/-- A node without a label of its own shows its name. -/
def Mention.node (m : Mention) : Node :=
  match m.bracket with
  | none => ⟨m.id, m.id, .known .rectangle⟩
  | some (kind, label) => ⟨m.id, (Text.cleanLabel? label).getD m.id, .known kind⟩

/-- The closing bracket and the kind of shape that belong to an opening bracket. -/
def bracketOf? : Char → Option (Char × ContainerKind)
  | '[' => some (']', .rectangle)
  | '(' => some (')', .ellipse)
  | '{' => some ('}', .diamond)
  | _ => none

def bracket? : Text → Option ((ContainerKind × Text) × Text)
  | .scalar c :: rest =>
    (bracketOf? c).bind fun b => (Text.before? b.1 rest).map fun r => ((b.2, r.1), r.2)
  | _ => none

def CodePoint.isWord : CodePoint → Bool := CodePoint.satisfies Easel.isWord

/-- A name is as long as it can be; brackets that are not closed do not belong to it. -/
def mention? (t : Text) : Option (Mention × Text) :=
  let id := t.takeWhile CodePoint.isWord
  let rest := t.dropWhile CodePoint.isWord
  if id.isEmpty then none
  else match bracket? rest with
    | some (b, after) => some (⟨id, some b⟩, after)
    | none => some (⟨id, none⟩, rest)

/-- A stroke with its label inside. -/
structure LabelledStroke where
  opening : Text
  closing : Text
  /-- The characters with which the label must not begin. -/
  notFirst : List Char

def LabelledStroke.all : List LabelledStroke :=
  [⟨.ofString "--", .ofString "-->", ['-']⟩, ⟨.ofString "==", .ofString "==>", ['=']⟩,
   ⟨.ofString "-.", .ofString ".->", ['-', '.']⟩]

/-- A bar or the head of an arrow; neither stands inside a label. -/
def endsLabel (c : CodePoint) : Bool := c = .scalar '|' ∨ c = .scalar '>'

/-- The label of a stroke at the beginning of a text. -/
def LabelledStroke.read? (s : LabelledStroke) (t : Text) : Option (Text × Text) :=
  (Text.after? s.opening t).bind fun opened =>
    let inside := (Text.skipBlanks opened).takeWhile fun c => !endsLabel c
    match (Text.skipBlanks opened).dropWhile fun c => !endsLabel c with
    | .scalar '>' :: rest =>
      match s.closing.isSuffixOf? (inside ++ [.scalar '>']) with
      | some (c :: label) =>
        if c ∈ s.notFirst.map .scalar then none else some (Text.trimEnd (c :: label), rest)
      | _ => none
    | _ => none

/-- A stroke without a label inside: dashes, an arrow of dashes, of equals signs, or of dots
between dashes. -/
def bareStroke? (t : Text) : Option Text :=
  let afterDashes := t.dropWhile (· = .scalar '-')
  match (t.takeWhile (· = .scalar '-')).length with
  | 0 =>
    if 2 ≤ (t.takeWhile (· = .scalar '=')).length then
      Text.after? (.ofString ">") (t.dropWhile (· = .scalar '='))
    else none
  | 1 =>
    if (afterDashes.takeWhile (· = .scalar '.')).isEmpty then none
    else Text.after? (.ofString "->") (afterDashes.dropWhile (· = .scalar '.'))
  | _ + 2 =>
    match afterDashes with
    | .scalar '>' :: rest => some rest
    | _ => some afterDashes

/-- A label between bars, which may stand after a bare stroke. -/
def barLabel (t : Text) : Option Text × Text :=
  match t.skipBlanks with
  | .scalar '|' :: rest =>
    match Text.before? '|' rest with
    | some (label, after) => (some label, after)
    | none => (none, t)
  | _ => (none, t)

/-- The ways to read a stroke, the labelled ones first. -/
def strokes (t : Text) : List (Option Text × Text) :=
  (LabelledStroke.all.filterMap fun s => (s.read? t).map fun r => (some r.1, r.2)) ++
    (bareStroke? t).toList.map barLabel

/-- A stroke and the node to which it leads. -/
structure Link where
  label : Option Text
  target : Mention

/-- A link; of the ways to read the stroke the first one counts after which a node stands. -/
def link? (t : Text) : Option (Link × Text) :=
  (strokes t.skipBlanks).findSome? fun s =>
    (mention? s.2.skipBlanks).map fun r => (⟨s.1, r.1⟩, r.2)

theorem length_dropWhile_le {α : Type} (p : α → Bool) (xs : List α) :
    (xs.dropWhile p).length ≤ xs.length :=
  (List.dropWhile_sublist p).length_le

theorem length_skipBlanks_le (t : Text) : t.skipBlanks.length ≤ t.length :=
  length_dropWhile_le _ t

theorem Text.length_before? {closing : Char} {t a b : Text}
    (h : Text.before? closing t = some (a, b)) : t.length = a.length + b.length + 1 := by
  induction t generalizing a with
  | nil => simp [before?] at h
  | cons c rest ih =>
    simp only [before?] at h
    split at h
    · simp only [Option.some.injEq, Prod.mk.injEq] at h
      simp [← h.1, ← h.2]
    · simp only [Option.map_eq_some_iff, Prod.exists, Prod.mk.injEq] at h
      obtain ⟨a', b', hr, rfl, rfl⟩ := h
      simp only [List.length_cons, ih hr]
      omega

theorem length_bracket? {t : Text} {b : ContainerKind × Text} {rest : Text}
    (h : bracket? t = some (b, rest)) : rest.length < t.length := by
  unfold bracket? at h
  split at h
  · simp only [Option.bind_eq_some_iff, Option.map_eq_some_iff, Prod.mk.injEq] at h
    obtain ⟨_, _, r, hr, _, rfl⟩ := h
    have := Text.length_before? hr
    simp only [List.length_cons]
    omega
  · simp at h

theorem length_mention? {t rest : Text} {m : Mention} (h : mention? t = some (m, rest)) :
    rest.length < t.length := by
  have hsplit :=
    congrArg List.length (List.takeWhile_append_dropWhile (p := CodePoint.isWord) (l := t))
  simp only [List.length_append] at hsplit
  simp only [mention?] at h
  split at h
  · simp at h
  · rename_i hne
    have hpos := List.length_pos_iff.2 (mt List.isEmpty_iff.2 hne)
    split at h
    · rename_i hb
      have := length_bracket? hb
      simp only [Option.some.injEq, Prod.mk.injEq] at h
      rw [← h.2]
      omega
    · simp only [Option.some.injEq, Prod.mk.injEq] at h
      rw [← h.2]
      omega

theorem Text.length_after? {s t rest : Text} (h : Text.after? s t = some rest) :
    rest.length ≤ t.length := by
  induction s generalizing t with
  | nil => simp_all [after?]
  | cons c s ih =>
    cases t with
    | nil => simp [after?] at h
    | cons d t =>
      simp only [after?] at h
      split at h
      · have := ih h
        simp only [List.length_cons]
        omega
      · simp at h

theorem LabelledStroke.length_read? {s : LabelledStroke} {t label rest : Text}
    (h : s.read? t = some (label, rest)) : rest.length ≤ t.length := by
  simp only [LabelledStroke.read?, Option.bind_eq_some_iff] at h
  obtain ⟨opened, hopened, h⟩ := h
  split at h
  · rename_i r hr
    have h₁ := Text.length_after? hopened
    have h₂ := length_skipBlanks_le opened
    have h₃ := length_dropWhile_le (fun c => !endsLabel c) (Text.skipBlanks opened)
    rw [hr, List.length_cons] at h₃
    split at h
    · split at h
      · simp at h
      · simp only [Option.some.injEq, Prod.mk.injEq] at h
        rw [← h.2]
        omega
    · simp at h
  · simp at h

theorem length_bareStroke? {t rest : Text} (h : bareStroke? t = some rest) :
    rest.length ≤ t.length := by
  have hd := length_dropWhile_le (· = CodePoint.scalar '-') t
  simp only [bareStroke?] at h
  split at h
  · split at h
    · exact Nat.le_trans (Text.length_after? h) (length_dropWhile_le _ _)
    · simp at h
  · split at h
    · simp at h
    · exact Nat.le_trans (Text.length_after? h) (Nat.le_trans (length_dropWhile_le _ _) hd)
  · split at h
    · rename_i r hr
      simp only [Option.some.injEq] at h
      rw [hr, List.length_cons] at hd
      rw [← h]
      omega
    · simp only [Option.some.injEq] at h
      rw [← h]
      exact hd

theorem length_barLabel_le (t : Text) : (barLabel t).2.length ≤ t.length := by
  unfold barLabel
  split
  · rename_i rest hr
    have h := length_skipBlanks_le t
    rw [hr, List.length_cons] at h
    split
    · rename_i hb
      have := Text.length_before? hb
      simp only
      omega
    · exact Nat.le_refl _
  · exact Nat.le_refl _

theorem length_of_mem_strokes {t : Text} {s : Option Text × Text} (h : s ∈ strokes t) :
    s.2.length ≤ t.length := by
  simp only [strokes, List.mem_append, List.mem_filterMap, Option.map_eq_some_iff, List.mem_map,
    Option.mem_toList] at h
  rcases h with ⟨stroke, _, r, hr, rfl⟩ | ⟨r, hr, rfl⟩
  · exact LabelledStroke.length_read? hr
  · exact Nat.le_trans (length_barLabel_le r) (length_bareStroke? hr)

theorem length_link? {t rest : Text} {l : Link} (h : link? t = some (l, rest)) :
    rest.length < t.length := by
  simp only [link?] at h
  obtain ⟨s, hs, h⟩ := List.exists_of_findSome?_eq_some h
  simp only [Option.map_eq_some_iff, Prod.mk.injEq] at h
  obtain ⟨r, hr, _, rfl⟩ := h
  have h₁ := length_mention? hr
  have h₂ := length_skipBlanks_le s.2
  have h₃ := length_of_mem_strokes hs
  have h₄ := length_skipBlanks_le t
  omega

/-- All links that follow one another. -/
def links (t : Text) : List Link :=
  match _h : link? t with
  | none => []
  | some (l, rest) => l :: links rest
termination_by t.length
decreasing_by exact length_link? _h

/-- What one line adds to a chart. -/
structure Contribution where
  nodes : List Node
  edges : List Edge

/-- Each link leads on from the target of the one before. -/
def edgesFrom (source : Text) : List Link → List Edge
  | [] => []
  | l :: rest => ⟨source, l.target.id, l.label.bind Text.cleanLabel?⟩ :: edgesFrom l.target.id rest

/-- The beginnings of lines that are comments or directives. -/
def directives : List String := ["%%", "style ", "classDef ", "class ", "linkStyle ", "click "]

def isDirective (line : Text) : Bool := directives.any fun d => (Text.ofString d).isPrefixOf line

/-- What may follow a declaration: blanks, and a semicolon among them. -/
def isLineEnd (t : Text) : Bool :=
  match t.skipBlanks with
  | .scalar ';' :: rest => (Text.skipBlanks rest).isEmpty
  | rest => rest.isEmpty

/-- What a trimmed line adds to its chart. A line that is neither directive nor chain nor
declaration adds nothing. -/
def contribution (line : Text) : Contribution :=
  if isDirective line then ⟨[], []⟩
  else match mention? line with
    | none => ⟨[], []⟩
    | some (first, rest) =>
      match links rest with
      | [] => if first.bracket.isSome && isLineEnd rest then ⟨[first.node], []⟩ else ⟨[], []⟩
      | chain => ⟨first.node :: chain.map fun l => l.target.node, edgesFrom first.id chain⟩

end Easel
