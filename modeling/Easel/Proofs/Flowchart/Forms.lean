import Easel.Proofs.Flowchart.Rows

/-! What arbitrary lines may hold: the forms that begin a link and the forms that declare a node.
The readers find each of them, and find nothing else. -/
namespace Easel.Grammar

variable {t rest : Text}

/-- Blanks, as many as one likes. -/
def Blank (t : Text) : Prop := ∀ c ∈ t, c.isBlank = true

structure IsName (t : Text) : Prop where
  ne : t ≠ []
  word : ∀ c ∈ t, c.isWord = true

/-- A node as it is written: a name, perhaps with a label in brackets. -/
inductive IsSpot : Text → Prop
  | bare {name : Text} (hname : IsName name) : IsSpot name
  | labelled {name label : Text} {kind : ContainerKind} (hname : IsName name)
      (hlabel : .scalar (closing kind) ∉ label) : IsSpot (name ++ bracketed kind label)

/-- A stroke without a label inside: two dashes or more, and arrows of any length. -/
inductive IsStroke : Text → Prop
  | dashes (n : Nat) : IsStroke (List.replicate (n + 2) (.scalar '-'))
  | arrow (n : Nat) : IsStroke (List.replicate (n + 1) (.scalar '-') ++ Text.ofString "->")
  | thick (n : Nat) : IsStroke (List.replicate (n + 1) (.scalar '=') ++ Text.ofString "=>")
  | dotted (n : Nat) :
      IsStroke (Text.ofString "-" ++ List.replicate (n + 1) (.scalar '.') ++ Text.ofString "->")

/-- A label that may stand inside a stroke. -/
structure IsInside (form : Around) (label : Text) : Prop where
  ne : label ≠ []
  not_blank : ∀ c ∈ label.head?, c.isBlank = false
  first : ∀ mark ∈ form.notFirst, label.head? ≠ some (.scalar mark)
  no_bar : .scalar '|' ∉ label
  no_head : .scalar '>' ∉ label

/-- A stroke around a label, or one without, perhaps with a label between bars behind it. -/
inductive IsConnector : Text → Prop
  | around (form : Around) {before label after : Text} (hbefore : Blank before)
      (hlabel : IsInside form label) (hafter : Blank after) :
      IsConnector
        (Text.ofString form.opening ++ before ++ label ++ after ++ Text.ofString form.closing)
  | bare {stroke : Text} (hstroke : IsStroke stroke) : IsConnector stroke
  | barred {stroke gap label : Text} (hstroke : IsStroke stroke) (hgap : Blank gap)
      (hlabel : .scalar '|' ∉ label) :
      IsConnector (stroke ++ (gap ++ .scalar '|' :: label ++ [.scalar '|']))

/-- The beginning of a line with a link, up to the first character of the second node. -/
inductive BeginsLink : Text → Prop
  | intro {spot before connector after : Text} {next : CodePoint} (hspot : IsSpot spot)
      (hbefore : Blank before) (hconnector : IsConnector connector) (hafter : Blank after)
      (hnext : next.isWord = true) :
      BeginsLink (spot ++ before ++ connector ++ after ++ [next])

/-- A line that declares a node. -/
inductive Declares : Text → Node → Prop
  | intro {name label gap ending : Text} {kind : ContainerKind} (hname : IsName name)
      (hlabel : .scalar (closing kind) ∉ label) (hgap : Blank gap)
      (hending : ending = [] ∨ ending = [.scalar ';']) :
      Declares (name ++ bracketed kind label ++ gap ++ ending)
        ⟨name, (shown? label).getD name, .known kind⟩

/-- The longest name with which a line begins. -/
def LeadsWith (line name : Text) : Prop :=
  IsName name ∧ ∃ more, line = name ++ more ∧ ∀ c ∈ more.head?, c.isWord = false

theorem blank_nil : Blank [] := by
  rintro c ⟨⟩

/-- What is skipped is blank. -/
theorem exists_skipped (t : Text) : ∃ b, Blank b ∧ t = b ++ t.skipBlanks :=
  ⟨t.takeWhile CodePoint.isBlank, fun c hc => List.all_eq_true.mp List.all_takeWhile c hc,
    List.takeWhile_append_dropWhile.symm⟩

/-- A text begins with all that it can of one character. -/
theorem eq_replicate_append (c : CodePoint) (t : Text) :
    t = List.replicate (t.takeWhile (· = c)).length c ++ t.dropWhile (· = c) := by
  have hrun : ∀ d ∈ t.takeWhile (· = c), d = c := by
    intro d hd
    exact of_decide_eq_true (List.all_eq_true.mp List.all_takeWhile d hd)
  rw [← List.eq_replicate_of_mem hrun, List.takeWhile_append_dropWhile]

theorem replicate_append_cons (c : CodePoint) (n : Nat) (t : Text) :
    List.replicate n c ++ c :: t = List.replicate (n + 1) c ++ t := by
  rw [List.replicate_succ', List.append_assoc, List.singleton_append]

theorem eq_append_of_after? {s : Text} (h : Text.after? s t = some rest) : t = s ++ rest := by
  induction s generalizing t with
  | nil => exact Option.some.inj h
  | cons c s ih =>
    cases t with
    | nil => cases h
    | cons d t =>
      rw [Text.after?] at h
      split at h
      · rename_i hcd
        rw [hcd, ih h, List.cons_append]
      · cases h

/-- The mark that ends a text is the first one in it. -/
theorem eq_append_of_before? {mark : Char} {label : Text}
    (h : Text.before? mark t = some (label, rest)) :
    .scalar mark ∉ label ∧ t = label ++ .scalar mark :: rest := by
  induction t generalizing label with
  | nil => cases h
  | cons c t ih =>
    rw [Text.before?] at h
    split at h
    · rename_i hc
      cases h
      exact ⟨List.not_mem_nil, by rw [hc, List.nil_append]⟩
    · rename_i hc
      obtain ⟨r, hr, heq⟩ := Option.map_eq_some_iff.mp h
      obtain ⟨rfl, rfl⟩ := Prod.mk.inj heq
      obtain ⟨hmark, ht⟩ := ih hr
      refine ⟨fun hmem => ?_, by rw [List.cons_append, ← ht]⟩
      rcases List.mem_cons.mp hmem with hmem | hmem
      · exact hc hmem.symm
      · exact hmark hmem

theorem bracketOf?_eq_some {c mark : Char} {kind : ContainerKind}
    (h : bracketOf? c = some (mark, kind)) : c = opening kind ∧ mark = closing kind := by
  unfold bracketOf? at h
  split at h <;> cases h
  all_goals exact ⟨rfl, rfl⟩

/-- What is read as a bracket is one. -/
theorem eq_append_of_bracket? {kind : ContainerKind} {label : Text}
    (h : bracket? t = some ((kind, label), rest)) :
    .scalar (closing kind) ∉ label ∧ t = bracketed kind label ++ rest := by
  unfold bracket? at h
  split at h
  · obtain ⟨⟨mark, _⟩, hmark, hread⟩ := Option.bind_eq_some_iff.mp h
    obtain ⟨r, hr, heq⟩ := Option.map_eq_some_iff.mp hread
    cases heq
    obtain ⟨rfl, rfl⟩ := bracketOf?_eq_some hmark
    obtain ⟨hlabel, rfl⟩ := eq_append_of_before? hr
    exact ⟨hlabel, by simp [bracketed]⟩
  · cases h

/-- What the reader takes for a node is one, and it takes all of its name. -/
theorem eq_append_of_mention? {m : Mention} (h : mention? t = some (m, rest)) :
    LeadsWith t m.id ∧
      ((m.bracket = none ∧ t = m.id ++ rest) ∨
        ∃ kind label, m.bracket = some (kind, label) ∧ .scalar (closing kind) ∉ label ∧
          t = m.id ++ (bracketed kind label ++ rest)) := by
  have hsplit := List.takeWhile_append_dropWhile (p := CodePoint.isWord) (l := t)
  have hname := named_of_mention? h
  have hmore : ∀ c ∈ (t.dropWhile CodePoint.isWord).head?, c.isWord = false := by
    intro c hc
    have hnot := List.head?_dropWhile_not CodePoint.isWord t
    rw [hc] at hnot
    exact hnot
  simp only [mention?] at h
  split at h
  · cases h
  · split at h
    · rename_i b after hb
      cases h
      obtain ⟨hlabel, htail⟩ := eq_append_of_bracket? hb
      refine ⟨⟨⟨hname.ne, hname.word⟩, _, hsplit.symm, hmore⟩, .inr ⟨b.1, b.2, rfl, hlabel, ?_⟩⟩
      rw [← htail, hsplit]
    · cases h
      exact ⟨⟨⟨hname.ne, hname.word⟩, _, hsplit.symm, hmore⟩, .inl ⟨rfl, hsplit.symm⟩⟩

/-- What is read as a mention is written as one. -/
theorem isSpot_of_mention? {m : Mention} (h : mention? t = some (m, rest)) :
    ∃ spot, IsSpot spot ∧ t = spot ++ rest := by
  obtain ⟨⟨hname, -⟩, ⟨-, ht⟩ | ⟨kind, label, -, hlabel, ht⟩⟩ := eq_append_of_mention? h
  · exact ⟨m.id, .bare hname, ht⟩
  · exact ⟨_, .labelled hname hlabel, by rw [List.append_assoc, ht]⟩

/-- What is written as one is read, up to where it stops. -/
theorem mention?_of_isSpot {spot : Text} (hspot : IsSpot spot) (hrest : Stops rest) :
    ∃ m, mention? (spot ++ rest) = some (m, rest) := by
  cases hspot with
  | bare hname => exact ⟨_, mention?_of_stops hname.ne hname.word hrest⟩
  | labelled hname hlabel =>
    rw [List.append_assoc]
    exact ⟨_, mention?_of_bracketed hname.ne hname.word hlabel rest⟩

theorem names_of_mention? {m : Mention} (h : mention? t = some (m, rest)) : Names t := by
  obtain ⟨⟨hname, more, ht, -⟩, -⟩ := eq_append_of_mention? h
  obtain ⟨c, name, hid⟩ := List.exists_cons_of_ne_nil hname.ne
  refine ⟨c, name ++ more, by rw [ht, hid, List.cons_append], hname.word c ?_⟩
  rw [hid]
  exact List.mem_cons_self

/-- A word is enough for a mention. -/
theorem isSome_mention? (ht : Names t) : (mention? t).isSome = true := by
  obtain ⟨c, more, rfl, hc⟩ := ht
  rw [mention?, List.takeWhile_cons_of_pos hc, List.dropWhile_cons_of_pos hc]
  simp only [List.isEmpty_cons, Bool.false_eq_true, if_false]
  split <;> rfl

/-- What is read as a stroke is one. -/
theorem isStroke_of_bareStroke? (h : bareStroke? t = some rest) :
    ∃ stroke, IsStroke stroke ∧ t = stroke ++ rest := by
  have hdashes := eq_replicate_append (.scalar '-') t
  simp only [bareStroke?] at h
  split at h
  · have hequals := eq_replicate_append (.scalar '=') t
    split at h
    · rename_i hlength
      obtain ⟨n, hn⟩ := Nat.exists_eq_add_of_le' hlength
      refine ⟨_, .thick n, ?_⟩
      rw [hn, eq_append_of_after? h] at hequals
      rw [hequals, List.append_assoc]
      exact (replicate_append_cons (.scalar '=') (n + 1) _).symm
    · cases h
  · rename_i hlength
    have hdots := eq_replicate_append (.scalar '.') (t.dropWhile (· = .scalar '-'))
    split at h
    · cases h
    · rename_i hne
      have hpos := List.length_pos_iff.mpr (mt List.isEmpty_iff.mpr hne)
      obtain ⟨n, hn⟩ := Nat.exists_eq_add_of_le' hpos
      refine ⟨_, .dotted n, ?_⟩
      rw [hn, eq_append_of_after? h] at hdots
      rw [hlength, hdots] at hdashes
      rw [hdashes, List.append_assoc, List.append_assoc]
      rfl
  · rename_i n hlength
    split at h
    · rename_i after hafter
      cases h
      refine ⟨_, .arrow n, ?_⟩
      rw [hlength, hafter] at hdashes
      rw [hdashes, List.append_assoc]
      exact (replicate_append_cons (.scalar '-') (n + 1) _).symm
    · cases h
      refine ⟨_, .dashes n, ?_⟩
      rwa [hlength] at hdashes

/-- A stroke is read as far as it goes. -/
theorem bareStroke?_of_isStroke {stroke : Text} (hstroke : IsStroke stroke) (ht : Ends t) :
    bareStroke? (stroke ++ t) = some t := by
  cases hstroke with
  | dashes n => exact bareStroke?_dashes n ht
  | arrow n =>
    rw [List.append_assoc]
    have hplain := bareStroke?_text .arrow n ht
    rw [Plain.text, List.append_assoc, ← replicate_append_cons] at hplain
    exact hplain
  | thick n =>
    have hplain := bareStroke?_text .thick n ht
    rw [Plain.text, List.append_assoc, ← replicate_append_cons] at hplain
    rw [List.append_assoc]
    exact hplain
  | dotted n => exact bareStroke?_text .dotted n ht

/-- A label between bars is read, or nothing is. -/
theorem barLabel_cases (t : Text) :
    (barLabel t).2 = t ∨ ∃ gap label, Blank gap ∧ .scalar '|' ∉ label ∧
      t = gap ++ .scalar '|' :: label ++ [.scalar '|'] ++ (barLabel t).2 := by
  unfold barLabel
  split
  · rename_i rest hrest
    obtain ⟨gap, hgap, ht⟩ := exists_skipped t
    split
    · rename_i label after hbefore
      obtain ⟨hlabel, hafter⟩ := eq_append_of_before? hbefore
      refine .inr ⟨gap, label, hgap, hlabel, ?_⟩
      rw [hrest, hafter] at ht
      simpa using ht
    · exact .inl rfl
  · exact .inl rfl

/-- Nothing in a label ends it before its end. -/
theorem IsInside.not_endsLabel {form : Around} {label after : Text} (hlabel : IsInside form label)
    (hafter : Blank after) : ∀ c ∈ label ++ after, endsLabel c = false := by
  intro c hc
  rcases List.mem_append.mp hc with hc | hc
  · refine endsLabel_eq_false.mpr ⟨?_, ?_⟩
    · rintro rfl
      exact hlabel.no_bar hc
    · rintro rfl
      exact hlabel.no_head hc
  · exact endsLabel_eq_false.mpr ⟨CodePoint.ne_mark_of_isBlank (by decide) (hafter c hc),
      CodePoint.ne_mark_of_isBlank (by decide) (hafter c hc)⟩

theorem IsInside.head {form : Around} {label : Text} (hlabel : IsInside form label) :
    ∀ c ∈ label.head?, c.isBlank = false ∧ c ∉ form.notFirst.map .scalar := by
  intro c hc
  refine ⟨hlabel.not_blank c hc, fun hmark => ?_⟩
  obtain ⟨mark, hfirst, rfl⟩ := List.mem_map.mp hmark
  exact hlabel.first mark hfirst hc

/-- A text in which nothing ends a label is one, if it begins like one. -/
theorem isInside_of_free {form : Around} {first : CodePoint} {more : Text}
    (hblank : first.isBlank = false) (hfirst : first ∉ form.notFirst.map .scalar)
    (hfree : ∀ c ∈ first :: more, endsLabel c = false) : IsInside form (first :: more) where
  ne := List.cons_ne_nil first more
  not_blank := by
    rintro c ⟨⟩
    exact hblank
  first := by
    intro mark hmark hhead
    obtain rfl := Option.some.inj hhead
    exact hfirst (List.mem_map_of_mem hmark)
  no_bar := fun hbar => (endsLabel_eq_false.mp (hfree _ hbar)).1 rfl
  no_head := fun hhead => (endsLabel_eq_false.mp (hfree _ hhead)).2 rfl

/-- What stands before the first head of an arrow is a label and the rest of the closing mark. -/
theorem split_before_head {form : Around} {t label : Text}
    (h : label ++ form.stroke.closing = t.takeWhile (fun c => !endsLabel c) ++ [.scalar '>']) :
    ∃ stem, Text.ofString form.closing = stem ++ [.scalar '>'] ∧
      t.takeWhile (fun c => !endsLabel c) = label ++ stem ∧ ∀ c ∈ label, endsLabel c = false := by
  obtain ⟨stem, hstem, -⟩ := exists_stem form
  have hclosing : form.stroke.closing = stem ++ [.scalar '>'] := hstem
  rw [hclosing, ← List.append_assoc] at h
  have hstart := (List.append_cancel_right h).symm
  refine ⟨stem, hstem, hstart, fun c hc => ?_⟩
  have hall := List.all_eq_true.mp (List.all_takeWhile (p := fun c => !endsLabel c) (l := t)) c
  rw [hstart] at hall
  exact (Bool.not_eq_true' _).mp (hall (List.mem_append_left stem hc))

/-- A label that is read inside a stroke stands between its ends. -/
theorem isConnector_of_read? {form : Around} {label : Text}
    (h : form.stroke.read? t = some (label, rest)) :
    ∃ connector, IsConnector connector ∧ t = connector ++ rest := by
  obtain ⟨opened, hopened, h⟩ := Option.bind_eq_some_iff.mp h
  obtain ⟨before, hbefore, hsplit⟩ := exists_skipped opened
  have hrun := List.takeWhile_append_dropWhile (p := fun c => !endsLabel c)
    (l := Text.skipBlanks opened)
  simp only at h
  split at h
  · rename_i after hafter
    split at h
    · rename_i first more hsuffix
      split at h
      · cases h
      · rename_i hfirst
        cases h
        obtain ⟨stem, hstem, hstart, hfree⟩ :=
          split_before_head (List.isSuffixOf?_eq_some_iff_append_eq.mp hsuffix)
        rw [hafter, hstart] at hrun
        have hblank := Text.head_skipBlanks opened first (by rw [← hrun]; rfl)
        refine ⟨_, .around form hbefore (isInside_of_free hblank hfirst hfree) blank_nil, ?_⟩
        rw [eq_append_of_after? hopened, hsplit, ← hrun, hstem]
        simp [Around.stroke]
    · cases h
  · cases h

/-- Each way to read a stroke takes a connector. -/
theorem isConnector_of_mem_strokes {s : Option Text × Text} (hs : s ∈ strokes t) :
    ∃ connector, IsConnector connector ∧ t = connector ++ s.2 := by
  rw [strokes, List.mem_append] at hs
  rcases hs with hs | hs
  · obtain ⟨stroke, hstroke, hread⟩ := List.mem_filterMap.mp hs
    obtain ⟨r, hr, rfl⟩ := Option.map_eq_some_iff.mp hread
    rw [all_strokes] at hstroke
    simp only [List.mem_cons, List.not_mem_nil, or_false] at hstroke
    rcases hstroke with rfl | rfl | rfl
    all_goals exact isConnector_of_read? hr
  · obtain ⟨after, hafter, rfl⟩ := List.mem_map.mp hs
    obtain ⟨stroke, hstroke, rfl⟩ := isStroke_of_bareStroke? (Option.mem_toList.mp hafter)
    rcases barLabel_cases after with hnone | ⟨gap, label, hgap, hlabel, hbars⟩
    · exact ⟨stroke, .bare hstroke, by rw [hnone]⟩
    · refine ⟨_, .barred hstroke hgap hlabel, ?_⟩
      rw [List.append_assoc, ← hbars]

/-- A connector with a label in it is tried as such. -/
theorem mem_strokes_of_read? {form : Around} {label : Text}
    (h : form.stroke.read? t = some (label, rest)) : (some label, rest) ∈ strokes t := by
  have hform : form.stroke ∈ LabelledStroke.all := by
    rw [all_strokes]
    cases form <;> simp
  exact List.mem_append_left _ (List.mem_filterMap.mpr ⟨form.stroke, hform, by rw [h]; rfl⟩)

/-- A connector can always be tried without a label in it. -/
theorem mem_strokes_of_isStroke {stroke : Text} (hstroke : IsStroke stroke) (ht : Ends t) :
    barLabel t ∈ strokes (stroke ++ t) := by
  have hread := bareStroke?_of_isStroke hstroke ht
  exact List.mem_append_right _ (List.mem_map.mpr ⟨t, Option.mem_toList.mpr hread, rfl⟩)

/-- Each connector is taken by one of the ways to read a stroke. -/
theorem exists_mem_strokes {connector after : Text} (hconnector : IsConnector connector)
    (hafter : Blank after) (hrest : Names rest) :
    ∃ label, (label, after ++ rest) ∈ strokes (connector ++ (after ++ rest)) := by
  cases hconnector with
  | around form hbefore hlabel hgap =>
    have hfree := hlabel.not_endsLabel hgap
    exact ⟨_, mem_strokes_of_read? (read?_of_inside hbefore hlabel.ne hlabel.head hfree _)⟩
  | bare hstroke =>
    have hmem := mem_strokes_of_isStroke hstroke (ends_append_of_blanks hafter hrest.ends)
    rw [barLabel_of_head] at hmem
    · exact ⟨none, hmem⟩
    · rw [hrest.skipBlanks_append hafter]
      exact hrest.ne_mark (by decide)
  | @barred stroke gap label hstroke hgap hlabel =>
    have hends : Ends (gap ++ .scalar '|' :: label ++ [.scalar '|'] ++ (after ++ rest)) := by
      rw [List.append_assoc, List.append_assoc]
      refine ends_append_of_blanks hgap ?_
      rintro c ⟨⟩
      decide
    have hmem := mem_strokes_of_isStroke hstroke hends
    rw [barLabel_of_bars hgap hlabel, ← List.append_assoc] at hmem
    exact ⟨some label, hmem⟩

/-- Connectors begin with a dash or an equals sign. -/
theorem head_of_isConnector {connector : Text} (hconnector : IsConnector connector) :
    ∃ mark more, connector = .scalar mark :: more ∧ (mark = '-' ∨ mark = '=') := by
  have hstroke : ∀ {stroke : Text}, IsStroke stroke →
      ∃ mark more, stroke = .scalar mark :: more ∧ (mark = '-' ∨ mark = '=') := by
    intro stroke h
    cases h with
    | dashes n | arrow n | dotted n => exact ⟨'-', _, rfl, .inl rfl⟩
    | thick n => exact ⟨'=', _, rfl, .inr rfl⟩
  cases hconnector with
  | around form _ _ _ =>
    cases form with
    | dashes | dots => exact ⟨'-', _, rfl, .inl rfl⟩
    | equals => exact ⟨'=', _, rfl, .inr rfl⟩
  | bare h => exact hstroke h
  | barred h _ _ =>
    obtain ⟨mark, more, rfl, hmark⟩ := hstroke h
    exact ⟨mark, _, rfl, hmark⟩

/-- A text that leads on from a node to another one. -/
inductive LeadsOn : Text → Prop
  | intro {before connector after rest : Text} (hbefore : Blank before)
      (hconnector : IsConnector connector) (hafter : Blank after) (hrest : Names rest) :
      LeadsOn (before ++ (connector ++ (after ++ rest)))

/-- What is read as a link is written as one. -/
theorem leadsOn_of_link? {l : Link} (h : link? t = some (l, rest)) : LeadsOn t := by
  obtain ⟨s, hs, hread⟩ := List.exists_of_findSome?_eq_some h
  obtain ⟨r, hr, -⟩ := Option.map_eq_some_iff.mp hread
  obtain ⟨before, hbefore, ht⟩ := exists_skipped t
  obtain ⟨after, hafter, hs₂⟩ := exists_skipped s.2
  obtain ⟨connector, hconnector, hsplit⟩ := isConnector_of_mem_strokes hs
  rw [hsplit, hs₂] at ht
  rw [ht]
  exact .intro hbefore hconnector hafter (names_of_mention? hr)

/-- Where a text leads on a link is read, if not always the one that was meant. -/
theorem LeadsOn.isSome_link? (h : LeadsOn t) : (link? t).isSome = true := by
  obtain ⟨hbefore, hconnector, hafter, hrest⟩ := h
  obtain ⟨mark, more, hhead, hmark⟩ := head_of_isConnector hconnector
  obtain ⟨label, hmem⟩ := exists_mem_strokes hconnector hafter hrest
  rw [link?, Text.skipBlanks_append hbefore, Text.skipBlanks_of_head, List.isSome_findSome?,
    List.any_eq_true]
  · refine ⟨_, hmem, ?_⟩
    rw [Option.isSome_map, hrest.skipBlanks_append hafter]
    exact isSome_mention? hrest
  · rw [hhead]
    rintro c ⟨⟩
    rcases hmark with rfl | rfl <;> decide

/-- No word goes on where a link begins. -/
theorem LeadsOn.stops (h : LeadsOn t) : Stops t := by
  obtain ⟨hbefore, hconnector, -, -⟩ := h
  obtain ⟨mark, more, rfl, hmark⟩ := head_of_isConnector hconnector
  refine stops_append_of_blanks hbefore (stops_mark ?_ _)
  rcases hmark with rfl | rfl
  · exact .inl rfl
  · exact .inr (.inl rfl)

/-- There are links where the first one can be read. -/
theorem links_eq_nil_iff : links t = [] ↔ ¬ LeadsOn t := by
  constructor
  · intro hnil h
    obtain ⟨⟨l, rest⟩, hl⟩ := Option.isSome_iff_exists.mp h.isSome_link?
    rw [links_of_some hl] at hnil
    cases hnil
  · intro h
    cases hl : link? t with
    | none => exact links_of_none hl
    | some l => exact (h (leadsOn_of_link? hl)).elim

/-- A line begins a link where its first node leads on. -/
theorem beginsLink_iff :
    (∃ start, start <+: t ∧ BeginsLink start) ↔
      ∃ m rest, mention? t = some (m, rest) ∧ LeadsOn rest := by
  constructor
  · rintro ⟨_, ⟨more, rfl⟩, hstart⟩
    obtain ⟨hspot, hbefore, hconnector, hafter, hnext⟩ := hstart
    rename_i spot before connector after next
    have hon : LeadsOn (before ++ (connector ++ (after ++ next :: more))) :=
      .intro hbefore hconnector hafter ⟨next, more, rfl, hnext⟩
    obtain ⟨m, hm⟩ := mention?_of_isSpot hspot hon.stops
    refine ⟨m, _, ?_, hon⟩
    rw [← hm]
    simp
  · rintro ⟨m, _, hm, hon⟩
    obtain ⟨spot, hspot, rfl⟩ := isSpot_of_mention? hm
    obtain ⟨hbefore, hconnector, hafter, next, more, rfl, hnext⟩ := hon
    refine ⟨_, ⟨more, ?_⟩, .intro hspot hbefore hconnector hafter hnext⟩
    simp

end Easel.Grammar
