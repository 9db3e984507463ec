import Easel.Element.OfShape
import Easel.Shape.Descriptor
import Std.Data.HashMap

/-! Compiling many shapes at once. Elements to which arrows of the batch are attached refer back
to these arrows. -/
namespace Easel

/-- The elements of each shape in turn. -/
def elementsOf : List Shape → IdSupply → List Element × IdSupply
  | [], ids => ([], ids)
  | s :: shapes, ids =>
    let (es, ids) := s.elements ids
    let (rest, ids) := elementsOf shapes ids
    (es ++ rest, ids)

/-- Adds a dependent, unless it is there. -/
def Element.depend (e : Element) (d : Dependent) : Element :=
  if d ∈ e.dependents then e else { e with dependents := e.dependents ++ [d] }

/-- The place of the last element with an id. -/
def lastWithId? (id : Text) : List Element → Option Nat
  | [] => none
  | e :: es =>
    match lastWithId? id es with
    | some i => some (i + 1)
    | none => if e.id = id then some 0 else none

/-- The place of the last element with each id. -/
def lastPlaces (es : List Element) : Std.HashMap Text Nat :=
  es.zipIdx.foldl (fun places e => places.insert e.1.id e.2) ∅

theorem getElem?_lastPlaces (es : List Element) (id : Text) :
    (lastPlaces es)[id]? = lastWithId? id es := by
  have h : ∀ (es : List Element) (n : Nat) (places : Std.HashMap Text Nat),
      ((es.zipIdx n).foldl (fun places e => places.insert e.1.id e.2) places)[id]? =
        ((lastWithId? id es).map (· + n)).or places[id]? := by
    intro es
    induction es with
    | nil => intro n places; simp [lastWithId?]
    | cons e es ih =>
      intro n places
      rw [List.zipIdx_cons, List.foldl_cons, ih, Std.HashMap.getElem?_insert, lastWithId?]
      cases lastWithId? id es with
      | some i => simp; omega
      | none => by_cases he : e.id = id <;> simp [he]
  simpa [lastPlaces] using h es 0 ∅

/-- One end of an arrow: the arrow's place and id, and the id to which it is attached. -/
structure ArrowEnd where
  place : Nat
  arrow : Text
  target : Text

def arrowEnds (es : List Element) : List ArrowEnd :=
  es.zipIdx.flatMap fun (e, place) => e.attachments.map fun target => ⟨place, e.id, target⟩

/-- Refers the target back to the arrow; `places` tells where it is. Targets outside the batch are
left alone, and no arrow refers to itself. -/
def referBack (places : Std.HashMap Text Nat) (es : List Element) (r : ArrowEnd) : List Element :=
  match places[r.target]? with
  | none => es
  | some place => if place = r.place then es else es.modify place (·.depend ⟨true, r.arrow⟩)

def registerArrows (es : List Element) : List Element :=
  let places := lastPlaces es
  (arrowEnds es).foldl (referBack places) es

/-- The elements of a batch of shapes. -/
def compileShapes (shapes : List Shape) (ids : IdSupply) : List Element × IdSupply :=
  let (es, ids) := elementsOf shapes ids
  (registerArrows es, ids)

/-- Reads all descriptors before it builds the first element. -/
def compileDescriptors (raws : List Json) (ids : IdSupply) :
    Except InvalidShape (List Element × IdSupply) :=
  (Shape.ofDescriptors 0 raws).map (compileShapes · ids)

/-- The places of the descriptors of unsupported kinds. -/
def skippedPlaces (raws : List Json) : List Nat :=
  (raws.zipIdx.filter fun r => r.1.describedKind?.isNone).map (·.2)

end Easel
