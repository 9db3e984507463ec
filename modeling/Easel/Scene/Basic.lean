import Easel.Json.Writer

/-! The scene that all clients share, and the messages that carry it. -/
namespace Easel

structure Scene where
  elements : List Json := []
  /-- What the view keeps beside the elements; it is passed on as it is. -/
  appState : Fields := []

namespace Scene

def append (s : Scene) (elements : List Json) : Scene :=
  { s with elements := s.elements ++ elements }

/-- New elements in the same view. -/
def withElements (s : Scene) (elements : List Json) : Scene := { s with elements := elements }

/-- A new scene; its view is empty unless one is given. -/
def ofParts (elements : List Json) (appState : Option Fields) : Scene :=
  ⟨elements, appState.getD []⟩

def isEmpty (s : Scene) : Bool := s.elements.isEmpty

def toJson (s : Scene) : Json :=
  .record [("elements", .array s.elements), ("appState", .object s.appState)]

/-- What a message of the given type says. -/
def envelope (s : Scene) (type : String) : Json :=
  .record [("type", .ofString type), ("payload", s.toJson)]

/-- A message of the given type that carries the scene, unless it is beyond the limits of the
writer. -/
def message (s : Scene) (type : String) (room : Nat) : Except Json.Limit Text :=
  (s.envelope type).render? room

/-- The first message to a client. -/
def initMessage (s : Scene) (room : Nat) : Except Json.Limit Text := s.message "scene:init" room

/-- The message about a change; clients send the same to push their own. -/
def updateMessage (s : Scene) (room : Nat) : Except Json.Limit Text := s.message "scene:update" room

variable {s : Scene} {room : Nat} {t : Text}

theorem initMessage_eq_ok_iff : s.initMessage room = .ok t ↔
    (s.envelope "scene:init").obstacle? room = none ∧ (s.envelope "scene:init").render = t :=
  Json.render?_eq_ok_iff

theorem updateMessage_eq_ok_iff : s.updateMessage room = .ok t ↔
    (s.envelope "scene:update").obstacle? room = none ∧ (s.envelope "scene:update").render = t :=
  Json.render?_eq_ok_iff

end Scene

end Easel
