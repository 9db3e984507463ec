import Easel.Json.Reader
import Easel.Scene.Basic

/-! What clients send: a push replaces the scene, and everything else is dropped. -/
namespace Easel

/-- Why a message from a client does not change the scene. -/
inductive Refusal where
  | unreadable (e : Json.ReadError)
  | notObject
  | otherType
  | noElements
  | badAppState

/-- Why the call breaks off, if it does and the message is not just dropped. -/
def Refusal.breaksOff? : Refusal → Option Json.Limit
  | unreadable (.tooDeep innermost) => some (.readDepth innermost)
  | _ => none

/-- The view in a push: none, or an object. -/
def pushedAppState? : Option Json → Option (Option Fields)
  | none | some .null => some none
  | some (.object fields) => some (some fields)
  | some _ => none

/-- The scene in the payload of an update. -/
def pushedScene (payload : Option Json) : Except Refusal Scene :=
  match payload with
  | some (.object p) =>
    match Fields.get? p "elements" with
    | some (.array elements) =>
      match pushedAppState? (Fields.get? p "appState") with
      | some appState => .ok (.ofParts elements appState)
      | none => .error .badAppState
    | _ => .error .noElements
  | _ => .error .noElements

/-- The scene that a message pushes. -/
def Scene.ofPush (room : Nat) (raw : Text) : Except Refusal Scene :=
  match Json.parseMarked room raw with
  | .error e => .error (.unreadable e)
  | .ok (.object message) =>
    match Fields.get? message "type" with
    | some (.string t) =>
      if t = Text.ofString "scene:update" then pushedScene (Fields.get? message "payload")
      else .error .otherType
    | _ => .error .otherType
  | .ok _ => .error .notObject

end Easel
