import Easel.LogLine
import Easel.Scene.Push

/-! What is worth a line in the log while clients come, go and talk. -/
namespace Easel

inductive Notice where
  | connected (name : String) (total : Nat)
  | disconnected (name : String) (total : Nat)
  | behind (name : String) (messages : Nat)
  | sendFailed (name : String)
  | refused (name : String) (why : Refusal)

def Notice.line? : Notice → Option LogLine
  | connected name total => some ⟨.info, s!"Client {name} connected ({total} total)"⟩
  | disconnected name total => some ⟨.info, s!"Client {name} disconnected ({total} total)"⟩
  | behind name messages =>
    some ⟨.warning, s!"Client {name} is {messages} messages behind, marking connection dead"⟩
  | sendFailed name => some ⟨.info, s!"Send to {name} failed, marking connection dead: gone"⟩
  | refused _ (.unreadable (.tooDeep _)) => none
  | refused name (.unreadable e) =>
    some ⟨.warning, s!"Dropping invalid message from {name}: {e.message}"⟩
  | refused name .notObject => some ⟨.warning, s!"Dropping non-object message from {name}"⟩
  | refused name .noElements =>
    some ⟨.warning, s!"Dropping scene:update without an elements list from {name}"⟩
  | refused name .badAppState =>
    some ⟨.warning, s!"Dropping scene:update with non-object appState from {name}"⟩
  | refused _ .otherType => none

end Easel
