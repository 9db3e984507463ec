import Easel.Proofs.Gateway.Requests

/-! What a posted request comes to: its body goes to the endpoint of its path, and the answer gets
headers for pages of other origins. -/
namespace Easel

/-- A request that posts a body to a path. -/
structure Request.Posts (r : Request) (path : String) : Prop where
  method : r.method = "POST"
  path : r.path = path

theorem readBody_of_object {room : Nat} {body : List UInt8} {fields : Fields}
    (h : Json.ofBytes room body = .ok (.object fields)) : readBody room body = .ok fields := by
  rw [readBody, h]

namespace Gateway

variable {g : Gateway} {r : Request} {e : Endpoint} {x : Gateway × Response} {path : String}

/-- What an endpoint for posting makes of a body. -/
def posted? (g : Gateway) (body : List UInt8) : Endpoint → Option (Gateway × Response)
  | .draw => some (g.draw body)
  | .drawMermaid => some (g.drawMermaid body)
  | .auto => some (g.auto body)
  | .clear => some g.clear
  | .replaceScene => some (g.replaceScene body)
  | .health | .exportScene => none

/-- A request to an endpoint that changes something is answered by it. -/
theorem dispatch_of_posted (hd : destination r.method r.path = .endpoint e)
    (hx : g.posted? r.body e = some x) : g.dispatch r = (x.1, some x.2) := by
  unfold dispatch
  rw [hd]
  cases e with
  | draw | drawMermaid | auto | clear | replaceScene =>
    obtain rfl := Option.some.inj hx
    rfl
  | health | exportScene => cases hx

/-- A request that is posted to an endpoint is answered by it. -/
theorem answer_of_posted (hr : r.Posts path) (hd : destination "POST" path = .endpoint e)
    (hx : g.posted? r.body e = some x) :
    g.answer r = (x.1, { x.2 with headers := x.2.headers ++ x.1.cors.headersFor r }) := by
  have hpreflight : Cors.isPreflight r = false := by
    simp [Cors.isPreflight, hr.method]
  have hdest : destination r.method r.path = .endpoint e := by
    rw [hr.method, hr.path, hd]
  rw [answer, hpreflight, dispatch_of_posted hdest hx]
  rfl

end Gateway

end Easel
