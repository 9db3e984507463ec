import Easel.Gateway.Http

/-! Which pages of other origins may use the gateway. -/
namespace Easel

/-- The origins that may; an asterisk stands for all of them. -/
structure Cors where
  origins : List String := ["*"]

namespace Cors

def allowsAll (c : Cors) : Bool := c.origins.contains "*"

def allows (c : Cors) (origin : String) : Bool := c.allowsAll || c.origins.contains origin

def methods : List String := ["DELETE", "GET", "HEAD", "OPTIONS", "PATCH", "POST", "PUT", "QUERY"]

/-- A browser asks ahead whether a request would be allowed. -/
def isPreflight (r : Request) : Bool :=
  r.method = "OPTIONS" && (r.headers.value? "origin").isSome &&
    (r.headers.value? "access-control-request-method").isSome

/-- What is not allowed of a request that is announced. That it concerns a private network is an
objection however this is put. -/
def objections (c : Cors) (r : Request) : List String :=
  (match r.headers.value? "origin" with
    | some o => if c.allows o then [] else ["origin"]
    | none => []) ++
  (match r.headers.value? "access-control-request-method" with
    | some m => if methods.contains m then [] else ["method"]
    | none => []) ++
  (if (r.headers.value? "access-control-request-private-network").isSome then
    ["private-network"]
  else [])

/-- The origin that an answer names: an asterisk where all may, else the page's own if it may. -/
def originHeader (c : Cors) (origin : String) : Headers :=
  if c.allowsAll then [("access-control-allow-origin", "*")]
  else if c.allows origin then [("access-control-allow-origin", origin)]
  else []

def preflight (c : Cors) (r : Request) : Response :=
  let headers : Headers :=
    [("vary", "Origin, Access-Control-Request-Method, Access-Control-Request-Headers, " ++
        "Access-Control-Request-Private-Network"),
     ("access-control-allow-methods", String.intercalate ", " methods),
     ("access-control-max-age", "600")] ++
    c.originHeader ((r.headers.value? "origin").getD "") ++
    (match r.headers.value? "access-control-request-headers" with
      | some wanted => [("access-control-allow-headers", wanted)]
      | none => [])
  match c.objections r with
  | [] => ⟨200, .text "OK", headers⟩
  | os => ⟨400, .text ("Disallowed CORS " ++ String.intercalate ", " os), headers⟩

/-- The headers that allow a page to read the answer. -/
def headersFor (c : Cors) (r : Request) : Headers :=
  ((r.headers.value? "origin").elim [] c.originHeader) ++ [("vary", "Origin")]

end Cors

end Easel
