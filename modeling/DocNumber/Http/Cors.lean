import DocNumber.Http.Message

/-!
Requests from other origins. Where origins are configured, a preflight is answered at once, and
any other response to a request that names its origin says whether that origin is allowed.
-/

namespace DocNumber.Http

structure Cors where
  origins : List String

namespace Cors

def allowsAll (c : Cors) : Bool :=
  c.origins.contains "*"

def allows (c : Cors) (origin : String) : Bool :=
  c.allowsAll || c.origins.contains origin

def methods : List String :=
  ["DELETE", "GET", "HEAD", "OPTIONS", "PATCH", "POST", "PUT"]

def credentials : String × String :=
  ("access-control-allow-credentials", "true")

def allowed (origin : String) : String × String :=
  ("access-control-allow-origin", origin)

def preflight (c : Cors) (origin method : String) : Response :=
  let grant := if c.allows origin then [allowed origin] else []
  let refused :=
    (if c.allows origin then [] else ["origin"]) ++
      (if methods.contains method then [] else ["method"])
  let headers := grant ++ [credentials]
  if refused.isEmpty then ⟨200, headers, .text "OK"⟩
  else ⟨400, headers, .text ("Disallowed CORS " ++ ", ".intercalate refused)⟩

/-- Any origin is named as such, but one that sent a cookie is named itself. -/
def simple (c : Cors) (q : Incoming) (origin : String) (r : Response) : Response :=
  let grant :=
    if c.allowsAll then
      [allowed (if (Headers.find? q.headers "cookie").isSome then origin else "*")]
    else if c.allows origin then [allowed origin]
    else []
  { r with headers := r.headers ++ grant ++ [credentials] }

/-- Answers a preflight, or completes the answer that `inner` gives. -/
def wrap (c : Cors) (q : Incoming) (inner : Answer) : Answer :=
  if c.origins.isEmpty then inner
  else
    match Headers.find? q.headers "origin" with
    | none => inner
    | some origin =>
      match inner with
      | .response r => .response (c.simple q origin r)
      | .escaped e => .escaped e

/-- The answer to a preflight, if the request is one. -/
def preflight? (c : Cors) (q : Incoming) : Option Response :=
  if c.origins.isEmpty || q.method != "OPTIONS" then none
  else
    match Headers.find? q.headers "origin",
        Headers.find? q.headers "access-control-request-method" with
    | some origin, some method => some (c.preflight origin method)
    | _, _ => none

end Cors

end DocNumber.Http
