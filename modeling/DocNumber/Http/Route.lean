import DocNumber.Http.Message
import DocNumber.Http.Query

/-!
Which endpoint a method and a path lead to.
-/

namespace DocNumber.Http

inductive Endpoint
  | health
  | deepHealth
  | createRule
  | searchRules
  | getRule (id : String)
  | issueNumber
deriving DecidableEq, Repr

structure Route where
  method : String
  endpoint? : String → Option Endpoint

def fixed (path : String) (e : Endpoint) (p : String) : Option Endpoint :=
  if p == path then some e else none

def rulesPath : String := "/api/v1/numbering-rules"

/-- One segment after the path of all rules. -/
def oneRule (p : String) : Option Endpoint :=
  let start := (rulesPath ++ "/").toList
  let cs := p.toList
  let id := cs.drop start.length
  if start.isPrefixOf cs && !id.isEmpty && !id.contains '/' then
    some (.getRule (String.ofList id))
  else none

def routes : List Route :=
  [⟨"GET", fixed "/healthz" .health⟩,
    ⟨"GET", fixed "/healthz/deep" .deepHealth⟩,
    ⟨"POST", fixed rulesPath .createRule⟩,
    ⟨"GET", fixed rulesPath .searchRules⟩,
    ⟨"GET", oneRule⟩,
    ⟨"POST", fixed "/api/v1/document-numbers" .issueNumber⟩]

inductive Way
  | found (e : Endpoint)
  | otherMethod (allowed : String)
  | elsewhere (path : String)
  | nowhere
deriving DecidableEq, Repr

def opens (path : String) : Bool :=
  routes.any fun r => (r.endpoint? path).isSome

/-- The path without the slashes at its end. -/
def trimSlashes (path : String) : String :=
  String.ofList ((path.toList.reverse.dropWhile (· == '/')).reverse)

/-- The first route with the method wins; if only the method differs, the first such route says
which one is allowed; a slash too many leads to the path without it. -/
def wayTo (method path : String) : Way :=
  let here := routes.filterMap fun r => (r.endpoint? path).map fun e => (r.method, e)
  match here.find? fun h => h.1 == method with
  | some (_, e) => .found e
  | none =>
    match here with
    | (allowed, _) :: _ => .otherMethod allowed
    | [] =>
      if path.toList.getLast? == some '/' && path != "/" && opens (trimSlashes path) then
        .elsewhere (trimSlashes path)
      else .nowhere

/-- Sends a request on to another path of the same host. -/
def redirect (q : Incoming) (path : String) : Response :=
  let query := if q.query.isEmpty then "" else "?" ++ q.query
  let target := "http://" ++ q.host ++ path ++ query
  ⟨307, [("location", encodeTarget target)], .text ""⟩

end DocNumber.Http
