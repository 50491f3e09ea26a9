/-! The routes of the application. A pattern is a list of segments; a parameter takes any segment
that is not empty. Routes are told apart by path first, so a known path with another method is a
different finding than an unknown path. -/
namespace KqlCompletion.Http

inductive Segment where
  | literal (name : String)
  | parameter (name : String)
  deriving DecidableEq, Repr

inductive Endpoint where
  | health
  | liveness
  | loadSchema
  | schema
  | suggestions
  | discard
  | templates
  | template
  | metrics
  deriving DecidableEq, Repr

/-- Routes of one group share their first segments. -/
structure Route where
  method : String
  group : List String
  segments : List Segment
  endpoint : Endpoint
  deriving DecidableEq, Repr

def Segment.written : Segment → String
  | .literal name => "/" ++ name
  | .parameter name => "/\x7b" ++ name ++ "\x7d"

/-- The pattern without the segments of its group. -/
def Route.pattern (route : Route) : String := String.join (route.segments.map Segment.written)

def workspaces : List String := ["api", "v1", "workspaces"]
def workspaceId : Segment := .parameter "workspace_id"

/-- The one for metrics is always there, though a process that starts with metrics turned off would
have none. The framework's own routes (`/openapi.json`, `/docs`, `/docs/oauth2-redirect` and
`/redoc`) are left out. -/
def routes : List Route := [
  ⟨"GET", [], [.literal "health"], .health⟩,
  ⟨"GET", [], [.literal "health", .literal "live"], .liveness⟩,
  ⟨"POST", workspaces, [workspaceId, .literal "schema", .literal "load"], .loadSchema⟩,
  ⟨"GET", workspaces, [workspaceId, .literal "schema"], .schema⟩,
  ⟨"POST", workspaces, [workspaceId, .literal "suggestions"], .suggestions⟩,
  ⟨"DELETE", workspaces, [workspaceId], .discard⟩,
  ⟨"GET", ["api", "v1", "templates"], [], .templates⟩,
  ⟨"GET", ["api", "v1", "templates"], [.parameter "name"], .template⟩,
  ⟨"GET", [], [.literal "metrics"], .metrics⟩]

/-- Matches segments and gives the values of the parameters. A line break behind a last literal
does no harm. -/
def matchSegments : List Segment → List (List Char) → Option (List String)
  | [], [] => some []
  | [.literal name], [written] =>
    if written = name.toList ∨ written = name.toList ++ ['\n'] then some [] else none
  | .literal name :: segments, written :: path =>
    if written = name.toList then matchSegments segments path else none
  | .parameter _ :: segments, written :: path =>
    if written.isEmpty then none
    else (matchSegments segments path).map (String.ofList written :: ·)
  | _, _ => none

def Route.parameters? (route : Route) (path : String) : Option (List String) :=
  match path.toList.splitOn '/' with
  | [] :: segments => matchSegments (route.group.map .literal ++ route.segments) segments
  | _ => none

inductive Finding where
  | found (route : Route) (parameters : List String)
  | otherMethod (route : Route)
  | redirect (path : String)
  | unknown
  deriving DecidableEq, Repr

def isKnown (path : String) : Bool := routes.any fun route => (route.parameters? path).isSome

/-- A path with slashes too many at its end, or with one too few. -/
def otherSlash (path : List Char) : List Char :=
  if path.getLast? = some '/' then (path.reverse.dropWhile (· == '/')).reverse else path ++ ['/']

def find (method path : String) : Finding :=
  let candidates := routes.filterMap fun route => (route.parameters? path).map (route, ·)
  match candidates.find? (·.1.method == method) with
  | some (route, parameters) => .found route parameters
  | none =>
    match candidates with
    | (route, _) :: _ => .otherMethod route
    | [] =>
      let other := String.ofList (otherSlash path.toList)
      if path != "/" && isKnown other then .redirect other else .unknown

end KqlCompletion.Http
