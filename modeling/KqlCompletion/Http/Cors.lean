import KqlCompletion.Http.Message

/-! Requests from pages of other origins. A preflight is answered before the application sees it;
any other request is served, and the answer says whether the page may read it. -/
namespace KqlCompletion.Http.Cors

def methods : List String := ["DELETE", "GET", "HEAD", "OPTIONS", "PATCH", "POST", "PUT", "QUERY"]

def varying : String :=
  "Origin, Access-Control-Request-Method, Access-Control-Request-Headers, " ++
    "Access-Control-Request-Private-Network"

def allowOrigin (origin : String) : String × String := ("access-control-allow-origin", origin)

def allowCredentials : String × String := ("access-control-allow-credentials", "true")

def isAllowed (origins : List Text) (origin : String) : Bool := origins.contains (.of origin)

/-- Asks whether a request of another origin would be allowed. -/
def isPreflight (request : Request) : Bool :=
  request.method == "OPTIONS" && (request.header? "origin").isSome &&
    (request.header? "access-control-request-method").isSome

/-- What a preflight asks for and does not get. All headers are allowed. -/
def refusals (origins : List Text) (request : Request) : List String :=
  let origin := (request.header? "origin").any (isAllowed origins)
  let method := (request.header? "access-control-request-method").any methods.contains
  let network := (request.header? "access-control-request-private-network").isNone
  (if origin then [] else ["origin"]) ++ (if method then [] else ["method"]) ++
    (if network then [] else ["private-network"])

def preflight (origins : List Text) (request : Request) : Response :=
  let allowed := ((request.header? "origin").filter (isAllowed origins)).map allowOrigin
  let asked := (request.header? "access-control-request-headers").map
    fun headers => ("access-control-allow-headers", headers)
  let answer :=
    match refusals origins request with
    | [] => Response.plain 200 "OK"
    | refused => Response.plain 400 ("Disallowed CORS " ++ ", ".intercalate refused)
  answer.withHeaders ([("vary", varying),
    ("access-control-allow-methods", ", ".intercalate methods),
    ("access-control-max-age", "600"), allowCredentials] ++ allowed.toList ++ asked.toList)

def headers (origins : List Text) (request : Request) : List (String × String) :=
  ("vary", "Origin") ::
    match request.header? "origin" with
    | none => []
    | some origin =>
      allowCredentials :: (if isAllowed origins origin then [allowOrigin origin] else [])

end KqlCompletion.Http.Cors
