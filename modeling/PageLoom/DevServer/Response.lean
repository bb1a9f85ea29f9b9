import PageLoom.PageValue
import PageLoom.Text.Utf8

set_option autoImplicit false

/-! # Responses

A response has a status, headers in order, and a body. A failure is told by a small page of its
own. -/

namespace PageLoom

/-- A response. -/
structure Response where
  status : Nat
  reason : Text
  headers : List (Text × Text)
  body : Octets
  deriving DecidableEq

namespace Response

/-- A response with a body of a type, which is not to be kept. -/
def content (status : Nat) (reason : Text) (contentType : Text) (body : Octets) : Response where
  status := status
  reason := reason
  headers := [("Content-Type", contentType), ("Content-Length", Text.ofNat body.length),
    ("Cache-Control", "no-cache")]
  body := body

/-- The page of a failure. -/
def failurePage (status : Nat) (reason explanation : Text) : Text :=
  let escape (t : Text) : Text :=
    t.flatMap fun
      | '&' => "&amp;"
      | '<' => "&lt;"
      | '>' => "&gt;"
      | c => [c]
  "<!DOCTYPE HTML>\n<html lang=\"en\">\n    <head>\n        <meta charset=\"utf-8\">\n" ++
    "        <title>Error response</title>\n    </head>\n    <body>\n" ++
    "        <h1>Error response</h1>\n        <p>Error code: " ++ Text.ofNat status ++
    "</p>\n        <p>Message: " ++ escape reason ++
    ".</p>\n        <p>Error code explanation: " ++ Text.ofNat status ++ " - " ++
    escape explanation ++ ".</p>\n    </body>\n</html>\n"

/-- The response of a failure. -/
def failure (status : Nat) (reason explanation : Text) : Response :=
  let body := Utf8.encode (failurePage status reason explanation)
  { status := status
    reason := reason
    headers := [("Connection", "close"), ("Content-Type", "text/html;charset=utf-8"),
      ("Content-Length", Text.ofNat body.length)]
    body := body }

/-- Nothing is found. -/
def notFound : Response := failure 404 "File not found" "Nothing matches the given URI"

/-- A method that is not served. -/
def unsupported (method : Text) : Response :=
  failure 501 ("Unsupported method (" ++ PageValue.declareText method ++ ")")
    "Server does not support this operation"

/-- A request that is not understood. -/
def badRequest (reason : Text) : Response :=
  failure 400 reason "Bad request syntax or unsupported method"

/-- A version that is not spoken. -/
def laterVersion (number : Text) : Response :=
  failure 505 ("Invalid HTTP version (" ++ number ++ ")") "Cannot fulfill request"

/-- The request line is too long. -/
def lineTooLong : Response := failure 414 "Request-URI Too Long" "URI is too long"

/-- The head of an event stream. -/
def streamHead : Response where
  status := 200
  reason := "OK"
  headers := [("Content-Type", "text/event-stream"), ("Cache-Control", "no-cache"),
    ("Connection", "keep-alive"), ("Access-Control-Allow-Origin", "*")]
  body := []

/-- The response without its body. -/
def withoutBody (r : Response) : Response := { r with body := [] }

/-- Whether the response tells of a failure of the request. -/
def isFailure (r : Response) : Bool :=
  400 ≤ r.status && (r.headers.any fun h => h.1 = "Connection".toList)

end Response
end PageLoom
