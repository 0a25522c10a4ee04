/-!
# ServiceTunnel.Http.Method

**Methods and phrases of HTTP.**
-/

namespace ServiceTunnel.Http

/-- The method of a request. -/
inductive Method where
  | get
  | post
  | put
  | patch
  | delete
deriving DecidableEq, Repr

namespace Method

/-- The word in the first line of a request. -/
def word : Method → String
  | .get => "GET"
  | .post => "POST"
  | .put => "PUT"
  | .patch => "PATCH"
  | .delete => "DELETE"

end Method

/-- The registered phrase of a status code of 400 and above. -/
def phrase? : Nat → Option String
  | 400 => "Bad Request"
  | 401 => "Unauthorized"
  | 402 => "Payment Required"
  | 403 => "Forbidden"
  | 404 => "Not Found"
  | 405 => "Method Not Allowed"
  | 406 => "Not Acceptable"
  | 407 => "Proxy Authentication Required"
  | 408 => "Request Timeout"
  | 409 => "Conflict"
  | 410 => "Gone"
  | 411 => "Length Required"
  | 412 => "Precondition Failed"
  | 413 => "Payload Too Large"
  | 414 => "URI Too Long"
  | 415 => "Unsupported Media Type"
  | 416 => "Range Not Satisfiable"
  | 417 => "Expectation Failed"
  | 418 => "I'm a teapot"
  | 421 => "Misdirected Request"
  | 422 => "Unprocessable Entity"
  | 423 => "Locked"
  | 424 => "Failed Dependency"
  | 425 => "Too Early"
  | 426 => "Upgrade Required"
  | 428 => "Precondition Required"
  | 429 => "Too Many Requests"
  | 431 => "Request Header Fields Too Large"
  | 451 => "Unavailable For Legal Reasons"
  | 500 => "Internal Server Error"
  | 501 => "Not Implemented"
  | 502 => "Bad Gateway"
  | 503 => "Service Unavailable"
  | 504 => "Gateway Timeout"
  | 505 => "HTTP Version Not Supported"
  | 506 => "Variant Also Negotiates"
  | 507 => "Insufficient Storage"
  | 508 => "Loop Detected"
  | 510 => "Not Extended"
  | 511 => "Network Authentication Required"
  | _ => none

/-- A status code with its phrase. -/
def statusText (code : Nat) : String :=
  toString code ++ " " ++ (phrase? code).getD "<unknown status code>"

/-- Whether a status code says that the request failed. -/
def isFailure (code : Nat) : Bool := 400 ≤ code && code < 600

/-- Whether a status code says that the request succeeded. -/
def isSuccess (code : Nat) : Bool := 200 ≤ code && code < 300

end ServiceTunnel.Http
