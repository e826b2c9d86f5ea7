import GatewayDirectory.Text.Utf8

/-!
# Requests and responses

The parts of HTTP messages that matter to the registry and to its clients.
-/

namespace GatewayDirectory.Http

/-- A request. -/
structure Request where
  method : String
  /-- The path with its query, or a whole address. -/
  target : String
  /-- The values of its Content-Type headers. -/
  contentTypes : List String
  body : ByteArray
deriving Inhabited

/-- A response. -/
structure Response where
  status : Nat
  contentType : Option String
  allow : Option String
  body : ByteArray
deriving Inhabited

namespace Response

/-- A response without a body. -/
def empty (status : Nat) : Response := ⟨status, none, none, ByteArray.empty⟩

/-- A response with a JSON body. -/
def json (status : Nat) (text : String) : Response :=
  ⟨status, some "application/json", none, text.toUTF8⟩

/-- A response with a plain text body. -/
def plain (status : Nat) (text : String) : Response :=
  ⟨status, some "text/plain; charset=utf-8", none, text.toUTF8⟩

/-- The response that refuses a method and names those it allows. -/
def methodNotAllowed (allow : String) : Response := ⟨405, none, some allow, ByteArray.empty⟩

/-- Whether the request succeeded. -/
def isSuccess (r : Response) : Bool := 200 ≤ r.status && r.status < 300

/-- The body as text. -/
def text (r : Response) : String := Text.lossy r.body

end Response

/-- The standard phrase for a status. -/
def reason? (status : Nat) : Option String :=
  match status with
  | 100 => "Continue" | 101 => "Switching Protocols" | 102 => "Processing" | 103 => "Early Hints"
  | 200 => "OK" | 201 => "Created" | 202 => "Accepted" | 203 => "Non Authoritative Information"
  | 204 => "No Content" | 205 => "Reset Content" | 206 => "Partial Content" | 207 => "Multi-Status"
  | 208 => "Already Reported" | 226 => "IM Used"
  | 300 => "Multiple Choices" | 301 => "Moved Permanently" | 302 => "Found" | 303 => "See Other"
  | 304 => "Not Modified" | 305 => "Use Proxy" | 307 => "Temporary Redirect"
  | 308 => "Permanent Redirect"
  | 400 => "Bad Request" | 401 => "Unauthorized" | 402 => "Payment Required" | 403 => "Forbidden"
  | 404 => "Not Found" | 405 => "Method Not Allowed" | 406 => "Not Acceptable"
  | 407 => "Proxy Authentication Required" | 408 => "Request Timeout" | 409 => "Conflict"
  | 410 => "Gone" | 411 => "Length Required" | 412 => "Precondition Failed"
  | 413 => "Payload Too Large" | 414 => "URI Too Long" | 415 => "Unsupported Media Type"
  | 416 => "Range Not Satisfiable" | 417 => "Expectation Failed" | 418 => "I'm a teapot"
  | 421 => "Misdirected Request" | 422 => "Unprocessable Entity" | 423 => "Locked"
  | 424 => "Failed Dependency" | 425 => "Too Early" | 426 => "Upgrade Required"
  | 428 => "Precondition Required" | 429 => "Too Many Requests"
  | 431 => "Request Header Fields Too Large" | 451 => "Unavailable For Legal Reasons"
  | 500 => "Internal Server Error" | 501 => "Not Implemented" | 502 => "Bad Gateway"
  | 503 => "Service Unavailable" | 504 => "Gateway Timeout" | 505 => "HTTP Version Not Supported"
  | 506 => "Variant Also Negotiates" | 507 => "Insufficient Storage" | 508 => "Loop Detected"
  | 510 => "Not Extended" | 511 => "Network Authentication Required"
  | _ => none

/-- A status with its phrase. -/
def statusText (status : Nat) : String :=
  toString status ++ " " ++ (reason? status).getD "<unknown status code>"

end GatewayDirectory.Http
