import SiteAnalytics.Json.Value
import SiteAnalytics.Url.Basic

/-!
# HTTP messages

A request is sent to a web server, which answers with a status and a body. Some statuses come
without a body, whatever is sent after the head.
-/

namespace SiteAnalytics

/-- A request to a web server. -/
structure HttpRequest where
  server : WebAddress
  method : String
  /-- Path and query. -/
  target : String
  authorization : String
  body : String
  deriving DecidableEq, Repr

/-- What is sent, in JSON. -/
def HttpRequest.toJson (r : HttpRequest) : Json :=
  .ofMembers
    [("method", .string r.method), ("target", .string r.target),
      ("authorization", .string r.authorization), ("body", .string r.body)]

/-- The answer to a request. -/
structure HttpResponse where
  status : Nat
  /-- What was sent after the head. -/
  sent : String
  deriving DecidableEq, Repr

namespace HttpResponse

/-- The request was fulfilled. -/
def isSuccess (r : HttpResponse) : Bool := 200 ≤ r.status && r.status < 300

/-- The body. -/
def body (r : HttpResponse) : String := if r.status = 204 || r.status = 304 then "" else r.sent

/-- The body as a text to be shown, without a byte order mark in front. -/
def text (r : HttpResponse) : String :=
  match r.body.toList with
  | '\ufeff' :: rest => String.ofList rest
  | _ => r.body

end HttpResponse

/-- The standard phrases of the statuses. -/
def httpReasons : List (Nat × String) :=
  [(100, "Continue"), (101, "Switching Protocols"), (102, "Processing"), (103, "Early Hints"),
    (200, "OK"), (201, "Created"), (202, "Accepted"), (203, "Non Authoritative Information"),
    (204, "No Content"), (205, "Reset Content"), (206, "Partial Content"), (207, "Multi-Status"),
    (208, "Already Reported"), (226, "IM Used"), (300, "Multiple Choices"),
    (301, "Moved Permanently"), (302, "Found"), (303, "See Other"), (304, "Not Modified"),
    (305, "Use Proxy"), (307, "Temporary Redirect"), (308, "Permanent Redirect"),
    (400, "Bad Request"), (401, "Unauthorized"), (402, "Payment Required"), (403, "Forbidden"),
    (404, "Not Found"), (405, "Method Not Allowed"), (406, "Not Acceptable"),
    (407, "Proxy Authentication Required"), (408, "Request Timeout"), (409, "Conflict"),
    (410, "Gone"), (411, "Length Required"), (412, "Precondition Failed"),
    (413, "Payload Too Large"), (414, "URI Too Long"), (415, "Unsupported Media Type"),
    (416, "Range Not Satisfiable"), (417, "Expectation Failed"), (418, "I'm a teapot"),
    (421, "Misdirected Request"), (422, "Unprocessable Entity"), (423, "Locked"),
    (424, "Failed Dependency"), (425, "Too Early"), (426, "Upgrade Required"),
    (428, "Precondition Required"), (429, "Too Many Requests"),
    (431, "Request Header Fields Too Large"), (451, "Unavailable For Legal Reasons"),
    (500, "Internal Server Error"), (501, "Not Implemented"), (502, "Bad Gateway"),
    (503, "Service Unavailable"), (504, "Gateway Timeout"), (505, "HTTP Version Not Supported"),
    (506, "Variant Also Negotiates"), (507, "Insufficient Storage"), (508, "Loop Detected"),
    (510, "Not Extended"), (511, "Network Authentication Required")]

/-- A status with its phrase. -/
def httpStatusText (status : Nat) : String :=
  toString status ++ " " ++ (httpReasons.lookup status).getD "<unknown status code>"

end SiteAnalytics
