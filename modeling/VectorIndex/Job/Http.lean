import VectorIndex.Json.Value
import VectorIndex.Url.Parse

/-!
# Requests and responses

A request and what comes back for it.  A connection may also be closed without an answer.
-/

set_option autoImplicit false

namespace VectorIndex

/-- The method of a request. -/
inductive HttpMethod where
  | get
  | post
  deriving DecidableEq, Repr

/-- The name of a method. -/
def HttpMethod.name : HttpMethod → String
  | .get => "GET"
  | .post => "POST"

/-- A request; a body is JSON. -/
structure HttpRequest where
  method : HttpMethod
  url : Url
  body : Option Json.Value := none

/-- A response. -/
structure HttpResponse where
  status : Nat
  body : String
  deriving DecidableEq, Repr

namespace HttpResponse

/-- Whether the request was granted. -/
def isSuccess (r : HttpResponse) : Bool :=
  200 ≤ r.status && r.status < 300

/-- Whether a response of this status is an answer.  A status has three digits, and the ones
below 200 announce that the answer is still to come, but for the change of protocols. -/
def isFinal (status : Nat) : Bool :=
  status = 101 || (200 ≤ status && status < 1000)

/-- Whether a response of this status has no body, whatever is sent. -/
def isBodiless (status : Nat) : Bool :=
  status = 101 || status = 204 || status = 304

/-- The body that counts. -/
def content (r : HttpResponse) : String :=
  if isBodiless r.status then "" else r.body

/-- The content as text; a byte order mark in front does not belong to it. -/
def text (r : HttpResponse) : String :=
  match r.content.toList with
  | '\ufeff' :: rest => String.ofList rest
  | _ => r.content

/-- The usual names of statuses. -/
def reasons : List (Nat × String) :=
  [(100, "Continue"), (101, "Switching Protocols"), (102, "Processing"), (200, "OK"),
   (201, "Created"), (202, "Accepted"), (203, "Non Authoritative Information"),
   (204, "No Content"), (205, "Reset Content"), (206, "Partial Content"), (207, "Multi-Status"),
   (208, "Already Reported"), (226, "IM Used"), (300, "Multiple Choices"),
   (301, "Moved Permanently"), (302, "Found"), (303, "See Other"), (304, "Not Modified"),
   (305, "Use Proxy"), (307, "Temporary Redirect"), (308, "Permanent Redirect"),
   (400, "Bad Request"), (401, "Unauthorized"), (402, "Payment Required"), (403, "Forbidden"),
   (404, "Not Found"), (405, "Method Not Allowed"), (406, "Not Acceptable"),
   (407, "Proxy Authentication Required"), (408, "Request Timeout"), (409, "Conflict"),
   (410, "Gone"), (411, "Length Required"), (412, "Precondition Failed"),
   (413, "Payload Too Large"), (414, "URI Too Long"), (415, "Unsupported Media Type"),
   (416, "Range Not Satisfiable"), (417, "Expectation Failed"), (418, "I'm a teapot"),
   (421, "Misdirected Request"), (422, "Unprocessable Entity"), (423, "Locked"),
   (424, "Failed Dependency"), (425, "Too Early"), (426, "Upgrade Required"),
   (428, "Precondition Required"), (429, "Too Many Requests"),
   (431, "Request Header Fields Too Large"), (451, "Unavailable For Legal Reasons"),
   (500, "Internal Server Error"), (501, "Not Implemented"), (502, "Bad Gateway"),
   (503, "Service Unavailable"), (504, "Gateway Timeout"), (505, "HTTP Version Not Supported"),
   (506, "Variant Also Negotiates"), (507, "Insufficient Storage"), (508, "Loop Detected"),
   (510, "Not Extended"), (511, "Network Authentication Required")]

/-- A status with its name. -/
def statusText (status : Nat) : String :=
  toString status ++ " " ++ (reasons.lookup status).getD "<unknown status code>"

end HttpResponse

end VectorIndex
