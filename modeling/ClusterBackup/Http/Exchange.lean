/-
ClusterBackup.Http.Exchange — one request and its answer.

A request asks for a URL and has no body. An answer is a status and bytes;
its text is what the bytes write in UTF-8, without a byte order mark. A
`Transport` carries requests to some network and back, and may fail.
-/
import ClusterBackup.Url

namespace ClusterBackup.Http

/-- The phrases of the known statuses. -/
def phrases : List (Nat × String) :=
  [(100, "Continue"), (101, "Switching Protocols"), (102, "Processing"), (200, "OK"),
    (201, "Created"), (202, "Accepted"), (203, "Non Authoritative Information"),
    (204, "No Content"), (205, "Reset Content"), (206, "Partial Content"), (207, "Multi-Status"),
    (208, "Already Reported"), (226, "IM Used"), (300, "Multiple Choices"),
    (301, "Moved Permanently"), (302, "Found"), (303, "See Other"), (304, "Not Modified"),
    (305, "Use Proxy"), (307, "Temporary Redirect"), (308, "Permanent Redirect"),
    (400, "Bad Request"), (401, "Unauthorized"), (402, "Payment Required"), (403, "Forbidden"),
    (404, "Not Found"), (405, "Method Not Allowed"), (406, "Not Acceptable"),
    (407, "Proxy Authentication Required"), (408, "Request Timeout"), (409, "Conflict"),
    (410, "Gone"), (411, "Length Required"), (412, "Precondition Failed"),
    (413, "Payload Too Large"), (414, "URI Too Long"), (415, "Unsupported Media Type"),
    (416, "Range Not Satisfiable"), (417, "Expectation Failed"), (418, "I'm a teapot"),
    (421, "Misdirected Request"), (422, "Unprocessable Entity"), (423, "Locked"),
    (424, "Failed Dependency"), (426, "Upgrade Required"), (428, "Precondition Required"),
    (429, "Too Many Requests"), (431, "Request Header Fields Too Large"),
    (451, "Unavailable For Legal Reasons"), (500, "Internal Server Error"),
    (501, "Not Implemented"), (502, "Bad Gateway"), (503, "Service Unavailable"),
    (504, "Gateway Timeout"), (505, "HTTP Version Not Supported"),
    (506, "Variant Also Negotiates"), (507, "Insufficient Storage"), (508, "Loop Detected"),
    (510, "Not Extended"), (511, "Network Authentication Required")]

/-- A status with its phrase. -/
def statusText (status : Nat) : String :=
  toString status ++ " " ++ (phrases.lookup status).getD "<unknown status code>"

/-- What a server answers. -/
structure Response where
  status : Nat
  body : List UInt8
deriving DecidableEq, Repr, Inhabited

/-- The mark that may stand before a text. -/
def byteOrderMark : Char := Char.ofNat 0xFEFF

/-- The text of an answer, read as UTF-8 in every case. Left out are the charset that an answer may
name, and the byte order marks of UTF-16: answers in JSON are sent in UTF-8. -/
def Response.text (r : Response) : String :=
  match Text.Utf8.decodeLossy r.body with
  | c :: cs => String.ofList (if c = byteOrderMark then cs else c :: cs)
  | [] => ""

/-- The line that asks for a URL, without the version. -/
def requestLine (u : Url) : String := "GET " ++ u.target

/-- Carries a request to a network of states `ν`, and the answer back; or says why it could not. It
need not have reached the network then: it may refuse a URL that is too long to be sent. -/
abbrev Transport (ν : Type) := Url → ν → Except String Response × ν

namespace Transport

/-- The network that is out of reach. -/
def unreachable {ν : Type} (reason : String) : Transport ν := fun _ s => (.error reason, s)

/-- Carries nothing, but notes the last URL that was asked for. -/
def noting : Transport (Option Url) := fun u _ => (.error "not sent", some u)

/-- Gives one answer to everything. -/
def replying (answer : Except String Response) : Transport Unit := fun _ s => (answer, s)

end Transport

end ClusterBackup.Http
