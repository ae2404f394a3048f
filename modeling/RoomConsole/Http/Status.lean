/-!
# HTTP status codes

A status code is a number from 100 to 999. Codes from 400 to 499 are client
errors and from 500 to 599 server errors. A code is shown with its
registered reason phrase, or `<unknown status code>` when it has none.
-/

namespace RoomConsole.Http

/-- The registered reason phrases. -/
def reasonPhrases : List (Nat × String) :=
  [(100, "Continue"), (101, "Switching Protocols"), (102, "Processing"), (103, "Early Hints"),
   (200, "OK"), (201, "Created"), (202, "Accepted"), (203, "Non Authoritative Information"),
   (204, "No Content"), (205, "Reset Content"), (206, "Partial Content"), (207, "Multi-Status"),
   (208, "Already Reported"), (226, "IM Used"),
   (300, "Multiple Choices"), (301, "Moved Permanently"), (302, "Found"), (303, "See Other"),
   (304, "Not Modified"), (305, "Use Proxy"), (307, "Temporary Redirect"), (308, "Permanent Redirect"),
   (400, "Bad Request"), (401, "Unauthorized"), (402, "Payment Required"), (403, "Forbidden"),
   (404, "Not Found"), (405, "Method Not Allowed"), (406, "Not Acceptable"),
   (407, "Proxy Authentication Required"), (408, "Request Timeout"), (409, "Conflict"), (410, "Gone"),
   (411, "Length Required"), (412, "Precondition Failed"), (413, "Payload Too Large"),
   (414, "URI Too Long"), (415, "Unsupported Media Type"), (416, "Range Not Satisfiable"),
   (417, "Expectation Failed"), (418, "I'm a teapot"), (421, "Misdirected Request"),
   (422, "Unprocessable Entity"), (423, "Locked"), (424, "Failed Dependency"),
   (426, "Upgrade Required"), (428, "Precondition Required"), (429, "Too Many Requests"),
   (431, "Request Header Fields Too Large"), (451, "Unavailable For Legal Reasons"),
   (500, "Internal Server Error"), (501, "Not Implemented"), (502, "Bad Gateway"),
   (503, "Service Unavailable"), (504, "Gateway Timeout"), (505, "HTTP Version Not Supported"),
   (506, "Variant Also Negotiates"), (507, "Insufficient Storage"), (508, "Loop Detected"),
   (510, "Not Extended"), (511, "Network Authentication Required")]

/-- A status code. -/
structure Status where
  code : Nat
  valid : 100 ≤ code ∧ code ≤ 999 := by omega
  deriving DecidableEq

/-- The status of a code, when it is one. -/
def Status.ofNat? (n : Nat) : Option Status :=
  if h : 100 ≤ n ∧ n ≤ 999 then some ⟨n, h⟩ else none

/-- The reason phrase of a code. -/
def Status.reason? (s : Status) : Option String := (reasonPhrases.find? (·.1 == s.code)).map (·.2)

/-- A code with its reason phrase: `404 Not Found`. -/
def Status.text (s : Status) : String :=
  toString s.code ++ " " ++ (s.reason?.getD "<unknown status code>")

/-- A code from 200 to 299. -/
def Status.isSuccess (s : Status) : Bool := 200 ≤ s.code && s.code ≤ 299

/-- A code from 400 to 499. -/
def Status.isClientError (s : Status) : Bool := 400 ≤ s.code && s.code ≤ 499

/-- A code from 500 to 599. -/
def Status.isServerError (s : Status) : Bool := 500 ≤ s.code && s.code ≤ 599

end RoomConsole.Http
