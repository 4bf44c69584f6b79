import ApiDiscovery.Activity
import ApiDiscovery.Json.Printer
import ApiDiscovery.Text.Blank
import ApiDiscovery.Url.Basic

/-!
# HTTP

A network made of single HTTP exchanges.  A request asks for JSON and sends its
body as compact JSON.  Whatever the status, the body of the answer is read as
UTF-8 with replacements; a body of nothing but white space counts as none.  An
exchange itself is left to a function, so that no socket is needed here.
-/

namespace ApiDiscovery.Http

structure Client where
  userAgent : String := "discovery-client/0.2.0"
deriving DecidableEq, Repr

structure Message where
  verb : String
  url : String
  accept : String
  contentType : Option String
  userAgent : String
  body : Option String
deriving DecidableEq, Repr

/-- What becomes of a message: no answer, or one whose body may have been cut short. -/
inductive Exchange where
  | dropped
  | answered (status : Nat) (body : List UInt8) (isComplete : Bool)
deriving DecidableEq, Repr

abbrev Peer := List Request → Message → Exchange

/-- The message of a request to an address in the form in which it is sent. -/
def Client.message (client : Client) (request : Request) (url : String) : Message where
  verb := request.verb
  url
  accept := "application/json"
  contentType := request.body.map fun _ => "application/json"
  userAgent := client.userAgent
  body := request.body.map Json.compact

def phrases : List (Nat × String) := [
  (100, "Continue"), (101, "Switching Protocols"), (102, "Processing"), (103, "Early Hints"),
  (200, "OK"), (201, "Created"), (202, "Accepted"), (203, "Non Authoritative Information"),
  (204, "No Content"), (205, "Reset Content"), (206, "Partial Content"), (207, "Multi-Status"),
  (208, "Already Reported"), (226, "IM Used"), (300, "Multiple Choices"),
  (301, "Moved Permanently"), (302, "Found"), (303, "See Other"), (304, "Not Modified"),
  (305, "Use Proxy"), (307, "Temporary Redirect"), (308, "Permanent Redirect"),
  (400, "Bad Request"), (401, "Unauthorized"), (402, "Payment Required"), (403, "Forbidden"),
  (404, "Not Found"), (405, "Method Not Allowed"), (406, "Not Acceptable"),
  (407, "Proxy Authentication Required"), (408, "Request Timeout"), (409, "Conflict"),
  (410, "Gone"), (411, "Length Required"), (412, "Precondition Failed"),
  (413, "Payload Too Large"), (414, "URI Too Long"), (415, "Unsupported Media Type"),
  (416, "Range Not Satisfiable"), (417, "Expectation Failed"), (418, "I'm a teapot"),
  (421, "Misdirected Request"), (422, "Unprocessable Entity"), (423, "Locked"),
  (424, "Failed Dependency"), (425, "Too Early"), (426, "Upgrade Required"),
  (428, "Precondition Required"), (429, "Too Many Requests"),
  (431, "Request Header Fields Too Large"), (451, "Unavailable For Legal Reasons"),
  (500, "Internal Server Error"), (501, "Not Implemented"), (502, "Bad Gateway"),
  (503, "Service Unavailable"), (504, "Gateway Timeout"), (505, "HTTP Version Not Supported"),
  (506, "Variant Also Negotiates"), (507, "Insufficient Storage"), (508, "Loop Detected"),
  (510, "Not Extended"), (511, "Network Authentication Required")]

def statusText (status : Nat) : String :=
  toString status ++ " " ++
    ((phrases.find? (·.1 == status)).elim "<unknown status code>" Prod.snd)

def answerEvent (request : Request) (status : Nat) : Event :=
  ⟨.debug, "HTTP response",
    [("method", request.verb), ("url", request.url), ("status", statusText status)]⟩

/-- The text of a complete body, if it says anything. -/
def textOfBody (body : List UInt8) : Option String :=
  let text := Text.Utf8.decodeLossy body
  if Text.allBlank text then none else some (String.ofList text)

def replyOf (request : Request) (url : String) : Exchange → Reply
  | .dropped => { received := .error ("error sending request for url (" ++ url ++ ")") }
  | .answered status body isComplete =>
      { log := [answerEvent request status]
        received :=
          if isComplete then .ok (textOfBody body) else .error "error decoding response body" }

/-- The reply to a request: an address that cannot be asked is refused before anything is sent. -/
def reply (client : Client) (peer : Peer) (sent : List Request) (request : Request) : Reply :=
  match Url.parse? request.url with
  | none => { received := .error "builder error" }
  | some url =>
      let written := String.ofList url.text
      if url.isHttp then
        replyOf request written (peer sent (client.message request written))
      else { received := .error ("builder error for url (" ++ written ++ ")") }

def network (client : Client) (peer : Peer) : Network := reply client peer

def silent : Peer := fun _ _ => .dropped

end ApiDiscovery.Http
