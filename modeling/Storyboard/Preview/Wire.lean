import Storyboard.Web.Url
import Storyboard.Preview.Outcome

/-!
# Requests and their answers

A preview does not reach the network: requests go to a `Wire` that holds the answers to
give, in order, and keeps every request it was handed. When the answers run out, a
request fails in transport. Before a request is sent, its host must be one of the allowed
domains, compared ignoring ASCII case.
-/

namespace Storyboard

/-- An answer to a request: its status, the reason text and the JSON body. -/
structure Response where
  /-- The status code. -/
  status : Nat
  /-- The reason text. -/
  statusText : String := ""
  /-- The body. -/
  body : Json := .null

/-- Whether an answer is a success: a status from 200 to 299. -/
def Response.isSuccess (r : Response) : Bool := 200 ≤ r.status && r.status < 300

/-- What a request gets: an answer, or a failure to get one. -/
inductive Reply where
  /-- The server answered. -/
  | answer (r : Response)
  /-- No answer came. -/
  | broken (message : String)

/-- A request as sent. -/
structure Sent where
  /-- The method, as written in the action. -/
  method : String
  /-- The address, with bindings filled in. -/
  url : String
  /-- Header fields, sorted by name. -/
  headers : List (String × String)
  /-- The body. -/
  body : Option Json

/-- The JSON form of a sent request. -/
def Sent.toJson (s : Sent) : Json :=
  Json.ofFields [("method", .str s.method), ("url", .str s.url),
    ("headers", .obj (s.headers.map fun (k, v) => (k, .str v))), ("body", s.body.getD .null)]

/-- The answers still to give and the requests handed over, oldest first. -/
structure Wire where
  /-- Answers still to give. -/
  replies : List Reply := []
  /-- Requests handed over. -/
  sent : List Sent := []

/-- Hand over a request: the next answer, or a transport failure when none is left. -/
def Wire.send (w : Wire) (s : Sent) : Reply × Wire :=
  match w.replies with
  | r :: rest => (r, { replies := rest, sent := w.sent ++ [s] })
  | [] => (.broken "no scripted response", { w with sent := w.sent ++ [s] })

/-- Check that an address has a host among the allowed ones. An address without a host
is refused by its whole text, a host not allowed by the host's text. -/
def checkDomain (url : String) (allowed : List String) : Except Failure Unit :=
  match Url.host? url with
  | none => .error (.domainNotAllowed url)
  | some host =>
    if allowed.any (String.equalsIgnoringCase · host) then .ok ()
    else .error (.domainNotAllowed host)

end Storyboard
