import Mjpeg.Stream.Script
import Mjpeg.Log
import Mjpeg.Url

/-!
# Sources over HTTP

A connector knows the endpoint of a camera. It accepts URLs of the schemes `http` and `https`
only, and shows them with the password masked. Each attempt is one request; what becomes of a
request is given by whoever carries it out, as an `Exchange`, and `answerOf` says what a stream
sees of it.
-/

namespace Mjpeg.Http

/-- The user agent that requests carry unless another one is given. -/
def defaultUserAgent : String := "snapshooter/0.2.1"

/-- The endpoint of a camera. -/
structure Connector where
  url : Url
  userAgent : String

/-- The URL of an endpoint. -/
def parseUrl (text : String) : Except SourceError Url :=
  match Url.parse text with
  | .error e => .error (.invalidUrl text e.message)
  | .ok url =>
    let scheme := String.ofList url.scheme
    if scheme = "http" ∨ scheme = "https" then .ok url
    else .error (.invalidUrl url.redacted ("unsupported scheme " ++ Text.quoted scheme))

/-- An octet that a header value may hold. -/
def isHeaderOctet (b : UInt8) : Bool := (b ≥ 32 && b != 127) || b == 9

namespace Connector

/-- The connector for an endpoint. -/
def ofUrl (text : String) (userAgent : Option String) : Except SourceError Connector := do
  let url ← parseUrl text
  let userAgent := userAgent.getD defaultUserAgent
  if (Bytes.ofText userAgent).all isHeaderOctet then return ⟨url, userAgent⟩
  else throw (.request "builder error")

/-- The endpoint as logs and records show it. -/
def target (c : Connector) : String := c.url.redacted

end Connector

/-- What becomes of a request. -/
inductive Exchange where
  /-- It did not reach a server. -/
  | unsent
  /-- The head of the response came, and the body brings some events. -/
  | answered (status : Nat) (contentType : Option String) (body : List (Nat × Stream.BodyEvent))
  deriving Repr, DecidableEq

/-- How a request fails that does not reach a server. -/
def unsentError : SourceError := .request "error sending request"

namespace Connector

/-- What a stream sees of an exchange: a response is a source if it is a success. -/
def answerOf (c : Connector) : Exchange → Stream.Answer
  | .unsent => .failed unsentError
  | .answered status contentType body =>
    if 200 ≤ status ∧ status < 300 then .accepted contentType body
    else .failed (.status status c.target)

/-- The event of a response that is a source. -/
def event? (c : Connector) : Exchange → Option Log.Event
  | .unsent => none
  | .answered status contentType _ =>
    if 200 ≤ status ∧ status < 300 then
      some ⟨.debug, .http, "http source connected",
        [("url", .plain c.target), ("status", .number status),
          ("content_type", .quoted (contentType.getD "<none>"))]⟩
    else none

end Connector

end Mjpeg.Http
