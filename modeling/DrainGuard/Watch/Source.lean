import DrainGuard.Settings.Basic
import DrainGuard.Text.Utf8
import DrainGuard.Watch.Poller

/-!
# The metadata service

A look at the service is one request, or two if requests have to carry a session token. A missing
document means that there is no notice; only the document itself can be missing in this way, not
the token.

* `Request`, `Exchange`, `Network`: what goes over the network, over any world.
* `Network.token`, `Network.fetch`: the two requests.
-/

namespace DrainGuard

/-- How a request is made. -/
inductive Method where
  /-- Asks for a document. -/
  | get
  /-- Asks for something to be made. -/
  | put
  deriving DecidableEq

/-- The name of a method. -/
def Method.name : Method → String
  | get => "GET"
  | put => "PUT"

/-- A request. -/
structure Request where
  /-- How it is made. -/
  method : Method
  /-- Where it goes. -/
  url : String
  /-- Names and values of its headers. -/
  headers : List (String × String) := []
  deriving DecidableEq

/-- What became of a request. -/
inductive Exchange where
  /-- There was no answer. -/
  | unreachable (message : String)
  /-- There was an answer, with a body or a reason why the body could not be read. -/
  | answered (status : Nat) (body : Except String (List UInt8))

/-- A network: it takes a request and something becomes of it. -/
structure Network (σ : Type) where
  /-- Makes a request. -/
  exchange : Request → σ → Exchange × σ

/-- A notice from the text of a document. -/
def Notice.ofDocument (text : String) : Except Failure Notice :=
  match Notice.parse text with
  | .ok n => .ok n
  | .error f => .error (.metadataParse f.message)

/-- A text that can be the value of a header: no control characters but the tab. -/
def isHeaderValue (text : String) : Bool :=
  text.toList.all fun c => c = '\t' || (32 ≤ c.toNat && c.toNat ≠ 127)

namespace Network

variable {σ : Type}

/-- The header that carries a session token. -/
def tokenHeader : String := "X-aws-ec2-metadata-token"

/-- The header that says how many seconds a token is to be good for. -/
def lifetimeHeader : String := "X-aws-ec2-metadata-token-ttl-seconds"

/-- How many seconds a token is to be good for. -/
def lifetime : String := "21600"

/-- The status of a document that is missing. -/
def notFound : Nat := 404

/-- A status that tells of an error. -/
def isError (status : Nat) : Bool := 400 ≤ status && status ≤ 599

/-- Makes a request; it fails if there is no answer. -/
def request (net : Network σ) (r : Request) :
    ExceptT Failure (StateM σ) (Nat × Except String (List UInt8)) := fun w =>
  match net.exchange r w with
  | (.answered status body, w) => (.ok (status, body), w)
  | (.unreachable m, w) => (.error (.metadataUnreachable m), w)

/-- The text of a body, broken sequences replaced. -/
def textOf : Except String (List UInt8) → Except Failure String
  | .ok bytes => .ok (Text.ofBytes bytes)
  | .error m => .error (.metadataUnreachable m)

/-- Asks for a session token. -/
def token (net : Network σ) (url : String) : ExceptT Failure (StateM σ) String := do
  let (status, body) ← net.request ⟨.put, url, [(lifetimeHeader, lifetime)]⟩
  if isError status then
    throw (.metadataUnreachable ("HTTP status " ++ toString status ++ " for url (" ++ url ++ ")"))
  return Text.trim (← ExceptT.mk (pure (textOf body)))

/-- The headers of the request for the document. -/
def headers (net : Network σ) (s : MetadataSettings) :
    ExceptT Failure (StateM σ) (List (String × String)) := do
  match s.tokenEndpoint with
  | none => return []
  | some url =>
    let value ← net.token url
    if isHeaderValue value then return [(tokenHeader, value)]
    else throw (.metadataUnreachable "failed to parse header value")

/-- One look at the service. -/
def fetch (net : Network σ) (s : MetadataSettings) :
    ExceptT Failure (StateM σ) (Option Notice) := do
  let headers ← net.headers s
  let (status, body) ← net.request ⟨.get, s.endpoint, headers⟩
  if status = notFound then return none
  let text ← ExceptT.mk (pure (textOf body))
  match Notice.ofDocument text with
  | .ok n => return some n
  | .error f => throw f

/-- A network on which nothing answers. -/
def down : Network σ where
  exchange _ w := (.unreachable "connection failed", w)

end Network

end DrainGuard
