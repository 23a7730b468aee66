import CodeAudit.Assist.Fault
import CodeAudit.Data.Json

/-!
This module contains what goes over the wire between a client and a server: requests to addresses, and
replies. How a request gets to its address is not known here: it is handed over, and what becomes of it is
told by the reply.
-/

namespace CodeAudit.Assist

/-! ### Addresses -/

/--
An address without the blanks, the angle brackets and the word around it.
-/
def unwrapAddress (cs : List Char) : List Char :=
  let cs := Text.strip cs
  let cs :=
    if cs.head? == some '<' && cs.getLast? == some '>' then Text.strip (cs.drop 1).dropLast else cs
  if "URL:".toList.isPrefixOf cs then Text.strip (cs.drop 4) else cs

/--
An address without a fragment that is empty.
-/
def dropEmptyFragment (cs : List Char) : List Char :=
  if cs.getLast? == some '#' then cs.dropLast else cs

/--
Whether an address starts with a scheme.
-/
def hasScheme (cs : List Char) : Bool :=
  let fragment := cs.reverse.takeWhile (· != '#')
  let body := if fragment.length < cs.length then cs.take (cs.length - fragment.length - 1) else cs
  let scheme := body.takeWhile fun c => c != '/' && c != ':'
  !scheme.isEmpty && body[scheme.length]? == some ':'

/--
The address that a request goes to.
-/
def requestAddress (url : String) : Except Fault String :=
  let unwrapped := unwrapAddress url.toList
  let address := String.ofList (dropEmptyFragment unwrapped)
  if hasScheme unwrapped then .ok address else .error (.address address)

/-! ### Requests and replies -/

/--
How a request is meant.
-/
inductive Method where
  | get
  | post
  deriving DecidableEq

/--
The name of a method.
-/
def Method.name : Method → String
  | .get => "GET"
  | .post => "POST"

/--
A request. Its body, if it has one, is sent as JSON.
-/
structure Request where
  url : String
  method : Method
  timeout : Value
  body : Option Value := none

/--
The kind of content of a request.
-/
def Request.contentType (r : Request) : Option String :=
  r.body.map fun _ => "application/json"

/--
What comes back for a request, after all that is done for it on the way: other addresses that it is led to
are tried, and an address that nothing is known about is found out there.
-/
inductive Reply where
  /-- What the server sends. -/
  | bytes (bs : List Nat)
  /-- The server refuses the request. -/
  | refused (code reason : Value)
  /-- The request does not get to a server. -/
  | unreachable (reason : Value)
  /-- The server takes too long. -/
  | timeout (reason : String)
  /-- The exchange ends in any other way. -/
  | broken (b : Breakdown)

/--
The replies that will come and the requests that were handed over, the last one first.
-/
structure Wire where
  pending : List Reply := []
  handed : List Request := []

/--
Something that is done over the wire. What was handed over stays so if it fails.
-/
abbrev Talk (α : Type) := ExceptT Fault (StateM Wire) α

/--
Do something over the wire.
-/
def Talk.on {α : Type} (t : Talk α) (w : Wire) : Except Fault α × Wire :=
  (ExceptT.run t).run w

/--
Let a fault stop what is done.
-/
def orStop {α : Type} : Except Fault α → Talk α
  | .ok a => pure a
  | .error f => throw f

/--
Let a wrong kind of value stop what is done.
-/
def orMisuse {α : Type} : Except Misuse α → Talk α
  | .ok a => pure a
  | .error m => throw (.audit (.misuse m))

/--
Hand a request over and wait for the bytes of the reply.
-/
def send (r : Request) : Talk (List Nat) := do
  let w ← getThe Wire
  set { w with pending := w.pending.drop 1, handed := r :: w.handed }
  match w.pending with
  | [] => throw (.unreachable "no reply")
  | .bytes bs :: _ => return bs
  | .refused code reason :: _ => throw (.refused code.display reason.display)
  | .unreachable reason :: _ => throw (.unreachable reason.display)
  | .timeout reason :: _ => throw (.timeout reason)
  | .broken b :: _ => throw (.broken b)

/--
Read bytes as JSON.
-/
def readReply (bs : List Nat) : Except Fault Value :=
  match Text.decode bs with
  | .error e => .error (.undecodable e)
  | .ok cs =>
    match Json.read (String.ofList cs) with
    | .ok v => .ok v
    | .error e => .error (.audit (.json e))

end CodeAudit.Assist
