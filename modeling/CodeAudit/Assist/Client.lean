import CodeAudit.Assist.Model
import CodeAudit.Assist.Wire
import CodeAudit.Data.JsonText
import CodeAudit.Data.Sum
import CodeAudit.Text.Occurrence

/-!
This module contains the client of a server that runs language models.
-/

namespace CodeAudit.Assist

/--
How a model is asked.
-/
structure Settings where
  model : Value
  temperature : Value := .float 0.7
  maxTokens : Value := .int 2048
  topP : Value := .float 0.9
  timeout : Value := .int 120
  baseUrl : Value := .null

/--
The address of a server on this machine.
-/
def defaultAddress : Value := .text "http://localhost:11434"

/--
A client: how it asks models, and where the server is.
-/
structure Client where
  settings : Settings

/--
What a model replied.
-/
structure Response where
  content : Value
  model : Value
  promptTokens : Value
  completionTokens : Value
  totalTokens : Value
  details : Table Value

namespace Client

/--
A client with settings or without, and with a model or without. A model that is given comes before the
one in the settings.
-/
def make (settings : Option Settings) (model : Value) : Client :=
  let s : Settings := match settings with
    | none => { model := if model.isGiven then model else .text defaultModel }
    | some s => if model.isGiven then { s with model } else s
  match s.baseUrl with
  | .null => ⟨{ s with baseUrl := defaultAddress }⟩
  | _ => ⟨s⟩

/--
The model that is asked.
-/
def model (c : Client) : Value :=
  c.settings.model

/--
Ask another model from now on.
-/
def setModel (c : Client) (model : Value) : Client :=
  ⟨{ c.settings with model }⟩

/-! ### Requests -/

/--
The address of an endpoint.
-/
def address (c : Client) (endpoint : String) : Except Fault String :=
  requestAddress (c.settings.baseUrl.display ++ endpoint)

/--
Send a request to an endpoint. One with a body is a post.
-/
def sendTo (c : Client) (endpoint : String) (body : Option Value) : Talk (List Nat) := do
  orMisuse (body.elim (.ok ()) Json.writable)
  let url ← orStop (c.address endpoint)
  let method := if body.isSome then .post else .get
  send { url, method, timeout := c.settings.timeout, body }

/--
Send a request and read the reply.
-/
def request (c : Client) (endpoint : String) (body : Option Value) : Talk Value := do
  orStop (readReply (← c.sendTo endpoint body))

/--
Whether something succeeds over the wire.
-/
def succeeds {α : Type} (t : Talk α) : Talk Bool := do
  try
    let _ ← t
    pure true
  catch _ => pure false

/--
Whether the server is there.
-/
def isAvailable (c : Client) : Talk Bool :=
  succeeds (c.request "/api/tags" none)

/--
Let the server fetch a model.
-/
def pullModel (c : Client) (name : Value) : Talk Bool :=
  succeeds (c.request "/api/pull" (some (.object [("name", name)])))

/-! ### Models -/

/--
The field of an object, or another value if it has none. Only objects have fields.
-/
def fieldOr (v : Value) (name : String) (default : Value) : Except Misuse Value := do
  let fields ← v.fieldsFor "get"
  return (fields.get? name).getD default

/--
A model of the server. What is known about recommended models is not taken from the server.
-/
def listedModel (v : Value) : Except Misuse Model := do
  let name ← fieldOr v "name" (.text "")
  match (← name.lookupText?).bind recommendedModels.get? with
  | some m => return m
  | none =>
    let facts ← fieldOr v "details" (.object [])
    let size ← fieldOr facts "parameter_size" .null
    let description ← fieldOr facts "family" .null
    return { name, size, description }

/--
The models in a reply.
-/
def listedModels (reply : Value) : Except Misuse (List Model) := do
  let models ← (← fieldOr reply "models" (.list [])).members
  models.mapM listedModel

/--
The models that the server has. If they cannot be listed there are none.
-/
def listModels (c : Client) : Talk (List Model) := do
  try orMisuse (listedModels (← c.request "/api/tags" none))
  catch _ => pure []

/-! ### Questions -/

/--
The options of one question: those of the settings, unless others are given with the question.
-/
def questionOptions (c : Client) (overrides : Table Value) : Table Value :=
  [("temperature", (overrides.get? "temperature").getD c.settings.temperature),
    ("top_p", (overrides.get? "top_p").getD c.settings.topP),
    ("num_predict", (overrides.get? "max_tokens").getD c.settings.maxTokens)]

/--
The body of a question, whose text stands under the given name.
-/
def questionBody (c : Client) (name : String) (text : Value) (overrides : Table Value) : Value :=
  .object
    [("model", (overrides.get? "model").getD c.model),
      (name, text),
      ("stream", .bool false),
      ("options", .object (c.questionOptions overrides))]

/--
The number of tokens in both directions. What is not given counts as zero.
-/
def totalTokens (prompt completion : Value) : Except Misuse Value :=
  let orZero (v : Value) : Value := if v.isGiven then v else .int 0
  (orZero prompt).add (orZero completion)

/--
The response in the fields of a reply, with the given content and the given facts about it.
-/
def response (c : Client) (fields : Table Value) (content : Value) (facts : List String) :
    Except Misuse Response := do
  let field (name : String) : Value := (fields.get? name).getD .null
  let promptTokens := field "prompt_eval_count"
  let completionTokens := field "eval_count"
  let total ← totalTokens promptTokens completionTokens
  return {
    content
    model := (fields.get? "model").getD c.model
    promptTokens, completionTokens, totalTokens := total
    details := facts.map fun name => (name, field name) }

/--
The response to a text.
-/
def textResponse (c : Client) (reply : Value) : Except Misuse Response := do
  let fields ← reply.fieldsFor "get"
  c.response fields ((fields.get? "response").getD (.text "")) ["done", "context"]

/--
The response to a dialogue.
-/
def dialogueResponse (c : Client) (reply : Value) : Except Misuse Response := do
  let fields ← reply.fieldsFor "get"
  let content ← fieldOr ((fields.get? "message").getD (.object [])) "content" (.text "")
  c.response fields content ["done"]

/--
Let the model go on from a text.
-/
def generate (c : Client) (prompt : Value) (overrides : Table Value := []) : Talk Response := do
  let reply ← c.request "/api/generate" (some (c.questionBody "prompt" prompt overrides))
  orMisuse (c.textResponse reply)

/--
Let the model go on with a dialogue.
-/
def chat (c : Client) (messages : Value) (overrides : Table Value := []) : Talk Response := do
  let reply ← c.request "/api/chat" (some (c.questionBody "messages" messages overrides))
  orMisuse (c.dialogueResponse reply)

/-! ### Streams -/

/--
The lines of a reply, each with its end. The last one may have none.
-/
def replyLines (bs : List Nat) : List (List Nat) :=
  go [] bs
where
  go : List Nat → List Nat → List (List Nat)
    | [], [] => []
    | line, [] => [line.reverse]
    | line, b :: rest => if b == 10 then (b :: line).reverse :: go [] rest else go (b :: line) rest

/--
Whether a name occurs in a value: as a field of an object, a member of a list or a part of a text.
-/
def mentions (name : String) : Value → Except Misuse Bool
  | .object fields => .ok (Table.has fields name)
  | .list vs => .ok (vs.any fun
    | .text s => s == name
    | _ => false)
  | .text s => .ok (Text.occursIn name.toList s.toList)
  | v => .error (.noContents v.kindName)

/--
The field of an object. Lists and texts have parts, but not by name.
-/
def part (name : String) : Value → Except Misuse Value
  | .object fields => .ok ((Table.get? fields name).getD .null)
  | v => .error (.numberedParts v.kindName)

/--
What a piece of a stream adds to the response.
-/
def chunkText (chunk : Value) : Except Misuse Value := do
  if ← mentions "response" chunk then part "response" chunk
  else if ← mentions "message" chunk then fieldOr (← part "message" chunk) "content" (.text "")
  else return .text ""

/--
The response of a stream from its lines, after what has come before.
-/
def streamText (before : Value) : List (List Nat) → Except Fault Value
  | [] => .ok before
  | line :: rest => do
    let chunk ← readReply line
    match (chunkText chunk).bind before.add with
    | .ok text => streamText text rest
    | .error m => throw (.audit (.misuse m))

/--
Send a request and collect the response that comes piece by piece.
-/
def stream (c : Client) (endpoint : String) (body : Value) : Talk Value := do
  orStop (streamText (.text "") (replyLines (← c.sendTo endpoint (some body))))

end Client

end CodeAudit.Assist
