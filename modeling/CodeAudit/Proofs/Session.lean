import CodeAudit.Assist.Client

/-!
This module contains which requests a client hands over in a session of calls. They depend on the settings at the
time of a call and on the call, and not on what came back before; of the settings a call can only change the model.
-/

namespace CodeAudit.Assist

/-! ### What is handed over -/

namespace Talk

variable {α β : Type} {t : Talk α} {f : α → Talk β} {w w' : Wire}

theorem on_bind_ok {a : α} (h : t.on w = (.ok a, w')) : (t >>= f).on w = (f a).on w' := by
  change (ExceptT.run t).run w = _ at h
  unfold Talk.on
  rw [ExceptT.run_bind, StateT.run_bind, h]
  rfl

theorem on_bind_error {e : Fault} (h : t.on w = (.error e, w')) : (t >>= f).on w = (.error e, w') := by
  change (ExceptT.run t).run w = _ at h
  unfold Talk.on
  rw [ExceptT.run_bind, StateT.run_bind, h]
  rfl

theorem on_tryCatch_ok {recover : Fault → Talk α} {a : α} (h : t.on w = (.ok a, w'))
    : (tryCatch t recover).on w = (.ok a, w') := by
  change (ExceptT.run t).run w = _ at h
  unfold Talk.on
  rw [ExceptT.run_tryCatch, StateT.run_bind, h]
  rfl

theorem on_tryCatch_error {recover : Fault → Talk α} {e : Fault} (h : t.on w = (.error e, w'))
    : (tryCatch t recover).on w = (recover e).on w' := by
  change (ExceptT.run t).run w = _ at h
  unfold Talk.on
  rw [ExceptT.run_tryCatch, StateT.run_bind, h]
  rfl

theorem on_orStop (x : Except Fault α) (w : Wire) : (orStop x).on w = (x, w) := by
  cases x <;> rfl

theorem on_orMisuse (x : Except Misuse α) (w : Wire)
    : (orMisuse x).on w = (x.mapError fun m => .audit (.misuse m), w) := by
  cases x <;> rfl

theorem on_send_bytes (r : Request) (bs : List Nat) (pending : List Reply) (handed : List Request)
    : (send r).on ⟨.bytes bs :: pending, handed⟩ = (.ok bs, ⟨pending, r :: handed⟩) :=
  rfl

/--
Whatever comes back, these requests are handed over, the last one first.
-/
def Hands (t : Talk α) (rs : List Request) : Prop :=
  ∀ w, (t.on w).2.handed = rs ++ w.handed

theorem Hands.bind {rs : List Request} (ht : Hands t rs) (hf : ∀ a, Hands (f a) []) : Hands (t >>= f) rs := by
  intro w
  have hhanded := ht w
  cases h : t.on w with
  | mk result w' =>
    rw [h] at hhanded
    cases result with
    | error e =>
      rw [on_bind_error h]
      exact hhanded
    | ok a =>
      rw [on_bind_ok h, hf a w']
      exact hhanded

theorem Hands.tryCatch {rs : List Request} {recover : Fault → Talk α} (ht : Hands t rs)
    (hrecover : ∀ e, Hands (recover e) []) : Hands (tryCatch t recover) rs := by
  intro w
  have hhanded := ht w
  cases h : t.on w with
  | mk result w' =>
    rw [h] at hhanded
    cases result with
    | error e =>
      rw [on_tryCatch_error h, hrecover e w']
      exact hhanded
    | ok a =>
      rw [on_tryCatch_ok h]
      exact hhanded

end Talk

namespace Client

open Talk

variable (c : Client)

/--
The request to an endpoint, or why there is none: the body has no text or the address no scheme.
-/
def requestTo (endpoint : String) (body : Option Value) : Except Fault Request :=
  match body.bind Json.unwritable? with
  | some m => .error (.audit (.misuse m))
  | none => (c.address endpoint).map fun url =>
    { url, method := if body.isSome then .post else .get, timeout := c.settings.timeout, body }

theorem sendTo_eq (endpoint : String) (body : Option Value)
    : c.sendTo endpoint body = orStop (c.requestTo endpoint body) >>= send := by
  have hwritable : body.elim (.ok ()) Json.writable =
      (body.bind Json.unwritable?).elim (.ok ()) .error := by
    cases body with
    | none => rfl
    | some v =>
      change Json.writable v = (Json.unwritable? v).elim _ _
      unfold Json.writable
      cases Json.unwritable? v <;> rfl
  unfold sendTo requestTo
  rw [hwritable]
  cases body.bind Json.unwritable? with
  | some m => rfl
  | none =>
    cases c.address endpoint with
    | error e => rfl
    | ok url => rfl

theorem sendTo_of_request {endpoint : String} {body : Option Value} {r : Request}
    (h : c.requestTo endpoint body = .ok r) : c.sendTo endpoint body = send r := by
  rw [sendTo_eq, h]
  rfl

/--
The fields of a reply that is an object.
-/
def replyFields? (bs : List Nat) : Option (Table Value) :=
  match readReply bs with
  | .ok (.object fields) => some fields
  | _ => none

theorem readReply_of_fields {bs : List Nat} {fields : Table Value} (h : replyFields? bs = some fields)
    : readReply bs = .ok (.object fields) := by
  unfold replyFields? at h
  split at h
  . next heq =>
    cases h
    exact heq
  . cases h

theorem request_on {endpoint : String} {body : Option Value} {r : Request} (hr : c.requestTo endpoint body = .ok r)
    {bs : List Nat} {reply : Value} (hread : readReply bs = .ok reply) (pending : List Reply) (handed : List Request)
    : (c.request endpoint body).on ⟨.bytes bs :: pending, handed⟩ = (.ok reply, ⟨pending, r :: handed⟩) := by
  unfold request
  rw [c.sendTo_of_request hr, on_bind_ok (on_send_bytes r bs pending handed), hread, on_orStop]

end Client

/-! ### Calls -/

/--
A question to a model: where it goes, the name under which its text stands there, its text, and the values
that are given with it in place of the settings.
-/
structure Question where
  endpoint : String
  name : String
  text : Value
  overrides : Table Value

/--
A call of a client.
-/
inductive Call where
  | setModel (model : Value)
  | generate (prompt : Value) (overrides : Table Value)
  | chat (messages : Value) (overrides : Table Value)
  | isAvailable
  | listModels
  | pullModel (name : Value)

namespace Call

/--
The question of a call, if it asks one.
-/
def question? : Call → Option Question
  | .generate prompt overrides => some ⟨"/api/generate", "prompt", prompt, overrides⟩
  | .chat messages overrides => some ⟨"/api/chat", "messages", messages, overrides⟩
  | _ => none

end Call

namespace Client

open Talk

variable (c : Client)

/--
What a call does over the wire.
-/
def perform : Call → Talk Unit
  | .setModel _ => pure ()
  | .generate prompt overrides => do let _ ← c.generate prompt overrides
  | .chat messages overrides => do let _ ← c.chat messages overrides
  | .isAvailable => do let _ ← c.isAvailable
  | .listModels => do let _ ← c.listModels
  | .pullModel name => do let _ ← c.pullModel name

/--
The client after a call.
-/
def after : Call → Client
  | .setModel model => c.setModel model
  | _ => c

/--
The request of a question.
-/
def questionRequest (q : Question) : Except Fault Request :=
  c.requestTo q.endpoint (some (c.questionBody q.name q.text q.overrides))

end Client

/-! ### Questions -/

namespace Question

/--
A value that is given with a question, or else that of the settings.
-/
def valueOr (q : Question) (name : String) (setting : Value) : Value :=
  (q.overrides.get? name).getD setting

/--
The values that a question is asked with.
-/
def values (q : Question) (s : Settings) : List Value :=
  [q.valueOr "model" s.model, q.text, q.valueOr "temperature" s.temperature, q.valueOr "top_p" s.topP,
    q.valueOr "max_tokens" s.maxTokens]

/--
A question for which there is a request: all its values can be written as JSON, and its address has a scheme.
-/
structure Askable (q : Question) (s : Settings) : Prop where
  written : ∀ v ∈ q.values s, Json.unwritable? v = none
  scheme : hasScheme (unwrapAddress (s.baseUrl.display ++ q.endpoint).toList) = true

/--
A request that asks a question: a post with the text, and with each value as it is given with the question, or
else as it is in the settings.
-/
structure AskedBy (q : Question) (s : Settings) (r : Request) : Prop where
  address : requestAddress (s.baseUrl.display ++ q.endpoint) = .ok r.url
  method : r.method = .post
  text : r.body.bind (·.field? q.name) = some q.text
  model : r.body.bind (·.field? "model") = some (q.valueOr "model" s.model)
  temperature : (r.body.bind (·.field? "options")).bind (·.field? "temperature") =
    some (q.valueOr "temperature" s.temperature)
  topP : (r.body.bind (·.field? "options")).bind (·.field? "top_p") = some (q.valueOr "top_p" s.topP)
  maxTokens : (r.body.bind (·.field? "options")).bind (·.field? "num_predict") =
    some (q.valueOr "max_tokens" s.maxTokens)

theorem exists_address_iff {url : String}
    : (∃ address, requestAddress url = .ok address) ↔ hasScheme (unwrapAddress url.toList) = true := by
  unfold requestAddress
  dsimp only
  split
  . next hscheme => simp [hscheme]
  . next hscheme => simp [hscheme]

theorem unwritable?_body (c : Client) (q : Question)
    : Json.unwritable? (c.questionBody q.name q.text q.overrides) = none ↔
        ∀ v ∈ q.values c.settings, Json.unwritable? v = none := by
  simp [Client.questionBody, Client.questionOptions, Json.unwritable?, Json.unwritableField?, values, valueOr,
    Client.model]

theorem Askable.exists_request {c : Client} {call : Call} {q : Question} (hq : call.question? = some q)
    (h : q.Askable c.settings) : ∃ r, c.questionRequest q = .ok r ∧ q.AskedBy c.settings r := by
  rcases exists_address_iff.mpr h.scheme with ⟨url, haddress⟩
  change c.address q.endpoint = .ok url at haddress
  unfold Client.questionRequest Client.requestTo
  rw [Option.bind_some, (unwritable?_body c q).mpr h.written, haddress]
  refine ⟨_, rfl, haddress, rfl, ?_, rfl, ?_, ?_, ?_⟩
  all_goals
    cases call with
    | generate prompt overrides =>
      cases hq
      rfl
    | chat messages overrides =>
      cases hq
      rfl
    | _ => cases hq

end Question

/-! ### Sessions -/

/--
A client in use: how it is set up now, and its wire.
-/
structure Session where
  client : Client
  wire : Wire

namespace Session

/--
The session after a call, whether the call succeeds or not.
-/
def step (s : Session) (call : Call) : Session :=
  ⟨s.client.after call, ((s.client.perform call).on s.wire).2⟩

/--
The session after some calls.
-/
def run (s : Session) (calls : List Call) : Session :=
  calls.foldl step s

end Session

end CodeAudit.Assist
