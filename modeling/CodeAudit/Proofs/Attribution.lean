import CodeAudit.Proofs.Session

/-!
This module contains which model a response names. Where the server does not say which model it asked, the response
names the one of the settings, also if another one was given with the question.
-/

namespace CodeAudit.Assist

/-! ### Manners -/

/--
The ways to ask a model: with a text to go on from, or with a dialogue.
-/
inductive Manner where
  | text
  | dialogue

namespace Manner

/--
A question that is asked in this way.
-/
def question : Manner → Value → Table Value → Question
  | .text, prompt, overrides => ⟨"/api/generate", "prompt", prompt, overrides⟩
  | .dialogue, messages, overrides => ⟨"/api/chat", "messages", messages, overrides⟩

/--
The call that asks in this way.
-/
def call : Manner → Value → Table Value → Call
  | .text, prompt, overrides => .generate prompt overrides
  | .dialogue, messages, overrides => .chat messages overrides

theorem question?_call (m : Manner) (v : Value) (overrides : Table Value)
    : (m.call v overrides).question? = some (m.question v overrides) := by
  cases m <;> rfl

end Manner

/-! ### Replies -/

/--
The number of tokens that a reply tells.
-/
def toldTokens (fields : Table Value) : Except Misuse Value :=
  Client.totalTokens ((fields.get? "prompt_eval_count").getD .null) ((fields.get? "eval_count").getD .null)

/--
A reply with a response in it: the message of a dialogue has fields, and the numbers of tokens have a sum.
-/
structure Manner.Legible (m : Manner) (fields : Table Value) : Prop where
  message : m = .dialogue → ∃ message, (fields.get? "message").getD (.object []) = .object message
  tokens : ∃ total, toldTokens fields = .ok total

namespace Client

open Talk

variable (c : Client) (m : Manner)

/--
Ask a model.
-/
def ask : Manner → Value → Table Value → Talk Response
  | .text, prompt, overrides => c.generate prompt overrides
  | .dialogue, messages, overrides => c.chat messages overrides

/--
The response in a reply.
-/
def responseIn : Manner → Value → Except Misuse Response
  | .text, reply => c.textResponse reply
  | .dialogue, reply => c.dialogueResponse reply

theorem ask_eq (v : Value) (overrides : Table Value)
    : c.ask m v overrides =
        (c.request (m.question v overrides).endpoint
          (some (c.questionBody (m.question v overrides).name v overrides)) >>= fun reply =>
            orMisuse (c.responseIn m reply)) := by
  cases m <;> rfl

theorem ask_on {v : Value} {overrides : Table Value} {r : Request}
    (hr : c.questionRequest (m.question v overrides) = .ok r) {bs : List Nat} {reply : Value}
    (hread : readReply bs = .ok reply) (pending : List Reply) (handed : List Request)
    : (c.ask m v overrides).on ⟨.bytes bs :: pending, handed⟩ =
        ((c.responseIn m reply).mapError fun e => .audit (.misuse e), ⟨pending, r :: handed⟩) := by
  have hrequest : c.requestTo (m.question v overrides).endpoint
      (some (c.questionBody (m.question v overrides).name v overrides)) = .ok r := by
    cases m <;> exact hr
  rw [ask_eq, on_bind_ok (c.request_on hrequest hread pending handed), on_orMisuse]

theorem response_cases (fields : Table Value) (content : Value) (facts : List String)
    : (∃ e, toldTokens fields = .error e ∧ c.response fields content facts = .error e) ∨
      ∃ total x, toldTokens fields = .ok total ∧ c.response fields content facts = .ok x ∧
        x.model = (fields.get? "model").getD c.model := by
  unfold response
  dsimp only
  cases htokens : toldTokens fields with
  | error e =>
    unfold toldTokens at htokens
    rw [htokens]
    exact .inl ⟨e, rfl, rfl⟩
  | ok total =>
    unfold toldTokens at htokens
    rw [htokens]
    exact .inr ⟨total, _, rfl, rfl, rfl⟩

variable {m} {fields : Table Value}

theorem responseIn_of_message
    (h : m = .dialogue → ∃ message, (fields.get? "message").getD (.object []) = .object message)
    : ∃ content facts, c.responseIn m (.object fields) = c.response fields content facts := by
  cases m with
  | text => exact ⟨_, _, rfl⟩
  | dialogue =>
    rcases h rfl with ⟨message, hmessage⟩
    refine ⟨(Table.get? message "content").getD (.text ""), ["done"], ?_⟩
    unfold responseIn dialogueResponse Value.fieldsFor
    dsimp only [bind, Except.bind]
    rw [hmessage]
    rfl

theorem responseIn_of_no_message (h : ¬ ∃ message, (fields.get? "message").getD (.object []) = .object message)
    : ∃ e, c.responseIn .dialogue (.object fields) = .error e := by
  unfold responseIn dialogueResponse Value.fieldsFor fieldOr
  dsimp only [bind, Except.bind]
  cases hmessage : (fields.get? "message").getD (.object []) with
  | object message => exact absurd ⟨message, hmessage⟩ h
  | _ => exact ⟨_, rfl⟩

/--
A legible reply comes to a response, which names the model of the reply or else the one of the settings. No other reply
does.
-/
theorem responseIn_spec (m : Manner) (fields : Table Value)
    : (m.Legible fields → ∃ x, c.responseIn m (.object fields) = .ok x ∧
        x.model = (fields.get? "model").getD c.model) ∧
      (¬ m.Legible fields → ∃ e, c.responseIn m (.object fields) = .error e) := by
  by_cases hmessage : m = .dialogue → ∃ message, (fields.get? "message").getD (.object []) = .object message
  . rcases c.responseIn_of_message hmessage with ⟨content, facts, heq⟩
    rw [heq]
    rcases c.response_cases fields content facts with ⟨e, htokens, he⟩ | ⟨total, x, htokens, hx, hmodel⟩
    . constructor
      . intro hlegible
        rcases hlegible.tokens with ⟨total, htotal⟩
        rw [htokens] at htotal
        cases htotal
      . intro _
        exact ⟨e, he⟩
    . constructor
      . intro _
        exact ⟨x, hx, hmodel⟩
      . intro hlegible
        exact absurd ⟨hmessage, total, htokens⟩ hlegible
  . constructor
    . intro hlegible
      exact absurd hlegible.message hmessage
    . intro _
      rw [Classical.not_imp] at hmessage
      rcases hmessage with ⟨rfl, hnone⟩
      exact c.responseIn_of_no_message hnone

/--
A question is asked of the model that is given with it, or else of the one of the settings. If the reply names no model,
the response names the one of the settings in any case. So it names the model that was asked exactly if no other one was
given with the question.
-/
theorem ask_names_settings (m : Manner) (v : Value) (overrides : Table Value)
    (haskable : (m.question v overrides).Askable c.settings) {bs : List Nat} {fields : Table Value}
    (hfields : replyFields? bs = some fields) (hmodel : fields.get? "model" = none) (pending : List Reply)
    (handed : List Request)
    : let asked := (overrides.get? "model").getD c.model
      ∃ r outcome,
        (c.ask m v overrides).on ⟨.bytes bs :: pending, handed⟩ = (outcome, ⟨pending, r :: handed⟩) ∧
        r.body.bind (·.field? "model") = some asked ∧
        (m.Legible fields → ∃ x, outcome = .ok x ∧ x.model = c.model ∧
          (x.model = asked ↔ ∀ model, overrides.get? "model" = some model → model = c.model)) ∧
        (¬ m.Legible fields → ∃ e, outcome = .error e) := by
  intro asked
  rcases haskable.exists_request (m.question?_call v overrides) with ⟨r, hr, hasked⟩
  refine ⟨r, _, c.ask_on m hr (readReply_of_fields hfields) pending handed, ?_, ?_, ?_⟩
  . have hask := hasked.model
    cases m <;> exact hask
  . intro hlegible
    rcases (c.responseIn_spec m fields).1 hlegible with ⟨x, hx, hname⟩
    rw [hmodel, Option.getD_none] at hname
    refine ⟨x, ?_, hname, ?_⟩
    . rw [hx]
      rfl
    . rw [hname]
      cases hgiven : overrides.get? "model" with
      | none => simp [asked, hgiven]
      | some model => simp [asked, hgiven, eq_comm]
  . intro hlegible
    rcases (c.responseIn_spec m fields).2 hlegible with ⟨e, he⟩
    rw [he]
    exact ⟨_, rfl⟩

-- A reply without any fields.
theorem replyFields?_braces : replyFields? [0x7b, 0x7d] = some [] := by
  have hempty : (replyFields? [0x7b, 0x7d]).any List.isEmpty = true := by
    decide +kernel
  rcases (Option.any_eq_true ..).mp hempty with ⟨fields, hfields, hnil⟩
  rw [hfields, List.isEmpty_iff.mp hnil]

theorem ask_names_settings_braces
    : ∃ r x, ((make none .null).ask .dialogue (.list []) [("temperature", .int 0)]).on ⟨[.bytes [0x7b, 0x7d]], []⟩ =
        (.ok x, ⟨[], [r]⟩) ∧
      r.body.bind (·.field? "model") = some (.text defaultModel) ∧ x.model = .text defaultModel := by
  have haskable : (Manner.dialogue.question (.list []) [("temperature", .int 0)]).Askable
      (make none .null).settings := by
    refine ⟨?_, by decide +kernel⟩
    simp only [Question.values, List.forall_mem_cons]
    exact ⟨rfl, rfl, rfl, rfl, rfl, List.forall_mem_nil _⟩
  rcases ask_names_settings (make none .null) .dialogue _ _ haskable replyFields?_braces rfl [] [] with
    ⟨r, outcome, hon, hasked, hnames, -⟩
  rcases hnames ⟨fun _ => ⟨[], rfl⟩, _, rfl⟩ with ⟨x, rfl, hname, -⟩
  exact ⟨r, x, hon, hasked, hname⟩

/--
A client that asks a model of its own unless told otherwise.
-/
def ownClient : Client := make (some { model := .text "m" }) .null

/--
The response names the model of the settings, although another one was asked.
-/
theorem ask_ownClient_misnames
    : ∃ r x, (ownClient.ask .text (.text "hi") [("model", .text "x")]).on ⟨[.bytes [0x7b, 0x7d]], []⟩ =
        (.ok x, ⟨[], [r]⟩) ∧
      r.body.bind (·.field? "model") = some (.text "x") ∧ x.model = .text "m" := by
  have hr : ownClient.questionRequest (Manner.text.question (.text "hi") [("model", .text "x")]) =
      .ok { url := "http://localhost:11434/api/generate", method := .post, timeout := .int 120,
            body := some (ownClient.questionBody "prompt" (.text "hi") [("model", .text "x")]) } := by
    rfl
  refine ⟨_, _, ownClient.ask_on .text hr (readReply_of_fields replyFields?_braces) [] [], rfl, rfl⟩

end Client

end CodeAudit.Assist
