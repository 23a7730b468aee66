import CodeAudit.Proofs.Blank
import CodeAudit.Proofs.Session
import Mathlib.Data.List.Forall2

/-!
This module contains what comes of a response that is sent piece by piece. The texts of the pieces are put together in
order as long as every line holds a piece. A line keeps its end, so that a blank one is no empty one: it is read like
any other, and the stream stops there.
-/

namespace CodeAudit

/-! ### Blank texts -/

namespace Json

theorem mem_of_mem_skipBlanks {c : Char} {cs : List Char} (h : c ∈ skipBlanks cs) : c ∈ cs := by
  unfold skipBlanks at h
  exact (List.dropWhile_sublist _).subset h

theorem scalar_of_blank {c : Char} (h : Text.isBlank c = true) (cs : List Char)
    : scalar (c :: cs) = .error .malformed := by
  have hne : ∀ d, Text.isBlank d = false → (d == c) = false := by
    intro d hd
    rw [beq_eq_false_iff_ne]
    rintro rfl
    simp [h] at hd
  have hword : (words.find? fun entry => entry.1.isPrefixOf (c :: cs)) = none := by
    unfold words
    simp [List.isPrefixOf, hne 'n' rfl, hne 't' rfl, hne 'f' rfl, hne 'N' rfl, hne 'I' rfl, hne '-' rfl]
  unfold scalar
  rw [hword]
  dsimp only
  split
  . next heq =>
    cases heq
    cases h
  . next heq =>
    cases heq
    cases h
  . simp [unsigned, Text.isDigit_of_isBlank h]

/--
No value starts with a blank.
-/
theorem value_of_blank {c : Char} (h : Text.isBlank c = true) (fuel : Nat) (cs : List Char)
    : value (fuel + 1) (c :: cs) = .error .malformed := by
  unfold value
  split
  . next heq =>
    cases heq
    cases h
  . next heq =>
    cases heq
    cases h
  . apply scalar_of_blank h

theorem read_of_blank {cs : List Char} (h : cs.all Text.isBlank = true)
    : read (String.ofList cs) = .error .malformed := by
  unfold read
  rw [String.toList_ofList]
  cases hrest : skipBlanks cs with
  | nil => rfl
  | cons c rest =>
    have hc : c ∈ skipBlanks cs := by
      rw [hrest]
      apply List.mem_cons_self
    have hblank := List.all_eq_true.mp h c (mem_of_mem_skipBlanks hc)
    dsimp only
    rw [value_of_blank hblank]
    rfl

end Json

namespace Assist

/-! ### Lines -/

/--
Bytes that consist of the given lines. Each line ends with its line feed, which the last one may lack, and has no
other.
-/
inductive Lined : List Nat → List (List Nat) → Prop where
  | nil : Lined [] []
  | last {line : List Nat} (hline : line ≠ []) (hend : 10 ∉ line) : Lined line [line]
  | cons {line rest : List Nat} {lines : List (List Nat)} (hend : 10 ∉ line) (hrest : Lined rest lines)
    : Lined (line ++ 10 :: rest) ((line ++ [10]) :: lines)

namespace Client

theorem replyLines_go_append {line : List Nat} (hend : 10 ∉ line) (before rest : List Nat)
    : replyLines.go before (line ++ rest) = replyLines.go (line.reverse ++ before) rest := by
  induction line generalizing before with
  | nil => rfl
  | cons b line ih =>
    rw [List.mem_cons, not_or] at hend
    have hb : (b == 10) = false := by
      simpa using Ne.symm hend.1
    simp [replyLines.go, hb, ih hend.2]

theorem replyLines_go_nil {before : List Nat} (h : before ≠ []) : replyLines.go before [] = [before.reverse] := by
  cases before with
  | nil => contradiction
  | cons b before => rfl

theorem replyLines_of_lined {bs : List Nat} {lines : List (List Nat)} (h : Lined bs lines) : replyLines bs = lines := by
  unfold replyLines
  induction h with
  | nil => rfl
  | @last line hline hend =>
    rw [← List.append_nil line, replyLines_go_append hend, replyLines_go_nil]
    . simp
    . simpa using hline
  | cons hend hrest ih =>
    rw [replyLines_go_append hend, replyLines.go, ih]
    simp

theorem lined_go {before : List Nat} (hend : 10 ∉ before) (bs : List Nat)
    : Lined (before.reverse ++ bs) (replyLines.go before bs) := by
  induction bs generalizing before with
  | nil =>
    cases before with
    | nil => apply Lined.nil
    | cons b before =>
      rw [List.append_nil]
      apply Lined.last
      . simp
      . rwa [List.mem_reverse]
  | cons b bs ih =>
    by_cases hb : b = 10
    . simp only [replyLines.go, hb, BEq.rfl, ↓reduceIte, List.reverse_cons]
      apply Lined.cons
      . rwa [List.mem_reverse]
      . apply ih List.not_mem_nil
    . have hnext : 10 ∉ b :: before := by
        rw [List.mem_cons, not_or]
        exact ⟨Ne.symm hb, hend⟩
      simpa [replyLines.go, hb] using ih hnext

theorem lined_iff {bs : List Nat} {lines : List (List Nat)} : Lined bs lines ↔ replyLines bs = lines := by
  constructor
  . apply replyLines_of_lined
  . rintro rfl
    apply lined_go List.not_mem_nil

/-! ### Pieces -/

/--
The text that the fields of a piece add to the response: the response in it, or else the content of the message in it,
where there is any.
-/
def pieceText? (fields : Table Value) : Option String :=
  match fields.get? "response", fields.get? "message" with
  | some (.text s), _ => some s
  | none, some (.object message) =>
    match Table.get? message "content" with
    | some (.text s) => some s
    | none => some ""
    | _ => none
  | none, none => some ""
  | _, _ => none

/--
The text that a line of a stream adds to the response, if the line holds a piece.
-/
def piece? (line : List Nat) : Option String :=
  (replyFields? line).bind pieceText?

/--
What a line of a stream holds: a piece that adds a text, or nothing but blanks.
-/
inductive Holds : List Nat → Option String → Prop where
  | piece {line : List Nat} {s : String} (h : piece? line = some s) : Holds line (some s)
  | blank {line : List Nat} {cs : List Char} (h : Text.decode line = .ok cs)
    (hblank : cs.all Text.isBlank = true) : Holds line none

theorem chunkText_of_pieceText? {fields : Table Value} {s : String} (h : pieceText? fields = some s)
    : chunkText (.object fields) = .ok (.text s) := by
  unfold chunkText mentions part Table.has
  unfold pieceText? at h
  split at h
  . next t hresponse =>
    cases h
    simp [hresponse, bind, Except.bind]
  . next message hresponse hmessage =>
    split at h
    . next t hcontent =>
      cases h
      simp [hresponse, hmessage, fieldOr, Value.fieldsFor, hcontent, bind, Except.bind, pure, Except.pure]
    . next hcontent =>
      cases h
      simp [hresponse, hmessage, fieldOr, Value.fieldsFor, hcontent, bind, Except.bind, pure, Except.pure]
    . cases h
  . next hresponse hmessage =>
    cases h
    simp [hresponse, hmessage, bind, Except.bind, pure, Except.pure]
  . cases h

theorem streamText_piece {line : List Nat} {s : String} (h : piece? line = some s) (before : String)
    (rest : List (List Nat)) : streamText (.text before) (line :: rest) = streamText (.text (before ++ s)) rest := by
  rcases Option.bind_eq_some_iff.mp h with ⟨fields, hfields, htext⟩
  rw [streamText, readReply_of_fields hfields]
  dsimp only [bind, Except.bind]
  rw [chunkText_of_pieceText? htext]
  rfl

theorem streamText_blank {line : List Nat} {cs : List Char} (h : Text.decode line = .ok cs)
    (hblank : cs.all Text.isBlank = true) (before : Value) (rest : List (List Nat))
    : streamText before (line :: rest) = .error (.audit (.json .malformed)) := by
  unfold streamText readReply
  rw [h]
  dsimp only
  rw [Json.read_of_blank hblank]
  rfl

/--
The texts of the pieces are put together after what has come before, unless a line is blank.
-/
theorem streamText_of_holds {lines : List (List Nat)} {pieces : List (Option String)}
    (h : List.Forall₂ Holds lines pieces) (before : String)
    : streamText (.text before) lines =
        if none ∈ pieces then .error (.audit (.json .malformed))
        else .ok (.text (before ++ String.join (pieces.filterMap id))) := by
  induction h generalizing before with
  | nil => simp [streamText, String.join]
  | cons hline hrest ih =>
    cases hline with
    | piece hpiece =>
      rw [streamText_piece hpiece, ih]
      simp [String.append_assoc]
    | blank hdecode hblank =>
      rw [streamText_blank hdecode hblank]
      simp

/-! ### Streams -/

theorem stream_on (c : Client) {endpoint : String} {body : Value} {r : Request}
    (hr : c.requestTo endpoint (some body) = .ok r) (bs : List Nat) (pending : List Reply) (handed : List Request)
    : (c.stream endpoint body).on ⟨.bytes bs :: pending, handed⟩ =
        (streamText (.text "") (replyLines bs), ⟨pending, r :: handed⟩) := by
  unfold stream
  rw [c.sendTo_of_request hr, Talk.on_bind_ok (Talk.on_send_bytes r bs pending handed), Talk.on_orStop]

/--
A reply whose lines hold pieces comes to the texts of the pieces in order. A blank line among them stops it, wherever it
stands, and all that came before is lost.
-/
theorem stream_joins_unless_blank {c : Client} {endpoint : String} {body : Value} {r : Request}
    (hr : c.requestTo endpoint (some body) = .ok r) {bs : List Nat} {lines : List (List Nat)} (hlines : Lined bs lines)
    {pieces : List (Option String)} (hpieces : List.Forall₂ Holds lines pieces) (pending : List Reply)
    (handed : List Request)
    : (c.stream endpoint body).on ⟨.bytes bs :: pending, handed⟩ =
        (if none ∈ pieces then .error (.audit (.json .malformed))
          else .ok (.text (String.join (pieces.filterMap id))),
        ⟨pending, r :: handed⟩) := by
  rw [c.stream_on hr, replyLines_of_lined hlines, streamText_of_holds hpieces, String.empty_append]

/--
A request for a stream from a server on this machine.
-/
def localRequest : Request :=
  { url := "http://localhost:11434/api/chat", method := .post, timeout := .int 120, body := some (.object []) }

theorem requestTo_local : (make none .null).requestTo "/api/chat" (some (.object [])) = .ok localRequest := by
  rfl

-- All kinds of pieces, the last one without the end of its line.
def greetingLines : List (List Nat) :=
  ["\x7b\"response\": \"Hel\"\x7d\n", "\x7b\"message\": \x7b\"content\": \"lo\"\x7d\x7d\n",
    "\x7b\"message\": \x7b\x7d\x7d\r\n", "\x7b\"done\": true\x7d"].map fun line => line.toList.map Char.toNat

theorem stream_joins_unless_blank_greeting
    : Lined greetingLines.flatten greetingLines ∧
      List.Forall₂ Holds greetingLines [some "Hel", some "lo", some "", some ""] ∧
      ((make none .null).stream "/api/chat" (.object [])).on ⟨[.bytes greetingLines.flatten], []⟩ =
        (.ok (.text "Hello"), ⟨[], [localRequest]⟩) := by
  have hlined : Lined greetingLines.flatten greetingLines := by
    rw [lined_iff]
    decide +kernel
  have hholds : List.Forall₂ Holds greetingLines [some "Hel", some "lo", some "", some ""] := by
    refine .cons (.piece ?_) (.cons (.piece ?_) (.cons (.piece ?_) (.cons (.piece ?_) .nil)))
    all_goals decide +kernel
  refine ⟨hlined, hholds, ?_⟩
  rw [stream_joins_unless_blank requestTo_local hlined hholds]
  rfl

-- Two pieces with a line between them that only keeps the connection open.
def pausedLines : List (List Nat) :=
  ["\x7b\"response\": \"a\"\x7d\n", "\n", "\x7b\"response\": \"b\"\x7d\n"].map fun line =>
    line.toList.map Char.toNat

/--
A blank line between two pieces is not passed over.
-/
theorem stream_stops_at_pause
    : List.Forall₂ Holds pausedLines [some "a", none, some "b"] ∧
      ((make none .null).stream "/api/chat" (.object [])).on ⟨[.bytes pausedLines.flatten], []⟩ =
        (.error (.audit (.json .malformed)), ⟨[], [localRequest]⟩) := by
  have hlines : replyLines pausedLines.flatten = pausedLines := by
    decide +kernel
  have hholds : List.Forall₂ Holds pausedLines [some "a", none, some "b"] := by
    refine .cons (.piece ?_) (.cons (@Holds.blank _ ['\n'] ?_ ?_) (.cons (.piece ?_) .nil))
    all_goals decide +kernel
  refine ⟨hholds, ?_⟩
  rw [stream_on _ requestTo_local, hlines, streamText_of_holds hholds]
  rfl

end Client

end Assist

end CodeAudit
