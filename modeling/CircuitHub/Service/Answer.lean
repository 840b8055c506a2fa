import CircuitHub.Service.Call

/-!
# Answers of the service

The service answers a call with a status and some bytes. If it has generated text, the bytes hold
candidates, and the reply is the text of the first of them. If it has failed, they may hold an error
with a message, and otherwise are the message themselves.
-/

namespace CircuitHub

/-- What comes back from a call. -/
inductive Response where
  /-- No answer: the call cannot be sent, or the connection ends. -/
  | failed (message : Text)
  /-- An answer of which the connection ends before all of it has come. -/
  | cut (status : Nat) (message : Text)
  /-- An answer. -/
  | answer (status : Nat) (body : List UInt8)
  deriving DecidableEq, Repr

/-- One of the texts that the service offers: its parts, each with or without text, if it has any
    content. -/
structure Candidate where
  /-- The texts of the parts. -/
  parts? : Option (List (Option Text))
  deriving DecidableEq, Repr

/-- What the service tells of an error. -/
structure Failure where
  /-- What went wrong. -/
  message? : Option Text
  /-- The kind of the error. -/
  status? : Option Text
  deriving DecidableEq, Repr

namespace Candidate

/-- The text of a part. -/
def partText? (v : JsonValue) : Option (Option Text) :=
  (v.soleMember? "text" 1).bind (JsonValue.optional? JsonValue.text?)

/-- The texts of the parts of some content. -/
def parts (v : JsonValue) : Option (List (Option Text)) :=
  (v.soleMember? "parts" 0).bind (JsonValue.list? partText?)

/-- The candidate that a value holds. -/
def ofJson? (v : JsonValue) : Option Candidate :=
  ((v.soleMember? "content" 1).bind (JsonValue.optional? parts)).map Candidate.mk

/-- The candidates of an answer. -/
def listOfJson? (v : JsonValue) : Option (List Candidate) :=
  (v.soleMember? "candidates" 0).bind (JsonValue.list? ofJson?)

/-- The text of a candidate: that of all its parts. -/
def text (c : Candidate) : Text := ((c.parts?.getD []).filterMap id).flatten

/-- The reply that candidates make. -/
def reply (candidates : List Candidate) : Text := (candidates.head?.map text).getD []

end Candidate

namespace Failure

/-- The failure that a value describes. -/
def ofDescription? (v : JsonValue) : Option Failure :=
  match v.record? ["message", "status"] 2 with
  | some [message?, status?] => do
    some ⟨← JsonValue.optional? JsonValue.text? message?,
      ← JsonValue.optional? JsonValue.text? status?⟩
  | _ => none

/-- The failure that an answer holds. -/
def ofJson? (v : JsonValue) : Option Failure :=
  ((v.soleMember? "error" 1).bind id).bind ofDescription?

/-- What is shown of an answer that tells of a failure: its message after its kind, or else all of
    the answer. -/
def describe (body : Text) : Text :=
  match (JsonValue.read? body).bind ofJson? with
  | none => body
  | some failure =>
    let message := failure.message?.getD body
    match failure.status? with
    | some (c :: status) => c :: status ++ ": " ++ message
    | _ => message

end Failure

namespace Response

/-- Statuses are numbers of three digits. -/
def isStatus (status : Nat) : Bool := 100 ≤ status && status ≤ 999

/-- Statuses with which the service only announces an answer. -/
def isInterim (status : Nat) : Bool := 100 ≤ status && status < 200 && status != 101

/-- Statuses of answers without content, whatever follows them. -/
def hasNoContent (status : Nat) : Bool := status == 101 || status == 204 || status == 304

/-- What an answer comes to of which some text has come, or else an error. -/
def ofText (status : Nat) (text : Except Text Text) : Outcome :=
  if 200 ≤ status && status < 300 then
    match text with
    | .ok text =>
      match (JsonValue.read? text).bind Candidate.listOfJson? with
      | some candidates => .ok (Candidate.reply candidates)
      | none => .error (.parse "Failed to parse Gemini response")
    | .error message => .error (.network message)
  else .error (.api status (Failure.describe (text.toOption.getD "unknown error")))

/-- What a response comes to. -/
def outcome : Response → Outcome
  | failed message => .error (.network message)
  | cut status message =>
    if !isStatus status || isInterim status then .error (.network message)
    else ofText status (.error message)
  | answer status body =>
    if !isStatus status || isInterim status then .error (.network "no answer")
    else ofText status (.ok (if hasNoContent status then [] else Text.decodeMarked body))

end Response

/-- What the service comes to for a request, if calls are answered by `send`. -/
def Service.generate (service : Service) (send : Call → Response) (request : Request) : Outcome :=
  (service.call request).bind fun call => (send call).outcome

end CircuitHub
