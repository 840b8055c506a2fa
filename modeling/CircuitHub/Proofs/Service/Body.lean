import CircuitHub.Proofs.Json.Spelling
import CircuitHub.Service.Answer

/-!
# What a call holds

A service with a key makes one call for every request (`Service.call_of_key`). What is sent with it
is read by whoever receives it. It means the prompt as it is, in the only turn of the
conversation, and the instruction as it is, where there is one (`Service.ofBytes?_bytes_of_call`).
Neither of them has to be checked or cleaned before: each of the two texts is one string, whatever
stands in it, and stays in its place.
-/

namespace CircuitHub

/-- What a call holds, as it is sent. -/
def Call.bytes (call : Call) : List UInt8 := Text.encode call.body.write

/-- The value that makes up all of some bytes. -/
def JsonValue.ofBytes? (bytes : List UInt8) : Option JsonValue :=
  (Text.decode? bytes).bind read?

namespace Service

/-- A call holds no numbers. -/
theorem isRegular_tokens_body (request : Request) :
    ∀ token ∈ (body request).tokens, token.IsRegular := by
  unfold body
  split <;>
    simp [JsonValue.ofMembers, JsonValue.ofText, partsOf, JsonValue.tokens, JsonValue.itemTokens,
      JsonValue.memberTokens, JsonToken.IsRegular]

/-- Where there is a key, a call is made for every request. -/
theorem call_of_key {service : Service} {key : Text} (hkey : service.key? = some key)
    (request : Request) : service.call request =
      .ok ⟨service.endpoint request.model, [("key", key)], body request⟩ := by
  rw [call, hkey]

/-- All that comes of a request is what comes of its call, however that is sent. -/
theorem generate_of_call {service : Service} {request : Request} {call : Call}
    (h : service.call request = .ok call) (send : Call → Response) :
    service.generate send request = (send call).outcome := by
  rw [generate, h]
  rfl

/-- Where there is a key, every request is one call, and nothing else is sent. What the call holds
    is read as an object with one turn of the user, which has one part, and with the instruction,
    likewise of one part, unless that is empty, and with nothing else. The texts of the two parts
    are the prompt and the instruction, whatever characters they consist of. -/
theorem ofBytes?_bytes_of_call {service : Service} {key : Text} (hkey : service.key? = some key)
    (request : Request) :
    ∃ call, service.call request = .ok call ∧
      (∀ send, service.generate send request = (send call).outcome) ∧
      JsonValue.ofBytes? call.bytes = some (.object (
        (some "contents", .array [.object [
          (some "role", .string (some "user")),
          (some "parts", .array [.object [(some "text", .string (some request.prompt))]])]]) ::
        if request.instruction = [] then []
        else [(some "systemInstruction", .object [(some "parts", .array [.object [
          (some "text", .string (some request.instruction))]])])])) := by
  have made := call_of_key hkey request
  refine ⟨_, made, generate_of_call made, ?_⟩
  have whole : JsonValue.read? (body request).write = some (body request) :=
    JsonValue.read?_write (isRegular_tokens_body request)
  rw [JsonValue.ofBytes?, Call.bytes, Text.decode?_encode, Option.bind_some, whole]
  by_cases hi : request.instruction = [] <;>
    simp [body, partsOf, JsonValue.ofMembers, JsonValue.ofText, hi]

/-- A prompt that ends its string and its object, and goes on with marks, a control character and
    one beyond sixteen bits. -/
def unruly : Request := ⟨"m", "\"\x7d]\x7d],\\\n\x01😀", "\"\x7d"⟩

theorem ofBytes?_bytes_of_call_unruly :
    ∃ call, (Service.ofKey (some "k") "http://[::1]:8080/").call unruly = .ok call ∧
      call.address = "http://[::1]:8080/models/m:generateContent" ∧
      JsonValue.ofBytes? call.bytes = some (.object [
        (some "contents", .array [.object [
          (some "role", .string (some "user")),
          (some "parts", .array [.object [(some "text", .string (some unruly.prompt))]])]]),
        (some "systemInstruction", .object [(some "parts", .array [.object [
          (some "text", .string (some unruly.instruction))]])])]) := by
  have hkey : (Service.ofKey (some "k") "http://[::1]:8080/").key? = some "k" := rfl
  obtain ⟨call, made, -, means⟩ := ofBytes?_bytes_of_call hkey unruly
  refine ⟨call, made, ?_, means⟩
  cases made
  rfl

end Service

end CircuitHub
