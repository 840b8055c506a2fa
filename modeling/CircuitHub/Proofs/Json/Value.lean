import CircuitHub.Json.Basic
import CircuitHub.Proofs.Json.Token

/-!
# The tokens of values

The tokens of a value are read as that value, whatever tokens follow (`ofTokens?_tokens_append`). No
text in it, as a string or as a name, can change how it is nested: a text is one token, and the
tokens of a value are those of its parts between marks of their own. Between two numbers of a value
there always is a mark (`apart_tokens_append`).
-/

namespace CircuitHub

namespace JsonToken

/-! ### Marks between numbers -/

/-- No number follows a number. -/
def Apart (tokens : List JsonToken) : Prop :=
  tokens.IsChain fun a b => a.isNumber = true → b.isNumber = false

/-- Tokens that may follow any value, as the first of them is no number. -/
structure MayFollow (tokens : List JsonToken) : Prop where
  apart : Apart tokens
  head : ∀ token ∈ tokens.head?, token.isNumber = false

variable {token : JsonToken} {rest : List JsonToken}

theorem MayFollow.apart_cons (h : MayFollow rest) (token : JsonToken) : Apart (token :: rest) :=
  List.isChain_cons.2 ⟨fun next hn _ => h.head next hn, h.apart⟩

/-- Anything may follow a mark. -/
theorem Apart.mayFollow (h : Apart rest) (hn : token.isNumber = false) :
    MayFollow (token :: rest) where
  apart := List.isChain_cons.2 ⟨fun _ _ hn' => absurd hn' (by simp [hn]), h⟩
  head := by simpa using hn

end JsonToken

namespace JsonValue

open JsonToken (Apart MayFollow)

mutual

theorem apart_tokens_append {rest : List JsonToken} (h : MayFollow rest) :
    ∀ v : JsonValue, Apart (v.tokens ++ rest)
  | null | boolean _ | number _ | string _ => h.apart_cons _
  | array items => by
    rw [tokens, List.cons_append, List.cons_append, List.append_assoc]
    exact ((apart_itemTokens_append (h.apart.mayFollow rfl) items).mayFollow rfl).apart
  | object members => by
    rw [tokens, List.cons_append, List.cons_append, List.append_assoc]
    exact ((apart_memberTokens_append (h.apart.mayFollow rfl) members).mayFollow rfl).apart

theorem apart_itemTokens_append {rest : List JsonToken} (h : MayFollow rest) :
    ∀ items : List JsonValue, Apart (itemTokens items ++ rest)
  | [] => h.apart
  | [v] => apart_tokens_append h v
  | v :: w :: items => by
    rw [itemTokens, List.append_assoc]
    · exact apart_tokens_append ((apart_itemTokens_append h (w :: items)).mayFollow rfl) v
    · simp

theorem apart_memberTokens_append {rest : List JsonToken} (h : MayFollow rest) :
    ∀ members : List (Option Text × JsonValue), Apart (memberTokens members ++ rest)
  | [] => h.apart
  | [(_, v)] => (((apart_tokens_append h v).mayFollow rfl).apart.mayFollow rfl).apart
  | (_, v) :: m :: members => by
    rw [memberTokens, List.append_assoc]
    · have following := (apart_memberTokens_append h (m :: members)).mayFollow
        (show JsonToken.comma.isNumber = false from rfl)
      exact (((apart_tokens_append following v).mayFollow rfl).apart.mayFollow rfl).apart
    · simp

end

/-! ### Reading tokens -/

/-- No value begins with the end of an array. -/
theorem tokens_eq_cons (v : JsonValue) :
    ∃ token rest, v.tokens = token :: rest ∧ token ≠ .closeArray := by
  cases v <;> exact ⟨_, _, rfl, by simp⟩

theorem itemTokens_eq_cons (v : JsonValue) (items : List JsonValue) :
    ∃ token rest, itemTokens (v :: items) = token :: rest ∧ token ≠ .closeArray := by
  obtain ⟨token, rest, h, hne⟩ := tokens_eq_cons v
  cases items with
  | nil => exact ⟨token, rest, h, hne⟩
  | cons w items => exact ⟨token, _, by rw [itemTokens, h]; rfl; simp, hne⟩

theorem memberTokens_eq_cons (m : Option Text × JsonValue)
    (members : List (Option Text × JsonValue)) :
    ∃ rest, memberTokens (m :: members) = .string m.1 :: rest := by
  cases members with
  | nil => exact ⟨_, rfl⟩
  | cons m' members => exact ⟨_, rfl⟩

mutual

/-- The tokens of a value are read as that value. -/
theorem ofTokens?_tokens_append (rest : List JsonToken) :
    ∀ (v : JsonValue) (n : Nat), v.tokens.length < n →
      ofTokens? n (v.tokens ++ rest) = some (v, rest)
  | _, 0, h => nomatch h
  | null, _ + 1, _ | boolean _, _ + 1, _ | number _, _ + 1, _ | string _, _ + 1, _ => rfl
  | array [], _ + 1, _ | object [], _ + 1, _ => rfl
  | array (v :: items), n + 1, h => by
    obtain ⟨token, row, hrow, hne⟩ := itemTokens_eq_cons v items
    have hn : (itemTokens (v :: items)).length + 1 < n := by
      simp only [tokens, List.length_append, List.length_cons, List.length_nil] at h
      omega
    have items := itemsOfTokens?_itemTokens_append rest v items n hn
    rw [tokens, List.cons_append, List.cons_append, List.append_assoc, List.singleton_append]
    rw [hrow, List.cons_append] at items ⊢
    simp [ofTokens?, hne, items]
  | object (m :: members), n + 1, h => by
    obtain ⟨row, hrow⟩ := memberTokens_eq_cons m members
    have hn : (memberTokens (m :: members)).length + 1 < n := by
      simp only [tokens, List.length_append, List.length_cons, List.length_nil] at h
      omega
    have members := membersOfTokens?_memberTokens_append rest m members n hn
    rw [tokens, List.cons_append, List.cons_append, List.append_assoc, List.singleton_append]
    rw [hrow, List.cons_append] at members ⊢
    simp [ofTokens?, members]

theorem itemsOfTokens?_itemTokens_append (rest : List JsonToken) :
    ∀ (v : JsonValue) (items : List JsonValue) (n : Nat),
      (itemTokens (v :: items)).length + 1 < n →
      itemsOfTokens? n (itemTokens (v :: items) ++ .closeArray :: rest) = some (v :: items, rest)
  | _, _, 0, h => nomatch h
  | v, [], n + 1, h => by
    have first := ofTokens?_tokens_append (.closeArray :: rest) v n (by simpa [itemTokens] using h)
    simp [itemTokens, itemsOfTokens?, first]
  | v, w :: items, n + 1, h => by
    simp only [itemTokens, List.length_append, List.length_cons] at h
    have first := ofTokens?_tokens_append
      (.comma :: itemTokens (w :: items) ++ .closeArray :: rest) v n (by omega)
    have following := itemsOfTokens?_itemTokens_append rest w items n (by omega)
    simp_all [itemTokens, itemsOfTokens?]

theorem membersOfTokens?_memberTokens_append (rest : List JsonToken) :
    ∀ (m : Option Text × JsonValue) (members : List (Option Text × JsonValue)) (n : Nat),
      (memberTokens (m :: members)).length + 1 < n →
      membersOfTokens? n (memberTokens (m :: members) ++ .closeObject :: rest) =
        some (m :: members, rest)
  | _, _, 0, h => nomatch h
  | (_, v), [], n + 1, h => by
    simp only [memberTokens, List.length_cons] at h
    have first := ofTokens?_tokens_append (.closeObject :: rest) v n (by omega)
    simp [memberTokens, membersOfTokens?, first]
  | (_, v), m :: members, n + 1, h => by
    simp only [memberTokens, List.length_append, List.length_cons] at h
    have first := ofTokens?_tokens_append
      (.comma :: memberTokens (m :: members) ++ .closeObject :: rest) v n (by omega)
    have following := membersOfTokens?_memberTokens_append rest m members n (by omega)
    simp_all [memberTokens, membersOfTokens?]

end

end JsonValue

end CircuitHub
