import CircuitHub.Text.Basic
import CircuitHub.Text.Table.LowerCase

/-!
# Lower case

The lower case of a text is that of its characters, one after the other. One character alone has
a lower case of two: the dotted capital I keeps its dot as a mark of its own.
-/

namespace CircuitHub

/-- The shift to the lower case of a character, if it has one that is a single character. -/
def lowerShift? (n : Nat) : Option Int :=
  (Table.lowerCase.find? fun r => r.first ≤ n && n ≤ r.last && (n - r.first) % r.step == 0).map
    (·.shift)

/-- The lower case of a character. -/
def lowerChar (c : Char) : Text :=
  if c.toNat < 0x80 then [c.toLower]
  else if c.toNat = 0x130 then ['i', '\u0307']
  else match lowerShift? c.toNat with
    | some shift => [Char.ofNat (c.toNat + shift).toNat]
    | none => [c]

/-- The lower case of a text. -/
def Text.lower (t : Text) : Text := t.flatMap lowerChar

end CircuitHub
