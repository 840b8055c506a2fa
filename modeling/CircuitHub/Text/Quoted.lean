import CircuitHub.Text.Basic
import CircuitHub.Text.Table.Printable

/-!
# Quoted characters

A character that a message quotes stands between single quotes. What cannot be seen as it is, is
written by its code point.
-/

namespace CircuitHub

/-- The lower-case hexadecimal digits of a number. -/
def hexDigits (n : Nat) : Text := Nat.toDigits 16 n

/-- A character that can be printed by itself: neither a mark that joins the character before it,
    nor unassigned, a control or a blank other than the space. -/
def isPrintable (c : Char) : Bool :=
  if 0x20 ≤ c.toNat && c.toNat < 0x7F then true
  else !(Table.graphemeExtend.mem c) && !(Table.unprintable.mem c)

/-- A character as it is written between single quotes. -/
def escapedChar (c : Char) : Text :=
  match c with
  | '\x00' => ['\\', '0']
  | '\t' => ['\\', 't']
  | '\r' => ['\\', 'r']
  | '\n' => ['\\', 'n']
  | '\'' => ['\\', '\'']
  | '\\' => ['\\', '\\']
  | c => if isPrintable c then [c] else "\\u\x7b" ++ hexDigits c.toNat ++ ['\x7d']

/-- A character between single quotes. -/
def quotedChar (c : Char) : Text := '\'' :: escapedChar c ++ ['\'']

end CircuitHub
