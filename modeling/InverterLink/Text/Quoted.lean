import InverterLink.Text.Unprinted
import InverterLink.Text.Digits

/-!
# Quoted text

A text between quotation marks, as messages show it: quotation marks, backslashes and the common
control characters are written with a backslash, and every other character without a visible form
of its own is written by its code point.
-/

namespace InverterLink.Quoted

/-- The written form of one character between quotation marks. -/
def escape (c : Char) : List Char :=
  match c with
  | '"' => ['\\', '"']
  | '\\' => ['\\', '\\']
  | '\n' => ['\\', 'n']
  | '\r' => ['\\', 'r']
  | '\t' => ['\\', 't']
  | '\x00' => ['\\', '0']
  | c =>
    if c.toNat < 0x20 || (0x7F ≤ c.toNat && Unprinted.covers c.toNat) then
      ['\\', 'u', '{'] ++ Nat.toDigits 16 c.toNat ++ ['}']
    else
      [c]

/-- The text between quotation marks. -/
def quote (cs : List Char) : List Char :=
  '"' :: cs.flatMap escape ++ ['"']

end InverterLink.Quoted
