/-!
# UTF-8

Texts are lists of characters and travel as lists of bytes. `encode` writes a text, `pieces` cuts
any byte string into well-formed characters and malformed pieces, and the two ways to read bytes
as text are both views of `pieces`: `decode?` refuses a malformed piece, `decodeLossy` puts the
replacement character in its place.

## Main definitions

* `encode`, `byteLength`: the bytes of a text and their number.
* `pieces`: one entry for each character or malformed piece, in order.
* `decode?`, `decodeLossy`: reading that refuses malformed pieces, and reading that replaces them.
* `takeBytes?`: cuts a text at a byte offset, unless the offset falls inside a character.
-/

namespace InverterLink.Utf8

/-- The bytes of a text. -/
def encode (cs : List Char) : List UInt8 :=
  cs.flatMap String.utf8EncodeChar

/-- The number of bytes of a text. -/
def byteLength : List Char → Nat
  | [] => 0
  | c :: cs => c.utf8Size + byteLength cs

/-- A continuation byte within the given bounds. -/
def isTail (low high : Nat) (b : UInt8) : Bool :=
  low ≤ b.toNat && b.toNat ≤ high

/-- The least second byte that may follow a first byte: higher than 0x80 where the code point
would otherwise have a shorter form. -/
def leastSecond (first : Nat) : Nat :=
  if first = 0xE0 then 0xA0 else if first = 0xF0 then 0x90 else 0x80

/-- The greatest second byte that may follow a first byte: lower than 0xBF where the code point
would otherwise be a surrogate or lie beyond the last one. -/
def greatestSecond (first : Nat) : Nat :=
  if first = 0xED then 0x9F else if first = 0xF4 then 0x8F else 0xBF

/-- The character of a two-byte form. -/
def join₂ (b₀ b₁ : UInt8) : Char :=
  Char.ofNat ((b₀.toNat - 0xC0) * 64 + (b₁.toNat - 0x80))

/-- The character of a three-byte form. -/
def join₃ (b₀ b₁ b₂ : UInt8) : Char :=
  Char.ofNat ((b₀.toNat - 0xE0) * 4096 + (b₁.toNat - 0x80) * 64 + (b₂.toNat - 0x80))

/-- The character of a four-byte form. -/
def join₄ (b₀ b₁ b₂ b₃ : UInt8) : Char :=
  Char.ofNat ((b₀.toNat - 0xF0) * 262144 + (b₁.toNat - 0x80) * 4096 + (b₂.toNat - 0x80) * 64 +
    (b₃.toNat - 0x80))

/-- Cuts bytes into characters and malformed pieces (`none`). A malformed piece is as long as the
start of some character that it repeats, and at least one byte. -/
def pieces : List UInt8 → List (Option Char)
  | [] => []
  | b₀ :: rest =>
    let n := b₀.toNat
    if n < 0x80 then
      some (Char.ofNat n) :: pieces rest
    else if n < 0xC2 || 0xF4 < n then
      none :: pieces rest
    else
      match rest with
      | [] => [none]
      | b₁ :: rest₁ =>
        if !isTail (leastSecond n) (greatestSecond n) b₁ then
          none :: pieces (b₁ :: rest₁)
        else if n < 0xE0 then
          some (join₂ b₀ b₁) :: pieces rest₁
        else
          match rest₁ with
          | [] => [none]
          | b₂ :: rest₂ =>
            if !isTail 0x80 0xBF b₂ then
              none :: pieces (b₂ :: rest₂)
            else if n < 0xF0 then
              some (join₃ b₀ b₁ b₂) :: pieces rest₂
            else
              match rest₂ with
              | [] => [none]
              | b₃ :: rest₃ =>
                if !isTail 0x80 0xBF b₃ then
                  none :: pieces (b₃ :: rest₃)
                else
                  some (join₄ b₀ b₁ b₂ b₃) :: pieces rest₃

/-- The text that the bytes encode, or `none` if they hold a malformed piece. -/
def decode? (bytes : List UInt8) : Option (List Char) :=
  (pieces bytes).mapM id

/-- The text that the bytes encode, with U+FFFD for every malformed piece. -/
def decodeLossy (bytes : List UInt8) : List Char :=
  (pieces bytes).map (·.getD '\uFFFD')

/-- The first `n` bytes of a text and what follows them, or `none` if the text is shorter or the
cut would fall inside a character. -/
def takeBytes? : Nat → List Char → Option (List Char × List Char)
  | 0, cs => some ([], cs)
  | _ + 1, [] => none
  | n + 1, c :: cs =>
    if c.utf8Size ≤ n + 1 then
      (takeBytes? (n + 1 - c.utf8Size) cs).map fun (taken, rest) => (c :: taken, rest)
    else
      none

end InverterLink.Utf8
