import Cleave.Text.Basic

/-!
# UTF-8

Files hold bytes, and text is stored in UTF-8. A strict reader refuses bytes that are no UTF-8; a lenient one
puts a replacement character in the place of each longest run of bytes that starts a character and breaks off.
-/

namespace Cleave

/-- The content of a file. -/
abbrev Bytes := List UInt8

namespace Utf8

/-- The bytes of a text. -/
def encode (t : Text) : Bytes :=
  t.flatMap String.utf8EncodeChar

/-- The bytes that may follow a leading byte: their number, and the range of the first of them. -/
def following? (lead : UInt8) : Option (Nat × UInt8 × UInt8) :=
  if lead < 0xC2 then none
  else if lead < 0xE0 then some (1, 0x80, 0xBF)
  else if lead = 0xE0 then some (2, 0xA0, 0xBF)
  else if lead = 0xED then some (2, 0x80, 0x9F)
  else if lead < 0xF0 then some (2, 0x80, 0xBF)
  else if lead = 0xF0 then some (3, 0x90, 0xBF)
  else if lead < 0xF4 then some (3, 0x80, 0xBF)
  else if lead = 0xF4 then some (3, 0x80, 0x8F)
  else none

/-- The payload of a leading byte that `n` bytes follow. -/
def payload (lead : UInt8) (n : Nat) : Nat :=
  lead.toNat % Nat.pow 2 (6 - n)

/-- A character under construction. -/
structure Partial where
  code : Nat
  /-- The number of bytes that are missing. -/
  missing : Nat
  least : UInt8
  most : UInt8

/-- One decoded character, or nothing for bytes that are none. -/
abbrev Decoded := Option Char

/-- What a byte gives that starts a character. -/
def start (b : UInt8) : List Decoded × Option Partial :=
  if b < 0x80 then ([some (Char.ofNat b.toNat)], none)
  else
    match following? b with
    | some (n, least, most) => ([], some { code := payload b n, missing := n, least, most })
    | none => ([none], none)

/-- What a byte gives after the beginning of a character. -/
def Partial.extend (p : Partial) (b : UInt8) : List Decoded × Option Partial :=
  if p.least ≤ b && b ≤ p.most then
    let code := p.code * 64 + b.toNat % 64
    if p.missing ≤ 1 then ([some (Char.ofNat code)], none)
    else ([], some { code, missing := p.missing - 1, least := 0x80, most := 0xBF })
  else
    let (out, next) := start b
    (none :: out, next)

/-- Decodes bytes after the beginning of a character, if there is one. -/
def decodeFrom : Option Partial → Bytes → List Decoded
  | none, [] => []
  | some _, [] => [none]
  | none, b :: bs =>
    let (out, next) := start b
    out ++ decodeFrom next bs
  | some p, b :: bs =>
    let (out, next) := p.extend b
    out ++ decodeFrom next bs

/-- The text of bytes, if they are UTF-8. -/
def decode? (bs : Bytes) : Option Text :=
  (decodeFrom none bs).mapM id

/-- The text of bytes, with a replacement character for what is no UTF-8. -/
def decodeLenient (bs : Bytes) : Text :=
  (decodeFrom none bs).map (·.getD '\uFFFD')

end Utf8

end Cleave
