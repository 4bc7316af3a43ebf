import Mixfix.Text

/-!
# UTF-8

Texts as bytes. Surrogates have no bytes of their own: `utf8` gives them what the pattern of three bytes
would give, and `ofUtf8?` refuses that, as it refuses all that is not the shortest form.
-/

set_option autoImplicit false

namespace Mixfix.Text

/-- The number of bytes of a code point. -/
def utf8Size (c : CodePoint) : Nat :=
  if c.val < 0x80 then 1 else if c.val < 0x800 then 2 else if c.val < 0x10000 then 3 else 4

/-- The number of bytes of a text. -/
def utf8Length (s : Text) : Nat :=
  s.foldl (fun n c => n + utf8Size c) 0

/-- A byte that continues a code point with six bits of it. -/
def continuation (n : Nat) : Nat :=
  0x80 + n % 64

/-- The bytes of a code point. -/
def utf8Point (c : CodePoint) : List Nat :=
  let n := c.val
  if n < 0x80 then [n]
  else if n < 0x800 then [0xC0 + n / 64, continuation n]
  else if n < 0x10000 then [0xE0 + n / 4096, continuation (n / 64), continuation n]
  else [0xF0 + n / 262144, continuation (n / 4096), continuation (n / 64), continuation n]

/-- The bytes of a text. -/
def utf8 (s : Text) : List Nat :=
  s.flatMap utf8Point

/-- The code point that a first byte begins, and the number of bytes after it. -/
def utf8First? (byte : Nat) : Option (Nat × Nat) :=
  if byte < 0x80 then some (byte, 0)
  else if 0xC0 ≤ byte && byte < 0xE0 then some (byte - 0xC0, 1)
  else if 0xE0 ≤ byte && byte < 0xF0 then some (byte - 0xE0, 2)
  else if 0xF0 ≤ byte && byte < 0xF8 then some (byte - 0xF0, 3)
  else none

/-- The code point of a number, if that has so many bytes and is no surrogate. -/
def utf8Scalar? (n size : Nat) : Option CodePoint :=
  if h : n < 0x110000 then
    let c : CodePoint := ⟨n, h⟩
    if utf8Size c == size && !c.isSurrogate then some c else none
  else none

/-- Reads bytes of which the code point before them takes `missing` more, having `n` so far of `size`
bytes. -/
def utf8Rest? (n size : Nat) : Nat → List Nat → Option Text
  | 0, bytes =>
    match utf8Scalar? n size with
    | none => none
    | some c =>
      match bytes with
      | [] => some [c]
      | byte :: rest =>
        match utf8First? byte with
        | none => none
        | some (n, missing) => (utf8Rest? n (missing + 1) missing rest).map (c :: ·)
  | _ + 1, [] => none
  | missing + 1, byte :: rest =>
    if 0x80 ≤ byte && byte < 0xC0 then utf8Rest? (n * 64 + (byte - 0x80)) size missing rest else none
  termination_by _ bytes => bytes.length

/-- The text of some bytes. -/
def ofUtf8? (bytes : List Nat) : Option Text :=
  match bytes with
  | [] => some []
  | byte :: rest =>
    match utf8First? byte with
    | none => none
    | some (n, missing) => utf8Rest? n (missing + 1) missing rest

end Mixfix.Text
