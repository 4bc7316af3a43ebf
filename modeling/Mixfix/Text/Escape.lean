import Mixfix.Text

/-!
# Escapes in string literals

A backslash and the code point after it stand for one code point: `\n \t \r \\ \" \' \0 \b \f \v`,
`\xHH` and `\uHHHH`. A backslash that begins none of these stands for itself, and so does the code
point after it.
-/

set_option autoImplicit false

namespace Mixfix.Text

/-- What the one-letter escape of a code point stands for. -/
def letterEscape? (c : CodePoint) : Option CodePoint :=
  if c = 'n' then some '\n'
  else if c = 't' then some '\t'
  else if c = 'r' then some '\r'
  else if c = '\\' then some '\\'
  else if c = '"' then some '"'
  else if c = '\'' then some '\''
  else if c = '0' then some (CodePoint.ofNat 0x00)
  else if c = 'b' then some (CodePoint.ofNat 0x08)
  else if c = 'f' then some (CodePoint.ofNat 0x0C)
  else if c = 'v' then some (CodePoint.ofNat 0x0B)
  else none

/-- The code point whose number a run of hexadecimal digits writes. -/
def ofHexDigits (digits : List CodePoint) : CodePoint :=
  CodePoint.ofNat (ofHex digits)

/-- A text with its escapes replaced by what they stand for. -/
def decodeEscapes : Text → Text
  | [] => []
  | c :: rest =>
    if c = '\\' then
      match rest with
      | [] => ['\\']
      | e :: rest =>
        match letterEscape? e with
        | some d => d :: decodeEscapes rest
        | none =>
          if e = 'x' then
            match rest with
            | h₁ :: h₂ :: after =>
              if [h₁, h₂].all CodePoint.isHexDigit then ofHexDigits [h₁, h₂] :: decodeEscapes after
              else '\\' :: e :: decodeEscapes (h₁ :: h₂ :: after)
            | rest => '\\' :: e :: decodeEscapes rest
          else if e = 'u' then
            match rest with
            | h₁ :: h₂ :: h₃ :: h₄ :: after =>
              if [h₁, h₂, h₃, h₄].all CodePoint.isHexDigit then
                ofHexDigits [h₁, h₂, h₃, h₄] :: decodeEscapes after
              else '\\' :: e :: decodeEscapes (h₁ :: h₂ :: h₃ :: h₄ :: after)
            | rest => '\\' :: e :: decodeEscapes rest
          else '\\' :: e :: decodeEscapes rest
    else c :: decodeEscapes rest

end Mixfix.Text
