import Mixfix.Descriptor.Reader

/-!
# The grammar of descriptors

What sequences of tokens are descriptors, and the shape that each describes:

- a descriptor is one alternative, or several with bars between them (`IsDescriptor`, `AreAlternatives`),
- an alternative is a primary with any number of `[]` behind it (`IsAlternative`),
- a primary is a descriptor in parentheses, a literal, or a type with or without bounds (`IsPrimary`).

`Bounded` lists the ways to write bounds, each with the side that it is on, and `Describes` says what a type
with bounds describes. A bound on a string is an integer, and the shape limits its length.

The reader is not mentioned. Which tokens a text has is told by `tokenize` alone.
-/

set_option autoImplicit false

namespace Mixfix

/-- The name of the strings of a class. -/
def TextClass.typeName : TextClass → Text
  | .any => txt "string"
  | .alpha => txt "string.alpha"
  | .alphanumeric => txt "string.alphanumeric"
  | .digits => txt "string.digits"
  | .lower => txt "string.lower"
  | .upper => txt "string.upper"
  | .uuid => txt "string.uuid"

namespace Descriptor

/-! ## Types -/

/-- A type without bounds, and its shape. -/
inductive IsPlain : Text → Shape → Prop
  | boolean : IsPlain (txt "boolean") .boolean
  | null : IsPlain (txt "null") .null
  | undefined : IsPlain (txt "undefined") .undefined
  | unknown : IsPlain (txt "unknown") .anything
  | any : IsPlain (txt "any") .anything
  | email : IsPlain (txt "string.email") .email
  | url : IsPlain (txt "string.url") .url

/-- Whether a number is written with a fraction. -/
def hasPoint (digits : Text) : Bool :=
  digits.contains (CodePoint.ofChar '.')

/-- The number that some digits write. -/
def numeral (digits : Text) : Number :=
  if hasPoint digits then .real (Binary64.readDecimal digits) else .int (Decimal.toInt digits)

/-- A bound as it is written, and whether it is out of the range itself. -/
structure Bound where
  digits : Text
  strict : Bool

namespace Bound

/-- The limit on a number. -/
def limit (bound : Bound) : Limit :=
  ⟨numeral bound.digits, bound.strict⟩

/-- The least length that is over a lower bound. -/
def leastLength (bound : Bound) : Int :=
  if bound.strict then Decimal.toInt bound.digits + 1 else Decimal.toInt bound.digits

/-- The greatest length that is under an upper bound. -/
def greatestLength (bound : Bound) : Int :=
  if bound.strict then Decimal.toInt bound.digits - 1 else Decimal.toInt bound.digits

/-- The symbol between something and an upper bound, or between a lower bound and something. -/
def less (bound : Bound) : Symbol :=
  if bound.strict then .less else .lessEqual

/-- The symbol between something and a lower bound. -/
def greater (bound : Bound) : Symbol :=
  if bound.strict then .greater else .greaterEqual

/-- The number of a bound. -/
def token (bound : Bound) : Token :=
  .number bound.digits

end Bound

/-- What a type describes between a lower and an upper bound, where it can have bounds. -/
inductive Describes (lower upper : Option Bound) : Text → Shape → Prop
  | number : Describes lower upper (txt "number") (.number false ⟨lower.map Bound.limit, upper.map Bound.limit⟩)
  | integer :
      Describes lower upper (txt "number.integer") (.number true ⟨lower.map Bound.limit, upper.map Bound.limit⟩)
  | string (kind : TextClass) : (∀ bound ∈ lower.toList ++ upper.toList, hasPoint bound.digits = false) →
      Describes lower upper kind.typeName
        (.text kind (lower.map Bound.leastLength) (upper.map Bound.greatestLength))

/-- The tokens of a type with one bound or two. -/
inductive Bounded (name : Text) : Option Bound → Option Bound → List Token → Prop
  | upper (bound : Bound) : Bounded name none (some bound) [.name name, .symbol bound.less, bound.token]
  | lower (bound : Bound) : Bounded name (some bound) none [.name name, .symbol bound.greater, bound.token]
  | before (bound : Bound) : Bounded name (some bound) none [bound.token, .symbol bound.less, .name name]
  | between (low high : Bound) :
      Bounded name (some low) (some high)
        [low.token, .symbol low.less, .name name, .symbol high.less, high.token]

/-! ## Descriptors -/

mutual
/-- The tokens of a descriptor, and the shape that it describes. -/
inductive IsDescriptor : List Token → Shape → Prop
  | alternative {tokens : List Token} {shape : Shape} : IsAlternative tokens shape → IsDescriptor tokens shape
  | union {tokens : List Token} {first second : Shape} {shapes : List Shape} :
      AreAlternatives tokens (first :: second :: shapes) →
      IsDescriptor tokens (.union (first :: second :: shapes))

/-- The tokens of alternatives with bars between them. -/
inductive AreAlternatives : List Token → List Shape → Prop
  | one {tokens : List Token} {shape : Shape} : IsAlternative tokens shape → AreAlternatives tokens [shape]
  | more {first rest : List Token} {shape : Shape} {shapes : List Shape} : IsAlternative first shape →
      AreAlternatives rest shapes → AreAlternatives (first ++ .symbol .bar :: rest) (shape :: shapes)

/-- The tokens of an alternative. -/
inductive IsAlternative : List Token → Shape → Prop
  | primary {tokens : List Token} {shape : Shape} : IsPrimary tokens shape → IsAlternative tokens shape
  | list {tokens : List Token} {shape : Shape} : IsAlternative tokens shape →
      IsAlternative (tokens ++ [.symbol .list]) (.array shape)

/-- The tokens of a primary. -/
inductive IsPrimary : List Token → Shape → Prop
  | parentheses {tokens : List Token} {shape : Shape} : IsDescriptor tokens shape →
      IsPrimary (.symbol .opening :: tokens ++ [.symbol .closing]) shape
  | quoted (source : Text) : IsPrimary [.quoted source] (.literal (.str (unquote source)))
  | number (digits : Text) : IsPrimary [.number digits] (.literal (numeral digits).toValue)
  | true : IsPrimary [.name (txt "true")] (.literal (.bool Bool.true))
  | false : IsPrimary [.name (txt "false")] (.literal (.bool Bool.false))
  | plain {name : Text} {shape : Shape} : IsPlain name shape → IsPrimary [.name name] shape
  | unbounded {name : Text} {shape : Shape} : Describes none none name shape → IsPrimary [.name name] shape
  | bounded {name : Text} {lower upper : Option Bound} {tokens : List Token} {shape : Shape} :
      Bounded name lower upper tokens → Describes lower upper name shape → IsPrimary tokens shape
end

end Descriptor

end Mixfix
