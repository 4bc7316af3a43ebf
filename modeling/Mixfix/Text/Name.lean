import Mixfix.Text.Joining
import Mixfix.Text.Quoted

/-!
# Names of code points

A message that lists code points shows each of them in quotation marks, unless it has no form of its own:
then it is called by its name, or by its number where it has no name.
-/

set_option autoImplicit false

namespace Mixfix.CodePoint

/-- The names of blanks, of code points without any form, and of the marks that go with most scripts. -/
def names : List (Nat × String) :=
  [(0x20, "SPACE"), (0xA0, "NO-BREAK SPACE"), (0xAD, "SOFT HYPHEN"),
   (0x300, "COMBINING GRAVE ACCENT"), (0x301, "COMBINING ACUTE ACCENT"),
   (0x302, "COMBINING CIRCUMFLEX ACCENT"), (0x303, "COMBINING TILDE"),
   (0x304, "COMBINING MACRON"), (0x305, "COMBINING OVERLINE"), (0x306, "COMBINING BREVE"),
   (0x307, "COMBINING DOT ABOVE"), (0x308, "COMBINING DIAERESIS"),
   (0x309, "COMBINING HOOK ABOVE"), (0x30A, "COMBINING RING ABOVE"),
   (0x30B, "COMBINING DOUBLE ACUTE ACCENT"), (0x30C, "COMBINING CARON"),
   (0x30D, "COMBINING VERTICAL LINE ABOVE"), (0x30E, "COMBINING DOUBLE VERTICAL LINE ABOVE"),
   (0x30F, "COMBINING DOUBLE GRAVE ACCENT"), (0x310, "COMBINING CANDRABINDU"),
   (0x311, "COMBINING INVERTED BREVE"), (0x312, "COMBINING TURNED COMMA ABOVE"),
   (0x313, "COMBINING COMMA ABOVE"), (0x314, "COMBINING REVERSED COMMA ABOVE"),
   (0x315, "COMBINING COMMA ABOVE RIGHT"), (0x316, "COMBINING GRAVE ACCENT BELOW"),
   (0x317, "COMBINING ACUTE ACCENT BELOW"), (0x318, "COMBINING LEFT TACK BELOW"),
   (0x319, "COMBINING RIGHT TACK BELOW"), (0x31A, "COMBINING LEFT ANGLE ABOVE"),
   (0x31B, "COMBINING HORN"), (0x31C, "COMBINING LEFT HALF RING BELOW"),
   (0x31D, "COMBINING UP TACK BELOW"), (0x31E, "COMBINING DOWN TACK BELOW"),
   (0x31F, "COMBINING PLUS SIGN BELOW"), (0x320, "COMBINING MINUS SIGN BELOW"),
   (0x321, "COMBINING PALATALIZED HOOK BELOW"), (0x322, "COMBINING RETROFLEX HOOK BELOW"),
   (0x323, "COMBINING DOT BELOW"), (0x324, "COMBINING DIAERESIS BELOW"),
   (0x325, "COMBINING RING BELOW"), (0x326, "COMBINING COMMA BELOW"),
   (0x327, "COMBINING CEDILLA"), (0x328, "COMBINING OGONEK"),
   (0x329, "COMBINING VERTICAL LINE BELOW"), (0x32A, "COMBINING BRIDGE BELOW"),
   (0x32B, "COMBINING INVERTED DOUBLE ARCH BELOW"), (0x32C, "COMBINING CARON BELOW"),
   (0x32D, "COMBINING CIRCUMFLEX ACCENT BELOW"), (0x32E, "COMBINING BREVE BELOW"),
   (0x32F, "COMBINING INVERTED BREVE BELOW"), (0x330, "COMBINING TILDE BELOW"),
   (0x331, "COMBINING MACRON BELOW"), (0x332, "COMBINING LOW LINE"),
   (0x333, "COMBINING DOUBLE LOW LINE"), (0x334, "COMBINING TILDE OVERLAY"),
   (0x335, "COMBINING SHORT STROKE OVERLAY"), (0x336, "COMBINING LONG STROKE OVERLAY"),
   (0x337, "COMBINING SHORT SOLIDUS OVERLAY"), (0x338, "COMBINING LONG SOLIDUS OVERLAY"),
   (0x339, "COMBINING RIGHT HALF RING BELOW"), (0x33A, "COMBINING INVERTED BRIDGE BELOW"),
   (0x33B, "COMBINING SQUARE BELOW"), (0x33C, "COMBINING SEAGULL BELOW"),
   (0x33D, "COMBINING X ABOVE"), (0x33E, "COMBINING VERTICAL TILDE"),
   (0x33F, "COMBINING DOUBLE OVERLINE"), (0x340, "COMBINING GRAVE TONE MARK"),
   (0x341, "COMBINING ACUTE TONE MARK"), (0x342, "COMBINING GREEK PERISPOMENI"),
   (0x343, "COMBINING GREEK KORONIS"), (0x344, "COMBINING GREEK DIALYTIKA TONOS"),
   (0x345, "COMBINING GREEK YPOGEGRAMMENI"), (0x346, "COMBINING BRIDGE ABOVE"),
   (0x347, "COMBINING EQUALS SIGN BELOW"), (0x348, "COMBINING DOUBLE VERTICAL LINE BELOW"),
   (0x349, "COMBINING LEFT ANGLE BELOW"), (0x34A, "COMBINING NOT TILDE ABOVE"),
   (0x34B, "COMBINING HOMOTHETIC ABOVE"), (0x34C, "COMBINING ALMOST EQUAL TO ABOVE"),
   (0x34D, "COMBINING LEFT RIGHT ARROW BELOW"), (0x34E, "COMBINING UPWARDS ARROW BELOW"),
   (0x34F, "COMBINING GRAPHEME JOINER"), (0x350, "COMBINING RIGHT ARROWHEAD ABOVE"),
   (0x351, "COMBINING LEFT HALF RING ABOVE"), (0x352, "COMBINING FERMATA"),
   (0x353, "COMBINING X BELOW"), (0x354, "COMBINING LEFT ARROWHEAD BELOW"),
   (0x355, "COMBINING RIGHT ARROWHEAD BELOW"),
   (0x356, "COMBINING RIGHT ARROWHEAD AND UP ARROWHEAD BELOW"),
   (0x357, "COMBINING RIGHT HALF RING ABOVE"), (0x358, "COMBINING DOT ABOVE RIGHT"),
   (0x359, "COMBINING ASTERISK BELOW"), (0x35A, "COMBINING DOUBLE RING BELOW"),
   (0x35B, "COMBINING ZIGZAG ABOVE"), (0x35C, "COMBINING DOUBLE BREVE BELOW"),
   (0x35D, "COMBINING DOUBLE BREVE"), (0x35E, "COMBINING DOUBLE MACRON"),
   (0x35F, "COMBINING DOUBLE MACRON BELOW"), (0x360, "COMBINING DOUBLE TILDE"),
   (0x361, "COMBINING DOUBLE INVERTED BREVE"),
   (0x362, "COMBINING DOUBLE RIGHTWARDS ARROW BELOW"),
   (0x363, "COMBINING LATIN SMALL LETTER A"), (0x364, "COMBINING LATIN SMALL LETTER E"),
   (0x365, "COMBINING LATIN SMALL LETTER I"), (0x366, "COMBINING LATIN SMALL LETTER O"),
   (0x367, "COMBINING LATIN SMALL LETTER U"), (0x368, "COMBINING LATIN SMALL LETTER C"),
   (0x369, "COMBINING LATIN SMALL LETTER D"), (0x36A, "COMBINING LATIN SMALL LETTER H"),
   (0x36B, "COMBINING LATIN SMALL LETTER M"), (0x36C, "COMBINING LATIN SMALL LETTER R"),
   (0x36D, "COMBINING LATIN SMALL LETTER T"), (0x36E, "COMBINING LATIN SMALL LETTER V"),
   (0x36F, "COMBINING LATIN SMALL LETTER X"), (0x600, "ARABIC NUMBER SIGN"),
   (0x601, "ARABIC SIGN SANAH"), (0x602, "ARABIC FOOTNOTE MARKER"),
   (0x603, "ARABIC SIGN SAFHA"), (0x604, "ARABIC SIGN SAMVAT"),
   (0x605, "ARABIC NUMBER MARK ABOVE"), (0x61C, "ARABIC LETTER MARK"),
   (0x6DD, "ARABIC END OF AYAH"), (0x70F, "SYRIAC ABBREVIATION MARK"),
   (0x890, "ARABIC POUND MARK ABOVE"), (0x891, "ARABIC PIASTRE MARK ABOVE"),
   (0x8E2, "ARABIC DISPUTED END OF AYAH"), (0x1680, "OGHAM SPACE MARK"),
   (0x180E, "MONGOLIAN VOWEL SEPARATOR"), (0x2000, "EN QUAD"), (0x2001, "EM QUAD"),
   (0x2002, "EN SPACE"), (0x2003, "EM SPACE"), (0x2004, "THREE-PER-EM SPACE"),
   (0x2005, "FOUR-PER-EM SPACE"), (0x2006, "SIX-PER-EM SPACE"), (0x2007, "FIGURE SPACE"),
   (0x2008, "PUNCTUATION SPACE"), (0x2009, "THIN SPACE"), (0x200A, "HAIR SPACE"),
   (0x200B, "ZERO WIDTH SPACE"), (0x200C, "ZERO WIDTH NON-JOINER"),
   (0x200D, "ZERO WIDTH JOINER"), (0x200E, "LEFT-TO-RIGHT MARK"),
   (0x200F, "RIGHT-TO-LEFT MARK"), (0x2028, "LINE SEPARATOR"), (0x2029, "PARAGRAPH SEPARATOR"),
   (0x202A, "LEFT-TO-RIGHT EMBEDDING"), (0x202B, "RIGHT-TO-LEFT EMBEDDING"),
   (0x202C, "POP DIRECTIONAL FORMATTING"), (0x202D, "LEFT-TO-RIGHT OVERRIDE"),
   (0x202E, "RIGHT-TO-LEFT OVERRIDE"), (0x202F, "NARROW NO-BREAK SPACE"),
   (0x205F, "MEDIUM MATHEMATICAL SPACE"), (0x2060, "WORD JOINER"),
   (0x2061, "FUNCTION APPLICATION"), (0x2062, "INVISIBLE TIMES"),
   (0x2063, "INVISIBLE SEPARATOR"), (0x2064, "INVISIBLE PLUS"),
   (0x2066, "LEFT-TO-RIGHT ISOLATE"), (0x2067, "RIGHT-TO-LEFT ISOLATE"),
   (0x2068, "FIRST STRONG ISOLATE"), (0x2069, "POP DIRECTIONAL ISOLATE"),
   (0x206A, "INHIBIT SYMMETRIC SWAPPING"), (0x206B, "ACTIVATE SYMMETRIC SWAPPING"),
   (0x206C, "INHIBIT ARABIC FORM SHAPING"), (0x206D, "ACTIVATE ARABIC FORM SHAPING"),
   (0x206E, "NATIONAL DIGIT SHAPES"), (0x206F, "NOMINAL DIGIT SHAPES"),
   (0x3000, "IDEOGRAPHIC SPACE"), (0xFEFF, "ZERO WIDTH NO-BREAK SPACE"),
   (0xFFF9, "INTERLINEAR ANNOTATION ANCHOR"), (0xFFFA, "INTERLINEAR ANNOTATION SEPARATOR"),
   (0xFFFB, "INTERLINEAR ANNOTATION TERMINATOR"), (0x110BD, "KAITHI NUMBER SIGN"),
   (0x110CD, "KAITHI NUMBER SIGN ABOVE"), (0x13430, "EGYPTIAN HIEROGLYPH VERTICAL JOINER"),
   (0x13431, "EGYPTIAN HIEROGLYPH HORIZONTAL JOINER"),
   (0x13432, "EGYPTIAN HIEROGLYPH INSERT AT TOP START"),
   (0x13433, "EGYPTIAN HIEROGLYPH INSERT AT BOTTOM START"),
   (0x13434, "EGYPTIAN HIEROGLYPH INSERT AT TOP END"),
   (0x13435, "EGYPTIAN HIEROGLYPH INSERT AT BOTTOM END"),
   (0x13436, "EGYPTIAN HIEROGLYPH OVERLAY MIDDLE"),
   (0x13437, "EGYPTIAN HIEROGLYPH BEGIN SEGMENT"), (0x13438, "EGYPTIAN HIEROGLYPH END SEGMENT"),
   (0x1BCA0, "SHORTHAND FORMAT LETTER OVERLAP"),
   (0x1BCA1, "SHORTHAND FORMAT CONTINUING OVERLAP"), (0x1BCA2, "SHORTHAND FORMAT DOWN STEP"),
   (0x1BCA3, "SHORTHAND FORMAT UP STEP"), (0x1D173, "MUSICAL SYMBOL BEGIN BEAM"),
   (0x1D174, "MUSICAL SYMBOL END BEAM"), (0x1D175, "MUSICAL SYMBOL BEGIN TIE"),
   (0x1D176, "MUSICAL SYMBOL END TIE"), (0x1D177, "MUSICAL SYMBOL BEGIN SLUR"),
   (0x1D178, "MUSICAL SYMBOL END SLUR"), (0x1D179, "MUSICAL SYMBOL BEGIN PHRASE"),
   (0x1D17A, "MUSICAL SYMBOL END PHRASE"), (0xE0001, "LANGUAGE TAG")]

/-- Whether a code point is seen as it is: it is a letter, a digit, a symbol or punctuation. -/
def isVisible (c : CodePoint) : Bool :=
  c.isPrintable && !c.isMark && !(c == ' ')

/-- A code point as a list in a message shows it. -/
def displayed (c : CodePoint) : Text :=
  if c = '\\' then txt "\"\\\""
  else if c.isVisible then Text.quoted [c]
  else
    match names.find? fun entry => entry.1 == c.val with
    | some (_, name) => txt name
    | none => txt "U+" ++ Text.hex true (if c.val < 0xFFFF then 4 else 8) c.val

/-- Code points as a message lists them, each as often as it is there. -/
def displayedList (cs : List CodePoint) : Text :=
  Text.join (txt ", ") (cs.map displayed)

/-- Different code points as a message lists them, in the order of how they are shown. -/
def displayedSet (cs : List CodePoint) : Text :=
  Text.join (txt ", ") (Text.sortedSet (cs.map displayed))

/-- Different code points as a message lists them, in their own order. -/
def displayedAscending (cs : List CodePoint) : Text :=
  displayedList ((Text.sortedSet (cs.map fun c => [c])).flatten)

end Mixfix.CodePoint
