import Mixfix.Text.Table

/-!
# Letters of host names

Not every code point that a host name keeps is a letter, a digit or a mark. Symbols and punctuation are
kept too, and a name is free of these only where it has to be registered. Some punctuation is allowed
next to letters of certain scripts.
-/

set_option autoImplicit false

namespace Mixfix.Domain

open CodePoint (readRanges inRanges)

/-- Symbols and punctuation beyond ASCII. -/
def symbolRanges : List (Nat × Nat) := readRanges
  ["A1-A7 A9 AB-AC AE B0-B1 B6 BB BF D7 F7 2C2-2C5 2D2-2D7 2DE-2DF 2E5-2EB 2ED 2EF-2FF 3F6 482",
   "488-489 55A-55F 589-58A 58D-58F 5BE 5C0 5C3 5C6 606-60F 61B 61D-61F 640 66A-66D 6D4 6DE 6E9",
   "700-70D 7F6-7FA 7FE-7FF 830-83E 85E 888 964-965 970 9F2-9FB 9FD A76 AF0-AF1 B70 B72-B77",
   "BF0-BFA C77-C7F C84 D4F D58-D5E D70-D79 DF4 E3F E4F E5A-E5B F01-F0A F0D-F17 F1A-F1F F2A-F34",
   "F36 F38 F3A-F3D F85 FBE-FC5 FC7-FCC FCE-FDA 104A-104F 109E-109F 10FB 1100-115E 1161-11FF",
   "1360-137C 1390-1399 1400 166D-166E 169B-169C 16EB-16F0 1735-1736 17D4-17D6 17D8-17DB 17F0-17F9",
   "1800-180A 1940 1944-1945 19DA 19DE-19FF 1A1E-1A1F 1AA0-1AA6 1AA8-1AAD 1ABE 1B4E-1B4F 1B5A-1B6A",
   "1B74-1B7F 1BFC-1BFF 1C3B-1C3F 1C7E-1C7F 1CC0-1CC7 1CD3 2010 2012-2016 2018-2023 2027 2030-2032",
   "2035 2038-203B 203D 203F-2046 204A-2056 2058-205E 20A0-20A7 20A9-20C1 20D0-20F0 2104 2108 2114",
   "2117-2118 211E-211F 2123 2125 2127 2129 212E 213A 2141-2144 214A-214D 214F 2180-2182 2185-2188",
   "218A-218B 2190-222B 222E 2231-2328 232B-2429 2440-244A 24EB-2A0B 2A0D-2A73 2A77-2ADB 2ADD-2B73",
   "2B76-2BFF 2CE5-2CEA 2CF9-2CFF 2D70 2E00-2E2E 2E30-2E5D 2E80-2E99 2E9B-2E9E 2EA0-2EF2 3001",
   "3003-3004 3008-3029 302E-3035 3037 303B 303D-303F 30A0 3190-3191 31C0-31E5 3248-324F 327F",
   "4DC0-4DFF A490-A4C6 A4FE-A4FF A60D-A60F A670-A673 A67E A6E6-A6EF A6F2-A6F7 A700-A716 A720-A721",
   "A789-A78A A828-A82B A830-A839 A874-A877 A8CE-A8CF A8F8-A8FA A8FC A92E-A92F A95F-A97C A9C1-A9CD",
   "A9DE-A9DF AA5C-AA5F AA77-AA79 AADE-AADF AAF0-AAF1 AB5B AB6A-AB6B ABEB D7B0-D7C6 D7CB-D7FB",
   "FBB2-FBD2 FD3E-FD4F FD90-FD91 FDC8-FDCF FDFD-FDFF FE45-FE46 10100-10102 10107-10133",
   "10137-1018E 10190-1019C 101A0 101D0-101FC 102E1-102FB 10320-10323 10341 1034A 1039F",
   "103D0-103D5 1056F 10857-1085F 10877-1087F 108A7-108AF 108FB-108FF 10916-1091B 1091F 1093F",
   "109BC-109BD 109C0-109CF 109D2-109FF 10A40-10A48 10A50-10A58 10A7D-10A7F 10A9D-10A9F 10AC8",
   "10AEB-10AF6 10B39-10B3F 10B58-10B5F 10B78-10B7F 10B99-10B9C 10BA9-10BAF 10CFA-10CFF 10D6E",
   "10D8E-10D8F 10E60-10E7E 10EAD 10ED0-10ED8 10F1D-10F26 10F51-10F59 10F86-10F89 10FC5-10FCB",
   "11047-1104D 11052-11065 110BB-110BC 110BE-110C1 11140-11143 11174-11175 111C5-111C8 111CD",
   "111DB 111DD-111DF 111E1-111F4 11238-1123D 112A9 113D4-113D5 113D7-113D8 1144B-1144F",
   "1145A-1145B 1145D 114C6 115C1-115D7 11641-11643 11660-1166C 116B9 1173A-1173F 1183B",
   "118EA-118F2 11944-11946 119E2 11A3F-11A46 11A9A-11A9C 11A9E-11AA2 11B00-11B09 11BE1",
   "11C41-11C45 11C5A-11C6C 11C70-11C71 11EF7-11EF8 11F43-11F4F 11FC0-11FF1 11FFF 12400-1246E",
   "12470-12474 12FF1-12FF2 16A6E-16A6F 16AF5 16B37-16B3F 16B44-16B45 16B5B-16B61 16D6D-16D6F",
   "16E80-16E9A 16FE2 16FF4-16FF6 1BC9C 1BC9F 1CC00-1CCD5 1CCFA-1CCFC 1CD00-1CEB3 1CEBA-1CED0",
   "1CEE0-1CEF0 1CF50-1CFC3 1D000-1D0F5 1D100-1D126 1D129-1D15D 1D165-1D172 1D17B-1D1BA",
   "1D1C1-1D1EA 1D200-1D245 1D2C0-1D2D3 1D2E0-1D2F3 1D300-1D356 1D360-1D378 1D800-1D9FF",
   "1DA37-1DA3A 1DA6D-1DA74 1DA76-1DA83 1DA85-1DA8B 1E14F 1E2FF 1E5FF 1E8C7-1E8CF 1E95E-1E95F",
   "1EC71-1ECB4 1ED01-1ED3D 1EEF0-1EEF1 1F000-1F02B 1F030-1F093 1F0A0-1F0AE 1F0B1-1F0BF",
   "1F0C1-1F0CF 1F0D1-1F0F5 1F10B-1F10F 1F12F 1F150-1F169 1F16D-1F18F 1F191-1F1AD 1F1E6-1F1FF",
   "1F260-1F265 1F300-1F6D8 1F6DC-1F6EC 1F6F0-1F6FC 1F700-1F7D9 1F7E0-1F7EB 1F7F0 1F800-1F80B",
   "1F810-1F847 1F850-1F859 1F860-1F887 1F890-1F8AD 1F8B0-1F8BB 1F8C0-1F8C1 1F8D0-1F8D8",
   "1F900-1FA57 1FA60-1FA6D 1FA70-1FA7C 1FA80-1FA8A 1FA8E-1FAC6 1FAC8 1FACD-1FADC 1FADF-1FAEA",
   "1FAEF-1FAF8 1FB00-1FB92 1FB94-1FBEF 1FBFA"]

/-- Whether a code point that a host name keeps is a symbol or punctuation. -/
def isSymbol (c : CodePoint) : Bool :=
  if c.val < 0x80 then !(c.isDigit || c.between 'a' 'z' || c == '-') else inRanges c.val symbolRanges

/-- Letters of the Greek script. -/
def greekRanges : List (Nat × Nat) := readRanges
  ["370-373 375-377 37A-37D 37F 384 386 388-38A 38C 38E-3A1 3A3-3E1 3F0-3FF 1D26-1D2A 1D5D-1D61",
   "1D66-1D6A 1DBF 1F00-1F15 1F18-1F1D 1F20-1F45 1F48-1F4D 1F50-1F57 1F59 1F5B 1F5D 1F5F-1F7D",
   "1F80-1FB4 1FB6-1FC4 1FC6-1FD3 1FD6-1FDB 1FDD-1FEF 1FF2-1FF4 1FF6-1FFE 2126 AB65 10140-1018E",
   "101A0 1D200-1D245"]

/-- Letters of the Hebrew script. -/
def hebrewRanges : List (Nat × Nat) := readRanges
  ["591-5C7 5D0-5EA 5EF-5F4 FB1D-FB36 FB38-FB3C FB3E FB40-FB41 FB43-FB44 FB46-FB4F"]

/-- Letters of the scripts of Japanese. -/
def japaneseRanges : List (Nat × Nat) := readRanges
  ["2E80-2E99 2E9B-2EF3 2F00-2FD5 3005 3007 3021-3029 3038-303B 3041-3096 309D-309F 30A1-30FA",
   "30FD-30FF 31F0-31FF 32D0-32FE 3300-3357 3400-4DBF 4E00-9FFF F900-FA6D FA70-FAD9 FF66-FF6F",
   "FF71-FF9D 16FE2-16FE3 16FF0-16FF6 1AFF0-1AFF3 1AFF5-1AFFB 1AFFD-1AFFE 1B000-1B122 1B132",
   "1B150-1B152 1B155 1B164-1B167 1F200 20000-2A6DF 2A700-2B81D 2B820-2CEAD 2CEB0-2EBE0",
   "2EBF0-2EE5D 2F800-2FA1D 30000-3134A 31350-33479"]

end Mixfix.Domain
