import Mathlib.Data.List.Nodup

/-!
# The Unicode tables that the preprocessor reaches

`strings.ToLower` lowers each rune with `unicode.ToLower`, `token.IsExported` asks
`unicode.IsUpper` of a name's first rune, and `%q` (`strconv.Quote`) writes a rune as it is
exactly when `strconv.IsPrint` holds of it. Each of the three tests ASCII or Latin-1 first and
then searches a table. The tables here are those of Unicode 13.0.0, which Go 1.16 to 1.20 carry:
the lower-case column of `unicode.CaseRanges`, the ranges of `unicode.Upper` past Latin-1, and
the ranges of printable runes past Latin-1 that `isPrint16` and `isPrint32` hold with their
exceptions taken out. Go finds a rune's range by binary search; the ranges are sorted and
disjoint, so the range it finds is the one that holds the rune.
-/

namespace Converge.Unicode

/-- `unicode.MaxRune + 1`, the delta that marks an upper-lower sequence in `CaseRanges`. -/
def upperLower : Int := 0x110000

/-- `unicode.CaseRanges` past ASCII, with the delta to lower case: from `lo` to `hi`, a rune
`r` lowers to `r + delta`, or, in an upper-lower sequence, to the odd rune of its pair. -/
def caseRanges : List (Nat × Nat × Int) :=
  [(0x00C0, 0x00D6, 32), (0x00D8, 0x00DE, 32), (0x0100, 0x012F, upperLower),
   (0x0130, 0x0130, (-199)), (0x0132, 0x0137, upperLower), (0x0139, 0x0148, upperLower),
   (0x014A, 0x0177, upperLower), (0x0178, 0x0178, (-121)), (0x0179, 0x017E, upperLower),
   (0x0181, 0x0181, 210), (0x0182, 0x0185, upperLower), (0x0186, 0x0186, 206),
   (0x0187, 0x0187, 1), (0x0189, 0x018A, 205), (0x018B, 0x018B, 1),
   (0x018E, 0x018E, 79), (0x018F, 0x018F, 202), (0x0190, 0x0190, 203),
   (0x0191, 0x0191, 1), (0x0193, 0x0193, 205), (0x0194, 0x0194, 207),
   (0x0196, 0x0196, 211), (0x0197, 0x0197, 209), (0x0198, 0x0198, 1),
   (0x019C, 0x019C, 211), (0x019D, 0x019D, 213), (0x019F, 0x019F, 214),
   (0x01A0, 0x01A5, upperLower), (0x01A6, 0x01A6, 218), (0x01A7, 0x01A7, 1),
   (0x01A9, 0x01A9, 218), (0x01AC, 0x01AC, 1)] ++
  [(0x01AE, 0x01AE, 218), (0x01AF, 0x01AF, 1), (0x01B1, 0x01B2, 217),
   (0x01B3, 0x01B6, upperLower), (0x01B7, 0x01B7, 219), (0x01B8, 0x01B8, 1),
   (0x01BC, 0x01BC, 1), (0x01C4, 0x01C4, 2), (0x01C5, 0x01C5, 1),
   (0x01C7, 0x01C7, 2), (0x01C8, 0x01C8, 1), (0x01CA, 0x01CA, 2),
   (0x01CB, 0x01DC, upperLower), (0x01DE, 0x01EF, upperLower), (0x01F1, 0x01F1, 2),
   (0x01F2, 0x01F5, upperLower), (0x01F6, 0x01F6, (-97)), (0x01F7, 0x01F7, (-56)),
   (0x01F8, 0x021F, upperLower), (0x0220, 0x0220, (-130)), (0x0222, 0x0233, upperLower),
   (0x023A, 0x023A, 10795), (0x023B, 0x023B, 1), (0x023D, 0x023D, (-163)),
   (0x023E, 0x023E, 10792), (0x0241, 0x0241, 1), (0x0243, 0x0243, (-195)),
   (0x0244, 0x0244, 69), (0x0245, 0x0245, 71), (0x0246, 0x024F, upperLower),
   (0x0370, 0x0373, upperLower), (0x0376, 0x0376, 1)] ++
  [(0x037F, 0x037F, 116), (0x0386, 0x0386, 38), (0x0388, 0x038A, 37),
   (0x038C, 0x038C, 64), (0x038E, 0x038F, 63), (0x0391, 0x03A1, 32),
   (0x03A3, 0x03AB, 32), (0x03CF, 0x03CF, 8), (0x03D8, 0x03EF, upperLower),
   (0x03F4, 0x03F4, (-60)), (0x03F7, 0x03F7, 1), (0x03F9, 0x03F9, (-7)),
   (0x03FA, 0x03FA, 1), (0x03FD, 0x03FF, (-130)), (0x0400, 0x040F, 80),
   (0x0410, 0x042F, 32), (0x0460, 0x0481, upperLower), (0x048A, 0x04BF, upperLower),
   (0x04C0, 0x04C0, 15), (0x04C1, 0x04CE, upperLower), (0x04D0, 0x052F, upperLower),
   (0x0531, 0x0556, 48), (0x10A0, 0x10C5, 7264), (0x10C7, 0x10C7, 7264),
   (0x10CD, 0x10CD, 7264), (0x13A0, 0x13EF, 38864), (0x13F0, 0x13F5, 8),
   (0x1C90, 0x1CBA, (-3008)), (0x1CBD, 0x1CBF, (-3008)), (0x1E00, 0x1E95, upperLower),
   (0x1E9E, 0x1E9E, (-7615)), (0x1EA0, 0x1EFF, upperLower)] ++
  [(0x1F08, 0x1F0F, (-8)), (0x1F18, 0x1F1D, (-8)), (0x1F28, 0x1F2F, (-8)),
   (0x1F38, 0x1F3F, (-8)), (0x1F48, 0x1F4D, (-8)), (0x1F59, 0x1F59, (-8)),
   (0x1F5B, 0x1F5B, (-8)), (0x1F5D, 0x1F5D, (-8)), (0x1F5F, 0x1F5F, (-8)),
   (0x1F68, 0x1F6F, (-8)), (0x1F88, 0x1F8F, (-8)), (0x1F98, 0x1F9F, (-8)),
   (0x1FA8, 0x1FAF, (-8)), (0x1FB8, 0x1FB9, (-8)), (0x1FBA, 0x1FBB, (-74)),
   (0x1FBC, 0x1FBC, (-9)), (0x1FC8, 0x1FCB, (-86)), (0x1FCC, 0x1FCC, (-9)),
   (0x1FD8, 0x1FD9, (-8)), (0x1FDA, 0x1FDB, (-100)), (0x1FE8, 0x1FE9, (-8)),
   (0x1FEA, 0x1FEB, (-112)), (0x1FEC, 0x1FEC, (-7)), (0x1FF8, 0x1FF9, (-128)),
   (0x1FFA, 0x1FFB, (-126)), (0x1FFC, 0x1FFC, (-9)), (0x2126, 0x2126, (-7517)),
   (0x212A, 0x212A, (-8383)), (0x212B, 0x212B, (-8262)), (0x2132, 0x2132, 28),
   (0x2160, 0x216F, 16), (0x2183, 0x2183, 1)] ++
  [(0x24B6, 0x24CF, 26), (0x2C00, 0x2C2E, 48), (0x2C60, 0x2C60, 1),
   (0x2C62, 0x2C62, (-10743)), (0x2C63, 0x2C63, (-3814)), (0x2C64, 0x2C64, (-10727)),
   (0x2C67, 0x2C6C, upperLower), (0x2C6D, 0x2C6D, (-10780)), (0x2C6E, 0x2C6E, (-10749)),
   (0x2C6F, 0x2C6F, (-10783)), (0x2C70, 0x2C70, (-10782)), (0x2C72, 0x2C72, 1),
   (0x2C75, 0x2C75, 1), (0x2C7E, 0x2C7F, (-10815)), (0x2C80, 0x2CE3, upperLower),
   (0x2CEB, 0x2CEE, upperLower), (0x2CF2, 0x2CF2, 1), (0xA640, 0xA66D, upperLower),
   (0xA680, 0xA69B, upperLower), (0xA722, 0xA72F, upperLower), (0xA732, 0xA76F, upperLower),
   (0xA779, 0xA77C, upperLower), (0xA77D, 0xA77D, (-35332)), (0xA77E, 0xA787, upperLower),
   (0xA78B, 0xA78B, 1), (0xA78D, 0xA78D, (-42280)), (0xA790, 0xA793, upperLower),
   (0xA796, 0xA7A9, upperLower), (0xA7AA, 0xA7AA, (-42308)), (0xA7AB, 0xA7AB, (-42319)),
   (0xA7AC, 0xA7AC, (-42315)), (0xA7AD, 0xA7AD, (-42305))] ++
  [(0xA7AE, 0xA7AE, (-42308)), (0xA7B0, 0xA7B0, (-42258)), (0xA7B1, 0xA7B1, (-42282)),
   (0xA7B2, 0xA7B2, (-42261)), (0xA7B3, 0xA7B3, 928), (0xA7B4, 0xA7BF, upperLower),
   (0xA7C2, 0xA7C2, 1), (0xA7C4, 0xA7C4, (-48)), (0xA7C5, 0xA7C5, (-42307)),
   (0xA7C6, 0xA7C6, (-35384)), (0xA7C7, 0xA7CA, upperLower), (0xA7F5, 0xA7F5, 1),
   (0xFF21, 0xFF3A, 32), (0x10400, 0x10427, 40), (0x104B0, 0x104D3, 40),
   (0x10C80, 0x10CB2, 64), (0x118A0, 0x118BF, 32), (0x16E40, 0x16E5F, 32),
   (0x1E900, 0x1E921, 34)]

/-- `to(LowerCase, r, caseRanges)`: the low bit of `LowerCase` is one. -/
def toCase (r : Nat) : List (Nat × Nat × Int) → Nat
  | [] => r
  | (lo, hi, delta) :: ranges =>
    if lo ≤ r ∧ r ≤ hi then
      if delta = upperLower then lo + ((r - lo) ||| 1) else (r + delta).toNat
    else toCase r ranges

/-- `unicode.ToLower`. -/
def toLower (c : Char) : Char :=
  if c.toNat ≤ 0x7F then
    if 'A'.toNat ≤ c.toNat ∧ c.toNat ≤ 'Z'.toNat then Char.ofNat (c.toNat + 32) else c
  else Char.ofNat (toCase c.toNat caseRanges)

/-- `unicode.Upper` past Latin-1: the runes from `lo` to `hi` in steps of `stride`. -/
def upperRanges : List (Nat × Nat × Nat) :=
  [(0x0100, 0x0136, 2), (0x0139, 0x0147, 2), (0x014A, 0x0178, 2),
   (0x0179, 0x017D, 2), (0x0181, 0x0182, 1), (0x0184, 0x0184, 1),
   (0x0186, 0x0187, 1), (0x0189, 0x018B, 1), (0x018E, 0x0191, 1),
   (0x0193, 0x0194, 1), (0x0196, 0x0198, 1), (0x019C, 0x019D, 1),
   (0x019F, 0x01A0, 1), (0x01A2, 0x01A6, 2), (0x01A7, 0x01A7, 1),
   (0x01A9, 0x01A9, 1), (0x01AC, 0x01AC, 1), (0x01AE, 0x01AF, 1),
   (0x01B1, 0x01B3, 1), (0x01B5, 0x01B5, 1), (0x01B7, 0x01B8, 1),
   (0x01BC, 0x01BC, 1), (0x01C4, 0x01CD, 3), (0x01CF, 0x01DB, 2),
   (0x01DE, 0x01EE, 2), (0x01F1, 0x01F1, 1), (0x01F4, 0x01F4, 1),
   (0x01F6, 0x01F8, 1), (0x01FA, 0x0232, 2), (0x023A, 0x023B, 1),
   (0x023D, 0x023E, 1), (0x0241, 0x0241, 1)] ++
  [(0x0243, 0x0246, 1), (0x0248, 0x024E, 2), (0x0370, 0x0370, 1),
   (0x0372, 0x0372, 1), (0x0376, 0x0376, 1), (0x037F, 0x037F, 1),
   (0x0386, 0x0386, 1), (0x0388, 0x038A, 1), (0x038C, 0x038C, 1),
   (0x038E, 0x038F, 1), (0x0391, 0x03A1, 1), (0x03A3, 0x03AB, 1),
   (0x03CF, 0x03CF, 1), (0x03D2, 0x03D4, 1), (0x03D8, 0x03EE, 2),
   (0x03F4, 0x03F4, 1), (0x03F7, 0x03F7, 1), (0x03F9, 0x03FA, 1),
   (0x03FD, 0x042F, 1), (0x0460, 0x0480, 2), (0x048A, 0x04C0, 2),
   (0x04C1, 0x04CD, 2), (0x04D0, 0x052E, 2), (0x0531, 0x0556, 1),
   (0x10A0, 0x10C5, 1), (0x10C7, 0x10C7, 1), (0x10CD, 0x10CD, 1),
   (0x13A0, 0x13F5, 1), (0x1C90, 0x1CBA, 1), (0x1CBD, 0x1CBF, 1),
   (0x1E00, 0x1E94, 2), (0x1E9E, 0x1EFE, 2)] ++
  [(0x1F08, 0x1F0F, 1), (0x1F18, 0x1F1D, 1), (0x1F28, 0x1F2F, 1),
   (0x1F38, 0x1F3F, 1), (0x1F48, 0x1F4D, 1), (0x1F59, 0x1F5F, 2),
   (0x1F68, 0x1F6F, 1), (0x1FB8, 0x1FBB, 1), (0x1FC8, 0x1FCB, 1),
   (0x1FD8, 0x1FDB, 1), (0x1FE8, 0x1FEC, 1), (0x1FF8, 0x1FFB, 1),
   (0x2102, 0x2102, 1), (0x2107, 0x2107, 1), (0x210B, 0x210D, 1),
   (0x2110, 0x2112, 1), (0x2115, 0x2115, 1), (0x2119, 0x211D, 1),
   (0x2124, 0x212A, 2), (0x212B, 0x212D, 1), (0x2130, 0x2133, 1),
   (0x213E, 0x213F, 1), (0x2145, 0x2145, 1), (0x2183, 0x2183, 1),
   (0x2C00, 0x2C2E, 1), (0x2C60, 0x2C60, 1), (0x2C62, 0x2C64, 1),
   (0x2C67, 0x2C6D, 2), (0x2C6E, 0x2C70, 1), (0x2C72, 0x2C72, 1),
   (0x2C75, 0x2C75, 1), (0x2C7E, 0x2C80, 1)] ++
  [(0x2C82, 0x2CE2, 2), (0x2CEB, 0x2CEB, 1), (0x2CED, 0x2CED, 1),
   (0x2CF2, 0x2CF2, 1), (0xA640, 0xA66C, 2), (0xA680, 0xA69A, 2),
   (0xA722, 0xA72E, 2), (0xA732, 0xA76E, 2), (0xA779, 0xA77D, 2),
   (0xA77E, 0xA786, 2), (0xA78B, 0xA78B, 1), (0xA78D, 0xA78D, 1),
   (0xA790, 0xA790, 1), (0xA792, 0xA792, 1), (0xA796, 0xA7AA, 2),
   (0xA7AB, 0xA7AE, 1), (0xA7B0, 0xA7B4, 1), (0xA7B6, 0xA7BE, 2),
   (0xA7C2, 0xA7C2, 1), (0xA7C4, 0xA7C7, 1), (0xA7C9, 0xA7C9, 1),
   (0xA7F5, 0xA7F5, 1), (0xFF21, 0xFF3A, 1), (0x10400, 0x10427, 1),
   (0x104B0, 0x104D3, 1), (0x10C80, 0x10CB2, 1), (0x118A0, 0x118BF, 1),
   (0x16E40, 0x16E5F, 1), (0x1D400, 0x1D419, 1), (0x1D434, 0x1D44D, 1),
   (0x1D468, 0x1D481, 1), (0x1D49C, 0x1D49C, 1)] ++
  [(0x1D49E, 0x1D49F, 1), (0x1D4A2, 0x1D4A2, 1), (0x1D4A5, 0x1D4A6, 1),
   (0x1D4A9, 0x1D4AC, 1), (0x1D4AE, 0x1D4B5, 1), (0x1D4D0, 0x1D4E9, 1),
   (0x1D504, 0x1D505, 1), (0x1D507, 0x1D50A, 1), (0x1D50D, 0x1D514, 1),
   (0x1D516, 0x1D51C, 1), (0x1D538, 0x1D539, 1), (0x1D53B, 0x1D53E, 1),
   (0x1D540, 0x1D544, 1), (0x1D546, 0x1D546, 1), (0x1D54A, 0x1D550, 1),
   (0x1D56C, 0x1D585, 1), (0x1D5A0, 0x1D5B9, 1), (0x1D5D4, 0x1D5ED, 1),
   (0x1D608, 0x1D621, 1), (0x1D63C, 0x1D655, 1), (0x1D670, 0x1D689, 1),
   (0x1D6A8, 0x1D6C0, 1), (0x1D6E2, 0x1D6FA, 1), (0x1D71C, 0x1D734, 1),
   (0x1D756, 0x1D76E, 1), (0x1D790, 0x1D7A8, 1), (0x1D7CA, 0x1D7CA, 1),
   (0x1E900, 0x1E921, 1)]

/-- `unicode.Is` over ranges with strides. -/
def inStrides (r : Nat) : List (Nat × Nat × Nat) → Bool
  | [] => false
  | (lo, hi, stride) :: ranges => lo ≤ r && r ≤ hi && (r - lo) % stride == 0 || inStrides r ranges

/-- `unicode.IsUpper`: the Latin-1 upper-case letters of `properties`, then the table. -/
def isUpper (c : Char) : Bool :=
  if c.toNat ≤ 0xFF then
    0x41 ≤ c.toNat && c.toNat ≤ 0x5A || 0xC0 ≤ c.toNat && c.toNat ≤ 0xD6 ||
      0xD8 ≤ c.toNat && c.toNat ≤ 0xDE
  else inStrides c.toNat upperRanges

/-- The printable runes past Latin-1: letters, marks, numbers, punctuation and symbols. -/
def printRanges : List (Nat × Nat) :=
  [(0x0100, 0x0377), (0x037A, 0x037F), (0x0384, 0x038A), (0x038C, 0x038C),
   (0x038E, 0x03A1), (0x03A3, 0x052F), (0x0531, 0x0556), (0x0559, 0x058A),
   (0x058D, 0x058F), (0x0591, 0x05C7), (0x05D0, 0x05EA), (0x05EF, 0x05F4),
   (0x0606, 0x061B), (0x061E, 0x06DC), (0x06DE, 0x070D), (0x0710, 0x074A),
   (0x074D, 0x07B1), (0x07C0, 0x07FA), (0x07FD, 0x082D), (0x0830, 0x083E),
   (0x0840, 0x085B), (0x085E, 0x085E), (0x0860, 0x086A), (0x08A0, 0x08B4),
   (0x08B6, 0x08C7), (0x08D3, 0x08E1), (0x08E3, 0x0983), (0x0985, 0x098C),
   (0x098F, 0x0990), (0x0993, 0x09A8), (0x09AA, 0x09B0), (0x09B2, 0x09B2)] ++
  [(0x09B6, 0x09B9), (0x09BC, 0x09C4), (0x09C7, 0x09C8), (0x09CB, 0x09CE),
   (0x09D7, 0x09D7), (0x09DC, 0x09DD), (0x09DF, 0x09E3), (0x09E6, 0x09FE),
   (0x0A01, 0x0A03), (0x0A05, 0x0A0A), (0x0A0F, 0x0A10), (0x0A13, 0x0A28),
   (0x0A2A, 0x0A30), (0x0A32, 0x0A33), (0x0A35, 0x0A36), (0x0A38, 0x0A39),
   (0x0A3C, 0x0A3C), (0x0A3E, 0x0A42), (0x0A47, 0x0A48), (0x0A4B, 0x0A4D),
   (0x0A51, 0x0A51), (0x0A59, 0x0A5C), (0x0A5E, 0x0A5E), (0x0A66, 0x0A76),
   (0x0A81, 0x0A83), (0x0A85, 0x0A8D), (0x0A8F, 0x0A91), (0x0A93, 0x0AA8),
   (0x0AAA, 0x0AB0), (0x0AB2, 0x0AB3), (0x0AB5, 0x0AB9), (0x0ABC, 0x0AC5)] ++
  [(0x0AC7, 0x0AC9), (0x0ACB, 0x0ACD), (0x0AD0, 0x0AD0), (0x0AE0, 0x0AE3),
   (0x0AE6, 0x0AF1), (0x0AF9, 0x0AFF), (0x0B01, 0x0B03), (0x0B05, 0x0B0C),
   (0x0B0F, 0x0B10), (0x0B13, 0x0B28), (0x0B2A, 0x0B30), (0x0B32, 0x0B33),
   (0x0B35, 0x0B39), (0x0B3C, 0x0B44), (0x0B47, 0x0B48), (0x0B4B, 0x0B4D),
   (0x0B55, 0x0B57), (0x0B5C, 0x0B5D), (0x0B5F, 0x0B63), (0x0B66, 0x0B77),
   (0x0B82, 0x0B83), (0x0B85, 0x0B8A), (0x0B8E, 0x0B90), (0x0B92, 0x0B95),
   (0x0B99, 0x0B9A), (0x0B9C, 0x0B9C), (0x0B9E, 0x0B9F), (0x0BA3, 0x0BA4),
   (0x0BA8, 0x0BAA), (0x0BAE, 0x0BB9), (0x0BBE, 0x0BC2), (0x0BC6, 0x0BC8)] ++
  [(0x0BCA, 0x0BCD), (0x0BD0, 0x0BD0), (0x0BD7, 0x0BD7), (0x0BE6, 0x0BFA),
   (0x0C00, 0x0C0C), (0x0C0E, 0x0C10), (0x0C12, 0x0C28), (0x0C2A, 0x0C39),
   (0x0C3D, 0x0C44), (0x0C46, 0x0C48), (0x0C4A, 0x0C4D), (0x0C55, 0x0C56),
   (0x0C58, 0x0C5A), (0x0C60, 0x0C63), (0x0C66, 0x0C6F), (0x0C77, 0x0C8C),
   (0x0C8E, 0x0C90), (0x0C92, 0x0CA8), (0x0CAA, 0x0CB3), (0x0CB5, 0x0CB9),
   (0x0CBC, 0x0CC4), (0x0CC6, 0x0CC8), (0x0CCA, 0x0CCD), (0x0CD5, 0x0CD6),
   (0x0CDE, 0x0CDE), (0x0CE0, 0x0CE3), (0x0CE6, 0x0CEF), (0x0CF1, 0x0CF2),
   (0x0D00, 0x0D0C), (0x0D0E, 0x0D10), (0x0D12, 0x0D44), (0x0D46, 0x0D48)] ++
  [(0x0D4A, 0x0D4F), (0x0D54, 0x0D63), (0x0D66, 0x0D7F), (0x0D81, 0x0D83),
   (0x0D85, 0x0D96), (0x0D9A, 0x0DB1), (0x0DB3, 0x0DBB), (0x0DBD, 0x0DBD),
   (0x0DC0, 0x0DC6), (0x0DCA, 0x0DCA), (0x0DCF, 0x0DD4), (0x0DD6, 0x0DD6),
   (0x0DD8, 0x0DDF), (0x0DE6, 0x0DEF), (0x0DF2, 0x0DF4), (0x0E01, 0x0E3A),
   (0x0E3F, 0x0E5B), (0x0E81, 0x0E82), (0x0E84, 0x0E84), (0x0E86, 0x0E8A),
   (0x0E8C, 0x0EA3), (0x0EA5, 0x0EA5), (0x0EA7, 0x0EBD), (0x0EC0, 0x0EC4),
   (0x0EC6, 0x0EC6), (0x0EC8, 0x0ECD), (0x0ED0, 0x0ED9), (0x0EDC, 0x0EDF),
   (0x0F00, 0x0F47), (0x0F49, 0x0F6C), (0x0F71, 0x0F97), (0x0F99, 0x0FBC)] ++
  [(0x0FBE, 0x0FCC), (0x0FCE, 0x0FDA), (0x1000, 0x10C5), (0x10C7, 0x10C7),
   (0x10CD, 0x10CD), (0x10D0, 0x1248), (0x124A, 0x124D), (0x1250, 0x1256),
   (0x1258, 0x1258), (0x125A, 0x125D), (0x1260, 0x1288), (0x128A, 0x128D),
   (0x1290, 0x12B0), (0x12B2, 0x12B5), (0x12B8, 0x12BE), (0x12C0, 0x12C0),
   (0x12C2, 0x12C5), (0x12C8, 0x12D6), (0x12D8, 0x1310), (0x1312, 0x1315),
   (0x1318, 0x135A), (0x135D, 0x137C), (0x1380, 0x1399), (0x13A0, 0x13F5),
   (0x13F8, 0x13FD), (0x1400, 0x167F), (0x1681, 0x169C), (0x16A0, 0x16F8),
   (0x1700, 0x170C), (0x170E, 0x1714), (0x1720, 0x1736), (0x1740, 0x1753)] ++
  [(0x1760, 0x176C), (0x176E, 0x1770), (0x1772, 0x1773), (0x1780, 0x17DD),
   (0x17E0, 0x17E9), (0x17F0, 0x17F9), (0x1800, 0x180D), (0x1810, 0x1819),
   (0x1820, 0x1878), (0x1880, 0x18AA), (0x18B0, 0x18F5), (0x1900, 0x191E),
   (0x1920, 0x192B), (0x1930, 0x193B), (0x1940, 0x1940), (0x1944, 0x196D),
   (0x1970, 0x1974), (0x1980, 0x19AB), (0x19B0, 0x19C9), (0x19D0, 0x19DA),
   (0x19DE, 0x1A1B), (0x1A1E, 0x1A5E), (0x1A60, 0x1A7C), (0x1A7F, 0x1A89),
   (0x1A90, 0x1A99), (0x1AA0, 0x1AAD), (0x1AB0, 0x1AC0), (0x1B00, 0x1B4B),
   (0x1B50, 0x1B7C), (0x1B80, 0x1BF3), (0x1BFC, 0x1C37), (0x1C3B, 0x1C49)] ++
  [(0x1C4D, 0x1C88), (0x1C90, 0x1CBA), (0x1CBD, 0x1CC7), (0x1CD0, 0x1CFA),
   (0x1D00, 0x1DF9), (0x1DFB, 0x1F15), (0x1F18, 0x1F1D), (0x1F20, 0x1F45),
   (0x1F48, 0x1F4D), (0x1F50, 0x1F57), (0x1F59, 0x1F59), (0x1F5B, 0x1F5B),
   (0x1F5D, 0x1F5D), (0x1F5F, 0x1F7D), (0x1F80, 0x1FB4), (0x1FB6, 0x1FC4),
   (0x1FC6, 0x1FD3), (0x1FD6, 0x1FDB), (0x1FDD, 0x1FEF), (0x1FF2, 0x1FF4),
   (0x1FF6, 0x1FFE), (0x2010, 0x2027), (0x2030, 0x205E), (0x2070, 0x2071),
   (0x2074, 0x208E), (0x2090, 0x209C), (0x20A0, 0x20BF), (0x20D0, 0x20F0),
   (0x2100, 0x218B), (0x2190, 0x2426), (0x2440, 0x244A), (0x2460, 0x2B73)] ++
  [(0x2B76, 0x2B95), (0x2B97, 0x2C2E), (0x2C30, 0x2C5E), (0x2C60, 0x2CF3),
   (0x2CF9, 0x2D25), (0x2D27, 0x2D27), (0x2D2D, 0x2D2D), (0x2D30, 0x2D67),
   (0x2D6F, 0x2D70), (0x2D7F, 0x2D96), (0x2DA0, 0x2DA6), (0x2DA8, 0x2DAE),
   (0x2DB0, 0x2DB6), (0x2DB8, 0x2DBE), (0x2DC0, 0x2DC6), (0x2DC8, 0x2DCE),
   (0x2DD0, 0x2DD6), (0x2DD8, 0x2DDE), (0x2DE0, 0x2E52), (0x2E80, 0x2E99),
   (0x2E9B, 0x2EF3), (0x2F00, 0x2FD5), (0x2FF0, 0x2FFB), (0x3001, 0x303F),
   (0x3041, 0x3096), (0x3099, 0x30FF), (0x3105, 0x312F), (0x3131, 0x318E),
   (0x3190, 0x31E3), (0x31F0, 0x321E), (0x3220, 0x9FFC), (0xA000, 0xA48C)] ++
  [(0xA490, 0xA4C6), (0xA4D0, 0xA62B), (0xA640, 0xA6F7), (0xA700, 0xA7BF),
   (0xA7C2, 0xA7CA), (0xA7F5, 0xA82C), (0xA830, 0xA839), (0xA840, 0xA877),
   (0xA880, 0xA8C5), (0xA8CE, 0xA8D9), (0xA8E0, 0xA953), (0xA95F, 0xA97C),
   (0xA980, 0xA9CD), (0xA9CF, 0xA9D9), (0xA9DE, 0xA9FE), (0xAA00, 0xAA36),
   (0xAA40, 0xAA4D), (0xAA50, 0xAA59), (0xAA5C, 0xAAC2), (0xAADB, 0xAAF6),
   (0xAB01, 0xAB06), (0xAB09, 0xAB0E), (0xAB11, 0xAB16), (0xAB20, 0xAB26),
   (0xAB28, 0xAB2E), (0xAB30, 0xAB6B), (0xAB70, 0xABED), (0xABF0, 0xABF9),
   (0xAC00, 0xD7A3), (0xD7B0, 0xD7C6), (0xD7CB, 0xD7FB), (0xF900, 0xFA6D)] ++
  [(0xFA70, 0xFAD9), (0xFB00, 0xFB06), (0xFB13, 0xFB17), (0xFB1D, 0xFB36),
   (0xFB38, 0xFB3C), (0xFB3E, 0xFB3E), (0xFB40, 0xFB41), (0xFB43, 0xFB44),
   (0xFB46, 0xFBC1), (0xFBD3, 0xFD3F), (0xFD50, 0xFD8F), (0xFD92, 0xFDC7),
   (0xFDF0, 0xFDFD), (0xFE00, 0xFE19), (0xFE20, 0xFE52), (0xFE54, 0xFE66),
   (0xFE68, 0xFE6B), (0xFE70, 0xFE74), (0xFE76, 0xFEFC), (0xFF01, 0xFFBE),
   (0xFFC2, 0xFFC7), (0xFFCA, 0xFFCF), (0xFFD2, 0xFFD7), (0xFFDA, 0xFFDC),
   (0xFFE0, 0xFFE6), (0xFFE8, 0xFFEE), (0xFFFC, 0xFFFD), (0x10000, 0x1000B),
   (0x1000D, 0x10026), (0x10028, 0x1003A), (0x1003C, 0x1003D), (0x1003F, 0x1004D)] ++
  [(0x10050, 0x1005D), (0x10080, 0x100FA), (0x10100, 0x10102), (0x10107, 0x10133),
   (0x10137, 0x1018E), (0x10190, 0x1019C), (0x101A0, 0x101A0), (0x101D0, 0x101FD),
   (0x10280, 0x1029C), (0x102A0, 0x102D0), (0x102E0, 0x102FB), (0x10300, 0x10323),
   (0x1032D, 0x1034A), (0x10350, 0x1037A), (0x10380, 0x1039D), (0x1039F, 0x103C3),
   (0x103C8, 0x103D5), (0x10400, 0x1049D), (0x104A0, 0x104A9), (0x104B0, 0x104D3),
   (0x104D8, 0x104FB), (0x10500, 0x10527), (0x10530, 0x10563), (0x1056F, 0x1056F),
   (0x10600, 0x10736), (0x10740, 0x10755), (0x10760, 0x10767), (0x10800, 0x10805),
   (0x10808, 0x10808), (0x1080A, 0x10835), (0x10837, 0x10838), (0x1083C, 0x1083C)] ++
  [(0x1083F, 0x10855), (0x10857, 0x1089E), (0x108A7, 0x108AF), (0x108E0, 0x108F2),
   (0x108F4, 0x108F5), (0x108FB, 0x1091B), (0x1091F, 0x10939), (0x1093F, 0x1093F),
   (0x10980, 0x109B7), (0x109BC, 0x109CF), (0x109D2, 0x10A03), (0x10A05, 0x10A06),
   (0x10A0C, 0x10A13), (0x10A15, 0x10A17), (0x10A19, 0x10A35), (0x10A38, 0x10A3A),
   (0x10A3F, 0x10A48), (0x10A50, 0x10A58), (0x10A60, 0x10A9F), (0x10AC0, 0x10AE6),
   (0x10AEB, 0x10AF6), (0x10B00, 0x10B35), (0x10B39, 0x10B55), (0x10B58, 0x10B72),
   (0x10B78, 0x10B91), (0x10B99, 0x10B9C), (0x10BA9, 0x10BAF), (0x10C00, 0x10C48),
   (0x10C80, 0x10CB2), (0x10CC0, 0x10CF2), (0x10CFA, 0x10D27), (0x10D30, 0x10D39)] ++
  [(0x10E60, 0x10E7E), (0x10E80, 0x10EA9), (0x10EAB, 0x10EAD), (0x10EB0, 0x10EB1),
   (0x10F00, 0x10F27), (0x10F30, 0x10F59), (0x10FB0, 0x10FCB), (0x10FE0, 0x10FF6),
   (0x11000, 0x1104D), (0x11052, 0x1106F), (0x1107F, 0x110BC), (0x110BE, 0x110C1),
   (0x110D0, 0x110E8), (0x110F0, 0x110F9), (0x11100, 0x11134), (0x11136, 0x11147),
   (0x11150, 0x11176), (0x11180, 0x111DF), (0x111E1, 0x111F4), (0x11200, 0x11211),
   (0x11213, 0x1123E), (0x11280, 0x11286), (0x11288, 0x11288), (0x1128A, 0x1128D),
   (0x1128F, 0x1129D), (0x1129F, 0x112A9), (0x112B0, 0x112EA), (0x112F0, 0x112F9),
   (0x11300, 0x11303), (0x11305, 0x1130C), (0x1130F, 0x11310), (0x11313, 0x11328)] ++
  [(0x1132A, 0x11330), (0x11332, 0x11333), (0x11335, 0x11339), (0x1133B, 0x11344),
   (0x11347, 0x11348), (0x1134B, 0x1134D), (0x11350, 0x11350), (0x11357, 0x11357),
   (0x1135D, 0x11363), (0x11366, 0x1136C), (0x11370, 0x11374), (0x11400, 0x1145B),
   (0x1145D, 0x11461), (0x11480, 0x114C7), (0x114D0, 0x114D9), (0x11580, 0x115B5),
   (0x115B8, 0x115DD), (0x11600, 0x11644), (0x11650, 0x11659), (0x11660, 0x1166C),
   (0x11680, 0x116B8), (0x116C0, 0x116C9), (0x11700, 0x1171A), (0x1171D, 0x1172B),
   (0x11730, 0x1173F), (0x11800, 0x1183B), (0x118A0, 0x118F2), (0x118FF, 0x11906),
   (0x11909, 0x11909), (0x1190C, 0x11913), (0x11915, 0x11916), (0x11918, 0x11935)] ++
  [(0x11937, 0x11938), (0x1193B, 0x11946), (0x11950, 0x11959), (0x119A0, 0x119A7),
   (0x119AA, 0x119D7), (0x119DA, 0x119E4), (0x11A00, 0x11A47), (0x11A50, 0x11AA2),
   (0x11AC0, 0x11AF8), (0x11C00, 0x11C08), (0x11C0A, 0x11C36), (0x11C38, 0x11C45),
   (0x11C50, 0x11C6C), (0x11C70, 0x11C8F), (0x11C92, 0x11CA7), (0x11CA9, 0x11CB6),
   (0x11D00, 0x11D06), (0x11D08, 0x11D09), (0x11D0B, 0x11D36), (0x11D3A, 0x11D3A),
   (0x11D3C, 0x11D3D), (0x11D3F, 0x11D47), (0x11D50, 0x11D59), (0x11D60, 0x11D65),
   (0x11D67, 0x11D68), (0x11D6A, 0x11D8E), (0x11D90, 0x11D91), (0x11D93, 0x11D98),
   (0x11DA0, 0x11DA9), (0x11EE0, 0x11EF8), (0x11FB0, 0x11FB0), (0x11FC0, 0x11FF1)] ++
  [(0x11FFF, 0x12399), (0x12400, 0x1246E), (0x12470, 0x12474), (0x12480, 0x12543),
   (0x13000, 0x1342E), (0x14400, 0x14646), (0x16800, 0x16A38), (0x16A40, 0x16A5E),
   (0x16A60, 0x16A69), (0x16A6E, 0x16A6F), (0x16AD0, 0x16AED), (0x16AF0, 0x16AF5),
   (0x16B00, 0x16B45), (0x16B50, 0x16B59), (0x16B5B, 0x16B61), (0x16B63, 0x16B77),
   (0x16B7D, 0x16B8F), (0x16E40, 0x16E9A), (0x16F00, 0x16F4A), (0x16F4F, 0x16F87),
   (0x16F8F, 0x16F9F), (0x16FE0, 0x16FE4), (0x16FF0, 0x16FF1), (0x17000, 0x187F7),
   (0x18800, 0x18CD5), (0x18D00, 0x18D08), (0x1B000, 0x1B11E), (0x1B150, 0x1B152),
   (0x1B164, 0x1B167), (0x1B170, 0x1B2FB), (0x1BC00, 0x1BC6A), (0x1BC70, 0x1BC7C)] ++
  [(0x1BC80, 0x1BC88), (0x1BC90, 0x1BC99), (0x1BC9C, 0x1BC9F), (0x1D000, 0x1D0F5),
   (0x1D100, 0x1D126), (0x1D129, 0x1D172), (0x1D17B, 0x1D1E8), (0x1D200, 0x1D245),
   (0x1D2E0, 0x1D2F3), (0x1D300, 0x1D356), (0x1D360, 0x1D378), (0x1D400, 0x1D454),
   (0x1D456, 0x1D49C), (0x1D49E, 0x1D49F), (0x1D4A2, 0x1D4A2), (0x1D4A5, 0x1D4A6),
   (0x1D4A9, 0x1D4AC), (0x1D4AE, 0x1D4B9), (0x1D4BB, 0x1D4BB), (0x1D4BD, 0x1D4C3),
   (0x1D4C5, 0x1D505), (0x1D507, 0x1D50A), (0x1D50D, 0x1D514), (0x1D516, 0x1D51C),
   (0x1D51E, 0x1D539), (0x1D53B, 0x1D53E), (0x1D540, 0x1D544), (0x1D546, 0x1D546),
   (0x1D54A, 0x1D550), (0x1D552, 0x1D6A5), (0x1D6A8, 0x1D7CB), (0x1D7CE, 0x1DA8B)] ++
  [(0x1DA9B, 0x1DA9F), (0x1DAA1, 0x1DAAF), (0x1E000, 0x1E006), (0x1E008, 0x1E018),
   (0x1E01B, 0x1E021), (0x1E023, 0x1E024), (0x1E026, 0x1E02A), (0x1E100, 0x1E12C),
   (0x1E130, 0x1E13D), (0x1E140, 0x1E149), (0x1E14E, 0x1E14F), (0x1E2C0, 0x1E2F9),
   (0x1E2FF, 0x1E2FF), (0x1E800, 0x1E8C4), (0x1E8C7, 0x1E8D6), (0x1E900, 0x1E94B),
   (0x1E950, 0x1E959), (0x1E95E, 0x1E95F), (0x1EC71, 0x1ECB4), (0x1ED01, 0x1ED3D),
   (0x1EE00, 0x1EE03), (0x1EE05, 0x1EE1F), (0x1EE21, 0x1EE22), (0x1EE24, 0x1EE24),
   (0x1EE27, 0x1EE27), (0x1EE29, 0x1EE32), (0x1EE34, 0x1EE37), (0x1EE39, 0x1EE39),
   (0x1EE3B, 0x1EE3B), (0x1EE42, 0x1EE42), (0x1EE47, 0x1EE47), (0x1EE49, 0x1EE49)] ++
  [(0x1EE4B, 0x1EE4B), (0x1EE4D, 0x1EE4F), (0x1EE51, 0x1EE52), (0x1EE54, 0x1EE54),
   (0x1EE57, 0x1EE57), (0x1EE59, 0x1EE59), (0x1EE5B, 0x1EE5B), (0x1EE5D, 0x1EE5D),
   (0x1EE5F, 0x1EE5F), (0x1EE61, 0x1EE62), (0x1EE64, 0x1EE64), (0x1EE67, 0x1EE6A),
   (0x1EE6C, 0x1EE72), (0x1EE74, 0x1EE77), (0x1EE79, 0x1EE7C), (0x1EE7E, 0x1EE7E),
   (0x1EE80, 0x1EE89), (0x1EE8B, 0x1EE9B), (0x1EEA1, 0x1EEA3), (0x1EEA5, 0x1EEA9),
   (0x1EEAB, 0x1EEBB), (0x1EEF0, 0x1EEF1), (0x1F000, 0x1F02B), (0x1F030, 0x1F093),
   (0x1F0A0, 0x1F0AE), (0x1F0B1, 0x1F0BF), (0x1F0C1, 0x1F0CF), (0x1F0D1, 0x1F0F5),
   (0x1F100, 0x1F1AD), (0x1F1E6, 0x1F202), (0x1F210, 0x1F23B), (0x1F240, 0x1F248)] ++
  [(0x1F250, 0x1F251), (0x1F260, 0x1F265), (0x1F300, 0x1F6D7), (0x1F6E0, 0x1F6EC),
   (0x1F6F0, 0x1F6FC), (0x1F700, 0x1F773), (0x1F780, 0x1F7D8), (0x1F7E0, 0x1F7EB),
   (0x1F800, 0x1F80B), (0x1F810, 0x1F847), (0x1F850, 0x1F859), (0x1F860, 0x1F887),
   (0x1F890, 0x1F8AD), (0x1F8B0, 0x1F8B1), (0x1F900, 0x1F978), (0x1F97A, 0x1F9CB),
   (0x1F9CD, 0x1FA53), (0x1FA60, 0x1FA6D), (0x1FA70, 0x1FA74), (0x1FA78, 0x1FA7A),
   (0x1FA80, 0x1FA86), (0x1FA90, 0x1FAA8), (0x1FAB0, 0x1FAB6), (0x1FAC0, 0x1FAC2),
   (0x1FAD0, 0x1FAD6), (0x1FB00, 0x1FB92), (0x1FB94, 0x1FBCA), (0x1FBF0, 0x1FBF9),
   (0x20000, 0x2A6DD), (0x2A700, 0x2B734), (0x2B740, 0x2B81D), (0x2B820, 0x2CEA1)] ++
  [(0x2CEB0, 0x2EBE0), (0x2F800, 0x2FA1D), (0x30000, 0x3134A), (0xE0100, 0xE01EF)]

def inRanges (r : Nat) : List (Nat × Nat) → Bool
  | [] => false
  | (lo, hi) :: ranges => lo ≤ r && r ≤ hi || inRanges r ranges

/-- `strconv.IsPrint`, with its fast check of Latin-1. -/
def isPrint (c : Char) : Bool :=
  if c.toNat ≤ 0xFF then
    0x20 ≤ c.toNat && c.toNat ≤ 0x7E || 0xA1 ≤ c.toNat && c.toNat ≤ 0xFF && c.toNat != 0xAD
  else inRanges c.toNat printRanges

end Converge.Unicode
