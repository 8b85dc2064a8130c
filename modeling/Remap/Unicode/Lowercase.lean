import Remap.Unicode.Binary
/-!
# Lower case

`lowercase` writes a text in small letters. A capital sigma at the end of a word becomes a final
sigma, and a dotted capital I becomes two characters; every other character has one small form.
-/

namespace Remap.Unicode

/-- Runs of letters `lo` to `hi` whose small letters lie `distance` further on. -/
def lowerShifted : List (Nat × Nat × Int) := [
  (0x41, 0x5A, 0x20), (0xC0, 0xD6, 0x20), (0xD8, 0xDE, 0x20), (0x178, 0x178, -0x79), (0x181,
  0x181, 0xD2), (0x186, 0x186, 0xCE), (0x189, 0x18A, 0xCD), (0x18E, 0x18E, 0x4F), (0x18F, 0x18F,
  0xCA), (0x190, 0x190, 0xCB), (0x193, 0x193, 0xCD), (0x194, 0x194, 0xCF), (0x196, 0x196, 0xD3),
  (0x197, 0x197, 0xD1), (0x19C, 0x19C, 0xD3), (0x19D, 0x19D, 0xD5), (0x19F, 0x19F, 0xD6),
  (0x1A6, 0x1A6, 0xDA), (0x1A9, 0x1A9, 0xDA), (0x1AE, 0x1AE, 0xDA), (0x1B1, 0x1B2, 0xD9),
  (0x1B7, 0x1B7, 0xDB), (0x1C4, 0x1C4, 2), (0x1C7, 0x1C7, 2), (0x1CA, 0x1CA, 2), (0x1F1, 0x1F1,
  2), (0x1F6, 0x1F6, -0x61), (0x1F7, 0x1F7, -0x38), (0x220, 0x220, -0x82), (0x23A, 0x23A,
  0x2A2B), (0x23D, 0x23D, -0xA3), (0x23E, 0x23E, 0x2A28), (0x243, 0x243, -0xC3), (0x244, 0x244,
  0x45), (0x245, 0x245, 0x47), (0x37F, 0x37F, 0x74), (0x386, 0x386, 0x26), (0x388, 0x38A, 0x25),
  (0x38C, 0x38C, 0x40), (0x38E, 0x38F, 0x3F), (0x391, 0x3A1, 0x20), (0x3A3, 0x3AB, 0x20),
  (0x3CF, 0x3CF, 8), (0x3F4, 0x3F4, -0x3C), (0x3F9, 0x3F9, -0x7), (0x3FD, 0x3FF, -0x82), (0x400,
  0x40F, 0x50), (0x410, 0x42F, 0x20), (0x4C0, 0x4C0, 0xF), (0x531, 0x556, 0x30), (0x10A0,
  0x10C5, 0x1C60), (0x10C7, 0x10C7, 0x1C60), (0x10CD, 0x10CD, 0x1C60), (0x13A0, 0x13EF, 0x97D0),
  (0x13F0, 0x13F5, 8), (0x1C90, 0x1CBA, -0xBC0), (0x1CBD, 0x1CBF, -0xBC0), (0x1E9E, 0x1E9E,
  -0x1DBF), (0x1F08, 0x1F0F, -0x8), (0x1F18, 0x1F1D, -0x8), (0x1F28, 0x1F2F, -0x8), (0x1F38,
  0x1F3F, -0x8), (0x1F48, 0x1F4D, -0x8), (0x1F59, 0x1F59, -0x8), (0x1F5B, 0x1F5B, -0x8),
  (0x1F5D, 0x1F5D, -0x8), (0x1F5F, 0x1F5F, -0x8), (0x1F68, 0x1F6F, -0x8), (0x1F88, 0x1F8F,
  -0x8), (0x1F98, 0x1F9F, -0x8), (0x1FA8, 0x1FAF, -0x8), (0x1FB8, 0x1FB9, -0x8), (0x1FBA,
  0x1FBB, -0x4A), (0x1FBC, 0x1FBC, -0x9), (0x1FC8, 0x1FCB, -0x56), (0x1FCC, 0x1FCC, -0x9),
  (0x1FD8, 0x1FD9, -0x8), (0x1FDA, 0x1FDB, -0x64), (0x1FE8, 0x1FE9, -0x8), (0x1FEA, 0x1FEB,
  -0x70), (0x1FEC, 0x1FEC, -0x7), (0x1FF8, 0x1FF9, -0x80), (0x1FFA, 0x1FFB, -0x7E), (0x1FFC,
  0x1FFC, -0x9), (0x2126, 0x2126, -0x1D5D), (0x212A, 0x212A, -0x20BF), (0x212B, 0x212B,
  -0x2046), (0x2132, 0x2132, 0x1C), (0x2160, 0x216F, 0x10), (0x24B6, 0x24CF, 0x1A), (0x2C00,
  0x2C2F, 0x30), (0x2C62, 0x2C62, -0x29F7), (0x2C63, 0x2C63, -0xEE6), (0x2C64, 0x2C64, -0x29E7),
  (0x2C6D, 0x2C6D, -0x2A1C), (0x2C6E, 0x2C6E, -0x29FD), (0x2C6F, 0x2C6F, -0x2A1F), (0x2C70,
  0x2C70, -0x2A1E), (0x2C7E, 0x2C7F, -0x2A3F), (0xA77D, 0xA77D, -0x8A04), (0xA78D, 0xA78D,
  -0xA528), (0xA7AA, 0xA7AA, -0xA544), (0xA7AB, 0xA7AB, -0xA54F), (0xA7AC, 0xA7AC, -0xA54B),
  (0xA7AD, 0xA7AD, -0xA541), (0xA7AE, 0xA7AE, -0xA544), (0xA7B0, 0xA7B0, -0xA512), (0xA7B1,
  0xA7B1, -0xA52A), (0xA7B2, 0xA7B2, -0xA515), (0xA7B3, 0xA7B3, 0x3A0), (0xA7C4, 0xA7C4, -0x30),
  (0xA7C5, 0xA7C5, -0xA543), (0xA7C6, 0xA7C6, -0x8A38), (0xA7CB, 0xA7CB, -0xA567), (0xA7DC,
  0xA7DC, -0xA641), (0xFF21, 0xFF3A, 0x20), (0x10400, 0x10427, 0x28), (0x104B0, 0x104D3, 0x28),
  (0x10570, 0x1057A, 0x27), (0x1057C, 0x1058A, 0x27), (0x1058C, 0x10592, 0x27), (0x10594,
  0x10595, 0x27), (0x10C80, 0x10CB2, 0x40), (0x10D50, 0x10D65, 0x20), (0x118A0, 0x118BF, 0x20),
  (0x16E40, 0x16E5F, 0x20), (0x16EA0, 0x16EB8, 0x1B), (0x1E900, 0x1E921, 0x22)]

/-- Runs in which each letter is followed by its small letter. -/
def lowerAlternating : List (Nat × Nat) := [
  (0x100, 0x12F), (0x132, 0x137), (0x139, 0x148), (0x14A, 0x177), (0x179, 0x17E), (0x182,
  0x185), (0x187, 0x188), (0x18B, 0x18C), (0x191, 0x192), (0x198, 0x199), (0x1A0, 0x1A5),
  (0x1A7, 0x1A8), (0x1AC, 0x1AD), (0x1AF, 0x1B0), (0x1B3, 0x1B6), (0x1B8, 0x1B9), (0x1BC,
  0x1BD), (0x1C5, 0x1C6), (0x1C8, 0x1C9), (0x1CB, 0x1DC), (0x1DE, 0x1EF), (0x1F2, 0x1F5),
  (0x1F8, 0x21F), (0x222, 0x233), (0x23B, 0x23C), (0x241, 0x242), (0x246, 0x24F), (0x370,
  0x373), (0x376, 0x377), (0x3D8, 0x3EF), (0x3F7, 0x3F8), (0x3FA, 0x3FB), (0x460, 0x481),
  (0x48A, 0x4BF), (0x4C1, 0x4CE), (0x4D0, 0x52F), (0x1C89, 0x1C8A), (0x1E00, 0x1E95), (0x1EA0,
  0x1EFF), (0x2183, 0x2184), (0x2C60, 0x2C61), (0x2C67, 0x2C6C), (0x2C72, 0x2C73), (0x2C75,
  0x2C76), (0x2C80, 0x2CE3), (0x2CEB, 0x2CEE), (0x2CF2, 0x2CF3), (0xA640, 0xA66D), (0xA680,
  0xA69B), (0xA722, 0xA72F), (0xA732, 0xA76F), (0xA779, 0xA77C), (0xA77E, 0xA787), (0xA78B,
  0xA78C), (0xA790, 0xA793), (0xA796, 0xA7A9), (0xA7B4, 0xA7C3), (0xA7C7, 0xA7CA), (0xA7CC,
  0xA7DB), (0xA7F5, 0xA7F6)]

/-- The small form of a character outside ASCII, read on its own. -/
def lowerWide (c : Char) : List Char :=
  let n := c.toNat
  if n = 0x130 then ['i', Char.ofNat 0x307]
  else
    match lowerShifted.find? fun (lo, hi, _) => lo ≤ n && n ≤ hi with
    | some (_, _, d) => [Char.ofNat (n + d).toNat]
    | none =>
      match lowerAlternating.find? fun (lo, hi) => lo ≤ n && n ≤ hi with
      | some (lo, _) => [if (n - lo) % 2 = 0 then Char.ofNat (n + 1) else c]
      | none => [c]

/-- The small form of a character, read on its own. -/
def lowerChar (c : Char) : List Char :=
  if c.toNat < 0x80 then [c.toLower] else lowerWide c

/-- Characters that a final sigma looks past. -/
def caseIgnorable : CharSet := Binary.set .caseIgnorable

def cased : CharSet := Binary.set .cased

/-- Whether the next character that is not passed over is a letter with cases. -/
def meetsCased (cs : List Char) : Bool :=
  match cs.dropWhile caseIgnorable.contains with
  | c :: _ => cased.contains c
  | [] => false

/-- Small letters for `cs`; `back` is the text before it, the nearest character first. -/
def lowerFrom (back : List Char) : List Char → List Char
  | [] => []
  | c :: cs =>
    (if c = 'Σ' then [if meetsCased back && !meetsCased cs then 'ς' else 'σ'] else lowerChar c)
      ++ lowerFrom (c :: back) cs

def lowercase (cs : List Char) : List Char := lowerFrom [] cs

end Remap.Unicode
