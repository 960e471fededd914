import SiteSearch.Text.CodePoints

/-!
# Lower case

The Unicode lower-case mapping of texts. It works character by character but for the capital
sigma, which becomes a final sigma after a cased letter and before none.
-/

set_option autoImplicit false
set_option relaxedAutoImplicit false

namespace SiteSearch.Text

/-- The characters from `first` to `last` in steps of `stride`, each of which lies `shift` before
its lower-case form. -/
structure CaseRun where
  first : Nat
  last : Nat
  stride : Nat
  shift : Int

/-- The runs of characters beyond ASCII whose lower-case form is one other character. -/
def caseRuns : List CaseRun := [
  ⟨0xC0, 0xD6, 1, 32⟩, ⟨0xD8, 0xDE, 1, 32⟩, ⟨0x100, 0x12E, 2, 1⟩,
  ⟨0x132, 0x136, 2, 1⟩, ⟨0x139, 0x147, 2, 1⟩, ⟨0x14A, 0x176, 2, 1⟩,
  ⟨0x178, 0x178, 1, -121⟩, ⟨0x179, 0x17D, 2, 1⟩, ⟨0x181, 0x181, 1, 210⟩,
  ⟨0x182, 0x184, 2, 1⟩, ⟨0x186, 0x186, 1, 206⟩, ⟨0x187, 0x187, 1, 1⟩,
  ⟨0x189, 0x18A, 1, 205⟩, ⟨0x18B, 0x18B, 1, 1⟩, ⟨0x18E, 0x18E, 1, 79⟩,
  ⟨0x18F, 0x18F, 1, 202⟩, ⟨0x190, 0x190, 1, 203⟩, ⟨0x191, 0x191, 1, 1⟩,
  ⟨0x193, 0x193, 1, 205⟩, ⟨0x194, 0x194, 1, 207⟩, ⟨0x196, 0x196, 1, 211⟩,
  ⟨0x197, 0x197, 1, 209⟩, ⟨0x198, 0x198, 1, 1⟩, ⟨0x19C, 0x19C, 1, 211⟩,
  ⟨0x19D, 0x19D, 1, 213⟩, ⟨0x19F, 0x19F, 1, 214⟩, ⟨0x1A0, 0x1A4, 2, 1⟩,
  ⟨0x1A6, 0x1A6, 1, 218⟩, ⟨0x1A7, 0x1A7, 1, 1⟩, ⟨0x1A9, 0x1A9, 1, 218⟩,
  ⟨0x1AC, 0x1AC, 1, 1⟩, ⟨0x1AE, 0x1AE, 1, 218⟩, ⟨0x1AF, 0x1AF, 1, 1⟩,
  ⟨0x1B1, 0x1B2, 1, 217⟩, ⟨0x1B3, 0x1B5, 2, 1⟩, ⟨0x1B7, 0x1B7, 1, 219⟩,
  ⟨0x1B8, 0x1B8, 1, 1⟩, ⟨0x1BC, 0x1BC, 1, 1⟩, ⟨0x1C4, 0x1C4, 1, 2⟩,
  ⟨0x1C5, 0x1C5, 1, 1⟩, ⟨0x1C7, 0x1C7, 1, 2⟩, ⟨0x1C8, 0x1C8, 1, 1⟩,
  ⟨0x1CA, 0x1CA, 1, 2⟩, ⟨0x1CB, 0x1DB, 2, 1⟩, ⟨0x1DE, 0x1EE, 2, 1⟩,
  ⟨0x1F1, 0x1F1, 1, 2⟩, ⟨0x1F2, 0x1F4, 2, 1⟩, ⟨0x1F6, 0x1F6, 1, -97⟩,
  ⟨0x1F7, 0x1F7, 1, -56⟩, ⟨0x1F8, 0x21E, 2, 1⟩, ⟨0x220, 0x220, 1, -130⟩,
  ⟨0x222, 0x232, 2, 1⟩, ⟨0x23A, 0x23A, 1, 10795⟩, ⟨0x23B, 0x23B, 1, 1⟩,
  ⟨0x23D, 0x23D, 1, -163⟩, ⟨0x23E, 0x23E, 1, 10792⟩, ⟨0x241, 0x241, 1, 1⟩,
  ⟨0x243, 0x243, 1, -195⟩, ⟨0x244, 0x244, 1, 69⟩, ⟨0x245, 0x245, 1, 71⟩,
  ⟨0x246, 0x24E, 2, 1⟩, ⟨0x370, 0x372, 2, 1⟩, ⟨0x376, 0x376, 1, 1⟩,
  ⟨0x37F, 0x37F, 1, 116⟩, ⟨0x386, 0x386, 1, 38⟩, ⟨0x388, 0x38A, 1, 37⟩,
  ⟨0x38C, 0x38C, 1, 64⟩, ⟨0x38E, 0x38F, 1, 63⟩, ⟨0x391, 0x3A1, 1, 32⟩,
  ⟨0x3A3, 0x3AB, 1, 32⟩, ⟨0x3CF, 0x3CF, 1, 8⟩, ⟨0x3D8, 0x3EE, 2, 1⟩,
  ⟨0x3F4, 0x3F4, 1, -60⟩, ⟨0x3F7, 0x3F7, 1, 1⟩, ⟨0x3F9, 0x3F9, 1, -7⟩,
  ⟨0x3FA, 0x3FA, 1, 1⟩, ⟨0x3FD, 0x3FF, 1, -130⟩, ⟨0x400, 0x40F, 1, 80⟩,
  ⟨0x410, 0x42F, 1, 32⟩, ⟨0x460, 0x480, 2, 1⟩, ⟨0x48A, 0x4BE, 2, 1⟩,
  ⟨0x4C0, 0x4C0, 1, 15⟩, ⟨0x4C1, 0x4CD, 2, 1⟩, ⟨0x4D0, 0x52E, 2, 1⟩,
  ⟨0x531, 0x556, 1, 48⟩, ⟨0x10A0, 0x10C5, 1, 7264⟩, ⟨0x10C7, 0x10C7, 1, 7264⟩,
  ⟨0x10CD, 0x10CD, 1, 7264⟩, ⟨0x13A0, 0x13EF, 1, 38864⟩, ⟨0x13F0, 0x13F5, 1, 8⟩,
  ⟨0x1C89, 0x1C89, 1, 1⟩, ⟨0x1C90, 0x1CBA, 1, -3008⟩, ⟨0x1CBD, 0x1CBF, 1, -3008⟩,
  ⟨0x1E00, 0x1E94, 2, 1⟩, ⟨0x1E9E, 0x1E9E, 1, -7615⟩, ⟨0x1EA0, 0x1EFE, 2, 1⟩,
  ⟨0x1F08, 0x1F0F, 1, -8⟩, ⟨0x1F18, 0x1F1D, 1, -8⟩, ⟨0x1F28, 0x1F2F, 1, -8⟩,
  ⟨0x1F38, 0x1F3F, 1, -8⟩, ⟨0x1F48, 0x1F4D, 1, -8⟩, ⟨0x1F59, 0x1F5F, 2, -8⟩,
  ⟨0x1F68, 0x1F6F, 1, -8⟩, ⟨0x1F88, 0x1F8F, 1, -8⟩, ⟨0x1F98, 0x1F9F, 1, -8⟩,
  ⟨0x1FA8, 0x1FAF, 1, -8⟩, ⟨0x1FB8, 0x1FB9, 1, -8⟩, ⟨0x1FBA, 0x1FBB, 1, -74⟩,
  ⟨0x1FBC, 0x1FBC, 1, -9⟩, ⟨0x1FC8, 0x1FCB, 1, -86⟩, ⟨0x1FCC, 0x1FCC, 1, -9⟩,
  ⟨0x1FD8, 0x1FD9, 1, -8⟩, ⟨0x1FDA, 0x1FDB, 1, -100⟩, ⟨0x1FE8, 0x1FE9, 1, -8⟩,
  ⟨0x1FEA, 0x1FEB, 1, -112⟩, ⟨0x1FEC, 0x1FEC, 1, -7⟩, ⟨0x1FF8, 0x1FF9, 1, -128⟩,
  ⟨0x1FFA, 0x1FFB, 1, -126⟩, ⟨0x1FFC, 0x1FFC, 1, -9⟩, ⟨0x2126, 0x2126, 1, -7517⟩,
  ⟨0x212A, 0x212A, 1, -8383⟩, ⟨0x212B, 0x212B, 1, -8262⟩, ⟨0x2132, 0x2132, 1, 28⟩,
  ⟨0x2160, 0x216F, 1, 16⟩, ⟨0x2183, 0x2183, 1, 1⟩, ⟨0x24B6, 0x24CF, 1, 26⟩,
  ⟨0x2C00, 0x2C2F, 1, 48⟩, ⟨0x2C60, 0x2C60, 1, 1⟩, ⟨0x2C62, 0x2C62, 1, -10743⟩,
  ⟨0x2C63, 0x2C63, 1, -3814⟩, ⟨0x2C64, 0x2C64, 1, -10727⟩, ⟨0x2C67, 0x2C6B, 2, 1⟩,
  ⟨0x2C6D, 0x2C6D, 1, -10780⟩, ⟨0x2C6E, 0x2C6E, 1, -10749⟩, ⟨0x2C6F, 0x2C6F, 1, -10783⟩,
  ⟨0x2C70, 0x2C70, 1, -10782⟩, ⟨0x2C72, 0x2C72, 1, 1⟩, ⟨0x2C75, 0x2C75, 1, 1⟩,
  ⟨0x2C7E, 0x2C7F, 1, -10815⟩, ⟨0x2C80, 0x2CE2, 2, 1⟩, ⟨0x2CEB, 0x2CED, 2, 1⟩,
  ⟨0x2CF2, 0x2CF2, 1, 1⟩, ⟨0xA640, 0xA66C, 2, 1⟩, ⟨0xA680, 0xA69A, 2, 1⟩,
  ⟨0xA722, 0xA72E, 2, 1⟩, ⟨0xA732, 0xA76E, 2, 1⟩, ⟨0xA779, 0xA77B, 2, 1⟩,
  ⟨0xA77D, 0xA77D, 1, -35332⟩, ⟨0xA77E, 0xA786, 2, 1⟩, ⟨0xA78B, 0xA78B, 1, 1⟩,
  ⟨0xA78D, 0xA78D, 1, -42280⟩, ⟨0xA790, 0xA792, 2, 1⟩, ⟨0xA796, 0xA7A8, 2, 1⟩,
  ⟨0xA7AA, 0xA7AA, 1, -42308⟩, ⟨0xA7AB, 0xA7AB, 1, -42319⟩, ⟨0xA7AC, 0xA7AC, 1, -42315⟩,
  ⟨0xA7AD, 0xA7AD, 1, -42305⟩, ⟨0xA7AE, 0xA7AE, 1, -42308⟩, ⟨0xA7B0, 0xA7B0, 1, -42258⟩,
  ⟨0xA7B1, 0xA7B1, 1, -42282⟩, ⟨0xA7B2, 0xA7B2, 1, -42261⟩, ⟨0xA7B3, 0xA7B3, 1, 928⟩,
  ⟨0xA7B4, 0xA7C2, 2, 1⟩, ⟨0xA7C4, 0xA7C4, 1, -48⟩, ⟨0xA7C5, 0xA7C5, 1, -42307⟩,
  ⟨0xA7C6, 0xA7C6, 1, -35384⟩, ⟨0xA7C7, 0xA7C9, 2, 1⟩, ⟨0xA7CB, 0xA7CB, 1, -42343⟩,
  ⟨0xA7CC, 0xA7DA, 2, 1⟩, ⟨0xA7DC, 0xA7DC, 1, -42561⟩, ⟨0xA7F5, 0xA7F5, 1, 1⟩,
  ⟨0xFF21, 0xFF3A, 1, 32⟩, ⟨0x10400, 0x10427, 1, 40⟩, ⟨0x104B0, 0x104D3, 1, 40⟩,
  ⟨0x10570, 0x1057A, 1, 39⟩, ⟨0x1057C, 0x1058A, 1, 39⟩, ⟨0x1058C, 0x10592, 1, 39⟩,
  ⟨0x10594, 0x10595, 1, 39⟩, ⟨0x10C80, 0x10CB2, 1, 64⟩, ⟨0x10D50, 0x10D65, 1, 32⟩,
  ⟨0x118A0, 0x118BF, 1, 32⟩, ⟨0x16E40, 0x16E5F, 1, 32⟩, ⟨0x16EA0, 0x16EB8, 1, 27⟩,
  ⟨0x1E900, 0x1E921, 1, 34⟩]

/-- The lower-case form of a character, without regard to its neighbours. -/
def lowerChar (c : Char) : List Char :=
  let n := c.toNat
  if n < 0x80 then [c.toLower]
  else if n = 0x130 then ['i', '\u0307']
  else match caseRuns.find? fun r ↦ r.first ≤ n && n ≤ r.last with
    | some r => if (n - r.first) % r.stride = 0 then [Char.ofNat (n + r.shift).toNat] else [c]
    | none => [c]

/-- The cased characters beyond ASCII. -/
def wideCased : CodePoints := .ofGaps
  "aa b 5 6+16 2+1e 2+c2 2+3 5+cf 3+22 8+1 1f+4 61 2b+3 3+1 3+3 2 7 2+2 2 2+13 2+52 2+8a 9+a5
    2+25 a+28 b18+25 2 6 3+2a 2+3 2a1+55 3+5 883+a 6+2a 3+2 41+bf 41+115 3+5 3+25 3+5 3+7 2 2 2
    2+1e 3+34 2+6 2 4+2 2+6 4+3 3+5 5+c 6+2 2+6 75 e 11+c 66 5 3+9 2 4+4 7 2 2 2+3 2+5 5 3+3 6+4
    5 12+1f 4+1 332+33 717+e4 7+3 4+1 d+25 2 6 7913+2d 13+1d 85+65 4+3 2+4c 15+5 2+2 336+2a 2+d
    7+4f 4f41+6 d+4 40a+19 7+19 4a6+4f 61+23 5+23 75+a 2+e 2+6 2+1 2+a 2+e 2+6 2+1 1c4 3+2 2+29
    2+8 4c6+32 e+32 5e+15 b+15 b1b+3f 5561+3f 21+18 3+18 652d+54 2+46 2+1 3 3+1 3+3 2+b 2 2+6
    2+40 2+3 3+7 2+6 2+1b 2+3 2+4 2 4+6 2+153 3+18 2+18 2+1e 2+18 2+1e 2+18 2+1e 2+18 2+1e 2+18
    2+7 735+9 2+13 7+5 106+3d 893+43 7ed+19 7+19 7+19"

/-- The characters beyond ASCII that case contexts pass over. -/
def wideCaseIgnorable : CodePoints := .ofGaps
  "a8 5 2 5 3+1 1f8+bf 5+1 5 a+1 2 fc+6 d0 6 32+2c 2 2+1 2+1 2 2d c+5 b+a 2 24 b+14 11 66+7 2+9
    2+3 22 2 1f+1a 5c+a 3b+a 5 3 19+17 2c+2 2d 8+1 6+8 2a+39 38 2 5+7 5 4+6 b+1 e 10 3b 5+3 9
    15+1 1b 3+1 3a 5+1 5+1 3+2 4 1f+1 4 c+1 3a 5+4 2+1 5 15+1 17+5 2 3b 3 2+3 9 8+1 c+1 1f 3e d
    33 4 38 2+2 6+2 2+3 8+1 c+1 1e 3b 3 7 6+1 15+1 1d+1 3a+1 5+3 9 15+1 1e 49 8+2 2 5b 3+6 c+8
    63 3+8 a 2+6 4a+1 1c 2 2 38+d 2+4 2+1 6+a 2+23 a 67+3 2+5 2+1 3+1 1a+1 5+2 11+3 e 3+1 7 10
    5f 261+2 3b3+2 1e+1 1f+1 1f+1 41+1 2+6 9 3+a 4 6 2e+4 34 42+1 23 77+2 5+1 a 7+2 dc+1 3 3b
    2+6 2 2 3+7 7+9 3 28 9+2d 3+b 15+3 31 2+4 2 6 29+8 d+1 21+3 3+1 2+2 39 2+1 4 2+2 3b+7 3+1
    41+5 53+2 2+c 2+6 5 7 4+1 33+3e e 23+64 1be 2+2 c+2 e+2 e+2 e+1 d+4 9+1 b 3 3+4 32+4 2+9 2 e
    11+c 34+20 b8c+1 72+2 7e 10 61+1f 30 1d6 25+3 4+4 6 5e+5 5e+2 6f17 4e3+5 10f 63+3 2+9 2 1d+3
    51+1 f+21 4f 18+2 67+3 4+1 9 4 5 1a+1 6 98+1 1b+11 e 27+7 1a+a 2f+2 31 3+3 3+1 12 16+1 43+5
    3+1 3+1 d 9 24 c 34 2+2 3+1 6+1 2 1c f+1 6+1 2 65+4 a+2 7a 3 5 4f31 94+10 23e+f 4 d+f 23 3
    aa 8 7 c 24 2 30 2e+1 44 16+2 202 e3 96+4 406+5 2+29 2+8 247+2 2+1 6+3 29+2 5 a6+1 23e+3 27
    1b+4 2 13c+1 19 35+5 47+a 32+3 7c 37+e 2a 3+1 b+2 32+3 3+1 3 5 b 33+2 25+4 2+7 3f d+1 35+8
    b+3 3 60+2 3 2+1 7 3 9e 4+7 16+1 3a+1 4 26+6 4+4 47+5 e 2 2 f+1 56+7 3+2 2 18 55+5 2 5+1 2+1
    ef+3 7+1 2+1 1c+1 56+7 3 2+1 6b 2 3+5 2 66 2 3+3 2+4 104+8 2+1 101+1 2 5 91+3 3+1 5 21+9
    29+5 3+3 9 a+5 3+2 2f+c 2+1 c7 2+2 2 ca+6 2+5 2 53+15 3+6 2+1 2+1 7b+5 4 2+1 2+6 2 49+1 4 2
    42 11a+1 c+1 35+4 6 2 18 14d6+10 7+e 2cc9+b 4+2 9c1+4 3c+6 a+3 1fd+2 29+1 1e3 40+10 41+1 2+1
    e+1 3ffd+3 2+6 2+1 c9f+1 2+3 125d+2d 3+16 221+2 a+f 3+6 1f+3 95+2 7bc+36 5+31 9 f 17+4 2+e
    551+6 2+10 3+6 2+1 2+4 6+3d 22 a1+d 171 3e+3 1fc+4 ff+1 f4 3 8+1 6 a 1d1+6 6e+7 ab0+4 c0c02
    1f+5f 81+ef"

/-- The Unicode property `Cased`. -/
def isCased (c : Char) : Bool :=
  if c.toNat < 0x80 then c.isAlpha else wideCased.contains c

/-- The Unicode property `Case_Ignorable`. -/
def isCaseIgnorable (c : Char) : Bool :=
  if c.toNat < 0x80 then ['\x27', '.', ':', '^', '\x60'].contains c
  else wideCaseIgnorable.contains c

/-- Whether the first character that is not case-ignorable is cased. -/
def cased? (s : List Char) : Bool :=
  match s.dropWhile isCaseIgnorable with
  | [] => false
  | c :: _ => isCased c

/-- The lower-case form of a text that follows the reversed text `before`. -/
def lowerFrom (before : List Char) : List Char → List Char
  | [] => []
  | c :: s =>
    let here := if c = 'Σ' then (if cased? before && !cased? s then ['ς'] else ['σ'])
      else lowerChar c
    here ++ lowerFrom (c :: before) s

/-- The lower-case form of a text. -/
def lower (s : List Char) : List Char :=
  lowerFrom [] s


end SiteSearch.Text
