import SiteSearch.Text.CodePoints

/-!
# Punctuation

The characters that count as punctuation beside an emphasis mark: the general categories P and S.
-/

set_option autoImplicit false
set_option relaxedAutoImplicit false

namespace SiteSearch.Text

/-- The ASCII punctuation characters. -/
def isAsciiPunctuation (c : Char) : Bool :=
  let n := c.toNat
  (0x21 ≤ n && n ≤ 0x2F) || (0x3A ≤ n && n ≤ 0x40) || (0x5B ≤ n && n ≤ 0x60)
    || (0x7B ≤ n && n ≤ 0x7E)

/-- The characters of the general categories P and S beyond ASCII. -/
def widePunctuation : CodePoints := .ofGaps
  "a1+8 2+1 2+3 3 2+2 3 4 18 20 1cb+3 d+d 6+6 2 2+10 76 9 6+1 2 6f 8c d8+5 2a+1 3+2 2f 2 3 3
    2d+1 12+9 c 2+2 4b+3 67 a b 14+1 2+d e9+3 5+1 31+e 20 2a dc+1 b 82+1 7+1 2 79 7a+1 7f 83+7
    7d 8 5 cb 2a 7b 4b 10 b+1 a6+16 3+5 15 2 2 2+3 48 39+7 2+5 2+c 70+5 4f+1 5c 265+8 28+9 67
    26d+1 2d+1 4f+2 48+1 9e+2 2+3 25+a 136 4+1 99+21 1f+1 81+6 2+5 a1+1 b+10 a+b 7d+3 3c+4 3f+1
    41+7 c 2ea 2+2 c+2 e+2 e+2 e+1 12+17 9+2e 1c+4 c+4 12+21 3f+1 2+3 2+1 b 2+2 6+5 2 2 2 5 c+1
    5+4 6+3 2 3b+1 5+299 17+a 52+4d 17+275 1f+3df 3+89 e6+5 f+3 2+1 71 90+2e 2+2d 23+19 2+58
    d+d5 1b+f 2+3 4+18 10 6+1 6+2 5c+1 4 5b 95+1 5+9 21+25 a 11+1e c+1d 9 10+1f b+26 10+13f
    19c1+3f 5691+36 38+1 10e+2 64 b 74+5 9+16 a+1 68+1 9e+3 b+3 3b+3 57+1 29+2 2 32+1 30 62+c
    11+1 7d+3 18+2 65+1 11+1 6a f+1 80 4f3e 89+20 16c+11 41+1 37+7 2d+3 11+9 17+22 2+12 2+3 96+e
    b+6 1b+5 1b+a 7b+6 2+6 e+1 103+2 35+8 3a+10 3+2 2+c 4 30+2c 1a3 31 19f 2e8 20+1 a7 20 111+8
    27 49 28+6 43+6 5a+3 1d2 20+1 11e 23+8 7d+4 2d+3 be+6 6e+1 2+3 7f+3 31+1 50+3 5 e 2+2 59+5
    6c 12b+1 2+1 73+4 b+1 2 69 fb+16 6a+2 1d+c 4d 83+3 fc 109+2 9c 5d+7 54+2 2+4 5e+9 d8 60+4
    2b+1 286+1 4b+c 86+1c e 471+4 b7d+1 3a7c+1 86 42+8 5+1 228+2 128+3 148 4cba 3 f61+ef b+2
    4+1b3 7+16 10+10 60+73 3d+f5 b+26 3+3b 6+2 17+1 8+1d 5+3c 16+41 4 bb+56 36b 1a 20 1a 20 1a
    20 1a 20 1a 3d+1ff 38+3 33+7 2+d 2+6 6c4 1b0 300 35f+1 34d 4 7e 1c2+1 10f+2b 5+63 d+e 3+e
    2+e 2+24 18+a0 39+1c e+2b 5+8 8+1 f+5 9b+3d8 4+10 4+c 4+d9 7+b 5 10+b 5+37 9+9 7+27 9+1d 3+b
    5+1 f+8 28+157 9+d 3+c 4+a 4+38 2 5+f 3+b 5+9 8+92 2+5b b"

/-- The general categories P and S. -/
def isPunctuation (c : Char) : Bool :=
  if c.toNat < 0x80 then isAsciiPunctuation c else widePunctuation.contains c


end SiteSearch.Text
