/-
  Classes of characters by their general category: the general categories of the Unicode character
  database (version 14), in the six classes that `Category` tells apart.
-/
import Weblog.Text.Runs

namespace Weblog.Text

/-- The classes of all code points from U+0000 on, as run lengths: `w` letters and numbers, `y`
punctuation and symbols, `m` marks, `s` spaces, `l` line and paragraph separators, `x` the rest. -/
def categoryRuns : Runs := Runs.ofText <| String.join [
  "20x1sfyaw7y1aw6y1aw4y21x1s9y1w2y1x4y2w1y1w3y2w1y3w1y17w1y1fw1y1caw4ycwey5w7y1w1y1w11y70m5w1y",
  "2w2x4w1y1w4x2y1w1y3w1x1w1x14w1x53w1y8bw1y7ma6w1x26w2x1w6y29w2y2x3y1x2dm1y1m1y2m1y2m1y1m8x1bw",
  "4x4w2y11xaybm1y1x3y2bw15maw4y2w1m63w1y1w7m1x1y6m2w2m1y4mfw2y1wey2x1w1m1ew1bm2x59wbm1wex2bw9m",
  "2w4y1w2x1m2y16w4m1w9m1w3m1w5m2xfy1x19w3m2x1y1xbw5x18w1y6w9x8m2aw18m1x21m36w3m1w12m1w7maw2m2y",
  "aw1y10w3m1x8w2x2w2x16w1x7w1x1w3x4w2x1m1w7m2x2m2x3m1w8x1m4x2w1x3w2m2xcw2y6w2y1w1y1m2x3m1x6w4x",
  "2w2x16w1x7w1x2w1x2w1x2w2x1m1x5m4x2m2x3m3x1m7x4w1x1w7xaw2m3w1m1yax3m1x9w1x3w1x16w1x7w1x2w1x5w",
  "2x1m1w8m1x3m1x3m2x1wfx2w2m2xaw2y7x1w6m1x3m1x8w2x2w2x16w1x7w1x2w1x5w2x1m1w7m2x2m2x3m7x3m4x2w1",
  "x3w2m2xaw1y7wax1m1w1x6w3x3w1x4w3x2w1x1w1x2w3x2w3x3w3xcw4x5m3x3m1x4m2x1w6x1mexdw8y5x5m8w1x3w1",
  "x17w1x10w2x1m1w7m1x3m1x4m7x2m1x3w2x1w2x2w2m2xaw7x1y7w1y1w3m1y8w1x3w1x17w1xaw1x5w2x1m1w7m1x3m",
  "1x4m7x2m6x2w1x2w2m2xaw1x2wdx4m9w1x3w1x29w2m1w7m1x3m1x4m1w1y4x3w1maw2m2x13w1y6w1x3m1x12w3x18w",
  "1x9w1x1w2x7w3x1m4x6m1x1m1x8m6xaw2x2m1ycx30w1m2w7m4x1y7w8m1yaw2y25x2w1x1w1x5w1x18w1x1w1xaw1m2",
  "w9m1w2x5w1x1w1x6m2xaw2x4w20x1w17y2m6y14w1y1m1y1m1y1m4y2m8w1x24w4x14m1y2m5wbm1x24m1x8y1m6y1xd",
  "y25x2bw14mbw6y6w4m4w3m1w3m2w7m3w4mdwcm1w1maw4m2y26w1x1w5x1w2x2bw1y14dw1x4w2x7w1x1w1x4w2x29w1",
  "x4w2x21w1x4w2x7w1x1w1x4w2xfw1x39w1x4w2x43w2x3m9y14w3x10way6x56w2x6w2x1y26cw2y11w1s1aw2y3x4bw",
  "3ybw7x12w4m9x13w3m2y9x12w2mcxdw1x3w1x2mcx34w20m3y1w4y1w1m2xaw6xaw6xby3m1x1maw6x59w7x5w2m22w1",
  "m1w5x46wax1fw1xcm4xcm4x1y3x2y28w2x5wbx2cw4x1aw6xbw3x22y17w5m2x2y35wam1x1dm2x1maw6xaw6x7y1w6y",
  "2x1fm31x5m2fw11m8w3xaw11y9mby1x3m1ewdm38wem8x4y24w14m3x5yaw3x31w2y9w7x2bw2x3w8y8x3m1y15m4w1m",
  "6w1m2w3m1w5xc0w40m116w2x6w2x26w2x6w2x8w1x1w1x1w1x1w1x1fw2x35w1x7w1y1w3y3w1x7w3y4w2x6w1x3ydw3",
  "y2x3w1x7w2y1xbs5x18y2l5x1s2fy1s10x2w2x6w5ybw5y1xdw3x21yfx21mfx2y1w4y1w2yaw1y1w3y5w6y1w1y1w1y",
  "1w1y4w1ybw2y4w5y5w4y1w1y3aw2y4x297y19xby15x3cw4ey16w276y1ew3e0y2x20y1x69ye5w6y4w3m2w5x4y1w2y",
  "26w1x1w5x1w2x38w7x1w1yex1m17w9x7w1x7w1x7w1x7w1x7w1x7w1x7w1x7w1x20m2fy1w2ey22x1ay1x59ycxd6y1a",
  "xcy4x1s4y3w19y9w6m1y5w2y5w3y1x56w2x2m2y3w1y5aw1y4w5x2bw1x5ew1x2y4way20w24ycx10w1fy1xaw1ey8w1",
  "yfw20yaw27yfw140y19c0w40y568dw3x37y9x2ew2y10dw3y1cw14x2fw4m1yam1y1fw2m50w2m6y8x17y9w2y67w2y4",
  "0w5x2w1x1w1x5w18x10w1m3w1m4w1m17w5m4y1m3x6w4y6x34w4y8x2m32w12m8x2yaw6x12m6w3y1w1y2w1m26w8m2y",
  "17wdmbx1y1dw3x4m2fwemdy1xbw4x2y5w1m19w1x29wem9x3w1m8w2m2xaw2x4y17w3y1w3m32w1m1w3m2w2m5w2m1w1",
  "m1w18x3w2ybw5m2y3w2max6w2x6w2x6w9x7w1x7w1x2bw1yew2y4x73w8m1y2m2xaw6x2ba4wcx17w4x31w2104x16ew",
  "2x6aw26x7wcx5w5x1w1maw1ydw1x5w1x1w1x2w1x2w1x6cw11y10x16bw12y40w2x36w7x1y20xcw4y10may6x10m23y",
  "1x13y1x4y4x5w1x87w4xfyaw7y1aw6y1awby59w3x6w2x6w2x6w2x3w3x7y1x7ydx2y2xcw1x1aw1x13w1x2w1xfw2xe",
  "w22x7bw5x3y4x2dw3x9y39w11y2w3y1xdy3x1y2fx2dy1m82x1dw3x31wfx1m1bw4x24w9x1ew5x26w5m5x1ew1x1y24",
  "w4x8w1y5w2ax9ew2xaw6x24w4x24w4x28w8x34wbx1ybw1xfw1x7w1x2w1xbw1xfw1x7w1x2w43x137w9x16wax8w18x",
  "6w1x2aw1x9w45x6w2x1w1x2cw1x2w3x1w2x17w1x1y1fw2y26w8x9w30x13w1x2w5x21w3x1y1aw5x1y40x38w4x14w2",
  "x2fw3m1x2m5x4m4w1x3w1x1dw2x3m4x1m9w7x9y7x1fw1y20w20x8w1y1cw2m4x5w7y9x36w3x7y16w2x1bw5x1aw7x4",
  "ycx7w50x49w37x33wdx33w7x2aw4m8xaw126x1fw1x2aw1x2m1y2x2w4ex28w8x16wbm4w5y16x12w4m4y26x1cw14x1",
  "7w9x3m35wfm7y4x1ew1m2w2m1w9x4m2dwbm2y1x4y1mdx19w7xaw6x3m24wem1xaw4y1w2m1w8x23w1m2y1w9x3m30we",
  "m4w4y4m1y2mbw1y1w3y1x14wbx12w1x19wcm6y1m41x7w1x1w1x4w1xfw1xaw1y6x2fwcm5xaw6x4m1x8w2x2w2x16w1",
  "x7w1x2w1x5w1x2m1w7m2x2m2x3m2x1w6x1m5x5w2m2x7m3x5m8bx35w12m4w5yaw2y1x1y1m3w1ex30w14m2w1y1w8xa",
  "wa6x2fw7m2x9m17y4w2m22x30w11m3y1wbxaw6xdy13x2bwdm1w1y6xaw36x1bw2xfm4xcw4y7wb9x2cwfm1y64x53wc",
  "x8w2x1w2x8w1x2w1x18w6m1x2m2x4m1w1m1w2m3y9xaw46x8w2x27w7m2x7m1w1y1w1m1bx1wam28w7m1w4m8y1m8x1w",
  "bm2ew10m3y1w5ydx49w107x9w1x25w8m1x8m1w5yax1dw3x2y1ew2x16m1xem49x7w1x2w1x26w6m3x1m1x2m1x7m1w1",
  "m8xaw6x6w1x2w1x20w5m1x2m1x5m1w7xaw136x13w4m2yb7x1wfx15w1dydx1y39aw66x6fw1x5ybxc4wa4cx61w2ydx",
  "42fwfd1x247w21b9x239w7x1fw1xaw4x2y4fw1xaw6x1ew2x5m1yax30w7m9y4w2yaxaw1x7w1x15w5x13w2b0x57w4y",
  "65x4bw4x1m1w37m7x4mdw40x2w1y1w1mbx2mex17f8w8x4d6w2ax9w22e7x4w1x7w1x2w1x123w2dx3w11x4w8x18cw9",
  "04x6bw5xdw3x9w7xaw2x1y2m1y1260x2em2x17m9x74y3cxf6yax27y2x3cy5m3y6m8x8m2y7m1ey4m3dy15x42y3m1y",
  "9ax14wcx57y9x19w87x55w1x47w1x2w2x1w2x2w2x4w1xcw1x1w1x7w1x41w1x4w2x8w1x7w1x1cw1x4w1x5w1x1w3x7",
  "w1x154w2x19w1y19w1y1fw1y19w1y1fw1y19w1y1fw1y19w1y1fw1y19w1y8w2x32w200y37m4y32m8y1mey1m7yfx5m",
  "1xfm450x1fwe1x7m1x11m2x7m1x2m1x5md5x2dw3x7m7w2xaw4x1w1y140x1ew1m11x2cw4maw5x1y4e0x7w1x4w1x2w",
  "1xfw1xc5w2x9w7m29x44w7m1w4xaw4x2y311x3bw1y3w1y4w4cx2dw1yfwc2x4w1x1bw1x2w1x1w2x1w1xaw1x4w1x1w",
  "1x1w6x1w4x1w1x1w1x1w1x3w1x2w1x1w2x1w1x1w1x1w1x1w1x1w1x2w1x1w2x4w1x7w1x4w1x4w1x1w1xaw1x11w5x3",
  "w1x5w1x11w34x2y10ex2cy4x64ycxfy2xfy1xfy1x25yaxdwa1y38x1dydx2cy4x9y7x2yex6y9ax3d8y5x10y3xdy3x",
  "74ycx59y7xcy4x1yfxcy4x38y8xay6x28y8x1ey2x2y4ex154ycxey2x5y3x5y3x7y9x1dy3xby5x6yaxay6x8y8x7y9",
  "x93y1x37y25xaw406xa6e0w20x1039w7xdew2x1682wex1d31wc1fx21ew5e2x134bwaedb5xf0m2fe10x"]

/-- What kind of thing a character is, as far as the rules of this library tell kinds apart. -/
inductive Category
  | letterOrNumber
  | punctuationOrSymbol
  | mark
  | space
  | lineSeparator
  /-- Controls, format characters, private use and code points without a character. -/
  | other
deriving DecidableEq, Repr

def Category.ofLabel : Option Char → Category
  | some 'w' => .letterOrNumber
  | some 'y' => .punctuationOrSymbol
  | some 'm' => .mark
  | some 's' => .space
  | some 'l' => .lineSeparator
  | _ => .other

def category (c : Char) : Category := .ofLabel (categoryRuns.label? c.toNat)

/-- Whether a character stands for itself in quoted text: the plain space, and every letter,
mark, number, punctuation character and symbol. -/
def isPrintable (c : Char) : Bool :=
  if c.toNat < 0x80 then 0x20 ≤ c.toNat && c.toNat < 0x7F
  else match category c with
    | .letterOrNumber | .punctuationOrSymbol | .mark => true
    | _ => false

end Weblog.Text
