/-
  The writing direction of characters: the bidirectional classes of the Unicode character database
  (version 14), in the classes that `Direction` tells apart.
-/
import Weblog.Text.Runs

namespace Weblog.Text

/-- The classes of all code points from U+0000 on, as run lengths: `l` left to right, `r` right to
left, `m` Arabic letters, `n` Arabic numbers, `p` European numbers, `q` separators, terminators,
neutrals and ignorables, `s` nonspacing marks, `o` other classes, `u` no class. -/
def directionRuns : Runs := Runs.ofText <| String.join [
  "9q5oeq5ofqap7q1al6q1alaq1o24q1l7q2p1q1l3q1p1l5q17l1q1fl1q1c1l2q7leq2leq5l9q1l11q70s4l2q2l2u4",
  "l1q1l4u2q1l1q3l1u1l1u14l1u53l1q8cl7sa6l1u26l2u31l1q2u3q1u2ds1r1s1r2s1r2s1r1s8u1br4u6rbu6n2q1",
  "m2q1m1q1m2qbs30m15san1q2n3m1s65m7s1n1q6s2m2s1q4s2map14m1u2m1s1em1bs2u59mbs1meu2br9s2r4q1r2u1",
  "s18r4s1r9s1r3s1r5s2ufr1u19r3s2u1r1ubm5u1fm1u2n6u8s2am18s1n20s37l1s1l1s4l8s4l1s3l7sal2s1dl1s2",
  "l1u8l2u2l2u16l1u7l1u1l3u4l2u1s4l4s2u2l2u2l1s1l8u1l4u2l1u3l2s2ucl2q7l1q2l1s2u2s1l1u6l4u2l2u16",
  "l1u7l1u2l1u2l1u2l2u1s1u3l2s4u2s2u3s3u1s7u4l1u1l7ual2s3l1s1lau2s1l1u9l1u3l1u16l1u7l1u2l1u5l2u",
  "1s4l5s1u2s1l1u2l1s2u1lfu2l2s2ubl1q7u1l6s1u1s2l1u8l2u2l2u16l1u7l1u2l1u5l2u1s2l1s1l4s2u2l2u2l1",
  "s7u2s1l4u2l1u3l2s2u12lau1s1l1u6l3u3l1u4l3u2l1u1l1u2l3u2l3u3l3ucl4u2l1s2l3u3l1u3l1s2u1l6u1leu",
  "dl8q5u1s3l1s8l1u3l1u17l1u10l2u1s1l3s4l1u3s1u4s7u2s1u3l2u1l2u2l2s2ual7u1l7q2l1sbl1u3l1u17l1ua",
  "l1u5l2u1s8l1u3l1u2l2s7u2l6u2l1u2l2s2ual1u2ldu2sbl1u3l1u29l2s4l4s1u3l1u3l1s2l4uel2s2u1al1u1s2",
  "l1u12l3u18l1u9l1u1l2u7l3u1s4u3l3s1u1s1u8l6ual2u3lcu30l1s2l7s4u1q7l8sdl25u2l1u1l1u5l1u18l1u1l",
  "1ual1s2l9s1l2u5l1u1l1u6s2ual2u4l20u18l2s1bl1s1l1s1l1s4qal1u24l4ues1l5s1l2s5lbs1u24s1u8l1s6l1",
  "udl25u2dl4s1l6s1l2s2l2s19l2s4l3s10l4sdl1s2l2s6l1sfl1s28l1u1l5u1l2u179l1u4l2u7l1u1l1u4l2u29l1",
  "u4l2u21l1u4l2u7l1u1l1u4l2ufl1u39l1u4l2u43l2u3s1dl3u10laq6u56l2u6l2u1q27fl1o1al2q3u59l7u12l3s",
  "1l9u13l2s3l9u12l2scudl1u3l1u2scu34l2s1l7s8l1s2lbs7l1q1l1s2ual6uaq6ubq3s1q1sal6u59l7u5l2s22l1",
  "s1l5u46lau1fl1u3s4l2s3l4u2l1s6l3s4u1q3u2q28l2u5lbu2cl4u1al6ubl3u22q17l2s2l1s2u38l1s1l7s1u1s1",
  "l1s2l8s6las2u1sal6ual6uel2u1fs31u4s30l1s1l5s1l1s5l1sal3u1bl9sbl1u2s20l4s2l2s1l3s38l1s1l2s3l1",
  "s1l3s2l8u30l8s2l2s3ufl3u3cl7u2bl2ubl8u3s1lds1l7s4l1s6l1s3l2s1l5uc0l40s116l2u6l2u26l2u6l2u8l1",
  "u1l1u1l1u1l1u1fl2u35l1u7l1q1l3q3l1u7l3q4l2u6l1u3qdl3q2u3l1u7l2q1ubo3q1l1r18q7o30q1o5q1u4o6q1",
  "p1l2u6p5q1lap5q1udl3u21qfu21sfu2q1l4q1l2qal1q1l3q5l6q1l1q1l1q1l1q4l1qbl2q4l5q5l4q2l10q29l3q4",
  "u1a6q45l1aq1l91q19ubq15u28q14p4el1c2q1l153q100l274q2u20q1u69qe5l6q4l3s2l5u7q26l1u1l5u1l2u38l",
  "7u2leu1s17l9u7l1u7l1u7l1u7l1u7l1u7l1u7l1u7l1u20s5eq22u1aq1u59qcud6q1aucq4u1o4q3l19q9l4s2l1q5",
  "l2q5l3q1u56l2u2s2q3l1q5al1q4l5u2bl1u5el1u30l24qcu2dl2q1u30l10q1cl3q32lfqcl4qa7l4q63l2q1fl1q1",
  "9c0l40q568dl3u37q9u13dl3q1cl14u2fl4s1qas2q1el2s50l2s6l8u22q66l1q42l5u2l1u1l1u5l18u10l1s3l1s4",
  "l1s19l2s1l4q1s3u8l2q6u34l4q8u44l2s8ucl6u12sdl1s26l8s19lbs2lbu1el3u3s30l1s2l4s2l2s10l1ubl4u7l",
  "1s19l1u29l6s2l2s2l2s9u3l1s8l1s1l2ual2u20l1s33l1s1l3s2l2s5l2s1l1s1l18u11l2s8l1sau6l2u6l2u6l9u",
  "7l1u7l1u3al2q4u75l1s2l1s4l1s2ual6u2ba4lcu17l4u31l4u226el2u6al26u7lcu5l5u1r1sar1qdr1u5r1u1r1u",
  "2r1u2r1uar73m10u16bm12q40m2u36m7u1q20udm3q10saq6u10s23q1u13q1u4q4u5m1u87m2u1q1ufqap7q1al6q1a",
  "lbq59l3u6l2u6l2u6l2u3l3u7q1u7qau5q2ucl1u1al1u13l1u2l1ufl2uel22u7bl5u1l1q1l4u2dl3u9l4dq2l1udq",
  "3u1q2fu2dl1s82u1dl3u31lfu1s1bp4u24l9u1el5u26l5s5u1el1u25l4uel2au9el2ual6u24l4u24l4u28l8u34lb",
  "ucl1ufl1u7l1u2l1ubl1ufl1u7l1u2l43u137l9u16lau8l18u6l1u2al1u9l45u6r2u1r1u2cr1u2r3u1r2u17r1u48",
  "r8u9r30u13r1u2r5u21r3u1q1ar5u1r40u38r4u14r2u2fr3s1u2s5u4s4r1u3r1u1dr2u3s4u1s9r7u9r7u40r20u25",
  "r2s4ucr9u36r3u7q16r2u1br5u1ar7u4rcu7r50u49r37u33rdu33r7u6r24m4s8uan126u1fn1u2ar1u2s1r2u2r4eu",
  "28r8u16mbs9m16u12r4s4r26u1cr14u17r9u1l1s36lfs7l4u14qal1s2l2s1l9u3s31l4s2l2s7l1sau1l2u19l7ual",
  "6u3s24l5s1l8s1u12l8u23l1s3l9u2s34l9sal4s2l1s10l1u14lbu12l1u1cl3s2l1s1l2s6l1s41u7l1u1l1u4l1uf",
  "l1ubl6u2fl1s3l8s5ual6u2s2l1u8l2u2l2u16l1u7l1u2l1u5l1u2s3l1s4l2u2l2u3l2u1l6u1l5u7l2u7s3u5s8bu",
  "38l8s2l3s1l1s15l1u1l1s3l1eu33l6s1l1s4l2s1l2s4l8uala6u32l4s2u4l2s1l2s1bl2s22u33l8s2l1s1l2s4lb",
  "ual6udq13u2bl1s1l1s2l6s1l1s2l6ual36u1bl2u3s2l4s1l5s4u17lb9u2fl9s1l2s1l64u53lcu8l2u1l2u8l1u2l",
  "1u1el1u2l2u2s1l1s4l1s3l9ual46u8l2u2al4s2u2s4l1s4l1bu1l6s2l2s28l6s2l4s8l1s8u1l6s2l3s2elds1l2s",
  "9ldu49l107u9l1u26l7s1u6s8lau1dl3u20l2u16s1u1l7s1l2s1l2s49u7l1u2l1u26l6s3u1s1u2s1u7s1l1s8ual6",
  "u6l1u2l1u25l1u2s1u2l1s1l1s1l7ual136u13l2s4lb7u1lfu15l1dqdu39bl66u6fl1u5lbuc4la4cu63ldu42fl1u",
  "9lfc7u247l21b9u239l7u1fl1ual4u51l1ual6u1el2u5s1lau30l7sflaual1u7l1u15l5u13l2b0u5bl65u4bl4u1s",
  "38l7u4sdl40u2l1q1l1sbu2leu17f8l8u4d6l2au9l22e7u4l1u7l1u2l1u123l2du3l11u4l8u18cl904u6bl5udl3u",
  "9l7ual2u1l2s1l4q125cu2es2u17s9u74l3cuf6lau27l2u3el3s9l8q8s2l7s1el4s3bl2q15u42q3s1q9au14lcu57",
  "q9u19l87u55l1u47l1u2l2u1l2u2l2u4l1ucl1u1l1u7l1u41l1u4l2u8l1u7l1u1cl1u4l1u5l1u1l3u7l1u154l2u3",
  "3l1q39l1q39l1q39l1q39l1q8l2u32p200l37s4l32s8l1sel1s7lfu5s1ufs450u1fle1u7s1u11s2u7s1u2s1u5sd5",
  "u2dl3u7s7l2ual4u2l140u1el1s11u2cl4sal5u1q4e0u7l1u4l1u2l1ufl1uc5r2u9r7s29u44r7s1r4uar4u2r311u",
  "44m4cu3dmc2u4m1u1bm1u2m1u1m2u1m1uam1u4m1u1m1u1m6u1m4u1m1u1m1u1m1u3m1u2m1u1m2u1m1u1m1u1m1u1m1",
  "u1m1u2m1u1m2u4m1u7m1u4m1u4m1u1m1uam1u11m5u3m1u5m1u11m34u2q10eu2cq4u64qcufq2ufq1ufq1u25qaubp5",
  "q1fl1q3al6q3dl1q38u1dldu2cl4u9l7u2leu6q9au3d8q5u10q3udq3u74qcu59q7ucq4u1qfucq4u38q8uaq6u28q8",
  "u1eq2u2q4eu154qcueq2u5q3u5q3u7q9u1dq3ubq5u6qauaq6u8q8u7q9u93q1u37q25uap406ua6e0l20u1039l7ude",
  "l2u1682leu1d31lc1fu21el5e2u134blaecb6u1q1eu60q80uf0sfe10ufffel2ufffel2u"]

/-- The direction of a character, as far as the rules for labels tell directions apart. -/
inductive Direction
  | left
  | right
  | arabicLetter
  | arabicNumber
  | europeanNumber
  /-- Separators, terminators, neutrals and ignorables. -/
  | neutral
  | mark
  | other
  /-- No direction is known. -/
  | unknown
deriving DecidableEq, Repr

def Direction.ofLabel : Option Char → Direction
  | some 'l' => .left
  | some 'r' => .right
  | some 'm' => .arabicLetter
  | some 'n' => .arabicNumber
  | some 'p' => .europeanNumber
  | some 'q' => .neutral
  | some 's' => .mark
  | some 'o' => .other
  | _ => .unknown

def direction (c : Char) : Direction := .ofLabel (directionRuns.label? c.toNat)

end Weblog.Text
