/-
  Which characters labels of domain names may hold (version 17 of the database), and the
  properties that their context rules ask for.
-/
import Weblog.Text.Runs

namespace Weblog.Domain

/-- The classes of all code points from U+0000 on, as run lengths: `p` valid, `j` joiners, `o`
valid in a context, `x` not allowed. -/
def labelRuns : Text.Runs := Text.Runs.ofText <| String.join [
  "2dx1p2xap27x1ap3cx1o27x18p1x8p1x1p1x1p1x1p1x1p1x1p1x1p1x1p1x1p1x1p1x1p1x1p1x1p1x1p1x1p1x1p1x",
  "1p1x1p1x1p1x1p1x1p1x1p1x1p1x1p1x1p1x1p3x1p1x2p1x1p1x1p1x1p3x1p1x1p1x1p1x1p2x1p1x1p1x1p1x1p1x",
  "1p1x1p1x1p1x1p1x1p1x1p1x1p1x1p1x1p1x1p1x1p1x1p1x1p1x1p1x1p1x1p1x1p1x1p1x1p2x1p1x1p1x1p1x1p2x",
  "1p1x1p2x1p3x2p4x1p2x1p3x3p2x1p2x1p1x1p1x1p2x1p1x2p1x1p2x1p3x1p1x1p2x3p1x7pax1p1x1p1x1p1x1p1x",
  "1p1x1p1x1p1x2p1x1p1x1p1x1p1x1p1x1p1x1p1x1p1x1p1x2p4x1p3x1p1x1p1x1p1x1p1x1p1x1p1x1p1x1p1x1p1x",
  "1p1x1p1x1p1x1p1x1p1x1p1x1p1x1p1x1p1x1p1x1p1x1p1x1p1x1p1x1p1x1p1x1p1x1p1x1p1x1p1x7p2x1p2x2p1x",
  "1p4x1p1x1p1x1p1x1p1x61p9x9p4xcp1ax1p1x1p11x40p2x1p3x9p1x20p1x1p1x1p1x1o1x1p3x3p12x1p1bx23p8x",
  "1p1x1p1x1p1x1p1x1p1x1p1x1p1x1p1x1p1x1p1x1p1x1p1x1p3x1p4x1p2x2p33x30p1x1p1x1p1x1p1x1p1x1p1x1p",
  "1x1p1x1p1x1p1x1p1x1p1x1p1x1p1x1p1x1p1x1p1x1p1x5p3x1p1x1p1x1p1x1p1x1p1x1p1x1p1x1p1x1p1x1p1x1p",
  "1x1p1x1p1x1p1x1p1x1p1x1p1x1p1x1p1x1p1x1p1x1p1x1p1x1p1x1p1x1p1x1p2x1p1x1p1x1p1x1p1x1p1x1p1x2p",
  "1x1p1x1p1x1p1x1p1x1p1x1p1x1p1x1p1x1p1x1p1x1p1x1p1x1p1x1p1x1p1x1p1x1p1x1p1x1p1x1p1x1p1x1p1x1p",
  "1x1p1x1p1x1p1x1p1x1p1x1p1x1p1x1p1x1p1x1p1x1p1x1p1x1p1x1p1x1p1x1p1x1p1x1p1x1p1x1p1x1p1x1p1x1p",
  "1x1p1x1p29x1p6x27p1x1p8x2dp1x1p1x2p1x2p1x1p8x1bp4x4p2o1bxbp5x20p1x1fpao4x7p4x5bp1x8p2xap1x6p",
  "ao6p10x3bp2x65pex36p7x1p2x2ep12x1cp4xbp5x18p1x7p7x4bp1x75p8x4p2xap1x13p1x8p2x2p2x16p1x7p1x1p",
  "3x4p2x9p2x2p2x4p8x1p8x4p2xcpax1p1x1p2x3p1x6p4x2p2x16p1x7p1x1p2x1p2x2p2x1p1x5p4x2p2x3p3x1pax1",
  "p9x10pbx3p1x9p1x3p1x16p1x7p1x2p1x5p2xap1x3p1x3p2x1pfx4p2xap9x7p1x3p1x8p2x2p2x16p1x7p1x2p1x5p",
  "2x9p2x2p2x3p7x3p7x5p2xap1x1p10x2p1x6p3x3p1x4p3x2p1x1p1x2p3x2p3x3p3xcp4x5p3x3p1x4p2x1p6x1pexa",
  "p10xdp1x3p1x17p1x10p2x9p1x3p1x4p7x2p1x3p1x2p2x4p2xap10x4p1x8p1x3p1x17p1xap1x5p2x9p1x3p1x4p7x",
  "2p5x3p1x4p2xap1x3pcxdp1x3p1x33p1x3p1x5p5x4p7x5p2xapax6p1x3p1x12p3x18p1x9p1x1p2x7p3x1p4x6p1x1",
  "p1x8p6xap2x2pdx32p1x7p5xfp1xap27x2p1x1p1x5p1x18p1x1p1xcp1xap2x5p1x1p1x7p1xap4x2p20x1pax1pcx2",
  "p6xapbx1p1x1p1x1p4x5p1x4p1x4p1x4p1x4p1x4p1xcp1x3p4x2p1x1p5x7p1x3p1xdp1x4p1x4p1x4p1x4p1x4p1xc",
  "p1x3p9x1p39x4ap6x4ep32x2bp2x3p100x49p1x4p2x7p1x1p1x4p2x29p1x4p2x21p1x4p2x7p1x1p1x4p2xfp1x39p",
  "1x4p2x43p2x3p20x10p10x56pbx26cp2x11p1x1ap5x4bp6x8p7x16p9x16pbx14pcxdp1x3p1x2pcx34p2x1ep3x1p4",
  "x2p2xap26xap6x59p7x2bp5x46pax1fp1xcp4xcpax28p2x5pbx2cp4x1ap6xap26x1cp4x3fp1x1dp2xbp6xapdx1p8",
  "xep1x1fp2xcp14x4dp3xap11x9pcx74pcx38p8xap3x31pcx1p45x3p1x27p5x2cp3x1pbx1p12x1p1cxdp1x22p25x4",
  "0p1x1p1x1p1x1p1x1p1x1p1x1p1x1p1x1p1x1p1x1p1x1p1x1p1x1p1x1p1x1p1x1p1x1p1x1p1x1p1x1p1x1p1x1p1x",
  "1p1x1p1x1p1x1p1x1p1x1p1x1p1x1p1x1p1x1p1x1p1x1p1x1p1x1p1x1p1x1p1x1p1x1p1x1p1x1p1x1p1x1p1x1p1x",
  "1p1x1p1x1p1x1p1x1p1x1p1x1p1x1p1x1p1x1p1x1p1x1p1x1p1x1p1x1p1x1p1x1p1x1p1x1p1x1p1x1p1x1p1x1p1x",
  "1p1x1p1x1p1x1p1x1p1x1p1x5p2x2p1x1p1x1p1x1p1x1p1x1p1x1p1x1p1x1p1x1p1x1p1x1p1x1p1x1p1x1p1x1p1x",
  "1p1x1p1x1p1x1p1x1p1x1p1x1p1x1p1x1p1x1p1x1p1x1p1x1p1x1p1x1p1x1p1x1p1x1p1x1p1x1p1x1p1x1p1x1p1x",
  "1p1x1p1x1p1x1p1x1p1x1p1x1p1x1p1x1p1x1p1x9p8x6pax8p8x8p8x6pax8p8x8p8x1p1x1p1x1p1x1p1x1p1x1p1x",
  "1p33x2p4x1pfx1p9x3p3x2p8x3p1x4pex1p15x2j140x1p35x1paabx30p1x1p3x2p1x1p1x1p1x1p4x1p1x2p1x6p5x",
  "1p1x1p1x1p1x1p1x1p1x1p1x1p1x1p1x1p1x1p1x1p1x1p1x1p1x1p1x1p1x1p1x1p1x1p1x1p1x1p1x1p1x1p1x1p1x",
  "1p1x1p1x1p1x1p1x1p1x1p1x1p1x1p1x1p1x1p1x1p1x1p1x1p1x1p1x1p1x1p1x1p1x1p1x1p1x1p1x1p1x1p1x1p1x",
  "1p1x1p1x1p1x2p7x1p1x4p1x1pcx26p1x1p5x1p2x38p17x18p9x7p1x7p1x7p1x7p1x7p1x7p1x7p1x7p1x20p2fx1p",
  "1d5x3p22x4pex1p4x56p2x2p2x2p2x5ap1o3p6x2bp70x20p30x10p200x19c0p40x568dp43x2ep2x10dp3x1cp15x1",
  "p1x1p1x1p1x1p1x1p1x1p1x1p1x1p1x1p1x1p1x1p1x1p1x1p1x1p1x1p1x1p1x1p1x1p1x1p1x1p1x1p1x1p1x3p4xa",
  "p1x1p1x1p1x1p1x1p1x1p1x1p1x1p1x1p1x1p1x1p1x1p1x1p1x1p1x1p1x1p2x48pax2p25x9p3x1p1x1p1x1p1x1p1",
  "x1p1x1p1x3p1x1p1x1p1x1p1x1p1x1p1x1p1x1p1x1p1x1p1x1p1x1p1x1p1x1p1x1p1x1p1x1p1x1p1x1p1x1p1x1p1",
  "x1p1x1p1x1p1x1p1x1p1x1p1x1p1x1p1x1p1x1p1x1p1x8p1x1p1x1p2x1p1x1p1x1p1x1p1x2p3x1p1x2p1x1p1x3p1",
  "x1p1x1p1x1p1x1p1x1p1x1p1x1p1x1p1x1p1x1p5x1p5x1p1x1p1x1p1x1p1x1p1x1p1x1p1x1p4x1p1x1p2x1p1x1p1",
  "x1p1x1p1x1p1x1p1x1p1x1p1ax2p2x2ep4x1p13x34pcx46paxap6x18p3x1p1x31p2x24p2cx41pexbp6x1fp1x37p9",
  "xep2xap6x17p3x49p18x3p2x10p2x5pax6p2x6p2x6p9x7p1x7p1x2bp5x9p57x2bp1x2p2xap6x2ba4p226ax2p1x1p",
  "1x2pax1p1x1p1x2p2x3pf4x1p301x10p43x1p18cxcp1x1ap1x13p1x2p1xfp2xep22x7bp102x1p82x1dp3x31pfx1p",
  "1fx20pdx14p1x8p6x2bp5x1ep2x24p4x8p58x76p2xap2ex24p4x28p8x34p33xbp1xfp1x7p1x2p3x34pcx137p9x16",
  "pax8p18x1p7fx6p2x1p1x2cp1x2p3x1p2x17pax17p9x1fp41x13p1x2pax16pax1ap6x1ap26x38p6x2p40x4p1x2p5",
  "x8p1x3p1x1dp2x3p4x1p20x1dp3x1dp23x8p1x1ep19x36pax16pax13pdx12p6ex49p77x33pdx28p8xap6x10p19x5",
  "p1x17pfax2ap1x2p3x2p10x6p32x23pax1p8x21p1fx16p2ax15p1bx17p9x47p1fx10p9x3cp7x1pdx19p7xap6x35p",
  "1xap4x4p8x24p2x1p9x45p4x4p1xdp1x1p23x12p1x25p6x4p3ex7p1x1p1x4p1xfp1xap7x3bp5xap6x4p1x8p2x2p2",
  "x16p1x7p1x2p1x5p1xap2x2p2x3p2x1p6x1p5x7p2x7p3x5pbxap1x1p2x1p1x26p1xap1x1p2x1p1x4p1x8pdx2p1dx",
  "4bp5xap4x4p1ex46p1x1p8xapa6x36p2x9p17x6p22x41p3x1pbxap26x39p7xap6x14p1cx1bp2xfp4xap6x7pb9x3b",
  "p85x2ap15x8p2x1p2x8p1x2p1x1ep1x2p2x9pcxap46x8p2x2ep2x8p1x2p1bx3fp8x1p8x4ap3x1p12x49p67x8p58x",
  "21pfxap6x9p1x2dp1x9pfxap18x1ep2x16p1xep49x7p1x2p1x2cp3x1p1x2p1x9p8xap6x6p1x2p1x25p1x2p1x6p7x",
  "ap6x2cp4xapf6x17p9x11p1x29p3x5pdxbp55x1p4fx39ape6xc4pa4cx61pfx430p10x16paxf9bp5x247p1ab9x3ap",
  "6c6x239p7x1fp1xap6x4fp1xap6x1ep2x5pbx37p9x4pcxap9x15p5x13p1b0x2dp3xape6x20p3bx19p2cx4bp4x39p",
  "7x11p40x2p1x2pbx4pcx1cd6p29x20p61x73p21fdx4p1x7p1x2p1x123pfx1p1dx3p2x1pex4p8x18cp904x6bp5xdp",
  "3x9p7xap3x2p1261x2ep2x17pab9x37p4x32p8x1pex1p16x5p1xfp450x1fp6x6pd5x7p1x11p2x7p1x2p1x5p64x1p",
  "70x2dp3xep2xap4x1p141x1fp11x3ap1d6x2apd6x2bpc5x1fp1x16p8x2pe0x7p1x4p1x2p1xfp1xc5pbx7p4bx2ap4",
  "xap16a6xa6e0p20x111ep2x168ep2x1d31pfx26ep11a2x134bp5x212apdcb86x"]

/-- The joining types of all code points from U+0000 on, as run lengths: `l` left, `r` right, `h`
on both sides, `t` transparent, `k` causing, `u` none. -/
def joiningRuns : Text.Runs := Text.Runs.ofText <| String.join [
  "adu1t252u70t113u7t107u2dt1u1t1u2t1u2t1u1t48ubt1u1t3u1h1u4r1h1r1h1r5h4rdh1k7h1r2h15teu2h1t3r1",
  "u3r10h12r26h1r2h9r1h1r1h1r2h2r1u1r7t2u6t2u2t1u4t2rau3h2u1hfu1t1r1t3h5r4h1r9h1r1h1r1h1r2h1r1b",
  "t2u1rbh3rfh2r4h1r1h2r3h2r6h26ubt19u21h9t6u1k2u1t18u4t1u9t1u3t1u5t12u1r5h2r1h1rah1r1h3r3t4u1h",
  "1u4h1u1r1h2r5u13r3k1h2u5h1r1h7u9tah3r1u1r2h2r6h1rfh1u18t1u20t37u1t1u1t4u8t4u1t3u7tau2t1du1t3",
  "au1t4u4t8u1t14u2t1au1t2u2t39u1t4u2t4u2t2u3t3u1t1eu2t3u1tbu2t39u1t4u5t1u2t4u1t14u2t16u6t1u1t3",
  "au1t2u1t1u4t8u1t7u2tbu2t1eu1t3du1tcu1t32u1t3u1t37u1t1u3t5u3t1u4t7u2tbu2t1du1t3au1t2u1t6u1t5u",
  "2t14u2t1cu2t39u2t4u4t8u1t14u2t1du1t48u1t7u3t1u1t5au1t2u7tcu8t62u1t2u9tbu7t49u2t1bu1t1u1t1u1t",
  "37uet1u5t1u2t5ubt1u24t9u1t66u4t1u6t1u2t2u2t19u2t4u3t10u4tdu1t2u2t6u1tfu1t2bfu3t3b2u3t1du2t1e",
  "u2t1eu2t40u2t1u7t8u1t2ubt9u1t29u1h2u1k3t1u1t10u59hcu2t22h1t1h75u3t4u2t9u1t6u3tdbu2t2u1t3au1t",
  "1u7t1u1t1u1t2u8t6uat2u1t30u2et2uct14u4t30u1t1u5t1u1t5u1t28u9tcu2t20u4t2u2t1u3t38u1t1u2t3u1t1",
  "u3t3au8t2u2t98u3t1udt1u7t4u1t6u1t3u2tc6u40t20bu1t1u1k2t1au5t31u5t5u6t60u21tbfeu3t8du1t60u20t",
  "22au4t6bu2t75d4u4t1uat20u2t50u2t110u1t3u1t4u1t19u2t5u1t13u32h1l51u2t1au12tdu1t26u8t19ubt2eu3",
  "t30u1t2u4t2u2t27u1t43u6t2u2t2u2tcu1t8u1t2fu1t33u1t1u3t2u2t5u2t1u1t2au2t8u1teeu1t2u1t4u1t4f30",
  "u1t2e1u10t10u10tcfu1tf9u3t201u1te2u1t95u5t686u3t1u2t5u4t28u3t4u1t80u5h1r1u1r1u2r2u1l5r4h1l5h",
  "1r3h1r2u1r2t4u4h1r90u1h1r1h3r3h1r2h1r1h2r1h1r17u4r2h151u1l21h1r1h4t41u5t13du2t15u1r2h1u2h32u",
  "6t30u3h1r11h1ubt3h1r1bu4h2rch4t2au1h1u2h3r1u1h2r2h1r2h1u1h2r1h4u1r1h1l35u1t36uft29u1t2u2tau3",
  "t31u4t2u2t7u1t3du3t24u5t1u8t3eu1tcu2t34u9tau4t2u1t5fu3t2u1t1u2t6u1t2u1t9du1t3u8t15u2t39u2t3u",
  "1t25u7t3u5t46u6tdu1t1u1t1u1teu2t55u8t2u3t1u1t17u1t54u6t1u1t4u2t1u2teeu4t6u2t1u2t1bu2t55u8t2u",
  "1t1u2t6au1t1u1t2u6t1u1t65u1t1u1t2u4t1u5t103u9t1u2t100u2t1u1t4u1t90u4t2u2t4u1t20uat28u6t2u4t8",
  "u1t9u6t2u3t2eudt1u2tc6u1t1u3t1u1tc9u7t1u6t1u1t52u16t2u7t1u2t1u2t7au6t3u1t1u2t1u7t1u1t48u2t3u",
  "1t1u1t15bu2tbu2t34u5t5u1t1u1t17u1t14d5u11t6uft2cc8uct3u3t9c0u5t3bu7t418u1t3fu4t51u1t4cb8u2t1",
  "u4t125cu2et2u17t220u3t9u10t2u7t1eu4t94u3t7bbu37t4u32t8u1teu1t16u5t1uft550u7t1u11t2u7t1u2t1u5",
  "t64u1ta0u7t177u1t3du4t1fcu4tfeu2tf3u1t2u1t7u2t5u1t1dau7t29u44h8tc16b5u1t1eu60t80uf0t2fe10u"]

/-- The script Greek. -/
def greekRanges : Text.Ranges := [
    (0x370, 0x373), (0x375, 0x377), (0x37A, 0x37D), (0x37F, 0x37F), (0x384, 0x384),
    (0x386, 0x386), (0x388, 0x38A), (0x38C, 0x38C), (0x38E, 0x3A1), (0x3A3, 0x3E1),
    (0x3F0, 0x3FF), (0x1D26, 0x1D2A), (0x1D5D, 0x1D61), (0x1D66, 0x1D6A), (0x1DBF, 0x1DBF),
    (0x1F00, 0x1F15), (0x1F18, 0x1F1D), (0x1F20, 0x1F45), (0x1F48, 0x1F4D), (0x1F50, 0x1F57),
    (0x1F59, 0x1F59), (0x1F5B, 0x1F5B), (0x1F5D, 0x1F5D), (0x1F5F, 0x1F7D), (0x1F80, 0x1FB4),
    (0x1FB6, 0x1FC4), (0x1FC6, 0x1FD3), (0x1FD6, 0x1FDB), (0x1FDD, 0x1FEF), (0x1FF2, 0x1FF4),
    (0x1FF6, 0x1FFE), (0x2126, 0x2126), (0xAB65, 0xAB65), (0x10140, 0x1018E), (0x101A0, 0x101A0),
    (0x1D200, 0x1D245)]

/-- The script Hebrew. -/
def hebrewRanges : Text.Ranges := [
    (0x591, 0x5C7), (0x5D0, 0x5EA), (0x5EF, 0x5F4), (0xFB1D, 0xFB36), (0xFB38, 0xFB3C),
    (0xFB3E, 0xFB3E), (0xFB40, 0xFB41), (0xFB43, 0xFB44), (0xFB46, 0xFB4F)]

/-- The script Hiragana. -/
def hiraganaRanges : Text.Ranges := [
    (0x3041, 0x3096), (0x309D, 0x309F), (0x1B001, 0x1B11F), (0x1B132, 0x1B132),
    (0x1B150, 0x1B152), (0x1F200, 0x1F200)]

/-- The script Katakana. -/
def katakanaRanges : Text.Ranges := [
    (0x30A1, 0x30FA), (0x30FD, 0x30FF), (0x31F0, 0x31FF), (0x32D0, 0x32FE), (0x3300, 0x3357),
    (0xFF66, 0xFF6F), (0xFF71, 0xFF9D), (0x1AFF0, 0x1AFF3), (0x1AFF5, 0x1AFFB),
    (0x1AFFD, 0x1AFFE), (0x1B000, 0x1B000), (0x1B120, 0x1B122), (0x1B155, 0x1B155),
    (0x1B164, 0x1B167)]

/-- The script Han. -/
def hanRanges : Text.Ranges := [
    (0x2E80, 0x2E99), (0x2E9B, 0x2EF3), (0x2F00, 0x2FD5), (0x3005, 0x3005), (0x3007, 0x3007),
    (0x3021, 0x3029), (0x3038, 0x303B), (0x3400, 0x4DBF), (0x4E00, 0x9FFF), (0xF900, 0xFA6D),
    (0xFA70, 0xFAD9), (0x16FE2, 0x16FE3), (0x16FF0, 0x16FF6), (0x20000, 0x2A6DF),
    (0x2A700, 0x2B81D), (0x2B820, 0x2CEAD), (0x2CEB0, 0x2EBE0), (0x2EBF0, 0x2EE5D),
    (0x2F800, 0x2FA1D), (0x30000, 0x3134A), (0x31350, 0x33479)]

end Weblog.Domain
