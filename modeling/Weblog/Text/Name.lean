/-
  The names of marks, spaces, separators and format characters in the Unicode character database
  (version 14). The variation selectors are numbered and not listed.
-/
import Weblog.Number.Digits
import Weblog.Text.Hex

namespace Weblog.Text

/-- Entries with the distance from the code point before in hexadecimal and the name. -/
def namesText : String := String.join [
  "20=SPACE;80=NO-BREAK SPACE;d=SOFT HYPHEN;253=COMBINING GRAVE ACCENT;1=COMBINING ACUTE ACCENT",
  ";1=COMBINING CIRCUMFLEX ACCENT;1=COMBINING TILDE;1=COMBINING MACRON;1=COMBINING OVERLINE;1=C",
  "OMBINING BREVE;1=COMBINING DOT ABOVE;1=COMBINING DIAERESIS;1=COMBINING HOOK ABOVE;1=COMBININ",
  "G RING ABOVE;1=COMBINING DOUBLE ACUTE ACCENT;1=COMBINING CARON;1=COMBINING VERTICAL LINE ABO",
  "VE;1=COMBINING DOUBLE VERTICAL LINE ABOVE;1=COMBINING DOUBLE GRAVE ACCENT;1=COMBINING CANDRA",
  "BINDU;1=COMBINING INVERTED BREVE;1=COMBINING TURNED COMMA ABOVE;1=COMBINING COMMA ABOVE;1=CO",
  "MBINING REVERSED COMMA ABOVE;1=COMBINING COMMA ABOVE RIGHT;1=COMBINING GRAVE ACCENT BELOW;1=",
  "COMBINING ACUTE ACCENT BELOW;1=COMBINING LEFT TACK BELOW;1=COMBINING RIGHT TACK BELOW;1=COMB",
  "INING LEFT ANGLE ABOVE;1=COMBINING HORN;1=COMBINING LEFT HALF RING BELOW;1=COMBINING UP TACK",
  " BELOW;1=COMBINING DOWN TACK BELOW;1=COMBINING PLUS SIGN BELOW;1=COMBINING MINUS SIGN BELOW;",
  "1=COMBINING PALATALIZED HOOK BELOW;1=COMBINING RETROFLEX HOOK BELOW;1=COMBINING DOT BELOW;1=",
  "COMBINING DIAERESIS BELOW;1=COMBINING RING BELOW;1=COMBINING COMMA BELOW;1=COMBINING CEDILLA",
  ";1=COMBINING OGONEK;1=COMBINING VERTICAL LINE BELOW;1=COMBINING BRIDGE BELOW;1=COMBINING INV",
  "ERTED DOUBLE ARCH BELOW;1=COMBINING CARON BELOW;1=COMBINING CIRCUMFLEX ACCENT BELOW;1=COMBIN",
  "ING BREVE BELOW;1=COMBINING INVERTED BREVE BELOW;1=COMBINING TILDE BELOW;1=COMBINING MACRON ",
  "BELOW;1=COMBINING LOW LINE;1=COMBINING DOUBLE LOW LINE;1=COMBINING TILDE OVERLAY;1=COMBINING",
  " SHORT STROKE OVERLAY;1=COMBINING LONG STROKE OVERLAY;1=COMBINING SHORT SOLIDUS OVERLAY;1=CO",
  "MBINING LONG SOLIDUS OVERLAY;1=COMBINING RIGHT HALF RING BELOW;1=COMBINING INVERTED BRIDGE B",
  "ELOW;1=COMBINING SQUARE BELOW;1=COMBINING SEAGULL BELOW;1=COMBINING X ABOVE;1=COMBINING VERT",
  "ICAL TILDE;1=COMBINING DOUBLE OVERLINE;1=COMBINING GRAVE TONE MARK;1=COMBINING ACUTE TONE MA",
  "RK;1=COMBINING GREEK PERISPOMENI;1=COMBINING GREEK KORONIS;1=COMBINING GREEK DIALYTIKA TONOS",
  ";1=COMBINING GREEK YPOGEGRAMMENI;1=COMBINING BRIDGE ABOVE;1=COMBINING EQUALS SIGN BELOW;1=CO",
  "MBINING DOUBLE VERTICAL LINE BELOW;1=COMBINING LEFT ANGLE BELOW;1=COMBINING NOT TILDE ABOVE;",
  "1=COMBINING HOMOTHETIC ABOVE;1=COMBINING ALMOST EQUAL TO ABOVE;1=COMBINING LEFT RIGHT ARROW ",
  "BELOW;1=COMBINING UPWARDS ARROW BELOW;1=COMBINING GRAPHEME JOINER;1=COMBINING RIGHT ARROWHEA",
  "D ABOVE;1=COMBINING LEFT HALF RING ABOVE;1=COMBINING FERMATA;1=COMBINING X BELOW;1=COMBINING",
  " LEFT ARROWHEAD BELOW;1=COMBINING RIGHT ARROWHEAD BELOW;1=COMBINING RIGHT ARROWHEAD AND UP A",
  "RROWHEAD BELOW;1=COMBINING RIGHT HALF RING ABOVE;1=COMBINING DOT ABOVE RIGHT;1=COMBINING AST",
  "ERISK BELOW;1=COMBINING DOUBLE RING BELOW;1=COMBINING ZIGZAG ABOVE;1=COMBINING DOUBLE BREVE ",
  "BELOW;1=COMBINING DOUBLE BREVE;1=COMBINING DOUBLE MACRON;1=COMBINING DOUBLE MACRON BELOW;1=C",
  "OMBINING DOUBLE TILDE;1=COMBINING DOUBLE INVERTED BREVE;1=COMBINING DOUBLE RIGHTWARDS ARROW ",
  "BELOW;1=COMBINING LATIN SMALL LETTER A;1=COMBINING LATIN SMALL LETTER E;1=COMBINING LATIN SM",
  "ALL LETTER I;1=COMBINING LATIN SMALL LETTER O;1=COMBINING LATIN SMALL LETTER U;1=COMBINING L",
  "ATIN SMALL LETTER C;1=COMBINING LATIN SMALL LETTER D;1=COMBINING LATIN SMALL LETTER H;1=COMB",
  "INING LATIN SMALL LETTER M;1=COMBINING LATIN SMALL LETTER R;1=COMBINING LATIN SMALL LETTER T",
  ";1=COMBINING LATIN SMALL LETTER V;1=COMBINING LATIN SMALL LETTER X;114=COMBINING CYRILLIC TI",
  "TLO;1=COMBINING CYRILLIC PALATALIZATION;1=COMBINING CYRILLIC DASIA PNEUMATA;1=COMBINING CYRI",
  "LLIC PSILI PNEUMATA;1=COMBINING CYRILLIC POKRYTIE;1=COMBINING CYRILLIC HUNDRED THOUSANDS SIG",
  "N;1=COMBINING CYRILLIC MILLIONS SIGN;108=HEBREW ACCENT ETNAHTA;1=HEBREW ACCENT SEGOL;1=HEBRE",
  "W ACCENT SHALSHELET;1=HEBREW ACCENT ZAQEF QATAN;1=HEBREW ACCENT ZAQEF GADOL;1=HEBREW ACCENT ",
  "TIPEHA;1=HEBREW ACCENT REVIA;1=HEBREW ACCENT ZARQA;1=HEBREW ACCENT PASHTA;1=HEBREW ACCENT YE",
  "TIV;1=HEBREW ACCENT TEVIR;1=HEBREW ACCENT GERESH;1=HEBREW ACCENT GERESH MUQDAM;1=HEBREW ACCE",
  "NT GERSHAYIM;1=HEBREW ACCENT QARNEY PARA;1=HEBREW ACCENT TELISHA GEDOLA;1=HEBREW ACCENT PAZE",
  "R;1=HEBREW ACCENT ATNAH HAFUKH;1=HEBREW ACCENT MUNAH;1=HEBREW ACCENT MAHAPAKH;1=HEBREW ACCEN",
  "T MERKHA;1=HEBREW ACCENT MERKHA KEFULA;1=HEBREW ACCENT DARGA;1=HEBREW ACCENT QADMA;1=HEBREW ",
  "ACCENT TELISHA QETANA;1=HEBREW ACCENT YERAH BEN YOMO;1=HEBREW ACCENT OLE;1=HEBREW ACCENT ILU",
  "Y;1=HEBREW ACCENT DEHI;1=HEBREW ACCENT ZINOR;1=HEBREW MARK MASORA CIRCLE;1=HEBREW POINT SHEV",
  "A;1=HEBREW POINT HATAF SEGOL;1=HEBREW POINT HATAF PATAH;1=HEBREW POINT HATAF QAMATS;1=HEBREW",
  " POINT HIRIQ;1=HEBREW POINT TSERE;1=HEBREW POINT SEGOL;1=HEBREW POINT PATAH;1=HEBREW POINT Q",
  "AMATS;1=HEBREW POINT HOLAM;1=HEBREW POINT HOLAM HASER FOR VAV;1=HEBREW POINT QUBUTS;1=HEBREW",
  " POINT DAGESH OR MAPIQ;1=HEBREW POINT METEG;2=HEBREW POINT RAFE;2=HEBREW POINT SHIN DOT;1=HE",
  "BREW POINT SIN DOT;2=HEBREW MARK UPPER DOT;1=HEBREW MARK LOWER DOT;2=HEBREW POINT QAMATS QAT",
  "AN;39=ARABIC NUMBER SIGN;1=ARABIC SIGN SANAH;1=ARABIC FOOTNOTE MARKER;1=ARABIC SIGN SAFHA;1=",
  "ARABIC SIGN SAMVAT;1=ARABIC NUMBER MARK ABOVE;b=ARABIC SIGN SALLALLAHOU ALAYHE WASSALLAM;1=A",
  "RABIC SIGN ALAYHE ASSALLAM;1=ARABIC SIGN RAHMATULLAH ALAYHE;1=ARABIC SIGN RADI ALLAHOU ANHU;",
  "1=ARABIC SIGN TAKHALLUS;1=ARABIC SMALL HIGH TAH;1=ARABIC SMALL HIGH LIGATURE ALEF WITH LAM W",
  "ITH YEH;1=ARABIC SMALL HIGH ZAIN;1=ARABIC SMALL FATHA;1=ARABIC SMALL DAMMA;1=ARABIC SMALL KA",
  "SRA;2=ARABIC LETTER MARK;2f=ARABIC FATHATAN;1=ARABIC DAMMATAN;1=ARABIC KASRATAN;1=ARABIC FAT",
  "HA;1=ARABIC DAMMA;1=ARABIC KASRA;1=ARABIC SHADDA;1=ARABIC SUKUN;1=ARABIC MADDAH ABOVE;1=ARAB",
  "IC HAMZA ABOVE;1=ARABIC HAMZA BELOW;1=ARABIC SUBSCRIPT ALEF;1=ARABIC INVERTED DAMMA;1=ARABIC",
  " MARK NOON GHUNNA;1=ARABIC ZWARAKAY;1=ARABIC VOWEL SIGN SMALL V ABOVE;1=ARABIC VOWEL SIGN IN",
  "VERTED SMALL V ABOVE;1=ARABIC VOWEL SIGN DOT BELOW;1=ARABIC REVERSED DAMMA;1=ARABIC FATHA WI",
  "TH TWO DOTS;1=ARABIC WAVY HAMZA BELOW;11=ARABIC LETTER SUPERSCRIPT ALEF;66=ARABIC SMALL HIGH",
  " LIGATURE SAD WITH LAM WITH ALEF MAKSURA;1=ARABIC SMALL HIGH LIGATURE QAF WITH LAM WITH ALEF",
  " MAKSURA;1=ARABIC SMALL HIGH MEEM INITIAL FORM;1=ARABIC SMALL HIGH LAM ALEF;1=ARABIC SMALL H",
  "IGH JEEM;1=ARABIC SMALL HIGH THREE DOTS;1=ARABIC SMALL HIGH SEEN;1=ARABIC END OF AYAH;2=ARAB",
  "IC SMALL HIGH ROUNDED ZERO;1=ARABIC SMALL HIGH UPRIGHT RECTANGULAR ZERO;1=ARABIC SMALL HIGH ",
  "DOTLESS HEAD OF KHAH;1=ARABIC SMALL HIGH MEEM ISOLATED FORM;1=ARABIC SMALL LOW SEEN;1=ARABIC",
  " SMALL HIGH MADDA;3=ARABIC SMALL HIGH YEH;1=ARABIC SMALL HIGH NOON;2=ARABIC EMPTY CENTRE LOW",
  " STOP;1=ARABIC EMPTY CENTRE HIGH STOP;1=ARABIC ROUNDED HIGH STOP WITH FILLED CENTRE;1=ARABIC",
  " SMALL LOW MEEM;22=SYRIAC ABBREVIATION MARK;2=SYRIAC LETTER SUPERSCRIPT ALAPH;1f=SYRIAC PTHA",
  "HA ABOVE;1=SYRIAC PTHAHA BELOW;1=SYRIAC PTHAHA DOTTED;1=SYRIAC ZQAPHA ABOVE;1=SYRIAC ZQAPHA ",
  "BELOW;1=SYRIAC ZQAPHA DOTTED;1=SYRIAC RBASA ABOVE;1=SYRIAC RBASA BELOW;1=SYRIAC DOTTED ZLAMA",
  " HORIZONTAL;1=SYRIAC DOTTED ZLAMA ANGULAR;1=SYRIAC HBASA ABOVE;1=SYRIAC HBASA BELOW;1=SYRIAC",
  " HBASA-ESASA DOTTED;1=SYRIAC ESASA ABOVE;1=SYRIAC ESASA BELOW;1=SYRIAC RWAHA;1=SYRIAC FEMINI",
  "NE DOT;1=SYRIAC QUSHSHAYA;1=SYRIAC RUKKAKHA;1=SYRIAC TWO VERTICAL DOTS ABOVE;1=SYRIAC TWO VE",
  "RTICAL DOTS BELOW;1=SYRIAC THREE DOTS ABOVE;1=SYRIAC THREE DOTS BELOW;1=SYRIAC OBLIQUE LINE ",
  "ABOVE;1=SYRIAC OBLIQUE LINE BELOW;1=SYRIAC MUSIC;1=SYRIAC BARREKH;5c=THAANA ABAFILI;1=THAANA",
  " AABAAFILI;1=THAANA IBIFILI;1=THAANA EEBEEFILI;1=THAANA UBUFILI;1=THAANA OOBOOFILI;1=THAANA ",
  "EBEFILI;1=THAANA EYBEYFILI;1=THAANA OBOFILI;1=THAANA OABOAFILI;1=THAANA SUKUN;3b=NKO COMBINI",
  "NG SHORT HIGH TONE;1=NKO COMBINING SHORT LOW TONE;1=NKO COMBINING SHORT RISING TONE;1=NKO CO",
  "MBINING LONG DESCENDING TONE;1=NKO COMBINING LONG HIGH TONE;1=NKO COMBINING LONG LOW TONE;1=",
  "NKO COMBINING LONG RISING TONE;1=NKO COMBINING NASALIZATION MARK;1=NKO COMBINING DOUBLE DOT ",
  "ABOVE;a=NKO DANTAYALAN;19=SAMARITAN MARK IN;1=SAMARITAN MARK IN-ALAF;1=SAMARITAN MARK OCCLUS",
  "ION;1=SAMARITAN MARK DAGESH;2=SAMARITAN MARK EPENTHETIC YUT;1=SAMARITAN VOWEL SIGN LONG E;1=",
  "SAMARITAN VOWEL SIGN E;1=SAMARITAN VOWEL SIGN OVERLONG AA;1=SAMARITAN VOWEL SIGN LONG AA;1=S",
  "AMARITAN VOWEL SIGN AA;1=SAMARITAN VOWEL SIGN OVERLONG A;1=SAMARITAN VOWEL SIGN LONG A;1=SAM",
  "ARITAN VOWEL SIGN A;2=SAMARITAN VOWEL SIGN SHORT A;1=SAMARITAN VOWEL SIGN LONG U;1=SAMARITAN",
  " VOWEL SIGN U;2=SAMARITAN VOWEL SIGN LONG I;1=SAMARITAN VOWEL SIGN I;1=SAMARITAN VOWEL SIGN ",
  "O;1=SAMARITAN VOWEL SIGN SUKUN;1=SAMARITAN MARK NEQUDAA;2c=MANDAIC AFFRICATION MARK;1=MANDAI",
  "C VOCALIZATION MARK;1=MANDAIC GEMINATION MARK;35=ARABIC POUND MARK ABOVE;1=ARABIC PIASTRE MA",
  "RK ABOVE;7=ARABIC SMALL HIGH WORD AL-JUZ;1=ARABIC SMALL LOW WORD ISHMAAM;1=ARABIC SMALL LOW ",
  "WORD IMAALA;1=ARABIC SMALL LOW WORD TASHEEL;1=ARABIC MADDA WAAJIB;1=ARABIC SUPERSCRIPT ALEF ",
  "MOKHASSAS;1=ARABIC DOUBLED MADDA;1=ARABIC HALF MADDA OVER MADDA;2b=ARABIC SMALL HIGH FARSI Y",
  "EH;1=ARABIC SMALL HIGH YEH BARREE WITH TWO DOTS BELOW;1=ARABIC SMALL HIGH WORD SAH;1=ARABIC ",
  "SMALL HIGH ZAH;1=ARABIC LARGE ROUND DOT ABOVE;1=ARABIC LARGE ROUND DOT BELOW;1=ARABIC SUKUN ",
  "BELOW;1=ARABIC LARGE CIRCLE BELOW;1=ARABIC LARGE ROUND DOT INSIDE CIRCLE BELOW;1=ARABIC SMAL",
  "L LOW WAW;1=ARABIC SMALL HIGH WORD AR-RUB;1=ARABIC SMALL HIGH SAD;1=ARABIC SMALL HIGH AIN;1=",
  "ARABIC SMALL HIGH QAF;1=ARABIC SMALL HIGH NOON WITH KASRA;1=ARABIC SMALL LOW NOON WITH KASRA",
  ";1=ARABIC SMALL HIGH WORD ATH-THALATHA;1=ARABIC SMALL HIGH WORD AS-SAJDA;1=ARABIC SMALL HIGH",
  " WORD AN-NISF;1=ARABIC SMALL HIGH WORD SAKTA;1=ARABIC SMALL HIGH WORD QIF;1=ARABIC SMALL HIG",
  "H WORD WAQFA;1=ARABIC SMALL HIGH FOOTNOTE MARKER;1=ARABIC SMALL HIGH SIGN SAFHA;1=ARABIC DIS",
  "PUTED END OF AYAH;1=ARABIC TURNED DAMMA BELOW;1=ARABIC CURLY FATHA;1=ARABIC CURLY DAMMA;1=AR",
  "ABIC CURLY KASRA;1=ARABIC CURLY FATHATAN;1=ARABIC CURLY DAMMATAN;1=ARABIC CURLY KASRATAN;1=A",
  "RABIC TONE ONE DOT ABOVE;1=ARABIC TONE TWO DOTS ABOVE;1=ARABIC TONE LOOP ABOVE;1=ARABIC TONE",
  " ONE DOT BELOW;1=ARABIC TONE TWO DOTS BELOW;1=ARABIC TONE LOOP BELOW;1=ARABIC OPEN FATHATAN;",
  "1=ARABIC OPEN DAMMATAN;1=ARABIC OPEN KASRATAN;1=ARABIC SMALL HIGH WAW;1=ARABIC FATHA WITH RI",
  "NG;1=ARABIC FATHA WITH DOT ABOVE;1=ARABIC KASRA WITH DOT BELOW;1=ARABIC LEFT ARROWHEAD ABOVE",
  ";1=ARABIC RIGHT ARROWHEAD ABOVE;1=ARABIC LEFT ARROWHEAD BELOW;1=ARABIC RIGHT ARROWHEAD BELOW",
  ";1=ARABIC DOUBLE RIGHT ARROWHEAD ABOVE;1=ARABIC DOUBLE RIGHT ARROWHEAD ABOVE WITH DOT;1=ARAB",
  "IC RIGHT ARROWHEAD ABOVE WITH DOT;1=ARABIC DAMMA WITH DOT;1=ARABIC MARK SIDEWAYS NOON GHUNNA",
  ";1=DEVANAGARI SIGN INVERTED CANDRABINDU;1=DEVANAGARI SIGN CANDRABINDU;1=DEVANAGARI SIGN ANUS",
  "VARA;1=DEVANAGARI SIGN VISARGA;37=DEVANAGARI VOWEL SIGN OE;1=DEVANAGARI VOWEL SIGN OOE;1=DEV",
  "ANAGARI SIGN NUKTA;2=DEVANAGARI VOWEL SIGN AA;1=DEVANAGARI VOWEL SIGN I;1=DEVANAGARI VOWEL S",
  "IGN II;1=DEVANAGARI VOWEL SIGN U;1=DEVANAGARI VOWEL SIGN UU;1=DEVANAGARI VOWEL SIGN VOCALIC ",
  "R;1=DEVANAGARI VOWEL SIGN VOCALIC RR;1=DEVANAGARI VOWEL SIGN CANDRA E;1=DEVANAGARI VOWEL SIG",
  "N SHORT E;1=DEVANAGARI VOWEL SIGN E;1=DEVANAGARI VOWEL SIGN AI;1=DEVANAGARI VOWEL SIGN CANDR",
  "A O;1=DEVANAGARI VOWEL SIGN SHORT O;1=DEVANAGARI VOWEL SIGN O;1=DEVANAGARI VOWEL SIGN AU;1=D",
  "EVANAGARI SIGN VIRAMA;1=DEVANAGARI VOWEL SIGN PRISHTHAMATRA E;1=DEVANAGARI VOWEL SIGN AW;2=D",
  "EVANAGARI STRESS SIGN UDATTA;1=DEVANAGARI STRESS SIGN ANUDATTA;1=DEVANAGARI GRAVE ACCENT;1=D",
  "EVANAGARI ACUTE ACCENT;1=DEVANAGARI VOWEL SIGN CANDRA LONG E;1=DEVANAGARI VOWEL SIGN UE;1=DE",
  "VANAGARI VOWEL SIGN UUE;b=DEVANAGARI VOWEL SIGN VOCALIC L;1=DEVANAGARI VOWEL SIGN VOCALIC LL",
  ";1e=BENGALI SIGN CANDRABINDU;1=BENGALI SIGN ANUSVARA;1=BENGALI SIGN VISARGA;39=BENGALI SIGN ",
  "NUKTA;2=BENGALI VOWEL SIGN AA;1=BENGALI VOWEL SIGN I;1=BENGALI VOWEL SIGN II;1=BENGALI VOWEL",
  " SIGN U;1=BENGALI VOWEL SIGN UU;1=BENGALI VOWEL SIGN VOCALIC R;1=BENGALI VOWEL SIGN VOCALIC ",
  "RR;3=BENGALI VOWEL SIGN E;1=BENGALI VOWEL SIGN AI;3=BENGALI VOWEL SIGN O;1=BENGALI VOWEL SIG",
  "N AU;1=BENGALI SIGN VIRAMA;a=BENGALI AU LENGTH MARK;b=BENGALI VOWEL SIGN VOCALIC L;1=BENGALI",
  " VOWEL SIGN VOCALIC LL;1b=BENGALI SANDHI MARK;3=GURMUKHI SIGN ADAK BINDI;1=GURMUKHI SIGN BIN",
  "DI;1=GURMUKHI SIGN VISARGA;39=GURMUKHI SIGN NUKTA;2=GURMUKHI VOWEL SIGN AA;1=GURMUKHI VOWEL ",
  "SIGN I;1=GURMUKHI VOWEL SIGN II;1=GURMUKHI VOWEL SIGN U;1=GURMUKHI VOWEL SIGN UU;5=GURMUKHI ",
  "VOWEL SIGN EE;1=GURMUKHI VOWEL SIGN AI;3=GURMUKHI VOWEL SIGN OO;1=GURMUKHI VOWEL SIGN AU;1=G",
  "URMUKHI SIGN VIRAMA;4=GURMUKHI SIGN UDAAT;1f=GURMUKHI TIPPI;1=GURMUKHI ADDAK;4=GURMUKHI SIGN",
  " YAKASH;c=GUJARATI SIGN CANDRABINDU;1=GUJARATI SIGN ANUSVARA;1=GUJARATI SIGN VISARGA;39=GUJA",
  "RATI SIGN NUKTA;2=GUJARATI VOWEL SIGN AA;1=GUJARATI VOWEL SIGN I;1=GUJARATI VOWEL SIGN II;1=",
  "GUJARATI VOWEL SIGN U;1=GUJARATI VOWEL SIGN UU;1=GUJARATI VOWEL SIGN VOCALIC R;1=GUJARATI VO",
  "WEL SIGN VOCALIC RR;1=GUJARATI VOWEL SIGN CANDRA E;2=GUJARATI VOWEL SIGN E;1=GUJARATI VOWEL ",
  "SIGN AI;1=GUJARATI VOWEL SIGN CANDRA O;2=GUJARATI VOWEL SIGN O;1=GUJARATI VOWEL SIGN AU;1=GU",
  "JARATI SIGN VIRAMA;15=GUJARATI VOWEL SIGN VOCALIC L;1=GUJARATI VOWEL SIGN VOCALIC LL;17=GUJA",
  "RATI SIGN SUKUN;1=GUJARATI SIGN SHADDA;1=GUJARATI SIGN MADDAH;1=GUJARATI SIGN THREE-DOT NUKT",
  "A ABOVE;1=GUJARATI SIGN CIRCLE NUKTA ABOVE;1=GUJARATI SIGN TWO-CIRCLE NUKTA ABOVE;2=ORIYA SI",
  "GN CANDRABINDU;1=ORIYA SIGN ANUSVARA;1=ORIYA SIGN VISARGA;39=ORIYA SIGN NUKTA;2=ORIYA VOWEL ",
  "SIGN AA;1=ORIYA VOWEL SIGN I;1=ORIYA VOWEL SIGN II;1=ORIYA VOWEL SIGN U;1=ORIYA VOWEL SIGN U",
  "U;1=ORIYA VOWEL SIGN VOCALIC R;1=ORIYA VOWEL SIGN VOCALIC RR;3=ORIYA VOWEL SIGN E;1=ORIYA VO",
  "WEL SIGN AI;3=ORIYA VOWEL SIGN O;1=ORIYA VOWEL SIGN AU;1=ORIYA SIGN VIRAMA;8=ORIYA SIGN OVER",
  "LINE;1=ORIYA AI LENGTH MARK;1=ORIYA AU LENGTH MARK;b=ORIYA VOWEL SIGN VOCALIC L;1=ORIYA VOWE",
  "L SIGN VOCALIC LL;1f=TAMIL SIGN ANUSVARA;3c=TAMIL VOWEL SIGN AA;1=TAMIL VOWEL SIGN I;1=TAMIL",
  " VOWEL SIGN II;1=TAMIL VOWEL SIGN U;1=TAMIL VOWEL SIGN UU;4=TAMIL VOWEL SIGN E;1=TAMIL VOWEL",
  " SIGN EE;1=TAMIL VOWEL SIGN AI;2=TAMIL VOWEL SIGN O;1=TAMIL VOWEL SIGN OO;1=TAMIL VOWEL SIGN",
  " AU;1=TAMIL SIGN VIRAMA;a=TAMIL AU LENGTH MARK;29=TELUGU SIGN COMBINING CANDRABINDU ABOVE;1=",
  "TELUGU SIGN CANDRABINDU;1=TELUGU SIGN ANUSVARA;1=TELUGU SIGN VISARGA;1=TELUGU SIGN COMBINING",
  " ANUSVARA ABOVE;38=TELUGU SIGN NUKTA;2=TELUGU VOWEL SIGN AA;1=TELUGU VOWEL SIGN I;1=TELUGU V",
  "OWEL SIGN II;1=TELUGU VOWEL SIGN U;1=TELUGU VOWEL SIGN UU;1=TELUGU VOWEL SIGN VOCALIC R;1=TE",
  "LUGU VOWEL SIGN VOCALIC RR;2=TELUGU VOWEL SIGN E;1=TELUGU VOWEL SIGN EE;1=TELUGU VOWEL SIGN ",
  "AI;2=TELUGU VOWEL SIGN O;1=TELUGU VOWEL SIGN OO;1=TELUGU VOWEL SIGN AU;1=TELUGU SIGN VIRAMA;",
  "8=TELUGU LENGTH MARK;1=TELUGU AI LENGTH MARK;c=TELUGU VOWEL SIGN VOCALIC L;1=TELUGU VOWEL SI",
  "GN VOCALIC LL;1e=KANNADA SIGN CANDRABINDU;1=KANNADA SIGN ANUSVARA;1=KANNADA SIGN VISARGA;39=",
  "KANNADA SIGN NUKTA;2=KANNADA VOWEL SIGN AA;1=KANNADA VOWEL SIGN I;1=KANNADA VOWEL SIGN II;1=",
  "KANNADA VOWEL SIGN U;1=KANNADA VOWEL SIGN UU;1=KANNADA VOWEL SIGN VOCALIC R;1=KANNADA VOWEL ",
  "SIGN VOCALIC RR;2=KANNADA VOWEL SIGN E;1=KANNADA VOWEL SIGN EE;1=KANNADA VOWEL SIGN AI;2=KAN",
  "NADA VOWEL SIGN O;1=KANNADA VOWEL SIGN OO;1=KANNADA VOWEL SIGN AU;1=KANNADA SIGN VIRAMA;8=KA",
  "NNADA LENGTH MARK;1=KANNADA AI LENGTH MARK;c=KANNADA VOWEL SIGN VOCALIC L;1=KANNADA VOWEL SI",
  "GN VOCALIC LL;1d=MALAYALAM SIGN COMBINING ANUSVARA ABOVE;1=MALAYALAM SIGN CANDRABINDU;1=MALA",
  "YALAM SIGN ANUSVARA;1=MALAYALAM SIGN VISARGA;38=MALAYALAM SIGN VERTICAL BAR VIRAMA;1=MALAYAL",
  "AM SIGN CIRCULAR VIRAMA;2=MALAYALAM VOWEL SIGN AA;1=MALAYALAM VOWEL SIGN I;1=MALAYALAM VOWEL",
  " SIGN II;1=MALAYALAM VOWEL SIGN U;1=MALAYALAM VOWEL SIGN UU;1=MALAYALAM VOWEL SIGN VOCALIC R",
  ";1=MALAYALAM VOWEL SIGN VOCALIC RR;2=MALAYALAM VOWEL SIGN E;1=MALAYALAM VOWEL SIGN EE;1=MALA",
  "YALAM VOWEL SIGN AI;2=MALAYALAM VOWEL SIGN O;1=MALAYALAM VOWEL SIGN OO;1=MALAYALAM VOWEL SIG",
  "N AU;1=MALAYALAM SIGN VIRAMA;a=MALAYALAM AU LENGTH MARK;b=MALAYALAM VOWEL SIGN VOCALIC L;1=M",
  "ALAYALAM VOWEL SIGN VOCALIC LL;1e=SINHALA SIGN CANDRABINDU;1=SINHALA SIGN ANUSVARAYA;1=SINHA",
  "LA SIGN VISARGAYA;47=SINHALA SIGN AL-LAKUNA;5=SINHALA VOWEL SIGN AELA-PILLA;1=SINHALA VOWEL ",
  "SIGN KETTI AEDA-PILLA;1=SINHALA VOWEL SIGN DIGA AEDA-PILLA;1=SINHALA VOWEL SIGN KETTI IS-PIL",
  "LA;1=SINHALA VOWEL SIGN DIGA IS-PILLA;1=SINHALA VOWEL SIGN KETTI PAA-PILLA;2=SINHALA VOWEL S",
  "IGN DIGA PAA-PILLA;2=SINHALA VOWEL SIGN GAETTA-PILLA;1=SINHALA VOWEL SIGN KOMBUVA;1=SINHALA ",
  "VOWEL SIGN DIGA KOMBUVA;1=SINHALA VOWEL SIGN KOMBU DEKA;1=SINHALA VOWEL SIGN KOMBUVA HAA AEL",
  "A-PILLA;1=SINHALA VOWEL SIGN KOMBUVA HAA DIGA AELA-PILLA;1=SINHALA VOWEL SIGN KOMBUVA HAA GA",
  "YANUKITTA;1=SINHALA VOWEL SIGN GAYANUKITTA;13=SINHALA VOWEL SIGN DIGA GAETTA-PILLA;1=SINHALA",
  " VOWEL SIGN DIGA GAYANUKITTA;3e=THAI CHARACTER MAI HAN-AKAT;3=THAI CHARACTER SARA I;1=THAI C",
  "HARACTER SARA II;1=THAI CHARACTER SARA UE;1=THAI CHARACTER SARA UEE;1=THAI CHARACTER SARA U;",
  "1=THAI CHARACTER SARA UU;1=THAI CHARACTER PHINTHU;d=THAI CHARACTER MAITAIKHU;1=THAI CHARACTE",
  "R MAI EK;1=THAI CHARACTER MAI THO;1=THAI CHARACTER MAI TRI;1=THAI CHARACTER MAI CHATTAWA;1=T",
  "HAI CHARACTER THANTHAKHAT;1=THAI CHARACTER NIKHAHIT;1=THAI CHARACTER YAMAKKAN;63=LAO VOWEL S",
  "IGN MAI KAN;3=LAO VOWEL SIGN I;1=LAO VOWEL SIGN II;1=LAO VOWEL SIGN Y;1=LAO VOWEL SIGN YY;1=",
  "LAO VOWEL SIGN U;1=LAO VOWEL SIGN UU;1=LAO SIGN PALI VIRAMA;1=LAO VOWEL SIGN MAI KON;1=LAO S",
  "EMIVOWEL SIGN LO;c=LAO TONE MAI EK;1=LAO TONE MAI THO;1=LAO TONE MAI TI;1=LAO TONE MAI CATAW",
  "A;1=LAO CANCELLATION MARK;1=LAO NIGGAHITA;4b=TIBETAN ASTROLOGICAL SIGN -KHYUD PA;1=TIBETAN A",
  "STROLOGICAL SIGN SDONG TSHUGS;1c=TIBETAN MARK NGAS BZUNG NYI ZLA;2=TIBETAN MARK NGAS BZUNG S",
  "GOR RTAGS;2=TIBETAN MARK TSA -PHRU;5=TIBETAN SIGN YAR TSHES;1=TIBETAN SIGN MAR TSHES;32=TIBE",
  "TAN VOWEL SIGN AA;1=TIBETAN VOWEL SIGN I;1=TIBETAN VOWEL SIGN II;1=TIBETAN VOWEL SIGN U;1=TI",
  "BETAN VOWEL SIGN UU;1=TIBETAN VOWEL SIGN VOCALIC R;1=TIBETAN VOWEL SIGN VOCALIC RR;1=TIBETAN",
  " VOWEL SIGN VOCALIC L;1=TIBETAN VOWEL SIGN VOCALIC LL;1=TIBETAN VOWEL SIGN E;1=TIBETAN VOWEL",
  " SIGN EE;1=TIBETAN VOWEL SIGN O;1=TIBETAN VOWEL SIGN OO;1=TIBETAN SIGN RJES SU NGA RO;1=TIBE",
  "TAN SIGN RNAM BCAD;1=TIBETAN VOWEL SIGN REVERSED I;1=TIBETAN VOWEL SIGN REVERSED II;1=TIBETA",
  "N SIGN NYI ZLA NAA DA;1=TIBETAN SIGN SNA LDAN;1=TIBETAN MARK HALANTA;2=TIBETAN SIGN LCI RTAG",
  "S;1=TIBETAN SIGN YANG RTAGS;6=TIBETAN SUBJOINED SIGN LCE TSA CAN;1=TIBETAN SUBJOINED SIGN MC",
  "HU CAN;1=TIBETAN SUBJOINED SIGN INVERTED MCHU CAN;1=TIBETAN SUBJOINED LETTER KA;1=TIBETAN SU",
  "BJOINED LETTER KHA;1=TIBETAN SUBJOINED LETTER GA;1=TIBETAN SUBJOINED LETTER GHA;1=TIBETAN SU",
  "BJOINED LETTER NGA;1=TIBETAN SUBJOINED LETTER CA;1=TIBETAN SUBJOINED LETTER CHA;1=TIBETAN SU",
  "BJOINED LETTER JA;2=TIBETAN SUBJOINED LETTER NYA;1=TIBETAN SUBJOINED LETTER TTA;1=TIBETAN SU",
  "BJOINED LETTER TTHA;1=TIBETAN SUBJOINED LETTER DDA;1=TIBETAN SUBJOINED LETTER DDHA;1=TIBETAN",
  " SUBJOINED LETTER NNA;1=TIBETAN SUBJOINED LETTER TA;1=TIBETAN SUBJOINED LETTER THA;1=TIBETAN",
  " SUBJOINED LETTER DA;1=TIBETAN SUBJOINED LETTER DHA;1=TIBETAN SUBJOINED LETTER NA;1=TIBETAN ",
  "SUBJOINED LETTER PA;1=TIBETAN SUBJOINED LETTER PHA;1=TIBETAN SUBJOINED LETTER BA;1=TIBETAN S",
  "UBJOINED LETTER BHA;1=TIBETAN SUBJOINED LETTER MA;1=TIBETAN SUBJOINED LETTER TSA;1=TIBETAN S",
  "UBJOINED LETTER TSHA;1=TIBETAN SUBJOINED LETTER DZA;1=TIBETAN SUBJOINED LETTER DZHA;1=TIBETA",
  "N SUBJOINED LETTER WA;1=TIBETAN SUBJOINED LETTER ZHA;1=TIBETAN SUBJOINED LETTER ZA;1=TIBETAN",
  " SUBJOINED LETTER -A;1=TIBETAN SUBJOINED LETTER YA;1=TIBETAN SUBJOINED LETTER RA;1=TIBETAN S",
  "UBJOINED LETTER LA;1=TIBETAN SUBJOINED LETTER SHA;1=TIBETAN SUBJOINED LETTER SSA;1=TIBETAN S",
  "UBJOINED LETTER SA;1=TIBETAN SUBJOINED LETTER HA;1=TIBETAN SUBJOINED LETTER A;1=TIBETAN SUBJ",
  "OINED LETTER KSSA;1=TIBETAN SUBJOINED LETTER FIXED-FORM WA;1=TIBETAN SUBJOINED LETTER FIXED-",
  "FORM YA;1=TIBETAN SUBJOINED LETTER FIXED-FORM RA;a=TIBETAN SYMBOL PADMA GDAN;65=MYANMAR VOWE",
  "L SIGN TALL AA;1=MYANMAR VOWEL SIGN AA;1=MYANMAR VOWEL SIGN I;1=MYANMAR VOWEL SIGN II;1=MYAN",
  "MAR VOWEL SIGN U;1=MYANMAR VOWEL SIGN UU;1=MYANMAR VOWEL SIGN E;1=MYANMAR VOWEL SIGN AI;1=MY",
  "ANMAR VOWEL SIGN MON II;1=MYANMAR VOWEL SIGN MON O;1=MYANMAR VOWEL SIGN E ABOVE;1=MYANMAR SI",
  "GN ANUSVARA;1=MYANMAR SIGN DOT BELOW;1=MYANMAR SIGN VISARGA;1=MYANMAR SIGN VIRAMA;1=MYANMAR ",
  "SIGN ASAT;1=MYANMAR CONSONANT SIGN MEDIAL YA;1=MYANMAR CONSONANT SIGN MEDIAL RA;1=MYANMAR CO",
  "NSONANT SIGN MEDIAL WA;1=MYANMAR CONSONANT SIGN MEDIAL HA;18=MYANMAR VOWEL SIGN VOCALIC R;1=",
  "MYANMAR VOWEL SIGN VOCALIC RR;1=MYANMAR VOWEL SIGN VOCALIC L;1=MYANMAR VOWEL SIGN VOCALIC LL",
  ";5=MYANMAR CONSONANT SIGN MON MEDIAL NA;1=MYANMAR CONSONANT SIGN MON MEDIAL MA;1=MYANMAR CON",
  "SONANT SIGN MON MEDIAL LA;2=MYANMAR VOWEL SIGN SGAW KAREN EU;1=MYANMAR TONE MARK SGAW KAREN ",
  "HATHI;1=MYANMAR TONE MARK SGAW KAREN KE PHO;3=MYANMAR VOWEL SIGN WESTERN PWO KAREN EU;1=MYAN",
  "MAR VOWEL SIGN WESTERN PWO KAREN UE;1=MYANMAR SIGN WESTERN PWO KAREN TONE-1;1=MYANMAR SIGN W",
  "ESTERN PWO KAREN TONE-2;1=MYANMAR SIGN WESTERN PWO KAREN TONE-3;1=MYANMAR SIGN WESTERN PWO K",
  "AREN TONE-4;1=MYANMAR SIGN WESTERN PWO KAREN TONE-5;4=MYANMAR VOWEL SIGN GEBA KAREN I;1=MYAN",
  "MAR VOWEL SIGN KAYAH OE;1=MYANMAR VOWEL SIGN KAYAH U;1=MYANMAR VOWEL SIGN KAYAH EE;e=MYANMAR",
  " CONSONANT SIGN SHAN MEDIAL WA;1=MYANMAR VOWEL SIGN SHAN AA;1=MYANMAR VOWEL SIGN SHAN E;1=MY",
  "ANMAR VOWEL SIGN SHAN E ABOVE;1=MYANMAR VOWEL SIGN SHAN FINAL Y;1=MYANMAR SIGN SHAN TONE-2;1",
  "=MYANMAR SIGN SHAN TONE-3;1=MYANMAR SIGN SHAN TONE-5;1=MYANMAR SIGN SHAN TONE-6;1=MYANMAR SI",
  "GN SHAN COUNCIL TONE-2;1=MYANMAR SIGN SHAN COUNCIL TONE-3;1=MYANMAR SIGN SHAN COUNCIL EMPHAT",
  "IC TONE;2=MYANMAR SIGN RUMAI PALAUNG TONE-5;b=MYANMAR SIGN KHAMTI TONE-1;1=MYANMAR SIGN KHAM",
  "TI TONE-3;1=MYANMAR VOWEL SIGN AITON A;1=MYANMAR VOWEL SIGN AITON AI;2c0=ETHIOPIC COMBINING ",
  "GEMINATION AND VOWEL LENGTH MARK;1=ETHIOPIC COMBINING VOWEL LENGTH MARK;1=ETHIOPIC COMBINING",
  " GEMINATION MARK;321=OGHAM SPACE MARK;92=TAGALOG VOWEL SIGN I;1=TAGALOG VOWEL SIGN U;1=TAGAL",
  "OG SIGN VIRAMA;1=TAGALOG SIGN PAMUDPOD;1d=HANUNOO VOWEL SIGN I;1=HANUNOO VOWEL SIGN U;1=HANU",
  "NOO SIGN PAMUDPOD;1e=BUHID VOWEL SIGN I;1=BUHID VOWEL SIGN U;1f=TAGBANWA VOWEL SIGN I;1=TAGB",
  "ANWA VOWEL SIGN U;41=KHMER VOWEL INHERENT AQ;1=KHMER VOWEL INHERENT AA;1=KHMER VOWEL SIGN AA",
  ";1=KHMER VOWEL SIGN I;1=KHMER VOWEL SIGN II;1=KHMER VOWEL SIGN Y;1=KHMER VOWEL SIGN YY;1=KHM",
  "ER VOWEL SIGN U;1=KHMER VOWEL SIGN UU;1=KHMER VOWEL SIGN UA;1=KHMER VOWEL SIGN OE;1=KHMER VO",
  "WEL SIGN YA;1=KHMER VOWEL SIGN IE;1=KHMER VOWEL SIGN E;1=KHMER VOWEL SIGN AE;1=KHMER VOWEL S",
  "IGN AI;1=KHMER VOWEL SIGN OO;1=KHMER VOWEL SIGN AU;1=KHMER SIGN NIKAHIT;1=KHMER SIGN REAHMUK",
  ";1=KHMER SIGN YUUKALEAPINTU;1=KHMER SIGN MUUSIKATOAN;1=KHMER SIGN TRIISAP;1=KHMER SIGN BANTO",
  "C;1=KHMER SIGN ROBAT;1=KHMER SIGN TOANDAKHIAT;1=KHMER SIGN KAKABAT;1=KHMER SIGN AHSDA;1=KHME",
  "R SIGN SAMYOK SANNYA;1=KHMER SIGN VIRIAM;1=KHMER SIGN COENG;1=KHMER SIGN BATHAMASAT;a=KHMER ",
  "SIGN ATTHACAN;2e=MONGOLIAN FREE VARIATION SELECTOR ONE;1=MONGOLIAN FREE VARIATION SELECTOR T",
  "WO;1=MONGOLIAN FREE VARIATION SELECTOR THREE;1=MONGOLIAN VOWEL SEPARATOR;1=MONGOLIAN FREE VA",
  "RIATION SELECTOR FOUR;76=MONGOLIAN LETTER ALI GALI BALUDA;1=MONGOLIAN LETTER ALI GALI THREE ",
  "BALUDA;23=MONGOLIAN LETTER ALI GALI DAGALGA;77=LIMBU VOWEL SIGN A;1=LIMBU VOWEL SIGN I;1=LIM",
  "BU VOWEL SIGN U;1=LIMBU VOWEL SIGN EE;1=LIMBU VOWEL SIGN AI;1=LIMBU VOWEL SIGN OO;1=LIMBU VO",
  "WEL SIGN AU;1=LIMBU VOWEL SIGN E;1=LIMBU VOWEL SIGN O;1=LIMBU SUBJOINED LETTER YA;1=LIMBU SU",
  "BJOINED LETTER RA;1=LIMBU SUBJOINED LETTER WA;5=LIMBU SMALL LETTER KA;1=LIMBU SMALL LETTER N",
  "GA;1=LIMBU SMALL LETTER ANUSVARA;1=LIMBU SMALL LETTER TA;1=LIMBU SMALL LETTER NA;1=LIMBU SMA",
  "LL LETTER PA;1=LIMBU SMALL LETTER MA;1=LIMBU SMALL LETTER RA;1=LIMBU SMALL LETTER LA;1=LIMBU",
  " SIGN MUKPHRENG;1=LIMBU SIGN KEMPHRENG;1=LIMBU SIGN SA-I;dc=BUGINESE VOWEL SIGN I;1=BUGINESE",
  " VOWEL SIGN U;1=BUGINESE VOWEL SIGN E;1=BUGINESE VOWEL SIGN O;1=BUGINESE VOWEL SIGN AE;3a=TA",
  "I THAM CONSONANT SIGN MEDIAL RA;1=TAI THAM CONSONANT SIGN MEDIAL LA;1=TAI THAM CONSONANT SIG",
  "N LA TANG LAI;1=TAI THAM SIGN MAI KANG LAI;1=TAI THAM CONSONANT SIGN FINAL NGA;1=TAI THAM CO",
  "NSONANT SIGN LOW PA;1=TAI THAM CONSONANT SIGN HIGH RATHA OR LOW PA;1=TAI THAM CONSONANT SIGN",
  " MA;1=TAI THAM CONSONANT SIGN BA;1=TAI THAM CONSONANT SIGN SA;2=TAI THAM SIGN SAKOT;1=TAI TH",
  "AM VOWEL SIGN A;1=TAI THAM VOWEL SIGN MAI SAT;1=TAI THAM VOWEL SIGN AA;1=TAI THAM VOWEL SIGN",
  " TALL AA;1=TAI THAM VOWEL SIGN I;1=TAI THAM VOWEL SIGN II;1=TAI THAM VOWEL SIGN UE;1=TAI THA",
  "M VOWEL SIGN UUE;1=TAI THAM VOWEL SIGN U;1=TAI THAM VOWEL SIGN UU;1=TAI THAM VOWEL SIGN O;1=",
  "TAI THAM VOWEL SIGN OA BELOW;1=TAI THAM VOWEL SIGN OY;1=TAI THAM VOWEL SIGN E;1=TAI THAM VOW",
  "EL SIGN AE;1=TAI THAM VOWEL SIGN OO;1=TAI THAM VOWEL SIGN AI;1=TAI THAM VOWEL SIGN THAM AI;1",
  "=TAI THAM VOWEL SIGN OA ABOVE;1=TAI THAM SIGN MAI KANG;1=TAI THAM SIGN TONE-1;1=TAI THAM SIG",
  "N TONE-2;1=TAI THAM SIGN KHUEN TONE-3;1=TAI THAM SIGN KHUEN TONE-4;1=TAI THAM SIGN KHUEN TON",
  "E-5;1=TAI THAM SIGN RA HAAM;1=TAI THAM SIGN MAI SAM;1=TAI THAM SIGN KHUEN-LUE KARAN;3=TAI TH",
  "AM COMBINING CRYPTOGRAMMIC DOT;31=COMBINING DOUBLED CIRCUMFLEX ACCENT;1=COMBINING DIAERESIS-",
  "RING;1=COMBINING INFINITY;1=COMBINING DOWNWARDS ARROW;1=COMBINING TRIPLE DOT;1=COMBINING X-X",
  " BELOW;1=COMBINING WIGGLY LINE BELOW;1=COMBINING OPEN MARK BELOW;1=COMBINING DOUBLE OPEN MAR",
  "K BELOW;1=COMBINING LIGHT CENTRALIZATION STROKE BELOW;1=COMBINING STRONG CENTRALIZATION STRO",
  "KE BELOW;1=COMBINING PARENTHESES ABOVE;1=COMBINING DOUBLE PARENTHESES ABOVE;1=COMBINING PARE",
  "NTHESES BELOW;1=COMBINING PARENTHESES OVERLAY;1=COMBINING LATIN SMALL LETTER W BELOW;1=COMBI",
  "NING LATIN SMALL LETTER TURNED W BELOW;1=COMBINING LEFT PARENTHESIS ABOVE LEFT;1=COMBINING R",
  "IGHT PARENTHESIS ABOVE RIGHT;1=COMBINING LEFT PARENTHESIS BELOW LEFT;1=COMBINING RIGHT PAREN",
  "THESIS BELOW RIGHT;1=COMBINING SQUARE BRACKETS ABOVE;1=COMBINING NUMBER SIGN ABOVE;1=COMBINI",
  "NG INVERTED DOUBLE ARCH ABOVE;1=COMBINING PLUS SIGN ABOVE;1=COMBINING DOUBLE PLUS SIGN ABOVE",
  ";1=COMBINING DOUBLE PLUS SIGN BELOW;1=COMBINING TRIPLE ACUTE ACCENT;1=COMBINING LATIN SMALL ",
  "LETTER INSULAR G;1=COMBINING LATIN SMALL LETTER INSULAR R;1=COMBINING LATIN SMALL LETTER INS",
  "ULAR T;32=BALINESE SIGN ULU RICEM;1=BALINESE SIGN ULU CANDRA;1=BALINESE SIGN CECEK;1=BALINES",
  "E SIGN SURANG;1=BALINESE SIGN BISAH;30=BALINESE SIGN REREKAN;1=BALINESE VOWEL SIGN TEDUNG;1=",
  "BALINESE VOWEL SIGN ULU;1=BALINESE VOWEL SIGN ULU SARI;1=BALINESE VOWEL SIGN SUKU;1=BALINESE",
  " VOWEL SIGN SUKU ILUT;1=BALINESE VOWEL SIGN RA REPA;1=BALINESE VOWEL SIGN RA REPA TEDUNG;1=B",
  "ALINESE VOWEL SIGN LA LENGA;1=BALINESE VOWEL SIGN LA LENGA TEDUNG;1=BALINESE VOWEL SIGN TALI",
  "NG;1=BALINESE VOWEL SIGN TALING REPA;1=BALINESE VOWEL SIGN TALING TEDUNG;1=BALINESE VOWEL SI",
  "GN TALING REPA TEDUNG;1=BALINESE VOWEL SIGN PEPET;1=BALINESE VOWEL SIGN PEPET TEDUNG;1=BALIN",
  "ESE ADEG ADEG;27=BALINESE MUSICAL SYMBOL COMBINING TEGEH;1=BALINESE MUSICAL SYMBOL COMBINING",
  " ENDEP;1=BALINESE MUSICAL SYMBOL COMBINING KEMPUL;1=BALINESE MUSICAL SYMBOL COMBINING KEMPLI",
  ";1=BALINESE MUSICAL SYMBOL COMBINING JEGOGAN;1=BALINESE MUSICAL SYMBOL COMBINING KEMPUL WITH",
  " JEGOGAN;1=BALINESE MUSICAL SYMBOL COMBINING KEMPLI WITH JEGOGAN;1=BALINESE MUSICAL SYMBOL C",
  "OMBINING BENDE;1=BALINESE MUSICAL SYMBOL COMBINING GONG;d=SUNDANESE SIGN PANYECEK;1=SUNDANES",
  "E SIGN PANGLAYAR;1=SUNDANESE SIGN PANGWISAD;1f=SUNDANESE CONSONANT SIGN PAMINGKAL;1=SUNDANES",
  "E CONSONANT SIGN PANYAKRA;1=SUNDANESE CONSONANT SIGN PANYIKU;1=SUNDANESE VOWEL SIGN PANGHULU",
  ";1=SUNDANESE VOWEL SIGN PANYUKU;1=SUNDANESE VOWEL SIGN PANAELAENG;1=SUNDANESE VOWEL SIGN PAN",
  "OLONG;1=SUNDANESE VOWEL SIGN PAMEPET;1=SUNDANESE VOWEL SIGN PANEULEUNG;1=SUNDANESE SIGN PAMA",
  "AEH;1=SUNDANESE SIGN VIRAMA;1=SUNDANESE CONSONANT SIGN PASANGAN MA;1=SUNDANESE CONSONANT SIG",
  "N PASANGAN WA;39=BATAK SIGN TOMPI;1=BATAK VOWEL SIGN E;1=BATAK VOWEL SIGN PAKPAK E;1=BATAK V",
  "OWEL SIGN EE;1=BATAK VOWEL SIGN I;1=BATAK VOWEL SIGN KARO I;1=BATAK VOWEL SIGN O;1=BATAK VOW",
  "EL SIGN KARO O;1=BATAK VOWEL SIGN U;1=BATAK VOWEL SIGN U FOR SIMALUNGUN SA;1=BATAK CONSONANT",
  " SIGN NG;1=BATAK CONSONANT SIGN H;1=BATAK PANGOLAT;1=BATAK PANONGONAN;31=LEPCHA SUBJOINED LE",
  "TTER YA;1=LEPCHA SUBJOINED LETTER RA;1=LEPCHA VOWEL SIGN AA;1=LEPCHA VOWEL SIGN I;1=LEPCHA V",
  "OWEL SIGN O;1=LEPCHA VOWEL SIGN OO;1=LEPCHA VOWEL SIGN U;1=LEPCHA VOWEL SIGN UU;1=LEPCHA VOW",
  "EL SIGN E;1=LEPCHA CONSONANT SIGN K;1=LEPCHA CONSONANT SIGN M;1=LEPCHA CONSONANT SIGN L;1=LE",
  "PCHA CONSONANT SIGN N;1=LEPCHA CONSONANT SIGN P;1=LEPCHA CONSONANT SIGN R;1=LEPCHA CONSONANT",
  " SIGN T;1=LEPCHA CONSONANT SIGN NYIN-DO;1=LEPCHA CONSONANT SIGN KANG;1=LEPCHA SIGN RAN;1=LEP",
  "CHA SIGN NUKTA;99=VEDIC TONE KARSHANA;1=VEDIC TONE SHARA;1=VEDIC TONE PRENKHA;2=VEDIC SIGN Y",
  "AJURVEDIC MIDLINE SVARITA;1=VEDIC TONE YAJURVEDIC AGGRAVATED INDEPENDENT SVARITA;1=VEDIC TON",
  "E YAJURVEDIC INDEPENDENT SVARITA;1=VEDIC TONE YAJURVEDIC KATHAKA INDEPENDENT SVARITA;1=VEDIC",
  " TONE CANDRA BELOW;1=VEDIC TONE YAJURVEDIC KATHAKA INDEPENDENT SVARITA SCHROEDER;1=VEDIC TON",
  "E DOUBLE SVARITA;1=VEDIC TONE TRIPLE SVARITA;1=VEDIC TONE KATHAKA ANUDATTA;1=VEDIC TONE DOT ",
  "BELOW;1=VEDIC TONE TWO DOTS BELOW;1=VEDIC TONE THREE DOTS BELOW;1=VEDIC TONE RIGVEDIC KASHMI",
  "RI INDEPENDENT SVARITA;1=VEDIC TONE ATHARVAVEDIC INDEPENDENT SVARITA;1=VEDIC SIGN VISARGA SV",
  "ARITA;1=VEDIC SIGN VISARGA UDATTA;1=VEDIC SIGN REVERSED VISARGA UDATTA;1=VEDIC SIGN VISARGA ",
  "ANUDATTA;1=VEDIC SIGN REVERSED VISARGA ANUDATTA;1=VEDIC SIGN VISARGA UDATTA WITH TAIL;1=VEDI",
  "C SIGN VISARGA ANUDATTA WITH TAIL;5=VEDIC SIGN TIRYAK;7=VEDIC TONE CANDRA ABOVE;3=VEDIC SIGN",
  " ATIKRAMA;1=VEDIC TONE RING ABOVE;1=VEDIC TONE DOUBLE RING ABOVE;c7=COMBINING DOTTED GRAVE A",
  "CCENT;1=COMBINING DOTTED ACUTE ACCENT;1=COMBINING SNAKE BELOW;1=COMBINING SUSPENSION MARK;1=",
  "COMBINING MACRON-ACUTE;1=COMBINING GRAVE-MACRON;1=COMBINING MACRON-GRAVE;1=COMBINING ACUTE-M",
  "ACRON;1=COMBINING GRAVE-ACUTE-GRAVE;1=COMBINING ACUTE-GRAVE-ACUTE;1=COMBINING LATIN SMALL LE",
  "TTER R BELOW;1=COMBINING BREVE-MACRON;1=COMBINING MACRON-BREVE;1=COMBINING DOUBLE CIRCUMFLEX",
  " ABOVE;1=COMBINING OGONEK ABOVE;1=COMBINING ZIGZAG BELOW;1=COMBINING IS BELOW;1=COMBINING UR",
  " ABOVE;1=COMBINING US ABOVE;1=COMBINING LATIN SMALL LETTER FLATTENED OPEN A ABOVE;1=COMBININ",
  "G LATIN SMALL LETTER AE;1=COMBINING LATIN SMALL LETTER AO;1=COMBINING LATIN SMALL LETTER AV;",
  "1=COMBINING LATIN SMALL LETTER C CEDILLA;1=COMBINING LATIN SMALL LETTER INSULAR D;1=COMBININ",
  "G LATIN SMALL LETTER ETH;1=COMBINING LATIN SMALL LETTER G;1=COMBINING LATIN LETTER SMALL CAP",
  "ITAL G;1=COMBINING LATIN SMALL LETTER K;1=COMBINING LATIN SMALL LETTER L;1=COMBINING LATIN L",
  "ETTER SMALL CAPITAL L;1=COMBINING LATIN LETTER SMALL CAPITAL M;1=COMBINING LATIN SMALL LETTE",
  "R N;1=COMBINING LATIN LETTER SMALL CAPITAL N;1=COMBINING LATIN LETTER SMALL CAPITAL R;1=COMB",
  "INING LATIN SMALL LETTER R ROTUNDA;1=COMBINING LATIN SMALL LETTER S;1=COMBINING LATIN SMALL ",
  "LETTER LONG S;1=COMBINING LATIN SMALL LETTER Z;1=COMBINING LATIN SMALL LETTER ALPHA;1=COMBIN",
  "ING LATIN SMALL LETTER B;1=COMBINING LATIN SMALL LETTER BETA;1=COMBINING LATIN SMALL LETTER ",
  "SCHWA;1=COMBINING LATIN SMALL LETTER F;1=COMBINING LATIN SMALL LETTER L WITH DOUBLE MIDDLE T",
  "ILDE;1=COMBINING LATIN SMALL LETTER O WITH LIGHT CENTRALIZATION STROKE;1=COMBINING LATIN SMA",
  "LL LETTER P;1=COMBINING LATIN SMALL LETTER ESH;1=COMBINING LATIN SMALL LETTER U WITH LIGHT C",
  "ENTRALIZATION STROKE;1=COMBINING LATIN SMALL LETTER W;1=COMBINING LATIN SMALL LETTER A WITH ",
  "DIAERESIS;1=COMBINING LATIN SMALL LETTER O WITH DIAERESIS;1=COMBINING LATIN SMALL LETTER U W",
  "ITH DIAERESIS;1=COMBINING UP TACK ABOVE;1=COMBINING KAVYKA ABOVE RIGHT;1=COMBINING KAVYKA AB",
  "OVE LEFT;1=COMBINING DOT ABOVE LEFT;1=COMBINING WIDE INVERTED BRIDGE BELOW;1=COMBINING DOT B",
  "ELOW LEFT;1=COMBINING DELETION MARK;1=COMBINING DOUBLE INVERTED BREVE BELOW;1=COMBINING ALMO",
  "ST EQUAL TO BELOW;1=COMBINING LEFT ARROWHEAD ABOVE;1=COMBINING RIGHT ARROWHEAD AND DOWN ARRO",
  "WHEAD BELOW;201=EN QUAD;1=EM QUAD;1=EN SPACE;1=EM SPACE;1=THREE-PER-EM SPACE;1=FOUR-PER-EM S",
  "PACE;1=SIX-PER-EM SPACE;1=FIGURE SPACE;1=PUNCTUATION SPACE;1=THIN SPACE;1=HAIR SPACE;1=ZERO ",
  "WIDTH SPACE;1=ZERO WIDTH NON-JOINER;1=ZERO WIDTH JOINER;1=LEFT-TO-RIGHT MARK;1=RIGHT-TO-LEFT",
  " MARK;19=LINE SEPARATOR;1=PARAGRAPH SEPARATOR;1=LEFT-TO-RIGHT EMBEDDING;1=RIGHT-TO-LEFT EMBE",
  "DDING;1=POP DIRECTIONAL FORMATTING;1=LEFT-TO-RIGHT OVERRIDE;1=RIGHT-TO-LEFT OVERRIDE;1=NARRO",
  "W NO-BREAK SPACE;30=MEDIUM MATHEMATICAL SPACE;1=WORD JOINER;1=FUNCTION APPLICATION;1=INVISIB",
  "LE TIMES;1=INVISIBLE SEPARATOR;1=INVISIBLE PLUS;2=LEFT-TO-RIGHT ISOLATE;1=RIGHT-TO-LEFT ISOL",
  "ATE;1=FIRST STRONG ISOLATE;1=POP DIRECTIONAL ISOLATE;1=INHIBIT SYMMETRIC SWAPPING;1=ACTIVATE",
  " SYMMETRIC SWAPPING;1=INHIBIT ARABIC FORM SHAPING;1=ACTIVATE ARABIC FORM SHAPING;1=NATIONAL ",
  "DIGIT SHAPES;1=NOMINAL DIGIT SHAPES;61=COMBINING LEFT HARPOON ABOVE;1=COMBINING RIGHT HARPOO",
  "N ABOVE;1=COMBINING LONG VERTICAL LINE OVERLAY;1=COMBINING SHORT VERTICAL LINE OVERLAY;1=COM",
  "BINING ANTICLOCKWISE ARROW ABOVE;1=COMBINING CLOCKWISE ARROW ABOVE;1=COMBINING LEFT ARROW AB",
  "OVE;1=COMBINING RIGHT ARROW ABOVE;1=COMBINING RING OVERLAY;1=COMBINING CLOCKWISE RING OVERLA",
  "Y;1=COMBINING ANTICLOCKWISE RING OVERLAY;1=COMBINING THREE DOTS ABOVE;1=COMBINING FOUR DOTS ",
  "ABOVE;1=COMBINING ENCLOSING CIRCLE;1=COMBINING ENCLOSING SQUARE;1=COMBINING ENCLOSING DIAMON",
  "D;1=COMBINING ENCLOSING CIRCLE BACKSLASH;1=COMBINING LEFT RIGHT ARROW ABOVE;1=COMBINING ENCL",
  "OSING SCREEN;1=COMBINING ENCLOSING KEYCAP;1=COMBINING ENCLOSING UPWARD POINTING TRIANGLE;1=C",
  "OMBINING REVERSE SOLIDUS OVERLAY;1=COMBINING DOUBLE VERTICAL STROKE OVERLAY;1=COMBINING ANNU",
  "ITY SYMBOL;1=COMBINING TRIPLE UNDERDOT;1=COMBINING WIDE BRIDGE ABOVE;1=COMBINING LEFTWARDS A",
  "RROW OVERLAY;1=COMBINING LONG DOUBLE SOLIDUS OVERLAY;1=COMBINING RIGHTWARDS HARPOON WITH BAR",
  "B DOWNWARDS;1=COMBINING LEFTWARDS HARPOON WITH BARB DOWNWARDS;1=COMBINING LEFT ARROW BELOW;1",
  "=COMBINING RIGHT ARROW BELOW;1=COMBINING ASTERISK ABOVE;bff=COPTIC COMBINING NI ABOVE;1=COPT",
  "IC COMBINING SPIRITUS ASPER;1=COPTIC COMBINING SPIRITUS LENIS;8e=TIFINAGH CONSONANT JOINER;6",
  "1=COMBINING CYRILLIC LETTER BE;1=COMBINING CYRILLIC LETTER VE;1=COMBINING CYRILLIC LETTER GH",
  "E;1=COMBINING CYRILLIC LETTER DE;1=COMBINING CYRILLIC LETTER ZHE;1=COMBINING CYRILLIC LETTER",
  " ZE;1=COMBINING CYRILLIC LETTER KA;1=COMBINING CYRILLIC LETTER EL;1=COMBINING CYRILLIC LETTE",
  "R EM;1=COMBINING CYRILLIC LETTER EN;1=COMBINING CYRILLIC LETTER O;1=COMBINING CYRILLIC LETTE",
  "R PE;1=COMBINING CYRILLIC LETTER ER;1=COMBINING CYRILLIC LETTER ES;1=COMBINING CYRILLIC LETT",
  "ER TE;1=COMBINING CYRILLIC LETTER HA;1=COMBINING CYRILLIC LETTER TSE;1=COMBINING CYRILLIC LE",
  "TTER CHE;1=COMBINING CYRILLIC LETTER SHA;1=COMBINING CYRILLIC LETTER SHCHA;1=COMBINING CYRIL",
  "LIC LETTER FITA;1=COMBINING CYRILLIC LETTER ES-TE;1=COMBINING CYRILLIC LETTER A;1=COMBINING ",
  "CYRILLIC LETTER IE;1=COMBINING CYRILLIC LETTER DJERV;1=COMBINING CYRILLIC LETTER MONOGRAPH U",
  "K;1=COMBINING CYRILLIC LETTER YAT;1=COMBINING CYRILLIC LETTER YU;1=COMBINING CYRILLIC LETTER",
  " IOTIFIED A;1=COMBINING CYRILLIC LETTER LITTLE YUS;1=COMBINING CYRILLIC LETTER BIG YUS;1=COM",
  "BINING CYRILLIC LETTER IOTIFIED BIG YUS;201=IDEOGRAPHIC SPACE;2a=IDEOGRAPHIC LEVEL TONE MARK",
  ";1=IDEOGRAPHIC RISING TONE MARK;1=IDEOGRAPHIC DEPARTING TONE MARK;1=IDEOGRAPHIC ENTERING TON",
  "E MARK;1=HANGUL SINGLE DOT TONE MARK;1=HANGUL DOUBLE DOT TONE MARK;6a=COMBINING KATAKANA-HIR",
  "AGANA VOICED SOUND MARK;1=COMBINING KATAKANA-HIRAGANA SEMI-VOICED SOUND MARK;75d5=COMBINING ",
  "CYRILLIC VZMET;1=COMBINING CYRILLIC TEN MILLIONS SIGN;1=COMBINING CYRILLIC HUNDRED MILLIONS ",
  "SIGN;1=COMBINING CYRILLIC THOUSAND MILLIONS SIGN;2=COMBINING CYRILLIC LETTER UKRAINIAN IE;1=",
  "COMBINING CYRILLIC LETTER I;1=COMBINING CYRILLIC LETTER YI;1=COMBINING CYRILLIC LETTER U;1=C",
  "OMBINING CYRILLIC LETTER HARD SIGN;1=COMBINING CYRILLIC LETTER YERU;1=COMBINING CYRILLIC LET",
  "TER SOFT SIGN;1=COMBINING CYRILLIC LETTER OMEGA;1=COMBINING CYRILLIC KAVYKA;1=COMBINING CYRI",
  "LLIC PAYEROK;21=COMBINING CYRILLIC LETTER EF;1=COMBINING CYRILLIC LETTER IOTIFIED E;51=BAMUM",
  " COMBINING MARK KOQNDON;1=BAMUM COMBINING MARK TUKWENTIS;111=SYLOTI NAGRI SIGN DVISVARA;4=SY",
  "LOTI NAGRI SIGN HASANTA;5=SYLOTI NAGRI SIGN ANUSVARA;18=SYLOTI NAGRI VOWEL SIGN A;1=SYLOTI N",
  "AGRI VOWEL SIGN I;1=SYLOTI NAGRI VOWEL SIGN U;1=SYLOTI NAGRI VOWEL SIGN E;1=SYLOTI NAGRI VOW",
  "EL SIGN OO;5=SYLOTI NAGRI SIGN ALTERNATE HASANTA;54=SAURASHTRA SIGN ANUSVARA;1=SAURASHTRA SI",
  "GN VISARGA;33=SAURASHTRA CONSONANT SIGN HAARU;1=SAURASHTRA VOWEL SIGN AA;1=SAURASHTRA VOWEL ",
  "SIGN I;1=SAURASHTRA VOWEL SIGN II;1=SAURASHTRA VOWEL SIGN U;1=SAURASHTRA VOWEL SIGN UU;1=SAU",
  "RASHTRA VOWEL SIGN VOCALIC R;1=SAURASHTRA VOWEL SIGN VOCALIC RR;1=SAURASHTRA VOWEL SIGN VOCA",
  "LIC L;1=SAURASHTRA VOWEL SIGN VOCALIC LL;1=SAURASHTRA VOWEL SIGN E;1=SAURASHTRA VOWEL SIGN E",
  "E;1=SAURASHTRA VOWEL SIGN AI;1=SAURASHTRA VOWEL SIGN O;1=SAURASHTRA VOWEL SIGN OO;1=SAURASHT",
  "RA VOWEL SIGN AU;1=SAURASHTRA SIGN VIRAMA;1=SAURASHTRA SIGN CANDRABINDU;1b=COMBINING DEVANAG",
  "ARI DIGIT ZERO;1=COMBINING DEVANAGARI DIGIT ONE;1=COMBINING DEVANAGARI DIGIT TWO;1=COMBINING",
  " DEVANAGARI DIGIT THREE;1=COMBINING DEVANAGARI DIGIT FOUR;1=COMBINING DEVANAGARI DIGIT FIVE;",
  "1=COMBINING DEVANAGARI DIGIT SIX;1=COMBINING DEVANAGARI DIGIT SEVEN;1=COMBINING DEVANAGARI D",
  "IGIT EIGHT;1=COMBINING DEVANAGARI DIGIT NINE;1=COMBINING DEVANAGARI LETTER A;1=COMBINING DEV",
  "ANAGARI LETTER U;1=COMBINING DEVANAGARI LETTER KA;1=COMBINING DEVANAGARI LETTER NA;1=COMBINI",
  "NG DEVANAGARI LETTER PA;1=COMBINING DEVANAGARI LETTER RA;1=COMBINING DEVANAGARI LETTER VI;1=",
  "COMBINING DEVANAGARI SIGN AVAGRAHA;e=DEVANAGARI VOWEL SIGN AY;27=KAYAH LI VOWEL UE;1=KAYAH L",
  "I VOWEL E;1=KAYAH LI VOWEL U;1=KAYAH LI VOWEL EE;1=KAYAH LI VOWEL O;1=KAYAH LI TONE PLOPHU;1",
  "=KAYAH LI TONE CALYA;1=KAYAH LI TONE CALYA PLOPHU;1a=REJANG VOWEL SIGN I;1=REJANG VOWEL SIGN",
  " U;1=REJANG VOWEL SIGN E;1=REJANG VOWEL SIGN AI;1=REJANG VOWEL SIGN O;1=REJANG VOWEL SIGN AU",
  ";1=REJANG VOWEL SIGN EU;1=REJANG VOWEL SIGN EA;1=REJANG CONSONANT SIGN NG;1=REJANG CONSONANT",
  " SIGN N;1=REJANG CONSONANT SIGN R;1=REJANG CONSONANT SIGN H;1=REJANG VIRAMA;2d=JAVANESE SIGN",
  " PANYANGGA;1=JAVANESE SIGN CECAK;1=JAVANESE SIGN LAYAR;1=JAVANESE SIGN WIGNYAN;30=JAVANESE S",
  "IGN CECAK TELU;1=JAVANESE VOWEL SIGN TARUNG;1=JAVANESE VOWEL SIGN TOLONG;1=JAVANESE VOWEL SI",
  "GN WULU;1=JAVANESE VOWEL SIGN WULU MELIK;1=JAVANESE VOWEL SIGN SUKU;1=JAVANESE VOWEL SIGN SU",
  "KU MENDUT;1=JAVANESE VOWEL SIGN TALING;1=JAVANESE VOWEL SIGN DIRGA MURE;1=JAVANESE VOWEL SIG",
  "N PEPET;1=JAVANESE CONSONANT SIGN KERET;1=JAVANESE CONSONANT SIGN PENGKAL;1=JAVANESE CONSONA",
  "NT SIGN CAKRA;1=JAVANESE PANGKON;25=MYANMAR SIGN SHAN SAW;44=CHAM VOWEL SIGN AA;1=CHAM VOWEL",
  " SIGN I;1=CHAM VOWEL SIGN II;1=CHAM VOWEL SIGN EI;1=CHAM VOWEL SIGN U;1=CHAM VOWEL SIGN OE;1",
  "=CHAM VOWEL SIGN O;1=CHAM VOWEL SIGN AI;1=CHAM VOWEL SIGN AU;1=CHAM VOWEL SIGN UE;1=CHAM CON",
  "SONANT SIGN YA;1=CHAM CONSONANT SIGN RA;1=CHAM CONSONANT SIGN LA;1=CHAM CONSONANT SIGN WA;d=",
  "CHAM CONSONANT SIGN FINAL NG;9=CHAM CONSONANT SIGN FINAL M;1=CHAM CONSONANT SIGN FINAL H;2e=",
  "MYANMAR SIGN PAO KAREN TONE;1=MYANMAR SIGN TAI LAING TONE-2;1=MYANMAR SIGN TAI LAING TONE-5;",
  "33=TAI VIET MAI KANG;2=TAI VIET VOWEL I;1=TAI VIET VOWEL UE;1=TAI VIET VOWEL U;3=TAI VIET MA",
  "I KHIT;1=TAI VIET VOWEL IA;6=TAI VIET VOWEL AM;1=TAI VIET TONE MAI EK;2=TAI VIET TONE MAI TH",
  "O;2a=MEETEI MAYEK VOWEL SIGN II;1=MEETEI MAYEK VOWEL SIGN UU;1=MEETEI MAYEK VOWEL SIGN AAI;1",
  "=MEETEI MAYEK VOWEL SIGN AU;1=MEETEI MAYEK VOWEL SIGN AAU;6=MEETEI MAYEK VOWEL SIGN VISARGA;",
  "1=MEETEI MAYEK VIRAMA;ed=MEETEI MAYEK VOWEL SIGN ONAP;1=MEETEI MAYEK VOWEL SIGN INAP;1=MEETE",
  "I MAYEK VOWEL SIGN ANAP;1=MEETEI MAYEK VOWEL SIGN YENAP;1=MEETEI MAYEK VOWEL SIGN SOUNAP;1=M",
  "EETEI MAYEK VOWEL SIGN UNAP;1=MEETEI MAYEK VOWEL SIGN CHEINAP;1=MEETEI MAYEK VOWEL SIGN NUNG",
  ";2=MEETEI MAYEK LUM IYEK;1=MEETEI MAYEK APUN IYEK;4f31=HEBREW POINT JUDEO-SPANISH VARIKA;302",
  "=COMBINING LIGATURE LEFT HALF;1=COMBINING LIGATURE RIGHT HALF;1=COMBINING DOUBLE TILDE LEFT ",
  "HALF;1=COMBINING DOUBLE TILDE RIGHT HALF;1=COMBINING MACRON LEFT HALF;1=COMBINING MACRON RIG",
  "HT HALF;1=COMBINING CONJOINING MACRON;1=COMBINING LIGATURE LEFT HALF BELOW;1=COMBINING LIGAT",
  "URE RIGHT HALF BELOW;1=COMBINING TILDE LEFT HALF BELOW;1=COMBINING TILDE RIGHT HALF BELOW;1=",
  "COMBINING MACRON LEFT HALF BELOW;1=COMBINING MACRON RIGHT HALF BELOW;1=COMBINING CONJOINING ",
  "MACRON BELOW;1=COMBINING CYRILLIC TITLO LEFT HALF;1=COMBINING CYRILLIC TITLO RIGHT HALF;d0=Z",
  "ERO WIDTH NO-BREAK SPACE;fa=INTERLINEAR ANNOTATION ANCHOR;1=INTERLINEAR ANNOTATION SEPARATOR",
  ";1=INTERLINEAR ANNOTATION TERMINATOR;202=PHAISTOS DISC SIGN COMBINING OBLIQUE STROKE;e3=COPT",
  "IC EPACT THOUSANDS MARK;96=COMBINING OLD PERMIC LETTER AN;1=COMBINING OLD PERMIC LETTER DOI;",
  "1=COMBINING OLD PERMIC LETTER ZATA;1=COMBINING OLD PERMIC LETTER NENOE;1=COMBINING OLD PERMI",
  "C LETTER SII;687=KHAROSHTHI VOWEL SIGN I;1=KHAROSHTHI VOWEL SIGN U;1=KHAROSHTHI VOWEL SIGN V",
  "OCALIC R;2=KHAROSHTHI VOWEL SIGN E;1=KHAROSHTHI VOWEL SIGN O;6=KHAROSHTHI VOWEL LENGTH MARK;",
  "1=KHAROSHTHI SIGN DOUBLE RING BELOW;1=KHAROSHTHI SIGN ANUSVARA;1=KHAROSHTHI SIGN VISARGA;29=",
  "KHAROSHTHI SIGN BAR ABOVE;1=KHAROSHTHI SIGN CAUDA;1=KHAROSHTHI SIGN DOT BELOW;5=KHAROSHTHI V",
  "IRAMA;a6=MANICHAEAN ABBREVIATION MARK ABOVE;1=MANICHAEAN ABBREVIATION MARK BELOW;23e=HANIFI ",
  "ROHINGYA SIGN HARBAHAY;1=HANIFI ROHINGYA SIGN TAHALA;1=HANIFI ROHINGYA SIGN TANA;1=HANIFI RO",
  "HINGYA SIGN TASSI;184=YEZIDI COMBINING HAMZA MARK;1=YEZIDI COMBINING MADDA MARK;9a=SOGDIAN C",
  "OMBINING DOT BELOW;1=SOGDIAN COMBINING TWO DOTS BELOW;1=SOGDIAN COMBINING DOT ABOVE;1=SOGDIA",
  "N COMBINING TWO DOTS ABOVE;1=SOGDIAN COMBINING CURVE ABOVE;1=SOGDIAN COMBINING CURVE BELOW;1",
  "=SOGDIAN COMBINING HOOK ABOVE;1=SOGDIAN COMBINING HOOK BELOW;1=SOGDIAN COMBINING LONG HOOK B",
  "ELOW;1=SOGDIAN COMBINING RESH BELOW;1=SOGDIAN COMBINING STROKE BELOW;32=OLD UYGHUR COMBINING",
  " DOT ABOVE;1=OLD UYGHUR COMBINING DOT BELOW;1=OLD UYGHUR COMBINING TWO DOTS ABOVE;1=OLD UYGH",
  "UR COMBINING TWO DOTS BELOW;7b=BRAHMI SIGN CANDRABINDU;1=BRAHMI SIGN ANUSVARA;1=BRAHMI SIGN ",
  "VISARGA;36=BRAHMI VOWEL SIGN AA;1=BRAHMI VOWEL SIGN BHATTIPROLU AA;1=BRAHMI VOWEL SIGN I;1=B",
  "RAHMI VOWEL SIGN II;1=BRAHMI VOWEL SIGN U;1=BRAHMI VOWEL SIGN UU;1=BRAHMI VOWEL SIGN VOCALIC",
  " R;1=BRAHMI VOWEL SIGN VOCALIC RR;1=BRAHMI VOWEL SIGN VOCALIC L;1=BRAHMI VOWEL SIGN VOCALIC ",
  "LL;1=BRAHMI VOWEL SIGN E;1=BRAHMI VOWEL SIGN AI;1=BRAHMI VOWEL SIGN O;1=BRAHMI VOWEL SIGN AU",
  ";1=BRAHMI VIRAMA;2a=BRAHMI SIGN OLD TAMIL VIRAMA;3=BRAHMI VOWEL SIGN OLD TAMIL SHORT E;1=BRA",
  "HMI VOWEL SIGN OLD TAMIL SHORT O;b=BRAHMI NUMBER JOINER;1=KAITHI SIGN CANDRABINDU;1=KAITHI S",
  "IGN ANUSVARA;1=KAITHI SIGN VISARGA;2e=KAITHI VOWEL SIGN AA;1=KAITHI VOWEL SIGN I;1=KAITHI VO",
  "WEL SIGN II;1=KAITHI VOWEL SIGN U;1=KAITHI VOWEL SIGN UU;1=KAITHI VOWEL SIGN E;1=KAITHI VOWE",
  "L SIGN AI;1=KAITHI VOWEL SIGN O;1=KAITHI VOWEL SIGN AU;1=KAITHI SIGN VIRAMA;1=KAITHI SIGN NU",
  "KTA;3=KAITHI NUMBER SIGN;5=KAITHI VOWEL SIGN VOCALIC R;b=KAITHI NUMBER SIGN ABOVE;33=CHAKMA ",
  "SIGN CANDRABINDU;1=CHAKMA SIGN ANUSVARA;1=CHAKMA SIGN VISARGA;25=CHAKMA VOWEL SIGN A;1=CHAKM",
  "A VOWEL SIGN I;1=CHAKMA VOWEL SIGN II;1=CHAKMA VOWEL SIGN U;1=CHAKMA VOWEL SIGN UU;1=CHAKMA ",
  "VOWEL SIGN E;1=CHAKMA VOWEL SIGN AI;1=CHAKMA VOWEL SIGN O;1=CHAKMA VOWEL SIGN AU;1=CHAKMA VO",
  "WEL SIGN OI;1=CHAKMA O MARK;1=CHAKMA AU MARK;1=CHAKMA VIRAMA;1=CHAKMA MAAYYAA;11=CHAKMA VOWE",
  "L SIGN AA;1=CHAKMA VOWEL SIGN EI;2d=MAHAJANI SIGN NUKTA;d=SHARADA SIGN CANDRABINDU;1=SHARADA",
  " SIGN ANUSVARA;1=SHARADA SIGN VISARGA;31=SHARADA VOWEL SIGN AA;1=SHARADA VOWEL SIGN I;1=SHAR",
  "ADA VOWEL SIGN II;1=SHARADA VOWEL SIGN U;1=SHARADA VOWEL SIGN UU;1=SHARADA VOWEL SIGN VOCALI",
  "C R;1=SHARADA VOWEL SIGN VOCALIC RR;1=SHARADA VOWEL SIGN VOCALIC L;1=SHARADA VOWEL SIGN VOCA",
  "LIC LL;1=SHARADA VOWEL SIGN E;1=SHARADA VOWEL SIGN AI;1=SHARADA VOWEL SIGN O;1=SHARADA VOWEL",
  " SIGN AU;1=SHARADA SIGN VIRAMA;9=SHARADA SANDHI MARK;1=SHARADA SIGN NUKTA;1=SHARADA VOWEL MO",
  "DIFIER MARK;1=SHARADA EXTRA SHORT VOWEL MARK;2=SHARADA VOWEL SIGN PRISHTHAMATRA E;1=SHARADA ",
  "SIGN INVERTED CANDRABINDU;5d=KHOJKI VOWEL SIGN AA;1=KHOJKI VOWEL SIGN I;1=KHOJKI VOWEL SIGN ",
  "II;1=KHOJKI VOWEL SIGN U;1=KHOJKI VOWEL SIGN E;1=KHOJKI VOWEL SIGN AI;1=KHOJKI VOWEL SIGN O;",
  "1=KHOJKI VOWEL SIGN AU;1=KHOJKI SIGN ANUSVARA;1=KHOJKI SIGN VIRAMA;1=KHOJKI SIGN NUKTA;1=KHO",
  "JKI SIGN SHADDA;7=KHOJKI SIGN SUKUN;a1=KHUDAWADI SIGN ANUSVARA;1=KHUDAWADI VOWEL SIGN AA;1=K",
  "HUDAWADI VOWEL SIGN I;1=KHUDAWADI VOWEL SIGN II;1=KHUDAWADI VOWEL SIGN U;1=KHUDAWADI VOWEL S",
  "IGN UU;1=KHUDAWADI VOWEL SIGN E;1=KHUDAWADI VOWEL SIGN AI;1=KHUDAWADI VOWEL SIGN O;1=KHUDAWA",
  "DI VOWEL SIGN AU;1=KHUDAWADI SIGN NUKTA;1=KHUDAWADI SIGN VIRAMA;16=GRANTHA SIGN COMBINING AN",
  "USVARA ABOVE;1=GRANTHA SIGN CANDRABINDU;1=GRANTHA SIGN ANUSVARA;1=GRANTHA SIGN VISARGA;38=CO",
  "MBINING BINDU BELOW;1=GRANTHA SIGN NUKTA;2=GRANTHA VOWEL SIGN AA;1=GRANTHA VOWEL SIGN I;1=GR",
  "ANTHA VOWEL SIGN II;1=GRANTHA VOWEL SIGN U;1=GRANTHA VOWEL SIGN UU;1=GRANTHA VOWEL SIGN VOCA",
  "LIC R;1=GRANTHA VOWEL SIGN VOCALIC RR;3=GRANTHA VOWEL SIGN EE;1=GRANTHA VOWEL SIGN AI;3=GRAN",
  "THA VOWEL SIGN OO;1=GRANTHA VOWEL SIGN AU;1=GRANTHA SIGN VIRAMA;a=GRANTHA AU LENGTH MARK;b=G",
  "RANTHA VOWEL SIGN VOCALIC L;1=GRANTHA VOWEL SIGN VOCALIC LL;3=COMBINING GRANTHA DIGIT ZERO;1",
  "=COMBINING GRANTHA DIGIT ONE;1=COMBINING GRANTHA DIGIT TWO;1=COMBINING GRANTHA DIGIT THREE;1",
  "=COMBINING GRANTHA DIGIT FOUR;1=COMBINING GRANTHA DIGIT FIVE;1=COMBINING GRANTHA DIGIT SIX;4",
  "=COMBINING GRANTHA LETTER A;1=COMBINING GRANTHA LETTER KA;1=COMBINING GRANTHA LETTER NA;1=CO",
  "MBINING GRANTHA LETTER VI;1=COMBINING GRANTHA LETTER PA;c1=NEWA VOWEL SIGN AA;1=NEWA VOWEL S",
  "IGN I;1=NEWA VOWEL SIGN II;1=NEWA VOWEL SIGN U;1=NEWA VOWEL SIGN UU;1=NEWA VOWEL SIGN VOCALI",
  "C R;1=NEWA VOWEL SIGN VOCALIC RR;1=NEWA VOWEL SIGN VOCALIC L;1=NEWA VOWEL SIGN VOCALIC LL;1=",
  "NEWA VOWEL SIGN E;1=NEWA VOWEL SIGN AI;1=NEWA VOWEL SIGN O;1=NEWA VOWEL SIGN AU;1=NEWA SIGN ",
  "VIRAMA;1=NEWA SIGN CANDRABINDU;1=NEWA SIGN ANUSVARA;1=NEWA SIGN VISARGA;1=NEWA SIGN NUKTA;18",
  "=NEWA SANDHI MARK;52=TIRHUTA VOWEL SIGN AA;1=TIRHUTA VOWEL SIGN I;1=TIRHUTA VOWEL SIGN II;1=",
  "TIRHUTA VOWEL SIGN U;1=TIRHUTA VOWEL SIGN UU;1=TIRHUTA VOWEL SIGN VOCALIC R;1=TIRHUTA VOWEL ",
  "SIGN VOCALIC RR;1=TIRHUTA VOWEL SIGN VOCALIC L;1=TIRHUTA VOWEL SIGN VOCALIC LL;1=TIRHUTA VOW",
  "EL SIGN E;1=TIRHUTA VOWEL SIGN SHORT E;1=TIRHUTA VOWEL SIGN AI;1=TIRHUTA VOWEL SIGN O;1=TIRH",
  "UTA VOWEL SIGN SHORT O;1=TIRHUTA VOWEL SIGN AU;1=TIRHUTA SIGN CANDRABINDU;1=TIRHUTA SIGN ANU",
  "SVARA;1=TIRHUTA SIGN VISARGA;1=TIRHUTA SIGN VIRAMA;1=TIRHUTA SIGN NUKTA;ec=SIDDHAM VOWEL SIG",
  "N AA;1=SIDDHAM VOWEL SIGN I;1=SIDDHAM VOWEL SIGN II;1=SIDDHAM VOWEL SIGN U;1=SIDDHAM VOWEL S",
  "IGN UU;1=SIDDHAM VOWEL SIGN VOCALIC R;1=SIDDHAM VOWEL SIGN VOCALIC RR;3=SIDDHAM VOWEL SIGN E",
  ";1=SIDDHAM VOWEL SIGN AI;1=SIDDHAM VOWEL SIGN O;1=SIDDHAM VOWEL SIGN AU;1=SIDDHAM SIGN CANDR",
  "ABINDU;1=SIDDHAM SIGN ANUSVARA;1=SIDDHAM SIGN VISARGA;1=SIDDHAM SIGN VIRAMA;1=SIDDHAM SIGN N",
  "UKTA;1c=SIDDHAM VOWEL SIGN ALTERNATE U;1=SIDDHAM VOWEL SIGN ALTERNATE UU;53=MODI VOWEL SIGN ",
  "AA;1=MODI VOWEL SIGN I;1=MODI VOWEL SIGN II;1=MODI VOWEL SIGN U;1=MODI VOWEL SIGN UU;1=MODI ",
  "VOWEL SIGN VOCALIC R;1=MODI VOWEL SIGN VOCALIC RR;1=MODI VOWEL SIGN VOCALIC L;1=MODI VOWEL S",
  "IGN VOCALIC LL;1=MODI VOWEL SIGN E;1=MODI VOWEL SIGN AI;1=MODI VOWEL SIGN O;1=MODI VOWEL SIG",
  "N AU;1=MODI SIGN ANUSVARA;1=MODI SIGN VISARGA;1=MODI SIGN VIRAMA;1=MODI SIGN ARDHACANDRA;6b=",
  "TAKRI SIGN ANUSVARA;1=TAKRI SIGN VISARGA;1=TAKRI VOWEL SIGN AA;1=TAKRI VOWEL SIGN I;1=TAKRI ",
  "VOWEL SIGN II;1=TAKRI VOWEL SIGN U;1=TAKRI VOWEL SIGN UU;1=TAKRI VOWEL SIGN E;1=TAKRI VOWEL ",
  "SIGN AI;1=TAKRI VOWEL SIGN O;1=TAKRI VOWEL SIGN AU;1=TAKRI SIGN VIRAMA;1=TAKRI SIGN NUKTA;66",
  "=AHOM CONSONANT SIGN MEDIAL LA;1=AHOM CONSONANT SIGN MEDIAL RA;1=AHOM CONSONANT SIGN MEDIAL ",
  "LIGATING RA;1=AHOM VOWEL SIGN A;1=AHOM VOWEL SIGN AA;1=AHOM VOWEL SIGN I;1=AHOM VOWEL SIGN I",
  "I;1=AHOM VOWEL SIGN U;1=AHOM VOWEL SIGN UU;1=AHOM VOWEL SIGN E;1=AHOM VOWEL SIGN AW;1=AHOM V",
  "OWEL SIGN O;1=AHOM VOWEL SIGN AI;1=AHOM VOWEL SIGN AM;1=AHOM SIGN KILLER;101=DOGRA VOWEL SIG",
  "N AA;1=DOGRA VOWEL SIGN I;1=DOGRA VOWEL SIGN II;1=DOGRA VOWEL SIGN U;1=DOGRA VOWEL SIGN UU;1",
  "=DOGRA VOWEL SIGN VOCALIC R;1=DOGRA VOWEL SIGN VOCALIC RR;1=DOGRA VOWEL SIGN E;1=DOGRA VOWEL",
  " SIGN AI;1=DOGRA VOWEL SIGN O;1=DOGRA VOWEL SIGN AU;1=DOGRA SIGN ANUSVARA;1=DOGRA SIGN VISAR",
  "GA;1=DOGRA SIGN VIRAMA;1=DOGRA SIGN NUKTA;f6=DIVES AKURU VOWEL SIGN AA;1=DIVES AKURU VOWEL S",
  "IGN I;1=DIVES AKURU VOWEL SIGN II;1=DIVES AKURU VOWEL SIGN U;1=DIVES AKURU VOWEL SIGN UU;1=D",
  "IVES AKURU VOWEL SIGN E;2=DIVES AKURU VOWEL SIGN AI;1=DIVES AKURU VOWEL SIGN O;3=DIVES AKURU",
  " SIGN ANUSVARA;1=DIVES AKURU SIGN CANDRABINDU;1=DIVES AKURU SIGN HALANTA;1=DIVES AKURU VIRAM",
  "A;2=DIVES AKURU MEDIAL YA;2=DIVES AKURU MEDIAL RA;1=DIVES AKURU SIGN NUKTA;8e=NANDINAGARI VO",
  "WEL SIGN AA;1=NANDINAGARI VOWEL SIGN I;1=NANDINAGARI VOWEL SIGN II;1=NANDINAGARI VOWEL SIGN ",
  "U;1=NANDINAGARI VOWEL SIGN UU;1=NANDINAGARI VOWEL SIGN VOCALIC R;1=NANDINAGARI VOWEL SIGN VO",
  "CALIC RR;3=NANDINAGARI VOWEL SIGN E;1=NANDINAGARI VOWEL SIGN AI;1=NANDINAGARI VOWEL SIGN O;1",
  "=NANDINAGARI VOWEL SIGN AU;1=NANDINAGARI SIGN ANUSVARA;1=NANDINAGARI SIGN VISARGA;1=NANDINAG",
  "ARI SIGN VIRAMA;4=NANDINAGARI VOWEL SIGN PRISHTHAMATRA E;1d=ZANABAZAR SQUARE VOWEL SIGN I;1=",
  "ZANABAZAR SQUARE VOWEL SIGN UE;1=ZANABAZAR SQUARE VOWEL SIGN U;1=ZANABAZAR SQUARE VOWEL SIGN",
  " E;1=ZANABAZAR SQUARE VOWEL SIGN OE;1=ZANABAZAR SQUARE VOWEL SIGN O;1=ZANABAZAR SQUARE VOWEL",
  " SIGN AI;1=ZANABAZAR SQUARE VOWEL SIGN AU;1=ZANABAZAR SQUARE VOWEL SIGN REVERSED I;1=ZANABAZ",
  "AR SQUARE VOWEL LENGTH MARK;29=ZANABAZAR SQUARE FINAL CONSONANT MARK;1=ZANABAZAR SQUARE SIGN",
  " VIRAMA;1=ZANABAZAR SQUARE SIGN CANDRABINDU;1=ZANABAZAR SQUARE SIGN CANDRABINDU WITH ORNAMEN",
  "T;1=ZANABAZAR SQUARE SIGN CANDRA WITH ORNAMENT;1=ZANABAZAR SQUARE SIGN ANUSVARA;1=ZANABAZAR ",
  "SQUARE SIGN VISARGA;2=ZANABAZAR SQUARE CLUSTER-FINAL LETTER YA;1=ZANABAZAR SQUARE CLUSTER-FI",
  "NAL LETTER RA;1=ZANABAZAR SQUARE CLUSTER-FINAL LETTER LA;1=ZANABAZAR SQUARE CLUSTER-FINAL LE",
  "TTER VA;9=ZANABAZAR SQUARE SUBJOINER;a=SOYOMBO VOWEL SIGN I;1=SOYOMBO VOWEL SIGN UE;1=SOYOMB",
  "O VOWEL SIGN U;1=SOYOMBO VOWEL SIGN E;1=SOYOMBO VOWEL SIGN O;1=SOYOMBO VOWEL SIGN OE;1=SOYOM",
  "BO VOWEL SIGN AI;1=SOYOMBO VOWEL SIGN AU;1=SOYOMBO VOWEL SIGN VOCALIC R;1=SOYOMBO VOWEL SIGN",
  " VOCALIC L;1=SOYOMBO VOWEL LENGTH MARK;2f=SOYOMBO FINAL CONSONANT SIGN G;1=SOYOMBO FINAL CON",
  "SONANT SIGN K;1=SOYOMBO FINAL CONSONANT SIGN NG;1=SOYOMBO FINAL CONSONANT SIGN D;1=SOYOMBO F",
  "INAL CONSONANT SIGN N;1=SOYOMBO FINAL CONSONANT SIGN B;1=SOYOMBO FINAL CONSONANT SIGN M;1=SO",
  "YOMBO FINAL CONSONANT SIGN R;1=SOYOMBO FINAL CONSONANT SIGN L;1=SOYOMBO FINAL CONSONANT SIGN",
  " SH;1=SOYOMBO FINAL CONSONANT SIGN S;1=SOYOMBO FINAL CONSONANT SIGN -A;1=SOYOMBO SIGN ANUSVA",
  "RA;1=SOYOMBO SIGN VISARGA;1=SOYOMBO GEMINATION MARK;1=SOYOMBO SUBJOINER;196=BHAIKSUKI VOWEL ",
  "SIGN AA;1=BHAIKSUKI VOWEL SIGN I;1=BHAIKSUKI VOWEL SIGN II;1=BHAIKSUKI VOWEL SIGN U;1=BHAIKS",
  "UKI VOWEL SIGN UU;1=BHAIKSUKI VOWEL SIGN VOCALIC R;1=BHAIKSUKI VOWEL SIGN VOCALIC RR;1=BHAIK",
  "SUKI VOWEL SIGN VOCALIC L;2=BHAIKSUKI VOWEL SIGN E;1=BHAIKSUKI VOWEL SIGN AI;1=BHAIKSUKI VOW",
  "EL SIGN O;1=BHAIKSUKI VOWEL SIGN AU;1=BHAIKSUKI SIGN CANDRABINDU;1=BHAIKSUKI SIGN ANUSVARA;1",
  "=BHAIKSUKI SIGN VISARGA;1=BHAIKSUKI SIGN VIRAMA;53=MARCHEN SUBJOINED LETTER KA;1=MARCHEN SUB",
  "JOINED LETTER KHA;1=MARCHEN SUBJOINED LETTER GA;1=MARCHEN SUBJOINED LETTER NGA;1=MARCHEN SUB",
  "JOINED LETTER CA;1=MARCHEN SUBJOINED LETTER CHA;1=MARCHEN SUBJOINED LETTER JA;1=MARCHEN SUBJ",
  "OINED LETTER NYA;1=MARCHEN SUBJOINED LETTER TA;1=MARCHEN SUBJOINED LETTER THA;1=MARCHEN SUBJ",
  "OINED LETTER DA;1=MARCHEN SUBJOINED LETTER NA;1=MARCHEN SUBJOINED LETTER PA;1=MARCHEN SUBJOI",
  "NED LETTER PHA;1=MARCHEN SUBJOINED LETTER BA;1=MARCHEN SUBJOINED LETTER MA;1=MARCHEN SUBJOIN",
  "ED LETTER TSA;1=MARCHEN SUBJOINED LETTER TSHA;1=MARCHEN SUBJOINED LETTER DZA;1=MARCHEN SUBJO",
  "INED LETTER WA;1=MARCHEN SUBJOINED LETTER ZHA;1=MARCHEN SUBJOINED LETTER ZA;2=MARCHEN SUBJOI",
  "NED LETTER YA;1=MARCHEN SUBJOINED LETTER RA;1=MARCHEN SUBJOINED LETTER LA;1=MARCHEN SUBJOINE",
  "D LETTER SHA;1=MARCHEN SUBJOINED LETTER SA;1=MARCHEN SUBJOINED LETTER HA;1=MARCHEN SUBJOINED",
  " LETTER A;1=MARCHEN VOWEL SIGN AA;1=MARCHEN VOWEL SIGN I;1=MARCHEN VOWEL SIGN U;1=MARCHEN VO",
  "WEL SIGN E;1=MARCHEN VOWEL SIGN O;1=MARCHEN SIGN ANUSVARA;1=MARCHEN SIGN CANDRABINDU;7b=MASA",
  "RAM GONDI VOWEL SIGN AA;1=MASARAM GONDI VOWEL SIGN I;1=MASARAM GONDI VOWEL SIGN II;1=MASARAM",
  " GONDI VOWEL SIGN U;1=MASARAM GONDI VOWEL SIGN UU;1=MASARAM GONDI VOWEL SIGN VOCALIC R;4=MAS",
  "ARAM GONDI VOWEL SIGN E;2=MASARAM GONDI VOWEL SIGN AI;1=MASARAM GONDI VOWEL SIGN O;2=MASARAM",
  " GONDI VOWEL SIGN AU;1=MASARAM GONDI SIGN ANUSVARA;1=MASARAM GONDI SIGN VISARGA;1=MASARAM GO",
  "NDI SIGN NUKTA;1=MASARAM GONDI SIGN CANDRA;1=MASARAM GONDI SIGN HALANTA;1=MASARAM GONDI VIRA",
  "MA;2=MASARAM GONDI RA-KARA;43=GUNJALA GONDI VOWEL SIGN AA;1=GUNJALA GONDI VOWEL SIGN I;1=GUN",
  "JALA GONDI VOWEL SIGN II;1=GUNJALA GONDI VOWEL SIGN U;1=GUNJALA GONDI VOWEL SIGN UU;2=GUNJAL",
  "A GONDI VOWEL SIGN EE;1=GUNJALA GONDI VOWEL SIGN AI;2=GUNJALA GONDI VOWEL SIGN OO;1=GUNJALA ",
  "GONDI VOWEL SIGN AU;1=GUNJALA GONDI SIGN ANUSVARA;1=GUNJALA GONDI SIGN VISARGA;1=GUNJALA GON",
  "DI VIRAMA;15c=MAKASAR VOWEL SIGN I;1=MAKASAR VOWEL SIGN U;1=MAKASAR VOWEL SIGN E;1=MAKASAR V",
  "OWEL SIGN O;153a=EGYPTIAN HIEROGLYPH VERTICAL JOINER;1=EGYPTIAN HIEROGLYPH HORIZONTAL JOINER",
  ";1=EGYPTIAN HIEROGLYPH INSERT AT TOP START;1=EGYPTIAN HIEROGLYPH INSERT AT BOTTOM START;1=EG",
  "YPTIAN HIEROGLYPH INSERT AT TOP END;1=EGYPTIAN HIEROGLYPH INSERT AT BOTTOM END;1=EGYPTIAN HI",
  "EROGLYPH OVERLAY MIDDLE;1=EGYPTIAN HIEROGLYPH BEGIN SEGMENT;1=EGYPTIAN HIEROGLYPH END SEGMEN",
  "T;36b8=BASSA VAH COMBINING HIGH TONE;1=BASSA VAH COMBINING LOW TONE;1=BASSA VAH COMBINING MI",
  "D TONE;1=BASSA VAH COMBINING LOW-MID TONE;1=BASSA VAH COMBINING HIGH-LOW TONE;3c=PAHAWH HMON",
  "G MARK CIM TUB;1=PAHAWH HMONG MARK CIM SO;1=PAHAWH HMONG MARK CIM KES;1=PAHAWH HMONG MARK CI",
  "M KHAV;1=PAHAWH HMONG MARK CIM SUAM;1=PAHAWH HMONG MARK CIM HOM;1=PAHAWH HMONG MARK CIM TAUM",
  ";419=MIAO SIGN CONSONANT MODIFIER BAR;2=MIAO SIGN ASPIRATION;1=MIAO SIGN REFORMED VOICING;1=",
  "MIAO SIGN REFORMED ASPIRATION;1=MIAO VOWEL SIGN A;1=MIAO VOWEL SIGN AA;1=MIAO VOWEL SIGN AHH",
  ";1=MIAO VOWEL SIGN AN;1=MIAO VOWEL SIGN ANG;1=MIAO VOWEL SIGN O;1=MIAO VOWEL SIGN OO;1=MIAO ",
  "VOWEL SIGN WO;1=MIAO VOWEL SIGN W;1=MIAO VOWEL SIGN E;1=MIAO VOWEL SIGN EN;1=MIAO VOWEL SIGN",
  " ENG;1=MIAO VOWEL SIGN OEY;1=MIAO VOWEL SIGN I;1=MIAO VOWEL SIGN IA;1=MIAO VOWEL SIGN IAN;1=",
  "MIAO VOWEL SIGN IANG;1=MIAO VOWEL SIGN IO;1=MIAO VOWEL SIGN IE;1=MIAO VOWEL SIGN II;1=MIAO V",
  "OWEL SIGN IU;1=MIAO VOWEL SIGN ING;1=MIAO VOWEL SIGN U;1=MIAO VOWEL SIGN UA;1=MIAO VOWEL SIG",
  "N UAN;1=MIAO VOWEL SIGN UANG;1=MIAO VOWEL SIGN UU;1=MIAO VOWEL SIGN UEI;1=MIAO VOWEL SIGN UN",
  "G;1=MIAO VOWEL SIGN Y;1=MIAO VOWEL SIGN YI;1=MIAO VOWEL SIGN AE;1=MIAO VOWEL SIGN AEE;1=MIAO",
  " VOWEL SIGN ERR;1=MIAO VOWEL SIGN ROUNDED ERR;1=MIAO VOWEL SIGN ER;1=MIAO VOWEL SIGN ROUNDED",
  " ER;1=MIAO VOWEL SIGN AI;1=MIAO VOWEL SIGN EI;1=MIAO VOWEL SIGN AU;1=MIAO VOWEL SIGN OU;1=MI",
  "AO VOWEL SIGN N;1=MIAO VOWEL SIGN NG;1=MIAO VOWEL SIGN UOG;1=MIAO VOWEL SIGN YUI;1=MIAO VOWE",
  "L SIGN OG;1=MIAO VOWEL SIGN OER;1=MIAO VOWEL SIGN VW;1=MIAO VOWEL SIGN IG;1=MIAO VOWEL SIGN ",
  "EA;1=MIAO VOWEL SIGN IONG;1=MIAO VOWEL SIGN UI;8=MIAO TONE RIGHT;1=MIAO TONE TOP RIGHT;1=MIA",
  "O TONE ABOVE;1=MIAO TONE BELOW;52=KHITAN SMALL SCRIPT FILLER;c=VIETNAMESE ALTERNATE READING ",
  "MARK CA;1=VIETNAMESE ALTERNATE READING MARK NHAY;4cac=DUPLOYAN THICK LETTER SELECTOR;1=DUPLO",
  "YAN DOUBLE MARK;2=SHORTHAND FORMAT LETTER OVERLAP;1=SHORTHAND FORMAT CONTINUING OVERLAP;1=SH",
  "ORTHAND FORMAT DOWN STEP;1=SHORTHAND FORMAT UP STEP;125d=ZNAMENNY COMBINING MARK GORAZDO NIZ",
  "KO S KRYZHEM ON LEFT;1=ZNAMENNY COMBINING MARK NIZKO S KRYZHEM ON LEFT;1=ZNAMENNY COMBINING ",
  "MARK TSATA ON LEFT;1=ZNAMENNY COMBINING MARK GORAZDO NIZKO ON LEFT;1=ZNAMENNY COMBINING MARK",
  " NIZKO ON LEFT;1=ZNAMENNY COMBINING MARK SREDNE ON LEFT;1=ZNAMENNY COMBINING MARK MALO POVYS",
  "HE ON LEFT;1=ZNAMENNY COMBINING MARK POVYSHE ON LEFT;1=ZNAMENNY COMBINING MARK VYSOKO ON LEF",
  "T;1=ZNAMENNY COMBINING MARK MALO POVYSHE S KHOKHLOM ON LEFT;1=ZNAMENNY COMBINING MARK POVYSH",
  "E S KHOKHLOM ON LEFT;1=ZNAMENNY COMBINING MARK VYSOKO S KHOKHLOM ON LEFT;1=ZNAMENNY COMBININ",
  "G MARK GORAZDO NIZKO S KRYZHEM ON RIGHT;1=ZNAMENNY COMBINING MARK NIZKO S KRYZHEM ON RIGHT;1",
  "=ZNAMENNY COMBINING MARK TSATA ON RIGHT;1=ZNAMENNY COMBINING MARK GORAZDO NIZKO ON RIGHT;1=Z",
  "NAMENNY COMBINING MARK NIZKO ON RIGHT;1=ZNAMENNY COMBINING MARK SREDNE ON RIGHT;1=ZNAMENNY C",
  "OMBINING MARK MALO POVYSHE ON RIGHT;1=ZNAMENNY COMBINING MARK POVYSHE ON RIGHT;1=ZNAMENNY CO",
  "MBINING MARK VYSOKO ON RIGHT;1=ZNAMENNY COMBINING MARK MALO POVYSHE S KHOKHLOM ON RIGHT;1=ZN",
  "AMENNY COMBINING MARK POVYSHE S KHOKHLOM ON RIGHT;1=ZNAMENNY COMBINING MARK VYSOKO S KHOKHLO",
  "M ON RIGHT;1=ZNAMENNY COMBINING MARK TSATA S KRYZHEM;1=ZNAMENNY COMBINING MARK MALO POVYSHE ",
  "S KRYZHEM;1=ZNAMENNY COMBINING MARK STRANNO MALO POVYSHE;1=ZNAMENNY COMBINING MARK POVYSHE S",
  " KRYZHEM;1=ZNAMENNY COMBINING MARK POVYSHE STRANNO;1=ZNAMENNY COMBINING MARK VYSOKO S KRYZHE",
  "M;1=ZNAMENNY COMBINING MARK MALO POVYSHE STRANNO;1=ZNAMENNY COMBINING MARK GORAZDO VYSOKO;1=",
  "ZNAMENNY COMBINING MARK ZELO;1=ZNAMENNY COMBINING MARK ON;1=ZNAMENNY COMBINING MARK RAVNO;1=",
  "ZNAMENNY COMBINING MARK TIKHAYA;1=ZNAMENNY COMBINING MARK BORZAYA;1=ZNAMENNY COMBINING MARK ",
  "UDARKA;1=ZNAMENNY COMBINING MARK PODVERTKA;1=ZNAMENNY COMBINING MARK LOMKA;1=ZNAMENNY COMBIN",
  "ING MARK KUPNAYA;1=ZNAMENNY COMBINING MARK KACHKA;1=ZNAMENNY COMBINING MARK ZEVOK;1=ZNAMENNY",
  " COMBINING MARK SKOBA;1=ZNAMENNY COMBINING MARK RAZSEKA;1=ZNAMENNY COMBINING MARK KRYZH ON L",
  "EFT;3=ZNAMENNY COMBINING TONAL RANGE MARK MRACHNO;1=ZNAMENNY COMBINING TONAL RANGE MARK SVET",
  "LO;1=ZNAMENNY COMBINING TONAL RANGE MARK TRESVETLO;1=ZNAMENNY COMBINING MARK ZADERZHKA;1=ZNA",
  "MENNY COMBINING MARK DEMESTVENNY ZADERZHKA;1=ZNAMENNY COMBINING MARK OTSECHKA;1=ZNAMENNY COM",
  "BINING MARK PODCHASHIE;1=ZNAMENNY COMBINING MARK PODCHASHIE WITH VERTICAL STROKE;1=ZNAMENNY ",
  "COMBINING MARK CHASHKA;1=ZNAMENNY COMBINING MARK CHASHKA POLNAYA;1=ZNAMENNY COMBINING MARK O",
  "BLACHKO;1=ZNAMENNY COMBINING MARK SOROCHYA NOZHKA;1=ZNAMENNY COMBINING MARK TOCHKA;1=ZNAMENN",
  "Y COMBINING MARK DVOETOCHIE;1=ZNAMENNY COMBINING ATTACHING VERTICAL OMET;1=ZNAMENNY COMBININ",
  "G MARK CURVED OMET;1=ZNAMENNY COMBINING MARK KRYZH;1=ZNAMENNY COMBINING LOWER TONAL RANGE IN",
  "DICATOR;1=ZNAMENNY PRIZNAK MODIFIER LEVEL-2;1=ZNAMENNY PRIZNAK MODIFIER LEVEL-3;1=ZNAMENNY P",
  "RIZNAK MODIFIER DIRECTION FLIP;1=ZNAMENNY PRIZNAK MODIFIER KRYZH;1=ZNAMENNY PRIZNAK MODIFIER",
  " ROG;21f=MUSICAL SYMBOL COMBINING STEM;1=MUSICAL SYMBOL COMBINING SPRECHGESANG STEM;1=MUSICA",
  "L SYMBOL COMBINING TREMOLO-1;1=MUSICAL SYMBOL COMBINING TREMOLO-2;1=MUSICAL SYMBOL COMBINING",
  " TREMOLO-3;4=MUSICAL SYMBOL COMBINING AUGMENTATION DOT;1=MUSICAL SYMBOL COMBINING FLAG-1;1=M",
  "USICAL SYMBOL COMBINING FLAG-2;1=MUSICAL SYMBOL COMBINING FLAG-3;1=MUSICAL SYMBOL COMBINING ",
  "FLAG-4;1=MUSICAL SYMBOL COMBINING FLAG-5;1=MUSICAL SYMBOL BEGIN BEAM;1=MUSICAL SYMBOL END BE",
  "AM;1=MUSICAL SYMBOL BEGIN TIE;1=MUSICAL SYMBOL END TIE;1=MUSICAL SYMBOL BEGIN SLUR;1=MUSICAL",
  " SYMBOL END SLUR;1=MUSICAL SYMBOL BEGIN PHRASE;1=MUSICAL SYMBOL END PHRASE;1=MUSICAL SYMBOL ",
  "COMBINING ACCENT;1=MUSICAL SYMBOL COMBINING STACCATO;1=MUSICAL SYMBOL COMBINING TENUTO;1=MUS",
  "ICAL SYMBOL COMBINING STACCATISSIMO;1=MUSICAL SYMBOL COMBINING MARCATO;1=MUSICAL SYMBOL COMB",
  "INING MARCATO-STACCATO;1=MUSICAL SYMBOL COMBINING ACCENT-STACCATO;1=MUSICAL SYMBOL COMBINING",
  " LOURE;3=MUSICAL SYMBOL COMBINING DOIT;1=MUSICAL SYMBOL COMBINING RIP;1=MUSICAL SYMBOL COMBI",
  "NING FLIP;1=MUSICAL SYMBOL COMBINING SMEAR;1=MUSICAL SYMBOL COMBINING BEND;1=MUSICAL SYMBOL ",
  "COMBINING DOUBLE TONGUE;1=MUSICAL SYMBOL COMBINING TRIPLE TONGUE;1f=MUSICAL SYMBOL COMBINING",
  " DOWN BOW;1=MUSICAL SYMBOL COMBINING UP BOW;1=MUSICAL SYMBOL COMBINING HARMONIC;1=MUSICAL SY",
  "MBOL COMBINING SNAP PIZZICATO;95=COMBINING GREEK MUSICAL TRISEME;1=COMBINING GREEK MUSICAL T",
  "ETRASEME;1=COMBINING GREEK MUSICAL PENTASEME;7bc=SIGNWRITING HEAD RIM;1=SIGNWRITING HEAD MOV",
  "EMENT-WALLPLANE STRAIGHT;1=SIGNWRITING HEAD MOVEMENT-WALLPLANE TILT;1=SIGNWRITING HEAD MOVEM",
  "ENT-FLOORPLANE STRAIGHT;1=SIGNWRITING HEAD MOVEMENT-WALLPLANE CURVE;1=SIGNWRITING HEAD MOVEM",
  "ENT-FLOORPLANE CURVE;1=SIGNWRITING HEAD MOVEMENT CIRCLE;1=SIGNWRITING FACE DIRECTION POSITIO",
  "N NOSE FORWARD TILTING;1=SIGNWRITING FACE DIRECTION POSITION NOSE UP OR DOWN;1=SIGNWRITING F",
  "ACE DIRECTION POSITION NOSE UP OR DOWN TILTING;1=SIGNWRITING EYEBROWS STRAIGHT UP;1=SIGNWRIT",
  "ING EYEBROWS STRAIGHT NEUTRAL;1=SIGNWRITING EYEBROWS STRAIGHT DOWN;1=SIGNWRITING DREAMY EYEB",
  "ROWS NEUTRAL DOWN;1=SIGNWRITING DREAMY EYEBROWS DOWN NEUTRAL;1=SIGNWRITING DREAMY EYEBROWS U",
  "P NEUTRAL;1=SIGNWRITING DREAMY EYEBROWS NEUTRAL UP;1=SIGNWRITING FOREHEAD NEUTRAL;1=SIGNWRIT",
  "ING FOREHEAD CONTACT;1=SIGNWRITING FOREHEAD WRINKLED;1=SIGNWRITING EYES OPEN;1=SIGNWRITING E",
  "YES SQUEEZED;1=SIGNWRITING EYES CLOSED;1=SIGNWRITING EYE BLINK SINGLE;1=SIGNWRITING EYE BLIN",
  "K MULTIPLE;1=SIGNWRITING EYES HALF OPEN;1=SIGNWRITING EYES WIDE OPEN;1=SIGNWRITING EYES HALF",
  " CLOSED;1=SIGNWRITING EYES WIDENING MOVEMENT;1=SIGNWRITING EYE WINK;1=SIGNWRITING EYELASHES ",
  "UP;1=SIGNWRITING EYELASHES DOWN;1=SIGNWRITING EYELASHES FLUTTERING;1=SIGNWRITING EYEGAZE-WAL",
  "LPLANE STRAIGHT;1=SIGNWRITING EYEGAZE-WALLPLANE STRAIGHT DOUBLE;1=SIGNWRITING EYEGAZE-WALLPL",
  "ANE STRAIGHT ALTERNATING;1=SIGNWRITING EYEGAZE-FLOORPLANE STRAIGHT;1=SIGNWRITING EYEGAZE-FLO",
  "ORPLANE STRAIGHT DOUBLE;1=SIGNWRITING EYEGAZE-FLOORPLANE STRAIGHT ALTERNATING;1=SIGNWRITING ",
  "EYEGAZE-WALLPLANE CURVED;1=SIGNWRITING EYEGAZE-FLOORPLANE CURVED;1=SIGNWRITING EYEGAZE-WALLP",
  "LANE CIRCLING;1=SIGNWRITING CHEEKS PUFFED;1=SIGNWRITING CHEEKS NEUTRAL;1=SIGNWRITING CHEEKS ",
  "SUCKED;1=SIGNWRITING TENSE CHEEKS HIGH;1=SIGNWRITING TENSE CHEEKS MIDDLE;1=SIGNWRITING TENSE",
  " CHEEKS LOW;1=SIGNWRITING EARS;1=SIGNWRITING NOSE NEUTRAL;1=SIGNWRITING NOSE CONTACT;1=SIGNW",
  "RITING NOSE WRINKLES;1=SIGNWRITING NOSE WIGGLES;1=SIGNWRITING AIR BLOWING OUT;1=SIGNWRITING ",
  "AIR SUCKING IN;5=SIGNWRITING MOUTH CLOSED NEUTRAL;1=SIGNWRITING MOUTH CLOSED FORWARD;1=SIGNW",
  "RITING MOUTH CLOSED CONTACT;1=SIGNWRITING MOUTH SMILE;1=SIGNWRITING MOUTH SMILE WRINKLED;1=S",
  "IGNWRITING MOUTH SMILE OPEN;1=SIGNWRITING MOUTH FROWN;1=SIGNWRITING MOUTH FROWN WRINKLED;1=S",
  "IGNWRITING MOUTH FROWN OPEN;1=SIGNWRITING MOUTH OPEN CIRCLE;1=SIGNWRITING MOUTH OPEN FORWARD",
  ";1=SIGNWRITING MOUTH OPEN WRINKLED;1=SIGNWRITING MOUTH OPEN OVAL;1=SIGNWRITING MOUTH OPEN OV",
  "AL WRINKLED;1=SIGNWRITING MOUTH OPEN OVAL YAWN;1=SIGNWRITING MOUTH OPEN RECTANGLE;1=SIGNWRIT",
  "ING MOUTH OPEN RECTANGLE WRINKLED;1=SIGNWRITING MOUTH OPEN RECTANGLE YAWN;1=SIGNWRITING MOUT",
  "H KISS;1=SIGNWRITING MOUTH KISS FORWARD;1=SIGNWRITING MOUTH KISS WRINKLED;1=SIGNWRITING MOUT",
  "H TENSE;1=SIGNWRITING MOUTH TENSE FORWARD;1=SIGNWRITING MOUTH TENSE SUCKED;1=SIGNWRITING LIP",
  "S PRESSED TOGETHER;1=SIGNWRITING LIP LOWER OVER UPPER;1=SIGNWRITING LIP UPPER OVER LOWER;1=S",
  "IGNWRITING MOUTH CORNERS;1=SIGNWRITING MOUTH WRINKLES SINGLE;1=SIGNWRITING MOUTH WRINKLES DO",
  "UBLE;1=SIGNWRITING TONGUE STICKING OUT FAR;1=SIGNWRITING TONGUE LICKING LIPS;1=SIGNWRITING T",
  "ONGUE TIP BETWEEN LIPS;1=SIGNWRITING TONGUE TIP TOUCHING INSIDE MOUTH;1=SIGNWRITING TONGUE I",
  "NSIDE MOUTH RELAXED;1=SIGNWRITING TONGUE MOVES AGAINST CHEEK;1=SIGNWRITING TONGUE CENTRE STI",
  "CKING OUT;1=SIGNWRITING TONGUE CENTRE INSIDE MOUTH;1=SIGNWRITING TEETH;1=SIGNWRITING TEETH M",
  "OVEMENT;1=SIGNWRITING TEETH ON TONGUE;1=SIGNWRITING TEETH ON TONGUE MOVEMENT;1=SIGNWRITING T",
  "EETH ON LIPS;1=SIGNWRITING TEETH ON LIPS MOVEMENT;1=SIGNWRITING TEETH BITE LIPS;1=SIGNWRITIN",
  "G MOVEMENT-WALLPLANE JAW;1=SIGNWRITING MOVEMENT-FLOORPLANE JAW;1=SIGNWRITING NECK;1=SIGNWRIT",
  "ING HAIR;1=SIGNWRITING EXCITEMENT;9=SIGNWRITING UPPER BODY TILTING FROM HIP JOINTS;f=SIGNWRI",
  "TING LOCATION HEAD NECK;17=SIGNWRITING FILL MODIFIER-2;1=SIGNWRITING FILL MODIFIER-3;1=SIGNW",
  "RITING FILL MODIFIER-4;1=SIGNWRITING FILL MODIFIER-5;1=SIGNWRITING FILL MODIFIER-6;2=SIGNWRI",
  "TING ROTATION MODIFIER-2;1=SIGNWRITING ROTATION MODIFIER-3;1=SIGNWRITING ROTATION MODIFIER-4",
  ";1=SIGNWRITING ROTATION MODIFIER-5;1=SIGNWRITING ROTATION MODIFIER-6;1=SIGNWRITING ROTATION ",
  "MODIFIER-7;1=SIGNWRITING ROTATION MODIFIER-8;1=SIGNWRITING ROTATION MODIFIER-9;1=SIGNWRITING",
  " ROTATION MODIFIER-10;1=SIGNWRITING ROTATION MODIFIER-11;1=SIGNWRITING ROTATION MODIFIER-12;",
  "1=SIGNWRITING ROTATION MODIFIER-13;1=SIGNWRITING ROTATION MODIFIER-14;1=SIGNWRITING ROTATION",
  " MODIFIER-15;1=SIGNWRITING ROTATION MODIFIER-16;551=COMBINING GLAGOLITIC LETTER AZU;1=COMBIN",
  "ING GLAGOLITIC LETTER BUKY;1=COMBINING GLAGOLITIC LETTER VEDE;1=COMBINING GLAGOLITIC LETTER ",
  "GLAGOLI;1=COMBINING GLAGOLITIC LETTER DOBRO;1=COMBINING GLAGOLITIC LETTER YESTU;1=COMBINING ",
  "GLAGOLITIC LETTER ZHIVETE;2=COMBINING GLAGOLITIC LETTER ZEMLJA;1=COMBINING GLAGOLITIC LETTER",
  " IZHE;1=COMBINING GLAGOLITIC LETTER INITIAL IZHE;1=COMBINING GLAGOLITIC LETTER I;1=COMBINING",
  " GLAGOLITIC LETTER DJERVI;1=COMBINING GLAGOLITIC LETTER KAKO;1=COMBINING GLAGOLITIC LETTER L",
  "JUDIJE;1=COMBINING GLAGOLITIC LETTER MYSLITE;1=COMBINING GLAGOLITIC LETTER NASHI;1=COMBINING",
  " GLAGOLITIC LETTER ONU;1=COMBINING GLAGOLITIC LETTER POKOJI;1=COMBINING GLAGOLITIC LETTER RI",
  "TSI;1=COMBINING GLAGOLITIC LETTER SLOVO;1=COMBINING GLAGOLITIC LETTER TVRIDO;1=COMBINING GLA",
  "GOLITIC LETTER UKU;1=COMBINING GLAGOLITIC LETTER FRITU;1=COMBINING GLAGOLITIC LETTER HERU;3=",
  "COMBINING GLAGOLITIC LETTER SHTA;1=COMBINING GLAGOLITIC LETTER TSI;1=COMBINING GLAGOLITIC LE",
  "TTER CHRIVI;1=COMBINING GLAGOLITIC LETTER SHA;1=COMBINING GLAGOLITIC LETTER YERU;1=COMBINING",
  " GLAGOLITIC LETTER YERI;1=COMBINING GLAGOLITIC LETTER YATI;2=COMBINING GLAGOLITIC LETTER YU;",
  "1=COMBINING GLAGOLITIC LETTER SMALL YUS;2=COMBINING GLAGOLITIC LETTER YO;1=COMBINING GLAGOLI",
  "TIC LETTER IOTATED SMALL YUS;1=COMBINING GLAGOLITIC LETTER BIG YUS;1=COMBINING GLAGOLITIC LE",
  "TTER IOTATED BIG YUS;1=COMBINING GLAGOLITIC LETTER FITA;106=NYIAKENG PUACHUE HMONG TONE-B;1=",
  "NYIAKENG PUACHUE HMONG TONE-M;1=NYIAKENG PUACHUE HMONG TONE-J;1=NYIAKENG PUACHUE HMONG TONE-",
  "V;1=NYIAKENG PUACHUE HMONG TONE-S;1=NYIAKENG PUACHUE HMONG TONE-G;1=NYIAKENG PUACHUE HMONG T",
  "ONE-D;178=TOTO SIGN RISING TONE;3e=WANCHO TONE TUP;1=WANCHO TONE TUPNI;1=WANCHO TONE KOI;1=W",
  "ANCHO TONE KOINI;5e1=MENDE KIKAKUI COMBINING NUMBER TEENS;1=MENDE KIKAKUI COMBINING NUMBER T",
  "ENS;1=MENDE KIKAKUI COMBINING NUMBER HUNDREDS;1=MENDE KIKAKUI COMBINING NUMBER THOUSANDS;1=M",
  "ENDE KIKAKUI COMBINING NUMBER TEN THOUSANDS;1=MENDE KIKAKUI COMBINING NUMBER HUNDRED THOUSAN",
  "DS;1=MENDE KIKAKUI COMBINING NUMBER MILLIONS;6e=ADLAM ALIF LENGTHENER;1=ADLAM VOWEL LENGTHEN",
  "ER;1=ADLAM GEMINATION MARK;1=ADLAM HAMZA;1=ADLAM CONSONANT MODIFIER;1=ADLAM GEMINATE CONSONA",
  "NT MODIFIER;1=ADLAM NUKTA;c16b7=LANGUAGE TAG;1f=TAG SPACE;1=TAG EXCLAMATION MARK;1=TAG QUOTA",
  "TION MARK;1=TAG NUMBER SIGN;1=TAG DOLLAR SIGN;1=TAG PERCENT SIGN;1=TAG AMPERSAND;1=TAG APOST",
  "ROPHE;1=TAG LEFT PARENTHESIS;1=TAG RIGHT PARENTHESIS;1=TAG ASTERISK;1=TAG PLUS SIGN;1=TAG CO",
  "MMA;1=TAG HYPHEN-MINUS;1=TAG FULL STOP;1=TAG SOLIDUS;1=TAG DIGIT ZERO;1=TAG DIGIT ONE;1=TAG ",
  "DIGIT TWO;1=TAG DIGIT THREE;1=TAG DIGIT FOUR;1=TAG DIGIT FIVE;1=TAG DIGIT SIX;1=TAG DIGIT SE",
  "VEN;1=TAG DIGIT EIGHT;1=TAG DIGIT NINE;1=TAG COLON;1=TAG SEMICOLON;1=TAG LESS-THAN SIGN;1=TA",
  "G EQUALS SIGN;1=TAG GREATER-THAN SIGN;1=TAG QUESTION MARK;1=TAG COMMERCIAL AT;1=TAG LATIN CA",
  "PITAL LETTER A;1=TAG LATIN CAPITAL LETTER B;1=TAG LATIN CAPITAL LETTER C;1=TAG LATIN CAPITAL",
  " LETTER D;1=TAG LATIN CAPITAL LETTER E;1=TAG LATIN CAPITAL LETTER F;1=TAG LATIN CAPITAL LETT",
  "ER G;1=TAG LATIN CAPITAL LETTER H;1=TAG LATIN CAPITAL LETTER I;1=TAG LATIN CAPITAL LETTER J;",
  "1=TAG LATIN CAPITAL LETTER K;1=TAG LATIN CAPITAL LETTER L;1=TAG LATIN CAPITAL LETTER M;1=TAG",
  " LATIN CAPITAL LETTER N;1=TAG LATIN CAPITAL LETTER O;1=TAG LATIN CAPITAL LETTER P;1=TAG LATI",
  "N CAPITAL LETTER Q;1=TAG LATIN CAPITAL LETTER R;1=TAG LATIN CAPITAL LETTER S;1=TAG LATIN CAP",
  "ITAL LETTER T;1=TAG LATIN CAPITAL LETTER U;1=TAG LATIN CAPITAL LETTER V;1=TAG LATIN CAPITAL ",
  "LETTER W;1=TAG LATIN CAPITAL LETTER X;1=TAG LATIN CAPITAL LETTER Y;1=TAG LATIN CAPITAL LETTE",
  "R Z;1=TAG LEFT SQUARE BRACKET;1=TAG REVERSE SOLIDUS;1=TAG RIGHT SQUARE BRACKET;1=TAG CIRCUMF",
  "LEX ACCENT;1=TAG LOW LINE;1=TAG GRAVE ACCENT;1=TAG LATIN SMALL LETTER A;1=TAG LATIN SMALL LE",
  "TTER B;1=TAG LATIN SMALL LETTER C;1=TAG LATIN SMALL LETTER D;1=TAG LATIN SMALL LETTER E;1=TA",
  "G LATIN SMALL LETTER F;1=TAG LATIN SMALL LETTER G;1=TAG LATIN SMALL LETTER H;1=TAG LATIN SMA",
  "LL LETTER I;1=TAG LATIN SMALL LETTER J;1=TAG LATIN SMALL LETTER K;1=TAG LATIN SMALL LETTER L",
  ";1=TAG LATIN SMALL LETTER M;1=TAG LATIN SMALL LETTER N;1=TAG LATIN SMALL LETTER O;1=TAG LATI",
  "N SMALL LETTER P;1=TAG LATIN SMALL LETTER Q;1=TAG LATIN SMALL LETTER R;1=TAG LATIN SMALL LET",
  "TER S;1=TAG LATIN SMALL LETTER T;1=TAG LATIN SMALL LETTER U;1=TAG LATIN SMALL LETTER V;1=TAG",
  " LATIN SMALL LETTER W;1=TAG LATIN SMALL LETTER X;1=TAG LATIN SMALL LETTER Y;1=TAG LATIN SMAL",
  "L LETTER Z;1=TAG LEFT CURLY BRACKET;1=TAG VERTICAL LINE;1=TAG RIGHT CURLY BRACKET;1=TAG TILD",
  "E;1=CANCEL TAG;"]

/-- Reads entries of a distance and a name; `last` is the code point before, `number` the distance
so far, and `name` the name so far, last character first, once it has begun. -/
def namesAfter (last number : Nat) (name : Option (List Char)) (done : Array (Nat × String)) :
    List Char → Array (Nat × String)
  | [] => done
  | c :: cs =>
    match name with
    | none =>
      if c = '=' then namesAfter last number (some []) done cs
      else namesAfter last (16 * number + (hexDigitValue? c).getD 0) none done cs
    | some word =>
      if c = ';' then
        namesAfter (last + number) 0 none
          (done.push (last + number, String.ofList word.reverse)) cs
      else namesAfter last number (some (c :: word)) done cs

/-- The names by code point. -/
def names : Array (Nat × String) := namesAfter 0 0 none #[] namesText.toList

/-- The number of a variation selector. -/
def variation? (n : Nat) : Option Nat :=
  if 0xFE00 ≤ n ∧ n ≤ 0xFE0F then some (n - 0xFE00 + 1)
  else if 0xE0100 ≤ n ∧ n ≤ 0xE01EF then some (n - 0xE0100 + 17)
  else none

/-- The name of a mark, a space, a separator or a format character. -/
def name? (c : Char) : Option String :=
  match variation? c.toNat with
  | some n => some ("VARIATION SELECTOR-" ++ String.ofList (Number.digits n))
  | none => (names.find? (·.1 = c.toNat)).map (·.2)

end Weblog.Text
