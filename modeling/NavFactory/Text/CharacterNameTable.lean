/-!
# Names of characters

The names that Unicode 14 gives to single characters.  A row holds the code point of its first name and then the
names of successive code points, separated by semicolons.  Of a name only the words that differ from the name before
it are written, behind one digit for the number of words that both start with and one for the number that both end
with.  Ideographs and syllables, whose names follow a rule, are not listed.
-/

namespace NavFactory.Text

private def characterNameRows1 : List String := [
  "20;00SPACE;00EXCLAMATION MARK;01QUOTATION;00NUMBER SIGN;01DOLLAR;01PERCENT;00AMPERSAND;00APOSTROPHE",
  "28;00LEFT PARENTHESIS;01RIGHT;00ASTERISK;00PLUS SIGN;00COMMA;00HYPHEN-MINUS;00FULL STOP;00SOLIDUS",
  "30;00DIGIT ZERO;10ONE;10TWO;10THREE;10FOUR;10FIVE;10SIX;10SEVEN;10EIGHT;10NINE;00COLON;00SEMICOLON",
  "3C;00LESS-THAN SIGN;01EQUALS;01GREATER-THAN;00QUESTION MARK;00COMMERCIAL AT;00LATIN CAPITAL LETTER A;30B",
  "43;30C;30D;30E;30F;30G;30H;30I;30J;30K;30L;30M;30N;30O;30P;30Q;30R;30S;30T;30U;30V;30W;30X;30Y;30Z",
  "5B;00LEFT SQUARE BRACKET;00REVERSE SOLIDUS;00RIGHT SQUARE BRACKET;00CIRCUMFLEX ACCENT;00LOW LINE",
  "60;00GRAVE ACCENT;00LATIN SMALL LETTER A;30B;30C;30D;30E;30F;30G;30H;30I;30J;30K;30L;30M;30N;30O;30P;30Q",
  "72;30R;30S;30T;30U;30V;30W;30X;30Y;30Z;00LEFT CURLY BRACKET;00VERTICAL LINE;00RIGHT CURLY BRACKET",
  "7E;00TILDE",
  "A0;00NO-BREAK SPACE;00INVERTED EXCLAMATION MARK;00CENT SIGN;01POUND;01CURRENCY;01YEN;00BROKEN BAR",
  "A7;00SECTION SIGN;00DIAERESIS;00COPYRIGHT SIGN;00FEMININE ORDINAL INDICATOR",
  "AB;00LEFT-POINTING DOUBLE ANGLE QUOTATION MARK;00NOT SIGN;00SOFT HYPHEN;00REGISTERED SIGN;00MACRON",
  "B0;00DEGREE SIGN;01PLUS-MINUS;00SUPERSCRIPT TWO;10THREE;00ACUTE ACCENT;00MICRO SIGN;01PILCROW",
  "B7;00MIDDLE DOT;00CEDILLA;00SUPERSCRIPT ONE;00MASCULINE ORDINAL INDICATOR",
  "BB;00RIGHT-POINTING DOUBLE ANGLE QUOTATION MARK;00VULGAR FRACTION ONE QUARTER;30HALF;20THREE QUARTERS",
  "BF;00INVERTED QUESTION MARK;00LATIN CAPITAL LETTER A WITH GRAVE;50ACUTE;50CIRCUMFLEX;50TILDE;50DIAERESIS",
  "C5;50RING ABOVE;30AE;30C WITH CEDILLA;30E WITH GRAVE;50ACUTE;50CIRCUMFLEX;50DIAERESIS;30I WITH GRAVE",
  "CD;50ACUTE;50CIRCUMFLEX;50DIAERESIS;30ETH;30N WITH TILDE;30O WITH GRAVE;50ACUTE;50CIRCUMFLEX;50TILDE",
  "D6;50DIAERESIS;00MULTIPLICATION SIGN;00LATIN CAPITAL LETTER O WITH STROKE;30U WITH GRAVE;50ACUTE",
  "DB;50CIRCUMFLEX;50DIAERESIS;30Y WITH ACUTE;30THORN;10SMALL LETTER SHARP S;30A WITH GRAVE;50ACUTE",
  "E2;50CIRCUMFLEX;50TILDE;50DIAERESIS;50RING ABOVE;30AE;30C WITH CEDILLA;30E WITH GRAVE;50ACUTE",
  "EA;50CIRCUMFLEX;50DIAERESIS;30I WITH GRAVE;50ACUTE;50CIRCUMFLEX;50DIAERESIS;30ETH;30N WITH TILDE",
  "F2;30O WITH GRAVE;50ACUTE;50CIRCUMFLEX;50TILDE;50DIAERESIS;00DIVISION SIGN",
  "F8;00LATIN SMALL LETTER O WITH STROKE;30U WITH GRAVE;50ACUTE;50CIRCUMFLEX;50DIAERESIS;30Y WITH ACUTE",
  "FE;30THORN;30Y WITH DIAERESIS;10CAPITAL LETTER A WITH MACRON;14SMALL;10CAPITAL LETTER A WITH BREVE",
  "103;14SMALL;10CAPITAL LETTER A WITH OGONEK;14SMALL;10CAPITAL LETTER C WITH ACUTE;14SMALL",
  "108;10CAPITAL LETTER C WITH CIRCUMFLEX;14SMALL;10CAPITAL LETTER C WITH DOT ABOVE;15SMALL",
  "10C;10CAPITAL LETTER C WITH CARON;14SMALL;12CAPITAL LETTER D;14SMALL;10CAPITAL LETTER D WITH STROKE",
  "111;14SMALL;10CAPITAL LETTER E WITH MACRON;14SMALL;10CAPITAL LETTER E WITH BREVE;14SMALL",
  "116;10CAPITAL LETTER E WITH DOT ABOVE;15SMALL;10CAPITAL LETTER E WITH OGONEK;14SMALL",
  "11A;10CAPITAL LETTER E WITH CARON;14SMALL;10CAPITAL LETTER G WITH CIRCUMFLEX;14SMALL",
  "11E;10CAPITAL LETTER G WITH BREVE;14SMALL;10CAPITAL LETTER G WITH DOT ABOVE;15SMALL",
  "122;10CAPITAL LETTER G WITH CEDILLA;14SMALL;10CAPITAL LETTER H WITH CIRCUMFLEX;14SMALL",
  "126;10CAPITAL LETTER H WITH STROKE;14SMALL;10CAPITAL LETTER I WITH TILDE;14SMALL",
  "12A;10CAPITAL LETTER I WITH MACRON;14SMALL;10CAPITAL LETTER I WITH BREVE;14SMALL",
  "12E;10CAPITAL LETTER I WITH OGONEK;14SMALL;10CAPITAL LETTER I WITH DOT ABOVE;10SMALL LETTER DOTLESS I",
  "132;10CAPITAL LIGATURE IJ;12SMALL;10CAPITAL LETTER J WITH CIRCUMFLEX;14SMALL",
  "136;10CAPITAL LETTER K WITH CEDILLA;14SMALL;30KRA;10CAPITAL LETTER L WITH ACUTE;14SMALL",
  "13B;10CAPITAL LETTER L WITH CEDILLA;14SMALL;10CAPITAL LETTER L WITH CARON;14SMALL",
  "13F;10CAPITAL LETTER L WITH MIDDLE DOT;15SMALL;10CAPITAL LETTER L WITH STROKE;14SMALL",
  "143;10CAPITAL LETTER N WITH ACUTE;14SMALL;10CAPITAL LETTER N WITH CEDILLA;14SMALL",
  "147;10CAPITAL LETTER N WITH CARON;14SMALL;40PRECEDED BY APOSTROPHE;10CAPITAL LETTER ENG;12SMALL",
  "14C;10CAPITAL LETTER O WITH MACRON;14SMALL;10CAPITAL LETTER O WITH BREVE;14SMALL",
  "150;10CAPITAL LETTER O WITH DOUBLE ACUTE;15SMALL;10CAPITAL LIGATURE OE;12SMALL",
  "154;10CAPITAL LETTER R WITH ACUTE;14SMALL;10CAPITAL LETTER R WITH CEDILLA;14SMALL",
  "158;10CAPITAL LETTER R WITH CARON;14SMALL;10CAPITAL LETTER S WITH ACUTE;14SMALL",
  "15C;10CAPITAL LETTER S WITH CIRCUMFLEX;14SMALL;10CAPITAL LETTER S WITH CEDILLA;14SMALL",
  "160;10CAPITAL LETTER S WITH CARON;14SMALL;10CAPITAL LETTER T WITH CEDILLA;14SMALL",
  "164;10CAPITAL LETTER T WITH CARON;14SMALL;10CAPITAL LETTER T WITH STROKE;14SMALL",
  "168;10CAPITAL LETTER U WITH TILDE;14SMALL;10CAPITAL LETTER U WITH MACRON;14SMALL",
  "16C;10CAPITAL LETTER U WITH BREVE;14SMALL;10CAPITAL LETTER U WITH RING ABOVE;15SMALL",
  "170;10CAPITAL LETTER U WITH DOUBLE ACUTE;15SMALL;10CAPITAL LETTER U WITH OGONEK;14SMALL",
  "174;10CAPITAL LETTER W WITH CIRCUMFLEX;14SMALL;12CAPITAL LETTER Y;14SMALL",
  "178;10CAPITAL LETTER Y WITH DIAERESIS;30Z WITH ACUTE;14SMALL;10CAPITAL LETTER Z WITH DOT ABOVE;15SMALL",
  "17D;10CAPITAL LETTER Z WITH CARON;14SMALL;30LONG S;30B WITH STROKE;10CAPITAL LETTER B WITH HOOK;50TOPBAR",
  "183;14SMALL;10CAPITAL LETTER TONE SIX;13SMALL;10CAPITAL LETTER OPEN O;30C WITH HOOK;14SMALL",
  "189;10CAPITAL LETTER AFRICAN D;30D WITH HOOK;50TOPBAR;14SMALL;30TURNED DELTA;10CAPITAL LETTER REVERSED E",
  "18F;30SCHWA;30OPEN E;30F WITH HOOK;14SMALL;12CAPITAL LETTER G;30GAMMA;10SMALL LETTER HV",
  "196;10CAPITAL LETTER IOTA;30I WITH STROKE;30K WITH HOOK;14SMALL;30L WITH BAR;30LAMBDA WITH STROKE",
  "19C;10CAPITAL LETTER TURNED M;30N WITH LEFT HOOK;10SMALL LETTER N WITH LONG RIGHT LEG",
  "19F;10CAPITAL LETTER O WITH MIDDLE TILDE;50HORN;14SMALL;10CAPITAL LETTER OI;12SMALL",
  "1A4;10CAPITAL LETTER P WITH HOOK;14SMALL;10LETTER YR;10CAPITAL LETTER TONE TWO;13SMALL",
  "1A9;10CAPITAL LETTER ESH;10LETTER REVERSED ESH LOOP;10SMALL LETTER T WITH PALATAL HOOK",
  "1AC;11CAPITAL LETTER T WITH;14SMALL;11CAPITAL LETTER T WITH RETROFLEX;30U WITH HORN;14SMALL",
  "1B1;10CAPITAL LETTER UPSILON;30V WITH HOOK;32Y;14SMALL;10CAPITAL LETTER Z WITH STROKE;14SMALL",
  "1B7;10CAPITAL LETTER EZH;40REVERSED;13SMALL;40WITH TAIL;10LETTER TWO WITH STROKE",
  "1BC;10CAPITAL LETTER TONE FIVE;13SMALL;10LETTER INVERTED GLOTTAL STOP WITH STROKE;20WYNN;20DENTAL CLICK",
  "1C1;21LATERAL;21ALVEOLAR;21RETROFLEX;10CAPITAL LETTER DZ WITH CARON;32D WITH SMALL LETTER Z",
  "1C6;12SMALL LETTER DZ;10CAPITAL LETTER LJ;30L WITH SMALL LETTER J;10SMALL LETTER LJ;10CAPITAL LETTER NJ",
  "1CB;30N WITH SMALL LETTER J;10SMALL LETTER NJ;10CAPITAL LETTER A WITH CARON;14SMALL;12CAPITAL LETTER I",
  "1D0;14SMALL;12CAPITAL LETTER O;14SMALL;12CAPITAL LETTER U;14SMALL",
  "1D5;10CAPITAL LETTER U WITH DIAERESIS AND MACRON;16SMALL;10CAPITAL LETTER U WITH DIAERESIS AND ACUTE",
  "1D8;16SMALL;10CAPITAL LETTER U WITH DIAERESIS AND CARON;16SMALL",
  "1DB;10CAPITAL LETTER U WITH DIAERESIS AND GRAVE;16SMALL;30TURNED E",
  "1DE;10CAPITAL LETTER A WITH DIAERESIS AND MACRON;16SMALL;12CAPITAL LETTER A WITH DOT ABOVE;17SMALL",
  "1E2;11CAPITAL LETTER AE WITH;14SMALL;10CAPITAL LETTER G WITH STROKE;14SMALL",
  "1E6;10CAPITAL LETTER G WITH CARON;14SMALL;12CAPITAL LETTER K;14SMALL;10CAPITAL LETTER O WITH OGONEK",
  "1EB;14SMALL;10CAPITAL LETTER O WITH OGONEK AND MACRON;16SMALL;10CAPITAL LETTER EZH WITH CARON;14SMALL",
  "1F0;32J;10CAPITAL LETTER DZ;30D WITH SMALL LETTER Z;10SMALL LETTER DZ;10CAPITAL LETTER G WITH ACUTE",
  "1F5;14SMALL;10CAPITAL LETTER HWAIR;30WYNN;30N WITH GRAVE;14SMALL",
  "1FA;10CAPITAL LETTER A WITH RING ABOVE AND ACUTE;17SMALL;11CAPITAL LETTER AE WITH;14SMALL",
  "1FE;11CAPITAL LETTER O WITH STROKE AND;16SMALL;10CAPITAL LETTER A WITH DOUBLE GRAVE;15SMALL",
  "202;10CAPITAL LETTER A WITH INVERTED BREVE;15SMALL;10CAPITAL LETTER E WITH DOUBLE GRAVE;15SMALL",
  "206;10CAPITAL LETTER E WITH INVERTED BREVE;15SMALL;10CAPITAL LETTER I WITH DOUBLE GRAVE;15SMALL",
  "20A;10CAPITAL LETTER I WITH INVERTED BREVE;15SMALL;10CAPITAL LETTER O WITH DOUBLE GRAVE;15SMALL",
  "20E;10CAPITAL LETTER O WITH INVERTED BREVE;15SMALL;10CAPITAL LETTER R WITH DOUBLE GRAVE;15SMALL",
  "212;10CAPITAL LETTER R WITH INVERTED BREVE;15SMALL;10CAPITAL LETTER U WITH DOUBLE GRAVE;15SMALL",
  "216;10CAPITAL LETTER U WITH INVERTED BREVE;15SMALL;10CAPITAL LETTER S WITH COMMA BELOW;15SMALL",
  "21A;13CAPITAL LETTER T;15SMALL;10CAPITAL LETTER YOGH;12SMALL;10CAPITAL LETTER H WITH CARON;14SMALL",
  "220;10CAPITAL LETTER N WITH LONG RIGHT LEG;10SMALL LETTER D WITH CURL;10CAPITAL LETTER OU;12SMALL",
  "224;10CAPITAL LETTER Z WITH HOOK;14SMALL;10CAPITAL LETTER A WITH DOT ABOVE;15SMALL",
  "228;10CAPITAL LETTER E WITH CEDILLA;14SMALL;10CAPITAL LETTER O WITH DIAERESIS AND MACRON;16SMALL",
  "22C;12CAPITAL LETTER O WITH TILDE;16SMALL;10CAPITAL LETTER O WITH DOT ABOVE;15SMALL",
  "230;10CAPITAL LETTER O WITH DOT ABOVE AND MACRON;17SMALL;11CAPITAL LETTER Y WITH;14SMALL;30L WITH CURL",
  "235;32N;32T;30DOTLESS J;30DB DIGRAPH;31QP;10CAPITAL LETTER A WITH STROKE;32C;14SMALL",
  "23D;10CAPITAL LETTER L WITH BAR;30T WITH DIAGONAL STROKE;10SMALL LETTER S WITH SWASH TAIL;33Z",
  "241;10CAPITAL LETTER GLOTTAL STOP;13SMALL;10CAPITAL LETTER B WITH STROKE;30U BAR;30TURNED V",
  "246;30E WITH STROKE;14SMALL;12CAPITAL LETTER J;14SMALL;10CAPITAL LETTER SMALL Q WITH HOOK TAIL",
  "24B;14SMALL LETTER;10CAPITAL LETTER R WITH STROKE;14SMALL;12CAPITAL LETTER Y;14SMALL;30TURNED A;30ALPHA",
  "252;31TURNED;30B WITH HOOK;30OPEN O;30C WITH CURL;30D WITH TAIL;50HOOK;30REVERSED E;30SCHWA;40WITH HOOK",
  "25B;30OPEN E;32REVERSED;60WITH HOOK;30CLOSED REVERSED OPEN E;30DOTLESS J WITH STROKE;30G WITH HOOK",
  "261;30SCRIPT G;11LETTER SMALL CAPITAL;10SMALL LETTER GAMMA;30RAMS HORN;30TURNED H;30H WITH HOOK;32HENG",
  "268;30I WITH STROKE;30IOTA;10LETTER SMALL CAPITAL I;10SMALL LETTER L WITH MIDDLE TILDE;50BELT",
  "26D;50RETROFLEX HOOK;30LEZH;30TURNED M;50WITH LONG LEG;30M WITH HOOK;31N WITH LEFT;51RETROFLEX",
  "274;10LETTER SMALL CAPITAL N;10SMALL LETTER BARRED O;10LETTER SMALL CAPITAL OE",
  "277;10SMALL LETTER CLOSED OMEGA;30PHI;30TURNED R;50WITH LONG LEG;60HOOK;30R WITH LONG LEG;50TAIL",
  "27E;50FISHHOOK;33REVERSED;10LETTER SMALL CAPITAL R;41INVERTED;10SMALL LETTER S WITH HOOK;30ESH",
  "284;30DOTLESS J WITH STROKE AND HOOK;30SQUAT REVERSED ESH;30ESH WITH CURL;30TURNED T",
  "288;30T WITH RETROFLEX HOOK;30U BAR;30UPSILON;30V WITH HOOK;30TURNED V;40W;40Y;11LETTER SMALL CAPITAL",
  "290;10SMALL LETTER Z WITH RETROFLEX HOOK;50CURL;30EZH;40WITH CURL;10LETTER GLOTTAL STOP",
  "295;20PHARYNGEAL VOICED FRICATIVE;20INVERTED GLOTTAL STOP;20STRETCHED C;20BILABIAL CLICK",
  "299;20SMALL CAPITAL B;10SMALL LETTER CLOSED OPEN E;10LETTER SMALL CAPITAL G WITH HOOK;40H",
  "29D;10SMALL LETTER J WITH CROSSED-TAIL;30TURNED K;10LETTER SMALL CAPITAL L;10SMALL LETTER Q WITH HOOK",
  "2A1;10LETTER GLOTTAL STOP WITH STROKE;24REVERSED;10SMALL LETTER DZ DIGRAPH;31DEZH;30DZ DIGRAPH WITH CURL",
  "2A6;30TS DIGRAPH;31TESH;30TC DIGRAPH WITH CURL;30FENG DIGRAPH;31LS;31LZ;10LETTER BILABIAL PERCUSSIVE",
  "2AD;21BIDENTAL;10SMALL LETTER TURNED H WITH FISHHOOK;70AND TAIL;00MODIFIER LETTER SMALL H;40WITH HOOK",
  "2B2;30J;30R;31TURNED;50WITH HOOK;30CAPITAL INVERTED R;30W;30Y;20PRIME;21DOUBLE;20TURNED COMMA",
  "2BC;20APOSTROPHE;20REVERSED COMMA;20RIGHT HALF RING;22LEFT;20GLOTTAL STOP;22REVERSED;20LEFT ARROWHEAD",
  "2C3;21RIGHT;21UP;21DOWN;20CIRCUMFLEX ACCENT;00CARON;00MODIFIER LETTER VERTICAL LINE;20MACRON",
  "2CA;20ACUTE ACCENT;21GRAVE;20LOW VERTICAL LINE;30MACRON;30GRAVE ACCENT;31ACUTE;20TRIANGULAR COLON;22HALF",
  "2D2;20CENTRED RIGHT HALF RING;32LEFT;20UP TACK;21DOWN;20PLUS SIGN;21MINUS;00BREVE;00DOT ABOVE;01RING",
  "2DB;00OGONEK;00SMALL TILDE;00DOUBLE ACUTE ACCENT;00MODIFIER LETTER RHOTIC HOOK;20CROSS ACCENT",
  "2E0;20SMALL GAMMA;30L;30S;30X;30REVERSED GLOTTAL STOP;20EXTRA-HIGH TONE BAR;22HIGH;22MID;22LOW",
  "2E9;22EXTRA-LOW;20YIN DEPARTING TONE MARK;23YANG;20VOICING;20UNASPIRATED;20DOUBLE APOSTROPHE",
  "2EF;20LOW DOWN ARROWHEAD;31UP;31LEFT;31RIGHT;30RING;20MIDDLE GRAVE ACCENT;32DOUBLE;41ACUTE;20LOW TILDE",
  "2F8;20RAISED COLON;20BEGIN HIGH TONE;22END;21BEGIN LOW;22END;20SHELF;21OPEN;20LOW LEFT ARROW",
  "300;00COMBINING GRAVE ACCENT;11ACUTE;11CIRCUMFLEX;10TILDE;10MACRON;10OVERLINE;10BREVE;10DOT ABOVE",
  "308;10DIAERESIS;10HOOK ABOVE;11RING;10DOUBLE ACUTE ACCENT;10CARON;10VERTICAL LINE ABOVE;13DOUBLE",
  "30F;20GRAVE ACCENT;10CANDRABINDU;10INVERTED BREVE;10TURNED COMMA ABOVE;12;12REVERSED;10COMMA ABOVE RIGHT",
  "316;10GRAVE ACCENT BELOW;12ACUTE;11LEFT TACK;12RIGHT;10LEFT ANGLE ABOVE;10HORN;10LEFT HALF RING BELOW",
  "31D;11UP TACK;12DOWN;11PLUS SIGN;12MINUS;11PALATALIZED HOOK;12RETROFLEX;11DOT;11DIAERESIS;11RING;11COMMA",
  "327;10CEDILLA;10OGONEK;10VERTICAL LINE BELOW;11BRIDGE;11INVERTED DOUBLE ARCH;11CARON;11CIRCUMFLEX ACCENT",
  "32E;11BREVE;12INVERTED;11TILDE;11MACRON;10LOW LINE;12DOUBLE;10TILDE OVERLAY;11SHORT STROKE;12LONG",
  "337;11SHORT SOLIDUS;12LONG;10RIGHT HALF RING BELOW;11INVERTED BRIDGE;11SQUARE;11SEAGULL;10X ABOVE",
  "33E;10VERTICAL TILDE;10DOUBLE OVERLINE;10GRAVE TONE MARK;12ACUTE;10GREEK PERISPOMENI;20KORONIS",
  "344;20DIALYTIKA TONOS;20YPOGEGRAMMENI;10BRIDGE ABOVE;10EQUALS SIGN BELOW;11DOUBLE VERTICAL LINE",
  "349;11LEFT ANGLE;10NOT TILDE ABOVE;11HOMOTHETIC;11ALMOST EQUAL TO;10LEFT RIGHT ARROW BELOW;12UPWARDS",
  "34F;10GRAPHEME JOINER;10RIGHT ARROWHEAD ABOVE;11LEFT HALF RING;10FERMATA;10X BELOW;11LEFT ARROWHEAD",
  "355;12RIGHT;31AND UP ARROWHEAD;20HALF RING ABOVE;10DOT ABOVE RIGHT;10ASTERISK BELOW;11DOUBLE RING",
  "35B;10ZIGZAG ABOVE;10DOUBLE BREVE BELOW;30;20MACRON;30BELOW;20TILDE;20INVERTED BREVE",
  "362;20RIGHTWARDS ARROW BELOW;10LATIN SMALL LETTER A;40E;40I;40O;40U;40C;40D;40H;40M;40R;40T;40V;40X",
  "370;00GREEK CAPITAL LETTER HETA;12SMALL;10CAPITAL LETTER ARCHAIC SAMPI;13SMALL;10NUMERAL SIGN;12LOWER",
  "376;10CAPITAL LETTER PAMPHYLIAN DIGAMMA;13SMALL",
  "37A;10YPOGEGRAMMENI;10SMALL REVERSED LUNATE SIGMA SYMBOL;23DOTTED;24REVERSED;10QUESTION MARK",
  "37F;10CAPITAL LETTER YOT",
  "384;10TONOS;11DIALYTIKA;11CAPITAL LETTER ALPHA WITH;10ANO TELEIA;10CAPITAL LETTER EPSILON WITH TONOS",
  "389;32ETA;32IOTA",
  "38C;32OMICRON",
  "38E;32UPSILON;32OMEGA;11SMALL LETTER IOTA WITH DIALYTIKA AND;10CAPITAL LETTER ALPHA;30BETA;30GAMMA",
  "394;30DELTA;30EPSILON;30ZETA;30ETA;30THETA;30IOTA;30KAPPA;30LAMDA;30MU;30NU;30XI;30OMICRON;30PI;30RHO",
  "3A3;30SIGMA;30TAU;30UPSILON;30PHI;30CHI;30PSI;30OMEGA;30IOTA WITH DIALYTIKA;32UPSILON",
  "3AC;10SMALL LETTER ALPHA WITH TONOS;32EPSILON;32ETA;32IOTA;31UPSILON WITH DIALYTIKA AND;30ALPHA;30BETA",
  "3B3;30GAMMA;30DELTA;30EPSILON;30ZETA;30ETA;30THETA;30IOTA;30KAPPA;30LAMDA;30MU;30NU;30XI;30OMICRON;30PI",
  "3C1;30RHO;30FINAL SIGMA;31;30TAU;30UPSILON;30PHI;30CHI;30PSI;30OMEGA;30IOTA WITH DIALYTIKA;32UPSILON",
  "3CC;30OMICRON WITH TONOS;32UPSILON;32OMEGA;10CAPITAL KAI SYMBOL;11BETA;11THETA;11UPSILON WITH HOOK",
  "3D3;32ACUTE AND;33DIAERESIS;11PHI;11PI;11KAI;10LETTER ARCHAIC KOPPA;13SMALL;10LETTER STIGMA;12SMALL",
  "3DC;10LETTER DIGAMMA;12SMALL;10LETTER KOPPA;12SMALL;10LETTER SAMPI;12SMALL;00COPTIC CAPITAL LETTER SHEI",
  "3E3;12SMALL;10CAPITAL LETTER FEI;12SMALL;10CAPITAL LETTER KHEI;12SMALL;10CAPITAL LETTER HORI;12SMALL",
  "3EA;10CAPITAL LETTER GANGIA;12SMALL;10CAPITAL LETTER SHIMA;12SMALL;10CAPITAL LETTER DEI;12SMALL",
  "3F0;00GREEK KAPPA SYMBOL;11RHO;11LUNATE SIGMA;10LETTER YOT;10CAPITAL THETA SYMBOL;11LUNATE EPSILON"]

private def characterNameRows2 : List String := [
  "3F6;13REVERSED;10CAPITAL LETTER SHO;12SMALL;10CAPITAL LUNATE SIGMA SYMBOL;20LETTER SAN;12SMALL",
  "3FC;10RHO WITH STROKE SYMBOL;11CAPITAL REVERSED LUNATE SIGMA;23DOTTED;24REVERSED",
  "400;00CYRILLIC CAPITAL LETTER IE WITH GRAVE;30IO;30DJE;30GJE;30UKRAINIAN IE;30DZE",
  "406;30BYELORUSSIAN-UKRAINIAN I;30YI;30JE;30LJE;30NJE;30TSHE;30KJE;30I WITH GRAVE;30SHORT U;30DZHE;30A",
  "411;30BE;30VE;30GHE;30DE;30IE;30ZHE;30ZE;30I;31SHORT;30KA;30EL;30EM;30EN;30O;30PE;30ER;30ES;30TE;30U",
  "424;30EF;30HA;30TSE;30CHE;30SHA;30SHCHA;30HARD SIGN;30YERU;30SOFT SIGN;30E;30YU;30YA;10SMALL LETTER A",
  "431;30BE;30VE;30GHE;30DE;30IE;30ZHE;30ZE;30I;31SHORT;30KA;30EL;30EM;30EN;30O;30PE;30ER;30ES;30TE;30U",
  "444;30EF;30HA;30TSE;30CHE;30SHA;30SHCHA;30HARD SIGN;30YERU;30SOFT SIGN;30E;30YU;30YA;30IE WITH GRAVE",
  "451;30IO;30DJE;30GJE;30UKRAINIAN IE;30DZE;30BYELORUSSIAN-UKRAINIAN I;30YI;30JE;30LJE;30NJE;30TSHE;30KJE",
  "45D;30I WITH GRAVE;30SHORT U;30DZHE;10CAPITAL LETTER OMEGA;12SMALL;10CAPITAL LETTER YAT;12SMALL",
  "464;10CAPITAL LETTER IOTIFIED E;13SMALL;10CAPITAL LETTER LITTLE YUS;13SMALL;12CAPITAL LETTER IOTIFIED",
  "469;14SMALL;11CAPITAL LETTER BIG;13SMALL;12CAPITAL LETTER IOTIFIED;14SMALL;10CAPITAL LETTER KSI;12SMALL",
  "470;10CAPITAL LETTER PSI;12SMALL;10CAPITAL LETTER FITA;12SMALL;10CAPITAL LETTER IZHITSA;12SMALL",
  "476;10CAPITAL LETTER IZHITSA WITH DOUBLE GRAVE ACCENT;16SMALL;10CAPITAL LETTER UK;12SMALL",
  "47A;10CAPITAL LETTER ROUND OMEGA;13SMALL;10CAPITAL LETTER OMEGA WITH TITLO;14SMALL;10CAPITAL LETTER OT",
  "47F;12SMALL;10CAPITAL LETTER KOPPA;12SMALL;10THOUSANDS SIGN;00COMBINING CYRILLIC TITLO;20PALATALIZATION",
  "485;20DASIA PNEUMATA;21PSILI;20POKRYTIE;20HUNDRED THOUSANDS SIGN;21MILLIONS",
  "48A;00CYRILLIC CAPITAL LETTER SHORT I WITH TAIL;15SMALL;10CAPITAL LETTER SEMISOFT SIGN;13SMALL",
  "48E;10CAPITAL LETTER ER WITH TICK;14SMALL;10CAPITAL LETTER GHE WITH UPTURN;14SMALL",
  "492;10CAPITAL LETTER GHE WITH STROKE;14SMALL;10CAPITAL LETTER GHE WITH MIDDLE HOOK;15SMALL",
  "496;10CAPITAL LETTER ZHE WITH DESCENDER;14SMALL;12CAPITAL LETTER ZE;14SMALL;12CAPITAL LETTER KA;14SMALL",
  "49C;10CAPITAL LETTER KA WITH VERTICAL STROKE;15SMALL;11CAPITAL LETTER KA WITH;14SMALL",
  "4A0;10CAPITAL LETTER BASHKIR KA;13SMALL;10CAPITAL LETTER EN WITH DESCENDER;14SMALL",
  "4A4;10CAPITAL LIGATURE EN GHE;13SMALL;10CAPITAL LETTER PE WITH MIDDLE HOOK;15SMALL",
  "4A8;10CAPITAL LETTER ABKHASIAN HA;13SMALL;10CAPITAL LETTER ES WITH DESCENDER;14SMALL;12CAPITAL LETTER TE",
  "4AD;14SMALL;10CAPITAL LETTER STRAIGHT U;13SMALL;10CAPITAL LETTER STRAIGHT U WITH STROKE;15SMALL",
  "4B2;10CAPITAL LETTER HA WITH DESCENDER;14SMALL;10CAPITAL LIGATURE TE TSE;13SMALL",
  "4B6;10CAPITAL LETTER CHE WITH DESCENDER;14SMALL;10CAPITAL LETTER CHE WITH VERTICAL STROKE;15SMALL",
  "4BA;10CAPITAL LETTER SHHA;12SMALL;10CAPITAL LETTER ABKHASIAN CHE;13SMALL",
  "4BE;10CAPITAL LETTER ABKHASIAN CHE WITH DESCENDER;15SMALL;10LETTER PALOCHKA",
  "4C1;10CAPITAL LETTER ZHE WITH BREVE;14SMALL;10CAPITAL LETTER KA WITH HOOK;14SMALL",
  "4C5;10CAPITAL LETTER EL WITH TAIL;14SMALL;10CAPITAL LETTER EN WITH HOOK;14SMALL",
  "4C9;10CAPITAL LETTER EN WITH TAIL;14SMALL;10CAPITAL LETTER KHAKASSIAN CHE;13SMALL",
  "4CD;10CAPITAL LETTER EM WITH TAIL;14SMALL;30PALOCHKA;10CAPITAL LETTER A WITH BREVE;14SMALL",
  "4D2;10CAPITAL LETTER A WITH DIAERESIS;14SMALL;10CAPITAL LIGATURE A IE;13SMALL",
  "4D6;10CAPITAL LETTER IE WITH BREVE;14SMALL;10CAPITAL LETTER SCHWA;12SMALL",
  "4DA;10CAPITAL LETTER SCHWA WITH DIAERESIS;14SMALL;12CAPITAL LETTER ZHE;14SMALL;12CAPITAL LETTER ZE",
  "4DF;14SMALL;10CAPITAL LETTER ABKHASIAN DZE;13SMALL;10CAPITAL LETTER I WITH MACRON;14SMALL",
  "4E4;10CAPITAL LETTER I WITH DIAERESIS;14SMALL;12CAPITAL LETTER O;14SMALL;10CAPITAL LETTER BARRED O",
  "4E9;13SMALL;10CAPITAL LETTER BARRED O WITH DIAERESIS;15SMALL;12CAPITAL LETTER E;14SMALL",
  "4EE;10CAPITAL LETTER U WITH MACRON;14SMALL;10CAPITAL LETTER U WITH DIAERESIS;14SMALL",
  "4F2;10CAPITAL LETTER U WITH DOUBLE ACUTE;15SMALL;10CAPITAL LETTER CHE WITH DIAERESIS;14SMALL",
  "4F6;10CAPITAL LETTER GHE WITH DESCENDER;14SMALL;10CAPITAL LETTER YERU WITH DIAERESIS;14SMALL",
  "4FA;10CAPITAL LETTER GHE WITH STROKE AND HOOK;16SMALL;11CAPITAL LETTER HA WITH;14SMALL",
  "4FE;10CAPITAL LETTER HA WITH STROKE;14SMALL;10CAPITAL LETTER KOMI DE;13SMALL;10CAPITAL LETTER KOMI DJE",
  "503;13SMALL;10CAPITAL LETTER KOMI ZJE;13SMALL;10CAPITAL LETTER KOMI DZJE;13SMALL",
  "508;10CAPITAL LETTER KOMI LJE;13SMALL;10CAPITAL LETTER KOMI NJE;13SMALL;10CAPITAL LETTER KOMI SJE",
  "50D;13SMALL;10CAPITAL LETTER KOMI TJE;13SMALL;10CAPITAL LETTER REVERSED ZE;13SMALL",
  "512;10CAPITAL LETTER EL WITH HOOK;14SMALL;10CAPITAL LETTER LHA;12SMALL;10CAPITAL LETTER RHA;12SMALL",
  "518;10CAPITAL LETTER YAE;12SMALL;10CAPITAL LETTER QA;12SMALL;10CAPITAL LETTER WE;12SMALL",
  "51E;10CAPITAL LETTER ALEUT KA;13SMALL;10CAPITAL LETTER EL WITH MIDDLE HOOK;15SMALL;13CAPITAL LETTER EN",
  "523;15SMALL;10CAPITAL LETTER PE WITH DESCENDER;14SMALL;12CAPITAL LETTER SHHA;14SMALL",
  "528;10CAPITAL LETTER EN WITH LEFT HOOK;15SMALL;10CAPITAL LETTER DZZHE;12SMALL;10CAPITAL LETTER DCHE",
  "52D;12SMALL;10CAPITAL LETTER EL WITH DESCENDER;14SMALL",
  "531;00ARMENIAN CAPITAL LETTER AYB;30BEN;30GIM;30DA;30ECH;30ZA;30EH;30ET;30TO;30ZHE;30INI;30LIWN;30XEH",
  "53E;30CA;30KEN;30HO;30JA;30GHAD;30CHEH;30MEN;30YI;30NOW;30SHA;30VO;30CHA;30PEH;30JHEH;30RA;30SEH;30VEW",
  "54F;30TIWN;30REH;30CO;30YIWN;30PIWR;30KEH;30OH;30FEH",
  "559;10MODIFIER LETTER LEFT HALF RING;10APOSTROPHE;10EMPHASIS MARK;11EXCLAMATION;10COMMA;10QUESTION MARK",
  "55F;11ABBREVIATION;10SMALL LETTER TURNED AYB;31;30BEN;30GIM;30DA;30ECH;30ZA;30EH;30ET;30TO;30ZHE;30INI",
  "56C;30LIWN;30XEH;30CA;30KEN;30HO;30JA;30GHAD;30CHEH;30MEN;30YI;30NOW;30SHA;30VO;30CHA;30PEH;30JHEH;30RA",
  "57D;30SEH;30VEW;30TIWN;30REH;30CO;30YIWN;30PIWR;30KEH;30OH;30FEH;20LIGATURE ECH YIWN",
  "588;20LETTER YI WITH STROKE;10FULL STOP;10HYPHEN",
  "58D;00RIGHT-FACING ARMENIAN ETERNITY SIGN;03LEFT-FACING;01ARMENIAN DRAM",
  "591;00HEBREW ACCENT ETNAHTA;20SEGOL;20SHALSHELET;20ZAQEF QATAN;30GADOL;20TIPEHA;20REVIA;20ZARQA;20PASHTA",
  "59A;20YETIV;20TEVIR;20GERESH;30MUQDAM;20GERSHAYIM;20QARNEY PARA;20TELISHA GEDOLA;20PAZER;20ATNAH HAFUKH",
  "5A3;20MUNAH;20MAHAPAKH;20MERKHA;30KEFULA;20DARGA;20QADMA;20TELISHA QETANA;20YERAH BEN YOMO;20OLE;20ILUY",
  "5AD;20DEHI;20ZINOR;10MARK MASORA CIRCLE;10POINT SHEVA;20HATAF SEGOL;30PATAH;30QAMATS;20HIRIQ;20TSERE",
  "5B6;20SEGOL;20PATAH;20QAMATS;20HOLAM;30HASER FOR VAV;20QUBUTS;20DAGESH OR MAPIQ;20METEG",
  "5BE;10PUNCTUATION MAQAF;10POINT RAFE;10PUNCTUATION PASEQ;10POINT SHIN DOT;21SIN;10PUNCTUATION SOF PASUQ",
  "5C4;10MARK UPPER DOT;21LOWER;10PUNCTUATION NUN HAFUKHA;10POINT QAMATS QATAN",
  "5D0;10LETTER ALEF;20BET;20GIMEL;20DALET;20HE;20VAV;20ZAYIN;20HET;20TET;20YOD;20FINAL KAF;21;20LAMED",
  "5DD;20FINAL MEM;21;20FINAL NUN;21;20SAMEKH;20AYIN;20FINAL PE;21;20FINAL TSADI;21;20QOF;20RESH;20SHIN",
  "5EA;20TAV",
  "5EF;10YOD TRIANGLE;10LIGATURE YIDDISH DOUBLE VAV;30VAV YOD;31DOUBLE;10PUNCTUATION GERESH;20GERSHAYIM",
  "600;00ARABIC NUMBER SIGN;10SIGN SANAH;10FOOTNOTE MARKER;10SIGN SAFHA;20SAMVAT;10NUMBER MARK ABOVE",
  "606;00ARABIC-INDIC CUBE ROOT;11FOURTH;00ARABIC RAY;00ARABIC-INDIC PER MILLE SIGN;21TEN THOUSAND",
  "60B;01AFGHANI;00ARABIC COMMA;10DATE SEPARATOR;10POETIC VERSE SIGN;10SIGN MISRA",
  "610;20SALLALLAHOU ALAYHE WASSALLAM;20ALAYHE ASSALLAM;20RAHMATULLAH ALAYHE;20RADI ALLAHOU ANHU",
  "614;20TAKHALLUS;10SMALL HIGH TAH;30LIGATURE ALEF WITH LAM WITH YEH;30ZAIN;20FATHA;20DAMMA;20KASRA",
  "61B;10SEMICOLON;10LETTER MARK;11END OF TEXT;11TRIPLE DOT PUNCTUATION;11QUESTION;10LETTER KASHMIRI YEH",
  "621;20HAMZA;20ALEF WITH MADDA ABOVE;41HAMZA;23WAW;20ALEF WITH HAMZA BELOW;20YEH WITH HAMZA ABOVE;20ALEF",
  "628;20BEH;20TEH MARBUTA;30;20THEH;20JEEM;20HAH;20KHAH;20DAL;20THAL;20REH;20ZAIN;20SEEN;20SHEEN;20SAD",
  "636;20DAD;20TAH;20ZAH;20AIN;20GHAIN;20KEHEH WITH TWO DOTS ABOVE;40THREE DOTS BELOW",
  "63D;20FARSI YEH WITH INVERTED V;50TWO DOTS ABOVE;52THREE;10TATWEEL;10LETTER FEH;20QAF;20KAF;20LAM;20MEEM",
  "646;20NOON;20HEH;20WAW;20ALEF MAKSURA;20YEH;10FATHATAN;10DAMMATAN;10KASRATAN;10FATHA;10DAMMA;10KASRA",
  "651;10SHADDA;10SUKUN;10MADDAH ABOVE;11HAMZA;20BELOW;10SUBSCRIPT ALEF;10INVERTED DAMMA;10MARK NOON GHUNNA",
  "659;10ZWARAKAY;10VOWEL SIGN SMALL V ABOVE;33INVERTED;30DOT BELOW;10REVERSED DAMMA;10FATHA WITH TWO DOTS",
  "65F;10WAVY HAMZA BELOW;00ARABIC-INDIC DIGIT ZERO;20ONE;20TWO;20THREE;20FOUR;20FIVE;20SIX;20SEVEN;20EIGHT",
  "669;20NINE;00ARABIC PERCENT SIGN;10DECIMAL SEPARATOR;11THOUSANDS;10FIVE POINTED STAR",
  "66E;10LETTER DOTLESS BEH;30QAF;20SUPERSCRIPT ALEF;20ALEF WASLA;30WITH WAVY HAMZA ABOVE;60BELOW",
  "674;20HIGH HAMZA;40ALEF;40WAW;20U WITH HAMZA ABOVE;20HIGH HAMZA YEH;20TTEH;20TTEHEH;20BEEH",
  "67C;20TEH WITH RING;40THREE DOTS ABOVE DOWNWARDS;20PEH;20TEHEH;20BEHEH;20HAH WITH HAMZA ABOVE",
  "682;41TWO DOTS VERTICAL;20NYEH;20DYEH;20HAH WITH THREE DOTS ABOVE;20TCHEH;20TCHEHEH;20DDAL",
  "689;20DAL WITH RING;40DOT BELOW;60AND SMALL TAH;20DAHAL;20DDAHAL;20DUL",
  "68F;20DAL WITH THREE DOTS ABOVE DOWNWARDS;40FOUR DOTS ABOVE;20RREH;20REH WITH SMALL V;40RING;40DOT BELOW",
  "695;41SMALL V;40DOT BELOW AND DOT ABOVE;41TWO DOTS;20JEH;20REH WITH FOUR DOTS ABOVE",
  "69A;21SEEN WITH DOT BELOW AND DOT;40THREE DOTS BELOW;70AND THREE DOTS ABOVE;20SAD WITH TWO DOTS BELOW",
  "69E;40THREE DOTS ABOVE;24TAH;24AIN;20DOTLESS FEH;20FEH WITH DOT MOVED BELOW;51;20VEH",
  "6A5;20FEH WITH THREE DOTS BELOW;20PEHEH;20QAF WITH DOT ABOVE;41THREE DOTS;20KEHEH;20SWASH KAF",
  "6AB;20KAF WITH RING;40DOT ABOVE;20NG;20KAF WITH THREE DOTS BELOW;20GAF;30WITH RING;20NGOEH",
  "6B2;20GAF WITH TWO DOTS BELOW;20GUEH;20GAF WITH THREE DOTS ABOVE;20LAM WITH SMALL V;40DOT ABOVE",
  "6B7;41THREE DOTS;60BELOW;21NOON WITH DOT;30GHUNNA;20RNOON;20NOON WITH RING;40THREE DOTS ABOVE",
  "6BE;20HEH DOACHASHMEE;20TCHEH WITH DOT ABOVE;21HEH WITH YEH;30GOAL;40WITH HAMZA ABOVE;20TEH MARBUTA GOAL",
  "6C4;20WAW WITH RING;20KIRGHIZ OE;21;20U;20YU;21KIRGHIZ;20WAW WITH TWO DOTS ABOVE;20VE;20FARSI YEH",
  "6CD;20YEH WITH TAIL;40SMALL V;20WAW WITH DOT ABOVE;20E;20YEH WITH THREE DOTS BELOW;30BARREE",
  "6D3;40WITH HAMZA ABOVE;10FULL STOP;10LETTER AE;10SMALL HIGH LIGATURE SAD WITH LAM WITH ALEF MAKSURA",
  "6D7;45QAF;30MEEM INITIAL FORM;30LAM ALEF;30JEEM;30THREE DOTS;30SEEN;10END OF AYAH;10START OF RUB EL HIZB",
  "6DF;10SMALL HIGH ROUNDED ZERO;31UPRIGHT RECTANGULAR;30DOTLESS HEAD OF KHAH;30MEEM ISOLATED FORM",
  "6E3;20LOW SEEN;20HIGH MADDA;20WAW;20YEH;21HIGH;30NOON;10PLACE OF SAJDAH;10EMPTY CENTRE LOW STOP;31HIGH",
  "6EC;10ROUNDED HIGH STOP WITH FILLED CENTRE;10SMALL LOW MEEM;10LETTER DAL WITH INVERTED V;23REH",
  "6F0;00EXTENDED ARABIC-INDIC DIGIT ZERO;30ONE;30TWO;30THREE;30FOUR;30FIVE;30SIX;30SEVEN;30EIGHT;30NINE",
  "6FA;00ARABIC LETTER SHEEN WITH DOT BELOW;23DAD;23GHAIN;10SIGN SINDHI AMPERSAND;30POSTPOSITION MEN",
  "6FF;10LETTER HEH WITH INVERTED V;00SYRIAC END OF PARAGRAPH;10SUPRALINEAR FULL STOP;12SUBLINEAR",
  "703;10SUPRALINEAR COLON;11SUBLINEAR;11HORIZONTAL;10COLON SKEWED LEFT;30RIGHT",
  "708;10SUPRALINEAR COLON SKEWED LEFT;10SUBLINEAR COLON SKEWED RIGHT;10CONTRACTION;10HARKLEAN OBELUS",
  "70C;20METOBELUS;20ASTERISCUS",
  "70F;10ABBREVIATION MARK;10LETTER ALAPH;21SUPERSCRIPT;20BETH;20GAMAL;30GARSHUNI;20DALATH",
  "716;20DOTLESS DALATH RISH;20HE;20WAW;20ZAIN;20HETH;20TETH;30GARSHUNI;20YUDH;30HE;20KAPH;20LAMADH;20MIM",
  "722;20NUN;20SEMKATH;21FINAL;20E;20PE;21REVERSED;20SADHE;20QAPH;20RISH;20SHIN;20TAW;20PERSIAN BHETH",
  "72E;30GHAMAL;30DHALATH;10PTHAHA ABOVE;20BELOW;20DOTTED;10ZQAPHA ABOVE;20BELOW;20DOTTED;10RBASA ABOVE",
  "737;20BELOW;10DOTTED ZLAMA HORIZONTAL;30ANGULAR;10HBASA ABOVE;20BELOW;10HBASA-ESASA DOTTED;10ESASA ABOVE",
  "73E;20BELOW;10RWAHA;10FEMININE DOT;10QUSHSHAYA;10RUKKAKHA;10TWO VERTICAL DOTS ABOVE;40BELOW",
  "745;10THREE DOTS ABOVE;30BELOW;10OBLIQUE LINE ABOVE;30BELOW;10MUSIC;10BARREKH",
  "74D;10LETTER SOGDIAN ZHAIN;30KHAPH;30FE;00ARABIC LETTER BEH WITH THREE DOTS HORIZONTALLY BELOW",
  "751;40DOT BELOW AND THREE DOTS ABOVE;40THREE DOTS POINTING UPWARDS BELOW;90AND TWO DOTS ABOVE",
  "754;41TWO DOTS BELOW AND DOT;40INVERTED SMALL V BELOW;40SMALL V;20HAH WITH TWO DOTS ABOVE",
  "758;40THREE DOTS POINTING UPWARDS BELOW;20DAL WITH TWO DOTS VERTICALLY BELOW AND SMALL TAH",
  "75A;40INVERTED SMALL V BELOW;20REH WITH STROKE;20SEEN WITH FOUR DOTS ABOVE;22AIN WITH TWO",
  "75E;41THREE DOTS POINTING DOWNWARDS;41TWO DOTS VERTICALLY;20FEH WITH TWO DOTS BELOW",
  "761;41THREE DOTS POINTING UPWARDS;20KEHEH WITH DOT ABOVE;41THREE DOTS;60POINTING UPWARDS BELOW",
  "765;20MEEM WITH DOT ABOVE;50BELOW;21NOON WITH TWO DOTS;40SMALL TAH;50V;20LAM WITH BAR",
  "76B;20REH WITH TWO DOTS VERTICALLY ABOVE;41HAMZA;21SEEN WITH TWO DOTS VERTICALLY",
  "76E;20HAH WITH SMALL ARABIC LETTER TAH BELOW;80AND TWO DOTS;28SEEN;28REH",
  "772;20HAH WITH SMALL ARABIC LETTER TAH ABOVE;21ALEF WITH EXTENDED ARABIC-INDIC DIGIT TWO;71THREE",
  "775;21FARSI YEH WITH EXTENDED ARABIC-INDIC DIGIT TWO;81THREE;80FOUR BELOW",
  "778;20WAW WITH EXTENDED ARABIC-INDIC DIGIT TWO ABOVE;71THREE",
  "77A;21YEH BARREE WITH EXTENDED ARABIC-INDIC DIGIT TWO;81THREE",
  "77C;20HAH WITH EXTENDED ARABIC-INDIC DIGIT FOUR BELOW;20SEEN WITH EXTENDED ARABIC-INDIC DIGIT FOUR ABOVE",
  "77E;40INVERTED V;20KAF WITH TWO DOTS ABOVE;00THAANA LETTER HAA;20SHAVIYANI;20NOONU;20RAA;20BAA",
  "785;20LHAVIYANI;20KAAFU;20ALIFU;20VAAVU;20MEEMU;20FAAFU;20DHAALU;20THAA;20LAAMU;20GAAFU;20GNAVIYANI",
  "790;20SEENU;20DAVIYANI;20ZAVIYANI;20TAVIYANI;20YAA;20PAVIYANI;20JAVIYANI;20CHAVIYANI;20TTAA;20HHAA",
  "79A;20KHAA;20THAALU;20ZAA;20SHEENU;20SAADHU;20DAADHU;20TO;20ZO;20AINU;20GHAINU;20QAAFU;20WAAVU;10ABAFILI",
  "7A7;10AABAAFILI;10IBIFILI;10EEBEEFILI;10UBUFILI;10OOBOOFILI;10EBEFILI;10EYBEYFILI;10OBOFILI;10OABOAFILI",
  "7B0;10SUKUN;10LETTER NAA",
  "7C0;00NKO DIGIT ZERO;20ONE;20TWO;20THREE;20FOUR;20FIVE;20SIX;20SEVEN;20EIGHT;20NINE;10LETTER A;20EE;20I",
  "7CD;20E;20U;20OO;20O;20DAGBASINNA;20N;20BA;20PA;20TA;20JA;20CHA;20DA;20RA;20RRA;20SA;20GBA;20FA;20KA",
  "7DF;20LA;20NA WOLOSO;20MA;20NYA;20NA;20HA;20WA;20YA;20NYA WOLOSO;20JONA JA;30CHA;30RA",
  "7EB;10COMBINING SHORT HIGH TONE;31LOW;31RISING;21LONG DESCENDING;31HIGH;31LOW;31RISING",
  "7F2;20NASALIZATION MARK;20DOUBLE DOT ABOVE;10HIGH TONE APOSTROPHE;12LOW;10SYMBOL OO DENNEN;20GBAKURUNEN",
  "7F8;10COMMA;10EXCLAMATION MARK;10LAJANYALAN",
  "7FD;10DANTAYALAN;10DOROME SIGN;11TAMAN;00SAMARITAN LETTER ALAF;20BIT;20GAMAN;20DALAT;20IY;20BAA;20ZEN",
  "807;20IT;20TIT;20YUT;20KAAF;20LABAT;20MIM;20NUN;20SINGAAT;20IN;20FI;20TSAADIY;20QUF;20RISH;20SHAN;20TAAF",
  "816;10MARK IN;20IN-ALAF;20OCCLUSION;20DAGESH;10MODIFIER LETTER EPENTHETIC YUT;12MARK;10VOWEL SIGN LONG E",
  "81D;31;30OVERLONG AA;31LONG;31;30OVERLONG A;31LONG;31;11MODIFIER LETTER SHORT;12VOWEL SIGN;30LONG U;31",
  "828;10MODIFIER LETTER I;11VOWEL SIGN LONG;31;30O;30SUKUN;10MARK NEQUDAA",
  "830;11PUNCTUATION;20AFSAAQ;20ANGED;20BAU;20ATMAAU;20SHIYYAALAA;10ABBREVIATION MARK",
  "837;10PUNCTUATION MELODIC QITSA;20ZIQAA;20QITSA;20ZAEF;20TURU;20ARKAANU;20SOF MASHFAAT;20ANNAAU",
  "840;00MANDAIC LETTER HALQA;20AB;20AG;20AD;20AH;20USHENNA;20AZ;20IT;20ATT;20AKSA;20AK;20AL;20AM;20AN;20AS",
  "84F;20IN;20AP;20ASZ;20AQ;20AR;20ASH;20AT;20DUSHENNA;20KAD;20AIN;10AFFRICATION MARK;11VOCALIZATION",
  "85B;11GEMINATION"]

private def characterNameRows3 : List String := [
  "85E;10PUNCTUATION",
  "860;00SYRIAC LETTER MALAYALAM NGA;30JA;30NYA;30TTA;30NNA;30NNNA;30BHA;30RA;30LLA;30LLLA;30SSA",
  "870;00ARABIC LETTER ALEF WITH ATTACHED FATHA;51TOP RIGHT;40RIGHT MIDDLE STROKE;42LEFT;40ATTACHED KASRA",
  "875;51BOTTOM RIGHT;50ROUND DOT ABOVE;50RIGHT ROUND DOT;52LEFT;50ROUND DOT BELOW;40DOT ABOVE",
  "87B;42ATTACHED TOP RIGHT FATHA AND;43RIGHT MIDDLE STROKE;43ATTACHED BOTTOM RIGHT KASRA",
  "87E;50TOP RIGHT FATHA AND LEFT RING;43RIGHT MIDDLE STROKE;43ATTACHED BOTTOM RIGHT KASRA;50RIGHT HAMZA",
  "882;51LEFT;11TATWEEL WITH OVERSTRUCK;40WAW;30TWO DOTS BELOW;10LETTER THIN YEH;10BASELINE ROUND DOT",
  "888;12RAISED;10LETTER NOON WITH INVERTED SMALL V;20HAH WITH INVERTED SMALL V BELOW;21TAH WITH DOT",
  "88C;41THREE DOTS;21KEHEH WITH TWO DOTS VERTICALLY;10VERTICAL TAIL",
  "890;10POUND MARK ABOVE;12PIASTRE",
  "898;10SMALL HIGH WORD AL-JUZ;20LOW WORD ISHMAAM;40IMAALA;40TASHEEL;10MADDA WAAJIB",
  "89D;10SUPERSCRIPT ALEF MOKHASSAS;10DOUBLED MADDA;11HALF MADDA OVER;10LETTER BEH WITH SMALL V BELOW",
  "8A1;40HAMZA ABOVE;21JEEM WITH TWO DOTS;24TAH;22FEH WITH DOT BELOW AND THREE;20QAF WITH DOT BELOW",
  "8A6;20LAM WITH DOUBLE BAR;20MEEM WITH THREE DOTS ABOVE;21YEH WITH TWO DOTS BELOW AND HAMZA;81DOT",
  "8AA;20REH WITH LOOP;20WAW WITH DOT WITHIN;20ROHINGYA YEH;20LOW ALEF;20DAL WITH THREE DOTS BELOW;24SAD",
  "8B0;20GAF WITH INVERTED STROKE;20STRAIGHT WAW;20ZAIN WITH INVERTED V ABOVE;20AIN WITH THREE DOTS BELOW",
  "8B4;21KAF WITH DOT;20QAF WITH DOT BELOW AND NO DOTS ABOVE;21BEH WITH SMALL MEEM;24PEH",
  "8B8;21TEH WITH SMALL TEH;21REH WITH SMALL NOON;23YEH WITH TWO DOTS BELOW AND;20AFRICAN FEH;30QAF;30NOON",
  "8BE;20PEH WITH SMALL V;23TEH;23TTEH;23TCHEH;23KEHEH;20GHAIN WITH THREE DOTS ABOVE;24AFRICAN QAF;24JEEM",
  "8C6;60BELOW;20LAM WITH SMALL ARABIC LETTER TAH ABOVE;20GRAF;10SMALL FARSI YEH;22HIGH",
  "8CB;30YEH BARREE WITH TWO DOTS BELOW;30WORD SAH;30ZAH;10LARGE ROUND DOT ABOVE;40BELOW;11SUKUN",
  "8D1;11LARGE CIRCLE;22ROUND DOT INSIDE;10SMALL LOW WAW;20HIGH WORD AR-RUB;30SAD;30AIN;30QAF",
  "8D8;30NOON WITH KASRA;23LOW;20HIGH WORD ATH-THALATHA;40AS-SAJDA;40AN-NISF;40SAKTA;40QIF;40WAQFA",
  "8E0;30FOOTNOTE MARKER;30SIGN SAFHA;10DISPUTED END OF AYAH;10TURNED DAMMA BELOW;10CURLY FATHA;20DAMMA",
  "8E6;20KASRA;20FATHATAN;20DAMMATAN;20KASRATAN;10TONE ONE DOT ABOVE;21TWO DOTS;21LOOP;20ONE DOT BELOW",
  "8EE;21TWO DOTS;21LOOP;10OPEN FATHATAN;20DAMMATAN;20KASRATAN;10SMALL HIGH WAW;10FATHA WITH RING",
  "8F5;30DOT ABOVE;10KASRA WITH DOT BELOW;10LEFT ARROWHEAD ABOVE;12RIGHT;10LEFT ARROWHEAD BELOW;12RIGHT",
  "8FB;10DOUBLE RIGHT ARROWHEAD ABOVE;50WITH DOT;15;12DAMMA;10MARK SIDEWAYS NOON GHUNNA",
  "900;00DEVANAGARI SIGN INVERTED CANDRABINDU;21;20ANUSVARA;20VISARGA;10LETTER SHORT A;21;20AA;20I;20II;20U",
  "90A;20UU;20VOCALIC R;30L;20CANDRA E;21SHORT;21;20AI;20CANDRA O;21SHORT;21;20AU;20KA;20KHA;20GA;20GHA",
  "919;20NGA;20CA;20CHA;20JA;20JHA;20NYA;20TTA;20TTHA;20DDA;20DDHA;20NNA;20TA;20THA;20DA;20DHA;20NA;20NNNA",
  "92A;20PA;20PHA;20BA;20BHA;20MA;20YA;20RA;20RRA;20LA;20LLA;20LLLA;20VA;20SHA;20SSA;20SA;20HA",
  "93A;10VOWEL SIGN OE;30OOE;10SIGN NUKTA;20AVAGRAHA;10VOWEL SIGN AA;30I;30II;30U;30UU;30VOCALIC R;40RR",
  "945;30CANDRA E;31SHORT;31;30AI;30CANDRA O;31SHORT;31;30AU;10SIGN VIRAMA;10VOWEL SIGN PRISHTHAMATRA E",
  "94F;30AW;10OM;10STRESS SIGN UDATTA;30ANUDATTA;10GRAVE ACCENT;11ACUTE;10VOWEL SIGN CANDRA LONG E;30UE",
  "957;30UUE;10LETTER QA;20KHHA;20GHHA;20ZA;20DDDHA;20RHA;20FA;20YYA;20VOCALIC RR;30LL",
  "962;10VOWEL SIGN VOCALIC L;40LL;10DANDA;11DOUBLE;10DIGIT ZERO;20ONE;20TWO;20THREE;20FOUR;20FIVE;20SIX",
  "96D;20SEVEN;20EIGHT;20NINE;10ABBREVIATION SIGN;10SIGN HIGH SPACING DOT;10LETTER CANDRA A;20OE;20OOE;20AW",
  "976;20UE;20UUE;20MARWARI DDA;20ZHA;20HEAVY YA;20GGA;20JJA;20GLOTTAL STOP;20DDDA;20BBA;00BENGALI ANJI",
  "981;10SIGN CANDRABINDU;20ANUSVARA;20VISARGA",
  "985;10LETTER A;20AA;20I;20II;20U;20UU;20VOCALIC R;30L",
  "98F;20E;20AI",
  "993;20O;20AU;20KA;20KHA;20GA;20GHA;20NGA;20CA;20CHA;20JA;20JHA;20NYA;20TTA;20TTHA;20DDA;20DDHA;20NNA",
  "9A4;20TA;20THA;20DA;20DHA;20NA",
  "9AA;20PA;20PHA;20BA;20BHA;20MA;20YA;20RA",
  "9B2;20LA",
  "9B6;20SHA;20SSA;20SA;20HA",
  "9BC;10SIGN NUKTA;20AVAGRAHA;10VOWEL SIGN AA;30I;30II;30U;30UU;30VOCALIC R;40RR",
  "9C7;30E;30AI",
  "9CB;30O;30AU;10SIGN VIRAMA;10LETTER KHANDA TA",
  "9D7;10AU LENGTH MARK",
  "9DC;10LETTER RRA;20RHA",
  "9DF;20YYA;20VOCALIC RR;30LL;10VOWEL SIGN VOCALIC L;40LL",
  "9E6;10DIGIT ZERO;20ONE;20TWO;20THREE;20FOUR;20FIVE;20SIX;20SEVEN;20EIGHT;20NINE",
  "9F0;10LETTER RA WITH MIDDLE DIAGONAL;41LOWER;10RUPEE MARK;20SIGN;10CURRENCY NUMERATOR ONE;30TWO;30THREE",
  "9F7;30FOUR;30ONE LESS THAN THE DENOMINATOR;20DENOMINATOR SIXTEEN;10ISSHAR;10GANDA MARK",
  "9FC;10LETTER VEDIC ANUSVARA;10ABBREVIATION SIGN;10SANDHI MARK",
  "A01;00GURMUKHI SIGN ADAK BINDI;21;20VISARGA",
  "A05;10LETTER A;20AA;20I;20II;20U;20UU",
  "A0F;20EE;20AI",
  "A13;20OO;20AU;20KA;20KHA;20GA;20GHA;20NGA;20CA;20CHA;20JA;20JHA;20NYA;20TTA;20TTHA;20DDA;20DDHA;20NNA",
  "A24;20TA;20THA;20DA;20DHA;20NA",
  "A2A;20PA;20PHA;20BA;20BHA;20MA;20YA;20RA",
  "A32;20LA;20LLA",
  "A35;20VA;20SHA",
  "A38;20SA;20HA",
  "A3C;10SIGN NUKTA",
  "A3E;10VOWEL SIGN AA;30I;30II;30U;30UU",
  "A47;30EE;30AI",
  "A4B;30OO;30AU;10SIGN VIRAMA",
  "A51;20UDAAT",
  "A59;10LETTER KHHA;20GHHA;20ZA;20RRA",
  "A5E;20FA",
  "A66;10DIGIT ZERO;20ONE;20TWO;20THREE;20FOUR;20FIVE;20SIX;20SEVEN;20EIGHT;20NINE;10TIPPI;10ADDAK;10IRI",
  "A73;10URA;10EK ONKAR;10SIGN YAKASH;10ABBREVIATION SIGN",
  "A81;00GUJARATI SIGN CANDRABINDU;20ANUSVARA;20VISARGA",
  "A85;10LETTER A;20AA;20I;20II;20U;20UU;20VOCALIC R;30L;10VOWEL CANDRA E",
  "A8F;11LETTER;20AI;10VOWEL CANDRA O",
  "A93;11LETTER;20AU;20KA;20KHA;20GA;20GHA;20NGA;20CA;20CHA;20JA;20JHA;20NYA;20TTA;20TTHA;20DDA;20DDHA",
  "AA3;20NNA;20TA;20THA;20DA;20DHA;20NA",
  "AAA;20PA;20PHA;20BA;20BHA;20MA;20YA;20RA",
  "AB2;20LA;20LLA",
  "AB5;20VA;20SHA;20SSA;20SA;20HA",
  "ABC;10SIGN NUKTA;20AVAGRAHA;10VOWEL SIGN AA;30I;30II;30U;30UU;30VOCALIC R;40RR;30CANDRA E",
  "AC7;31;30AI;30CANDRA O",
  "ACB;31;30AU;10SIGN VIRAMA",
  "AD0;10OM",
  "AE0;10LETTER VOCALIC RR;30LL;10VOWEL SIGN VOCALIC L;40LL",
  "AE6;10DIGIT ZERO;20ONE;20TWO;20THREE;20FOUR;20FIVE;20SIX;20SEVEN;20EIGHT;20NINE;10ABBREVIATION SIGN",
  "AF1;11RUPEE",
  "AF9;10LETTER ZHA;10SIGN SUKUN;20SHADDA;20MADDAH;20THREE-DOT NUKTA ABOVE;22CIRCLE;22TWO-CIRCLE",
  "B01;00ORIYA SIGN CANDRABINDU;20ANUSVARA;20VISARGA",
  "B05;10LETTER A;20AA;20I;20II;20U;20UU;20VOCALIC R;30L",
  "B0F;20E;20AI",
  "B13;20O;20AU;20KA;20KHA;20GA;20GHA;20NGA;20CA;20CHA;20JA;20JHA;20NYA;20TTA;20TTHA;20DDA;20DDHA;20NNA",
  "B24;20TA;20THA;20DA;20DHA;20NA",
  "B2A;20PA;20PHA;20BA;20BHA;20MA;20YA;20RA",
  "B32;20LA;20LLA",
  "B35;20VA;20SHA;20SSA;20SA;20HA",
  "B3C;10SIGN NUKTA;20AVAGRAHA;10VOWEL SIGN AA;30I;30II;30U;30UU;30VOCALIC R;40RR",
  "B47;30E;30AI",
  "B4B;30O;30AU;10SIGN VIRAMA",
  "B55;20OVERLINE;10AI LENGTH MARK;12AU",
  "B5C;10LETTER RRA;20RHA",
  "B5F;20YYA;20VOCALIC RR;30LL;10VOWEL SIGN VOCALIC L;40LL",
  "B66;10DIGIT ZERO;20ONE;20TWO;20THREE;20FOUR;20FIVE;20SIX;20SEVEN;20EIGHT;20NINE;10ISSHAR;10LETTER WA",
  "B72;10FRACTION ONE QUARTER;30HALF;20THREE QUARTERS;20ONE SIXTEENTH;30EIGHTH;20THREE SIXTEENTHS",
  "B82;00TAMIL SIGN ANUSVARA;20VISARGA",
  "B85;10LETTER A;20AA;20I;20II;20U;20UU",
  "B8E;20E;20EE;20AI",
  "B92;20O;20OO;20AU;20KA",
  "B99;20NGA;20CA",
  "B9C;20JA",
  "B9E;20NYA;20TTA",
  "BA3;20NNA;20TA",
  "BA8;20NA;20NNNA;20PA",
  "BAE;20MA;20YA;20RA;20RRA;20LA;20LLA;20LLLA;20VA;20SHA;20SSA;20SA;20HA",
  "BBE;10VOWEL SIGN AA;30I;30II;30U;30UU",
  "BC6;30E;30EE;30AI",
  "BCA;30O;30OO;30AU;10SIGN VIRAMA",
  "BD0;10OM",
  "BD7;10AU LENGTH MARK",
  "BE6;10DIGIT ZERO;20ONE;20TWO;20THREE;20FOUR;20FIVE;20SIX;20SEVEN;20EIGHT;20NINE;10NUMBER TEN",
  "BF1;20ONE HUNDRED;30THOUSAND;10DAY SIGN;11MONTH;11YEAR;11DEBIT;11CREDIT;11AS ABOVE;11RUPEE;11NUMBER",
  "C00;00TELUGU SIGN COMBINING CANDRABINDU ABOVE;20CANDRABINDU;20ANUSVARA;20VISARGA",
  "C04;20COMBINING ANUSVARA ABOVE;10LETTER A;20AA;20I;20II;20U;20UU;20VOCALIC R;30L",
  "C0E;20E;20EE;20AI",
  "C12;20O;20OO;20AU;20KA;20KHA;20GA;20GHA;20NGA;20CA;20CHA;20JA;20JHA;20NYA;20TTA;20TTHA;20DDA;20DDHA",
  "C23;20NNA;20TA;20THA;20DA;20DHA;20NA",
  "C2A;20PA;20PHA;20BA;20BHA;20MA;20YA;20RA;20RRA;20LA;20LLA;20LLLA;20VA;20SHA;20SSA;20SA;20HA",
  "C3C;10SIGN NUKTA;20AVAGRAHA;10VOWEL SIGN AA;30I;30II;30U;30UU;30VOCALIC R;40RR",
  "C46;30E;30EE;30AI",
  "C4A;30O;30OO;30AU;10SIGN VIRAMA",
  "C55;10LENGTH MARK;12AI",
  "C58;10LETTER TSA;20DZA;20RRRA",
  "C5D;20NAKAARA POLLU",
  "C60;20VOCALIC RR;30LL;10VOWEL SIGN VOCALIC L;40LL",
  "C66;10DIGIT ZERO;20ONE;20TWO;20THREE;20FOUR;20FIVE;20SIX;20SEVEN;20EIGHT;20NINE",
  "C77;10SIGN SIDDHAM;10FRACTION DIGIT ZERO FOR ODD POWERS OF FOUR;35ONE;35TWO;35THREE;33ONE FOR EVEN;35TWO",
  "C7E;35THREE;10SIGN TUUMU;00KANNADA SIGN SPACING CANDRABINDU;21;20ANUSVARA;20VISARGA;20SIDDHAM;10LETTER A",
  "C86;20AA;20I;20II;20U;20UU;20VOCALIC R;30L",
  "C8E;20E;20EE;20AI",
  "C92;20O;20OO;20AU;20KA;20KHA;20GA;20GHA;20NGA;20CA;20CHA;20JA;20JHA;20NYA;20TTA;20TTHA;20DDA;20DDHA",
  "CA3;20NNA;20TA;20THA;20DA;20DHA;20NA",
  "CAA;20PA;20PHA;20BA;20BHA;20MA;20YA;20RA;20RRA;20LA;20LLA",
  "CB5;20VA;20SHA;20SSA;20SA;20HA",
  "CBC;10SIGN NUKTA;20AVAGRAHA;10VOWEL SIGN AA;30I;30II;30U;30UU;30VOCALIC R;40RR",
  "CC6;30E;30EE;30AI",
  "CCA;30O;30OO;30AU;10SIGN VIRAMA",
  "CD5;10LENGTH MARK;12AI",
  "CDD;10LETTER NAKAARA POLLU;20FA",
  "CE0;20VOCALIC RR;30LL;10VOWEL SIGN VOCALIC L;40LL",
  "CE6;10DIGIT ZERO;20ONE;20TWO;20THREE;20FOUR;20FIVE;20SIX;20SEVEN;20EIGHT;20NINE",
  "CF1;10SIGN JIHVAMULIYA;20UPADHMANIYA",
  "D00;00MALAYALAM SIGN COMBINING ANUSVARA ABOVE;20CANDRABINDU;20ANUSVARA;20VISARGA;10LETTER VEDIC ANUSVARA",
  "D05;20A;20AA;20I;20II;20U;20UU;20VOCALIC R;30L",
  "D0E;20E;20EE;20AI",
  "D12;20O;20OO;20AU;20KA;20KHA;20GA;20GHA;20NGA;20CA;20CHA;20JA;20JHA;20NYA;20TTA;20TTHA;20DDA;20DDHA",
  "D23;20NNA;20TA;20THA;20DA;20DHA;20NA;20NNNA;20PA;20PHA;20BA;20BHA;20MA;20YA;20RA;20RRA;20LA;20LLA;20LLLA",
  "D35;20VA;20SHA;20SSA;20SA;20HA;20TTTA;10SIGN VERTICAL BAR VIRAMA;21CIRCULAR;20AVAGRAHA;10VOWEL SIGN AA"]

private def characterNameRows4 : List String := [
  "D3F;30I;30II;30U;30UU;30VOCALIC R;40RR",
  "D46;30E;30EE;30AI",
  "D4A;30O;30OO;30AU;10SIGN VIRAMA;10LETTER DOT REPH;10SIGN PARA",
  "D54;10LETTER CHILLU M;30Y;30LLL;10AU LENGTH MARK;10FRACTION ONE ONE-HUNDRED-AND-SIXTIETH;30FORTIETH",
  "D5A;20THREE EIGHTIETHS;20ONE TWENTIETH;30TENTH;20THREE TWENTIETHS;20ONE FIFTH;10LETTER ARCHAIC II",
  "D60;20VOCALIC RR;30LL;10VOWEL SIGN VOCALIC L;40LL",
  "D66;10DIGIT ZERO;20ONE;20TWO;20THREE;20FOUR;20FIVE;20SIX;20SEVEN;20EIGHT;20NINE;10NUMBER TEN",
  "D71;20ONE HUNDRED;30THOUSAND;10FRACTION ONE QUARTER;30HALF;20THREE QUARTERS;20ONE SIXTEENTH;30EIGHTH",
  "D78;20THREE SIXTEENTHS;10DATE MARK;10LETTER CHILLU NN;30N;30RR;30L;30LL;30K",
  "D81;00SINHALA SIGN CANDRABINDU;20ANUSVARAYA;20VISARGAYA",
  "D85;10LETTER AYANNA;20AAYANNA;20AEYANNA;20AEEYANNA;20IYANNA;20IIYANNA;20UYANNA;20UUYANNA;20IRUYANNA",
  "D8E;20IRUUYANNA;20ILUYANNA;20ILUUYANNA;20EYANNA;20EEYANNA;20AIYANNA;20OYANNA;20OOYANNA;20AUYANNA",
  "D9A;20ALPAPRAANA KAYANNA;21MAHAAPRAANA;20ALPAPRAANA GAYANNA;21MAHAAPRAANA;20KANTAJA NAASIKYAYA",
  "D9F;20SANYAKA GAYANNA;20ALPAPRAANA CAYANNA;21MAHAAPRAANA;20ALPAPRAANA JAYANNA;21MAHAAPRAANA",
  "DA4;20TAALUJA NAASIKYAYA;30SANYOOGA NAAKSIKYAYA;20SANYAKA JAYANNA;20ALPAPRAANA TTAYANNA;21MAHAAPRAANA",
  "DA9;20ALPAPRAANA DDAYANNA;21MAHAAPRAANA;20MUURDHAJA NAYANNA;20SANYAKA DDAYANNA;20ALPAPRAANA TAYANNA",
  "DAE;21MAHAAPRAANA;20ALPAPRAANA DAYANNA;21MAHAAPRAANA;20DANTAJA NAYANNA",
  "DB3;20SANYAKA DAYANNA;20ALPAPRAANA PAYANNA;21MAHAAPRAANA;20ALPAPRAANA BAYANNA;21MAHAAPRAANA;20MAYANNA",
  "DB9;20AMBA BAYANNA;20YAYANNA;20RAYANNA",
  "DBD;20DANTAJA LAYANNA",
  "DC0;20VAYANNA;20TAALUJA SAYANNA;21MUURDHAJA;21DANTAJA;20HAYANNA;20MUURDHAJA LAYANNA;20FAYANNA",
  "DCA;10SIGN AL-LAKUNA",
  "DCF;10VOWEL SIGN AELA-PILLA;30KETTI AEDA-PILLA;31DIGA;30KETTI IS-PILLA;31DIGA;30KETTI PAA-PILLA",
  "DD6;31DIGA",
  "DD8;30GAETTA-PILLA;30KOMBUVA;31DIGA;30KOMBU DEKA;30KOMBUVA HAA AELA-PILLA;51DIGA;50GAYANUKITTA;31",
  "DE6;10LITH DIGIT ZERO;30ONE;30TWO;30THREE;30FOUR;30FIVE;30SIX;30SEVEN;30EIGHT;30NINE",
  "DF2;10VOWEL SIGN DIGA GAETTA-PILLA;40GAYANUKITTA;10PUNCTUATION KUNDDALIYA",
  "E01;00THAI CHARACTER KO KAI;20KHO KHAI;30KHUAT;30KHWAI;30KHON;30RAKHANG;20NGO NGU;20CHO CHAN;30CHING",
  "E0A;30CHANG;20SO SO;20CHO CHOE;20YO YING;20DO CHADA;20TO PATAK;20THO THAN;30NANGMONTHO;30PHUTHAO",
  "E13;20NO NEN;20DO DEK;20TO TAO;20THO THUNG;30THAHAN;30THONG;20NO NU;20BO BAIMAI;20PO PLA;20PHO PHUNG",
  "E1D;20FO FA;20PHO PHAN;20FO FAN;20PHO SAMPHAO;20MO MA;20YO YAK;20RO RUA;20RU;20LO LING;20LU;20WO WAEN",
  "E28;20SO SALA;30RUSI;30SUA;20HO HIP;20LO CHULA;20O ANG;20HO NOKHUK;20PAIYANNOI;20SARA A;20MAI HAN-AKAT",
  "E32;20SARA AA;30AM;30I;30II;30UE;30UEE;30U;30UU;20PHINTHU",
  "E3F;10CURRENCY SYMBOL BAHT;10CHARACTER SARA E;30AE;30O;30AI MAIMUAN;40MAIMALAI;20LAKKHANGYAO;20MAIYAMOK",
  "E47;20MAITAIKHU;20MAI EK;30THO;30TRI;30CHATTAWA;20THANTHAKHAT;20NIKHAHIT;20YAMAKKAN;20FONGMAN",
  "E50;10DIGIT ZERO;20ONE;20TWO;20THREE;20FOUR;20FIVE;20SIX;20SEVEN;20EIGHT;20NINE;10CHARACTER ANGKHANKHU",
  "E5B;20KHOMUT",
  "E81;00LAO LETTER KO;20KHO SUNG",
  "E84;30TAM",
  "E86;20PALI GHA;20NGO;20CO;20PALI CHA;20SO TAM",
  "E8C;20PALI JHA;20NYO;20PALI NYA;30TTA;30TTHA;30DDA;30DDHA;30NNA;20DO;20TO;20THO SUNG;30TAM;20PALI DHA",
  "E99;20NO;20BO;20PO;20PHO SUNG;20FO TAM;21PHO;20FO SUNG;20PALI BHA;20MO;20YO;20LO LING",
  "EA5;30LOOT",
  "EA7;20WO;20SANSKRIT SHA;30SSA;20SO SUNG;21HO;20PALI LLA;20O;20HO TAM;10ELLIPSIS;10VOWEL SIGN A;30MAI KAN",
  "EB2;30AA;30AM;30I;30II;30Y;30YY;30U;30UU;10SIGN PALI VIRAMA;10VOWEL SIGN MAI KON;10SEMIVOWEL SIGN LO",
  "EBD;30NYO",
  "EC0;10VOWEL SIGN E;30EI;30O;30AY;30AI",
  "EC6;10KO LA",
  "EC8;10TONE MAI EK;30THO;30TI;30CATAWA;10CANCELLATION MARK;10NIGGAHITA",
  "ED0;10DIGIT ZERO;20ONE;20TWO;20THREE;20FOUR;20FIVE;20SIX;20SEVEN;20EIGHT;20NINE",
  "EDC;10HO NO;20MO;10LETTER KHMU GO;30NYO",
  "F00;00TIBETAN SYLLABLE OM;10MARK GTER YIG MGO TRUNCATED A;50-UM RNAM BCAD MA;61GTER TSHEG",
  "F04;21INITIAL YIG MGO MDUN;21CLOSING YIG MGO SGAB;21CARET YIG MGO PHUR SHAD;22YIG MGO TSHEG;20SBRUL SHAD",
  "F09;20BSKUR YIG MGO;22BKA- SHOG;20INTERSYLLABIC TSHEG;20DELIMITER TSHEG BSTAR;20SHAD;21NYIS;21TSHEG",
  "F10;22NYIS;21RIN CHEN SPUNGS;21RGYA GRAM;20CARET -DZUD RTAGS ME LONG CAN;20GTER TSHEG",
  "F15;10LOGOTYPE SIGN CHAD RTAGS;31LHAG;11ASTROLOGICAL SIGN SGRA GCAN -CHAR;30-KHYUD PA;30SDONG TSHUGS",
  "F1A;10SIGN RDEL DKAR GCIG;40GNYIS;40GSUM;30NAG GCIG;40GNYIS;30DKAR RDEL NAG;10DIGIT ZERO;20ONE;20TWO",
  "F23;20THREE;20FOUR;20FIVE;20SIX;20SEVEN;20EIGHT;20NINE;20HALF ONE;30TWO;30THREE;30FOUR;30FIVE;30SIX",
  "F30;30SEVEN;30EIGHT;30NINE;30ZERO;10MARK BSDUS RTAGS;20NGAS BZUNG NYI ZLA",
  "F36;20CARET -DZUD RTAGS BZHI MIG CAN;20NGAS BZUNG SGOR RTAGS;20CHE MGO;20TSA -PHRU;20GUG RTAGS GYON",
  "F3B;40GYAS;20ANG KHANG GYON;40GYAS;10SIGN YAR TSHES;21MAR;10LETTER KA;20KHA;20GA;20GHA;20NGA;20CA;20CHA",
  "F47;20JA",
  "F49;20NYA;20TTA;20TTHA;20DDA;20DDHA;20NNA;20TA;20THA;20DA;20DHA;20NA;20PA;20PHA;20BA;20BHA;20MA;20TSA",
  "F5A;20TSHA;20DZA;20DZHA;20WA;20ZHA;20ZA;20-A;20YA;20RA;20LA;20SHA;20SSA;20SA;20HA;20A;20KSSA",
  "F6A;20FIXED-FORM RA;20KKA;20RRA",
  "F71;10VOWEL SIGN AA;30I;30II;30U;30UU;30VOCALIC R;40RR;40L;40LL;30E;30EE;30O;30OO;10SIGN RJES SU NGA RO",
  "F7F;20RNAM BCAD;10VOWEL SIGN REVERSED I;40II;10SIGN NYI ZLA NAA DA;20SNA LDAN;10MARK HALANTA;20PALUTA",
  "F86;10SIGN LCI RTAGS;21YANG;20LCE TSA CAN;21MCHU;20GRU CAN RGYINGS;31MED;20INVERTED MCHU CAN",
  "F8D;11SUBJOINED SIGN LCE TSA;31MCHU;32INVERTED;20LETTER KA;30KHA;30GA;30GHA;30NGA;30CA;30CHA;30JA",
  "F99;30NYA;30TTA;30TTHA;30DDA;30DDHA;30NNA;30TA;30THA;30DA;30DHA;30NA;30PA;30PHA;30BA;30BHA;30MA;30TSA",
  "FAA;30TSHA;30DZA;30DZHA;30WA;30ZHA;30ZA;30-A;30YA;30RA;30LA;30SHA;30SSA;30SA;30HA;30A;30KSSA",
  "FBA;30FIXED-FORM WA;40YA;40RA",
  "FBE;10KU RU KHA;40BZHI MIG CAN;10CANTILLATION SIGN HEAVY BEAT;31LIGHT;30CANG TE-U;30SBUB -CHAL",
  "FC4;10SYMBOL DRIL BU;20RDO RJE;20PADMA GDAN;20RDO RJE RGYA GRAM;20PHUR PA;20NOR BU;40NYIS -KHYIL;41GSUM",
  "FCC;41BZHI",
  "FCE;10SIGN RDEL NAG RDEL DKAR;40GSUM;10MARK BSKA- SHOG GI MGO RGYAN;23MNYAM YIG;20NYIS TSHEG",
  "FD3;20INITIAL BRDA RNYING YIG MGO MDUN MA;21CLOSING BRDA RNYING YIG MGO SGAB;00RIGHT-FACING SVASTI SIGN",
  "FD6;02LEFT-FACING;00RIGHT-FACING SVASTI SIGN WITH DOTS;04LEFT-FACING;00TIBETAN MARK LEADING MCHAN RTAGS",
  "FDA;22TRAILING",
  "1000;00MYANMAR LETTER KA;20KHA;20GA;20GHA;20NGA;20CA;20CHA;20JA;20JHA;20NYA;20NNYA;20TTA;20TTHA;20DDA",
  "100E;20DDHA;20NNA;20TA;20THA;20DA;20DHA;20NA;20PA;20PHA;20BA;20BHA;20MA;20YA;20RA;20LA;20WA;20SA;20HA",
  "1020;20LLA;20A;21SHAN;20I;20II;20U;20UU;20E;21MON;20O;20AU;10VOWEL SIGN TALL AA;31;30I;30II;30U;30UU;30E",
  "1032;30AI;30MON II;40O;30E ABOVE;10SIGN ANUSVARA;20DOT BELOW;20VISARGA;20VIRAMA;20ASAT",
  "103B;10CONSONANT SIGN MEDIAL YA;40RA;40WA;40HA;10LETTER GREAT SA;10DIGIT ZERO;20ONE;20TWO;20THREE;20FOUR",
  "1045;20FIVE;20SIX;20SEVEN;20EIGHT;20NINE;10SIGN LITTLE SECTION;21;10SYMBOL LOCATIVE;20COMPLETED",
  "104E;20AFOREMENTIONED;20GENITIVE;10LETTER SHA;20SSA;20VOCALIC R;30RR;30L;30LL;10VOWEL SIGN VOCALIC R",
  "1057;40RR;40L;40LL;10LETTER MON NGA;30JHA;30BBA;30BBE;10CONSONANT SIGN MON MEDIAL NA;50MA;50LA",
  "1061;10LETTER SGAW KAREN SHA;10VOWEL SIGN SGAW KAREN EU;10TONE MARK SGAW KAREN HATHI;50KE PHO",
  "1065;10LETTER WESTERN PWO KAREN THA;50PWA;10VOWEL SIGN WESTERN PWO KAREN EU;60UE",
  "1069;10SIGN WESTERN PWO KAREN TONE-1;50TONE-2;50TONE-3;50TONE-4;50TONE-5;10LETTER EASTERN PWO KAREN NNA",
  "106F;50YWA;50GHWA;10VOWEL SIGN GEBA KAREN I;30KAYAH OE;40U;40EE;10LETTER SHAN KA;30KHA;30GA;30CA;30ZA",
  "107A;30NYA;30DA;30NA;30PHA;30FA;30BA;30THA;30HA;10CONSONANT SIGN SHAN MEDIAL WA;10VOWEL SIGN SHAN AA;40E",
  "1085;50ABOVE;40FINAL Y;10SIGN SHAN TONE-2;30TONE-3;30TONE-5;30TONE-6;30COUNCIL TONE-2;40TONE-3",
  "108D;40EMPHATIC TONE;10LETTER RUMAI PALAUNG FA;10SIGN RUMAI PALAUNG TONE-5;10SHAN DIGIT ZERO;30ONE;30TWO",
  "1093;30THREE;30FOUR;30FIVE;30SIX;30SEVEN;30EIGHT;30NINE;10SIGN KHAMTI TONE-1;30TONE-3",
  "109C;10VOWEL SIGN AITON A;40AI;10SYMBOL SHAN ONE;30EXCLAMATION;00GEORGIAN CAPITAL LETTER AN;30BAN;30GAN",
  "10A3;30DON;30EN;30VIN;30ZEN;30TAN;30IN;30KAN;30LAS;30MAN;30NAR;30ON;30PAR;30ZHAR;30RAE;30SAN;30TAR;30UN",
  "10B4;30PHAR;30KHAR;30GHAN;30QAR;30SHIN;30CHIN;30CAN;30JIL;30CIL;30CHAR;30XAN;30JHAN;30HAE;30HE;30HIE",
  "10C3;30WE;30HAR;30HOE",
  "10C7;30YN",
  "10CD;30AEN",
  "10D0;10LETTER AN;20BAN;20GAN;20DON;20EN;20VIN;20ZEN;20TAN;20IN;20KAN;20LAS;20MAN;20NAR;20ON;20PAR;20ZHAR",
  "10E0;20RAE;20SAN;20TAR;20UN;20PHAR;20KHAR;20GHAN;20QAR;20SHIN;20CHIN;20CAN;20JIL;20CIL;20CHAR;20XAN",
  "10EF;20JHAN;20HAE;20HE;20HIE;20WE;20HAR;20HOE;20FI;20YN;20ELIFI;20TURNED GAN;20AIN;10PARAGRAPH SEPARATOR",
  "10FC;00MODIFIER LETTER GEORGIAN NAR;00GEORGIAN LETTER AEN;20HARD SIGN;21LABIAL;00HANGUL CHOSEONG KIYEOK",
  "1101;20SSANGKIYEOK;20NIEUN;20TIKEUT;20SSANGTIKEUT;20RIEUL;20MIEUM;20PIEUP;20SSANGPIEUP;20SIOS",
  "110A;20SSANGSIOS;20IEUNG;20CIEUC;20SSANGCIEUC;20CHIEUCH;20KHIEUKH;20THIEUTH;20PHIEUPH;20HIEUH",
  "1113;20NIEUN-KIYEOK;20SSANGNIEUN;20NIEUN-TIKEUT;20NIEUN-PIEUP;20TIKEUT-KIYEOK;20RIEUL-NIEUN;20SSANGRIEUL",
  "111A;20RIEUL-HIEUH;20KAPYEOUNRIEUL;20MIEUM-PIEUP;20KAPYEOUNMIEUM;20PIEUP-KIYEOK;20PIEUP-NIEUN",
  "1120;20PIEUP-TIKEUT;20PIEUP-SIOS;20PIEUP-SIOS-KIYEOK;20PIEUP-SIOS-TIKEUT;20PIEUP-SIOS-PIEUP",
  "1125;20PIEUP-SSANGSIOS;20PIEUP-SIOS-CIEUC;20PIEUP-CIEUC;20PIEUP-CHIEUCH;20PIEUP-THIEUTH;20PIEUP-PHIEUPH",
  "112B;20KAPYEOUNPIEUP;20KAPYEOUNSSANGPIEUP;20SIOS-KIYEOK;20SIOS-NIEUN;20SIOS-TIKEUT;20SIOS-RIEUL",
  "1131;20SIOS-MIEUM;20SIOS-PIEUP;20SIOS-PIEUP-KIYEOK;20SIOS-SSANGSIOS;20SIOS-IEUNG;20SIOS-CIEUC",
  "1137;20SIOS-CHIEUCH;20SIOS-KHIEUKH;20SIOS-THIEUTH;20SIOS-PHIEUPH;20SIOS-HIEUH;20CHITUEUMSIOS",
  "113D;20CHITUEUMSSANGSIOS;20CEONGCHIEUMSIOS;20CEONGCHIEUMSSANGSIOS;20PANSIOS;20IEUNG-KIYEOK",
  "1142;20IEUNG-TIKEUT;20IEUNG-MIEUM;20IEUNG-PIEUP;20IEUNG-SIOS;20IEUNG-PANSIOS;20SSANGIEUNG;20IEUNG-CIEUC",
  "1149;20IEUNG-CHIEUCH;20IEUNG-THIEUTH;20IEUNG-PHIEUPH;20YESIEUNG;20CIEUC-IEUNG;20CHITUEUMCIEUC",
  "114F;20CHITUEUMSSANGCIEUC;20CEONGCHIEUMCIEUC;20CEONGCHIEUMSSANGCIEUC;20CHIEUCH-KHIEUKH;20CHIEUCH-HIEUH",
  "1154;20CHITUEUMCHIEUCH;20CEONGCHIEUMCHIEUCH;20PHIEUPH-PIEUP;20KAPYEOUNPHIEUPH;20SSANGHIEUH;20YEORINHIEUH",
  "115A;20KIYEOK-TIKEUT;20NIEUN-SIOS;20NIEUN-CIEUC;20NIEUN-HIEUH;20TIKEUT-RIEUL;20FILLER;11JUNGSEONG;20A",
  "1162;20AE;20YA;20YAE;20EO;20E;20YEO;20YE;20O;20WA;20WAE;20OE;20YO;20U;20WEO;20WE;20WI;20YU;20EU;20YI;20I",
  "1176;20A-O;20A-U;20YA-O;20YA-YO;20EO-O;20EO-U;20EO-EU;20YEO-O;20YEO-U;20O-EO;20O-E;20O-YE;20O-O;20O-U",
  "1184;20YO-YA;20YO-YAE;20YO-YEO;20YO-O;20YO-I;20U-A;20U-AE;20U-EO-EU;20U-YE;20U-U;20YU-A;20YU-EO;20YU-E",
  "1191;20YU-YEO;20YU-YE;20YU-U;20YU-I;20EU-U;20EU-EU;20YI-U;20I-A;20I-YA;20I-O;20I-U;20I-EU;20I-ARAEA",
  "119E;20ARAEA;20ARAEA-EO;20ARAEA-U;20ARAEA-I;20SSANGARAEA;20A-EU;20YA-U;20YEO-YA;20O-YA;20O-YAE",
  "11A8;10JONGSEONG KIYEOK;20SSANGKIYEOK;20KIYEOK-SIOS;20NIEUN;20NIEUN-CIEUC;20NIEUN-HIEUH;20TIKEUT;20RIEUL",
  "11B0;20RIEUL-KIYEOK;20RIEUL-MIEUM;20RIEUL-PIEUP;20RIEUL-SIOS;20RIEUL-THIEUTH;20RIEUL-PHIEUPH",
  "11B6;20RIEUL-HIEUH;20MIEUM;20PIEUP;20PIEUP-SIOS;20SIOS;20SSANGSIOS;20IEUNG;20CIEUC;20CHIEUCH;20KHIEUKH",
  "11C0;20THIEUTH;20PHIEUPH;20HIEUH;20KIYEOK-RIEUL;20KIYEOK-SIOS-KIYEOK;20NIEUN-KIYEOK;20NIEUN-TIKEUT",
  "11C7;20NIEUN-SIOS;20NIEUN-PANSIOS;20NIEUN-THIEUTH;20TIKEUT-KIYEOK;20TIKEUT-RIEUL;20RIEUL-KIYEOK-SIOS",
  "11CD;20RIEUL-NIEUN;20RIEUL-TIKEUT;20RIEUL-TIKEUT-HIEUH;20SSANGRIEUL;20RIEUL-MIEUM-KIYEOK",
  "11D2;20RIEUL-MIEUM-SIOS;20RIEUL-PIEUP-SIOS;20RIEUL-PIEUP-HIEUH;20RIEUL-KAPYEOUNPIEUP;20RIEUL-SSANGSIOS",
  "11D7;20RIEUL-PANSIOS;20RIEUL-KHIEUKH;20RIEUL-YEORINHIEUH;20MIEUM-KIYEOK;20MIEUM-RIEUL;20MIEUM-PIEUP",
  "11DD;20MIEUM-SIOS;20MIEUM-SSANGSIOS;20MIEUM-PANSIOS;20MIEUM-CHIEUCH;20MIEUM-HIEUH;20KAPYEOUNMIEUM",
  "11E3;20PIEUP-RIEUL;20PIEUP-PHIEUPH;20PIEUP-HIEUH;20KAPYEOUNPIEUP;20SIOS-KIYEOK;20SIOS-TIKEUT",
  "11E9;20SIOS-RIEUL;20SIOS-PIEUP;20PANSIOS;20IEUNG-KIYEOK;20IEUNG-SSANGKIYEOK;20SSANGIEUNG;20IEUNG-KHIEUKH",
  "11F0;20YESIEUNG;20YESIEUNG-SIOS;20YESIEUNG-PANSIOS;20PHIEUPH-PIEUP;20KAPYEOUNPHIEUPH;20HIEUH-NIEUN",
  "11F6;20HIEUH-RIEUL;20HIEUH-MIEUM;20HIEUH-PIEUP;20YEORINHIEUH;20KIYEOK-NIEUN;20KIYEOK-PIEUP",
  "11FC;20KIYEOK-CHIEUCH;20KIYEOK-KHIEUKH;20KIYEOK-HIEUH;20SSANGNIEUN;00ETHIOPIC SYLLABLE HA;20HU;20HI",
  "1203;20HAA;20HEE;20HE;20HO;20HOA;20LA;20LU;20LI;20LAA;20LEE;20LE;20LO;20LWA;20HHA;20HHU;20HHI;20HHAA",
  "1214;20HHEE;20HHE;20HHO;20HHWA;20MA;20MU;20MI;20MAA;20MEE;20ME;20MO;20MWA;20SZA;20SZU;20SZI;20SZAA",
  "1224;20SZEE;20SZE;20SZO;20SZWA;20RA;20RU;20RI;20RAA;20REE;20RE;20RO;20RWA;20SA;20SU;20SI;20SAA;20SEE",
  "1235;20SE;20SO;20SWA;20SHA;20SHU;20SHI;20SHAA;20SHEE;20SHE;20SHO;20SHWA;20QA;20QU;20QI;20QAA;20QEE;20QE",
  "1246;20QO;20QOA;20QWA",
  "124A;20QWI;20QWAA;20QWEE;20QWE",
  "1250;20QHA;20QHU;20QHI;20QHAA;20QHEE;20QHE;20QHO",
  "1258;20QHWA",
  "125A;20QHWI;20QHWAA;20QHWEE;20QHWE",
  "1260;20BA;20BU;20BI;20BAA;20BEE;20BE;20BO;20BWA;20VA;20VU;20VI;20VAA;20VEE;20VE;20VO;20VWA;20TA;20TU",
  "1272;20TI;20TAA;20TEE;20TE;20TO;20TWA;20CA;20CU;20CI;20CAA;20CEE;20CE;20CO;20CWA;20XA;20XU;20XI;20XAA",
  "1284;20XEE;20XE;20XO;20XOA;20XWA",
  "128A;20XWI;20XWAA;20XWEE;20XWE",
  "1290;20NA;20NU;20NI;20NAA;20NEE;20NE;20NO;20NWA;20NYA;20NYU;20NYI;20NYAA;20NYEE;20NYE;20NYO;20NYWA",
  "12A0;20GLOTTAL A;30U;30I;30AA;30EE;30E;30O;30WA;20KA;20KU;20KI;20KAA;20KEE;20KE;20KO;20KOA;20KWA",
  "12B2;20KWI;20KWAA;20KWEE;20KWE",
  "12B8;20KXA;20KXU;20KXI;20KXAA;20KXEE;20KXE;20KXO",
  "12C0;20KXWA",
  "12C2;20KXWI;20KXWAA;20KXWEE;20KXWE",
  "12C8;20WA;20WU;20WI;20WAA;20WEE;20WE;20WO;20WOA;20PHARYNGEAL A;30U;30I;30AA;30EE;30E;30O",
  "12D8;20ZA;20ZU;20ZI;20ZAA;20ZEE;20ZE;20ZO;20ZWA;20ZHA;20ZHU;20ZHI;20ZHAA;20ZHEE;20ZHE;20ZHO;20ZHWA;20YA"]

private def characterNameRows5 : List String := [
  "12E9;20YU;20YI;20YAA;20YEE;20YE;20YO;20YOA;20DA;20DU;20DI;20DAA;20DEE;20DE;20DO;20DWA;20DDA;20DDU;20DDI",
  "12FB;20DDAA;20DDEE;20DDE;20DDO;20DDWA;20JA;20JU;20JI;20JAA;20JEE;20JE;20JO;20JWA;20GA;20GU;20GI;20GAA",
  "130C;20GEE;20GE;20GO;20GOA;20GWA",
  "1312;20GWI;20GWAA;20GWEE;20GWE",
  "1318;20GGA;20GGU;20GGI;20GGAA;20GGEE;20GGE;20GGO;20GGWAA;20THA;20THU;20THI;20THAA;20THEE;20THE;20THO",
  "1327;20THWA;20CHA;20CHU;20CHI;20CHAA;20CHEE;20CHE;20CHO;20CHWA;20PHA;20PHU;20PHI;20PHAA;20PHEE;20PHE",
  "1336;20PHO;20PHWA;20TSA;20TSU;20TSI;20TSAA;20TSEE;20TSE;20TSO;20TSWA;20TZA;20TZU;20TZI;20TZAA;20TZEE",
  "1345;20TZE;20TZO;20TZOA;20FA;20FU;20FI;20FAA;20FEE;20FE;20FO;20FWA;20PA;20PU;20PI;20PAA;20PEE;20PE;20PO",
  "1357;20PWA;20RYA;20MYA;20FYA",
  "135D;10COMBINING GEMINATION AND VOWEL LENGTH MARK;23;21GEMINATION;11SECTION;10WORDSPACE;10FULL STOP",
  "1363;10COMMA;10SEMICOLON;10COLON;11PREFACE;10QUESTION MARK;10PARAGRAPH SEPARATOR;10DIGIT ONE;20TWO",
  "136B;20THREE;20FOUR;20FIVE;20SIX;20SEVEN;20EIGHT;20NINE;10NUMBER TEN;20TWENTY;20THIRTY;20FORTY;20FIFTY",
  "1377;20SIXTY;20SEVENTY;20EIGHTY;20NINETY;20HUNDRED;20TEN THOUSAND",
  "1380;10SYLLABLE SEBATBEIT MWA;20MWI;20MWEE;20MWE;20SEBATBEIT BWA;20BWI;20BWEE;20BWE;20SEBATBEIT FWA",
  "1389;20FWI;20FWEE;20FWE;20SEBATBEIT PWA;20PWI;20PWEE;20PWE;10TONAL MARK YIZET;30DERET;30RIKRIK;31SHORT",
  "1394;30DIFAT;30KENAT;30CHIRET;30HIDET;30DERET-HIDET;30KURT",
  "13A0;00CHEROKEE LETTER A;20E;20I;20O;20U;20V;20GA;20KA;20GE;20GI;20GO;20GU;20GV;20HA;20HE;20HI;20HO;20HU",
  "13B2;20HV;20LA;20LE;20LI;20LO;20LU;20LV;20MA;20ME;20MI;20MO;20MU;20NA;20HNA;20NAH;20NE;20NI;20NO;20NU",
  "13C5;20NV;20QUA;20QUE;20QUI;20QUO;20QUU;20QUV;20SA;20S;20SE;20SI;20SO;20SU;20SV;20DA;20TA;20DE;20TE;20DI",
  "13D8;20TI;20DO;20DU;20DV;20DLA;20TLA;20TLE;20TLI;20TLO;20TLU;20TLV;20TSA;20TSE;20TSI;20TSO;20TSU;20TSV",
  "13E9;20WA;20WE;20WI;20WO;20WU;20WV;20YA;20YE;20YI;20YO;20YU;20YV;20MV",
  "13F8;10SMALL LETTER YE;30YI;30YO;30YU;30YV;30MV",
  "1400;00CANADIAN SYLLABICS HYPHEN;20E;20AAI;20I;20II;20O;20OO;21Y-CREE;20CARRIER EE;30I;20A;20AA;20WE",
  "140D;21WEST-CREE;20WI;21WEST-CREE;20WII;21WEST-CREE;20WO;21WEST-CREE;20WOO;21WEST-CREE;21NASKAPI;20WA",
  "1418;21WEST-CREE;20WAA;21WEST-CREE;21NASKAPI;20AI;20Y-CREE W;20GLOTTAL STOP;20FINAL ACUTE;30GRAVE",
  "1421;30BOTTOM HALF RING;32TOP;32RIGHT;31;30DOUBLE ACUTE;40SHORT VERTICAL STROKES;30MIDDLE DOT",
  "1428;30SHORT HORIZONTAL STROKE;30PLUS;30DOWN TACK;20EN;20IN;20ON;20AN;20PE;20PAAI;20PI;20PII;20PO;20POO",
  "1435;21Y-CREE;20CARRIER HEE;30HI;20PA;20PAA;20PWE;21WEST-CREE;20PWI;21WEST-CREE;20PWII;21WEST-CREE;20PWO",
  "1441;21WEST-CREE;20PWOO;21WEST-CREE;20PWA;21WEST-CREE;20PWAA;21WEST-CREE;21Y-CREE;20P;21WEST-CREE",
  "144B;20CARRIER H;20TE;20TAAI;20TI;20TII;20TO;20TOO;21Y-CREE;20CARRIER DEE;30DI;20TA;20TAA;20TWE",
  "1458;21WEST-CREE;20TWI;21WEST-CREE;20TWII;21WEST-CREE;20TWO;21WEST-CREE;20TWOO;21WEST-CREE;20TWA",
  "1462;21WEST-CREE;20TWAA;21WEST-CREE;21NASKAPI;20T;20TTE;20TTI;20TTO;20TTA;20KE;20KAAI;20KI;20KII;20KO",
  "1470;20KOO;21Y-CREE;20KA;20KAA;20KWE;21WEST-CREE;20KWI;21WEST-CREE;20KWII;21WEST-CREE;20KWO;21WEST-CREE",
  "147C;20KWOO;21WEST-CREE;20KWA;21WEST-CREE;20KWAA;21WEST-CREE;21NASKAPI;20K;20KW;20SOUTH-SLAVEY KEH;30KIH",
  "1487;30KOH;30KAH;20CE;20CAAI;20CI;20CII;20CO;20COO;21Y-CREE;20CA;20CAA;20CWE;21WEST-CREE;20CWI",
  "1495;21WEST-CREE;20CWII;21WEST-CREE;20CWO;21WEST-CREE;20CWOO;21WEST-CREE;20CWA;21WEST-CREE;20CWAA",
  "149F;21WEST-CREE;21NASKAPI;20C;20SAYISI TH;20ME;20MAAI;20MI;20MII;20MO;20MOO;21Y-CREE;20MA;20MAA;20MWE",
  "14AD;21WEST-CREE;20MWI;21WEST-CREE;20MWII;21WEST-CREE;20MWO;21WEST-CREE;20MWOO;21WEST-CREE;20MWA",
  "14B7;21WEST-CREE;20MWAA;21WEST-CREE;21NASKAPI;20M;21WEST-CREE;20MH;20ATHAPASCAN M;21SAYISI;20NE;20NAAI",
  "14C2;20NI;20NII;20NO;20NOO;21Y-CREE;20NA;20NAA;20NWE;21WEST-CREE;20NWA;21WEST-CREE;20NWAA;21WEST-CREE",
  "14CF;21NASKAPI;20N;20CARRIER NG;20NH;20LE;20LAAI;20LI;20LII;20LO;20LOO;21Y-CREE;20LA;20LAA;20LWE",
  "14DD;21WEST-CREE;20LWI;21WEST-CREE;20LWII;21WEST-CREE;20LWO;21WEST-CREE;20LWOO;21WEST-CREE;20LWA",
  "14E7;21WEST-CREE;20LWAA;21WEST-CREE;20L;21WEST-CREE;21MEDIAL;20SE;20SAAI;20SI;20SII;20SO;20SOO;21Y-CREE",
  "14F4;20SA;20SAA;20SWE;21WEST-CREE;20SWI;21WEST-CREE;20SWII;21WEST-CREE;20SWO;21WEST-CREE;20SWOO",
  "14FF;21WEST-CREE;20SWA;21WEST-CREE;20SWAA;21WEST-CREE;21NASKAPI;20S;21ATHAPASCAN;20SW;20BLACKFOOT S",
  "1509;20MOOSE-CREE SK;20NASKAPI SKW;30S-W;30SPWA;30STWA;30SKWA;30SCWA;20SHE;20SHI;20SHII;20SHO;20SHOO",
  "1515;20SHA;20SHAA;20SHWE;21WEST-CREE;20SHWI;21WEST-CREE;20SHWII;21WEST-CREE;20SHWO;21WEST-CREE;20SHWOO",
  "1520;21WEST-CREE;20SHWA;21WEST-CREE;20SHWAA;21WEST-CREE;20SH;20YE;20YAAI;20YI;20YII;20YO;20YOO;21Y-CREE",
  "152D;20YA;20YAA;20YWE;21WEST-CREE;20YWI;21WEST-CREE;20YWII;21WEST-CREE;20YWO;21WEST-CREE;20YWOO",
  "1538;21WEST-CREE;20YWA;21WEST-CREE;20YWAA;21WEST-CREE;21NASKAPI;20Y;21BIBLE-CREE;21WEST-CREE;20SAYISI YI",
  "1542;20RE;21R-CREE;20WEST-CREE LE;20RAAI;20RI;20RII;20RO;20ROO;20WEST-CREE LO;20RA;20RAA;20WEST-CREE LA",
  "154E;20RWAA;21WEST-CREE;20R;21WEST-CREE;21MEDIAL;20FE;20FAAI;20FI;20FII;20FO;20FOO;20FA;20FAA;20FWAA",
  "155C;21WEST-CREE;20F;20THE;21N-CREE;20THI;21N-CREE;20THII;21N-CREE;20THO;20THOO;20THA;20THAA;20THWAA",
  "1569;21WEST-CREE;20TH;20TTHE;20TTHI;20TTHO;20TTHA;20TTH;20TYE;20TYI;20TYO;20TYA;20NUNAVIK HE;30HI;30HII",
  "1577;30HO;30HOO;30HA;30HAA;30H;21NUNAVUT;20HK;20QAAI;20QI;20QII;20QO;20QOO;20QA;20QAA;20Q;20TLHE;20TLHI",
  "1588;20TLHO;20TLHA;20WEST-CREE RE;30RI;30RO;30RA;20NGAAI;20NGI;20NGII;20NGO;20NGOO;20NGA;20NGAA;20NG",
  "1596;20NNG;20SAYISI SHE;30SHI;30SHO;30SHA;20WOODS-CREE THE;30THI;30THO;30THA;30TH;20LHI;20LHII;20LHO",
  "15A3;20LHOO;20LHA;20LHAA;20LH;20TH-CREE THE;30THI;30THII;30THO;30THOO;30THA;30THAA;30TH;20AIVILIK B",
  "15B0;20BLACKFOOT E;30I;30O;30A;30WE;30WI;30WO;30WA;30NE;30NI;30NO;30NA;30KE;30KI;30KO;30KA;20SAYISI HE",
  "15C1;30HI;30HO;30HA;20CARRIER GHU;30GHO;30GHE;30GHEE;30GHI;30GHA;30RU;30RO;30RE;30REE;30RI;30RA;30WU",
  "15D1;30WO;30WE;30WEE;30WI;30WA;30HWU;30HWO;30HWE;30HWEE;30HWI;30HWA;30THU;30THO;30THE;30THEE;30THI;30THA",
  "15E2;30TTU;30TTO;30TTE;30TTEE;30TTI;30TTA;30PU;30PO;30PE;30PEE;30PI;30PA;30P;30GU;30GO;30GE;30GEE;30GI",
  "15F4;30GA;30KHU;30KHO;30KHE;30KHEE;30KHI;30KHA;30KKU;30KKO;30KKE;30KKEE;30KKI;30KKA;30KK;30NU;30NO;30NE",
  "1605;30NEE;30NI;30NA;30MU;30MO;30ME;30MEE;30MI;30MA;30YU;30YO;30YE;30YEE;30YI;30YA;30JU;21SAYISI",
  "1616;20CARRIER JO;30JE;30JEE;30JI;21SAYISI;20CARRIER JA;30JJU;30JJO;30JJE;30JJEE;30JJI;30JJA;30LU;30LO",
  "1624;30LE;30LEE;30LI;30LA;30DLU;30DLO;30DLE;30DLEE;30DLI;30DLA;30LHU;30LHO;30LHE;30LHEE;30LHI;30LHA",
  "1634;30TLHU;30TLHO;30TLHE;30TLHEE;30TLHI;30TLHA;30TLU;30TLO;30TLE;30TLEE;30TLI;30TLA;30ZU;30ZO;30ZE",
  "1643;30ZEE;30ZI;30ZA;30Z;31INITIAL;30DZU;30DZO;30DZE;30DZEE;30DZI;30DZA;30SU;30SO;30SE;30SEE;30SI;30SA",
  "1654;30SHU;30SHO;30SHE;30SHEE;30SHI;30SHA;30SH;30TSU;30TSO;30TSE;30TSEE;30TSI;30TSA;30CHU;30CHO;30CHE",
  "1664;30CHEE;30CHI;30CHA;30TTSU;30TTSO;30TTSE;30TTSEE;30TTSI;30TTSA;20CHI SIGN;20FULL STOP;20QAI;20NGAI",
  "1671;20NNGI;20NNGII;20NNGO;20NNGOO;20NNGA;20NNGAA;20WOODS-CREE THWEE;30THWI;30THWII;30THWO;30THWOO",
  "167C;30THWA;30THWAA;30FINAL TH;20BLACKFOOT W;00OGHAM SPACE MARK;10LETTER BEITH;20LUIS;20FEARN;20SAIL",
  "1685;20NION;20UATH;20DAIR;20TINNE;20COLL;20CEIRT;20MUIN;20GORT;20NGEADAL;20STRAIF;20RUIS;20AILM;20ONN",
  "1692;20UR;20EADHADH;20IODHADH;20EABHADH;20OR;20UILLEANN;20IFIN;20EAMHANCHOLL;20PEITH;10FEATHER MARK",
  "169C;12REVERSED",
  "16A0;00RUNIC LETTER FEHU FEOH FE F;20V;20URUZ UR U;20YR;20Y;20W;20THURISAZ THURS THORN;20ETH;20ANSUZ A",
  "16A9;20OS O;20AC A;20AESC;20LONG-BRANCH-OSS O;21SHORT-TWIG-OSS;21;20OE;20ON;20RAIDO RAD REID R;20KAUNA",
  "16B3;20CEN;20KAUN K;20G;20ENG;20GEBO GYFU G;20GAR;20WUNJO WYNN W;20HAGLAZ H;21HAEGL;21LONG-BRANCH-HAGALL",
  "16BD;21SHORT-TWIG-HAGALL;20NAUDIZ NYD NAUD N;21SHORT-TWIG-NAUD;20DOTTED-N;20ISAZ IS ISS I;20E;20JERAN J",
  "16C4;20GER;20LONG-BRANCH-AR AE;20SHORT-TWIG-AR A;20IWAZ EOH;20PERTHO PEORTH P;20ALGIZ EOLHX;20SOWILO S",
  "16CB;21SIGEL LONG-BRANCH-SOL;21SHORT-TWIG-SOL;20C;20Z;20TIWAZ TIR TYR T;21SHORT-TWIG-TYR;20D",
  "16D2;20BERKANAN BEORC BJARKAN B;21SHORT-TWIG-BJARKAN;20DOTTED-P;20OPEN-P;20EHWAZ EH E;20MANNAZ MAN M",
  "16D8;21LONG-BRANCH-MADR;21SHORT-TWIG-MADR;20LAUKAZ LAGU LOGR L;20DOTTED-L;20INGWAZ;20ING;20DAGAZ DAEG D",
  "16DF;20OTHALAN ETHEL O;20EAR;20IOR;20CWEORTH;20CALC;20CEALC;20STAN;20LONG-BRANCH-YR;20SHORT-TWIG-YR",
  "16E8;20ICELANDIC-YR;20Q;20X;10SINGLE PUNCTUATION;11MULTIPLE;11CROSS;10ARLAUG SYMBOL;11TVIMADUR",
  "16F0;11BELGTHOR;10LETTER K;20SH;20OO;20FRANKS CASKET OS;40IS;40EH;40AC;40AESC",
  "1700;00TAGALOG LETTER A;20I;20U;20KA;20GA;20NGA;20TA;20DA;20NA;20PA;20BA;20MA;20YA;20RA;20LA;20WA;20SA",
  "1711;20HA;10VOWEL SIGN I;30U;10SIGN VIRAMA;20PAMUDPOD",
  "171F;10LETTER ARCHAIC RA;00HANUNOO LETTER A;20I;20U;20KA;20GA;20NGA;20TA;20DA;20NA;20PA;20BA;20MA;20YA",
  "172D;20RA;20LA;20WA;20SA;20HA;10VOWEL SIGN I;30U;10SIGN PAMUDPOD;00PHILIPPINE SINGLE PUNCTUATION",
  "1736;11DOUBLE",
  "1740;00BUHID LETTER A;20I;20U;20KA;20GA;20NGA;20TA;20DA;20NA;20PA;20BA;20MA;20YA;20RA;20LA;20WA;20SA",
  "1751;20HA;10VOWEL SIGN I;30U",
  "1760;00TAGBANWA LETTER A;20I;20U;20KA;20GA;20NGA;20TA;20DA;20NA;20PA;20BA;20MA;20YA",
  "176E;20LA;20WA;20SA",
  "1772;10VOWEL SIGN I;30U",
  "1780;00KHMER LETTER KA;20KHA;20KO;20KHO;20NGO;20CA;20CHA;20CO;20CHO;20NYO;20DA;20TTHA;20DO;20TTHO;20NNO",
  "178F;20TA;20THA;20TO;20THO;20NO;20BA;20PHA;20PO;20PHO;20MO;20YO;20RO;20LO;20VO;20SHA;20SSO;20SA;20HA",
  "17A1;20LA;20QA;10INDEPENDENT VOWEL QAQ;30QAA;30QI;30QII;30QU;30QUK;30QUU;30QUUV;30RY;30RYY;30LY;30LYY",
  "17AF;30QE;30QAI;30QOO TYPE ONE;50TWO;30QAU;10VOWEL INHERENT AQ;30AA;21SIGN;30I;30II;30Y;30YY;30U;30UU",
  "17BD;30UA;30OE;30YA;30IE;30E;30AE;30AI;30OO;30AU;10SIGN NIKAHIT;20REAHMUK;20YUUKALEAPINTU;20MUUSIKATOAN",
  "17CA;20TRIISAP;20BANTOC;20ROBAT;20TOANDAKHIAT;20KAKABAT;20AHSDA;20SAMYOK SANNYA;20VIRIAM;20COENG",
  "17D3;20BATHAMASAT;20KHAN;20BARIYOOSAN;20CAMNUC PII KUUH;20LEK TOO;20BEYYAL;20PHNAEK MUAN;20KOOMUUT",
  "17DB;10CURRENCY SYMBOL RIEL;10SIGN AVAKRAHASANYA;20ATTHACAN",
  "17E0;10DIGIT ZERO;20ONE;20TWO;20THREE;20FOUR;20FIVE;20SIX;20SEVEN;20EIGHT;20NINE",
  "17F0;10SYMBOL LEK ATTAK SON;40MUOY;40PII;40BEI;40BUON;40PRAM;40PRAM-MUOY;40PRAM-PII;40PRAM-BEI",
  "17F9;40PRAM-BUON",
  "1800;00MONGOLIAN BIRGA;10ELLIPSIS;10COMMA;10FULL STOP;10COLON;10FOUR DOTS;10TODO SOFT HYPHEN",
  "1807;10SIBE SYLLABLE BOUNDARY MARKER;10MANCHU COMMA;20FULL STOP;10NIRUGU;10FREE VARIATION SELECTOR ONE",
  "180C;40TWO;40THREE;10VOWEL SEPARATOR;10FREE VARIATION SELECTOR FOUR;10DIGIT ZERO;20ONE;20TWO;20THREE",
  "1814;20FOUR;20FIVE;20SIX;20SEVEN;20EIGHT;20NINE",
  "1820;10LETTER A;20E;20I;20O;20U;20OE;20UE;20EE;20NA;20ANG;20BA;20PA;20QA;20GA;20MA;20LA;20SA;20SHA;20TA",
  "1833;20DA;20CHA;20JA;20YA;20RA;20WA;20FA;20KA;20KHA;20TSA;20ZA;20HAA;20ZRA;20LHA;20ZHI;20CHI",
  "1843;20TODO LONG VOWEL SIGN;30E;30I;30O;30U;30OE;30UE;30ANG;30BA;30PA;30QA;30GA;30MA;30TA;30DA;30CHA",
  "1853;30JA;30TSA;30YA;30WA;30KA;30GAA;30HAA;30JIA;30NIA;30DZA;20SIBE E;30I;30IY;30UE;30U;30ANG;30KA;30GA",
  "1865;30HA;30PA;30SHA;30TA;30DA;30JA;30FA;30GAA;30HAA;30TSA;30ZA;30RAA;30CHA;30ZHA;20MANCHU I;30KA;30RA",
  "1876;30FA;30ZHA;20CHA WITH TWO DOTS",
  "1880;20ALI GALI ANUSVARA ONE;41VISARGA;40DAMARU;40UBADAMA;41INVERTED;40BALUDA;41THREE;40A;40I;40KA;40NGA",
  "188B;40CA;40TTA;40TTHA;40DDA;40NNA;40TA;40DA;40PA;40PHA;40SSA;40ZHA;40ZA;40AH;20TODO ALI GALI TA;50ZHA",
  "189A;20MANCHU ALI GALI GHA;50NGA;50CA;50JHA;50TTA;50DDHA;50TA;50DHA;50SSA;50CYA;50ZHA;50ZA",
  "18A6;20ALI GALI HALF U;50YA;20MANCHU ALI GALI BHA;20ALI GALI DAGALGA;20MANCHU ALI GALI LHA",
  "18B0;00CANADIAN SYLLABICS OY;20AY;20AAY;20WAY;20POY;20PAY;20PWOY;20TAY;20KAY;20KWAY;20MAY;20NOY;20NAY",
  "18BD;20LAY;20SOY;20SAY;20SHOY;20SHAY;20SHWOY;20YOY;20YAY;20RAY;20NWI;21OJIBWAY;20NWII;21OJIBWAY;20NWO",
  "18CB;21OJIBWAY;20NWOO;21OJIBWAY;20RWEE;20RWI;20RWII;20RWO;20RWOO;20RWA;20OJIBWAY P;30T;30K;30C;30M;30N",
  "18DA;30S;30SH;20EASTERN W;21WESTERN;20FINAL SMALL RING;30RAISED DOT;20R-CREE RWE;20WEST-CREE LOO;30LAA",
  "18E3;20THWE;20THWA;20TTHWE;20TTHOO;20TTHAA;20TLHWE;20TLHOO;20SAYISI SHWE;30SHOO;30HOO;20CARRIER GWU",
  "18EE;30DENE GEE;30GAA;30GWA;20SAYISI JUU;20CARRIER JWA;20BEAVER DENE L;40R;20CARRIER DENTAL S",
  "1900;00LIMBU VOWEL-CARRIER LETTER;10LETTER KA;20KHA;20GA;20GHA;20NGA;20CA;20CHA;20JA;20JHA;20YAN;20TA",
  "190C;20THA;20DA;20DHA;20NA;20PA;20PHA;20BA;20BHA;20MA;20YA;20RA;20LA;20WA;20SHA;20SSA;20SA;20HA;20GYAN",
  "191E;20TRA",
  "1920;10VOWEL SIGN A;30I;30U;30EE;30AI;30OO;30AU;30E;30O;10SUBJOINED LETTER YA;30RA;30WA",
  "1930;10SMALL LETTER KA;30NGA;30ANUSVARA;30TA;30NA;30PA;30MA;30RA;30LA;10SIGN MUKPHRENG;20KEMPHRENG",
  "193B;20SA-I",
  "1940;20LOO",
  "1944;10EXCLAMATION MARK;11QUESTION;10DIGIT ZERO;20ONE;20TWO;20THREE;20FOUR;20FIVE;20SIX;20SEVEN;20EIGHT",
  "194F;20NINE;00TAI LE LETTER KA;30XA;30NGA;30TSA;30SA;30YA;30TA;30THA;30LA;30PA;30PHA;30MA;30FA;30VA;30HA",
  "195F;30QA;30KHA;30TSHA;30NA;30A;30I;30EE;30EH;30U;30OO;30O;30UE;30E;30AUE;30AI",
  "1970;30TONE-2;30TONE-3;30TONE-4;30TONE-5;30TONE-6",
  "1980;00NEW TAI LUE LETTER HIGH QA;41LOW;40HIGH KA;50XA;50NGA;40LOW KA;50XA;50NGA;40HIGH TSA;50SA;50YA",
  "198B;40LOW TSA;50SA;50YA;40HIGH TA;50THA;50NA;40LOW TA;50THA;50NA;40HIGH PA;50PHA;50MA;40LOW PA;50PHA",
  "1999;50MA;40HIGH FA;50VA;50LA;40LOW FA;50VA;50LA;40HIGH HA;50DA;50BA;40LOW HA;50DA;50BA;40HIGH KVA;50XVA",
  "19A8;40LOW KVA;50XVA;40HIGH SUA;41LOW",
  "19B0;30VOWEL SIGN VOWEL SHORTENER;50AA;50II;50U;50UU;50E;50AE;50O;50OA;50UE;50AY;50AAY;50UY;50OY;50OAY",
  "19BF;50UEY;50IY;30LETTER FINAL V;50NG;50N;50M;50K;50D;50B;30TONE MARK-1;40MARK-2",
  "19D0;30DIGIT ZERO;40ONE;40TWO;40THREE;40FOUR;40FIVE;40SIX;40SEVEN;40EIGHT;40NINE;30THAM DIGIT ONE",
  "19DE;30SIGN LAE;40LAEV;00KHMER SYMBOL PATHAMASAT;20MUOY KOET;21PII;21BEI;21BUON;21PRAM;21PRAM-MUOY",
  "19E7;21PRAM-PII;21PRAM-BEI;21PRAM-BUON;21DAP;21DAP-MUOY;21DAP-PII;21DAP-BEI;21DAP-BUON;21DAP-PRAM",
  "19F0;20TUTEYASAT;20MUOY ROC;21PII;21BEI;21BUON;21PRAM;21PRAM-MUOY;21PRAM-PII;21PRAM-BEI;21PRAM-BUON",
  "19FA;21DAP;21DAP-MUOY;21DAP-PII;21DAP-BEI;21DAP-BUON;21DAP-PRAM;00BUGINESE LETTER KA;20GA;20NGA;20NGKA",
  "1A04;20PA;20BA;20MA;20MPA;20TA;20DA;20NA;20NRA;20CA;20JA;20NYA;20NYCA;20YA;20RA;20LA;20VA;20SA;20A;20HA",
  "1A17;10VOWEL SIGN I;30U;30E;30O;30AE",
  "1A1E;10PALLAWA;10END OF SECTION;00TAI THAM LETTER HIGH KA;40KHA;40KXA;30LOW KA;40KXA;40KHA;30NGA",
  "1A27;30HIGH CA;40CHA;30LOW CA;40SA;40CHA;30NYA;30RATA;30HIGH RATHA;30DA;30LOW RATHA;30RANA;30HIGH TA",
  "1A33;40THA;30LOW TA;40THA;30NA;30BA;30HIGH PA;40PHA;40FA;30LOW PA;40FA;40PHA;30MA;30LOW YA;31HIGH;30RA",
  "1A42;30RUE;30LA;30LUE;30WA;30HIGH SHA;40SSA;40SA;40HA;30LLA;30A;30LOW HA;30I;30II;30U;30UU;30EE;30OO",
  "1A53;30LAE;30GREAT SA;20CONSONANT SIGN MEDIAL RA;50LA;40LA TANG LAI;21SIGN MAI KANG",
  "1A59;20CONSONANT SIGN FINAL NGA;40LOW PA;42HIGH RATHA OR;40MA;40BA;40SA",
  "1A60;20SIGN SAKOT;20VOWEL SIGN A;40MAI SAT;40AA;41TALL;40I;40II;40UE;40UUE;40U;40UU;40O;40OA BELOW;40OY",
  "1A6E;40E;40AE;40OO;40AI;41THAM;40OA ABOVE;20SIGN MAI KANG;30TONE-1;30TONE-2;30KHUEN TONE-3;40TONE-4",
  "1A79;40TONE-5;30RA HAAM;30MAI SAM;30KHUEN-LUE KARAN"]

private def characterNameRows6 : List String := [
  "1A7F;20COMBINING CRYPTOGRAMMIC DOT;20HORA DIGIT ZERO;40ONE;40TWO;40THREE;40FOUR;40FIVE;40SIX;40SEVEN",
  "1A88;40EIGHT;40NINE",
  "1A90;20THAM DIGIT ZERO;40ONE;40TWO;40THREE;40FOUR;40FIVE;40SIX;40SEVEN;40EIGHT;40NINE",
  "1AA0;20SIGN WIANG;30WIANGWAAK;30SAWAN;30KEOW;30HOY;30DOKMAI;30REVERSED ROTATED RANA;30MAI YAMOK;30KAAN",
  "1AA9;30KAANKUU;30SATKAAN;30SATKAANKUU;30HANG;30CAANG",
  "1AB0;00COMBINING DOUBLED CIRCUMFLEX ACCENT;10DIAERESIS-RING;10INFINITY;10DOWNWARDS ARROW;10TRIPLE DOT",
  "1AB5;10X-X BELOW;11WIGGLY LINE;11OPEN MARK;13DOUBLE;11LIGHT CENTRALIZATION STROKE;13STRONG",
  "1ABB;10PARENTHESES ABOVE;12DOUBLE;10PARENTHESES BELOW;20OVERLAY;10LATIN SMALL LETTER W BELOW;42TURNED",
  "1AC1;10LEFT PARENTHESIS ABOVE LEFT;10RIGHT PARENTHESIS ABOVE RIGHT;10LEFT PARENTHESIS BELOW LEFT",
  "1AC4;10RIGHT PARENTHESIS BELOW RIGHT;10SQUARE BRACKETS ABOVE;11NUMBER SIGN;11INVERTED DOUBLE ARCH",
  "1AC8;11PLUS SIGN;13DOUBLE;40BELOW;10TRIPLE ACUTE ACCENT;10LATIN SMALL LETTER INSULAR G;50R;50T",
  "1B00;00BALINESE SIGN ULU RICEM;30CANDRA;20CECEK;20SURANG;20BISAH;10LETTER AKARA;30TEDUNG;20IKARA",
  "1B08;30TEDUNG;20UKARA;30TEDUNG;20RA REPA;40TEDUNG;20LA LENGA;40TEDUNG;20EKARA;20AIKARA;20OKARA;30TEDUNG",
  "1B13;20KA;30MAHAPRANA;20GA;30GORA;20NGA;20CA;30LACA;20JA;30JERA;20NYA;20TA LATIK;30MURDA MAHAPRANA",
  "1B1F;20DA MURDA ALPAPRANA;40MAHAPRANA;20NA RAMBAT;20TA;30TAWA;20DA;30MADU;20NA;20PA;30KAPAL;20BA",
  "1B2A;30KEMBANG;20MA;20YA;20RA;20LA;20WA;20SA SAGA;30SAPA;30;20HA;10SIGN REREKAN;10VOWEL SIGN TEDUNG",
  "1B36;30ULU;40SARI;30SUKU;40ILUT;30RA REPA;50TEDUNG;30LA LENGA;50TEDUNG;30TALING;40REPA;40TEDUNG;41REPA",
  "1B42;30PEPET;40TEDUNG;10ADEG ADEG;10LETTER KAF SASAK;21KHOT;21TZIR;21EF;21VE;21ZAL;21ASYURA",
  "1B4C;20ARCHAIC JNYA",
  "1B50;10DIGIT ZERO;20ONE;20TWO;20THREE;20FOUR;20FIVE;20SIX;20SEVEN;20EIGHT;20NINE;10PANTI;10PAMADA",
  "1B5C;10WINDU;10CARIK PAMUNGKAH;20SIKI;20PAREREN;10PAMENENG;10MUSICAL SYMBOL DONG;30DENG;30DUNG;30DANG",
  "1B65;40SURANG;30DING;30DAENG;30DEUNG;30DAING;30DANG GEDE;30COMBINING TEGEH;40ENDEP;40KEMPUL;40KEMPLI",
  "1B6F;40JEGOGAN;41KEMPUL WITH;42KEMPLI;40BENDE;40GONG;30RIGHT-HAND OPEN DUG;50DAG;40CLOSED TUK;50TAK",
  "1B78;30LEFT-HAND OPEN PANG;50PUNG;40CLOSED PLAK;50PLUK;40OPEN PING;10PANTI LANTANG;11PAMADA",
  "1B80;00SUNDANESE SIGN PANYECEK;20PANGLAYAR;20PANGWISAD;10LETTER A;20I;20U;20AE;20O;20E;20EU;20KA;20QA",
  "1B8C;20GA;20NGA;20CA;20JA;20ZA;20NYA;20TA;20DA;20NA;20PA;20FA;20VA;20BA;20MA;20YA;20RA;20LA;20WA;20SA",
  "1B9F;20XA;20HA;10CONSONANT SIGN PAMINGKAL;30PANYAKRA;30PANYIKU;10VOWEL SIGN PANGHULU;30PANYUKU",
  "1BA6;30PANAELAENG;30PANOLONG;30PAMEPET;30PANEULEUNG;10SIGN PAMAAEH;20VIRAMA;10CONSONANT SIGN PASANGAN MA",
  "1BAD;40WA;10LETTER KHA;20SYA;10DIGIT ZERO;20ONE;20TWO;20THREE;20FOUR;20FIVE;20SIX;20SEVEN;20EIGHT;20NINE",
  "1BBA;10AVAGRAHA;10LETTER REU;20LEU;20BHA;20FINAL K;30M;00BATAK LETTER A;21SIMALUNGUN;20HA;21SIMALUNGUN",
  "1BC4;21MANDAILING;20BA;21KARO;20PA;21SIMALUNGUN;20NA;21MANDAILING;20WA;21SIMALUNGUN;21PAKPAK;20GA",
  "1BCF;21SIMALUNGUN;20JA;20DA;20RA;21SIMALUNGUN;20MA;21SIMALUNGUN;20SOUTHERN TA;21NORTHERN;20SA",
  "1BD9;21SIMALUNGUN;21MANDAILING;20YA;21SIMALUNGUN;20NGA;20LA;21SIMALUNGUN;20NYA;20CA;20NDA;20MBA;20I;20U",
  "1BE6;10SIGN TOMPI;10VOWEL SIGN E;31PAKPAK;30EE;30I;31KARO;30O;31KARO;30U;40FOR SIMALUNGUN SA",
  "1BF0;10CONSONANT SIGN NG;30H;10PANGOLAT;10PANONGONAN",
  "1BFC;10SYMBOL BINDU NA METEK;30PINARBORAS;30JUDUL;30PANGOLAT;00LEPCHA LETTER KA;20KLA;20KHA;20GA;20GLA",
  "1C05;20NGA;20CA;20CHA;20JA;20NYA;20TA;20THA;20DA;20NA;20PA;20PLA;20PHA;20FA;20FLA;20BA;20BLA;20MA;20MLA",
  "1C17;20TSA;20TSHA;20DZA;20YA;20RA;20LA;20HA;20HLA;20VA;20SA;20SHA;20WA;20A;10SUBJOINED LETTER YA;30RA",
  "1C26;10VOWEL SIGN AA;30I;30O;30OO;30U;30UU;30E;10CONSONANT SIGN K;30M;30L;30N;30P;30R;30T;30NYIN-DO",
  "1C35;30KANG;10SIGN RAN;20NUKTA",
  "1C3B;10PUNCTUATION TA-ROL;21NYET THYOOM;20CER-WA;21TSHOOK;30;10DIGIT ZERO;20ONE;20TWO;20THREE;20FOUR",
  "1C45;20FIVE;20SIX;20SEVEN;20EIGHT;20NINE",
  "1C4D;10LETTER TTA;20TTHA;20DDA;00OL CHIKI DIGIT ZERO;30ONE;30TWO;30THREE;30FOUR;30FIVE;30SIX;30SEVEN",
  "1C58;30EIGHT;30NINE;20LETTER LA;30AT;30AG;30ANG;30AL;30LAA;30AAK;30AAJ;30AAM;30AAW;30LI;30IS;30IH;30INY",
  "1C68;30IR;30LU;30UC;30UD;30UNN;30UY;30LE;30EP;30EDD;30EN;30ERR;30LO;30OTT;30OB;30OV;30OH;20MU TTUDDAG",
  "1C79;20GAAHLAA TTUDDAAG;21MU-GAAHLAA;20RELAA;20PHAARKAA;20AHAD;20PUNCTUATION MUCAAD;31DOUBLE",
  "1C80;00CYRILLIC SMALL LETTER ROUNDED VE;30LONG-LEGGED DE;30NARROW O;30WIDE ES;30TALL TE;31THREE-LEGGED",
  "1C86;30TALL HARD SIGN;40YAT;30UNBLENDED UK",
  "1C90;00GEORGIAN MTAVRULI CAPITAL LETTER AN;40BAN;40GAN;40DON;40EN;40VIN;40ZEN;40TAN;40IN;40KAN;40LAS",
  "1C9B;40MAN;40NAR;40ON;40PAR;40ZHAR;40RAE;40SAN;40TAR;40UN;40PHAR;40KHAR;40GHAN;40QAR;40SHIN;40CHIN;40CAN",
  "1CAB;40JIL;40CIL;40CHAR;40XAN;40JHAN;40HAE;40HE;40HIE;40WE;40HAR;40HOE;40FI;40YN;40ELIFI;40TURNED GAN",
  "1CBA;40AIN",
  "1CBD;40AEN;40HARD SIGN;41LABIAL;00SUNDANESE PUNCTUATION BINDU SURYA;30PANGLONG;30PURNAMA;30CAKRA",
  "1CC4;30LEU SATANGA;31KA;31DA;31BA",
  "1CD0;00VEDIC TONE KARSHANA;20SHARA;20PRENKHA;10SIGN NIHSHVASA;20YAJURVEDIC MIDLINE SVARITA",
  "1CD5;11TONE YAJURVEDIC AGGRAVATED INDEPENDENT;32;32KATHAKA;20CANDRA BELOW",
  "1CD9;20YAJURVEDIC KATHAKA INDEPENDENT SVARITA SCHROEDER;20DOUBLE SVARITA;21TRIPLE;20KATHAKA ANUDATTA",
  "1CDD;20DOT BELOW;21TWO DOTS;22THREE;20RIGVEDIC KASHMIRI INDEPENDENT SVARITA;22ATHARVAVEDIC",
  "1CE2;11SIGN VISARGA;30UDATTA;22REVERSED;20VISARGA ANUDATTA;22REVERSED;20VISARGA UDATTA WITH TAIL",
  "1CE8;32ANUDATTA;20ANUSVARA ANTARGOMUKHA;30BAHIRGOMUKHA;30VAMAGOMUKHA;40WITH TAIL;20TIRYAK",
  "1CEE;20HEXIFORM LONG ANUSVARA;22;22RTHANG;20ANUSVARA UBHAYATO MUKHA;20ARDHAVISARGA;21ROTATED",
  "1CF4;10TONE CANDRA ABOVE;10SIGN JIHVAMULIYA;20UPADHMANIYA;20ATIKRAMA;10TONE RING ABOVE;22DOUBLE",
  "1CFA;10SIGN DOUBLE ANUSVARA ANTARGOMUKHA",
  "1D00;00LATIN LETTER SMALL CAPITAL A;40AE;11SMALL LETTER TURNED;10LETTER SMALL CAPITAL BARRED B;40C;40D",
  "1D06;40ETH;40E;11SMALL LETTER TURNED OPEN;40I;10LETTER SMALL CAPITAL J;40K;40L WITH STROKE;40M",
  "1D0E;40REVERSED N;40O;41OPEN;11SMALL LETTER SIDEWAYS;41OPEN;40O WITH STROKE;30TURNED OE",
  "1D15;10LETTER SMALL CAPITAL OU;10SMALL LETTER TOP HALF O;32BOTTOM;10LETTER SMALL CAPITAL P;40REVERSED R",
  "1D1A;41TURNED;40T;40U;11SMALL LETTER SIDEWAYS;41DIAERESIZED;40TURNED M;10LETTER SMALL CAPITAL V;40W;40Z",
  "1D23;40EZH;20VOICED LARYNGEAL SPIRANT;20AIN;00GREEK LETTER SMALL CAPITAL GAMMA;40LAMDA;40PI;40RHO;40PSI",
  "1D2B;00CYRILLIC LETTER SMALL CAPITAL EL;00MODIFIER LETTER CAPITAL A;30AE;30B;31BARRED;30D;30E;31REVERSED",
  "1D33;30G;30H;30I;30J;30K;30L;30M;30N;31REVERSED;30O;30OU;30P;30R;30T;30U;30W;20SMALL A;31TURNED;30ALPHA",
  "1D46;30TURNED AE;30B;30D;30E;30SCHWA;30OPEN E;32TURNED;30G;30TURNED I;30K;30M;30ENG;30O;31OPEN",
  "1D54;31TOP HALF;32BOTTOM;30P;30T;30U;31SIDEWAYS;30TURNED M;30V;30AIN;30BETA;30GREEK GAMMA;30DELTA",
  "1D60;30GREEK PHI;30CHI;00LATIN SUBSCRIPT SMALL LETTER I;40R;40U;40V;00GREEK SUBSCRIPT SMALL LETTER BETA",
  "1D67;40GAMMA;40RHO;40PHI;40CHI;00LATIN SMALL LETTER UE;30B WITH MIDDLE TILDE;33D;33F;33M;33N;33P;33R",
  "1D73;52FISHHOOK AND;32S WITH;33T;33Z;30TURNED G;00MODIFIER LETTER CYRILLIC EN",
  "1D79;00LATIN SMALL LETTER INSULAR G;30TH WITH STRIKETHROUGH;20CAPITAL LETTER I WITH STROKE;22LETTER IOTA",
  "1D7D;32P;22CAPITAL LETTER U;22LETTER UPSILON;30B WITH PALATAL HOOK;33D;33F;33G;33K;33L;33M;33N;33P;33R",
  "1D8A;33S;33ESH;33V;33X;33Z;31A WITH RETROFLEX;33ALPHA;30D WITH HOOK AND TAIL;30E WITH RETROFLEX HOOK",
  "1D93;34OPEN;35REVERSED;33SCHWA;33I;33OPEN O;33ESH;33U;33EZH;00MODIFIER LETTER SMALL TURNED ALPHA;30C",
  "1D9D;40WITH CURL;30ETH;30REVERSED OPEN E;30F;30DOTLESS J WITH STROKE;30SCRIPT G;30TURNED H",
  "1DA4;30I WITH STROKE;30IOTA;30CAPITAL I;50WITH STROKE;30J WITH CROSSED-TAIL;30L WITH RETROFLEX HOOK",
  "1DAA;51PALATAL;30CAPITAL L;30M WITH HOOK;30TURNED M WITH LONG LEG;30N WITH LEFT HOOK;51RETROFLEX",
  "1DB0;30CAPITAL N;30BARRED O;30PHI;30S WITH HOOK;30ESH;30T WITH PALATAL HOOK;30U BAR;30UPSILON",
  "1DB8;30CAPITAL U;30V WITH HOOK;30TURNED V;30Z;40WITH RETROFLEX HOOK;50CURL;30EZH;30THETA",
  "1DC0;00COMBINING DOTTED GRAVE ACCENT;21ACUTE;10SNAKE BELOW;10SUSPENSION MARK;10MACRON-ACUTE",
  "1DC5;10GRAVE-MACRON;10MACRON-GRAVE;10ACUTE-MACRON;10GRAVE-ACUTE-GRAVE;10ACUTE-GRAVE-ACUTE",
  "1DCA;10LATIN SMALL LETTER R BELOW;10BREVE-MACRON;10MACRON-BREVE;10DOUBLE CIRCUMFLEX ABOVE;11OGONEK",
  "1DCF;10ZIGZAG BELOW;11IS;10UR ABOVE;11US;11LATIN SMALL LETTER FLATTENED OPEN A;40AE;40AO;40AV",
  "1DD7;40C CEDILLA;40INSULAR D;40ETH;40G;21LETTER SMALL CAPITAL;20SMALL LETTER K;40L",
  "1DDE;21LETTER SMALL CAPITAL;50M;20SMALL LETTER N;21LETTER SMALL CAPITAL;50R;20SMALL LETTER R ROTUNDA;40S",
  "1DE5;41LONG;40Z;40ALPHA;40B;40BETA;40SCHWA;40F;40L WITH DOUBLE MIDDLE TILDE",
  "1DED;40O WITH LIGHT CENTRALIZATION STROKE;40P;40ESH;40U WITH LIGHT CENTRALIZATION STROKE;40W",
  "1DF2;40A WITH DIAERESIS;42O;42U;10UP TACK ABOVE;10KAVYKA ABOVE RIGHT;30LEFT;12DOT",
  "1DF9;10WIDE INVERTED BRIDGE BELOW;10DOT BELOW LEFT;10DELETION MARK;10DOUBLE INVERTED BREVE BELOW",
  "1DFD;11ALMOST EQUAL TO;10LEFT ARROWHEAD ABOVE;10RIGHT ARROWHEAD AND DOWN ARROWHEAD BELOW",
  "1E00;01LATIN CAPITAL LETTER A WITH RING;15SMALL;10CAPITAL LETTER B WITH DOT ABOVE;15SMALL",
  "1E04;10CAPITAL LETTER B WITH DOT BELOW;15SMALL;11CAPITAL LETTER B WITH LINE;15SMALL",
  "1E08;10CAPITAL LETTER C WITH CEDILLA AND ACUTE;16SMALL;10CAPITAL LETTER D WITH DOT ABOVE;15SMALL",
  "1E0C;10CAPITAL LETTER D WITH DOT BELOW;15SMALL;11CAPITAL LETTER D WITH LINE;15SMALL",
  "1E10;10CAPITAL LETTER D WITH CEDILLA;14SMALL;10CAPITAL LETTER D WITH CIRCUMFLEX BELOW;15SMALL",
  "1E14;10CAPITAL LETTER E WITH MACRON AND GRAVE;16SMALL;10CAPITAL LETTER E WITH MACRON AND ACUTE;16SMALL",
  "1E18;10CAPITAL LETTER E WITH CIRCUMFLEX BELOW;15SMALL;11CAPITAL LETTER E WITH TILDE;15SMALL",
  "1E1C;10CAPITAL LETTER E WITH CEDILLA AND BREVE;16SMALL;10CAPITAL LETTER F WITH DOT ABOVE;15SMALL",
  "1E20;10CAPITAL LETTER G WITH MACRON;14SMALL;10CAPITAL LETTER H WITH DOT ABOVE;15SMALL",
  "1E24;10CAPITAL LETTER H WITH DOT BELOW;15SMALL;10CAPITAL LETTER H WITH DIAERESIS;14SMALL",
  "1E28;10CAPITAL LETTER H WITH CEDILLA;14SMALL;10CAPITAL LETTER H WITH BREVE BELOW;15SMALL",
  "1E2C;11CAPITAL LETTER I WITH TILDE;15SMALL;10CAPITAL LETTER I WITH DIAERESIS AND ACUTE;16SMALL",
  "1E30;11CAPITAL LETTER K WITH;14SMALL;10CAPITAL LETTER K WITH DOT BELOW;15SMALL",
  "1E34;11CAPITAL LETTER K WITH LINE;15SMALL;11CAPITAL LETTER L WITH DOT;15SMALL",
  "1E38;10CAPITAL LETTER L WITH DOT BELOW AND MACRON;17SMALL;10CAPITAL LETTER L WITH LINE BELOW;15SMALL",
  "1E3C;11CAPITAL LETTER L WITH CIRCUMFLEX;15SMALL;10CAPITAL LETTER M WITH ACUTE;14SMALL",
  "1E40;10CAPITAL LETTER M WITH DOT ABOVE;15SMALL;10CAPITAL LETTER M WITH DOT BELOW;15SMALL",
  "1E44;10CAPITAL LETTER N WITH DOT ABOVE;15SMALL;10CAPITAL LETTER N WITH DOT BELOW;15SMALL",
  "1E48;11CAPITAL LETTER N WITH LINE;15SMALL;11CAPITAL LETTER N WITH CIRCUMFLEX;15SMALL",
  "1E4C;10CAPITAL LETTER O WITH TILDE AND ACUTE;16SMALL;10CAPITAL LETTER O WITH TILDE AND DIAERESIS;16SMALL",
  "1E50;10CAPITAL LETTER O WITH MACRON AND GRAVE;16SMALL;10CAPITAL LETTER O WITH MACRON AND ACUTE;16SMALL",
  "1E54;11CAPITAL LETTER P WITH;14SMALL;10CAPITAL LETTER P WITH DOT ABOVE;15SMALL;13CAPITAL LETTER R",
  "1E59;15SMALL;10CAPITAL LETTER R WITH DOT BELOW;15SMALL;10CAPITAL LETTER R WITH DOT BELOW AND MACRON",
  "1E5D;17SMALL;10CAPITAL LETTER R WITH LINE BELOW;15SMALL;10CAPITAL LETTER S WITH DOT ABOVE;15SMALL",
  "1E62;10CAPITAL LETTER S WITH DOT BELOW;15SMALL;10CAPITAL LETTER S WITH ACUTE AND DOT ABOVE;17SMALL",
  "1E66;13CAPITAL LETTER S WITH CARON;17SMALL;13CAPITAL LETTER S WITH DOT BELOW;18SMALL",
  "1E6A;12CAPITAL LETTER T WITH;15SMALL;10CAPITAL LETTER T WITH DOT BELOW;15SMALL",
  "1E6E;11CAPITAL LETTER T WITH LINE;15SMALL;11CAPITAL LETTER T WITH CIRCUMFLEX;15SMALL",
  "1E72;11CAPITAL LETTER U WITH DIAERESIS;15SMALL;11CAPITAL LETTER U WITH TILDE;15SMALL",
  "1E76;11CAPITAL LETTER U WITH CIRCUMFLEX;15SMALL;10CAPITAL LETTER U WITH TILDE AND ACUTE;16SMALL",
  "1E7A;10CAPITAL LETTER U WITH MACRON AND DIAERESIS;16SMALL;10CAPITAL LETTER V WITH TILDE;14SMALL",
  "1E7E;10CAPITAL LETTER V WITH DOT BELOW;15SMALL;10CAPITAL LETTER W WITH GRAVE;14SMALL",
  "1E82;10CAPITAL LETTER W WITH ACUTE;14SMALL;10CAPITAL LETTER W WITH DIAERESIS;14SMALL",
  "1E86;10CAPITAL LETTER W WITH DOT ABOVE;15SMALL;10CAPITAL LETTER W WITH DOT BELOW;15SMALL",
  "1E8A;10CAPITAL LETTER X WITH DOT ABOVE;15SMALL;10CAPITAL LETTER X WITH DIAERESIS;14SMALL",
  "1E8E;10CAPITAL LETTER Y WITH DOT ABOVE;15SMALL;10CAPITAL LETTER Z WITH CIRCUMFLEX;14SMALL",
  "1E92;10CAPITAL LETTER Z WITH DOT BELOW;15SMALL;11CAPITAL LETTER Z WITH LINE;15SMALL;33H",
  "1E97;30T WITH DIAERESIS;30W WITH RING ABOVE;33Y;30A WITH RIGHT HALF RING;30LONG S WITH DOT ABOVE",
  "1E9C;60DIAGONAL STROKE;61HIGH;10CAPITAL LETTER SHARP S;10SMALL LETTER DELTA",
  "1EA0;10CAPITAL LETTER A WITH DOT BELOW;15SMALL;10CAPITAL LETTER A WITH HOOK ABOVE;15SMALL",
  "1EA4;10CAPITAL LETTER A WITH CIRCUMFLEX AND ACUTE;16SMALL;10CAPITAL LETTER A WITH CIRCUMFLEX AND GRAVE",
  "1EA7;16SMALL;10CAPITAL LETTER A WITH CIRCUMFLEX AND HOOK ABOVE;17SMALL",
  "1EAA;10CAPITAL LETTER A WITH CIRCUMFLEX AND TILDE;16SMALL",
  "1EAC;10CAPITAL LETTER A WITH CIRCUMFLEX AND DOT BELOW;17SMALL;10CAPITAL LETTER A WITH BREVE AND ACUTE",
  "1EAF;16SMALL;10CAPITAL LETTER A WITH BREVE AND GRAVE;16SMALL",
  "1EB2;10CAPITAL LETTER A WITH BREVE AND HOOK ABOVE;17SMALL;10CAPITAL LETTER A WITH BREVE AND TILDE",
  "1EB5;16SMALL;10CAPITAL LETTER A WITH BREVE AND DOT BELOW;17SMALL;12CAPITAL LETTER E WITH;15SMALL",
  "1EBA;10CAPITAL LETTER E WITH HOOK ABOVE;15SMALL;10CAPITAL LETTER E WITH TILDE;14SMALL",
  "1EBE;10CAPITAL LETTER E WITH CIRCUMFLEX AND ACUTE;16SMALL;10CAPITAL LETTER E WITH CIRCUMFLEX AND GRAVE",
  "1EC1;16SMALL;10CAPITAL LETTER E WITH CIRCUMFLEX AND HOOK ABOVE;17SMALL",
  "1EC4;10CAPITAL LETTER E WITH CIRCUMFLEX AND TILDE;16SMALL",
  "1EC6;10CAPITAL LETTER E WITH CIRCUMFLEX AND DOT BELOW;17SMALL;10CAPITAL LETTER I WITH HOOK ABOVE;15SMALL",
  "1ECA;10CAPITAL LETTER I WITH DOT BELOW;15SMALL;13CAPITAL LETTER O;15SMALL",
  "1ECE;10CAPITAL LETTER O WITH HOOK ABOVE;15SMALL;10CAPITAL LETTER O WITH CIRCUMFLEX AND ACUTE;16SMALL",
  "1ED2;10CAPITAL LETTER O WITH CIRCUMFLEX AND GRAVE;16SMALL",
  "1ED4;10CAPITAL LETTER O WITH CIRCUMFLEX AND HOOK ABOVE;17SMALL",
  "1ED6;10CAPITAL LETTER O WITH CIRCUMFLEX AND TILDE;16SMALL",
  "1ED8;10CAPITAL LETTER O WITH CIRCUMFLEX AND DOT BELOW;17SMALL;10CAPITAL LETTER O WITH HORN AND ACUTE",
  "1EDB;16SMALL;10CAPITAL LETTER O WITH HORN AND GRAVE;16SMALL;10CAPITAL LETTER O WITH HORN AND HOOK ABOVE",
  "1EDF;17SMALL;10CAPITAL LETTER O WITH HORN AND TILDE;16SMALL;10CAPITAL LETTER O WITH HORN AND DOT BELOW",
  "1EE3;17SMALL;12CAPITAL LETTER U WITH;15SMALL;10CAPITAL LETTER U WITH HOOK ABOVE;15SMALL",
  "1EE8;10CAPITAL LETTER U WITH HORN AND ACUTE;16SMALL;10CAPITAL LETTER U WITH HORN AND GRAVE;16SMALL",
  "1EEC;10CAPITAL LETTER U WITH HORN AND HOOK ABOVE;17SMALL;10CAPITAL LETTER U WITH HORN AND TILDE;16SMALL",
  "1EF0;10CAPITAL LETTER U WITH HORN AND DOT BELOW;17SMALL;10CAPITAL LETTER Y WITH GRAVE;14SMALL"]

private def characterNameRows7 : List String := [
  "1EF4;10CAPITAL LETTER Y WITH DOT BELOW;15SMALL;10CAPITAL LETTER Y WITH HOOK ABOVE;15SMALL",
  "1EF8;10CAPITAL LETTER Y WITH TILDE;14SMALL;10CAPITAL LETTER MIDDLE-WELSH LL;13SMALL",
  "1EFC;10CAPITAL LETTER MIDDLE-WELSH V;13SMALL;10CAPITAL LETTER Y WITH LOOP;14SMALL",
  "1F00;00GREEK SMALL LETTER ALPHA WITH PSILI;50DASIA;50PSILI AND VARIA;52DASIA;50PSILI AND OXIA;52DASIA",
  "1F06;50PSILI AND PERISPOMENI;52DASIA;10CAPITAL LETTER ALPHA WITH PSILI;50DASIA;50PSILI AND VARIA;52DASIA",
  "1F0C;50PSILI AND OXIA;52DASIA;50PSILI AND PERISPOMENI;52DASIA;10SMALL LETTER EPSILON WITH PSILI;50DASIA",
  "1F12;50PSILI AND VARIA;52DASIA;50PSILI AND OXIA;52DASIA",
  "1F18;10CAPITAL LETTER EPSILON WITH PSILI;50DASIA;50PSILI AND VARIA;52DASIA;50PSILI AND OXIA;52DASIA",
  "1F20;10SMALL LETTER ETA WITH PSILI;50DASIA;50PSILI AND VARIA;52DASIA;50PSILI AND OXIA;52DASIA",
  "1F26;50PSILI AND PERISPOMENI;52DASIA;10CAPITAL LETTER ETA WITH PSILI;50DASIA;50PSILI AND VARIA;52DASIA",
  "1F2C;50PSILI AND OXIA;52DASIA;50PSILI AND PERISPOMENI;52DASIA;10SMALL LETTER IOTA WITH PSILI;50DASIA",
  "1F32;50PSILI AND VARIA;52DASIA;50PSILI AND OXIA;52DASIA;50PSILI AND PERISPOMENI;52DASIA",
  "1F38;10CAPITAL LETTER IOTA WITH PSILI;50DASIA;50PSILI AND VARIA;52DASIA;50PSILI AND OXIA;52DASIA",
  "1F3E;50PSILI AND PERISPOMENI;52DASIA;10SMALL LETTER OMICRON WITH PSILI;50DASIA;50PSILI AND VARIA;52DASIA",
  "1F44;50PSILI AND OXIA;52DASIA",
  "1F48;10CAPITAL LETTER OMICRON WITH PSILI;50DASIA;50PSILI AND VARIA;52DASIA;50PSILI AND OXIA;52DASIA",
  "1F50;10SMALL LETTER UPSILON WITH PSILI;50DASIA;50PSILI AND VARIA;52DASIA;50PSILI AND OXIA;52DASIA",
  "1F56;50PSILI AND PERISPOMENI;52DASIA",
  "1F59;10CAPITAL LETTER UPSILON WITH DASIA",
  "1F5B;60AND VARIA",
  "1F5D;70OXIA",
  "1F5F;70PERISPOMENI;10SMALL LETTER OMEGA WITH PSILI;50DASIA;50PSILI AND VARIA;52DASIA;50PSILI AND OXIA",
  "1F65;52DASIA;50PSILI AND PERISPOMENI;52DASIA;10CAPITAL LETTER OMEGA WITH PSILI;50DASIA;50PSILI AND VARIA",
  "1F6B;52DASIA;50PSILI AND OXIA;52DASIA;50PSILI AND PERISPOMENI;52DASIA;10SMALL LETTER ALPHA WITH VARIA",
  "1F71;50OXIA;30EPSILON WITH VARIA;50OXIA;30ETA WITH VARIA;50OXIA;30IOTA WITH VARIA;50OXIA",
  "1F78;30OMICRON WITH VARIA;50OXIA;30UPSILON WITH VARIA;50OXIA;30OMEGA WITH VARIA;50OXIA",
  "1F80;30ALPHA WITH PSILI AND YPOGEGRAMMENI;52DASIA;52PSILI AND VARIA;54DASIA;52PSILI AND OXIA;54DASIA",
  "1F86;52PSILI AND PERISPOMENI;54DASIA;10CAPITAL LETTER ALPHA WITH PSILI AND PROSGEGRAMMENI;52DASIA",
  "1F8A;52PSILI AND VARIA;54DASIA;52PSILI AND OXIA;54DASIA;52PSILI AND PERISPOMENI;54DASIA",
  "1F90;10SMALL LETTER ETA WITH PSILI AND YPOGEGRAMMENI;52DASIA;52PSILI AND VARIA;54DASIA;52PSILI AND OXIA",
  "1F95;54DASIA;52PSILI AND PERISPOMENI;54DASIA;10CAPITAL LETTER ETA WITH PSILI AND PROSGEGRAMMENI;52DASIA",
  "1F9A;52PSILI AND VARIA;54DASIA;52PSILI AND OXIA;54DASIA;52PSILI AND PERISPOMENI;54DASIA",
  "1FA0;10SMALL LETTER OMEGA WITH PSILI AND YPOGEGRAMMENI;52DASIA;52PSILI AND VARIA;54DASIA",
  "1FA4;52PSILI AND OXIA;54DASIA;52PSILI AND PERISPOMENI;54DASIA",
  "1FA8;10CAPITAL LETTER OMEGA WITH PSILI AND PROSGEGRAMMENI;52DASIA;52PSILI AND VARIA;54DASIA",
  "1FAC;52PSILI AND OXIA;54DASIA;52PSILI AND PERISPOMENI;54DASIA;10SMALL LETTER ALPHA WITH VRACHY;50MACRON",
  "1FB2;50VARIA AND YPOGEGRAMMENI;51;51OXIA AND",
  "1FB6;50PERISPOMENI;60AND YPOGEGRAMMENI;10CAPITAL LETTER ALPHA WITH VRACHY;50MACRON;50VARIA;50OXIA",
  "1FBC;50PROSGEGRAMMENI;10KORONIS;10PROSGEGRAMMENI;10PSILI;10PERISPOMENI;11DIALYTIKA AND",
  "1FC2;10SMALL LETTER ETA WITH VARIA AND YPOGEGRAMMENI;51;51OXIA AND",
  "1FC6;50PERISPOMENI;60AND YPOGEGRAMMENI;10CAPITAL LETTER EPSILON WITH VARIA;50OXIA;30ETA WITH VARIA",
  "1FCB;50OXIA;50PROSGEGRAMMENI;10PSILI AND VARIA;30OXIA;30PERISPOMENI;10SMALL LETTER IOTA WITH VRACHY",
  "1FD1;50MACRON;50DIALYTIKA AND VARIA;70OXIA",
  "1FD6;50PERISPOMENI;51DIALYTIKA AND;10CAPITAL LETTER IOTA WITH VRACHY;50MACRON;50VARIA;50OXIA",
  "1FDD;10DASIA AND VARIA;30OXIA;30PERISPOMENI;10SMALL LETTER UPSILON WITH VRACHY;50MACRON",
  "1FE2;50DIALYTIKA AND VARIA;70OXIA;30RHO WITH PSILI;50DASIA;30UPSILON WITH PERISPOMENI;51DIALYTIKA AND",
  "1FE8;10CAPITAL LETTER UPSILON WITH VRACHY;50MACRON;50VARIA;50OXIA;30RHO WITH DASIA;10DIALYTIKA AND VARIA",
  "1FEE;30OXIA;10VARIA",
  "1FF2;10SMALL LETTER OMEGA WITH VARIA AND YPOGEGRAMMENI;51;51OXIA AND",
  "1FF6;50PERISPOMENI;60AND YPOGEGRAMMENI;10CAPITAL LETTER OMICRON WITH VARIA;50OXIA;30OMEGA WITH VARIA",
  "1FFB;50OXIA;50PROSGEGRAMMENI;10OXIA;10DASIA",
  "2000;00EN QUAD;01EM;00EN SPACE;01EM;01THREE-PER-EM;01FOUR-PER-EM;01SIX-PER-EM;01FIGURE;01PUNCTUATION",
  "2009;01THIN;01HAIR;01ZERO WIDTH;20NON-JOINER;20JOINER;00LEFT-TO-RIGHT MARK;01RIGHT-TO-LEFT;00HYPHEN",
  "2011;01NON-BREAKING;00FIGURE DASH;01EN;01EM;00HORIZONTAL BAR;00DOUBLE VERTICAL LINE;11LOW",
  "2018;00LEFT SINGLE QUOTATION MARK;03RIGHT;02SINGLE LOW-9;12HIGH-REVERSED-9;02LEFT DOUBLE;03RIGHT",
  "201E;02DOUBLE LOW-9;12HIGH-REVERSED-9;00DAGGER;01DOUBLE;00BULLET;01TRIANGULAR;00ONE DOT LEADER;02TWO",
  "2026;00HORIZONTAL ELLIPSIS;00HYPHENATION POINT;00LINE SEPARATOR;01PARAGRAPH;00LEFT-TO-RIGHT EMBEDDING",
  "202B;01RIGHT-TO-LEFT;00POP DIRECTIONAL FORMATTING;00LEFT-TO-RIGHT OVERRIDE;01RIGHT-TO-LEFT",
  "202F;00NARROW NO-BREAK SPACE;00PER MILLE SIGN;11TEN THOUSAND;00PRIME;01DOUBLE;01TRIPLE;01REVERSED",
  "2036;11DOUBLE;11TRIPLE;00CARET;00SINGLE LEFT-POINTING ANGLE QUOTATION MARK;13RIGHT-POINTING;01REFERENCE",
  "203C;01DOUBLE EXCLAMATION;00INTERROBANG;00OVERLINE;00UNDERTIE;00CHARACTER TIE;00CARET INSERTION POINT",
  "2042;00ASTERISM;00HYPHEN BULLET;00FRACTION SLASH;00LEFT SQUARE BRACKET WITH QUILL;04RIGHT",
  "2047;00DOUBLE QUESTION MARK;01QUESTION EXCLAMATION;01EXCLAMATION QUESTION;00TIRONIAN SIGN ET",
  "204B;00REVERSED PILCROW SIGN;00BLACK LEFTWARDS BULLET;11RIGHTWARDS;00LOW ASTERISK;00REVERSED SEMICOLON",
  "2050;00CLOSE UP;00TWO ASTERISKS ALIGNED VERTICALLY;00COMMERCIAL MINUS SIGN;00SWUNG DASH",
  "2054;00INVERTED UNDERTIE;00FLOWER PUNCTUATION MARK;00THREE DOT PUNCTUATION;00QUADRUPLE PRIME",
  "2058;00FOUR DOT PUNCTUATION;02FIVE;02TWO;00FOUR DOT MARK;00DOTTED CROSS;00TRICOLON;00VERTICAL FOUR DOTS",
  "205F;00MEDIUM MATHEMATICAL SPACE;00WORD JOINER;00FUNCTION APPLICATION;00INVISIBLE TIMES;10SEPARATOR",
  "2064;10PLUS",
  "2066;00LEFT-TO-RIGHT ISOLATE;01RIGHT-TO-LEFT;01FIRST STRONG;01POP DIRECTIONAL",
  "206A;00INHIBIT SYMMETRIC SWAPPING;02ACTIVATE;00INHIBIT ARABIC FORM SHAPING;03ACTIVATE",
  "206E;00NATIONAL DIGIT SHAPES;02NOMINAL;00SUPERSCRIPT ZERO;10LATIN SMALL LETTER I",
  "2074;10FOUR;10FIVE;10SIX;10SEVEN;10EIGHT;10NINE;10PLUS SIGN;10MINUS;10EQUALS SIGN;10LEFT PARENTHESIS",
  "207E;11RIGHT;10LATIN SMALL LETTER N;00SUBSCRIPT ZERO;10ONE;10TWO;10THREE;10FOUR;10FIVE;10SIX;10SEVEN",
  "2088;10EIGHT;10NINE;10PLUS SIGN;10MINUS;10EQUALS SIGN;10LEFT PARENTHESIS;11RIGHT",
  "2090;00LATIN SUBSCRIPT SMALL LETTER A;40E;40O;40X;40SCHWA;40H;40K;40L;40M;40N;40P;40S;40T",
  "20A0;00EURO-CURRENCY SIGN;01COLON;01CRUZEIRO;01FRENCH FRANC;01LIRA;01MILL;01NAIRA;01PESETA;01RUPEE;01WON",
  "20AA;01NEW SHEQEL;01DONG;01EURO;01KIP;01TUGRIK;01DRACHMA;01GERMAN PENNY;01PESO;01GUARANI;01AUSTRAL",
  "20B4;01HRYVNIA;01CEDI;01LIVRE TOURNOIS;01SPESMILO;01TENGE;01INDIAN RUPEE;01TURKISH LIRA;01NORDIC MARK",
  "20BC;01MANAT;01RUBLE;01LARI;01BITCOIN;01SOM",
  "20D0;00COMBINING LEFT HARPOON ABOVE;12RIGHT;10LONG VERTICAL LINE OVERLAY;13SHORT",
  "20D4;10ANTICLOCKWISE ARROW ABOVE;12CLOCKWISE;12LEFT;12RIGHT;10RING OVERLAY;12CLOCKWISE;12ANTICLOCKWISE",
  "20DB;10THREE DOTS ABOVE;12FOUR;10ENCLOSING CIRCLE;20SQUARE;20DIAMOND;20CIRCLE BACKSLASH",
  "20E1;10LEFT RIGHT ARROW ABOVE;10ENCLOSING SCREEN;20KEYCAP;20UPWARD POINTING TRIANGLE",
  "20E5;10REVERSE SOLIDUS OVERLAY;11DOUBLE VERTICAL STROKE;10ANNUITY SYMBOL;10TRIPLE UNDERDOT",
  "20E9;10WIDE BRIDGE ABOVE;10LEFTWARDS ARROW OVERLAY;11LONG DOUBLE SOLIDUS",
  "20EC;10RIGHTWARDS HARPOON WITH BARB DOWNWARDS;14LEFTWARDS;10LEFT ARROW BELOW;12RIGHT;10ASTERISK ABOVE",
  "2100;00ACCOUNT OF;00ADDRESSED TO THE SUBJECT;00DOUBLE-STRUCK CAPITAL C;00DEGREE CELSIUS",
  "2104;00CENTRE LINE SYMBOL;00CARE OF;00CADA UNA;00EULER CONSTANT;00SCRUPLE;00DEGREE FAHRENHEIT",
  "210A;00SCRIPT SMALL G;10CAPITAL H;02BLACK-LETTER;02DOUBLE-STRUCK;00PLANCK CONSTANT;20OVER TWO PI",
  "2110;00SCRIPT CAPITAL I;02BLACK-LETTER;00SCRIPT CAPITAL L;11SMALL;00L B BAR SYMBOL",
  "2115;00DOUBLE-STRUCK CAPITAL N;00NUMERO SIGN;00SOUND RECORDING COPYRIGHT;00SCRIPT CAPITAL P",
  "2119;02DOUBLE-STRUCK;20Q;00SCRIPT CAPITAL R;02BLACK-LETTER;02DOUBLE-STRUCK;00PRESCRIPTION TAKE",
  "211F;00RESPONSE;00SERVICE MARK;00TELEPHONE SIGN;01TRADE MARK;00VERSICLE;00DOUBLE-STRUCK CAPITAL Z",
  "2125;00OUNCE SIGN;01OHM;02INVERTED;00BLACK-LETTER CAPITAL Z;00TURNED GREEK SMALL LETTER IOTA",
  "212A;00KELVIN SIGN;01ANGSTROM;00SCRIPT CAPITAL B;00BLACK-LETTER CAPITAL C;00ESTIMATED SYMBOL",
  "212F;00SCRIPT SMALL E;11CAPITAL;20F;02TURNED;00SCRIPT CAPITAL M;10SMALL O;00ALEF SYMBOL;01BET;01GIMEL",
  "2138;01DALET;00INFORMATION SOURCE;00ROTATED CAPITAL Q;00FACSIMILE SIGN;00DOUBLE-STRUCK SMALL PI;20GAMMA",
  "213E;11CAPITAL;20PI;10N-ARY SUMMATION;00TURNED SANS-SERIF CAPITAL G;30L;03REVERSED",
  "2144;00TURNED SANS-SERIF CAPITAL Y;00DOUBLE-STRUCK ITALIC CAPITAL D;21SMALL;30E;30I;30J;00PROPERTY LINE",
  "214B;00TURNED AMPERSAND;00PER SIGN;00AKTIESELSKAB;00TURNED SMALL F;00SYMBOL FOR SAMARITAN SOURCE",
  "2150;00VULGAR FRACTION ONE SEVENTH;30NINTH;30TENTH;30THIRD;20TWO THIRDS;20ONE FIFTH;20TWO FIFTHS;21THREE",
  "2158;21FOUR;20ONE SIXTH;20FIVE SIXTHS;20ONE EIGHTH;20THREE EIGHTHS;21FIVE;21SEVEN",
  "215F;00FRACTION NUMERATOR ONE;01ROMAN NUMERAL;20TWO;20THREE;20FOUR;20FIVE;20SIX;20SEVEN;20EIGHT;20NINE",
  "2169;20TEN;20ELEVEN;20TWELVE;20FIFTY;20ONE HUNDRED;21FIVE;20ONE THOUSAND;00SMALL ROMAN NUMERAL ONE;30TWO",
  "2172;30THREE;30FOUR;30FIVE;30SIX;30SEVEN;30EIGHT;30NINE;30TEN;30ELEVEN;30TWELVE;30FIFTY;30ONE HUNDRED",
  "217E;31FIVE;30ONE THOUSAND;00ROMAN NUMERAL ONE THOUSAND C D;20FIVE THOUSAND;21TEN;20REVERSED ONE HUNDRED",
  "2184;00LATIN SMALL LETTER REVERSED C;00ROMAN NUMERAL SIX LATE FORM;21FIFTY EARLY;30THOUSAND",
  "2188;21ONE HUNDRED;00VULGAR FRACTION ZERO THIRDS;00TURNED DIGIT TWO;20THREE",
  "2190;00LEFTWARDS ARROW;01UPWARDS;01RIGHTWARDS;01DOWNWARDS;01LEFT RIGHT;01UP DOWN;01NORTH WEST;11EAST",
  "2198;02SOUTH;11WEST;00LEFTWARDS ARROW WITH STROKE;03RIGHTWARDS;00LEFTWARDS WAVE ARROW;02RIGHTWARDS",
  "219E;01LEFTWARDS TWO HEADED;03UPWARDS;03RIGHTWARDS;03DOWNWARDS;00LEFTWARDS ARROW WITH TAIL;03RIGHTWARDS",
  "21A4;00LEFTWARDS ARROW FROM BAR;03UPWARDS;03RIGHTWARDS;03DOWNWARDS;00UP DOWN ARROW WITH BASE",
  "21A9;00LEFTWARDS ARROW WITH HOOK;03RIGHTWARDS;00LEFTWARDS ARROW WITH LOOP;03RIGHTWARDS",
  "21AD;00LEFT RIGHT WAVE ARROW;20ARROW WITH STROKE;00DOWNWARDS ZIGZAG ARROW",
  "21B0;00UPWARDS ARROW WITH TIP LEFTWARDS;40RIGHTWARDS;00DOWNWARDS ARROW WITH TIP LEFTWARDS;40RIGHTWARDS",
  "21B4;00RIGHTWARDS ARROW WITH CORNER DOWNWARDS;00DOWNWARDS ARROW WITH CORNER LEFTWARDS",
  "21B6;00ANTICLOCKWISE TOP SEMICIRCLE ARROW;03CLOCKWISE;00NORTH WEST ARROW TO LONG BAR",
  "21B9;01LEFTWARDS ARROW TO BAR OVER RIGHTWARDS ARROW TO;00ANTICLOCKWISE OPEN CIRCLE ARROW;03CLOCKWISE",
  "21BC;00LEFTWARDS HARPOON WITH BARB UPWARDS;40DOWNWARDS;00UPWARDS HARPOON WITH BARB RIGHTWARDS",
  "21BF;40LEFTWARDS;00RIGHTWARDS HARPOON WITH BARB UPWARDS;40DOWNWARDS",
  "21C2;00DOWNWARDS HARPOON WITH BARB RIGHTWARDS;40LEFTWARDS;00RIGHTWARDS ARROW OVER LEFTWARDS ARROW",
  "21C5;01UPWARDS ARROW LEFTWARDS OF DOWNWARDS;01LEFTWARDS ARROW OVER RIGHTWARDS;10PAIRED ARROWS;02UPWARDS",
  "21C9;02RIGHTWARDS;02DOWNWARDS;00LEFTWARDS HARPOON OVER RIGHTWARDS HARPOON",
  "21CC;01RIGHTWARDS HARPOON OVER LEFTWARDS;00LEFTWARDS DOUBLE ARROW WITH STROKE;04LEFT RIGHT;04RIGHTWARDS",
  "21D0;00LEFTWARDS DOUBLE ARROW;02UPWARDS;02RIGHTWARDS;02DOWNWARDS;02LEFT RIGHT;02UP DOWN;02NORTH WEST",
  "21D7;12EAST;03SOUTH;12WEST;01LEFTWARDS TRIPLE;02RIGHTWARDS;01LEFTWARDS SQUIGGLE;02RIGHTWARDS",
  "21DE;00UPWARDS ARROW WITH DOUBLE STROKE;04DOWNWARDS;00LEFTWARDS DASHED ARROW;02UPWARDS;02RIGHTWARDS",
  "21E3;02DOWNWARDS;00LEFTWARDS ARROW TO BAR;03RIGHTWARDS;00LEFTWARDS WHITE ARROW;02UPWARDS;02RIGHTWARDS",
  "21E9;02DOWNWARDS;00UPWARDS WHITE ARROW FROM BAR;30ON PEDESTAL;50WITH HORIZONTAL BAR;61VERTICAL",
  "21EE;20DOUBLE ARROW;40ON PEDESTAL;00RIGHTWARDS WHITE ARROW FROM WALL;00NORTH WEST ARROW TO CORNER",
  "21F2;03SOUTH EAST;00UP DOWN WHITE ARROW;00RIGHT ARROW WITH SMALL CIRCLE",
  "21F5;00DOWNWARDS ARROW LEFTWARDS OF UPWARDS ARROW;00THREE RIGHTWARDS ARROWS",
  "21F7;00LEFTWARDS ARROW WITH VERTICAL STROKE;04RIGHTWARDS;04LEFT RIGHT;02LEFTWARDS ARROW WITH DOUBLE",
  "21FB;05RIGHTWARDS;05LEFT RIGHT;00LEFTWARDS OPEN-HEADED ARROW;02RIGHTWARDS;02LEFT RIGHT;00FOR ALL",
  "2201;00COMPLEMENT;00PARTIAL DIFFERENTIAL;00THERE EXISTS;10DOES NOT EXIST;00EMPTY SET;00INCREMENT;00NABLA",
  "2208;00ELEMENT OF;02NOT AN;02SMALL;00CONTAINS AS MEMBER;02DOES NOT CONTAIN;02SMALL CONTAINS",
  "220E;00END OF PROOF;00N-ARY PRODUCT;10COPRODUCT;10SUMMATION;00MINUS SIGN;01MINUS-OR-PLUS;00DOT PLUS",
  "2215;00DIVISION SLASH;00SET MINUS;00ASTERISK OPERATOR;01RING;01BULLET;00SQUARE ROOT;01CUBE;01FOURTH",
  "221D;00PROPORTIONAL TO;00INFINITY;00RIGHT ANGLE;01;01MEASURED;01SPHERICAL;00DIVIDES;00DOES NOT DIVIDE",
  "2225;00PARALLEL TO;02NOT;00LOGICAL AND;10OR;00INTERSECTION;00UNION;00INTEGRAL;01DOUBLE;01TRIPLE",
  "222E;01CONTOUR;01SURFACE;01VOLUME;01CLOCKWISE;11CONTOUR;02ANTICLOCKWISE;00THEREFORE;00BECAUSE;00RATIO",
  "2237;00PROPORTION;00DOT MINUS;00EXCESS;00GEOMETRIC PROPORTION;00HOMOTHETIC;00TILDE OPERATOR",
  "223D;00REVERSED TILDE;00INVERTED LAZY S;00SINE WAVE;00WREATH PRODUCT;00NOT TILDE;01MINUS",
  "2243;00ASYMPTOTICALLY EQUAL TO;03NOT;02APPROXIMATELY;12BUT NOT ACTUALLY;03NEITHER APPROXIMATELY NOR",
  "2248;02ALMOST;03NOT;02ALMOST EQUAL OR;00TRIPLE TILDE;00ALL EQUAL TO;01EQUIVALENT;02GEOMETRICALLY",
  "224F;00DIFFERENCE BETWEEN;00APPROACHES THE LIMIT;00GEOMETRICALLY EQUAL TO",
  "2252;00APPROXIMATELY EQUAL TO OR THE IMAGE OF;00IMAGE OF OR APPROXIMATELY EQUAL TO;00COLON EQUALS",
  "2255;00EQUALS COLON;00RING IN EQUAL TO;12;01CORRESPONDS;00ESTIMATES;00EQUIANGULAR TO;00STAR EQUALS",
  "225C;00DELTA EQUAL TO;00EQUAL TO BY DEFINITION;00MEASURED BY;00QUESTIONED EQUAL TO;02NOT;01IDENTICAL",
  "2262;02NOT;01STRICTLY EQUIVALENT;01LESS-THAN OR EQUAL;03GREATER-THAN;02LESS-THAN OVER;03GREATER-THAN",
  "2268;02LESS-THAN BUT NOT;04GREATER-THAN;00MUCH LESS-THAN;10GREATER-THAN;00BETWEEN;00NOT EQUIVALENT TO",
  "226E;10LESS-THAN;10GREATER-THAN;00NEITHER LESS-THAN NOR EQUAL TO;13GREATER-THAN",
  "2272;01LESS-THAN OR EQUIVALENT;03GREATER-THAN;02NEITHER LESS-THAN NOR;13GREATER-THAN",
  "2276;00LESS-THAN OR GREATER-THAN;00GREATER-THAN OR LESS-THAN;00NEITHER LESS-THAN NOR GREATER-THAN",
  "2279;10GREATER-THAN NOR LESS-THAN;00PRECEDES;00SUCCEEDS;00PRECEDES OR EQUAL TO;03SUCCEEDS",
  "227E;01PRECEDES OR EQUIVALENT;03SUCCEEDS;00DOES NOT PRECEDE;20SUCCEED;00SUBSET OF;01SUPERSET",
  "2284;01NOT A SUBSET;21SUPERSET;00SUBSET OF OR EQUAL TO;04SUPERSET;02NEITHER A SUBSET OF NOR;24SUPERSET",
  "228A;02SUBSET OF WITH NOT;05SUPERSET;00MULTISET;10MULTIPLICATION;10UNION;00SQUARE IMAGE OF;11ORIGINAL",
  "2291;10IMAGE OF OR EQUAL TO;14ORIGINAL;10CAP;10CUP;00CIRCLED PLUS;10MINUS;10TIMES;10DIVISION SLASH"]

private def characterNameRows8 : List String := [
  "2299;10DOT OPERATOR;11RING;11ASTERISK;10EQUALS;10DASH;00SQUARED PLUS;10MINUS;10TIMES;10DOT OPERATOR",
  "22A2;00RIGHT TACK;01LEFT;01DOWN;01UP;00ASSERTION;00MODELS;00TRUE;00FORCES",
  "22AA;00TRIPLE VERTICAL BAR RIGHT TURNSTILE;02DOUBLE VERTICAL BAR DOUBLE;00DOES NOT PROVE;00NOT TRUE",
  "22AE;00DOES NOT FORCE;00NEGATED DOUBLE VERTICAL BAR DOUBLE RIGHT TURNSTILE;00PRECEDES UNDER RELATION",
  "22B1;02SUCCEEDS;00NORMAL SUBGROUP OF;00CONTAINS AS NORMAL SUBGROUP;00NORMAL SUBGROUP OF OR EQUAL TO",
  "22B5;03CONTAINS AS NORMAL SUBGROUP;00ORIGINAL OF;01IMAGE;00MULTIMAP;00HERMITIAN CONJUGATE MATRIX",
  "22BA;00INTERCALATE;00XOR;00NAND;00NOR;00RIGHT ANGLE WITH ARC;10TRIANGLE;00N-ARY LOGICAL AND;20OR",
  "22C2;10INTERSECTION;10UNION;00DIAMOND OPERATOR;01DOT;01STAR;00DIVISION TIMES;00BOWTIE",
  "22C9;00LEFT NORMAL FACTOR SEMIDIRECT PRODUCT;04RIGHT;02LEFT;02RIGHT;00REVERSED TILDE EQUALS",
  "22CE;00CURLY LOGICAL OR;20AND;00DOUBLE SUBSET;10SUPERSET;10INTERSECTION;10UNION;00PITCHFORK",
  "22D5;00EQUAL AND PARALLEL TO;00LESS-THAN WITH DOT;02GREATER-THAN;00VERY MUCH LESS-THAN;20GREATER-THAN",
  "22DA;01LESS-THAN EQUAL TO OR;00GREATER-THAN EQUAL TO OR LESS-THAN;04;30GREATER-THAN;30PRECEDES",
  "22DF;30SUCCEEDS;00DOES NOT PRECEDE OR EQUAL;22SUCCEED;00NOT SQUARE IMAGE OF OR EQUAL TO;24ORIGINAL",
  "22E4;02SQUARE IMAGE OF OR NOT;15ORIGINAL;01LESS-THAN BUT NOT EQUIVALENT;04GREATER-THAN;04PRECEDES",
  "22E9;04SUCCEEDS;00NOT NORMAL SUBGROUP OF;00DOES NOT CONTAIN AS NORMAL SUBGROUP",
  "22EC;00NOT NORMAL SUBGROUP OF OR EQUAL TO;00DOES NOT CONTAIN AS NORMAL SUBGROUP OR EQUAL",
  "22EE;00VERTICAL ELLIPSIS;01MIDLINE HORIZONTAL;01UP RIGHT DIAGONAL;03DOWN",
  "22F2;00ELEMENT OF WITH LONG HORIZONTAL STROKE;32VERTICAL BAR AT END OF;0aSMALL",
  "22F5;00ELEMENT OF WITH DOT ABOVE;30OVERBAR;04SMALL;00ELEMENT OF WITH UNDERBAR;30TWO HORIZONTAL STROKES",
  "22FA;00CONTAINS WITH LONG HORIZONTAL STROKE;22VERTICAL BAR AT END OF;09SMALL;00CONTAINS WITH OVERBAR",
  "22FE;03SMALL;00Z NOTATION BAG MEMBERSHIP;00DIAMETER SIGN;00ELECTRIC ARROW;00HOUSE;00UP ARROWHEAD;01DOWN",
  "2305;00PROJECTIVE;00PERSPECTIVE;00WAVY LINE;00LEFT CEILING;01RIGHT;00LEFT FLOOR;01RIGHT",
  "230C;00BOTTOM RIGHT CROP;11LEFT;01TOP RIGHT;11LEFT;00REVERSED NOT SIGN;00SQUARE LOZENGE;00ARC;00SEGMENT",
  "2314;00SECTOR;00TELEPHONE RECORDER;00POSITION INDICATOR;00VIEWDATA SQUARE;00PLACE OF INTEREST SIGN",
  "2319;01TURNED NOT;00WATCH;00HOURGLASS;00TOP LEFT CORNER;11RIGHT;01BOTTOM LEFT;11RIGHT",
  "2320;00TOP HALF INTEGRAL;02BOTTOM;00FROWN;00SMILE;00UP ARROWHEAD BETWEEN TWO HORIZONTAL BARS",
  "2325;00OPTION KEY;00ERASE TO THE RIGHT;00X IN A RECTANGLE BOX;00KEYBOARD;00LEFT-POINTING ANGLE BRACKET",
  "232A;02RIGHT-POINTING;00ERASE TO THE LEFT;00BENZENE RING;00CYLINDRICITY;00ALL AROUND-PROFILE;00SYMMETRY",
  "2330;00TOTAL RUNOUT;00DIMENSION ORIGIN;00CONICAL TAPER;00SLOPE;00COUNTERBORE;00COUNTERSINK",
  "2336;00APL FUNCTIONAL SYMBOL I-BEAM;30SQUISH QUAD;30QUAD EQUAL;40DIVIDE;40DIAMOND;40JOT;40CIRCLE",
  "233D;30CIRCLE STILE;40JOT;30SLASH BAR;31BACKSLASH;30QUAD SLASH;40BACKSLASH;40LESS-THAN;40GREATER-THAN",
  "2345;30LEFTWARDS VANE;31RIGHTWARDS;30QUAD LEFTWARDS ARROW;41RIGHTWARDS;30CIRCLE BACKSLASH",
  "234A;30DOWN TACK UNDERBAR;30DELTA STILE;30QUAD DOWN CARET;40DELTA;30DOWN TACK JOT;30UPWARDS VANE",
  "2350;30QUAD UPWARDS ARROW;30UP TACK OVERBAR;30DEL STILE;30QUAD UP CARET;40DEL;30UP TACK JOT",
  "2356;30DOWNWARDS VANE;30QUAD DOWNWARDS ARROW;30QUOTE UNDERBAR;31DELTA;31DIAMOND;31JOT;31CIRCLE",
  "235D;30UP SHOE JOT;30QUOTE QUAD;30CIRCLE STAR;30QUAD COLON;30UP TACK DIAERESIS;31DEL;31STAR;31JOT",
  "2365;31CIRCLE;30DOWN SHOE STILE;32LEFT;30TILDE DIAERESIS;31GREATER-THAN;30COMMA BAR;30DEL TILDE;30ZILDE",
  "236D;30STILE TILDE;30SEMICOLON UNDERBAR;30QUAD NOT EQUAL;40QUESTION;30DOWN CARET TILDE;32UP;30IOTA;30RHO",
  "2375;30OMEGA;30ALPHA UNDERBAR;31EPSILON;31IOTA;31OMEGA;30ALPHA;00NOT CHECK MARK",
  "237C;00RIGHT ANGLE WITH DOWNWARDS ZIGZAG ARROW;00SHOULDERED OPEN BOX;00BELL SYMBOL",
  "237F;00VERTICAL LINE WITH MIDDLE DOT;00INSERTION SYMBOL;01CONTINUOUS UNDERLINE;02DISCONTINUOUS",
  "2383;01EMPHASIS;01COMPOSITION;00WHITE SQUARE WITH CENTRE VERTICAL LINE;00ENTER SYMBOL;01ALTERNATIVE KEY",
  "2388;01HELM;00CIRCLED HORIZONTAL BAR WITH NOTCH;10TRIANGLE DOWN;00BROKEN CIRCLE WITH NORTHWEST ARROW",
  "238C;00UNDO SYMBOL;01MONOSTABLE;01HYSTERESIS;01OPEN-CIRCUIT-OUTPUT H-TYPE;11L-TYPE",
  "2391;01PASSIVE-PULL-DOWN-OUTPUT;01PASSIVE-PULL-UP-OUTPUT;00DIRECT CURRENT SYMBOL FORM TWO",
  "2394;00SOFTWARE-FUNCTION SYMBOL;00APL FUNCTIONAL SYMBOL QUAD;00DECIMAL SEPARATOR KEY SYMBOL",
  "2397;00PREVIOUS PAGE;01NEXT;00PRINT SCREEN SYMBOL;02CLEAR;00LEFT PARENTHESIS UPPER HOOK;20EXTENSION",
  "239D;20LOWER HOOK;01RIGHT PARENTHESIS UPPER;20EXTENSION;20LOWER HOOK;00LEFT SQUARE BRACKET UPPER CORNER",
  "23A2;30EXTENSION;30LOWER CORNER;01RIGHT SQUARE BRACKET UPPER;30EXTENSION;30LOWER CORNER",
  "23A7;00LEFT CURLY BRACKET UPPER HOOK;30MIDDLE PIECE;30LOWER HOOK;00CURLY BRACKET EXTENSION",
  "23AB;00RIGHT CURLY BRACKET UPPER HOOK;30MIDDLE PIECE;30LOWER HOOK;00INTEGRAL EXTENSION;01HORIZONTAL LINE",
  "23B0;00UPPER LEFT OR LOWER RIGHT CURLY BRACKET SECTION;13RIGHT OR LOWER LEFT;00SUMMATION TOP;10BOTTOM",
  "23B4;00TOP SQUARE BRACKET;02BOTTOM;30OVER TOP SQUARE BRACKET;00RADICAL SYMBOL BOTTOM",
  "23B8;00LEFT VERTICAL BOX LINE;03RIGHT;00HORIZONTAL SCAN LINE-1;20LINE-3;20LINE-7;20LINE-9",
  "23BE;00DENTISTRY SYMBOL LIGHT VERTICAL AND TOP RIGHT;51BOTTOM;40WITH CIRCLE;32DOWN AND HORIZONTAL;34UP",
  "23C3;30VERTICAL WITH TRIANGLE;32DOWN AND HORIZONTAL;34UP;30VERTICAL AND WAVE;31DOWN AND HORIZONTAL WITH",
  "23C8;34UP;30DOWN AND HORIZONTAL;32UP;30VERTICAL AND TOP LEFT;51BOTTOM;00SQUARE FOOT;00RETURN SYMBOL",
  "23CF;01EJECT;00VERTICAL LINE EXTENSION;00METRICAL BREVE;10LONG OVER SHORT;10SHORT OVER LONG",
  "23D4;10LONG OVER TWO SHORTS;10TWO SHORTS OVER LONG;30JOINED;10TRISEME;10TETRASEME;10PENTASEME",
  "23DA;00EARTH GROUND;00FUSE;00TOP PARENTHESIS;01BOTTOM;00TOP CURLY BRACKET;02BOTTOM;01TOP TORTOISE SHELL",
  "23E1;03BOTTOM;00WHITE TRAPEZIUM;00BENZENE RING WITH CIRCLE;00STRAIGHTNESS;00FLATNESS;00AC CURRENT",
  "23E7;00ELECTRICAL INTERSECTION;00DECIMAL EXPONENT SYMBOL;00BLACK RIGHT-POINTING DOUBLE TRIANGLE",
  "23EA;12LEFT-POINTING;12UP-POINTING;12DOWN-POINTING;10RIGHT-POINTING DOUBLE TRIANGLE WITH VERTICAL BAR",
  "23EE;15LEFT-POINTING;12RIGHT-POINTING TRIANGLE WITH DOUBLE;00ALARM CLOCK;00STOPWATCH;00TIMER CLOCK",
  "23F3;00HOURGLASS WITH FLOWING SAND;00BLACK MEDIUM LEFT-POINTING TRIANGLE;21RIGHT-POINTING;21UP-POINTING",
  "23F7;21DOWN-POINTING;00DOUBLE VERTICAL BAR;00BLACK SQUARE FOR STOP;10CIRCLE FOR RECORD;00POWER SYMBOL",
  "23FC;11ON-OFF;11ON;11SLEEP;01OBSERVER EYE;00SYMBOL FOR NULL;20START OF HEADING;40TEXT;22END",
  "2404;40TRANSMISSION;20ENQUIRY;20ACKNOWLEDGE;20BELL;20BACKSPACE;20HORIZONTAL TABULATION;20LINE FEED",
  "240B;20VERTICAL TABULATION;20FORM FEED;20CARRIAGE RETURN;20SHIFT OUT;30IN;20DATA LINK ESCAPE",
  "2411;20DEVICE CONTROL ONE;40TWO;40THREE;40FOUR;20NEGATIVE ACKNOWLEDGE;20SYNCHRONOUS IDLE",
  "2417;20END OF TRANSMISSION BLOCK;20CANCEL;20END OF MEDIUM;20SUBSTITUTE;20ESCAPE;20FILE SEPARATOR;21GROUP",
  "241E;21RECORD;21UNIT;20SPACE;20DELETE;00BLANK SYMBOL;00OPEN BOX;00SYMBOL FOR NEWLINE;20DELETE FORM TWO",
  "2426;22SUBSTITUTE",
  "2440;00OCR HOOK;10CHAIR;10FORK;11INVERTED;10BELT BUCKLE;10BOW TIE;10BRANCH BANK IDENTIFICATION",
  "2447;10AMOUNT OF CHECK;10DASH;10CUSTOMER ACCOUNT NUMBER;10DOUBLE BACKSLASH",
  "2460;00CIRCLED DIGIT ONE;20TWO;20THREE;20FOUR;20FIVE;20SIX;20SEVEN;20EIGHT;20NINE;10NUMBER TEN;20ELEVEN",
  "246B;20TWELVE;20THIRTEEN;20FOURTEEN;20FIFTEEN;20SIXTEEN;20SEVENTEEN;20EIGHTEEN;20NINETEEN;20TWENTY",
  "2474;00PARENTHESIZED DIGIT ONE;20TWO;20THREE;20FOUR;20FIVE;20SIX;20SEVEN;20EIGHT;20NINE;10NUMBER TEN",
  "247E;20ELEVEN;20TWELVE;20THIRTEEN;20FOURTEEN;20FIFTEEN;20SIXTEEN;20SEVENTEEN;20EIGHTEEN;20NINETEEN",
  "2487;20TWENTY;00DIGIT ONE FULL STOP;12TWO;12THREE;12FOUR;12FIVE;12SIX;12SEVEN;12EIGHT;12NINE",
  "2491;02NUMBER TEN;12ELEVEN;12TWELVE;12THIRTEEN;12FOURTEEN;12FIFTEEN;12SIXTEEN;12SEVENTEEN;12EIGHTEEN",
  "249A;12NINETEEN;12TWENTY;00PARENTHESIZED LATIN SMALL LETTER A;40B;40C;40D;40E;40F;40G;40H;40I;40J;40K",
  "24A7;40L;40M;40N;40O;40P;40Q;40R;40S;40T;40U;40V;40W;40X;40Y;40Z;00CIRCLED LATIN CAPITAL LETTER A;40B",
  "24B8;40C;40D;40E;40F;40G;40H;40I;40J;40K;40L;40M;40N;40O;40P;40Q;40R;40S;40T;40U;40V;40W;40X;40Y;40Z",
  "24D0;20SMALL LETTER A;40B;40C;40D;40E;40F;40G;40H;40I;40J;40K;40L;40M;40N;40O;40P;40Q;40R;40S;40T;40U",
  "24E5;40V;40W;40X;40Y;40Z;10DIGIT ZERO;00NEGATIVE CIRCLED NUMBER ELEVEN;30TWELVE;30THIRTEEN;30FOURTEEN",
  "24EF;30FIFTEEN;30SIXTEEN;30SEVENTEEN;30EIGHTEEN;30NINETEEN;30TWENTY;00DOUBLE CIRCLED DIGIT ONE;30TWO",
  "24F7;30THREE;30FOUR;30FIVE;30SIX;30SEVEN;30EIGHT;30NINE;20NUMBER TEN;00NEGATIVE CIRCLED DIGIT ZERO",
  "2500;00BOX DRAWINGS LIGHT HORIZONTAL;21HEAVY;20LIGHT VERTICAL;21HEAVY;20LIGHT TRIPLE DASH HORIZONTAL",
  "2505;23HEAVY;20LIGHT TRIPLE DASH VERTICAL;23HEAVY;20LIGHT QUADRUPLE DASH HORIZONTAL;23HEAVY",
  "250A;20LIGHT QUADRUPLE DASH VERTICAL;23HEAVY;20LIGHT DOWN AND RIGHT;20DOWN LIGHT AND RIGHT HEAVY",
  "250E;30HEAVY AND RIGHT LIGHT;20HEAVY DOWN AND RIGHT;20LIGHT DOWN AND LEFT;20DOWN LIGHT AND LEFT HEAVY",
  "2512;30HEAVY AND LEFT LIGHT;20HEAVY DOWN AND LEFT;20LIGHT UP AND RIGHT;20UP LIGHT AND RIGHT HEAVY",
  "2516;30HEAVY AND RIGHT LIGHT;20HEAVY UP AND RIGHT;20LIGHT UP AND LEFT;20UP LIGHT AND LEFT HEAVY",
  "251A;30HEAVY AND LEFT LIGHT;20HEAVY UP AND LEFT;20LIGHT VERTICAL AND RIGHT",
  "251D;20VERTICAL LIGHT AND RIGHT HEAVY;20UP HEAVY AND RIGHT DOWN LIGHT;21DOWN HEAVY AND RIGHT UP",
  "2520;21VERTICAL HEAVY AND RIGHT;20DOWN LIGHT AND RIGHT UP HEAVY;21UP LIGHT AND RIGHT DOWN",
  "2523;20HEAVY VERTICAL AND RIGHT;20LIGHT VERTICAL AND LEFT;20VERTICAL LIGHT AND LEFT HEAVY",
  "2526;20UP HEAVY AND LEFT DOWN LIGHT;21DOWN HEAVY AND LEFT UP;21VERTICAL HEAVY AND LEFT",
  "2529;20DOWN LIGHT AND LEFT UP HEAVY;21UP LIGHT AND LEFT DOWN;20HEAVY VERTICAL AND LEFT",
  "252C;20LIGHT DOWN AND HORIZONTAL;20LEFT HEAVY AND RIGHT DOWN LIGHT;22RIGHT HEAVY AND LEFT",
  "252F;20DOWN LIGHT AND HORIZONTAL HEAVY;30HEAVY AND HORIZONTAL LIGHT;20RIGHT LIGHT AND LEFT DOWN HEAVY",
  "2532;22LEFT LIGHT AND RIGHT;20HEAVY DOWN AND HORIZONTAL;22LIGHT UP;20LEFT HEAVY AND RIGHT UP LIGHT",
  "2536;22RIGHT HEAVY AND LEFT;20UP LIGHT AND HORIZONTAL HEAVY;30HEAVY AND HORIZONTAL LIGHT",
  "2539;20RIGHT LIGHT AND LEFT UP HEAVY;22LEFT LIGHT AND RIGHT;20HEAVY UP AND HORIZONTAL;22LIGHT VERTICAL",
  "253D;20LEFT HEAVY AND RIGHT VERTICAL LIGHT;22RIGHT HEAVY AND LEFT;20VERTICAL LIGHT AND HORIZONTAL HEAVY",
  "2540;20UP HEAVY AND DOWN HORIZONTAL LIGHT;22DOWN HEAVY AND UP;22VERTICAL HEAVY AND",
  "2543;21LEFT UP HEAVY AND RIGHT DOWN;22RIGHT UP HEAVY AND LEFT;21LEFT DOWN HEAVY AND RIGHT UP",
  "2546;22RIGHT DOWN HEAVY AND LEFT;20DOWN LIGHT AND UP HORIZONTAL HEAVY;22UP LIGHT AND DOWN",
  "2549;21RIGHT LIGHT AND LEFT VERTICAL;22LEFT LIGHT AND RIGHT;20HEAVY VERTICAL AND HORIZONTAL",
  "254C;21LIGHT DOUBLE DASH;23HEAVY;20LIGHT DOUBLE DASH VERTICAL;23HEAVY;20DOUBLE HORIZONTAL;30VERTICAL",
  "2552;20DOWN SINGLE AND RIGHT DOUBLE;30DOUBLE AND RIGHT SINGLE;20DOUBLE DOWN AND RIGHT",
  "2555;20DOWN SINGLE AND LEFT DOUBLE;30DOUBLE AND LEFT SINGLE;20DOUBLE DOWN AND LEFT",
  "2558;20UP SINGLE AND RIGHT DOUBLE;30DOUBLE AND RIGHT SINGLE;20DOUBLE UP AND RIGHT",
  "255B;20UP SINGLE AND LEFT DOUBLE;30DOUBLE AND LEFT SINGLE;20DOUBLE UP AND LEFT",
  "255E;20VERTICAL SINGLE AND RIGHT DOUBLE;30DOUBLE AND RIGHT SINGLE;20DOUBLE VERTICAL AND RIGHT",
  "2561;20VERTICAL SINGLE AND LEFT DOUBLE;30DOUBLE AND LEFT SINGLE;20DOUBLE VERTICAL AND LEFT",
  "2564;20DOWN SINGLE AND HORIZONTAL DOUBLE;30DOUBLE AND HORIZONTAL SINGLE;20DOUBLE DOWN AND HORIZONTAL",
  "2567;20UP SINGLE AND HORIZONTAL DOUBLE;30DOUBLE AND HORIZONTAL SINGLE;20DOUBLE UP AND HORIZONTAL",
  "256A;20VERTICAL SINGLE AND HORIZONTAL DOUBLE;30DOUBLE AND HORIZONTAL SINGLE",
  "256C;20DOUBLE VERTICAL AND HORIZONTAL;20LIGHT ARC DOWN AND RIGHT;60LEFT;42UP;60RIGHT",
  "2571;30DIAGONAL UPPER RIGHT TO LOWER LEFT;50LEFT TO LOWER RIGHT;40CROSS;30LEFT;30UP;30RIGHT;30DOWN",
  "2578;20HEAVY LEFT;30UP;30RIGHT;30DOWN;20LIGHT LEFT AND HEAVY RIGHT;30UP AND HEAVY DOWN",
  "257E;20HEAVY LEFT AND LIGHT RIGHT;30UP AND LIGHT DOWN;00UPPER HALF BLOCK;01LOWER ONE EIGHTH;21QUARTER",
  "2583;11THREE EIGHTHS;11HALF;11FIVE EIGHTHS;11THREE QUARTERS;11SEVEN EIGHTHS;01FULL;01LEFT SEVEN EIGHTHS",
  "258A;11THREE QUARTERS;11FIVE EIGHTHS;11HALF;11THREE EIGHTHS;11ONE QUARTER;21EIGHTH;01RIGHT HALF",
  "2591;00LIGHT SHADE;01MEDIUM;01DARK;00UPPER ONE EIGHTH BLOCK;03RIGHT;00QUADRANT LOWER LEFT;20RIGHT",
  "2598;10UPPER LEFT;30AND LOWER LEFT AND LOWER RIGHT;51;40UPPER RIGHT AND LOWER LEFT;80RIGHT;21",
  "259E;30AND LOWER LEFT;60AND LOWER RIGHT;00BLACK SQUARE;01WHITE;20WITH ROUNDED CORNERS",
  "25A3;20CONTAINING BLACK SMALL SQUARE;00SQUARE WITH HORIZONTAL FILL;21VERTICAL;21ORTHOGONAL CROSSHATCH",
  "25A7;21UPPER LEFT TO LOWER RIGHT;31RIGHT TO LOWER LEFT;21DIAGONAL CROSSHATCH;00BLACK SMALL SQUARE",
  "25AB;02WHITE;00BLACK RECTANGLE;01WHITE;01BLACK VERTICAL;02WHITE;00BLACK PARALLELOGRAM;01WHITE",
  "25B2;00BLACK UP-POINTING TRIANGLE;02WHITE;01BLACK UP-POINTING SMALL;03WHITE;01BLACK RIGHT-POINTING",
  "25B7;02WHITE;01BLACK RIGHT-POINTING SMALL;03WHITE;00BLACK RIGHT-POINTING POINTER;02WHITE",
  "25BC;00BLACK DOWN-POINTING TRIANGLE;02WHITE;01BLACK DOWN-POINTING SMALL;03WHITE;01BLACK LEFT-POINTING",
  "25C1;02WHITE;01BLACK LEFT-POINTING SMALL;03WHITE;00BLACK LEFT-POINTING POINTER;02WHITE;00BLACK DIAMOND",
  "25C7;01WHITE;20CONTAINING BLACK SMALL DIAMOND;00FISHEYE;00LOZENGE;00WHITE CIRCLE;01DOTTED",
  "25CD;00CIRCLE WITH VERTICAL FILL;00BULLSEYE;00BLACK CIRCLE;00CIRCLE WITH LEFT HALF BLACK;22RIGHT;22LOWER",
  "25D3;22UPPER;31RIGHT QUADRANT;22ALL BUT UPPER LEFT;00LEFT HALF BLACK CIRCLE;03RIGHT;00INVERSE BULLET",
  "25D9;10WHITE CIRCLE;03UPPER HALF;04LOWER;00UPPER LEFT QUADRANT CIRCULAR ARC;13RIGHT;04LOWER;13LEFT",
  "25E0;00UPPER HALF CIRCLE;02LOWER;00BLACK LOWER RIGHT TRIANGLE;21LEFT;12UPPER;21RIGHT;00WHITE BULLET",
  "25E7;00SQUARE WITH LEFT HALF BLACK;22RIGHT;22UPPER LEFT DIAGONAL;23LOWER RIGHT",
  "25EB;00WHITE SQUARE WITH VERTICAL BISECTING LINE;10UP-POINTING TRIANGLE WITH DOT",
  "25ED;00UP-POINTING TRIANGLE WITH LEFT HALF BLACK;32RIGHT;00LARGE CIRCLE",
  "25F0;00WHITE SQUARE WITH UPPER LEFT QUADRANT;32LOWER;41RIGHT;32UPPER;11CIRCLE WITH UPPER LEFT;32LOWER",
  "25F6;41RIGHT;32UPPER;00UPPER LEFT TRIANGLE;11RIGHT;01LOWER LEFT;00WHITE MEDIUM SQUARE;02BLACK",
  "25FD;01WHITE MEDIUM SMALL;03BLACK;00LOWER RIGHT TRIANGLE;00BLACK SUN WITH RAYS;00CLOUD;00UMBRELLA",
  "2603;00SNOWMAN;00COMET;00BLACK STAR;01WHITE;00LIGHTNING;00THUNDERSTORM;00SUN;00ASCENDING NODE",
  "260B;01DESCENDING;00CONJUNCTION;00OPPOSITION;00BLACK TELEPHONE;01WHITE;00BALLOT BOX;20WITH CHECK;30X",
  "2613;00SALTIRE;00UMBRELLA WITH RAIN DROPS;00HOT BEVERAGE;00WHITE SHOGI PIECE;02BLACK;00SHAMROCK",
  "2619;00REVERSED ROTATED FLORAL HEART BULLET;00BLACK LEFT POINTING INDEX;12RIGHT;02WHITE LEFT;12UP",
  "261E;12RIGHT;12DOWN;00SKULL AND CROSSBONES;00CAUTION SIGN;01RADIOACTIVE;01BIOHAZARD;00CADUCEUS;00ANKH",
  "2626;00ORTHODOX CROSS;00CHI RHO;00CROSS OF LORRAINE;20JERUSALEM;00STAR AND CRESCENT;00FARSI SYMBOL",
  "262C;00ADI SHAKTI;00HAMMER AND SICKLE;00PEACE SYMBOL;00YIN YANG;00TRIGRAM FOR HEAVEN;20LAKE;20FIRE",
  "2633;20THUNDER;20WIND;20WATER;20MOUNTAIN;20EARTH;00WHEEL OF DHARMA;00WHITE FROWNING FACE;11SMILING",
  "263B;02BLACK;00WHITE SUN WITH RAYS;00FIRST QUARTER MOON;02LAST;00MERCURY;00FEMALE SIGN;00EARTH",
  "2642;00MALE SIGN;00JUPITER;00SATURN;00URANUS;00NEPTUNE;00PLUTO;00ARIES;00TAURUS;00GEMINI;00CANCER;00LEO",
  "264D;00VIRGO;00LIBRA;00SCORPIUS;00SAGITTARIUS;00CAPRICORN;00AQUARIUS;00PISCES;00WHITE CHESS KING;20QUEEN",
  "2656;20ROOK;20BISHOP;20KNIGHT;20PAWN;00BLACK CHESS KING;20QUEEN;20ROOK;20BISHOP;20KNIGHT;20PAWN",
  "2660;10SPADE SUIT;01WHITE HEART;11DIAMOND;01BLACK CLUB;01WHITE SPADE;01BLACK HEART;11DIAMOND"]

private def characterNameRows9 : List String := [
  "2667;01WHITE CLUB;00HOT SPRINGS;00QUARTER NOTE;01EIGHTH;00BEAMED EIGHTH NOTES;11SIXTEENTH",
  "266D;00MUSIC FLAT SIGN;11NATURAL;11SHARP;00WEST SYRIAC CROSS;02EAST;00UNIVERSAL RECYCLING SYMBOL",
  "2673;00RECYCLING SYMBOL FOR TYPE-1 PLASTICS;31TYPE-2;31TYPE-3;31TYPE-4;31TYPE-5;31TYPE-6;31TYPE-7",
  "267A;30GENERIC MATERIALS;00BLACK UNIVERSAL RECYCLING SYMBOL;01RECYCLED PAPER;02PARTIALLY-RECYCLED",
  "267E;00PERMANENT PAPER SIGN;00WHEELCHAIR SYMBOL;00DIE FACE-1;10FACE-2;10FACE-3;10FACE-4;10FACE-5",
  "2685;10FACE-6;00WHITE CIRCLE WITH DOT RIGHT;30TWO DOTS;00BLACK CIRCLE WITH WHITE DOT RIGHT",
  "2689;30TWO WHITE DOTS;00MONOGRAM FOR YANG;20YIN;00DIGRAM FOR GREATER YANG;20LESSER YIN;30YANG",
  "268F;20GREATER YIN;00WHITE FLAG;01BLACK;00HAMMER AND PICK;00ANCHOR;00CROSSED SWORDS",
  "2695;00STAFF OF AESCULAPIUS;00SCALES;00ALEMBIC;00FLOWER;00GEAR;00STAFF OF HERMES;00ATOM SYMBOL",
  "269C;00FLEUR-DE-LIS;00OUTLINED WHITE STAR;00THREE LINES CONVERGING RIGHT;30LEFT;00WARNING SIGN",
  "26A1;01HIGH VOLTAGE;01DOUBLED FEMALE;11MALE;02INTERLOCKED FEMALE AND;01MALE AND FEMALE;11WITH STROKE",
  "26A7;31AND MALE AND FEMALE;01VERTICAL MALE WITH STROKE;04HORIZONTAL;00MEDIUM WHITE CIRCLE;11BLACK",
  "26AC;11SMALL WHITE;00MARRIAGE SYMBOL;01DIVORCE;01UNMARRIED PARTNERSHIP;00COFFIN;00FUNERAL URN;00NEUTER",
  "26B3;00CERES;00PALLAS;00JUNO;00VESTA;00CHIRON;00BLACK MOON LILITH;00SEXTILE;00SEMISEXTILE;00QUINCUNX",
  "26BC;00SESQUIQUADRATE;00SOCCER BALL;00BASEBALL;00SQUARED KEY;00WHITE DRAUGHTS MAN;20KING",
  "26C2;00BLACK DRAUGHTS MAN;20KING;00SNOWMAN WITHOUT SNOW;00SUN BEHIND CLOUD;00RAIN;00BLACK SNOWMAN",
  "26C8;00THUNDER CLOUD AND RAIN;00TURNED WHITE SHOGI PIECE;12BLACK;00WHITE DIAMOND IN SQUARE",
  "26CC;00CROSSING LANES;00DISABLED CAR;00OPHIUCHUS;00PICK;00CAR SLIDING;00HELMET WITH WHITE CROSS",
  "26D2;00CIRCLED CROSSING LANES;00CHAINS;00NO ENTRY;00ALTERNATE ONE-WAY LEFT WAY TRAFFIC;03BLACK TWO-WAY",
  "26D7;04WHITE;00BLACK LEFT LANE MERGE;03WHITE;00DRIVE SLOW SIGN;00HEAVY WHITE DOWN-POINTING TRIANGLE",
  "26DC;00LEFT CLOSED ENTRY;00SQUARED SALTIRE;00FALLING DIAGONAL IN WHITE CIRCLE IN BLACK SQUARE",
  "26DF;00BLACK TRUCK;00RESTRICTED LEFT ENTRY-1;20ENTRY-2;00ASTRONOMICAL SYMBOL FOR URANUS",
  "26E3;00HEAVY CIRCLE WITH STROKE AND TWO DOTS ABOVE;00PENTAGRAM;01RIGHT-HANDED INTERLACED;02LEFT-HANDED",
  "26E7;01INVERTED;00BLACK CROSS ON SHIELD;00SHINTO SHRINE;00CHURCH;00CASTLE;00HISTORIC SITE",
  "26ED;00GEAR WITHOUT HUB;10WITH HANDLES;00MAP SYMBOL FOR LIGHTHOUSE;00MOUNTAIN;00UMBRELLA ON GROUND",
  "26F2;00FOUNTAIN;00FLAG IN HOLE;00FERRY;00SAILBOAT;00SQUARE FOUR CORNERS;00SKIER;00ICE SKATE",
  "26F9;00PERSON WITH BALL;00TENT;00JAPANESE BANK SYMBOL;01HEADSTONE GRAVEYARD;00FUEL PUMP",
  "26FE;00CUP ON BLACK SQUARE;00WHITE FLAG WITH HORIZONTAL MIDDLE BLACK STRIPE;00BLACK SAFETY SCISSORS",
  "2701;01UPPER BLADE;01BLACK;01LOWER BLADE;01WHITE;10HEAVY CHECK MARK;00TELEPHONE LOCATION SIGN",
  "2707;00TAPE DRIVE;00AIRPLANE;00ENVELOPE;00RAISED FIST;10HAND;01VICTORY;01WRITING;00LOWER RIGHT PENCIL;01",
  "2710;01UPPER RIGHT;00WHITE NIB;01BLACK;00CHECK MARK;02HEAVY;00MULTIPLICATION X;02HEAVY;01BALLOT;02HEAVY",
  "2719;00OUTLINED GREEK CROSS;02HEAVY;01OPEN CENTRE;03HEAVY;01LATIN;02SHADOWED WHITE;02OUTLINED;01MALTESE",
  "2721;00STAR OF DAVID;00FOUR TEARDROP-SPOKED ASTERISK;11BALLOON-SPOKED;03HEAVY;01FOUR CLUB-SPOKED",
  "2726;00BLACK FOUR POINTED STAR;03WHITE;00SPARKLES;00STRESS OUTLINED WHITE STAR;02CIRCLED",
  "272B;01OPEN CENTRE BLACK;01BLACK CENTRE WHITE;01OUTLINED BLACK;03HEAVY;01PINWHEEL;01SHADOWED WHITE",
  "2731;00HEAVY ASTERISK;01OPEN CENTRE;01EIGHT SPOKED;10POINTED BLACK STAR;21PINWHEEL;01SIX POINTED BLACK",
  "2737;02EIGHT POINTED RECTILINEAR;05HEAVY;02TWELVE POINTED;00SIXTEEN POINTED ASTERISK;01TEARDROP-SPOKED",
  "273C;02OPEN CENTRE;02HEAVY;00SIX PETALLED BLACK AND WHITE FLORETTE;01BLACK;01WHITE",
  "2741;01EIGHT PETALLED OUTLINED BLACK;00CIRCLED OPEN CENTRE EIGHT POINTED STAR",
  "2743;00HEAVY TEARDROP-SPOKED PINWHEEL ASTERISK;00SNOWFLAKE;01TIGHT TRIFOLIATE;01HEAVY CHEVRON;00SPARKLE",
  "2748;01HEAVY;00BALLOON-SPOKED ASTERISK;01EIGHT TEARDROP-SPOKED PROPELLER;04HEAVY;00CROSS MARK",
  "274D;00SHADOWED WHITE CIRCLE;00NEGATIVE SQUARED CROSS MARK;00LOWER RIGHT DROP-SHADOWED WHITE SQUARE",
  "2750;04UPPER;02LOWER RIGHT SHADOWED;04UPPER;00BLACK QUESTION MARK ORNAMENT;03WHITE;12EXCLAMATION",
  "2756;00BLACK DIAMOND MINUS WHITE X;00HEAVY EXCLAMATION MARK SYMBOL;00LIGHT VERTICAL BAR;02MEDIUM;02HEAVY",
  "275B;10SINGLE TURNED COMMA QUOTATION MARK ORNAMENT;24;14DOUBLE TURNED;24;14LOW SINGLE;24DOUBLE",
  "2761;01CURVED STEM PARAGRAPH SIGN;01HEAVY EXCLAMATION MARK;13HEART;10BLACK HEART",
  "2765;00ROTATED HEAVY BLACK HEART BULLET;00FLORAL HEART;00ROTATED FLORAL HEART BULLET",
  "2768;00MEDIUM LEFT PARENTHESIS ORNAMENT;12RIGHT;12FLATTENED LEFT;22RIGHT;11LEFT-POINTING ANGLE BRACKET",
  "276D;13RIGHT-POINTING;01HEAVY LEFT-POINTING ANGLE QUOTATION MARK;14RIGHT-POINTING",
  "2770;11LEFT-POINTING ANGLE BRACKET;13RIGHT-POINTING;02LIGHT LEFT TORTOISE SHELL;14RIGHT",
  "2774;02MEDIUM LEFT CURLY;13RIGHT;00DINGBAT NEGATIVE CIRCLED DIGIT ONE;40TWO;40THREE;40FOUR;40FIVE;40SIX",
  "277C;40SEVEN;40EIGHT;40NINE;30NUMBER TEN;10CIRCLED SANS-SERIF DIGIT ONE;40TWO;40THREE;40FOUR;40FIVE",
  "2785;40SIX;40SEVEN;40EIGHT;40NINE;30NUMBER TEN;10NEGATIVE CIRCLED SANS-SERIF DIGIT ONE;50TWO;50THREE",
  "278D;50FOUR;50FIVE;50SIX;50SEVEN;50EIGHT;50NINE;40NUMBER TEN;00HEAVY WIDE-HEADED RIGHTWARDS ARROW",
  "2795;10PLUS SIGN;11MINUS;11DIVISION;10SOUTH EAST ARROW;11RIGHTWARDS;11NORTH EAST",
  "279B;01DRAFTING POINT RIGHTWARDS;02HEAVY ROUND-TIPPED;02TRIANGLE-HEADED;03HEAVY;03DASHED;04HEAVY;02BLACK",
  "27A2;00THREE-D TOP-LIGHTED RIGHTWARDS ARROWHEAD;12BOTTOM-LIGHTED;02BLACK",
  "27A5;00HEAVY BLACK CURVED DOWNWARDS AND RIGHTWARDS ARROW;33UPWARDS;02SQUAT BLACK;03HEAVY CONCAVE-POINTED",
  "27A9;02RIGHT-SHADED WHITE;03LEFT-SHADED;03BACK-TILTED SHADOWED;04FRONT-TILTED",
  "27AD;03HEAVY LOWER RIGHT-SHADOWED;14UPPER;04NOTCHED LOWER;00CURLY LOOP",
  "27B1;00NOTCHED UPPER RIGHT-SHADOWED WHITE RIGHTWARDS ARROW;03CIRCLED HEAVY;02WHITE-FEATHERED",
  "27B4;01BLACK-FEATHERED SOUTH EAST;11RIGHTWARDS;11NORTH EAST;02HEAVY BLACK-FEATHERED SOUTH;21RIGHTWARDS",
  "27B9;21NORTH EAST;01TEARDROP-BARBED RIGHTWARDS;02HEAVY TEARDROP-SHANKED;02WEDGE-TAILED;03HEAVY",
  "27BE;02OPEN-OUTLINED;00DOUBLE CURLY LOOP;00THREE DIMENSIONAL ANGLE",
  "27C1;00WHITE TRIANGLE CONTAINING SMALL WHITE TRIANGLE;00PERPENDICULAR;00OPEN SUBSET;10SUPERSET",
  "27C5;00LEFT S-SHAPED BAG DELIMITER;03RIGHT;00OR WITH DOT INSIDE;00REVERSE SOLIDUS PRECEDING SUBSET",
  "27C9;00SUPERSET PRECEDING SOLIDUS;00VERTICAL BAR WITH HORIZONTAL STROKE;00MATHEMATICAL RISING DIAGONAL",
  "27CC;00LONG DIVISION;00MATHEMATICAL FALLING DIAGONAL;00SQUARED LOGICAL AND;20OR",
  "27D0;00WHITE DIAMOND WITH CENTRED DOT;01AND WITH;00ELEMENT OF OPENING UPWARDS",
  "27D3;00LOWER RIGHT CORNER WITH DOT;03UPPER LEFT;00LEFT OUTER JOIN;02RIGHT;02FULL;00LARGE UP TACK;11DOWN",
  "27DA;00LEFT AND RIGHT DOUBLE TURNSTILE;30TACK;10MULTIMAP;00LONG RIGHT TACK;11LEFT",
  "27DF;00UP TACK WITH CIRCLE ABOVE;00LOZENGE DIVIDED BY HORIZONTAL RULE;00WHITE CONCAVE-SIDED DIAMOND",
  "27E2;30WITH LEFTWARDS TICK;41RIGHTWARDS;11SQUARE WITH LEFTWARDS;31RIGHTWARDS",
  "27E6;00MATHEMATICAL LEFT WHITE SQUARE BRACKET;13RIGHT;11LEFT ANGLE;12RIGHT;12LEFT DOUBLE;13RIGHT",
  "27EC;11LEFT WHITE TORTOISE SHELL;14RIGHT;10LEFT FLATTENED PARENTHESIS;12RIGHT;00UPWARDS QUADRUPLE ARROW",
  "27F1;02DOWNWARDS;01ANTICLOCKWISE GAPPED CIRCLE;03CLOCKWISE;00RIGHT ARROW WITH CIRCLED PLUS",
  "27F5;00LONG LEFTWARDS ARROW;11RIGHTWARDS;11LEFT RIGHT;11LEFTWARDS DOUBLE;12RIGHTWARDS;12LEFT RIGHT",
  "27FB;10LEFTWARDS ARROW FROM BAR;13RIGHTWARDS;13LEFTWARDS DOUBLE;14RIGHTWARDS;20SQUIGGLE ARROW",
  "2800;00BRAILLE PATTERN BLANK;20DOTS-1;20DOTS-2;20DOTS-12;20DOTS-3;20DOTS-13;20DOTS-23;20DOTS-123",
  "2808;20DOTS-4;20DOTS-14;20DOTS-24;20DOTS-124;20DOTS-34;20DOTS-134;20DOTS-234;20DOTS-1234;20DOTS-5",
  "2811;20DOTS-15;20DOTS-25;20DOTS-125;20DOTS-35;20DOTS-135;20DOTS-235;20DOTS-1235;20DOTS-45;20DOTS-145",
  "281A;20DOTS-245;20DOTS-1245;20DOTS-345;20DOTS-1345;20DOTS-2345;20DOTS-12345;20DOTS-6;20DOTS-16;20DOTS-26",
  "2823;20DOTS-126;20DOTS-36;20DOTS-136;20DOTS-236;20DOTS-1236;20DOTS-46;20DOTS-146;20DOTS-246;20DOTS-1246",
  "282C;20DOTS-346;20DOTS-1346;20DOTS-2346;20DOTS-12346;20DOTS-56;20DOTS-156;20DOTS-256;20DOTS-1256",
  "2834;20DOTS-356;20DOTS-1356;20DOTS-2356;20DOTS-12356;20DOTS-456;20DOTS-1456;20DOTS-2456;20DOTS-12456",
  "283C;20DOTS-3456;20DOTS-13456;20DOTS-23456;20DOTS-123456;20DOTS-7;20DOTS-17;20DOTS-27;20DOTS-127",
  "2844;20DOTS-37;20DOTS-137;20DOTS-237;20DOTS-1237;20DOTS-47;20DOTS-147;20DOTS-247;20DOTS-1247;20DOTS-347",
  "284D;20DOTS-1347;20DOTS-2347;20DOTS-12347;20DOTS-57;20DOTS-157;20DOTS-257;20DOTS-1257;20DOTS-357",
  "2855;20DOTS-1357;20DOTS-2357;20DOTS-12357;20DOTS-457;20DOTS-1457;20DOTS-2457;20DOTS-12457;20DOTS-3457",
  "285D;20DOTS-13457;20DOTS-23457;20DOTS-123457;20DOTS-67;20DOTS-167;20DOTS-267;20DOTS-1267;20DOTS-367",
  "2865;20DOTS-1367;20DOTS-2367;20DOTS-12367;20DOTS-467;20DOTS-1467;20DOTS-2467;20DOTS-12467;20DOTS-3467",
  "286D;20DOTS-13467;20DOTS-23467;20DOTS-123467;20DOTS-567;20DOTS-1567;20DOTS-2567;20DOTS-12567;20DOTS-3567",
  "2875;20DOTS-13567;20DOTS-23567;20DOTS-123567;20DOTS-4567;20DOTS-14567;20DOTS-24567;20DOTS-124567",
  "287C;20DOTS-34567;20DOTS-134567;20DOTS-234567;20DOTS-1234567;20DOTS-8;20DOTS-18;20DOTS-28;20DOTS-128",
  "2884;20DOTS-38;20DOTS-138;20DOTS-238;20DOTS-1238;20DOTS-48;20DOTS-148;20DOTS-248;20DOTS-1248;20DOTS-348",
  "288D;20DOTS-1348;20DOTS-2348;20DOTS-12348;20DOTS-58;20DOTS-158;20DOTS-258;20DOTS-1258;20DOTS-358",
  "2895;20DOTS-1358;20DOTS-2358;20DOTS-12358;20DOTS-458;20DOTS-1458;20DOTS-2458;20DOTS-12458;20DOTS-3458",
  "289D;20DOTS-13458;20DOTS-23458;20DOTS-123458;20DOTS-68;20DOTS-168;20DOTS-268;20DOTS-1268;20DOTS-368",
  "28A5;20DOTS-1368;20DOTS-2368;20DOTS-12368;20DOTS-468;20DOTS-1468;20DOTS-2468;20DOTS-12468;20DOTS-3468",
  "28AD;20DOTS-13468;20DOTS-23468;20DOTS-123468;20DOTS-568;20DOTS-1568;20DOTS-2568;20DOTS-12568;20DOTS-3568",
  "28B5;20DOTS-13568;20DOTS-23568;20DOTS-123568;20DOTS-4568;20DOTS-14568;20DOTS-24568;20DOTS-124568",
  "28BC;20DOTS-34568;20DOTS-134568;20DOTS-234568;20DOTS-1234568;20DOTS-78;20DOTS-178;20DOTS-278;20DOTS-1278",
  "28C4;20DOTS-378;20DOTS-1378;20DOTS-2378;20DOTS-12378;20DOTS-478;20DOTS-1478;20DOTS-2478;20DOTS-12478",
  "28CC;20DOTS-3478;20DOTS-13478;20DOTS-23478;20DOTS-123478;20DOTS-578;20DOTS-1578;20DOTS-2578;20DOTS-12578",
  "28D4;20DOTS-3578;20DOTS-13578;20DOTS-23578;20DOTS-123578;20DOTS-4578;20DOTS-14578;20DOTS-24578",
  "28DB;20DOTS-124578;20DOTS-34578;20DOTS-134578;20DOTS-234578;20DOTS-1234578;20DOTS-678;20DOTS-1678",
  "28E2;20DOTS-2678;20DOTS-12678;20DOTS-3678;20DOTS-13678;20DOTS-23678;20DOTS-123678;20DOTS-4678",
  "28E9;20DOTS-14678;20DOTS-24678;20DOTS-124678;20DOTS-34678;20DOTS-134678;20DOTS-234678;20DOTS-1234678",
  "28F0;20DOTS-5678;20DOTS-15678;20DOTS-25678;20DOTS-125678;20DOTS-35678;20DOTS-135678;20DOTS-235678",
  "28F7;20DOTS-1235678;20DOTS-45678;20DOTS-145678;20DOTS-245678;20DOTS-1245678;20DOTS-345678;20DOTS-1345678",
  "28FE;20DOTS-2345678;20DOTS-12345678;00RIGHTWARDS TWO-HEADED ARROW WITH VERTICAL STROKE;42DOUBLE",
  "2902;02LEFTWARDS DOUBLE ARROW WITH;05RIGHTWARDS;05LEFT RIGHT;00RIGHTWARDS TWO-HEADED ARROW FROM BAR",
  "2906;03LEFTWARDS DOUBLE;04RIGHTWARDS;00DOWNWARDS ARROW WITH HORIZONTAL STROKE;04UPWARDS;10TRIPLE ARROW",
  "290B;02DOWNWARDS;01LEFTWARDS DOUBLE DASH;03RIGHTWARDS;02LEFTWARDS TRIPLE;03RIGHTWARDS;13TWO-HEADED",
  "2911;10ARROW WITH DOTTED STEM;00UPWARDS ARROW TO BAR;03DOWNWARDS",
  "2914;00RIGHTWARDS ARROW WITH TAIL WITH VERTICAL STROKE;52DOUBLE;10TWO-HEADED ARROW WITH TAIL",
  "2917;50WITH VERTICAL STROKE;62DOUBLE;00LEFTWARDS ARROW-TAIL;01RIGHTWARDS;01LEFTWARDS DOUBLE;02RIGHTWARDS",
  "291D;00LEFTWARDS ARROW TO BLACK DIAMOND;04RIGHTWARDS;03LEFTWARDS ARROW FROM BAR;06RIGHTWARDS",
  "2921;00NORTH WEST AND SOUTH EAST ARROW;11EAST AND SOUTH WEST;10WEST ARROW WITH HOOK;13EAST;04SOUTH",
  "2926;13WEST;00NORTH WEST ARROW AND NORTH EAST ARROW;12EAST ARROW AND SOUTH",
  "2929;01SOUTH EAST ARROW AND SOUTH WEST;12WEST ARROW AND NORTH",
  "292B;00RISING DIAGONAL CROSSING FALLING DIAGONAL;01FALLING DIAGONAL CROSSING RISING",
  "292D;00SOUTH EAST ARROW CROSSING NORTH EAST ARROW;02NORTH EAST ARROW CROSSING SOUTH",
  "292F;02FALLING DIAGONAL CROSSING NORTH;02RISING DIAGONAL CROSSING SOUTH",
  "2931;01NORTH EAST ARROW CROSSING NORTH WEST;11WEST ARROW CROSSING NORTH EAST",
  "2933;00WAVE ARROW POINTING DIRECTLY RIGHT;00ARROW POINTING RIGHTWARDS THEN CURVING UPWARDS;50DOWNWARDS",
  "2936;20DOWNWARDS THEN CURVING LEFTWARDS;50RIGHTWARDS;00RIGHT-SIDE ARC CLOCKWISE ARROW",
  "2939;01LEFT-SIDE ARC ANTICLOCKWISE;03TOP;03BOTTOM;00TOP ARC CLOCKWISE ARROW WITH MINUS",
  "293D;20ANTICLOCKWISE ARROW WITH PLUS;00LOWER RIGHT SEMICIRCULAR CLOCKWISE ARROW",
  "293F;11LEFT SEMICIRCULAR ANTICLOCKWISE;01ANTICLOCKWISE CLOSED CIRCLE;03CLOCKWISE",
  "2942;01RIGHTWARDS ARROW ABOVE SHORT LEFTWARDS;01LEFTWARDS ARROW ABOVE SHORT RIGHTWARDS",
  "2944;01SHORT RIGHTWARDS ARROW ABOVE LEFTWARDS;00RIGHTWARDS ARROW WITH PLUS BELOW;04LEFTWARDS",
  "2947;00RIGHTWARDS ARROW THROUGH X;00LEFT RIGHT ARROW THROUGH SMALL CIRCLE",
  "2949;02UPWARDS TWO-HEADED ARROW FROM;00LEFT BARB UP RIGHT BARB DOWN HARPOON;21DOWN RIGHT BARB UP",
  "294C;01UP BARB RIGHT DOWN BARB LEFT;21LEFT DOWN BARB RIGHT;01LEFT BARB UP RIGHT BARB UP",
  "294F;01UP BARB RIGHT DOWN BARB RIGHT;01LEFT BARB DOWN RIGHT BARB DOWN;01UP BARB LEFT DOWN BARB LEFT",
  "2952;00LEFTWARDS HARPOON WITH BARB UP TO BAR;06RIGHTWARDS;02UPWARDS HARPOON WITH BARB RIGHT;06DOWNWARDS",
  "2956;02LEFTWARDS HARPOON WITH BARB DOWN;06RIGHTWARDS;02UPWARDS HARPOON WITH BARB LEFT;06DOWNWARDS",
  "295A;01LEFTWARDS HARPOON WITH BARB UP FROM;06RIGHTWARDS;02UPWARDS HARPOON WITH BARB RIGHT;06DOWNWARDS",
  "295E;02LEFTWARDS HARPOON WITH BARB DOWN;06RIGHTWARDS;02UPWARDS HARPOON WITH BARB LEFT;06DOWNWARDS",
  "2962;00LEFTWARDS HARPOON WITH BARB UP ABOVE LEFTWARDS HARPOON WITH BARB DOWN",
  "2963;00UPWARDS HARPOON WITH BARB LEFT BESIDE UPWARDS HARPOON WITH BARB RIGHT",
  "2964;00RIGHTWARDS HARPOON WITH BARB UP ABOVE RIGHTWARDS HARPOON WITH BARB DOWN",
  "2965;00DOWNWARDS HARPOON WITH BARB LEFT BESIDE DOWNWARDS HARPOON WITH BARB RIGHT",
  "2966;00LEFTWARDS HARPOON WITH BARB UP ABOVE RIGHTWARDS HARPOON WITH BARB UP",
  "2967;40DOWN ABOVE RIGHTWARDS HARPOON WITH BARB DOWN",
  "2968;00RIGHTWARDS HARPOON WITH BARB UP ABOVE LEFTWARDS HARPOON WITH BARB UP",
  "2969;40DOWN ABOVE LEFTWARDS HARPOON WITH BARB DOWN;00LEFTWARDS HARPOON WITH BARB UP ABOVE LONG DASH",
  "296B;42DOWN BELOW;02RIGHTWARDS HARPOON WITH BARB UP ABOVE;42DOWN BELOW",
  "296E;00UPWARDS HARPOON WITH BARB LEFT BESIDE DOWNWARDS HARPOON WITH BARB RIGHT",
  "296F;04DOWNWARDS HARPOON WITH BARB LEFT BESIDE UPWARDS;00RIGHT DOUBLE ARROW WITH ROUNDED HEAD",
  "2971;00EQUALS SIGN ABOVE RIGHTWARDS ARROW;03TILDE OPERATOR;00LEFTWARDS ARROW ABOVE TILDE OPERATOR",
  "2974;04RIGHTWARDS;30ALMOST EQUAL TO;00LESS-THAN ABOVE LEFTWARDS ARROW",
  "2977;00LEFTWARDS ARROW THROUGH LESS-THAN;00GREATER-THAN ABOVE RIGHTWARDS ARROW;03SUBSET",
  "297A;00LEFTWARDS ARROW THROUGH SUBSET;00SUPERSET ABOVE LEFTWARDS ARROW;00LEFT FISH TAIL;02RIGHT;02UP",
  "297F;02DOWN;00TRIPLE VERTICAL BAR DELIMITER;00Z NOTATION SPOT;20TYPE COLON;00LEFT WHITE CURLY BRACKET",
  "2984;03RIGHT;00LEFT WHITE PARENTHESIS;02RIGHT;00Z NOTATION LEFT IMAGE BRACKET;22RIGHT;21LEFT BINDING",
  "298A;22RIGHT;00LEFT SQUARE BRACKET WITH UNDERBAR;04RIGHT;00LEFT SQUARE BRACKET WITH TICK IN TOP CORNER",
  "298E;01RIGHT SQUARE BRACKET WITH TICK IN BOTTOM;07LEFT;01RIGHT SQUARE BRACKET WITH TICK IN TOP",
  "2991;00LEFT ANGLE BRACKET WITH DOT;04RIGHT;00LEFT ARC LESS-THAN BRACKET;01RIGHT ARC GREATER-THAN"]

private def characterNameRows10 : List String := [
  "2995;03DOUBLE LEFT;11RIGHT ARC LESS-THAN;01LEFT BLACK TORTOISE SHELL;04RIGHT;00DOTTED FENCE",
  "299A;00VERTICAL ZIGZAG LINE;00MEASURED ANGLE OPENING LEFT;00RIGHT ANGLE VARIANT WITH SQUARE",
  "299D;00MEASURED RIGHT ANGLE WITH DOT;00ANGLE WITH S INSIDE;00ACUTE ANGLE;00SPHERICAL ANGLE OPENING LEFT",
  "29A1;30UP;00TURNED ANGLE;01REVERSED;00ANGLE WITH UNDERBAR;03REVERSED;00OBLIQUE ANGLE OPENING UP;30DOWN",
  "29A8;00MEASURED ANGLE WITH OPEN ARM ENDING IN ARROW POINTING UP AND RIGHT;b0LEFT;90DOWN AND RIGHT;b0LEFT",
  "29AC;90RIGHT AND UP;92LEFT;90RIGHT AND DOWN;92LEFT;00REVERSED EMPTY SET;00EMPTY SET WITH OVERBAR",
  "29B2;30SMALL CIRCLE ABOVE;31RIGHT ARROW;32LEFT;00CIRCLE WITH HORIZONTAL BAR;01CIRCLED VERTICAL",
  "29B7;10PARALLEL;10REVERSE SOLIDUS;10PERPENDICULAR",
  "29BA;00CIRCLE DIVIDED BY HORIZONTAL BAR AND TOP HALF DIVIDED BY VERTICAL BAR;10WITH SUPERIMPOSED X",
  "29BC;00CIRCLED ANTICLOCKWISE-ROTATED DIVISION SIGN;00UP ARROW THROUGH CIRCLE;00CIRCLED WHITE BULLET;11",
  "29C0;10LESS-THAN;10GREATER-THAN;00CIRCLE WITH SMALL CIRCLE TO THE RIGHT;23TWO HORIZONTAL STROKES",
  "29C4;00SQUARED RISING DIAGONAL SLASH;12FALLING;10ASTERISK;10SMALL CIRCLE;10SQUARE;00TWO JOINED SQUARES",
  "29CA;00TRIANGLE WITH DOT ABOVE;20UNDERBAR;00S IN TRIANGLE;00TRIANGLE WITH SERIFS AT BOTTOM",
  "29CE;00RIGHT TRIANGLE ABOVE LEFT TRIANGLE;00LEFT TRIANGLE BESIDE VERTICAL BAR",
  "29D0;00VERTICAL BAR BESIDE RIGHT TRIANGLE;00BOWTIE WITH LEFT HALF BLACK;22RIGHT;00BLACK BOWTIE",
  "29D4;00TIMES WITH LEFT HALF BLACK;22RIGHT;00WHITE HOURGLASS;01BLACK;00LEFT WIGGLY FENCE;02RIGHT",
  "29DA;02LEFT DOUBLE;03RIGHT;00INCOMPLETE INFINITY;01TIE OVER;00INFINITY NEGATED WITH VERTICAL BAR",
  "29DF;00DOUBLE-ENDED MULTIMAP;00SQUARE WITH CONTOURED OUTLINE;00INCREASES AS;00SHUFFLE PRODUCT",
  "29E3;00EQUALS SIGN AND SLANTED PARALLEL;50WITH TILDE ABOVE;00IDENTICAL TO AND SLANTED PARALLEL",
  "29E6;00GLEICH STARK;00THERMODYNAMIC;00DOWN-POINTING TRIANGLE WITH LEFT HALF BLACK;32RIGHT",
  "29EA;00BLACK DIAMOND WITH DOWN ARROW;10LOZENGE;00WHITE CIRCLE WITH DOWN ARROW;04BLACK",
  "29EE;00ERROR-BARRED WHITE SQUARE;11BLACK;10WHITE DIAMOND;11BLACK;10WHITE CIRCLE;11BLACK;00RULE-DELAYED",
  "29F5;00REVERSE SOLIDUS OPERATOR;00SOLIDUS WITH OVERBAR;00REVERSE SOLIDUS WITH HORIZONTAL STROKE",
  "29F8;00BIG SOLIDUS;11REVERSE;00DOUBLE PLUS;01TRIPLE;00LEFT-POINTING CURVED ANGLE BRACKET",
  "29FD;03RIGHT-POINTING;00TINY;00MINY;00N-ARY CIRCLED DOT OPERATOR;21PLUS;21TIMES",
  "2A03;10UNION OPERATOR WITH DOT;40PLUS;10SQUARE INTERSECTION OPERATOR;21UNION;01TWO LOGICAL AND;21OR",
  "2A09;01N-ARY TIMES;00MODULO TWO SUM;00SUMMATION WITH INTEGRAL;00QUADRUPLE INTEGRAL OPERATOR",
  "2A0D;00FINITE PART INTEGRAL;00INTEGRAL WITH DOUBLE STROKE;10AVERAGE WITH SLASH;00CIRCULATION FUNCTION",
  "2A11;00ANTICLOCKWISE INTEGRATION;00LINE INTEGRATION WITH RECTANGULAR PATH AROUND POLE;33SEMICIRCULAR",
  "2A14;21NOT INCLUDING THE;00INTEGRAL AROUND A POINT OPERATOR;01QUATERNION INTEGRAL",
  "2A17;00INTEGRAL WITH LEFTWARDS ARROW WITH HOOK;20TIMES SIGN;20INTERSECTION;20UNION;20OVERBAR;20UNDERBAR",
  "2A1D;00JOIN;00LARGE LEFT TRIANGLE OPERATOR;00Z NOTATION SCHEMA COMPOSITION;30PIPING;30PROJECTION",
  "2A22;00PLUS SIGN WITH SMALL CIRCLE ABOVE;31CIRCUMFLEX ACCENT;31TILDE;30DOT BELOW;31TILDE;30SUBSCRIPT TWO",
  "2A28;30BLACK TRIANGLE;00MINUS SIGN WITH COMMA ABOVE;30DOT BELOW;30FALLING DOTS;31RISING",
  "2A2D;00PLUS SIGN IN LEFT HALF CIRCLE;32RIGHT;00VECTOR OR CROSS PRODUCT",
  "2A30;00MULTIPLICATION SIGN WITH DOT ABOVE;30UNDERBAR;00SEMIDIRECT PRODUCT WITH BOTTOM CLOSED",
  "2A33;00SMASH PRODUCT;00MULTIPLICATION SIGN IN LEFT HALF CIRCLE;32RIGHT",
  "2A36;00CIRCLED MULTIPLICATION SIGN WITH CIRCUMFLEX ACCENT;00MULTIPLICATION SIGN IN DOUBLE CIRCLE",
  "2A38;00CIRCLED DIVISION SIGN;00PLUS SIGN IN TRIANGLE;03MINUS;03MULTIPLICATION;00INTERIOR PRODUCT",
  "2A3D;02RIGHTHAND;00Z NOTATION RELATIONAL COMPOSITION;00AMALGAMATION OR COPRODUCT;00INTERSECTION WITH DOT",
  "2A41;00UNION WITH MINUS SIGN;20OVERBAR;02INTERSECTION;20LOGICAL AND;00UNION WITH LOGICAL OR",
  "2A46;10ABOVE INTERSECTION;00INTERSECTION ABOVE UNION;00UNION ABOVE BAR ABOVE INTERSECTION",
  "2A49;00INTERSECTION ABOVE BAR ABOVE UNION;01UNION BESIDE AND JOINED WITH",
  "2A4B;00INTERSECTION BESIDE AND JOINED WITH INTERSECTION;00CLOSED UNION WITH SERIFS;12INTERSECTION",
  "2A4E;00DOUBLE SQUARE INTERSECTION;20UNION;00CLOSED UNION WITH SERIFS AND SMASH PRODUCT",
  "2A51;00LOGICAL AND WITH DOT ABOVE;13OR;00DOUBLE LOGICAL AND;20OR;00TWO INTERSECTING LOGICAL AND;30OR",
  "2A57;01SLOPING LARGE;20AND;01LOGICAL OR OVERLAPPING LOGICAL;10AND WITH MIDDLE STEM;13OR",
  "2A5C;10AND WITH HORIZONTAL DASH;13OR;10AND WITH DOUBLE OVERBAR;30UNDERBAR;31DOUBLE;01SMALL VEE WITH",
  "2A62;00LOGICAL OR WITH DOUBLE OVERBAR;40UNDERBAR;00Z NOTATION DOMAIN ANTIRESTRICTION;21RANGE",
  "2A66;00EQUALS SIGN WITH DOT BELOW;00IDENTICAL WITH DOT ABOVE",
  "2A68;00TRIPLE HORIZONTAL BAR WITH DOUBLE VERTICAL STROKE;42TRIPLE;00TILDE OPERATOR WITH DOT ABOVE",
  "2A6B;30RISING DOTS;00SIMILAR MINUS SIMILAR;00CONGRUENT WITH DOT ABOVE;00EQUALS WITH ASTERISK",
  "2A6F;00ALMOST EQUAL TO WITH CIRCUMFLEX ACCENT;00APPROXIMATELY EQUAL OR EQUAL TO",
  "2A71;00EQUALS SIGN ABOVE PLUS SIGN;01PLUS SIGN ABOVE EQUALS;00EQUALS SIGN ABOVE TILDE OPERATOR",
  "2A74;00DOUBLE COLON EQUAL;00TWO CONSECUTIVE EQUALS SIGNS;03THREE",
  "2A77;00EQUALS SIGN WITH TWO DOTS ABOVE AND TWO DOTS BELOW;00EQUIVALENT WITH FOUR DOTS ABOVE",
  "2A79;00LESS-THAN WITH CIRCLE INSIDE;03GREATER-THAN;00LESS-THAN WITH QUESTION MARK ABOVE;04GREATER-THAN",
  "2A7D;00LESS-THAN OR SLANTED EQUAL TO;04GREATER-THAN;00LESS-THAN OR SLANTED EQUAL TO WITH DOT INSIDE",
  "2A80;07GREATER-THAN;00LESS-THAN OR SLANTED EQUAL TO WITH DOT ABOVE;07GREATER-THAN",
  "2A83;00LESS-THAN OR SLANTED EQUAL TO WITH DOT ABOVE RIGHT",
  "2A84;00GREATER-THAN OR SLANTED EQUAL TO WITH DOT ABOVE LEFT;00LESS-THAN OR APPROXIMATE;02GREATER-THAN",
  "2A87;00LESS-THAN AND SINGLE-LINE NOT EQUAL TO;05GREATER-THAN;00LESS-THAN AND NOT APPROXIMATE",
  "2A8A;03GREATER-THAN;00LESS-THAN ABOVE DOUBLE-LINE EQUAL ABOVE GREATER-THAN",
  "2A8C;00GREATER-THAN ABOVE DOUBLE-LINE EQUAL ABOVE LESS-THAN;00LESS-THAN ABOVE SIMILAR OR EQUAL",
  "2A8E;04GREATER-THAN;00LESS-THAN ABOVE SIMILAR ABOVE GREATER-THAN",
  "2A90;00GREATER-THAN ABOVE SIMILAR ABOVE LESS-THAN;00LESS-THAN ABOVE GREATER-THAN ABOVE DOUBLE-LINE EQUAL",
  "2A92;03GREATER-THAN ABOVE LESS-THAN;01LESS-THAN ABOVE SLANTED EQUAL ABOVE GREATER-THAN ABOVE SLANTED",
  "2A94;03GREATER-THAN ABOVE SLANTED EQUAL ABOVE LESS-THAN;00SLANTED EQUAL TO OR LESS-THAN;40GREATER-THAN",
  "2A97;40LESS-THAN WITH DOT INSIDE;43GREATER-THAN;00DOUBLE-LINE EQUAL TO OR LESS-THAN;40GREATER-THAN",
  "2A9B;10SLANTED EQUAL TO OR LESS-THAN;50GREATER-THAN;00SIMILAR OR LESS-THAN;20GREATER-THAN",
  "2A9F;10ABOVE LESS-THAN ABOVE EQUALS SIGN;23GREATER-THAN;00DOUBLE NESTED LESS-THAN;20GREATER-THAN",
  "2AA3;20LESS-THAN WITH UNDERBAR;00GREATER-THAN OVERLAPPING LESS-THAN;11BESIDE;00LESS-THAN CLOSED BY CURVE",
  "2AA7;03GREATER-THAN;00LESS-THAN CLOSED BY CURVE ABOVE SLANTED EQUAL;06GREATER-THAN;00SMALLER THAN",
  "2AAB;01LARGER;00SMALLER THAN OR EQUAL TO;04LARGER;00EQUALS SIGN WITH BUMPY ABOVE",
  "2AAF;00PRECEDES ABOVE SINGLE-LINE EQUALS SIGN;04SUCCEEDS;00PRECEDES ABOVE SINGLE-LINE NOT EQUAL TO",
  "2AB2;05SUCCEEDS;00PRECEDES ABOVE EQUALS SIGN;03SUCCEEDS;00PRECEDES ABOVE NOT EQUAL TO;04SUCCEEDS",
  "2AB7;02PRECEDES ABOVE ALMOST;04SUCCEEDS;03PRECEDES ABOVE NOT;05SUCCEEDS;00DOUBLE PRECEDES;10SUCCEEDS",
  "2ABD;00SUBSET WITH DOT;02SUPERSET;00SUBSET WITH PLUS SIGN BELOW;04SUPERSET;02SUBSET WITH MULTIPLICATION",
  "2AC2;04SUPERSET;00SUBSET OF OR EQUAL TO WITH DOT ABOVE;07SUPERSET;00SUBSET OF ABOVE EQUALS SIGN",
  "2AC6;04SUPERSET;00SUBSET OF ABOVE TILDE OPERATOR;04SUPERSET;00SUBSET OF ABOVE ALMOST EQUAL TO;05SUPERSET",
  "2ACB;02SUBSET OF ABOVE NOT;05SUPERSET;00SQUARE LEFT OPEN BOX OPERATOR;13RIGHT;00CLOSED SUBSET;10SUPERSET",
  "2AD1;10SUBSET OR EQUAL TO;13SUPERSET;00SUBSET ABOVE SUPERSET;00SUPERSET ABOVE SUBSET;02SUBSET",
  "2AD6;00SUPERSET ABOVE SUPERSET;10BESIDE SUBSET;21AND JOINED BY DASH WITH;00ELEMENT OF OPENING DOWNWARDS",
  "2ADA;00PITCHFORK WITH TEE TOP;00TRANSVERSAL INTERSECTION;00FORKING;00NONFORKING;00SHORT LEFT TACK;11DOWN",
  "2AE0;11UP;00PERPENDICULAR WITH S;00VERTICAL BAR TRIPLE RIGHT TURNSTILE;01DOUBLE VERTICAL BAR LEFT",
  "2AE4;02VERTICAL BAR DOUBLE;05DOUBLE;00LONG DASH FROM LEFT MEMBER OF DOUBLE VERTICAL",
  "2AE7;00SHORT DOWN TACK WITH OVERBAR;10UP TACK WITH UNDERBAR;30ABOVE SHORT DOWN TACK;02DOUBLE;11UP",
  "2AEC;10STROKE NOT SIGN;04REVERSED;00DOES NOT DIVIDE WITH REVERSED NEGATION SLASH",
  "2AEF;00VERTICAL LINE WITH CIRCLE ABOVE;40BELOW;03DOWN TACK;00PARALLEL WITH HORIZONTAL STROKE",
  "2AF3;20TILDE OPERATOR;00TRIPLE VERTICAL BAR BINARY RELATION;30WITH HORIZONTAL STROKE;10COLON OPERATOR",
  "2AF7;10NESTED LESS-THAN;20GREATER-THAN;00DOUBLE-LINE SLANTED LESS-THAN OR EQUAL TO;23GREATER-THAN",
  "2AFB;00TRIPLE SOLIDUS BINARY RELATION;00LARGE TRIPLE VERTICAL BAR OPERATOR;01DOUBLE SOLIDUS",
  "2AFE;00WHITE VERTICAL BAR;03N-ARY;00NORTH EAST WHITE ARROW;12WEST;02SOUTH EAST;12WEST;02LEFT RIGHT",
  "2B05;01LEFTWARDS BLACK;02UPWARDS;02DOWNWARDS;02NORTH EAST;12WEST;02SOUTH EAST;12WEST;02LEFT RIGHT",
  "2B0D;02UP DOWN;00RIGHTWARDS ARROW WITH TIP DOWNWARDS;40UPWARDS;00LEFTWARDS ARROW WITH TIP DOWNWARDS",
  "2B11;40UPWARDS;00SQUARE WITH TOP HALF BLACK;22BOTTOM;22UPPER RIGHT DIAGONAL;23LOWER LEFT",
  "2B16;02DIAMOND WITH LEFT;22RIGHT;22TOP;22BOTTOM;00DOTTED SQUARE;01BLACK LARGE;02WHITE;01BLACK VERY SMALL",
  "2B1E;03WHITE;00BLACK PENTAGON;01WHITE;10HEXAGON;01BLACK;02HORIZONTAL;00BLACK LARGE CIRCLE",
  "2B25;10MEDIUM DIAMOND;02WHITE;00BLACK MEDIUM LOZENGE;02WHITE;00BLACK SMALL DIAMOND;20LOZENGE;02WHITE",
  "2B2C;00BLACK HORIZONTAL ELLIPSE;02WHITE;01BLACK VERTICAL;02WHITE;00LEFT ARROW WITH SMALL CIRCLE",
  "2B31;00THREE LEFTWARDS ARROWS;00LEFT ARROW WITH CIRCLED PLUS;00LONG LEFTWARDS SQUIGGLE ARROW",
  "2B34;00LEFTWARDS TWO-HEADED ARROW WITH VERTICAL STROKE;42DOUBLE;30FROM BAR;20TRIPLE DASH ARROW",
  "2B38;10ARROW WITH DOTTED STEM;30TAIL WITH VERTICAL STROKE;52DOUBLE;10TWO-HEADED ARROW WITH TAIL",
  "2B3C;50WITH VERTICAL STROKE;62DOUBLE;10ARROW THROUGH X;00WAVE ARROW POINTING DIRECTLY LEFT",
  "2B40;00EQUALS SIGN ABOVE LEFTWARDS ARROW;03REVERSE TILDE OPERATOR",
  "2B42;00LEFTWARDS ARROW ABOVE REVERSE ALMOST EQUAL TO;00RIGHTWARDS ARROW THROUGH GREATER-THAN;30SUPERSET",
  "2B45;00LEFTWARDS QUADRUPLE ARROW;02RIGHTWARDS;01REVERSE TILDE OPERATOR ABOVE RIGHTWARDS",
  "2B48;00RIGHTWARDS ARROW ABOVE REVERSE ALMOST EQUAL TO;00TILDE OPERATOR ABOVE LEFTWARDS ARROW",
  "2B4A;00LEFTWARDS ARROW ABOVE ALMOST EQUAL TO;30REVERSE TILDE OPERATOR;05RIGHTWARDS",
  "2B4D;00DOWNWARDS TRIANGLE-HEADED ZIGZAG ARROW;01SHORT SLANTED NORTH;11BACKSLANTED SOUTH",
  "2B50;00WHITE MEDIUM STAR;01BLACK SMALL;02WHITE;00BLACK RIGHT-POINTING PENTAGON;02WHITE",
  "2B55;00HEAVY LARGE CIRCLE;10OVAL WITH OVAL INSIDE;11CIRCLE WITH CIRCLE;20;10CIRCLED SALTIRE",
  "2B5A;00SLANTED NORTH ARROW WITH HOOKED HEAD;00BACKSLANTED SOUTH ARROW WITH HOOKED TAIL",
  "2B5C;01SLANTED NORTH ARROW WITH HORIZONTAL;04BACKSLANTED SOUTH",
  "2B5E;00BENT ARROW POINTING DOWNWARDS THEN NORTH EAST;07SHORT;00LEFTWARDS TRIANGLE-HEADED ARROW;02UPWARDS",
  "2B62;02RIGHTWARDS;02DOWNWARDS;02LEFT RIGHT;02UP DOWN;02NORTH WEST;12EAST;03SOUTH;12WEST",
  "2B6A;01LEFTWARDS TRIANGLE-HEADED DASHED;03UPWARDS;03RIGHTWARDS;03DOWNWARDS",
  "2B6E;01CLOCKWISE TRIANGLE-HEADED OPEN CIRCLE;04ANTICLOCKWISE;00LEFTWARDS TRIANGLE-HEADED ARROW TO BAR",
  "2B71;04UPWARDS;04RIGHTWARDS;04DOWNWARDS",
  "2B76;04NORTH WEST;14EAST;05SOUTH;14WEST;00LEFTWARDS TRIANGLE-HEADED ARROW WITH DOUBLE HORIZONTAL STROKE",
  "2B7B;06UPWARDS;06RIGHTWARDS;06DOWNWARDS;00HORIZONTAL TAB KEY;02VERTICAL",
  "2B80;00LEFTWARDS TRIANGLE-HEADED ARROW OVER RIGHTWARDS TRIANGLE-HEADED ARROW",
  "2B81;02UPWARDS TRIANGLE-HEADED ARROW LEFTWARDS OF DOWNWARDS",
  "2B82;02RIGHTWARDS TRIANGLE-HEADED ARROW OVER LEFTWARDS",
  "2B83;02DOWNWARDS TRIANGLE-HEADED ARROW LEFTWARDS OF UPWARDS;00LEFTWARDS TRIANGLE-HEADED PAIRED ARROWS",
  "2B85;03UPWARDS;03RIGHTWARDS;03DOWNWARDS;00LEFTWARDS BLACK CIRCLED WHITE ARROW;04UPWARDS;04RIGHTWARDS",
  "2B8B;04DOWNWARDS;01ANTICLOCKWISE TRIANGLE-HEADED RIGHT U-SHAPED;22BOTTOM;22LEFT;22TOP;00RETURN LEFT",
  "2B91;10RIGHT;00NEWLINE LEFT;10RIGHT;00FOUR CORNER ARROWS CIRCLING ANTICLOCKWISE;00RIGHTWARDS BLACK ARROW",
  "2B97;00SYMBOL FOR TYPE A ELECTRONICS;00THREE-D TOP-LIGHTED LEFTWARDS EQUILATERAL ARROWHEAD",
  "2B99;12RIGHT-LIGHTED UPWARDS;12TOP-LIGHTED RIGHTWARDS;12LEFT-LIGHTED DOWNWARDS;02BLACK LEFTWARDS",
  "2B9D;12UPWARDS;12RIGHTWARDS;12DOWNWARDS;00DOWNWARDS TRIANGLE-HEADED ARROW WITH LONG TIP LEFTWARDS",
  "2BA1;60RIGHTWARDS;00UPWARDS TRIANGLE-HEADED ARROW WITH LONG TIP LEFTWARDS;60RIGHTWARDS",
  "2BA4;00LEFTWARDS TRIANGLE-HEADED ARROW WITH LONG TIP UPWARDS;06RIGHTWARDS",
  "2BA6;00LEFTWARDS TRIANGLE-HEADED ARROW WITH LONG TIP DOWNWARDS;06RIGHTWARDS",
  "2BA8;00BLACK CURVED DOWNWARDS AND LEFTWARDS ARROW;41RIGHTWARDS;21UPWARDS AND LEFTWARDS;41RIGHTWARDS",
  "2BAC;21LEFTWARDS AND UPWARDS;23RIGHTWARDS;21LEFTWARDS AND DOWNWARDS;23RIGHTWARDS",
  "2BB0;00RIBBON ARROW DOWN LEFT;30RIGHT;20UP LEFT;30RIGHT;20LEFT UP;21RIGHT;20LEFT DOWN;21RIGHT",
  "2BB8;00UPWARDS WHITE ARROW FROM BAR WITH HORIZONTAL BAR;00UP ARROWHEAD IN A RECTANGLE BOX",
  "2BBA;00OVERLAPPING WHITE SQUARES;21AND BLACK;12;00BALLOT BOX WITH LIGHT X;01CIRCLED;11BOLD",
  "2BC0;00BLACK SQUARE CENTRED;11DIAMOND;00TURNED BLACK PENTAGON;00HORIZONTAL BLACK OCTAGON;02",
  "2BC5;10MEDIUM UP-POINTING TRIANGLE CENTRED;22DOWN-POINTING;22LEFT-POINTING;22RIGHT-POINTING",
  "2BC9;00NEPTUNE FORM TWO;00TOP HALF BLACK CIRCLE;03BOTTOM;00LIGHT FOUR POINTED BLACK CUSP;05ROTATED",
  "2BCE;01WHITE FOUR POINTED;04ROTATED;00SQUARE POSITION INDICATOR;00UNCERTAINTY SIGN;00GROUP MARK",
  "2BD3;00PLUTO FORM TWO;20THREE;20FOUR;20FIVE;00TRANSPLUTO;00PROSERPINA;00ASTRAEA;00HYGIEA;00PHOLUS",
  "2BDC;00NESSUS;00WHITE MOON SELENA;00BLACK DIAMOND ON CROSS;00TRUE LIGHT MOON ARTA;00CUPIDO;00HADES",
  "2BE2;00ZEUS;00KRONOS;00APOLLON;00ADMETOS;00VULCANUS;00POSEIDON;00LEFT HALF BLACK STAR;03RIGHT",
  "2BEA;00STAR WITH LEFT HALF BLACK;22RIGHT;00LEFTWARDS TWO-HEADED ARROW WITH TRIANGLE ARROWHEADS;05UPWARDS",
  "2BEE;05RIGHTWARDS;05DOWNWARDS;00ERIS FORM ONE;20TWO;00SEDNA;00RUSSIAN ASTROLOGICAL SYMBOL VIGINTILE",
  "2BF4;30NOVILE;30QUINTILE;30BINOVILE;30SENTAGON;30TREDECILE;00EQUALS SIGN WITH INFINITY BELOW",
  "2BFA;00UNITED SYMBOL;01SEPARATED;01DOUBLED;01PASSED;00REVERSED RIGHT ANGLE;00HELLSCHREIBER PAUSE SYMBOL",
  "2C00;00GLAGOLITIC CAPITAL LETTER AZU;30BUKY;30VEDE;30GLAGOLI;30DOBRO;30YESTU;30ZHIVETE;30DZELO;30ZEMLJA",
  "2C09;30IZHE;31INITIAL;30I;30DJERVI;30KAKO;30LJUDIJE;30MYSLITE;30NASHI;30ONU;30POKOJI;30RITSI;30SLOVO",
  "2C15;30TVRIDO;30UKU;30FRITU;30HERU;30OTU;30PE;30SHTA;30TSI;30CHRIVI;30SHA;30YERU;30YERI;30YATI",
  "2C22;30SPIDERY HA;30YU;30SMALL YUS;50WITH TAIL;30YO;30IOTATED SMALL YUS;31BIG;32IOTATED;30FITA;30IZHITSA",
  "2C2C;30SHTAPIC;30TROKUTASTI A;30LATINATE MYSLITE;30CAUDATE CHRIVI;10SMALL LETTER AZU;30BUKY;30VEDE",
  "2C33;30GLAGOLI;30DOBRO;30YESTU;30ZHIVETE;30DZELO;30ZEMLJA;30IZHE;31INITIAL;30I;30DJERVI;30KAKO;30LJUDIJE",
  "2C3F;30MYSLITE;30NASHI;30ONU;30POKOJI;30RITSI;30SLOVO;30TVRIDO;30UKU;30FRITU;30HERU;30OTU;30PE;30SHTA",
  "2C4C;30TSI;30CHRIVI;30SHA;30YERU;30YERI;30YATI;30SPIDERY HA;30YU;30SMALL YUS;50WITH TAIL;30YO",
  "2C57;30IOTATED SMALL YUS;31BIG;32IOTATED;30FITA;30IZHITSA;30SHTAPIC;30TROKUTASTI A;30LATINATE MYSLITE",
  "2C5F;30CAUDATE CHRIVI;00LATIN CAPITAL LETTER L WITH DOUBLE BAR;15SMALL"]

private def characterNameRows11 : List String := [
  "2C62;10CAPITAL LETTER L WITH MIDDLE TILDE;30P WITH STROKE;30R WITH TAIL;10SMALL LETTER A WITH STROKE",
  "2C66;31T WITH DIAGONAL;10CAPITAL LETTER H WITH DESCENDER;14SMALL;12CAPITAL LETTER K;14SMALL",
  "2C6B;12CAPITAL LETTER Z;14SMALL;10CAPITAL LETTER ALPHA;30M WITH HOOK;30TURNED A;40ALPHA",
  "2C71;10SMALL LETTER V WITH RIGHT HOOK;11CAPITAL LETTER W WITH;14SMALL;30V WITH CURL",
  "2C75;10CAPITAL LETTER HALF H;13SMALL;30TAILLESS PHI;30E WITH NOTCH;30TURNED R WITH TAIL",
  "2C7A;30O WITH LOW RING INSIDE;10LETTER SMALL CAPITAL TURNED E;10SUBSCRIPT SMALL LETTER J",
  "2C7D;00MODIFIER LETTER CAPITAL V;00LATIN CAPITAL LETTER S WITH SWASH TAIL;33Z",
  "2C80;00COPTIC CAPITAL LETTER ALFA;12SMALL;10CAPITAL LETTER VIDA;12SMALL;10CAPITAL LETTER GAMMA;12SMALL",
  "2C86;10CAPITAL LETTER DALDA;12SMALL;10CAPITAL LETTER EIE;12SMALL;10CAPITAL LETTER SOU;12SMALL",
  "2C8C;10CAPITAL LETTER ZATA;12SMALL;10CAPITAL LETTER HATE;12SMALL;10CAPITAL LETTER THETHE;12SMALL",
  "2C92;10CAPITAL LETTER IAUDA;12SMALL;10CAPITAL LETTER KAPA;12SMALL;10CAPITAL LETTER LAULA;12SMALL",
  "2C98;10CAPITAL LETTER MI;12SMALL;10CAPITAL LETTER NI;12SMALL;10CAPITAL LETTER KSI;12SMALL",
  "2C9E;10CAPITAL LETTER O;12SMALL;10CAPITAL LETTER PI;12SMALL;10CAPITAL LETTER RO;12SMALL",
  "2CA4;10CAPITAL LETTER SIMA;12SMALL;10CAPITAL LETTER TAU;12SMALL;10CAPITAL LETTER UA;12SMALL",
  "2CAA;10CAPITAL LETTER FI;12SMALL;10CAPITAL LETTER KHI;12SMALL;10CAPITAL LETTER PSI;12SMALL",
  "2CB0;10CAPITAL LETTER OOU;12SMALL;10CAPITAL LETTER DIALECT-P ALEF;13SMALL",
  "2CB4;10CAPITAL LETTER OLD COPTIC AIN;14SMALL;10CAPITAL LETTER CRYPTOGRAMMIC EIE;13SMALL",
  "2CB8;10CAPITAL LETTER DIALECT-P KAPA;13SMALL;10CAPITAL LETTER DIALECT-P NI;13SMALL",
  "2CBC;11CAPITAL LETTER CRYPTOGRAMMIC;13SMALL;10CAPITAL LETTER OLD COPTIC OOU;14SMALL",
  "2CC0;10CAPITAL LETTER SAMPI;12SMALL;10CAPITAL LETTER CROSSED SHEI;13SMALL;11CAPITAL LETTER OLD COPTIC",
  "2CC5;14SMALL;10CAPITAL LETTER OLD COPTIC ESH;14SMALL;10CAPITAL LETTER AKHMIMIC KHEI;13SMALL",
  "2CCA;10CAPITAL LETTER DIALECT-P HORI;13SMALL;11CAPITAL LETTER OLD COPTIC;14SMALL",
  "2CCE;10CAPITAL LETTER OLD COPTIC HA;14SMALL;11CAPITAL LETTER L-SHAPED;13SMALL",
  "2CD2;10CAPITAL LETTER OLD COPTIC HEI;14SMALL;10CAPITAL LETTER OLD COPTIC HAT;14SMALL",
  "2CD6;10CAPITAL LETTER OLD COPTIC GANGIA;14SMALL;10CAPITAL LETTER OLD COPTIC DJA;14SMALL",
  "2CDA;10CAPITAL LETTER OLD COPTIC SHIMA;14SMALL;11CAPITAL LETTER OLD NUBIAN;14SMALL",
  "2CDE;10CAPITAL LETTER OLD NUBIAN NGI;14SMALL;10CAPITAL LETTER OLD NUBIAN NYI;14SMALL",
  "2CE2;10CAPITAL LETTER OLD NUBIAN WAU;14SMALL;10SYMBOL KAI;20MI RO;21PI;20STAUROS;20TAU RO;21KHI",
  "2CEA;20SHIMA SIMA;10CAPITAL LETTER CRYPTOGRAMMIC SHEI;13SMALL;10CAPITAL LETTER CRYPTOGRAMMIC GANGIA",
  "2CEE;13SMALL;10COMBINING NI ABOVE;20SPIRITUS ASPER;30LENIS;10CAPITAL LETTER BOHAIRIC KHEI;13SMALL",
  "2CF9;10OLD NUBIAN FULL STOP;30DIRECT QUESTION MARK;32INDIRECT;30VERSE DIVIDER;10FRACTION ONE HALF",
  "2CFE;10FULL STOP;10MORPHOLOGICAL DIVIDER;00GEORGIAN SMALL LETTER AN;30BAN;30GAN;30DON;30EN;30VIN;30ZEN",
  "2D07;30TAN;30IN;30KAN;30LAS;30MAN;30NAR;30ON;30PAR;30ZHAR;30RAE;30SAN;30TAR;30UN;30PHAR;30KHAR;30GHAN",
  "2D17;30QAR;30SHIN;30CHIN;30CAN;30JIL;30CIL;30CHAR;30XAN;30JHAN;30HAE;30HE;30HIE;30WE;30HAR;30HOE",
  "2D27;30YN",
  "2D2D;30AEN",
  "2D30;00TIFINAGH LETTER YA;20YAB;20YABH;20YAG;20YAGHH;20BERBER ACADEMY YAJ;21;20YAD;20YADH;20YADD;20YADDH",
  "2D3B;20YEY;20YAF;20YAK;21TUAREG;20YAKHH;20YAH;21BERBER ACADEMY;21TUAREG;20YAHH;20YAA;20YAKH;21TUAREG",
  "2D47;20YAQ;21TUAREG;20YI;20YAZH;21AHAGGAR;21TUAREG;20YAL;20YAM;20YAN;20TUAREG YAGN;30YANG;20YAP;20YU",
  "2D54;20YAR;20YARR;20YAGH;21TUAREG;21AYER;20YAS;20YASS;20YASH;20YAT;20YATH;20YACH;20YATT;20YAV;20YAW",
  "2D62;20YAY;20YAZ;21TAWELLEMET;20YAZZ;20YE;20YO",
  "2D6F;10MODIFIER LETTER LABIALIZATION MARK;11SEPARATOR",
  "2D7F;10CONSONANT JOINER;00ETHIOPIC SYLLABLE LOA;20MOA;20ROA;20SOA;20SHOA;20BOA;20TOA;20COA;20NOA;20NYOA",
  "2D8A;20GLOTTAL OA;20ZOA;20DOA;20DDOA;20JOA;20THOA;20CHOA;20PHOA;20POA;20GGWA;20GGWI;20GGWEE;20GGWE",
  "2DA0;20SSA;20SSU;20SSI;20SSAA;20SSEE;20SSE;20SSO",
  "2DA8;20CCA;20CCU;20CCI;20CCAA;20CCEE;20CCE;20CCO",
  "2DB0;20ZZA;20ZZU;20ZZI;20ZZAA;20ZZEE;20ZZE;20ZZO",
  "2DB8;20CCHA;20CCHU;20CCHI;20CCHAA;20CCHEE;20CCHE;20CCHO",
  "2DC0;20QYA;20QYU;20QYI;20QYAA;20QYEE;20QYE;20QYO",
  "2DC8;20KYA;20KYU;20KYI;20KYAA;20KYEE;20KYE;20KYO",
  "2DD0;20XYA;20XYU;20XYI;20XYAA;20XYEE;20XYE;20XYO",
  "2DD8;20GYA;20GYU;20GYI;20GYAA;20GYEE;20GYE;20GYO",
  "2DE0;00COMBINING CYRILLIC LETTER BE;30VE;30GHE;30DE;30ZHE;30ZE;30KA;30EL;30EM;30EN;30O;30PE;30ER;30ES",
  "2DEE;30TE;30HA;30TSE;30CHE;30SHA;30SHCHA;30FITA;30ES-TE;30A;30IE;30DJERV;30MONOGRAPH UK;30YAT;30YU",
  "2DFC;30IOTIFIED A;30LITTLE YUS;31BIG;32IOTIFIED;00RIGHT ANGLE SUBSTITUTION MARKER;22DOTTED",
  "2E02;00LEFT SUBSTITUTION BRACKET;02RIGHT;02LEFT DOTTED;03RIGHT;00RAISED INTERPOLATION MARKER;12DOTTED",
  "2E08;01DOTTED TRANSPOSITION;00LEFT TRANSPOSITION BRACKET;02RIGHT;00RAISED SQUARE",
  "2E0C;00LEFT RAISED OMISSION BRACKET;03RIGHT;00EDITORIAL CORONIS;00PARAGRAPHOS;01FORKED;02REVERSED",
  "2E12;00HYPODIASTOLE;00DOTTED OBELOS;00DOWNWARDS ANCORA;01UPWARDS;00DOTTED RIGHT-POINTING ANGLE",
  "2E17;00DOUBLE OBLIQUE HYPHEN;00INVERTED INTERROBANG;00PALM BRANCH;00HYPHEN WITH DIAERESIS",
  "2E1B;00TILDE WITH RING ABOVE;00LEFT LOW PARAPHRASE BRACKET;03RIGHT;00TILDE WITH DOT ABOVE;30BELOW",
  "2E20;00LEFT VERTICAL BAR WITH QUILL;04RIGHT;00TOP LEFT HALF BRACKET;12RIGHT;02BOTTOM LEFT;12RIGHT",
  "2E26;01LEFT SIDEWAYS U;03RIGHT;00LEFT DOUBLE PARENTHESIS;02RIGHT;00TWO DOTS OVER ONE DOT PUNCTUATION",
  "2E2B;01ONE DOT OVER TWO DOTS;01SQUARED FOUR DOT;00FIVE DOT MARK;01REVERSED QUESTION;00VERTICAL TILDE",
  "2E30;00RING POINT;00WORD SEPARATOR MIDDLE DOT;00TURNED COMMA;00RAISED DOT;10COMMA;00TURNED SEMICOLON",
  "2E36;00DAGGER WITH LEFT GUARD;21RIGHT;00TURNED DAGGER;00TOP HALF SECTION SIGN;00TWO-EM DASH;01THREE-EM",
  "2E3C;00STENOGRAPHIC FULL STOP;00VERTICAL SIX DOTS;00WIGGLY VERTICAL LINE;00CAPITULUM;00DOUBLE HYPHEN",
  "2E41;00REVERSED COMMA;00DOUBLE LOW-REVERSED-9 QUOTATION MARK;00DASH WITH LEFT UPTURN",
  "2E44;00DOUBLE SUSPENSION MARK;00INVERTED LOW KAVYKA;30WITH KAVYKA ABOVE;00LOW KAVYKA;20WITH DOT",
  "2E49;00DOUBLE STACKED COMMA;00DOTTED SOLIDUS;00TRIPLE DAGGER;00MEDIEVAL COMMA;00PARAGRAPHUS MARK",
  "2E4E;01PUNCTUS ELEVATUS;00CORNISH VERSE DIVIDER;00CROSS PATTY WITH RIGHT CROSSBAR;31LEFT",
  "2E52;00TIRONIAN SIGN CAPITAL ET;00MEDIEVAL EXCLAMATION MARK;11QUESTION;00LEFT SQUARE BRACKET WITH STROKE",
  "2E56;04RIGHT;01LEFT SQUARE BRACKET WITH DOUBLE;05RIGHT;00TOP HALF LEFT PARENTHESIS;21RIGHT",
  "2E5B;01BOTTOM HALF LEFT;21RIGHT;00OBLIQUE HYPHEN",
  "2E80;00CJK RADICAL REPEAT;20CLIFF;20SECOND ONE;30TWO;30THREE;20PERSON;20BOX;20TABLE;20KNIFE ONE;30TWO",
  "2E8A;20DIVINATION;20SEAL;20SMALL ONE;30TWO;20LAME ONE;30TWO;30THREE;30FOUR;20SNAKE;20THREAD;20SNOUT ONE",
  "2E95;30TWO;20HEART ONE;30TWO;20HAND;20RAP",
  "2E9B;20CHOKE;20SUN;20MOON;20DEATH;20MOTHER;20CIVILIAN;20WATER ONE;30TWO;20FIRE;20PAW ONE;30TWO",
  "2EA6;20SIMPLIFIED HALF TREE TRUNK;20COW;20DOG;20JADE;20BOLT OF CLOTH;20EYE;20SPIRIT ONE;30TWO;20BAMBOO",
  "2EAF;20SILK;21C-SIMPLIFIED;20NET ONE;30TWO;30THREE;30FOUR;20MESH;20SHEEP;20RAM;20EWE;20OLD;20BRUSH ONE",
  "2EBB;30TWO;20MEAT;20MORTAR;20GRASS ONE;30TWO;30THREE;20TIGER;20CLOTHES;20WEST ONE;30TWO",
  "2EC5;20C-SIMPLIFIED SEE;20SIMPLIFIED HORN;21;20C-SIMPLIFIED SPEECH;30SHELL;20FOOT;20C-SIMPLIFIED CART",
  "2ECC;20SIMPLIFIED WALK;20WALK ONE;30TWO;20CITY;20C-SIMPLIFIED GOLD;20LONG ONE;30TWO;20C-SIMPLIFIED LONG",
  "2ED4;30GATE;20MOUND ONE;30TWO;20RAIN;20BLUE;20C-SIMPLIFIED TANNED LEATHER;30LEAF;30WIND;30FLY;20EAT ONE",
  "2EDE;30TWO;30THREE;20C-SIMPLIFIED EAT;20HEAD;20C-SIMPLIFIED HORSE;20BONE;20GHOST;20C-SIMPLIFIED FISH",
  "2EE6;30BIRD;30SALT;20SIMPLIFIED WHEAT;30YELLOW;20C-SIMPLIFIED FROG;20J-SIMPLIFIED EVEN;21C-SIMPLIFIED",
  "2EED;20J-SIMPLIFIED TOOTH;21C-SIMPLIFIED;20J-SIMPLIFIED DRAGON;21C-SIMPLIFIED;20TURTLE;21J-SIMPLIFIED",
  "2EF3;21C-SIMPLIFIED",
  "2F00;00KANGXI RADICAL ONE;20LINE;20DOT;20SLASH;20SECOND;20HOOK;20TWO;20LID;20MAN;20LEGS;20ENTER;20EIGHT",
  "2F0C;20DOWN BOX;20COVER;20ICE;20TABLE;20OPEN BOX;20KNIFE;20POWER;20WRAP;20SPOON;20RIGHT OPEN BOX",
  "2F16;20HIDING ENCLOSURE;20TEN;20DIVINATION;20SEAL;20CLIFF;20PRIVATE;20AGAIN;20MOUTH;20ENCLOSURE;20EARTH",
  "2F20;20SCHOLAR;20GO;30SLOWLY;20EVENING;20BIG;20WOMAN;20CHILD;20ROOF;20INCH;20SMALL;20LAME;20CORPSE",
  "2F2C;20SPROUT;20MOUNTAIN;20RIVER;20WORK;20ONESELF;20TURBAN;20DRY;20SHORT THREAD;20DOTTED CLIFF",
  "2F35;20LONG STRIDE;20TWO HANDS;20SHOOT;20BOW;20SNOUT;20BRISTLE;20STEP;20HEART;20HALBERD;20DOOR;20HAND",
  "2F40;20BRANCH;20RAP;20SCRIPT;20DIPPER;20AXE;20SQUARE;20NOT;20SUN;20SAY;20MOON;20TREE;20LACK;20STOP",
  "2F4D;20DEATH;20WEAPON;20DO NOT;20COMPARE;20FUR;20CLAN;20STEAM;20WATER;20FIRE;20CLAW;20FATHER;20DOUBLE X",
  "2F59;20HALF TREE TRUNK;20SLICE;20FANG;20COW;20DOG;20PROFOUND;20JADE;20MELON;20TILE;20SWEET;20LIFE;20USE",
  "2F65;20FIELD;20BOLT OF CLOTH;20SICKNESS;20DOTTED TENT;20WHITE;20SKIN;20DISH;20EYE;20SPEAR;20ARROW",
  "2F6F;20STONE;20SPIRIT;20TRACK;20GRAIN;20CAVE;20STAND;20BAMBOO;20RICE;20SILK;20JAR;20NET;20SHEEP",
  "2F7B;20FEATHER;20OLD;20AND;20PLOW;20EAR;20BRUSH;20MEAT;20MINISTER;20SELF;20ARRIVE;20MORTAR;20TONGUE",
  "2F87;20OPPOSE;20BOAT;20STOPPING;20COLOR;20GRASS;20TIGER;20INSECT;20BLOOD;20WALK ENCLOSURE;20CLOTHES",
  "2F91;20WEST;20SEE;20HORN;20SPEECH;20VALLEY;20BEAN;20PIG;20BADGER;20SHELL;20RED;20RUN;20FOOT;20BODY",
  "2F9E;20CART;20BITTER;20MORNING;20WALK;20CITY;20WINE;20DISTINGUISH;20VILLAGE;20GOLD;20LONG;20GATE;20MOUND",
  "2FAA;20SLAVE;20SHORT TAILED BIRD;20RAIN;20BLUE;20WRONG;20FACE;20LEATHER;21TANNED;20LEEK;20SOUND;20LEAF",
  "2FB5;20WIND;20FLY;20EAT;20HEAD;20FRAGRANT;20HORSE;20BONE;20TALL;20HAIR;20FIGHT;20SACRIFICIAL WINE",
  "2FC0;20CAULDRON;20GHOST;20FISH;20BIRD;20SALT;20DEER;20WHEAT;20HEMP;20YELLOW;20MILLET;20BLACK",
  "2FCB;20EMBROIDERY;20FROG;20TRIPOD;20DRUM;20RAT;20NOSE;20EVEN;20TOOTH;20DRAGON;20TURTLE;20FLUTE",
  "2FF0;00IDEOGRAPHIC DESCRIPTION CHARACTER LEFT TO RIGHT;30ABOVE TO BELOW;30LEFT TO MIDDLE AND RIGHT",
  "2FF3;30ABOVE TO MIDDLE AND BELOW;30FULL SURROUND;30SURROUND FROM ABOVE;50BELOW;50LEFT;51UPPER;60RIGHT",
  "2FFA;50LOWER LEFT;30OVERLAID",
  "3000;10SPACE;10COMMA;10FULL STOP;00DITTO MARK;00JAPANESE INDUSTRIAL STANDARD SYMBOL",
  "3005;00IDEOGRAPHIC ITERATION MARK;11CLOSING;10NUMBER ZERO;00LEFT ANGLE BRACKET;02RIGHT;02LEFT DOUBLE",
  "300B;03RIGHT;01LEFT CORNER;02RIGHT;02LEFT WHITE;03RIGHT;01LEFT BLACK LENTICULAR;03RIGHT;00POSTAL MARK",
  "3013;01GETA;00LEFT TORTOISE SHELL BRACKET;03RIGHT;01LEFT WHITE LENTICULAR;03RIGHT",
  "3018;01LEFT WHITE TORTOISE SHELL;04RIGHT;01LEFT WHITE SQUARE;03RIGHT;00WAVE DASH",
  "301D;00REVERSED DOUBLE PRIME QUOTATION MARK;04;04LOW;00POSTAL MARK FACE;00HANGZHOU NUMERAL ONE;20TWO",
  "3023;20THREE;20FOUR;20FIVE;20SIX;20SEVEN;20EIGHT;20NINE;00IDEOGRAPHIC LEVEL TONE MARK;12RISING",
  "302C;12DEPARTING;12ENTERING;02HANGUL SINGLE DOT;13DOUBLE;00WAVY DASH;00VERTICAL KANA REPEAT MARK",
  "3032;31WITH VOICED SOUND;30MARK UPPER HALF;33WITH VOICED SOUND;31MARK LOWER;00CIRCLED POSTAL MARK",
  "3037;00IDEOGRAPHIC TELEGRAPH LINE FEED SEPARATOR SYMBOL;00HANGZHOU NUMERAL TEN;20TWENTY;20THIRTY",
  "303B;00VERTICAL IDEOGRAPHIC ITERATION MARK;01MASU;01PART ALTERNATION;00IDEOGRAPHIC VARIATION INDICATOR",
  "303F;10HALF FILL SPACE",
  "3041;00HIRAGANA LETTER SMALL A;21;20SMALL I;21;20SMALL U;21;20SMALL E;21;20SMALL O;21;20KA;20GA;20KI",
  "304E;20GI;20KU;20GU;20KE;20GE;20KO;20GO;20SA;20ZA;20SI;20ZI;20SU;20ZU;20SE;20ZE;20SO;20ZO;20TA;20DA;20TI",
  "3062;20DI;20SMALL TU;21;20DU;20TE;20DE;20TO;20DO;20NA;20NI;20NU;20NE;20NO;20HA;20BA;20PA;20HI;20BI;20PI",
  "3075;20HU;20BU;20PU;20HE;20BE;20PE;20HO;20BO;20PO;20MA;20MI;20MU;20ME;20MO;20SMALL YA;21;20SMALL YU;21",
  "3087;20SMALL YO;21;20RA;20RI;20RU;20RE;20RO;20SMALL WA;21;20WI;20WE;20WO;20N;20VU;20SMALL KA;30KE",
  "3099;00COMBINING KATAKANA-HIRAGANA VOICED SOUND MARK;22SEMI-VOICED;02KATAKANA-HIRAGANA VOICED",
  "309C;12SEMI-VOICED;01HIRAGANA ITERATION;12VOICED;10DIGRAPH YORI;00KATAKANA-HIRAGANA DOUBLE HYPHEN",
  "30A1;00KATAKANA LETTER SMALL A;21;20SMALL I;21;20SMALL U;21;20SMALL E;21;20SMALL O;21;20KA;20GA;20KI",
  "30AE;20GI;20KU;20GU;20KE;20GE;20KO;20GO;20SA;20ZA;20SI;20ZI;20SU;20ZU;20SE;20ZE;20SO;20ZO;20TA;20DA;20TI",
  "30C2;20DI;20SMALL TU;21;20DU;20TE;20DE;20TO;20DO;20NA;20NI;20NU;20NE;20NO;20HA;20BA;20PA;20HI;20BI;20PI",
  "30D5;20HU;20BU;20PU;20HE;20BE;20PE;20HO;20BO;20PO;20MA;20MI;20MU;20ME;20MO;20SMALL YA;21;20SMALL YU;21",
  "30E7;20SMALL YO;21;20RA;20RI;20RU;20RE;20RO;20SMALL WA;21;20WI;20WE;20WO;20N;20VU;20SMALL KA;30KE;20VA",
  "30F8;20VI;20VE;20VO;10MIDDLE DOT;00KATAKANA-HIRAGANA PROLONGED SOUND MARK;01KATAKANA ITERATION;12VOICED",
  "30FF;10DIGRAPH KOTO",
  "3105;00BOPOMOFO LETTER B;20P;20M;20F;20D;20T;20N;20L;20G;20K;20H;20J;20Q;20X;20ZH;20CH;20SH;20R;20Z;20C",
  "3119;20S;20A;20O;20E;20EH;20AI;20EI;20AU;20OU;20AN;20EN;20ANG;20ENG;20ER;20I;20U;20IU;20V;20NG;20GN;20IH",
  "312E;20O WITH DOT ABOVE;20NN",
  "3131;00HANGUL LETTER KIYEOK;20SSANGKIYEOK;20KIYEOK-SIOS;20NIEUN;20NIEUN-CIEUC;20NIEUN-HIEUH;20TIKEUT",
  "3138;20SSANGTIKEUT;20RIEUL;20RIEUL-KIYEOK;20RIEUL-MIEUM;20RIEUL-PIEUP;20RIEUL-SIOS;20RIEUL-THIEUTH",
  "313F;20RIEUL-PHIEUPH;20RIEUL-HIEUH;20MIEUM;20PIEUP;20SSANGPIEUP;20PIEUP-SIOS;20SIOS;20SSANGSIOS;20IEUNG",
  "3148;20CIEUC;20SSANGCIEUC;20CHIEUCH;20KHIEUKH;20THIEUTH;20PHIEUPH;20HIEUH;20A;20AE;20YA;20YAE;20EO;20E",
  "3155;20YEO;20YE;20O;20WA;20WAE;20OE;20YO;20U;20WEO;20WE;20WI;20YU;20EU;20YI;20I;10FILLER",
  "3165;10LETTER SSANGNIEUN;20NIEUN-TIKEUT;20NIEUN-SIOS;20NIEUN-PANSIOS;20RIEUL-KIYEOK-SIOS;20RIEUL-TIKEUT",
  "316B;20RIEUL-PIEUP-SIOS;20RIEUL-PANSIOS;20RIEUL-YEORINHIEUH;20MIEUM-PIEUP;20MIEUM-SIOS;20MIEUM-PANSIOS",
  "3171;20KAPYEOUNMIEUM;20PIEUP-KIYEOK;20PIEUP-TIKEUT;20PIEUP-SIOS-KIYEOK;20PIEUP-SIOS-TIKEUT;20PIEUP-CIEUC",
  "3177;20PIEUP-THIEUTH;20KAPYEOUNPIEUP;20KAPYEOUNSSANGPIEUP;20SIOS-KIYEOK;20SIOS-NIEUN;20SIOS-TIKEUT",
  "317D;20SIOS-PIEUP;20SIOS-CIEUC;20PANSIOS;20SSANGIEUNG;20YESIEUNG;20YESIEUNG-SIOS;20YESIEUNG-PANSIOS",
  "3184;20KAPYEOUNPHIEUPH;20SSANGHIEUH;20YEORINHIEUH;20YO-YA;20YO-YAE;20YO-I;20YU-YEO;20YU-YE;20YU-I",
  "318D;20ARAEA;20ARAEAE",
  "3190;00IDEOGRAPHIC ANNOTATION LINKING MARK;21REVERSE;21ONE;21TWO;21THREE;21FOUR;21TOP;21MIDDLE;21BOTTOM",
  "3199;21FIRST;21SECOND;21THIRD;21FOURTH;21HEAVEN;21EARTH;21MAN;00BOPOMOFO LETTER BU;20ZI;20JI;20GU;20EE",
  "31A5;20ENN;20OO;20ONN;20IR;20ANN;20INN;20UNN;20IM;20NGG;20AINN;20AUNN;20AM;20OM;20ONG;20INNN",
  "31B4;10FINAL LETTER P;30T;30K;30H;10LETTER GH;20LH;20ZY;10FINAL LETTER G;10LETTER GW;20KW;20OE;20AH",
  "31C0;00CJK STROKE T;20WG;20XG;20BXG;20SW;20HZZ;20HZG;20HP;20HZWG;20SZWG;20HZT;20HZZP;20HPWG;20HZW;20HZZZ",
  "31CF;20N;20H;20S;20P;20SP;20D;20HZ;20HG;20SZ;20SWZ;20ST;20SG;20PD;20PZ;20TN;20SZZ;20SWG;20HXWG;20HZZZG",
  "31E2;20PG;20Q",
  "31F0;00KATAKANA LETTER SMALL KU;30SI;30SU;30TO;30NU;30HA;30HI;30HU;30HE;30HO;30MU;30RA;30RI;30RU;30RE",
  "31FF;30RO;00PARENTHESIZED HANGUL KIYEOK;20NIEUN;20TIKEUT;20RIEUL;20MIEUM;20PIEUP;20SIOS;20IEUNG;20CIEUC"]

private def characterNameRows12 : List String := [
  "3209;20CHIEUCH;20KHIEUKH;20THIEUTH;20PHIEUPH;20HIEUH;20KIYEOK A;21NIEUN;21TIKEUT;21RIEUL;21MIEUM;21PIEUP",
  "3214;21SIOS;21IEUNG;21CIEUC;21CHIEUCH;21KHIEUKH;21THIEUTH;21PHIEUPH;21HIEUH;20CIEUC U",
  "321D;10KOREAN CHARACTER OJEON;30O HU",
  "3220;10IDEOGRAPH ONE;20TWO;20THREE;20FOUR;20FIVE;20SIX;20SEVEN;20EIGHT;20NINE;20TEN;20MOON;20FIRE",
  "322C;20WATER;20WOOD;20METAL;20EARTH;20SUN;20STOCK;20HAVE;20SOCIETY;20NAME;20SPECIAL;20FINANCIAL",
  "3237;20CONGRATULATION;20LABOR;20REPRESENT;20CALL;20STUDY;20SUPERVISE;20ENTERPRISE;20RESOURCE;20ALLIANCE",
  "3240;20FESTIVAL;20REST;20SELF;20REACH;00CIRCLED IDEOGRAPH QUESTION;20KINDERGARTEN;20SCHOOL;20KOTO",
  "3248;10NUMBER TEN ON BLACK SQUARE;23TWENTY;23THIRTY;23FORTY;23FIFTY;23SIXTY;23SEVENTY;23EIGHTY",
  "3250;00PARTNERSHIP SIGN;00CIRCLED NUMBER TWENTY ONE;30TWO;30THREE;30FOUR;30FIVE;30SIX;30SEVEN;30EIGHT",
  "3259;30NINE;20THIRTY;30ONE;30TWO;30THREE;30FOUR;30FIVE;10HANGUL KIYEOK;20NIEUN;20TIKEUT;20RIEUL;20MIEUM",
  "3265;20PIEUP;20SIOS;20IEUNG;20CIEUC;20CHIEUCH;20KHIEUKH;20THIEUTH;20PHIEUPH;20HIEUH;20KIYEOK A;21NIEUN",
  "3270;21TIKEUT;21RIEUL;21MIEUM;21PIEUP;21SIOS;21IEUNG;21CIEUC;21CHIEUCH;21KHIEUKH;21THIEUTH;21PHIEUPH",
  "327B;21HIEUH;10KOREAN CHARACTER CHAMKO;30JUEUI;10HANGUL IEUNG U;00KOREAN STANDARD SYMBOL",
  "3280;00CIRCLED IDEOGRAPH ONE;20TWO;20THREE;20FOUR;20FIVE;20SIX;20SEVEN;20EIGHT;20NINE;20TEN;20MOON",
  "328B;20FIRE;20WATER;20WOOD;20METAL;20EARTH;20SUN;20STOCK;20HAVE;20SOCIETY;20NAME;20SPECIAL;20FINANCIAL",
  "3297;20CONGRATULATION;20LABOR;20SECRET;20MALE;20FEMALE;20SUITABLE;20EXCELLENT;20PRINT;20ATTENTION;20ITEM",
  "32A1;20REST;20COPY;20CORRECT;20HIGH;20CENTRE;20LOW;20LEFT;20RIGHT;20MEDICINE;20RELIGION;20STUDY",
  "32AC;20SUPERVISE;20ENTERPRISE;20RESOURCE;20ALLIANCE;20NIGHT;10NUMBER THIRTY SIX;30SEVEN;30EIGHT;30NINE",
  "32B5;20FORTY;30ONE;30TWO;30THREE;30FOUR;30FIVE;30SIX;30SEVEN;30EIGHT;30NINE;20FIFTY",
  "32C0;00IDEOGRAPHIC TELEGRAPH SYMBOL FOR JANUARY;40FEBRUARY;40MARCH;40APRIL;40MAY;40JUNE;40JULY;40AUGUST",
  "32C8;40SEPTEMBER;40OCTOBER;40NOVEMBER;40DECEMBER;00SQUARE HG;10ERG;10EV;00LIMITED LIABILITY SIGN",
  "32D0;00CIRCLED KATAKANA A;20I;20U;20E;20O;20KA;20KI;20KU;20KE;20KO;20SA;20SI;20SU;20SE;20SO;20TA;20TI",
  "32E1;20TU;20TE;20TO;20NA;20NI;20NU;20NE;20NO;20HA;20HI;20HU;20HE;20HO;20MA;20MI;20MU;20ME;20MO;20YA;20YU",
  "32F5;20YO;20RA;20RI;20RU;20RE;20RO;20WA;20WI;20WE;20WO;00SQUARE ERA NAME REIWA;10APAATO;10ARUHUA;10ANPEA",
  "3303;10AARU;10ININGU;10INTI;10UON;10ESUKUUDO;10EEKAA;10ONSU;10OOMU;10KAIRI;10KARATTO;10KARORII;10GARON",
  "330F;10GANMA;10GIGA;10GINII;10KYURII;10GIRUDAA;10KIRO;10KIROGURAMU;10KIROMEETORU;10KIROWATTO;10GURAMU",
  "3319;10GURAMUTON;10KURUZEIRO;10KUROONE;10KEESU;10KORUNA;10KOOPO;10SAIKURU;10SANTIIMU;10SIRINGU;10SENTI",
  "3323;10SENTO;10DAASU;10DESI;10DORU;10TON;10NANO;10NOTTO;10HAITU;10PAASENTO;10PAATU;10BAARERU;10PIASUTORU",
  "332F;10PIKURU;10PIKO;10BIRU;10HUARADDO;10HUIITO;10BUSSYERU;10HURAN;10HEKUTAARU;10PESO;10PENIHI;10HERUTU",
  "333A;10PENSU;10PEEZI;10BEETA;10POINTO;10BORUTO;10HON;10PONDO;10HOORU;10HOON;10MAIKURO;10MAIRU;10MAHHA",
  "3346;10MARUKU;10MANSYON;10MIKURON;10MIRI;10MIRIBAARU;10MEGA;10MEGATON;10MEETORU;10YAADO;10YAARU;10YUAN",
  "3351;10RITTORU;10RIRA;10RUPII;10RUUBURU;10REMU;10RENTOGEN;10WATTO",
  "3358;00IDEOGRAPHIC TELEGRAPH SYMBOL FOR HOUR ZERO;50ONE;50TWO;50THREE;50FOUR;50FIVE;50SIX;50SEVEN",
  "3360;50EIGHT;50NINE;50TEN;50ELEVEN;50TWELVE;50THIRTEEN;50FOURTEEN;50FIFTEEN;50SIXTEEN;50SEVENTEEN",
  "336A;50EIGHTEEN;50NINETEEN;50TWENTY;50TWENTY-ONE;50TWENTY-TWO;50TWENTY-THREE;50TWENTY-FOUR;00SQUARE HPA",
  "3372;10DA;10AU;10BAR;10OV;10PC;10DM;20SQUARED;20CUBED;10IU;10ERA NAME HEISEI;30SYOUWA;30TAISYOU;30MEIZI",
  "337F;10CORPORATION;10PA AMPS;10NA;10MU A;10MA;10KA;10KB;10MB;10GB;10CAL;10KCAL;10PF;10NF;10MU F;20G;10MG",
  "338F;10KG;10HZ;10KHZ;10MHZ;10GHZ;10THZ;10MU L;10ML;10DL;10KL;10FM;10NM;10MU M;10MM;10CM;10KM",
  "339F;10MM SQUARED;11CM;11M;11KM;10MM CUBED;11CM;11M;11KM;10M OVER S;40SQUARED;10PA;10KPA;10MPA;10GPA",
  "33AD;10RAD;20OVER S;40SQUARED;10PS;10NS;10MU S;10MS;10PV;10NV;10MU V;10MV;10KV;10MV MEGA;10PW;10NW",
  "33BC;10MU W;10MW;10KW;10MW MEGA;10K OHM;11M;10AM;10BQ;10CC;10CD;10C OVER KG;10CO;10DB;10GY;10HA;10HP",
  "33CC;10IN;10KK;10KM CAPITAL;10KT;10LM;10LN;10LOG;10LX;10MB SMALL;10MIL;10MOL;10PH;10PM;10PPM;10PR;10SR",
  "33DC;10SV;10WB;10V OVER M;12A;00IDEOGRAPHIC TELEGRAPH SYMBOL FOR DAY ONE;50TWO;50THREE;50FOUR;50FIVE",
  "33E5;50SIX;50SEVEN;50EIGHT;50NINE;50TEN;50ELEVEN;50TWELVE;50THIRTEEN;50FOURTEEN;50FIFTEEN;50SIXTEEN",
  "33F0;50SEVENTEEN;50EIGHTEEN;50NINETEEN;50TWENTY;50TWENTY-ONE;50TWENTY-TWO;50TWENTY-THREE;50TWENTY-FOUR",
  "33F8;50TWENTY-FIVE;50TWENTY-SIX;50TWENTY-SEVEN;50TWENTY-EIGHT;50TWENTY-NINE;50THIRTY;50THIRTY-ONE",
  "33FF;00SQUARE GAL",
  "4DC0;00HEXAGRAM FOR THE CREATIVE HEAVEN;30RECEPTIVE EARTH;20DIFFICULTY AT THE BEGINNING;20YOUTHFUL FOLLY",
  "4DC4;20WAITING;20CONFLICT;20THE ARMY;20HOLDING TOGETHER;20SMALL TAMING;20TREADING;20PEACE;20STANDSTILL",
  "4DCC;20FELLOWSHIP;20GREAT POSSESSION;20MODESTY;20ENTHUSIASM;20FOLLOWING;20WORK ON THE DECAYED;20APPROACH",
  "4DD3;20CONTEMPLATION;20BITING THROUGH;20GRACE;20SPLITTING APART;20RETURN;20INNOCENCE;20GREAT TAMING",
  "4DDA;20MOUTH CORNERS;20GREAT PREPONDERANCE;20THE ABYSMAL WATER;30CLINGING FIRE;20INFLUENCE;20DURATION",
  "4DE0;20RETREAT;20GREAT POWER;20PROGRESS;20DARKENING OF THE LIGHT;20THE FAMILY;20OPPOSITION;20OBSTRUCTION",
  "4DE7;20DELIVERANCE;20DECREASE;20INCREASE;20BREAKTHROUGH;20COMING TO MEET;20GATHERING TOGETHER",
  "4DED;20PUSHING UPWARD;20OPPRESSION;20THE WELL;20REVOLUTION;20THE CAULDRON;30AROUSING THUNDER",
  "4DF3;30KEEPING STILL MOUNTAIN;20DEVELOPMENT;20THE MARRYING MAIDEN;20ABUNDANCE;20THE WANDERER",
  "4DF8;30GENTLE WIND;30JOYOUS LAKE;20DISPERSION;20LIMITATION;20INNER TRUTH;20SMALL PREPONDERANCE",
  "4DFE;20AFTER COMPLETION;21BEFORE",
  "A000;00YI SYLLABLE IT;20IX;20I;20IP;20IET;20IEX;20IE;20IEP;20AT;20AX;20A;20AP;20UOX;20UO;20UOP;20OT;20OX",
  "A011;20O;20OP;20EX;20E;20WU;20BIT;20BIX;20BI;20BIP;20BIET;20BIEX;20BIE;20BIEP;20BAT;20BAX;20BA;20BAP",
  "A022;20BUOX;20BUO;20BUOP;20BOT;20BOX;20BO;20BOP;20BEX;20BE;20BEP;20BUT;20BUX;20BU;20BUP;20BURX;20BUR",
  "A032;20BYT;20BYX;20BY;20BYP;20BYRX;20BYR;20PIT;20PIX;20PI;20PIP;20PIEX;20PIE;20PIEP;20PAT;20PAX;20PA",
  "A042;20PAP;20PUOX;20PUO;20PUOP;20POT;20POX;20PO;20POP;20PUT;20PUX;20PU;20PUP;20PURX;20PUR;20PYT;20PYX",
  "A052;20PY;20PYP;20PYRX;20PYR;20BBIT;20BBIX;20BBI;20BBIP;20BBIET;20BBIEX;20BBIE;20BBIEP;20BBAT;20BBAX",
  "A060;20BBA;20BBAP;20BBUOX;20BBUO;20BBUOP;20BBOT;20BBOX;20BBO;20BBOP;20BBEX;20BBE;20BBEP;20BBUT;20BBUX",
  "A06E;20BBU;20BBUP;20BBURX;20BBUR;20BBYT;20BBYX;20BBY;20BBYP;20NBIT;20NBIX;20NBI;20NBIP;20NBIEX;20NBIE",
  "A07C;20NBIEP;20NBAT;20NBAX;20NBA;20NBAP;20NBOT;20NBOX;20NBO;20NBOP;20NBUT;20NBUX;20NBU;20NBUP;20NBURX",
  "A08A;20NBUR;20NBYT;20NBYX;20NBY;20NBYP;20NBYRX;20NBYR;20HMIT;20HMIX;20HMI;20HMIP;20HMIEX;20HMIE;20HMIEP",
  "A098;20HMAT;20HMAX;20HMA;20HMAP;20HMUOX;20HMUO;20HMUOP;20HMOT;20HMOX;20HMO;20HMOP;20HMUT;20HMUX;20HMU",
  "A0A6;20HMUP;20HMURX;20HMUR;20HMYX;20HMY;20HMYP;20HMYRX;20HMYR;20MIT;20MIX;20MI;20MIP;20MIEX;20MIE;20MIEP",
  "A0B5;20MAT;20MAX;20MA;20MAP;20MUOT;20MUOX;20MUO;20MUOP;20MOT;20MOX;20MO;20MOP;20MEX;20ME;20MUT;20MUX",
  "A0C5;20MU;20MUP;20MURX;20MUR;20MYT;20MYX;20MY;20MYP;20FIT;20FIX;20FI;20FIP;20FAT;20FAX;20FA;20FAP;20FOX",
  "A0D6;20FO;20FOP;20FUT;20FUX;20FU;20FUP;20FURX;20FUR;20FYT;20FYX;20FY;20FYP;20VIT;20VIX;20VI;20VIP;20VIET",
  "A0E7;20VIEX;20VIE;20VIEP;20VAT;20VAX;20VA;20VAP;20VOT;20VOX;20VO;20VOP;20VEX;20VEP;20VUT;20VUX;20VU",
  "A0F7;20VUP;20VURX;20VUR;20VYT;20VYX;20VY;20VYP;20VYRX;20VYR;20DIT;20DIX;20DI;20DIP;20DIEX;20DIE;20DIEP",
  "A107;20DAT;20DAX;20DA;20DAP;20DUOX;20DUO;20DOT;20DOX;20DO;20DOP;20DEX;20DE;20DEP;20DUT;20DUX;20DU;20DUP",
  "A118;20DURX;20DUR;20TIT;20TIX;20TI;20TIP;20TIEX;20TIE;20TIEP;20TAT;20TAX;20TA;20TAP;20TUOT;20TUOX;20TUO",
  "A128;20TUOP;20TOT;20TOX;20TO;20TOP;20TEX;20TE;20TEP;20TUT;20TUX;20TU;20TUP;20TURX;20TUR;20DDIT;20DDIX",
  "A138;20DDI;20DDIP;20DDIEX;20DDIE;20DDIEP;20DDAT;20DDAX;20DDA;20DDAP;20DDUOX;20DDUO;20DDUOP;20DDOT;20DDOX",
  "A146;20DDO;20DDOP;20DDEX;20DDE;20DDEP;20DDUT;20DDUX;20DDU;20DDUP;20DDURX;20DDUR;20NDIT;20NDIX;20NDI",
  "A154;20NDIP;20NDIEX;20NDIE;20NDAT;20NDAX;20NDA;20NDAP;20NDOT;20NDOX;20NDO;20NDOP;20NDEX;20NDE;20NDEP",
  "A162;20NDUT;20NDUX;20NDU;20NDUP;20NDURX;20NDUR;20HNIT;20HNIX;20HNI;20HNIP;20HNIET;20HNIEX;20HNIE;20HNIEP",
  "A170;20HNAT;20HNAX;20HNA;20HNAP;20HNUOX;20HNUO;20HNOT;20HNOX;20HNOP;20HNEX;20HNE;20HNEP;20HNUT;20NIT",
  "A17E;20NIX;20NI;20NIP;20NIEX;20NIE;20NIEP;20NAX;20NA;20NAP;20NUOX;20NUO;20NUOP;20NOT;20NOX;20NO;20NOP",
  "A18E;20NEX;20NE;20NEP;20NUT;20NUX;20NU;20NUP;20NURX;20NUR;20HLIT;20HLIX;20HLI;20HLIP;20HLIEX;20HLIE",
  "A19D;20HLIEP;20HLAT;20HLAX;20HLA;20HLAP;20HLUOX;20HLUO;20HLUOP;20HLOX;20HLO;20HLOP;20HLEX;20HLE;20HLEP",
  "A1AB;20HLUT;20HLUX;20HLU;20HLUP;20HLURX;20HLUR;20HLYT;20HLYX;20HLY;20HLYP;20HLYRX;20HLYR;20LIT;20LIX",
  "A1B9;20LI;20LIP;20LIET;20LIEX;20LIE;20LIEP;20LAT;20LAX;20LA;20LAP;20LUOT;20LUOX;20LUO;20LUOP;20LOT;20LOX",
  "A1C9;20LO;20LOP;20LEX;20LE;20LEP;20LUT;20LUX;20LU;20LUP;20LURX;20LUR;20LYT;20LYX;20LY;20LYP;20LYRX;20LYR",
  "A1DA;20GIT;20GIX;20GI;20GIP;20GIET;20GIEX;20GIE;20GIEP;20GAT;20GAX;20GA;20GAP;20GUOT;20GUOX;20GUO;20GUOP",
  "A1EA;20GOT;20GOX;20GO;20GOP;20GET;20GEX;20GE;20GEP;20GUT;20GUX;20GU;20GUP;20GURX;20GUR;20KIT;20KIX;20KI",
  "A1FB;20KIP;20KIEX;20KIE;20KIEP;20KAT;20KAX;20KA;20KAP;20KUOX;20KUO;20KUOP;20KOT;20KOX;20KO;20KOP;20KET",
  "A20B;20KEX;20KE;20KEP;20KUT;20KUX;20KU;20KUP;20KURX;20KUR;20GGIT;20GGIX;20GGI;20GGIEX;20GGIE;20GGIEP",
  "A21A;20GGAT;20GGAX;20GGA;20GGAP;20GGUOT;20GGUOX;20GGUO;20GGUOP;20GGOT;20GGOX;20GGO;20GGOP;20GGET;20GGEX",
  "A228;20GGE;20GGEP;20GGUT;20GGUX;20GGU;20GGUP;20GGURX;20GGUR;20MGIEX;20MGIE;20MGAT;20MGAX;20MGA;20MGAP",
  "A236;20MGUOX;20MGUO;20MGUOP;20MGOT;20MGOX;20MGO;20MGOP;20MGEX;20MGE;20MGEP;20MGUT;20MGUX;20MGU;20MGUP",
  "A244;20MGURX;20MGUR;20HXIT;20HXIX;20HXI;20HXIP;20HXIET;20HXIEX;20HXIE;20HXIEP;20HXAT;20HXAX;20HXA;20HXAP",
  "A252;20HXUOT;20HXUOX;20HXUO;20HXUOP;20HXOT;20HXOX;20HXO;20HXOP;20HXEX;20HXE;20HXEP;20NGIEX;20NGIE",
  "A25F;20NGIEP;20NGAT;20NGAX;20NGA;20NGAP;20NGUOT;20NGUOX;20NGUO;20NGOT;20NGOX;20NGO;20NGOP;20NGEX;20NGE",
  "A26D;20NGEP;20HIT;20HIEX;20HIE;20HAT;20HAX;20HA;20HAP;20HUOT;20HUOX;20HUO;20HUOP;20HOT;20HOX;20HO;20HOP",
  "A27D;20HEX;20HE;20HEP;20WAT;20WAX;20WA;20WAP;20WUOX;20WUO;20WUOP;20WOX;20WO;20WOP;20WEX;20WE;20WEP;20ZIT",
  "A28E;20ZIX;20ZI;20ZIP;20ZIEX;20ZIE;20ZIEP;20ZAT;20ZAX;20ZA;20ZAP;20ZUOX;20ZUO;20ZUOP;20ZOT;20ZOX;20ZO",
  "A29E;20ZOP;20ZEX;20ZE;20ZEP;20ZUT;20ZUX;20ZU;20ZUP;20ZURX;20ZUR;20ZYT;20ZYX;20ZY;20ZYP;20ZYRX;20ZYR",
  "A2AE;20CIT;20CIX;20CI;20CIP;20CIET;20CIEX;20CIE;20CIEP;20CAT;20CAX;20CA;20CAP;20CUOX;20CUO;20CUOP;20COT",
  "A2BE;20COX;20CO;20COP;20CEX;20CE;20CEP;20CUT;20CUX;20CU;20CUP;20CURX;20CUR;20CYT;20CYX;20CY;20CYP;20CYRX",
  "A2CF;20CYR;20ZZIT;20ZZIX;20ZZI;20ZZIP;20ZZIET;20ZZIEX;20ZZIE;20ZZIEP;20ZZAT;20ZZAX;20ZZA;20ZZAP;20ZZOX",
  "A2DD;20ZZO;20ZZOP;20ZZEX;20ZZE;20ZZEP;20ZZUX;20ZZU;20ZZUP;20ZZURX;20ZZUR;20ZZYT;20ZZYX;20ZZY;20ZZYP",
  "A2EB;20ZZYRX;20ZZYR;20NZIT;20NZIX;20NZI;20NZIP;20NZIEX;20NZIE;20NZIEP;20NZAT;20NZAX;20NZA;20NZAP;20NZUOX",
  "A2F9;20NZUO;20NZOX;20NZOP;20NZEX;20NZE;20NZUX;20NZU;20NZUP;20NZURX;20NZUR;20NZYT;20NZYX;20NZY;20NZYP",
  "A307;20NZYRX;20NZYR;20SIT;20SIX;20SI;20SIP;20SIEX;20SIE;20SIEP;20SAT;20SAX;20SA;20SAP;20SUOX;20SUO",
  "A316;20SUOP;20SOT;20SOX;20SO;20SOP;20SEX;20SE;20SEP;20SUT;20SUX;20SU;20SUP;20SURX;20SUR;20SYT;20SYX;20SY",
  "A327;20SYP;20SYRX;20SYR;20SSIT;20SSIX;20SSI;20SSIP;20SSIEX;20SSIE;20SSIEP;20SSAT;20SSAX;20SSA;20SSAP",
  "A335;20SSOT;20SSOX;20SSO;20SSOP;20SSEX;20SSE;20SSEP;20SSUT;20SSUX;20SSU;20SSUP;20SSYT;20SSYX;20SSY",
  "A343;20SSYP;20SSYRX;20SSYR;20ZHAT;20ZHAX;20ZHA;20ZHAP;20ZHUOX;20ZHUO;20ZHUOP;20ZHOT;20ZHOX;20ZHO;20ZHOP",
  "A351;20ZHET;20ZHEX;20ZHE;20ZHEP;20ZHUT;20ZHUX;20ZHU;20ZHUP;20ZHURX;20ZHUR;20ZHYT;20ZHYX;20ZHY;20ZHYP",
  "A35F;20ZHYRX;20ZHYR;20CHAT;20CHAX;20CHA;20CHAP;20CHUOT;20CHUOX;20CHUO;20CHUOP;20CHOT;20CHOX;20CHO;20CHOP",
  "A36D;20CHET;20CHEX;20CHE;20CHEP;20CHUX;20CHU;20CHUP;20CHURX;20CHUR;20CHYT;20CHYX;20CHY;20CHYP;20CHYRX",
  "A37B;20CHYR;20RRAX;20RRA;20RRUOX;20RRUO;20RROT;20RROX;20RRO;20RROP;20RRET;20RREX;20RRE;20RREP;20RRUT",
  "A389;20RRUX;20RRU;20RRUP;20RRURX;20RRUR;20RRYT;20RRYX;20RRY;20RRYP;20RRYRX;20RRYR;20NRAT;20NRAX;20NRA",
  "A397;20NRAP;20NROX;20NRO;20NROP;20NRET;20NREX;20NRE;20NREP;20NRUT;20NRUX;20NRU;20NRUP;20NRURX;20NRUR",
  "A3A5;20NRYT;20NRYX;20NRY;20NRYP;20NRYRX;20NRYR;20SHAT;20SHAX;20SHA;20SHAP;20SHUOX;20SHUO;20SHUOP;20SHOT",
  "A3B3;20SHOX;20SHO;20SHOP;20SHET;20SHEX;20SHE;20SHEP;20SHUT;20SHUX;20SHU;20SHUP;20SHURX;20SHUR;20SHYT",
  "A3C1;20SHYX;20SHY;20SHYP;20SHYRX;20SHYR;20RAT;20RAX;20RA;20RAP;20RUOX;20RUO;20RUOP;20ROT;20ROX;20RO",
  "A3D0;20ROP;20REX;20RE;20REP;20RUT;20RUX;20RU;20RUP;20RURX;20RUR;20RYT;20RYX;20RY;20RYP;20RYRX;20RYR",
  "A3E0;20JIT;20JIX;20JI;20JIP;20JIET;20JIEX;20JIE;20JIEP;20JUOT;20JUOX;20JUO;20JUOP;20JOT;20JOX;20JO;20JOP",
  "A3F0;20JUT;20JUX;20JU;20JUP;20JURX;20JUR;20JYT;20JYX;20JY;20JYP;20JYRX;20JYR;20QIT;20QIX;20QI;20QIP",
  "A400;20QIET;20QIEX;20QIE;20QIEP;20QUOT;20QUOX;20QUO;20QUOP;20QOT;20QOX;20QO;20QOP;20QUT;20QUX;20QU;20QUP",
  "A410;20QURX;20QUR;20QYT;20QYX;20QY;20QYP;20QYRX;20QYR;20JJIT;20JJIX;20JJI;20JJIP;20JJIET;20JJIEX;20JJIE",
  "A41F;20JJIEP;20JJUOX;20JJUO;20JJUOP;20JJOT;20JJOX;20JJO;20JJOP;20JJUT;20JJUX;20JJU;20JJUP;20JJURX;20JJUR",
  "A42D;20JJYT;20JJYX;20JJY;20JJYP;20NJIT;20NJIX;20NJI;20NJIP;20NJIET;20NJIEX;20NJIE;20NJIEP;20NJUOX;20NJUO",
  "A43B;20NJOT;20NJOX;20NJO;20NJOP;20NJUX;20NJU;20NJUP;20NJURX;20NJUR;20NJYT;20NJYX;20NJY;20NJYP;20NJYRX",
  "A449;20NJYR;20NYIT;20NYIX;20NYI;20NYIP;20NYIET;20NYIEX;20NYIE;20NYIEP;20NYUOX;20NYUO;20NYUOP;20NYOT",
  "A456;20NYOX;20NYO;20NYOP;20NYUT;20NYUX;20NYU;20NYUP;20XIT;20XIX;20XI;20XIP;20XIET;20XIEX;20XIE;20XIEP",
  "A465;20XUOX;20XUO;20XOT;20XOX;20XO;20XOP;20XYT;20XYX;20XY;20XYP;20XYRX;20XYR;20YIT;20YIX;20YI;20YIP",
  "A475;20YIET;20YIEX;20YIE;20YIEP;20YUOT;20YUOX;20YUO;20YUOP;20YOT;20YOX;20YO;20YOP;20YUT;20YUX;20YU;20YUP",
  "A485;20YURX;20YUR;20YYT;20YYX;20YY;20YYP;20YYRX;20YYR",
  "A490;10RADICAL QOT;20LI;20KIT;20NYIP;20CYP;20SSI;20GGOP;20GEP;20MI;20HXIT;20LYR;20BBUT;20MOP;20YO;20PUT",
  "A49F;20HXUO;20TAT;20GA;20ZUP;20CYT;20DDUR;20BUR;20GGUO;20NYOP;20TU;20OP;20JJUT;20ZOT;20PYT;20HMO;20YIT",
  "A4AF;20VUR;20SHY;20VEP;20ZA;20JO;20NZUP;20JJY;20GOT;20JJIE;20WO;20DU;20SHUR;20LIE;20CY;20CUOP;20CIP",
  "A4BF;20HXOP;20SHAT;20ZUR;20SHOP;20CHE;20ZZIET;20NBIE;20KE",
  "A4D0;00LISU LETTER BA;20PA;20PHA;20DA;20TA;20THA;20GA;20KA;20KHA;20JA;20CA;20CHA;20DZA;20TSA;20TSHA;20MA",
  "A4E0;20NA;20LA;20SA;20ZHA;20ZA;20NGA;20HA;20XA;20HHA;20FA;20WA;20SHA;20YA;20GHA;20A;20AE;20E;20EU;20I",
  "A4F3;20O;20U;20UE;20UH;20OE;20TONE MYA TI;30NA PO;30MYA CYA;40BO;40NA;40JEU;10PUNCTUATION COMMA",
  "A4FF;20FULL STOP;00VAI SYLLABLE EE;20EEN;20HEE;20WEE;20WEEN;20PEE;20BHEE;20BEE;20MBEE;20KPEE;20MGBEE",
  "A50B;20GBEE;20FEE;20VEE;20TEE;20THEE;20DHEE;20DHHEE;20LEE;20REE;20DEE;20NDEE;20SEE;20SHEE;20ZEE;20ZHEE",
  "A51A;20CEE;20JEE;20NJEE;20YEE;20KEE;20NGGEE;20GEE;20MEE;20NEE;20NYEE;20I;20IN;20HI;20HIN;20WI;20WIN;20PI",
  "A52B;20BHI;20BI;20MBI;20KPI;20MGBI;20GBI;20FI;20VI;20TI;20THI;20DHI;20DHHI;20LI;20RI;20DI;20NDI;20SI",
  "A53C;20SHI;20ZI;20ZHI;20CI;20JI;20NJI;20YI;20KI;20NGGI;20GI;20MI;20NI;20NYI;20A;20AN;20NGAN;20HA;20HAN",
  "A54E;20WA;20WAN;20PA;20BHA;20BA;20MBA;20KPA;20KPAN;20MGBA;20GBA;20FA;20VA;20TA;20THA;20DHA;20DHHA;20LA",
  "A55F;20RA;20DA;20NDA;20SA;20SHA;20ZA;20ZHA;20CA;20JA;20NJA;20YA;20KA;20KAN;20NGGA;20GA;20MA;20NA;20NYA",
  "A571;20OO;20OON;20HOO;20WOO;20WOON;20POO;20BHOO;20BOO;20MBOO;20KPOO;20MGBOO;20GBOO;20FOO;20VOO;20TOO",
  "A580;20THOO;20DHOO;20DHHOO;20LOO;20ROO;20DOO;20NDOO;20SOO;20SHOO;20ZOO;20ZHOO;20COO;20JOO;20NJOO;20YOO",
  "A58F;20KOO;20NGGOO;20GOO;20MOO;20NOO;20NYOO;20U;20UN;20HU;20HUN;20WU;20WUN;20PU;20BHU;20BU;20MBU;20KPU",
  "A5A0;20MGBU;20GBU;20FU;20VU;20TU;20THU;20DHU;20DHHU;20LU;20RU;20DU;20NDU;20SU;20SHU;20ZU;20ZHU;20CU;20JU",
  "A5B2;20NJU;20YU;20KU;20NGGU;20GU;20MU;20NU;20NYU;20O;20ON;20NGON;20HO;20HON;20WO;20WON;20PO;20BHO;20BO",
  "A5C4;20MBO;20KPO;20MGBO;20GBO;20GBON;20FO;20VO;20TO;20THO;20DHO;20DHHO;20LO;20RO;20DO;20NDO;20SO;20SHO",
  "A5D5;20ZO;20ZHO;20CO;20JO;20NJO;20YO;20KO;20NGGO;20GO;20MO;20NO;20NYO;20E;20EN;20NGEN;20HE;20HEN;20WE",
  "A5E7;20WEN;20PE;20BHE;20BE;20MBE;20KPE;20KPEN;20MGBE;20GBE;20GBEN;20FE;20VE;20TE;20THE;20DHE;20DHHE;20LE",
  "A5F8;20RE;20DE;20NDE;20SE;20SHE;20ZE;20ZHE;20CE;20JE;20NJE;20YE;20KE;20NGGE;20NGGEN;20GE;20GEN;20ME;20NE",
  "A60A;20NYE;20NG;20LENGTHENER;10COMMA;10FULL STOP;10QUESTION MARK;10SYLLABLE NDOLE FA;30KA;30SOO"]

private def characterNameRows13 : List String := [
  "A613;10SYMBOL FEENG;20KEENG;20TING;20NII;20BANG;20FAA;20TAA;20DANG;20DOONG;20KUNG;20TONG;20DO-O;20JONG",
  "A620;10DIGIT ZERO;20ONE;20TWO;20THREE;20FOUR;20FIVE;20SIX;20SEVEN;20EIGHT;20NINE;10SYLLABLE NDOLE MA",
  "A62B;30DO",
  "A640;00CYRILLIC CAPITAL LETTER ZEMLYA;12SMALL;10CAPITAL LETTER DZELO;12SMALL",
  "A644;10CAPITAL LETTER REVERSED DZE;13SMALL;10CAPITAL LETTER IOTA;12SMALL;10CAPITAL LETTER DJERV;12SMALL",
  "A64A;10CAPITAL LETTER MONOGRAPH UK;13SMALL;10CAPITAL LETTER BROAD OMEGA;13SMALL",
  "A64E;10CAPITAL LETTER NEUTRAL YER;13SMALL;11CAPITAL LETTER YERU WITH BACK;15SMALL",
  "A652;10CAPITAL LETTER IOTIFIED YAT;13SMALL;10CAPITAL LETTER REVERSED YU;13SMALL",
  "A656;10CAPITAL LETTER IOTIFIED A;13SMALL;10CAPITAL LETTER CLOSED LITTLE YUS;14SMALL",
  "A65A;11CAPITAL LETTER BLENDED;13SMALL;11CAPITAL LETTER IOTIFIED CLOSED LITTLE;15SMALL",
  "A65E;10CAPITAL LETTER YN;12SMALL;10CAPITAL LETTER REVERSED TSE;13SMALL;10CAPITAL LETTER SOFT DE;13SMALL",
  "A664;10CAPITAL LETTER SOFT EL;13SMALL;10CAPITAL LETTER SOFT EM;13SMALL;10CAPITAL LETTER MONOCULAR O",
  "A669;13SMALL;11CAPITAL LETTER BINOCULAR;13SMALL;11CAPITAL LETTER DOUBLE MONOCULAR;14SMALL",
  "A66E;11LETTER MULTIOCULAR;00COMBINING CYRILLIC VZMET;20TEN MILLIONS SIGN;22HUNDRED;22THOUSAND",
  "A673;00SLAVONIC ASTERISK;00COMBINING CYRILLIC LETTER UKRAINIAN IE;30I;30YI;30U;30HARD SIGN;30YERU",
  "A67A;30SOFT SIGN;30OMEGA;20KAVYKA;20PAYEROK;00CYRILLIC KAVYKA;10PAYEROK;10CAPITAL LETTER DWE;12SMALL",
  "A682;10CAPITAL LETTER DZWE;12SMALL;10CAPITAL LETTER ZHWE;12SMALL;10CAPITAL LETTER CCHE;12SMALL",
  "A688;10CAPITAL LETTER DZZE;12SMALL;10CAPITAL LETTER TE WITH MIDDLE HOOK;15SMALL;10CAPITAL LETTER TWE",
  "A68D;12SMALL;10CAPITAL LETTER TSWE;12SMALL;10CAPITAL LETTER TSSE;12SMALL;10CAPITAL LETTER TCHE;12SMALL",
  "A694;10CAPITAL LETTER HWE;12SMALL;10CAPITAL LETTER SHWE;12SMALL;10CAPITAL LETTER DOUBLE O;13SMALL",
  "A69A;11CAPITAL LETTER CROSSED;13SMALL;00MODIFIER LETTER CYRILLIC HARD SIGN;31SOFT",
  "A69E;00COMBINING CYRILLIC LETTER EF;30IOTIFIED E;00BAMUM LETTER A;20KA;20U;20KU;20EE;20REE;20TAE;20O",
  "A6A8;20NYI;20I;20LA;20PA;20RII;20RIEE;20LEEEE;20MEEEE;20TAA;20NDAA;20NJAEM;20M;20SUU;20MU;20SHII;20SI",
  "A6B8;20SHEUX;20SEUX;20KYEE;20KET;20NUAE;20NU;20NJUAE;20YOQ;20SHU;20YUQ;20YA;20NSHA;20KEUX;20PEUX;20NJEE",
  "A6C7;20NTEE;20PUE;20WUE;20PEE;20FEE;20RU;20LU;20MI;20NI;20REUX;20RAE;20KEN;20NGKWAEN;20NGGA;20NGA;20SHO",
  "A6D7;20PUAE;20FU;20FOM;20WA;20NA;20LI;20PI;20LOQ;20KO;20MBEN;20REN;20MEN;20MA;20TI;20KI;20MO;20MBAA",
  "A6E8;20TET;20KPA;20TEN;20NTUU;20SAMBA;20FAAMAE;20KOVUU;20KOGHOM;10COMBINING MARK KOQNDON;30TUKWENTIS",
  "A6F2;10NJAEMLI;10FULL STOP;10COLON;10COMMA;10SEMICOLON;10QUESTION MARK",
  "A700;00MODIFIER LETTER CHINESE TONE YIN PING;41YANG;40YIN SHANG;41YANG;40YIN QU;41YANG;40YIN RU;41YANG",
  "A708;20EXTRA-HIGH DOTTED TONE BAR;23HIGH;23MID;23LOW;23EXTRA-LOW;22EXTRA-HIGH DOTTED LEFT-STEM;24HIGH",
  "A70F;24MID;24LOW;24EXTRA-LOW;23EXTRA-HIGH;23HIGH;23MID;23LOW;23EXTRA-LOW;21DOT VERTICAL;30SLASH",
  "A719;30HORIZONTAL BAR;20LOWER RIGHT CORNER ANGLE;20RAISED UP ARROW;31DOWN;30EXCLAMATION MARK;32INVERTED",
  "A71F;23LOW;20STRESS AND HIGH TONE;41LOW;00LATIN CAPITAL LETTER EGYPTOLOGICAL ALEF;13SMALL",
  "A724;10CAPITAL LETTER EGYPTOLOGICAL AIN;13SMALL;10CAPITAL LETTER HENG;12SMALL;10CAPITAL LETTER TZ",
  "A729;12SMALL;10CAPITAL LETTER TRESILLO;12SMALL;10CAPITAL LETTER CUATRILLO;12SMALL",
  "A72E;10CAPITAL LETTER CUATRILLO WITH COMMA;14SMALL;10LETTER SMALL CAPITAL F;40S;10CAPITAL LETTER AA",
  "A733;12SMALL;10CAPITAL LETTER AO;12SMALL;10CAPITAL LETTER AU;12SMALL;10CAPITAL LETTER AV;12SMALL",
  "A73A;10CAPITAL LETTER AV WITH HORIZONTAL BAR;15SMALL;10CAPITAL LETTER AY;12SMALL",
  "A73E;10CAPITAL LETTER REVERSED C WITH DOT;15SMALL;10CAPITAL LETTER K WITH STROKE;14SMALL",
  "A742;11CAPITAL LETTER K WITH DIAGONAL;15SMALL;12CAPITAL LETTER K WITH STROKE AND;17SMALL",
  "A746;10CAPITAL LETTER BROKEN L;13SMALL;10CAPITAL LETTER L WITH HIGH STROKE;15SMALL",
  "A74A;10CAPITAL LETTER O WITH LONG STROKE OVERLAY;16SMALL;10CAPITAL LETTER O WITH LOOP;14SMALL",
  "A74E;10CAPITAL LETTER OO;12SMALL;10CAPITAL LETTER P WITH STROKE THROUGH DESCENDER;16SMALL",
  "A752;10CAPITAL LETTER P WITH FLOURISH;14SMALL;10CAPITAL LETTER P WITH SQUIRREL TAIL;15SMALL",
  "A756;10CAPITAL LETTER Q WITH STROKE THROUGH DESCENDER;16SMALL;10CAPITAL LETTER Q WITH DIAGONAL STROKE",
  "A759;15SMALL;10CAPITAL LETTER R ROTUNDA;13SMALL;11CAPITAL LETTER RUM;13SMALL",
  "A75E;10CAPITAL LETTER V WITH DIAGONAL STROKE;15SMALL;10CAPITAL LETTER VY;12SMALL",
  "A762;10CAPITAL LETTER VISIGOTHIC Z;13SMALL;10CAPITAL LETTER THORN WITH STROKE;14SMALL",
  "A766;10CAPITAL LETTER THORN WITH STROKE THROUGH DESCENDER;16SMALL;10CAPITAL LETTER VEND;12SMALL",
  "A76A;10CAPITAL LETTER ET;12SMALL;10CAPITAL LETTER IS;12SMALL;10CAPITAL LETTER CON;12SMALL",
  "A770;00MODIFIER LETTER US;00LATIN SMALL LETTER DUM;30LUM;30MUM;30NUM;30RUM;11LETTER SMALL CAPITAL",
  "A777;10SMALL LETTER TUM;30UM;10CAPITAL LETTER INSULAR D;13SMALL;10CAPITAL LETTER INSULAR F;13SMALL",
  "A77D;10CAPITAL LETTER INSULAR G;32TURNED;14SMALL;10CAPITAL LETTER TURNED L;13SMALL",
  "A782;10CAPITAL LETTER INSULAR R;13SMALL;10CAPITAL LETTER INSULAR S;13SMALL;10CAPITAL LETTER INSULAR T",
  "A787;13SMALL;00MODIFIER LETTER LOW CIRCUMFLEX ACCENT;20COLON;20SHORT EQUALS SIGN",
  "A78B;00LATIN CAPITAL LETTER SALTILLO;12SMALL;10CAPITAL LETTER TURNED H",
  "A78E;10SMALL LETTER L WITH RETROFLEX HOOK AND BELT;10LETTER SINOLOGICAL DOT",
  "A790;10CAPITAL LETTER N WITH DESCENDER;14SMALL;10CAPITAL LETTER C WITH BAR;14SMALL;50PALATAL HOOK;33H",
  "A796;10CAPITAL LETTER B WITH FLOURISH;14SMALL;10CAPITAL LETTER F WITH STROKE;14SMALL",
  "A79A;10CAPITAL LETTER VOLAPUK AE;13SMALL;10CAPITAL LETTER VOLAPUK OE;13SMALL;10CAPITAL LETTER VOLAPUK UE",
  "A79F;13SMALL;10CAPITAL LETTER G WITH OBLIQUE STROKE;15SMALL;13CAPITAL LETTER K;15SMALL",
  "A7A4;13CAPITAL LETTER N;15SMALL;13CAPITAL LETTER R;15SMALL;13CAPITAL LETTER S;15SMALL",
  "A7AA;10CAPITAL LETTER H WITH HOOK;30REVERSED OPEN E;30SCRIPT G;30L WITH BELT;30SMALL CAPITAL I",
  "A7AF;10LETTER SMALL CAPITAL Q;10CAPITAL LETTER TURNED K;40T;30J WITH CROSSED-TAIL;30CHI;30BETA;12SMALL",
  "A7B6;10CAPITAL LETTER OMEGA;12SMALL;10CAPITAL LETTER U WITH STROKE;14SMALL;10CAPITAL LETTER GLOTTAL A",
  "A7BB;13SMALL;10CAPITAL LETTER GLOTTAL I;13SMALL;10CAPITAL LETTER GLOTTAL U;13SMALL",
  "A7C0;10CAPITAL LETTER OLD POLISH O;14SMALL;10CAPITAL LETTER ANGLICANA W;13SMALL",
  "A7C4;10CAPITAL LETTER C WITH PALATAL HOOK;31S WITH;31Z WITH PALATAL;30D WITH SHORT STROKE OVERLAY",
  "A7C8;16SMALL;14CAPITAL LETTER S;16SMALL",
  "A7D0;10CAPITAL LETTER CLOSED INSULAR G;14SMALL",
  "A7D3;30DOUBLE THORN",
  "A7D5;40WYNN;10CAPITAL LETTER MIDDLE SCOTS S;14SMALL;11CAPITAL LETTER SIGMOID;13SMALL",
  "A7F2;00MODIFIER LETTER CAPITAL C;30F;30Q;00LATIN CAPITAL LETTER REVERSED HALF H;14SMALL",
  "A7F7;10EPIGRAPHIC LETTER SIDEWAYS I;00MODIFIER LETTER CAPITAL H WITH STROKE;20SMALL LIGATURE OE",
  "A7FA;00LATIN LETTER SMALL CAPITAL TURNED M;10EPIGRAPHIC LETTER REVERSED F;40P;30INVERTED M;30I LONGA",
  "A7FF;30ARCHAIC M;00SYLOTI NAGRI LETTER A;30I;20SIGN DVISVARA;20LETTER U;30E;30O;20SIGN HASANTA",
  "A807;20LETTER KO;30KHO;30GO;30GHO;20SIGN ANUSVARA;20LETTER CO;30CHO;30JO;30JHO;30TTO;30TTHO;30DDO;30DDHO",
  "A814;30TO;30THO;30DO;30DHO;30NO;30PO;30PHO;30BO;30BHO;30MO;30RO;30LO;30RRO;30SO;30HO;20VOWEL SIGN A;40I",
  "A825;40U;40E;40OO;20POETRY MARK-1;30MARK-2;30MARK-3;30MARK-4;20SIGN ALTERNATE HASANTA",
  "A830;00NORTH INDIC FRACTION ONE QUARTER;40HALF;30THREE QUARTERS;30ONE SIXTEENTH;40EIGHTH",
  "A835;30THREE SIXTEENTHS;20QUARTER MARK;21PLACEHOLDER;21RUPEE;21QUANTITY",
  "A840;00PHAGS-PA LETTER KA;20KHA;20GA;20NGA;20CA;20CHA;20JA;20NYA;20TA;20THA;20DA;20NA;20PA;20PHA;20BA",
  "A84F;20MA;20TSA;20TSHA;20DZA;20WA;20ZHA;20ZA;20SMALL A;20YA;20RA;20LA;20SHA;20SA;20HA;20A;20I;20U;20E",
  "A861;20O;20QA;20XA;20FA;20GGA;20EE;10SUBJOINED LETTER WA;30YA;10LETTER TTA;20TTHA;20DDA;20NNA",
  "A86D;20ALTERNATE YA;20VOICELESS SHA;20VOICED HA;20ASPIRATED FA;10SUBJOINED LETTER RA;12SUPERFIXED",
  "A873;10LETTER CANDRABINDU;10SINGLE HEAD MARK;12DOUBLE;10MARK SHAD;21DOUBLE",
  "A880;00SAURASHTRA SIGN ANUSVARA;20VISARGA;10LETTER A;20AA;20I;20II;20U;20UU;20VOCALIC R;30RR;30L;30LL",
  "A88C;20E;20EE;20AI;20O;20OO;20AU;20KA;20KHA;20GA;20GHA;20NGA;20CA;20CHA;20JA;20JHA;20NYA;20TTA;20TTHA",
  "A89E;20DDA;20DDHA;20NNA;20TA;20THA;20DA;20DHA;20NA;20PA;20PHA;20BA;20BHA;20MA;20YA;20RA;20LA;20VA;20SHA",
  "A8B0;20SSA;20SA;20HA;20LLA;10CONSONANT SIGN HAARU;10VOWEL SIGN AA;30I;30II;30U;30UU;30VOCALIC R;40RR;40L",
  "A8BD;40LL;30E;30EE;30AI;30O;30OO;30AU;10SIGN VIRAMA;20CANDRABINDU",
  "A8CE;10DANDA;11DOUBLE;10DIGIT ZERO;20ONE;20TWO;20THREE;20FOUR;20FIVE;20SIX;20SEVEN;20EIGHT;20NINE",
  "A8E0;00COMBINING DEVANAGARI DIGIT ZERO;30ONE;30TWO;30THREE;30FOUR;30FIVE;30SIX;30SEVEN;30EIGHT;30NINE",
  "A8EA;20LETTER A;30U;30KA;30NA;30PA;30RA;30VI;20SIGN AVAGRAHA;00DEVANAGARI SIGN SPACING CANDRABINDU",
  "A8F3;20CANDRABINDU VIRAMA;22DOUBLE;20CANDRABINDU TWO;30THREE;30AVAGRAHA;20PUSHPIKA;10GAP FILLER;10CARET",
  "A8FB;10HEADSTROKE;10SIGN SIDDHAM;10JAIN OM;10LETTER AY;11VOWEL SIGN;00KAYAH LI DIGIT ZERO;30ONE;30TWO",
  "A903;30THREE;30FOUR;30FIVE;30SIX;30SEVEN;30EIGHT;30NINE;20LETTER KA;30KHA;30GA;30NGA;30SA;30SHA;30ZA",
  "A911;30NYA;30TA;30HTA;30NA;30PA;30PHA;30MA;30DA;30BA;30RA;30YA;30LA;30WA;30THA;30HA;30VA;30CA;30A;30OE",
  "A924;30I;30OO;20VOWEL UE;30E;30U;30EE;30O;20TONE PLOPHU;30CALYA;40PLOPHU;20SIGN CWI;30SHYA",
  "A930;00REJANG LETTER KA;20GA;20NGA;20TA;20DA;20NA;20PA;20BA;20MA;20CA;20JA;20NYA;20SA;20RA;20LA;20YA",
  "A940;20WA;20HA;20MBA;20NGGA;20NDA;20NYJA;20A;10VOWEL SIGN I;30U;30E;30AI;30O;30AU;30EU;30EA",
  "A94F;10CONSONANT SIGN NG;30N;30R;30H;10VIRAMA",
  "A95F;10SECTION MARK;00HANGUL CHOSEONG TIKEUT-MIEUM;20TIKEUT-PIEUP;20TIKEUT-SIOS;20TIKEUT-CIEUC",
  "A964;20RIEUL-KIYEOK;20RIEUL-SSANGKIYEOK;20RIEUL-TIKEUT;20RIEUL-SSANGTIKEUT;20RIEUL-MIEUM;20RIEUL-PIEUP",
  "A96A;20RIEUL-SSANGPIEUP;20RIEUL-KAPYEOUNPIEUP;20RIEUL-SIOS;20RIEUL-CIEUC;20RIEUL-KHIEUKH;20MIEUM-KIYEOK",
  "A970;20MIEUM-TIKEUT;20MIEUM-SIOS;20PIEUP-SIOS-THIEUTH;20PIEUP-KHIEUKH;20PIEUP-HIEUH;20SSANGSIOS-PIEUP",
  "A976;20IEUNG-RIEUL;20IEUNG-HIEUH;20SSANGCIEUC-HIEUH;20SSANGTHIEUTH;20PHIEUPH-HIEUH;20HIEUH-SIOS",
  "A97C;20SSANGYEORINHIEUH",
  "A980;00JAVANESE SIGN PANYANGGA;20CECAK;20LAYAR;20WIGNYAN;10LETTER A;20I KAWI;30;20II;20U;20PA CEREK",
  "A98A;20NGA LELET;40RASWADI;20E;20AI;20O;20KA;30SASAK;30MURDA;20GA;30MURDA;20NGA;20CA;30MURDA;20JA",
  "A998;20NYA MURDA;20JA MAHAPRANA;20NYA;20TTA;30MAHAPRANA;20DDA;30MAHAPRANA;20NA MURDA;20TA;30MURDA;20DA",
  "A9A3;30MAHAPRANA;20NA;20PA;30MURDA;20BA;30MURDA;20MA;20YA;20RA;30AGUNG;20LA;20WA;20SA MURDA;30MAHAPRANA",
  "A9B1;30;20HA;10SIGN CECAK TELU;10VOWEL SIGN TARUNG;30TOLONG;30WULU;40MELIK;30SUKU;40MENDUT;30TALING",
  "A9BB;30DIRGA MURE;30PEPET;10CONSONANT SIGN KERET;30PENGKAL;30CAKRA;10PANGKON;10LEFT RERENGGAN;11RIGHT",
  "A9C3;10PADA ANDAP;20MADYA;20LUHUR;20WINDU;20PANGKAT;20LINGSA;20LUNGSI;20ADEG;30ADEG;20PISELEH;12TURNED",
  "A9CF;10PANGRANGKEP;10DIGIT ZERO;20ONE;20TWO;20THREE;20FOUR;20FIVE;20SIX;20SEVEN;20EIGHT;20NINE",
  "A9DE;10PADA TIRTA TUMETES;20ISEN-ISEN;00MYANMAR LETTER SHAN GHA;30CHA;30JHA;30NNA;30BHA;10SIGN SHAN SAW",
  "A9E6;10MODIFIER LETTER SHAN REDUPLICATION;10LETTER TAI LAING NYA;40FA;40GA;40GHA;40JA;40JHA;40DDA;40DDHA",
  "A9EF;40NNA;10TAI LAING DIGIT ZERO;40ONE;40TWO;40THREE;40FOUR;40FIVE;40SIX;40SEVEN;40EIGHT;40NINE",
  "A9FA;10LETTER TAI LAING LLA;40DA;40DHA;40BA;40BHA",
  "AA00;00CHAM LETTER A;20I;20U;20E;20AI;20O;20KA;20KHA;20GA;20GHA;20NGUE;20NGA;20CHA;20CHHA;20JA;20JHA",
  "AA10;20NHUE;20NHA;20NHJA;20TA;20THA;20DA;20DHA;20NUE;20NA;20DDA;20PA;20PPA;20PHA;20BA;20BHA;20MUE;20MA",
  "AA21;20BBA;20YA;20RA;20LA;20VA;20SSA;20SA;20HA;10VOWEL SIGN AA;30I;30II;30EI;30U;30OE;30O;30AI;30AU;30UE",
  "AA33;10CONSONANT SIGN YA;30RA;30LA;30WA",
  "AA40;10LETTER FINAL K;30G;30NG;12CONSONANT SIGN;10LETTER FINAL CH;30T;30N;30P;30Y;30R;30L;30SS",
  "AA4C;10CONSONANT SIGN FINAL M;40H",
  "AA50;10DIGIT ZERO;20ONE;20TWO;20THREE;20FOUR;20FIVE;20SIX;20SEVEN;20EIGHT;20NINE",
  "AA5C;10PUNCTUATION SPIRAL;20DANDA;21DOUBLE;21TRIPLE;00MYANMAR LETTER KHAMTI GA;30CA;30CHA;30JA;30JHA",
  "AA65;30NYA;30TTA;30TTHA;30DDA;30DDHA;30DHA;30NA;30SA;30HA;30HHA;30FA",
  "AA70;10MODIFIER LETTER KHAMTI REDUPLICATION;10LETTER KHAMTI XA;30ZA;30RA;10LOGOGRAM KHAMTI OAY;30QN;30HM",
  "AA77;10SYMBOL AITON EXCLAMATION;30ONE;30TWO;10LETTER AITON RA;10SIGN PAO KAREN TONE;20TAI LAING TONE-2",
  "AA7D;40TONE-5;10LETTER SHWE PALAUNG CHA;40SHA;00TAI VIET LETTER LOW KO;31HIGH;30LOW KHO;31HIGH",
  "AA84;30LOW KHHO;31HIGH;30LOW GO;31HIGH;30LOW NGO;31HIGH;30LOW CO;31HIGH;30LOW CHO;31HIGH;30LOW SO;31HIGH",
  "AA90;30LOW NYO;31HIGH;30LOW DO;31HIGH;30LOW TO;31HIGH;30LOW THO;31HIGH;30LOW NO;31HIGH;30LOW BO;31HIGH",
  "AA9C;30LOW PO;31HIGH;30LOW PHO;31HIGH;30LOW FO;31HIGH;30LOW MO;31HIGH;30LOW YO;31HIGH;30LOW RO;31HIGH",
  "AAA8;30LOW LO;31HIGH;30LOW VO;31HIGH;30LOW HO;31HIGH;30LOW O;31HIGH;20MAI KANG;20VOWEL AA;30I;30UE;30U",
  "AAB5;30E;30O;20MAI KHIT;20VOWEL IA;30UEA;30UA;30AUE;30AY;30AN;30AM;20TONE MAI EK;40NUENG;40THO;40SONG",
  "AADB;20SYMBOL KON;30NUENG;30SAM;30HO HOI;30KOI KOI;00MEETEI MAYEK LETTER E;30O;30CHA;30NYA;30TTA;30TTHA",
  "AAE6;30DDA;30DDHA;30NNA;30SHA;30SSA;20VOWEL SIGN II;40UU;40AAI;40AU;40AAU;20CHEIKHAN;20AHANG KHUDAM",
  "AAF2;20ANJI;20SYLLABLE REPETITION MARK;22WORD;20VOWEL SIGN VISARGA;20VIRAMA",
  "AB01;00ETHIOPIC SYLLABLE TTHU;20TTHI;20TTHAA;20TTHEE;20TTHE;20TTHO",
  "AB09;20DDHU;20DDHI;20DDHAA;20DDHEE;20DDHE;20DDHO",
  "AB11;20DZU;20DZI;20DZAA;20DZEE;20DZE;20DZO",
  "AB20;20CCHHA;20CCHHU;20CCHHI;20CCHHAA;20CCHHEE;20CCHHE;20CCHHO",
  "AB28;20BBA;20BBU;20BBI;20BBAA;20BBEE;20BBE;20BBO",
  "AB30;00LATIN SMALL LETTER BARRED ALPHA;30A REVERSED-SCHWA;30BLACKLETTER E;31BARRED;30E WITH FLOURISH",
  "AB35;30LENIS F;30SCRIPT G WITH CROSSED-TAIL;30L WITH INVERTED LAZY S;50DOUBLE MIDDLE TILDE;50MIDDLE RING",
  "AB3A;30M WITH CROSSED-TAIL;32N;32ENG;30BLACKLETTER O;50WITH STROKE;33OPEN;30INVERTED OE",
  "AB41;30TURNED OE WITH STROKE;61HORIZONTAL;40O OPEN-O;60WITH STROKE;30STIRRUP R",
  "AB46;10LETTER SMALL CAPITAL R WITH RIGHT LEG;10SMALL LETTER R WITHOUT HANDLE;30DOUBLE R",
  "AB49;30R WITH CROSSED-TAIL;33DOUBLE;30SCRIPT R;50WITH RING;30BASELINE ESH;30U WITH SHORT RIGHT LEG;44BAR",
  "AB50;30UI;31TURNED;30U WITH LEFT HOOK;30CHI;40WITH LOW RIGHT RING;60LEFT SERIF;30X WITH LOW RIGHT RING",
  "AB57;50LONG LEFT LEG;80AND LOW RIGHT RING;80WITH SERIF;30Y WITH SHORT RIGHT LEG",
  "AB5B;00MODIFIER BREVE WITH INVERTED BREVE;10LETTER SMALL HENG;30L WITH INVERTED LAZY S;50MIDDLE TILDE",
  "AB5F;30U WITH LEFT HOOK;00LATIN SMALL LETTER SAKHA YAT;30IOTIFIED E;30OPEN OE;30UO;30INVERTED ALPHA",
  "AB65;00GREEK LETTER SMALL CAPITAL OMEGA;00LATIN SMALL LETTER DZ DIGRAPH WITH RETROFLEX HOOK;34TS",
  "AB68;30TURNED R WITH MIDDLE TILDE;00MODIFIER LETTER SMALL TURNED W;20LEFT TACK;21RIGHT",
  "AB70;00CHEROKEE SMALL LETTER A;30E;30I;30O;30U;30V;30GA;30KA;30GE;30GI;30GO;30GU;30GV;30HA;30HE;30HI",
  "AB80;30HO;30HU;30HV;30LA;30LE;30LI;30LO;30LU;30LV;30MA;30ME;30MI;30MO;30MU;30NA;30HNA;30NAH;30NE;30NI",
  "AB93;30NO;30NU;30NV;30QUA;30QUE;30QUI;30QUO;30QUU;30QUV;30SA;30S;30SE;30SI;30SO;30SU;30SV;30DA;30TA;30DE"]

private def characterNameRows14 : List String := [
  "ABA6;30TE;30DI;30TI;30DO;30DU;30DV;30DLA;30TLA;30TLE;30TLI;30TLO;30TLU;30TLV;30TSA;30TSE;30TSI;30TSO",
  "ABB7;30TSU;30TSV;30WA;30WE;30WI;30WO;30WU;30WV;30YA;00MEETEI MAYEK LETTER KOK;30SAM;30LAI;30MIT;30PA",
  "ABC5;30NA;30CHIL;30TIL;30KHOU;30NGOU;30THOU;30WAI;30YANG;30HUK;30UN;30I;30PHAM;30ATIYA;30GOK;30JHAM",
  "ABD4;30RAI;30BA;30JIL;30DIL;30GHOU;30DHOU;30BHAM;30KOK LONSUM;31LAI;31MIT;31PA;31NA;31TIL;31NGOU;31I",
  "ABE3;20VOWEL SIGN ONAP;40INAP;40ANAP;40YENAP;40SOUNAP;40UNAP;40CHEINAP;40NUNG;20CHEIKHEI;20LUM IYEK",
  "ABED;21APUN",
  "ABF0;20DIGIT ZERO;30ONE;30TWO;30THREE;30FOUR;30FIVE;30SIX;30SEVEN;30EIGHT;30NINE",
  "D7B0;00HANGUL JUNGSEONG O-YEO;20O-O-I;20YO-A;20YO-AE;20YO-EO;20U-YEO;20U-I-I;20YU-AE;20YU-O;20EU-A",
  "D7BA;20EU-EO;20EU-E;20EU-O;20I-YA-O;20I-YAE;20I-YEO;20I-YE;20I-O-I;20I-YO;20I-YU;20I-I;20ARAEA-A",
  "D7C6;20ARAEA-E",
  "D7CB;10JONGSEONG NIEUN-RIEUL;20NIEUN-CHIEUCH;20SSANGTIKEUT;20SSANGTIKEUT-PIEUP;20TIKEUT-PIEUP",
  "D7D0;20TIKEUT-SIOS;20TIKEUT-SIOS-KIYEOK;20TIKEUT-CIEUC;20TIKEUT-CHIEUCH;20TIKEUT-THIEUTH",
  "D7D5;20RIEUL-SSANGKIYEOK;20RIEUL-KIYEOK-HIEUH;20SSANGRIEUL-KHIEUKH;20RIEUL-MIEUM-HIEUH",
  "D7D9;20RIEUL-PIEUP-TIKEUT;20RIEUL-PIEUP-PHIEUPH;20RIEUL-YESIEUNG;20RIEUL-YEORINHIEUH-HIEUH",
  "D7DD;20KAPYEOUNRIEUL;20MIEUM-NIEUN;20MIEUM-SSANGNIEUN;20SSANGMIEUM;20MIEUM-PIEUP-SIOS;20MIEUM-CIEUC",
  "D7E3;20PIEUP-TIKEUT;20PIEUP-RIEUL-PHIEUPH;20PIEUP-MIEUM;20SSANGPIEUP;20PIEUP-SIOS-TIKEUT;20PIEUP-CIEUC",
  "D7E9;20PIEUP-CHIEUCH;20SIOS-MIEUM;20SIOS-KAPYEOUNPIEUP;20SSANGSIOS-KIYEOK;20SSANGSIOS-TIKEUT",
  "D7EE;20SIOS-PANSIOS;20SIOS-CIEUC;20SIOS-CHIEUCH;20SIOS-THIEUTH;20SIOS-HIEUH;20PANSIOS-PIEUP",
  "D7F4;20PANSIOS-KAPYEOUNPIEUP;20YESIEUNG-MIEUM;20YESIEUNG-HIEUH;20CIEUC-PIEUP;20CIEUC-SSANGPIEUP",
  "D7F9;20SSANGCIEUC;20PHIEUPH-SIOS;20PHIEUPH-THIEUTH",
  "FB00;00LATIN SMALL LIGATURE FF;30FI;30FL;30FFI;30FFL;30LONG S T;30ST",
  "FB13;00ARMENIAN SMALL LIGATURE MEN NOW;40ECH;40INI;30VEW NOW;30MEN XEH",
  "FB1D;00HEBREW LETTER YOD WITH HIRIQ;10POINT JUDEO-SPANISH VARIKA;10LIGATURE YIDDISH YOD YOD PATAH",
  "FB20;10LETTER ALTERNATIVE AYIN;20WIDE ALEF;30DALET;30HE;30KAF;30LAMED;30FINAL MEM;30RESH;30TAV",
  "FB29;20ALTERNATIVE PLUS SIGN;20SHIN WITH SHIN DOT;41SIN;41DAGESH AND SHIN;61SIN;20ALEF WITH PATAH",
  "FB2F;40QAMATS;40MAPIQ;20BET WITH DAGESH;22GIMEL;22DALET;20HE WITH MAPIQ;20VAV WITH DAGESH;22ZAYIN",
  "FB38;22TET;22YOD;22FINAL KAF;23;22LAMED",
  "FB3E;22MEM",
  "FB40;22NUN;22SAMEKH",
  "FB43;22FINAL PE;23",
  "FB46;22TSADI;22QOF;22RESH;22SHIN;22TAV;20VAV WITH HOLAM;20BET WITH RAFE;22KAF;22PE;10LIGATURE ALEF LAMED",
  "FB50;00ARABIC LETTER ALEF WASLA ISOLATED FORM;41FINAL;21BEEH ISOLATED;31FINAL;31INITIAL;31MEDIAL",
  "FB56;21PEH ISOLATED;31FINAL;31INITIAL;31MEDIAL;21BEHEH ISOLATED;31FINAL;31INITIAL;31MEDIAL",
  "FB5E;21TTEHEH ISOLATED;31FINAL;31INITIAL;31MEDIAL;21TEHEH ISOLATED;31FINAL;31INITIAL;31MEDIAL",
  "FB66;21TTEH ISOLATED;31FINAL;31INITIAL;31MEDIAL;21VEH ISOLATED;31FINAL;31INITIAL;31MEDIAL",
  "FB6E;21PEHEH ISOLATED;31FINAL;31INITIAL;31MEDIAL;21DYEH ISOLATED;31FINAL;31INITIAL;31MEDIAL",
  "FB76;21NYEH ISOLATED;31FINAL;31INITIAL;31MEDIAL;21TCHEH ISOLATED;31FINAL;31INITIAL;31MEDIAL",
  "FB7E;21TCHEHEH ISOLATED;31FINAL;31INITIAL;31MEDIAL;21DDAHAL ISOLATED;31FINAL;21DAHAL ISOLATED;31FINAL",
  "FB86;21DUL ISOLATED;31FINAL;21DDAL ISOLATED;31FINAL;21JEH ISOLATED;31FINAL;21RREH ISOLATED;31FINAL",
  "FB8E;21KEHEH ISOLATED;31FINAL;31INITIAL;31MEDIAL;21GAF ISOLATED;31FINAL;31INITIAL;31MEDIAL",
  "FB96;21GUEH ISOLATED;31FINAL;31INITIAL;31MEDIAL;21NGOEH ISOLATED;31FINAL;31INITIAL;31MEDIAL",
  "FB9E;21NOON GHUNNA ISOLATED;41FINAL;21RNOON ISOLATED;31FINAL;31INITIAL;31MEDIAL",
  "FBA4;21HEH WITH YEH ABOVE ISOLATED;61FINAL;31GOAL ISOLATED;41FINAL;41INITIAL;41MEDIAL",
  "FBAA;31DOACHASHMEE ISOLATED;41FINAL;41INITIAL;41MEDIAL;21YEH BARREE ISOLATED;41FINAL",
  "FBB0;41WITH HAMZA ABOVE ISOLATED;71FINAL;10SYMBOL DOT ABOVE;30BELOW;20TWO DOTS ABOVE;40BELOW",
  "FBB6;20THREE DOTS ABOVE;40BELOW;40POINTING DOWNWARDS ABOVE;60BELOW;20FOUR DOTS ABOVE;40BELOW",
  "FBBC;21DOUBLE VERTICAL BAR;20TWO DOTS VERTICALLY ABOVE;50BELOW;20RING;20SMALL TAH ABOVE;40BELOW",
  "FBC2;20WASLA ABOVE",
  "FBD3;10LETTER NG ISOLATED FORM;31FINAL;31INITIAL;31MEDIAL;21U ISOLATED;31FINAL;21OE ISOLATED;31FINAL",
  "FBDB;21YU ISOLATED;31FINAL;21U WITH HAMZA ABOVE ISOLATED;22VE;31FINAL;21KIRGHIZ OE ISOLATED;41FINAL",
  "FBE2;31YU ISOLATED;41FINAL;21E ISOLATED;31FINAL;31INITIAL;31MEDIAL",
  "FBE8;21UIGHUR KAZAKH KIRGHIZ ALEF MAKSURA INITIAL;71MEDIAL",
  "FBEA;11LIGATURE YEH WITH HAMZA ABOVE WITH ALEF ISOLATED;81FINAL;71AE ISOLATED;81FINAL;71WAW ISOLATED",
  "FBEF;81FINAL;71U ISOLATED;81FINAL;71OE ISOLATED;81FINAL;71YU ISOLATED;81FINAL;71E ISOLATED;81FINAL",
  "FBF8;81INITIAL;21UIGHUR KIRGHIZ YEH WITH HAMZA ABOVE WITH ALEF MAKSURA ISOLATED;b1FINAL;b1INITIAL",
  "FBFC;11LETTER FARSI YEH ISOLATED;41FINAL;41INITIAL;41MEDIAL",
  "FC00;11LIGATURE YEH WITH HAMZA ABOVE WITH JEEM ISOLATED;72HAH;72MEEM;72ALEF MAKSURA;72YEH",
  "FC05;22BEH WITH JEEM;42HAH;42KHAH;42MEEM;42ALEF MAKSURA;42YEH;22TEH WITH JEEM;42HAH;42KHAH;42MEEM",
  "FC0F;42ALEF MAKSURA;42YEH;22THEH WITH JEEM;42MEEM;42ALEF MAKSURA;42YEH;22JEEM WITH HAH;42MEEM",
  "FC17;22HAH WITH JEEM;42MEEM;22KHAH WITH JEEM;42HAH;42MEEM;22SEEN WITH JEEM;42HAH;42KHAH;42MEEM",
  "FC20;22SAD WITH HAH;42MEEM;22DAD WITH JEEM;42HAH;42KHAH;42MEEM;22TAH WITH HAH;42MEEM;24ZAH",
  "FC29;22AIN WITH JEEM;42MEEM;22GHAIN WITH JEEM;42MEEM;22FEH WITH JEEM;42HAH;42KHAH;42MEEM;42ALEF MAKSURA",
  "FC32;42YEH;22QAF WITH HAH;42MEEM;42ALEF MAKSURA;42YEH;22KAF WITH ALEF;42JEEM;42HAH;42KHAH;42LAM;42MEEM",
  "FC3D;42ALEF MAKSURA;42YEH;22LAM WITH JEEM;42HAH;42KHAH;42MEEM;42ALEF MAKSURA;42YEH;22MEEM WITH JEEM",
  "FC46;42HAH;42KHAH;42MEEM;42ALEF MAKSURA;42YEH;22NOON WITH JEEM;42HAH;42KHAH;42MEEM;42ALEF MAKSURA;42YEH",
  "FC51;22HEH WITH JEEM;42MEEM;42ALEF MAKSURA;42YEH;22YEH WITH JEEM;42HAH;42KHAH;42MEEM;42ALEF MAKSURA",
  "FC5A;42YEH;22THAL WITH SUPERSCRIPT ALEF;25REH;25ALEF MAKSURA;22SHADDA WITH DAMMATAN;42KASRATAN;42FATHA",
  "FC61;42DAMMA;42KASRA;42SUPERSCRIPT ALEF;21YEH WITH HAMZA ABOVE WITH REH FINAL;72ZAIN;72MEEM;72NOON",
  "FC68;72ALEF MAKSURA;72YEH;22BEH WITH REH;42ZAIN;42MEEM;42NOON;42ALEF MAKSURA;42YEH;22TEH WITH REH;42ZAIN",
  "FC72;42MEEM;42NOON;42ALEF MAKSURA;42YEH;22THEH WITH REH;42ZAIN;42MEEM;42NOON;42ALEF MAKSURA;42YEH",
  "FC7C;22FEH WITH ALEF MAKSURA;42YEH;22QAF WITH ALEF MAKSURA;42YEH;22KAF WITH ALEF;42LAM;42MEEM",
  "FC83;42ALEF MAKSURA;42YEH;22LAM WITH MEEM;42ALEF MAKSURA;42YEH;22MEEM WITH ALEF;42MEEM;22NOON WITH REH",
  "FC8B;42ZAIN;42MEEM;42NOON;42ALEF MAKSURA;42YEH;22ALEF MAKSURA WITH SUPERSCRIPT ALEF;22YEH WITH REH",
  "FC92;42ZAIN;42MEEM;42NOON;42ALEF MAKSURA;42YEH;41HAMZA ABOVE WITH JEEM INITIAL;72HAH;72KHAH;72MEEM;72HEH",
  "FC9C;22BEH WITH JEEM;42HAH;42KHAH;42MEEM;42HEH;22TEH WITH JEEM;42HAH;42KHAH;42MEEM;42HEH",
  "FCA6;22THEH WITH MEEM;22JEEM WITH HAH;42MEEM;22HAH WITH JEEM;42MEEM;22KHAH WITH JEEM;42MEEM",
  "FCAD;22SEEN WITH JEEM;42HAH;42KHAH;42MEEM;22SAD WITH HAH;42KHAH;42MEEM;22DAD WITH JEEM;42HAH;42KHAH",
  "FCB7;42MEEM;22TAH WITH HAH;22ZAH WITH MEEM;22AIN WITH JEEM;42MEEM;22GHAIN WITH JEEM;42MEEM",
  "FCBE;22FEH WITH JEEM;42HAH;42KHAH;42MEEM;22QAF WITH HAH;42MEEM;22KAF WITH JEEM;42HAH;42KHAH;42LAM;42MEEM",
  "FCC9;22LAM WITH JEEM;42HAH;42KHAH;42MEEM;42HEH;22MEEM WITH JEEM;42HAH;42KHAH;42MEEM;22NOON WITH JEEM",
  "FCD3;42HAH;42KHAH;42MEEM;42HEH;22HEH WITH JEEM;42MEEM;42SUPERSCRIPT ALEF;22YEH WITH JEEM;42HAH;42KHAH",
  "FCDD;42MEEM;42HEH;41HAMZA ABOVE WITH MEEM MEDIAL;72HEH;22BEH WITH MEEM;42HEH;22TEH WITH MEEM;42HEH",
  "FCE5;22THEH WITH MEEM;42HEH;22SEEN WITH MEEM;42HEH;22SHEEN WITH MEEM;42HEH;22KAF WITH LAM;42MEEM;24LAM",
  "FCEE;24NOON;42HEH;22YEH WITH MEEM;42HEH;22SHADDA WITH FATHA;42DAMMA;42KASRA",
  "FCF5;21TAH WITH ALEF MAKSURA ISOLATED;42YEH;22AIN WITH ALEF MAKSURA;42YEH;22GHAIN WITH ALEF MAKSURA",
  "FCFA;42YEH;22SEEN WITH ALEF MAKSURA;42YEH;22SHEEN WITH ALEF MAKSURA;42YEH;22HAH WITH ALEF MAKSURA;42YEH",
  "FD01;22JEEM WITH ALEF MAKSURA;42YEH;22KHAH WITH ALEF MAKSURA;42YEH;22SAD WITH ALEF MAKSURA;42YEH",
  "FD07;22DAD WITH ALEF MAKSURA;42YEH;22SHEEN WITH JEEM;42HAH;42KHAH;42MEEM;42REH;24SEEN;24SAD;24DAD",
  "FD11;21TAH WITH ALEF MAKSURA FINAL;42YEH;22AIN WITH ALEF MAKSURA;42YEH;22GHAIN WITH ALEF MAKSURA;42YEH",
  "FD17;22SEEN WITH ALEF MAKSURA;42YEH;22SHEEN WITH ALEF MAKSURA;42YEH;22HAH WITH ALEF MAKSURA;42YEH",
  "FD1D;22JEEM WITH ALEF MAKSURA;42YEH;22KHAH WITH ALEF MAKSURA;42YEH;22SAD WITH ALEF MAKSURA;42YEH",
  "FD23;22DAD WITH ALEF MAKSURA;42YEH;22SHEEN WITH JEEM;42HAH;42KHAH;42MEEM;42REH;24SEEN;24SAD;24DAD",
  "FD2D;21SHEEN WITH JEEM INITIAL;42HAH;42KHAH;42MEEM;22SEEN WITH HEH;24SHEEN;22TAH WITH MEEM",
  "FD34;21SEEN WITH JEEM MEDIAL;42HAH;42KHAH;22SHEEN WITH JEEM;42HAH;42KHAH;22TAH WITH MEEM;24ZAH",
  "FD3C;21ALEF WITH FATHATAN FINAL;51ISOLATED;00ORNATE LEFT PARENTHESIS;11RIGHT",
  "FD40;00ARABIC LIGATURE RAHIMAHU ALLAAH;20RADI ALLAAHU ANH;40ANHAA;40ANHUM;40ANHUMAA;40ANHUNNA",
  "FD46;20SALLALLAAHU ALAYHI WA-AALIH;20ALAYHI AS-SALAAM;21ALAYHIM;21ALAYHIMAA",
  "FD4A;20ALAYHI AS-SALAATU WAS-SALAAM;20QUDDISA SIRRAH;20SALLALLAHU ALAYHI WAAALIHEE WA-SALLAM",
  "FD4D;20ALAYHAA AS-SALAAM;20TABAARAKA WA-TAAALAA;20RAHIMAHUM ALLAAH",
  "FD50;20TEH WITH JEEM WITH MEEM INITIAL FORM;41HAH WITH JEEM FINAL;71INITIAL;62MEEM;44KHAH",
  "FD55;42MEEM WITH JEEM;62HAH;62KHAH;21JEEM WITH MEEM WITH HAH FINAL;71INITIAL",
  "FD5A;21HAH WITH MEEM WITH YEH FINAL;62ALEF MAKSURA;21SEEN WITH HAH WITH JEEM INITIAL;42JEEM WITH HAH",
  "FD5E;61ALEF MAKSURA FINAL;42MEEM WITH HAH;71INITIAL;62JEEM;61MEEM FINAL;71INITIAL",
  "FD64;21SAD WITH HAH WITH HAH FINAL;71INITIAL;41MEEM WITH MEEM FINAL;24SHEEN WITH HAH;71INITIAL",
  "FD69;41JEEM WITH YEH FINAL;42MEEM WITH KHAH;71INITIAL;61MEEM FINAL;71INITIAL",
  "FD6E;21DAD WITH HAH WITH ALEF MAKSURA FINAL;42KHAH WITH MEEM;71INITIAL;21TAH WITH MEEM WITH HAH FINAL",
  "FD72;71INITIAL;62MEEM;61YEH FINAL;22AIN WITH JEEM WITH MEEM;44MEEM;71INITIAL;61ALEF MAKSURA FINAL",
  "FD79;22GHAIN WITH MEEM WITH MEEM;62YEH;62ALEF MAKSURA;22FEH WITH KHAH WITH MEEM;71INITIAL",
  "FD7E;21QAF WITH MEEM WITH HAH FINAL;62MEEM;24LAM WITH HAH;62YEH;62ALEF MAKSURA;41JEEM WITH JEEM INITIAL",
  "FD84;71FINAL;42KHAH WITH MEEM;71INITIAL;41MEEM WITH HAH FINAL;71INITIAL;22MEEM WITH HAH WITH JEEM;62MEEM",
  "FD8B;61YEH FINAL;41JEEM WITH HAH INITIAL;62MEEM;42KHAH WITH JEEM;62MEEM",
  "FD92;42JEEM WITH KHAH;22HEH WITH MEEM WITH JEEM;62MEEM;24NOON WITH HAH;61ALEF MAKSURA FINAL",
  "FD97;42JEEM WITH MEEM;71INITIAL;61ALEF MAKSURA FINAL;42MEEM WITH YEH;62ALEF MAKSURA",
  "FD9C;22YEH WITH MEEM WITH MEEM;71INITIAL;21BEH WITH KHAH WITH YEH FINAL;24TEH WITH JEEM;62ALEF MAKSURA",
  "FDA1;42KHAH WITH YEH;62ALEF MAKSURA;42MEEM WITH YEH;62ALEF MAKSURA;22JEEM WITH MEEM WITH YEH",
  "FDA6;42HAH WITH ALEF MAKSURA;45MEEM;25SEEN WITH KHAH;22SAD WITH HAH WITH YEH;26SHEEN;26DAD",
  "FDAC;24LAM WITH JEEM;44MEEM;24YEH WITH HAH;44JEEM;44MEEM;26MEEM;26QAF;24NOON WITH HAH",
  "FDB4;21QAF WITH MEEM WITH HAH INITIAL;22LAM WITH HAH WITH MEEM;21AIN WITH MEEM WITH YEH FINAL;26KAF",
  "FDB8;21NOON WITH JEEM WITH HAH INITIAL;21MEEM WITH KHAH WITH YEH FINAL;21LAM WITH JEEM WITH MEEM INITIAL",
  "FDBB;21KAF WITH MEEM WITH MEEM FINAL;24LAM WITH JEEM;22NOON WITH JEEM WITH HAH;22JEEM WITH HAH WITH YEH",
  "FDBF;24HAH WITH JEEM;26MEEM;24FEH WITH MEEM;24BEH WITH HAH;21KAF WITH MEEM WITH MEEM INITIAL",
  "FDC4;24AIN WITH JEEM;24SAD WITH MEEM;21SEEN WITH KHAH WITH YEH FINAL;24NOON WITH JEEM",
  "FDCF;20SALAAMUHU ALAYNAA",
  "FDF0;20SALLA USED AS KORANIC STOP SIGN ISOLATED FORM;27QALA;22ALLAH;22AKBAR;22MOHAMMAD;22SALAM;22RASOUL",
  "FDF7;22ALAYHE;22WASALLAM;22SALLA;20SALLALLAHOU ALAYHE WASALLAM;20JALLAJALALOUHOU;00RIAL SIGN",
  "FDFD;00ARABIC LIGATURE BISMILLAH AR-RAHMAN AR-RAHEEM;20SUBHAANAHU WA TAAALAA;20AZZA WA JALL",
  "FE00;00VARIATION SELECTOR-1;10SELECTOR-2;10SELECTOR-3;10SELECTOR-4;10SELECTOR-5;10SELECTOR-6",
  "FE06;10SELECTOR-7;10SELECTOR-8;10SELECTOR-9;10SELECTOR-10;10SELECTOR-11;10SELECTOR-12;10SELECTOR-13",
  "FE0D;10SELECTOR-14;10SELECTOR-15;10SELECTOR-16;00PRESENTATION FORM FOR VERTICAL COMMA;41IDEOGRAPHIC",
  "FE12;50FULL STOP;40COLON;40SEMICOLON;40EXCLAMATION MARK;41QUESTION;40LEFT WHITE LENTICULAR BRACKET",
  "FE18;40RIGHT WHITE LENTICULAR BRAKCET;40HORIZONTAL ELLIPSIS",
  "FE20;00COMBINING LIGATURE LEFT HALF;21RIGHT;11DOUBLE TILDE LEFT;31RIGHT;11MACRON LEFT;21RIGHT",
  "FE26;10CONJOINING MACRON;10LIGATURE LEFT HALF BELOW;22RIGHT;12TILDE LEFT;22RIGHT;12MACRON LEFT;22RIGHT",
  "FE2D;11CONJOINING MACRON;10CYRILLIC TITLO LEFT HALF;31RIGHT",
  "FE30;00PRESENTATION FORM FOR VERTICAL TWO DOT LEADER;40EM DASH;41EN;40LOW LINE;42WAVY;40LEFT PARENTHESIS",
  "FE36;41RIGHT;40LEFT CURLY BRACKET;42RIGHT;41LEFT TORTOISE SHELL;43RIGHT;41LEFT BLACK LENTICULAR;43RIGHT",
  "FE3D;41LEFT DOUBLE ANGLE;43RIGHT;42LEFT;42RIGHT;41LEFT CORNER;42RIGHT;42LEFT WHITE;43RIGHT;00SESAME DOT",
  "FE46;02WHITE;00PRESENTATION FORM FOR VERTICAL LEFT SQUARE BRACKET;42RIGHT;00DASHED OVERLINE;01CENTRELINE",
  "FE4B;01WAVY;02DOUBLE;00DASHED LOW LINE;02CENTRELINE;02WAVY;00SMALL COMMA;11IDEOGRAPHIC;10FULL STOP",
  "FE54;10SEMICOLON;10COLON;10QUESTION MARK;11EXCLAMATION;10EM DASH;10LEFT PARENTHESIS;11RIGHT",
  "FE5B;10LEFT CURLY BRACKET;12RIGHT;11LEFT TORTOISE SHELL;13RIGHT;10NUMBER SIGN;10AMPERSAND;10ASTERISK",
  "FE62;10PLUS SIGN;10HYPHEN-MINUS;10LESS-THAN SIGN;11GREATER-THAN;11EQUALS",
  "FE68;10REVERSE SOLIDUS;10DOLLAR SIGN;11PERCENT;10COMMERCIAL AT",
  "FE70;00ARABIC FATHATAN ISOLATED FORM;10TATWEEL WITH FATHATAN ABOVE;10DAMMATAN ISOLATED FORM",
  "FE73;10TAIL FRAGMENT;10KASRATAN ISOLATED FORM",
  "FE76;12FATHA;21MEDIAL;11DAMMA ISOLATED;21MEDIAL;11KASRA ISOLATED;21MEDIAL;11SHADDA ISOLATED;21MEDIAL",
  "FE7E;11SUKUN ISOLATED;21MEDIAL;11LETTER HAMZA ISOLATED;22ALEF WITH MADDA ABOVE;61FINAL",
  "FE83;41HAMZA ABOVE ISOLATED;61FINAL;21WAW WITH HAMZA ABOVE ISOLATED;61FINAL",
  "FE87;21ALEF WITH HAMZA BELOW ISOLATED;61FINAL;21YEH WITH HAMZA ABOVE ISOLATED;61FINAL;61INITIAL;61MEDIAL",
  "FE8D;21ALEF ISOLATED;31FINAL;21BEH ISOLATED;31FINAL;31INITIAL;31MEDIAL;21TEH MARBUTA ISOLATED;41FINAL",
  "FE95;31ISOLATED;31FINAL;31INITIAL;31MEDIAL;21THEH ISOLATED;31FINAL;31INITIAL;31MEDIAL;21JEEM ISOLATED",
  "FE9E;31FINAL;31INITIAL;31MEDIAL;21HAH ISOLATED;31FINAL;31INITIAL;31MEDIAL;21KHAH ISOLATED;31FINAL",
  "FEA7;31INITIAL;31MEDIAL;21DAL ISOLATED;31FINAL;21THAL ISOLATED;31FINAL;21REH ISOLATED;31FINAL",
  "FEAF;21ZAIN ISOLATED;31FINAL;21SEEN ISOLATED;31FINAL;31INITIAL;31MEDIAL;21SHEEN ISOLATED;31FINAL",
  "FEB7;31INITIAL;31MEDIAL;21SAD ISOLATED;31FINAL;31INITIAL;31MEDIAL;21DAD ISOLATED;31FINAL;31INITIAL",
  "FEC0;31MEDIAL;21TAH ISOLATED;31FINAL;31INITIAL;31MEDIAL;21ZAH ISOLATED;31FINAL;31INITIAL;31MEDIAL",
  "FEC9;21AIN ISOLATED;31FINAL;31INITIAL;31MEDIAL;21GHAIN ISOLATED;31FINAL;31INITIAL;31MEDIAL",
  "FED1;21FEH ISOLATED;31FINAL;31INITIAL;31MEDIAL;21QAF ISOLATED;31FINAL;31INITIAL;31MEDIAL;21KAF ISOLATED",
  "FEDA;31FINAL;31INITIAL;31MEDIAL;21LAM ISOLATED;31FINAL;31INITIAL;31MEDIAL;21MEEM ISOLATED;31FINAL",
  "FEE3;31INITIAL;31MEDIAL;21NOON ISOLATED;31FINAL;31INITIAL;31MEDIAL;21HEH ISOLATED;31FINAL;31INITIAL"]

private def characterNameRows15 : List String := [
  "FEEC;31MEDIAL;21WAW ISOLATED;31FINAL;21ALEF MAKSURA ISOLATED;41FINAL;21YEH ISOLATED;31FINAL;31INITIAL",
  "FEF4;31MEDIAL;11LIGATURE LAM WITH ALEF WITH MADDA ABOVE ISOLATED;81FINAL;61HAMZA ABOVE ISOLATED;81FINAL",
  "FEF9;71BELOW ISOLATED;81FINAL;51ISOLATED;51FINAL",
  "FEFF;00ZERO WIDTH NO-BREAK SPACE",
  "FF01;00FULLWIDTH EXCLAMATION MARK;11QUOTATION;10NUMBER SIGN;11DOLLAR;11PERCENT;10AMPERSAND;10APOSTROPHE",
  "FF08;10LEFT PARENTHESIS;11RIGHT;10ASTERISK;10PLUS SIGN;10COMMA;10HYPHEN-MINUS;10FULL STOP;10SOLIDUS",
  "FF10;10DIGIT ZERO;20ONE;20TWO;20THREE;20FOUR;20FIVE;20SIX;20SEVEN;20EIGHT;20NINE;10COLON;10SEMICOLON",
  "FF1C;10LESS-THAN SIGN;11EQUALS;11GREATER-THAN;10QUESTION MARK;10COMMERCIAL AT;10LATIN CAPITAL LETTER A",
  "FF22;40B;40C;40D;40E;40F;40G;40H;40I;40J;40K;40L;40M;40N;40O;40P;40Q;40R;40S;40T;40U;40V;40W;40X;40Y;40Z",
  "FF3B;10LEFT SQUARE BRACKET;10REVERSE SOLIDUS;10RIGHT SQUARE BRACKET;10CIRCUMFLEX ACCENT;10LOW LINE",
  "FF40;10GRAVE ACCENT;10LATIN SMALL LETTER A;40B;40C;40D;40E;40F;40G;40H;40I;40J;40K;40L;40M;40N;40O;40P",
  "FF51;40Q;40R;40S;40T;40U;40V;40W;40X;40Y;40Z;10LEFT CURLY BRACKET;10VERTICAL LINE;10RIGHT CURLY BRACKET",
  "FF5E;10TILDE;10LEFT WHITE PARENTHESIS;12RIGHT;00HALFWIDTH IDEOGRAPHIC FULL STOP;10LEFT CORNER BRACKET",
  "FF63;12RIGHT;10IDEOGRAPHIC COMMA;10KATAKANA MIDDLE DOT;20LETTER WO;30SMALL A;40I;40U;40E;40O;40YA;40YU",
  "FF6E;40YO;40TU;10KATAKANA-HIRAGANA PROLONGED SOUND MARK;10KATAKANA LETTER A;30I;30U;30E;30O;30KA;30KI",
  "FF78;30KU;30KE;30KO;30SA;30SI;30SU;30SE;30SO;30TA;30TI;30TU;30TE;30TO;30NA;30NI;30NU;30NE;30NO;30HA;30HI",
  "FF8C;30HU;30HE;30HO;30MA;30MI;30MU;30ME;30MO;30YA;30YU;30YO;30RA;30RI;30RU;30RE;30RO;30WA;30N",
  "FF9E;20VOICED SOUND MARK;22SEMI-VOICED;10HANGUL FILLER;20LETTER KIYEOK;30SSANGKIYEOK;30KIYEOK-SIOS",
  "FFA4;30NIEUN;30NIEUN-CIEUC;30NIEUN-HIEUH;30TIKEUT;30SSANGTIKEUT;30RIEUL;30RIEUL-KIYEOK;30RIEUL-MIEUM",
  "FFAC;30RIEUL-PIEUP;30RIEUL-SIOS;30RIEUL-THIEUTH;30RIEUL-PHIEUPH;30RIEUL-HIEUH;30MIEUM;30PIEUP",
  "FFB3;30SSANGPIEUP;30PIEUP-SIOS;30SIOS;30SSANGSIOS;30IEUNG;30CIEUC;30SSANGCIEUC;30CHIEUCH;30KHIEUKH",
  "FFBC;30THIEUTH;30PHIEUPH;30HIEUH",
  "FFC2;30A;30AE;30YA;30YAE;30EO;30E",
  "FFCA;30YEO;30YE;30O;30WA;30WAE;30OE",
  "FFD2;30YO;30U;30WEO;30WE;30WI;30YU",
  "FFDA;30EU;30YI;30I",
  "FFE0;00FULLWIDTH CENT SIGN;11POUND;11NOT;10MACRON;10BROKEN BAR;10YEN SIGN;11WON",
  "FFE8;00HALFWIDTH FORMS LIGHT VERTICAL;10LEFTWARDS ARROW;11UPWARDS;11RIGHTWARDS;11DOWNWARDS",
  "FFED;10BLACK SQUARE;10WHITE CIRCLE",
  "FFF9;00INTERLINEAR ANNOTATION ANCHOR;20SEPARATOR;20TERMINATOR;00OBJECT REPLACEMENT CHARACTER;02",
  "10000;00LINEAR B SYLLABLE B008 A;30B038 E;30B028 I;30B061 O;30B010 U;30B001 DA;30B045 DE;30B007 DI",
  "10008;30B014 DO;30B051 DU;30B057 JA;30B046 JE",
  "1000D;30B036 JO;30B065 JU;30B077 KA;30B044 KE;30B067 KI;30B070 KO;30B081 KU;30B080 MA;30B013 ME",
  "10016;30B073 MI;30B015 MO;30B023 MU;30B006 NA;30B024 NE;30B030 NI;30B052 NO;30B055 NU;30B003 PA",
  "1001F;30B072 PE;30B039 PI;30B011 PO;30B050 PU;30B016 QA;30B078 QE;30B021 QI;30B032 QO",
  "10028;30B060 RA;30B027 RE;30B053 RI;30B002 RO;30B026 RU;30B031 SA;30B009 SE;30B041 SI;30B012 SO",
  "10031;30B058 SU;30B059 TA;30B004 TE;30B037 TI;30B005 TO;30B069 TU;30B054 WA;30B075 WE;30B040 WI",
  "1003A;30B042 WO",
  "1003C;30B017 ZA;30B074 ZE",
  "1003F;30B020 ZO;30B025 A2;30B043 A3;30B085 AU;30B071 DWE;30B090 DWO;30B048 NWA;30B029 PU2;30B062 PTE",
  "10048;30B076 RA2;30B033 RA3;30B068 RO2;30B066 TA2;30B087 TWE;30B091 TWO",
  "10050;20SYMBOL B018;30B019;30B022;30B034;30B047;30B049;30B056;30B063;30B064;30B079;30B082;30B083;30B086",
  "1005D;30B089",
  "10080;20IDEOGRAM B100 MAN;30B102 WOMAN;30B104 DEER;30B105 EQUID;30B105F MARE;30B105M STALLION",
  "10086;30B106F EWE;30B106M RAM;30B107F SHE-GOAT;30B107M HE-GOAT;30B108F SOW;30B108M BOAR;30B109F COW",
  "1008D;30B109M BULL;30B120 WHEAT;30B121 BARLEY;30B122 OLIVE;30B123 SPICE;30B125 CYPERUS",
  "10093;20MONOGRAM B127 KAPO;30B128 KANAKO;20IDEOGRAM B130 OIL;30B131 WINE;30B132;20MONOGRAM B133 AREPA",
  "10099;30B135 MERI;20IDEOGRAM B140 BRONZE;30B141 GOLD;30B142;30B145 WOOL;30B146;30B150;30B151 HORN;30B152",
  "100A2;30B153;30B154;20MONOGRAM B156 TURO2;20IDEOGRAM B157;30B158;30B159 CLOTH;30B160;30B161",
  "100AA;30B162 GARMENT;30B163 ARMOUR;30B164;30B165;30B166;30B167;30B168;30B169;30B170;30B171;30B172",
  "100B5;30B173 MONTH;30B174;30B176 TREE;30B177;30B178;30B179;30B180;30B181;30B182;30B183;30B184;30B185",
  "100C1;30B189;30B190;30B191 HELMET;30B220 FOOTSTOOL;30B225 BATHTUB;30B230 SPEAR;30B231 ARROW;30B232",
  "100C9;30B233 SWORD;30B234;30B236;30B240 WHEELED CHARIOT;31B241;30B242 CHARIOT FRAME;30B243 WHEEL;30B245",
  "100D1;30B246;20MONOGRAM B247 DIPTE;20IDEOGRAM B248;30B249;30B251;30B252;30B253;30B254 DART;30B255;30B256",
  "100DB;30B257;30B258;30B259;30VESSEL B155;40B200;40B201;40B202;40B203;40B204;40B205;40B206;40B207;40B208",
  "100E8;40B209;40B210;40B211;40B212;40B213;40B214;40B215;40B216;40B217;40B218;40B219;40B221;40B222;40B226",
  "100F6;40B227;40B228;40B229;40B250;40B305",
  "10100;00AEGEAN WORD SEPARATOR LINE;30DOT;10CHECK MARK",
  "10107;10NUMBER ONE;20TWO;20THREE;20FOUR;20FIVE;20SIX;20SEVEN;20EIGHT;20NINE;20TEN;20TWENTY;20THIRTY",
  "10113;20FORTY;20FIFTY;20SIXTY;20SEVENTY;20EIGHTY;20NINETY;20ONE HUNDRED;21TWO;21THREE;21FOUR;21FIVE",
  "1011E;21SIX;21SEVEN;21EIGHT;21NINE;20ONE THOUSAND;21TWO;21THREE;21FOUR;21FIVE;21SIX;21SEVEN;21EIGHT",
  "1012A;21NINE;21TEN;21TWENTY;21THIRTY;21FORTY;21FIFTY;21SIXTY;21SEVENTY;21EIGHTY;21NINETY",
  "10137;10WEIGHT BASE UNIT;20FIRST SUBUNIT;21SECOND;21THIRD;21FOURTH;11DRY MEASURE FIRST;13LIQUID",
  "1013E;11MEASURE SECOND;21THIRD;00GREEK ACROPHONIC ATTIC ONE QUARTER;40HALF;40DRACHMA;30FIVE;30FIFTY",
  "10145;30FIVE HUNDRED;40THOUSAND;31FIFTY;30FIVE TALENTS;31TEN;31FIFTY;31ONE HUNDRED;32FIVE;31ONE THOUSAND",
  "1014E;32FIVE;40STATERS;31TEN;31FIFTY;31ONE HUNDRED;32FIVE;31ONE THOUSAND;32TEN;32FIFTY;30TEN MNAS",
  "10158;20HERAEUM ONE PLETHRON;20THESPIAN ONE;21HERMIONIAN;20EPIDAUREAN TWO;21THESPIAN",
  "1015D;20CYRENAIC TWO DRACHMAS;22EPIDAUREAN;20TROEZENIAN FIVE;30TEN;40ALTERNATE FORM;20HERMIONIAN TEN",
  "10163;21MESSENIAN;21THESPIAN;30THIRTY;20TROEZENIAN FIFTY;40ALTERNATE FORM;20HERMIONIAN FIFTY;21THESPIAN",
  "1016A;30ONE HUNDRED;31THREE;21EPIDAUREAN FIVE;22TROEZENIAN;22THESPIAN;22CARYSTIAN;22NAXIAN",
  "10171;20THESPIAN ONE THOUSAND;31FIVE;20DELPHIC FIVE MNAS;21STRATIAN FIFTY;10ONE HALF SIGN",
  "10176;40ALTERNATE FORM;10TWO THIRDS SIGN;11THREE QUARTERS;11YEAR;11TALENT;11DRACHMA;11OBOL;11TWO OBOLS",
  "1017E;12THREE;12FOUR;12FIVE;11METRETES;11KYATHOS BASE;11LITRA;11OUNKIA;11XESTES;11ARTABE;11AROURA",
  "10188;11GRAMMA;11TRYBLION BASE;11ZERO;11ONE QUARTER;11SINUSOID;11INDICTION;01NOMISMA",
  "10190;01ROMAN SEXTANS;11UNCIA;11SEMUNCIA;11SEXTULA;12DIMIDIA;11SILIQUA;11DENARIUS;11QUINARIUS",
  "10198;11SESTERTIUS;11DUPONDIUS;11AS;11CENTURIAL;00ASCIA SYMBOL",
  "101A0;00GREEK SYMBOL TAU RHO",
  "101D0;00PHAISTOS DISC SIGN PEDESTRIAN;30PLUMED HEAD;31TATTOOED;30CAPTIVE;30CHILD;30WOMAN;30HELMET",
  "101D7;30GAUNTLET;30TIARA;30ARROW;30BOW;30SHIELD;30CLUB;30MANACLES;30MATTOCK;30SAW;30LID;30BOOMERANG",
  "101E2;30CARPENTRY PLANE;30DOLIUM;30COMB;30SLING;30COLUMN;30BEEHIVE;30SHIP;30HORN;30HIDE;30BULLS LEG",
  "101EC;30CAT;30RAM;30EAGLE;30DOVE;30TUNNY;30BEE;30PLANE TREE;30VINE;30PAPYRUS;30ROSETTE;30LILY;30OX BACK",
  "101F8;30FLUTE;30GRATER;30STRAINER;30SMALL AXE;30WAVY BAND;30COMBINING OBLIQUE STROKE",
  "10280;00LYCIAN LETTER A;20E;20B;20BH;20G;20D;20I;20W;20Z;20TH;20J;20K;20Q;20L;20M;20N;20MM;20NN;20U;20P",
  "10294;20KK;20R;20S;20T;20TT;20AN;20EN;20H;20X",
  "102A0;00CARIAN LETTER A;20P2;20D;20L;20UUU;20R;20LD;20A2;20Q;20B;20M;20O;20D2;20T;20SH;20SH2;20S;20C-18",
  "102B2;20U;20NN;20X;20N;20TT2;20P;20SS;20I;20E;20UUUU;20K;20K2;20ND;20UU;20G;20G2;20ST;20ST2;20NG;20II",
  "102C6;20C-39;20TT;20UUU2;20RR;20MB;20MB2;20MB3;20MB4;20LD2;20E2;20UUU3",
  "102E0;00COPTIC EPACT THOUSANDS MARK;20DIGIT ONE;30TWO;30THREE;30FOUR;30FIVE;30SIX;30SEVEN;30EIGHT;30NINE",
  "102EA;20NUMBER TEN;30TWENTY;30THIRTY;30FORTY;30FIFTY;30SIXTY;30SEVENTY;30EIGHTY;30NINETY;30ONE HUNDRED",
  "102F4;31TWO;31THREE;31FOUR;31FIVE;31SIX;31SEVEN;31EIGHT;31NINE",
  "10300;00OLD ITALIC LETTER A;30BE;30KE;30DE;30E;30VE;30ZE;30HE;30THE;30I;30KA;30EL;30EM;30EN;30ESH;30O",
  "10310;30PE;30SHE;30KU;30ER;30ES;30TE;30U;30EKS;30PHE;30KHE;30EF;30ERS;30CHE;30II;30UU;30ESS",
  "10320;20NUMERAL ONE;30FIVE;30TEN;30FIFTY",
  "1032D;20LETTER YE;30NORTHERN TSE;31SOUTHERN;00GOTHIC LETTER AHSA;20BAIRKAN;20GIBA;20DAGS;20AIHVUS",
  "10335;20QAIRTHRA;20IUJA;20HAGL;20THIUTH;20EIS;20KUSMA;20LAGUS;20MANNA;20NAUTHS;20JER;20URUS;20PAIRTHRA",
  "10341;20NINETY;20RAIDA;20SAUIL;20TEIWS;20WINJA;20FAIHU;20IGGWS;20HWAIR;20OTHAL;20NINE HUNDRED",
  "10350;00OLD PERMIC LETTER AN;30BUR;30GAI;30DOI;30E;30ZHOI;30DZHOI;30ZATA;30DZITA;30I;30KOKE;30LEI",
  "1035C;30MENOE;30NENOE;30VOOI;30PEEI;30REI;30SII;30TAI;30U;30CHERY;30SHOOI;30SHCHOOI;30YRY;30YERU;30O",
  "1036A;30OO;30EF;30HA;30TSIU;30VER;30YER;30YERI;30YAT;30IE;30YU;30YA;30IA",
  "10376;00COMBINING OLD PERMIC LETTER AN;40DOI;40ZATA;40NENOE;40SII",
  "10380;00UGARITIC LETTER ALPA;20BETA;20GAMLA;20KHA;20DELTA;20HO;20WO;20ZETA;20HOTA;20TET;20YOD;20KAF",
  "1038C;20SHIN;20LAMDA;20MEM;20DHAL;20NUN;20ZU;20SAMKA;20AIN;20PU;20SADE;20QOPA;20RASHA;20THANNA;20GHAIN",
  "1039A;20TO;20I;20U;20SSU",
  "1039F;10WORD DIVIDER;00OLD PERSIAN SIGN A;30I;30U;30KA;30KU;30GA;30GU;30XA;30CA;30JA;30JI;30TA;30TU;30DA",
  "103AE;30DI;30DU;30THA;30PA;30BA;30FA;30NA;30NU;30MA;30MI;30MU;30YA;30VA;30VI;30RA;30RU;30LA;30SA;30ZA",
  "103C1;30SHA;30SSA;30HA",
  "103C8;30AURAMAZDAA;30AURAMAZDAA-2;30AURAMAZDAAHA;30XSHAAYATHIYA;30DAHYAAUSH;30DAHYAAUSH-2;30BAGA",
  "103CF;30BUUMISH;20WORD DIVIDER;20NUMBER ONE;30TWO;30TEN;30TWENTY;30HUNDRED",
  "10400;00DESERET CAPITAL LETTER LONG I;40E;40A;40AH;40O;40OO;30SHORT I;40E;40A;40AH;40O;40OO;30AY;30OW",
  "1040E;30WU;30YEE;30H;30PEE;30BEE;30TEE;30DEE;30CHEE;30JEE;30KAY;30GAY;30EF;30VEE;30ETH;30THEE;30ES;30ZEE",
  "1041F;30ESH;30ZHEE;30ER;30EL;30EM;30EN;30ENG;30OI;30EW;10SMALL LETTER LONG I;40E;40A;40AH;40O;40OO",
  "1042E;30SHORT I;40E;40A;40AH;40O;40OO;30AY;30OW;30WU;30YEE;30H;30PEE;30BEE;30TEE;30DEE;30CHEE;30JEE",
  "1043F;30KAY;30GAY;30EF;30VEE;30ETH;30THEE;30ES;30ZEE;30ESH;30ZHEE;30ER;30EL;30EM;30EN;30ENG;30OI;30EW",
  "10450;00SHAVIAN LETTER PEEP;20TOT;20KICK;20FEE;20THIGH;20SO;20SURE;20CHURCH;20YEA;20HUNG;20BIB;20DEAD",
  "1045C;20GAG;20VOW;20THEY;20ZOO;20MEASURE;20JUDGE;20WOE;20HA-HA;20LOLL;20MIME;20IF;20EGG;20ASH;20ADO;20ON",
  "1046B;20WOOL;20OUT;20AH;20ROAR;20NUN;20EAT;20AGE;20ICE;20UP;20OAK;20OOZE;20OIL;20AWE;20ARE;20OR;20AIR",
  "1047B;20ERR;20ARRAY;20EAR;20IAN;20YEW;00OSMANYA LETTER ALEF;20BA;20TA;20JA;20XA;20KHA;20DEEL;20RA;20SA",
  "10489;20SHIIN;20DHA;20CAYN;20GA;20FA;20QAAF;20KAAF;20LAAN;20MIIN;20NUUN;20WAW;20HA;20YA;20A;20E;20I;20O",
  "1049A;20U;20AA;20EE;20OO",
  "104A0;10DIGIT ZERO;20ONE;20TWO;20THREE;20FOUR;20FIVE;20SIX;20SEVEN;20EIGHT;20NINE",
  "104B0;00OSAGE CAPITAL LETTER A;30AI;30AIN;30AH;30BRA;30CHA;30EHCHA;30E;30EIN;30HA;30HYA;30I;30KA;30EHKA",
  "104BE;30KYA;30LA;30MA;30NA;30O;30OIN;30PA;30EHPA;30SA;30SHA;30TA;30EHTA;30TSA;30EHTSA;30TSHA;30DHA;30U",
  "104CF;30WA;30KHA;30GHA;30ZA;30ZHA",
  "104D8;10SMALL LETTER A;30AI;30AIN;30AH;30BRA;30CHA;30EHCHA;30E;30EIN;30HA;30HYA;30I;30KA;30EHKA;30KYA",
  "104E7;30LA;30MA;30NA;30O;30OIN;30PA;30EHPA;30SA;30SHA;30TA;30EHTA;30TSA;30EHTSA;30TSHA;30DHA;30U;30WA",
  "104F8;30KHA;30GHA;30ZA;30ZHA",
  "10500;00ELBASAN LETTER A;20BE;20CE;20CHE;20DE;20NDE;20DHE;20EI;20E;20FE;20GE;20GJE;20HE;20I;20JE;20KE",
  "10510;20LE;20LLE;20ME;20NE;20NA;20NJE;20O;20PE;20QE;20RE;20RRE;20SE;20SHE;20TE;20THE;20U;20VE;20XE;20Y",
  "10523;20ZE;20ZHE;20GHE;20GHAMMA;20KHE",
  "10530;00CAUCASIAN ALBANIAN LETTER ALT;30BET;30GIM;30DAT;30EB;30ZARL;30EYN;30ZHIL;30TAS;30CHA;30YOWD",
  "1053B;30ZHA;30IRB;30SHA;30LAN;30INYA;30XEYN;30DYAN;30CAR;30JHOX;30KAR;30LYIT;30HEYT;30QAY;30AOR;30CHOY",
  "1054A;30CHI;30CYAY;30MAQ;30QAR;30NOWC;30DZYAY;30SHAK;30JAYN;30ON;30TYAY;30FAM;30DZAY;30CHAT;30PEN",
  "10558;30GHEYS;30RAT;30SEYK;30VEYZ;30TIWR;30SHOY;30IWN;30CYAW;30CAYN;30YAYD;30PIWR;30KIW",
  "1056F;20CITATION MARK;00VITHKUQI CAPITAL LETTER A;30BBE;30BE;30CE;30CHE;30DE;30DHE;30EI;30E;30FE;30GA",
  "1057C;30HA;30HHA;30I;30IJE;30JE;30KA;30LA;30LLA;30ME;30NE;30NJE;30O;30PE;30QA;30RE",
  "1058C;30SE;30SHE;30TE;30THE;30U;30VE;30XE",
  "10594;30Y;30ZE",
  "10597;10SMALL LETTER A;30BBE;30BE;30CE;30CHE;30DE;30DHE;30EI;30E;30FE;30GA",
  "105A3;30HA;30HHA;30I;30IJE;30JE;30KA;30LA;30LLA;30ME;30NE;30NJE;30O;30PE;30QA;30RE",
  "105B3;30SE;30SHE;30TE;30THE;30U;30VE;30XE",
  "105BB;30Y;30ZE",
  "10600;00LINEAR A SIGN AB001;30AB002;30AB003;30AB004;30AB005;30AB006;30AB007;30AB008;30AB009;30AB010",
  "1060A;30AB011;30AB013;30AB016;30AB017;30AB020;30AB021;30AB021F;30AB021M;30AB022;30AB022F;30AB022M",
  "10615;30AB023;30AB023M;30AB024;30AB026;30AB027;30AB028;30A028B;30AB029;30AB030;30AB031;30AB034;30AB037",
  "10621;30AB038;30AB039;30AB040;30AB041;30AB044;30AB045;30AB046;30AB047;30AB048;30AB049;30AB050;30AB051",
  "1062D;30AB053;30AB054;30AB055;30AB056;30AB057;30AB058;30AB059;30AB060;30AB061;30AB065;30AB066;30AB067",
  "10639;30AB069;30AB070;30AB073;30AB074;30AB076;30AB077;30AB078;30AB079;30AB080;30AB081;30AB082;30AB085",
  "10645;30AB086;30AB087;30A100-102;30AB118;30AB120;30A120B;30AB122;30AB123;30AB131A;30AB131B;30A131C",
  "10650;30AB164;30AB171;30AB180;30AB188;30AB191;30A301;30A302;30A303;30A304;30A305;30A306;30A307;30A308",
  "1065D;30A309A;30A309B;30A309C;30A310;30A311;30A312;30A313A;30A313B;30A313C;30A314;30A315;30A316;30A317",
  "1066A;30A318;30A319;30A320;30A321;30A322;30A323;30A324;30A325;30A326;30A327;30A328;30A329;30A330;30A331",
  "10678;30A332;30A333;30A334;30A335;30A336;30A337;30A338;30A339;30A340;30A341;30A342;30A343;30A344;30A345",
  "10686;30A346;30A347;30A348;30A349;30A350;30A351;30A352;30A353;30A354;30A355;30A356;30A357;30A358;30A359",
  "10694;30A360;30A361;30A362;30A363;30A364;30A365;30A366;30A367;30A368;30A369;30A370;30A371;30A400-VAS",
  "106A1;30A401-VAS;30A402-VAS;30A403-VAS;30A404-VAS;30A405-VAS;30A406-VAS;30A407-VAS;30A408-VAS;30A409-VAS",
  "106AA;30A410-VAS;30A411-VAS;30A412-VAS;30A413-VAS;30A414-VAS;30A415-VAS;30A416-VAS;30A417-VAS;30A418-VAS",
  "106B3;30A501;30A502;30A503;30A504;30A505;30A506;30A508;30A509;30A510;30A511;30A512;30A513;30A515;30A516",
  "106C1;30A520;30A521;30A523;30A524;30A525;30A526;30A527;30A528;30A529;30A530;30A531;30A532;30A534;30A535",
  "106CF;30A536;30A537;30A538;30A539;30A540;30A541;30A542;30A545;30A547;30A548;30A549;30A550;30A551;30A552",
  "106DD;30A553;30A554;30A555;30A556;30A557;30A559;30A563;30A564;30A565;30A566;30A568;30A569;30A570;30A571"]

private def characterNameRows16 : List String := [
  "106EB;30A572;30A573;30A574;30A575;30A576;30A577;30A578;30A579;30A580;30A581;30A582;30A583;30A584;30A585",
  "106F9;30A586;30A587;30A588;30A589;30A591;30A592;30A594;30A595;30A596;30A598;30A600;30A601;30A602;30A603",
  "10707;30A604;30A606;30A608;30A609;30A610;30A611;30A612;30A613;30A614;30A615;30A616;30A617;30A618;30A619",
  "10715;30A620;30A621;30A622;30A623;30A624;30A626;30A627;30A628;30A629;30A634;30A637;30A638;30A640;30A642",
  "10723;30A643;30A644;30A645;30A646;30A648;30A649;30A651;30A652;30A653;30A654;30A655;30A656;30A657;30A658",
  "10731;30A659;30A660;30A661;30A662;30A663;30A664",
  "10740;30A701 A;30A702 B;30A703 D;30A704 E;30A705 F;30A706 H;30A707 J;30A708 K;30A709 L;30A709-2 L2",
  "1074A;30A709-3 L3;30A709-4 L4;30A709-6 L6;30A710 W;30A711 X;30A712 Y;30A713 OMEGA;30A714 ABB;30A715 BB",
  "10753;30A717 DD;30A726 EYYY;30A732 JE",
  "10760;30A800;30A801;30A802;30A803;30A804;30A805;30A806;30A807",
  "10780;00MODIFIER LETTER SMALL CAPITAL AA;20SUPERSCRIPT TRIANGULAR COLON;32HALF;20SMALL AE;30CAPITAL B",
  "10785;30B WITH HOOK",
  "10787;30DZ DIGRAPH;50WITH RETROFLEX HOOK;60CURL;30DEZH DIGRAPH;30D WITH TAIL;50HOOK;60AND TAIL",
  "1078E;30REVERSED E;31CLOSED REVERSED OPEN;30FENG DIGRAPH;30RAMS HORN;30CAPITAL G;30G WITH HOOK;33CAPITAL",
  "10795;30H WITH STROKE;30CAPITAL H;30HENG WITH HOOK;31DOTLESS J WITH STROKE AND;30LS DIGRAPH;31LZ",
  "1079B;30L WITH BELT;33CAPITAL;31L WITH RETROFLEX HOOK AND;30LEZH;40WITH RETROFLEX HOOK;30TURNED Y",
  "107A1;50WITH BELT;30O WITH STROKE;30CAPITAL OE;30CLOSED OMEGA;30Q;30TURNED R WITH LONG LEG",
  "107A7;80AND RETROFLEX HOOK;30R WITH TAIL;50FISHHOOK;30CAPITAL R;30TC DIGRAPH WITH CURL;30TS DIGRAPH",
  "107AD;50WITH RETROFLEX HOOK;30TESH DIGRAPH;30T WITH RETROFLEX HOOK;31V WITH RIGHT",
  "107B2;30CAPITAL Y;20GLOTTAL STOP WITH STROKE;24REVERSED;20BILABIAL CLICK;21DENTAL;21LATERAL;21ALVEOLAR",
  "107B9;20RETROFLEX CLICK WITH RETROFLEX HOOK;20SMALL S WITH CURL",
  "10800;00CYPRIOT SYLLABLE A;20E;20I;20O;20U;20JA",
  "10808;20JO",
  "1080A;20KA;20KE;20KI;20KO;20KU;20LA;20LE;20LI;20LO;20LU;20MA;20ME;20MI;20MO;20MU;20NA;20NE;20NI;20NO",
  "1081D;20NU;20PA;20PE;20PI;20PO;20PU;20RA;20RE;20RI;20RO;20RU;20SA;20SE;20SI;20SO;20SU;20TA;20TE;20TI",
  "10830;20TO;20TU;20WA;20WE;20WI;20WO",
  "10837;20XA;20XE",
  "1083C;20ZA",
  "1083F;20ZO;00IMPERIAL ARAMAIC LETTER ALEPH;30BETH;30GIMEL;30DALETH;30HE;30WAW;30ZAYIN;30HETH;30TETH",
  "10849;30YODH;30KAPH;30LAMEDH;30MEM;30NUN;30SAMEKH;30AYIN;30PE;30SADHE;30QOPH;30RESH;30SHIN;30TAW",
  "10857;20SECTION SIGN;20NUMBER ONE;30TWO;30THREE;30TEN;30TWENTY;30ONE HUNDRED;40THOUSAND;31TEN",
  "10860;00PALMYRENE LETTER ALEPH;20BETH;20GIMEL;20DALETH;20HE;20WAW;20ZAYIN;20HETH;20TETH;20YODH;20KAPH",
  "1086B;20LAMEDH;20MEM;20FINAL NUN;21;20SAMEKH;20AYIN;20PE;20SADHE;20QOPH;20RESH;20SHIN;20TAW",
  "10877;10LEFT-POINTING FLEURON;11RIGHT-POINTING;10NUMBER ONE;20TWO;20THREE;20FOUR;20FIVE;20TEN;20TWENTY",
  "10880;00NABATAEAN LETTER FINAL ALEPH;21;20FINAL BETH;21;20GIMEL;20DALETH;20FINAL HE;21;20WAW;20ZAYIN",
  "1088A;20HETH;20TETH;20FINAL YODH;21;20FINAL KAPH;21;20FINAL LAMEDH;21;20FINAL MEM;21;20FINAL NUN;21",
  "10896;20SAMEKH;20AYIN;20PE;20SADHE;20QOPH;20RESH;20FINAL SHIN;21;20TAW",
  "108A7;10NUMBER ONE;20TWO;20THREE;20FOUR;12CRUCIFORM;10NUMBER FIVE;20TEN;20TWENTY;20ONE HUNDRED",
  "108E0;00HATRAN LETTER ALEPH;20BETH;20GIMEL;20DALETH-RESH;20HE;20WAW;20ZAYN;20HETH;20TETH;20YODH;20KAPH",
  "108EB;20LAMEDH;20MEM;20NUN;20SAMEKH;20AYN;20PE;20SADHE;20QOPH",
  "108F4;20SHIN;20TAW",
  "108FB;10NUMBER ONE;20FIVE;20TEN;20TWENTY;20ONE HUNDRED;00PHOENICIAN LETTER ALF;20BET;20GAML;20DELT;20HE",
  "10905;20WAU;20ZAI;20HET;20TET;20YOD;20KAF;20LAMD;20MEM;20NUN;20SEMK;20AIN;20PE;20SADE;20QOF;20ROSH",
  "10914;20SHIN;20TAU;10NUMBER ONE;20TEN;20TWENTY;20ONE HUNDRED;20TWO;20THREE",
  "1091F;10WORD SEPARATOR;00LYDIAN LETTER A;20B;20G;20D;20E;20V;20I;20Y;20K;20L;20M;20N;20O;20R;20SS;20T",
  "10930;20U;20F;20Q;20S;20TT;20AN;20EN;20LY;20NN;20C",
  "1093F;10TRIANGULAR MARK",
  "10980;00MEROITIC HIEROGLYPHIC LETTER A;30E;30I;30O;30YA;30WA;30BA;30BA-2;30PA;30MA;30NA;30NA-2;30NE",
  "1098D;30NE-2;30RA;30RA-2;30LA;30KHA;30HHA;30SA;30SA-2;30SE;30KA;30QA;30TA;30TA-2;30TE;30TE-2;30TO;30DA",
  "1099E;20SYMBOL VIDJ;30VIDJ-2;10CURSIVE LETTER A;30E;30I;30O;30YA;30WA;30BA;30PA;30MA;30NA;30NE;30RA;30LA",
  "109AD;30KHA;30HHA;30SA;31ARCHAIC;30SE;30KA;30QA;30TA;30TE;30TO;30DA",
  "109BC;20FRACTION ELEVEN TWELFTHS;30ONE HALF;20LOGOGRAM RMT;30IMN;20NUMBER ONE;30TWO;30THREE;30FOUR",
  "109C4;30FIVE;30SIX;30SEVEN;30EIGHT;30NINE;30TEN;30TWENTY;30THIRTY;30FORTY;30FIFTY;30SIXTY;30SEVENTY",
  "109D2;30ONE HUNDRED;31TWO;31THREE;31FOUR;31FIVE;31SIX;31SEVEN;31EIGHT;31NINE;30ONE THOUSAND;31TWO",
  "109DD;31THREE;31FOUR;31FIVE;31SIX;31SEVEN;31EIGHT;31NINE;31TEN;31TWENTY;31THIRTY;31FORTY;31FIFTY;31SIXTY",
  "109EA;31SEVENTY;31EIGHTY;31NINETY;31ONE HUNDRED;32TWO;32THREE;32FOUR;32FIVE;32SIX;32SEVEN;32EIGHT;32NINE",
  "109F6;20FRACTION ONE TWELFTH;30TWO TWELFTHS;31THREE;31FOUR;31FIVE;31SIX;31SEVEN;31EIGHT;31NINE;31TEN",
  "10A00;00KHAROSHTHI LETTER A;10VOWEL SIGN I;30U;30VOCALIC R",
  "10A05;30E;30O",
  "10A0C;20LENGTH MARK;10SIGN DOUBLE RING BELOW;20ANUSVARA;20VISARGA;10LETTER KA;20KHA;20GA;20GHA",
  "10A15;20CA;20CHA;20JA",
  "10A19;20NYA;20TTA;20TTHA;20DDA;20DDHA;20NNA;20TA;20THA;20DA;20DHA;20NA;20PA;20PHA;20BA;20BHA;20MA;20YA",
  "10A2A;20RA;20LA;20VA;20SHA;20SSA;20SA;20ZA;20HA;20KKA;20TTTHA;20TTTA;20VHA",
  "10A38;10SIGN BAR ABOVE;20CAUDA;20DOT BELOW",
  "10A3F;10VIRAMA;10DIGIT ONE;20TWO;20THREE;20FOUR;10NUMBER TEN;20TWENTY;20ONE HUNDRED;30THOUSAND",
  "10A48;10FRACTION ONE HALF",
  "10A50;10PUNCTUATION DOT;20SMALL CIRCLE;21;20CRESCENT BAR;20MANGALAM;20LOTUS;20DANDA;21DOUBLE;20LINES",
  "10A60;00OLD SOUTH ARABIAN LETTER HE;40LAMEDH;40HETH;40MEM;40QOPH;40WAW;40SHIN;40RESH;40BETH;40TAW;40SAT",
  "10A6B;40KAPH;40NUN;40KHETH;40SADHE;40SAMEKH;40FE;40ALEF;40AYN;40DHADHE;40GIMEL;40DALETH;40GHAYN;40TETH",
  "10A78;40ZAYN;40DHALETH;40YODH;40THAW;40THETH;30NUMBER ONE;40FIFTY;30NUMERIC INDICATOR",
  "10A80;10NORTH ARABIAN LETTER HEH;40LAM;40HAH;40MEEM;40QAF;40WAW;40ES-2;40REH;40BEH;40TEH;40ES-1;40KAF",
  "10A8C;40NOON;40KHAH;40SAD;40ES-3;40FEH;40ALEF;40AIN;40DAD;40GEEM;40DAL;40GHAIN;40TAH;40ZAIN;40THAL;40YEH",
  "10A9B;40THEH;40ZAH;30NUMBER ONE;40TEN;40TWENTY",
  "10AC0;00MANICHAEAN LETTER ALEPH;20BETH;20BHETH;20GIMEL;20GHIMEL;20DALETH;20HE;20WAW;10SIGN UD",
  "10AC9;10LETTER ZAYIN;20ZHAYIN;20JAYIN;20JHAYIN;20HETH;20TETH;20YODH;20KAPH;20XAPH;20KHAPH;20LAMEDH",
  "10AD4;20DHAMEDH;20THAMEDH;20MEM;20NUN;20SAMEKH;20AYIN;20AAYIN;20PE;20FE;20SADHE;20QOPH;20XOPH;20QHOPH",
  "10AE1;20RESH;20SHIN;20SSHIN;20TAW;10ABBREVIATION MARK ABOVE;30BELOW",
  "10AEB;10NUMBER ONE;20FIVE;20TEN;20TWENTY;20ONE HUNDRED;10PUNCTUATION STAR;20FLEURON",
  "10AF2;20DOUBLE DOT WITHIN DOT;23;30;20TWO DOTS;20LINE FILLER",
  "10B00;00AVESTAN LETTER A;20AA;20AO;20AAO;20AN;20AAN;20AE;20AEE;20E;20EE;20O;20OO;20I;20II;20U;20UU;20KE",
  "10B11;20XE;20XYE;20XVE;20GE;20GGE;20GHE;20CE;20JE;20TE;20THE;20DE;20DHE;20TTE;20PE;20FE;20BE;20BHE;20NGE",
  "10B23;20NGYE;20NGVE;20NE;20NYE;20NNE;20ME;20HME;20YYE;20YE;20VE;20RE;20LE;20SE;20ZE;20SHE;20ZHE;20SHYE",
  "10B34;20SSHE;20HE",
  "10B39;10ABBREVIATION MARK;00TINY TWO DOTS OVER ONE DOT PUNCTUATION;06SMALL;06LARGE",
  "10B3D;11ONE DOT OVER TWO DOTS;11TWO RINGS OVER ONE RING;11ONE RING OVER TWO RINGS",
  "10B40;00INSCRIPTIONAL PARTHIAN LETTER ALEPH;30BETH;30GIMEL;30DALETH;30HE;30WAW;30ZAYIN;30HETH;30TETH",
  "10B49;30YODH;30KAPH;30LAMEDH;30MEM;30NUN;30SAMEKH;30AYIN;30PE;30SADHE;30QOPH;30RESH;30SHIN;30TAW",
  "10B58;20NUMBER ONE;30TWO;30THREE;30FOUR;30TEN;30TWENTY;30ONE HUNDRED;40THOUSAND;10PAHLAVI LETTER ALEPH",
  "10B61;30BETH;30GIMEL;30DALETH;30HE;30WAW-AYIN-RESH;30ZAYIN;30HETH;30TETH;30YODH;30KAPH;30LAMEDH",
  "10B6C;30MEM-QOPH;30NUN;30SAMEKH;30PE;30SADHE;30SHIN;30TAW",
  "10B78;20NUMBER ONE;30TWO;30THREE;30FOUR;30TEN;30TWENTY;30ONE HUNDRED;40THOUSAND",
  "10B80;00PSALTER PAHLAVI LETTER ALEPH;30BETH;30GIMEL;30DALETH;30HE;30WAW-AYIN-RESH;30ZAYIN;30HETH;30YODH",
  "10B89;30KAPH;30LAMEDH;30MEM-QOPH;30NUN;30SAMEKH;30PE;30SADHE;30SHIN;30TAW",
  "10B99;20SECTION MARK;22TURNED;20FOUR DOTS WITH CROSS;50DOT",
  "10BA9;20NUMBER ONE;30TWO;30THREE;30FOUR;30TEN;30TWENTY;30ONE HUNDRED",
  "10C00;00OLD TURKIC LETTER ORKHON A;31YENISEI;40AE;30ORKHON I;31YENISEI;40E;30ORKHON O;40OE;31YENISEI",
  "10C09;30ORKHON AB;31YENISEI;30ORKHON AEB;31YENISEI;30ORKHON AG;31YENISEI;30ORKHON AEG;31YENISEI",
  "10C11;30ORKHON AD;31YENISEI;30ORKHON AED;40EZ;31YENISEI;30ORKHON AY;31YENISEI;30ORKHON AEY;31YENISEI",
  "10C1A;30ORKHON AEK;31YENISEI;30ORKHON OEK;31YENISEI;30ORKHON AL;31YENISEI;30ORKHON AEL;40ELT;40EM;40AN",
  "10C24;40AEN;31YENISEI;30ORKHON ENT;31YENISEI;30ORKHON ENC;31YENISEI;30ORKHON ENY;31YENISEI;40ANG",
  "10C2D;30ORKHON ENG;30YENISEI AENG;30ORKHON EP;40OP;40IC;40EC;31YENISEI;30ORKHON AQ;31YENISEI;30ORKHON IQ",
  "10C37;31YENISEI;30ORKHON OQ;31YENISEI;30ORKHON AR;31YENISEI;30ORKHON AER;40AS;40AES;40ASH;31YENISEI",
  "10C41;30ORKHON ESH;31YENISEI;30ORKHON AT;31YENISEI;30ORKHON AET;31YENISEI;30ORKHON OT;40BASH",
  "10C80;10HUNGARIAN CAPITAL LETTER A;40AA;40EB;40AMB;40EC;40ENC;40ECS;40ED;40AND;40E;41CLOSE;40EE;40EF",
  "10C8D;40EG;40EGY;40EH;40I;40II;40EJ;40EK;40AK;40UNK;40EL;40ELY;40EM;40EN;40ENY;40O;40OO;40NIKOLSBURG OE",
  "10C9E;41RUDIMENTA;40OEE;40EP;40EMP;40ER;41SHORT;40ES;40ESZ;40ET;40ENT;40ETY;40ECH;40U;40UU",
  "10CAC;40NIKOLSBURG UE;41RUDIMENTA;40EV;40EZ;40EZS;40ENT-SHAPED SIGN;40US",
  "10CC0;20SMALL LETTER A;40AA;40EB;40AMB;40EC;40ENC;40ECS;40ED;40AND;40E;41CLOSE;40EE;40EF;40EG;40EGY;40EH",
  "10CD0;40I;40II;40EJ;40EK;40AK;40UNK;40EL;40ELY;40EM;40EN;40ENY;40O;40OO;40NIKOLSBURG OE;41RUDIMENTA",
  "10CDF;40OEE;40EP;40EMP;40ER;41SHORT;40ES;40ESZ;40ET;40ENT;40ETY;40ECH;40U;40UU;40NIKOLSBURG UE",
  "10CED;41RUDIMENTA;40EV;40EZ;40EZS;40ENT-SHAPED SIGN;40US",
  "10CFA;20NUMBER ONE;30FIVE;30TEN;30FIFTY;30ONE HUNDRED;40THOUSAND;00HANIFI ROHINGYA LETTER A;30BA;30PA",
  "10D03;30TA;30TTA;30JA;30CA;30HA;30KHA;30FA;30DA;30DDA;30RA;30RRA;30ZA;30SA;30SHA;30KA;30GA;30LA;30MA",
  "10D15;30NA;30WA;31KINNA;30YA;31KINNA;30NGA;30NYA;30VA;20VOWEL A;30I;30U;30E;30O;20MARK SAKIN;30NA KHONNA",
  "10D24;20SIGN HARBAHAY;30TAHALA;30TANA;30TASSI",
  "10D30;20DIGIT ZERO;30ONE;30TWO;30THREE;30FOUR;30FIVE;30SIX;30SEVEN;30EIGHT;30NINE",
  "10E60;00RUMI DIGIT ONE;20TWO;20THREE;20FOUR;20FIVE;20SIX;20SEVEN;20EIGHT;20NINE;10NUMBER TEN;20TWENTY",
  "10E6B;20THIRTY;20FORTY;20FIFTY;20SIXTY;20SEVENTY;20EIGHTY;20NINETY;20ONE HUNDRED;21TWO;21THREE;21FOUR",
  "10E76;21FIVE;21SIX;21SEVEN;21EIGHT;21NINE;10FRACTION ONE HALF;30QUARTER;30THIRD;20TWO THIRDS",
  "10E80;00YEZIDI LETTER ELIF;20BE;20PE;20PHE;20THE;20SE;20CIM;20CHIM;20CHHIM;20HHA;20XA;20DAL;20ZAL;20RA",
  "10E8E;20RHA;20ZA;20JA;20SIN;20SHIN;20SAD;20DAD;20TA;20ZE;20EYN;20XHEYN;20FA;20VA;30ALTERNATE FORM;20QAF",
  "10E9D;20KAF;20KHAF;20GAF;20LAM;20MIM;20NUN;20UM;20WAW;20OW;20EW;20HAY;20YOT;20ET",
  "10EAB;10COMBINING HAMZA MARK;21MADDA;11HYPHENATION",
  "10EB0;10LETTER LAM WITH DOT ABOVE;21YOT WITH CIRCUMFLEX",
  "10F00;00OLD SOGDIAN LETTER ALEPH;31FINAL;30BETH;31FINAL;30GIMEL;30HE;31FINAL;30WAW;30ZAYIN;30HETH;30YODH",
  "10F0B;30KAPH;30LAMEDH;30MEM;30NUN;31FINAL;50WITH VERTICAL TAIL;30SAMEKH;30AYIN;31ALTERNATE;30PE;30SADHE",
  "10F16;31FINAL;50WITH VERTICAL TAIL;30RESH-AYIN-DALETH;30SHIN;30TAW;31FINAL;50WITH VERTICAL TAIL",
  "10F1D;20NUMBER ONE;30TWO;30THREE;30FOUR;30FIVE;30TEN;30TWENTY;30THIRTY;30ONE HUNDRED;20FRACTION ONE HALF",
  "10F27;20LIGATURE AYIN-DALETH",
  "10F30;00SOGDIAN LETTER ALEPH;20BETH;20GIMEL;20HE;20WAW;20ZAYIN;20HETH;20YODH;20KAPH;20LAMEDH;20MEM;20NUN",
  "10F3C;20SAMEKH;20AYIN;20PE;20SADHE;20RESH-AYIN;20SHIN;20TAW;20FETH;20LESH;10INDEPENDENT SHIN",
  "10F46;10COMBINING DOT BELOW;21TWO DOTS;20DOT ABOVE;21TWO DOTS;21CURVE;30BELOW;20HOOK ABOVE;30BELOW",
  "10F4E;22LONG;21RESH;21STROKE;10NUMBER ONE;20TEN;20TWENTY;20ONE HUNDRED;10PUNCTUATION TWO VERTICAL BARS",
  "10F56;50WITH DOTS;20CIRCLE WITH DOT;20TWO CIRCLES WITH DOTS;20HALF CIRCLE WITH DOT",
  "10F70;00OLD UYGHUR LETTER ALEPH;30BETH;30GIMEL-HETH;30WAW;30ZAYIN;30FINAL HETH;30YODH;30KAPH;30LAMEDH",
  "10F79;30MEM;30NUN;30SAMEKH;30PE;30SADHE;30RESH;30SHIN;30TAW;30LESH;20COMBINING DOT ABOVE;40BELOW",
  "10F84;30TWO DOTS ABOVE;50BELOW;20PUNCTUATION BAR;30TWO BARS;40DOTS;31FOUR",
  "10FB0;00CHORASMIAN LETTER ALEPH;21SMALL;20BETH;20GIMEL;20DALETH;20HE;20WAW;21CURLED;20ZAYIN;20HETH",
  "10FBA;20YODH;20KAPH;20LAMEDH;20MEM;20NUN;20SAMEKH;20AYIN;20PE;20RESH;20SHIN;20TAW;10NUMBER ONE;20TWO",
  "10FC7;20THREE;20FOUR;20TEN;20TWENTY;20ONE HUNDRED",
  "10FE0;00ELYMAIC LETTER ALEPH;20BETH;20GIMEL;20DALETH;20HE;20WAW;20ZAYIN;20HETH;20TETH;20YODH;20KAPH",
  "10FEB;20LAMEDH;20MEM;20NUN;20SAMEKH;20AYIN;20PE;20SADHE;20QOPH;20RESH;20SHIN;20TAW;10LIGATURE ZAYIN-YODH",
  "11000;00BRAHMI SIGN CANDRABINDU;20ANUSVARA;20VISARGA;20JIHVAMULIYA;20UPADHMANIYA;10LETTER A;20AA;20I",
  "11008;20II;20U;20UU;20VOCALIC R;30RR;30L;30LL;20E;20AI;20O;20AU;20KA;20KHA;20GA;20GHA;20NGA;20CA;20CHA",
  "1101A;20JA;20JHA;20NYA;20TTA;20TTHA;20DDA;20DDHA;20NNA;20TA;20THA;20DA;20DHA;20NA;20PA;20PHA;20BA;20BHA",
  "1102B;20MA;20YA;20RA;20LA;20VA;20SHA;20SSA;20SA;20HA;20LLA;20OLD TAMIL LLLA;40RRA;40NNNA;10VOWEL SIGN AA",
  "11039;31BHATTIPROLU;30I;30II;30U;30UU;30VOCALIC R;40RR;40L;40LL;30E;30AI;30O;30AU;10VIRAMA;10DANDA",
  "11048;11DOUBLE;10PUNCTUATION DOT;21DOUBLE;20LINE;20CRESCENT BAR;20LOTUS",
  "11052;10NUMBER ONE;20TWO;20THREE;20FOUR;20FIVE;20SIX;20SEVEN;20EIGHT;20NINE;20TEN;20TWENTY;20THIRTY",
  "1105E;20FORTY;20FIFTY;20SIXTY;20SEVENTY;20EIGHTY;20NINETY;20ONE HUNDRED;30THOUSAND;10DIGIT ZERO;20ONE",
  "11068;20TWO;20THREE;20FOUR;20FIVE;20SIX;20SEVEN;20EIGHT;20NINE;10SIGN OLD TAMIL VIRAMA",
  "11071;10LETTER OLD TAMIL SHORT E;50O;10VOWEL SIGN OLD TAMIL SHORT E;60O;10LETTER OLD TAMIL LLA",
  "1107F;10NUMBER JOINER;00KAITHI SIGN CANDRABINDU;20ANUSVARA;20VISARGA;10LETTER A;20AA;20I;20II;20U;20UU",
  "11089;20E;20AI;20O;20AU;20KA;20KHA;20GA;20GHA;20NGA;20CA;20CHA;20JA;20JHA;20NYA;20TTA;20TTHA;20DDA",
  "1109A;20DDDHA;20DDHA;20RHA;20NNA;20TA;20THA;20DA;20DHA;20NA;20PA;20PHA;20BA;20BHA;20MA;20YA;20RA;20LA",
  "110AB;20VA;20SHA;20SSA;20SA;20HA;10VOWEL SIGN AA;30I;30II;30U;30UU;30E;30AI;30O;30AU;10SIGN VIRAMA",
  "110BA;20NUKTA;10ABBREVIATION SIGN;11ENUMERATION;11NUMBER;10SECTION MARK;12DOUBLE;10DANDA;11DOUBLE",
  "110C2;10VOWEL SIGN VOCALIC R",
  "110CD;10NUMBER SIGN ABOVE",
  "110D0;00SORA SOMPENG LETTER SAH;30TAH;30BAH;30CAH;30DAH;30GAH;30MAH;30NGAH;30LAH;30NAH;30VAH;30PAH;30YAH"]

private def characterNameRows17 : List String := [
  "110DD;30RAH;30HAH;30KAH;30JAH;30NYAH;30AH;30EEH;30IH;30UH;30OH;30EH;30MAE",
  "110F0;20DIGIT ZERO;30ONE;30TWO;30THREE;30FOUR;30FIVE;30SIX;30SEVEN;30EIGHT;30NINE",
  "11100;00CHAKMA SIGN CANDRABINDU;20ANUSVARA;20VISARGA;10LETTER AA;20I;20U;20E;20KAA;20KHAA;20GAA;20GHAA",
  "1110B;20NGAA;20CAA;20CHAA;20JAA;20JHAA;20NYAA;20TTAA;20TTHAA;20DDAA;20DDHAA;20NNAA;20TAA;20THAA;20DAA",
  "11119;20DHAA;20NAA;20PAA;20PHAA;20BAA;20BHAA;20MAA;20YYAA;20YAA;20RAA;20LAA;20WAA;20SAA;20HAA",
  "11127;10VOWEL SIGN A;30I;30II;30U;30UU;30E;30AI;30O;30AU;30OI;10O MARK;11AU;10VIRAMA;10MAAYYAA",
  "11136;10DIGIT ZERO;20ONE;20TWO;20THREE;20FOUR;20FIVE;20SIX;20SEVEN;20EIGHT;20NINE;10SECTION MARK;10DANDA",
  "11142;11DOUBLE;10QUESTION MARK;10LETTER LHAA;10VOWEL SIGN AA;30EI;10LETTER VAA",
  "11150;00MAHAJANI LETTER A;20I;20U;20E;20O;20KA;20KHA;20GA;20GHA;20CA;20CHA;20JA;20JHA;20NYA;20TTA;20TTHA",
  "11160;20DDA;20DDHA;20NNA;20TA;20THA;20DA;20DHA;20NA;20PA;20PHA;20BA;20BHA;20MA;20RA;20LA;20VA;20SA;20HA",
  "11172;20RRA;10SIGN NUKTA;10ABBREVIATION SIGN;10SECTION MARK;10LIGATURE SHRI",
  "11180;00SHARADA SIGN CANDRABINDU;20ANUSVARA;20VISARGA;10LETTER A;20AA;20I;20II;20U;20UU;20VOCALIC R;30RR",
  "1118B;30L;30LL;20E;20AI;20O;20AU;20KA;20KHA;20GA;20GHA;20NGA;20CA;20CHA;20JA;20JHA;20NYA;20TTA;20TTHA",
  "1119D;20DDA;20DDHA;20NNA;20TA;20THA;20DA;20DHA;20NA;20PA;20PHA;20BA;20BHA;20MA;20YA;20RA;20LA;20LLA;20VA",
  "111AF;20SHA;20SSA;20SA;20HA;10VOWEL SIGN AA;30I;30II;30U;30UU;30VOCALIC R;40RR;40L;40LL;30E;30AI;30O",
  "111BF;30AU;10SIGN VIRAMA;20AVAGRAHA;20JIHVAMULIYA;20UPADHMANIYA;10OM;10DANDA;11DOUBLE",
  "111C7;10ABBREVIATION SIGN;10SEPARATOR;10SANDHI MARK;10SIGN NUKTA;10VOWEL MODIFIER MARK",
  "111CC;11EXTRA SHORT VOWEL;11SUTRA;10VOWEL SIGN PRISHTHAMATRA E;10SIGN INVERTED CANDRABINDU;10DIGIT ZERO",
  "111D1;20ONE;20TWO;20THREE;20FOUR;20FIVE;20SIX;20SEVEN;20EIGHT;20NINE;10EKAM;10SIGN SIDDHAM;10HEADSTROKE",
  "111DD;10CONTINUATION SIGN;10SECTION MARK-1;20MARK-2",
  "111E1;00SINHALA ARCHAIC DIGIT ONE;30TWO;30THREE;30FOUR;30FIVE;30SIX;30SEVEN;30EIGHT;30NINE;20NUMBER TEN",
  "111EB;30TWENTY;30THIRTY;30FORTY;30FIFTY;30SIXTY;30SEVENTY;30EIGHTY;30NINETY;30ONE HUNDRED;40THOUSAND",
  "11200;00KHOJKI LETTER A;20AA;20I;20U;20E;20AI;20O;20AU;20KA;20KHA;20GA;20GGA;20GHA;20NGA;20CA;20CHA;20JA",
  "11211;20JJA",
  "11213;20NYA;20TTA;20TTHA;20DDA;20DDHA;20NNA;20TA;20THA;20DA;20DDDA;20DHA;20NA;20PA;20PHA;20BA;20BBA",
  "11223;20BHA;20MA;20YA;20RA;20LA;20VA;20SA;20HA;20LLA;10VOWEL SIGN AA;30I;30II;30U;30E;30AI;30O;30AU",
  "11234;10SIGN ANUSVARA;20VIRAMA;20NUKTA;20SHADDA;10DANDA;11DOUBLE;10WORD SEPARATOR;10SECTION MARK",
  "1123C;12DOUBLE;10ABBREVIATION SIGN;10SIGN SUKUN",
  "11280;00MULTANI LETTER A;20I;20U;20E;20KA;20KHA;20GA",
  "11288;20GHA",
  "1128A;20CA;20CHA;20JA;20JJA",
  "1128F;20NYA;20TTA;20TTHA;20DDA;20DDDA;20DDHA;20NNA;20TA;20THA;20DA;20DHA;20NA;20PA;20PHA;20BA",
  "1129F;20BHA;20MA;20YA;20RA;20LA;20VA;20SA;20HA;20RRA;20RHA;10SECTION MARK",
  "112B0;00KHUDAWADI LETTER A;20AA;20I;20II;20U;20UU;20E;20AI;20O;20AU;20KA;20KHA;20GA;20GGA;20GHA;20NGA",
  "112C0;20CA;20CHA;20JA;20JJA;20JHA;20NYA;20TTA;20TTHA;20DDA;20DDDA;20RRA;20DDHA;20NNA;20TA;20THA;20DA",
  "112D0;20DHA;20NA;20PA;20PHA;20BA;20BBA;20BHA;20MA;20YA;20RA;20LA;20VA;20SHA;20SA;20HA;10SIGN ANUSVARA",
  "112E0;10VOWEL SIGN AA;30I;30II;30U;30UU;30E;30AI;30O;30AU;10SIGN NUKTA;20VIRAMA",
  "112F0;10DIGIT ZERO;20ONE;20TWO;20THREE;20FOUR;20FIVE;20SIX;20SEVEN;20EIGHT;20NINE",
  "11300;00GRANTHA SIGN COMBINING ANUSVARA ABOVE;20CANDRABINDU;20ANUSVARA;20VISARGA",
  "11305;10LETTER A;20AA;20I;20II;20U;20UU;20VOCALIC R;30L",
  "1130F;20EE;20AI",
  "11313;20OO;20AU;20KA;20KHA;20GA;20GHA;20NGA;20CA;20CHA;20JA;20JHA;20NYA;20TTA;20TTHA;20DDA;20DDHA;20NNA",
  "11324;20TA;20THA;20DA;20DHA;20NA",
  "1132A;20PA;20PHA;20BA;20BHA;20MA;20YA;20RA",
  "11332;20LA;20LLA",
  "11335;20VA;20SHA;20SSA;20SA;20HA",
  "1133B;00COMBINING BINDU BELOW;00GRANTHA SIGN NUKTA;20AVAGRAHA;10VOWEL SIGN AA;30I;30II;30U;30UU",
  "11343;30VOCALIC R;40RR",
  "11347;30EE;30AI",
  "1134B;30OO;30AU;10SIGN VIRAMA",
  "11350;10OM",
  "11357;10AU LENGTH MARK",
  "1135D;10SIGN PLUTA;10LETTER VEDIC ANUSVARA;31DOUBLE;20VOCALIC RR;30LL;10VOWEL SIGN VOCALIC L;40LL",
  "11366;00COMBINING GRANTHA DIGIT ZERO;30ONE;30TWO;30THREE;30FOUR;30FIVE;30SIX",
  "11370;20LETTER A;30KA;30NA;30VI;30PA",
  "11400;00NEWA LETTER A;20AA;20I;20II;20U;20UU;20VOCALIC R;30RR;30L;30LL;20E;20AI;20O;20AU;20KA;20KHA;20GA",
  "11411;20GHA;20NGA;20NGHA;20CA;20CHA;20JA;20JHA;20NYA;20NYHA;20TTA;20TTHA;20DDA;20DDHA;20NNA;20TA;20THA",
  "11421;20DA;20DHA;20NA;20NHA;20PA;20PHA;20BA;20BHA;20MA;20MHA;20YA;20RA;20RHA;20LA;20LHA;20WA;20SHA;20SSA",
  "11433;20SA;20HA;10VOWEL SIGN AA;30I;30II;30U;30UU;30VOCALIC R;40RR;40L;40LL;30E;30AI;30O;30AU",
  "11442;10SIGN VIRAMA;20CANDRABINDU;20ANUSVARA;20VISARGA;20NUKTA;20AVAGRAHA;20FINAL ANUSVARA;10OM;10SIDDHI",
  "1144B;10DANDA;11DOUBLE;10COMMA;10GAP FILLER;10ABBREVIATION SIGN;10DIGIT ZERO;20ONE;20TWO;20THREE;20FOUR",
  "11455;20FIVE;20SIX;20SEVEN;20EIGHT;20NINE;10DOUBLE COMMA;10PLACEHOLDER MARK",
  "1145D;10INSERTION SIGN;10SANDHI MARK;10LETTER VEDIC ANUSVARA;10SIGN JIHVAMULIYA;20UPADHMANIYA",
  "11480;00TIRHUTA ANJI;10LETTER A;20AA;20I;20II;20U;20UU;20VOCALIC R;30RR;30L;30LL;20E;20AI;20O;20AU;20KA",
  "11490;20KHA;20GA;20GHA;20NGA;20CA;20CHA;20JA;20JHA;20NYA;20TTA;20TTHA;20DDA;20DDHA;20NNA;20TA;20THA;20DA",
  "114A1;20DHA;20NA;20PA;20PHA;20BA;20BHA;20MA;20YA;20RA;20LA;20VA;20SHA;20SSA;20SA;20HA;10VOWEL SIGN AA",
  "114B1;30I;30II;30U;30UU;30VOCALIC R;40RR;40L;40LL;30E;31SHORT;30AI;30O;31SHORT;30AU;10SIGN CANDRABINDU",
  "114C0;20ANUSVARA;20VISARGA;20VIRAMA;20NUKTA;20AVAGRAHA;10GVANG;10ABBREVIATION SIGN;10OM",
  "114D0;10DIGIT ZERO;20ONE;20TWO;20THREE;20FOUR;20FIVE;20SIX;20SEVEN;20EIGHT;20NINE",
  "11580;00SIDDHAM LETTER A;20AA;20I;20II;20U;20UU;20VOCALIC R;30RR;30L;30LL;20E;20AI;20O;20AU;20KA;20KHA",
  "11590;20GA;20GHA;20NGA;20CA;20CHA;20JA;20JHA;20NYA;20TTA;20TTHA;20DDA;20DDHA;20NNA;20TA;20THA;20DA;20DHA",
  "115A1;20NA;20PA;20PHA;20BA;20BHA;20MA;20YA;20RA;20LA;20VA;20SHA;20SSA;20SA;20HA;10VOWEL SIGN AA;30I;30II",
  "115B2;30U;30UU;30VOCALIC R;40RR",
  "115B8;30E;30AI;30O;30AU;10SIGN CANDRABINDU;20ANUSVARA;20VISARGA;20VIRAMA;20NUKTA;20SIDDHAM;10DANDA",
  "115C3;11DOUBLE;10SEPARATOR DOT;20BAR;10REPETITION MARK-1;20MARK-2;20MARK-3;10END OF TEXT MARK",
  "115CA;10SECTION MARK WITH TRIDENT AND U-SHAPED ORNAMENTS;60DOTTED CRESCENTS;43RAYS;71DOUBLE;71TRIPLE",
  "115CF;30DOUBLE RING;50WITH RAYS;30WITH DOUBLE CRESCENTS;41TRIPLE;41QUADRUPLE;41SEPTUPLE",
  "115D5;40CIRCLES AND RAYS;60TWO ENCLOSURES;61FOUR;10LETTER THREE-CIRCLE ALTERNATE I;22TWO-CIRCLE;40II",
  "115DB;20ALTERNATE U;12VOWEL SIGN;40UU",
  "11600;00MODI LETTER A;20AA;20I;20II;20U;20UU;20VOCALIC R;30RR;30L;30LL;20E;20AI;20O;20AU;20KA;20KHA;20GA",
  "11611;20GHA;20NGA;20CA;20CHA;20JA;20JHA;20NYA;20TTA;20TTHA;20DDA;20DDHA;20NNA;20TA;20THA;20DA;20DHA;20NA",
  "11622;20PA;20PHA;20BA;20BHA;20MA;20YA;20RA;20LA;20VA;20SHA;20SSA;20SA;20HA;20LLA;10VOWEL SIGN AA;30I",
  "11632;30II;30U;30UU;30VOCALIC R;40RR;40L;40LL;30E;30AI;30O;30AU;10SIGN ANUSVARA;20VISARGA;20VIRAMA",
  "11640;20ARDHACANDRA;10DANDA;11DOUBLE;10ABBREVIATION SIGN;10SIGN HUVA",
  "11650;10DIGIT ZERO;20ONE;20TWO;20THREE;20FOUR;20FIVE;20SIX;20SEVEN;20EIGHT;20NINE",
  "11660;00MONGOLIAN BIRGA WITH ORNAMENT;10ROTATED BIRGA;10DOUBLE BIRGA WITH ORNAMENT;13TRIPLE",
  "11664;11BIRGA WITH DOUBLE;11ROTATED BIRGA WITH;41DOUBLE;10INVERTED BIRGA;30WITH DOUBLE ORNAMENT",
  "11669;10SWIRL BIRGA;30WITH ORNAMENT;41DOUBLE;15TURNED",
  "11680;00TAKRI LETTER A;20AA;20I;20II;20U;20UU;20E;20AI;20O;20AU;20KA;20KHA;20GA;20GHA;20NGA;20CA;20CHA",
  "11691;20JA;20JHA;20NYA;20TTA;20TTHA;20DDA;20DDHA;20NNA;20TA;20THA;20DA;20DHA;20NA;20PA;20PHA;20BA;20BHA",
  "116A2;20MA;20YA;20RA;20LA;20VA;20SHA;20SA;20HA;20RRA;10SIGN ANUSVARA;20VISARGA;10VOWEL SIGN AA;30I;30II",
  "116B0;30U;30UU;30E;30AI;30O;30AU;10SIGN VIRAMA;20NUKTA;10LETTER ARCHAIC KHA;10ABBREVIATION SIGN",
  "116C0;10DIGIT ZERO;20ONE;20TWO;20THREE;20FOUR;20FIVE;20SIX;20SEVEN;20EIGHT;20NINE",
  "11700;00AHOM LETTER KA;20KHA;20NGA;20NA;20TA;21ALTERNATE;20PA;20PHA;20BA;20MA;20JA;20CHA;20THA;20RA;20LA",
  "1170F;20SA;20NYA;20HA;20A;20DA;20DHA;20GA;21ALTERNATE;20GHA;20BHA;20JHA;20ALTERNATE BA",
  "1171D;10CONSONANT SIGN MEDIAL LA;40RA;41LIGATING;10VOWEL SIGN A;30AA;30I;30II;30U;30UU;30E;30AW;30O;30AI",
  "1172A;30AM;10SIGN KILLER",
  "11730;10DIGIT ZERO;20ONE;20TWO;20THREE;20FOUR;20FIVE;20SIX;20SEVEN;20EIGHT;20NINE;10NUMBER TEN;20TWENTY",
  "1173C;10SIGN SMALL SECTION;21;20RULAI;10SYMBOL VI;10LETTER CA;20TTA;20TTHA;20DDA;20DDHA;20NNA;20LLA",
  "11800;00DOGRA LETTER A;20AA;20I;20II;20U;20UU;20E;20AI;20O;20AU;20KA;20KHA;20GA;20GHA;20NGA;20CA;20CHA",
  "11811;20JA;20JHA;20NYA;20TTA;20TTHA;20DDA;20DDHA;20NNA;20TA;20THA;20DA;20DHA;20NA;20PA;20PHA;20BA;20BHA",
  "11822;20MA;20YA;20RA;20LA;20VA;20SHA;20SSA;20SA;20HA;20RRA;10VOWEL SIGN AA;30I;30II;30U;30UU;30VOCALIC R",
  "11832;40RR;30E;30AI;30O;30AU;10SIGN ANUSVARA;20VISARGA;20VIRAMA;20NUKTA;10ABBREVIATION SIGN",
  "118A0;00WARANG CITI CAPITAL LETTER NGAA;40A;40WI;40YU;40YA;40YO;40II;40UU;40E;40O;40ANG;40GA;40KO;40ENY",
  "118AE;40YUJ;40UC;40ENN;40ODD;40TTE;40NUNG;40DA;40AT;40AM;40BU;40PU;40HIYO;40HOLO;40HORR;40HAR;40SSUU",
  "118BE;40SII;40VIYO;20SMALL LETTER NGAA;40A;40WI;40YU;40YA;40YO;40II;40UU;40E;40O;40ANG;40GA;40KO;40ENY",
  "118CE;40YUJ;40UC;40ENN;40ODD;40TTE;40NUNG;40DA;40AT;40AM;40BU;40PU;40HIYO;40HOLO;40HORR;40HAR;40SSUU",
  "118DE;40SII;40VIYO;20DIGIT ZERO;30ONE;30TWO;30THREE;30FOUR;30FIVE;30SIX;30SEVEN;30EIGHT;30NINE",
  "118EA;20NUMBER TEN;30TWENTY;30THIRTY;30FORTY;30FIFTY;30SIXTY;30SEVENTY;30EIGHTY;30NINETY",
  "118FF;20OM;00DIVES AKURU LETTER A;30AA;30I;30II;30U;30UU;30E",
  "11909;30O",
  "1190C;30KA;30KHA;30GA;30GHA;30NGA;30CA;30CHA;30JA",
  "11915;30NYA;30TTA",
  "11918;30DDA;30DDHA;30NNA;30TA;30THA;30DA;30DHA;30NA;30PA;30PHA;30BA;30BHA;30MA;30YA;30YYA;30RA;30LA;30VA",
  "1192A;30SHA;30SSA;30SA;30HA;30LLA;30ZA;20VOWEL SIGN AA;40I;40II;40U;40UU;40E",
  "11937;40AI;40O",
  "1193B;20SIGN ANUSVARA;30CANDRABINDU;30HALANTA;20VIRAMA;20PREFIXED NASAL SIGN;20MEDIAL YA;20INITIAL RA",
  "11942;21MEDIAL;20SIGN NUKTA;20DOUBLE DANDA;20GAP FILLER;20END OF TEXT MARK",
  "11950;20DIGIT ZERO;30ONE;30TWO;30THREE;30FOUR;30FIVE;30SIX;30SEVEN;30EIGHT;30NINE",
  "119A0;00NANDINAGARI LETTER A;20AA;20I;20II;20U;20UU;20VOCALIC R;30RR",
  "119AA;20E;20AI;20O;20AU;20KA;20KHA;20GA;20GHA;20NGA;20CA;20CHA;20JA;20JHA;20NYA;20TTA;20TTHA;20DDA",
  "119BB;20DDHA;20NNA;20TA;20THA;20DA;20DHA;20NA;20PA;20PHA;20BA;20BHA;20MA;20YA;20RA;20LA;20VA;20SHA;20SSA",
  "119CD;20SA;20HA;20LLA;20RRA;10VOWEL SIGN AA;30I;30II;30U;30UU;30VOCALIC R;40RR",
  "119DA;30E;30AI;30O;30AU;10SIGN ANUSVARA;20VISARGA;20VIRAMA;20AVAGRAHA;20SIDDHAM;10HEADSTROKE",
  "119E4;10VOWEL SIGN PRISHTHAMATRA E",
  "11A00;00ZANABAZAR SQUARE LETTER A;20VOWEL SIGN I;40UE;40U;40E;40OE;40O;40AI;40AU;40REVERSED I",
  "11A0A;30LENGTH MARK;20LETTER KA;30KHA;30GA;30GHA;30NGA;30CA;30CHA;30JA;30NYA;30TTA;30TTHA;30DDA;30DDHA",
  "11A18;30NNA;30TA;30THA;30DA;30DHA;30NA;30PA;30PHA;30BA;30BHA;30MA;30TSA;30TSHA;30DZA;30DZHA;30ZHA;30ZA",
  "11A29;30-A;30YA;30RA;30LA;30VA;30SHA;30SSA;30SA;30HA;30KSSA;20FINAL CONSONANT MARK;20SIGN VIRAMA",
  "11A35;30CANDRABINDU;40WITH ORNAMENT;32CANDRA;30ANUSVARA;30VISARGA;20CLUSTER-INITIAL LETTER RA",
  "11A3B;20CLUSTER-FINAL LETTER YA;40RA;40LA;40VA;20INITIAL HEAD MARK;22CLOSING;20MARK TSHEG;30SHAD",
  "11A43;31DOUBLE;30LONG TSHEG;20INITIAL DOUBLE-LINED HEAD MARK;23CLOSING;20SUBJOINER",
  "11A50;00SOYOMBO LETTER A;10VOWEL SIGN I;30UE;30U;30E;30O;30OE;30AI;30AU;30VOCALIC R;40L;20LENGTH MARK",
  "11A5C;10LETTER KA;20KHA;20GA;20GHA;20NGA;20CA;20CHA;20JA;20JHA;20NYA;20TTA;20TTHA;20DDA;20DDHA;20NNA",
  "11A6B;20TA;20THA;20DA;20DHA;20NA;20PA;20PHA;20BA;20BHA;20MA;20TSA;20TSHA;20DZA;20ZHA;20ZA;20-A;20YA;20RA",
  "11A7D;20LA;20VA;20SHA;20SSA;20SA;20HA;20KSSA;10SIGN JIHVAMULIYA;20UPADHMANIYA",
  "11A86;10CLUSTER-INITIAL LETTER RA;30LA;30SHA;30SA;10FINAL CONSONANT SIGN G;40K;40NG;40D;40N;40B;40M;40R",
  "11A92;40L;40SH;40S;40-A;10SIGN ANUSVARA;20VISARGA;10GEMINATION MARK;10SUBJOINER;10MARK TSHEG;20SHAD",
  "11A9C;21DOUBLE;20PLUTA;10HEAD MARK WITH MOON AND SUN AND TRIPLE FLAME;81;70;10TERMINAL MARK-1;20MARK-2",
  "11AB0;00CANADIAN SYLLABICS NATTILIK HI;30HII;30HO;30HOO;30HA;30HAA;30SHRI;30SHRII;30SHRO;30SHROO;30SHRA",
  "11ABB;30SHRAA;20SPE;20SPI;20SPO;20SPA;00PAU CIN HAU LETTER PA;40KA;40LA;40MA;40DA;40ZA;40VA;40NGA;40HA",
  "11AC9;40GA;40KHA;40SA;40BA;40CA;40TA;40THA;40NA;40PHA;40RA;40FA;40CHA;40A;40E;40I;40O;40U;40UA;40IA",
  "11ADC;40FINAL P;50K;50T;50M;50N;50L;50W;50NG;50Y;30RISING TONE LONG;50;30SANDHI GLOTTAL STOP",
  "11AE8;30RISING TONE LONG FINAL;51;31SANDHI GLOTTAL STOP;40TONE LONG;50;50LONG FINAL;51;30MID-LEVEL TONE",
  "11AF0;30GLOTTAL STOP VARIANT;30MID-LEVEL TONE LONG FINAL;51;30LOW-FALLING TONE LONG;50;30GLOTTAL STOP",
  "11AF6;30LOW-FALLING TONE LONG FINAL;51;31GLOTTAL STOP",
  "11C00;00BHAIKSUKI LETTER A;20AA;20I;20II;20U;20UU;20VOCALIC R;30RR;30L",
  "11C0A;20E;20AI;20O;20AU;20KA;20KHA;20GA;20GHA;20NGA;20CA;20CHA;20JA;20JHA;20NYA;20TTA;20TTHA;20DDA",
  "11C1B;20DDHA;20NNA;20TA;20THA;20DA;20DHA;20NA;20PA;20PHA;20BA;20BHA;20MA;20YA;20RA;20LA;20VA;20SHA;20SSA",
  "11C2D;20SA;20HA;10VOWEL SIGN AA;30I;30II;30U;30UU;30VOCALIC R;40RR;40L",
  "11C38;30E;30AI;30O;30AU;10SIGN CANDRABINDU;20ANUSVARA;20VISARGA;20VIRAMA;20AVAGRAHA;10DANDA;11DOUBLE",
  "11C43;10WORD SEPARATOR;10GAP FILLER-1;20FILLER-2",
  "11C50;10DIGIT ZERO;20ONE;20TWO;20THREE;20FOUR;20FIVE;20SIX;20SEVEN;20EIGHT;20NINE;10NUMBER ONE;20TWO",
  "11C5C;20THREE;20FOUR;20FIVE;20SIX;20SEVEN;20EIGHT;20NINE;20TEN;20TWENTY;20THIRTY;20FORTY;20FIFTY;20SIXTY",
  "11C69;20SEVENTY;20EIGHTY;20NINETY;10HUNDREDS UNIT MARK",
  "11C70;01MARCHEN HEAD;10MARK SHAD;10LETTER KA;20KHA;20GA;20NGA;20CA;20CHA;20JA;20NYA;20TA;20THA;20DA;20NA",
  "11C7E;20PA;20PHA;20BA;20MA;20TSA;20TSHA;20DZA;20WA;20ZHA;20ZA;20-A;20YA;20RA;20LA;20SHA;20SA;20HA;20A",
  "11C92;10SUBJOINED LETTER KA;30KHA;30GA;30NGA;30CA;30CHA;30JA;30NYA;30TA;30THA;30DA;30NA;30PA;30PHA;30BA",
  "11CA1;30MA;30TSA;30TSHA;30DZA;30WA;30ZHA;30ZA",
  "11CA9;30YA;30RA;30LA;30SHA;30SA;30HA;30A;10VOWEL SIGN AA;30I;30U;30E;30O;10SIGN ANUSVARA;20CANDRABINDU"]

private def characterNameRows18 : List String := [
  "11D00;00MASARAM GONDI LETTER A;30AA;30I;30II;30U;30UU;30E",
  "11D08;30AI;30O",
  "11D0B;30AU;30KA;30KHA;30GA;30GHA;30NGA;30CA;30CHA;30JA;30JHA;30NYA;30TTA;30TTHA;30DDA;30DDHA;30NNA;30TA",
  "11D1C;30THA;30DA;30DHA;30NA;30PA;30PHA;30BA;30BHA;30MA;30YA;30RA;30LA;30VA;30SHA;30SSA;30SA;30HA;30LLA",
  "11D2E;30KSSA;30JNYA;30TRA;20VOWEL SIGN AA;40I;40II;40U;40UU;40VOCALIC R",
  "11D3A;40E",
  "11D3C;40AI;40O",
  "11D3F;40AU;20SIGN ANUSVARA;30VISARGA;30NUKTA;30CANDRA;30HALANTA;20VIRAMA;20REPHA;20RA-KARA",
  "11D50;20DIGIT ZERO;30ONE;30TWO;30THREE;30FOUR;30FIVE;30SIX;30SEVEN;30EIGHT;30NINE",
  "11D60;00GUNJALA GONDI LETTER A;30AA;30I;30II;30U;30UU",
  "11D67;30EE;30AI",
  "11D6A;30OO;30AU;30YA;30VA;30BA;30BHA;30MA;30KA;30KHA;30TA;30THA;30LA;30GA;30GHA;30DA;30DHA;30NA;30CA",
  "11D7C;30CHA;30TTA;30TTHA;30LLA;30JA;30JHA;30DDA;30DDHA;30NGA;30PA;30PHA;30HA;30RA;30SA;20VOWEL SIGN AA",
  "11D8B;40I;40II;40U;40UU",
  "11D90;40EE;40AI",
  "11D93;40OO;40AU;20SIGN ANUSVARA;30VISARGA;20VIRAMA;20OM",
  "11DA0;20DIGIT ZERO;30ONE;30TWO;30THREE;30FOUR;30FIVE;30SIX;30SEVEN;30EIGHT;30NINE",
  "11EE0;00MAKASAR LETTER KA;20GA;20NGA;20PA;20BA;20MA;20TA;20DA;20NA;20CA;20JA;20NYA;20YA;20RA;20LA;20VA",
  "11EF0;20SA;20A;10ANGKA;10VOWEL SIGN I;30U;30E;30O;10PASSIMBANG;10END OF SECTION",
  "11FB0;00LISU LETTER YHA",
  "11FC0;00TAMIL FRACTION ONE THREE-HUNDRED-AND-TWENTIETH;30ONE-HUNDRED-AND-SIXTIETH;30EIGHTIETH",
  "11FC3;30SIXTY-FOURTH;30FORTIETH;30THIRTY-SECOND;20THREE EIGHTIETHS;30SIXTY-FOURTHS;20ONE TWENTIETH",
  "11FC9;30SIXTEENTH-1;30SIXTEENTH-2;30TENTH;30EIGHTH;20THREE TWENTIETHS;30SIXTEENTHS;20ONE FIFTH;30QUARTER",
  "11FD1;30HALF-1;30HALF-2;20THREE QUARTERS;20DOWNSCALING FACTOR KIIZH;10SIGN NEL;20CEVITU;20AAZHAAKKU",
  "11FD8;20UZHAKKU;20MUUVUZHAKKU;20KURUNI;20PATHAKKU;20MUKKURUNI;20KAACU;20PANAM;20PON;20VARAAKAN;20PAARAM",
  "11FE2;20KUZHI;20VELI;10WET CULTIVATION SIGN;12DRY;11LAND;11SALT PAN;11TRADITIONAL CREDIT;21NUMBER",
  "11FEA;11CURRENT;11AND ODD;11SPENT;11TOTAL;11IN POSSESSION;11STARTING FROM;10SIGN MUTHALIYA;20VAKAIYARAA",
  "11FFF;10PUNCTUATION END OF TEXT;00CUNEIFORM SIGN A;30TIMES A;40BAD;40GAN2 TENU;40HA;40IGI;40LAGAR GUNU",
  "12007;40MUSH;40SAG;20A2;20AB;30TIMES ASH2;40DUN3 GUNU;40GAL;40GAN2 TENU;40HA;40IGI GUNU;40IMIN;40LAGAB",
  "12013;40SHESH;40U PLUS U PLUS U;30GUNU;20AB2;30TIMES BALAG;40GAN2 TENU;40ME PLUS EN;40SHA3;40TAK4;20AD",
  "1201D;20AK;30TIMES ERIN2;40SHITA PLUS GISH;20AL;30TIMES AL;40DIM2;40GISH;40HA;40KAD3;40KI;40SHE;40USH",
  "12029;20ALAN;20ALEPH;20AMAR;30TIMES SHE;20AN;30OVER AN;30THREE TIMES;30PLUS NAGA OPPOSING AN PLUS NAGA",
  "12031;50SQUARED;20ANSHE;20APIN;20ARAD;30TIMES KUR;20ARKAB;20ASAL2;20ASH;30ZIDA TENU;31KABA",
  "1203B;30OVER ASH TUG2 OVER TUG2 TUG2 OVER TUG2 PAP;50OVER ASH;70CROSSING ASH OVER ASH OVER ASH;20ASH2",
  "1203F;20ASHGAB;20BA;20BAD;20BAG3;20BAHAR2;20BAL;30OVER BAL;20BALAG;20BAR;20BARA2;20BI;30TIMES A;40GAR",
  "1204C;40IGI GUNU;20BU;30OVER BU AB;50UN;30CROSSING BU;20BULUG;30OVER BULUG;20BUR;20BUR2;20DA;20DAG",
  "12057;30KISIM5 TIMES A PLUS MASH;50AMAR;50BALAG;50BI;50GA;60PLUS MASH;50GI;50GIR2;50GUD;50HA;50IR",
  "12062;60PLUS LU;50KAK;50LA;50LU;60PLUS MASH2;50LUM;50NE;50PAP PLUS PAP;50SI;50TAK4;50U2 PLUS GIR2;50USH",
  "1206E;20DAM;20DAR;20DARA3;20DARA4;20DI;20DIB;20DIM;30TIMES SHE;20DIM2;20DIN;30KASKAL U GUNU DISH;21;20DU",
  "1207B;30OVER DU;30GUNU;30SHESHIG;20DUB;30TIMES ESH2;20DUB2;20DUG;20DUGUD;20DUH;20DUN;20DUN3;30GUNU",
  "12087;40GUNU;20DUN4;20DUR2;20E;30TIMES PAP;30OVER E NUN OVER NUN;20E2;30TIMES A PLUS HA PLUS DA;40GAR",
  "12090;40MI;40SAL;40SHE;40U;20EDIN;20EGIR;20EL;20EN;30TIMES GAN2;50TENU;40ME;30CROSSING EN;31OPPOSING",
  "1209D;30SQUARED;20EREN;20ERIN2;20ESH2;20EZEN;30TIMES A;50PLUS LAL;70TIMES LAL;40AN;40BAD;40DUN3 GUNU",
  "120A8;60GUNU;40HA;50GUNU;41IGI;40KASKAL;50SQUARED;40KU3;40LA;40LAL TIMES LAL;40LI;40LU;40U2;40UD;20GA",
  "120B6;30GUNU;20GA2;30TIMES A PLUS DA PLUS HA;61;60IGI;40AB2 TENU PLUS TAB;40AN;40ASH;40ASH2 PLUS GAL",
  "120BF;40BAD;40BAR PLUS RA;40BUR;50PLUS RA;40DA;40DI;40DIM TIMES SHE;40DUB;40EL;50PLUS LA;40EN",
  "120CA;50TIMES GAN2 TENU;42;40GAR;40GI;40GI4;50PLUS A;40GIR2 PLUS SU;40HA PLUS LU PLUS ESH2;40HAL",
  "120D3;50PLUS LA;40HI PLUS LI;40HUB2;40IGI GUNU;40ISH PLUS HU PLUS ASH;40KAK;40KASKAL;40KID;50PLUS LAL",
  "120DC;40KU3 PLUS AN;40LA;40ME PLUS EN;40MI;40NUN;50OVER NUN;40PA;40SAL;40SAR;40SHE;50PLUS TUR;40SHID",
  "120E8;40SUM;40TAK4;40U;40UD;50PLUS DU;30OVER GA2;20GABA;30CROSSING GABA;20GAD;30OVER GAD GAR OVER GAR",
  "120F2;20GAL;30GAD OVER GAD GAR OVER GAR;20GALAM;20GAM;20GAN;20GAN2;30TENU;30OVER GAN2;31CROSSING;20GAR",
  "120FC;20GAR3;20GASHAN;20GESHTIN;30TIMES KUR;20GI;30TIMES E;40U;30CROSSING GI;20GI4;30OVER GI4;31CROSSING",
  "12107;20GIDIM;20GIR2;30GUNU;20GIR3;30TIMES A PLUS IGI;40GAN2 TENU;40IGI;41LU PLUS;40PA;20GISAL;20GISH",
  "12112;30CROSSING GISH;30TIMES BAD;40TAK4;30TENU;20GU;30CROSSING GU;20GU2;30TIMES KAK;50TIMES IGI GUNU",
  "1211B;40NUN;40SAL PLUS TUG2;30GUNU;20GUD;30TIMES A PLUS KUR;41;30OVER GUD LUGAL;20GUL;20GUM;30TIMES SHE",
  "12125;20GUR;20GUR7;20GURUN;20GURUSH;20HA;30TENU;30GUNU;20HAL;20HI;30TIMES ASH;40ASH2;40BAD;40DISH;40GAD",
  "12133;40KIN;40NUN;40SHE;40U;20HU;20HUB2;30TIMES AN;40HAL;40KASKAL;40LISH;40UD;20HUL2;20I;30A;20IB;20IDIM",
  "12143;30OVER IDIM BUR;50SQUARED;20IG;20IGI;30DIB;30RI;30OVER IGI SHIR OVER SHIR UD OVER UD;30GUNU;20IL",
  "1214C;30TIMES GAN2 TENU;20IL2;20IM;30TIMES TAK4;30CROSSING IM;31OPPOSING;30SQUARED;20IMIN;20IN;20IR",
  "12156;20ISH;20KA;30TIMES A;40AD;50PLUS KU3;40ASH2;40BAD;40BALAG;40BAR;40BI;40ERIN2;40ESH2;40GA;40GAL",
  "12164;40GAN2 TENU;40GAR;50PLUS SHA3 PLUS A;40GI;40GIR2;40GISH PLUS SAR;50CROSSING GISH;40GU;40GUR7;40IGI",
  "1216E;40IM;40KAK;40KI;40KID;40LI;40LU;40ME;50PLUS DU;60GI;60TE;40MI;50PLUS NUNUZ;40NE;40NUN;40PI;40RU",
  "1217E;40SA;40SAR;40SHA;40SHE;40SHID;40SHU;40SIG;40SUHUR;40TAR;40U;40U2;40UD;40UMUM TIMES PA;40USH;40ZI",
  "1218D;20KA2;30CROSSING KA2;20KAB;20KAD2;20KAD3;20KAD4;20KAD5;30OVER KAD5;20KAK;30TIMES IGI GUNU;20KAL",
  "12198;30TIMES BAD;30CROSSING KAL;20KAM2;20KAM4;20KASKAL;30LAGAB TIMES U OVER LAGAB TIMES U;37OVER KASKAL",
  "1219F;20KESH2;20KI;30TIMES BAD;40U;40UD;20KID;20KIN;20KISAL;20KISH;20KISIM5;30OVER KISIM5;20KU",
  "121AB;30OVER HI TIMES ASH2 KU OVER HI TIMES ASH2;20KU3;20KU4;30VARIANT FORM;20KU7;20KUL;30GUNU;20KUN",
  "121B3;20KUR;30OPPOSING KUR;20KUSHU2;20KWU318;20LA;20LAGAB;30TIMES A;50PLUS DA PLUS HA;60GAR;60LAL;40AL",
  "121BE;40AN;40ASH ZIDA TENU;40BAD;40BI;40DAR;40EN;40GA;40GAR;40GUD;50PLUS GUD;40HA;40HAL;40HI TIMES NUN",
  "121CB;40IGI GUNU;40IM;50PLUS HA;60LU;40KI;40KIN;40KU3;40KUL;50PLUS HI PLUS A;40LAGAB;40LISH;40LU;40LUL",
  "121D8;40ME;50PLUS EN;40MUSH;40NE;40SHE PLUS SUM;40SHITA PLUS GISH PLUS ERIN2;70TENU;40SHU2;50PLUS SHU2",
  "121E1;40SUM;40TAG;40TAK4;40TE PLUS A PLUS SU PLUS NA;40U;50PLUS A;60U PLUS U;40U2 PLUS ASH;40UD;40USH",
  "121EB;30SQUARED;20LAGAR;30TIMES SHE;50PLUS SUM;30GUNU;40OVER LAGAR GUNU SHE;20LAHSHU;20LAL;30TIMES LAL",
  "121F4;20LAM;30TIMES KUR;50PLUS RU;20LI;20LIL;20LIMMU2;20LISH;20LU;30TIMES BAD;20LU2;30TIMES AL;40BAD",
  "12200;40ESH2;50TENU;41GAN2;40HI TIMES BAD;40IM;40KAD2;40KAD3;50PLUS ASH;40KI;40LA PLUS ASH;40LAGAB",
  "1220B;40ME PLUS EN;40NE;40NU;40SI PLUS ASH;40SIK2 PLUS BU;40TUG2;30TENU;30CROSSING LU2;31OPPOSING",
  "12214;30SQUARED;30SHESHIG;20LU3;20LUGAL;30OVER LUGAL;31OPPOSING;30SHESHIG;20LUH;20LUL;20LUM;30OVER LUM",
  "1221F;50GAR OVER GAR;20MA;30TIMES TAK4;30GUNU;20MA2;20MAH;20MAR;20MASH;20MASH2;20ME;20MES;20MI;20MIN",
  "1222C;20MU;30OVER MU;20MUG;30GUNU;20MUNSUB;20MURGU2;20MUSH;30TIMES A;40KUR;40ZA;30OVER MUSH",
  "12237;50TIMES A PLUS NA;30CROSSING MUSH;20MUSH3;30TIMES A;50PLUS DI;41;30GUNU;20NA;20NA2;20NAGA",
  "12241;30INVERTED;30TIMES SHU TENU;30OPPOSING NAGA;20NAGAR;20NAM NUTILLU;30;20NAM2;20NE;30TIMES A;40UD",
  "1224B;30SHESHIG;20NI;30TIMES E;20NI2;20NIM;30TIMES GAN2 TENU;42GAR PLUS;20NINDA2;30TIMES AN;40ASH",
  "12255;50PLUS ASH;40GUD;40ME PLUS GAN2 TENU;40NE;40NUN;40SHE;50PLUS A AN;60ASH;70PLUS ASH;42U2;40USH",
  "12260;20NISAG;20NU;20NU11;20NUN;30LAGAR TIMES GAR;50MASH;50SAL;60OVER NUN LAGAR TIMES SAL;50USH;30TENU",
  "1226A;30OVER NUN;31CROSSING;50LAGAR OVER LAGAR;20NUNUZ;30AB2 TIMES ASHGAB;50BI;50DUG;50GUD;50IGI GUNU",
  "12273;50KAD3;50LA;50NE;50SILA3;50U2;30KISIM5 TIMES BI;60U;20PA;20PAD;20PAN;20PAP;20PESH2;20PI;30TIMES A",
  "12281;40AB;40BI;40BU;40E;40I;40IB;40U;40U2;30CROSSING PI;20PIRIG;30TIMES KAL;40UD;40ZA;30OPPOSING PIRIG",
  "1228F;20RA;20RAB;20RI;20RU;20SA;20SAG NUTILLU;30;30TIMES A;40DU;40DUB;40HA;40KAK;40KUR;40LUM;40MI;40NUN",
  "1229F;40SAL;40SHID;40TAB;40U2;40UB;40UM;40UR;40USH;30OVER SAG;30GUNU;20SAL;30LAGAB TIMES ASH2;20SANGA2",
  "122AC;20SAR;20SHA;20SHA3;30TIMES A;40BAD;40GISH;40NE;40SHU2;40TUR;40U;50PLUS A;20SHA6;20SHAB6;20SHAR2",
  "122BA;20SHE;30HU;30OVER SHE GAD OVER GAD GAR OVER GAR;53TAB OVER TAB;20SHEG9;20SHEN;20SHESH;20SHESH2",
  "122C2;20SHESHLAM;20SHID;30TIMES A;40IM;20SHIM;30TIMES A;40BAL;40BULUG;40DIN;40GAR;40IGI;50GUNU;40KUSHU2",
  "122CF;40LUL;40MUG;40SAL;20SHINIG;20SHIR;30TENU;30OVER SHIR BUR OVER BUR;20SHITA;20SHU",
  "122D8;30OVER INVERTED SHU;20SHU2;20SHUBUR;20SI;30GUNU;20SIG;20SIG4;30OVER SIG4 SHU2;20SIK2;20SILA3;20SU",
  "122E3;30OVER SU;20SUD;20SUD2;20SUHUR;20SUM;20SUMASH;20SUR;20SUR9;20TA;30ASTERISK;30TIMES HI;40MI;30GUNU",
  "122F0;20TAB;30OVER TAB NI OVER NI DISH OVER DISH;30SQUARED;20TAG;30TIMES BI;40GUD;40SHE;40SHU;40TUG2",
  "122F9;40UD;20TAK4;20TAR;20TE;30GUNU;20TI;30TENU;20TIL;20TIR;30TIMES TAK4;30OVER TIR",
  "12304;50GAD OVER GAD GAR OVER GAR;20TU;20TUG2;20TUK;20TUM;20TUR;30OVER TUR ZA OVER ZA;20U;30GUD;30U U",
  "1230E;30OVER U PA OVER PA GAR OVER GAR;50SUR OVER SUR;50U REVERSED OVER U REVERSED;20U2;20UB;20UD",
  "12314;30KUSHU2;30TIMES BAD;40MI;40U PLUS U PLUS U;90GUNU;31;30SHESHIG;40TIMES BAD;20UDUG;20UM",
  "1231E;30TIMES LAGAB;40ME PLUS DA;40SHA3;40U;20UMBIN;20UMUM;30TIMES KASKAL;40PA;20UN;30GUNU;20UR",
  "12329;30CROSSING UR;30SHESHIG;20UR2;30TIMES A PLUS HA;60NA;40AL;40HA;40NUN;40U2;50PLUS ASH;60BI;20UR4",
  "12335;20URI;20URI3;20URU;30TIMES A;40ASHGAB;40BAR;40DUN;40GA;40GAL;40GAN2 TENU;40GAR;40GU;40HA;40IGI",
  "12343;40IM;40ISH;40KI;40LUM;40MIN;40PA;40SHE;40SIG4;40TU;40U PLUS GUD;40UD;40URUDA;21;30TIMES U;20USH",
  "12352;30TIMES A;40KU;40KUR;40TAK4;20USHX;20USH2;20USHUMX;20UTUKI;20UZ3;30TIMES KASKAL;20UZU;20ZA;30TENU",
  "1235F;30SQUARED TIMES KUR;20ZAG;20ZAMX;20ZE2;20ZI;30OVER ZI;20ZI3;20ZIB;30KABA TENU;20ZIG;20ZIZ2;20ZU",
  "1236B;20ZU5;30TIMES A;20ZUBUR;20ZUM;20KAP ELAMITE;20AB TIMES NUN;20AB2 TIMES A;20AMAR TIMES KUG",
  "12373;20DAG KISIM5 TIMES U2 PLUS MASH;20DAG3;20DISH PLUS SHU;20DUB TIMES SHE;20EZEN TIMES GUD;40SHE",
  "12379;20GA2 TIMES AN PLUS KAK PLUS A;40ASH2;20GE22;20GIG;20HUSH;20KA TIMES ANSHE;40ASH3;40GISH;40GUD",
  "12382;40HI TIMES ASH2;40LUM;40PA;40SHUL;40TU;40UR2;20LAGAB TIMES GI;20LU2 SHESHIG TIMES BAD",
  "1238A;30TIMES ESH2 PLUS LAL;40SHU;20MESH;20MUSH3 TIMES ZA;20NA4;20NIN;20NIN9;20NINDA2 TIMES BAL;40GI",
  "12393;20NU11 ROTATED NINETY DEGREES;20PESH2 ASTERISK;20PIR2;20SAG TIMES IGI GUNU;20TI2;20UM TIMES ME",
  "12399;20U U",
  "12400;10NUMERIC SIGN TWO ASH;31THREE;31FOUR;31FIVE;31SIX;31SEVEN;31EIGHT;31NINE;30THREE DISH;31FOUR",
  "1240A;31FIVE;31SIX;31SEVEN;31EIGHT;31NINE;30FOUR U;31FIVE;31SIX;31SEVEN;31EIGHT;31NINE;30ONE GESH2;31TWO",
  "12417;31THREE;31FOUR;31FIVE;31SIX;31SEVEN;31EIGHT;31NINE;30ONE GESHU;31TWO;31THREE;31FOUR;31FIVE",
  "12423;30TWO SHAR2;31THREE;50VARIANT FORM;30FOUR SHAR2;31FIVE;31SIX;31SEVEN;31EIGHT;31NINE;30ONE SHARU",
  "1242D;31TWO;31THREE;50VARIANT FORM;30FOUR SHARU;31FIVE;30SHAR2 TIMES GAL PLUS DISH;70MIN;30ONE BURU",
  "12435;31TWO;31THREE;50VARIANT FORM;30FOUR BURU;31FIVE;30THREE VARIANT FORM ESH16;60ESH21",
  "1243C;30FOUR VARIANT FORM LIMMU;60LIMMU4;60LIMMU A;70B;30SIX VARIANT FORM ASH9",
  "12441;30SEVEN VARIANT FORM IMIN3;60IMIN A;70B;30EIGHT VARIANT FORM USSU;60USSU3",
  "12446;30NINE VARIANT FORM ILIMMU;60ILIMMU3;60ILIMMU4;60ILIMMU A;30TWO ASH TENU;32THREE;32FOUR;32FIVE",
  "1244E;32SIX;30ONE BAN2;31TWO;31THREE;31FOUR;50VARIANT FORM;30FIVE BAN2;50VARIANT FORM;30NIGIDAMIN",
  "12457;30NIGIDAESH;30ONE ESHE3;31TWO;30ONE THIRD DISH;31TWO THIRDS;31FIVE SIXTHS",
  "1245D;30ONE THIRD VARIANT FORM A;33TWO THIRDS;30ONE EIGHTH ASH;41QUARTER;30OLD ASSYRIAN ONE SIXTH",
  "12462;60QUARTER;30ONE QUARTER GUR;41HALF;30ELAMITE ONE THIRD;40TWO THIRDS;40FORTY;40FIFTY",
  "12469;30FOUR U VARIANT FORM;33FIVE;33SIX;33SEVEN;33EIGHT;33NINE",
  "12470;10PUNCTUATION SIGN OLD ASSYRIAN WORD DIVIDER;30VERTICAL COLON;31DIAGONAL;40TRICOLON;40QUADCOLON",
  "12480;10SIGN AB TIMES NUN TENU;40SHU2;20AD TIMES ESH2;20BAD TIMES DISH TENU;20BAHAR2 TIMES AB2;40NI;40ZA",
  "12487;20BU OVER BU TIMES NA2;20DA TIMES TAK4;20DAG TIMES KUR;20DIM TIMES IGI;40U U U;20DIM2 TIMES UD",
  "1248D;20DUG TIMES ANSHE;40ASH;50AT LEFT;40DIN;40DUN;40ERIN2;40GA;40GI;40GIR2 GUNU;40GISH;40HA;40HI",
  "12499;40IGI GUNU;40KASKAL;40KUR;40KUSHU2;50PLUS KASKAL;40LAK-020;40LAM;50TIMES KUR;40LUH PLUS GISH",
  "124A2;40MASH;40MES;40MI;40NI;40PI;40SHE;40SI GUNU;20E2 TIMES KUR;40PAP;20ERIN2 X;20ESH2 CROSSING ESH2",
  "124AD;20EZEN SHESHIG TIMES ASH;50HI;50IGI GUNU;50LA;50LAL;50ME;50MES;50SU;32;20GA2 TIMES BAHAR2",
  "124B7;40DIM GUNU;41DUG TIMES IGI;60KASKAL;40EREN;40GA;40GAR PLUS DI;60NE;40HA PLUS A",
  "124BF;40KUSHU2 PLUS KASKAL;40LAM;50TIMES KUR;40LUH;40MUSH;40NE;50PLUS E2;60GI;40SHIM;40ZIZ2",
  "124C9;20GABA ROTATED NINETY DEGREES;20GESHTIN TIMES U;20GISH TIMES GISH CROSSING GISH",
  "124CC;20GU2 TIMES IGI GUNU;20GUD PLUS GISH TIMES TAK4;20HA TENU GUNU;20HI TIMES ASH OVER HI TIMES ASH",
  "124D0;20KA TIMES BU;40KA;40U U U;40UR;20LAGAB TIMES ZU OVER ZU;20LAK-003;20LAK-021;20LAK-025;20LAK-030",
  "124D9;20LAK-050;20LAK-051;20LAK-062;20LAK-079 OVER LAK-079 GUNU;20LAK-080;20LAK-081 OVER LAK-081",
  "124DF;20LAK-092;20LAK-130;20LAK-142;20LAK-210;20LAK-219;20LAK-220;20LAK-225;20LAK-228;20LAK-238",
  "124E8;20LAK-265;20LAK-266;20LAK-343;20LAK-347;20LAK-348;20LAK-383;20LAK-384;20LAK-390;20LAK-441",
  "124F1;20LAK-449;30TIMES GU;40IGI;40PAP PLUS LU3;61PAP PLUS;40U2 PLUS BA;20LAK-450;20LAK-457;20LAK-470",
  "124FA;20LAK-483;20LAK-490;20LAK-492;20LAK-493;20LAK-495;20LAK-550;20LAK-608;20LAK-617;30TIMES ASH;40BAD",
  "12504;40DUN3 GUNU GUNU;40KU3;40LA;40TAR;40TE;40U2;40UD;40URUDA;20LAK-636;20LAK-648;30TIMES DUB;40GA",
  "12510;40IGI;50GUNU;40NI;40PAP PLUS PAP PLUS LU3;40SHESH PLUS KI;40UD;40URUDA;20LAK-724;20LAK-749",
  "12519;20LU2 GUNU TIMES ASH;30TIMES DISH;40HAL;40PAP;50PLUS PAP PLUS LU3;40TAK4;20MI PLUS ZA7",
  "12520;20MUSH OVER MUSH TIMES GA;60KAK;20NINDA2 TIMES DIM GUNU;40GISH;40GUL;40HI;40KESH2;40LAK-050;40MASH",
  "12529;40PAP PLUS PAP;40U;50PLUS U;40URUDA;20SAG GUNU TIMES HA;30TIMES EN;40SHE AT LEFT;40TAK4",
  "12531;20SHA6 TENU;20SHE OVER SHE;30PLUS HUB2;40NAM2;40SAR;20SHU2 PLUS DUG TIMES NI;40E2 TIMES AN",
  "12538;20SI TIMES TAK4;20TAK4 PLUS SAG;20TUM TIMES GAN2 TENU;40THREE DISH;20UR2 INVERTED;30TIMES UD",
  "1253E;20URU TIMES DARA3;40LAK-668;40LU3;20ZA7;20ZU OVER ZU PLUS SAR;20ZU5 TIMES THREE DISH TENU",
  "12F90;00CYPRO-MINOAN SIGN CM001;20CM002;20CM004;20CM005;20CM006;20CM007;20CM008;20CM009;20CM010;20CM011",
  "12F9A;20CM012;20CM012B;20CM013;20CM015;20CM017;20CM019;20CM021;20CM023;20CM024;20CM025;20CM026;20CM027",
  "12FA6;20CM028;20CM029;20CM030;20CM033;20CM034;20CM035;20CM036;20CM037;20CM038;20CM039;20CM040;20CM041",
  "12FB2;20CM044;20CM046;20CM047;20CM049;20CM050;20CM051;20CM052;20CM053;20CM054;20CM055;20CM056;20CM058",
  "12FBE;20CM059;20CM060;20CM061;20CM062;20CM063;20CM064;20CM066;20CM067;20CM068;20CM069;20CM070;20CM071",
  "12FCA;20CM072;20CM073;20CM074;20CM075;20CM075B;20CM076;20CM078;20CM079;20CM080;20CM081;20CM082;20CM083",
  "12FD6;20CM084;20CM085;20CM086;20CM087;20CM088;20CM089;20CM090;20CM091;20CM092;20CM094;20CM095;20CM096",
  "12FE2;20CM097;20CM098;20CM099;20CM100;20CM101;20CM102;20CM103;20CM104;20CM105;20CM107;20CM108;20CM109"]

private def characterNameRows19 : List String := [
  "12FEE;20CM110;20CM112;20CM114;20CM301;20CM302",
  "13000;00EGYPTIAN HIEROGLYPH A001;20A002;20A003;20A004;20A005;20A005A;20A006;20A006A;20A006B;20A007",
  "1300A;20A008;20A009;20A010;20A011;20A012;20A013;20A014;20A014A;20A015;20A016;20A017;20A017A;20A018",
  "13017;20A019;20A020;20A021;20A022;20A023;20A024;20A025;20A026;20A027;20A028;20A029;20A030;20A031;20A032",
  "13025;20A032A;20A033;20A034;20A035;20A036;20A037;20A038;20A039;20A040;20A040A;20A041;20A042;20A042A",
  "13032;20A043;20A043A;20A044;20A045;20A045A;20A046;20A047;20A048;20A049;20A050;20A051;20A052;20A053",
  "1303F;20A054;20A055;20A056;20A057;20A058;20A059;20A060;20A061;20A062;20A063;20A064;20A065;20A066;20A067",
  "1304D;20A068;20A069;20A070;20B001;20B002;20B003;20B004;20B005;20B005A;20B006;20B007;20B008;20B009;20C001",
  "1305B;20C002;20C002A;20C002B;20C002C;20C003;20C004;20C005;20C006;20C007;20C008;20C009;20C010;20C010A",
  "13068;20C011;20C012;20C013;20C014;20C015;20C016;20C017;20C018;20C019;20C020;20C021;20C022;20C023;20C024",
  "13076;20D001;20D002;20D003;20D004;20D005;20D006;20D007;20D008;20D008A;20D009;20D010;20D011;20D012;20D013",
  "13084;20D014;20D015;20D016;20D017;20D018;20D019;20D020;20D021;20D022;20D023;20D024;20D025;20D026;20D027",
  "13092;20D027A;20D028;20D029;20D030;20D031;20D031A;20D032;20D033;20D034;20D034A;20D035;20D036;20D037",
  "1309F;20D038;20D039;20D040;20D041;20D042;20D043;20D044;20D045;20D046;20D046A;20D047;20D048;20D048A",
  "130AC;20D049;20D050;20D050A;20D050B;20D050C;20D050D;20D050E;20D050F;20D050G;20D050H;20D050I;20D051",
  "130B8;20D052;20D052A;20D053;20D054;20D054A;20D055;20D056;20D057;20D058;20D059;20D060;20D061;20D062",
  "130C5;20D063;20D064;20D065;20D066;20D067;20D067A;20D067B;20D067C;20D067D;20D067E;20D067F;20D067G;20D067H",
  "130D2;20E001;20E002;20E003;20E004;20E005;20E006;20E007;20E008;20E008A;20E009;20E009A;20E010;20E011",
  "130DF;20E012;20E013;20E014;20E015;20E016;20E016A;20E017;20E017A;20E018;20E019;20E020;20E020A;20E021",
  "130EC;20E022;20E023;20E024;20E025;20E026;20E027;20E028;20E028A;20E029;20E030;20E031;20E032;20E033;20E034",
  "130FA;20E034A;20E036;20E037;20E038;20F001;20F001A;20F002;20F003;20F004;20F005;20F006;20F007;20F008",
  "13107;20F009;20F010;20F011;20F012;20F013;20F013A;20F014;20F015;20F016;20F017;20F018;20F019;20F020;20F021",
  "13115;20F021A;20F022;20F023;20F024;20F025;20F026;20F027;20F028;20F029;20F030;20F031;20F031A;20F032",
  "13122;20F033;20F034;20F035;20F036;20F037;20F037A;20F038;20F038A;20F039;20F040;20F041;20F042;20F043",
  "1312F;20F044;20F045;20F045A;20F046;20F046A;20F047;20F047A;20F048;20F049;20F050;20F051;20F051A;20F051B",
  "1313C;20F051C;20F052;20F053;20G001;20G002;20G003;20G004;20G005;20G006;20G006A;20G007;20G007A;20G007B",
  "13149;20G008;20G009;20G010;20G011;20G011A;20G012;20G013;20G014;20G015;20G016;20G017;20G018;20G019;20G020",
  "13157;20G020A;20G021;20G022;20G023;20G024;20G025;20G026;20G026A;20G027;20G028;20G029;20G030;20G031",
  "13164;20G032;20G033;20G034;20G035;20G036;20G036A;20G037;20G037A;20G038;20G039;20G040;20G041;20G042",
  "13171;20G043;20G043A;20G044;20G045;20G045A;20G046;20G047;20G048;20G049;20G050;20G051;20G052;20G053",
  "1317E;20G054;20H001;20H002;20H003;20H004;20H005;20H006;20H006A;20H007;20H008;20I001;20I002;20I003;20I004",
  "1318C;20I005;20I005A;20I006;20I007;20I008;20I009;20I009A;20I010;20I010A;20I011;20I011A;20I012;20I013",
  "13199;20I014;20I015;20K001;20K002;20K003;20K004;20K005;20K006;20K007;20K008;20L001;20L002;20L002A;20L003",
  "131A7;20L004;20L005;20L006;20L006A;20L007;20L008;20M001;20M001A;20M001B;20M002;20M003;20M003A;20M004",
  "131B4;20M005;20M006;20M007;20M008;20M009;20M010;20M010A;20M011;20M012;20M012A;20M012B;20M012C;20M012D",
  "131C1;20M012E;20M012F;20M012G;20M012H;20M013;20M014;20M015;20M015A;20M016;20M016A;20M017;20M017A;20M018",
  "131CE;20M019;20M020;20M021;20M022;20M022A;20M023;20M024;20M024A;20M025;20M026;20M027;20M028;20M028A",
  "131DB;20M029;20M030;20M031;20M031A;20M032;20M033;20M033A;20M033B;20M034;20M035;20M036;20M037;20M038",
  "131E8;20M039;20M040;20M040A;20M041;20M042;20M043;20M044;20N001;20N002;20N003;20N004;20N005;20N006;20N007",
  "131F6;20N008;20N009;20N010;20N011;20N012;20N013;20N014;20N015;20N016;20N017;20N018;20N018A;20N018B",
  "13203;20N019;20N020;20N021;20N022;20N023;20N024;20N025;20N025A;20N026;20N027;20N028;20N029;20N030;20N031",
  "13211;20N032;20N033;20N033A;20N034;20N034A;20N035;20N035A;20N036;20N037;20N037A;20N038;20N039;20N040",
  "1321E;20N041;20N042;20NL001;20NL002;20NL003;20NL004;20NL005;20NL005A;20NL006;20NL007;20NL008;20NL009",
  "1322A;20NL010;20NL011;20NL012;20NL013;20NL014;20NL015;20NL016;20NL017;20NL017A;20NL018;20NL019;20NL020",
  "13236;20NU001;20NU002;20NU003;20NU004;20NU005;20NU006;20NU007;20NU008;20NU009;20NU010;20NU010A;20NU011",
  "13242;20NU011A;20NU012;20NU013;20NU014;20NU015;20NU016;20NU017;20NU018;20NU018A;20NU019;20NU020;20NU021",
  "1324E;20NU022;20NU022A;20O001;20O001A;20O002;20O003;20O004;20O005;20O005A;20O006;20O006A;20O006B;20O006C",
  "1325B;20O006D;20O006E;20O006F;20O007;20O008;20O009;20O010;20O010A;20O010B;20O010C;20O011;20O012;20O013",
  "13268;20O014;20O015;20O016;20O017;20O018;20O019;20O019A;20O020;20O020A;20O021;20O022;20O023;20O024",
  "13275;20O024A;20O025;20O025A;20O026;20O027;20O028;20O029;20O029A;20O030;20O030A;20O031;20O032;20O033",
  "13282;20O033A;20O034;20O035;20O036;20O036A;20O036B;20O036C;20O036D;20O037;20O038;20O039;20O040;20O041",
  "1328F;20O042;20O043;20O044;20O045;20O046;20O047;20O048;20O049;20O050;20O050A;20O050B;20O051;20P001",
  "1329C;20P001A;20P002;20P003;20P003A;20P004;20P005;20P006;20P007;20P008;20P009;20P010;20P011;20Q001",
  "132A9;20Q002;20Q003;20Q004;20Q005;20Q006;20Q007;20R001;20R002;20R002A;20R003;20R003A;20R003B;20R004",
  "132B6;20R005;20R006;20R007;20R008;20R009;20R010;20R010A;20R011;20R012;20R013;20R014;20R015;20R016",
  "132C3;20R016A;20R017;20R018;20R019;20R020;20R021;20R022;20R023;20R024;20R025;20R026;20R027;20R028;20R029",
  "132D1;20S001;20S002;20S002A;20S003;20S004;20S005;20S006;20S006A;20S007;20S008;20S009;20S010;20S011",
  "132DE;20S012;20S013;20S014;20S014A;20S014B;20S015;20S016;20S017;20S017A;20S018;20S019;20S020;20S021",
  "132EB;20S022;20S023;20S024;20S025;20S026;20S026A;20S026B;20S027;20S028;20S029;20S030;20S031;20S032",
  "132F8;20S033;20S034;20S035;20S035A;20S036;20S037;20S038;20S039;20S040;20S041;20S042;20S043;20S044;20S045",
  "13306;20S046;20T001;20T002;20T003;20T003A;20T004;20T005;20T006;20T007;20T007A;20T008;20T008A;20T009",
  "13313;20T009A;20T010;20T011;20T011A;20T012;20T013;20T014;20T015;20T016;20T016A;20T017;20T018;20T019",
  "13320;20T020;20T021;20T022;20T023;20T024;20T025;20T026;20T027;20T028;20T029;20T030;20T031;20T032;20T032A",
  "1332E;20T033;20T033A;20T034;20T035;20T036;20U001;20U002;20U003;20U004;20U005;20U006;20U006A;20U006B",
  "1333B;20U007;20U008;20U009;20U010;20U011;20U012;20U013;20U014;20U015;20U016;20U017;20U018;20U019;20U020",
  "13349;20U021;20U022;20U023;20U023A;20U024;20U025;20U026;20U027;20U028;20U029;20U029A;20U030;20U031",
  "13356;20U032;20U032A;20U033;20U034;20U035;20U036;20U037;20U038;20U039;20U040;20U041;20U042;20V001",
  "13363;20V001A;20V001B;20V001C;20V001D;20V001E;20V001F;20V001G;20V001H;20V001I;20V002;20V002A;20V003",
  "1336F;20V004;20V005;20V006;20V007;20V007A;20V007B;20V008;20V009;20V010;20V011;20V011A;20V011B;20V011C",
  "1337C;20V012;20V012A;20V012B;20V013;20V014;20V015;20V016;20V017;20V018;20V019;20V020;20V020A;20V020B",
  "13389;20V020C;20V020D;20V020E;20V020F;20V020G;20V020H;20V020I;20V020J;20V020K;20V020L;20V021;20V022",
  "13395;20V023;20V023A;20V024;20V025;20V026;20V027;20V028;20V028A;20V029;20V029A;20V030;20V030A;20V031",
  "133A2;20V031A;20V032;20V033;20V033A;20V034;20V035;20V036;20V037;20V037A;20V038;20V039;20V040;20V040A",
  "133AF;20W001;20W002;20W003;20W003A;20W004;20W005;20W006;20W007;20W008;20W009;20W009A;20W010;20W010A",
  "133BC;20W011;20W012;20W013;20W014;20W014A;20W015;20W016;20W017;20W017A;20W018;20W018A;20W019;20W020",
  "133C9;20W021;20W022;20W023;20W024;20W024A;20W025;20X001;20X002;20X003;20X004;20X004A;20X004B;20X005",
  "133D6;20X006;20X006A;20X007;20X008;20X008A;20Y001;20Y001A;20Y002;20Y003;20Y004;20Y005;20Y006;20Y007",
  "133E3;20Y008;20Z001;20Z002;20Z002A;20Z002B;20Z002C;20Z002D;20Z003;20Z003A;20Z003B;20Z004;20Z004A;20Z005",
  "133F0;20Z005A;20Z006;20Z007;20Z008;20Z009;20Z010;20Z011;20Z012;20Z013;20Z014;20Z015;20Z015A;20Z015B",
  "133FD;20Z015C;20Z015D;20Z015E;20Z015F;20Z015G;20Z015H;20Z015I;20Z016;20Z016A;20Z016B;20Z016C;20Z016D",
  "13409;20Z016E;20Z016F;20Z016G;20Z016H;20AA001;20AA002;20AA003;20AA004;20AA005;20AA006;20AA007;20AA007A",
  "13415;20AA007B;20AA008;20AA009;20AA010;20AA011;20AA012;20AA013;20AA014;20AA015;20AA016;20AA017;20AA018",
  "13421;20AA019;20AA020;20AA021;20AA022;20AA023;20AA024;20AA025;20AA026;20AA027;20AA028;20AA029;20AA030",
  "1342D;20AA031;20AA032",
  "13430;20VERTICAL JOINER;21HORIZONTAL;20INSERT AT TOP START;41BOTTOM;40TOP END;41BOTTOM;20OVERLAY MIDDLE",
  "13437;20BEGIN SEGMENT;21END",
  "14400;00ANATOLIAN HIEROGLYPH A001;20A002;20A003;20A004;20A005;20A006;20A007;20A008;20A009;20A010;20A010A",
  "1440B;20A011;20A012;20A013;20A014;20A015;20A016;20A017;20A018;20A019;20A020;20A021;20A022;20A023;20A024",
  "14419;20A025;20A026;20A026A;20A027;20A028;20A029;20A030;20A031;20A032;20A033;20A034;20A035;20A036;20A037",
  "14427;20A038;20A039;20A039A;20A040;20A041;20A041A;20A042;20A043;20A044;20A045;20A045A;20A046;20A046A",
  "14434;20A046B;20A047;20A048;20A049;20A050;20A051;20A052;20A053;20A054;20A055;20A056;20A057;20A058;20A059",
  "14442;20A060;20A061;20A062;20A063;20A064;20A065;20A066;20A066A;20A066B;20A066C;20A067;20A068;20A069",
  "1444F;20A070;20A071;20A072;20A073;20A074;20A075;20A076;20A077;20A078;20A079;20A080;20A081;20A082;20A083",
  "1445D;20A084;20A085;20A086;20A087;20A088;20A089;20A090;20A091;20A092;20A093;20A094;20A095;20A096;20A097",
  "1446B;20A097A;20A098;20A098A;20A099;20A100;20A100A;20A101;20A101A;20A102;20A102A;20A103;20A104;20A104A",
  "14478;20A104B;20A104C;20A105;20A105A;20A105B;20A106;20A107;20A107A;20A107B;20A107C;20A108;20A109;20A110",
  "14485;20A110A;20A110B;20A111;20A112;20A113;20A114;20A115;20A115A;20A116;20A117;20A118;20A119;20A120",
  "14492;20A121;20A122;20A123;20A124;20A125;20A125A;20A126;20A127;20A128;20A129;20A130;20A131;20A132;20A133",
  "144A0;20A134;20A135;20A135A;20A136;20A137;20A138;20A139;20A140;20A141;20A142;20A143;20A144;20A145;20A146",
  "144AE;20A147;20A148;20A149;20A150;20A151;20A152;20A153;20A154;20A155;20A156;20A157;20A158;20A159;20A160",
  "144BC;20A161;20A162;20A163;20A164;20A165;20A166;20A167;20A168;20A169;20A170;20A171;20A172;20A173;20A174",
  "144CA;20A175;20A176;20A177;20A178;20A179;20A180;20A181;20A182;20A183;20A184;20A185;20A186;20A187;20A188",
  "144D8;20A189;20A190;20A191;20A192;20A193;20A194;20A195;20A196;20A197;20A198;20A199;20A200;20A201;20A202",
  "144E6;20A202A;20A202B;20A203;20A204;20A205;20A206;20A207;20A207A;20A208;20A209;20A209A;20A210;20A211",
  "144F3;20A212;20A213;20A214;20A215;20A215A;20A216;20A216A;20A217;20A218;20A219;20A220;20A221;20A222",
  "14500;20A223;20A224;20A225;20A226;20A227;20A227A;20A228;20A229;20A230;20A231;20A232;20A233;20A234;20A235",
  "1450E;20A236;20A237;20A238;20A239;20A240;20A241;20A242;20A243;20A244;20A245;20A246;20A247;20A248;20A249",
  "1451C;20A250;20A251;20A252;20A253;20A254;20A255;20A256;20A257;20A258;20A259;20A260;20A261;20A262;20A263",
  "1452A;20A264;20A265;20A266;20A267;20A267A;20A268;20A269;20A270;20A271;20A272;20A273;20A274;20A275;20A276",
  "14538;20A277;20A278;20A279;20A280;20A281;20A282;20A283;20A284;20A285;20A286;20A287;20A288;20A289;20A289A",
  "14546;20A290;20A291;20A292;20A293;20A294;20A294A;20A295;20A296;20A297;20A298;20A299;20A299A;20A300",
  "14553;20A301;20A302;20A303;20A304;20A305;20A306;20A307;20A308;20A309;20A309A;20A310;20A311;20A312;20A313",
  "14561;20A314;20A315;20A316;20A317;20A318;20A319;20A320;20A321;20A322;20A323;20A324;20A325;20A326;20A327",
  "1456F;20A328;20A329;20A329A;20A330;20A331;20A332A;20A332B;20A332C;20A333;20A334;20A335;20A336;20A336A",
  "1457C;20A336B;20A336C;20A337;20A338;20A339;20A340;20A341;20A342;20A343;20A344;20A345;20A346;20A347",
  "14589;20A348;20A349;20A350;20A351;20A352;20A353;20A354;20A355;20A356;20A357;20A358;20A359;20A359A;20A360",
  "14597;20A361;20A362;20A363;20A364;20A364A;20A365;20A366;20A367;20A368;20A368A;20A369;20A370;20A371",
  "145A4;20A371A;20A372;20A373;20A374;20A375;20A376;20A377;20A378;20A379;20A380;20A381;20A381A;20A382",
  "145B1;20A383 RA OR RI;20A383A;20A384;20A385;20A386;20A386A;20A387;20A388;20A389;20A390;20A391;20A392",
  "145BD;20A393 EIGHT;20A394;20A395;20A396;20A397;20A398;20A399;20A400;20A401;20A402;20A403;20A404;20A405",
  "145CA;20A406;20A407;20A408;20A409;20A410 BEGIN LOGOGRAM MARK;22A410A END;20A411;20A412;20A413;20A414",
  "145D4;20A415;20A416;20A417;20A418;20A419;20A420;20A421;20A422;20A423;20A424;20A425;20A426;20A427;20A428",
  "145E2;20A429;20A430;20A431;20A432;20A433;20A434;20A435;20A436;20A437;20A438;20A439;20A440;20A441;20A442",
  "145F0;20A443;20A444;20A445;20A446;20A447;20A448;20A449;20A450;20A450A;20A451;20A452;20A453;20A454;20A455",
  "145FE;20A456;20A457;20A457A;20A458;20A459;20A460;20A461;20A462;20A463;20A464;20A465;20A466;20A467;20A468",
  "1460C;20A469;20A470;20A471;20A472;20A473;20A474;20A475;20A476;20A477;20A478;20A479;20A480;20A481;20A482",
  "1461A;20A483;20A484;20A485;20A486;20A487;20A488;20A489;20A490;20A491;20A492;20A493;20A494;20A495;20A496",
  "14628;20A497;20A501;20A502;20A503;20A504;20A505;20A506;20A507;20A508;20A509;20A510;20A511;20A512;20A513",
  "14636;20A514;20A515;20A516;20A517;20A518;20A519;20A520;20A521;20A522;20A523;20A524;20A525;20A526;20A527",
  "14644;20A528;20A529;20A530",
  "16800;00BAMUM LETTER PHASE-A NGKUE MFON;30GBIEE FON;30PON MFON PIPAEMGBIEE;50PIPAEMBA;30NAA MFON",
  "16805;30SHUENSHUET;30TITA MFON;31NZA;30SHINDA PA NJI;30PON PA NJI PIPAEMGBIEE;60PIPAEMBA;30MAEMBGBIEE",
  "1680C;30TU MAEMBA;30NGANGU;30MAEMVEUX;30MANSUAE;30MVEUAENGAM;30SEUNYAM;30NTOQPEN;30KEUKEUTNDA;30NKINDI",
  "16815;30SUU;30NGKUENZEUM;30LAPAQ;30LET KUT;30NTAP MFAA;30MAEKEUP;30PASHAE;30GHEUAERAE;30PAMSHAE",
  "1681E;30MON NGGEUAET;30NZUN MEUT;30U YUQ NAE;30GHEUAEGHEUAE;30NTAP NTAA;30SISA;30MGBASA;30MEUNJOMNDEUQ",
  "16826;30MOOMPUQ;30KAFA;30PA LEERAEWA;31NDA;30PET;30MAEMKPEN;30NIKA;30PUP;30TUAEP;30LUAEP;30SONJAM",
  "16831;30TEUTEUWEN;30MAENYI;30KET;30NDAANGGEUAET;30KUOQ;30MOOMEUT;30SHUM;30LOMMAE;30FIRI;30ROM;30KPOQ",
  "1683C;30SOQ;30MAP PIEET;30SHIRAE;30NTAP;30SHOQ NSHUT YUM;30NYIT MONGKEUAEQ;30PAARAE;30NKAARAE;30UNKNOWN",
  "16845;30NGGEN;30MAESI;30NJAM;30MBANYI;30NYET;30TEUAEN;30SOT;30PAAM;30NSHIEE;30MAEM;30NYI;30KAQ;30NSHA",
  "16852;30VEE;30LU;30NEN;30NAQ;30MBAQ;20PHASE-B NSHUET;30TU MAEMGBIEE;30SIEE;30SET TU;30LOM NTEUM",
  "1685C;30MBA MAELEE;30KIEEM;30YEURAE;30MBAARAE;30KAM;30PEESHI;30YAFU LEERAEWA;30LAM NSHUT NYAM",
  "16864;30NTIEE SHEUOQ;30NDU NJAA;30GHEUGHEUAEM;30PIT;30TU NSIEE;30SHET NJAQ;30SHEUAEQTU;30MFON TEUAEQ",
  "1686C;30MBIT MBAAKET;30NYI NTEUM;30KEUPUQ;30GHEUGHEN;30KEUYEUX;30LAANAE;30PARUM;30VEUM;30NGKINDI MVOP",
  "16875;30NGGEU MBU;30WUAET;30SAKEUAE;30TAAM;30MEUQ;30NGGUOQ;40LARGE;30MFIYAQ;30SUE;30MBEURI;30MONTIEEN",
  "16880;30NYAEMAE;30PUNGAAM;30MEUT NGGEET;30FEUX;30MBUOQ;30FEE;30KEUAEM;30MA NJEUAENA;40NJUQA;30LET",
  "1688A;30NGGAAM;30NSEN;30MA;30KIQ;30NGOM;20PHASE-C NGKUE MAEMBA;30NZA;30YUM;30WANGKUOQ;30NGGEN",
  "16894;30NDEUAEREE;30NGKAQ;30GHARAE;30MBEEKEET;30GBAYI;30NYIR MKPARAQ MEUN;30NTU MBIT;30MBEUM;30PIRIEEN",
  "1689D;30NDOMBU;30MBAA CABBAGE-TREE;30KEUSHEUAEP;30GHAP;30KEUKAQ;30YU MUOMAE;30NZEUM;30MBUE;30NSEUAEN",
  "168A6;30MBIT;30YEUQ;30KPARAQ;30KAA;30SEUX;30NDIDA;30TAASHAE;30NJUEQ;30TITA YUE;30SUAET;30NGGUAEN NYAM",
  "168B1;30VEUX;30NANSANAQ;30MA KEUAERI;30NTAA;30NGGUON;30LAP;30MBIRIEEN;30MGBASAQ;30NTEUNGBA;30TEUTEUX",
  "168BB;30NGGUM;30FUE;30NDEUT;30NSA;30NSHAQ;30BUNG;30VEUAEPEN;30MBERAE;30RU;30NJAEM;30LAM;30TITUAEP",
  "168C7;30NSUOT NGOM;30NJEEEE;30KET;30NGGU;30MAESI;30MBUAEM;30LU;30KUT;30NJAM;30NGOM;30WUP;30NGGUEET",
  "168D3;30NSOM;30NTEN;30KUOP NKAARAE;30NSUN;30NDAM;30MA NSIEE;30YAA;30NDAP;30SHUEQ;30SETFON;30MBI;30MAEMBA",
  "168DF;30MBANYI;30KEUSEUX;30MBEUX;30KEUM;30MBAA PICKET;30YUWOQ;30NJEUX;30MIEE;30MUAE;30SHIQ;30KEN LAW",
  "168EA;40FATIGUE;30NGAQ;30NAQ;30LIQ;30PIN;30PEN;30TET;20PHASE-D MBUO;30WAP;30NJI;30MFON;30NJIEE;30LIEE",
  "168F7;30NJEUT;30NSHEE;30NGGAAMAE;30NYAM;30WUAEN;30NGKUN;30SHEE;30NGKAP;30KEUAETMEUN;30TEUT;30SHEUAE",
  "16902;30NJAP;30SUE;30KET;30YAEMMAE;30KUOM;30SAP;30MFEUT;30NDEUX;30MALEERI;30MEUT;30SEUAEQ;30YEN",
  "1690E;30NJEUAEM;30KEUOT MBUAE;30NGKEURI;30TU;30GHAA;30NGKYEE;30FEUFEUAET;30NDEE;30MGBOFUM;30LEUAEP",
  "16918;30NDON;30MONI;30MGBEUN;30PUUT;30MGBIEE;30MFO;30LUM;30NSIEEP;30MBAA;30KWAET;30NYET;30TEUAEN;30SOT",
  "16925;30YUWOQ;30KEUM;30RAEM;30TEEEE;30NGKEUAEQ;30MFEUAE;30NSIEET;30KEUP;30PIP;30PEUTAE;30NYUE;30LET"]

private def characterNameRows20 : List String := [
  "16931;30NGGAAM;30MFIEE;30NGGWAEN;30YUOM;30PAP;30YUOP;30NDAM;30NTEUM;30SUAE;30KUN;30NGGEUX;30NGKIEE",
  "1693D;30TUOT;30MEUN;30KUQ;30NSUM;30TEUN;30MAENJET;30NGGAP;30LEUM;30NGGUOM;30NSHUT;30NJUEQ;30GHEUAE;30KU",
  "1694A;30REN OLD;30TAE;30TOQ;30NYI;30RII;30LEEEE;30MEEEE;30M;30SUU;30MU;30SHII;30SHEUX;30KYEE;30NU;30SHU",
  "16959;30NTEE;30PEE;30NI;30SHOQ;30PUQ;30MVOP;30LOQ;30REN MUCH;30TI;30NTUU;30MBAA SEVEN;30SAQ;30FAA",
  "16966;20PHASE-E NDAP;30TOON;30MBEUM;30LAP;30VOM;30LOON;30PAA;30SOM;30RAQ;30NSHUOP;30NDUN;30PUAE;30TAM",
  "16973;30NGKA;30KPEUX;30WUO;30SEE;30NGGEUAET;30PAAM;30TOO;30KUOP;30LOM;30NSHIEE;30NGOP;30MAEM;30NGKEUX",
  "16980;30NGOQ;30NSHUE;30RIMGBA;30NJEUX;30PEEM;30SAA;30NGGURAE;30MGBA;30GHEUX;30NGKEUAEM;30NJAEMLI;30MAP",
  "1698C;30LOOT;30NGGEEEE;30NDIQ;30TAEN NTEUM;30SET;30PUM;30NDAA SOFTNESS;30NGGUAESHAE NYAM;30YIEE;30GHEUN",
  "16996;30TUAE;30YEUAE;30PO;30TUMAE;30KEUAE;30SUAEN;30TEUAEQ;30VEUAE;30WEUX;30LAAM;30PU;30TAAQ;30GHAAMAE",
  "169A3;30NGEUREUT;30SHEUAEQ;30MGBEN;30MBEE;30NZAQ;30NKOM;30GBET;30TUM;30KUET;30YAP;30NYI CLEAVER;30YIT",
  "169AF;30MFEUQ;30NDIAQ;30PIEEQ;30YUEQ;30LEUAEM;30FUE;30GBEUX;30NGKUP;30KET;30MAE;30NGKAAMI;30GHET;30FA",
  "169BC;30NTUM;30PEUT;30YEUM;30NGGEUAE;30NYI BETWEEN;30NZUQ;30POON;30MIEE;30FUET;30NAE;30MUAE;30GHEUAE",
  "169C8;30FU I;30MVI;30PUAQ;30NGKUM;30KUT;30PIET;30NTAP;30YEUAET;30NGGUP;30PA PEOPLE;30FU CALL;30FOM",
  "169D4;30NJEE;30A;30TOQ;30O;30I;30LAQ;30PA PLURAL;30TAA;30TAQ;30NDAA MY HOUSE;30SHIQ;30YEUX;30NGUAE",
  "169E1;30YUAEN;30YOQ SWIMMING;40COVER;30YUQ;30YUN;30KEUX;30PEUX;30NJEE EPOCH;30PUE;30WUE;30FEE;30VEE;30LU",
  "169EE;30MI;30REUX;30RAE;30NGUAET;30NGA;30SHO;30SHOQ;30FU REMEDY;30NA;30PI;30LOQ;30KO;30MEN;30MA;30MAQ",
  "169FD;30TEU;30KI;30MON;30TEN;30FAQ;30GHOM;20PHASE-F KA;30U;30KU;30EE;30REE;30TAE;30NYI;30LA;30RII;30RIEE",
  "16A0D;30MEEEE;30TAA;30NDAA;30NJAEM;30M;30SUU;30SHII;30SI;30SEUX;30KYEE;30KET;30NUAE;30NU;30NJUAE;30YOQ",
  "16A1C;30SHU;30YA;30NSHA;30PEUX;30NTEE;30WUE;30PEE;30RU;30NI;30REUX;30KEN;30NGKWAEN;30NGGA;30SHO;30PUAE",
  "16A2B;30FOM;30WA;30LI;30LOQ;30KO;30MBEN;30REN;30MA;30MO;30MBAA;30TET;30KPA;30SAMBA;30VUEQ",
  "16A40;00MRO LETTER TA;20NGI;20YO;20MIM;20BA;20DA;20A;20PHI;20KHAI;20HAO;20DAI;20CHU;20KEAAE;20OL;20MAEM",
  "16A4F;20NIN;20PA;20OO;20O;20RO;20SHI;20THEA;20EA;20WA;20E;20KO;20LAN;20LA;20HAI;20RI;20TEK",
  "16A60;10DIGIT ZERO;20ONE;20TWO;20THREE;20FOUR;20FIVE;20SIX;20SEVEN;20EIGHT;20NINE",
  "16A6E;10DANDA;11DOUBLE;00TANGSA LETTER OZ;20OC;20OQ;20OX;20AZ;20AC;20AQ;20AX;20VZ;20VC;20VQ;20VX;20EZ",
  "16A7D;20EC;20EQ;20EX;20IZ;20IC;20IQ;20IX;20UZ;20UC;20UQ;20UX;20AWZ;20AWC;20AWQ;20AWX;20UIZ;20UIC;20UIQ",
  "16A8F;20UIX;20FINAL NG;20LONG UEX;20SHORT UEZ;30AWX;20UEC;20UEZ;20UEQ;20UEX;20UIUZ;20UIUC;20UIUQ;20UIUX",
  "16A9C;20MZ;20MC;20MQ;20MX;20KA;20KHA;20GA;20NGA;20SA;20YA;20WA;20PA;20NYA;20PHA;20BA;20MA;20NA;20HA;20LA",
  "16AAF;20HTA;20TA;20DA;20RA;20NHA;20SHA;20CA;20TSA;20GHA;20HTTA;20THA;20XA;20FA;20DHA;20CHA;20ZA",
  "16AC0;10DIGIT ZERO;20ONE;20TWO;20THREE;20FOUR;20FIVE;20SIX;20SEVEN;20EIGHT;20NINE",
  "16AD0;00BASSA VAH LETTER ENNI;30KA;30SE;30FA;30MBE;30YIE;30GAH;30DHII;30KPAH;30JO;30HWAH;30WA;30ZO;30GBU",
  "16ADE;30DO;30CE;30UWU;30TO;30BA;30VU;30YEIN;30PA;30WADDA;30A;30O;30OO;30U;30EE;30E;30I",
  "16AF0;20COMBINING HIGH TONE;31LOW;31MID;31LOW-MID;31HIGH-LOW;20FULL STOP",
  "16B00;00PAHAWH HMONG VOWEL KEEB;30KEEV;30KIB;30KIV;30KAUB;30KAUV;30KUB;30KUV;30KEB;30KEV;30KAIB;30KAIV",
  "16B0C;30KOOB;30KOOV;30KAWB;30KAWV;30KUAB;30KUAV;30KOB;30KOV;30KIAB;30KIAV;30KAB;30KAV;30KWB;30KWV;30KAAB",
  "16B1B;30KAAV;20CONSONANT VAU;30NTSAU;30LAU;30HAU;30NLAU;30RAU;30NKAU;30QHAU;30YAU;30HLAU;30MAU;30CHAU",
  "16B28;30NCHAU;30HNAU;30PLHAU;30NTHAU;30NAU;30AU;30XAU;30CAU;20MARK CIM TUB;40SO;40KES;40KHAV;40SUAM",
  "16B35;40HOM;40TAUM;20SIGN VOS THOM;40TSHAB CEEB;30CIM CHEEM;30VOS THIAB;40FEEM;30XYEEM NTXIV;40RHO;40TOV",
  "16B3F;40FAIB;30VOS SEEV;30MEEJ SUAB;30VOS NRUA;30IB YAM;30XAUS;30CIM TSOV ROG",
  "16B50;20DIGIT ZERO;30ONE;30TWO;30THREE;30FOUR;30FIVE;30SIX;30SEVEN;30EIGHT;30NINE",
  "16B5B;20NUMBER TENS;30HUNDREDS;30TEN THOUSANDS;30MILLIONS;31HUNDRED;30TEN BILLIONS;30TRILLIONS",
  "16B63;20SIGN VOS LUB;30XYOO;30HLI;31THIRD-STAGE;30ZWJ THAJ;30HNUB;30NQIG;30XIAB;30NTUJ;30AV",
  "16B6D;30TXHEEJ CEEV;30MEEJ TSEEB;30TAU;30LOS;30MUS;30CIM HAIS LUS NTOG NTOG;40CUAM TSHOOJ;40TXWV;50CHWV",
  "16B76;40PUB DAWB;40NRES TOS",
  "16B7D;20CLAN SIGN TSHEEJ;40YEEG;40LIS;40LAUJ;40XYOOJ;40KOO;40HAWJ;40MUAS;40THOJ;40TSAB;40PHAB;40KHAB",
  "16B89;40HAM;40VAJ;40FAJ;40YAJ;40TSWB;40KWM;40VWJ",
  "16E40;00MEDEFAIDRIN CAPITAL LETTER M;30S;30V;30W;30ATIU;30Z;30KP;30P;30T;30G;30F;30I;30K;30A;30J;30E;30B",
  "16E51;30C;30U;30YU;30L;30Q;30HP;30NY;30X;30D;30OE;30N;30R;30O;30AI;30Y;10SMALL LETTER M;30S;30V;30W",
  "16E64;30ATIU;30Z;30KP;30P;30T;30G;30F;30I;30K;30A;30J;30E;30B;30C;30U;30YU;30L;30Q;30HP;30NY;30X;30D",
  "16E7A;30OE;30N;30R;30O;30AI;30Y;10DIGIT ZERO;20ONE;20TWO;20THREE;20FOUR;20FIVE;20SIX;20SEVEN;20EIGHT",
  "16E89;20NINE;10NUMBER TEN;20ELEVEN;20TWELVE;20THIRTEEN;20FOURTEEN;20FIFTEEN;20SIXTEEN;20SEVENTEEN",
  "16E92;20EIGHTEEN;20NINETEEN;10DIGIT ONE ALTERNATE FORM;22TWO;22THREE;10COMMA;10FULL STOP;10SYMBOL AIVA",
  "16E9A;10EXCLAMATION OH",
  "16F00;00MIAO LETTER PA;20BA;20YI PA;20PLA;20MA;20MHA;20ARCHAIC MA;20FA;20VA;20VFA;20TA;20DA;20YI TTA",
  "16F0D;30TA;20TTA;20DDA;20NA;20NHA;20YI NNA;20ARCHAIC NA;20NNA;20NNHA;20LA;20LYA;20LHA;20LHYA;20TLHA",
  "16F1B;20DLHA;20TLHYA;20DLHYA;20KA;20GA;20YI KA;20QA;20QGA;20NGA;20NGHA;20ARCHAIC NGA;20HA;20XA;20GHA",
  "16F29;20GHHA;20TSSA;20DZZA;20NYA;20NYHA;20TSHA;20DZHA;20YI TSHA;30DZHA;20REFORMED TSHA;20SHA;20SSA;20ZHA",
  "16F36;20ZSHA;20TSA;20DZA;20YI TSA;20SA;20ZA;20ZSA;20ZZA;20ZZSA;20ARCHAIC ZZA;20ZZYA;20ZZSYA;20WA;20AH",
  "16F44;20HHA;20BRI;20SYI;20DZYI;20TE;20TSE;20RTE",
  "16F4F;10SIGN CONSONANT MODIFIER BAR;10LETTER NASALIZATION;10SIGN ASPIRATION;20REFORMED VOICING",
  "16F53;30ASPIRATION;10VOWEL SIGN A;30AA;30AHH;30AN;30ANG;30O;30OO;30WO;30W;30E;30EN;30ENG;30OEY;30I;30IA",
  "16F63;30IAN;30IANG;30IO;30IE;30II;30IU;30ING;30U;30UA;30UAN;30UANG;30UU;30UEI;30UNG;30Y;30YI;30AE;30AEE",
  "16F75;30ERR;31ROUNDED;30ER;31ROUNDED;30AI;30EI;30AU;30OU;30N;30NG;30UOG;30YUI;30OG;30OER;30VW;30IG;30EA",
  "16F86;30IONG;30UI",
  "16F8F;10TONE RIGHT;21TOP;20ABOVE;20BELOW;10LETTER TONE-2;20TONE-3;20TONE-4;20TONE-5;20TONE-6;20TONE-7",
  "16F99;20TONE-8;20REFORMED TONE-1;30TONE-2;30TONE-4;30TONE-5;30TONE-6;30TONE-8",
  "16FE0;00TANGUT ITERATION MARK;02NUSHU;01OLD CHINESE HOOK;21ITERATION;00KHITAN SMALL SCRIPT FILLER",
  "16FF0;00VIETNAMESE ALTERNATE READING MARK CA;40NHAY",
  "18800;00TANGUT COMPONENT-001;10COMPONENT-002;10COMPONENT-003;10COMPONENT-004;10COMPONENT-005",
  "18805;10COMPONENT-006;10COMPONENT-007;10COMPONENT-008;10COMPONENT-009;10COMPONENT-010;10COMPONENT-011",
  "1880B;10COMPONENT-012;10COMPONENT-013;10COMPONENT-014;10COMPONENT-015;10COMPONENT-016;10COMPONENT-017",
  "18811;10COMPONENT-018;10COMPONENT-019;10COMPONENT-020;10COMPONENT-021;10COMPONENT-022;10COMPONENT-023",
  "18817;10COMPONENT-024;10COMPONENT-025;10COMPONENT-026;10COMPONENT-027;10COMPONENT-028;10COMPONENT-029",
  "1881D;10COMPONENT-030;10COMPONENT-031;10COMPONENT-032;10COMPONENT-033;10COMPONENT-034;10COMPONENT-035",
  "18823;10COMPONENT-036;10COMPONENT-037;10COMPONENT-038;10COMPONENT-039;10COMPONENT-040;10COMPONENT-041",
  "18829;10COMPONENT-042;10COMPONENT-043;10COMPONENT-044;10COMPONENT-045;10COMPONENT-046;10COMPONENT-047",
  "1882F;10COMPONENT-048;10COMPONENT-049;10COMPONENT-050;10COMPONENT-051;10COMPONENT-052;10COMPONENT-053",
  "18835;10COMPONENT-054;10COMPONENT-055;10COMPONENT-056;10COMPONENT-057;10COMPONENT-058;10COMPONENT-059",
  "1883B;10COMPONENT-060;10COMPONENT-061;10COMPONENT-062;10COMPONENT-063;10COMPONENT-064;10COMPONENT-065",
  "18841;10COMPONENT-066;10COMPONENT-067;10COMPONENT-068;10COMPONENT-069;10COMPONENT-070;10COMPONENT-071",
  "18847;10COMPONENT-072;10COMPONENT-073;10COMPONENT-074;10COMPONENT-075;10COMPONENT-076;10COMPONENT-077",
  "1884D;10COMPONENT-078;10COMPONENT-079;10COMPONENT-080;10COMPONENT-081;10COMPONENT-082;10COMPONENT-083",
  "18853;10COMPONENT-084;10COMPONENT-085;10COMPONENT-086;10COMPONENT-087;10COMPONENT-088;10COMPONENT-089",
  "18859;10COMPONENT-090;10COMPONENT-091;10COMPONENT-092;10COMPONENT-093;10COMPONENT-094;10COMPONENT-095",
  "1885F;10COMPONENT-096;10COMPONENT-097;10COMPONENT-098;10COMPONENT-099;10COMPONENT-100;10COMPONENT-101",
  "18865;10COMPONENT-102;10COMPONENT-103;10COMPONENT-104;10COMPONENT-105;10COMPONENT-106;10COMPONENT-107",
  "1886B;10COMPONENT-108;10COMPONENT-109;10COMPONENT-110;10COMPONENT-111;10COMPONENT-112;10COMPONENT-113",
  "18871;10COMPONENT-114;10COMPONENT-115;10COMPONENT-116;10COMPONENT-117;10COMPONENT-118;10COMPONENT-119",
  "18877;10COMPONENT-120;10COMPONENT-121;10COMPONENT-122;10COMPONENT-123;10COMPONENT-124;10COMPONENT-125",
  "1887D;10COMPONENT-126;10COMPONENT-127;10COMPONENT-128;10COMPONENT-129;10COMPONENT-130;10COMPONENT-131",
  "18883;10COMPONENT-132;10COMPONENT-133;10COMPONENT-134;10COMPONENT-135;10COMPONENT-136;10COMPONENT-137",
  "18889;10COMPONENT-138;10COMPONENT-139;10COMPONENT-140;10COMPONENT-141;10COMPONENT-142;10COMPONENT-143",
  "1888F;10COMPONENT-144;10COMPONENT-145;10COMPONENT-146;10COMPONENT-147;10COMPONENT-148;10COMPONENT-149",
  "18895;10COMPONENT-150;10COMPONENT-151;10COMPONENT-152;10COMPONENT-153;10COMPONENT-154;10COMPONENT-155",
  "1889B;10COMPONENT-156;10COMPONENT-157;10COMPONENT-158;10COMPONENT-159;10COMPONENT-160;10COMPONENT-161",
  "188A1;10COMPONENT-162;10COMPONENT-163;10COMPONENT-164;10COMPONENT-165;10COMPONENT-166;10COMPONENT-167",
  "188A7;10COMPONENT-168;10COMPONENT-169;10COMPONENT-170;10COMPONENT-171;10COMPONENT-172;10COMPONENT-173",
  "188AD;10COMPONENT-174;10COMPONENT-175;10COMPONENT-176;10COMPONENT-177;10COMPONENT-178;10COMPONENT-179",
  "188B3;10COMPONENT-180;10COMPONENT-181;10COMPONENT-182;10COMPONENT-183;10COMPONENT-184;10COMPONENT-185",
  "188B9;10COMPONENT-186;10COMPONENT-187;10COMPONENT-188;10COMPONENT-189;10COMPONENT-190;10COMPONENT-191",
  "188BF;10COMPONENT-192;10COMPONENT-193;10COMPONENT-194;10COMPONENT-195;10COMPONENT-196;10COMPONENT-197",
  "188C5;10COMPONENT-198;10COMPONENT-199;10COMPONENT-200;10COMPONENT-201;10COMPONENT-202;10COMPONENT-203",
  "188CB;10COMPONENT-204;10COMPONENT-205;10COMPONENT-206;10COMPONENT-207;10COMPONENT-208;10COMPONENT-209",
  "188D1;10COMPONENT-210;10COMPONENT-211;10COMPONENT-212;10COMPONENT-213;10COMPONENT-214;10COMPONENT-215",
  "188D7;10COMPONENT-216;10COMPONENT-217;10COMPONENT-218;10COMPONENT-219;10COMPONENT-220;10COMPONENT-221",
  "188DD;10COMPONENT-222;10COMPONENT-223;10COMPONENT-224;10COMPONENT-225;10COMPONENT-226;10COMPONENT-227",
  "188E3;10COMPONENT-228;10COMPONENT-229;10COMPONENT-230;10COMPONENT-231;10COMPONENT-232;10COMPONENT-233",
  "188E9;10COMPONENT-234;10COMPONENT-235;10COMPONENT-236;10COMPONENT-237;10COMPONENT-238;10COMPONENT-239",
  "188EF;10COMPONENT-240;10COMPONENT-241;10COMPONENT-242;10COMPONENT-243;10COMPONENT-244;10COMPONENT-245",
  "188F5;10COMPONENT-246;10COMPONENT-247;10COMPONENT-248;10COMPONENT-249;10COMPONENT-250;10COMPONENT-251",
  "188FB;10COMPONENT-252;10COMPONENT-253;10COMPONENT-254;10COMPONENT-255;10COMPONENT-256;10COMPONENT-257",
  "18901;10COMPONENT-258;10COMPONENT-259;10COMPONENT-260;10COMPONENT-261;10COMPONENT-262;10COMPONENT-263",
  "18907;10COMPONENT-264;10COMPONENT-265;10COMPONENT-266;10COMPONENT-267;10COMPONENT-268;10COMPONENT-269",
  "1890D;10COMPONENT-270;10COMPONENT-271;10COMPONENT-272;10COMPONENT-273;10COMPONENT-274;10COMPONENT-275",
  "18913;10COMPONENT-276;10COMPONENT-277;10COMPONENT-278;10COMPONENT-279;10COMPONENT-280;10COMPONENT-281",
  "18919;10COMPONENT-282;10COMPONENT-283;10COMPONENT-284;10COMPONENT-285;10COMPONENT-286;10COMPONENT-287",
  "1891F;10COMPONENT-288;10COMPONENT-289;10COMPONENT-290;10COMPONENT-291;10COMPONENT-292;10COMPONENT-293",
  "18925;10COMPONENT-294;10COMPONENT-295;10COMPONENT-296;10COMPONENT-297;10COMPONENT-298;10COMPONENT-299",
  "1892B;10COMPONENT-300;10COMPONENT-301;10COMPONENT-302;10COMPONENT-303;10COMPONENT-304;10COMPONENT-305",
  "18931;10COMPONENT-306;10COMPONENT-307;10COMPONENT-308;10COMPONENT-309;10COMPONENT-310;10COMPONENT-311",
  "18937;10COMPONENT-312;10COMPONENT-313;10COMPONENT-314;10COMPONENT-315;10COMPONENT-316;10COMPONENT-317",
  "1893D;10COMPONENT-318;10COMPONENT-319;10COMPONENT-320;10COMPONENT-321;10COMPONENT-322;10COMPONENT-323",
  "18943;10COMPONENT-324;10COMPONENT-325;10COMPONENT-326;10COMPONENT-327;10COMPONENT-328;10COMPONENT-329",
  "18949;10COMPONENT-330;10COMPONENT-331;10COMPONENT-332;10COMPONENT-333;10COMPONENT-334;10COMPONENT-335",
  "1894F;10COMPONENT-336;10COMPONENT-337;10COMPONENT-338;10COMPONENT-339;10COMPONENT-340;10COMPONENT-341",
  "18955;10COMPONENT-342;10COMPONENT-343;10COMPONENT-344;10COMPONENT-345;10COMPONENT-346;10COMPONENT-347",
  "1895B;10COMPONENT-348;10COMPONENT-349;10COMPONENT-350;10COMPONENT-351;10COMPONENT-352;10COMPONENT-353",
  "18961;10COMPONENT-354;10COMPONENT-355;10COMPONENT-356;10COMPONENT-357;10COMPONENT-358;10COMPONENT-359",
  "18967;10COMPONENT-360;10COMPONENT-361;10COMPONENT-362;10COMPONENT-363;10COMPONENT-364;10COMPONENT-365",
  "1896D;10COMPONENT-366;10COMPONENT-367;10COMPONENT-368;10COMPONENT-369;10COMPONENT-370;10COMPONENT-371",
  "18973;10COMPONENT-372;10COMPONENT-373;10COMPONENT-374;10COMPONENT-375;10COMPONENT-376;10COMPONENT-377",
  "18979;10COMPONENT-378;10COMPONENT-379;10COMPONENT-380;10COMPONENT-381;10COMPONENT-382;10COMPONENT-383",
  "1897F;10COMPONENT-384;10COMPONENT-385;10COMPONENT-386;10COMPONENT-387;10COMPONENT-388;10COMPONENT-389",
  "18985;10COMPONENT-390;10COMPONENT-391;10COMPONENT-392;10COMPONENT-393;10COMPONENT-394;10COMPONENT-395",
  "1898B;10COMPONENT-396;10COMPONENT-397;10COMPONENT-398;10COMPONENT-399;10COMPONENT-400;10COMPONENT-401",
  "18991;10COMPONENT-402;10COMPONENT-403;10COMPONENT-404;10COMPONENT-405;10COMPONENT-406;10COMPONENT-407",
  "18997;10COMPONENT-408;10COMPONENT-409;10COMPONENT-410;10COMPONENT-411;10COMPONENT-412;10COMPONENT-413",
  "1899D;10COMPONENT-414;10COMPONENT-415;10COMPONENT-416;10COMPONENT-417;10COMPONENT-418;10COMPONENT-419",
  "189A3;10COMPONENT-420;10COMPONENT-421;10COMPONENT-422;10COMPONENT-423;10COMPONENT-424;10COMPONENT-425",
  "189A9;10COMPONENT-426;10COMPONENT-427;10COMPONENT-428;10COMPONENT-429;10COMPONENT-430;10COMPONENT-431",
  "189AF;10COMPONENT-432;10COMPONENT-433;10COMPONENT-434;10COMPONENT-435;10COMPONENT-436;10COMPONENT-437",
  "189B5;10COMPONENT-438;10COMPONENT-439;10COMPONENT-440;10COMPONENT-441;10COMPONENT-442;10COMPONENT-443",
  "189BB;10COMPONENT-444;10COMPONENT-445;10COMPONENT-446;10COMPONENT-447;10COMPONENT-448;10COMPONENT-449",
  "189C1;10COMPONENT-450;10COMPONENT-451;10COMPONENT-452;10COMPONENT-453;10COMPONENT-454;10COMPONENT-455",
  "189C7;10COMPONENT-456;10COMPONENT-457;10COMPONENT-458;10COMPONENT-459;10COMPONENT-460;10COMPONENT-461",
  "189CD;10COMPONENT-462;10COMPONENT-463;10COMPONENT-464;10COMPONENT-465;10COMPONENT-466;10COMPONENT-467",
  "189D3;10COMPONENT-468;10COMPONENT-469;10COMPONENT-470;10COMPONENT-471;10COMPONENT-472;10COMPONENT-473",
  "189D9;10COMPONENT-474;10COMPONENT-475;10COMPONENT-476;10COMPONENT-477;10COMPONENT-478;10COMPONENT-479",
  "189DF;10COMPONENT-480;10COMPONENT-481;10COMPONENT-482;10COMPONENT-483;10COMPONENT-484;10COMPONENT-485",
  "189E5;10COMPONENT-486;10COMPONENT-487;10COMPONENT-488;10COMPONENT-489;10COMPONENT-490;10COMPONENT-491",
  "189EB;10COMPONENT-492;10COMPONENT-493;10COMPONENT-494;10COMPONENT-495;10COMPONENT-496;10COMPONENT-497",
  "189F1;10COMPONENT-498;10COMPONENT-499;10COMPONENT-500;10COMPONENT-501;10COMPONENT-502;10COMPONENT-503",
  "189F7;10COMPONENT-504;10COMPONENT-505;10COMPONENT-506;10COMPONENT-507;10COMPONENT-508;10COMPONENT-509",
  "189FD;10COMPONENT-510;10COMPONENT-511;10COMPONENT-512;10COMPONENT-513;10COMPONENT-514;10COMPONENT-515",
  "18A03;10COMPONENT-516;10COMPONENT-517;10COMPONENT-518;10COMPONENT-519;10COMPONENT-520;10COMPONENT-521",
  "18A09;10COMPONENT-522;10COMPONENT-523;10COMPONENT-524;10COMPONENT-525;10COMPONENT-526;10COMPONENT-527",
  "18A0F;10COMPONENT-528;10COMPONENT-529;10COMPONENT-530;10COMPONENT-531;10COMPONENT-532;10COMPONENT-533",
  "18A15;10COMPONENT-534;10COMPONENT-535;10COMPONENT-536;10COMPONENT-537;10COMPONENT-538;10COMPONENT-539",
  "18A1B;10COMPONENT-540;10COMPONENT-541;10COMPONENT-542;10COMPONENT-543;10COMPONENT-544;10COMPONENT-545",
  "18A21;10COMPONENT-546;10COMPONENT-547;10COMPONENT-548;10COMPONENT-549;10COMPONENT-550;10COMPONENT-551",
  "18A27;10COMPONENT-552;10COMPONENT-553;10COMPONENT-554;10COMPONENT-555;10COMPONENT-556;10COMPONENT-557"]

private def characterNameRows21 : List String := [
  "18A2D;10COMPONENT-558;10COMPONENT-559;10COMPONENT-560;10COMPONENT-561;10COMPONENT-562;10COMPONENT-563",
  "18A33;10COMPONENT-564;10COMPONENT-565;10COMPONENT-566;10COMPONENT-567;10COMPONENT-568;10COMPONENT-569",
  "18A39;10COMPONENT-570;10COMPONENT-571;10COMPONENT-572;10COMPONENT-573;10COMPONENT-574;10COMPONENT-575",
  "18A3F;10COMPONENT-576;10COMPONENT-577;10COMPONENT-578;10COMPONENT-579;10COMPONENT-580;10COMPONENT-581",
  "18A45;10COMPONENT-582;10COMPONENT-583;10COMPONENT-584;10COMPONENT-585;10COMPONENT-586;10COMPONENT-587",
  "18A4B;10COMPONENT-588;10COMPONENT-589;10COMPONENT-590;10COMPONENT-591;10COMPONENT-592;10COMPONENT-593",
  "18A51;10COMPONENT-594;10COMPONENT-595;10COMPONENT-596;10COMPONENT-597;10COMPONENT-598;10COMPONENT-599",
  "18A57;10COMPONENT-600;10COMPONENT-601;10COMPONENT-602;10COMPONENT-603;10COMPONENT-604;10COMPONENT-605",
  "18A5D;10COMPONENT-606;10COMPONENT-607;10COMPONENT-608;10COMPONENT-609;10COMPONENT-610;10COMPONENT-611",
  "18A63;10COMPONENT-612;10COMPONENT-613;10COMPONENT-614;10COMPONENT-615;10COMPONENT-616;10COMPONENT-617",
  "18A69;10COMPONENT-618;10COMPONENT-619;10COMPONENT-620;10COMPONENT-621;10COMPONENT-622;10COMPONENT-623",
  "18A6F;10COMPONENT-624;10COMPONENT-625;10COMPONENT-626;10COMPONENT-627;10COMPONENT-628;10COMPONENT-629",
  "18A75;10COMPONENT-630;10COMPONENT-631;10COMPONENT-632;10COMPONENT-633;10COMPONENT-634;10COMPONENT-635",
  "18A7B;10COMPONENT-636;10COMPONENT-637;10COMPONENT-638;10COMPONENT-639;10COMPONENT-640;10COMPONENT-641",
  "18A81;10COMPONENT-642;10COMPONENT-643;10COMPONENT-644;10COMPONENT-645;10COMPONENT-646;10COMPONENT-647",
  "18A87;10COMPONENT-648;10COMPONENT-649;10COMPONENT-650;10COMPONENT-651;10COMPONENT-652;10COMPONENT-653",
  "18A8D;10COMPONENT-654;10COMPONENT-655;10COMPONENT-656;10COMPONENT-657;10COMPONENT-658;10COMPONENT-659",
  "18A93;10COMPONENT-660;10COMPONENT-661;10COMPONENT-662;10COMPONENT-663;10COMPONENT-664;10COMPONENT-665",
  "18A99;10COMPONENT-666;10COMPONENT-667;10COMPONENT-668;10COMPONENT-669;10COMPONENT-670;10COMPONENT-671",
  "18A9F;10COMPONENT-672;10COMPONENT-673;10COMPONENT-674;10COMPONENT-675;10COMPONENT-676;10COMPONENT-677",
  "18AA5;10COMPONENT-678;10COMPONENT-679;10COMPONENT-680;10COMPONENT-681;10COMPONENT-682;10COMPONENT-683",
  "18AAB;10COMPONENT-684;10COMPONENT-685;10COMPONENT-686;10COMPONENT-687;10COMPONENT-688;10COMPONENT-689",
  "18AB1;10COMPONENT-690;10COMPONENT-691;10COMPONENT-692;10COMPONENT-693;10COMPONENT-694;10COMPONENT-695",
  "18AB7;10COMPONENT-696;10COMPONENT-697;10COMPONENT-698;10COMPONENT-699;10COMPONENT-700;10COMPONENT-701",
  "18ABD;10COMPONENT-702;10COMPONENT-703;10COMPONENT-704;10COMPONENT-705;10COMPONENT-706;10COMPONENT-707",
  "18AC3;10COMPONENT-708;10COMPONENT-709;10COMPONENT-710;10COMPONENT-711;10COMPONENT-712;10COMPONENT-713",
  "18AC9;10COMPONENT-714;10COMPONENT-715;10COMPONENT-716;10COMPONENT-717;10COMPONENT-718;10COMPONENT-719",
  "18ACF;10COMPONENT-720;10COMPONENT-721;10COMPONENT-722;10COMPONENT-723;10COMPONENT-724;10COMPONENT-725",
  "18AD5;10COMPONENT-726;10COMPONENT-727;10COMPONENT-728;10COMPONENT-729;10COMPONENT-730;10COMPONENT-731",
  "18ADB;10COMPONENT-732;10COMPONENT-733;10COMPONENT-734;10COMPONENT-735;10COMPONENT-736;10COMPONENT-737",
  "18AE1;10COMPONENT-738;10COMPONENT-739;10COMPONENT-740;10COMPONENT-741;10COMPONENT-742;10COMPONENT-743",
  "18AE7;10COMPONENT-744;10COMPONENT-745;10COMPONENT-746;10COMPONENT-747;10COMPONENT-748;10COMPONENT-749",
  "18AED;10COMPONENT-750;10COMPONENT-751;10COMPONENT-752;10COMPONENT-753;10COMPONENT-754;10COMPONENT-755",
  "18AF3;10COMPONENT-756;10COMPONENT-757;10COMPONENT-758;10COMPONENT-759;10COMPONENT-760;10COMPONENT-761",
  "18AF9;10COMPONENT-762;10COMPONENT-763;10COMPONENT-764;10COMPONENT-765;10COMPONENT-766;10COMPONENT-767",
  "18AFF;10COMPONENT-768",
  "1AFF0;00KATAKANA LETTER MINNAN TONE-2;30TONE-3;30TONE-4;30TONE-5",
  "1AFF5;30TONE-7;30TONE-8;30NASALIZED TONE-1;40TONE-2;40TONE-3;40TONE-4;40TONE-5",
  "1AFFD;40TONE-7;40TONE-8",
  "1B000;20ARCHAIC E;00HIRAGANA LETTER ARCHAIC YE;00HENTAIGANA LETTER A-1;20A-2;20A-3;20A-WO;20I-1;20I-2",
  "1B008;20I-3;20I-4;20U-1;20U-2;20U-3;20U-4;20U-5;20E-2;20E-3;20E-4;20E-5;20E-6;20O-1;20O-2;20O-3;20KA-1",
  "1B018;20KA-2;20KA-3;20KA-4;20KA-5;20KA-6;20KA-7;20KA-8;20KA-9;20KA-10;20KA-11;20KA-KE;20KI-1;20KI-2",
  "1B025;20KI-3;20KI-4;20KI-5;20KI-6;20KI-7;20KI-8;20KU-1;20KU-2;20KU-3;20KU-4;20KU-5;20KU-6;20KU-7;20KE-1",
  "1B033;20KE-2;20KE-3;20KE-4;20KE-5;20KE-6;20KO-1;20KO-2;20KO-3;20KO-KI;20SA-1;20SA-2;20SA-3;20SA-4;20SA-5",
  "1B041;20SA-6;20SA-7;20SA-8;20SI-1;20SI-2;20SI-3;20SI-4;20SI-5;20SI-6;20SU-1;20SU-2;20SU-3;20SU-4;20SU-5",
  "1B04F;20SU-6;20SU-7;20SU-8;20SE-1;20SE-2;20SE-3;20SE-4;20SE-5;20SO-1;20SO-2;20SO-3;20SO-4;20SO-5;20SO-6",
  "1B05D;20SO-7;20TA-1;20TA-2;20TA-3;20TA-4;20TI-1;20TI-2;20TI-3;20TI-4;20TI-5;20TI-6;20TI-7;20TU-1;20TU-2",
  "1B06B;20TU-3;20TU-4;20TU-TO;20TE-1;20TE-2;20TE-3;20TE-4;20TE-5;20TE-6;20TE-7;20TE-8;20TE-9;20TO-1;20TO-2",
  "1B079;20TO-3;20TO-4;20TO-5;20TO-6;20TO-RA;20NA-1;20NA-2;20NA-3;20NA-4;20NA-5;20NA-6;20NA-7;20NA-8;20NA-9",
  "1B087;20NI-1;20NI-2;20NI-3;20NI-4;20NI-5;20NI-6;20NI-7;20NI-TE;20NU-1;20NU-2;20NU-3;20NE-1;20NE-2;20NE-3",
  "1B095;20NE-4;20NE-5;20NE-6;20NE-KO;20NO-1;20NO-2;20NO-3;20NO-4;20NO-5;20HA-1;20HA-2;20HA-3;20HA-4;20HA-5",
  "1B0A3;20HA-6;20HA-7;20HA-8;20HA-9;20HA-10;20HA-11;20HI-1;20HI-2;20HI-3;20HI-4;20HI-5;20HI-6;20HI-7",
  "1B0B0;20HU-1;20HU-2;20HU-3;20HE-1;20HE-2;20HE-3;20HE-4;20HE-5;20HE-6;20HE-7;20HO-1;20HO-2;20HO-3;20HO-4",
  "1B0BE;20HO-5;20HO-6;20HO-7;20HO-8;20MA-1;20MA-2;20MA-3;20MA-4;20MA-5;20MA-6;20MA-7;20MI-1;20MI-2;20MI-3",
  "1B0CC;20MI-4;20MI-5;20MI-6;20MI-7;20MU-1;20MU-2;20MU-3;20MU-4;20ME-1;20ME-2;20ME-MA;20MO-1;20MO-2;20MO-3",
  "1B0DA;20MO-4;20MO-5;20MO-6;20YA-1;20YA-2;20YA-3;20YA-4;20YA-5;20YA-YO;20YU-1;20YU-2;20YU-3;20YU-4;20YO-1",
  "1B0E8;20YO-2;20YO-3;20YO-4;20YO-5;20YO-6;20RA-1;20RA-2;20RA-3;20RA-4;20RI-1;20RI-2;20RI-3;20RI-4;20RI-5",
  "1B0F6;20RI-6;20RI-7;20RU-1;20RU-2;20RU-3;20RU-4;20RU-5;20RU-6;20RE-1;20RE-2;20RE-3;20RE-4;20RO-1;20RO-2",
  "1B104;20RO-3;20RO-4;20RO-5;20RO-6;20WA-1;20WA-2;20WA-3;20WA-4;20WA-5;20WI-1;20WI-2;20WI-3;20WI-4;20WI-5",
  "1B112;20WE-1;20WE-2;20WE-3;20WE-4;20WO-1;20WO-2;20WO-3;20WO-4;20WO-5;20WO-6;20WO-7;20N-MU-MO-1",
  "1B11E;20N-MU-MO-2;00HIRAGANA LETTER ARCHAIC WU;00KATAKANA LETTER ARCHAIC YI;30YE;30WU",
  "1B150;00HIRAGANA LETTER SMALL WI;30WE;30WO",
  "1B164;00KATAKANA LETTER SMALL WI;30WE;30WO;30N",
  "1BC00;00DUPLOYAN LETTER H;20X;20P;20T;20F;20K;20L;20B;20D;20V;20G;20R;20P N;20D S;20F N;20K M;20R S;20TH",
  "1BC12;20SLOAN DH;21;20KK;20SLOAN J;20HL;20LH;20RH;20M;20N;20J;20S;20M N;20N M;21J;20S J;20M WITH DOT;22N",
  "1BC23;22J;40DOTS INSIDE AND ABOVE;20S WITH DOT;50BELOW;20M S;21N;21J;21S;21M N;21N M;22J;21S J",
  "1BC2F;20J S WITH DOT;30N;40S;20S T;40R;30P;40R;20T S;31R;20W;20WH;20W R;20S N;30M;20K R S;22G;20S K;40R",
  "1BC41;20A;20SLOAN OW;20OA;20O;20AOU;20I;20E;20IE;20SHORT I;20UI;20EE;20SLOAN EH;20ROMANIAN I;20SLOAN EE",
  "1BC4F;20LONG I;20YE;20U;20EU;20XW;20U N;20LONG U;21ROMANIAN;20UH;20SLOAN U;20OOH;20OW;20OU;20WA;20WO",
  "1BC5E;20WI;20WEI;20WOW;20NASAL U;30O;30I;30A;20PERNIN AN;30AM;20SLOAN EN;30AN;30ON;20VOCALIC M",
  "1BC70;10AFFIX LEFT HORIZONTAL SECANT;22MID;22RIGHT;21LOW VERTICAL;22MID;22HIGH;21ATTACHED",
  "1BC77;31LEFT-TO-RIGHT;30TANGENT;30TAIL;30E HOOK;31I;31TANGENT",
  "1BC80;20HIGH ACUTE;31TIGHT;30GRAVE;31LONG;30DOT;30CIRCLE;30LINE;30WAVE;30VERTICAL",
  "1BC90;20LOW ACUTE;31TIGHT;30GRAVE;31LONG;30DOT;30CIRCLE;30LINE;30WAVE;30VERTICAL;30ARROW",
  "1BC9C;10SIGN O WITH CROSS;10THICK LETTER SELECTOR;10DOUBLE MARK;10PUNCTUATION CHINOOK FULL STOP",
  "1BCA0;00SHORTHAND FORMAT LETTER OVERLAP;21CONTINUING;20DOWN STEP;21UP",
  "1CF00;00ZNAMENNY COMBINING MARK GORAZDO NIZKO S KRYZHEM ON LEFT;35;32TSATA;32GORAZDO NIZKO;33;32SREDNE",
  "1CF06;32MALO POVYSHE;33;32VYSOKO;32MALO POVYSHE S KHOKHLOM;35;34VYSOKO",
  "1CF0C;30GORAZDO NIZKO S KRYZHEM ON RIGHT;35;32TSATA;32GORAZDO NIZKO;33;32SREDNE;32MALO POVYSHE;33",
  "1CF14;32VYSOKO;32MALO POVYSHE S KHOKHLOM;35;34VYSOKO;30TSATA S KRYZHEM;32MALO POVYSHE",
  "1CF1A;30STRANNO MALO POVYSHE;30POVYSHE S KRYZHEM;40STRANNO;30VYSOKO S KRYZHEM;30MALO POVYSHE STRANNO",
  "1CF1F;30GORAZDO VYSOKO;30ZELO;30ON;30RAVNO;30TIKHAYA;30BORZAYA;30UDARKA;30PODVERTKA;30LOMKA;30KUPNAYA",
  "1CF29;30KACHKA;30ZEVOK;30SKOBA;30RAZSEKA;30KRYZH ON LEFT",
  "1CF30;20TONAL RANGE MARK MRACHNO;50SVETLO;50TRESVETLO;20MARK ZADERZHKA;31DEMESTVENNY;30OTSECHKA",
  "1CF36;30PODCHASHIE;40WITH VERTICAL STROKE;30CHASHKA;40POLNAYA;30OBLACHKO;30SOROCHYA NOZHKA;30TOCHKA",
  "1CF3D;30DVOETOCHIE;20ATTACHING VERTICAL OMET;21MARK CURVED;30KRYZH;20LOWER TONAL RANGE INDICATOR",
  "1CF42;10PRIZNAK MODIFIER LEVEL-2;30LEVEL-3;30DIRECTION FLIP;30KRYZH;30ROG",
  "1CF50;10NEUME KRYUK;30TIKHY;20PARAKLIT;20DVA V CHELNU;20KLYUCH;20ZANOZHEK;20STOPITSA;30S OCHKOM",
  "1CF58;20PEREVODKA;30NEPOSTOYANNAYA;20STOPITSA WITH SOROCHYA NOZHKA;20CHELYUSTKA;20PALKA;20ZAPYATAYA",
  "1CF5E;20GOLUBCHIK BORZY;30TIKHY;30MRACHNY;30SVETLY;30TRESVETLY;20VRAKHIYA PROSTAYA;30MRACHNAYA",
  "1CF65;30SVETLAYA;30TRESVETLAYA;30KLYUCHEVAYA PROSTAYA;40MRACHNAYA;40SVETLAYA;40TRESVETLAYA",
  "1CF6B;20DOUBLE ZAPYATAYA;20REVERSED CHELYUSTKA;20DERBITSA;20KHAMILO;20CHASHKA;20PODCHASHIE",
  "1CF71;20SKAMEYTSA MRACHNAYA;30SVETLAYA;30TRESVETLAYA;30TIKHAYA;20DEMESTVENNY KLYUCH",
  "1CF76;20SKAMEYTSA KLYUCHEVAYA SVETLAYA;30KLYUCHENEPOSTOYANNAYA;30KLYUCHEVAYA TIKHAYA",
  "1CF79;30DVOECHELNAYA PROSTAYA;40SVETLAYA;40NEPOSTOYANNAYA;40KLYUCHEVAYA;20SLOZHITIE;30S ZAPYATOY",
  "1CF7F;30ZAKRYTOE;30S KRYZHEM;20KRYZH;20ROG;20FITA;20KOBYLA;20ZMEYTSA;20STATYA;30S ZAPYATOY;40KRYZHEM",
  "1CF89;41ZAPYATOY I;40KRYZHEM I ZAPYATOY;30ZAKRYTAYA;40S ZAPYATOY;30S ROGOM;40DVUMYA ZAPYATYMI",
  "1CF8F;40ZAPYATOY I PODCHASHIEM;20POLKULIZMY;20STATYA NEPOSTOYANNAYA;20STRELA PROSTAYA;30MRACHNOTIKHAYA",
  "1CF94;30KRYZHEVAYA;30POLUPOVODNAYA;30POVODNAYA;30NEPOSTOYANNAYA;30KLYUCHEPOVODNAYA",
  "1CF99;30KLYUCHENEPOSTOYANNAYA;30TIKHAYA PUTNAYA;30DVOECHELNAYA;30DVOECHELNOKRYZHEVAYA",
  "1CF9D;30DVOECHELNOPOVODNAYA;30DVOECHELNAYA KLYUCHEVAYA;31DVOECHELNOPOVODNAYA",
  "1CFA0;30GROMNAYA WITH SINGLE ZAPYATAYA;33GROMOPOVODNAYA;30GROMNAYA;30GROMOPOVODNAYA",
  "1CFA4;40WITH DOUBLE ZAPYATAYA;30GROMOKRYZHEVAYA;40POVODNAYA;20MECHIK;30POVODNY;30KLYUCHEVOY",
  "1CFAA;30KLYUCHEPOVODNY;30KLYUCHENEPOSTOYANNY;20STRELA TRYASOGLASNAYA;30TRYASOPOVODNAYA;30TRYASOSTRELNAYA",
  "1CFAF;20OSOKA;30SVETLAYA;30TRESVETLAYA;30KRYUKOVAYA SVETLAYA;31KLYUCHEVAYA;40NEPOSTOYANNAYA",
  "1CFB5;20STRELA KRYUKOVAYA;40POVODNAYA;40GROMNAYA WITH SINGLE ZAPYATAYA;43GROMOPOVODNAYA;40GROMNAYA",
  "1CFBA;40GROMOPOVODNAYA;50WITH DOUBLE ZAPYATAYA;40GROMOKRYZHEVAYA;50POVODNAYA;40TRYASKA;20KUFISMA",
  "1CFC0;20OBLAKO;20DUDA;20NEMKA;20PAUK",
  "1D000;00BYZANTINE MUSICAL SYMBOL PSILI;30DASEIA;30PERISPOMENI;30OXEIA EKFONITIKON;40DIPLI",
  "1D005;30VAREIA EKFONITIKON;40DIPLI;30KATHISTI;30SYRMATIKI;30PARAKLITIKI;30YPOKRISIS;40DIPLI;30KREMASTI",
  "1D00D;30APESO EKFONITIKON;31EXO;30TELEIA;30KENTIMATA;30APOSTROFOS;40DIPLI;30SYNEVMA;30THITA",
  "1D015;30OLIGON ARCHAION;31GORGON;30PSILON;30CHAMILON;30VATHY;30ISON ARCHAION;31KENTIMA;31KENTIMATA",
  "1D01D;30SAXIMATA;30PARICHON;30STAVROS APODEXIA;30OXEIAI ARCHAION;31VAREIAI;31APODERMA;30APOTHEMA",
  "1D024;30KLASMA;30REVMA;30PIASMA ARCHAION;30TINAGMA;30ANATRICHISMA;30SEISMA;30SYNAGMA ARCHAION",
  "1D02B;40META STAVROU;30OYRANISMA ARCHAION;30THEMA;30LEMOI;30DYO;30TRIA;30TESSERA;30KRATIMATA",
  "1D033;30APESO EXO NEO;30FTHORA ARCHAION;30IMIFTHORA;30TROMIKON ARCHAION;30KATAVA TROMIKON;30PELASTON",
  "1D039;30PSIFISTON;30KONTEVMA;30CHOREVMA ARCHAION;30RAPISMA;30PARAKALESMA ARCHAION;31PARAKLITIKI",
  "1D03F;30ICHADIN;30NANA;30PETASMA;30KONTEVMA ALLO;31TROMIKON;30STRAGGISMATA;30GRONTHISMATA;30ISON NEO",
  "1D047;31OLIGON;31OXEIA;30PETASTI;30KOUFISMA;30PETASTOKOUFISMA;30KRATIMOKOUFISMA;30PELASTON NEO",
  "1D04E;30KENTIMATA NEO ANO;32KENTIMA;30YPSILI;30APOSTROFOS NEO;31APOSTROFOI SYNDESMOS;30YPORROI",
  "1D054;30KRATIMOYPORROON;30ELAFRON;30CHAMILI;30MIKRON ISON;30VAREIA NEO;31PIASMA;31PSIFISTON;30OMALON",
  "1D05C;30ANTIKENOMA;30LYGISMA;30PARAKLITIKI NEO;31PARAKALESMA;30ETERON PARAKALESMA;30KYLISMA",
  "1D062;30ANTIKENOKYLISMA;30TROMIKON NEO;30EKSTREPTON;30SYNAGMA NEO;30SYRMA;30CHOREVMA NEO;30EPEGERMA",
  "1D069;30SEISMA NEO;30XIRON KLASMA;30TROMIKOPSIFISTON;30PSIFISTOLYGISMA;30TROMIKOLYGISMA",
  "1D06E;30TROMIKOPARAKALESMA;30PSIFISTOPARAKALESMA;30TROMIKOSYNAGMA;30PSIFISTOSYNAGMA;30GORGOSYNTHETON",
  "1D073;30ARGOSYNTHETON;31ETERON;30OYRANISMA NEO;30THEMATISMOS ESO;40EXO;30THEMA APLOUN;30THES KAI APOTHES",
  "1D07A;30KATAVASMA;30ENDOFONON;30YFEN KATO;40ANO;30STAVROS;30KLASMA ANO;30DIPLI ARCHAION;31KRATIMA;40ALLO",
  "1D083;40NEO;31APODERMA;30APLI;30DIPLI;30TRIPLI;30TETRAPLI;30KORONIS;30LEIMMA ENOS CHRONOU;40DYO CHRONON",
  "1D08C;41TRION;41TESSARON;40IMISEOS CHRONOU;30GORGON NEO ANO;40PARESTIGMENON ARISTERA;50DEXIA;30DIGORGON",
  "1D093;40PARESTIGMENON ARISTERA KATO;60ANO;50DEXIA;30TRIGORGON;30ARGON;30IMIDIARGON;30DIARGON",
  "1D09A;30AGOGI POLI ARGI;40ARGOTERI;40ARGI;40METRIA;40MESI;40GORGI;40GORGOTERI;40POLI GORGI",
  "1D0A2;30MARTYRIA PROTOS ICHOS;42ALLI;41DEYTEROS;42ALLI;41TRITOS;40TRIFONIAS;40TETARTOS ICHOS;51LEGETOS",
  "1D0AA;42;41PLAGIOS;30ISAKIA TELOUS ICHIMATOS;32APOSTROFOI;30FANEROSIS TETRAFONIAS;40MONOFONIAS",
  "1D0B0;40DIFONIAS;30MARTYRIA VARYS ICHOS;41PROTOVARYS;41PLAGIOS TETARTOS;30GORTHMIKON N APLOUN;50DIPLOUN",
  "1D0B6;30ENARXIS KAI FTHORA VOU;30IMIFONON;30IMIFTHORON;30FTHORA ARCHAION DEYTEROU ICHOU;40DIATONIKI PA",
  "1D0BB;50NANA;40NAOS ICHOS;40DIATONIKI DI;41SKLIRON DIATONON;40DIATONIKI KE;50ZO;50NI KATO;60ANO",
  "1D0C3;40MALAKON CHROMA DIFONIAS;60MONOFONIAS;30FHTORA SKLIRON CHROMA VASIS",
  "1D0C6;30FTHORA SKLIRON CHROMA SYNAFI;40NENANO;30CHROA ZYGOS;40KLITON;40SPATHI",
  "1D0CB;30FTHORA I YFESIS TETARTIMORION;40ENARMONIOS ANTIFONIA;30YFESIS TRITIMORION;31DIESIS",
  "1D0CF;40TETARTIMORION;40APLI DYO DODEKATA;41MONOGRAMMOS TESSERA;41DIGRAMMOS EX;41TRIGRAMMOS OKTO",
  "1D0D4;31YFESIS APLI DYO;41MONOGRAMMOS TESSERA;41DIGRAMMOS EX;41TRIGRAMMOS OKTO;30GENIKI DIESIS;40YFESIS",
  "1D0DA;30DIASTOLI APLI MIKRI;50MEGALI;40DIPLI;40THESEOS;31SIMANSIS;50DISIMOU;50TRISIMOU;50TETRASIMOU",
  "1D0E2;40ARSEOS;50DISIMOU;50TRISIMOU;50TETRASIMOU;30DIGRAMMA GG;30DIFTOGGOS OU;30STIGMA;30ARKTIKO PA",
  "1D0EA;40VOU;40GA;40DI;40KE;40ZO;40NI;30KENTIMATA NEO MESO;32KENTIMA;30KENTIMATA NEO KATO;32KENTIMA",
  "1D0F4;31KLASMA;31GORGON NEO",
  "1D100;00MUSICAL SYMBOL SINGLE BARLINE;21DOUBLE;21FINAL;22REVERSE;21DASHED;21SHORT;20LEFT REPEAT SIGN",
  "1D107;22RIGHT;20REPEAT DOTS;20DAL SEGNO;20DA CAPO;20SEGNO;20CODA;20REPEATED FIGURE-1;30FIGURE-2",
  "1D10F;30FIGURE-3;20FERMATA;30BELOW;20BREATH MARK;20CAESURA;20BRACE;20BRACKET;20ONE-LINE STAFF;21TWO-LINE",
  "1D118;21THREE-LINE;21FOUR-LINE;21FIVE-LINE;21SIX-LINE;20SIX-STRING FRETBOARD;21FOUR-STRING;20G CLEF",
  "1D11F;40OTTAVA ALTA;50BASSA;20C CLEF;21F;40OTTAVA ALTA;50BASSA;20DRUM CLEF-1;30CLEF-2",
  "1D129;20MULTIPLE MEASURE REST;20DOUBLE SHARP;30FLAT;20FLAT UP;30DOWN;20NATURAL UP;30DOWN;20SHARP UP",
  "1D131;30DOWN;20QUARTER TONE SHARP;40FLAT;20COMMON TIME;21CUT;20OTTAVA ALTA;30BASSA;20QUINDICESIMA ALTA",
  "1D139;30BASSA;20MULTI REST;21WHOLE;21HALF;21QUARTER;21EIGHTH;21SIXTEENTH;21THIRTY-SECOND;21SIXTY-FOURTH",
  "1D142;21ONE HUNDRED TWENTY-EIGHTH;20X NOTEHEAD;21PLUS;21CIRCLE X;20SQUARE NOTEHEAD WHITE;40BLACK",
  "1D148;20TRIANGLE NOTEHEAD UP WHITE;50BLACK;40LEFT WHITE;50BLACK;40RIGHT WHITE;50BLACK;40DOWN WHITE",
  "1D14F;50BLACK;40UP RIGHT WHITE;60BLACK;20MOON NOTEHEAD WHITE;40BLACK",
  "1D154;20TRIANGLE-ROUND NOTEHEAD DOWN WHITE;50BLACK;20PARENTHESIS NOTEHEAD;21VOID;20NOTEHEAD BLACK",
  "1D159;20NULL NOTEHEAD;20CLUSTER NOTEHEAD WHITE;40BLACK;20BREVE;20WHOLE NOTE;21HALF;21QUARTER;21EIGHTH",
  "1D161;21SIXTEENTH;21THIRTY-SECOND;21SIXTY-FOURTH;21ONE HUNDRED TWENTY-EIGHTH;20COMBINING STEM",
  "1D166;31SPRECHGESANG;30TREMOLO-1;30TREMOLO-2;30TREMOLO-3;20FINGERED TREMOLO-1;30TREMOLO-2;30TREMOLO-3"]

private def characterNameRows22 : List String := [
  "1D16D;20COMBINING AUGMENTATION DOT;30FLAG-1;30FLAG-2;30FLAG-3;30FLAG-4;30FLAG-5;20BEGIN BEAM;21END",
  "1D175;20BEGIN TIE;21END;20BEGIN SLUR;21END;20BEGIN PHRASE;21END;20COMBINING ACCENT;30STACCATO;30TENUTO",
  "1D17E;30STACCATISSIMO;30MARCATO;30MARCATO-STACCATO;30ACCENT-STACCATO;30LOURE;20ARPEGGIATO UP;30DOWN",
  "1D185;20COMBINING DOIT;30RIP;30FLIP;30SMEAR;30BEND;30DOUBLE TONGUE;31TRIPLE;20RINFORZANDO;20SUBITO;20Z",
  "1D18F;20PIANO;20MEZZO;20FORTE;20CRESCENDO;20DECRESCENDO;20GRACE NOTE SLASH;41NO;20TR;20TURN;21INVERTED",
  "1D199;20TURN SLASH;30UP;20ORNAMENT STROKE-1;30STROKE-2;30STROKE-3;30STROKE-4;30STROKE-5;30STROKE-6",
  "1D1A1;30STROKE-7;30STROKE-8;30STROKE-9;30STROKE-10;30STROKE-11;20HAUPTSTIMME;20NEBENSTIMME",
  "1D1A8;20END OF STIMME;20DEGREE SLASH;20COMBINING DOWN BOW;31UP;30HARMONIC;30SNAP PIZZICATO;20PEDAL MARK",
  "1D1AF;31UP;21HALF PEDAL;20GLISSANDO UP;30DOWN;20WITH FINGERNAILS;20DAMP;30ALL;20MAXIMA;20LONGA;20BREVIS",
  "1D1B9;20SEMIBREVIS WHITE;30BLACK;20MINIMA;30BLACK;20SEMIMINIMA WHITE;30BLACK;20FUSA WHITE;30BLACK",
  "1D1C1;20LONGA PERFECTA REST;31IMPERFECTA;21BREVIS;21SEMIBREVIS;21MINIMA;21SEMIMINIMA",
  "1D1C7;20TEMPUS PERFECTUM CUM PROLATIONE PERFECTA;60IMPERFECTA;60PERFECTA DIMINUTION-1",
  "1D1CA;30IMPERFECTUM CUM PROLATIONE PERFECTA;60IMPERFECTA;70DIMINUTION-1;70DIMINUTION-2;70DIMINUTION-3",
  "1D1CF;20CROIX;20GREGORIAN C CLEF;31F;20SQUARE B;20VIRGA;20PODATUS;20CLIVIS;20SCANDICUS;20CLIMACUS",
  "1D1D8;20TORCULUS;20PORRECTUS;30FLEXUS;21SCANDICUS;20TORCULUS RESUPINUS;20PES SUBPUNCTIS;20KIEVAN C CLEF",
  "1D1DF;30END OF PIECE;30FINAL NOTE;30RECITATIVE MARK;30WHOLE NOTE;31HALF;30QUARTER NOTE STEM DOWN;60UP",
  "1D1E6;30EIGHTH NOTE STEM DOWN;60UP;30FLAT SIGN;20SORI;20KORON",
  "1D200;00GREEK VOCAL NOTATION SYMBOL-1;30SYMBOL-2;30SYMBOL-3;30SYMBOL-4;30SYMBOL-5;30SYMBOL-6;30SYMBOL-7",
  "1D207;30SYMBOL-8;30SYMBOL-9;30SYMBOL-10;30SYMBOL-11;30SYMBOL-12;30SYMBOL-13;30SYMBOL-14;30SYMBOL-15",
  "1D20F;30SYMBOL-16;30SYMBOL-17;30SYMBOL-18;30SYMBOL-19;30SYMBOL-20;30SYMBOL-21;30SYMBOL-22;30SYMBOL-23",
  "1D217;30SYMBOL-24;30SYMBOL-50;30SYMBOL-51;30SYMBOL-52;30SYMBOL-53;30SYMBOL-54",
  "1D21D;10INSTRUMENTAL NOTATION SYMBOL-1;30SYMBOL-2;30SYMBOL-4;30SYMBOL-5;30SYMBOL-7;30SYMBOL-8",
  "1D223;30SYMBOL-11;30SYMBOL-12;30SYMBOL-13;30SYMBOL-14;30SYMBOL-17;30SYMBOL-18;30SYMBOL-19;30SYMBOL-23",
  "1D22B;30SYMBOL-24;30SYMBOL-25;30SYMBOL-26;30SYMBOL-27;30SYMBOL-29;30SYMBOL-30;30SYMBOL-32;30SYMBOL-36",
  "1D233;30SYMBOL-37;30SYMBOL-38;30SYMBOL-39;30SYMBOL-40;30SYMBOL-42;30SYMBOL-43;30SYMBOL-45;30SYMBOL-47",
  "1D23B;30SYMBOL-48;30SYMBOL-49;30SYMBOL-50;30SYMBOL-51;30SYMBOL-52;30SYMBOL-53;30SYMBOL-54",
  "1D242;00COMBINING GREEK MUSICAL TRISEME;30TETRASEME;30PENTASEME;00GREEK MUSICAL LEIMMA",
  "1D2E0;00MAYAN NUMERAL ZERO;20ONE;20TWO;20THREE;20FOUR;20FIVE;20SIX;20SEVEN;20EIGHT;20NINE;20TEN;20ELEVEN",
  "1D2EC;20TWELVE;20THIRTEEN;20FOURTEEN;20FIFTEEN;20SIXTEEN;20SEVENTEEN;20EIGHTEEN;20NINETEEN",
  "1D300;00MONOGRAM FOR EARTH;01DIGRAM FOR HEAVENLY;21HUMAN;20EARTHLY HEAVEN;30HUMAN;20EARTH",
  "1D306;00TETRAGRAM FOR CENTRE;20FULL CIRCLE;20MIRED;20BARRIER;20KEEPING SMALL;20CONTRARIETY;20ASCENT",
  "1D30D;20OPPOSITION;20BRANCHING OUT;20DEFECTIVENESS OR DISTORTION;20DIVERGENCE;20YOUTHFULNESS;20INCREASE",
  "1D313;20PENETRATION;20REACH;20CONTACT;20HOLDING BACK;20WAITING;20FOLLOWING;20ADVANCE;20RELEASE",
  "1D31B;20RESISTANCE;20EASE;20JOY;20CONTENTION;20ENDEAVOUR;20DUTIES;20CHANGE;20DECISIVENESS",
  "1D323;20BOLD RESOLUTION;20PACKING;20LEGION;20CLOSENESS;20KINSHIP;20GATHERING;20STRENGTH;20PURITY",
  "1D32B;20FULLNESS;20RESIDENCE;20LAW OR MODEL;20RESPONSE;20GOING TO MEET;20ENCOUNTERS;20STOVE;20GREATNESS",
  "1D333;20ENLARGEMENT;20PATTERN;20RITUAL;20FLIGHT;20VASTNESS OR WASTING;20CONSTANCY;20MEASURE;20ETERNITY",
  "1D33B;20UNITY;20DIMINISHMENT;20CLOSED MOUTH;20GUARDEDNESS;20GATHERING IN;20MASSING;20ACCUMULATION",
  "1D342;20EMBELLISHMENT;20DOUBT;20WATCH;20SINKING;20INNER;20DEPARTURE;20DARKENING;20DIMMING;20EXHAUSTION",
  "1D34B;20SEVERANCE;20STOPPAGE;20HARDNESS;20COMPLETION;20CLOSURE;20FAILURE;20AGGRAVATION;20COMPLIANCE",
  "1D353;20ON THE VERGE;20DIFFICULTIES;20LABOURING;20FOSTERING",
  "1D360;00COUNTING ROD UNIT DIGIT ONE;40TWO;40THREE;40FOUR;40FIVE;40SIX;40SEVEN;40EIGHT;40NINE",
  "1D369;20TENS DIGIT ONE;40TWO;40THREE;40FOUR;40FIVE;40SIX;40SEVEN;40EIGHT;40NINE",
  "1D372;00IDEOGRAPHIC TALLY MARK ONE;30TWO;30THREE;30FOUR;30FIVE;00TALLY MARK ONE;20FIVE",
  "1D400;00MATHEMATICAL BOLD CAPITAL A;30B;30C;30D;30E;30F;30G;30H;30I;30J;30K;30L;30M;30N;30O;30P;30Q;30R",
  "1D412;30S;30T;30U;30V;30W;30X;30Y;30Z;20SMALL A;30B;30C;30D;30E;30F;30G;30H;30I;30J;30K;30L;30M;30N;30O",
  "1D429;30P;30Q;30R;30S;30T;30U;30V;30W;30X;30Y;30Z;10ITALIC CAPITAL A;30B;30C;30D;30E;30F;30G;30H;30I;30J",
  "1D43E;30K;30L;30M;30N;30O;30P;30Q;30R;30S;30T;30U;30V;30W;30X;30Y;30Z;20SMALL A;30B;30C;30D;30E;30F;30G",
  "1D456;30I;30J;30K;30L;30M;30N;30O;30P;30Q;30R;30S;30T;30U;30V;30W;30X;30Y;30Z;10BOLD ITALIC CAPITAL A",
  "1D469;40B;40C;40D;40E;40F;40G;40H;40I;40J;40K;40L;40M;40N;40O;40P;40Q;40R;40S;40T;40U;40V;40W;40X;40Y",
  "1D481;40Z;30SMALL A;40B;40C;40D;40E;40F;40G;40H;40I;40J;40K;40L;40M;40N;40O;40P;40Q;40R;40S;40T;40U;40V",
  "1D498;40W;40X;40Y;40Z;10SCRIPT CAPITAL A",
  "1D49E;30C;30D",
  "1D4A2;30G",
  "1D4A5;30J;30K",
  "1D4A9;30N;30O;30P;30Q",
  "1D4AE;30S;30T;30U;30V;30W;30X;30Y;30Z;20SMALL A;30B;30C;30D",
  "1D4BB;30F",
  "1D4BD;30H;30I;30J;30K;30L;30M;30N",
  "1D4C5;30P;30Q;30R;30S;30T;30U;30V;30W;30X;30Y;30Z;10BOLD SCRIPT CAPITAL A;40B;40C;40D;40E;40F;40G;40H",
  "1D4D8;40I;40J;40K;40L;40M;40N;40O;40P;40Q;40R;40S;40T;40U;40V;40W;40X;40Y;40Z;30SMALL A;40B;40C;40D;40E",
  "1D4EF;40F;40G;40H;40I;40J;40K;40L;40M;40N;40O;40P;40Q;40R;40S;40T;40U;40V;40W;40X;40Y;40Z",
  "1D504;10FRAKTUR CAPITAL A;30B",
  "1D507;30D;30E;30F;30G",
  "1D50D;30J;30K;30L;30M;30N;30O;30P;30Q",
  "1D516;30S;30T;30U;30V;30W;30X;30Y",
  "1D51E;20SMALL A;30B;30C;30D;30E;30F;30G;30H;30I;30J;30K;30L;30M;30N;30O;30P;30Q;30R;30S;30T;30U;30V;30W",
  "1D535;30X;30Y;30Z;10DOUBLE-STRUCK CAPITAL A;30B",
  "1D53B;30D;30E;30F;30G",
  "1D540;30I;30J;30K;30L;30M",
  "1D546;30O",
  "1D54A;30S;30T;30U;30V;30W;30X;30Y",
  "1D552;20SMALL A;30B;30C;30D;30E;30F;30G;30H;30I;30J;30K;30L;30M;30N;30O;30P;30Q;30R;30S;30T;30U;30V;30W",
  "1D569;30X;30Y;30Z;10BOLD FRAKTUR CAPITAL A;40B;40C;40D;40E;40F;40G;40H;40I;40J;40K;40L;40M;40N;40O;40P",
  "1D57C;40Q;40R;40S;40T;40U;40V;40W;40X;40Y;40Z;30SMALL A;40B;40C;40D;40E;40F;40G;40H;40I;40J;40K;40L;40M",
  "1D593;40N;40O;40P;40Q;40R;40S;40T;40U;40V;40W;40X;40Y;40Z;10SANS-SERIF CAPITAL A;30B;30C;30D;30E;30F;30G",
  "1D5A7;30H;30I;30J;30K;30L;30M;30N;30O;30P;30Q;30R;30S;30T;30U;30V;30W;30X;30Y;30Z;20SMALL A;30B;30C;30D",
  "1D5BE;30E;30F;30G;30H;30I;30J;30K;30L;30M;30N;30O;30P;30Q;30R;30S;30T;30U;30V;30W;30X;30Y;30Z",
  "1D5D4;20BOLD CAPITAL A;40B;40C;40D;40E;40F;40G;40H;40I;40J;40K;40L;40M;40N;40O;40P;40Q;40R;40S;40T;40U",
  "1D5E9;40V;40W;40X;40Y;40Z;30SMALL A;40B;40C;40D;40E;40F;40G;40H;40I;40J;40K;40L;40M;40N;40O;40P;40Q;40R",
  "1D600;40S;40T;40U;40V;40W;40X;40Y;40Z;20ITALIC CAPITAL A;40B;40C;40D;40E;40F;40G;40H;40I;40J;40K;40L;40M",
  "1D615;40N;40O;40P;40Q;40R;40S;40T;40U;40V;40W;40X;40Y;40Z;30SMALL A;40B;40C;40D;40E;40F;40G;40H;40I;40J",
  "1D62C;40K;40L;40M;40N;40O;40P;40Q;40R;40S;40T;40U;40V;40W;40X;40Y;40Z;20BOLD ITALIC CAPITAL A;50B;50C",
  "1D63F;50D;50E;50F;50G;50H;50I;50J;50K;50L;50M;50N;50O;50P;50Q;50R;50S;50T;50U;50V;50W;50X;50Y;50Z",
  "1D656;40SMALL A;50B;50C;50D;50E;50F;50G;50H;50I;50J;50K;50L;50M;50N;50O;50P;50Q;50R;50S;50T;50U;50V;50W",
  "1D66D;50X;50Y;50Z;10MONOSPACE CAPITAL A;30B;30C;30D;30E;30F;30G;30H;30I;30J;30K;30L;30M;30N;30O;30P;30Q",
  "1D681;30R;30S;30T;30U;30V;30W;30X;30Y;30Z;20SMALL A;30B;30C;30D;30E;30F;30G;30H;30I;30J;30K;30L;30M;30N",
  "1D698;30O;30P;30Q;30R;30S;30T;30U;30V;30W;30X;30Y;30Z;10ITALIC SMALL DOTLESS I;40J",
  "1D6A8;10BOLD CAPITAL ALPHA;30BETA;30GAMMA;30DELTA;30EPSILON;30ZETA;30ETA;30THETA;30IOTA;30KAPPA;30LAMDA",
  "1D6B3;30MU;30NU;30XI;30OMICRON;30PI;30RHO;30THETA SYMBOL;30SIGMA;30TAU;30UPSILON;30PHI;30CHI;30PSI",
  "1D6C0;30OMEGA;20NABLA;20SMALL ALPHA;30BETA;30GAMMA;30DELTA;30EPSILON;30ZETA;30ETA;30THETA;30IOTA;30KAPPA",
  "1D6CC;30LAMDA;30MU;30NU;30XI;30OMICRON;30PI;30RHO;30FINAL SIGMA;31;30TAU;30UPSILON;30PHI;30CHI;30PSI",
  "1D6DA;30OMEGA;20PARTIAL DIFFERENTIAL;20EPSILON SYMBOL;21THETA;21KAPPA;21PHI;21RHO;21PI",
  "1D6E2;10ITALIC CAPITAL ALPHA;30BETA;30GAMMA;30DELTA;30EPSILON;30ZETA;30ETA;30THETA;30IOTA;30KAPPA",
  "1D6EC;30LAMDA;30MU;30NU;30XI;30OMICRON;30PI;30RHO;30THETA SYMBOL;30SIGMA;30TAU;30UPSILON;30PHI;30CHI",
  "1D6F9;30PSI;30OMEGA;20NABLA;20SMALL ALPHA;30BETA;30GAMMA;30DELTA;30EPSILON;30ZETA;30ETA;30THETA;30IOTA",
  "1D705;30KAPPA;30LAMDA;30MU;30NU;30XI;30OMICRON;30PI;30RHO;30FINAL SIGMA;31;30TAU;30UPSILON;30PHI;30CHI",
  "1D713;30PSI;30OMEGA;20PARTIAL DIFFERENTIAL;20EPSILON SYMBOL;21THETA;21KAPPA;21PHI;21RHO;21PI",
  "1D71C;10BOLD ITALIC CAPITAL ALPHA;40BETA;40GAMMA;40DELTA;40EPSILON;40ZETA;40ETA;40THETA;40IOTA;40KAPPA",
  "1D726;40LAMDA;40MU;40NU;40XI;40OMICRON;40PI;40RHO;40THETA SYMBOL;40SIGMA;40TAU;40UPSILON;40PHI;40CHI",
  "1D733;40PSI;40OMEGA;30NABLA;30SMALL ALPHA;40BETA;40GAMMA;40DELTA;40EPSILON;40ZETA;40ETA;40THETA;40IOTA",
  "1D73F;40KAPPA;40LAMDA;40MU;40NU;40XI;40OMICRON;40PI;40RHO;40FINAL SIGMA;41;40TAU;40UPSILON;40PHI;40CHI",
  "1D74D;40PSI;40OMEGA;30PARTIAL DIFFERENTIAL;30EPSILON SYMBOL;31THETA;31KAPPA;31PHI;31RHO;31PI",
  "1D756;10SANS-SERIF BOLD CAPITAL ALPHA;40BETA;40GAMMA;40DELTA;40EPSILON;40ZETA;40ETA;40THETA;40IOTA",
  "1D75F;40KAPPA;40LAMDA;40MU;40NU;40XI;40OMICRON;40PI;40RHO;40THETA SYMBOL;40SIGMA;40TAU;40UPSILON;40PHI",
  "1D76C;40CHI;40PSI;40OMEGA;30NABLA;30SMALL ALPHA;40BETA;40GAMMA;40DELTA;40EPSILON;40ZETA;40ETA;40THETA",
  "1D778;40IOTA;40KAPPA;40LAMDA;40MU;40NU;40XI;40OMICRON;40PI;40RHO;40FINAL SIGMA;41;40TAU;40UPSILON;40PHI",
  "1D786;40CHI;40PSI;40OMEGA;30PARTIAL DIFFERENTIAL;30EPSILON SYMBOL;31THETA;31KAPPA;31PHI;31RHO;31PI",
  "1D790;30ITALIC CAPITAL ALPHA;50BETA;50GAMMA;50DELTA;50EPSILON;50ZETA;50ETA;50THETA;50IOTA;50KAPPA",
  "1D79A;50LAMDA;50MU;50NU;50XI;50OMICRON;50PI;50RHO;50THETA SYMBOL;50SIGMA;50TAU;50UPSILON;50PHI;50CHI",
  "1D7A7;50PSI;50OMEGA;40NABLA;40SMALL ALPHA;50BETA;50GAMMA;50DELTA;50EPSILON;50ZETA;50ETA;50THETA;50IOTA",
  "1D7B3;50KAPPA;50LAMDA;50MU;50NU;50XI;50OMICRON;50PI;50RHO;50FINAL SIGMA;51;50TAU;50UPSILON;50PHI;50CHI",
  "1D7C1;50PSI;50OMEGA;40PARTIAL DIFFERENTIAL;40EPSILON SYMBOL;41THETA;41KAPPA;41PHI;41RHO;41PI",
  "1D7CA;10BOLD CAPITAL DIGAMMA;21SMALL",
  "1D7CE;20DIGIT ZERO;30ONE;30TWO;30THREE;30FOUR;30FIVE;30SIX;30SEVEN;30EIGHT;30NINE",
  "1D7D8;10DOUBLE-STRUCK DIGIT ZERO;30ONE;30TWO;30THREE;30FOUR;30FIVE;30SIX;30SEVEN;30EIGHT;30NINE",
  "1D7E2;10SANS-SERIF DIGIT ZERO;30ONE;30TWO;30THREE;30FOUR;30FIVE;30SIX;30SEVEN;30EIGHT;30NINE",
  "1D7EC;20BOLD DIGIT ZERO;40ONE;40TWO;40THREE;40FOUR;40FIVE;40SIX;40SEVEN;40EIGHT;40NINE",
  "1D7F6;10MONOSPACE DIGIT ZERO;30ONE;30TWO;30THREE;30FOUR;30FIVE;30SIX;30SEVEN;30EIGHT;30NINE",
  "1D800;00SIGNWRITING HAND-FIST INDEX;11HAND-CIRCLE;11HAND-CUP;11HAND-OVAL;11HAND-HINGE;11HAND-ANGLE",
  "1D806;10HAND-FIST INDEX BENT;12HAND-CIRCLE;12HAND-FIST THUMB UNDER;20INDEX RAISED KNUCKLE;30CUPPED",
  "1D80B;30HINGED;40LOW;10HAND-CIRCLE INDEX HINGE;10HAND-FIST INDEX MIDDLE;12HAND-CIRCLE",
  "1D810;10HAND-FIST INDEX MIDDLE BENT;40RAISED KNUCKLES;40HINGED;32UP;30HINGED MIDDLE UP",
  "1D815;30MIDDLE CONJOINED;50INDEX BENT;51MIDDLE;50CUPPED;50HINGED;40CROSSED;13HAND-CIRCLE",
  "1D81C;10HAND-FIST MIDDLE BENT OVER INDEX;20INDEX BENT OVER MIDDLE;30MIDDLE THUMB;13HAND-CIRCLE",
  "1D820;10HAND-FIST INDEX MIDDLE STRAIGHT THUMB BENT;40BENT THUMB STRAIGHT;40THUMB BENT",
  "1D823;40HINGED SPREAD THUMB SIDE;32UP MIDDLE HINGED;70CONJOINED;30HINGED MIDDLE UP THUMB SIDE",
  "1D827;30MIDDLE UP SPREAD THUMB FORWARD;40THUMB CUPPED;50CIRCLED;50HOOKED;50HINGED",
  "1D82C;20THUMB BETWEEN INDEX MIDDLE STRAIGHT;20INDEX MIDDLE CONJOINED THUMB SIDE;70CONJOINED;70BENT",
  "1D830;20MIDDLE THUMB HOOKED INDEX UP;21INDEX THUMB HOOKED MIDDLE;30MIDDLE CONJOINED HINGED THUMB SIDE",
  "1D833;42CROSSED;40CONJOINED THUMB FORWARD;52CUPPED;20MIDDLE THUMB CUPPED INDEX UP",
  "1D837;21INDEX THUMB CUPPED MIDDLE;21MIDDLE THUMB CIRCLED INDEX;60HINGED",
  "1D83A;20INDEX THUMB ANGLED OUT MIDDLE UP;52IN;42CIRCLED;30MIDDLE THUMB CONJOINED HINGED;50ANGLED OUT;60",
  "1D840;20MIDDLE THUMB ANGLED OUT INDEX UP;70CROSSED;50INDEX UP;20INDEX THUMB HOOKED MIDDLE HINGED",
  "1D844;10HAND-FLAT FOUR FINGERS;40BENT;40HINGED;40CONJOINED;50SPLIT;10HAND-CLAW FOUR FINGERS CONJOINED",
  "1D84A;10HAND-FIST FOUR FINGERS CONJOINED BENT;10HAND-HINGE FOUR FINGERS CONJOINED",
  "1D84C;10HAND-FLAT FIVE FINGERS SPREAD;23HEEL;20FIVE FINGERS SPREAD FOUR BENT;25HEEL",
  "1D850;21FIVE FINGERS SPREAD;24HEEL;20FIVE FINGERS SPREAD THUMB FORWARD;10HAND-CUP FIVE FINGERS SPREAD",
  "1D854;50OPEN;14HAND-HINGE;10HAND-OVAL FIVE FINGERS SPREAD;10HAND-FLAT FIVE FINGERS SPREAD HINGED",
  "1D858;60THUMB SIDE;60NO THUMB;20;20BETWEEN PALM FACINGS;20HEEL;20THUMB SIDE;22HEEL;20THUMB BENT",
  "1D860;30FORWARD;20SPLIT INDEX THUMB SIDE;30CENTRE;40THUMB SIDE;60BENT;30LITTLE;10HAND-CLAW;20THUMB SIDE",
  "1D868;20NO THUMB;20THUMB FORWARD;10HAND-HOOK CURLICUE;20;10HAND-CUP OPEN;20;20OPEN THUMB SIDE;22",
  "1D870;20OPEN NO THUMB;22;20OPEN THUMB FORWARD;22;10HAND-CURLICUE OPEN;20;10HAND-CIRCLE;10HAND-OVAL",
  "1D878;20THUMB SIDE;20NO THUMB;20THUMB FORWARD;10HAND-HINGE OPEN;30THUMB FORWARD;20;20SMALL",
  "1D87F;20OPEN THUMB SIDE;22;20OPEN NO THUMB;22;20THUMB SIDE TOUCHING INDEX;30BETWEEN MIDDLE RING",
  "1D885;10HAND-ANGLE;10HAND-FIST INDEX MIDDLE RING;13HAND-CIRCLE;13HAND-HINGE;13HAND-ANGLE",
  "1D88A;10HAND-HINGE LITTLE;10HAND-FIST INDEX MIDDLE RING BENT;50CONJOINED;14HAND-HINGE",
  "1D88E;10HAND-FIST LITTLE DOWN;40RIPPLE STRAIGHT;50CURVED;40OTHERS CIRCLED;30UP;22THUMB UNDER",
  "1D894;12HAND-CIRCLE;12HAND-OVAL;12HAND-ANGLE;10HAND-FIST LITTLE RAISED KNUCKLE;30BENT;30TOUCHES THUMB;31",
  "1D89B;12HAND-HINGE;11HAND-FIST LITTLE INDEX;13HAND-HINGE;10HAND-ANGLE LITTLE INDEX THUMB INDEX THUMB OUT",
  "1D89F;70;10HAND-FIST LITTLE INDEX;12HAND-CIRCLE;12HAND-HINGE;12HAND-ANGLE",
  "1D8A4;10HAND-FIST INDEX MIDDLE LITTLE;13HAND-CIRCLE;13HAND-HINGE;20RING;10HAND-ANGLE INDEX MIDDLE LITTLE",
  "1D8A9;11HAND-FIST INDEX MIDDLE CROSS;14HAND-CIRCLE;10HAND-FIST RING DOWN",
  "1D8AC;10HAND-HINGE RING DOWN INDEX THUMB HOOK MIDDLE;10HAND-ANGLE RING DOWN MIDDLE THUMB INDEX CROSS",
  "1D8AE;10HAND-FIST RING UP;30RAISED KNUCKLE;30LITTLE;12HAND-CIRCLE;12HAND-OVAL;12HAND-ANGLE",
  "1D8B4;10HAND-FIST RING MIDDLE;40CONJOINED;40RAISED KNUCKLES;30INDEX;30THUMB;12HAND-HOOK",
  "1D8BA;10HAND-FIST INDEX RING LITTLE;13HAND-CIRCLE;10HAND-CURLICUE INDEX RING LITTLE ON",
  "1D8BD;10HAND-HOOK INDEX RING LITTLE OUT;50IN;50UNDER;10HAND-CUP INDEX RING LITTLE;13HAND-HINGE",
  "1D8C2;10HAND-ANGLE INDEX RING LITTLE OUT;50;10HAND-FIST MIDDLE DOWN;10HAND-HINGE MIDDLE",
  "1D8C6;10HAND-FIST MIDDLE UP;12HAND-CIRCLE;10HAND-FIST MIDDLE RAISED KNUCKLE;30UP THUMB SIDE"]

private def characterNameRows23 : List String := [
  "1D8CA;10HAND-HOOK MIDDLE THUMB;10HAND-FIST MIDDLE THUMB LITTLE;31;31RING;13HAND-CIRCLE",
  "1D8CF;10HAND-CURLICUE MIDDLE RING LITTLE ON;10HAND-CUP MIDDLE RING LITTLE;13HAND-HINGE",
  "1D8D2;10HAND-ANGLE MIDDLE RING LITTLE OUT;50IN;50;10HAND-CIRCLE MIDDLE RING LITTLE BENT",
  "1D8D6;10HAND-CLAW MIDDLE RING LITTLE CONJOINED;60SIDE;10HAND-HOOK MIDDLE RING LITTLE CONJOINED OUT;60IN",
  "1D8DA;60;10HAND-HINGE INDEX HINGED;10HAND-FIST INDEX THUMB SIDE;13HAND-HINGE",
  "1D8DE;10HAND-FIST INDEX THUMB SIDE THUMB DIAGONAL;60CONJOINED;60BENT;51INDEX;51BOTH;50INDEX HINGE",
  "1D8E4;40FORWARD INDEX STRAIGHT;60BENT;40HOOK;40CURLICUE;40CURVE THUMB INSIDE;15HAND-CLAW",
  "1D8EA;10HAND-FIST INDEX THUMB CURVE THUMB UNDER;40CIRCLE;10HAND-CUP INDEX THUMB;40OPEN;13HAND-HINGE",
  "1D8EF;40LARGE;40;40SMALL;10HAND-ANGLE INDEX THUMB OUT;40IN;40;11HAND-FIST;30HEEL;30SIDE DIAGONAL",
  "1D8F8;40CONJOINED;40BENT;30FORWARD;30BETWEEN INDEX MIDDLE;40MIDDLE RING;40RING LITTLE",
  "1D8FE;30UNDER TWO FINGERS;32OVER;31UNDER THREE;41FOUR;30OVER FOUR RAISED KNUCKLES;20;20HEEL",
  "1D905;10TOUCH SINGLE;20MULTIPLE;20BETWEEN;10GRASP SINGLE;20MULTIPLE;20BETWEEN;10STRIKE SINGLE;20MULTIPLE",
  "1D90D;20BETWEEN;10BRUSH SINGLE;20MULTIPLE;20BETWEEN;10RUB SINGLE;20MULTIPLE;20BETWEEN;10SURFACE SYMBOLS",
  "1D915;20BETWEEN;10SQUEEZE LARGE SINGLE;21SMALL;20LARGE MULTIPLE;21SMALL;20SEQUENTIAL",
  "1D91B;10FLICK LARGE SINGLE;21SMALL;20LARGE MULTIPLE;21SMALL;20SEQUENTIAL;10SQUEEZE FLICK ALTERNATING",
  "1D921;10MOVEMENT-HINGE UP DOWN LARGE;40SMALL;30SEQUENTIAL;21DOWN;20UP DOWN ALTERNATING LARGE;50SMALL",
  "1D927;20SIDE TO SIDE SCISSORS;10MOVEMENT-WALLPLANE FINGER CONTACT;12MOVEMENT-FLOORPLANE",
  "1D92A;10MOVEMENT-WALLPLANE SINGLE STRAIGHT SMALL;40MEDIUM;40LARGE;40LARGEST;30WRIST FLEX",
  "1D92F;20DOUBLE STRAIGHT;30WRIST FLEX;30ALTERNATING;40WRIST FLEX;20CROSS;20TRIPLE STRAIGHT MOVEMENT",
  "1D935;30WRIST FLEX;30ALTERNATING;40WRIST FLEX;20BEND SMALL;30MEDIUM;30LARGE;20CORNER SMALL;30MEDIUM",
  "1D93D;30LARGE;30ROTATION;20CHECK SMALL;30MEDIUM;30LARGE;20BOX SMALL;30MEDIUM;30LARGE;20ZIGZAG SMALL",
  "1D946;30MEDIUM;30LARGE;20PEAKS SMALL;30MEDIUM;30LARGE;10TRAVEL-WALLPLANE ROTATION-WALLPLANE SINGLE",
  "1D94C;30DOUBLE;30ALTERNATING;20ROTATION-FLOORPLANE SINGLE;30DOUBLE;30ALTERNATING;20SHAKING",
  "1D952;20ARM SPIRAL SINGLE;40DOUBLE;40TRIPLE;10MOVEMENT-DIAGONAL AWAY SMALL;30MEDIUM;30LARGE;30LARGEST",
  "1D959;20TOWARDS SMALL;30MEDIUM;30LARGE;30LARGEST;20BETWEEN AWAY SMALL;40MEDIUM;40LARGE;40LARGEST",
  "1D961;30TOWARDS SMALL;40MEDIUM;40LARGE;40LARGEST;10MOVEMENT-FLOORPLANE SINGLE STRAIGHT SMALL;40MEDIUM",
  "1D967;40LARGE;40LARGEST;30WRIST FLEX;20DOUBLE STRAIGHT;30WRIST FLEX;30ALTERNATING;40WRIST FLEX;20CROSS",
  "1D96F;20TRIPLE STRAIGHT MOVEMENT;30WRIST FLEX;30ALTERNATING MOVEMENT;40WRIST FLEX;20BEND;20CORNER SMALL",
  "1D975;30MEDIUM;30LARGE;20CHECK;20BOX SMALL;30MEDIUM;30LARGE;20ZIGZAG SMALL;30MEDIUM;30LARGE",
  "1D97E;20PEAKS SMALL;30MEDIUM;30LARGE;10TRAVEL-FLOORPLANE ROTATION-FLOORPLANE SINGLE;30DOUBLE",
  "1D983;30ALTERNATING;20ROTATION-WALLPLANE SINGLE;30DOUBLE;30ALTERNATING;20SHAKING",
  "1D988;10MOVEMENT-WALLPLANE CURVE QUARTER SMALL;40MEDIUM;40LARGE;40LARGEST;30HALF-CIRCLE SMALL;40MEDIUM",
  "1D98E;40LARGE;40LARGEST;30THREE-QUARTER CIRCLE SMALL;50MEDIUM;20HUMP SMALL;30MEDIUM;30LARGE;20LOOP SMALL",
  "1D996;30MEDIUM;30LARGE;30SMALL DOUBLE;20WAVE CURVE DOUBLE SMALL;50MEDIUM;50LARGE;40TRIPLE SMALL;50MEDIUM",
  "1D99E;50LARGE;20CURVE THEN STRAIGHT;20CURVED CROSS SMALL;40MEDIUM;10ROTATION-WALLPLANE SINGLE;20DOUBLE",
  "1D9A4;20ALTERNATE;10MOVEMENT-WALLPLANE SHAKING;20CURVE HITTING FRONT WALL;23HUMP;23LOOP;23WAVE",
  "1D9AA;13ROTATION-WALLPLANE SINGLE;23DOUBLE;23ALTERNATING;10MOVEMENT-WALLPLANE CURVE HITTING CHEST;22HUMP",
  "1D9AF;22LOOP;22WAVE;12ROTATION-WALLPLANE SINGLE;22DOUBLE;22ALTERNATING",
  "1D9B4;10MOVEMENT-WALLPLANE WAVE DIAGONAL PATH SMALL;50MEDIUM;50LARGE",
  "1D9B7;10MOVEMENT-FLOORPLANE CURVE HITTING CEILING SMALL;50LARGE;20HUMP HITTING CEILING SMALL DOUBLE",
  "1D9BA;51LARGE;50SMALL TRIPLE;51LARGE;20LOOP HITTING CEILING SMALL SINGLE;51LARGE;50SMALL DOUBLE;51LARGE",
  "1D9C1;20WAVE HITTING CEILING SMALL;50LARGE;10ROTATION-FLOORPLANE SINGLE HITTING CEILING;22DOUBLE",
  "1D9C5;22ALTERNATING;10MOVEMENT-FLOORPLANE CURVE HITTING FLOOR SMALL;50LARGE",
  "1D9C8;20HUMP HITTING FLOOR SMALL DOUBLE;51LARGE;50TRIPLE SMALL TRIPLE;61LARGE",
  "1D9CC;20LOOP HITTING FLOOR SMALL SINGLE;51LARGE;50SMALL DOUBLE;51LARGE;20WAVE HITTING FLOOR SMALL",
  "1D9D1;50LARGE;10ROTATION-FLOORPLANE SINGLE HITTING FLOOR;22DOUBLE;22ALTERNATING",
  "1D9D5;10MOVEMENT-FLOORPLANE CURVE SMALL;30MEDIUM;30LARGE;30LARGEST;30COMBINED;20HUMP SMALL;21LOOP",
  "1D9DC;20WAVE SNAKE;30SMALL;30LARGE;10ROTATION-FLOORPLANE SINGLE;20DOUBLE;20ALTERNATING",
  "1D9E2;10MOVEMENT-FLOORPLANE SHAKING PARALLEL;10MOVEMENT-WALLPLANE ARM CIRCLE SMALL SINGLE;41MEDIUM",
  "1D9E5;40SMALL DOUBLE;41MEDIUM;10MOVEMENT-FLOORPLANE ARM CIRCLE HITTING WALL SMALL SINGLE;61MEDIUM",
  "1D9E9;61LARGE;60SMALL DOUBLE;61MEDIUM;61LARGE;10MOVEMENT-WALLPLANE WRIST CIRCLE FRONT SINGLE;50DOUBLE",
  "1D9EF;10MOVEMENT-FLOORPLANE WRIST CIRCLE HITTING WALL SINGLE;60DOUBLE",
  "1D9F1;10MOVEMENT-WALLPLANE FINGER CIRCLES SINGLE;40DOUBLE",
  "1D9F3;10MOVEMENT-FLOORPLANE FINGER CIRCLES HITTING WALL SINGLE;60DOUBLE;10DYNAMIC ARROWHEAD SMALL",
  "1D9F6;30LARGE;20FAST;20SLOW;20TENSE;20RELAXED;20SIMULTANEOUS;30ALTERNATING;20EVERY OTHER TIME;20GRADUAL",
  "1D9FF;10HEAD;20RIM;20MOVEMENT-WALLPLANE STRAIGHT;30TILT;20MOVEMENT-FLOORPLANE STRAIGHT",
  "1DA04;20MOVEMENT-WALLPLANE CURVE;21MOVEMENT-FLOORPLANE;20MOVEMENT CIRCLE",
  "1DA07;10FACE DIRECTION POSITION NOSE FORWARD TILTING;50UP OR DOWN;80TILTING;10EYEBROWS STRAIGHT UP",
  "1DA0B;30NEUTRAL;30DOWN;11DREAMY EYEBROWS NEUTRAL;30DOWN NEUTRAL;31UP;30NEUTRAL UP;10FOREHEAD NEUTRAL",
  "1DA12;20CONTACT;20WRINKLED;10EYES OPEN;20SQUEEZED;20CLOSED;10EYE BLINK SINGLE;30MULTIPLE",
  "1DA19;10EYES HALF OPEN;21WIDE;20HALF CLOSED;20WIDENING MOVEMENT;10EYE WINK;10EYELASHES UP;20DOWN",
  "1DA20;20FLUTTERING;10EYEGAZE-WALLPLANE STRAIGHT;30DOUBLE;30ALTERNATING;10EYEGAZE-FLOORPLANE STRAIGHT",
  "1DA25;30DOUBLE;30ALTERNATING;10EYEGAZE-WALLPLANE CURVED;11EYEGAZE-FLOORPLANE",
  "1DA29;10EYEGAZE-WALLPLANE CIRCLING;10CHEEKS PUFFED;20NEUTRAL;20SUCKED;10TENSE CHEEKS HIGH;30MIDDLE;30LOW",
  "1DA30;10EARS;10NOSE NEUTRAL;20CONTACT;20WRINKLES;20WIGGLES;10AIR BLOWING OUT;20SUCKING IN",
  "1DA37;20BLOW SMALL ROTATIONS;22SUCK;10BREATH INHALE;20EXHALE;10MOUTH CLOSED NEUTRAL;30FORWARD;30CONTACT",
  "1DA3E;20SMILE;30WRINKLED;30OPEN;20FROWN;30WRINKLED;30OPEN;20OPEN CIRCLE;30FORWARD;30WRINKLED;30OVAL",
  "1DA48;40WRINKLED;40YAWN;30RECTANGLE;40WRINKLED;40YAWN;20KISS;30FORWARD;30WRINKLED;20TENSE;30FORWARD",
  "1DA52;30SUCKED;10LIPS PRESSED TOGETHER;10LIP LOWER OVER UPPER;20UPPER OVER LOWER;10MOUTH CORNERS",
  "1DA57;20WRINKLES SINGLE;30DOUBLE;10TONGUE STICKING OUT FAR;20LICKING LIPS;21TIP BETWEEN",
  "1DA5C;30TOUCHING INSIDE MOUTH;20INSIDE MOUTH RELAXED;20MOVES AGAINST CHEEK;20CENTRE STICKING OUT",
  "1DA60;30INSIDE MOUTH;10TEETH;20MOVEMENT;20ON TONGUE;40MOVEMENT;30LIPS;40MOVEMENT;20BITE LIPS",
  "1DA68;10MOVEMENT-WALLPLANE JAW;11MOVEMENT-FLOORPLANE;10NECK;10HAIR;10EXCITEMENT;10SHOULDER HIP SPINE",
  "1DA6E;30POSITIONS;10WALLPLANE SHOULDER HIP MOVE;13FLOORPLANE;10SHOULDER TILTING FROM WAIST",
  "1DA72;10TORSO-WALLPLANE STRAIGHT STRETCH;20CURVED BEND;10TORSO-FLOORPLANE TWISTING",
  "1DA75;10UPPER BODY TILTING FROM HIP JOINTS;10LIMB COMBINATION;20LENGTH-1;20LENGTH-2;20LENGTH-3",
  "1DA7A;20LENGTH-4;20LENGTH-5;20LENGTH-6;20LENGTH-7;10FINGER;10LOCATION-WALLPLANE SPACE",
  "1DA80;11LOCATION-FLOORPLANE;10LOCATION HEIGHT;20WIDTH;20DEPTH;20HEAD NECK;20TORSO;20LIMBS DIGITS;10COMMA",
  "1DA88;10FULL STOP;10SEMICOLON;10COLON;10PARENTHESIS",
  "1DA9B;10FILL MODIFIER-2;20MODIFIER-3;20MODIFIER-4;20MODIFIER-5;20MODIFIER-6",
  "1DAA1;10ROTATION MODIFIER-2;20MODIFIER-3;20MODIFIER-4;20MODIFIER-5;20MODIFIER-6;20MODIFIER-7",
  "1DAA7;20MODIFIER-8;20MODIFIER-9;20MODIFIER-10;20MODIFIER-11;20MODIFIER-12;20MODIFIER-13;20MODIFIER-14",
  "1DAAE;20MODIFIER-15;20MODIFIER-16",
  "1DF00;00LATIN SMALL LETTER FENG DIGRAPH WITH TRILL;30REVERSED SCRIPT G;11LETTER SMALL CAPITAL TURNED",
  "1DF03;10SMALL LETTER REVERSED K;10LETTER SMALL CAPITAL L WITH BELT",
  "1DF05;10SMALL LETTER LEZH WITH RETROFLEX HOOK;30TURNED Y WITH BELT;30REVERSED ENG",
  "1DF08;30TURNED R WITH LONG LEG AND RETROFLEX HOOK;33T WITH HOOK;12LETTER RETROFLEX CLICK WITH",
  "1DF0B;10SMALL LETTER ESH WITH DOUBLE BAR;70AND CURL;31TURNED T WITH;12LETTER INVERTED GLOTTAL STOP",
  "1DF0F;22STRETCHED C;20SMALL CAPITAL TURNED K;10SMALL LETTER L WITH FISHHOOK",
  "1DF12;30DEZH DIGRAPH WITH PALATAL HOOK;32L WITH BELT AND;32ENG WITH;33TURNED R;32R WITH FISHHOOK AND",
  "1DF17;32TESH DIGRAPH WITH;33EZH;31DEZH DIGRAPH WITH RETROFLEX;32I WITH STROKE AND;32O WITH",
  "1DF1C;33TESH DIGRAPH;33C;30S WITH CURL",
  "1E000;00COMBINING GLAGOLITIC LETTER AZU;30BUKY;30VEDE;30GLAGOLI;30DOBRO;30YESTU;30ZHIVETE",
  "1E008;30ZEMLJA;30IZHE;31INITIAL;30I;30DJERVI;30KAKO;30LJUDIJE;30MYSLITE;30NASHI;30ONU;30POKOJI;30RITSI",
  "1E014;30SLOVO;30TVRIDO;30UKU;30FRITU;30HERU",
  "1E01B;30SHTA;30TSI;30CHRIVI;30SHA;30YERU;30YERI;30YATI",
  "1E023;30YU;30SMALL YUS",
  "1E026;30YO;30IOTATED SMALL YUS;31BIG;32IOTATED;30FITA",
  "1E100;00NYIAKENG PUACHUE HMONG LETTER MA;40TSA;40NTA;40TA;40HA;40NA;40XA;40NKA;40CA;40LA;40SA;40ZA;40NCA",
  "1E10D;40NTSA;40KA;40DA;40NYA;40NRA;40VA;40NTXA;40TXA;40FA;40RA;40QA;40YA;40NQA;40PA;40XYA;40NPA;40DLA",
  "1E11E;40NPLA;40HAH;40MLA;40PLA;40GA;40RRA;40A;40AA;40I;40U;40O;40OO;40E;40EE;40W",
  "1E130;30TONE-B;30TONE-M;30TONE-J;30TONE-V;30TONE-S;30TONE-G;30TONE-D;30SIGN FOR PERSON;50THING",
  "1E139;50LOCATION;50ANIMAL;50INVERTEBRATE;40XW XW;30SYLLABLE LENGTHENER",
  "1E140;30DIGIT ZERO;40ONE;40TWO;40THREE;40FOUR;40FIVE;40SIX;40SEVEN;40EIGHT;40NINE",
  "1E14E;30LOGOGRAM NYAJ;30CIRCLED CA",
  "1E290;00TOTO LETTER PA;20BA;20TA;20DA;20KA;20GA;20MA;20NA;20NGA;20SA;20CHA;20YA;20WA;20JA;20HA;20RA;20LA",
  "1E2A1;20I;21BREATHY;20IU;21BREATHY;20U;20E;21BREATHY;20EO;21BREATHY;20O;20AE;21BREATHY;20A",
  "1E2AE;10SIGN RISING TONE",
  "1E2C0;00WANCHO LETTER AA;20A;20BA;20CA;20DA;20GA;20YA;20PHA;20LA;20NA;20PA;20TA;20THA;20FA;20SA;20SHA",
  "1E2D0;20JA;20ZA;20WA;20VA;20KA;20O;20AU;20RA;20MA;20KHA;20HA;20E;20I;20NGA;20U;20LLHA;20TSA;20TRA;20ONG",
  "1E2E3;20AANG;20ANG;20ING;20ON;20EN;20AAN;20NYA;20UEN;20YIH;10TONE TUP;20TUPNI;20KOI;20KOINI;10DIGIT ZERO",
  "1E2F1;20ONE;20TWO;20THREE;20FOUR;20FIVE;20SIX;20SEVEN;20EIGHT;20NINE",
  "1E2FF;10NGUN SIGN",
  "1E7E0;00ETHIOPIC SYLLABLE HHYA;20HHYU;20HHYI;20HHYAA;20HHYEE;20HHYE;20HHYO",
  "1E7E8;20GURAGE HHWA;20HHWI;20HHWEE;20HHWE",
  "1E7ED;20GURAGE MWI;30MWEE",
  "1E7F0;30QWI;30QWEE;30QWE;30BWI;30BWEE;30KWI;30KWEE;30KWE;30GWI;30GWEE;30GWE;30FWI;30FWEE;30PWI;30PWEE",
  "1E800;00MENDE KIKAKUI SYLLABLE M001 KI;30M002 KA;30M003 KU;30M065 KEE;30M095 KE;30M076 KOO;30M048 KO",
  "1E807;30M179 KUA;30M004 WI;30M005 WA;30M006 WU;30M126 WEE;30M118 WE;30M114 WOO;30M045 WO;30M194 WUI",
  "1E810;30M143 WEI;30M061 WVI;30M049 WVA;30M139 WVE;30M007 MIN;30M008 MAN;30M009 MUN;30M059 MEN;30M094 MON",
  "1E819;30M154 MUAN;30M189 MUEN;30M010 BI;30M011 BA;30M012 BU;30M150 BEE;30M097 BE;30M103 BOO;30M138 BO",
  "1E822;30M013 I;30M014 A;30M015 U;30M163 EE;30M100 E;30M165 OO;30M147 O;30M137 EI;30M131 IN;31M135",
  "1E82C;30M195 AN;30M178 EN;30M019 SI;30M020 SA;30M021 SU;30M162 SEE;30M116 SE;30M136 SOO;30M079 SO",
  "1E835;30M196 SIA;30M025 LI;30M026 LA;30M027 LU;30M084 LEE;30M073 LE;30M054 LOO;30M153 LO;30M110 LONG LE",
  "1E83E;30M016 DI;30M017 DA;30M018 DU;30M089 DEE;30M180 DOO;30M181 DO;30M022 TI;30M023 TA;30M024 TU",
  "1E847;30M091 TEE;30M055 TE;30M104 TOO;30M069 TO;30M028 JI;30M029 JA;30M030 JU;30M157 JEE;30M113 JE",
  "1E850;30M160 JOO;30M063 JO;31M175 LONG;30M031 YI;30M032 YA;30M033 YU;30M109 YEE;30M080 YE;30M141 YOO",
  "1E859;30M121 YO;30M034 FI;30M035 FA;30M036 FU;30M078 FEE;30M075 FE;30M133 FOO;30M088 FO;30M197 FUA",
  "1E862;30M101 FAN;30M037 NIN;30M038 NAN;30M039 NUN;30M117 NEN;30M169 NON;30M176 HI;30M041 HA;30M186 HU",
  "1E86B;30M040 HEE;30M096 HE;30M042 HOO;30M140 HO;30M083 HEEI;30M128 HOOU;30M053 HIN;30M130 HAN;30M087 HUN",
  "1E874;30M052 HEN;30M193 HON;30M046 HUAN;30M090 NGGI;30M043 NGGA;30M082 NGGU;30M115 NGGEE;30M146 NGGE",
  "1E87C;30M156 NGGOO;30M120 NGGO;30M159 NGGAA;30M127 NGGUA;30M086 LONG NGGE;30M106 LONG NGGOO",
  "1E882;30M183 LONG NGGO;30M155 GI;30M111 GA;30M168 GU;30M190 GEE;30M166 GUEI;30M167 GUAN;30M184 NGEN",
  "1E88A;30M057 NGON;30M177 NGUAN;30M068 PI;30M099 PA;30M050 PU;30M081 PEE;30M051 PE;30M102 POO;30M066 PO",
  "1E893;30M145 MBI;30M062 MBA;30M122 MBU;30M047 MBEE;31M188;30M072 MBE;30M172 MBOO;30M174 MBO;30M187 MBUU",
  "1E89C;30M161 LONG MBE;30M105 LONG MBOO;30M142 LONG MBO;30M132 KPI;30M092 KPA;30M074 KPU;30M044 KPEE",
  "1E8A3;30M108 KPE;30M112 KPOO;30M158 KPO;30M124 GBI;30M056 GBA;30M148 GBU;30M093 GBEE;30M107 GBE",
  "1E8AB;30M071 GBOO;30M070 GBO;30M171 RA;30M123 NDI;30M129 NDA;30M125 NDU;30M191 NDEE;30M119 NDE",
  "1E8B3;30M067 NDOO;30M064 NDO;30M152 NJA;30M192 NJU;30M149 NJEE;30M134 NJOO;30M182 VI;30M185 VA;30M151 VU",
  "1E8BC;30M173 VEE;30M085 VE;30M144 VOO;30M077 VO;30M164 NYIN;30M058 NYAN;30M170 NYUN;30M098 NYEN",
  "1E8C4;30M060 NYON",
  "1E8C7;20DIGIT ONE;30TWO;30THREE;30FOUR;30FIVE;30SIX;30SEVEN;30EIGHT;30NINE;20COMBINING NUMBER TEENS",
  "1E8D1;40TENS;40HUNDREDS;40THOUSANDS;41TEN;41HUNDRED;40MILLIONS",
  "1E900;00ADLAM CAPITAL LETTER ALIF;30DAALI;30LAAM;30MIIM;30BA;30SINNYIIYHE;30PE;30BHE;30RA;30E;30FA;30I",
  "1E90C;30O;30DHA;30YHE;30WAW;30NUN;30KAF;30YA;30U;30JIIM;30CHI;30HA;30QAAF;30GA;30NYA;30TU;30NHA;30VA",
  "1E91D;30KHA;30GBE;30ZAL;30KPO;30SHA;10SMALL LETTER ALIF;30DAALI;30LAAM;30MIIM;30BA;30SINNYIIYHE;30PE",
  "1E929;30BHE;30RA;30E;30FA;30I;30O;30DHA;30YHE;30WAW;30NUN;30KAF;30YA;30U;30JIIM;30CHI;30HA;30QAAF;30GA",
  "1E93B;30NYA;30TU;30NHA;30VA;30KHA;30GBE;30ZAL;30KPO;30SHA;10ALIF LENGTHENER;11VOWEL;10GEMINATION MARK",
  "1E947;10HAMZA;10CONSONANT MODIFIER;12GEMINATE;10NUKTA;10NASALIZATION MARK",
  "1E950;10DIGIT ZERO;20ONE;20TWO;20THREE;20FOUR;20FIVE;20SIX;20SEVEN;20EIGHT;20NINE",
  "1E95E;10INITIAL EXCLAMATION MARK;21QUESTION",
  "1EC71;00INDIC SIYAQ NUMBER ONE;30TWO;30THREE;30FOUR;30FIVE;30SIX;30SEVEN;30EIGHT;30NINE;30TEN;30TWENTY",
  "1EC7C;30THIRTY;30FORTY;30FIFTY;30SIXTY;30SEVENTY;30EIGHTY;30NINETY;30ONE HUNDRED;31TWO;31THREE;31FOUR",
  "1EC87;31FIVE;31SIX;31SEVEN;31EIGHT;31NINE;30ONE THOUSAND;31TWO;31THREE;31FOUR;31FIVE;31SIX;31SEVEN",
  "1EC93;31EIGHT;31NINE;31TEN;31TWENTY;31THIRTY;31FORTY;31FIFTY;31SIXTY;31SEVENTY;31EIGHTY;31NINETY;30LAKH",
  "1EC9F;30LAKHAN;20LAKH MARK;20NUMBER KAROR;30KARORAN;30PREFIXED ONE;40TWO;40THREE;40FOUR;40FIVE;40SIX",
  "1ECA9;40SEVEN;40EIGHT;40NINE;20PLACEHOLDER;20FRACTION ONE QUARTER;40HALF;30THREE QUARTERS;20RUPEE MARK",
  "1ECB1;20NUMBER ALTERNATE ONE;40TWO;40TEN THOUSAND;20ALTERNATE LAKH MARK",
  "1ED01;00OTTOMAN SIYAQ NUMBER ONE;30TWO;30THREE;30FOUR;30FIVE;30SIX;30SEVEN;30EIGHT;30NINE;30TEN;30TWENTY",
  "1ED0C;30THIRTY;30FORTY;30FIFTY;30SIXTY;30SEVENTY;30EIGHTY;30NINETY;30ONE HUNDRED;31TWO;31THREE;31FOUR"]

private def characterNameRows24 : List String := [
  "1ED17;31FIVE;31SIX;31SEVEN;31EIGHT;31NINE;30ONE THOUSAND;31TWO;31THREE;31FOUR;31FIVE;31SIX;31SEVEN",
  "1ED23;31EIGHT;31NINE;31TEN;31TWENTY;31THIRTY;31FORTY;31FIFTY;31SIXTY;31SEVENTY;31EIGHTY;31NINETY",
  "1ED2E;20MARRATAN;20ALTERNATE NUMBER TWO;40THREE;40FOUR;40FIVE;40SIX;40SEVEN;40EIGHT;40NINE;40TEN",
  "1ED38;40FOUR HUNDRED;41SIX;40TWO THOUSAND;41TEN;20FRACTION ONE HALF;40SIXTH",
  "1EE00;00ARABIC MATHEMATICAL ALEF;20BEH;20JEEM;20DAL",
  "1EE05;20WAW;20ZAIN;20HAH;20TAH;20YEH;20KAF;20LAM;20MEEM;20NOON;20SEEN;20AIN;20FEH;20SAD;20QAF;20REH",
  "1EE14;20SHEEN;20TEH;20THEH;20KHAH;20THAL;20DAD;20ZAH;20GHAIN;20DOTLESS BEH;30NOON;30FEH;30QAF",
  "1EE21;20INITIAL BEH;30JEEM",
  "1EE24;30HEH",
  "1EE27;30HAH",
  "1EE29;30YEH;30KAF;30LAM;30MEEM;30NOON;30SEEN;30AIN;30FEH;30SAD;30QAF",
  "1EE34;30SHEEN;30TEH;30THEH;30KHAH",
  "1EE39;30DAD",
  "1EE3B;30GHAIN",
  "1EE42;20TAILED JEEM",
  "1EE47;30HAH",
  "1EE49;30YEH",
  "1EE4B;30LAM",
  "1EE4D;30NOON;30SEEN;30AIN",
  "1EE51;30SAD;30QAF",
  "1EE54;30SHEEN",
  "1EE57;30KHAH",
  "1EE59;30DAD",
  "1EE5B;30GHAIN",
  "1EE5D;30DOTLESS NOON",
  "1EE5F;40QAF",
  "1EE61;20STRETCHED BEH;30JEEM",
  "1EE64;30HEH",
  "1EE67;30HAH;30TAH;30YEH;30KAF",
  "1EE6C;30MEEM;30NOON;30SEEN;30AIN;30FEH;30SAD;30QAF",
  "1EE74;30SHEEN;30TEH;30THEH;30KHAH",
  "1EE79;30DAD;30ZAH;30GHAIN;30DOTLESS BEH",
  "1EE7E;40FEH",
  "1EE80;20LOOPED ALEF;30BEH;30JEEM;30DAL;30HEH;30WAW;30ZAIN;30HAH;30TAH;30YEH",
  "1EE8B;30LAM;30MEEM;30NOON;30SEEN;30AIN;30FEH;30SAD;30QAF;30REH;30SHEEN;30TEH;30THEH;30KHAH;30THAL;30DAD",
  "1EE9A;30ZAH;30GHAIN",
  "1EEA1;20DOUBLE-STRUCK BEH;30JEEM;30DAL",
  "1EEA5;30WAW;30ZAIN;30HAH;30TAH;30YEH",
  "1EEAB;30LAM;30MEEM;30NOON;30SEEN;30AIN;30FEH;30SAD;30QAF;30REH;30SHEEN;30TEH;30THEH;30KHAH;30THAL;30DAD",
  "1EEBA;30ZAH;30GHAIN",
  "1EEF0;20OPERATOR MEEM WITH HAH WITH TATWEEL;30HAH WITH DAL",
  "1F000;00MAHJONG TILE EAST WIND;21SOUTH;21WEST;21NORTH;20RED DRAGON;21GREEN;21WHITE;20ONE OF CHARACTERS",
  "1F008;22TWO;22THREE;22FOUR;22FIVE;22SIX;22SEVEN;22EIGHT;22NINE;20ONE OF BAMBOOS;22TWO;22THREE;22FOUR",
  "1F014;22FIVE;22SIX;22SEVEN;22EIGHT;22NINE;20ONE OF CIRCLES;22TWO;22THREE;22FOUR;22FIVE;22SIX;22SEVEN",
  "1F020;22EIGHT;22NINE;20PLUM;20ORCHID;20BAMBOO;20CHRYSANTHEMUM;20SPRING;20SUMMER;20AUTUMN;20WINTER",
  "1F02A;20JOKER;20BACK",
  "1F030;01DOMINO TILE HORIZONTAL;20HORIZONTAL-00-00;20HORIZONTAL-00-01;20HORIZONTAL-00-02",
  "1F034;20HORIZONTAL-00-03;20HORIZONTAL-00-04;20HORIZONTAL-00-05;20HORIZONTAL-00-06;20HORIZONTAL-01-00",
  "1F039;20HORIZONTAL-01-01;20HORIZONTAL-01-02;20HORIZONTAL-01-03;20HORIZONTAL-01-04;20HORIZONTAL-01-05",
  "1F03E;20HORIZONTAL-01-06;20HORIZONTAL-02-00;20HORIZONTAL-02-01;20HORIZONTAL-02-02;20HORIZONTAL-02-03",
  "1F043;20HORIZONTAL-02-04;20HORIZONTAL-02-05;20HORIZONTAL-02-06;20HORIZONTAL-03-00;20HORIZONTAL-03-01",
  "1F048;20HORIZONTAL-03-02;20HORIZONTAL-03-03;20HORIZONTAL-03-04;20HORIZONTAL-03-05;20HORIZONTAL-03-06",
  "1F04D;20HORIZONTAL-04-00;20HORIZONTAL-04-01;20HORIZONTAL-04-02;20HORIZONTAL-04-03;20HORIZONTAL-04-04",
  "1F052;20HORIZONTAL-04-05;20HORIZONTAL-04-06;20HORIZONTAL-05-00;20HORIZONTAL-05-01;20HORIZONTAL-05-02",
  "1F057;20HORIZONTAL-05-03;20HORIZONTAL-05-04;20HORIZONTAL-05-05;20HORIZONTAL-05-06;20HORIZONTAL-06-00",
  "1F05C;20HORIZONTAL-06-01;20HORIZONTAL-06-02;20HORIZONTAL-06-03;20HORIZONTAL-06-04;20HORIZONTAL-06-05",
  "1F061;20HORIZONTAL-06-06;20VERTICAL BACK;20VERTICAL-00-00;20VERTICAL-00-01;20VERTICAL-00-02",
  "1F066;20VERTICAL-00-03;20VERTICAL-00-04;20VERTICAL-00-05;20VERTICAL-00-06;20VERTICAL-01-00",
  "1F06B;20VERTICAL-01-01;20VERTICAL-01-02;20VERTICAL-01-03;20VERTICAL-01-04;20VERTICAL-01-05",
  "1F070;20VERTICAL-01-06;20VERTICAL-02-00;20VERTICAL-02-01;20VERTICAL-02-02;20VERTICAL-02-03",
  "1F075;20VERTICAL-02-04;20VERTICAL-02-05;20VERTICAL-02-06;20VERTICAL-03-00;20VERTICAL-03-01",
  "1F07A;20VERTICAL-03-02;20VERTICAL-03-03;20VERTICAL-03-04;20VERTICAL-03-05;20VERTICAL-03-06",
  "1F07F;20VERTICAL-04-00;20VERTICAL-04-01;20VERTICAL-04-02;20VERTICAL-04-03;20VERTICAL-04-04",
  "1F084;20VERTICAL-04-05;20VERTICAL-04-06;20VERTICAL-05-00;20VERTICAL-05-01;20VERTICAL-05-02",
  "1F089;20VERTICAL-05-03;20VERTICAL-05-04;20VERTICAL-05-05;20VERTICAL-05-06;20VERTICAL-06-00",
  "1F08E;20VERTICAL-06-01;20VERTICAL-06-02;20VERTICAL-06-03;20VERTICAL-06-04;20VERTICAL-06-05",
  "1F093;20VERTICAL-06-06",
  "1F0A0;00PLAYING CARD BACK;20ACE OF SPADES;22TWO;22THREE;22FOUR;22FIVE;22SIX;22SEVEN;22EIGHT;22NINE;22TEN",
  "1F0AB;22JACK;22KNIGHT;22QUEEN;22KING",
  "1F0B1;20ACE OF HEARTS;22TWO;22THREE;22FOUR;22FIVE;22SIX;22SEVEN;22EIGHT;22NINE;22TEN;22JACK;22KNIGHT",
  "1F0BD;22QUEEN;22KING;20RED JOKER",
  "1F0C1;20ACE OF DIAMONDS;22TWO;22THREE;22FOUR;22FIVE;22SIX;22SEVEN;22EIGHT;22NINE;22TEN;22JACK;22KNIGHT",
  "1F0CD;22QUEEN;22KING;20BLACK JOKER",
  "1F0D1;20ACE OF CLUBS;22TWO;22THREE;22FOUR;22FIVE;22SIX;22SEVEN;22EIGHT;22NINE;22TEN;22JACK;22KNIGHT",
  "1F0DD;22QUEEN;22KING;20WHITE JOKER;20FOOL;20TRUMP-1;20TRUMP-2;20TRUMP-3;20TRUMP-4;20TRUMP-5;20TRUMP-6",
  "1F0E7;20TRUMP-7;20TRUMP-8;20TRUMP-9;20TRUMP-10;20TRUMP-11;20TRUMP-12;20TRUMP-13;20TRUMP-14;20TRUMP-15",
  "1F0F0;20TRUMP-16;20TRUMP-17;20TRUMP-18;20TRUMP-19;20TRUMP-20;20TRUMP-21",
  "1F100;00DIGIT ZERO FULL STOP;20COMMA;11ONE;11TWO;11THREE;11FOUR;11FIVE;11SIX;11SEVEN;11EIGHT;11NINE",
  "1F10B;00DINGBAT CIRCLED SANS-SERIF DIGIT ZERO;14NEGATIVE;00CIRCLED ZERO WITH SLASH;10ANTICLOCKWISE ARROW",
  "1F10F;10DOLLAR SIGN WITH OVERLAID BACKSLASH;00PARENTHESIZED LATIN CAPITAL LETTER A;40B;40C;40D;40E;40F",
  "1F116;40G;40H;40I;40J;40K;40L;40M;40N;40O;40P;40Q;40R;40S;40T;40U;40V;40W;40X;40Y;40Z",
  "1F12A;00TORTOISE SHELL BRACKETED LATIN CAPITAL LETTER S;00CIRCLED ITALIC LATIN CAPITAL LETTER C;50R;10CD",
  "1F12E;10WZ;00COPYLEFT SYMBOL;00SQUARED LATIN CAPITAL LETTER A;40B;40C;40D;40E;40F;40G;40H;40I;40J;40K",
  "1F13B;40L;40M;40N;40O;40P;40Q;40R;40S;40T;40U;40V;40W;40X;40Y;40Z;10HV;10MV;10SD;10SS;10PPV;10WC",
  "1F150;00NEGATIVE CIRCLED LATIN CAPITAL LETTER A;50B;50C;50D;50E;50F;50G;50H;50I;50J;50K;50L;50M;50N;50O",
  "1F15F;50P;50Q;50R;50S;50T;50U;50V;50W;50X;50Y;50Z;00RAISED MC SIGN;11MD;11MR;00CIRCLED CC",
  "1F16E;10C WITH OVERLAID BACKSLASH;10HUMAN FIGURE;00NEGATIVE SQUARED LATIN CAPITAL LETTER A;50B;50C;50D",
  "1F174;50E;50F;50G;50H;50I;50J;50K;50L;50M;50N;50O;50P;50Q;50R;50S;50T;50U;50V;50W;50X;50Y;50Z",
  "1F18A;00CROSSED NEGATIVE SQUARED LATIN CAPITAL LETTER P;00NEGATIVE SQUARED IC;20PA;20SA;20AB;20WC",
  "1F190;00SQUARE DJ;00SQUARED CL;10COOL;10FREE;10ID;10NEW;10NG;10OK;10SOS;10UP WITH EXCLAMATION MARK;10VS",
  "1F19B;10THREE D;10SECOND SCREEN;10TWO K;11FOUR;11EIGHT;10FIVE POINT ONE;12SEVEN;10TWENTY-TWO POINT TWO",
  "1F1A3;10SIXTY P;11ONE HUNDRED TWENTY;10LATIN SMALL LETTER D;10HC;10HDR;10HI-RES;10LOSSLESS;10SHV;10UHD",
  "1F1AC;10VOD;00MASK WORK SYMBOL",
  "1F1E6;00REGIONAL INDICATOR SYMBOL LETTER A;40B;40C;40D;40E;40F;40G;40H;40I;40J;40K;40L;40M;40N;40O;40P",
  "1F1F6;40Q;40R;40S;40T;40U;40V;40W;40X;40Y;40Z;00SQUARE HIRAGANA HOKA;00SQUARED KATAKANA KOKO;20SA",
  "1F210;10CJK UNIFIED IDEOGRAPH-624B;30IDEOGRAPH-5B57;30IDEOGRAPH-53CC;10KATAKANA DE",
  "1F214;10CJK UNIFIED IDEOGRAPH-4E8C;30IDEOGRAPH-591A;30IDEOGRAPH-89E3;30IDEOGRAPH-5929;30IDEOGRAPH-4EA4",
  "1F219;30IDEOGRAPH-6620;30IDEOGRAPH-7121;30IDEOGRAPH-6599;30IDEOGRAPH-524D;30IDEOGRAPH-5F8C",
  "1F21E;30IDEOGRAPH-518D;30IDEOGRAPH-65B0;30IDEOGRAPH-521D;30IDEOGRAPH-7D42;30IDEOGRAPH-751F",
  "1F223;30IDEOGRAPH-8CA9;30IDEOGRAPH-58F0;30IDEOGRAPH-5439;30IDEOGRAPH-6F14;30IDEOGRAPH-6295",
  "1F228;30IDEOGRAPH-6355;30IDEOGRAPH-4E00;30IDEOGRAPH-4E09;30IDEOGRAPH-904A;30IDEOGRAPH-5DE6",
  "1F22D;30IDEOGRAPH-4E2D;30IDEOGRAPH-53F3;30IDEOGRAPH-6307;30IDEOGRAPH-8D70;30IDEOGRAPH-6253",
  "1F232;30IDEOGRAPH-7981;30IDEOGRAPH-7A7A;30IDEOGRAPH-5408;30IDEOGRAPH-6E80;30IDEOGRAPH-6709",
  "1F237;30IDEOGRAPH-6708;30IDEOGRAPH-7533;30IDEOGRAPH-5272;30IDEOGRAPH-55B6;30IDEOGRAPH-914D",
  "1F240;00TORTOISE SHELL BRACKETED CJK UNIFIED IDEOGRAPH-672C;50IDEOGRAPH-4E09;50IDEOGRAPH-4E8C",
  "1F243;50IDEOGRAPH-5B89;50IDEOGRAPH-70B9;50IDEOGRAPH-6253;50IDEOGRAPH-76D7;50IDEOGRAPH-52DD",
  "1F248;50IDEOGRAPH-6557",
  "1F250;00CIRCLED IDEOGRAPH ADVANTAGE;20ACCEPT",
  "1F260;00ROUNDED SYMBOL FOR FU;30LU;30SHOU;30XI;30SHUANGXI;30CAI",
  "1F300;00CYCLONE;00FOGGY;00CLOSED UMBRELLA;00NIGHT WITH STARS;00SUNRISE OVER MOUNTAINS;10",
  "1F306;00CITYSCAPE AT DUSK;00SUNSET OVER BUILDINGS;00RAINBOW;00BRIDGE AT NIGHT;00WATER WAVE;00VOLCANO",
  "1F30C;00MILKY WAY;00EARTH GLOBE EUROPE-AFRICA;20AMERICAS;20ASIA-AUSTRALIA;00GLOBE WITH MERIDIANS",
  "1F311;00NEW MOON SYMBOL;02WAXING CRESCENT;02FIRST QUARTER;02WAXING GIBBOUS;02FULL;02WANING GIBBOUS",
  "1F317;02LAST QUARTER;02WANING CRESCENT;00CRESCENT MOON;00NEW MOON WITH FACE;03FIRST QUARTER;04LAST",
  "1F31D;03FULL;02SUN;00GLOWING STAR;01SHOOTING;00THERMOMETER;00BLACK DROPLET;00WHITE SUN",
  "1F324;20WITH SMALL CLOUD;21BEHIND;40WITH RAIN;03;20SNOW;20LIGHTNING;20TORNADO;00FOG;00WIND BLOWING FACE",
  "1F32D;00HOT DOG;00TACO;00BURRITO;00CHESTNUT;00SEEDLING;00EVERGREEN TREE;01DECIDUOUS;01PALM;00CACTUS",
  "1F336;00HOT PEPPER;00TULIP;00CHERRY BLOSSOM;00ROSE;00HIBISCUS;00SUNFLOWER;00BLOSSOM;00EAR OF MAIZE",
  "1F33E;20RICE;00HERB;00FOUR LEAF CLOVER;00MAPLE LEAF;01FALLEN;00LEAF FLUTTERING IN WIND;00MUSHROOM",
  "1F345;00TOMATO;00AUBERGINE;00GRAPES;00MELON;00WATERMELON;00TANGERINE;00LEMON;00BANANA;00PINEAPPLE",
  "1F34E;00RED APPLE;01GREEN;00PEAR;00PEACH;00CHERRIES;00STRAWBERRY;00HAMBURGER;00SLICE OF PIZZA",
  "1F356;00MEAT ON BONE;00POULTRY LEG;00RICE CRACKER;10BALL;00COOKED RICE;01CURRY AND;00STEAMING BOWL",
  "1F35D;00SPAGHETTI;00BREAD;00FRENCH FRIES;00ROASTED SWEET POTATO;00DANGO;00ODEN;00SUSHI;00FRIED SHRIMP",
  "1F365;00FISH CAKE WITH SWIRL DESIGN;00SOFT ICE CREAM;00SHAVED ICE;00ICE CREAM;00DOUGHNUT;00COOKIE",
  "1F36B;00CHOCOLATE BAR;00CANDY;00LOLLIPOP;00CUSTARD;00HONEY POT;00SHORTCAKE;00BENTO BOX;00POT OF FOOD",
  "1F373;00COOKING;00FORK AND KNIFE;00TEACUP WITHOUT HANDLE;00SAKE BOTTLE AND CUP;00WINE GLASS;01COCKTAIL",
  "1F379;00TROPICAL DRINK;00BEER MUG;00CLINKING BEER MUGS;00BABY BOTTLE;00FORK AND KNIFE WITH PLATE",
  "1F37E;00BOTTLE WITH POPPING CORK;00POPCORN;00RIBBON;00WRAPPED PRESENT;00BIRTHDAY CAKE;00JACK-O-LANTERN",
  "1F384;00CHRISTMAS TREE;00FATHER CHRISTMAS;00FIREWORKS;00FIREWORK SPARKLER;00BALLOON;00PARTY POPPER",
  "1F38A;00CONFETTI BALL;00TANABATA TREE;00CROSSED FLAGS;00PINE DECORATION;00JAPANESE DOLLS;00CARP STREAMER",
  "1F390;00WIND CHIME;00MOON VIEWING CEREMONY;00SCHOOL SATCHEL;00GRADUATION CAP",
  "1F394;00HEART WITH TIP ON THE LEFT;00BOUQUET OF FLOWERS;00MILITARY MEDAL;00REMINDER RIBBON",
  "1F398;00MUSICAL KEYBOARD WITH JACKS;00STUDIO MICROPHONE;00LEVEL SLIDER;00CONTROL KNOBS",
  "1F39C;00BEAMED ASCENDING MUSICAL NOTES;12DESCENDING;00FILM FRAMES;00ADMISSION TICKETS;00CAROUSEL HORSE",
  "1F3A1;00FERRIS WHEEL;00ROLLER COASTER;00FISHING POLE AND FISH;00MICROPHONE;00MOVIE CAMERA;00CINEMA",
  "1F3A7;00HEADPHONE;00ARTIST PALETTE;00TOP HAT;00CIRCUS TENT;00TICKET;00CLAPPER BOARD;00PERFORMING ARTS",
  "1F3AE;00VIDEO GAME;00DIRECT HIT;00SLOT MACHINE;00BILLIARDS;00GAME DIE;00BOWLING;00FLOWER PLAYING CARDS",
  "1F3B5;00MUSICAL NOTE;00MULTIPLE MUSICAL NOTES;00SAXOPHONE;00GUITAR;00MUSICAL KEYBOARD;00TRUMPET;00VIOLIN",
  "1F3BC;00MUSICAL SCORE;00RUNNING SHIRT WITH SASH;00TENNIS RACQUET AND BALL;00SKI AND SKI BOOT",
  "1F3C0;00BASKETBALL AND HOOP;00CHEQUERED FLAG;00SNOWBOARDER;00RUNNER;00SURFER;00SPORTS MEDAL;00TROPHY",
  "1F3C7;00HORSE RACING;00AMERICAN FOOTBALL;01RUGBY;00SWIMMER;00WEIGHT LIFTER;00GOLFER;00RACING MOTORCYCLE",
  "1F3CE;10CAR;00CRICKET BAT AND BALL;00VOLLEYBALL;00FIELD HOCKEY STICK AND BALL",
  "1F3D2;00ICE HOCKEY STICK AND PUCK;00TABLE TENNIS PADDLE AND BALL;00SNOW CAPPED MOUNTAIN;00CAMPING",
  "1F3D6;00BEACH WITH UMBRELLA;00BUILDING CONSTRUCTION;00HOUSE BUILDINGS;00CITYSCAPE",
  "1F3DA;00DERELICT HOUSE BUILDING;01CLASSICAL;00DESERT;10ISLAND;00NATIONAL PARK;00STADIUM;00HOUSE BUILDING",
  "1F3E1;10WITH GARDEN;00OFFICE BUILDING;00JAPANESE POST OFFICE;02EUROPEAN;00HOSPITAL;00BANK",
  "1F3E7;00AUTOMATED TELLER MACHINE;00HOTEL;01LOVE;00CONVENIENCE STORE;00SCHOOL;00DEPARTMENT STORE",
  "1F3ED;00FACTORY;00IZAKAYA LANTERN;00JAPANESE CASTLE;01EUROPEAN;00WHITE PENNANT;01BLACK",
  "1F3F3;00WAVING WHITE FLAG;11BLACK;00ROSETTE;01BLACK;00LABEL;00BADMINTON RACQUET AND SHUTTLECOCK",
  "1F3F9;00BOW AND ARROW;00AMPHORA;00EMOJI MODIFIER FITZPATRICK TYPE-1-2;30TYPE-3;30TYPE-4;30TYPE-5",
  "1F3FF;30TYPE-6;00RAT;00MOUSE;00OX;00WATER BUFFALO;00COW;00TIGER;00LEOPARD;00RABBIT;00CAT;00DRAGON",
  "1F40A;00CROCODILE;00WHALE;00SNAIL;00SNAKE;00HORSE;00RAM;00GOAT;00SHEEP;00MONKEY;00ROOSTER;00CHICKEN",
  "1F415;00DOG;00PIG;00BOAR;00ELEPHANT;00OCTOPUS;00SPIRAL SHELL;00BUG;00ANT;00HONEYBEE;00LADY BEETLE;00FISH",
  "1F420;01TROPICAL;00BLOWFISH;00TURTLE;00HATCHING CHICK;01BABY;02FRONT-FACING;00BIRD;00PENGUIN;00KOALA",
  "1F429;00POODLE;00DROMEDARY CAMEL;01BACTRIAN;00DOLPHIN;00MOUSE FACE;01COW;01TIGER;01RABBIT;01CAT;01DRAGON",
  "1F433;00SPOUTING WHALE;00HORSE FACE;01MONKEY;01DOG;01PIG;01FROG;01HAMSTER;01WOLF;01BEAR;01PANDA",
  "1F43D;00PIG NOSE;00PAW PRINTS;00CHIPMUNK;00EYES;00EYE;00EAR;00NOSE;00MOUTH;00TONGUE",
  "1F446;00WHITE UP POINTING BACKHAND INDEX;13DOWN;13LEFT;13RIGHT;00FISTED HAND SIGN;02WAVING;02OK",
  "1F44D;01THUMBS UP;11DOWN;01CLAPPING HANDS;02OPEN;00CROWN;00WOMANS HAT;00EYEGLASSES;00NECKTIE;00T-SHIRT",
  "1F456;00JEANS;00DRESS;00KIMONO;00BIKINI;00WOMANS CLOTHES;00PURSE;00HANDBAG;00POUCH;00MANS SHOE"]

private def characterNameRows25 : List String := [
  "1F45F;01ATHLETIC;01HIGH-HEELED;00WOMANS SANDAL;10BOOTS;00FOOTPRINTS;00BUST IN SILHOUETTE;02BUSTS;00BOY",
  "1F467;00GIRL;00MAN;00WOMAN;00FAMILY;00MAN AND WOMAN HOLDING HANDS;02TWO MEN;12WOMEN;00POLICE OFFICER",
  "1F46F;00WOMAN WITH BUNNY EARS;00BRIDE WITH VEIL;00PERSON WITH BLOND HAIR;00MAN WITH GUA PI MAO;20TURBAN",
  "1F474;00OLDER MAN;10WOMAN;00BABY;00CONSTRUCTION WORKER;00PRINCESS;00JAPANESE OGRE;10GOBLIN;00GHOST",
  "1F47C;00BABY ANGEL;00EXTRATERRESTRIAL ALIEN;00ALIEN MONSTER;00IMP;00SKULL;00INFORMATION DESK PERSON",
  "1F482;00GUARDSMAN;00DANCER;00LIPSTICK;00NAIL POLISH;00FACE MASSAGE;00HAIRCUT;00BARBER POLE;00SYRINGE",
  "1F48A;00PILL;00KISS MARK;00LOVE LETTER;00RING;00GEM STONE;00KISS;00BOUQUET;00COUPLE WITH HEART;00WEDDING",
  "1F493;00BEATING HEART;01BROKEN;00TWO HEARTS;00SPARKLING HEART;01GROWING;00HEART WITH ARROW;00BLUE HEART",
  "1F49A;01GREEN;01YELLOW;01PURPLE;00HEART WITH RIBBON;00REVOLVING HEARTS;00HEART DECORATION",
  "1F4A0;00DIAMOND SHAPE WITH A DOT INSIDE;00ELECTRIC LIGHT BULB;00ANGER SYMBOL;00BOMB;00SLEEPING SYMBOL",
  "1F4A5;01COLLISION;01SPLASHING SWEAT;00DROPLET;00DASH SYMBOL;00PILE OF POO;00FLEXED BICEPS;00DIZZY SYMBOL",
  "1F4AC;00SPEECH BALLOON;01THOUGHT;00WHITE FLOWER;00HUNDRED POINTS SYMBOL;00MONEY BAG;00CURRENCY EXCHANGE",
  "1F4B2;00HEAVY DOLLAR SIGN;00CREDIT CARD;00BANKNOTE WITH YEN SIGN;21DOLLAR;21EURO;21POUND",
  "1F4B8;00MONEY WITH WINGS;00CHART WITH UPWARDS TREND AND YEN SIGN;00SEAT;00PERSONAL COMPUTER;00BRIEFCASE",
  "1F4BD;00MINIDISC;00FLOPPY DISK;00OPTICAL DISC;00DVD;00FILE FOLDER;02OPEN;00PAGE WITH CURL;10FACING UP",
  "1F4C5;00CALENDAR;01TEAR-OFF;00CARD INDEX;00CHART WITH UPWARDS TREND;21DOWNWARDS;00BAR CHART;00CLIPBOARD",
  "1F4CC;00PUSHPIN;01ROUND;00PAPERCLIP;00STRAIGHT RULER;01TRIANGULAR;00BOOKMARK TABS;00LEDGER;00NOTEBOOK",
  "1F4D4;10WITH DECORATIVE COVER;00CLOSED BOOK;01OPEN;01GREEN;01BLUE;01ORANGE;00BOOKS;00NAME BADGE;00SCROLL",
  "1F4DD;00MEMO;00TELEPHONE RECEIVER;00PAGER;00FAX MACHINE;00SATELLITE ANTENNA;00PUBLIC ADDRESS LOUDSPEAKER",
  "1F4E3;00CHEERING MEGAPHONE;00OUTBOX TRAY;01INBOX;00PACKAGE;00E-MAIL SYMBOL;00INCOMING ENVELOPE",
  "1F4E9;00ENVELOPE WITH DOWNWARDS ARROW ABOVE;00CLOSED MAILBOX WITH LOWERED FLAG;31RAISED;04OPEN;31LOWERED",
  "1F4EE;00POSTBOX;00POSTAL HORN;00NEWSPAPER;00MOBILE PHONE;20WITH RIGHTWARDS ARROW AT LEFT",
  "1F4F3;00VIBRATION MODE;00MOBILE PHONE OFF;00NO MOBILE PHONES;00ANTENNA WITH BARS;00CAMERA;10WITH FLASH",
  "1F4F9;00VIDEO CAMERA;00TELEVISION;00RADIO;00VIDEOCASSETTE;00FILM PROJECTOR;00PORTABLE STEREO",
  "1F4FF;00PRAYER BEADS;00TWISTED RIGHTWARDS ARROWS;01CLOCKWISE RIGHTWARDS AND LEFTWARDS OPEN CIRCLE",
  "1F502;70WITH CIRCLED ONE OVERLAY;10DOWNWARDS AND UPWARDS OPEN CIRCLE ARROWS;06ANTICLOCKWISE",
  "1F505;00LOW BRIGHTNESS SYMBOL;02HIGH;00SPEAKER WITH CANCELLATION STROKE;10;10WITH ONE SOUND WAVE",
  "1F50A;20THREE SOUND WAVES;00BATTERY;00ELECTRIC PLUG;00LEFT-POINTING MAGNIFYING GLASS;02RIGHT-POINTING",
  "1F50F;00LOCK WITH INK PEN;00CLOSED LOCK WITH KEY;01;00LOCK;01OPEN;00BELL;10WITH CANCELLATION STROKE",
  "1F516;00BOOKMARK;00LINK SYMBOL;00RADIO BUTTON;00BACK WITH LEFTWARDS ARROW ABOVE;04END",
  "1F51B;02ON WITH EXCLAMATION MARK WITH LEFT RIGHT;02SOON WITH RIGHTWARDS;02TOP WITH UPWARDS",
  "1F51E;00NO ONE UNDER EIGHTEEN SYMBOL;00KEYCAP TEN;00INPUT SYMBOL FOR LATIN CAPITAL LETTERS;41SMALL",
  "1F522;30NUMBERS;30SYMBOLS;30LATIN LETTERS;00FIRE;00ELECTRIC TORCH;00WRENCH;00HAMMER;00NUT AND BOLT",
  "1F52A;00HOCHO;00PISTOL;00MICROSCOPE;00TELESCOPE;00CRYSTAL BALL;00SIX POINTED STAR WITH MIDDLE DOT",
  "1F530;00JAPANESE SYMBOL FOR BEGINNER;00TRIDENT EMBLEM;00BLACK SQUARE BUTTON;02WHITE;00LARGE RED CIRCLE",
  "1F535;11BLUE;10ORANGE DIAMOND;11BLUE;01SMALL ORANGE;11BLUE;00UP-POINTING RED TRIANGLE;02DOWN-POINTING",
  "1F53C;02UP-POINTING SMALL;03DOWN-POINTING;00LOWER RIGHT SHADOWED WHITE CIRCLE;04UPPER",
  "1F540;00CIRCLED CROSS POMMEE;00CROSS POMMEE WITH HALF-CIRCLE BELOW;20",
  "1F543;00NOTCHED LEFT SEMICIRCLE WITH THREE DOTS;14RIGHT;00SYMBOL FOR MARKS CHAPTER;00WHITE LATIN CROSS",
  "1F547;02HEAVY;01CELTIC;00OM SYMBOL;00DOVE OF PEACE;00KAABA;00MOSQUE;00SYNAGOGUE",
  "1F54E;00MENORAH WITH NINE BRANCHES;00BOWL OF HYGIEIA;00CLOCK FACE ONE OCLOCK;21TWO;21THREE;21FOUR;21FIVE",
  "1F555;21SIX;21SEVEN;21EIGHT;21NINE;21TEN;21ELEVEN;21TWELVE;20ONE-THIRTY;20TWO-THIRTY;20THREE-THIRTY",
  "1F55F;20FOUR-THIRTY;20FIVE-THIRTY;20SIX-THIRTY;20SEVEN-THIRTY;20EIGHT-THIRTY;20NINE-THIRTY;20TEN-THIRTY",
  "1F566;20ELEVEN-THIRTY;20TWELVE-THIRTY;00RIGHT SPEAKER;20WITH ONE SOUND WAVE;30THREE SOUND WAVES",
  "1F56B;00BULLHORN;10WITH SOUND WAVES;00RINGING BELL;00BOOK;00CANDLE;00MANTELPIECE CLOCK",
  "1F571;00BLACK SKULL AND CROSSBONES;00NO PIRACY;00HOLE;00MAN IN BUSINESS SUIT LEVITATING;00SLEUTH OR SPY",
  "1F576;00DARK SUNGLASSES;00SPIDER;10WEB;00JOYSTICK;00MAN DANCING;00LEFT HAND TELEPHONE RECEIVER",
  "1F57C;00TELEPHONE RECEIVER WITH PAGE;00RIGHT HAND TELEPHONE RECEIVER;00WHITE TOUCHTONE TELEPHONE;02BLACK",
  "1F580;00TELEPHONE ON TOP OF MODEM;00CLAMSHELL MOBILE PHONE;00BACK OF ENVELOPE;01STAMPED",
  "1F584;00ENVELOPE WITH LIGHTNING;00FLYING ENVELOPE;01PEN OVER STAMPED;00LINKED PAPERCLIPS;00BLACK PUSHPIN",
  "1F589;00LOWER LEFT PENCIL;20BALLPOINT PEN;21FOUNTAIN;20PAINTBRUSH;20CRAYON;00LEFT WRITING HAND",
  "1F58F;00TURNED OK HAND SIGN;00RAISED HAND WITH FINGERS SPLAYED;05REVERSED;10THUMBS UP SIGN;21DOWN",
  "1F594;10VICTORY HAND;10HAND WITH MIDDLE FINGER EXTENDED",
  "1F596;00RAISED HAND WITH PART BETWEEN MIDDLE AND RING FINGERS;00WHITE DOWN POINTING LEFT HAND INDEX",
  "1F598;01SIDEWAYS WHITE LEFT POINTING;22RIGHT;12BLACK LEFT;22RIGHT;01BLACK LEFT POINTING BACKHAND;13RIGHT",
  "1F59E;01SIDEWAYS WHITE UP POINTING;22DOWN;12BLACK UP;22DOWN;01BLACK UP POINTING BACKHAND;13DOWN;10HEART",
  "1F5A5;00DESKTOP COMPUTER;00KEYBOARD AND MOUSE;00THREE NETWORKED COMPUTERS;00PRINTER;00POCKET CALCULATOR",
  "1F5AA;00BLACK HARD SHELL FLOPPY DISK;04WHITE;03SOFT;00TAPE CARTRIDGE;00WIRED KEYBOARD;00ONE BUTTON MOUSE",
  "1F5B0;02TWO;02THREE;00TRACKBALL;00OLD PERSONAL COMPUTER;00HARD DISK;00SCREEN;00PRINTER ICON;01FAX",
  "1F5B8;01OPTICAL DISC;00DOCUMENT WITH TEXT;30AND PICTURE;21;02FRAME;20TILES;20AN X;00BLACK FOLDER;01",
  "1F5C1;01OPEN;00CARD INDEX DIVIDERS;10FILE BOX;00FILE CABINET;00EMPTY NOTE;20PAGE;20PAD;00NOTE;10PAGE",
  "1F5CA;10PAD;00EMPTY DOCUMENT;10PAGE;10PAGES;00DOCUMENT;00PAGE;00PAGES;00WASTEBASKET;00SPIRAL NOTE PAD",
  "1F5D3;11CALENDAR;00DESKTOP WINDOW;00MINIMIZE;00MAXIMIZE;00OVERLAP",
  "1F5D8;00CLOCKWISE RIGHT AND LEFT SEMICIRCLE ARROWS;00CANCELLATION X;00INCREASE FONT SIZE SYMBOL",
  "1F5DB;03DECREASE;00COMPRESSION;00OLD KEY;00ROLLED-UP NEWSPAPER;00PAGE WITH CIRCLED TEXT;00STOCK CHART",
  "1F5E1;00DAGGER KNIFE;00LIPS;00SPEAKING HEAD IN SILHOUETTE;00THREE RAYS ABOVE;20BELOW;20LEFT;20RIGHT",
  "1F5E8;00LEFT SPEECH BUBBLE;02RIGHT;00TWO SPEECH BUBBLES;02THREE;00LEFT THOUGHT BUBBLE;02RIGHT",
  "1F5EE;01LEFT ANGER;02RIGHT;01MOOD;02LIGHTNING;20;00BALLOT BOX WITH BALLOT;10SCRIPT X;12BOX WITH;12BOLD",
  "1F5F7;13BOX WITH;00LIGHT CHECK MARK;00BALLOT BOX WITH BOLD CHECK;00WORLD MAP;00MOUNT FUJI;00TOKYO TOWER",
  "1F5FD;00STATUE OF LIBERTY;00SILHOUETTE OF JAPAN;00MOYAI;00GRINNING FACE;20WITH SMILING EYES",
  "1F602;00FACE WITH TEARS OF JOY;00SMILING FACE WITH OPEN MOUTH;50AND SMILING EYES;60COLD SWEAT",
  "1F606;60TIGHTLY-CLOSED EYES;30HALO;30HORNS;00WINKING FACE;00SMILING FACE WITH SMILING EYES",
  "1F60B;00FACE SAVOURING DELICIOUS FOOD;00RELIEVED FACE;00SMILING FACE WITH HEART-SHAPED EYES;30SUNGLASSES",
  "1F60F;00SMIRKING FACE;01NEUTRAL;01EXPRESSIONLESS;01UNAMUSED;00FACE WITH COLD SWEAT;00PENSIVE FACE",
  "1F615;01CONFUSED;01CONFOUNDED;01KISSING;00FACE THROWING A KISS;00KISSING FACE WITH SMILING EYES;31CLOSED",
  "1F61B;00FACE WITH STUCK-OUT TONGUE;40AND WINKING EYE;50TIGHTLY-CLOSED EYES;00DISAPPOINTED FACE;01WORRIED",
  "1F620;01ANGRY;01POUTING;01CRYING;01PERSEVERING;00FACE WITH LOOK OF TRIUMPH",
  "1F625;00DISAPPOINTED BUT RELIEVED FACE;00FROWNING FACE WITH OPEN MOUTH;00ANGUISHED FACE;01FEARFUL",
  "1F629;01WEARY;01SLEEPY;01TIRED;01GRIMACING;01LOUDLY CRYING;00FACE WITH OPEN MOUTH;00HUSHED FACE",
  "1F630;00FACE WITH OPEN MOUTH AND COLD SWEAT;10SCREAMING IN FEAR;00ASTONISHED FACE;01FLUSHED;01SLEEPING",
  "1F635;01DIZZY;00FACE WITHOUT MOUTH;10WITH MEDICAL MASK;00GRINNING CAT FACE WITH SMILING EYES",
  "1F639;00CAT FACE WITH TEARS OF JOY;00SMILING CAT FACE WITH OPEN MOUTH;40HEART-SHAPED EYES",
  "1F63C;00CAT FACE WITH WRY SMILE;00KISSING CAT FACE WITH CLOSED EYES;00POUTING CAT FACE;02CRYING;02WEARY",
  "1F641;01SLIGHTLY FROWNING;11SMILING;01UPSIDE-DOWN;00FACE WITH ROLLING EYES;20NO GOOD GESTURE;21OK",
  "1F647;00PERSON BOWING DEEPLY;00SEE-NO-EVIL MONKEY;01HEAR-NO-EVIL;01SPEAK-NO-EVIL",
  "1F64B;00HAPPY PERSON RAISING ONE HAND;00PERSON RAISING BOTH HANDS IN CELEBRATION;10FROWNING",
  "1F64E;10WITH POUTING FACE;20FOLDED HANDS;00NORTH WEST POINTING LEAF;03SOUTH;02NORTH EAST;03SOUTH",
  "1F654;02TURNED NORTH WEST;13SOUTH;12NORTH EAST;13SOUTH;01NORTH WEST POINTING VINE;04SOUTH;03NORTH EAST",
  "1F65B;04SOUTH;03HEAVY NORTH WEST;14SOUTH;13NORTH EAST;14SOUTH;00NORTH WEST POINTING BUD;03SOUTH",
  "1F662;02NORTH EAST;03SOUTH;02HEAVY NORTH WEST;13SOUTH;12NORTH EAST;13SOUTH",
  "1F668;00HOLLOW QUILT SQUARE ORNAMENT;40IN BLACK SQUARE;00SOLID QUILT SQUARE ORNAMENT;40IN BLACK SQUARE",
  "1F66C;00LEFTWARDS ROCKET;01UPWARDS;01RIGHTWARDS;01DOWNWARDS;00SCRIPT LIGATURE ET ORNAMENT;04HEAVY",
  "1F672;02LIGATURE OPEN;04HEAVY;11AMPERSAND;02SWASH;01SANS-SERIF HEAVY DOUBLE TURNED COMMA QUOTATION MARK",
  "1F677;34;25LOW;01HEAVY INTERROBANG;02SANS-SERIF;03HEAVY;00VERY HEAVY SOLIDUS;21REVERSE;00CHECKER BOARD",
  "1F67F;02REVERSE;00ROCKET;00HELICOPTER;00STEAM LOCOMOTIVE;00RAILWAY CAR;00HIGH-SPEED TRAIN",
  "1F685;20WITH BULLET NOSE;00TRAIN;00METRO;00LIGHT RAIL;00STATION;00TRAM;10CAR;00BUS;01ONCOMING",
  "1F68E;00TROLLEYBUS;00BUS STOP;00MINIBUS;00AMBULANCE;00FIRE ENGINE;00POLICE CAR;02ONCOMING;00TAXI",
  "1F696;01ONCOMING;00AUTOMOBILE;01ONCOMING;00RECREATIONAL VEHICLE;00DELIVERY TRUCK;00ARTICULATED LORRY",
  "1F69C;00TRACTOR;00MONORAIL;00MOUNTAIN RAILWAY;01SUSPENSION;00MOUNTAIN CABLEWAY;00AERIAL TRAMWAY;00SHIP",
  "1F6A3;00ROWBOAT;00SPEEDBOAT;00HORIZONTAL TRAFFIC LIGHT;02VERTICAL;00CONSTRUCTION SIGN",
  "1F6A8;00POLICE CARS REVOLVING LIGHT;00TRIANGULAR FLAG ON POST;00DOOR;00NO ENTRY SIGN;00SMOKING SYMBOL",
  "1F6AD;02NO;01PUT LITTER IN ITS PLACE;01DO NOT LITTER;01POTABLE WATER;02NON-POTABLE;00BICYCLE",
  "1F6B3;00NO BICYCLES;00BICYCLIST;01MOUNTAIN;00PEDESTRIAN;00NO PEDESTRIANS;00CHILDREN CROSSING",
  "1F6B9;00MENS SYMBOL;01WOMENS;00RESTROOM;00BABY SYMBOL;00TOILET;00WATER CLOSET;00SHOWER;00BATH;00BATHTUB",
  "1F6C2;00PASSPORT CONTROL;00CUSTOMS;00BAGGAGE CLAIM;00LEFT LUGGAGE;00TRIANGLE WITH ROUNDED CORNERS",
  "1F6C7;00PROHIBITED SIGN;00CIRCLED INFORMATION SOURCE;00BOYS SYMBOL;01GIRLS;00COUCH AND LAMP",
  "1F6CC;00SLEEPING ACCOMMODATION;00SHOPPING BAGS;00BELLHOP BELL;00BED;00PLACE OF WORSHIP;00OCTAGONAL SIGN",
  "1F6D2;00SHOPPING TROLLEY;00STUPA;00PAGODA;00HINDU TEMPLE;00HUT;00ELEVATOR",
  "1F6DD;00PLAYGROUND SLIDE;00WHEEL;00RING BUOY;00HAMMER AND WRENCH;00SHIELD;00OIL DRUM;00MOTORWAY",
  "1F6E4;00RAILWAY TRACK;00MOTOR BOAT;00UP-POINTING MILITARY AIRPLANE;11;11SMALL;02;01NORTHEAST-POINTING",
  "1F6EB;00AIRPLANE DEPARTURE;10ARRIVING",
  "1F6F0;00SATELLITE;00ONCOMING FIRE ENGINE;00DIESEL LOCOMOTIVE;00PASSENGER SHIP;00SCOOTER;01MOTOR;00CANOE",
  "1F6F7;00SLED;00FLYING SAUCER;00SKATEBOARD;00AUTO RICKSHAW;00PICKUP TRUCK;00ROLLER SKATE",
  "1F700;00ALCHEMICAL SYMBOL FOR QUINTESSENCE;30AIR;30FIRE;30EARTH;30WATER;30AQUAFORTIS;30AQUA REGIA",
  "1F707;40REGIA-2;40VITAE;40VITAE-2;30VINEGAR;30VINEGAR-2;30VINEGAR-3;30SULFUR;31PHILOSOPHERS;31BLACK",
  "1F710;30MERCURY SUBLIMATE;40SUBLIMATE-2;40SUBLIMATE-3;30CINNABAR;30SALT;30NITRE;30VITRIOL;30VITRIOL-2",
  "1F718;30ROCK SALT;40SALT-2;30GOLD;30SILVER;30IRON ORE;40ORE-2;30CROCUS OF IRON;32REGULUS;30COPPER ORE",
  "1F721;31IRON-COPPER;30SUBLIMATE OF COPPER;32CROCUS;50COPPER-2;30COPPER ANTIMONIATE;32SALT OF",
  "1F727;30SUBLIMATE OF SALT OF COPPER;30VERDIGRIS;30TIN ORE;31LEAD;31ANTIMONY;30SUBLIMATE OF ANTIMONY",
  "1F72D;32SALT;33SUBLIMATE OF;32VINEGAR;32REGULUS;50ANTIMONY-2;40;30REGULUS-2;30REGULUS-3;30REGULUS-4",
  "1F736;30ALKALI;30ALKALI-2;30MARCASITE;30SAL-AMMONIAC;30ARSENIC;30REALGAR;30REALGAR-2;30AURIPIGMENT",
  "1F73E;30BISMUTH ORE;30TARTAR;30TARTAR-2;30QUICK LIME;30BORAX;30BORAX-2;30BORAX-3;30ALUM;30OIL;30SPIRIT",
  "1F748;30TINCTURE;30GUM;30WAX;30POWDER;30CALX;30TUTTY;30CAPUT MORTUUM;30SCEPTER OF JOVE;30CADUCEUS",
  "1F751;30TRIDENT;31STARRED;30LODESTONE;30SOAP;30URINE;30HORSE DUNG;30ASHES;31POT;30BRICK;31POWDERED",
  "1F75B;30AMALGAM;30STRATUM SUPER STRATUM;50STRATUM-2;30SUBLIMATION;30PRECIPITATE;30DISTILL;30DISSOLVE",
  "1F762;30DISSOLVE-2;30PURIFY;30PUTREFACTION;30CRUCIBLE;30CRUCIBLE-2;30CRUCIBLE-3;30CRUCIBLE-4",
  "1F769;30CRUCIBLE-5;30ALEMBIC;30BATH OF MARY;50VAPOURS;30RETORT;30HOUR;30NIGHT;30DAY-NIGHT;30MONTH",
  "1F772;30HALF DRAM;40OUNCE",
  "1F780;00BLACK LEFT-POINTING ISOSCELES RIGHT TRIANGLE;13UP-POINTING;13RIGHT-POINTING;13DOWN-POINTING",
  "1F784;10SLIGHTLY SMALL CIRCLE;01MEDIUM BOLD WHITE;03;02HEAVY;03VERY;03EXTREMELY",
  "1F78A;01WHITE CIRCLE CONTAINING BLACK SMALL;00ROUND TARGET;00BLACK TINY SQUARE;11SLIGHTLY SMALL",
  "1F78E;01LIGHT WHITE;02MEDIUM;02BOLD;02HEAVY;03VERY;03EXTREMELY",
  "1F794;01WHITE SQUARE CONTAINING BLACK VERY SMALL;41MEDIUM;00SQUARE TARGET;00BLACK TINY DIAMOND",
  "1F798;11VERY SMALL;12MEDIUM;02WHITE DIAMOND CONTAINING BLACK VERY;41MEDIUM;00DIAMOND TARGET",
  "1F79D;00BLACK TINY LOZENGE;11VERY SMALL;12MEDIUM;02WHITE LOZENGE CONTAINING BLACK;00THIN GREEK CROSS",
  "1F7A2;02LIGHT;02MEDIUM;02BOLD;03VERY;12HEAVY;03EXTREMELY;00THIN SALTIRE;01LIGHT;01MEDIUM;01BOLD;01HEAVY",
  "1F7AD;02VERY;02EXTREMELY;00LIGHT FIVE SPOKED ASTERISK;03MEDIUM;03BOLD;03HEAVY;04VERY;04EXTREMELY",
  "1F7B5;02LIGHT SIX;03MEDIUM;03BOLD;03HEAVY;04VERY;04EXTREMELY;02LIGHT EIGHT;03MEDIUM;03BOLD;03HEAVY",
  "1F7BF;04VERY;00LIGHT THREE POINTED BLACK STAR;04MEDIUM;04;01MEDIUM THREE POINTED PINWHEEL",
  "1F7C4;01LIGHT FOUR POINTED BLACK;04MEDIUM;04;01MEDIUM FOUR POINTED PINWHEEL;04REVERSE LIGHT",
  "1F7C9;01LIGHT FIVE POINTED BLACK;04HEAVY;03MEDIUM SIX;04HEAVY;01SIX POINTED PINWHEEL",
  "1F7CE;01MEDIUM EIGHT POINTED BLACK;04HEAVY;05VERY;01HEAVY EIGHT POINTED PINWHEEL",
  "1F7D2;01LIGHT TWELVE POINTED BLACK;04HEAVY;31PINWHEEL;00CIRCLED TRIANGLE;02NEGATIVE;00CIRCLED SQUARE",
  "1F7D8;02NEGATIVE",
  "1F7E0;00LARGE ORANGE CIRCLE;11YELLOW;11GREEN;11PURPLE;11BROWN;10RED SQUARE;11BLUE;11ORANGE;11YELLOW",
  "1F7E9;11GREEN;11PURPLE;11BROWN",
  "1F7F0;00HEAVY EQUALS SIGN",
  "1F800;00LEFTWARDS ARROW WITH SMALL TRIANGLE ARROWHEAD;05UPWARDS;05RIGHTWARDS;05DOWNWARDS",
  "1F804;02LEFTWARDS ARROW WITH MEDIUM;05UPWARDS;05RIGHTWARDS;05DOWNWARDS;02LEFTWARDS ARROW WITH LARGE",
  "1F809;05UPWARDS;05RIGHTWARDS;05DOWNWARDS",
  "1F810;01LEFTWARDS ARROW WITH SMALL EQUILATERAL;05UPWARDS;05RIGHTWARDS;05DOWNWARDS;02LEFTWARDS ARROW WITH",
  "1F815;04UPWARDS;04RIGHTWARDS;04DOWNWARDS;04HEAVY LEFTWARDS;14UPWARDS;14RIGHTWARDS;14DOWNWARDS",
  "1F81C;12LEFTWARDS ARROW WITH LARGE;15UPWARDS;15RIGHTWARDS;15DOWNWARDS",
  "1F820;00LEFTWARDS TRIANGLE-HEADED ARROW WITH NARROW SHAFT;05UPWARDS;05RIGHTWARDS;05DOWNWARDS",
  "1F824;01LEFTWARDS TRIANGLE-HEADED ARROW WITH MEDIUM;05UPWARDS;05RIGHTWARDS;05DOWNWARDS",
  "1F828;01LEFTWARDS TRIANGLE-HEADED ARROW WITH BOLD;05UPWARDS;05RIGHTWARDS;05DOWNWARDS",
  "1F82C;01LEFTWARDS TRIANGLE-HEADED ARROW WITH HEAVY;05UPWARDS;05RIGHTWARDS;05DOWNWARDS",
  "1F830;02LEFTWARDS TRIANGLE-HEADED ARROW WITH VERY;06UPWARDS;06RIGHTWARDS;06DOWNWARDS",
  "1F834;00LEFTWARDS FINGER-POST ARROW;02UPWARDS;02RIGHTWARDS;02DOWNWARDS;01LEFTWARDS SQUARED;02UPWARDS",
  "1F83A;02RIGHTWARDS;02DOWNWARDS;01LEFTWARDS COMPRESSED;02UPWARDS;02RIGHTWARDS;02DOWNWARDS"]

private def characterNameRows26 : List String := [
  "1F840;02LEFTWARDS HEAVY;03UPWARDS;03RIGHTWARDS;03DOWNWARDS;01LEFTWARDS HEAVY;02UPWARDS;02RIGHTWARDS",
  "1F847;02DOWNWARDS",
  "1F850;01LEFTWARDS SANS-SERIF;02UPWARDS;02RIGHTWARDS;02DOWNWARDS;02NORTH WEST;12EAST;03SOUTH;12WEST",
  "1F858;02LEFT RIGHT;02UP DOWN",
  "1F860;01WIDE-HEADED LEFTWARDS LIGHT BARB;13UPWARDS;13RIGHTWARDS;13DOWNWARDS;13NORTH WEST;23EAST;14SOUTH",
  "1F867;23WEST;12LEFTWARDS;12UPWARDS;12RIGHTWARDS;12DOWNWARDS;12NORTH WEST;22EAST;13SOUTH;22WEST",
  "1F870;12LEFTWARDS MEDIUM;13UPWARDS;13RIGHTWARDS;13DOWNWARDS;13NORTH WEST;23EAST;14SOUTH;23WEST",
  "1F878;12LEFTWARDS HEAVY;13UPWARDS;13RIGHTWARDS;13DOWNWARDS;13NORTH WEST;23EAST;14SOUTH;23WEST",
  "1F880;13LEFTWARDS VERY;14UPWARDS;14RIGHTWARDS;14DOWNWARDS;14NORTH WEST;24EAST;15SOUTH;24WEST",
  "1F890;00LEFTWARDS TRIANGLE ARROWHEAD;02UPWARDS;02RIGHTWARDS;02DOWNWARDS;02LEFTWARDS WHITE ARROW WITHIN",
  "1F895;05UPWARDS;05RIGHTWARDS;05DOWNWARDS;00LEFTWARDS ARROW WITH NOTCHED TAIL;04UPWARDS;04RIGHTWARDS",
  "1F89B;04DOWNWARDS;00HEAVY ARROW SHAFT WIDTH ONE;40TWO THIRDS;40ONE HALF;50THIRD",
  "1F8A0;00LEFTWARDS BOTTOM-SHADED WHITE ARROW;02RIGHTWARDS BOTTOM SHADED;03LEFTWARDS TOP;04RIGHTWARDS",
  "1F8A4;02LEFTWARDS LEFT-SHADED;02RIGHTWARDS RIGHT-SHADED;03LEFTWARDS;02RIGHTWARDS LEFT-SHADED",
  "1F8A8;02LEFTWARDS BACK-TILTED SHADOWED;04RIGHTWARDS;03LEFTWARDS FRONT-TILTED;04RIGHTWARDS",
  "1F8AC;00WHITE ARROW SHAFT WIDTH ONE;40TWO THIRDS",
  "1F8B0;00ARROW POINTING UPWARDS THEN NORTH WEST;21RIGHTWARDS THEN CURVING SOUTH",
  "1F900;00CIRCLED CROSS FORMEE WITH FOUR DOTS;41TWO;30;00LEFT HALF CIRCLE WITH FOUR DOTS;41THREE;41TWO",
  "1F906;40DOT;30;00DOWNWARD FACING HOOK;21NOTCHED;20HOOK WITH DOT;23NOTCHED;00PINCHED FINGERS",
  "1F90D;00WHITE HEART;01BROWN;00PINCHING HAND;00ZIPPER-MOUTH FACE;01MONEY-MOUTH;00FACE WITH THERMOMETER",
  "1F913;00NERD FACE;01THINKING;00FACE WITH HEAD-BANDAGE;00ROBOT FACE;01HUGGING;00SIGN OF THE HORNS",
  "1F919;00CALL ME HAND;01RAISED BACK OF;00LEFT-FACING FIST;01RIGHT-FACING;00HANDSHAKE",
  "1F91E;00HAND WITH INDEX AND MIDDLE FINGERS CROSSED;00I LOVE YOU HAND SIGN;00FACE WITH COWBOY HAT",
  "1F921;00CLOWN FACE;01NAUSEATED;00ROLLING ON THE FLOOR LAUGHING;00DROOLING FACE;01LYING;00FACE PALM",
  "1F927;00SNEEZING FACE;00FACE WITH ONE EYEBROW RAISED;00GRINNING FACE WITH STAR EYES",
  "1F92A;30ONE LARGE AND ONE SMALL EYE;00FACE WITH FINGER COVERING CLOSED LIPS",
  "1F92C;00SERIOUS FACE WITH SYMBOLS COVERING MOUTH;02SMILING FACE WITH SMILING EYES AND HAND",
  "1F92E;00FACE WITH OPEN MOUTH VOMITING;00SHOCKED FACE WITH EXPLODING HEAD;00PREGNANT WOMAN",
  "1F931;00BREAST-FEEDING;00PALMS UP TOGETHER;00SELFIE;00PRINCE;00MAN IN TUXEDO;00MOTHER CHRISTMAS;00SHRUG",
  "1F938;00PERSON DOING CARTWHEEL;00JUGGLING;00FENCER;00MODERN PENTATHLON;00WRESTLERS;00WATER POLO",
  "1F93E;00HANDBALL;00DIVING MASK;00WILTED FLOWER;00DRUM WITH DRUMSTICKS;00CLINKING GLASSES;00TUMBLER GLASS",
  "1F944;00SPOON;00GOAL NET;00RIFLE;00FIRST PLACE MEDAL;02SECOND;02THIRD;00BOXING GLOVE",
  "1F94B;00MARTIAL ARTS UNIFORM;00CURLING STONE;00LACROSSE STICK AND BALL;00SOFTBALL;00FLYING DISC",
  "1F950;00CROISSANT;00AVOCADO;00CUCUMBER;00BACON;00POTATO;00CARROT;00BAGUETTE BREAD;00GREEN SALAD",
  "1F958;00SHALLOW PAN OF FOOD;00STUFFED FLATBREAD;00EGG;00GLASS OF MILK;00PEANUTS;00KIWIFRUIT;00PANCAKES",
  "1F95F;00DUMPLING;00FORTUNE COOKIE;00TAKEOUT BOX;00CHOPSTICKS;00BOWL WITH SPOON;00CUP WITH STRAW",
  "1F965;00COCONUT;00BROCCOLI;00PIE;00PRETZEL;00CUT OF MEAT;00SANDWICH;00CANNED FOOD;00LEAFY GREEN;00MANGO",
  "1F96E;00MOON CAKE;00BAGEL;00SMILING FACE WITH SMILING EYES AND THREE HEARTS;00YAWNING FACE",
  "1F972;00SMILING FACE WITH TEAR;00FACE WITH PARTY HORN AND PARTY HAT;20UNEVEN EYES AND WAVY MOUTH",
  "1F975;00OVERHEATED FACE;01FREEZING;00NINJA;00DISGUISED FACE;00FACE HOLDING BACK TEARS",
  "1F97A;10WITH PLEADING EYES;00SARI;00LAB COAT;00GOGGLES;00HIKING BOOT;00FLAT SHOE;00CRAB;00LION FACE",
  "1F982;00SCORPION;00TURKEY;00UNICORN FACE;00EAGLE;00DUCK;00BAT;00SHARK;00OWL;00FOX FACE;00BUTTERFLY",
  "1F98C;00DEER;00GORILLA;00LIZARD;00RHINOCEROS;00SHRIMP;00SQUID;00GIRAFFE FACE;01ZEBRA;00HEDGEHOG",
  "1F995;00SAUROPOD;00T-REX;00CRICKET;00KANGAROO;00LLAMA;00PEACOCK;00HIPPOPOTAMUS;00PARROT;00RACCOON",
  "1F99E;00LOBSTER;00MOSQUITO;00MICROBE;00BADGER;00SWAN;00MAMMOTH;00DODO;00SLOTH;00OTTER;00ORANGUTAN",
  "1F9A8;00SKUNK;00FLAMINGO;00OYSTER;00BEAVER;00BISON;00SEAL;00GUIDE DOG;00PROBING CANE",
  "1F9B0;00EMOJI COMPONENT RED HAIR;21CURLY;20BALD;20WHITE HAIR;00BONE;00LEG;00FOOT;00TOOTH;00SUPERHERO",
  "1F9B9;00SUPERVILLAIN;00SAFETY VEST;00EAR WITH HEARING AID;00MOTORIZED WHEELCHAIR;01MANUAL",
  "1F9BE;00MECHANICAL ARM;10LEG;00CHEESE WEDGE;00CUPCAKE;00SALT SHAKER;00BEVERAGE BOX;00GARLIC;00ONION",
  "1F9C6;00FALAFEL;00WAFFLE;00BUTTER;00MATE DRINK;00ICE CUBE;00BUBBLE TEA;00TROLL;00STANDING PERSON",
  "1F9CE;01KNEELING;01DEAF;00FACE WITH MONOCLE;00ADULT;00CHILD;00OLDER ADULT;00BEARDED PERSON",
  "1F9D5;00PERSON WITH HEADSCARF;10IN STEAMY ROOM;10CLIMBING;10IN LOTUS POSITION;00MAGE;00FAIRY;00VAMPIRE",
  "1F9DC;00MERPERSON;00ELF;00GENIE;00ZOMBIE;00BRAIN;00ORANGE HEART;00BILLED CAP;00SCARF;00GLOVES;00COAT",
  "1F9E6;00SOCKS;00RED GIFT ENVELOPE;00FIRECRACKER;00JIGSAW PUZZLE PIECE;00TEST TUBE;00PETRI DISH",
  "1F9EC;00DNA DOUBLE HELIX;00COMPASS;00ABACUS;00FIRE EXTINGUISHER;00TOOLBOX;00BRICK;00MAGNET;00LUGGAGE",
  "1F9F4;00LOTION BOTTLE;00SPOOL OF THREAD;00BALL OF YARN;00SAFETY PIN;00TEDDY BEAR;00BROOM;00BASKET",
  "1F9FB;00ROLL OF PAPER;00BAR OF SOAP;00SPONGE;00RECEIPT;00NAZAR AMULET;00NEUTRAL CHESS KING;20QUEEN",
  "1FA02;20ROOK;20BISHOP;20KNIGHT;20PAWN;00WHITE CHESS KNIGHT ROTATED FORTY-FIVE DEGREES;05BLACK;05NEUTRAL",
  "1FA09;01WHITE CHESS KING ROTATED NINETY;23QUEEN;23ROOK;23BISHOP;23KNIGHT;23PAWN;03BLACK CHESS KING",
  "1FA10;23QUEEN;23ROOK;23BISHOP;23KNIGHT;23PAWN;03NEUTRAL CHESS KING;23QUEEN;23ROOK;23BISHOP;23KNIGHT",
  "1FA1A;23PAWN;01WHITE CHESS KNIGHT ROTATED ONE HUNDRED THIRTY-FIVE;07BLACK;07NEUTRAL",
  "1FA1E;00WHITE CHESS TURNED KING;30QUEEN;30ROOK;30BISHOP;30KNIGHT;30PAWN;00BLACK CHESS TURNED KING",
  "1FA25;30QUEEN;30ROOK;30BISHOP;30KNIGHT;30PAWN;00NEUTRAL CHESS TURNED KING;30QUEEN;30ROOK;30BISHOP",
  "1FA2E;30KNIGHT;30PAWN;00WHITE CHESS KNIGHT ROTATED TWO HUNDRED TWENTY-FIVE DEGREES;07BLACK;07NEUTRAL",
  "1FA33;01WHITE CHESS KING ROTATED TWO HUNDRED SEVENTY;25QUEEN;25ROOK;25BISHOP;25KNIGHT;25PAWN",
  "1FA39;05BLACK CHESS KING;25QUEEN;25ROOK;25BISHOP;25KNIGHT;25PAWN;05NEUTRAL CHESS KING;25QUEEN;25ROOK",
  "1FA42;25BISHOP;25KNIGHT;25PAWN;01WHITE CHESS KNIGHT ROTATED THREE HUNDRED FIFTEEN;07BLACK;07NEUTRAL",
  "1FA48;00WHITE CHESS EQUIHOPPER;02BLACK;02NEUTRAL;00WHITE CHESS EQUIHOPPER ROTATED NINETY DEGREES;05BLACK",
  "1FA4D;05NEUTRAL;00WHITE CHESS KNIGHT-QUEEN;20KNIGHT-ROOK;20KNIGHT-BISHOP;00BLACK CHESS KNIGHT-QUEEN",
  "1FA52;20KNIGHT-ROOK;20KNIGHT-BISHOP",
  "1FA60;00XIANGQI RED GENERAL;20MANDARIN;20ELEPHANT;20HORSE;20CHARIOT;20CANNON;20SOLDIER;10BLACK GENERAL",
  "1FA68;20MANDARIN;20ELEPHANT;20HORSE;20CHARIOT;20CANNON;20SOLDIER",
  "1FA70;00BALLET SHOES;00ONE-PIECE SWIMSUIT;00BRIEFS;00SHORTS;00THONG SANDAL",
  "1FA78;00DROP OF BLOOD;00ADHESIVE BANDAGE;00STETHOSCOPE;00X-RAY;00CRUTCH",
  "1FA80;00YO-YO;00KITE;00PARACHUTE;00BOOMERANG;00MAGIC WAND;00PINATA;00NESTING DOLLS",
  "1FA90;00RINGED PLANET;00CHAIR;00RAZOR;00AXE;00DIYA LAMP;00BANJO;00MILITARY HELMET;00ACCORDION",
  "1FA98;00LONG DRUM;00COIN;00CARPENTRY SAW;00SCREWDRIVER;00LADDER;00HOOK;00MIRROR;00WINDOW;00PLUNGER",
  "1FAA1;00SEWING NEEDLE;00KNOT;00BUCKET;00MOUSE TRAP;00TOOTHBRUSH;00HEADSTONE;00PLACARD;00ROCK",
  "1FAA9;00MIRROR BALL;00IDENTIFICATION CARD;00LOW BATTERY;00HAMSA",
  "1FAB0;00FLY;00WORM;00BEETLE;00COCKROACH;00POTTED PLANT;00WOOD;00FEATHER;00LOTUS;00CORAL;00EMPTY NEST",
  "1FABA;00NEST WITH EGGS",
  "1FAC0;00ANATOMICAL HEART;00LUNGS;00PEOPLE HUGGING;00PREGNANT MAN;10PERSON;00PERSON WITH CROWN",
  "1FAD0;00BLUEBERRIES;00BELL PEPPER;00OLIVE;00FLATBREAD;00TAMALE;00FONDUE;00TEAPOT;00POURING LIQUID",
  "1FAD8;00BEANS;00JAR",
  "1FAE0;00MELTING FACE;01SALUTING;00FACE WITH OPEN EYES AND HAND OVER MOUTH;20PEEKING EYE;20DIAGONAL MOUTH",
  "1FAE5;00DOTTED LINE FACE;00BITING LIP;00BUBBLES",
  "1FAF0;00HAND WITH INDEX FINGER AND THUMB CROSSED;00RIGHTWARDS HAND;01LEFTWARDS;01PALM DOWN;11UP",
  "1FAF5;00INDEX POINTING AT THE VIEWER;00HEART HANDS",
  "1FB00;00BLOCK SEXTANT-1;10SEXTANT-2;10SEXTANT-12;10SEXTANT-3;10SEXTANT-13;10SEXTANT-23;10SEXTANT-123",
  "1FB07;10SEXTANT-4;10SEXTANT-14;10SEXTANT-24;10SEXTANT-124;10SEXTANT-34;10SEXTANT-134;10SEXTANT-234",
  "1FB0E;10SEXTANT-1234;10SEXTANT-5;10SEXTANT-15;10SEXTANT-25;10SEXTANT-125;10SEXTANT-35;10SEXTANT-235",
  "1FB15;10SEXTANT-1235;10SEXTANT-45;10SEXTANT-145;10SEXTANT-245;10SEXTANT-1245;10SEXTANT-345",
  "1FB1B;10SEXTANT-1345;10SEXTANT-2345;10SEXTANT-12345;10SEXTANT-6;10SEXTANT-16;10SEXTANT-26;10SEXTANT-126",
  "1FB22;10SEXTANT-36;10SEXTANT-136;10SEXTANT-236;10SEXTANT-1236;10SEXTANT-46;10SEXTANT-146;10SEXTANT-1246",
  "1FB29;10SEXTANT-346;10SEXTANT-1346;10SEXTANT-2346;10SEXTANT-12346;10SEXTANT-56;10SEXTANT-156",
  "1FB2F;10SEXTANT-256;10SEXTANT-1256;10SEXTANT-356;10SEXTANT-1356;10SEXTANT-2356;10SEXTANT-12356",
  "1FB35;10SEXTANT-456;10SEXTANT-1456;10SEXTANT-2456;10SEXTANT-12456;10SEXTANT-3456;10SEXTANT-13456",
  "1FB3B;10SEXTANT-23456;00LOWER LEFT BLOCK DIAGONAL LOWER MIDDLE LEFT TO LOWER CENTRE;90RIGHT",
  "1FB3E;40UPPER MIDDLE LEFT TO LOWER CENTRE;90RIGHT;50LEFT TO LOWER CENTRE",
  "1FB41;11RIGHT BLOCK DIAGONAL UPPER MIDDLE LEFT TO UPPER;90RIGHT;40LOWER MIDDLE LEFT TO UPPER CENTRE",
  "1FB44;90RIGHT;50LEFT TO UPPER CENTRE;50MIDDLE LEFT TO UPPER MIDDLE RIGHT;52CENTRE TO LOWER;54LEFT",
  "1FB49;52CENTRE TO UPPER;54LEFT;51CENTRE TO UPPER;11LEFT BLOCK DIAGONAL UPPER CENTRE TO UPPER MIDDLE",
  "1FB4D;54LEFT;52CENTRE TO LOWER;54LEFT;51CENTRE TO LOWER;51MIDDLE LEFT TO LOWER MIDDLE",
  "1FB52;00UPPER RIGHT BLOCK DIAGONAL LOWER MIDDLE LEFT TO LOWER CENTRE;90RIGHT",
  "1FB54;40UPPER MIDDLE LEFT TO LOWER CENTRE;90RIGHT;50LEFT TO LOWER CENTRE",
  "1FB57;11LEFT BLOCK DIAGONAL UPPER MIDDLE LEFT TO UPPER;90RIGHT;40LOWER MIDDLE LEFT TO UPPER CENTRE",
  "1FB5A;90RIGHT;50LEFT TO UPPER CENTRE;50MIDDLE LEFT TO UPPER MIDDLE RIGHT;52CENTRE TO LOWER;54LEFT",
  "1FB5F;52CENTRE TO UPPER;54LEFT;51CENTRE TO UPPER;11RIGHT BLOCK DIAGONAL UPPER CENTRE TO UPPER MIDDLE",
  "1FB63;54LEFT;52CENTRE TO LOWER;54LEFT;51CENTRE TO LOWER;51MIDDLE LEFT TO LOWER MIDDLE",
  "1FB68;10AND RIGHT AND LOWER TRIANGULAR THREE QUARTERS BLOCK;04LEFT AND LOWER AND RIGHT",
  "1FB6A;04UPPER AND LEFT AND LOWER;04LEFT AND UPPER AND RIGHT;11TRIANGULAR ONE QUARTER;04UPPER;04RIGHT",
  "1FB6F;04LOWER;00VERTICAL ONE EIGHTH BLOCK-2;30BLOCK-3;30BLOCK-4;30BLOCK-5;30BLOCK-6;30BLOCK-7",
  "1FB76;00HORIZONTAL ONE EIGHTH BLOCK-2;30BLOCK-3;30BLOCK-4;30BLOCK-5;30BLOCK-6;30BLOCK-7",
  "1FB7C;00LEFT AND LOWER ONE EIGHTH BLOCK;23UPPER;05RIGHT;23LOWER;05UPPER",
  "1FB81;00HORIZONTAL ONE EIGHTH BLOCK-1358;00UPPER ONE QUARTER BLOCK;11THREE EIGHTHS;12FIVE",
  "1FB85;11THREE QUARTERS;11SEVEN EIGHTHS;01RIGHT ONE QUARTER;11THREE EIGHTHS;12FIVE;11THREE QUARTERS",
  "1FB8B;11SEVEN EIGHTHS;00LEFT HALF MEDIUM SHADE;03RIGHT;03UPPER;03LOWER;02INVERSE",
  "1FB91;03UPPER HALF BLOCK AND LOWER HALF;20INVERSE MEDIUM SHADE AND LOWER HALF BLOCK",
  "1FB94;02LEFT HALF INVERSE MEDIUM SHADE AND RIGHT;00CHECKER BOARD FILL;03INVERSE;01HEAVY HORIZONTAL",
  "1FB98;01UPPER LEFT TO LOWER RIGHT;11RIGHT TO LOWER LEFT;10AND LOWER TRIANGULAR HALF BLOCK",
  "1FB9B;03LEFT AND RIGHT;00UPPER LEFT TRIANGULAR MEDIUM SHADE;13RIGHT;04LOWER;13LEFT",
  "1FBA0;00BOX DRAWINGS LIGHT DIAGONAL UPPER CENTRE TO MIDDLE LEFT;80RIGHT;40MIDDLE LEFT TO LOWER CENTRE",
  "1FBA3;53RIGHT;43UPPER CENTRE TO MIDDLE LEFT;83RIGHT;40MIDDLE LEFT TO LOWER CENTRE TO MIDDLE RIGHT",
  "1FBA7;74UPPER;40UPPER CENTRE TO MIDDLE LEFT AND MIDDLE RIGHT TO LOWER CENTRE;83RIGHT AND MIDDLE LEFT",
  "1FBAA;90TO LOWER CENTRE TO MIDDLE LEFT;80LEFT TO LOWER CENTRE TO MIDDLE RIGHT",
  "1FBAC;40MIDDLE LEFT TO UPPER CENTRE TO MIDDLE RIGHT TO LOWER CENTRE",
  "1FBAD;53RIGHT TO UPPER CENTRE TO MIDDLE LEFT;40DIAMOND;30HORIZONTAL WITH VERTICAL STROKE",
  "1FBB0;00ARROWHEAD-SHAPED POINTER;00INVERSE CHECK MARK;00LEFT HALF RUNNING MAN;03RIGHT",
  "1FBB4;00INVERSE DOWNWARDS ARROW WITH TIP LEFTWARDS",
  "1FBB5;00LEFTWARDS ARROW AND UPPER AND LOWER ONE EIGHTH BLOCK;08RIGHTWARDS;03DOWNWARDS ARROW AND RIGHT",
  "1FBB8;06UPWARDS;00LEFT HALF FOLDER;02RIGHT;00VOIDED GREEK CROSS;00RIGHT OPEN SQUARED DOT",
  "1FBBD;00NEGATIVE DIAGONAL CROSS;20MIDDLE RIGHT TO LOWER CENTRE;20DIAMOND",
  "1FBC0;00WHITE HEAVY SALTIRE WITH ROUNDED CORNERS;00LEFT THIRD WHITE RIGHT POINTING INDEX;05MIDDLE",
  "1FBC3;05RIGHT;00NEGATIVE SQUARED QUESTION MARK;00STICK FIGURE;20WITH ARMS RAISED;20LEANING LEFT;30RIGHT",
  "1FBC9;20WITH DRESS;00WHITE UP-POINTING CHEVRON",
  "1FBF0;00SEGMENTED DIGIT ZERO;20ONE;20TWO;20THREE;20FOUR;20FIVE;20SIX;20SEVEN;20EIGHT;20NINE",
  "E0001;00LANGUAGE TAG",
  "E0020;00TAG SPACE;10EXCLAMATION MARK;11QUOTATION;10NUMBER SIGN;11DOLLAR;11PERCENT;10AMPERSAND",
  "E0027;10APOSTROPHE;10LEFT PARENTHESIS;11RIGHT;10ASTERISK;10PLUS SIGN;10COMMA;10HYPHEN-MINUS;10FULL STOP",
  "E002F;10SOLIDUS;10DIGIT ZERO;20ONE;20TWO;20THREE;20FOUR;20FIVE;20SIX;20SEVEN;20EIGHT;20NINE;10COLON",
  "E003B;10SEMICOLON;10LESS-THAN SIGN;11EQUALS;11GREATER-THAN;10QUESTION MARK;10COMMERCIAL AT",
  "E0041;10LATIN CAPITAL LETTER A;40B;40C;40D;40E;40F;40G;40H;40I;40J;40K;40L;40M;40N;40O;40P;40Q;40R;40S",
  "E0054;40T;40U;40V;40W;40X;40Y;40Z;10LEFT SQUARE BRACKET;10REVERSE SOLIDUS;10RIGHT SQUARE BRACKET",
  "E005E;10CIRCUMFLEX ACCENT;10LOW LINE;10GRAVE ACCENT;10LATIN SMALL LETTER A;40B;40C;40D;40E;40F;40G;40H",
  "E0069;40I;40J;40K;40L;40M;40N;40O;40P;40Q;40R;40S;40T;40U;40V;40W;40X;40Y;40Z;10LEFT CURLY BRACKET",
  "E007C;10VERTICAL LINE;10RIGHT CURLY BRACKET;10TILDE;00CANCEL TAG",
  "E0100;00VARIATION SELECTOR-17;10SELECTOR-18;10SELECTOR-19;10SELECTOR-20;10SELECTOR-21;10SELECTOR-22",
  "E0106;10SELECTOR-23;10SELECTOR-24;10SELECTOR-25;10SELECTOR-26;10SELECTOR-27;10SELECTOR-28;10SELECTOR-29",
  "E010D;10SELECTOR-30;10SELECTOR-31;10SELECTOR-32;10SELECTOR-33;10SELECTOR-34;10SELECTOR-35;10SELECTOR-36",
  "E0114;10SELECTOR-37;10SELECTOR-38;10SELECTOR-39;10SELECTOR-40;10SELECTOR-41;10SELECTOR-42;10SELECTOR-43",
  "E011B;10SELECTOR-44;10SELECTOR-45;10SELECTOR-46;10SELECTOR-47;10SELECTOR-48;10SELECTOR-49;10SELECTOR-50",
  "E0122;10SELECTOR-51;10SELECTOR-52;10SELECTOR-53;10SELECTOR-54;10SELECTOR-55;10SELECTOR-56;10SELECTOR-57",
  "E0129;10SELECTOR-58;10SELECTOR-59;10SELECTOR-60;10SELECTOR-61;10SELECTOR-62;10SELECTOR-63;10SELECTOR-64",
  "E0130;10SELECTOR-65;10SELECTOR-66;10SELECTOR-67;10SELECTOR-68;10SELECTOR-69;10SELECTOR-70;10SELECTOR-71",
  "E0137;10SELECTOR-72;10SELECTOR-73;10SELECTOR-74;10SELECTOR-75;10SELECTOR-76;10SELECTOR-77;10SELECTOR-78",
  "E013E;10SELECTOR-79;10SELECTOR-80;10SELECTOR-81;10SELECTOR-82;10SELECTOR-83;10SELECTOR-84;10SELECTOR-85",
  "E0145;10SELECTOR-86;10SELECTOR-87;10SELECTOR-88;10SELECTOR-89;10SELECTOR-90;10SELECTOR-91;10SELECTOR-92",
  "E014C;10SELECTOR-93;10SELECTOR-94;10SELECTOR-95;10SELECTOR-96;10SELECTOR-97;10SELECTOR-98;10SELECTOR-99",
  "E0153;10SELECTOR-100;10SELECTOR-101;10SELECTOR-102;10SELECTOR-103;10SELECTOR-104;10SELECTOR-105",
  "E0159;10SELECTOR-106;10SELECTOR-107;10SELECTOR-108;10SELECTOR-109;10SELECTOR-110;10SELECTOR-111"]

private def characterNameRows27 : List String := [
  "E015F;10SELECTOR-112;10SELECTOR-113;10SELECTOR-114;10SELECTOR-115;10SELECTOR-116;10SELECTOR-117",
  "E0165;10SELECTOR-118;10SELECTOR-119;10SELECTOR-120;10SELECTOR-121;10SELECTOR-122;10SELECTOR-123",
  "E016B;10SELECTOR-124;10SELECTOR-125;10SELECTOR-126;10SELECTOR-127;10SELECTOR-128;10SELECTOR-129",
  "E0171;10SELECTOR-130;10SELECTOR-131;10SELECTOR-132;10SELECTOR-133;10SELECTOR-134;10SELECTOR-135",
  "E0177;10SELECTOR-136;10SELECTOR-137;10SELECTOR-138;10SELECTOR-139;10SELECTOR-140;10SELECTOR-141",
  "E017D;10SELECTOR-142;10SELECTOR-143;10SELECTOR-144;10SELECTOR-145;10SELECTOR-146;10SELECTOR-147",
  "E0183;10SELECTOR-148;10SELECTOR-149;10SELECTOR-150;10SELECTOR-151;10SELECTOR-152;10SELECTOR-153",
  "E0189;10SELECTOR-154;10SELECTOR-155;10SELECTOR-156;10SELECTOR-157;10SELECTOR-158;10SELECTOR-159",
  "E018F;10SELECTOR-160;10SELECTOR-161;10SELECTOR-162;10SELECTOR-163;10SELECTOR-164;10SELECTOR-165",
  "E0195;10SELECTOR-166;10SELECTOR-167;10SELECTOR-168;10SELECTOR-169;10SELECTOR-170;10SELECTOR-171",
  "E019B;10SELECTOR-172;10SELECTOR-173;10SELECTOR-174;10SELECTOR-175;10SELECTOR-176;10SELECTOR-177",
  "E01A1;10SELECTOR-178;10SELECTOR-179;10SELECTOR-180;10SELECTOR-181;10SELECTOR-182;10SELECTOR-183",
  "E01A7;10SELECTOR-184;10SELECTOR-185;10SELECTOR-186;10SELECTOR-187;10SELECTOR-188;10SELECTOR-189",
  "E01AD;10SELECTOR-190;10SELECTOR-191;10SELECTOR-192;10SELECTOR-193;10SELECTOR-194;10SELECTOR-195",
  "E01B3;10SELECTOR-196;10SELECTOR-197;10SELECTOR-198;10SELECTOR-199;10SELECTOR-200;10SELECTOR-201",
  "E01B9;10SELECTOR-202;10SELECTOR-203;10SELECTOR-204;10SELECTOR-205;10SELECTOR-206;10SELECTOR-207",
  "E01BF;10SELECTOR-208;10SELECTOR-209;10SELECTOR-210;10SELECTOR-211;10SELECTOR-212;10SELECTOR-213",
  "E01C5;10SELECTOR-214;10SELECTOR-215;10SELECTOR-216;10SELECTOR-217;10SELECTOR-218;10SELECTOR-219",
  "E01CB;10SELECTOR-220;10SELECTOR-221;10SELECTOR-222;10SELECTOR-223;10SELECTOR-224;10SELECTOR-225",
  "E01D1;10SELECTOR-226;10SELECTOR-227;10SELECTOR-228;10SELECTOR-229;10SELECTOR-230;10SELECTOR-231",
  "E01D7;10SELECTOR-232;10SELECTOR-233;10SELECTOR-234;10SELECTOR-235;10SELECTOR-236;10SELECTOR-237",
  "E01DD;10SELECTOR-238;10SELECTOR-239;10SELECTOR-240;10SELECTOR-241;10SELECTOR-242;10SELECTOR-243",
  "E01E3;10SELECTOR-244;10SELECTOR-245;10SELECTOR-246;10SELECTOR-247;10SELECTOR-248;10SELECTOR-249",
  "E01E9;10SELECTOR-250;10SELECTOR-251;10SELECTOR-252;10SELECTOR-253;10SELECTOR-254;10SELECTOR-255",
  "E01EF;10SELECTOR-256"]

/-- The rows of all names, which must be read in order. -/
def characterNameRows : List (List String) :=
  [characterNameRows1, characterNameRows2, characterNameRows3, characterNameRows4, characterNameRows5,
   characterNameRows6, characterNameRows7, characterNameRows8, characterNameRows9, characterNameRows10,
   characterNameRows11, characterNameRows12, characterNameRows13, characterNameRows14,
   characterNameRows15, characterNameRows16, characterNameRows17, characterNameRows18,
   characterNameRows19, characterNameRows20, characterNameRows21, characterNameRows22,
   characterNameRows23, characterNameRows24, characterNameRows25, characterNameRows26,
   characterNameRows27]

/-- Further names of characters: those of control characters, abbreviations and corrections. -/
def characterAliases : List (Nat × List String) :=
  [(0x0, ["NULL", "NUL"]), (0x1, ["START OF HEADING", "SOH"]), (0x2, ["START OF TEXT", "STX"]),
   (0x3, ["END OF TEXT", "ETX"]), (0x4, ["END OF TRANSMISSION", "EOT"]), (0x5, ["ENQUIRY", "ENQ"]),
   (0x6, ["ACKNOWLEDGE", "ACK"]), (0x7, ["ALERT", "BEL"]), (0x8, ["BACKSPACE", "BS"]),
   (0x9, ["CHARACTER TABULATION", "HORIZONTAL TABULATION", "HT", "TAB"]),
   (0xA, ["LINE FEED", "NEW LINE", "END OF LINE", "LF", "NL", "EOL"]),
   (0xB, ["LINE TABULATION", "VERTICAL TABULATION", "VT"]), (0xC, ["FORM FEED", "FF"]),
   (0xD, ["CARRIAGE RETURN", "CR"]), (0xE, ["SHIFT OUT", "LOCKING-SHIFT ONE", "SO"]),
   (0xF, ["SHIFT IN", "LOCKING-SHIFT ZERO", "SI"]), (0x10, ["DATA LINK ESCAPE", "DLE"]),
   (0x11, ["DEVICE CONTROL ONE", "DC1"]), (0x12, ["DEVICE CONTROL TWO", "DC2"]),
   (0x13, ["DEVICE CONTROL THREE", "DC3"]), (0x14, ["DEVICE CONTROL FOUR", "DC4"]),
   (0x15, ["NEGATIVE ACKNOWLEDGE", "NAK"]), (0x16, ["SYNCHRONOUS IDLE", "SYN"]),
   (0x17, ["END OF TRANSMISSION BLOCK", "ETB"]), (0x18, ["CANCEL", "CAN"]),
   (0x19, ["END OF MEDIUM", "EOM"]), (0x1A, ["SUBSTITUTE", "SUB"]), (0x1B, ["ESCAPE", "ESC"]),
   (0x1C, ["INFORMATION SEPARATOR FOUR", "FILE SEPARATOR", "FS"]),
   (0x1D, ["INFORMATION SEPARATOR THREE", "GROUP SEPARATOR", "GS"]),
   (0x1E, ["INFORMATION SEPARATOR TWO", "RECORD SEPARATOR", "RS"]),
   (0x1F, ["INFORMATION SEPARATOR ONE", "UNIT SEPARATOR", "US"]), (0x20, ["SP"]),
   (0x7F, ["DELETE", "DEL"]), (0x80, ["PADDING CHARACTER", "PAD"]), (0x81, ["HIGH OCTET PRESET", "HOP"]),
   (0x82, ["BREAK PERMITTED HERE", "BPH"]), (0x83, ["NO BREAK HERE", "NBH"]), (0x84, ["INDEX", "IND"]),
   (0x85, ["NEXT LINE", "NEL"]), (0x86, ["START OF SELECTED AREA", "SSA"]),
   (0x87, ["END OF SELECTED AREA", "ESA"]),
   (0x88, ["CHARACTER TABULATION SET", "HORIZONTAL TABULATION SET", "HTS"]),
   (0x89, ["CHARACTER TABULATION WITH JUSTIFICATION", "HORIZONTAL TABULATION WITH JUSTIFICATION", "HTJ"]),
   (0x8A, ["LINE TABULATION SET", "VERTICAL TABULATION SET", "VTS"]),
   (0x8B, ["PARTIAL LINE FORWARD", "PARTIAL LINE DOWN", "PLD"]),
   (0x8C, ["PARTIAL LINE BACKWARD", "PARTIAL LINE UP", "PLU"]),
   (0x8D, ["REVERSE LINE FEED", "REVERSE INDEX", "RI"]),
   (0x8E, ["SINGLE SHIFT TWO", "SINGLE-SHIFT-2", "SS2"]),
   (0x8F, ["SINGLE SHIFT THREE", "SINGLE-SHIFT-3", "SS3"]), (0x90, ["DEVICE CONTROL STRING", "DCS"]),
   (0x91, ["PRIVATE USE ONE", "PRIVATE USE-1", "PU1"]),
   (0x92, ["PRIVATE USE TWO", "PRIVATE USE-2", "PU2"]), (0x93, ["SET TRANSMIT STATE", "STS"]),
   (0x94, ["CANCEL CHARACTER", "CCH"]), (0x95, ["MESSAGE WAITING", "MW"]),
   (0x96, ["START OF GUARDED AREA", "START OF PROTECTED AREA", "SPA"]),
   (0x97, ["END OF GUARDED AREA", "END OF PROTECTED AREA", "EPA"]), (0x98, ["START OF STRING", "SOS"]),
   (0x99, ["SINGLE GRAPHIC CHARACTER INTRODUCER", "SGC"]), (0x9A, ["SINGLE CHARACTER INTRODUCER", "SCI"]),
   (0x9B, ["CONTROL SEQUENCE INTRODUCER", "CSI"]), (0x9C, ["STRING TERMINATOR", "ST"]),
   (0x9D, ["OPERATING SYSTEM COMMAND", "OSC"]), (0x9E, ["PRIVACY MESSAGE", "PM"]),
   (0x9F, ["APPLICATION PROGRAM COMMAND", "APC"]), (0xA0, ["NBSP"]), (0xAD, ["SHY"]),
   (0x1A2, ["LATIN CAPITAL LETTER GHA"]), (0x1A3, ["LATIN SMALL LETTER GHA"]), (0x34F, ["CGJ"]),
   (0x61C, ["ALM"]), (0x709, ["SYRIAC SUBLINEAR COLON SKEWED LEFT"]), (0xCDE, ["KANNADA LETTER LLLA"]),
   (0xE9D, ["LAO LETTER FO FON"]), (0xE9F, ["LAO LETTER FO FAY"]), (0xEA3, ["LAO LETTER RO"]),
   (0xEA5, ["LAO LETTER LO"]), (0xFD0, ["TIBETAN MARK BKA- SHOG GI MGO RGYAN"]),
   (0x11EC, ["HANGUL JONGSEONG YESIEUNG-KIYEOK"]), (0x11ED, ["HANGUL JONGSEONG YESIEUNG-SSANGKIYEOK"]),
   (0x11EE, ["HANGUL JONGSEONG SSANGYESIEUNG"]), (0x11EF, ["HANGUL JONGSEONG YESIEUNG-KHIEUKH"]),
   (0x180B, ["FVS1"]), (0x180C, ["FVS2"]), (0x180D, ["FVS3"]), (0x180E, ["MVS"]), (0x180F, ["FVS4"]),
   (0x200B, ["ZWSP"]), (0x200C, ["ZWNJ"]), (0x200D, ["ZWJ"]), (0x200E, ["LRM"]), (0x200F, ["RLM"]),
   (0x202A, ["LRE"]), (0x202B, ["RLE"]), (0x202C, ["PDF"]), (0x202D, ["LRO"]), (0x202E, ["RLO"]),
   (0x202F, ["NNBSP"]), (0x205F, ["MMSP"]), (0x2060, ["WJ"]), (0x2066, ["LRI"]), (0x2067, ["RLI"]),
   (0x2068, ["FSI"]), (0x2069, ["PDI"]), (0x2118, ["WEIERSTRASS ELLIPTIC FUNCTION"]),
   (0x2448, ["MICR ON US SYMBOL"]), (0x2449, ["MICR DASH SYMBOL"]),
   (0x2B7A, ["LEFTWARDS TRIANGLE-HEADED ARROW WITH DOUBLE VERTICAL STROKE"]),
   (0x2B7C, ["RIGHTWARDS TRIANGLE-HEADED ARROW WITH DOUBLE VERTICAL STROKE"]),
   (0xA015, ["YI SYLLABLE ITERATION MARK"]), (0xAA6E, ["MYANMAR LETTER KHAMTI LLA"]),
   (0xFE18, ["PRESENTATION FORM FOR VERTICAL RIGHT WHITE LENTICULAR BRACKET"]),
   (0xFEFF, ["BYTE ORDER MARK", "BOM", "ZWNBSP"]), (0x122D4, ["CUNEIFORM SIGN NU11 TENU"]),
   (0x122D5, ["CUNEIFORM SIGN NU11 OVER NU11 BUR OVER BUR"]), (0x16E56, ["MEDEFAIDRIN CAPITAL LETTER H"]),
   (0x16E57, ["MEDEFAIDRIN CAPITAL LETTER NG"]), (0x16E76, ["MEDEFAIDRIN SMALL LETTER H"]),
   (0x16E77, ["MEDEFAIDRIN SMALL LETTER NG"]), (0x1B001, ["HENTAIGANA LETTER E-1"]),
   (0x1D0C5, ["BYZANTINE MUSICAL SYMBOL FTHORA SKLIRON CHROMA VASIS"])]

end NavFactory.Text
