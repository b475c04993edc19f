/-! Names of characters in the Unicode standard: those of Latin, Greek and Cyrillic letters, of
punctuation, signs and common symbols, and the names that control characters go by. -/
namespace ClientGen.Text

def nameRuns : List (Nat × List String) := [
  (0x20, ["SPACE|EXCLAMATION MARK|QUOTATION MARK|NUMBER SIGN|DOLLAR SIGN|PERCENT SIGN|AMPERSAND",
    "APOSTROPHE|LEFT PARENTHESIS|RIGHT PARENTHESIS|ASTERISK|PLUS SIGN|COMMA|HYPHEN-MINUS|FULL STOP",
    "SOLIDUS|DIGIT ZERO|DIGIT ONE|DIGIT TWO|DIGIT THREE|DIGIT FOUR|DIGIT FIVE|DIGIT SIX",
    "DIGIT SEVEN|DIGIT EIGHT|DIGIT NINE|COLON|SEMICOLON|LESS-THAN SIGN|EQUALS SIGN",
    "GREATER-THAN SIGN|QUESTION MARK|COMMERCIAL AT|LATIN CAPITAL LETTER A|LATIN CAPITAL LETTER B",
    "LATIN CAPITAL LETTER C|LATIN CAPITAL LETTER D|LATIN CAPITAL LETTER E|LATIN CAPITAL LETTER F",
    "LATIN CAPITAL LETTER G|LATIN CAPITAL LETTER H|LATIN CAPITAL LETTER I|LATIN CAPITAL LETTER J",
    "LATIN CAPITAL LETTER K|LATIN CAPITAL LETTER L|LATIN CAPITAL LETTER M|LATIN CAPITAL LETTER N",
    "LATIN CAPITAL LETTER O|LATIN CAPITAL LETTER P|LATIN CAPITAL LETTER Q|LATIN CAPITAL LETTER R",
    "LATIN CAPITAL LETTER S|LATIN CAPITAL LETTER T|LATIN CAPITAL LETTER U|LATIN CAPITAL LETTER V",
    "LATIN CAPITAL LETTER W|LATIN CAPITAL LETTER X|LATIN CAPITAL LETTER Y|LATIN CAPITAL LETTER Z",
    "LEFT SQUARE BRACKET|REVERSE SOLIDUS|RIGHT SQUARE BRACKET|CIRCUMFLEX ACCENT|LOW LINE",
    "GRAVE ACCENT|LATIN SMALL LETTER A|LATIN SMALL LETTER B|LATIN SMALL LETTER C",
    "LATIN SMALL LETTER D|LATIN SMALL LETTER E|LATIN SMALL LETTER F|LATIN SMALL LETTER G",
    "LATIN SMALL LETTER H|LATIN SMALL LETTER I|LATIN SMALL LETTER J|LATIN SMALL LETTER K",
    "LATIN SMALL LETTER L|LATIN SMALL LETTER M|LATIN SMALL LETTER N|LATIN SMALL LETTER O",
    "LATIN SMALL LETTER P|LATIN SMALL LETTER Q|LATIN SMALL LETTER R|LATIN SMALL LETTER S",
    "LATIN SMALL LETTER T|LATIN SMALL LETTER U|LATIN SMALL LETTER V|LATIN SMALL LETTER W",
    "LATIN SMALL LETTER X|LATIN SMALL LETTER Y|LATIN SMALL LETTER Z|LEFT CURLY BRACKET",
    "VERTICAL LINE|RIGHT CURLY BRACKET|TILDE"]),
  (0xa0, ["NO-BREAK SPACE|INVERTED EXCLAMATION MARK|CENT SIGN|POUND SIGN|CURRENCY SIGN|YEN SIGN",
    "BROKEN BAR|SECTION SIGN|DIAERESIS|COPYRIGHT SIGN|FEMININE ORDINAL INDICATOR",
    "LEFT-POINTING DOUBLE ANGLE QUOTATION MARK|NOT SIGN|SOFT HYPHEN|REGISTERED SIGN|MACRON",
    "DEGREE SIGN|PLUS-MINUS SIGN|SUPERSCRIPT TWO|SUPERSCRIPT THREE|ACUTE ACCENT|MICRO SIGN",
    "PILCROW SIGN|MIDDLE DOT|CEDILLA|SUPERSCRIPT ONE|MASCULINE ORDINAL INDICATOR",
    "RIGHT-POINTING DOUBLE ANGLE QUOTATION MARK|VULGAR FRACTION ONE QUARTER",
    "VULGAR FRACTION ONE HALF|VULGAR FRACTION THREE QUARTERS|INVERTED QUESTION MARK",
    "LATIN CAPITAL LETTER A WITH GRAVE|LATIN CAPITAL LETTER A WITH ACUTE",
    "LATIN CAPITAL LETTER A WITH CIRCUMFLEX|LATIN CAPITAL LETTER A WITH TILDE",
    "LATIN CAPITAL LETTER A WITH DIAERESIS|LATIN CAPITAL LETTER A WITH RING ABOVE",
    "LATIN CAPITAL LETTER AE|LATIN CAPITAL LETTER C WITH CEDILLA|LATIN CAPITAL LETTER E WITH GRAVE",
    "LATIN CAPITAL LETTER E WITH ACUTE|LATIN CAPITAL LETTER E WITH CIRCUMFLEX",
    "LATIN CAPITAL LETTER E WITH DIAERESIS|LATIN CAPITAL LETTER I WITH GRAVE",
    "LATIN CAPITAL LETTER I WITH ACUTE|LATIN CAPITAL LETTER I WITH CIRCUMFLEX",
    "LATIN CAPITAL LETTER I WITH DIAERESIS|LATIN CAPITAL LETTER ETH",
    "LATIN CAPITAL LETTER N WITH TILDE|LATIN CAPITAL LETTER O WITH GRAVE",
    "LATIN CAPITAL LETTER O WITH ACUTE|LATIN CAPITAL LETTER O WITH CIRCUMFLEX",
    "LATIN CAPITAL LETTER O WITH TILDE|LATIN CAPITAL LETTER O WITH DIAERESIS|MULTIPLICATION SIGN",
    "LATIN CAPITAL LETTER O WITH STROKE|LATIN CAPITAL LETTER U WITH GRAVE",
    "LATIN CAPITAL LETTER U WITH ACUTE|LATIN CAPITAL LETTER U WITH CIRCUMFLEX",
    "LATIN CAPITAL LETTER U WITH DIAERESIS|LATIN CAPITAL LETTER Y WITH ACUTE",
    "LATIN CAPITAL LETTER THORN|LATIN SMALL LETTER SHARP S|LATIN SMALL LETTER A WITH GRAVE",
    "LATIN SMALL LETTER A WITH ACUTE|LATIN SMALL LETTER A WITH CIRCUMFLEX",
    "LATIN SMALL LETTER A WITH TILDE|LATIN SMALL LETTER A WITH DIAERESIS",
    "LATIN SMALL LETTER A WITH RING ABOVE|LATIN SMALL LETTER AE|LATIN SMALL LETTER C WITH CEDILLA",
    "LATIN SMALL LETTER E WITH GRAVE|LATIN SMALL LETTER E WITH ACUTE",
    "LATIN SMALL LETTER E WITH CIRCUMFLEX|LATIN SMALL LETTER E WITH DIAERESIS",
    "LATIN SMALL LETTER I WITH GRAVE|LATIN SMALL LETTER I WITH ACUTE",
    "LATIN SMALL LETTER I WITH CIRCUMFLEX|LATIN SMALL LETTER I WITH DIAERESIS",
    "LATIN SMALL LETTER ETH|LATIN SMALL LETTER N WITH TILDE|LATIN SMALL LETTER O WITH GRAVE",
    "LATIN SMALL LETTER O WITH ACUTE|LATIN SMALL LETTER O WITH CIRCUMFLEX",
    "LATIN SMALL LETTER O WITH TILDE|LATIN SMALL LETTER O WITH DIAERESIS|DIVISION SIGN",
    "LATIN SMALL LETTER O WITH STROKE|LATIN SMALL LETTER U WITH GRAVE",
    "LATIN SMALL LETTER U WITH ACUTE|LATIN SMALL LETTER U WITH CIRCUMFLEX",
    "LATIN SMALL LETTER U WITH DIAERESIS|LATIN SMALL LETTER Y WITH ACUTE|LATIN SMALL LETTER THORN",
    "LATIN SMALL LETTER Y WITH DIAERESIS|LATIN CAPITAL LETTER A WITH MACRON",
    "LATIN SMALL LETTER A WITH MACRON|LATIN CAPITAL LETTER A WITH BREVE",
    "LATIN SMALL LETTER A WITH BREVE|LATIN CAPITAL LETTER A WITH OGONEK",
    "LATIN SMALL LETTER A WITH OGONEK|LATIN CAPITAL LETTER C WITH ACUTE",
    "LATIN SMALL LETTER C WITH ACUTE|LATIN CAPITAL LETTER C WITH CIRCUMFLEX",
    "LATIN SMALL LETTER C WITH CIRCUMFLEX|LATIN CAPITAL LETTER C WITH DOT ABOVE",
    "LATIN SMALL LETTER C WITH DOT ABOVE|LATIN CAPITAL LETTER C WITH CARON",
    "LATIN SMALL LETTER C WITH CARON|LATIN CAPITAL LETTER D WITH CARON",
    "LATIN SMALL LETTER D WITH CARON|LATIN CAPITAL LETTER D WITH STROKE",
    "LATIN SMALL LETTER D WITH STROKE|LATIN CAPITAL LETTER E WITH MACRON",
    "LATIN SMALL LETTER E WITH MACRON|LATIN CAPITAL LETTER E WITH BREVE",
    "LATIN SMALL LETTER E WITH BREVE|LATIN CAPITAL LETTER E WITH DOT ABOVE",
    "LATIN SMALL LETTER E WITH DOT ABOVE|LATIN CAPITAL LETTER E WITH OGONEK",
    "LATIN SMALL LETTER E WITH OGONEK|LATIN CAPITAL LETTER E WITH CARON",
    "LATIN SMALL LETTER E WITH CARON|LATIN CAPITAL LETTER G WITH CIRCUMFLEX",
    "LATIN SMALL LETTER G WITH CIRCUMFLEX|LATIN CAPITAL LETTER G WITH BREVE",
    "LATIN SMALL LETTER G WITH BREVE|LATIN CAPITAL LETTER G WITH DOT ABOVE",
    "LATIN SMALL LETTER G WITH DOT ABOVE|LATIN CAPITAL LETTER G WITH CEDILLA",
    "LATIN SMALL LETTER G WITH CEDILLA|LATIN CAPITAL LETTER H WITH CIRCUMFLEX",
    "LATIN SMALL LETTER H WITH CIRCUMFLEX|LATIN CAPITAL LETTER H WITH STROKE",
    "LATIN SMALL LETTER H WITH STROKE|LATIN CAPITAL LETTER I WITH TILDE",
    "LATIN SMALL LETTER I WITH TILDE|LATIN CAPITAL LETTER I WITH MACRON",
    "LATIN SMALL LETTER I WITH MACRON|LATIN CAPITAL LETTER I WITH BREVE",
    "LATIN SMALL LETTER I WITH BREVE|LATIN CAPITAL LETTER I WITH OGONEK",
    "LATIN SMALL LETTER I WITH OGONEK|LATIN CAPITAL LETTER I WITH DOT ABOVE",
    "LATIN SMALL LETTER DOTLESS I|LATIN CAPITAL LIGATURE IJ|LATIN SMALL LIGATURE IJ",
    "LATIN CAPITAL LETTER J WITH CIRCUMFLEX|LATIN SMALL LETTER J WITH CIRCUMFLEX",
    "LATIN CAPITAL LETTER K WITH CEDILLA|LATIN SMALL LETTER K WITH CEDILLA|LATIN SMALL LETTER KRA",
    "LATIN CAPITAL LETTER L WITH ACUTE|LATIN SMALL LETTER L WITH ACUTE",
    "LATIN CAPITAL LETTER L WITH CEDILLA|LATIN SMALL LETTER L WITH CEDILLA",
    "LATIN CAPITAL LETTER L WITH CARON|LATIN SMALL LETTER L WITH CARON",
    "LATIN CAPITAL LETTER L WITH MIDDLE DOT|LATIN SMALL LETTER L WITH MIDDLE DOT",
    "LATIN CAPITAL LETTER L WITH STROKE|LATIN SMALL LETTER L WITH STROKE",
    "LATIN CAPITAL LETTER N WITH ACUTE|LATIN SMALL LETTER N WITH ACUTE",
    "LATIN CAPITAL LETTER N WITH CEDILLA|LATIN SMALL LETTER N WITH CEDILLA",
    "LATIN CAPITAL LETTER N WITH CARON|LATIN SMALL LETTER N WITH CARON",
    "LATIN SMALL LETTER N PRECEDED BY APOSTROPHE|LATIN CAPITAL LETTER ENG|LATIN SMALL LETTER ENG",
    "LATIN CAPITAL LETTER O WITH MACRON|LATIN SMALL LETTER O WITH MACRON",
    "LATIN CAPITAL LETTER O WITH BREVE|LATIN SMALL LETTER O WITH BREVE",
    "LATIN CAPITAL LETTER O WITH DOUBLE ACUTE|LATIN SMALL LETTER O WITH DOUBLE ACUTE",
    "LATIN CAPITAL LIGATURE OE|LATIN SMALL LIGATURE OE|LATIN CAPITAL LETTER R WITH ACUTE",
    "LATIN SMALL LETTER R WITH ACUTE|LATIN CAPITAL LETTER R WITH CEDILLA",
    "LATIN SMALL LETTER R WITH CEDILLA|LATIN CAPITAL LETTER R WITH CARON",
    "LATIN SMALL LETTER R WITH CARON|LATIN CAPITAL LETTER S WITH ACUTE",
    "LATIN SMALL LETTER S WITH ACUTE|LATIN CAPITAL LETTER S WITH CIRCUMFLEX",
    "LATIN SMALL LETTER S WITH CIRCUMFLEX|LATIN CAPITAL LETTER S WITH CEDILLA",
    "LATIN SMALL LETTER S WITH CEDILLA|LATIN CAPITAL LETTER S WITH CARON",
    "LATIN SMALL LETTER S WITH CARON|LATIN CAPITAL LETTER T WITH CEDILLA",
    "LATIN SMALL LETTER T WITH CEDILLA|LATIN CAPITAL LETTER T WITH CARON",
    "LATIN SMALL LETTER T WITH CARON|LATIN CAPITAL LETTER T WITH STROKE",
    "LATIN SMALL LETTER T WITH STROKE|LATIN CAPITAL LETTER U WITH TILDE",
    "LATIN SMALL LETTER U WITH TILDE|LATIN CAPITAL LETTER U WITH MACRON",
    "LATIN SMALL LETTER U WITH MACRON|LATIN CAPITAL LETTER U WITH BREVE",
    "LATIN SMALL LETTER U WITH BREVE|LATIN CAPITAL LETTER U WITH RING ABOVE",
    "LATIN SMALL LETTER U WITH RING ABOVE|LATIN CAPITAL LETTER U WITH DOUBLE ACUTE",
    "LATIN SMALL LETTER U WITH DOUBLE ACUTE|LATIN CAPITAL LETTER U WITH OGONEK",
    "LATIN SMALL LETTER U WITH OGONEK|LATIN CAPITAL LETTER W WITH CIRCUMFLEX",
    "LATIN SMALL LETTER W WITH CIRCUMFLEX|LATIN CAPITAL LETTER Y WITH CIRCUMFLEX",
    "LATIN SMALL LETTER Y WITH CIRCUMFLEX|LATIN CAPITAL LETTER Y WITH DIAERESIS",
    "LATIN CAPITAL LETTER Z WITH ACUTE|LATIN SMALL LETTER Z WITH ACUTE",
    "LATIN CAPITAL LETTER Z WITH DOT ABOVE|LATIN SMALL LETTER Z WITH DOT ABOVE",
    "LATIN CAPITAL LETTER Z WITH CARON|LATIN SMALL LETTER Z WITH CARON|LATIN SMALL LETTER LONG S"]),
  (0x391, ["GREEK CAPITAL LETTER ALPHA|GREEK CAPITAL LETTER BETA|GREEK CAPITAL LETTER GAMMA",
    "GREEK CAPITAL LETTER DELTA|GREEK CAPITAL LETTER EPSILON|GREEK CAPITAL LETTER ZETA",
    "GREEK CAPITAL LETTER ETA|GREEK CAPITAL LETTER THETA|GREEK CAPITAL LETTER IOTA",
    "GREEK CAPITAL LETTER KAPPA|GREEK CAPITAL LETTER LAMDA|GREEK CAPITAL LETTER MU",
    "GREEK CAPITAL LETTER NU|GREEK CAPITAL LETTER XI|GREEK CAPITAL LETTER OMICRON",
    "GREEK CAPITAL LETTER PI|GREEK CAPITAL LETTER RHO||GREEK CAPITAL LETTER SIGMA",
    "GREEK CAPITAL LETTER TAU|GREEK CAPITAL LETTER UPSILON|GREEK CAPITAL LETTER PHI",
    "GREEK CAPITAL LETTER CHI|GREEK CAPITAL LETTER PSI|GREEK CAPITAL LETTER OMEGA"]),
  (0x3b1, ["GREEK SMALL LETTER ALPHA|GREEK SMALL LETTER BETA|GREEK SMALL LETTER GAMMA",
    "GREEK SMALL LETTER DELTA|GREEK SMALL LETTER EPSILON|GREEK SMALL LETTER ZETA",
    "GREEK SMALL LETTER ETA|GREEK SMALL LETTER THETA|GREEK SMALL LETTER IOTA",
    "GREEK SMALL LETTER KAPPA|GREEK SMALL LETTER LAMDA|GREEK SMALL LETTER MU|GREEK SMALL LETTER NU",
    "GREEK SMALL LETTER XI|GREEK SMALL LETTER OMICRON|GREEK SMALL LETTER PI|GREEK SMALL LETTER RHO",
    "GREEK SMALL LETTER FINAL SIGMA|GREEK SMALL LETTER SIGMA|GREEK SMALL LETTER TAU",
    "GREEK SMALL LETTER UPSILON|GREEK SMALL LETTER PHI|GREEK SMALL LETTER CHI",
    "GREEK SMALL LETTER PSI|GREEK SMALL LETTER OMEGA"]),
  (0x401, ["CYRILLIC CAPITAL LETTER IO"]),
  (0x410, ["CYRILLIC CAPITAL LETTER A|CYRILLIC CAPITAL LETTER BE|CYRILLIC CAPITAL LETTER VE",
    "CYRILLIC CAPITAL LETTER GHE|CYRILLIC CAPITAL LETTER DE|CYRILLIC CAPITAL LETTER IE",
    "CYRILLIC CAPITAL LETTER ZHE|CYRILLIC CAPITAL LETTER ZE|CYRILLIC CAPITAL LETTER I",
    "CYRILLIC CAPITAL LETTER SHORT I|CYRILLIC CAPITAL LETTER KA|CYRILLIC CAPITAL LETTER EL",
    "CYRILLIC CAPITAL LETTER EM|CYRILLIC CAPITAL LETTER EN|CYRILLIC CAPITAL LETTER O",
    "CYRILLIC CAPITAL LETTER PE|CYRILLIC CAPITAL LETTER ER|CYRILLIC CAPITAL LETTER ES",
    "CYRILLIC CAPITAL LETTER TE|CYRILLIC CAPITAL LETTER U|CYRILLIC CAPITAL LETTER EF",
    "CYRILLIC CAPITAL LETTER HA|CYRILLIC CAPITAL LETTER TSE|CYRILLIC CAPITAL LETTER CHE",
    "CYRILLIC CAPITAL LETTER SHA|CYRILLIC CAPITAL LETTER SHCHA|CYRILLIC CAPITAL LETTER HARD SIGN",
    "CYRILLIC CAPITAL LETTER YERU|CYRILLIC CAPITAL LETTER SOFT SIGN|CYRILLIC CAPITAL LETTER E",
    "CYRILLIC CAPITAL LETTER YU|CYRILLIC CAPITAL LETTER YA|CYRILLIC SMALL LETTER A",
    "CYRILLIC SMALL LETTER BE|CYRILLIC SMALL LETTER VE|CYRILLIC SMALL LETTER GHE",
    "CYRILLIC SMALL LETTER DE|CYRILLIC SMALL LETTER IE|CYRILLIC SMALL LETTER ZHE",
    "CYRILLIC SMALL LETTER ZE|CYRILLIC SMALL LETTER I|CYRILLIC SMALL LETTER SHORT I",
    "CYRILLIC SMALL LETTER KA|CYRILLIC SMALL LETTER EL|CYRILLIC SMALL LETTER EM",
    "CYRILLIC SMALL LETTER EN|CYRILLIC SMALL LETTER O|CYRILLIC SMALL LETTER PE",
    "CYRILLIC SMALL LETTER ER|CYRILLIC SMALL LETTER ES|CYRILLIC SMALL LETTER TE",
    "CYRILLIC SMALL LETTER U|CYRILLIC SMALL LETTER EF|CYRILLIC SMALL LETTER HA",
    "CYRILLIC SMALL LETTER TSE|CYRILLIC SMALL LETTER CHE|CYRILLIC SMALL LETTER SHA",
    "CYRILLIC SMALL LETTER SHCHA|CYRILLIC SMALL LETTER HARD SIGN|CYRILLIC SMALL LETTER YERU",
    "CYRILLIC SMALL LETTER SOFT SIGN|CYRILLIC SMALL LETTER E|CYRILLIC SMALL LETTER YU",
    "CYRILLIC SMALL LETTER YA"]),
  (0x451, ["CYRILLIC SMALL LETTER IO"]),
  (0x2000, ["EN QUAD|EM QUAD|EN SPACE|EM SPACE|THREE-PER-EM SPACE|FOUR-PER-EM SPACE",
    "SIX-PER-EM SPACE|FIGURE SPACE|PUNCTUATION SPACE|THIN SPACE|HAIR SPACE|ZERO WIDTH SPACE",
    "ZERO WIDTH NON-JOINER|ZERO WIDTH JOINER|LEFT-TO-RIGHT MARK|RIGHT-TO-LEFT MARK|HYPHEN",
    "NON-BREAKING HYPHEN|FIGURE DASH|EN DASH|EM DASH|HORIZONTAL BAR|DOUBLE VERTICAL LINE",
    "DOUBLE LOW LINE|LEFT SINGLE QUOTATION MARK|RIGHT SINGLE QUOTATION MARK",
    "SINGLE LOW-9 QUOTATION MARK|SINGLE HIGH-REVERSED-9 QUOTATION MARK|LEFT DOUBLE QUOTATION MARK",
    "RIGHT DOUBLE QUOTATION MARK|DOUBLE LOW-9 QUOTATION MARK|DOUBLE HIGH-REVERSED-9 QUOTATION MARK",
    "DAGGER|DOUBLE DAGGER|BULLET|TRIANGULAR BULLET|ONE DOT LEADER|TWO DOT LEADER",
    "HORIZONTAL ELLIPSIS|HYPHENATION POINT|LINE SEPARATOR|PARAGRAPH SEPARATOR",
    "LEFT-TO-RIGHT EMBEDDING|RIGHT-TO-LEFT EMBEDDING|POP DIRECTIONAL FORMATTING",
    "LEFT-TO-RIGHT OVERRIDE|RIGHT-TO-LEFT OVERRIDE|NARROW NO-BREAK SPACE|PER MILLE SIGN",
    "PER TEN THOUSAND SIGN|PRIME|DOUBLE PRIME|TRIPLE PRIME|REVERSED PRIME|REVERSED DOUBLE PRIME",
    "REVERSED TRIPLE PRIME|CARET|SINGLE LEFT-POINTING ANGLE QUOTATION MARK",
    "SINGLE RIGHT-POINTING ANGLE QUOTATION MARK|REFERENCE MARK|DOUBLE EXCLAMATION MARK|INTERROBANG",
    "OVERLINE|UNDERTIE|CHARACTER TIE|CARET INSERTION POINT|ASTERISM|HYPHEN BULLET|FRACTION SLASH",
    "LEFT SQUARE BRACKET WITH QUILL|RIGHT SQUARE BRACKET WITH QUILL|DOUBLE QUESTION MARK",
    "QUESTION EXCLAMATION MARK|EXCLAMATION QUESTION MARK|TIRONIAN SIGN ET|REVERSED PILCROW SIGN",
    "BLACK LEFTWARDS BULLET|BLACK RIGHTWARDS BULLET|LOW ASTERISK|REVERSED SEMICOLON|CLOSE UP",
    "TWO ASTERISKS ALIGNED VERTICALLY|COMMERCIAL MINUS SIGN|SWUNG DASH|INVERTED UNDERTIE",
    "FLOWER PUNCTUATION MARK|THREE DOT PUNCTUATION|QUADRUPLE PRIME|FOUR DOT PUNCTUATION",
    "FIVE DOT PUNCTUATION|TWO DOT PUNCTUATION|FOUR DOT MARK|DOTTED CROSS|TRICOLON",
    "VERTICAL FOUR DOTS|MEDIUM MATHEMATICAL SPACE|WORD JOINER|FUNCTION APPLICATION|INVISIBLE TIMES",
    "INVISIBLE SEPARATOR|INVISIBLE PLUS"]),
  (0x20a0, ["EURO-CURRENCY SIGN|COLON SIGN|CRUZEIRO SIGN|FRENCH FRANC SIGN|LIRA SIGN|MILL SIGN",
    "NAIRA SIGN|PESETA SIGN|RUPEE SIGN|WON SIGN|NEW SHEQEL SIGN|DONG SIGN|EURO SIGN|KIP SIGN",
    "TUGRIK SIGN|DRACHMA SIGN|GERMAN PENNY SIGN|PESO SIGN|GUARANI SIGN|AUSTRAL SIGN|HRYVNIA SIGN",
    "CEDI SIGN|LIVRE TOURNOIS SIGN|SPESMILO SIGN|TENGE SIGN|INDIAN RUPEE SIGN|TURKISH LIRA SIGN",
    "NORDIC MARK SIGN|MANAT SIGN|RUBLE SIGN|LARI SIGN|BITCOIN SIGN|SOM SIGN"]),
  (0x2116, ["NUMERO SIGN|SOUND RECORDING COPYRIGHT"]),
  (0x2122, ["TRADE MARK SIGN"]),
  (0x2126, ["OHM SIGN"]),
  (0x212a, ["KELVIN SIGN|ANGSTROM SIGN"]),
  (0x2153, ["VULGAR FRACTION ONE THIRD|VULGAR FRACTION TWO THIRDS|VULGAR FRACTION ONE FIFTH",
    "VULGAR FRACTION TWO FIFTHS|VULGAR FRACTION THREE FIFTHS|VULGAR FRACTION FOUR FIFTHS",
    "VULGAR FRACTION ONE SIXTH|VULGAR FRACTION FIVE SIXTHS|VULGAR FRACTION ONE EIGHTH",
    "VULGAR FRACTION THREE EIGHTHS|VULGAR FRACTION FIVE EIGHTHS|VULGAR FRACTION SEVEN EIGHTHS"]),
  (0x2190, ["LEFTWARDS ARROW|UPWARDS ARROW|RIGHTWARDS ARROW|DOWNWARDS ARROW|LEFT RIGHT ARROW",
    "UP DOWN ARROW|NORTH WEST ARROW|NORTH EAST ARROW|SOUTH EAST ARROW|SOUTH WEST ARROW"]),
  (0x21d0, ["LEFTWARDS DOUBLE ARROW|UPWARDS DOUBLE ARROW|RIGHTWARDS DOUBLE ARROW",
    "DOWNWARDS DOUBLE ARROW|LEFT RIGHT DOUBLE ARROW|UP DOWN DOUBLE ARROW"]),
  (0x2200, ["FOR ALL|COMPLEMENT|PARTIAL DIFFERENTIAL|THERE EXISTS|THERE DOES NOT EXIST|EMPTY SET",
    "INCREMENT|NABLA|ELEMENT OF|NOT AN ELEMENT OF|SMALL ELEMENT OF|CONTAINS AS MEMBER",
    "DOES NOT CONTAIN AS MEMBER|SMALL CONTAINS AS MEMBER|END OF PROOF|N-ARY PRODUCT",
    "N-ARY COPRODUCT|N-ARY SUMMATION|MINUS SIGN|MINUS-OR-PLUS SIGN"]),
  (0x2215, ["DIVISION SLASH|SET MINUS|ASTERISK OPERATOR|RING OPERATOR|BULLET OPERATOR|SQUARE ROOT",
    "CUBE ROOT|FOURTH ROOT|PROPORTIONAL TO|INFINITY|RIGHT ANGLE|ANGLE|MEASURED ANGLE",
    "SPHERICAL ANGLE|DIVIDES|DOES NOT DIVIDE|PARALLEL TO|NOT PARALLEL TO|LOGICAL AND|LOGICAL OR",
    "INTERSECTION|UNION|INTEGRAL"]),
  (0x2248, ["ALMOST EQUAL TO"]),
  (0x2260, ["NOT EQUAL TO|IDENTICAL TO|NOT IDENTICAL TO|STRICTLY EQUIVALENT TO",
    "LESS-THAN OR EQUAL TO|GREATER-THAN OR EQUAL TO|LESS-THAN OVER EQUAL TO",
    "GREATER-THAN OVER EQUAL TO"]),
  (0x2282, ["SUBSET OF|SUPERSET OF|NOT A SUBSET OF|NOT A SUPERSET OF|SUBSET OF OR EQUAL TO",
    "SUPERSET OF OR EQUAL TO"]),
  (0x2295, ["CIRCLED PLUS|CIRCLED MINUS|CIRCLED TIMES"]),
  (0x2588, ["FULL BLOCK"]),
  (0x2591, ["LIGHT SHADE|MEDIUM SHADE|DARK SHADE"]),
  (0x25a0, ["BLACK SQUARE|WHITE SQUARE"]),
  (0x25b2, ["BLACK UP-POINTING TRIANGLE|WHITE UP-POINTING TRIANGLE"]),
  (0x25b6, ["BLACK RIGHT-POINTING TRIANGLE|WHITE RIGHT-POINTING TRIANGLE"]),
  (0x25bc, ["BLACK DOWN-POINTING TRIANGLE|WHITE DOWN-POINTING TRIANGLE"]),
  (0x25c0, ["BLACK LEFT-POINTING TRIANGLE|WHITE LEFT-POINTING TRIANGLE"]),
  (0x25c6, ["BLACK DIAMOND|WHITE DIAMOND"]),
  (0x25ca, ["LOZENGE|WHITE CIRCLE"]),
  (0x25cf, ["BLACK CIRCLE"]),
  (0x2600, ["BLACK SUN WITH RAYS|CLOUD|UMBRELLA|SNOWMAN|COMET|BLACK STAR|WHITE STAR|LIGHTNING",
    "THUNDERSTORM|SUN|ASCENDING NODE|DESCENDING NODE|CONJUNCTION|OPPOSITION|BLACK TELEPHONE",
    "WHITE TELEPHONE|BALLOT BOX|BALLOT BOX WITH CHECK|BALLOT BOX WITH X|SALTIRE",
    "UMBRELLA WITH RAIN DROPS|HOT BEVERAGE"]),
  (0x2620, ["SKULL AND CROSSBONES|CAUTION SIGN|RADIOACTIVE SIGN|BIOHAZARD SIGN"]),
  (0x262e, ["PEACE SYMBOL|YIN YANG"]),
  (0x2639, ["WHITE FROWNING FACE|WHITE SMILING FACE|BLACK SMILING FACE"]),
  (0x2640, ["FEMALE SIGN|EARTH|MALE SIGN"]),
  (0x2654, ["WHITE CHESS KING|WHITE CHESS QUEEN|WHITE CHESS ROOK|WHITE CHESS BISHOP",
    "WHITE CHESS KNIGHT|WHITE CHESS PAWN|BLACK CHESS KING|BLACK CHESS QUEEN|BLACK CHESS ROOK",
    "BLACK CHESS BISHOP|BLACK CHESS KNIGHT|BLACK CHESS PAWN|BLACK SPADE SUIT|WHITE HEART SUIT",
    "WHITE DIAMOND SUIT|BLACK CLUB SUIT|WHITE SPADE SUIT|BLACK HEART SUIT|BLACK DIAMOND SUIT",
    "WHITE CLUB SUIT"]),
  (0x2669, ["QUARTER NOTE|EIGHTH NOTE|BEAMED EIGHTH NOTES|BEAMED SIXTEENTH NOTES|MUSIC FLAT SIGN",
    "MUSIC NATURAL SIGN|MUSIC SHARP SIGN"]),
  (0x267b, ["BLACK UNIVERSAL RECYCLING SYMBOL"]),
  (0x2690, ["WHITE FLAG|BLACK FLAG|HAMMER AND PICK|ANCHOR|CROSSED SWORDS|STAFF OF AESCULAPIUS",
    "SCALES"]),
  (0x2699, ["GEAR"]),
  (0x26a0, ["WARNING SIGN|HIGH VOLTAGE SIGN"]),
  (0x2705, ["WHITE HEAVY CHECK MARK"]),
  (0x2708, ["AIRPLANE|ENVELOPE|RAISED FIST|RAISED HAND|VICTORY HAND|WRITING HAND"]),
  (0x2713, ["CHECK MARK|HEAVY CHECK MARK|MULTIPLICATION X|HEAVY MULTIPLICATION X|BALLOT X",
    "HEAVY BALLOT X"]),
  (0x2728, ["SPARKLES"]),
  (0x2744, ["SNOWFLAKE"]),
  (0x274c, ["CROSS MARK"]),
  (0x2753, ["BLACK QUESTION MARK ORNAMENT|WHITE QUESTION MARK ORNAMENT",
    "WHITE EXCLAMATION MARK ORNAMENT|BLACK DIAMOND MINUS WHITE X|HEAVY EXCLAMATION MARK SYMBOL"]),
  (0x2763, ["HEAVY HEART EXCLAMATION MARK ORNAMENT|HEAVY BLACK HEART"]),
  (0x27a1, ["BLACK RIGHTWARDS ARROW"]),
  (0x2b50, ["WHITE MEDIUM STAR"]),
  (0x3000, ["IDEOGRAPHIC SPACE|IDEOGRAPHIC COMMA|IDEOGRAPHIC FULL STOP|DITTO MARK"]),
  (0xfeff, ["ZERO WIDTH NO-BREAK SPACE"]),
  (0xfffc, ["OBJECT REPLACEMENT CHARACTER|REPLACEMENT CHARACTER"]),
  (0x1f300, ["CYCLONE|FOGGY|CLOSED UMBRELLA|NIGHT WITH STARS|SUNRISE OVER MOUNTAINS|SUNRISE",
    "CITYSCAPE AT DUSK|SUNSET OVER BUILDINGS|RAINBOW|BRIDGE AT NIGHT|WATER WAVE|VOLCANO|MILKY WAY",
    "EARTH GLOBE EUROPE-AFRICA|EARTH GLOBE AMERICAS|EARTH GLOBE ASIA-AUSTRALIA",
    "GLOBE WITH MERIDIANS|NEW MOON SYMBOL|WAXING CRESCENT MOON SYMBOL|FIRST QUARTER MOON SYMBOL",
    "WAXING GIBBOUS MOON SYMBOL|FULL MOON SYMBOL|WANING GIBBOUS MOON SYMBOL",
    "LAST QUARTER MOON SYMBOL|WANING CRESCENT MOON SYMBOL|CRESCENT MOON|NEW MOON WITH FACE",
    "FIRST QUARTER MOON WITH FACE|LAST QUARTER MOON WITH FACE|FULL MOON WITH FACE|SUN WITH FACE",
    "GLOWING STAR|SHOOTING STAR"]),
  (0x1f339, ["ROSE|HIBISCUS|SUNFLOWER|BLOSSOM|EAR OF MAIZE|EAR OF RICE|HERB|FOUR LEAF CLOVER",
    "MAPLE LEAF|FALLEN LEAF|LEAF FLUTTERING IN WIND|MUSHROOM|TOMATO|AUBERGINE|GRAPES|MELON",
    "WATERMELON|TANGERINE|LEMON|BANANA|PINEAPPLE|RED APPLE|GREEN APPLE"]),
  (0x1f400, ["RAT|MOUSE|OX|WATER BUFFALO|COW|TIGER|LEOPARD|RABBIT|CAT|DRAGON|CROCODILE|WHALE|SNAIL",
    "SNAKE|HORSE|RAM|GOAT|SHEEP|MONKEY|ROOSTER|CHICKEN|DOG|PIG|BOAR|ELEPHANT|OCTOPUS|SPIRAL SHELL",
    "BUG|ANT|HONEYBEE|LADY BEETLE|FISH|TROPICAL FISH|BLOWFISH|TURTLE|HATCHING CHICK|BABY CHICK",
    "FRONT-FACING BABY CHICK|BIRD|PENGUIN|KOALA|POODLE|DROMEDARY CAMEL|BACTRIAN CAMEL|DOLPHIN",
    "MOUSE FACE|COW FACE|TIGER FACE|RABBIT FACE|CAT FACE|DRAGON FACE|SPOUTING WHALE|HORSE FACE",
    "MONKEY FACE|DOG FACE|PIG FACE|FROG FACE|HAMSTER FACE|WOLF FACE|BEAR FACE|PANDA FACE|PIG NOSE",
    "PAW PRINTS"]),
  (0x1f44d, ["THUMBS UP SIGN|THUMBS DOWN SIGN|CLAPPING HANDS SIGN"]),
  (0x1f480, ["SKULL"]),
  (0x1f4a9, ["PILE OF POO"]),
  (0x1f4af, ["HUNDRED POINTS SYMBOL"]),
  (0x1f4bb, ["PERSONAL COMPUTER"]),
  (0x1f525, ["FIRE"]),
  (0x1f600, ["GRINNING FACE|GRINNING FACE WITH SMILING EYES|FACE WITH TEARS OF JOY",
    "SMILING FACE WITH OPEN MOUTH|SMILING FACE WITH OPEN MOUTH AND SMILING EYES",
    "SMILING FACE WITH OPEN MOUTH AND COLD SWEAT",
    "SMILING FACE WITH OPEN MOUTH AND TIGHTLY-CLOSED EYES|SMILING FACE WITH HALO",
    "SMILING FACE WITH HORNS|WINKING FACE|SMILING FACE WITH SMILING EYES",
    "FACE SAVOURING DELICIOUS FOOD|RELIEVED FACE|SMILING FACE WITH HEART-SHAPED EYES",
    "SMILING FACE WITH SUNGLASSES|SMIRKING FACE|NEUTRAL FACE|EXPRESSIONLESS FACE|UNAMUSED FACE",
    "FACE WITH COLD SWEAT|PENSIVE FACE|CONFUSED FACE|CONFOUNDED FACE|KISSING FACE",
    "FACE THROWING A KISS|KISSING FACE WITH SMILING EYES|KISSING FACE WITH CLOSED EYES",
    "FACE WITH STUCK-OUT TONGUE|FACE WITH STUCK-OUT TONGUE AND WINKING EYE",
    "FACE WITH STUCK-OUT TONGUE AND TIGHTLY-CLOSED EYES|DISAPPOINTED FACE|WORRIED FACE|ANGRY FACE",
    "POUTING FACE|CRYING FACE|PERSEVERING FACE|FACE WITH LOOK OF TRIUMPH",
    "DISAPPOINTED BUT RELIEVED FACE|FROWNING FACE WITH OPEN MOUTH|ANGUISHED FACE|FEARFUL FACE",
    "WEARY FACE|SLEEPY FACE|TIRED FACE|GRIMACING FACE|LOUDLY CRYING FACE|FACE WITH OPEN MOUTH",
    "HUSHED FACE|FACE WITH OPEN MOUTH AND COLD SWEAT|FACE SCREAMING IN FEAR|ASTONISHED FACE",
    "FLUSHED FACE|SLEEPING FACE|DIZZY FACE|FACE WITHOUT MOUTH|FACE WITH MEDICAL MASK",
    "GRINNING CAT FACE WITH SMILING EYES|CAT FACE WITH TEARS OF JOY",
    "SMILING CAT FACE WITH OPEN MOUTH|SMILING CAT FACE WITH HEART-SHAPED EYES",
    "CAT FACE WITH WRY SMILE|KISSING CAT FACE WITH CLOSED EYES|POUTING CAT FACE|CRYING CAT FACE",
    "WEARY CAT FACE|SLIGHTLY FROWNING FACE|SLIGHTLY SMILING FACE|UPSIDE-DOWN FACE",
    "FACE WITH ROLLING EYES|FACE WITH NO GOOD GESTURE|FACE WITH OK GESTURE|PERSON BOWING DEEPLY",
    "SEE-NO-EVIL MONKEY|HEAR-NO-EVIL MONKEY|SPEAK-NO-EVIL MONKEY|HAPPY PERSON RAISING ONE HAND",
    "PERSON RAISING BOTH HANDS IN CELEBRATION|PERSON FROWNING|PERSON WITH POUTING FACE",
    "PERSON WITH FOLDED HANDS"]),
  (0x1f680, ["ROCKET"])]

def nameAliases : List (String × Nat) := [
  ("NULL", 0x0), ("NUL", 0x0), ("START OF HEADING", 0x1), ("SOH", 0x1), ("START OF TEXT", 0x2),
  ("STX", 0x2), ("END OF TEXT", 0x3), ("ETX", 0x3), ("END OF TRANSMISSION", 0x4), ("EOT", 0x4),
  ("ENQUIRY", 0x5), ("ENQ", 0x5), ("ACKNOWLEDGE", 0x6), ("ACK", 0x6), ("ALERT", 0x7), ("BEL", 0x7),
  ("BACKSPACE", 0x8), ("BS", 0x8), ("CHARACTER TABULATION", 0x9), ("HORIZONTAL TABULATION", 0x9),
  ("HT", 0x9), ("TAB", 0x9), ("LINE FEED", 0xa), ("NEW LINE", 0xa), ("END OF LINE", 0xa),
  ("LF", 0xa), ("NL", 0xa), ("EOL", 0xa), ("LINE TABULATION", 0xb), ("VERTICAL TABULATION", 0xb),
  ("VT", 0xb), ("FORM FEED", 0xc), ("FF", 0xc), ("CARRIAGE RETURN", 0xd), ("CR", 0xd),
  ("SHIFT OUT", 0xe), ("LOCKING-SHIFT ONE", 0xe), ("SO", 0xe), ("SHIFT IN", 0xf),
  ("LOCKING-SHIFT ZERO", 0xf), ("SI", 0xf), ("DATA LINK ESCAPE", 0x10), ("DLE", 0x10),
  ("DEVICE CONTROL ONE", 0x11), ("DC1", 0x11), ("DEVICE CONTROL TWO", 0x12), ("DC2", 0x12),
  ("DEVICE CONTROL THREE", 0x13), ("DC3", 0x13), ("DEVICE CONTROL FOUR", 0x14), ("DC4", 0x14),
  ("NEGATIVE ACKNOWLEDGE", 0x15), ("NAK", 0x15), ("SYNCHRONOUS IDLE", 0x16), ("SYN", 0x16),
  ("END OF TRANSMISSION BLOCK", 0x17), ("ETB", 0x17), ("CANCEL", 0x18), ("CAN", 0x18),
  ("END OF MEDIUM", 0x19), ("EOM", 0x19), ("SUBSTITUTE", 0x1a), ("SUB", 0x1a), ("ESCAPE", 0x1b),
  ("ESC", 0x1b), ("INFORMATION SEPARATOR FOUR", 0x1c), ("FILE SEPARATOR", 0x1c), ("FS", 0x1c),
  ("INFORMATION SEPARATOR THREE", 0x1d), ("GROUP SEPARATOR", 0x1d), ("GS", 0x1d),
  ("INFORMATION SEPARATOR TWO", 0x1e), ("RECORD SEPARATOR", 0x1e), ("RS", 0x1e),
  ("INFORMATION SEPARATOR ONE", 0x1f), ("UNIT SEPARATOR", 0x1f), ("US", 0x1f), ("SP", 0x20),
  ("DELETE", 0x7f), ("DEL", 0x7f), ("NEXT LINE", 0x85), ("NEL", 0x85), ("NBSP", 0xa0),
  ("SHY", 0xad), ("ZWSP", 0x200b), ("ZWNJ", 0x200c), ("ZWJ", 0x200d), ("LRM", 0x200e),
  ("RLM", 0x200f), ("NNBSP", 0x202f), ("WJ", 0x2060), ("BYTE ORDER MARK", 0xfeff), ("BOM", 0xfeff),
  ("ZWNBSP", 0xfeff)]

def characterNamed? (name : List Char) : Option Char :=
  if name.isEmpty then none else
  let name := String.ofList (name.map Char.toUpper)
  let listed := nameRuns.findSome? fun run =>
    ((run.2.flatMap (·.splitOn "|")).idxOf? name).map (run.1 + ·)
  (listed.or (nameAliases.lookup name)).map Char.ofNat

end ClientGen.Text
