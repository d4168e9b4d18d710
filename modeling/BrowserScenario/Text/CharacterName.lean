/-!
# Names of characters

Which names stand for characters is a table that a reader of names is given. The one table here has
the characters of common blocks by their Unicode names: Latin letters, Greek and Cyrillic ones,
punctuation, currency signs, arrows, operators and shapes, and the control characters by their
usual aliases; letters of either case may be used in a name. It leaves out the names of all other
blocks, such as those of Hebrew or Arabic letters and of ideographs, and the named sequences.
-/

namespace BrowserScenario.Text

/-- A table of the names of characters: the code point that a name stands for. -/
class CharacterNames where
  code? : List Char → Option Nat

/-- Runs of characters: the code point of the first, and the names of all of them in order, line by
line and with bars between them, empty where a code point has none. -/
def nameRuns : List (Nat × List String) := [
  (0, [
    "NULL"]),
  (7, [
    "ALERT|BACKSPACE|CHARACTER TABULATION|LINE FEED|LINE TABULATION|FORM FEED|CARRIAGE RETURN"]),
  (27, [
    "ESCAPE"]),
  (32, [
    "SPACE|EXCLAMATION MARK|QUOTATION MARK|NUMBER SIGN|DOLLAR SIGN|PERCENT SIGN|AMPERSAND",
    "APOSTROPHE|LEFT PARENTHESIS|RIGHT PARENTHESIS|ASTERISK|PLUS SIGN|COMMA|HYPHEN-MINUS",
    "FULL STOP|SOLIDUS|DIGIT ZERO|DIGIT ONE|DIGIT TWO|DIGIT THREE|DIGIT FOUR|DIGIT FIVE",
    "DIGIT SIX|DIGIT SEVEN|DIGIT EIGHT|DIGIT NINE|COLON|SEMICOLON|LESS-THAN SIGN|EQUALS SIGN",
    "GREATER-THAN SIGN|QUESTION MARK|COMMERCIAL AT|LATIN CAPITAL LETTER A",
    "LATIN CAPITAL LETTER B|LATIN CAPITAL LETTER C|LATIN CAPITAL LETTER D",
    "LATIN CAPITAL LETTER E|LATIN CAPITAL LETTER F|LATIN CAPITAL LETTER G",
    "LATIN CAPITAL LETTER H|LATIN CAPITAL LETTER I|LATIN CAPITAL LETTER J",
    "LATIN CAPITAL LETTER K|LATIN CAPITAL LETTER L|LATIN CAPITAL LETTER M",
    "LATIN CAPITAL LETTER N|LATIN CAPITAL LETTER O|LATIN CAPITAL LETTER P",
    "LATIN CAPITAL LETTER Q|LATIN CAPITAL LETTER R|LATIN CAPITAL LETTER S",
    "LATIN CAPITAL LETTER T|LATIN CAPITAL LETTER U|LATIN CAPITAL LETTER V",
    "LATIN CAPITAL LETTER W|LATIN CAPITAL LETTER X|LATIN CAPITAL LETTER Y",
    "LATIN CAPITAL LETTER Z|LEFT SQUARE BRACKET|REVERSE SOLIDUS|RIGHT SQUARE BRACKET",
    "CIRCUMFLEX ACCENT|LOW LINE|GRAVE ACCENT|LATIN SMALL LETTER A|LATIN SMALL LETTER B",
    "LATIN SMALL LETTER C|LATIN SMALL LETTER D|LATIN SMALL LETTER E|LATIN SMALL LETTER F",
    "LATIN SMALL LETTER G|LATIN SMALL LETTER H|LATIN SMALL LETTER I|LATIN SMALL LETTER J",
    "LATIN SMALL LETTER K|LATIN SMALL LETTER L|LATIN SMALL LETTER M|LATIN SMALL LETTER N",
    "LATIN SMALL LETTER O|LATIN SMALL LETTER P|LATIN SMALL LETTER Q|LATIN SMALL LETTER R",
    "LATIN SMALL LETTER S|LATIN SMALL LETTER T|LATIN SMALL LETTER U|LATIN SMALL LETTER V",
    "LATIN SMALL LETTER W|LATIN SMALL LETTER X|LATIN SMALL LETTER Y|LATIN SMALL LETTER Z",
    "LEFT CURLY BRACKET|VERTICAL LINE|RIGHT CURLY BRACKET|TILDE|DELETE"]),
  (133, [
    "NEXT LINE"]),
  (160, [
    "NO-BREAK SPACE|INVERTED EXCLAMATION MARK|CENT SIGN|POUND SIGN|CURRENCY SIGN|YEN SIGN",
    "BROKEN BAR|SECTION SIGN|DIAERESIS|COPYRIGHT SIGN|FEMININE ORDINAL INDICATOR",
    "LEFT-POINTING DOUBLE ANGLE QUOTATION MARK|NOT SIGN|SOFT HYPHEN|REGISTERED SIGN|MACRON",
    "DEGREE SIGN|PLUS-MINUS SIGN|SUPERSCRIPT TWO|SUPERSCRIPT THREE|ACUTE ACCENT|MICRO SIGN",
    "PILCROW SIGN|MIDDLE DOT|CEDILLA|SUPERSCRIPT ONE|MASCULINE ORDINAL INDICATOR",
    "RIGHT-POINTING DOUBLE ANGLE QUOTATION MARK|VULGAR FRACTION ONE QUARTER",
    "VULGAR FRACTION ONE HALF|VULGAR FRACTION THREE QUARTERS|INVERTED QUESTION MARK",
    "LATIN CAPITAL LETTER A WITH GRAVE|LATIN CAPITAL LETTER A WITH ACUTE",
    "LATIN CAPITAL LETTER A WITH CIRCUMFLEX|LATIN CAPITAL LETTER A WITH TILDE",
    "LATIN CAPITAL LETTER A WITH DIAERESIS|LATIN CAPITAL LETTER A WITH RING ABOVE",
    "LATIN CAPITAL LETTER AE|LATIN CAPITAL LETTER C WITH CEDILLA",
    "LATIN CAPITAL LETTER E WITH GRAVE|LATIN CAPITAL LETTER E WITH ACUTE",
    "LATIN CAPITAL LETTER E WITH CIRCUMFLEX|LATIN CAPITAL LETTER E WITH DIAERESIS",
    "LATIN CAPITAL LETTER I WITH GRAVE|LATIN CAPITAL LETTER I WITH ACUTE",
    "LATIN CAPITAL LETTER I WITH CIRCUMFLEX|LATIN CAPITAL LETTER I WITH DIAERESIS",
    "LATIN CAPITAL LETTER ETH|LATIN CAPITAL LETTER N WITH TILDE",
    "LATIN CAPITAL LETTER O WITH GRAVE|LATIN CAPITAL LETTER O WITH ACUTE",
    "LATIN CAPITAL LETTER O WITH CIRCUMFLEX|LATIN CAPITAL LETTER O WITH TILDE",
    "LATIN CAPITAL LETTER O WITH DIAERESIS|MULTIPLICATION SIGN",
    "LATIN CAPITAL LETTER O WITH STROKE|LATIN CAPITAL LETTER U WITH GRAVE",
    "LATIN CAPITAL LETTER U WITH ACUTE|LATIN CAPITAL LETTER U WITH CIRCUMFLEX",
    "LATIN CAPITAL LETTER U WITH DIAERESIS|LATIN CAPITAL LETTER Y WITH ACUTE",
    "LATIN CAPITAL LETTER THORN|LATIN SMALL LETTER SHARP S|LATIN SMALL LETTER A WITH GRAVE",
    "LATIN SMALL LETTER A WITH ACUTE|LATIN SMALL LETTER A WITH CIRCUMFLEX",
    "LATIN SMALL LETTER A WITH TILDE|LATIN SMALL LETTER A WITH DIAERESIS",
    "LATIN SMALL LETTER A WITH RING ABOVE|LATIN SMALL LETTER AE",
    "LATIN SMALL LETTER C WITH CEDILLA|LATIN SMALL LETTER E WITH GRAVE",
    "LATIN SMALL LETTER E WITH ACUTE|LATIN SMALL LETTER E WITH CIRCUMFLEX",
    "LATIN SMALL LETTER E WITH DIAERESIS|LATIN SMALL LETTER I WITH GRAVE",
    "LATIN SMALL LETTER I WITH ACUTE|LATIN SMALL LETTER I WITH CIRCUMFLEX",
    "LATIN SMALL LETTER I WITH DIAERESIS|LATIN SMALL LETTER ETH",
    "LATIN SMALL LETTER N WITH TILDE|LATIN SMALL LETTER O WITH GRAVE",
    "LATIN SMALL LETTER O WITH ACUTE|LATIN SMALL LETTER O WITH CIRCUMFLEX",
    "LATIN SMALL LETTER O WITH TILDE|LATIN SMALL LETTER O WITH DIAERESIS|DIVISION SIGN",
    "LATIN SMALL LETTER O WITH STROKE|LATIN SMALL LETTER U WITH GRAVE",
    "LATIN SMALL LETTER U WITH ACUTE|LATIN SMALL LETTER U WITH CIRCUMFLEX",
    "LATIN SMALL LETTER U WITH DIAERESIS|LATIN SMALL LETTER Y WITH ACUTE",
    "LATIN SMALL LETTER THORN|LATIN SMALL LETTER Y WITH DIAERESIS",
    "LATIN CAPITAL LETTER A WITH MACRON|LATIN SMALL LETTER A WITH MACRON",
    "LATIN CAPITAL LETTER A WITH BREVE|LATIN SMALL LETTER A WITH BREVE",
    "LATIN CAPITAL LETTER A WITH OGONEK|LATIN SMALL LETTER A WITH OGONEK",
    "LATIN CAPITAL LETTER C WITH ACUTE|LATIN SMALL LETTER C WITH ACUTE",
    "LATIN CAPITAL LETTER C WITH CIRCUMFLEX|LATIN SMALL LETTER C WITH CIRCUMFLEX",
    "LATIN CAPITAL LETTER C WITH DOT ABOVE|LATIN SMALL LETTER C WITH DOT ABOVE",
    "LATIN CAPITAL LETTER C WITH CARON|LATIN SMALL LETTER C WITH CARON",
    "LATIN CAPITAL LETTER D WITH CARON|LATIN SMALL LETTER D WITH CARON",
    "LATIN CAPITAL LETTER D WITH STROKE|LATIN SMALL LETTER D WITH STROKE",
    "LATIN CAPITAL LETTER E WITH MACRON|LATIN SMALL LETTER E WITH MACRON",
    "LATIN CAPITAL LETTER E WITH BREVE|LATIN SMALL LETTER E WITH BREVE",
    "LATIN CAPITAL LETTER E WITH DOT ABOVE|LATIN SMALL LETTER E WITH DOT ABOVE",
    "LATIN CAPITAL LETTER E WITH OGONEK|LATIN SMALL LETTER E WITH OGONEK",
    "LATIN CAPITAL LETTER E WITH CARON|LATIN SMALL LETTER E WITH CARON",
    "LATIN CAPITAL LETTER G WITH CIRCUMFLEX|LATIN SMALL LETTER G WITH CIRCUMFLEX",
    "LATIN CAPITAL LETTER G WITH BREVE|LATIN SMALL LETTER G WITH BREVE",
    "LATIN CAPITAL LETTER G WITH DOT ABOVE|LATIN SMALL LETTER G WITH DOT ABOVE",
    "LATIN CAPITAL LETTER G WITH CEDILLA|LATIN SMALL LETTER G WITH CEDILLA",
    "LATIN CAPITAL LETTER H WITH CIRCUMFLEX|LATIN SMALL LETTER H WITH CIRCUMFLEX",
    "LATIN CAPITAL LETTER H WITH STROKE|LATIN SMALL LETTER H WITH STROKE",
    "LATIN CAPITAL LETTER I WITH TILDE|LATIN SMALL LETTER I WITH TILDE",
    "LATIN CAPITAL LETTER I WITH MACRON|LATIN SMALL LETTER I WITH MACRON",
    "LATIN CAPITAL LETTER I WITH BREVE|LATIN SMALL LETTER I WITH BREVE",
    "LATIN CAPITAL LETTER I WITH OGONEK|LATIN SMALL LETTER I WITH OGONEK",
    "LATIN CAPITAL LETTER I WITH DOT ABOVE|LATIN SMALL LETTER DOTLESS I",
    "LATIN CAPITAL LIGATURE IJ|LATIN SMALL LIGATURE IJ",
    "LATIN CAPITAL LETTER J WITH CIRCUMFLEX|LATIN SMALL LETTER J WITH CIRCUMFLEX",
    "LATIN CAPITAL LETTER K WITH CEDILLA|LATIN SMALL LETTER K WITH CEDILLA",
    "LATIN SMALL LETTER KRA|LATIN CAPITAL LETTER L WITH ACUTE",
    "LATIN SMALL LETTER L WITH ACUTE|LATIN CAPITAL LETTER L WITH CEDILLA",
    "LATIN SMALL LETTER L WITH CEDILLA|LATIN CAPITAL LETTER L WITH CARON",
    "LATIN SMALL LETTER L WITH CARON|LATIN CAPITAL LETTER L WITH MIDDLE DOT",
    "LATIN SMALL LETTER L WITH MIDDLE DOT|LATIN CAPITAL LETTER L WITH STROKE",
    "LATIN SMALL LETTER L WITH STROKE|LATIN CAPITAL LETTER N WITH ACUTE",
    "LATIN SMALL LETTER N WITH ACUTE|LATIN CAPITAL LETTER N WITH CEDILLA",
    "LATIN SMALL LETTER N WITH CEDILLA|LATIN CAPITAL LETTER N WITH CARON",
    "LATIN SMALL LETTER N WITH CARON|LATIN SMALL LETTER N PRECEDED BY APOSTROPHE",
    "LATIN CAPITAL LETTER ENG|LATIN SMALL LETTER ENG|LATIN CAPITAL LETTER O WITH MACRON",
    "LATIN SMALL LETTER O WITH MACRON|LATIN CAPITAL LETTER O WITH BREVE",
    "LATIN SMALL LETTER O WITH BREVE|LATIN CAPITAL LETTER O WITH DOUBLE ACUTE",
    "LATIN SMALL LETTER O WITH DOUBLE ACUTE|LATIN CAPITAL LIGATURE OE",
    "LATIN SMALL LIGATURE OE|LATIN CAPITAL LETTER R WITH ACUTE",
    "LATIN SMALL LETTER R WITH ACUTE|LATIN CAPITAL LETTER R WITH CEDILLA",
    "LATIN SMALL LETTER R WITH CEDILLA|LATIN CAPITAL LETTER R WITH CARON",
    "LATIN SMALL LETTER R WITH CARON|LATIN CAPITAL LETTER S WITH ACUTE",
    "LATIN SMALL LETTER S WITH ACUTE|LATIN CAPITAL LETTER S WITH CIRCUMFLEX",
    "LATIN SMALL LETTER S WITH CIRCUMFLEX|LATIN CAPITAL LETTER S WITH CEDILLA",
    "LATIN SMALL LETTER S WITH CEDILLA|LATIN CAPITAL LETTER S WITH CARON",
    "LATIN SMALL LETTER S WITH CARON|LATIN CAPITAL LETTER T WITH CEDILLA",
    "LATIN SMALL LETTER T WITH CEDILLA|LATIN CAPITAL LETTER T WITH CARON",
    "LATIN SMALL LETTER T WITH CARON|LATIN CAPITAL LETTER T WITH STROKE",
    "LATIN SMALL LETTER T WITH STROKE|LATIN CAPITAL LETTER U WITH TILDE",
    "LATIN SMALL LETTER U WITH TILDE|LATIN CAPITAL LETTER U WITH MACRON",
    "LATIN SMALL LETTER U WITH MACRON|LATIN CAPITAL LETTER U WITH BREVE",
    "LATIN SMALL LETTER U WITH BREVE|LATIN CAPITAL LETTER U WITH RING ABOVE",
    "LATIN SMALL LETTER U WITH RING ABOVE|LATIN CAPITAL LETTER U WITH DOUBLE ACUTE",
    "LATIN SMALL LETTER U WITH DOUBLE ACUTE|LATIN CAPITAL LETTER U WITH OGONEK",
    "LATIN SMALL LETTER U WITH OGONEK|LATIN CAPITAL LETTER W WITH CIRCUMFLEX",
    "LATIN SMALL LETTER W WITH CIRCUMFLEX|LATIN CAPITAL LETTER Y WITH CIRCUMFLEX",
    "LATIN SMALL LETTER Y WITH CIRCUMFLEX|LATIN CAPITAL LETTER Y WITH DIAERESIS",
    "LATIN CAPITAL LETTER Z WITH ACUTE|LATIN SMALL LETTER Z WITH ACUTE",
    "LATIN CAPITAL LETTER Z WITH DOT ABOVE|LATIN SMALL LETTER Z WITH DOT ABOVE",
    "LATIN CAPITAL LETTER Z WITH CARON|LATIN SMALL LETTER Z WITH CARON",
    "LATIN SMALL LETTER LONG S"]),
  (402, [
    "LATIN SMALL LETTER F WITH HOOK"]),
  (688, [
    "MODIFIER LETTER SMALL H|MODIFIER LETTER SMALL H WITH HOOK|MODIFIER LETTER SMALL J",
    "MODIFIER LETTER SMALL R|MODIFIER LETTER SMALL TURNED R",
    "MODIFIER LETTER SMALL TURNED R WITH HOOK|MODIFIER LETTER SMALL CAPITAL INVERTED R",
    "MODIFIER LETTER SMALL W|MODIFIER LETTER SMALL Y|MODIFIER LETTER PRIME",
    "MODIFIER LETTER DOUBLE PRIME|MODIFIER LETTER TURNED COMMA|MODIFIER LETTER APOSTROPHE",
    "MODIFIER LETTER REVERSED COMMA|MODIFIER LETTER RIGHT HALF RING",
    "MODIFIER LETTER LEFT HALF RING|MODIFIER LETTER GLOTTAL STOP",
    "MODIFIER LETTER REVERSED GLOTTAL STOP|MODIFIER LETTER LEFT ARROWHEAD",
    "MODIFIER LETTER RIGHT ARROWHEAD|MODIFIER LETTER UP ARROWHEAD",
    "MODIFIER LETTER DOWN ARROWHEAD|MODIFIER LETTER CIRCUMFLEX ACCENT|CARON",
    "MODIFIER LETTER VERTICAL LINE|MODIFIER LETTER MACRON|MODIFIER LETTER ACUTE ACCENT",
    "MODIFIER LETTER GRAVE ACCENT|MODIFIER LETTER LOW VERTICAL LINE",
    "MODIFIER LETTER LOW MACRON|MODIFIER LETTER LOW GRAVE ACCENT",
    "MODIFIER LETTER LOW ACUTE ACCENT|MODIFIER LETTER TRIANGULAR COLON",
    "MODIFIER LETTER HALF TRIANGULAR COLON|MODIFIER LETTER CENTRED RIGHT HALF RING",
    "MODIFIER LETTER CENTRED LEFT HALF RING|MODIFIER LETTER UP TACK",
    "MODIFIER LETTER DOWN TACK|MODIFIER LETTER PLUS SIGN|MODIFIER LETTER MINUS SIGN|BREVE",
    "DOT ABOVE|RING ABOVE|OGONEK|SMALL TILDE|DOUBLE ACUTE ACCENT|MODIFIER LETTER RHOTIC HOOK",
    "MODIFIER LETTER CROSS ACCENT|MODIFIER LETTER SMALL GAMMA|MODIFIER LETTER SMALL L",
    "MODIFIER LETTER SMALL S|MODIFIER LETTER SMALL X",
    "MODIFIER LETTER SMALL REVERSED GLOTTAL STOP|MODIFIER LETTER EXTRA-HIGH TONE BAR",
    "MODIFIER LETTER HIGH TONE BAR|MODIFIER LETTER MID TONE BAR|MODIFIER LETTER LOW TONE BAR",
    "MODIFIER LETTER EXTRA-LOW TONE BAR|MODIFIER LETTER YIN DEPARTING TONE MARK",
    "MODIFIER LETTER YANG DEPARTING TONE MARK|MODIFIER LETTER VOICING",
    "MODIFIER LETTER UNASPIRATED|MODIFIER LETTER DOUBLE APOSTROPHE",
    "MODIFIER LETTER LOW DOWN ARROWHEAD|MODIFIER LETTER LOW UP ARROWHEAD",
    "MODIFIER LETTER LOW LEFT ARROWHEAD|MODIFIER LETTER LOW RIGHT ARROWHEAD",
    "MODIFIER LETTER LOW RING|MODIFIER LETTER MIDDLE GRAVE ACCENT",
    "MODIFIER LETTER MIDDLE DOUBLE GRAVE ACCENT|MODIFIER LETTER MIDDLE DOUBLE ACUTE ACCENT",
    "MODIFIER LETTER LOW TILDE|MODIFIER LETTER RAISED COLON|MODIFIER LETTER BEGIN HIGH TONE",
    "MODIFIER LETTER END HIGH TONE|MODIFIER LETTER BEGIN LOW TONE",
    "MODIFIER LETTER END LOW TONE|MODIFIER LETTER SHELF|MODIFIER LETTER OPEN SHELF",
    "MODIFIER LETTER LOW LEFT ARROW"]),
  (880, [
    "GREEK CAPITAL LETTER HETA|GREEK SMALL LETTER HETA|GREEK CAPITAL LETTER ARCHAIC SAMPI",
    "GREEK SMALL LETTER ARCHAIC SAMPI|GREEK NUMERAL SIGN|GREEK LOWER NUMERAL SIGN",
    "GREEK CAPITAL LETTER PAMPHYLIAN DIGAMMA|GREEK SMALL LETTER PAMPHYLIAN DIGAMMA||",
    "GREEK YPOGEGRAMMENI|GREEK SMALL REVERSED LUNATE SIGMA SYMBOL",
    "GREEK SMALL DOTTED LUNATE SIGMA SYMBOL|GREEK SMALL REVERSED DOTTED LUNATE SIGMA SYMBOL",
    "GREEK QUESTION MARK|GREEK CAPITAL LETTER YOT"]),
  (900, [
    "GREEK TONOS|GREEK DIALYTIKA TONOS|GREEK CAPITAL LETTER ALPHA WITH TONOS",
    "GREEK ANO TELEIA|GREEK CAPITAL LETTER EPSILON WITH TONOS",
    "GREEK CAPITAL LETTER ETA WITH TONOS|GREEK CAPITAL LETTER IOTA WITH TONOS|",
    "GREEK CAPITAL LETTER OMICRON WITH TONOS||GREEK CAPITAL LETTER UPSILON WITH TONOS",
    "GREEK CAPITAL LETTER OMEGA WITH TONOS|GREEK SMALL LETTER IOTA WITH DIALYTIKA AND TONOS",
    "GREEK CAPITAL LETTER ALPHA|GREEK CAPITAL LETTER BETA|GREEK CAPITAL LETTER GAMMA",
    "GREEK CAPITAL LETTER DELTA|GREEK CAPITAL LETTER EPSILON|GREEK CAPITAL LETTER ZETA",
    "GREEK CAPITAL LETTER ETA|GREEK CAPITAL LETTER THETA|GREEK CAPITAL LETTER IOTA",
    "GREEK CAPITAL LETTER KAPPA|GREEK CAPITAL LETTER LAMDA|GREEK CAPITAL LETTER MU",
    "GREEK CAPITAL LETTER NU|GREEK CAPITAL LETTER XI|GREEK CAPITAL LETTER OMICRON",
    "GREEK CAPITAL LETTER PI|GREEK CAPITAL LETTER RHO||GREEK CAPITAL LETTER SIGMA",
    "GREEK CAPITAL LETTER TAU|GREEK CAPITAL LETTER UPSILON|GREEK CAPITAL LETTER PHI",
    "GREEK CAPITAL LETTER CHI|GREEK CAPITAL LETTER PSI|GREEK CAPITAL LETTER OMEGA",
    "GREEK CAPITAL LETTER IOTA WITH DIALYTIKA|GREEK CAPITAL LETTER UPSILON WITH DIALYTIKA",
    "GREEK SMALL LETTER ALPHA WITH TONOS|GREEK SMALL LETTER EPSILON WITH TONOS",
    "GREEK SMALL LETTER ETA WITH TONOS|GREEK SMALL LETTER IOTA WITH TONOS",
    "GREEK SMALL LETTER UPSILON WITH DIALYTIKA AND TONOS|GREEK SMALL LETTER ALPHA",
    "GREEK SMALL LETTER BETA|GREEK SMALL LETTER GAMMA|GREEK SMALL LETTER DELTA",
    "GREEK SMALL LETTER EPSILON|GREEK SMALL LETTER ZETA|GREEK SMALL LETTER ETA",
    "GREEK SMALL LETTER THETA|GREEK SMALL LETTER IOTA|GREEK SMALL LETTER KAPPA",
    "GREEK SMALL LETTER LAMDA|GREEK SMALL LETTER MU|GREEK SMALL LETTER NU",
    "GREEK SMALL LETTER XI|GREEK SMALL LETTER OMICRON|GREEK SMALL LETTER PI",
    "GREEK SMALL LETTER RHO|GREEK SMALL LETTER FINAL SIGMA|GREEK SMALL LETTER SIGMA",
    "GREEK SMALL LETTER TAU|GREEK SMALL LETTER UPSILON|GREEK SMALL LETTER PHI",
    "GREEK SMALL LETTER CHI|GREEK SMALL LETTER PSI|GREEK SMALL LETTER OMEGA",
    "GREEK SMALL LETTER IOTA WITH DIALYTIKA|GREEK SMALL LETTER UPSILON WITH DIALYTIKA",
    "GREEK SMALL LETTER OMICRON WITH TONOS|GREEK SMALL LETTER UPSILON WITH TONOS",
    "GREEK SMALL LETTER OMEGA WITH TONOS|GREEK CAPITAL KAI SYMBOL|GREEK BETA SYMBOL",
    "GREEK THETA SYMBOL|GREEK UPSILON WITH HOOK SYMBOL",
    "GREEK UPSILON WITH ACUTE AND HOOK SYMBOL|GREEK UPSILON WITH DIAERESIS AND HOOK SYMBOL",
    "GREEK PHI SYMBOL|GREEK PI SYMBOL|GREEK KAI SYMBOL|GREEK LETTER ARCHAIC KOPPA",
    "GREEK SMALL LETTER ARCHAIC KOPPA|GREEK LETTER STIGMA|GREEK SMALL LETTER STIGMA",
    "GREEK LETTER DIGAMMA|GREEK SMALL LETTER DIGAMMA|GREEK LETTER KOPPA",
    "GREEK SMALL LETTER KOPPA|GREEK LETTER SAMPI|GREEK SMALL LETTER SAMPI",
    "COPTIC CAPITAL LETTER SHEI|COPTIC SMALL LETTER SHEI|COPTIC CAPITAL LETTER FEI",
    "COPTIC SMALL LETTER FEI|COPTIC CAPITAL LETTER KHEI|COPTIC SMALL LETTER KHEI",
    "COPTIC CAPITAL LETTER HORI|COPTIC SMALL LETTER HORI|COPTIC CAPITAL LETTER GANGIA",
    "COPTIC SMALL LETTER GANGIA|COPTIC CAPITAL LETTER SHIMA|COPTIC SMALL LETTER SHIMA",
    "COPTIC CAPITAL LETTER DEI|COPTIC SMALL LETTER DEI|GREEK KAPPA SYMBOL|GREEK RHO SYMBOL",
    "GREEK LUNATE SIGMA SYMBOL|GREEK LETTER YOT|GREEK CAPITAL THETA SYMBOL",
    "GREEK LUNATE EPSILON SYMBOL|GREEK REVERSED LUNATE EPSILON SYMBOL",
    "GREEK CAPITAL LETTER SHO|GREEK SMALL LETTER SHO|GREEK CAPITAL LUNATE SIGMA SYMBOL",
    "GREEK CAPITAL LETTER SAN|GREEK SMALL LETTER SAN|GREEK RHO WITH STROKE SYMBOL",
    "GREEK CAPITAL REVERSED LUNATE SIGMA SYMBOL|GREEK CAPITAL DOTTED LUNATE SIGMA SYMBOL",
    "GREEK CAPITAL REVERSED DOTTED LUNATE SIGMA SYMBOL|CYRILLIC CAPITAL LETTER IE WITH GRAVE",
    "CYRILLIC CAPITAL LETTER IO|CYRILLIC CAPITAL LETTER DJE|CYRILLIC CAPITAL LETTER GJE",
    "CYRILLIC CAPITAL LETTER UKRAINIAN IE|CYRILLIC CAPITAL LETTER DZE",
    "CYRILLIC CAPITAL LETTER BYELORUSSIAN-UKRAINIAN I|CYRILLIC CAPITAL LETTER YI",
    "CYRILLIC CAPITAL LETTER JE|CYRILLIC CAPITAL LETTER LJE|CYRILLIC CAPITAL LETTER NJE",
    "CYRILLIC CAPITAL LETTER TSHE|CYRILLIC CAPITAL LETTER KJE",
    "CYRILLIC CAPITAL LETTER I WITH GRAVE|CYRILLIC CAPITAL LETTER SHORT U",
    "CYRILLIC CAPITAL LETTER DZHE|CYRILLIC CAPITAL LETTER A|CYRILLIC CAPITAL LETTER BE",
    "CYRILLIC CAPITAL LETTER VE|CYRILLIC CAPITAL LETTER GHE|CYRILLIC CAPITAL LETTER DE",
    "CYRILLIC CAPITAL LETTER IE|CYRILLIC CAPITAL LETTER ZHE|CYRILLIC CAPITAL LETTER ZE",
    "CYRILLIC CAPITAL LETTER I|CYRILLIC CAPITAL LETTER SHORT I|CYRILLIC CAPITAL LETTER KA",
    "CYRILLIC CAPITAL LETTER EL|CYRILLIC CAPITAL LETTER EM|CYRILLIC CAPITAL LETTER EN",
    "CYRILLIC CAPITAL LETTER O|CYRILLIC CAPITAL LETTER PE|CYRILLIC CAPITAL LETTER ER",
    "CYRILLIC CAPITAL LETTER ES|CYRILLIC CAPITAL LETTER TE|CYRILLIC CAPITAL LETTER U",
    "CYRILLIC CAPITAL LETTER EF|CYRILLIC CAPITAL LETTER HA|CYRILLIC CAPITAL LETTER TSE",
    "CYRILLIC CAPITAL LETTER CHE|CYRILLIC CAPITAL LETTER SHA|CYRILLIC CAPITAL LETTER SHCHA",
    "CYRILLIC CAPITAL LETTER HARD SIGN|CYRILLIC CAPITAL LETTER YERU",
    "CYRILLIC CAPITAL LETTER SOFT SIGN|CYRILLIC CAPITAL LETTER E|CYRILLIC CAPITAL LETTER YU",
    "CYRILLIC CAPITAL LETTER YA|CYRILLIC SMALL LETTER A|CYRILLIC SMALL LETTER BE",
    "CYRILLIC SMALL LETTER VE|CYRILLIC SMALL LETTER GHE|CYRILLIC SMALL LETTER DE",
    "CYRILLIC SMALL LETTER IE|CYRILLIC SMALL LETTER ZHE|CYRILLIC SMALL LETTER ZE",
    "CYRILLIC SMALL LETTER I|CYRILLIC SMALL LETTER SHORT I|CYRILLIC SMALL LETTER KA",
    "CYRILLIC SMALL LETTER EL|CYRILLIC SMALL LETTER EM|CYRILLIC SMALL LETTER EN",
    "CYRILLIC SMALL LETTER O|CYRILLIC SMALL LETTER PE|CYRILLIC SMALL LETTER ER",
    "CYRILLIC SMALL LETTER ES|CYRILLIC SMALL LETTER TE|CYRILLIC SMALL LETTER U",
    "CYRILLIC SMALL LETTER EF|CYRILLIC SMALL LETTER HA|CYRILLIC SMALL LETTER TSE",
    "CYRILLIC SMALL LETTER CHE|CYRILLIC SMALL LETTER SHA|CYRILLIC SMALL LETTER SHCHA",
    "CYRILLIC SMALL LETTER HARD SIGN|CYRILLIC SMALL LETTER YERU",
    "CYRILLIC SMALL LETTER SOFT SIGN|CYRILLIC SMALL LETTER E|CYRILLIC SMALL LETTER YU",
    "CYRILLIC SMALL LETTER YA|CYRILLIC SMALL LETTER IE WITH GRAVE|CYRILLIC SMALL LETTER IO",
    "CYRILLIC SMALL LETTER DJE|CYRILLIC SMALL LETTER GJE|CYRILLIC SMALL LETTER UKRAINIAN IE",
    "CYRILLIC SMALL LETTER DZE|CYRILLIC SMALL LETTER BYELORUSSIAN-UKRAINIAN I",
    "CYRILLIC SMALL LETTER YI|CYRILLIC SMALL LETTER JE|CYRILLIC SMALL LETTER LJE",
    "CYRILLIC SMALL LETTER NJE|CYRILLIC SMALL LETTER TSHE|CYRILLIC SMALL LETTER KJE",
    "CYRILLIC SMALL LETTER I WITH GRAVE|CYRILLIC SMALL LETTER SHORT U",
    "CYRILLIC SMALL LETTER DZHE"]),
  (1632, [
    "ARABIC-INDIC DIGIT ZERO|ARABIC-INDIC DIGIT ONE|ARABIC-INDIC DIGIT TWO",
    "ARABIC-INDIC DIGIT THREE|ARABIC-INDIC DIGIT FOUR|ARABIC-INDIC DIGIT FIVE",
    "ARABIC-INDIC DIGIT SIX|ARABIC-INDIC DIGIT SEVEN|ARABIC-INDIC DIGIT EIGHT",
    "ARABIC-INDIC DIGIT NINE"]),
  (1776, [
    "EXTENDED ARABIC-INDIC DIGIT ZERO|EXTENDED ARABIC-INDIC DIGIT ONE",
    "EXTENDED ARABIC-INDIC DIGIT TWO|EXTENDED ARABIC-INDIC DIGIT THREE",
    "EXTENDED ARABIC-INDIC DIGIT FOUR|EXTENDED ARABIC-INDIC DIGIT FIVE",
    "EXTENDED ARABIC-INDIC DIGIT SIX|EXTENDED ARABIC-INDIC DIGIT SEVEN",
    "EXTENDED ARABIC-INDIC DIGIT EIGHT|EXTENDED ARABIC-INDIC DIGIT NINE"]),
  (2406, [
    "DEVANAGARI DIGIT ZERO|DEVANAGARI DIGIT ONE|DEVANAGARI DIGIT TWO|DEVANAGARI DIGIT THREE",
    "DEVANAGARI DIGIT FOUR|DEVANAGARI DIGIT FIVE|DEVANAGARI DIGIT SIX|DEVANAGARI DIGIT SEVEN",
    "DEVANAGARI DIGIT EIGHT|DEVANAGARI DIGIT NINE"]),
  (7838, [
    "LATIN CAPITAL LETTER SHARP S"]),
  (8192, [
    "EN QUAD|EM QUAD|EN SPACE|EM SPACE|THREE-PER-EM SPACE|FOUR-PER-EM SPACE|SIX-PER-EM SPACE",
    "FIGURE SPACE|PUNCTUATION SPACE|THIN SPACE|HAIR SPACE|ZERO WIDTH SPACE",
    "ZERO WIDTH NON-JOINER|ZERO WIDTH JOINER|LEFT-TO-RIGHT MARK|RIGHT-TO-LEFT MARK|HYPHEN",
    "NON-BREAKING HYPHEN|FIGURE DASH|EN DASH|EM DASH|HORIZONTAL BAR|DOUBLE VERTICAL LINE",
    "DOUBLE LOW LINE|LEFT SINGLE QUOTATION MARK|RIGHT SINGLE QUOTATION MARK",
    "SINGLE LOW-9 QUOTATION MARK|SINGLE HIGH-REVERSED-9 QUOTATION MARK",
    "LEFT DOUBLE QUOTATION MARK|RIGHT DOUBLE QUOTATION MARK|DOUBLE LOW-9 QUOTATION MARK",
    "DOUBLE HIGH-REVERSED-9 QUOTATION MARK|DAGGER|DOUBLE DAGGER|BULLET|TRIANGULAR BULLET",
    "ONE DOT LEADER|TWO DOT LEADER|HORIZONTAL ELLIPSIS|HYPHENATION POINT|LINE SEPARATOR",
    "PARAGRAPH SEPARATOR|LEFT-TO-RIGHT EMBEDDING|RIGHT-TO-LEFT EMBEDDING",
    "POP DIRECTIONAL FORMATTING|LEFT-TO-RIGHT OVERRIDE|RIGHT-TO-LEFT OVERRIDE",
    "NARROW NO-BREAK SPACE|PER MILLE SIGN|PER TEN THOUSAND SIGN|PRIME|DOUBLE PRIME",
    "TRIPLE PRIME|REVERSED PRIME|REVERSED DOUBLE PRIME|REVERSED TRIPLE PRIME|CARET",
    "SINGLE LEFT-POINTING ANGLE QUOTATION MARK|SINGLE RIGHT-POINTING ANGLE QUOTATION MARK",
    "REFERENCE MARK|DOUBLE EXCLAMATION MARK|INTERROBANG|OVERLINE|UNDERTIE|CHARACTER TIE",
    "CARET INSERTION POINT|ASTERISM|HYPHEN BULLET|FRACTION SLASH",
    "LEFT SQUARE BRACKET WITH QUILL|RIGHT SQUARE BRACKET WITH QUILL|DOUBLE QUESTION MARK",
    "QUESTION EXCLAMATION MARK|EXCLAMATION QUESTION MARK|TIRONIAN SIGN ET",
    "REVERSED PILCROW SIGN|BLACK LEFTWARDS BULLET|BLACK RIGHTWARDS BULLET|LOW ASTERISK",
    "REVERSED SEMICOLON|CLOSE UP|TWO ASTERISKS ALIGNED VERTICALLY|COMMERCIAL MINUS SIGN",
    "SWUNG DASH|INVERTED UNDERTIE|FLOWER PUNCTUATION MARK|THREE DOT PUNCTUATION",
    "QUADRUPLE PRIME|FOUR DOT PUNCTUATION|FIVE DOT PUNCTUATION|TWO DOT PUNCTUATION",
    "FOUR DOT MARK|DOTTED CROSS|TRICOLON|VERTICAL FOUR DOTS|MEDIUM MATHEMATICAL SPACE",
    "WORD JOINER|FUNCTION APPLICATION|INVISIBLE TIMES|INVISIBLE SEPARATOR|INVISIBLE PLUS|",
    "LEFT-TO-RIGHT ISOLATE|RIGHT-TO-LEFT ISOLATE|FIRST STRONG ISOLATE",
    "POP DIRECTIONAL ISOLATE|INHIBIT SYMMETRIC SWAPPING|ACTIVATE SYMMETRIC SWAPPING",
    "INHIBIT ARABIC FORM SHAPING|ACTIVATE ARABIC FORM SHAPING|NATIONAL DIGIT SHAPES",
    "NOMINAL DIGIT SHAPES"]),
  (8352, [
    "EURO-CURRENCY SIGN|COLON SIGN|CRUZEIRO SIGN|FRENCH FRANC SIGN|LIRA SIGN|MILL SIGN",
    "NAIRA SIGN|PESETA SIGN|RUPEE SIGN|WON SIGN|NEW SHEQEL SIGN|DONG SIGN|EURO SIGN|KIP SIGN",
    "TUGRIK SIGN|DRACHMA SIGN|GERMAN PENNY SIGN|PESO SIGN|GUARANI SIGN|AUSTRAL SIGN",
    "HRYVNIA SIGN|CEDI SIGN|LIVRE TOURNOIS SIGN|SPESMILO SIGN|TENGE SIGN|INDIAN RUPEE SIGN",
    "TURKISH LIRA SIGN|NORDIC MARK SIGN|MANAT SIGN|RUBLE SIGN|LARI SIGN|BITCOIN SIGN"]),
  (8448, [
    "ACCOUNT OF|ADDRESSED TO THE SUBJECT|DOUBLE-STRUCK CAPITAL C|DEGREE CELSIUS",
    "CENTRE LINE SYMBOL|CARE OF|CADA UNA|EULER CONSTANT|SCRUPLE|DEGREE FAHRENHEIT",
    "SCRIPT SMALL G|SCRIPT CAPITAL H|BLACK-LETTER CAPITAL H|DOUBLE-STRUCK CAPITAL H",
    "PLANCK CONSTANT|PLANCK CONSTANT OVER TWO PI|SCRIPT CAPITAL I|BLACK-LETTER CAPITAL I",
    "SCRIPT CAPITAL L|SCRIPT SMALL L|L B BAR SYMBOL|DOUBLE-STRUCK CAPITAL N|NUMERO SIGN",
    "SOUND RECORDING COPYRIGHT|SCRIPT CAPITAL P|DOUBLE-STRUCK CAPITAL P",
    "DOUBLE-STRUCK CAPITAL Q|SCRIPT CAPITAL R|BLACK-LETTER CAPITAL R|DOUBLE-STRUCK CAPITAL R",
    "PRESCRIPTION TAKE|RESPONSE|SERVICE MARK|TELEPHONE SIGN|TRADE MARK SIGN|VERSICLE",
    "DOUBLE-STRUCK CAPITAL Z|OUNCE SIGN|OHM SIGN|INVERTED OHM SIGN|BLACK-LETTER CAPITAL Z",
    "TURNED GREEK SMALL LETTER IOTA|KELVIN SIGN|ANGSTROM SIGN|SCRIPT CAPITAL B",
    "BLACK-LETTER CAPITAL C|ESTIMATED SYMBOL|SCRIPT SMALL E|SCRIPT CAPITAL E",
    "SCRIPT CAPITAL F|TURNED CAPITAL F|SCRIPT CAPITAL M|SCRIPT SMALL O|ALEF SYMBOL",
    "BET SYMBOL|GIMEL SYMBOL|DALET SYMBOL|INFORMATION SOURCE|ROTATED CAPITAL Q",
    "FACSIMILE SIGN|DOUBLE-STRUCK SMALL PI|DOUBLE-STRUCK SMALL GAMMA",
    "DOUBLE-STRUCK CAPITAL GAMMA|DOUBLE-STRUCK CAPITAL PI|DOUBLE-STRUCK N-ARY SUMMATION",
    "TURNED SANS-SERIF CAPITAL G|TURNED SANS-SERIF CAPITAL L|REVERSED SANS-SERIF CAPITAL L",
    "TURNED SANS-SERIF CAPITAL Y|DOUBLE-STRUCK ITALIC CAPITAL D|DOUBLE-STRUCK ITALIC SMALL D",
    "DOUBLE-STRUCK ITALIC SMALL E|DOUBLE-STRUCK ITALIC SMALL I|DOUBLE-STRUCK ITALIC SMALL J",
    "PROPERTY LINE|TURNED AMPERSAND|PER SIGN|AKTIESELSKAB|TURNED SMALL F",
    "SYMBOL FOR SAMARITAN SOURCE"]),
  (8592, [
    "LEFTWARDS ARROW|UPWARDS ARROW|RIGHTWARDS ARROW|DOWNWARDS ARROW|LEFT RIGHT ARROW",
    "UP DOWN ARROW|NORTH WEST ARROW|NORTH EAST ARROW|SOUTH EAST ARROW|SOUTH WEST ARROW",
    "LEFTWARDS ARROW WITH STROKE|RIGHTWARDS ARROW WITH STROKE|LEFTWARDS WAVE ARROW",
    "RIGHTWARDS WAVE ARROW|LEFTWARDS TWO HEADED ARROW|UPWARDS TWO HEADED ARROW",
    "RIGHTWARDS TWO HEADED ARROW|DOWNWARDS TWO HEADED ARROW|LEFTWARDS ARROW WITH TAIL",
    "RIGHTWARDS ARROW WITH TAIL|LEFTWARDS ARROW FROM BAR|UPWARDS ARROW FROM BAR",
    "RIGHTWARDS ARROW FROM BAR|DOWNWARDS ARROW FROM BAR|UP DOWN ARROW WITH BASE",
    "LEFTWARDS ARROW WITH HOOK|RIGHTWARDS ARROW WITH HOOK|LEFTWARDS ARROW WITH LOOP",
    "RIGHTWARDS ARROW WITH LOOP|LEFT RIGHT WAVE ARROW|LEFT RIGHT ARROW WITH STROKE",
    "DOWNWARDS ZIGZAG ARROW|UPWARDS ARROW WITH TIP LEFTWARDS",
    "UPWARDS ARROW WITH TIP RIGHTWARDS|DOWNWARDS ARROW WITH TIP LEFTWARDS",
    "DOWNWARDS ARROW WITH TIP RIGHTWARDS|RIGHTWARDS ARROW WITH CORNER DOWNWARDS",
    "DOWNWARDS ARROW WITH CORNER LEFTWARDS|ANTICLOCKWISE TOP SEMICIRCLE ARROW",
    "CLOCKWISE TOP SEMICIRCLE ARROW|NORTH WEST ARROW TO LONG BAR",
    "LEFTWARDS ARROW TO BAR OVER RIGHTWARDS ARROW TO BAR|ANTICLOCKWISE OPEN CIRCLE ARROW",
    "CLOCKWISE OPEN CIRCLE ARROW|LEFTWARDS HARPOON WITH BARB UPWARDS",
    "LEFTWARDS HARPOON WITH BARB DOWNWARDS|UPWARDS HARPOON WITH BARB RIGHTWARDS",
    "UPWARDS HARPOON WITH BARB LEFTWARDS|RIGHTWARDS HARPOON WITH BARB UPWARDS",
    "RIGHTWARDS HARPOON WITH BARB DOWNWARDS|DOWNWARDS HARPOON WITH BARB RIGHTWARDS",
    "DOWNWARDS HARPOON WITH BARB LEFTWARDS|RIGHTWARDS ARROW OVER LEFTWARDS ARROW",
    "UPWARDS ARROW LEFTWARDS OF DOWNWARDS ARROW|LEFTWARDS ARROW OVER RIGHTWARDS ARROW",
    "LEFTWARDS PAIRED ARROWS|UPWARDS PAIRED ARROWS|RIGHTWARDS PAIRED ARROWS",
    "DOWNWARDS PAIRED ARROWS|LEFTWARDS HARPOON OVER RIGHTWARDS HARPOON",
    "RIGHTWARDS HARPOON OVER LEFTWARDS HARPOON|LEFTWARDS DOUBLE ARROW WITH STROKE",
    "LEFT RIGHT DOUBLE ARROW WITH STROKE|RIGHTWARDS DOUBLE ARROW WITH STROKE",
    "LEFTWARDS DOUBLE ARROW|UPWARDS DOUBLE ARROW|RIGHTWARDS DOUBLE ARROW",
    "DOWNWARDS DOUBLE ARROW|LEFT RIGHT DOUBLE ARROW|UP DOWN DOUBLE ARROW",
    "NORTH WEST DOUBLE ARROW|NORTH EAST DOUBLE ARROW|SOUTH EAST DOUBLE ARROW",
    "SOUTH WEST DOUBLE ARROW|LEFTWARDS TRIPLE ARROW|RIGHTWARDS TRIPLE ARROW",
    "LEFTWARDS SQUIGGLE ARROW|RIGHTWARDS SQUIGGLE ARROW|UPWARDS ARROW WITH DOUBLE STROKE",
    "DOWNWARDS ARROW WITH DOUBLE STROKE|LEFTWARDS DASHED ARROW|UPWARDS DASHED ARROW",
    "RIGHTWARDS DASHED ARROW|DOWNWARDS DASHED ARROW|LEFTWARDS ARROW TO BAR",
    "RIGHTWARDS ARROW TO BAR|LEFTWARDS WHITE ARROW|UPWARDS WHITE ARROW",
    "RIGHTWARDS WHITE ARROW|DOWNWARDS WHITE ARROW|UPWARDS WHITE ARROW FROM BAR",
    "UPWARDS WHITE ARROW ON PEDESTAL|UPWARDS WHITE ARROW ON PEDESTAL WITH HORIZONTAL BAR",
    "UPWARDS WHITE ARROW ON PEDESTAL WITH VERTICAL BAR|UPWARDS WHITE DOUBLE ARROW",
    "UPWARDS WHITE DOUBLE ARROW ON PEDESTAL|RIGHTWARDS WHITE ARROW FROM WALL",
    "NORTH WEST ARROW TO CORNER|SOUTH EAST ARROW TO CORNER|UP DOWN WHITE ARROW",
    "RIGHT ARROW WITH SMALL CIRCLE|DOWNWARDS ARROW LEFTWARDS OF UPWARDS ARROW",
    "THREE RIGHTWARDS ARROWS|LEFTWARDS ARROW WITH VERTICAL STROKE",
    "RIGHTWARDS ARROW WITH VERTICAL STROKE|LEFT RIGHT ARROW WITH VERTICAL STROKE",
    "LEFTWARDS ARROW WITH DOUBLE VERTICAL STROKE",
    "RIGHTWARDS ARROW WITH DOUBLE VERTICAL STROKE",
    "LEFT RIGHT ARROW WITH DOUBLE VERTICAL STROKE|LEFTWARDS OPEN-HEADED ARROW",
    "RIGHTWARDS OPEN-HEADED ARROW|LEFT RIGHT OPEN-HEADED ARROW|FOR ALL|COMPLEMENT",
    "PARTIAL DIFFERENTIAL|THERE EXISTS|THERE DOES NOT EXIST|EMPTY SET|INCREMENT|NABLA",
    "ELEMENT OF|NOT AN ELEMENT OF|SMALL ELEMENT OF|CONTAINS AS MEMBER",
    "DOES NOT CONTAIN AS MEMBER|SMALL CONTAINS AS MEMBER|END OF PROOF|N-ARY PRODUCT",
    "N-ARY COPRODUCT|N-ARY SUMMATION|MINUS SIGN|MINUS-OR-PLUS SIGN|DOT PLUS|DIVISION SLASH",
    "SET MINUS|ASTERISK OPERATOR|RING OPERATOR|BULLET OPERATOR|SQUARE ROOT|CUBE ROOT",
    "FOURTH ROOT|PROPORTIONAL TO|INFINITY|RIGHT ANGLE|ANGLE|MEASURED ANGLE|SPHERICAL ANGLE",
    "DIVIDES|DOES NOT DIVIDE|PARALLEL TO|NOT PARALLEL TO|LOGICAL AND|LOGICAL OR|INTERSECTION",
    "UNION|INTEGRAL|DOUBLE INTEGRAL|TRIPLE INTEGRAL|CONTOUR INTEGRAL|SURFACE INTEGRAL",
    "VOLUME INTEGRAL|CLOCKWISE INTEGRAL|CLOCKWISE CONTOUR INTEGRAL",
    "ANTICLOCKWISE CONTOUR INTEGRAL|THEREFORE|BECAUSE|RATIO|PROPORTION|DOT MINUS|EXCESS",
    "GEOMETRIC PROPORTION|HOMOTHETIC|TILDE OPERATOR|REVERSED TILDE|INVERTED LAZY S|SINE WAVE",
    "WREATH PRODUCT|NOT TILDE|MINUS TILDE|ASYMPTOTICALLY EQUAL TO",
    "NOT ASYMPTOTICALLY EQUAL TO|APPROXIMATELY EQUAL TO",
    "APPROXIMATELY BUT NOT ACTUALLY EQUAL TO|NEITHER APPROXIMATELY NOR ACTUALLY EQUAL TO",
    "ALMOST EQUAL TO|NOT ALMOST EQUAL TO|ALMOST EQUAL OR EQUAL TO|TRIPLE TILDE|ALL EQUAL TO",
    "EQUIVALENT TO|GEOMETRICALLY EQUIVALENT TO|DIFFERENCE BETWEEN|APPROACHES THE LIMIT",
    "GEOMETRICALLY EQUAL TO|APPROXIMATELY EQUAL TO OR THE IMAGE OF",
    "IMAGE OF OR APPROXIMATELY EQUAL TO|COLON EQUALS|EQUALS COLON|RING IN EQUAL TO",
    "RING EQUAL TO|CORRESPONDS TO|ESTIMATES|EQUIANGULAR TO|STAR EQUALS|DELTA EQUAL TO",
    "EQUAL TO BY DEFINITION|MEASURED BY|QUESTIONED EQUAL TO|NOT EQUAL TO|IDENTICAL TO",
    "NOT IDENTICAL TO|STRICTLY EQUIVALENT TO|LESS-THAN OR EQUAL TO|GREATER-THAN OR EQUAL TO",
    "LESS-THAN OVER EQUAL TO|GREATER-THAN OVER EQUAL TO|LESS-THAN BUT NOT EQUAL TO",
    "GREATER-THAN BUT NOT EQUAL TO|MUCH LESS-THAN|MUCH GREATER-THAN|BETWEEN",
    "NOT EQUIVALENT TO|NOT LESS-THAN|NOT GREATER-THAN|NEITHER LESS-THAN NOR EQUAL TO",
    "NEITHER GREATER-THAN NOR EQUAL TO|LESS-THAN OR EQUIVALENT TO",
    "GREATER-THAN OR EQUIVALENT TO|NEITHER LESS-THAN NOR EQUIVALENT TO",
    "NEITHER GREATER-THAN NOR EQUIVALENT TO|LESS-THAN OR GREATER-THAN",
    "GREATER-THAN OR LESS-THAN|NEITHER LESS-THAN NOR GREATER-THAN",
    "NEITHER GREATER-THAN NOR LESS-THAN|PRECEDES|SUCCEEDS|PRECEDES OR EQUAL TO",
    "SUCCEEDS OR EQUAL TO|PRECEDES OR EQUIVALENT TO|SUCCEEDS OR EQUIVALENT TO",
    "DOES NOT PRECEDE|DOES NOT SUCCEED|SUBSET OF|SUPERSET OF|NOT A SUBSET OF",
    "NOT A SUPERSET OF|SUBSET OF OR EQUAL TO|SUPERSET OF OR EQUAL TO",
    "NEITHER A SUBSET OF NOR EQUAL TO|NEITHER A SUPERSET OF NOR EQUAL TO",
    "SUBSET OF WITH NOT EQUAL TO|SUPERSET OF WITH NOT EQUAL TO|MULTISET",
    "MULTISET MULTIPLICATION|MULTISET UNION|SQUARE IMAGE OF|SQUARE ORIGINAL OF",
    "SQUARE IMAGE OF OR EQUAL TO|SQUARE ORIGINAL OF OR EQUAL TO|SQUARE CAP|SQUARE CUP",
    "CIRCLED PLUS|CIRCLED MINUS|CIRCLED TIMES|CIRCLED DIVISION SLASH|CIRCLED DOT OPERATOR",
    "CIRCLED RING OPERATOR|CIRCLED ASTERISK OPERATOR|CIRCLED EQUALS|CIRCLED DASH",
    "SQUARED PLUS|SQUARED MINUS|SQUARED TIMES|SQUARED DOT OPERATOR|RIGHT TACK|LEFT TACK",
    "DOWN TACK|UP TACK|ASSERTION|MODELS|TRUE|FORCES|TRIPLE VERTICAL BAR RIGHT TURNSTILE",
    "DOUBLE VERTICAL BAR DOUBLE RIGHT TURNSTILE|DOES NOT PROVE|NOT TRUE|DOES NOT FORCE",
    "NEGATED DOUBLE VERTICAL BAR DOUBLE RIGHT TURNSTILE|PRECEDES UNDER RELATION",
    "SUCCEEDS UNDER RELATION|NORMAL SUBGROUP OF|CONTAINS AS NORMAL SUBGROUP",
    "NORMAL SUBGROUP OF OR EQUAL TO|CONTAINS AS NORMAL SUBGROUP OR EQUAL TO|ORIGINAL OF",
    "IMAGE OF|MULTIMAP|HERMITIAN CONJUGATE MATRIX|INTERCALATE|XOR|NAND|NOR",
    "RIGHT ANGLE WITH ARC|RIGHT TRIANGLE|N-ARY LOGICAL AND|N-ARY LOGICAL OR",
    "N-ARY INTERSECTION|N-ARY UNION|DIAMOND OPERATOR|DOT OPERATOR|STAR OPERATOR",
    "DIVISION TIMES|BOWTIE|LEFT NORMAL FACTOR SEMIDIRECT PRODUCT",
    "RIGHT NORMAL FACTOR SEMIDIRECT PRODUCT|LEFT SEMIDIRECT PRODUCT|RIGHT SEMIDIRECT PRODUCT",
    "REVERSED TILDE EQUALS|CURLY LOGICAL OR|CURLY LOGICAL AND|DOUBLE SUBSET|DOUBLE SUPERSET",
    "DOUBLE INTERSECTION|DOUBLE UNION|PITCHFORK|EQUAL AND PARALLEL TO|LESS-THAN WITH DOT",
    "GREATER-THAN WITH DOT|VERY MUCH LESS-THAN|VERY MUCH GREATER-THAN",
    "LESS-THAN EQUAL TO OR GREATER-THAN|GREATER-THAN EQUAL TO OR LESS-THAN",
    "EQUAL TO OR LESS-THAN|EQUAL TO OR GREATER-THAN|EQUAL TO OR PRECEDES",
    "EQUAL TO OR SUCCEEDS|DOES NOT PRECEDE OR EQUAL|DOES NOT SUCCEED OR EQUAL",
    "NOT SQUARE IMAGE OF OR EQUAL TO|NOT SQUARE ORIGINAL OF OR EQUAL TO",
    "SQUARE IMAGE OF OR NOT EQUAL TO|SQUARE ORIGINAL OF OR NOT EQUAL TO",
    "LESS-THAN BUT NOT EQUIVALENT TO|GREATER-THAN BUT NOT EQUIVALENT TO",
    "PRECEDES BUT NOT EQUIVALENT TO|SUCCEEDS BUT NOT EQUIVALENT TO|NOT NORMAL SUBGROUP OF",
    "DOES NOT CONTAIN AS NORMAL SUBGROUP|NOT NORMAL SUBGROUP OF OR EQUAL TO",
    "DOES NOT CONTAIN AS NORMAL SUBGROUP OR EQUAL|VERTICAL ELLIPSIS",
    "MIDLINE HORIZONTAL ELLIPSIS|UP RIGHT DIAGONAL ELLIPSIS|DOWN RIGHT DIAGONAL ELLIPSIS",
    "ELEMENT OF WITH LONG HORIZONTAL STROKE",
    "ELEMENT OF WITH VERTICAL BAR AT END OF HORIZONTAL STROKE",
    "SMALL ELEMENT OF WITH VERTICAL BAR AT END OF HORIZONTAL STROKE",
    "ELEMENT OF WITH DOT ABOVE|ELEMENT OF WITH OVERBAR|SMALL ELEMENT OF WITH OVERBAR",
    "ELEMENT OF WITH UNDERBAR|ELEMENT OF WITH TWO HORIZONTAL STROKES",
    "CONTAINS WITH LONG HORIZONTAL STROKE",
    "CONTAINS WITH VERTICAL BAR AT END OF HORIZONTAL STROKE",
    "SMALL CONTAINS WITH VERTICAL BAR AT END OF HORIZONTAL STROKE|CONTAINS WITH OVERBAR",
    "SMALL CONTAINS WITH OVERBAR|Z NOTATION BAG MEMBERSHIP"]),
  (9632, [
    "BLACK SQUARE|WHITE SQUARE|WHITE SQUARE WITH ROUNDED CORNERS",
    "WHITE SQUARE CONTAINING BLACK SMALL SQUARE|SQUARE WITH HORIZONTAL FILL",
    "SQUARE WITH VERTICAL FILL|SQUARE WITH ORTHOGONAL CROSSHATCH FILL",
    "SQUARE WITH UPPER LEFT TO LOWER RIGHT FILL|SQUARE WITH UPPER RIGHT TO LOWER LEFT FILL",
    "SQUARE WITH DIAGONAL CROSSHATCH FILL|BLACK SMALL SQUARE|WHITE SMALL SQUARE",
    "BLACK RECTANGLE|WHITE RECTANGLE|BLACK VERTICAL RECTANGLE|WHITE VERTICAL RECTANGLE",
    "BLACK PARALLELOGRAM|WHITE PARALLELOGRAM|BLACK UP-POINTING TRIANGLE",
    "WHITE UP-POINTING TRIANGLE|BLACK UP-POINTING SMALL TRIANGLE",
    "WHITE UP-POINTING SMALL TRIANGLE|BLACK RIGHT-POINTING TRIANGLE",
    "WHITE RIGHT-POINTING TRIANGLE|BLACK RIGHT-POINTING SMALL TRIANGLE",
    "WHITE RIGHT-POINTING SMALL TRIANGLE|BLACK RIGHT-POINTING POINTER",
    "WHITE RIGHT-POINTING POINTER|BLACK DOWN-POINTING TRIANGLE|WHITE DOWN-POINTING TRIANGLE",
    "BLACK DOWN-POINTING SMALL TRIANGLE|WHITE DOWN-POINTING SMALL TRIANGLE",
    "BLACK LEFT-POINTING TRIANGLE|WHITE LEFT-POINTING TRIANGLE",
    "BLACK LEFT-POINTING SMALL TRIANGLE|WHITE LEFT-POINTING SMALL TRIANGLE",
    "BLACK LEFT-POINTING POINTER|WHITE LEFT-POINTING POINTER|BLACK DIAMOND|WHITE DIAMOND",
    "WHITE DIAMOND CONTAINING BLACK SMALL DIAMOND|FISHEYE|LOZENGE|WHITE CIRCLE|DOTTED CIRCLE",
    "CIRCLE WITH VERTICAL FILL|BULLSEYE|BLACK CIRCLE|CIRCLE WITH LEFT HALF BLACK",
    "CIRCLE WITH RIGHT HALF BLACK|CIRCLE WITH LOWER HALF BLACK|CIRCLE WITH UPPER HALF BLACK",
    "CIRCLE WITH UPPER RIGHT QUADRANT BLACK|CIRCLE WITH ALL BUT UPPER LEFT QUADRANT BLACK",
    "LEFT HALF BLACK CIRCLE|RIGHT HALF BLACK CIRCLE|INVERSE BULLET|INVERSE WHITE CIRCLE",
    "UPPER HALF INVERSE WHITE CIRCLE|LOWER HALF INVERSE WHITE CIRCLE",
    "UPPER LEFT QUADRANT CIRCULAR ARC|UPPER RIGHT QUADRANT CIRCULAR ARC",
    "LOWER RIGHT QUADRANT CIRCULAR ARC|LOWER LEFT QUADRANT CIRCULAR ARC|UPPER HALF CIRCLE",
    "LOWER HALF CIRCLE|BLACK LOWER RIGHT TRIANGLE|BLACK LOWER LEFT TRIANGLE",
    "BLACK UPPER LEFT TRIANGLE|BLACK UPPER RIGHT TRIANGLE|WHITE BULLET",
    "SQUARE WITH LEFT HALF BLACK|SQUARE WITH RIGHT HALF BLACK",
    "SQUARE WITH UPPER LEFT DIAGONAL HALF BLACK|SQUARE WITH LOWER RIGHT DIAGONAL HALF BLACK",
    "WHITE SQUARE WITH VERTICAL BISECTING LINE|WHITE UP-POINTING TRIANGLE WITH DOT",
    "UP-POINTING TRIANGLE WITH LEFT HALF BLACK|UP-POINTING TRIANGLE WITH RIGHT HALF BLACK",
    "LARGE CIRCLE|WHITE SQUARE WITH UPPER LEFT QUADRANT",
    "WHITE SQUARE WITH LOWER LEFT QUADRANT|WHITE SQUARE WITH LOWER RIGHT QUADRANT",
    "WHITE SQUARE WITH UPPER RIGHT QUADRANT|WHITE CIRCLE WITH UPPER LEFT QUADRANT",
    "WHITE CIRCLE WITH LOWER LEFT QUADRANT|WHITE CIRCLE WITH LOWER RIGHT QUADRANT",
    "WHITE CIRCLE WITH UPPER RIGHT QUADRANT|UPPER LEFT TRIANGLE|UPPER RIGHT TRIANGLE",
    "LOWER LEFT TRIANGLE|WHITE MEDIUM SQUARE|BLACK MEDIUM SQUARE|WHITE MEDIUM SMALL SQUARE",
    "BLACK MEDIUM SMALL SQUARE|LOWER RIGHT TRIANGLE|BLACK SUN WITH RAYS|CLOUD|UMBRELLA",
    "SNOWMAN|COMET|BLACK STAR|WHITE STAR|LIGHTNING|THUNDERSTORM|SUN|ASCENDING NODE",
    "DESCENDING NODE|CONJUNCTION|OPPOSITION|BLACK TELEPHONE|WHITE TELEPHONE|BALLOT BOX",
    "BALLOT BOX WITH CHECK"]),
  (9824, [
    "BLACK SPADE SUIT|WHITE HEART SUIT|WHITE DIAMOND SUIT|BLACK CLUB SUIT|WHITE SPADE SUIT",
    "BLACK HEART SUIT|BLACK DIAMOND SUIT|WHITE CLUB SUIT"]),
  (10003, [
    "CHECK MARK|HEAVY CHECK MARK|MULTIPLICATION X|HEAVY MULTIPLICATION X|BALLOT X",
    "HEAVY BALLOT X"]),
  (12288, [
    "IDEOGRAPHIC SPACE"]),
  (64256, [
    "LATIN SMALL LIGATURE FF|LATIN SMALL LIGATURE FI|LATIN SMALL LIGATURE FL",
    "LATIN SMALL LIGATURE FFI|LATIN SMALL LIGATURE FFL|LATIN SMALL LIGATURE LONG S T",
    "LATIN SMALL LIGATURE ST"]),
  (65279, [
    "BOM"]),
  (65533, [
    "REPLACEMENT CHARACTER"]),
  (127881, [
    "PARTY POPPER"]),
  (128293, [
    "FIRE"]),
  (128512, [
    "GRINNING FACE"]),
  (128640, [
    "ROCKET"])]

/-- Further names of characters. -/
def nameAliases : List (String × Nat) := [
  ("HORIZONTAL TABULATION", 9), ("TAB", 9), ("NEW LINE", 10), ("END OF LINE", 10), ("LF", 10),
  ("NL", 10), ("EOL", 10), ("VERTICAL TABULATION", 11), ("FF", 12), ("CR", 13), ("ESC", 27),
  ("DEL", 127), ("SP", 32), ("NBSP", 160), ("NEL", 133), ("BYTE ORDER MARK", 65279),
  ("ZERO WIDTH NO-BREAK SPACE", 65279), ("ZWNBSP", 65279), ("ZWSP", 8203), ("ZWJ", 8205),
  ("ZWNJ", 8204), ("BEL", 7), ("NUL", 0)]

/-- The code point at the position of a name in a run. -/
def codeInRun? (name : String) (run : Nat × List String) : Option Nat :=
  ((run.2.flatMap (·.splitOn "|")).findIdx? (· == name)).map (run.1 + ·)

/-- The code point of the character of a common block with a name. -/
def commonCode? (name : List Char) : Option Nat :=
  let wanted := String.ofList (name.map Char.toUpper)
  if wanted.isEmpty then none
  else
    match nameAliases.lookup wanted with
    | some code => some code
    | none => nameRuns.findSome? (codeInRun? wanted)

/-- The names of the characters of common blocks, which are used where no other table is given. -/
instance commonNames : CharacterNames := ⟨commonCode?⟩

end BrowserScenario.Text
