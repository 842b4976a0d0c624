/-!
# Frequent words of names

Words that stand in many names of characters. In the tables of names a single small letter stands
for each of the most frequent ones, and two small letters for each of the others.
-/

namespace QueryTelemetry.Text.Name

/-- The words that a single letter stands for, in the order of the letters. -/
def oneLetterWords : List String := ["WITH", "LETTER", "SMALL", "CAPITAL", "SIGN", "AND"]

/-- The words that two letters stand for, in the order of the letters; their first letters come after
those that stand alone. -/
def twoLetterWords : Array String := #[
  "ABBREVIATION", "ABOVE", "ACCENT", "ACUTE", "AIN", "ALEF", "ALEPH", "ALMOST", "ALPAPRAANA",
  "ALPHA", "ALTERNATE", "ALTERNATING", "AMPERSAND", "ANGLE", "ANTICLOCKWISE", "ANUSVARA",
  "APOSTROPHE", "APPROXIMATELY", "ARABIC", "ARABIC-INDIC", "ARCHAIC", "ARCHAION", "ARROW",
  "ARROWHEAD", "ARROWS", "ASH", "ASTERISK", "ATTACHED", "AVAGRAHA", "BACKSLASH", "BAR", "BARB",
  "BARRED", "BELOW", "BENT", "BESIDE", "BETA", "BETH", "BETWEEN", "BHA", "BISHOP", "BLACK",
  "BLACK-LETTER", "BLOCK", "BOLD", "BOTTOM", "BOX", "BRACKET", "BREVE", "BULLET", "C-SIMPLIFIED",
  "CANCELLATION", "CANDRA", "CANDRABINDU", "CARON", "CARRIER", "CEDILLA", "CENTRE", "CHA",
  "CHARACTER", "CHECK", "CHESS", "CHI", "CHIEUCH", "CIRCLE", "CIRCLED", "CIRCUMFLEX",
  "CLOCKWISE", "CLOSED", "COLON", "COMBINING", "COMMA", "COMMERCIAL", "CONJOINED", "CONSONANT",
  "CONTAINING", "CONTAINS", "COPTIC", "CORNER", "CRESCENT", "CROSS", "CROSSED", "CROSSED-TAIL",
  "CROSSING", "CRYPTOGRAMMIC", "CURL", "CURLY", "CURVE", "CURVED", "CYRILLIC", "DA", "DALETH",
  "DAMMA", "DANDA", "DASH", "DASIA", "DDA", "DDHA", "DELTA", "DESCENDER", "DHA", "DIAERESIS",
  "DIAGONAL", "DIALYTIKA", "DIAMOND", "DIFFERENTIAL", "DIGIT", "DIGRAPH", "DISH", "DIVISION",
  "DOT", "DOTLESS", "DOTS", "DOTTED", "DOUBLE", "DOUBLE-LINE", "DOUBLE-STRUCK", "DOWN",
  "DOWN-POINTING", "DOWNWARDS", "EARTH", "EAST", "EIGHT", "EIGHTEEN", "EIGHTH", "EIGHTHS",
  "EIGHTY", "ELEMENT", "ELEVEN", "END", "ENVELOPE", "EPSILON", "EQUAL", "EQUALS", "EQUIVALENT",
  "EXCLAMATION", "EXTENDED", "EXTENSION", "EXTREMELY", "EYEGAZE-WALLPLANE", "EYES", "FACE",
  "FALLING", "FATHA", "FATHATAN", "FIFTEEN", "FIFTY", "FILLER", "FINAL", "FINGERS", "FISHHOOK",
  "FIVE", "FOR", "FORM", "FORTY", "FORWARD", "FOUR", "FOURTEEN", "FRACTION", "FROM", "FULL",
  "GAMMA", "GAN2", "GAR", "GEMINATION", "GHA", "GHAIN", "GIMEL", "GISH", "GLOTTAL", "GRAVE",
  "GREATER-THAN", "GREEK", "GROMOPOVODNAYA", "GUNU", "HA", "HAH", "HALF", "HAMZA", "HAND",
  "HAND-ANGLE", "HAND-CIRCLE", "HAND-CUP", "HAND-FIST", "HAND-HINGE", "HAND-HOOK", "HAND-OVAL",
  "HANGUL", "HARPOON", "HEAD", "HEART", "HEAVY", "HEH", "HETH", "HIGH", "HINGED", "HIRAGANA",
  "HITTING", "HOOK", "HORIZONTAL", "HORN", "HUNDRED", "HYPHEN", "HYPHEN-MINUS", "IDEOGRAPHIC",
  "IGI", "INDEPENDENT", "INDEX", "INDICATOR", "INITIAL", "INSIDE", "INSULAR", "INTEGRAL",
  "INTERSECTION", "INVERSE", "INVERTED", "IOTA", "IOTIFIED", "ISOLATED", "ITALIC", "ITERATION",
  "J-SIMPLIFIED", "JAPANESE", "JEEM", "JHA", "JIHVAMULIYA", "KA", "KAF", "KAPH", "KAPPA",
  "KASKAL", "KASRA", "KATAKANA", "KATAKANA-HIRAGANA", "KENTIMATA", "KHA", "KHAH", "KHIEUKH",
  "KING", "KIYEOK", "KLYUCHEVAYA", "KNIGHT", "KRYZHEM", "LA", "LAGAB", "LAM", "LAMDA", "LAMEDH",
  "LARGE", "LARGEST", "LATIN", "LEFT", "LEFT-POINTING", "LEFT-TO-RIGHT", "LEFTWARDS", "LENGTH",
  "LENTICULAR", "LESS-THAN", "LIGATURE", "LIGHT", "LINE", "LITTLE", "LLA", "LOGICAL", "LONG",
  "LOOP", "LOW", "LOWER", "LOZENGE", "MA", "MACRON", "MAHAAPRAANA", "MAHAPRANA", "MAKSURA",
  "MARK", "MATHEMATICAL", "MEDIAL", "MEDIUM", "MEEM", "MIDDLE", "MINUS", "MODIFIER", "MONOGRAM",
  "MOON", "MOUNTAIN", "MOUTH", "MOVEMENT", "MOVEMENT-FLOORPLANE", "MOVEMENT-WALLPLANE",
  "MULTIPLE", "MULTIPLICATION", "MURDA", "MUSICAL", "NA", "NASKAPI", "NEGATIVE",
  "NEPOSTOYANNAYA", "NEUTRAL", "NGA", "NINE", "NINETEEN", "NINETY", "NNA", "NOON", "NORMAL",
  "NORTH", "NOT", "NOTATION", "NOTEHEAD", "NUKTA", "NUMBER", "NUMERAL", "NUN", "NYA", "OF",
  "OGONEK", "OLD", "OMEGA", "OMICRON", "ONE", "OPEN", "OPERATOR", "OPPOSING", "ORKHON",
  "ORNAMENT", "OUTLINED", "OVER", "OVERBAR", "OVERLAY", "OXIA", "PA", "PALATAL", "PARAGRAPH",
  "PARALLEL", "PARENTHESIS", "PARENTHESIZED", "PERISPOMENI", "PERSON", "PHA", "PHI", "PHIEUPH",
  "PIEUP-SIOS-TIKEUT", "PINWHEEL", "PLUS", "POINT", "POINTED", "POINTING", "POVYSHE", "PRECEDES",
  "PRODUCT", "PROSGEGRAMMENI", "PSILI", "PUNCTUATION", "QAF", "QUADRUPLE", "QUARTER", "QUARTERS",
  "QUEEN", "QUESTION", "QUOTATION", "RA", "RAISED", "REH", "RETROFLEX", "REVERSE", "REVERSED",
  "RHO", "RIEUL-KIYEOK", "RIGHT", "RIGHT-FACING", "RIGHT-POINTING", "RIGHT-TO-LEFT",
  "RIGHTWARDS", "RING", "RISING", "ROTATED", "ROTATION-FLOORPLANE", "ROTATION-WALLPLANE",
  "ROUNDED", "SA", "SADHE", "SAMEKH", "SANS-SERIF", "SAYISI", "SCRIPT", "SECTION", "SEEN",
  "SEMICOLON", "SEPARATOR", "SEVEN", "SEVENTEEN", "SEVENTY", "SHA", "SHADOWED", "SHE", "SHEEN",
  "SHELL", "SHESHIG", "SHIN", "SHORT", "SIDDHAM", "SIDE", "SIDEWAYS", "SIGMA", "SIMALUNGUN",
  "SINGLE", "SIX", "SIXTEEN", "SIXTEENTH", "SIXTY", "SLANTED", "SLASH", "SMILING", "SOLIDUS",
  "SOUND", "SOUTH", "SPACE", "SPREAD", "SQUARE", "SQUARED", "SSA", "STAR", "STOP", "STRAIGHT",
  "STROKE", "SUBGROUP", "SUBJOINED", "SUBLIMATE", "SUBSCRIPT", "SUBSET", "SUCCEEDS",
  "SUPERSCRIPT", "SUPERSET", "SVETLAYA", "SYLLABLE", "SYMBOL", "TA", "TACK", "TAH", "TAIL",
  "TAK4", "TEARDROP-SPOKED", "TEDUNG", "TELEPHONE", "TEN", "TENU", "THA", "THE", "THESPIAN",
  "THETA", "THIEUTH", "THIRD", "THIRDS", "THIRTEEN", "THIRTY", "THOUSAND", "THOUSANDS", "THREE",
  "THROUGH", "THUMB", "TIKEUT", "TILDE", "TIMES", "TO", "TONE", "TOP", "TORTOISE", "TRIANGLE",
  "TRIANGLE-HEADED", "TRIANGULAR", "TRIPLE", "TSA", "TSHA", "TSHEG", "TTA", "TTHA", "TURNED",
  "TWELVE", "TWENTY", "TWO", "TWO-HEADED", "UNDERBAR", "UNION", "UP", "UP-POINTING",
  "UPADHMANIYA", "UPPER", "UPSILON", "UPWARDS", "VARIA", "VARIANT", "VERTICAL", "VERTICALLY",
  "VERY", "VIRAMA", "VISARGA", "VOCALIC", "VOICED", "VOWEL", "WATER", "WAVE", "WAW", "WEST",
  "WEST-CREE", "WHITE", "WORD", "WRINKLED", "WRIST", "Y-CREE", "YA", "YEH", "YENISEI", "YODH",
  "YPOGEGRAMMENI", "ZAIN", "ZAPYATAYA", "ZAPYATOY", "ZAYIN", "ZERO", "ZIGZAG"]

end QueryTelemetry.Text.Name
