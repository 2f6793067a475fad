import Tabletop.Text.Blank

/-!
# Names of characters

Every character has a name in capital letters, such as `LATIN SMALL LETTER A`; control characters
and some others go by further names. The table holds the names of the usual letters, marks, signs,
arrows, symbols and pictograms. Names that begin alike stand together.
-/
namespace Tabletop.Text

/-- Names that begin alike: how they begin, and how each goes on, with commas between them. -/
structure NameFamily where
  start : String
  ends : String

/-- The names of characters. -/
def nameFamilies : Array NameFamily := #[
  ⟨"LEFT ", "
    PARENTHESIS, SQUARE BRACKET, CURLY BRACKET, SINGLE QUOTATION MARK, DOUBLE QUOTATION MARK,
    SQUARE BRACKET WITH QUILL, RIGHT ARROW, RIGHT WAVE ARROW, RIGHT ARROW WITH STROKE,
    RIGHT DOUBLE ARROW WITH STROKE, RIGHT DOUBLE ARROW, RIGHT ARROW WITH VERTICAL STROKE,
    RIGHT ARROW WITH DOUBLE VERTICAL STROKE, RIGHT OPEN-HEADED ARROW, TACK,
    NORMAL FACTOR SEMIDIRECT PRODUCT, SEMIDIRECT PRODUCT, SEVEN EIGHTHS BLOCK,
    THREE QUARTERS BLOCK, FIVE EIGHTHS BLOCK, HALF BLOCK, THREE EIGHTHS BLOCK, ONE QUARTER BLOCK,
    ONE EIGHTH BLOCK, HALF BLACK CIRCLE, CLOSED ENTRY, HAND TELEPHONE RECEIVER, WRITING HAND,
    SPEECH BUBBLE, THOUGHT BUBBLE, ANGER BUBBLE, LUGGAGE, HALF CIRCLE WITH FOUR DOTS,
    HALF CIRCLE WITH THREE DOTS, HALF CIRCLE WITH TWO DOTS, HALF CIRCLE WITH DOT, HALF CIRCLE"⟩,
  ⟨"RIGHT ", "
    PARENTHESIS, SQUARE BRACKET, CURLY BRACKET, SINGLE QUOTATION MARK, DOUBLE QUOTATION MARK,
    SQUARE BRACKET WITH QUILL, ARROW WITH SMALL CIRCLE, ANGLE, TACK, ANGLE WITH ARC, TRIANGLE,
    NORMAL FACTOR SEMIDIRECT PRODUCT, SEMIDIRECT PRODUCT, HALF BLOCK, ONE EIGHTH BLOCK,
    HALF BLACK CIRCLE, SPEAKER, SPEAKER WITH ONE SOUND WAVE, SPEAKER WITH THREE SOUND WAVES,
    HAND TELEPHONE RECEIVER, SPEECH BUBBLE, THOUGHT BUBBLE, ANGER BUBBLE"⟩,
  ⟨"DIGIT ", "
    ZERO, ONE, TWO, THREE, FOUR, FIVE, SIX, SEVEN, EIGHT, NINE"⟩,
  ⟨"LESS-THAN ", "
    SIGN, OR EQUAL TO, OVER EQUAL TO, BUT NOT EQUAL TO, OR EQUIVALENT TO, OR GREATER-THAN,
    WITH DOT, EQUAL TO OR GREATER-THAN, BUT NOT EQUIVALENT TO"⟩,
  ⟨"GREATER-THAN ", "
    SIGN, OR EQUAL TO, OVER EQUAL TO, BUT NOT EQUAL TO, OR EQUIVALENT TO, OR LESS-THAN, WITH DOT,
    EQUAL TO OR LESS-THAN, BUT NOT EQUIVALENT TO"⟩,
  ⟨"LATIN CAPITAL LETTER ", "
    A, B, C, D, E, F, G, H, I, J, K, L, M, N, O, P, Q, R, S, T, U, V, W, X, Y, Z, AE,
    C WITH CEDILLA, ETH, N WITH TILDE, Y WITH ACUTE, THORN, C WITH ACUTE, C WITH CIRCUMFLEX,
    C WITH DOT ABOVE, C WITH CARON, D WITH CARON, D WITH STROKE, G WITH CIRCUMFLEX, G WITH BREVE,
    G WITH DOT ABOVE, G WITH CEDILLA, H WITH CIRCUMFLEX, H WITH STROKE, J WITH CIRCUMFLEX,
    K WITH CEDILLA, L WITH ACUTE, L WITH CEDILLA, L WITH CARON, L WITH MIDDLE DOT, L WITH STROKE,
    N WITH ACUTE, N WITH CEDILLA, N WITH CARON, ENG, R WITH ACUTE, R WITH CEDILLA, R WITH CARON,
    S WITH ACUTE, S WITH CIRCUMFLEX, S WITH CEDILLA, S WITH CARON, T WITH CEDILLA, T WITH CARON,
    T WITH STROKE, W WITH CIRCUMFLEX, Y WITH CIRCUMFLEX, Y WITH DIAERESIS, Z WITH ACUTE,
    Z WITH DOT ABOVE, Z WITH CARON"⟩,
  ⟨"LATIN SMALL LETTER ", "
    A, B, C, D, E, F, G, H, I, J, K, L, M, N, O, P, Q, R, S, T, U, V, W, X, Y, Z, SHARP S, AE,
    C WITH CEDILLA, I WITH GRAVE, I WITH ACUTE, I WITH CIRCUMFLEX, I WITH DIAERESIS, ETH,
    N WITH TILDE, Y WITH ACUTE, THORN, Y WITH DIAERESIS, C WITH ACUTE, C WITH CIRCUMFLEX,
    C WITH DOT ABOVE, C WITH CARON, D WITH CARON, D WITH STROKE, G WITH CIRCUMFLEX, G WITH BREVE,
    G WITH DOT ABOVE, G WITH CEDILLA, H WITH CIRCUMFLEX, H WITH STROKE, I WITH TILDE,
    I WITH MACRON, I WITH BREVE, I WITH OGONEK, DOTLESS I, J WITH CIRCUMFLEX, K WITH CEDILLA, KRA,
    L WITH ACUTE, L WITH CEDILLA, L WITH CARON, L WITH MIDDLE DOT, L WITH STROKE, N WITH ACUTE,
    N WITH CEDILLA, N WITH CARON, N PRECEDED BY APOSTROPHE, ENG, R WITH ACUTE, R WITH CEDILLA,
    R WITH CARON, S WITH ACUTE, S WITH CIRCUMFLEX, S WITH CEDILLA, S WITH CARON, T WITH CEDILLA,
    T WITH CARON, T WITH STROKE, W WITH CIRCUMFLEX, Y WITH CIRCUMFLEX, Z WITH ACUTE,
    Z WITH DOT ABOVE, Z WITH CARON, LONG S, REVERSED C"⟩,
  ⟨"NOT ", "
    SIGN, AN ELEMENT OF, PARALLEL TO, TILDE, ASYMPTOTICALLY EQUAL TO, ALMOST EQUAL TO, EQUAL TO,
    IDENTICAL TO, EQUIVALENT TO, LESS-THAN, GREATER-THAN, A SUBSET OF, A SUPERSET OF, TRUE,
    SQUARE IMAGE OF OR EQUAL TO, SQUARE ORIGINAL OF OR EQUAL TO, NORMAL SUBGROUP OF,
    NORMAL SUBGROUP OF OR EQUAL TO"⟩,
  ⟨"VULGAR FRACTION ONE ", "
    QUARTER, HALF, SEVENTH, NINTH, TENTH, THIRD, FIFTH, SIXTH, EIGHTH"⟩,
  ⟨"VULGAR FRACTION ", "
    THREE QUARTERS, TWO THIRDS, TWO FIFTHS, THREE FIFTHS, FOUR FIFTHS, FIVE SIXTHS, THREE EIGHTHS,
    FIVE EIGHTHS, SEVEN EIGHTHS, ZERO THIRDS"⟩,
  ⟨"LATIN CAPITAL LETTER A WITH ", "
    GRAVE, ACUTE, CIRCUMFLEX, TILDE, DIAERESIS, RING ABOVE, MACRON, BREVE, OGONEK"⟩,
  ⟨"LATIN CAPITAL LETTER E WITH ", "
    GRAVE, ACUTE, CIRCUMFLEX, DIAERESIS, MACRON, BREVE, DOT ABOVE, OGONEK, CARON"⟩,
  ⟨"LATIN CAPITAL LETTER I WITH ", "
    GRAVE, ACUTE, CIRCUMFLEX, DIAERESIS, TILDE, MACRON, BREVE, OGONEK, DOT ABOVE"⟩,
  ⟨"LATIN CAPITAL LETTER O WITH ", "
    GRAVE, ACUTE, CIRCUMFLEX, TILDE, DIAERESIS, STROKE, MACRON, BREVE, DOUBLE ACUTE"⟩,
  ⟨"LATIN CAPITAL LETTER U WITH ", "
    GRAVE, ACUTE, CIRCUMFLEX, DIAERESIS, TILDE, MACRON, BREVE, RING ABOVE, DOUBLE ACUTE, OGONEK"⟩,
  ⟨"LATIN SMALL LETTER A WITH ", "
    GRAVE, ACUTE, CIRCUMFLEX, TILDE, DIAERESIS, RING ABOVE, MACRON, BREVE, OGONEK"⟩,
  ⟨"LATIN SMALL LETTER E WITH ", "
    GRAVE, ACUTE, CIRCUMFLEX, DIAERESIS, MACRON, BREVE, DOT ABOVE, OGONEK, CARON"⟩,
  ⟨"LATIN SMALL LETTER O WITH ", "
    GRAVE, ACUTE, CIRCUMFLEX, TILDE, DIAERESIS, STROKE, MACRON, BREVE, DOUBLE ACUTE"⟩,
  ⟨"LATIN SMALL LETTER U WITH ", "
    GRAVE, ACUTE, CIRCUMFLEX, DIAERESIS, TILDE, MACRON, BREVE, RING ABOVE, DOUBLE ACUTE, OGONEK"⟩,
  ⟨"GREEK CAPITAL LETTER ", "
    HETA, ARCHAIC SAMPI, PAMPHYLIAN DIGAMMA, YOT, ALPHA WITH TONOS, EPSILON WITH TONOS,
    ETA WITH TONOS, IOTA WITH TONOS, OMICRON WITH TONOS, UPSILON WITH TONOS, OMEGA WITH TONOS,
    ALPHA, BETA, GAMMA, DELTA, EPSILON, ZETA, ETA, THETA, IOTA, KAPPA, LAMDA, MU, NU, XI, OMICRON,
    PI, RHO, SIGMA, TAU, UPSILON, PHI, CHI, PSI, OMEGA, IOTA WITH DIALYTIKA,
    UPSILON WITH DIALYTIKA, SHO, SAN"⟩,
  ⟨"GREEK SMALL LETTER ", "
    HETA, ARCHAIC SAMPI, PAMPHYLIAN DIGAMMA, IOTA WITH DIALYTIKA AND TONOS, ALPHA WITH TONOS,
    EPSILON WITH TONOS, ETA WITH TONOS, IOTA WITH TONOS, UPSILON WITH DIALYTIKA AND TONOS, ALPHA,
    BETA, GAMMA, DELTA, EPSILON, ZETA, ETA, THETA, IOTA, KAPPA, LAMDA, MU, NU, XI, OMICRON, PI,
    RHO, FINAL SIGMA, SIGMA, TAU, UPSILON, PHI, CHI, PSI, OMEGA, IOTA WITH DIALYTIKA,
    UPSILON WITH DIALYTIKA, OMICRON WITH TONOS, UPSILON WITH TONOS, OMEGA WITH TONOS,
    ARCHAIC KOPPA, STIGMA, DIGAMMA, KOPPA, SAMPI, SHO, SAN"⟩,
  ⟨"GREEK ", "
    NUMERAL SIGN, LOWER NUMERAL SIGN, YPOGEGRAMMENI, SMALL REVERSED LUNATE SIGMA SYMBOL,
    SMALL DOTTED LUNATE SIGMA SYMBOL, SMALL REVERSED DOTTED LUNATE SIGMA SYMBOL, QUESTION MARK,
    TONOS, DIALYTIKA TONOS, ANO TELEIA, CAPITAL KAI SYMBOL, BETA SYMBOL, THETA SYMBOL,
    UPSILON WITH HOOK SYMBOL, UPSILON WITH ACUTE AND HOOK SYMBOL,
    UPSILON WITH DIAERESIS AND HOOK SYMBOL, PHI SYMBOL, PI SYMBOL, KAI SYMBOL,
    LETTER ARCHAIC KOPPA, LETTER STIGMA, LETTER DIGAMMA, LETTER KOPPA, LETTER SAMPI, KAPPA SYMBOL,
    RHO SYMBOL, LUNATE SIGMA SYMBOL, LETTER YOT, CAPITAL THETA SYMBOL, LUNATE EPSILON SYMBOL,
    REVERSED LUNATE EPSILON SYMBOL, CAPITAL LUNATE SIGMA SYMBOL, RHO WITH STROKE SYMBOL,
    CAPITAL REVERSED LUNATE SIGMA SYMBOL, CAPITAL DOTTED LUNATE SIGMA SYMBOL,
    CAPITAL REVERSED DOTTED LUNATE SIGMA SYMBOL"⟩,
  ⟨"COPTIC ", "
    CAPITAL LETTER SHEI, SMALL LETTER SHEI, CAPITAL LETTER FEI, SMALL LETTER FEI,
    CAPITAL LETTER KHEI, SMALL LETTER KHEI, CAPITAL LETTER HORI, SMALL LETTER HORI,
    CAPITAL LETTER GANGIA, SMALL LETTER GANGIA, CAPITAL LETTER SHIMA, SMALL LETTER SHIMA,
    CAPITAL LETTER DEI, SMALL LETTER DEI"⟩,
  ⟨"CYRILLIC CAPITAL LETTER ", "
    IE WITH GRAVE, IO, DJE, GJE, UKRAINIAN IE, DZE, BYELORUSSIAN-UKRAINIAN I, YI, JE, LJE, NJE,
    TSHE, KJE, I WITH GRAVE, SHORT U, DZHE, A, BE, VE, GHE, DE, IE, ZHE, ZE, I, SHORT I, KA, EL,
    EM, EN, O, PE, ER, ES, TE, U, EF, HA, TSE, CHE, SHA, SHCHA, HARD SIGN, YERU, SOFT SIGN, E, YU,
    YA"⟩,
  ⟨"CYRILLIC SMALL LETTER ", "
    A, BE, VE, GHE, DE, IE, ZHE, ZE, I, SHORT I, KA, EL, EM, EN, O, PE, ER, ES, TE, U, EF, HA,
    TSE, CHE, SHA, SHCHA, HARD SIGN, YERU, SOFT SIGN, E, YU, YA, IE WITH GRAVE, IO, DJE, GJE,
    UKRAINIAN IE, DZE, BYELORUSSIAN-UKRAINIAN I, YI, JE, LJE, NJE, TSHE, KJE, I WITH GRAVE,
    SHORT U, DZHE"⟩,
  ⟨"DOUBLE ", "
    VERTICAL LINE, LOW LINE, LOW-9 QUOTATION MARK, HIGH-REVERSED-9 QUOTATION MARK, DAGGER, PRIME,
    EXCLAMATION MARK, QUESTION MARK, INTEGRAL, VERTICAL BAR DOUBLE RIGHT TURNSTILE, SUBSET,
    SUPERSET, INTERSECTION, UNION, CURLY LOOP"⟩,
  ⟨"REVERSED ", "
    PRIME, DOUBLE PRIME, TRIPLE PRIME, PILCROW SIGN, SEMICOLON, SANS-SERIF CAPITAL L, TILDE,
    TILDE EQUALS, ROTATED FLORAL HEART BULLET, RAISED HAND WITH FINGERS SPLAYED, THUMBS UP SIGN,
    THUMBS DOWN SIGN, VICTORY HAND, HAND WITH MIDDLE FINGER EXTENDED"⟩,
  ⟨"BLACK ", "
    LEFTWARDS BULLET, RIGHTWARDS BULLET, SQUARE, SMALL SQUARE, RECTANGLE, VERTICAL RECTANGLE,
    PARALLELOGRAM, UP-POINTING TRIANGLE, UP-POINTING SMALL TRIANGLE, RIGHT-POINTING TRIANGLE,
    RIGHT-POINTING SMALL TRIANGLE, RIGHT-POINTING POINTER, DOWN-POINTING TRIANGLE,
    DOWN-POINTING SMALL TRIANGLE, LEFT-POINTING TRIANGLE, LEFT-POINTING SMALL TRIANGLE,
    LEFT-POINTING POINTER, DIAMOND, CIRCLE, LOWER RIGHT TRIANGLE, LOWER LEFT TRIANGLE,
    UPPER LEFT TRIANGLE, UPPER RIGHT TRIANGLE, MEDIUM SQUARE, MEDIUM SMALL SQUARE, SUN WITH RAYS,
    STAR, TELEPHONE, SHOGI PIECE, LEFT POINTING INDEX, RIGHT POINTING INDEX, SMILING FACE,
    CHESS KING, CHESS QUEEN, CHESS ROOK, CHESS BISHOP, CHESS KNIGHT, CHESS PAWN, SPADE SUIT,
    CLUB SUIT, HEART SUIT, DIAMOND SUIT, UNIVERSAL RECYCLING SYMBOL, CIRCLE WITH WHITE DOT RIGHT,
    CIRCLE WITH TWO WHITE DOTS, FLAG, MOON LILITH, DRAUGHTS MAN, DRAUGHTS KING, SNOWMAN,
    TWO-WAY LEFT WAY TRAFFIC, LEFT LANE MERGE, TRUCK, CROSS ON SHIELD, SAFETY SCISSORS, SCISSORS,
    NIB, FOUR POINTED STAR, CENTRE WHITE STAR, FLORETTE, QUESTION MARK ORNAMENT,
    DIAMOND MINUS WHITE X, RIGHTWARDS ARROW, RIGHTWARDS ARROWHEAD, DROPLET, PENNANT, ROSETTE,
    SQUARE BUTTON, SKULL AND CROSSBONES, TOUCHTONE TELEPHONE, PUSHPIN,
    LEFT POINTING BACKHAND INDEX, RIGHT POINTING BACKHAND INDEX, UP POINTING BACKHAND INDEX,
    DOWN POINTING BACKHAND INDEX, HEART, HARD SHELL FLOPPY DISK, FOLDER"⟩,
  ⟨"THREE ", "
    DOT PUNCTUATION, RIGHTWARDS ARROWS, LINES CONVERGING RIGHT, LINES CONVERGING LEFT,
    NETWORKED COMPUTERS, BUTTON MOUSE, RAYS ABOVE, RAYS BELOW, RAYS LEFT, RAYS RIGHT,
    SPEECH BUBBLES"⟩,
  ⟨"DOUBLE-STRUCK CAPITAL ", "
    C, H, N, P, Q, R, Z, GAMMA, PI"⟩,
  ⟨"SCRIPT CAPITAL ", "
    H, I, L, P, R, B, E, F, M"⟩,
  ⟨"TURNED ", "
    GREEK SMALL LETTER IOTA, CAPITAL F, SANS-SERIF CAPITAL G, SANS-SERIF CAPITAL L,
    SANS-SERIF CAPITAL Y, AMPERSAND, SMALL F, DIGIT TWO, DIGIT THREE, WHITE SHOGI PIECE,
    BLACK SHOGI PIECE, OK HAND SIGN"⟩,
  ⟨"ROMAN NUMERAL ", "
    ONE, TWO, THREE, FOUR, FIVE, SIX, SEVEN, EIGHT, NINE, TEN, ELEVEN, TWELVE, FIFTY, ONE HUNDRED,
    FIVE HUNDRED, ONE THOUSAND, ONE THOUSAND C D, FIVE THOUSAND, TEN THOUSAND,
    REVERSED ONE HUNDRED, SIX LATE FORM, FIFTY EARLY FORM, FIFTY THOUSAND, ONE HUNDRED THOUSAND"⟩,
  ⟨"SMALL ROMAN NUMERAL ", "
    ONE, TWO, THREE, FOUR, FIVE, SIX, SEVEN, EIGHT, NINE, TEN, ELEVEN, TWELVE, FIFTY, ONE HUNDRED,
    FIVE HUNDRED, ONE THOUSAND"⟩,
  ⟨"LEFTWARDS ", "
    ARROW, WAVE ARROW, TWO HEADED ARROW, HARPOON WITH BARB UPWARDS, HARPOON WITH BARB DOWNWARDS,
    PAIRED ARROWS, HARPOON OVER RIGHTWARDS HARPOON, DOUBLE ARROW WITH STROKE, DOUBLE ARROW,
    TRIPLE ARROW, SQUIGGLE ARROW, DASHED ARROW, WHITE ARROW, OPEN-HEADED ARROW"⟩,
  ⟨"UPWARDS ", "
    ARROW, TWO HEADED ARROW, ARROW FROM BAR, ARROW WITH TIP LEFTWARDS, ARROW WITH TIP RIGHTWARDS,
    HARPOON WITH BARB RIGHTWARDS, HARPOON WITH BARB LEFTWARDS, ARROW LEFTWARDS OF DOWNWARDS ARROW,
    PAIRED ARROWS, DOUBLE ARROW, ARROW WITH DOUBLE STROKE, DASHED ARROW, WHITE ARROW,
    WHITE ARROW FROM BAR, WHITE ARROW ON PEDESTAL, WHITE ARROW ON PEDESTAL WITH HORIZONTAL BAR,
    WHITE ARROW ON PEDESTAL WITH VERTICAL BAR, WHITE DOUBLE ARROW, WHITE DOUBLE ARROW ON PEDESTAL"⟩,
  ⟨"RIGHTWARDS ", "
    ARROW, WAVE ARROW, TWO HEADED ARROW, HARPOON WITH BARB UPWARDS, HARPOON WITH BARB DOWNWARDS,
    PAIRED ARROWS, HARPOON OVER LEFTWARDS HARPOON, DOUBLE ARROW WITH STROKE, DOUBLE ARROW,
    TRIPLE ARROW, SQUIGGLE ARROW, DASHED ARROW, WHITE ARROW, WHITE ARROW FROM WALL,
    OPEN-HEADED ARROW"⟩,
  ⟨"DOWNWARDS ", "
    ARROW, TWO HEADED ARROW, ARROW FROM BAR, ZIGZAG ARROW, ARROW WITH TIP LEFTWARDS,
    ARROW WITH TIP RIGHTWARDS, ARROW WITH CORNER LEFTWARDS, HARPOON WITH BARB RIGHTWARDS,
    HARPOON WITH BARB LEFTWARDS, PAIRED ARROWS, DOUBLE ARROW, ARROW WITH DOUBLE STROKE,
    DASHED ARROW, WHITE ARROW, ARROW LEFTWARDS OF UPWARDS ARROW"⟩,
  ⟨"LEFTWARDS ARROW ", "
    WITH STROKE, WITH TAIL, FROM BAR, WITH HOOK, WITH LOOP, TO BAR OVER RIGHTWARDS ARROW TO BAR,
    OVER RIGHTWARDS ARROW, TO BAR, WITH VERTICAL STROKE, WITH DOUBLE VERTICAL STROKE"⟩,
  ⟨"RIGHTWARDS ARROW ", "
    WITH STROKE, WITH TAIL, FROM BAR, WITH HOOK, WITH LOOP, WITH CORNER DOWNWARDS,
    OVER LEFTWARDS ARROW, TO BAR, WITH VERTICAL STROKE, WITH DOUBLE VERTICAL STROKE"⟩,
  ⟨"SMALL ", "
    ELEMENT OF, CONTAINS AS MEMBER, ELEMENT OF WITH VERTICAL BAR AT END OF HORIZONTAL STROKE,
    ELEMENT OF WITH OVERBAR, CONTAINS WITH VERTICAL BAR AT END OF HORIZONTAL STROKE,
    CONTAINS WITH OVERBAR, ORANGE DIAMOND, BLUE DIAMOND, AIRPLANE"⟩,
  ⟨"DOES NOT ", "
    CONTAIN AS MEMBER, DIVIDE, PRECEDE, SUCCEED, PROVE, FORCE, PRECEDE OR EQUAL, SUCCEED OR EQUAL,
    CONTAIN AS NORMAL SUBGROUP, CONTAIN AS NORMAL SUBGROUP OR EQUAL"⟩,
  ⟨"END OF ", "
    PROOF, TEXT, TRANSMISSION, LINE, TRANSMISSION BLOCK, MEDIUM, SELECTED AREA, GUARDED AREA,
    PROTECTED AREA"⟩,
  ⟨"SQUARE ", "
    ROOT, IMAGE OF, ORIGINAL OF, IMAGE OF OR EQUAL TO, ORIGINAL OF OR EQUAL TO, CAP, CUP,
    IMAGE OF OR NOT EQUAL TO, ORIGINAL OF OR NOT EQUAL TO, FOUR CORNERS"⟩,
  ⟨"NEITHER ", "
    APPROXIMATELY NOR ACTUALLY EQUAL TO, LESS-THAN NOR EQUAL TO, GREATER-THAN NOR EQUAL TO,
    LESS-THAN NOR EQUIVALENT TO, GREATER-THAN NOR EQUIVALENT TO, LESS-THAN NOR GREATER-THAN,
    GREATER-THAN NOR LESS-THAN, A SUBSET OF NOR EQUAL TO, A SUPERSET OF NOR EQUAL TO"⟩,
  ⟨"CIRCLED ", "
    PLUS, MINUS, TIMES, DIVISION SLASH, DOT OPERATOR, RING OPERATOR, ASTERISK OPERATOR, EQUALS,
    DASH, CROSSING LANES, WHITE STAR, OPEN CENTRE EIGHT POINTED STAR,
    HEAVY WHITE RIGHTWARDS ARROW, CROSS POMMEE, INFORMATION SOURCE, CROSS FORMEE WITH FOUR DOTS,
    CROSS FORMEE WITH TWO DOTS, CROSS FORMEE"⟩,
  ⟨"BOX DRAWINGS LIGHT ", "
    HORIZONTAL, VERTICAL, TRIPLE DASH HORIZONTAL, TRIPLE DASH VERTICAL, QUADRUPLE DASH HORIZONTAL,
    QUADRUPLE DASH VERTICAL, DOWN AND RIGHT, DOWN AND LEFT, UP AND RIGHT, UP AND LEFT,
    VERTICAL AND RIGHT, VERTICAL AND LEFT, DOWN AND HORIZONTAL, UP AND HORIZONTAL,
    VERTICAL AND HORIZONTAL, DOUBLE DASH HORIZONTAL, DOUBLE DASH VERTICAL, ARC DOWN AND RIGHT,
    ARC DOWN AND LEFT, ARC UP AND LEFT, ARC UP AND RIGHT, DIAGONAL UPPER RIGHT TO LOWER LEFT,
    DIAGONAL UPPER LEFT TO LOWER RIGHT, DIAGONAL CROSS, LEFT, UP, RIGHT, DOWN,
    LEFT AND HEAVY RIGHT, UP AND HEAVY DOWN"⟩,
  ⟨"BOX DRAWINGS HEAVY ", "
    HORIZONTAL, VERTICAL, TRIPLE DASH HORIZONTAL, TRIPLE DASH VERTICAL, QUADRUPLE DASH HORIZONTAL,
    QUADRUPLE DASH VERTICAL, DOWN AND RIGHT, DOWN AND LEFT, UP AND RIGHT, UP AND LEFT,
    VERTICAL AND RIGHT, VERTICAL AND LEFT, DOWN AND HORIZONTAL, UP AND HORIZONTAL,
    VERTICAL AND HORIZONTAL, DOUBLE DASH HORIZONTAL, DOUBLE DASH VERTICAL, LEFT, UP, RIGHT, DOWN,
    LEFT AND LIGHT RIGHT, UP AND LIGHT DOWN"⟩,
  ⟨"BOX DRAWINGS DOWN ", "
    LIGHT AND RIGHT HEAVY, HEAVY AND RIGHT LIGHT, LIGHT AND LEFT HEAVY, HEAVY AND LEFT LIGHT,
    HEAVY AND RIGHT UP LIGHT, LIGHT AND RIGHT UP HEAVY, HEAVY AND LEFT UP LIGHT,
    LIGHT AND LEFT UP HEAVY, LIGHT AND HORIZONTAL HEAVY, HEAVY AND HORIZONTAL LIGHT,
    HEAVY AND UP HORIZONTAL LIGHT, LIGHT AND UP HORIZONTAL HEAVY, SINGLE AND RIGHT DOUBLE,
    DOUBLE AND RIGHT SINGLE, SINGLE AND LEFT DOUBLE, DOUBLE AND LEFT SINGLE,
    SINGLE AND HORIZONTAL DOUBLE, DOUBLE AND HORIZONTAL SINGLE"⟩,
  ⟨"BOX DRAWINGS UP ", "
    LIGHT AND RIGHT HEAVY, HEAVY AND RIGHT LIGHT, LIGHT AND LEFT HEAVY, HEAVY AND LEFT LIGHT,
    HEAVY AND RIGHT DOWN LIGHT, LIGHT AND RIGHT DOWN HEAVY, HEAVY AND LEFT DOWN LIGHT,
    LIGHT AND LEFT DOWN HEAVY, LIGHT AND HORIZONTAL HEAVY, HEAVY AND HORIZONTAL LIGHT,
    HEAVY AND DOWN HORIZONTAL LIGHT, LIGHT AND DOWN HORIZONTAL HEAVY, SINGLE AND RIGHT DOUBLE,
    DOUBLE AND RIGHT SINGLE, SINGLE AND LEFT DOUBLE, DOUBLE AND LEFT SINGLE,
    SINGLE AND HORIZONTAL DOUBLE, DOUBLE AND HORIZONTAL SINGLE"⟩,
  ⟨"BOX DRAWINGS VERTICAL ", "
    LIGHT AND RIGHT HEAVY, HEAVY AND RIGHT LIGHT, LIGHT AND LEFT HEAVY, HEAVY AND LEFT LIGHT,
    LIGHT AND HORIZONTAL HEAVY, HEAVY AND HORIZONTAL LIGHT, SINGLE AND RIGHT DOUBLE,
    DOUBLE AND RIGHT SINGLE, SINGLE AND LEFT DOUBLE, DOUBLE AND LEFT SINGLE,
    SINGLE AND HORIZONTAL DOUBLE, DOUBLE AND HORIZONTAL SINGLE"⟩,
  ⟨"BOX DRAWINGS ", "
    LEFT HEAVY AND RIGHT DOWN LIGHT, RIGHT HEAVY AND LEFT DOWN LIGHT,
    RIGHT LIGHT AND LEFT DOWN HEAVY, LEFT LIGHT AND RIGHT DOWN HEAVY,
    LEFT HEAVY AND RIGHT UP LIGHT, RIGHT HEAVY AND LEFT UP LIGHT, RIGHT LIGHT AND LEFT UP HEAVY,
    LEFT LIGHT AND RIGHT UP HEAVY, LEFT HEAVY AND RIGHT VERTICAL LIGHT,
    RIGHT HEAVY AND LEFT VERTICAL LIGHT, LEFT UP HEAVY AND RIGHT DOWN LIGHT,
    RIGHT UP HEAVY AND LEFT DOWN LIGHT, LEFT DOWN HEAVY AND RIGHT UP LIGHT,
    RIGHT DOWN HEAVY AND LEFT UP LIGHT, RIGHT LIGHT AND LEFT VERTICAL HEAVY,
    LEFT LIGHT AND RIGHT VERTICAL HEAVY"⟩,
  ⟨"BOX DRAWINGS DOUBLE ", "
    HORIZONTAL, VERTICAL, DOWN AND RIGHT, DOWN AND LEFT, UP AND RIGHT, UP AND LEFT,
    VERTICAL AND RIGHT, VERTICAL AND LEFT, DOWN AND HORIZONTAL, UP AND HORIZONTAL,
    VERTICAL AND HORIZONTAL"⟩,
  ⟨"UPPER ", "
    HALF BLOCK, ONE EIGHTH BLOCK, HALF INVERSE WHITE CIRCLE, LEFT QUADRANT CIRCULAR ARC,
    RIGHT QUADRANT CIRCULAR ARC, HALF CIRCLE, LEFT TRIANGLE, RIGHT TRIANGLE, BLADE SCISSORS,
    RIGHT PENCIL, RIGHT DROP-SHADOWED WHITE SQUARE, RIGHT SHADOWED WHITE SQUARE,
    RIGHT SHADOWED WHITE CIRCLE"⟩,
  ⟨"LOWER ", "
    ONE EIGHTH BLOCK, ONE QUARTER BLOCK, THREE EIGHTHS BLOCK, HALF BLOCK, FIVE EIGHTHS BLOCK,
    THREE QUARTERS BLOCK, SEVEN EIGHTHS BLOCK, HALF INVERSE WHITE CIRCLE,
    RIGHT QUADRANT CIRCULAR ARC, LEFT QUADRANT CIRCULAR ARC, HALF CIRCLE, LEFT TRIANGLE,
    RIGHT TRIANGLE, BLADE SCISSORS, RIGHT PENCIL, RIGHT DROP-SHADOWED WHITE SQUARE,
    RIGHT SHADOWED WHITE SQUARE, RIGHT SHADOWED WHITE CIRCLE, LEFT PENCIL, LEFT BALLPOINT PEN,
    LEFT FOUNTAIN PEN, LEFT PAINTBRUSH, LEFT CRAYON"⟩,
  ⟨"MEDIUM ", "
    SHADE, WHITE CIRCLE, BLACK CIRCLE, SMALL WHITE CIRCLE, VERTICAL BAR,
    LEFT PARENTHESIS ORNAMENT, RIGHT PARENTHESIS ORNAMENT, FLATTENED LEFT PARENTHESIS ORNAMENT,
    FLATTENED RIGHT PARENTHESIS ORNAMENT, LEFT-POINTING ANGLE BRACKET ORNAMENT,
    RIGHT-POINTING ANGLE BRACKET ORNAMENT, LEFT CURLY BRACKET ORNAMENT,
    RIGHT CURLY BRACKET ORNAMENT"⟩,
  ⟨"QUADRANT ", "
    LOWER LEFT, LOWER RIGHT, UPPER LEFT, UPPER LEFT AND LOWER LEFT AND LOWER RIGHT,
    UPPER LEFT AND LOWER RIGHT, UPPER LEFT AND UPPER RIGHT AND LOWER LEFT,
    UPPER LEFT AND UPPER RIGHT AND LOWER RIGHT, UPPER RIGHT, UPPER RIGHT AND LOWER LEFT,
    UPPER RIGHT AND LOWER LEFT AND LOWER RIGHT"⟩,
  ⟨"WHITE ", "
    SQUARE, SQUARE WITH ROUNDED CORNERS, SQUARE CONTAINING BLACK SMALL SQUARE, SMALL SQUARE,
    RECTANGLE, VERTICAL RECTANGLE, PARALLELOGRAM, UP-POINTING TRIANGLE,
    UP-POINTING SMALL TRIANGLE, RIGHT-POINTING TRIANGLE, RIGHT-POINTING SMALL TRIANGLE,
    RIGHT-POINTING POINTER, DOWN-POINTING TRIANGLE, DOWN-POINTING SMALL TRIANGLE,
    LEFT-POINTING TRIANGLE, LEFT-POINTING SMALL TRIANGLE, LEFT-POINTING POINTER, DIAMOND,
    DIAMOND CONTAINING BLACK SMALL DIAMOND, CIRCLE, BULLET, SQUARE WITH VERTICAL BISECTING LINE,
    UP-POINTING TRIANGLE WITH DOT, SQUARE WITH UPPER LEFT QUADRANT,
    SQUARE WITH LOWER LEFT QUADRANT, SQUARE WITH LOWER RIGHT QUADRANT,
    SQUARE WITH UPPER RIGHT QUADRANT, CIRCLE WITH UPPER LEFT QUADRANT,
    CIRCLE WITH LOWER LEFT QUADRANT, CIRCLE WITH LOWER RIGHT QUADRANT,
    CIRCLE WITH UPPER RIGHT QUADRANT, MEDIUM SQUARE, MEDIUM SMALL SQUARE, STAR, TELEPHONE,
    SHOGI PIECE, LEFT POINTING INDEX, UP POINTING INDEX, RIGHT POINTING INDEX,
    DOWN POINTING INDEX, FROWNING FACE, SMILING FACE, SUN WITH RAYS, CHESS KING, CHESS QUEEN,
    CHESS ROOK, CHESS BISHOP, CHESS KNIGHT, CHESS PAWN, HEART SUIT, DIAMOND SUIT, SPADE SUIT,
    CLUB SUIT, CIRCLE WITH DOT RIGHT, CIRCLE WITH TWO DOTS, FLAG, DRAUGHTS MAN, DRAUGHTS KING,
    DIAMOND IN SQUARE, TWO-WAY LEFT WAY TRAFFIC, LEFT LANE MERGE,
    FLAG WITH HORIZONTAL MIDDLE BLACK STRIPE, SCISSORS, HEAVY CHECK MARK, NIB, FOUR POINTED STAR,
    FLORETTE, QUESTION MARK ORNAMENT, EXCLAMATION MARK ORNAMENT, SUN, SUN WITH SMALL CLOUD,
    SUN BEHIND CLOUD, SUN BEHIND CLOUD WITH RAIN, PENNANT, UP POINTING BACKHAND INDEX,
    DOWN POINTING BACKHAND INDEX, LEFT POINTING BACKHAND INDEX, RIGHT POINTING BACKHAND INDEX,
    FLOWER, SQUARE BUTTON, LATIN CROSS, TOUCHTONE TELEPHONE, DOWN POINTING LEFT HAND INDEX,
    HARD SHELL FLOPPY DISK, HEART"⟩,
  ⟨"SQUARE WITH ", "
    HORIZONTAL FILL, VERTICAL FILL, ORTHOGONAL CROSSHATCH FILL, UPPER LEFT TO LOWER RIGHT FILL,
    UPPER RIGHT TO LOWER LEFT FILL, DIAGONAL CROSSHATCH FILL, LEFT HALF BLACK, RIGHT HALF BLACK,
    UPPER LEFT DIAGONAL HALF BLACK, LOWER RIGHT DIAGONAL HALF BLACK"⟩,
  ⟨"BALLOT ", "
    BOX, BOX WITH CHECK, BOX WITH X, X, BOX WITH BALLOT, SCRIPT X, BOX WITH SCRIPT X,
    BOLD SCRIPT X, BOX WITH BOLD SCRIPT X, BOX WITH BOLD CHECK"⟩,
  ⟨"NO ", "
    ENTRY, MOBILE PHONES, ONE UNDER EIGHTEEN SYMBOL, PIRACY, ENTRY SIGN, SMOKING SYMBOL, BICYCLES,
    PEDESTRIANS, BREAK HERE"⟩,
  ⟨"HEAVY ", "
    WHITE DOWN-POINTING TRIANGLE, CIRCLE WITH STROKE AND TWO DOTS ABOVE, CHECK MARK,
    MULTIPLICATION X, BALLOT X, GREEK CROSS, OPEN CENTRE CROSS, FOUR BALLOON-SPOKED ASTERISK,
    OUTLINED BLACK STAR, ASTERISK, EIGHT POINTED RECTILINEAR BLACK STAR, TEARDROP-SPOKED ASTERISK,
    TEARDROP-SPOKED PINWHEEL ASTERISK, CHEVRON SNOWFLAKE, SPARKLE,
    EIGHT TEARDROP-SPOKED PROPELLER ASTERISK, EXCLAMATION MARK SYMBOL, VERTICAL BAR,
    SINGLE TURNED COMMA QUOTATION MARK ORNAMENT, SINGLE COMMA QUOTATION MARK ORNAMENT,
    DOUBLE TURNED COMMA QUOTATION MARK ORNAMENT, DOUBLE COMMA QUOTATION MARK ORNAMENT,
    LOW SINGLE COMMA QUOTATION MARK ORNAMENT, LOW DOUBLE COMMA QUOTATION MARK ORNAMENT,
    EXCLAMATION MARK ORNAMENT, HEART EXCLAMATION MARK ORNAMENT, BLACK HEART,
    LEFT-POINTING ANGLE QUOTATION MARK ORNAMENT, RIGHT-POINTING ANGLE QUOTATION MARK ORNAMENT,
    LEFT-POINTING ANGLE BRACKET ORNAMENT, RIGHT-POINTING ANGLE BRACKET ORNAMENT,
    WIDE-HEADED RIGHTWARDS ARROW, PLUS SIGN, MINUS SIGN, DIVISION SIGN, SOUTH EAST ARROW,
    RIGHTWARDS ARROW, NORTH EAST ARROW, ROUND-TIPPED RIGHTWARDS ARROW,
    TRIANGLE-HEADED RIGHTWARDS ARROW, DASHED TRIANGLE-HEADED RIGHTWARDS ARROW,
    BLACK CURVED DOWNWARDS AND RIGHTWARDS ARROW, BLACK CURVED UPWARDS AND RIGHTWARDS ARROW,
    CONCAVE-POINTED BLACK RIGHTWARDS ARROW, LOWER RIGHT-SHADOWED WHITE RIGHTWARDS ARROW,
    UPPER RIGHT-SHADOWED WHITE RIGHTWARDS ARROW, BLACK-FEATHERED SOUTH EAST ARROW,
    BLACK-FEATHERED RIGHTWARDS ARROW, BLACK-FEATHERED NORTH EAST ARROW,
    TEARDROP-SHANKED RIGHTWARDS ARROW, WEDGE-TAILED RIGHTWARDS ARROW, DOLLAR SIGN, LATIN CROSS"⟩,
  ⟨"PERSON ", "
    WITH BALL, WITH BLOND HAIR, BOWING DEEPLY, RAISING BOTH HANDS IN CELEBRATION, FROWNING,
    WITH POUTING FACE, WITH FOLDED HANDS, DOING CARTWHEEL, WITH HEADSCARF, IN STEAMY ROOM,
    CLIMBING, IN LOTUS POSITION"⟩,
  ⟨"OPEN ", "
    CENTRE CROSS, CENTRE BLACK STAR, CENTRE ASTERISK, CENTRE TEARDROP-SPOKED ASTERISK, HANDS SIGN,
    FILE FOLDER, BOOK, MAILBOX WITH RAISED FLAG, MAILBOX WITH LOWERED FLAG, LOCK, FOLDER"⟩,
  ⟨"DINGBAT NEGATIVE CIRCLED DIGIT ", "
    ONE, TWO, THREE, FOUR, FIVE, SIX, SEVEN, EIGHT, NINE"⟩,
  ⟨"DINGBAT CIRCLED SANS-SERIF DIGIT ", "
    ONE, TWO, THREE, FOUR, FIVE, SIX, SEVEN, EIGHT, NINE"⟩,
  ⟨"DINGBAT NEGATIVE CIRCLED SANS-SERIF DIGIT ", "
    ONE, TWO, THREE, FOUR, FIVE, SIX, SEVEN, EIGHT, NINE"⟩,
  ⟨"EMOJI ", "
    MODIFIER FITZPATRICK TYPE-1-2, MODIFIER FITZPATRICK TYPE-3, MODIFIER FITZPATRICK TYPE-4,
    MODIFIER FITZPATRICK TYPE-5, MODIFIER FITZPATRICK TYPE-6, COMPONENT RED HAIR,
    COMPONENT CURLY HAIR, COMPONENT BALD, COMPONENT WHITE HAIR"⟩,
  ⟨"CLOCK FACE ", "
    ONE OCLOCK, TWO OCLOCK, THREE OCLOCK, FOUR OCLOCK, FIVE OCLOCK, SIX OCLOCK, SEVEN OCLOCK,
    EIGHT OCLOCK, NINE OCLOCK, TEN OCLOCK, ELEVEN OCLOCK, TWELVE OCLOCK, ONE-THIRTY, TWO-THIRTY,
    THREE-THIRTY, FOUR-THIRTY, FIVE-THIRTY, SIX-THIRTY, SEVEN-THIRTY, EIGHT-THIRTY, NINE-THIRTY,
    TEN-THIRTY, ELEVEN-THIRTY, TWELVE-THIRTY"⟩,
  ⟨"FACE WITH ", "
    TEARS OF JOY, COLD SWEAT, STUCK-OUT TONGUE, STUCK-OUT TONGUE AND WINKING EYE,
    STUCK-OUT TONGUE AND TIGHTLY-CLOSED EYES, LOOK OF TRIUMPH, OPEN MOUTH,
    OPEN MOUTH AND COLD SWEAT, MEDICAL MASK, ROLLING EYES, NO GOOD GESTURE, OK GESTURE,
    THERMOMETER, HEAD-BANDAGE, COWBOY HAT, ONE EYEBROW RAISED, FINGER COVERING CLOSED LIPS,
    OPEN MOUTH VOMITING, PARTY HORN AND PARTY HAT, UNEVEN EYES AND WAVY MOUTH, PLEADING EYES,
    MONOCLE"⟩,
  ⟨"SMILING FACE WITH ", "
    OPEN MOUTH, OPEN MOUTH AND SMILING EYES, OPEN MOUTH AND COLD SWEAT,
    OPEN MOUTH AND TIGHTLY-CLOSED EYES, HALO, HORNS, SMILING EYES, HEART-SHAPED EYES, SUNGLASSES,
    SMILING EYES AND HAND COVERING MOUTH, SMILING EYES AND THREE HEARTS, TEAR"⟩,
  ⟨"", "
    SPACE, EXCLAMATION MARK, QUOTATION MARK, NUMBER SIGN, DOLLAR SIGN, PERCENT SIGN, AMPERSAND,
    APOSTROPHE, ASTERISK, PLUS SIGN, COMMA, HYPHEN-MINUS, FULL STOP, SOLIDUS, COLON, SEMICOLON,
    EQUALS SIGN, QUESTION MARK, COMMERCIAL AT, REVERSE SOLIDUS, CIRCUMFLEX ACCENT, LOW LINE,
    GRAVE ACCENT, VERTICAL LINE, TILDE, NO-BREAK SPACE, INVERTED EXCLAMATION MARK, CENT SIGN,
    POUND SIGN, CURRENCY SIGN, YEN SIGN, BROKEN BAR, SECTION SIGN, DIAERESIS, COPYRIGHT SIGN,
    FEMININE ORDINAL INDICATOR, LEFT-POINTING DOUBLE ANGLE QUOTATION MARK, SOFT HYPHEN,
    REGISTERED SIGN, MACRON, DEGREE SIGN, PLUS-MINUS SIGN, SUPERSCRIPT TWO, SUPERSCRIPT THREE,
    ACUTE ACCENT, MICRO SIGN, PILCROW SIGN, MIDDLE DOT, CEDILLA, SUPERSCRIPT ONE,
    MASCULINE ORDINAL INDICATOR, RIGHT-POINTING DOUBLE ANGLE QUOTATION MARK,
    INVERTED QUESTION MARK, MULTIPLICATION SIGN, DIVISION SIGN, LATIN CAPITAL LIGATURE IJ,
    LATIN SMALL LIGATURE IJ, LATIN CAPITAL LIGATURE OE, LATIN SMALL LIGATURE OE, HYPHEN,
    NON-BREAKING HYPHEN, FIGURE DASH, EN DASH, EM DASH, HORIZONTAL BAR,
    SINGLE LOW-9 QUOTATION MARK, SINGLE HIGH-REVERSED-9 QUOTATION MARK, DAGGER, BULLET,
    TRIANGULAR BULLET, ONE DOT LEADER, TWO DOT LEADER, HORIZONTAL ELLIPSIS, HYPHENATION POINT,
    LINE SEPARATOR, PARAGRAPH SEPARATOR, LEFT-TO-RIGHT EMBEDDING, RIGHT-TO-LEFT EMBEDDING,
    POP DIRECTIONAL FORMATTING, LEFT-TO-RIGHT OVERRIDE, RIGHT-TO-LEFT OVERRIDE,
    NARROW NO-BREAK SPACE, PER MILLE SIGN, PER TEN THOUSAND SIGN, PRIME, TRIPLE PRIME, CARET,
    SINGLE LEFT-POINTING ANGLE QUOTATION MARK, SINGLE RIGHT-POINTING ANGLE QUOTATION MARK,
    REFERENCE MARK, INTERROBANG, OVERLINE, UNDERTIE, CHARACTER TIE, CARET INSERTION POINT,
    ASTERISM, HYPHEN BULLET, FRACTION SLASH, QUESTION EXCLAMATION MARK, EXCLAMATION QUESTION MARK,
    TIRONIAN SIGN ET, LOW ASTERISK, CLOSE UP, TWO ASTERISKS ALIGNED VERTICALLY,
    COMMERCIAL MINUS SIGN, SWUNG DASH, INVERTED UNDERTIE, FLOWER PUNCTUATION MARK,
    QUADRUPLE PRIME, FOUR DOT PUNCTUATION, FIVE DOT PUNCTUATION, TWO DOT PUNCTUATION,
    FOUR DOT MARK, DOTTED CROSS, TRICOLON, VERTICAL FOUR DOTS, EURO-CURRENCY SIGN, COLON SIGN,
    CRUZEIRO SIGN, FRENCH FRANC SIGN, LIRA SIGN, MILL SIGN, NAIRA SIGN, PESETA SIGN, RUPEE SIGN,
    WON SIGN, NEW SHEQEL SIGN, DONG SIGN, EURO SIGN, KIP SIGN, TUGRIK SIGN, DRACHMA SIGN,
    GERMAN PENNY SIGN, PESO SIGN, GUARANI SIGN, AUSTRAL SIGN, HRYVNIA SIGN, CEDI SIGN,
    LIVRE TOURNOIS SIGN, SPESMILO SIGN, TENGE SIGN, INDIAN RUPEE SIGN, TURKISH LIRA SIGN,
    NORDIC MARK SIGN, MANAT SIGN, RUBLE SIGN, LARI SIGN, BITCOIN SIGN, SOM SIGN, ACCOUNT OF,
    ADDRESSED TO THE SUBJECT, DEGREE CELSIUS, CENTRE LINE SYMBOL, CARE OF, CADA UNA,
    EULER CONSTANT, SCRUPLE, DEGREE FAHRENHEIT, SCRIPT SMALL G, BLACK-LETTER CAPITAL H,
    PLANCK CONSTANT, PLANCK CONSTANT OVER TWO PI, BLACK-LETTER CAPITAL I, SCRIPT SMALL L,
    L B BAR SYMBOL, NUMERO SIGN, SOUND RECORDING COPYRIGHT, BLACK-LETTER CAPITAL R,
    PRESCRIPTION TAKE, RESPONSE, SERVICE MARK, TELEPHONE SIGN, TRADE MARK SIGN, VERSICLE,
    OUNCE SIGN, OHM SIGN, INVERTED OHM SIGN, BLACK-LETTER CAPITAL Z, KELVIN SIGN, ANGSTROM SIGN,
    BLACK-LETTER CAPITAL C, ESTIMATED SYMBOL, SCRIPT SMALL E, SCRIPT SMALL O, ALEF SYMBOL,
    BET SYMBOL, GIMEL SYMBOL, DALET SYMBOL, INFORMATION SOURCE, ROTATED CAPITAL Q, FACSIMILE SIGN,
    DOUBLE-STRUCK SMALL PI, DOUBLE-STRUCK SMALL GAMMA, DOUBLE-STRUCK N-ARY SUMMATION,
    DOUBLE-STRUCK ITALIC CAPITAL D, DOUBLE-STRUCK ITALIC SMALL D, DOUBLE-STRUCK ITALIC SMALL E,
    DOUBLE-STRUCK ITALIC SMALL I, DOUBLE-STRUCK ITALIC SMALL J, PROPERTY LINE, PER SIGN,
    AKTIESELSKAB, SYMBOL FOR SAMARITAN SOURCE, FRACTION NUMERATOR ONE, UP DOWN ARROW,
    NORTH WEST ARROW, NORTH EAST ARROW, SOUTH EAST ARROW, SOUTH WEST ARROW,
    UP DOWN ARROW WITH BASE, ANTICLOCKWISE TOP SEMICIRCLE ARROW, CLOCKWISE TOP SEMICIRCLE ARROW,
    NORTH WEST ARROW TO LONG BAR, ANTICLOCKWISE OPEN CIRCLE ARROW, CLOCKWISE OPEN CIRCLE ARROW,
    UP DOWN DOUBLE ARROW, NORTH WEST DOUBLE ARROW, NORTH EAST DOUBLE ARROW,
    SOUTH EAST DOUBLE ARROW, SOUTH WEST DOUBLE ARROW, NORTH WEST ARROW TO CORNER,
    SOUTH EAST ARROW TO CORNER, UP DOWN WHITE ARROW, FOR ALL, COMPLEMENT, PARTIAL DIFFERENTIAL,
    THERE EXISTS, THERE DOES NOT EXIST, EMPTY SET, INCREMENT, NABLA, ELEMENT OF,
    CONTAINS AS MEMBER, N-ARY PRODUCT, N-ARY COPRODUCT, N-ARY SUMMATION, MINUS SIGN,
    MINUS-OR-PLUS SIGN, DOT PLUS, DIVISION SLASH, SET MINUS, ASTERISK OPERATOR, RING OPERATOR,
    BULLET OPERATOR, CUBE ROOT, FOURTH ROOT, PROPORTIONAL TO, INFINITY, ANGLE, MEASURED ANGLE,
    SPHERICAL ANGLE, DIVIDES, PARALLEL TO, LOGICAL AND, LOGICAL OR, INTERSECTION, UNION, INTEGRAL,
    TRIPLE INTEGRAL, CONTOUR INTEGRAL, SURFACE INTEGRAL, VOLUME INTEGRAL, CLOCKWISE INTEGRAL,
    CLOCKWISE CONTOUR INTEGRAL, ANTICLOCKWISE CONTOUR INTEGRAL, THEREFORE, BECAUSE, RATIO,
    PROPORTION, DOT MINUS, EXCESS, GEOMETRIC PROPORTION, HOMOTHETIC, TILDE OPERATOR,
    INVERTED LAZY S, SINE WAVE, WREATH PRODUCT, MINUS TILDE, ASYMPTOTICALLY EQUAL TO,
    APPROXIMATELY EQUAL TO, APPROXIMATELY BUT NOT ACTUALLY EQUAL TO, ALMOST EQUAL TO,
    ALMOST EQUAL OR EQUAL TO, TRIPLE TILDE, ALL EQUAL TO, EQUIVALENT TO,
    GEOMETRICALLY EQUIVALENT TO, DIFFERENCE BETWEEN, APPROACHES THE LIMIT, GEOMETRICALLY EQUAL TO,
    APPROXIMATELY EQUAL TO OR THE IMAGE OF, IMAGE OF OR APPROXIMATELY EQUAL TO, COLON EQUALS,
    EQUALS COLON, RING IN EQUAL TO, RING EQUAL TO, CORRESPONDS TO, ESTIMATES, EQUIANGULAR TO,
    STAR EQUALS, DELTA EQUAL TO, EQUAL TO BY DEFINITION, MEASURED BY, QUESTIONED EQUAL TO,
    IDENTICAL TO, STRICTLY EQUIVALENT TO, MUCH LESS-THAN, MUCH GREATER-THAN, BETWEEN, PRECEDES,
    SUCCEEDS, PRECEDES OR EQUAL TO, SUCCEEDS OR EQUAL TO, PRECEDES OR EQUIVALENT TO,
    SUCCEEDS OR EQUIVALENT TO, SUBSET OF, SUPERSET OF, SUBSET OF OR EQUAL TO,
    SUPERSET OF OR EQUAL TO, SUBSET OF WITH NOT EQUAL TO, SUPERSET OF WITH NOT EQUAL TO, MULTISET,
    MULTISET MULTIPLICATION, MULTISET UNION, SQUARED PLUS, SQUARED MINUS, SQUARED TIMES,
    SQUARED DOT OPERATOR, DOWN TACK, UP TACK, ASSERTION, MODELS, TRUE, FORCES,
    TRIPLE VERTICAL BAR RIGHT TURNSTILE, NEGATED DOUBLE VERTICAL BAR DOUBLE RIGHT TURNSTILE,
    PRECEDES UNDER RELATION, SUCCEEDS UNDER RELATION, NORMAL SUBGROUP OF,
    CONTAINS AS NORMAL SUBGROUP, NORMAL SUBGROUP OF OR EQUAL TO,
    CONTAINS AS NORMAL SUBGROUP OR EQUAL TO, ORIGINAL OF, IMAGE OF, MULTIMAP,
    HERMITIAN CONJUGATE MATRIX, INTERCALATE, XOR, NAND, NOR, N-ARY LOGICAL AND, N-ARY LOGICAL OR,
    N-ARY INTERSECTION, N-ARY UNION, DIAMOND OPERATOR, DOT OPERATOR, STAR OPERATOR,
    DIVISION TIMES, BOWTIE, CURLY LOGICAL OR, CURLY LOGICAL AND, PITCHFORK, EQUAL AND PARALLEL TO,
    VERY MUCH LESS-THAN, VERY MUCH GREATER-THAN, EQUAL TO OR LESS-THAN, EQUAL TO OR GREATER-THAN,
    EQUAL TO OR PRECEDES, EQUAL TO OR SUCCEEDS, PRECEDES BUT NOT EQUIVALENT TO,
    SUCCEEDS BUT NOT EQUIVALENT TO, VERTICAL ELLIPSIS, MIDLINE HORIZONTAL ELLIPSIS,
    UP RIGHT DIAGONAL ELLIPSIS, DOWN RIGHT DIAGONAL ELLIPSIS,
    ELEMENT OF WITH LONG HORIZONTAL STROKE,
    ELEMENT OF WITH VERTICAL BAR AT END OF HORIZONTAL STROKE, ELEMENT OF WITH DOT ABOVE,
    ELEMENT OF WITH OVERBAR, ELEMENT OF WITH UNDERBAR, ELEMENT OF WITH TWO HORIZONTAL STROKES,
    CONTAINS WITH LONG HORIZONTAL STROKE, CONTAINS WITH VERTICAL BAR AT END OF HORIZONTAL STROKE,
    CONTAINS WITH OVERBAR, Z NOTATION BAG MEMBERSHIP, FULL BLOCK, LIGHT SHADE, DARK SHADE,
    FISHEYE, LOZENGE, DOTTED CIRCLE, CIRCLE WITH VERTICAL FILL, BULLSEYE,
    CIRCLE WITH LEFT HALF BLACK, CIRCLE WITH RIGHT HALF BLACK, CIRCLE WITH LOWER HALF BLACK,
    CIRCLE WITH UPPER HALF BLACK, CIRCLE WITH UPPER RIGHT QUADRANT BLACK,
    CIRCLE WITH ALL BUT UPPER LEFT QUADRANT BLACK, INVERSE BULLET, INVERSE WHITE CIRCLE,
    UP-POINTING TRIANGLE WITH LEFT HALF BLACK, UP-POINTING TRIANGLE WITH RIGHT HALF BLACK,
    LARGE CIRCLE, CLOUD, UMBRELLA, SNOWMAN, COMET, LIGHTNING, THUNDERSTORM, SUN, ASCENDING NODE,
    DESCENDING NODE, CONJUNCTION, OPPOSITION, SALTIRE, UMBRELLA WITH RAIN DROPS, HOT BEVERAGE,
    SHAMROCK, SKULL AND CROSSBONES, CAUTION SIGN, RADIOACTIVE SIGN, BIOHAZARD SIGN, CADUCEUS,
    ANKH, ORTHODOX CROSS, CHI RHO, CROSS OF LORRAINE, CROSS OF JERUSALEM, STAR AND CRESCENT,
    FARSI SYMBOL, ADI SHAKTI, HAMMER AND SICKLE, PEACE SYMBOL, YIN YANG, TRIGRAM FOR HEAVEN,
    TRIGRAM FOR LAKE, TRIGRAM FOR FIRE, TRIGRAM FOR THUNDER, TRIGRAM FOR WIND, TRIGRAM FOR WATER,
    TRIGRAM FOR MOUNTAIN, TRIGRAM FOR EARTH, WHEEL OF DHARMA, FIRST QUARTER MOON,
    LAST QUARTER MOON, MERCURY, FEMALE SIGN, EARTH, MALE SIGN, JUPITER, SATURN, URANUS, NEPTUNE,
    PLUTO, ARIES, TAURUS, GEMINI, CANCER, LEO, VIRGO, LIBRA, SCORPIUS, SAGITTARIUS, CAPRICORN,
    AQUARIUS, PISCES, HOT SPRINGS, QUARTER NOTE, EIGHTH NOTE, BEAMED EIGHTH NOTES,
    BEAMED SIXTEENTH NOTES, MUSIC FLAT SIGN, MUSIC NATURAL SIGN, MUSIC SHARP SIGN,
    WEST SYRIAC CROSS, EAST SYRIAC CROSS, UNIVERSAL RECYCLING SYMBOL,
    RECYCLING SYMBOL FOR TYPE-1 PLASTICS, RECYCLING SYMBOL FOR TYPE-2 PLASTICS,
    RECYCLING SYMBOL FOR TYPE-3 PLASTICS, RECYCLING SYMBOL FOR TYPE-4 PLASTICS,
    RECYCLING SYMBOL FOR TYPE-5 PLASTICS, RECYCLING SYMBOL FOR TYPE-6 PLASTICS,
    RECYCLING SYMBOL FOR TYPE-7 PLASTICS, RECYCLING SYMBOL FOR GENERIC MATERIALS,
    RECYCLED PAPER SYMBOL, PARTIALLY-RECYCLED PAPER SYMBOL, PERMANENT PAPER SIGN,
    WHEELCHAIR SYMBOL, DIE FACE-1, DIE FACE-2, DIE FACE-3, DIE FACE-4, DIE FACE-5, DIE FACE-6,
    MONOGRAM FOR YANG, MONOGRAM FOR YIN, DIGRAM FOR GREATER YANG, DIGRAM FOR LESSER YIN,
    DIGRAM FOR LESSER YANG, DIGRAM FOR GREATER YIN, HAMMER AND PICK, ANCHOR, CROSSED SWORDS,
    STAFF OF AESCULAPIUS, SCALES, ALEMBIC, FLOWER, GEAR, STAFF OF HERMES, ATOM SYMBOL,
    FLEUR-DE-LIS, OUTLINED WHITE STAR, WARNING SIGN, HIGH VOLTAGE SIGN, DOUBLED FEMALE SIGN,
    DOUBLED MALE SIGN, INTERLOCKED FEMALE AND MALE SIGN, MALE AND FEMALE SIGN,
    MALE WITH STROKE SIGN, MALE WITH STROKE AND MALE AND FEMALE SIGN,
    VERTICAL MALE WITH STROKE SIGN, HORIZONTAL MALE WITH STROKE SIGN, MARRIAGE SYMBOL,
    DIVORCE SYMBOL, UNMARRIED PARTNERSHIP SYMBOL, COFFIN, FUNERAL URN, NEUTER, CERES, PALLAS,
    JUNO, VESTA, CHIRON, SEXTILE, SEMISEXTILE, QUINCUNX, SESQUIQUADRATE, SOCCER BALL, BASEBALL,
    SQUARED KEY, SNOWMAN WITHOUT SNOW, SUN BEHIND CLOUD, RAIN, THUNDER CLOUD AND RAIN,
    CROSSING LANES, DISABLED CAR, OPHIUCHUS, PICK, CAR SLIDING, HELMET WITH WHITE CROSS, CHAINS,
    ALTERNATE ONE-WAY LEFT WAY TRAFFIC, DRIVE SLOW SIGN, SQUARED SALTIRE,
    FALLING DIAGONAL IN WHITE CIRCLE IN BLACK SQUARE, RESTRICTED LEFT ENTRY-1,
    RESTRICTED LEFT ENTRY-2, ASTRONOMICAL SYMBOL FOR URANUS, PENTAGRAM,
    RIGHT-HANDED INTERLACED PENTAGRAM, LEFT-HANDED INTERLACED PENTAGRAM, INVERTED PENTAGRAM,
    SHINTO SHRINE, CHURCH, CASTLE, HISTORIC SITE, GEAR WITHOUT HUB, GEAR WITH HANDLES,
    MAP SYMBOL FOR LIGHTHOUSE, MOUNTAIN, UMBRELLA ON GROUND, FOUNTAIN, FLAG IN HOLE, FERRY,
    SAILBOAT, SKIER, ICE SKATE, TENT, JAPANESE BANK SYMBOL, HEADSTONE GRAVEYARD SYMBOL, FUEL PUMP,
    CUP ON BLACK SQUARE, TELEPHONE LOCATION SIGN, TAPE DRIVE, AIRPLANE, ENVELOPE, RAISED FIST,
    RAISED HAND, VICTORY HAND, WRITING HAND, PENCIL, CHECK MARK, MULTIPLICATION X,
    OUTLINED GREEK CROSS, LATIN CROSS, SHADOWED WHITE LATIN CROSS, OUTLINED LATIN CROSS,
    MALTESE CROSS, STAR OF DAVID, FOUR TEARDROP-SPOKED ASTERISK, FOUR BALLOON-SPOKED ASTERISK,
    FOUR CLUB-SPOKED ASTERISK, SPARKLES, STRESS OUTLINED WHITE STAR, OUTLINED BLACK STAR,
    PINWHEEL STAR, SHADOWED WHITE STAR, EIGHT SPOKED ASTERISK, EIGHT POINTED BLACK STAR,
    EIGHT POINTED PINWHEEL STAR, SIX POINTED BLACK STAR, EIGHT POINTED RECTILINEAR BLACK STAR,
    TWELVE POINTED BLACK STAR, SIXTEEN POINTED ASTERISK, TEARDROP-SPOKED ASTERISK,
    SIX PETALLED BLACK AND WHITE FLORETTE, EIGHT PETALLED OUTLINED BLACK FLORETTE, SNOWFLAKE,
    TIGHT TRIFOLIATE SNOWFLAKE, SPARKLE, BALLOON-SPOKED ASTERISK,
    EIGHT TEARDROP-SPOKED PROPELLER ASTERISK, CROSS MARK, SHADOWED WHITE CIRCLE,
    NEGATIVE SQUARED CROSS MARK, LIGHT VERTICAL BAR, CURVED STEM PARAGRAPH SIGN ORNAMENT,
    ROTATED HEAVY BLACK HEART BULLET, FLORAL HEART, ROTATED FLORAL HEART BULLET,
    LIGHT LEFT TORTOISE SHELL BRACKET ORNAMENT, LIGHT RIGHT TORTOISE SHELL BRACKET ORNAMENT,
    DINGBAT NEGATIVE CIRCLED NUMBER TEN, DINGBAT CIRCLED SANS-SERIF NUMBER TEN,
    DINGBAT NEGATIVE CIRCLED SANS-SERIF NUMBER TEN, DRAFTING POINT RIGHTWARDS ARROW,
    TRIANGLE-HEADED RIGHTWARDS ARROW, DASHED TRIANGLE-HEADED RIGHTWARDS ARROW,
    THREE-D TOP-LIGHTED RIGHTWARDS ARROWHEAD, THREE-D BOTTOM-LIGHTED RIGHTWARDS ARROWHEAD,
    SQUAT BLACK RIGHTWARDS ARROW, RIGHT-SHADED WHITE RIGHTWARDS ARROW,
    LEFT-SHADED WHITE RIGHTWARDS ARROW, BACK-TILTED SHADOWED WHITE RIGHTWARDS ARROW,
    FRONT-TILTED SHADOWED WHITE RIGHTWARDS ARROW,
    NOTCHED LOWER RIGHT-SHADOWED WHITE RIGHTWARDS ARROW, CURLY LOOP,
    NOTCHED UPPER RIGHT-SHADOWED WHITE RIGHTWARDS ARROW, WHITE-FEATHERED RIGHTWARDS ARROW,
    BLACK-FEATHERED SOUTH EAST ARROW, BLACK-FEATHERED RIGHTWARDS ARROW,
    BLACK-FEATHERED NORTH EAST ARROW, TEARDROP-BARBED RIGHTWARDS ARROW,
    WEDGE-TAILED RIGHTWARDS ARROW, OPEN-OUTLINED RIGHTWARDS ARROW, CYCLONE, FOGGY,
    CLOSED UMBRELLA, NIGHT WITH STARS, SUNRISE OVER MOUNTAINS, SUNRISE, CITYSCAPE AT DUSK,
    SUNSET OVER BUILDINGS, RAINBOW, BRIDGE AT NIGHT, WATER WAVE, VOLCANO, MILKY WAY,
    EARTH GLOBE EUROPE-AFRICA, EARTH GLOBE AMERICAS, EARTH GLOBE ASIA-AUSTRALIA,
    GLOBE WITH MERIDIANS, NEW MOON SYMBOL, WAXING CRESCENT MOON SYMBOL, FIRST QUARTER MOON SYMBOL,
    WAXING GIBBOUS MOON SYMBOL, FULL MOON SYMBOL, WANING GIBBOUS MOON SYMBOL,
    LAST QUARTER MOON SYMBOL, WANING CRESCENT MOON SYMBOL, CRESCENT MOON, NEW MOON WITH FACE,
    FIRST QUARTER MOON WITH FACE, LAST QUARTER MOON WITH FACE, FULL MOON WITH FACE, SUN WITH FACE,
    GLOWING STAR, SHOOTING STAR, THERMOMETER, CLOUD WITH RAIN, CLOUD WITH SNOW,
    CLOUD WITH LIGHTNING, CLOUD WITH TORNADO, FOG, WIND BLOWING FACE, HOT DOG, TACO, BURRITO,
    CHESTNUT, SEEDLING, EVERGREEN TREE, DECIDUOUS TREE, PALM TREE, CACTUS, HOT PEPPER, TULIP,
    CHERRY BLOSSOM, ROSE, HIBISCUS, SUNFLOWER, BLOSSOM, EAR OF MAIZE, EAR OF RICE, HERB,
    FOUR LEAF CLOVER, MAPLE LEAF, FALLEN LEAF, LEAF FLUTTERING IN WIND, MUSHROOM, TOMATO,
    AUBERGINE, GRAPES, MELON, WATERMELON, TANGERINE, LEMON, BANANA, PINEAPPLE, RED APPLE,
    GREEN APPLE, PEAR, PEACH, CHERRIES, STRAWBERRY, HAMBURGER, SLICE OF PIZZA, MEAT ON BONE,
    POULTRY LEG, RICE CRACKER, RICE BALL, COOKED RICE, CURRY AND RICE, STEAMING BOWL, SPAGHETTI,
    BREAD, FRENCH FRIES, ROASTED SWEET POTATO, DANGO, ODEN, SUSHI, FRIED SHRIMP,
    FISH CAKE WITH SWIRL DESIGN, SOFT ICE CREAM, SHAVED ICE, ICE CREAM, DOUGHNUT, COOKIE,
    CHOCOLATE BAR, CANDY, LOLLIPOP, CUSTARD, HONEY POT, SHORTCAKE, BENTO BOX, POT OF FOOD,
    COOKING, FORK AND KNIFE, TEACUP WITHOUT HANDLE, SAKE BOTTLE AND CUP, WINE GLASS,
    COCKTAIL GLASS, TROPICAL DRINK, BEER MUG, CLINKING BEER MUGS, BABY BOTTLE,
    FORK AND KNIFE WITH PLATE, BOTTLE WITH POPPING CORK, POPCORN, RIBBON, WRAPPED PRESENT,
    BIRTHDAY CAKE, JACK-O-LANTERN, CHRISTMAS TREE, FATHER CHRISTMAS, FIREWORKS, FIREWORK SPARKLER,
    BALLOON, PARTY POPPER, CONFETTI BALL, TANABATA TREE, CROSSED FLAGS, PINE DECORATION,
    JAPANESE DOLLS, CARP STREAMER, WIND CHIME, MOON VIEWING CEREMONY, SCHOOL SATCHEL,
    GRADUATION CAP, HEART WITH TIP ON THE LEFT, BOUQUET OF FLOWERS, MILITARY MEDAL,
    REMINDER RIBBON, MUSICAL KEYBOARD WITH JACKS, STUDIO MICROPHONE, LEVEL SLIDER, CONTROL KNOBS,
    BEAMED ASCENDING MUSICAL NOTES, BEAMED DESCENDING MUSICAL NOTES, FILM FRAMES,
    ADMISSION TICKETS, CAROUSEL HORSE, FERRIS WHEEL, ROLLER COASTER, FISHING POLE AND FISH,
    MICROPHONE, MOVIE CAMERA, CINEMA, HEADPHONE, ARTIST PALETTE, TOP HAT, CIRCUS TENT, TICKET,
    CLAPPER BOARD, PERFORMING ARTS, VIDEO GAME, DIRECT HIT, SLOT MACHINE, BILLIARDS, GAME DIE,
    BOWLING, FLOWER PLAYING CARDS, MUSICAL NOTE, MULTIPLE MUSICAL NOTES, SAXOPHONE, GUITAR,
    MUSICAL KEYBOARD, TRUMPET, VIOLIN, MUSICAL SCORE, RUNNING SHIRT WITH SASH,
    TENNIS RACQUET AND BALL, SKI AND SKI BOOT, BASKETBALL AND HOOP, CHEQUERED FLAG, SNOWBOARDER,
    RUNNER, SURFER, SPORTS MEDAL, TROPHY, HORSE RACING, AMERICAN FOOTBALL, RUGBY FOOTBALL,
    SWIMMER, WEIGHT LIFTER, GOLFER, RACING MOTORCYCLE, RACING CAR, CRICKET BAT AND BALL,
    VOLLEYBALL, FIELD HOCKEY STICK AND BALL, ICE HOCKEY STICK AND PUCK,
    TABLE TENNIS PADDLE AND BALL, SNOW CAPPED MOUNTAIN, CAMPING, BEACH WITH UMBRELLA,
    BUILDING CONSTRUCTION, HOUSE BUILDINGS, CITYSCAPE, DERELICT HOUSE BUILDING,
    CLASSICAL BUILDING, DESERT, DESERT ISLAND, NATIONAL PARK, STADIUM, HOUSE BUILDING,
    HOUSE WITH GARDEN, OFFICE BUILDING, JAPANESE POST OFFICE, EUROPEAN POST OFFICE, HOSPITAL,
    BANK, AUTOMATED TELLER MACHINE, HOTEL, LOVE HOTEL, CONVENIENCE STORE, SCHOOL,
    DEPARTMENT STORE, FACTORY, IZAKAYA LANTERN, JAPANESE CASTLE, EUROPEAN CASTLE,
    WAVING WHITE FLAG, WAVING BLACK FLAG, ROSETTE, LABEL, BADMINTON RACQUET AND SHUTTLECOCK,
    BOW AND ARROW, AMPHORA, RAT, MOUSE, OX, WATER BUFFALO, COW, TIGER, LEOPARD, RABBIT, CAT,
    DRAGON, CROCODILE, WHALE, SNAIL, SNAKE, HORSE, RAM, GOAT, SHEEP, MONKEY, ROOSTER, CHICKEN,
    DOG, PIG, BOAR, ELEPHANT, OCTOPUS, SPIRAL SHELL, BUG, ANT, HONEYBEE, LADY BEETLE, FISH,
    TROPICAL FISH, BLOWFISH, TURTLE, HATCHING CHICK, BABY CHICK, FRONT-FACING BABY CHICK, BIRD,
    PENGUIN, KOALA, POODLE, DROMEDARY CAMEL, BACTRIAN CAMEL, DOLPHIN, MOUSE FACE, COW FACE,
    TIGER FACE, RABBIT FACE, CAT FACE, DRAGON FACE, SPOUTING WHALE, HORSE FACE, MONKEY FACE,
    DOG FACE, PIG FACE, FROG FACE, HAMSTER FACE, WOLF FACE, BEAR FACE, PANDA FACE, PIG NOSE,
    PAW PRINTS, CHIPMUNK, EYES, EYE, EAR, NOSE, MOUTH, TONGUE, FISTED HAND SIGN, WAVING HAND SIGN,
    OK HAND SIGN, THUMBS UP SIGN, THUMBS DOWN SIGN, CLAPPING HANDS SIGN, CROWN, WOMANS HAT,
    EYEGLASSES, NECKTIE, T-SHIRT, JEANS, DRESS, KIMONO, BIKINI, WOMANS CLOTHES, PURSE, HANDBAG,
    POUCH, MANS SHOE, ATHLETIC SHOE, HIGH-HEELED SHOE, WOMANS SANDAL, WOMANS BOOTS, FOOTPRINTS,
    BUST IN SILHOUETTE, BUSTS IN SILHOUETTE, BOY, GIRL, MAN, WOMAN, FAMILY,
    MAN AND WOMAN HOLDING HANDS, TWO MEN HOLDING HANDS, TWO WOMEN HOLDING HANDS, POLICE OFFICER,
    WOMAN WITH BUNNY EARS, BRIDE WITH VEIL, MAN WITH GUA PI MAO, MAN WITH TURBAN, OLDER MAN,
    OLDER WOMAN, BABY, CONSTRUCTION WORKER, PRINCESS, JAPANESE OGRE, JAPANESE GOBLIN, GHOST,
    BABY ANGEL, EXTRATERRESTRIAL ALIEN, ALIEN MONSTER, IMP, SKULL, INFORMATION DESK PERSON,
    GUARDSMAN, DANCER, LIPSTICK, NAIL POLISH, FACE MASSAGE, HAIRCUT, BARBER POLE, SYRINGE, PILL,
    KISS MARK, LOVE LETTER, RING, GEM STONE, KISS, BOUQUET, COUPLE WITH HEART, WEDDING,
    BEATING HEART, BROKEN HEART, TWO HEARTS, SPARKLING HEART, GROWING HEART, HEART WITH ARROW,
    BLUE HEART, GREEN HEART, YELLOW HEART, PURPLE HEART, HEART WITH RIBBON, REVOLVING HEARTS,
    HEART DECORATION, DIAMOND SHAPE WITH A DOT INSIDE, ELECTRIC LIGHT BULB, ANGER SYMBOL, BOMB,
    SLEEPING SYMBOL, COLLISION SYMBOL, SPLASHING SWEAT SYMBOL, DROPLET, DASH SYMBOL, PILE OF POO,
    FLEXED BICEPS, DIZZY SYMBOL, SPEECH BALLOON, THOUGHT BALLOON, HUNDRED POINTS SYMBOL,
    MONEY BAG, CURRENCY EXCHANGE, CREDIT CARD, BANKNOTE WITH YEN SIGN, BANKNOTE WITH DOLLAR SIGN,
    BANKNOTE WITH EURO SIGN, BANKNOTE WITH POUND SIGN, MONEY WITH WINGS,
    CHART WITH UPWARDS TREND AND YEN SIGN, SEAT, PERSONAL COMPUTER, BRIEFCASE, MINIDISC,
    FLOPPY DISK, OPTICAL DISC, DVD, FILE FOLDER, PAGE WITH CURL, PAGE FACING UP, CALENDAR,
    TEAR-OFF CALENDAR, CARD INDEX, CHART WITH UPWARDS TREND, CHART WITH DOWNWARDS TREND,
    BAR CHART, CLIPBOARD, PUSHPIN, ROUND PUSHPIN, PAPERCLIP, STRAIGHT RULER, TRIANGULAR RULER,
    BOOKMARK TABS, LEDGER, NOTEBOOK, NOTEBOOK WITH DECORATIVE COVER, CLOSED BOOK, GREEN BOOK,
    BLUE BOOK, ORANGE BOOK, BOOKS, NAME BADGE, SCROLL, MEMO, TELEPHONE RECEIVER, PAGER,
    FAX MACHINE, SATELLITE ANTENNA, PUBLIC ADDRESS LOUDSPEAKER, CHEERING MEGAPHONE, OUTBOX TRAY,
    INBOX TRAY, PACKAGE, E-MAIL SYMBOL, INCOMING ENVELOPE, ENVELOPE WITH DOWNWARDS ARROW ABOVE,
    CLOSED MAILBOX WITH LOWERED FLAG, CLOSED MAILBOX WITH RAISED FLAG, POSTBOX, POSTAL HORN,
    NEWSPAPER, MOBILE PHONE, MOBILE PHONE WITH RIGHTWARDS ARROW AT LEFT, VIBRATION MODE,
    MOBILE PHONE OFF, ANTENNA WITH BARS, CAMERA, CAMERA WITH FLASH, VIDEO CAMERA, TELEVISION,
    RADIO, VIDEOCASSETTE, FILM PROJECTOR, PORTABLE STEREO, PRAYER BEADS,
    TWISTED RIGHTWARDS ARROWS, CLOCKWISE RIGHTWARDS AND LEFTWARDS OPEN CIRCLE ARROWS,
    CLOCKWISE RIGHTWARDS AND LEFTWARDS OPEN CIRCLE ARROWS WITH CIRCLED ONE OVERLAY,
    CLOCKWISE DOWNWARDS AND UPWARDS OPEN CIRCLE ARROWS,
    ANTICLOCKWISE DOWNWARDS AND UPWARDS OPEN CIRCLE ARROWS, LOW BRIGHTNESS SYMBOL,
    HIGH BRIGHTNESS SYMBOL, SPEAKER WITH CANCELLATION STROKE, SPEAKER,
    SPEAKER WITH ONE SOUND WAVE, SPEAKER WITH THREE SOUND WAVES, BATTERY, ELECTRIC PLUG,
    LEFT-POINTING MAGNIFYING GLASS, RIGHT-POINTING MAGNIFYING GLASS, LOCK WITH INK PEN,
    CLOSED LOCK WITH KEY, KEY, LOCK, BELL, BELL WITH CANCELLATION STROKE, BOOKMARK, LINK SYMBOL,
    RADIO BUTTON, BACK WITH LEFTWARDS ARROW ABOVE, END WITH LEFTWARDS ARROW ABOVE,
    ON WITH EXCLAMATION MARK WITH LEFT RIGHT ARROW ABOVE, SOON WITH RIGHTWARDS ARROW ABOVE,
    TOP WITH UPWARDS ARROW ABOVE, KEYCAP TEN, INPUT SYMBOL FOR LATIN CAPITAL LETTERS,
    INPUT SYMBOL FOR LATIN SMALL LETTERS, INPUT SYMBOL FOR NUMBERS, INPUT SYMBOL FOR SYMBOLS,
    INPUT SYMBOL FOR LATIN LETTERS, FIRE, ELECTRIC TORCH, WRENCH, HAMMER, NUT AND BOLT, HOCHO,
    PISTOL, MICROSCOPE, TELESCOPE, CRYSTAL BALL, SIX POINTED STAR WITH MIDDLE DOT,
    JAPANESE SYMBOL FOR BEGINNER, TRIDENT EMBLEM, LARGE RED CIRCLE, LARGE BLUE CIRCLE,
    LARGE ORANGE DIAMOND, LARGE BLUE DIAMOND, UP-POINTING RED TRIANGLE,
    DOWN-POINTING RED TRIANGLE, UP-POINTING SMALL RED TRIANGLE, DOWN-POINTING SMALL RED TRIANGLE,
    CROSS POMMEE WITH HALF-CIRCLE BELOW, CROSS POMMEE, NOTCHED LEFT SEMICIRCLE WITH THREE DOTS,
    NOTCHED RIGHT SEMICIRCLE WITH THREE DOTS, SYMBOL FOR MARKS CHAPTER, CELTIC CROSS, OM SYMBOL,
    DOVE OF PEACE, KAABA, MOSQUE, SYNAGOGUE, MENORAH WITH NINE BRANCHES, BOWL OF HYGIEIA,
    BULLHORN, BULLHORN WITH SOUND WAVES, RINGING BELL, BOOK, CANDLE, MANTELPIECE CLOCK, HOLE,
    MAN IN BUSINESS SUIT LEVITATING, SLEUTH OR SPY, DARK SUNGLASSES, SPIDER, SPIDER WEB, JOYSTICK,
    MAN DANCING, TELEPHONE RECEIVER WITH PAGE, TELEPHONE ON TOP OF MODEM, CLAMSHELL MOBILE PHONE,
    BACK OF ENVELOPE, STAMPED ENVELOPE, ENVELOPE WITH LIGHTNING, FLYING ENVELOPE,
    PEN OVER STAMPED ENVELOPE, LINKED PAPERCLIPS, RAISED HAND WITH FINGERS SPLAYED,
    RAISED HAND WITH PART BETWEEN MIDDLE AND RING FINGERS, SIDEWAYS WHITE LEFT POINTING INDEX,
    SIDEWAYS WHITE RIGHT POINTING INDEX, SIDEWAYS BLACK LEFT POINTING INDEX,
    SIDEWAYS BLACK RIGHT POINTING INDEX, SIDEWAYS WHITE UP POINTING INDEX,
    SIDEWAYS WHITE DOWN POINTING INDEX, SIDEWAYS BLACK UP POINTING INDEX,
    SIDEWAYS BLACK DOWN POINTING INDEX, DESKTOP COMPUTER, KEYBOARD AND MOUSE, PRINTER,
    POCKET CALCULATOR, SOFT SHELL FLOPPY DISK, TAPE CARTRIDGE, WIRED KEYBOARD, ONE BUTTON MOUSE,
    TWO BUTTON MOUSE, TRACKBALL, OLD PERSONAL COMPUTER, HARD DISK, SCREEN, PRINTER ICON, FAX ICON,
    OPTICAL DISC ICON, DOCUMENT WITH TEXT, DOCUMENT WITH TEXT AND PICTURE, DOCUMENT WITH PICTURE,
    FRAME WITH PICTURE, FRAME WITH TILES, FRAME WITH AN X, FOLDER, CARD INDEX DIVIDERS,
    CARD FILE BOX, FILE CABINET, EMPTY NOTE, EMPTY NOTE PAGE, EMPTY NOTE PAD, NOTE, NOTE PAGE,
    NOTE PAD, EMPTY DOCUMENT, EMPTY PAGE, EMPTY PAGES, DOCUMENT, PAGE, PAGES, WASTEBASKET,
    SPIRAL NOTE PAD, SPIRAL CALENDAR PAD, DESKTOP WINDOW, MINIMIZE, MAXIMIZE, OVERLAP,
    CLOCKWISE RIGHT AND LEFT SEMICIRCLE ARROWS, CANCELLATION X, INCREASE FONT SIZE SYMBOL,
    DECREASE FONT SIZE SYMBOL, COMPRESSION, OLD KEY, ROLLED-UP NEWSPAPER, PAGE WITH CIRCLED TEXT,
    STOCK CHART, DAGGER KNIFE, LIPS, SPEAKING HEAD IN SILHOUETTE, TWO SPEECH BUBBLES, MOOD BUBBLE,
    LIGHTNING MOOD BUBBLE, LIGHTNING MOOD, LIGHT CHECK MARK, WORLD MAP, MOUNT FUJI, TOKYO TOWER,
    STATUE OF LIBERTY, SILHOUETTE OF JAPAN, MOYAI, GRINNING FACE, GRINNING FACE WITH SMILING EYES,
    WINKING FACE, FACE SAVOURING DELICIOUS FOOD, RELIEVED FACE, SMIRKING FACE, NEUTRAL FACE,
    EXPRESSIONLESS FACE, UNAMUSED FACE, PENSIVE FACE, CONFUSED FACE, CONFOUNDED FACE,
    KISSING FACE, FACE THROWING A KISS, KISSING FACE WITH SMILING EYES,
    KISSING FACE WITH CLOSED EYES, DISAPPOINTED FACE, WORRIED FACE, ANGRY FACE, POUTING FACE,
    CRYING FACE, PERSEVERING FACE, DISAPPOINTED BUT RELIEVED FACE, FROWNING FACE WITH OPEN MOUTH,
    ANGUISHED FACE, FEARFUL FACE, WEARY FACE, SLEEPY FACE, TIRED FACE, GRIMACING FACE,
    LOUDLY CRYING FACE, HUSHED FACE, FACE SCREAMING IN FEAR, ASTONISHED FACE, FLUSHED FACE,
    SLEEPING FACE, DIZZY FACE, FACE WITHOUT MOUTH, GRINNING CAT FACE WITH SMILING EYES,
    CAT FACE WITH TEARS OF JOY, SMILING CAT FACE WITH OPEN MOUTH,
    SMILING CAT FACE WITH HEART-SHAPED EYES, CAT FACE WITH WRY SMILE,
    KISSING CAT FACE WITH CLOSED EYES, POUTING CAT FACE, CRYING CAT FACE, WEARY CAT FACE,
    SLIGHTLY FROWNING FACE, SLIGHTLY SMILING FACE, UPSIDE-DOWN FACE, SEE-NO-EVIL MONKEY,
    HEAR-NO-EVIL MONKEY, SPEAK-NO-EVIL MONKEY, HAPPY PERSON RAISING ONE HAND, ROCKET, HELICOPTER,
    STEAM LOCOMOTIVE, RAILWAY CAR, HIGH-SPEED TRAIN, HIGH-SPEED TRAIN WITH BULLET NOSE, TRAIN,
    METRO, LIGHT RAIL, STATION, TRAM, TRAM CAR, BUS, ONCOMING BUS, TROLLEYBUS, BUS STOP, MINIBUS,
    AMBULANCE, FIRE ENGINE, POLICE CAR, ONCOMING POLICE CAR, TAXI, ONCOMING TAXI, AUTOMOBILE,
    ONCOMING AUTOMOBILE, RECREATIONAL VEHICLE, DELIVERY TRUCK, ARTICULATED LORRY, TRACTOR,
    MONORAIL, MOUNTAIN RAILWAY, SUSPENSION RAILWAY, MOUNTAIN CABLEWAY, AERIAL TRAMWAY, SHIP,
    ROWBOAT, SPEEDBOAT, HORIZONTAL TRAFFIC LIGHT, VERTICAL TRAFFIC LIGHT, CONSTRUCTION SIGN,
    POLICE CARS REVOLVING LIGHT, TRIANGULAR FLAG ON POST, DOOR, SMOKING SYMBOL,
    PUT LITTER IN ITS PLACE SYMBOL, DO NOT LITTER SYMBOL, POTABLE WATER SYMBOL,
    NON-POTABLE WATER SYMBOL, BICYCLE, BICYCLIST, MOUNTAIN BICYCLIST, PEDESTRIAN,
    CHILDREN CROSSING, MENS SYMBOL, WOMENS SYMBOL, RESTROOM, BABY SYMBOL, TOILET, WATER CLOSET,
    SHOWER, BATH, BATHTUB, PASSPORT CONTROL, CUSTOMS, BAGGAGE CLAIM,
    TRIANGLE WITH ROUNDED CORNERS, PROHIBITED SIGN, BOYS SYMBOL, GIRLS SYMBOL, COUCH AND LAMP,
    SLEEPING ACCOMMODATION, SHOPPING BAGS, BELLHOP BELL, BED, PLACE OF WORSHIP, OCTAGONAL SIGN,
    SHOPPING TROLLEY, STUPA, PAGODA, HINDU TEMPLE, HUT, ELEVATOR, PLAYGROUND SLIDE, WHEEL,
    RING BUOY, HAMMER AND WRENCH, SHIELD, OIL DRUM, MOTORWAY, RAILWAY TRACK, MOTOR BOAT,
    UP-POINTING MILITARY AIRPLANE, UP-POINTING AIRPLANE, UP-POINTING SMALL AIRPLANE,
    NORTHEAST-POINTING AIRPLANE, AIRPLANE DEPARTURE, AIRPLANE ARRIVING, SATELLITE,
    ONCOMING FIRE ENGINE, DIESEL LOCOMOTIVE, PASSENGER SHIP, SCOOTER, MOTOR SCOOTER, CANOE, SLED,
    FLYING SAUCER, SKATEBOARD, AUTO RICKSHAW, PICKUP TRUCK, ROLLER SKATE, DOWNWARD FACING HOOK,
    DOWNWARD FACING NOTCHED HOOK, DOWNWARD FACING HOOK WITH DOT,
    DOWNWARD FACING NOTCHED HOOK WITH DOT, PINCHED FINGERS, BROWN HEART, PINCHING HAND,
    ZIPPER-MOUTH FACE, MONEY-MOUTH FACE, NERD FACE, THINKING FACE, ROBOT FACE, HUGGING FACE,
    SIGN OF THE HORNS, CALL ME HAND, RAISED BACK OF HAND, LEFT-FACING FIST, RIGHT-FACING FIST,
    HANDSHAKE, HAND WITH INDEX AND MIDDLE FINGERS CROSSED, I LOVE YOU HAND SIGN, CLOWN FACE,
    NAUSEATED FACE, ROLLING ON THE FLOOR LAUGHING, DROOLING FACE, LYING FACE, FACE PALM,
    SNEEZING FACE, GRINNING FACE WITH STAR EYES, GRINNING FACE WITH ONE LARGE AND ONE SMALL EYE,
    SERIOUS FACE WITH SYMBOLS COVERING MOUTH, SHOCKED FACE WITH EXPLODING HEAD, PREGNANT WOMAN,
    BREAST-FEEDING, PALMS UP TOGETHER, SELFIE, PRINCE, MAN IN TUXEDO, MOTHER CHRISTMAS, SHRUG,
    JUGGLING, FENCER, MODERN PENTATHLON, WRESTLERS, WATER POLO, HANDBALL, DIVING MASK,
    WILTED FLOWER, DRUM WITH DRUMSTICKS, CLINKING GLASSES, TUMBLER GLASS, SPOON, GOAL NET, RIFLE,
    FIRST PLACE MEDAL, SECOND PLACE MEDAL, THIRD PLACE MEDAL, BOXING GLOVE, MARTIAL ARTS UNIFORM,
    CURLING STONE, LACROSSE STICK AND BALL, SOFTBALL, FLYING DISC, CROISSANT, AVOCADO, CUCUMBER,
    BACON, POTATO, CARROT, BAGUETTE BREAD, GREEN SALAD, SHALLOW PAN OF FOOD, STUFFED FLATBREAD,
    EGG, GLASS OF MILK, PEANUTS, KIWIFRUIT, PANCAKES, DUMPLING, FORTUNE COOKIE, TAKEOUT BOX,
    CHOPSTICKS, BOWL WITH SPOON, CUP WITH STRAW, COCONUT, BROCCOLI, PIE, PRETZEL, CUT OF MEAT,
    SANDWICH, CANNED FOOD, LEAFY GREEN, MANGO, MOON CAKE, BAGEL, YAWNING FACE, OVERHEATED FACE,
    FREEZING FACE, NINJA, DISGUISED FACE, FACE HOLDING BACK TEARS, SARI, LAB COAT, GOGGLES,
    HIKING BOOT, FLAT SHOE, CRAB, LION FACE, SCORPION, TURKEY, UNICORN FACE, EAGLE, DUCK, BAT,
    SHARK, OWL, FOX FACE, BUTTERFLY, DEER, GORILLA, LIZARD, RHINOCEROS, SHRIMP, SQUID,
    GIRAFFE FACE, ZEBRA FACE, HEDGEHOG, SAUROPOD, T-REX, CRICKET, KANGAROO, LLAMA, PEACOCK,
    HIPPOPOTAMUS, PARROT, RACCOON, LOBSTER, MOSQUITO, MICROBE, BADGER, SWAN, MAMMOTH, DODO, SLOTH,
    OTTER, ORANGUTAN, SKUNK, FLAMINGO, OYSTER, BEAVER, BISON, SEAL, GUIDE DOG, PROBING CANE, BONE,
    LEG, FOOT, TOOTH, SUPERHERO, SUPERVILLAIN, SAFETY VEST, EAR WITH HEARING AID,
    MOTORIZED WHEELCHAIR, MANUAL WHEELCHAIR, MECHANICAL ARM, MECHANICAL LEG, CHEESE WEDGE,
    CUPCAKE, SALT SHAKER, BEVERAGE BOX, GARLIC, ONION, FALAFEL, WAFFLE, BUTTER, MATE DRINK,
    ICE CUBE, BUBBLE TEA, TROLL, STANDING PERSON, KNEELING PERSON, DEAF PERSON, ADULT, CHILD,
    OLDER ADULT, BEARDED PERSON, MAGE, FAIRY, VAMPIRE, MERPERSON, ELF, GENIE, ZOMBIE, BRAIN,
    ORANGE HEART, BILLED CAP, SCARF, GLOVES, COAT, SOCKS, RED GIFT ENVELOPE, FIRECRACKER,
    JIGSAW PUZZLE PIECE, TEST TUBE, PETRI DISH, DNA DOUBLE HELIX, COMPASS, ABACUS,
    FIRE EXTINGUISHER, TOOLBOX, BRICK, MAGNET, LUGGAGE, LOTION BOTTLE, SPOOL OF THREAD,
    BALL OF YARN, SAFETY PIN, TEDDY BEAR, BROOM, BASKET, ROLL OF PAPER, BAR OF SOAP, SPONGE,
    RECEIPT, NAZAR AMULET, EN QUAD, EM QUAD, EN SPACE, EM SPACE, THREE-PER-EM SPACE,
    FOUR-PER-EM SPACE, SIX-PER-EM SPACE, FIGURE SPACE, PUNCTUATION SPACE, THIN SPACE, HAIR SPACE,
    ZERO WIDTH SPACE, ZERO WIDTH NON-JOINER, ZERO WIDTH JOINER, LEFT-TO-RIGHT MARK,
    RIGHT-TO-LEFT MARK, OBJECT REPLACEMENT CHARACTER, REPLACEMENT CHARACTER,
    ZERO WIDTH NO-BREAK SPACE, NULL, NUL, START OF HEADING, SOH, START OF TEXT, STX, ETX, EOT,
    ENQUIRY, ENQ, ACKNOWLEDGE, ACK, ALERT, BEL, BACKSPACE, BS, CHARACTER TABULATION,
    HORIZONTAL TABULATION, HT, TAB, LINE FEED, NEW LINE, LF, NL, EOL, LINE TABULATION,
    VERTICAL TABULATION, VT, FORM FEED, FF, CARRIAGE RETURN, CR, SHIFT OUT, LOCKING-SHIFT ONE, SO,
    SHIFT IN, LOCKING-SHIFT ZERO, SI, DATA LINK ESCAPE, DLE, DEVICE CONTROL ONE, DC1,
    DEVICE CONTROL TWO, DC2, DEVICE CONTROL THREE, DC3, DEVICE CONTROL FOUR, DC4,
    NEGATIVE ACKNOWLEDGE, NAK, SYNCHRONOUS IDLE, SYN, ETB, CANCEL, CAN, EOM, SUBSTITUTE, SUB,
    ESCAPE, ESC, INFORMATION SEPARATOR FOUR, FILE SEPARATOR, FS, INFORMATION SEPARATOR THREE,
    GROUP SEPARATOR, GS, INFORMATION SEPARATOR TWO, RECORD SEPARATOR, RS,
    INFORMATION SEPARATOR ONE, UNIT SEPARATOR, US, SP, DELETE, DEL, PADDING CHARACTER, PAD,
    HIGH OCTET PRESET, HOP, BREAK PERMITTED HERE, BPH, NBH, INDEX, IND, NEXT LINE, NEL,
    START OF SELECTED AREA, SSA, ESA, CHARACTER TABULATION SET, HORIZONTAL TABULATION SET, HTS,
    CHARACTER TABULATION WITH JUSTIFICATION, HORIZONTAL TABULATION WITH JUSTIFICATION, HTJ,
    LINE TABULATION SET, VERTICAL TABULATION SET, VTS, PARTIAL LINE FORWARD, PARTIAL LINE DOWN,
    PLD, PARTIAL LINE BACKWARD, PARTIAL LINE UP, PLU, REVERSE LINE FEED, REVERSE INDEX, RI,
    SINGLE SHIFT TWO, SINGLE-SHIFT-2, SS2, SINGLE SHIFT THREE, SINGLE-SHIFT-3, SS3,
    DEVICE CONTROL STRING, DCS, PRIVATE USE ONE, PRIVATE USE-1, PU1, PRIVATE USE TWO,
    PRIVATE USE-2, PU2, SET TRANSMIT STATE, STS, CANCEL CHARACTER, CCH, MESSAGE WAITING, MW,
    START OF GUARDED AREA, START OF PROTECTED AREA, SPA, EPA, START OF STRING, SOS,
    SINGLE GRAPHIC CHARACTER INTRODUCER, SGC, SINGLE CHARACTER INTRODUCER, SCI,
    CONTROL SEQUENCE INTRODUCER, CSI, STRING TERMINATOR, ST, OPERATING SYSTEM COMMAND, OSC,
    PRIVACY MESSAGE, PM, APPLICATION PROGRAM COMMAND, APC, NBSP, SHY, ZWSP, ZWNJ, ZWJ, LRM, RLM,
    LRE, RLE, PDF, LRO, RLO, NNBSP, MMSP, WJ, LRI, RLI, FSI, PDI, BYTE ORDER MARK, BOM, ZWNBSP"⟩]

/-- The name belongs to the family. -/
def NameFamily.has (family : NameFamily) (name : String) : Bool :=
  name.startsWith family.start &&
    (family.ends.splitOn ",").any fun rest => family.start ++ strip rest == name

/-- A character goes by the name, in small or capital letters. -/
def isCharacterName (name : String) : Bool :=
  nameFamilies.any fun family => family.has name.toUpper

end Tabletop.Text
