import SheetAudit.Text.Character

/-!
# Names of characters

A name stands for one character.  The names of Hangul syllables spell their letters, and those of
unified ideographs hold their codes.  Of the other characters those of Latin-1, of the general
punctuation and of the currencies have names here; the names may be in letters of either case, and
a control character, which has no name of its own, goes by what it is called.
-/

namespace SheetAudit.Text

/-- Names of characters whose codes follow each other. -/
def namedRuns : List (Nat × List String) := [
  (0x20, [
    "SPACE", "EXCLAMATION MARK", "QUOTATION MARK", "NUMBER SIGN", "DOLLAR SIGN", "PERCENT SIGN",
    "AMPERSAND", "APOSTROPHE", "LEFT PARENTHESIS", "RIGHT PARENTHESIS", "ASTERISK", "PLUS SIGN",
    "COMMA", "HYPHEN-MINUS", "FULL STOP", "SOLIDUS", "DIGIT ZERO", "DIGIT ONE", "DIGIT TWO",
    "DIGIT THREE", "DIGIT FOUR", "DIGIT FIVE", "DIGIT SIX", "DIGIT SEVEN", "DIGIT EIGHT",
    "DIGIT NINE", "COLON", "SEMICOLON", "LESS-THAN SIGN", "EQUALS SIGN", "GREATER-THAN SIGN",
    "QUESTION MARK", "COMMERCIAL AT", "LATIN CAPITAL LETTER A", "LATIN CAPITAL LETTER B",
    "LATIN CAPITAL LETTER C", "LATIN CAPITAL LETTER D", "LATIN CAPITAL LETTER E",
    "LATIN CAPITAL LETTER F", "LATIN CAPITAL LETTER G", "LATIN CAPITAL LETTER H",
    "LATIN CAPITAL LETTER I", "LATIN CAPITAL LETTER J", "LATIN CAPITAL LETTER K",
    "LATIN CAPITAL LETTER L", "LATIN CAPITAL LETTER M", "LATIN CAPITAL LETTER N",
    "LATIN CAPITAL LETTER O", "LATIN CAPITAL LETTER P", "LATIN CAPITAL LETTER Q",
    "LATIN CAPITAL LETTER R", "LATIN CAPITAL LETTER S", "LATIN CAPITAL LETTER T",
    "LATIN CAPITAL LETTER U", "LATIN CAPITAL LETTER V", "LATIN CAPITAL LETTER W",
    "LATIN CAPITAL LETTER X", "LATIN CAPITAL LETTER Y", "LATIN CAPITAL LETTER Z",
    "LEFT SQUARE BRACKET", "REVERSE SOLIDUS", "RIGHT SQUARE BRACKET", "CIRCUMFLEX ACCENT",
    "LOW LINE", "GRAVE ACCENT", "LATIN SMALL LETTER A", "LATIN SMALL LETTER B",
    "LATIN SMALL LETTER C", "LATIN SMALL LETTER D", "LATIN SMALL LETTER E", "LATIN SMALL LETTER F",
    "LATIN SMALL LETTER G", "LATIN SMALL LETTER H", "LATIN SMALL LETTER I", "LATIN SMALL LETTER J",
    "LATIN SMALL LETTER K", "LATIN SMALL LETTER L", "LATIN SMALL LETTER M", "LATIN SMALL LETTER N",
    "LATIN SMALL LETTER O", "LATIN SMALL LETTER P", "LATIN SMALL LETTER Q", "LATIN SMALL LETTER R",
    "LATIN SMALL LETTER S", "LATIN SMALL LETTER T", "LATIN SMALL LETTER U", "LATIN SMALL LETTER V",
    "LATIN SMALL LETTER W", "LATIN SMALL LETTER X", "LATIN SMALL LETTER Y", "LATIN SMALL LETTER Z",
    "LEFT CURLY BRACKET", "VERTICAL LINE", "RIGHT CURLY BRACKET", "TILDE"]),
  (0xa0, [
    "NO-BREAK SPACE", "INVERTED EXCLAMATION MARK", "CENT SIGN", "POUND SIGN", "CURRENCY SIGN",
    "YEN SIGN", "BROKEN BAR", "SECTION SIGN", "DIAERESIS", "COPYRIGHT SIGN",
    "FEMININE ORDINAL INDICATOR", "LEFT-POINTING DOUBLE ANGLE QUOTATION MARK", "NOT SIGN",
    "SOFT HYPHEN", "REGISTERED SIGN", "MACRON", "DEGREE SIGN", "PLUS-MINUS SIGN", "SUPERSCRIPT TWO",
    "SUPERSCRIPT THREE", "ACUTE ACCENT", "MICRO SIGN", "PILCROW SIGN", "MIDDLE DOT", "CEDILLA",
    "SUPERSCRIPT ONE", "MASCULINE ORDINAL INDICATOR", "RIGHT-POINTING DOUBLE ANGLE QUOTATION MARK",
    "VULGAR FRACTION ONE QUARTER", "VULGAR FRACTION ONE HALF", "VULGAR FRACTION THREE QUARTERS",
    "INVERTED QUESTION MARK", "LATIN CAPITAL LETTER A WITH GRAVE",
    "LATIN CAPITAL LETTER A WITH ACUTE", "LATIN CAPITAL LETTER A WITH CIRCUMFLEX",
    "LATIN CAPITAL LETTER A WITH TILDE", "LATIN CAPITAL LETTER A WITH DIAERESIS",
    "LATIN CAPITAL LETTER A WITH RING ABOVE", "LATIN CAPITAL LETTER AE",
    "LATIN CAPITAL LETTER C WITH CEDILLA", "LATIN CAPITAL LETTER E WITH GRAVE",
    "LATIN CAPITAL LETTER E WITH ACUTE", "LATIN CAPITAL LETTER E WITH CIRCUMFLEX",
    "LATIN CAPITAL LETTER E WITH DIAERESIS", "LATIN CAPITAL LETTER I WITH GRAVE",
    "LATIN CAPITAL LETTER I WITH ACUTE", "LATIN CAPITAL LETTER I WITH CIRCUMFLEX",
    "LATIN CAPITAL LETTER I WITH DIAERESIS", "LATIN CAPITAL LETTER ETH",
    "LATIN CAPITAL LETTER N WITH TILDE", "LATIN CAPITAL LETTER O WITH GRAVE",
    "LATIN CAPITAL LETTER O WITH ACUTE", "LATIN CAPITAL LETTER O WITH CIRCUMFLEX",
    "LATIN CAPITAL LETTER O WITH TILDE", "LATIN CAPITAL LETTER O WITH DIAERESIS",
    "MULTIPLICATION SIGN", "LATIN CAPITAL LETTER O WITH STROKE",
    "LATIN CAPITAL LETTER U WITH GRAVE", "LATIN CAPITAL LETTER U WITH ACUTE",
    "LATIN CAPITAL LETTER U WITH CIRCUMFLEX", "LATIN CAPITAL LETTER U WITH DIAERESIS",
    "LATIN CAPITAL LETTER Y WITH ACUTE", "LATIN CAPITAL LETTER THORN", "LATIN SMALL LETTER SHARP S",
    "LATIN SMALL LETTER A WITH GRAVE", "LATIN SMALL LETTER A WITH ACUTE",
    "LATIN SMALL LETTER A WITH CIRCUMFLEX", "LATIN SMALL LETTER A WITH TILDE",
    "LATIN SMALL LETTER A WITH DIAERESIS", "LATIN SMALL LETTER A WITH RING ABOVE",
    "LATIN SMALL LETTER AE", "LATIN SMALL LETTER C WITH CEDILLA", "LATIN SMALL LETTER E WITH GRAVE",
    "LATIN SMALL LETTER E WITH ACUTE", "LATIN SMALL LETTER E WITH CIRCUMFLEX",
    "LATIN SMALL LETTER E WITH DIAERESIS", "LATIN SMALL LETTER I WITH GRAVE",
    "LATIN SMALL LETTER I WITH ACUTE", "LATIN SMALL LETTER I WITH CIRCUMFLEX",
    "LATIN SMALL LETTER I WITH DIAERESIS", "LATIN SMALL LETTER ETH",
    "LATIN SMALL LETTER N WITH TILDE", "LATIN SMALL LETTER O WITH GRAVE",
    "LATIN SMALL LETTER O WITH ACUTE", "LATIN SMALL LETTER O WITH CIRCUMFLEX",
    "LATIN SMALL LETTER O WITH TILDE", "LATIN SMALL LETTER O WITH DIAERESIS", "DIVISION SIGN",
    "LATIN SMALL LETTER O WITH STROKE", "LATIN SMALL LETTER U WITH GRAVE",
    "LATIN SMALL LETTER U WITH ACUTE", "LATIN SMALL LETTER U WITH CIRCUMFLEX",
    "LATIN SMALL LETTER U WITH DIAERESIS", "LATIN SMALL LETTER Y WITH ACUTE",
    "LATIN SMALL LETTER THORN", "LATIN SMALL LETTER Y WITH DIAERESIS"]),
  (0x2000, [
    "EN QUAD", "EM QUAD", "EN SPACE", "EM SPACE", "THREE-PER-EM SPACE", "FOUR-PER-EM SPACE",
    "SIX-PER-EM SPACE", "FIGURE SPACE", "PUNCTUATION SPACE", "THIN SPACE", "HAIR SPACE",
    "ZERO WIDTH SPACE", "ZERO WIDTH NON-JOINER", "ZERO WIDTH JOINER", "LEFT-TO-RIGHT MARK",
    "RIGHT-TO-LEFT MARK", "HYPHEN", "NON-BREAKING HYPHEN", "FIGURE DASH", "EN DASH", "EM DASH",
    "HORIZONTAL BAR", "DOUBLE VERTICAL LINE", "DOUBLE LOW LINE", "LEFT SINGLE QUOTATION MARK",
    "RIGHT SINGLE QUOTATION MARK", "SINGLE LOW-9 QUOTATION MARK",
    "SINGLE HIGH-REVERSED-9 QUOTATION MARK", "LEFT DOUBLE QUOTATION MARK",
    "RIGHT DOUBLE QUOTATION MARK", "DOUBLE LOW-9 QUOTATION MARK",
    "DOUBLE HIGH-REVERSED-9 QUOTATION MARK", "DAGGER", "DOUBLE DAGGER", "BULLET",
    "TRIANGULAR BULLET", "ONE DOT LEADER", "TWO DOT LEADER", "HORIZONTAL ELLIPSIS",
    "HYPHENATION POINT", "LINE SEPARATOR", "PARAGRAPH SEPARATOR", "LEFT-TO-RIGHT EMBEDDING",
    "RIGHT-TO-LEFT EMBEDDING", "POP DIRECTIONAL FORMATTING", "LEFT-TO-RIGHT OVERRIDE",
    "RIGHT-TO-LEFT OVERRIDE", "NARROW NO-BREAK SPACE", "PER MILLE SIGN", "PER TEN THOUSAND SIGN",
    "PRIME", "DOUBLE PRIME", "TRIPLE PRIME", "REVERSED PRIME", "REVERSED DOUBLE PRIME",
    "REVERSED TRIPLE PRIME", "CARET", "SINGLE LEFT-POINTING ANGLE QUOTATION MARK",
    "SINGLE RIGHT-POINTING ANGLE QUOTATION MARK", "REFERENCE MARK", "DOUBLE EXCLAMATION MARK",
    "INTERROBANG", "OVERLINE", "UNDERTIE", "CHARACTER TIE", "CARET INSERTION POINT", "ASTERISM",
    "HYPHEN BULLET", "FRACTION SLASH", "LEFT SQUARE BRACKET WITH QUILL",
    "RIGHT SQUARE BRACKET WITH QUILL", "DOUBLE QUESTION MARK", "QUESTION EXCLAMATION MARK",
    "EXCLAMATION QUESTION MARK", "TIRONIAN SIGN ET", "REVERSED PILCROW SIGN",
    "BLACK LEFTWARDS BULLET", "BLACK RIGHTWARDS BULLET", "LOW ASTERISK", "REVERSED SEMICOLON",
    "CLOSE UP", "TWO ASTERISKS ALIGNED VERTICALLY", "COMMERCIAL MINUS SIGN", "SWUNG DASH",
    "INVERTED UNDERTIE", "FLOWER PUNCTUATION MARK", "THREE DOT PUNCTUATION", "QUADRUPLE PRIME",
    "FOUR DOT PUNCTUATION", "FIVE DOT PUNCTUATION", "TWO DOT PUNCTUATION", "FOUR DOT MARK",
    "DOTTED CROSS", "TRICOLON", "VERTICAL FOUR DOTS", "MEDIUM MATHEMATICAL SPACE", "WORD JOINER",
    "FUNCTION APPLICATION", "INVISIBLE TIMES", "INVISIBLE SEPARATOR", "INVISIBLE PLUS"]),
  (0x2066, [
    "LEFT-TO-RIGHT ISOLATE", "RIGHT-TO-LEFT ISOLATE", "FIRST STRONG ISOLATE",
    "POP DIRECTIONAL ISOLATE", "INHIBIT SYMMETRIC SWAPPING", "ACTIVATE SYMMETRIC SWAPPING",
    "INHIBIT ARABIC FORM SHAPING", "ACTIVATE ARABIC FORM SHAPING", "NATIONAL DIGIT SHAPES",
    "NOMINAL DIGIT SHAPES"]),
  (0x20a0, [
    "EURO-CURRENCY SIGN", "COLON SIGN", "CRUZEIRO SIGN", "FRENCH FRANC SIGN", "LIRA SIGN",
    "MILL SIGN", "NAIRA SIGN", "PESETA SIGN", "RUPEE SIGN", "WON SIGN", "NEW SHEQEL SIGN",
    "DONG SIGN", "EURO SIGN", "KIP SIGN", "TUGRIK SIGN", "DRACHMA SIGN", "GERMAN PENNY SIGN",
    "PESO SIGN", "GUARANI SIGN", "AUSTRAL SIGN", "HRYVNIA SIGN", "CEDI SIGN", "LIVRE TOURNOIS SIGN",
    "SPESMILO SIGN", "TENGE SIGN", "INDIAN RUPEE SIGN", "TURKISH LIRA SIGN", "NORDIC MARK SIGN",
    "MANAT SIGN", "RUBLE SIGN", "LARI SIGN", "BITCOIN SIGN", "SOM SIGN"])]

/-- What characters are called beside their names. -/
def callNames : List (Nat × List String) := [
  (0x0, ["NULL", "NUL"]), (0x1, ["START OF HEADING", "SOH"]), (0x2, ["START OF TEXT", "STX"]),
  (0x3, ["END OF TEXT", "ETX"]), (0x4, ["END OF TRANSMISSION", "EOT"]), (0x5, ["ENQUIRY", "ENQ"]),
  (0x6, ["ACKNOWLEDGE", "ACK"]), (0x7, ["ALERT", "BEL"]), (0x8, ["BACKSPACE", "BS"]),
  (0x9, ["CHARACTER TABULATION", "HORIZONTAL TABULATION", "HT", "TAB"]),
  (0xa, ["LINE FEED", "NEW LINE", "END OF LINE", "LF", "NL", "EOL"]),
  (0xb, ["LINE TABULATION", "VERTICAL TABULATION", "VT"]), (0xc, ["FORM FEED", "FF"]),
  (0xd, ["CARRIAGE RETURN", "CR"]), (0xe, ["SHIFT OUT", "LOCKING-SHIFT ONE", "SO"]),
  (0xf, ["SHIFT IN", "LOCKING-SHIFT ZERO", "SI"]), (0x10, ["DATA LINK ESCAPE", "DLE"]),
  (0x11, ["DEVICE CONTROL ONE", "DC1"]), (0x12, ["DEVICE CONTROL TWO", "DC2"]),
  (0x13, ["DEVICE CONTROL THREE", "DC3"]), (0x14, ["DEVICE CONTROL FOUR", "DC4"]),
  (0x15, ["NEGATIVE ACKNOWLEDGE", "NAK"]), (0x16, ["SYNCHRONOUS IDLE", "SYN"]),
  (0x17, ["END OF TRANSMISSION BLOCK", "ETB"]), (0x18, ["CANCEL", "CAN"]),
  (0x19, ["END OF MEDIUM", "EOM"]), (0x1a, ["SUBSTITUTE", "SUB"]), (0x1b, ["ESCAPE", "ESC"]),
  (0x1c, ["INFORMATION SEPARATOR FOUR", "FILE SEPARATOR", "FS"]),
  (0x1d, ["INFORMATION SEPARATOR THREE", "GROUP SEPARATOR", "GS"]),
  (0x1e, ["INFORMATION SEPARATOR TWO", "RECORD SEPARATOR", "RS"]),
  (0x1f, ["INFORMATION SEPARATOR ONE", "UNIT SEPARATOR", "US"]), (0x20, ["SP"]),
  (0x7f, ["DELETE", "DEL"]), (0x80, ["PADDING CHARACTER", "PAD"]),
  (0x81, ["HIGH OCTET PRESET", "HOP"]), (0x82, ["BREAK PERMITTED HERE", "BPH"]),
  (0x83, ["NO BREAK HERE", "NBH"]), (0x84, ["INDEX", "IND"]), (0x85, ["NEXT LINE", "NEL"]),
  (0x86, ["START OF SELECTED AREA", "SSA"]), (0x87, ["END OF SELECTED AREA", "ESA"]),
  (0x88, ["CHARACTER TABULATION SET", "HORIZONTAL TABULATION SET", "HTS"]),
  (0x89, ["CHARACTER TABULATION WITH JUSTIFICATION", "HORIZONTAL TABULATION WITH JUSTIFICATION",
    "HTJ"]),
  (0x8a, ["LINE TABULATION SET", "VERTICAL TABULATION SET", "VTS"]),
  (0x8b, ["PARTIAL LINE FORWARD", "PARTIAL LINE DOWN", "PLD"]),
  (0x8c, ["PARTIAL LINE BACKWARD", "PARTIAL LINE UP", "PLU"]),
  (0x8d, ["REVERSE LINE FEED", "REVERSE INDEX", "RI"]),
  (0x8e, ["SINGLE SHIFT TWO", "SINGLE-SHIFT-2", "SS2"]),
  (0x8f, ["SINGLE SHIFT THREE", "SINGLE-SHIFT-3", "SS3"]), (0x90, ["DEVICE CONTROL STRING", "DCS"]),
  (0x91, ["PRIVATE USE ONE", "PRIVATE USE-1", "PU1"]),
  (0x92, ["PRIVATE USE TWO", "PRIVATE USE-2", "PU2"]), (0x93, ["SET TRANSMIT STATE", "STS"]),
  (0x94, ["CANCEL CHARACTER", "CCH"]), (0x95, ["MESSAGE WAITING", "MW"]),
  (0x96, ["START OF GUARDED AREA", "START OF PROTECTED AREA", "SPA"]),
  (0x97, ["END OF GUARDED AREA", "END OF PROTECTED AREA", "EPA"]),
  (0x98, ["START OF STRING", "SOS"]), (0x99, ["SINGLE GRAPHIC CHARACTER INTRODUCER", "SGC"]),
  (0x9a, ["SINGLE CHARACTER INTRODUCER", "SCI"]), (0x9b, ["CONTROL SEQUENCE INTRODUCER", "CSI"]),
  (0x9c, ["STRING TERMINATOR", "ST"]), (0x9d, ["OPERATING SYSTEM COMMAND", "OSC"]),
  (0x9e, ["PRIVACY MESSAGE", "PM"]), (0x9f, ["APPLICATION PROGRAM COMMAND", "APC"]),
  (0xa0, ["NBSP"]), (0xad, ["SHY"]), (0x200b, ["ZWSP"]), (0x200c, ["ZWNJ"]), (0x200d, ["ZWJ"]),
  (0x200e, ["LRM"]), (0x200f, ["RLM"]), (0x202a, ["LRE"]), (0x202b, ["RLE"]), (0x202c, ["PDF"]),
  (0x202d, ["LRO"]), (0x202e, ["RLO"]), (0x202f, ["NNBSP"]), (0x205f, ["MMSP"]), (0x2060, ["WJ"]),
  (0x2066, ["LRI"]), (0x2067, ["RLI"]), (0x2068, ["FSI"]), (0x2069, ["PDI"])]

def listedCode? (name : String) : Option Nat :=
  (namedRuns.findSome? fun run => (run.2.idxOf? name).map (run.1 + ·)).or
    (callNames.findSome? fun entry => if entry.2.contains name then some entry.1 else none)

/-! ## Hangul syllables -/

def hangulInitials : List String := [
  "G", "GG", "N", "D", "DD", "R", "M", "B", "BB", "S", "SS", "", "J", "JJ", "C", "K", "T", "P", "H"]

def hangulVowels : List String := [
  "A", "AE", "YA", "YAE", "EO", "E", "YEO", "YE", "O", "WA", "WAE", "OE", "YO", "U", "WEO", "WE",
  "WI", "YU", "EU", "YI", "I"]

def hangulFinals : List String := [
  "", "G", "GG", "GS", "N", "NJ", "NH", "D", "L", "LG", "LM", "LB", "LS", "LT", "LP", "LH", "M",
  "B", "BS", "S", "SS", "NG", "J", "C", "K", "T", "P", "H"]

/-- The longer of two spellings with their places, the first if none is longer. -/
def longerSpelling (best? : Option (String × Nat)) (entry : String × Nat) : Option (String × Nat) :=
  match best? with
  | some best => if best.1.length < entry.1.length then some entry else some best
  | none => some entry

/-- The place of the longest of some spellings that a text starts with, and the text after it. -/
def longestSpelling? (spellings : List String) (cs : List Char) : Option (Nat × List Char) :=
  let fits := spellings.zipIdx.filter fun entry => entry.1.toList.isPrefixOf cs
  (fits.foldl longerSpelling none).map fun entry => (entry.2, cs.drop entry.1.length)

def hangulCode? (cs : List Char) : Option Nat := do
  let (initial, cs) ← longestSpelling? hangulInitials cs
  let (vowel, cs) ← longestSpelling? hangulVowels cs
  let (last, cs) ← longestSpelling? hangulFinals cs
  if cs.isEmpty then
    some (0xac00 + (initial * hangulVowels.length + vowel) * hangulFinals.length + last)
  else none

/-! ## Unified ideographs -/

def ideographIntervals : List (Nat × Nat) := [
  (0x3400, 0x4dbf), (0x4e00, 0x9fff), (0x20000, 0x2a6df), (0x2a700, 0x2b738), (0x2b740, 0x2b81d),
  (0x2b820, 0x2cea1), (0x2ceb0, 0x2ebe0), (0x30000, 0x3134a)]

def codeDigit? (c : Char) : Option Nat :=
  if c.isDigit then some (c.toNat - 48)
  else if 'A' ≤ c ∧ c ≤ 'F' then some (c.toNat - 55)
  else none

/-- The code of a unified ideograph, written with four or five digits. -/
def ideographCode? (cs : List Char) : Option Nat := do
  let digits ← cs.mapM codeDigit?
  let code := digits.foldl (fun total digit => total * 16 + digit) 0
  if (digits.length == 4 || digits.length == 5) && inIntervals ideographIntervals code then
    some code
  else none

/-! ## Any character -/

def codeNamed? (name : String) : Option Nat :=
  let cs := name.toList
  let syllable := "HANGUL SYLLABLE ".toList
  let ideograph := "CJK UNIFIED IDEOGRAPH-".toList
  if syllable.isPrefixOf cs then hangulCode? (cs.drop syllable.length)
  else if ideograph.isPrefixOf cs then ideographCode? (cs.drop ideograph.length)
  else listedCode? (String.ofList (cs.map Char.toUpper))

end SheetAudit.Text
