/-!
# Other names of characters

Characters that have further names: control characters, which have no name of their own, those that
are known by an abbreviation, and those whose name has a mistake in it.
-/

namespace QueryTelemetry.Text.Name

/-- The further names of characters, by their codes. -/
def otherNames : List (Nat × List String) := [
  (0, ["NULL", "NUL"]),
  (1, ["START OF HEADING", "SOH"]),
  (2, ["START OF TEXT", "STX"]),
  (3, ["END OF TEXT", "ETX"]),
  (4, ["END OF TRANSMISSION", "EOT"]),
  (5, ["ENQUIRY", "ENQ"]),
  (6, ["ACKNOWLEDGE", "ACK"]),
  (7, ["ALERT", "BEL"]),
  (8, ["BACKSPACE", "BS"]),
  (9, ["CHARACTER TABULATION", "HORIZONTAL TABULATION", "HT", "TAB"]),
  (10, ["LINE FEED", "NEW LINE", "END OF LINE", "LF", "NL", "EOL"]),
  (11, ["LINE TABULATION", "VERTICAL TABULATION", "VT"]),
  (12, ["FORM FEED", "FF"]),
  (13, ["CARRIAGE RETURN", "CR"]),
  (14, ["SHIFT OUT", "LOCKING-SHIFT ONE", "SO"]),
  (15, ["SHIFT IN", "LOCKING-SHIFT ZERO", "SI"]),
  (16, ["DATA LINK ESCAPE", "DLE"]),
  (17, ["DEVICE CONTROL ONE", "DC1"]),
  (18, ["DEVICE CONTROL TWO", "DC2"]),
  (19, ["DEVICE CONTROL THREE", "DC3"]),
  (20, ["DEVICE CONTROL FOUR", "DC4"]),
  (21, ["NEGATIVE ACKNOWLEDGE", "NAK"]),
  (22, ["SYNCHRONOUS IDLE", "SYN"]),
  (23, ["END OF TRANSMISSION BLOCK", "ETB"]),
  (24, ["CANCEL", "CAN"]),
  (25, ["END OF MEDIUM", "EOM"]),
  (26, ["SUBSTITUTE", "SUB"]),
  (27, ["ESCAPE", "ESC"]),
  (28, ["INFORMATION SEPARATOR FOUR", "FILE SEPARATOR", "FS"]),
  (29, ["INFORMATION SEPARATOR THREE", "GROUP SEPARATOR", "GS"]),
  (30, ["INFORMATION SEPARATOR TWO", "RECORD SEPARATOR", "RS"]),
  (31, ["INFORMATION SEPARATOR ONE", "UNIT SEPARATOR", "US"]),
  (32, ["SP"]),
  (127, ["DELETE", "DEL"]),
  (128, ["PADDING CHARACTER", "PAD"]),
  (129, ["HIGH OCTET PRESET", "HOP"]),
  (130, ["BREAK PERMITTED HERE", "BPH"]),
  (131, ["NO BREAK HERE", "NBH"]),
  (132, ["INDEX", "IND"]),
  (133, ["NEXT LINE", "NEL"]),
  (134, ["START OF SELECTED AREA", "SSA"]),
  (135, ["END OF SELECTED AREA", "ESA"]),
  (136, ["CHARACTER TABULATION SET", "HORIZONTAL TABULATION SET", "HTS"]),
  (137, [
    "CHARACTER TABULATION WITH JUSTIFICATION", "HORIZONTAL TABULATION WITH JUSTIFICATION", "HTJ"]),
  (138, ["LINE TABULATION SET", "VERTICAL TABULATION SET", "VTS"]),
  (139, ["PARTIAL LINE FORWARD", "PARTIAL LINE DOWN", "PLD"]),
  (140, ["PARTIAL LINE BACKWARD", "PARTIAL LINE UP", "PLU"]),
  (141, ["REVERSE LINE FEED", "REVERSE INDEX", "RI"]),
  (142, ["SINGLE SHIFT TWO", "SINGLE-SHIFT-2", "SS2"]),
  (143, ["SINGLE SHIFT THREE", "SINGLE-SHIFT-3", "SS3"]),
  (144, ["DEVICE CONTROL STRING", "DCS"]),
  (145, ["PRIVATE USE ONE", "PRIVATE USE-1", "PU1"]),
  (146, ["PRIVATE USE TWO", "PRIVATE USE-2", "PU2"]),
  (147, ["SET TRANSMIT STATE", "STS"]),
  (148, ["CANCEL CHARACTER", "CCH"]),
  (149, ["MESSAGE WAITING", "MW"]),
  (150, ["START OF GUARDED AREA", "START OF PROTECTED AREA", "SPA"]),
  (151, ["END OF GUARDED AREA", "END OF PROTECTED AREA", "EPA"]),
  (152, ["START OF STRING", "SOS"]),
  (153, ["SINGLE GRAPHIC CHARACTER INTRODUCER", "SGC"]),
  (154, ["SINGLE CHARACTER INTRODUCER", "SCI"]),
  (155, ["CONTROL SEQUENCE INTRODUCER", "CSI"]),
  (156, ["STRING TERMINATOR", "ST"]),
  (157, ["OPERATING SYSTEM COMMAND", "OSC"]),
  (158, ["PRIVACY MESSAGE", "PM"]),
  (159, ["APPLICATION PROGRAM COMMAND", "APC"]),
  (160, ["NBSP"]),
  (173, ["SHY"]),
  (418, ["LATIN CAPITAL LETTER GHA"]),
  (419, ["LATIN SMALL LETTER GHA"]),
  (847, ["CGJ"]),
  (1564, ["ALM"]),
  (1801, ["SYRIAC SUBLINEAR COLON SKEWED LEFT"]),
  (3294, ["KANNADA LETTER LLLA"]),
  (3741, ["LAO LETTER FO FON"]),
  (3743, ["LAO LETTER FO FAY"]),
  (3747, ["LAO LETTER RO"]),
  (3749, ["LAO LETTER LO"]),
  (4048, ["TIBETAN MARK BKA- SHOG GI MGO RGYAN"]),
  (4588, ["HANGUL JONGSEONG YESIEUNG-KIYEOK"]),
  (4589, ["HANGUL JONGSEONG YESIEUNG-SSANGKIYEOK"]),
  (4590, ["HANGUL JONGSEONG SSANGYESIEUNG"]),
  (4591, ["HANGUL JONGSEONG YESIEUNG-KHIEUKH"]),
  (6155, ["FVS1"]),
  (6156, ["FVS2"]),
  (6157, ["FVS3"]),
  (6158, ["MVS"]),
  (6159, ["FVS4"]),
  (8203, ["ZWSP"]),
  (8204, ["ZWNJ"]),
  (8205, ["ZWJ"]),
  (8206, ["LRM"]),
  (8207, ["RLM"]),
  (8234, ["LRE"]),
  (8235, ["RLE"]),
  (8236, ["PDF"]),
  (8237, ["LRO"]),
  (8238, ["RLO"]),
  (8239, ["NNBSP"]),
  (8287, ["MMSP"]),
  (8288, ["WJ"]),
  (8294, ["LRI"]),
  (8295, ["RLI"]),
  (8296, ["FSI"]),
  (8297, ["PDI"]),
  (8472, ["WEIERSTRASS ELLIPTIC FUNCTION"]),
  (9288, ["MICR ON US SYMBOL"]),
  (9289, ["MICR DASH SYMBOL"]),
  (11130, ["LEFTWARDS TRIANGLE-HEADED ARROW WITH DOUBLE VERTICAL STROKE"]),
  (11132, ["RIGHTWARDS TRIANGLE-HEADED ARROW WITH DOUBLE VERTICAL STROKE"]),
  (40981, ["YI SYLLABLE ITERATION MARK"]),
  (43630, ["MYANMAR LETTER KHAMTI LLA"]),
  (65048, ["PRESENTATION FORM FOR VERTICAL RIGHT WHITE LENTICULAR BRACKET"]),
  (65279, ["BYTE ORDER MARK", "BOM", "ZWNBSP"]),
  (74452, ["CUNEIFORM SIGN NU11 TENU"]),
  (74453, ["CUNEIFORM SIGN NU11 OVER NU11 BUR OVER BUR"]),
  (93782, ["MEDEFAIDRIN CAPITAL LETTER H"]),
  (93783, ["MEDEFAIDRIN CAPITAL LETTER NG"]),
  (93814, ["MEDEFAIDRIN SMALL LETTER H"]),
  (93815, ["MEDEFAIDRIN SMALL LETTER NG"]),
  (110593, ["HENTAIGANA LETTER E-1"]),
  (118981, ["BYZANTINE MUSICAL SYMBOL FTHORA SKLIRON CHROMA VASIS"])]

end QueryTelemetry.Text.Name
