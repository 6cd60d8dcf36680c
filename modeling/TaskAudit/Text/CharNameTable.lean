/-!
# Names of characters

The names of Unicode 14 that are not made up by a rule. A name is written as the number of words
that it shares with the name before it and the words after those; a small letter stands for a word
that is frequent.
-/

namespace TaskAudit.Text

/-- The words that the letters from `a` on stand for. -/
def frequentWords : List String :=
  ["ABOVE", "AND", "ARROW", "BELOW", "BLACK", "CAPITAL", "DOUBLE", "FINAL", "FORM", "HORIZONTAL",
   "INITIAL", "ISOLATED", "LEFT", "LEFTWARDS", "LETTER", "RIGHT", "RIGHTWARDS", "SIGN", "SMALL",
   "STROKE", "SYMBOL", "THREE", "TRIANGLE-HEADED", "VERTICAL", "WHITE", "WITH"]

/-- First code points, and the names from there on without a gap. -/
def nameRuns : List (Nat × String) :=
  [(0x20, "0SPACE,0EXCLAMATION MARK,0QUOTATION MARK,0NUMBERr,0DOLLARr,0PERCENTr,0AMPERSAND,
     0APOSTROPHE,0mPARENTHESIS,0pPARENTHESIS,0ASTERISK,0PLUSr,0COMMA,0HYPHEN-MINUS,0FULL STOP,
     0SOLIDUS,0DIGIT ZERO,1ONE,1TWO,1v,1FOUR,1FIVE,1SIX,1SEVEN,1EIGHT,1NINE,0COLON,0SEMICOLON,
     0LESS-THANr,0EQUALSr,0GREATER-THANr,0QUESTION MARK,0COMMERCIAL AT,0LATINfoA,3B,3C,3D,3E,3F,3G,
     3H,3I,3J,3K,3L,3M,3N,3O,3P,3Q,3R,3S,3T,3U,3V,3W,3X,3Y,3Z,0mSQUARE BRACKET,0REVERSE SOLIDUS,
     0pSQUARE BRACKET,0CIRCUMFLEX ACCENT,0LOW LINE,0GRAVE ACCENT,0LATINsoA,3B,3C,3D,3E,3F,3G,3H,3I,
     3J,3K,3L,3M,3N,3O,3P,3Q,3R,3S,3T,3U,3V,3W,3X,3Y,3Z,0mCURLY BRACKET,0xLINE,0pCURLY BRACKET,
     0TILDE"),
   (0xA0, "0NO-BREAK SPACE,0INVERTED EXCLAMATION MARK,0CENTr,0POUNDr,0CURRENCYr,0YENr,0BROKEN BAR,
     0SECTIONr,0DIAERESIS,0COPYRIGHTr,0FEMININE ORDINAL INDICATOR,
     0LEFT-POINTINGgANGLE QUOTATION MARK,0NOTr,0SOFT HYPHEN,0REGISTEREDr,0MACRON,0DEGREEr,
     0PLUS-MINUSr,0SUPERSCRIPT TWO,1v,0ACUTE ACCENT,0MICROr,0PILCROWr,0MIDDLE DOT,0CEDILLA,
     0SUPERSCRIPT ONE,0MASCULINE ORDINAL INDICATOR,0RIGHT-POINTINGgANGLE QUOTATION MARK,
     0VULGAR FRACTION ONE QUARTER,3HALF,2vQUARTERS,0INVERTED QUESTION MARK,0LATINfoAzGRAVE,5ACUTE,
     5CIRCUMFLEX,5TILDE,5DIAERESIS,5RINGa,3AE,3CzCEDILLA,3EzGRAVE,5ACUTE,5CIRCUMFLEX,5DIAERESIS,
     3IzGRAVE,5ACUTE,5CIRCUMFLEX,5DIAERESIS,3ETH,3NzTILDE,3OzGRAVE,5ACUTE,5CIRCUMFLEX,5TILDE,
     5DIAERESIS,0MULTIPLICATIONr,0LATINfoOzt,3UzGRAVE,5ACUTE,5CIRCUMFLEX,5DIAERESIS,3YzACUTE,3THORN,
     1soSHARP S,3AzGRAVE,5ACUTE,5CIRCUMFLEX,5TILDE,5DIAERESIS,5RINGa,3AE,3CzCEDILLA,3EzGRAVE,5ACUTE,
     5CIRCUMFLEX,5DIAERESIS,3IzGRAVE,5ACUTE,5CIRCUMFLEX,5DIAERESIS,3ETH,3NzTILDE,3OzGRAVE,5ACUTE,
     5CIRCUMFLEX,5TILDE,5DIAERESIS,0DIVISIONr,0LATINsoOzt,3UzGRAVE,5ACUTE,5CIRCUMFLEX,5DIAERESIS,
     3YzACUTE,3THORN,3YzDIAERESIS,1foAzMACRON,1soAzMACRON,1foAzBREVE,1soAzBREVE,1foAzOGONEK,
     1soAzOGONEK,1foCzACUTE,1soCzACUTE,1foCzCIRCUMFLEX,1soCzCIRCUMFLEX,1foCzDOTa,1soCzDOTa,
     1foCzCARON,1soCzCARON,1foDzCARON,1soDzCARON,1foDzt,1soDzt,1foEzMACRON,1soEzMACRON,1foEzBREVE,
     1soEzBREVE,1foEzDOTa,1soEzDOTa,1foEzOGONEK,1soEzOGONEK,1foEzCARON,1soEzCARON,1foGzCIRCUMFLEX,
     1soGzCIRCUMFLEX,1foGzBREVE,1soGzBREVE,1foGzDOTa,1soGzDOTa,1foGzCEDILLA,1soGzCEDILLA,
     1foHzCIRCUMFLEX,1soHzCIRCUMFLEX,1foHzt,1soHzt,1foIzTILDE,1soIzTILDE,1foIzMACRON,1soIzMACRON,
     1foIzBREVE,1soIzBREVE,1foIzOGONEK,1soIzOGONEK,1foIzDOTa,1soDOTLESS I,1fLIGATURE IJ,
     1sLIGATURE IJ,1foJzCIRCUMFLEX,1soJzCIRCUMFLEX,1foKzCEDILLA,1soKzCEDILLA,3KRA,1foLzACUTE,
     1soLzACUTE,1foLzCEDILLA,1soLzCEDILLA,1foLzCARON,1soLzCARON,1foLzMIDDLE DOT,1soLzMIDDLE DOT,
     1foLzt,1soLzt,1foNzACUTE,1soNzACUTE,1foNzCEDILLA,1soNzCEDILLA,1foNzCARON,1soNzCARON,
     4PRECEDED BY APOSTROPHE,1foENG,1soENG,1foOzMACRON,1soOzMACRON,1foOzBREVE,1soOzBREVE,
     1foOzgACUTE,1soOzgACUTE,1fLIGATURE OE,1sLIGATURE OE,1foRzACUTE,1soRzACUTE,1foRzCEDILLA,
     1soRzCEDILLA,1foRzCARON,1soRzCARON,1foSzACUTE,1soSzACUTE,1foSzCIRCUMFLEX,1soSzCIRCUMFLEX,
     1foSzCEDILLA,1soSzCEDILLA,1foSzCARON,1soSzCARON,1foTzCEDILLA,1soTzCEDILLA,1foTzCARON,
     1soTzCARON,1foTzt,1soTzt,1foUzTILDE,1soUzTILDE,1foUzMACRON,1soUzMACRON,1foUzBREVE,1soUzBREVE,
     1foUzRINGa,1soUzRINGa,1foUzgACUTE,1soUzgACUTE,1foUzOGONEK,1soUzOGONEK,1foWzCIRCUMFLEX,
     1soWzCIRCUMFLEX,1foYzCIRCUMFLEX,1soYzCIRCUMFLEX,1foYzDIAERESIS,3ZzACUTE,1soZzACUTE,1foZzDOTa,
     1soZzDOTa,1foZzCARON,1soZzCARON,3LONG S,3Bzt,1foBzHOOK,5TOPBAR,1soBzTOPBAR,1foTONE SIX,
     1soTONE SIX,1foOPEN O,3CzHOOK,1soCzHOOK,1foAFRICAN D,3DzHOOK,5TOPBAR,1soDzTOPBAR,3TURNED DELTA,
     1foREVERSED E,3SCHWA,3OPEN E,3FzHOOK,1soFzHOOK,1foGzHOOK,3GAMMA,1soHV,1foIOTA,3Izt,3KzHOOK,
     1soKzHOOK,3LzBAR,3LAMBDAzt,1foTURNED M,3NzmHOOK,1soNzLONGpLEG,1foOzMIDDLE TILDE,5HORN,
     1soOzHORN,1foOI,1soOI,1foPzHOOK,1soPzHOOK,1oYR,1foTONE TWO,1soTONE TWO,1foESH,
     1oREVERSED ESH LOOP,1soTzPALATAL HOOK,1foTzHOOK,1soTzHOOK,1foTzRETROFLEX HOOK,3UzHORN,
     1soUzHORN,1foUPSILON,3VzHOOK,3YzHOOK,1soYzHOOK,1foZzt,1soZzt,1foEZH,4REVERSED,1soEZH REVERSED,
     4zTAIL,1oTWOzt,1foTONE FIVE,1soTONE FIVE,1oINVERTED GLOTTAL STOPzt,2WYNN,2DENTAL CLICK,
     2LATERAL CLICK,2ALVEOLAR CLICK,2RETROFLEX CLICK,1foDZzCARON,3DzsoZzCARON,1soDZzCARON,1foLJ,
     3LzsoJ,1soLJ,1foNJ,3NzsoJ,1soNJ,1foAzCARON,1soAzCARON,1foIzCARON,1soIzCARON,1foOzCARON,
     1soOzCARON,1foUzCARON,1soUzCARON,1foUzDIAERESISbMACRON,1soUzDIAERESISbMACRON,
     1foUzDIAERESISbACUTE,1soUzDIAERESISbACUTE,1foUzDIAERESISbCARON,1soUzDIAERESISbCARON,
     1foUzDIAERESISbGRAVE,1soUzDIAERESISbGRAVE,3TURNED E,1foAzDIAERESISbMACRON,
     1soAzDIAERESISbMACRON,1foAzDOTabMACRON,1soAzDOTabMACRON,1foAEzMACRON,1soAEzMACRON,1foGzt,
     1soGzt,1foGzCARON,1soGzCARON,1foKzCARON,1soKzCARON,1foOzOGONEK,1soOzOGONEK,1foOzOGONEKbMACRON,
     1soOzOGONEKbMACRON,1foEZHzCARON,1soEZHzCARON,3JzCARON,1foDZ,3DzsoZ,1soDZ,1foGzACUTE,1soGzACUTE,
     1foHWAIR,3WYNN,3NzGRAVE,1soNzGRAVE,1foAzRINGabACUTE,1soAzRINGabACUTE,1foAEzACUTE,1soAEzACUTE,
     1foOztbACUTE,1soOztbACUTE,1foAzgGRAVE,1soAzgGRAVE,1foAzINVERTED BREVE,1soAzINVERTED BREVE,
     1foEzgGRAVE,1soEzgGRAVE,1foEzINVERTED BREVE,1soEzINVERTED BREVE,1foIzgGRAVE,1soIzgGRAVE,
     1foIzINVERTED BREVE,1soIzINVERTED BREVE,1foOzgGRAVE,1soOzgGRAVE,1foOzINVERTED BREVE,
     1soOzINVERTED BREVE,1foRzgGRAVE,1soRzgGRAVE,1foRzINVERTED BREVE,1soRzINVERTED BREVE,
     1foUzgGRAVE,1soUzgGRAVE,1foUzINVERTED BREVE,1soUzINVERTED BREVE,1foSzCOMMAd,1soSzCOMMAd,
     1foTzCOMMAd,1soTzCOMMAd,1foYOGH,1soYOGH,1foHzCARON,1soHzCARON,1foNzLONGpLEG,1soDzCURL,1foOU,
     1soOU,1foZzHOOK,1soZzHOOK,1foAzDOTa,1soAzDOTa,1foEzCEDILLA,1soEzCEDILLA,1foOzDIAERESISbMACRON,
     1soOzDIAERESISbMACRON,1foOzTILDEbMACRON,1soOzTILDEbMACRON,1foOzDOTa,1soOzDOTa,1foOzDOTabMACRON,
     1soOzDOTabMACRON,1foYzMACRON,1soYzMACRON,3LzCURL,3NzCURL,3TzCURL,3DOTLESS J,3DB DIGRAPH,
     3QP DIGRAPH,1foAzt,3Czt,1soCzt,1foLzBAR,3TzDIAGONALt,1soSzSWASH TAIL,3ZzSWASH TAIL,
     1foGLOTTAL STOP,1soGLOTTAL STOP,1foBzt,3U BAR,3TURNED V,3Ezt,1soEzt,1foJzt,1soJzt,
     1fosQzHOOK TAIL,1soQzHOOK TAIL,1foRzt,1soRzt,1foYzt,1soYzt,3TURNED A,3ALPHA,3TURNED ALPHA,
     3BzHOOK,3OPEN O,3CzCURL,3DzTAIL,5HOOK,3REVERSED E,3SCHWA,4zHOOK,3OPEN E,3REVERSED OPEN E,
     6zHOOK,3CLOSED REVERSED OPEN E,3DOTLESS Jzt,3GzHOOK,3SCRIPT G,1osfG,1soGAMMA,3RAMS HORN,
     3TURNED H,3HzHOOK,3HENGzHOOK,3Izt,3IOTA,1osfI,1soLzMIDDLE TILDE,5BELT,5RETROFLEX HOOK,3LEZH,
     3TURNED M,5zLONG LEG,3MzHOOK,3NzmHOOK,5RETROFLEX HOOK,1osfN,1soBARRED O,1osfOE,1soCLOSED OMEGA,
     3PHI,3TURNED R,5zLONG LEG,6HOOK,3RzLONG LEG,5TAIL,5FISHHOOK,3REVERSED RzFISHHOOK,1osfR,
     4INVERTED R,1soSzHOOK,3ESH,3DOTLESS JztbHOOK,3SQUAT REVERSED ESH,3ESHzCURL,3TURNED T,
     3TzRETROFLEX HOOK,3U BAR,3UPSILON,3VzHOOK,3TURNED V,4W,4Y,1osfY,1soZzRETROFLEX HOOK,5CURL,3EZH,
     4zCURL,1oGLOTTAL STOP,2PHARYNGEAL VOICED FRICATIVE,2INVERTED GLOTTAL STOP,2STRETCHED C,
     2BILABIAL CLICK,2sfB,1soCLOSED OPEN E,1osfGzHOOK,4H,1soJzCROSSED-TAIL,3TURNED K,1osfL,
     1soQzHOOK,1oGLOTTAL STOPzt,2REVERSED GLOTTAL STOPzt,1soDZ DIGRAPH,3DEZH DIGRAPH,
     3DZ DIGRAPHzCURL,3TS DIGRAPH,3TESH DIGRAPH,3TC DIGRAPHzCURL,3FENG DIGRAPH,3LS DIGRAPH,
     3LZ DIGRAPH,1oBILABIAL PERCUSSIVE,2BIDENTAL PERCUSSIVE,1soTURNED HzFISHHOOK,7bTAIL,
     0MODIFIERosH,4zHOOK,3J,3R,3TURNED R,5zHOOK,3fINVERTED R,3W,3Y,2PRIME,2gPRIME,2TURNED COMMA,
     2APOSTROPHE,2REVERSED COMMA,2pHALF RING,2mHALF RING,2GLOTTAL STOP,2REVERSED GLOTTAL STOP,
     2mARROWHEAD,2pARROWHEAD,2UP ARROWHEAD,2DOWN ARROWHEAD,2CIRCUMFLEX ACCENT,0CARON,
     0MODIFIERoxLINE,2MACRON,2ACUTE ACCENT,2GRAVE ACCENT,2LOWxLINE,3MACRON,3GRAVE ACCENT,
     3ACUTE ACCENT,2TRIANGULAR COLON,2HALF TRIANGULAR COLON,2CENTREDpHALF RING,3mHALF RING,2UP TACK,
     2DOWN TACK,2PLUSr,2MINUSr,0BREVE,0DOTa,0RINGa,0OGONEK,0sTILDE,0gACUTE ACCENT,
     0MODIFIERoRHOTIC HOOK,2CROSS ACCENT,2sGAMMA,3L,3S,3X,3REVERSED GLOTTAL STOP,
     2EXTRA-HIGH TONE BAR,2HIGH TONE BAR,2MID TONE BAR,2LOW TONE BAR,2EXTRA-LOW TONE BAR,
     2YIN DEPARTING TONE MARK,2YANG DEPARTING TONE MARK,2VOICING,2UNASPIRATED,2gAPOSTROPHE,
     2LOW DOWN ARROWHEAD,3UP ARROWHEAD,3mARROWHEAD,3pARROWHEAD,3RING,2MIDDLE GRAVE ACCENT,
     3gGRAVE ACCENT,4ACUTE ACCENT,2LOW TILDE,2RAISED COLON,2BEGIN HIGH TONE,2END HIGH TONE,
     2BEGIN LOW TONE,2END LOW TONE,2SHELF,2OPEN SHELF,2LOWmc,0COMBINING GRAVE ACCENT,1ACUTE ACCENT,
     1CIRCUMFLEX ACCENT,1TILDE,1MACRON,1OVERLINE,1BREVE,1DOTa,1DIAERESIS,1HOOKa,1RINGa,
     1gACUTE ACCENT,1CARON,1xLINEa,1gxLINEa,2GRAVE ACCENT,1CANDRABINDU,1INVERTED BREVE,
     1TURNED COMMAa,1COMMAa,1REVERSED COMMAa,1COMMAap,1GRAVE ACCENTd,1ACUTE ACCENTd,1mTACKd,1pTACKd,
     1mANGLEa,1HORN,1mHALF RINGd,1UP TACKd,1DOWN TACKd,1PLUSrd,1MINUSrd,1PALATALIZED HOOKd,
     1RETROFLEX HOOKd,1DOTd,1DIAERESISd,1RINGd,1COMMAd,1CEDILLA,1OGONEK,1xLINEd,1BRIDGEd,
     1INVERTEDgARCHd,1CARONd,1CIRCUMFLEX ACCENTd,1BREVEd,1INVERTED BREVEd,1TILDEd,1MACRONd,
     1LOW LINE,1gLOW LINE,1TILDE OVERLAY,1SHORTtOVERLAY,1LONGtOVERLAY,1SHORT SOLIDUS OVERLAY,
     1LONG SOLIDUS OVERLAY,1pHALF RINGd,1INVERTED BRIDGEd,1SQUAREd,1SEAGULLd,1Xa,1xTILDE,1gOVERLINE,
     1GRAVE TONE MARK,1ACUTE TONE MARK,1GREEK PERISPOMENI,2KORONIS,2DIALYTIKA TONOS,2YPOGEGRAMMENI,
     1BRIDGEa,1EQUALSrd,1gxLINEd,1mANGLEd,1NOT TILDEa,1HOMOTHETICa,1ALMOST EQUAL TOa,1mpcd,
     1UPWARDScd,1GRAPHEME JOINER,1pARROWHEADa,1mHALF RINGa,1FERMATA,1Xd,1mARROWHEADd,1pARROWHEADd,
     3bUP ARROWHEADd,2HALF RINGa,1DOTap,1ASTERISKd,1gRINGd,1ZIGZAGa,1gBREVEd,3,2MACRON,3d,2TILDE,
     2INVERTED BREVE,2qcd,1LATINsoA,4E,4I,4O,4U,4C,4D,4H,4M,4R,4T,4V,4X,0GREEKfoHETA,1soHETA,
     1foARCHAIC SAMPI,1soARCHAIC SAMPI,1NUMERALr,1LOWER NUMERALr,1foPAMPHYLIAN DIGAMMA,
     1soPAMPHYLIAN DIGAMMA"),
   (0x37A, "1YPOGEGRAMMENI,1sREVERSED LUNATE SIGMAu,2DOTTED LUNATE SIGMAu,
     2REVERSED DOTTED LUNATE SIGMAu,1QUESTION MARK,1foYOT"),
   (0x384, "1TONOS,1DIALYTIKA TONOS,1foALPHAzTONOS,1ANO TELEIA,1foEPSILONzTONOS,3ETAzTONOS,
     3IOTAzTONOS"),
   (0x38C, "3OMICRONzTONOS"),
   (0x38E, "3UPSILONzTONOS,3OMEGAzTONOS,1soIOTAzDIALYTIKAbTONOS,1foALPHA,3BETA,3GAMMA,3DELTA,
     3EPSILON,3ZETA,3ETA,3THETA,3IOTA,3KAPPA,3LAMDA,3MU,3NU,3XI,3OMICRON,3PI,3RHO"),
   (0x3A3, "3SIGMA,3TAU,3UPSILON,3PHI,3CHI,3PSI,3OMEGA,3IOTAzDIALYTIKA,3UPSILONzDIALYTIKA,
     1soALPHAzTONOS,3EPSILONzTONOS,3ETAzTONOS,3IOTAzTONOS,3UPSILONzDIALYTIKAbTONOS,3ALPHA,3BETA,
     3GAMMA,3DELTA,3EPSILON,3ZETA,3ETA,3THETA,3IOTA,3KAPPA,3LAMDA,3MU,3NU,3XI,3OMICRON,3PI,3RHO,
     3hSIGMA,3SIGMA,3TAU,3UPSILON,3PHI,3CHI,3PSI,3OMEGA,3IOTAzDIALYTIKA,3UPSILONzDIALYTIKA,
     3OMICRONzTONOS,3UPSILONzTONOS,3OMEGAzTONOS,1fKAIu,1BETAu,1THETAu,1UPSILONzHOOKu,3ACUTEbHOOKu,
     3DIAERESISbHOOKu,1PHIu,1PIu,1KAIu,1oARCHAIC KOPPA,1soARCHAIC KOPPA,1oSTIGMA,1soSTIGMA,
     1oDIGAMMA,1soDIGAMMA,1oKOPPA,1soKOPPA,1oSAMPI,1soSAMPI,0COPTICfoSHEI,1soSHEI,1foFEI,1soFEI,
     1foKHEI,1soKHEI,1foHORI,1soHORI,1foGANGIA,1soGANGIA,1foSHIMA,1soSHIMA,1foDEI,1soDEI,
     0GREEK KAPPAu,1RHOu,1LUNATE SIGMAu,1oYOT,1fTHETAu,1LUNATE EPSILONu,1REVERSED LUNATE EPSILONu,
     1foSHO,1soSHO,1fLUNATE SIGMAu,2oSAN,1soSAN,1RHOztu,1fREVERSED LUNATE SIGMAu,
     2DOTTED LUNATE SIGMAu,2REVERSED DOTTED LUNATE SIGMAu,0CYRILLICfoIEzGRAVE,3IO,3DJE,3GJE,
     3UKRAINIAN IE,3DZE,3BYELORUSSIAN-UKRAINIAN I,3YI,3JE,3LJE,3NJE,3TSHE,3KJE,3IzGRAVE,3SHORT U,
     3DZHE,3A,3BE,3VE,3GHE,3DE,3IE,3ZHE,3ZE,3I,3SHORT I,3KA,3EL,3EM,3EN,3O,3PE,3ER,3ES,3TE,3U,3EF,
     3HA,3TSE,3CHE,3SHA,3SHCHA,3HARDr,3YERU,3SOFTr,3E,3YU,3YA,1soA,3BE,3VE,3GHE,3DE,3IE,3ZHE,3ZE,3I,
     3SHORT I,3KA,3EL,3EM,3EN,3O,3PE,3ER,3ES,3TE,3U,3EF,3HA,3TSE,3CHE,3SHA,3SHCHA,3HARDr,3YERU,
     3SOFTr,3E,3YU,3YA,3IEzGRAVE,3IO,3DJE,3GJE,3UKRAINIAN IE,3DZE,3BYELORUSSIAN-UKRAINIAN I,3YI,3JE,
     3LJE,3NJE,3TSHE,3KJE,3IzGRAVE,3SHORT U,3DZHE,1foOMEGA,1soOMEGA,1foYAT,1soYAT,1foIOTIFIED E,
     1soIOTIFIED E,1foLITTLE YUS,1soLITTLE YUS,1foIOTIFIED LITTLE YUS,1soIOTIFIED LITTLE YUS,
     1foBIG YUS,1soBIG YUS,1foIOTIFIED BIG YUS,1soIOTIFIED BIG YUS,1foKSI,1soKSI,1foPSI,1soPSI,
     1foFITA,1soFITA,1foIZHITSA,1soIZHITSA,1foIZHITSAzgGRAVE ACCENT,1soIZHITSAzgGRAVE ACCENT,1foUK,
     1soUK,1foROUND OMEGA,1soROUND OMEGA,1foOMEGAzTITLO,1soOMEGAzTITLO,1foOT,1soOT,1foKOPPA,
     1soKOPPA,1THOUSANDSr,0COMBINING CYRILLIC TITLO,2PALATALIZATION,2DASIA PNEUMATA,2PSILI PNEUMATA,
     2POKRYTIE,2HUNDRED THOUSANDSr,2MILLIONSr,0CYRILLICfoSHORT IzTAIL,1soSHORT IzTAIL,1foSEMISOFTr,
     1soSEMISOFTr,1foERzTICK,1soERzTICK,1foGHEzUPTURN,1soGHEzUPTURN,1foGHEzt,1soGHEzt,
     1foGHEzMIDDLE HOOK,1soGHEzMIDDLE HOOK,1foZHEzDESCENDER,1soZHEzDESCENDER,1foZEzDESCENDER,
     1soZEzDESCENDER,1foKAzDESCENDER,1soKAzDESCENDER,1foKAzxt,1soKAzxt,1foKAzt,1soKAzt,
     1foBASHKIR KA,1soBASHKIR KA,1foENzDESCENDER,1soENzDESCENDER,1fLIGATURE EN GHE,
     1sLIGATURE EN GHE,1foPEzMIDDLE HOOK,1soPEzMIDDLE HOOK,1foABKHASIAN HA,1soABKHASIAN HA,
     1foESzDESCENDER,1soESzDESCENDER,1foTEzDESCENDER,1soTEzDESCENDER,1foSTRAIGHT U,1soSTRAIGHT U,
     1foSTRAIGHT Uzt,1soSTRAIGHT Uzt,1foHAzDESCENDER,1soHAzDESCENDER,1fLIGATURE TE TSE,
     1sLIGATURE TE TSE,1foCHEzDESCENDER,1soCHEzDESCENDER,1foCHEzxt,1soCHEzxt,1foSHHA,1soSHHA,
     1foABKHASIAN CHE,1soABKHASIAN CHE,1foABKHASIAN CHEzDESCENDER,1soABKHASIAN CHEzDESCENDER,
     1oPALOCHKA,1foZHEzBREVE,1soZHEzBREVE,1foKAzHOOK,1soKAzHOOK,1foELzTAIL,1soELzTAIL,1foENzHOOK,
     1soENzHOOK,1foENzTAIL,1soENzTAIL,1foKHAKASSIAN CHE,1soKHAKASSIAN CHE,1foEMzTAIL,1soEMzTAIL,
     3PALOCHKA,1foAzBREVE,1soAzBREVE,1foAzDIAERESIS,1soAzDIAERESIS,1fLIGATURE A IE,1sLIGATURE A IE,
     1foIEzBREVE,1soIEzBREVE,1foSCHWA,1soSCHWA,1foSCHWAzDIAERESIS,1soSCHWAzDIAERESIS,
     1foZHEzDIAERESIS,1soZHEzDIAERESIS,1foZEzDIAERESIS,1soZEzDIAERESIS,1foABKHASIAN DZE,
     1soABKHASIAN DZE,1foIzMACRON,1soIzMACRON,1foIzDIAERESIS,1soIzDIAERESIS,1foOzDIAERESIS,
     1soOzDIAERESIS,1foBARRED O,1soBARRED O,1foBARRED OzDIAERESIS,1soBARRED OzDIAERESIS,
     1foEzDIAERESIS,1soEzDIAERESIS,1foUzMACRON,1soUzMACRON,1foUzDIAERESIS,1soUzDIAERESIS,
     1foUzgACUTE,1soUzgACUTE,1foCHEzDIAERESIS,1soCHEzDIAERESIS,1foGHEzDESCENDER,1soGHEzDESCENDER,
     1foYERUzDIAERESIS,1soYERUzDIAERESIS,1foGHEztbHOOK,1soGHEztbHOOK,1foHAzHOOK,1soHAzHOOK,1foHAzt,
     1soHAzt,1foKOMI DE,1soKOMI DE,1foKOMI DJE,1soKOMI DJE,1foKOMI ZJE,1soKOMI ZJE,1foKOMI DZJE,
     1soKOMI DZJE,1foKOMI LJE,1soKOMI LJE,1foKOMI NJE,1soKOMI NJE,1foKOMI SJE,1soKOMI SJE,
     1foKOMI TJE,1soKOMI TJE,1foREVERSED ZE,1soREVERSED ZE,1foELzHOOK,1soELzHOOK,1foLHA,1soLHA,
     1foRHA,1soRHA,1foYAE,1soYAE,1foQA,1soQA,1foWE,1soWE,1foALEUT KA,1soALEUT KA,1foELzMIDDLE HOOK,
     1soELzMIDDLE HOOK,1foENzMIDDLE HOOK,1soENzMIDDLE HOOK,1foPEzDESCENDER,1soPEzDESCENDER,
     1foSHHAzDESCENDER,1soSHHAzDESCENDER,1foENzmHOOK,1soENzmHOOK,1foDZZHE,1soDZZHE,1foDCHE,1soDCHE,
     1foELzDESCENDER,1soELzDESCENDER"),
   (0x531, "0ARMENIANfoAYB,3BEN,3GIM,3DA,3ECH,3ZA,3EH,3ET,3TO,3ZHE,3INI,3LIWN,3XEH,3CA,3KEN,3HO,3JA,
     3GHAD,3CHEH,3MEN,3YI,3NOW,3SHA,3VO,3CHA,3PEH,3JHEH,3RA,3SEH,3VEW,3TIWN,3REH,3CO,3YIWN,3PIWR,
     3KEH,3OH,3FEH"),
   (0x559, "1MODIFIERomHALF RING,1APOSTROPHE,1EMPHASIS MARK,1EXCLAMATION MARK,1COMMA,1QUESTION MARK,
     1ABBREVIATION MARK,1soTURNED AYB,3AYB,3BEN,3GIM,3DA,3ECH,3ZA,3EH,3ET,3TO,3ZHE,3INI,3LIWN,3XEH,
     3CA,3KEN,3HO,3JA,3GHAD,3CHEH,3MEN,3YI,3NOW,3SHA,3VO,3CHA,3PEH,3JHEH,3RA,3SEH,3VEW,3TIWN,3REH,
     3CO,3YIWN,3PIWR,3KEH,3OH,3FEH,2LIGATURE ECH YIWN,2oYIzt,1FULL STOP,1HYPHEN"),
   (0x58D, "0RIGHT-FACING ARMENIAN ETERNITYr,0LEFT-FACING ARMENIAN ETERNITYr,0ARMENIAN DRAMr"),
   (0x591, "0HEBREW ACCENT ETNAHTA,2SEGOL,2SHALSHELET,2ZAQEF QATAN,3GADOL,2TIPEHA,2REVIA,2ZARQA,
     2PASHTA,2YETIV,2TEVIR,2GERESH,3MUQDAM,2GERSHAYIM,2QARNEY PARA,2TELISHA GEDOLA,2PAZER,
     2ATNAH HAFUKH,2MUNAH,2MAHAPAKH,2MERKHA,3KEFULA,2DARGA,2QADMA,2TELISHA QETANA,2YERAH BEN YOMO,
     2OLE,2ILUY,2DEHI,2ZINOR,1MARK MASORA CIRCLE,1POINT SHEVA,2HATAF SEGOL,3PATAH,3QAMATS,2HIRIQ,
     2TSERE,2SEGOL,2PATAH,2QAMATS,2HOLAM,3HASER FOR VAV,2QUBUTS,2DAGESH OR MAPIQ,2METEG,
     1PUNCTUATION MAQAF,1POINT RAFE,1PUNCTUATION PASEQ,1POINT SHIN DOT,2SIN DOT,
     1PUNCTUATION SOF PASUQ,1MARK UPPER DOT,2LOWER DOT,1PUNCTUATION NUN HAFUKHA,
     1POINT QAMATS QATAN"),
   (0x5D0, "1oALEF,2BET,2GIMEL,2DALET,2HE,2VAV,2ZAYIN,2HET,2TET,2YOD,2hKAF,2KAF,2LAMED,2hMEM,2MEM,
     2hNUN,2NUN,2SAMEKH,2AYIN,2hPE,2PE,2hTSADI,2TSADI,2QOF,2RESH,2SHIN,2TAV"),
   (0x5EF, "1YOD TRIANGLE,1LIGATURE YIDDISHgVAV,3VAV YOD,3gYOD,1PUNCTUATION GERESH,2GERSHAYIM"),
   (0x600, "0ARABIC NUMBERr,1rSANAH,1FOOTNOTE MARKER,1rSAFHA,2SAMVAT,1NUMBER MARKa,
     0ARABIC-INDIC CUBE ROOT,1FOURTH ROOT,0ARABIC RAY,0ARABIC-INDIC PER MILLEr,2TEN THOUSANDr,
     0AFGHANIr,0ARABIC COMMA,1DATE SEPARATOR,1POETIC VERSEr,1rMISRA,2SALLALLAHOU ALAYHE WASSALLAM,
     2ALAYHE ASSALLAM,2RAHMATULLAH ALAYHE,2RADI ALLAHOU ANHU,2TAKHALLUS,1sHIGH TAH,
     3LIGATURE ALEFzLAMzYEH,3ZAIN,2FATHA,2DAMMA,2KASRA,1SEMICOLON,1oMARK,1END OF TEXT MARK,
     1TRIPLE DOT PUNCTUATION MARK,1QUESTION MARK,1oKASHMIRI YEH,2HAMZA,2ALEFzMADDAa,4HAMZAa,
     2WAWzHAMZAa,2ALEFzHAMZAd,2YEHzHAMZAa,2ALEF,2BEH,2TEH MARBUTA,3,2THEH,2JEEM,2HAH,2KHAH,2DAL,
     2THAL,2REH,2ZAIN,2SEEN,2SHEEN,2SAD,2DAD,2TAH,2ZAH,2AIN,2GHAIN,2KEHEHzTWO DOTSa,4vDOTSd,
     2FARSI YEHzINVERTED V,5TWO DOTSa,5vDOTSa,1TATWEEL,1oFEH,2QAF,2KAF,2LAM,2MEEM,2NOON,2HEH,2WAW,
     2ALEF MAKSURA,2YEH,1FATHATAN,1DAMMATAN,1KASRATAN,1FATHA,1DAMMA,1KASRA,1SHADDA,1SUKUN,1MADDAHa,
     1HAMZAa,2d,1SUBSCRIPT ALEF,1INVERTED DAMMA,1MARK NOON GHUNNA,1ZWARAKAY,1VOWELrsVa,3INVERTEDsVa,
     3DOTd,1REVERSED DAMMA,1FATHAzTWO DOTS,1WAVY HAMZAd,0ARABIC-INDIC DIGIT ZERO,2ONE,2TWO,2v,2FOUR,
     2FIVE,2SIX,2SEVEN,2EIGHT,2NINE,0ARABIC PERCENTr,1DECIMAL SEPARATOR,1THOUSANDS SEPARATOR,
     1FIVE POINTED STAR,1oDOTLESS BEH,3QAF,2SUPERSCRIPT ALEF,2ALEF WASLA,3zWAVY HAMZAa,6d,
     2HIGH HAMZA,4ALEF,4WAW,2UzHAMZAa,2HIGH HAMZA YEH,2TTEH,2TTEHEH,2BEEH,2TEHzRING,
     4vDOTSaDOWNWARDS,2PEH,2TEHEH,2BEHEH,2HAHzHAMZAa,4TWO DOTSxa,2NYEH,2DYEH,2HAHzvDOTSa,2TCHEH,
     2TCHEHEH,2DDAL,2DALzRING,4DOTd,6bsTAH,2DAHAL,2DDAHAL,2DUL,2DALzvDOTSaDOWNWARDS,4FOUR DOTSa,
     2RREH,2REHzsV,4RING,4DOTd,4sVd,4DOTdbDOTa,4TWO DOTSa,2JEH,2REHzFOUR DOTSa,2SEENzDOTdbDOTa,
     4vDOTSd,7bvDOTSa,2SADzTWO DOTSd,4vDOTSa,2TAHzvDOTSa,2AINzvDOTSa,2DOTLESS FEH,2FEHzDOT MOVEDd,
     5d,2VEH,2FEHzvDOTSd,2PEHEH,2QAFzDOTa,4vDOTSa,2KEHEH,2SWASH KAF,2KAFzRING,4DOTa,2NG,2KAFzvDOTSd,
     2GAF,3zRING,2NGOEH,2GAFzTWO DOTSd,2GUEH,2GAFzvDOTSa,2LAMzsV,4DOTa,4vDOTSa,6d,2NOONzDOTd,
     3GHUNNA,2RNOON,2NOONzRING,4vDOTSa,2HEH DOACHASHMEE,2TCHEHzDOTa,2HEHzYEHa,3GOAL,4zHAMZAa,
     2TEH MARBUTA GOAL,2WAWzRING,2KIRGHIZ OE,2OE,2U,2YU,2KIRGHIZ YU,2WAWzTWO DOTSa,2VE,2FARSI YEH,
     2YEHzTAIL,4sV,2WAWzDOTa,2E,2YEHzvDOTSd,3BARREE,4zHAMZAa,1FULL STOP,1oAE,
     1sHIGH LIGATURE SADzLAMzALEF MAKSURA,4QAFzLAMzALEF MAKSURA,3MEEMki,3LAM ALEF,3JEEM,3vDOTS,
     3SEEN,1END OF AYAH,1START OF RUB EL HIZB,1sHIGH ROUNDED ZERO,3UPRIGHT RECTANGULAR ZERO,
     3DOTLESS HEAD OF KHAH,3MEEMli,2LOW SEEN,2HIGH MADDA,2WAW,2YEH,2HIGH YEH,3NOON,1PLACE OF SAJDAH,
     1EMPTY CENTRE LOW STOP,3HIGH STOP,1ROUNDED HIGH STOPzFILLED CENTRE,1sLOW MEEM,1oDALzINVERTED V,
     2REHzINVERTED V,0EXTENDED ARABIC-INDIC DIGIT ZERO,3ONE,3TWO,3v,3FOUR,3FIVE,3SIX,3SEVEN,3EIGHT,
     3NINE,0ARABICoSHEENzDOTd,2DADzDOTd,2GHAINzDOTd,1rSINDHI AMPERSAND,3POSTPOSITION MEN,
     1oHEHzINVERTED V,0SYRIAC END OF PARAGRAPH,1SUPRALINEAR FULL STOP,1SUBLINEAR FULL STOP,
     1SUPRALINEAR COLON,1SUBLINEAR COLON,1jCOLON,1COLON SKEWEDm,3p,1SUPRALINEAR COLON SKEWEDm,
     1SUBLINEAR COLON SKEWEDp,1CONTRACTION,1HARKLEAN OBELUS,2METOBELUS,2ASTERISCUS"),
   (0x70F, "1ABBREVIATION MARK,1oALAPH,2SUPERSCRIPT ALAPH,2BETH,2GAMAL,3GARSHUNI,2DALATH,
     2DOTLESS DALATH RISH,2HE,2WAW,2ZAIN,2HETH,2TETH,3GARSHUNI,2YUDH,3HE,2KAPH,2LAMADH,2MIM,2NUN,
     2SEMKATH,2hSEMKATH,2E,2PE,2REVERSED PE,2SADHE,2QAPH,2RISH,2SHIN,2TAW,2PERSIAN BHETH,3GHAMAL,
     3DHALATH,1PTHAHAa,2d,2DOTTED,1ZQAPHAa,2d,2DOTTED,1RBASAa,2d,1DOTTED ZLAMAj,3ANGULAR,1HBASAa,2d,
     1HBASA-ESASA DOTTED,1ESASAa,2d,1RWAHA,1FEMININE DOT,1QUSHSHAYA,1RUKKAKHA,1TWOxDOTSa,4d,1vDOTSa,
     3d,1OBLIQUE LINEa,3d,1MUSIC,1BARREKH"),
   (0x74D, "1oSOGDIAN ZHAIN,3KHAPH,3FE,0ARABICoBEHzvDOTS HORIZONTALLYd,4DOTdbvDOTSa,
     4vDOTS POINTING UPWARDSd,9bTWO DOTSa,4TWO DOTSdbDOTa,4INVERTEDsVd,4sV,2HAHzTWO DOTSa,
     4vDOTS POINTING UPWARDSd,2DALzTWO DOTS VERTICALLYdbsTAH,4INVERTEDsVd,2REHzt,2SEENzFOUR DOTSa,
     2AINzTWO DOTSa,4vDOTS POINTING DOWNWARDSa,4TWO DOTS VERTICALLYa,2FEHzTWO DOTSd,
     4vDOTS POINTING UPWARDSd,2KEHEHzDOTa,4vDOTSa,6POINTING UPWARDSd,2MEEMzDOTa,5d,2NOONzTWO DOTSd,
     4sTAH,5V,2LAMzBAR,2REHzTWO DOTS VERTICALLYa,4HAMZAa,2SEENzTWO DOTS VERTICALLYa,
     2HAHzsARABICoTAHd,8bTWO DOTS,2SEENzsARABICoTAHbTWO DOTS,2REHzsARABICoTAHbTWO DOTS,
     2HAHzsARABICoTAHa,2ALEFzEXTENDED ARABIC-INDIC DIGIT TWOa,7va,
     2FARSI YEHzEXTENDED ARABIC-INDIC DIGIT TWOa,8va,8FOURd,2WAWzEXTENDED ARABIC-INDIC DIGIT TWOa,
     7va,2YEH BARREEzEXTENDED ARABIC-INDIC DIGIT TWOa,8va,2HAHzEXTENDED ARABIC-INDIC DIGIT FOURd,
     2SEENzEXTENDED ARABIC-INDIC DIGIT FOURa,4INVERTED V,2KAFzTWO DOTSa,0THAANAoHAA,2SHAVIYANI,
     2NOONU,2RAA,2BAA,2LHAVIYANI,2KAAFU,2ALIFU,2VAAVU,2MEEMU,2FAAFU,2DHAALU,2THAA,2LAAMU,2GAAFU,
     2GNAVIYANI,2SEENU,2DAVIYANI,2ZAVIYANI,2TAVIYANI,2YAA,2PAVIYANI,2JAVIYANI,2CHAVIYANI,2TTAA,
     2HHAA,2KHAA,2THAALU,2ZAA,2SHEENU,2SAADHU,2DAADHU,2TO,2ZO,2AINU,2GHAINU,2QAAFU,2WAAVU,1ABAFILI,
     1AABAAFILI,1IBIFILI,1EEBEEFILI,1UBUFILI,1OOBOOFILI,1EBEFILI,1EYBEYFILI,1OBOFILI,1OABOAFILI,
     1SUKUN,1oNAA"),
   (0x7C0, "0NKO DIGIT ZERO,2ONE,2TWO,2v,2FOUR,2FIVE,2SIX,2SEVEN,2EIGHT,2NINE,1oA,2EE,2I,2E,2U,2OO,
     2O,2DAGBASINNA,2N,2BA,2PA,2TA,2JA,2CHA,2DA,2RA,2RRA,2SA,2GBA,2FA,2KA,2LA,2NA WOLOSO,2MA,2NYA,
     2NA,2HA,2WA,2YA,2NYA WOLOSO,2JONA JA,3CHA,3RA,1COMBINING SHORT HIGH TONE,3LOW TONE,
     3RISING TONE,2LONG DESCENDING TONE,3HIGH TONE,3LOW TONE,3RISING TONE,2NASALIZATION MARK,2gDOTa,
     1HIGH TONE APOSTROPHE,1LOW TONE APOSTROPHE,1uOO DENNEN,2GBAKURUNEN,1COMMA,1EXCLAMATION MARK,
     1LAJANYALAN"),
   (0x7FD, "1DANTAYALAN,1DOROMEr,1TAMANr,0SAMARITANoALAF,2BIT,2GAMAN,2DALAT,2IY,2BAA,2ZEN,2IT,2TIT,
     2YUT,2KAAF,2LABAT,2MIM,2NUN,2SINGAAT,2IN,2FI,2TSAADIY,2QUF,2RISH,2SHAN,2TAAF,1MARK IN,2IN-ALAF,
     2OCCLUSION,2DAGESH,1MODIFIERoEPENTHETIC YUT,1MARK EPENTHETIC YUT,1VOWELrLONG E,3E,3OVERLONG AA,
     3LONG AA,3AA,3OVERLONG A,3LONG A,3A,1MODIFIERoSHORT A,1VOWELrSHORT A,3LONG U,3U,1MODIFIERoI,
     1VOWELrLONG I,3I,3O,3SUKUN,1MARK NEQUDAA"),
   (0x830, "1PUNCTUATION NEQUDAA,2AFSAAQ,2ANGED,2BAU,2ATMAAU,2SHIYYAALAA,1ABBREVIATION MARK,
     1PUNCTUATION MELODIC QITSA,2ZIQAA,2QITSA,2ZAEF,2TURU,2ARKAANU,2SOF MASHFAAT,2ANNAAU"),
   (0x840, "0MANDAICoHALQA,2AB,2AG,2AD,2AH,2USHENNA,2AZ,2IT,2ATT,2AKSA,2AK,2AL,2AM,2AN,2AS,2IN,2AP,
     2ASZ,2AQ,2AR,2ASH,2AT,2DUSHENNA,2KAD,2AIN,1AFFRICATION MARK,1VOCALIZATION MARK,
     1GEMINATION MARK"),
   (0x85E, "1PUNCTUATION"),
   (0x860, "0SYRIACoMALAYALAM NGA,3JA,3NYA,3TTA,3NNA,3NNNA,3BHA,3RA,3LLA,3LLLA,3SSA"),
   (0x870, "0ARABICoALEFzATTACHED FATHA,5TOPpFATHA,4pMIDDLEt,4mMIDDLEt,4ATTACHED KASRA,
     5BOTTOMpKASRA,5ROUND DOTa,5pROUND DOT,5mROUND DOT,5ROUND DOTd,4DOTa,4ATTACHED TOPpFATHAbDOTa,
     4pMIDDLEtbDOTa,4ATTACHED BOTTOMpKASRAbDOTa,5TOPpFATHAbmRING,4pMIDDLEtbmRING,
     4ATTACHED BOTTOMpKASRAbmRING,5pHAMZA,5mHAMZA,1TATWEELzOVERSTRUCK HAMZA,4WAW,3TWO DOTSd,
     1oTHIN YEH,1BASELINE ROUND DOT,1RAISED ROUND DOT,1oNOONzINVERTEDsV,2HAHzINVERTEDsVd,2TAHzDOTd,
     4vDOTSd,2KEHEHzTWO DOTS VERTICALLYd,1xTAIL"),
   (0x890, "1POUND MARKa,1PIASTRE MARKa"),
   (0x898, "1sHIGH WORD AL-JUZ,2LOW WORD ISHMAAM,4IMAALA,4TASHEEL,1MADDA WAAJIB,
     1SUPERSCRIPT ALEF MOKHASSAS,1DOUBLED MADDA,1HALF MADDA OVER MADDA,1oBEHzsVd,4HAMZAa,
     2JEEMzTWO DOTSa,2TAHzTWO DOTSa,2FEHzDOTdbvDOTSa,2QAFzDOTd,2LAMzgBAR,2MEEMzvDOTSa,
     2YEHzTWO DOTSdbHAMZAa,8DOTa,2REHzLOOP,2WAWzDOT WITHIN,2ROHINGYA YEH,2LOW ALEF,2DALzvDOTSd,
     2SADzvDOTSd,2GAFzINVERTEDt,2STRAIGHT WAW,2ZAINzINVERTED Va,2AINzvDOTSd,2KAFzDOTd,
     2QAFzDOTdbNO DOTSa,2BEHzsMEEMa,2PEHzsMEEMa,2TEHzsTEHa,2REHzsNOONa,2YEHzTWO DOTSdbsNOONa,
     2AFRICAN FEH,3QAF,3NOON,2PEHzsV,2TEHzsV,2TTEHzsV,2TCHEHzsV,2KEHEHzsV,2GHAINzvDOTSa,
     2AFRICAN QAFzvDOTSa,2JEEMzvDOTSa,6d,2LAMzsARABICoTAHa,2GRAF,1sFARSI YEH,2HIGH FARSI YEH,
     3YEH BARREEzTWO DOTSd,3WORD SAH,3ZAH,1LARGE ROUND DOTa,4d,1SUKUNd,1LARGE CIRCLEd,
     2ROUND DOT INSIDE CIRCLEd,1sLOW WAW,2HIGH WORD AR-RUB,3SAD,3AIN,3QAF,3NOONzKASRA,
     2LOW NOONzKASRA,2HIGH WORD ATH-THALATHA,4AS-SAJDA,4AN-NISF,4SAKTA,4QIF,4WAQFA,3FOOTNOTE MARKER,
     3rSAFHA,1DISPUTED END OF AYAH,1TURNED DAMMAd,1CURLY FATHA,2DAMMA,2KASRA,2FATHATAN,2DAMMATAN,
     2KASRATAN,1TONE ONE DOTa,2TWO DOTSa,2LOOPa,2ONE DOTd,2TWO DOTSd,2LOOPd,1OPEN FATHATAN,
     2DAMMATAN,2KASRATAN,1sHIGH WAW,1FATHAzRING,3DOTa,1KASRAzDOTd,1mARROWHEADa,1pARROWHEADa,
     1mARROWHEADd,1pARROWHEADd,1gpARROWHEADa,5zDOT,1pARROWHEADazDOT,1DAMMAzDOT,
     1MARK SIDEWAYS NOON GHUNNA,0DEVANAGARIrINVERTED CANDRABINDU,2CANDRABINDU,2ANUSVARA,2VISARGA,
     1oSHORT A,2A,2AA,2I,2II,2U,2UU,2VOCALIC R,3L,2CANDRA E,2SHORT E,2E,2AI,2CANDRA O,2SHORT O,2O,
     2AU,2KA,2KHA,2GA,2GHA,2NGA,2CA,2CHA,2JA,2JHA,2NYA,2TTA,2TTHA,2DDA,2DDHA,2NNA,2TA,2THA,2DA,2DHA,
     2NA,2NNNA,2PA,2PHA,2BA,2BHA,2MA,2YA,2RA,2RRA,2LA,2LLA,2LLLA,2VA,2SHA,2SSA,2SA,2HA,1VOWELrOE,
     3OOE,1rNUKTA,2AVAGRAHA,1VOWELrAA,3I,3II,3U,3UU,3VOCALIC R,4RR,3CANDRA E,3SHORT E,3E,3AI,
     3CANDRA O,3SHORT O,3O,3AU,1rVIRAMA,1VOWELrPRISHTHAMATRA E,3AW,1OM,1STRESSrUDATTA,3ANUDATTA,
     1GRAVE ACCENT,1ACUTE ACCENT,1VOWELrCANDRA LONG E,3UE,3UUE,1oQA,2KHHA,2GHHA,2ZA,2DDDHA,2RHA,2FA,
     2YYA,2VOCALIC RR,3LL,1VOWELrVOCALIC L,4LL,1DANDA,1gDANDA,1DIGIT ZERO,2ONE,2TWO,2v,2FOUR,2FIVE,
     2SIX,2SEVEN,2EIGHT,2NINE,1ABBREVIATIONr,1rHIGH SPACING DOT,1oCANDRA A,2OE,2OOE,2AW,2UE,2UUE,
     2MARWARI DDA,2ZHA,2HEAVY YA,2GGA,2JJA,2GLOTTAL STOP,2DDDA,2BBA,0BENGALI ANJI,1rCANDRABINDU,
     2ANUSVARA,2VISARGA"),
   (0x985, "1oA,2AA,2I,2II,2U,2UU,2VOCALIC R,3L"), (0x98F, "2E,2AI"),
   (0x993, "2O,2AU,2KA,2KHA,2GA,2GHA,2NGA,2CA,2CHA,2JA,2JHA,2NYA,2TTA,2TTHA,2DDA,2DDHA,2NNA,2TA,
     2THA,2DA,2DHA,2NA"),
   (0x9AA, "2PA,2PHA,2BA,2BHA,2MA,2YA,2RA"), (0x9B2, "2LA"), (0x9B6, "2SHA,2SSA,2SA,2HA"),
   (0x9BC, "1rNUKTA,2AVAGRAHA,1VOWELrAA,3I,3II,3U,3UU,3VOCALIC R,4RR"), (0x9C7, "3E,3AI"),
   (0x9CB, "3O,3AU,1rVIRAMA,1oKHANDA TA"), (0x9D7, "1AU LENGTH MARK"), (0x9DC, "1oRRA,2RHA"),
   (0x9DF, "2YYA,2VOCALIC RR,3LL,1VOWELrVOCALIC L,4LL"),
   (0x9E6, "1DIGIT ZERO,2ONE,2TWO,2v,2FOUR,2FIVE,2SIX,2SEVEN,2EIGHT,2NINE,1oRAzMIDDLE DIAGONAL,
     4LOWER DIAGONAL,1RUPEE MARK,2r,1CURRENCY NUMERATOR ONE,3TWO,3v,3FOUR,
     3ONE LESS THAN THE DENOMINATOR,2DENOMINATOR SIXTEEN,1ISSHAR,1GANDA MARK,1oVEDIC ANUSVARA,
     1ABBREVIATIONr,1SANDHI MARK"),
   (0xA01, "0GURMUKHIrADAK BINDI,2BINDI,2VISARGA"), (0xA05, "1oA,2AA,2I,2II,2U,2UU"),
   (0xA0F, "2EE,2AI"),
   (0xA13, "2OO,2AU,2KA,2KHA,2GA,2GHA,2NGA,2CA,2CHA,2JA,2JHA,2NYA,2TTA,2TTHA,2DDA,2DDHA,2NNA,2TA,
     2THA,2DA,2DHA,2NA"),
   (0xA2A, "2PA,2PHA,2BA,2BHA,2MA,2YA,2RA"), (0xA32, "2LA,2LLA"), (0xA35, "2VA,2SHA"),
   (0xA38, "2SA,2HA"), (0xA3C, "1rNUKTA"), (0xA3E, "1VOWELrAA,3I,3II,3U,3UU"), (0xA47, "3EE,3AI"),
   (0xA4B, "3OO,3AU,1rVIRAMA"), (0xA51, "2UDAAT"), (0xA59, "1oKHHA,2GHHA,2ZA,2RRA"), (0xA5E, "2FA"),
   (0xA66, "1DIGIT ZERO,2ONE,2TWO,2v,2FOUR,2FIVE,2SIX,2SEVEN,2EIGHT,2NINE,1TIPPI,1ADDAK,1IRI,1URA,
     1EK ONKAR,1rYAKASH,1ABBREVIATIONr"),
   (0xA81, "0GUJARATIrCANDRABINDU,2ANUSVARA,2VISARGA"),
   (0xA85, "1oA,2AA,2I,2II,2U,2UU,2VOCALIC R,3L,1VOWEL CANDRA E"),
   (0xA8F, "1oE,2AI,1VOWEL CANDRA O"),
   (0xA93, "1oO,2AU,2KA,2KHA,2GA,2GHA,2NGA,2CA,2CHA,2JA,2JHA,2NYA,2TTA,2TTHA,2DDA,2DDHA,2NNA,2TA,
     2THA,2DA,2DHA,2NA"),
   (0xAAA, "2PA,2PHA,2BA,2BHA,2MA,2YA,2RA"), (0xAB2, "2LA,2LLA"), (0xAB5, "2VA,2SHA,2SSA,2SA,2HA"),
   (0xABC, "1rNUKTA,2AVAGRAHA,1VOWELrAA,3I,3II,3U,3UU,3VOCALIC R,4RR,3CANDRA E"),
   (0xAC7, "3E,3AI,3CANDRA O"), (0xACB, "3O,3AU,1rVIRAMA"), (0xAD0, "1OM"),
   (0xAE0, "1oVOCALIC RR,3LL,1VOWELrVOCALIC L,4LL"),
   (0xAE6, "1DIGIT ZERO,2ONE,2TWO,2v,2FOUR,2FIVE,2SIX,2SEVEN,2EIGHT,2NINE,1ABBREVIATIONr,1RUPEEr"),
   (0xAF9, "1oZHA,1rSUKUN,2SHADDA,2MADDAH,2THREE-DOT NUKTAa,2CIRCLE NUKTAa,2TWO-CIRCLE NUKTAa"),
   (0xB01, "0ORIYArCANDRABINDU,2ANUSVARA,2VISARGA"), (0xB05, "1oA,2AA,2I,2II,2U,2UU,2VOCALIC R,3L"),
   (0xB0F, "2E,2AI"),
   (0xB13, "2O,2AU,2KA,2KHA,2GA,2GHA,2NGA,2CA,2CHA,2JA,2JHA,2NYA,2TTA,2TTHA,2DDA,2DDHA,2NNA,2TA,
     2THA,2DA,2DHA,2NA"),
   (0xB2A, "2PA,2PHA,2BA,2BHA,2MA,2YA,2RA"), (0xB32, "2LA,2LLA"), (0xB35, "2VA,2SHA,2SSA,2SA,2HA"),
   (0xB3C, "1rNUKTA,2AVAGRAHA,1VOWELrAA,3I,3II,3U,3UU,3VOCALIC R,4RR"), (0xB47, "3E,3AI"),
   (0xB4B, "3O,3AU,1rVIRAMA"), (0xB55, "2OVERLINE,1AI LENGTH MARK,1AU LENGTH MARK"),
   (0xB5C, "1oRRA,2RHA"), (0xB5F, "2YYA,2VOCALIC RR,3LL,1VOWELrVOCALIC L,4LL"),
   (0xB66, "1DIGIT ZERO,2ONE,2TWO,2v,2FOUR,2FIVE,2SIX,2SEVEN,2EIGHT,2NINE,1ISSHAR,1oWA,
     1FRACTION ONE QUARTER,3HALF,2vQUARTERS,2ONE SIXTEENTH,3EIGHTH,2vSIXTEENTHS"),
   (0xB82, "0TAMILrANUSVARA,2VISARGA"), (0xB85, "1oA,2AA,2I,2II,2U,2UU"), (0xB8E, "2E,2EE,2AI"),
   (0xB92, "2O,2OO,2AU,2KA"), (0xB99, "2NGA,2CA"), (0xB9C, "2JA"), (0xB9E, "2NYA,2TTA"),
   (0xBA3, "2NNA,2TA"), (0xBA8, "2NA,2NNNA,2PA"),
   (0xBAE, "2MA,2YA,2RA,2RRA,2LA,2LLA,2LLLA,2VA,2SHA,2SSA,2SA,2HA"),
   (0xBBE, "1VOWELrAA,3I,3II,3U,3UU"), (0xBC6, "3E,3EE,3AI"), (0xBCA, "3O,3OO,3AU,1rVIRAMA"),
   (0xBD0, "1OM"), (0xBD7, "1AU LENGTH MARK"),
   (0xBE6, "1DIGIT ZERO,2ONE,2TWO,2v,2FOUR,2FIVE,2SIX,2SEVEN,2EIGHT,2NINE,1NUMBER TEN,2ONE HUNDRED,
     3THOUSAND,1DAYr,1MONTHr,1YEARr,1DEBITr,1CREDITr,1ASar,1RUPEEr,1NUMBERr"),
   (0xC00, "0TELUGUrCOMBINING CANDRABINDUa,2CANDRABINDU,2ANUSVARA,2VISARGA,2COMBINING ANUSVARAa,1oA,
     2AA,2I,2II,2U,2UU,2VOCALIC R,3L"),
   (0xC0E, "2E,2EE,2AI"),
   (0xC12, "2O,2OO,2AU,2KA,2KHA,2GA,2GHA,2NGA,2CA,2CHA,2JA,2JHA,2NYA,2TTA,2TTHA,2DDA,2DDHA,2NNA,2TA,
     2THA,2DA,2DHA,2NA"),
   (0xC2A, "2PA,2PHA,2BA,2BHA,2MA,2YA,2RA,2RRA,2LA,2LLA,2LLLA,2VA,2SHA,2SSA,2SA,2HA"),
   (0xC3C, "1rNUKTA,2AVAGRAHA,1VOWELrAA,3I,3II,3U,3UU,3VOCALIC R,4RR"), (0xC46, "3E,3EE,3AI"),
   (0xC4A, "3O,3OO,3AU,1rVIRAMA"), (0xC55, "1LENGTH MARK,1AI LENGTH MARK"),
   (0xC58, "1oTSA,2DZA,2RRRA"), (0xC5D, "2NAKAARA POLLU"),
   (0xC60, "2VOCALIC RR,3LL,1VOWELrVOCALIC L,4LL"),
   (0xC66, "1DIGIT ZERO,2ONE,2TWO,2v,2FOUR,2FIVE,2SIX,2SEVEN,2EIGHT,2NINE"),
   (0xC77, "1rSIDDHAM,1FRACTION DIGIT ZERO FOR ODD POWERS OF FOUR,3ONE FOR ODD POWERS OF FOUR,
     3TWO FOR ODD POWERS OF FOUR,3vFOR ODD POWERS OF FOUR,3ONE FOR EVEN POWERS OF FOUR,
     3TWO FOR EVEN POWERS OF FOUR,3vFOR EVEN POWERS OF FOUR,1rTUUMU,0KANNADArSPACING CANDRABINDU,
     2CANDRABINDU,2ANUSVARA,2VISARGA,2SIDDHAM,1oA,2AA,2I,2II,2U,2UU,2VOCALIC R,3L"),
   (0xC8E, "2E,2EE,2AI"),
   (0xC92, "2O,2OO,2AU,2KA,2KHA,2GA,2GHA,2NGA,2CA,2CHA,2JA,2JHA,2NYA,2TTA,2TTHA,2DDA,2DDHA,2NNA,2TA,
     2THA,2DA,2DHA,2NA"),
   (0xCAA, "2PA,2PHA,2BA,2BHA,2MA,2YA,2RA,2RRA,2LA,2LLA"), (0xCB5, "2VA,2SHA,2SSA,2SA,2HA"),
   (0xCBC, "1rNUKTA,2AVAGRAHA,1VOWELrAA,3I,3II,3U,3UU,3VOCALIC R,4RR"), (0xCC6, "3E,3EE,3AI"),
   (0xCCA, "3O,3OO,3AU,1rVIRAMA"), (0xCD5, "1LENGTH MARK,1AI LENGTH MARK"),
   (0xCDD, "1oNAKAARA POLLU,2FA"), (0xCE0, "2VOCALIC RR,3LL,1VOWELrVOCALIC L,4LL"),
   (0xCE6, "1DIGIT ZERO,2ONE,2TWO,2v,2FOUR,2FIVE,2SIX,2SEVEN,2EIGHT,2NINE"),
   (0xCF1, "1rJIHVAMULIYA,2UPADHMANIYA"),
   (0xD00, "0MALAYALAMrCOMBINING ANUSVARAa,2CANDRABINDU,2ANUSVARA,2VISARGA,1oVEDIC ANUSVARA,2A,2AA,
     2I,2II,2U,2UU,2VOCALIC R,3L"),
   (0xD0E, "2E,2EE,2AI"),
   (0xD12, "2O,2OO,2AU,2KA,2KHA,2GA,2GHA,2NGA,2CA,2CHA,2JA,2JHA,2NYA,2TTA,2TTHA,2DDA,2DDHA,2NNA,2TA,
     2THA,2DA,2DHA,2NA,2NNNA,2PA,2PHA,2BA,2BHA,2MA,2YA,2RA,2RRA,2LA,2LLA,2LLLA,2VA,2SHA,2SSA,2SA,
     2HA,2TTTA,1rxBAR VIRAMA,2CIRCULAR VIRAMA,2AVAGRAHA,1VOWELrAA,3I,3II,3U,3UU,3VOCALIC R,4RR"),
   (0xD46, "3E,3EE,3AI"), (0xD4A, "3O,3OO,3AU,1rVIRAMA,1oDOT REPH,1rPARA"),
   (0xD54, "1oCHILLU M,3Y,3LLL,1AU LENGTH MARK,1FRACTION ONE ONE-HUNDRED-AND-SIXTIETH,3FORTIETH,
     2vEIGHTIETHS,2ONE TWENTIETH,3TENTH,2vTWENTIETHS,2ONE FIFTH,1oARCHAIC II,2VOCALIC RR,3LL,
     1VOWELrVOCALIC L,4LL"),
   (0xD66, "1DIGIT ZERO,2ONE,2TWO,2v,2FOUR,2FIVE,2SIX,2SEVEN,2EIGHT,2NINE,1NUMBER TEN,2ONE HUNDRED,
     3THOUSAND,1FRACTION ONE QUARTER,3HALF,2vQUARTERS,2ONE SIXTEENTH,3EIGHTH,2vSIXTEENTHS,
     1DATE MARK,1oCHILLU NN,3N,3RR,3L,3LL,3K"),
   (0xD81, "0SINHALArCANDRABINDU,2ANUSVARAYA,2VISARGAYA"),
   (0xD85, "1oAYANNA,2AAYANNA,2AEYANNA,2AEEYANNA,2IYANNA,2IIYANNA,2UYANNA,2UUYANNA,2IRUYANNA,
     2IRUUYANNA,2ILUYANNA,2ILUUYANNA,2EYANNA,2EEYANNA,2AIYANNA,2OYANNA,2OOYANNA,2AUYANNA"),
   (0xD9A, "2ALPAPRAANA KAYANNA,2MAHAAPRAANA KAYANNA,2ALPAPRAANA GAYANNA,2MAHAAPRAANA GAYANNA,
     2KANTAJA NAASIKYAYA,2SANYAKA GAYANNA,2ALPAPRAANA CAYANNA,2MAHAAPRAANA CAYANNA,
     2ALPAPRAANA JAYANNA,2MAHAAPRAANA JAYANNA,2TAALUJA NAASIKYAYA,3SANYOOGA NAAKSIKYAYA,
     2SANYAKA JAYANNA,2ALPAPRAANA TTAYANNA,2MAHAAPRAANA TTAYANNA,2ALPAPRAANA DDAYANNA,
     2MAHAAPRAANA DDAYANNA,2MUURDHAJA NAYANNA,2SANYAKA DDAYANNA,2ALPAPRAANA TAYANNA,
     2MAHAAPRAANA TAYANNA,2ALPAPRAANA DAYANNA,2MAHAAPRAANA DAYANNA,2DANTAJA NAYANNA"),
   (0xDB3, "2SANYAKA DAYANNA,2ALPAPRAANA PAYANNA,2MAHAAPRAANA PAYANNA,2ALPAPRAANA BAYANNA,
     2MAHAAPRAANA BAYANNA,2MAYANNA,2AMBA BAYANNA,2YAYANNA,2RAYANNA"),
   (0xDBD, "2DANTAJA LAYANNA"),
   (0xDC0, "2VAYANNA,2TAALUJA SAYANNA,2MUURDHAJA SAYANNA,2DANTAJA SAYANNA,2HAYANNA,
     2MUURDHAJA LAYANNA,2FAYANNA"),
   (0xDCA, "1rAL-LAKUNA"),
   (0xDCF, "1VOWELrAELA-PILLA,3KETTI AEDA-PILLA,3DIGA AEDA-PILLA,3KETTI IS-PILLA,3DIGA IS-PILLA,
     3KETTI PAA-PILLA"),
   (0xDD6, "3DIGA PAA-PILLA"),
   (0xDD8, "3GAETTA-PILLA,3KOMBUVA,3DIGA KOMBUVA,3KOMBU DEKA,3KOMBUVA HAA AELA-PILLA,
     5DIGA AELA-PILLA,5GAYANUKITTA,3GAYANUKITTA"),
   (0xDE6, "1LITH DIGIT ZERO,3ONE,3TWO,3v,3FOUR,3FIVE,3SIX,3SEVEN,3EIGHT,3NINE"),
   (0xDF2, "1VOWELrDIGA GAETTA-PILLA,4GAYANUKITTA,1PUNCTUATION KUNDDALIYA"),
   (0xE01, "0THAI CHARACTER KO KAI,2KHO KHAI,3KHUAT,3KHWAI,3KHON,3RAKHANG,2NGO NGU,2CHO CHAN,3CHING,
     3CHANG,2SO SO,2CHO CHOE,2YO YING,2DO CHADA,2TO PATAK,2THO THAN,3NANGMONTHO,3PHUTHAO,2NO NEN,
     2DO DEK,2TO TAO,2THO THUNG,3THAHAN,3THONG,2NO NU,2BO BAIMAI,2PO PLA,2PHO PHUNG,2FO FA,
     2PHO PHAN,2FO FAN,2PHO SAMPHAO,2MO MA,2YO YAK,2RO RUA,2RU,2LO LING,2LU,2WO WAEN,2SO SALA,3RUSI,
     3SUA,2HO HIP,2LO CHULA,2O ANG,2HO NOKHUK,2PAIYANNOI,2SARA A,2MAI HAN-AKAT,2SARA AA,3AM,3I,3II,
     3UE,3UEE,3U,3UU,2PHINTHU"),
   (0xE3F, "1CURRENCYuBAHT,1CHARACTER SARA E,3AE,3O,3AI MAIMUAN,4MAIMALAI,2LAKKHANGYAO,2MAIYAMOK,
     2MAITAIKHU,2MAI EK,3THO,3TRI,3CHATTAWA,2THANTHAKHAT,2NIKHAHIT,2YAMAKKAN,2FONGMAN,1DIGIT ZERO,
     2ONE,2TWO,2v,2FOUR,2FIVE,2SIX,2SEVEN,2EIGHT,2NINE,1CHARACTER ANGKHANKHU,2KHOMUT"),
   (0xE81, "0LAOoKO,2KHO SUNG"), (0xE84, "3TAM"), (0xE86, "2PALI GHA,2NGO,2CO,2PALI CHA,2SO TAM"),
   (0xE8C, "2PALI JHA,2NYO,2PALI NYA,3TTA,3TTHA,3DDA,3DDHA,3NNA,2DO,2TO,2THO SUNG,3TAM,2PALI DHA,
     2NO,2BO,2PO,2PHO SUNG,2FO TAM,2PHO TAM,2FO SUNG,2PALI BHA,2MO,2YO,2LO LING"),
   (0xEA5, "3LOOT"),
   (0xEA7, "2WO,2SANSKRIT SHA,3SSA,2SO SUNG,2HO SUNG,2PALI LLA,2O,2HO TAM,1ELLIPSIS,1VOWELrA,
     3MAI KAN,3AA,3AM,3I,3II,3Y,3YY,3U,3UU,1rPALI VIRAMA,1VOWELrMAI KON,1SEMIVOWELrLO,3NYO"),
   (0xEC0, "1VOWELrE,3EI,3O,3AY,3AI"), (0xEC6, "1KO LA"),
   (0xEC8, "1TONE MAI EK,3THO,3TI,3CATAWA,1CANCELLATION MARK,1NIGGAHITA"),
   (0xED0, "1DIGIT ZERO,2ONE,2TWO,2v,2FOUR,2FIVE,2SIX,2SEVEN,2EIGHT,2NINE"),
   (0xEDC, "1HO NO,2MO,1oKHMU GO,3NYO"),
   (0xF00, "0TIBETAN SYLLABLE OM,1MARK GTER YIG MGO TRUNCATED A,5-UM RNAM BCAD MA,6GTER TSHEG MA,
     2kYIG MGO MDUN MA,2CLOSING YIG MGO SGAB MA,2CARET YIG MGO PHUR SHAD MA,2YIG MGO TSHEG SHAD MA,
     2SBRUL SHAD,2BSKUR YIG MGO,2BKA- SHOG YIG MGO,2INTERSYLLABIC TSHEG,2DELIMITER TSHEG BSTAR,
     2SHAD,2NYIS SHAD,2TSHEG SHAD,2NYIS TSHEG SHAD,2RIN CHEN SPUNGS SHAD,2RGYA GRAM SHAD,
     2CARET -DZUD RTAGS ME LONG CAN,2GTER TSHEG,1LOGOTYPErCHAD RTAGS,3LHAG RTAGS,
     1ASTROLOGICALrSGRA GCAN -CHAR RTAGS,3-KHYUD PA,3SDONG TSHUGS,1rRDEL DKAR GCIG,4GNYIS,4GSUM,
     3NAG GCIG,4GNYIS,3DKAR RDEL NAG,1DIGIT ZERO,2ONE,2TWO,2v,2FOUR,2FIVE,2SIX,2SEVEN,2EIGHT,2NINE,
     2HALF ONE,3TWO,3v,3FOUR,3FIVE,3SIX,3SEVEN,3EIGHT,3NINE,3ZERO,1MARK BSDUS RTAGS,
     2NGAS BZUNG NYI ZLA,2CARET -DZUD RTAGS BZHI MIG CAN,2NGAS BZUNG SGOR RTAGS,2CHE MGO,2TSA -PHRU,
     2GUG RTAGS GYON,4GYAS,2ANG KHANG GYON,4GYAS,1rYAR TSHES,2MAR TSHES,1oKA,2KHA,2GA,2GHA,2NGA,2CA,
     2CHA,2JA"),
   (0xF49, "2NYA,2TTA,2TTHA,2DDA,2DDHA,2NNA,2TA,2THA,2DA,2DHA,2NA,2PA,2PHA,2BA,2BHA,2MA,2TSA,2TSHA,
     2DZA,2DZHA,2WA,2ZHA,2ZA,2-A,2YA,2RA,2LA,2SHA,2SSA,2SA,2HA,2A,2KSSA,2FIXED-FORM RA,2KKA,2RRA"),
   (0xF71, "1VOWELrAA,3I,3II,3U,3UU,3VOCALIC R,4RR,4L,4LL,3E,3EE,3O,3OO,1rRJES SU NGA RO,2RNAM BCAD,
     1VOWELrREVERSED I,4II,1rNYI ZLA NAA DA,2SNA LDAN,1MARK HALANTA,2PALUTA,1rLCI RTAGS,2YANG RTAGS,
     2LCE TSA CAN,2MCHU CAN,2GRU CAN RGYINGS,3MED RGYINGS,2INVERTED MCHU CAN,1SUBJOINEDrLCE TSA CAN,
     3MCHU CAN,3INVERTED MCHU CAN,2oKA,3KHA,3GA,3GHA,3NGA,3CA,3CHA,3JA"),
   (0xF99, "3NYA,3TTA,3TTHA,3DDA,3DDHA,3NNA,3TA,3THA,3DA,3DHA,3NA,3PA,3PHA,3BA,3BHA,3MA,3TSA,3TSHA,
     3DZA,3DZHA,3WA,3ZHA,3ZA,3-A,3YA,3RA,3LA,3SHA,3SSA,3SA,3HA,3A,3KSSA,3FIXED-FORM WA,4YA,4RA"),
   (0xFBE, "1KU RU KHA,4BZHI MIG CAN,1CANTILLATIONrHEAVY BEAT,3LIGHT BEAT,3CANG TE-U,3SBUB -CHAL,
     1uDRIL BU,2RDO RJE,2PADMA GDAN,2RDO RJE RGYA GRAM,2PHUR PA,2NOR BU,4NYIS -KHYIL,4GSUM -KHYIL,
     4BZHI -KHYIL"),
   (0xFCE, "1rRDEL NAG RDEL DKAR,4GSUM,1MARK BSKA- SHOG GI MGO RGYAN,2MNYAM YIG GI MGO RGYAN,
     2NYIS TSHEG,2kBRDA RNYING YIG MGO MDUN MA,2CLOSING BRDA RNYING YIG MGO SGAB MA,
     0RIGHT-FACING SVASTIr,0LEFT-FACING SVASTIr,0RIGHT-FACING SVASTIrzDOTS,
     0LEFT-FACING SVASTIrzDOTS,0TIBETAN MARK LEADING MCHAN RTAGS,2TRAILING MCHAN RTAGS"),
   (0x1000, "0MYANMARoKA,2KHA,2GA,2GHA,2NGA,2CA,2CHA,2JA,2JHA,2NYA,2NNYA,2TTA,2TTHA,2DDA,2DDHA,2NNA,
     2TA,2THA,2DA,2DHA,2NA,2PA,2PHA,2BA,2BHA,2MA,2YA,2RA,2LA,2WA,2SA,2HA,2LLA,2A,2SHAN A,2I,2II,2U,
     2UU,2E,2MON E,2O,2AU,1VOWELrTALL AA,3AA,3I,3II,3U,3UU,3E,3AI,3MON II,4O,3Ea,1rANUSVARA,2DOTd,
     2VISARGA,2VIRAMA,2ASAT,1CONSONANTrMEDIAL YA,4RA,4WA,4HA,1oGREAT SA,1DIGIT ZERO,2ONE,2TWO,2v,
     2FOUR,2FIVE,2SIX,2SEVEN,2EIGHT,2NINE,1rLITTLE SECTION,2SECTION,1uLOCATIVE,2COMPLETED,
     2AFOREMENTIONED,2GENITIVE,1oSHA,2SSA,2VOCALIC R,3RR,3L,3LL,1VOWELrVOCALIC R,4RR,4L,4LL,
     1oMON NGA,3JHA,3BBA,3BBE,1CONSONANTrMON MEDIAL NA,5MA,5LA,1oSGAW KAREN SHA,
     1VOWELrSGAW KAREN EU,1TONE MARK SGAW KAREN HATHI,5KE PHO,1oWESTERN PWO KAREN THA,5PWA,
     1VOWELrWESTERN PWO KAREN EU,6UE,1rWESTERN PWO KAREN TONE-1,5TONE-2,5TONE-3,5TONE-4,5TONE-5,
     1oEASTERN PWO KAREN NNA,5YWA,5GHWA,1VOWELrGEBA KAREN I,3KAYAH OE,4U,4EE,1oSHAN KA,3KHA,3GA,3CA,
     3ZA,3NYA,3DA,3NA,3PHA,3FA,3BA,3THA,3HA,1CONSONANTrSHAN MEDIAL WA,1VOWELrSHAN AA,4E,5a,4hY,
     1rSHAN TONE-2,3TONE-3,3TONE-5,3TONE-6,3COUNCIL TONE-2,4TONE-3,4EMPHATIC TONE,
     1oRUMAI PALAUNG FA,1rRUMAI PALAUNG TONE-5,1SHAN DIGIT ZERO,3ONE,3TWO,3v,3FOUR,3FIVE,3SIX,
     3SEVEN,3EIGHT,3NINE,1rKHAMTI TONE-1,3TONE-3,1VOWELrAITON A,4AI,1uSHAN ONE,3EXCLAMATION,
     0GEORGIANfoAN,3BAN,3GAN,3DON,3EN,3VIN,3ZEN,3TAN,3IN,3KAN,3LAS,3MAN,3NAR,3ON,3PAR,3ZHAR,3RAE,
     3SAN,3TAR,3UN,3PHAR,3KHAR,3GHAN,3QAR,3SHIN,3CHIN,3CAN,3JIL,3CIL,3CHAR,3XAN,3JHAN,3HAE,3HE,3HIE,
     3WE,3HAR,3HOE"),
   (0x10C7, "3YN"), (0x10CD, "3AEN"),
   (0x10D0, "1oAN,2BAN,2GAN,2DON,2EN,2VIN,2ZEN,2TAN,2IN,2KAN,2LAS,2MAN,2NAR,2ON,2PAR,2ZHAR,2RAE,
     2SAN,2TAR,2UN,2PHAR,2KHAR,2GHAN,2QAR,2SHIN,2CHIN,2CAN,2JIL,2CIL,2CHAR,2XAN,2JHAN,2HAE,2HE,2HIE,
     2WE,2HAR,2HOE,2FI,2YN,2ELIFI,2TURNED GAN,2AIN,1PARAGRAPH SEPARATOR,0MODIFIERoGEORGIAN NAR,
     0GEORGIANoAEN,2HARDr,2LABIALr,0HANGUL CHOSEONG KIYEOK,2SSANGKIYEOK,2NIEUN,2TIKEUT,2SSANGTIKEUT,
     2RIEUL,2MIEUM,2PIEUP,2SSANGPIEUP,2SIOS,2SSANGSIOS,2IEUNG,2CIEUC,2SSANGCIEUC,2CHIEUCH,2KHIEUKH,
     2THIEUTH,2PHIEUPH,2HIEUH,2NIEUN-KIYEOK,2SSANGNIEUN,2NIEUN-TIKEUT,2NIEUN-PIEUP,2TIKEUT-KIYEOK,
     2RIEUL-NIEUN,2SSANGRIEUL,2RIEUL-HIEUH,2KAPYEOUNRIEUL,2MIEUM-PIEUP,2KAPYEOUNMIEUM,2PIEUP-KIYEOK,
     2PIEUP-NIEUN,2PIEUP-TIKEUT,2PIEUP-SIOS,2PIEUP-SIOS-KIYEOK,2PIEUP-SIOS-TIKEUT,2PIEUP-SIOS-PIEUP,
     2PIEUP-SSANGSIOS,2PIEUP-SIOS-CIEUC,2PIEUP-CIEUC,2PIEUP-CHIEUCH,2PIEUP-THIEUTH,2PIEUP-PHIEUPH,
     2KAPYEOUNPIEUP,2KAPYEOUNSSANGPIEUP,2SIOS-KIYEOK,2SIOS-NIEUN,2SIOS-TIKEUT,2SIOS-RIEUL,
     2SIOS-MIEUM,2SIOS-PIEUP,2SIOS-PIEUP-KIYEOK,2SIOS-SSANGSIOS,2SIOS-IEUNG,2SIOS-CIEUC,
     2SIOS-CHIEUCH,2SIOS-KHIEUKH,2SIOS-THIEUTH,2SIOS-PHIEUPH,2SIOS-HIEUH,2CHITUEUMSIOS,
     2CHITUEUMSSANGSIOS,2CEONGCHIEUMSIOS,2CEONGCHIEUMSSANGSIOS,2PANSIOS,2IEUNG-KIYEOK,2IEUNG-TIKEUT,
     2IEUNG-MIEUM,2IEUNG-PIEUP,2IEUNG-SIOS,2IEUNG-PANSIOS,2SSANGIEUNG,2IEUNG-CIEUC,2IEUNG-CHIEUCH,
     2IEUNG-THIEUTH,2IEUNG-PHIEUPH,2YESIEUNG,2CIEUC-IEUNG,2CHITUEUMCIEUC,2CHITUEUMSSANGCIEUC,
     2CEONGCHIEUMCIEUC,2CEONGCHIEUMSSANGCIEUC,2CHIEUCH-KHIEUKH,2CHIEUCH-HIEUH,2CHITUEUMCHIEUCH,
     2CEONGCHIEUMCHIEUCH,2PHIEUPH-PIEUP,2KAPYEOUNPHIEUPH,2SSANGHIEUH,2YEORINHIEUH,2KIYEOK-TIKEUT,
     2NIEUN-SIOS,2NIEUN-CIEUC,2NIEUN-HIEUH,2TIKEUT-RIEUL,2FILLER,1JUNGSEONG FILLER,2A,2AE,2YA,2YAE,
     2EO,2E,2YEO,2YE,2O,2WA,2WAE,2OE,2YO,2U,2WEO,2WE,2WI,2YU,2EU,2YI,2I,2A-O,2A-U,2YA-O,2YA-YO,
     2EO-O,2EO-U,2EO-EU,2YEO-O,2YEO-U,2O-EO,2O-E,2O-YE,2O-O,2O-U,2YO-YA,2YO-YAE,2YO-YEO,2YO-O,2YO-I,
     2U-A,2U-AE,2U-EO-EU,2U-YE,2U-U,2YU-A,2YU-EO,2YU-E,2YU-YEO,2YU-YE,2YU-U,2YU-I,2EU-U,2EU-EU,
     2YI-U,2I-A,2I-YA,2I-O,2I-U,2I-EU,2I-ARAEA,2ARAEA,2ARAEA-EO,2ARAEA-U,2ARAEA-I,2SSANGARAEA,2A-EU,
     2YA-U,2YEO-YA,2O-YA,2O-YAE,1JONGSEONG KIYEOK,2SSANGKIYEOK,2KIYEOK-SIOS,2NIEUN,2NIEUN-CIEUC,
     2NIEUN-HIEUH,2TIKEUT,2RIEUL,2RIEUL-KIYEOK,2RIEUL-MIEUM,2RIEUL-PIEUP,2RIEUL-SIOS,2RIEUL-THIEUTH,
     2RIEUL-PHIEUPH,2RIEUL-HIEUH,2MIEUM,2PIEUP,2PIEUP-SIOS,2SIOS,2SSANGSIOS,2IEUNG,2CIEUC,2CHIEUCH,
     2KHIEUKH,2THIEUTH,2PHIEUPH,2HIEUH,2KIYEOK-RIEUL,2KIYEOK-SIOS-KIYEOK,2NIEUN-KIYEOK,
     2NIEUN-TIKEUT,2NIEUN-SIOS,2NIEUN-PANSIOS,2NIEUN-THIEUTH,2TIKEUT-KIYEOK,2TIKEUT-RIEUL,
     2RIEUL-KIYEOK-SIOS,2RIEUL-NIEUN,2RIEUL-TIKEUT,2RIEUL-TIKEUT-HIEUH,2SSANGRIEUL,
     2RIEUL-MIEUM-KIYEOK,2RIEUL-MIEUM-SIOS,2RIEUL-PIEUP-SIOS,2RIEUL-PIEUP-HIEUH,
     2RIEUL-KAPYEOUNPIEUP,2RIEUL-SSANGSIOS,2RIEUL-PANSIOS,2RIEUL-KHIEUKH,2RIEUL-YEORINHIEUH,
     2MIEUM-KIYEOK,2MIEUM-RIEUL,2MIEUM-PIEUP,2MIEUM-SIOS,2MIEUM-SSANGSIOS,2MIEUM-PANSIOS,
     2MIEUM-CHIEUCH,2MIEUM-HIEUH,2KAPYEOUNMIEUM,2PIEUP-RIEUL,2PIEUP-PHIEUPH,2PIEUP-HIEUH,
     2KAPYEOUNPIEUP,2SIOS-KIYEOK,2SIOS-TIKEUT,2SIOS-RIEUL,2SIOS-PIEUP,2PANSIOS,2IEUNG-KIYEOK,
     2IEUNG-SSANGKIYEOK,2SSANGIEUNG,2IEUNG-KHIEUKH,2YESIEUNG,2YESIEUNG-SIOS,2YESIEUNG-PANSIOS,
     2PHIEUPH-PIEUP,2KAPYEOUNPHIEUPH,2HIEUH-NIEUN,2HIEUH-RIEUL,2HIEUH-MIEUM,2HIEUH-PIEUP,
     2YEORINHIEUH,2KIYEOK-NIEUN,2KIYEOK-PIEUP,2KIYEOK-CHIEUCH,2KIYEOK-KHIEUKH,2KIYEOK-HIEUH,
     2SSANGNIEUN,0ETHIOPIC SYLLABLE HA,2HU,2HI,2HAA,2HEE,2HE,2HO,2HOA,2LA,2LU,2LI,2LAA,2LEE,2LE,2LO,
     2LWA,2HHA,2HHU,2HHI,2HHAA,2HHEE,2HHE,2HHO,2HHWA,2MA,2MU,2MI,2MAA,2MEE,2ME,2MO,2MWA,2SZA,2SZU,
     2SZI,2SZAA,2SZEE,2SZE,2SZO,2SZWA,2RA,2RU,2RI,2RAA,2REE,2RE,2RO,2RWA,2SA,2SU,2SI,2SAA,2SEE,2SE,
     2SO,2SWA,2SHA,2SHU,2SHI,2SHAA,2SHEE,2SHE,2SHO,2SHWA,2QA,2QU,2QI,2QAA,2QEE,2QE,2QO,2QOA,2QWA"),
   (0x124A, "2QWI,2QWAA,2QWEE,2QWE"), (0x1250, "2QHA,2QHU,2QHI,2QHAA,2QHEE,2QHE,2QHO"),
   (0x1258, "2QHWA"), (0x125A, "2QHWI,2QHWAA,2QHWEE,2QHWE"),
   (0x1260, "2BA,2BU,2BI,2BAA,2BEE,2BE,2BO,2BWA,2VA,2VU,2VI,2VAA,2VEE,2VE,2VO,2VWA,2TA,2TU,2TI,2TAA,
     2TEE,2TE,2TO,2TWA,2CA,2CU,2CI,2CAA,2CEE,2CE,2CO,2CWA,2XA,2XU,2XI,2XAA,2XEE,2XE,2XO,2XOA,2XWA"),
   (0x128A, "2XWI,2XWAA,2XWEE,2XWE"),
   (0x1290, "2NA,2NU,2NI,2NAA,2NEE,2NE,2NO,2NWA,2NYA,2NYU,2NYI,2NYAA,2NYEE,2NYE,2NYO,2NYWA,
     2GLOTTAL A,3U,3I,3AA,3EE,3E,3O,3WA,2KA,2KU,2KI,2KAA,2KEE,2KE,2KO,2KOA,2KWA"),
   (0x12B2, "2KWI,2KWAA,2KWEE,2KWE"), (0x12B8, "2KXA,2KXU,2KXI,2KXAA,2KXEE,2KXE,2KXO"),
   (0x12C0, "2KXWA"), (0x12C2, "2KXWI,2KXWAA,2KXWEE,2KXWE"),
   (0x12C8, "2WA,2WU,2WI,2WAA,2WEE,2WE,2WO,2WOA,2PHARYNGEAL A,3U,3I,3AA,3EE,3E,3O"),
   (0x12D8, "2ZA,2ZU,2ZI,2ZAA,2ZEE,2ZE,2ZO,2ZWA,2ZHA,2ZHU,2ZHI,2ZHAA,2ZHEE,2ZHE,2ZHO,2ZHWA,2YA,2YU,
     2YI,2YAA,2YEE,2YE,2YO,2YOA,2DA,2DU,2DI,2DAA,2DEE,2DE,2DO,2DWA,2DDA,2DDU,2DDI,2DDAA,2DDEE,2DDE,
     2DDO,2DDWA,2JA,2JU,2JI,2JAA,2JEE,2JE,2JO,2JWA,2GA,2GU,2GI,2GAA,2GEE,2GE,2GO,2GOA,2GWA"),
   (0x1312, "2GWI,2GWAA,2GWEE,2GWE"),
   (0x1318, "2GGA,2GGU,2GGI,2GGAA,2GGEE,2GGE,2GGO,2GGWAA,2THA,2THU,2THI,2THAA,2THEE,2THE,2THO,2THWA,
     2CHA,2CHU,2CHI,2CHAA,2CHEE,2CHE,2CHO,2CHWA,2PHA,2PHU,2PHI,2PHAA,2PHEE,2PHE,2PHO,2PHWA,2TSA,
     2TSU,2TSI,2TSAA,2TSEE,2TSE,2TSO,2TSWA,2TZA,2TZU,2TZI,2TZAA,2TZEE,2TZE,2TZO,2TZOA,2FA,2FU,2FI,
     2FAA,2FEE,2FE,2FO,2FWA,2PA,2PU,2PI,2PAA,2PEE,2PE,2PO,2PWA,2RYA,2MYA,2FYA"),
   (0x135D, "1COMBINING GEMINATIONbVOWEL LENGTH MARK,2VOWEL LENGTH MARK,2GEMINATION MARK,
     1SECTION MARK,1WORDSPACE,1FULL STOP,1COMMA,1SEMICOLON,1COLON,1PREFACE COLON,1QUESTION MARK,
     1PARAGRAPH SEPARATOR,1DIGIT ONE,2TWO,2v,2FOUR,2FIVE,2SIX,2SEVEN,2EIGHT,2NINE,1NUMBER TEN,
     2TWENTY,2THIRTY,2FORTY,2FIFTY,2SIXTY,2SEVENTY,2EIGHTY,2NINETY,2HUNDRED,2TEN THOUSAND"),
   (0x1380, "1SYLLABLE SEBATBEIT MWA,2MWI,2MWEE,2MWE,2SEBATBEIT BWA,2BWI,2BWEE,2BWE,2SEBATBEIT FWA,
     2FWI,2FWEE,2FWE,2SEBATBEIT PWA,2PWI,2PWEE,2PWE,1TONAL MARK YIZET,3DERET,3RIKRIK,3SHORT RIKRIK,
     3DIFAT,3KENAT,3CHIRET,3HIDET,3DERET-HIDET,3KURT"),
   (0x13A0, "0CHEROKEEoA,2E,2I,2O,2U,2V,2GA,2KA,2GE,2GI,2GO,2GU,2GV,2HA,2HE,2HI,2HO,2HU,2HV,2LA,2LE,
     2LI,2LO,2LU,2LV,2MA,2ME,2MI,2MO,2MU,2NA,2HNA,2NAH,2NE,2NI,2NO,2NU,2NV,2QUA,2QUE,2QUI,2QUO,2QUU,
     2QUV,2SA,2S,2SE,2SI,2SO,2SU,2SV,2DA,2TA,2DE,2TE,2DI,2TI,2DO,2DU,2DV,2DLA,2TLA,2TLE,2TLI,2TLO,
     2TLU,2TLV,2TSA,2TSE,2TSI,2TSO,2TSU,2TSV,2WA,2WE,2WI,2WO,2WU,2WV,2YA,2YE,2YI,2YO,2YU,2YV,2MV"),
   (0x13F8, "1soYE,3YI,3YO,3YU,3YV,3MV"),
   (0x1400, "0CANADIAN SYLLABICS HYPHEN,2E,2AAI,2I,2II,2O,2OO,2Y-CREE OO,2CARRIER EE,3I,2A,2AA,2WE,
     2WEST-CREE WE,2WI,2WEST-CREE WI,2WII,2WEST-CREE WII,2WO,2WEST-CREE WO,2WOO,2WEST-CREE WOO,
     2NASKAPI WOO,2WA,2WEST-CREE WA,2WAA,2WEST-CREE WAA,2NASKAPI WAA,2AI,2Y-CREE W,2GLOTTAL STOP,
     2hACUTE,3GRAVE,3BOTTOM HALF RING,3TOP HALF RING,3pHALF RING,3RING,3gACUTE,4SHORTxSTROKES,
     3MIDDLE DOT,3SHORTjt,3PLUS,3DOWN TACK,2EN,2IN,2ON,2AN,2PE,2PAAI,2PI,2PII,2PO,2POO,2Y-CREE POO,
     2CARRIER HEE,3HI,2PA,2PAA,2PWE,2WEST-CREE PWE,2PWI,2WEST-CREE PWI,2PWII,2WEST-CREE PWII,2PWO,
     2WEST-CREE PWO,2PWOO,2WEST-CREE PWOO,2PWA,2WEST-CREE PWA,2PWAA,2WEST-CREE PWAA,2Y-CREE PWAA,2P,
     2WEST-CREE P,2CARRIER H,2TE,2TAAI,2TI,2TII,2TO,2TOO,2Y-CREE TOO,2CARRIER DEE,3DI,2TA,2TAA,2TWE,
     2WEST-CREE TWE,2TWI,2WEST-CREE TWI,2TWII,2WEST-CREE TWII,2TWO,2WEST-CREE TWO,2TWOO,
     2WEST-CREE TWOO,2TWA,2WEST-CREE TWA,2TWAA,2WEST-CREE TWAA,2NASKAPI TWAA,2T,2TTE,2TTI,2TTO,2TTA,
     2KE,2KAAI,2KI,2KII,2KO,2KOO,2Y-CREE KOO,2KA,2KAA,2KWE,2WEST-CREE KWE,2KWI,2WEST-CREE KWI,2KWII,
     2WEST-CREE KWII,2KWO,2WEST-CREE KWO,2KWOO,2WEST-CREE KWOO,2KWA,2WEST-CREE KWA,2KWAA,
     2WEST-CREE KWAA,2NASKAPI KWAA,2K,2KW,2SOUTH-SLAVEY KEH,3KIH,3KOH,3KAH,2CE,2CAAI,2CI,2CII,2CO,
     2COO,2Y-CREE COO,2CA,2CAA,2CWE,2WEST-CREE CWE,2CWI,2WEST-CREE CWI,2CWII,2WEST-CREE CWII,2CWO,
     2WEST-CREE CWO,2CWOO,2WEST-CREE CWOO,2CWA,2WEST-CREE CWA,2CWAA,2WEST-CREE CWAA,2NASKAPI CWAA,
     2C,2SAYISI TH,2ME,2MAAI,2MI,2MII,2MO,2MOO,2Y-CREE MOO,2MA,2MAA,2MWE,2WEST-CREE MWE,2MWI,
     2WEST-CREE MWI,2MWII,2WEST-CREE MWII,2MWO,2WEST-CREE MWO,2MWOO,2WEST-CREE MWOO,2MWA,
     2WEST-CREE MWA,2MWAA,2WEST-CREE MWAA,2NASKAPI MWAA,2M,2WEST-CREE M,2MH,2ATHAPASCAN M,2SAYISI M,
     2NE,2NAAI,2NI,2NII,2NO,2NOO,2Y-CREE NOO,2NA,2NAA,2NWE,2WEST-CREE NWE,2NWA,2WEST-CREE NWA,2NWAA,
     2WEST-CREE NWAA,2NASKAPI NWAA,2N,2CARRIER NG,2NH,2LE,2LAAI,2LI,2LII,2LO,2LOO,2Y-CREE LOO,2LA,
     2LAA,2LWE,2WEST-CREE LWE,2LWI,2WEST-CREE LWI,2LWII,2WEST-CREE LWII,2LWO,2WEST-CREE LWO,2LWOO,
     2WEST-CREE LWOO,2LWA,2WEST-CREE LWA,2LWAA,2WEST-CREE LWAA,2L,2WEST-CREE L,2MEDIAL L,2SE,2SAAI,
     2SI,2SII,2SO,2SOO,2Y-CREE SOO,2SA,2SAA,2SWE,2WEST-CREE SWE,2SWI,2WEST-CREE SWI,2SWII,
     2WEST-CREE SWII,2SWO,2WEST-CREE SWO,2SWOO,2WEST-CREE SWOO,2SWA,2WEST-CREE SWA,2SWAA,
     2WEST-CREE SWAA,2NASKAPI SWAA,2S,2ATHAPASCAN S,2SW,2BLACKFOOT S,2MOOSE-CREE SK,2NASKAPI SKW,
     3S-W,3SPWA,3STWA,3SKWA,3SCWA,2SHE,2SHI,2SHII,2SHO,2SHOO,2SHA,2SHAA,2SHWE,2WEST-CREE SHWE,2SHWI,
     2WEST-CREE SHWI,2SHWII,2WEST-CREE SHWII,2SHWO,2WEST-CREE SHWO,2SHWOO,2WEST-CREE SHWOO,2SHWA,
     2WEST-CREE SHWA,2SHWAA,2WEST-CREE SHWAA,2SH,2YE,2YAAI,2YI,2YII,2YO,2YOO,2Y-CREE YOO,2YA,2YAA,
     2YWE,2WEST-CREE YWE,2YWI,2WEST-CREE YWI,2YWII,2WEST-CREE YWII,2YWO,2WEST-CREE YWO,2YWOO,
     2WEST-CREE YWOO,2YWA,2WEST-CREE YWA,2YWAA,2WEST-CREE YWAA,2NASKAPI YWAA,2Y,2BIBLE-CREE Y,
     2WEST-CREE Y,2SAYISI YI,2RE,2R-CREE RE,2WEST-CREE LE,2RAAI,2RI,2RII,2RO,2ROO,2WEST-CREE LO,2RA,
     2RAA,2WEST-CREE LA,2RWAA,2WEST-CREE RWAA,2R,2WEST-CREE R,2MEDIAL R,2FE,2FAAI,2FI,2FII,2FO,2FOO,
     2FA,2FAA,2FWAA,2WEST-CREE FWAA,2F,2THE,2N-CREE THE,2THI,2N-CREE THI,2THII,2N-CREE THII,2THO,
     2THOO,2THA,2THAA,2THWAA,2WEST-CREE THWAA,2TH,2TTHE,2TTHI,2TTHO,2TTHA,2TTH,2TYE,2TYI,2TYO,2TYA,
     2NUNAVIK HE,3HI,3HII,3HO,3HOO,3HA,3HAA,3H,2NUNAVUT H,2HK,2QAAI,2QI,2QII,2QO,2QOO,2QA,2QAA,2Q,
     2TLHE,2TLHI,2TLHO,2TLHA,2WEST-CREE RE,3RI,3RO,3RA,2NGAAI,2NGI,2NGII,2NGO,2NGOO,2NGA,2NGAA,2NG,
     2NNG,2SAYISI SHE,3SHI,3SHO,3SHA,2WOODS-CREE THE,3THI,3THO,3THA,3TH,2LHI,2LHII,2LHO,2LHOO,2LHA,
     2LHAA,2LH,2TH-CREE THE,3THI,3THII,3THO,3THOO,3THA,3THAA,3TH,2AIVILIK B,2BLACKFOOT E,3I,3O,3A,
     3WE,3WI,3WO,3WA,3NE,3NI,3NO,3NA,3KE,3KI,3KO,3KA,2SAYISI HE,3HI,3HO,3HA,2CARRIER GHU,3GHO,3GHE,
     3GHEE,3GHI,3GHA,3RU,3RO,3RE,3REE,3RI,3RA,3WU,3WO,3WE,3WEE,3WI,3WA,3HWU,3HWO,3HWE,3HWEE,3HWI,
     3HWA,3THU,3THO,3THE,3THEE,3THI,3THA,3TTU,3TTO,3TTE,3TTEE,3TTI,3TTA,3PU,3PO,3PE,3PEE,3PI,3PA,3P,
     3GU,3GO,3GE,3GEE,3GI,3GA,3KHU,3KHO,3KHE,3KHEE,3KHI,3KHA,3KKU,3KKO,3KKE,3KKEE,3KKI,3KKA,3KK,3NU,
     3NO,3NE,3NEE,3NI,3NA,3MU,3MO,3ME,3MEE,3MI,3MA,3YU,3YO,3YE,3YEE,3YI,3YA,3JU,2SAYISI JU,
     2CARRIER JO,3JE,3JEE,3JI,2SAYISI JI,2CARRIER JA,3JJU,3JJO,3JJE,3JJEE,3JJI,3JJA,3LU,3LO,3LE,
     3LEE,3LI,3LA,3DLU,3DLO,3DLE,3DLEE,3DLI,3DLA,3LHU,3LHO,3LHE,3LHEE,3LHI,3LHA,3TLHU,3TLHO,3TLHE,
     3TLHEE,3TLHI,3TLHA,3TLU,3TLO,3TLE,3TLEE,3TLI,3TLA,3ZU,3ZO,3ZE,3ZEE,3ZI,3ZA,3Z,3kZ,3DZU,3DZO,
     3DZE,3DZEE,3DZI,3DZA,3SU,3SO,3SE,3SEE,3SI,3SA,3SHU,3SHO,3SHE,3SHEE,3SHI,3SHA,3SH,3TSU,3TSO,
     3TSE,3TSEE,3TSI,3TSA,3CHU,3CHO,3CHE,3CHEE,3CHI,3CHA,3TTSU,3TTSO,3TTSE,3TTSEE,3TTSI,3TTSA,2CHIr,
     2FULL STOP,2QAI,2NGAI,2NNGI,2NNGII,2NNGO,2NNGOO,2NNGA,2NNGAA,2WOODS-CREE THWEE,3THWI,3THWII,
     3THWO,3THWOO,3THWA,3THWAA,3hTH,2BLACKFOOT W,0OGHAM SPACE MARK,1oBEITH,2LUIS,2FEARN,2SAIL,2NION,
     2UATH,2DAIR,2TINNE,2COLL,2CEIRT,2MUIN,2GORT,2NGEADAL,2STRAIF,2RUIS,2AILM,2ONN,2UR,2EADHADH,
     2IODHADH,2EABHADH,2OR,2UILLEANN,2IFIN,2EAMHANCHOLL,2PEITH,1FEATHER MARK,
     1REVERSED FEATHER MARK"),
   (0x16A0, "0RUNICoFEHU FEOH FE F,2V,2URUZ UR U,2YR,2Y,2W,2THURISAZ THURS THORN,2ETH,2ANSUZ A,
     2OS O,2AC A,2AESC,2LONG-BRANCH-OSS O,2SHORT-TWIG-OSS O,2O,2OE,2ON,2RAIDO RAD REID R,2KAUNA,
     2CEN,2KAUN K,2G,2ENG,2GEBO GYFU G,2GAR,2WUNJO WYNN W,2HAGLAZ H,2HAEGL H,2LONG-BRANCH-HAGALL H,
     2SHORT-TWIG-HAGALL H,2NAUDIZ NYD NAUD N,2SHORT-TWIG-NAUD N,2DOTTED-N,2ISAZ IS ISS I,2E,
     2JERAN J,2GER,2LONG-BRANCH-AR AE,2SHORT-TWIG-AR A,2IWAZ EOH,2PERTHO PEORTH P,2ALGIZ EOLHX,
     2SOWILO S,2SIGEL LONG-BRANCH-SOL S,2SHORT-TWIG-SOL S,2C,2Z,2TIWAZ TIR TYR T,2SHORT-TWIG-TYR T,
     2D,2BERKANAN BEORC BJARKAN B,2SHORT-TWIG-BJARKAN B,2DOTTED-P,2OPEN-P,2EHWAZ EH E,2MANNAZ MAN M,
     2LONG-BRANCH-MADR M,2SHORT-TWIG-MADR M,2LAUKAZ LAGU LOGR L,2DOTTED-L,2INGWAZ,2ING,
     2DAGAZ DAEG D,2OTHALAN ETHEL O,2EAR,2IOR,2CWEORTH,2CALC,2CEALC,2STAN,2LONG-BRANCH-YR,
     2SHORT-TWIG-YR,2ICELANDIC-YR,2Q,2X,1SINGLE PUNCTUATION,1MULTIPLE PUNCTUATION,
     1CROSS PUNCTUATION,1ARLAUGu,1TVIMADURu,1BELGTHORu,1oK,2SH,2OO,2FRANKS CASKET OS,4IS,4EH,4AC,
     4AESC"),
   (0x1700, "0TAGALOGoA,2I,2U,2KA,2GA,2NGA,2TA,2DA,2NA,2PA,2BA,2MA,2YA,2RA,2LA,2WA,2SA,2HA,1VOWELrI,
     3U,1rVIRAMA,2PAMUDPOD"),
   (0x171F, "1oARCHAIC RA,0HANUNOOoA,2I,2U,2KA,2GA,2NGA,2TA,2DA,2NA,2PA,2BA,2MA,2YA,2RA,2LA,2WA,2SA,
     2HA,1VOWELrI,3U,1rPAMUDPOD,0PHILIPPINE SINGLE PUNCTUATION,1gPUNCTUATION"),
   (0x1740, "0BUHIDoA,2I,2U,2KA,2GA,2NGA,2TA,2DA,2NA,2PA,2BA,2MA,2YA,2RA,2LA,2WA,2SA,2HA,1VOWELrI,
     3U"),
   (0x1760, "0TAGBANWAoA,2I,2U,2KA,2GA,2NGA,2TA,2DA,2NA,2PA,2BA,2MA,2YA"), (0x176E, "2LA,2WA,2SA"),
   (0x1772, "1VOWELrI,3U"),
   (0x1780, "0KHMERoKA,2KHA,2KO,2KHO,2NGO,2CA,2CHA,2CO,2CHO,2NYO,2DA,2TTHA,2DO,2TTHO,2NNO,2TA,2THA,
     2TO,2THO,2NO,2BA,2PHA,2PO,2PHO,2MO,2YO,2RO,2LO,2VO,2SHA,2SSO,2SA,2HA,2LA,2QA,
     1INDEPENDENT VOWEL QAQ,3QAA,3QI,3QII,3QU,3QUK,3QUU,3QUUV,3RY,3RYY,3LY,3LYY,3QE,3QAI,
     3QOO TYPE ONE,5TWO,3QAU,1VOWEL INHERENT AQ,3AA,2rAA,3I,3II,3Y,3YY,3U,3UU,3UA,3OE,3YA,3IE,3E,
     3AE,3AI,3OO,3AU,1rNIKAHIT,2REAHMUK,2YUUKALEAPINTU,2MUUSIKATOAN,2TRIISAP,2BANTOC,2ROBAT,
     2TOANDAKHIAT,2KAKABAT,2AHSDA,2SAMYOK SANNYA,2VIRIAM,2COENG,2BATHAMASAT,2KHAN,2BARIYOOSAN,
     2CAMNUC PII KUUH,2LEK TOO,2BEYYAL,2PHNAEK MUAN,2KOOMUUT,1CURRENCYuRIEL,1rAVAKRAHASANYA,
     2ATTHACAN"),
   (0x17E0, "1DIGIT ZERO,2ONE,2TWO,2v,2FOUR,2FIVE,2SIX,2SEVEN,2EIGHT,2NINE"),
   (0x17F0, "1uLEK ATTAK SON,4MUOY,4PII,4BEI,4BUON,4PRAM,4PRAM-MUOY,4PRAM-PII,4PRAM-BEI,
     4PRAM-BUON"),
   (0x1800, "0MONGOLIAN BIRGA,1ELLIPSIS,1COMMA,1FULL STOP,1COLON,1FOUR DOTS,1TODO SOFT HYPHEN,
     1SIBE SYLLABLE BOUNDARY MARKER,1MANCHU COMMA,2FULL STOP,1NIRUGU,1FREE VARIATION SELECTOR ONE,
     4TWO,4v,1VOWEL SEPARATOR,1FREE VARIATION SELECTOR FOUR,1DIGIT ZERO,2ONE,2TWO,2v,2FOUR,2FIVE,
     2SIX,2SEVEN,2EIGHT,2NINE"),
   (0x1820, "1oA,2E,2I,2O,2U,2OE,2UE,2EE,2NA,2ANG,2BA,2PA,2QA,2GA,2MA,2LA,2SA,2SHA,2TA,2DA,2CHA,2JA,
     2YA,2RA,2WA,2FA,2KA,2KHA,2TSA,2ZA,2HAA,2ZRA,2LHA,2ZHI,2CHI,2TODO LONG VOWELr,3E,3I,3O,3U,3OE,
     3UE,3ANG,3BA,3PA,3QA,3GA,3MA,3TA,3DA,3CHA,3JA,3TSA,3YA,3WA,3KA,3GAA,3HAA,3JIA,3NIA,3DZA,
     2SIBE E,3I,3IY,3UE,3U,3ANG,3KA,3GA,3HA,3PA,3SHA,3TA,3DA,3JA,3FA,3GAA,3HAA,3TSA,3ZA,3RAA,3CHA,
     3ZHA,2MANCHU I,3KA,3RA,3FA,3ZHA,2CHAzTWO DOTS"),
   (0x1880, "2ALI GALI ANUSVARA ONE,4VISARGA ONE,4DAMARU,4UBADAMA,4INVERTED UBADAMA,4BALUDA,
     4vBALUDA,4A,4I,4KA,4NGA,4CA,4TTA,4TTHA,4DDA,4NNA,4TA,4DA,4PA,4PHA,4SSA,4ZHA,4ZA,4AH,
     2TODO ALI GALI TA,5ZHA,2MANCHU ALI GALI GHA,5NGA,5CA,5JHA,5TTA,5DDHA,5TA,5DHA,5SSA,5CYA,5ZHA,
     5ZA,2ALI GALI HALF U,5YA,2MANCHU ALI GALI BHA,2ALI GALI DAGALGA,2MANCHU ALI GALI LHA"),
   (0x18B0, "0CANADIAN SYLLABICS OY,2AY,2AAY,2WAY,2POY,2PAY,2PWOY,2TAY,2KAY,2KWAY,2MAY,2NOY,2NAY,
     2LAY,2SOY,2SAY,2SHOY,2SHAY,2SHWOY,2YOY,2YAY,2RAY,2NWI,2OJIBWAY NWI,2NWII,2OJIBWAY NWII,2NWO,
     2OJIBWAY NWO,2NWOO,2OJIBWAY NWOO,2RWEE,2RWI,2RWII,2RWO,2RWOO,2RWA,2OJIBWAY P,3T,3K,3C,3M,3N,3S,
     3SH,2EASTERN W,2WESTERN W,2hsRING,3RAISED DOT,2R-CREE RWE,2WEST-CREE LOO,3LAA,2THWE,2THWA,
     2TTHWE,2TTHOO,2TTHAA,2TLHWE,2TLHOO,2SAYISI SHWE,3SHOO,3HOO,2CARRIER GWU,3DENE GEE,3GAA,3GWA,
     2SAYISI JUU,2CARRIER JWA,2BEAVER DENE L,4R,2CARRIER DENTAL S"),
   (0x1900, "0LIMBU VOWEL-CARRIERo,1oKA,2KHA,2GA,2GHA,2NGA,2CA,2CHA,2JA,2JHA,2YAN,2TA,2THA,2DA,2DHA,
     2NA,2PA,2PHA,2BA,2BHA,2MA,2YA,2RA,2LA,2WA,2SHA,2SSA,2SA,2HA,2GYAN,2TRA"),
   (0x1920, "1VOWELrA,3I,3U,3EE,3AI,3OO,3AU,3E,3O,1SUBJOINEDoYA,3RA,3WA"),
   (0x1930, "1soKA,3NGA,3ANUSVARA,3TA,3NA,3PA,3MA,3RA,3LA,1rMUKPHRENG,2KEMPHRENG,2SA-I"),
   (0x1940, "2LOO"),
   (0x1944, "1EXCLAMATION MARK,1QUESTION MARK,1DIGIT ZERO,2ONE,2TWO,2v,2FOUR,2FIVE,2SIX,2SEVEN,
     2EIGHT,2NINE,0TAI LEoKA,3XA,3NGA,3TSA,3SA,3YA,3TA,3THA,3LA,3PA,3PHA,3MA,3FA,3VA,3HA,3QA,3KHA,
     3TSHA,3NA,3A,3I,3EE,3EH,3U,3OO,3O,3UE,3E,3AUE,3AI"),
   (0x1970, "3TONE-2,3TONE-3,3TONE-4,3TONE-5,3TONE-6"),
   (0x1980, "0NEW TAI LUEoHIGH QA,4LOW QA,4HIGH KA,5XA,5NGA,4LOW KA,5XA,5NGA,4HIGH TSA,5SA,5YA,
     4LOW TSA,5SA,5YA,4HIGH TA,5THA,5NA,4LOW TA,5THA,5NA,4HIGH PA,5PHA,5MA,4LOW PA,5PHA,5MA,
     4HIGH FA,5VA,5LA,4LOW FA,5VA,5LA,4HIGH HA,5DA,5BA,4LOW HA,5DA,5BA,4HIGH KVA,5XVA,4LOW KVA,5XVA,
     4HIGH SUA,4LOW SUA"),
   (0x19B0, "3VOWELrVOWEL SHORTENER,5AA,5II,5U,5UU,5E,5AE,5O,5OA,5UE,5AY,5AAY,5UY,5OY,5OAY,5UEY,5IY,
     3ohV,5NG,5N,5M,5K,5D,5B,3TONE MARK-1,4MARK-2"),
   (0x19D0, "3DIGIT ZERO,4ONE,4TWO,4v,4FOUR,4FIVE,4SIX,4SEVEN,4EIGHT,4NINE,3THAM DIGIT ONE"),
   (0x19DE, "3rLAE,4LAEV,0KHMERuPATHAMASAT,2MUOY KOET,2PII KOET,2BEI KOET,2BUON KOET,2PRAM KOET,
     2PRAM-MUOY KOET,2PRAM-PII KOET,2PRAM-BEI KOET,2PRAM-BUON KOET,2DAP KOET,2DAP-MUOY KOET,
     2DAP-PII KOET,2DAP-BEI KOET,2DAP-BUON KOET,2DAP-PRAM KOET,2TUTEYASAT,2MUOY ROC,2PII ROC,
     2BEI ROC,2BUON ROC,2PRAM ROC,2PRAM-MUOY ROC,2PRAM-PII ROC,2PRAM-BEI ROC,2PRAM-BUON ROC,
     2DAP ROC,2DAP-MUOY ROC,2DAP-PII ROC,2DAP-BEI ROC,2DAP-BUON ROC,2DAP-PRAM ROC,0BUGINESEoKA,2GA,
     2NGA,2NGKA,2PA,2BA,2MA,2MPA,2TA,2DA,2NA,2NRA,2CA,2JA,2NYA,2NYCA,2YA,2RA,2LA,2VA,2SA,2A,2HA,
     1VOWELrI,3U,3E,3O,3AE"),
   (0x1A1E, "1PALLAWA,1END OF SECTION,0TAI THAMoHIGH KA,4KHA,4KXA,3LOW KA,4KXA,4KHA,3NGA,3HIGH CA,
     4CHA,3LOW CA,4SA,4CHA,3NYA,3RATA,3HIGH RATHA,3DA,3LOW RATHA,3RANA,3HIGH TA,4THA,3LOW TA,4THA,
     3NA,3BA,3HIGH PA,4PHA,4FA,3LOW PA,4FA,4PHA,3MA,3LOW YA,3HIGH YA,3RA,3RUE,3LA,3LUE,3WA,
     3HIGH SHA,4SSA,4SA,4HA,3LLA,3A,3LOW HA,3I,3II,3U,3UU,3EE,3OO,3LAE,3GREAT SA,
     2CONSONANTrMEDIAL RA,5LA,4LA TANG LAI,2rMAI KANG LAI,2CONSONANTrhNGA,4LOW PA,
     4HIGH RATHA OR LOW PA,4MA,4BA,4SA"),
   (0x1A60, "2rSAKOT,2VOWELrA,4MAI SAT,4AA,4TALL AA,4I,4II,4UE,4UUE,4U,4UU,4O,4OAd,4OY,4E,4AE,4OO,
     4AI,4THAM AI,4OAa,2rMAI KANG,3TONE-1,3TONE-2,3KHUEN TONE-3,4TONE-4,4TONE-5,3RA HAAM,3MAI SAM,
     3KHUEN-LUE KARAN"),
   (0x1A7F, "2COMBINING CRYPTOGRAMMIC DOT,2HORA DIGIT ZERO,4ONE,4TWO,4v,4FOUR,4FIVE,4SIX,4SEVEN,
     4EIGHT,4NINE"),
   (0x1A90, "2THAM DIGIT ZERO,4ONE,4TWO,4v,4FOUR,4FIVE,4SIX,4SEVEN,4EIGHT,4NINE"),
   (0x1AA0, "2rWIANG,3WIANGWAAK,3SAWAN,3KEOW,3HOY,3DOKMAI,3REVERSED ROTATED RANA,3MAI YAMOK,3KAAN,
     3KAANKUU,3SATKAAN,3SATKAANKUU,3HANG,3CAANG"),
   (0x1AB0, "0COMBINING DOUBLED CIRCUMFLEX ACCENT,1DIAERESIS-RING,1INFINITY,1DOWNWARDSc,1TRIPLE DOT,
     1X-Xd,1WIGGLY LINEd,1OPEN MARKd,1gOPEN MARKd,1LIGHT CENTRALIZATIONtd,1STRONG CENTRALIZATIONtd,
     1PARENTHESESa,1gPARENTHESESa,1PARENTHESESd,2OVERLAY,1LATINsoWd,4TURNED Wd,1mPARENTHESISam,
     1pPARENTHESISap,1mPARENTHESISdm,1pPARENTHESISdp,1SQUARE BRACKETSa,1NUMBERra,1INVERTEDgARCHa,
     1PLUSra,1gPLUSra,4d,1TRIPLE ACUTE ACCENT,1LATINsoINSULAR G,5R,5T"),
   (0x1B00, "0BALINESErULU RICEM,3CANDRA,2CECEK,2SURANG,2BISAH,1oAKARA,3TEDUNG,2IKARA,3TEDUNG,
     2UKARA,3TEDUNG,2RA REPA,4TEDUNG,2LA LENGA,4TEDUNG,2EKARA,2AIKARA,2OKARA,3TEDUNG,2KA,3MAHAPRANA,
     2GA,3GORA,2NGA,2CA,3LACA,2JA,3JERA,2NYA,2TA LATIK,3MURDA MAHAPRANA,2DA MURDA ALPAPRANA,
     4MAHAPRANA,2NA RAMBAT,2TA,3TAWA,2DA,3MADU,2NA,2PA,3KAPAL,2BA,3KEMBANG,2MA,2YA,2RA,2LA,2WA,
     2SA SAGA,3SAPA,3,2HA,1rREREKAN,1VOWELrTEDUNG,3ULU,4SARI,3SUKU,4ILUT,3RA REPA,5TEDUNG,3LA LENGA,
     5TEDUNG,3TALING,4REPA,4TEDUNG,4REPA TEDUNG,3PEPET,4TEDUNG,1ADEG ADEG,1oKAF SASAK,2KHOT SASAK,
     2TZIR SASAK,2EF SASAK,2VE SASAK,2ZAL SASAK,2ASYURA SASAK,2ARCHAIC JNYA"),
   (0x1B50, "1DIGIT ZERO,2ONE,2TWO,2v,2FOUR,2FIVE,2SIX,2SEVEN,2EIGHT,2NINE,1PANTI,1PAMADA,1WINDU,
     1CARIK PAMUNGKAH,2SIKI,2PAREREN,1PAMENENG,1MUSICALuDONG,3DENG,3DUNG,3DANG,4SURANG,3DING,3DAENG,
     3DEUNG,3DAING,3DANG GEDE,3COMBINING TEGEH,4ENDEP,4KEMPUL,4KEMPLI,4JEGOGAN,4KEMPULzJEGOGAN,
     4KEMPLIzJEGOGAN,4BENDE,4GONG,3RIGHT-HAND OPEN DUG,5DAG,4CLOSED TUK,5TAK,3LEFT-HAND OPEN PANG,
     5PUNG,4CLOSED PLAK,5PLUK,4OPEN PING,1PANTI LANTANG,1PAMADA LANTANG"),
   (0x1B80, "0SUNDANESErPANYECEK,2PANGLAYAR,2PANGWISAD,1oA,2I,2U,2AE,2O,2E,2EU,2KA,2QA,2GA,2NGA,2CA,
     2JA,2ZA,2NYA,2TA,2DA,2NA,2PA,2FA,2VA,2BA,2MA,2YA,2RA,2LA,2WA,2SA,2XA,2HA,1CONSONANTrPAMINGKAL,
     3PANYAKRA,3PANYIKU,1VOWELrPANGHULU,3PANYUKU,3PANAELAENG,3PANOLONG,3PAMEPET,3PANEULEUNG,
     1rPAMAAEH,2VIRAMA,1CONSONANTrPASANGAN MA,4WA,1oKHA,2SYA,1DIGIT ZERO,2ONE,2TWO,2v,2FOUR,2FIVE,
     2SIX,2SEVEN,2EIGHT,2NINE,1AVAGRAHA,1oREU,2LEU,2BHA,2hK,3M,0BATAKoA,2SIMALUNGUN A,2HA,
     2SIMALUNGUN HA,2MANDAILING HA,2BA,2KARO BA,2PA,2SIMALUNGUN PA,2NA,2MANDAILING NA,2WA,
     2SIMALUNGUN WA,2PAKPAK WA,2GA,2SIMALUNGUN GA,2JA,2DA,2RA,2SIMALUNGUN RA,2MA,2SIMALUNGUN MA,
     2SOUTHERN TA,2NORTHERN TA,2SA,2SIMALUNGUN SA,2MANDAILING SA,2YA,2SIMALUNGUN YA,2NGA,2LA,
     2SIMALUNGUN LA,2NYA,2CA,2NDA,2MBA,2I,2U,1rTOMPI,1VOWELrE,3PAKPAK E,3EE,3I,3KARO I,3O,3KARO O,
     3U,4FOR SIMALUNGUN SA,1CONSONANTrNG,3H,1PANGOLAT,1PANONGONAN"),
   (0x1BFC, "1uBINDU NA METEK,3PINARBORAS,3JUDUL,3PANGOLAT,0LEPCHAoKA,2KLA,2KHA,2GA,2GLA,2NGA,2CA,
     2CHA,2JA,2NYA,2TA,2THA,2DA,2NA,2PA,2PLA,2PHA,2FA,2FLA,2BA,2BLA,2MA,2MLA,2TSA,2TSHA,2DZA,2YA,
     2RA,2LA,2HA,2HLA,2VA,2SA,2SHA,2WA,2A,1SUBJOINEDoYA,3RA,1VOWELrAA,3I,3O,3OO,3U,3UU,3E,
     1CONSONANTrK,3M,3L,3N,3P,3R,3T,3NYIN-DO,3KANG,1rRAN,2NUKTA"),
   (0x1C3B, "1PUNCTUATION TA-ROL,2NYET THYOOM TA-ROL,2CER-WA,2TSHOOK CER-WA,3,1DIGIT ZERO,2ONE,2TWO,
     2v,2FOUR,2FIVE,2SIX,2SEVEN,2EIGHT,2NINE"),
   (0x1C4D, "1oTTA,2TTHA,2DDA,0OL CHIKI DIGIT ZERO,3ONE,3TWO,3v,3FOUR,3FIVE,3SIX,3SEVEN,3EIGHT,
     3NINE,2oLA,3AT,3AG,3ANG,3AL,3LAA,3AAK,3AAJ,3AAM,3AAW,3LI,3IS,3IH,3INY,3IR,3LU,3UC,3UD,3UNN,3UY,
     3LE,3EP,3EDD,3EN,3ERR,3LO,3OTT,3OB,3OV,3OH,2MU TTUDDAG,2GAAHLAA TTUDDAAG,2MU-GAAHLAA TTUDDAAG,
     2RELAA,2PHAARKAA,2AHAD,2PUNCTUATION MUCAAD,3gMUCAAD,0CYRILLICsoROUNDED VE,3LONG-LEGGED DE,
     3NARROW O,3WIDE ES,3TALL TE,3THREE-LEGGED TE,3TALL HARDr,4YAT,3UNBLENDED UK"),
   (0x1C90, "0GEORGIAN MTAVRULIfoAN,4BAN,4GAN,4DON,4EN,4VIN,4ZEN,4TAN,4IN,4KAN,4LAS,4MAN,4NAR,4ON,
     4PAR,4ZHAR,4RAE,4SAN,4TAR,4UN,4PHAR,4KHAR,4GHAN,4QAR,4SHIN,4CHIN,4CAN,4JIL,4CIL,4CHAR,4XAN,
     4JHAN,4HAE,4HE,4HIE,4WE,4HAR,4HOE,4FI,4YN,4ELIFI,4TURNED GAN,4AIN"),
   (0x1CBD, "4AEN,4HARDr,4LABIALr,0SUNDANESE PUNCTUATION BINDU SURYA,3PANGLONG,3PURNAMA,3CAKRA,
     3LEU SATANGA,3KA SATANGA,3DA SATANGA,3BA SATANGA"),
   (0x1CD0, "0VEDIC TONE KARSHANA,2SHARA,2PRENKHA,1rNIHSHVASA,2YAJURVEDIC MIDLINE SVARITA,
     1TONE YAJURVEDIC AGGRAVATED INDEPENDENT SVARITA,3INDEPENDENT SVARITA,
     3KATHAKA INDEPENDENT SVARITA,2CANDRAd,2YAJURVEDIC KATHAKA INDEPENDENT SVARITA SCHROEDER,
     2gSVARITA,2TRIPLE SVARITA,2KATHAKA ANUDATTA,2DOTd,2TWO DOTSd,2vDOTSd,
     2RIGVEDIC KASHMIRI INDEPENDENT SVARITA,2ATHARVAVEDIC INDEPENDENT SVARITA,1rVISARGA SVARITA,
     3UDATTA,2REVERSED VISARGA UDATTA,2VISARGA ANUDATTA,2REVERSED VISARGA ANUDATTA,
     2VISARGA UDATTAzTAIL,3ANUDATTAzTAIL,2ANUSVARA ANTARGOMUKHA,3BAHIRGOMUKHA,3VAMAGOMUKHA,4zTAIL,
     2TIRYAK,2HEXIFORM LONG ANUSVARA,2LONG ANUSVARA,2RTHANG LONG ANUSVARA,2ANUSVARA UBHAYATO MUKHA,
     2ARDHAVISARGA,2ROTATED ARDHAVISARGA,1TONE CANDRAa,1rJIHVAMULIYA,2UPADHMANIYA,2ATIKRAMA,
     1TONE RINGa,2gRINGa,1rgANUSVARA ANTARGOMUKHA"),
   (0x1D00, "0LATINosfA,4AE,1soTURNED AE,1osfBARRED B,4C,4D,4ETH,4E,1soTURNED OPEN E,4I,1osfJ,4K,
     4Lzt,4M,4REVERSED N,4O,4OPEN O,1soSIDEWAYS O,4OPEN O,4Ozt,3TURNED OE,1osfOU,1soTOP HALF O,
     3BOTTOM HALF O,1osfP,4REVERSED R,4TURNED R,4T,4U,1soSIDEWAYS U,4DIAERESIZED U,4TURNED M,1osfV,
     4W,4Z,4EZH,2VOICED LARYNGEAL SPIRANT,2AIN,0GREEKosfGAMMA,4LAMDA,4PI,4RHO,4PSI,0CYRILLICosfEL,
     0MODIFIERofA,3AE,3B,3BARRED B,3D,3E,3REVERSED E,3G,3H,3I,3J,3K,3L,3M,3N,3REVERSED N,3O,3OU,3P,
     3R,3T,3U,3W,2sA,3TURNED A,3ALPHA,3TURNED AE,3B,3D,3E,3SCHWA,3OPEN E,3TURNED OPEN E,3G,
     3TURNED I,3K,3M,3ENG,3O,3OPEN O,3TOP HALF O,3BOTTOM HALF O,3P,3T,3U,3SIDEWAYS U,3TURNED M,3V,
     3AIN,3BETA,3GREEK GAMMA,3DELTA,3GREEK PHI,3CHI,0LATIN SUBSCRIPTsoI,4R,4U,4V,
     0GREEK SUBSCRIPTsoBETA,4GAMMA,4RHO,4PHI,4CHI,0LATINsoUE,3BzMIDDLE TILDE,3DzMIDDLE TILDE,
     3FzMIDDLE TILDE,3MzMIDDLE TILDE,3NzMIDDLE TILDE,3PzMIDDLE TILDE,3RzMIDDLE TILDE,
     5FISHHOOKbMIDDLE TILDE,3SzMIDDLE TILDE,3TzMIDDLE TILDE,3ZzMIDDLE TILDE,3TURNED G,
     0MODIFIERoCYRILLIC EN,0LATINsoINSULAR G,3THzSTRIKETHROUGH,2foIzt,2oIOTAzt,3Pzt,2foUzt,
     2oUPSILONzt,3BzPALATAL HOOK,3DzPALATAL HOOK,3FzPALATAL HOOK,3GzPALATAL HOOK,3KzPALATAL HOOK,
     3LzPALATAL HOOK,3MzPALATAL HOOK,3NzPALATAL HOOK,3PzPALATAL HOOK,3RzPALATAL HOOK,
     3SzPALATAL HOOK,3ESHzPALATAL HOOK,3VzPALATAL HOOK,3XzPALATAL HOOK,3ZzPALATAL HOOK,
     3AzRETROFLEX HOOK,3ALPHAzRETROFLEX HOOK,3DzHOOKbTAIL,3EzRETROFLEX HOOK,3OPEN EzRETROFLEX HOOK,
     3REVERSED OPEN EzRETROFLEX HOOK,3SCHWAzRETROFLEX HOOK,3IzRETROFLEX HOOK,3OPEN OzRETROFLEX HOOK,
     3ESHzRETROFLEX HOOK,3UzRETROFLEX HOOK,3EZHzRETROFLEX HOOK,0MODIFIERosTURNED ALPHA,3C,4zCURL,
     3ETH,3REVERSED OPEN E,3F,3DOTLESS Jzt,3SCRIPT G,3TURNED H,3Izt,3IOTA,3fI,5zt,3JzCROSSED-TAIL,
     3LzRETROFLEX HOOK,5PALATAL HOOK,3fL,3MzHOOK,3TURNED MzLONG LEG,3NzmHOOK,5RETROFLEX HOOK,3fN,
     3BARRED O,3PHI,3SzHOOK,3ESH,3TzPALATAL HOOK,3U BAR,3UPSILON,3fU,3VzHOOK,3TURNED V,3Z,
     4zRETROFLEX HOOK,5CURL,3EZH,3THETA,0COMBINING DOTTED GRAVE ACCENT,2ACUTE ACCENT,1SNAKEd,
     1SUSPENSION MARK,1MACRON-ACUTE,1GRAVE-MACRON,1MACRON-GRAVE,1ACUTE-MACRON,1GRAVE-ACUTE-GRAVE,
     1ACUTE-GRAVE-ACUTE,1LATINsoRd,1BREVE-MACRON,1MACRON-BREVE,1gCIRCUMFLEXa,1OGONEKa,1ZIGZAGd,1ISd,
     1URa,1USa,1LATINsoFLATTENED OPEN Aa,4AE,4AO,4AV,4C CEDILLA,4INSULAR D,4ETH,4G,2osfG,2soK,4L,
     2osfL,5M,2soN,2osfN,5R,2soR ROTUNDA,4S,4LONG S,4Z,4ALPHA,4B,4BETA,4SCHWA,4F,4LzgMIDDLE TILDE,
     4OzLIGHT CENTRALIZATIONt,4P,4ESH,4UzLIGHT CENTRALIZATIONt,4W,4AzDIAERESIS,4OzDIAERESIS,
     4UzDIAERESIS,1UP TACKa,1KAVYKAap,3m,1DOTam,1WIDE INVERTED BRIDGEd,1DOTdm,1DELETION MARK,
     1gINVERTED BREVEd,1ALMOST EQUAL TOd,1mARROWHEADa,1pARROWHEADbDOWN ARROWHEADd,0LATINfoAzRINGd,
     1soAzRINGd,1foBzDOTa,1soBzDOTa,1foBzDOTd,1soBzDOTd,1foBzLINEd,1soBzLINEd,1foCzCEDILLAbACUTE,
     1soCzCEDILLAbACUTE,1foDzDOTa,1soDzDOTa,1foDzDOTd,1soDzDOTd,1foDzLINEd,1soDzLINEd,1foDzCEDILLA,
     1soDzCEDILLA,1foDzCIRCUMFLEXd,1soDzCIRCUMFLEXd,1foEzMACRONbGRAVE,1soEzMACRONbGRAVE,
     1foEzMACRONbACUTE,1soEzMACRONbACUTE,1foEzCIRCUMFLEXd,1soEzCIRCUMFLEXd,1foEzTILDEd,1soEzTILDEd,
     1foEzCEDILLAbBREVE,1soEzCEDILLAbBREVE,1foFzDOTa,1soFzDOTa,1foGzMACRON,1soGzMACRON,1foHzDOTa,
     1soHzDOTa,1foHzDOTd,1soHzDOTd,1foHzDIAERESIS,1soHzDIAERESIS,1foHzCEDILLA,1soHzCEDILLA,
     1foHzBREVEd,1soHzBREVEd,1foIzTILDEd,1soIzTILDEd,1foIzDIAERESISbACUTE,1soIzDIAERESISbACUTE,
     1foKzACUTE,1soKzACUTE,1foKzDOTd,1soKzDOTd,1foKzLINEd,1soKzLINEd,1foLzDOTd,1soLzDOTd,
     1foLzDOTdbMACRON,1soLzDOTdbMACRON,1foLzLINEd,1soLzLINEd,1foLzCIRCUMFLEXd,1soLzCIRCUMFLEXd,
     1foMzACUTE,1soMzACUTE,1foMzDOTa,1soMzDOTa,1foMzDOTd,1soMzDOTd,1foNzDOTa,1soNzDOTa,1foNzDOTd,
     1soNzDOTd,1foNzLINEd,1soNzLINEd,1foNzCIRCUMFLEXd,1soNzCIRCUMFLEXd,1foOzTILDEbACUTE,
     1soOzTILDEbACUTE,1foOzTILDEbDIAERESIS,1soOzTILDEbDIAERESIS,1foOzMACRONbGRAVE,1soOzMACRONbGRAVE,
     1foOzMACRONbACUTE,1soOzMACRONbACUTE,1foPzACUTE,1soPzACUTE,1foPzDOTa,1soPzDOTa,1foRzDOTa,
     1soRzDOTa,1foRzDOTd,1soRzDOTd,1foRzDOTdbMACRON,1soRzDOTdbMACRON,1foRzLINEd,1soRzLINEd,
     1foSzDOTa,1soSzDOTa,1foSzDOTd,1soSzDOTd,1foSzACUTEbDOTa,1soSzACUTEbDOTa,1foSzCARONbDOTa,
     1soSzCARONbDOTa,1foSzDOTdbDOTa,1soSzDOTdbDOTa,1foTzDOTa,1soTzDOTa,1foTzDOTd,1soTzDOTd,
     1foTzLINEd,1soTzLINEd,1foTzCIRCUMFLEXd,1soTzCIRCUMFLEXd,1foUzDIAERESISd,1soUzDIAERESISd,
     1foUzTILDEd,1soUzTILDEd,1foUzCIRCUMFLEXd,1soUzCIRCUMFLEXd,1foUzTILDEbACUTE,1soUzTILDEbACUTE,
     1foUzMACRONbDIAERESIS,1soUzMACRONbDIAERESIS,1foVzTILDE,1soVzTILDE,1foVzDOTd,1soVzDOTd,
     1foWzGRAVE,1soWzGRAVE,1foWzACUTE,1soWzACUTE,1foWzDIAERESIS,1soWzDIAERESIS,1foWzDOTa,1soWzDOTa,
     1foWzDOTd,1soWzDOTd,1foXzDOTa,1soXzDOTa,1foXzDIAERESIS,1soXzDIAERESIS,1foYzDOTa,1soYzDOTa,
     1foZzCIRCUMFLEX,1soZzCIRCUMFLEX,1foZzDOTd,1soZzDOTd,1foZzLINEd,1soZzLINEd,3HzLINEd,
     3TzDIAERESIS,3WzRINGa,3YzRINGa,3AzpHALF RING,3LONG SzDOTa,6DIAGONALt,6HIGHt,1foSHARP S,
     1soDELTA,1foAzDOTd,1soAzDOTd,1foAzHOOKa,1soAzHOOKa,1foAzCIRCUMFLEXbACUTE,1soAzCIRCUMFLEXbACUTE,
     1foAzCIRCUMFLEXbGRAVE,1soAzCIRCUMFLEXbGRAVE,1foAzCIRCUMFLEXbHOOKa,1soAzCIRCUMFLEXbHOOKa,
     1foAzCIRCUMFLEXbTILDE,1soAzCIRCUMFLEXbTILDE,1foAzCIRCUMFLEXbDOTd,1soAzCIRCUMFLEXbDOTd,
     1foAzBREVEbACUTE,1soAzBREVEbACUTE,1foAzBREVEbGRAVE,1soAzBREVEbGRAVE,1foAzBREVEbHOOKa,
     1soAzBREVEbHOOKa,1foAzBREVEbTILDE,1soAzBREVEbTILDE,1foAzBREVEbDOTd,1soAzBREVEbDOTd,1foEzDOTd,
     1soEzDOTd,1foEzHOOKa,1soEzHOOKa,1foEzTILDE,1soEzTILDE,1foEzCIRCUMFLEXbACUTE,
     1soEzCIRCUMFLEXbACUTE,1foEzCIRCUMFLEXbGRAVE,1soEzCIRCUMFLEXbGRAVE,1foEzCIRCUMFLEXbHOOKa,
     1soEzCIRCUMFLEXbHOOKa,1foEzCIRCUMFLEXbTILDE,1soEzCIRCUMFLEXbTILDE,1foEzCIRCUMFLEXbDOTd,
     1soEzCIRCUMFLEXbDOTd,1foIzHOOKa,1soIzHOOKa,1foIzDOTd,1soIzDOTd,1foOzDOTd,1soOzDOTd,1foOzHOOKa,
     1soOzHOOKa,1foOzCIRCUMFLEXbACUTE,1soOzCIRCUMFLEXbACUTE,1foOzCIRCUMFLEXbGRAVE,
     1soOzCIRCUMFLEXbGRAVE,1foOzCIRCUMFLEXbHOOKa,1soOzCIRCUMFLEXbHOOKa,1foOzCIRCUMFLEXbTILDE,
     1soOzCIRCUMFLEXbTILDE,1foOzCIRCUMFLEXbDOTd,1soOzCIRCUMFLEXbDOTd,1foOzHORNbACUTE,
     1soOzHORNbACUTE,1foOzHORNbGRAVE,1soOzHORNbGRAVE,1foOzHORNbHOOKa,1soOzHORNbHOOKa,
     1foOzHORNbTILDE,1soOzHORNbTILDE,1foOzHORNbDOTd,1soOzHORNbDOTd,1foUzDOTd,1soUzDOTd,1foUzHOOKa,
     1soUzHOOKa,1foUzHORNbACUTE,1soUzHORNbACUTE,1foUzHORNbGRAVE,1soUzHORNbGRAVE,1foUzHORNbHOOKa,
     1soUzHORNbHOOKa,1foUzHORNbTILDE,1soUzHORNbTILDE,1foUzHORNbDOTd,1soUzHORNbDOTd,1foYzGRAVE,
     1soYzGRAVE,1foYzDOTd,1soYzDOTd,1foYzHOOKa,1soYzHOOKa,1foYzTILDE,1soYzTILDE,1foMIDDLE-WELSH LL,
     1soMIDDLE-WELSH LL,1foMIDDLE-WELSH V,1soMIDDLE-WELSH V,1foYzLOOP,1soYzLOOP,0GREEKsoALPHAzPSILI,
     5DASIA,5PSILIbVARIA,5DASIAbVARIA,5PSILIbOXIA,5DASIAbOXIA,5PSILIbPERISPOMENI,5DASIAbPERISPOMENI,
     1foALPHAzPSILI,5DASIA,5PSILIbVARIA,5DASIAbVARIA,5PSILIbOXIA,5DASIAbOXIA,5PSILIbPERISPOMENI,
     5DASIAbPERISPOMENI,1soEPSILONzPSILI,5DASIA,5PSILIbVARIA,5DASIAbVARIA,5PSILIbOXIA,5DASIAbOXIA"),
   (0x1F18, "1foEPSILONzPSILI,5DASIA,5PSILIbVARIA,5DASIAbVARIA,5PSILIbOXIA,5DASIAbOXIA"),
   (0x1F20, "1soETAzPSILI,5DASIA,5PSILIbVARIA,5DASIAbVARIA,5PSILIbOXIA,5DASIAbOXIA,
     5PSILIbPERISPOMENI,5DASIAbPERISPOMENI,1foETAzPSILI,5DASIA,5PSILIbVARIA,5DASIAbVARIA,
     5PSILIbOXIA,5DASIAbOXIA,5PSILIbPERISPOMENI,5DASIAbPERISPOMENI,1soIOTAzPSILI,5DASIA,
     5PSILIbVARIA,5DASIAbVARIA,5PSILIbOXIA,5DASIAbOXIA,5PSILIbPERISPOMENI,5DASIAbPERISPOMENI,
     1foIOTAzPSILI,5DASIA,5PSILIbVARIA,5DASIAbVARIA,5PSILIbOXIA,5DASIAbOXIA,5PSILIbPERISPOMENI,
     5DASIAbPERISPOMENI,1soOMICRONzPSILI,5DASIA,5PSILIbVARIA,5DASIAbVARIA,5PSILIbOXIA,5DASIAbOXIA"),
   (0x1F48, "1foOMICRONzPSILI,5DASIA,5PSILIbVARIA,5DASIAbVARIA,5PSILIbOXIA,5DASIAbOXIA"),
   (0x1F50, "1soUPSILONzPSILI,5DASIA,5PSILIbVARIA,5DASIAbVARIA,5PSILIbOXIA,5DASIAbOXIA,
     5PSILIbPERISPOMENI,5DASIAbPERISPOMENI"),
   (0x1F59, "1foUPSILONzDASIA"), (0x1F5B, "6bVARIA"), (0x1F5D, "7OXIA"),
   (0x1F5F, "7PERISPOMENI,1soOMEGAzPSILI,5DASIA,5PSILIbVARIA,5DASIAbVARIA,5PSILIbOXIA,5DASIAbOXIA,
     5PSILIbPERISPOMENI,5DASIAbPERISPOMENI,1foOMEGAzPSILI,5DASIA,5PSILIbVARIA,5DASIAbVARIA,
     5PSILIbOXIA,5DASIAbOXIA,5PSILIbPERISPOMENI,5DASIAbPERISPOMENI,1soALPHAzVARIA,5OXIA,
     3EPSILONzVARIA,5OXIA,3ETAzVARIA,5OXIA,3IOTAzVARIA,5OXIA,3OMICRONzVARIA,5OXIA,3UPSILONzVARIA,
     5OXIA,3OMEGAzVARIA,5OXIA"),
   (0x1F80, "3ALPHAzPSILIbYPOGEGRAMMENI,5DASIAbYPOGEGRAMMENI,5PSILIbVARIAbYPOGEGRAMMENI,
     5DASIAbVARIAbYPOGEGRAMMENI,5PSILIbOXIAbYPOGEGRAMMENI,5DASIAbOXIAbYPOGEGRAMMENI,
     5PSILIbPERISPOMENIbYPOGEGRAMMENI,5DASIAbPERISPOMENIbYPOGEGRAMMENI,
     1foALPHAzPSILIbPROSGEGRAMMENI,5DASIAbPROSGEGRAMMENI,5PSILIbVARIAbPROSGEGRAMMENI,
     5DASIAbVARIAbPROSGEGRAMMENI,5PSILIbOXIAbPROSGEGRAMMENI,5DASIAbOXIAbPROSGEGRAMMENI,
     5PSILIbPERISPOMENIbPROSGEGRAMMENI,5DASIAbPERISPOMENIbPROSGEGRAMMENI,1soETAzPSILIbYPOGEGRAMMENI,
     5DASIAbYPOGEGRAMMENI,5PSILIbVARIAbYPOGEGRAMMENI,5DASIAbVARIAbYPOGEGRAMMENI,
     5PSILIbOXIAbYPOGEGRAMMENI,5DASIAbOXIAbYPOGEGRAMMENI,5PSILIbPERISPOMENIbYPOGEGRAMMENI,
     5DASIAbPERISPOMENIbYPOGEGRAMMENI,1foETAzPSILIbPROSGEGRAMMENI,5DASIAbPROSGEGRAMMENI,
     5PSILIbVARIAbPROSGEGRAMMENI,5DASIAbVARIAbPROSGEGRAMMENI,5PSILIbOXIAbPROSGEGRAMMENI,
     5DASIAbOXIAbPROSGEGRAMMENI,5PSILIbPERISPOMENIbPROSGEGRAMMENI,5DASIAbPERISPOMENIbPROSGEGRAMMENI,
     1soOMEGAzPSILIbYPOGEGRAMMENI,5DASIAbYPOGEGRAMMENI,5PSILIbVARIAbYPOGEGRAMMENI,
     5DASIAbVARIAbYPOGEGRAMMENI,5PSILIbOXIAbYPOGEGRAMMENI,5DASIAbOXIAbYPOGEGRAMMENI,
     5PSILIbPERISPOMENIbYPOGEGRAMMENI,5DASIAbPERISPOMENIbYPOGEGRAMMENI,
     1foOMEGAzPSILIbPROSGEGRAMMENI,5DASIAbPROSGEGRAMMENI,5PSILIbVARIAbPROSGEGRAMMENI,
     5DASIAbVARIAbPROSGEGRAMMENI,5PSILIbOXIAbPROSGEGRAMMENI,5DASIAbOXIAbPROSGEGRAMMENI,
     5PSILIbPERISPOMENIbPROSGEGRAMMENI,5DASIAbPERISPOMENIbPROSGEGRAMMENI,1soALPHAzVRACHY,5MACRON,
     5VARIAbYPOGEGRAMMENI,5YPOGEGRAMMENI,5OXIAbYPOGEGRAMMENI"),
   (0x1FB6, "5PERISPOMENI,6bYPOGEGRAMMENI,1foALPHAzVRACHY,5MACRON,5VARIA,5OXIA,5PROSGEGRAMMENI,
     1KORONIS,1PROSGEGRAMMENI,1PSILI,1PERISPOMENI,1DIALYTIKAbPERISPOMENI,1soETAzVARIAbYPOGEGRAMMENI,
     5YPOGEGRAMMENI,5OXIAbYPOGEGRAMMENI"),
   (0x1FC6, "5PERISPOMENI,6bYPOGEGRAMMENI,1foEPSILONzVARIA,5OXIA,3ETAzVARIA,5OXIA,5PROSGEGRAMMENI,
     1PSILIbVARIA,3OXIA,3PERISPOMENI,1soIOTAzVRACHY,5MACRON,5DIALYTIKAbVARIA,7OXIA"),
   (0x1FD6, "5PERISPOMENI,5DIALYTIKAbPERISPOMENI,1foIOTAzVRACHY,5MACRON,5VARIA,5OXIA"),
   (0x1FDD, "1DASIAbVARIA,3OXIA,3PERISPOMENI,1soUPSILONzVRACHY,5MACRON,5DIALYTIKAbVARIA,7OXIA,
     3RHOzPSILI,5DASIA,3UPSILONzPERISPOMENI,5DIALYTIKAbPERISPOMENI,1foUPSILONzVRACHY,5MACRON,5VARIA,
     5OXIA,3RHOzDASIA,1DIALYTIKAbVARIA,3OXIA,1VARIA"),
   (0x1FF2, "1soOMEGAzVARIAbYPOGEGRAMMENI,5YPOGEGRAMMENI,5OXIAbYPOGEGRAMMENI"),
   (0x1FF6, "5PERISPOMENI,6bYPOGEGRAMMENI,1foOMICRONzVARIA,5OXIA,3OMEGAzVARIA,5OXIA,5PROSGEGRAMMENI,
     1OXIA,1DASIA"),
   (0x2000, "0EN QUAD,0EM QUAD,0EN SPACE,0EM SPACE,0THREE-PER-EM SPACE,0FOUR-PER-EM SPACE,
     0SIX-PER-EM SPACE,0FIGURE SPACE,0PUNCTUATION SPACE,0THIN SPACE,0HAIR SPACE,0ZERO WIDTH SPACE,
     2NON-JOINER,2JOINER,0LEFT-TO-RIGHT MARK,0RIGHT-TO-LEFT MARK,0HYPHEN,0NON-BREAKING HYPHEN,
     0FIGURE DASH,0EN DASH,0EM DASH,0jBAR,0gxLINE,1LOW LINE,0mSINGLE QUOTATION MARK,
     0pSINGLE QUOTATION MARK,0SINGLE LOW-9 QUOTATION MARK,1HIGH-REVERSED-9 QUOTATION MARK,
     0mgQUOTATION MARK,0pgQUOTATION MARK,0gLOW-9 QUOTATION MARK,1HIGH-REVERSED-9 QUOTATION MARK,
     0DAGGER,0gDAGGER,0BULLET,0TRIANGULAR BULLET,0ONE DOT LEADER,0TWO DOT LEADER,0jELLIPSIS,
     0HYPHENATION POINT,0LINE SEPARATOR,0PARAGRAPH SEPARATOR,0LEFT-TO-RIGHT EMBEDDING,
     0RIGHT-TO-LEFT EMBEDDING,0POP DIRECTIONAL FORMATTING,0LEFT-TO-RIGHT OVERRIDE,
     0RIGHT-TO-LEFT OVERRIDE,0NARROW NO-BREAK SPACE,0PER MILLEr,1TEN THOUSANDr,0PRIME,0gPRIME,
     0TRIPLE PRIME,0REVERSED PRIME,1gPRIME,1TRIPLE PRIME,0CARET,
     0SINGLE LEFT-POINTING ANGLE QUOTATION MARK,1RIGHT-POINTING ANGLE QUOTATION MARK,
     0REFERENCE MARK,0gEXCLAMATION MARK,0INTERROBANG,0OVERLINE,0UNDERTIE,0CHARACTER TIE,
     0CARET INSERTION POINT,0ASTERISM,0HYPHEN BULLET,0FRACTION SLASH,0mSQUARE BRACKETzQUILL,
     0pSQUARE BRACKETzQUILL,0gQUESTION MARK,0QUESTION EXCLAMATION MARK,0EXCLAMATION QUESTION MARK,
     0TIRONIANrET,0REVERSED PILCROWr,0enBULLET,1qBULLET,0LOW ASTERISK,0REVERSED SEMICOLON,0CLOSE UP,
     0TWO ASTERISKS ALIGNED VERTICALLY,0COMMERCIAL MINUSr,0SWUNG DASH,0INVERTED UNDERTIE,
     0FLOWER PUNCTUATION MARK,0vDOT PUNCTUATION,0QUADRUPLE PRIME,0FOUR DOT PUNCTUATION,
     0FIVE DOT PUNCTUATION,0TWO DOT PUNCTUATION,0FOUR DOT MARK,0DOTTED CROSS,0TRICOLON,0xFOUR DOTS,
     0MEDIUM MATHEMATICAL SPACE,0WORD JOINER,0FUNCTION APPLICATION,0INVISIBLE TIMES,1SEPARATOR,
     1PLUS"),
   (0x2066, "0LEFT-TO-RIGHT ISOLATE,0RIGHT-TO-LEFT ISOLATE,0FIRST STRONG ISOLATE,
     0POP DIRECTIONAL ISOLATE,0INHIBIT SYMMETRIC SWAPPING,0ACTIVATE SYMMETRIC SWAPPING,
     0INHIBIT ARABICiSHAPING,0ACTIVATE ARABICiSHAPING,0NATIONAL DIGIT SHAPES,0NOMINAL DIGIT SHAPES,
     0SUPERSCRIPT ZERO,1LATINsoI"),
   (0x2074, "1FOUR,1FIVE,1SIX,1SEVEN,1EIGHT,1NINE,1PLUSr,1MINUS,1EQUALSr,1mPARENTHESIS,
     1pPARENTHESIS,1LATINsoN,0SUBSCRIPT ZERO,1ONE,1TWO,1v,1FOUR,1FIVE,1SIX,1SEVEN,1EIGHT,1NINE,
     1PLUSr,1MINUS,1EQUALSr,1mPARENTHESIS,1pPARENTHESIS"),
   (0x2090, "0LATIN SUBSCRIPTsoA,4E,4O,4X,4SCHWA,4H,4K,4L,4M,4N,4P,4S,4T"),
   (0x20A0, "0EURO-CURRENCYr,0COLONr,0CRUZEIROr,0FRENCH FRANCr,0LIRAr,0MILLr,0NAIRAr,0PESETAr,
     0RUPEEr,0WONr,0NEW SHEQELr,0DONGr,0EUROr,0KIPr,0TUGRIKr,0DRACHMAr,0GERMAN PENNYr,0PESOr,
     0GUARANIr,0AUSTRALr,0HRYVNIAr,0CEDIr,0LIVRE TOURNOISr,0SPESMILOr,0TENGEr,0INDIAN RUPEEr,
     0TURKISH LIRAr,0NORDIC MARKr,0MANATr,0RUBLEr,0LARIr,0BITCOINr,0SOMr"),
   (0x20D0, "0COMBININGmHARPOONa,1pHARPOONa,1LONGxLINE OVERLAY,1SHORTxLINE OVERLAY,1ANTICLOCKWISEca,
     1CLOCKWISEca,1mca,1pca,1RING OVERLAY,1CLOCKWISE RING OVERLAY,1ANTICLOCKWISE RING OVERLAY,
     1vDOTSa,1FOUR DOTSa,1ENCLOSING CIRCLE,2SQUARE,2DIAMOND,2CIRCLE BACKSLASH,1mpca,
     1ENCLOSING SCREEN,2KEYCAP,2UPWARD POINTING TRIANGLE,1REVERSE SOLIDUS OVERLAY,1gxtOVERLAY,
     1ANNUITYu,1TRIPLE UNDERDOT,1WIDE BRIDGEa,1ncOVERLAY,1LONGgSOLIDUS OVERLAY,
     1qHARPOONzBARB DOWNWARDS,1nHARPOONzBARB DOWNWARDS,1mcd,1pcd,1ASTERISKa"),
   (0x2100, "0ACCOUNT OF,0ADDRESSED TO THE SUBJECT,0DOUBLE-STRUCKfC,0DEGREE CELSIUS,0CENTRE LINEu,
     0CARE OF,0CADA UNA,0EULER CONSTANT,0SCRUPLE,0DEGREE FAHRENHEIT,0SCRIPTsG,1fH,0BLACK-LETTERfH,
     0DOUBLE-STRUCKfH,0PLANCK CONSTANT,2OVER TWO PI,0SCRIPTfI,0BLACK-LETTERfI,0SCRIPTfL,1sL,
     0L B BARu,0DOUBLE-STRUCKfN,0NUMEROr,0SOUND RECORDING COPYRIGHT,0SCRIPTfP,0DOUBLE-STRUCKfP,2Q,
     0SCRIPTfR,0BLACK-LETTERfR,0DOUBLE-STRUCKfR,0PRESCRIPTION TAKE,0RESPONSE,0SERVICE MARK,
     0TELEPHONEr,0TRADE MARKr,0VERSICLE,0DOUBLE-STRUCKfZ,0OUNCEr,0OHMr,0INVERTED OHMr,
     0BLACK-LETTERfZ,0TURNED GREEKsoIOTA,0KELVINr,0ANGSTROMr,0SCRIPTfB,0BLACK-LETTERfC,0ESTIMATEDu,
     0SCRIPTsE,1fE,2F,0TURNEDfF,0SCRIPTfM,1sO,0ALEFu,0BETu,0GIMELu,0DALETu,0INFORMATION SOURCE,
     0ROTATEDfQ,0FACSIMILEr,0DOUBLE-STRUCKsPI,2GAMMA,1fGAMMA,2PI,1N-ARY SUMMATION,
     0TURNED SANS-SERIFfG,3L,0REVERSED SANS-SERIFfL,0TURNED SANS-SERIFfY,0DOUBLE-STRUCK ITALICfD,
     2sD,3E,3I,3J,0PROPERTY LINE,0TURNED AMPERSAND,0PERr,0AKTIESELSKAB,0TURNEDsF,
     0uFOR SAMARITAN SOURCE,0VULGAR FRACTION ONE SEVENTH,3NINTH,3TENTH,3THIRD,2TWO THIRDS,
     2ONE FIFTH,2TWO FIFTHS,2vFIFTHS,2FOUR FIFTHS,2ONE SIXTH,2FIVE SIXTHS,2ONE EIGHTH,2vEIGHTHS,
     2FIVE EIGHTHS,2SEVEN EIGHTHS,0FRACTION NUMERATOR ONE,0ROMAN NUMERAL ONE,2TWO,2v,2FOUR,2FIVE,
     2SIX,2SEVEN,2EIGHT,2NINE,2TEN,2ELEVEN,2TWELVE,2FIFTY,2ONE HUNDRED,2FIVE HUNDRED,2ONE THOUSAND,
     0sROMAN NUMERAL ONE,3TWO,3v,3FOUR,3FIVE,3SIX,3SEVEN,3EIGHT,3NINE,3TEN,3ELEVEN,3TWELVE,3FIFTY,
     3ONE HUNDRED,3FIVE HUNDRED,3ONE THOUSAND,0ROMAN NUMERAL ONE THOUSAND C D,2FIVE THOUSAND,
     2TEN THOUSAND,2REVERSED ONE HUNDRED,0LATINsoREVERSED C,0ROMAN NUMERAL SIX LATEi,2FIFTY EARLYi,
     3THOUSAND,2ONE HUNDRED THOUSAND,0VULGAR FRACTION ZERO THIRDS,0TURNED DIGIT TWO,2v"),
   (0x2190, "0nc,0UPWARDSc,0qc,0DOWNWARDSc,0mpc,0UP DOWNc,0NORTH WESTc,1EASTc,0SOUTH EASTc,1WESTc,
     0nczt,0qczt,0nWAVEc,0qWAVEc,0nTWO HEADEDc,0UPWARDS TWO HEADEDc,0qTWO HEADEDc,
     0DOWNWARDS TWO HEADEDc,0nczTAIL,0qczTAIL,0ncFROM BAR,0UPWARDScFROM BAR,0qcFROM BAR,
     0DOWNWARDScFROM BAR,0UP DOWNczBASE,0nczHOOK,0qczHOOK,0nczLOOP,0qczLOOP,0mpWAVEc,2czt,
     0DOWNWARDS ZIGZAGc,0UPWARDSczTIPn,4q,0DOWNWARDSczTIPn,4q,0qczCORNER DOWNWARDS,
     0DOWNWARDSczCORNERn,0ANTICLOCKWISE TOP SEMICIRCLEc,0CLOCKWISE TOP SEMICIRCLEc,
     0NORTH WESTcTO LONG BAR,0ncTO BAR OVERqcTO BAR,0ANTICLOCKWISE OPEN CIRCLEc,
     0CLOCKWISE OPEN CIRCLEc,0nHARPOONzBARB UPWARDS,4DOWNWARDS,0UPWARDS HARPOONzBARBq,4n,
     0qHARPOONzBARB UPWARDS,4DOWNWARDS,0DOWNWARDS HARPOONzBARBq,4n,0qcOVERnc,
     0UPWARDScnOF DOWNWARDSc,0ncOVERqc,1PAIRED ARROWS,0UPWARDS PAIRED ARROWS,0qPAIRED ARROWS,
     0DOWNWARDS PAIRED ARROWS,0nHARPOON OVERqHARPOON,0qHARPOON OVERnHARPOON,0ngczt,0mpgczt,0qgczt,
     0ngc,0UPWARDSgc,0qgc,0DOWNWARDSgc,0mpgc,0UP DOWNgc,0NORTH WESTgc,1EASTgc,0SOUTH EASTgc,1WESTgc,
     0nTRIPLEc,0qTRIPLEc,0nSQUIGGLEc,0qSQUIGGLEc,0UPWARDSczgt,0DOWNWARDSczgt,0nDASHEDc,
     0UPWARDS DASHEDc,0qDASHEDc,0DOWNWARDS DASHEDc,0ncTO BAR,0qcTO BAR,0nyc,0UPWARDSyc,0qyc,
     0DOWNWARDSyc,0UPWARDSycFROM BAR,3ON PEDESTAL,5zjBAR,6xBAR,2gc,4ON PEDESTAL,0qycFROM WALL,
     0NORTH WESTcTO CORNER,0SOUTH EASTcTO CORNER,0UP DOWNyc,0pczsCIRCLE,0DOWNWARDScnOF UPWARDSc,
     0vqARROWS,0nczxt,0qczxt,0mpczxt,0nczgxt,0qczgxt,0mpczgxt,0nOPEN-HEADEDc,0qOPEN-HEADEDc,
     0mpOPEN-HEADEDc,0FOR ALL,0COMPLEMENT,0PARTIAL DIFFERENTIAL,0THERE EXISTS,1DOES NOT EXIST,
     0EMPTY SET,0INCREMENT,0NABLA,0ELEMENT OF,0NOT AN ELEMENT OF,0sELEMENT OF,0CONTAINS AS MEMBER,
     0DOES NOT CONTAIN AS MEMBER,0sCONTAINS AS MEMBER,0END OF PROOF,0N-ARY PRODUCT,1COPRODUCT,
     1SUMMATION,0MINUSr,0MINUS-OR-PLUSr,0DOT PLUS,0DIVISION SLASH,0SET MINUS,0ASTERISK OPERATOR,
     0RING OPERATOR,0BULLET OPERATOR,0SQUARE ROOT,0CUBE ROOT,0FOURTH ROOT,0PROPORTIONAL TO,
     0INFINITY,0pANGLE,0ANGLE,0MEASURED ANGLE,0SPHERICAL ANGLE,0DIVIDES,0DOES NOT DIVIDE,
     0PARALLEL TO,0NOT PARALLEL TO,0LOGICALb,1OR,0INTERSECTION,0UNION,0INTEGRAL,0gINTEGRAL,
     0TRIPLE INTEGRAL,0CONTOUR INTEGRAL,0SURFACE INTEGRAL,0VOLUME INTEGRAL,0CLOCKWISE INTEGRAL,
     1CONTOUR INTEGRAL,0ANTICLOCKWISE CONTOUR INTEGRAL,0THEREFORE,0BECAUSE,0RATIO,0PROPORTION,
     0DOT MINUS,0EXCESS,0GEOMETRIC PROPORTION,0HOMOTHETIC,0TILDE OPERATOR,0REVERSED TILDE,
     0INVERTED LAZY S,0SINE WAVE,0WREATH PRODUCT,0NOT TILDE,0MINUS TILDE,0ASYMPTOTICALLY EQUAL TO,
     0NOT ASYMPTOTICALLY EQUAL TO,0APPROXIMATELY EQUAL TO,1BUT NOT ACTUALLY EQUAL TO,
     0NEITHER APPROXIMATELY NOR ACTUALLY EQUAL TO,0ALMOST EQUAL TO,0NOT ALMOST EQUAL TO,
     0ALMOST EQUAL OR EQUAL TO,0TRIPLE TILDE,0ALL EQUAL TO,0EQUIVALENT TO,
     0GEOMETRICALLY EQUIVALENT TO,0DIFFERENCE BETWEEN,0APPROACHES THE LIMIT,0GEOMETRICALLY EQUAL TO,
     0APPROXIMATELY EQUAL TO OR THE IMAGE OF,0IMAGE OF OR APPROXIMATELY EQUAL TO,0COLON EQUALS,
     0EQUALS COLON,0RING IN EQUAL TO,1EQUAL TO,0CORRESPONDS TO,0ESTIMATES,0EQUIANGULAR TO,
     0STAR EQUALS,0DELTA EQUAL TO,0EQUAL TO BY DEFINITION,0MEASURED BY,0QUESTIONED EQUAL TO,
     0NOT EQUAL TO,0IDENTICAL TO,0NOT IDENTICAL TO,0STRICTLY EQUIVALENT TO,0LESS-THAN OR EQUAL TO,
     0GREATER-THAN OR EQUAL TO,0LESS-THAN OVER EQUAL TO,0GREATER-THAN OVER EQUAL TO,
     0LESS-THAN BUT NOT EQUAL TO,0GREATER-THAN BUT NOT EQUAL TO,0MUCH LESS-THAN,1GREATER-THAN,
     0BETWEEN,0NOT EQUIVALENT TO,1LESS-THAN,1GREATER-THAN,0NEITHER LESS-THAN NOR EQUAL TO,
     1GREATER-THAN NOR EQUAL TO,0LESS-THAN OR EQUIVALENT TO,0GREATER-THAN OR EQUIVALENT TO,
     0NEITHER LESS-THAN NOR EQUIVALENT TO,1GREATER-THAN NOR EQUIVALENT TO,
     0LESS-THAN OR GREATER-THAN,0GREATER-THAN OR LESS-THAN,0NEITHER LESS-THAN NOR GREATER-THAN,
     1GREATER-THAN NOR LESS-THAN,0PRECEDES,0SUCCEEDS,0PRECEDES OR EQUAL TO,0SUCCEEDS OR EQUAL TO,
     0PRECEDES OR EQUIVALENT TO,0SUCCEEDS OR EQUIVALENT TO,0DOES NOT PRECEDE,2SUCCEED,0SUBSET OF,
     0SUPERSET OF,0NOT A SUBSET OF,2SUPERSET OF,0SUBSET OF OR EQUAL TO,0SUPERSET OF OR EQUAL TO,
     0NEITHER A SUBSET OF NOR EQUAL TO,2SUPERSET OF NOR EQUAL TO,0SUBSET OFzNOT EQUAL TO,
     0SUPERSET OFzNOT EQUAL TO,0MULTISET,1MULTIPLICATION,1UNION,0SQUARE IMAGE OF,1ORIGINAL OF,
     1IMAGE OF OR EQUAL TO,1ORIGINAL OF OR EQUAL TO,1CAP,1CUP,0CIRCLED PLUS,1MINUS,1TIMES,
     1DIVISION SLASH,1DOT OPERATOR,1RING OPERATOR,1ASTERISK OPERATOR,1EQUALS,1DASH,0SQUARED PLUS,
     1MINUS,1TIMES,1DOT OPERATOR,0pTACK,0mTACK,0DOWN TACK,0UP TACK,0ASSERTION,0MODELS,0TRUE,0FORCES,
     0TRIPLExBARpTURNSTILE,0gxBARgpTURNSTILE,0DOES NOT PROVE,0NOT TRUE,0DOES NOT FORCE,
     0NEGATEDgxBARgpTURNSTILE,0PRECEDES UNDER RELATION,0SUCCEEDS UNDER RELATION,0NORMAL SUBGROUP OF,
     0CONTAINS AS NORMAL SUBGROUP,0NORMAL SUBGROUP OF OR EQUAL TO,
     0CONTAINS AS NORMAL SUBGROUP OR EQUAL TO,0ORIGINAL OF,0IMAGE OF,0MULTIMAP,
     0HERMITIAN CONJUGATE MATRIX,0INTERCALATE,0XOR,0NAND,0NOR,0pANGLEzARC,1TRIANGLE,0N-ARY LOGICALb,
     2OR,1INTERSECTION,1UNION,0DIAMOND OPERATOR,0DOT OPERATOR,0STAR OPERATOR,0DIVISION TIMES,
     0BOWTIE,0mNORMAL FACTOR SEMIDIRECT PRODUCT,0pNORMAL FACTOR SEMIDIRECT PRODUCT,
     0mSEMIDIRECT PRODUCT,0pSEMIDIRECT PRODUCT,0REVERSED TILDE EQUALS,0CURLY LOGICAL OR,2b,0gSUBSET,
     1SUPERSET,1INTERSECTION,1UNION,0PITCHFORK,0EQUALbPARALLEL TO,0LESS-THANzDOT,0GREATER-THANzDOT,
     0VERY MUCH LESS-THAN,2GREATER-THAN,0LESS-THAN EQUAL TO OR GREATER-THAN,
     0GREATER-THAN EQUAL TO OR LESS-THAN,0EQUAL TO OR LESS-THAN,3GREATER-THAN,3PRECEDES,3SUCCEEDS,
     0DOES NOT PRECEDE OR EQUAL,2SUCCEED OR EQUAL,0NOT SQUARE IMAGE OF OR EQUAL TO,
     2ORIGINAL OF OR EQUAL TO,0SQUARE IMAGE OF OR NOT EQUAL TO,1ORIGINAL OF OR NOT EQUAL TO,
     0LESS-THAN BUT NOT EQUIVALENT TO,0GREATER-THAN BUT NOT EQUIVALENT TO,
     0PRECEDES BUT NOT EQUIVALENT TO,0SUCCEEDS BUT NOT EQUIVALENT TO,0NOT NORMAL SUBGROUP OF,
     0DOES NOT CONTAIN AS NORMAL SUBGROUP,0NOT NORMAL SUBGROUP OF OR EQUAL TO,
     0DOES NOT CONTAIN AS NORMAL SUBGROUP OR EQUAL,0xELLIPSIS,0MIDLINEjELLIPSIS,
     0UPpDIAGONAL ELLIPSIS,0DOWNpDIAGONAL ELLIPSIS,0ELEMENT OFzLONGjt,3xBAR AT END OFjt,
     0sELEMENT OFzxBAR AT END OFjt,0ELEMENT OFzDOTa,3OVERBAR,0sELEMENT OFzOVERBAR,
     0ELEMENT OFzUNDERBAR,3TWOjSTROKES,0CONTAINSzLONGjt,2xBAR AT END OFjt,
     0sCONTAINSzxBAR AT END OFjt,0CONTAINSzOVERBAR,0sCONTAINSzOVERBAR,0Z NOTATION BAG MEMBERSHIP,
     0DIAMETERr,0ELECTRICc,0HOUSE,0UP ARROWHEAD,0DOWN ARROWHEAD,0PROJECTIVE,0PERSPECTIVE,0WAVY LINE,
     0mCEILING,0pCEILING,0mFLOOR,0pFLOOR,0BOTTOMpCROP,1mCROP,0TOPpCROP,1mCROP,0REVERSED NOTr,
     0SQUARE LOZENGE,0ARC,0SEGMENT,0SECTOR,0TELEPHONE RECORDER,0POSITION INDICATOR,0VIEWDATA SQUARE,
     0PLACE OF INTERESTr,0TURNED NOTr,0WATCH,0HOURGLASS,0TOPmCORNER,1pCORNER,0BOTTOMmCORNER,
     1pCORNER,0TOP HALF INTEGRAL,0BOTTOM HALF INTEGRAL,0FROWN,0SMILE,0UP ARROWHEAD BETWEEN TWOjBARS,
     0OPTION KEY,0ERASE TO THEp,0X IN A RECTANGLE BOX,0KEYBOARD,0LEFT-POINTING ANGLE BRACKET,
     0RIGHT-POINTING ANGLE BRACKET,0ERASE TO THEm,0BENZENE RING,0CYLINDRICITY,0ALL AROUND-PROFILE,
     0SYMMETRY,0TOTAL RUNOUT,0DIMENSION ORIGIN,0CONICAL TAPER,0SLOPE,0COUNTERBORE,0COUNTERSINK,
     0APL FUNCTIONALuI-BEAM,3SQUISH QUAD,3QUAD EQUAL,4DIVIDE,4DIAMOND,4JOT,4CIRCLE,3CIRCLE STILE,
     4JOT,3SLASH BAR,3BACKSLASH BAR,3QUAD SLASH,4BACKSLASH,4LESS-THAN,4GREATER-THAN,3nVANE,3qVANE,
     3QUADnc,4qc,3CIRCLE BACKSLASH,3DOWN TACK UNDERBAR,3DELTA STILE,3QUAD DOWN CARET,4DELTA,
     3DOWN TACK JOT,3UPWARDS VANE,3QUAD UPWARDSc,3UP TACK OVERBAR,3DEL STILE,3QUAD UP CARET,4DEL,
     3UP TACK JOT,3DOWNWARDS VANE,3QUAD DOWNWARDSc,3QUOTE UNDERBAR,3DELTA UNDERBAR,
     3DIAMOND UNDERBAR,3JOT UNDERBAR,3CIRCLE UNDERBAR,3UP SHOE JOT,3QUOTE QUAD,3CIRCLE STAR,
     3QUAD COLON,3UP TACK DIAERESIS,3DEL DIAERESIS,3STAR DIAERESIS,3JOT DIAERESIS,3CIRCLE DIAERESIS,
     3DOWN SHOE STILE,3mSHOE STILE,3TILDE DIAERESIS,3GREATER-THAN DIAERESIS,3COMMA BAR,3DEL TILDE,
     3ZILDE,3STILE TILDE,3SEMICOLON UNDERBAR,3QUAD NOT EQUAL,4QUESTION,3DOWN CARET TILDE,
     3UP CARET TILDE,3IOTA,3RHO,3OMEGA,3ALPHA UNDERBAR,3EPSILON UNDERBAR,3IOTA UNDERBAR,
     3OMEGA UNDERBAR,3ALPHA,0NOT CHECK MARK,0pANGLEzDOWNWARDS ZIGZAGc,0SHOULDERED OPEN BOX,0BELLu,
     0xLINEzMIDDLE DOT,0INSERTIONu,0CONTINUOUS UNDERLINEu,0DISCONTINUOUS UNDERLINEu,0EMPHASISu,
     0COMPOSITIONu,0ySQUAREzCENTRExLINE,0ENTERu,0ALTERNATIVE KEYu,0HELMu,0CIRCLEDjBARzNOTCH,
     1TRIANGLE DOWN,0BROKEN CIRCLEzNORTHWESTc,0UNDOu,0MONOSTABLEu,0HYSTERESISu,
     0OPEN-CIRCUIT-OUTPUT H-TYPEu,1L-TYPEu,0PASSIVE-PULL-DOWN-OUTPUTu,0PASSIVE-PULL-UP-OUTPUTu,
     0DIRECT CURRENTuiTWO,0SOFTWARE-FUNCTIONu,0APL FUNCTIONALuQUAD,0DECIMAL SEPARATOR KEYu,
     0PREVIOUS PAGE,0NEXT PAGE,0PRINT SCREENu,0CLEAR SCREENu,0mPARENTHESIS UPPER HOOK,2EXTENSION,
     2LOWER HOOK,0pPARENTHESIS UPPER HOOK,2EXTENSION,2LOWER HOOK,0mSQUARE BRACKET UPPER CORNER,
     3EXTENSION,3LOWER CORNER,0pSQUARE BRACKET UPPER CORNER,3EXTENSION,3LOWER CORNER,
     0mCURLY BRACKET UPPER HOOK,3MIDDLE PIECE,3LOWER HOOK,0CURLY BRACKET EXTENSION,
     0pCURLY BRACKET UPPER HOOK,3MIDDLE PIECE,3LOWER HOOK,0INTEGRAL EXTENSION,0jLINE EXTENSION,
     0UPPERmOR LOWERpCURLY BRACKET SECTION,1pOR LOWERmCURLY BRACKET SECTION,0SUMMATION TOP,1BOTTOM,
     0TOP SQUARE BRACKET,0BOTTOM SQUARE BRACKET,3OVER TOP SQUARE BRACKET,0RADICALuBOTTOM,
     0mxBOX LINE,0pxBOX LINE,0jSCAN LINE-1,2LINE-3,2LINE-7,2LINE-9,0DENTISTRYuLIGHTxbTOPp,5BOTTOMp,
     4zCIRCLE,3DOWNbjzCIRCLE,3UPbjzCIRCLE,3xzTRIANGLE,3DOWNbjzTRIANGLE,3UPbjzTRIANGLE,3xbWAVE,
     3DOWNbjzWAVE,3UPbjzWAVE,3DOWNbj,3UPbj,3xbTOPm,5BOTTOMm,0SQUARE FOOT,0RETURNu,0EJECTu,
     0xLINE EXTENSION,0METRICAL BREVE,1LONG OVER SHORT,1SHORT OVER LONG,1LONG OVER TWO SHORTS,
     1TWO SHORTS OVER LONG,3JOINED,1TRISEME,1TETRASEME,1PENTASEME,0EARTH GROUND,0FUSE,
     0TOP PARENTHESIS,0BOTTOM PARENTHESIS,0TOP CURLY BRACKET,0BOTTOM CURLY BRACKET,
     0TOP TORTOISE SHELL BRACKET,0BOTTOM TORTOISE SHELL BRACKET,0yTRAPEZIUM,0BENZENE RINGzCIRCLE,
     0STRAIGHTNESS,0FLATNESS,0AC CURRENT,0ELECTRICAL INTERSECTION,0DECIMAL EXPONENTu,
     0eRIGHT-POINTINGgTRIANGLE,1LEFT-POINTINGgTRIANGLE,1UP-POINTINGgTRIANGLE,
     1DOWN-POINTINGgTRIANGLE,1RIGHT-POINTINGgTRIANGLEzxBAR,1LEFT-POINTINGgTRIANGLEzxBAR,
     1RIGHT-POINTING TRIANGLEzgxBAR,0ALARM CLOCK,0STOPWATCH,0TIMER CLOCK,0HOURGLASSzFLOWING SAND,
     0eMEDIUM LEFT-POINTING TRIANGLE,2RIGHT-POINTING TRIANGLE,2UP-POINTING TRIANGLE,
     2DOWN-POINTING TRIANGLE,0gxBAR,0eSQUARE FOR STOP,1CIRCLE FOR RECORD,0POWERu,1ON-OFFu,1ONu,
     1SLEEPu,0OBSERVER EYEu,0uFOR NULL,2START OF HEADING,4TEXT,2END OF TEXT,4TRANSMISSION,2ENQUIRY,
     2ACKNOWLEDGE,2BELL,2BACKSPACE,2jTABULATION,2LINE FEED,2xTABULATION,2iFEED,2CARRIAGE RETURN,
     2SHIFT OUT,3IN,2DATA LINK ESCAPE,2DEVICE CONTROL ONE,4TWO,4v,4FOUR,2NEGATIVE ACKNOWLEDGE,
     2SYNCHRONOUS IDLE,2END OF TRANSMISSION BLOCK,2CANCEL,2END OF MEDIUM,2SUBSTITUTE,2ESCAPE,
     2FILE SEPARATOR,2GROUP SEPARATOR,2RECORD SEPARATOR,2UNIT SEPARATOR,2SPACE,2DELETE,0BLANKu,
     0OPEN BOX,0uFOR NEWLINE,2DELETEiTWO,2SUBSTITUTEiTWO"),
   (0x2440, "0OCR HOOK,1CHAIR,1FORK,1INVERTED FORK,1BELT BUCKLE,1BOW TIE,
     1BRANCH BANK IDENTIFICATION,1AMOUNT OF CHECK,1DASH,1CUSTOMER ACCOUNT NUMBER,1gBACKSLASH"),
   (0x2460, "0CIRCLED DIGIT ONE,2TWO,2v,2FOUR,2FIVE,2SIX,2SEVEN,2EIGHT,2NINE,1NUMBER TEN,2ELEVEN,
     2TWELVE,2THIRTEEN,2FOURTEEN,2FIFTEEN,2SIXTEEN,2SEVENTEEN,2EIGHTEEN,2NINETEEN,2TWENTY,
     0PARENTHESIZED DIGIT ONE,2TWO,2v,2FOUR,2FIVE,2SIX,2SEVEN,2EIGHT,2NINE,1NUMBER TEN,2ELEVEN,
     2TWELVE,2THIRTEEN,2FOURTEEN,2FIFTEEN,2SIXTEEN,2SEVENTEEN,2EIGHTEEN,2NINETEEN,2TWENTY,
     0DIGIT ONE FULL STOP,1TWO FULL STOP,1vFULL STOP,1FOUR FULL STOP,1FIVE FULL STOP,1SIX FULL STOP,
     1SEVEN FULL STOP,1EIGHT FULL STOP,1NINE FULL STOP,0NUMBER TEN FULL STOP,1ELEVEN FULL STOP,
     1TWELVE FULL STOP,1THIRTEEN FULL STOP,1FOURTEEN FULL STOP,1FIFTEEN FULL STOP,
     1SIXTEEN FULL STOP,1SEVENTEEN FULL STOP,1EIGHTEEN FULL STOP,1NINETEEN FULL STOP,
     1TWENTY FULL STOP,0PARENTHESIZED LATINsoA,4B,4C,4D,4E,4F,4G,4H,4I,4J,4K,4L,4M,4N,4O,4P,4Q,4R,
     4S,4T,4U,4V,4W,4X,4Y,4Z,0CIRCLED LATINfoA,4B,4C,4D,4E,4F,4G,4H,4I,4J,4K,4L,4M,4N,4O,4P,4Q,4R,
     4S,4T,4U,4V,4W,4X,4Y,4Z,2soA,4B,4C,4D,4E,4F,4G,4H,4I,4J,4K,4L,4M,4N,4O,4P,4Q,4R,4S,4T,4U,4V,4W,
     4X,4Y,4Z,1DIGIT ZERO,0NEGATIVE CIRCLED NUMBER ELEVEN,3TWELVE,3THIRTEEN,3FOURTEEN,3FIFTEEN,
     3SIXTEEN,3SEVENTEEN,3EIGHTEEN,3NINETEEN,3TWENTY,0gCIRCLED DIGIT ONE,3TWO,3v,3FOUR,3FIVE,3SIX,
     3SEVEN,3EIGHT,3NINE,2NUMBER TEN,0NEGATIVE CIRCLED DIGIT ZERO,0BOX DRAWINGS LIGHTj,2HEAVYj,
     2LIGHTx,2HEAVYx,2LIGHT TRIPLE DASHj,2HEAVY TRIPLE DASHj,2LIGHT TRIPLE DASHx,
     2HEAVY TRIPLE DASHx,2LIGHT QUADRUPLE DASHj,2HEAVY QUADRUPLE DASHj,2LIGHT QUADRUPLE DASHx,
     2HEAVY QUADRUPLE DASHx,2LIGHT DOWNbp,2DOWN LIGHTbpHEAVY,3HEAVYbpLIGHT,2HEAVY DOWNbp,
     2LIGHT DOWNbm,2DOWN LIGHTbmHEAVY,3HEAVYbmLIGHT,2HEAVY DOWNbm,2LIGHT UPbp,2UP LIGHTbpHEAVY,
     3HEAVYbpLIGHT,2HEAVY UPbp,2LIGHT UPbm,2UP LIGHTbmHEAVY,3HEAVYbmLIGHT,2HEAVY UPbm,2LIGHTxbp,
     2xLIGHTbpHEAVY,2UP HEAVYbpDOWN LIGHT,2DOWN HEAVYbpUP LIGHT,2xHEAVYbpLIGHT,
     2DOWN LIGHTbpUP HEAVY,2UP LIGHTbpDOWN HEAVY,2HEAVYxbp,2LIGHTxbm,2xLIGHTbmHEAVY,
     2UP HEAVYbmDOWN LIGHT,2DOWN HEAVYbmUP LIGHT,2xHEAVYbmLIGHT,2DOWN LIGHTbmUP HEAVY,
     2UP LIGHTbmDOWN HEAVY,2HEAVYxbm,2LIGHT DOWNbj,2mHEAVYbpDOWN LIGHT,2pHEAVYbmDOWN LIGHT,
     2DOWN LIGHTbjHEAVY,3HEAVYbjLIGHT,2pLIGHTbmDOWN HEAVY,2mLIGHTbpDOWN HEAVY,2HEAVY DOWNbj,
     2LIGHT UPbj,2mHEAVYbpUP LIGHT,2pHEAVYbmUP LIGHT,2UP LIGHTbjHEAVY,3HEAVYbjLIGHT,
     2pLIGHTbmUP HEAVY,2mLIGHTbpUP HEAVY,2HEAVY UPbj,2LIGHTxbj,2mHEAVYbpxLIGHT,2pHEAVYbmxLIGHT,
     2xLIGHTbjHEAVY,2UP HEAVYbDOWNjLIGHT,2DOWN HEAVYbUPjLIGHT,2xHEAVYbjLIGHT,2mUP HEAVYbpDOWN LIGHT,
     2pUP HEAVYbmDOWN LIGHT,2mDOWN HEAVYbpUP LIGHT,2pDOWN HEAVYbmUP LIGHT,2DOWN LIGHTbUPjHEAVY,
     2UP LIGHTbDOWNjHEAVY,2pLIGHTbmxHEAVY,2mLIGHTbpxHEAVY,2HEAVYxbj,2LIGHTgDASHj,2HEAVYgDASHj,
     2LIGHTgDASHx,2HEAVYgDASHx,2gj,3x,2DOWN SINGLEbpg,3gbpSINGLE,2gDOWNbp,2DOWN SINGLEbmg,
     3gbmSINGLE,2gDOWNbm,2UP SINGLEbpg,3gbpSINGLE,2gUPbp,2UP SINGLEbmg,3gbmSINGLE,2gUPbm,
     2xSINGLEbpg,3gbpSINGLE,2gxbp,2xSINGLEbmg,3gbmSINGLE,2gxbm,2DOWN SINGLEbjg,3gbjSINGLE,2gDOWNbj,
     2UP SINGLEbjg,3gbjSINGLE,2gUPbj,2xSINGLEbjg,3gbjSINGLE,2gxbj,2LIGHT ARC DOWNbp,6m,4UPbm,6p,
     3DIAGONAL UPPERpTO LOWERm,5mTO LOWERp,4CROSS,3m,3UP,3p,3DOWN,2HEAVYm,3UP,3p,3DOWN,
     2LIGHTmbHEAVYp,3UPbHEAVY DOWN,2HEAVYmbLIGHTp,3UPbLIGHT DOWN,0UPPER HALF BLOCK,
     0LOWER ONE EIGHTH BLOCK,2QUARTER BLOCK,1vEIGHTHS BLOCK,1HALF BLOCK,1FIVE EIGHTHS BLOCK,
     1vQUARTERS BLOCK,1SEVEN EIGHTHS BLOCK,0FULL BLOCK,0mSEVEN EIGHTHS BLOCK,1vQUARTERS BLOCK,
     1FIVE EIGHTHS BLOCK,1HALF BLOCK,1vEIGHTHS BLOCK,1ONE QUARTER BLOCK,2EIGHTH BLOCK,0pHALF BLOCK,
     0LIGHT SHADE,0MEDIUM SHADE,0DARK SHADE,0UPPER ONE EIGHTH BLOCK,0pONE EIGHTH BLOCK,
     0QUADRANT LOWERm,2p,1UPPERm,3bLOWERmbLOWERp,5p,4UPPERpbLOWERm,8p,2p,3bLOWERm,6bLOWERp,0eSQUARE,
     0ySQUARE,2zROUNDED CORNERS,2CONTAININGesSQUARE,0SQUAREzjFILL,2xFILL,
     2ORTHOGONAL CROSSHATCH FILL,2UPPERmTO LOWERpFILL,3pTO LOWERmFILL,2DIAGONAL CROSSHATCH FILL,
     0esSQUARE,0ysSQUARE,0eRECTANGLE,0yRECTANGLE,0exRECTANGLE,0yxRECTANGLE,0ePARALLELOGRAM,
     0yPARALLELOGRAM,0eUP-POINTING TRIANGLE,0yUP-POINTING TRIANGLE,0eUP-POINTINGsTRIANGLE,
     0yUP-POINTINGsTRIANGLE,0eRIGHT-POINTING TRIANGLE,0yRIGHT-POINTING TRIANGLE,
     0eRIGHT-POINTINGsTRIANGLE,0yRIGHT-POINTINGsTRIANGLE,0eRIGHT-POINTING POINTER,
     0yRIGHT-POINTING POINTER,0eDOWN-POINTING TRIANGLE,0yDOWN-POINTING TRIANGLE,
     0eDOWN-POINTINGsTRIANGLE,0yDOWN-POINTINGsTRIANGLE,0eLEFT-POINTING TRIANGLE,
     0yLEFT-POINTING TRIANGLE,0eLEFT-POINTINGsTRIANGLE,0yLEFT-POINTINGsTRIANGLE,
     0eLEFT-POINTING POINTER,0yLEFT-POINTING POINTER,0eDIAMOND,0yDIAMOND,2CONTAININGesDIAMOND,
     0FISHEYE,0LOZENGE,0yCIRCLE,0DOTTED CIRCLE,0CIRCLEzxFILL,0BULLSEYE,0eCIRCLE,0CIRCLEzmHALFe,
     2pHALFe,2LOWER HALFe,2UPPER HALFe,3pQUADRANTe,2ALL BUT UPPERmQUADRANTe,0mHALFeCIRCLE,
     0pHALFeCIRCLE,0INVERSE BULLET,1yCIRCLE,0UPPER HALF INVERSEyCIRCLE,0LOWER HALF INVERSEyCIRCLE,
     0UPPERmQUADRANT CIRCULAR ARC,1pQUADRANT CIRCULAR ARC,0LOWERpQUADRANT CIRCULAR ARC,
     1mQUADRANT CIRCULAR ARC,0UPPER HALF CIRCLE,0LOWER HALF CIRCLE,0eLOWERpTRIANGLE,2mTRIANGLE,
     1UPPERmTRIANGLE,2pTRIANGLE,0yBULLET,0SQUAREzmHALFe,2pHALFe,2UPPERmDIAGONAL HALFe,
     2LOWERpDIAGONAL HALFe,0ySQUAREzxBISECTING LINE,1UP-POINTING TRIANGLEzDOT,
     0UP-POINTING TRIANGLEzmHALFe,3pHALFe,0LARGE CIRCLE,0ySQUAREzUPPERmQUADRANT,3LOWERmQUADRANT,
     4pQUADRANT,3UPPERpQUADRANT,1CIRCLEzUPPERmQUADRANT,3LOWERmQUADRANT,4pQUADRANT,3UPPERpQUADRANT,
     0UPPERmTRIANGLE,1pTRIANGLE,0LOWERmTRIANGLE,0yMEDIUM SQUARE,0eMEDIUM SQUARE,0yMEDIUMsSQUARE,
     0eMEDIUMsSQUARE,0LOWERpTRIANGLE,0eSUNzRAYS,0CLOUD,0UMBRELLA,0SNOWMAN,0COMET,0eSTAR,0ySTAR,
     0LIGHTNING,0THUNDERSTORM,0SUN,0ASCENDING NODE,0DESCENDING NODE,0CONJUNCTION,0OPPOSITION,
     0eTELEPHONE,0yTELEPHONE,0BALLOT BOX,2zCHECK,3X,0SALTIRE,0UMBRELLAzRAIN DROPS,0HOT BEVERAGE,
     0ySHOGI PIECE,0eSHOGI PIECE,0SHAMROCK,0REVERSED ROTATED FLORAL HEART BULLET,0emPOINTING INDEX,
     1pPOINTING INDEX,0ymPOINTING INDEX,1UP POINTING INDEX,1pPOINTING INDEX,1DOWN POINTING INDEX,
     0SKULLbCROSSBONES,0CAUTIONr,0RADIOACTIVEr,0BIOHAZARDr,0CADUCEUS,0ANKH,0ORTHODOX CROSS,0CHI RHO,
     0CROSS OF LORRAINE,2JERUSALEM,0STARbCRESCENT,0FARSIu,0ADI SHAKTI,0HAMMERbSICKLE,0PEACEu,
     0YIN YANG,0TRIGRAM FOR HEAVEN,2LAKE,2FIRE,2THUNDER,2WIND,2WATER,2MOUNTAIN,2EARTH,
     0WHEEL OF DHARMA,0yFROWNING FACE,1SMILING FACE,0eSMILING FACE,0ySUNzRAYS,0FIRST QUARTER MOON,
     0LAST QUARTER MOON,0MERCURY,0FEMALEr,0EARTH,0MALEr,0JUPITER,0SATURN,0URANUS,0NEPTUNE,0PLUTO,
     0ARIES,0TAURUS,0GEMINI,0CANCER,0LEO,0VIRGO,0LIBRA,0SCORPIUS,0SAGITTARIUS,0CAPRICORN,0AQUARIUS,
     0PISCES,0yCHESS KING,2QUEEN,2ROOK,2BISHOP,2KNIGHT,2PAWN,0eCHESS KING,2QUEEN,2ROOK,2BISHOP,
     2KNIGHT,2PAWN,1SPADE SUIT,0yHEART SUIT,1DIAMOND SUIT,0eCLUB SUIT,0ySPADE SUIT,0eHEART SUIT,
     1DIAMOND SUIT,0yCLUB SUIT,0HOT SPRINGS,0QUARTER NOTE,0EIGHTH NOTE,0BEAMED EIGHTH NOTES,
     1SIXTEENTH NOTES,0MUSIC FLATr,1NATURALr,1SHARPr,0WEST SYRIAC CROSS,0EAST SYRIAC CROSS,
     0UNIVERSAL RECYCLINGu,0RECYCLINGuFOR TYPE-1 PLASTICS,3TYPE-2 PLASTICS,3TYPE-3 PLASTICS,
     3TYPE-4 PLASTICS,3TYPE-5 PLASTICS,3TYPE-6 PLASTICS,3TYPE-7 PLASTICS,3GENERIC MATERIALS,
     0eUNIVERSAL RECYCLINGu,0RECYCLED PAPERu,0PARTIALLY-RECYCLED PAPERu,0PERMANENT PAPERr,
     0WHEELCHAIRu,0DIE FACE-1,1FACE-2,1FACE-3,1FACE-4,1FACE-5,1FACE-6,0yCIRCLEzDOTp,3TWO DOTS,
     0eCIRCLEzyDOTp,3TWOyDOTS,0MONOGRAM FOR YANG,2YIN,0DIGRAM FOR GREATER YANG,2LESSER YIN,3YANG,
     2GREATER YIN,0yFLAG,0eFLAG,0HAMMERbPICK,0ANCHOR,0CROSSED SWORDS,0STAFF OF AESCULAPIUS,0SCALES,
     0ALEMBIC,0FLOWER,0GEAR,0STAFF OF HERMES,0ATOMu,0FLEUR-DE-LIS,0OUTLINEDySTAR,
     0vLINES CONVERGINGp,3m,0WARNINGr,0HIGH VOLTAGEr,0DOUBLED FEMALEr,1MALEr,
     0INTERLOCKED FEMALEbMALEr,0MALEbFEMALEr,1ztr,3bMALEbFEMALEr,0xMALEztr,0jMALEztr,0MEDIUMyCIRCLE,
     1eCIRCLE,1syCIRCLE,0MARRIAGEu,0DIVORCEu,0UNMARRIED PARTNERSHIPu,0COFFIN,0FUNERAL URN,0NEUTER,
     0CERES,0PALLAS,0JUNO,0VESTA,0CHIRON,0eMOON LILITH,0SEXTILE,0SEMISEXTILE,0QUINCUNX,
     0SESQUIQUADRATE,0SOCCER BALL,0BASEBALL,0SQUARED KEY,0yDRAUGHTS MAN,2KING,0eDRAUGHTS MAN,2KING,
     0SNOWMAN WITHOUT SNOW,0SUN BEHIND CLOUD,0RAIN,0eSNOWMAN,0THUNDER CLOUDbRAIN,
     0TURNEDySHOGI PIECE,1eSHOGI PIECE,0yDIAMOND IN SQUARE,0CROSSING LANES,0DISABLED CAR,0OPHIUCHUS,
     0PICK,0CAR SLIDING,0HELMETzyCROSS,0CIRCLED CROSSING LANES,0CHAINS,0NO ENTRY,
     0ALTERNATE ONE-WAYmWAY TRAFFIC,0eTWO-WAYmWAY TRAFFIC,0yTWO-WAYmWAY TRAFFIC,0emLANE MERGE,
     0ymLANE MERGE,0DRIVE SLOWr,0HEAVYyDOWN-POINTING TRIANGLE,0mCLOSED ENTRY,0SQUARED SALTIRE,
     0FALLING DIAGONAL INyCIRCLE INeSQUARE,0eTRUCK,0RESTRICTEDmENTRY-1,2ENTRY-2,
     0ASTRONOMICALuFOR URANUS,0HEAVY CIRCLEztbTWO DOTSa,0PENTAGRAM,
     0RIGHT-HANDED INTERLACED PENTAGRAM,0LEFT-HANDED INTERLACED PENTAGRAM,0INVERTED PENTAGRAM,
     0eCROSS ON SHIELD,0SHINTO SHRINE,0CHURCH,0CASTLE,0HISTORIC SITE,0GEAR WITHOUT HUB,1zHANDLES,
     0MAPuFOR LIGHTHOUSE,0MOUNTAIN,0UMBRELLA ON GROUND,0FOUNTAIN,0FLAG IN HOLE,0FERRY,0SAILBOAT,
     0SQUARE FOUR CORNERS,0SKIER,0ICE SKATE,0PERSONzBALL,0TENT,0JAPANESE BANKu,
     0HEADSTONE GRAVEYARDu,0FUEL PUMP,0CUP ONeSQUARE,0yFLAGzjMIDDLEeSTRIPE,0eSAFETY SCISSORS,
     0UPPER BLADE SCISSORS,0eSCISSORS,0LOWER BLADE SCISSORS,0ySCISSORS,1HEAVY CHECK MARK,
     0TELEPHONE LOCATIONr,0TAPE DRIVE,0AIRPLANE,0ENVELOPE,0RAISED FIST,1HAND,0VICTORY HAND,
     0WRITING HAND,0LOWERpPENCIL,0PENCIL,0UPPERpPENCIL,0yNIB,0eNIB,0CHECK MARK,0HEAVY CHECK MARK,
     0MULTIPLICATION X,0HEAVY MULTIPLICATION X,0BALLOT X,0HEAVY BALLOT X,0OUTLINED GREEK CROSS,
     0HEAVY GREEK CROSS,0OPEN CENTRE CROSS,0HEAVY OPEN CENTRE CROSS,0LATIN CROSS,
     0SHADOWEDyLATIN CROSS,0OUTLINED LATIN CROSS,0MALTESE CROSS,0STAR OF DAVID,
     0FOUR TEARDROP-SPOKED ASTERISK,1BALLOON-SPOKED ASTERISK,0HEAVY FOUR BALLOON-SPOKED ASTERISK,
     0FOUR CLUB-SPOKED ASTERISK,0eFOUR POINTED STAR,0yFOUR POINTED STAR,0SPARKLES,
     0STRESS OUTLINEDySTAR,0CIRCLEDySTAR,0OPEN CENTREeSTAR,0eCENTREySTAR,0OUTLINEDeSTAR,
     0HEAVY OUTLINEDeSTAR,0PINWHEEL STAR,0SHADOWEDySTAR,0HEAVY ASTERISK,0OPEN CENTRE ASTERISK,
     0EIGHT SPOKED ASTERISK,1POINTEDeSTAR,2PINWHEEL STAR,0SIX POINTEDeSTAR,
     0EIGHT POINTED RECTILINEAReSTAR,0HEAVY EIGHT POINTED RECTILINEAReSTAR,0TWELVE POINTEDeSTAR,
     0SIXTEEN POINTED ASTERISK,0TEARDROP-SPOKED ASTERISK,0OPEN CENTRE TEARDROP-SPOKED ASTERISK,
     0HEAVY TEARDROP-SPOKED ASTERISK,0SIX PETALLEDebyFLORETTE,0eFLORETTE,0yFLORETTE,
     0EIGHT PETALLED OUTLINEDeFLORETTE,0CIRCLED OPEN CENTRE EIGHT POINTED STAR,
     0HEAVY TEARDROP-SPOKED PINWHEEL ASTERISK,0SNOWFLAKE,0TIGHT TRIFOLIATE SNOWFLAKE,
     0HEAVY CHEVRON SNOWFLAKE,0SPARKLE,0HEAVY SPARKLE,0BALLOON-SPOKED ASTERISK,
     0EIGHT TEARDROP-SPOKED PROPELLER ASTERISK,0HEAVY EIGHT TEARDROP-SPOKED PROPELLER ASTERISK,
     0CROSS MARK,0SHADOWEDyCIRCLE,0NEGATIVE SQUARED CROSS MARK,0LOWERpDROP-SHADOWEDySQUARE,
     0UPPERpDROP-SHADOWEDySQUARE,0LOWERpSHADOWEDySQUARE,0UPPERpSHADOWEDySQUARE,
     0eQUESTION MARK ORNAMENT,0yQUESTION MARK ORNAMENT,1EXCLAMATION MARK ORNAMENT,0eDIAMOND MINUSyX,
     0HEAVY EXCLAMATION MARKu,0LIGHTxBAR,0MEDIUMxBAR,0HEAVYxBAR,
     1SINGLE TURNED COMMA QUOTATION MARK ORNAMENT,2COMMA QUOTATION MARK ORNAMENT,
     1gTURNED COMMA QUOTATION MARK ORNAMENT,2COMMA QUOTATION MARK ORNAMENT,
     1LOW SINGLE COMMA QUOTATION MARK ORNAMENT,2gCOMMA QUOTATION MARK ORNAMENT,
     0CURVED STEM PARAGRAPHrORNAMENT,0HEAVY EXCLAMATION MARK ORNAMENT,
     1HEART EXCLAMATION MARK ORNAMENT,1eHEART,0ROTATED HEAVYeHEART BULLET,0FLORAL HEART,
     0ROTATED FLORAL HEART BULLET,0MEDIUMmPARENTHESIS ORNAMENT,1pPARENTHESIS ORNAMENT,
     1FLATTENEDmPARENTHESIS ORNAMENT,2pPARENTHESIS ORNAMENT,1LEFT-POINTING ANGLE BRACKET ORNAMENT,
     1RIGHT-POINTING ANGLE BRACKET ORNAMENT,0HEAVY LEFT-POINTING ANGLE QUOTATION MARK ORNAMENT,
     1RIGHT-POINTING ANGLE QUOTATION MARK ORNAMENT,1LEFT-POINTING ANGLE BRACKET ORNAMENT,
     1RIGHT-POINTING ANGLE BRACKET ORNAMENT,0LIGHTmTORTOISE SHELL BRACKET ORNAMENT,
     1pTORTOISE SHELL BRACKET ORNAMENT,0MEDIUMmCURLY BRACKET ORNAMENT,1pCURLY BRACKET ORNAMENT,
     0DINGBAT NEGATIVE CIRCLED DIGIT ONE,4TWO,4v,4FOUR,4FIVE,4SIX,4SEVEN,4EIGHT,4NINE,3NUMBER TEN,
     1CIRCLED SANS-SERIF DIGIT ONE,4TWO,4v,4FOUR,4FIVE,4SIX,4SEVEN,4EIGHT,4NINE,3NUMBER TEN,
     1NEGATIVE CIRCLED SANS-SERIF DIGIT ONE,5TWO,5v,5FOUR,5FIVE,5SIX,5SEVEN,5EIGHT,5NINE,
     4NUMBER TEN,0HEAVY WIDE-HEADEDqc,1PLUSr,1MINUSr,1DIVISIONr,1SOUTH EASTc,1qc,1NORTH EASTc,
     0DRAFTING POINTqc,0HEAVY ROUND-TIPPEDqc,0wqc,0HEAVYwqc,0DASHEDwqc,0HEAVY DASHEDwqc,0eqc,
     0THREE-D TOP-LIGHTEDqARROWHEAD,1BOTTOM-LIGHTEDqARROWHEAD,0eqARROWHEAD,
     0HEAVYeCURVED DOWNWARDSbqc,3UPWARDSbqc,0SQUATeqc,0HEAVY CONCAVE-POINTEDeqc,0RIGHT-SHADEDyqc,
     0LEFT-SHADEDyqc,0BACK-TILTED SHADOWEDyqc,0FRONT-TILTED SHADOWEDyqc,
     0HEAVY LOWER RIGHT-SHADOWEDyqc,1UPPER RIGHT-SHADOWEDyqc,0NOTCHED LOWER RIGHT-SHADOWEDyqc,
     0CURLY LOOP,0NOTCHED UPPER RIGHT-SHADOWEDyqc,0CIRCLED HEAVYyqc,0WHITE-FEATHEREDqc,
     0BLACK-FEATHERED SOUTH EASTc,1qc,1NORTH EASTc,0HEAVY BLACK-FEATHERED SOUTH EASTc,2qc,
     2NORTH EASTc,0TEARDROP-BARBEDqc,0HEAVY TEARDROP-SHANKEDqc,0WEDGE-TAILEDqc,
     0HEAVY WEDGE-TAILEDqc,0OPEN-OUTLINEDqc,0gCURLY LOOP,0vDIMENSIONAL ANGLE,
     0yTRIANGLE CONTAININGsyTRIANGLE,0PERPENDICULAR,0OPEN SUBSET,1SUPERSET,0mS-SHAPED BAG DELIMITER,
     0pS-SHAPED BAG DELIMITER,0ORzDOT INSIDE,0REVERSE SOLIDUS PRECEDING SUBSET,
     0SUPERSET PRECEDING SOLIDUS,0xBARzjt,0MATHEMATICAL RISING DIAGONAL,0LONG DIVISION,
     0MATHEMATICAL FALLING DIAGONAL,0SQUARED LOGICALb,2OR,0yDIAMONDzCENTRED DOT,0bzDOT,
     0ELEMENT OF OPENING UPWARDS,0LOWERpCORNERzDOT,0UPPERmCORNERzDOT,0mOUTER JOIN,0pOUTER JOIN,
     0FULL OUTER JOIN,0LARGE UP TACK,1DOWN TACK,0mbpgTURNSTILE,3TACK,1MULTIMAP,0LONGpTACK,1mTACK,
     0UP TACKzCIRCLEa,0LOZENGE DIVIDED BYjRULE,0yCONCAVE-SIDED DIAMOND,3znTICK,4qTICK,1SQUAREznTICK,
     3qTICK,0MATHEMATICALmySQUARE BRACKET,1pySQUARE BRACKET,1mANGLE BRACKET,1pANGLE BRACKET,
     1mgANGLE BRACKET,1pgANGLE BRACKET,1myTORTOISE SHELL BRACKET,1pyTORTOISE SHELL BRACKET,
     1mFLATTENED PARENTHESIS,1pFLATTENED PARENTHESIS,0UPWARDS QUADRUPLEc,0DOWNWARDS QUADRUPLEc,
     0ANTICLOCKWISE GAPPED CIRCLEc,0CLOCKWISE GAPPED CIRCLEc,0pczCIRCLED PLUS,0LONGnc,1qc,1mpc,1ngc,
     1qgc,1mpgc,1ncFROM BAR,1qcFROM BAR,1ngcFROM BAR,1qgcFROM BAR,2SQUIGGLEc,0BRAILLE PATTERN BLANK,
     2DOTS-1,2DOTS-2,2DOTS-12,2DOTS-3,2DOTS-13,2DOTS-23,2DOTS-123,2DOTS-4,2DOTS-14,2DOTS-24,
     2DOTS-124,2DOTS-34,2DOTS-134,2DOTS-234,2DOTS-1234,2DOTS-5,2DOTS-15,2DOTS-25,2DOTS-125,2DOTS-35,
     2DOTS-135,2DOTS-235,2DOTS-1235,2DOTS-45,2DOTS-145,2DOTS-245,2DOTS-1245,2DOTS-345,2DOTS-1345,
     2DOTS-2345,2DOTS-12345,2DOTS-6,2DOTS-16,2DOTS-26,2DOTS-126,2DOTS-36,2DOTS-136,2DOTS-236,
     2DOTS-1236,2DOTS-46,2DOTS-146,2DOTS-246,2DOTS-1246,2DOTS-346,2DOTS-1346,2DOTS-2346,2DOTS-12346,
     2DOTS-56,2DOTS-156,2DOTS-256,2DOTS-1256,2DOTS-356,2DOTS-1356,2DOTS-2356,2DOTS-12356,2DOTS-456,
     2DOTS-1456,2DOTS-2456,2DOTS-12456,2DOTS-3456,2DOTS-13456,2DOTS-23456,2DOTS-123456,2DOTS-7,
     2DOTS-17,2DOTS-27,2DOTS-127,2DOTS-37,2DOTS-137,2DOTS-237,2DOTS-1237,2DOTS-47,2DOTS-147,
     2DOTS-247,2DOTS-1247,2DOTS-347,2DOTS-1347,2DOTS-2347,2DOTS-12347,2DOTS-57,2DOTS-157,2DOTS-257,
     2DOTS-1257,2DOTS-357,2DOTS-1357,2DOTS-2357,2DOTS-12357,2DOTS-457,2DOTS-1457,2DOTS-2457,
     2DOTS-12457,2DOTS-3457,2DOTS-13457,2DOTS-23457,2DOTS-123457,2DOTS-67,2DOTS-167,2DOTS-267,
     2DOTS-1267,2DOTS-367,2DOTS-1367,2DOTS-2367,2DOTS-12367,2DOTS-467,2DOTS-1467,2DOTS-2467,
     2DOTS-12467,2DOTS-3467,2DOTS-13467,2DOTS-23467,2DOTS-123467,2DOTS-567,2DOTS-1567,2DOTS-2567,
     2DOTS-12567,2DOTS-3567,2DOTS-13567,2DOTS-23567,2DOTS-123567,2DOTS-4567,2DOTS-14567,2DOTS-24567,
     2DOTS-124567,2DOTS-34567,2DOTS-134567,2DOTS-234567,2DOTS-1234567,2DOTS-8,2DOTS-18,2DOTS-28,
     2DOTS-128,2DOTS-38,2DOTS-138,2DOTS-238,2DOTS-1238,2DOTS-48,2DOTS-148,2DOTS-248,2DOTS-1248,
     2DOTS-348,2DOTS-1348,2DOTS-2348,2DOTS-12348,2DOTS-58,2DOTS-158,2DOTS-258,2DOTS-1258,2DOTS-358,
     2DOTS-1358,2DOTS-2358,2DOTS-12358,2DOTS-458,2DOTS-1458,2DOTS-2458,2DOTS-12458,2DOTS-3458,
     2DOTS-13458,2DOTS-23458,2DOTS-123458,2DOTS-68,2DOTS-168,2DOTS-268,2DOTS-1268,2DOTS-368,
     2DOTS-1368,2DOTS-2368,2DOTS-12368,2DOTS-468,2DOTS-1468,2DOTS-2468,2DOTS-12468,2DOTS-3468,
     2DOTS-13468,2DOTS-23468,2DOTS-123468,2DOTS-568,2DOTS-1568,2DOTS-2568,2DOTS-12568,2DOTS-3568,
     2DOTS-13568,2DOTS-23568,2DOTS-123568,2DOTS-4568,2DOTS-14568,2DOTS-24568,2DOTS-124568,
     2DOTS-34568,2DOTS-134568,2DOTS-234568,2DOTS-1234568,2DOTS-78,2DOTS-178,2DOTS-278,2DOTS-1278,
     2DOTS-378,2DOTS-1378,2DOTS-2378,2DOTS-12378,2DOTS-478,2DOTS-1478,2DOTS-2478,2DOTS-12478,
     2DOTS-3478,2DOTS-13478,2DOTS-23478,2DOTS-123478,2DOTS-578,2DOTS-1578,2DOTS-2578,2DOTS-12578,
     2DOTS-3578,2DOTS-13578,2DOTS-23578,2DOTS-123578,2DOTS-4578,2DOTS-14578,2DOTS-24578,
     2DOTS-124578,2DOTS-34578,2DOTS-134578,2DOTS-234578,2DOTS-1234578,2DOTS-678,2DOTS-1678,
     2DOTS-2678,2DOTS-12678,2DOTS-3678,2DOTS-13678,2DOTS-23678,2DOTS-123678,2DOTS-4678,2DOTS-14678,
     2DOTS-24678,2DOTS-124678,2DOTS-34678,2DOTS-134678,2DOTS-234678,2DOTS-1234678,2DOTS-5678,
     2DOTS-15678,2DOTS-25678,2DOTS-125678,2DOTS-35678,2DOTS-135678,2DOTS-235678,2DOTS-1235678,
     2DOTS-45678,2DOTS-145678,2DOTS-245678,2DOTS-1245678,2DOTS-345678,2DOTS-1345678,2DOTS-2345678,
     2DOTS-12345678,0qTWO-HEADEDczxt,4gxt,0ngczxt,0qgczxt,0mpgczxt,0qTWO-HEADEDcFROM BAR,
     0ngcFROM BAR,0qgcFROM BAR,0DOWNWARDSczjt,0UPWARDSczjt,1TRIPLEc,0DOWNWARDS TRIPLEc,0ngDASHc,
     0qgDASHc,0nTRIPLE DASHc,0qTRIPLE DASHc,1TWO-HEADED TRIPLE DASHc,1czDOTTED STEM,0UPWARDScTO BAR,
     0DOWNWARDScTO BAR,0qczTAILzxt,5gxt,1TWO-HEADEDczTAIL,5zxt,6gxt,0nARROW-TAIL,0qARROW-TAIL,
     0ngARROW-TAIL,0qgARROW-TAIL,0ncTOeDIAMOND,0qcTOeDIAMOND,0ncFROM BAR TOeDIAMOND,
     0qcFROM BAR TOeDIAMOND,0NORTH WESTbSOUTH EASTc,1EASTbSOUTH WESTc,1WESTczHOOK,1EASTczHOOK,
     0SOUTH EASTczHOOK,1WESTczHOOK,0NORTH WESTcbNORTH EASTc,1EASTcbSOUTH EASTc,
     0SOUTH EASTcbSOUTH WESTc,1WESTcbNORTH WESTc,0RISING DIAGONAL CROSSING FALLING DIAGONAL,
     0FALLING DIAGONAL CROSSING RISING DIAGONAL,0SOUTH EASTcCROSSING NORTH EASTc,
     0NORTH EASTcCROSSING SOUTH EASTc,0FALLING DIAGONAL CROSSING NORTH EASTc,
     0RISING DIAGONAL CROSSING SOUTH EASTc,0NORTH EASTcCROSSING NORTH WESTc,
     1WESTcCROSSING NORTH EASTc,0WAVEcPOINTING DIRECTLYp,0cPOINTINGqTHEN CURVING UPWARDS,5DOWNWARDS,
     2DOWNWARDS THEN CURVINGn,5q,0RIGHT-SIDE ARC CLOCKWISEc,0LEFT-SIDE ARC ANTICLOCKWISEc,
     0TOP ARC ANTICLOCKWISEc,0BOTTOM ARC ANTICLOCKWISEc,0TOP ARC CLOCKWISEczMINUS,
     2ANTICLOCKWISEczPLUS,0LOWERpSEMICIRCULAR CLOCKWISEc,1mSEMICIRCULAR ANTICLOCKWISEc,
     0ANTICLOCKWISE CLOSED CIRCLEc,0CLOCKWISE CLOSED CIRCLEc,0qcaSHORTnc,0ncaSHORTqc,0SHORTqcanc,
     0qczPLUSd,0nczPLUSd,0qcTHROUGH X,0mpcTHROUGHsCIRCLE,0UPWARDS TWO-HEADEDcFROMsCIRCLE,
     0mBARB UPpBARB DOWN HARPOON,2DOWNpBARB UP HARPOON,0UP BARBpDOWN BARBmHARPOON,
     2mDOWN BARBpHARPOON,0mBARB UPpBARB UP HARPOON,0UP BARBpDOWN BARBpHARPOON,
     0mBARB DOWNpBARB DOWN HARPOON,0UP BARBmDOWN BARBmHARPOON,0nHARPOONzBARB UP TO BAR,
     0qHARPOONzBARB UP TO BAR,0UPWARDS HARPOONzBARBpTO BAR,0DOWNWARDS HARPOONzBARBpTO BAR,
     0nHARPOONzBARB DOWN TO BAR,0qHARPOONzBARB DOWN TO BAR,0UPWARDS HARPOONzBARBmTO BAR,
     0DOWNWARDS HARPOONzBARBmTO BAR,0nHARPOONzBARB UP FROM BAR,0qHARPOONzBARB UP FROM BAR,
     0UPWARDS HARPOONzBARBpFROM BAR,0DOWNWARDS HARPOONzBARBpFROM BAR,0nHARPOONzBARB DOWN FROM BAR,
     0qHARPOONzBARB DOWN FROM BAR,0UPWARDS HARPOONzBARBmFROM BAR,0DOWNWARDS HARPOONzBARBmFROM BAR,
     0nHARPOONzBARB UPanHARPOONzBARB DOWN,0UPWARDS HARPOONzBARBmBESIDE UPWARDS HARPOONzBARBp,
     0qHARPOONzBARB UPaqHARPOONzBARB DOWN,0DOWNWARDS HARPOONzBARBmBESIDE DOWNWARDS HARPOONzBARBp,
     0nHARPOONzBARB UPaqHARPOONzBARB UP,4DOWNaqHARPOONzBARB DOWN,0qHARPOONzBARB UPanHARPOONzBARB UP,
     4DOWNanHARPOONzBARB DOWN,0nHARPOONzBARB UPaLONG DASH,4DOWNdLONG DASH,
     0qHARPOONzBARB UPaLONG DASH,4DOWNdLONG DASH,
     0UPWARDS HARPOONzBARBmBESIDE DOWNWARDS HARPOONzBARBp,
     0DOWNWARDS HARPOONzBARBmBESIDE UPWARDS HARPOONzBARBp,0pgczROUNDED HEAD,0EQUALSraqc,
     0TILDE OPERATORaqc,0ncaTILDE OPERATOR,0qcaTILDE OPERATOR,3ALMOST EQUAL TO,0LESS-THANanc,
     0ncTHROUGH LESS-THAN,0GREATER-THANaqc,0SUBSETaqc,0ncTHROUGH SUBSET,0SUPERSETanc,0mFISH TAIL,
     0pFISH TAIL,0UP FISH TAIL,0DOWN FISH TAIL,0TRIPLExBAR DELIMITER,0Z NOTATION SPOT,2TYPE COLON,
     0myCURLY BRACKET,0pyCURLY BRACKET,0myPARENTHESIS,0pyPARENTHESIS,0Z NOTATIONmIMAGE BRACKET,
     2pIMAGE BRACKET,2mBINDING BRACKET,2pBINDING BRACKET,0mSQUARE BRACKETzUNDERBAR,
     0pSQUARE BRACKETzUNDERBAR,0mSQUARE BRACKETzTICK IN TOP CORNER,
     0pSQUARE BRACKETzTICK IN BOTTOM CORNER,0mSQUARE BRACKETzTICK IN BOTTOM CORNER,
     0pSQUARE BRACKETzTICK IN TOP CORNER,0mANGLE BRACKETzDOT,0pANGLE BRACKETzDOT,
     0mARC LESS-THAN BRACKET,0pARC GREATER-THAN BRACKET,0gmARC GREATER-THAN BRACKET,
     1pARC LESS-THAN BRACKET,0meTORTOISE SHELL BRACKET,0peTORTOISE SHELL BRACKET,0DOTTED FENCE,
     0xZIGZAG LINE,0MEASURED ANGLE OPENINGm,0pANGLE VARIANTzSQUARE,0MEASUREDpANGLEzDOT,
     0ANGLEzS INSIDE,0ACUTE ANGLE,0SPHERICAL ANGLE OPENINGm,3UP,0TURNED ANGLE,0REVERSED ANGLE,
     0ANGLEzUNDERBAR,0REVERSED ANGLEzUNDERBAR,0OBLIQUE ANGLE OPENING UP,3DOWN,
     0MEASURED ANGLEzOPEN ARM ENDING INcPOINTING UPbp,;m,9DOWNbp,;m,9pbUP,9mbUP,9pbDOWN,9mbDOWN,
     0REVERSED EMPTY SET,0EMPTY SETzOVERBAR,3sCIRCLEa,3pca,3mca,0CIRCLEzjBAR,0CIRCLEDxBAR,1PARALLEL,
     1REVERSE SOLIDUS,1PERPENDICULAR,0CIRCLE DIVIDED BYjBARbTOP HALF DIVIDED BYxBAR,
     1zSUPERIMPOSED X,0CIRCLED ANTICLOCKWISE-ROTATED DIVISIONr,0UPcTHROUGH CIRCLE,0CIRCLEDyBULLET,
     1BULLET,1LESS-THAN,1GREATER-THAN,0CIRCLEzsCIRCLE TO THEp,2TWOjSTROKES TO THEp,
     0SQUARED RISING DIAGONAL SLASH,1FALLING DIAGONAL SLASH,1ASTERISK,1sCIRCLE,1SQUARE,
     0TWO JOINED SQUARES,0TRIANGLEzDOTa,2UNDERBAR,0S IN TRIANGLE,0TRIANGLEzSERIFS AT BOTTOM,
     0pTRIANGLEamTRIANGLE,0mTRIANGLE BESIDExBAR,0xBAR BESIDEpTRIANGLE,0BOWTIEzmHALFe,2pHALFe,
     0eBOWTIE,0TIMESzmHALFe,2pHALFe,0yHOURGLASS,0eHOURGLASS,0mWIGGLY FENCE,0pWIGGLY FENCE,
     0mgWIGGLY FENCE,0pgWIGGLY FENCE,0INCOMPLETE INFINITY,0TIE OVER INFINITY,0INFINITY NEGATEDzxBAR,
     0DOUBLE-ENDED MULTIMAP,0SQUAREzCONTOURED OUTLINE,0INCREASES AS,0SHUFFLE PRODUCT,
     0EQUALSrbSLANTED PARALLEL,5zTILDEa,0IDENTICAL TObSLANTED PARALLEL,0GLEICH STARK,0THERMODYNAMIC,
     0DOWN-POINTING TRIANGLEzmHALFe,3pHALFe,0eDIAMONDzDOWNc,1LOZENGE,0yCIRCLEzDOWNc,0eCIRCLEzDOWNc,
     0ERROR-BARREDySQUARE,1eSQUARE,1yDIAMOND,1eDIAMOND,1yCIRCLE,1eCIRCLE,0RULE-DELAYED,
     0REVERSE SOLIDUS OPERATOR,0SOLIDUSzOVERBAR,0REVERSE SOLIDUSzjt,0BIG SOLIDUS,1REVERSE SOLIDUS,
     0gPLUS,0TRIPLE PLUS,0LEFT-POINTING CURVED ANGLE BRACKET,0RIGHT-POINTING CURVED ANGLE BRACKET,
     0TINY,0MINY,0N-ARY CIRCLED DOT OPERATOR,2PLUS OPERATOR,2TIMES OPERATOR,1UNION OPERATORzDOT,
     4PLUS,1SQUARE INTERSECTION OPERATOR,2UNION OPERATOR,0TWO LOGICALbOPERATOR,2OR OPERATOR,
     0N-ARY TIMES OPERATOR,0MODULO TWO SUM,0SUMMATIONzINTEGRAL,0QUADRUPLE INTEGRAL OPERATOR,
     0FINITE PART INTEGRAL,0INTEGRALzgt,1AVERAGEzSLASH,0CIRCULATION FUNCTION,
     0ANTICLOCKWISE INTEGRATION,0LINE INTEGRATIONzRECTANGULAR PATH AROUND POLE,
     3SEMICIRCULAR PATH AROUND POLE,2NOT INCLUDING THE POLE,0INTEGRAL AROUND A POINT OPERATOR,
     0QUATERNION INTEGRAL OPERATOR,0INTEGRALznczHOOK,2TIMESr,2INTERSECTION,2UNION,2OVERBAR,
     2UNDERBAR,0JOIN,0LARGEmTRIANGLE OPERATOR,0Z NOTATION SCHEMA COMPOSITION,3PIPING,3PROJECTION,
     0PLUSrzsCIRCLEa,3CIRCUMFLEX ACCENTa,3TILDEa,3DOTd,3TILDEd,3SUBSCRIPT TWO,3eTRIANGLE,
     0MINUSrzCOMMAa,3DOTd,3FALLING DOTS,3RISING DOTS,0PLUSrINmHALF CIRCLE,3pHALF CIRCLE,
     0VECTOR OR CROSS PRODUCT,0MULTIPLICATIONrzDOTa,3UNDERBAR,0SEMIDIRECT PRODUCTzBOTTOM CLOSED,
     0SMASH PRODUCT,0MULTIPLICATIONrINmHALF CIRCLE,3pHALF CIRCLE,
     0CIRCLED MULTIPLICATIONrzCIRCUMFLEX ACCENT,0MULTIPLICATIONrINgCIRCLE,0CIRCLED DIVISIONr,
     0PLUSrIN TRIANGLE,0MINUSrIN TRIANGLE,0MULTIPLICATIONrIN TRIANGLE,0INTERIOR PRODUCT,
     0RIGHTHAND INTERIOR PRODUCT,0Z NOTATION RELATIONAL COMPOSITION,0AMALGAMATION OR COPRODUCT,
     0INTERSECTIONzDOT,0UNIONzMINUSr,2OVERBAR,0INTERSECTIONzOVERBAR,2LOGICALb,0UNIONzLOGICAL OR,
     1aINTERSECTION,0INTERSECTIONaUNION,0UNIONaBARaINTERSECTION,0INTERSECTIONaBARaUNION,
     0UNION BESIDEbJOINEDzUNION,0INTERSECTION BESIDEbJOINEDzINTERSECTION,0CLOSED UNIONzSERIFS,
     1INTERSECTIONzSERIFS,0gSQUARE INTERSECTION,2UNION,0CLOSED UNIONzSERIFSbSMASH PRODUCT,
     0LOGICALbzDOTa,1ORzDOTa,0gLOGICALb,2OR,0TWO INTERSECTING LOGICALb,3OR,0SLOPING LARGE OR,2b,
     0LOGICAL OR OVERLAPPING LOGICALb,1bzMIDDLE STEM,1ORzMIDDLE STEM,1bzjDASH,1ORzjDASH,1bzgOVERBAR,
     3UNDERBAR,3gUNDERBAR,0sVEEzUNDERBAR,0LOGICAL ORzgOVERBAR,4UNDERBAR,
     0Z NOTATION DOMAIN ANTIRESTRICTION,2RANGE ANTIRESTRICTION,0EQUALSrzDOTd,0IDENTICALzDOTa,
     0TRIPLEjBARzgxt,4TRIPLExt,0TILDE OPERATORzDOTa,3RISING DOTS,0SIMILAR MINUS SIMILAR,
     0CONGRUENTzDOTa,0EQUALSzASTERISK,0ALMOST EQUAL TOzCIRCUMFLEX ACCENT,
     0APPROXIMATELY EQUAL OR EQUAL TO,0EQUALSraPLUSr,0PLUSraEQUALSr,0EQUALSraTILDE OPERATOR,
     0gCOLON EQUAL,0TWO CONSECUTIVE EQUALS SIGNS,0vCONSECUTIVE EQUALS SIGNS,
     0EQUALSrzTWO DOTSabTWO DOTSd,0EQUIVALENTzFOUR DOTSa,0LESS-THANzCIRCLE INSIDE,
     0GREATER-THANzCIRCLE INSIDE,0LESS-THANzQUESTION MARKa,0GREATER-THANzQUESTION MARKa,
     0LESS-THAN OR SLANTED EQUAL TO,0GREATER-THAN OR SLANTED EQUAL TO,
     0LESS-THAN OR SLANTED EQUAL TOzDOT INSIDE,0GREATER-THAN OR SLANTED EQUAL TOzDOT INSIDE,
     0LESS-THAN OR SLANTED EQUAL TOzDOTa,0GREATER-THAN OR SLANTED EQUAL TOzDOTa,
     0LESS-THAN OR SLANTED EQUAL TOzDOTap,0GREATER-THAN OR SLANTED EQUAL TOzDOTam,
     0LESS-THAN OR APPROXIMATE,0GREATER-THAN OR APPROXIMATE,0LESS-THANbSINGLE-LINE NOT EQUAL TO,
     0GREATER-THANbSINGLE-LINE NOT EQUAL TO,0LESS-THANbNOT APPROXIMATE,
     0GREATER-THANbNOT APPROXIMATE,0LESS-THANaDOUBLE-LINE EQUALaGREATER-THAN,
     0GREATER-THANaDOUBLE-LINE EQUALaLESS-THAN,0LESS-THANaSIMILAR OR EQUAL,
     0GREATER-THANaSIMILAR OR EQUAL,0LESS-THANaSIMILARaGREATER-THAN,0GREATER-THANaSIMILARaLESS-THAN,
     0LESS-THANaGREATER-THANaDOUBLE-LINE EQUAL,0GREATER-THANaLESS-THANaDOUBLE-LINE EQUAL,
     0LESS-THANaSLANTED EQUALaGREATER-THANaSLANTED EQUAL,
     0GREATER-THANaSLANTED EQUALaLESS-THANaSLANTED EQUAL,0SLANTED EQUAL TO OR LESS-THAN,
     4GREATER-THAN,4LESS-THANzDOT INSIDE,4GREATER-THANzDOT INSIDE,
     0DOUBLE-LINE EQUAL TO OR LESS-THAN,4GREATER-THAN,1SLANTED EQUAL TO OR LESS-THAN,5GREATER-THAN,
     0SIMILAR OR LESS-THAN,2GREATER-THAN,1aLESS-THANaEQUALSr,2GREATER-THANaEQUALSr,
     0gNESTED LESS-THAN,2GREATER-THAN,2LESS-THANzUNDERBAR,0GREATER-THAN OVERLAPPING LESS-THAN,
     1BESIDE LESS-THAN,0LESS-THAN CLOSED BY CURVE,0GREATER-THAN CLOSED BY CURVE,
     0LESS-THAN CLOSED BY CURVEaSLANTED EQUAL,0GREATER-THAN CLOSED BY CURVEaSLANTED EQUAL,
     0SMALLER THAN,0LARGER THAN,0SMALLER THAN OR EQUAL TO,0LARGER THAN OR EQUAL TO,0EQUALSrzBUMPYa,
     0PRECEDESaSINGLE-LINE EQUALSr,0SUCCEEDSaSINGLE-LINE EQUALSr,0PRECEDESaSINGLE-LINE NOT EQUAL TO,
     0SUCCEEDSaSINGLE-LINE NOT EQUAL TO,0PRECEDESaEQUALSr,0SUCCEEDSaEQUALSr,0PRECEDESaNOT EQUAL TO,
     0SUCCEEDSaNOT EQUAL TO,0PRECEDESaALMOST EQUAL TO,0SUCCEEDSaALMOST EQUAL TO,
     0PRECEDESaNOT ALMOST EQUAL TO,0SUCCEEDSaNOT ALMOST EQUAL TO,0gPRECEDES,1SUCCEEDS,0SUBSETzDOT,
     0SUPERSETzDOT,0SUBSETzPLUSrd,0SUPERSETzPLUSrd,0SUBSETzMULTIPLICATIONrd,
     0SUPERSETzMULTIPLICATIONrd,0SUBSET OF OR EQUAL TOzDOTa,0SUPERSET OF OR EQUAL TOzDOTa,
     0SUBSET OFaEQUALSr,0SUPERSET OFaEQUALSr,0SUBSET OFaTILDE OPERATOR,0SUPERSET OFaTILDE OPERATOR,
     0SUBSET OFaALMOST EQUAL TO,0SUPERSET OFaALMOST EQUAL TO,0SUBSET OFaNOT EQUAL TO,
     0SUPERSET OFaNOT EQUAL TO,0SQUAREmOPEN BOX OPERATOR,1pOPEN BOX OPERATOR,0CLOSED SUBSET,
     1SUPERSET,1SUBSET OR EQUAL TO,1SUPERSET OR EQUAL TO,0SUBSETaSUPERSET,0SUPERSETaSUBSET,
     0SUBSETaSUBSET,0SUPERSETaSUPERSET,1BESIDE SUBSET,2bJOINED BY DASHzSUBSET,
     0ELEMENT OF OPENING DOWNWARDS,0PITCHFORKzTEE TOP,0TRANSVERSAL INTERSECTION,0FORKING,
     0NONFORKING,0SHORTmTACK,1DOWN TACK,1UP TACK,0PERPENDICULARzS,0xBAR TRIPLEpTURNSTILE,
     0gxBARmTURNSTILE,0xBARgmTURNSTILE,0gxBARgmTURNSTILE,0LONG DASH FROMmMEMBER OFgx,
     0SHORT DOWN TACKzOVERBAR,1UP TACKzUNDERBAR,3aSHORT DOWN TACK,0gDOWN TACK,1UP TACK,1tNOTr,
     0REVERSEDgtNOTr,0DOES NOT DIVIDEzREVERSED NEGATION SLASH,0xLINEzCIRCLEa,4d,0DOWN TACKzCIRCLEd,
     0PARALLELzjt,2TILDE OPERATOR,0TRIPLExBAR BINARY RELATION,3zjt,1COLON OPERATOR,
     1NESTED LESS-THAN,2GREATER-THAN,0DOUBLE-LINE SLANTED LESS-THAN OR EQUAL TO,
     2GREATER-THAN OR EQUAL TO,0TRIPLE SOLIDUS BINARY RELATION,0LARGE TRIPLExBAR OPERATOR,
     0gSOLIDUS OPERATOR,0yxBAR,0N-ARYyxBAR,0NORTH EASTyc,1WESTyc,0SOUTH EASTyc,1WESTyc,0mpyc,0nec,
     0UPWARDSec,0DOWNWARDSec,0NORTH EASTec,1WESTec,0SOUTH EASTec,1WESTec,0mpec,0UP DOWNec,
     0qczTIP DOWNWARDS,4UPWARDS,0nczTIP DOWNWARDS,4UPWARDS,0SQUAREzTOP HALFe,2BOTTOM HALFe,
     2UPPERpDIAGONAL HALFe,2LOWERmDIAGONAL HALFe,0DIAMONDzmHALFe,2pHALFe,2TOP HALFe,2BOTTOM HALFe,
     0DOTTED SQUARE,0eLARGE SQUARE,0yLARGE SQUARE,0eVERYsSQUARE,0yVERYsSQUARE,0ePENTAGON,0yPENTAGON,
     1HEXAGON,0eHEXAGON,0jeHEXAGON,0eLARGE CIRCLE,1MEDIUM DIAMOND,0yMEDIUM DIAMOND,0eMEDIUM LOZENGE,
     0yMEDIUM LOZENGE,0esDIAMOND,2LOZENGE,0ysLOZENGE,0ejELLIPSE,0yjELLIPSE,0exELLIPSE,0yxELLIPSE,
     0mczsCIRCLE,0vnARROWS,0mczCIRCLED PLUS,0LONGnSQUIGGLEc,0nTWO-HEADEDczxt,4gxt,3FROM BAR,
     2TRIPLE DASHc,1czDOTTED STEM,3TAILzxt,5gxt,1TWO-HEADEDczTAIL,5zxt,6gxt,1cTHROUGH X,
     0WAVEcPOINTING DIRECTLYm,0EQUALSranc,0REVERSE TILDE OPERATORanc,0ncaREVERSE ALMOST EQUAL TO,
     0qcTHROUGH GREATER-THAN,3SUPERSET,0nQUADRUPLEc,0qQUADRUPLEc,0REVERSE TILDE OPERATORaqc,
     0qcaREVERSE ALMOST EQUAL TO,0TILDE OPERATORanc,0ncaALMOST EQUAL TO,3REVERSE TILDE OPERATOR,
     0qcaREVERSE TILDE OPERATOR,0DOWNWARDSwZIGZAGc,0SHORT SLANTED NORTHc,1BACKSLANTED SOUTHc,
     0yMEDIUM STAR,0esSTAR,0ysSTAR,0eRIGHT-POINTING PENTAGON,0yRIGHT-POINTING PENTAGON,
     0HEAVY LARGE CIRCLE,1OVALzOVAL INSIDE,1CIRCLEzCIRCLE INSIDE,2,1CIRCLED SALTIRE,
     0SLANTED NORTHczHOOKED HEAD,0BACKSLANTED SOUTHczHOOKED TAIL,0SLANTED NORTHczjTAIL,
     0BACKSLANTED SOUTHczjTAIL,0BENTcPOINTING DOWNWARDS THEN NORTH EAST,
     0SHORT BENTcPOINTING DOWNWARDS THEN NORTH EAST,0nwc,0UPWARDSwc,0qwc,0DOWNWARDSwc,0mpwc,
     0UP DOWNwc,0NORTH WESTwc,1EASTwc,0SOUTH EASTwc,1WESTwc,0nwDASHEDc,0UPWARDSwDASHEDc,0qwDASHEDc,
     0DOWNWARDSwDASHEDc,0CLOCKWISEwOPEN CIRCLEc,0ANTICLOCKWISEwOPEN CIRCLEc,0nwcTO BAR,
     0UPWARDSwcTO BAR,0qwcTO BAR,0DOWNWARDSwcTO BAR"),
   (0x2B76, "0NORTH WESTwcTO BAR,1EASTwcTO BAR,0SOUTH EASTwcTO BAR,1WESTwcTO BAR,0nwczgjt,
     0UPWARDSwczgjt,0qwczgjt,0DOWNWARDSwczgjt,0jTAB KEY,0xTAB KEY,0nwcOVERqwc,
     0UPWARDSwcnOF DOWNWARDSwc,0qwcOVERnwc,0DOWNWARDSwcnOF UPWARDSwc,0nwPAIRED ARROWS,
     0UPWARDSwPAIRED ARROWS,0qwPAIRED ARROWS,0DOWNWARDSwPAIRED ARROWS,0neCIRCLEDyc,
     0UPWARDSeCIRCLEDyc,0qeCIRCLEDyc,0DOWNWARDSeCIRCLEDyc,0ANTICLOCKWISEwpU-SHAPEDc,
     2BOTTOM U-SHAPEDc,2mU-SHAPEDc,2TOP U-SHAPEDc,0RETURNm,1p,0NEWLINEm,1p,
     0FOUR CORNER ARROWS CIRCLING ANTICLOCKWISE,0qec"),
   (0x2B97, "0uFOR TYPE A ELECTRONICS,0THREE-D TOP-LIGHTEDnEQUILATERAL ARROWHEAD,
     1RIGHT-LIGHTED UPWARDS EQUILATERAL ARROWHEAD,1TOP-LIGHTEDqEQUILATERAL ARROWHEAD,
     1LEFT-LIGHTED DOWNWARDS EQUILATERAL ARROWHEAD,0enEQUILATERAL ARROWHEAD,
     1UPWARDS EQUILATERAL ARROWHEAD,1qEQUILATERAL ARROWHEAD,1DOWNWARDS EQUILATERAL ARROWHEAD,
     0DOWNWARDSwczLONG TIPn,6q,0UPWARDSwczLONG TIPn,6q,0nwczLONG TIP UPWARDS,0qwczLONG TIP UPWARDS,
     0nwczLONG TIP DOWNWARDS,0qwczLONG TIP DOWNWARDS,0eCURVED DOWNWARDSbnc,4qc,2UPWARDSbnc,4qc,
     2nbUPWARDSc,2qbUPWARDSc,2nbDOWNWARDSc,2qbDOWNWARDSc,0RIBBONcDOWNm,3p,2UPm,3p,2mUP,2pUP,2mDOWN,
     2pDOWN,0UPWARDSycFROM BARzjBAR,0UP ARROWHEAD IN A RECTANGLE BOX,0OVERLAPPINGySQUARES,
     2beSQUARES,1eSQUARES,0BALLOT BOXzLIGHT X,0CIRCLED X,1BOLD X,0eSQUARE CENTRED,1DIAMOND CENTRED,
     0TURNEDePENTAGON,0jeOCTAGON,0eOCTAGON,1MEDIUM UP-POINTING TRIANGLE CENTRED,
     2DOWN-POINTING TRIANGLE CENTRED,2LEFT-POINTING TRIANGLE CENTRED,
     2RIGHT-POINTING TRIANGLE CENTRED,0NEPTUNEiTWO,0TOP HALFeCIRCLE,0BOTTOM HALFeCIRCLE,
     0LIGHT FOUR POINTEDeCUSP,0ROTATED LIGHT FOUR POINTEDeCUSP,0yFOUR POINTED CUSP,
     0ROTATEDyFOUR POINTED CUSP,0SQUARE POSITION INDICATOR,0UNCERTAINTYr,0GROUP MARK,0PLUTOiTWO,2v,
     2FOUR,2FIVE,0TRANSPLUTO,0PROSERPINA,0ASTRAEA,0HYGIEA,0PHOLUS,0NESSUS,0yMOON SELENA,
     0eDIAMOND ON CROSS,0TRUE LIGHT MOON ARTA,0CUPIDO,0HADES,0ZEUS,0KRONOS,0APOLLON,0ADMETOS,
     0VULCANUS,0POSEIDON,0mHALFeSTAR,0pHALFeSTAR,0STARzmHALFe,2pHALFe,
     0nTWO-HEADEDczTRIANGLE ARROWHEADS,0UPWARDS TWO-HEADEDczTRIANGLE ARROWHEADS,
     0qTWO-HEADEDczTRIANGLE ARROWHEADS,0DOWNWARDS TWO-HEADEDczTRIANGLE ARROWHEADS,0ERISiONE,2TWO,
     0SEDNA,0RUSSIAN ASTROLOGICALuVIGINTILE,3NOVILE,3QUINTILE,3BINOVILE,3SENTAGON,3TREDECILE,
     0EQUALSrzINFINITYd,0UNITEDu,0SEPARATEDu,0DOUBLEDu,0PASSEDu,0REVERSEDpANGLE,
     0HELLSCHREIBER PAUSEu,0GLAGOLITICfoAZU,3BUKY,3VEDE,3GLAGOLI,3DOBRO,3YESTU,3ZHIVETE,3DZELO,
     3ZEMLJA,3IZHE,3kIZHE,3I,3DJERVI,3KAKO,3LJUDIJE,3MYSLITE,3NASHI,3ONU,3POKOJI,3RITSI,3SLOVO,
     3TVRIDO,3UKU,3FRITU,3HERU,3OTU,3PE,3SHTA,3TSI,3CHRIVI,3SHA,3YERU,3YERI,3YATI,3SPIDERY HA,3YU,
     3sYUS,5zTAIL,3YO,3IOTATEDsYUS,3BIG YUS,3IOTATED BIG YUS,3FITA,3IZHITSA,3SHTAPIC,3TROKUTASTI A,
     3LATINATE MYSLITE,3CAUDATE CHRIVI,1soAZU,3BUKY,3VEDE,3GLAGOLI,3DOBRO,3YESTU,3ZHIVETE,3DZELO,
     3ZEMLJA,3IZHE,3kIZHE,3I,3DJERVI,3KAKO,3LJUDIJE,3MYSLITE,3NASHI,3ONU,3POKOJI,3RITSI,3SLOVO,
     3TVRIDO,3UKU,3FRITU,3HERU,3OTU,3PE,3SHTA,3TSI,3CHRIVI,3SHA,3YERU,3YERI,3YATI,3SPIDERY HA,3YU,
     3sYUS,5zTAIL,3YO,3IOTATEDsYUS,3BIG YUS,3IOTATED BIG YUS,3FITA,3IZHITSA,3SHTAPIC,3TROKUTASTI A,
     3LATINATE MYSLITE,3CAUDATE CHRIVI,0LATINfoLzgBAR,1soLzgBAR,1foLzMIDDLE TILDE,3Pzt,3RzTAIL,
     1soAzt,3TzDIAGONALt,1foHzDESCENDER,1soHzDESCENDER,1foKzDESCENDER,1soKzDESCENDER,1foZzDESCENDER,
     1soZzDESCENDER,1foALPHA,3MzHOOK,3TURNED A,4ALPHA,1soVzpHOOK,1foWzHOOK,1soWzHOOK,3VzCURL,
     1foHALF H,1soHALF H,3TAILLESS PHI,3EzNOTCH,3TURNED RzTAIL,3OzLOW RING INSIDE,1osfTURNED E,
     1SUBSCRIPTsoJ,0MODIFIERofV,0LATINfoSzSWASH TAIL,3ZzSWASH TAIL,0COPTICfoALFA,1soALFA,1foVIDA,
     1soVIDA,1foGAMMA,1soGAMMA,1foDALDA,1soDALDA,1foEIE,1soEIE,1foSOU,1soSOU,1foZATA,1soZATA,
     1foHATE,1soHATE,1foTHETHE,1soTHETHE,1foIAUDA,1soIAUDA,1foKAPA,1soKAPA,1foLAULA,1soLAULA,1foMI,
     1soMI,1foNI,1soNI,1foKSI,1soKSI,1foO,1soO,1foPI,1soPI,1foRO,1soRO,1foSIMA,1soSIMA,1foTAU,
     1soTAU,1foUA,1soUA,1foFI,1soFI,1foKHI,1soKHI,1foPSI,1soPSI,1foOOU,1soOOU,1foDIALECT-P ALEF,
     1soDIALECT-P ALEF,1foOLD COPTIC AIN,1soOLD COPTIC AIN,1foCRYPTOGRAMMIC EIE,
     1soCRYPTOGRAMMIC EIE,1foDIALECT-P KAPA,1soDIALECT-P KAPA,1foDIALECT-P NI,1soDIALECT-P NI,
     1foCRYPTOGRAMMIC NI,1soCRYPTOGRAMMIC NI,1foOLD COPTIC OOU,1soOLD COPTIC OOU,1foSAMPI,1soSAMPI,
     1foCROSSED SHEI,1soCROSSED SHEI,1foOLD COPTIC SHEI,1soOLD COPTIC SHEI,1foOLD COPTIC ESH,
     1soOLD COPTIC ESH,1foAKHMIMIC KHEI,1soAKHMIMIC KHEI,1foDIALECT-P HORI,1soDIALECT-P HORI,
     1foOLD COPTIC HORI,1soOLD COPTIC HORI,1foOLD COPTIC HA,1soOLD COPTIC HA,1foL-SHAPED HA,
     1soL-SHAPED HA,1foOLD COPTIC HEI,1soOLD COPTIC HEI,1foOLD COPTIC HAT,1soOLD COPTIC HAT,
     1foOLD COPTIC GANGIA,1soOLD COPTIC GANGIA,1foOLD COPTIC DJA,1soOLD COPTIC DJA,
     1foOLD COPTIC SHIMA,1soOLD COPTIC SHIMA,1foOLD NUBIAN SHIMA,1soOLD NUBIAN SHIMA,
     1foOLD NUBIAN NGI,1soOLD NUBIAN NGI,1foOLD NUBIAN NYI,1soOLD NUBIAN NYI,1foOLD NUBIAN WAU,
     1soOLD NUBIAN WAU,1uKAI,2MI RO,2PI RO,2STAUROS,2TAU RO,2KHI RO,2SHIMA SIMA,
     1foCRYPTOGRAMMIC SHEI,1soCRYPTOGRAMMIC SHEI,1foCRYPTOGRAMMIC GANGIA,1soCRYPTOGRAMMIC GANGIA,
     1COMBINING NIa,2SPIRITUS ASPER,3LENIS,1foBOHAIRIC KHEI,1soBOHAIRIC KHEI"),
   (0x2CF9, "1OLD NUBIAN FULL STOP,3DIRECT QUESTION MARK,3INDIRECT QUESTION MARK,3VERSE DIVIDER,
     1FRACTION ONE HALF,1FULL STOP,1MORPHOLOGICAL DIVIDER,0GEORGIANsoAN,3BAN,3GAN,3DON,3EN,3VIN,
     3ZEN,3TAN,3IN,3KAN,3LAS,3MAN,3NAR,3ON,3PAR,3ZHAR,3RAE,3SAN,3TAR,3UN,3PHAR,3KHAR,3GHAN,3QAR,
     3SHIN,3CHIN,3CAN,3JIL,3CIL,3CHAR,3XAN,3JHAN,3HAE,3HE,3HIE,3WE,3HAR,3HOE"),
   (0x2D27, "3YN"), (0x2D2D, "3AEN"),
   (0x2D30, "0TIFINAGHoYA,2YAB,2YABH,2YAG,2YAGHH,2BERBER ACADEMY YAJ,2YAJ,2YAD,2YADH,2YADD,2YADDH,
     2YEY,2YAF,2YAK,2TUAREG YAK,2YAKHH,2YAH,2BERBER ACADEMY YAH,2TUAREG YAH,2YAHH,2YAA,2YAKH,
     2TUAREG YAKH,2YAQ,2TUAREG YAQ,2YI,2YAZH,2AHAGGAR YAZH,2TUAREG YAZH,2YAL,2YAM,2YAN,2TUAREG YAGN,
     3YANG,2YAP,2YU,2YAR,2YARR,2YAGH,2TUAREG YAGH,2AYER YAGH,2YAS,2YASS,2YASH,2YAT,2YATH,2YACH,
     2YATT,2YAV,2YAW,2YAY,2YAZ,2TAWELLEMET YAZ,2YAZZ,2YE,2YO"),
   (0x2D6F, "1MODIFIERoLABIALIZATION MARK,1SEPARATOR MARK"),
   (0x2D7F, "1CONSONANT JOINER,0ETHIOPIC SYLLABLE LOA,2MOA,2ROA,2SOA,2SHOA,2BOA,2TOA,2COA,2NOA,
     2NYOA,2GLOTTAL OA,2ZOA,2DOA,2DDOA,2JOA,2THOA,2CHOA,2PHOA,2POA,2GGWA,2GGWI,2GGWEE,2GGWE"),
   (0x2DA0, "2SSA,2SSU,2SSI,2SSAA,2SSEE,2SSE,2SSO"),
   (0x2DA8, "2CCA,2CCU,2CCI,2CCAA,2CCEE,2CCE,2CCO"),
   (0x2DB0, "2ZZA,2ZZU,2ZZI,2ZZAA,2ZZEE,2ZZE,2ZZO"),
   (0x2DB8, "2CCHA,2CCHU,2CCHI,2CCHAA,2CCHEE,2CCHE,2CCHO"),
   (0x2DC0, "2QYA,2QYU,2QYI,2QYAA,2QYEE,2QYE,2QYO"),
   (0x2DC8, "2KYA,2KYU,2KYI,2KYAA,2KYEE,2KYE,2KYO"),
   (0x2DD0, "2XYA,2XYU,2XYI,2XYAA,2XYEE,2XYE,2XYO"),
   (0x2DD8, "2GYA,2GYU,2GYI,2GYAA,2GYEE,2GYE,2GYO"),
   (0x2DE0, "0COMBINING CYRILLICoBE,3VE,3GHE,3DE,3ZHE,3ZE,3KA,3EL,3EM,3EN,3O,3PE,3ER,3ES,3TE,3HA,
     3TSE,3CHE,3SHA,3SHCHA,3FITA,3ES-TE,3A,3IE,3DJERV,3MONOGRAPH UK,3YAT,3YU,3IOTIFIED A,
     3LITTLE YUS,3BIG YUS,3IOTIFIED BIG YUS,0pANGLE SUBSTITUTION MARKER,2DOTTED SUBSTITUTION MARKER,
     0mSUBSTITUTION BRACKET,0pSUBSTITUTION BRACKET,0mDOTTED SUBSTITUTION BRACKET,
     0pDOTTED SUBSTITUTION BRACKET,0RAISED INTERPOLATION MARKER,1DOTTED INTERPOLATION MARKER,
     0DOTTED TRANSPOSITION MARKER,0mTRANSPOSITION BRACKET,0pTRANSPOSITION BRACKET,0RAISED SQUARE,
     0mRAISED OMISSION BRACKET,0pRAISED OMISSION BRACKET,0EDITORIAL CORONIS,0PARAGRAPHOS,
     0FORKED PARAGRAPHOS,0REVERSED FORKED PARAGRAPHOS,0HYPODIASTOLE,0DOTTED OBELOS,
     0DOWNWARDS ANCORA,0UPWARDS ANCORA,0DOTTED RIGHT-POINTING ANGLE,0gOBLIQUE HYPHEN,
     0INVERTED INTERROBANG,0PALM BRANCH,0HYPHENzDIAERESIS,0TILDEzRINGa,0mLOW PARAPHRASE BRACKET,
     0pLOW PARAPHRASE BRACKET,0TILDEzDOTa,3d,0mxBARzQUILL,0pxBARzQUILL,0TOPmHALF BRACKET,
     1pHALF BRACKET,0BOTTOMmHALF BRACKET,1pHALF BRACKET,0mSIDEWAYS U BRACKET,0pSIDEWAYS U BRACKET,
     0mgPARENTHESIS,0pgPARENTHESIS,0TWO DOTS OVER ONE DOT PUNCTUATION,
     0ONE DOT OVER TWO DOTS PUNCTUATION,0SQUARED FOUR DOT PUNCTUATION,0FIVE DOT MARK,
     0REVERSED QUESTION MARK,0xTILDE,0RING POINT,0WORD SEPARATOR MIDDLE DOT,0TURNED COMMA,
     0RAISED DOT,1COMMA,0TURNED SEMICOLON,0DAGGERzmGUARD,2pGUARD,0TURNED DAGGER,0TOP HALF SECTIONr,
     0TWO-EM DASH,0THREE-EM DASH,0STENOGRAPHIC FULL STOP,0xSIX DOTS,0WIGGLYxLINE,0CAPITULUM,
     0gHYPHEN,0REVERSED COMMA,0gLOW-REVERSED-9 QUOTATION MARK,0DASHzmUPTURN,0gSUSPENSION MARK,
     0INVERTED LOW KAVYKA,3zKAVYKAa,0LOW KAVYKA,2zDOT,0gSTACKED COMMA,0DOTTED SOLIDUS,
     0TRIPLE DAGGER,0MEDIEVAL COMMA,0PARAGRAPHUS MARK,0PUNCTUS ELEVATUS MARK,0CORNISH VERSE DIVIDER,
     0CROSS PATTYzpCROSSBAR,3mCROSSBAR,0TIRONIANrfET,0MEDIEVAL EXCLAMATION MARK,1QUESTION MARK,
     0mSQUARE BRACKETzt,0pSQUARE BRACKETzt,0mSQUARE BRACKETzgt,0pSQUARE BRACKETzgt,
     0TOP HALFmPARENTHESIS,2pPARENTHESIS,0BOTTOM HALFmPARENTHESIS,2pPARENTHESIS,0OBLIQUE HYPHEN"),
   (0x2E80, "0CJK RADICAL REPEAT,2CLIFF,2SECOND ONE,3TWO,3v,2PERSON,2BOX,2TABLE,2KNIFE ONE,3TWO,
     2DIVINATION,2SEAL,2sONE,3TWO,2LAME ONE,3TWO,3v,3FOUR,2SNAKE,2THREAD,2SNOUT ONE,3TWO,2HEART ONE,
     3TWO,2HAND,2RAP"),
   (0x2E9B, "2CHOKE,2SUN,2MOON,2DEATH,2MOTHER,2CIVILIAN,2WATER ONE,3TWO,2FIRE,2PAW ONE,3TWO,
     2SIMPLIFIED HALF TREE TRUNK,2COW,2DOG,2JADE,2BOLT OF CLOTH,2EYE,2SPIRIT ONE,3TWO,2BAMBOO,2SILK,
     2C-SIMPLIFIED SILK,2NET ONE,3TWO,3v,3FOUR,2MESH,2SHEEP,2RAM,2EWE,2OLD,2BRUSH ONE,3TWO,2MEAT,
     2MORTAR,2GRASS ONE,3TWO,3v,2TIGER,2CLOTHES,2WEST ONE,3TWO,2C-SIMPLIFIED SEE,2SIMPLIFIED HORN,
     2HORN,2C-SIMPLIFIED SPEECH,3SHELL,2FOOT,2C-SIMPLIFIED CART,2SIMPLIFIED WALK,2WALK ONE,3TWO,
     2CITY,2C-SIMPLIFIED GOLD,2LONG ONE,3TWO,2C-SIMPLIFIED LONG,3GATE,2MOUND ONE,3TWO,2RAIN,2BLUE,
     2C-SIMPLIFIED TANNED LEATHER,3LEAF,3WIND,3FLY,2EAT ONE,3TWO,3v,2C-SIMPLIFIED EAT,2HEAD,
     2C-SIMPLIFIED HORSE,2BONE,2GHOST,2C-SIMPLIFIED FISH,3BIRD,3SALT,2SIMPLIFIED WHEAT,3YELLOW,
     2C-SIMPLIFIED FROG,2J-SIMPLIFIED EVEN,2C-SIMPLIFIED EVEN,2J-SIMPLIFIED TOOTH,
     2C-SIMPLIFIED TOOTH,2J-SIMPLIFIED DRAGON,2C-SIMPLIFIED DRAGON,2TURTLE,2J-SIMPLIFIED TURTLE,
     2C-SIMPLIFIED TURTLE"),
   (0x2F00, "0KANGXI RADICAL ONE,2LINE,2DOT,2SLASH,2SECOND,2HOOK,2TWO,2LID,2MAN,2LEGS,2ENTER,2EIGHT,
     2DOWN BOX,2COVER,2ICE,2TABLE,2OPEN BOX,2KNIFE,2POWER,2WRAP,2SPOON,2pOPEN BOX,2HIDING ENCLOSURE,
     2TEN,2DIVINATION,2SEAL,2CLIFF,2PRIVATE,2AGAIN,2MOUTH,2ENCLOSURE,2EARTH,2SCHOLAR,2GO,3SLOWLY,
     2EVENING,2BIG,2WOMAN,2CHILD,2ROOF,2INCH,2s,2LAME,2CORPSE,2SPROUT,2MOUNTAIN,2RIVER,2WORK,
     2ONESELF,2TURBAN,2DRY,2SHORT THREAD,2DOTTED CLIFF,2LONG STRIDE,2TWO HANDS,2SHOOT,2BOW,2SNOUT,
     2BRISTLE,2STEP,2HEART,2HALBERD,2DOOR,2HAND,2BRANCH,2RAP,2SCRIPT,2DIPPER,2AXE,2SQUARE,2NOT,2SUN,
     2SAY,2MOON,2TREE,2LACK,2STOP,2DEATH,2WEAPON,2DO NOT,2COMPARE,2FUR,2CLAN,2STEAM,2WATER,2FIRE,
     2CLAW,2FATHER,2gX,2HALF TREE TRUNK,2SLICE,2FANG,2COW,2DOG,2PROFOUND,2JADE,2MELON,2TILE,2SWEET,
     2LIFE,2USE,2FIELD,2BOLT OF CLOTH,2SICKNESS,2DOTTED TENT,2y,2SKIN,2DISH,2EYE,2SPEAR,2c,2STONE,
     2SPIRIT,2TRACK,2GRAIN,2CAVE,2STAND,2BAMBOO,2RICE,2SILK,2JAR,2NET,2SHEEP,2FEATHER,2OLD,2b,2PLOW,
     2EAR,2BRUSH,2MEAT,2MINISTER,2SELF,2ARRIVE,2MORTAR,2TONGUE,2OPPOSE,2BOAT,2STOPPING,2COLOR,
     2GRASS,2TIGER,2INSECT,2BLOOD,2WALK ENCLOSURE,2CLOTHES,2WEST,2SEE,2HORN,2SPEECH,2VALLEY,2BEAN,
     2PIG,2BADGER,2SHELL,2RED,2RUN,2FOOT,2BODY,2CART,2BITTER,2MORNING,2WALK,2CITY,2WINE,
     2DISTINGUISH,2VILLAGE,2GOLD,2LONG,2GATE,2MOUND,2SLAVE,2SHORT TAILED BIRD,2RAIN,2BLUE,2WRONG,
     2FACE,2LEATHER,2TANNED LEATHER,2LEEK,2SOUND,2LEAF,2WIND,2FLY,2EAT,2HEAD,2FRAGRANT,2HORSE,2BONE,
     2TALL,2HAIR,2FIGHT,2SACRIFICIAL WINE,2CAULDRON,2GHOST,2FISH,2BIRD,2SALT,2DEER,2WHEAT,2HEMP,
     2YELLOW,2MILLET,2e,2EMBROIDERY,2FROG,2TRIPOD,2DRUM,2RAT,2NOSE,2EVEN,2TOOTH,2DRAGON,2TURTLE,
     2FLUTE"),
   (0x2FF0, "0IDEOGRAPHIC DESCRIPTION CHARACTERmTOp,3aTOd,3mTO MIDDLEbp,3aTO MIDDLEbd,
     3FULL SURROUND,3SURROUND FROMa,5d,5m,5UPPERm,6p,5LOWERm,3OVERLAID"),
   (0x3000, "1SPACE,1COMMA,1FULL STOP,0DITTO MARK,0JAPANESE INDUSTRIAL STANDARDu,
     0IDEOGRAPHIC ITERATION MARK,1CLOSING MARK,1NUMBER ZERO,0mANGLE BRACKET,0pANGLE BRACKET,
     0mgANGLE BRACKET,0pgANGLE BRACKET,0mCORNER BRACKET,0pCORNER BRACKET,0myCORNER BRACKET,
     0pyCORNER BRACKET,0meLENTICULAR BRACKET,0peLENTICULAR BRACKET,0POSTAL MARK,0GETA MARK,
     0mTORTOISE SHELL BRACKET,0pTORTOISE SHELL BRACKET,0myLENTICULAR BRACKET,0pyLENTICULAR BRACKET,
     0myTORTOISE SHELL BRACKET,0pyTORTOISE SHELL BRACKET,0mySQUARE BRACKET,0pySQUARE BRACKET,
     0WAVE DASH,0REVERSEDgPRIME QUOTATION MARK,0gPRIME QUOTATION MARK,0LOWgPRIME QUOTATION MARK,
     0POSTAL MARK FACE,0HANGZHOU NUMERAL ONE,2TWO,2v,2FOUR,2FIVE,2SIX,2SEVEN,2EIGHT,2NINE,
     0IDEOGRAPHIC LEVEL TONE MARK,1RISING TONE MARK,1DEPARTING TONE MARK,1ENTERING TONE MARK,
     0HANGUL SINGLE DOT TONE MARK,1gDOT TONE MARK,0WAVY DASH,0xKANA REPEAT MARK,3zVOICED SOUND MARK,
     3MARK UPPER HALF,3zVOICED SOUND MARK UPPER HALF,3MARK LOWER HALF,0CIRCLED POSTAL MARK,
     0IDEOGRAPHIC TELEGRAPH LINE FEED SEPARATORu,0HANGZHOU NUMERAL TEN,2TWENTY,2THIRTY,
     0xIDEOGRAPHIC ITERATION MARK,0MASU MARK,0PART ALTERNATION MARK,
     0IDEOGRAPHIC VARIATION INDICATOR,1HALF FILL SPACE"),
   (0x3041, "0HIRAGANAosA,2A,2sI,2I,2sU,2U,2sE,2E,2sO,2O,2KA,2GA,2KI,2GI,2KU,2GU,2KE,2GE,2KO,2GO,
     2SA,2ZA,2SI,2ZI,2SU,2ZU,2SE,2ZE,2SO,2ZO,2TA,2DA,2TI,2DI,2sTU,2TU,2DU,2TE,2DE,2TO,2DO,2NA,2NI,
     2NU,2NE,2NO,2HA,2BA,2PA,2HI,2BI,2PI,2HU,2BU,2PU,2HE,2BE,2PE,2HO,2BO,2PO,2MA,2MI,2MU,2ME,2MO,
     2sYA,2YA,2sYU,2YU,2sYO,2YO,2RA,2RI,2RU,2RE,2RO,2sWA,2WA,2WI,2WE,2WO,2N,2VU,2sKA,3KE"),
   (0x3099, "0COMBINING KATAKANA-HIRAGANA VOICED SOUND MARK,2SEMI-VOICED SOUND MARK,
     0KATAKANA-HIRAGANA VOICED SOUND MARK,1SEMI-VOICED SOUND MARK,0HIRAGANA ITERATION MARK,
     1VOICED ITERATION MARK,1DIGRAPH YORI,0KATAKANA-HIRAGANAgHYPHEN,0KATAKANAosA,2A,2sI,2I,2sU,2U,
     2sE,2E,2sO,2O,2KA,2GA,2KI,2GI,2KU,2GU,2KE,2GE,2KO,2GO,2SA,2ZA,2SI,2ZI,2SU,2ZU,2SE,2ZE,2SO,2ZO,
     2TA,2DA,2TI,2DI,2sTU,2TU,2DU,2TE,2DE,2TO,2DO,2NA,2NI,2NU,2NE,2NO,2HA,2BA,2PA,2HI,2BI,2PI,2HU,
     2BU,2PU,2HE,2BE,2PE,2HO,2BO,2PO,2MA,2MI,2MU,2ME,2MO,2sYA,2YA,2sYU,2YU,2sYO,2YO,2RA,2RI,2RU,2RE,
     2RO,2sWA,2WA,2WI,2WE,2WO,2N,2VU,2sKA,3KE,2VA,2VI,2VE,2VO,1MIDDLE DOT,
     0KATAKANA-HIRAGANA PROLONGED SOUND MARK,0KATAKANA ITERATION MARK,1VOICED ITERATION MARK,
     1DIGRAPH KOTO"),
   (0x3105, "0BOPOMOFOoB,2P,2M,2F,2D,2T,2N,2L,2G,2K,2H,2J,2Q,2X,2ZH,2CH,2SH,2R,2Z,2C,2S,2A,2O,2E,
     2EH,2AI,2EI,2AU,2OU,2AN,2EN,2ANG,2ENG,2ER,2I,2U,2IU,2V,2NG,2GN,2IH,2OzDOTa,2NN"),
   (0x3131, "0HANGULoKIYEOK,2SSANGKIYEOK,2KIYEOK-SIOS,2NIEUN,2NIEUN-CIEUC,2NIEUN-HIEUH,2TIKEUT,
     2SSANGTIKEUT,2RIEUL,2RIEUL-KIYEOK,2RIEUL-MIEUM,2RIEUL-PIEUP,2RIEUL-SIOS,2RIEUL-THIEUTH,
     2RIEUL-PHIEUPH,2RIEUL-HIEUH,2MIEUM,2PIEUP,2SSANGPIEUP,2PIEUP-SIOS,2SIOS,2SSANGSIOS,2IEUNG,
     2CIEUC,2SSANGCIEUC,2CHIEUCH,2KHIEUKH,2THIEUTH,2PHIEUPH,2HIEUH,2A,2AE,2YA,2YAE,2EO,2E,2YEO,2YE,
     2O,2WA,2WAE,2OE,2YO,2U,2WEO,2WE,2WI,2YU,2EU,2YI,2I,1FILLER,1oSSANGNIEUN,2NIEUN-TIKEUT,
     2NIEUN-SIOS,2NIEUN-PANSIOS,2RIEUL-KIYEOK-SIOS,2RIEUL-TIKEUT,2RIEUL-PIEUP-SIOS,2RIEUL-PANSIOS,
     2RIEUL-YEORINHIEUH,2MIEUM-PIEUP,2MIEUM-SIOS,2MIEUM-PANSIOS,2KAPYEOUNMIEUM,2PIEUP-KIYEOK,
     2PIEUP-TIKEUT,2PIEUP-SIOS-KIYEOK,2PIEUP-SIOS-TIKEUT,2PIEUP-CIEUC,2PIEUP-THIEUTH,2KAPYEOUNPIEUP,
     2KAPYEOUNSSANGPIEUP,2SIOS-KIYEOK,2SIOS-NIEUN,2SIOS-TIKEUT,2SIOS-PIEUP,2SIOS-CIEUC,2PANSIOS,
     2SSANGIEUNG,2YESIEUNG,2YESIEUNG-SIOS,2YESIEUNG-PANSIOS,2KAPYEOUNPHIEUPH,2SSANGHIEUH,
     2YEORINHIEUH,2YO-YA,2YO-YAE,2YO-I,2YU-YEO,2YU-YE,2YU-I,2ARAEA,2ARAEAE"),
   (0x3190, "0IDEOGRAPHIC ANNOTATION LINKING MARK,2REVERSE MARK,2ONE MARK,2TWO MARK,2vMARK,
     2FOUR MARK,2TOP MARK,2MIDDLE MARK,2BOTTOM MARK,2FIRST MARK,2SECOND MARK,2THIRD MARK,
     2FOURTH MARK,2HEAVEN MARK,2EARTH MARK,2MAN MARK,0BOPOMOFOoBU,2ZI,2JI,2GU,2EE,2ENN,2OO,2ONN,2IR,
     2ANN,2INN,2UNN,2IM,2NGG,2AINN,2AUNN,2AM,2OM,2ONG,2INNN,1hoP,3T,3K,3H,1oGH,2LH,2ZY,1hoG,1oGW,
     2KW,2OE,2AH,0CJKtT,2WG,2XG,2BXG,2SW,2HZZ,2HZG,2HP,2HZWG,2SZWG,2HZT,2HZZP,2HPWG,2HZW,2HZZZ,2N,
     2H,2S,2P,2SP,2D,2HZ,2HG,2SZ,2SWZ,2ST,2SG,2PD,2PZ,2TN,2SZZ,2SWG,2HXWG,2HZZZG,2PG,2Q"),
   (0x31F0, "0KATAKANAosKU,3SI,3SU,3TO,3NU,3HA,3HI,3HU,3HE,3HO,3MU,3RA,3RI,3RU,3RE,3RO,
     0PARENTHESIZED HANGUL KIYEOK,2NIEUN,2TIKEUT,2RIEUL,2MIEUM,2PIEUP,2SIOS,2IEUNG,2CIEUC,2CHIEUCH,
     2KHIEUKH,2THIEUTH,2PHIEUPH,2HIEUH,2KIYEOK A,2NIEUN A,2TIKEUT A,2RIEUL A,2MIEUM A,2PIEUP A,
     2SIOS A,2IEUNG A,2CIEUC A,2CHIEUCH A,2KHIEUKH A,2THIEUTH A,2PHIEUPH A,2HIEUH A,2CIEUC U,
     1KOREAN CHARACTER OJEON,3O HU"),
   (0x3220, "1IDEOGRAPH ONE,2TWO,2v,2FOUR,2FIVE,2SIX,2SEVEN,2EIGHT,2NINE,2TEN,2MOON,2FIRE,2WATER,
     2WOOD,2METAL,2EARTH,2SUN,2STOCK,2HAVE,2SOCIETY,2NAME,2SPECIAL,2FINANCIAL,2CONGRATULATION,
     2LABOR,2REPRESENT,2CALL,2STUDY,2SUPERVISE,2ENTERPRISE,2RESOURCE,2ALLIANCE,2FESTIVAL,2REST,
     2SELF,2REACH,0CIRCLED IDEOGRAPH QUESTION,2KINDERGARTEN,2SCHOOL,2KOTO,1NUMBER TEN ONeSQUARE,
     2TWENTY ONeSQUARE,2THIRTY ONeSQUARE,2FORTY ONeSQUARE,2FIFTY ONeSQUARE,2SIXTY ONeSQUARE,
     2SEVENTY ONeSQUARE,2EIGHTY ONeSQUARE,0PARTNERSHIPr,0CIRCLED NUMBER TWENTY ONE,3TWO,3v,3FOUR,
     3FIVE,3SIX,3SEVEN,3EIGHT,3NINE,2THIRTY,3ONE,3TWO,3v,3FOUR,3FIVE,1HANGUL KIYEOK,2NIEUN,2TIKEUT,
     2RIEUL,2MIEUM,2PIEUP,2SIOS,2IEUNG,2CIEUC,2CHIEUCH,2KHIEUKH,2THIEUTH,2PHIEUPH,2HIEUH,2KIYEOK A,
     2NIEUN A,2TIKEUT A,2RIEUL A,2MIEUM A,2PIEUP A,2SIOS A,2IEUNG A,2CIEUC A,2CHIEUCH A,2KHIEUKH A,
     2THIEUTH A,2PHIEUPH A,2HIEUH A,1KOREAN CHARACTER CHAMKO,3JUEUI,1HANGUL IEUNG U,
     0KOREAN STANDARDu,0CIRCLED IDEOGRAPH ONE,2TWO,2v,2FOUR,2FIVE,2SIX,2SEVEN,2EIGHT,2NINE,2TEN,
     2MOON,2FIRE,2WATER,2WOOD,2METAL,2EARTH,2SUN,2STOCK,2HAVE,2SOCIETY,2NAME,2SPECIAL,2FINANCIAL,
     2CONGRATULATION,2LABOR,2SECRET,2MALE,2FEMALE,2SUITABLE,2EXCELLENT,2PRINT,2ATTENTION,2ITEM,
     2REST,2COPY,2CORRECT,2HIGH,2CENTRE,2LOW,2m,2p,2MEDICINE,2RELIGION,2STUDY,2SUPERVISE,
     2ENTERPRISE,2RESOURCE,2ALLIANCE,2NIGHT,1NUMBER THIRTY SIX,3SEVEN,3EIGHT,3NINE,2FORTY,3ONE,3TWO,
     3v,3FOUR,3FIVE,3SIX,3SEVEN,3EIGHT,3NINE,2FIFTY,0IDEOGRAPHIC TELEGRAPHuFOR JANUARY,4FEBRUARY,
     4MARCH,4APRIL,4MAY,4JUNE,4JULY,4AUGUST,4SEPTEMBER,4OCTOBER,4NOVEMBER,4DECEMBER,0SQUARE HG,1ERG,
     1EV,0LIMITED LIABILITYr,0CIRCLED KATAKANA A,2I,2U,2E,2O,2KA,2KI,2KU,2KE,2KO,2SA,2SI,2SU,2SE,
     2SO,2TA,2TI,2TU,2TE,2TO,2NA,2NI,2NU,2NE,2NO,2HA,2HI,2HU,2HE,2HO,2MA,2MI,2MU,2ME,2MO,2YA,2YU,
     2YO,2RA,2RI,2RU,2RE,2RO,2WA,2WI,2WE,2WO,0SQUARE ERA NAME REIWA,1APAATO,1ARUHUA,1ANPEA,1AARU,
     1ININGU,1INTI,1UON,1ESUKUUDO,1EEKAA,1ONSU,1OOMU,1KAIRI,1KARATTO,1KARORII,1GARON,1GANMA,1GIGA,
     1GINII,1KYURII,1GIRUDAA,1KIRO,1KIROGURAMU,1KIROMEETORU,1KIROWATTO,1GURAMU,1GURAMUTON,
     1KURUZEIRO,1KUROONE,1KEESU,1KORUNA,1KOOPO,1SAIKURU,1SANTIIMU,1SIRINGU,1SENTI,1SENTO,1DAASU,
     1DESI,1DORU,1TON,1NANO,1NOTTO,1HAITU,1PAASENTO,1PAATU,1BAARERU,1PIASUTORU,1PIKURU,1PIKO,1BIRU,
     1HUARADDO,1HUIITO,1BUSSYERU,1HURAN,1HEKUTAARU,1PESO,1PENIHI,1HERUTU,1PENSU,1PEEZI,1BEETA,
     1POINTO,1BORUTO,1HON,1PONDO,1HOORU,1HOON,1MAIKURO,1MAIRU,1MAHHA,1MARUKU,1MANSYON,1MIKURON,
     1MIRI,1MIRIBAARU,1MEGA,1MEGATON,1MEETORU,1YAADO,1YAARU,1YUAN,1RITTORU,1RIRA,1RUPII,1RUUBURU,
     1REMU,1RENTOGEN,1WATTO,0IDEOGRAPHIC TELEGRAPHuFOR HOUR ZERO,5ONE,5TWO,5v,5FOUR,5FIVE,5SIX,
     5SEVEN,5EIGHT,5NINE,5TEN,5ELEVEN,5TWELVE,5THIRTEEN,5FOURTEEN,5FIFTEEN,5SIXTEEN,5SEVENTEEN,
     5EIGHTEEN,5NINETEEN,5TWENTY,5TWENTY-ONE,5TWENTY-TWO,5TWENTY-THREE,5TWENTY-FOUR,0SQUARE HPA,1DA,
     1AU,1BAR,1OV,1PC,1DM,2SQUARED,2CUBED,1IU,1ERA NAME HEISEI,3SYOUWA,3TAISYOU,3MEIZI,1CORPORATION,
     1PA AMPS,1NA,1MU A,1MA,1KA,1KB,1MB,1GB,1CAL,1KCAL,1PF,1NF,1MU F,2G,1MG,1KG,1HZ,1KHZ,1MHZ,1GHZ,
     1THZ,1MU L,1ML,1DL,1KL,1FM,1NM,1MU M,1MM,1CM,1KM,1MM SQUARED,1CM SQUARED,1M SQUARED,
     1KM SQUARED,1MM CUBED,1CM CUBED,1M CUBED,1KM CUBED,1M OVER S,4SQUARED,1PA,1KPA,1MPA,1GPA,1RAD,
     2OVER S,4SQUARED,1PS,1NS,1MU S,1MS,1PV,1NV,1MU V,1MV,1KV,1MV MEGA,1PW,1NW,1MU W,1MW,1KW,
     1MW MEGA,1K OHM,1M OHM,1AM,1BQ,1CC,1CD,1C OVER KG,1CO,1DB,1GY,1HA,1HP,1IN,1KK,1KMf,1KT,1LM,1LN,
     1LOG,1LX,1MBs,1MIL,1MOL,1PH,1PM,1PPM,1PR,1SR,1SV,1WB,1V OVER M,1A OVER M,
     0IDEOGRAPHIC TELEGRAPHuFOR DAY ONE,5TWO,5v,5FOUR,5FIVE,5SIX,5SEVEN,5EIGHT,5NINE,5TEN,5ELEVEN,
     5TWELVE,5THIRTEEN,5FOURTEEN,5FIFTEEN,5SIXTEEN,5SEVENTEEN,5EIGHTEEN,5NINETEEN,5TWENTY,
     5TWENTY-ONE,5TWENTY-TWO,5TWENTY-THREE,5TWENTY-FOUR,5TWENTY-FIVE,5TWENTY-SIX,5TWENTY-SEVEN,
     5TWENTY-EIGHT,5TWENTY-NINE,5THIRTY,5THIRTY-ONE,0SQUARE GAL"),
   (0x4DC0, "0HEXAGRAM FOR THE CREATIVE HEAVEN,3RECEPTIVE EARTH,2DIFFICULTY AT THE BEGINNING,
     2YOUTHFUL FOLLY,2WAITING,2CONFLICT,2THE ARMY,2HOLDING TOGETHER,2sTAMING,2TREADING,2PEACE,
     2STANDSTILL,2FELLOWSHIP,2GREAT POSSESSION,2MODESTY,2ENTHUSIASM,2FOLLOWING,2WORK ON THE DECAYED,
     2APPROACH,2CONTEMPLATION,2BITING THROUGH,2GRACE,2SPLITTING APART,2RETURN,2INNOCENCE,
     2GREAT TAMING,2MOUTH CORNERS,2GREAT PREPONDERANCE,2THE ABYSMAL WATER,3CLINGING FIRE,2INFLUENCE,
     2DURATION,2RETREAT,2GREAT POWER,2PROGRESS,2DARKENING OF THE LIGHT,2THE FAMILY,2OPPOSITION,
     2OBSTRUCTION,2DELIVERANCE,2DECREASE,2INCREASE,2BREAKTHROUGH,2COMING TO MEET,
     2GATHERING TOGETHER,2PUSHING UPWARD,2OPPRESSION,2THE WELL,2REVOLUTION,2THE CAULDRON,
     3AROUSING THUNDER,3KEEPING STILL MOUNTAIN,2DEVELOPMENT,2THE MARRYING MAIDEN,2ABUNDANCE,
     2THE WANDERER,3GENTLE WIND,3JOYOUS LAKE,2DISPERSION,2LIMITATION,2INNER TRUTH,2sPREPONDERANCE,
     2AFTER COMPLETION,2BEFORE COMPLETION"),
   (0xA000, "0YI SYLLABLE IT,2IX,2I,2IP,2IET,2IEX,2IE,2IEP,2AT,2AX,2A,2AP,2UOX,2UO,2UOP,2OT,2OX,2O,
     2OP,2EX,2E,2WU,2BIT,2BIX,2BI,2BIP,2BIET,2BIEX,2BIE,2BIEP,2BAT,2BAX,2BA,2BAP,2BUOX,2BUO,2BUOP,
     2BOT,2BOX,2BO,2BOP,2BEX,2BE,2BEP,2BUT,2BUX,2BU,2BUP,2BURX,2BUR,2BYT,2BYX,2BY,2BYP,2BYRX,2BYR,
     2PIT,2PIX,2PI,2PIP,2PIEX,2PIE,2PIEP,2PAT,2PAX,2PA,2PAP,2PUOX,2PUO,2PUOP,2POT,2POX,2PO,2POP,
     2PUT,2PUX,2PU,2PUP,2PURX,2PUR,2PYT,2PYX,2PY,2PYP,2PYRX,2PYR,2BBIT,2BBIX,2BBI,2BBIP,2BBIET,
     2BBIEX,2BBIE,2BBIEP,2BBAT,2BBAX,2BBA,2BBAP,2BBUOX,2BBUO,2BBUOP,2BBOT,2BBOX,2BBO,2BBOP,2BBEX,
     2BBE,2BBEP,2BBUT,2BBUX,2BBU,2BBUP,2BBURX,2BBUR,2BBYT,2BBYX,2BBY,2BBYP,2NBIT,2NBIX,2NBI,2NBIP,
     2NBIEX,2NBIE,2NBIEP,2NBAT,2NBAX,2NBA,2NBAP,2NBOT,2NBOX,2NBO,2NBOP,2NBUT,2NBUX,2NBU,2NBUP,
     2NBURX,2NBUR,2NBYT,2NBYX,2NBY,2NBYP,2NBYRX,2NBYR,2HMIT,2HMIX,2HMI,2HMIP,2HMIEX,2HMIE,2HMIEP,
     2HMAT,2HMAX,2HMA,2HMAP,2HMUOX,2HMUO,2HMUOP,2HMOT,2HMOX,2HMO,2HMOP,2HMUT,2HMUX,2HMU,2HMUP,
     2HMURX,2HMUR,2HMYX,2HMY,2HMYP,2HMYRX,2HMYR,2MIT,2MIX,2MI,2MIP,2MIEX,2MIE,2MIEP,2MAT,2MAX,2MA,
     2MAP,2MUOT,2MUOX,2MUO,2MUOP,2MOT,2MOX,2MO,2MOP,2MEX,2ME,2MUT,2MUX,2MU,2MUP,2MURX,2MUR,2MYT,
     2MYX,2MY,2MYP,2FIT,2FIX,2FI,2FIP,2FAT,2FAX,2FA,2FAP,2FOX,2FO,2FOP,2FUT,2FUX,2FU,2FUP,2FURX,
     2FUR,2FYT,2FYX,2FY,2FYP,2VIT,2VIX,2VI,2VIP,2VIET,2VIEX,2VIE,2VIEP,2VAT,2VAX,2VA,2VAP,2VOT,2VOX,
     2VO,2VOP,2VEX,2VEP,2VUT,2VUX,2VU,2VUP,2VURX,2VUR,2VYT,2VYX,2VY,2VYP,2VYRX,2VYR,2DIT,2DIX,2DI,
     2DIP,2DIEX,2DIE,2DIEP,2DAT,2DAX,2DA,2DAP,2DUOX,2DUO,2DOT,2DOX,2DO,2DOP,2DEX,2DE,2DEP,2DUT,2DUX,
     2DU,2DUP,2DURX,2DUR,2TIT,2TIX,2TI,2TIP,2TIEX,2TIE,2TIEP,2TAT,2TAX,2TA,2TAP,2TUOT,2TUOX,2TUO,
     2TUOP,2TOT,2TOX,2TO,2TOP,2TEX,2TE,2TEP,2TUT,2TUX,2TU,2TUP,2TURX,2TUR,2DDIT,2DDIX,2DDI,2DDIP,
     2DDIEX,2DDIE,2DDIEP,2DDAT,2DDAX,2DDA,2DDAP,2DDUOX,2DDUO,2DDUOP,2DDOT,2DDOX,2DDO,2DDOP,2DDEX,
     2DDE,2DDEP,2DDUT,2DDUX,2DDU,2DDUP,2DDURX,2DDUR,2NDIT,2NDIX,2NDI,2NDIP,2NDIEX,2NDIE,2NDAT,2NDAX,
     2NDA,2NDAP,2NDOT,2NDOX,2NDO,2NDOP,2NDEX,2NDE,2NDEP,2NDUT,2NDUX,2NDU,2NDUP,2NDURX,2NDUR,2HNIT,
     2HNIX,2HNI,2HNIP,2HNIET,2HNIEX,2HNIE,2HNIEP,2HNAT,2HNAX,2HNA,2HNAP,2HNUOX,2HNUO,2HNOT,2HNOX,
     2HNOP,2HNEX,2HNE,2HNEP,2HNUT,2NIT,2NIX,2NI,2NIP,2NIEX,2NIE,2NIEP,2NAX,2NA,2NAP,2NUOX,2NUO,
     2NUOP,2NOT,2NOX,2NO,2NOP,2NEX,2NE,2NEP,2NUT,2NUX,2NU,2NUP,2NURX,2NUR,2HLIT,2HLIX,2HLI,2HLIP,
     2HLIEX,2HLIE,2HLIEP,2HLAT,2HLAX,2HLA,2HLAP,2HLUOX,2HLUO,2HLUOP,2HLOX,2HLO,2HLOP,2HLEX,2HLE,
     2HLEP,2HLUT,2HLUX,2HLU,2HLUP,2HLURX,2HLUR,2HLYT,2HLYX,2HLY,2HLYP,2HLYRX,2HLYR,2LIT,2LIX,2LI,
     2LIP,2LIET,2LIEX,2LIE,2LIEP,2LAT,2LAX,2LA,2LAP,2LUOT,2LUOX,2LUO,2LUOP,2LOT,2LOX,2LO,2LOP,2LEX,
     2LE,2LEP,2LUT,2LUX,2LU,2LUP,2LURX,2LUR,2LYT,2LYX,2LY,2LYP,2LYRX,2LYR,2GIT,2GIX,2GI,2GIP,2GIET,
     2GIEX,2GIE,2GIEP,2GAT,2GAX,2GA,2GAP,2GUOT,2GUOX,2GUO,2GUOP,2GOT,2GOX,2GO,2GOP,2GET,2GEX,2GE,
     2GEP,2GUT,2GUX,2GU,2GUP,2GURX,2GUR,2KIT,2KIX,2KI,2KIP,2KIEX,2KIE,2KIEP,2KAT,2KAX,2KA,2KAP,
     2KUOX,2KUO,2KUOP,2KOT,2KOX,2KO,2KOP,2KET,2KEX,2KE,2KEP,2KUT,2KUX,2KU,2KUP,2KURX,2KUR,2GGIT,
     2GGIX,2GGI,2GGIEX,2GGIE,2GGIEP,2GGAT,2GGAX,2GGA,2GGAP,2GGUOT,2GGUOX,2GGUO,2GGUOP,2GGOT,2GGOX,
     2GGO,2GGOP,2GGET,2GGEX,2GGE,2GGEP,2GGUT,2GGUX,2GGU,2GGUP,2GGURX,2GGUR,2MGIEX,2MGIE,2MGAT,2MGAX,
     2MGA,2MGAP,2MGUOX,2MGUO,2MGUOP,2MGOT,2MGOX,2MGO,2MGOP,2MGEX,2MGE,2MGEP,2MGUT,2MGUX,2MGU,2MGUP,
     2MGURX,2MGUR,2HXIT,2HXIX,2HXI,2HXIP,2HXIET,2HXIEX,2HXIE,2HXIEP,2HXAT,2HXAX,2HXA,2HXAP,2HXUOT,
     2HXUOX,2HXUO,2HXUOP,2HXOT,2HXOX,2HXO,2HXOP,2HXEX,2HXE,2HXEP,2NGIEX,2NGIE,2NGIEP,2NGAT,2NGAX,
     2NGA,2NGAP,2NGUOT,2NGUOX,2NGUO,2NGOT,2NGOX,2NGO,2NGOP,2NGEX,2NGE,2NGEP,2HIT,2HIEX,2HIE,2HAT,
     2HAX,2HA,2HAP,2HUOT,2HUOX,2HUO,2HUOP,2HOT,2HOX,2HO,2HOP,2HEX,2HE,2HEP,2WAT,2WAX,2WA,2WAP,2WUOX,
     2WUO,2WUOP,2WOX,2WO,2WOP,2WEX,2WE,2WEP,2ZIT,2ZIX,2ZI,2ZIP,2ZIEX,2ZIE,2ZIEP,2ZAT,2ZAX,2ZA,2ZAP,
     2ZUOX,2ZUO,2ZUOP,2ZOT,2ZOX,2ZO,2ZOP,2ZEX,2ZE,2ZEP,2ZUT,2ZUX,2ZU,2ZUP,2ZURX,2ZUR,2ZYT,2ZYX,2ZY,
     2ZYP,2ZYRX,2ZYR,2CIT,2CIX,2CI,2CIP,2CIET,2CIEX,2CIE,2CIEP,2CAT,2CAX,2CA,2CAP,2CUOX,2CUO,2CUOP,
     2COT,2COX,2CO,2COP,2CEX,2CE,2CEP,2CUT,2CUX,2CU,2CUP,2CURX,2CUR,2CYT,2CYX,2CY,2CYP,2CYRX,2CYR,
     2ZZIT,2ZZIX,2ZZI,2ZZIP,2ZZIET,2ZZIEX,2ZZIE,2ZZIEP,2ZZAT,2ZZAX,2ZZA,2ZZAP,2ZZOX,2ZZO,2ZZOP,
     2ZZEX,2ZZE,2ZZEP,2ZZUX,2ZZU,2ZZUP,2ZZURX,2ZZUR,2ZZYT,2ZZYX,2ZZY,2ZZYP,2ZZYRX,2ZZYR,2NZIT,2NZIX,
     2NZI,2NZIP,2NZIEX,2NZIE,2NZIEP,2NZAT,2NZAX,2NZA,2NZAP,2NZUOX,2NZUO,2NZOX,2NZOP,2NZEX,2NZE,
     2NZUX,2NZU,2NZUP,2NZURX,2NZUR,2NZYT,2NZYX,2NZY,2NZYP,2NZYRX,2NZYR,2SIT,2SIX,2SI,2SIP,2SIEX,
     2SIE,2SIEP,2SAT,2SAX,2SA,2SAP,2SUOX,2SUO,2SUOP,2SOT,2SOX,2SO,2SOP,2SEX,2SE,2SEP,2SUT,2SUX,2SU,
     2SUP,2SURX,2SUR,2SYT,2SYX,2SY,2SYP,2SYRX,2SYR,2SSIT,2SSIX,2SSI,2SSIP,2SSIEX,2SSIE,2SSIEP,2SSAT,
     2SSAX,2SSA,2SSAP,2SSOT,2SSOX,2SSO,2SSOP,2SSEX,2SSE,2SSEP,2SSUT,2SSUX,2SSU,2SSUP,2SSYT,2SSYX,
     2SSY,2SSYP,2SSYRX,2SSYR,2ZHAT,2ZHAX,2ZHA,2ZHAP,2ZHUOX,2ZHUO,2ZHUOP,2ZHOT,2ZHOX,2ZHO,2ZHOP,
     2ZHET,2ZHEX,2ZHE,2ZHEP,2ZHUT,2ZHUX,2ZHU,2ZHUP,2ZHURX,2ZHUR,2ZHYT,2ZHYX,2ZHY,2ZHYP,2ZHYRX,2ZHYR,
     2CHAT,2CHAX,2CHA,2CHAP,2CHUOT,2CHUOX,2CHUO,2CHUOP,2CHOT,2CHOX,2CHO,2CHOP,2CHET,2CHEX,2CHE,
     2CHEP,2CHUX,2CHU,2CHUP,2CHURX,2CHUR,2CHYT,2CHYX,2CHY,2CHYP,2CHYRX,2CHYR,2RRAX,2RRA,2RRUOX,
     2RRUO,2RROT,2RROX,2RRO,2RROP,2RRET,2RREX,2RRE,2RREP,2RRUT,2RRUX,2RRU,2RRUP,2RRURX,2RRUR,2RRYT,
     2RRYX,2RRY,2RRYP,2RRYRX,2RRYR,2NRAT,2NRAX,2NRA,2NRAP,2NROX,2NRO,2NROP,2NRET,2NREX,2NRE,2NREP,
     2NRUT,2NRUX,2NRU,2NRUP,2NRURX,2NRUR,2NRYT,2NRYX,2NRY,2NRYP,2NRYRX,2NRYR,2SHAT,2SHAX,2SHA,2SHAP,
     2SHUOX,2SHUO,2SHUOP,2SHOT,2SHOX,2SHO,2SHOP,2SHET,2SHEX,2SHE,2SHEP,2SHUT,2SHUX,2SHU,2SHUP,
     2SHURX,2SHUR,2SHYT,2SHYX,2SHY,2SHYP,2SHYRX,2SHYR,2RAT,2RAX,2RA,2RAP,2RUOX,2RUO,2RUOP,2ROT,2ROX,
     2RO,2ROP,2REX,2RE,2REP,2RUT,2RUX,2RU,2RUP,2RURX,2RUR,2RYT,2RYX,2RY,2RYP,2RYRX,2RYR,2JIT,2JIX,
     2JI,2JIP,2JIET,2JIEX,2JIE,2JIEP,2JUOT,2JUOX,2JUO,2JUOP,2JOT,2JOX,2JO,2JOP,2JUT,2JUX,2JU,2JUP,
     2JURX,2JUR,2JYT,2JYX,2JY,2JYP,2JYRX,2JYR,2QIT,2QIX,2QI,2QIP,2QIET,2QIEX,2QIE,2QIEP,2QUOT,2QUOX,
     2QUO,2QUOP,2QOT,2QOX,2QO,2QOP,2QUT,2QUX,2QU,2QUP,2QURX,2QUR,2QYT,2QYX,2QY,2QYP,2QYRX,2QYR,
     2JJIT,2JJIX,2JJI,2JJIP,2JJIET,2JJIEX,2JJIE,2JJIEP,2JJUOX,2JJUO,2JJUOP,2JJOT,2JJOX,2JJO,2JJOP,
     2JJUT,2JJUX,2JJU,2JJUP,2JJURX,2JJUR,2JJYT,2JJYX,2JJY,2JJYP,2NJIT,2NJIX,2NJI,2NJIP,2NJIET,
     2NJIEX,2NJIE,2NJIEP,2NJUOX,2NJUO,2NJOT,2NJOX,2NJO,2NJOP,2NJUX,2NJU,2NJUP,2NJURX,2NJUR,2NJYT,
     2NJYX,2NJY,2NJYP,2NJYRX,2NJYR,2NYIT,2NYIX,2NYI,2NYIP,2NYIET,2NYIEX,2NYIE,2NYIEP,2NYUOX,2NYUO,
     2NYUOP,2NYOT,2NYOX,2NYO,2NYOP,2NYUT,2NYUX,2NYU,2NYUP,2XIT,2XIX,2XI,2XIP,2XIET,2XIEX,2XIE,2XIEP,
     2XUOX,2XUO,2XOT,2XOX,2XO,2XOP,2XYT,2XYX,2XY,2XYP,2XYRX,2XYR,2YIT,2YIX,2YI,2YIP,2YIET,2YIEX,
     2YIE,2YIEP,2YUOT,2YUOX,2YUO,2YUOP,2YOT,2YOX,2YO,2YOP,2YUT,2YUX,2YU,2YUP,2YURX,2YUR,2YYT,2YYX,
     2YY,2YYP,2YYRX,2YYR"),
   (0xA490, "1RADICAL QOT,2LI,2KIT,2NYIP,2CYP,2SSI,2GGOP,2GEP,2MI,2HXIT,2LYR,2BBUT,2MOP,2YO,2PUT,
     2HXUO,2TAT,2GA,2ZUP,2CYT,2DDUR,2BUR,2GGUO,2NYOP,2TU,2OP,2JJUT,2ZOT,2PYT,2HMO,2YIT,2VUR,2SHY,
     2VEP,2ZA,2JO,2NZUP,2JJY,2GOT,2JJIE,2WO,2DU,2SHUR,2LIE,2CY,2CUOP,2CIP,2HXOP,2SHAT,2ZUR,2SHOP,
     2CHE,2ZZIET,2NBIE,2KE"),
   (0xA4D0, "0LISUoBA,2PA,2PHA,2DA,2TA,2THA,2GA,2KA,2KHA,2JA,2CA,2CHA,2DZA,2TSA,2TSHA,2MA,2NA,2LA,
     2SA,2ZHA,2ZA,2NGA,2HA,2XA,2HHA,2FA,2WA,2SHA,2YA,2GHA,2A,2AE,2E,2EU,2I,2O,2U,2UE,2UH,2OE,
     2TONE MYA TI,3NA PO,3MYA CYA,4BO,4NA,4JEU,1PUNCTUATION COMMA,2FULL STOP,0VAI SYLLABLE EE,2EEN,
     2HEE,2WEE,2WEEN,2PEE,2BHEE,2BEE,2MBEE,2KPEE,2MGBEE,2GBEE,2FEE,2VEE,2TEE,2THEE,2DHEE,2DHHEE,
     2LEE,2REE,2DEE,2NDEE,2SEE,2SHEE,2ZEE,2ZHEE,2CEE,2JEE,2NJEE,2YEE,2KEE,2NGGEE,2GEE,2MEE,2NEE,
     2NYEE,2I,2IN,2HI,2HIN,2WI,2WIN,2PI,2BHI,2BI,2MBI,2KPI,2MGBI,2GBI,2FI,2VI,2TI,2THI,2DHI,2DHHI,
     2LI,2RI,2DI,2NDI,2SI,2SHI,2ZI,2ZHI,2CI,2JI,2NJI,2YI,2KI,2NGGI,2GI,2MI,2NI,2NYI,2A,2AN,2NGAN,
     2HA,2HAN,2WA,2WAN,2PA,2BHA,2BA,2MBA,2KPA,2KPAN,2MGBA,2GBA,2FA,2VA,2TA,2THA,2DHA,2DHHA,2LA,2RA,
     2DA,2NDA,2SA,2SHA,2ZA,2ZHA,2CA,2JA,2NJA,2YA,2KA,2KAN,2NGGA,2GA,2MA,2NA,2NYA,2OO,2OON,2HOO,2WOO,
     2WOON,2POO,2BHOO,2BOO,2MBOO,2KPOO,2MGBOO,2GBOO,2FOO,2VOO,2TOO,2THOO,2DHOO,2DHHOO,2LOO,2ROO,
     2DOO,2NDOO,2SOO,2SHOO,2ZOO,2ZHOO,2COO,2JOO,2NJOO,2YOO,2KOO,2NGGOO,2GOO,2MOO,2NOO,2NYOO,2U,2UN,
     2HU,2HUN,2WU,2WUN,2PU,2BHU,2BU,2MBU,2KPU,2MGBU,2GBU,2FU,2VU,2TU,2THU,2DHU,2DHHU,2LU,2RU,2DU,
     2NDU,2SU,2SHU,2ZU,2ZHU,2CU,2JU,2NJU,2YU,2KU,2NGGU,2GU,2MU,2NU,2NYU,2O,2ON,2NGON,2HO,2HON,2WO,
     2WON,2PO,2BHO,2BO,2MBO,2KPO,2MGBO,2GBO,2GBON,2FO,2VO,2TO,2THO,2DHO,2DHHO,2LO,2RO,2DO,2NDO,2SO,
     2SHO,2ZO,2ZHO,2CO,2JO,2NJO,2YO,2KO,2NGGO,2GO,2MO,2NO,2NYO,2E,2EN,2NGEN,2HE,2HEN,2WE,2WEN,2PE,
     2BHE,2BE,2MBE,2KPE,2KPEN,2MGBE,2GBE,2GBEN,2FE,2VE,2TE,2THE,2DHE,2DHHE,2LE,2RE,2DE,2NDE,2SE,
     2SHE,2ZE,2ZHE,2CE,2JE,2NJE,2YE,2KE,2NGGE,2NGGEN,2GE,2GEN,2ME,2NE,2NYE,2NG,2LENGTHENER,1COMMA,
     1FULL STOP,1QUESTION MARK,1SYLLABLE NDOLE FA,3KA,3SOO,1uFEENG,2KEENG,2TING,2NII,2BANG,2FAA,
     2TAA,2DANG,2DOONG,2KUNG,2TONG,2DO-O,2JONG,1DIGIT ZERO,2ONE,2TWO,2v,2FOUR,2FIVE,2SIX,2SEVEN,
     2EIGHT,2NINE,1SYLLABLE NDOLE MA,3DO"),
   (0xA640, "0CYRILLICfoZEMLYA,1soZEMLYA,1foDZELO,1soDZELO,1foREVERSED DZE,1soREVERSED DZE,1foIOTA,
     1soIOTA,1foDJERV,1soDJERV,1foMONOGRAPH UK,1soMONOGRAPH UK,1foBROAD OMEGA,1soBROAD OMEGA,
     1foNEUTRAL YER,1soNEUTRAL YER,1foYERUzBACK YER,1soYERUzBACK YER,1foIOTIFIED YAT,
     1soIOTIFIED YAT,1foREVERSED YU,1soREVERSED YU,1foIOTIFIED A,1soIOTIFIED A,1foCLOSED LITTLE YUS,
     1soCLOSED LITTLE YUS,1foBLENDED YUS,1soBLENDED YUS,1foIOTIFIED CLOSED LITTLE YUS,
     1soIOTIFIED CLOSED LITTLE YUS,1foYN,1soYN,1foREVERSED TSE,1soREVERSED TSE,1foSOFT DE,
     1soSOFT DE,1foSOFT EL,1soSOFT EL,1foSOFT EM,1soSOFT EM,1foMONOCULAR O,1soMONOCULAR O,
     1foBINOCULAR O,1soBINOCULAR O,1fogMONOCULAR O,1sogMONOCULAR O,1oMULTIOCULAR O,
     0COMBINING CYRILLIC VZMET,2TEN MILLIONSr,2HUNDRED MILLIONSr,2THOUSAND MILLIONSr,
     0SLAVONIC ASTERISK,0COMBINING CYRILLICoUKRAINIAN IE,3I,3YI,3U,3HARDr,3YERU,3SOFTr,3OMEGA,
     2KAVYKA,2PAYEROK,0CYRILLIC KAVYKA,1PAYEROK,1foDWE,1soDWE,1foDZWE,1soDZWE,1foZHWE,1soZHWE,
     1foCCHE,1soCCHE,1foDZZE,1soDZZE,1foTEzMIDDLE HOOK,1soTEzMIDDLE HOOK,1foTWE,1soTWE,1foTSWE,
     1soTSWE,1foTSSE,1soTSSE,1foTCHE,1soTCHE,1foHWE,1soHWE,1foSHWE,1soSHWE,1fogO,1sogO,1foCROSSED O,
     1soCROSSED O,0MODIFIERoCYRILLIC HARDr,3SOFTr,0COMBINING CYRILLICoEF,3IOTIFIED E,0BAMUMoA,2KA,
     2U,2KU,2EE,2REE,2TAE,2O,2NYI,2I,2LA,2PA,2RII,2RIEE,2LEEEE,2MEEEE,2TAA,2NDAA,2NJAEM,2M,2SUU,2MU,
     2SHII,2SI,2SHEUX,2SEUX,2KYEE,2KET,2NUAE,2NU,2NJUAE,2YOQ,2SHU,2YUQ,2YA,2NSHA,2KEUX,2PEUX,2NJEE,
     2NTEE,2PUE,2WUE,2PEE,2FEE,2RU,2LU,2MI,2NI,2REUX,2RAE,2KEN,2NGKWAEN,2NGGA,2NGA,2SHO,2PUAE,2FU,
     2FOM,2WA,2NA,2LI,2PI,2LOQ,2KO,2MBEN,2REN,2MEN,2MA,2TI,2KI,2MO,2MBAA,2TET,2KPA,2TEN,2NTUU,
     2SAMBA,2FAAMAE,2KOVUU,2KOGHOM,1COMBINING MARK KOQNDON,3TUKWENTIS,1NJAEMLI,1FULL STOP,1COLON,
     1COMMA,1SEMICOLON,1QUESTION MARK"),
   (0xA700, "0MODIFIERoCHINESE TONE YIN PING,4YANG PING,4YIN SHANG,4YANG SHANG,4YIN QU,4YANG QU,
     4YIN RU,4YANG RU,2EXTRA-HIGH DOTTED TONE BAR,2HIGH DOTTED TONE BAR,2MID DOTTED TONE BAR,
     2LOW DOTTED TONE BAR,2EXTRA-LOW DOTTED TONE BAR,2EXTRA-HIGH DOTTED LEFT-STEM TONE BAR,
     2HIGH DOTTED LEFT-STEM TONE BAR,2MID DOTTED LEFT-STEM TONE BAR,2LOW DOTTED LEFT-STEM TONE BAR,
     2EXTRA-LOW DOTTED LEFT-STEM TONE BAR,2EXTRA-HIGH LEFT-STEM TONE BAR,2HIGH LEFT-STEM TONE BAR,
     2MID LEFT-STEM TONE BAR,2LOW LEFT-STEM TONE BAR,2EXTRA-LOW LEFT-STEM TONE BAR,2DOTxBAR,3SLASH,
     3jBAR,2LOWERpCORNER ANGLE,2RAISED UPc,3DOWNc,3EXCLAMATION MARK,3INVERTED EXCLAMATION MARK,
     2LOW INVERTED EXCLAMATION MARK,2STRESSbHIGH TONE,4LOW TONE,0LATINfoEGYPTOLOGICAL ALEF,
     1soEGYPTOLOGICAL ALEF,1foEGYPTOLOGICAL AIN,1soEGYPTOLOGICAL AIN,1foHENG,1soHENG,1foTZ,1soTZ,
     1foTRESILLO,1soTRESILLO,1foCUATRILLO,1soCUATRILLO,1foCUATRILLOzCOMMA,1soCUATRILLOzCOMMA,1osfF,
     4S,1foAA,1soAA,1foAO,1soAO,1foAU,1soAU,1foAV,1soAV,1foAVzjBAR,1soAVzjBAR,1foAY,1soAY,
     1foREVERSED CzDOT,1soREVERSED CzDOT,1foKzt,1soKzt,1foKzDIAGONALt,1soKzDIAGONALt,
     1foKztbDIAGONALt,1soKztbDIAGONALt,1foBROKEN L,1soBROKEN L,1foLzHIGHt,1soLzHIGHt,
     1foOzLONGtOVERLAY,1soOzLONGtOVERLAY,1foOzLOOP,1soOzLOOP,1foOO,1soOO,1foPztTHROUGH DESCENDER,
     1soPztTHROUGH DESCENDER,1foPzFLOURISH,1soPzFLOURISH,1foPzSQUIRREL TAIL,1soPzSQUIRREL TAIL,
     1foQztTHROUGH DESCENDER,1soQztTHROUGH DESCENDER,1foQzDIAGONALt,1soQzDIAGONALt,1foR ROTUNDA,
     1soR ROTUNDA,1foRUM ROTUNDA,1soRUM ROTUNDA,1foVzDIAGONALt,1soVzDIAGONALt,1foVY,1soVY,
     1foVISIGOTHIC Z,1soVISIGOTHIC Z,1foTHORNzt,1soTHORNzt,1foTHORNztTHROUGH DESCENDER,
     1soTHORNztTHROUGH DESCENDER,1foVEND,1soVEND,1foET,1soET,1foIS,1soIS,1foCON,1soCON,0MODIFIERoUS,
     0LATINsoDUM,3LUM,3MUM,3NUM,3RUM,1osfRUM,1soTUM,3UM,1foINSULAR D,1soINSULAR D,1foINSULAR F,
     1soINSULAR F,1foINSULAR G,3TURNED INSULAR G,1soTURNED INSULAR G,1foTURNED L,1soTURNED L,
     1foINSULAR R,1soINSULAR R,1foINSULAR S,1soINSULAR S,1foINSULAR T,1soINSULAR T,
     0MODIFIERoLOW CIRCUMFLEX ACCENT,2COLON,2SHORT EQUALSr,0LATINfoSALTILLO,1soSALTILLO,1foTURNED H,
     1soLzRETROFLEX HOOKbBELT,1oSINOLOGICAL DOT,1foNzDESCENDER,1soNzDESCENDER,1foCzBAR,1soCzBAR,
     5PALATAL HOOK,3HzPALATAL HOOK,1foBzFLOURISH,1soBzFLOURISH,1foFzt,1soFzt,1foVOLAPUK AE,
     1soVOLAPUK AE,1foVOLAPUK OE,1soVOLAPUK OE,1foVOLAPUK UE,1soVOLAPUK UE,1foGzOBLIQUEt,
     1soGzOBLIQUEt,1foKzOBLIQUEt,1soKzOBLIQUEt,1foNzOBLIQUEt,1soNzOBLIQUEt,1foRzOBLIQUEt,
     1soRzOBLIQUEt,1foSzOBLIQUEt,1soSzOBLIQUEt,1foHzHOOK,3REVERSED OPEN E,3SCRIPT G,3LzBELT,3sfI,
     1osfQ,1foTURNED K,4T,3JzCROSSED-TAIL,3CHI,3BETA,1soBETA,1foOMEGA,1soOMEGA,1foUzt,1soUzt,
     1foGLOTTAL A,1soGLOTTAL A,1foGLOTTAL I,1soGLOTTAL I,1foGLOTTAL U,1soGLOTTAL U,1foOLD POLISH O,
     1soOLD POLISH O,1foANGLICANA W,1soANGLICANA W,1foCzPALATAL HOOK,3SzHOOK,3ZzPALATAL HOOK,
     3DzSHORTtOVERLAY,1soDzSHORTtOVERLAY,1foSzSHORTtOVERLAY,1soSzSHORTtOVERLAY"),
   (0xA7D0, "1foCLOSED INSULAR G,1soCLOSED INSULAR G"), (0xA7D3, "3gTHORN"),
   (0xA7D5, "4WYNN,1foMIDDLE SCOTS S,1soMIDDLE SCOTS S,1foSIGMOID S,1soSIGMOID S"),
   (0xA7F2, "0MODIFIERofC,3F,3Q,0LATINfoREVERSED HALF H,1soREVERSED HALF H,1EPIGRAPHICoSIDEWAYS I,
     0MODIFIERofHzt,2sLIGATURE OE,0LATINosfTURNED M,1EPIGRAPHICoREVERSED F,4P,3INVERTED M,3I LONGA,
     3ARCHAIC M,0SYLOTI NAGRIoA,3I,2rDVISVARA,2oU,3E,3O,2rHASANTA,2oKO,3KHO,3GO,3GHO,2rANUSVARA,
     2oCO,3CHO,3JO,3JHO,3TTO,3TTHO,3DDO,3DDHO,3TO,3THO,3DO,3DHO,3NO,3PO,3PHO,3BO,3BHO,3MO,3RO,3LO,
     3RRO,3SO,3HO,2VOWELrA,4I,4U,4E,4OO,2POETRY MARK-1,3MARK-2,3MARK-3,3MARK-4,
     2rALTERNATE HASANTA"),
   (0xA830, "0NORTH INDIC FRACTION ONE QUARTER,4HALF,3vQUARTERS,3ONE SIXTEENTH,4EIGHTH,3vSIXTEENTHS,
     2QUARTER MARK,2PLACEHOLDER MARK,2RUPEE MARK,2QUANTITY MARK"),
   (0xA840, "0PHAGS-PAoKA,2KHA,2GA,2NGA,2CA,2CHA,2JA,2NYA,2TA,2THA,2DA,2NA,2PA,2PHA,2BA,2MA,2TSA,
     2TSHA,2DZA,2WA,2ZHA,2ZA,2sA,2YA,2RA,2LA,2SHA,2SA,2HA,2A,2I,2U,2E,2O,2QA,2XA,2FA,2GGA,2EE,
     1SUBJOINEDoWA,3YA,1oTTA,2TTHA,2DDA,2NNA,2ALTERNATE YA,2VOICELESS SHA,2VOICED HA,2ASPIRATED FA,
     1SUBJOINEDoRA,1SUPERFIXEDoRA,1oCANDRABINDU,1SINGLE HEAD MARK,1gHEAD MARK,1MARK SHAD,2gSHAD"),
   (0xA880, "0SAURASHTRArANUSVARA,2VISARGA,1oA,2AA,2I,2II,2U,2UU,2VOCALIC R,3RR,3L,3LL,2E,2EE,2AI,
     2O,2OO,2AU,2KA,2KHA,2GA,2GHA,2NGA,2CA,2CHA,2JA,2JHA,2NYA,2TTA,2TTHA,2DDA,2DDHA,2NNA,2TA,2THA,
     2DA,2DHA,2NA,2PA,2PHA,2BA,2BHA,2MA,2YA,2RA,2LA,2VA,2SHA,2SSA,2SA,2HA,2LLA,1CONSONANTrHAARU,
     1VOWELrAA,3I,3II,3U,3UU,3VOCALIC R,4RR,4L,4LL,3E,3EE,3AI,3O,3OO,3AU,1rVIRAMA,2CANDRABINDU"),
   (0xA8CE, "1DANDA,1gDANDA,1DIGIT ZERO,2ONE,2TWO,2v,2FOUR,2FIVE,2SIX,2SEVEN,2EIGHT,2NINE"),
   (0xA8E0, "0COMBINING DEVANAGARI DIGIT ZERO,3ONE,3TWO,3v,3FOUR,3FIVE,3SIX,3SEVEN,3EIGHT,3NINE,2oA,
     3U,3KA,3NA,3PA,3RA,3VI,2rAVAGRAHA,0DEVANAGARIrSPACING CANDRABINDU,2CANDRABINDU VIRAMA,
     2gCANDRABINDU VIRAMA,2CANDRABINDU TWO,3v,3AVAGRAHA,2PUSHPIKA,1GAP FILLER,1CARET,1HEADSTROKE,
     1rSIDDHAM,1JAIN OM,1oAY,1VOWELrAY,0KAYAH LI DIGIT ZERO,3ONE,3TWO,3v,3FOUR,3FIVE,3SIX,3SEVEN,
     3EIGHT,3NINE,2oKA,3KHA,3GA,3NGA,3SA,3SHA,3ZA,3NYA,3TA,3HTA,3NA,3PA,3PHA,3MA,3DA,3BA,3RA,3YA,
     3LA,3WA,3THA,3HA,3VA,3CA,3A,3OE,3I,3OO,2VOWEL UE,3E,3U,3EE,3O,2TONE PLOPHU,3CALYA,4PLOPHU,
     2rCWI,3SHYA,0REJANGoKA,2GA,2NGA,2TA,2DA,2NA,2PA,2BA,2MA,2CA,2JA,2NYA,2SA,2RA,2LA,2YA,2WA,2HA,
     2MBA,2NGGA,2NDA,2NYJA,2A,1VOWELrI,3U,3E,3AI,3O,3AU,3EU,3EA,1CONSONANTrNG,3N,3R,3H,1VIRAMA"),
   (0xA95F, "1SECTION MARK,0HANGUL CHOSEONG TIKEUT-MIEUM,2TIKEUT-PIEUP,2TIKEUT-SIOS,2TIKEUT-CIEUC,
     2RIEUL-KIYEOK,2RIEUL-SSANGKIYEOK,2RIEUL-TIKEUT,2RIEUL-SSANGTIKEUT,2RIEUL-MIEUM,2RIEUL-PIEUP,
     2RIEUL-SSANGPIEUP,2RIEUL-KAPYEOUNPIEUP,2RIEUL-SIOS,2RIEUL-CIEUC,2RIEUL-KHIEUKH,2MIEUM-KIYEOK,
     2MIEUM-TIKEUT,2MIEUM-SIOS,2PIEUP-SIOS-THIEUTH,2PIEUP-KHIEUKH,2PIEUP-HIEUH,2SSANGSIOS-PIEUP,
     2IEUNG-RIEUL,2IEUNG-HIEUH,2SSANGCIEUC-HIEUH,2SSANGTHIEUTH,2PHIEUPH-HIEUH,2HIEUH-SIOS,
     2SSANGYEORINHIEUH"),
   (0xA980, "0JAVANESErPANYANGGA,2CECAK,2LAYAR,2WIGNYAN,1oA,2I KAWI,3,2II,2U,2PA CEREK,2NGA LELET,
     4RASWADI,2E,2AI,2O,2KA,3SASAK,3MURDA,2GA,3MURDA,2NGA,2CA,3MURDA,2JA,2NYA MURDA,2JA MAHAPRANA,
     2NYA,2TTA,3MAHAPRANA,2DDA,3MAHAPRANA,2NA MURDA,2TA,3MURDA,2DA,3MAHAPRANA,2NA,2PA,3MURDA,2BA,
     3MURDA,2MA,2YA,2RA,3AGUNG,2LA,2WA,2SA MURDA,3MAHAPRANA,3,2HA,1rCECAK TELU,1VOWELrTARUNG,
     3TOLONG,3WULU,4MELIK,3SUKU,4MENDUT,3TALING,3DIRGA MURE,3PEPET,1CONSONANTrKERET,3PENGKAL,3CAKRA,
     1PANGKON,1mRERENGGAN,1pRERENGGAN,1PADA ANDAP,2MADYA,2LUHUR,2WINDU,2PANGKAT,2LINGSA,2LUNGSI,
     2ADEG,3ADEG,2PISELEH,1TURNED PADA PISELEH"),
   (0xA9CF, "1PANGRANGKEP,1DIGIT ZERO,2ONE,2TWO,2v,2FOUR,2FIVE,2SIX,2SEVEN,2EIGHT,2NINE"),
   (0xA9DE, "1PADA TIRTA TUMETES,2ISEN-ISEN,0MYANMARoSHAN GHA,3CHA,3JHA,3NNA,3BHA,1rSHAN SAW,
     1MODIFIERoSHAN REDUPLICATION,1oTAI LAING NYA,4FA,4GA,4GHA,4JA,4JHA,4DDA,4DDHA,4NNA,
     1TAI LAING DIGIT ZERO,4ONE,4TWO,4v,4FOUR,4FIVE,4SIX,4SEVEN,4EIGHT,4NINE,1oTAI LAING LLA,4DA,
     4DHA,4BA,4BHA"),
   (0xAA00, "0CHAMoA,2I,2U,2E,2AI,2O,2KA,2KHA,2GA,2GHA,2NGUE,2NGA,2CHA,2CHHA,2JA,2JHA,2NHUE,2NHA,
     2NHJA,2TA,2THA,2DA,2DHA,2NUE,2NA,2DDA,2PA,2PPA,2PHA,2BA,2BHA,2MUE,2MA,2BBA,2YA,2RA,2LA,2VA,
     2SSA,2SA,2HA,1VOWELrAA,3I,3II,3EI,3U,3OE,3O,3AI,3AU,3UE,1CONSONANTrYA,3RA,3LA,3WA"),
   (0xAA40, "1ohK,3G,3NG,1CONSONANTrhNG,1ohCH,3T,3N,3P,3Y,3R,3L,3SS,1CONSONANTrhM,4H"),
   (0xAA50, "1DIGIT ZERO,2ONE,2TWO,2v,2FOUR,2FIVE,2SIX,2SEVEN,2EIGHT,2NINE"),
   (0xAA5C, "1PUNCTUATION SPIRAL,2DANDA,2gDANDA,2TRIPLE DANDA,0MYANMARoKHAMTI GA,3CA,3CHA,3JA,3JHA,
     3NYA,3TTA,3TTHA,3DDA,3DDHA,3DHA,3NA,3SA,3HA,3HHA,3FA,1MODIFIERoKHAMTI REDUPLICATION,
     1oKHAMTI XA,3ZA,3RA,1LOGOGRAM KHAMTI OAY,3QN,3HM,1uAITON EXCLAMATION,3ONE,3TWO,1oAITON RA,
     1rPAO KAREN TONE,2TAI LAING TONE-2,4TONE-5,1oSHWE PALAUNG CHA,4SHA,0TAI VIEToLOW KO,3HIGH KO,
     3LOW KHO,3HIGH KHO,3LOW KHHO,3HIGH KHHO,3LOW GO,3HIGH GO,3LOW NGO,3HIGH NGO,3LOW CO,3HIGH CO,
     3LOW CHO,3HIGH CHO,3LOW SO,3HIGH SO,3LOW NYO,3HIGH NYO,3LOW DO,3HIGH DO,3LOW TO,3HIGH TO,
     3LOW THO,3HIGH THO,3LOW NO,3HIGH NO,3LOW BO,3HIGH BO,3LOW PO,3HIGH PO,3LOW PHO,3HIGH PHO,
     3LOW FO,3HIGH FO,3LOW MO,3HIGH MO,3LOW YO,3HIGH YO,3LOW RO,3HIGH RO,3LOW LO,3HIGH LO,3LOW VO,
     3HIGH VO,3LOW HO,3HIGH HO,3LOW O,3HIGH O,2MAI KANG,2VOWEL AA,3I,3UE,3U,3E,3O,2MAI KHIT,
     2VOWEL IA,3UEA,3UA,3AUE,3AY,3AN,3AM,2TONE MAI EK,4NUENG,4THO,4SONG"),
   (0xAADB, "2uKON,3NUENG,3SAM,3HO HOI,3KOI KOI,0MEETEI MAYEKoE,3O,3CHA,3NYA,3TTA,3TTHA,3DDA,3DDHA,
     3NNA,3SHA,3SSA,2VOWELrII,4UU,4AAI,4AU,4AAU,2CHEIKHAN,2AHANG KHUDAM,2ANJI,
     2SYLLABLE REPETITION MARK,2WORD REPETITION MARK,2VOWELrVISARGA,2VIRAMA"),
   (0xAB01, "0ETHIOPIC SYLLABLE TTHU,2TTHI,2TTHAA,2TTHEE,2TTHE,2TTHO"),
   (0xAB09, "2DDHU,2DDHI,2DDHAA,2DDHEE,2DDHE,2DDHO"), (0xAB11, "2DZU,2DZI,2DZAA,2DZEE,2DZE,2DZO"),
   (0xAB20, "2CCHHA,2CCHHU,2CCHHI,2CCHHAA,2CCHHEE,2CCHHE,2CCHHO"),
   (0xAB28, "2BBA,2BBU,2BBI,2BBAA,2BBEE,2BBE,2BBO"),
   (0xAB30, "0LATINsoBARRED ALPHA,3A REVERSED-SCHWA,3BLACKLETTER E,3BARRED E,3EzFLOURISH,3LENIS F,
     3SCRIPT GzCROSSED-TAIL,3LzINVERTED LAZY S,5gMIDDLE TILDE,5MIDDLE RING,3MzCROSSED-TAIL,
     3NzCROSSED-TAIL,3ENGzCROSSED-TAIL,3BLACKLETTER O,5zt,3OPEN Ozt,3INVERTED OE,3TURNED OEzt,6jt,
     4O OPEN-O,6zt,3STIRRUP R,1osfRzpLEG,1soR WITHOUT HANDLE,3gR,3RzCROSSED-TAIL,3gRzCROSSED-TAIL,
     3SCRIPT R,5zRING,3BASELINE ESH,3UzSHORTpLEG,4BARzSHORTpLEG,3UI,3TURNED UI,3UzmHOOK,3CHI,
     4zLOWpRING,6mSERIF,3XzLOWpRING,5LONGmLEG,8bLOWpRING,8zSERIF,3YzSHORTpLEG,
     0MODIFIER BREVEzINVERTED BREVE,1osHENG,3LzINVERTED LAZY S,5MIDDLE TILDE,3UzmHOOK,
     0LATINsoSAKHA YAT,3IOTIFIED E,3OPEN OE,3UO,3INVERTED ALPHA,0GREEKosfOMEGA,
     0LATINsoDZ DIGRAPHzRETROFLEX HOOK,3TS DIGRAPHzRETROFLEX HOOK,3TURNED RzMIDDLE TILDE,
     0MODIFIERosTURNED W,2mTACK,2pTACK"),
   (0xAB70, "0CHEROKEEsoA,3E,3I,3O,3U,3V,3GA,3KA,3GE,3GI,3GO,3GU,3GV,3HA,3HE,3HI,3HO,3HU,3HV,3LA,
     3LE,3LI,3LO,3LU,3LV,3MA,3ME,3MI,3MO,3MU,3NA,3HNA,3NAH,3NE,3NI,3NO,3NU,3NV,3QUA,3QUE,3QUI,3QUO,
     3QUU,3QUV,3SA,3S,3SE,3SI,3SO,3SU,3SV,3DA,3TA,3DE,3TE,3DI,3TI,3DO,3DU,3DV,3DLA,3TLA,3TLE,3TLI,
     3TLO,3TLU,3TLV,3TSA,3TSE,3TSI,3TSO,3TSU,3TSV,3WA,3WE,3WI,3WO,3WU,3WV,3YA,0MEETEI MAYEKoKOK,
     3SAM,3LAI,3MIT,3PA,3NA,3CHIL,3TIL,3KHOU,3NGOU,3THOU,3WAI,3YANG,3HUK,3UN,3I,3PHAM,3ATIYA,3GOK,
     3JHAM,3RAI,3BA,3JIL,3DIL,3GHOU,3DHOU,3BHAM,3KOK LONSUM,3LAI LONSUM,3MIT LONSUM,3PA LONSUM,
     3NA LONSUM,3TIL LONSUM,3NGOU LONSUM,3I LONSUM,2VOWELrONAP,4INAP,4ANAP,4YENAP,4SOUNAP,4UNAP,
     4CHEINAP,4NUNG,2CHEIKHEI,2LUM IYEK,2APUN IYEK"),
   (0xABF0, "2DIGIT ZERO,3ONE,3TWO,3v,3FOUR,3FIVE,3SIX,3SEVEN,3EIGHT,3NINE"),
   (0xD7B0, "0HANGUL JUNGSEONG O-YEO,2O-O-I,2YO-A,2YO-AE,2YO-EO,2U-YEO,2U-I-I,2YU-AE,2YU-O,2EU-A,
     2EU-EO,2EU-E,2EU-O,2I-YA-O,2I-YAE,2I-YEO,2I-YE,2I-O-I,2I-YO,2I-YU,2I-I,2ARAEA-A,2ARAEA-E"),
   (0xD7CB, "1JONGSEONG NIEUN-RIEUL,2NIEUN-CHIEUCH,2SSANGTIKEUT,2SSANGTIKEUT-PIEUP,2TIKEUT-PIEUP,
     2TIKEUT-SIOS,2TIKEUT-SIOS-KIYEOK,2TIKEUT-CIEUC,2TIKEUT-CHIEUCH,2TIKEUT-THIEUTH,
     2RIEUL-SSANGKIYEOK,2RIEUL-KIYEOK-HIEUH,2SSANGRIEUL-KHIEUKH,2RIEUL-MIEUM-HIEUH,
     2RIEUL-PIEUP-TIKEUT,2RIEUL-PIEUP-PHIEUPH,2RIEUL-YESIEUNG,2RIEUL-YEORINHIEUH-HIEUH,
     2KAPYEOUNRIEUL,2MIEUM-NIEUN,2MIEUM-SSANGNIEUN,2SSANGMIEUM,2MIEUM-PIEUP-SIOS,2MIEUM-CIEUC,
     2PIEUP-TIKEUT,2PIEUP-RIEUL-PHIEUPH,2PIEUP-MIEUM,2SSANGPIEUP,2PIEUP-SIOS-TIKEUT,2PIEUP-CIEUC,
     2PIEUP-CHIEUCH,2SIOS-MIEUM,2SIOS-KAPYEOUNPIEUP,2SSANGSIOS-KIYEOK,2SSANGSIOS-TIKEUT,
     2SIOS-PANSIOS,2SIOS-CIEUC,2SIOS-CHIEUCH,2SIOS-THIEUTH,2SIOS-HIEUH,2PANSIOS-PIEUP,
     2PANSIOS-KAPYEOUNPIEUP,2YESIEUNG-MIEUM,2YESIEUNG-HIEUH,2CIEUC-PIEUP,2CIEUC-SSANGPIEUP,
     2SSANGCIEUC,2PHIEUPH-SIOS,2PHIEUPH-THIEUTH"),
   (0xFB00, "0LATINsLIGATURE FF,3FI,3FL,3FFI,3FFL,3LONG S T,3ST"),
   (0xFB13, "0ARMENIANsLIGATURE MEN NOW,4ECH,4INI,3VEW NOW,3MEN XEH"),
   (0xFB1D, "0HEBREWoYODzHIRIQ,1POINT JUDEO-SPANISH VARIKA,1LIGATURE YIDDISH YOD YOD PATAH,
     1oALTERNATIVE AYIN,2WIDE ALEF,3DALET,3HE,3KAF,3LAMED,3hMEM,3RESH,3TAV,2ALTERNATIVE PLUSr,
     2SHINzSHIN DOT,4SIN DOT,4DAGESHbSHIN DOT,6SIN DOT,2ALEFzPATAH,4QAMATS,4MAPIQ,2BETzDAGESH,
     2GIMELzDAGESH,2DALETzDAGESH,2HEzMAPIQ,2VAVzDAGESH,2ZAYINzDAGESH"),
   (0xFB38, "2TETzDAGESH,2YODzDAGESH,2hKAFzDAGESH,2KAFzDAGESH,2LAMEDzDAGESH"),
   (0xFB3E, "2MEMzDAGESH"), (0xFB40, "2NUNzDAGESH,2SAMEKHzDAGESH"),
   (0xFB43, "2hPEzDAGESH,2PEzDAGESH"),
   (0xFB46, "2TSADIzDAGESH,2QOFzDAGESH,2RESHzDAGESH,2SHINzDAGESH,2TAVzDAGESH,2VAVzHOLAM,2BETzRAFE,
     2KAFzRAFE,2PEzRAFE,1LIGATURE ALEF LAMED,0ARABICoALEF WASLAli,4hi,2BEEHli,3hi,3ki,3MEDIALi,
     2PEHli,3hi,3ki,3MEDIALi,2BEHEHli,3hi,3ki,3MEDIALi,2TTEHEHli,3hi,3ki,3MEDIALi,2TEHEHli,3hi,3ki,
     3MEDIALi,2TTEHli,3hi,3ki,3MEDIALi,2VEHli,3hi,3ki,3MEDIALi,2PEHEHli,3hi,3ki,3MEDIALi,2DYEHli,
     3hi,3ki,3MEDIALi,2NYEHli,3hi,3ki,3MEDIALi,2TCHEHli,3hi,3ki,3MEDIALi,2TCHEHEHli,3hi,3ki,
     3MEDIALi,2DDAHALli,3hi,2DAHALli,3hi,2DULli,3hi,2DDALli,3hi,2JEHli,3hi,2RREHli,3hi,2KEHEHli,3hi,
     3ki,3MEDIALi,2GAFli,3hi,3ki,3MEDIALi,2GUEHli,3hi,3ki,3MEDIALi,2NGOEHli,3hi,3ki,3MEDIALi,
     2NOON GHUNNAli,4hi,2RNOONli,3hi,3ki,3MEDIALi,2HEHzYEHali,6hi,3GOALli,4hi,4ki,4MEDIALi,
     3DOACHASHMEEli,4hi,4ki,4MEDIALi,2YEH BARREEli,4hi,4zHAMZAali,7hi,1uDOTa,3d,2TWO DOTSa,4d,
     2vDOTSa,4d,4POINTING DOWNWARDSa,6d,2FOUR DOTSa,4d,2gxBARd,2TWO DOTS VERTICALLYa,5d,2RING,
     2sTAHa,4d,2WASLAa"),
   (0xFBD3, "1oNGli,3hi,3ki,3MEDIALi,2Uli,3hi,2OEli,3hi,2YUli,3hi,2UzHAMZAali,2VEli,3hi,
     2KIRGHIZ OEli,4hi,3YUli,4hi,2Eli,3hi,3ki,3MEDIALi,2UIGHUR KAZAKH KIRGHIZ ALEF MAKSURAki,
     7MEDIALi,1LIGATURE YEHzHAMZAazALEFli,8hi,7AEli,8hi,7WAWli,8hi,7Uli,8hi,7OEli,8hi,7YUli,8hi,
     7Eli,8hi,8ki,2UIGHUR KIRGHIZ YEHzHAMZAazALEF MAKSURAli,;hi,;ki,1oFARSI YEHli,4hi,4ki,4MEDIALi,
     1LIGATURE YEHzHAMZAazJEEMli,7HAHli,7MEEMli,7ALEF MAKSURAli,7YEHli,2BEHzJEEMli,4HAHli,4KHAHli,
     4MEEMli,4ALEF MAKSURAli,4YEHli,2TEHzJEEMli,4HAHli,4KHAHli,4MEEMli,4ALEF MAKSURAli,4YEHli,
     2THEHzJEEMli,4MEEMli,4ALEF MAKSURAli,4YEHli,2JEEMzHAHli,4MEEMli,2HAHzJEEMli,4MEEMli,
     2KHAHzJEEMli,4HAHli,4MEEMli,2SEENzJEEMli,4HAHli,4KHAHli,4MEEMli,2SADzHAHli,4MEEMli,2DADzJEEMli,
     4HAHli,4KHAHli,4MEEMli,2TAHzHAHli,4MEEMli,2ZAHzMEEMli,2AINzJEEMli,4MEEMli,2GHAINzJEEMli,
     4MEEMli,2FEHzJEEMli,4HAHli,4KHAHli,4MEEMli,4ALEF MAKSURAli,4YEHli,2QAFzHAHli,4MEEMli,
     4ALEF MAKSURAli,4YEHli,2KAFzALEFli,4JEEMli,4HAHli,4KHAHli,4LAMli,4MEEMli,4ALEF MAKSURAli,
     4YEHli,2LAMzJEEMli,4HAHli,4KHAHli,4MEEMli,4ALEF MAKSURAli,4YEHli,2MEEMzJEEMli,4HAHli,4KHAHli,
     4MEEMli,4ALEF MAKSURAli,4YEHli,2NOONzJEEMli,4HAHli,4KHAHli,4MEEMli,4ALEF MAKSURAli,4YEHli,
     2HEHzJEEMli,4MEEMli,4ALEF MAKSURAli,4YEHli,2YEHzJEEMli,4HAHli,4KHAHli,4MEEMli,4ALEF MAKSURAli,
     4YEHli,2THALzSUPERSCRIPT ALEFli,2REHzSUPERSCRIPT ALEFli,2ALEF MAKSURAzSUPERSCRIPT ALEFli,
     2SHADDAzDAMMATANli,4KASRATANli,4FATHAli,4DAMMAli,4KASRAli,4SUPERSCRIPT ALEFli,
     2YEHzHAMZAazREHhi,7ZAINhi,7MEEMhi,7NOONhi,7ALEF MAKSURAhi,7YEHhi,2BEHzREHhi,4ZAINhi,4MEEMhi,
     4NOONhi,4ALEF MAKSURAhi,4YEHhi,2TEHzREHhi,4ZAINhi,4MEEMhi,4NOONhi,4ALEF MAKSURAhi,4YEHhi,
     2THEHzREHhi,4ZAINhi,4MEEMhi,4NOONhi,4ALEF MAKSURAhi,4YEHhi,2FEHzALEF MAKSURAhi,4YEHhi,
     2QAFzALEF MAKSURAhi,4YEHhi,2KAFzALEFhi,4LAMhi,4MEEMhi,4ALEF MAKSURAhi,4YEHhi,2LAMzMEEMhi,
     4ALEF MAKSURAhi,4YEHhi,2MEEMzALEFhi,4MEEMhi,2NOONzREHhi,4ZAINhi,4MEEMhi,4NOONhi,
     4ALEF MAKSURAhi,4YEHhi,2ALEF MAKSURAzSUPERSCRIPT ALEFhi,2YEHzREHhi,4ZAINhi,4MEEMhi,4NOONhi,
     4ALEF MAKSURAhi,4YEHhi,4HAMZAazJEEMki,7HAHki,7KHAHki,7MEEMki,7HEHki,2BEHzJEEMki,4HAHki,4KHAHki,
     4MEEMki,4HEHki,2TEHzJEEMki,4HAHki,4KHAHki,4MEEMki,4HEHki,2THEHzMEEMki,2JEEMzHAHki,4MEEMki,
     2HAHzJEEMki,4MEEMki,2KHAHzJEEMki,4MEEMki,2SEENzJEEMki,4HAHki,4KHAHki,4MEEMki,2SADzHAHki,
     4KHAHki,4MEEMki,2DADzJEEMki,4HAHki,4KHAHki,4MEEMki,2TAHzHAHki,2ZAHzMEEMki,2AINzJEEMki,4MEEMki,
     2GHAINzJEEMki,4MEEMki,2FEHzJEEMki,4HAHki,4KHAHki,4MEEMki,2QAFzHAHki,4MEEMki,2KAFzJEEMki,4HAHki,
     4KHAHki,4LAMki,4MEEMki,2LAMzJEEMki,4HAHki,4KHAHki,4MEEMki,4HEHki,2MEEMzJEEMki,4HAHki,4KHAHki,
     4MEEMki,2NOONzJEEMki,4HAHki,4KHAHki,4MEEMki,4HEHki,2HEHzJEEMki,4MEEMki,4SUPERSCRIPT ALEFki,
     2YEHzJEEMki,4HAHki,4KHAHki,4MEEMki,4HEHki,4HAMZAazMEEM MEDIALi,7HEH MEDIALi,2BEHzMEEM MEDIALi,
     4HEH MEDIALi,2TEHzMEEM MEDIALi,4HEH MEDIALi,2THEHzMEEM MEDIALi,4HEH MEDIALi,2SEENzMEEM MEDIALi,
     4HEH MEDIALi,2SHEENzMEEM MEDIALi,4HEH MEDIALi,2KAFzLAM MEDIALi,4MEEM MEDIALi,2LAMzMEEM MEDIALi,
     2NOONzMEEM MEDIALi,4HEH MEDIALi,2YEHzMEEM MEDIALi,4HEH MEDIALi,2SHADDAzFATHA MEDIALi,
     4DAMMA MEDIALi,4KASRA MEDIALi,2TAHzALEF MAKSURAli,4YEHli,2AINzALEF MAKSURAli,4YEHli,
     2GHAINzALEF MAKSURAli,4YEHli,2SEENzALEF MAKSURAli,4YEHli,2SHEENzALEF MAKSURAli,4YEHli,
     2HAHzALEF MAKSURAli,4YEHli,2JEEMzALEF MAKSURAli,4YEHli,2KHAHzALEF MAKSURAli,4YEHli,
     2SADzALEF MAKSURAli,4YEHli,2DADzALEF MAKSURAli,4YEHli,2SHEENzJEEMli,4HAHli,4KHAHli,4MEEMli,
     4REHli,2SEENzREHli,2SADzREHli,2DADzREHli,2TAHzALEF MAKSURAhi,4YEHhi,2AINzALEF MAKSURAhi,4YEHhi,
     2GHAINzALEF MAKSURAhi,4YEHhi,2SEENzALEF MAKSURAhi,4YEHhi,2SHEENzALEF MAKSURAhi,4YEHhi,
     2HAHzALEF MAKSURAhi,4YEHhi,2JEEMzALEF MAKSURAhi,4YEHhi,2KHAHzALEF MAKSURAhi,4YEHhi,
     2SADzALEF MAKSURAhi,4YEHhi,2DADzALEF MAKSURAhi,4YEHhi,2SHEENzJEEMhi,4HAHhi,4KHAHhi,4MEEMhi,
     4REHhi,2SEENzREHhi,2SADzREHhi,2DADzREHhi,2SHEENzJEEMki,4HAHki,4KHAHki,4MEEMki,2SEENzHEHki,
     2SHEENzHEHki,2TAHzMEEMki,2SEENzJEEM MEDIALi,4HAH MEDIALi,4KHAH MEDIALi,2SHEENzJEEM MEDIALi,
     4HAH MEDIALi,4KHAH MEDIALi,2TAHzMEEM MEDIALi,2ZAHzMEEM MEDIALi,2ALEFzFATHATANhi,5li,
     0ORNATEmPARENTHESIS,1pPARENTHESIS,0ARABIC LIGATURE RAHIMAHU ALLAAH,2RADI ALLAAHU ANH,4ANHAA,
     4ANHUM,4ANHUMAA,4ANHUNNA,2SALLALLAAHU ALAYHI WA-AALIH,2ALAYHI AS-SALAAM,2ALAYHIM AS-SALAAM,
     2ALAYHIMAA AS-SALAAM,2ALAYHI AS-SALAATU WAS-SALAAM,2QUDDISA SIRRAH,
     2SALLALLAHU ALAYHI WAAALIHEE WA-SALLAM,2ALAYHAA AS-SALAAM,2TABAARAKA WA-TAAALAA,
     2RAHIMAHUM ALLAAH,2TEHzJEEMzMEEMki,4HAHzJEEMhi,7ki,6MEEMki,4KHAHzMEEMki,4MEEMzJEEMki,6HAHki,
     6KHAHki,2JEEMzMEEMzHAHhi,7ki,2HAHzMEEMzYEHhi,6ALEF MAKSURAhi,2SEENzHAHzJEEMki,4JEEMzHAHki,
     6ALEF MAKSURAhi,4MEEMzHAHhi,7ki,6JEEMki,6MEEMhi,7ki,2SADzHAHzHAHhi,7ki,4MEEMzMEEMhi,
     2SHEENzHAHzMEEMhi,7ki,4JEEMzYEHhi,4MEEMzKHAHhi,7ki,6MEEMhi,7ki,2DADzHAHzALEF MAKSURAhi,
     4KHAHzMEEMhi,7ki,2TAHzMEEMzHAHhi,7ki,6MEEMki,6YEHhi,2AINzJEEMzMEEMhi,4MEEMzMEEMhi,7ki,
     6ALEF MAKSURAhi,2GHAINzMEEMzMEEMhi,6YEHhi,6ALEF MAKSURAhi,2FEHzKHAHzMEEMhi,7ki,2QAFzMEEMzHAHhi,
     6MEEMhi,2LAMzHAHzMEEMhi,6YEHhi,6ALEF MAKSURAhi,4JEEMzJEEMki,7hi,4KHAHzMEEMhi,7ki,4MEEMzHAHhi,
     7ki,2MEEMzHAHzJEEMki,6MEEMki,6YEHhi,4JEEMzHAHki,6MEEMki,4KHAHzJEEMki,6MEEMki"),
   (0xFD92, "4JEEMzKHAHki,2HEHzMEEMzJEEMki,6MEEMki,2NOONzHAHzMEEMki,6ALEF MAKSURAhi,4JEEMzMEEMhi,
     7ki,6ALEF MAKSURAhi,4MEEMzYEHhi,6ALEF MAKSURAhi,2YEHzMEEMzMEEMhi,7ki,2BEHzKHAHzYEHhi,
     2TEHzJEEMzYEHhi,6ALEF MAKSURAhi,4KHAHzYEHhi,6ALEF MAKSURAhi,4MEEMzYEHhi,6ALEF MAKSURAhi,
     2JEEMzMEEMzYEHhi,4HAHzALEF MAKSURAhi,4MEEMzALEF MAKSURAhi,2SEENzKHAHzALEF MAKSURAhi,
     2SADzHAHzYEHhi,2SHEENzHAHzYEHhi,2DADzHAHzYEHhi,2LAMzJEEMzYEHhi,4MEEMzYEHhi,2YEHzHAHzYEHhi,
     4JEEMzYEHhi,4MEEMzYEHhi,2MEEMzMEEMzYEHhi,2QAFzMEEMzYEHhi,2NOONzHAHzYEHhi,2QAFzMEEMzHAHki,
     2LAMzHAHzMEEMki,2AINzMEEMzYEHhi,2KAFzMEEMzYEHhi,2NOONzJEEMzHAHki,2MEEMzKHAHzYEHhi,
     2LAMzJEEMzMEEMki,2KAFzMEEMzMEEMhi,2LAMzJEEMzMEEMhi,2NOONzJEEMzHAHhi,2JEEMzHAHzYEHhi,
     2HAHzJEEMzYEHhi,2MEEMzJEEMzYEHhi,2FEHzMEEMzYEHhi,2BEHzHAHzYEHhi,2KAFzMEEMzMEEMki,
     2AINzJEEMzMEEMki,2SADzMEEMzMEEMki,2SEENzKHAHzYEHhi,2NOONzJEEMzYEHhi"),
   (0xFDCF, "2SALAAMUHU ALAYNAA"),
   (0xFDF0, "2SALLA USED AS KORANIC STOPrli,2QALA USED AS KORANIC STOPrli,2ALLAHli,2AKBARli,
     2MOHAMMADli,2SALAMli,2RASOULli,2ALAYHEli,2WASALLAMli,2SALLAli,2SALLALLAHOU ALAYHE WASALLAM,
     2JALLAJALALOUHOU,0RIALr,0ARABIC LIGATURE BISMILLAH AR-RAHMAN AR-RAHEEM,2SUBHAANAHU WA TAAALAA,
     2AZZA WA JALL,0VARIATION SELECTOR-1,1SELECTOR-2,1SELECTOR-3,1SELECTOR-4,1SELECTOR-5,
     1SELECTOR-6,1SELECTOR-7,1SELECTOR-8,1SELECTOR-9,1SELECTOR-10,1SELECTOR-11,1SELECTOR-12,
     1SELECTOR-13,1SELECTOR-14,1SELECTOR-15,1SELECTOR-16,0PRESENTATIONiFORxCOMMA,4IDEOGRAPHIC COMMA,
     5FULL STOP,4COLON,4SEMICOLON,4EXCLAMATION MARK,4QUESTION MARK,4myLENTICULAR BRACKET,
     4pyLENTICULAR BRAKCET,4jELLIPSIS"),
   (0xFE20, "0COMBINING LIGATUREmHALF,2pHALF,1gTILDEmHALF,3pHALF,1MACRONmHALF,2pHALF,
     1CONJOINING MACRON,1LIGATUREmHALFd,2pHALFd,1TILDEmHALFd,2pHALFd,1MACRONmHALFd,2pHALFd,
     1CONJOINING MACRONd,1CYRILLIC TITLOmHALF,3pHALF,0PRESENTATIONiFORxTWO DOT LEADER,4EM DASH,
     4EN DASH,4LOW LINE,4WAVY LOW LINE,4mPARENTHESIS,4pPARENTHESIS,4mCURLY BRACKET,4pCURLY BRACKET,
     4mTORTOISE SHELL BRACKET,4pTORTOISE SHELL BRACKET,4meLENTICULAR BRACKET,4peLENTICULAR BRACKET,
     4mgANGLE BRACKET,4pgANGLE BRACKET,4mANGLE BRACKET,4pANGLE BRACKET,4mCORNER BRACKET,
     4pCORNER BRACKET,4myCORNER BRACKET,4pyCORNER BRACKET,0SESAME DOT,0ySESAME DOT,
     0PRESENTATIONiFORxmSQUARE BRACKET,4pSQUARE BRACKET,0DASHED OVERLINE,0CENTRELINE OVERLINE,
     0WAVY OVERLINE,0gWAVY OVERLINE,0DASHED LOW LINE,0CENTRELINE LOW LINE,0WAVY LOW LINE,0sCOMMA,
     1IDEOGRAPHIC COMMA,1FULL STOP"),
   (0xFE54, "1SEMICOLON,1COLON,1QUESTION MARK,1EXCLAMATION MARK,1EM DASH,1mPARENTHESIS,
     1pPARENTHESIS,1mCURLY BRACKET,1pCURLY BRACKET,1mTORTOISE SHELL BRACKET,
     1pTORTOISE SHELL BRACKET,1NUMBERr,1AMPERSAND,1ASTERISK,1PLUSr,1HYPHEN-MINUS,1LESS-THANr,
     1GREATER-THANr,1EQUALSr"),
   (0xFE68, "1REVERSE SOLIDUS,1DOLLARr,1PERCENTr,1COMMERCIAL AT"),
   (0xFE70, "0ARABIC FATHATANli,1TATWEELzFATHATANa,1DAMMATANli,1TAIL FRAGMENT,1KASRATANli"),
   (0xFE76, "1FATHAli,2MEDIALi,1DAMMAli,2MEDIALi,1KASRAli,2MEDIALi,1SHADDAli,2MEDIALi,1SUKUNli,
     2MEDIALi,1oHAMZAli,2ALEFzMADDAali,6hi,4HAMZAali,6hi,2WAWzHAMZAali,6hi,2ALEFzHAMZAdli,6hi,
     2YEHzHAMZAali,6hi,6ki,6MEDIALi,2ALEFli,3hi,2BEHli,3hi,3ki,3MEDIALi,2TEH MARBUTAli,4hi,3li,3hi,
     3ki,3MEDIALi,2THEHli,3hi,3ki,3MEDIALi,2JEEMli,3hi,3ki,3MEDIALi,2HAHli,3hi,3ki,3MEDIALi,2KHAHli,
     3hi,3ki,3MEDIALi,2DALli,3hi,2THALli,3hi,2REHli,3hi,2ZAINli,3hi,2SEENli,3hi,3ki,3MEDIALi,
     2SHEENli,3hi,3ki,3MEDIALi,2SADli,3hi,3ki,3MEDIALi,2DADli,3hi,3ki,3MEDIALi,2TAHli,3hi,3ki,
     3MEDIALi,2ZAHli,3hi,3ki,3MEDIALi,2AINli,3hi,3ki,3MEDIALi,2GHAINli,3hi,3ki,3MEDIALi,2FEHli,3hi,
     3ki,3MEDIALi,2QAFli,3hi,3ki,3MEDIALi,2KAFli,3hi,3ki,3MEDIALi,2LAMli,3hi,3ki,3MEDIALi,2MEEMli,
     3hi,3ki,3MEDIALi,2NOONli,3hi,3ki,3MEDIALi,2HEHli,3hi,3ki,3MEDIALi,2WAWli,3hi,2ALEF MAKSURAli,
     4hi,2YEHli,3hi,3ki,3MEDIALi,1LIGATURE LAMzALEFzMADDAali,8hi,6HAMZAali,8hi,7dli,8hi,5li,5hi"),
   (0xFEFF, "0ZERO WIDTH NO-BREAK SPACE"),
   (0xFF01, "0FULLWIDTH EXCLAMATION MARK,1QUOTATION MARK,1NUMBERr,1DOLLARr,1PERCENTr,1AMPERSAND,
     1APOSTROPHE,1mPARENTHESIS,1pPARENTHESIS,1ASTERISK,1PLUSr,1COMMA,1HYPHEN-MINUS,1FULL STOP,
     1SOLIDUS,1DIGIT ZERO,2ONE,2TWO,2v,2FOUR,2FIVE,2SIX,2SEVEN,2EIGHT,2NINE,1COLON,1SEMICOLON,
     1LESS-THANr,1EQUALSr,1GREATER-THANr,1QUESTION MARK,1COMMERCIAL AT,1LATINfoA,4B,4C,4D,4E,4F,4G,
     4H,4I,4J,4K,4L,4M,4N,4O,4P,4Q,4R,4S,4T,4U,4V,4W,4X,4Y,4Z,1mSQUARE BRACKET,1REVERSE SOLIDUS,
     1pSQUARE BRACKET,1CIRCUMFLEX ACCENT,1LOW LINE,1GRAVE ACCENT,1LATINsoA,4B,4C,4D,4E,4F,4G,4H,4I,
     4J,4K,4L,4M,4N,4O,4P,4Q,4R,4S,4T,4U,4V,4W,4X,4Y,4Z,1mCURLY BRACKET,1xLINE,1pCURLY BRACKET,
     1TILDE,1myPARENTHESIS,1pyPARENTHESIS,0HALFWIDTH IDEOGRAPHIC FULL STOP,1mCORNER BRACKET,
     1pCORNER BRACKET,1IDEOGRAPHIC COMMA,1KATAKANA MIDDLE DOT,2oWO,3sA,4I,4U,4E,4O,4YA,4YU,4YO,4TU,
     1KATAKANA-HIRAGANA PROLONGED SOUND MARK,1KATAKANAoA,3I,3U,3E,3O,3KA,3KI,3KU,3KE,3KO,3SA,3SI,
     3SU,3SE,3SO,3TA,3TI,3TU,3TE,3TO,3NA,3NI,3NU,3NE,3NO,3HA,3HI,3HU,3HE,3HO,3MA,3MI,3MU,3ME,3MO,
     3YA,3YU,3YO,3RA,3RI,3RU,3RE,3RO,3WA,3N,2VOICED SOUND MARK,2SEMI-VOICED SOUND MARK,
     1HANGUL FILLER,2oKIYEOK,3SSANGKIYEOK,3KIYEOK-SIOS,3NIEUN,3NIEUN-CIEUC,3NIEUN-HIEUH,3TIKEUT,
     3SSANGTIKEUT,3RIEUL,3RIEUL-KIYEOK,3RIEUL-MIEUM,3RIEUL-PIEUP,3RIEUL-SIOS,3RIEUL-THIEUTH,
     3RIEUL-PHIEUPH,3RIEUL-HIEUH,3MIEUM,3PIEUP,3SSANGPIEUP,3PIEUP-SIOS,3SIOS,3SSANGSIOS,3IEUNG,
     3CIEUC,3SSANGCIEUC,3CHIEUCH,3KHIEUKH,3THIEUTH,3PHIEUPH,3HIEUH"),
   (0xFFC2, "3A,3AE,3YA,3YAE,3EO,3E"), (0xFFCA, "3YEO,3YE,3O,3WA,3WAE,3OE"),
   (0xFFD2, "3YO,3U,3WEO,3WE,3WI,3YU"), (0xFFDA, "3EU,3YI,3I"),
   (0xFFE0, "0FULLWIDTH CENTr,1POUNDr,1NOTr,1MACRON,1BROKEN BAR,1YENr,1WONr"),
   (0xFFE8, "0HALFWIDTH FORMS LIGHTx,1nc,1UPWARDSc,1qc,1DOWNWARDSc,1eSQUARE,1yCIRCLE"),
   (0xFFF9, "0INTERLINEAR ANNOTATION ANCHOR,2SEPARATOR,2TERMINATOR,0OBJECT REPLACEMENT CHARACTER,
     0REPLACEMENT CHARACTER"),
   (0x10000, "0LINEAR B SYLLABLE B008 A,3B038 E,3B028 I,3B061 O,3B010 U,3B001 DA,3B045 DE,3B007 DI,
     3B014 DO,3B051 DU,3B057 JA,3B046 JE"),
   (0x1000D, "3B036 JO,3B065 JU,3B077 KA,3B044 KE,3B067 KI,3B070 KO,3B081 KU,3B080 MA,3B013 ME,
     3B073 MI,3B015 MO,3B023 MU,3B006 NA,3B024 NE,3B030 NI,3B052 NO,3B055 NU,3B003 PA,3B072 PE,
     3B039 PI,3B011 PO,3B050 PU,3B016 QA,3B078 QE,3B021 QI,3B032 QO"),
   (0x10028, "3B060 RA,3B027 RE,3B053 RI,3B002 RO,3B026 RU,3B031 SA,3B009 SE,3B041 SI,3B012 SO,
     3B058 SU,3B059 TA,3B004 TE,3B037 TI,3B005 TO,3B069 TU,3B054 WA,3B075 WE,3B040 WI,3B042 WO"),
   (0x1003C, "3B017 ZA,3B074 ZE"),
   (0x1003F, "3B020 ZO,3B025 A2,3B043 A3,3B085 AU,3B071 DWE,3B090 DWO,3B048 NWA,3B029 PU2,3B062 PTE,
     3B076 RA2,3B033 RA3,3B068 RO2,3B066 TA2,3B087 TWE,3B091 TWO"),
   (0x10050, "2uB018,3B019,3B022,3B034,3B047,3B049,3B056,3B063,3B064,3B079,3B082,3B083,3B086,
     3B089"),
   (0x10080, "2IDEOGRAM B100 MAN,3B102 WOMAN,3B104 DEER,3B105 EQUID,3B105F MARE,3B105M STALLION,
     3B106F EWE,3B106M RAM,3B107F SHE-GOAT,3B107M HE-GOAT,3B108F SOW,3B108M BOAR,3B109F COW,
     3B109M BULL,3B120 WHEAT,3B121 BARLEY,3B122 OLIVE,3B123 SPICE,3B125 CYPERUS,2MONOGRAM B127 KAPO,
     3B128 KANAKO,2IDEOGRAM B130 OIL,3B131 WINE,3B132,2MONOGRAM B133 AREPA,3B135 MERI,
     2IDEOGRAM B140 BRONZE,3B141 GOLD,3B142,3B145 WOOL,3B146,3B150,3B151 HORN,3B152,3B153,3B154,
     2MONOGRAM B156 TURO2,2IDEOGRAM B157,3B158,3B159 CLOTH,3B160,3B161,3B162 GARMENT,3B163 ARMOUR,
     3B164,3B165,3B166,3B167,3B168,3B169,3B170,3B171,3B172,3B173 MONTH,3B174,3B176 TREE,3B177,3B178,
     3B179,3B180,3B181,3B182,3B183,3B184,3B185,3B189,3B190,3B191 HELMET,3B220 FOOTSTOOL,
     3B225 BATHTUB,3B230 SPEAR,3B231c,3B232,3B233 SWORD,3B234,3B236,3B240 WHEELED CHARIOT,
     3B241 CHARIOT,3B242 CHARIOT FRAME,3B243 WHEEL,3B245,3B246,2MONOGRAM B247 DIPTE,2IDEOGRAM B248,
     3B249,3B251,3B252,3B253,3B254 DART,3B255,3B256,3B257,3B258,3B259,3VESSEL B155,4B200,4B201,
     4B202,4B203,4B204,4B205,4B206,4B207,4B208,4B209,4B210,4B211,4B212,4B213,4B214,4B215,4B216,
     4B217,4B218,4B219,4B221,4B222,4B226,4B227,4B228,4B229,4B250,4B305"),
   (0x10100, "0AEGEAN WORD SEPARATOR LINE,3DOT,1CHECK MARK"),
   (0x10107, "1NUMBER ONE,2TWO,2v,2FOUR,2FIVE,2SIX,2SEVEN,2EIGHT,2NINE,2TEN,2TWENTY,2THIRTY,2FORTY,
     2FIFTY,2SIXTY,2SEVENTY,2EIGHTY,2NINETY,2ONE HUNDRED,2TWO HUNDRED,2vHUNDRED,2FOUR HUNDRED,
     2FIVE HUNDRED,2SIX HUNDRED,2SEVEN HUNDRED,2EIGHT HUNDRED,2NINE HUNDRED,2ONE THOUSAND,
     2TWO THOUSAND,2vTHOUSAND,2FOUR THOUSAND,2FIVE THOUSAND,2SIX THOUSAND,2SEVEN THOUSAND,
     2EIGHT THOUSAND,2NINE THOUSAND,2TEN THOUSAND,2TWENTY THOUSAND,2THIRTY THOUSAND,2FORTY THOUSAND,
     2FIFTY THOUSAND,2SIXTY THOUSAND,2SEVENTY THOUSAND,2EIGHTY THOUSAND,2NINETY THOUSAND"),
   (0x10137, "1WEIGHT BASE UNIT,2FIRST SUBUNIT,2SECOND SUBUNIT,2THIRD SUBUNIT,2FOURTH SUBUNIT,
     1DRY MEASURE FIRST SUBUNIT,1LIQUID MEASURE FIRST SUBUNIT,1MEASURE SECOND SUBUNIT,
     2THIRD SUBUNIT,0GREEK ACROPHONIC ATTIC ONE QUARTER,4HALF,4DRACHMA,3FIVE,3FIFTY,3FIVE HUNDRED,
     4THOUSAND,3FIFTY THOUSAND,3FIVE TALENTS,3TEN TALENTS,3FIFTY TALENTS,3ONE HUNDRED TALENTS,
     3FIVE HUNDRED TALENTS,3ONE THOUSAND TALENTS,3FIVE THOUSAND TALENTS,4STATERS,3TEN STATERS,
     3FIFTY STATERS,3ONE HUNDRED STATERS,3FIVE HUNDRED STATERS,3ONE THOUSAND STATERS,
     3TEN THOUSAND STATERS,3FIFTY THOUSAND STATERS,3TEN MNAS,2HERAEUM ONE PLETHRON,2THESPIAN ONE,
     2HERMIONIAN ONE,2EPIDAUREAN TWO,2THESPIAN TWO,2CYRENAIC TWO DRACHMAS,2EPIDAUREAN TWO DRACHMAS,
     2TROEZENIAN FIVE,3TEN,4ALTERNATEi,2HERMIONIAN TEN,2MESSENIAN TEN,2THESPIAN TEN,3THIRTY,
     2TROEZENIAN FIFTY,4ALTERNATEi,2HERMIONIAN FIFTY,2THESPIAN FIFTY,3ONE HUNDRED,3vHUNDRED,
     2EPIDAUREAN FIVE HUNDRED,2TROEZENIAN FIVE HUNDRED,2THESPIAN FIVE HUNDRED,
     2CARYSTIAN FIVE HUNDRED,2NAXIAN FIVE HUNDRED,2THESPIAN ONE THOUSAND,3FIVE THOUSAND,
     2DELPHIC FIVE MNAS,2STRATIAN FIFTY MNAS,1ONE HALFr,4ALTERNATEi,1TWO THIRDSr,1vQUARTERSr,1YEARr,
     1TALENTr,1DRACHMAr,1OBOLr,1TWO OBOLSr,1vOBOLSr,1FOUR OBOLSr,1FIVE OBOLSr,1METRETESr,
     1KYATHOS BASEr,1LITRAr,1OUNKIAr,1XESTESr,1ARTABEr,1AROURAr,1GRAMMAr,1TRYBLION BASEr,1ZEROr,
     1ONE QUARTERr,1SINUSOIDr,1INDICTIONr,0NOMISMAr"),
   (0x10190, "0ROMAN SEXTANSr,1UNCIAr,1SEMUNCIAr,1SEXTULAr,1DIMIDIA SEXTULAr,1SILIQUAr,1DENARIUSr,
     1QUINARIUSr,1SESTERTIUSr,1DUPONDIUSr,1ASr,1CENTURIALr,0ASCIAu"),
   (0x101A0, "0GREEKuTAU RHO"),
   (0x101D0, "0PHAISTOS DISCrPEDESTRIAN,3PLUMED HEAD,3TATTOOED HEAD,3CAPTIVE,3CHILD,3WOMAN,3HELMET,
     3GAUNTLET,3TIARA,3c,3BOW,3SHIELD,3CLUB,3MANACLES,3MATTOCK,3SAW,3LID,3BOOMERANG,
     3CARPENTRY PLANE,3DOLIUM,3COMB,3SLING,3COLUMN,3BEEHIVE,3SHIP,3HORN,3HIDE,3BULLS LEG,3CAT,3RAM,
     3EAGLE,3DOVE,3TUNNY,3BEE,3PLANE TREE,3VINE,3PAPYRUS,3ROSETTE,3LILY,3OX BACK,3FLUTE,3GRATER,
     3STRAINER,3sAXE,3WAVY BAND,3COMBINING OBLIQUEt"),
   (0x10280, "0LYCIANoA,2E,2B,2BH,2G,2D,2I,2W,2Z,2TH,2J,2K,2Q,2L,2M,2N,2MM,2NN,2U,2P,2KK,2R,2S,2T,
     2TT,2AN,2EN,2H,2X"),
   (0x102A0, "0CARIANoA,2P2,2D,2L,2UUU,2R,2LD,2A2,2Q,2B,2M,2O,2D2,2T,2SH,2SH2,2S,2C-18,2U,2NN,2X,2N,
     2TT2,2P,2SS,2I,2E,2UUUU,2K,2K2,2ND,2UU,2G,2G2,2ST,2ST2,2NG,2II,2C-39,2TT,2UUU2,2RR,2MB,2MB2,
     2MB3,2MB4,2LD2,2E2,2UUU3"),
   (0x102E0, "0COPTIC EPACT THOUSANDS MARK,2DIGIT ONE,3TWO,3v,3FOUR,3FIVE,3SIX,3SEVEN,3EIGHT,3NINE,
     2NUMBER TEN,3TWENTY,3THIRTY,3FORTY,3FIFTY,3SIXTY,3SEVENTY,3EIGHTY,3NINETY,3ONE HUNDRED,
     3TWO HUNDRED,3vHUNDRED,3FOUR HUNDRED,3FIVE HUNDRED,3SIX HUNDRED,3SEVEN HUNDRED,3EIGHT HUNDRED,
     3NINE HUNDRED"),
   (0x10300, "0OLD ITALICoA,3BE,3KE,3DE,3E,3VE,3ZE,3HE,3THE,3I,3KA,3EL,3EM,3EN,3ESH,3O,3PE,3SHE,3KU,
     3ER,3ES,3TE,3U,3EKS,3PHE,3KHE,3EF,3ERS,3CHE,3II,3UU,3ESS,2NUMERAL ONE,3FIVE,3TEN,3FIFTY"),
   (0x1032D, "2oYE,3NORTHERN TSE,3SOUTHERN TSE,0GOTHICoAHSA,2BAIRKAN,2GIBA,2DAGS,2AIHVUS,2QAIRTHRA,
     2IUJA,2HAGL,2THIUTH,2EIS,2KUSMA,2LAGUS,2MANNA,2NAUTHS,2JER,2URUS,2PAIRTHRA,2NINETY,2RAIDA,
     2SAUIL,2TEIWS,2WINJA,2FAIHU,2IGGWS,2HWAIR,2OTHAL,2NINE HUNDRED"),
   (0x10350, "0OLD PERMICoAN,3BUR,3GAI,3DOI,3E,3ZHOI,3DZHOI,3ZATA,3DZITA,3I,3KOKE,3LEI,3MENOE,
     3NENOE,3VOOI,3PEEI,3REI,3SII,3TAI,3U,3CHERY,3SHOOI,3SHCHOOI,3YRY,3YERU,3O,3OO,3EF,3HA,3TSIU,
     3VER,3YER,3YERI,3YAT,3IE,3YU,3YA,3IA,0COMBINING OLD PERMICoAN,4DOI,4ZATA,4NENOE,4SII"),
   (0x10380, "0UGARITICoALPA,2BETA,2GAMLA,2KHA,2DELTA,2HO,2WO,2ZETA,2HOTA,2TET,2YOD,2KAF,2SHIN,
     2LAMDA,2MEM,2DHAL,2NUN,2ZU,2SAMKA,2AIN,2PU,2SADE,2QOPA,2RASHA,2THANNA,2GHAIN,2TO,2I,2U,2SSU"),
   (0x1039F, "1WORD DIVIDER,0OLD PERSIANrA,3I,3U,3KA,3KU,3GA,3GU,3XA,3CA,3JA,3JI,3TA,3TU,3DA,3DI,
     3DU,3THA,3PA,3BA,3FA,3NA,3NU,3MA,3MI,3MU,3YA,3VA,3VI,3RA,3RU,3LA,3SA,3ZA,3SHA,3SSA,3HA"),
   (0x103C8, "3AURAMAZDAA,3AURAMAZDAA-2,3AURAMAZDAAHA,3XSHAAYATHIYA,3DAHYAAUSH,3DAHYAAUSH-2,3BAGA,
     3BUUMISH,2WORD DIVIDER,2NUMBER ONE,3TWO,3TEN,3TWENTY,3HUNDRED"),
   (0x10400, "0DESERETfoLONG I,4E,4A,4AH,4O,4OO,3SHORT I,4E,4A,4AH,4O,4OO,3AY,3OW,3WU,3YEE,3H,3PEE,
     3BEE,3TEE,3DEE,3CHEE,3JEE,3KAY,3GAY,3EF,3VEE,3ETH,3THEE,3ES,3ZEE,3ESH,3ZHEE,3ER,3EL,3EM,3EN,
     3ENG,3OI,3EW,1soLONG I,4E,4A,4AH,4O,4OO,3SHORT I,4E,4A,4AH,4O,4OO,3AY,3OW,3WU,3YEE,3H,3PEE,
     3BEE,3TEE,3DEE,3CHEE,3JEE,3KAY,3GAY,3EF,3VEE,3ETH,3THEE,3ES,3ZEE,3ESH,3ZHEE,3ER,3EL,3EM,3EN,
     3ENG,3OI,3EW,0SHAVIANoPEEP,2TOT,2KICK,2FEE,2THIGH,2SO,2SURE,2CHURCH,2YEA,2HUNG,2BIB,2DEAD,2GAG,
     2VOW,2THEY,2ZOO,2MEASURE,2JUDGE,2WOE,2HA-HA,2LOLL,2MIME,2IF,2EGG,2ASH,2ADO,2ON,2WOOL,2OUT,2AH,
     2ROAR,2NUN,2EAT,2AGE,2ICE,2UP,2OAK,2OOZE,2OIL,2AWE,2ARE,2OR,2AIR,2ERR,2ARRAY,2EAR,2IAN,2YEW,
     0OSMANYAoALEF,2BA,2TA,2JA,2XA,2KHA,2DEEL,2RA,2SA,2SHIIN,2DHA,2CAYN,2GA,2FA,2QAAF,2KAAF,2LAAN,
     2MIIN,2NUUN,2WAW,2HA,2YA,2A,2E,2I,2O,2U,2AA,2EE,2OO"),
   (0x104A0, "1DIGIT ZERO,2ONE,2TWO,2v,2FOUR,2FIVE,2SIX,2SEVEN,2EIGHT,2NINE"),
   (0x104B0, "0OSAGEfoA,3AI,3AIN,3AH,3BRA,3CHA,3EHCHA,3E,3EIN,3HA,3HYA,3I,3KA,3EHKA,3KYA,3LA,3MA,
     3NA,3O,3OIN,3PA,3EHPA,3SA,3SHA,3TA,3EHTA,3TSA,3EHTSA,3TSHA,3DHA,3U,3WA,3KHA,3GHA,3ZA,3ZHA"),
   (0x104D8, "1soA,3AI,3AIN,3AH,3BRA,3CHA,3EHCHA,3E,3EIN,3HA,3HYA,3I,3KA,3EHKA,3KYA,3LA,3MA,3NA,3O,
     3OIN,3PA,3EHPA,3SA,3SHA,3TA,3EHTA,3TSA,3EHTSA,3TSHA,3DHA,3U,3WA,3KHA,3GHA,3ZA,3ZHA"),
   (0x10500, "0ELBASANoA,2BE,2CE,2CHE,2DE,2NDE,2DHE,2EI,2E,2FE,2GE,2GJE,2HE,2I,2JE,2KE,2LE,2LLE,2ME,
     2NE,2NA,2NJE,2O,2PE,2QE,2RE,2RRE,2SE,2SHE,2TE,2THE,2U,2VE,2XE,2Y,2ZE,2ZHE,2GHE,2GHAMMA,2KHE"),
   (0x10530, "0CAUCASIAN ALBANIANoALT,3BET,3GIM,3DAT,3EB,3ZARL,3EYN,3ZHIL,3TAS,3CHA,3YOWD,3ZHA,3IRB,
     3SHA,3LAN,3INYA,3XEYN,3DYAN,3CAR,3JHOX,3KAR,3LYIT,3HEYT,3QAY,3AOR,3CHOY,3CHI,3CYAY,3MAQ,3QAR,
     3NOWC,3DZYAY,3SHAK,3JAYN,3ON,3TYAY,3FAM,3DZAY,3CHAT,3PEN,3GHEYS,3RAT,3SEYK,3VEYZ,3TIWR,3SHOY,
     3IWN,3CYAW,3CAYN,3YAYD,3PIWR,3KIW"),
   (0x1056F, "2CITATION MARK,0VITHKUQIfoA,3BBE,3BE,3CE,3CHE,3DE,3DHE,3EI,3E,3FE,3GA"),
   (0x1057C, "3HA,3HHA,3I,3IJE,3JE,3KA,3LA,3LLA,3ME,3NE,3NJE,3O,3PE,3QA,3RE"),
   (0x1058C, "3SE,3SHE,3TE,3THE,3U,3VE,3XE"), (0x10594, "3Y,3ZE"),
   (0x10597, "1soA,3BBE,3BE,3CE,3CHE,3DE,3DHE,3EI,3E,3FE,3GA"),
   (0x105A3, "3HA,3HHA,3I,3IJE,3JE,3KA,3LA,3LLA,3ME,3NE,3NJE,3O,3PE,3QA,3RE"),
   (0x105B3, "3SE,3SHE,3TE,3THE,3U,3VE,3XE"), (0x105BB, "3Y,3ZE"),
   (0x10600, "0LINEAR ArAB001,3AB002,3AB003,3AB004,3AB005,3AB006,3AB007,3AB008,3AB009,3AB010,3AB011,
     3AB013,3AB016,3AB017,3AB020,3AB021,3AB021F,3AB021M,3AB022,3AB022F,3AB022M,3AB023,3AB023M,
     3AB024,3AB026,3AB027,3AB028,3A028B,3AB029,3AB030,3AB031,3AB034,3AB037,3AB038,3AB039,3AB040,
     3AB041,3AB044,3AB045,3AB046,3AB047,3AB048,3AB049,3AB050,3AB051,3AB053,3AB054,3AB055,3AB056,
     3AB057,3AB058,3AB059,3AB060,3AB061,3AB065,3AB066,3AB067,3AB069,3AB070,3AB073,3AB074,3AB076,
     3AB077,3AB078,3AB079,3AB080,3AB081,3AB082,3AB085,3AB086,3AB087,3A100-102,3AB118,3AB120,3A120B,
     3AB122,3AB123,3AB131A,3AB131B,3A131C,3AB164,3AB171,3AB180,3AB188,3AB191,3A301,3A302,3A303,
     3A304,3A305,3A306,3A307,3A308,3A309A,3A309B,3A309C,3A310,3A311,3A312,3A313A,3A313B,3A313C,
     3A314,3A315,3A316,3A317,3A318,3A319,3A320,3A321,3A322,3A323,3A324,3A325,3A326,3A327,3A328,
     3A329,3A330,3A331,3A332,3A333,3A334,3A335,3A336,3A337,3A338,3A339,3A340,3A341,3A342,3A343,
     3A344,3A345,3A346,3A347,3A348,3A349,3A350,3A351,3A352,3A353,3A354,3A355,3A356,3A357,3A358,
     3A359,3A360,3A361,3A362,3A363,3A364,3A365,3A366,3A367,3A368,3A369,3A370,3A371,3A400-VAS,
     3A401-VAS,3A402-VAS,3A403-VAS,3A404-VAS,3A405-VAS,3A406-VAS,3A407-VAS,3A408-VAS,3A409-VAS,
     3A410-VAS,3A411-VAS,3A412-VAS,3A413-VAS,3A414-VAS,3A415-VAS,3A416-VAS,3A417-VAS,3A418-VAS,
     3A501,3A502,3A503,3A504,3A505,3A506,3A508,3A509,3A510,3A511,3A512,3A513,3A515,3A516,3A520,
     3A521,3A523,3A524,3A525,3A526,3A527,3A528,3A529,3A530,3A531,3A532,3A534,3A535,3A536,3A537,
     3A538,3A539,3A540,3A541,3A542,3A545,3A547,3A548,3A549,3A550,3A551,3A552,3A553,3A554,3A555,
     3A556,3A557,3A559,3A563,3A564,3A565,3A566,3A568,3A569,3A570,3A571,3A572,3A573,3A574,3A575,
     3A576,3A577,3A578,3A579,3A580,3A581,3A582,3A583,3A584,3A585,3A586,3A587,3A588,3A589,3A591,
     3A592,3A594,3A595,3A596,3A598,3A600,3A601,3A602,3A603,3A604,3A606,3A608,3A609,3A610,3A611,
     3A612,3A613,3A614,3A615,3A616,3A617,3A618,3A619,3A620,3A621,3A622,3A623,3A624,3A626,3A627,
     3A628,3A629,3A634,3A637,3A638,3A640,3A642,3A643,3A644,3A645,3A646,3A648,3A649,3A651,3A652,
     3A653,3A654,3A655,3A656,3A657,3A658,3A659,3A660,3A661,3A662,3A663,3A664"),
   (0x10740, "3A701 A,3A702 B,3A703 D,3A704 E,3A705 F,3A706 H,3A707 J,3A708 K,3A709 L,3A709-2 L2,
     3A709-3 L3,3A709-4 L4,3A709-6 L6,3A710 W,3A711 X,3A712 Y,3A713 OMEGA,3A714 ABB,3A715 BB,
     3A717 DD,3A726 EYYY,3A732 JE"),
   (0x10760, "3A800,3A801,3A802,3A803,3A804,3A805,3A806,3A807"),
   (0x10780, "0MODIFIERosfAA,2SUPERSCRIPT TRIANGULAR COLON,3HALF TRIANGULAR COLON,2sAE,3fB,
     3BzHOOK"),
   (0x10787, "3DZ DIGRAPH,5zRETROFLEX HOOK,6CURL,3DEZH DIGRAPH,3DzTAIL,5HOOK,6bTAIL,3REVERSED E,
     3CLOSED REVERSED OPEN E,3FENG DIGRAPH,3RAMS HORN,3fG,3GzHOOK,3fGzHOOK,3Hzt,3fH,3HENGzHOOK,
     3DOTLESS JztbHOOK,3LS DIGRAPH,3LZ DIGRAPH,3LzBELT,3fLzBELT,3LzRETROFLEX HOOKbBELT,3LEZH,
     4zRETROFLEX HOOK,3TURNED Y,5zBELT,3Ozt,3fOE,3CLOSED OMEGA,3Q,3TURNED RzLONG LEG,
     8bRETROFLEX HOOK,3RzTAIL,5FISHHOOK,3fR,3TC DIGRAPHzCURL,3TS DIGRAPH,5zRETROFLEX HOOK,
     3TESH DIGRAPH,3TzRETROFLEX HOOK,3VzpHOOK"),
   (0x107B2, "3fY,2GLOTTAL STOPzt,2REVERSED GLOTTAL STOPzt,2BILABIAL CLICK,2DENTAL CLICK,
     2LATERAL CLICK,2ALVEOLAR CLICK,2RETROFLEX CLICKzRETROFLEX HOOK,2sSzCURL"),
   (0x10800, "0CYPRIOT SYLLABLE A,2E,2I,2O,2U,2JA"), (0x10808, "2JO"),
   (0x1080A, "2KA,2KE,2KI,2KO,2KU,2LA,2LE,2LI,2LO,2LU,2MA,2ME,2MI,2MO,2MU,2NA,2NE,2NI,2NO,2NU,2PA,
     2PE,2PI,2PO,2PU,2RA,2RE,2RI,2RO,2RU,2SA,2SE,2SI,2SO,2SU,2TA,2TE,2TI,2TO,2TU,2WA,2WE,2WI,2WO"),
   (0x10837, "2XA,2XE"), (0x1083C, "2ZA"),
   (0x1083F, "2ZO,0IMPERIAL ARAMAICoALEPH,3BETH,3GIMEL,3DALETH,3HE,3WAW,3ZAYIN,3HETH,3TETH,3YODH,
     3KAPH,3LAMEDH,3MEM,3NUN,3SAMEKH,3AYIN,3PE,3SADHE,3QOPH,3RESH,3SHIN,3TAW"),
   (0x10857, "2SECTIONr,2NUMBER ONE,3TWO,3v,3TEN,3TWENTY,3ONE HUNDRED,4THOUSAND,3TEN THOUSAND,
     0PALMYRENEoALEPH,2BETH,2GIMEL,2DALETH,2HE,2WAW,2ZAYIN,2HETH,2TETH,2YODH,2KAPH,2LAMEDH,2MEM,
     2hNUN,2NUN,2SAMEKH,2AYIN,2PE,2SADHE,2QOPH,2RESH,2SHIN,2TAW,1LEFT-POINTING FLEURON,
     1RIGHT-POINTING FLEURON,1NUMBER ONE,2TWO,2v,2FOUR,2FIVE,2TEN,2TWENTY,0NABATAEANohALEPH,2ALEPH,
     2hBETH,2BETH,2GIMEL,2DALETH,2hHE,2HE,2WAW,2ZAYIN,2HETH,2TETH,2hYODH,2YODH,2hKAPH,2KAPH,
     2hLAMEDH,2LAMEDH,2hMEM,2MEM,2hNUN,2NUN,2SAMEKH,2AYIN,2PE,2SADHE,2QOPH,2RESH,2hSHIN,2SHIN,
     2TAW"),
   (0x108A7, "1NUMBER ONE,2TWO,2v,2FOUR,1CRUCIFORM NUMBER FOUR,1NUMBER FIVE,2TEN,2TWENTY,
     2ONE HUNDRED"),
   (0x108E0, "0HATRANoALEPH,2BETH,2GIMEL,2DALETH-RESH,2HE,2WAW,2ZAYN,2HETH,2TETH,2YODH,2KAPH,
     2LAMEDH,2MEM,2NUN,2SAMEKH,2AYN,2PE,2SADHE,2QOPH"),
   (0x108F4, "2SHIN,2TAW"),
   (0x108FB, "1NUMBER ONE,2FIVE,2TEN,2TWENTY,2ONE HUNDRED,0PHOENICIANoALF,2BET,2GAML,2DELT,2HE,2WAU,
     2ZAI,2HET,2TET,2YOD,2KAF,2LAMD,2MEM,2NUN,2SEMK,2AIN,2PE,2SADE,2QOF,2ROSH,2SHIN,2TAU,
     1NUMBER ONE,2TEN,2TWENTY,2ONE HUNDRED,2TWO,2v"),
   (0x1091F, "1WORD SEPARATOR,0LYDIANoA,2B,2G,2D,2E,2V,2I,2Y,2K,2L,2M,2N,2O,2R,2SS,2T,2U,2F,2Q,2S,
     2TT,2AN,2EN,2LY,2NN,2C"),
   (0x1093F, "1TRIANGULAR MARK"),
   (0x10980, "0MEROITIC HIEROGLYPHICoA,3E,3I,3O,3YA,3WA,3BA,3BA-2,3PA,3MA,3NA,3NA-2,3NE,3NE-2,3RA,
     3RA-2,3LA,3KHA,3HHA,3SA,3SA-2,3SE,3KA,3QA,3TA,3TA-2,3TE,3TE-2,3TO,3DA,2uVIDJ,3VIDJ-2,
     1CURSIVEoA,3E,3I,3O,3YA,3WA,3BA,3PA,3MA,3NA,3NE,3RA,3LA,3KHA,3HHA,3SA,3ARCHAIC SA,3SE,3KA,3QA,
     3TA,3TE,3TO,3DA"),
   (0x109BC, "2FRACTION ELEVEN TWELFTHS,3ONE HALF,2LOGOGRAM RMT,3IMN,2NUMBER ONE,3TWO,3v,3FOUR,
     3FIVE,3SIX,3SEVEN,3EIGHT,3NINE,3TEN,3TWENTY,3THIRTY,3FORTY,3FIFTY,3SIXTY,3SEVENTY"),
   (0x109D2, "3ONE HUNDRED,3TWO HUNDRED,3vHUNDRED,3FOUR HUNDRED,3FIVE HUNDRED,3SIX HUNDRED,
     3SEVEN HUNDRED,3EIGHT HUNDRED,3NINE HUNDRED,3ONE THOUSAND,3TWO THOUSAND,3vTHOUSAND,
     3FOUR THOUSAND,3FIVE THOUSAND,3SIX THOUSAND,3SEVEN THOUSAND,3EIGHT THOUSAND,3NINE THOUSAND,
     3TEN THOUSAND,3TWENTY THOUSAND,3THIRTY THOUSAND,3FORTY THOUSAND,3FIFTY THOUSAND,
     3SIXTY THOUSAND,3SEVENTY THOUSAND,3EIGHTY THOUSAND,3NINETY THOUSAND,3ONE HUNDRED THOUSAND,
     3TWO HUNDRED THOUSAND,3vHUNDRED THOUSAND,3FOUR HUNDRED THOUSAND,3FIVE HUNDRED THOUSAND,
     3SIX HUNDRED THOUSAND,3SEVEN HUNDRED THOUSAND,3EIGHT HUNDRED THOUSAND,3NINE HUNDRED THOUSAND,
     2FRACTION ONE TWELFTH,3TWO TWELFTHS,3vTWELFTHS,3FOUR TWELFTHS,3FIVE TWELFTHS,3SIX TWELFTHS,
     3SEVEN TWELFTHS,3EIGHT TWELFTHS,3NINE TWELFTHS,3TEN TWELFTHS,0KHAROSHTHIoA,1VOWELrI,3U,
     3VOCALIC R"),
   (0x10A05, "3E,3O"), (0x10A0C, "2LENGTH MARK,1rgRINGd,2ANUSVARA,2VISARGA,1oKA,2KHA,2GA,2GHA"),
   (0x10A15, "2CA,2CHA,2JA"),
   (0x10A19, "2NYA,2TTA,2TTHA,2DDA,2DDHA,2NNA,2TA,2THA,2DA,2DHA,2NA,2PA,2PHA,2BA,2BHA,2MA,2YA,2RA,
     2LA,2VA,2SHA,2SSA,2SA,2ZA,2HA,2KKA,2TTTHA,2TTTA,2VHA"),
   (0x10A38, "1rBARa,2CAUDA,2DOTd"),
   (0x10A3F, "1VIRAMA,1DIGIT ONE,2TWO,2v,2FOUR,1NUMBER TEN,2TWENTY,2ONE HUNDRED,3THOUSAND,
     1FRACTION ONE HALF"),
   (0x10A50, "1PUNCTUATION DOT,2sCIRCLE,2CIRCLE,2CRESCENT BAR,2MANGALAM,2LOTUS,2DANDA,2gDANDA,
     2LINES"),
   (0x10A60, "0OLD SOUTH ARABIANoHE,4LAMEDH,4HETH,4MEM,4QOPH,4WAW,4SHIN,4RESH,4BETH,4TAW,4SAT,4KAPH,
     4NUN,4KHETH,4SADHE,4SAMEKH,4FE,4ALEF,4AYN,4DHADHE,4GIMEL,4DALETH,4GHAYN,4TETH,4ZAYN,4DHALETH,
     4YODH,4THAW,4THETH,3NUMBER ONE,4FIFTY,3NUMERIC INDICATOR,1NORTH ARABIANoHEH,4LAM,4HAH,4MEEM,
     4QAF,4WAW,4ES-2,4REH,4BEH,4TEH,4ES-1,4KAF,4NOON,4KHAH,4SAD,4ES-3,4FEH,4ALEF,4AIN,4DAD,4GEEM,
     4DAL,4GHAIN,4TAH,4ZAIN,4THAL,4YEH,4THEH,4ZAH,3NUMBER ONE,4TEN,4TWENTY"),
   (0x10AC0, "0MANICHAEANoALEPH,2BETH,2BHETH,2GIMEL,2GHIMEL,2DALETH,2HE,2WAW,1rUD,1oZAYIN,2ZHAYIN,
     2JAYIN,2JHAYIN,2HETH,2TETH,2YODH,2KAPH,2XAPH,2KHAPH,2LAMEDH,2DHAMEDH,2THAMEDH,2MEM,2NUN,
     2SAMEKH,2AYIN,2AAYIN,2PE,2FE,2SADHE,2QOPH,2XOPH,2QHOPH,2RESH,2SHIN,2SSHIN,2TAW,
     1ABBREVIATION MARKa,3d"),
   (0x10AEB, "1NUMBER ONE,2FIVE,2TEN,2TWENTY,2ONE HUNDRED,1PUNCTUATION STAR,2FLEURON,
     2gDOT WITHIN DOT,2DOT WITHIN DOT,3,2TWO DOTS,2LINE FILLER"),
   (0x10B00, "0AVESTANoA,2AA,2AO,2AAO,2AN,2AAN,2AE,2AEE,2E,2EE,2O,2OO,2I,2II,2U,2UU,2KE,2XE,2XYE,
     2XVE,2GE,2GGE,2GHE,2CE,2JE,2TE,2THE,2DE,2DHE,2TTE,2PE,2FE,2BE,2BHE,2NGE,2NGYE,2NGVE,2NE,2NYE,
     2NNE,2ME,2HME,2YYE,2YE,2VE,2RE,2LE,2SE,2ZE,2SHE,2ZHE,2SHYE,2SSHE,2HE"),
   (0x10B39, "1ABBREVIATION MARK,0TINY TWO DOTS OVER ONE DOT PUNCTUATION,
     0sTWO DOTS OVER ONE DOT PUNCTUATION,0LARGE TWO DOTS OVER ONE DOT PUNCTUATION,
     1ONE DOT OVER TWO DOTS PUNCTUATION,1TWO RINGS OVER ONE RING PUNCTUATION,
     1ONE RING OVER TWO RINGS PUNCTUATION,0INSCRIPTIONAL PARTHIANoALEPH,3BETH,3GIMEL,3DALETH,3HE,
     3WAW,3ZAYIN,3HETH,3TETH,3YODH,3KAPH,3LAMEDH,3MEM,3NUN,3SAMEKH,3AYIN,3PE,3SADHE,3QOPH,3RESH,
     3SHIN,3TAW"),
   (0x10B58, "2NUMBER ONE,3TWO,3v,3FOUR,3TEN,3TWENTY,3ONE HUNDRED,4THOUSAND,1PAHLAVIoALEPH,3BETH,
     3GIMEL,3DALETH,3HE,3WAW-AYIN-RESH,3ZAYIN,3HETH,3TETH,3YODH,3KAPH,3LAMEDH,3MEM-QOPH,3NUN,
     3SAMEKH,3PE,3SADHE,3SHIN,3TAW"),
   (0x10B78, "2NUMBER ONE,3TWO,3v,3FOUR,3TEN,3TWENTY,3ONE HUNDRED,4THOUSAND,0PSALTER PAHLAVIoALEPH,
     3BETH,3GIMEL,3DALETH,3HE,3WAW-AYIN-RESH,3ZAYIN,3HETH,3YODH,3KAPH,3LAMEDH,3MEM-QOPH,3NUN,
     3SAMEKH,3PE,3SADHE,3SHIN,3TAW"),
   (0x10B99, "2SECTION MARK,2TURNED SECTION MARK,2FOUR DOTSzCROSS,5DOT"),
   (0x10BA9, "2NUMBER ONE,3TWO,3v,3FOUR,3TEN,3TWENTY,3ONE HUNDRED"),
   (0x10C00, "0OLD TURKICoORKHON A,3YENISEI A,4AE,3ORKHON I,3YENISEI I,4E,3ORKHON O,4OE,3YENISEI OE,
     3ORKHON AB,3YENISEI AB,3ORKHON AEB,3YENISEI AEB,3ORKHON AG,3YENISEI AG,3ORKHON AEG,
     3YENISEI AEG,3ORKHON AD,3YENISEI AD,3ORKHON AED,4EZ,3YENISEI EZ,3ORKHON AY,3YENISEI AY,
     3ORKHON AEY,3YENISEI AEY,3ORKHON AEK,3YENISEI AEK,3ORKHON OEK,3YENISEI OEK,3ORKHON AL,
     3YENISEI AL,3ORKHON AEL,4ELT,4EM,4AN,4AEN,3YENISEI AEN,3ORKHON ENT,3YENISEI ENT,3ORKHON ENC,
     3YENISEI ENC,3ORKHON ENY,3YENISEI ENY,4ANG,3ORKHON ENG,3YENISEI AENG,3ORKHON EP,4OP,4IC,4EC,
     3YENISEI EC,3ORKHON AQ,3YENISEI AQ,3ORKHON IQ,3YENISEI IQ,3ORKHON OQ,3YENISEI OQ,3ORKHON AR,
     3YENISEI AR,3ORKHON AER,4AS,4AES,4ASH,3YENISEI ASH,3ORKHON ESH,3YENISEI ESH,3ORKHON AT,
     3YENISEI AT,3ORKHON AET,3YENISEI AET,3ORKHON OT,4BASH"),
   (0x10C80, "1HUNGARIANfoA,4AA,4EB,4AMB,4EC,4ENC,4ECS,4ED,4b,4E,4CLOSE E,4EE,4EF,4EG,4EGY,4EH,4I,
     4II,4EJ,4EK,4AK,4UNK,4EL,4ELY,4EM,4EN,4ENY,4O,4OO,4NIKOLSBURG OE,4RUDIMENTA OE,4OEE,4EP,4EMP,
     4ER,4SHORT ER,4ES,4ESZ,4ET,4ENT,4ETY,4ECH,4U,4UU,4NIKOLSBURG UE,4RUDIMENTA UE,4EV,4EZ,4EZS,
     4ENT-SHAPEDr,4US"),
   (0x10CC0, "2soA,4AA,4EB,4AMB,4EC,4ENC,4ECS,4ED,4b,4E,4CLOSE E,4EE,4EF,4EG,4EGY,4EH,4I,4II,4EJ,
     4EK,4AK,4UNK,4EL,4ELY,4EM,4EN,4ENY,4O,4OO,4NIKOLSBURG OE,4RUDIMENTA OE,4OEE,4EP,4EMP,4ER,
     4SHORT ER,4ES,4ESZ,4ET,4ENT,4ETY,4ECH,4U,4UU,4NIKOLSBURG UE,4RUDIMENTA UE,4EV,4EZ,4EZS,
     4ENT-SHAPEDr,4US"),
   (0x10CFA, "2NUMBER ONE,3FIVE,3TEN,3FIFTY,3ONE HUNDRED,4THOUSAND,0HANIFI ROHINGYAoA,3BA,3PA,3TA,
     3TTA,3JA,3CA,3HA,3KHA,3FA,3DA,3DDA,3RA,3RRA,3ZA,3SA,3SHA,3KA,3GA,3LA,3MA,3NA,3WA,3KINNA WA,3YA,
     3KINNA YA,3NGA,3NYA,3VA,2VOWEL A,3I,3U,3E,3O,2MARK SAKIN,3NA KHONNA,2rHARBAHAY,3TAHALA,3TANA,
     3TASSI"),
   (0x10D30, "2DIGIT ZERO,3ONE,3TWO,3v,3FOUR,3FIVE,3SIX,3SEVEN,3EIGHT,3NINE"),
   (0x10E60, "0RUMI DIGIT ONE,2TWO,2v,2FOUR,2FIVE,2SIX,2SEVEN,2EIGHT,2NINE,1NUMBER TEN,2TWENTY,
     2THIRTY,2FORTY,2FIFTY,2SIXTY,2SEVENTY,2EIGHTY,2NINETY,2ONE HUNDRED,2TWO HUNDRED,2vHUNDRED,
     2FOUR HUNDRED,2FIVE HUNDRED,2SIX HUNDRED,2SEVEN HUNDRED,2EIGHT HUNDRED,2NINE HUNDRED,
     1FRACTION ONE HALF,3QUARTER,3THIRD,2TWO THIRDS"),
   (0x10E80, "0YEZIDIoELIF,2BE,2PE,2PHE,2THE,2SE,2CIM,2CHIM,2CHHIM,2HHA,2XA,2DAL,2ZAL,2RA,2RHA,2ZA,
     2JA,2SIN,2SHIN,2SAD,2DAD,2TA,2ZE,2EYN,2XHEYN,2FA,2VA,3ALTERNATEi,2QAF,2KAF,2KHAF,2GAF,2LAM,
     2MIM,2NUN,2UM,2WAW,2OW,2EW,2HAY,2YOT,2ET"),
   (0x10EAB, "1COMBINING HAMZA MARK,2MADDA MARK,1HYPHENATION MARK"),
   (0x10EB0, "1oLAMzDOTa,2YOTzCIRCUMFLEXa"),
   (0x10F00, "0OLD SOGDIANoALEPH,3hALEPH,3BETH,3hBETH,3GIMEL,3HE,3hHE,3WAW,3ZAYIN,3HETH,3YODH,3KAPH,
     3LAMEDH,3MEM,3NUN,3hNUN,5zxTAIL,3SAMEKH,3AYIN,3ALTERNATE AYIN,3PE,3SADHE,3hSADHE,5zxTAIL,
     3RESH-AYIN-DALETH,3SHIN,3TAW,3hTAW,5zxTAIL,2NUMBER ONE,3TWO,3v,3FOUR,3FIVE,3TEN,3TWENTY,
     3THIRTY,3ONE HUNDRED,2FRACTION ONE HALF,2LIGATURE AYIN-DALETH"),
   (0x10F30, "0SOGDIANoALEPH,2BETH,2GIMEL,2HE,2WAW,2ZAYIN,2HETH,2YODH,2KAPH,2LAMEDH,2MEM,2NUN,
     2SAMEKH,2AYIN,2PE,2SADHE,2RESH-AYIN,2SHIN,2TAW,2FETH,2LESH,1INDEPENDENT SHIN,1COMBINING DOTd,
     2TWO DOTSd,2DOTa,2TWO DOTSa,2CURVEa,3d,2HOOKa,3d,2LONG HOOKd,2RESHd,2td,1NUMBER ONE,2TEN,
     2TWENTY,2ONE HUNDRED,1PUNCTUATION TWOxBARS,5zDOTS,2CIRCLEzDOT,2TWO CIRCLESzDOTS,
     2HALF CIRCLEzDOT"),
   (0x10F70, "0OLD UYGHURoALEPH,3BETH,3GIMEL-HETH,3WAW,3ZAYIN,3hHETH,3YODH,3KAPH,3LAMEDH,3MEM,3NUN,
     3SAMEKH,3PE,3SADHE,3RESH,3SHIN,3TAW,3LESH,2COMBINING DOTa,4d,3TWO DOTSa,5d,2PUNCTUATION BAR,
     3TWO BARS,4DOTS,3FOUR DOTS"),
   (0x10FB0, "0CHORASMIANoALEPH,2sALEPH,2BETH,2GIMEL,2DALETH,2HE,2WAW,2CURLED WAW,2ZAYIN,2HETH,
     2YODH,2KAPH,2LAMEDH,2MEM,2NUN,2SAMEKH,2AYIN,2PE,2RESH,2SHIN,2TAW,1NUMBER ONE,2TWO,2v,2FOUR,
     2TEN,2TWENTY,2ONE HUNDRED"),
   (0x10FE0, "0ELYMAICoALEPH,2BETH,2GIMEL,2DALETH,2HE,2WAW,2ZAYIN,2HETH,2TETH,2YODH,2KAPH,2LAMEDH,
     2MEM,2NUN,2SAMEKH,2AYIN,2PE,2SADHE,2QOPH,2RESH,2SHIN,2TAW,1LIGATURE ZAYIN-YODH"),
   (0x11000, "0BRAHMIrCANDRABINDU,2ANUSVARA,2VISARGA,2JIHVAMULIYA,2UPADHMANIYA,1oA,2AA,2I,2II,2U,
     2UU,2VOCALIC R,3RR,3L,3LL,2E,2AI,2O,2AU,2KA,2KHA,2GA,2GHA,2NGA,2CA,2CHA,2JA,2JHA,2NYA,2TTA,
     2TTHA,2DDA,2DDHA,2NNA,2TA,2THA,2DA,2DHA,2NA,2PA,2PHA,2BA,2BHA,2MA,2YA,2RA,2LA,2VA,2SHA,2SSA,
     2SA,2HA,2LLA,2OLD TAMIL LLLA,4RRA,4NNNA,1VOWELrAA,3BHATTIPROLU AA,3I,3II,3U,3UU,3VOCALIC R,4RR,
     4L,4LL,3E,3AI,3O,3AU,1VIRAMA,1DANDA,1gDANDA,1PUNCTUATION DOT,2gDOT,2LINE,2CRESCENT BAR,
     2LOTUS"),
   (0x11052, "1NUMBER ONE,2TWO,2v,2FOUR,2FIVE,2SIX,2SEVEN,2EIGHT,2NINE,2TEN,2TWENTY,2THIRTY,2FORTY,
     2FIFTY,2SIXTY,2SEVENTY,2EIGHTY,2NINETY,2ONE HUNDRED,3THOUSAND,1DIGIT ZERO,2ONE,2TWO,2v,2FOUR,
     2FIVE,2SIX,2SEVEN,2EIGHT,2NINE,1rOLD TAMIL VIRAMA,1oOLD TAMIL SHORT E,5O,
     1VOWELrOLD TAMIL SHORT E,6O,1oOLD TAMIL LLA"),
   (0x1107F, "1NUMBER JOINER,0KAITHIrCANDRABINDU,2ANUSVARA,2VISARGA,1oA,2AA,2I,2II,2U,2UU,2E,2AI,2O,
     2AU,2KA,2KHA,2GA,2GHA,2NGA,2CA,2CHA,2JA,2JHA,2NYA,2TTA,2TTHA,2DDA,2DDDHA,2DDHA,2RHA,2NNA,2TA,
     2THA,2DA,2DHA,2NA,2PA,2PHA,2BA,2BHA,2MA,2YA,2RA,2LA,2VA,2SHA,2SSA,2SA,2HA,1VOWELrAA,3I,3II,3U,
     3UU,3E,3AI,3O,3AU,1rVIRAMA,2NUKTA,1ABBREVIATIONr,1ENUMERATIONr,1NUMBERr,1SECTION MARK,
     1gSECTION MARK,1DANDA,1gDANDA,1VOWELrVOCALIC R"),
   (0x110CD, "1NUMBERra"),
   (0x110D0, "0SORA SOMPENGoSAH,3TAH,3BAH,3CAH,3DAH,3GAH,3MAH,3NGAH,3LAH,3NAH,3VAH,3PAH,3YAH,3RAH,
     3HAH,3KAH,3JAH,3NYAH,3AH,3EEH,3IH,3UH,3OH,3EH,3MAE"),
   (0x110F0, "2DIGIT ZERO,3ONE,3TWO,3v,3FOUR,3FIVE,3SIX,3SEVEN,3EIGHT,3NINE"),
   (0x11100, "0CHAKMArCANDRABINDU,2ANUSVARA,2VISARGA,1oAA,2I,2U,2E,2KAA,2KHAA,2GAA,2GHAA,2NGAA,2CAA,
     2CHAA,2JAA,2JHAA,2NYAA,2TTAA,2TTHAA,2DDAA,2DDHAA,2NNAA,2TAA,2THAA,2DAA,2DHAA,2NAA,2PAA,2PHAA,
     2BAA,2BHAA,2MAA,2YYAA,2YAA,2RAA,2LAA,2WAA,2SAA,2HAA,1VOWELrA,3I,3II,3U,3UU,3E,3AI,3O,3AU,3OI,
     1O MARK,1AU MARK,1VIRAMA,1MAAYYAA"),
   (0x11136, "1DIGIT ZERO,2ONE,2TWO,2v,2FOUR,2FIVE,2SIX,2SEVEN,2EIGHT,2NINE,1SECTION MARK,1DANDA,
     1gDANDA,1QUESTION MARK,1oLHAA,1VOWELrAA,3EI,1oVAA"),
   (0x11150, "0MAHAJANIoA,2I,2U,2E,2O,2KA,2KHA,2GA,2GHA,2CA,2CHA,2JA,2JHA,2NYA,2TTA,2TTHA,2DDA,
     2DDHA,2NNA,2TA,2THA,2DA,2DHA,2NA,2PA,2PHA,2BA,2BHA,2MA,2RA,2LA,2VA,2SA,2HA,2RRA,1rNUKTA,
     1ABBREVIATIONr,1SECTION MARK,1LIGATURE SHRI"),
   (0x11180, "0SHARADArCANDRABINDU,2ANUSVARA,2VISARGA,1oA,2AA,2I,2II,2U,2UU,2VOCALIC R,3RR,3L,3LL,
     2E,2AI,2O,2AU,2KA,2KHA,2GA,2GHA,2NGA,2CA,2CHA,2JA,2JHA,2NYA,2TTA,2TTHA,2DDA,2DDHA,2NNA,2TA,
     2THA,2DA,2DHA,2NA,2PA,2PHA,2BA,2BHA,2MA,2YA,2RA,2LA,2LLA,2VA,2SHA,2SSA,2SA,2HA,1VOWELrAA,3I,
     3II,3U,3UU,3VOCALIC R,4RR,4L,4LL,3E,3AI,3O,3AU,1rVIRAMA,2AVAGRAHA,2JIHVAMULIYA,2UPADHMANIYA,
     1OM,1DANDA,1gDANDA,1ABBREVIATIONr,1SEPARATOR,1SANDHI MARK,1rNUKTA,1VOWEL MODIFIER MARK,
     1EXTRA SHORT VOWEL MARK,1SUTRA MARK,1VOWELrPRISHTHAMATRA E,1rINVERTED CANDRABINDU,1DIGIT ZERO,
     2ONE,2TWO,2v,2FOUR,2FIVE,2SIX,2SEVEN,2EIGHT,2NINE,1EKAM,1rSIDDHAM,1HEADSTROKE,1CONTINUATIONr,
     1SECTION MARK-1,2MARK-2"),
   (0x111E1, "0SINHALA ARCHAIC DIGIT ONE,3TWO,3v,3FOUR,3FIVE,3SIX,3SEVEN,3EIGHT,3NINE,2NUMBER TEN,
     3TWENTY,3THIRTY,3FORTY,3FIFTY,3SIXTY,3SEVENTY,3EIGHTY,3NINETY,3ONE HUNDRED,4THOUSAND"),
   (0x11200, "0KHOJKIoA,2AA,2I,2U,2E,2AI,2O,2AU,2KA,2KHA,2GA,2GGA,2GHA,2NGA,2CA,2CHA,2JA,2JJA"),
   (0x11213, "2NYA,2TTA,2TTHA,2DDA,2DDHA,2NNA,2TA,2THA,2DA,2DDDA,2DHA,2NA,2PA,2PHA,2BA,2BBA,2BHA,
     2MA,2YA,2RA,2LA,2VA,2SA,2HA,2LLA,1VOWELrAA,3I,3II,3U,3E,3AI,3O,3AU,1rANUSVARA,2VIRAMA,2NUKTA,
     2SHADDA,1DANDA,1gDANDA,1WORD SEPARATOR,1SECTION MARK,1gSECTION MARK,1ABBREVIATIONr,1rSUKUN"),
   (0x11280, "0MULTANIoA,2I,2U,2E,2KA,2KHA,2GA"), (0x11288, "2GHA"), (0x1128A, "2CA,2CHA,2JA,2JJA"),
   (0x1128F, "2NYA,2TTA,2TTHA,2DDA,2DDDA,2DDHA,2NNA,2TA,2THA,2DA,2DHA,2NA,2PA,2PHA,2BA"),
   (0x1129F, "2BHA,2MA,2YA,2RA,2LA,2VA,2SA,2HA,2RRA,2RHA,1SECTION MARK"),
   (0x112B0, "0KHUDAWADIoA,2AA,2I,2II,2U,2UU,2E,2AI,2O,2AU,2KA,2KHA,2GA,2GGA,2GHA,2NGA,2CA,2CHA,2JA,
     2JJA,2JHA,2NYA,2TTA,2TTHA,2DDA,2DDDA,2RRA,2DDHA,2NNA,2TA,2THA,2DA,2DHA,2NA,2PA,2PHA,2BA,2BBA,
     2BHA,2MA,2YA,2RA,2LA,2VA,2SHA,2SA,2HA,1rANUSVARA,1VOWELrAA,3I,3II,3U,3UU,3E,3AI,3O,3AU,1rNUKTA,
     2VIRAMA"),
   (0x112F0, "1DIGIT ZERO,2ONE,2TWO,2v,2FOUR,2FIVE,2SIX,2SEVEN,2EIGHT,2NINE"),
   (0x11300, "0GRANTHArCOMBINING ANUSVARAa,2CANDRABINDU,2ANUSVARA,2VISARGA"),
   (0x11305, "1oA,2AA,2I,2II,2U,2UU,2VOCALIC R,3L"), (0x1130F, "2EE,2AI"),
   (0x11313, "2OO,2AU,2KA,2KHA,2GA,2GHA,2NGA,2CA,2CHA,2JA,2JHA,2NYA,2TTA,2TTHA,2DDA,2DDHA,2NNA,2TA,
     2THA,2DA,2DHA,2NA"),
   (0x1132A, "2PA,2PHA,2BA,2BHA,2MA,2YA,2RA"), (0x11332, "2LA,2LLA"),
   (0x11335, "2VA,2SHA,2SSA,2SA,2HA"),
   (0x1133B, "0COMBINING BINDUd,0GRANTHArNUKTA,2AVAGRAHA,1VOWELrAA,3I,3II,3U,3UU,3VOCALIC R,4RR"),
   (0x11347, "3EE,3AI"), (0x1134B, "3OO,3AU,1rVIRAMA"), (0x11350, "1OM"),
   (0x11357, "1AU LENGTH MARK"),
   (0x1135D, "1rPLUTA,1oVEDIC ANUSVARA,3gANUSVARA,2VOCALIC RR,3LL,1VOWELrVOCALIC L,4LL"),
   (0x11366, "0COMBINING GRANTHA DIGIT ZERO,3ONE,3TWO,3v,3FOUR,3FIVE,3SIX"),
   (0x11370, "2oA,3KA,3NA,3VI,3PA"),
   (0x11400, "0NEWAoA,2AA,2I,2II,2U,2UU,2VOCALIC R,3RR,3L,3LL,2E,2AI,2O,2AU,2KA,2KHA,2GA,2GHA,2NGA,
     2NGHA,2CA,2CHA,2JA,2JHA,2NYA,2NYHA,2TTA,2TTHA,2DDA,2DDHA,2NNA,2TA,2THA,2DA,2DHA,2NA,2NHA,2PA,
     2PHA,2BA,2BHA,2MA,2MHA,2YA,2RA,2RHA,2LA,2LHA,2WA,2SHA,2SSA,2SA,2HA,1VOWELrAA,3I,3II,3U,3UU,
     3VOCALIC R,4RR,4L,4LL,3E,3AI,3O,3AU,1rVIRAMA,2CANDRABINDU,2ANUSVARA,2VISARGA,2NUKTA,2AVAGRAHA,
     2hANUSVARA,1OM,1SIDDHI,1DANDA,1gDANDA,1COMMA,1GAP FILLER,1ABBREVIATIONr,1DIGIT ZERO,2ONE,2TWO,
     2v,2FOUR,2FIVE,2SIX,2SEVEN,2EIGHT,2NINE,1gCOMMA,1PLACEHOLDER MARK"),
   (0x1145D, "1INSERTIONr,1SANDHI MARK,1oVEDIC ANUSVARA,1rJIHVAMULIYA,2UPADHMANIYA"),
   (0x11480, "0TIRHUTA ANJI,1oA,2AA,2I,2II,2U,2UU,2VOCALIC R,3RR,3L,3LL,2E,2AI,2O,2AU,2KA,2KHA,2GA,
     2GHA,2NGA,2CA,2CHA,2JA,2JHA,2NYA,2TTA,2TTHA,2DDA,2DDHA,2NNA,2TA,2THA,2DA,2DHA,2NA,2PA,2PHA,2BA,
     2BHA,2MA,2YA,2RA,2LA,2VA,2SHA,2SSA,2SA,2HA,1VOWELrAA,3I,3II,3U,3UU,3VOCALIC R,4RR,4L,4LL,3E,
     3SHORT E,3AI,3O,3SHORT O,3AU,1rCANDRABINDU,2ANUSVARA,2VISARGA,2VIRAMA,2NUKTA,2AVAGRAHA,1GVANG,
     1ABBREVIATIONr,1OM"),
   (0x114D0, "1DIGIT ZERO,2ONE,2TWO,2v,2FOUR,2FIVE,2SIX,2SEVEN,2EIGHT,2NINE"),
   (0x11580, "0SIDDHAMoA,2AA,2I,2II,2U,2UU,2VOCALIC R,3RR,3L,3LL,2E,2AI,2O,2AU,2KA,2KHA,2GA,2GHA,
     2NGA,2CA,2CHA,2JA,2JHA,2NYA,2TTA,2TTHA,2DDA,2DDHA,2NNA,2TA,2THA,2DA,2DHA,2NA,2PA,2PHA,2BA,2BHA,
     2MA,2YA,2RA,2LA,2VA,2SHA,2SSA,2SA,2HA,1VOWELrAA,3I,3II,3U,3UU,3VOCALIC R,4RR"),
   (0x115B8, "3E,3AI,3O,3AU,1rCANDRABINDU,2ANUSVARA,2VISARGA,2VIRAMA,2NUKTA,2SIDDHAM,1DANDA,1gDANDA,
     1SEPARATOR DOT,2BAR,1REPETITION MARK-1,2MARK-2,2MARK-3,1END OF TEXT MARK,
     1SECTION MARKzTRIDENTbU-SHAPED ORNAMENTS,6DOTTED CRESCENTS,4RAYSbDOTTED CRESCENTS,7gCRESCENTS,
     7TRIPLE CRESCENTS,3gRING,5zRAYS,3zgCRESCENTS,4TRIPLE CRESCENTS,4QUADRUPLE CRESCENTS,
     4SEPTUPLE CRESCENTS,4CIRCLESbRAYS,6TWO ENCLOSURES,6FOUR ENCLOSURES,1oTHREE-CIRCLE ALTERNATE I,
     2TWO-CIRCLE ALTERNATE I,4II,2ALTERNATE U,1VOWELrALTERNATE U,4UU"),
   (0x11600, "0MODIoA,2AA,2I,2II,2U,2UU,2VOCALIC R,3RR,3L,3LL,2E,2AI,2O,2AU,2KA,2KHA,2GA,2GHA,2NGA,
     2CA,2CHA,2JA,2JHA,2NYA,2TTA,2TTHA,2DDA,2DDHA,2NNA,2TA,2THA,2DA,2DHA,2NA,2PA,2PHA,2BA,2BHA,2MA,
     2YA,2RA,2LA,2VA,2SHA,2SSA,2SA,2HA,2LLA,1VOWELrAA,3I,3II,3U,3UU,3VOCALIC R,4RR,4L,4LL,3E,3AI,3O,
     3AU,1rANUSVARA,2VISARGA,2VIRAMA,2ARDHACANDRA,1DANDA,1gDANDA,1ABBREVIATIONr,1rHUVA"),
   (0x11650, "1DIGIT ZERO,2ONE,2TWO,2v,2FOUR,2FIVE,2SIX,2SEVEN,2EIGHT,2NINE"),
   (0x11660, "0MONGOLIAN BIRGAzORNAMENT,1ROTATED BIRGA,1gBIRGAzORNAMENT,1TRIPLE BIRGAzORNAMENT,
     1BIRGAzgORNAMENT,1ROTATED BIRGAzORNAMENT,4gORNAMENT,1INVERTED BIRGA,3zgORNAMENT,1SWIRL BIRGA,
     3zORNAMENT,4gORNAMENT,1TURNED SWIRL BIRGAzgORNAMENT"),
   (0x11680, "0TAKRIoA,2AA,2I,2II,2U,2UU,2E,2AI,2O,2AU,2KA,2KHA,2GA,2GHA,2NGA,2CA,2CHA,2JA,2JHA,
     2NYA,2TTA,2TTHA,2DDA,2DDHA,2NNA,2TA,2THA,2DA,2DHA,2NA,2PA,2PHA,2BA,2BHA,2MA,2YA,2RA,2LA,2VA,
     2SHA,2SA,2HA,2RRA,1rANUSVARA,2VISARGA,1VOWELrAA,3I,3II,3U,3UU,3E,3AI,3O,3AU,1rVIRAMA,2NUKTA,
     1oARCHAIC KHA,1ABBREVIATIONr"),
   (0x116C0, "1DIGIT ZERO,2ONE,2TWO,2v,2FOUR,2FIVE,2SIX,2SEVEN,2EIGHT,2NINE"),
   (0x11700, "0AHOMoKA,2KHA,2NGA,2NA,2TA,2ALTERNATE TA,2PA,2PHA,2BA,2MA,2JA,2CHA,2THA,2RA,2LA,2SA,
     2NYA,2HA,2A,2DA,2DHA,2GA,2ALTERNATE GA,2GHA,2BHA,2JHA,2ALTERNATE BA"),
   (0x1171D, "1CONSONANTrMEDIAL LA,4RA,4LIGATING RA,1VOWELrA,3AA,3I,3II,3U,3UU,3E,3AW,3O,3AI,3AM,
     1rKILLER"),
   (0x11730, "1DIGIT ZERO,2ONE,2TWO,2v,2FOUR,2FIVE,2SIX,2SEVEN,2EIGHT,2NINE,1NUMBER TEN,2TWENTY,
     1rsSECTION,2SECTION,2RULAI,1uVI,1oCA,2TTA,2TTHA,2DDA,2DDHA,2NNA,2LLA"),
   (0x11800, "0DOGRAoA,2AA,2I,2II,2U,2UU,2E,2AI,2O,2AU,2KA,2KHA,2GA,2GHA,2NGA,2CA,2CHA,2JA,2JHA,
     2NYA,2TTA,2TTHA,2DDA,2DDHA,2NNA,2TA,2THA,2DA,2DHA,2NA,2PA,2PHA,2BA,2BHA,2MA,2YA,2RA,2LA,2VA,
     2SHA,2SSA,2SA,2HA,2RRA,1VOWELrAA,3I,3II,3U,3UU,3VOCALIC R,4RR,3E,3AI,3O,3AU,1rANUSVARA,
     2VISARGA,2VIRAMA,2NUKTA,1ABBREVIATIONr"),
   (0x118A0, "0WARANG CITIfoNGAA,4A,4WI,4YU,4YA,4YO,4II,4UU,4E,4O,4ANG,4GA,4KO,4ENY,4YUJ,4UC,4ENN,
     4ODD,4TTE,4NUNG,4DA,4AT,4AM,4BU,4PU,4HIYO,4HOLO,4HORR,4HAR,4SSUU,4SII,4VIYO,2soNGAA,4A,4WI,4YU,
     4YA,4YO,4II,4UU,4E,4O,4ANG,4GA,4KO,4ENY,4YUJ,4UC,4ENN,4ODD,4TTE,4NUNG,4DA,4AT,4AM,4BU,4PU,
     4HIYO,4HOLO,4HORR,4HAR,4SSUU,4SII,4VIYO,2DIGIT ZERO,3ONE,3TWO,3v,3FOUR,3FIVE,3SIX,3SEVEN,
     3EIGHT,3NINE,2NUMBER TEN,3TWENTY,3THIRTY,3FORTY,3FIFTY,3SIXTY,3SEVENTY,3EIGHTY,3NINETY"),
   (0x118FF, "2OM,0DIVES AKURUoA,3AA,3I,3II,3U,3UU,3E"), (0x11909, "3O"),
   (0x1190C, "3KA,3KHA,3GA,3GHA,3NGA,3CA,3CHA,3JA"), (0x11915, "3NYA,3TTA"),
   (0x11918, "3DDA,3DDHA,3NNA,3TA,3THA,3DA,3DHA,3NA,3PA,3PHA,3BA,3BHA,3MA,3YA,3YYA,3RA,3LA,3VA,3SHA,
     3SSA,3SA,3HA,3LLA,3ZA,2VOWELrAA,4I,4II,4U,4UU,4E"),
   (0x11937, "4AI,4O"),
   (0x1193B, "2rANUSVARA,3CANDRABINDU,3HALANTA,2VIRAMA,2PREFIXED NASALr,2MEDIAL YA,2kRA,2MEDIAL RA,
     2rNUKTA,2gDANDA,2GAP FILLER,2END OF TEXT MARK"),
   (0x11950, "2DIGIT ZERO,3ONE,3TWO,3v,3FOUR,3FIVE,3SIX,3SEVEN,3EIGHT,3NINE"),
   (0x119A0, "0NANDINAGARIoA,2AA,2I,2II,2U,2UU,2VOCALIC R,3RR"),
   (0x119AA, "2E,2AI,2O,2AU,2KA,2KHA,2GA,2GHA,2NGA,2CA,2CHA,2JA,2JHA,2NYA,2TTA,2TTHA,2DDA,2DDHA,
     2NNA,2TA,2THA,2DA,2DHA,2NA,2PA,2PHA,2BA,2BHA,2MA,2YA,2RA,2LA,2VA,2SHA,2SSA,2SA,2HA,2LLA,2RRA,
     1VOWELrAA,3I,3II,3U,3UU,3VOCALIC R,4RR"),
   (0x119DA, "3E,3AI,3O,3AU,1rANUSVARA,2VISARGA,2VIRAMA,2AVAGRAHA,2SIDDHAM,1HEADSTROKE,
     1VOWELrPRISHTHAMATRA E"),
   (0x11A00, "0ZANABAZAR SQUAREoA,2VOWELrI,4UE,4U,4E,4OE,4O,4AI,4AU,4REVERSED I,3LENGTH MARK,2oKA,
     3KHA,3GA,3GHA,3NGA,3CA,3CHA,3JA,3NYA,3TTA,3TTHA,3DDA,3DDHA,3NNA,3TA,3THA,3DA,3DHA,3NA,3PA,3PHA,
     3BA,3BHA,3MA,3TSA,3TSHA,3DZA,3DZHA,3ZHA,3ZA,3-A,3YA,3RA,3LA,3VA,3SHA,3SSA,3SA,3HA,3KSSA,
     2hCONSONANT MARK,2rVIRAMA,3CANDRABINDU,4zORNAMENT,3CANDRAzORNAMENT,3ANUSVARA,3VISARGA,
     2CLUSTER-INITIALoRA,2CLUSTER-FINALoYA,4RA,4LA,4VA,2kHEAD MARK,2CLOSING HEAD MARK,2MARK TSHEG,
     3SHAD,3gSHAD,3LONG TSHEG,2kDOUBLE-LINED HEAD MARK,2CLOSING DOUBLE-LINED HEAD MARK,2SUBJOINER"),
   (0x11A50, "0SOYOMBOoA,1VOWELrI,3UE,3U,3E,3O,3OE,3AI,3AU,3VOCALIC R,4L,2LENGTH MARK,1oKA,2KHA,2GA,
     2GHA,2NGA,2CA,2CHA,2JA,2JHA,2NYA,2TTA,2TTHA,2DDA,2DDHA,2NNA,2TA,2THA,2DA,2DHA,2NA,2PA,2PHA,2BA,
     2BHA,2MA,2TSA,2TSHA,2DZA,2ZHA,2ZA,2-A,2YA,2RA,2LA,2VA,2SHA,2SSA,2SA,2HA,2KSSA,1rJIHVAMULIYA,
     2UPADHMANIYA,1CLUSTER-INITIALoRA,3LA,3SHA,3SA,1hCONSONANTrG,4K,4NG,4D,4N,4B,4M,4R,4L,4SH,4S,
     4-A,1rANUSVARA,2VISARGA,1GEMINATION MARK,1SUBJOINER,1MARK TSHEG,2SHAD,2gSHAD,2PLUTA,
     1HEAD MARKzMOONbSUNbTRIPLE FLAME,8FLAME,7,1TERMINAL MARK-1,2MARK-2"),
   (0x11AB0, "0CANADIAN SYLLABICS NATTILIK HI,3HII,3HO,3HOO,3HA,3HAA,3SHRI,3SHRII,3SHRO,3SHROO,
     3SHRA,3SHRAA,2SPE,2SPI,2SPO,2SPA,0PAU CIN HAUoPA,4KA,4LA,4MA,4DA,4ZA,4VA,4NGA,4HA,4GA,4KHA,4SA,
     4BA,4CA,4TA,4THA,4NA,4PHA,4RA,4FA,4CHA,4A,4E,4I,4O,4U,4UA,4IA,4hP,5K,5T,5M,5N,5L,5W,5NG,5Y,
     3RISING TONE LONG,5,3SANDHI GLOTTAL STOP,3RISING TONE LONGh,5h,3SANDHI GLOTTAL STOPh,
     4TONE LONG,5,5LONGh,5h,3MID-LEVEL TONE,3GLOTTAL STOP VARIANT,3MID-LEVEL TONE LONGh,5h,
     3LOW-FALLING TONE LONG,5,3GLOTTAL STOP,3LOW-FALLING TONE LONGh,5h,3GLOTTAL STOPh"),
   (0x11C00, "0BHAIKSUKIoA,2AA,2I,2II,2U,2UU,2VOCALIC R,3RR,3L"),
   (0x11C0A, "2E,2AI,2O,2AU,2KA,2KHA,2GA,2GHA,2NGA,2CA,2CHA,2JA,2JHA,2NYA,2TTA,2TTHA,2DDA,2DDHA,
     2NNA,2TA,2THA,2DA,2DHA,2NA,2PA,2PHA,2BA,2BHA,2MA,2YA,2RA,2LA,2VA,2SHA,2SSA,2SA,2HA,1VOWELrAA,
     3I,3II,3U,3UU,3VOCALIC R,4RR,4L"),
   (0x11C38, "3E,3AI,3O,3AU,1rCANDRABINDU,2ANUSVARA,2VISARGA,2VIRAMA,2AVAGRAHA,1DANDA,1gDANDA,
     1WORD SEPARATOR,1GAP FILLER-1,2FILLER-2"),
   (0x11C50, "1DIGIT ZERO,2ONE,2TWO,2v,2FOUR,2FIVE,2SIX,2SEVEN,2EIGHT,2NINE,1NUMBER ONE,2TWO,2v,
     2FOUR,2FIVE,2SIX,2SEVEN,2EIGHT,2NINE,2TEN,2TWENTY,2THIRTY,2FORTY,2FIFTY,2SIXTY,2SEVENTY,
     2EIGHTY,2NINETY,1HUNDREDS UNIT MARK"),
   (0x11C70, "0MARCHEN HEAD MARK,1MARK SHAD,1oKA,2KHA,2GA,2NGA,2CA,2CHA,2JA,2NYA,2TA,2THA,2DA,2NA,
     2PA,2PHA,2BA,2MA,2TSA,2TSHA,2DZA,2WA,2ZHA,2ZA,2-A,2YA,2RA,2LA,2SHA,2SA,2HA,2A"),
   (0x11C92, "1SUBJOINEDoKA,3KHA,3GA,3NGA,3CA,3CHA,3JA,3NYA,3TA,3THA,3DA,3NA,3PA,3PHA,3BA,3MA,3TSA,
     3TSHA,3DZA,3WA,3ZHA,3ZA"),
   (0x11CA9, "3YA,3RA,3LA,3SHA,3SA,3HA,3A,1VOWELrAA,3I,3U,3E,3O,1rANUSVARA,2CANDRABINDU"),
   (0x11D00, "0MASARAM GONDIoA,3AA,3I,3II,3U,3UU,3E"), (0x11D08, "3AI,3O"),
   (0x11D0B, "3AU,3KA,3KHA,3GA,3GHA,3NGA,3CA,3CHA,3JA,3JHA,3NYA,3TTA,3TTHA,3DDA,3DDHA,3NNA,3TA,3THA,
     3DA,3DHA,3NA,3PA,3PHA,3BA,3BHA,3MA,3YA,3RA,3LA,3VA,3SHA,3SSA,3SA,3HA,3LLA,3KSSA,3JNYA,3TRA,
     2VOWELrAA,4I,4II,4U,4UU,4VOCALIC R"),
   (0x11D3A, "4E"), (0x11D3C, "4AI,4O"),
   (0x11D3F, "4AU,2rANUSVARA,3VISARGA,3NUKTA,3CANDRA,3HALANTA,2VIRAMA,2REPHA,2RA-KARA"),
   (0x11D50, "2DIGIT ZERO,3ONE,3TWO,3v,3FOUR,3FIVE,3SIX,3SEVEN,3EIGHT,3NINE"),
   (0x11D60, "0GUNJALA GONDIoA,3AA,3I,3II,3U,3UU"), (0x11D67, "3EE,3AI"),
   (0x11D6A, "3OO,3AU,3YA,3VA,3BA,3BHA,3MA,3KA,3KHA,3TA,3THA,3LA,3GA,3GHA,3DA,3DHA,3NA,3CA,3CHA,
     3TTA,3TTHA,3LLA,3JA,3JHA,3DDA,3DDHA,3NGA,3PA,3PHA,3HA,3RA,3SA,2VOWELrAA,4I,4II,4U,4UU"),
   (0x11D90, "4EE,4AI"), (0x11D93, "4OO,4AU,2rANUSVARA,3VISARGA,2VIRAMA,2OM"),
   (0x11DA0, "2DIGIT ZERO,3ONE,3TWO,3v,3FOUR,3FIVE,3SIX,3SEVEN,3EIGHT,3NINE"),
   (0x11EE0, "0MAKASARoKA,2GA,2NGA,2PA,2BA,2MA,2TA,2DA,2NA,2CA,2JA,2NYA,2YA,2RA,2LA,2VA,2SA,2A,
     1ANGKA,1VOWELrI,3U,3E,3O,1PASSIMBANG,1END OF SECTION"),
   (0x11FB0, "0LISUoYHA"),
   (0x11FC0, "0TAMIL FRACTION ONE THREE-HUNDRED-AND-TWENTIETH,3ONE-HUNDRED-AND-SIXTIETH,3EIGHTIETH,
     3SIXTY-FOURTH,3FORTIETH,3THIRTY-SECOND,2vEIGHTIETHS,3SIXTY-FOURTHS,2ONE TWENTIETH,3SIXTEENTH-1,
     3SIXTEENTH-2,3TENTH,3EIGHTH,2vTWENTIETHS,3SIXTEENTHS,2ONE FIFTH,3QUARTER,3HALF-1,3HALF-2,
     2vQUARTERS,2DOWNSCALING FACTOR KIIZH,1rNEL,2CEVITU,2AAZHAAKKU,2UZHAKKU,2MUUVUZHAKKU,2KURUNI,
     2PATHAKKU,2MUKKURUNI,2KAACU,2PANAM,2PON,2VARAAKAN,2PAARAM,2KUZHI,2VELI,1WET CULTIVATIONr,
     1DRY CULTIVATIONr,1LANDr,1SALT PANr,1TRADITIONAL CREDITr,2NUMBERr,1CURRENTr,1bODDr,1SPENTr,
     1TOTALr,1IN POSSESSIONr,1STARTING FROMr,1rMUTHALIYA,2VAKAIYARAA"),
   (0x11FFF, "1PUNCTUATION END OF TEXT,0CUNEIFORMrA,3TIMES A,4BAD,4GAN2 TENU,4HA,4IGI,4LAGAR GUNU,
     4MUSH,4SAG,2A2,2AB,3TIMES ASH2,4DUN3 GUNU,4GAL,4GAN2 TENU,4HA,4IGI GUNU,4IMIN,4LAGAB,4SHESH,
     4U PLUS U PLUS U,3GUNU,2AB2,3TIMES BALAG,4GAN2 TENU,4ME PLUS EN,4SHA3,4TAK4,2AD,2AK,
     3TIMES ERIN2,4SHITA PLUS GISH,2AL,3TIMES AL,4DIM2,4GISH,4HA,4KAD3,4KI,4SHE,4USH,2ALAN,2ALEPH,
     2AMAR,3TIMES SHE,2AN,3OVER AN,3vTIMES,3PLUS NAGA OPPOSING AN PLUS NAGA,5SQUARED,2ANSHE,2APIN,
     2ARAD,3TIMES KUR,2ARKAB,2ASAL2,2ASH,3ZIDA TENU,3KABA TENU,
     3OVER ASH TUG2 OVER TUG2 TUG2 OVER TUG2 PAP,5OVER ASH,7CROSSING ASH OVER ASH OVER ASH,2ASH2,
     2ASHGAB,2BA,2BAD,2BAG3,2BAHAR2,2BAL,3OVER BAL,2BALAG,2BAR,2BARA2,2BI,3TIMES A,4GAR,4IGI GUNU,
     2BU,3OVER BU AB,5UN,3CROSSING BU,2BULUG,3OVER BULUG,2BUR,2BUR2,2DA,2DAG,
     3KISIM5 TIMES A PLUS MASH,5AMAR,5BALAG,5BI,5GA,6PLUS MASH,5GI,5GIR2,5GUD,5HA,5IR,6PLUS LU,5KAK,
     5LA,5LU,6PLUS MASH2,5LUM,5NE,5PAP PLUS PAP,5SI,5TAK4,5U2 PLUS GIR2,5USH,2DAM,2DAR,2DARA3,
     2DARA4,2DI,2DIB,2DIM,3TIMES SHE,2DIM2,2DIN,3KASKAL U GUNU DISH,2DISH,2DU,3OVER DU,3GUNU,
     3SHESHIG,2DUB,3TIMES ESH2,2DUB2,2DUG,2DUGUD,2DUH,2DUN,2DUN3,3GUNU,4GUNU,2DUN4,2DUR2,2E,
     3TIMES PAP,3OVER E NUN OVER NUN,2E2,3TIMES A PLUS HA PLUS DA,4GAR,4MI,4SAL,4SHE,4U,2EDIN,2EGIR,
     2EL,2EN,3TIMES GAN2,5TENU,4ME,3CROSSING EN,3OPPOSING EN,3SQUARED,2EREN,2ERIN2,2ESH2,2EZEN,
     3TIMES A,5PLUS LAL,7TIMES LAL,4AN,4BAD,4DUN3 GUNU,6GUNU,4HA,5GUNU,4IGI GUNU,4KASKAL,5SQUARED,
     4KU3,4LA,4LAL TIMES LAL,4LI,4LU,4U2,4UD,2GA,3GUNU,2GA2,3TIMES A PLUS DA PLUS HA,6HA,6IGI,
     4AB2 TENU PLUS TAB,4AN,4ASH,4ASH2 PLUS GAL,4BAD,4BAR PLUS RA,4BUR,5PLUS RA,4DA,4DI,
     4DIM TIMES SHE,4DUB,4EL,5PLUS LA,4EN,5TIMES GAN2 TENU,4GAN2 TENU,4GAR,4GI,4GI4,5PLUS A,
     4GIR2 PLUS SU,4HA PLUS LU PLUS ESH2,4HAL,5PLUS LA,4HI PLUS LI,4HUB2,4IGI GUNU,
     4ISH PLUS HU PLUS ASH,4KAK,4KASKAL,4KID,5PLUS LAL,4KU3 PLUS AN,4LA,4ME PLUS EN,4MI,4NUN,
     5OVER NUN,4PA,4SAL,4SAR,4SHE,5PLUS TUR,4SHID,4SUM,4TAK4,4U,4UD,5PLUS DU,3OVER GA2,2GABA,
     3CROSSING GABA,2GAD,3OVER GAD GAR OVER GAR,2GAL,3GAD OVER GAD GAR OVER GAR,2GALAM,2GAM,2GAN,
     2GAN2,3TENU,3OVER GAN2,3CROSSING GAN2,2GAR,2GAR3,2GASHAN,2GESHTIN,3TIMES KUR,2GI,3TIMES E,4U,
     3CROSSING GI,2GI4,3OVER GI4,3CROSSING GI4,2GIDIM,2GIR2,3GUNU,2GIR3,3TIMES A PLUS IGI,
     4GAN2 TENU,4IGI,4LU PLUS IGI,4PA,2GISAL,2GISH,3CROSSING GISH,3TIMES BAD,4TAK4,3TENU,2GU,
     3CROSSING GU,2GU2,3TIMES KAK,5TIMES IGI GUNU,4NUN,4SAL PLUS TUG2,3GUNU,2GUD,3TIMES A PLUS KUR,
     4KUR,3OVER GUD LUGAL,2GUL,2GUM,3TIMES SHE,2GUR,2GUR7,2GURUN,2GURUSH,2HA,3TENU,3GUNU,2HAL,2HI,
     3TIMES ASH,4ASH2,4BAD,4DISH,4GAD,4KIN,4NUN,4SHE,4U,2HU,2HUB2,3TIMES AN,4HAL,4KASKAL,4LISH,4UD,
     2HUL2,2I,3A,2IB,2IDIM,3OVER IDIM BUR,5SQUARED,2IG,2IGI,3DIB,3RI,
     3OVER IGI SHIR OVER SHIR UD OVER UD,3GUNU,2IL,3TIMES GAN2 TENU,2IL2,2IM,3TIMES TAK4,
     3CROSSING IM,3OPPOSING IM,3SQUARED,2IMIN,2IN,2IR,2ISH,2KA,3TIMES A,4AD,5PLUS KU3,4ASH2,4BAD,
     4BALAG,4BAR,4BI,4ERIN2,4ESH2,4GA,4GAL,4GAN2 TENU,4GAR,5PLUS SHA3 PLUS A,4GI,4GIR2,
     4GISH PLUS SAR,5CROSSING GISH,4GU,4GUR7,4IGI,4IM,4KAK,4KI,4KID,4LI,4LU,4ME,5PLUS DU,6GI,6TE,
     4MI,5PLUS NUNUZ,4NE,4NUN,4PI,4RU,4SA,4SAR,4SHA,4SHE,4SHID,4SHU,4SIG,4SUHUR,4TAR,4U,4U2,4UD,
     4UMUM TIMES PA,4USH,4ZI,2KA2,3CROSSING KA2,2KAB,2KAD2,2KAD3,2KAD4,2KAD5,3OVER KAD5,2KAK,
     3TIMES IGI GUNU,2KAL,3TIMES BAD,3CROSSING KAL,2KAM2,2KAM4,2KASKAL,
     3LAGAB TIMES U OVER LAGAB TIMES U,3OVER KASKAL LAGAB TIMES U OVER LAGAB TIMES U,2KESH2,2KI,
     3TIMES BAD,4U,4UD,2KID,2KIN,2KISAL,2KISH,2KISIM5,3OVER KISIM5,2KU,
     3OVER HI TIMES ASH2 KU OVER HI TIMES ASH2,2KU3,2KU4,3VARIANTi,2KU7,2KUL,3GUNU,2KUN,2KUR,
     3OPPOSING KUR,2KUSHU2,2KWU318,2LA,2LAGAB,3TIMES A,5PLUS DA PLUS HA,6GAR,6LAL,4AL,4AN,
     4ASH ZIDA TENU,4BAD,4BI,4DAR,4EN,4GA,4GAR,4GUD,5PLUS GUD,4HA,4HAL,4HI TIMES NUN,4IGI GUNU,4IM,
     5PLUS HA,6LU,4KI,4KIN,4KU3,4KUL,5PLUS HI PLUS A,4LAGAB,4LISH,4LU,4LUL,4ME,5PLUS EN,4MUSH,4NE,
     4SHE PLUS SUM,4SHITA PLUS GISH PLUS ERIN2,7TENU,4SHU2,5PLUS SHU2,4SUM,4TAG,4TAK4,
     4TE PLUS A PLUS SU PLUS NA,4U,5PLUS A,6U PLUS U,4U2 PLUS ASH,4UD,4USH,3SQUARED,2LAGAR,
     3TIMES SHE,5PLUS SUM,3GUNU,4OVER LAGAR GUNU SHE,2LAHSHU,2LAL,3TIMES LAL,2LAM,3TIMES KUR,
     5PLUS RU,2LI,2LIL,2LIMMU2,2LISH,2LU,3TIMES BAD,2LU2,3TIMES AL,4BAD,4ESH2,5TENU,4GAN2 TENU,
     4HI TIMES BAD,4IM,4KAD2,4KAD3,5PLUS ASH,4KI,4LA PLUS ASH,4LAGAB,4ME PLUS EN,4NE,4NU,
     4SI PLUS ASH,4SIK2 PLUS BU,4TUG2,3TENU,3CROSSING LU2,3OPPOSING LU2,3SQUARED,3SHESHIG,2LU3,
     2LUGAL,3OVER LUGAL,3OPPOSING LUGAL,3SHESHIG,2LUH,2LUL,2LUM,3OVER LUM,5GAR OVER GAR,2MA,
     3TIMES TAK4,3GUNU,2MA2,2MAH,2MAR,2MASH,2MASH2,2ME,2MES,2MI,2MIN,2MU,3OVER MU,2MUG,3GUNU,
     2MUNSUB,2MURGU2,2MUSH,3TIMES A,4KUR,4ZA,3OVER MUSH,5TIMES A PLUS NA,3CROSSING MUSH,2MUSH3,
     3TIMES A,5PLUS DI,4DI,3GUNU,2NA,2NA2,2NAGA,3INVERTED,3TIMES SHU TENU,3OPPOSING NAGA,2NAGAR,
     2NAM NUTILLU,3,2NAM2,2NE,3TIMES A,4UD,3SHESHIG,2NI,3TIMES E,2NI2,2NIM,3TIMES GAN2 TENU,
     4GAR PLUS GAN2 TENU,2NINDA2,3TIMES AN,4ASH,5PLUS ASH,4GUD,4ME PLUS GAN2 TENU,4NE,4NUN,4SHE,
     5PLUS A AN,6ASH,7PLUS ASH,4U2 PLUS ASH,4USH,2NISAG,2NU,2NU11,2NUN,3LAGAR TIMES GAR,5MASH,5SAL,
     6OVER NUN LAGAR TIMES SAL,5USH,3TENU,3OVER NUN,3CROSSING NUN,5LAGAR OVER LAGAR,2NUNUZ,
     3AB2 TIMES ASHGAB,5BI,5DUG,5GUD,5IGI GUNU,5KAD3,5LA,5NE,5SILA3,5U2,3KISIM5 TIMES BI,6U,2PA,
     2PAD,2PAN,2PAP,2PESH2,2PI,3TIMES A,4AB,4BI,4BU,4E,4I,4IB,4U,4U2,3CROSSING PI,2PIRIG,3TIMES KAL,
     4UD,4ZA,3OPPOSING PIRIG,2RA,2RAB,2RI,2RU,2SA,2SAG NUTILLU,3,3TIMES A,4DU,4DUB,4HA,4KAK,4KUR,
     4LUM,4MI,4NUN,4SAL,4SHID,4TAB,4U2,4UB,4UM,4UR,4USH,3OVER SAG,3GUNU,2SAL,3LAGAB TIMES ASH2,
     2SANGA2,2SAR,2SHA,2SHA3,3TIMES A,4BAD,4GISH,4NE,4SHU2,4TUR,4U,5PLUS A,2SHA6,2SHAB6,2SHAR2,2SHE,
     3HU,3OVER SHE GAD OVER GAD GAR OVER GAR,5TAB OVER TAB GAR OVER GAR,2SHEG9,2SHEN,2SHESH,2SHESH2,
     2SHESHLAM,2SHID,3TIMES A,4IM,2SHIM,3TIMES A,4BAL,4BULUG,4DIN,4GAR,4IGI,5GUNU,4KUSHU2,4LUL,4MUG,
     4SAL,2SHINIG,2SHIR,3TENU,3OVER SHIR BUR OVER BUR,2SHITA,2SHU,3OVER INVERTED SHU,2SHU2,2SHUBUR,
     2SI,3GUNU,2SIG,2SIG4,3OVER SIG4 SHU2,2SIK2,2SILA3,2SU,3OVER SU,2SUD,2SUD2,2SUHUR,2SUM,2SUMASH,
     2SUR,2SUR9,2TA,3ASTERISK,3TIMES HI,4MI,3GUNU,2TAB,3OVER TAB NI OVER NI DISH OVER DISH,3SQUARED,
     2TAG,3TIMES BI,4GUD,4SHE,4SHU,4TUG2,4UD,2TAK4,2TAR,2TE,3GUNU,2TI,3TENU,2TIL,2TIR,3TIMES TAK4,
     3OVER TIR,5GAD OVER GAD GAR OVER GAR,2TU,2TUG2,2TUK,2TUM,2TUR,3OVER TUR ZA OVER ZA,2U,3GUD,
     3U U,3OVER U PA OVER PA GAR OVER GAR,5SUR OVER SUR,5U REVERSED OVER U REVERSED,2U2,2UB,2UD,
     3KUSHU2,3TIMES BAD,4MI,4U PLUS U PLUS U,9GUNU,3GUNU,3SHESHIG,4TIMES BAD,2UDUG,2UM,3TIMES LAGAB,
     4ME PLUS DA,4SHA3,4U,2UMBIN,2UMUM,3TIMES KASKAL,4PA,2UN,3GUNU,2UR,3CROSSING UR,3SHESHIG,2UR2,
     3TIMES A PLUS HA,6NA,4AL,4HA,4NUN,4U2,5PLUS ASH,6BI,2UR4,2URI,2URI3,2URU,3TIMES A,4ASHGAB,4BAR,
     4DUN,4GA,4GAL,4GAN2 TENU,4GAR,4GU,4HA,4IGI,4IM,4ISH,4KI,4LUM,4MIN,4PA,4SHE,4SIG4,4TU,
     4U PLUS GUD,4UD,4URUDA,2URUDA,3TIMES U,2USH,3TIMES A,4KU,4KUR,4TAK4,2USHX,2USH2,2USHUMX,2UTUKI,
     2UZ3,3TIMES KASKAL,2UZU,2ZA,3TENU,3SQUARED TIMES KUR,2ZAG,2ZAMX,2ZE2,2ZI,3OVER ZI,2ZI3,2ZIB,
     3KABA TENU,2ZIG,2ZIZ2,2ZU,2ZU5,3TIMES A,2ZUBUR,2ZUM,2KAP ELAMITE,2AB TIMES NUN,2AB2 TIMES A,
     2AMAR TIMES KUG,2DAG KISIM5 TIMES U2 PLUS MASH,2DAG3,2DISH PLUS SHU,2DUB TIMES SHE,
     2EZEN TIMES GUD,4SHE,2GA2 TIMES AN PLUS KAK PLUS A,4ASH2,2GE22,2GIG,2HUSH,2KA TIMES ANSHE,
     4ASH3,4GISH,4GUD,4HI TIMES ASH2,4LUM,4PA,4SHUL,4TU,4UR2,2LAGAB TIMES GI,2LU2 SHESHIG TIMES BAD,
     3TIMES ESH2 PLUS LAL,4SHU,2MESH,2MUSH3 TIMES ZA,2NA4,2NIN,2NIN9,2NINDA2 TIMES BAL,4GI,
     2NU11 ROTATED NINETY DEGREES,2PESH2 ASTERISK,2PIR2,2SAG TIMES IGI GUNU,2TI2,2UM TIMES ME,
     2U U"),
   (0x12400, "1NUMERICrTWO ASH,3vASH,3FOUR ASH,3FIVE ASH,3SIX ASH,3SEVEN ASH,3EIGHT ASH,3NINE ASH,
     3vDISH,3FOUR DISH,3FIVE DISH,3SIX DISH,3SEVEN DISH,3EIGHT DISH,3NINE DISH,3FOUR U,3FIVE U,
     3SIX U,3SEVEN U,3EIGHT U,3NINE U,3ONE GESH2,3TWO GESH2,3vGESH2,3FOUR GESH2,3FIVE GESH2,
     3SIX GESH2,3SEVEN GESH2,3EIGHT GESH2,3NINE GESH2,3ONE GESHU,3TWO GESHU,3vGESHU,3FOUR GESHU,
     3FIVE GESHU,3TWO SHAR2,3vSHAR2,5VARIANTi,3FOUR SHAR2,3FIVE SHAR2,3SIX SHAR2,3SEVEN SHAR2,
     3EIGHT SHAR2,3NINE SHAR2,3ONE SHARU,3TWO SHARU,3vSHARU,5VARIANTi,3FOUR SHARU,3FIVE SHARU,
     3SHAR2 TIMES GAL PLUS DISH,7MIN,3ONE BURU,3TWO BURU,3vBURU,5VARIANTi,3FOUR BURU,3FIVE BURU,
     3vVARIANTiESH16,6ESH21,3FOUR VARIANTiLIMMU,6LIMMU4,6LIMMU A,7B,3SIX VARIANTiASH9,
     3SEVEN VARIANTiIMIN3,6IMIN A,7B,3EIGHT VARIANTiUSSU,6USSU3,3NINE VARIANTiILIMMU,6ILIMMU3,
     6ILIMMU4,6ILIMMU A,3TWO ASH TENU,3vASH TENU,3FOUR ASH TENU,3FIVE ASH TENU,3SIX ASH TENU,
     3ONE BAN2,3TWO BAN2,3vBAN2,3FOUR BAN2,5VARIANTi,3FIVE BAN2,5VARIANTi,3NIGIDAMIN,3NIGIDAESH,
     3ONE ESHE3,3TWO ESHE3,3ONE THIRD DISH,3TWO THIRDS DISH,3FIVE SIXTHS DISH,3ONE THIRD VARIANTiA,
     3TWO THIRDS VARIANTiA,3ONE EIGHTH ASH,4QUARTER ASH,3OLD ASSYRIAN ONE SIXTH,6QUARTER,
     3ONE QUARTER GUR,4HALF GUR,3ELAMITE ONE THIRD,4TWO THIRDS,4FORTY,4FIFTY,3FOUR U VARIANTi,
     3FIVE U VARIANTi,3SIX U VARIANTi,3SEVEN U VARIANTi,3EIGHT U VARIANTi,3NINE U VARIANTi"),
   (0x12470, "1PUNCTUATIONrOLD ASSYRIAN WORD DIVIDER,3xCOLON,3DIAGONAL COLON,4TRICOLON,4QUADCOLON"),
   (0x12480, "1rAB TIMES NUN TENU,4SHU2,2AD TIMES ESH2,2BAD TIMES DISH TENU,2BAHAR2 TIMES AB2,4NI,
     4ZA,2BU OVER BU TIMES NA2,2DA TIMES TAK4,2DAG TIMES KUR,2DIM TIMES IGI,4U U U,2DIM2 TIMES UD,
     2DUG TIMES ANSHE,4ASH,5ATm,4DIN,4DUN,4ERIN2,4GA,4GI,4GIR2 GUNU,4GISH,4HA,4HI,4IGI GUNU,4KASKAL,
     4KUR,4KUSHU2,5PLUS KASKAL,4LAK-020,4LAM,5TIMES KUR,4LUH PLUS GISH,4MASH,4MES,4MI,4NI,4PI,4SHE,
     4SI GUNU,2E2 TIMES KUR,4PAP,2ERIN2 X,2ESH2 CROSSING ESH2,2EZEN SHESHIG TIMES ASH,5HI,5IGI GUNU,
     5LA,5LAL,5ME,5MES,5SU,3TIMES SU,2GA2 TIMES BAHAR2,4DIM GUNU,4DUG TIMES IGI GUNU,6KASKAL,4EREN,
     4GA,4GAR PLUS DI,6NE,4HA PLUS A,4KUSHU2 PLUS KASKAL,4LAM,5TIMES KUR,4LUH,4MUSH,4NE,5PLUS E2,
     6GI,4SHIM,4ZIZ2,2GABA ROTATED NINETY DEGREES,2GESHTIN TIMES U,2GISH TIMES GISH CROSSING GISH,
     2GU2 TIMES IGI GUNU,2GUD PLUS GISH TIMES TAK4,2HA TENU GUNU,2HI TIMES ASH OVER HI TIMES ASH,
     2KA TIMES BU,4KA,4U U U,4UR,2LAGAB TIMES ZU OVER ZU,2LAK-003,2LAK-021,2LAK-025,2LAK-030,
     2LAK-050,2LAK-051,2LAK-062,2LAK-079 OVER LAK-079 GUNU,2LAK-080,2LAK-081 OVER LAK-081,2LAK-092,
     2LAK-130,2LAK-142,2LAK-210,2LAK-219,2LAK-220,2LAK-225,2LAK-228,2LAK-238,2LAK-265,2LAK-266,
     2LAK-343,2LAK-347,2LAK-348,2LAK-383,2LAK-384,2LAK-390,2LAK-441,2LAK-449,3TIMES GU,4IGI,
     4PAP PLUS LU3,6PAP PLUS LU3,4U2 PLUS BA,2LAK-450,2LAK-457,2LAK-470,2LAK-483,2LAK-490,2LAK-492,
     2LAK-493,2LAK-495,2LAK-550,2LAK-608,2LAK-617,3TIMES ASH,4BAD,4DUN3 GUNU GUNU,4KU3,4LA,4TAR,4TE,
     4U2,4UD,4URUDA,2LAK-636,2LAK-648,3TIMES DUB,4GA,4IGI,5GUNU,4NI,4PAP PLUS PAP PLUS LU3,
     4SHESH PLUS KI,4UD,4URUDA,2LAK-724,2LAK-749,2LU2 GUNU TIMES ASH,3TIMES DISH,4HAL,4PAP,
     5PLUS PAP PLUS LU3,4TAK4,2MI PLUS ZA7,2MUSH OVER MUSH TIMES GA,6KAK,2NINDA2 TIMES DIM GUNU,
     4GISH,4GUL,4HI,4KESH2,4LAK-050,4MASH,4PAP PLUS PAP,4U,5PLUS U,4URUDA,2SAG GUNU TIMES HA,
     3TIMES EN,4SHE ATm,4TAK4,2SHA6 TENU,2SHE OVER SHE,3PLUS HUB2,4NAM2,4SAR,
     2SHU2 PLUS DUG TIMES NI,4E2 TIMES AN,2SI TIMES TAK4,2TAK4 PLUS SAG,2TUM TIMES GAN2 TENU,4vDISH,
     2UR2 INVERTED,3TIMES UD,2URU TIMES DARA3,4LAK-668,4LU3,2ZA7,2ZU OVER ZU PLUS SAR,
     2ZU5 TIMESvDISH TENU"),
   (0x12F90, "0CYPRO-MINOANrCM001,2CM002,2CM004,2CM005,2CM006,2CM007,2CM008,2CM009,2CM010,2CM011,
     2CM012,2CM012B,2CM013,2CM015,2CM017,2CM019,2CM021,2CM023,2CM024,2CM025,2CM026,2CM027,2CM028,
     2CM029,2CM030,2CM033,2CM034,2CM035,2CM036,2CM037,2CM038,2CM039,2CM040,2CM041,2CM044,2CM046,
     2CM047,2CM049,2CM050,2CM051,2CM052,2CM053,2CM054,2CM055,2CM056,2CM058,2CM059,2CM060,2CM061,
     2CM062,2CM063,2CM064,2CM066,2CM067,2CM068,2CM069,2CM070,2CM071,2CM072,2CM073,2CM074,2CM075,
     2CM075B,2CM076,2CM078,2CM079,2CM080,2CM081,2CM082,2CM083,2CM084,2CM085,2CM086,2CM087,2CM088,
     2CM089,2CM090,2CM091,2CM092,2CM094,2CM095,2CM096,2CM097,2CM098,2CM099,2CM100,2CM101,2CM102,
     2CM103,2CM104,2CM105,2CM107,2CM108,2CM109,2CM110,2CM112,2CM114,2CM301,2CM302"),
   (0x13000, "0EGYPTIAN HIEROGLYPH A001,2A002,2A003,2A004,2A005,2A005A,2A006,2A006A,2A006B,2A007,
     2A008,2A009,2A010,2A011,2A012,2A013,2A014,2A014A,2A015,2A016,2A017,2A017A,2A018,2A019,2A020,
     2A021,2A022,2A023,2A024,2A025,2A026,2A027,2A028,2A029,2A030,2A031,2A032,2A032A,2A033,2A034,
     2A035,2A036,2A037,2A038,2A039,2A040,2A040A,2A041,2A042,2A042A,2A043,2A043A,2A044,2A045,2A045A,
     2A046,2A047,2A048,2A049,2A050,2A051,2A052,2A053,2A054,2A055,2A056,2A057,2A058,2A059,2A060,
     2A061,2A062,2A063,2A064,2A065,2A066,2A067,2A068,2A069,2A070,2B001,2B002,2B003,2B004,2B005,
     2B005A,2B006,2B007,2B008,2B009,2C001,2C002,2C002A,2C002B,2C002C,2C003,2C004,2C005,2C006,2C007,
     2C008,2C009,2C010,2C010A,2C011,2C012,2C013,2C014,2C015,2C016,2C017,2C018,2C019,2C020,2C021,
     2C022,2C023,2C024,2D001,2D002,2D003,2D004,2D005,2D006,2D007,2D008,2D008A,2D009,2D010,2D011,
     2D012,2D013,2D014,2D015,2D016,2D017,2D018,2D019,2D020,2D021,2D022,2D023,2D024,2D025,2D026,
     2D027,2D027A,2D028,2D029,2D030,2D031,2D031A,2D032,2D033,2D034,2D034A,2D035,2D036,2D037,2D038,
     2D039,2D040,2D041,2D042,2D043,2D044,2D045,2D046,2D046A,2D047,2D048,2D048A,2D049,2D050,2D050A,
     2D050B,2D050C,2D050D,2D050E,2D050F,2D050G,2D050H,2D050I,2D051,2D052,2D052A,2D053,2D054,2D054A,
     2D055,2D056,2D057,2D058,2D059,2D060,2D061,2D062,2D063,2D064,2D065,2D066,2D067,2D067A,2D067B,
     2D067C,2D067D,2D067E,2D067F,2D067G,2D067H,2E001,2E002,2E003,2E004,2E005,2E006,2E007,2E008,
     2E008A,2E009,2E009A,2E010,2E011,2E012,2E013,2E014,2E015,2E016,2E016A,2E017,2E017A,2E018,2E019,
     2E020,2E020A,2E021,2E022,2E023,2E024,2E025,2E026,2E027,2E028,2E028A,2E029,2E030,2E031,2E032,
     2E033,2E034,2E034A,2E036,2E037,2E038,2F001,2F001A,2F002,2F003,2F004,2F005,2F006,2F007,2F008,
     2F009,2F010,2F011,2F012,2F013,2F013A,2F014,2F015,2F016,2F017,2F018,2F019,2F020,2F021,2F021A,
     2F022,2F023,2F024,2F025,2F026,2F027,2F028,2F029,2F030,2F031,2F031A,2F032,2F033,2F034,2F035,
     2F036,2F037,2F037A,2F038,2F038A,2F039,2F040,2F041,2F042,2F043,2F044,2F045,2F045A,2F046,2F046A,
     2F047,2F047A,2F048,2F049,2F050,2F051,2F051A,2F051B,2F051C,2F052,2F053,2G001,2G002,2G003,2G004,
     2G005,2G006,2G006A,2G007,2G007A,2G007B,2G008,2G009,2G010,2G011,2G011A,2G012,2G013,2G014,2G015,
     2G016,2G017,2G018,2G019,2G020,2G020A,2G021,2G022,2G023,2G024,2G025,2G026,2G026A,2G027,2G028,
     2G029,2G030,2G031,2G032,2G033,2G034,2G035,2G036,2G036A,2G037,2G037A,2G038,2G039,2G040,2G041,
     2G042,2G043,2G043A,2G044,2G045,2G045A,2G046,2G047,2G048,2G049,2G050,2G051,2G052,2G053,2G054,
     2H001,2H002,2H003,2H004,2H005,2H006,2H006A,2H007,2H008,2I001,2I002,2I003,2I004,2I005,2I005A,
     2I006,2I007,2I008,2I009,2I009A,2I010,2I010A,2I011,2I011A,2I012,2I013,2I014,2I015,2K001,2K002,
     2K003,2K004,2K005,2K006,2K007,2K008,2L001,2L002,2L002A,2L003,2L004,2L005,2L006,2L006A,2L007,
     2L008,2M001,2M001A,2M001B,2M002,2M003,2M003A,2M004,2M005,2M006,2M007,2M008,2M009,2M010,2M010A,
     2M011,2M012,2M012A,2M012B,2M012C,2M012D,2M012E,2M012F,2M012G,2M012H,2M013,2M014,2M015,2M015A,
     2M016,2M016A,2M017,2M017A,2M018,2M019,2M020,2M021,2M022,2M022A,2M023,2M024,2M024A,2M025,2M026,
     2M027,2M028,2M028A,2M029,2M030,2M031,2M031A,2M032,2M033,2M033A,2M033B,2M034,2M035,2M036,2M037,
     2M038,2M039,2M040,2M040A,2M041,2M042,2M043,2M044,2N001,2N002,2N003,2N004,2N005,2N006,2N007,
     2N008,2N009,2N010,2N011,2N012,2N013,2N014,2N015,2N016,2N017,2N018,2N018A,2N018B,2N019,2N020,
     2N021,2N022,2N023,2N024,2N025,2N025A,2N026,2N027,2N028,2N029,2N030,2N031,2N032,2N033,2N033A,
     2N034,2N034A,2N035,2N035A,2N036,2N037,2N037A,2N038,2N039,2N040,2N041,2N042,2NL001,2NL002,
     2NL003,2NL004,2NL005,2NL005A,2NL006,2NL007,2NL008,2NL009,2NL010,2NL011,2NL012,2NL013,2NL014,
     2NL015,2NL016,2NL017,2NL017A,2NL018,2NL019,2NL020,2NU001,2NU002,2NU003,2NU004,2NU005,2NU006,
     2NU007,2NU008,2NU009,2NU010,2NU010A,2NU011,2NU011A,2NU012,2NU013,2NU014,2NU015,2NU016,2NU017,
     2NU018,2NU018A,2NU019,2NU020,2NU021,2NU022,2NU022A,2O001,2O001A,2O002,2O003,2O004,2O005,2O005A,
     2O006,2O006A,2O006B,2O006C,2O006D,2O006E,2O006F,2O007,2O008,2O009,2O010,2O010A,2O010B,2O010C,
     2O011,2O012,2O013,2O014,2O015,2O016,2O017,2O018,2O019,2O019A,2O020,2O020A,2O021,2O022,2O023,
     2O024,2O024A,2O025,2O025A,2O026,2O027,2O028,2O029,2O029A,2O030,2O030A,2O031,2O032,2O033,2O033A,
     2O034,2O035,2O036,2O036A,2O036B,2O036C,2O036D,2O037,2O038,2O039,2O040,2O041,2O042,2O043,2O044,
     2O045,2O046,2O047,2O048,2O049,2O050,2O050A,2O050B,2O051,2P001,2P001A,2P002,2P003,2P003A,2P004,
     2P005,2P006,2P007,2P008,2P009,2P010,2P011,2Q001,2Q002,2Q003,2Q004,2Q005,2Q006,2Q007,2R001,
     2R002,2R002A,2R003,2R003A,2R003B,2R004,2R005,2R006,2R007,2R008,2R009,2R010,2R010A,2R011,2R012,
     2R013,2R014,2R015,2R016,2R016A,2R017,2R018,2R019,2R020,2R021,2R022,2R023,2R024,2R025,2R026,
     2R027,2R028,2R029,2S001,2S002,2S002A,2S003,2S004,2S005,2S006,2S006A,2S007,2S008,2S009,2S010,
     2S011,2S012,2S013,2S014,2S014A,2S014B,2S015,2S016,2S017,2S017A,2S018,2S019,2S020,2S021,2S022,
     2S023,2S024,2S025,2S026,2S026A,2S026B,2S027,2S028,2S029,2S030,2S031,2S032,2S033,2S034,2S035,
     2S035A,2S036,2S037,2S038,2S039,2S040,2S041,2S042,2S043,2S044,2S045,2S046,2T001,2T002,2T003,
     2T003A,2T004,2T005,2T006,2T007,2T007A,2T008,2T008A,2T009,2T009A,2T010,2T011,2T011A,2T012,2T013,
     2T014,2T015,2T016,2T016A,2T017,2T018,2T019,2T020,2T021,2T022,2T023,2T024,2T025,2T026,2T027,
     2T028,2T029,2T030,2T031,2T032,2T032A,2T033,2T033A,2T034,2T035,2T036,2U001,2U002,2U003,2U004,
     2U005,2U006,2U006A,2U006B,2U007,2U008,2U009,2U010,2U011,2U012,2U013,2U014,2U015,2U016,2U017,
     2U018,2U019,2U020,2U021,2U022,2U023,2U023A,2U024,2U025,2U026,2U027,2U028,2U029,2U029A,2U030,
     2U031,2U032,2U032A,2U033,2U034,2U035,2U036,2U037,2U038,2U039,2U040,2U041,2U042,2V001,2V001A,
     2V001B,2V001C,2V001D,2V001E,2V001F,2V001G,2V001H,2V001I,2V002,2V002A,2V003,2V004,2V005,2V006,
     2V007,2V007A,2V007B,2V008,2V009,2V010,2V011,2V011A,2V011B,2V011C,2V012,2V012A,2V012B,2V013,
     2V014,2V015,2V016,2V017,2V018,2V019,2V020,2V020A,2V020B,2V020C,2V020D,2V020E,2V020F,2V020G,
     2V020H,2V020I,2V020J,2V020K,2V020L,2V021,2V022,2V023,2V023A,2V024,2V025,2V026,2V027,2V028,
     2V028A,2V029,2V029A,2V030,2V030A,2V031,2V031A,2V032,2V033,2V033A,2V034,2V035,2V036,2V037,
     2V037A,2V038,2V039,2V040,2V040A,2W001,2W002,2W003,2W003A,2W004,2W005,2W006,2W007,2W008,2W009,
     2W009A,2W010,2W010A,2W011,2W012,2W013,2W014,2W014A,2W015,2W016,2W017,2W017A,2W018,2W018A,2W019,
     2W020,2W021,2W022,2W023,2W024,2W024A,2W025,2X001,2X002,2X003,2X004,2X004A,2X004B,2X005,2X006,
     2X006A,2X007,2X008,2X008A,2Y001,2Y001A,2Y002,2Y003,2Y004,2Y005,2Y006,2Y007,2Y008,2Z001,2Z002,
     2Z002A,2Z002B,2Z002C,2Z002D,2Z003,2Z003A,2Z003B,2Z004,2Z004A,2Z005,2Z005A,2Z006,2Z007,2Z008,
     2Z009,2Z010,2Z011,2Z012,2Z013,2Z014,2Z015,2Z015A,2Z015B,2Z015C,2Z015D,2Z015E,2Z015F,2Z015G,
     2Z015H,2Z015I,2Z016,2Z016A,2Z016B,2Z016C,2Z016D,2Z016E,2Z016F,2Z016G,2Z016H,2AA001,2AA002,
     2AA003,2AA004,2AA005,2AA006,2AA007,2AA007A,2AA007B,2AA008,2AA009,2AA010,2AA011,2AA012,2AA013,
     2AA014,2AA015,2AA016,2AA017,2AA018,2AA019,2AA020,2AA021,2AA022,2AA023,2AA024,2AA025,2AA026,
     2AA027,2AA028,2AA029,2AA030,2AA031,2AA032"),
   (0x13430, "2xJOINER,2jJOINER,2INSERT AT TOP START,4BOTTOM START,4TOP END,4BOTTOM END,
     2OVERLAY MIDDLE,2BEGIN SEGMENT,2END SEGMENT"),
   (0x14400, "0ANATOLIAN HIEROGLYPH A001,2A002,2A003,2A004,2A005,2A006,2A007,2A008,2A009,2A010,
     2A010A,2A011,2A012,2A013,2A014,2A015,2A016,2A017,2A018,2A019,2A020,2A021,2A022,2A023,2A024,
     2A025,2A026,2A026A,2A027,2A028,2A029,2A030,2A031,2A032,2A033,2A034,2A035,2A036,2A037,2A038,
     2A039,2A039A,2A040,2A041,2A041A,2A042,2A043,2A044,2A045,2A045A,2A046,2A046A,2A046B,2A047,2A048,
     2A049,2A050,2A051,2A052,2A053,2A054,2A055,2A056,2A057,2A058,2A059,2A060,2A061,2A062,2A063,
     2A064,2A065,2A066,2A066A,2A066B,2A066C,2A067,2A068,2A069,2A070,2A071,2A072,2A073,2A074,2A075,
     2A076,2A077,2A078,2A079,2A080,2A081,2A082,2A083,2A084,2A085,2A086,2A087,2A088,2A089,2A090,
     2A091,2A092,2A093,2A094,2A095,2A096,2A097,2A097A,2A098,2A098A,2A099,2A100,2A100A,2A101,2A101A,
     2A102,2A102A,2A103,2A104,2A104A,2A104B,2A104C,2A105,2A105A,2A105B,2A106,2A107,2A107A,2A107B,
     2A107C,2A108,2A109,2A110,2A110A,2A110B,2A111,2A112,2A113,2A114,2A115,2A115A,2A116,2A117,2A118,
     2A119,2A120,2A121,2A122,2A123,2A124,2A125,2A125A,2A126,2A127,2A128,2A129,2A130,2A131,2A132,
     2A133,2A134,2A135,2A135A,2A136,2A137,2A138,2A139,2A140,2A141,2A142,2A143,2A144,2A145,2A146,
     2A147,2A148,2A149,2A150,2A151,2A152,2A153,2A154,2A155,2A156,2A157,2A158,2A159,2A160,2A161,
     2A162,2A163,2A164,2A165,2A166,2A167,2A168,2A169,2A170,2A171,2A172,2A173,2A174,2A175,2A176,
     2A177,2A178,2A179,2A180,2A181,2A182,2A183,2A184,2A185,2A186,2A187,2A188,2A189,2A190,2A191,
     2A192,2A193,2A194,2A195,2A196,2A197,2A198,2A199,2A200,2A201,2A202,2A202A,2A202B,2A203,2A204,
     2A205,2A206,2A207,2A207A,2A208,2A209,2A209A,2A210,2A211,2A212,2A213,2A214,2A215,2A215A,2A216,
     2A216A,2A217,2A218,2A219,2A220,2A221,2A222,2A223,2A224,2A225,2A226,2A227,2A227A,2A228,2A229,
     2A230,2A231,2A232,2A233,2A234,2A235,2A236,2A237,2A238,2A239,2A240,2A241,2A242,2A243,2A244,
     2A245,2A246,2A247,2A248,2A249,2A250,2A251,2A252,2A253,2A254,2A255,2A256,2A257,2A258,2A259,
     2A260,2A261,2A262,2A263,2A264,2A265,2A266,2A267,2A267A,2A268,2A269,2A270,2A271,2A272,2A273,
     2A274,2A275,2A276,2A277,2A278,2A279,2A280,2A281,2A282,2A283,2A284,2A285,2A286,2A287,2A288,
     2A289,2A289A,2A290,2A291,2A292,2A293,2A294,2A294A,2A295,2A296,2A297,2A298,2A299,2A299A,2A300,
     2A301,2A302,2A303,2A304,2A305,2A306,2A307,2A308,2A309,2A309A,2A310,2A311,2A312,2A313,2A314,
     2A315,2A316,2A317,2A318,2A319,2A320,2A321,2A322,2A323,2A324,2A325,2A326,2A327,2A328,2A329,
     2A329A,2A330,2A331,2A332A,2A332B,2A332C,2A333,2A334,2A335,2A336,2A336A,2A336B,2A336C,2A337,
     2A338,2A339,2A340,2A341,2A342,2A343,2A344,2A345,2A346,2A347,2A348,2A349,2A350,2A351,2A352,
     2A353,2A354,2A355,2A356,2A357,2A358,2A359,2A359A,2A360,2A361,2A362,2A363,2A364,2A364A,2A365,
     2A366,2A367,2A368,2A368A,2A369,2A370,2A371,2A371A,2A372,2A373,2A374,2A375,2A376,2A377,2A378,
     2A379,2A380,2A381,2A381A,2A382,2A383 RA OR RI,2A383A,2A384,2A385,2A386,2A386A,2A387,2A388,
     2A389,2A390,2A391,2A392,2A393 EIGHT,2A394,2A395,2A396,2A397,2A398,2A399,2A400,2A401,2A402,
     2A403,2A404,2A405,2A406,2A407,2A408,2A409,2A410 BEGIN LOGOGRAM MARK,2A410A END LOGOGRAM MARK,
     2A411,2A412,2A413,2A414,2A415,2A416,2A417,2A418,2A419,2A420,2A421,2A422,2A423,2A424,2A425,
     2A426,2A427,2A428,2A429,2A430,2A431,2A432,2A433,2A434,2A435,2A436,2A437,2A438,2A439,2A440,
     2A441,2A442,2A443,2A444,2A445,2A446,2A447,2A448,2A449,2A450,2A450A,2A451,2A452,2A453,2A454,
     2A455,2A456,2A457,2A457A,2A458,2A459,2A460,2A461,2A462,2A463,2A464,2A465,2A466,2A467,2A468,
     2A469,2A470,2A471,2A472,2A473,2A474,2A475,2A476,2A477,2A478,2A479,2A480,2A481,2A482,2A483,
     2A484,2A485,2A486,2A487,2A488,2A489,2A490,2A491,2A492,2A493,2A494,2A495,2A496,2A497,2A501,
     2A502,2A503,2A504,2A505,2A506,2A507,2A508,2A509,2A510,2A511,2A512,2A513,2A514,2A515,2A516,
     2A517,2A518,2A519,2A520,2A521,2A522,2A523,2A524,2A525,2A526,2A527,2A528,2A529,2A530"),
   (0x16800, "0BAMUMoPHASE-A NGKUE MFON,3GBIEE FON,3PON MFON PIPAEMGBIEE,5PIPAEMBA,3NAA MFON,
     3SHUENSHUET,3TITA MFON,3NZA MFON,3SHINDA PA NJI,3PON PA NJI PIPAEMGBIEE,6PIPAEMBA,3MAEMBGBIEE,
     3TU MAEMBA,3NGANGU,3MAEMVEUX,3MANSUAE,3MVEUAENGAM,3SEUNYAM,3NTOQPEN,3KEUKEUTNDA,3NKINDI,3SUU,
     3NGKUENZEUM,3LAPAQ,3LET KUT,3NTAP MFAA,3MAEKEUP,3PASHAE,3GHEUAERAE,3PAMSHAE,3MON NGGEUAET,
     3NZUN MEUT,3U YUQ NAE,3GHEUAEGHEUAE,3NTAP NTAA,3SISA,3MGBASA,3MEUNJOMNDEUQ,3MOOMPUQ,3KAFA,
     3PA LEERAEWA,3NDA LEERAEWA,3PET,3MAEMKPEN,3NIKA,3PUP,3TUAEP,3LUAEP,3SONJAM,3TEUTEUWEN,3MAENYI,
     3KET,3NDAANGGEUAET,3KUOQ,3MOOMEUT,3SHUM,3LOMMAE,3FIRI,3ROM,3KPOQ,3SOQ,3MAP PIEET,3SHIRAE,3NTAP,
     3SHOQ NSHUT YUM,3NYIT MONGKEUAEQ,3PAARAE,3NKAARAE,3UNKNOWN,3NGGEN,3MAESI,3NJAM,3MBANYI,3NYET,
     3TEUAEN,3SOT,3PAAM,3NSHIEE,3MAEM,3NYI,3KAQ,3NSHA,3VEE,3LU,3NEN,3NAQ,3MBAQ,2PHASE-B NSHUET,
     3TU MAEMGBIEE,3SIEE,3SET TU,3LOM NTEUM,3MBA MAELEE,3KIEEM,3YEURAE,3MBAARAE,3KAM,3PEESHI,
     3YAFU LEERAEWA,3LAM NSHUT NYAM,3NTIEE SHEUOQ,3NDU NJAA,3GHEUGHEUAEM,3PIT,3TU NSIEE,3SHET NJAQ,
     3SHEUAEQTU,3MFON TEUAEQ,3MBIT MBAAKET,3NYI NTEUM,3KEUPUQ,3GHEUGHEN,3KEUYEUX,3LAANAE,3PARUM,
     3VEUM,3NGKINDI MVOP,3NGGEU MBU,3WUAET,3SAKEUAE,3TAAM,3MEUQ,3NGGUOQ,4LARGE,3MFIYAQ,3SUE,3MBEURI,
     3MONTIEEN,3NYAEMAE,3PUNGAAM,3MEUT NGGEET,3FEUX,3MBUOQ,3FEE,3KEUAEM,3MA NJEUAENA,4NJUQA,3LET,
     3NGGAAM,3NSEN,3MA,3KIQ,3NGOM,2PHASE-C NGKUE MAEMBA,3NZA,3YUM,3WANGKUOQ,3NGGEN,3NDEUAEREE,
     3NGKAQ,3GHARAE,3MBEEKEET,3GBAYI,3NYIR MKPARAQ MEUN,3NTU MBIT,3MBEUM,3PIRIEEN,3NDOMBU,
     3MBAA CABBAGE-TREE,3KEUSHEUAEP,3GHAP,3KEUKAQ,3YU MUOMAE,3NZEUM,3MBUE,3NSEUAEN,3MBIT,3YEUQ,
     3KPARAQ,3KAA,3SEUX,3NDIDA,3TAASHAE,3NJUEQ,3TITA YUE,3SUAET,3NGGUAEN NYAM,3VEUX,3NANSANAQ,
     3MA KEUAERI,3NTAA,3NGGUON,3LAP,3MBIRIEEN,3MGBASAQ,3NTEUNGBA,3TEUTEUX,3NGGUM,3FUE,3NDEUT,3NSA,
     3NSHAQ,3BUNG,3VEUAEPEN,3MBERAE,3RU,3NJAEM,3LAM,3TITUAEP,3NSUOT NGOM,3NJEEEE,3KET,3NGGU,3MAESI,
     3MBUAEM,3LU,3KUT,3NJAM,3NGOM,3WUP,3NGGUEET,3NSOM,3NTEN,3KUOP NKAARAE,3NSUN,3NDAM,3MA NSIEE,
     3YAA,3NDAP,3SHUEQ,3SETFON,3MBI,3MAEMBA,3MBANYI,3KEUSEUX,3MBEUX,3KEUM,3MBAA PICKET,3YUWOQ,
     3NJEUX,3MIEE,3MUAE,3SHIQ,3KEN LAW,4FATIGUE,3NGAQ,3NAQ,3LIQ,3PIN,3PEN,3TET,2PHASE-D MBUO,3WAP,
     3NJI,3MFON,3NJIEE,3LIEE,3NJEUT,3NSHEE,3NGGAAMAE,3NYAM,3WUAEN,3NGKUN,3SHEE,3NGKAP,3KEUAETMEUN,
     3TEUT,3SHEUAE,3NJAP,3SUE,3KET,3YAEMMAE,3KUOM,3SAP,3MFEUT,3NDEUX,3MALEERI,3MEUT,3SEUAEQ,3YEN,
     3NJEUAEM,3KEUOT MBUAE,3NGKEURI,3TU,3GHAA,3NGKYEE,3FEUFEUAET,3NDEE,3MGBOFUM,3LEUAEP,3NDON,3MONI,
     3MGBEUN,3PUUT,3MGBIEE,3MFO,3LUM,3NSIEEP,3MBAA,3KWAET,3NYET,3TEUAEN,3SOT,3YUWOQ,3KEUM,3RAEM,
     3TEEEE,3NGKEUAEQ,3MFEUAE,3NSIEET,3KEUP,3PIP,3PEUTAE,3NYUE,3LET,3NGGAAM,3MFIEE,3NGGWAEN,3YUOM,
     3PAP,3YUOP,3NDAM,3NTEUM,3SUAE,3KUN,3NGGEUX,3NGKIEE,3TUOT,3MEUN,3KUQ,3NSUM,3TEUN,3MAENJET,
     3NGGAP,3LEUM,3NGGUOM,3NSHUT,3NJUEQ,3GHEUAE,3KU,3REN OLD,3TAE,3TOQ,3NYI,3RII,3LEEEE,3MEEEE,3M,
     3SUU,3MU,3SHII,3SHEUX,3KYEE,3NU,3SHU,3NTEE,3PEE,3NI,3SHOQ,3PUQ,3MVOP,3LOQ,3REN MUCH,3TI,3NTUU,
     3MBAA SEVEN,3SAQ,3FAA,2PHASE-E NDAP,3TOON,3MBEUM,3LAP,3VOM,3LOON,3PAA,3SOM,3RAQ,3NSHUOP,3NDUN,
     3PUAE,3TAM,3NGKA,3KPEUX,3WUO,3SEE,3NGGEUAET,3PAAM,3TOO,3KUOP,3LOM,3NSHIEE,3NGOP,3MAEM,3NGKEUX,
     3NGOQ,3NSHUE,3RIMGBA,3NJEUX,3PEEM,3SAA,3NGGURAE,3MGBA,3GHEUX,3NGKEUAEM,3NJAEMLI,3MAP,3LOOT,
     3NGGEEEE,3NDIQ,3TAEN NTEUM,3SET,3PUM,3NDAA SOFTNESS,3NGGUAESHAE NYAM,3YIEE,3GHEUN,3TUAE,3YEUAE,
     3PO,3TUMAE,3KEUAE,3SUAEN,3TEUAEQ,3VEUAE,3WEUX,3LAAM,3PU,3TAAQ,3GHAAMAE,3NGEUREUT,3SHEUAEQ,
     3MGBEN,3MBEE,3NZAQ,3NKOM,3GBET,3TUM,3KUET,3YAP,3NYI CLEAVER,3YIT,3MFEUQ,3NDIAQ,3PIEEQ,3YUEQ,
     3LEUAEM,3FUE,3GBEUX,3NGKUP,3KET,3MAE,3NGKAAMI,3GHET,3FA,3NTUM,3PEUT,3YEUM,3NGGEUAE,
     3NYI BETWEEN,3NZUQ,3POON,3MIEE,3FUET,3NAE,3MUAE,3GHEUAE,3FU I,3MVI,3PUAQ,3NGKUM,3KUT,3PIET,
     3NTAP,3YEUAET,3NGGUP,3PA PEOPLE,3FU CALL,3FOM,3NJEE,3A,3TOQ,3O,3I,3LAQ,3PA PLURAL,3TAA,3TAQ,
     3NDAA MY HOUSE,3SHIQ,3YEUX,3NGUAE,3YUAEN,3YOQ SWIMMING,4COVER,3YUQ,3YUN,3KEUX,3PEUX,
     3NJEE EPOCH,3PUE,3WUE,3FEE,3VEE,3LU,3MI,3REUX,3RAE,3NGUAET,3NGA,3SHO,3SHOQ,3FU REMEDY,3NA,3PI,
     3LOQ,3KO,3MEN,3MA,3MAQ,3TEU,3KI,3MON,3TEN,3FAQ,3GHOM,2PHASE-F KA,3U,3KU,3EE,3REE,3TAE,3NYI,3LA,
     3RII,3RIEE,3MEEEE,3TAA,3NDAA,3NJAEM,3M,3SUU,3SHII,3SI,3SEUX,3KYEE,3KET,3NUAE,3NU,3NJUAE,3YOQ,
     3SHU,3YA,3NSHA,3PEUX,3NTEE,3WUE,3PEE,3RU,3NI,3REUX,3KEN,3NGKWAEN,3NGGA,3SHO,3PUAE,3FOM,3WA,3LI,
     3LOQ,3KO,3MBEN,3REN,3MA,3MO,3MBAA,3TET,3KPA,3SAMBA,3VUEQ"),
   (0x16A40, "0MROoTA,2NGI,2YO,2MIM,2BA,2DA,2A,2PHI,2KHAI,2HAO,2DAI,2CHU,2KEAAE,2OL,2MAEM,2NIN,2PA,
     2OO,2O,2RO,2SHI,2THEA,2EA,2WA,2E,2KO,2LAN,2LA,2HAI,2RI,2TEK"),
   (0x16A60, "1DIGIT ZERO,2ONE,2TWO,2v,2FOUR,2FIVE,2SIX,2SEVEN,2EIGHT,2NINE"),
   (0x16A6E, "1DANDA,1gDANDA,0TANGSAoOZ,2OC,2OQ,2OX,2AZ,2AC,2AQ,2AX,2VZ,2VC,2VQ,2VX,2EZ,2EC,2EQ,2EX,
     2IZ,2IC,2IQ,2IX,2UZ,2UC,2UQ,2UX,2AWZ,2AWC,2AWQ,2AWX,2UIZ,2UIC,2UIQ,2UIX,2hNG,2LONG UEX,
     2SHORT UEZ,3AWX,2UEC,2UEZ,2UEQ,2UEX,2UIUZ,2UIUC,2UIUQ,2UIUX,2MZ,2MC,2MQ,2MX,2KA,2KHA,2GA,2NGA,
     2SA,2YA,2WA,2PA,2NYA,2PHA,2BA,2MA,2NA,2HA,2LA,2HTA,2TA,2DA,2RA,2NHA,2SHA,2CA,2TSA,2GHA,2HTTA,
     2THA,2XA,2FA,2DHA,2CHA,2ZA"),
   (0x16AC0, "1DIGIT ZERO,2ONE,2TWO,2v,2FOUR,2FIVE,2SIX,2SEVEN,2EIGHT,2NINE"),
   (0x16AD0, "0BASSA VAHoENNI,3KA,3SE,3FA,3MBE,3YIE,3GAH,3DHII,3KPAH,3JO,3HWAH,3WA,3ZO,3GBU,3DO,3CE,
     3UWU,3TO,3BA,3VU,3YEIN,3PA,3WADDA,3A,3O,3OO,3U,3EE,3E,3I"),
   (0x16AF0, "2COMBINING HIGH TONE,3LOW TONE,3MID TONE,3LOW-MID TONE,3HIGH-LOW TONE,2FULL STOP"),
   (0x16B00, "0PAHAWH HMONG VOWEL KEEB,3KEEV,3KIB,3KIV,3KAUB,3KAUV,3KUB,3KUV,3KEB,3KEV,3KAIB,3KAIV,
     3KOOB,3KOOV,3KAWB,3KAWV,3KUAB,3KUAV,3KOB,3KOV,3KIAB,3KIAV,3KAB,3KAV,3KWB,3KWV,3KAAB,3KAAV,
     2CONSONANT VAU,3NTSAU,3LAU,3HAU,3NLAU,3RAU,3NKAU,3QHAU,3YAU,3HLAU,3MAU,3CHAU,3NCHAU,3HNAU,
     3PLHAU,3NTHAU,3NAU,3AU,3XAU,3CAU,2MARK CIM TUB,4SO,4KES,4KHAV,4SUAM,4HOM,4TAUM,2rVOS THOM,
     4TSHAB CEEB,3CIM CHEEM,3VOS THIAB,4FEEM,3XYEEM NTXIV,4RHO,4TOV,4FAIB,3VOS SEEV,3MEEJ SUAB,
     3VOS NRUA,3IB YAM,3XAUS,3CIM TSOV ROG"),
   (0x16B50, "2DIGIT ZERO,3ONE,3TWO,3v,3FOUR,3FIVE,3SIX,3SEVEN,3EIGHT,3NINE"),
   (0x16B5B, "2NUMBER TENS,3HUNDREDS,3TEN THOUSANDS,3MILLIONS,3HUNDRED MILLIONS,3TEN BILLIONS,
     3TRILLIONS"),
   (0x16B63, "2rVOS LUB,3XYOO,3HLI,3THIRD-STAGE HLI,3ZWJ THAJ,3HNUB,3NQIG,3XIAB,3NTUJ,3AV,
     3TXHEEJ CEEV,3MEEJ TSEEB,3TAU,3LOS,3MUS,3CIM HAIS LUS NTOG NTOG,4CUAM TSHOOJ,4TXWV,5CHWV,
     4PUB DAWB,4NRES TOS"),
   (0x16B7D, "2CLANrTSHEEJ,4YEEG,4LIS,4LAUJ,4XYOOJ,4KOO,4HAWJ,4MUAS,4THOJ,4TSAB,4PHAB,4KHAB,4HAM,
     4VAJ,4FAJ,4YAJ,4TSWB,4KWM,4VWJ"),
   (0x16E40, "0MEDEFAIDRINfoM,3S,3V,3W,3ATIU,3Z,3KP,3P,3T,3G,3F,3I,3K,3A,3J,3E,3B,3C,3U,3YU,3L,3Q,
     3HP,3NY,3X,3D,3OE,3N,3R,3O,3AI,3Y,1soM,3S,3V,3W,3ATIU,3Z,3KP,3P,3T,3G,3F,3I,3K,3A,3J,3E,3B,3C,
     3U,3YU,3L,3Q,3HP,3NY,3X,3D,3OE,3N,3R,3O,3AI,3Y,1DIGIT ZERO,2ONE,2TWO,2v,2FOUR,2FIVE,2SIX,
     2SEVEN,2EIGHT,2NINE,1NUMBER TEN,2ELEVEN,2TWELVE,2THIRTEEN,2FOURTEEN,2FIFTEEN,2SIXTEEN,
     2SEVENTEEN,2EIGHTEEN,2NINETEEN,1DIGIT ONE ALTERNATEi,2TWO ALTERNATEi,2vALTERNATEi,1COMMA,
     1FULL STOP,1uAIVA,1EXCLAMATION OH"),
   (0x16F00, "0MIAOoPA,2BA,2YI PA,2PLA,2MA,2MHA,2ARCHAIC MA,2FA,2VA,2VFA,2TA,2DA,2YI TTA,3TA,2TTA,
     2DDA,2NA,2NHA,2YI NNA,2ARCHAIC NA,2NNA,2NNHA,2LA,2LYA,2LHA,2LHYA,2TLHA,2DLHA,2TLHYA,2DLHYA,2KA,
     2GA,2YI KA,2QA,2QGA,2NGA,2NGHA,2ARCHAIC NGA,2HA,2XA,2GHA,2GHHA,2TSSA,2DZZA,2NYA,2NYHA,2TSHA,
     2DZHA,2YI TSHA,3DZHA,2REFORMED TSHA,2SHA,2SSA,2ZHA,2ZSHA,2TSA,2DZA,2YI TSA,2SA,2ZA,2ZSA,2ZZA,
     2ZZSA,2ARCHAIC ZZA,2ZZYA,2ZZSYA,2WA,2AH,2HHA,2BRI,2SYI,2DZYI,2TE,2TSE,2RTE"),
   (0x16F4F, "1rCONSONANT MODIFIER BAR,1oNASALIZATION,1rASPIRATION,2REFORMED VOICING,3ASPIRATION,
     1VOWELrA,3AA,3AHH,3AN,3ANG,3O,3OO,3WO,3W,3E,3EN,3ENG,3OEY,3I,3IA,3IAN,3IANG,3IO,3IE,3II,3IU,
     3ING,3U,3UA,3UAN,3UANG,3UU,3UEI,3UNG,3Y,3YI,3AE,3AEE,3ERR,3ROUNDED ERR,3ER,3ROUNDED ER,3AI,3EI,
     3AU,3OU,3N,3NG,3UOG,3YUI,3OG,3OER,3VW,3IG,3EA,3IONG,3UI"),
   (0x16F8F, "1TONEp,2TOPp,2a,2d,1oTONE-2,2TONE-3,2TONE-4,2TONE-5,2TONE-6,2TONE-7,2TONE-8,
     2REFORMED TONE-1,3TONE-2,3TONE-4,3TONE-5,3TONE-6,3TONE-8"),
   (0x16FE0, "0TANGUT ITERATION MARK,0NUSHU ITERATION MARK,0OLD CHINESE HOOK MARK,2ITERATION MARK,
     0KHITANsSCRIPT FILLER"),
   (0x16FF0, "0VIETNAMESE ALTERNATE READING MARK CA,4NHAY"),
   (0x18800, "0TANGUT COMPONENT-001,1COMPONENT-002,1COMPONENT-003,1COMPONENT-004,1COMPONENT-005,
     1COMPONENT-006,1COMPONENT-007,1COMPONENT-008,1COMPONENT-009,1COMPONENT-010,1COMPONENT-011,
     1COMPONENT-012,1COMPONENT-013,1COMPONENT-014,1COMPONENT-015,1COMPONENT-016,1COMPONENT-017,
     1COMPONENT-018,1COMPONENT-019,1COMPONENT-020,1COMPONENT-021,1COMPONENT-022,1COMPONENT-023,
     1COMPONENT-024,1COMPONENT-025,1COMPONENT-026,1COMPONENT-027,1COMPONENT-028,1COMPONENT-029,
     1COMPONENT-030,1COMPONENT-031,1COMPONENT-032,1COMPONENT-033,1COMPONENT-034,1COMPONENT-035,
     1COMPONENT-036,1COMPONENT-037,1COMPONENT-038,1COMPONENT-039,1COMPONENT-040,1COMPONENT-041,
     1COMPONENT-042,1COMPONENT-043,1COMPONENT-044,1COMPONENT-045,1COMPONENT-046,1COMPONENT-047,
     1COMPONENT-048,1COMPONENT-049,1COMPONENT-050,1COMPONENT-051,1COMPONENT-052,1COMPONENT-053,
     1COMPONENT-054,1COMPONENT-055,1COMPONENT-056,1COMPONENT-057,1COMPONENT-058,1COMPONENT-059,
     1COMPONENT-060,1COMPONENT-061,1COMPONENT-062,1COMPONENT-063,1COMPONENT-064,1COMPONENT-065,
     1COMPONENT-066,1COMPONENT-067,1COMPONENT-068,1COMPONENT-069,1COMPONENT-070,1COMPONENT-071,
     1COMPONENT-072,1COMPONENT-073,1COMPONENT-074,1COMPONENT-075,1COMPONENT-076,1COMPONENT-077,
     1COMPONENT-078,1COMPONENT-079,1COMPONENT-080,1COMPONENT-081,1COMPONENT-082,1COMPONENT-083,
     1COMPONENT-084,1COMPONENT-085,1COMPONENT-086,1COMPONENT-087,1COMPONENT-088,1COMPONENT-089,
     1COMPONENT-090,1COMPONENT-091,1COMPONENT-092,1COMPONENT-093,1COMPONENT-094,1COMPONENT-095,
     1COMPONENT-096,1COMPONENT-097,1COMPONENT-098,1COMPONENT-099,1COMPONENT-100,1COMPONENT-101,
     1COMPONENT-102,1COMPONENT-103,1COMPONENT-104,1COMPONENT-105,1COMPONENT-106,1COMPONENT-107,
     1COMPONENT-108,1COMPONENT-109,1COMPONENT-110,1COMPONENT-111,1COMPONENT-112,1COMPONENT-113,
     1COMPONENT-114,1COMPONENT-115,1COMPONENT-116,1COMPONENT-117,1COMPONENT-118,1COMPONENT-119,
     1COMPONENT-120,1COMPONENT-121,1COMPONENT-122,1COMPONENT-123,1COMPONENT-124,1COMPONENT-125,
     1COMPONENT-126,1COMPONENT-127,1COMPONENT-128,1COMPONENT-129,1COMPONENT-130,1COMPONENT-131,
     1COMPONENT-132,1COMPONENT-133,1COMPONENT-134,1COMPONENT-135,1COMPONENT-136,1COMPONENT-137,
     1COMPONENT-138,1COMPONENT-139,1COMPONENT-140,1COMPONENT-141,1COMPONENT-142,1COMPONENT-143,
     1COMPONENT-144,1COMPONENT-145,1COMPONENT-146,1COMPONENT-147,1COMPONENT-148,1COMPONENT-149,
     1COMPONENT-150,1COMPONENT-151,1COMPONENT-152,1COMPONENT-153,1COMPONENT-154,1COMPONENT-155,
     1COMPONENT-156,1COMPONENT-157,1COMPONENT-158,1COMPONENT-159,1COMPONENT-160,1COMPONENT-161,
     1COMPONENT-162,1COMPONENT-163,1COMPONENT-164,1COMPONENT-165,1COMPONENT-166,1COMPONENT-167,
     1COMPONENT-168,1COMPONENT-169,1COMPONENT-170,1COMPONENT-171,1COMPONENT-172,1COMPONENT-173,
     1COMPONENT-174,1COMPONENT-175,1COMPONENT-176,1COMPONENT-177,1COMPONENT-178,1COMPONENT-179,
     1COMPONENT-180,1COMPONENT-181,1COMPONENT-182,1COMPONENT-183,1COMPONENT-184,1COMPONENT-185,
     1COMPONENT-186,1COMPONENT-187,1COMPONENT-188,1COMPONENT-189,1COMPONENT-190,1COMPONENT-191,
     1COMPONENT-192,1COMPONENT-193,1COMPONENT-194,1COMPONENT-195,1COMPONENT-196,1COMPONENT-197,
     1COMPONENT-198,1COMPONENT-199,1COMPONENT-200,1COMPONENT-201,1COMPONENT-202,1COMPONENT-203,
     1COMPONENT-204,1COMPONENT-205,1COMPONENT-206,1COMPONENT-207,1COMPONENT-208,1COMPONENT-209,
     1COMPONENT-210,1COMPONENT-211,1COMPONENT-212,1COMPONENT-213,1COMPONENT-214,1COMPONENT-215,
     1COMPONENT-216,1COMPONENT-217,1COMPONENT-218,1COMPONENT-219,1COMPONENT-220,1COMPONENT-221,
     1COMPONENT-222,1COMPONENT-223,1COMPONENT-224,1COMPONENT-225,1COMPONENT-226,1COMPONENT-227,
     1COMPONENT-228,1COMPONENT-229,1COMPONENT-230,1COMPONENT-231,1COMPONENT-232,1COMPONENT-233,
     1COMPONENT-234,1COMPONENT-235,1COMPONENT-236,1COMPONENT-237,1COMPONENT-238,1COMPONENT-239,
     1COMPONENT-240,1COMPONENT-241,1COMPONENT-242,1COMPONENT-243,1COMPONENT-244,1COMPONENT-245,
     1COMPONENT-246,1COMPONENT-247,1COMPONENT-248,1COMPONENT-249,1COMPONENT-250,1COMPONENT-251,
     1COMPONENT-252,1COMPONENT-253,1COMPONENT-254,1COMPONENT-255,1COMPONENT-256,1COMPONENT-257,
     1COMPONENT-258,1COMPONENT-259,1COMPONENT-260,1COMPONENT-261,1COMPONENT-262,1COMPONENT-263,
     1COMPONENT-264,1COMPONENT-265,1COMPONENT-266,1COMPONENT-267,1COMPONENT-268,1COMPONENT-269,
     1COMPONENT-270,1COMPONENT-271,1COMPONENT-272,1COMPONENT-273,1COMPONENT-274,1COMPONENT-275,
     1COMPONENT-276,1COMPONENT-277,1COMPONENT-278,1COMPONENT-279,1COMPONENT-280,1COMPONENT-281,
     1COMPONENT-282,1COMPONENT-283,1COMPONENT-284,1COMPONENT-285,1COMPONENT-286,1COMPONENT-287,
     1COMPONENT-288,1COMPONENT-289,1COMPONENT-290,1COMPONENT-291,1COMPONENT-292,1COMPONENT-293,
     1COMPONENT-294,1COMPONENT-295,1COMPONENT-296,1COMPONENT-297,1COMPONENT-298,1COMPONENT-299,
     1COMPONENT-300,1COMPONENT-301,1COMPONENT-302,1COMPONENT-303,1COMPONENT-304,1COMPONENT-305,
     1COMPONENT-306,1COMPONENT-307,1COMPONENT-308,1COMPONENT-309,1COMPONENT-310,1COMPONENT-311,
     1COMPONENT-312,1COMPONENT-313,1COMPONENT-314,1COMPONENT-315,1COMPONENT-316,1COMPONENT-317,
     1COMPONENT-318,1COMPONENT-319,1COMPONENT-320,1COMPONENT-321,1COMPONENT-322,1COMPONENT-323,
     1COMPONENT-324,1COMPONENT-325,1COMPONENT-326,1COMPONENT-327,1COMPONENT-328,1COMPONENT-329,
     1COMPONENT-330,1COMPONENT-331,1COMPONENT-332,1COMPONENT-333,1COMPONENT-334,1COMPONENT-335,
     1COMPONENT-336,1COMPONENT-337,1COMPONENT-338,1COMPONENT-339,1COMPONENT-340,1COMPONENT-341,
     1COMPONENT-342,1COMPONENT-343,1COMPONENT-344,1COMPONENT-345,1COMPONENT-346,1COMPONENT-347,
     1COMPONENT-348,1COMPONENT-349,1COMPONENT-350,1COMPONENT-351,1COMPONENT-352,1COMPONENT-353,
     1COMPONENT-354,1COMPONENT-355,1COMPONENT-356,1COMPONENT-357,1COMPONENT-358,1COMPONENT-359,
     1COMPONENT-360,1COMPONENT-361,1COMPONENT-362,1COMPONENT-363,1COMPONENT-364,1COMPONENT-365,
     1COMPONENT-366,1COMPONENT-367,1COMPONENT-368,1COMPONENT-369,1COMPONENT-370,1COMPONENT-371,
     1COMPONENT-372,1COMPONENT-373,1COMPONENT-374,1COMPONENT-375,1COMPONENT-376,1COMPONENT-377,
     1COMPONENT-378,1COMPONENT-379,1COMPONENT-380,1COMPONENT-381,1COMPONENT-382,1COMPONENT-383,
     1COMPONENT-384,1COMPONENT-385,1COMPONENT-386,1COMPONENT-387,1COMPONENT-388,1COMPONENT-389,
     1COMPONENT-390,1COMPONENT-391,1COMPONENT-392,1COMPONENT-393,1COMPONENT-394,1COMPONENT-395,
     1COMPONENT-396,1COMPONENT-397,1COMPONENT-398,1COMPONENT-399,1COMPONENT-400,1COMPONENT-401,
     1COMPONENT-402,1COMPONENT-403,1COMPONENT-404,1COMPONENT-405,1COMPONENT-406,1COMPONENT-407,
     1COMPONENT-408,1COMPONENT-409,1COMPONENT-410,1COMPONENT-411,1COMPONENT-412,1COMPONENT-413,
     1COMPONENT-414,1COMPONENT-415,1COMPONENT-416,1COMPONENT-417,1COMPONENT-418,1COMPONENT-419,
     1COMPONENT-420,1COMPONENT-421,1COMPONENT-422,1COMPONENT-423,1COMPONENT-424,1COMPONENT-425,
     1COMPONENT-426,1COMPONENT-427,1COMPONENT-428,1COMPONENT-429,1COMPONENT-430,1COMPONENT-431,
     1COMPONENT-432,1COMPONENT-433,1COMPONENT-434,1COMPONENT-435,1COMPONENT-436,1COMPONENT-437,
     1COMPONENT-438,1COMPONENT-439,1COMPONENT-440,1COMPONENT-441,1COMPONENT-442,1COMPONENT-443,
     1COMPONENT-444,1COMPONENT-445,1COMPONENT-446,1COMPONENT-447,1COMPONENT-448,1COMPONENT-449,
     1COMPONENT-450,1COMPONENT-451,1COMPONENT-452,1COMPONENT-453,1COMPONENT-454,1COMPONENT-455,
     1COMPONENT-456,1COMPONENT-457,1COMPONENT-458,1COMPONENT-459,1COMPONENT-460,1COMPONENT-461,
     1COMPONENT-462,1COMPONENT-463,1COMPONENT-464,1COMPONENT-465,1COMPONENT-466,1COMPONENT-467,
     1COMPONENT-468,1COMPONENT-469,1COMPONENT-470,1COMPONENT-471,1COMPONENT-472,1COMPONENT-473,
     1COMPONENT-474,1COMPONENT-475,1COMPONENT-476,1COMPONENT-477,1COMPONENT-478,1COMPONENT-479,
     1COMPONENT-480,1COMPONENT-481,1COMPONENT-482,1COMPONENT-483,1COMPONENT-484,1COMPONENT-485,
     1COMPONENT-486,1COMPONENT-487,1COMPONENT-488,1COMPONENT-489,1COMPONENT-490,1COMPONENT-491,
     1COMPONENT-492,1COMPONENT-493,1COMPONENT-494,1COMPONENT-495,1COMPONENT-496,1COMPONENT-497,
     1COMPONENT-498,1COMPONENT-499,1COMPONENT-500,1COMPONENT-501,1COMPONENT-502,1COMPONENT-503,
     1COMPONENT-504,1COMPONENT-505,1COMPONENT-506,1COMPONENT-507,1COMPONENT-508,1COMPONENT-509,
     1COMPONENT-510,1COMPONENT-511,1COMPONENT-512,1COMPONENT-513,1COMPONENT-514,1COMPONENT-515,
     1COMPONENT-516,1COMPONENT-517,1COMPONENT-518,1COMPONENT-519,1COMPONENT-520,1COMPONENT-521,
     1COMPONENT-522,1COMPONENT-523,1COMPONENT-524,1COMPONENT-525,1COMPONENT-526,1COMPONENT-527,
     1COMPONENT-528,1COMPONENT-529,1COMPONENT-530,1COMPONENT-531,1COMPONENT-532,1COMPONENT-533,
     1COMPONENT-534,1COMPONENT-535,1COMPONENT-536,1COMPONENT-537,1COMPONENT-538,1COMPONENT-539,
     1COMPONENT-540,1COMPONENT-541,1COMPONENT-542,1COMPONENT-543,1COMPONENT-544,1COMPONENT-545,
     1COMPONENT-546,1COMPONENT-547,1COMPONENT-548,1COMPONENT-549,1COMPONENT-550,1COMPONENT-551,
     1COMPONENT-552,1COMPONENT-553,1COMPONENT-554,1COMPONENT-555,1COMPONENT-556,1COMPONENT-557,
     1COMPONENT-558,1COMPONENT-559,1COMPONENT-560,1COMPONENT-561,1COMPONENT-562,1COMPONENT-563,
     1COMPONENT-564,1COMPONENT-565,1COMPONENT-566,1COMPONENT-567,1COMPONENT-568,1COMPONENT-569,
     1COMPONENT-570,1COMPONENT-571,1COMPONENT-572,1COMPONENT-573,1COMPONENT-574,1COMPONENT-575,
     1COMPONENT-576,1COMPONENT-577,1COMPONENT-578,1COMPONENT-579,1COMPONENT-580,1COMPONENT-581,
     1COMPONENT-582,1COMPONENT-583,1COMPONENT-584,1COMPONENT-585,1COMPONENT-586,1COMPONENT-587,
     1COMPONENT-588,1COMPONENT-589,1COMPONENT-590,1COMPONENT-591,1COMPONENT-592,1COMPONENT-593,
     1COMPONENT-594,1COMPONENT-595,1COMPONENT-596,1COMPONENT-597,1COMPONENT-598,1COMPONENT-599,
     1COMPONENT-600,1COMPONENT-601,1COMPONENT-602,1COMPONENT-603,1COMPONENT-604,1COMPONENT-605,
     1COMPONENT-606,1COMPONENT-607,1COMPONENT-608,1COMPONENT-609,1COMPONENT-610,1COMPONENT-611,
     1COMPONENT-612,1COMPONENT-613,1COMPONENT-614,1COMPONENT-615,1COMPONENT-616,1COMPONENT-617,
     1COMPONENT-618,1COMPONENT-619,1COMPONENT-620,1COMPONENT-621,1COMPONENT-622,1COMPONENT-623,
     1COMPONENT-624,1COMPONENT-625,1COMPONENT-626,1COMPONENT-627,1COMPONENT-628,1COMPONENT-629,
     1COMPONENT-630,1COMPONENT-631,1COMPONENT-632,1COMPONENT-633,1COMPONENT-634,1COMPONENT-635,
     1COMPONENT-636,1COMPONENT-637,1COMPONENT-638,1COMPONENT-639,1COMPONENT-640,1COMPONENT-641,
     1COMPONENT-642,1COMPONENT-643,1COMPONENT-644,1COMPONENT-645,1COMPONENT-646,1COMPONENT-647,
     1COMPONENT-648,1COMPONENT-649,1COMPONENT-650,1COMPONENT-651,1COMPONENT-652,1COMPONENT-653,
     1COMPONENT-654,1COMPONENT-655,1COMPONENT-656,1COMPONENT-657,1COMPONENT-658,1COMPONENT-659,
     1COMPONENT-660,1COMPONENT-661,1COMPONENT-662,1COMPONENT-663,1COMPONENT-664,1COMPONENT-665,
     1COMPONENT-666,1COMPONENT-667,1COMPONENT-668,1COMPONENT-669,1COMPONENT-670,1COMPONENT-671,
     1COMPONENT-672,1COMPONENT-673,1COMPONENT-674,1COMPONENT-675,1COMPONENT-676,1COMPONENT-677,
     1COMPONENT-678,1COMPONENT-679,1COMPONENT-680,1COMPONENT-681,1COMPONENT-682,1COMPONENT-683,
     1COMPONENT-684,1COMPONENT-685,1COMPONENT-686,1COMPONENT-687,1COMPONENT-688,1COMPONENT-689,
     1COMPONENT-690,1COMPONENT-691,1COMPONENT-692,1COMPONENT-693,1COMPONENT-694,1COMPONENT-695,
     1COMPONENT-696,1COMPONENT-697,1COMPONENT-698,1COMPONENT-699,1COMPONENT-700,1COMPONENT-701,
     1COMPONENT-702,1COMPONENT-703,1COMPONENT-704,1COMPONENT-705,1COMPONENT-706,1COMPONENT-707,
     1COMPONENT-708,1COMPONENT-709,1COMPONENT-710,1COMPONENT-711,1COMPONENT-712,1COMPONENT-713,
     1COMPONENT-714,1COMPONENT-715,1COMPONENT-716,1COMPONENT-717,1COMPONENT-718,1COMPONENT-719,
     1COMPONENT-720,1COMPONENT-721,1COMPONENT-722,1COMPONENT-723,1COMPONENT-724,1COMPONENT-725,
     1COMPONENT-726,1COMPONENT-727,1COMPONENT-728,1COMPONENT-729,1COMPONENT-730,1COMPONENT-731,
     1COMPONENT-732,1COMPONENT-733,1COMPONENT-734,1COMPONENT-735,1COMPONENT-736,1COMPONENT-737,
     1COMPONENT-738,1COMPONENT-739,1COMPONENT-740,1COMPONENT-741,1COMPONENT-742,1COMPONENT-743,
     1COMPONENT-744,1COMPONENT-745,1COMPONENT-746,1COMPONENT-747,1COMPONENT-748,1COMPONENT-749,
     1COMPONENT-750,1COMPONENT-751,1COMPONENT-752,1COMPONENT-753,1COMPONENT-754,1COMPONENT-755,
     1COMPONENT-756,1COMPONENT-757,1COMPONENT-758,1COMPONENT-759,1COMPONENT-760,1COMPONENT-761,
     1COMPONENT-762,1COMPONENT-763,1COMPONENT-764,1COMPONENT-765,1COMPONENT-766,1COMPONENT-767,
     1COMPONENT-768"),
   (0x1AFF0, "0KATAKANAoMINNAN TONE-2,3TONE-3,3TONE-4,3TONE-5"),
   (0x1AFF5, "3TONE-7,3TONE-8,3NASALIZED TONE-1,4TONE-2,4TONE-3,4TONE-4,4TONE-5"),
   (0x1AFFD, "4TONE-7,4TONE-8"),
   (0x1B000, "2ARCHAIC E,0HIRAGANAoARCHAIC YE,0HENTAIGANAoA-1,2A-2,2A-3,2A-WO,2I-1,2I-2,2I-3,2I-4,
     2U-1,2U-2,2U-3,2U-4,2U-5,2E-2,2E-3,2E-4,2E-5,2E-6,2O-1,2O-2,2O-3,2KA-1,2KA-2,2KA-3,2KA-4,2KA-5,
     2KA-6,2KA-7,2KA-8,2KA-9,2KA-10,2KA-11,2KA-KE,2KI-1,2KI-2,2KI-3,2KI-4,2KI-5,2KI-6,2KI-7,2KI-8,
     2KU-1,2KU-2,2KU-3,2KU-4,2KU-5,2KU-6,2KU-7,2KE-1,2KE-2,2KE-3,2KE-4,2KE-5,2KE-6,2KO-1,2KO-2,
     2KO-3,2KO-KI,2SA-1,2SA-2,2SA-3,2SA-4,2SA-5,2SA-6,2SA-7,2SA-8,2SI-1,2SI-2,2SI-3,2SI-4,2SI-5,
     2SI-6,2SU-1,2SU-2,2SU-3,2SU-4,2SU-5,2SU-6,2SU-7,2SU-8,2SE-1,2SE-2,2SE-3,2SE-4,2SE-5,2SO-1,
     2SO-2,2SO-3,2SO-4,2SO-5,2SO-6,2SO-7,2TA-1,2TA-2,2TA-3,2TA-4,2TI-1,2TI-2,2TI-3,2TI-4,2TI-5,
     2TI-6,2TI-7,2TU-1,2TU-2,2TU-3,2TU-4,2TU-TO,2TE-1,2TE-2,2TE-3,2TE-4,2TE-5,2TE-6,2TE-7,2TE-8,
     2TE-9,2TO-1,2TO-2,2TO-3,2TO-4,2TO-5,2TO-6,2TO-RA,2NA-1,2NA-2,2NA-3,2NA-4,2NA-5,2NA-6,2NA-7,
     2NA-8,2NA-9,2NI-1,2NI-2,2NI-3,2NI-4,2NI-5,2NI-6,2NI-7,2NI-TE,2NU-1,2NU-2,2NU-3,2NE-1,2NE-2,
     2NE-3,2NE-4,2NE-5,2NE-6,2NE-KO,2NO-1,2NO-2,2NO-3,2NO-4,2NO-5,2HA-1,2HA-2,2HA-3,2HA-4,2HA-5,
     2HA-6,2HA-7,2HA-8,2HA-9,2HA-10,2HA-11,2HI-1,2HI-2,2HI-3,2HI-4,2HI-5,2HI-6,2HI-7,2HU-1,2HU-2,
     2HU-3,2HE-1,2HE-2,2HE-3,2HE-4,2HE-5,2HE-6,2HE-7,2HO-1,2HO-2,2HO-3,2HO-4,2HO-5,2HO-6,2HO-7,
     2HO-8,2MA-1,2MA-2,2MA-3,2MA-4,2MA-5,2MA-6,2MA-7,2MI-1,2MI-2,2MI-3,2MI-4,2MI-5,2MI-6,2MI-7,
     2MU-1,2MU-2,2MU-3,2MU-4,2ME-1,2ME-2,2ME-MA,2MO-1,2MO-2,2MO-3,2MO-4,2MO-5,2MO-6,2YA-1,2YA-2,
     2YA-3,2YA-4,2YA-5,2YA-YO,2YU-1,2YU-2,2YU-3,2YU-4,2YO-1,2YO-2,2YO-3,2YO-4,2YO-5,2YO-6,2RA-1,
     2RA-2,2RA-3,2RA-4,2RI-1,2RI-2,2RI-3,2RI-4,2RI-5,2RI-6,2RI-7,2RU-1,2RU-2,2RU-3,2RU-4,2RU-5,
     2RU-6,2RE-1,2RE-2,2RE-3,2RE-4,2RO-1,2RO-2,2RO-3,2RO-4,2RO-5,2RO-6,2WA-1,2WA-2,2WA-3,2WA-4,
     2WA-5,2WI-1,2WI-2,2WI-3,2WI-4,2WI-5,2WE-1,2WE-2,2WE-3,2WE-4,2WO-1,2WO-2,2WO-3,2WO-4,2WO-5,
     2WO-6,2WO-7,2N-MU-MO-1,2N-MU-MO-2,0HIRAGANAoARCHAIC WU,0KATAKANAoARCHAIC YI,3YE,3WU"),
   (0x1B150, "0HIRAGANAosWI,3WE,3WO"), (0x1B164, "0KATAKANAosWI,3WE,3WO,3N"),
   (0x1BC00, "0DUPLOYANoH,2X,2P,2T,2F,2K,2L,2B,2D,2V,2G,2R,2P N,2D S,2F N,2K M,2R S,2TH,2SLOAN DH,
     2DH,2KK,2SLOAN J,2HL,2LH,2RH,2M,2N,2J,2S,2M N,2N M,2J M,2S J,2MzDOT,2NzDOT,2JzDOT,
     4DOTS INSIDEba,2SzDOT,5d,2M S,2N S,2J S,2S S,2M N S,2N M S,2J M S,2S J S,2J SzDOT,3N,4S,2S T,
     4R,3P,4R,2T S,3R S,2W,2WH,2W R,2S N,3M,2K R S,2G R S,2S K,4R,2A,2SLOAN OW,2OA,2O,2AOU,2I,2E,
     2IE,2SHORT I,2UI,2EE,2SLOAN EH,2ROMANIAN I,2SLOAN EE,2LONG I,2YE,2U,2EU,2XW,2U N,2LONG U,
     2ROMANIAN U,2UH,2SLOAN U,2OOH,2OW,2OU,2WA,2WO,2WI,2WEI,2WOW,2NASAL U,3O,3I,3A,2PERNIN AN,3AM,
     2SLOAN EN,3AN,3ON,2VOCALIC M"),
   (0x1BC70, "1AFFIXmjSECANT,2MIDjSECANT,2pjSECANT,2LOWxSECANT,2MIDxSECANT,2HIGHxSECANT,
     2ATTACHED SECANT,3LEFT-TO-RIGHT SECANT,3TANGENT,3TAIL,3E HOOK,3I HOOK,3TANGENT HOOK"),
   (0x1BC80, "2HIGH ACUTE,3TIGHT ACUTE,3GRAVE,3LONG GRAVE,3DOT,3CIRCLE,3LINE,3WAVE,3x"),
   (0x1BC90, "2LOW ACUTE,3TIGHT ACUTE,3GRAVE,3LONG GRAVE,3DOT,3CIRCLE,3LINE,3WAVE,3x,3c"),
   (0x1BC9C, "1rOzCROSS,1THICKoSELECTOR,1gMARK,1PUNCTUATION CHINOOK FULL STOP,
     0SHORTHAND FORMAToOVERLAP,2CONTINUING OVERLAP,2DOWN STEP,2UP STEP"),
   (0x1CF00, "0ZNAMENNY COMBINING MARK GORAZDO NIZKO S KRYZHEM ONm,3NIZKO S KRYZHEM ONm,3TSATA ONm,
     3GORAZDO NIZKO ONm,3NIZKO ONm,3SREDNE ONm,3MALO POVYSHE ONm,3POVYSHE ONm,3VYSOKO ONm,
     3MALO POVYSHE S KHOKHLOM ONm,3POVYSHE S KHOKHLOM ONm,3VYSOKO S KHOKHLOM ONm,
     3GORAZDO NIZKO S KRYZHEM ONp,3NIZKO S KRYZHEM ONp,3TSATA ONp,3GORAZDO NIZKO ONp,3NIZKO ONp,
     3SREDNE ONp,3MALO POVYSHE ONp,3POVYSHE ONp,3VYSOKO ONp,3MALO POVYSHE S KHOKHLOM ONp,
     3POVYSHE S KHOKHLOM ONp,3VYSOKO S KHOKHLOM ONp,3TSATA S KRYZHEM,3MALO POVYSHE S KRYZHEM,
     3STRANNO MALO POVYSHE,3POVYSHE S KRYZHEM,4STRANNO,3VYSOKO S KRYZHEM,3MALO POVYSHE STRANNO,
     3GORAZDO VYSOKO,3ZELO,3ON,3RAVNO,3TIKHAYA,3BORZAYA,3UDARKA,3PODVERTKA,3LOMKA,3KUPNAYA,3KACHKA,
     3ZEVOK,3SKOBA,3RAZSEKA,3KRYZH ONm"),
   (0x1CF30, "2TONAL RANGE MARK MRACHNO,5SVETLO,5TRESVETLO,2MARK ZADERZHKA,3DEMESTVENNY ZADERZHKA,
     3OTSECHKA,3PODCHASHIE,4zxt,3CHASHKA,4POLNAYA,3OBLACHKO,3SOROCHYA NOZHKA,3TOCHKA,3DVOETOCHIE,
     2ATTACHINGxOMET,2MARK CURVED OMET,3KRYZH,2LOWER TONAL RANGE INDICATOR,
     1PRIZNAK MODIFIER LEVEL-2,3LEVEL-3,3DIRECTION FLIP,3KRYZH,3ROG"),
   (0x1CF50, "1NEUME KRYUK,3TIKHY,2PARAKLIT,2DVA V CHELNU,2KLYUCH,2ZANOZHEK,2STOPITSA,3S OCHKOM,
     2PEREVODKA,3NEPOSTOYANNAYA,2STOPITSAzSOROCHYA NOZHKA,2CHELYUSTKA,2PALKA,2ZAPYATAYA,
     2GOLUBCHIK BORZY,3TIKHY,3MRACHNY,3SVETLY,3TRESVETLY,2VRAKHIYA PROSTAYA,3MRACHNAYA,3SVETLAYA,
     3TRESVETLAYA,3KLYUCHEVAYA PROSTAYA,4MRACHNAYA,4SVETLAYA,4TRESVETLAYA,2gZAPYATAYA,
     2REVERSED CHELYUSTKA,2DERBITSA,2KHAMILO,2CHASHKA,2PODCHASHIE,2SKAMEYTSA MRACHNAYA,3SVETLAYA,
     3TRESVETLAYA,3TIKHAYA,2DEMESTVENNY KLYUCH,2SKAMEYTSA KLYUCHEVAYA SVETLAYA,
     3KLYUCHENEPOSTOYANNAYA,3KLYUCHEVAYA TIKHAYA,3DVOECHELNAYA PROSTAYA,4SVETLAYA,4NEPOSTOYANNAYA,
     4KLYUCHEVAYA,2SLOZHITIE,3S ZAPYATOY,3ZAKRYTOE,3S KRYZHEM,2KRYZH,2ROG,2FITA,2KOBYLA,2ZMEYTSA,
     2STATYA,3S ZAPYATOY,4KRYZHEM,4ZAPYATOY I KRYZHEM,4KRYZHEM I ZAPYATOY,3ZAKRYTAYA,4S ZAPYATOY,
     3S ROGOM,4DVUMYA ZAPYATYMI,4ZAPYATOY I PODCHASHIEM,2POLKULIZMY,2STATYA NEPOSTOYANNAYA,
     2STRELA PROSTAYA,3MRACHNOTIKHAYA,3KRYZHEVAYA,3POLUPOVODNAYA,3POVODNAYA,3NEPOSTOYANNAYA,
     3KLYUCHEPOVODNAYA,3KLYUCHENEPOSTOYANNAYA,3TIKHAYA PUTNAYA,3DVOECHELNAYA,3DVOECHELNOKRYZHEVAYA,
     3DVOECHELNOPOVODNAYA,3DVOECHELNAYA KLYUCHEVAYA,3DVOECHELNOPOVODNAYA KLYUCHEVAYA,
     3GROMNAYAzSINGLE ZAPYATAYA,3GROMOPOVODNAYAzSINGLE ZAPYATAYA,3GROMNAYA,3GROMOPOVODNAYA,
     4zgZAPYATAYA,3GROMOKRYZHEVAYA,4POVODNAYA,2MECHIK,3POVODNY,3KLYUCHEVOY,3KLYUCHEPOVODNY,
     3KLYUCHENEPOSTOYANNY,2STRELA TRYASOGLASNAYA,3TRYASOPOVODNAYA,3TRYASOSTRELNAYA,2OSOKA,3SVETLAYA,
     3TRESVETLAYA,3KRYUKOVAYA SVETLAYA,3KLYUCHEVAYA SVETLAYA,4NEPOSTOYANNAYA,2STRELA KRYUKOVAYA,
     4POVODNAYA,4GROMNAYAzSINGLE ZAPYATAYA,4GROMOPOVODNAYAzSINGLE ZAPYATAYA,4GROMNAYA,
     4GROMOPOVODNAYA,5zgZAPYATAYA,4GROMOKRYZHEVAYA,5POVODNAYA,4TRYASKA,2KUFISMA,2OBLAKO,2DUDA,
     2NEMKA,2PAUK"),
   (0x1D000, "0BYZANTINE MUSICALuPSILI,3DASEIA,3PERISPOMENI,3OXEIA EKFONITIKON,4DIPLI,
     3VAREIA EKFONITIKON,4DIPLI,3KATHISTI,3SYRMATIKI,3PARAKLITIKI,3YPOKRISIS,4DIPLI,3KREMASTI,
     3APESO EKFONITIKON,3EXO EKFONITIKON,3TELEIA,3KENTIMATA,3APOSTROFOS,4DIPLI,3SYNEVMA,3THITA,
     3OLIGON ARCHAION,3GORGON ARCHAION,3PSILON,3CHAMILON,3VATHY,3ISON ARCHAION,3KENTIMA ARCHAION,
     3KENTIMATA ARCHAION,3SAXIMATA,3PARICHON,3STAVROS APODEXIA,3OXEIAI ARCHAION,3VAREIAI ARCHAION,
     3APODERMA ARCHAION,3APOTHEMA,3KLASMA,3REVMA,3PIASMA ARCHAION,3TINAGMA,3ANATRICHISMA,3SEISMA,
     3SYNAGMA ARCHAION,4META STAVROU,3OYRANISMA ARCHAION,3THEMA,3LEMOI,3DYO,3TRIA,3TESSERA,
     3KRATIMATA,3APESO EXO NEO,3FTHORA ARCHAION,3IMIFTHORA,3TROMIKON ARCHAION,3KATAVA TROMIKON,
     3PELASTON,3PSIFISTON,3KONTEVMA,3CHOREVMA ARCHAION,3RAPISMA,3PARAKALESMA ARCHAION,
     3PARAKLITIKI ARCHAION,3ICHADIN,3NANA,3PETASMA,3KONTEVMA ALLO,3TROMIKON ALLO,3STRAGGISMATA,
     3GRONTHISMATA,3ISON NEO,3OLIGON NEO,3OXEIA NEO,3PETASTI,3KOUFISMA,3PETASTOKOUFISMA,
     3KRATIMOKOUFISMA,3PELASTON NEO,3KENTIMATA NEO ANO,3KENTIMA NEO ANO,3YPSILI,3APOSTROFOS NEO,
     3APOSTROFOI SYNDESMOS NEO,3YPORROI,3KRATIMOYPORROON,3ELAFRON,3CHAMILI,3MIKRON ISON,3VAREIA NEO,
     3PIASMA NEO,3PSIFISTON NEO,3OMALON,3ANTIKENOMA,3LYGISMA,3PARAKLITIKI NEO,3PARAKALESMA NEO,
     3ETERON PARAKALESMA,3KYLISMA,3ANTIKENOKYLISMA,3TROMIKON NEO,3EKSTREPTON,3SYNAGMA NEO,3SYRMA,
     3CHOREVMA NEO,3EPEGERMA,3SEISMA NEO,3XIRON KLASMA,3TROMIKOPSIFISTON,3PSIFISTOLYGISMA,
     3TROMIKOLYGISMA,3TROMIKOPARAKALESMA,3PSIFISTOPARAKALESMA,3TROMIKOSYNAGMA,3PSIFISTOSYNAGMA,
     3GORGOSYNTHETON,3ARGOSYNTHETON,3ETERON ARGOSYNTHETON,3OYRANISMA NEO,3THEMATISMOS ESO,4EXO,
     3THEMA APLOUN,3THES KAI APOTHES,3KATAVASMA,3ENDOFONON,3YFEN KATO,4ANO,3STAVROS,3KLASMA ANO,
     3DIPLI ARCHAION,3KRATIMA ARCHAION,4ALLO,4NEO,3APODERMA NEO,3APLI,3DIPLI,3TRIPLI,3TETRAPLI,
     3KORONIS,3LEIMMA ENOS CHRONOU,4DYO CHRONON,4TRION CHRONON,4TESSARON CHRONON,4IMISEOS CHRONOU,
     3GORGON NEO ANO,4PARESTIGMENON ARISTERA,5DEXIA,3DIGORGON,4PARESTIGMENON ARISTERA KATO,6ANO,
     5DEXIA,3TRIGORGON,3ARGON,3IMIDIARGON,3DIARGON,3AGOGI POLI ARGI,4ARGOTERI,4ARGI,4METRIA,4MESI,
     4GORGI,4GORGOTERI,4POLI GORGI,3MARTYRIA PROTOS ICHOS,4ALLI PROTOS ICHOS,4DEYTEROS ICHOS,
     4ALLI DEYTEROS ICHOS,4TRITOS ICHOS,4TRIFONIAS,4TETARTOS ICHOS,5LEGETOS ICHOS,4LEGETOS ICHOS,
     4PLAGIOS ICHOS,3ISAKIA TELOUS ICHIMATOS,3APOSTROFOI TELOUS ICHIMATOS,3FANEROSIS TETRAFONIAS,
     4MONOFONIAS,4DIFONIAS,3MARTYRIA VARYS ICHOS,4PROTOVARYS ICHOS,4PLAGIOS TETARTOS ICHOS,
     3GORTHMIKON N APLOUN,5DIPLOUN,3ENARXIS KAI FTHORA VOU,3IMIFONON,3IMIFTHORON,
     3FTHORA ARCHAION DEYTEROU ICHOU,4DIATONIKI PA,5NANA,4NAOS ICHOS,4DIATONIKI DI,
     4SKLIRON DIATONON DI,4DIATONIKI KE,5ZO,5NI KATO,6ANO,4MALAKON CHROMA DIFONIAS,6MONOFONIAS,
     3FHTORA SKLIRON CHROMA VASIS,3FTHORA SKLIRON CHROMA SYNAFI,4NENANO,3CHROA ZYGOS,4KLITON,
     4SPATHI,3FTHORA I YFESIS TETARTIMORION,4ENARMONIOS ANTIFONIA,3YFESIS TRITIMORION,
     3DIESIS TRITIMORION,4TETARTIMORION,4APLI DYO DODEKATA,4MONOGRAMMOS TESSERA DODEKATA,
     4DIGRAMMOS EX DODEKATA,4TRIGRAMMOS OKTO DODEKATA,3YFESIS APLI DYO DODEKATA,
     4MONOGRAMMOS TESSERA DODEKATA,4DIGRAMMOS EX DODEKATA,4TRIGRAMMOS OKTO DODEKATA,3GENIKI DIESIS,
     4YFESIS,3DIASTOLI APLI MIKRI,5MEGALI,4DIPLI,4THESEOS,3SIMANSIS THESEOS,5DISIMOU,5TRISIMOU,
     5TETRASIMOU,4ARSEOS,5DISIMOU,5TRISIMOU,5TETRASIMOU,3DIGRAMMA GG,3DIFTOGGOS OU,3STIGMA,
     3ARKTIKO PA,4VOU,4GA,4DI,4KE,4ZO,4NI,3KENTIMATA NEO MESO,3KENTIMA NEO MESO,3KENTIMATA NEO KATO,
     3KENTIMA NEO KATO,3KLASMA KATO,3GORGON NEO KATO"),
   (0x1D100, "0MUSICALuSINGLE BARLINE,2gBARLINE,2hBARLINE,2REVERSEhBARLINE,2DASHED BARLINE,
     2SHORT BARLINE,2mREPEATr,2pREPEATr,2REPEAT DOTS,2DAL SEGNO,2DA CAPO,2SEGNO,2CODA,
     2REPEATED FIGURE-1,3FIGURE-2,3FIGURE-3,2FERMATA,3d,2BREATH MARK,2CAESURA,2BRACE,2BRACKET,
     2ONE-LINE STAFF,2TWO-LINE STAFF,2THREE-LINE STAFF,2FOUR-LINE STAFF,2FIVE-LINE STAFF,
     2SIX-LINE STAFF,2SIX-STRING FRETBOARD,2FOUR-STRING FRETBOARD,2G CLEF,4OTTAVA ALTA,5BASSA,
     2C CLEF,2F CLEF,4OTTAVA ALTA,5BASSA,2DRUM CLEF-1,3CLEF-2"),
   (0x1D129, "2MULTIPLE MEASURE REST,2gSHARP,3FLAT,2FLAT UP,3DOWN,2NATURAL UP,3DOWN,2SHARP UP,3DOWN,
     2QUARTER TONE SHARP,4FLAT,2COMMON TIME,2CUT TIME,2OTTAVA ALTA,3BASSA,2QUINDICESIMA ALTA,3BASSA,
     2MULTI REST,2WHOLE REST,2HALF REST,2QUARTER REST,2EIGHTH REST,2SIXTEENTH REST,
     2THIRTY-SECOND REST,2SIXTY-FOURTH REST,2ONE HUNDRED TWENTY-EIGHTH REST,2X NOTEHEAD,
     2PLUS NOTEHEAD,2CIRCLE X NOTEHEAD,2SQUARE NOTEHEADy,4e,2TRIANGLE NOTEHEAD UPy,5e,4my,5e,4py,5e,
     4DOWNy,5e,4UPpy,6e,2MOON NOTEHEADy,4e,2TRIANGLE-ROUND NOTEHEAD DOWNy,5e,2PARENTHESIS NOTEHEAD,
     2VOID NOTEHEAD,2NOTEHEADe,2NULL NOTEHEAD,2CLUSTER NOTEHEADy,4e,2BREVE,2WHOLE NOTE,2HALF NOTE,
     2QUARTER NOTE,2EIGHTH NOTE,2SIXTEENTH NOTE,2THIRTY-SECOND NOTE,2SIXTY-FOURTH NOTE,
     2ONE HUNDRED TWENTY-EIGHTH NOTE,2COMBINING STEM,3SPRECHGESANG STEM,3TREMOLO-1,3TREMOLO-2,
     3TREMOLO-3,2FINGERED TREMOLO-1,3TREMOLO-2,3TREMOLO-3,2COMBINING AUGMENTATION DOT,3FLAG-1,
     3FLAG-2,3FLAG-3,3FLAG-4,3FLAG-5,2BEGIN BEAM,2END BEAM,2BEGIN TIE,2END TIE,2BEGIN SLUR,
     2END SLUR,2BEGIN PHRASE,2END PHRASE,2COMBINING ACCENT,3STACCATO,3TENUTO,3STACCATISSIMO,
     3MARCATO,3MARCATO-STACCATO,3ACCENT-STACCATO,3LOURE,2ARPEGGIATO UP,3DOWN,2COMBINING DOIT,3RIP,
     3FLIP,3SMEAR,3BEND,3gTONGUE,3TRIPLE TONGUE,2RINFORZANDO,2SUBITO,2Z,2PIANO,2MEZZO,2FORTE,
     2CRESCENDO,2DECRESCENDO,2GRACE NOTE SLASH,4NO SLASH,2TR,2TURN,2INVERTED TURN,2TURN SLASH,3UP,
     2ORNAMENT STROKE-1,3STROKE-2,3STROKE-3,3STROKE-4,3STROKE-5,3STROKE-6,3STROKE-7,3STROKE-8,
     3STROKE-9,3STROKE-10,3STROKE-11,2HAUPTSTIMME,2NEBENSTIMME,2END OF STIMME,2DEGREE SLASH,
     2COMBINING DOWN BOW,3UP BOW,3HARMONIC,3SNAP PIZZICATO,2PEDAL MARK,3UP MARK,2HALF PEDAL MARK,
     2GLISSANDO UP,3DOWN,2zFINGERNAILS,2DAMP,3ALL,2MAXIMA,2LONGA,2BREVIS,2SEMIBREVISy,3e,2MINIMA,3e,
     2SEMIMINIMAy,3e,2FUSAy,3e,2LONGA PERFECTA REST,3IMPERFECTA REST,2BREVIS REST,2SEMIBREVIS REST,
     2MINIMA REST,2SEMIMINIMA REST,2TEMPUS PERFECTUM CUM PROLATIONE PERFECTA,6IMPERFECTA,
     6PERFECTA DIMINUTION-1,3IMPERFECTUM CUM PROLATIONE PERFECTA,6IMPERFECTA,7DIMINUTION-1,
     7DIMINUTION-2,7DIMINUTION-3,2CROIX,2GREGORIAN C CLEF,3F CLEF,2SQUARE B,2VIRGA,2PODATUS,2CLIVIS,
     2SCANDICUS,2CLIMACUS,2TORCULUS,2PORRECTUS,3FLEXUS,2SCANDICUS FLEXUS,2TORCULUS RESUPINUS,
     2PES SUBPUNCTIS,2KIEVAN C CLEF,3END OF PIECE,3hNOTE,3RECITATIVE MARK,3WHOLE NOTE,3HALF NOTE,
     3QUARTER NOTE STEM DOWN,6UP,3EIGHTH NOTE STEM DOWN,6UP,3FLATr,2SORI,2KORON"),
   (0x1D200, "0GREEK VOCAL NOTATION SYMBOL-1,3SYMBOL-2,3SYMBOL-3,3SYMBOL-4,3SYMBOL-5,3SYMBOL-6,
     3SYMBOL-7,3SYMBOL-8,3SYMBOL-9,3SYMBOL-10,3SYMBOL-11,3SYMBOL-12,3SYMBOL-13,3SYMBOL-14,
     3SYMBOL-15,3SYMBOL-16,3SYMBOL-17,3SYMBOL-18,3SYMBOL-19,3SYMBOL-20,3SYMBOL-21,3SYMBOL-22,
     3SYMBOL-23,3SYMBOL-24,3SYMBOL-50,3SYMBOL-51,3SYMBOL-52,3SYMBOL-53,3SYMBOL-54,
     1INSTRUMENTAL NOTATION SYMBOL-1,3SYMBOL-2,3SYMBOL-4,3SYMBOL-5,3SYMBOL-7,3SYMBOL-8,3SYMBOL-11,
     3SYMBOL-12,3SYMBOL-13,3SYMBOL-14,3SYMBOL-17,3SYMBOL-18,3SYMBOL-19,3SYMBOL-23,3SYMBOL-24,
     3SYMBOL-25,3SYMBOL-26,3SYMBOL-27,3SYMBOL-29,3SYMBOL-30,3SYMBOL-32,3SYMBOL-36,3SYMBOL-37,
     3SYMBOL-38,3SYMBOL-39,3SYMBOL-40,3SYMBOL-42,3SYMBOL-43,3SYMBOL-45,3SYMBOL-47,3SYMBOL-48,
     3SYMBOL-49,3SYMBOL-50,3SYMBOL-51,3SYMBOL-52,3SYMBOL-53,3SYMBOL-54,
     0COMBINING GREEK MUSICAL TRISEME,3TETRASEME,3PENTASEME,0GREEK MUSICAL LEIMMA"),
   (0x1D2E0, "0MAYAN NUMERAL ZERO,2ONE,2TWO,2v,2FOUR,2FIVE,2SIX,2SEVEN,2EIGHT,2NINE,2TEN,2ELEVEN,
     2TWELVE,2THIRTEEN,2FOURTEEN,2FIFTEEN,2SIXTEEN,2SEVENTEEN,2EIGHTEEN,2NINETEEN"),
   (0x1D300, "0MONOGRAM FOR EARTH,0DIGRAM FOR HEAVENLY EARTH,2HUMAN EARTH,2EARTHLY HEAVEN,3HUMAN,
     2EARTH,0TETRAGRAM FOR CENTRE,2FULL CIRCLE,2MIRED,2BARRIER,2KEEPINGs,2CONTRARIETY,2ASCENT,
     2OPPOSITION,2BRANCHING OUT,2DEFECTIVENESS OR DISTORTION,2DIVERGENCE,2YOUTHFULNESS,2INCREASE,
     2PENETRATION,2REACH,2CONTACT,2HOLDING BACK,2WAITING,2FOLLOWING,2ADVANCE,2RELEASE,2RESISTANCE,
     2EASE,2JOY,2CONTENTION,2ENDEAVOUR,2DUTIES,2CHANGE,2DECISIVENESS,2BOLD RESOLUTION,2PACKING,
     2LEGION,2CLOSENESS,2KINSHIP,2GATHERING,2STRENGTH,2PURITY,2FULLNESS,2RESIDENCE,2LAW OR MODEL,
     2RESPONSE,2GOING TO MEET,2ENCOUNTERS,2STOVE,2GREATNESS,2ENLARGEMENT,2PATTERN,2RITUAL,2FLIGHT,
     2VASTNESS OR WASTING,2CONSTANCY,2MEASURE,2ETERNITY,2UNITY,2DIMINISHMENT,2CLOSED MOUTH,
     2GUARDEDNESS,2GATHERING IN,2MASSING,2ACCUMULATION,2EMBELLISHMENT,2DOUBT,2WATCH,2SINKING,2INNER,
     2DEPARTURE,2DARKENING,2DIMMING,2EXHAUSTION,2SEVERANCE,2STOPPAGE,2HARDNESS,2COMPLETION,2CLOSURE,
     2FAILURE,2AGGRAVATION,2COMPLIANCE,2ON THE VERGE,2DIFFICULTIES,2LABOURING,2FOSTERING"),
   (0x1D360, "0COUNTING ROD UNIT DIGIT ONE,4TWO,4v,4FOUR,4FIVE,4SIX,4SEVEN,4EIGHT,4NINE,
     2TENS DIGIT ONE,4TWO,4v,4FOUR,4FIVE,4SIX,4SEVEN,4EIGHT,4NINE,0IDEOGRAPHIC TALLY MARK ONE,3TWO,
     3v,3FOUR,3FIVE,0TALLY MARK ONE,2FIVE"),
   (0x1D400, "0MATHEMATICAL BOLDfA,3B,3C,3D,3E,3F,3G,3H,3I,3J,3K,3L,3M,3N,3O,3P,3Q,3R,3S,3T,3U,3V,
     3W,3X,3Y,3Z,2sA,3B,3C,3D,3E,3F,3G,3H,3I,3J,3K,3L,3M,3N,3O,3P,3Q,3R,3S,3T,3U,3V,3W,3X,3Y,3Z,
     1ITALICfA,3B,3C,3D,3E,3F,3G,3H,3I,3J,3K,3L,3M,3N,3O,3P,3Q,3R,3S,3T,3U,3V,3W,3X,3Y,3Z,2sA,3B,3C,
     3D,3E,3F,3G"),
   (0x1D456, "3I,3J,3K,3L,3M,3N,3O,3P,3Q,3R,3S,3T,3U,3V,3W,3X,3Y,3Z,1BOLD ITALICfA,4B,4C,4D,4E,4F,
     4G,4H,4I,4J,4K,4L,4M,4N,4O,4P,4Q,4R,4S,4T,4U,4V,4W,4X,4Y,4Z,3sA,4B,4C,4D,4E,4F,4G,4H,4I,4J,4K,
     4L,4M,4N,4O,4P,4Q,4R,4S,4T,4U,4V,4W,4X,4Y,4Z,1SCRIPTfA"),
   (0x1D49E, "3C,3D"), (0x1D4A2, "3G"), (0x1D4A5, "3J,3K"), (0x1D4A9, "3N,3O,3P,3Q"),
   (0x1D4AE, "3S,3T,3U,3V,3W,3X,3Y,3Z,2sA,3B,3C,3D"), (0x1D4BB, "3F"),
   (0x1D4BD, "3H,3I,3J,3K,3L,3M,3N"),
   (0x1D4C5, "3P,3Q,3R,3S,3T,3U,3V,3W,3X,3Y,3Z,1BOLD SCRIPTfA,4B,4C,4D,4E,4F,4G,4H,4I,4J,4K,4L,4M,
     4N,4O,4P,4Q,4R,4S,4T,4U,4V,4W,4X,4Y,4Z,3sA,4B,4C,4D,4E,4F,4G,4H,4I,4J,4K,4L,4M,4N,4O,4P,4Q,4R,
     4S,4T,4U,4V,4W,4X,4Y,4Z,1FRAKTURfA,3B"),
   (0x1D507, "3D,3E,3F,3G"), (0x1D50D, "3J,3K,3L,3M,3N,3O,3P,3Q"),
   (0x1D516, "3S,3T,3U,3V,3W,3X,3Y"),
   (0x1D51E, "2sA,3B,3C,3D,3E,3F,3G,3H,3I,3J,3K,3L,3M,3N,3O,3P,3Q,3R,3S,3T,3U,3V,3W,3X,3Y,3Z,
     1DOUBLE-STRUCKfA,3B"),
   (0x1D53B, "3D,3E,3F,3G"), (0x1D540, "3I,3J,3K,3L,3M"), (0x1D546, "3O"),
   (0x1D54A, "3S,3T,3U,3V,3W,3X,3Y"),
   (0x1D552, "2sA,3B,3C,3D,3E,3F,3G,3H,3I,3J,3K,3L,3M,3N,3O,3P,3Q,3R,3S,3T,3U,3V,3W,3X,3Y,3Z,
     1BOLD FRAKTURfA,4B,4C,4D,4E,4F,4G,4H,4I,4J,4K,4L,4M,4N,4O,4P,4Q,4R,4S,4T,4U,4V,4W,4X,4Y,4Z,3sA,
     4B,4C,4D,4E,4F,4G,4H,4I,4J,4K,4L,4M,4N,4O,4P,4Q,4R,4S,4T,4U,4V,4W,4X,4Y,4Z,1SANS-SERIFfA,3B,3C,
     3D,3E,3F,3G,3H,3I,3J,3K,3L,3M,3N,3O,3P,3Q,3R,3S,3T,3U,3V,3W,3X,3Y,3Z,2sA,3B,3C,3D,3E,3F,3G,3H,
     3I,3J,3K,3L,3M,3N,3O,3P,3Q,3R,3S,3T,3U,3V,3W,3X,3Y,3Z,2BOLDfA,4B,4C,4D,4E,4F,4G,4H,4I,4J,4K,4L,
     4M,4N,4O,4P,4Q,4R,4S,4T,4U,4V,4W,4X,4Y,4Z,3sA,4B,4C,4D,4E,4F,4G,4H,4I,4J,4K,4L,4M,4N,4O,4P,4Q,
     4R,4S,4T,4U,4V,4W,4X,4Y,4Z,2ITALICfA,4B,4C,4D,4E,4F,4G,4H,4I,4J,4K,4L,4M,4N,4O,4P,4Q,4R,4S,4T,
     4U,4V,4W,4X,4Y,4Z,3sA,4B,4C,4D,4E,4F,4G,4H,4I,4J,4K,4L,4M,4N,4O,4P,4Q,4R,4S,4T,4U,4V,4W,4X,4Y,
     4Z,2BOLD ITALICfA,5B,5C,5D,5E,5F,5G,5H,5I,5J,5K,5L,5M,5N,5O,5P,5Q,5R,5S,5T,5U,5V,5W,5X,5Y,5Z,
     4sA,5B,5C,5D,5E,5F,5G,5H,5I,5J,5K,5L,5M,5N,5O,5P,5Q,5R,5S,5T,5U,5V,5W,5X,5Y,5Z,1MONOSPACEfA,3B,
     3C,3D,3E,3F,3G,3H,3I,3J,3K,3L,3M,3N,3O,3P,3Q,3R,3S,3T,3U,3V,3W,3X,3Y,3Z,2sA,3B,3C,3D,3E,3F,3G,
     3H,3I,3J,3K,3L,3M,3N,3O,3P,3Q,3R,3S,3T,3U,3V,3W,3X,3Y,3Z,1ITALICsDOTLESS I,4J"),
   (0x1D6A8, "1BOLDfALPHA,3BETA,3GAMMA,3DELTA,3EPSILON,3ZETA,3ETA,3THETA,3IOTA,3KAPPA,3LAMDA,3MU,
     3NU,3XI,3OMICRON,3PI,3RHO,3THETAu,3SIGMA,3TAU,3UPSILON,3PHI,3CHI,3PSI,3OMEGA,2NABLA,2sALPHA,
     3BETA,3GAMMA,3DELTA,3EPSILON,3ZETA,3ETA,3THETA,3IOTA,3KAPPA,3LAMDA,3MU,3NU,3XI,3OMICRON,3PI,
     3RHO,3hSIGMA,3SIGMA,3TAU,3UPSILON,3PHI,3CHI,3PSI,3OMEGA,2PARTIAL DIFFERENTIAL,2EPSILONu,
     2THETAu,2KAPPAu,2PHIu,2RHOu,2PIu,1ITALICfALPHA,3BETA,3GAMMA,3DELTA,3EPSILON,3ZETA,3ETA,3THETA,
     3IOTA,3KAPPA,3LAMDA,3MU,3NU,3XI,3OMICRON,3PI,3RHO,3THETAu,3SIGMA,3TAU,3UPSILON,3PHI,3CHI,3PSI,
     3OMEGA,2NABLA,2sALPHA,3BETA,3GAMMA,3DELTA,3EPSILON,3ZETA,3ETA,3THETA,3IOTA,3KAPPA,3LAMDA,3MU,
     3NU,3XI,3OMICRON,3PI,3RHO,3hSIGMA,3SIGMA,3TAU,3UPSILON,3PHI,3CHI,3PSI,3OMEGA,
     2PARTIAL DIFFERENTIAL,2EPSILONu,2THETAu,2KAPPAu,2PHIu,2RHOu,2PIu,1BOLD ITALICfALPHA,4BETA,
     4GAMMA,4DELTA,4EPSILON,4ZETA,4ETA,4THETA,4IOTA,4KAPPA,4LAMDA,4MU,4NU,4XI,4OMICRON,4PI,4RHO,
     4THETAu,4SIGMA,4TAU,4UPSILON,4PHI,4CHI,4PSI,4OMEGA,3NABLA,3sALPHA,4BETA,4GAMMA,4DELTA,4EPSILON,
     4ZETA,4ETA,4THETA,4IOTA,4KAPPA,4LAMDA,4MU,4NU,4XI,4OMICRON,4PI,4RHO,4hSIGMA,4SIGMA,4TAU,
     4UPSILON,4PHI,4CHI,4PSI,4OMEGA,3PARTIAL DIFFERENTIAL,3EPSILONu,3THETAu,3KAPPAu,3PHIu,3RHOu,
     3PIu,1SANS-SERIF BOLDfALPHA,4BETA,4GAMMA,4DELTA,4EPSILON,4ZETA,4ETA,4THETA,4IOTA,4KAPPA,4LAMDA,
     4MU,4NU,4XI,4OMICRON,4PI,4RHO,4THETAu,4SIGMA,4TAU,4UPSILON,4PHI,4CHI,4PSI,4OMEGA,3NABLA,
     3sALPHA,4BETA,4GAMMA,4DELTA,4EPSILON,4ZETA,4ETA,4THETA,4IOTA,4KAPPA,4LAMDA,4MU,4NU,4XI,
     4OMICRON,4PI,4RHO,4hSIGMA,4SIGMA,4TAU,4UPSILON,4PHI,4CHI,4PSI,4OMEGA,3PARTIAL DIFFERENTIAL,
     3EPSILONu,3THETAu,3KAPPAu,3PHIu,3RHOu,3PIu,3ITALICfALPHA,5BETA,5GAMMA,5DELTA,5EPSILON,5ZETA,
     5ETA,5THETA,5IOTA,5KAPPA,5LAMDA,5MU,5NU,5XI,5OMICRON,5PI,5RHO,5THETAu,5SIGMA,5TAU,5UPSILON,
     5PHI,5CHI,5PSI,5OMEGA,4NABLA,4sALPHA,5BETA,5GAMMA,5DELTA,5EPSILON,5ZETA,5ETA,5THETA,5IOTA,
     5KAPPA,5LAMDA,5MU,5NU,5XI,5OMICRON,5PI,5RHO,5hSIGMA,5SIGMA,5TAU,5UPSILON,5PHI,5CHI,5PSI,5OMEGA,
     4PARTIAL DIFFERENTIAL,4EPSILONu,4THETAu,4KAPPAu,4PHIu,4RHOu,4PIu,1BOLDfDIGAMMA,2sDIGAMMA"),
   (0x1D7CE, "2DIGIT ZERO,3ONE,3TWO,3v,3FOUR,3FIVE,3SIX,3SEVEN,3EIGHT,3NINE,
     1DOUBLE-STRUCK DIGIT ZERO,3ONE,3TWO,3v,3FOUR,3FIVE,3SIX,3SEVEN,3EIGHT,3NINE,
     1SANS-SERIF DIGIT ZERO,3ONE,3TWO,3v,3FOUR,3FIVE,3SIX,3SEVEN,3EIGHT,3NINE,2BOLD DIGIT ZERO,4ONE,
     4TWO,4v,4FOUR,4FIVE,4SIX,4SEVEN,4EIGHT,4NINE,1MONOSPACE DIGIT ZERO,3ONE,3TWO,3v,3FOUR,3FIVE,
     3SIX,3SEVEN,3EIGHT,3NINE,0SIGNWRITING HAND-FIST INDEX,1HAND-CIRCLE INDEX,1HAND-CUP INDEX,
     1HAND-OVAL INDEX,1HAND-HINGE INDEX,1HAND-ANGLE INDEX,1HAND-FIST INDEX BENT,
     1HAND-CIRCLE INDEX BENT,1HAND-FIST THUMB UNDER INDEX BENT,2INDEX RAISED KNUCKLE,3CUPPED,
     3HINGED,4LOW,1HAND-CIRCLE INDEX HINGE,1HAND-FIST INDEX MIDDLE,1HAND-CIRCLE INDEX MIDDLE,
     1HAND-FIST INDEX MIDDLE BENT,4RAISED KNUCKLES,4HINGED,3UP MIDDLE HINGED,3HINGED MIDDLE UP,
     3MIDDLE CONJOINED,5INDEX BENT,5MIDDLE BENT,5CUPPED,5HINGED,4CROSSED,
     1HAND-CIRCLE INDEX MIDDLE CROSSED,1HAND-FIST MIDDLE BENT OVER INDEX,2INDEX BENT OVER MIDDLE,
     3MIDDLE THUMB,1HAND-CIRCLE INDEX MIDDLE THUMB,1HAND-FIST INDEX MIDDLE STRAIGHT THUMB BENT,
     4BENT THUMB STRAIGHT,4THUMB BENT,4HINGED SPREAD THUMB SIDE,3UP MIDDLE HINGED THUMB SIDE,
     7CONJOINED,3HINGED MIDDLE UP THUMB SIDE,3MIDDLE UP SPREAD THUMB FORWARD,4THUMB CUPPED,5CIRCLED,
     5HOOKED,5HINGED,2THUMB BETWEEN INDEX MIDDLE STRAIGHT,2INDEX MIDDLE CONJOINED THUMB SIDE,
     7CONJOINED,7BENT,2MIDDLE THUMB HOOKED INDEX UP,2INDEX THUMB HOOKED MIDDLE UP,
     3MIDDLE CONJOINED HINGED THUMB SIDE,4CROSSED THUMB SIDE,4CONJOINED THUMB FORWARD,
     5CUPPED THUMB FORWARD,2MIDDLE THUMB CUPPED INDEX UP,2INDEX THUMB CUPPED MIDDLE UP,
     2MIDDLE THUMB CIRCLED INDEX UP,6HINGED,2INDEX THUMB ANGLED OUT MIDDLE UP,5IN MIDDLE UP,
     4CIRCLED MIDDLE UP,3MIDDLE THUMB CONJOINED HINGED,5ANGLED OUT,6,
     2MIDDLE THUMB ANGLED OUT INDEX UP,7CROSSED,5INDEX UP,2INDEX THUMB HOOKED MIDDLE HINGED,
     1HAND-FLAT FOUR FINGERS,4BENT,4HINGED,4CONJOINED,5SPLIT,1HAND-CLAW FOUR FINGERS CONJOINED,
     1HAND-FIST FOUR FINGERS CONJOINED BENT,1HAND-HINGE FOUR FINGERS CONJOINED,
     1HAND-FLAT FIVE FINGERS SPREAD,2HEEL FIVE FINGERS SPREAD,2FIVE FINGERS SPREAD FOUR BENT,
     2HEEL FIVE FINGERS SPREAD FOUR BENT,2FIVE FINGERS SPREAD BENT,2HEEL FIVE FINGERS SPREAD BENT,
     2FIVE FINGERS SPREAD THUMB FORWARD,1HAND-CUP FIVE FINGERS SPREAD,5OPEN,
     1HAND-HINGE FIVE FINGERS SPREAD OPEN,1HAND-OVAL FIVE FINGERS SPREAD,
     1HAND-FLAT FIVE FINGERS SPREAD HINGED,6THUMB SIDE,6NO THUMB,2,2BETWEEN PALM FACINGS,2HEEL,
     2THUMB SIDE,2HEEL THUMB SIDE,2THUMB BENT,3FORWARD,2SPLIT INDEX THUMB SIDE,3CENTRE,4THUMB SIDE,
     6BENT,3LITTLE,1HAND-CLAW,2THUMB SIDE,2NO THUMB,2THUMB FORWARD,1HAND-HOOK CURLICUE,2,
     1HAND-CUP OPEN,2,2OPEN THUMB SIDE,2THUMB SIDE,2OPEN NO THUMB,2NO THUMB,2OPEN THUMB FORWARD,
     2THUMB FORWARD,1HAND-CURLICUE OPEN,2,1HAND-CIRCLE,1HAND-OVAL,2THUMB SIDE,2NO THUMB,
     2THUMB FORWARD,1HAND-HINGE OPEN,3THUMB FORWARD,2,2s,2OPEN THUMB SIDE,2THUMB SIDE,
     2OPEN NO THUMB,2NO THUMB,2THUMB SIDE TOUCHING INDEX,3BETWEEN MIDDLE RING,1HAND-ANGLE,
     1HAND-FIST INDEX MIDDLE RING,1HAND-CIRCLE INDEX MIDDLE RING,1HAND-HINGE INDEX MIDDLE RING,
     1HAND-ANGLE INDEX MIDDLE RING,1HAND-HINGE LITTLE,1HAND-FIST INDEX MIDDLE RING BENT,5CONJOINED,
     1HAND-HINGE INDEX MIDDLE RING CONJOINED,1HAND-FIST LITTLE DOWN,4RIPPLE STRAIGHT,5CURVED,
     4OTHERS CIRCLED,3UP,2THUMB UNDER LITTLE UP,1HAND-CIRCLE LITTLE UP,1HAND-OVAL LITTLE UP,
     1HAND-ANGLE LITTLE UP,1HAND-FIST LITTLE RAISED KNUCKLE,3BENT,3TOUCHES THUMB,3THUMB,
     1HAND-HINGE LITTLE THUMB,1HAND-FIST LITTLE INDEX THUMB,1HAND-HINGE LITTLE INDEX THUMB,
     1HAND-ANGLE LITTLE INDEX THUMB INDEX THUMB OUT,7,1HAND-FIST LITTLE INDEX,
     1HAND-CIRCLE LITTLE INDEX,1HAND-HINGE LITTLE INDEX,1HAND-ANGLE LITTLE INDEX,
     1HAND-FIST INDEX MIDDLE LITTLE,1HAND-CIRCLE INDEX MIDDLE LITTLE,
     1HAND-HINGE INDEX MIDDLE LITTLE,2RING,1HAND-ANGLE INDEX MIDDLE LITTLE,
     1HAND-FIST INDEX MIDDLE CROSS LITTLE,1HAND-CIRCLE INDEX MIDDLE CROSS LITTLE,
     1HAND-FIST RING DOWN,1HAND-HINGE RING DOWN INDEX THUMB HOOK MIDDLE,
     1HAND-ANGLE RING DOWN MIDDLE THUMB INDEX CROSS,1HAND-FIST RING UP,3RAISED KNUCKLE,3LITTLE,
     1HAND-CIRCLE RING LITTLE,1HAND-OVAL RING LITTLE,1HAND-ANGLE RING LITTLE,1HAND-FIST RING MIDDLE,
     4CONJOINED,4RAISED KNUCKLES,3INDEX,3THUMB,1HAND-HOOK RING THUMB,1HAND-FIST INDEX RING LITTLE,
     1HAND-CIRCLE INDEX RING LITTLE,1HAND-CURLICUE INDEX RING LITTLE ON,
     1HAND-HOOK INDEX RING LITTLE OUT,5IN,5UNDER,1HAND-CUP INDEX RING LITTLE,
     1HAND-HINGE INDEX RING LITTLE,1HAND-ANGLE INDEX RING LITTLE OUT,5,1HAND-FIST MIDDLE DOWN,
     1HAND-HINGE MIDDLE,1HAND-FIST MIDDLE UP,1HAND-CIRCLE MIDDLE UP,
     1HAND-FIST MIDDLE RAISED KNUCKLE,3UP THUMB SIDE,1HAND-HOOK MIDDLE THUMB,
     1HAND-FIST MIDDLE THUMB LITTLE,3LITTLE,3RING LITTLE,1HAND-CIRCLE MIDDLE RING LITTLE,
     1HAND-CURLICUE MIDDLE RING LITTLE ON,1HAND-CUP MIDDLE RING LITTLE,
     1HAND-HINGE MIDDLE RING LITTLE,1HAND-ANGLE MIDDLE RING LITTLE OUT,5IN,5,
     1HAND-CIRCLE MIDDLE RING LITTLE BENT,1HAND-CLAW MIDDLE RING LITTLE CONJOINED,6SIDE,
     1HAND-HOOK MIDDLE RING LITTLE CONJOINED OUT,6IN,6,1HAND-HINGE INDEX HINGED,
     1HAND-FIST INDEX THUMB SIDE,1HAND-HINGE INDEX THUMB SIDE,
     1HAND-FIST INDEX THUMB SIDE THUMB DIAGONAL,6CONJOINED,6BENT,5INDEX BENT,5BOTH BENT,
     5INDEX HINGE,4FORWARD INDEX STRAIGHT,6BENT,4HOOK,4CURLICUE,4CURVE THUMB INSIDE,
     1HAND-CLAW INDEX THUMB CURVE THUMB INSIDE,1HAND-FIST INDEX THUMB CURVE THUMB UNDER,4CIRCLE,
     1HAND-CUP INDEX THUMB,4OPEN,1HAND-HINGE INDEX THUMB OPEN,4LARGE,4,4s,
     1HAND-ANGLE INDEX THUMB OUT,4IN,4,1HAND-FIST THUMB,3HEEL,3SIDE DIAGONAL,4CONJOINED,4BENT,
     3FORWARD,3BETWEEN INDEX MIDDLE,4MIDDLE RING,4RING LITTLE,3UNDER TWO FINGERS,3OVER TWO FINGERS,
     3UNDERvFINGERS,4FOUR FINGERS,3OVER FOUR RAISED KNUCKLES,2,2HEEL,1TOUCH SINGLE,2MULTIPLE,
     2BETWEEN,1GRASP SINGLE,2MULTIPLE,2BETWEEN,1STRIKE SINGLE,2MULTIPLE,2BETWEEN,1BRUSH SINGLE,
     2MULTIPLE,2BETWEEN,1RUB SINGLE,2MULTIPLE,2BETWEEN,1SURFACE SYMBOLS,2BETWEEN,
     1SQUEEZE LARGE SINGLE,2sSINGLE,2LARGE MULTIPLE,2sMULTIPLE,2SEQUENTIAL,1FLICK LARGE SINGLE,
     2sSINGLE,2LARGE MULTIPLE,2sMULTIPLE,2SEQUENTIAL,1SQUEEZE FLICK ALTERNATING,
     1MOVEMENT-HINGE UP DOWN LARGE,4s,3SEQUENTIAL,2DOWN SEQUENTIAL,2UP DOWN ALTERNATING LARGE,5s,
     2SIDE TO SIDE SCISSORS,1MOVEMENT-WALLPLANE FINGER CONTACT,1MOVEMENT-FLOORPLANE FINGER CONTACT,
     1MOVEMENT-WALLPLANE SINGLE STRAIGHTs,4MEDIUM,4LARGE,4LARGEST,3WRIST FLEX,2gSTRAIGHT,
     3WRIST FLEX,3ALTERNATING,4WRIST FLEX,2CROSS,2TRIPLE STRAIGHT MOVEMENT,3WRIST FLEX,3ALTERNATING,
     4WRIST FLEX,2BENDs,3MEDIUM,3LARGE,2CORNERs,3MEDIUM,3LARGE,3ROTATION,2CHECKs,3MEDIUM,3LARGE,
     2BOXs,3MEDIUM,3LARGE,2ZIGZAGs,3MEDIUM,3LARGE,2PEAKSs,3MEDIUM,3LARGE,
     1TRAVEL-WALLPLANE ROTATION-WALLPLANE SINGLE,3g,3ALTERNATING,2ROTATION-FLOORPLANE SINGLE,3g,
     3ALTERNATING,2SHAKING,2ARM SPIRAL SINGLE,4g,4TRIPLE,1MOVEMENT-DIAGONAL AWAYs,3MEDIUM,3LARGE,
     3LARGEST,2TOWARDSs,3MEDIUM,3LARGE,3LARGEST,2BETWEEN AWAYs,4MEDIUM,4LARGE,4LARGEST,3TOWARDSs,
     4MEDIUM,4LARGE,4LARGEST,1MOVEMENT-FLOORPLANE SINGLE STRAIGHTs,4MEDIUM,4LARGE,4LARGEST,
     3WRIST FLEX,2gSTRAIGHT,3WRIST FLEX,3ALTERNATING,4WRIST FLEX,2CROSS,2TRIPLE STRAIGHT MOVEMENT,
     3WRIST FLEX,3ALTERNATING MOVEMENT,4WRIST FLEX,2BEND,2CORNERs,3MEDIUM,3LARGE,2CHECK,2BOXs,
     3MEDIUM,3LARGE,2ZIGZAGs,3MEDIUM,3LARGE,2PEAKSs,3MEDIUM,3LARGE,
     1TRAVEL-FLOORPLANE ROTATION-FLOORPLANE SINGLE,3g,3ALTERNATING,2ROTATION-WALLPLANE SINGLE,3g,
     3ALTERNATING,2SHAKING,1MOVEMENT-WALLPLANE CURVE QUARTERs,4MEDIUM,4LARGE,4LARGEST,3HALF-CIRCLEs,
     4MEDIUM,4LARGE,4LARGEST,3THREE-QUARTER CIRCLEs,5MEDIUM,2HUMPs,3MEDIUM,3LARGE,2LOOPs,3MEDIUM,
     3LARGE,3sg,2WAVE CURVEgs,5MEDIUM,5LARGE,4TRIPLEs,5MEDIUM,5LARGE,2CURVE THEN STRAIGHT,
     2CURVED CROSSs,4MEDIUM,1ROTATION-WALLPLANE SINGLE,2g,2ALTERNATE,1MOVEMENT-WALLPLANE SHAKING,
     2CURVE HITTING FRONT WALL,2HUMP HITTING FRONT WALL,2LOOP HITTING FRONT WALL,
     2WAVE HITTING FRONT WALL,1ROTATION-WALLPLANE SINGLE HITTING FRONT WALL,2gHITTING FRONT WALL,
     2ALTERNATING HITTING FRONT WALL,1MOVEMENT-WALLPLANE CURVE HITTING CHEST,2HUMP HITTING CHEST,
     2LOOP HITTING CHEST,2WAVE HITTING CHEST,1ROTATION-WALLPLANE SINGLE HITTING CHEST,
     2gHITTING CHEST,2ALTERNATING HITTING CHEST,1MOVEMENT-WALLPLANE WAVE DIAGONAL PATHs,5MEDIUM,
     5LARGE,1MOVEMENT-FLOORPLANE CURVE HITTING CEILINGs,5LARGE,2HUMP HITTING CEILINGsg,5LARGEg,
     5sTRIPLE,5LARGE TRIPLE,2LOOP HITTING CEILINGsSINGLE,5LARGE SINGLE,5sg,5LARGEg,
     2WAVE HITTING CEILINGs,5LARGE,1ROTATION-FLOORPLANE SINGLE HITTING CEILING,2gHITTING CEILING,
     2ALTERNATING HITTING CEILING,1MOVEMENT-FLOORPLANE CURVE HITTING FLOORs,5LARGE,
     2HUMP HITTING FLOORsg,5LARGEg,5TRIPLEsTRIPLE,6LARGE TRIPLE,2LOOP HITTING FLOORsSINGLE,
     5LARGE SINGLE,5sg,5LARGEg,2WAVE HITTING FLOORs,5LARGE,
     1ROTATION-FLOORPLANE SINGLE HITTING FLOOR,2gHITTING FLOOR,2ALTERNATING HITTING FLOOR,
     1MOVEMENT-FLOORPLANE CURVEs,3MEDIUM,3LARGE,3LARGEST,3COMBINED,2HUMPs,2LOOPs,2WAVE SNAKE,3s,
     3LARGE,1ROTATION-FLOORPLANE SINGLE,2g,2ALTERNATING,1MOVEMENT-FLOORPLANE SHAKING PARALLEL,
     1MOVEMENT-WALLPLANE ARM CIRCLEsSINGLE,4MEDIUM SINGLE,4sg,4MEDIUMg,
     1MOVEMENT-FLOORPLANE ARM CIRCLE HITTING WALLsSINGLE,6MEDIUM SINGLE,6LARGE SINGLE,6sg,6MEDIUMg,
     6LARGEg,1MOVEMENT-WALLPLANE WRIST CIRCLE FRONT SINGLE,5g,
     1MOVEMENT-FLOORPLANE WRIST CIRCLE HITTING WALL SINGLE,6g,
     1MOVEMENT-WALLPLANE FINGER CIRCLES SINGLE,4g,
     1MOVEMENT-FLOORPLANE FINGER CIRCLES HITTING WALL SINGLE,6g,1DYNAMIC ARROWHEADs,3LARGE,2FAST,
     2SLOW,2TENSE,2RELAXED,2SIMULTANEOUS,3ALTERNATING,2EVERY OTHER TIME,2GRADUAL,1HEAD,2RIM,
     2MOVEMENT-WALLPLANE STRAIGHT,3TILT,2MOVEMENT-FLOORPLANE STRAIGHT,2MOVEMENT-WALLPLANE CURVE,
     2MOVEMENT-FLOORPLANE CURVE,2MOVEMENT CIRCLE,1FACE DIRECTION POSITION NOSE FORWARD TILTING,
     5UP OR DOWN,8TILTING,1EYEBROWS STRAIGHT UP,3NEUTRAL,3DOWN,1DREAMY EYEBROWS NEUTRAL DOWN,
     3DOWN NEUTRAL,3UP NEUTRAL,3NEUTRAL UP,1FOREHEAD NEUTRAL,2CONTACT,2WRINKLED,1EYES OPEN,
     2SQUEEZED,2CLOSED,1EYE BLINK SINGLE,3MULTIPLE,1EYES HALF OPEN,2WIDE OPEN,2HALF CLOSED,
     2WIDENING MOVEMENT,1EYE WINK,1EYELASHES UP,2DOWN,2FLUTTERING,1EYEGAZE-WALLPLANE STRAIGHT,3g,
     3ALTERNATING,1EYEGAZE-FLOORPLANE STRAIGHT,3g,3ALTERNATING,1EYEGAZE-WALLPLANE CURVED,
     1EYEGAZE-FLOORPLANE CURVED,1EYEGAZE-WALLPLANE CIRCLING,1CHEEKS PUFFED,2NEUTRAL,2SUCKED,
     1TENSE CHEEKS HIGH,3MIDDLE,3LOW,1EARS,1NOSE NEUTRAL,2CONTACT,2WRINKLES,2WIGGLES,
     1AIR BLOWING OUT,2SUCKING IN,2BLOWsROTATIONS,2SUCKsROTATIONS,1BREATH INHALE,2EXHALE,
     1MOUTH CLOSED NEUTRAL,3FORWARD,3CONTACT,2SMILE,3WRINKLED,3OPEN,2FROWN,3WRINKLED,3OPEN,
     2OPEN CIRCLE,3FORWARD,3WRINKLED,3OVAL,4WRINKLED,4YAWN,3RECTANGLE,4WRINKLED,4YAWN,2KISS,
     3FORWARD,3WRINKLED,2TENSE,3FORWARD,3SUCKED,1LIPS PRESSED TOGETHER,1LIP LOWER OVER UPPER,
     2UPPER OVER LOWER,1MOUTH CORNERS,2WRINKLES SINGLE,3g,1TONGUE STICKING OUT FAR,2LICKING LIPS,
     2TIP BETWEEN LIPS,3TOUCHING INSIDE MOUTH,2INSIDE MOUTH RELAXED,2MOVES AGAINST CHEEK,
     2CENTRE STICKING OUT,3INSIDE MOUTH,1TEETH,2MOVEMENT,2ON TONGUE,4MOVEMENT,3LIPS,4MOVEMENT,
     2BITE LIPS,1MOVEMENT-WALLPLANE JAW,1MOVEMENT-FLOORPLANE JAW,1NECK,1HAIR,1EXCITEMENT,
     1SHOULDER HIP SPINE,3POSITIONS,1WALLPLANE SHOULDER HIP MOVE,1FLOORPLANE SHOULDER HIP MOVE,
     1SHOULDER TILTING FROM WAIST,1TORSO-WALLPLANE STRAIGHT STRETCH,2CURVED BEND,
     1TORSO-FLOORPLANE TWISTING,1UPPER BODY TILTING FROM HIP JOINTS,1LIMB COMBINATION,2LENGTH-1,
     2LENGTH-2,2LENGTH-3,2LENGTH-4,2LENGTH-5,2LENGTH-6,2LENGTH-7,1FINGER,1LOCATION-WALLPLANE SPACE,
     1LOCATION-FLOORPLANE SPACE,1LOCATION HEIGHT,2WIDTH,2DEPTH,2HEAD NECK,2TORSO,2LIMBS DIGITS,
     1COMMA,1FULL STOP,1SEMICOLON,1COLON,1PARENTHESIS"),
   (0x1DA9B, "1FILL MODIFIER-2,2MODIFIER-3,2MODIFIER-4,2MODIFIER-5,2MODIFIER-6"),
   (0x1DAA1, "1ROTATION MODIFIER-2,2MODIFIER-3,2MODIFIER-4,2MODIFIER-5,2MODIFIER-6,2MODIFIER-7,
     2MODIFIER-8,2MODIFIER-9,2MODIFIER-10,2MODIFIER-11,2MODIFIER-12,2MODIFIER-13,2MODIFIER-14,
     2MODIFIER-15,2MODIFIER-16"),
   (0x1DF00, "0LATINsoFENG DIGRAPHzTRILL,3REVERSED SCRIPT G,1osfTURNED G,1soREVERSED K,1osfLzBELT,
     1soLEZHzRETROFLEX HOOK,3TURNED YzBELT,3REVERSED ENG,3TURNED RzLONG LEGbRETROFLEX HOOK,
     3TzHOOKbRETROFLEX HOOK,1oRETROFLEX CLICKzRETROFLEX HOOK,1soESHzgBAR,7bCURL,3TURNED TzCURL,
     1oINVERTED GLOTTAL STOPzCURL,2STRETCHED CzCURL,2sfTURNED K,1soLzFISHHOOK,
     3DEZH DIGRAPHzPALATAL HOOK,3LzBELTbPALATAL HOOK,3ENGzPALATAL HOOK,3TURNED RzPALATAL HOOK,
     3RzFISHHOOKbPALATAL HOOK,3TESH DIGRAPHzPALATAL HOOK,3EZHzPALATAL HOOK,
     3DEZH DIGRAPHzRETROFLEX HOOK,3IztbRETROFLEX HOOK,3OzRETROFLEX HOOK,
     3TESH DIGRAPHzRETROFLEX HOOK,3CzRETROFLEX HOOK,3SzCURL"),
   (0x1E000, "0COMBINING GLAGOLITICoAZU,3BUKY,3VEDE,3GLAGOLI,3DOBRO,3YESTU,3ZHIVETE"),
   (0x1E008, "3ZEMLJA,3IZHE,3kIZHE,3I,3DJERVI,3KAKO,3LJUDIJE,3MYSLITE,3NASHI,3ONU,3POKOJI,3RITSI,
     3SLOVO,3TVRIDO,3UKU,3FRITU,3HERU"),
   (0x1E01B, "3SHTA,3TSI,3CHRIVI,3SHA,3YERU,3YERI,3YATI"), (0x1E023, "3YU,3sYUS"),
   (0x1E026, "3YO,3IOTATEDsYUS,3BIG YUS,3IOTATED BIG YUS,3FITA"),
   (0x1E100, "0NYIAKENG PUACHUE HMONGoMA,4TSA,4NTA,4TA,4HA,4NA,4XA,4NKA,4CA,4LA,4SA,4ZA,4NCA,4NTSA,
     4KA,4DA,4NYA,4NRA,4VA,4NTXA,4TXA,4FA,4RA,4QA,4YA,4NQA,4PA,4XYA,4NPA,4DLA,4NPLA,4HAH,4MLA,4PLA,
     4GA,4RRA,4A,4AA,4I,4U,4O,4OO,4E,4EE,4W"),
   (0x1E130, "3TONE-B,3TONE-M,3TONE-J,3TONE-V,3TONE-S,3TONE-G,3TONE-D,3rFOR PERSON,5THING,5LOCATION,
     5ANIMAL,5INVERTEBRATE,4XW XW,3SYLLABLE LENGTHENER"),
   (0x1E140, "3DIGIT ZERO,4ONE,4TWO,4v,4FOUR,4FIVE,4SIX,4SEVEN,4EIGHT,4NINE"),
   (0x1E14E, "3LOGOGRAM NYAJ,3CIRCLED CA"),
   (0x1E290, "0TOTOoPA,2BA,2TA,2DA,2KA,2GA,2MA,2NA,2NGA,2SA,2CHA,2YA,2WA,2JA,2HA,2RA,2LA,2I,
     2BREATHY I,2IU,2BREATHY IU,2U,2E,2BREATHY E,2EO,2BREATHY EO,2O,2AE,2BREATHY AE,2A,
     1rRISING TONE"),
   (0x1E2C0, "0WANCHOoAA,2A,2BA,2CA,2DA,2GA,2YA,2PHA,2LA,2NA,2PA,2TA,2THA,2FA,2SA,2SHA,2JA,2ZA,2WA,
     2VA,2KA,2O,2AU,2RA,2MA,2KHA,2HA,2E,2I,2NGA,2U,2LLHA,2TSA,2TRA,2ONG,2AANG,2ANG,2ING,2ON,2EN,
     2AAN,2NYA,2UEN,2YIH,1TONE TUP,2TUPNI,2KOI,2KOINI,1DIGIT ZERO,2ONE,2TWO,2v,2FOUR,2FIVE,2SIX,
     2SEVEN,2EIGHT,2NINE"),
   (0x1E2FF, "1NGUNr"), (0x1E7E0, "0ETHIOPIC SYLLABLE HHYA,2HHYU,2HHYI,2HHYAA,2HHYEE,2HHYE,2HHYO"),
   (0x1E7E8, "2GURAGE HHWA,2HHWI,2HHWEE,2HHWE"), (0x1E7ED, "2GURAGE MWI,3MWEE"),
   (0x1E7F0, "3QWI,3QWEE,3QWE,3BWI,3BWEE,3KWI,3KWEE,3KWE,3GWI,3GWEE,3GWE,3FWI,3FWEE,3PWI,3PWEE"),
   (0x1E800, "0MENDE KIKAKUI SYLLABLE M001 KI,3M002 KA,3M003 KU,3M065 KEE,3M095 KE,3M076 KOO,
     3M048 KO,3M179 KUA,3M004 WI,3M005 WA,3M006 WU,3M126 WEE,3M118 WE,3M114 WOO,3M045 WO,3M194 WUI,
     3M143 WEI,3M061 WVI,3M049 WVA,3M139 WVE,3M007 MIN,3M008 MAN,3M009 MUN,3M059 MEN,3M094 MON,
     3M154 MUAN,3M189 MUEN,3M010 BI,3M011 BA,3M012 BU,3M150 BEE,3M097 BE,3M103 BOO,3M138 BO,3M013 I,
     3M014 A,3M015 U,3M163 EE,3M100 E,3M165 OO,3M147 O,3M137 EI,3M131 IN,3M135 IN,3M195 AN,3M178 EN,
     3M019 SI,3M020 SA,3M021 SU,3M162 SEE,3M116 SE,3M136 SOO,3M079 SO,3M196 SIA,3M025 LI,3M026 LA,
     3M027 LU,3M084 LEE,3M073 LE,3M054 LOO,3M153 LO,3M110 LONG LE,3M016 DI,3M017 DA,3M018 DU,
     3M089 DEE,3M180 DOO,3M181 DO,3M022 TI,3M023 TA,3M024 TU,3M091 TEE,3M055 TE,3M104 TOO,3M069 TO,
     3M028 JI,3M029 JA,3M030 JU,3M157 JEE,3M113 JE,3M160 JOO,3M063 JO,3M175 LONG JO,3M031 YI,
     3M032 YA,3M033 YU,3M109 YEE,3M080 YE,3M141 YOO,3M121 YO,3M034 FI,3M035 FA,3M036 FU,3M078 FEE,
     3M075 FE,3M133 FOO,3M088 FO,3M197 FUA,3M101 FAN,3M037 NIN,3M038 NAN,3M039 NUN,3M117 NEN,
     3M169 NON,3M176 HI,3M041 HA,3M186 HU,3M040 HEE,3M096 HE,3M042 HOO,3M140 HO,3M083 HEEI,
     3M128 HOOU,3M053 HIN,3M130 HAN,3M087 HUN,3M052 HEN,3M193 HON,3M046 HUAN,3M090 NGGI,3M043 NGGA,
     3M082 NGGU,3M115 NGGEE,3M146 NGGE,3M156 NGGOO,3M120 NGGO,3M159 NGGAA,3M127 NGGUA,
     3M086 LONG NGGE,3M106 LONG NGGOO,3M183 LONG NGGO,3M155 GI,3M111 GA,3M168 GU,3M190 GEE,
     3M166 GUEI,3M167 GUAN,3M184 NGEN,3M057 NGON,3M177 NGUAN,3M068 PI,3M099 PA,3M050 PU,3M081 PEE,
     3M051 PE,3M102 POO,3M066 PO,3M145 MBI,3M062 MBA,3M122 MBU,3M047 MBEE,3M188 MBEE,3M072 MBE,
     3M172 MBOO,3M174 MBO,3M187 MBUU,3M161 LONG MBE,3M105 LONG MBOO,3M142 LONG MBO,3M132 KPI,
     3M092 KPA,3M074 KPU,3M044 KPEE,3M108 KPE,3M112 KPOO,3M158 KPO,3M124 GBI,3M056 GBA,3M148 GBU,
     3M093 GBEE,3M107 GBE,3M071 GBOO,3M070 GBO,3M171 RA,3M123 NDI,3M129 NDA,3M125 NDU,3M191 NDEE,
     3M119 NDE,3M067 NDOO,3M064 NDO,3M152 NJA,3M192 NJU,3M149 NJEE,3M134 NJOO,3M182 VI,3M185 VA,
     3M151 VU,3M173 VEE,3M085 VE,3M144 VOO,3M077 VO,3M164 NYIN,3M058 NYAN,3M170 NYUN,3M098 NYEN,
     3M060 NYON"),
   (0x1E8C7, "2DIGIT ONE,3TWO,3v,3FOUR,3FIVE,3SIX,3SEVEN,3EIGHT,3NINE,2COMBINING NUMBER TEENS,4TENS,
     4HUNDREDS,4THOUSANDS,4TEN THOUSANDS,4HUNDRED THOUSANDS,4MILLIONS"),
   (0x1E900, "0ADLAMfoALIF,3DAALI,3LAAM,3MIIM,3BA,3SINNYIIYHE,3PE,3BHE,3RA,3E,3FA,3I,3O,3DHA,3YHE,
     3WAW,3NUN,3KAF,3YA,3U,3JIIM,3CHI,3HA,3QAAF,3GA,3NYA,3TU,3NHA,3VA,3KHA,3GBE,3ZAL,3KPO,3SHA,
     1soALIF,3DAALI,3LAAM,3MIIM,3BA,3SINNYIIYHE,3PE,3BHE,3RA,3E,3FA,3I,3O,3DHA,3YHE,3WAW,3NUN,3KAF,
     3YA,3U,3JIIM,3CHI,3HA,3QAAF,3GA,3NYA,3TU,3NHA,3VA,3KHA,3GBE,3ZAL,3KPO,3SHA,1ALIF LENGTHENER,
     1VOWEL LENGTHENER,1GEMINATION MARK,1HAMZA,1CONSONANT MODIFIER,1GEMINATE CONSONANT MODIFIER,
     1NUKTA,1NASALIZATION MARK"),
   (0x1E950, "1DIGIT ZERO,2ONE,2TWO,2v,2FOUR,2FIVE,2SIX,2SEVEN,2EIGHT,2NINE"),
   (0x1E95E, "1kEXCLAMATION MARK,2QUESTION MARK"),
   (0x1EC71, "0INDIC SIYAQ NUMBER ONE,3TWO,3v,3FOUR,3FIVE,3SIX,3SEVEN,3EIGHT,3NINE,3TEN,3TWENTY,
     3THIRTY,3FORTY,3FIFTY,3SIXTY,3SEVENTY,3EIGHTY,3NINETY,3ONE HUNDRED,3TWO HUNDRED,3vHUNDRED,
     3FOUR HUNDRED,3FIVE HUNDRED,3SIX HUNDRED,3SEVEN HUNDRED,3EIGHT HUNDRED,3NINE HUNDRED,
     3ONE THOUSAND,3TWO THOUSAND,3vTHOUSAND,3FOUR THOUSAND,3FIVE THOUSAND,3SIX THOUSAND,
     3SEVEN THOUSAND,3EIGHT THOUSAND,3NINE THOUSAND,3TEN THOUSAND,3TWENTY THOUSAND,3THIRTY THOUSAND,
     3FORTY THOUSAND,3FIFTY THOUSAND,3SIXTY THOUSAND,3SEVENTY THOUSAND,3EIGHTY THOUSAND,
     3NINETY THOUSAND,3LAKH,3LAKHAN,2LAKH MARK,2NUMBER KAROR,3KARORAN,3PREFIXED ONE,4TWO,4v,4FOUR,
     4FIVE,4SIX,4SEVEN,4EIGHT,4NINE,2PLACEHOLDER,2FRACTION ONE QUARTER,4HALF,3vQUARTERS,2RUPEE MARK,
     2NUMBER ALTERNATE ONE,4TWO,4TEN THOUSAND,2ALTERNATE LAKH MARK"),
   (0x1ED01, "0OTTOMAN SIYAQ NUMBER ONE,3TWO,3v,3FOUR,3FIVE,3SIX,3SEVEN,3EIGHT,3NINE,3TEN,3TWENTY,
     3THIRTY,3FORTY,3FIFTY,3SIXTY,3SEVENTY,3EIGHTY,3NINETY,3ONE HUNDRED,3TWO HUNDRED,3vHUNDRED,
     3FOUR HUNDRED,3FIVE HUNDRED,3SIX HUNDRED,3SEVEN HUNDRED,3EIGHT HUNDRED,3NINE HUNDRED,
     3ONE THOUSAND,3TWO THOUSAND,3vTHOUSAND,3FOUR THOUSAND,3FIVE THOUSAND,3SIX THOUSAND,
     3SEVEN THOUSAND,3EIGHT THOUSAND,3NINE THOUSAND,3TEN THOUSAND,3TWENTY THOUSAND,3THIRTY THOUSAND,
     3FORTY THOUSAND,3FIFTY THOUSAND,3SIXTY THOUSAND,3SEVENTY THOUSAND,3EIGHTY THOUSAND,
     3NINETY THOUSAND,2MARRATAN,2ALTERNATE NUMBER TWO,4v,4FOUR,4FIVE,4SIX,4SEVEN,4EIGHT,4NINE,4TEN,
     4FOUR HUNDRED,4SIX HUNDRED,4TWO THOUSAND,4TEN THOUSAND,2FRACTION ONE HALF,4SIXTH"),
   (0x1EE00, "0ARABIC MATHEMATICAL ALEF,2BEH,2JEEM,2DAL"),
   (0x1EE05, "2WAW,2ZAIN,2HAH,2TAH,2YEH,2KAF,2LAM,2MEEM,2NOON,2SEEN,2AIN,2FEH,2SAD,2QAF,2REH,2SHEEN,
     2TEH,2THEH,2KHAH,2THAL,2DAD,2ZAH,2GHAIN,2DOTLESS BEH,3NOON,3FEH,3QAF"),
   (0x1EE21, "2kBEH,3JEEM"), (0x1EE24, "3HEH"), (0x1EE27, "3HAH"),
   (0x1EE29, "3YEH,3KAF,3LAM,3MEEM,3NOON,3SEEN,3AIN,3FEH,3SAD,3QAF"),
   (0x1EE34, "3SHEEN,3TEH,3THEH,3KHAH"), (0x1EE39, "3DAD"), (0x1EE3B, "3GHAIN"),
   (0x1EE42, "2TAILED JEEM"), (0x1EE47, "3HAH"), (0x1EE49, "3YEH"), (0x1EE4B, "3LAM"),
   (0x1EE4D, "3NOON,3SEEN,3AIN"), (0x1EE51, "3SAD,3QAF"), (0x1EE54, "3SHEEN"), (0x1EE57, "3KHAH"),
   (0x1EE59, "3DAD"), (0x1EE5B, "3GHAIN"), (0x1EE5D, "3DOTLESS NOON"), (0x1EE5F, "4QAF"),
   (0x1EE61, "2STRETCHED BEH,3JEEM"), (0x1EE64, "3HEH"), (0x1EE67, "3HAH,3TAH,3YEH,3KAF"),
   (0x1EE6C, "3MEEM,3NOON,3SEEN,3AIN,3FEH,3SAD,3QAF"), (0x1EE74, "3SHEEN,3TEH,3THEH,3KHAH"),
   (0x1EE79, "3DAD,3ZAH,3GHAIN,3DOTLESS BEH"), (0x1EE7E, "4FEH"),
   (0x1EE80, "2LOOPED ALEF,3BEH,3JEEM,3DAL,3HEH,3WAW,3ZAIN,3HAH,3TAH,3YEH"),
   (0x1EE8B, "3LAM,3MEEM,3NOON,3SEEN,3AIN,3FEH,3SAD,3QAF,3REH,3SHEEN,3TEH,3THEH,3KHAH,3THAL,3DAD,
     3ZAH,3GHAIN"),
   (0x1EEA1, "2DOUBLE-STRUCK BEH,3JEEM,3DAL"), (0x1EEA5, "3WAW,3ZAIN,3HAH,3TAH,3YEH"),
   (0x1EEAB, "3LAM,3MEEM,3NOON,3SEEN,3AIN,3FEH,3SAD,3QAF,3REH,3SHEEN,3TEH,3THEH,3KHAH,3THAL,3DAD,
     3ZAH,3GHAIN"),
   (0x1EEF0, "2OPERATOR MEEMzHAHzTATWEEL,3HAHzDAL"),
   (0x1F000, "0MAHJONG TILE EAST WIND,2SOUTH WIND,2WEST WIND,2NORTH WIND,2RED DRAGON,2GREEN DRAGON,
     2yDRAGON,2ONE OF CHARACTERS,2TWO OF CHARACTERS,2vOF CHARACTERS,2FOUR OF CHARACTERS,
     2FIVE OF CHARACTERS,2SIX OF CHARACTERS,2SEVEN OF CHARACTERS,2EIGHT OF CHARACTERS,
     2NINE OF CHARACTERS,2ONE OF BAMBOOS,2TWO OF BAMBOOS,2vOF BAMBOOS,2FOUR OF BAMBOOS,
     2FIVE OF BAMBOOS,2SIX OF BAMBOOS,2SEVEN OF BAMBOOS,2EIGHT OF BAMBOOS,2NINE OF BAMBOOS,
     2ONE OF CIRCLES,2TWO OF CIRCLES,2vOF CIRCLES,2FOUR OF CIRCLES,2FIVE OF CIRCLES,2SIX OF CIRCLES,
     2SEVEN OF CIRCLES,2EIGHT OF CIRCLES,2NINE OF CIRCLES,2PLUM,2ORCHID,2BAMBOO,2CHRYSANTHEMUM,
     2SPRING,2SUMMER,2AUTUMN,2WINTER,2JOKER,2BACK"),
   (0x1F030, "0DOMINO TILEjBACK,2HORIZONTAL-00-00,2HORIZONTAL-00-01,2HORIZONTAL-00-02,
     2HORIZONTAL-00-03,2HORIZONTAL-00-04,2HORIZONTAL-00-05,2HORIZONTAL-00-06,2HORIZONTAL-01-00,
     2HORIZONTAL-01-01,2HORIZONTAL-01-02,2HORIZONTAL-01-03,2HORIZONTAL-01-04,2HORIZONTAL-01-05,
     2HORIZONTAL-01-06,2HORIZONTAL-02-00,2HORIZONTAL-02-01,2HORIZONTAL-02-02,2HORIZONTAL-02-03,
     2HORIZONTAL-02-04,2HORIZONTAL-02-05,2HORIZONTAL-02-06,2HORIZONTAL-03-00,2HORIZONTAL-03-01,
     2HORIZONTAL-03-02,2HORIZONTAL-03-03,2HORIZONTAL-03-04,2HORIZONTAL-03-05,2HORIZONTAL-03-06,
     2HORIZONTAL-04-00,2HORIZONTAL-04-01,2HORIZONTAL-04-02,2HORIZONTAL-04-03,2HORIZONTAL-04-04,
     2HORIZONTAL-04-05,2HORIZONTAL-04-06,2HORIZONTAL-05-00,2HORIZONTAL-05-01,2HORIZONTAL-05-02,
     2HORIZONTAL-05-03,2HORIZONTAL-05-04,2HORIZONTAL-05-05,2HORIZONTAL-05-06,2HORIZONTAL-06-00,
     2HORIZONTAL-06-01,2HORIZONTAL-06-02,2HORIZONTAL-06-03,2HORIZONTAL-06-04,2HORIZONTAL-06-05,
     2HORIZONTAL-06-06,2xBACK,2VERTICAL-00-00,2VERTICAL-00-01,2VERTICAL-00-02,2VERTICAL-00-03,
     2VERTICAL-00-04,2VERTICAL-00-05,2VERTICAL-00-06,2VERTICAL-01-00,2VERTICAL-01-01,
     2VERTICAL-01-02,2VERTICAL-01-03,2VERTICAL-01-04,2VERTICAL-01-05,2VERTICAL-01-06,
     2VERTICAL-02-00,2VERTICAL-02-01,2VERTICAL-02-02,2VERTICAL-02-03,2VERTICAL-02-04,
     2VERTICAL-02-05,2VERTICAL-02-06,2VERTICAL-03-00,2VERTICAL-03-01,2VERTICAL-03-02,
     2VERTICAL-03-03,2VERTICAL-03-04,2VERTICAL-03-05,2VERTICAL-03-06,2VERTICAL-04-00,
     2VERTICAL-04-01,2VERTICAL-04-02,2VERTICAL-04-03,2VERTICAL-04-04,2VERTICAL-04-05,
     2VERTICAL-04-06,2VERTICAL-05-00,2VERTICAL-05-01,2VERTICAL-05-02,2VERTICAL-05-03,
     2VERTICAL-05-04,2VERTICAL-05-05,2VERTICAL-05-06,2VERTICAL-06-00,2VERTICAL-06-01,
     2VERTICAL-06-02,2VERTICAL-06-03,2VERTICAL-06-04,2VERTICAL-06-05,2VERTICAL-06-06"),
   (0x1F0A0, "0PLAYING CARD BACK,2ACE OF SPADES,2TWO OF SPADES,2vOF SPADES,2FOUR OF SPADES,
     2FIVE OF SPADES,2SIX OF SPADES,2SEVEN OF SPADES,2EIGHT OF SPADES,2NINE OF SPADES,
     2TEN OF SPADES,2JACK OF SPADES,2KNIGHT OF SPADES,2QUEEN OF SPADES,2KING OF SPADES"),
   (0x1F0B1, "2ACE OF HEARTS,2TWO OF HEARTS,2vOF HEARTS,2FOUR OF HEARTS,2FIVE OF HEARTS,
     2SIX OF HEARTS,2SEVEN OF HEARTS,2EIGHT OF HEARTS,2NINE OF HEARTS,2TEN OF HEARTS,
     2JACK OF HEARTS,2KNIGHT OF HEARTS,2QUEEN OF HEARTS,2KING OF HEARTS,2RED JOKER"),
   (0x1F0C1, "2ACE OF DIAMONDS,2TWO OF DIAMONDS,2vOF DIAMONDS,2FOUR OF DIAMONDS,2FIVE OF DIAMONDS,
     2SIX OF DIAMONDS,2SEVEN OF DIAMONDS,2EIGHT OF DIAMONDS,2NINE OF DIAMONDS,2TEN OF DIAMONDS,
     2JACK OF DIAMONDS,2KNIGHT OF DIAMONDS,2QUEEN OF DIAMONDS,2KING OF DIAMONDS,2eJOKER"),
   (0x1F0D1, "2ACE OF CLUBS,2TWO OF CLUBS,2vOF CLUBS,2FOUR OF CLUBS,2FIVE OF CLUBS,2SIX OF CLUBS,
     2SEVEN OF CLUBS,2EIGHT OF CLUBS,2NINE OF CLUBS,2TEN OF CLUBS,2JACK OF CLUBS,2KNIGHT OF CLUBS,
     2QUEEN OF CLUBS,2KING OF CLUBS,2yJOKER,2FOOL,2TRUMP-1,2TRUMP-2,2TRUMP-3,2TRUMP-4,2TRUMP-5,
     2TRUMP-6,2TRUMP-7,2TRUMP-8,2TRUMP-9,2TRUMP-10,2TRUMP-11,2TRUMP-12,2TRUMP-13,2TRUMP-14,
     2TRUMP-15,2TRUMP-16,2TRUMP-17,2TRUMP-18,2TRUMP-19,2TRUMP-20,2TRUMP-21"),
   (0x1F100, "0DIGIT ZERO FULL STOP,2COMMA,1ONE COMMA,1TWO COMMA,1vCOMMA,1FOUR COMMA,1FIVE COMMA,
     1SIX COMMA,1SEVEN COMMA,1EIGHT COMMA,1NINE COMMA,0DINGBAT CIRCLED SANS-SERIF DIGIT ZERO,
     1NEGATIVE CIRCLED SANS-SERIF DIGIT ZERO,0CIRCLED ZEROzSLASH,1ANTICLOCKWISEc,
     1DOLLARrzOVERLAID BACKSLASH,0PARENTHESIZED LATINfoA,4B,4C,4D,4E,4F,4G,4H,4I,4J,4K,4L,4M,4N,4O,
     4P,4Q,4R,4S,4T,4U,4V,4W,4X,4Y,4Z,0TORTOISE SHELL BRACKETED LATINfoS,0CIRCLED ITALIC LATINfoC,
     5R,1CD,1WZ,0COPYLEFTu,0SQUARED LATINfoA,4B,4C,4D,4E,4F,4G,4H,4I,4J,4K,4L,4M,4N,4O,4P,4Q,4R,4S,
     4T,4U,4V,4W,4X,4Y,4Z,1HV,1MV,1SD,1SS,1PPV,1WC,0NEGATIVE CIRCLED LATINfoA,5B,5C,5D,5E,5F,5G,5H,
     5I,5J,5K,5L,5M,5N,5O,5P,5Q,5R,5S,5T,5U,5V,5W,5X,5Y,5Z,0RAISED MCr,1MDr,1MRr,0CIRCLED CC,
     1CzOVERLAID BACKSLASH,1HUMAN FIGURE,0NEGATIVE SQUARED LATINfoA,5B,5C,5D,5E,5F,5G,5H,5I,5J,5K,
     5L,5M,5N,5O,5P,5Q,5R,5S,5T,5U,5V,5W,5X,5Y,5Z,0CROSSED NEGATIVE SQUARED LATINfoP,
     0NEGATIVE SQUARED IC,2PA,2SA,2AB,2WC,0SQUARE DJ,0SQUARED CL,1COOL,1FREE,1ID,1NEW,1NG,1OK,1SOS,
     1UPzEXCLAMATION MARK,1VS,1vD,1SECOND SCREEN,1TWO K,1FOUR K,1EIGHT K,1FIVE POINT ONE,
     1SEVEN POINT ONE,1TWENTY-TWO POINT TWO,1SIXTY P,1ONE HUNDRED TWENTY P,1LATINsoD,1HC,1HDR,
     1HI-RES,1LOSSLESS,1SHV,1UHD,1VOD,0MASK WORKu"),
   (0x1F1E6, "0REGIONAL INDICATORuoA,4B,4C,4D,4E,4F,4G,4H,4I,4J,4K,4L,4M,4N,4O,4P,4Q,4R,4S,4T,4U,4V,
     4W,4X,4Y,4Z,0SQUARE HIRAGANA HOKA,0SQUARED KATAKANA KOKO,2SA"),
   (0x1F210, "1CJK UNIFIED IDEOGRAPH-624B,3IDEOGRAPH-5B57,3IDEOGRAPH-53CC,1KATAKANA DE,
     1CJK UNIFIED IDEOGRAPH-4E8C,3IDEOGRAPH-591A,3IDEOGRAPH-89E3,3IDEOGRAPH-5929,3IDEOGRAPH-4EA4,
     3IDEOGRAPH-6620,3IDEOGRAPH-7121,3IDEOGRAPH-6599,3IDEOGRAPH-524D,3IDEOGRAPH-5F8C,
     3IDEOGRAPH-518D,3IDEOGRAPH-65B0,3IDEOGRAPH-521D,3IDEOGRAPH-7D42,3IDEOGRAPH-751F,
     3IDEOGRAPH-8CA9,3IDEOGRAPH-58F0,3IDEOGRAPH-5439,3IDEOGRAPH-6F14,3IDEOGRAPH-6295,
     3IDEOGRAPH-6355,3IDEOGRAPH-4E00,3IDEOGRAPH-4E09,3IDEOGRAPH-904A,3IDEOGRAPH-5DE6,
     3IDEOGRAPH-4E2D,3IDEOGRAPH-53F3,3IDEOGRAPH-6307,3IDEOGRAPH-8D70,3IDEOGRAPH-6253,
     3IDEOGRAPH-7981,3IDEOGRAPH-7A7A,3IDEOGRAPH-5408,3IDEOGRAPH-6E80,3IDEOGRAPH-6709,
     3IDEOGRAPH-6708,3IDEOGRAPH-7533,3IDEOGRAPH-5272,3IDEOGRAPH-55B6,3IDEOGRAPH-914D"),
   (0x1F240, "0TORTOISE SHELL BRACKETED CJK UNIFIED IDEOGRAPH-672C,5IDEOGRAPH-4E09,5IDEOGRAPH-4E8C,
     5IDEOGRAPH-5B89,5IDEOGRAPH-70B9,5IDEOGRAPH-6253,5IDEOGRAPH-76D7,5IDEOGRAPH-52DD,
     5IDEOGRAPH-6557"),
   (0x1F250, "0CIRCLED IDEOGRAPH ADVANTAGE,2ACCEPT"),
   (0x1F260, "0ROUNDEDuFOR FU,3LU,3SHOU,3XI,3SHUANGXI,3CAI"),
   (0x1F300, "0CYCLONE,0FOGGY,0CLOSED UMBRELLA,0NIGHTzSTARS,0SUNRISE OVER MOUNTAINS,1,
     0CITYSCAPE AT DUSK,0SUNSET OVER BUILDINGS,0RAINBOW,0BRIDGE AT NIGHT,0WATER WAVE,0VOLCANO,
     0MILKY WAY,0EARTH GLOBE EUROPE-AFRICA,2AMERICAS,2ASIA-AUSTRALIA,0GLOBEzMERIDIANS,0NEW MOONu,
     0WAXING CRESCENT MOONu,0FIRST QUARTER MOONu,0WAXING GIBBOUS MOONu,0FULL MOONu,
     0WANING GIBBOUS MOONu,0LAST QUARTER MOONu,0WANING CRESCENT MOONu,0CRESCENT MOON,0NEW MOONzFACE,
     0FIRST QUARTER MOONzFACE,0LAST QUARTER MOONzFACE,0FULL MOONzFACE,0SUNzFACE,0GLOWING STAR,
     0SHOOTING STAR,0THERMOMETER,0eDROPLET,0ySUN,2zsCLOUD,2BEHIND CLOUD,4zRAIN,0CLOUDzRAIN,2SNOW,
     2LIGHTNING,2TORNADO,0FOG,0WIND BLOWING FACE,0HOT DOG,0TACO,0BURRITO,0CHESTNUT,0SEEDLING,
     0EVERGREEN TREE,0DECIDUOUS TREE,0PALM TREE,0CACTUS,0HOT PEPPER,0TULIP,0CHERRY BLOSSOM,0ROSE,
     0HIBISCUS,0SUNFLOWER,0BLOSSOM,0EAR OF MAIZE,2RICE,0HERB,0FOUR LEAF CLOVER,0MAPLE LEAF,
     0FALLEN LEAF,0LEAF FLUTTERING IN WIND,0MUSHROOM,0TOMATO,0AUBERGINE,0GRAPES,0MELON,0WATERMELON,
     0TANGERINE,0LEMON,0BANANA,0PINEAPPLE,0RED APPLE,0GREEN APPLE,0PEAR,0PEACH,0CHERRIES,
     0STRAWBERRY,0HAMBURGER,0SLICE OF PIZZA,0MEAT ON BONE,0POULTRY LEG,0RICE CRACKER,1BALL,
     0COOKED RICE,0CURRYbRICE,0STEAMING BOWL,0SPAGHETTI,0BREAD,0FRENCH FRIES,0ROASTED SWEET POTATO,
     0DANGO,0ODEN,0SUSHI,0FRIED SHRIMP,0FISH CAKEzSWIRL DESIGN,0SOFT ICE CREAM,0SHAVED ICE,
     0ICE CREAM,0DOUGHNUT,0COOKIE,0CHOCOLATE BAR,0CANDY,0LOLLIPOP,0CUSTARD,0HONEY POT,0SHORTCAKE,
     0BENTO BOX,0POT OF FOOD,0COOKING,0FORKbKNIFE,0TEACUP WITHOUT HANDLE,0SAKE BOTTLEbCUP,
     0WINE GLASS,0COCKTAIL GLASS,0TROPICAL DRINK,0BEER MUG,0CLINKING BEER MUGS,0BABY BOTTLE,
     0FORKbKNIFEzPLATE,0BOTTLEzPOPPING CORK,0POPCORN,0RIBBON,0WRAPPED PRESENT,0BIRTHDAY CAKE,
     0JACK-O-LANTERN,0CHRISTMAS TREE,0FATHER CHRISTMAS,0FIREWORKS,0FIREWORK SPARKLER,0BALLOON,
     0PARTY POPPER,0CONFETTI BALL,0TANABATA TREE,0CROSSED FLAGS,0PINE DECORATION,0JAPANESE DOLLS,
     0CARP STREAMER,0WIND CHIME,0MOON VIEWING CEREMONY,0SCHOOL SATCHEL,0GRADUATION CAP,
     0HEARTzTIP ON THEm,0BOUQUET OF FLOWERS,0MILITARY MEDAL,0REMINDER RIBBON,
     0MUSICAL KEYBOARDzJACKS,0STUDIO MICROPHONE,0LEVEL SLIDER,0CONTROL KNOBS,
     0BEAMED ASCENDING MUSICAL NOTES,1DESCENDING MUSICAL NOTES,0FILM FRAMES,0ADMISSION TICKETS,
     0CAROUSEL HORSE,0FERRIS WHEEL,0ROLLER COASTER,0FISHING POLEbFISH,0MICROPHONE,0MOVIE CAMERA,
     0CINEMA,0HEADPHONE,0ARTIST PALETTE,0TOP HAT,0CIRCUS TENT,0TICKET,0CLAPPER BOARD,
     0PERFORMING ARTS,0VIDEO GAME,0DIRECT HIT,0SLOT MACHINE,0BILLIARDS,0GAME DIE,0BOWLING,
     0FLOWER PLAYING CARDS,0MUSICAL NOTE,0MULTIPLE MUSICAL NOTES,0SAXOPHONE,0GUITAR,
     0MUSICAL KEYBOARD,0TRUMPET,0VIOLIN,0MUSICAL SCORE,0RUNNING SHIRTzSASH,0TENNIS RACQUETbBALL,
     0SKIbSKI BOOT,0BASKETBALLbHOOP,0CHEQUERED FLAG,0SNOWBOARDER,0RUNNER,0SURFER,0SPORTS MEDAL,
     0TROPHY,0HORSE RACING,0AMERICAN FOOTBALL,0RUGBY FOOTBALL,0SWIMMER,0WEIGHT LIFTER,0GOLFER,
     0RACING MOTORCYCLE,1CAR,0CRICKET BATbBALL,0VOLLEYBALL,0FIELD HOCKEY STICKbBALL,
     0ICE HOCKEY STICKbPUCK,0TABLE TENNIS PADDLEbBALL,0SNOW CAPPED MOUNTAIN,0CAMPING,
     0BEACHzUMBRELLA,0BUILDING CONSTRUCTION,0HOUSE BUILDINGS,0CITYSCAPE,0DERELICT HOUSE BUILDING,
     0CLASSICAL BUILDING,0DESERT,1ISLAND,0NATIONAL PARK,0STADIUM,0HOUSE BUILDING,1zGARDEN,
     0OFFICE BUILDING,0JAPANESE POST OFFICE,0EUROPEAN POST OFFICE,0HOSPITAL,0BANK,
     0AUTOMATED TELLER MACHINE,0HOTEL,0LOVE HOTEL,0CONVENIENCE STORE,0SCHOOL,0DEPARTMENT STORE,
     0FACTORY,0IZAKAYA LANTERN,0JAPANESE CASTLE,0EUROPEAN CASTLE,0yPENNANT,0ePENNANT,0WAVINGyFLAG,
     1eFLAG,0ROSETTE,0eROSETTE,0LABEL,0BADMINTON RACQUETbSHUTTLECOCK,0BOWbc,0AMPHORA,
     0EMOJI MODIFIER FITZPATRICK TYPE-1-2,3TYPE-3,3TYPE-4,3TYPE-5,3TYPE-6,0RAT,0MOUSE,0OX,
     0WATER BUFFALO,0COW,0TIGER,0LEOPARD,0RABBIT,0CAT,0DRAGON,0CROCODILE,0WHALE,0SNAIL,0SNAKE,
     0HORSE,0RAM,0GOAT,0SHEEP,0MONKEY,0ROOSTER,0CHICKEN,0DOG,0PIG,0BOAR,0ELEPHANT,0OCTOPUS,
     0SPIRAL SHELL,0BUG,0ANT,0HONEYBEE,0LADY BEETLE,0FISH,0TROPICAL FISH,0BLOWFISH,0TURTLE,
     0HATCHING CHICK,0BABY CHICK,0FRONT-FACING BABY CHICK,0BIRD,0PENGUIN,0KOALA,0POODLE,
     0DROMEDARY CAMEL,0BACTRIAN CAMEL,0DOLPHIN,0MOUSE FACE,0COW FACE,0TIGER FACE,0RABBIT FACE,
     0CAT FACE,0DRAGON FACE,0SPOUTING WHALE,0HORSE FACE,0MONKEY FACE,0DOG FACE,0PIG FACE,0FROG FACE,
     0HAMSTER FACE,0WOLF FACE,0BEAR FACE,0PANDA FACE,0PIG NOSE,0PAW PRINTS,0CHIPMUNK,0EYES,0EYE,
     0EAR,0NOSE,0MOUTH,0TONGUE,0yUP POINTING BACKHAND INDEX,1DOWN POINTING BACKHAND INDEX,
     1mPOINTING BACKHAND INDEX,1pPOINTING BACKHAND INDEX,0FISTED HANDr,0WAVING HANDr,0OK HANDr,
     0THUMBS UPr,1DOWNr,0CLAPPING HANDSr,0OPEN HANDSr,0CROWN,0WOMANS HAT,0EYEGLASSES,0NECKTIE,
     0T-SHIRT,0JEANS,0DRESS,0KIMONO,0BIKINI,0WOMANS CLOTHES,0PURSE,0HANDBAG,0POUCH,0MANS SHOE,
     0ATHLETIC SHOE,0HIGH-HEELED SHOE,0WOMANS SANDAL,1BOOTS,0FOOTPRINTS,0BUST IN SILHOUETTE,
     0BUSTS IN SILHOUETTE,0BOY,0GIRL,0MAN,0WOMAN,0FAMILY,0MANbWOMAN HOLDING HANDS,
     0TWO MEN HOLDING HANDS,1WOMEN HOLDING HANDS,0POLICE OFFICER,0WOMANzBUNNY EARS,0BRIDEzVEIL,
     0PERSONzBLOND HAIR,0MANzGUA PI MAO,2TURBAN,0OLDER MAN,1WOMAN,0BABY,0CONSTRUCTION WORKER,
     0PRINCESS,0JAPANESE OGRE,1GOBLIN,0GHOST,0BABY ANGEL,0EXTRATERRESTRIAL ALIEN,0ALIEN MONSTER,
     0IMP,0SKULL,0INFORMATION DESK PERSON,0GUARDSMAN,0DANCER,0LIPSTICK,0NAIL POLISH,0FACE MASSAGE,
     0HAIRCUT,0BARBER POLE,0SYRINGE,0PILL,0KISS MARK,0LOVEo,0RING,0GEM STONE,0KISS,0BOUQUET,
     0COUPLEzHEART,0WEDDING,0BEATING HEART,0BROKEN HEART,0TWO HEARTS,0SPARKLING HEART,
     0GROWING HEART,0HEARTzc,0BLUE HEART,0GREEN HEART,0YELLOW HEART,0PURPLE HEART,0HEARTzRIBBON,
     0REVOLVING HEARTS,0HEART DECORATION,0DIAMOND SHAPEzA DOT INSIDE,0ELECTRIC LIGHT BULB,0ANGERu,
     0BOMB,0SLEEPINGu,0COLLISIONu,0SPLASHING SWEATu,0DROPLET,0DASHu,0PILE OF POO,0FLEXED BICEPS,
     0DIZZYu,0SPEECH BALLOON,0THOUGHT BALLOON,0yFLOWER,0HUNDRED POINTSu,0MONEY BAG,
     0CURRENCY EXCHANGE,0HEAVY DOLLARr,0CREDIT CARD,0BANKNOTEzYENr,2DOLLARr,2EUROr,2POUNDr,
     0MONEYzWINGS,0CHARTzUPWARDS TRENDbYENr,0SEAT,0PERSONAL COMPUTER,0BRIEFCASE,0MINIDISC,
     0FLOPPY DISK,0OPTICAL DISC,0DVD,0FILE FOLDER,0OPEN FILE FOLDER,0PAGEzCURL,1FACING UP,0CALENDAR,
     0TEAR-OFF CALENDAR,0CARD INDEX,0CHARTzUPWARDS TREND,2DOWNWARDS TREND,0BAR CHART,0CLIPBOARD,
     0PUSHPIN,0ROUND PUSHPIN,0PAPERCLIP,0STRAIGHT RULER,0TRIANGULAR RULER,0BOOKMARK TABS,0LEDGER,
     0NOTEBOOK,1zDECORATIVE COVER,0CLOSED BOOK,0OPEN BOOK,0GREEN BOOK,0BLUE BOOK,0ORANGE BOOK,
     0BOOKS,0NAME BADGE,0SCROLL,0MEMO,0TELEPHONE RECEIVER,0PAGER,0FAX MACHINE,0SATELLITE ANTENNA,
     0PUBLIC ADDRESS LOUDSPEAKER,0CHEERING MEGAPHONE,0OUTBOX TRAY,0INBOX TRAY,0PACKAGE,0E-MAILu,
     0INCOMING ENVELOPE,0ENVELOPEzDOWNWARDSca,0CLOSED MAILBOXzLOWERED FLAG,3RAISED FLAG,
     0OPEN MAILBOXzRAISED FLAG,3LOWERED FLAG,0POSTBOX,0POSTAL HORN,0NEWSPAPER,0MOBILE PHONE,2zqcATm,
     0VIBRATION MODE,0MOBILE PHONE OFF,0NO MOBILE PHONES,0ANTENNAzBARS,0CAMERA,1zFLASH,
     0VIDEO CAMERA,0TELEVISION,0RADIO,0VIDEOCASSETTE,0FILM PROJECTOR,0PORTABLE STEREO,0PRAYER BEADS,
     0TWISTEDqARROWS,0CLOCKWISEqbnOPEN CIRCLE ARROWS,7zCIRCLED ONE OVERLAY,
     1DOWNWARDSbUPWARDS OPEN CIRCLE ARROWS,0ANTICLOCKWISE DOWNWARDSbUPWARDS OPEN CIRCLE ARROWS,
     0LOW BRIGHTNESSu,0HIGH BRIGHTNESSu,0SPEAKERzCANCELLATIONt,1,1zONE SOUND WAVE,2vSOUND WAVES,
     0BATTERY,0ELECTRIC PLUG,0LEFT-POINTING MAGNIFYING GLASS,0RIGHT-POINTING MAGNIFYING GLASS,
     0LOCKzINK PEN,0CLOSED LOCKzKEY,0KEY,0LOCK,0OPEN LOCK,0BELL,1zCANCELLATIONt,0BOOKMARK,0LINKu,
     0RADIO BUTTON,0BACKznca,0ENDznca,0ONzEXCLAMATION MARKzmpca,0SOONzqca,0TOPzUPWARDSca,
     0NO ONE UNDER EIGHTEENu,0KEYCAP TEN,0INPUTuFOR LATINfLETTERS,4sLETTERS,3NUMBERS,3SYMBOLS,
     3LATIN LETTERS,0FIRE,0ELECTRIC TORCH,0WRENCH,0HAMMER,0NUTbBOLT,0HOCHO,0PISTOL,0MICROSCOPE,
     0TELESCOPE,0CRYSTAL BALL,0SIX POINTED STARzMIDDLE DOT,0JAPANESEuFOR BEGINNER,0TRIDENT EMBLEM,
     0eSQUARE BUTTON,0ySQUARE BUTTON,0LARGE RED CIRCLE,1BLUE CIRCLE,1ORANGE DIAMOND,1BLUE DIAMOND,
     0sORANGE DIAMOND,1BLUE DIAMOND,0UP-POINTING RED TRIANGLE,0DOWN-POINTING RED TRIANGLE,
     0UP-POINTINGsRED TRIANGLE,0DOWN-POINTINGsRED TRIANGLE,0LOWERpSHADOWEDyCIRCLE,
     0UPPERpSHADOWEDyCIRCLE,0CIRCLED CROSS POMMEE,0CROSS POMMEEzHALF-CIRCLEd,2,
     0NOTCHEDmSEMICIRCLEzvDOTS,1pSEMICIRCLEzvDOTS,0uFOR MARKS CHAPTER,0yLATIN CROSS,
     0HEAVY LATIN CROSS,0CELTIC CROSS,0OMu,0DOVE OF PEACE,0KAABA,0MOSQUE,0SYNAGOGUE,
     0MENORAHzNINE BRANCHES,0BOWL OF HYGIEIA,0CLOCK FACE ONE OCLOCK,2TWO OCLOCK,2vOCLOCK,
     2FOUR OCLOCK,2FIVE OCLOCK,2SIX OCLOCK,2SEVEN OCLOCK,2EIGHT OCLOCK,2NINE OCLOCK,2TEN OCLOCK,
     2ELEVEN OCLOCK,2TWELVE OCLOCK,2ONE-THIRTY,2TWO-THIRTY,2THREE-THIRTY,2FOUR-THIRTY,2FIVE-THIRTY,
     2SIX-THIRTY,2SEVEN-THIRTY,2EIGHT-THIRTY,2NINE-THIRTY,2TEN-THIRTY,2ELEVEN-THIRTY,2TWELVE-THIRTY,
     0pSPEAKER,2zONE SOUND WAVE,3vSOUND WAVES,0BULLHORN,1zSOUND WAVES,0RINGING BELL,0BOOK,0CANDLE,
     0MANTELPIECE CLOCK,0eSKULLbCROSSBONES,0NO PIRACY,0HOLE,0MAN IN BUSINESS SUIT LEVITATING,
     0SLEUTH OR SPY,0DARK SUNGLASSES,0SPIDER,1WEB,0JOYSTICK,0MAN DANCING,0mHAND TELEPHONE RECEIVER,
     0TELEPHONE RECEIVERzPAGE,0pHAND TELEPHONE RECEIVER,0yTOUCHTONE TELEPHONE,0eTOUCHTONE TELEPHONE,
     0TELEPHONE ON TOP OF MODEM,0CLAMSHELL MOBILE PHONE,0BACK OF ENVELOPE,0STAMPED ENVELOPE,
     0ENVELOPEzLIGHTNING,0FLYING ENVELOPE,0PEN OVER STAMPED ENVELOPE,0LINKED PAPERCLIPS,0ePUSHPIN,
     0LOWERmPENCIL,2BALLPOINT PEN,2FOUNTAIN PEN,2PAINTBRUSH,2CRAYON,0mWRITING HAND,0TURNED OK HANDr,
     0RAISED HANDzFINGERS SPLAYED,0REVERSED RAISED HANDzFINGERS SPLAYED,1THUMBS UPr,2DOWNr,
     1VICTORY HAND,1HANDzMIDDLE FINGER EXTENDED,0RAISED HANDzPART BETWEEN MIDDLEbRING FINGERS,
     0yDOWN POINTINGmHAND INDEX,0SIDEWAYSymPOINTING INDEX,2pPOINTING INDEX,1emPOINTING INDEX,
     2pPOINTING INDEX,0emPOINTING BACKHAND INDEX,1pPOINTING BACKHAND INDEX,
     0SIDEWAYSyUP POINTING INDEX,2DOWN POINTING INDEX,1eUP POINTING INDEX,2DOWN POINTING INDEX,
     0eUP POINTING BACKHAND INDEX,1DOWN POINTING BACKHAND INDEX,1HEART,0DESKTOP COMPUTER,
     0KEYBOARDbMOUSE,0vNETWORKED COMPUTERS,0PRINTER,0POCKET CALCULATOR,0eHARD SHELL FLOPPY DISK,
     0yHARD SHELL FLOPPY DISK,0SOFT SHELL FLOPPY DISK,0TAPE CARTRIDGE,0WIRED KEYBOARD,
     0ONE BUTTON MOUSE,0TWO BUTTON MOUSE,0vBUTTON MOUSE,0TRACKBALL,0OLD PERSONAL COMPUTER,
     0HARD DISK,0SCREEN,0PRINTER ICON,0FAX ICON,0OPTICAL DISC ICON,0DOCUMENTzTEXT,3bPICTURE,
     2PICTURE,0FRAMEzPICTURE,2TILES,2AN X,0eFOLDER,0FOLDER,0OPEN FOLDER,0CARD INDEX DIVIDERS,
     1FILE BOX,0FILE CABINET,0EMPTY NOTE,2PAGE,2PAD,0NOTE,1PAGE,1PAD,0EMPTY DOCUMENT,1PAGE,1PAGES,
     0DOCUMENT,0PAGE,0PAGES,0WASTEBASKET,0SPIRAL NOTE PAD,1CALENDAR PAD,0DESKTOP WINDOW,0MINIMIZE,
     0MAXIMIZE,0OVERLAP,0CLOCKWISEpbmSEMICIRCLE ARROWS,0CANCELLATION X,0INCREASE FONT SIZEu,
     0DECREASE FONT SIZEu,0COMPRESSION,0OLD KEY,0ROLLED-UP NEWSPAPER,0PAGEzCIRCLED TEXT,
     0STOCK CHART,0DAGGER KNIFE,0LIPS,0SPEAKING HEAD IN SILHOUETTE,0vRAYSa,2d,2m,2p,0mSPEECH BUBBLE,
     0pSPEECH BUBBLE,0TWO SPEECH BUBBLES,0vSPEECH BUBBLES,0mTHOUGHT BUBBLE,0pTHOUGHT BUBBLE,
     0mANGER BUBBLE,0pANGER BUBBLE,0MOOD BUBBLE,0LIGHTNING MOOD BUBBLE,2,0BALLOT BOXzBALLOT,
     1SCRIPT X,1BOXzSCRIPT X,1BOLD SCRIPT X,1BOXzBOLD SCRIPT X,0LIGHT CHECK MARK,
     0BALLOT BOXzBOLD CHECK,0WORLD MAP,0MOUNT FUJI,0TOKYO TOWER,0STATUE OF LIBERTY,
     0SILHOUETTE OF JAPAN,0MOYAI,0GRINNING FACE,2zSMILING EYES,0FACEzTEARS OF JOY,
     0SMILING FACEzOPEN MOUTH,5bSMILING EYES,6COLD SWEAT,6TIGHTLY-CLOSED EYES,3HALO,3HORNS,
     0WINKING FACE,0SMILING FACEzSMILING EYES,0FACE SAVOURING DELICIOUS FOOD,0RELIEVED FACE,
     0SMILING FACEzHEART-SHAPED EYES,3SUNGLASSES,0SMIRKING FACE,0NEUTRAL FACE,0EXPRESSIONLESS FACE,
     0UNAMUSED FACE,0FACEzCOLD SWEAT,0PENSIVE FACE,0CONFUSED FACE,0CONFOUNDED FACE,0KISSING FACE,
     0FACE THROWING A KISS,0KISSING FACEzSMILING EYES,3CLOSED EYES,0FACEzSTUCK-OUT TONGUE,
     4bWINKING EYE,5TIGHTLY-CLOSED EYES,0DISAPPOINTED FACE,0WORRIED FACE,0ANGRY FACE,0POUTING FACE,
     0CRYING FACE,0PERSEVERING FACE,0FACEzLOOK OF TRIUMPH,0DISAPPOINTED BUT RELIEVED FACE,
     0FROWNING FACEzOPEN MOUTH,0ANGUISHED FACE,0FEARFUL FACE,0WEARY FACE,0SLEEPY FACE,0TIRED FACE,
     0GRIMACING FACE,0LOUDLY CRYING FACE,0FACEzOPEN MOUTH,0HUSHED FACE,0FACEzOPEN MOUTHbCOLD SWEAT,
     1SCREAMING IN FEAR,0ASTONISHED FACE,0FLUSHED FACE,0SLEEPING FACE,0DIZZY FACE,
     0FACE WITHOUT MOUTH,1zMEDICAL MASK,0GRINNING CAT FACEzSMILING EYES,0CAT FACEzTEARS OF JOY,
     0SMILING CAT FACEzOPEN MOUTH,4HEART-SHAPED EYES,0CAT FACEzWRY SMILE,
     0KISSING CAT FACEzCLOSED EYES,0POUTING CAT FACE,0CRYING CAT FACE,0WEARY CAT FACE,
     0SLIGHTLY FROWNING FACE,1SMILING FACE,0UPSIDE-DOWN FACE,0FACEzROLLING EYES,2NO GOOD GESTURE,
     2OK GESTURE,0PERSON BOWING DEEPLY,0SEE-NO-EVIL MONKEY,0HEAR-NO-EVIL MONKEY,
     0SPEAK-NO-EVIL MONKEY,0HAPPY PERSON RAISING ONE HAND,0PERSON RAISING BOTH HANDS IN CELEBRATION,
     1FROWNING,1zPOUTING FACE,2FOLDED HANDS,0NORTH WEST POINTING LEAF,0SOUTH WEST POINTING LEAF,
     0NORTH EAST POINTING LEAF,0SOUTH EAST POINTING LEAF,0TURNED NORTH WEST POINTING LEAF,
     1SOUTH WEST POINTING LEAF,1NORTH EAST POINTING LEAF,1SOUTH EAST POINTING LEAF,
     0NORTH WEST POINTING VINE LEAF,0SOUTH WEST POINTING VINE LEAF,0NORTH EAST POINTING VINE LEAF,
     0SOUTH EAST POINTING VINE LEAF,0HEAVY NORTH WEST POINTING VINE LEAF,
     1SOUTH WEST POINTING VINE LEAF,1NORTH EAST POINTING VINE LEAF,1SOUTH EAST POINTING VINE LEAF,
     0NORTH WEST POINTING BUD,0SOUTH WEST POINTING BUD,0NORTH EAST POINTING BUD,
     0SOUTH EAST POINTING BUD,0HEAVY NORTH WEST POINTING BUD,1SOUTH WEST POINTING BUD,
     1NORTH EAST POINTING BUD,1SOUTH EAST POINTING BUD,0HOLLOW QUILT SQUARE ORNAMENT,4INeSQUARE,
     0SOLID QUILT SQUARE ORNAMENT,4INeSQUARE,0nROCKET,0UPWARDS ROCKET,0qROCKET,0DOWNWARDS ROCKET,
     0SCRIPT LIGATURE ET ORNAMENT,0HEAVY SCRIPT LIGATURE ET ORNAMENT,0LIGATURE OPEN ET ORNAMENT,
     0HEAVY LIGATURE OPEN ET ORNAMENT,1AMPERSAND ORNAMENT,0SWASH AMPERSAND ORNAMENT,
     0SANS-SERIF HEAVYgTURNED COMMA QUOTATION MARK ORNAMENT,3COMMA QUOTATION MARK ORNAMENT,
     2LOWgCOMMA QUOTATION MARK ORNAMENT,0HEAVY INTERROBANG ORNAMENT,
     0SANS-SERIF INTERROBANG ORNAMENT,0HEAVY SANS-SERIF INTERROBANG ORNAMENT,0VERY HEAVY SOLIDUS,
     2REVERSE SOLIDUS,0CHECKER BOARD,0REVERSE CHECKER BOARD,0ROCKET,0HELICOPTER,0STEAM LOCOMOTIVE,
     0RAILWAY CAR,0HIGH-SPEED TRAIN,2zBULLET NOSE,0TRAIN,0METRO,0LIGHT RAIL,0STATION,0TRAM,1CAR,
     0BUS,0ONCOMING BUS,0TROLLEYBUS,0BUS STOP,0MINIBUS,0AMBULANCE,0FIRE ENGINE,0POLICE CAR,
     0ONCOMING POLICE CAR,0TAXI,0ONCOMING TAXI,0AUTOMOBILE,0ONCOMING AUTOMOBILE,
     0RECREATIONAL VEHICLE,0DELIVERY TRUCK,0ARTICULATED LORRY,0TRACTOR,0MONORAIL,0MOUNTAIN RAILWAY,
     0SUSPENSION RAILWAY,0MOUNTAIN CABLEWAY,0AERIAL TRAMWAY,0SHIP,0ROWBOAT,0SPEEDBOAT,
     0jTRAFFIC LIGHT,0xTRAFFIC LIGHT,0CONSTRUCTIONr,0POLICE CARS REVOLVING LIGHT,
     0TRIANGULAR FLAG ON POST,0DOOR,0NO ENTRYr,0SMOKINGu,0NO SMOKINGu,0PUT LITTER IN ITS PLACEu,
     0DO NOT LITTERu,0POTABLE WATERu,0NON-POTABLE WATERu,0BICYCLE,0NO BICYCLES,0BICYCLIST,
     0MOUNTAIN BICYCLIST,0PEDESTRIAN,0NO PEDESTRIANS,0CHILDREN CROSSING,0MENSu,0WOMENSu,0RESTROOM,
     0BABYu,0TOILET,0WATER CLOSET,0SHOWER,0BATH,0BATHTUB,0PASSPORT CONTROL,0CUSTOMS,0BAGGAGE CLAIM,
     0mLUGGAGE,0TRIANGLEzROUNDED CORNERS,0PROHIBITEDr,0CIRCLED INFORMATION SOURCE,0BOYSu,0GIRLSu,
     0COUCHbLAMP,0SLEEPING ACCOMMODATION,0SHOPPING BAGS,0BELLHOP BELL,0BED,0PLACE OF WORSHIP,
     0OCTAGONALr,0SHOPPING TROLLEY,0STUPA,0PAGODA,0HINDU TEMPLE,0HUT,0ELEVATOR"),
   (0x1F6DD, "0PLAYGROUND SLIDE,0WHEEL,0RING BUOY,0HAMMERbWRENCH,0SHIELD,0OIL DRUM,0MOTORWAY,
     0RAILWAY TRACK,0MOTOR BOAT,0UP-POINTING MILITARY AIRPLANE,1AIRPLANE,1sAIRPLANE,0sAIRPLANE,
     0NORTHEAST-POINTING AIRPLANE,0AIRPLANE DEPARTURE,1ARRIVING"),
   (0x1F6F0, "0SATELLITE,0ONCOMING FIRE ENGINE,0DIESEL LOCOMOTIVE,0PASSENGER SHIP,0SCOOTER,
     0MOTOR SCOOTER,0CANOE,0SLED,0FLYING SAUCER,0SKATEBOARD,0AUTO RICKSHAW,0PICKUP TRUCK,
     0ROLLER SKATE"),
   (0x1F700, "0ALCHEMICALuFOR QUINTESSENCE,3AIR,3FIRE,3EARTH,3WATER,3AQUAFORTIS,3AQUA REGIA,
     4REGIA-2,4VITAE,4VITAE-2,3VINEGAR,3VINEGAR-2,3VINEGAR-3,3SULFUR,3PHILOSOPHERS SULFUR,3eSULFUR,
     3MERCURY SUBLIMATE,4SUBLIMATE-2,4SUBLIMATE-3,3CINNABAR,3SALT,3NITRE,3VITRIOL,3VITRIOL-2,
     3ROCK SALT,4SALT-2,3GOLD,3SILVER,3IRON ORE,4ORE-2,3CROCUS OF IRON,3REGULUS OF IRON,3COPPER ORE,
     3IRON-COPPER ORE,3SUBLIMATE OF COPPER,3CROCUS OF COPPER,5COPPER-2,3COPPER ANTIMONIATE,
     3SALT OF COPPER ANTIMONIATE,3SUBLIMATE OF SALT OF COPPER,3VERDIGRIS,3TIN ORE,3LEAD ORE,
     3ANTIMONY ORE,3SUBLIMATE OF ANTIMONY,3SALT OF ANTIMONY,3SUBLIMATE OF SALT OF ANTIMONY,
     3VINEGAR OF ANTIMONY,3REGULUS OF ANTIMONY,5ANTIMONY-2,4,3REGULUS-2,3REGULUS-3,3REGULUS-4,
     3ALKALI,3ALKALI-2,3MARCASITE,3SAL-AMMONIAC,3ARSENIC,3REALGAR,3REALGAR-2,3AURIPIGMENT,
     3BISMUTH ORE,3TARTAR,3TARTAR-2,3QUICK LIME,3BORAX,3BORAX-2,3BORAX-3,3ALUM,3OIL,3SPIRIT,
     3TINCTURE,3GUM,3WAX,3POWDER,3CALX,3TUTTY,3CAPUT MORTUUM,3SCEPTER OF JOVE,3CADUCEUS,3TRIDENT,
     3STARRED TRIDENT,3LODESTONE,3SOAP,3URINE,3HORSE DUNG,3ASHES,3POT ASHES,3BRICK,3POWDERED BRICK,
     3AMALGAM,3STRATUM SUPER STRATUM,5STRATUM-2,3SUBLIMATION,3PRECIPITATE,3DISTILL,3DISSOLVE,
     3DISSOLVE-2,3PURIFY,3PUTREFACTION,3CRUCIBLE,3CRUCIBLE-2,3CRUCIBLE-3,3CRUCIBLE-4,3CRUCIBLE-5,
     3ALEMBIC,3BATH OF MARY,5VAPOURS,3RETORT,3HOUR,3NIGHT,3DAY-NIGHT,3MONTH,3HALF DRAM,4OUNCE"),
   (0x1F780, "0eLEFT-POINTING ISOSCELESpTRIANGLE,1UP-POINTING ISOSCELESpTRIANGLE,
     1RIGHT-POINTING ISOSCELESpTRIANGLE,1DOWN-POINTING ISOSCELESpTRIANGLE,1SLIGHTLYsCIRCLE,
     0MEDIUM BOLDyCIRCLE,0BOLDyCIRCLE,0HEAVYyCIRCLE,0VERY HEAVYyCIRCLE,0EXTREMELY HEAVYyCIRCLE,
     0yCIRCLE CONTAININGesCIRCLE,0ROUND TARGET,0eTINY SQUARE,1SLIGHTLYsSQUARE,0LIGHTySQUARE,
     0MEDIUMySQUARE,0BOLDySQUARE,0HEAVYySQUARE,0VERY HEAVYySQUARE,0EXTREMELY HEAVYySQUARE,
     0ySQUARE CONTAININGeVERYsSQUARE,4MEDIUM SQUARE,0SQUARE TARGET,0eTINY DIAMOND,1VERYsDIAMOND,
     1MEDIUMsDIAMOND,0yDIAMOND CONTAININGeVERYsDIAMOND,4MEDIUM DIAMOND,0DIAMOND TARGET,
     0eTINY LOZENGE,1VERYsLOZENGE,1MEDIUMsLOZENGE,0yLOZENGE CONTAININGesLOZENGE,0THIN GREEK CROSS,
     0LIGHT GREEK CROSS,0MEDIUM GREEK CROSS,0BOLD GREEK CROSS,0VERY BOLD GREEK CROSS,
     1HEAVY GREEK CROSS,0EXTREMELY HEAVY GREEK CROSS,0THIN SALTIRE,0LIGHT SALTIRE,0MEDIUM SALTIRE,
     0BOLD SALTIRE,0HEAVY SALTIRE,0VERY HEAVY SALTIRE,0EXTREMELY HEAVY SALTIRE,
     0LIGHT FIVE SPOKED ASTERISK,0MEDIUM FIVE SPOKED ASTERISK,0BOLD FIVE SPOKED ASTERISK,
     0HEAVY FIVE SPOKED ASTERISK,0VERY HEAVY FIVE SPOKED ASTERISK,
     0EXTREMELY HEAVY FIVE SPOKED ASTERISK,0LIGHT SIX SPOKED ASTERISK,0MEDIUM SIX SPOKED ASTERISK,
     0BOLD SIX SPOKED ASTERISK,0HEAVY SIX SPOKED ASTERISK,0VERY HEAVY SIX SPOKED ASTERISK,
     0EXTREMELY HEAVY SIX SPOKED ASTERISK,0LIGHT EIGHT SPOKED ASTERISK,
     0MEDIUM EIGHT SPOKED ASTERISK,0BOLD EIGHT SPOKED ASTERISK,0HEAVY EIGHT SPOKED ASTERISK,
     0VERY HEAVY EIGHT SPOKED ASTERISK,0LIGHTvPOINTEDeSTAR,0MEDIUMvPOINTEDeSTAR,0vPOINTEDeSTAR,
     0MEDIUMvPOINTED PINWHEEL STAR,0LIGHT FOUR POINTEDeSTAR,0MEDIUM FOUR POINTEDeSTAR,
     0FOUR POINTEDeSTAR,0MEDIUM FOUR POINTED PINWHEEL STAR,
     0REVERSE LIGHT FOUR POINTED PINWHEEL STAR,0LIGHT FIVE POINTEDeSTAR,0HEAVY FIVE POINTEDeSTAR,
     0MEDIUM SIX POINTEDeSTAR,0HEAVY SIX POINTEDeSTAR,0SIX POINTED PINWHEEL STAR,
     0MEDIUM EIGHT POINTEDeSTAR,0HEAVY EIGHT POINTEDeSTAR,0VERY HEAVY EIGHT POINTEDeSTAR,
     0HEAVY EIGHT POINTED PINWHEEL STAR,0LIGHT TWELVE POINTEDeSTAR,0HEAVY TWELVE POINTEDeSTAR,
     3PINWHEEL STAR,0CIRCLED TRIANGLE,0NEGATIVE CIRCLED TRIANGLE,0CIRCLED SQUARE,
     0NEGATIVE CIRCLED SQUARE"),
   (0x1F7E0, "0LARGE ORANGE CIRCLE,1YELLOW CIRCLE,1GREEN CIRCLE,1PURPLE CIRCLE,1BROWN CIRCLE,
     1RED SQUARE,1BLUE SQUARE,1ORANGE SQUARE,1YELLOW SQUARE,1GREEN SQUARE,1PURPLE SQUARE,
     1BROWN SQUARE"),
   (0x1F7F0, "0HEAVY EQUALSr"),
   (0x1F800, "0nczsTRIANGLE ARROWHEAD,0UPWARDSczsTRIANGLE ARROWHEAD,0qczsTRIANGLE ARROWHEAD,
     0DOWNWARDSczsTRIANGLE ARROWHEAD,0nczMEDIUM TRIANGLE ARROWHEAD,
     0UPWARDSczMEDIUM TRIANGLE ARROWHEAD,0qczMEDIUM TRIANGLE ARROWHEAD,
     0DOWNWARDSczMEDIUM TRIANGLE ARROWHEAD,0nczLARGE TRIANGLE ARROWHEAD,
     0UPWARDSczLARGE TRIANGLE ARROWHEAD,0qczLARGE TRIANGLE ARROWHEAD,
     0DOWNWARDSczLARGE TRIANGLE ARROWHEAD"),
   (0x1F810, "0nczsEQUILATERAL ARROWHEAD,0UPWARDSczsEQUILATERAL ARROWHEAD,
     0qczsEQUILATERAL ARROWHEAD,0DOWNWARDSczsEQUILATERAL ARROWHEAD,0nczEQUILATERAL ARROWHEAD,
     0UPWARDSczEQUILATERAL ARROWHEAD,0qczEQUILATERAL ARROWHEAD,0DOWNWARDSczEQUILATERAL ARROWHEAD,
     0HEAVYnczEQUILATERAL ARROWHEAD,1UPWARDSczEQUILATERAL ARROWHEAD,1qczEQUILATERAL ARROWHEAD,
     1DOWNWARDSczEQUILATERAL ARROWHEAD,1nczLARGE EQUILATERAL ARROWHEAD,
     1UPWARDSczLARGE EQUILATERAL ARROWHEAD,1qczLARGE EQUILATERAL ARROWHEAD,
     1DOWNWARDSczLARGE EQUILATERAL ARROWHEAD,0nwczNARROW SHAFT,0UPWARDSwczNARROW SHAFT,
     0qwczNARROW SHAFT,0DOWNWARDSwczNARROW SHAFT,0nwczMEDIUM SHAFT,0UPWARDSwczMEDIUM SHAFT,
     0qwczMEDIUM SHAFT,0DOWNWARDSwczMEDIUM SHAFT,0nwczBOLD SHAFT,0UPWARDSwczBOLD SHAFT,
     0qwczBOLD SHAFT,0DOWNWARDSwczBOLD SHAFT,0nwczHEAVY SHAFT,0UPWARDSwczHEAVY SHAFT,
     0qwczHEAVY SHAFT,0DOWNWARDSwczHEAVY SHAFT,0nwczVERY HEAVY SHAFT,0UPWARDSwczVERY HEAVY SHAFT,
     0qwczVERY HEAVY SHAFT,0DOWNWARDSwczVERY HEAVY SHAFT,0nFINGER-POSTc,0UPWARDS FINGER-POSTc,
     0qFINGER-POSTc,0DOWNWARDS FINGER-POSTc,0nSQUAREDc,0UPWARDS SQUAREDc,0qSQUAREDc,
     0DOWNWARDS SQUAREDc,0nCOMPRESSEDc,0UPWARDS COMPRESSEDc,0qCOMPRESSEDc,0DOWNWARDS COMPRESSEDc,
     0nHEAVY COMPRESSEDc,0UPWARDS HEAVY COMPRESSEDc,0qHEAVY COMPRESSEDc,
     0DOWNWARDS HEAVY COMPRESSEDc,0nHEAVYc,0UPWARDS HEAVYc,0qHEAVYc,0DOWNWARDS HEAVYc"),
   (0x1F850, "0nSANS-SERIFc,0UPWARDS SANS-SERIFc,0qSANS-SERIFc,0DOWNWARDS SANS-SERIFc,
     0NORTH WEST SANS-SERIFc,1EAST SANS-SERIFc,0SOUTH EAST SANS-SERIFc,1WEST SANS-SERIFc,
     0mpSANS-SERIFc,0UP DOWN SANS-SERIFc"),
   (0x1F860, "0WIDE-HEADEDnLIGHT BARBc,1UPWARDS LIGHT BARBc,1qLIGHT BARBc,1DOWNWARDS LIGHT BARBc,
     1NORTH WEST LIGHT BARBc,2EAST LIGHT BARBc,1SOUTH EAST LIGHT BARBc,2WEST LIGHT BARBc,1nBARBc,
     1UPWARDS BARBc,1qBARBc,1DOWNWARDS BARBc,1NORTH WEST BARBc,2EAST BARBc,1SOUTH EAST BARBc,
     2WEST BARBc,1nMEDIUM BARBc,1UPWARDS MEDIUM BARBc,1qMEDIUM BARBc,1DOWNWARDS MEDIUM BARBc,
     1NORTH WEST MEDIUM BARBc,2EAST MEDIUM BARBc,1SOUTH EAST MEDIUM BARBc,2WEST MEDIUM BARBc,
     1nHEAVY BARBc,1UPWARDS HEAVY BARBc,1qHEAVY BARBc,1DOWNWARDS HEAVY BARBc,
     1NORTH WEST HEAVY BARBc,2EAST HEAVY BARBc,1SOUTH EAST HEAVY BARBc,2WEST HEAVY BARBc,
     1nVERY HEAVY BARBc,1UPWARDS VERY HEAVY BARBc,1qVERY HEAVY BARBc,1DOWNWARDS VERY HEAVY BARBc,
     1NORTH WEST VERY HEAVY BARBc,2EAST VERY HEAVY BARBc,1SOUTH EAST VERY HEAVY BARBc,
     2WEST VERY HEAVY BARBc"),
   (0x1F890, "0nTRIANGLE ARROWHEAD,0UPWARDS TRIANGLE ARROWHEAD,0qTRIANGLE ARROWHEAD,
     0DOWNWARDS TRIANGLE ARROWHEAD,0nycWITHIN TRIANGLE ARROWHEAD,
     0UPWARDSycWITHIN TRIANGLE ARROWHEAD,0qycWITHIN TRIANGLE ARROWHEAD,
     0DOWNWARDSycWITHIN TRIANGLE ARROWHEAD,0nczNOTCHED TAIL,0UPWARDSczNOTCHED TAIL,0qczNOTCHED TAIL,
     0DOWNWARDSczNOTCHED TAIL,0HEAVYcSHAFT WIDTH ONE,4TWO THIRDS,4ONE HALF,5THIRD,0nBOTTOM-SHADEDyc,
     0qBOTTOM SHADEDyc,0nTOP SHADEDyc,0qTOP SHADEDyc,0nLEFT-SHADEDyc,0qRIGHT-SHADEDyc,
     0nRIGHT-SHADEDyc,0qLEFT-SHADEDyc,0nBACK-TILTED SHADOWEDyc,0qBACK-TILTED SHADOWEDyc,
     0nFRONT-TILTED SHADOWEDyc,0qFRONT-TILTED SHADOWEDyc,0ycSHAFT WIDTH ONE,4TWO THIRDS"),
   (0x1F8B0, "0cPOINTING UPWARDS THEN NORTH WEST,2qTHEN CURVING SOUTH WEST"),
   (0x1F900, "0CIRCLED CROSS FORMEEzFOUR DOTS,4TWO DOTS,3,0mHALF CIRCLEzFOUR DOTS,4vDOTS,4TWO DOTS,
     4DOT,3,0DOWNWARD FACING HOOK,2NOTCHED HOOK,2HOOKzDOT,2NOTCHED HOOKzDOT,0PINCHED FINGERS,
     0yHEART,0BROWN HEART,0PINCHING HAND,0ZIPPER-MOUTH FACE,0MONEY-MOUTH FACE,0FACEzTHERMOMETER,
     0NERD FACE,0THINKING FACE,0FACEzHEAD-BANDAGE,0ROBOT FACE,0HUGGING FACE,0rOF THE HORNS,
     0CALL ME HAND,0RAISED BACK OF HAND,0LEFT-FACING FIST,0RIGHT-FACING FIST,0HANDSHAKE,
     0HANDzINDEXbMIDDLE FINGERS CROSSED,0I LOVE YOU HANDr,0FACEzCOWBOY HAT,0CLOWN FACE,
     0NAUSEATED FACE,0ROLLING ON THE FLOOR LAUGHING,0DROOLING FACE,0LYING FACE,0FACE PALM,
     0SNEEZING FACE,0FACEzONE EYEBROW RAISED,0GRINNING FACEzSTAR EYES,3ONE LARGEbONEsEYE,
     0FACEzFINGER COVERING CLOSED LIPS,0SERIOUS FACEzSYMBOLS COVERING MOUTH,
     0SMILING FACEzSMILING EYESbHAND COVERING MOUTH,0FACEzOPEN MOUTH VOMITING,
     0SHOCKED FACEzEXPLODING HEAD,0PREGNANT WOMAN,0BREAST-FEEDING,0PALMS UP TOGETHER,0SELFIE,
     0PRINCE,0MAN IN TUXEDO,0MOTHER CHRISTMAS,0SHRUG,0PERSON DOING CARTWHEEL,0JUGGLING,0FENCER,
     0MODERN PENTATHLON,0WRESTLERS,0WATER POLO,0HANDBALL,0DIVING MASK,0WILTED FLOWER,
     0DRUMzDRUMSTICKS,0CLINKING GLASSES,0TUMBLER GLASS,0SPOON,0GOAL NET,0RIFLE,0FIRST PLACE MEDAL,
     0SECOND PLACE MEDAL,0THIRD PLACE MEDAL,0BOXING GLOVE,0MARTIAL ARTS UNIFORM,0CURLING STONE,
     0LACROSSE STICKbBALL,0SOFTBALL,0FLYING DISC,0CROISSANT,0AVOCADO,0CUCUMBER,0BACON,0POTATO,
     0CARROT,0BAGUETTE BREAD,0GREEN SALAD,0SHALLOW PAN OF FOOD,0STUFFED FLATBREAD,0EGG,
     0GLASS OF MILK,0PEANUTS,0KIWIFRUIT,0PANCAKES,0DUMPLING,0FORTUNE COOKIE,0TAKEOUT BOX,
     0CHOPSTICKS,0BOWLzSPOON,0CUPzSTRAW,0COCONUT,0BROCCOLI,0PIE,0PRETZEL,0CUT OF MEAT,0SANDWICH,
     0CANNED FOOD,0LEAFY GREEN,0MANGO,0MOON CAKE,0BAGEL,0SMILING FACEzSMILING EYESbvHEARTS,
     0YAWNING FACE,0SMILING FACEzTEAR,0FACEzPARTY HORNbPARTY HAT,2UNEVEN EYESbWAVY MOUTH,
     0OVERHEATED FACE,0FREEZING FACE,0NINJA,0DISGUISED FACE,0FACE HOLDING BACK TEARS,
     1zPLEADING EYES,0SARI,0LAB COAT,0GOGGLES,0HIKING BOOT,0FLAT SHOE,0CRAB,0LION FACE,0SCORPION,
     0TURKEY,0UNICORN FACE,0EAGLE,0DUCK,0BAT,0SHARK,0OWL,0FOX FACE,0BUTTERFLY,0DEER,0GORILLA,
     0LIZARD,0RHINOCEROS,0SHRIMP,0SQUID,0GIRAFFE FACE,0ZEBRA FACE,0HEDGEHOG,0SAUROPOD,0T-REX,
     0CRICKET,0KANGAROO,0LLAMA,0PEACOCK,0HIPPOPOTAMUS,0PARROT,0RACCOON,0LOBSTER,0MOSQUITO,0MICROBE,
     0BADGER,0SWAN,0MAMMOTH,0DODO,0SLOTH,0OTTER,0ORANGUTAN,0SKUNK,0FLAMINGO,0OYSTER,0BEAVER,0BISON,
     0SEAL,0GUIDE DOG,0PROBING CANE,0EMOJI COMPONENT RED HAIR,2CURLY HAIR,2BALD,2yHAIR,0BONE,0LEG,
     0FOOT,0TOOTH,0SUPERHERO,0SUPERVILLAIN,0SAFETY VEST,0EARzHEARING AID,0MOTORIZED WHEELCHAIR,
     0MANUAL WHEELCHAIR,0MECHANICAL ARM,1LEG,0CHEESE WEDGE,0CUPCAKE,0SALT SHAKER,0BEVERAGE BOX,
     0GARLIC,0ONION,0FALAFEL,0WAFFLE,0BUTTER,0MATE DRINK,0ICE CUBE,0BUBBLE TEA,0TROLL,
     0STANDING PERSON,0KNEELING PERSON,0DEAF PERSON,0FACEzMONOCLE,0ADULT,0CHILD,0OLDER ADULT,
     0BEARDED PERSON,0PERSONzHEADSCARF,1IN STEAMY ROOM,1CLIMBING,1IN LOTUS POSITION,0MAGE,0FAIRY,
     0VAMPIRE,0MERPERSON,0ELF,0GENIE,0ZOMBIE,0BRAIN,0ORANGE HEART,0BILLED CAP,0SCARF,0GLOVES,0COAT,
     0SOCKS,0RED GIFT ENVELOPE,0FIRECRACKER,0JIGSAW PUZZLE PIECE,0TEST TUBE,0PETRI DISH,0DNAgHELIX,
     0COMPASS,0ABACUS,0FIRE EXTINGUISHER,0TOOLBOX,0BRICK,0MAGNET,0LUGGAGE,0LOTION BOTTLE,
     0SPOOL OF THREAD,0BALL OF YARN,0SAFETY PIN,0TEDDY BEAR,0BROOM,0BASKET,0ROLL OF PAPER,
     0BAR OF SOAP,0SPONGE,0RECEIPT,0NAZAR AMULET,0NEUTRAL CHESS KING,2QUEEN,2ROOK,2BISHOP,2KNIGHT,
     2PAWN,0yCHESS KNIGHT ROTATED FORTY-FIVE DEGREES,0eCHESS KNIGHT ROTATED FORTY-FIVE DEGREES,
     0NEUTRAL CHESS KNIGHT ROTATED FORTY-FIVE DEGREES,0yCHESS KING ROTATED NINETY DEGREES,
     2QUEEN ROTATED NINETY DEGREES,2ROOK ROTATED NINETY DEGREES,2BISHOP ROTATED NINETY DEGREES,
     2KNIGHT ROTATED NINETY DEGREES,2PAWN ROTATED NINETY DEGREES,
     0eCHESS KING ROTATED NINETY DEGREES,2QUEEN ROTATED NINETY DEGREES,2ROOK ROTATED NINETY DEGREES,
     2BISHOP ROTATED NINETY DEGREES,2KNIGHT ROTATED NINETY DEGREES,2PAWN ROTATED NINETY DEGREES,
     0NEUTRAL CHESS KING ROTATED NINETY DEGREES,2QUEEN ROTATED NINETY DEGREES,
     2ROOK ROTATED NINETY DEGREES,2BISHOP ROTATED NINETY DEGREES,2KNIGHT ROTATED NINETY DEGREES,
     2PAWN ROTATED NINETY DEGREES,0yCHESS KNIGHT ROTATED ONE HUNDRED THIRTY-FIVE DEGREES,
     0eCHESS KNIGHT ROTATED ONE HUNDRED THIRTY-FIVE DEGREES,
     0NEUTRAL CHESS KNIGHT ROTATED ONE HUNDRED THIRTY-FIVE DEGREES,0yCHESS TURNED KING,3QUEEN,3ROOK,
     3BISHOP,3KNIGHT,3PAWN,0eCHESS TURNED KING,3QUEEN,3ROOK,3BISHOP,3KNIGHT,3PAWN,
     0NEUTRAL CHESS TURNED KING,3QUEEN,3ROOK,3BISHOP,3KNIGHT,3PAWN,
     0yCHESS KNIGHT ROTATED TWO HUNDRED TWENTY-FIVE DEGREES,
     0eCHESS KNIGHT ROTATED TWO HUNDRED TWENTY-FIVE DEGREES,
     0NEUTRAL CHESS KNIGHT ROTATED TWO HUNDRED TWENTY-FIVE DEGREES,
     0yCHESS KING ROTATED TWO HUNDRED SEVENTY DEGREES,2QUEEN ROTATED TWO HUNDRED SEVENTY DEGREES,
     2ROOK ROTATED TWO HUNDRED SEVENTY DEGREES,2BISHOP ROTATED TWO HUNDRED SEVENTY DEGREES,
     2KNIGHT ROTATED TWO HUNDRED SEVENTY DEGREES,2PAWN ROTATED TWO HUNDRED SEVENTY DEGREES,
     0eCHESS KING ROTATED TWO HUNDRED SEVENTY DEGREES,2QUEEN ROTATED TWO HUNDRED SEVENTY DEGREES,
     2ROOK ROTATED TWO HUNDRED SEVENTY DEGREES,2BISHOP ROTATED TWO HUNDRED SEVENTY DEGREES,
     2KNIGHT ROTATED TWO HUNDRED SEVENTY DEGREES,2PAWN ROTATED TWO HUNDRED SEVENTY DEGREES,
     0NEUTRAL CHESS KING ROTATED TWO HUNDRED SEVENTY DEGREES,
     2QUEEN ROTATED TWO HUNDRED SEVENTY DEGREES,2ROOK ROTATED TWO HUNDRED SEVENTY DEGREES,
     2BISHOP ROTATED TWO HUNDRED SEVENTY DEGREES,2KNIGHT ROTATED TWO HUNDRED SEVENTY DEGREES,
     2PAWN ROTATED TWO HUNDRED SEVENTY DEGREES,0yCHESS KNIGHT ROTATEDvHUNDRED FIFTEEN DEGREES,
     0eCHESS KNIGHT ROTATEDvHUNDRED FIFTEEN DEGREES,
     0NEUTRAL CHESS KNIGHT ROTATEDvHUNDRED FIFTEEN DEGREES,0yCHESS EQUIHOPPER,0eCHESS EQUIHOPPER,
     0NEUTRAL CHESS EQUIHOPPER,0yCHESS EQUIHOPPER ROTATED NINETY DEGREES,
     0eCHESS EQUIHOPPER ROTATED NINETY DEGREES,0NEUTRAL CHESS EQUIHOPPER ROTATED NINETY DEGREES,
     0yCHESS KNIGHT-QUEEN,2KNIGHT-ROOK,2KNIGHT-BISHOP,0eCHESS KNIGHT-QUEEN,2KNIGHT-ROOK,
     2KNIGHT-BISHOP"),
   (0x1FA60, "0XIANGQI RED GENERAL,2MANDARIN,2ELEPHANT,2HORSE,2CHARIOT,2CANNON,2SOLDIER,1eGENERAL,
     2MANDARIN,2ELEPHANT,2HORSE,2CHARIOT,2CANNON,2SOLDIER"),
   (0x1FA70, "0BALLET SHOES,0ONE-PIECE SWIMSUIT,0BRIEFS,0SHORTS,0THONG SANDAL"),
   (0x1FA78, "0DROP OF BLOOD,0ADHESIVE BANDAGE,0STETHOSCOPE,0X-RAY,0CRUTCH"),
   (0x1FA80, "0YO-YO,0KITE,0PARACHUTE,0BOOMERANG,0MAGIC WAND,0PINATA,0NESTING DOLLS"),
   (0x1FA90, "0RINGED PLANET,0CHAIR,0RAZOR,0AXE,0DIYA LAMP,0BANJO,0MILITARY HELMET,0ACCORDION,
     0LONG DRUM,0COIN,0CARPENTRY SAW,0SCREWDRIVER,0LADDER,0HOOK,0MIRROR,0WINDOW,0PLUNGER,
     0SEWING NEEDLE,0KNOT,0BUCKET,0MOUSE TRAP,0TOOTHBRUSH,0HEADSTONE,0PLACARD,0ROCK,0MIRROR BALL,
     0IDENTIFICATION CARD,0LOW BATTERY,0HAMSA"),
   (0x1FAB0, "0FLY,0WORM,0BEETLE,0COCKROACH,0POTTED PLANT,0WOOD,0FEATHER,0LOTUS,0CORAL,0EMPTY NEST,
     0NESTzEGGS"),
   (0x1FAC0, "0ANATOMICAL HEART,0LUNGS,0PEOPLE HUGGING,0PREGNANT MAN,1PERSON,0PERSONzCROWN"),
   (0x1FAD0, "0BLUEBERRIES,0BELL PEPPER,0OLIVE,0FLATBREAD,0TAMALE,0FONDUE,0TEAPOT,0POURING LIQUID,
     0BEANS,0JAR"),
   (0x1FAE0, "0MELTING FACE,0SALUTING FACE,0FACEzOPEN EYESbHAND OVER MOUTH,2PEEKING EYE,
     2DIAGONAL MOUTH,0DOTTED LINE FACE,0BITING LIP,0BUBBLES"),
   (0x1FAF0, "0HANDzINDEX FINGERbTHUMB CROSSED,0qHAND,0nHAND,0PALM DOWN HAND,1UP HAND,
     0INDEX POINTING AT THE VIEWER,0HEART HANDS"),
   (0x1FB00, "0BLOCK SEXTANT-1,1SEXTANT-2,1SEXTANT-12,1SEXTANT-3,1SEXTANT-13,1SEXTANT-23,
     1SEXTANT-123,1SEXTANT-4,1SEXTANT-14,1SEXTANT-24,1SEXTANT-124,1SEXTANT-34,1SEXTANT-134,
     1SEXTANT-234,1SEXTANT-1234,1SEXTANT-5,1SEXTANT-15,1SEXTANT-25,1SEXTANT-125,1SEXTANT-35,
     1SEXTANT-235,1SEXTANT-1235,1SEXTANT-45,1SEXTANT-145,1SEXTANT-245,1SEXTANT-1245,1SEXTANT-345,
     1SEXTANT-1345,1SEXTANT-2345,1SEXTANT-12345,1SEXTANT-6,1SEXTANT-16,1SEXTANT-26,1SEXTANT-126,
     1SEXTANT-36,1SEXTANT-136,1SEXTANT-236,1SEXTANT-1236,1SEXTANT-46,1SEXTANT-146,1SEXTANT-1246,
     1SEXTANT-346,1SEXTANT-1346,1SEXTANT-2346,1SEXTANT-12346,1SEXTANT-56,1SEXTANT-156,1SEXTANT-256,
     1SEXTANT-1256,1SEXTANT-356,1SEXTANT-1356,1SEXTANT-2356,1SEXTANT-12356,1SEXTANT-456,
     1SEXTANT-1456,1SEXTANT-2456,1SEXTANT-12456,1SEXTANT-3456,1SEXTANT-13456,1SEXTANT-23456,
     0LOWERmBLOCK DIAGONAL LOWER MIDDLEmTO LOWER CENTRE,9p,4UPPER MIDDLEmTO LOWER CENTRE,9p,
     5mTO LOWER CENTRE,1pBLOCK DIAGONAL UPPER MIDDLEmTO UPPER CENTRE,9p,
     4LOWER MIDDLEmTO UPPER CENTRE,9p,5mTO UPPER CENTRE,5MIDDLEmTO UPPER MIDDLEp,
     5CENTRE TO LOWER MIDDLEp,5mTO LOWER MIDDLEp,5CENTRE TO UPPER MIDDLEp,5mTO UPPER MIDDLEp,
     5CENTRE TO UPPERp,1mBLOCK DIAGONAL UPPER CENTRE TO UPPER MIDDLEp,5mTO UPPER MIDDLEp,
     5CENTRE TO LOWER MIDDLEp,5mTO LOWER MIDDLEp,5CENTRE TO LOWERp,5MIDDLEmTO LOWER MIDDLEp,
     0UPPERpBLOCK DIAGONAL LOWER MIDDLEmTO LOWER CENTRE,9p,4UPPER MIDDLEmTO LOWER CENTRE,9p,
     5mTO LOWER CENTRE,1mBLOCK DIAGONAL UPPER MIDDLEmTO UPPER CENTRE,9p,
     4LOWER MIDDLEmTO UPPER CENTRE,9p,5mTO UPPER CENTRE,5MIDDLEmTO UPPER MIDDLEp,
     5CENTRE TO LOWER MIDDLEp,5mTO LOWER MIDDLEp,5CENTRE TO UPPER MIDDLEp,5mTO UPPER MIDDLEp,
     5CENTRE TO UPPERp,1pBLOCK DIAGONAL UPPER CENTRE TO UPPER MIDDLEp,5mTO UPPER MIDDLEp,
     5CENTRE TO LOWER MIDDLEp,5mTO LOWER MIDDLEp,5CENTRE TO LOWERp,5MIDDLEmTO LOWER MIDDLEp,
     1bpbLOWER TRIANGULARvQUARTERS BLOCK,0mbLOWERbpTRIANGULARvQUARTERS BLOCK,
     0UPPERbmbLOWER TRIANGULARvQUARTERS BLOCK,0mbUPPERbpTRIANGULARvQUARTERS BLOCK,
     1TRIANGULAR ONE QUARTER BLOCK,0UPPER TRIANGULAR ONE QUARTER BLOCK,
     0pTRIANGULAR ONE QUARTER BLOCK,0LOWER TRIANGULAR ONE QUARTER BLOCK,0xONE EIGHTH BLOCK-2,
     3BLOCK-3,3BLOCK-4,3BLOCK-5,3BLOCK-6,3BLOCK-7,0jONE EIGHTH BLOCK-2,3BLOCK-3,3BLOCK-4,3BLOCK-5,
     3BLOCK-6,3BLOCK-7,0mbLOWER ONE EIGHTH BLOCK,2UPPER ONE EIGHTH BLOCK,0pbUPPER ONE EIGHTH BLOCK,
     2LOWER ONE EIGHTH BLOCK,0UPPERbLOWER ONE EIGHTH BLOCK,0jONE EIGHTH BLOCK-1358,
     0UPPER ONE QUARTER BLOCK,1vEIGHTHS BLOCK,1FIVE EIGHTHS BLOCK,1vQUARTERS BLOCK,
     1SEVEN EIGHTHS BLOCK,0pONE QUARTER BLOCK,1vEIGHTHS BLOCK,1FIVE EIGHTHS BLOCK,1vQUARTERS BLOCK,
     1SEVEN EIGHTHS BLOCK,0mHALF MEDIUM SHADE,0pHALF MEDIUM SHADE,0UPPER HALF MEDIUM SHADE,
     0LOWER HALF MEDIUM SHADE,0INVERSE MEDIUM SHADE,
     0UPPER HALF BLOCKbLOWER HALF INVERSE MEDIUM SHADE,2INVERSE MEDIUM SHADEbLOWER HALF BLOCK"),
   (0x1FB94, "0mHALF INVERSE MEDIUM SHADEbpHALF BLOCK,0CHECKER BOARD FILL,
     0INVERSE CHECKER BOARD FILL,0HEAVYjFILL,0UPPERmTO LOWERpFILL,1pTO LOWERmFILL,
     1bLOWER TRIANGULAR HALF BLOCK,0mbpTRIANGULAR HALF BLOCK,0UPPERmTRIANGULAR MEDIUM SHADE,
     1pTRIANGULAR MEDIUM SHADE,0LOWERpTRIANGULAR MEDIUM SHADE,1mTRIANGULAR MEDIUM SHADE,
     0BOX DRAWINGS LIGHT DIAGONAL UPPER CENTRE TO MIDDLEm,8p,4MIDDLEmTO LOWER CENTRE,
     5pTO LOWER CENTRE,4UPPER CENTRE TO MIDDLEmTO LOWER CENTRE,8pTO LOWER CENTRE,
     4MIDDLEmTO LOWER CENTRE TO MIDDLEp,7UPPER CENTRE TO MIDDLEp,
     4UPPER CENTRE TO MIDDLEmbMIDDLEpTO LOWER CENTRE,8pbMIDDLEmTO LOWER CENTRE,
     9TO LOWER CENTRE TO MIDDLEm,8mTO LOWER CENTRE TO MIDDLEp,
     4MIDDLEmTO UPPER CENTRE TO MIDDLEpTO LOWER CENTRE,5pTO UPPER CENTRE TO MIDDLEmTO LOWER CENTRE,
     4DIAMOND,3jzxt,0ARROWHEAD-SHAPED POINTER,0INVERSE CHECK MARK,0mHALF RUNNING MAN,
     0pHALF RUNNING MAN,0INVERSE DOWNWARDSczTIPn,0ncbUPPERbLOWER ONE EIGHTH BLOCK,
     0qcbUPPERbLOWER ONE EIGHTH BLOCK,0DOWNWARDScbpONE EIGHTH BLOCK,0UPWARDScbpONE EIGHTH BLOCK,
     0mHALF FOLDER,0pHALF FOLDER,0VOIDED GREEK CROSS,0pOPEN SQUARED DOT,0NEGATIVE DIAGONAL CROSS,
     2MIDDLEpTO LOWER CENTRE,2DIAMOND,0yHEAVY SALTIREzROUNDED CORNERS,0mTHIRDypPOINTING INDEX,
     0MIDDLE THIRDypPOINTING INDEX,0pTHIRDypPOINTING INDEX,0NEGATIVE SQUARED QUESTION MARK,
     0STICK FIGURE,2zARMS RAISED,2LEANINGm,3p,2zDRESS,0yUP-POINTING CHEVRON"),
   (0x1FBF0, "0SEGMENTED DIGIT ZERO,2ONE,2TWO,2v,2FOUR,2FIVE,2SIX,2SEVEN,2EIGHT,2NINE"),
   (0xE0001, "0LANGUAGE TAG"),
   (0xE0020, "0TAG SPACE,1EXCLAMATION MARK,1QUOTATION MARK,1NUMBERr,1DOLLARr,1PERCENTr,1AMPERSAND,
     1APOSTROPHE,1mPARENTHESIS,1pPARENTHESIS,1ASTERISK,1PLUSr,1COMMA,1HYPHEN-MINUS,1FULL STOP,
     1SOLIDUS,1DIGIT ZERO,2ONE,2TWO,2v,2FOUR,2FIVE,2SIX,2SEVEN,2EIGHT,2NINE,1COLON,1SEMICOLON,
     1LESS-THANr,1EQUALSr,1GREATER-THANr,1QUESTION MARK,1COMMERCIAL AT,1LATINfoA,4B,4C,4D,4E,4F,4G,
     4H,4I,4J,4K,4L,4M,4N,4O,4P,4Q,4R,4S,4T,4U,4V,4W,4X,4Y,4Z,1mSQUARE BRACKET,1REVERSE SOLIDUS,
     1pSQUARE BRACKET,1CIRCUMFLEX ACCENT,1LOW LINE,1GRAVE ACCENT,1LATINsoA,4B,4C,4D,4E,4F,4G,4H,4I,
     4J,4K,4L,4M,4N,4O,4P,4Q,4R,4S,4T,4U,4V,4W,4X,4Y,4Z,1mCURLY BRACKET,1xLINE,1pCURLY BRACKET,
     1TILDE,0CANCEL TAG"),
   (0xE0100, "0VARIATION SELECTOR-17,1SELECTOR-18,1SELECTOR-19,1SELECTOR-20,1SELECTOR-21,
     1SELECTOR-22,1SELECTOR-23,1SELECTOR-24,1SELECTOR-25,1SELECTOR-26,1SELECTOR-27,1SELECTOR-28,
     1SELECTOR-29,1SELECTOR-30,1SELECTOR-31,1SELECTOR-32,1SELECTOR-33,1SELECTOR-34,1SELECTOR-35,
     1SELECTOR-36,1SELECTOR-37,1SELECTOR-38,1SELECTOR-39,1SELECTOR-40,1SELECTOR-41,1SELECTOR-42,
     1SELECTOR-43,1SELECTOR-44,1SELECTOR-45,1SELECTOR-46,1SELECTOR-47,1SELECTOR-48,1SELECTOR-49,
     1SELECTOR-50,1SELECTOR-51,1SELECTOR-52,1SELECTOR-53,1SELECTOR-54,1SELECTOR-55,1SELECTOR-56,
     1SELECTOR-57,1SELECTOR-58,1SELECTOR-59,1SELECTOR-60,1SELECTOR-61,1SELECTOR-62,1SELECTOR-63,
     1SELECTOR-64,1SELECTOR-65,1SELECTOR-66,1SELECTOR-67,1SELECTOR-68,1SELECTOR-69,1SELECTOR-70,
     1SELECTOR-71,1SELECTOR-72,1SELECTOR-73,1SELECTOR-74,1SELECTOR-75,1SELECTOR-76,1SELECTOR-77,
     1SELECTOR-78,1SELECTOR-79,1SELECTOR-80,1SELECTOR-81,1SELECTOR-82,1SELECTOR-83,1SELECTOR-84,
     1SELECTOR-85,1SELECTOR-86,1SELECTOR-87,1SELECTOR-88,1SELECTOR-89,1SELECTOR-90,1SELECTOR-91,
     1SELECTOR-92,1SELECTOR-93,1SELECTOR-94,1SELECTOR-95,1SELECTOR-96,1SELECTOR-97,1SELECTOR-98,
     1SELECTOR-99,1SELECTOR-100,1SELECTOR-101,1SELECTOR-102,1SELECTOR-103,1SELECTOR-104,
     1SELECTOR-105,1SELECTOR-106,1SELECTOR-107,1SELECTOR-108,1SELECTOR-109,1SELECTOR-110,
     1SELECTOR-111,1SELECTOR-112,1SELECTOR-113,1SELECTOR-114,1SELECTOR-115,1SELECTOR-116,
     1SELECTOR-117,1SELECTOR-118,1SELECTOR-119,1SELECTOR-120,1SELECTOR-121,1SELECTOR-122,
     1SELECTOR-123,1SELECTOR-124,1SELECTOR-125,1SELECTOR-126,1SELECTOR-127,1SELECTOR-128,
     1SELECTOR-129,1SELECTOR-130,1SELECTOR-131,1SELECTOR-132,1SELECTOR-133,1SELECTOR-134,
     1SELECTOR-135,1SELECTOR-136,1SELECTOR-137,1SELECTOR-138,1SELECTOR-139,1SELECTOR-140,
     1SELECTOR-141,1SELECTOR-142,1SELECTOR-143,1SELECTOR-144,1SELECTOR-145,1SELECTOR-146,
     1SELECTOR-147,1SELECTOR-148,1SELECTOR-149,1SELECTOR-150,1SELECTOR-151,1SELECTOR-152,
     1SELECTOR-153,1SELECTOR-154,1SELECTOR-155,1SELECTOR-156,1SELECTOR-157,1SELECTOR-158,
     1SELECTOR-159,1SELECTOR-160,1SELECTOR-161,1SELECTOR-162,1SELECTOR-163,1SELECTOR-164,
     1SELECTOR-165,1SELECTOR-166,1SELECTOR-167,1SELECTOR-168,1SELECTOR-169,1SELECTOR-170,
     1SELECTOR-171,1SELECTOR-172,1SELECTOR-173,1SELECTOR-174,1SELECTOR-175,1SELECTOR-176,
     1SELECTOR-177,1SELECTOR-178,1SELECTOR-179,1SELECTOR-180,1SELECTOR-181,1SELECTOR-182,
     1SELECTOR-183,1SELECTOR-184,1SELECTOR-185,1SELECTOR-186,1SELECTOR-187,1SELECTOR-188,
     1SELECTOR-189,1SELECTOR-190,1SELECTOR-191,1SELECTOR-192,1SELECTOR-193,1SELECTOR-194,
     1SELECTOR-195,1SELECTOR-196,1SELECTOR-197,1SELECTOR-198,1SELECTOR-199,1SELECTOR-200,
     1SELECTOR-201,1SELECTOR-202,1SELECTOR-203,1SELECTOR-204,1SELECTOR-205,1SELECTOR-206,
     1SELECTOR-207,1SELECTOR-208,1SELECTOR-209,1SELECTOR-210,1SELECTOR-211,1SELECTOR-212,
     1SELECTOR-213,1SELECTOR-214,1SELECTOR-215,1SELECTOR-216,1SELECTOR-217,1SELECTOR-218,
     1SELECTOR-219,1SELECTOR-220,1SELECTOR-221,1SELECTOR-222,1SELECTOR-223,1SELECTOR-224,
     1SELECTOR-225,1SELECTOR-226,1SELECTOR-227,1SELECTOR-228,1SELECTOR-229,1SELECTOR-230,
     1SELECTOR-231,1SELECTOR-232,1SELECTOR-233,1SELECTOR-234,1SELECTOR-235,1SELECTOR-236,
     1SELECTOR-237,1SELECTOR-238,1SELECTOR-239,1SELECTOR-240,1SELECTOR-241,1SELECTOR-242,
     1SELECTOR-243,1SELECTOR-244,1SELECTOR-245,1SELECTOR-246,1SELECTOR-247,1SELECTOR-248,
     1SELECTOR-249,1SELECTOR-250,1SELECTOR-251,1SELECTOR-252,1SELECTOR-253,1SELECTOR-254,
     1SELECTOR-255,1SELECTOR-256")]

/-- Second names of characters. -/
def otherNames : List (Nat × String) :=
  [(0x0, "NUL"), (0x0, "NULL"), (0x1, "SOH"), (0x1, "START OF HEADING"), (0x2, "START OF TEXT"),
   (0x2, "STX"), (0x3, "END OF TEXT"), (0x3, "ETX"), (0x4, "END OF TRANSMISSION"), (0x4, "EOT"),
   (0x5, "ENQ"), (0x5, "ENQUIRY"), (0x6, "ACK"), (0x6, "ACKNOWLEDGE"), (0x7, "ALERT"), (0x7, "BEL"),
   (0x8, "BACKSPACE"), (0x8, "BS"), (0x9, "CHARACTER TABULATION"), (0x9, "HORIZONTAL TABULATION"),
   (0x9, "HT"), (0x9, "TAB"), (0xA, "END OF LINE"), (0xA, "EOL"), (0xA, "LF"), (0xA, "LINE FEED"),
   (0xA, "NEW LINE"), (0xA, "NL"), (0xB, "LINE TABULATION"), (0xB, "VERTICAL TABULATION"),
   (0xB, "VT"), (0xC, "FF"), (0xC, "FORM FEED"), (0xD, "CARRIAGE RETURN"), (0xD, "CR"),
   (0xE, "LOCKING-SHIFT ONE"), (0xE, "SHIFT OUT"), (0xE, "SO"), (0xF, "LOCKING-SHIFT ZERO"),
   (0xF, "SHIFT IN"), (0xF, "SI"), (0x10, "DATA LINK ESCAPE"), (0x10, "DLE"), (0x11, "DC1"),
   (0x11, "DEVICE CONTROL ONE"), (0x12, "DC2"), (0x12, "DEVICE CONTROL TWO"), (0x13, "DC3"),
   (0x13, "DEVICE CONTROL THREE"), (0x14, "DC4"), (0x14, "DEVICE CONTROL FOUR"), (0x15, "NAK"),
   (0x15, "NEGATIVE ACKNOWLEDGE"), (0x16, "SYN"), (0x16, "SYNCHRONOUS IDLE"),
   (0x17, "END OF TRANSMISSION BLOCK"), (0x17, "ETB"), (0x18, "CAN"), (0x18, "CANCEL"),
   (0x19, "END OF MEDIUM"), (0x19, "EOM"), (0x1A, "SUB"), (0x1A, "SUBSTITUTE"), (0x1B, "ESC"),
   (0x1B, "ESCAPE"), (0x1C, "FILE SEPARATOR"), (0x1C, "FS"), (0x1C, "INFORMATION SEPARATOR FOUR"),
   (0x1D, "GROUP SEPARATOR"), (0x1D, "GS"), (0x1D, "INFORMATION SEPARATOR THREE"),
   (0x1E, "INFORMATION SEPARATOR TWO"), (0x1E, "RECORD SEPARATOR"), (0x1E, "RS"),
   (0x1F, "INFORMATION SEPARATOR ONE"), (0x1F, "UNIT SEPARATOR"), (0x1F, "US"), (0x20, "SP"),
   (0x7F, "DEL"), (0x7F, "DELETE"), (0x80, "PAD"), (0x80, "PADDING CHARACTER"),
   (0x81, "HIGH OCTET PRESET"), (0x81, "HOP"), (0x82, "BPH"), (0x82, "BREAK PERMITTED HERE"),
   (0x83, "NBH"), (0x83, "NO BREAK HERE"), (0x84, "IND"), (0x84, "INDEX"), (0x85, "NEL"),
   (0x85, "NEXT LINE"), (0x86, "SSA"), (0x86, "START OF SELECTED AREA"),
   (0x87, "END OF SELECTED AREA"), (0x87, "ESA"), (0x88, "CHARACTER TABULATION SET"),
   (0x88, "HORIZONTAL TABULATION SET"), (0x88, "HTS"),
   (0x89, "CHARACTER TABULATION WITH JUSTIFICATION"),
   (0x89, "HORIZONTAL TABULATION WITH JUSTIFICATION"), (0x89, "HTJ"), (0x8A, "LINE TABULATION SET"),
   (0x8A, "VERTICAL TABULATION SET"), (0x8A, "VTS"), (0x8B, "PARTIAL LINE DOWN"),
   (0x8B, "PARTIAL LINE FORWARD"), (0x8B, "PLD"), (0x8C, "PARTIAL LINE BACKWARD"),
   (0x8C, "PARTIAL LINE UP"), (0x8C, "PLU"), (0x8D, "REVERSE INDEX"), (0x8D, "REVERSE LINE FEED"),
   (0x8D, "RI"), (0x8E, "SINGLE SHIFT TWO"), (0x8E, "SINGLE-SHIFT-2"), (0x8E, "SS2"),
   (0x8F, "SINGLE SHIFT THREE"), (0x8F, "SINGLE-SHIFT-3"), (0x8F, "SS3"), (0x90, "DCS"),
   (0x90, "DEVICE CONTROL STRING"), (0x91, "PRIVATE USE ONE"), (0x91, "PRIVATE USE-1"),
   (0x91, "PU1"), (0x92, "PRIVATE USE TWO"), (0x92, "PRIVATE USE-2"), (0x92, "PU2"),
   (0x93, "SET TRANSMIT STATE"), (0x93, "STS"), (0x94, "CANCEL CHARACTER"), (0x94, "CCH"),
   (0x95, "MESSAGE WAITING"), (0x95, "MW"), (0x96, "SPA"), (0x96, "START OF GUARDED AREA"),
   (0x96, "START OF PROTECTED AREA"), (0x97, "END OF GUARDED AREA"),
   (0x97, "END OF PROTECTED AREA"), (0x97, "EPA"), (0x98, "SOS"), (0x98, "START OF STRING"),
   (0x99, "SGC"), (0x99, "SINGLE GRAPHIC CHARACTER INTRODUCER"), (0x9A, "SCI"),
   (0x9A, "SINGLE CHARACTER INTRODUCER"), (0x9B, "CONTROL SEQUENCE INTRODUCER"), (0x9B, "CSI"),
   (0x9C, "ST"), (0x9C, "STRING TERMINATOR"), (0x9D, "OPERATING SYSTEM COMMAND"), (0x9D, "OSC"),
   (0x9E, "PM"), (0x9E, "PRIVACY MESSAGE"), (0x9F, "APC"), (0x9F, "APPLICATION PROGRAM COMMAND"),
   (0xA0, "NBSP"), (0xAD, "SHY"), (0x1A2, "LATIN CAPITAL LETTER GHA"),
   (0x1A3, "LATIN SMALL LETTER GHA"), (0x34F, "CGJ"), (0x61C, "ALM"),
   (0x709, "SYRIAC SUBLINEAR COLON SKEWED LEFT"), (0xCDE, "KANNADA LETTER LLLA"),
   (0xE9D, "LAO LETTER FO FON"), (0xE9F, "LAO LETTER FO FAY"), (0xEA3, "LAO LETTER RO"),
   (0xEA5, "LAO LETTER LO"), (0xFD0, "TIBETAN MARK BKA- SHOG GI MGO RGYAN"),
   (0x11EC, "HANGUL JONGSEONG YESIEUNG-KIYEOK"), (0x11ED, "HANGUL JONGSEONG YESIEUNG-SSANGKIYEOK"),
   (0x11EE, "HANGUL JONGSEONG SSANGYESIEUNG"), (0x11EF, "HANGUL JONGSEONG YESIEUNG-KHIEUKH"),
   (0x180B, "FVS1"), (0x180C, "FVS2"), (0x180D, "FVS3"), (0x180E, "MVS"), (0x180F, "FVS4"),
   (0x200B, "ZWSP"), (0x200C, "ZWNJ"), (0x200D, "ZWJ"), (0x200E, "LRM"), (0x200F, "RLM"),
   (0x202A, "LRE"), (0x202B, "RLE"), (0x202C, "PDF"), (0x202D, "LRO"), (0x202E, "RLO"),
   (0x202F, "NNBSP"), (0x205F, "MMSP"), (0x2060, "WJ"), (0x2066, "LRI"), (0x2067, "RLI"),
   (0x2068, "FSI"), (0x2069, "PDI"), (0x2118, "WEIERSTRASS ELLIPTIC FUNCTION"),
   (0x2448, "MICR ON US SYMBOL"), (0x2449, "MICR DASH SYMBOL"),
   (0x2B7A, "LEFTWARDS TRIANGLE-HEADED ARROW WITH DOUBLE VERTICAL STROKE"),
   (0x2B7C, "RIGHTWARDS TRIANGLE-HEADED ARROW WITH DOUBLE VERTICAL STROKE"),
   (0xA015, "YI SYLLABLE ITERATION MARK"), (0xAA6E, "MYANMAR LETTER KHAMTI LLA"), (0xFE00, "VS1"),
   (0xFE01, "VS2"), (0xFE02, "VS3"), (0xFE03, "VS4"), (0xFE04, "VS5"), (0xFE05, "VS6"),
   (0xFE06, "VS7"), (0xFE07, "VS8"), (0xFE08, "VS9"), (0xFE09, "VS10"), (0xFE0A, "VS11"),
   (0xFE0B, "VS12"), (0xFE0C, "VS13"), (0xFE0D, "VS14"), (0xFE0E, "VS15"), (0xFE0F, "VS16"),
   (0xFE18, "PRESENTATION FORM FOR VERTICAL RIGHT WHITE LENTICULAR BRACKET"), (0xFEFF, "BOM"),
   (0xFEFF, "BYTE ORDER MARK"), (0xFEFF, "ZWNBSP"), (0x122D4, "CUNEIFORM SIGN NU11 TENU"),
   (0x122D5, "CUNEIFORM SIGN NU11 OVER NU11 BUR OVER BUR"),
   (0x16E56, "MEDEFAIDRIN CAPITAL LETTER H"), (0x16E57, "MEDEFAIDRIN CAPITAL LETTER NG"),
   (0x16E76, "MEDEFAIDRIN SMALL LETTER H"), (0x16E77, "MEDEFAIDRIN SMALL LETTER NG"),
   (0x1B001, "HENTAIGANA LETTER E-1"),
   (0x1D0C5, "BYZANTINE MUSICAL SYMBOL FTHORA SKLIRON CHROMA VASIS"), (0xE0100, "VS17"),
   (0xE0101, "VS18"), (0xE0102, "VS19"), (0xE0103, "VS20"), (0xE0104, "VS21"), (0xE0105, "VS22"),
   (0xE0106, "VS23"), (0xE0107, "VS24"), (0xE0108, "VS25"), (0xE0109, "VS26"), (0xE010A, "VS27"),
   (0xE010B, "VS28"), (0xE010C, "VS29"), (0xE010D, "VS30"), (0xE010E, "VS31"), (0xE010F, "VS32"),
   (0xE0110, "VS33"), (0xE0111, "VS34"), (0xE0112, "VS35"), (0xE0113, "VS36"), (0xE0114, "VS37"),
   (0xE0115, "VS38"), (0xE0116, "VS39"), (0xE0117, "VS40"), (0xE0118, "VS41"), (0xE0119, "VS42"),
   (0xE011A, "VS43"), (0xE011B, "VS44"), (0xE011C, "VS45"), (0xE011D, "VS46"), (0xE011E, "VS47"),
   (0xE011F, "VS48"), (0xE0120, "VS49"), (0xE0121, "VS50"), (0xE0122, "VS51"), (0xE0123, "VS52"),
   (0xE0124, "VS53"), (0xE0125, "VS54"), (0xE0126, "VS55"), (0xE0127, "VS56"), (0xE0128, "VS57"),
   (0xE0129, "VS58"), (0xE012A, "VS59"), (0xE012B, "VS60"), (0xE012C, "VS61"), (0xE012D, "VS62"),
   (0xE012E, "VS63"), (0xE012F, "VS64"), (0xE0130, "VS65"), (0xE0131, "VS66"), (0xE0132, "VS67"),
   (0xE0133, "VS68"), (0xE0134, "VS69"), (0xE0135, "VS70"), (0xE0136, "VS71"), (0xE0137, "VS72"),
   (0xE0138, "VS73"), (0xE0139, "VS74"), (0xE013A, "VS75"), (0xE013B, "VS76"), (0xE013C, "VS77"),
   (0xE013D, "VS78"), (0xE013E, "VS79"), (0xE013F, "VS80"), (0xE0140, "VS81"), (0xE0141, "VS82"),
   (0xE0142, "VS83"), (0xE0143, "VS84"), (0xE0144, "VS85"), (0xE0145, "VS86"), (0xE0146, "VS87"),
   (0xE0147, "VS88"), (0xE0148, "VS89"), (0xE0149, "VS90"), (0xE014A, "VS91"), (0xE014B, "VS92"),
   (0xE014C, "VS93"), (0xE014D, "VS94"), (0xE014E, "VS95"), (0xE014F, "VS96"), (0xE0150, "VS97"),
   (0xE0151, "VS98"), (0xE0152, "VS99"), (0xE0153, "VS100"), (0xE0154, "VS101"), (0xE0155, "VS102"),
   (0xE0156, "VS103"), (0xE0157, "VS104"), (0xE0158, "VS105"), (0xE0159, "VS106"),
   (0xE015A, "VS107"), (0xE015B, "VS108"), (0xE015C, "VS109"), (0xE015D, "VS110"),
   (0xE015E, "VS111"), (0xE015F, "VS112"), (0xE0160, "VS113"), (0xE0161, "VS114"),
   (0xE0162, "VS115"), (0xE0163, "VS116"), (0xE0164, "VS117"), (0xE0165, "VS118"),
   (0xE0166, "VS119"), (0xE0167, "VS120"), (0xE0168, "VS121"), (0xE0169, "VS122"),
   (0xE016A, "VS123"), (0xE016B, "VS124"), (0xE016C, "VS125"), (0xE016D, "VS126"),
   (0xE016E, "VS127"), (0xE016F, "VS128"), (0xE0170, "VS129"), (0xE0171, "VS130"),
   (0xE0172, "VS131"), (0xE0173, "VS132"), (0xE0174, "VS133"), (0xE0175, "VS134"),
   (0xE0176, "VS135"), (0xE0177, "VS136"), (0xE0178, "VS137"), (0xE0179, "VS138"),
   (0xE017A, "VS139"), (0xE017B, "VS140"), (0xE017C, "VS141"), (0xE017D, "VS142"),
   (0xE017E, "VS143"), (0xE017F, "VS144"), (0xE0180, "VS145"), (0xE0181, "VS146"),
   (0xE0182, "VS147"), (0xE0183, "VS148"), (0xE0184, "VS149"), (0xE0185, "VS150"),
   (0xE0186, "VS151"), (0xE0187, "VS152"), (0xE0188, "VS153"), (0xE0189, "VS154"),
   (0xE018A, "VS155"), (0xE018B, "VS156"), (0xE018C, "VS157"), (0xE018D, "VS158"),
   (0xE018E, "VS159"), (0xE018F, "VS160"), (0xE0190, "VS161"), (0xE0191, "VS162"),
   (0xE0192, "VS163"), (0xE0193, "VS164"), (0xE0194, "VS165"), (0xE0195, "VS166"),
   (0xE0196, "VS167"), (0xE0197, "VS168"), (0xE0198, "VS169"), (0xE0199, "VS170"),
   (0xE019A, "VS171"), (0xE019B, "VS172"), (0xE019C, "VS173"), (0xE019D, "VS174"),
   (0xE019E, "VS175"), (0xE019F, "VS176"), (0xE01A0, "VS177"), (0xE01A1, "VS178"),
   (0xE01A2, "VS179"), (0xE01A3, "VS180"), (0xE01A4, "VS181"), (0xE01A5, "VS182"),
   (0xE01A6, "VS183"), (0xE01A7, "VS184"), (0xE01A8, "VS185"), (0xE01A9, "VS186"),
   (0xE01AA, "VS187"), (0xE01AB, "VS188"), (0xE01AC, "VS189"), (0xE01AD, "VS190"),
   (0xE01AE, "VS191"), (0xE01AF, "VS192"), (0xE01B0, "VS193"), (0xE01B1, "VS194"),
   (0xE01B2, "VS195"), (0xE01B3, "VS196"), (0xE01B4, "VS197"), (0xE01B5, "VS198"),
   (0xE01B6, "VS199"), (0xE01B7, "VS200"), (0xE01B8, "VS201"), (0xE01B9, "VS202"),
   (0xE01BA, "VS203"), (0xE01BB, "VS204"), (0xE01BC, "VS205"), (0xE01BD, "VS206"),
   (0xE01BE, "VS207"), (0xE01BF, "VS208"), (0xE01C0, "VS209"), (0xE01C1, "VS210"),
   (0xE01C2, "VS211"), (0xE01C3, "VS212"), (0xE01C4, "VS213"), (0xE01C5, "VS214"),
   (0xE01C6, "VS215"), (0xE01C7, "VS216"), (0xE01C8, "VS217"), (0xE01C9, "VS218"),
   (0xE01CA, "VS219"), (0xE01CB, "VS220"), (0xE01CC, "VS221"), (0xE01CD, "VS222"),
   (0xE01CE, "VS223"), (0xE01CF, "VS224"), (0xE01D0, "VS225"), (0xE01D1, "VS226"),
   (0xE01D2, "VS227"), (0xE01D3, "VS228"), (0xE01D4, "VS229"), (0xE01D5, "VS230"),
   (0xE01D6, "VS231"), (0xE01D7, "VS232"), (0xE01D8, "VS233"), (0xE01D9, "VS234"),
   (0xE01DA, "VS235"), (0xE01DB, "VS236"), (0xE01DC, "VS237"), (0xE01DD, "VS238"),
   (0xE01DE, "VS239"), (0xE01DF, "VS240"), (0xE01E0, "VS241"), (0xE01E1, "VS242"),
   (0xE01E2, "VS243"), (0xE01E3, "VS244"), (0xE01E4, "VS245"), (0xE01E5, "VS246"),
   (0xE01E6, "VS247"), (0xE01E7, "VS248"), (0xE01E8, "VS249"), (0xE01E9, "VS250"),
   (0xE01EA, "VS251"), (0xE01EB, "VS252"), (0xE01EC, "VS253"), (0xE01ED, "VS254"),
   (0xE01EE, "VS255"), (0xE01EF, "VS256")]

end TaskAudit.Text
