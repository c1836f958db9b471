/-!
# Further names of characters

Names that characters have besides the one in the tables of names, and the names of control
characters: corrections, abbreviations and customary names. The table is read like those of the
first names, and follows version 14 of the Unicode character database.
-/

namespace PfaScript

namespace Text

namespace CharName

/-- The further names of characters. -/
def aliases : String :=
  "=0,NULL,=0,NUL,START OF HEADING,=1,SOH,START OF TEXT,=2,STX,END OF TEXT,=3,ETX,END OF TRANSMISSION
  =4,EOT,ENQUIRY,=5,ENQ,ACKNOWLEDGE,=6,ACK,ALERT,=7,BEL,BACKSPACE,=8,BS,CHARACTER TABULATION,=9
  HORIZONTAL TABULATION,=9,HT,=9,TAB,LINE FEED,=A,NEW LINE,=A,END OF LINE,=A,EOL,=A,LF,=A,NL
  LINE TABULATION,=B,VERTICAL TABULATION,=B,VT,FORM FEED,=C,FF,CARRIAGE RETURN,=D,CR,SHIFT OUT,=E
  LOCKING-SHIFT ONE,=E,SO,SHIFT IN,=F,LOCKING-SHIFT ZERO,=F,SI,DATA LINK ESCAPE,=10,DLE
  DEVICE CONTROL ONE,=11,DC1,DEVICE CONTROL TWO,=12,DC2,DEVICE CONTROL THREE,=13,DC3
  DEVICE CONTROL FOUR,=14,DC4,NEGATIVE ACKNOWLEDGE,=15,NAK,SYNCHRONOUS IDLE,=16,SYN
  END OF TRANSMISSION BLOCK,=17,ETB,CANCEL,=18,CAN,END OF MEDIUM,=19,EOM,SUBSTITUTE,=1A,SUB,ESCAPE
  =1B,ESC,INFORMATION SEPARATOR FOUR,=1C,FILE SEPARATOR,=1C,FS,INFORMATION SEPARATOR THREE,=1D
  GROUP SEPARATOR,=1D,GS,INFORMATION SEPARATOR TWO,=1E,RECORD SEPARATOR,=1E,RS
  INFORMATION SEPARATOR ONE,=1F,UNIT SEPARATOR,=1F,US,SP,=7F,DELETE,=7F,DEL,PADDING CHARACTER,=80
  PAD,HIGH OCTET PRESET,=81,HOP,BREAK PERMITTED HERE,=82,BPH,NO BREAK HERE,=83,NBH,INDEX,=84,IND
  NEXT LINE,=85,NEL,START OF SELECTED AREA,=86,SSA,END OF SELECTED AREA,=87,ESA
  CHARACTER TABULATION SET,=88,HORIZONTAL TABULATION SET,=88,HTS
  CHARACTER TABULATION WITH JUSTIFICATION,=89,HORIZONTAL TABULATION WITH JUSTIFICATION,=89,HTJ
  LINE TABULATION SET,=8A,VERTICAL TABULATION SET,=8A,VTS,PARTIAL LINE FORWARD,=8B,PARTIAL LINE DOWN
  =8B,PLD,PARTIAL LINE BACKWARD,=8C,PARTIAL LINE UP,=8C,PLU,REVERSE LINE FEED,=8D,REVERSE INDEX,=8D
  RI,SINGLE SHIFT TWO,=8E,SINGLE-SHIFT-2,=8E,SS2,SINGLE SHIFT THREE,=8F,SINGLE-SHIFT-3,=8F,SS3
  DEVICE CONTROL STRING,=90,DCS,PRIVATE USE ONE,=91,PRIVATE USE-1,=91,PU1,PRIVATE USE TWO,=92
  PRIVATE USE-2,=92,PU2,SET TRANSMIT STATE,=93,STS,CANCEL CHARACTER,=94,CCH,MESSAGE WAITING,=95,MW
  START OF GUARDED AREA,=96,START OF PROTECTED AREA,=96,SPA,END OF GUARDED AREA,=97
  END OF PROTECTED AREA,=97,EPA,START OF STRING,=98,SOS,SINGLE GRAPHIC CHARACTER INTRODUCER,=99,SGC
  SINGLE CHARACTER INTRODUCER,=9A,SCI,CONTROL SEQUENCE INTRODUCER,=9B,CSI,STRING TERMINATOR,=9C,ST
  OPERATING SYSTEM COMMAND,=9D,OSC,PRIVACY MESSAGE,=9E,PM,APPLICATION PROGRAM COMMAND,=9F,APC,NBSP
  =AD,SHY,=1A2,LATIN CAPITAL LETTER GHA,LATIN SMALL LETTER GHA,=34F,CGJ,=61C,ALM,=709
  SYRIAC SUBLINEAR COLON SKEWED LEFT,=CDE,KANNADA LETTER LLLA,=E9D,LAO LETTER FO FON,=E9F
  LAO LETTER FO FAY,=EA3,LAO LETTER RO,=EA5,LAO LETTER LO,=FD0,TIBETAN MARK BKA- SHOG GI MGO RGYAN
  =11EC,HANGUL JONGSEONG YESIEUNG-KIYEOK,HANGUL JONGSEONG YESIEUNG-SSANGKIYEOK
  HANGUL JONGSEONG SSANGYESIEUNG,HANGUL JONGSEONG YESIEUNG-KHIEUKH,=180B,FVS1,FVS2,FVS3,MVS,FVS4
  =200B,ZWSP,ZWNJ,ZWJ,LRM,RLM,=202A,LRE,RLE,PDF,LRO,RLO,NNBSP,=205F,MMSP,WJ,=2066,LRI,RLI,FSI,PDI
  =2118,WEIERSTRASS ELLIPTIC FUNCTION,=2448,MICR ON US SYMBOL,MICR DASH SYMBOL,=2B7A
  LEFTWARDS TRIANGLE-HEADED ARROW WITH DOUBLE VERTICAL STROKE,=2B7C
  RIGHTWARDS TRIANGLE-HEADED ARROW WITH DOUBLE VERTICAL STROKE,=A015,YI SYLLABLE ITERATION MARK
  =AA6E,MYANMAR LETTER KHAMTI LLA,=FE18
  PRESENTATION FORM FOR VERTICAL RIGHT WHITE LENTICULAR BRACKET,=FEFF,BYTE ORDER MARK,=FEFF,BOM
  =FEFF,ZWNBSP,=122D4,CUNEIFORM SIGN NU11 TENU,CUNEIFORM SIGN NU11 OVER NU11 BUR OVER BUR,=16E56
  MEDEFAIDRIN CAPITAL LETTER H,MEDEFAIDRIN CAPITAL LETTER NG,=16E76,MEDEFAIDRIN SMALL LETTER H
  MEDEFAIDRIN SMALL LETTER NG,=1B001,HENTAIGANA LETTER E-1,=1D0C5
  BYZANTINE MUSICAL SYMBOL FTHORA SKLIRON CHROMA VASIS"

end CharName

end Text

end PfaScript
