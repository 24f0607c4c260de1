set_option autoImplicit false

/-! # Further names of characters

The names of control characters, the abbreviations and the corrected names that Unicode 14 lists
beside the names proper, in the form that `Milp.Text.CharacterName` reads. -/

namespace Milp.Text.CharacterName

/-- Names beside the names proper. -/
def aliases : List String := [
  ">0:0NUL;>0:3L;0SOH;>1:1TART_OF_HEADING;9TEXT;>2:2X;0END_OF_TEXT;>3:1TX;1ND_OF_TRANSMISSION;",
  ">4:1OT;1NQ;>5:3UIRY;0ACK;>6:3NOWLEDGE;1LERT;>7:0BEL;1ACKSPACE;>8:1S;0CHARACTER_TABULATION;",
  ">9:0HORIZONTAL_TABULATION;>9:1T;>9:0TAB;0END_OF_LINE;>A:1OL;>A:0LF;>A:1INE_FEED;>A:0NEW_LINE;",
  ">A:1L;0LINE_TABULATION;>B:0VERTICAL_TABULATION;>B:1T;0FF;>C:1ORM_FEED;0CARRIAGE_RETURN;>D:1R;",
  "0LOCKING-SHIFT_ONE;>E:0SHIFT_OUT;>E:1O;0LOCKING-SHIFT_ZERO;>F:0SHIFT_IN;>F:1I;",
  "0DATA_LINK_ESCAPE;>10:1LE;1C1;>11:1EVICE_CONTROL_ONE;1C2;>12:1EVICE_CONTROL_TWO;1C3;",
  ">13:1EVICE_CONTROL_THREE;1C4;>14:1EVICE_CONTROL_FOUR;0NAK;>15:1EGATIVE_ACKNOWLEDGE;0SYN;",
  ">16:3CHRONOUS_IDLE;0END_OF_TRANSMISSION_BLOCK;>17:1TB;0CAN;>18:3CEL;0END_OF_MEDIUM;>19:1OM;",
  "0SUB;>1A:3STITUTE;0ESC;>1B:3APE;0FILE_SEPARATOR;>1C:1S;>1C:0INFORMATION_SEPARATOR_FOUR;",
  "0GROUP_SEPARATOR;>1D:1S;>1D:0INFORMATION_SEPARATOR_THREE;nWO;>1E:0RECORD_SEPARATOR;>1E:1S;",
  "0INFORMATION_SEPARATOR_ONE;>1F:0UNIT_SEPARATOR;>1F:1S;0SP;>7F:0DEL;>7F:3ETE;0PAD;",
  ">80:3DING_CHARACTER;0HIGH_OCTET_PRESET;>81:1OP;0BPH;>82:1REAK_PERMITTED_HERE;0NBH;",
  ">83:1O_BREAK_HERE;0IND;>84:3EX;0NEL;>85:2XT_LINE;0SSA;>86:1TART_OF_SELECTED_AREA;",
  "0END_OF_SELECTED_AREA;>87:1SA;0CHARACTER_TABULATION_SET;>88:0HORIZONTAL_TABULATION_SET;>88:1TS;",
  "0CHARACTER_TABULATION_WITH_JUSTIFICATION;>89:0HORIZONTAL_TABULATION_WITH_JUSTIFICATION;>89:1TJ;",
  "0LINE_TABULATION_SET;>8A:0VERTICAL_TABULATION_SET;>8A:1TS;0PARTIAL_LINE_DOWN;>8B:dFORWARD;",
  ">8B:1LD;1ARTIAL_LINE_BACKWARD;>8C:dUP;>8C:1LU;0REVERSE_INDEX;>8D:8LINE_FEED;>8D:1I;",
  "0SINGLE_SHIFT_TWO;>8E:6-SHIFT-2;>8E:1S2;1INGLE_SHIFT_THREE;>8F:6-SHIFT-3;>8F:1S3;0DCS;",
  ">90:1EVICE_CONTROL_STRING;0PRIVATE_USE_ONE;>91:b-1;>91:1U1;1RIVATE_USE_TWO;>92:b-2;>92:1U2;",
  "0SET_TRANSMIT_STATE;>93:1TS;0CANCEL_CHARACTER;>94:1CH;0MESSAGE_WAITING;>95:1W;0SPA;",
  ">96:1TART_OF_GUARDED_AREA;>96:9PROTECTED_AREA;0END_OF_GUARDED_AREA;>97:7PROTECTED_AREA;>97:1PA;",
  "0SOS;>98:1TART_OF_STRING;1GC;>99:1INGLE_GRAPHIC_CHARACTER_INTRODUCER;1CI;",
  ">9A:1INGLE_CHARACTER_INTRODUCER;0CONTROL_SEQUENCE_INTRODUCER;>9B:1SI;0ST;>9C:2RING_TERMINATOR;",
  "0OPERATING_SYSTEM_COMMAND;>9D:1SC;0PM;>9E:1RIVACY_MESSAGE;0APC;>9F:2PLICATION_PROGRAM_COMMAND;",
  "0NBSP;>AD:0SHY;>1A2:0LATIN_CAPITAL_LETTER_GHA;6SMALL_LETTER_GHA;>34F:0CGJ;>61C:0ALM;",
  ">709:0SYRIAC_SUBLINEAR_COLON_SKEWED_LEFT;>CDE:0KANNADA_LETTER_LLLA;>E9D:0LAO_LETTER_FO_FON;",
  ">E9F:fAY;>EA3:bRO;>EA5:bLO;>FD0:0TIBETAN_MARK_BKA-_SHOG_GI_MGO_RGYAN;",
  ">11EC:0HANGUL_JONGSEONG_YESIEUNG-KIYEOK;qSSANGKIYEOK;hSSANGYESIEUNG;hYESIEUNG-KHIEUKH;",
  ">180B:0FVS1;32;33;0MVS;0FVS4;>200B:0ZWSP;2NJ;2J;0LRM;0RLM;>202A:0LRE;0RLE;0PDF;0LRO;0RLO;",
  "0NNBSP;>205F:0MMSP;0WJ;>2066:0LRI;0RLI;0FSI;0PDI;>2118:0WEIERSTRASS_ELLIPTIC_FUNCTION;",
  ">2448:0MICR_ON_US_SYMBOL;5DASH_SYMBOL;",
  ">2B7A:0LEFTWARDS_TRIANGLE-HEADED_ARROW_WITH_DOUBLE_VERTICAL_STROKE;",
  ">2B7C:0RIGHTWARDS_TRIANGLE-HEADED_ARROW_WITH_DOUBLE_VERTICAL_STROKE;",
  ">A015:0YI_SYLLABLE_ITERATION_MARK;>AA6E:0MYANMAR_LETTER_KHAMTI_LLA;>FE00:0VS1;22;23;24;25;26;",
  "27;28;29;210;31;32;33;34;35;36;",
  ">FE18:0PRESENTATION_FORM_FOR_VERTICAL_RIGHT_WHITE_LENTICULAR_BRACKET;>FEFF:0BOM;",
  ">FEFF:1YTE_ORDER_MARK;>FEFF:0ZWNBSP;>122D4:0CUNEIFORM_SIGN_NU11_TENU;kOVER_NU11_BUR_OVER_BUR;",
  ">16E56:0MEDEFAIDRIN_CAPITAL_LETTER_H;rNG;>16E76:cSMALL_LETTER_H;pNG;",
  ">1B001:0HENTAIGANA_LETTER_E-1;>1D0C5:0BYZANTINE_MUSICAL_SYMBOL_FTHORA_SKLIRON_CHROMA_VASIS;",
  ">E0100:0VS17;38;39;220;31;32;33;34;35;36;37;38;39;230;31;32;33;34;35;36;37;38;39;240;31;32;33;",
  "34;35;36;37;38;39;250;31;32;33;34;35;36;37;38;39;260;31;32;33;34;35;36;37;38;39;270;31;32;33;",
  "34;35;36;37;38;39;280;31;32;33;34;35;36;37;38;39;290;31;32;33;34;35;36;37;38;39;2100;41;42;43;",
  "44;45;46;47;48;49;310;41;42;43;44;45;46;47;48;49;320;41;42;43;44;45;46;47;48;49;330;41;42;43;",
  "44;45;46;47;48;49;340;41;42;43;44;45;46;47;48;49;350;41;42;43;44;45;46;47;48;49;360;41;42;43;",
  "44;45;46;47;48;49;370;41;42;43;44;45;46;47;48;49;380;41;42;43;44;45;46;47;48;49;390;41;42;43;",
  "44;45;46;47;48;49;2200;41;42;43;44;45;46;47;48;49;310;41;42;43;44;45;46;47;48;49;320;41;42;43;",
  "44;45;46;47;48;49;330;41;42;43;44;45;46;47;48;49;340;41;42;43;44;45;46;47;48;49;350;41;42;43;",
  "44;45;46;"]

end Milp.Text.CharacterName
