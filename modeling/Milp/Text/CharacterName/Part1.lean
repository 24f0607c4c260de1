set_option autoImplicit false

/-! # Names of the characters from U+0020 to U+0E06

The names that Unicode 14 gives them, in the form that `Milp.Text.CharacterName` reads. -/

namespace Milp.Text.CharacterName

/-- Names from U+0020 to U+0E06. -/
def part1 : List String := [
  ">20:0SPACE;0EXCLAMATION_MARK;0QUOTATION_MARK;0NUMBER_SIGN;0DOLLAR_SIGN;0PERCENT_SIGN;",
  "0AMPERSAND;1POSTROPHE;0LEFT_PARENTHESIS;0RIGHT_PARENTHESIS;0ASTERISK;0PLUS_SIGN;0COMMA;",
  "0HYPHEN-MINUS;0FULL_STOP;0SOLIDUS;0DIGIT_ZERO;6ONE;6TWO;7HREE;6FOUR;7IVE;6SIX;7EVEN;6EIGHT;",
  "6NINE;0COLON;0SEMICOLON;0LESS-THAN_SIGN;0EQUALS_SIGN;0GREATER-THAN_SIGN;0QUESTION_MARK;",
  "0COMMERCIAL_AT;0LATIN_CAPITAL_LETTER_A;lB;lC;lD;lE;lF;lG;lH;lI;lJ;lK;lL;lM;lN;lO;lP;lQ;lR;lS;",
  "lT;lU;lV;lW;lX;lY;lZ;1EFT_SQUARE_BRACKET;0REVERSE_SOLIDUS;1IGHT_SQUARE_BRACKET;",
  "0CIRCUMFLEX_ACCENT;0LOW_LINE;0GRAVE_ACCENT;0LATIN_SMALL_LETTER_A;jB;jC;jD;jE;jF;jG;jH;jI;jJ;jK;",
  "jL;jM;jN;jO;jP;jQ;jR;jS;jT;jU;jV;jW;jX;jY;jZ;1EFT_CURLY_BRACKET;0VERTICAL_LINE;",
  "0RIGHT_CURLY_BRACKET;0TILDE;>A0:0NO-BREAK_SPACE;0INVERTED_EXCLAMATION_MARK;0CENT_SIGN;",
  "0POUND_SIGN;0CURRENCY_SIGN;0YEN_SIGN;0BROKEN_BAR;0SECTION_SIGN;0DIAERESIS;0COPYRIGHT_SIGN;",
  "0FEMININE_ORDINAL_INDICATOR;0LEFT-POINTING_DOUBLE_ANGLE_QUOTATION_MARK;0NOT_SIGN;0SOFT_HYPHEN;",
  "0REGISTERED_SIGN;0MACRON;0DEGREE_SIGN;0PLUS-MINUS_SIGN;0SUPERSCRIPT_TWO;dHREE;0ACUTE_ACCENT;",
  "0MICRO_SIGN;0PILCROW_SIGN;0MIDDLE_DOT;0CEDILLA;0SUPERSCRIPT_ONE;0MASCULINE_ORDINAL_INDICATOR;",
  "0RIGHT-POINTING_DOUBLE_ANGLE_QUOTATION_MARK;0VULGAR_FRACTION_ONE_QUARTER;kHALF;gTHREE_QUARTERS;",
  "0INVERTED_QUESTION_MARK;0LATIN_CAPITAL_LETTER_A_WITH_GRAVE;sACUTE;sCIRCUMFLEX;sTILDE;",
  "sDIAERESIS;sRING_ABOVE;mE;lC_WITH_CEDILLA;lE_WITH_GRAVE;sACUTE;sCIRCUMFLEX;sDIAERESIS;",
  "lI_WITH_GRAVE;sACUTE;sCIRCUMFLEX;sDIAERESIS;lETH;lN_WITH_TILDE;lO_WITH_GRAVE;sACUTE;",
  "sCIRCUMFLEX;sTILDE;sDIAERESIS;0MULTIPLICATION_SIGN;0LATIN_CAPITAL_LETTER_O_WITH_STROKE;",
  "lU_WITH_GRAVE;sACUTE;sCIRCUMFLEX;sDIAERESIS;lY_WITH_ACUTE;lTHORN;6SMALL_LETTER_SHARP_S;",
  "jA_WITH_GRAVE;qACUTE;qCIRCUMFLEX;qTILDE;qDIAERESIS;qRING_ABOVE;kE;jC_WITH_CEDILLA;",
  "jE_WITH_GRAVE;qACUTE;qCIRCUMFLEX;qDIAERESIS;jI_WITH_GRAVE;qACUTE;qCIRCUMFLEX;qDIAERESIS;jETH;",
  "jN_WITH_TILDE;jO_WITH_GRAVE;qACUTE;qCIRCUMFLEX;qTILDE;qDIAERESIS;0DIVISION_SIGN;",
  "0LATIN_SMALL_LETTER_O_WITH_STROKE;jU_WITH_GRAVE;qACUTE;qCIRCUMFLEX;qDIAERESIS;jY_WITH_ACUTE;",
  "jTHORN;jY_WITH_DIAERESIS;6CAPITAL_LETTER_A_WITH_MACRON;6SMALL_LETTER_A_WITH_MACRON;",
  "6CAPITAL_LETTER_A_WITH_BREVE;6SMALL_LETTER_A_WITH_BREVE;6CAPITAL_LETTER_A_WITH_OGONEK;",
  "6SMALL_LETTER_A_WITH_OGONEK;6CAPITAL_LETTER_C_WITH_ACUTE;6SMALL_LETTER_C_WITH_ACUTE;",
  "6CAPITAL_LETTER_C_WITH_CIRCUMFLEX;6SMALL_LETTER_C_WITH_CIRCUMFLEX;",
  "6CAPITAL_LETTER_C_WITH_DOT_ABOVE;6SMALL_LETTER_C_WITH_DOT_ABOVE;6CAPITAL_LETTER_C_WITH_CARON;",
  "6SMALL_LETTER_C_WITH_CARON;6CAPITAL_LETTER_D_WITH_CARON;6SMALL_LETTER_D_WITH_CARON;",
  "6CAPITAL_LETTER_D_WITH_STROKE;6SMALL_LETTER_D_WITH_STROKE;6CAPITAL_LETTER_E_WITH_MACRON;",
  "6SMALL_LETTER_E_WITH_MACRON;6CAPITAL_LETTER_E_WITH_BREVE;6SMALL_LETTER_E_WITH_BREVE;",
  "6CAPITAL_LETTER_E_WITH_DOT_ABOVE;6SMALL_LETTER_E_WITH_DOT_ABOVE;6CAPITAL_LETTER_E_WITH_OGONEK;",
  "6SMALL_LETTER_E_WITH_OGONEK;6CAPITAL_LETTER_E_WITH_CARON;6SMALL_LETTER_E_WITH_CARON;",
  "6CAPITAL_LETTER_G_WITH_CIRCUMFLEX;6SMALL_LETTER_G_WITH_CIRCUMFLEX;6CAPITAL_LETTER_G_WITH_BREVE;",
  "6SMALL_LETTER_G_WITH_BREVE;6CAPITAL_LETTER_G_WITH_DOT_ABOVE;6SMALL_LETTER_G_WITH_DOT_ABOVE;",
  "6CAPITAL_LETTER_G_WITH_CEDILLA;6SMALL_LETTER_G_WITH_CEDILLA;6CAPITAL_LETTER_H_WITH_CIRCUMFLEX;",
  "6SMALL_LETTER_H_WITH_CIRCUMFLEX;6CAPITAL_LETTER_H_WITH_STROKE;6SMALL_LETTER_H_WITH_STROKE;",
  "6CAPITAL_LETTER_I_WITH_TILDE;6SMALL_LETTER_I_WITH_TILDE;6CAPITAL_LETTER_I_WITH_MACRON;",
  "6SMALL_LETTER_I_WITH_MACRON;6CAPITAL_LETTER_I_WITH_BREVE;6SMALL_LETTER_I_WITH_BREVE;",
  "6CAPITAL_LETTER_I_WITH_OGONEK;6SMALL_LETTER_I_WITH_OGONEK;6CAPITAL_LETTER_I_WITH_DOT_ABOVE;",
  "6SMALL_LETTER_DOTLESS_I;6CAPITAL_LIGATURE_IJ;6SMALL_LIGATURE_IJ;",
  "6CAPITAL_LETTER_J_WITH_CIRCUMFLEX;6SMALL_LETTER_J_WITH_CIRCUMFLEX;",
  "6CAPITAL_LETTER_K_WITH_CEDILLA;6SMALL_LETTER_K_WITH_CEDILLA;kRA;6CAPITAL_LETTER_L_WITH_ACUTE;",
  "6SMALL_LETTER_L_WITH_ACUTE;6CAPITAL_LETTER_L_WITH_CEDILLA;6SMALL_LETTER_L_WITH_CEDILLA;",
  "6CAPITAL_LETTER_L_WITH_CARON;6SMALL_LETTER_L_WITH_CARON;6CAPITAL_LETTER_L_WITH_MIDDLE_DOT;",
  "6SMALL_LETTER_L_WITH_MIDDLE_DOT;6CAPITAL_LETTER_L_WITH_STROKE;6SMALL_LETTER_L_WITH_STROKE;",
  "6CAPITAL_LETTER_N_WITH_ACUTE;6SMALL_LETTER_N_WITH_ACUTE;6CAPITAL_LETTER_N_WITH_CEDILLA;",
  "6SMALL_LETTER_N_WITH_CEDILLA;6CAPITAL_LETTER_N_WITH_CARON;6SMALL_LETTER_N_WITH_CARON;",
  "lPRECEDED_BY_APOSTROPHE;6CAPITAL_LETTER_ENG;6SMALL_LETTER_ENG;6CAPITAL_LETTER_O_WITH_MACRON;",
  "6SMALL_LETTER_O_WITH_MACRON;6CAPITAL_LETTER_O_WITH_BREVE;6SMALL_LETTER_O_WITH_BREVE;",
  "6CAPITAL_LETTER_O_WITH_DOUBLE_ACUTE;6SMALL_LETTER_O_WITH_DOUBLE_ACUTE;6CAPITAL_LIGATURE_OE;",
  "6SMALL_LIGATURE_OE;6CAPITAL_LETTER_R_WITH_ACUTE;6SMALL_LETTER_R_WITH_ACUTE;",
  "6CAPITAL_LETTER_R_WITH_CEDILLA;6SMALL_LETTER_R_WITH_CEDILLA;6CAPITAL_LETTER_R_WITH_CARON;",
  "6SMALL_LETTER_R_WITH_CARON;6CAPITAL_LETTER_S_WITH_ACUTE;6SMALL_LETTER_S_WITH_ACUTE;",
  "6CAPITAL_LETTER_S_WITH_CIRCUMFLEX;6SMALL_LETTER_S_WITH_CIRCUMFLEX;",
  "6CAPITAL_LETTER_S_WITH_CEDILLA;6SMALL_LETTER_S_WITH_CEDILLA;6CAPITAL_LETTER_S_WITH_CARON;",
  "6SMALL_LETTER_S_WITH_CARON;6CAPITAL_LETTER_T_WITH_CEDILLA;6SMALL_LETTER_T_WITH_CEDILLA;",
  "6CAPITAL_LETTER_T_WITH_CARON;6SMALL_LETTER_T_WITH_CARON;6CAPITAL_LETTER_T_WITH_STROKE;",
  "6SMALL_LETTER_T_WITH_STROKE;6CAPITAL_LETTER_U_WITH_TILDE;6SMALL_LETTER_U_WITH_TILDE;",
  "6CAPITAL_LETTER_U_WITH_MACRON;6SMALL_LETTER_U_WITH_MACRON;6CAPITAL_LETTER_U_WITH_BREVE;",
  "6SMALL_LETTER_U_WITH_BREVE;6CAPITAL_LETTER_U_WITH_RING_ABOVE;6SMALL_LETTER_U_WITH_RING_ABOVE;",
  "6CAPITAL_LETTER_U_WITH_DOUBLE_ACUTE;6SMALL_LETTER_U_WITH_DOUBLE_ACUTE;",
  "6CAPITAL_LETTER_U_WITH_OGONEK;6SMALL_LETTER_U_WITH_OGONEK;6CAPITAL_LETTER_W_WITH_CIRCUMFLEX;",
  "6SMALL_LETTER_W_WITH_CIRCUMFLEX;6CAPITAL_LETTER_Y_WITH_CIRCUMFLEX;",
  "6SMALL_LETTER_Y_WITH_CIRCUMFLEX;6CAPITAL_LETTER_Y_WITH_DIAERESIS;lZ_WITH_ACUTE;",
  "6SMALL_LETTER_Z_WITH_ACUTE;6CAPITAL_LETTER_Z_WITH_DOT_ABOVE;6SMALL_LETTER_Z_WITH_DOT_ABOVE;",
  "6CAPITAL_LETTER_Z_WITH_CARON;6SMALL_LETTER_Z_WITH_CARON;jLONG_S;jB_WITH_STROKE;",
  "6CAPITAL_LETTER_B_WITH_HOOK;sTOPBAR;6SMALL_LETTER_B_WITH_TOPBAR;6CAPITAL_LETTER_TONE_SIX;",
  "6SMALL_LETTER_TONE_SIX;6CAPITAL_LETTER_OPEN_O;lC_WITH_HOOK;6SMALL_LETTER_C_WITH_HOOK;",
  "6CAPITAL_LETTER_AFRICAN_D;lD_WITH_HOOK;sTOPBAR;6SMALL_LETTER_D_WITH_TOPBAR;jTURNED_DELTA;",
  "6CAPITAL_LETTER_REVERSED_E;lSCHWA;lOPEN_E;lF_WITH_HOOK;6SMALL_LETTER_F_WITH_HOOK;",
  "6CAPITAL_LETTER_G_WITH_HOOK;mAMMA;6SMALL_LETTER_HV;6CAPITAL_LETTER_IOTA;m_WITH_STROKE;",
  "lK_WITH_HOOK;6SMALL_LETTER_K_WITH_HOOK;jL_WITH_BAR;kAMBDA_WITH_STROKE;6CAPITAL_LETTER_TURNED_M;",
  "lN_WITH_LEFT_HOOK;6SMALL_LETTER_N_WITH_LONG_RIGHT_LEG;6CAPITAL_LETTER_O_WITH_MIDDLE_TILDE;",
  "sHORN;6SMALL_LETTER_O_WITH_HORN;6CAPITAL_LETTER_OI;6SMALL_LETTER_OI;",
  "6CAPITAL_LETTER_P_WITH_HOOK;6SMALL_LETTER_P_WITH_HOOK;6LETTER_YR;6CAPITAL_LETTER_TONE_TWO;",
  "6SMALL_LETTER_TONE_TWO;6CAPITAL_LETTER_ESH;6LETTER_REVERSED_ESH_LOOP;",
  "6SMALL_LETTER_T_WITH_PALATAL_HOOK;6CAPITAL_LETTER_T_WITH_HOOK;6SMALL_LETTER_T_WITH_HOOK;",
  "6CAPITAL_LETTER_T_WITH_RETROFLEX_HOOK;lU_WITH_HORN;6SMALL_LETTER_U_WITH_HORN;",
  "6CAPITAL_LETTER_UPSILON;lV_WITH_HOOK;lY_WITH_HOOK;6SMALL_LETTER_Y_WITH_HOOK;",
  "6CAPITAL_LETTER_Z_WITH_STROKE;6SMALL_LETTER_Z_WITH_STROKE;6CAPITAL_LETTER_EZH;o_REVERSED;",
  "6SMALL_LETTER_EZH_REVERSED;nWITH_TAIL;6LETTER_TWO_WITH_STROKE;6CAPITAL_LETTER_TONE_FIVE;",
  "6SMALL_LETTER_TONE_FIVE;6LETTER_INVERTED_GLOTTAL_STOP_WITH_STROKE;dWYNN;dDENTAL_CLICK;",
  "dLATERAL_CLICK;dALVEOLAR_CLICK;dRETROFLEX_CLICK;6CAPITAL_LETTER_DZ_WITH_CARON;",
  "m_WITH_SMALL_LETTER_Z_WITH_CARON;6SMALL_LETTER_DZ_WITH_CARON;6CAPITAL_LETTER_LJ;",
  "m_WITH_SMALL_LETTER_J;6SMALL_LETTER_LJ;6CAPITAL_LETTER_NJ;m_WITH_SMALL_LETTER_J;",
  "6SMALL_LETTER_NJ;6CAPITAL_LETTER_A_WITH_CARON;6SMALL_LETTER_A_WITH_CARON;",
  "6CAPITAL_LETTER_I_WITH_CARON;6SMALL_LETTER_I_WITH_CARON;6CAPITAL_LETTER_O_WITH_CARON;",
  "6SMALL_LETTER_O_WITH_CARON;6CAPITAL_LETTER_U_WITH_CARON;6SMALL_LETTER_U_WITH_CARON;",
  "6CAPITAL_LETTER_U_WITH_DIAERESIS_AND_MACRON;6SMALL_LETTER_U_WITH_DIAERESIS_AND_MACRON;",
  "6CAPITAL_LETTER_U_WITH_DIAERESIS_AND_ACUTE;6SMALL_LETTER_U_WITH_DIAERESIS_AND_ACUTE;",
  "6CAPITAL_LETTER_U_WITH_DIAERESIS_AND_CARON;6SMALL_LETTER_U_WITH_DIAERESIS_AND_CARON;",
  "6CAPITAL_LETTER_U_WITH_DIAERESIS_AND_GRAVE;6SMALL_LETTER_U_WITH_DIAERESIS_AND_GRAVE;jTURNED_E;",
  "6CAPITAL_LETTER_A_WITH_DIAERESIS_AND_MACRON;6SMALL_LETTER_A_WITH_DIAERESIS_AND_MACRON;",
  "6CAPITAL_LETTER_A_WITH_DOT_ABOVE_AND_MACRON;6SMALL_LETTER_A_WITH_DOT_ABOVE_AND_MACRON;",
  "6CAPITAL_LETTER_AE_WITH_MACRON;6SMALL_LETTER_AE_WITH_MACRON;6CAPITAL_LETTER_G_WITH_STROKE;",
  "6SMALL_LETTER_G_WITH_STROKE;6CAPITAL_LETTER_G_WITH_CARON;6SMALL_LETTER_G_WITH_CARON;",
  "6CAPITAL_LETTER_K_WITH_CARON;6SMALL_LETTER_K_WITH_CARON;6CAPITAL_LETTER_O_WITH_OGONEK;",
  "6SMALL_LETTER_O_WITH_OGONEK;6CAPITAL_LETTER_O_WITH_OGONEK_AND_MACRON;",
  "6SMALL_LETTER_O_WITH_OGONEK_AND_MACRON;6CAPITAL_LETTER_EZH_WITH_CARON;",
  "6SMALL_LETTER_EZH_WITH_CARON;jJ_WITH_CARON;6CAPITAL_LETTER_DZ;m_WITH_SMALL_LETTER_Z;",
  "6SMALL_LETTER_DZ;6CAPITAL_LETTER_G_WITH_ACUTE;6SMALL_LETTER_G_WITH_ACUTE;6CAPITAL_LETTER_HWAIR;",
  "lWYNN;lN_WITH_GRAVE;6SMALL_LETTER_N_WITH_GRAVE;6CAPITAL_LETTER_A_WITH_RING_ABOVE_AND_ACUTE;",
  "6SMALL_LETTER_A_WITH_RING_ABOVE_AND_ACUTE;6CAPITAL_LETTER_AE_WITH_ACUTE;",
  "6SMALL_LETTER_AE_WITH_ACUTE;6CAPITAL_LETTER_O_WITH_STROKE_AND_ACUTE;",
  "6SMALL_LETTER_O_WITH_STROKE_AND_ACUTE;6CAPITAL_LETTER_A_WITH_DOUBLE_GRAVE;",
  "6SMALL_LETTER_A_WITH_DOUBLE_GRAVE;6CAPITAL_LETTER_A_WITH_INVERTED_BREVE;",
  "6SMALL_LETTER_A_WITH_INVERTED_BREVE;6CAPITAL_LETTER_E_WITH_DOUBLE_GRAVE;",
  "6SMALL_LETTER_E_WITH_DOUBLE_GRAVE;6CAPITAL_LETTER_E_WITH_INVERTED_BREVE;",
  "6SMALL_LETTER_E_WITH_INVERTED_BREVE;6CAPITAL_LETTER_I_WITH_DOUBLE_GRAVE;",
  "6SMALL_LETTER_I_WITH_DOUBLE_GRAVE;6CAPITAL_LETTER_I_WITH_INVERTED_BREVE;",
  "6SMALL_LETTER_I_WITH_INVERTED_BREVE;6CAPITAL_LETTER_O_WITH_DOUBLE_GRAVE;",
  "6SMALL_LETTER_O_WITH_DOUBLE_GRAVE;6CAPITAL_LETTER_O_WITH_INVERTED_BREVE;",
  "6SMALL_LETTER_O_WITH_INVERTED_BREVE;6CAPITAL_LETTER_R_WITH_DOUBLE_GRAVE;",
  "6SMALL_LETTER_R_WITH_DOUBLE_GRAVE;6CAPITAL_LETTER_R_WITH_INVERTED_BREVE;",
  "6SMALL_LETTER_R_WITH_INVERTED_BREVE;6CAPITAL_LETTER_U_WITH_DOUBLE_GRAVE;",
  "6SMALL_LETTER_U_WITH_DOUBLE_GRAVE;6CAPITAL_LETTER_U_WITH_INVERTED_BREVE;",
  "6SMALL_LETTER_U_WITH_INVERTED_BREVE;6CAPITAL_LETTER_S_WITH_COMMA_BELOW;",
  "6SMALL_LETTER_S_WITH_COMMA_BELOW;6CAPITAL_LETTER_T_WITH_COMMA_BELOW;",
  "6SMALL_LETTER_T_WITH_COMMA_BELOW;6CAPITAL_LETTER_YOGH;6SMALL_LETTER_YOGH;",
  "6CAPITAL_LETTER_H_WITH_CARON;6SMALL_LETTER_H_WITH_CARON;6CAPITAL_LETTER_N_WITH_LONG_RIGHT_LEG;",
  "6SMALL_LETTER_D_WITH_CURL;6CAPITAL_LETTER_OU;6SMALL_LETTER_OU;6CAPITAL_LETTER_Z_WITH_HOOK;",
  "6SMALL_LETTER_Z_WITH_HOOK;6CAPITAL_LETTER_A_WITH_DOT_ABOVE;6SMALL_LETTER_A_WITH_DOT_ABOVE;",
  "6CAPITAL_LETTER_E_WITH_CEDILLA;6SMALL_LETTER_E_WITH_CEDILLA;",
  "6CAPITAL_LETTER_O_WITH_DIAERESIS_AND_MACRON;6SMALL_LETTER_O_WITH_DIAERESIS_AND_MACRON;",
  "6CAPITAL_LETTER_O_WITH_TILDE_AND_MACRON;6SMALL_LETTER_O_WITH_TILDE_AND_MACRON;",
  "6CAPITAL_LETTER_O_WITH_DOT_ABOVE;6SMALL_LETTER_O_WITH_DOT_ABOVE;",
  "6CAPITAL_LETTER_O_WITH_DOT_ABOVE_AND_MACRON;6SMALL_LETTER_O_WITH_DOT_ABOVE_AND_MACRON;",
  "6CAPITAL_LETTER_Y_WITH_MACRON;6SMALL_LETTER_Y_WITH_MACRON;jL_WITH_CURL;jN_WITH_CURL;",
  "jT_WITH_CURL;jDOTLESS_J;kB_DIGRAPH;jQP_DIGRAPH;6CAPITAL_LETTER_A_WITH_STROKE;lC_WITH_STROKE;",
  "6SMALL_LETTER_C_WITH_STROKE;6CAPITAL_LETTER_L_WITH_BAR;lT_WITH_DIAGONAL_STROKE;",
  "6SMALL_LETTER_S_WITH_SWASH_TAIL;jZ_WITH_SWASH_TAIL;6CAPITAL_LETTER_GLOTTAL_STOP;",
  "6SMALL_LETTER_GLOTTAL_STOP;6CAPITAL_LETTER_B_WITH_STROKE;lU_BAR;lTURNED_V;lE_WITH_STROKE;",
  "6SMALL_LETTER_E_WITH_STROKE;6CAPITAL_LETTER_J_WITH_STROKE;6SMALL_LETTER_J_WITH_STROKE;",
  "6CAPITAL_LETTER_SMALL_Q_WITH_HOOK_TAIL;6SMALL_LETTER_Q_WITH_HOOK_TAIL;",
  "6CAPITAL_LETTER_R_WITH_STROKE;6SMALL_LETTER_R_WITH_STROKE;6CAPITAL_LETTER_Y_WITH_STROKE;",
  "6SMALL_LETTER_Y_WITH_STROKE;jTURNED_A;jALPHA;jTURNED_ALPHA;jB_WITH_HOOK;jOPEN_O;jC_WITH_CURL;",
  "jD_WITH_TAIL;qHOOK;jREVERSED_E;jSCHWA;o_WITH_HOOK;jOPEN_E;jREVERSED_OPEN_E;y_WITH_HOOK;",
  "jCLOSED_REVERSED_OPEN_E;jDOTLESS_J_WITH_STROKE;jG_WITH_HOOK;jSCRIPT_G;6LETTER_SMALL_CAPITAL_G;",
  "6SMALL_LETTER_GAMMA;jRAMS_HORN;jTURNED_H;jH_WITH_HOOK;kENG_WITH_HOOK;jI_WITH_STROKE;kOTA;",
  "6LETTER_SMALL_CAPITAL_I;6SMALL_LETTER_L_WITH_MIDDLE_TILDE;qBELT;qRETROFLEX_HOOK;kEZH;jTURNED_M;",
  "r_WITH_LONG_LEG;jM_WITH_HOOK;jN_WITH_LEFT_HOOK;qRETROFLEX_HOOK;6LETTER_SMALL_CAPITAL_N;",
  "6SMALL_LETTER_BARRED_O;6LETTER_SMALL_CAPITAL_OE;6SMALL_LETTER_CLOSED_OMEGA;jPHI;jTURNED_R;",
  "r_WITH_LONG_LEG;xHOOK;jR_WITH_LONG_LEG;qTAIL;qFISHHOOK;kEVERSED_R_WITH_FISHHOOK;",
  "6LETTER_SMALL_CAPITAL_R;rINVERTED_R;6SMALL_LETTER_S_WITH_HOOK;jESH;",
  "jDOTLESS_J_WITH_STROKE_AND_HOOK;jSQUAT_REVERSED_ESH;jESH_WITH_CURL;jTURNED_T;",
  "k_WITH_RETROFLEX_HOOK;jU_BAR;kPSILON;jV_WITH_HOOK;jTURNED_V;qW;qY;6LETTER_SMALL_CAPITAL_Y;",
  "6SMALL_LETTER_Z_WITH_RETROFLEX_HOOK;qCURL;jEZH;m_WITH_CURL;6LETTER_GLOTTAL_STOP;",
  "dPHARYNGEAL_VOICED_FRICATIVE;dINVERTED_GLOTTAL_STOP;dSTRETCHED_C;dBILABIAL_CLICK;",
  "dSMALL_CAPITAL_B;6SMALL_LETTER_CLOSED_OPEN_E;6LETTER_SMALL_CAPITAL_G_WITH_HOOK;rH;",
  "6SMALL_LETTER_J_WITH_CROSSED-TAIL;jTURNED_K;6LETTER_SMALL_CAPITAL_L;6SMALL_LETTER_Q_WITH_HOOK;",
  "6LETTER_GLOTTAL_STOP_WITH_STROKE;dREVERSED_GLOTTAL_STOP_WITH_STROKE;6SMALL_LETTER_DZ_DIGRAPH;",
  "kEZH_DIGRAPH;kZ_DIGRAPH_WITH_CURL;jTS_DIGRAPH;kESH_DIGRAPH;kC_DIGRAPH_WITH_CURL;jFENG_DIGRAPH;",
  "jLS_DIGRAPH;kZ_DIGRAPH;6LETTER_BILABIAL_PERCUSSIVE;fDENTAL_PERCUSSIVE;",
  "6SMALL_LETTER_TURNED_H_WITH_FISHHOOK;F_AND_TAIL;0MODIFIER_LETTER_SMALL_H;n_WITH_HOOK;mJ;mR;",
  "mTURNED_R;u_WITH_HOOK;mCAPITAL_INVERTED_R;mW;mY;gPRIME;gDOUBLE_PRIME;gTURNED_COMMA;gAPOSTROPHE;",
  "gREVERSED_COMMA;hIGHT_HALF_RING;gLEFT_HALF_RING;gGLOTTAL_STOP;gREVERSED_GLOTTAL_STOP;",
  "gLEFT_ARROWHEAD;gRIGHT_ARROWHEAD;gUP_ARROWHEAD;gDOWN_ARROWHEAD;gCIRCUMFLEX_ACCENT;0CARON;",
  "0MODIFIER_LETTER_VERTICAL_LINE;gMACRON;gACUTE_ACCENT;gGRAVE_ACCENT;gLOW_VERTICAL_LINE;kMACRON;",
  "kGRAVE_ACCENT;kACUTE_ACCENT;gTRIANGULAR_COLON;gHALF_TRIANGULAR_COLON;gCENTRED_RIGHT_HALF_RING;",
  "oLEFT_HALF_RING;gUP_TACK;gDOWN_TACK;gPLUS_SIGN;gMINUS_SIGN;0BREVE;0DOT_ABOVE;0RING_ABOVE;",
  "0OGONEK;0SMALL_TILDE;0DOUBLE_ACUTE_ACCENT;0MODIFIER_LETTER_RHOTIC_HOOK;gCROSS_ACCENT;",
  "gSMALL_GAMMA;mL;mS;mX;mREVERSED_GLOTTAL_STOP;gEXTRA-HIGH_TONE_BAR;gHIGH_TONE_BAR;gMID_TONE_BAR;",
  "gLOW_TONE_BAR;gEXTRA-LOW_TONE_BAR;gYIN_DEPARTING_TONE_MARK;hANG_DEPARTING_TONE_MARK;gVOICING;",
  "gUNASPIRATED;gDOUBLE_APOSTROPHE;gLOW_DOWN_ARROWHEAD;kUP_ARROWHEAD;kLEFT_ARROWHEAD;",
  "kRIGHT_ARROWHEAD;mNG;gMIDDLE_GRAVE_ACCENT;nDOUBLE_GRAVE_ACCENT;uACUTE_ACCENT;gLOW_TILDE;",
  "gRAISED_COLON;gBEGIN_HIGH_TONE;gEND_HIGH_TONE;gBEGIN_LOW_TONE;gEND_LOW_TONE;gSHELF;gOPEN_SHELF;",
  "gLOW_LEFT_ARROW;0COMBINING_GRAVE_ACCENT;aACUTE_ACCENT;aCIRCUMFLEX_ACCENT;aTILDE;aMACRON;",
  "aOVERLINE;aBREVE;aDOT_ABOVE;bIAERESIS;aHOOK_ABOVE;aRING_ABOVE;aDOUBLE_ACUTE_ACCENT;aCARON;",
  "aVERTICAL_LINE_ABOVE;aDOUBLE_VERTICAL_LINE_ABOVE;hGRAVE_ACCENT;aCANDRABINDU;aINVERTED_BREVE;",
  "aTURNED_COMMA_ABOVE;aCOMMA_ABOVE;aREVERSED_COMMA_ABOVE;aCOMMA_ABOVE_RIGHT;aGRAVE_ACCENT_BELOW;",
  "aACUTE_ACCENT_BELOW;aLEFT_TACK_BELOW;aRIGHT_TACK_BELOW;aLEFT_ANGLE_ABOVE;aHORN;",
  "aLEFT_HALF_RING_BELOW;aUP_TACK_BELOW;aDOWN_TACK_BELOW;aPLUS_SIGN_BELOW;aMINUS_SIGN_BELOW;",
  "aPALATALIZED_HOOK_BELOW;aRETROFLEX_HOOK_BELOW;aDOT_BELOW;bIAERESIS_BELOW;aRING_BELOW;",
  "aCOMMA_BELOW;bEDILLA;aOGONEK;aVERTICAL_LINE_BELOW;aBRIDGE_BELOW;aINVERTED_DOUBLE_ARCH_BELOW;",
  "aCARON_BELOW;bIRCUMFLEX_ACCENT_BELOW;aBREVE_BELOW;aINVERTED_BREVE_BELOW;aTILDE_BELOW;",
  "aMACRON_BELOW;aLOW_LINE;aDOUBLE_LOW_LINE;aTILDE_OVERLAY;aSHORT_STROKE_OVERLAY;",
  "aLONG_STROKE_OVERLAY;aSHORT_SOLIDUS_OVERLAY;aLONG_SOLIDUS_OVERLAY;aRIGHT_HALF_RING_BELOW;",
  "aINVERTED_BRIDGE_BELOW;aSQUARE_BELOW;bEAGULL_BELOW;aX_ABOVE;aVERTICAL_TILDE;aDOUBLE_OVERLINE;",
  "aGRAVE_TONE_MARK;aACUTE_TONE_MARK;aGREEK_PERISPOMENI;gKORONIS;gDIALYTIKA_TONOS;gYPOGEGRAMMENI;",
  "aBRIDGE_ABOVE;aEQUALS_SIGN_BELOW;aDOUBLE_VERTICAL_LINE_BELOW;aLEFT_ANGLE_BELOW;",
  "aNOT_TILDE_ABOVE;aHOMOTHETIC_ABOVE;aALMOST_EQUAL_TO_ABOVE;aLEFT_RIGHT_ARROW_BELOW;",
  "aUPWARDS_ARROW_BELOW;aGRAPHEME_JOINER;aRIGHT_ARROWHEAD_ABOVE;aLEFT_HALF_RING_ABOVE;aFERMATA;",
  "aX_BELOW;aLEFT_ARROWHEAD_BELOW;aRIGHT_ARROWHEAD_BELOW;qAND_UP_ARROWHEAD_BELOW;gHALF_RING_ABOVE;",
  "aDOT_ABOVE_RIGHT;aASTERISK_BELOW;aDOUBLE_RING_BELOW;aZIGZAG_ABOVE;aDOUBLE_BREVE_BELOW;m;",
  "hMACRON;n_BELOW;hTILDE;hINVERTED_BREVE;hRIGHTWARDS_ARROW_BELOW;aLATIN_SMALL_LETTER_A;tE;tI;tO;",
  "tU;tC;tD;tH;tM;tR;tT;tV;tX;0GREEK_CAPITAL_LETTER_HETA;6SMALL_LETTER_HETA;",
  "6CAPITAL_LETTER_ARCHAIC_SAMPI;6SMALL_LETTER_ARCHAIC_SAMPI;6NUMERAL_SIGN;6LOWER_NUMERAL_SIGN;",
  "6CAPITAL_LETTER_PAMPHYLIAN_DIGAMMA;6SMALL_LETTER_PAMPHYLIAN_DIGAMMA;>37A:6YPOGEGRAMMENI;",
  "6SMALL_REVERSED_LUNATE_SIGMA_SYMBOL;cDOTTED_LUNATE_SIGMA_SYMBOL;",
  "cREVERSED_DOTTED_LUNATE_SIGMA_SYMBOL;6QUESTION_MARK;6CAPITAL_LETTER_YOT;>384:6TONOS;",
  "6DIALYTIKA_TONOS;6CAPITAL_LETTER_ALPHA_WITH_TONOS;6ANO_TELEIA;",
  "6CAPITAL_LETTER_EPSILON_WITH_TONOS;mTA_WITH_TONOS;lIOTA_WITH_TONOS;>38C:lOMICRON_WITH_TONOS;",
  ">38E:lUPSILON_WITH_TONOS;lOMEGA_WITH_TONOS;6SMALL_LETTER_IOTA_WITH_DIALYTIKA_AND_TONOS;",
  "6CAPITAL_LETTER_ALPHA;lBETA;lGAMMA;lDELTA;lEPSILON;lZETA;lETA;lTHETA;lIOTA;lKAPPA;lLAMDA;lMU;",
  "lNU;lXI;lOMICRON;lPI;lRHO;>3A3:lSIGMA;lTAU;lUPSILON;lPHI;lCHI;lPSI;lOMEGA;lIOTA_WITH_DIALYTIKA;",
  "lUPSILON_WITH_DIALYTIKA;6SMALL_LETTER_ALPHA_WITH_TONOS;jEPSILON_WITH_TONOS;kTA_WITH_TONOS;",
  "jIOTA_WITH_TONOS;jUPSILON_WITH_DIALYTIKA_AND_TONOS;jALPHA;jBETA;jGAMMA;jDELTA;jEPSILON;jZETA;",
  "jETA;jTHETA;jIOTA;jKAPPA;jLAMDA;jMU;jNU;jXI;jOMICRON;jPI;jRHO;jFINAL_SIGMA;jSIGMA;jTAU;",
  "jUPSILON;jPHI;jCHI;jPSI;jOMEGA;jIOTA_WITH_DIALYTIKA;jUPSILON_WITH_DIALYTIKA;",
  "jOMICRON_WITH_TONOS;jUPSILON_WITH_TONOS;jOMEGA_WITH_TONOS;6CAPITAL_KAI_SYMBOL;6BETA_SYMBOL;",
  "6THETA_SYMBOL;6UPSILON_WITH_HOOK_SYMBOL;jACUTE_AND_HOOK_SYMBOL;jDIAERESIS_AND_HOOK_SYMBOL;",
  "6PHI_SYMBOL;7I_SYMBOL;6KAI_SYMBOL;6LETTER_ARCHAIC_KOPPA;6SMALL_LETTER_ARCHAIC_KOPPA;",
  "6LETTER_STIGMA;6SMALL_LETTER_STIGMA;6LETTER_DIGAMMA;6SMALL_LETTER_DIGAMMA;6LETTER_KOPPA;",
  "6SMALL_LETTER_KOPPA;6LETTER_SAMPI;6SMALL_LETTER_SAMPI;0COPTIC_CAPITAL_LETTER_SHEI;",
  "7SMALL_LETTER_SHEI;7CAPITAL_LETTER_FEI;7SMALL_LETTER_FEI;7CAPITAL_LETTER_KHEI;",
  "7SMALL_LETTER_KHEI;7CAPITAL_LETTER_HORI;7SMALL_LETTER_HORI;7CAPITAL_LETTER_GANGIA;",
  "7SMALL_LETTER_GANGIA;7CAPITAL_LETTER_SHIMA;7SMALL_LETTER_SHIMA;7CAPITAL_LETTER_DEI;",
  "7SMALL_LETTER_DEI;0GREEK_KAPPA_SYMBOL;6RHO_SYMBOL;6LUNATE_SIGMA_SYMBOL;7ETTER_YOT;",
  "6CAPITAL_THETA_SYMBOL;6LUNATE_EPSILON_SYMBOL;6REVERSED_LUNATE_EPSILON_SYMBOL;",
  "6CAPITAL_LETTER_SHO;6SMALL_LETTER_SHO;6CAPITAL_LUNATE_SIGMA_SYMBOL;fETTER_SAN;",
  "6SMALL_LETTER_SAN;6RHO_WITH_STROKE_SYMBOL;6CAPITAL_REVERSED_LUNATE_SIGMA_SYMBOL;",
  "eDOTTED_LUNATE_SIGMA_SYMBOL;eREVERSED_DOTTED_LUNATE_SIGMA_SYMBOL;",
  "0CYRILLIC_CAPITAL_LETTER_IE_WITH_GRAVE;pO;oDJE;oGJE;oUKRAINIAN_IE;oDZE;",
  "oBYELORUSSIAN-UKRAINIAN_I;oYI;oJE;oLJE;oNJE;oTSHE;oKJE;oI_WITH_GRAVE;oSHORT_U;oDZHE;oA;oBE;oVE;",
  "oGHE;oDE;oIE;oZHE;pE;oI;oSHORT_I;oKA;oEL;pM;pN;oO;oPE;oER;pS;oTE;oU;oEF;oHA;oTSE;oCHE;oSHA;",
  "qCHA;oHARD_SIGN;oYERU;oSOFT_SIGN;oE;oYU;pA;9SMALL_LETTER_A;mBE;mVE;mGHE;mDE;mIE;mZHE;nE;mI;",
  "mSHORT_I;mKA;mEL;nM;nN;mO;mPE;mER;nS;mTE;mU;mEF;mHA;mTSE;mCHE;mSHA;oCHA;mHARD_SIGN;mYERU;",
  "mSOFT_SIGN;mE;mYU;nA;mIE_WITH_GRAVE;nO;mDJE;mGJE;mUKRAINIAN_IE;mDZE;mBYELORUSSIAN-UKRAINIAN_I;",
  "mYI;mJE;mLJE;mNJE;mTSHE;mKJE;mI_WITH_GRAVE;mSHORT_U;mDZHE;9CAPITAL_LETTER_OMEGA;",
  "9SMALL_LETTER_OMEGA;9CAPITAL_LETTER_YAT;9SMALL_LETTER_YAT;9CAPITAL_LETTER_IOTIFIED_E;",
  "9SMALL_LETTER_IOTIFIED_E;9CAPITAL_LETTER_LITTLE_YUS;9SMALL_LETTER_LITTLE_YUS;",
  "9CAPITAL_LETTER_IOTIFIED_LITTLE_YUS;9SMALL_LETTER_IOTIFIED_LITTLE_YUS;9CAPITAL_LETTER_BIG_YUS;",
  "9SMALL_LETTER_BIG_YUS;9CAPITAL_LETTER_IOTIFIED_BIG_YUS;9SMALL_LETTER_IOTIFIED_BIG_YUS;",
  "9CAPITAL_LETTER_KSI;9SMALL_LETTER_KSI;9CAPITAL_LETTER_PSI;9SMALL_LETTER_PSI;",
  "9CAPITAL_LETTER_FITA;9SMALL_LETTER_FITA;9CAPITAL_LETTER_IZHITSA;9SMALL_LETTER_IZHITSA;",
  "9CAPITAL_LETTER_IZHITSA_WITH_DOUBLE_GRAVE_ACCENT;",
  "9SMALL_LETTER_IZHITSA_WITH_DOUBLE_GRAVE_ACCENT;9CAPITAL_LETTER_UK;9SMALL_LETTER_UK;",
  "9CAPITAL_LETTER_ROUND_OMEGA;9SMALL_LETTER_ROUND_OMEGA;9CAPITAL_LETTER_OMEGA_WITH_TITLO;",
  "9SMALL_LETTER_OMEGA_WITH_TITLO;9CAPITAL_LETTER_OT;9SMALL_LETTER_OT;9CAPITAL_LETTER_KOPPA;",
  "9SMALL_LETTER_KOPPA;9THOUSANDS_SIGN;1OMBINING_CYRILLIC_TITLO;jPALATALIZATION;jDASIA_PNEUMATA;",
  "jPSILI_PNEUMATA;kOKRYTIE;jHUNDRED_THOUSANDS_SIGN;jMILLIONS_SIGN;",
  "1YRILLIC_CAPITAL_LETTER_SHORT_I_WITH_TAIL;9SMALL_LETTER_SHORT_I_WITH_TAIL;",
  "9CAPITAL_LETTER_SEMISOFT_SIGN;9SMALL_LETTER_SEMISOFT_SIGN;9CAPITAL_LETTER_ER_WITH_TICK;",
  "9SMALL_LETTER_ER_WITH_TICK;9CAPITAL_LETTER_GHE_WITH_UPTURN;9SMALL_LETTER_GHE_WITH_UPTURN;",
  "9CAPITAL_LETTER_GHE_WITH_STROKE;9SMALL_LETTER_GHE_WITH_STROKE;",
  "9CAPITAL_LETTER_GHE_WITH_MIDDLE_HOOK;9SMALL_LETTER_GHE_WITH_MIDDLE_HOOK;",
  "9CAPITAL_LETTER_ZHE_WITH_DESCENDER;9SMALL_LETTER_ZHE_WITH_DESCENDER;",
  "9CAPITAL_LETTER_ZE_WITH_DESCENDER;9SMALL_LETTER_ZE_WITH_DESCENDER;",
  "9CAPITAL_LETTER_KA_WITH_DESCENDER;9SMALL_LETTER_KA_WITH_DESCENDER;",
  "9CAPITAL_LETTER_KA_WITH_VERTICAL_STROKE;9SMALL_LETTER_KA_WITH_VERTICAL_STROKE;",
  "9CAPITAL_LETTER_KA_WITH_STROKE;9SMALL_LETTER_KA_WITH_STROKE;9CAPITAL_LETTER_BASHKIR_KA;",
  "9SMALL_LETTER_BASHKIR_KA;9CAPITAL_LETTER_EN_WITH_DESCENDER;9SMALL_LETTER_EN_WITH_DESCENDER;",
  "9CAPITAL_LIGATURE_EN_GHE;9SMALL_LIGATURE_EN_GHE;9CAPITAL_LETTER_PE_WITH_MIDDLE_HOOK;",
  "9SMALL_LETTER_PE_WITH_MIDDLE_HOOK;9CAPITAL_LETTER_ABKHASIAN_HA;9SMALL_LETTER_ABKHASIAN_HA;",
  "9CAPITAL_LETTER_ES_WITH_DESCENDER;9SMALL_LETTER_ES_WITH_DESCENDER;",
  "9CAPITAL_LETTER_TE_WITH_DESCENDER;9SMALL_LETTER_TE_WITH_DESCENDER;9CAPITAL_LETTER_STRAIGHT_U;",
  "9SMALL_LETTER_STRAIGHT_U;9CAPITAL_LETTER_STRAIGHT_U_WITH_STROKE;",
  "9SMALL_LETTER_STRAIGHT_U_WITH_STROKE;9CAPITAL_LETTER_HA_WITH_DESCENDER;",
  "9SMALL_LETTER_HA_WITH_DESCENDER;9CAPITAL_LIGATURE_TE_TSE;9SMALL_LIGATURE_TE_TSE;",
  "9CAPITAL_LETTER_CHE_WITH_DESCENDER;9SMALL_LETTER_CHE_WITH_DESCENDER;",
  "9CAPITAL_LETTER_CHE_WITH_VERTICAL_STROKE;9SMALL_LETTER_CHE_WITH_VERTICAL_STROKE;",
  "9CAPITAL_LETTER_SHHA;9SMALL_LETTER_SHHA;9CAPITAL_LETTER_ABKHASIAN_CHE;",
  "9SMALL_LETTER_ABKHASIAN_CHE;9CAPITAL_LETTER_ABKHASIAN_CHE_WITH_DESCENDER;",
  "9SMALL_LETTER_ABKHASIAN_CHE_WITH_DESCENDER;9LETTER_PALOCHKA;9CAPITAL_LETTER_ZHE_WITH_BREVE;",
  "9SMALL_LETTER_ZHE_WITH_BREVE;9CAPITAL_LETTER_KA_WITH_HOOK;9SMALL_LETTER_KA_WITH_HOOK;",
  "9CAPITAL_LETTER_EL_WITH_TAIL;9SMALL_LETTER_EL_WITH_TAIL;9CAPITAL_LETTER_EN_WITH_HOOK;",
  "9SMALL_LETTER_EN_WITH_HOOK;9CAPITAL_LETTER_EN_WITH_TAIL;9SMALL_LETTER_EN_WITH_TAIL;",
  "9CAPITAL_LETTER_KHAKASSIAN_CHE;9SMALL_LETTER_KHAKASSIAN_CHE;9CAPITAL_LETTER_EM_WITH_TAIL;",
  "9SMALL_LETTER_EM_WITH_TAIL;mPALOCHKA;9CAPITAL_LETTER_A_WITH_BREVE;9SMALL_LETTER_A_WITH_BREVE;",
  "9CAPITAL_LETTER_A_WITH_DIAERESIS;9SMALL_LETTER_A_WITH_DIAERESIS;9CAPITAL_LIGATURE_A_IE;",
  "9SMALL_LIGATURE_A_IE;9CAPITAL_LETTER_IE_WITH_BREVE;9SMALL_LETTER_IE_WITH_BREVE;",
  "9CAPITAL_LETTER_SCHWA;9SMALL_LETTER_SCHWA;9CAPITAL_LETTER_SCHWA_WITH_DIAERESIS;",
  "9SMALL_LETTER_SCHWA_WITH_DIAERESIS;9CAPITAL_LETTER_ZHE_WITH_DIAERESIS;",
  "9SMALL_LETTER_ZHE_WITH_DIAERESIS;9CAPITAL_LETTER_ZE_WITH_DIAERESIS;",
  "9SMALL_LETTER_ZE_WITH_DIAERESIS;9CAPITAL_LETTER_ABKHASIAN_DZE;9SMALL_LETTER_ABKHASIAN_DZE;",
  "9CAPITAL_LETTER_I_WITH_MACRON;9SMALL_LETTER_I_WITH_MACRON;9CAPITAL_LETTER_I_WITH_DIAERESIS;",
  "9SMALL_LETTER_I_WITH_DIAERESIS;9CAPITAL_LETTER_O_WITH_DIAERESIS;9SMALL_LETTER_O_WITH_DIAERESIS;",
  "9CAPITAL_LETTER_BARRED_O;9SMALL_LETTER_BARRED_O;9CAPITAL_LETTER_BARRED_O_WITH_DIAERESIS;",
  "9SMALL_LETTER_BARRED_O_WITH_DIAERESIS;9CAPITAL_LETTER_E_WITH_DIAERESIS;",
  "9SMALL_LETTER_E_WITH_DIAERESIS;9CAPITAL_LETTER_U_WITH_MACRON;9SMALL_LETTER_U_WITH_MACRON;",
  "9CAPITAL_LETTER_U_WITH_DIAERESIS;9SMALL_LETTER_U_WITH_DIAERESIS;",
  "9CAPITAL_LETTER_U_WITH_DOUBLE_ACUTE;9SMALL_LETTER_U_WITH_DOUBLE_ACUTE;",
  "9CAPITAL_LETTER_CHE_WITH_DIAERESIS;9SMALL_LETTER_CHE_WITH_DIAERESIS;",
  "9CAPITAL_LETTER_GHE_WITH_DESCENDER;9SMALL_LETTER_GHE_WITH_DESCENDER;",
  "9CAPITAL_LETTER_YERU_WITH_DIAERESIS;9SMALL_LETTER_YERU_WITH_DIAERESIS;",
  "9CAPITAL_LETTER_GHE_WITH_STROKE_AND_HOOK;9SMALL_LETTER_GHE_WITH_STROKE_AND_HOOK;",
  "9CAPITAL_LETTER_HA_WITH_HOOK;9SMALL_LETTER_HA_WITH_HOOK;9CAPITAL_LETTER_HA_WITH_STROKE;",
  "9SMALL_LETTER_HA_WITH_STROKE;9CAPITAL_LETTER_KOMI_DE;9SMALL_LETTER_KOMI_DE;",
  "9CAPITAL_LETTER_KOMI_DJE;9SMALL_LETTER_KOMI_DJE;9CAPITAL_LETTER_KOMI_ZJE;",
  "9SMALL_LETTER_KOMI_ZJE;9CAPITAL_LETTER_KOMI_DZJE;9SMALL_LETTER_KOMI_DZJE;",
  "9CAPITAL_LETTER_KOMI_LJE;9SMALL_LETTER_KOMI_LJE;9CAPITAL_LETTER_KOMI_NJE;",
  "9SMALL_LETTER_KOMI_NJE;9CAPITAL_LETTER_KOMI_SJE;9SMALL_LETTER_KOMI_SJE;",
  "9CAPITAL_LETTER_KOMI_TJE;9SMALL_LETTER_KOMI_TJE;9CAPITAL_LETTER_REVERSED_ZE;",
  "9SMALL_LETTER_REVERSED_ZE;9CAPITAL_LETTER_EL_WITH_HOOK;9SMALL_LETTER_EL_WITH_HOOK;",
  "9CAPITAL_LETTER_LHA;9SMALL_LETTER_LHA;9CAPITAL_LETTER_RHA;9SMALL_LETTER_RHA;",
  "9CAPITAL_LETTER_YAE;9SMALL_LETTER_YAE;9CAPITAL_LETTER_QA;9SMALL_LETTER_QA;9CAPITAL_LETTER_WE;",
  "9SMALL_LETTER_WE;9CAPITAL_LETTER_ALEUT_KA;9SMALL_LETTER_ALEUT_KA;",
  "9CAPITAL_LETTER_EL_WITH_MIDDLE_HOOK;9SMALL_LETTER_EL_WITH_MIDDLE_HOOK;",
  "9CAPITAL_LETTER_EN_WITH_MIDDLE_HOOK;9SMALL_LETTER_EN_WITH_MIDDLE_HOOK;",
  "9CAPITAL_LETTER_PE_WITH_DESCENDER;9SMALL_LETTER_PE_WITH_DESCENDER;",
  "9CAPITAL_LETTER_SHHA_WITH_DESCENDER;9SMALL_LETTER_SHHA_WITH_DESCENDER;",
  "9CAPITAL_LETTER_EN_WITH_LEFT_HOOK;9SMALL_LETTER_EN_WITH_LEFT_HOOK;9CAPITAL_LETTER_DZZHE;",
  "9SMALL_LETTER_DZZHE;9CAPITAL_LETTER_DCHE;9SMALL_LETTER_DCHE;9CAPITAL_LETTER_EL_WITH_DESCENDER;",
  "9SMALL_LETTER_EL_WITH_DESCENDER;>531:0ARMENIAN_CAPITAL_LETTER_AYB;oBEN;oGIM;oDA;oECH;oZA;oEH;",
  "pT;oTO;oZHE;oINI;oLIWN;oXEH;oCA;oKEN;oHO;oJA;oGHAD;oCHEH;oMEN;oYI;oNOW;oSHA;oVO;oCHA;oPEH;",
  "oJHEH;oRA;oSEH;oVEW;oTIWN;oREH;oCO;oYIWN;oPIWR;oKEH;oOH;oFEH;",
  ">559:9MODIFIER_LETTER_LEFT_HALF_RING;9APOSTROPHE;9EMPHASIS_MARK;aXCLAMATION_MARK;9COMMA;",
  "9QUESTION_MARK;9ABBREVIATION_MARK;9SMALL_LETTER_TURNED_AYB;mAYB;mBEN;mGIM;mDA;mECH;mZA;mEH;nT;",
  "mTO;mZHE;mINI;mLIWN;mXEH;mCA;mKEN;mHO;mJA;mGHAD;mCHEH;mMEN;mYI;mNOW;mSHA;mVO;mCHA;mPEH;mJHEH;",
  "mRA;mSEH;mVEW;mTIWN;mREH;mCO;mYIWN;mPIWR;mKEH;mOH;mFEH;gIGATURE_ECH_YIWN;gETTER_YI_WITH_STROKE;",
  "9FULL_STOP;9HYPHEN;>58D:0RIGHT-FACING_ARMENIAN_ETERNITY_SIGN;",
  "0LEFT-FACING_ARMENIAN_ETERNITY_SIGN;0ARMENIAN_DRAM_SIGN;>591:0HEBREW_ACCENT_ETNAHTA;eSEGOL;",
  "fHALSHELET;eZAQEF_QATAN;kGADOL;eTIPEHA;eREVIA;eZARQA;ePASHTA;eYETIV;eTEVIR;eGERESH;k_MUQDAM;",
  "hSHAYIM;eQARNEY_PARA;eTELISHA_GEDOLA;ePAZER;eATNAH_HAFUKH;eMUNAH;fAHAPAKH;fERKHA;k_KEFULA;",
  "eDARGA;eQADMA;eTELISHA_QETANA;eYERAH_BEN_YOMO;eOLE;eILUY;eDEHI;eZINOR;7MARK_MASORA_CIRCLE;",
  "7POINT_SHEVA;dHATAF_SEGOL;jPATAH;jQAMATS;eIRIQ;dTSERE;dSEGOL;dPATAH;dQAMATS;dHOLAM;",
  "i_HASER_FOR_VAV;dQUBUTS;dDAGESH_OR_MAPIQ;dMETEG;8UNCTUATION_MAQAF;8OINT_RAFE;8UNCTUATION_PASEQ;",
  "8OINT_SHIN_DOT;eIN_DOT;8UNCTUATION_SOF_PASUQ;7MARK_UPPER_DOT;cLOWER_DOT;",
  "7PUNCTUATION_NUN_HAFUKHA;8OINT_QAMATS_QATAN;>5D0:7LETTER_ALEF;eBET;eGIMEL;eDALET;eHE;eVAV;",
  "eZAYIN;eHET;eTET;eYOD;eFINAL_KAF;eKAF;eLAMED;eFINAL_MEM;eMEM;eFINAL_NUN;eNUN;eSAMEKH;eAYIN;",
  "eFINAL_PE;ePE;eFINAL_TSADI;eTSADI;eQOF;eRESH;eSHIN;eTAV;>5EF:7YOD_TRIANGLE;",
  "7LIGATURE_YIDDISH_DOUBLE_VAV;oVAV_YOD;oDOUBLE_YOD;7PUNCTUATION_GERESH;mSHAYIM;",
  ">600:0ARABIC_NUMBER_SIGN;7SIGN_SANAH;7FOOTNOTE_MARKER;7SIGN_SAFHA;eMVAT;7NUMBER_MARK_ABOVE;",
  "6-INDIC_CUBE_ROOT;dFOURTH_ROOT;6_RAY;6-INDIC_PER_MILLE_SIGN;hTEN_THOUSAND_SIGN;1FGHANI_SIGN;",
  "1RABIC_COMMA;7DATE_SEPARATOR;7POETIC_VERSE_SIGN;7SIGN_MISRA;cSALLALLAHOU_ALAYHE_WASSALLAM;",
  "cALAYHE_ASSALLAM;cRAHMATULLAH_ALAYHE;eDI_ALLAHOU_ANHU;cTAKHALLUS;8MALL_HIGH_TAH;",
  "iLIGATURE_ALEF_WITH_LAM_WITH_YEH;iZAIN;dFATHA;dDAMMA;dKASRA;8EMICOLON;7LETTER_MARK;",
  "7END_OF_TEXT_MARK;7TRIPLE_DOT_PUNCTUATION_MARK;7QUESTION_MARK;7LETTER_KASHMIRI_YEH;eHAMZA;",
  "eALEF_WITH_MADDA_ABOVE;oHAMZA_ABOVE;eWAW_WITH_HAMZA_ABOVE;eALEF_WITH_HAMZA_BELOW;",
  "eYEH_WITH_HAMZA_ABOVE;eALEF;eBEH;eTEH_MARBUTA;h;fHEH;eJEEM;eHAH;eKHAH;eDAL;eTHAL;eREH;eZAIN;",
  "eSEEN;fHEEN;fAD;eDAD;eTAH;eZAH;eAIN;eGHAIN;eKEHEH_WITH_TWO_DOTS_ABOVE;qHREE_DOTS_BELOW;",
  "eFARSI_YEH_WITH_INVERTED_V;tTWO_DOTS_ABOVE;uHREE_DOTS_ABOVE;7TATWEEL;7LETTER_FEH;eQAF;eKAF;",
  "eLAM;eMEEM;eNOON;eHEH;eWAW;eALEF_MAKSURA;eYEH;7FATHATAN;7DAMMATAN;7KASRATAN;7FATHA;7DAMMA;",
  "7KASRA;7SHADDA;8UKUN;7MADDAH_ABOVE;7HAMZA_ABOVE;dBELOW;7SUBSCRIPT_ALEF;7INVERTED_DAMMA;",
  "7MARK_NOON_GHUNNA;7ZWARAKAY;7VOWEL_SIGN_SMALL_V_ABOVE;iINVERTED_SMALL_V_ABOVE;iDOT_BELOW;",
  "7REVERSED_DAMMA;7FATHA_WITH_TWO_DOTS;7WAVY_HAMZA_BELOW;6-INDIC_DIGIT_ZERO;jONE;jTWO;kHREE;",
  "jFOUR;kIVE;jSIX;kEVEN;jEIGHT;jNINE;6_PERCENT_SIGN;7DECIMAL_SEPARATOR;7THOUSANDS_SEPARATOR;",
  "7FIVE_POINTED_STAR;7LETTER_DOTLESS_BEH;mQAF;eSUPERSCRIPT_ALEF;eALEF_WASLA;",
  "kITH_WAVY_HAMZA_ABOVE;zBELOW;eHIGH_HAMZA;o_ALEF;pWAW;eU_WITH_HAMZA_ABOVE;eHIGH_HAMZA_YEH;eTTEH;",
  "iEH;eBEEH;eTEH_WITH_RING;nTHREE_DOTS_ABOVE_DOWNWARDS;ePEH;eTEHEH;eBEHEH;eHAH_WITH_HAMZA_ABOVE;",
  "nTWO_DOTS_VERTICAL_ABOVE;eNYEH;eDYEH;eHAH_WITH_THREE_DOTS_ABOVE;eTCHEH;jEH;eDDAL;fAL_WITH_RING;",
  "nDOT_BELOW;w_AND_SMALL_TAH;gHAL;fDAHAL;fUL;fAL_WITH_THREE_DOTS_ABOVE_DOWNWARDS;",
  "nFOUR_DOTS_ABOVE;eRREH;fEH_WITH_SMALL_V;nRING;nDOT_BELOW;nSMALL_V_BELOW;",
  "nDOT_BELOW_AND_DOT_ABOVE;nTWO_DOTS_ABOVE;eJEH;eREH_WITH_FOUR_DOTS_ABOVE;",
  "eSEEN_WITH_DOT_BELOW_AND_DOT_ABOVE;oTHREE_DOTS_BELOW;E_AND_THREE_DOTS_ABOVE;",
  "fAD_WITH_TWO_DOTS_BELOW;oHREE_DOTS_ABOVE;eTAH_WITH_THREE_DOTS_ABOVE;eAIN_WITH_THREE_DOTS_ABOVE;",
  "eDOTLESS_FEH;eFEH_WITH_DOT_MOVED_BELOW;rBELOW;eVEH;eFEH_WITH_THREE_DOTS_BELOW;ePEHEH;",
  "eQAF_WITH_DOT_ABOVE;nTHREE_DOTS_ABOVE;eKEHEH;eSWASH_KAF;eKAF_WITH_RING;nDOT_ABOVE;eNG;",
  "eKAF_WITH_THREE_DOTS_BELOW;eGAF;h_WITH_RING;eNGOEH;eGAF_WITH_TWO_DOTS_BELOW;fUEH;",
  "fAF_WITH_THREE_DOTS_ABOVE;eLAM_WITH_SMALL_V;nDOT_ABOVE;nTHREE_DOTS_ABOVE;yBELOW;",
  "eNOON_WITH_DOT_BELOW;jGHUNNA;eRNOON;eNOON_WITH_RING;oTHREE_DOTS_ABOVE;eHEH_DOACHASHMEE;",
  "eTCHEH_WITH_DOT_ABOVE;eHEH_WITH_YEH_ABOVE;iGOAL;m_WITH_HAMZA_ABOVE;eTEH_MARBUTA_GOAL;",
  "eWAW_WITH_RING;eKIRGHIZ_OE;eOE;eU;eYU;eKIRGHIZ_YU;eWAW_WITH_TWO_DOTS_ABOVE;eVE;eFARSI_YEH;",
  "eYEH_WITH_TAIL;nSMALL_V;eWAW_WITH_DOT_ABOVE;eE;eYEH_WITH_THREE_DOTS_BELOW;iBARREE;",
  "o_WITH_HAMZA_ABOVE;7FULL_STOP;7LETTER_AE;7SMALL_HIGH_LIGATURE_SAD_WITH_LAM_WITH_ALEF_MAKSURA;",
  "rQAF_WITH_LAM_WITH_ALEF_MAKSURA;iMEEM_INITIAL_FORM;iLAM_ALEF;iJEEM;iTHREE_DOTS;iSEEN;",
  "7END_OF_AYAH;7START_OF_RUB_EL_HIZB;8MALL_HIGH_ROUNDED_ZERO;iUPRIGHT_RECTANGULAR_ZERO;",
  "iDOTLESS_HEAD_OF_KHAH;iMEEM_ISOLATED_FORM;dLOW_SEEN;dHIGH_MADDA;dWAW;dYEH;dHIGH_YEH;iNOON;",
  "7PLACE_OF_SAJDAH;7EMPTY_CENTRE_LOW_STOP;kHIGH_STOP;7ROUNDED_HIGH_STOP_WITH_FILLED_CENTRE;",
  "7SMALL_LOW_MEEM;7LETTER_DAL_WITH_INVERTED_V;eREH_WITH_INVERTED_V;",
  "0EXTENDED_ARABIC-INDIC_DIGIT_ZERO;sONE;sTWO;tHREE;sFOUR;tIVE;sSIX;tEVEN;sEIGHT;sNINE;",
  "0ARABIC_LETTER_SHEEN_WITH_DOT_BELOW;eDAD_WITH_DOT_BELOW;eGHAIN_WITH_DOT_BELOW;",
  "7SIGN_SINDHI_AMPERSAND;jPOSTPOSITION_MEN;7LETTER_HEH_WITH_INVERTED_V;0SYRIAC_END_OF_PARAGRAPH;",
  "7SUPRALINEAR_FULL_STOP;9BLINEAR_FULL_STOP;9PRALINEAR_COLON;9BLINEAR_COLON;7HORIZONTAL_COLON;",
  "7COLON_SKEWED_LEFT;kRIGHT;7SUPRALINEAR_COLON_SKEWED_LEFT;9BLINEAR_COLON_SKEWED_RIGHT;",
  "7CONTRACTION;7HARKLEAN_OBELUS;gMETOBELUS;gASTERISCUS;>70F:7ABBREVIATION_MARK;7LETTER_ALAPH;",
  "eSUPERSCRIPT_ALAPH;eBETH;eGAMAL;j_GARSHUNI;eDALATH;fOTLESS_DALATH_RISH;eHE;eWAW;eZAIN;eHETH;",
  "eTETH;i_GARSHUNI;eYUDH;i_HE;eKAPH;eLAMADH;eMIM;eNUN;eSEMKATH;eFINAL_SEMKATH;eE;ePE;",
  "eREVERSED_PE;eSADHE;eQAPH;eRISH;eSHIN;eTAW;ePERSIAN_BHETH;mGHAMAL;mDHALATH;7PTHAHA_ABOVE;",
  "eBELOW;eDOTTED;7ZQAPHA_ABOVE;eBELOW;eDOTTED;7RBASA_ABOVE;dBELOW;7DOTTED_ZLAMA_HORIZONTAL;",
  "kANGULAR;7HBASA_ABOVE;dBELOW;c-ESASA_DOTTED;7ESASA_ABOVE;dBELOW;7RWAHA;7FEMININE_DOT;",
  "7QUSHSHAYA;7RUKKAKHA;7TWO_VERTICAL_DOTS_ABOVE;pBELOW;8HREE_DOTS_ABOVE;iBELOW;",
  "7OBLIQUE_LINE_ABOVE;kBELOW;7MUSIC;7BARREKH;>74D:7LETTER_SOGDIAN_ZHAIN;mKHAPH;mFE;",
  "0ARABIC_LETTER_BEH_WITH_THREE_DOTS_HORIZONTALLY_BELOW;nDOT_BELOW_AND_THREE_DOTS_ABOVE;",
  "nTHREE_DOTS_POINTING_UPWARDS_BELOW;U_AND_TWO_DOTS_ABOVE;oWO_DOTS_BELOW_AND_DOT_ABOVE;",
  "nINVERTED_SMALL_V_BELOW;nSMALL_V;eHAH_WITH_TWO_DOTS_ABOVE;oHREE_DOTS_POINTING_UPWARDS_BELOW;",
  "eDAL_WITH_TWO_DOTS_VERTICALLY_BELOW_AND_SMALL_TAH;nINVERTED_SMALL_V_BELOW;eREH_WITH_STROKE;",
  "eSEEN_WITH_FOUR_DOTS_ABOVE;eAIN_WITH_TWO_DOTS_ABOVE;oHREE_DOTS_POINTING_DOWNWARDS_ABOVE;",
  "oWO_DOTS_VERTICALLY_ABOVE;eFEH_WITH_TWO_DOTS_BELOW;oHREE_DOTS_POINTING_UPWARDS_BELOW;",
  "eKEHEH_WITH_DOT_ABOVE;pTHREE_DOTS_ABOVE;APOINTING_UPWARDS_BELOW;eMEEM_WITH_DOT_ABOVE;sBELOW;",
  "eNOON_WITH_TWO_DOTS_BELOW;oSMALL_TAH;uV;eLAM_WITH_BAR;eREH_WITH_TWO_DOTS_VERTICALLY_ABOVE;",
  "nHAMZA_ABOVE;eSEEN_WITH_TWO_DOTS_VERTICALLY_ABOVE;eHAH_WITH_SMALL_ARABIC_LETTER_TAH_BELOW;",
  "LAND_TWO_DOTS;eSEEN_WITH_SMALL_ARABIC_LETTER_TAH_AND_TWO_DOTS;",
  "eREH_WITH_SMALL_ARABIC_LETTER_TAH_AND_TWO_DOTS;eHAH_WITH_SMALL_ARABIC_LETTER_TAH_ABOVE;",
  "eALEF_WITH_EXTENDED_ARABIC-INDIC_DIGIT_TWO_ABOVE;RHREE_ABOVE;",
  "eFARSI_YEH_WITH_EXTENDED_ARABIC-INDIC_DIGIT_TWO_ABOVE;WHREE_ABOVE;VFOUR_BELOW;",
  "eWAW_WITH_EXTENDED_ARABIC-INDIC_DIGIT_TWO_ABOVE;QHREE_ABOVE;",
  "eYEH_BARREE_WITH_EXTENDED_ARABIC-INDIC_DIGIT_TWO_ABOVE;XHREE_ABOVE;",
  "eHAH_WITH_EXTENDED_ARABIC-INDIC_DIGIT_FOUR_BELOW;",
  "eSEEN_WITH_EXTENDED_ARABIC-INDIC_DIGIT_FOUR_ABOVE;oINVERTED_V;eKAF_WITH_TWO_DOTS_ABOVE;",
  "0THAANA_LETTER_HAA;eSHAVIYANI;eNOONU;eRAA;eBAA;eLHAVIYANI;eKAAFU;eALIFU;eVAAVU;eMEEMU;eFAAFU;",
  "eDHAALU;eTHAA;eLAAMU;eGAAFU;fNAVIYANI;eSEENU;eDAVIYANI;eZAVIYANI;eTAVIYANI;eYAA;ePAVIYANI;",
  "eJAVIYANI;eCHAVIYANI;eTTAA;eHHAA;eKHAA;eTHAALU;eZAA;eSHEENU;fAADHU;eDAADHU;eTO;eZO;eAINU;",
  "eGHAINU;eQAAFU;eWAAVU;7ABAFILI;8ABAAFILI;7IBIFILI;7EEBEEFILI;7UBUFILI;7OOBOOFILI;7EBEFILI;",
  "8YBEYFILI;7OBOFILI;8ABOAFILI;7SUKUN;7LETTER_NAA;>7C0:0NKO_DIGIT_ZERO;aONE;aTWO;bHREE;aFOUR;",
  "bIVE;aSIX;bEVEN;aEIGHT;aNINE;4LETTER_A;bEE;bI;bE;bU;bOO;c;bDAGBASINNA;bN;bBA;bPA;bTA;bJA;bCHA;",
  "bDA;bRA;cRA;bSA;bGBA;bFA;bKA;bLA;bNA_WOLOSO;bMA;bNYA;cA;bHA;bWA;bYA;bNYA_WOLOSO;bJONA_JA;gCHA;",
  "gRA;4COMBINING_SHORT_HIGH_TONE;kLOW_TONE;kRISING_TONE;eLONG_DESCENDING_TONE;jHIGH_TONE;",
  "jLOW_TONE;jRISING_TONE;eNASALIZATION_MARK;eDOUBLE_DOT_ABOVE;4HIGH_TONE_APOSTROPHE;",
  "4LOW_TONE_APOSTROPHE;4SYMBOL_OO_DENNEN;bGBAKURUNEN;4COMMA;4EXCLAMATION_MARK;4LAJANYALAN;",
  ">7FD:4DANTAYALAN;5OROME_SIGN;4TAMAN_SIGN;0SAMARITAN_LETTER_ALAF;hBIT;hGAMAN;hDALAT;hIY;hBAA;",
  "hZEN;hIT;hTIT;hYUT;hKAAF;hLABAT;hMIM;hNUN;hSINGAAT;hIN;hFI;hTSAADIY;hQUF;hRISH;hSHAN;hTAAF;",
  "aMARK_IN;h-ALAF;fOCCLUSION;fDAGESH;bODIFIER_LETTER_EPENTHETIC_YUT;bARK_EPENTHETIC_YUT;",
  "aVOWEL_SIGN_LONG_E;lE;lOVERLONG_AA;lLONG_AA;lAA;lOVERLONG_A;lLONG_A;lA;",
  "aMODIFIER_LETTER_SHORT_A;aVOWEL_SIGN_SHORT_A;lLONG_U;lU;aMODIFIER_LETTER_I;aVOWEL_SIGN_LONG_I;",
  "lI;lO;lSUKUN;aMARK_NEQUDAA;>830:aPUNCTUATION_NEQUDAA;mAFSAAQ;nNGED;mBAU;mATMAAU;mSHIYYAALAA;",
  "aABBREVIATION_MARK;aPUNCTUATION_MELODIC_QITSA;mZIQAA;mQITSA;mZAEF;mTURU;mARKAANU;mSOF_MASHFAAT;",
  "mANNAAU;>840:0MANDAIC_LETTER_HALQA;fAB;gG;gD;gH;fUSHENNA;fAZ;fIT;fATT;gKSA;h;gL;gM;gN;gS;fIN;",
  "fAP;gSZ;gQ;gR;gSH;gT;fDUSHENNA;fKAD;fAIN;8AFFRICATION_MARK;8VOCALIZATION_MARK;8GEMINATION_MARK;",
  ">85E:8PUNCTUATION;>860:0SYRIAC_LETTER_MALAYALAM_NGA;oJA;oNYA;oTTA;oNNA;qNA;oBHA;oRA;oLLA;qLA;",
  "oSSA;>870:0ARABIC_LETTER_ALEF_WITH_ATTACHED_FATHA;xTOP_RIGHT_FATHA;oRIGHT_MIDDLE_STROKE;",
  "oLEFT_MIDDLE_STROKE;oATTACHED_KASRA;xBOTTOM_RIGHT_KASRA;xROUND_DOT_ABOVE;yIGHT_ROUND_DOT;",
  "xLEFT_ROUND_DOT;xROUND_DOT_BELOW;oDOT_ABOVE;oATTACHED_TOP_RIGHT_FATHA_AND_DOT_ABOVE;",
  "oRIGHT_MIDDLE_STROKE_AND_DOT_ABOVE;oATTACHED_BOTTOM_RIGHT_KASRA_AND_DOT_ABOVE;",
  "xTOP_RIGHT_FATHA_AND_LEFT_RING;oRIGHT_MIDDLE_STROKE_AND_LEFT_RING;",
  "oATTACHED_BOTTOM_RIGHT_KASRA_AND_LEFT_RING;xRIGHT_HAMZA;xLEFT_HAMZA;",
  "7TATWEEL_WITH_OVERSTRUCK_HAMZA;vWAW;kTWO_DOTS_BELOW;7LETTER_THIN_YEH;7BASELINE_ROUND_DOT;",
  "7RAISED_ROUND_DOT;7LETTER_NOON_WITH_INVERTED_SMALL_V;eHAH_WITH_INVERTED_SMALL_V_BELOW;",
  "eTAH_WITH_DOT_BELOW;nTHREE_DOTS_BELOW;eKEHEH_WITH_TWO_DOTS_VERTICALLY_BELOW;7VERTICAL_TAIL;",
  ">890:7POUND_MARK_ABOVE;8IASTRE_MARK_ABOVE;>898:7SMALL_HIGH_WORD_AL-JUZ;dLOW_WORD_ISHMAAM;",
  "nMAALA;mTASHEEL;7MADDA_WAAJIB;7SUPERSCRIPT_ALEF_MOKHASSAS;7DOUBLED_MADDA;",
  "7HALF_MADDA_OVER_MADDA;7LETTER_BEH_WITH_SMALL_V_BELOW;nHAMZA_ABOVE;eJEEM_WITH_TWO_DOTS_ABOVE;",
  "eTAH_WITH_TWO_DOTS_ABOVE;eFEH_WITH_DOT_BELOW_AND_THREE_DOTS_ABOVE;eQAF_WITH_DOT_BELOW;",
  "eLAM_WITH_DOUBLE_BAR;eMEEM_WITH_THREE_DOTS_ABOVE;eYEH_WITH_TWO_DOTS_BELOW_AND_HAMZA_ABOVE;",
  "GDOT_ABOVE;eREH_WITH_LOOP;eWAW_WITH_DOT_WITHIN;eROHINGYA_YEH;eLOW_ALEF;",
  "eDAL_WITH_THREE_DOTS_BELOW;eSAD_WITH_THREE_DOTS_BELOW;eGAF_WITH_INVERTED_STROKE;eSTRAIGHT_WAW;",
  "eZAIN_WITH_INVERTED_V_ABOVE;eAIN_WITH_THREE_DOTS_BELOW;eKAF_WITH_DOT_BELOW;",
  "eQAF_WITH_DOT_BELOW_AND_NO_DOTS_ABOVE;eBEH_WITH_SMALL_MEEM_ABOVE;ePEH_WITH_SMALL_MEEM_ABOVE;",
  "eTEH_WITH_SMALL_TEH_ABOVE;eREH_WITH_SMALL_NOON_ABOVE;",
  "eYEH_WITH_TWO_DOTS_BELOW_AND_SMALL_NOON_ABOVE;eAFRICAN_FEH;mQAF;mNOON;ePEH_WITH_SMALL_V;",
  "eTEH_WITH_SMALL_V;fTEH_WITH_SMALL_V;fCHEH_WITH_SMALL_V;eKEHEH_WITH_SMALL_V;",
  "eGHAIN_WITH_THREE_DOTS_ABOVE;eAFRICAN_QAF_WITH_THREE_DOTS_ABOVE;eJEEM_WITH_THREE_DOTS_ABOVE;",
  "zBELOW;eLAM_WITH_SMALL_ARABIC_LETTER_TAH_ABOVE;eGRAF;7SMALL_FARSI_YEH;dHIGH_FARSI_YEH;",
  "iYEH_BARREE_WITH_TWO_DOTS_BELOW;iWORD_SAH;iZAH;7LARGE_ROUND_DOT_ABOVE;nBELOW;7SUKUN_BELOW;",
  "7LARGE_CIRCLE_BELOW;dROUND_DOT_INSIDE_CIRCLE_BELOW;7SMALL_LOW_WAW;dHIGH_WORD_AR-RUB;iSAD;iAIN;",
  "iQAF;iNOON_WITH_KASRA;dLOW_NOON_WITH_KASRA;dHIGH_WORD_ATH-THALATHA;oS-SAJDA;oN-NISF;nSAKTA;",
  "nQIF;nWAQFA;iFOOTNOTE_MARKER;iSIGN_SAFHA;7DISPUTED_END_OF_AYAH;7TURNED_DAMMA_BELOW;",
  "7CURLY_FATHA;dDAMMA;dKASRA;dFATHATAN;dDAMMATAN;dKASRATAN;7TONE_ONE_DOT_ABOVE;cTWO_DOTS_ABOVE;",
  "cLOOP_ABOVE;cONE_DOT_BELOW;cTWO_DOTS_BELOW;cLOOP_BELOW;7OPEN_FATHATAN;cDAMMATAN;cKASRATAN;",
  "7SMALL_HIGH_WAW;7FATHA_WITH_RING;iDOT_ABOVE;7KASRA_WITH_DOT_BELOW;7LEFT_ARROWHEAD_ABOVE;",
  "7RIGHT_ARROWHEAD_ABOVE;7LEFT_ARROWHEAD_BELOW;7RIGHT_ARROWHEAD_BELOW;",
  "7DOUBLE_RIGHT_ARROWHEAD_ABOVE;z_WITH_DOT;7RIGHT_ARROWHEAD_ABOVE_WITH_DOT;7DAMMA_WITH_DOT;",
  "7MARK_SIDEWAYS_NOON_GHUNNA;0DEVANAGARI_SIGN_INVERTED_CANDRABINDU;gCANDRABINDU;gANUSVARA;",
  "gVISARGA;bLETTER_SHORT_A;iA;jA;iI;jI;iU;jU;iVOCALIC_R;qL;iCANDRA_E;iSHORT_E;iE;iAI;iCANDRA_O;",
  "iSHORT_O;iO;iAU;iKA;jHA;iGA;jHA;iNGA;iCA;jHA;iJA;jHA;iNYA;iTTA;kHA;iDDA;kHA;iNNA;iTA;jHA;iDA;",
  "jHA;iNA;jNNA;iPA;jHA;iBA;jHA;iMA;iYA;iRA;jRA;iLA;jLA;kLA;iVA;iSHA;jSA;jA;iHA;bVOWEL_SIGN_OE;",
  "nOE;bSIGN_NUKTA;gAVAGRAHA;bVOWEL_SIGN_AA;mI;nI;mU;nU;mVOCALIC_R;vR;mCANDRA_E;mSHORT_E;mE;mAI;",
  "mCANDRA_O;mSHORT_O;mO;mAU;bSIGN_VIRAMA;bVOWEL_SIGN_PRISHTHAMATRA_E;mAW;bOM;bSTRESS_SIGN_UDATTA;",
  "nANUDATTA;bGRAVE_ACCENT;bACUTE_ACCENT;bVOWEL_SIGN_CANDRA_LONG_E;mUE;nUE;bLETTER_QA;iKHHA;iGHHA;",
  "iZA;iDDDHA;iRHA;iFA;iYYA;iVOCALIC_RR;qLL;bVOWEL_SIGN_VOCALIC_L;vL;bDANDA;cOUBLE_DANDA;",
  "cIGIT_ZERO;hONE;hTWO;iHREE;hFOUR;iIVE;hSIX;iEVEN;hEIGHT;hNINE;bABBREVIATION_SIGN;",
  "bSIGN_HIGH_SPACING_DOT;bLETTER_CANDRA_A;iOE;jOE;iAW;iUE;jUE;iMARWARI_DDA;iZHA;iHEAVY_YA;iGGA;",
  "iJJA;iGLOTTAL_STOP;iDDDA;iBBA;0BENGALI_ANJI;8SIGN_CANDRABINDU;dANUSVARA;dVISARGA;",
  ">985:8LETTER_A;gA;fI;gI;fU;gU;fVOCALIC_R;nL;>98F:fE;fAI;>993:fO;fAU;fKA;gHA;fGA;gHA;fNGA;fCA;",
  "gHA;fJA;gHA;fNYA;fTTA;hHA;fDDA;hHA;fNNA;fTA;gHA;fDA;gHA;fNA;>9AA:fPA;gHA;fBA;gHA;fMA;fYA;fRA;",
  ">9B2:fLA;>9B6:fSHA;gSA;gA;fHA;>9BC:8SIGN_NUKTA;dAVAGRAHA;8VOWEL_SIGN_AA;jI;kI;jU;kU;jVOCALIC_R;",
  "sR;>9C7:jE;jAI;>9CB:jO;jAU;8SIGN_VIRAMA;8LETTER_KHANDA_TA;>9D7:8AU_LENGTH_MARK;",
  ">9DC:8LETTER_RRA;gHA;>9DF:fYYA;fVOCALIC_RR;nLL;8VOWEL_SIGN_VOCALIC_L;sL;>9E6:8DIGIT_ZERO;eONE;",
  "eTWO;fHREE;eFOUR;fIVE;eSIX;fEVEN;eEIGHT;eNINE;8LETTER_RA_WITH_MIDDLE_DIAGONAL;nLOWER_DIAGONAL;",
  "8RUPEE_MARK;eSIGN;8CURRENCY_NUMERATOR_ONE;rTWO;sHREE;rFOUR;rONE_LESS_THAN_THE_DENOMINATOR;",
  "hDENOMINATOR_SIXTEEN;8ISSHAR;8GANDA_MARK;8LETTER_VEDIC_ANUSVARA;8ABBREVIATION_SIGN;",
  "8SANDHI_MARK;>A01:0GURMUKHI_SIGN_ADAK_BINDI;eBINDI;eVISARGA;>A05:9LETTER_A;hA;gI;hI;gU;hU;",
  ">A0F:gEE;gAI;>A13:gOO;gAU;gKA;hHA;gGA;hHA;gNGA;gCA;hHA;gJA;hHA;gNYA;gTTA;iHA;gDDA;iHA;gNNA;gTA;",
  "hHA;gDA;hHA;gNA;>A2A:gPA;hHA;gBA;hHA;gMA;gYA;gRA;>A32:gLA;hLA;>A35:gVA;gSHA;>A38:hA;gHA;",
  ">A3C:9SIGN_NUKTA;>A3E:9VOWEL_SIGN_AA;kI;lI;kU;lU;>A47:kEE;kAI;>A4B:kOO;kAU;9SIGN_VIRAMA;",
  ">A51:eUDAAT;>A59:9LETTER_KHHA;gGHHA;gZA;gRRA;>A5E:gFA;>A66:9DIGIT_ZERO;fONE;fTWO;gHREE;fFOUR;",
  "gIVE;fSIX;gEVEN;fEIGHT;fNINE;9TIPPI;9ADDAK;9IRI;9URA;9EK_ONKAR;9SIGN_YAKASH;9ABBREVIATION_SIGN;",
  ">A81:2JARATI_SIGN_CANDRABINDU;eANUSVARA;eVISARGA;>A85:9LETTER_A;hA;gI;hI;gU;hU;gVOCALIC_R;oL;",
  "9VOWEL_CANDRA_E;>A8F:9LETTER_E;gAI;9VOWEL_CANDRA_O;>A93:9LETTER_O;gAU;gKA;hHA;gGA;hHA;gNGA;gCA;",
  "hHA;gJA;hHA;gNYA;gTTA;iHA;gDDA;iHA;gNNA;gTA;hHA;gDA;hHA;gNA;>AAA:gPA;hHA;gBA;hHA;gMA;gYA;gRA;",
  ">AB2:gLA;hLA;>AB5:gVA;gSHA;hSA;hA;gHA;>ABC:9SIGN_NUKTA;eAVAGRAHA;9VOWEL_SIGN_AA;kI;lI;kU;lU;",
  "kVOCALIC_R;tR;kCANDRA_E;>AC7:kE;kAI;kCANDRA_O;>ACB:kO;kAU;9SIGN_VIRAMA;>AD0:9OM;",
  ">AE0:9LETTER_VOCALIC_RR;oLL;9VOWEL_SIGN_VOCALIC_L;tL;>AE6:9DIGIT_ZERO;fONE;fTWO;gHREE;fFOUR;",
  "gIVE;fSIX;gEVEN;fEIGHT;fNINE;9ABBREVIATION_SIGN;9RUPEE_SIGN;>AF9:9LETTER_ZHA;9SIGN_SUKUN;",
  "fHADDA;eMADDAH;eTHREE-DOT_NUKTA_ABOVE;eCIRCLE_NUKTA_ABOVE;eTWO-CIRCLE_NUKTA_ABOVE;",
  ">B01:0ORIYA_SIGN_CANDRABINDU;bANUSVARA;bVISARGA;>B05:6LETTER_A;eA;dI;eI;dU;eU;dVOCALIC_R;lL;",
  ">B0F:dE;dAI;>B13:dO;dAU;dKA;eHA;dGA;eHA;dNGA;dCA;eHA;dJA;eHA;dNYA;dTTA;fHA;dDDA;fHA;dNNA;dTA;",
  "eHA;dDA;eHA;dNA;>B2A:dPA;eHA;dBA;eHA;dMA;dYA;dRA;>B32:dLA;eLA;>B35:dVA;dSHA;eSA;eA;dHA;",
  ">B3C:6SIGN_NUKTA;bAVAGRAHA;6VOWEL_SIGN_AA;hI;iI;hU;iU;hVOCALIC_R;qR;>B47:hE;hAI;>B4B:hO;hAU;",
  "6SIGN_VIRAMA;>B55:bOVERLINE;6AI_LENGTH_MARK;7U_LENGTH_MARK;>B5C:6LETTER_RRA;eHA;>B5F:dYYA;",
  "dVOCALIC_RR;lLL;6VOWEL_SIGN_VOCALIC_L;qL;>B66:6DIGIT_ZERO;cONE;cTWO;dHREE;cFOUR;dIVE;cSIX;",
  "dEVEN;cEIGHT;cNINE;6ISSHAR;6LETTER_WA;6FRACTION_ONE_QUARTER;jHALF;fTHREE_QUARTERS;",
  "fONE_SIXTEENTH;jEIGHTH;fTHREE_SIXTEENTHS;>B82:0TAMIL_SIGN_ANUSVARA;bVISARGA;>B85:6LETTER_A;eA;",
  "dI;eI;dU;eU;>B8E:dE;eE;dAI;>B92:dO;eO;dAU;dKA;>B99:dNGA;dCA;>B9C:dJA;>B9E:dNYA;dTTA;>BA3:dNNA;",
  "dTA;>BA8:dNA;eNNA;dPA;>BAE:dMA;dYA;dRA;eRA;dLA;eLA;fLA;dVA;dSHA;eSA;eA;dHA;>BBE:6VOWEL_SIGN_AA;",
  "hI;iI;hU;iU;>BC6:hE;iE;hAI;>BCA:hO;iO;hAU;6SIGN_VIRAMA;>BD0:6OM;>BD7:6AU_LENGTH_MARK;",
  ">BE6:6DIGIT_ZERO;cONE;cTWO;dHREE;cFOUR;dIVE;cSIX;dEVEN;cEIGHT;cNINE;6NUMBER_TEN;dONE_HUNDRED;",
  "hTHOUSAND;6DAY_SIGN;6MONTH_SIGN;6YEAR_SIGN;6DEBIT_SIGN;6CREDIT_SIGN;6AS_ABOVE_SIGN;6RUPEE_SIGN;",
  "6NUMBER_SIGN;>C00:1ELUGU_SIGN_COMBINING_CANDRABINDU_ABOVE;dANDRABINDU;cANUSVARA;cVISARGA;",
  "cCOMBINING_ANUSVARA_ABOVE;7LETTER_A;fA;eI;fI;eU;fU;eVOCALIC_R;mL;>C0E:eE;fE;eAI;>C12:eO;fO;eAU;",
  "eKA;fHA;eGA;fHA;eNGA;eCA;fHA;eJA;fHA;eNYA;eTTA;gHA;eDDA;gHA;eNNA;eTA;fHA;eDA;fHA;eNA;>C2A:ePA;",
  "fHA;eBA;fHA;eMA;eYA;eRA;fRA;eLA;fLA;gLA;eVA;eSHA;fSA;fA;eHA;>C3C:7SIGN_NUKTA;cAVAGRAHA;",
  "7VOWEL_SIGN_AA;iI;jI;iU;jU;iVOCALIC_R;rR;>C46:iE;jE;iAI;>C4A:iO;jO;iAU;7SIGN_VIRAMA;",
  ">C55:7LENGTH_MARK;7AI_LENGTH_MARK;>C58:7LETTER_TSA;eDZA;eRRRA;>C5D:eNAKAARA_POLLU;",
  ">C60:eVOCALIC_RR;mLL;7VOWEL_SIGN_VOCALIC_L;rL;>C66:7DIGIT_ZERO;dONE;dTWO;eHREE;dFOUR;eIVE;dSIX;",
  "eEVEN;dEIGHT;dNINE;>C77:7SIGN_SIDDHAM;7FRACTION_DIGIT_ZERO_FOR_ODD_POWERS_OF_FOUR;",
  "mONE_FOR_ODD_POWERS_OF_FOUR;mTWO_FOR_ODD_POWERS_OF_FOUR;nHREE_FOR_ODD_POWERS_OF_FOUR;",
  "mONE_FOR_EVEN_POWERS_OF_FOUR;mTWO_FOR_EVEN_POWERS_OF_FOUR;nHREE_FOR_EVEN_POWERS_OF_FOUR;",
  "7SIGN_TUUMU;0KANNADA_SIGN_SPACING_CANDRABINDU;dCANDRABINDU;dANUSVARA;dVISARGA;dSIDDHAM;",
  "8LETTER_A;gA;fI;gI;fU;gU;fVOCALIC_R;nL;>C8E:fE;gE;fAI;>C92:fO;gO;fAU;fKA;gHA;fGA;gHA;fNGA;fCA;",
  "gHA;fJA;gHA;fNYA;fTTA;hHA;fDDA;hHA;fNNA;fTA;gHA;fDA;gHA;fNA;>CAA:fPA;gHA;fBA;gHA;fMA;fYA;fRA;",
  "gRA;fLA;gLA;>CB5:fVA;fSHA;gSA;gA;fHA;>CBC:8SIGN_NUKTA;dAVAGRAHA;8VOWEL_SIGN_AA;jI;kI;jU;kU;",
  "jVOCALIC_R;sR;>CC6:jE;kE;jAI;>CCA:jO;kO;jAU;8SIGN_VIRAMA;>CD5:8LENGTH_MARK;8AI_LENGTH_MARK;",
  ">CDD:8LETTER_NAKAARA_POLLU;fFA;>CE0:fVOCALIC_RR;nLL;8VOWEL_SIGN_VOCALIC_L;sL;>CE6:8DIGIT_ZERO;",
  "eONE;eTWO;fHREE;eFOUR;fIVE;eSIX;fEVEN;eEIGHT;eNINE;>CF1:8SIGN_JIHVAMULIYA;dUPADHMANIYA;",
  ">D00:0MALAYALAM_SIGN_COMBINING_ANUSVARA_ABOVE;gANDRABINDU;fANUSVARA;fVISARGA;",
  "aLETTER_VEDIC_ANUSVARA;hA;iA;hI;iI;hU;iU;hVOCALIC_R;pL;>D0E:hE;iE;hAI;>D12:hO;iO;hAU;hKA;iHA;",
  "hGA;iHA;hNGA;hCA;iHA;hJA;iHA;hNYA;hTTA;jHA;hDDA;jHA;hNNA;hTA;iHA;hDA;iHA;hNA;iNNA;hPA;iHA;hBA;",
  "iHA;hMA;hYA;hRA;iRA;hLA;iLA;jLA;hVA;hSHA;iSA;iA;hHA;hTTTA;aSIGN_VERTICAL_BAR_VIRAMA;",
  "fCIRCULAR_VIRAMA;fAVAGRAHA;aVOWEL_SIGN_AA;lI;mI;lU;mU;lVOCALIC_R;uR;>D46:lE;mE;lAI;>D4A:lO;mO;",
  "lAU;aSIGN_VIRAMA;aLETTER_DOT_REPH;aSIGN_PARA;>D54:aLETTER_CHILLU_M;oY;oLLL;aAU_LENGTH_MARK;",
  "aFRACTION_ONE_ONE-HUNDRED-AND-SIXTIETH;nFORTIETH;jTHREE_EIGHTIETHS;jONE_TWENTIETH;oENTH;",
  "jTHREE_TWENTIETHS;jONE_FIFTH;aLETTER_ARCHAIC_II;hVOCALIC_RR;pLL;aVOWEL_SIGN_VOCALIC_L;uL;",
  ">D66:aDIGIT_ZERO;gONE;gTWO;hHREE;gFOUR;hIVE;gSIX;hEVEN;gEIGHT;gNINE;aNUMBER_TEN;hONE_HUNDRED;",
  "lTHOUSAND;aFRACTION_ONE_QUARTER;nHALF;jTHREE_QUARTERS;jONE_SIXTEENTH;nEIGHTH;jTHREE_SIXTEENTHS;",
  "aDATE_MARK;aLETTER_CHILLU_NN;p;oRR;oL;pL;oK;>D81:0SINHALA_SIGN_CANDRABINDU;dANUSVARAYA;",
  "dVISARGAYA;>D85:8LETTER_AYANNA;gAYANNA;gEYANNA;hEYANNA;fIYANNA;gIYANNA;fUYANNA;gUYANNA;",
  "fIRUYANNA;iUYANNA;gLUYANNA;iUYANNA;fEYANNA;gEYANNA;fAIYANNA;fOYANNA;gOYANNA;fAUYANNA;",
  ">D9A:gLPAPRAANA_KAYANNA;fMAHAAPRAANA_KAYANNA;fALPAPRAANA_GAYANNA;fMAHAAPRAANA_GAYANNA;",
  "fKANTAJA_NAASIKYAYA;fSANYAKA_GAYANNA;fALPAPRAANA_CAYANNA;fMAHAAPRAANA_CAYANNA;",
  "fALPAPRAANA_JAYANNA;fMAHAAPRAANA_JAYANNA;fTAALUJA_NAASIKYAYA;nSANYOOGA_NAAKSIKYAYA;",
  "fSANYAKA_JAYANNA;fALPAPRAANA_TTAYANNA;fMAHAAPRAANA_TTAYANNA;fALPAPRAANA_DDAYANNA;",
  "fMAHAAPRAANA_DDAYANNA;gUURDHAJA_NAYANNA;fSANYAKA_DDAYANNA;fALPAPRAANA_TAYANNA;",
  "fMAHAAPRAANA_TAYANNA;fALPAPRAANA_DAYANNA;fMAHAAPRAANA_DAYANNA;fDANTAJA_NAYANNA;",
  ">DB3:fSANYAKA_DAYANNA;fALPAPRAANA_PAYANNA;fMAHAAPRAANA_PAYANNA;fALPAPRAANA_BAYANNA;",
  "fMAHAAPRAANA_BAYANNA;hYANNA;fAMBA_BAYANNA;fYAYANNA;fRAYANNA;>DBD:fDANTAJA_LAYANNA;",
  ">DC0:fVAYANNA;fTAALUJA_SAYANNA;fMUURDHAJA_SAYANNA;fDANTAJA_SAYANNA;fHAYANNA;fMUURDHAJA_LAYANNA;",
  "fFAYANNA;>DCA:8SIGN_AL-LAKUNA;>DCF:8VOWEL_SIGN_AELA-PILLA;jKETTI_AEDA-PILLA;jDIGA_AEDA-PILLA;",
  "jKETTI_IS-PILLA;jDIGA_IS-PILLA;jKETTI_PAA-PILLA;>DD6:jDIGA_PAA-PILLA;>DD8:jGAETTA-PILLA;",
  "jKOMBUVA;jDIGA_KOMBUVA;jKOMBU_DEKA;oVA_HAA_AELA-PILLA;vDIGA_AELA-PILLA;vGAYANUKITTA;",
  "jGAYANUKITTA;>DE6:8LITH_DIGIT_ZERO;jONE;jTWO;kHREE;jFOUR;kIVE;jSIX;kEVEN;jEIGHT;jNINE;",
  ">DF2:8VOWEL_SIGN_DIGA_GAETTA-PILLA;qYANUKITTA;8PUNCTUATION_KUNDDALIYA;",
  ">E01:0THAI_CHARACTER_KO_KAI;gHO_KHAI;lUAT;lWAI;lON;jRAKHANG;"]

end Milp.Text.CharacterName
