set_option autoImplicit false

/-! # Names of the characters from U+A749 to U+107AE

The names that Unicode 14 gives them, in the form that `Milp.Text.CharacterName` reads. -/

namespace Milp.Text.CharacterName

/-- Names from U+A749 to U+107AE. -/
def part5 : List String := [
  ">A749:0LATIN_SMALL_LETTER_L_WITH_HIGH_STROKE;6CAPITAL_LETTER_O_WITH_LONG_STROKE_OVERLAY;",
  "6SMALL_LETTER_O_WITH_LONG_STROKE_OVERLAY;6CAPITAL_LETTER_O_WITH_LOOP;6SMALL_LETTER_O_WITH_LOOP;",
  "6CAPITAL_LETTER_OO;6SMALL_LETTER_OO;6CAPITAL_LETTER_P_WITH_STROKE_THROUGH_DESCENDER;",
  "6SMALL_LETTER_P_WITH_STROKE_THROUGH_DESCENDER;6CAPITAL_LETTER_P_WITH_FLOURISH;",
  "6SMALL_LETTER_P_WITH_FLOURISH;6CAPITAL_LETTER_P_WITH_SQUIRREL_TAIL;",
  "6SMALL_LETTER_P_WITH_SQUIRREL_TAIL;6CAPITAL_LETTER_Q_WITH_STROKE_THROUGH_DESCENDER;",
  "6SMALL_LETTER_Q_WITH_STROKE_THROUGH_DESCENDER;6CAPITAL_LETTER_Q_WITH_DIAGONAL_STROKE;",
  "6SMALL_LETTER_Q_WITH_DIAGONAL_STROKE;6CAPITAL_LETTER_R_ROTUNDA;6SMALL_LETTER_R_ROTUNDA;",
  "6CAPITAL_LETTER_RUM_ROTUNDA;6SMALL_LETTER_RUM_ROTUNDA;6CAPITAL_LETTER_V_WITH_DIAGONAL_STROKE;",
  "6SMALL_LETTER_V_WITH_DIAGONAL_STROKE;6CAPITAL_LETTER_VY;6SMALL_LETTER_VY;",
  "6CAPITAL_LETTER_VISIGOTHIC_Z;6SMALL_LETTER_VISIGOTHIC_Z;6CAPITAL_LETTER_THORN_WITH_STROKE;",
  "6SMALL_LETTER_THORN_WITH_STROKE;6CAPITAL_LETTER_THORN_WITH_STROKE_THROUGH_DESCENDER;",
  "6SMALL_LETTER_THORN_WITH_STROKE_THROUGH_DESCENDER;6CAPITAL_LETTER_VEND;6SMALL_LETTER_VEND;",
  "6CAPITAL_LETTER_ET;6SMALL_LETTER_ET;6CAPITAL_LETTER_IS;6SMALL_LETTER_IS;6CAPITAL_LETTER_CON;",
  "6SMALL_LETTER_CON;0MODIFIER_LETTER_US;0LATIN_SMALL_LETTER_DUM;jLUM;jMUM;jNUM;jRUM;",
  "6LETTER_SMALL_CAPITAL_RUM;6SMALL_LETTER_TUM;jUM;6CAPITAL_LETTER_INSULAR_D;",
  "6SMALL_LETTER_INSULAR_D;6CAPITAL_LETTER_INSULAR_F;6SMALL_LETTER_INSULAR_F;",
  "6CAPITAL_LETTER_INSULAR_G;lTURNED_INSULAR_G;6SMALL_LETTER_TURNED_INSULAR_G;",
  "6CAPITAL_LETTER_TURNED_L;6SMALL_LETTER_TURNED_L;6CAPITAL_LETTER_INSULAR_R;",
  "6SMALL_LETTER_INSULAR_R;6CAPITAL_LETTER_INSULAR_S;6SMALL_LETTER_INSULAR_S;",
  "6CAPITAL_LETTER_INSULAR_T;6SMALL_LETTER_INSULAR_T;0MODIFIER_LETTER_LOW_CIRCUMFLEX_ACCENT;",
  "gCOLON;gSHORT_EQUALS_SIGN;0LATIN_CAPITAL_LETTER_SALTILLO;6SMALL_LETTER_SALTILLO;",
  "6CAPITAL_LETTER_TURNED_H;6SMALL_LETTER_L_WITH_RETROFLEX_HOOK_AND_BELT;6LETTER_SINOLOGICAL_DOT;",
  "6CAPITAL_LETTER_N_WITH_DESCENDER;6SMALL_LETTER_N_WITH_DESCENDER;6CAPITAL_LETTER_C_WITH_BAR;",
  "6SMALL_LETTER_C_WITH_BAR;qPALATAL_HOOK;jH_WITH_PALATAL_HOOK;6CAPITAL_LETTER_B_WITH_FLOURISH;",
  "6SMALL_LETTER_B_WITH_FLOURISH;6CAPITAL_LETTER_F_WITH_STROKE;6SMALL_LETTER_F_WITH_STROKE;",
  "6CAPITAL_LETTER_VOLAPUK_AE;6SMALL_LETTER_VOLAPUK_AE;6CAPITAL_LETTER_VOLAPUK_OE;",
  "6SMALL_LETTER_VOLAPUK_OE;6CAPITAL_LETTER_VOLAPUK_UE;6SMALL_LETTER_VOLAPUK_UE;",
  "6CAPITAL_LETTER_G_WITH_OBLIQUE_STROKE;6SMALL_LETTER_G_WITH_OBLIQUE_STROKE;",
  "6CAPITAL_LETTER_K_WITH_OBLIQUE_STROKE;6SMALL_LETTER_K_WITH_OBLIQUE_STROKE;",
  "6CAPITAL_LETTER_N_WITH_OBLIQUE_STROKE;6SMALL_LETTER_N_WITH_OBLIQUE_STROKE;",
  "6CAPITAL_LETTER_R_WITH_OBLIQUE_STROKE;6SMALL_LETTER_R_WITH_OBLIQUE_STROKE;",
  "6CAPITAL_LETTER_S_WITH_OBLIQUE_STROKE;6SMALL_LETTER_S_WITH_OBLIQUE_STROKE;",
  "6CAPITAL_LETTER_H_WITH_HOOK;lREVERSED_OPEN_E;lSCRIPT_G;lL_WITH_BELT;lSMALL_CAPITAL_I;",
  "6LETTER_SMALL_CAPITAL_Q;6CAPITAL_LETTER_TURNED_K;sT;lJ_WITH_CROSSED-TAIL;lCHI;lBETA;",
  "6SMALL_LETTER_BETA;6CAPITAL_LETTER_OMEGA;6SMALL_LETTER_OMEGA;6CAPITAL_LETTER_U_WITH_STROKE;",
  "6SMALL_LETTER_U_WITH_STROKE;6CAPITAL_LETTER_GLOTTAL_A;6SMALL_LETTER_GLOTTAL_A;",
  "6CAPITAL_LETTER_GLOTTAL_I;6SMALL_LETTER_GLOTTAL_I;6CAPITAL_LETTER_GLOTTAL_U;",
  "6SMALL_LETTER_GLOTTAL_U;6CAPITAL_LETTER_OLD_POLISH_O;6SMALL_LETTER_OLD_POLISH_O;",
  "6CAPITAL_LETTER_ANGLICANA_W;6SMALL_LETTER_ANGLICANA_W;6CAPITAL_LETTER_C_WITH_PALATAL_HOOK;",
  "lS_WITH_HOOK;lZ_WITH_PALATAL_HOOK;lD_WITH_SHORT_STROKE_OVERLAY;",
  "6SMALL_LETTER_D_WITH_SHORT_STROKE_OVERLAY;6CAPITAL_LETTER_S_WITH_SHORT_STROKE_OVERLAY;",
  "6SMALL_LETTER_S_WITH_SHORT_STROKE_OVERLAY;>A7D0:6CAPITAL_LETTER_CLOSED_INSULAR_G;",
  "6SMALL_LETTER_CLOSED_INSULAR_G;>A7D3:jDOUBLE_THORN;>A7D5:qWYNN;6CAPITAL_LETTER_MIDDLE_SCOTS_S;",
  "6SMALL_LETTER_MIDDLE_SCOTS_S;6CAPITAL_LETTER_SIGMOID_S;6SMALL_LETTER_SIGMOID_S;",
  ">A7F2:0MODIFIER_LETTER_CAPITAL_C;oF;oQ;0LATIN_CAPITAL_LETTER_REVERSED_HALF_H;",
  "6SMALL_LETTER_REVERSED_HALF_H;6EPIGRAPHIC_LETTER_SIDEWAYS_I;",
  "0MODIFIER_LETTER_CAPITAL_H_WITH_STROKE;gSMALL_LIGATURE_OE;0LATIN_LETTER_SMALL_CAPITAL_TURNED_M;",
  "6EPIGRAPHIC_LETTER_REVERSED_F;xP;oINVERTED_M;p_LONGA;oARCHAIC_M;0SYLOTI_NAGRI_LETTER_A;kI;",
  "dSIGN_DVISVARA;dLETTER_U;kE;kO;dSIGN_HASANTA;dLETTER_KO;lHO;kGO;lHO;dSIGN_ANUSVARA;dLETTER_CO;",
  "lHO;kJO;lHO;kTTO;mHO;kDDO;mHO;kTO;lHO;kDO;lHO;kNO;kPO;lHO;kBO;lHO;kMO;kRO;kLO;kRRO;kSO;kHO;",
  "dVOWEL_SIGN_A;oI;oU;oE;oOO;dPOETRY_MARK-1;p2;p3;p4;dSIGN_ALTERNATE_HASANTA;",
  ">A830:0NORTH_INDIC_FRACTION_ONE_QUARTER;pHALF;lTHREE_QUARTERS;lONE_SIXTEENTH;pEIGHTH;",
  "lTHREE_SIXTEENTHS;cQUARTER_MARK;cPLACEHOLDER_MARK;cRUPEE_MARK;cQUANTITY_MARK;",
  ">A840:0PHAGS-PA_LETTER_KA;hHA;gGA;gNGA;gCA;hHA;gJA;gNYA;gTA;hHA;gDA;gNA;gPA;hHA;gBA;gMA;gTSA;",
  "iHA;gDZA;gWA;gZHA;hA;gSMALL_A;gYA;gRA;gLA;gSHA;hA;gHA;gA;gI;gU;gE;gO;gQA;gXA;gFA;gGGA;gEE;",
  "9SUBJOINED_LETTER_WA;qYA;9LETTER_TTA;iHA;gDDA;gNNA;gALTERNATE_YA;gVOICELESS_SHA;lD_HA;",
  "gASPIRATED_FA;9SUBJOINED_LETTER_RA;bPERFIXED_LETTER_RA;9LETTER_CANDRABINDU;9SINGLE_HEAD_MARK;",
  "9DOUBLE_HEAD_MARK;9MARK_SHAD;eDOUBLE_SHAD;>A880:0SAURASHTRA_SIGN_ANUSVARA;gVISARGA;bLETTER_A;",
  "jA;iI;jI;iU;jU;iVOCALIC_R;rR;qL;rL;iE;jE;iAI;iO;jO;iAU;iKA;jHA;iGA;jHA;iNGA;iCA;jHA;iJA;jHA;",
  "iNYA;iTTA;kHA;iDDA;kHA;iNNA;iTA;jHA;iDA;jHA;iNA;iPA;jHA;iBA;jHA;iMA;iYA;iRA;iLA;iVA;iSHA;jSA;",
  "jA;iHA;iLLA;bCONSONANT_SIGN_HAARU;bVOWEL_SIGN_AA;mI;nI;mU;nU;mVOCALIC_R;vR;uL;vL;mE;nE;mAI;mO;",
  "nO;mAU;bSIGN_VIRAMA;gCANDRABINDU;>A8CE:bDANDA;cOUBLE_DANDA;cIGIT_ZERO;hONE;hTWO;iHREE;hFOUR;",
  "iIVE;hSIX;iEVEN;hEIGHT;hNINE;>A8E0:0COMBINING_DEVANAGARI_DIGIT_ZERO;rONE;rTWO;sHREE;rFOUR;sIVE;",
  "rSIX;sEVEN;rEIGHT;rNINE;lLETTER_A;sU;sKA;sNA;sPA;sRA;sVI;lSIGN_AVAGRAHA;",
  "0DEVANAGARI_SIGN_SPACING_CANDRABINDU;gCANDRABINDU_VIRAMA;gDOUBLE_CANDRABINDU_VIRAMA;",
  "gCANDRABINDU_TWO;tHREE;sAVAGRAHA;gPUSHPIKA;bGAP_FILLER;bCARET;bHEADSTROKE;bSIGN_SIDDHAM;",
  "bJAIN_OM;bLETTER_AY;bVOWEL_SIGN_AY;0KAYAH_LI_DIGIT_ZERO;fONE;fTWO;gHREE;fFOUR;gIVE;fSIX;gEVEN;",
  "fEIGHT;fNINE;9LETTER_KA;hHA;gGA;gNGA;gSA;hHA;gZA;gNYA;gTA;gHTA;gNA;gPA;hHA;gMA;gDA;gBA;gRA;gYA;",
  "gLA;gWA;gTHA;gHA;gVA;gCA;gA;gOE;gI;gOO;9VOWEL_UE;fE;fU;fEE;fO;9TONE_PLOPHU;eCALYA;j_PLOPHU;",
  "9SIGN_CWI;eSHYA;0REJANG_LETTER_KA;eGA;eNGA;eTA;eDA;eNA;ePA;eBA;eMA;eCA;eJA;eNYA;eSA;eRA;eLA;",
  "eYA;eWA;eHA;eMBA;eNGGA;fDA;fYJA;eA;7VOWEL_SIGN_I;iU;iE;iAI;iO;iAU;iEU;jA;7CONSONANT_SIGN_NG;n;",
  "mR;mH;7VIRAMA;>A95F:7SECTION_MARK;0HANGUL_CHOSEONG_TIKEUT-MIEUM;nPIEUP;nSIOS;nCIEUC;",
  "gRIEUL-KIYEOK;mSSANGKIYEOK;mTIKEUT;mSSANGTIKEUT;mMIEUM;mPIEUP;mSSANGPIEUP;mKAPYEOUNPIEUP;mSIOS;",
  "mCIEUC;mKHIEUKH;gMIEUM-KIYEOK;mTIKEUT;mSIOS;gPIEUP-SIOS-THIEUTH;mKHIEUKH;mHIEUH;",
  "gSSANGSIOS-PIEUP;gIEUNG-RIEUL;mHIEUH;gSSANGCIEUC-HIEUH;lTHIEUTH;gPHIEUPH-HIEUH;gHIEUH-SIOS;",
  "gSSANGYEORINHIEUH;>A980:0JAVANESE_SIGN_PANYANGGA;eCECAK;eLAYAR;eWIGNYAN;9LETTER_A;gI_KAWI;h;hI;",
  "gU;gPA_CEREK;gNGA_LELET;p_RASWADI;gE;gAI;gO;gKA;i_SASAK;jMURDA;gGA;i_MURDA;gNGA;gCA;i_MURDA;",
  "gJA;gNYA_MURDA;gJA_MAHAPRANA;gNYA;gTTA;j_MAHAPRANA;gDDA;j_MAHAPRANA;gNA_MURDA;gTA;i_MURDA;gDA;",
  "i_MAHAPRANA;gNA;gPA;i_MURDA;gBA;i_MURDA;gMA;gYA;gRA;i_AGUNG;gLA;gWA;gSA_MURDA;kAHAPRANA;i;gHA;",
  "9SIGN_CECAK_TELU;9VOWEL_SIGN_TARUNG;lOLONG;kWULU;o_MELIK;kSUKU;o_MENDUT;kTALING;kDIRGA_MURE;",
  "kPEPET;9CONSONANT_SIGN_KERET;oPENGKAL;oCAKRA;9PANGKON;9LEFT_RERENGGAN;9RIGHT_RERENGGAN;",
  "9PADA_ANDAP;eMADYA;eLUHUR;eWINDU;ePANGKAT;eLINGSA;fUNGSI;eADEG;i_ADEG;ePISELEH;",
  "9TURNED_PADA_PISELEH;>A9CF:9PANGRANGKEP;9DIGIT_ZERO;fONE;fTWO;gHREE;fFOUR;gIVE;fSIX;gEVEN;",
  "fEIGHT;fNINE;>A9DE:9PADA_TIRTA_TUMETES;eISEN-ISEN;0MYANMAR_LETTER_SHAN_GHA;kCHA;kJHA;kNNA;kBHA;",
  "8SIGN_SHAN_SAW;8MODIFIER_LETTER_SHAN_REDUPLICATION;8LETTER_TAI_LAING_NYA;pFA;pGA;qHA;pJA;qHA;",
  "pDDA;rHA;pNNA;8TAI_LAING_DIGIT_ZERO;oONE;oTWO;pHREE;oFOUR;pIVE;oSIX;pEVEN;oEIGHT;oNINE;",
  "8LETTER_TAI_LAING_LLA;pDA;qHA;pBA;qHA;>AA00:0CHAM_LETTER_A;cI;cU;cE;cAI;cO;cKA;dHA;cGA;dHA;",
  "cNGUE;eA;cCHA;eHA;cJA;dHA;cNHUE;eA;eJA;cTA;dHA;cDA;dHA;cNUE;dA;cDDA;cPA;dPA;dHA;cBA;dHA;cMUE;",
  "dA;cBBA;cYA;cRA;cLA;cVA;cSSA;dA;cHA;5VOWEL_SIGN_AA;gI;hI;gEI;gU;gOE;h;gAI;hU;gUE;",
  "5CONSONANT_SIGN_YA;kRA;kLA;kWA;>AA40:5LETTER_FINAL_K;iG;iNG;5CONSONANT_SIGN_FINAL_NG;",
  "5LETTER_FINAL_CH;iT;iN;iP;iY;iR;iL;iSS;5CONSONANT_SIGN_FINAL_M;qH;>AA50:5DIGIT_ZERO;bONE;bTWO;",
  "cHREE;bFOUR;cIVE;bSIX;cEVEN;bEIGHT;bNINE;>AA5C:5PUNCTUATION_SPIRAL;hDANDA;iOUBLE_DANDA;",
  "hTRIPLE_DANDA;0MYANMAR_LETTER_KHAMTI_GA;mCA;nHA;mJA;nHA;mNYA;mTTA;oHA;mDDA;oHA;nHA;mNA;mSA;mHA;",
  "nHA;mFA;8MODIFIER_LETTER_KHAMTI_REDUPLICATION;8LETTER_KHAMTI_XA;mZA;mRA;9OGOGRAM_KHAMTI_OAY;",
  "oQN;oHM;8SYMBOL_AITON_EXCLAMATION;lONE;lTWO;8LETTER_AITON_RA;8SIGN_PAO_KAREN_TONE;",
  "dTAI_LAING_TONE-2;s5;8LETTER_SHWE_PALAUNG_CHA;sSHA;0TAI_VIET_LETTER_LOW_KO;gHIGH_KO;gLOW_KHO;",
  "gHIGH_KHO;gLOW_KHHO;gHIGH_KHHO;gLOW_GO;gHIGH_GO;gLOW_NGO;gHIGH_NGO;gLOW_CO;gHIGH_CO;gLOW_CHO;",
  "gHIGH_CHO;gLOW_SO;gHIGH_SO;gLOW_NYO;gHIGH_NYO;gLOW_DO;gHIGH_DO;gLOW_TO;gHIGH_TO;gLOW_THO;",
  "gHIGH_THO;gLOW_NO;gHIGH_NO;gLOW_BO;gHIGH_BO;gLOW_PO;gHIGH_PO;gLOW_PHO;gHIGH_PHO;gLOW_FO;",
  "gHIGH_FO;gLOW_MO;gHIGH_MO;gLOW_YO;gHIGH_YO;gLOW_RO;gHIGH_RO;gLOW_LO;gHIGH_LO;gLOW_VO;gHIGH_VO;",
  "gLOW_HO;gHIGH_HO;gLOW_O;gHIGH_O;9MAI_KANG;9VOWEL_AA;fI;fUE;g;fE;fO;9MAI_KHIT;9VOWEL_IA;fUEA;gA;",
  "fAUE;gY;gN;gM;9TONE_MAI_EK;iNUENG;iTHO;iSONG;>AADB:9SYMBOL_KON;gNUENG;gSAM;gHO_HOI;gKOI_KOI;",
  "0MEETEI_MAYEK_LETTER_E;kO;kCHA;kNYA;kTTA;mHA;kDDA;mHA;kNNA;kSHA;lSA;dVOWEL_SIGN_II;oUU;oAAI;pU;",
  "pAU;dCHEIKHAN;dAHANG_KHUDAM;eNJI;dSYLLABLE_REPETITION_MARK;dWORD_REPETITION_MARK;",
  "dVOWEL_SIGN_VISARGA;eIRAMA;>AB01:0ETHIOPIC_SYLLABLE_TTHU;lI;lAA;lEE;m;lO;>AB09:iDDHU;lI;lAA;",
  "lEE;m;lO;>AB11:jZU;kI;kAA;kEE;l;kO;>AB20:iCCHHA;mU;mI;mAA;mEE;n;mO;>AB28:iBBA;kU;kI;kAA;kEE;l;",
  "kO;>AB30:0LATIN_SMALL_LETTER_BARRED_ALPHA;jA_REVERSED-SCHWA;jBLACKLETTER_E;kARRED_E;",
  "jE_WITH_FLOURISH;jLENIS_F;jSCRIPT_G_WITH_CROSSED-TAIL;jL_WITH_INVERTED_LAZY_S;",
  "qDOUBLE_MIDDLE_TILDE;qMIDDLE_RING;jM_WITH_CROSSED-TAIL;jN_WITH_CROSSED-TAIL;",
  "jENG_WITH_CROSSED-TAIL;jBLACKLETTER_O;w_WITH_STROKE;jOPEN_O_WITH_STROKE;jINVERTED_OE;",
  "jTURNED_OE_WITH_STROKE;yHORIZONTAL_STROKE;r_OPEN-O;y_WITH_STROKE;jSTIRRUP_R;",
  "6LETTER_SMALL_CAPITAL_R_WITH_RIGHT_LEG;6SMALL_LETTER_R_WITHOUT_HANDLE;jDOUBLE_R;",
  "jR_WITH_CROSSED-TAIL;jDOUBLE_R_WITH_CROSSED-TAIL;jSCRIPT_R;r_WITH_RING;jBASELINE_ESH;",
  "jU_WITH_SHORT_RIGHT_LEG;lBAR_WITH_SHORT_RIGHT_LEG;kI;jTURNED_UI;jU_WITH_LEFT_HOOK;jCHI;",
  "m_WITH_LOW_RIGHT_RING;wLEFT_SERIF;jX_WITH_LOW_RIGHT_RING;sNG_LEFT_LEG;D_AND_LOW_RIGHT_RING;",
  "EWITH_SERIF;jY_WITH_SHORT_RIGHT_LEG;0MODIFIER_BREVE_WITH_INVERTED_BREVE;9LETTER_SMALL_HENG;",
  "mL_WITH_INVERTED_LAZY_S;tMIDDLE_TILDE;mU_WITH_LEFT_HOOK;0LATIN_SMALL_LETTER_SAKHA_YAT;",
  "jIOTIFIED_E;jOPEN_OE;jUO;jINVERTED_ALPHA;0GREEK_LETTER_SMALL_CAPITAL_OMEGA;",
  "0LATIN_SMALL_LETTER_DZ_DIGRAPH_WITH_RETROFLEX_HOOK;jTS_DIGRAPH_WITH_RETROFLEX_HOOK;",
  "kURNED_R_WITH_MIDDLE_TILDE;0MODIFIER_LETTER_SMALL_TURNED_W;gLEFT_TACK;gRIGHT_TACK;",
  ">AB70:0CHEROKEE_SMALL_LETTER_A;mE;mI;mO;mU;mV;mGA;mKA;mGE;nI;nO;nU;nV;mHA;nE;nI;nO;nU;nV;mLA;",
  "nE;nI;nO;nU;nV;mMA;nE;nI;nO;nU;mNA;mHNA;mNAH;nE;nI;nO;nU;nV;mQUA;oE;oI;oO;oU;oV;mSA;n;nE;nI;nO;",
  "nU;nV;mDA;mTA;mDE;mTE;mDI;mTI;mDO;nU;nV;nLA;mTLA;oE;oI;oO;oU;oV;nSA;oE;oI;oO;oU;oV;mWA;nE;nI;",
  "nO;nU;nV;mYA;0MEETEI_MAYEK_LETTER_KOK;kSAM;kLAI;kMIT;kPA;kNA;kCHIL;kTIL;kKHOU;kNGOU;kTHOU;kWAI;",
  "kYANG;kHUK;kUN;kI;kPHAM;kATIYA;kGOK;kJHAM;kRAI;kBA;kJIL;kDIL;kGHOU;kDHOU;kBHAM;kKOK_LONSUM;",
  "kLAI_LONSUM;kMIT_LONSUM;kPA_LONSUM;kNA_LONSUM;kTIL_LONSUM;kNGOU_LONSUM;kI_LONSUM;",
  "dVOWEL_SIGN_ONAP;oINAP;oANAP;oYENAP;oSOUNAP;oUNAP;oCHEINAP;oNUNG;dCHEIKHEI;dLUM_IYEK;",
  "dAPUN_IYEK;>ABF0:dDIGIT_ZERO;jONE;jTWO;kHREE;jFOUR;kIVE;jSIX;kEVEN;jEIGHT;jNINE;",
  ">D7B0:0HANGUL_JUNGSEONG_O-YEO;jO-I;hYO-A;lE;kEO;hU-YEO;jI-I;hYU-AE;kO;hEU-A;kEO;l;kO;hI-YA-O;",
  "lE;kEO;l;jO-I;jYO;kU;jI;hARAEA-A;nE;>D7CB:8ONGSEONG_NIEUN-RIEUL;nCHIEUCH;hSSANGTIKEUT;s-PIEUP;",
  "hTIKEUT-PIEUP;oSIOS;s-KIYEOK;oCIEUC;pHIEUCH;oTHIEUTH;hRIEUL-SSANGKIYEOK;nKIYEOK-HIEUH;",
  "hSSANGRIEUL-KHIEUKH;hRIEUL-MIEUM-HIEUH;nPIEUP-TIKEUT;tPHIEUPH;nYESIEUNG;pORINHIEUH-HIEUH;",
  "hKAPYEOUNRIEUL;hMIEUM-NIEUN;nSSANGNIEUN;hSSANGMIEUM;hMIEUM-PIEUP-SIOS;nCIEUC;hPIEUP-TIKEUT;",
  "nRIEUL-PHIEUPH;nMIEUM;hSSANGPIEUP;hPIEUP-SIOS-TIKEUT;nCIEUC;oHIEUCH;hSIOS-MIEUM;mKAPYEOUNPIEUP;",
  "iSANGSIOS-KIYEOK;rTIKEUT;iIOS-PANSIOS;mCIEUC;nHIEUCH;mTHIEUTH;mHIEUH;hPANSIOS-PIEUP;",
  "pKAPYEOUNPIEUP;hYESIEUNG-MIEUM;qHIEUH;hCIEUC-PIEUP;nSSANGPIEUP;hSSANGCIEUC;hPHIEUPH-SIOS;",
  "pTHIEUTH;>F900:0CJK_COMPATIBILITY_IDEOGRAPH-F900;v1;v2;v3;v4;v5;v6;v7;v8;v9;vA;vB;vC;vD;vE;vF;",
  "u10;v1;v2;v3;v4;v5;v6;v7;v8;v9;vA;vB;vC;vD;vE;vF;u20;v1;v2;v3;v4;v5;v6;v7;v8;v9;vA;vB;vC;vD;vE;",
  "vF;u30;v1;v2;v3;v4;v5;v6;v7;v8;v9;vA;vB;vC;vD;vE;vF;u40;v1;v2;v3;v4;v5;v6;v7;v8;v9;vA;vB;vC;vD;",
  "vE;vF;u50;v1;v2;v3;v4;v5;v6;v7;v8;v9;vA;vB;vC;vD;vE;vF;u60;v1;v2;v3;v4;v5;v6;v7;v8;v9;vA;vB;vC;",
  "vD;vE;vF;u70;v1;v2;v3;v4;v5;v6;v7;v8;v9;vA;vB;vC;vD;vE;vF;u80;v1;v2;v3;v4;v5;v6;v7;v8;v9;vA;vB;",
  "vC;vD;vE;vF;u90;v1;v2;v3;v4;v5;v6;v7;v8;v9;vA;vB;vC;vD;vE;vF;uA0;v1;v2;v3;v4;v5;v6;v7;v8;v9;vA;",
  "vB;vC;vD;vE;vF;uB0;v1;v2;v3;v4;v5;v6;v7;v8;v9;vA;vB;vC;vD;vE;vF;uC0;v1;v2;v3;v4;v5;v6;v7;v8;v9;",
  "vA;vB;vC;vD;vE;vF;uD0;v1;v2;v3;v4;v5;v6;v7;v8;v9;vA;vB;vC;vD;vE;vF;uE0;v1;v2;v3;v4;v5;v6;v7;v8;",
  "v9;vA;vB;vC;vD;vE;vF;uF0;v1;v2;v3;v4;v5;v6;v7;v8;v9;vA;vB;vC;vD;vE;vF;tA00;v1;v2;v3;v4;v5;v6;",
  "v7;v8;v9;vA;vB;vC;vD;vE;vF;u10;v1;v2;v3;v4;v5;v6;v7;v8;v9;vA;vB;vC;vD;vE;vF;u20;v1;v2;v3;v4;v5;",
  "v6;v7;v8;v9;vA;vB;vC;vD;vE;vF;u30;v1;v2;v3;v4;v5;v6;v7;v8;v9;vA;vB;vC;vD;vE;vF;u40;v1;v2;v3;v4;",
  "v5;v6;v7;v8;v9;vA;vB;vC;vD;vE;vF;u50;v1;v2;v3;v4;v5;v6;v7;v8;v9;vA;vB;vC;vD;vE;vF;u60;v1;v2;v3;",
  "v4;v5;v6;v7;v8;v9;vA;vB;vC;vD;>FA70:u70;v1;v2;v3;v4;v5;v6;v7;v8;v9;vA;vB;vC;vD;vE;vF;u80;v1;v2;",
  "v3;v4;v5;v6;v7;v8;v9;vA;vB;vC;vD;vE;vF;u90;v1;v2;v3;v4;v5;v6;v7;v8;v9;vA;vB;vC;vD;vE;vF;uA0;v1;",
  "v2;v3;v4;v5;v6;v7;v8;v9;vA;vB;vC;vD;vE;vF;uB0;v1;v2;v3;v4;v5;v6;v7;v8;v9;vA;vB;vC;vD;vE;vF;uC0;",
  "v1;v2;v3;v4;v5;v6;v7;v8;v9;vA;vB;vC;vD;vE;vF;uD0;v1;v2;v3;v4;v5;v6;v7;v8;v9;",
  ">FB00:0LATIN_SMALL_LIGATURE_FF;mI;mL;mFI;nL;lLONG_S_T;lST;",
  ">FB13:0ARMENIAN_SMALL_LIGATURE_MEN_NOW;sECH;sINI;oVEW_NOW;oMEN_XEH;",
  ">FB1D:0HEBREW_LETTER_YOD_WITH_HIRIQ;7POINT_JUDEO-SPANISH_VARIKA;",
  "7LIGATURE_YIDDISH_YOD_YOD_PATAH;8ETTER_ALTERNATIVE_AYIN;eWIDE_ALEF;jDALET;jHE;jKAF;jLAMED;",
  "jFINAL_MEM;jRESH;jTAV;eALTERNATIVE_PLUS_SIGN;eSHIN_WITH_SHIN_DOT;pIN_DOT;oDAGESH_AND_SHIN_DOT;",
  "AIN_DOT;eALEF_WITH_PATAH;oQAMATS;oMAPIQ;eBET_WITH_DAGESH;eGIMEL_WITH_DAGESH;eDALET_WITH_DAGESH;",
  "eHE_WITH_MAPIQ;eVAV_WITH_DAGESH;eZAYIN_WITH_DAGESH;>FB38:eTET_WITH_DAGESH;eYOD_WITH_DAGESH;",
  "eFINAL_KAF_WITH_DAGESH;eKAF_WITH_DAGESH;eLAMED_WITH_DAGESH;>FB3E:eMEM_WITH_DAGESH;",
  ">FB40:eNUN_WITH_DAGESH;eSAMEKH_WITH_DAGESH;>FB43:eFINAL_PE_WITH_DAGESH;ePE_WITH_DAGESH;",
  ">FB46:eTSADI_WITH_DAGESH;eQOF_WITH_DAGESH;eRESH_WITH_DAGESH;eSHIN_WITH_DAGESH;eTAV_WITH_DAGESH;",
  "eVAV_WITH_HOLAM;eBET_WITH_RAFE;eKAF_WITH_RAFE;ePE_WITH_RAFE;8IGATURE_ALEF_LAMED;",
  "0ARABIC_LETTER_ALEF_WASLA_ISOLATED_FORM;pFINAL_FORM;eBEEH_ISOLATED_FORM;jFINAL_FORM;",
  "jINITIAL_FORM;jMEDIAL_FORM;ePEH_ISOLATED_FORM;iFINAL_FORM;iINITIAL_FORM;iMEDIAL_FORM;",
  "eBEHEH_ISOLATED_FORM;kFINAL_FORM;kINITIAL_FORM;kMEDIAL_FORM;eTTEHEH_ISOLATED_FORM;lFINAL_FORM;",
  "lINITIAL_FORM;lMEDIAL_FORM;fEHEH_ISOLATED_FORM;kFINAL_FORM;kINITIAL_FORM;kMEDIAL_FORM;",
  "fTEH_ISOLATED_FORM;jFINAL_FORM;jINITIAL_FORM;jMEDIAL_FORM;eVEH_ISOLATED_FORM;iFINAL_FORM;",
  "iINITIAL_FORM;iMEDIAL_FORM;ePEHEH_ISOLATED_FORM;kFINAL_FORM;kINITIAL_FORM;kMEDIAL_FORM;",
  "eDYEH_ISOLATED_FORM;jFINAL_FORM;jINITIAL_FORM;jMEDIAL_FORM;eNYEH_ISOLATED_FORM;jFINAL_FORM;",
  "jINITIAL_FORM;jMEDIAL_FORM;eTCHEH_ISOLATED_FORM;kFINAL_FORM;kINITIAL_FORM;kMEDIAL_FORM;",
  "jEH_ISOLATED_FORM;mFINAL_FORM;mINITIAL_FORM;mMEDIAL_FORM;eDDAHAL_ISOLATED_FORM;lFINAL_FORM;",
  "fAHAL_ISOLATED_FORM;kFINAL_FORM;fUL_ISOLATED_FORM;iFINAL_FORM;fDAL_ISOLATED_FORM;jFINAL_FORM;",
  "eJEH_ISOLATED_FORM;iFINAL_FORM;eRREH_ISOLATED_FORM;jFINAL_FORM;eKEHEH_ISOLATED_FORM;",
  "kFINAL_FORM;kINITIAL_FORM;kMEDIAL_FORM;eGAF_ISOLATED_FORM;iFINAL_FORM;iINITIAL_FORM;",
  "iMEDIAL_FORM;fUEH_ISOLATED_FORM;jFINAL_FORM;jINITIAL_FORM;jMEDIAL_FORM;eNGOEH_ISOLATED_FORM;",
  "kFINAL_FORM;kINITIAL_FORM;kMEDIAL_FORM;fOON_GHUNNA_ISOLATED_FORM;qFINAL_FORM;",
  "eRNOON_ISOLATED_FORM;kFINAL_FORM;kINITIAL_FORM;kMEDIAL_FORM;eHEH_WITH_YEH_ABOVE_ISOLATED_FORM;",
  "xFINAL_FORM;iGOAL_ISOLATED_FORM;nFINAL_FORM;nINITIAL_FORM;nMEDIAL_FORM;",
  "iDOACHASHMEE_ISOLATED_FORM;uFINAL_FORM;uINITIAL_FORM;uMEDIAL_FORM;eYEH_BARREE_ISOLATED_FORM;",
  "pFINAL_FORM;pWITH_HAMZA_ABOVE_ISOLATED_FORM;GFINAL_FORM;7SYMBOL_DOT_ABOVE;iBELOW;",
  "eTWO_DOTS_ABOVE;nBELOW;fHREE_DOTS_ABOVE;pBELOW;pPOINTING_DOWNWARDS_ABOVE;IBELOW;",
  "eFOUR_DOTS_ABOVE;oBELOW;eDOUBLE_VERTICAL_BAR_BELOW;eTWO_DOTS_VERTICALLY_ABOVE;yBELOW;eRING;",
  "eSMALL_TAH_ABOVE;oBELOW;eWASLA_ABOVE;>FBD3:7LETTER_NG_ISOLATED_FORM;hFINAL_FORM;hINITIAL_FORM;",
  "hMEDIAL_FORM;eU_ISOLATED_FORM;gFINAL_FORM;eOE_ISOLATED_FORM;hFINAL_FORM;eYU_ISOLATED_FORM;",
  "hFINAL_FORM;eU_WITH_HAMZA_ABOVE_ISOLATED_FORM;eVE_ISOLATED_FORM;hFINAL_FORM;",
  "eKIRGHIZ_OE_ISOLATED_FORM;pFINAL_FORM;mYU_ISOLATED_FORM;pFINAL_FORM;eE_ISOLATED_FORM;",
  "gFINAL_FORM;gINITIAL_FORM;gMEDIAL_FORM;eUIGHUR_KAZAKH_KIRGHIZ_ALEF_MAKSURA_INITIAL_FORM;",
  "NMEDIAL_FORM;8IGATURE_YEH_WITH_HAMZA_ABOVE_WITH_ALEF_ISOLATED_FORM;LFINAL_FORM;",
  "HE_ISOLATED_FORM;JFINAL_FORM;GWAW_ISOLATED_FORM;KFINAL_FORM;GU_ISOLATED_FORM;IFINAL_FORM;",
  "GOE_ISOLATED_FORM;JFINAL_FORM;GYU_ISOLATED_FORM;JFINAL_FORM;GE_ISOLATED_FORM;IFINAL_FORM;",
  "IINITIAL_FORM;gUIGHUR_KIRGHIZ_YEH_WITH_HAMZA_ABOVE_WITH_ALEF_MAKSURA_ISOLATED_FORM;",
  "Z_MAKSURA_FINAL_FORM;Z_MAKSURA_INITIAL_FORM;8ETTER_FARSI_YEH_ISOLATED_FORM;oFINAL_FORM;",
  "oINITIAL_FORM;oMEDIAL_FORM;8IGATURE_YEH_WITH_HAMZA_ABOVE_WITH_JEEM_ISOLATED_FORM;",
  "GHAH_ISOLATED_FORM;GMEEM_ISOLATED_FORM;GALEF_MAKSURA_ISOLATED_FORM;GYEH_ISOLATED_FORM;",
  "gBEH_WITH_JEEM_ISOLATED_FORM;pHAH_ISOLATED_FORM;pKHAH_ISOLATED_FORM;pMEEM_ISOLATED_FORM;",
  "pALEF_MAKSURA_ISOLATED_FORM;pYEH_ISOLATED_FORM;gTEH_WITH_JEEM_ISOLATED_FORM;pHAH_ISOLATED_FORM;",
  "pKHAH_ISOLATED_FORM;pMEEM_ISOLATED_FORM;pALEF_MAKSURA_ISOLATED_FORM;pYEH_ISOLATED_FORM;",
  "hHEH_WITH_JEEM_ISOLATED_FORM;qMEEM_ISOLATED_FORM;qALEF_MAKSURA_ISOLATED_FORM;",
  "qYEH_ISOLATED_FORM;gJEEM_WITH_HAH_ISOLATED_FORM;qMEEM_ISOLATED_FORM;",
  "gHAH_WITH_JEEM_ISOLATED_FORM;pMEEM_ISOLATED_FORM;gKHAH_WITH_JEEM_ISOLATED_FORM;",
  "qHAH_ISOLATED_FORM;qMEEM_ISOLATED_FORM;gSEEN_WITH_JEEM_ISOLATED_FORM;qHAH_ISOLATED_FORM;",
  "qKHAH_ISOLATED_FORM;qMEEM_ISOLATED_FORM;hAD_WITH_HAH_ISOLATED_FORM;pMEEM_ISOLATED_FORM;",
  "gDAD_WITH_JEEM_ISOLATED_FORM;pHAH_ISOLATED_FORM;pKHAH_ISOLATED_FORM;pMEEM_ISOLATED_FORM;",
  "gTAH_WITH_HAH_ISOLATED_FORM;pMEEM_ISOLATED_FORM;gZAH_WITH_MEEM_ISOLATED_FORM;",
  "gAIN_WITH_JEEM_ISOLATED_FORM;pMEEM_ISOLATED_FORM;gGHAIN_WITH_JEEM_ISOLATED_FORM;",
  "rMEEM_ISOLATED_FORM;gFEH_WITH_JEEM_ISOLATED_FORM;pHAH_ISOLATED_FORM;pKHAH_ISOLATED_FORM;",
  "pMEEM_ISOLATED_FORM;pALEF_MAKSURA_ISOLATED_FORM;pYEH_ISOLATED_FORM;gQAF_WITH_HAH_ISOLATED_FORM;",
  "pMEEM_ISOLATED_FORM;pALEF_MAKSURA_ISOLATED_FORM;pYEH_ISOLATED_FORM;",
  "gKAF_WITH_ALEF_ISOLATED_FORM;pJEEM_ISOLATED_FORM;pHAH_ISOLATED_FORM;pKHAH_ISOLATED_FORM;",
  "pLAM_ISOLATED_FORM;pMEEM_ISOLATED_FORM;pALEF_MAKSURA_ISOLATED_FORM;pYEH_ISOLATED_FORM;",
  "gLAM_WITH_JEEM_ISOLATED_FORM;pHAH_ISOLATED_FORM;pKHAH_ISOLATED_FORM;pMEEM_ISOLATED_FORM;",
  "pALEF_MAKSURA_ISOLATED_FORM;pYEH_ISOLATED_FORM;gMEEM_WITH_JEEM_ISOLATED_FORM;",
  "qHAH_ISOLATED_FORM;qKHAH_ISOLATED_FORM;qMEEM_ISOLATED_FORM;qALEF_MAKSURA_ISOLATED_FORM;",
  "qYEH_ISOLATED_FORM;gNOON_WITH_JEEM_ISOLATED_FORM;qHAH_ISOLATED_FORM;qKHAH_ISOLATED_FORM;",
  "qMEEM_ISOLATED_FORM;qALEF_MAKSURA_ISOLATED_FORM;qYEH_ISOLATED_FORM;",
  "gHEH_WITH_JEEM_ISOLATED_FORM;pMEEM_ISOLATED_FORM;pALEF_MAKSURA_ISOLATED_FORM;",
  "pYEH_ISOLATED_FORM;gYEH_WITH_JEEM_ISOLATED_FORM;pHAH_ISOLATED_FORM;pKHAH_ISOLATED_FORM;",
  "pMEEM_ISOLATED_FORM;pALEF_MAKSURA_ISOLATED_FORM;pYEH_ISOLATED_FORM;",
  "gTHAL_WITH_SUPERSCRIPT_ALEF_ISOLATED_FORM;gREH_WITH_SUPERSCRIPT_ALEF_ISOLATED_FORM;",
  "gALEF_MAKSURA_WITH_SUPERSCRIPT_ALEF_ISOLATED_FORM;gSHADDA_WITH_DAMMATAN_ISOLATED_FORM;",
  "sKASRATAN_ISOLATED_FORM;sFATHA_ISOLATED_FORM;sDAMMA_ISOLATED_FORM;sKASRA_ISOLATED_FORM;",
  "sSUPERSCRIPT_ALEF_ISOLATED_FORM;gYEH_WITH_HAMZA_ABOVE_WITH_REH_FINAL_FORM;GZAIN_FINAL_FORM;",
  "GMEEM_FINAL_FORM;GNOON_FINAL_FORM;GALEF_MAKSURA_FINAL_FORM;GYEH_FINAL_FORM;",
  "gBEH_WITH_REH_FINAL_FORM;pZAIN_FINAL_FORM;pMEEM_FINAL_FORM;pNOON_FINAL_FORM;",
  "pALEF_MAKSURA_FINAL_FORM;pYEH_FINAL_FORM;gTEH_WITH_REH_FINAL_FORM;pZAIN_FINAL_FORM;",
  "pMEEM_FINAL_FORM;pNOON_FINAL_FORM;pALEF_MAKSURA_FINAL_FORM;pYEH_FINAL_FORM;",
  "hHEH_WITH_REH_FINAL_FORM;qZAIN_FINAL_FORM;qMEEM_FINAL_FORM;qNOON_FINAL_FORM;",
  "qALEF_MAKSURA_FINAL_FORM;qYEH_FINAL_FORM;gFEH_WITH_ALEF_MAKSURA_FINAL_FORM;pYEH_FINAL_FORM;",
  "gQAF_WITH_ALEF_MAKSURA_FINAL_FORM;pYEH_FINAL_FORM;gKAF_WITH_ALEF_FINAL_FORM;pLAM_FINAL_FORM;",
  "pMEEM_FINAL_FORM;pALEF_MAKSURA_FINAL_FORM;pYEH_FINAL_FORM;gLAM_WITH_MEEM_FINAL_FORM;",
  "pALEF_MAKSURA_FINAL_FORM;pYEH_FINAL_FORM;gMEEM_WITH_ALEF_FINAL_FORM;qMEEM_FINAL_FORM;",
  "gNOON_WITH_REH_FINAL_FORM;qZAIN_FINAL_FORM;qMEEM_FINAL_FORM;qNOON_FINAL_FORM;",
  "qALEF_MAKSURA_FINAL_FORM;qYEH_FINAL_FORM;gALEF_MAKSURA_WITH_SUPERSCRIPT_ALEF_FINAL_FORM;",
  "gYEH_WITH_REH_FINAL_FORM;pZAIN_FINAL_FORM;pMEEM_FINAL_FORM;pNOON_FINAL_FORM;",
  "pALEF_MAKSURA_FINAL_FORM;pYEH_FINAL_FORM;pHAMZA_ABOVE_WITH_JEEM_INITIAL_FORM;GHAH_INITIAL_FORM;",
  "GKHAH_INITIAL_FORM;GMEEM_INITIAL_FORM;GHEH_INITIAL_FORM;gBEH_WITH_JEEM_INITIAL_FORM;",
  "pHAH_INITIAL_FORM;pKHAH_INITIAL_FORM;pMEEM_INITIAL_FORM;pHEH_INITIAL_FORM;",
  "gTEH_WITH_JEEM_INITIAL_FORM;pHAH_INITIAL_FORM;pKHAH_INITIAL_FORM;pMEEM_INITIAL_FORM;",
  "pHEH_INITIAL_FORM;hHEH_WITH_MEEM_INITIAL_FORM;gJEEM_WITH_HAH_INITIAL_FORM;qMEEM_INITIAL_FORM;",
  "gHAH_WITH_JEEM_INITIAL_FORM;pMEEM_INITIAL_FORM;gKHAH_WITH_JEEM_INITIAL_FORM;qMEEM_INITIAL_FORM;",
  "gSEEN_WITH_JEEM_INITIAL_FORM;qHAH_INITIAL_FORM;qKHAH_INITIAL_FORM;qMEEM_INITIAL_FORM;",
  "hAD_WITH_HAH_INITIAL_FORM;pKHAH_INITIAL_FORM;pMEEM_INITIAL_FORM;gDAD_WITH_JEEM_INITIAL_FORM;",
  "pHAH_INITIAL_FORM;pKHAH_INITIAL_FORM;pMEEM_INITIAL_FORM;gTAH_WITH_HAH_INITIAL_FORM;",
  "gZAH_WITH_MEEM_INITIAL_FORM;gAIN_WITH_JEEM_INITIAL_FORM;pMEEM_INITIAL_FORM;",
  "gGHAIN_WITH_JEEM_INITIAL_FORM;rMEEM_INITIAL_FORM;gFEH_WITH_JEEM_INITIAL_FORM;pHAH_INITIAL_FORM;",
  "pKHAH_INITIAL_FORM;pMEEM_INITIAL_FORM;gQAF_WITH_HAH_INITIAL_FORM;pMEEM_INITIAL_FORM;",
  "gKAF_WITH_JEEM_INITIAL_FORM;pHAH_INITIAL_FORM;pKHAH_INITIAL_FORM;pLAM_INITIAL_FORM;",
  "pMEEM_INITIAL_FORM;gLAM_WITH_JEEM_INITIAL_FORM;pHAH_INITIAL_FORM;pKHAH_INITIAL_FORM;",
  "pMEEM_INITIAL_FORM;pHEH_INITIAL_FORM;gMEEM_WITH_JEEM_INITIAL_FORM;qHAH_INITIAL_FORM;",
  "qKHAH_INITIAL_FORM;qMEEM_INITIAL_FORM;gNOON_WITH_JEEM_INITIAL_FORM;qHAH_INITIAL_FORM;",
  "qKHAH_INITIAL_FORM;qMEEM_INITIAL_FORM;qHEH_INITIAL_FORM;gHEH_WITH_JEEM_INITIAL_FORM;",
  "pMEEM_INITIAL_FORM;pSUPERSCRIPT_ALEF_INITIAL_FORM;gYEH_WITH_JEEM_INITIAL_FORM;",
  "pHAH_INITIAL_FORM;pKHAH_INITIAL_FORM;pMEEM_INITIAL_FORM;pHEH_INITIAL_FORM;",
  "qAMZA_ABOVE_WITH_MEEM_MEDIAL_FORM;GHEH_MEDIAL_FORM;gBEH_WITH_MEEM_MEDIAL_FORM;pHEH_MEDIAL_FORM;",
  "gTEH_WITH_MEEM_MEDIAL_FORM;pHEH_MEDIAL_FORM;hHEH_WITH_MEEM_MEDIAL_FORM;qHEH_MEDIAL_FORM;",
  "gSEEN_WITH_MEEM_MEDIAL_FORM;qHEH_MEDIAL_FORM;hHEEN_WITH_MEEM_MEDIAL_FORM;rHEH_MEDIAL_FORM;",
  "gKAF_WITH_LAM_MEDIAL_FORM;pMEEM_MEDIAL_FORM;gLAM_WITH_MEEM_MEDIAL_FORM;",
  "gNOON_WITH_MEEM_MEDIAL_FORM;qHEH_MEDIAL_FORM;gYEH_WITH_MEEM_MEDIAL_FORM;pHEH_MEDIAL_FORM;",
  "gSHADDA_WITH_FATHA_MEDIAL_FORM;sDAMMA_MEDIAL_FORM;sKASRA_MEDIAL_FORM;",
  "gTAH_WITH_ALEF_MAKSURA_ISOLATED_FORM;pYEH_ISOLATED_FORM;gAIN_WITH_ALEF_MAKSURA_ISOLATED_FORM;",
  "pYEH_ISOLATED_FORM;gGHAIN_WITH_ALEF_MAKSURA_ISOLATED_FORM;rYEH_ISOLATED_FORM;",
  "gSEEN_WITH_ALEF_MAKSURA_ISOLATED_FORM;qYEH_ISOLATED_FORM;hHEEN_WITH_ALEF_MAKSURA_ISOLATED_FORM;",
  "rYEH_ISOLATED_FORM;gHAH_WITH_ALEF_MAKSURA_ISOLATED_FORM;pYEH_ISOLATED_FORM;",
  "gJEEM_WITH_ALEF_MAKSURA_ISOLATED_FORM;qYEH_ISOLATED_FORM;gKHAH_WITH_ALEF_MAKSURA_ISOLATED_FORM;",
  "qYEH_ISOLATED_FORM;gSAD_WITH_ALEF_MAKSURA_ISOLATED_FORM;pYEH_ISOLATED_FORM;",
  "gDAD_WITH_ALEF_MAKSURA_ISOLATED_FORM;pYEH_ISOLATED_FORM;gSHEEN_WITH_JEEM_ISOLATED_FORM;",
  "rHAH_ISOLATED_FORM;rKHAH_ISOLATED_FORM;rMEEM_ISOLATED_FORM;rREH_ISOLATED_FORM;",
  "hEEN_WITH_REH_ISOLATED_FORM;hAD_WITH_REH_ISOLATED_FORM;gDAD_WITH_REH_ISOLATED_FORM;",
  "gTAH_WITH_ALEF_MAKSURA_FINAL_FORM;pYEH_FINAL_FORM;gAIN_WITH_ALEF_MAKSURA_FINAL_FORM;",
  "pYEH_FINAL_FORM;gGHAIN_WITH_ALEF_MAKSURA_FINAL_FORM;rYEH_FINAL_FORM;",
  "gSEEN_WITH_ALEF_MAKSURA_FINAL_FORM;qYEH_FINAL_FORM;hHEEN_WITH_ALEF_MAKSURA_FINAL_FORM;",
  "rYEH_FINAL_FORM;gHAH_WITH_ALEF_MAKSURA_FINAL_FORM;pYEH_FINAL_FORM;",
  "gJEEM_WITH_ALEF_MAKSURA_FINAL_FORM;qYEH_FINAL_FORM;gKHAH_WITH_ALEF_MAKSURA_FINAL_FORM;",
  "qYEH_FINAL_FORM;gSAD_WITH_ALEF_MAKSURA_FINAL_FORM;pYEH_FINAL_FORM;",
  "gDAD_WITH_ALEF_MAKSURA_FINAL_FORM;pYEH_FINAL_FORM;gSHEEN_WITH_JEEM_FINAL_FORM;rHAH_FINAL_FORM;",
  "rKHAH_FINAL_FORM;rMEEM_FINAL_FORM;rREH_FINAL_FORM;hEEN_WITH_REH_FINAL_FORM;",
  "hAD_WITH_REH_FINAL_FORM;gDAD_WITH_REH_FINAL_FORM;gSHEEN_WITH_JEEM_INITIAL_FORM;",
  "rHAH_INITIAL_FORM;rKHAH_INITIAL_FORM;rMEEM_INITIAL_FORM;hEEN_WITH_HEH_INITIAL_FORM;",
  "hHEEN_WITH_HEH_INITIAL_FORM;gTAH_WITH_MEEM_INITIAL_FORM;gSEEN_WITH_JEEM_MEDIAL_FORM;",
  "qHAH_MEDIAL_FORM;qKHAH_MEDIAL_FORM;hHEEN_WITH_JEEM_MEDIAL_FORM;rHAH_MEDIAL_FORM;",
  "rKHAH_MEDIAL_FORM;gTAH_WITH_MEEM_MEDIAL_FORM;gZAH_WITH_MEEM_MEDIAL_FORM;",
  "gALEF_WITH_FATHATAN_FINAL_FORM;zISOLATED_FORM;0ORNATE_LEFT_PARENTHESIS;7RIGHT_PARENTHESIS;",
  "0ARABIC_LIGATURE_RAHIMAHU_ALLAAH;iDI_ALLAAHU_ANH;wAA;wUM;yAA;xNNA;gSALLALLAAHU_ALAYHI_WA-AALIH;",
  "gALAYHI_AS-SALAAM;mM_AS-SALAAM;nAA_AS-SALAAM;m_AS-SALAATU_WAS-SALAAM;gQUDDISA_SIRRAH;",
  "gSALLALLAHU_ALAYHI_WAAALIHEE_WA-SALLAM;gALAYHAA_AS-SALAAM;gTABAARAKA_WA-TAAALAA;",
  "gRAHIMAHUM_ALLAAH;gTEH_WITH_JEEM_WITH_MEEM_INITIAL_FORM;pHAH_WITH_JEEM_FINAL_FORM;",
  "DINITIAL_FORM;yMEEM_INITIAL_FORM;pKHAH_WITH_MEEM_INITIAL_FORM;pMEEM_WITH_JEEM_INITIAL_FORM;",
  "zHAH_INITIAL_FORM;zKHAH_INITIAL_FORM;gJEEM_WITH_MEEM_WITH_HAH_FINAL_FORM;EINITIAL_FORM;",
  "gHAH_WITH_MEEM_WITH_YEH_FINAL_FORM;zALEF_MAKSURA_FINAL_FORM;",
  "gSEEN_WITH_HAH_WITH_JEEM_INITIAL_FORM;qJEEM_WITH_HAH_INITIAL_FORM;AALEF_MAKSURA_FINAL_FORM;",
  "qMEEM_WITH_HAH_FINAL_FORM;EINITIAL_FORM;AJEEM_INITIAL_FORM;AMEEM_FINAL_FORM;FINITIAL_FORM;",
  "hAD_WITH_HAH_WITH_HAH_FINAL_FORM;CINITIAL_FORM;pMEEM_WITH_MEEM_FINAL_FORM;",
  "hHEEN_WITH_HAH_WITH_MEEM_FINAL_FORM;FINITIAL_FORM;rJEEM_WITH_YEH_FINAL_FORM;",
  "rMEEM_WITH_KHAH_FINAL_FORM;GINITIAL_FORM;BMEEM_FINAL_FORM;GINITIAL_FORM;",
  "gDAD_WITH_HAH_WITH_ALEF_MAKSURA_FINAL_FORM;pKHAH_WITH_MEEM_FINAL_FORM;EINITIAL_FORM;",
  "gTAH_WITH_MEEM_WITH_HAH_FINAL_FORM;DINITIAL_FORM;zMEEM_INITIAL_FORM;zYEH_FINAL_FORM;",
  "gAIN_WITH_JEEM_WITH_MEEM_FINAL_FORM;pMEEM_WITH_MEEM_FINAL_FORM;EINITIAL_FORM;",
  "zALEF_MAKSURA_FINAL_FORM;gGHAIN_WITH_MEEM_WITH_MEEM_FINAL_FORM;BYEH_FINAL_FORM;",
  "BALEF_MAKSURA_FINAL_FORM;gFEH_WITH_KHAH_WITH_MEEM_FINAL_FORM;EINITIAL_FORM;",
  "gQAF_WITH_MEEM_WITH_HAH_FINAL_FORM;zMEEM_FINAL_FORM;gLAM_WITH_HAH_WITH_MEEM_FINAL_FORM;",
  "yYEH_FINAL_FORM;yALEF_MAKSURA_FINAL_FORM;pJEEM_WITH_JEEM_INITIAL_FORM;EFINAL_FORM;",
  "pKHAH_WITH_MEEM_FINAL_FORM;EINITIAL_FORM;pMEEM_WITH_HAH_FINAL_FORM;DINITIAL_FORM;",
  "gMEEM_WITH_HAH_WITH_JEEM_INITIAL_FORM;zMEEM_INITIAL_FORM;zYEH_FINAL_FORM;",
  "qJEEM_WITH_HAH_INITIAL_FORM;AMEEM_INITIAL_FORM;qKHAH_WITH_JEEM_INITIAL_FORM;AMEEM_INITIAL_FORM;",
  ">FD92:qJEEM_WITH_KHAH_INITIAL_FORM;gHEH_WITH_MEEM_WITH_JEEM_INITIAL_FORM;zMEEM_INITIAL_FORM;",
  "gNOON_WITH_HAH_WITH_MEEM_INITIAL_FORM;zALEF_MAKSURA_FINAL_FORM;qJEEM_WITH_MEEM_FINAL_FORM;",
  "FINITIAL_FORM;AALEF_MAKSURA_FINAL_FORM;qMEEM_WITH_YEH_FINAL_FORM;AALEF_MAKSURA_FINAL_FORM;",
  "gYEH_WITH_MEEM_WITH_MEEM_FINAL_FORM;EINITIAL_FORM;gBEH_WITH_KHAH_WITH_YEH_FINAL_FORM;",
  "gTEH_WITH_JEEM_WITH_YEH_FINAL_FORM;zALEF_MAKSURA_FINAL_FORM;pKHAH_WITH_YEH_FINAL_FORM;",
  "zALEF_MAKSURA_FINAL_FORM;pMEEM_WITH_YEH_FINAL_FORM;zALEF_MAKSURA_FINAL_FORM;",
  "gJEEM_WITH_MEEM_WITH_YEH_FINAL_FORM;qHAH_WITH_ALEF_MAKSURA_FINAL_FORM;",
  "qMEEM_WITH_ALEF_MAKSURA_FINAL_FORM;gSEEN_WITH_KHAH_WITH_ALEF_MAKSURA_FINAL_FORM;",
  "hAD_WITH_HAH_WITH_YEH_FINAL_FORM;hHEEN_WITH_HAH_WITH_YEH_FINAL_FORM;",
  "gDAD_WITH_HAH_WITH_YEH_FINAL_FORM;gLAM_WITH_JEEM_WITH_YEH_FINAL_FORM;pMEEM_WITH_YEH_FINAL_FORM;",
  "gYEH_WITH_HAH_WITH_YEH_FINAL_FORM;pJEEM_WITH_YEH_FINAL_FORM;pMEEM_WITH_YEH_FINAL_FORM;",
  "gMEEM_WITH_MEEM_WITH_YEH_FINAL_FORM;gQAF_WITH_MEEM_WITH_YEH_FINAL_FORM;",
  "gNOON_WITH_HAH_WITH_YEH_FINAL_FORM;gQAF_WITH_MEEM_WITH_HAH_INITIAL_FORM;",
  "gLAM_WITH_HAH_WITH_MEEM_INITIAL_FORM;gAIN_WITH_MEEM_WITH_YEH_FINAL_FORM;",
  "gKAF_WITH_MEEM_WITH_YEH_FINAL_FORM;gNOON_WITH_JEEM_WITH_HAH_INITIAL_FORM;",
  "gMEEM_WITH_KHAH_WITH_YEH_FINAL_FORM;gLAM_WITH_JEEM_WITH_MEEM_INITIAL_FORM;",
  "gKAF_WITH_MEEM_WITH_MEEM_FINAL_FORM;gLAM_WITH_JEEM_WITH_MEEM_FINAL_FORM;",
  "gNOON_WITH_JEEM_WITH_HAH_FINAL_FORM;gJEEM_WITH_HAH_WITH_YEH_FINAL_FORM;",
  "gHAH_WITH_JEEM_WITH_YEH_FINAL_FORM;gMEEM_WITH_JEEM_WITH_YEH_FINAL_FORM;",
  "gFEH_WITH_MEEM_WITH_YEH_FINAL_FORM;gBEH_WITH_HAH_WITH_YEH_FINAL_FORM;",
  "gKAF_WITH_MEEM_WITH_MEEM_INITIAL_FORM;gAIN_WITH_JEEM_WITH_MEEM_INITIAL_FORM;",
  "gSAD_WITH_MEEM_WITH_MEEM_INITIAL_FORM;hEEN_WITH_KHAH_WITH_YEH_FINAL_FORM;",
  "gNOON_WITH_JEEM_WITH_YEH_FINAL_FORM;>FDCF:gSALAAMUHU_ALAYNAA;",
  ">FDF0:jLA_USED_AS_KORANIC_STOP_SIGN_ISOLATED_FORM;",
  "gQALA_USED_AS_KORANIC_STOP_SIGN_ISOLATED_FORM;gALLAH_ISOLATED_FORM;hKBAR_ISOLATED_FORM;",
  "gMOHAMMAD_ISOLATED_FORM;gSALAM_ISOLATED_FORM;gRASOUL_ISOLATED_FORM;gALAYHE_ISOLATED_FORM;",
  "gWASALLAM_ISOLATED_FORM;gSALLA_ISOLATED_FORM;lLLAHOU_ALAYHE_WASALLAM;gJALLAJALALOUHOU;",
  "0RIAL_SIGN;0ARABIC_LIGATURE_BISMILLAH_AR-RAHMAN_AR-RAHEEM;gSUBHAANAHU_WA_TAAALAA;gAZZA_WA_JALL;",
  "0VARIATION_SELECTOR-1;j2;j3;j4;j5;j6;j7;j8;j9;j10;k1;k2;k3;k4;k5;k6;",
  "0PRESENTATION_FORM_FOR_VERTICAL_COMMA;vIDEOGRAPHIC_COMMA;HFULL_STOP;vCOLON;vSEMICOLON;",
  "vEXCLAMATION_MARK;vQUESTION_MARK;vLEFT_WHITE_LENTICULAR_BRACKET;",
  "vRIGHT_WHITE_LENTICULAR_BRAKCET;vHORIZONTAL_ELLIPSIS;>FE20:0COMBINING_LIGATURE_LEFT_HALF;",
  "jRIGHT_HALF;aDOUBLE_TILDE_LEFT_HALF;nRIGHT_HALF;aMACRON_LEFT_HALF;hRIGHT_HALF;",
  "aCONJOINING_MACRON;aLIGATURE_LEFT_HALF_BELOW;jRIGHT_HALF_BELOW;aTILDE_LEFT_HALF_BELOW;",
  "gRIGHT_HALF_BELOW;aMACRON_LEFT_HALF_BELOW;hRIGHT_HALF_BELOW;aCONJOINING_MACRON_BELOW;",
  "bYRILLIC_TITLO_LEFT_HALF;pRIGHT_HALF;0PRESENTATION_FORM_FOR_VERTICAL_TWO_DOT_LEADER;vEM_DASH;",
  "wN_DASH;vLOW_LINE;vWAVY_LOW_LINE;vLEFT_PARENTHESIS;vRIGHT_PARENTHESIS;vLEFT_CURLY_BRACKET;",
  "vRIGHT_CURLY_BRACKET;vLEFT_TORTOISE_SHELL_BRACKET;vRIGHT_TORTOISE_SHELL_BRACKET;",
  "vLEFT_BLACK_LENTICULAR_BRACKET;vRIGHT_BLACK_LENTICULAR_BRACKET;vLEFT_DOUBLE_ANGLE_BRACKET;",
  "vRIGHT_DOUBLE_ANGLE_BRACKET;vLEFT_ANGLE_BRACKET;vRIGHT_ANGLE_BRACKET;vLEFT_CORNER_BRACKET;",
  "vRIGHT_CORNER_BRACKET;vLEFT_WHITE_CORNER_BRACKET;vRIGHT_WHITE_CORNER_BRACKET;0SESAME_DOT;",
  "0WHITE_SESAME_DOT;0PRESENTATION_FORM_FOR_VERTICAL_LEFT_SQUARE_BRACKET;vRIGHT_SQUARE_BRACKET;",
  "0DASHED_OVERLINE;0CENTRELINE_OVERLINE;0WAVY_OVERLINE;0DOUBLE_WAVY_OVERLINE;1ASHED_LOW_LINE;",
  "0CENTRELINE_LOW_LINE;0WAVY_LOW_LINE;0SMALL_COMMA;6IDEOGRAPHIC_COMMA;6FULL_STOP;",
  ">FE54:6SEMICOLON;6COLON;6QUESTION_MARK;6EXCLAMATION_MARK;7M_DASH;6LEFT_PARENTHESIS;",
  "6RIGHT_PARENTHESIS;6LEFT_CURLY_BRACKET;6RIGHT_CURLY_BRACKET;6LEFT_TORTOISE_SHELL_BRACKET;",
  "6RIGHT_TORTOISE_SHELL_BRACKET;6NUMBER_SIGN;6AMPERSAND;7STERISK;6PLUS_SIGN;6HYPHEN-MINUS;",
  "6LESS-THAN_SIGN;6GREATER-THAN_SIGN;6EQUALS_SIGN;>FE68:6REVERSE_SOLIDUS;6DOLLAR_SIGN;",
  "6PERCENT_SIGN;6COMMERCIAL_AT;>FE70:0ARABIC_FATHATAN_ISOLATED_FORM;7TATWEEL_WITH_FATHATAN_ABOVE;",
  "7DAMMATAN_ISOLATED_FORM;7TAIL_FRAGMENT;7KASRATAN_ISOLATED_FORM;>FE76:7FATHA_ISOLATED_FORM;",
  "dMEDIAL_FORM;7DAMMA_ISOLATED_FORM;dMEDIAL_FORM;7KASRA_ISOLATED_FORM;dMEDIAL_FORM;",
  "7SHADDA_ISOLATED_FORM;eMEDIAL_FORM;8UKUN_ISOLATED_FORM;dMEDIAL_FORM;",
  "7LETTER_HAMZA_ISOLATED_FORM;eALEF_WITH_MADDA_ABOVE_ISOLATED_FORM;AFINAL_FORM;",
  "oHAMZA_ABOVE_ISOLATED_FORM;AFINAL_FORM;eWAW_WITH_HAMZA_ABOVE_ISOLATED_FORM;zFINAL_FORM;",
  "eALEF_WITH_HAMZA_BELOW_ISOLATED_FORM;AFINAL_FORM;eYEH_WITH_HAMZA_ABOVE_ISOLATED_FORM;",
  "zFINAL_FORM;zINITIAL_FORM;zMEDIAL_FORM;eALEF_ISOLATED_FORM;jFINAL_FORM;eBEH_ISOLATED_FORM;",
  "iFINAL_FORM;iINITIAL_FORM;iMEDIAL_FORM;eTEH_MARBUTA_ISOLATED_FORM;qFINAL_FORM;iISOLATED_FORM;",
  "iFINAL_FORM;iINITIAL_FORM;iMEDIAL_FORM;fHEH_ISOLATED_FORM;jFINAL_FORM;jINITIAL_FORM;",
  "jMEDIAL_FORM;eJEEM_ISOLATED_FORM;jFINAL_FORM;jINITIAL_FORM;jMEDIAL_FORM;eHAH_ISOLATED_FORM;",
  "iFINAL_FORM;iINITIAL_FORM;iMEDIAL_FORM;eKHAH_ISOLATED_FORM;jFINAL_FORM;jINITIAL_FORM;",
  "jMEDIAL_FORM;eDAL_ISOLATED_FORM;iFINAL_FORM;eTHAL_ISOLATED_FORM;jFINAL_FORM;eREH_ISOLATED_FORM;",
  "iFINAL_FORM;eZAIN_ISOLATED_FORM;jFINAL_FORM;eSEEN_ISOLATED_FORM;jFINAL_FORM;jINITIAL_FORM;",
  "jMEDIAL_FORM;fHEEN_ISOLATED_FORM;kFINAL_FORM;kINITIAL_FORM;kMEDIAL_FORM;fAD_ISOLATED_FORM;",
  "iFINAL_FORM;iINITIAL_FORM;iMEDIAL_FORM;eDAD_ISOLATED_FORM;iFINAL_FORM;iINITIAL_FORM;",
  "iMEDIAL_FORM;eTAH_ISOLATED_FORM;iFINAL_FORM;iINITIAL_FORM;iMEDIAL_FORM;eZAH_ISOLATED_FORM;",
  "iFINAL_FORM;iINITIAL_FORM;iMEDIAL_FORM;eAIN_ISOLATED_FORM;iFINAL_FORM;iINITIAL_FORM;",
  "iMEDIAL_FORM;eGHAIN_ISOLATED_FORM;kFINAL_FORM;kINITIAL_FORM;kMEDIAL_FORM;eFEH_ISOLATED_FORM;",
  "iFINAL_FORM;iINITIAL_FORM;iMEDIAL_FORM;eQAF_ISOLATED_FORM;iFINAL_FORM;iINITIAL_FORM;",
  "iMEDIAL_FORM;eKAF_ISOLATED_FORM;iFINAL_FORM;iINITIAL_FORM;iMEDIAL_FORM;eLAM_ISOLATED_FORM;",
  "iFINAL_FORM;iINITIAL_FORM;iMEDIAL_FORM;eMEEM_ISOLATED_FORM;jFINAL_FORM;jINITIAL_FORM;",
  "jMEDIAL_FORM;eNOON_ISOLATED_FORM;jFINAL_FORM;jINITIAL_FORM;jMEDIAL_FORM;eHEH_ISOLATED_FORM;",
  "iFINAL_FORM;iINITIAL_FORM;iMEDIAL_FORM;eWAW_ISOLATED_FORM;iFINAL_FORM;",
  "eALEF_MAKSURA_ISOLATED_FORM;rFINAL_FORM;eYEH_ISOLATED_FORM;iFINAL_FORM;iINITIAL_FORM;",
  "iMEDIAL_FORM;8IGATURE_LAM_WITH_ALEF_WITH_MADDA_ABOVE_ISOLATED_FORM;LFINAL_FORM;",
  "zHAMZA_ABOVE_ISOLATED_FORM;LFINAL_FORM;FBELOW_ISOLATED_FORM;LFINAL_FORM;uISOLATED_FORM;",
  "uFINAL_FORM;>FEFF:0ZERO_WIDTH_NO-BREAK_SPACE;>FF01:0FULLWIDTH_EXCLAMATION_MARK;aQUOTATION_MARK;",
  "aNUMBER_SIGN;aDOLLAR_SIGN;aPERCENT_SIGN;aAMPERSAND;bPOSTROPHE;aLEFT_PARENTHESIS;",
  "aRIGHT_PARENTHESIS;aASTERISK;aPLUS_SIGN;aCOMMA;aHYPHEN-MINUS;aFULL_STOP;aSOLIDUS;aDIGIT_ZERO;",
  "gONE;gTWO;hHREE;gFOUR;hIVE;gSIX;hEVEN;gEIGHT;gNINE;aCOLON;aSEMICOLON;aLESS-THAN_SIGN;",
  "aEQUALS_SIGN;aGREATER-THAN_SIGN;aQUESTION_MARK;aCOMMERCIAL_AT;aLATIN_CAPITAL_LETTER_A;vB;vC;vD;",
  "vE;vF;vG;vH;vI;vJ;vK;vL;vM;vN;vO;vP;vQ;vR;vS;vT;vU;vV;vW;vX;vY;vZ;bEFT_SQUARE_BRACKET;",
  "aREVERSE_SOLIDUS;bIGHT_SQUARE_BRACKET;aCIRCUMFLEX_ACCENT;aLOW_LINE;aGRAVE_ACCENT;",
  "aLATIN_SMALL_LETTER_A;tB;tC;tD;tE;tF;tG;tH;tI;tJ;tK;tL;tM;tN;tO;tP;tQ;tR;tS;tT;tU;tV;tW;tX;tY;",
  "tZ;bEFT_CURLY_BRACKET;aVERTICAL_LINE;aRIGHT_CURLY_BRACKET;aTILDE;aLEFT_WHITE_PARENTHESIS;",
  "aRIGHT_WHITE_PARENTHESIS;0HALFWIDTH_IDEOGRAPHIC_FULL_STOP;aLEFT_CORNER_BRACKET;",
  "aRIGHT_CORNER_BRACKET;aIDEOGRAPHIC_COMMA;aKATAKANA_MIDDLE_DOT;jLETTER_WO;qSMALL_A;wI;wU;wE;wO;",
  "wYA;xU;xO;wTU;i-HIRAGANA_PROLONGED_SOUND_MARK;i_LETTER_A;qI;qU;qE;qO;qKA;rI;rU;rE;rO;qSA;rI;rU;",
  "rE;rO;qTA;rI;rU;rE;rO;qNA;rI;rU;rE;rO;qHA;rI;rU;rE;rO;qMA;rI;rU;rE;rO;qYA;rU;rO;qRA;rI;rU;rE;",
  "rO;qWA;qN;jVOICED_SOUND_MARK;jSEMI-VOICED_SOUND_MARK;aHANGUL_FILLER;hLETTER_KIYEOK;",
  "oSSANGKIYEOK;oKIYEOK-SIOS;oNIEUN;t-CIEUC;uHIEUH;oTIKEUT;oSSANGTIKEUT;oRIEUL;t-KIYEOK;uMIEUM;",
  "uPIEUP;uSIOS;uTHIEUTH;uPHIEUPH;uHIEUH;oMIEUM;oPIEUP;oSSANGPIEUP;oPIEUP-SIOS;oSIOS;pSANGSIOS;",
  "oIEUNG;oCIEUC;oSSANGCIEUC;oCHIEUCH;oKHIEUKH;oTHIEUTH;oPHIEUPH;oHIEUH;>FFC2:oA;pE;oYA;qE;oEO;p;",
  ">FFCA:oYEO;q;oO;oWA;qE;oOE;>FFD2:oYO;oU;oWEO;q;pI;oYU;>FFDA:oEU;oYI;oI;",
  ">FFE0:0FULLWIDTH_CENT_SIGN;aPOUND_SIGN;aNOT_SIGN;aMACRON;aBROKEN_BAR;aYEN_SIGN;aWON_SIGN;",
  ">FFE8:0HALFWIDTH_FORMS_LIGHT_VERTICAL;aLEFTWARDS_ARROW;aUPWARDS_ARROW;aRIGHTWARDS_ARROW;",
  "aDOWNWARDS_ARROW;aBLACK_SQUARE;aWHITE_CIRCLE;>FFF9:0INTERLINEAR_ANNOTATION_ANCHOR;nSEPARATOR;",
  "nTERMINATOR;0OBJECT_REPLACEMENT_CHARACTER;0REPLACEMENT_CHARACTER;",
  ">10000:0LINEAR_B_SYLLABLE_B008_A;k38_E;k28_I;k61_O;k10_U;k01_DA;k45_DE;k07_DI;k14_DO;k51_DU;",
  "l7_JA;k46_JE;>1000D:k36_JO;k65_JU;k77_KA;k44_KE;k67_KI;k70_KO;k81_KU;l0_MA;k13_ME;k73_MI;",
  "k15_MO;k23_MU;k06_NA;k24_NE;k30_NI;k52_NO;l5_NU;k03_PA;k72_PE;k39_PI;k11_PO;k50_PU;k16_QA;",
  "k78_QE;k21_QI;k32_QO;>10028:k60_RA;k27_RE;k53_RI;k02_RO;k26_RU;k31_SA;k09_SE;k41_SI;k12_SO;",
  "k58_SU;l9_TA;k04_TE;k37_TI;k05_TO;k69_TU;k54_WA;k75_WE;k40_WI;l2_WO;>1003C:k17_ZA;k74_ZE;",
  ">1003F:k20_ZO;l5_A2;k43_A3;k85_AU;k71_DWE;k90_DWO;k48_NWA;k29_PU2;k62_PTE;k76_RA2;k33_RA3;",
  "k68_RO2;l6_TA2;k87_TWE;k91_TWO;>10050:bMBOL_B018;j9;i22;i34;i47;j9;i56;i63;j4;i79;i82;j3;j6;j9;",
  ">10080:9IDEOGRAM_B100_MAN;l2_WOMAN;l4_DEER;l5_EQUID;mF_MARE;mM_STALLION;l6F_EWE;mM_RAM;",
  "l7F_SHE-GOAT;mM_HE-GOAT;l8F_SOW;mM_BOAR;l9F_COW;mM_BULL;k20_WHEAT;l1_BARLEY;l2_OLIVE;l3_SPICE;",
  "l5_CYPERUS;9MONOGRAM_B127_KAPO;l8_KANAKO;9IDEOGRAM_B130_OIL;l1_WINE;l2;9MONOGRAM_B133_AREPA;",
  "l5_MERI;9IDEOGRAM_B140_BRONZE;l1_GOLD;l2;l5_WOOL;l6;k50;l1_HORN;l2;l3;l4;9MONOGRAM_B156_TURO2;",
  "9IDEOGRAM_B157;l8;l9_CLOTH;k60;l1;l2_GARMENT;l3_ARMOUR;l4;l5;l6;l7;l8;l9;k70;l1;l2;l3_MONTH;l4;",
  "l6_TREE;l7;l8;l9;k80;l1;l2;l3;l4;l5;l9;k90;l1_HELMET;j220_FOOTSTOOL;l5_BATHTUB;k30_SPEAR;",
  "l1_ARROW;l2;l3_SWORD;l4;l6;k40_WHEELED_CHARIOT;l1_CHARIOT;l2_CHARIOT_FRAME;l3_WHEEL;l5;l6;",
  "9MONOGRAM_B247_DIPTE;9IDEOGRAM_B248;l9;k51;l2;l3;l4_DART;l5;l6;l7;l8;l9;iVESSEL_B155;q200;s1;",
  "s2;s3;s4;s5;s6;s7;s8;s9;r10;s1;s2;s3;s4;s5;s6;s7;s8;s9;r21;s2;s6;s7;s8;s9;r50;q305;",
  ">10100:0AEGEAN_WORD_SEPARATOR_LINE;mDOT;7CHECK_MARK;>10107:7NUMBER_ONE;eTWO;fHREE;eFOUR;fIVE;",
  "eSIX;fEVEN;eEIGHT;eNINE;eTEN;fWENTY;fHIRTY;eFORTY;fIFTY;eSIXTY;fEVENTY;eEIGHTY;eNINETY;",
  "eONE_HUNDRED;eTWO_HUNDRED;fHREE_HUNDRED;eFOUR_HUNDRED;fIVE_HUNDRED;eSIX_HUNDRED;fEVEN_HUNDRED;",
  "eEIGHT_HUNDRED;eNINE_HUNDRED;eONE_THOUSAND;eTWO_THOUSAND;fHREE_THOUSAND;eFOUR_THOUSAND;",
  "fIVE_THOUSAND;eSIX_THOUSAND;fEVEN_THOUSAND;eEIGHT_THOUSAND;eNINE_THOUSAND;eTEN_THOUSAND;",
  "fWENTY_THOUSAND;fHIRTY_THOUSAND;eFORTY_THOUSAND;fIFTY_THOUSAND;eSIXTY_THOUSAND;",
  "fEVENTY_THOUSAND;eEIGHTY_THOUSAND;eNINETY_THOUSAND;>10137:7WEIGHT_BASE_UNIT;eFIRST_SUBUNIT;",
  "eSECOND_SUBUNIT;eTHIRD_SUBUNIT;eFOURTH_SUBUNIT;7DRY_MEASURE_FIRST_SUBUNIT;",
  "7LIQUID_MEASURE_FIRST_SUBUNIT;7MEASURE_SECOND_SUBUNIT;fTHIRD_SUBUNIT;",
  "0GREEK_ACROPHONIC_ATTIC_ONE_QUARTER;rHALF;rDRACHMA;nFIVE;pFTY;pVE_HUNDRED;sTHOUSAND;",
  "pFTY_THOUSAND;pVE_TALENTS;nTEN_TALENTS;nFIFTY_TALENTS;nONE_HUNDRED_TALENTS;",
  "nFIVE_HUNDRED_TALENTS;nONE_THOUSAND_TALENTS;nFIVE_THOUSAND_TALENTS;sSTATERS;nTEN_STATERS;",
  "nFIFTY_STATERS;nONE_HUNDRED_STATERS;nFIVE_HUNDRED_STATERS;nONE_THOUSAND_STATERS;",
  "nTEN_THOUSAND_STATERS;nFIFTY_THOUSAND_STATERS;nTEN_MNAS;hHERAEUM_ONE_PLETHRON;hTHESPIAN_ONE;",
  "hHERMIONIAN_ONE;hEPIDAUREAN_TWO;hTHESPIAN_TWO;hCYRENAIC_TWO_DRACHMAS;hEPIDAUREAN_TWO_DRACHMAS;",
  "hTROEZENIAN_FIVE;sTEN;v_ALTERNATE_FORM;hHERMIONIAN_TEN;hMESSENIAN_TEN;hTHESPIAN_TEN;rHIRTY;",
  "iROEZENIAN_FIFTY;x_ALTERNATE_FORM;hHERMIONIAN_FIFTY;hTHESPIAN_FIFTY;qONE_HUNDRED;",
  "qTHREE_HUNDRED;hEPIDAUREAN_FIVE_HUNDRED;hTROEZENIAN_FIVE_HUNDRED;iHESPIAN_FIVE_HUNDRED;",
  "hCARYSTIAN_FIVE_HUNDRED;hNAXIAN_FIVE_HUNDRED;hTHESPIAN_ONE_THOUSAND;qFIVE_THOUSAND;",
  "hDELPHIC_FIVE_MNAS;hSTRATIAN_FIFTY_MNAS;6ONE_HALF_SIGN;j_ALTERNATE_FORM;6TWO_THIRDS_SIGN;",
  "7HREE_QUARTERS_SIGN;6YEAR_SIGN;6TALENT_SIGN;6DRACHMA_SIGN;6OBOL_SIGN;6TWO_OBOLS_SIGN;",
  "7HREE_OBOLS_SIGN;6FOUR_OBOLS_SIGN;7IVE_OBOLS_SIGN;6METRETES_SIGN;6KYATHOS_BASE_SIGN;",
  "6LITRA_SIGN;6OUNKIA_SIGN;6XESTES_SIGN;6ARTABE_SIGN;8OURA_SIGN;6GRAMMA_SIGN;6TRYBLION_BASE_SIGN;",
  "6ZERO_SIGN;6ONE_QUARTER_SIGN;6SINUSOID_SIGN;6INDICTION_SIGN;0NOMISMA_SIGN;",
  ">10190:0ROMAN_SEXTANS_SIGN;6UNCIA_SIGN;6SEMUNCIA_SIGN;8XTULA_SIGN;6DIMIDIA_SEXTULA_SIGN;",
  "6SILIQUA_SIGN;6DENARIUS_SIGN;6QUINARIUS_SIGN;6SESTERTIUS_SIGN;6DUPONDIUS_SIGN;6AS_SIGN;",
  "6CENTURIAL_SIGN;0ASCIA_SYMBOL;>101A0:0GREEK_SYMBOL_TAU_RHO;",
  ">101D0:0PHAISTOS_DISC_SIGN_PEDESTRIAN;kLUMED_HEAD;jTATTOOED_HEAD;jCAPTIVE;kHILD;jWOMAN;jHELMET;",
  "jGAUNTLET;jTIARA;jARROW;jBOW;jSHIELD;jCLUB;jMANACLES;lTTOCK;jSAW;jLID;jBOOMERANG;",
  "jCARPENTRY_PLANE;jDOLIUM;jCOMB;jSLING;jCOLUMN;jBEEHIVE;jSHIP;jHORN;kIDE;jBULLS_LEG;jCAT;jRAM;",
  "jEAGLE;jDOVE;jTUNNY;jBEE;jPLANE_TREE;jVINE;jPAPYRUS;jROSETTE;jLILY;jOX_BACK;jFLUTE;jGRATER;",
  "jSTRAINER;kMALL_AXE;jWAVY_BAND;jCOMBINING_OBLIQUE_STROKE;>10280:0LYCIAN_LETTER_A;eE;eB;fH;eG;",
  "eD;eI;eW;eZ;eTH;eJ;eK;eQ;eL;eM;eN;eMM;eNN;eU;eP;eKK;eR;eS;eT;fT;eAN;eEN;eH;eX;",
  ">102A0:0CARIAN_LETTER_A;eP2;eD;eL;eUUU;eR;eLD;eA2;eQ;eB;eM;eO;eD2;eT;eSH;g2;f;eC-18;eU;eNN;eX;",
  "eN;eTT2;eP;eSS;eI;eE;eUUUU;eK;f2;eND;eUU;eG;f2;eST;g2;eNG;eII;eC-39;eTT;eUUU2;eRR;eMB;g2;g3;g4;",
  "eLD2;eE2;eUUU3;>102E0:1OPTIC_EPACT_THOUSANDS_MARK;dDIGIT_ONE;jTWO;kHREE;jFOUR;kIVE;jSIX;kEVEN;",
  "jEIGHT;jNINE;dNUMBER_TEN;lWENTY;lHIRTY;kFORTY;lIFTY;kSIXTY;lEVENTY;kEIGHTY;kNINETY;",
  "kONE_HUNDRED;kTWO_HUNDRED;lHREE_HUNDRED;kFOUR_HUNDRED;lIVE_HUNDRED;kSIX_HUNDRED;lEVEN_HUNDRED;",
  "kEIGHT_HUNDRED;kNINE_HUNDRED;>10300:0OLD_ITALIC_LETTER_A;iBE;iKE;iDE;iE;iVE;iZE;iHE;iTHE;iI;",
  "iKA;iEL;jM;jN;jSH;iO;iPE;iSHE;iKU;iER;jS;iTE;iU;iEKS;iPHE;iKHE;iEF;jRS;iCHE;iII;iUU;iESS;",
  "bNUMERAL_ONE;jFIVE;jTEN;jFIFTY;>1032D:bLETTER_YE;iNORTHERN_TSE;iSOUTHERN_TSE;",
  "0GOTHIC_LETTER_AHSA;eBAIRKAN;eGIBA;eDAGS;eAIHVUS;eQAIRTHRA;eIUJA;eHAGL;eTHIUTH;eEIS;eKUSMA;",
  "eLAGUS;eMANNA;eNAUTHS;eJER;eURUS;ePAIRTHRA;eNINETY;eRAIDA;eSAUIL;eTEIWS;eWINJA;eFAIHU;eIGGWS;",
  "eHWAIR;eOTHAL;eNINE_HUNDRED;>10350:0OLD_PERMIC_LETTER_AN;iBUR;iGAI;iDOI;iE;iZHOI;iDZHOI;iZATA;",
  "iDZITA;iI;iKOKE;iLEI;iMENOE;iNENOE;iVOOI;iPEEI;iREI;iSII;iTAI;iU;iCHERY;iSHOOI;kCHOOI;iYRY;",
  "jERU;iO;jO;iEF;iHA;iTSIU;iVER;iYER;lI;jAT;iIE;iYU;jA;iIA;0COMBINING_OLD_PERMIC_LETTER_AN;sDOI;",
  "sZATA;sNENOE;sSII;>10380:0UGARITIC_LETTER_ALPA;gBETA;gGAMLA;gKHA;gDELTA;gHO;gWO;gZETA;gHOTA;",
  "gTET;gYOD;gKAF;gSHIN;gLAMDA;gMEM;gDHAL;gNUN;gZU;gSAMKA;gAIN;gPU;gSADE;gQOPA;gRASHA;gTHANNA;",
  "gGHAIN;gTO;gI;gU;gSSU;>1039F:9WORD_DIVIDER;0OLD_PERSIAN_SIGN_A;hI;hU;hKA;iU;hGA;iU;hXA;hCA;hJA;",
  "iI;hTA;iU;hDA;iI;iU;hTHA;hPA;hBA;hFA;hNA;iU;hMA;iI;iU;hYA;hVA;iI;hRA;iU;hLA;hSA;hZA;hSHA;iSA;",
  "hHA;>103C8:hAURAMAZDAA;r-2;rHA;hXSHAAYATHIYA;hDAHYAAUSH;q-2;hBAGA;iUUMISH;cWORD_DIVIDER;",
  "cNUMBER_ONE;jTWO;kEN;kWENTY;jHUNDRED;>10400:0DESERET_CAPITAL_LETTER_LONG_I;sE;sA;tH;sO;tO;",
  "nSHORT_I;tE;tA;uH;tO;uO;nAY;nOW;nWU;nYEE;nH;nPEE;nBEE;nTEE;nDEE;nCHEE;nJEE;nKAY;nGAY;nEF;nVEE;",
  "nETH;nTHEE;nES;nZEE;nESH;nZHEE;nER;oL;oM;oN;pG;nOI;nEW;8SMALL_LETTER_LONG_I;qE;qA;rH;qO;rO;",
  "lSHORT_I;rE;rA;sH;rO;sO;lAY;lOW;lWU;lYEE;lH;lPEE;lBEE;lTEE;lDEE;lCHEE;lJEE;lKAY;lGAY;lEF;lVEE;",
  "lETH;lTHEE;lES;lZEE;lESH;lZHEE;lER;mL;mM;mN;nG;lOI;lEW;0SHAVIAN_LETTER_PEEP;fTOT;fKICK;fFEE;",
  "fTHIGH;fSO;gURE;fCHURCH;fYEA;fHUNG;fBIB;fDEAD;fGAG;fVOW;fTHEY;fZOO;fMEASURE;fJUDGE;fWOE;fHA-HA;",
  "fLOLL;fMIME;fIF;fEGG;fASH;gDO;fON;fWOOL;fOUT;fAH;fROAR;fNUN;fEAT;fAGE;fICE;fUP;fOAK;gOZE;gIL;",
  "fAWE;gRE;fOR;fAIR;fERR;fARRAY;fEAR;fIAN;fYEW;0OSMANYA_LETTER_ALEF;fBA;fTA;fJA;fXA;fKHA;fDEEL;",
  "fRA;fSA;gHIIN;fDHA;fCAYN;fGA;fFA;fQAAF;fKAAF;fLAAN;fMIIN;fNUUN;fWAW;fHA;fYA;fA;fE;fI;fO;fU;fAA;",
  "fEE;fOO;>104A0:8DIGIT_ZERO;eONE;eTWO;fHREE;eFOUR;fIVE;eSIX;fEVEN;eEIGHT;eNINE;",
  ">104B0:2AGE_CAPITAL_LETTER_A;mI;nN;mH;lBRA;lCHA;lEHCHA;m;mIN;lHA;mYA;lI;lKA;lEHKA;lKYA;lLA;lMA;",
  "lNA;lO;mIN;lPA;lEHPA;lSA;mHA;lTA;lEHTA;lTSA;lEHTSA;lTSHA;lDHA;lU;lWA;lKHA;lGHA;lZA;mHA;",
  ">104D8:6SMALL_LETTER_A;kI;lN;kH;jBRA;jCHA;jEHCHA;k;kIN;jHA;kYA;jI;jKA;jEHKA;jKYA;jLA;jMA;jNA;",
  "jO;kIN;jPA;jEHPA;jSA;kHA;jTA;jEHTA;jTSA;jEHTSA;jTSHA;jDHA;jU;jWA;jKHA;jGHA;jZA;kHA;",
  ">10500:0ELBASAN_LETTER_A;fBE;fCE;gHE;fDE;fNDE;fDHE;fEI;g;fFE;fGE;gJE;fHE;fI;fJE;fKE;fLE;gLE;",
  "fME;fNE;gA;gJE;fO;fPE;fQE;fRE;gRE;fSE;gHE;fTE;gHE;fU;fVE;fXE;fY;fZE;gHE;fGHE;hAMMA;fKHE;",
  ">10530:0CAUCASIAN_ALBANIAN_LETTER_ALT;qBET;qGIM;qDAT;qEB;qZARL;qEYN;qZHIL;qTAS;qCHA;qYOWD;qZHA;",
  "qIRB;qSHA;qLAN;qINYA;qXEYN;qDYAN;qCAR;qJHOX;qKAR;qLYIT;qHEYT;qQAY;qAOR;qCHOY;sI;rYAY;qMAQ;qQAR;",
  "qNOWC;qDZYAY;qSHAK;qJAYN;qON;qTYAY;qFAM;qDZAY;qCHAT;qPEN;qGHEYS;qRAT;qSEYK;qVEYZ;qTIWR;qSHOY;",
  "qIWN;qCYAW;rAYN;qYAYD;qPIWR;qKIW;>1056F:jCITATION_MARK;0VITHKUQI_CAPITAL_LETTER_A;oBBE;pE;oCE;",
  "pHE;oDE;pHE;oEI;p;oFE;oGA;>1057C:oHA;pHA;oI;pJE;oJE;oKA;oLA;pLA;oME;oNE;pJE;oO;oPE;oQA;oRE;",
  ">1058C:oSE;pHE;oTE;pHE;oU;oVE;oXE;>10594:oY;oZE;>10597:9SMALL_LETTER_A;mBBE;nE;mCE;nHE;mDE;nHE;",
  "mEI;n;mFE;mGA;>105A3:mHA;nHA;mI;nJE;mJE;mKA;mLA;nLA;mME;mNE;nJE;mO;mPE;mQA;mRE;>105B3:mSE;nHE;",
  "mTE;nHE;mU;mVE;mXE;>105BB:mY;mZE;>10600:0LINEAR_A_SIGN_AB001;i2;i3;i4;i5;i6;i7;i8;i9;h10;i1;i3;",
  "i6;i7;h20;i1;jF;jM;i2;jF;jM;i3;jM;i4;i6;i7;i8;f028B;fB029;h30;i1;i4;i7;i8;i9;h40;i1;i4;i5;i6;",
  "i7;i8;i9;h50;i1;i3;i4;i5;i6;i7;i8;i9;h60;i1;i5;i6;i7;i9;h70;i3;i4;i6;i7;i8;i9;h80;i1;i2;i5;i6;",
  "i7;f100-102;fB118;h20;f120B;fB122;i3;h31A;jB;f131C;fB164;h71;h80;i8;h91;f301;h2;h3;h4;h5;h6;h7;",
  "h8;h9A;iB;iC;g10;h1;h2;h3A;iB;iC;h4;h5;h6;h7;h8;h9;g20;h1;h2;h3;h4;h5;h6;h7;h8;h9;g30;h1;h2;h3;",
  "h4;h5;h6;h7;h8;h9;g40;h1;h2;h3;h4;h5;h6;h7;h8;h9;g50;h1;h2;h3;h4;h5;h6;h7;h8;h9;g60;h1;h2;h3;",
  "h4;h5;h6;h7;h8;h9;g70;h1;f400-VAS;h1-VAS;h2-VAS;h3-VAS;h4-VAS;h5-VAS;h6-VAS;h7-VAS;h8-VAS;",
  "h9-VAS;g10-VAS;h1-VAS;h2-VAS;h3-VAS;h4-VAS;h5-VAS;h6-VAS;h7-VAS;h8-VAS;f501;h2;h3;h4;h5;h6;h8;",
  "h9;g10;h1;h2;h3;h5;h6;g20;h1;h3;h4;h5;h6;h7;h8;h9;g30;h1;h2;h4;h5;h6;h7;h8;h9;g40;h1;h2;h5;h7;",
  "h8;h9;g50;h1;h2;h3;h4;h5;h6;h7;h9;g63;h4;h5;h6;h8;h9;g70;h1;h2;h3;h4;h5;h6;h7;h8;h9;g80;h1;h2;",
  "h3;h4;h5;h6;h7;h8;h9;g91;h2;h4;h5;h6;h8;f600;h1;h2;h3;h4;h6;h8;h9;g10;h1;h2;h3;h4;h5;h6;h7;h8;",
  "h9;g20;h1;h2;h3;h4;h6;h7;h8;h9;g34;h7;h8;g40;h2;h3;h4;h5;h6;h8;h9;g51;h2;h3;h4;h5;h6;h7;h8;h9;",
  "g60;h1;h2;h3;h4;>10740:f701_A;h2_B;h3_D;h4_E;h5_F;h6_H;h7_J;h8_K;h9_L;i-2_L2;j3_L3;j4_L4;j6_L6;",
  "g10_W;h1_X;h2_Y;h3_OMEGA;h4_ABB;h5_BB;h7_DD;g26_EYYY;g32_JE;>10760:f800;h1;h2;h3;h4;h5;h6;h7;",
  ">10780:0MODIFIER_LETTER_SMALL_CAPITAL_AA;hUPERSCRIPT_TRIANGULAR_COLON;sHALF_TRIANGULAR_COLON;",
  "hMALL_AE;mCAPITAL_B;mB_WITH_HOOK;>10787:mDZ_DIGRAPH;w_WITH_RETROFLEX_HOOK;CCURL;nEZH_DIGRAPH;",
  "n_WITH_TAIL;tHOOK;x_AND_TAIL;mREVERSED_E;mCLOSED_REVERSED_OPEN_E;mFENG_DIGRAPH;mRAMS_HORN;",
  "mCAPITAL_G;mG_WITH_HOOK;mCAPITAL_G_WITH_HOOK;mH_WITH_STROKE;mCAPITAL_H;mHENG_WITH_HOOK;",
  "mDOTLESS_J_WITH_STROKE_AND_HOOK;mLS_DIGRAPH;nZ_DIGRAPH;n_WITH_BELT;mCAPITAL_L_WITH_BELT;",
  "mL_WITH_RETROFLEX_HOOK_AND_BELT;nEZH;q_WITH_RETROFLEX_HOOK;mTURNED_Y;u_WITH_BELT;",
  "mO_WITH_STROKE;mCAPITAL_OE;nLOSED_OMEGA;mQ;mTURNED_R_WITH_LONG_LEG;I_AND_RETROFLEX_HOOK;",
  "mR_WITH_TAIL;tFISHHOOK;mCAPITAL_R;mTC_DIGRAPH_WITH_CURL;nS_DIGRAPH;w_WITH_RETROFLEX_HOOK;",
  "nESH_DIGRAPH;"]

end Milp.Text.CharacterName
