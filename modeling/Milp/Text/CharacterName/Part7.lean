set_option autoImplicit false

/-! # Names of the characters from U+16AF1 to U+1F01A

The names that Unicode 14 gives them, in the form that `Milp.Text.CharacterName` reads. -/

namespace Milp.Text.CharacterName

/-- Names from U+16AF1 to U+1F01A. -/
def part7 : List String := [
  ">16AF1:0BASSA_VAH_COMBINING_LOW_TONE;kMID_TONE;kLOW-MID_TONE;kHIGH-LOW_TONE;aFULL_STOP;",
  ">16B00:0PAHAWH_HMONG_VOWEL_KEEB;mV;kIB;lV;kAUB;mV;kUB;lV;kEB;lV;kAIB;mV;kOOB;mV;kAWB;mV;kUAB;",
  "mV;kOB;lV;kIAB;mV;kAB;lV;kWB;lV;kAAB;mV;dCONSONANT_VAU;nNTSAU;nLAU;nHAU;nNLAU;nRAU;nNKAU;nQHAU;",
  "nYAU;nHLAU;nMAU;nCHAU;nNCHAU;nHNAU;nPLHAU;nNTHAU;oAU;nAU;nXAU;nCAU;dMARK_CIM_TUB;mSO;mKES;nHAV;",
  "mSUAM;mHOM;mTAUM;dSIGN_VOS_THOM;nSHAB_CEEB;iCIM_CHEEM;iVOS_THIAB;mFEEM;iXYEEM_NTXIV;oRHO;oTOV;",
  "oFAIB;iVOS_SEEV;iMEEJ_SUAB;iVOS_NRUA;iIB_YAM;iXAUS;iCIM_TSOV_ROG;>16B50:dDIGIT_ZERO;jONE;jTWO;",
  "kHREE;jFOUR;kIVE;jSIX;kEVEN;jEIGHT;jNINE;>16B5B:dNUMBER_TENS;kHUNDREDS;kTEN_THOUSANDS;",
  "kMILLIONS;kHUNDRED_MILLIONS;kTEN_BILLIONS;lRILLIONS;>16B63:dSIGN_VOS_LUB;iXYOO;iHLI;",
  "iTHIRD-STAGE_HLI;iZWJ_THAJ;iHNUB;iNQIG;iXIAB;iNTUJ;iAV;iTXHEEJ_CEEV;iMEEJ_TSEEB;iTAU;iLOS;iMUS;",
  "iCIM_HAIS_LUS_NTOG_NTOG;mCUAM_TSHOOJ;mTXWV;q_CHWV;mPUB_DAWB;mNRES_TOS;>16B7D:dCLAN_SIGN_TSHEEJ;",
  "nYEEG;nLIS;oAUJ;nXYOOJ;nKOO;nHAWJ;nMUAS;nTHOJ;oSAB;nPHAB;nKHAB;nHAM;nVAJ;nFAJ;nYAJ;nTSWB;nKWM;",
  "nVWJ;>16E40:0MEDEFAIDRIN_CAPITAL_LETTER_M;rS;rV;rW;rATIU;rZ;rKP;rP;rT;rG;rF;rI;rK;rA;rJ;rE;rB;",
  "rC;rU;rYU;rL;rQ;rHP;rNY;rX;rD;rOE;rN;rR;rO;rAI;rY;cSMALL_LETTER_M;pS;pV;pW;pATIU;pZ;pKP;pP;pT;",
  "pG;pF;pI;pK;pA;pJ;pE;pB;pC;pU;pYU;pL;pQ;pHP;pNY;pX;pD;pOE;pN;pR;pO;pAI;pY;cDIGIT_ZERO;iONE;",
  "iTWO;jHREE;iFOUR;jIVE;iSIX;jEVEN;iEIGHT;iNINE;cNUMBER_TEN;jELEVEN;jTWELVE;kHIRTEEN;jFOURTEEN;",
  "kIFTEEN;jSIXTEEN;kEVENTEEN;jEIGHTEEN;jNINETEEN;cDIGIT_ONE_ALTERNATE_FORM;iTWO_ALTERNATE_FORM;",
  "jHREE_ALTERNATE_FORM;cCOMMA;cFULL_STOP;cSYMBOL_AIVA;cEXCLAMATION_OH;>16F00:1IAO_LETTER_PA;cBA;",
  "cYI_PA;cPLA;cMA;dHA;cARCHAIC_MA;cFA;cVA;dFA;cTA;cDA;cYI_TTA;gA;cTTA;cDDA;cNA;dHA;cYI_NNA;",
  "cARCHAIC_NA;cNNA;eHA;cLA;dYA;dHA;eYA;cTLHA;cDLHA;cTLHYA;cDLHYA;cKA;cGA;cYI_KA;cQA;dGA;cNGA;eHA;",
  "cARCHAIC_NGA;cHA;cXA;cGHA;eHA;cTSSA;cDZZA;cNYA;eHA;cTSHA;cDZHA;cYI_TSHA;fDZHA;cREFORMED_TSHA;",
  "cSHA;dSA;cZHA;dSHA;cTSA;cDZA;cYI_TSA;cSA;cZA;dSA;dZA;eSA;cARCHAIC_ZZA;cZZYA;eSYA;cWA;cAH;cHHA;",
  "cBRI;cSYI;cDZYI;cTE;dSE;cRTE;>16F4F:5SIGN_CONSONANT_MODIFIER_BAR;5LETTER_NASALIZATION;",
  "5SIGN_ASPIRATION;aREFORMED_VOICING;jASPIRATION;5VOWEL_SIGN_A;hA;hHH;hN;iG;gO;hO;gWO;h;gE;hN;iG;",
  "gOEY;gI;hA;iN;jG;hO;hE;hI;hU;hNG;gU;hA;iN;jG;hU;hEI;hNG;gY;hI;gAE;iE;gERR;gROUNDED_ERR;gER;",
  "gROUNDED_ER;gAI;gEI;gAU;gOU;gN;hG;gUOG;gYUI;gOG;hER;gVW;gIG;gEA;gIONG;gUI;>16F8F:5TONE_RIGHT;",
  "aTOP_RIGHT;aABOVE;aBELOW;5LETTER_TONE-2;h3;h4;h5;h6;h7;h8;cREFORMED_TONE-1;q2;q4;q5;q6;q8;",
  ">16FE0:0TANGUT_ITERATION_MARK;0NUSHU_ITERATION_MARK;0OLD_CHINESE_HOOK_MARK;cITERATION_MARK;",
  "0KHITAN_SMALL_SCRIPT_FILLER;>16FF0:0VIETNAMESE_ALTERNATE_READING_MARK_CA;yNHAY;",
  ">18800:0TANGUT_COMPONENT-001;j2;j3;j4;j5;j6;j7;j8;j9;i10;j1;j2;j3;j4;j5;j6;j7;j8;j9;i20;j1;j2;",
  "j3;j4;j5;j6;j7;j8;j9;i30;j1;j2;j3;j4;j5;j6;j7;j8;j9;i40;j1;j2;j3;j4;j5;j6;j7;j8;j9;i50;j1;j2;",
  "j3;j4;j5;j6;j7;j8;j9;i60;j1;j2;j3;j4;j5;j6;j7;j8;j9;i70;j1;j2;j3;j4;j5;j6;j7;j8;j9;i80;j1;j2;",
  "j3;j4;j5;j6;j7;j8;j9;i90;j1;j2;j3;j4;j5;j6;j7;j8;j9;h100;j1;j2;j3;j4;j5;j6;j7;j8;j9;i10;j1;j2;",
  "j3;j4;j5;j6;j7;j8;j9;i20;j1;j2;j3;j4;j5;j6;j7;j8;j9;i30;j1;j2;j3;j4;j5;j6;j7;j8;j9;i40;j1;j2;",
  "j3;j4;j5;j6;j7;j8;j9;i50;j1;j2;j3;j4;j5;j6;j7;j8;j9;i60;j1;j2;j3;j4;j5;j6;j7;j8;j9;i70;j1;j2;",
  "j3;j4;j5;j6;j7;j8;j9;i80;j1;j2;j3;j4;j5;j6;j7;j8;j9;i90;j1;j2;j3;j4;j5;j6;j7;j8;j9;h200;j1;j2;",
  "j3;j4;j5;j6;j7;j8;j9;i10;j1;j2;j3;j4;j5;j6;j7;j8;j9;i20;j1;j2;j3;j4;j5;j6;j7;j8;j9;i30;j1;j2;",
  "j3;j4;j5;j6;j7;j8;j9;i40;j1;j2;j3;j4;j5;j6;j7;j8;j9;i50;j1;j2;j3;j4;j5;j6;j7;j8;j9;i60;j1;j2;",
  "j3;j4;j5;j6;j7;j8;j9;i70;j1;j2;j3;j4;j5;j6;j7;j8;j9;i80;j1;j2;j3;j4;j5;j6;j7;j8;j9;i90;j1;j2;",
  "j3;j4;j5;j6;j7;j8;j9;h300;j1;j2;j3;j4;j5;j6;j7;j8;j9;i10;j1;j2;j3;j4;j5;j6;j7;j8;j9;i20;j1;j2;",
  "j3;j4;j5;j6;j7;j8;j9;i30;j1;j2;j3;j4;j5;j6;j7;j8;j9;i40;j1;j2;j3;j4;j5;j6;j7;j8;j9;i50;j1;j2;",
  "j3;j4;j5;j6;j7;j8;j9;i60;j1;j2;j3;j4;j5;j6;j7;j8;j9;i70;j1;j2;j3;j4;j5;j6;j7;j8;j9;i80;j1;j2;",
  "j3;j4;j5;j6;j7;j8;j9;i90;j1;j2;j3;j4;j5;j6;j7;j8;j9;h400;j1;j2;j3;j4;j5;j6;j7;j8;j9;i10;j1;j2;",
  "j3;j4;j5;j6;j7;j8;j9;i20;j1;j2;j3;j4;j5;j6;j7;j8;j9;i30;j1;j2;j3;j4;j5;j6;j7;j8;j9;i40;j1;j2;",
  "j3;j4;j5;j6;j7;j8;j9;i50;j1;j2;j3;j4;j5;j6;j7;j8;j9;i60;j1;j2;j3;j4;j5;j6;j7;j8;j9;i70;j1;j2;",
  "j3;j4;j5;j6;j7;j8;j9;i80;j1;j2;j3;j4;j5;j6;j7;j8;j9;i90;j1;j2;j3;j4;j5;j6;j7;j8;j9;h500;j1;j2;",
  "j3;j4;j5;j6;j7;j8;j9;i10;j1;j2;j3;j4;j5;j6;j7;j8;j9;i20;j1;j2;j3;j4;j5;j6;j7;j8;j9;i30;j1;j2;",
  "j3;j4;j5;j6;j7;j8;j9;i40;j1;j2;j3;j4;j5;j6;j7;j8;j9;i50;j1;j2;j3;j4;j5;j6;j7;j8;j9;i60;j1;j2;",
  "j3;j4;j5;j6;j7;j8;j9;i70;j1;j2;j3;j4;j5;j6;j7;j8;j9;i80;j1;j2;j3;j4;j5;j6;j7;j8;j9;i90;j1;j2;",
  "j3;j4;j5;j6;j7;j8;j9;h600;j1;j2;j3;j4;j5;j6;j7;j8;j9;i10;j1;j2;j3;j4;j5;j6;j7;j8;j9;i20;j1;j2;",
  "j3;j4;j5;j6;j7;j8;j9;i30;j1;j2;j3;j4;j5;j6;j7;j8;j9;i40;j1;j2;j3;j4;j5;j6;j7;j8;j9;i50;j1;j2;",
  "j3;j4;j5;j6;j7;j8;j9;i60;j1;j2;j3;j4;j5;j6;j7;j8;j9;i70;j1;j2;j3;j4;j5;j6;j7;j8;j9;i80;j1;j2;",
  "j3;j4;j5;j6;j7;j8;j9;i90;j1;j2;j3;j4;j5;j6;j7;j8;j9;h700;j1;j2;j3;j4;j5;j6;j7;j8;j9;i10;j1;j2;",
  "j3;j4;j5;j6;j7;j8;j9;i20;j1;j2;j3;j4;j5;j6;j7;j8;j9;i30;j1;j2;j3;j4;j5;j6;j7;j8;j9;i40;j1;j2;",
  "j3;j4;j5;j6;j7;j8;j9;i50;j1;j2;j3;j4;j5;j6;j7;j8;j9;i60;j1;j2;j3;j4;j5;j6;j7;j8;",
  "0KHITAN_SMALL_SCRIPT_CHARACTER-18B00;y1;y2;y3;y4;y5;y6;y7;y8;y9;yA;yB;yC;yD;yE;yF;x10;y1;y2;y3;",
  "y4;y5;y6;y7;y8;y9;yA;yB;yC;yD;yE;yF;x20;y1;y2;y3;y4;y5;y6;y7;y8;y9;yA;yB;yC;yD;yE;yF;x30;y1;y2;",
  "y3;y4;y5;y6;y7;y8;y9;yA;yB;yC;yD;yE;yF;x40;y1;y2;y3;y4;y5;y6;y7;y8;y9;yA;yB;yC;yD;yE;yF;x50;y1;",
  "y2;y3;y4;y5;y6;y7;y8;y9;yA;yB;yC;yD;yE;yF;x60;y1;y2;y3;y4;y5;y6;y7;y8;y9;yA;yB;yC;yD;yE;yF;x70;",
  "y1;y2;y3;y4;y5;y6;y7;y8;y9;yA;yB;yC;yD;yE;yF;x80;y1;y2;y3;y4;y5;y6;y7;y8;y9;yA;yB;yC;yD;yE;yF;",
  "x90;y1;y2;y3;y4;y5;y6;y7;y8;y9;yA;yB;yC;yD;yE;yF;xA0;y1;y2;y3;y4;y5;y6;y7;y8;y9;yA;yB;yC;yD;yE;",
  "yF;xB0;y1;y2;y3;y4;y5;y6;y7;y8;y9;yA;yB;yC;yD;yE;yF;xC0;y1;y2;y3;y4;y5;y6;y7;y8;y9;yA;yB;yC;yD;",
  "yE;yF;xD0;y1;y2;y3;y4;y5;y6;y7;y8;y9;yA;yB;yC;yD;yE;yF;xE0;y1;y2;y3;y4;y5;y6;y7;y8;y9;yA;yB;yC;",
  "yD;yE;yF;xF0;y1;y2;y3;y4;y5;y6;y7;y8;y9;yA;yB;yC;yD;yE;yF;wC00;y1;y2;y3;y4;y5;y6;y7;y8;y9;yA;",
  "yB;yC;yD;yE;yF;x10;y1;y2;y3;y4;y5;y6;y7;y8;y9;yA;yB;yC;yD;yE;yF;x20;y1;y2;y3;y4;y5;y6;y7;y8;y9;",
  "yA;yB;yC;yD;yE;yF;x30;y1;y2;y3;y4;y5;y6;y7;y8;y9;yA;yB;yC;yD;yE;yF;x40;y1;y2;y3;y4;y5;y6;y7;y8;",
  "y9;yA;yB;yC;yD;yE;yF;x50;y1;y2;y3;y4;y5;y6;y7;y8;y9;yA;yB;yC;yD;yE;yF;x60;y1;y2;y3;y4;y5;y6;y7;",
  "y8;y9;yA;yB;yC;yD;yE;yF;x70;y1;y2;y3;y4;y5;y6;y7;y8;y9;yA;yB;yC;yD;yE;yF;x80;y1;y2;y3;y4;y5;y6;",
  "y7;y8;y9;yA;yB;yC;yD;yE;yF;x90;y1;y2;y3;y4;y5;y6;y7;y8;y9;yA;yB;yC;yD;yE;yF;xA0;y1;y2;y3;y4;y5;",
  "y6;y7;y8;y9;yA;yB;yC;yD;yE;yF;xB0;y1;y2;y3;y4;y5;y6;y7;y8;y9;yA;yB;yC;yD;yE;yF;xC0;y1;y2;y3;y4;",
  "y5;y6;y7;y8;y9;yA;yB;yC;yD;yE;yF;xD0;y1;y2;y3;y4;y5;>1AFF0:1ATAKANA_LETTER_MINNAN_TONE-2;s3;s4;",
  "s5;>1AFF5:s7;s8;nNASALIZED_TONE-1;C2;C3;C4;C5;>1AFFD:C7;C8;>1B000:gARCHAIC_E;",
  "0HIRAGANA_LETTER_ARCHAIC_YE;1ENTAIGANA_LETTER_A-1;k2;k3;kWO;iI-1;k2;k3;k4;iU-1;k2;k3;k4;k5;",
  "iE-2;k3;k4;k5;k6;iO-1;k2;k3;iKA-1;l2;l3;l4;l5;l6;l7;l8;l9;l10;m1;lKE;jI-1;l2;l3;l4;l5;l6;l7;l8;",
  "jU-1;l2;l3;l4;l5;l6;l7;jE-1;l2;l3;l4;l5;l6;jO-1;l2;l3;lKI;iSA-1;l2;l3;l4;l5;l6;l7;l8;jI-1;l2;",
  "l3;l4;l5;l6;jU-1;l2;l3;l4;l5;l6;l7;l8;jE-1;l2;l3;l4;l5;jO-1;l2;l3;l4;l5;l6;l7;iTA-1;l2;l3;l4;",
  "jI-1;l2;l3;l4;l5;l6;l7;jU-1;l2;l3;l4;lTO;jE-1;l2;l3;l4;l5;l6;l7;l8;l9;jO-1;l2;l3;l4;l5;l6;lRA;",
  "iNA-1;l2;l3;l4;l5;l6;l7;l8;l9;jI-1;l2;l3;l4;l5;l6;l7;lTE;jU-1;l2;l3;jE-1;l2;l3;l4;l5;l6;lKO;",
  "jO-1;l2;l3;l4;l5;iHA-1;l2;l3;l4;l5;l6;l7;l8;l9;l10;m1;jI-1;l2;l3;l4;l5;l6;l7;jU-1;l2;l3;jE-1;",
  "l2;l3;l4;l5;l6;l7;jO-1;l2;l3;l4;l5;l6;l7;l8;iMA-1;l2;l3;l4;l5;l6;l7;jI-1;l2;l3;l4;l5;l6;l7;",
  "jU-1;l2;l3;l4;jE-1;l2;lMA;jO-1;l2;l3;l4;l5;l6;iYA-1;l2;l3;l4;l5;lYO;jU-1;l2;l3;l4;jO-1;l2;l3;",
  "l4;l5;l6;iRA-1;l2;l3;l4;jI-1;l2;l3;l4;l5;l6;l7;jU-1;l2;l3;l4;l5;l6;jE-1;l2;l3;l4;jO-1;l2;l3;l4;",
  "l5;l6;iWA-1;l2;l3;l4;l5;jI-1;l2;l3;l4;l5;jE-1;l2;l3;l4;jO-1;l2;l3;l4;l5;l6;l7;iN-MU-MO-1;q2;",
  "1IRAGANA_LETTER_ARCHAIC_WU;0KATAKANA_LETTER_ARCHAIC_YI;pE;oWU;>1B150:0HIRAGANA_LETTER_SMALL_WI;",
  "nE;nO;>1B164:0KATAKANA_LETTER_SMALL_WI;nE;nO;mN;>1B170:0NUSHU_CHARACTER-1B170;k1;k2;k3;k4;k5;",
  "k6;k7;k8;k9;kA;kB;kC;kD;kE;kF;j80;k1;k2;k3;k4;k5;k6;k7;k8;k9;kA;kB;kC;kD;kE;kF;j90;k1;k2;k3;k4;",
  "k5;k6;k7;k8;k9;kA;kB;kC;kD;kE;kF;jA0;k1;k2;k3;k4;k5;k6;k7;k8;k9;kA;kB;kC;kD;kE;kF;jB0;k1;k2;k3;",
  "k4;k5;k6;k7;k8;k9;kA;kB;kC;kD;kE;kF;jC0;k1;k2;k3;k4;k5;k6;k7;k8;k9;kA;kB;kC;kD;kE;kF;jD0;k1;k2;",
  "k3;k4;k5;k6;k7;k8;k9;kA;kB;kC;kD;kE;kF;jE0;k1;k2;k3;k4;k5;k6;k7;k8;k9;kA;kB;kC;kD;kE;kF;jF0;k1;",
  "k2;k3;k4;k5;k6;k7;k8;k9;kA;kB;kC;kD;kE;kF;i200;k1;k2;k3;k4;k5;k6;k7;k8;k9;kA;kB;kC;kD;kE;kF;",
  "j10;k1;k2;k3;k4;k5;k6;k7;k8;k9;kA;kB;kC;kD;kE;kF;j20;k1;k2;k3;k4;k5;k6;k7;k8;k9;kA;kB;kC;kD;kE;",
  "kF;j30;k1;k2;k3;k4;k5;k6;k7;k8;k9;kA;kB;kC;kD;kE;kF;j40;k1;k2;k3;k4;k5;k6;k7;k8;k9;kA;kB;kC;kD;",
  "kE;kF;j50;k1;k2;k3;k4;k5;k6;k7;k8;k9;kA;kB;kC;kD;kE;kF;j60;k1;k2;k3;k4;k5;k6;k7;k8;k9;kA;kB;kC;",
  "kD;kE;kF;j70;k1;k2;k3;k4;k5;k6;k7;k8;k9;kA;kB;kC;kD;kE;kF;j80;k1;k2;k3;k4;k5;k6;k7;k8;k9;kA;kB;",
  "kC;kD;kE;kF;j90;k1;k2;k3;k4;k5;k6;k7;k8;k9;kA;kB;kC;kD;kE;kF;jA0;k1;k2;k3;k4;k5;k6;k7;k8;k9;kA;",
  "kB;kC;kD;kE;kF;jB0;k1;k2;k3;k4;k5;k6;k7;k8;k9;kA;kB;kC;kD;kE;kF;jC0;k1;k2;k3;k4;k5;k6;k7;k8;k9;",
  "kA;kB;kC;kD;kE;kF;jD0;k1;k2;k3;k4;k5;k6;k7;k8;k9;kA;kB;kC;kD;kE;kF;jE0;k1;k2;k3;k4;k5;k6;k7;k8;",
  "k9;kA;kB;kC;kD;kE;kF;jF0;k1;k2;k3;k4;k5;k6;k7;k8;k9;kA;kB;>1BC00:0DUPLOYAN_LETTER_H;gX;gP;gT;",
  "gF;gK;gL;gB;gD;gV;gG;gR;gP_N;gD_S;gF_N;gK_M;gR_S;gTH;gSLOAN_DH;gDH;gKK;gSLOAN_J;gHL;gLH;gRH;gM;",
  "gN;gJ;gS;gM_N;gN_M;gJ_M;gS_J;gM_WITH_DOT;gN_WITH_DOT;gJ_WITH_DOT;qS_INSIDE_AND_ABOVE;",
  "gS_WITH_DOT;q_BELOW;gM_S;gN_S;gJ_S;gS_S;gM_N_S;gN_M_S;gJ_M_S;gS_J_S;gJ_S_WITH_DOT;iN;j_S;gS_T;",
  "j_R;iP;j_R;gT_S;iR_S;gW;hH;h_R;gS_N;iM;gK_R_S;gG_R_S;gS_K;j_R;gA;gSLOAN_OW;gOA;h;gAOU;gI;gE;",
  "gIE;gSHORT_I;gUI;gEE;gSLOAN_EH;gROMANIAN_I;gSLOAN_EE;gLONG_I;gYE;gU;gEU;gXW;gU_N;gLONG_U;",
  "gROMANIAN_U;gUH;gSLOAN_U;gOOH;hW;hU;gWA;hO;hI;hEI;hOW;gNASAL_U;mO;mI;mA;gPERNIN_AN;oM;",
  "gSLOAN_EN;mAN;mON;gVOCALIC_M;>1BC70:9AFFIX_LEFT_HORIZONTAL_SECANT;fMID_HORIZONTAL_SECANT;",
  "fRIGHT_HORIZONTAL_SECANT;fLOW_VERTICAL_SECANT;fMID_VERTICAL_SECANT;fHIGH_VERTICAL_SECANT;",
  "fATTACHED_SECANT;oLEFT-TO-RIGHT_SECANT;oTANGENT;qIL;oE_HOOK;oI_HOOK;oTANGENT_HOOK;",
  ">1BC80:fHIGH_ACUTE;kTIGHT_ACUTE;kGRAVE;kLONG_GRAVE;kDOT;kCIRCLE;kLINE;kWAVE;kVERTICAL;",
  ">1BC90:fLOW_ACUTE;jTIGHT_ACUTE;jGRAVE;jLONG_GRAVE;jDOT;jCIRCLE;jLINE;jWAVE;jVERTICAL;jARROW;",
  ">1BC9C:9SIGN_O_WITH_CROSS;9THICK_LETTER_SELECTOR;9DOUBLE_MARK;9PUNCTUATION_CHINOOK_FULL_STOP;",
  "0SHORTHAND_FORMAT_LETTER_OVERLAP;hCONTINUING_OVERLAP;hDOWN_STEP;hUP_STEP;",
  ">1CF00:0ZNAMENNY_COMBINING_MARK_GORAZDO_NIZKO_S_KRYZHEM_ON_LEFT;oNIZKO_S_KRYZHEM_ON_LEFT;",
  "oTSATA_ON_LEFT;oGORAZDO_NIZKO_ON_LEFT;oNIZKO_ON_LEFT;oSREDNE_ON_LEFT;oMALO_POVYSHE_ON_LEFT;",
  "oPOVYSHE_ON_LEFT;oVYSOKO_ON_LEFT;oMALO_POVYSHE_S_KHOKHLOM_ON_LEFT;oPOVYSHE_S_KHOKHLOM_ON_LEFT;",
  "oVYSOKO_S_KHOKHLOM_ON_LEFT;oGORAZDO_NIZKO_S_KRYZHEM_ON_RIGHT;oNIZKO_S_KRYZHEM_ON_RIGHT;",
  "oTSATA_ON_RIGHT;oGORAZDO_NIZKO_ON_RIGHT;oNIZKO_ON_RIGHT;oSREDNE_ON_RIGHT;",
  "oMALO_POVYSHE_ON_RIGHT;oPOVYSHE_ON_RIGHT;oVYSOKO_ON_RIGHT;oMALO_POVYSHE_S_KHOKHLOM_ON_RIGHT;",
  "oPOVYSHE_S_KHOKHLOM_ON_RIGHT;oVYSOKO_S_KHOKHLOM_ON_RIGHT;oTSATA_S_KRYZHEM;",
  "oMALO_POVYSHE_S_KRYZHEM;oSTRANNO_MALO_POVYSHE;oPOVYSHE_S_KRYZHEM;xTRANNO;oVYSOKO_S_KRYZHEM;",
  "oMALO_POVYSHE_STRANNO;oGORAZDO_VYSOKO;oZELO;oON;oRAVNO;oTIKHAYA;oBORZAYA;oUDARKA;oPODVERTKA;",
  "oLOMKA;oKUPNAYA;pACHKA;oZEVOK;oSKOBA;oRAZSEKA;oKRYZH_ON_LEFT;>1CF30:jTONAL_RANGE_MARK_MRACHNO;",
  "ASVETLO;ATRESVETLO;jMARK_ZADERZHKA;oDEMESTVENNY_ZADERZHKA;oOTSECHKA;oPODCHASHIE;",
  "y_WITH_VERTICAL_STROKE;oCHASHKA;v_POLNAYA;oOBLACHKO;oSOROCHYA_NOZHKA;oTOCHKA;oDVOETOCHIE;",
  "jATTACHING_VERTICAL_OMET;jMARK_CURVED_OMET;oKRYZH;jLOWER_TONAL_RANGE_INDICATOR;",
  "9PRIZNAK_MODIFIER_LEVEL-2;w3;qDIRECTION_FLIP;qKRYZH;qROG;>1CF50:9NEUME_KRYUK;k_TIKHY;fPARAKLIT;",
  "fDVA_V_CHELNU;fKLYUCH;fZANOZHEK;fSTOPITSA;n_S_OCHKOM;fPEREVODKA;o_NEPOSTOYANNAYA;",
  "fSTOPITSA_WITH_SOROCHYA_NOZHKA;fCHELYUSTKA;fPALKA;fZAPYATAYA;fGOLUBCHIK_BORZY;pTIKHY;pMRACHNY;",
  "pSVETLY;pTRESVETLY;fVRAKHIYA_PROSTAYA;oMRACHNAYA;oSVETLAYA;oTRESVETLAYA;oKLYUCHEVAYA_PROSTAYA;",
  "AMRACHNAYA;ASVETLAYA;ATRESVETLAYA;fDOUBLE_ZAPYATAYA;fREVERSED_CHELYUSTKA;fDERBITSA;fKHAMILO;",
  "fCHASHKA;fPODCHASHIE;fSKAMEYTSA_MRACHNAYA;pSVETLAYA;pTRESVETLAYA;qIKHAYA;fDEMESTVENNY_KLYUCH;",
  "fSKAMEYTSA_KLYUCHEVAYA_SVETLAYA;wNEPOSTOYANNAYA;wVAYA_TIKHAYA;pDVOECHELNAYA_PROSTAYA;CSVETLAYA;",
  "CNEPOSTOYANNAYA;CKLYUCHEVAYA;gLOZHITIE;o_S_ZAPYATOY;pZAKRYTOE;pS_KRYZHEM;fKRYZH;fROG;fFITA;",
  "fKOBYLA;fZMEYTSA;fSTATYA;l_S_ZAPYATOY;oKRYZHEM;oZAPYATOY_I_KRYZHEM;oKRYZHEM_I_ZAPYATOY;",
  "mZAKRYTAYA;v_S_ZAPYATOY;mS_ROGOM;oDVUMYA_ZAPYATYMI;oZAPYATOY_I_PODCHASHIEM;fPOLKULIZMY;",
  "fSTATYA_NEPOSTOYANNAYA;hRELA_PROSTAYA;mMRACHNOTIKHAYA;mKRYZHEVAYA;mPOLUPOVODNAYA;oVODNAYA;",
  "mNEPOSTOYANNAYA;mKLYUCHEPOVODNAYA;tNEPOSTOYANNAYA;mTIKHAYA_PUTNAYA;mDVOECHELNAYA;vOKRYZHEVAYA;",
  "wPOVODNAYA;vAYA_KLYUCHEVAYA;vOPOVODNAYA_KLYUCHEVAYA;mGROMNAYA_WITH_SINGLE_ZAPYATAYA;",
  "qOPOVODNAYA_WITH_SINGLE_ZAPYATAYA;qNAYA;qOPOVODNAYA;A_WITH_DOUBLE_ZAPYATAYA;rKRYZHEVAYA;",
  "B_POVODNAYA;fMECHIK;l_POVODNY;mKLYUCHEVOY;tPOVODNY;tNEPOSTOYANNY;fSTRELA_TRYASOGLASNAYA;",
  "sPOVODNAYA;sSTRELNAYA;fOSOKA;k_SVETLAYA;lTRESVETLAYA;lKRYUKOVAYA_SVETLAYA;mLYUCHEVAYA_SVETLAYA;",
  "xNEPOSTOYANNAYA;fSTRELA_KRYUKOVAYA;w_POVODNAYA;xGROMNAYA_WITH_SINGLE_ZAPYATAYA;",
  "BOPOVODNAYA_WITH_SINGLE_ZAPYATAYA;BNAYA;BOPOVODNAYA;L_WITH_DOUBLE_ZAPYATAYA;CKRYZHEVAYA;",
  "M_POVODNAYA;xTRYASKA;fKUFISMA;fOBLAKO;fDUDA;fNEMKA;fPAUK;",
  ">1D000:0BYZANTINE_MUSICAL_SYMBOL_PSILI;pDASEIA;pPERISPOMENI;pOXEIA_EKFONITIKON;vDIPLI;",
  "pVAREIA_EKFONITIKON;wDIPLI;pKATHISTI;pSYRMATIKI;pPARAKLITIKI;pYPOKRISIS;y_DIPLI;pKREMASTI;",
  "pAPESO_EKFONITIKON;pEXO_EKFONITIKON;pTELEIA;pKENTIMATA;pAPOSTROFOS;z_DIPLI;pSYNEVMA;pTHITA;",
  "pOLIGON_ARCHAION;pGORGON_ARCHAION;pPSILON;pCHAMILON;pVATHY;pISON_ARCHAION;pKENTIMA_ARCHAION;",
  "wTA_ARCHAION;pSAXIMATA;pPARICHON;pSTAVROS_APODEXIA;pOXEIAI_ARCHAION;pVAREIAI_ARCHAION;",
  "pAPODERMA_ARCHAION;sTHEMA;pKLASMA;pREVMA;pPIASMA_ARCHAION;pTINAGMA;pANATRICHISMA;pSEISMA;",
  "qYNAGMA_ARCHAION;xMETA_STAVROU;pOYRANISMA_ARCHAION;pTHEMA;pLEMOI;pDYO;pTRIA;qESSERA;pKRATIMATA;",
  "pAPESO_EXO_NEO;pFTHORA_ARCHAION;pIMIFTHORA;pTROMIKON_ARCHAION;pKATAVA_TROMIKON;pPELASTON;",
  "qSIFISTON;pKONTEVMA;pCHOREVMA_ARCHAION;pRAPISMA;pPARAKALESMA_ARCHAION;uLITIKI_ARCHAION;",
  "pICHADIN;pNANA;pPETASMA;pKONTEVMA_ALLO;pTROMIKON_ALLO;pSTRAGGISMATA;pGRONTHISMATA;pISON_NEO;",
  "pOLIGON_NEO;qXEIA_NEO;pPETASTI;pKOUFISMA;pPETASTOKOUFISMA;pKRATIMOKOUFISMA;pPELASTON_NEO;",
  "pKENTIMATA_NEO_ANO;w_NEO_ANO;pYPSILI;pAPOSTROFOS_NEO;yI_SYNDESMOS_NEO;pYPORROI;",
  "pKRATIMOYPORROON;pELAFRON;pCHAMILI;pMIKRON_ISON;pVAREIA_NEO;pPIASMA_NEO;qSIFISTON_NEO;pOMALON;",
  "pANTIKENOMA;pLYGISMA;pPARAKLITIKI_NEO;uALESMA_NEO;pETERON_PARAKALESMA;pKYLISMA;",
  "pANTIKENOKYLISMA;pTROMIKON_NEO;pEKSTREPTON;pSYNAGMA_NEO;rRMA;pCHOREVMA_NEO;pEPEGERMA;",
  "pSEISMA_NEO;pXIRON_KLASMA;pTROMIKOPSIFISTON;pPSIFISTOLYGISMA;pTROMIKOLYGISMA;wPARAKALESMA;",
  "pPSIFISTOPARAKALESMA;pTROMIKOSYNAGMA;pPSIFISTOSYNAGMA;pGORGOSYNTHETON;pARGOSYNTHETON;",
  "pETERON_ARGOSYNTHETON;pOYRANISMA_NEO;pTHEMATISMOS_ESO;CXO;u_APLOUN;sS_KAI_APOTHES;pKATAVASMA;",
  "pENDOFONON;pYFEN_KATO;uANO;pSTAVROS;pKLASMA_ANO;pDIPLI_ARCHAION;pKRATIMA_ARCHAION;yLLO;xNEO;",
  "pAPODERMA_NEO;rLI;pDIPLI;pTRIPLI;qETRAPLI;pKORONIS;pLEIMMA_ENOS_CHRONOU;wDYO_CHRONON;",
  "wTRION_CHRONON;xESSARON_CHRONON;wIMISEOS_CHRONOU;pGORGON_NEO_ANO;wPARESTIGMENON_ARISTERA;",
  "KDEXIA;pDIGORGON;x_PARESTIGMENON_ARISTERA_KATO;VANO;MDEXIA;pTRIGORGON;pARGON;pIMIDIARGON;",
  "pDIARGON;pAGOGI_POLI_ARGI;vARGOTERI;yI;vMETRIA;xSI;vGORGI;zOTERI;vPOLI_GORGI;",
  "pMARTYRIA_PROTOS_ICHOS;yALLI_PROTOS_ICHOS;yDEYTEROS_ICHOS;yALLI_DEYTEROS_ICHOS;yTRITOS_ICHOS;",
  "BFONIAS;zETARTOS_ICHOS;HLEGETOS_ICHOS;yLEGETOS_ICHOS;yPLAGIOS_ICHOS;pISAKIA_TELOUS_ICHIMATOS;",
  "pAPOSTROFOI_TELOUS_ICHIMATOS;pFANEROSIS_TETRAFONIAS;zMONOFONIAS;zDIFONIAS;",
  "pMARTYRIA_VARYS_ICHOS;yPROTOVARYS_ICHOS;zLAGIOS_TETARTOS_ICHOS;pGORTHMIKON_N_APLOUN;CDIPLOUN;",
  "pENARXIS_KAI_FTHORA_VOU;pIMIFONON;tTHORON;pFTHORA_ARCHAION_DEYTEROU_ICHOU;wDIATONIKI_PA;GNANA;",
  "wNAOS_ICHOS;wDIATONIKI_DI;wSKLIRON_DIATONON_DI;wDIATONIKI_KE;GZO;GNI_KATO;JANO;",
  "wMALAKON_CHROMA_DIFONIAS;LMONOFONIAS;qHTORA_SKLIRON_CHROMA_VASIS;qTHORA_SKLIRON_CHROMA_SYNAFI;",
  "wNENANO;pCHROA_ZYGOS;vKLITON;vSPATHI;pFTHORA_I_YFESIS_TETARTIMORION;wENARMONIOS_ANTIFONIA;",
  "pYFESIS_TRITIMORION;pDIESIS_TRITIMORION;xETARTIMORION;wAPLI_DYO_DODEKATA;",
  "wMONOGRAMMOS_TESSERA_DODEKATA;wDIGRAMMOS_EX_DODEKATA;wTRIGRAMMOS_OKTO_DODEKATA;",
  "pYFESIS_APLI_DYO_DODEKATA;wMONOGRAMMOS_TESSERA_DODEKATA;wDIGRAMMOS_EX_DODEKATA;",
  "wTRIGRAMMOS_OKTO_DODEKATA;pGENIKI_DIESIS;wYFESIS;pDIASTOLI_APLI_MIKRI;EEGALI;yDIPLI;yTHESEOS;",
  "pSIMANSIS_THESEOS;F_DISIMOU;GTRISIMOU;HETRASIMOU;yARSEOS;E_DISIMOU;FTRISIMOU;GETRASIMOU;",
  "pDIGRAMMA_GG;rFTOGGOS_OU;pSTIGMA;pARKTIKO_PA;xVOU;xGA;xDI;xKE;xZO;xNI;pKENTIMATA_NEO_MESO;",
  "w_NEO_MESO;wTA_NEO_KATO;w_NEO_KATO;qLASMA_KATO;pGORGON_NEO_KATO;",
  ">1D100:0MUSICAL_SYMBOL_SINGLE_BARLINE;fDOUBLE_BARLINE;fFINAL_BARLINE;fREVERSE_FINAL_BARLINE;",
  "fDASHED_BARLINE;fSHORT_BARLINE;fLEFT_REPEAT_SIGN;fRIGHT_REPEAT_SIGN;gEPEAT_DOTS;fDAL_SEGNO;",
  "h_CAPO;fSEGNO;fCODA;fREPEATED_FIGURE-1;v2;v3;fFERMATA;m_BELOW;fBREATH_MARK;fCAESURA;fBRACE;",
  "jKET;fONE-LINE_STAFF;fTWO-LINE_STAFF;gHREE-LINE_STAFF;fFOUR-LINE_STAFF;gIVE-LINE_STAFF;",
  "fSIX-LINE_STAFF;jSTRING_FRETBOARD;fFOUR-STRING_FRETBOARD;fG_CLEF;l_OTTAVA_ALTA;tBASSA;fC_CLEF;",
  "fF_CLEF;l_OTTAVA_ALTA;tBASSA;fDRUM_CLEF-1;p2;>1D129:fMULTIPLE_MEASURE_REST;fDOUBLE_SHARP;mFLAT;",
  "fFLAT_UP;kDOWN;fNATURAL_UP;nDOWN;fSHARP_UP;lDOWN;fQUARTER_TONE_SHARP;sFLAT;fCOMMON_TIME;",
  "gUT_TIME;fOTTAVA_ALTA;mBASSA;fQUINDICESIMA_ALTA;sBASSA;fMULTI_REST;fWHOLE_REST;fHALF_REST;",
  "fQUARTER_REST;fEIGHTH_REST;fSIXTEENTH_REST;fTHIRTY-SECOND_REST;fSIXTY-FOURTH_REST;",
  "fONE_HUNDRED_TWENTY-EIGHTH_REST;fX_NOTEHEAD;fPLUS_NOTEHEAD;fCIRCLE_X_NOTEHEAD;",
  "fSQUARE_NOTEHEAD_WHITE;vBLACK;fTRIANGLE_NOTEHEAD_UP_WHITE;ABLACK;xLEFT_WHITE;CBLACK;",
  "xRIGHT_WHITE;DBLACK;xDOWN_WHITE;CBLACK;xUP_RIGHT_WHITE;GBLACK;fMOON_NOTEHEAD_WHITE;tBLACK;",
  "fTRIANGLE-ROUND_NOTEHEAD_DOWN_WHITE;IBLACK;fPARENTHESIS_NOTEHEAD;fVOID_NOTEHEAD;",
  "fNOTEHEAD_BLACK;gULL_NOTEHEAD;fCLUSTER_NOTEHEAD_WHITE;wBLACK;fBREVE;fWHOLE_NOTE;fHALF_NOTE;",
  "fQUARTER_NOTE;fEIGHTH_NOTE;fSIXTEENTH_NOTE;fTHIRTY-SECOND_NOTE;fSIXTY-FOURTH_NOTE;",
  "fONE_HUNDRED_TWENTY-EIGHTH_NOTE;fCOMBINING_STEM;qPRECHGESANG_STEM;pTREMOLO-1;x2;x3;",
  "fFINGERED_TREMOLO-1;w2;w3;fCOMBINING_AUGMENTATION_DOT;pFLAG-1;u2;u3;u4;u5;fBEGIN_BEAM;",
  "fEND_BEAM;fBEGIN_TIE;fEND_TIE;fBEGIN_SLUR;fEND_SLUR;fBEGIN_PHRASE;fEND_PHRASE;",
  "fCOMBINING_ACCENT;pSTACCATO;pTENUTO;pSTACCATISSIMO;pMARCATO;w-STACCATO;pACCENT-STACCATO;pLOURE;",
  "fARPEGGIATO_UP;qDOWN;fCOMBINING_DOIT;pRIP;pFLIP;pSMEAR;pBEND;pDOUBLE_TONGUE;pTRIPLE_TONGUE;",
  "fRINFORZANDO;fSUBITO;fZ;fPIANO;fMEZZO;fFORTE;fCRESCENDO;fDECRESCENDO;fGRACE_NOTE_SLASH;",
  "qNO_SLASH;fTR;gURN;fINVERTED_TURN;fTURN_SLASH;kUP;fORNAMENT_STROKE-1;v2;v3;v4;v5;v6;v7;v8;v9;",
  "v10;w1;fHAUPTSTIMME;fNEBENSTIMME;fEND_OF_STIMME;fDEGREE_SLASH;fCOMBINING_DOWN_BOW;pUP_BOW;",
  "pHARMONIC;pSNAP_PIZZICATO;fPEDAL_MARK;lUP_MARK;fHALF_PEDAL_MARK;fGLISSANDO_UP;pDOWN;",
  "fWITH_FINGERNAILS;fDAMP;j_ALL;fMAXIMA;fLONGA;fBREVIS;fSEMIBREVIS_WHITE;qBLACK;fMINIMA;l_BLACK;",
  "fSEMIMINIMA_WHITE;qBLACK;fFUSA_WHITE;kBLACK;fLONGA_PERFECTA_REST;lIMPERFECTA_REST;fBREVIS_REST;",
  "fSEMIBREVIS_REST;fMINIMA_REST;fSEMIMINIMA_REST;fTEMPUS_PERFECTUM_CUM_PROLATIONE_PERFECTA;",
  "LIMPERFECTA;LPERFECTA_DIMINUTION-1;mIMPERFECTUM_CUM_PROLATIONE_PERFECTA;NIMPERFECTA;",
  "X_DIMINUTION-1;ZIMINUTION-2;ZIMINUTION-3;fCROIX;fGREGORIAN_C_CLEF;pF_CLEF;fSQUARE_B;fVIRGA;",
  "fPODATUS;fCLIVIS;fSCANDICUS;fCLIMACUS;fTORCULUS;fPORRECTUS;o_FLEXUS;fSCANDICUS_FLEXUS;",
  "fTORCULUS_RESUPINUS;fPES_SUBPUNCTIS;fKIEVAN_C_CLEF;mEND_OF_PIECE;mFINAL_NOTE;mRECITATIVE_MARK;",
  "mWHOLE_NOTE;mHALF_NOTE;mQUARTER_NOTE_STEM_DOWN;EUP;mEIGHTH_NOTE_STEM_DOWN;DUP;mFLAT_SIGN;fSORI;",
  "fKORON;>1D200:0GREEK_VOCAL_NOTATION_SYMBOL-1;s2;s3;s4;s5;s6;s7;s8;s9;s10;t1;t2;t3;t4;t5;t6;t7;",
  "t8;t9;s20;t1;t2;t3;t4;s50;t1;t2;t3;t4;6INSTRUMENTAL_NOTATION_SYMBOL-1;z2;z4;z5;z7;z8;z11;A2;A3;",
  "A4;A7;A8;A9;z23;A4;A5;A6;A7;A9;z30;A2;A6;A7;A8;A9;z40;A2;A3;A5;A7;A8;A9;z50;A1;A2;A3;A4;",
  "0COMBINING_GREEK_MUSICAL_TRISEME;pETRASEME;oPENTASEME;0GREEK_MUSICAL_LEIMMA;",
  ">1D2E0:0MAYAN_NUMERAL_ZERO;eONE;eTWO;fHREE;eFOUR;fIVE;eSIX;fEVEN;eEIGHT;eNINE;eTEN;eELEVEN;",
  "eTWELVE;fHIRTEEN;eFOURTEEN;fIFTEEN;eSIXTEEN;fEVENTEEN;eEIGHTEEN;eNINETEEN;",
  ">1D300:1ONOGRAM_FOR_EARTH;0DIGRAM_FOR_HEAVENLY_EARTH;cUMAN_EARTH;bEARTHLY_HEAVEN;kUMAN;g;",
  "0TETRAGRAM_FOR_CENTRE;eFULL_CIRCLE;eMIRED;eBARRIER;eKEEPING_SMALL;eCONTRARIETY;eASCENT;",
  "eOPPOSITION;eBRANCHING_OUT;eDEFECTIVENESS_OR_DISTORTION;fIVERGENCE;eYOUTHFULNESS;eINCREASE;",
  "ePENETRATION;eREACH;eCONTACT;eHOLDING_BACK;eWAITING;eFOLLOWING;eADVANCE;eRELEASE;gSISTANCE;",
  "eEASE;eJOY;eCONTENTION;eENDEAVOUR;eDUTIES;eCHANGE;eDECISIVENESS;eBOLD_RESOLUTION;ePACKING;",
  "eLEGION;eCLOSENESS;eKINSHIP;eGATHERING;eSTRENGTH;ePURITY;eFULLNESS;eRESIDENCE;eLAW_OR_MODEL;",
  "eRESPONSE;eGOING_TO_MEET;eENCOUNTERS;eSTOVE;eGREATNESS;eENLARGEMENT;ePATTERN;eRITUAL;eFLIGHT;",
  "eVASTNESS_OR_WASTING;eCONSTANCY;eMEASURE;eETERNITY;eUNITY;eDIMINISHMENT;eCLOSED_MOUTH;",
  "eGUARDEDNESS;fATHERING_IN;eMASSING;eACCUMULATION;eEMBELLISHMENT;eDOUBT;eWATCH;eSINKING;eINNER;",
  "eDEPARTURE;fARKENING;fIMMING;eEXHAUSTION;eSEVERANCE;fTOPPAGE;eHARDNESS;eCOMPLETION;fLOSURE;",
  "eFAILURE;eAGGRAVATION;eCOMPLIANCE;eON_THE_VERGE;eDIFFICULTIES;eLABOURING;eFOSTERING;",
  ">1D360:0COUNTING_ROD_UNIT_DIGIT_ONE;oTWO;pHREE;oFOUR;pIVE;oSIX;pEVEN;oEIGHT;oNINE;",
  "dTENS_DIGIT_ONE;oTWO;pHREE;oFOUR;pIVE;oSIX;pEVEN;oEIGHT;oNINE;0IDEOGRAPHIC_TALLY_MARK_ONE;nTWO;",
  "oHREE;nFOUR;oIVE;0TALLY_MARK_ONE;bFIVE;>1D400:0MATHEMATICAL_BOLD_CAPITAL_A;qB;qC;qD;qE;qF;qG;",
  "qH;qI;qJ;qK;qL;qM;qN;qO;qP;qQ;qR;qS;qT;qU;qV;qW;qX;qY;qZ;iSMALL_A;oB;oC;oD;oE;oF;oG;oH;oI;oJ;",
  "oK;oL;oM;oN;oO;oP;oQ;oR;oS;oT;oU;oV;oW;oX;oY;oZ;dITALIC_CAPITAL_A;sB;sC;sD;sE;sF;sG;sH;sI;sJ;",
  "sK;sL;sM;sN;sO;sP;sQ;sR;sS;sT;sU;sV;sW;sX;sY;sZ;kSMALL_A;qB;qC;qD;qE;qF;qG;>1D456:qI;qJ;qK;qL;",
  "qM;qN;qO;qP;qQ;qR;qS;qT;qU;qV;qW;qX;qY;qZ;dBOLD_ITALIC_CAPITAL_A;xB;xC;xD;xE;xF;xG;xH;xI;xJ;xK;",
  "xL;xM;xN;xO;xP;xQ;xR;xS;xT;xU;xV;xW;xX;xY;xZ;pSMALL_A;vB;vC;vD;vE;vF;vG;vH;vI;vJ;vK;vL;vM;vN;",
  "vO;vP;vQ;vR;vS;vT;vU;vV;vW;vX;vY;vZ;dSCRIPT_CAPITAL_A;>1D49E:sC;sD;>1D4A2:sG;>1D4A5:sJ;sK;",
  ">1D4A9:sN;sO;sP;sQ;>1D4AE:sS;sT;sU;sV;sW;sX;sY;sZ;kSMALL_A;qB;qC;qD;>1D4BB:qF;>1D4BD:qH;qI;qJ;",
  "qK;qL;qM;qN;>1D4C5:qP;qQ;qR;qS;qT;qU;qV;qW;qX;qY;qZ;dBOLD_SCRIPT_CAPITAL_A;xB;xC;xD;xE;xF;xG;",
  "xH;xI;xJ;xK;xL;xM;xN;xO;xP;xQ;xR;xS;xT;xU;xV;xW;xX;xY;xZ;pSMALL_A;vB;vC;vD;vE;vF;vG;vH;vI;vJ;",
  "vK;vL;vM;vN;vO;vP;vQ;vR;vS;vT;vU;vV;vW;vX;vY;vZ;dFRAKTUR_CAPITAL_A;tB;>1D507:tD;tE;tF;tG;",
  ">1D50D:tJ;tK;tL;tM;tN;tO;tP;tQ;>1D516:tS;tT;tU;tV;tW;tX;tY;>1D51E:lSMALL_A;rB;rC;rD;rE;rF;rG;",
  "rH;rI;rJ;rK;rL;rM;rN;rO;rP;rQ;rR;rS;rT;rU;rV;rW;rX;rY;rZ;dDOUBLE-STRUCK_CAPITAL_A;zB;>1D53B:zD;",
  "zE;zF;zG;>1D540:zI;zJ;zK;zL;zM;>1D546:zO;>1D54A:zS;zT;zU;zV;zW;zX;zY;>1D552:rSMALL_A;xB;xC;xD;",
  "xE;xF;xG;xH;xI;xJ;xK;xL;xM;xN;xO;xP;xQ;xR;xS;xT;xU;xV;xW;xX;xY;xZ;dBOLD_FRAKTUR_CAPITAL_A;yB;",
  "yC;yD;yE;yF;yG;yH;yI;yJ;yK;yL;yM;yN;yO;yP;yQ;yR;yS;yT;yU;yV;yW;yX;yY;yZ;qSMALL_A;wB;wC;wD;wE;",
  "wF;wG;wH;wI;wJ;wK;wL;wM;wN;wO;wP;wQ;wR;wS;wT;wU;wV;wW;wX;wY;wZ;dSANS-SERIF_CAPITAL_A;wB;wC;wD;",
  "wE;wF;wG;wH;wI;wJ;wK;wL;wM;wN;wO;wP;wQ;wR;wS;wT;wU;wV;wW;wX;wY;wZ;oSMALL_A;uB;uC;uD;uE;uF;uG;",
  "uH;uI;uJ;uK;uL;uM;uN;uO;uP;uQ;uR;uS;uT;uU;uV;uW;uX;uY;uZ;oBOLD_CAPITAL_A;BB;BC;BD;BE;BF;BG;BH;",
  "BI;BJ;BK;BL;BM;BN;BO;BP;BQ;BR;BS;BT;BU;BV;BW;BX;BY;BZ;tSMALL_A;zB;zC;zD;zE;zF;zG;zH;zI;zJ;zK;",
  "zL;zM;zN;zO;zP;zQ;zR;zS;zT;zU;zV;zW;zX;zY;zZ;oITALIC_CAPITAL_A;DB;DC;DD;DE;DF;DG;DH;DI;DJ;DK;",
  "DL;DM;DN;DO;DP;DQ;DR;DS;DT;DU;DV;DW;DX;DY;DZ;vSMALL_A;BB;BC;BD;BE;BF;BG;BH;BI;BJ;BK;BL;BM;BN;",
  "BO;BP;BQ;BR;BS;BT;BU;BV;BW;BX;BY;BZ;oBOLD_ITALIC_CAPITAL_A;IB;IC;ID;IE;IF;IG;IH;II;IJ;IK;IL;IM;",
  "IN;IO;IP;IQ;IR;IS;IT;IU;IV;IW;IX;IY;IZ;ASMALL_A;GB;GC;GD;GE;GF;GG;GH;GI;GJ;GK;GL;GM;GN;GO;GP;",
  "GQ;GR;GS;GT;GU;GV;GW;GX;GY;GZ;dMONOSPACE_CAPITAL_A;vB;vC;vD;vE;vF;vG;vH;vI;vJ;vK;vL;vM;vN;vO;",
  "vP;vQ;vR;vS;vT;vU;vV;vW;vX;vY;vZ;nSMALL_A;tB;tC;tD;tE;tF;tG;tH;tI;tJ;tK;tL;tM;tN;tO;tP;tQ;tR;",
  "tS;tT;tU;tV;tW;tX;tY;tZ;dITALIC_SMALL_DOTLESS_I;yJ;>1D6A8:dBOLD_CAPITAL_ALPHA;qBETA;qGAMMA;",
  "qDELTA;qEPSILON;qZETA;qETA;qTHETA;qIOTA;qKAPPA;qLAMDA;qMU;qNU;qXI;qOMICRON;qPI;qRHO;",
  "qTHETA_SYMBOL;qSIGMA;qTAU;qUPSILON;qPHI;qCHI;qPSI;qOMEGA;iNABLA;iSMALL_ALPHA;oBETA;oGAMMA;",
  "oDELTA;oEPSILON;oZETA;oETA;oTHETA;oIOTA;oKAPPA;oLAMDA;oMU;oNU;oXI;oOMICRON;oPI;oRHO;",
  "oFINAL_SIGMA;oSIGMA;oTAU;oUPSILON;oPHI;oCHI;oPSI;oOMEGA;iPARTIAL_DIFFERENTIAL;iEPSILON_SYMBOL;",
  "iTHETA_SYMBOL;iKAPPA_SYMBOL;iPHI_SYMBOL;iRHO_SYMBOL;iPI_SYMBOL;dITALIC_CAPITAL_ALPHA;sBETA;",
  "sGAMMA;sDELTA;sEPSILON;sZETA;sETA;sTHETA;sIOTA;sKAPPA;sLAMDA;sMU;sNU;sXI;sOMICRON;sPI;sRHO;",
  "sTHETA_SYMBOL;sSIGMA;sTAU;sUPSILON;sPHI;sCHI;sPSI;sOMEGA;kNABLA;kSMALL_ALPHA;qBETA;qGAMMA;",
  "qDELTA;qEPSILON;qZETA;qETA;qTHETA;qIOTA;qKAPPA;qLAMDA;qMU;qNU;qXI;qOMICRON;qPI;qRHO;",
  "qFINAL_SIGMA;qSIGMA;qTAU;qUPSILON;qPHI;qCHI;qPSI;qOMEGA;kPARTIAL_DIFFERENTIAL;kEPSILON_SYMBOL;",
  "kTHETA_SYMBOL;kKAPPA_SYMBOL;kPHI_SYMBOL;kRHO_SYMBOL;kPI_SYMBOL;dBOLD_ITALIC_CAPITAL_ALPHA;",
  "xBETA;xGAMMA;xDELTA;xEPSILON;xZETA;xETA;xTHETA;xIOTA;xKAPPA;xLAMDA;xMU;xNU;xXI;xOMICRON;xPI;",
  "xRHO;xTHETA_SYMBOL;xSIGMA;xTAU;xUPSILON;xPHI;xCHI;xPSI;xOMEGA;pNABLA;pSMALL_ALPHA;vBETA;vGAMMA;",
  "vDELTA;vEPSILON;vZETA;vETA;vTHETA;vIOTA;vKAPPA;vLAMDA;vMU;vNU;vXI;vOMICRON;vPI;vRHO;",
  "vFINAL_SIGMA;vSIGMA;vTAU;vUPSILON;vPHI;vCHI;vPSI;vOMEGA;pPARTIAL_DIFFERENTIAL;pEPSILON_SYMBOL;",
  "pTHETA_SYMBOL;pKAPPA_SYMBOL;pPHI_SYMBOL;pRHO_SYMBOL;pPI_SYMBOL;dSANS-SERIF_BOLD_CAPITAL_ALPHA;",
  "BBETA;BGAMMA;BDELTA;BEPSILON;BZETA;BETA;BTHETA;BIOTA;BKAPPA;BLAMDA;BMU;BNU;BXI;BOMICRON;BPI;",
  "BRHO;BTHETA_SYMBOL;BSIGMA;BTAU;BUPSILON;BPHI;BCHI;BPSI;BOMEGA;tNABLA;tSMALL_ALPHA;zBETA;zGAMMA;",
  "zDELTA;zEPSILON;zZETA;zETA;zTHETA;zIOTA;zKAPPA;zLAMDA;zMU;zNU;zXI;zOMICRON;zPI;zRHO;",
  "zFINAL_SIGMA;zSIGMA;zTAU;zUPSILON;zPHI;zCHI;zPSI;zOMEGA;tPARTIAL_DIFFERENTIAL;tEPSILON_SYMBOL;",
  "tTHETA_SYMBOL;tKAPPA_SYMBOL;tPHI_SYMBOL;tRHO_SYMBOL;tPI_SYMBOL;tITALIC_CAPITAL_ALPHA;IBETA;",
  "IGAMMA;IDELTA;IEPSILON;IZETA;IETA;ITHETA;IIOTA;IKAPPA;ILAMDA;IMU;INU;IXI;IOMICRON;IPI;IRHO;",
  "ITHETA_SYMBOL;ISIGMA;ITAU;IUPSILON;IPHI;ICHI;IPSI;IOMEGA;ANABLA;ASMALL_ALPHA;GBETA;GGAMMA;",
  "GDELTA;GEPSILON;GZETA;GETA;GTHETA;GIOTA;GKAPPA;GLAMDA;GMU;GNU;GXI;GOMICRON;GPI;GRHO;",
  "GFINAL_SIGMA;GSIGMA;GTAU;GUPSILON;GPHI;GCHI;GPSI;GOMEGA;APARTIAL_DIFFERENTIAL;AEPSILON_SYMBOL;",
  "ATHETA_SYMBOL;AKAPPA_SYMBOL;APHI_SYMBOL;ARHO_SYMBOL;API_SYMBOL;dBOLD_CAPITAL_DIGAMMA;",
  "iSMALL_DIGAMMA;>1D7CE:iDIGIT_ZERO;oONE;oTWO;pHREE;oFOUR;pIVE;oSIX;pEVEN;oEIGHT;oNINE;",
  "dDOUBLE-STRUCK_DIGIT_ZERO;xONE;xTWO;yHREE;xFOUR;yIVE;xSIX;yEVEN;xEIGHT;xNINE;",
  "dSANS-SERIF_DIGIT_ZERO;uONE;uTWO;vHREE;uFOUR;vIVE;uSIX;vEVEN;uEIGHT;uNINE;oBOLD_DIGIT_ZERO;",
  "zONE;zTWO;AHREE;zFOUR;AIVE;zSIX;AEVEN;zEIGHT;zNINE;dMONOSPACE_DIGIT_ZERO;tONE;tTWO;uHREE;tFOUR;",
  "uIVE;tSIX;uEVEN;tEIGHT;tNINE;0SIGNWRITING_HAND-FIST_INDEX;hCIRCLE_INDEX;iUP_INDEX;hOVAL_INDEX;",
  "hHINGE_INDEX;hANGLE_INDEX;hFIST_INDEX_BENT;hCIRCLE_INDEX_BENT;hFIST_THUMB_UNDER_INDEX_BENT;",
  "mINDEX_RAISED_KNUCKLE;sCUPPED;sHINGED;y_LOW;hCIRCLE_INDEX_HINGE;hFIST_INDEX_MIDDLE;",
  "hCIRCLE_INDEX_MIDDLE;hFIST_INDEX_MIDDLE_BENT;zRAISED_KNUCKLES;zHINGED;sUP_MIDDLE_HINGED;",
  "sHINGED_MIDDLE_UP;sMIDDLE_CONJOINED;I_INDEX_BENT;JMIDDLE_BENT;JCUPPED;JHINGED;AROSSED;",
  "hCIRCLE_INDEX_MIDDLE_CROSSED;hFIST_MIDDLE_BENT_OVER_INDEX;mINDEX_BENT_OVER_MIDDLE;",
  "sMIDDLE_THUMB;hCIRCLE_INDEX_MIDDLE_THUMB;hFIST_INDEX_MIDDLE_STRAIGHT_THUMB_BENT;",
  "zBENT_THUMB_STRAIGHT;zTHUMB_BENT;zHINGED_SPREAD_THUMB_SIDE;sUP_MIDDLE_HINGED_THUMB_SIDE;",
  "PCONJOINED;sHINGED_MIDDLE_UP_THUMB_SIDE;sMIDDLE_UP_SPREAD_THUMB_FORWARD;zTHUMB_CUPPED;GIRCLED;",
  "FHOOKED;GINGED;mTHUMB_BETWEEN_INDEX_MIDDLE_STRAIGHT;mINDEX_MIDDLE_CONJOINED_THUMB_SIDE;",
  "T_CONJOINED;UBENT;mMIDDLE_THUMB_HOOKED_INDEX_UP;mINDEX_THUMB_HOOKED_MIDDLE_UP;",
  "sMIDDLE_CONJOINED_HINGED_THUMB_SIDE;AROSSED_THUMB_SIDE;AONJOINED_THUMB_FORWARD;",
  "JCUPPED_THUMB_FORWARD;mMIDDLE_THUMB_CUPPED_INDEX_UP;mINDEX_THUMB_CUPPED_MIDDLE_UP;",
  "mMIDDLE_THUMB_CIRCLED_INDEX_UP;NHINGED;mINDEX_THUMB_ANGLED_OUT_MIDDLE_UP;FIN_MIDDLE_UP;",
  "yCIRCLED_MIDDLE_UP;sMIDDLE_THUMB_CONJOINED_HINGED;FANGLED_OUT;L;",
  "mMIDDLE_THUMB_ANGLED_OUT_INDEX_UP;QCROSSED;GINDEX_UP;mINDEX_THUMB_HOOKED_MIDDLE_HINGED;",
  "iLAT_FOUR_FINGERS;y_BENT;zHINGED;zCONJOINED;I_SPLIT;hCLAW_FOUR_FINGERS_CONJOINED;",
  "hFIST_FOUR_FINGERS_CONJOINED_BENT;hHINGE_FOUR_FINGERS_CONJOINED;hFLAT_FIVE_FINGERS_SPREAD;",
  "mHEEL_FIVE_FINGERS_SPREAD;mFIVE_FINGERS_SPREAD_FOUR_BENT;mHEEL_FIVE_FINGERS_SPREAD_FOUR_BENT;",
  "mFIVE_FINGERS_SPREAD_BENT;mHEEL_FIVE_FINGERS_SPREAD_BENT;mFIVE_FINGERS_SPREAD_THUMB_FORWARD;",
  "hCUP_FIVE_FINGERS_SPREAD;E_OPEN;hHINGE_FIVE_FINGERS_SPREAD_OPEN;hOVAL_FIVE_FINGERS_SPREAD;",
  "hFLAT_FIVE_FINGERS_SPREAD_HINGED;M_THUMB_SIDE;NNO_THUMB;l;l_BETWEEN_PALM_FACINGS;mHEEL;",
  "mTHUMB_SIDE;mHEEL_THUMB_SIDE;mTHUMB_BENT;sFORWARD;mSPLIT_INDEX_THUMB_SIDE;sCENTRE;y_THUMB_SIDE;",
  "J_BENT;sLITTLE;hCLAW;l_THUMB_SIDE;mNO_THUMB;mTHUMB_FORWARD;hHOOK_CURLICUE;l;hCUP_OPEN;k;",
  "k_OPEN_THUMB_SIDE;lTHUMB_SIDE;lOPEN_NO_THUMB;lNO_THUMB;lOPEN_THUMB_FORWARD;lTHUMB_FORWARD;",
  "jRLICUE_OPEN;p;iIRCLE;hOVAL;l_THUMB_SIDE;mNO_THUMB;mTHUMB_FORWARD;hHINGE_OPEN;r_THUMB_FORWARD;",
  "m;m_SMALL;nOPEN_THUMB_SIDE;nTHUMB_SIDE;nOPEN_NO_THUMB;nNO_THUMB;nTHUMB_SIDE_TOUCHING_INDEX;",
  "tBETWEEN_MIDDLE_RING;hANGLE;hFIST_INDEX_MIDDLE_RING;hCIRCLE_INDEX_MIDDLE_RING;",
  "hHINGE_INDEX_MIDDLE_RING;hANGLE_INDEX_MIDDLE_RING;hHINGE_LITTLE;hFIST_INDEX_MIDDLE_RING_BENT;",
  "ECONJOINED;hHINGE_INDEX_MIDDLE_RING_CONJOINED;hFIST_LITTLE_DOWN;x_RIPPLE_STRAIGHT;FCURVED;",
  "yOTHERS_CIRCLED;tUP;mTHUMB_UNDER_LITTLE_UP;hCIRCLE_LITTLE_UP;hOVAL_LITTLE_UP;hANGLE_LITTLE_UP;",
  "hFIST_LITTLE_RAISED_KNUCKLE;tBENT;tTOUCHES_THUMB;uHUMB;hHINGE_LITTLE_THUMB;",
  "hFIST_LITTLE_INDEX_THUMB;hHINGE_LITTLE_INDEX_THUMB;hANGLE_LITTLE_INDEX_THUMB_INDEX_THUMB_OUT;R;",
  "hFIST_LITTLE_INDEX;hCIRCLE_LITTLE_INDEX;hHINGE_LITTLE_INDEX;hANGLE_LITTLE_INDEX;",
  "hFIST_INDEX_MIDDLE_LITTLE;hCIRCLE_INDEX_MIDDLE_LITTLE;hHINGE_INDEX_MIDDLE_LITTLE;nRING;",
  "hANGLE_INDEX_MIDDLE_LITTLE;hFIST_INDEX_MIDDLE_CROSS_LITTLE;hCIRCLE_INDEX_MIDDLE_CROSS_LITTLE;",
  "hFIST_RING_DOWN;hHINGE_RING_DOWN_INDEX_THUMB_HOOK_MIDDLE;",
  "hANGLE_RING_DOWN_MIDDLE_THUMB_INDEX_CROSS;hFIST_RING_UP;rRAISED_KNUCKLE;rLITTLE;",
  "hCIRCLE_RING_LITTLE;hOVAL_RING_LITTLE;hANGLE_RING_LITTLE;hFIST_RING_MIDDLE;x_CONJOINED;",
  "yRAISED_KNUCKLES;rINDEX;rTHUMB;hHOOK_RING_THUMB;hFIST_INDEX_RING_LITTLE;",
  "hCIRCLE_INDEX_RING_LITTLE;iURLICUE_INDEX_RING_LITTLE_ON;hHOOK_INDEX_RING_LITTLE_OUT;EIN;EUNDER;",
  "hCUP_INDEX_RING_LITTLE;hHINGE_INDEX_RING_LITTLE;hANGLE_INDEX_RING_LITTLE_OUT;E;",
  "hFIST_MIDDLE_DOWN;hHINGE_MIDDLE;hFIST_MIDDLE_UP;hCIRCLE_MIDDLE_UP;hFIST_MIDDLE_RAISED_KNUCKLE;",
  "tUP_THUMB_SIDE;hHOOK_MIDDLE_THUMB;hFIST_MIDDLE_THUMB_LITTLE;tLITTLE;tRING_LITTLE;",
  "hCIRCLE_MIDDLE_RING_LITTLE;iURLICUE_MIDDLE_RING_LITTLE_ON;jP_MIDDLE_RING_LITTLE;",
  "hHINGE_MIDDLE_RING_LITTLE;hANGLE_MIDDLE_RING_LITTLE_OUT;GIN;F;hCIRCLE_MIDDLE_RING_LITTLE_BENT;",
  "iLAW_MIDDLE_RING_LITTLE_CONJOINED;O_SIDE;hHOOK_MIDDLE_RING_LITTLE_CONJOINED_OUT;PIN;O;",
  "iINGE_INDEX_HINGED;hFIST_INDEX_THUMB_SIDE;hHINGE_INDEX_THUMB_SIDE;",
  "hFIST_INDEX_THUMB_SIDE_THUMB_DIAGONAL;JCONJOINED;JBENT;DINDEX_BENT;DBOTH_BENT;DINDEX_HINGE;",
  "yFORWARD_INDEX_STRAIGHT;MBENT;yHOOK;yCURLICUE;BVE_THUMB_INSIDE;",
  "hCLAW_INDEX_THUMB_CURVE_THUMB_INSIDE;hFIST_INDEX_THUMB_CURVE_THUMB_UNDER;zIRCLE;",
  "hCUP_INDEX_THUMB;w_OPEN;hHINGE_INDEX_THUMB_OPEN;zLARGE;y;y_SMALL;hANGLE_INDEX_THUMB_OUT;zIN;y;",
  "hFIST_THUMB;r_HEEL;sSIDE_DIAGONAL;xCONJOINED;xBENT;sFORWARD;sBETWEEN_INDEX_MIDDLE;AMIDDLE_RING;",
  "ARING_LITTLE;sUNDER_TWO_FINGERS;sOVER_TWO_FINGERS;sUNDER_THREE_FINGERS;yFOUR_FINGERS;",
  "sOVER_FOUR_RAISED_KNUCKLES;l;l_HEEL;cTOUCH_SINGLE;iMULTIPLE;iBETWEEN;cGRASP_SINGLE;iMULTIPLE;",
  "iBETWEEN;cSTRIKE_SINGLE;jMULTIPLE;jBETWEEN;cBRUSH_SINGLE;iMULTIPLE;iBETWEEN;cRUB_SINGLE;",
  "gMULTIPLE;gBETWEEN;cSURFACE_SYMBOLS;kBETWEEN;dQUEEZE_LARGE_SINGLE;kSMALL_SINGLE;",
  "kLARGE_MULTIPLE;kSMALL_MULTIPLE;lEQUENTIAL;cFLICK_LARGE_SINGLE;iSMALL_SINGLE;iLARGE_MULTIPLE;",
  "iSMALL_MULTIPLE;jEQUENTIAL;cSQUEEZE_FLICK_ALTERNATING;cMOVEMENT-HINGE_UP_DOWN_LARGE;zSMALL;",
  "uSEQUENTIAL;rDOWN_SEQUENTIAL;rUP_DOWN_ALTERNATING_LARGE;LSMALL;rSIDE_TO_SIDE_SCISSORS;",
  "lWALLPLANE_FINGER_CONTACT;lFLOORPLANE_FINGER_CONTACT;lWALLPLANE_SINGLE_STRAIGHT_SMALL;LMEDIUM;",
  "LLARGE;QST;CWRIST_FLEX;vDOUBLE_STRAIGHT;CWRIST_FLEX;CALTERNATING;N_WRIST_FLEX;vCROSS;",
  "vTRIPLE_STRAIGHT_MOVEMENT;CWRIST_FLEX;CALTERNATING;N_WRIST_FLEX;vBEND_SMALL;AMEDIUM;ALARGE;",
  "vCORNER_SMALL;CMEDIUM;CLARGE;CROTATION;wHECK_SMALL;BMEDIUM;BLARGE;vBOX_SMALL;zMEDIUM;zLARGE;",
  "vZIGZAG_SMALL;CMEDIUM;CLARGE;vPEAKS_SMALL;BMEDIUM;BLARGE;",
  "cTRAVEL-WALLPLANE_ROTATION-WALLPLANE_SINGLE;MDOUBLE;MALTERNATING;CFLOORPLANE_SINGLE;NDOUBLE;",
  "NALTERNATING;tSHAKING;tARM_SPIRAL_SINGLE;EDOUBLE;ETRIPLE;cMOVEMENT-DIAGONAL_AWAY_SMALL;zMEDIUM;",
  "zLARGE;EST;uTOWARDS_SMALL;CMEDIUM;CLARGE;HST;uBETWEEN_AWAY_SMALL;HMEDIUM;HLARGE;MST;",
  "CTOWARDS_SMALL;KMEDIUM;KLARGE;PST;lFLOORPLANE_SINGLE_STRAIGHT_SMALL;MMEDIUM;MLARGE;RST;",
  "DWRIST_FLEX;wDOUBLE_STRAIGHT;DWRIST_FLEX;DALTERNATING;O_WRIST_FLEX;wCROSS;",
  "wTRIPLE_STRAIGHT_MOVEMENT;DWRIST_FLEX;DALTERNATING_MOVEMENT;PWRIST_FLEX;wBEND;wCORNER_SMALL;",
  "DMEDIUM;DLARGE;xHECK;wBOX_SMALL;AMEDIUM;ALARGE;wZIGZAG_SMALL;DMEDIUM;DLARGE;wPEAKS_SMALL;",
  "CMEDIUM;CLARGE;cTRAVEL-FLOORPLANE_ROTATION-FLOORPLANE_SINGLE;ODOUBLE;OALTERNATING;",
  "DWALLPLANE_SINGLE;NDOUBLE;NALTERNATING;uSHAKING;cMOVEMENT-WALLPLANE_CURVE_QUARTER_SMALL;",
  "JMEDIUM;JLARGE;OST;BHALF-CIRCLE_SMALL;NMEDIUM;NLARGE;SST;BTHREE-QUARTER_CIRCLE_SMALL;WMEDIUM;",
  "vHUMP_SMALL;AMEDIUM;ALARGE;vLOOP_SMALL;AMEDIUM;ALARGE;ASMALL_DOUBLE;vWAVE_CURVE_DOUBLE_SMALL;",
  "NMEDIUM;NLARGE;GTRIPLE_SMALL;NMEDIUM;NLARGE;vCURVE_THEN_STRAIGHT;AD_CROSS_SMALL;IMEDIUM;",
  "cROTATION-WALLPLANE_SINGLE;vDOUBLE;vALTERNATE;cMOVEMENT-WALLPLANE_SHAKING;",
  "vCURVE_HITTING_FRONT_WALL;vHUMP_HITTING_FRONT_WALL;vLOOP_HITTING_FRONT_WALL;",
  "vWAVE_HITTING_FRONT_WALL;cROTATION-WALLPLANE_SINGLE_HITTING_FRONT_WALL;",
  "vDOUBLE_HITTING_FRONT_WALL;vALTERNATING_HITTING_FRONT_WALL;",
  "cMOVEMENT-WALLPLANE_CURVE_HITTING_CHEST;vHUMP_HITTING_CHEST;vLOOP_HITTING_CHEST;",
  "vWAVE_HITTING_CHEST;cROTATION-WALLPLANE_SINGLE_HITTING_CHEST;vDOUBLE_HITTING_CHEST;",
  "vALTERNATING_HITTING_CHEST;cMOVEMENT-WALLPLANE_WAVE_DIAGONAL_PATH_SMALL;OMEDIUM;OLARGE;",
  "lFLOORPLANE_CURVE_HITTING_CEILING_SMALL;SLARGE;wHUMP_HITTING_CEILING_SMALL_DOUBLE;",
  "RLARGE_DOUBLE;RSMALL_TRIPLE;RLARGE_TRIPLE;wLOOP_HITTING_CEILING_SMALL_SINGLE;RLARGE_SINGLE;",
  "RSMALL_DOUBLE;RLARGE_DOUBLE;wWAVE_HITTING_CEILING_SMALL;RLARGE;",
  "cROTATION-FLOORPLANE_SINGLE_HITTING_CEILING;wDOUBLE_HITTING_CEILING;",
  "wALTERNATING_HITTING_CEILING;cMOVEMENT-FLOORPLANE_CURVE_HITTING_FLOOR_SMALL;QLARGE;",
  "wHUMP_HITTING_FLOOR_SMALL_DOUBLE;PLARGE_DOUBLE;PTRIPLE_SMALL_TRIPLE;WLARGE_TRIPLE;",
  "wLOOP_HITTING_FLOOR_SMALL_SINGLE;PLARGE_SINGLE;PSMALL_DOUBLE;PLARGE_DOUBLE;",
  "wWAVE_HITTING_FLOOR_SMALL;PLARGE;cROTATION-FLOORPLANE_SINGLE_HITTING_FLOOR;",
  "wDOUBLE_HITTING_FLOOR;wALTERNATING_HITTING_FLOOR;cMOVEMENT-FLOORPLANE_CURVE_SMALL;CMEDIUM;",
  "CLARGE;HST;CCOMBINED;wHUMP_SMALL;wLOOP_SMALL;wWAVE_SNAKE;CMALL;BLARGE;",
  "cROTATION-FLOORPLANE_SINGLE;wDOUBLE;wALTERNATING;cMOVEMENT-FLOORPLANE_SHAKING_PARALLEL;",
  "lWALLPLANE_ARM_CIRCLE_SMALL_SINGLE;GMEDIUM_SINGLE;GSMALL_DOUBLE;GMEDIUM_DOUBLE;",
  "lFLOORPLANE_ARM_CIRCLE_HITTING_WALL_SMALL_SINGLE;UMEDIUM_SINGLE;ULARGE_SINGLE;USMALL_DOUBLE;",
  "UMEDIUM_DOUBLE;ULARGE_DOUBLE;lWALLPLANE_WRIST_CIRCLE_FRONT_SINGLE;ODOUBLE;",
  "lFLOORPLANE_WRIST_CIRCLE_HITTING_WALL_SINGLE;WDOUBLE;lWALLPLANE_FINGER_CIRCLES_SINGLE;KDOUBLE;",
  "lFLOORPLANE_FINGER_CIRCLES_HITTING_WALL_SINGLE;YDOUBLE;cDYNAMIC_ARROWHEAD_SMALL;uLARGE;kFAST;",
  "kSLOW;kTENSE;kRELAXED;kSIMULTANEOUS;w_ALTERNATING;kEVERY_OTHER_TIME;kGRADUAL;cHEAD;g_RIM;",
  "hMOVEMENT-WALLPLANE_STRAIGHT;ATILT;qFLOORPLANE_STRAIGHT;qWALLPLANE_CURVE;qFLOORPLANE_CURVE;",
  "p_CIRCLE;cFACE_DIRECTION_POSITION_NOSE_FORWARD_TILTING;FUP_OR_DOWN;P_TILTING;",
  "cEYEBROWS_STRAIGHT_UP;uNEUTRAL;uDOWN;cDREAMY_EYEBROWS_NEUTRAL_DOWN;sDOWN_NEUTRAL;sUP_NEUTRAL;",
  "sNEUTRAL_UP;cFOREHEAD_NEUTRAL;lCONTACT;lWRINKLED;cEYES_OPEN;hSQUEEZED;hCLOSED;f_BLINK_SINGLE;",
  "mMULTIPLE;fS_HALF_OPEN;hWIDE_OPEN;hHALF_CLOSED;hWIDENING_MOVEMENT;f_WINK;fLASHES_UP;mDOWN;",
  "mFLUTTERING;fGAZE-WALLPLANE_STRAIGHT;C_DOUBLE;DALTERNATING;kFLOORPLANE_STRAIGHT;D_DOUBLE;",
  "EALTERNATING;kWALLPLANE_CURVED;kFLOORPLANE_CURVED;kWALLPLANE_CIRCLING;cCHEEKS_PUFFED;jNEUTRAL;",
  "jSUCKED;cTENSE_CHEEKS_HIGH;pMIDDLE;pLOW;cEARS;cNOSE_NEUTRAL;hCONTACT;hWRINKLES;iIGGLES;",
  "cAIR_BLOWING_OUT;gSUCKING_IN;gBLOW_SMALL_ROTATIONS;gSUCK_SMALL_ROTATIONS;cBREATH_INHALE;",
  "jEXHALE;cMOUTH_CLOSED_NEUTRAL;pFORWARD;pCONTACT;iSMILE;n_WRINKLED;oOPEN;iFROWN;n_WRINKLED;",
  "oOPEN;iOPEN_CIRCLE;nFORWARD;nWRINKLED;nOVAL;r_WRINKLED;sYAWN;nRECTANGLE;w_WRINKLED;xYAWN;iKISS;",
  "m_FORWARD;nWRINKLED;iTENSE;n_FORWARD;oSUCKED;cLIPS_PRESSED_TOGETHER;f_LOWER_OVER_UPPER;",
  "gUPPER_OVER_LOWER;cMOUTH_CORNERS;iWRINKLES_SINGLE;rDOUBLE;cTONGUE_STICKING_OUT_FAR;",
  "jLICKING_LIPS;jTIP_BETWEEN_LIPS;nTOUCHING_INSIDE_MOUTH;jINSIDE_MOUTH_RELAXED;",
  "jMOVES_AGAINST_CHEEK;jCENTRE_STICKING_OUT;qINSIDE_MOUTH;dEETH;h_MOVEMENT;iON_TONGUE;r_MOVEMENT;",
  "lLIPS;p_MOVEMENT;iBITE_LIPS;cMOVEMENT-WALLPLANE_JAW;lFLOORPLANE_JAW;cNECK;cHAIR;cEXCITEMENT;",
  "cSHOULDER_HIP_SPINE;pPOSITIONS;cWALLPLANE_SHOULDER_HIP_MOVE;cFLOORPLANE_SHOULDER_HIP_MOVE;",
  "cSHOULDER_TILTING_FROM_WAIST;cTORSO-WALLPLANE_STRAIGHT_STRETCH;sCURVED_BEND;",
  "iFLOORPLANE_TWISTING;cUPPER_BODY_TILTING_FROM_HIP_JOINTS;cLIMB_COMBINATION;hLENGTH-1;o2;o3;o4;",
  "o5;o6;o7;cFINGER;cLOCATION-WALLPLANE_SPACE;lFLOORPLANE_SPACE;k_HEIGHT;lWIDTH;lDEPTH;lHEAD_NECK;",
  "lTORSO;lLIMBS_DIGITS;cCOMMA;cFULL_STOP;cSEMICOLON;cCOLON;cPARENTHESIS;>1DA9B:cFILL_MODIFIER-2;",
  "q3;q4;q5;q6;>1DAA1:cROTATION_MODIFIER-2;u3;u4;u5;u6;u7;u8;u9;u10;v1;v2;v3;v4;v5;v6;",
  ">1DF00:0LATIN_SMALL_LETTER_FENG_DIGRAPH_WITH_TRILL;jREVERSED_SCRIPT_G;",
  "6LETTER_SMALL_CAPITAL_TURNED_G;6SMALL_LETTER_REVERSED_K;6LETTER_SMALL_CAPITAL_L_WITH_BELT;",
  "6SMALL_LETTER_LEZH_WITH_RETROFLEX_HOOK;jTURNED_Y_WITH_BELT;jREVERSED_ENG;",
  "jTURNED_R_WITH_LONG_LEG_AND_RETROFLEX_HOOK;k_WITH_HOOK_AND_RETROFLEX_HOOK;",
  "6LETTER_RETROFLEX_CLICK_WITH_RETROFLEX_HOOK;6SMALL_LETTER_ESH_WITH_DOUBLE_BAR;C_AND_CURL;",
  "jTURNED_T_WITH_CURL;6LETTER_INVERTED_GLOTTAL_STOP_WITH_CURL;dSTRETCHED_C_WITH_CURL;",
  "eMALL_CAPITAL_TURNED_K;6SMALL_LETTER_L_WITH_FISHHOOK;jDEZH_DIGRAPH_WITH_PALATAL_HOOK;",
  "jL_WITH_BELT_AND_PALATAL_HOOK;jENG_WITH_PALATAL_HOOK;jTURNED_R_WITH_PALATAL_HOOK;",
  "jR_WITH_FISHHOOK_AND_PALATAL_HOOK;jTESH_DIGRAPH_WITH_PALATAL_HOOK;jEZH_WITH_PALATAL_HOOK;",
  "jDEZH_DIGRAPH_WITH_RETROFLEX_HOOK;jI_WITH_STROKE_AND_RETROFLEX_HOOK;jO_WITH_RETROFLEX_HOOK;",
  "jTESH_DIGRAPH_WITH_RETROFLEX_HOOK;jC_WITH_RETROFLEX_HOOK;jS_WITH_CURL;",
  ">1E000:0COMBINING_GLAGOLITIC_LETTER_AZU;sBUKY;sVEDE;sGLAGOLI;sDOBRO;sYESTU;sZHIVETE;",
  ">1E008:tEMLJA;sIZHE;tNITIAL_IZHE;t;sDJERVI;sKAKO;sLJUDIJE;sMYSLITE;sNASHI;sONU;sPOKOJI;sRITSI;",
  "sSLOVO;sTVRIDO;sUKU;sFRITU;sHERU;>1E01B:sSHTA;sTSI;sCHRIVI;sSHA;sYERU;vI;tATI;>1E023:tU;",
  "sSMALL_YUS;>1E026:sYO;sIOTATED_SMALL_YUS;sBIG_YUS;sIOTATED_BIG_YUS;sFITA;",
  ">1E100:0NYIAKENG_PUACHUE_HMONG_LETTER_MA;uTSA;uNTA;uTA;uHA;uNA;uXA;uNKA;uCA;uLA;uSA;uZA;uNCA;",
  "vTSA;uKA;uDA;uNYA;vRA;uVA;uNTXA;uTXA;uFA;uRA;uQA;uYA;uNQA;uPA;uXYA;uNPA;uDLA;uNPLA;uHAH;uMLA;",
  "uPLA;uGA;uRRA;uA;vA;uI;uU;uO;vO;uE;vE;uW;>1E130:nTONE-B;sM;sJ;sV;sS;sG;sD;nSIGN_FOR_PERSON;",
  "wTHING;wLOCATION;wANIMAL;wINVERTEBRATE;sXW_XW;oYLLABLE_LENGTHENER;>1E140:nDIGIT_ZERO;tONE;tTWO;",
  "uHREE;tFOUR;uIVE;tSIX;uEVEN;tEIGHT;tNINE;>1E14E:nLOGOGRAM_NYAJ;nCIRCLED_CA;",
  ">1E290:0TOTO_LETTER_PA;cBA;cTA;cDA;cKA;cGA;cMA;cNA;dGA;cSA;cCHA;cYA;cWA;cJA;cHA;cRA;cLA;cI;",
  "cBREATHY_I;cIU;cBREATHY_IU;cU;cE;cBREATHY_E;cEO;cBREATHY_EO;cO;cAE;cBREATHY_AE;cA;",
  "5SIGN_RISING_TONE;>1E2C0:0WANCHO_LETTER_AA;f;eBA;eCA;eDA;eGA;eYA;ePHA;eLA;eNA;ePA;eTA;fHA;eFA;",
  "eSA;fHA;eJA;eZA;eWA;eVA;eKA;eO;eAU;eRA;eMA;eKHA;eHA;eE;eI;eNGA;eU;eLLHA;eTSA;fRA;eONG;eAANG;",
  "fNG;eING;eON;eEN;eAAN;eNYA;eUEN;eYIH;7TONE_TUP;fNI;cKOI;fNI;7DIGIT_ZERO;dONE;dTWO;eHREE;dFOUR;",
  "eIVE;dSIX;eEVEN;dEIGHT;dNINE;>1E2FF:7NGUN_SIGN;>1E7E0:0ETHIOPIC_SYLLABLE_HHYA;lU;lI;lAA;lEE;m;",
  "lO;>1E7E8:iGURAGE_HHWA;iHHWI;lEE;m;>1E7ED:iGURAGE_MWI;rEE;>1E7F0:pQWI;rEE;s;pBWI;rEE;pKWI;rEE;",
  "s;pGWI;rEE;s;pFWI;rEE;pPWI;rEE;>1E800:0MENDE_KIKAKUI_SYLLABLE_M001_KI;q2_KA;q3_KU;p65_KEE;",
  "p95_KE;p76_KOO;p48_KO;o179_KUA;o004_WI;q5_WA;q6_WU;o126_WEE;p18_WE;q4_WOO;o045_WO;o194_WUI;",
  "p43_WEI;o061_WVI;p49_WVA;o139_WVE;o007_MIN;q8_MAN;q9_MUN;p59_MEN;p94_MON;o154_MUAN;p89_MUEN;",
  "o010_BI;q1_BA;q2_BU;o150_BEE;o097_BE;o103_BOO;p38_BO;o013_I;q4_A;q5_U;o163_EE;p00_E;p65_OO;",
  "p47_O;p37_EI;q1_IN;q5_IN;p95_AN;p78_EN;o019_SI;p20_SA;q1_SU;o162_SEE;p16_SE;p36_SOO;o079_SO;",
  "o196_SIA;o025_LI;q6_LA;q7_LU;p84_LEE;p73_LE;p54_LOO;o153_LO;p10_LONG_LE;o016_DI;q7_DA;q8_DU;",
  "p89_DEE;o180_DOO;q1_DO;o022_TI;q3_TA;q4_TU;p91_TEE;p55_TE;o104_TOO;o069_TO;p28_JI;q9_JA;p30_JU;",
  "o157_JEE;p13_JE;p60_JOO;o063_JO;o175_LONG_JO;o031_YI;q2_YA;q3_YU;o109_YEE;o080_YE;o141_YOO;",
  "p21_YO;o034_FI;q5_FA;q6_FU;p78_FEE;q5_FE;o133_FOO;o088_FO;o197_FUA;p01_FAN;o037_NIN;q8_NAN;",
  "q9_NUN;o117_NEN;p69_NON;p76_HI;o041_HA;o186_HU;o040_HEE;p96_HE;p42_HOO;o140_HO;o083_HEEI;",
  "o128_HOOU;o053_HIN;o130_HAN;o087_HUN;p52_HEN;o193_HON;o046_HUAN;p90_NGGI;p43_NGGA;p82_NGGU;",
  "o115_NGGEE;p46_NGGE;p56_NGGOO;p20_NGGO;p59_NGGAA;p27_NGGUA;o086_LONG_NGGE;o106_LONG_NGGOO;",
  "p83_LONG_NGGO;p55_GI;p11_GA;p68_GU;p90_GEE;p66_GUEI;q7_GUAN;p84_NGEN;o057_NGON;o177_NGUAN;",
  "o068_PI;p99_PA;p50_PU;p81_PEE;p51_PE;o102_POO;o066_PO;o145_MBI;o062_MBA;o122_MBU;o047_MBEE;",
  "o188_MBEE;o072_MBE;o172_MBOO;q4_MBO;p87_MBUU;p61_LONG_MBE;p05_LONG_MBOO;p42_LONG_MBO;p32_KPI;",
  "o092_KPA;p74_KPU;p44_KPEE;o108_KPE;p12_KPOO;p58_KPO;p24_GBI;o056_GBA;o148_GBU;o093_GBEE;",
  "o107_GBE;o071_GBOO;q0_GBO;o171_RA;p23_NDI;q9_NDA;q5_NDU;p91_NDEE;p19_NDE;o067_NDOO;q4_NDO;",
  "o152_NJA;p92_NJU;p49_NJEE;p34_NJOO;p82_VI;q5_VA;p51_VU;p73_VEE;o085_VE;o144_VOO;o077_VO;",
  "o164_NYIN;o058_NYAN;o170_NYUN;o098_NYEN;p60_NYON;>1E8C7:eDIGIT_ONE;kTWO;lHREE;kFOUR;lIVE;kSIX;",
  "lEVEN;kEIGHT;kNINE;eCOMBINING_NUMBER_TEENS;xNS;vHUNDREDS;vTHOUSANDS;wEN_THOUSANDS;",
  "vHUNDRED_THOUSANDS;vMILLIONS;>1E900:0ADLAM_CAPITAL_LETTER_ALIF;lDAALI;lLAAM;lMIIM;lBA;",
  "lSINNYIIYHE;lPE;lBHE;lRA;lE;lFA;lI;lO;lDHA;lYHE;lWAW;lNUN;lKAF;lYA;lU;lJIIM;lCHI;lHA;lQAAF;lGA;",
  "lNYA;lTU;lNHA;lVA;lKHA;lGBE;lZAL;lKPO;lSHA;6SMALL_LETTER_ALIF;jDAALI;jLAAM;jMIIM;jBA;",
  "jSINNYIIYHE;jPE;jBHE;jRA;jE;jFA;jI;jO;jDHA;jYHE;jWAW;jNUN;jKAF;jYA;jU;jJIIM;jCHI;jHA;jQAAF;jGA;",
  "jNYA;jTU;jNHA;jVA;jKHA;jGBE;jZAL;jKPO;jSHA;6ALIF_LENGTHENER;6VOWEL_LENGTHENER;6GEMINATION_MARK;",
  "6HAMZA;6CONSONANT_MODIFIER;6GEMINATE_CONSONANT_MODIFIER;6NUKTA;7ASALIZATION_MARK;",
  ">1E950:6DIGIT_ZERO;cONE;cTWO;dHREE;cFOUR;dIVE;cSIX;dEVEN;cEIGHT;cNINE;",
  ">1E95E:6INITIAL_EXCLAMATION_MARK;eQUESTION_MARK;>1EC71:0INDIC_SIYAQ_NUMBER_ONE;jTWO;kHREE;",
  "jFOUR;kIVE;jSIX;kEVEN;jEIGHT;jNINE;jTEN;kWENTY;kHIRTY;jFORTY;kIFTY;jSIXTY;kEVENTY;jEIGHTY;",
  "jNINETY;jONE_HUNDRED;jTWO_HUNDRED;kHREE_HUNDRED;jFOUR_HUNDRED;kIVE_HUNDRED;jSIX_HUNDRED;",
  "kEVEN_HUNDRED;jEIGHT_HUNDRED;jNINE_HUNDRED;jONE_THOUSAND;jTWO_THOUSAND;kHREE_THOUSAND;",
  "jFOUR_THOUSAND;kIVE_THOUSAND;jSIX_THOUSAND;kEVEN_THOUSAND;jEIGHT_THOUSAND;jNINE_THOUSAND;",
  "jTEN_THOUSAND;kWENTY_THOUSAND;kHIRTY_THOUSAND;jFORTY_THOUSAND;kIFTY_THOUSAND;jSIXTY_THOUSAND;",
  "kEVENTY_THOUSAND;jEIGHTY_THOUSAND;jNINETY_THOUSAND;jLAKH;nAN;cLAKH_MARK;cNUMBER_KAROR;oAN;",
  "jPREFIXED_ONE;sTWO;tHREE;sFOUR;tIVE;sSIX;tEVEN;sEIGHT;sNINE;cPLACEHOLDER;cFRACTION_ONE_QUARTER;",
  "pHALF;lTHREE_QUARTERS;cRUPEE_MARK;cNUMBER_ALTERNATE_ONE;tTWO;uEN_THOUSAND;cALTERNATE_LAKH_MARK;",
  ">1ED01:0OTTOMAN_SIYAQ_NUMBER_ONE;lTWO;mHREE;lFOUR;mIVE;lSIX;mEVEN;lEIGHT;lNINE;lTEN;mWENTY;",
  "mHIRTY;lFORTY;mIFTY;lSIXTY;mEVENTY;lEIGHTY;lNINETY;lONE_HUNDRED;lTWO_HUNDRED;mHREE_HUNDRED;",
  "lFOUR_HUNDRED;mIVE_HUNDRED;lSIX_HUNDRED;mEVEN_HUNDRED;lEIGHT_HUNDRED;lNINE_HUNDRED;",
  "lONE_THOUSAND;lTWO_THOUSAND;mHREE_THOUSAND;lFOUR_THOUSAND;mIVE_THOUSAND;lSIX_THOUSAND;",
  "mEVEN_THOUSAND;lEIGHT_THOUSAND;lNINE_THOUSAND;lTEN_THOUSAND;mWENTY_THOUSAND;mHIRTY_THOUSAND;",
  "lFORTY_THOUSAND;mIFTY_THOUSAND;lSIXTY_THOUSAND;mEVENTY_THOUSAND;lEIGHTY_THOUSAND;",
  "lNINETY_THOUSAND;eMARRATAN;eALTERNATE_NUMBER_TWO;wHREE;vFOUR;wIVE;vSIX;wEVEN;vEIGHT;vNINE;vTEN;",
  "vFOUR_HUNDRED;vSIX_HUNDRED;vTWO_THOUSAND;wEN_THOUSAND;eFRACTION_ONE_HALF;rSIXTH;",
  ">1EE00:0ARABIC_MATHEMATICAL_ALEF;kBEH;kJEEM;kDAL;>1EE05:kWAW;kZAIN;kHAH;kTAH;kYEH;kKAF;kLAM;",
  "kMEEM;kNOON;kSEEN;kAIN;kFEH;kSAD;kQAF;kREH;kSHEEN;kTEH;lHEH;kKHAH;kTHAL;kDAD;kZAH;kGHAIN;",
  "kDOTLESS_BEH;sNOON;sFEH;sQAF;>1EE21:kINITIAL_BEH;sJEEM;>1EE24:sHEH;>1EE27:tAH;>1EE29:sYEH;sKAF;",
  "sLAM;sMEEM;sNOON;sSEEN;sAIN;sFEH;sSAD;sQAF;>1EE34:sSHEEN;sTEH;tHEH;sKHAH;>1EE39:sDAD;",
  ">1EE3B:sGHAIN;>1EE42:kTAILED_JEEM;>1EE47:rHAH;>1EE49:rYEH;>1EE4B:rLAM;>1EE4D:rNOON;rSEEN;rAIN;",
  ">1EE51:rSAD;rQAF;>1EE54:rSHEEN;>1EE57:rKHAH;>1EE59:rDAD;>1EE5B:rGHAIN;>1EE5D:rDOTLESS_NOON;",
  ">1EE5F:zQAF;>1EE61:kSTRETCHED_BEH;uJEEM;>1EE64:uHEH;>1EE67:vAH;uTAH;uYEH;uKAF;>1EE6C:uMEEM;",
  "uNOON;uSEEN;uAIN;uFEH;uSAD;uQAF;>1EE74:uSHEEN;uTEH;vHEH;uKHAH;>1EE79:uDAD;uZAH;uGHAIN;",
  "uDOTLESS_BEH;>1EE7E:CFEH;>1EE80:kLOOPED_ALEF;rBEH;rJEEM;rDAL;rHEH;rWAW;rZAIN;rHAH;rTAH;rYEH;",
  ">1EE8B:rLAM;rMEEM;rNOON;rSEEN;rAIN;rFEH;rSAD;rQAF;rREH;rSHEEN;rTEH;sHEH;rKHAH;rTHAL;rDAD;rZAH;",
  "rGHAIN;>1EEA1:kDOUBLE-STRUCK_BEH;yJEEM;yDAL;>1EEA5:yWAW;yZAIN;yHAH;yTAH;yYEH;>1EEAB:yLAM;yMEEM;",
  "yNOON;ySEEN;yAIN;yFEH;ySAD;yQAF;yREH;ySHEEN;yTEH;zHEH;yKHAH;yTHAL;yDAD;yZAH;yGHAIN;",
  ">1EEF0:kOPERATOR_MEEM_WITH_HAH_WITH_TATWEEL;tHAH_WITH_DAL;>1F000:0MAHJONG_TILE_EAST_WIND;",
  "dSOUTH_WIND;dWEST_WIND;dNORTH_WIND;dRED_DRAGON;dGREEN_DRAGON;dWHITE_DRAGON;dONE_OF_CHARACTERS;",
  "dTWO_OF_CHARACTERS;eHREE_OF_CHARACTERS;dFOUR_OF_CHARACTERS;eIVE_OF_CHARACTERS;",
  "dSIX_OF_CHARACTERS;eEVEN_OF_CHARACTERS;dEIGHT_OF_CHARACTERS;dNINE_OF_CHARACTERS;",
  "dONE_OF_BAMBOOS;dTWO_OF_BAMBOOS;eHREE_OF_BAMBOOS;dFOUR_OF_BAMBOOS;eIVE_OF_BAMBOOS;",
  "dSIX_OF_BAMBOOS;eEVEN_OF_BAMBOOS;dEIGHT_OF_BAMBOOS;dNINE_OF_BAMBOOS;dONE_OF_CIRCLES;",
  "dTWO_OF_CIRCLES;"]

end Milp.Text.CharacterName
