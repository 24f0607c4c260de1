set_option autoImplicit false

/-! # Names of the characters from U+107AF to U+16AF0

The names that Unicode 14 gives them, in the form that `Milp.Text.CharacterName` reads. -/

namespace Milp.Text.CharacterName

/-- Names from U+107AF to U+16AF0. -/
def part6 : List String := [
  ">107AF:0MODIFIER_LETTER_SMALL_T_WITH_RETROFLEX_HOOK;mV_WITH_RIGHT_HOOK;>107B2:mCAPITAL_Y;",
  "gGLOTTAL_STOP_WITH_STROKE;gREVERSED_GLOTTAL_STOP_WITH_STROKE;gBILABIAL_CLICK;gDENTAL_CLICK;",
  "gLATERAL_CLICK;gALVEOLAR_CLICK;gRETROFLEX_CLICK_WITH_RETROFLEX_HOOK;gSMALL_S_WITH_CURL;",
  ">10800:0CYPRIOT_SYLLABLE_A;hE;hI;hO;hU;hJA;>10808:iO;>1080A:hKA;iE;iI;iO;iU;hLA;iE;iI;iO;iU;",
  "hMA;iE;iI;iO;iU;hNA;iE;iI;iO;iU;hPA;iE;iI;iO;iU;hRA;iE;iI;iO;iU;hSA;iE;iI;iO;iU;hTA;iE;iI;iO;",
  "iU;hWA;iE;iI;iO;>10837:hXA;iE;>1083C:hZA;>1083F:iO;0IMPERIAL_ARAMAIC_LETTER_ALEPH;oBETH;oGIMEL;",
  "oDALETH;oHE;oWAW;oZAYIN;oHETH;oTETH;oYODH;oKAPH;oLAMEDH;oMEM;oNUN;oSAMEKH;oAYIN;oPE;oSADHE;",
  "oQOPH;oRESH;oSHIN;oTAW;>10857:hSECTION_SIGN;hNUMBER_ONE;oTWO;pHREE;pEN;pWENTY;oONE_HUNDRED;",
  "sTHOUSAND;oTEN_THOUSAND;0PALMYRENE_LETTER_ALEPH;hBETH;hGIMEL;hDALETH;hHE;hWAW;hZAYIN;hHETH;",
  "hTETH;hYODH;hKAPH;hLAMEDH;hMEM;hFINAL_NUN;hNUN;hSAMEKH;hAYIN;hPE;hSADHE;hQOPH;hRESH;hSHIN;hTAW;",
  "cFT-POINTING_FLEURON;aRIGHT-POINTING_FLEURON;aNUMBER_ONE;hTWO;iHREE;hFOUR;iIVE;hTEN;iWENTY;",
  "0NABATAEAN_LETTER_FINAL_ALEPH;hALEPH;hFINAL_BETH;hBETH;hGIMEL;hDALETH;hFINAL_HE;hHE;hWAW;",
  "hZAYIN;hHETH;hTETH;hFINAL_YODH;hYODH;hFINAL_KAPH;hKAPH;hFINAL_LAMEDH;hLAMEDH;hFINAL_MEM;hMEM;",
  "hFINAL_NUN;hNUN;hSAMEKH;hAYIN;hPE;hSADHE;hQOPH;hRESH;hFINAL_SHIN;hSHIN;hTAW;>108A7:aNUMBER_ONE;",
  "hTWO;iHREE;hFOUR;aCRUCIFORM_NUMBER_FOUR;aNUMBER_FIVE;hTEN;iWENTY;hONE_HUNDRED;",
  ">108E0:0HATRAN_LETTER_ALEPH;eBETH;eGIMEL;eDALETH-RESH;eHE;eWAW;eZAYN;eHETH;eTETH;eYODH;eKAPH;",
  "eLAMEDH;eMEM;eNUN;eSAMEKH;eAYN;ePE;eSADHE;eQOPH;>108F4:eSHIN;eTAW;>108FB:7NUMBER_ONE;eFIVE;",
  "eTEN;fWENTY;eONE_HUNDRED;0PHOENICIAN_LETTER_ALF;iBET;iGAML;iDELT;iHE;iWAU;iZAI;iHET;iTET;iYOD;",
  "iKAF;iLAMD;iMEM;iNUN;iSEMK;iAIN;iPE;iSADE;iQOF;iROSH;iSHIN;iTAU;bNUMBER_ONE;iTEN;jWENTY;",
  "iONE_HUNDRED;iTWO;jHREE;>1091F:bWORD_SEPARATOR;0LYDIAN_LETTER_A;eB;eG;eD;eE;eV;eI;eY;eK;eL;eM;",
  "eN;eO;eR;eSS;eT;eU;eF;eQ;eS;eTT;eAN;eEN;eLY;eNN;eC;>1093F:7TRIANGULAR_MARK;",
  ">10980:0MEROITIC_HIEROGLYPHIC_LETTER_A;tE;tI;tO;tYA;tWA;tBA;v-2;tPA;tMA;tNA;v-2;uE;v-2;tRA;v-2;",
  "tLA;tKHA;tHHA;tSA;v-2;uE;tKA;tQA;tTA;v-2;uE;v-2;uO;tDA;mSYMBOL_VIDJ;x-2;9CURSIVE_LETTER_A;oE;",
  "oI;oO;oYA;oWA;oBA;oPA;oMA;oNA;pE;oRA;oLA;oKHA;oHHA;oSA;oARCHAIC_SA;oSE;oKA;oQA;oTA;pE;pO;oDA;",
  ">109BC:hFRACTION_ELEVEN_TWELFTHS;qONE_HALF;hLOGOGRAM_RMT;qIMN;hNUMBER_ONE;oTWO;pHREE;oFOUR;",
  "pIVE;oSIX;pEVEN;oEIGHT;oNINE;oTEN;pWENTY;pHIRTY;oFORTY;pIFTY;oSIXTY;pEVENTY;",
  ">109D2:oONE_HUNDRED;oTWO_HUNDRED;pHREE_HUNDRED;oFOUR_HUNDRED;pIVE_HUNDRED;oSIX_HUNDRED;",
  "pEVEN_HUNDRED;oEIGHT_HUNDRED;oNINE_HUNDRED;oONE_THOUSAND;oTWO_THOUSAND;pHREE_THOUSAND;",
  "oFOUR_THOUSAND;pIVE_THOUSAND;oSIX_THOUSAND;pEVEN_THOUSAND;oEIGHT_THOUSAND;oNINE_THOUSAND;",
  "oTEN_THOUSAND;pWENTY_THOUSAND;pHIRTY_THOUSAND;oFORTY_THOUSAND;pIFTY_THOUSAND;oSIXTY_THOUSAND;",
  "pEVENTY_THOUSAND;oEIGHTY_THOUSAND;oNINETY_THOUSAND;oONE_HUNDRED_THOUSAND;oTWO_HUNDRED_THOUSAND;",
  "pHREE_HUNDRED_THOUSAND;oFOUR_HUNDRED_THOUSAND;pIVE_HUNDRED_THOUSAND;oSIX_HUNDRED_THOUSAND;",
  "pEVEN_HUNDRED_THOUSAND;oEIGHT_HUNDRED_THOUSAND;oNINE_HUNDRED_THOUSAND;hFRACTION_ONE_TWELFTH;",
  "qTWO_TWELFTHS;rHREE_TWELFTHS;qFOUR_TWELFTHS;rIVE_TWELFTHS;qSIX_TWELFTHS;rEVEN_TWELFTHS;",
  "qEIGHT_TWELFTHS;qNINE_TWELFTHS;qTEN_TWELFTHS;0KHAROSHTHI_LETTER_A;bVOWEL_SIGN_I;mU;mVOCALIC_R;",
  ">10A05:mE;mO;>10A0C:hLENGTH_MARK;bSIGN_DOUBLE_RING_BELOW;gANUSVARA;gVISARGA;bLETTER_KA;jHA;iGA;",
  "jHA;>10A15:iCA;jHA;iJA;>10A19:iNYA;iTTA;kHA;iDDA;kHA;iNNA;iTA;jHA;iDA;jHA;iNA;iPA;jHA;iBA;jHA;",
  "iMA;iYA;iRA;iLA;iVA;iSHA;jSA;jA;iZA;iHA;iKKA;iTTTHA;lA;iVHA;>10A38:bSIGN_BAR_ABOVE;gCAUDA;",
  "gDOT_BELOW;>10A3F:bVIRAMA;bDIGIT_ONE;hTWO;iHREE;hFOUR;bNUMBER_TEN;jWENTY;iONE_HUNDRED;",
  "mTHOUSAND;bFRACTION_ONE_HALF;>10A50:bPUNCTUATION_DOT;nSMALL_CIRCLE;nCIRCLE;oRESCENT_BAR;",
  "nMANGALAM;nLOTUS;nDANDA;oOUBLE_DANDA;nLINES;>10A60:0OLD_SOUTH_ARABIAN_LETTER_HE;pLAMEDH;pHETH;",
  "pMEM;pQOPH;pWAW;pSHIN;pRESH;pBETH;pTAW;pSAT;pKAPH;pNUN;pKHETH;pSADHE;rMEKH;pFE;pALEF;qYN;",
  "pDHADHE;pGIMEL;pDALETH;pGHAYN;pTETH;pZAYN;pDHALETH;pYODH;pTHAW;rETH;iNUMBER_ONE;pFIFTY;",
  "lERIC_INDICATOR;4NORTH_ARABIAN_LETTER_HEH;pLAM;pHAH;pMEEM;pQAF;pWAW;pES-2;pREH;pBEH;pTEH;pES-1;",
  "pKAF;pNOON;pKHAH;pSAD;pES-3;pFEH;pALEF;qIN;pDAD;pGEEM;pDAL;pGHAIN;pTAH;pZAIN;pTHAL;pYEH;pTHEH;",
  "pZAH;iNUMBER_ONE;pTEN;qWENTY;>10AC0:0MANICHAEAN_LETTER_ALEPH;iBETH;jHETH;iGIMEL;jHIMEL;iDALETH;",
  "iHE;iWAW;bSIGN_UD;bLETTER_ZAYIN;jHAYIN;iJAYIN;jHAYIN;iHETH;iTETH;iYODH;iKAPH;iXAPH;iKHAPH;",
  "iLAMEDH;iDHAMEDH;iTHAMEDH;iMEM;iNUN;iSAMEKH;iAYIN;jAYIN;iPE;iFE;iSADHE;iQOPH;iXOPH;iQHOPH;",
  "iRESH;iSHIN;jSHIN;iTAW;bABBREVIATION_MARK_ABOVE;tBELOW;>10AEB:bNUMBER_ONE;iFIVE;iTEN;jWENTY;",
  "iONE_HUNDRED;bPUNCTUATION_STAR;nFLEURON;nDOUBLE_DOT_WITHIN_DOT;pT_WITHIN_DOT;q;nTWO_DOTS;",
  "nLINE_FILLER;>10B00:0AVESTAN_LETTER_A;gA;gO;gAO;gN;gAN;gE;hE;fE;gE;fO;gO;fI;gI;fU;gU;fKE;fXE;",
  "gYE;gVE;fGE;gGE;gHE;fCE;fJE;fTE;gHE;fDE;gHE;fTTE;fPE;fFE;fBE;gHE;fNGE;hYE;hVE;gE;gYE;gNE;fME;",
  "fHME;fYYE;gE;fVE;fRE;fLE;fSE;fZE;fSHE;fZHE;fSHYE;gSHE;fHE;>10B39:8ABBREVIATION_MARK;",
  "0TINY_TWO_DOTS_OVER_ONE_DOT_PUNCTUATION;0SMALL_TWO_DOTS_OVER_ONE_DOT_PUNCTUATION;",
  "0LARGE_TWO_DOTS_OVER_ONE_DOT_PUNCTUATION;6ONE_DOT_OVER_TWO_DOTS_PUNCTUATION;",
  "6TWO_RINGS_OVER_ONE_RING_PUNCTUATION;6ONE_RING_OVER_TWO_RINGS_PUNCTUATION;",
  "0INSCRIPTIONAL_PARTHIAN_LETTER_ALEPH;uBETH;uGIMEL;uDALETH;uHE;uWAW;uZAYIN;uHETH;uTETH;uYODH;",
  "uKAPH;uLAMEDH;uMEM;uNUN;uSAMEKH;uAYIN;uPE;uSADHE;uQOPH;uRESH;uSHIN;uTAW;>10B58:nNUMBER_ONE;",
  "uTWO;vHREE;uFOUR;uTEN;vWENTY;uONE_HUNDRED;yTHOUSAND;gHLAVI_LETTER_ALEPH;tBETH;tGIMEL;tDALETH;",
  "tHE;tWAW-AYIN-RESH;tZAYIN;tHETH;tTETH;tYODH;tKAPH;tLAMEDH;tMEM-QOPH;tNUN;tSAMEKH;tPE;tSADHE;",
  "uHIN;tTAW;>10B78:mNUMBER_ONE;tTWO;uHREE;tFOUR;tTEN;uWENTY;tONE_HUNDRED;xTHOUSAND;",
  "0PSALTER_PAHLAVI_LETTER_ALEPH;nBETH;nGIMEL;nDALETH;nHE;nWAW-AYIN-RESH;nZAYIN;nHETH;nYODH;nKAPH;",
  "nLAMEDH;nMEM-QOPH;nNUN;nSAMEKH;nPE;nSADHE;oHIN;nTAW;>10B99:gSECTION_MARK;gTURNED_SECTION_MARK;",
  "gFOUR_DOTS_WITH_CROSS;vDOT;>10BA9:gNUMBER_ONE;nTWO;oHREE;nFOUR;nTEN;oWENTY;nONE_HUNDRED;",
  ">10C00:0OLD_TURKIC_LETTER_ORKHON_A;iYENISEI_A;rE;iORKHON_I;iYENISEI_I;qE;iORKHON_O;qE;",
  "iYENISEI_OE;iORKHON_AB;iYENISEI_AB;iORKHON_AEB;iYENISEI_AEB;iORKHON_AG;iYENISEI_AG;iORKHON_AEG;",
  "iYENISEI_AEG;iORKHON_AD;iYENISEI_AD;iORKHON_AED;pEZ;iYENISEI_EZ;iORKHON_AY;iYENISEI_AY;",
  "iORKHON_AEY;iYENISEI_AEY;iORKHON_AEK;iYENISEI_AEK;iORKHON_OEK;iYENISEI_OEK;iORKHON_AL;",
  "iYENISEI_AL;iORKHON_AEL;pELT;qM;pAN;qEN;iYENISEI_AEN;iORKHON_ENT;iYENISEI_ENT;iORKHON_ENC;",
  "iYENISEI_ENC;iORKHON_ENY;iYENISEI_ENY;qANG;iORKHON_ENG;iYENISEI_AENG;iORKHON_EP;pOP;pIC;pEC;",
  "iYENISEI_EC;iORKHON_AQ;iYENISEI_AQ;iORKHON_IQ;iYENISEI_IQ;iORKHON_OQ;iYENISEI_OQ;iORKHON_AR;",
  "iYENISEI_AR;iORKHON_AER;qS;qES;qSH;iYENISEI_ASH;iORKHON_ESH;iYENISEI_ESH;iORKHON_AT;",
  "iYENISEI_AT;iORKHON_AET;iYENISEI_AET;iORKHON_OT;pBASH;>10C80:4HUNGARIAN_CAPITAL_LETTER_A;uA;",
  "tEB;tAMB;tEC;uNC;uCS;uD;tAND;tE;tCLOSE_E;tEE;uF;uG;vY;uH;tI;uI;tEJ;uK;tAK;tUNK;tEL;vY;uM;uN;vY;",
  "tO;uO;tNIKOLSBURG_OE;tRUDIMENTA_OE;tOEE;tEP;uMP;uR;tSHORT_ER;tES;vZ;uT;uNT;uTY;uCH;tU;uU;",
  "tNIKOLSBURG_UE;tRUDIMENTA_UE;tEV;uZ;vS;uNT-SHAPED_SIGN;tUS;>10CC0:eSMALL_LETTER_A;sA;rEB;rAMB;",
  "rEC;sNC;sCS;sD;rAND;rE;rCLOSE_E;rEE;sF;sG;tY;sH;rI;sI;rEJ;sK;rAK;rUNK;rEL;tY;sM;sN;tY;rO;sO;",
  "rNIKOLSBURG_OE;rRUDIMENTA_OE;rOEE;rEP;sMP;sR;rSHORT_ER;rES;tZ;sT;sNT;sTY;sCH;rU;sU;",
  "rNIKOLSBURG_UE;rRUDIMENTA_UE;rEV;sZ;tS;sNT-SHAPED_SIGN;rUS;>10CFA:eNUMBER_ONE;lFIVE;lTEN;",
  "lFIFTY;lONE_HUNDRED;pTHOUSAND;0HANIFI_ROHINGYA_LETTER_A;nBA;nPA;nTA;oTA;nJA;nCA;nHA;nKHA;nFA;",
  "nDA;oDA;nRA;oRA;nZA;nSA;oHA;nKA;nGA;nLA;nMA;nNA;nWA;nKINNA_WA;nYA;nKINNA_YA;nNGA;oYA;nVA;",
  "gVOWEL_A;mI;mU;mE;mO;gMARK_SAKIN;lNA_KHONNA;gSIGN_HARBAHAY;lTAHALA;nNA;nSSI;>10D30:gDIGIT_ZERO;",
  "mONE;mTWO;nHREE;mFOUR;nIVE;mSIX;nEVEN;mEIGHT;mNINE;>10E60:0RUMI_DIGIT_ONE;bTWO;cHREE;bFOUR;",
  "cIVE;bSIX;cEVEN;bEIGHT;bNINE;5NUMBER_TEN;dWENTY;dHIRTY;cFORTY;dIFTY;cSIXTY;dEVENTY;cEIGHTY;",
  "cNINETY;cONE_HUNDRED;cTWO_HUNDRED;dHREE_HUNDRED;cFOUR_HUNDRED;dIVE_HUNDRED;cSIX_HUNDRED;",
  "dEVEN_HUNDRED;cEIGHT_HUNDRED;cNINE_HUNDRED;5FRACTION_ONE_HALF;iQUARTER;iTHIRD;eTWO_THIRDS;",
  ">10E80:0YEZIDI_LETTER_ELIF;eBE;ePE;fHE;eTHE;eSE;eCIM;fHIM;gHIM;eHHA;eXA;eDAL;eZAL;eRA;fHA;eZA;",
  "eJA;eSIN;fHIN;fAD;eDAD;eTA;eZE;eEYN;eXHEYN;eFA;eVA;g_ALTERNATE_FORM;eQAF;eKAF;fHAF;eGAF;eLAM;",
  "eMIM;eNUN;eUM;eWAW;eOW;eEW;eHAY;eYOT;eET;>10EAB:7COMBINING_HAMZA_MARK;hMADDA_MARK;",
  "7HYPHENATION_MARK;>10EB0:7LETTER_LAM_WITH_DOT_ABOVE;eYOT_WITH_CIRCUMFLEX_ABOVE;",
  ">10F00:0OLD_SOGDIAN_LETTER_ALEPH;jFINAL_ALEPH;jBETH;jFINAL_BETH;jGIMEL;jHE;jFINAL_HE;jWAW;",
  "jZAYIN;jHETH;jYODH;jKAPH;jLAMEDH;jMEM;jNUN;jFINAL_NUN;s_WITH_VERTICAL_TAIL;jSAMEKH;jAYIN;",
  "kLTERNATE_AYIN;jPE;jSADHE;jFINAL_SADHE;u_WITH_VERTICAL_TAIL;jRESH-AYIN-DALETH;jSHIN;jTAW;",
  "jFINAL_TAW;s_WITH_VERTICAL_TAIL;cNUMBER_ONE;jTWO;kHREE;jFOUR;kIVE;jTEN;kWENTY;kHIRTY;",
  "jONE_HUNDRED;cFRACTION_ONE_HALF;cLIGATURE_AYIN-DALETH;>10F30:0SOGDIAN_LETTER_ALEPH;fBETH;",
  "fGIMEL;fHE;fWAW;fZAYIN;fHETH;fYODH;fKAPH;fLAMEDH;fMEM;fNUN;fSAMEKH;fAYIN;fPE;fSADHE;fRESH-AYIN;",
  "fSHIN;fTAW;fFETH;fLESH;8INDEPENDENT_SHIN;8COMBINING_DOT_BELOW;iTWO_DOTS_BELOW;iDOT_ABOVE;",
  "iTWO_DOTS_ABOVE;iCURVE_ABOVE;oBELOW;iHOOK_ABOVE;nBELOW;iLONG_HOOK_BELOW;iRESH_BELOW;",
  "iSTROKE_BELOW;8NUMBER_ONE;fTEN;gWENTY;fONE_HUNDRED;8PUNCTUATION_TWO_VERTICAL_BARS;B_WITH_DOTS;",
  "kCIRCLE_WITH_DOT;kTWO_CIRCLES_WITH_DOTS;kHALF_CIRCLE_WITH_DOT;>10F70:0OLD_UYGHUR_LETTER_ALEPH;",
  "iBETH;iGIMEL-HETH;iWAW;iZAYIN;iFINAL_HETH;iYODH;iKAPH;iLAMEDH;iMEM;iNUN;iSAMEKH;iPE;iSADHE;",
  "iRESH;iSHIN;iTAW;iLESH;bCOMBINING_DOT_ABOVE;pBELOW;lTWO_DOTS_ABOVE;uBELOW;bPUNCTUATION_BAR;",
  "nTWO_BARS;rDOTS;nFOUR_DOTS;>10FB0:0CHORASMIAN_LETTER_ALEPH;iSMALL_ALEPH;iBETH;iGIMEL;iDALETH;",
  "iHE;iWAW;iCURLED_WAW;iZAYIN;iHETH;iYODH;iKAPH;iLAMEDH;iMEM;iNUN;iSAMEKH;iAYIN;iPE;iRESH;iSHIN;",
  "iTAW;bNUMBER_ONE;iTWO;jHREE;iFOUR;iTEN;jWENTY;iONE_HUNDRED;>10FE0:0ELYMAIC_LETTER_ALEPH;fBETH;",
  "fGIMEL;fDALETH;fHE;fWAW;fZAYIN;fHETH;fTETH;fYODH;fKAPH;fLAMEDH;fMEM;fNUN;fSAMEKH;fAYIN;fPE;",
  "fSADHE;fQOPH;fRESH;fSHIN;fTAW;9IGATURE_ZAYIN-YODH;>11000:0BRAHMI_SIGN_CANDRABINDU;cANUSVARA;",
  "cVISARGA;cJIHVAMULIYA;cUPADHMANIYA;7LETTER_A;fA;eI;fI;eU;fU;eVOCALIC_R;nR;mL;nL;eE;eAI;eO;eAU;",
  "eKA;fHA;eGA;fHA;eNGA;eCA;fHA;eJA;fHA;eNYA;eTTA;gHA;eDDA;gHA;eNNA;eTA;fHA;eDA;fHA;eNA;ePA;fHA;",
  "eBA;fHA;eMA;eYA;eRA;eLA;eVA;eSHA;fSA;fA;eHA;eLLA;eOLD_TAMIL_LLLA;oRRA;oNNNA;7VOWEL_SIGN_AA;",
  "iBHATTIPROLU_AA;iI;jI;iU;jU;iVOCALIC_R;rR;qL;rL;iE;iAI;iO;iAU;8IRAMA;7DANDA;8OUBLE_DANDA;",
  "7PUNCTUATION_DOT;lUBLE_DOT;jLINE;jCRESCENT_BAR;jLOTUS;>11052:7NUMBER_ONE;eTWO;fHREE;eFOUR;fIVE;",
  "eSIX;fEVEN;eEIGHT;eNINE;eTEN;fWENTY;fHIRTY;eFORTY;fIFTY;eSIXTY;fEVENTY;eEIGHTY;eNINETY;",
  "eONE_HUNDRED;iTHOUSAND;7DIGIT_ZERO;dONE;dTWO;eHREE;dFOUR;eIVE;dSIX;eEVEN;dEIGHT;dNINE;",
  "7SIGN_OLD_TAMIL_VIRAMA;7LETTER_OLD_TAMIL_SHORT_E;uO;7VOWEL_SIGN_OLD_TAMIL_SHORT_E;yO;",
  "7LETTER_OLD_TAMIL_LLA;>1107F:7NUMBER_JOINER;0KAITHI_SIGN_CANDRABINDU;cANUSVARA;cVISARGA;",
  "7LETTER_A;fA;eI;fI;eU;fU;eE;eAI;eO;eAU;eKA;fHA;eGA;fHA;eNGA;eCA;fHA;eJA;fHA;eNYA;eTTA;gHA;eDDA;",
  "gDHA;gHA;eRHA;eNNA;eTA;fHA;eDA;fHA;eNA;ePA;fHA;eBA;fHA;eMA;eYA;eRA;eLA;eVA;eSHA;fSA;fA;eHA;",
  "7VOWEL_SIGN_AA;iI;jI;iU;jU;iE;iAI;iO;iAU;7SIGN_VIRAMA;cNUKTA;7ABBREVIATION_SIGN;",
  "7ENUMERATION_SIGN;7NUMBER_SIGN;7SECTION_MARK;7DOUBLE_SECTION_MARK;8ANDA;8OUBLE_DANDA;",
  "7VOWEL_SIGN_VOCALIC_R;>110CD:7NUMBER_SIGN_ABOVE;>110D0:0SORA_SOMPENG_LETTER_SAH;kTAH;kBAH;kCAH;",
  "kDAH;kGAH;kMAH;kNGAH;kLAH;kNAH;kVAH;kPAH;kYAH;kRAH;kHAH;kKAH;kJAH;kNYAH;kAH;kEEH;kIH;kUH;kOH;",
  "kEH;kMAE;>110F0:dDIGIT_ZERO;jONE;jTWO;kHREE;jFOUR;kIVE;jSIX;kEVEN;jEIGHT;jNINE;",
  ">11100:0CHAKMA_SIGN_CANDRABINDU;cANUSVARA;cVISARGA;7LETTER_AA;eI;eU;eE;eKAA;fHAA;eGAA;fHAA;",
  "eNGAA;eCAA;fHAA;eJAA;fHAA;eNYAA;eTTAA;gHAA;eDDAA;gHAA;eNNAA;eTAA;fHAA;eDAA;fHAA;eNAA;ePAA;fHAA;",
  "eBAA;fHAA;eMAA;eYYAA;fAA;eRAA;eLAA;eWAA;eSAA;eHAA;7VOWEL_SIGN_A;iI;jI;iU;jU;iE;iAI;iO;iAU;iOI;",
  "7O_MARK;7AU_MARK;7VIRAMA;7MAAYYAA;>11136:7DIGIT_ZERO;dONE;dTWO;eHREE;dFOUR;eIVE;dSIX;eEVEN;",
  "dEIGHT;dNINE;7SECTION_MARK;7DANDA;8OUBLE_DANDA;7QUESTION_MARK;7LETTER_LHAA;7VOWEL_SIGN_AA;iEI;",
  "7LETTER_VAA;>11150:0MAHAJANI_LETTER_A;gI;gU;gE;gO;gKA;hHA;gGA;hHA;gCA;hHA;gJA;hHA;gNYA;gTTA;",
  "iHA;gDDA;iHA;gNNA;gTA;hHA;gDA;hHA;gNA;gPA;hHA;gBA;hHA;gMA;gRA;gLA;gVA;gSA;gHA;gRRA;9SIGN_NUKTA;",
  "9ABBREVIATION_SIGN;9SECTION_MARK;9LIGATURE_SHRI;>11180:0SHARADA_SIGN_CANDRABINDU;dANUSVARA;",
  "dVISARGA;8LETTER_A;gA;fI;gI;fU;gU;fVOCALIC_R;oR;nL;oL;fE;fAI;fO;fAU;fKA;gHA;fGA;gHA;fNGA;fCA;",
  "gHA;fJA;gHA;fNYA;fTTA;hHA;fDDA;hHA;fNNA;fTA;gHA;fDA;gHA;fNA;fPA;gHA;fBA;gHA;fMA;fYA;fRA;fLA;",
  "gLA;fVA;fSHA;gSA;gA;fHA;8VOWEL_SIGN_AA;jI;kI;jU;kU;jVOCALIC_R;sR;rL;sL;jE;jAI;jO;jAU;",
  "8SIGN_VIRAMA;dAVAGRAHA;dJIHVAMULIYA;dUPADHMANIYA;8OM;8DANDA;9OUBLE_DANDA;8ABBREVIATION_SIGN;",
  "8SEPARATOR;9ANDHI_MARK;9IGN_NUKTA;8VOWEL_MODIFIER_MARK;8EXTRA_SHORT_VOWEL_MARK;8SUTRA_MARK;",
  "8VOWEL_SIGN_PRISHTHAMATRA_E;8SIGN_INVERTED_CANDRABINDU;8DIGIT_ZERO;eONE;eTWO;fHREE;eFOUR;fIVE;",
  "eSIX;fEVEN;eEIGHT;eNINE;8EKAM;8SIGN_SIDDHAM;8HEADSTROKE;8CONTINUATION_SIGN;8SECTION_MARK-1;l2;",
  ">111E1:1INHALA_ARCHAIC_DIGIT_ONE;mTWO;nHREE;mFOUR;nIVE;mSIX;nEVEN;mEIGHT;mNINE;gNUMBER_TEN;",
  "oWENTY;oHIRTY;nFORTY;oIFTY;nSIXTY;oEVENTY;nEIGHTY;nNINETY;nONE_HUNDRED;rTHOUSAND;",
  ">11200:0KHOJKI_LETTER_A;fA;eI;eU;eE;eAI;eO;eAU;eKA;fHA;eGA;fGA;fHA;eNGA;eCA;fHA;eJA;fJA;",
  ">11213:eNYA;eTTA;gHA;eDDA;gHA;eNNA;eTA;fHA;eDA;fDDA;fHA;eNA;ePA;fHA;eBA;fBA;fHA;eMA;eYA;eRA;",
  "eLA;eVA;eSA;eHA;eLLA;7VOWEL_SIGN_AA;iI;jI;iU;iE;iAI;iO;iAU;7SIGN_ANUSVARA;cVIRAMA;cNUKTA;",
  "cSHADDA;7DANDA;8OUBLE_DANDA;7WORD_SEPARATOR;7SECTION_MARK;7DOUBLE_SECTION_MARK;",
  "7ABBREVIATION_SIGN;7SIGN_SUKUN;>11280:0MULTANI_LETTER_A;fI;fU;fE;fKA;gHA;fGA;>11288:gHA;",
  ">1128A:fCA;gHA;fJA;gJA;>1128F:fNYA;fTTA;hHA;fDDA;hDA;hHA;fNNA;fTA;gHA;fDA;gHA;fNA;fPA;gHA;fBA;",
  ">1129F:gHA;fMA;fYA;fRA;fLA;fVA;fSA;fHA;fRRA;gHA;8SECTION_MARK;>112B0:0KHUDAWADI_LETTER_A;iA;hI;",
  "iI;hU;iU;hE;hAI;hO;hAU;hKA;iHA;hGA;iGA;iHA;hNGA;hCA;iHA;hJA;iJA;iHA;hNYA;hTTA;jHA;hDDA;jDA;",
  "hRRA;hDDHA;hNNA;hTA;iHA;hDA;iHA;hNA;hPA;iHA;hBA;iBA;iHA;hMA;hYA;hRA;hLA;hVA;hSHA;iA;hHA;",
  "aSIGN_ANUSVARA;aVOWEL_SIGN_AA;lI;mI;lU;mU;lE;lAI;lO;lAU;aSIGN_NUKTA;fVIRAMA;>112F0:aDIGIT_ZERO;",
  "gONE;gTWO;hHREE;gFOUR;hIVE;gSIX;hEVEN;gEIGHT;gNINE;",
  ">11300:0GRANTHA_SIGN_COMBINING_ANUSVARA_ABOVE;eANDRABINDU;dANUSVARA;dVISARGA;>11305:8LETTER_A;",
  "gA;fI;gI;fU;gU;fVOCALIC_R;nL;>1130F:fEE;fAI;>11313:fOO;fAU;fKA;gHA;fGA;gHA;fNGA;fCA;gHA;fJA;",
  "gHA;fNYA;fTTA;hHA;fDDA;hHA;fNNA;fTA;gHA;fDA;gHA;fNA;>1132A:fPA;gHA;fBA;gHA;fMA;fYA;fRA;",
  ">11332:fLA;gLA;>11335:fVA;fSHA;gSA;gA;fHA;>1133B:0COMBINING_BINDU_BELOW;0GRANTHA_SIGN_NUKTA;",
  "dAVAGRAHA;8VOWEL_SIGN_AA;jI;kI;jU;kU;jVOCALIC_R;sR;>11347:jEE;jAI;>1134B:jOO;jAU;8SIGN_VIRAMA;",
  ">11350:8OM;>11357:8AU_LENGTH_MARK;>1135D:8SIGN_PLUTA;8LETTER_VEDIC_ANUSVARA;lDOUBLE_ANUSVARA;",
  "gOCALIC_RR;nLL;8VOWEL_SIGN_VOCALIC_L;sL;>11366:0COMBINING_GRANTHA_DIGIT_ZERO;oONE;oTWO;pHREE;",
  "oFOUR;pIVE;oSIX;>11370:iLETTER_A;pKA;pNA;pVI;pPA;>11400:0NEWA_LETTER_A;dA;cI;dI;cU;dU;",
  "cVOCALIC_R;lR;kL;lL;cE;cAI;cO;cAU;cKA;dHA;cGA;dHA;cNGA;eHA;cCA;dHA;cJA;dHA;cNYA;eHA;cTTA;eHA;",
  "cDDA;eHA;cNNA;cTA;dHA;cDA;dHA;cNA;dHA;cPA;dHA;cBA;dHA;cMA;dHA;cYA;cRA;dHA;cLA;dHA;cWA;cSHA;dSA;",
  "dA;cHA;5VOWEL_SIGN_AA;gI;hI;gU;hU;gVOCALIC_R;pR;oL;pL;gE;gAI;gO;gAU;5SIGN_VIRAMA;aCANDRABINDU;",
  "aANUSVARA;aVISARGA;aNUKTA;aAVAGRAHA;aFINAL_ANUSVARA;5OM;5SIDDHI;5DANDA;6OUBLE_DANDA;5COMMA;",
  "5GAP_FILLER;5ABBREVIATION_SIGN;5DIGIT_ZERO;bONE;bTWO;cHREE;bFOUR;cIVE;bSIX;cEVEN;bEIGHT;bNINE;",
  "6OUBLE_COMMA;5PLACEHOLDER_MARK;>1145D:5INSERTION_SIGN;5SANDHI_MARK;5LETTER_VEDIC_ANUSVARA;",
  "5SIGN_JIHVAMULIYA;aUPADHMANIYA;>11480:0TIRHUTA_ANJI;8LETTER_A;gA;fI;gI;fU;gU;fVOCALIC_R;oR;nL;",
  "oL;fE;fAI;fO;fAU;fKA;gHA;fGA;gHA;fNGA;fCA;gHA;fJA;gHA;fNYA;fTTA;hHA;fDDA;hHA;fNNA;fTA;gHA;fDA;",
  "gHA;fNA;fPA;gHA;fBA;gHA;fMA;fYA;fRA;fLA;fVA;fSHA;gSA;gA;fHA;8VOWEL_SIGN_AA;jI;kI;jU;kU;",
  "jVOCALIC_R;sR;rL;sL;jE;jSHORT_E;jAI;jO;jSHORT_O;jAU;8SIGN_CANDRABINDU;dANUSVARA;dVISARGA;fRAMA;",
  "dNUKTA;dAVAGRAHA;8GVANG;8ABBREVIATION_SIGN;8OM;>114D0:8DIGIT_ZERO;eONE;eTWO;fHREE;eFOUR;fIVE;",
  "eSIX;fEVEN;eEIGHT;eNINE;>11580:0SIDDHAM_LETTER_A;gA;fI;gI;fU;gU;fVOCALIC_R;oR;nL;oL;fE;fAI;fO;",
  "fAU;fKA;gHA;fGA;gHA;fNGA;fCA;gHA;fJA;gHA;fNYA;fTTA;hHA;fDDA;hHA;fNNA;fTA;gHA;fDA;gHA;fNA;fPA;",
  "gHA;fBA;gHA;fMA;fYA;fRA;fLA;fVA;fSHA;gSA;gA;fHA;8VOWEL_SIGN_AA;jI;kI;jU;kU;jVOCALIC_R;sR;",
  ">115B8:jE;jAI;jO;jAU;8SIGN_CANDRABINDU;dANUSVARA;dVISARGA;fRAMA;dNUKTA;dSIDDHAM;8DANDA;",
  "9OUBLE_DANDA;8SEPARATOR_DOT;iBAR;8REPETITION_MARK-1;o2;o3;8END_OF_TEXT_MARK;",
  "8SECTION_MARK_WITH_TRIDENT_AND_U-SHAPED_ORNAMENTS;CDOTTED_CRESCENTS;qRAYS_AND_DOTTED_CRESCENTS;",
  "GDOUBLE_CRESCENTS;GTRIPLE_CRESCENTS;lDOUBLE_RING;w_WITH_RAYS;lWITH_DOUBLE_CRESCENTS;",
  "qTRIPLE_CRESCENTS;qQUADRUPLE_CRESCENTS;qSEPTUPLE_CRESCENTS;qCIRCLES_AND_RAYS;CTWO_ENCLOSURES;",
  "CFOUR_ENCLOSURES;8LETTER_THREE-CIRCLE_ALTERNATE_I;gWO-CIRCLE_ALTERNATE_I;BI;fALTERNATE_U;",
  "8VOWEL_SIGN_ALTERNATE_U;uU;>11600:0MODI_LETTER_A;dA;cI;dI;cU;dU;cVOCALIC_R;lR;kL;lL;cE;cAI;cO;",
  "cAU;cKA;dHA;cGA;dHA;cNGA;cCA;dHA;cJA;dHA;cNYA;cTTA;eHA;cDDA;eHA;cNNA;cTA;dHA;cDA;dHA;cNA;cPA;",
  "dHA;cBA;dHA;cMA;cYA;cRA;cLA;cVA;cSHA;dSA;dA;cHA;cLLA;5VOWEL_SIGN_AA;gI;hI;gU;hU;gVOCALIC_R;pR;",
  "oL;pL;gE;gAI;gO;gAU;5SIGN_ANUSVARA;aVISARGA;cRAMA;aARDHACANDRA;5DANDA;6OUBLE_DANDA;",
  "5ABBREVIATION_SIGN;5SIGN_HUVA;>11650:5DIGIT_ZERO;bONE;bTWO;cHREE;bFOUR;cIVE;bSIX;cEVEN;bEIGHT;",
  "bNINE;>11660:2NGOLIAN_BIRGA_WITH_ORNAMENT;aROTATED_BIRGA;aDOUBLE_BIRGA_WITH_ORNAMENT;",
  "aTRIPLE_BIRGA_WITH_ORNAMENT;aBIRGA_WITH_DOUBLE_ORNAMENT;aROTATED_BIRGA_WITH_ORNAMENT;",
  "tDOUBLE_ORNAMENT;aINVERTED_BIRGA;o_WITH_DOUBLE_ORNAMENT;aSWIRL_BIRGA;l_WITH_ORNAMENT;",
  "rDOUBLE_ORNAMENT;aTURNED_SWIRL_BIRGA_WITH_DOUBLE_ORNAMENT;>11680:0TAKRI_LETTER_A;eA;dI;eI;dU;",
  "eU;dE;dAI;dO;dAU;dKA;eHA;dGA;eHA;dNGA;dCA;eHA;dJA;eHA;dNYA;dTTA;fHA;dDDA;fHA;dNNA;dTA;eHA;dDA;",
  "eHA;dNA;dPA;eHA;dBA;eHA;dMA;dYA;dRA;dLA;dVA;dSHA;eA;dHA;dRRA;6SIGN_ANUSVARA;bVISARGA;",
  "6VOWEL_SIGN_AA;hI;iI;hU;iU;hE;hAI;hO;hAU;6SIGN_VIRAMA;bNUKTA;6LETTER_ARCHAIC_KHA;",
  "6ABBREVIATION_SIGN;>116C0:6DIGIT_ZERO;cONE;cTWO;dHREE;cFOUR;dIVE;cSIX;dEVEN;cEIGHT;cNINE;",
  ">11700:0AHOM_LETTER_KA;dHA;cNGA;dA;cTA;cALTERNATE_TA;cPA;dHA;cBA;cMA;cJA;cCHA;cTHA;cRA;cLA;cSA;",
  "cNYA;cHA;cA;cDA;dHA;cGA;cALTERNATE_GA;cGHA;cBHA;cJHA;cALTERNATE_BA;",
  ">1171D:5CONSONANT_SIGN_MEDIAL_LA;rRA;rLIGATING_RA;5VOWEL_SIGN_A;hA;gI;hI;gU;hU;gE;gAW;gO;gAI;",
  "hM;5SIGN_KILLER;>11730:5DIGIT_ZERO;bONE;bTWO;cHREE;bFOUR;cIVE;bSIX;cEVEN;bEIGHT;bNINE;",
  "5NUMBER_TEN;dWENTY;5SIGN_SMALL_SECTION;bECTION;aRULAI;6YMBOL_VI;5LETTER_CA;cTTA;eHA;cDDA;eHA;",
  "cNNA;cLLA;>11800:0DOGRA_LETTER_A;eA;dI;eI;dU;eU;dE;dAI;dO;dAU;dKA;eHA;dGA;eHA;dNGA;dCA;eHA;dJA;",
  "eHA;dNYA;dTTA;fHA;dDDA;fHA;dNNA;dTA;eHA;dDA;eHA;dNA;dPA;eHA;dBA;eHA;dMA;dYA;dRA;dLA;dVA;dSHA;",
  "eSA;eA;dHA;dRRA;6VOWEL_SIGN_AA;hI;iI;hU;iU;hVOCALIC_R;qR;hE;hAI;hO;hAU;6SIGN_ANUSVARA;bVISARGA;",
  "dRAMA;bNUKTA;6ABBREVIATION_SIGN;>118A0:0WARANG_CITI_CAPITAL_LETTER_NGAA;rA;rWI;rYU;sA;sO;rII;",
  "rUU;rE;rO;rANG;rGA;rKO;rENY;rYUJ;rUC;rENN;rODD;rTTE;rNUNG;rDA;rAT;sM;rBU;rPU;rHIYO;sOLO;tRR;",
  "sAR;rSSUU;sII;rVIYO;cSMALL_LETTER_NGAA;pA;pWI;pYU;qA;qO;pII;pUU;pE;pO;pANG;pGA;pKO;pENY;pYUJ;",
  "pUC;pENN;pODD;pTTE;pNUNG;pDA;pAT;qM;pBU;pPU;pHIYO;qOLO;rRR;qAR;pSSUU;qII;pVIYO;cDIGIT_ZERO;",
  "iONE;iTWO;jHREE;iFOUR;jIVE;iSIX;jEVEN;iEIGHT;iNINE;cNUMBER_TEN;kWENTY;kHIRTY;jFORTY;kIFTY;",
  "jSIXTY;kEVENTY;jEIGHTY;jNINETY;>118FF:cOM;0DIVES_AKURU_LETTER_A;kA;jI;kI;jU;kU;jE;>11909:jO;",
  ">1190C:jKA;kHA;jGA;kHA;jNGA;jCA;kHA;jJA;>11915:jNYA;jTTA;>11918:jDDA;lHA;jNNA;jTA;kHA;jDA;kHA;",
  "jNA;jPA;kHA;jBA;kHA;jMA;jYA;kYA;jRA;jLA;jVA;jSHA;kSA;kA;jHA;jLLA;jZA;cVOWEL_SIGN_AA;nI;oI;nU;",
  "oU;nE;>11937:nAI;nO;>1193B:cSIGN_ANUSVARA;hCANDRABINDU;hHALANTA;cVIRAMA;cPREFIXED_NASAL_SIGN;",
  "cMEDIAL_YA;cINITIAL_RA;cMEDIAL_RA;cSIGN_NUKTA;cDOUBLE_DANDA;cGAP_FILLER;cEND_OF_TEXT_MARK;",
  ">11950:cDIGIT_ZERO;iONE;iTWO;jHREE;iFOUR;jIVE;iSIX;jEVEN;iEIGHT;iNINE;",
  ">119A0:0NANDINAGARI_LETTER_A;kA;jI;kI;jU;kU;jVOCALIC_R;sR;>119AA:jE;jAI;jO;jAU;jKA;kHA;jGA;kHA;",
  "jNGA;jCA;kHA;jJA;kHA;jNYA;jTTA;lHA;jDDA;lHA;jNNA;jTA;kHA;jDA;kHA;jNA;jPA;kHA;jBA;kHA;jMA;jYA;",
  "jRA;jLA;jVA;jSHA;kSA;kA;jHA;jLLA;jRRA;cVOWEL_SIGN_AA;nI;oI;nU;oU;nVOCALIC_R;wR;>119DA:nE;nAI;",
  "nO;nAU;cSIGN_ANUSVARA;hVISARGA;jRAMA;hAVAGRAHA;hSIDDHAM;cHEADSTROKE;",
  "cVOWEL_SIGN_PRISHTHAMATRA_E;>11A00:0ZANABAZAR_SQUARE_LETTER_A;hVOWEL_SIGN_I;sUE;t;sE;sOE;t;sAI;",
  "tU;sREVERSED_I;nLENGTH_MARK;hLETTER_KA;pHA;oGA;pHA;oNGA;oCA;pHA;oJA;oNYA;oTTA;qHA;oDDA;qHA;",
  "oNNA;oTA;pHA;oDA;pHA;oNA;oPA;pHA;oBA;pHA;oMA;oTSA;qHA;oDZA;qHA;oZHA;pA;o-A;oYA;oRA;oLA;oVA;",
  "oSHA;pSA;pA;oHA;oKSSA;hFINAL_CONSONANT_MARK;hSIGN_VIRAMA;mCANDRABINDU;x_WITH_ORNAMENT;",
  "s_WITH_ORNAMENT;mANUSVARA;mVISARGA;hCLUSTER-INITIAL_LETTER_RA;pFINAL_LETTER_YA;CRA;CLA;CVA;",
  "hINITIAL_HEAD_MARK;hCLOSING_HEAD_MARK;hMARK_TSHEG;mSHAD;mDOUBLE_SHAD;mLONG_TSHEG;",
  "hINITIAL_DOUBLE-LINED_HEAD_MARK;hCLOSING_DOUBLE-LINED_HEAD_MARK;hSUBJOINER;",
  ">11A50:0SOYOMBO_LETTER_A;8VOWEL_SIGN_I;jUE;k;jE;jO;kE;jAI;kU;jVOCALIC_R;rL;eLENGTH_MARK;",
  "8LETTER_KA;gHA;fGA;gHA;fNGA;fCA;gHA;fJA;gHA;fNYA;fTTA;hHA;fDDA;hHA;fNNA;fTA;gHA;fDA;gHA;fNA;",
  "fPA;gHA;fBA;gHA;fMA;fTSA;hHA;fDZA;fZHA;gA;f-A;fYA;fRA;fLA;fVA;fSHA;gSA;gA;fHA;fKSSA;",
  "8SIGN_JIHVAMULIYA;dUPADHMANIYA;8CLUSTER-INITIAL_LETTER_RA;vLA;vSHA;wA;8FINAL_CONSONANT_SIGN_G;",
  "tK;tNG;tD;tN;tB;tM;tR;tL;tSH;u;t-A;8SIGN_ANUSVARA;dVISARGA;8GEMINATION_MARK;8SUBJOINER;",
  "8MARK_TSHEG;dSHAD;dDOUBLE_SHAD;dPLUTA;8HEAD_MARK_WITH_MOON_AND_SUN_AND_TRIPLE_FLAME;EFLAME;z;",
  "8TERMINAL_MARK-1;m2;>11AB0:0CANADIAN_SYLLABICS_NATTILIK_HI;uI;tO;uO;tA;uA;sSHRI;wI;vO;wO;vA;wA;",
  "jSPE;lI;lO;lA;0PAU_CIN_HAU_LETTER_PA;jKA;jLA;jMA;jDA;jZA;jVA;jNGA;jHA;jGA;jKHA;jSA;jBA;jCA;jTA;",
  "kHA;jNA;jPHA;jRA;jFA;jCHA;jA;jE;jI;jO;jU;kA;jIA;jFINAL_P;pK;pT;pM;pN;pL;pW;pNG;pY;",
  "cRISING_TONE_LONG;n;cSANDHI_GLOTTAL_STOP;cRISING_TONE_LONG_FINAL;oFINAL;",
  "cSANDHI_GLOTTAL_STOP_FINAL;jTONE_LONG;n;n_LONG_FINAL;oFINAL;cMID-LEVEL_TONE;",
  "cGLOTTAL_STOP_VARIANT;cMID-LEVEL_TONE_LONG_FINAL;rFINAL;cLOW-FALLING_TONE_LONG;s;cGLOTTAL_STOP;",
  "cLOW-FALLING_TONE_LONG_FINAL;tFINAL;cGLOTTAL_STOP_FINAL;>11C00:0BHAIKSUKI_LETTER_A;iA;hI;iI;hU;",
  "iU;hVOCALIC_R;qR;pL;>11C0A:hE;hAI;hO;hAU;hKA;iHA;hGA;iHA;hNGA;hCA;iHA;hJA;iHA;hNYA;hTTA;jHA;",
  "hDDA;jHA;hNNA;hTA;iHA;hDA;iHA;hNA;hPA;iHA;hBA;iHA;hMA;hYA;hRA;hLA;hVA;hSHA;iSA;iA;hHA;",
  "aVOWEL_SIGN_AA;lI;mI;lU;mU;lVOCALIC_R;uR;tL;>11C38:lE;lAI;lO;lAU;aSIGN_CANDRABINDU;fANUSVARA;",
  "fVISARGA;hRAMA;fAVAGRAHA;aDANDA;bOUBLE_DANDA;aWORD_SEPARATOR;aGAP_FILLER-1;l2;",
  ">11C50:aDIGIT_ZERO;gONE;gTWO;hHREE;gFOUR;hIVE;gSIX;hEVEN;gEIGHT;gNINE;aNUMBER_ONE;hTWO;iHREE;",
  "hFOUR;iIVE;hSIX;iEVEN;hEIGHT;hNINE;hTEN;iWENTY;iHIRTY;hFORTY;iIFTY;hSIXTY;iEVENTY;hEIGHTY;",
  "hNINETY;aHUNDREDS_UNIT_MARK;>11C70:0MARCHEN_HEAD_MARK;8MARK_SHAD;8LETTER_KA;gHA;fGA;fNGA;fCA;",
  "gHA;fJA;fNYA;fTA;gHA;fDA;fNA;fPA;gHA;fBA;fMA;fTSA;hHA;fDZA;fWA;fZHA;gA;f-A;fYA;fRA;fLA;fSHA;gA;",
  "fHA;fA;>11C92:8SUBJOINED_LETTER_KA;qHA;pGA;pNGA;pCA;qHA;pJA;pNYA;pTA;qHA;pDA;pNA;pPA;qHA;pBA;",
  "pMA;pTSA;rHA;pDZA;pWA;pZHA;qA;>11CA9:pYA;pRA;pLA;pSHA;qA;pHA;pA;8VOWEL_SIGN_AA;jI;jU;jE;jO;",
  "8SIGN_ANUSVARA;dCANDRABINDU;>11D00:2SARAM_GONDI_LETTER_A;mA;lI;mI;lU;mU;lE;>11D08:lAI;lO;",
  ">11D0B:lAU;lKA;mHA;lGA;mHA;lNGA;lCA;mHA;lJA;mHA;lNYA;lTTA;nHA;lDDA;nHA;lNNA;lTA;mHA;lDA;mHA;",
  "lNA;lPA;mHA;lBA;mHA;lMA;lYA;lRA;lLA;lVA;lSHA;mSA;mA;lHA;lLLA;lKSSA;lJNYA;lTRA;eVOWEL_SIGN_AA;",
  "pI;qI;pU;qU;pVOCALIC_R;>11D3A:pE;>11D3C:pAI;pO;>11D3F:pAU;eSIGN_ANUSVARA;jVISARGA;jNUKTA;",
  "jCANDRA;jHALANTA;eVIRAMA;eREPHA;fA-KARA;>11D50:eDIGIT_ZERO;kONE;kTWO;lHREE;kFOUR;lIVE;kSIX;",
  "lEVEN;kEIGHT;kNINE;>11D60:0GUNJALA_GONDI_LETTER_A;mA;lI;mI;lU;mU;>11D67:lEE;lAI;>11D6A:lOO;lAU;",
  "lYA;lVA;lBA;mHA;lMA;lKA;mHA;lTA;mHA;lLA;lGA;mHA;lDA;mHA;lNA;lCA;mHA;lTTA;nHA;lLLA;lJA;mHA;lDDA;",
  "nHA;lNGA;lPA;mHA;lHA;lRA;lSA;eVOWEL_SIGN_AA;pI;qI;pU;qU;>11D90:pEE;pAI;>11D93:pOO;pAU;",
  "eSIGN_ANUSVARA;jVISARGA;eVIRAMA;eOM;>11DA0:eDIGIT_ZERO;kONE;kTWO;lHREE;kFOUR;lIVE;kSIX;lEVEN;",
  "kEIGHT;kNINE;>11EE0:0MAKASAR_LETTER_KA;fGA;fNGA;fPA;fBA;fMA;fTA;fDA;fNA;fCA;fJA;fNYA;fYA;fRA;",
  "fLA;fVA;fSA;fA;8ANGKA;8VOWEL_SIGN_I;jU;jE;jO;8PASSIMBANG;8END_OF_SECTION;",
  ">11FB0:0LISU_LETTER_YHA;>11FC0:0TAMIL_FRACTION_ONE_THREE-HUNDRED-AND-TWENTIETH;",
  "jONE-HUNDRED-AND-SIXTIETH;jEIGHTIETH;jSIXTY-FOURTH;jFORTIETH;jTHIRTY-SECOND;fTHREE_EIGHTIETHS;",
  "lSIXTY-FOURTHS;fONE_TWENTIETH;jSIXTEENTH-1;t2;jTENTH;jEIGHTH;fTHREE_TWENTIETHS;lSIXTEENTHS;",
  "fONE_FIFTH;jQUARTER;jHALF-1;o2;fTHREE_QUARTERS;fDOWNSCALING_FACTOR_KIIZH;6SIGN_NEL;bCEVITU;",
  "bAAZHAAKKU;bUZHAKKU;bMUUVUZHAKKU;bKURUNI;bPATHAKKU;bMUKKURUNI;bKAACU;bPANAM;cON;bVARAAKAN;",
  "bPAARAM;bKUZHI;bVELI;6WET_CULTIVATION_SIGN;6DRY_CULTIVATION_SIGN;6LAND_SIGN;6SALT_PAN_SIGN;",
  "6TRADITIONAL_CREDIT_SIGN;iNUMBER_SIGN;6CURRENT_SIGN;6AND_ODD_SIGN;6SPENT_SIGN;6TOTAL_SIGN;",
  "6IN_POSSESSION_SIGN;6STARTING_FROM_SIGN;7IGN_MUTHALIYA;bVAKAIYARAA;",
  ">11FFF:6PUNCTUATION_END_OF_TEXT;0CUNEIFORM_SIGN_A;g_TIMES_A;nBAD;nGAN2_TENU;nHA;nIGI;",
  "nLAGAR_GUNU;nMUSH;nSAG;g2;gB;h_TIMES_ASH2;oDUN3_GUNU;oGAL;qN2_TENU;oHA;oIGI_GUNU;pMIN;oLAGAB;",
  "oSHESH;oU_PLUS_U_PLUS_U;iGUNU;h2;i_TIMES_BALAG;pGAN2_TENU;pME_PLUS_EN;pSHA3;pTAK4;gD;gK;",
  "h_TIMES_ERIN2;oSHITA_PLUS_GISH;gL;h_TIMES_AL;oDIM2;oGISH;oHA;oKAD3;pI;oSHE;oUSH;hAN;hEPH;gMAR;",
  "j_TIMES_SHE;gN;h_OVER_AN;iTHREE_TIMES;iPLUS_NAGA_OPPOSING_AN_PLUS_NAGA;sSQUARED;hSHE;gPIN;gRAD;",
  "j_TIMES_KUR;hKAB;gSAL2;hH;i_ZIDA_TENU;jKABA_TENU;jOVER_ASH_TUG2_OVER_TUG2_TUG2_OVER_TUG2_PAP;",
  "sOVER_ASH;A_CROSSING_ASH_OVER_ASH_OVER_ASH;i2;iGAB;fBA;hD;hG3;hHAR2;hL;i_OVER_BAL;iAG;hR;iA2;",
  "gI;h_TIMES_A;oGAR;oIGI_GUNU;gU;h_OVER_BU_AB;qUN;iCROSSING_BU;hLUG;k_OVER_BULUG;hR;i2;fDA;hG;",
  "i_KISIM5_TIMES_A_PLUS_MASH;xMAR;wBALAG;xI;wGA;y_PLUS_MASH;xI;yR2;xUD;wHA;wIR;y_PLUS_LU;wKAK;",
  "wLA;xU;y_PLUS_MASH2;yM;wNE;wPAP_PLUS_PAP;wSI;wTAK4;wU2_PLUS_GIR2;xSH;hM;hR;iA3;j4;gI;hB;hM;",
  "i_TIMES_SHE;i2;hN;i_KASKAL_U_GUNU_DISH;hSH;gU;h_OVER_DU;iGUNU;iSHESHIG;hB;i_TIMES_ESH2;i2;hG;",
  "iUD;hH;hN;i3;j_GUNU;o_GUNU;i4;hR2;fE;g_TIMES_PAP;hOVER_E_NUN_OVER_NUN;g2;",
  "h_TIMES_A_PLUS_HA_PLUS_DA;oGAR;oMI;oSAL;pHE;oU;gDIN;gGIR;gL;gN;h_TIMES_GAN2;s_TENU;oME;",
  "iCROSSING_EN;iOPPOSING_EN;iSQUARED;gREN;hIN2;gSH2;gZEN;j_TIMES_A;r_PLUS_LAL;A_TIMES_LAL;rN;",
  "qBAD;qDUN3_GUNU;z_GUNU;qHA;s_GUNU;qIGI_GUNU;qKASKAL;w_SQUARED;rU3;qLA;sL_TIMES_LAL;rI;rU;qU2;",
  "rD;fGA;h_GUNU;h2;i_TIMES_A_PLUS_DA_PLUS_HA;wHA;wIGI;qB2_TENU_PLUS_TAB;qN;qSH;s2_PLUS_GAL;pBAD;",
  "rR_PLUS_RA;qUR;s_PLUS_RA;pDA;qI;rM_TIMES_SHE;qUB;pEL;r_PLUS_LA;qN;r_TIMES_GAN2_TENU;pGAN2_TENU;",
  "rR;qI;r4;s_PLUS_A;rR2_PLUS_SU;pHA_PLUS_LU_PLUS_ESH2;rL;s_PLUS_LA;qI_PLUS_LI;qUB2;pIGI_GUNU;",
  "qSH_PLUS_HU_PLUS_ASH;pKAK;rSKAL;qID;s_PLUS_LAL;qU3_PLUS_AN;pLA;pME_PLUS_EN;qI;pNUN;s_OVER_NUN;",
  "pPA;pSAL;rR;qHE;s_PLUS_TUR;rID;qUM;pTAK4;pU;qD;r_PLUS_DU;jOVER_GA2;hBA;j_CROSSING_GABA;hD;",
  "i_OVER_GAD_GAR_OVER_GAR;hL;i_GAD_OVER_GAD_GAR_OVER_GAR;iAM;hM;hN;i2;j_TENU;kOVER_GAN2;",
  "kCROSSING_GAN2;hR;i3;hSHAN;gESHTIN;m_TIMES_KUR;gI;h_TIMES_E;oU;iCROSSING_GI;h4;i_OVER_GI4;",
  "jCROSSING_GI4;hDIM;hR2;j_GUNU;i3;j_TIMES_A_PLUS_IGI;qGAN2_TENU;qIGI;qLU_PLUS_IGI;qPA;hSAL;iH;",
  "j_CROSSING_GISH;kTIMES_BAD;qTAK4;lENU;gU;h_CROSSING_GU;h2;i_TIMES_KAK;s_TIMES_IGI_GUNU;pNUN;",
  "pSAL_PLUS_TUG2;jGUNU;hD;i_TIMES_A_PLUS_KUR;pKUR;jOVER_GUD_LUGAL;hL;hM;i_TIMES_SHE;hR;i7;iUN;",
  "jSH;fHA;h_TENU;iGUNU;hL;gI;h_TIMES_ASH;r2;oBAD;oDISH;oGAD;oKIN;oNUN;oSHE;oU;gU;hB2;j_TIMES_AN;",
  "qHAL;qKASKAL;qLISH;qUD;hL2;fI;g_A;gB;gDIM;j_OVER_IDIM_BUR;uSQUARED;gG;hI;i_DIB;jRI;",
  "jOVER_IGI_SHIR_OVER_SHIR_UD_OVER_UD;jGUNU;gL;h_TIMES_GAN2_TENU;h2;gM;h_TIMES_TAK4;iCROSSING_IM;",
  "iOPPOSING_IM;iSQUARED;hIN;gN;gR;gSH;fKA;h_TIMES_A;pD;q_PLUS_KU3;pSH2;oBAD;qLAG;qR;pI;oERIN2;",
  "pSH2;oGA;qL;qN2_TENU;qR;r_PLUS_SHA3_PLUS_A;pI;qR2;qSH_PLUS_SAR;tCROSSING_GISH;pU;qR7;oIGI;pM;",
  "oKAK;pI;qD;oLI;pU;oME;q_PLUS_DU;wGI;wTE;pI;q_PLUS_NUNUZ;oNE;pUN;oPI;oRU;oSA;qR;pHA;qE;qID;qU;",
  "pIG;pUHUR;oTAR;oU;p2;pD;pMUM_TIMES_PA;pSH;oZI;h2;i_CROSSING_KA2;hB;hD2;i3;i4;i5;j_OVER_KAD5;hK;",
  "i_TIMES_IGI_GUNU;hL;i_TIMES_BAD;jCROSSING_KAL;hM2;i4;hSKAL;l_LAGAB_TIMES_U_OVER_LAGAB_TIMES_U;",
  "mOVER_KASKAL_LAGAB_TIMES_U_OVER_LAGAB_TIMES_U;gESH2;gI;h_TIMES_BAD;oU;pD;hD;hN;hSAL;iH;iIM5;",
  "l_OVER_KISIM5;gU;h_OVER_HI_TIMES_ASH2_KU_OVER_HI_TIMES_ASH2;h3;h4;i_VARIANT_FORM;h7;hL;i_GUNU;",
  "hN;hR;i_OPPOSING_KUR;hSHU2;gWU318;fLA;hGAB;k_TIMES_A;s_PLUS_DA_PLUS_HA;yGAR;yLAL;sL;sN;",
  "sSH_ZIDA_TENU;rBAD;sI;rDAR;rEN;rGA;tR;sUD;u_PLUS_GUD;rHA;tL;sI_TIMES_NUN;rIGI_GUNU;sM;",
  "t_PLUS_HA;zLU;rKI;tN;sU3;tL;u_PLUS_HI_PLUS_A;rLAGAB;sISH;sU;tL;rME;t_PLUS_EN;sUSH;rNE;",
  "rSHE_PLUS_SUM;tITA_PLUS_GISH_PLUS_ERIN2;HTENU;tU2;v_PLUS_SHU2;sUM;rTAG;tK4;",
  "sE_PLUS_A_PLUS_SU_PLUS_NA;rU;s_PLUS_A;yU_PLUS_U;s2_PLUS_ASH;sD;sSH;lSQUARED;jR;k_TIMES_SHE;",
  "u_PLUS_SUM;lGUNU;p_OVER_LAGAR_GUNU_SHE;hHSHU;hL;i_TIMES_LAL;hM;i_TIMES_KUR;s_PLUS_RU;gI;hL;",
  "hMMU2;hSH;gU;h_TIMES_BAD;h2;i_TIMES_AL;pBAD;pESH2;t_TENU;pGAN2_TENU;pHI_TIMES_BAD;pIM;pKAD2;s3;",
  "t_PLUS_ASH;qI;pLA_PLUS_ASH;rGAB;pME_PLUS_EN;pNE;qU;pSI_PLUS_ASH;rK2_PLUS_BU;pTUG2;kENU;",
  "jCROSSING_LU2;jOPPOSING_LU2;jSQUARED;kHESHIG;h3;hGAL;k_OVER_LUGAL;mPPOSING_LUGAL;lSHESHIG;hH;",
  "hL;hM;i_OVER_LUM;r_GAR_OVER_GAR;fMA;h_TIMES_TAK4;iGUNU;h2;hH;hR;hSH;j2;gE;hS;gI;hN;gU;",
  "h_OVER_MU;hG;i_GUNU;hNSUB;hRGU2;hSH;j_TIMES_A;qKUR;qZA;kOVER_MUSH;t_TIMES_A_PLUS_NA;",
  "kCROSSING_MUSH;j3;k_TIMES_A;s_PLUS_DI;rDI;lGUNU;fNA;h2;hGA;j_INVERTED;kTIMES_SHU_TENU;",
  "kOPPOSING_NAGA;jR;hM_NUTILLU;i;i2;gE;h_TIMES_A;oUD;iSHESHIG;gI;h_TIMES_E;h2;hM;",
  "i_TIMES_GAN2_TENU;rR_PLUS_GAN2_TENU;hNDA2;l_TIMES_AN;tSH;v_PLUS_ASH;sGUD;sME_PLUS_GAN2_TENU;",
  "sNE;tUN;sSHE;v_PLUS_A_AN;CSH;E_PLUS_ASH;sU2_PLUS_ASH;tSH;hSAG;gU;h11;hN;i_LAGAR_TIMES_GAR;",
  "vMASH;vSAL;y_OVER_NUN_LAGAR_TIMES_SAL;vUSH;jTENU;jOVER_NUN;jCROSSING_NUN;v_LAGAR_OVER_LAGAR;",
  "iUZ;k_AB2_TIMES_ASHGAB;vBI;vDUG;vGUD;vIGI_GUNU;vKAD3;vLA;vNE;vSILA3;vU2;lKISIM5_TIMES_BI;A_U;",
  "fPA;hD;hN;hP;gESH2;gI;h_TIMES_A;pB;oBI;pU;oE;oI;pB;oU;p2;iCROSSING_PI;hRIG;k_TIMES_KAL;rUD;rZA;",
  "lOPPOSING_PIRIG;fRA;hB;gI;gU;fSA;hG_NUTILLU;i;i_TIMES_A;pDU;rB;pHA;pKAK;qUR;pLUM;pMI;pNUN;pSAL;",
  "qHID;pTAB;pU2;qB;qM;qR;qSH;jOVER_SAG;jGUNU;hL;i_LAGAB_TIMES_ASH2;hNGA2;hR;gHA;i3;j_TIMES_A;",
  "qBAD;qGISH;qNE;qSHU2;qTUR;qU;r_PLUS_A;i6;iB6;iR2;hE;i_HU;jOVER_SHE_GAD_OVER_GAD_GAR_OVER_GAR;",
  "sTAB_OVER_TAB_GAR_OVER_GAR;iG9;iN;iSH;k2;kLAM;hID;j_TIMES_A;qIM;iM;j_TIMES_A;qBAL;rULUG;qDIN;",
  "qGAR;qIGI;t_GUNU;qKUSHU2;qLUL;qMUG;qSAL;iNIG;iR;j_TENU;kOVER_SHIR_BUR_OVER_BUR;iTA;hU;",
  "i_OVER_INVERTED_SHU;i2;iBUR;gI;h_GUNU;hG;i4;j_OVER_SIG4_SHU2;hK2;hLA3;gU;h_OVER_SU;hD;i2;hHUR;",
  "hM;iASH;hR;i9;fTA;h_ASTERISK;iTIMES_HI;oMI;iGUNU;hB;i_OVER_TAB_NI_OVER_NI_DISH_OVER_DISH;",
  "jSQUARED;hG;i_TIMES_BI;pGUD;pSHE;rU;pTUG2;pUD;hK4;hR;gE;h_GUNU;gI;h_TENU;hL;hR;i_TIMES_TAK4;",
  "jOVER_TIR;r_GAD_OVER_GAD_GAR_OVER_GAR;gU;hG2;hK;hM;hR;i_OVER_TUR_ZA_OVER_ZA;fU;g_GUD;hU_U;",
  "hOVER_U_PA_OVER_PA_GAR_OVER_GAR;oSUR_OVER_SUR;oU_REVERSED_OVER_U_REVERSED;g2;gB;gD;h_KUSHU2;",
  "iTIMES_BAD;oMI;oU_PLUS_U_PLUS_U;D_GUNU;iGUNU;iSHESHIG;p_TIMES_BAD;hUG;gM;h_TIMES_LAGAB;",
  "oME_PLUS_DA;oSHA3;oU;hBIN;hUM;j_TIMES_KASKAL;qPA;gN;h_GUNU;gR;h_CROSSING_UR;iSHESHIG;h2;",
  "i_TIMES_A_PLUS_HA;wNA;qL;pHA;pNUN;pU2;r_PLUS_ASH;xBI;h4;hI;i3;hU;i_TIMES_A;qSHGAB;pBAR;pDUN;",
  "pGA;rL;rN2_TENU;rR;qU;pHA;pIGI;qM;qSH;pKI;pLUM;pMIN;pPA;pSHE;qIG4;pTU;pU_PLUS_GUD;qD;qRUDA;iDA;",
  "k_TIMES_U;gSH;i_TIMES_A;pKU;rR;pTAK4;iX;i2;iUMX;gTUKI;gZ3;i_TIMES_KASKAL;hU;fZA;h_TENU;",
  "iSQUARED_TIMES_KUR;hG;hMX;gE2;gI;h_OVER_ZI;h3;hB;i_KABA_TENU;hG;hZ2;gU;h5;i_TIMES_A;hBUR;hM;",
  "fKAP_ELAMITE;fAB_TIMES_NUN;h2_TIMES_A;gMAR_TIMES_KUG;fDAG_KISIM5_TIMES_U2_PLUS_MASH;i3;",
  "gISH_PLUS_SHU;gUB_TIMES_SHE;fEZEN_TIMES_GUD;qSHE;fGA2_TIMES_AN_PLUS_KAK_PLUS_A;qSH2;gE22;gIG;",
  "fHUSH;fKA_TIMES_ANSHE;pSH3;oGISH;pUD;oHI_TIMES_ASH2;oLUM;oPA;oSHUL;oTU;oUR2;fLAGAB_TIMES_GI;",
  "gU2_SHESHIG_TIMES_BAD;jTIMES_ESH2_PLUS_LAL;pSHU;fMESH;gUSH3_TIMES_ZA;fNA4;gIN;i9;",
  "iDA2_TIMES_BAL;sGI;gU11_ROTATED_NINETY_DEGREES;fPESH2_ASTERISK;gIR2;fSAG_TIMES_IGI_GUNU;fTI2;",
  "fUM_TIMES_ME;g_U;>12400:aNUMERIC_SIGN_TWO_ASH;oHREE_ASH;nFOUR_ASH;oIVE_ASH;nSIX_ASH;oEVEN_ASH;",
  "nEIGHT_ASH;nNINE_ASH;nTHREE_DISH;nFOUR_DISH;oIVE_DISH;nSIX_DISH;oEVEN_DISH;nEIGHT_DISH;",
  "nNINE_DISH;nFOUR_U;oIVE_U;nSIX_U;oEVEN_U;nEIGHT_U;nNINE_U;nONE_GESH2;nTWO_GESH2;oHREE_GESH2;",
  "nFOUR_GESH2;oIVE_GESH2;nSIX_GESH2;oEVEN_GESH2;nEIGHT_GESH2;nNINE_GESH2;nONE_GESHU;nTWO_GESHU;",
  "oHREE_GESHU;nFOUR_GESHU;oIVE_GESHU;nTWO_SHAR2;oHREE_SHAR2;y_VARIANT_FORM;nFOUR_SHAR2;",
  "oIVE_SHAR2;nSIX_SHAR2;oEVEN_SHAR2;nEIGHT_SHAR2;nNINE_SHAR2;nONE_SHARU;nTWO_SHARU;oHREE_SHARU;",
  "y_VARIANT_FORM;nFOUR_SHARU;oIVE_SHARU;nSHAR2_TIMES_GAL_PLUS_DISH;IMIN;nONE_BURU;nTWO_BURU;",
  "oHREE_BURU;x_VARIANT_FORM;nFOUR_BURU;oIVE_BURU;nTHREE_VARIANT_FORM_ESH16;J21;",
  "nFOUR_VARIANT_FORM_LIMMU;K4;K_A;LB;nSIX_VARIANT_FORM_ASH9;oEVEN_VARIANT_FORM_IMIN3;K_A;LB;",
  "nEIGHT_VARIANT_FORM_USSU;K3;nNINE_VARIANT_FORM_ILIMMU;L3;L4;L_A;nTWO_ASH_TENU;oHREE_ASH_TENU;",
  "nFOUR_ASH_TENU;oIVE_ASH_TENU;nSIX_ASH_TENU;nONE_BAN2;nTWO_BAN2;oHREE_BAN2;nFOUR_BAN2;",
  "w_VARIANT_FORM;oIVE_BAN2;w_VARIANT_FORM;nNIGIDAMIN;tESH;nONE_ESHE3;nTWO_ESHE3;nONE_THIRD_DISH;",
  "nTWO_THIRDS_DISH;nFIVE_SIXTHS_DISH;nONE_THIRD_VARIANT_FORM_A;nTWO_THIRDS_VARIANT_FORM_A;",
  "nONE_EIGHTH_ASH;rQUARTER_ASH;oLD_ASSYRIAN_ONE_SIXTH;EQUARTER;oNE_QUARTER_GUR;rHALF_GUR;",
  "nELAMITE_ONE_THIRD;vTWO_THIRDS;vFORTY;wIFTY;nFOUR_U_VARIANT_FORM;oIVE_U_VARIANT_FORM;",
  "nSIX_U_VARIANT_FORM;oEVEN_U_VARIANT_FORM;nEIGHT_U_VARIANT_FORM;nNINE_U_VARIANT_FORM;",
  ">12470:aPUNCTUATION_SIGN_OLD_ASSYRIAN_WORD_DIVIDER;rVERTICAL_COLON;rDIAGONAL_COLON;ATRICOLON;",
  "AQUADCOLON;>12480:aSIGN_AB_TIMES_NUN_TENU;oSHU2;gD_TIMES_ESH2;fBAD_TIMES_DISH_TENU;",
  "hHAR2_TIMES_AB2;sNI;sZA;gU_OVER_BU_TIMES_NA2;fDA_TIMES_TAK4;hG_TIMES_KUR;gIM_TIMES_IGI;pU_U_U;",
  "i2_TIMES_UD;gUG_TIMES_ANSHE;qSH;s_AT_LEFT;pDIN;qUN;pERIN2;pGA;qI;rR2_GUNU;rSH;pHA;qI;pIGI_GUNU;",
  "pKASKAL;qUR;rSHU2;v_PLUS_KASKAL;pLAK-020;rM;s_TIMES_KUR;qUH_PLUS_GISH;pMASH;qES;qI;pNI;pPI;",
  "pSHE;qI_GUNU;fE2_TIMES_KUR;oPAP;gRIN2_X;gSH2_CROSSING_ESH2;gZEN_SHESHIG_TIMES_ASH;yHI;",
  "yIGI_GUNU;yLA;AL;yME;AS;ySU;kTIMES_SU;fGA2_TIMES_BAHAR2;pDIM_GUNU;qUG_TIMES_IGI_GUNU;zKASKAL;",
  "pEREN;pGA;rR_PLUS_DI;yNE;pHA_PLUS_A;pKUSHU2_PLUS_KASKAL;pLAM;s_TIMES_KUR;qUH;pMUSH;pNE;",
  "r_PLUS_E2;xGI;pSHIM;pZIZ2;hBA_ROTATED_NINETY_DEGREES;gESHTIN_TIMES_U;",
  "gISH_TIMES_GISH_CROSSING_GISH;gU2_TIMES_IGI_GUNU;hD_PLUS_GISH_TIMES_TAK4;fHA_TENU_GUNU;",
  "gI_TIMES_ASH_OVER_HI_TIMES_ASH;fKA_TIMES_BU;oKA;oU_U_U;pR;fLAGAB_TIMES_ZU_OVER_ZU;hK-003;k21;",
  "l5;k30;k50;l1;k62;k79_OVER_LAK-079_GUNU;k80;l1_OVER_LAK-081;k92;j130;k42;j210;l9;k20;l5;l8;k38;",
  "k65;l6;j343;l7;l8;k83;l4;k90;j441;l9;m_TIMES_GU;tIGI;tPAP_PLUS_LU3;CPAP_PLUS_LU3;tU2_PLUS_BA;",
  "k50;l7;k70;k83;k90;l2;l3;l5;j550;j608;k17;m_TIMES_ASH;tBAD;tDUN3_GUNU_GUNU;tKU3;tLA;tTAR;uE;",
  "tU2;uD;uRUDA;k36;k48;m_TIMES_DUB;tGA;tIGI;w_GUNU;tNI;tPAP_PLUS_PAP_PLUS_LU3;tSHESH_PLUS_KI;tUD;",
  "uRUDA;j724;k49;gU2_GUNU_TIMES_ASH;jTIMES_DISH;pHAL;pPAP;s_PLUS_PAP_PLUS_LU3;pTAK4;fMI_PLUS_ZA7;",
  "gUSH_OVER_MUSH_TIMES_GA;AKAK;fNINDA2_TIMES_DIM_GUNU;sGISH;tUL;sHI;sKESH2;sLAK-050;sMASH;",
  "sPAP_PLUS_PAP;sU;t_PLUS_U;tRUDA;fSAG_GUNU_TIMES_HA;jTIMES_EN;pSHE_AT_LEFT;pTAK4;gHA6_TENU;",
  "hE_OVER_SHE;jPLUS_HUB2;oNAM2;oSAR;hU2_PLUS_DUG_TIMES_NI;pE2_TIMES_AN;gI_TIMES_TAK4;",
  "fTAK4_PLUS_SAG;gUM_TIMES_GAN2_TENU;pTHREE_DISH;fUR2_INVERTED;jTIMES_UD;hU_TIMES_DARA3;pLAK-668;",
  "qU3;fZA7;gU_OVER_ZU_PLUS_SAR;h5_TIMES_THREE_DISH_TENU;>12F90:1YPRO-MINOAN_SIGN_CM001;m2;m4;m5;",
  "m6;m7;m8;m9;l10;m1;m2;nB;m3;m5;m7;m9;l21;m3;m4;m5;m6;m7;m8;m9;l30;m3;m4;m5;m6;m7;m8;m9;l40;m1;",
  "m4;m6;m7;m9;l50;m1;m2;m3;m4;m5;m6;m8;m9;l60;m1;m2;m3;m4;m6;m7;m8;m9;l70;m1;m2;m3;m4;m5;nB;m6;",
  "m8;m9;l80;m1;m2;m3;m4;m5;m6;m7;m8;m9;l90;m1;m2;m4;m5;m6;m7;m8;m9;k100;m1;m2;m3;m4;m5;m7;m8;m9;",
  "l10;m2;m4;k301;m2;>13000:0EGYPTIAN_HIEROGLYPH_A001;n2;n3;n4;n5;oA;n6;oA;oB;n7;n8;n9;m10;n1;n2;",
  "n3;n4;oA;n5;n6;n7;oA;n8;n9;m20;n1;n2;n3;n4;n5;n6;n7;n8;n9;m30;n1;n2;oA;n3;n4;n5;n6;n7;n8;n9;",
  "m40;oA;n1;n2;oA;n3;oA;n4;n5;oA;n6;n7;n8;n9;m50;n1;n2;n3;n4;n5;n6;n7;n8;n9;m60;n1;n2;n3;n4;n5;",
  "n6;n7;n8;n9;m70;kB001;n2;n3;n4;n5;oA;n6;n7;n8;n9;kC001;n2;oA;oB;oC;n3;n4;n5;n6;n7;n8;n9;m10;oA;",
  "n1;n2;n3;n4;n5;n6;n7;n8;n9;m20;n1;n2;n3;n4;kD001;n2;n3;n4;n5;n6;n7;n8;oA;n9;m10;n1;n2;n3;n4;n5;",
  "n6;n7;n8;n9;m20;n1;n2;n3;n4;n5;n6;n7;oA;n8;n9;m30;n1;oA;n2;n3;n4;oA;n5;n6;n7;n8;n9;m40;n1;n2;",
  "n3;n4;n5;n6;oA;n7;n8;oA;n9;m50;oA;oB;oC;oD;oE;oF;oG;oH;oI;n1;n2;oA;n3;n4;oA;n5;n6;n7;n8;n9;m60;",
  "n1;n2;n3;n4;n5;n6;n7;oA;oB;oC;oD;oE;oF;oG;oH;kE001;n2;n3;n4;n5;n6;n7;n8;oA;n9;oA;m10;n1;n2;n3;",
  "n4;n5;n6;oA;n7;oA;n8;n9;m20;oA;n1;n2;n3;n4;n5;n6;n7;n8;oA;n9;m30;n1;n2;n3;n4;oA;n6;n7;n8;kF001;",
  "oA;n2;n3;n4;n5;n6;n7;n8;n9;m10;n1;n2;n3;oA;n4;n5;n6;n7;n8;n9;m20;n1;oA;n2;n3;n4;n5;n6;n7;n8;n9;",
  "m30;n1;oA;n2;n3;n4;n5;n6;n7;oA;n8;oA;n9;m40;n1;n2;n3;n4;n5;oA;n6;oA;n7;oA;n8;n9;m50;n1;oA;oB;",
  "oC;n2;n3;kG001;n2;n3;n4;n5;n6;oA;n7;oA;oB;n8;n9;m10;n1;oA;n2;n3;n4;n5;n6;n7;n8;n9;m20;oA;n1;n2;",
  "n3;n4;n5;n6;oA;n7;n8;n9;m30;n1;n2;n3;n4;n5;n6;oA;n7;oA;n8;n9;m40;n1;n2;n3;oA;n4;n5;oA;n6;n7;n8;",
  "n9;m50;n1;n2;n3;n4;kH001;n2;n3;n4;n5;n6;oA;n7;n8;kI001;n2;n3;n4;n5;oA;n6;n7;n8;n9;oA;m10;oA;n1;",
  "oA;n2;n3;n4;n5;kK001;n2;n3;n4;n5;n6;n7;n8;kL001;n2;oA;n3;n4;n5;n6;oA;n7;n8;kM001;oA;oB;n2;n3;",
  "oA;n4;n5;n6;n7;n8;n9;m10;oA;n1;n2;oA;oB;oC;oD;oE;oF;oG;oH;n3;n4;n5;oA;n6;oA;n7;oA;n8;n9;m20;n1;",
  "n2;oA;n3;n4;oA;n5;n6;n7;n8;oA;n9;m30;n1;oA;n2;n3;oA;oB;n4;n5;n6;n7;n8;n9;m40;oA;n1;n2;n3;n4;",
  "kN001;n2;n3;n4;n5;n6;n7;n8;n9;m10;n1;n2;n3;n4;n5;n6;n7;n8;oA;oB;n9;m20;n1;n2;n3;n4;n5;oA;n6;n7;",
  "n8;n9;m30;n1;n2;n3;oA;n4;oA;n5;oA;n6;n7;oA;n8;n9;m40;n1;n2;lL001;o2;o3;o4;o5;pA;o6;o7;o8;o9;",
  "n10;o1;o2;o3;o4;o5;o6;o7;pA;o8;o9;n20;lU001;o2;o3;o4;o5;o6;o7;o8;o9;n10;pA;o1;pA;o2;o3;o4;o5;",
  "o6;o7;o8;pA;o9;n20;o1;o2;pA;kO001;oA;n2;n3;n4;n5;oA;n6;oA;oB;oC;oD;oE;oF;n7;n8;n9;m10;oA;oB;oC;",
  "n1;n2;n3;n4;n5;n6;n7;n8;n9;oA;m20;oA;n1;n2;n3;n4;oA;n5;oA;n6;n7;n8;n9;oA;m30;oA;n1;n2;n3;oA;n4;",
  "n5;n6;oA;oB;oC;oD;n7;n8;n9;m40;n1;n2;n3;n4;n5;n6;n7;n8;n9;m50;oA;oB;n1;kP001;oA;n2;n3;oA;n4;n5;",
  "n6;n7;n8;n9;m10;n1;kQ001;n2;n3;n4;n5;n6;n7;kR001;n2;oA;n3;oA;oB;n4;n5;n6;n7;n8;n9;m10;oA;n1;n2;",
  "n3;n4;n5;n6;oA;n7;n8;n9;m20;n1;n2;n3;n4;n5;n6;n7;n8;n9;kS001;n2;oA;n3;n4;n5;n6;oA;n7;n8;n9;m10;",
  "n1;n2;n3;n4;oA;oB;n5;n6;n7;oA;n8;n9;m20;n1;n2;n3;n4;n5;n6;oA;oB;n7;n8;n9;m30;n1;n2;n3;n4;n5;oA;",
  "n6;n7;n8;n9;m40;n1;n2;n3;n4;n5;n6;kT001;n2;n3;oA;n4;n5;n6;n7;oA;n8;oA;n9;oA;m10;n1;oA;n2;n3;n4;",
  "n5;n6;oA;n7;n8;n9;m20;n1;n2;n3;n4;n5;n6;n7;n8;n9;m30;n1;n2;oA;n3;oA;n4;n5;n6;kU001;n2;n3;n4;n5;",
  "n6;oA;oB;n7;n8;n9;m10;n1;n2;n3;n4;n5;n6;n7;n8;n9;m20;n1;n2;n3;oA;n4;n5;n6;n7;n8;n9;oA;m30;n1;",
  "n2;oA;n3;n4;n5;n6;n7;n8;n9;m40;n1;n2;kV001;oA;oB;oC;oD;oE;oF;oG;oH;oI;n2;oA;n3;n4;n5;n6;n7;oA;",
  "oB;n8;n9;m10;n1;oA;oB;oC;n2;oA;oB;n3;n4;n5;n6;n7;n8;n9;m20;oA;oB;oC;oD;oE;oF;oG;oH;oI;oJ;oK;oL;",
  "n1;n2;n3;oA;n4;n5;n6;n7;n8;oA;n9;oA;m30;oA;n1;oA;n2;n3;oA;n4;n5;n6;n7;oA;n8;n9;m40;oA;kW001;n2;",
  "n3;oA;n4;n5;n6;n7;n8;n9;oA;m10;oA;n1;n2;n3;n4;oA;n5;n6;n7;oA;n8;oA;n9;m20;n1;n2;n3;n4;oA;n5;",
  "kX001;n2;n3;n4;oA;oB;n5;n6;oA;n7;n8;oA;kY001;oA;n2;n3;n4;n5;n6;n7;n8;kZ001;n2;oA;oB;oC;oD;n3;",
  "oA;oB;n4;oA;n5;oA;n6;n7;n8;n9;m10;n1;n2;n3;n4;n5;oA;oB;oC;oD;oE;oF;oG;oH;oI;n6;oA;oB;oC;oD;oE;",
  "oF;oG;oH;kAA001;o2;o3;o4;o5;o6;o7;pA;pB;o8;o9;n10;o1;o2;o3;o4;o5;o6;o7;o8;o9;n20;o1;o2;o3;o4;",
  "o5;o6;o7;o8;o9;n30;o1;o2;>13430:kVERTICAL_JOINER;kHORIZONTAL_JOINER;kINSERT_AT_TOP_START;",
  "uBOTTOM_START;uTOP_END;uBOTTOM_END;kOVERLAY_MIDDLE;kBEGIN_SEGMENT;kEND_SEGMENT;",
  ">14400:0ANATOLIAN_HIEROGLYPH_A001;o2;o3;o4;o5;o6;o7;o8;o9;n10;pA;o1;o2;o3;o4;o5;o6;o7;o8;o9;",
  "n20;o1;o2;o3;o4;o5;o6;pA;o7;o8;o9;n30;o1;o2;o3;o4;o5;o6;o7;o8;o9;pA;n40;o1;pA;o2;o3;o4;o5;pA;",
  "o6;pA;pB;o7;o8;o9;n50;o1;o2;o3;o4;o5;o6;o7;o8;o9;n60;o1;o2;o3;o4;o5;o6;pA;pB;pC;o7;o8;o9;n70;",
  "o1;o2;o3;o4;o5;o6;o7;o8;o9;n80;o1;o2;o3;o4;o5;o6;o7;o8;o9;n90;o1;o2;o3;o4;o5;o6;o7;pA;o8;pA;o9;",
  "m100;pA;o1;pA;o2;pA;o3;o4;pA;pB;pC;o5;pA;pB;o6;o7;pA;pB;pC;o8;o9;n10;pA;pB;o1;o2;o3;o4;o5;pA;",
  "o6;o7;o8;o9;n20;o1;o2;o3;o4;o5;pA;o6;o7;o8;o9;n30;o1;o2;o3;o4;o5;pA;o6;o7;o8;o9;n40;o1;o2;o3;",
  "o4;o5;o6;o7;o8;o9;n50;o1;o2;o3;o4;o5;o6;o7;o8;o9;n60;o1;o2;o3;o4;o5;o6;o7;o8;o9;n70;o1;o2;o3;",
  "o4;o5;o6;o7;o8;o9;n80;o1;o2;o3;o4;o5;o6;o7;o8;o9;n90;o1;o2;o3;o4;o5;o6;o7;o8;o9;m200;o1;o2;pA;",
  "pB;o3;o4;o5;o6;o7;pA;o8;o9;pA;n10;o1;o2;o3;o4;o5;pA;o6;pA;o7;o8;o9;n20;o1;o2;o3;o4;o5;o6;o7;pA;",
  "o8;o9;n30;o1;o2;o3;o4;o5;o6;o7;o8;o9;n40;o1;o2;o3;o4;o5;o6;o7;o8;o9;n50;o1;o2;o3;o4;o5;o6;o7;",
  "o8;o9;n60;o1;o2;o3;o4;o5;o6;o7;pA;o8;o9;n70;o1;o2;o3;o4;o5;o6;o7;o8;o9;n80;o1;o2;o3;o4;o5;o6;",
  "o7;o8;o9;pA;n90;o1;o2;o3;o4;pA;o5;o6;o7;o8;o9;pA;m300;o1;o2;o3;o4;o5;o6;o7;o8;o9;pA;n10;o1;o2;",
  "o3;o4;o5;o6;o7;o8;o9;n20;o1;o2;o3;o4;o5;o6;o7;o8;o9;pA;n30;o1;o2A;pB;pC;o3;o4;o5;o6;pA;pB;pC;",
  "o7;o8;o9;n40;o1;o2;o3;o4;o5;o6;o7;o8;o9;n50;o1;o2;o3;o4;o5;o6;o7;o8;o9;pA;n60;o1;o2;o3;o4;pA;",
  "o5;o6;o7;o8;pA;o9;n70;o1;pA;o2;o3;o4;o5;o6;o7;o8;o9;n80;o1;pA;o2;o3_RA_OR_RI;pA;o4;o5;o6;pA;o7;",
  "o8;o9;n90;o1;o2;o3_EIGHT;o4;o5;o6;o7;o8;o9;m400;o1;o2;o3;o4;o5;o6;o7;o8;o9;",
  "n10_BEGIN_LOGOGRAM_MARK;pA_END_LOGOGRAM_MARK;o1;o2;o3;o4;o5;o6;o7;o8;o9;n20;o1;o2;o3;o4;o5;o6;",
  "o7;o8;o9;n30;o1;o2;o3;o4;o5;o6;o7;o8;o9;n40;o1;o2;o3;o4;o5;o6;o7;o8;o9;n50;pA;o1;o2;o3;o4;o5;",
  "o6;o7;pA;o8;o9;n60;o1;o2;o3;o4;o5;o6;o7;o8;o9;n70;o1;o2;o3;o4;o5;o6;o7;o8;o9;n80;o1;o2;o3;o4;",
  "o5;o6;o7;o8;o9;n90;o1;o2;o3;o4;o5;o6;o7;m501;o2;o3;o4;o5;o6;o7;o8;o9;n10;o1;o2;o3;o4;o5;o6;o7;",
  "o8;o9;n20;o1;o2;o3;o4;o5;o6;o7;o8;o9;n30;>16800:0BAMUM_LETTER_PHASE-A_NGKUE_MFON;lGBIEE_FON;",
  "lPON_MFON_PIPAEMGBIEE;ABA;lNAA_MFON;lSHUENSHUET;lTITA_MFON;lNZA_MFON;lSHINDA_PA_NJI;",
  "lPON_PA_NJI_PIPAEMGBIEE;CBA;lMAEMBGBIEE;lTU_MAEMBA;lNGANGU;lMAEMVEUX;nNSUAE;mVEUAENGAM;",
  "lSEUNYAM;lNTOQPEN;lKEUKEUTNDA;lNKINDI;lSUU;lNGKUENZEUM;lLAPAQ;mET_KUT;lNTAP_MFAA;lMAEKEUP;",
  "lPASHAE;lGHEUAERAE;lPAMSHAE;lMON_NGGEUAET;lNZUN_MEUT;lU_YUQ_NAE;lGHEUAEGHEUAE;lNTAP_NTAA;lSISA;",
  "lMGBASA;mEUNJOMNDEUQ;mOOMPUQ;lKAFA;lPA_LEERAEWA;lNDA_LEERAEWA;lPET;lMAEMKPEN;lNIKA;lPUP;lTUAEP;",
  "lLUAEP;lSONJAM;lTEUTEUWEN;lMAENYI;lKET;lNDAANGGEUAET;lKUOQ;lMOOMEUT;lSHUM;lLOMMAE;lFIRI;lROM;",
  "lKPOQ;lSOQ;lMAP_PIEET;lSHIRAE;lNTAP;lSHOQ_NSHUT_YUM;lNYIT_MONGKEUAEQ;lPAARAE;lNKAARAE;lUNKNOWN;",
  "lNGGEN;lMAESI;lNJAM;lMBANYI;lNYET;lTEUAEN;lSOT;lPAAM;lNSHIEE;lMAEM;lNYI;lKAQ;lNSHA;lVEE;lLU;",
  "lNEN;mAQ;lMBAQ;jB_NSHUET;lTU_MAEMGBIEE;lSIEE;mET_TU;lLOM_NTEUM;lMBA_MAELEE;lKIEEM;lYEURAE;",
  "lMBAARAE;lKAM;lPEESHI;lYAFU_LEERAEWA;lLAM_NSHUT_NYAM;lNTIEE_SHEUOQ;mDU_NJAA;lGHEUGHEUAEM;lPIT;",
  "lTU_NSIEE;lSHET_NJAQ;oUAEQTU;lMFON_TEUAEQ;mBIT_MBAAKET;lNYI_NTEUM;lKEUPUQ;lGHEUGHEN;lKEUYEUX;",
  "lLAANAE;lPARUM;lVEUM;lNGKINDI_MVOP;nGEU_MBU;lWUAET;lSAKEUAE;lTAAM;lMEUQ;lNGGUOQ;r_LARGE;",
  "lMFIYAQ;lSUE;lMBEURI;mONTIEEN;lNYAEMAE;lPUNGAAM;lMEUT_NGGEET;lFEUX;lMBUOQ;lFEE;lKEUAEM;",
  "lMA_NJEUAENA;qUQA;lLET;lNGGAAM;mSEN;lMA;lKIQ;lNGOM;jC_NGKUE_MAEMBA;mZA;lYUM;lWANGKUOQ;lNGGEN;",
  "mDEUAEREE;mGKAQ;lGHARAE;lMBEEKEET;lGBAYI;lNYIR_MKPARAQ_MEUN;mTU_MBIT;lMBEUM;lPIRIEEN;lNDOMBU;",
  "lMBAA_CABBAGE-TREE;lKEUSHEUAEP;lGHAP;lKEUKAQ;lYU_MUOMAE;lNZEUM;lMBUE;lNSEUAEN;lMBIT;lYEUQ;",
  "lKPARAQ;mAA;lSEUX;lNDIDA;lTAASHAE;lNJUEQ;lTITA_YUE;lSUAET;lNGGUAEN_NYAM;lVEUX;lNANSANAQ;",
  "lMA_KEUAERI;lNTAA;mGGUON;lLAP;lMBIRIEEN;mGBASAQ;lNTEUNGBA;lTEUTEUX;lNGGUM;lFUE;lNDEUT;mSA;nHAQ;",
  "lBUNG;lVEUAEPEN;lMBERAE;lRU;lNJAEM;lLAM;lTITUAEP;lNSUOT_NGOM;mJEEEE;lKET;lNGGU;lMAESI;mBUAEM;",
  "lLU;lKUT;lNJAM;mGOM;lWUP;lNGGUEET;mSOM;mTEN;lKUOP_NKAARAE;lNSUN;mDAM;lMA_NSIEE;lYAA;lNDAP;",
  "lSHUEQ;mETFON;lMBI;mAEMBA;mBANYI;lKEUSEUX;lMBEUX;lKEUM;lMBAA_PICKET;lYUWOQ;lNJEUX;lMIEE;mUAE;",
  "lSHIQ;lKEN_LAW;pFATIGUE;lNGAQ;mAQ;lLIQ;lPIN;mEN;lTET;jD_MBUO;lWAP;lNJI;lMFON;lNJIEE;lLIEE;",
  "lNJEUT;mSHEE;mGGAAMAE;mYAM;lWUAEN;lNGKUN;lSHEE;lNGKAP;lKEUAETMEUN;lTEUT;lSHEUAE;lNJAP;lSUE;",
  "lKET;lYAEMMAE;lKUOM;lSAP;lMFEUT;lNDEUX;lMALEERI;mEUT;lSEUAEQ;lYEN;lNJEUAEM;lKEUOT_MBUAE;",
  "lNGKEURI;lTU;lGHAA;lNGKYEE;lFEUFEUAET;lNDEE;lMGBOFUM;lLEUAEP;lNDON;lMONI;mGBEUN;lPUUT;lMGBIEE;",
  "mFO;lLUM;lNSIEEP;lMBAA;lKWAET;lNYET;lTEUAEN;lSOT;lYUWOQ;lKEUM;lRAEM;lTEEEE;lNGKEUAEQ;lMFEUAE;",
  "lNSIEET;lKEUP;lPIP;mEUTAE;lNYUE;lLET;lNGGAAM;lMFIEE;lNGGWAEN;lYUOM;lPAP;lYUOP;lNDAM;mTEUM;",
  "lSUAE;lKUN;lNGGEUX;nKIEE;lTUOT;lMEUN;lKUQ;lNSUM;lTEUN;lMAENJET;lNGGAP;lLEUM;lNGGUOM;mSHUT;",
  "mJUEQ;lGHEUAE;lKU;lREN_OLD;lTAE;mOQ;lNYI;lRII;lLEEEE;lMEEEE;m;lSUU;lMU;lSHII;nEUX;lKYEE;lNU;",
  "lSHU;lNTEE;lPEE;lNI;lSHOQ;lPUQ;lMVOP;lLOQ;lREN_MUCH;lTI;lNTUU;lMBAA_SEVEN;lSAQ;lFAA;jE_NDAP;",
  "lTOON;lMBEUM;lLAP;lVOM;lLOON;lPAA;lSOM;lRAQ;lNSHUOP;mDUN;lPUAE;lTAM;lNGKA;lKPEUX;lWUO;lSEE;",
  "lNGGEUAET;lPAAM;lTOO;lKUOP;lLOM;lNSHIEE;mGOP;lMAEM;lNGKEUX;nOQ;mSHUE;lRIMGBA;lNJEUX;lPEEM;lSAA;",
  "lNGGURAE;lMGBA;lGHEUX;lNGKEUAEM;mJAEMLI;lMAP;lLOOT;lNGGEEEE;mDIQ;lTAEN_NTEUM;lSET;lPUM;",
  "lNDAA_SOFTNESS;mGGUAESHAE_NYAM;lYIEE;lGHEUN;lTUAE;lYEUAE;lPO;lTUMAE;lKEUAE;lSUAEN;lTEUAEQ;",
  "lVEUAE;lWEUX;lLAAM;lPU;lTAAQ;lGHAAMAE;lNGEUREUT;lSHEUAEQ;lMGBEN;mBEE;lNZAQ;mKOM;lGBET;lTUM;",
  "lKUET;lYAP;lNYI_CLEAVER;lYIT;lMFEUQ;lNDIAQ;lPIEEQ;lYUEQ;lLEUAEM;lFUE;lGBEUX;lNGKUP;lKET;lMAE;",
  "lNGKAAMI;lGHET;lFA;lNTUM;lPEUT;lYEUM;lNGGEUAE;mYI_BETWEEN;mZUQ;lPOON;lMIEE;lFUET;lNAE;lMUAE;",
  "lGHEUAE;lFU_I;lMVI;lPUAQ;lNGKUM;lKUT;lPIET;lNTAP;lYEUAET;lNGGUP;lPA_PEOPLE;lFU_CALL;mOM;lNJEE;",
  "lA;lTOQ;lO;lI;lLAQ;lPA_PLURAL;lTAA;nQ;lNDAA_MY_HOUSE;lSHIQ;lYEUX;lNGUAE;lYUAEN;mOQ_SWIMMING;",
  "pCOVER;mUQ;nN;lKEUX;lPEUX;lNJEE_EPOCH;lPUE;lWUE;lFEE;lVEE;lLU;lMI;lREUX;mAE;lNGUAET;nA;lSHO;oQ;",
  "lFU_REMEDY;lNA;lPI;lLOQ;lKO;lMEN;mA;nQ;lTEU;lKI;lMON;lTEN;lFAQ;lGHOM;jF_KA;lU;lKU;lEE;lREE;",
  "lTAE;lNYI;lLA;lRII;nEE;lMEEEE;lTAA;lNDAA;mJAEM;lM;lSUU;mHII;mI;mEUX;lKYEE;mET;lNUAE;n;mJUAE;",
  "lYOQ;lSHU;lYA;lNSHA;lPEUX;lNTEE;lWUE;lPEE;lRU;lNI;lREUX;lKEN;lNGKWAEN;nGA;lSHO;lPUAE;lFOM;lWA;",
  "lLI;mOQ;lKO;lMBEN;lREN;lMA;mO;mBAA;lTET;lKPA;lSAMBA;lVUEQ;>16A40:0MRO_LETTER_TA;bNGI;bYO;bMIM;",
  "bBA;bDA;bA;bPHI;bKHAI;bHAO;bDAI;bCHU;bKEAAE;bOL;bMAEM;bNIN;bPA;bOO;c;bRO;bSHI;bTHEA;bEA;bWA;bE;",
  "bKO;bLAN;d;bHAI;bRI;bTEK;>16A60:4DIGIT_ZERO;aONE;aTWO;bHREE;aFOUR;bIVE;aSIX;bEVEN;aEIGHT;aNINE;",
  ">16A6E:5ANDA;5OUBLE_DANDA;0TANGSA_LETTER_OZ;fC;fQ;fX;eAZ;fC;fQ;fX;eVZ;fC;fQ;fX;eEZ;fC;fQ;fX;",
  "eIZ;fC;fQ;fX;eUZ;fC;fQ;fX;eAWZ;gC;gQ;gX;eUIZ;gC;gQ;gX;eFINAL_NG;eLONG_UEX;eSHORT_UEZ;kAWX;eUEC;",
  "gZ;gQ;gX;fIUZ;hC;hQ;hX;eMZ;fC;fQ;fX;eKA;fHA;eGA;eNGA;eSA;eYA;eWA;ePA;eNYA;ePHA;eBA;eMA;eNA;eHA;",
  "eLA;eHTA;eTA;eDA;eRA;eNHA;eSHA;eCA;eTSA;eGHA;eHTTA;eTHA;eXA;eFA;eDHA;eCHA;eZA;",
  ">16AC0:7DIGIT_ZERO;dONE;dTWO;eHREE;dFOUR;eIVE;dSIX;eEVEN;dEIGHT;dNINE;",
  ">16AD0:0BASSA_VAH_LETTER_ENNI;hKA;hSE;hFA;hMBE;hYIE;hGAH;hDHII;hKPAH;hJO;hHWAH;hWA;hZO;hGBU;",
  "hDO;hCE;hUWU;hTO;hBA;hVU;hYEIN;hPA;hWADDA;hA;hO;iO;hU;hEE;i;hI;>16AF0:aCOMBINING_HIGH_TONE;"]

end Milp.Text.CharacterName
