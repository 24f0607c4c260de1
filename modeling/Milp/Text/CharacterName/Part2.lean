set_option autoImplicit false

/-! # Names of the characters from U+0E07 to U+204A

The names that Unicode 14 gives them, in the form that `Milp.Text.CharacterName` reads. -/

namespace Milp.Text.CharacterName

/-- Names from U+0E07 to U+204A. -/
def part2 : List String := [
  ">E07:0THAI_CHARACTER_NGO_NGU;fCHO_CHAN;lING;lANG;fSO_SO;fCHO_CHOE;fYO_YING;fDO_CHADA;fTO_PATAK;",
  "gHO_THAN;jNANGMONTHO;jPHUTHAO;fNO_NEN;fDO_DEK;fTO_TAO;gHO_THUNG;lAHAN;lONG;fNO_NU;fBO_BAIMAI;",
  "fPO_PLA;gHO_PHUNG;fFO_FA;fPHO_PHAN;fFO_FAN;fPHO_SAMPHAO;fMO_MA;fYO_YAK;fRO_RUA;gU;fLO_LING;gU;",
  "fWO_WAEN;fSO_SALA;iRUSI;iSUA;fHO_HIP;fLO_CHULA;fO_ANG;fHO_NOKHUK;fPAIYANNOI;fSARA_A;",
  "fMAI_HAN-AKAT;fSARA_AA;lM;kI;lI;kUE;mE;l;lU;fPHINTHU;>E3F:6URRENCY_SYMBOL_BAHT;",
  "6HARACTER_SARA_E;kAE;kO;kAI_MAIMUAN;rALAI;fLAKKHANGYAO;fMAIYAMOK;iTAIKHU;i_EK;jTHO;kRI;",
  "jCHATTAWA;fTHANTHAKHAT;fNIKHAHIT;fYAMAKKAN;fFONGMAN;5DIGIT_ZERO;bONE;bTWO;cHREE;bFOUR;cIVE;",
  "bSIX;cEVEN;bEIGHT;bNINE;5CHARACTER_ANGKHANKHU;fKHOMUT;>E81:0LAO_LETTER_KO;cHO_SUNG;>E84:fTAM;",
  ">E86:bPALI_GHA;bNGO;bCO;bPALI_CHA;bSO_TAM;>E8C:bPALI_JHA;bNYO;bPALI_NYA;gTTA;iHA;gDDA;iHA;gNNA;",
  "bDO;bTO;cHO_SUNG;fTAM;bPALI_DHA;bNO;bBO;bPO;cHO_SUNG;bFO_TAM;bPHO_TAM;bFO_SUNG;bPALI_BHA;bMO;",
  "bYO;bLO_LING;>EA5:fOOT;>EA7:bWO;bSANSKRIT_SHA;lSA;cO_SUNG;bHO_SUNG;bPALI_LLA;bO;bHO_TAM;",
  "4ELLIPSIS;4VOWEL_SIGN_A;fMAI_KAN;fAA;gM;fI;gI;fY;gY;fU;gU;4SIGN_PALI_VIRAMA;",
  "4VOWEL_SIGN_MAI_KON;4SEMIVOWEL_SIGN_LO;jNYO;>EC0:4VOWEL_SIGN_E;gI;fO;fAY;gI;>EC6:4KO_LA;",
  ">EC8:4TONE_MAI_EK;dTHO;eI;dCATAWA;4CANCELLATION_MARK;4NIGGAHITA;>ED0:4DIGIT_ZERO;aONE;aTWO;",
  "bHREE;aFOUR;bIVE;aSIX;bEVEN;aEIGHT;aNINE;>EDC:4HO_NO;7MO;4LETTER_KHMU_GO;gNYO;",
  ">F00:0TIBETAN_SYLLABLE_OM;8MARK_GTER_YIG_MGO_TRUNCATED_A;q-UM_RNAM_BCAD_MA;uGTER_TSHEG_MA;",
  "dINITIAL_YIG_MGO_MDUN_MA;dCLOSING_YIG_MGO_SGAB_MA;eARET_YIG_MGO_PHUR_SHAD_MA;",
  "dYIG_MGO_TSHEG_SHAD_MA;dSBRUL_SHAD;dBSKUR_YIG_MGO;eKA-_SHOG_YIG_MGO;dINTERSYLLABIC_TSHEG;",
  "dDELIMITER_TSHEG_BSTAR;dSHAD;dNYIS_SHAD;dTSHEG_SHAD;dNYIS_TSHEG_SHAD;dRIN_CHEN_SPUNGS_SHAD;",
  "eGYA_GRAM_SHAD;dCARET_-DZUD_RTAGS_ME_LONG_CAN;dGTER_TSHEG;8LOGOTYPE_SIGN_CHAD_RTAGS;",
  "mLHAG_RTAGS;8ASTROLOGICAL_SIGN_SGRA_GCAN_-CHAR_RTAGS;q-KHYUD_PA;qSDONG_TSHUGS;",
  "8SIGN_RDEL_DKAR_GCIG;oNYIS;oSUM;iNAG_GCIG;nNYIS;iDKAR_RDEL_NAG;8DIGIT_ZERO;eONE;eTWO;fHREE;",
  "eFOUR;fIVE;eSIX;fEVEN;eEIGHT;eNINE;eHALF_ONE;jTWO;kHREE;jFOUR;kIVE;jSIX;kEVEN;jEIGHT;jNINE;",
  "jZERO;8MARK_BSDUS_RTAGS;dNGAS_BZUNG_NYI_ZLA;dCARET_-DZUD_RTAGS_BZHI_MIG_CAN;",
  "dNGAS_BZUNG_SGOR_RTAGS;dCHE_MGO;dTSA_-PHRU;dGUG_RTAGS_GYON;pAS;dANG_KHANG_GYON;pAS;",
  "8SIGN_YAR_TSHES;dMAR_TSHES;8LETTER_KA;gHA;fGA;gHA;fNGA;fCA;gHA;fJA;>F49:fNYA;fTTA;hHA;fDDA;hHA;",
  "fNNA;fTA;gHA;fDA;gHA;fNA;fPA;gHA;fBA;gHA;fMA;fTSA;hHA;fDZA;hHA;fWA;fZHA;gA;f-A;fYA;fRA;fLA;",
  "fSHA;gSA;gA;fHA;fA;fKSSA;fFIXED-FORM_RA;fKKA;fRRA;>F71:8VOWEL_SIGN_AA;jI;kI;jU;kU;jVOCALIC_R;",
  "sR;rL;sL;jE;kE;jO;kO;8SIGN_RJES_SU_NGA_RO;eNAM_BCAD;8VOWEL_SIGN_REVERSED_I;tI;",
  "8SIGN_NYI_ZLA_NAA_DA;dSNA_LDAN;8MARK_HALANTA;dPALUTA;8SIGN_LCI_RTAGS;dYANG_RTAGS;dLCE_TSA_CAN;",
  "dMCHU_CAN;dGRU_CAN_RGYINGS;hMED_RGYINGS;dINVERTED_MCHU_CAN;9UBJOINED_SIGN_LCE_TSA_CAN;",
  "nMCHU_CAN;nINVERTED_MCHU_CAN;iLETTER_KA;qHA;pGA;qHA;pNGA;pCA;qHA;pJA;>F99:pNYA;pTTA;rHA;pDDA;",
  "rHA;pNNA;pTA;qHA;pDA;qHA;pNA;pPA;qHA;pBA;qHA;pMA;pTSA;rHA;pDZA;rHA;pWA;pZHA;qA;p-A;pYA;pRA;pLA;",
  "pSHA;qSA;qA;pHA;pA;pKSSA;pFIXED-FORM_WA;AYA;ARA;>FBE:8KU_RU_KHA;h_BZHI_MIG_CAN;",
  "8CANTILLATION_SIGN_HEAVY_BEAT;qLIGHT_BEAT;qCANG_TE-U;qSBUB_-CHAL;8SYMBOL_DRIL_BU;fRDO_RJE;",
  "fPADMA_GDAN;fRDO_RJE_RGYA_GRAM;fPHUR_PA;fNOR_BU;l_NYIS_-KHYIL;mGSUM_-KHYIL;mBZHI_-KHYIL;",
  ">FCE:9IGN_RDEL_NAG_RDEL_DKAR;mGSUM;8MARK_BSKA-_SHOG_GI_MGO_RGYAN;dMNYAM_YIG_GI_MGO_RGYAN;",
  "dNYIS_TSHEG;dINITIAL_BRDA_RNYING_YIG_MGO_MDUN_MA;dCLOSING_BRDA_RNYING_YIG_MGO_SGAB_MA;",
  "0RIGHT-FACING_SVASTI_SIGN;0LEFT-FACING_SVASTI_SIGN;0RIGHT-FACING_SVASTI_SIGN_WITH_DOTS;",
  "0LEFT-FACING_SVASTI_SIGN_WITH_DOTS;0TIBETAN_MARK_LEADING_MCHAN_RTAGS;dTRAILING_MCHAN_RTAGS;",
  ">1000:0MYANMAR_LETTER_KA;gHA;fGA;gHA;fNGA;fCA;gHA;fJA;gHA;fNYA;gNYA;fTTA;hHA;fDDA;hHA;fNNA;fTA;",
  "gHA;fDA;gHA;fNA;fPA;gHA;fBA;gHA;fMA;fYA;fRA;fLA;fWA;fSA;fHA;fLLA;fA;fSHAN_A;fI;gI;fU;gU;fE;",
  "fMON_E;fO;fAU;8VOWEL_SIGN_TALL_AA;jAA;jI;kI;jU;kU;jE;jAI;jMON_II;nO;jE_ABOVE;8SIGN_ANUSVARA;",
  "dDOT_BELOW;dVISARGA;fRAMA;dASAT;8CONSONANT_SIGN_MEDIAL_YA;uRA;uWA;uHA;8LETTER_GREAT_SA;",
  "8DIGIT_ZERO;eONE;eTWO;fHREE;eFOUR;fIVE;eSIX;fEVEN;eEIGHT;eNINE;8SIGN_LITTLE_SECTION;dSECTION;",
  "9YMBOL_LOCATIVE;fCOMPLETED;fAFOREMENTIONED;fGENITIVE;8LETTER_SHA;gSA;fVOCALIC_R;oR;nL;oL;",
  "8VOWEL_SIGN_VOCALIC_R;sR;rL;sL;8LETTER_MON_NGA;jJHA;jBBA;lE;8CONSONANT_SIGN_MON_MEDIAL_NA;yMA;",
  "yLA;8LETTER_SGAW_KAREN_SHA;8VOWEL_SIGN_SGAW_KAREN_EU;8TONE_MARK_SGAW_KAREN_HATHI;tKE_PHO;",
  "8LETTER_WESTERN_PWO_KAREN_THA;xPWA;8VOWEL_SIGN_WESTERN_PWO_KAREN_EU;BUE;",
  "8SIGN_WESTERN_PWO_KAREN_TONE-1;A2;A3;A4;A5;8LETTER_EASTERN_PWO_KAREN_NNA;xYWA;xGHWA;",
  "8VOWEL_SIGN_GEBA_KAREN_I;jKAYAH_OE;pU;pEE;8LETTER_SHAN_KA;lHA;kGA;kCA;kZA;kNYA;kDA;kNA;kPHA;",
  "kFA;kBA;kTHA;kHA;8CONSONANT_SIGN_SHAN_MEDIAL_WA;8VOWEL_SIGN_SHAN_AA;oE;p_ABOVE;oFINAL_Y;",
  "8SIGN_SHAN_TONE-2;n3;n5;n6;iCOUNCIL_TONE-2;v3;qEMPHATIC_TONE;8LETTER_RUMAI_PALAUNG_FA;",
  "8SIGN_RUMAI_PALAUNG_TONE-5;9HAN_DIGIT_ZERO;jONE;jTWO;kHREE;jFOUR;kIVE;jSIX;kEVEN;jEIGHT;jNINE;",
  "9IGN_KHAMTI_TONE-1;p3;8VOWEL_SIGN_AITON_A;qI;8SYMBOL_SHAN_ONE;kEXCLAMATION;",
  "0GEORGIAN_CAPITAL_LETTER_AN;oBAN;oGAN;oDON;oEN;oVIN;oZEN;oTAN;oIN;oKAN;oLAS;oMAN;oNAR;oON;oPAR;",
  "oZHAR;oRAE;oSAN;oTAR;oUN;oPHAR;oKHAR;oGHAN;oQAR;oSHIN;oCHIN;pAN;oJIL;oCIL;pHAR;oXAN;oJHAN;oHAE;",
  "pE;pIE;oWE;oHAR;pOE;>10C7:oYN;>10CD:oAEN;>10D0:9LETTER_AN;gBAN;gGAN;gDON;gEN;gVIN;gZEN;gTAN;",
  "gIN;gKAN;gLAS;gMAN;gNAR;gON;gPAR;gZHAR;gRAE;gSAN;gTAR;gUN;gPHAR;gKHAR;gGHAN;gQAR;gSHIN;gCHIN;",
  "hAN;gJIL;gCIL;hHAR;gXAN;gJHAN;gHAE;hE;hIE;gWE;gHAR;hOE;gFI;gYN;gELIFI;gTURNED_GAN;gAIN;",
  "9PARAGRAPH_SEPARATOR;0MODIFIER_LETTER_GEORGIAN_NAR;0GEORGIAN_LETTER_AEN;gHARD_SIGN;",
  "gLABIAL_SIGN;0HANGUL_CHOSEONG_KIYEOK;gSSANGKIYEOK;gNIEUN;gTIKEUT;gSSANGTIKEUT;gRIEUL;gMIEUM;",
  "gPIEUP;gSSANGPIEUP;hIOS;hSANGSIOS;gIEUNG;gCIEUC;gSSANGCIEUC;gCHIEUCH;gKHIEUKH;gTHIEUTH;",
  "gPHIEUPH;gHIEUH;gNIEUN-KIYEOK;gSSANGNIEUN;gNIEUN-TIKEUT;mPIEUP;gTIKEUT-KIYEOK;gRIEUL-NIEUN;",
  "gSSANGRIEUL;gRIEUL-HIEUH;gKAPYEOUNRIEUL;gMIEUM-PIEUP;gKAPYEOUNMIEUM;gPIEUP-KIYEOK;mNIEUN;",
  "mTIKEUT;mSIOS;q-KIYEOK;rTIKEUT;rPIEUP;nSANGSIOS;nIOS-CIEUC;mCIEUC;nHIEUCH;mTHIEUTH;mPHIEUPH;",
  "gKAPYEOUNPIEUP;oSSANGPIEUP;gSIOS-KIYEOK;lNIEUN;lTIKEUT;lRIEUL;lMIEUM;lPIEUP;q-KIYEOK;",
  "lSSANGSIOS;lIEUNG;lCIEUC;mHIEUCH;lKHIEUKH;lTHIEUTH;lPHIEUPH;lHIEUH;gCHITUEUMSIOS;pSANGSIOS;",
  "hEONGCHIEUMSIOS;sSANGSIOS;gPANSIOS;gIEUNG-KIYEOK;mTIKEUT;mMIEUM;mPIEUP;mSIOS;mPANSIOS;",
  "gSSANGIEUNG;gIEUNG-CIEUC;nHIEUCH;mTHIEUTH;mPHIEUPH;gYESIEUNG;gCIEUC-IEUNG;hHITUEUMCIEUC;",
  "oSSANGCIEUC;hEONGCHIEUMCIEUC;rSSANGCIEUC;hHIEUCH-KHIEUKH;oHIEUH;jTUEUMCHIEUCH;",
  "hEONGCHIEUMCHIEUCH;gPHIEUPH-PIEUP;gKAPYEOUNPHIEUPH;gSSANGHIEUH;gYEORINHIEUH;gKIYEOK-TIKEUT;",
  "gNIEUN-SIOS;mCIEUC;mHIEUH;gTIKEUT-RIEUL;gFILLER;7JUNGSEONG_FILLER;hA;iE;hYA;jE;hEO;i;hYEO;j;hO;",
  "hWA;jE;hOE;hYO;hU;hWEO;j;iI;hYU;hEU;hYI;hI;hA-O;jU;hYA-O;kYO;hEO-O;kU;kEU;hYEO-O;lU;hO-EO;k;",
  "jYE;jO;jU;hYO-YA;mE;lEO;kO;kI;hU-A;kE;jEO-EU;jYE;jU;hYU-A;kEO;l;kYEO;m;kU;kI;hEU-U;kEU;hYI-U;",
  "hI-A;jYA;jO;jU;jEU;jARAEA;hARAEA;m-EO;nU;nI;hSSANGARAEA;hA-EU;hYA-U;iEO-YA;hO-YA;lE;",
  "8ONGSEONG_KIYEOK;hSSANGKIYEOK;hKIYEOK-SIOS;hNIEUN;m-CIEUC;nHIEUH;hTIKEUT;hRIEUL;m-KIYEOK;",
  "nMIEUM;nPIEUP;nSIOS;nTHIEUTH;nPHIEUPH;nHIEUH;hMIEUM;hPIEUP;m-SIOS;hSIOS;iSANGSIOS;hIEUNG;",
  "hCIEUC;iHIEUCH;hKHIEUKH;hTHIEUTH;hPHIEUPH;hHIEUH;hKIYEOK-RIEUL;oSIOS-KIYEOK;hNIEUN-KIYEOK;",
  "nTIKEUT;nSIOS;nPANSIOS;nTHIEUTH;hTIKEUT-KIYEOK;oRIEUL;hRIEUL-KIYEOK-SIOS;nNIEUN;nTIKEUT;",
  "t-HIEUH;hSSANGRIEUL;hRIEUL-MIEUM-KIYEOK;tSIOS;nPIEUP-SIOS;tHIEUH;nKAPYEOUNPIEUP;nSSANGSIOS;",
  "nPANSIOS;nKHIEUKH;nYEORINHIEUH;hMIEUM-KIYEOK;nRIEUL;nPIEUP;nSIOS;oSANGSIOS;nPANSIOS;nCHIEUCH;",
  "nHIEUH;hKAPYEOUNMIEUM;hPIEUP-RIEUL;nPHIEUPH;nHIEUH;hKAPYEOUNPIEUP;hSIOS-KIYEOK;mTIKEUT;mRIEUL;",
  "mPIEUP;hPANSIOS;hIEUNG-KIYEOK;nSSANGKIYEOK;hSSANGIEUNG;hIEUNG-KHIEUKH;hYESIEUNG;p-SIOS;",
  "qPANSIOS;hPHIEUPH-PIEUP;hKAPYEOUNPHIEUPH;hHIEUH-NIEUN;nRIEUL;nMIEUM;nPIEUP;hYEORINHIEUH;",
  "hKIYEOK-NIEUN;oPIEUP;oCHIEUCH;oKHIEUKH;oHIEUH;hSSANGNIEUN;0ETHIOPIC_SYLLABLE_HA;jU;jI;jAA;jEE;",
  "k;jO;kA;iLA;jU;jI;jAA;jEE;k;jO;jWA;iHHA;kU;kI;kAA;kEE;l;kO;kWA;iMA;jU;jI;jAA;jEE;k;jO;jWA;iSZA;",
  "kU;kI;kAA;kEE;l;kO;kWA;iRA;jU;jI;jAA;jEE;k;jO;jWA;iSA;jU;jI;jAA;jEE;k;jO;jWA;jHA;kU;kI;kAA;kEE;",
  "l;kO;kWA;iQA;jU;jI;jAA;jEE;k;jO;kA;jWA;>124A:kI;kAA;kEE;l;>1250:jHA;kU;kI;kAA;kEE;l;kO;",
  ">1258:kWA;>125A:lI;lAA;lEE;m;>1260:iBA;jU;jI;jAA;jEE;k;jO;jWA;iVA;jU;jI;jAA;jEE;k;jO;jWA;iTA;",
  "jU;jI;jAA;jEE;k;jO;jWA;iCA;jU;jI;jAA;jEE;k;jO;jWA;iXA;jU;jI;jAA;jEE;k;jO;kA;jWA;>128A:kI;kAA;",
  "kEE;l;>1290:iNA;jU;jI;jAA;jEE;k;jO;jWA;jYA;kU;kI;kAA;kEE;l;kO;kWA;iGLOTTAL_A;qU;qI;qAA;qEE;r;",
  "qO;qWA;iKA;jU;jI;jAA;jEE;k;jO;kA;jWA;>12B2:kI;kAA;kEE;l;>12B8:jXA;kU;kI;kAA;kEE;l;kO;>12C0:kWA;",
  ">12C2:lI;lAA;lEE;m;>12C8:iWA;jU;jI;jAA;jEE;k;jO;kA;iPHARYNGEAL_A;tU;tI;tAA;tEE;u;tO;>12D8:iZA;",
  "jU;jI;jAA;jEE;k;jO;jWA;jHA;kU;kI;kAA;kEE;l;kO;kWA;iYA;jU;jI;jAA;jEE;k;jO;kA;iDA;jU;jI;jAA;jEE;",
  "k;jO;jWA;jDA;kU;kI;kAA;kEE;l;kO;kWA;iJA;jU;jI;jAA;jEE;k;jO;jWA;iGA;jU;jI;jAA;jEE;k;jO;kA;jWA;",
  ">1312:kI;kAA;kEE;l;>1318:jGA;kU;kI;kAA;kEE;l;kO;kWAA;iTHA;kU;kI;kAA;kEE;l;kO;kWA;iCHA;kU;kI;",
  "kAA;kEE;l;kO;kWA;iPHA;kU;kI;kAA;kEE;l;kO;kWA;iTSA;kU;kI;kAA;kEE;l;kO;kWA;jZA;kU;kI;kAA;kEE;l;",
  "kO;lA;iFA;jU;jI;jAA;jEE;k;jO;jWA;iPA;jU;jI;jAA;jEE;k;jO;jWA;iRYA;iMYA;iFYA;",
  ">135D:9COMBINING_GEMINATION_AND_VOWEL_LENGTH_MARK;jVOWEL_LENGTH_MARK;jGEMINATION_MARK;",
  "9SECTION_MARK;9WORDSPACE;9FULL_STOP;9COMMA;9SEMICOLON;9COLON;9PREFACE_COLON;9QUESTION_MARK;",
  "9PARAGRAPH_SEPARATOR;9DIGIT_ONE;fTWO;gHREE;fFOUR;gIVE;fSIX;gEVEN;fEIGHT;fNINE;9NUMBER_TEN;",
  "hWENTY;hHIRTY;gFORTY;hIFTY;gSIXTY;hEVENTY;gEIGHTY;gNINETY;gHUNDRED;gTEN_THOUSAND;",
  ">1380:9SYLLABLE_SEBATBEIT_MWA;iMWI;kEE;l;iSEBATBEIT_BWA;iBWI;kEE;l;iSEBATBEIT_FWA;iFWI;kEE;l;",
  "iSEBATBEIT_PWA;iPWI;kEE;l;9TONAL_MARK_YIZET;kDERET;kRIKRIK;kSHORT_RIKRIK;kDIFAT;kKENAT;kCHIRET;",
  "kHIDET;kDERET-HIDET;kKURT;>13A0:0CHEROKEE_LETTER_A;gE;gI;gO;gU;gV;gGA;gKA;gGE;hI;hO;hU;hV;gHA;",
  "hE;hI;hO;hU;hV;gLA;hE;hI;hO;hU;hV;gMA;hE;hI;hO;hU;gNA;gHNA;gNAH;hE;hI;hO;hU;hV;gQUA;iE;iI;iO;",
  "iU;iV;gSA;h;hE;hI;hO;hU;hV;gDA;gTA;gDE;gTE;gDI;gTI;gDO;hU;hV;hLA;gTLA;iE;iI;iO;iU;iV;hSA;iE;iI;",
  "iO;iU;iV;gWA;hE;hI;hO;hU;hV;gYA;hE;hI;hO;hU;hV;gMV;>13F8:9SMALL_LETTER_YE;nI;nO;nU;nV;mMV;",
  ">1400:1ANADIAN_SYLLABICS_HYPHEN;jE;jAAI;jI;kI;jO;kO;jY-CREE_OO;jCARRIER_EE;rI;jA;kA;jWE;",
  "lST-CREE_WE;kI;kEST-CREE_WI;kII;kEST-CREE_WII;kO;kEST-CREE_WO;kOO;kEST-CREE_WOO;jNASKAPI_WOO;",
  "jWA;kEST-CREE_WA;kAA;kEST-CREE_WAA;jNASKAPI_WAA;jAI;jY-CREE_W;jGLOTTAL_STOP;jFINAL_ACUTE;",
  "pGRAVE;pBOTTOM_HALF_RING;pTOP_HALF_RING;pRIGHT_HALF_RING;rNG;pDOUBLE_ACUTE;",
  "wSHORT_VERTICAL_STROKES;pMIDDLE_DOT;pSHORT_HORIZONTAL_STROKE;pPLUS;pDOWN_TACK;jEN;jIN;jON;jAN;",
  "jPE;kAAI;kI;lI;kO;lO;jY-CREE_POO;jCARRIER_HEE;sI;jPA;lA;kWE;jWEST-CREE_PWE;jPWI;jWEST-CREE_PWI;",
  "jPWII;jWEST-CREE_PWII;jPWO;jWEST-CREE_PWO;jPWOO;jWEST-CREE_PWOO;jPWA;jWEST-CREE_PWA;jPWAA;",
  "jWEST-CREE_PWAA;jY-CREE_PWAA;jP;jWEST-CREE_P;jCARRIER_H;jTE;kAAI;kI;lI;kO;lO;jY-CREE_TOO;",
  "jCARRIER_DEE;sI;jTA;lA;kWE;jWEST-CREE_TWE;jTWI;jWEST-CREE_TWI;jTWII;jWEST-CREE_TWII;jTWO;",
  "jWEST-CREE_TWO;jTWOO;jWEST-CREE_TWOO;jTWA;jWEST-CREE_TWA;jTWAA;jWEST-CREE_TWAA;jNASKAPI_TWAA;",
  "jT;kTE;lI;lO;lA;jKE;kAAI;kI;lI;kO;lO;jY-CREE_KOO;jKA;lA;kWE;jWEST-CREE_KWE;jKWI;jWEST-CREE_KWI;",
  "jKWII;jWEST-CREE_KWII;jKWO;jWEST-CREE_KWO;jKWOO;jWEST-CREE_KWOO;jKWA;jWEST-CREE_KWA;jKWAA;",
  "jWEST-CREE_KWAA;jNASKAPI_KWAA;jK;kW;jSOUTH-SLAVEY_KEH;xIH;xOH;xAH;jCE;kAAI;kI;lI;kO;lO;",
  "jY-CREE_COO;jCA;lA;kWE;jWEST-CREE_CWE;jCWI;jWEST-CREE_CWI;jCWII;jWEST-CREE_CWII;jCWO;",
  "jWEST-CREE_CWO;jCWOO;jWEST-CREE_CWOO;jCWA;jWEST-CREE_CWA;jCWAA;jWEST-CREE_CWAA;jNASKAPI_CWAA;",
  "jC;jSAYISI_TH;jME;kAAI;kI;lI;kO;lO;jY-CREE_MOO;jMA;lA;kWE;jWEST-CREE_MWE;jMWI;jWEST-CREE_MWI;",
  "jMWII;jWEST-CREE_MWII;jMWO;jWEST-CREE_MWO;jMWOO;jWEST-CREE_MWOO;jMWA;jWEST-CREE_MWA;jMWAA;",
  "jWEST-CREE_MWAA;jNASKAPI_MWAA;jM;jWEST-CREE_M;jMH;jATHAPASCAN_M;jSAYISI_M;jNE;kAAI;kI;lI;kO;lO;",
  "jY-CREE_NOO;jNA;lA;kWE;jWEST-CREE_NWE;jNWA;jWEST-CREE_NWA;jNWAA;jWEST-CREE_NWAA;jNASKAPI_NWAA;",
  "k;jCARRIER_NG;jNH;jLE;kAAI;kI;lI;kO;lO;jY-CREE_LOO;jLA;lA;kWE;jWEST-CREE_LWE;jLWI;",
  "jWEST-CREE_LWI;jLWII;jWEST-CREE_LWII;jLWO;jWEST-CREE_LWO;jLWOO;jWEST-CREE_LWOO;jLWA;",
  "jWEST-CREE_LWA;jLWAA;jWEST-CREE_LWAA;jL;jWEST-CREE_L;jMEDIAL_L;jSE;kAAI;kI;lI;kO;lO;",
  "jY-CREE_SOO;jSA;lA;kWE;jWEST-CREE_SWE;jSWI;jWEST-CREE_SWI;jSWII;jWEST-CREE_SWII;jSWO;",
  "jWEST-CREE_SWO;jSWOO;jWEST-CREE_SWOO;jSWA;jWEST-CREE_SWA;jSWAA;jWEST-CREE_SWAA;jNASKAPI_SWAA;",
  "jS;jATHAPASCAN_S;jSW;jBLACKFOOT_S;jMOOSE-CREE_SK;jNASKAPI_SKW;s-W;sPWA;sTWA;sKWA;sCWA;jSHE;lI;",
  "mI;lO;mO;lA;mA;lWE;jWEST-CREE_SHWE;jSHWI;jWEST-CREE_SHWI;jSHWII;jWEST-CREE_SHWII;jSHWO;",
  "jWEST-CREE_SHWO;jSHWOO;jWEST-CREE_SHWOO;jSHWA;jWEST-CREE_SHWA;jSHWAA;jWEST-CREE_SHWAA;jSH;jYE;",
  "kAAI;kI;lI;kO;lO;k-CREE_YOO;kA;lA;kWE;jWEST-CREE_YWE;jYWI;jWEST-CREE_YWI;jYWII;jWEST-CREE_YWII;",
  "jYWO;jWEST-CREE_YWO;jYWOO;jWEST-CREE_YWOO;jYWA;jWEST-CREE_YWA;jYWAA;jWEST-CREE_YWAA;",
  "jNASKAPI_YWAA;jY;jBIBLE-CREE_Y;jWEST-CREE_Y;jSAYISI_YI;jRE;k-CREE_RE;jWEST-CREE_LE;jRAAI;kI;lI;",
  "kO;lO;jWEST-CREE_LO;jRA;lA;jWEST-CREE_LA;jRWAA;jWEST-CREE_RWAA;jR;jWEST-CREE_R;jMEDIAL_R;jFE;",
  "kAAI;kI;lI;kO;lO;kA;lA;kWAA;jWEST-CREE_FWAA;jF;jTHE;jN-CREE_THE;jTHI;jN-CREE_THI;jTHII;",
  "jN-CREE_THII;jTHO;mO;lA;mA;lWAA;jWEST-CREE_THWAA;jTH;kTHE;mI;mO;mA;m;kYE;lI;lO;lA;jNUNAVIK_HE;",
  "sI;tI;sO;tO;sA;tA;s;oUT_H;jHK;jQAAI;kI;lI;kO;lO;kA;lA;k;jTLHE;mI;mO;mA;jWEST-CREE_RE;uI;uO;uA;",
  "jNGAAI;lI;mI;lO;mO;lA;mA;l;kNG;jSAYISI_SHE;sI;sO;sA;jWOODS-CREE_THE;wI;wO;wA;w;jLHI;mI;lO;mO;",
  "lA;mA;l;jTH-CREE_THE;tI;uI;tO;uO;tA;uA;t;jAIVILIK_B;jBLACKFOOT_E;tI;tO;tA;tWE;uI;uO;uA;tNE;uI;",
  "uO;uA;tKE;uI;uO;uA;jSAYISI_HE;rI;rO;rA;jCARRIER_GHU;tO;tE;uE;tI;tA;rRU;sO;sE;tE;sI;sA;rWU;sO;",
  "sE;tE;sI;sA;rHWU;tO;tE;uE;tI;tA;rTHU;tO;tE;uE;tI;tA;sTU;tO;tE;uE;tI;tA;rPU;sO;sE;tE;sI;sA;s;",
  "rGU;sO;sE;tE;sI;sA;rKHU;tO;tE;uE;tI;tA;sKU;tO;tE;uE;tI;tA;t;rNU;sO;sE;tE;sI;sA;rMU;sO;sE;tE;sI;",
  "sA;rYU;sO;sE;tE;sI;sA;rJU;jSAYISI_JU;jCARRIER_JO;sE;tE;sI;jSAYISI_JI;jCARRIER_JA;sJU;tO;tE;uE;",
  "tI;tA;rLU;sO;sE;tE;sI;sA;rDLU;tO;tE;uE;tI;tA;rLHU;tO;tE;uE;tI;tA;rTLHU;uO;uE;vE;uI;uA;tU;tO;tE;",
  "uE;tI;tA;rZU;sO;sE;tE;sI;sA;s;rINITIAL_Z;rDZU;tO;tE;uE;tI;tA;rSU;sO;sE;tE;sI;sA;sHU;tO;tE;uE;",
  "tI;tA;t;rTSU;tO;tE;uE;tI;tA;rCHU;tO;tE;uE;tI;tA;rTTSU;uO;uE;vE;uI;uA;kHI_SIGN;jFULL_STOP;jQAI;",
  "jNGAI;kNGI;nI;mO;nO;mA;nA;jWOODS-CREE_THWEE;xI;yI;xO;yO;xA;yA;uFINAL_TH;jBLACKFOOT_W;",
  "0OGHAM_SPACE_MARK;6LETTER_BEITH;dLUIS;dFEARN;dSAIL;dNION;dUATH;dDAIR;dTINNE;dCOLL;eEIRT;dMUIN;",
  "dGORT;dNGEADAL;dSTRAIF;dRUIS;dAILM;dONN;dUR;dEADHADH;dIODHADH;dEABHADH;dOR;dUILLEANN;dIFIN;",
  "dEAMHANCHOLL;dPEITH;6FEATHER_MARK;6REVERSED_FEATHER_MARK;>16A0:0RUNIC_LETTER_FEHU_FEOH_FE_F;dV;",
  "dURUZ_UR_U;dYR;e;dW;dTHURISAZ_THURS_THORN;dETH;dANSUZ_A;dOS_O;dAC_A;eESC;dLONG-BRANCH-OSS_O;",
  "dSHORT-TWIG-OSS_O;dO;eE;eN;dRAIDO_RAD_REID_R;dKAUNA;dCEN;dKAUN_K;dG;dENG;dGEBO_GYFU_G;eAR;",
  "dWUNJO_WYNN_W;dHAGLAZ_H;fEGL_H;dLONG-BRANCH-HAGALL_H;dSHORT-TWIG-HAGALL_H;dNAUDIZ_NYD_NAUD_N;",
  "dSHORT-TWIG-NAUD_N;dDOTTED-N;dISAZ_IS_ISS_I;dE;dJERAN_J;dGER;dLONG-BRANCH-AR_AE;",
  "dSHORT-TWIG-AR_A;dIWAZ_EOH;dPERTHO_PEORTH_P;dALGIZ_EOLHX;dSOWILO_S;eIGEL_LONG-BRANCH-SOL_S;",
  "eHORT-TWIG-SOL_S;dC;dZ;dTIWAZ_TIR_TYR_T;dSHORT-TWIG-TYR_T;dD;dBERKANAN_BEORC_BJARKAN_B;",
  "dSHORT-TWIG-BJARKAN_B;dDOTTED-P;dOPEN-P;dEHWAZ_EH_E;dMANNAZ_MAN_M;dLONG-BRANCH-MADR_M;",
  "dSHORT-TWIG-MADR_M;dLAUKAZ_LAGU_LOGR_L;dDOTTED-L;dINGWAZ;g;dDAGAZ_DAEG_D;dOTHALAN_ETHEL_O;dEAR;",
  "dIOR;dCWEORTH;eALC;eEALC;dSTAN;dLONG-BRANCH-YR;dSHORT-TWIG-YR;dICELANDIC-YR;dQ;dX;",
  "6SINGLE_PUNCTUATION;6MULTIPLE_PUNCTUATION;6CROSS_PUNCTUATION;6ARLAUG_SYMBOL;6TVIMADUR_SYMBOL;",
  "6BELGTHOR_SYMBOL;6LETTER_K;dSH;dOO;dFRANKS_CASKET_OS;rIS;rEH;rAC;sESC;>1700:0TAGALOG_LETTER_A;",
  "fI;fU;fKA;fGA;fNGA;fTA;fDA;fNA;fPA;fBA;fMA;fYA;fRA;fLA;fWA;fSA;fHA;8VOWEL_SIGN_I;jU;",
  "8SIGN_VIRAMA;dPAMUDPOD;>171F:8LETTER_ARCHAIC_RA;0HANUNOO_LETTER_A;fI;fU;fKA;fGA;fNGA;fTA;fDA;",
  "fNA;fPA;fBA;fMA;fYA;fRA;fLA;fWA;fSA;fHA;8VOWEL_SIGN_I;jU;8SIGN_PAMUDPOD;",
  "0PHILIPPINE_SINGLE_PUNCTUATION;bDOUBLE_PUNCTUATION;>1740:0BUHID_LETTER_A;dI;dU;dKA;dGA;dNGA;",
  "dTA;dDA;dNA;dPA;dBA;dMA;dYA;dRA;dLA;dWA;dSA;dHA;6VOWEL_SIGN_I;hU;>1760:0TAGBANWA_LETTER_A;gI;",
  "gU;gKA;gGA;gNGA;gTA;gDA;gNA;gPA;gBA;gMA;gYA;>176E:gLA;gWA;gSA;>1772:9VOWEL_SIGN_I;kU;",
  ">1780:0KHMER_LETTER_KA;eHA;eO;eHO;dNGO;dCA;eHA;eO;eHO;dNYO;dDA;dTTHA;dDO;dTTHO;dNNO;dTA;eHA;eO;",
  "eHO;dNO;dBA;dPHA;eO;eHO;dMO;dYO;dRO;dLO;dVO;dSHA;eSO;eA;dHA;dLA;dQA;6INDEPENDENT_VOWEL_QAQ;qA;",
  "pI;qI;pU;qK;qU;rV;oRY;qY;oLY;qY;oQE;pAI;pOO_TYPE_ONE;xTWO;pAU;6VOWEL_INHERENT_AQ;mA;cSIGN_AA;",
  "hI;iI;hY;iY;hU;iU;iA;hOE;hYA;hIE;hE;hAE;iI;hOO;hAU;6SIGN_NIKAHIT;bREAHMUK;bYUUKALEAPINTU;",
  "bMUUSIKATOAN;bTRIISAP;bBANTOC;bROBAT;bTOANDAKHIAT;bKAKABAT;bAHSDA;bSAMYOK_SANNYA;bVIRIAM;",
  "bCOENG;bBATHAMASAT;bKHAN;bBARIYOOSAN;bCAMNUC_PII_KUUH;bLEK_TOO;bBEYYAL;bPHNAEK_MUAN;bKOOMUUT;",
  "6CURRENCY_SYMBOL_RIEL;6SIGN_AVAKRAHASANYA;cTTHACAN;>17E0:6DIGIT_ZERO;cONE;cTWO;dHREE;cFOUR;",
  "dIVE;cSIX;dEVEN;cEIGHT;cNINE;>17F0:6SYMBOL_LEK_ATTAK_SON;nMUOY;nPII;nBEI;oUON;nPRAM;r-MUOY;",
  "sPII;sBEI;tUON;>1800:0MONGOLIAN_BIRGA;aELLIPSIS;aCOMMA;aFULL_STOP;aCOLON;aFOUR_DOTS;",
  "aTODO_SOFT_HYPHEN;aSIBE_SYLLABLE_BOUNDARY_MARKER;aMANCHU_COMMA;hFULL_STOP;aNIRUGU;",
  "aFREE_VARIATION_SELECTOR_ONE;yTWO;zHREE;aVOWEL_SEPARATOR;aFREE_VARIATION_SELECTOR_FOUR;",
  "aDIGIT_ZERO;gONE;gTWO;hHREE;gFOUR;hIVE;gSIX;hEVEN;gEIGHT;gNINE;>1820:aLETTER_A;hE;hI;hO;hU;hOE;",
  "hUE;hEE;hNA;hANG;hBA;hPA;hQA;hGA;hMA;hLA;hSA;iHA;hTA;hDA;hCHA;hJA;hYA;hRA;hWA;hFA;hKA;iHA;hTSA;",
  "hZA;hHAA;hZRA;hLHA;hZHI;hCHI;hTODO_LONG_VOWEL_SIGN;mE;mI;mO;mU;mOE;mUE;mANG;mBA;mPA;mQA;mGA;",
  "mMA;mTA;mDA;mCHA;mJA;mTSA;mYA;mWA;mKA;mGAA;mHAA;mJIA;mNIA;mDZA;hSIBE_E;mI;nY;mUE;n;mANG;mKA;",
  "mGA;mHA;mPA;mSHA;mTA;mDA;mJA;mFA;mGAA;mHAA;mTSA;mZA;mRAA;mCHA;mZHA;hMANCHU_I;oKA;oRA;oFA;oZHA;",
  "hCHA_WITH_TWO_DOTS;>1880:hALI_GALI_ANUSVARA_ONE;qVISARGA_ONE;qDAMARU;qUBADAMA;",
  "qINVERTED_UBADAMA;qBALUDA;qTHREE_BALUDA;qA;qI;qKA;qNGA;qCA;qTTA;sHA;qDDA;qNNA;qTA;qDA;qPA;rHA;",
  "qSSA;qZHA;rA;qAH;hTODO_ALI_GALI_TA;vZHA;hMANCHU_ALI_GALI_GHA;xNGA;xCA;xJHA;xTTA;xDDHA;xTA;xDHA;",
  "xSSA;xCYA;xZHA;yA;hALI_GALI_HALF_U;vYA;hMANCHU_ALI_GALI_BHA;hALI_GALI_DAGALGA;",
  "hMANCHU_ALI_GALI_LHA;>18B0:0CANADIAN_SYLLABICS_OY;jAY;kAY;jWAY;jPOY;kAY;kWOY;jTAY;jKAY;kWAY;",
  "jMAY;jNOY;kAY;jLAY;jSOY;kAY;kHOY;lAY;lWOY;jYOY;kAY;jRAY;jNWI;jOJIBWAY_NWI;jNWII;jOJIBWAY_NWII;",
  "jNWO;jOJIBWAY_NWO;jNWOO;jOJIBWAY_NWOO;jRWEE;lI;mI;lO;mO;lA;jOJIBWAY_P;rT;rK;rC;rM;rN;rS;sH;",
  "jEASTERN_W;jWESTERN_W;jFINAL_SMALL_RING;pRAISED_DOT;jR-CREE_RWE;jWEST-CREE_LOO;uAA;jTHWE;mA;",
  "kTHWE;mOO;mAA;kLHWE;mOO;jSAYISI_SHWE;sOO;qHOO;jCARRIER_GWU;rDENE_GEE;rGAA;sWA;jSAYISI_JUU;",
  "jCARRIER_JWA;jBEAVER_DENE_L;vR;jCARRIER_DENTAL_S;>1900:0LIMBU_VOWEL-CARRIER_LETTER;6LETTER_KA;",
  "eHA;dGA;eHA;dNGA;dCA;eHA;dJA;eHA;dYAN;dTA;eHA;dDA;eHA;dNA;dPA;eHA;dBA;eHA;dMA;dYA;dRA;dLA;dWA;",
  "dSHA;eSA;eA;dHA;dGYAN;dTRA;>1920:6VOWEL_SIGN_A;hI;hU;hEE;hAI;hOO;hAU;hE;hO;",
  "6SUBJOINED_LETTER_YA;nRA;nWA;>1930:7MALL_LETTER_KA;jNGA;jANUSVARA;jTA;jNA;jPA;jMA;jRA;jLA;",
  "7IGN_MUKPHRENG;bKEMPHRENG;bSA-I;>1940:bLOO;>1944:6EXCLAMATION_MARK;6QUESTION_MARK;6DIGIT_ZERO;",
  "cONE;cTWO;dHREE;cFOUR;dIVE;cSIX;dEVEN;cEIGHT;cNINE;0TAI_LE_LETTER_KA;eXA;eNGA;eTSA;eSA;eYA;eTA;",
  "fHA;eLA;ePA;fHA;eMA;eFA;eVA;eHA;eQA;eKHA;eTSHA;eNA;eA;eI;eEE;fH;eU;eOO;f;eUE;eE;eAUE;fI;",
  ">1970:eTONE-2;j3;j4;j5;j6;>1980:0NEW_TAI_LUE_LETTER_HIGH_QA;jLOW_QA;jHIGH_KA;oXA;oNGA;jLOW_KA;",
  "nXA;nNGA;jHIGH_TSA;oSA;oYA;jLOW_TSA;nSA;nYA;jHIGH_TA;pHA;oNA;jLOW_TA;oHA;nNA;jHIGH_PA;pHA;oMA;",
  "jLOW_PA;oHA;nMA;jHIGH_FA;oVA;oLA;jLOW_FA;nVA;nLA;jHIGH_HA;oDA;oBA;jLOW_HA;nDA;nBA;jHIGH_KVA;",
  "oXVA;jLOW_KVA;nXVA;jHIGH_SUA;jLOW_SUA;>19B0:cVOWEL_SIGN_VOWEL_SHORTENER;nAA;nII;nU;oU;nE;nAE;",
  "nO;oA;nUE;nAY;oAY;nUY;nOY;oAY;nUEY;nIY;cLETTER_FINAL_V;pNG;q;pM;pK;pD;pB;cTONE_MARK-1;m2;",
  ">19D0:cDIGIT_ZERO;iONE;iTWO;jHREE;iFOUR;jIVE;iSIX;jEVEN;iEIGHT;iNINE;cTHAM_DIGIT_ONE;",
  ">19DE:cSIGN_LAE;kV;0KHMER_SYMBOL_PATHAMASAT;dMUOY_KOET;dPII_KOET;dBEI_KOET;eUON_KOET;",
  "dPRAM_KOET;h-MUOY_KOET;iPII_KOET;iBEI_KOET;jUON_KOET;dDAP_KOET;g-MUOY_KOET;hPII_KOET;hBEI_KOET;",
  "iUON_KOET;hPRAM_KOET;dTUTEYASAT;dMUOY_ROC;dPII_ROC;dBEI_ROC;eUON_ROC;dPRAM_ROC;h-MUOY_ROC;",
  "iPII_ROC;iBEI_ROC;jUON_ROC;dDAP_ROC;g-MUOY_ROC;hPII_ROC;hBEI_ROC;iUON_ROC;hPRAM_ROC;",
  "0BUGINESE_LETTER_KA;gGA;gNGA;iKA;gPA;gBA;gMA;hPA;gTA;gDA;gNA;hRA;gCA;gJA;gNYA;iCA;gYA;gRA;gLA;",
  "gVA;gSA;gA;gHA;9VOWEL_SIGN_I;kU;kE;kO;kAE;>1A1E:9PALLAWA;9END_OF_SECTION;",
  "0TAI_THAM_LETTER_HIGH_KA;mHA;mXA;gLOW_KA;lXA;lHA;gNGA;gHIGH_CA;mHA;gLOW_CA;kSA;kCHA;gNYA;gRATA;",
  "gHIGH_RATHA;gDA;gLOW_RATHA;gRANA;gHIGH_TA;mHA;gLOW_TA;lHA;gNA;gBA;gHIGH_PA;mHA;lFA;gLOW_PA;kFA;",
  "kPHA;gMA;gLOW_YA;gHIGH_YA;gRA;hUE;gLA;hUE;gWA;gHIGH_SHA;mSA;mA;lHA;gLLA;gA;gLOW_HA;gI;hI;gU;hU;",
  "gEE;gOO;gLAE;gGREAT_SA;9CONSONANT_SIGN_MEDIAL_RA;vLA;oLA_TANG_LAI;9SIGN_MAI_KANG_LAI;",
  "9CONSONANT_SIGN_FINAL_NGA;oLOW_PA;oHIGH_RATHA_OR_LOW_PA;oMA;oBA;oSA;>1A60:9SIGN_SAKOT;",
  "9VOWEL_SIGN_A;kMAI_SAT;kAA;kTALL_AA;kI;lI;kUE;lUE;l;lU;kO;lA_BELOW;lY;kE;kAE;kOO;kAI;kTHAM_AI;",
  "kOA_ABOVE;9SIGN_MAI_KANG;eTONE-1;j2;eKHUEN_TONE-3;p4;p5;eRA_HAAM;eMAI_SAM;eKHUEN-LUE_KARAN;",
  ">1A7F:9COMBINING_CRYPTOGRAMMIC_DOT;9HORA_DIGIT_ZERO;kONE;kTWO;lHREE;kFOUR;lIVE;kSIX;lEVEN;",
  "kEIGHT;kNINE;>1A90:9THAM_DIGIT_ZERO;kONE;kTWO;lHREE;kFOUR;lIVE;kSIX;lEVEN;kEIGHT;kNINE;",
  ">1AA0:9SIGN_WIANG;jWAAK;eSAWAN;eKEOW;eHOY;eDOKMAI;eREVERSED_ROTATED_RANA;eMAI_YAMOK;eKAAN;iKUU;",
  "eSATKAAN;lKUU;eHANG;eCAANG;>1AB0:0COMBINING_DOUBLED_CIRCUMFLEX_ACCENT;bIAERESIS-RING;aINFINITY;",
  "aDOWNWARDS_ARROW;aTRIPLE_DOT;aX-X_BELOW;aWIGGLY_LINE_BELOW;aOPEN_MARK_BELOW;",
  "aDOUBLE_OPEN_MARK_BELOW;aLIGHT_CENTRALIZATION_STROKE_BELOW;aSTRONG_CENTRALIZATION_STROKE_BELOW;",
  "aPARENTHESES_ABOVE;aDOUBLE_PARENTHESES_ABOVE;aPARENTHESES_BELOW;mOVERLAY;",
  "aLATIN_SMALL_LETTER_W_BELOW;tTURNED_W_BELOW;bEFT_PARENTHESIS_ABOVE_LEFT;",
  "aRIGHT_PARENTHESIS_ABOVE_RIGHT;aLEFT_PARENTHESIS_BELOW_LEFT;aRIGHT_PARENTHESIS_BELOW_RIGHT;",
  "aSQUARE_BRACKETS_ABOVE;aNUMBER_SIGN_ABOVE;aINVERTED_DOUBLE_ARCH_ABOVE;aPLUS_SIGN_ABOVE;",
  "aDOUBLE_PLUS_SIGN_ABOVE;rBELOW;aTRIPLE_ACUTE_ACCENT;aLATIN_SMALL_LETTER_INSULAR_G;BR;BT;",
  ">1B00:0BALINESE_SIGN_ULU_RICEM;iCANDRA;eCECEK;eSURANG;eBISAH;9LETTER_AKARA;l_TEDUNG;gIKARA;",
  "l_TEDUNG;gUKARA;l_TEDUNG;gRA_REPA;n_TEDUNG;gLA_LENGA;o_TEDUNG;gEKARA;gAIKARA;gOKARA;l_TEDUNG;",
  "gKA;i_MAHAPRANA;gGA;i_GORA;gNGA;gCA;i_LACA;gJA;i_JERA;gNYA;gTA_LATIK;jMURDA_MAHAPRANA;",
  "gDA_MURDA_ALPAPRANA;pMAHAPRANA;gNA_RAMBAT;gTA;i_TAWA;gDA;i_MADU;gNA;gPA;i_KAPAL;gBA;i_KEMBANG;",
  "gMA;gYA;gRA;gLA;gWA;gSA_SAGA;lPA;i;gHA;9SIGN_REREKAN;9VOWEL_SIGN_TEDUNG;kULU;n_SARI;kSUKU;",
  "o_ILUT;kRA_REPA;r_TEDUNG;kLA_LENGA;s_TEDUNG;kTALING;q_REPA;rTEDUNG;rREPA_TEDUNG;kPEPET;",
  "p_TEDUNG;9ADEG_ADEG;9LETTER_KAF_SASAK;hHOT_SASAK;gTZIR_SASAK;gEF_SASAK;gVE_SASAK;gZAL_SASAK;",
  "gASYURA_SASAK;hRCHAIC_JNYA;>1B50:9DIGIT_ZERO;fONE;fTWO;gHREE;fFOUR;gIVE;fSIX;gEVEN;fEIGHT;",
  "fNINE;9PANTI;bMADA;9WINDU;9CARIK_PAMUNGKAH;fSIKI;fPAREREN;9PAMENENG;9MUSICAL_SYMBOL_DONG;pENG;",
  "pUNG;pANG;s_SURANG;pING;pAENG;pEUNG;pAING;qNG_GEDE;oCOMBINING_TEGEH;yENDEP;yKEMPUL;CLI;",
  "yJEGOGAN;yKEMPUL_WITH_JEGOGAN;CLI_WITH_JEGOGAN;yBENDE;yGONG;oRIGHT-HAND_OPEN_DUG;FAG;",
  "zCLOSED_TUK;HAK;oLEFT-HAND_OPEN_PANG;EUNG;yCLOSED_PLAK;HUK;yOPEN_PING;9PANTI_LANTANG;",
  "bMADA_LANTANG;>1B80:0SUNDANESE_SIGN_PANYECEK;iGLAYAR;jWISAD;aLETTER_A;hI;hU;hAE;hO;hE;iU;hKA;",
  "hQA;hGA;hNGA;hCA;hJA;hZA;hNYA;hTA;hDA;hNA;hPA;hFA;hVA;hBA;hMA;hYA;hRA;hLA;hWA;hSA;hXA;hHA;",
  "aCONSONANT_SIGN_PAMINGKAL;rNYAKRA;tIKU;aVOWEL_SIGN_PANGHULU;oYUKU;oAELAENG;oOLONG;nMEPET;",
  "nNEULEUNG;aSIGN_PAMAAEH;fVIRAMA;aCONSONANT_SIGN_PASANGAN_MA;yWA;aLETTER_KHA;hSYA;aDIGIT_ZERO;",
  "gONE;gTWO;hHREE;gFOUR;hIVE;gSIX;hEVEN;gEIGHT;gNINE;aAVAGRAHA;aLETTER_REU;hLEU;hBHA;hFINAL_K;nM;",
  "0BATAK_LETTER_A;dSIMALUNGUN_A;dHA;dSIMALUNGUN_HA;dMANDAILING_HA;dBA;dKARO_BA;dPA;",
  "dSIMALUNGUN_PA;dNA;dMANDAILING_NA;dWA;dSIMALUNGUN_WA;dPAKPAK_WA;dGA;dSIMALUNGUN_GA;dJA;dDA;dRA;",
  "dSIMALUNGUN_RA;dMA;dSIMALUNGUN_MA;eOUTHERN_TA;dNORTHERN_TA;dSA;eIMALUNGUN_SA;dMANDAILING_SA;",
  "dYA;dSIMALUNGUN_YA;dNGA;dLA;dSIMALUNGUN_LA;dNYA;dCA;dNDA;dMBA;dI;dU;6SIGN_TOMPI;6VOWEL_SIGN_E;",
  "hPAKPAK_E;hEE;hI;hKARO_I;hO;hKARO_O;hU;i_FOR_SIMALUNGUN_SA;6CONSONANT_SIGN_NG;lH;6PANGOLAT;",
  "9ONGONAN;>1BFC:6SYMBOL_BINDU_NA_METEK;jPINARBORAS;jJUDUL;jPANGOLAT;0LEPCHA_LETTER_KA;fLA;fHA;",
  "eGA;fLA;eNGA;eCA;fHA;eJA;eNYA;eTA;fHA;eDA;eNA;ePA;fLA;fHA;eFA;fLA;eBA;fLA;eMA;fLA;eTSA;gHA;",
  "eDZA;eYA;eRA;eLA;eHA;fLA;eVA;eSA;fHA;eWA;eA;7SUBJOINED_LETTER_YA;oRA;7VOWEL_SIGN_AA;iI;iO;jO;",
  "iU;jU;iE;7CONSONANT_SIGN_K;mM;mL;mN;mP;mR;mT;mNYIN-DO;mKANG;7SIGN_RAN;cNUKTA;",
  ">1C3B:7PUNCTUATION_TA-ROL;jNYET_THYOOM_TA-ROL;jCER-WA;jTSHOOK_CER-WA;p;7DIGIT_ZERO;dONE;dTWO;",
  "eHREE;dFOUR;eIVE;dSIX;eEVEN;dEIGHT;dNINE;>1C4D:7LETTER_TTA;gHA;eDDA;0OL_CHIKI_DIGIT_ZERO;fONE;",
  "fTWO;gHREE;fFOUR;gIVE;fSIX;gEVEN;fEIGHT;fNINE;9LETTER_LA;gAT;hG;hNG;hL;gLAA;gAAK;iJ;iM;iW;gLI;",
  "gIS;hH;hNY;hR;gLU;gUC;hD;hNN;hY;gLE;gEP;hDD;hN;hRR;gLO;gOTT;hB;hV;hH;9MU_TTUDDAG;",
  "9GAAHLAA_TTUDDAAG;9MU-GAAHLAA_TTUDDAAG;9RELAA;9PHAARKAA;9AHAD;9PUNCTUATION_MUCAAD;",
  "lDOUBLE_MUCAAD;0CYRILLIC_SMALL_LETTER_ROUNDED_VE;mLONG-LEGGED_DE;mNARROW_O;mWIDE_ES;mTALL_TE;",
  "nHREE-LEGGED_TE;nALL_HARD_SIGN;rYAT;mUNBLENDED_UK;>1C90:0GEORGIAN_MTAVRULI_CAPITAL_LETTER_AN;",
  "xBAN;xGAN;xDON;xEN;xVIN;xZEN;xTAN;xIN;xKAN;xLAS;xMAN;xNAR;xON;xPAR;xZHAR;xRAE;xSAN;xTAR;xUN;",
  "xPHAR;xKHAR;xGHAN;xQAR;xSHIN;xCHIN;yAN;xJIL;xCIL;yHAR;xXAN;xJHAN;xHAE;yE;yIE;xWE;xHAR;yOE;xFI;",
  "xYN;xELIFI;xTURNED_GAN;xAIN;>1CBD:yEN;xHARD_SIGN;xLABIAL_SIGN;",
  "0SUNDANESE_PUNCTUATION_BINDU_SURYA;sPANGLONG;tURNAMA;sCAKRA;sLEU_SATANGA;sKA_SATANGA;",
  "sDA_SATANGA;sBA_SATANGA;>1CD0:0VEDIC_TONE_KARSHANA;bSHARA;bPRENKHA;6SIGN_NIHSHVASA;",
  "bYAJURVEDIC_MIDLINE_SVARITA;6TONE_YAJURVEDIC_AGGRAVATED_INDEPENDENT_SVARITA;",
  "mINDEPENDENT_SVARITA;mKATHAKA_INDEPENDENT_SVARITA;bCANDRA_BELOW;",
  "bYAJURVEDIC_KATHAKA_INDEPENDENT_SVARITA_SCHROEDER;bDOUBLE_SVARITA;bTRIPLE_SVARITA;",
  "bKATHAKA_ANUDATTA;bDOT_BELOW;bTWO_DOTS_BELOW;cHREE_DOTS_BELOW;",
  "bRIGVEDIC_KASHMIRI_INDEPENDENT_SVARITA;bATHARVAVEDIC_INDEPENDENT_SVARITA;6SIGN_VISARGA_SVARITA;",
  "jUDATTA;bREVERSED_VISARGA_UDATTA;bVISARGA_ANUDATTA;bREVERSED_VISARGA_ANUDATTA;",
  "bVISARGA_UDATTA_WITH_TAIL;jANUDATTA_WITH_TAIL;bANUSVARA_ANTARGOMUKHA;kBAHIRGOMUKHA;",
  "kVAMAGOMUKHA;v_WITH_TAIL;bTIRYAK;bHEXIFORM_LONG_ANUSVARA;bLONG_ANUSVARA;bRTHANG_LONG_ANUSVARA;",
  "bANUSVARA_UBHAYATO_MUKHA;cRDHAVISARGA;bROTATED_ARDHAVISARGA;6TONE_CANDRA_ABOVE;",
  "6SIGN_JIHVAMULIYA;bUPADHMANIYA;bATIKRAMA;6TONE_RING_ABOVE;bDOUBLE_RING_ABOVE;",
  "6SIGN_DOUBLE_ANUSVARA_ANTARGOMUKHA;>1D00:0LATIN_LETTER_SMALL_CAPITAL_A;sE;",
  "6SMALL_LETTER_TURNED_AE;6LETTER_SMALL_CAPITAL_BARRED_B;rC;rD;rETH;s;",
  "6SMALL_LETTER_TURNED_OPEN_E;qI;6LETTER_SMALL_CAPITAL_J;rK;rL_WITH_STROKE;rM;rREVERSED_N;rO;",
  "sPEN_O;6SMALL_LETTER_SIDEWAYS_O;tPEN_O;t_WITH_STROKE;jTURNED_OE;6LETTER_SMALL_CAPITAL_OU;",
  "6SMALL_LETTER_TOP_HALF_O;jBOTTOM_HALF_O;6LETTER_SMALL_CAPITAL_P;rREVERSED_R;rTURNED_R;s;rU;",
  "6SMALL_LETTER_SIDEWAYS_U;sDIAERESIZED_U;sTURNED_M;6LETTER_SMALL_CAPITAL_V;rW;rZ;rEZH;",
  "dVOICED_LARYNGEAL_SPIRANT;dAIN;0GREEK_LETTER_SMALL_CAPITAL_GAMMA;rLAMDA;rPI;rRHO;rPSI;",
  "0CYRILLIC_LETTER_SMALL_CAPITAL_EL;0MODIFIER_LETTER_CAPITAL_A;pE;oB;pARRED_B;oD;oE;oREVERSED_E;",
  "oG;oH;oI;oJ;oK;oL;oM;oN;oREVERSED_N;oO;pU;oP;oR;oT;oU;oW;gSMALL_A;mTURNED_A;mALPHA;mTURNED_AE;",
  "mB;mD;mE;mSCHWA;mOPEN_E;mTURNED_OPEN_E;mG;mTURNED_I;mK;mM;mENG;mO;nPEN_O;mTOP_HALF_O;",
  "mBOTTOM_HALF_O;mP;mT;mU;mSIDEWAYS_U;mTURNED_M;mV;mAIN;mBETA;mGREEK_GAMMA;mDELTA;mGREEK_PHI;",
  "mCHI;0LATIN_SUBSCRIPT_SMALL_LETTER_I;tR;tU;tV;0GREEK_SUBSCRIPT_SMALL_LETTER_BETA;tGAMMA;tRHO;",
  "tPHI;tCHI;0LATIN_SMALL_LETTER_UE;jB_WITH_MIDDLE_TILDE;jD_WITH_MIDDLE_TILDE;",
  "jF_WITH_MIDDLE_TILDE;jM_WITH_MIDDLE_TILDE;jN_WITH_MIDDLE_TILDE;jP_WITH_MIDDLE_TILDE;",
  "jR_WITH_MIDDLE_TILDE;qFISHHOOK_AND_MIDDLE_TILDE;jS_WITH_MIDDLE_TILDE;jT_WITH_MIDDLE_TILDE;",
  "jZ_WITH_MIDDLE_TILDE;jTURNED_G;0MODIFIER_LETTER_CYRILLIC_EN;0LATIN_SMALL_LETTER_INSULAR_G;",
  "jTH_WITH_STRIKETHROUGH;cCAPITAL_LETTER_I_WITH_STROKE;cLETTER_IOTA_WITH_STROKE;jP_WITH_STROKE;",
  "cCAPITAL_LETTER_U_WITH_STROKE;cLETTER_UPSILON_WITH_STROKE;jB_WITH_PALATAL_HOOK;",
  "jD_WITH_PALATAL_HOOK;jF_WITH_PALATAL_HOOK;jG_WITH_PALATAL_HOOK;jK_WITH_PALATAL_HOOK;",
  "jL_WITH_PALATAL_HOOK;jM_WITH_PALATAL_HOOK;jN_WITH_PALATAL_HOOK;jP_WITH_PALATAL_HOOK;",
  "jR_WITH_PALATAL_HOOK;jS_WITH_PALATAL_HOOK;jESH_WITH_PALATAL_HOOK;jV_WITH_PALATAL_HOOK;",
  "jX_WITH_PALATAL_HOOK;jZ_WITH_PALATAL_HOOK;jA_WITH_RETROFLEX_HOOK;kLPHA_WITH_RETROFLEX_HOOK;",
  "jD_WITH_HOOK_AND_TAIL;jE_WITH_RETROFLEX_HOOK;jOPEN_E_WITH_RETROFLEX_HOOK;",
  "jREVERSED_OPEN_E_WITH_RETROFLEX_HOOK;jSCHWA_WITH_RETROFLEX_HOOK;jI_WITH_RETROFLEX_HOOK;",
  "jOPEN_O_WITH_RETROFLEX_HOOK;jESH_WITH_RETROFLEX_HOOK;jU_WITH_RETROFLEX_HOOK;",
  "jEZH_WITH_RETROFLEX_HOOK;0MODIFIER_LETTER_SMALL_TURNED_ALPHA;mC;n_WITH_CURL;mETH;",
  "mREVERSED_OPEN_E;mF;mDOTLESS_J_WITH_STROKE;mSCRIPT_G;mTURNED_H;mI_WITH_STROKE;nOTA;mCAPITAL_I;",
  "v_WITH_STROKE;mJ_WITH_CROSSED-TAIL;mL_WITH_RETROFLEX_HOOK;tPALATAL_HOOK;mCAPITAL_L;",
  "mM_WITH_HOOK;mTURNED_M_WITH_LONG_LEG;mN_WITH_LEFT_HOOK;tRETROFLEX_HOOK;mCAPITAL_N;mBARRED_O;",
  "mPHI;mS_WITH_HOOK;mESH;mT_WITH_PALATAL_HOOK;mU_BAR;nPSILON;mCAPITAL_U;mV_WITH_HOOK;mTURNED_V;",
  "mZ;n_WITH_RETROFLEX_HOOK;tCURL;mEZH;mTHETA;0COMBINING_DOTTED_GRAVE_ACCENT;hACUTE_ACCENT;",
  "aSNAKE_BELOW;bUSPENSION_MARK;aMACRON-ACUTE;aGRAVE-MACRON;aMACRON-GRAVE;aACUTE-MACRON;",
  "aGRAVE-ACUTE-GRAVE;aACUTE-GRAVE-ACUTE;aLATIN_SMALL_LETTER_R_BELOW;aBREVE-MACRON;aMACRON-BREVE;",
  "aDOUBLE_CIRCUMFLEX_ABOVE;aOGONEK_ABOVE;aZIGZAG_BELOW;aIS_BELOW;aUR_ABOVE;bS_ABOVE;",
  "aLATIN_SMALL_LETTER_FLATTENED_OPEN_A_ABOVE;tAE;uO;uV;tC_CEDILLA;tINSULAR_D;tETH;tG;",
  "gLETTER_SMALL_CAPITAL_G;gSMALL_LETTER_K;tL;gLETTER_SMALL_CAPITAL_L;BM;gSMALL_LETTER_N;",
  "gLETTER_SMALL_CAPITAL_N;BR;gSMALL_LETTER_R_ROTUNDA;tS;tLONG_S;tZ;tALPHA;tB;uETA;tSCHWA;tF;",
  "tL_WITH_DOUBLE_MIDDLE_TILDE;tO_WITH_LIGHT_CENTRALIZATION_STROKE;tP;tESH;",
  "tU_WITH_LIGHT_CENTRALIZATION_STROKE;tW;tA_WITH_DIAERESIS;tO_WITH_DIAERESIS;tU_WITH_DIAERESIS;",
  "aUP_TACK_ABOVE;aKAVYKA_ABOVE_RIGHT;nLEFT;aDOT_ABOVE_LEFT;aWIDE_INVERTED_BRIDGE_BELOW;",
  "aDOT_BELOW_LEFT;bELETION_MARK;bOUBLE_INVERTED_BREVE_BELOW;aALMOST_EQUAL_TO_BELOW;",
  "aLEFT_ARROWHEAD_ABOVE;aRIGHT_ARROWHEAD_AND_DOWN_ARROWHEAD_BELOW;",
  "0LATIN_CAPITAL_LETTER_A_WITH_RING_BELOW;6SMALL_LETTER_A_WITH_RING_BELOW;",
  "6CAPITAL_LETTER_B_WITH_DOT_ABOVE;6SMALL_LETTER_B_WITH_DOT_ABOVE;",
  "6CAPITAL_LETTER_B_WITH_DOT_BELOW;6SMALL_LETTER_B_WITH_DOT_BELOW;",
  "6CAPITAL_LETTER_B_WITH_LINE_BELOW;6SMALL_LETTER_B_WITH_LINE_BELOW;",
  "6CAPITAL_LETTER_C_WITH_CEDILLA_AND_ACUTE;6SMALL_LETTER_C_WITH_CEDILLA_AND_ACUTE;",
  "6CAPITAL_LETTER_D_WITH_DOT_ABOVE;6SMALL_LETTER_D_WITH_DOT_ABOVE;",
  "6CAPITAL_LETTER_D_WITH_DOT_BELOW;6SMALL_LETTER_D_WITH_DOT_BELOW;",
  "6CAPITAL_LETTER_D_WITH_LINE_BELOW;6SMALL_LETTER_D_WITH_LINE_BELOW;",
  "6CAPITAL_LETTER_D_WITH_CEDILLA;6SMALL_LETTER_D_WITH_CEDILLA;",
  "6CAPITAL_LETTER_D_WITH_CIRCUMFLEX_BELOW;6SMALL_LETTER_D_WITH_CIRCUMFLEX_BELOW;",
  "6CAPITAL_LETTER_E_WITH_MACRON_AND_GRAVE;6SMALL_LETTER_E_WITH_MACRON_AND_GRAVE;",
  "6CAPITAL_LETTER_E_WITH_MACRON_AND_ACUTE;6SMALL_LETTER_E_WITH_MACRON_AND_ACUTE;",
  "6CAPITAL_LETTER_E_WITH_CIRCUMFLEX_BELOW;6SMALL_LETTER_E_WITH_CIRCUMFLEX_BELOW;",
  "6CAPITAL_LETTER_E_WITH_TILDE_BELOW;6SMALL_LETTER_E_WITH_TILDE_BELOW;",
  "6CAPITAL_LETTER_E_WITH_CEDILLA_AND_BREVE;6SMALL_LETTER_E_WITH_CEDILLA_AND_BREVE;",
  "6CAPITAL_LETTER_F_WITH_DOT_ABOVE;6SMALL_LETTER_F_WITH_DOT_ABOVE;6CAPITAL_LETTER_G_WITH_MACRON;",
  "6SMALL_LETTER_G_WITH_MACRON;6CAPITAL_LETTER_H_WITH_DOT_ABOVE;6SMALL_LETTER_H_WITH_DOT_ABOVE;",
  "6CAPITAL_LETTER_H_WITH_DOT_BELOW;6SMALL_LETTER_H_WITH_DOT_BELOW;",
  "6CAPITAL_LETTER_H_WITH_DIAERESIS;6SMALL_LETTER_H_WITH_DIAERESIS;6CAPITAL_LETTER_H_WITH_CEDILLA;",
  "6SMALL_LETTER_H_WITH_CEDILLA;6CAPITAL_LETTER_H_WITH_BREVE_BELOW;",
  "6SMALL_LETTER_H_WITH_BREVE_BELOW;6CAPITAL_LETTER_I_WITH_TILDE_BELOW;",
  "6SMALL_LETTER_I_WITH_TILDE_BELOW;6CAPITAL_LETTER_I_WITH_DIAERESIS_AND_ACUTE;",
  "6SMALL_LETTER_I_WITH_DIAERESIS_AND_ACUTE;6CAPITAL_LETTER_K_WITH_ACUTE;",
  "6SMALL_LETTER_K_WITH_ACUTE;6CAPITAL_LETTER_K_WITH_DOT_BELOW;6SMALL_LETTER_K_WITH_DOT_BELOW;",
  "6CAPITAL_LETTER_K_WITH_LINE_BELOW;6SMALL_LETTER_K_WITH_LINE_BELOW;",
  "6CAPITAL_LETTER_L_WITH_DOT_BELOW;6SMALL_LETTER_L_WITH_DOT_BELOW;",
  "6CAPITAL_LETTER_L_WITH_DOT_BELOW_AND_MACRON;6SMALL_LETTER_L_WITH_DOT_BELOW_AND_MACRON;",
  "6CAPITAL_LETTER_L_WITH_LINE_BELOW;6SMALL_LETTER_L_WITH_LINE_BELOW;",
  "6CAPITAL_LETTER_L_WITH_CIRCUMFLEX_BELOW;6SMALL_LETTER_L_WITH_CIRCUMFLEX_BELOW;",
  "6CAPITAL_LETTER_M_WITH_ACUTE;6SMALL_LETTER_M_WITH_ACUTE;6CAPITAL_LETTER_M_WITH_DOT_ABOVE;",
  "6SMALL_LETTER_M_WITH_DOT_ABOVE;6CAPITAL_LETTER_M_WITH_DOT_BELOW;6SMALL_LETTER_M_WITH_DOT_BELOW;",
  "6CAPITAL_LETTER_N_WITH_DOT_ABOVE;6SMALL_LETTER_N_WITH_DOT_ABOVE;",
  "6CAPITAL_LETTER_N_WITH_DOT_BELOW;6SMALL_LETTER_N_WITH_DOT_BELOW;",
  "6CAPITAL_LETTER_N_WITH_LINE_BELOW;6SMALL_LETTER_N_WITH_LINE_BELOW;",
  "6CAPITAL_LETTER_N_WITH_CIRCUMFLEX_BELOW;6SMALL_LETTER_N_WITH_CIRCUMFLEX_BELOW;",
  "6CAPITAL_LETTER_O_WITH_TILDE_AND_ACUTE;6SMALL_LETTER_O_WITH_TILDE_AND_ACUTE;",
  "6CAPITAL_LETTER_O_WITH_TILDE_AND_DIAERESIS;6SMALL_LETTER_O_WITH_TILDE_AND_DIAERESIS;",
  "6CAPITAL_LETTER_O_WITH_MACRON_AND_GRAVE;6SMALL_LETTER_O_WITH_MACRON_AND_GRAVE;",
  "6CAPITAL_LETTER_O_WITH_MACRON_AND_ACUTE;6SMALL_LETTER_O_WITH_MACRON_AND_ACUTE;",
  "6CAPITAL_LETTER_P_WITH_ACUTE;6SMALL_LETTER_P_WITH_ACUTE;6CAPITAL_LETTER_P_WITH_DOT_ABOVE;",
  "6SMALL_LETTER_P_WITH_DOT_ABOVE;6CAPITAL_LETTER_R_WITH_DOT_ABOVE;6SMALL_LETTER_R_WITH_DOT_ABOVE;",
  "6CAPITAL_LETTER_R_WITH_DOT_BELOW;6SMALL_LETTER_R_WITH_DOT_BELOW;",
  "6CAPITAL_LETTER_R_WITH_DOT_BELOW_AND_MACRON;6SMALL_LETTER_R_WITH_DOT_BELOW_AND_MACRON;",
  "6CAPITAL_LETTER_R_WITH_LINE_BELOW;6SMALL_LETTER_R_WITH_LINE_BELOW;",
  "6CAPITAL_LETTER_S_WITH_DOT_ABOVE;6SMALL_LETTER_S_WITH_DOT_ABOVE;",
  "6CAPITAL_LETTER_S_WITH_DOT_BELOW;6SMALL_LETTER_S_WITH_DOT_BELOW;",
  "6CAPITAL_LETTER_S_WITH_ACUTE_AND_DOT_ABOVE;6SMALL_LETTER_S_WITH_ACUTE_AND_DOT_ABOVE;",
  "6CAPITAL_LETTER_S_WITH_CARON_AND_DOT_ABOVE;6SMALL_LETTER_S_WITH_CARON_AND_DOT_ABOVE;",
  "6CAPITAL_LETTER_S_WITH_DOT_BELOW_AND_DOT_ABOVE;6SMALL_LETTER_S_WITH_DOT_BELOW_AND_DOT_ABOVE;",
  "6CAPITAL_LETTER_T_WITH_DOT_ABOVE;6SMALL_LETTER_T_WITH_DOT_ABOVE;",
  "6CAPITAL_LETTER_T_WITH_DOT_BELOW;6SMALL_LETTER_T_WITH_DOT_BELOW;",
  "6CAPITAL_LETTER_T_WITH_LINE_BELOW;6SMALL_LETTER_T_WITH_LINE_BELOW;",
  "6CAPITAL_LETTER_T_WITH_CIRCUMFLEX_BELOW;6SMALL_LETTER_T_WITH_CIRCUMFLEX_BELOW;",
  "6CAPITAL_LETTER_U_WITH_DIAERESIS_BELOW;6SMALL_LETTER_U_WITH_DIAERESIS_BELOW;",
  "6CAPITAL_LETTER_U_WITH_TILDE_BELOW;6SMALL_LETTER_U_WITH_TILDE_BELOW;",
  "6CAPITAL_LETTER_U_WITH_CIRCUMFLEX_BELOW;6SMALL_LETTER_U_WITH_CIRCUMFLEX_BELOW;",
  "6CAPITAL_LETTER_U_WITH_TILDE_AND_ACUTE;6SMALL_LETTER_U_WITH_TILDE_AND_ACUTE;",
  "6CAPITAL_LETTER_U_WITH_MACRON_AND_DIAERESIS;6SMALL_LETTER_U_WITH_MACRON_AND_DIAERESIS;",
  "6CAPITAL_LETTER_V_WITH_TILDE;6SMALL_LETTER_V_WITH_TILDE;6CAPITAL_LETTER_V_WITH_DOT_BELOW;",
  "6SMALL_LETTER_V_WITH_DOT_BELOW;6CAPITAL_LETTER_W_WITH_GRAVE;6SMALL_LETTER_W_WITH_GRAVE;",
  "6CAPITAL_LETTER_W_WITH_ACUTE;6SMALL_LETTER_W_WITH_ACUTE;6CAPITAL_LETTER_W_WITH_DIAERESIS;",
  "6SMALL_LETTER_W_WITH_DIAERESIS;6CAPITAL_LETTER_W_WITH_DOT_ABOVE;6SMALL_LETTER_W_WITH_DOT_ABOVE;",
  "6CAPITAL_LETTER_W_WITH_DOT_BELOW;6SMALL_LETTER_W_WITH_DOT_BELOW;",
  "6CAPITAL_LETTER_X_WITH_DOT_ABOVE;6SMALL_LETTER_X_WITH_DOT_ABOVE;",
  "6CAPITAL_LETTER_X_WITH_DIAERESIS;6SMALL_LETTER_X_WITH_DIAERESIS;",
  "6CAPITAL_LETTER_Y_WITH_DOT_ABOVE;6SMALL_LETTER_Y_WITH_DOT_ABOVE;",
  "6CAPITAL_LETTER_Z_WITH_CIRCUMFLEX;6SMALL_LETTER_Z_WITH_CIRCUMFLEX;",
  "6CAPITAL_LETTER_Z_WITH_DOT_BELOW;6SMALL_LETTER_Z_WITH_DOT_BELOW;",
  "6CAPITAL_LETTER_Z_WITH_LINE_BELOW;6SMALL_LETTER_Z_WITH_LINE_BELOW;jH_WITH_LINE_BELOW;",
  "jT_WITH_DIAERESIS;jW_WITH_RING_ABOVE;jY_WITH_RING_ABOVE;jA_WITH_RIGHT_HALF_RING;",
  "jLONG_S_WITH_DOT_ABOVE;wIAGONAL_STROKE;vHIGH_STROKE;6CAPITAL_LETTER_SHARP_S;",
  "6SMALL_LETTER_DELTA;6CAPITAL_LETTER_A_WITH_DOT_BELOW;6SMALL_LETTER_A_WITH_DOT_BELOW;",
  "6CAPITAL_LETTER_A_WITH_HOOK_ABOVE;6SMALL_LETTER_A_WITH_HOOK_ABOVE;",
  "6CAPITAL_LETTER_A_WITH_CIRCUMFLEX_AND_ACUTE;6SMALL_LETTER_A_WITH_CIRCUMFLEX_AND_ACUTE;",
  "6CAPITAL_LETTER_A_WITH_CIRCUMFLEX_AND_GRAVE;6SMALL_LETTER_A_WITH_CIRCUMFLEX_AND_GRAVE;",
  "6CAPITAL_LETTER_A_WITH_CIRCUMFLEX_AND_HOOK_ABOVE;",
  "6SMALL_LETTER_A_WITH_CIRCUMFLEX_AND_HOOK_ABOVE;6CAPITAL_LETTER_A_WITH_CIRCUMFLEX_AND_TILDE;",
  "6SMALL_LETTER_A_WITH_CIRCUMFLEX_AND_TILDE;6CAPITAL_LETTER_A_WITH_CIRCUMFLEX_AND_DOT_BELOW;",
  "6SMALL_LETTER_A_WITH_CIRCUMFLEX_AND_DOT_BELOW;6CAPITAL_LETTER_A_WITH_BREVE_AND_ACUTE;",
  "6SMALL_LETTER_A_WITH_BREVE_AND_ACUTE;6CAPITAL_LETTER_A_WITH_BREVE_AND_GRAVE;",
  "6SMALL_LETTER_A_WITH_BREVE_AND_GRAVE;6CAPITAL_LETTER_A_WITH_BREVE_AND_HOOK_ABOVE;",
  "6SMALL_LETTER_A_WITH_BREVE_AND_HOOK_ABOVE;6CAPITAL_LETTER_A_WITH_BREVE_AND_TILDE;",
  "6SMALL_LETTER_A_WITH_BREVE_AND_TILDE;6CAPITAL_LETTER_A_WITH_BREVE_AND_DOT_BELOW;",
  "6SMALL_LETTER_A_WITH_BREVE_AND_DOT_BELOW;6CAPITAL_LETTER_E_WITH_DOT_BELOW;",
  "6SMALL_LETTER_E_WITH_DOT_BELOW;6CAPITAL_LETTER_E_WITH_HOOK_ABOVE;",
  "6SMALL_LETTER_E_WITH_HOOK_ABOVE;6CAPITAL_LETTER_E_WITH_TILDE;6SMALL_LETTER_E_WITH_TILDE;",
  "6CAPITAL_LETTER_E_WITH_CIRCUMFLEX_AND_ACUTE;6SMALL_LETTER_E_WITH_CIRCUMFLEX_AND_ACUTE;",
  "6CAPITAL_LETTER_E_WITH_CIRCUMFLEX_AND_GRAVE;6SMALL_LETTER_E_WITH_CIRCUMFLEX_AND_GRAVE;",
  "6CAPITAL_LETTER_E_WITH_CIRCUMFLEX_AND_HOOK_ABOVE;",
  "6SMALL_LETTER_E_WITH_CIRCUMFLEX_AND_HOOK_ABOVE;6CAPITAL_LETTER_E_WITH_CIRCUMFLEX_AND_TILDE;",
  "6SMALL_LETTER_E_WITH_CIRCUMFLEX_AND_TILDE;6CAPITAL_LETTER_E_WITH_CIRCUMFLEX_AND_DOT_BELOW;",
  "6SMALL_LETTER_E_WITH_CIRCUMFLEX_AND_DOT_BELOW;6CAPITAL_LETTER_I_WITH_HOOK_ABOVE;",
  "6SMALL_LETTER_I_WITH_HOOK_ABOVE;6CAPITAL_LETTER_I_WITH_DOT_BELOW;",
  "6SMALL_LETTER_I_WITH_DOT_BELOW;6CAPITAL_LETTER_O_WITH_DOT_BELOW;6SMALL_LETTER_O_WITH_DOT_BELOW;",
  "6CAPITAL_LETTER_O_WITH_HOOK_ABOVE;6SMALL_LETTER_O_WITH_HOOK_ABOVE;",
  "6CAPITAL_LETTER_O_WITH_CIRCUMFLEX_AND_ACUTE;6SMALL_LETTER_O_WITH_CIRCUMFLEX_AND_ACUTE;",
  "6CAPITAL_LETTER_O_WITH_CIRCUMFLEX_AND_GRAVE;6SMALL_LETTER_O_WITH_CIRCUMFLEX_AND_GRAVE;",
  "6CAPITAL_LETTER_O_WITH_CIRCUMFLEX_AND_HOOK_ABOVE;",
  "6SMALL_LETTER_O_WITH_CIRCUMFLEX_AND_HOOK_ABOVE;6CAPITAL_LETTER_O_WITH_CIRCUMFLEX_AND_TILDE;",
  "6SMALL_LETTER_O_WITH_CIRCUMFLEX_AND_TILDE;6CAPITAL_LETTER_O_WITH_CIRCUMFLEX_AND_DOT_BELOW;",
  "6SMALL_LETTER_O_WITH_CIRCUMFLEX_AND_DOT_BELOW;6CAPITAL_LETTER_O_WITH_HORN_AND_ACUTE;",
  "6SMALL_LETTER_O_WITH_HORN_AND_ACUTE;6CAPITAL_LETTER_O_WITH_HORN_AND_GRAVE;",
  "6SMALL_LETTER_O_WITH_HORN_AND_GRAVE;6CAPITAL_LETTER_O_WITH_HORN_AND_HOOK_ABOVE;",
  "6SMALL_LETTER_O_WITH_HORN_AND_HOOK_ABOVE;6CAPITAL_LETTER_O_WITH_HORN_AND_TILDE;",
  "6SMALL_LETTER_O_WITH_HORN_AND_TILDE;6CAPITAL_LETTER_O_WITH_HORN_AND_DOT_BELOW;",
  "6SMALL_LETTER_O_WITH_HORN_AND_DOT_BELOW;6CAPITAL_LETTER_U_WITH_DOT_BELOW;",
  "6SMALL_LETTER_U_WITH_DOT_BELOW;6CAPITAL_LETTER_U_WITH_HOOK_ABOVE;",
  "6SMALL_LETTER_U_WITH_HOOK_ABOVE;6CAPITAL_LETTER_U_WITH_HORN_AND_ACUTE;",
  "6SMALL_LETTER_U_WITH_HORN_AND_ACUTE;6CAPITAL_LETTER_U_WITH_HORN_AND_GRAVE;",
  "6SMALL_LETTER_U_WITH_HORN_AND_GRAVE;6CAPITAL_LETTER_U_WITH_HORN_AND_HOOK_ABOVE;",
  "6SMALL_LETTER_U_WITH_HORN_AND_HOOK_ABOVE;6CAPITAL_LETTER_U_WITH_HORN_AND_TILDE;",
  "6SMALL_LETTER_U_WITH_HORN_AND_TILDE;6CAPITAL_LETTER_U_WITH_HORN_AND_DOT_BELOW;",
  "6SMALL_LETTER_U_WITH_HORN_AND_DOT_BELOW;6CAPITAL_LETTER_Y_WITH_GRAVE;",
  "6SMALL_LETTER_Y_WITH_GRAVE;6CAPITAL_LETTER_Y_WITH_DOT_BELOW;6SMALL_LETTER_Y_WITH_DOT_BELOW;",
  "6CAPITAL_LETTER_Y_WITH_HOOK_ABOVE;6SMALL_LETTER_Y_WITH_HOOK_ABOVE;6CAPITAL_LETTER_Y_WITH_TILDE;",
  "6SMALL_LETTER_Y_WITH_TILDE;6CAPITAL_LETTER_MIDDLE-WELSH_LL;6SMALL_LETTER_MIDDLE-WELSH_LL;",
  "6CAPITAL_LETTER_MIDDLE-WELSH_V;6SMALL_LETTER_MIDDLE-WELSH_V;6CAPITAL_LETTER_Y_WITH_LOOP;",
  "6SMALL_LETTER_Y_WITH_LOOP;0GREEK_SMALL_LETTER_ALPHA_WITH_PSILI;uDASIA;uPSILI_AND_VARIA;",
  "uDASIA_AND_VARIA;uPSILI_AND_OXIA;uDASIA_AND_OXIA;uPSILI_AND_PERISPOMENI;uDASIA_AND_PERISPOMENI;",
  "6CAPITAL_LETTER_ALPHA_WITH_PSILI;wDASIA;wPSILI_AND_VARIA;wDASIA_AND_VARIA;wPSILI_AND_OXIA;",
  "wDASIA_AND_OXIA;wPSILI_AND_PERISPOMENI;wDASIA_AND_PERISPOMENI;6SMALL_LETTER_EPSILON_WITH_PSILI;",
  "wDASIA;wPSILI_AND_VARIA;wDASIA_AND_VARIA;wPSILI_AND_OXIA;wDASIA_AND_OXIA;",
  ">1F18:6CAPITAL_LETTER_EPSILON_WITH_PSILI;yDASIA;yPSILI_AND_VARIA;yDASIA_AND_VARIA;",
  "yPSILI_AND_OXIA;yDASIA_AND_OXIA;>1F20:6SMALL_LETTER_ETA_WITH_PSILI;sDASIA;sPSILI_AND_VARIA;",
  "sDASIA_AND_VARIA;sPSILI_AND_OXIA;sDASIA_AND_OXIA;sPSILI_AND_PERISPOMENI;sDASIA_AND_PERISPOMENI;",
  "6CAPITAL_LETTER_ETA_WITH_PSILI;uDASIA;uPSILI_AND_VARIA;uDASIA_AND_VARIA;uPSILI_AND_OXIA;",
  "uDASIA_AND_OXIA;uPSILI_AND_PERISPOMENI;uDASIA_AND_PERISPOMENI;6SMALL_LETTER_IOTA_WITH_PSILI;",
  "tDASIA;tPSILI_AND_VARIA;tDASIA_AND_VARIA;tPSILI_AND_OXIA;tDASIA_AND_OXIA;",
  "tPSILI_AND_PERISPOMENI;tDASIA_AND_PERISPOMENI;6CAPITAL_LETTER_IOTA_WITH_PSILI;vDASIA;",
  "vPSILI_AND_VARIA;vDASIA_AND_VARIA;vPSILI_AND_OXIA;vDASIA_AND_OXIA;vPSILI_AND_PERISPOMENI;",
  "vDASIA_AND_PERISPOMENI;6SMALL_LETTER_OMICRON_WITH_PSILI;wDASIA;wPSILI_AND_VARIA;",
  "wDASIA_AND_VARIA;wPSILI_AND_OXIA;wDASIA_AND_OXIA;>1F48:6CAPITAL_LETTER_OMICRON_WITH_PSILI;",
  "yDASIA;yPSILI_AND_VARIA;yDASIA_AND_VARIA;yPSILI_AND_OXIA;yDASIA_AND_OXIA;",
  ">1F50:6SMALL_LETTER_UPSILON_WITH_PSILI;wDASIA;wPSILI_AND_VARIA;wDASIA_AND_VARIA;",
  "wPSILI_AND_OXIA;wDASIA_AND_OXIA;wPSILI_AND_PERISPOMENI;wDASIA_AND_PERISPOMENI;",
  ">1F59:6CAPITAL_LETTER_UPSILON_WITH_DASIA;>1F5B:D_AND_VARIA;>1F5D:IOXIA;>1F5F:IPERISPOMENI;",
  "6SMALL_LETTER_OMEGA_WITH_PSILI;uDASIA;uPSILI_AND_VARIA;uDASIA_AND_VARIA;uPSILI_AND_OXIA;",
  "uDASIA_AND_OXIA;uPSILI_AND_PERISPOMENI;uDASIA_AND_PERISPOMENI;6CAPITAL_LETTER_OMEGA_WITH_PSILI;",
  "wDASIA;wPSILI_AND_VARIA;wDASIA_AND_VARIA;wPSILI_AND_OXIA;wDASIA_AND_OXIA;",
  "wPSILI_AND_PERISPOMENI;wDASIA_AND_PERISPOMENI;6SMALL_LETTER_ALPHA_WITH_VARIA;uOXIA;",
  "jEPSILON_WITH_VARIA;wOXIA;kTA_WITH_VARIA;sOXIA;jIOTA_WITH_VARIA;tOXIA;jOMICRON_WITH_VARIA;",
  "wOXIA;jUPSILON_WITH_VARIA;wOXIA;jOMEGA_WITH_VARIA;uOXIA;",
  ">1F80:jALPHA_WITH_PSILI_AND_YPOGEGRAMMENI;uDASIA_AND_YPOGEGRAMMENI;",
  "uPSILI_AND_VARIA_AND_YPOGEGRAMMENI;uDASIA_AND_VARIA_AND_YPOGEGRAMMENI;",
  "uPSILI_AND_OXIA_AND_YPOGEGRAMMENI;uDASIA_AND_OXIA_AND_YPOGEGRAMMENI;",
  "uPSILI_AND_PERISPOMENI_AND_YPOGEGRAMMENI;uDASIA_AND_PERISPOMENI_AND_YPOGEGRAMMENI;",
  "6CAPITAL_LETTER_ALPHA_WITH_PSILI_AND_PROSGEGRAMMENI;wDASIA_AND_PROSGEGRAMMENI;",
  "wPSILI_AND_VARIA_AND_PROSGEGRAMMENI;wDASIA_AND_VARIA_AND_PROSGEGRAMMENI;",
  "wPSILI_AND_OXIA_AND_PROSGEGRAMMENI;wDASIA_AND_OXIA_AND_PROSGEGRAMMENI;",
  "wPSILI_AND_PERISPOMENI_AND_PROSGEGRAMMENI;wDASIA_AND_PERISPOMENI_AND_PROSGEGRAMMENI;",
  "6SMALL_LETTER_ETA_WITH_PSILI_AND_YPOGEGRAMMENI;sDASIA_AND_YPOGEGRAMMENI;",
  "sPSILI_AND_VARIA_AND_YPOGEGRAMMENI;sDASIA_AND_VARIA_AND_YPOGEGRAMMENI;",
  "sPSILI_AND_OXIA_AND_YPOGEGRAMMENI;sDASIA_AND_OXIA_AND_YPOGEGRAMMENI;",
  "sPSILI_AND_PERISPOMENI_AND_YPOGEGRAMMENI;sDASIA_AND_PERISPOMENI_AND_YPOGEGRAMMENI;",
  "6CAPITAL_LETTER_ETA_WITH_PSILI_AND_PROSGEGRAMMENI;uDASIA_AND_PROSGEGRAMMENI;",
  "uPSILI_AND_VARIA_AND_PROSGEGRAMMENI;uDASIA_AND_VARIA_AND_PROSGEGRAMMENI;",
  "uPSILI_AND_OXIA_AND_PROSGEGRAMMENI;uDASIA_AND_OXIA_AND_PROSGEGRAMMENI;",
  "uPSILI_AND_PERISPOMENI_AND_PROSGEGRAMMENI;uDASIA_AND_PERISPOMENI_AND_PROSGEGRAMMENI;",
  "6SMALL_LETTER_OMEGA_WITH_PSILI_AND_YPOGEGRAMMENI;uDASIA_AND_YPOGEGRAMMENI;",
  "uPSILI_AND_VARIA_AND_YPOGEGRAMMENI;uDASIA_AND_VARIA_AND_YPOGEGRAMMENI;",
  "uPSILI_AND_OXIA_AND_YPOGEGRAMMENI;uDASIA_AND_OXIA_AND_YPOGEGRAMMENI;",
  "uPSILI_AND_PERISPOMENI_AND_YPOGEGRAMMENI;uDASIA_AND_PERISPOMENI_AND_YPOGEGRAMMENI;",
  "6CAPITAL_LETTER_OMEGA_WITH_PSILI_AND_PROSGEGRAMMENI;wDASIA_AND_PROSGEGRAMMENI;",
  "wPSILI_AND_VARIA_AND_PROSGEGRAMMENI;wDASIA_AND_VARIA_AND_PROSGEGRAMMENI;",
  "wPSILI_AND_OXIA_AND_PROSGEGRAMMENI;wDASIA_AND_OXIA_AND_PROSGEGRAMMENI;",
  "wPSILI_AND_PERISPOMENI_AND_PROSGEGRAMMENI;wDASIA_AND_PERISPOMENI_AND_PROSGEGRAMMENI;",
  "6SMALL_LETTER_ALPHA_WITH_VRACHY;uMACRON;uVARIA_AND_YPOGEGRAMMENI;uYPOGEGRAMMENI;",
  "uOXIA_AND_YPOGEGRAMMENI;>1FB6:uPERISPOMENI;F_AND_YPOGEGRAMMENI;",
  "6CAPITAL_LETTER_ALPHA_WITH_VRACHY;wMACRON;wVARIA;wOXIA;wPROSGEGRAMMENI;6KORONIS;",
  "6PROSGEGRAMMENI;7SILI;7ERISPOMENI;6DIALYTIKA_AND_PERISPOMENI;",
  "6SMALL_LETTER_ETA_WITH_VARIA_AND_YPOGEGRAMMENI;sYPOGEGRAMMENI;sOXIA_AND_YPOGEGRAMMENI;",
  ">1FC6:sPERISPOMENI;D_AND_YPOGEGRAMMENI;6CAPITAL_LETTER_EPSILON_WITH_VARIA;yOXIA;mTA_WITH_VARIA;",
  "uOXIA;uPROSGEGRAMMENI;6PSILI_AND_VARIA;gOXIA;gPERISPOMENI;6SMALL_LETTER_IOTA_WITH_VRACHY;",
  "tMACRON;tDIALYTIKA_AND_VARIA;HOXIA;>1FD6:tPERISPOMENI;tDIALYTIKA_AND_PERISPOMENI;",
  "6CAPITAL_LETTER_IOTA_WITH_VRACHY;vMACRON;vVARIA;vOXIA;>1FDD:6DASIA_AND_VARIA;gOXIA;",
  "gPERISPOMENI;6SMALL_LETTER_UPSILON_WITH_VRACHY;wMACRON;wDIALYTIKA_AND_VARIA;KOXIA;",
  "jRHO_WITH_PSILI;sDASIA;jUPSILON_WITH_PERISPOMENI;wDIALYTIKA_AND_PERISPOMENI;",
  "6CAPITAL_LETTER_UPSILON_WITH_VRACHY;yMACRON;yVARIA;yOXIA;lRHO_WITH_DASIA;6DIALYTIKA_AND_VARIA;",
  "kOXIA;6VARIA;>1FF2:6SMALL_LETTER_OMEGA_WITH_VARIA_AND_YPOGEGRAMMENI;uYPOGEGRAMMENI;",
  "uOXIA_AND_YPOGEGRAMMENI;>1FF6:uPERISPOMENI;F_AND_YPOGEGRAMMENI;",
  "6CAPITAL_LETTER_OMICRON_WITH_VARIA;yOXIA;nEGA_WITH_VARIA;wOXIA;wPROSGEGRAMMENI;6OXIA;6DASIA;",
  ">2000:0EN_QUAD;1M_QUAD;1N_SPACE;1M_SPACE;0THREE-PER-EM_SPACE;0FOUR-PER-EM_SPACE;",
  "0SIX-PER-EM_SPACE;0FIGURE_SPACE;0PUNCTUATION_SPACE;0THIN_SPACE;0HAIR_SPACE;0ZERO_WIDTH_SPACE;",
  "bNON-JOINER;bJOINER;0LEFT-TO-RIGHT_MARK;0RIGHT-TO-LEFT_MARK;0HYPHEN;0NON-BREAKING_HYPHEN;",
  "0FIGURE_DASH;0EN_DASH;1M_DASH;0HORIZONTAL_BAR;0DOUBLE_VERTICAL_LINE;7LOW_LINE;",
  "0LEFT_SINGLE_QUOTATION_MARK;0RIGHT_SINGLE_QUOTATION_MARK;0SINGLE_LOW-9_QUOTATION_MARK;",
  "7HIGH-REVERSED-9_QUOTATION_MARK;0LEFT_DOUBLE_QUOTATION_MARK;0RIGHT_DOUBLE_QUOTATION_MARK;",
  "0DOUBLE_LOW-9_QUOTATION_MARK;7HIGH-REVERSED-9_QUOTATION_MARK;1AGGER;1OUBLE_DAGGER;0BULLET;",
  "0TRIANGULAR_BULLET;0ONE_DOT_LEADER;0TWO_DOT_LEADER;0HORIZONTAL_ELLIPSIS;1YPHENATION_POINT;",
  "0LINE_SEPARATOR;0PARAGRAPH_SEPARATOR;0LEFT-TO-RIGHT_EMBEDDING;0RIGHT-TO-LEFT_EMBEDDING;",
  "0POP_DIRECTIONAL_FORMATTING;0LEFT-TO-RIGHT_OVERRIDE;0RIGHT-TO-LEFT_OVERRIDE;",
  "0NARROW_NO-BREAK_SPACE;0PER_MILLE_SIGN;4TEN_THOUSAND_SIGN;1RIME;0DOUBLE_PRIME;0TRIPLE_PRIME;",
  "0REVERSED_PRIME;9DOUBLE_PRIME;9TRIPLE_PRIME;0CARET;0SINGLE_LEFT-POINTING_ANGLE_QUOTATION_MARK;",
  "7RIGHT-POINTING_ANGLE_QUOTATION_MARK;0REFERENCE_MARK;0DOUBLE_EXCLAMATION_MARK;0INTERROBANG;",
  "0OVERLINE;0UNDERTIE;0CHARACTER_TIE;1ARET_INSERTION_POINT;0ASTERISM;0HYPHEN_BULLET;",
  "0FRACTION_SLASH;0LEFT_SQUARE_BRACKET_WITH_QUILL;0RIGHT_SQUARE_BRACKET_WITH_QUILL;",
  "0DOUBLE_QUESTION_MARK;0QUESTION_EXCLAMATION_MARK;0EXCLAMATION_QUESTION_MARK;0TIRONIAN_SIGN_ET;"]

end Milp.Text.CharacterName
