set_option autoImplicit false

/-! # Names of the characters from U+204B to U+29E3

The names that Unicode 14 gives them, in the form that `Milp.Text.CharacterName` reads. -/

namespace Milp.Text.CharacterName

/-- Names from U+204B to U+29E3. -/
def part3 : List String := [
  ">204B:0REVERSED_PILCROW_SIGN;0BLACK_LEFTWARDS_BULLET;6RIGHTWARDS_BULLET;0LOW_ASTERISK;",
  "0REVERSED_SEMICOLON;0CLOSE_UP;0TWO_ASTERISKS_ALIGNED_VERTICALLY;0COMMERCIAL_MINUS_SIGN;",
  "0SWUNG_DASH;0INVERTED_UNDERTIE;0FLOWER_PUNCTUATION_MARK;0THREE_DOT_PUNCTUATION;",
  "0QUADRUPLE_PRIME;0FOUR_DOT_PUNCTUATION;1IVE_DOT_PUNCTUATION;0TWO_DOT_PUNCTUATION;",
  "0FOUR_DOT_MARK;0DOTTED_CROSS;0TRICOLON;0VERTICAL_FOUR_DOTS;0MEDIUM_MATHEMATICAL_SPACE;",
  "0WORD_JOINER;0FUNCTION_APPLICATION;0INVISIBLE_TIMES;aSEPARATOR;aPLUS;",
  ">2066:0LEFT-TO-RIGHT_ISOLATE;0RIGHT-TO-LEFT_ISOLATE;0FIRST_STRONG_ISOLATE;",
  "0POP_DIRECTIONAL_ISOLATE;0INHIBIT_SYMMETRIC_SWAPPING;0ACTIVATE_SYMMETRIC_SWAPPING;",
  "0INHIBIT_ARABIC_FORM_SHAPING;0ACTIVATE_ARABIC_FORM_SHAPING;0NATIONAL_DIGIT_SHAPES;",
  "1OMINAL_DIGIT_SHAPES;0SUPERSCRIPT_ZERO;cLATIN_SMALL_LETTER_I;>2074:cFOUR;dIVE;cSIX;dEVEN;",
  "cEIGHT;cNINE;cPLUS_SIGN;cMINUS;cEQUALS_SIGN;cLEFT_PARENTHESIS;cRIGHT_PARENTHESIS;",
  "cLATIN_SMALL_LETTER_N;2BSCRIPT_ZERO;aONE;aTWO;bHREE;aFOUR;bIVE;aSIX;bEVEN;aEIGHT;aNINE;",
  "aPLUS_SIGN;aMINUS;aEQUALS_SIGN;aLEFT_PARENTHESIS;aRIGHT_PARENTHESIS;",
  ">2090:0LATIN_SUBSCRIPT_SMALL_LETTER_A;tE;tO;tX;tSCHWA;tH;tK;tL;tM;tN;tP;tS;tT;",
  ">20A0:0EURO-CURRENCY_SIGN;0COLON_SIGN;1RUZEIRO_SIGN;0FRENCH_FRANC_SIGN;0LIRA_SIGN;0MILL_SIGN;",
  "0NAIRA_SIGN;0PESETA_SIGN;0RUPEE_SIGN;0WON_SIGN;0NEW_SHEQEL_SIGN;0DONG_SIGN;0EURO_SIGN;",
  "0KIP_SIGN;0TUGRIK_SIGN;0DRACHMA_SIGN;0GERMAN_PENNY_SIGN;0PESO_SIGN;0GUARANI_SIGN;0AUSTRAL_SIGN;",
  "0HRYVNIA_SIGN;0CEDI_SIGN;0LIVRE_TOURNOIS_SIGN;0SPESMILO_SIGN;0TENGE_SIGN;0INDIAN_RUPEE_SIGN;",
  "0TURKISH_LIRA_SIGN;0NORDIC_MARK_SIGN;0MANAT_SIGN;0RUBLE_SIGN;0LARI_SIGN;0BITCOIN_SIGN;",
  "0SOM_SIGN;>20D0:0COMBINING_LEFT_HARPOON_ABOVE;aRIGHT_HARPOON_ABOVE;aLONG_VERTICAL_LINE_OVERLAY;",
  "aSHORT_VERTICAL_LINE_OVERLAY;aANTICLOCKWISE_ARROW_ABOVE;aCLOCKWISE_ARROW_ABOVE;",
  "aLEFT_ARROW_ABOVE;aRIGHT_ARROW_ABOVE;cNG_OVERLAY;aCLOCKWISE_RING_OVERLAY;",
  "aANTICLOCKWISE_RING_OVERLAY;aTHREE_DOTS_ABOVE;aFOUR_DOTS_ABOVE;aENCLOSING_CIRCLE;kSQUARE;",
  "kDIAMOND;kCIRCLE_BACKSLASH;aLEFT_RIGHT_ARROW_ABOVE;aENCLOSING_SCREEN;kKEYCAP;",
  "kUPWARD_POINTING_TRIANGLE;aREVERSE_SOLIDUS_OVERLAY;aDOUBLE_VERTICAL_STROKE_OVERLAY;",
  "aANNUITY_SYMBOL;aTRIPLE_UNDERDOT;aWIDE_BRIDGE_ABOVE;aLEFTWARDS_ARROW_OVERLAY;",
  "bONG_DOUBLE_SOLIDUS_OVERLAY;aRIGHTWARDS_HARPOON_WITH_BARB_DOWNWARDS;",
  "aLEFTWARDS_HARPOON_WITH_BARB_DOWNWARDS;e_ARROW_BELOW;aRIGHT_ARROW_BELOW;aASTERISK_ABOVE;",
  ">2100:0ACCOUNT_OF;1DDRESSED_TO_THE_SUBJECT;0DOUBLE-STRUCK_CAPITAL_C;1EGREE_CELSIUS;",
  "0CENTRE_LINE_SYMBOL;1ARE_OF;2DA_UNA;0EULER_CONSTANT;0SCRUPLE;0DEGREE_FAHRENHEIT;",
  "0SCRIPT_SMALL_G;7CAPITAL_H;0BLACK-LETTER_CAPITAL_H;0DOUBLE-STRUCK_CAPITAL_H;0PLANCK_CONSTANT;",
  "f_OVER_TWO_PI;0SCRIPT_CAPITAL_I;0BLACK-LETTER_CAPITAL_I;0SCRIPT_CAPITAL_L;7SMALL_L;",
  "0L_B_BAR_SYMBOL;0DOUBLE-STRUCK_CAPITAL_N;0NUMERO_SIGN;0SOUND_RECORDING_COPYRIGHT;",
  "1CRIPT_CAPITAL_P;0DOUBLE-STRUCK_CAPITAL_P;mQ;0SCRIPT_CAPITAL_R;0BLACK-LETTER_CAPITAL_R;",
  "0DOUBLE-STRUCK_CAPITAL_R;0PRESCRIPTION_TAKE;0RESPONSE;0SERVICE_MARK;0TELEPHONE_SIGN;",
  "1RADE_MARK_SIGN;0VERSICLE;0DOUBLE-STRUCK_CAPITAL_Z;0OUNCE_SIGN;1HM_SIGN;0INVERTED_OHM_SIGN;",
  "0BLACK-LETTER_CAPITAL_Z;0TURNED_GREEK_SMALL_LETTER_IOTA;0KELVIN_SIGN;0ANGSTROM_SIGN;",
  "0SCRIPT_CAPITAL_B;0BLACK-LETTER_CAPITAL_C;0ESTIMATED_SYMBOL;0SCRIPT_SMALL_E;7CAPITAL_E;fF;",
  "0TURNED_CAPITAL_F;0SCRIPT_CAPITAL_M;7SMALL_O;0ALEF_SYMBOL;0BET_SYMBOL;0GIMEL_SYMBOL;",
  "0DALET_SYMBOL;0INFORMATION_SOURCE;0ROTATED_CAPITAL_Q;0FACSIMILE_SIGN;0DOUBLE-STRUCK_SMALL_PI;",
  "kGAMMA;eCAPITAL_GAMMA;mPI;eN-ARY_SUMMATION;0TURNED_SANS-SERIF_CAPITAL_G;qL;",
  "0REVERSED_SANS-SERIF_CAPITAL_L;0TURNED_SANS-SERIF_CAPITAL_Y;0DOUBLE-STRUCK_ITALIC_CAPITAL_D;",
  "lSMALL_D;rE;rI;rJ;0PROPERTY_LINE;0TURNED_AMPERSAND;0PER_SIGN;0AKTIESELSKAB;0TURNED_SMALL_F;",
  "0SYMBOL_FOR_SAMARITAN_SOURCE;0VULGAR_FRACTION_ONE_SEVENTH;kNINTH;kTENTH;lHIRD;gTWO_THIRDS;",
  "gONE_FIFTH;gTWO_FIFTHS;hHREE_FIFTHS;gFOUR_FIFTHS;gONE_SIXTH;gFIVE_SIXTHS;gONE_EIGHTH;",
  "gTHREE_EIGHTHS;gFIVE_EIGHTHS;gSEVEN_EIGHTHS;0FRACTION_NUMERATOR_ONE;0ROMAN_NUMERAL_ONE;eTWO;",
  "fHREE;eFOUR;fIVE;eSIX;fEVEN;eEIGHT;eNINE;eTEN;eELEVEN;eTWELVE;eFIFTY;eONE_HUNDRED;",
  "eFIVE_HUNDRED;eONE_THOUSAND;0SMALL_ROMAN_NUMERAL_ONE;kTWO;lHREE;kFOUR;lIVE;kSIX;lEVEN;kEIGHT;",
  "kNINE;kTEN;kELEVEN;kTWELVE;kFIFTY;kONE_HUNDRED;kFIVE_HUNDRED;kONE_THOUSAND;",
  "0ROMAN_NUMERAL_ONE_THOUSAND_C_D;eFIVE_THOUSAND;eTEN_THOUSAND;eREVERSED_ONE_HUNDRED;",
  "0LATIN_SMALL_LETTER_REVERSED_C;0ROMAN_NUMERAL_SIX_LATE_FORM;eFIFTY_EARLY_FORM;kTHOUSAND;",
  "eONE_HUNDRED_THOUSAND;0VULGAR_FRACTION_ZERO_THIRDS;0TURNED_DIGIT_TWO;eHREE;",
  ">2190:0LEFTWARDS_ARROW;0UPWARDS_ARROW;0RIGHTWARDS_ARROW;0DOWNWARDS_ARROW;0LEFT_RIGHT_ARROW;",
  "0UP_DOWN_ARROW;0NORTH_WEST_ARROW;6EAST_ARROW;0SOUTH_EAST_ARROW;6WEST_ARROW;",
  "0LEFTWARDS_ARROW_WITH_STROKE;0RIGHTWARDS_ARROW_WITH_STROKE;0LEFTWARDS_WAVE_ARROW;",
  "0RIGHTWARDS_WAVE_ARROW;0LEFTWARDS_TWO_HEADED_ARROW;0UPWARDS_TWO_HEADED_ARROW;",
  "0RIGHTWARDS_TWO_HEADED_ARROW;0DOWNWARDS_TWO_HEADED_ARROW;0LEFTWARDS_ARROW_WITH_TAIL;",
  "0RIGHTWARDS_ARROW_WITH_TAIL;0LEFTWARDS_ARROW_FROM_BAR;0UPWARDS_ARROW_FROM_BAR;",
  "0RIGHTWARDS_ARROW_FROM_BAR;0DOWNWARDS_ARROW_FROM_BAR;0UP_DOWN_ARROW_WITH_BASE;",
  "0LEFTWARDS_ARROW_WITH_HOOK;0RIGHTWARDS_ARROW_WITH_HOOK;0LEFTWARDS_ARROW_WITH_LOOP;",
  "0RIGHTWARDS_ARROW_WITH_LOOP;0LEFT_RIGHT_WAVE_ARROW;bARROW_WITH_STROKE;0DOWNWARDS_ZIGZAG_ARROW;",
  "0UPWARDS_ARROW_WITH_TIP_LEFTWARDS;nRIGHTWARDS;0DOWNWARDS_ARROW_WITH_TIP_LEFTWARDS;pRIGHTWARDS;",
  "0RIGHTWARDS_ARROW_WITH_CORNER_DOWNWARDS;0DOWNWARDS_ARROW_WITH_CORNER_LEFTWARDS;",
  "0ANTICLOCKWISE_TOP_SEMICIRCLE_ARROW;0CLOCKWISE_TOP_SEMICIRCLE_ARROW;",
  "0NORTH_WEST_ARROW_TO_LONG_BAR;0LEFTWARDS_ARROW_TO_BAR_OVER_RIGHTWARDS_ARROW_TO_BAR;",
  "0ANTICLOCKWISE_OPEN_CIRCLE_ARROW;0CLOCKWISE_OPEN_CIRCLE_ARROW;",
  "0LEFTWARDS_HARPOON_WITH_BARB_UPWARDS;sDOWNWARDS;0UPWARDS_HARPOON_WITH_BARB_RIGHTWARDS;",
  "qLEFTWARDS;0RIGHTWARDS_HARPOON_WITH_BARB_UPWARDS;tDOWNWARDS;",
  "0DOWNWARDS_HARPOON_WITH_BARB_RIGHTWARDS;sLEFTWARDS;0RIGHTWARDS_ARROW_OVER_LEFTWARDS_ARROW;",
  "0UPWARDS_ARROW_LEFTWARDS_OF_DOWNWARDS_ARROW;0LEFTWARDS_ARROW_OVER_RIGHTWARDS_ARROW;",
  "aPAIRED_ARROWS;0UPWARDS_PAIRED_ARROWS;0RIGHTWARDS_PAIRED_ARROWS;0DOWNWARDS_PAIRED_ARROWS;",
  "0LEFTWARDS_HARPOON_OVER_RIGHTWARDS_HARPOON;0RIGHTWARDS_HARPOON_OVER_LEFTWARDS_HARPOON;",
  "0LEFTWARDS_DOUBLE_ARROW_WITH_STROKE;4_RIGHT_DOUBLE_ARROW_WITH_STROKE;",
  "0RIGHTWARDS_DOUBLE_ARROW_WITH_STROKE;0LEFTWARDS_DOUBLE_ARROW;0UPWARDS_DOUBLE_ARROW;",
  "0RIGHTWARDS_DOUBLE_ARROW;0DOWNWARDS_DOUBLE_ARROW;0LEFT_RIGHT_DOUBLE_ARROW;",
  "0UP_DOWN_DOUBLE_ARROW;0NORTH_WEST_DOUBLE_ARROW;6EAST_DOUBLE_ARROW;0SOUTH_EAST_DOUBLE_ARROW;",
  "6WEST_DOUBLE_ARROW;0LEFTWARDS_TRIPLE_ARROW;0RIGHTWARDS_TRIPLE_ARROW;0LEFTWARDS_SQUIGGLE_ARROW;",
  "0RIGHTWARDS_SQUIGGLE_ARROW;0UPWARDS_ARROW_WITH_DOUBLE_STROKE;",
  "0DOWNWARDS_ARROW_WITH_DOUBLE_STROKE;0LEFTWARDS_DASHED_ARROW;0UPWARDS_DASHED_ARROW;",
  "0RIGHTWARDS_DASHED_ARROW;0DOWNWARDS_DASHED_ARROW;0LEFTWARDS_ARROW_TO_BAR;",
  "0RIGHTWARDS_ARROW_TO_BAR;0LEFTWARDS_WHITE_ARROW;0UPWARDS_WHITE_ARROW;0RIGHTWARDS_WHITE_ARROW;",
  "0DOWNWARDS_WHITE_ARROW;0UPWARDS_WHITE_ARROW_FROM_BAR;kON_PEDESTAL;v_WITH_HORIZONTAL_BAR;",
  "BVERTICAL_BAR;eDOUBLE_ARROW;q_ON_PEDESTAL;0RIGHTWARDS_WHITE_ARROW_FROM_WALL;",
  "0NORTH_WEST_ARROW_TO_CORNER;0SOUTH_EAST_ARROW_TO_CORNER;0UP_DOWN_WHITE_ARROW;",
  "0RIGHT_ARROW_WITH_SMALL_CIRCLE;0DOWNWARDS_ARROW_LEFTWARDS_OF_UPWARDS_ARROW;",
  "0THREE_RIGHTWARDS_ARROWS;0LEFTWARDS_ARROW_WITH_VERTICAL_STROKE;",
  "0RIGHTWARDS_ARROW_WITH_VERTICAL_STROKE;0LEFT_RIGHT_ARROW_WITH_VERTICAL_STROKE;",
  "4WARDS_ARROW_WITH_DOUBLE_VERTICAL_STROKE;0RIGHTWARDS_ARROW_WITH_DOUBLE_VERTICAL_STROKE;",
  "0LEFT_RIGHT_ARROW_WITH_DOUBLE_VERTICAL_STROKE;4WARDS_OPEN-HEADED_ARROW;",
  "0RIGHTWARDS_OPEN-HEADED_ARROW;0LEFT_RIGHT_OPEN-HEADED_ARROW;0FOR_ALL;0COMPLEMENT;",
  "0PARTIAL_DIFFERENTIAL;0THERE_EXISTS;6DOES_NOT_EXIST;0EMPTY_SET;0INCREMENT;0NABLA;0ELEMENT_OF;",
  "0NOT_AN_ELEMENT_OF;0SMALL_ELEMENT_OF;0CONTAINS_AS_MEMBER;0DOES_NOT_CONTAIN_AS_MEMBER;",
  "0SMALL_CONTAINS_AS_MEMBER;0END_OF_PROOF;0N-ARY_PRODUCT;6COPRODUCT;6SUMMATION;0MINUS_SIGN;",
  "5-OR-PLUS_SIGN;0DOT_PLUS;1IVISION_SLASH;0SET_MINUS;0ASTERISK_OPERATOR;0RING_OPERATOR;",
  "0BULLET_OPERATOR;0SQUARE_ROOT;0CUBE_ROOT;0FOURTH_ROOT;0PROPORTIONAL_TO;0INFINITY;0RIGHT_ANGLE;",
  "0ANGLE;0MEASURED_ANGLE;0SPHERICAL_ANGLE;0DIVIDES;1OES_NOT_DIVIDE;0PARALLEL_TO;0NOT_PARALLEL_TO;",
  "0LOGICAL_AND;8OR;0INTERSECTION;0UNION;0INTEGRAL;0DOUBLE_INTEGRAL;0TRIPLE_INTEGRAL;",
  "0CONTOUR_INTEGRAL;0SURFACE_INTEGRAL;0VOLUME_INTEGRAL;0CLOCKWISE_INTEGRAL;aCONTOUR_INTEGRAL;",
  "0ANTICLOCKWISE_CONTOUR_INTEGRAL;0THEREFORE;0BECAUSE;0RATIO;0PROPORTION;0DOT_MINUS;0EXCESS;",
  "0GEOMETRIC_PROPORTION;0HOMOTHETIC;0TILDE_OPERATOR;0REVERSED_TILDE;0INVERTED_LAZY_S;0SINE_WAVE;",
  "0WREATH_PRODUCT;0NOT_TILDE;0MINUS_TILDE;0ASYMPTOTICALLY_EQUAL_TO;0NOT_ASYMPTOTICALLY_EQUAL_TO;",
  "0APPROXIMATELY_EQUAL_TO;eBUT_NOT_ACTUALLY_EQUAL_TO;",
  "0NEITHER_APPROXIMATELY_NOR_ACTUALLY_EQUAL_TO;0ALMOST_EQUAL_TO;0NOT_ALMOST_EQUAL_TO;",
  "0ALMOST_EQUAL_OR_EQUAL_TO;0TRIPLE_TILDE;0ALL_EQUAL_TO;0EQUIVALENT_TO;",
  "0GEOMETRICALLY_EQUIVALENT_TO;0DIFFERENCE_BETWEEN;0APPROACHES_THE_LIMIT;0GEOMETRICALLY_EQUAL_TO;",
  "0APPROXIMATELY_EQUAL_TO_OR_THE_IMAGE_OF;0IMAGE_OF_OR_APPROXIMATELY_EQUAL_TO;0COLON_EQUALS;",
  "0EQUALS_COLON;0RING_IN_EQUAL_TO;5EQUAL_TO;0CORRESPONDS_TO;0ESTIMATES;1QUIANGULAR_TO;",
  "0STAR_EQUALS;0DELTA_EQUAL_TO;0EQUAL_TO_BY_DEFINITION;0MEASURED_BY;0QUESTIONED_EQUAL_TO;",
  "0NOT_EQUAL_TO;0IDENTICAL_TO;0NOT_IDENTICAL_TO;0STRICTLY_EQUIVALENT_TO;0LESS-THAN_OR_EQUAL_TO;",
  "0GREATER-THAN_OR_EQUAL_TO;0LESS-THAN_OVER_EQUAL_TO;0GREATER-THAN_OVER_EQUAL_TO;",
  "0LESS-THAN_BUT_NOT_EQUAL_TO;0GREATER-THAN_BUT_NOT_EQUAL_TO;0MUCH_LESS-THAN;5GREATER-THAN;",
  "0BETWEEN;0NOT_EQUIVALENT_TO;4LESS-THAN;4GREATER-THAN;1EITHER_LESS-THAN_NOR_EQUAL_TO;",
  "8GREATER-THAN_NOR_EQUAL_TO;0LESS-THAN_OR_EQUIVALENT_TO;0GREATER-THAN_OR_EQUIVALENT_TO;",
  "0NEITHER_LESS-THAN_NOR_EQUIVALENT_TO;8GREATER-THAN_NOR_EQUIVALENT_TO;",
  "0LESS-THAN_OR_GREATER-THAN;0GREATER-THAN_OR_LESS-THAN;0NEITHER_LESS-THAN_NOR_GREATER-THAN;",
  "8GREATER-THAN_NOR_LESS-THAN;0PRECEDES;0SUCCEEDS;0PRECEDES_OR_EQUAL_TO;0SUCCEEDS_OR_EQUAL_TO;",
  "0PRECEDES_OR_EQUIVALENT_TO;0SUCCEEDS_OR_EQUIVALENT_TO;0DOES_NOT_PRECEDE;9SUCCEED;0SUBSET_OF;",
  "2PERSET_OF;0NOT_A_SUBSET_OF;8PERSET_OF;0SUBSET_OF_OR_EQUAL_TO;2PERSET_OF_OR_EQUAL_TO;",
  "0NEITHER_A_SUBSET_OF_NOR_EQUAL_TO;cPERSET_OF_NOR_EQUAL_TO;0SUBSET_OF_WITH_NOT_EQUAL_TO;",
  "2PERSET_OF_WITH_NOT_EQUAL_TO;0MULTISET;8_MULTIPLICATION;9UNION;0SQUARE_IMAGE_OF;7ORIGINAL_OF;",
  "7IMAGE_OF_OR_EQUAL_TO;7ORIGINAL_OF_OR_EQUAL_TO;7CAP;8UP;0CIRCLED_PLUS;8MINUS;8TIMES;",
  "8DIVISION_SLASH;9OT_OPERATOR;8RING_OPERATOR;8ASTERISK_OPERATOR;8EQUALS;8DASH;0SQUARED_PLUS;",
  "8MINUS;8TIMES;8DOT_OPERATOR;0RIGHT_TACK;0LEFT_TACK;0DOWN_TACK;0UP_TACK;0ASSERTION;0MODELS;",
  "0TRUE;0FORCES;0TRIPLE_VERTICAL_BAR_RIGHT_TURNSTILE;0DOUBLE_VERTICAL_BAR_DOUBLE_RIGHT_TURNSTILE;",
  "2ES_NOT_PROVE;0NOT_TRUE;0DOES_NOT_FORCE;0NEGATED_DOUBLE_VERTICAL_BAR_DOUBLE_RIGHT_TURNSTILE;",
  "0PRECEDES_UNDER_RELATION;0SUCCEEDS_UNDER_RELATION;0NORMAL_SUBGROUP_OF;",
  "0CONTAINS_AS_NORMAL_SUBGROUP;0NORMAL_SUBGROUP_OF_OR_EQUAL_TO;",
  "0CONTAINS_AS_NORMAL_SUBGROUP_OR_EQUAL_TO;0ORIGINAL_OF;0IMAGE_OF;0MULTIMAP;",
  "0HERMITIAN_CONJUGATE_MATRIX;0INTERCALATE;0XOR;0NAND;1OR;0RIGHT_ANGLE_WITH_ARC;6TRIANGLE;",
  "0N-ARY_LOGICAL_AND;eOR;6INTERSECTION;6UNION;0DIAMOND_OPERATOR;1OT_OPERATOR;0STAR_OPERATOR;",
  "0DIVISION_TIMES;0BOWTIE;0LEFT_NORMAL_FACTOR_SEMIDIRECT_PRODUCT;",
  "0RIGHT_NORMAL_FACTOR_SEMIDIRECT_PRODUCT;0LEFT_SEMIDIRECT_PRODUCT;0RIGHT_SEMIDIRECT_PRODUCT;",
  "1EVERSED_TILDE_EQUALS;0CURLY_LOGICAL_OR;eAND;0DOUBLE_SUBSET;9PERSET;7INTERSECTION;7UNION;",
  "0PITCHFORK;0EQUAL_AND_PARALLEL_TO;0LESS-THAN_WITH_DOT;0GREATER-THAN_WITH_DOT;",
  "0VERY_MUCH_LESS-THAN;aGREATER-THAN;0LESS-THAN_EQUAL_TO_OR_GREATER-THAN;",
  "0GREATER-THAN_EQUAL_TO_OR_LESS-THAN;0EQUAL_TO_OR_LESS-THAN;cGREATER-THAN;cPRECEDES;cSUCCEEDS;",
  "0DOES_NOT_PRECEDE_OR_EQUAL;9SUCCEED_OR_EQUAL;0NOT_SQUARE_IMAGE_OF_OR_EQUAL_TO;",
  "bORIGINAL_OF_OR_EQUAL_TO;0SQUARE_IMAGE_OF_OR_NOT_EQUAL_TO;7ORIGINAL_OF_OR_NOT_EQUAL_TO;",
  "0LESS-THAN_BUT_NOT_EQUIVALENT_TO;0GREATER-THAN_BUT_NOT_EQUIVALENT_TO;",
  "0PRECEDES_BUT_NOT_EQUIVALENT_TO;0SUCCEEDS_BUT_NOT_EQUIVALENT_TO;0NOT_NORMAL_SUBGROUP_OF;",
  "0DOES_NOT_CONTAIN_AS_NORMAL_SUBGROUP;0NOT_NORMAL_SUBGROUP_OF_OR_EQUAL_TO;",
  "0DOES_NOT_CONTAIN_AS_NORMAL_SUBGROUP_OR_EQUAL;0VERTICAL_ELLIPSIS;0MIDLINE_HORIZONTAL_ELLIPSIS;",
  "0UP_RIGHT_DIAGONAL_ELLIPSIS;0DOWN_RIGHT_DIAGONAL_ELLIPSIS;",
  "0ELEMENT_OF_WITH_LONG_HORIZONTAL_STROKE;gVERTICAL_BAR_AT_END_OF_HORIZONTAL_STROKE;",
  "0SMALL_ELEMENT_OF_WITH_VERTICAL_BAR_AT_END_OF_HORIZONTAL_STROKE;0ELEMENT_OF_WITH_DOT_ABOVE;",
  "gOVERBAR;0SMALL_ELEMENT_OF_WITH_OVERBAR;0ELEMENT_OF_WITH_UNDERBAR;gTWO_HORIZONTAL_STROKES;",
  "0CONTAINS_WITH_LONG_HORIZONTAL_STROKE;eVERTICAL_BAR_AT_END_OF_HORIZONTAL_STROKE;",
  "0SMALL_CONTAINS_WITH_VERTICAL_BAR_AT_END_OF_HORIZONTAL_STROKE;0CONTAINS_WITH_OVERBAR;",
  "0SMALL_CONTAINS_WITH_OVERBAR;0Z_NOTATION_BAG_MEMBERSHIP;0DIAMETER_SIGN;0ELECTRIC_ARROW;0HOUSE;",
  "0UP_ARROWHEAD;0DOWN_ARROWHEAD;0PROJECTIVE;1ERSPECTIVE;0WAVY_LINE;0LEFT_CEILING;0RIGHT_CEILING;",
  "0LEFT_FLOOR;0RIGHT_FLOOR;0BOTTOM_RIGHT_CROP;7LEFT_CROP;0TOP_RIGHT_CROP;4LEFT_CROP;",
  "0REVERSED_NOT_SIGN;0SQUARE_LOZENGE;0ARC;0SEGMENT;2CTOR;0TELEPHONE_RECORDER;0POSITION_INDICATOR;",
  "0VIEWDATA_SQUARE;0PLACE_OF_INTEREST_SIGN;0TURNED_NOT_SIGN;0WATCH;0HOURGLASS;0TOP_LEFT_CORNER;",
  "4RIGHT_CORNER;0BOTTOM_LEFT_CORNER;7RIGHT_CORNER;0TOP_HALF_INTEGRAL;0BOTTOM_HALF_INTEGRAL;",
  "0FROWN;0SMILE;0UP_ARROWHEAD_BETWEEN_TWO_HORIZONTAL_BARS;0OPTION_KEY;0ERASE_TO_THE_RIGHT;",
  "0X_IN_A_RECTANGLE_BOX;0KEYBOARD;0LEFT-POINTING_ANGLE_BRACKET;0RIGHT-POINTING_ANGLE_BRACKET;",
  "0ERASE_TO_THE_LEFT;0BENZENE_RING;0CYLINDRICITY;0ALL_AROUND-PROFILE;0SYMMETRY;0TOTAL_RUNOUT;",
  "0DIMENSION_ORIGIN;0CONICAL_TAPER;0SLOPE;0COUNTERBORE;7SINK;0APL_FUNCTIONAL_SYMBOL_I-BEAM;",
  "mSQUISH_QUAD;mQUAD_EQUAL;rDIVIDE;tAMOND;rJOT;rCIRCLE;mCIRCLE_STILE;tJOT;mSLASH_BAR;",
  "mBACKSLASH_BAR;mQUAD_SLASH;rBACKSLASH;rLESS-THAN;rGREATER-THAN;mLEFTWARDS_VANE;",
  "mRIGHTWARDS_VANE;mQUAD_LEFTWARDS_ARROW;rRIGHTWARDS_ARROW;mCIRCLE_BACKSLASH;mDOWN_TACK_UNDERBAR;",
  "nELTA_STILE;mQUAD_DOWN_CARET;sELTA;mDOWN_TACK_JOT;mUPWARDS_VANE;mQUAD_UPWARDS_ARROW;",
  "mUP_TACK_OVERBAR;mDEL_STILE;mQUAD_UP_CARET;rDEL;mUP_TACK_JOT;mDOWNWARDS_VANE;",
  "mQUAD_DOWNWARDS_ARROW;oOTE_UNDERBAR;mDELTA_UNDERBAR;nIAMOND_UNDERBAR;mJOT_UNDERBAR;",
  "mCIRCLE_UNDERBAR;mUP_SHOE_JOT;mQUOTE_QUAD;mCIRCLE_STAR;mQUAD_COLON;mUP_TACK_DIAERESIS;",
  "mDEL_DIAERESIS;mSTAR_DIAERESIS;mJOT_DIAERESIS;mCIRCLE_DIAERESIS;mDOWN_SHOE_STILE;",
  "mLEFT_SHOE_STILE;mTILDE_DIAERESIS;mGREATER-THAN_DIAERESIS;mCOMMA_BAR;mDEL_TILDE;mZILDE;",
  "mSTILE_TILDE;nEMICOLON_UNDERBAR;mQUAD_NOT_EQUAL;rQUESTION;mDOWN_CARET_TILDE;mUP_CARET_TILDE;",
  "mIOTA;mRHO;mOMEGA;mALPHA_UNDERBAR;mEPSILON_UNDERBAR;mIOTA_UNDERBAR;mOMEGA_UNDERBAR;mALPHA;",
  "0NOT_CHECK_MARK;0RIGHT_ANGLE_WITH_DOWNWARDS_ZIGZAG_ARROW;0SHOULDERED_OPEN_BOX;0BELL_SYMBOL;",
  "0VERTICAL_LINE_WITH_MIDDLE_DOT;0INSERTION_SYMBOL;0CONTINUOUS_UNDERLINE_SYMBOL;",
  "0DISCONTINUOUS_UNDERLINE_SYMBOL;0EMPHASIS_SYMBOL;0COMPOSITION_SYMBOL;",
  "0WHITE_SQUARE_WITH_CENTRE_VERTICAL_LINE;0ENTER_SYMBOL;0ALTERNATIVE_KEY_SYMBOL;0HELM_SYMBOL;",
  "0CIRCLED_HORIZONTAL_BAR_WITH_NOTCH;8TRIANGLE_DOWN;0BROKEN_CIRCLE_WITH_NORTHWEST_ARROW;",
  "0UNDO_SYMBOL;0MONOSTABLE_SYMBOL;0HYSTERESIS_SYMBOL;0OPEN-CIRCUIT-OUTPUT_H-TYPE_SYMBOL;",
  "kL-TYPE_SYMBOL;0PASSIVE-PULL-DOWN-OUTPUT_SYMBOL;dUP-OUTPUT_SYMBOL;",
  "0DIRECT_CURRENT_SYMBOL_FORM_TWO;0SOFTWARE-FUNCTION_SYMBOL;0APL_FUNCTIONAL_SYMBOL_QUAD;",
  "0DECIMAL_SEPARATOR_KEY_SYMBOL;0PREVIOUS_PAGE;0NEXT_PAGE;0PRINT_SCREEN_SYMBOL;",
  "0CLEAR_SCREEN_SYMBOL;0LEFT_PARENTHESIS_UPPER_HOOK;hEXTENSION;hLOWER_HOOK;",
  "0RIGHT_PARENTHESIS_UPPER_HOOK;iEXTENSION;iLOWER_HOOK;0LEFT_SQUARE_BRACKET_UPPER_CORNER;",
  "kEXTENSION;kLOWER_CORNER;0RIGHT_SQUARE_BRACKET_UPPER_CORNER;lEXTENSION;lLOWER_CORNER;",
  "0LEFT_CURLY_BRACKET_UPPER_HOOK;jMIDDLE_PIECE;jLOWER_HOOK;0CURLY_BRACKET_EXTENSION;",
  "0RIGHT_CURLY_BRACKET_UPPER_HOOK;kMIDDLE_PIECE;kLOWER_HOOK;0INTEGRAL_EXTENSION;",
  "0HORIZONTAL_LINE_EXTENSION;0UPPER_LEFT_OR_LOWER_RIGHT_CURLY_BRACKET_SECTION;",
  "6RIGHT_OR_LOWER_LEFT_CURLY_BRACKET_SECTION;0SUMMATION_TOP;aBOTTOM;0TOP_SQUARE_BRACKET;",
  "0BOTTOM_SQUARE_BRACKET;l_OVER_TOP_SQUARE_BRACKET;0RADICAL_SYMBOL_BOTTOM;",
  "0LEFT_VERTICAL_BOX_LINE;0RIGHT_VERTICAL_BOX_LINE;0HORIZONTAL_SCAN_LINE-1;l3;l7;l9;",
  "0DENTISTRY_SYMBOL_LIGHT_VERTICAL_AND_TOP_RIGHT;ABOTTOM_RIGHT;wWITH_CIRCLE;",
  "nDOWN_AND_HORIZONTAL_WITH_CIRCLE;nUP_AND_HORIZONTAL_WITH_CIRCLE;nVERTICAL_WITH_TRIANGLE;",
  "nDOWN_AND_HORIZONTAL_WITH_TRIANGLE;nUP_AND_HORIZONTAL_WITH_TRIANGLE;nVERTICAL_AND_WAVE;",
  "nDOWN_AND_HORIZONTAL_WITH_WAVE;nUP_AND_HORIZONTAL_WITH_WAVE;nDOWN_AND_HORIZONTAL;",
  "nUP_AND_HORIZONTAL;nVERTICAL_AND_TOP_LEFT;ABOTTOM_LEFT;0SQUARE_FOOT;0RETURN_SYMBOL;",
  "0EJECT_SYMBOL;0VERTICAL_LINE_EXTENSION;0METRICAL_BREVE;9LONG_OVER_SHORT;9SHORT_OVER_LONG;",
  "9LONG_OVER_TWO_SHORTS;9TWO_SHORTS_OVER_LONG;kJOINED;aRISEME;aETRASEME;9PENTASEME;0EARTH_GROUND;",
  "0FUSE;0TOP_PARENTHESIS;0BOTTOM_PARENTHESIS;0TOP_CURLY_BRACKET;0BOTTOM_CURLY_BRACKET;",
  "0TOP_TORTOISE_SHELL_BRACKET;0BOTTOM_TORTOISE_SHELL_BRACKET;0WHITE_TRAPEZIUM;",
  "0BENZENE_RING_WITH_CIRCLE;0STRAIGHTNESS;0FLATNESS;0AC_CURRENT;0ELECTRICAL_INTERSECTION;",
  "0DECIMAL_EXPONENT_SYMBOL;0BLACK_RIGHT-POINTING_DOUBLE_TRIANGLE;6LEFT-POINTING_DOUBLE_TRIANGLE;",
  "6UP-POINTING_DOUBLE_TRIANGLE;6DOWN-POINTING_DOUBLE_TRIANGLE;",
  "6RIGHT-POINTING_DOUBLE_TRIANGLE_WITH_VERTICAL_BAR;",
  "6LEFT-POINTING_DOUBLE_TRIANGLE_WITH_VERTICAL_BAR;",
  "6RIGHT-POINTING_TRIANGLE_WITH_DOUBLE_VERTICAL_BAR;0ALARM_CLOCK;0STOPWATCH;0TIMER_CLOCK;",
  "0HOURGLASS_WITH_FLOWING_SAND;0BLACK_MEDIUM_LEFT-POINTING_TRIANGLE;dRIGHT-POINTING_TRIANGLE;",
  "dUP-POINTING_TRIANGLE;dDOWN-POINTING_TRIANGLE;0DOUBLE_VERTICAL_BAR;0BLACK_SQUARE_FOR_STOP;",
  "6CIRCLE_FOR_RECORD;0POWER_SYMBOL;6ON-OFF_SYMBOL;8_SYMBOL;6SLEEP_SYMBOL;0OBSERVER_EYE_SYMBOL;",
  "0SYMBOL_FOR_NULL;bSTART_OF_HEADING;kTEXT;bEND_OF_TEXT;jRANSMISSION;dQUIRY;bACKNOWLEDGE;bBELL;",
  "cACKSPACE;bHORIZONTAL_TABULATION;bLINE_FEED;bVERTICAL_TABULATION;bFORM_FEED;bCARRIAGE_RETURN;",
  "bSHIFT_OUT;hIN;bDATA_LINK_ESCAPE;cEVICE_CONTROL_ONE;qTWO;rHREE;qFOUR;bNEGATIVE_ACKNOWLEDGE;",
  "bSYNCHRONOUS_IDLE;bEND_OF_TRANSMISSION_BLOCK;bCANCEL;bEND_OF_MEDIUM;bSUBSTITUTE;bESCAPE;",
  "bFILE_SEPARATOR;bGROUP_SEPARATOR;bRECORD_SEPARATOR;bUNIT_SEPARATOR;bSPACE;bDELETE;",
  "0BLANK_SYMBOL;0OPEN_BOX;0SYMBOL_FOR_NEWLINE;bDELETE_FORM_TWO;bSUBSTITUTE_FORM_TWO;",
  ">2440:0OCR_HOOK;4CHAIR;4FORK;4INVERTED_FORK;4BELT_BUCKLE;5OW_TIE;5RANCH_BANK_IDENTIFICATION;",
  "4AMOUNT_OF_CHECK;4DASH;4CUSTOMER_ACCOUNT_NUMBER;4DOUBLE_BACKSLASH;>2460:0CIRCLED_DIGIT_ONE;",
  "eTWO;fHREE;eFOUR;fIVE;eSIX;fEVEN;eEIGHT;eNINE;8NUMBER_TEN;fELEVEN;fTWELVE;gHIRTEEN;fFOURTEEN;",
  "gIFTEEN;fSIXTEEN;gEVENTEEN;fEIGHTEEN;fNINETEEN;fTWENTY;0PARENTHESIZED_DIGIT_ONE;kTWO;lHREE;",
  "kFOUR;lIVE;kSIX;lEVEN;kEIGHT;kNINE;eNUMBER_TEN;lELEVEN;lTWELVE;mHIRTEEN;lFOURTEEN;mIFTEEN;",
  "lSIXTEEN;mEVENTEEN;lEIGHTEEN;lNINETEEN;lTWENTY;0DIGIT_ONE_FULL_STOP;6TWO_FULL_STOP;",
  "7HREE_FULL_STOP;6FOUR_FULL_STOP;7IVE_FULL_STOP;6SIX_FULL_STOP;7EVEN_FULL_STOP;6EIGHT_FULL_STOP;",
  "6NINE_FULL_STOP;0NUMBER_TEN_FULL_STOP;7ELEVEN_FULL_STOP;7TWELVE_FULL_STOP;8HIRTEEN_FULL_STOP;",
  "7FOURTEEN_FULL_STOP;8IFTEEN_FULL_STOP;7SIXTEEN_FULL_STOP;8EVENTEEN_FULL_STOP;",
  "7EIGHTEEN_FULL_STOP;7NINETEEN_FULL_STOP;7TWENTY_FULL_STOP;0PARENTHESIZED_LATIN_SMALL_LETTER_A;",
  "xB;xC;xD;xE;xF;xG;xH;xI;xJ;xK;xL;xM;xN;xO;xP;xQ;xR;xS;xT;xU;xV;xW;xX;xY;xZ;",
  "0CIRCLED_LATIN_CAPITAL_LETTER_A;tB;tC;tD;tE;tF;tG;tH;tI;tJ;tK;tL;tM;tN;tO;tP;tQ;tR;tS;tT;tU;tV;",
  "tW;tX;tY;tZ;eSMALL_LETTER_A;rB;rC;rD;rE;rF;rG;rH;rI;rJ;rK;rL;rM;rN;rO;rP;rQ;rR;rS;rT;rU;rV;rW;",
  "rX;rY;rZ;8DIGIT_ZERO;0NEGATIVE_CIRCLED_NUMBER_ELEVEN;oTWELVE;pHIRTEEN;oFOURTEEN;pIFTEEN;",
  "oSIXTEEN;pEVENTEEN;oEIGHTEEN;oNINETEEN;oTWENTY;0DOUBLE_CIRCLED_DIGIT_ONE;lTWO;mHREE;lFOUR;mIVE;",
  "lSIX;mEVEN;lEIGHT;lNINE;fNUMBER_TEN;0NEGATIVE_CIRCLED_DIGIT_ZERO;",
  "0BOX_DRAWINGS_LIGHT_HORIZONTAL;dHEAVY_HORIZONTAL;dLIGHT_VERTICAL;dHEAVY_VERTICAL;",
  "dLIGHT_TRIPLE_DASH_HORIZONTAL;dHEAVY_TRIPLE_DASH_HORIZONTAL;dLIGHT_TRIPLE_DASH_VERTICAL;",
  "dHEAVY_TRIPLE_DASH_VERTICAL;dLIGHT_QUADRUPLE_DASH_HORIZONTAL;dHEAVY_QUADRUPLE_DASH_HORIZONTAL;",
  "dLIGHT_QUADRUPLE_DASH_VERTICAL;dHEAVY_QUADRUPLE_DASH_VERTICAL;dLIGHT_DOWN_AND_RIGHT;",
  "dDOWN_LIGHT_AND_RIGHT_HEAVY;iHEAVY_AND_RIGHT_LIGHT;dHEAVY_DOWN_AND_RIGHT;dLIGHT_DOWN_AND_LEFT;",
  "dDOWN_LIGHT_AND_LEFT_HEAVY;iHEAVY_AND_LEFT_LIGHT;dHEAVY_DOWN_AND_LEFT;dLIGHT_UP_AND_RIGHT;",
  "dUP_LIGHT_AND_RIGHT_HEAVY;gHEAVY_AND_RIGHT_LIGHT;dHEAVY_UP_AND_RIGHT;dLIGHT_UP_AND_LEFT;",
  "dUP_LIGHT_AND_LEFT_HEAVY;gHEAVY_AND_LEFT_LIGHT;dHEAVY_UP_AND_LEFT;dLIGHT_VERTICAL_AND_RIGHT;",
  "dVERTICAL_LIGHT_AND_RIGHT_HEAVY;dUP_HEAVY_AND_RIGHT_DOWN_LIGHT;dDOWN_HEAVY_AND_RIGHT_UP_LIGHT;",
  "dVERTICAL_HEAVY_AND_RIGHT_LIGHT;dDOWN_LIGHT_AND_RIGHT_UP_HEAVY;dUP_LIGHT_AND_RIGHT_DOWN_HEAVY;",
  "dHEAVY_VERTICAL_AND_RIGHT;dLIGHT_VERTICAL_AND_LEFT;dVERTICAL_LIGHT_AND_LEFT_HEAVY;",
  "dUP_HEAVY_AND_LEFT_DOWN_LIGHT;dDOWN_HEAVY_AND_LEFT_UP_LIGHT;dVERTICAL_HEAVY_AND_LEFT_LIGHT;",
  "dDOWN_LIGHT_AND_LEFT_UP_HEAVY;dUP_LIGHT_AND_LEFT_DOWN_HEAVY;dHEAVY_VERTICAL_AND_LEFT;",
  "dLIGHT_DOWN_AND_HORIZONTAL;eEFT_HEAVY_AND_RIGHT_DOWN_LIGHT;dRIGHT_HEAVY_AND_LEFT_DOWN_LIGHT;",
  "dDOWN_LIGHT_AND_HORIZONTAL_HEAVY;iHEAVY_AND_HORIZONTAL_LIGHT;dRIGHT_LIGHT_AND_LEFT_DOWN_HEAVY;",
  "dLEFT_LIGHT_AND_RIGHT_DOWN_HEAVY;dHEAVY_DOWN_AND_HORIZONTAL;dLIGHT_UP_AND_HORIZONTAL;",
  "eEFT_HEAVY_AND_RIGHT_UP_LIGHT;dRIGHT_HEAVY_AND_LEFT_UP_LIGHT;dUP_LIGHT_AND_HORIZONTAL_HEAVY;",
  "gHEAVY_AND_HORIZONTAL_LIGHT;dRIGHT_LIGHT_AND_LEFT_UP_HEAVY;dLEFT_LIGHT_AND_RIGHT_UP_HEAVY;",
  "dHEAVY_UP_AND_HORIZONTAL;dLIGHT_VERTICAL_AND_HORIZONTAL;eEFT_HEAVY_AND_RIGHT_VERTICAL_LIGHT;",
  "dRIGHT_HEAVY_AND_LEFT_VERTICAL_LIGHT;dVERTICAL_LIGHT_AND_HORIZONTAL_HEAVY;",
  "dUP_HEAVY_AND_DOWN_HORIZONTAL_LIGHT;dDOWN_HEAVY_AND_UP_HORIZONTAL_LIGHT;",
  "dVERTICAL_HEAVY_AND_HORIZONTAL_LIGHT;dLEFT_UP_HEAVY_AND_RIGHT_DOWN_LIGHT;",
  "dRIGHT_UP_HEAVY_AND_LEFT_DOWN_LIGHT;dLEFT_DOWN_HEAVY_AND_RIGHT_UP_LIGHT;",
  "dRIGHT_DOWN_HEAVY_AND_LEFT_UP_LIGHT;dDOWN_LIGHT_AND_UP_HORIZONTAL_HEAVY;",
  "dUP_LIGHT_AND_DOWN_HORIZONTAL_HEAVY;dRIGHT_LIGHT_AND_LEFT_VERTICAL_HEAVY;",
  "dLEFT_LIGHT_AND_RIGHT_VERTICAL_HEAVY;dHEAVY_VERTICAL_AND_HORIZONTAL;",
  "dLIGHT_DOUBLE_DASH_HORIZONTAL;dHEAVY_DOUBLE_DASH_HORIZONTAL;dLIGHT_DOUBLE_DASH_VERTICAL;",
  "dHEAVY_DOUBLE_DASH_VERTICAL;dDOUBLE_HORIZONTAL;kVERTICAL;fWN_SINGLE_AND_RIGHT_DOUBLE;",
  "iDOUBLE_AND_RIGHT_SINGLE;fUBLE_DOWN_AND_RIGHT;fWN_SINGLE_AND_LEFT_DOUBLE;",
  "iDOUBLE_AND_LEFT_SINGLE;fUBLE_DOWN_AND_LEFT;dUP_SINGLE_AND_RIGHT_DOUBLE;",
  "gDOUBLE_AND_RIGHT_SINGLE;dDOUBLE_UP_AND_RIGHT;dUP_SINGLE_AND_LEFT_DOUBLE;",
  "gDOUBLE_AND_LEFT_SINGLE;dDOUBLE_UP_AND_LEFT;dVERTICAL_SINGLE_AND_RIGHT_DOUBLE;",
  "mDOUBLE_AND_RIGHT_SINGLE;dDOUBLE_VERTICAL_AND_RIGHT;dVERTICAL_SINGLE_AND_LEFT_DOUBLE;",
  "mDOUBLE_AND_LEFT_SINGLE;dDOUBLE_VERTICAL_AND_LEFT;fWN_SINGLE_AND_HORIZONTAL_DOUBLE;",
  "iDOUBLE_AND_HORIZONTAL_SINGLE;fUBLE_DOWN_AND_HORIZONTAL;dUP_SINGLE_AND_HORIZONTAL_DOUBLE;",
  "gDOUBLE_AND_HORIZONTAL_SINGLE;dDOUBLE_UP_AND_HORIZONTAL;dVERTICAL_SINGLE_AND_HORIZONTAL_DOUBLE;",
  "mDOUBLE_AND_HORIZONTAL_SINGLE;dDOUBLE_VERTICAL_AND_HORIZONTAL;dLIGHT_ARC_DOWN_AND_RIGHT;wLEFT;",
  "nUP_AND_LEFT;uRIGHT;jDIAGONAL_UPPER_RIGHT_TO_LOWER_LEFT;yLEFT_TO_LOWER_RIGHT;sCROSS;jLEFT;jUP;",
  "jRIGHT;jDOWN;dHEAVY_LEFT;jUP;jRIGHT;jDOWN;dLIGHT_LEFT_AND_HEAVY_RIGHT;jUP_AND_HEAVY_DOWN;",
  "dHEAVY_LEFT_AND_LIGHT_RIGHT;jUP_AND_LIGHT_DOWN;0UPPER_HALF_BLOCK;0LOWER_ONE_EIGHTH_BLOCK;",
  "aQUARTER_BLOCK;6THREE_EIGHTHS_BLOCK;6HALF_BLOCK;6FIVE_EIGHTHS_BLOCK;6THREE_QUARTERS_BLOCK;",
  "6SEVEN_EIGHTHS_BLOCK;0FULL_BLOCK;0LEFT_SEVEN_EIGHTHS_BLOCK;5THREE_QUARTERS_BLOCK;",
  "5FIVE_EIGHTHS_BLOCK;5HALF_BLOCK;5THREE_EIGHTHS_BLOCK;5ONE_QUARTER_BLOCK;9EIGHTH_BLOCK;",
  "0RIGHT_HALF_BLOCK;0LIGHT_SHADE;0MEDIUM_SHADE;0DARK_SHADE;0UPPER_ONE_EIGHTH_BLOCK;",
  "0RIGHT_ONE_EIGHTH_BLOCK;0QUADRANT_LOWER_LEFT;fRIGHT;9UPPER_LEFT;",
  "j_AND_LOWER_LEFT_AND_LOWER_RIGHT;uRIGHT;oUPPER_RIGHT_AND_LOWER_LEFT;KRIGHT;fRIGHT;",
  "k_AND_LOWER_LEFT;z_AND_LOWER_RIGHT;0BLACK_SQUARE;0WHITE_SQUARE;c_WITH_ROUNDED_CORNERS;",
  "dCONTAINING_BLACK_SMALL_SQUARE;0SQUARE_WITH_HORIZONTAL_FILL;cVERTICAL_FILL;",
  "cORTHOGONAL_CROSSHATCH_FILL;cUPPER_LEFT_TO_LOWER_RIGHT_FILL;iRIGHT_TO_LOWER_LEFT_FILL;",
  "cDIAGONAL_CROSSHATCH_FILL;0BLACK_SMALL_SQUARE;0WHITE_SMALL_SQUARE;0BLACK_RECTANGLE;",
  "0WHITE_RECTANGLE;0BLACK_VERTICAL_RECTANGLE;0WHITE_VERTICAL_RECTANGLE;0BLACK_PARALLELOGRAM;",
  "0WHITE_PARALLELOGRAM;0BLACK_UP-POINTING_TRIANGLE;0WHITE_UP-POINTING_TRIANGLE;",
  "0BLACK_UP-POINTING_SMALL_TRIANGLE;0WHITE_UP-POINTING_SMALL_TRIANGLE;",
  "0BLACK_RIGHT-POINTING_TRIANGLE;0WHITE_RIGHT-POINTING_TRIANGLE;",
  "0BLACK_RIGHT-POINTING_SMALL_TRIANGLE;0WHITE_RIGHT-POINTING_SMALL_TRIANGLE;",
  "0BLACK_RIGHT-POINTING_POINTER;0WHITE_RIGHT-POINTING_POINTER;0BLACK_DOWN-POINTING_TRIANGLE;",
  "0WHITE_DOWN-POINTING_TRIANGLE;0BLACK_DOWN-POINTING_SMALL_TRIANGLE;",
  "0WHITE_DOWN-POINTING_SMALL_TRIANGLE;0BLACK_LEFT-POINTING_TRIANGLE;",
  "0WHITE_LEFT-POINTING_TRIANGLE;0BLACK_LEFT-POINTING_SMALL_TRIANGLE;",
  "0WHITE_LEFT-POINTING_SMALL_TRIANGLE;0BLACK_LEFT-POINTING_POINTER;0WHITE_LEFT-POINTING_POINTER;",
  "0BLACK_DIAMOND;0WHITE_DIAMOND;d_CONTAINING_BLACK_SMALL_DIAMOND;0FISHEYE;0LOZENGE;0WHITE_CIRCLE;",
  "0DOTTED_CIRCLE;0CIRCLE_WITH_VERTICAL_FILL;0BULLSEYE;1LACK_CIRCLE;0CIRCLE_WITH_LEFT_HALF_BLACK;",
  "cRIGHT_HALF_BLACK;cLOWER_HALF_BLACK;cUPPER_HALF_BLACK;iRIGHT_QUADRANT_BLACK;",
  "cALL_BUT_UPPER_LEFT_QUADRANT_BLACK;0LEFT_HALF_BLACK_CIRCLE;0RIGHT_HALF_BLACK_CIRCLE;",
  "0INVERSE_BULLET;8WHITE_CIRCLE;0UPPER_HALF_INVERSE_WHITE_CIRCLE;",
  "0LOWER_HALF_INVERSE_WHITE_CIRCLE;0UPPER_LEFT_QUADRANT_CIRCULAR_ARC;",
  "6RIGHT_QUADRANT_CIRCULAR_ARC;0LOWER_RIGHT_QUADRANT_CIRCULAR_ARC;6LEFT_QUADRANT_CIRCULAR_ARC;",
  "0UPPER_HALF_CIRCLE;0LOWER_HALF_CIRCLE;0BLACK_LOWER_RIGHT_TRIANGLE;cLEFT_TRIANGLE;",
  "6UPPER_LEFT_TRIANGLE;cRIGHT_TRIANGLE;0WHITE_BULLET;0SQUARE_WITH_LEFT_HALF_BLACK;",
  "cRIGHT_HALF_BLACK;cUPPER_LEFT_DIAGONAL_HALF_BLACK;cLOWER_RIGHT_DIAGONAL_HALF_BLACK;",
  "0WHITE_SQUARE_WITH_VERTICAL_BISECTING_LINE;6UP-POINTING_TRIANGLE_WITH_DOT;",
  "0UP-POINTING_TRIANGLE_WITH_LEFT_HALF_BLACK;qRIGHT_HALF_BLACK;0LARGE_CIRCLE;",
  "0WHITE_SQUARE_WITH_UPPER_LEFT_QUADRANT;iLOWER_LEFT_QUADRANT;oRIGHT_QUADRANT;",
  "iUPPER_RIGHT_QUADRANT;6CIRCLE_WITH_UPPER_LEFT_QUADRANT;iLOWER_LEFT_QUADRANT;oRIGHT_QUADRANT;",
  "iUPPER_RIGHT_QUADRANT;0UPPER_LEFT_TRIANGLE;6RIGHT_TRIANGLE;0LOWER_LEFT_TRIANGLE;",
  "0WHITE_MEDIUM_SQUARE;0BLACK_MEDIUM_SQUARE;0WHITE_MEDIUM_SMALL_SQUARE;",
  "0BLACK_MEDIUM_SMALL_SQUARE;0LOWER_RIGHT_TRIANGLE;0BLACK_SUN_WITH_RAYS;0CLOUD;0UMBRELLA;",
  "0SNOWMAN;0COMET;0BLACK_STAR;0WHITE_STAR;0LIGHTNING;0THUNDERSTORM;0SUN;0ASCENDING_NODE;",
  "0DESCENDING_NODE;0CONJUNCTION;0OPPOSITION;0BLACK_TELEPHONE;0WHITE_TELEPHONE;0BALLOT_BOX;",
  "a_WITH_CHECK;gX;0SALTIRE;0UMBRELLA_WITH_RAIN_DROPS;0HOT_BEVERAGE;0WHITE_SHOGI_PIECE;",
  "0BLACK_SHOGI_PIECE;0SHAMROCK;0REVERSED_ROTATED_FLORAL_HEART_BULLET;0BLACK_LEFT_POINTING_INDEX;",
  "6RIGHT_POINTING_INDEX;0WHITE_LEFT_POINTING_INDEX;6UP_POINTING_INDEX;6RIGHT_POINTING_INDEX;",
  "6DOWN_POINTING_INDEX;0SKULL_AND_CROSSBONES;0CAUTION_SIGN;0RADIOACTIVE_SIGN;0BIOHAZARD_SIGN;",
  "0CADUCEUS;0ANKH;0ORTHODOX_CROSS;0CHI_RHO;1ROSS_OF_LORRAINE;9JERUSALEM;0STAR_AND_CRESCENT;",
  "0FARSI_SYMBOL;0ADI_SHAKTI;0HAMMER_AND_SICKLE;0PEACE_SYMBOL;0YIN_YANG;0TRIGRAM_FOR_HEAVEN;cLAKE;",
  "cFIRE;cTHUNDER;cWIND;dATER;cMOUNTAIN;cEARTH;0WHEEL_OF_DHARMA;2ITE_FROWNING_FACE;6SMILING_FACE;",
  "0BLACK_SMILING_FACE;0WHITE_SUN_WITH_RAYS;0FIRST_QUARTER_MOON;0LAST_QUARTER_MOON;0MERCURY;",
  "0FEMALE_SIGN;0EARTH;0MALE_SIGN;0JUPITER;0SATURN;0URANUS;0NEPTUNE;0PLUTO;0ARIES;0TAURUS;0GEMINI;",
  "0CANCER;0LEO;0VIRGO;0LIBRA;0SCORPIUS;1AGITTARIUS;0CAPRICORN;0AQUARIUS;0PISCES;",
  "0WHITE_CHESS_KING;cQUEEN;cROOK;cBISHOP;cKNIGHT;cPAWN;0BLACK_CHESS_KING;cQUEEN;cROOK;cBISHOP;",
  "cKNIGHT;cPAWN;6SPADE_SUIT;0WHITE_HEART_SUIT;6DIAMOND_SUIT;0BLACK_CLUB_SUIT;0WHITE_SPADE_SUIT;",
  "0BLACK_HEART_SUIT;6DIAMOND_SUIT;0WHITE_CLUB_SUIT;0HOT_SPRINGS;0QUARTER_NOTE;0EIGHTH_NOTE;",
  "0BEAMED_EIGHTH_NOTES;7SIXTEENTH_NOTES;0MUSIC_FLAT_SIGN;6NATURAL_SIGN;6SHARP_SIGN;",
  "0WEST_SYRIAC_CROSS;0EAST_SYRIAC_CROSS;0UNIVERSAL_RECYCLING_SYMBOL;",
  "0RECYCLING_SYMBOL_FOR_TYPE-1_PLASTICS;q2_PLASTICS;q3_PLASTICS;q4_PLASTICS;q5_PLASTICS;",
  "q6_PLASTICS;q7_PLASTICS;lGENERIC_MATERIALS;0BLACK_UNIVERSAL_RECYCLING_SYMBOL;",
  "0RECYCLED_PAPER_SYMBOL;0PARTIALLY-RECYCLED_PAPER_SYMBOL;1ERMANENT_PAPER_SIGN;",
  "0WHEELCHAIR_SYMBOL;0DIE_FACE-1;92;93;94;95;96;0WHITE_CIRCLE_WITH_DOT_RIGHT;iTWO_DOTS;",
  "0BLACK_CIRCLE_WITH_WHITE_DOT_RIGHT;iTWO_WHITE_DOTS;0MONOGRAM_FOR_YANG;eIN;",
  "0DIGRAM_FOR_GREATER_YANG;bLESSER_YIN;jANG;bGREATER_YIN;0WHITE_FLAG;0BLACK_FLAG;",
  "0HAMMER_AND_PICK;0ANCHOR;0CROSSED_SWORDS;0STAFF_OF_AESCULAPIUS;1CALES;0ALEMBIC;0FLOWER;0GEAR;",
  "0STAFF_OF_HERMES;0ATOM_SYMBOL;0FLEUR-DE-LIS;0OUTLINED_WHITE_STAR;0THREE_LINES_CONVERGING_RIGHT;",
  "nLEFT;0WARNING_SIGN;0HIGH_VOLTAGE_SIGN;0DOUBLED_FEMALE_SIGN;8MALE_SIGN;",
  "0INTERLOCKED_FEMALE_AND_MALE_SIGN;0MALE_AND_FEMALE_SIGN;5WITH_STROKE_SIGN;",
  "hAND_MALE_AND_FEMALE_SIGN;0VERTICAL_MALE_WITH_STROKE_SIGN;0HORIZONTAL_MALE_WITH_STROKE_SIGN;",
  "0MEDIUM_WHITE_CIRCLE;7BLACK_CIRCLE;7SMALL_WHITE_CIRCLE;1ARRIAGE_SYMBOL;0DIVORCE_SYMBOL;",
  "0UNMARRIED_PARTNERSHIP_SYMBOL;0COFFIN;0FUNERAL_URN;0NEUTER;0CERES;0PALLAS;0JUNO;0VESTA;0CHIRON;",
  "0BLACK_MOON_LILITH;0SEXTILE;2MISEXTILE;0QUINCUNX;0SESQUIQUADRATE;1OCCER_BALL;0BASEBALL;",
  "0SQUARED_KEY;0WHITE_DRAUGHTS_MAN;fKING;0BLACK_DRAUGHTS_MAN;fKING;0SNOWMAN_WITHOUT_SNOW;",
  "1UN_BEHIND_CLOUD;0RAIN;0BLACK_SNOWMAN;0THUNDER_CLOUD_AND_RAIN;1URNED_WHITE_SHOGI_PIECE;",
  "7BLACK_SHOGI_PIECE;0WHITE_DIAMOND_IN_SQUARE;0CROSSING_LANES;0DISABLED_CAR;0OPHIUCHUS;0PICK;",
  "0CAR_SLIDING;0HELMET_WITH_WHITE_CROSS;0CIRCLED_CROSSING_LANES;1HAINS;0NO_ENTRY;",
  "0ALTERNATE_ONE-WAY_LEFT_WAY_TRAFFIC;0BLACK_TWO-WAY_LEFT_WAY_TRAFFIC;",
  "0WHITE_TWO-WAY_LEFT_WAY_TRAFFIC;0BLACK_LEFT_LANE_MERGE;0WHITE_LEFT_LANE_MERGE;0DRIVE_SLOW_SIGN;",
  "0HEAVY_WHITE_DOWN-POINTING_TRIANGLE;0LEFT_CLOSED_ENTRY;0SQUARED_SALTIRE;",
  "0FALLING_DIAGONAL_IN_WHITE_CIRCLE_IN_BLACK_SQUARE;0BLACK_TRUCK;0RESTRICTED_LEFT_ENTRY-1;m2;",
  "0ASTRONOMICAL_SYMBOL_FOR_URANUS;0HEAVY_CIRCLE_WITH_STROKE_AND_TWO_DOTS_ABOVE;0PENTAGRAM;",
  "0RIGHT-HANDED_INTERLACED_PENTAGRAM;0LEFT-HANDED_INTERLACED_PENTAGRAM;0INVERTED_PENTAGRAM;",
  "0BLACK_CROSS_ON_SHIELD;0SHINTO_SHRINE;0CHURCH;1ASTLE;0HISTORIC_SITE;0GEAR_WITHOUT_HUB;",
  "9_HANDLES;0MAP_SYMBOL_FOR_LIGHTHOUSE;1OUNTAIN;0UMBRELLA_ON_GROUND;0FOUNTAIN;1LAG_IN_HOLE;1ERRY;",
  "0SAILBOAT;1QUARE_FOUR_CORNERS;1KIER;0ICE_SKATE;0PERSON_WITH_BALL;0TENT;0JAPANESE_BANK_SYMBOL;",
  "0HEADSTONE_GRAVEYARD_SYMBOL;0FUEL_PUMP;0CUP_ON_BLACK_SQUARE;",
  "0WHITE_FLAG_WITH_HORIZONTAL_MIDDLE_BLACK_STRIPE;0BLACK_SAFETY_SCISSORS;0UPPER_BLADE_SCISSORS;",
  "0BLACK_SCISSORS;0LOWER_BLADE_SCISSORS;0WHITE_SCISSORS;6HEAVY_CHECK_MARK;",
  "0TELEPHONE_LOCATION_SIGN;1APE_DRIVE;0AIRPLANE;0ENVELOPE;0RAISED_FIST;7HAND;0VICTORY_HAND;",
  "0WRITING_HAND;0LOWER_RIGHT_PENCIL;0PENCIL;0UPPER_RIGHT_PENCIL;0WHITE_NIB;0BLACK_NIB;",
  "0CHECK_MARK;0HEAVY_CHECK_MARK;0MULTIPLICATION_X;0HEAVY_MULTIPLICATION_X;0BALLOT_X;",
  "0HEAVY_BALLOT_X;0OUTLINED_GREEK_CROSS;0HEAVY_GREEK_CROSS;0OPEN_CENTRE_CROSS;",
  "0HEAVY_OPEN_CENTRE_CROSS;0LATIN_CROSS;0SHADOWED_WHITE_LATIN_CROSS;0OUTLINED_LATIN_CROSS;",
  "0MALTESE_CROSS;0STAR_OF_DAVID;0FOUR_TEARDROP-SPOKED_ASTERISK;5BALLOON-SPOKED_ASTERISK;",
  "0HEAVY_FOUR_BALLOON-SPOKED_ASTERISK;0FOUR_CLUB-SPOKED_ASTERISK;0BLACK_FOUR_POINTED_STAR;",
  "0WHITE_FOUR_POINTED_STAR;0SPARKLES;1TRESS_OUTLINED_WHITE_STAR;0CIRCLED_WHITE_STAR;",
  "0OPEN_CENTRE_BLACK_STAR;0BLACK_CENTRE_WHITE_STAR;0OUTLINED_BLACK_STAR;",
  "0HEAVY_OUTLINED_BLACK_STAR;0PINWHEEL_STAR;0SHADOWED_WHITE_STAR;0HEAVY_ASTERISK;",
  "0OPEN_CENTRE_ASTERISK;0EIGHT_SPOKED_ASTERISK;6POINTED_BLACK_STAR;ePINWHEEL_STAR;",
  "0SIX_POINTED_BLACK_STAR;0EIGHT_POINTED_RECTILINEAR_BLACK_STAR;",
  "0HEAVY_EIGHT_POINTED_RECTILINEAR_BLACK_STAR;0TWELVE_POINTED_BLACK_STAR;",
  "0SIXTEEN_POINTED_ASTERISK;0TEARDROP-SPOKED_ASTERISK;0OPEN_CENTRE_TEARDROP-SPOKED_ASTERISK;",
  "0HEAVY_TEARDROP-SPOKED_ASTERISK;0SIX_PETALLED_BLACK_AND_WHITE_FLORETTE;0BLACK_FLORETTE;",
  "0WHITE_FLORETTE;0EIGHT_PETALLED_OUTLINED_BLACK_FLORETTE;",
  "0CIRCLED_OPEN_CENTRE_EIGHT_POINTED_STAR;0HEAVY_TEARDROP-SPOKED_PINWHEEL_ASTERISK;0SNOWFLAKE;",
  "0TIGHT_TRIFOLIATE_SNOWFLAKE;0HEAVY_CHEVRON_SNOWFLAKE;0SPARKLE;0HEAVY_SPARKLE;",
  "0BALLOON-SPOKED_ASTERISK;0EIGHT_TEARDROP-SPOKED_PROPELLER_ASTERISK;",
  "0HEAVY_EIGHT_TEARDROP-SPOKED_PROPELLER_ASTERISK;0CROSS_MARK;0SHADOWED_WHITE_CIRCLE;",
  "0NEGATIVE_SQUARED_CROSS_MARK;0LOWER_RIGHT_DROP-SHADOWED_WHITE_SQUARE;",
  "0UPPER_RIGHT_DROP-SHADOWED_WHITE_SQUARE;0LOWER_RIGHT_SHADOWED_WHITE_SQUARE;",
  "0UPPER_RIGHT_SHADOWED_WHITE_SQUARE;0BLACK_QUESTION_MARK_ORNAMENT;0WHITE_QUESTION_MARK_ORNAMENT;",
  "6EXCLAMATION_MARK_ORNAMENT;0BLACK_DIAMOND_MINUS_WHITE_X;0HEAVY_EXCLAMATION_MARK_SYMBOL;",
  "0LIGHT_VERTICAL_BAR;0MEDIUM_VERTICAL_BAR;0HEAVY_VERTICAL_BAR;",
  "6SINGLE_TURNED_COMMA_QUOTATION_MARK_ORNAMENT;dCOMMA_QUOTATION_MARK_ORNAMENT;",
  "6DOUBLE_TURNED_COMMA_QUOTATION_MARK_ORNAMENT;dCOMMA_QUOTATION_MARK_ORNAMENT;",
  "6LOW_SINGLE_COMMA_QUOTATION_MARK_ORNAMENT;aDOUBLE_COMMA_QUOTATION_MARK_ORNAMENT;",
  "0CURVED_STEM_PARAGRAPH_SIGN_ORNAMENT;0HEAVY_EXCLAMATION_MARK_ORNAMENT;",
  "6HEART_EXCLAMATION_MARK_ORNAMENT;6BLACK_HEART;0ROTATED_HEAVY_BLACK_HEART_BULLET;0FLORAL_HEART;",
  "0ROTATED_FLORAL_HEART_BULLET;0MEDIUM_LEFT_PARENTHESIS_ORNAMENT;7RIGHT_PARENTHESIS_ORNAMENT;",
  "7FLATTENED_LEFT_PARENTHESIS_ORNAMENT;hRIGHT_PARENTHESIS_ORNAMENT;",
  "7LEFT-POINTING_ANGLE_BRACKET_ORNAMENT;7RIGHT-POINTING_ANGLE_BRACKET_ORNAMENT;",
  "0HEAVY_LEFT-POINTING_ANGLE_QUOTATION_MARK_ORNAMENT;",
  "6RIGHT-POINTING_ANGLE_QUOTATION_MARK_ORNAMENT;6LEFT-POINTING_ANGLE_BRACKET_ORNAMENT;",
  "6RIGHT-POINTING_ANGLE_BRACKET_ORNAMENT;0LIGHT_LEFT_TORTOISE_SHELL_BRACKET_ORNAMENT;",
  "6RIGHT_TORTOISE_SHELL_BRACKET_ORNAMENT;0MEDIUM_LEFT_CURLY_BRACKET_ORNAMENT;",
  "7RIGHT_CURLY_BRACKET_ORNAMENT;0DINGBAT_NEGATIVE_CIRCLED_DIGIT_ONE;vTWO;wHREE;vFOUR;wIVE;vSIX;",
  "wEVEN;vEIGHT;vNINE;pNUMBER_TEN;8CIRCLED_SANS-SERIF_DIGIT_ONE;xTWO;yHREE;xFOUR;yIVE;xSIX;yEVEN;",
  "xEIGHT;xNINE;rNUMBER_TEN;8NEGATIVE_CIRCLED_SANS-SERIF_DIGIT_ONE;GTWO;HHREE;GFOUR;HIVE;GSIX;",
  "HEVEN;GEIGHT;GNINE;ANUMBER_TEN;0HEAVY_WIDE-HEADED_RIGHTWARDS_ARROW;6PLUS_SIGN;6MINUS_SIGN;",
  "6DIVISION_SIGN;6SOUTH_EAST_ARROW;6RIGHTWARDS_ARROW;6NORTH_EAST_ARROW;",
  "0DRAFTING_POINT_RIGHTWARDS_ARROW;0HEAVY_ROUND-TIPPED_RIGHTWARDS_ARROW;",
  "0TRIANGLE-HEADED_RIGHTWARDS_ARROW;0HEAVY_TRIANGLE-HEADED_RIGHTWARDS_ARROW;",
  "0DASHED_TRIANGLE-HEADED_RIGHTWARDS_ARROW;0HEAVY_DASHED_TRIANGLE-HEADED_RIGHTWARDS_ARROW;",
  "0BLACK_RIGHTWARDS_ARROW;0THREE-D_TOP-LIGHTED_RIGHTWARDS_ARROWHEAD;",
  "8BOTTOM-LIGHTED_RIGHTWARDS_ARROWHEAD;0BLACK_RIGHTWARDS_ARROWHEAD;",
  "0HEAVY_BLACK_CURVED_DOWNWARDS_AND_RIGHTWARDS_ARROW;jUPWARDS_AND_RIGHTWARDS_ARROW;",
  "0SQUAT_BLACK_RIGHTWARDS_ARROW;0HEAVY_CONCAVE-POINTED_BLACK_RIGHTWARDS_ARROW;",
  "0RIGHT-SHADED_WHITE_RIGHTWARDS_ARROW;0LEFT-SHADED_WHITE_RIGHTWARDS_ARROW;",
  "0BACK-TILTED_SHADOWED_WHITE_RIGHTWARDS_ARROW;0FRONT-TILTED_SHADOWED_WHITE_RIGHTWARDS_ARROW;",
  "0HEAVY_LOWER_RIGHT-SHADOWED_WHITE_RIGHTWARDS_ARROW;",
  "6UPPER_RIGHT-SHADOWED_WHITE_RIGHTWARDS_ARROW;",
  "0NOTCHED_LOWER_RIGHT-SHADOWED_WHITE_RIGHTWARDS_ARROW;0CURLY_LOOP;",
  "0NOTCHED_UPPER_RIGHT-SHADOWED_WHITE_RIGHTWARDS_ARROW;0CIRCLED_HEAVY_WHITE_RIGHTWARDS_ARROW;",
  "0WHITE-FEATHERED_RIGHTWARDS_ARROW;0BLACK-FEATHERED_SOUTH_EAST_ARROW;gRIGHTWARDS_ARROW;",
  "gNORTH_EAST_ARROW;0HEAVY_BLACK-FEATHERED_SOUTH_EAST_ARROW;mRIGHTWARDS_ARROW;mNORTH_EAST_ARROW;",
  "0TEARDROP-BARBED_RIGHTWARDS_ARROW;0HEAVY_TEARDROP-SHANKED_RIGHTWARDS_ARROW;",
  "0WEDGE-TAILED_RIGHTWARDS_ARROW;0HEAVY_WEDGE-TAILED_RIGHTWARDS_ARROW;",
  "0OPEN-OUTLINED_RIGHTWARDS_ARROW;0DOUBLE_CURLY_LOOP;0THREE_DIMENSIONAL_ANGLE;",
  "0WHITE_TRIANGLE_CONTAINING_SMALL_WHITE_TRIANGLE;0PERPENDICULAR;0OPEN_SUBSET;7PERSET;",
  "0LEFT_S-SHAPED_BAG_DELIMITER;0RIGHT_S-SHAPED_BAG_DELIMITER;0OR_WITH_DOT_INSIDE;",
  "0REVERSE_SOLIDUS_PRECEDING_SUBSET;0SUPERSET_PRECEDING_SOLIDUS;",
  "0VERTICAL_BAR_WITH_HORIZONTAL_STROKE;0MATHEMATICAL_RISING_DIAGONAL;0LONG_DIVISION;",
  "0MATHEMATICAL_FALLING_DIAGONAL;0SQUARED_LOGICAL_AND;gOR;0WHITE_DIAMOND_WITH_CENTRED_DOT;",
  "0AND_WITH_DOT;0ELEMENT_OF_OPENING_UPWARDS;0LOWER_RIGHT_CORNER_WITH_DOT;",
  "0UPPER_LEFT_CORNER_WITH_DOT;0LEFT_OUTER_JOIN;0RIGHT_OUTER_JOIN;0FULL_OUTER_JOIN;0LARGE_UP_TACK;",
  "6DOWN_TACK;1EFT_AND_RIGHT_DOUBLE_TURNSTILE;fTACK;5MULTIMAP;1ONG_RIGHT_TACK;5LEFT_TACK;",
  "0UP_TACK_WITH_CIRCLE_ABOVE;0LOZENGE_DIVIDED_BY_HORIZONTAL_RULE;0WHITE_CONCAVE-SIDED_DIAMOND;",
  "r_WITH_LEFTWARDS_TICK;xRIGHTWARDS_TICK;6SQUARE_WITH_LEFTWARDS_TICK;iRIGHTWARDS_TICK;",
  "0MATHEMATICAL_LEFT_WHITE_SQUARE_BRACKET;dRIGHT_WHITE_SQUARE_BRACKET;dLEFT_ANGLE_BRACKET;",
  "dRIGHT_ANGLE_BRACKET;dLEFT_DOUBLE_ANGLE_BRACKET;dRIGHT_DOUBLE_ANGLE_BRACKET;",
  "dLEFT_WHITE_TORTOISE_SHELL_BRACKET;dRIGHT_WHITE_TORTOISE_SHELL_BRACKET;",
  "dLEFT_FLATTENED_PARENTHESIS;dRIGHT_FLATTENED_PARENTHESIS;0UPWARDS_QUADRUPLE_ARROW;",
  "0DOWNWARDS_QUADRUPLE_ARROW;0ANTICLOCKWISE_GAPPED_CIRCLE_ARROW;0CLOCKWISE_GAPPED_CIRCLE_ARROW;",
  "0RIGHT_ARROW_WITH_CIRCLED_PLUS;0LONG_LEFTWARDS_ARROW;5RIGHTWARDS_ARROW;5LEFT_RIGHT_ARROW;",
  "9WARDS_DOUBLE_ARROW;5RIGHTWARDS_DOUBLE_ARROW;5LEFT_RIGHT_DOUBLE_ARROW;9WARDS_ARROW_FROM_BAR;",
  "5RIGHTWARDS_ARROW_FROM_BAR;5LEFTWARDS_DOUBLE_ARROW_FROM_BAR;5RIGHTWARDS_DOUBLE_ARROW_FROM_BAR;",
  "gSQUIGGLE_ARROW;0BRAILLE_PATTERN_BLANK;gDOTS-1;l2;l12;l3;l13;l23;l123;l4;l14;l24;l124;l34;l134;",
  "l234;l1234;l5;l15;l25;l125;l35;l135;l235;l1235;l45;l145;l245;l1245;l345;l1345;l2345;l12345;l6;",
  "l16;l26;l126;l36;l136;l236;l1236;l46;l146;l246;l1246;l346;l1346;l2346;l12346;l56;l156;l256;",
  "l1256;l356;l1356;l2356;l12356;l456;l1456;l2456;l12456;l3456;l13456;l23456;l123456;l7;l17;l27;",
  "l127;l37;l137;l237;l1237;l47;l147;l247;l1247;l347;l1347;l2347;l12347;l57;l157;l257;l1257;l357;",
  "l1357;l2357;l12357;l457;l1457;l2457;l12457;l3457;l13457;l23457;l123457;l67;l167;l267;l1267;",
  "l367;l1367;l2367;l12367;l467;l1467;l2467;l12467;l3467;l13467;l23467;l123467;l567;l1567;l2567;",
  "l12567;l3567;l13567;l23567;l123567;l4567;l14567;l24567;l124567;l34567;l134567;l234567;l1234567;",
  "l8;l18;l28;l128;l38;l138;l238;l1238;l48;l148;l248;l1248;l348;l1348;l2348;l12348;l58;l158;l258;",
  "l1258;l358;l1358;l2358;l12358;l458;l1458;l2458;l12458;l3458;l13458;l23458;l123458;l68;l168;",
  "l268;l1268;l368;l1368;l2368;l12368;l468;l1468;l2468;l12468;l3468;l13468;l23468;l123468;l568;",
  "l1568;l2568;l12568;l3568;l13568;l23568;l123568;l4568;l14568;l24568;l124568;l34568;l134568;",
  "l234568;l1234568;l78;l178;l278;l1278;l378;l1378;l2378;l12378;l478;l1478;l2478;l12478;l3478;",
  "l13478;l23478;l123478;l578;l1578;l2578;l12578;l3578;l13578;l23578;l123578;l4578;l14578;l24578;",
  "l124578;l34578;l134578;l234578;l1234578;l678;l1678;l2678;l12678;l3678;l13678;l23678;l123678;",
  "l4678;l14678;l24678;l124678;l34678;l134678;l234678;l1234678;l5678;l15678;l25678;l125678;l35678;",
  "l135678;l235678;l1235678;l45678;l145678;l245678;l1245678;l345678;l1345678;l2345678;l12345678;",
  "0RIGHTWARDS_TWO-HEADED_ARROW_WITH_VERTICAL_STROKE;xDOUBLE_VERTICAL_STROKE;",
  "0LEFTWARDS_DOUBLE_ARROW_WITH_VERTICAL_STROKE;0RIGHTWARDS_DOUBLE_ARROW_WITH_VERTICAL_STROKE;",
  "0LEFT_RIGHT_DOUBLE_ARROW_WITH_VERTICAL_STROKE;0RIGHTWARDS_TWO-HEADED_ARROW_FROM_BAR;",
  "0LEFTWARDS_DOUBLE_ARROW_FROM_BAR;0RIGHTWARDS_DOUBLE_ARROW_FROM_BAR;",
  "0DOWNWARDS_ARROW_WITH_HORIZONTAL_STROKE;0UPWARDS_ARROW_WITH_HORIZONTAL_STROKE;8TRIPLE_ARROW;",
  "0DOWNWARDS_TRIPLE_ARROW;0LEFTWARDS_DOUBLE_DASH_ARROW;0RIGHTWARDS_DOUBLE_DASH_ARROW;",
  "0LEFTWARDS_TRIPLE_DASH_ARROW;0RIGHTWARDS_TRIPLE_DASH_ARROW;cWO-HEADED_TRIPLE_DASH_ARROW;",
  "bARROW_WITH_DOTTED_STEM;0UPWARDS_ARROW_TO_BAR;0DOWNWARDS_ARROW_TO_BAR;",
  "0RIGHTWARDS_ARROW_WITH_TAIL_WITH_VERTICAL_STROKE;wDOUBLE_VERTICAL_STROKE;",
  "bTWO-HEADED_ARROW_WITH_TAIL;B_WITH_VERTICAL_STROKE;HDOUBLE_VERTICAL_STROKE;",
  "0LEFTWARDS_ARROW-TAIL;0RIGHTWARDS_ARROW-TAIL;0LEFTWARDS_DOUBLE_ARROW-TAIL;",
  "0RIGHTWARDS_DOUBLE_ARROW-TAIL;0LEFTWARDS_ARROW_TO_BLACK_DIAMOND;",
  "0RIGHTWARDS_ARROW_TO_BLACK_DIAMOND;0LEFTWARDS_ARROW_FROM_BAR_TO_BLACK_DIAMOND;",
  "0RIGHTWARDS_ARROW_FROM_BAR_TO_BLACK_DIAMOND;0NORTH_WEST_AND_SOUTH_EAST_ARROW;",
  "6EAST_AND_SOUTH_WEST_ARROW;6WEST_ARROW_WITH_HOOK;6EAST_ARROW_WITH_HOOK;",
  "0SOUTH_EAST_ARROW_WITH_HOOK;6WEST_ARROW_WITH_HOOK;0NORTH_WEST_ARROW_AND_NORTH_EAST_ARROW;",
  "6EAST_ARROW_AND_SOUTH_EAST_ARROW;0SOUTH_EAST_ARROW_AND_SOUTH_WEST_ARROW;",
  "6WEST_ARROW_AND_NORTH_WEST_ARROW;0RISING_DIAGONAL_CROSSING_FALLING_DIAGONAL;",
  "0FALLING_DIAGONAL_CROSSING_RISING_DIAGONAL;0SOUTH_EAST_ARROW_CROSSING_NORTH_EAST_ARROW;",
  "0NORTH_EAST_ARROW_CROSSING_SOUTH_EAST_ARROW;0FALLING_DIAGONAL_CROSSING_NORTH_EAST_ARROW;",
  "0RISING_DIAGONAL_CROSSING_SOUTH_EAST_ARROW;0NORTH_EAST_ARROW_CROSSING_NORTH_WEST_ARROW;",
  "6WEST_ARROW_CROSSING_NORTH_EAST_ARROW;0WAVE_ARROW_POINTING_DIRECTLY_RIGHT;",
  "0ARROW_POINTING_RIGHTWARDS_THEN_CURVING_UPWARDS;DDOWNWARDS;fDOWNWARDS_THEN_CURVING_LEFTWARDS;",
  "CRIGHTWARDS;0RIGHT-SIDE_ARC_CLOCKWISE_ARROW;0LEFT-SIDE_ARC_ANTICLOCKWISE_ARROW;",
  "0TOP_ARC_ANTICLOCKWISE_ARROW;0BOTTOM_ARC_ANTICLOCKWISE_ARROW;",
  "0TOP_ARC_CLOCKWISE_ARROW_WITH_MINUS;8ANTICLOCKWISE_ARROW_WITH_PLUS;",
  "0LOWER_RIGHT_SEMICIRCULAR_CLOCKWISE_ARROW;6LEFT_SEMICIRCULAR_ANTICLOCKWISE_ARROW;",
  "0ANTICLOCKWISE_CLOSED_CIRCLE_ARROW;0CLOCKWISE_CLOSED_CIRCLE_ARROW;",
  "0RIGHTWARDS_ARROW_ABOVE_SHORT_LEFTWARDS_ARROW;0LEFTWARDS_ARROW_ABOVE_SHORT_RIGHTWARDS_ARROW;",
  "0SHORT_RIGHTWARDS_ARROW_ABOVE_LEFTWARDS_ARROW;0RIGHTWARDS_ARROW_WITH_PLUS_BELOW;",
  "0LEFTWARDS_ARROW_WITH_PLUS_BELOW;0RIGHTWARDS_ARROW_THROUGH_X;",
  "0LEFT_RIGHT_ARROW_THROUGH_SMALL_CIRCLE;0UPWARDS_TWO-HEADED_ARROW_FROM_SMALL_CIRCLE;",
  "0LEFT_BARB_UP_RIGHT_BARB_DOWN_HARPOON;aDOWN_RIGHT_BARB_UP_HARPOON;",
  "0UP_BARB_RIGHT_DOWN_BARB_LEFT_HARPOON;8LEFT_DOWN_BARB_RIGHT_HARPOON;",
  "0LEFT_BARB_UP_RIGHT_BARB_UP_HARPOON;0UP_BARB_RIGHT_DOWN_BARB_RIGHT_HARPOON;",
  "0LEFT_BARB_DOWN_RIGHT_BARB_DOWN_HARPOON;0UP_BARB_LEFT_DOWN_BARB_LEFT_HARPOON;",
  "0LEFTWARDS_HARPOON_WITH_BARB_UP_TO_BAR;0RIGHTWARDS_HARPOON_WITH_BARB_UP_TO_BAR;",
  "0UPWARDS_HARPOON_WITH_BARB_RIGHT_TO_BAR;0DOWNWARDS_HARPOON_WITH_BARB_RIGHT_TO_BAR;",
  "0LEFTWARDS_HARPOON_WITH_BARB_DOWN_TO_BAR;0RIGHTWARDS_HARPOON_WITH_BARB_DOWN_TO_BAR;",
  "0UPWARDS_HARPOON_WITH_BARB_LEFT_TO_BAR;0DOWNWARDS_HARPOON_WITH_BARB_LEFT_TO_BAR;",
  "0LEFTWARDS_HARPOON_WITH_BARB_UP_FROM_BAR;0RIGHTWARDS_HARPOON_WITH_BARB_UP_FROM_BAR;",
  "0UPWARDS_HARPOON_WITH_BARB_RIGHT_FROM_BAR;0DOWNWARDS_HARPOON_WITH_BARB_RIGHT_FROM_BAR;",
  "0LEFTWARDS_HARPOON_WITH_BARB_DOWN_FROM_BAR;0RIGHTWARDS_HARPOON_WITH_BARB_DOWN_FROM_BAR;",
  "0UPWARDS_HARPOON_WITH_BARB_LEFT_FROM_BAR;0DOWNWARDS_HARPOON_WITH_BARB_LEFT_FROM_BAR;",
  "0LEFTWARDS_HARPOON_WITH_BARB_UP_ABOVE_LEFTWARDS_HARPOON_WITH_BARB_DOWN;",
  "0UPWARDS_HARPOON_WITH_BARB_LEFT_BESIDE_UPWARDS_HARPOON_WITH_BARB_RIGHT;",
  "0RIGHTWARDS_HARPOON_WITH_BARB_UP_ABOVE_RIGHTWARDS_HARPOON_WITH_BARB_DOWN;",
  "0DOWNWARDS_HARPOON_WITH_BARB_LEFT_BESIDE_DOWNWARDS_HARPOON_WITH_BARB_RIGHT;",
  "0LEFTWARDS_HARPOON_WITH_BARB_UP_ABOVE_RIGHTWARDS_HARPOON_WITH_BARB_UP;",
  "sDOWN_ABOVE_RIGHTWARDS_HARPOON_WITH_BARB_DOWN;",
  "0RIGHTWARDS_HARPOON_WITH_BARB_UP_ABOVE_LEFTWARDS_HARPOON_WITH_BARB_UP;",
  "tDOWN_ABOVE_LEFTWARDS_HARPOON_WITH_BARB_DOWN;0LEFTWARDS_HARPOON_WITH_BARB_UP_ABOVE_LONG_DASH;",
  "sDOWN_BELOW_LONG_DASH;0RIGHTWARDS_HARPOON_WITH_BARB_UP_ABOVE_LONG_DASH;tDOWN_BELOW_LONG_DASH;",
  "0UPWARDS_HARPOON_WITH_BARB_LEFT_BESIDE_DOWNWARDS_HARPOON_WITH_BARB_RIGHT;",
  "0DOWNWARDS_HARPOON_WITH_BARB_LEFT_BESIDE_UPWARDS_HARPOON_WITH_BARB_RIGHT;",
  "0RIGHT_DOUBLE_ARROW_WITH_ROUNDED_HEAD;0EQUALS_SIGN_ABOVE_RIGHTWARDS_ARROW;",
  "0TILDE_OPERATOR_ABOVE_RIGHTWARDS_ARROW;0LEFTWARDS_ARROW_ABOVE_TILDE_OPERATOR;",
  "0RIGHTWARDS_ARROW_ABOVE_TILDE_OPERATOR;nALMOST_EQUAL_TO;0LESS-THAN_ABOVE_LEFTWARDS_ARROW;",
  "2FTWARDS_ARROW_THROUGH_LESS-THAN;0GREATER-THAN_ABOVE_RIGHTWARDS_ARROW;",
  "0SUBSET_ABOVE_RIGHTWARDS_ARROW;0LEFTWARDS_ARROW_THROUGH_SUBSET;0SUPERSET_ABOVE_LEFTWARDS_ARROW;",
  "0LEFT_FISH_TAIL;0RIGHT_FISH_TAIL;0UP_FISH_TAIL;0DOWN_FISH_TAIL;0TRIPLE_VERTICAL_BAR_DELIMITER;",
  "0Z_NOTATION_SPOT;bTYPE_COLON;0LEFT_WHITE_CURLY_BRACKET;0RIGHT_WHITE_CURLY_BRACKET;",
  "0LEFT_WHITE_PARENTHESIS;0RIGHT_WHITE_PARENTHESIS;0Z_NOTATION_LEFT_IMAGE_BRACKET;",
  "bRIGHT_IMAGE_BRACKET;bLEFT_BINDING_BRACKET;bRIGHT_BINDING_BRACKET;",
  "0LEFT_SQUARE_BRACKET_WITH_UNDERBAR;0RIGHT_SQUARE_BRACKET_WITH_UNDERBAR;",
  "0LEFT_SQUARE_BRACKET_WITH_TICK_IN_TOP_CORNER;0RIGHT_SQUARE_BRACKET_WITH_TICK_IN_BOTTOM_CORNER;",
  "0LEFT_SQUARE_BRACKET_WITH_TICK_IN_BOTTOM_CORNER;0RIGHT_SQUARE_BRACKET_WITH_TICK_IN_TOP_CORNER;",
  "0LEFT_ANGLE_BRACKET_WITH_DOT;0RIGHT_ANGLE_BRACKET_WITH_DOT;0LEFT_ARC_LESS-THAN_BRACKET;",
  "0RIGHT_ARC_GREATER-THAN_BRACKET;0DOUBLE_LEFT_ARC_GREATER-THAN_BRACKET;",
  "7RIGHT_ARC_LESS-THAN_BRACKET;0LEFT_BLACK_TORTOISE_SHELL_BRACKET;",
  "0RIGHT_BLACK_TORTOISE_SHELL_BRACKET;0DOTTED_FENCE;0VERTICAL_ZIGZAG_LINE;",
  "0MEASURED_ANGLE_OPENING_LEFT;0RIGHT_ANGLE_VARIANT_WITH_SQUARE;0MEASURED_RIGHT_ANGLE_WITH_DOT;",
  "0ANGLE_WITH_S_INSIDE;1CUTE_ANGLE;0SPHERICAL_ANGLE_OPENING_LEFT;oUP;0TURNED_ANGLE;",
  "0REVERSED_ANGLE;0ANGLE_WITH_UNDERBAR;0REVERSED_ANGLE_WITH_UNDERBAR;0OBLIQUE_ANGLE_OPENING_UP;",
  "mDOWN;0MEASURED_ANGLE_WITH_OPEN_ARM_ENDING_IN_ARROW_POINTING_UP_AND_RIGHT;ZLEFT;",
  "SDOWN_AND_RIGHT;ZD_LEFT;SRIGHT_AND_UP;SLEFT_AND_UP;SRIGHT_AND_DOWN;SLEFT_AND_DOWN;",
  "0REVERSED_EMPTY_SET;0EMPTY_SET_WITH_OVERBAR;fSMALL_CIRCLE_ABOVE;fRIGHT_ARROW_ABOVE;",
  "fLEFT_ARROW_ABOVE;0CIRCLE_WITH_HORIZONTAL_BAR;6D_VERTICAL_BAR;8PARALLEL;8REVERSE_SOLIDUS;",
  "8PERPENDICULAR;6_DIVIDED_BY_HORIZONTAL_BAR_AND_TOP_HALF_DIVIDED_BY_VERTICAL_BAR;",
  "7WITH_SUPERIMPOSED_X;6D_ANTICLOCKWISE-ROTATED_DIVISION_SIGN;0UP_ARROW_THROUGH_CIRCLE;",
  "0CIRCLED_WHITE_BULLET;8BULLET;8LESS-THAN;8GREATER-THAN;6_WITH_SMALL_CIRCLE_TO_THE_RIGHT;",
  "cTWO_HORIZONTAL_STROKES_TO_THE_RIGHT;0SQUARED_RISING_DIAGONAL_SLASH;8FALLING_DIAGONAL_SLASH;",
  "8ASTERISK;8SMALL_CIRCLE;9QUARE;0TWO_JOINED_SQUARES;1RIANGLE_WITH_DOT_ABOVE;eUNDERBAR;",
  "0S_IN_TRIANGLE;0TRIANGLE_WITH_SERIFS_AT_BOTTOM;0RIGHT_TRIANGLE_ABOVE_LEFT_TRIANGLE;",
  "0LEFT_TRIANGLE_BESIDE_VERTICAL_BAR;0VERTICAL_BAR_BESIDE_RIGHT_TRIANGLE;",
  "0BOWTIE_WITH_LEFT_HALF_BLACK;cRIGHT_HALF_BLACK;1LACK_BOWTIE;0TIMES_WITH_LEFT_HALF_BLACK;",
  "bRIGHT_HALF_BLACK;0WHITE_HOURGLASS;0BLACK_HOURGLASS;0LEFT_WIGGLY_FENCE;0RIGHT_WIGGLY_FENCE;",
  "0LEFT_DOUBLE_WIGGLY_FENCE;0RIGHT_DOUBLE_WIGGLY_FENCE;0INCOMPLETE_INFINITY;0TIE_OVER_INFINITY;",
  "0INFINITY_NEGATED_WITH_VERTICAL_BAR;0DOUBLE-ENDED_MULTIMAP;0SQUARE_WITH_CONTOURED_OUTLINE;",
  "0INCREASES_AS;0SHUFFLE_PRODUCT;0EQUALS_SIGN_AND_SLANTED_PARALLEL;"]

end Milp.Text.CharacterName
