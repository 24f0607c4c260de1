set_option autoImplicit false

/-! # Names of the characters from U+29E4 to U+A748

The names that Unicode 14 gives them, in the form that `Milp.Text.CharacterName` reads. -/

namespace Milp.Text.CharacterName

/-- Names from U+29E4 to U+A748. -/
def part4 : List String := [
  ">29E4:0EQUALS_SIGN_AND_SLANTED_PARALLEL_WITH_TILDE_ABOVE;0IDENTICAL_TO_AND_SLANTED_PARALLEL;",
  "0GLEICH_STARK;0THERMODYNAMIC;0DOWN-POINTING_TRIANGLE_WITH_LEFT_HALF_BLACK;sRIGHT_HALF_BLACK;",
  "0BLACK_DIAMOND_WITH_DOWN_ARROW;6LOZENGE;0WHITE_CIRCLE_WITH_DOWN_ARROW;",
  "0BLACK_CIRCLE_WITH_DOWN_ARROW;0ERROR-BARRED_WHITE_SQUARE;dBLACK_SQUARE;dWHITE_DIAMOND;",
  "dBLACK_DIAMOND;dWHITE_CIRCLE;dBLACK_CIRCLE;0RULE-DELAYED;1EVERSE_SOLIDUS_OPERATOR;",
  "0SOLIDUS_WITH_OVERBAR;0REVERSE_SOLIDUS_WITH_HORIZONTAL_STROKE;0BIG_SOLIDUS;4REVERSE_SOLIDUS;",
  "0DOUBLE_PLUS;0TRIPLE_PLUS;0LEFT-POINTING_CURVED_ANGLE_BRACKET;",
  "0RIGHT-POINTING_CURVED_ANGLE_BRACKET;0TINY;0MINY;0N-ARY_CIRCLED_DOT_OPERATOR;ePLUS_OPERATOR;",
  "eTIMES_OPERATOR;6UNION_OPERATOR_WITH_DOT;qPLUS;6SQUARE_INTERSECTION_OPERATOR;dUNION_OPERATOR;",
  "0TWO_LOGICAL_AND_OPERATOR;cOR_OPERATOR;0N-ARY_TIMES_OPERATOR;0MODULO_TWO_SUM;",
  "0SUMMATION_WITH_INTEGRAL;0QUADRUPLE_INTEGRAL_OPERATOR;0FINITE_PART_INTEGRAL;",
  "0INTEGRAL_WITH_DOUBLE_STROKE;9AVERAGE_WITH_SLASH;0CIRCULATION_FUNCTION;",
  "0ANTICLOCKWISE_INTEGRATION;0LINE_INTEGRATION_WITH_RECTANGULAR_PATH_AROUND_POLE;",
  "mSEMICIRCULAR_PATH_AROUND_POLE;hNOT_INCLUDING_THE_POLE;0INTEGRAL_AROUND_A_POINT_OPERATOR;",
  "0QUATERNION_INTEGRAL_OPERATOR;0INTEGRAL_WITH_LEFTWARDS_ARROW_WITH_HOOK;eTIMES_SIGN;",
  "eINTERSECTION;eUNION;eOVERBAR;eUNDERBAR;0JOIN;0LARGE_LEFT_TRIANGLE_OPERATOR;",
  "0Z_NOTATION_SCHEMA_COMPOSITION;iPIPING;jROJECTION;0PLUS_SIGN_WITH_SMALL_CIRCLE_ABOVE;",
  "fCIRCUMFLEX_ACCENT_ABOVE;fTILDE_ABOVE;fDOT_BELOW;fTILDE_BELOW;fSUBSCRIPT_TWO;fBLACK_TRIANGLE;",
  "0MINUS_SIGN_WITH_COMMA_ABOVE;gDOT_BELOW;gFALLING_DOTS;gRISING_DOTS;",
  "0PLUS_SIGN_IN_LEFT_HALF_CIRCLE;dRIGHT_HALF_CIRCLE;0VECTOR_OR_CROSS_PRODUCT;",
  "0MULTIPLICATION_SIGN_WITH_DOT_ABOVE;pUNDERBAR;0SEMIDIRECT_PRODUCT_WITH_BOTTOM_CLOSED;",
  "1MASH_PRODUCT;0MULTIPLICATION_SIGN_IN_LEFT_HALF_CIRCLE;nRIGHT_HALF_CIRCLE;",
  "0CIRCLED_MULTIPLICATION_SIGN_WITH_CIRCUMFLEX_ACCENT;0MULTIPLICATION_SIGN_IN_DOUBLE_CIRCLE;",
  "0CIRCLED_DIVISION_SIGN;0PLUS_SIGN_IN_TRIANGLE;0MINUS_SIGN_IN_TRIANGLE;",
  "1ULTIPLICATION_SIGN_IN_TRIANGLE;0INTERIOR_PRODUCT;0RIGHTHAND_INTERIOR_PRODUCT;",
  "0Z_NOTATION_RELATIONAL_COMPOSITION;0AMALGAMATION_OR_COPRODUCT;0INTERSECTION_WITH_DOT;",
  "0UNION_WITH_MINUS_SIGN;bOVERBAR;0INTERSECTION_WITH_OVERBAR;iLOGICAL_AND;0UNION_WITH_LOGICAL_OR;",
  "6ABOVE_INTERSECTION;0INTERSECTION_ABOVE_UNION;0UNION_ABOVE_BAR_ABOVE_INTERSECTION;",
  "0INTERSECTION_ABOVE_BAR_ABOVE_UNION;0UNION_BESIDE_AND_JOINED_WITH_UNION;",
  "0INTERSECTION_BESIDE_AND_JOINED_WITH_INTERSECTION;0CLOSED_UNION_WITH_SERIFS;",
  "7INTERSECTION_WITH_SERIFS;0DOUBLE_SQUARE_INTERSECTION;eUNION;",
  "0CLOSED_UNION_WITH_SERIFS_AND_SMASH_PRODUCT;0LOGICAL_AND_WITH_DOT_ABOVE;8OR_WITH_DOT_ABOVE;",
  "0DOUBLE_LOGICAL_AND;fOR;0TWO_INTERSECTING_LOGICAL_AND;pOR;0SLOPING_LARGE_OR;eAND;",
  "0LOGICAL_OR_OVERLAPPING_LOGICAL_AND;8AND_WITH_MIDDLE_STEM;8OR_WITH_MIDDLE_STEM;",
  "8AND_WITH_HORIZONTAL_DASH;8OR_WITH_HORIZONTAL_DASH;8AND_WITH_DOUBLE_OVERBAR;hUNDERBAR;",
  "hDOUBLE_UNDERBAR;0SMALL_VEE_WITH_UNDERBAR;0LOGICAL_OR_WITH_DOUBLE_OVERBAR;nUNDERBAR;",
  "0Z_NOTATION_DOMAIN_ANTIRESTRICTION;bRANGE_ANTIRESTRICTION;0EQUALS_SIGN_WITH_DOT_BELOW;",
  "0IDENTICAL_WITH_DOT_ABOVE;0TRIPLE_HORIZONTAL_BAR_WITH_DOUBLE_VERTICAL_STROKE;",
  "rTRIPLE_VERTICAL_STROKE;1ILDE_OPERATOR_WITH_DOT_ABOVE;kRISING_DOTS;0SIMILAR_MINUS_SIMILAR;",
  "0CONGRUENT_WITH_DOT_ABOVE;0EQUALS_WITH_ASTERISK;0ALMOST_EQUAL_TO_WITH_CIRCUMFLEX_ACCENT;",
  "1PPROXIMATELY_EQUAL_OR_EQUAL_TO;0EQUALS_SIGN_ABOVE_PLUS_SIGN;0PLUS_SIGN_ABOVE_EQUALS_SIGN;",
  "0EQUALS_SIGN_ABOVE_TILDE_OPERATOR;0DOUBLE_COLON_EQUAL;0TWO_CONSECUTIVE_EQUALS_SIGNS;",
  "1HREE_CONSECUTIVE_EQUALS_SIGNS;0EQUALS_SIGN_WITH_TWO_DOTS_ABOVE_AND_TWO_DOTS_BELOW;",
  "3IVALENT_WITH_FOUR_DOTS_ABOVE;0LESS-THAN_WITH_CIRCLE_INSIDE;0GREATER-THAN_WITH_CIRCLE_INSIDE;",
  "0LESS-THAN_WITH_QUESTION_MARK_ABOVE;0GREATER-THAN_WITH_QUESTION_MARK_ABOVE;",
  "0LESS-THAN_OR_SLANTED_EQUAL_TO;0GREATER-THAN_OR_SLANTED_EQUAL_TO;",
  "0LESS-THAN_OR_SLANTED_EQUAL_TO_WITH_DOT_INSIDE;",
  "0GREATER-THAN_OR_SLANTED_EQUAL_TO_WITH_DOT_INSIDE;",
  "0LESS-THAN_OR_SLANTED_EQUAL_TO_WITH_DOT_ABOVE;0GREATER-THAN_OR_SLANTED_EQUAL_TO_WITH_DOT_ABOVE;",
  "0LESS-THAN_OR_SLANTED_EQUAL_TO_WITH_DOT_ABOVE_RIGHT;",
  "0GREATER-THAN_OR_SLANTED_EQUAL_TO_WITH_DOT_ABOVE_LEFT;0LESS-THAN_OR_APPROXIMATE;",
  "0GREATER-THAN_OR_APPROXIMATE;0LESS-THAN_AND_SINGLE-LINE_NOT_EQUAL_TO;",
  "0GREATER-THAN_AND_SINGLE-LINE_NOT_EQUAL_TO;0LESS-THAN_AND_NOT_APPROXIMATE;",
  "0GREATER-THAN_AND_NOT_APPROXIMATE;0LESS-THAN_ABOVE_DOUBLE-LINE_EQUAL_ABOVE_GREATER-THAN;",
  "0GREATER-THAN_ABOVE_DOUBLE-LINE_EQUAL_ABOVE_LESS-THAN;0LESS-THAN_ABOVE_SIMILAR_OR_EQUAL;",
  "0GREATER-THAN_ABOVE_SIMILAR_OR_EQUAL;0LESS-THAN_ABOVE_SIMILAR_ABOVE_GREATER-THAN;",
  "0GREATER-THAN_ABOVE_SIMILAR_ABOVE_LESS-THAN;",
  "0LESS-THAN_ABOVE_GREATER-THAN_ABOVE_DOUBLE-LINE_EQUAL;",
  "0GREATER-THAN_ABOVE_LESS-THAN_ABOVE_DOUBLE-LINE_EQUAL;",
  "0LESS-THAN_ABOVE_SLANTED_EQUAL_ABOVE_GREATER-THAN_ABOVE_SLANTED_EQUAL;",
  "0GREATER-THAN_ABOVE_SLANTED_EQUAL_ABOVE_LESS-THAN_ABOVE_SLANTED_EQUAL;",
  "0SLANTED_EQUAL_TO_OR_LESS-THAN;kGREATER-THAN;kLESS-THAN_WITH_DOT_INSIDE;",
  "kGREATER-THAN_WITH_DOT_INSIDE;0DOUBLE-LINE_EQUAL_TO_OR_LESS-THAN;oGREATER-THAN;",
  "cSLANTED_EQUAL_TO_OR_LESS-THAN;wGREATER-THAN;0SIMILAR_OR_LESS-THAN;bGREATER-THAN;",
  "8ABOVE_LESS-THAN_ABOVE_EQUALS_SIGN;eGREATER-THAN_ABOVE_EQUALS_SIGN;0DOUBLE_NESTED_LESS-THAN;",
  "eGREATER-THAN;eLESS-THAN_WITH_UNDERBAR;0GREATER-THAN_OVERLAPPING_LESS-THAN;dBESIDE_LESS-THAN;",
  "0LESS-THAN_CLOSED_BY_CURVE;0GREATER-THAN_CLOSED_BY_CURVE;",
  "0LESS-THAN_CLOSED_BY_CURVE_ABOVE_SLANTED_EQUAL;",
  "0GREATER-THAN_CLOSED_BY_CURVE_ABOVE_SLANTED_EQUAL;0SMALLER_THAN;0LARGER_THAN;",
  "0SMALLER_THAN_OR_EQUAL_TO;0LARGER_THAN_OR_EQUAL_TO;0EQUALS_SIGN_WITH_BUMPY_ABOVE;",
  "0PRECEDES_ABOVE_SINGLE-LINE_EQUALS_SIGN;0SUCCEEDS_ABOVE_SINGLE-LINE_EQUALS_SIGN;",
  "0PRECEDES_ABOVE_SINGLE-LINE_NOT_EQUAL_TO;0SUCCEEDS_ABOVE_SINGLE-LINE_NOT_EQUAL_TO;",
  "0PRECEDES_ABOVE_EQUALS_SIGN;0SUCCEEDS_ABOVE_EQUALS_SIGN;0PRECEDES_ABOVE_NOT_EQUAL_TO;",
  "0SUCCEEDS_ABOVE_NOT_EQUAL_TO;0PRECEDES_ABOVE_ALMOST_EQUAL_TO;0SUCCEEDS_ABOVE_ALMOST_EQUAL_TO;",
  "0PRECEDES_ABOVE_NOT_ALMOST_EQUAL_TO;0SUCCEEDS_ABOVE_NOT_ALMOST_EQUAL_TO;0DOUBLE_PRECEDES;",
  "7SUCCEEDS;0SUBSET_WITH_DOT;2PERSET_WITH_DOT;2BSET_WITH_PLUS_SIGN_BELOW;",
  "2PERSET_WITH_PLUS_SIGN_BELOW;2BSET_WITH_MULTIPLICATION_SIGN_BELOW;",
  "2PERSET_WITH_MULTIPLICATION_SIGN_BELOW;2BSET_OF_OR_EQUAL_TO_WITH_DOT_ABOVE;",
  "2PERSET_OF_OR_EQUAL_TO_WITH_DOT_ABOVE;2BSET_OF_ABOVE_EQUALS_SIGN;2PERSET_OF_ABOVE_EQUALS_SIGN;",
  "2BSET_OF_ABOVE_TILDE_OPERATOR;2PERSET_OF_ABOVE_TILDE_OPERATOR;2BSET_OF_ABOVE_ALMOST_EQUAL_TO;",
  "2PERSET_OF_ABOVE_ALMOST_EQUAL_TO;2BSET_OF_ABOVE_NOT_EQUAL_TO;2PERSET_OF_ABOVE_NOT_EQUAL_TO;",
  "1QUARE_LEFT_OPEN_BOX_OPERATOR;7RIGHT_OPEN_BOX_OPERATOR;0CLOSED_SUBSET;9PERSET;",
  "9BSET_OR_EQUAL_TO;9PERSET_OR_EQUAL_TO;0SUBSET_ABOVE_SUPERSET;2PERSET_ABOVE_SUBSET;",
  "2BSET_ABOVE_SUBSET;2PERSET_ABOVE_SUPERSET;9BESIDE_SUBSET;gAND_JOINED_BY_DASH_WITH_SUBSET;",
  "0ELEMENT_OF_OPENING_DOWNWARDS;0PITCHFORK_WITH_TEE_TOP;0TRANSVERSAL_INTERSECTION;0FORKING;",
  "0NONFORKING;0SHORT_LEFT_TACK;6DOWN_TACK;6UP_TACK;0PERPENDICULAR_WITH_S;",
  "0VERTICAL_BAR_TRIPLE_RIGHT_TURNSTILE;0DOUBLE_VERTICAL_BAR_LEFT_TURNSTILE;",
  "0VERTICAL_BAR_DOUBLE_LEFT_TURNSTILE;0DOUBLE_VERTICAL_BAR_DOUBLE_LEFT_TURNSTILE;",
  "0LONG_DASH_FROM_LEFT_MEMBER_OF_DOUBLE_VERTICAL;0SHORT_DOWN_TACK_WITH_OVERBAR;",
  "6UP_TACK_WITH_UNDERBAR;eABOVE_SHORT_DOWN_TACK;0DOUBLE_DOWN_TACK;7UP_TACK;7STROKE_NOT_SIGN;",
  "0REVERSED_DOUBLE_STROKE_NOT_SIGN;0DOES_NOT_DIVIDE_WITH_REVERSED_NEGATION_SLASH;",
  "0VERTICAL_LINE_WITH_CIRCLE_ABOVE;qBELOW;0DOWN_TACK_WITH_CIRCLE_BELOW;",
  "0PARALLEL_WITH_HORIZONTAL_STROKE;eTILDE_OPERATOR;0TRIPLE_VERTICAL_BAR_BINARY_RELATION;",
  "kWITH_HORIZONTAL_STROKE;7COLON_OPERATOR;7NESTED_LESS-THAN;eGREATER-THAN;",
  "0DOUBLE-LINE_SLANTED_LESS-THAN_OR_EQUAL_TO;kGREATER-THAN_OR_EQUAL_TO;",
  "0TRIPLE_SOLIDUS_BINARY_RELATION;0LARGE_TRIPLE_VERTICAL_BAR_OPERATOR;0DOUBLE_SOLIDUS_OPERATOR;",
  "0WHITE_VERTICAL_BAR;0N-ARY_WHITE_VERTICAL_BAR;1ORTH_EAST_WHITE_ARROW;6WEST_WHITE_ARROW;",
  "0SOUTH_EAST_WHITE_ARROW;6WEST_WHITE_ARROW;0LEFT_RIGHT_WHITE_ARROW;4WARDS_BLACK_ARROW;",
  "0UPWARDS_BLACK_ARROW;0DOWNWARDS_BLACK_ARROW;0NORTH_EAST_BLACK_ARROW;6WEST_BLACK_ARROW;",
  "0SOUTH_EAST_BLACK_ARROW;6WEST_BLACK_ARROW;0LEFT_RIGHT_BLACK_ARROW;0UP_DOWN_BLACK_ARROW;",
  "0RIGHTWARDS_ARROW_WITH_TIP_DOWNWARDS;qUPWARDS;0LEFTWARDS_ARROW_WITH_TIP_DOWNWARDS;pUPWARDS;",
  "0SQUARE_WITH_TOP_HALF_BLACK;cBOTTOM_HALF_BLACK;cUPPER_RIGHT_DIAGONAL_HALF_BLACK;",
  "cLOWER_LEFT_DIAGONAL_HALF_BLACK;0DIAMOND_WITH_LEFT_HALF_BLACK;dRIGHT_HALF_BLACK;",
  "dTOP_HALF_BLACK;dBOTTOM_HALF_BLACK;1OTTED_SQUARE;0BLACK_LARGE_SQUARE;0WHITE_LARGE_SQUARE;",
  "0BLACK_VERY_SMALL_SQUARE;0WHITE_VERY_SMALL_SQUARE;0BLACK_PENTAGON;0WHITE_PENTAGON;6HEXAGON;",
  "0BLACK_HEXAGON;0HORIZONTAL_BLACK_HEXAGON;0BLACK_LARGE_CIRCLE;6MEDIUM_DIAMOND;",
  "0WHITE_MEDIUM_DIAMOND;0BLACK_MEDIUM_LOZENGE;0WHITE_MEDIUM_LOZENGE;0BLACK_SMALL_DIAMOND;",
  "cLOZENGE;0WHITE_SMALL_LOZENGE;0BLACK_HORIZONTAL_ELLIPSE;0WHITE_HORIZONTAL_ELLIPSE;",
  "0BLACK_VERTICAL_ELLIPSE;0WHITE_VERTICAL_ELLIPSE;0LEFT_ARROW_WITH_SMALL_CIRCLE;",
  "0THREE_LEFTWARDS_ARROWS;0LEFT_ARROW_WITH_CIRCLED_PLUS;1ONG_LEFTWARDS_SQUIGGLE_ARROW;",
  "1EFTWARDS_TWO-HEADED_ARROW_WITH_VERTICAL_STROKE;wDOUBLE_VERTICAL_STROKE;rFROM_BAR;",
  "lTRIPLE_DASH_ARROW;aARROW_WITH_DOTTED_STEM;lTAIL_WITH_VERTICAL_STROKE;vDOUBLE_VERTICAL_STROKE;",
  "aTWO-HEADED_ARROW_WITH_TAIL;A_WITH_VERTICAL_STROKE;GDOUBLE_VERTICAL_STROKE;aARROW_THROUGH_X;",
  "0WAVE_ARROW_POINTING_DIRECTLY_LEFT;0EQUALS_SIGN_ABOVE_LEFTWARDS_ARROW;",
  "0REVERSE_TILDE_OPERATOR_ABOVE_LEFTWARDS_ARROW;0LEFTWARDS_ARROW_ABOVE_REVERSE_ALMOST_EQUAL_TO;",
  "0RIGHTWARDS_ARROW_THROUGH_GREATER-THAN;pSUPERSET;0LEFTWARDS_QUADRUPLE_ARROW;",
  "0RIGHTWARDS_QUADRUPLE_ARROW;1EVERSE_TILDE_OPERATOR_ABOVE_RIGHTWARDS_ARROW;",
  "1IGHTWARDS_ARROW_ABOVE_REVERSE_ALMOST_EQUAL_TO;0TILDE_OPERATOR_ABOVE_LEFTWARDS_ARROW;",
  "0LEFTWARDS_ARROW_ABOVE_ALMOST_EQUAL_TO;mREVERSE_TILDE_OPERATOR;",
  "0RIGHTWARDS_ARROW_ABOVE_REVERSE_TILDE_OPERATOR;0DOWNWARDS_TRIANGLE-HEADED_ZIGZAG_ARROW;",
  "0SHORT_SLANTED_NORTH_ARROW;6BACKSLANTED_SOUTH_ARROW;0WHITE_MEDIUM_STAR;0BLACK_SMALL_STAR;",
  "0WHITE_SMALL_STAR;0BLACK_RIGHT-POINTING_PENTAGON;0WHITE_RIGHT-POINTING_PENTAGON;",
  "0HEAVY_LARGE_CIRCLE;6OVAL_WITH_OVAL_INSIDE;6CIRCLE_WITH_CIRCLE_INSIDE;c;cD_SALTIRE;",
  "0SLANTED_NORTH_ARROW_WITH_HOOKED_HEAD;0BACKSLANTED_SOUTH_ARROW_WITH_HOOKED_TAIL;",
  "0SLANTED_NORTH_ARROW_WITH_HORIZONTAL_TAIL;0BACKSLANTED_SOUTH_ARROW_WITH_HORIZONTAL_TAIL;",
  "1ENT_ARROW_POINTING_DOWNWARDS_THEN_NORTH_EAST;",
  "0SHORT_BENT_ARROW_POINTING_DOWNWARDS_THEN_NORTH_EAST;0LEFTWARDS_TRIANGLE-HEADED_ARROW;",
  "0UPWARDS_TRIANGLE-HEADED_ARROW;0RIGHTWARDS_TRIANGLE-HEADED_ARROW;",
  "0DOWNWARDS_TRIANGLE-HEADED_ARROW;0LEFT_RIGHT_TRIANGLE-HEADED_ARROW;",
  "0UP_DOWN_TRIANGLE-HEADED_ARROW;0NORTH_WEST_TRIANGLE-HEADED_ARROW;6EAST_TRIANGLE-HEADED_ARROW;",
  "0SOUTH_EAST_TRIANGLE-HEADED_ARROW;6WEST_TRIANGLE-HEADED_ARROW;",
  "0LEFTWARDS_TRIANGLE-HEADED_DASHED_ARROW;0UPWARDS_TRIANGLE-HEADED_DASHED_ARROW;",
  "0RIGHTWARDS_TRIANGLE-HEADED_DASHED_ARROW;0DOWNWARDS_TRIANGLE-HEADED_DASHED_ARROW;",
  "0CLOCKWISE_TRIANGLE-HEADED_OPEN_CIRCLE_ARROW;0ANTICLOCKWISE_TRIANGLE-HEADED_OPEN_CIRCLE_ARROW;",
  "0LEFTWARDS_TRIANGLE-HEADED_ARROW_TO_BAR;0UPWARDS_TRIANGLE-HEADED_ARROW_TO_BAR;",
  "0RIGHTWARDS_TRIANGLE-HEADED_ARROW_TO_BAR;0DOWNWARDS_TRIANGLE-HEADED_ARROW_TO_BAR;",
  ">2B76:0NORTH_WEST_TRIANGLE-HEADED_ARROW_TO_BAR;6EAST_TRIANGLE-HEADED_ARROW_TO_BAR;",
  "0SOUTH_EAST_TRIANGLE-HEADED_ARROW_TO_BAR;6WEST_TRIANGLE-HEADED_ARROW_TO_BAR;",
  "0LEFTWARDS_TRIANGLE-HEADED_ARROW_WITH_DOUBLE_HORIZONTAL_STROKE;",
  "0UPWARDS_TRIANGLE-HEADED_ARROW_WITH_DOUBLE_HORIZONTAL_STROKE;",
  "0RIGHTWARDS_TRIANGLE-HEADED_ARROW_WITH_DOUBLE_HORIZONTAL_STROKE;",
  "0DOWNWARDS_TRIANGLE-HEADED_ARROW_WITH_DOUBLE_HORIZONTAL_STROKE;0HORIZONTAL_TAB_KEY;",
  "0VERTICAL_TAB_KEY;0LEFTWARDS_TRIANGLE-HEADED_ARROW_OVER_RIGHTWARDS_TRIANGLE-HEADED_ARROW;",
  "0UPWARDS_TRIANGLE-HEADED_ARROW_LEFTWARDS_OF_DOWNWARDS_TRIANGLE-HEADED_ARROW;",
  "0RIGHTWARDS_TRIANGLE-HEADED_ARROW_OVER_LEFTWARDS_TRIANGLE-HEADED_ARROW;",
  "0DOWNWARDS_TRIANGLE-HEADED_ARROW_LEFTWARDS_OF_UPWARDS_TRIANGLE-HEADED_ARROW;",
  "0LEFTWARDS_TRIANGLE-HEADED_PAIRED_ARROWS;0UPWARDS_TRIANGLE-HEADED_PAIRED_ARROWS;",
  "0RIGHTWARDS_TRIANGLE-HEADED_PAIRED_ARROWS;0DOWNWARDS_TRIANGLE-HEADED_PAIRED_ARROWS;",
  "0LEFTWARDS_BLACK_CIRCLED_WHITE_ARROW;0UPWARDS_BLACK_CIRCLED_WHITE_ARROW;",
  "0RIGHTWARDS_BLACK_CIRCLED_WHITE_ARROW;0DOWNWARDS_BLACK_CIRCLED_WHITE_ARROW;",
  "0ANTICLOCKWISE_TRIANGLE-HEADED_RIGHT_U-SHAPED_ARROW;uBOTTOM_U-SHAPED_ARROW;",
  "uLEFT_U-SHAPED_ARROW;uTOP_U-SHAPED_ARROW;0RETURN_LEFT;7RIGHT;0NEWLINE_LEFT;8RIGHT;",
  "0FOUR_CORNER_ARROWS_CIRCLING_ANTICLOCKWISE;0RIGHTWARDS_BLACK_ARROW;",
  ">2B97:0SYMBOL_FOR_TYPE_A_ELECTRONICS;0THREE-D_TOP-LIGHTED_LEFTWARDS_EQUILATERAL_ARROWHEAD;",
  "8RIGHT-LIGHTED_UPWARDS_EQUILATERAL_ARROWHEAD;8TOP-LIGHTED_RIGHTWARDS_EQUILATERAL_ARROWHEAD;",
  "8LEFT-LIGHTED_DOWNWARDS_EQUILATERAL_ARROWHEAD;0BLACK_LEFTWARDS_EQUILATERAL_ARROWHEAD;",
  "6UPWARDS_EQUILATERAL_ARROWHEAD;6RIGHTWARDS_EQUILATERAL_ARROWHEAD;",
  "6DOWNWARDS_EQUILATERAL_ARROWHEAD;0DOWNWARDS_TRIANGLE-HEADED_ARROW_WITH_LONG_TIP_LEFTWARDS;",
  "KRIGHTWARDS;0UPWARDS_TRIANGLE-HEADED_ARROW_WITH_LONG_TIP_LEFTWARDS;IRIGHTWARDS;",
  "0LEFTWARDS_TRIANGLE-HEADED_ARROW_WITH_LONG_TIP_UPWARDS;",
  "0RIGHTWARDS_TRIANGLE-HEADED_ARROW_WITH_LONG_TIP_UPWARDS;",
  "0LEFTWARDS_TRIANGLE-HEADED_ARROW_WITH_LONG_TIP_DOWNWARDS;",
  "0RIGHTWARDS_TRIANGLE-HEADED_ARROW_WITH_LONG_TIP_DOWNWARDS;",
  "0BLACK_CURVED_DOWNWARDS_AND_LEFTWARDS_ARROW;rRIGHTWARDS_ARROW;dUPWARDS_AND_LEFTWARDS_ARROW;",
  "pRIGHTWARDS_ARROW;dLEFTWARDS_AND_UPWARDS_ARROW;dRIGHTWARDS_AND_UPWARDS_ARROW;",
  "dLEFTWARDS_AND_DOWNWARDS_ARROW;dRIGHTWARDS_AND_DOWNWARDS_ARROW;0RIBBON_ARROW_DOWN_LEFT;iRIGHT;",
  "dUP_LEFT;gRIGHT;dLEFT_UP;dRIGHT_UP;dLEFT_DOWN;dRIGHT_DOWN;",
  "0UPWARDS_WHITE_ARROW_FROM_BAR_WITH_HORIZONTAL_BAR;2_ARROWHEAD_IN_A_RECTANGLE_BOX;",
  "0OVERLAPPING_WHITE_SQUARES;iAND_BLACK_SQUARES;cBLACK_SQUARES;0BALLOT_BOX_WITH_LIGHT_X;",
  "0CIRCLED_X;8BOLD_X;0BLACK_SQUARE_CENTRED;6DIAMOND_CENTRED;0TURNED_BLACK_PENTAGON;",
  "0HORIZONTAL_BLACK_OCTAGON;0BLACK_OCTAGON;6MEDIUM_UP-POINTING_TRIANGLE_CENTRED;",
  "dDOWN-POINTING_TRIANGLE_CENTRED;dLEFT-POINTING_TRIANGLE_CENTRED;",
  "dRIGHT-POINTING_TRIANGLE_CENTRED;0NEPTUNE_FORM_TWO;0TOP_HALF_BLACK_CIRCLE;",
  "0BOTTOM_HALF_BLACK_CIRCLE;0LIGHT_FOUR_POINTED_BLACK_CUSP;",
  "0ROTATED_LIGHT_FOUR_POINTED_BLACK_CUSP;0WHITE_FOUR_POINTED_CUSP;",
  "0ROTATED_WHITE_FOUR_POINTED_CUSP;0SQUARE_POSITION_INDICATOR;0UNCERTAINTY_SIGN;0GROUP_MARK;",
  "0PLUTO_FORM_TWO;cHREE;bFOUR;cIVE;0TRANSPLUTO;0PROSERPINA;0ASTRAEA;0HYGIEA;0PHOLUS;0NESSUS;",
  "0WHITE_MOON_SELENA;0BLACK_DIAMOND_ON_CROSS;0TRUE_LIGHT_MOON_ARTA;0CUPIDO;0HADES;0ZEUS;0KRONOS;",
  "0APOLLON;1DMETOS;0VULCANUS;0POSEIDON;0LEFT_HALF_BLACK_STAR;0RIGHT_HALF_BLACK_STAR;",
  "0STAR_WITH_LEFT_HALF_BLACK;aRIGHT_HALF_BLACK;",
  "0LEFTWARDS_TWO-HEADED_ARROW_WITH_TRIANGLE_ARROWHEADS;",
  "0UPWARDS_TWO-HEADED_ARROW_WITH_TRIANGLE_ARROWHEADS;",
  "0RIGHTWARDS_TWO-HEADED_ARROW_WITH_TRIANGLE_ARROWHEADS;",
  "0DOWNWARDS_TWO-HEADED_ARROW_WITH_TRIANGLE_ARROWHEADS;0ERIS_FORM_ONE;aTWO;0SEDNA;",
  "0RUSSIAN_ASTROLOGICAL_SYMBOL_VIGINTILE;sNOVILE;sQUINTILE;sBINOVILE;sSENTAGON;sTREDECILE;",
  "0EQUALS_SIGN_WITH_INFINITY_BELOW;0UNITED_SYMBOL;0SEPARATED_SYMBOL;0DOUBLED_SYMBOL;",
  "0PASSED_SYMBOL;0REVERSED_RIGHT_ANGLE;0HELLSCHREIBER_PAUSE_SYMBOL;",
  "0GLAGOLITIC_CAPITAL_LETTER_AZU;qBUKY;qVEDE;qGLAGOLI;qDOBRO;qYESTU;qZHIVETE;qDZELO;qZEMLJA;",
  "qIZHE;rNITIAL_IZHE;r;qDJERVI;qKAKO;qLJUDIJE;qMYSLITE;qNASHI;qONU;qPOKOJI;qRITSI;qSLOVO;qTVRIDO;",
  "qUKU;qFRITU;qHERU;qOTU;qPE;qSHTA;qTSI;qCHRIVI;qSHA;qYERU;tI;rATI;qSPIDERY_HA;qYU;qSMALL_YUS;",
  "z_WITH_TAIL;qYO;qIOTATED_SMALL_YUS;qBIG_YUS;qIOTATED_BIG_YUS;qFITA;qIZHITSA;qSHTAPIC;",
  "qTROKUTASTI_A;qLATINATE_MYSLITE;qCAUDATE_CHRIVI;bSMALL_LETTER_AZU;oBUKY;oVEDE;oGLAGOLI;oDOBRO;",
  "oYESTU;oZHIVETE;oDZELO;oZEMLJA;oIZHE;pNITIAL_IZHE;p;oDJERVI;oKAKO;oLJUDIJE;oMYSLITE;oNASHI;",
  "oONU;oPOKOJI;oRITSI;oSLOVO;oTVRIDO;oUKU;oFRITU;oHERU;oOTU;oPE;oSHTA;oTSI;oCHRIVI;oSHA;oYERU;rI;",
  "pATI;oSPIDERY_HA;oYU;oSMALL_YUS;x_WITH_TAIL;oYO;oIOTATED_SMALL_YUS;oBIG_YUS;oIOTATED_BIG_YUS;",
  "oFITA;oIZHITSA;oSHTAPIC;oTROKUTASTI_A;oLATINATE_MYSLITE;oCAUDATE_CHRIVI;",
  "0LATIN_CAPITAL_LETTER_L_WITH_DOUBLE_BAR;6SMALL_LETTER_L_WITH_DOUBLE_BAR;",
  "6CAPITAL_LETTER_L_WITH_MIDDLE_TILDE;lP_WITH_STROKE;lR_WITH_TAIL;6SMALL_LETTER_A_WITH_STROKE;",
  "jT_WITH_DIAGONAL_STROKE;6CAPITAL_LETTER_H_WITH_DESCENDER;6SMALL_LETTER_H_WITH_DESCENDER;",
  "6CAPITAL_LETTER_K_WITH_DESCENDER;6SMALL_LETTER_K_WITH_DESCENDER;",
  "6CAPITAL_LETTER_Z_WITH_DESCENDER;6SMALL_LETTER_Z_WITH_DESCENDER;6CAPITAL_LETTER_ALPHA;",
  "lM_WITH_HOOK;lTURNED_A;tLPHA;6SMALL_LETTER_V_WITH_RIGHT_HOOK;6CAPITAL_LETTER_W_WITH_HOOK;",
  "6SMALL_LETTER_W_WITH_HOOK;jV_WITH_CURL;6CAPITAL_LETTER_HALF_H;6SMALL_LETTER_HALF_H;",
  "jTAILLESS_PHI;jE_WITH_NOTCH;jTURNED_R_WITH_TAIL;jO_WITH_LOW_RING_INSIDE;",
  "6LETTER_SMALL_CAPITAL_TURNED_E;6SUBSCRIPT_SMALL_LETTER_J;0MODIFIER_LETTER_CAPITAL_V;",
  "0LATIN_CAPITAL_LETTER_S_WITH_SWASH_TAIL;lZ_WITH_SWASH_TAIL;0COPTIC_CAPITAL_LETTER_ALFA;",
  "7SMALL_LETTER_ALFA;7CAPITAL_LETTER_VIDA;7SMALL_LETTER_VIDA;7CAPITAL_LETTER_GAMMA;",
  "7SMALL_LETTER_GAMMA;7CAPITAL_LETTER_DALDA;7SMALL_LETTER_DALDA;7CAPITAL_LETTER_EIE;",
  "7SMALL_LETTER_EIE;7CAPITAL_LETTER_SOU;7SMALL_LETTER_SOU;7CAPITAL_LETTER_ZATA;",
  "7SMALL_LETTER_ZATA;7CAPITAL_LETTER_HATE;7SMALL_LETTER_HATE;7CAPITAL_LETTER_THETHE;",
  "7SMALL_LETTER_THETHE;7CAPITAL_LETTER_IAUDA;7SMALL_LETTER_IAUDA;7CAPITAL_LETTER_KAPA;",
  "7SMALL_LETTER_KAPA;7CAPITAL_LETTER_LAULA;7SMALL_LETTER_LAULA;7CAPITAL_LETTER_MI;",
  "7SMALL_LETTER_MI;7CAPITAL_LETTER_NI;7SMALL_LETTER_NI;7CAPITAL_LETTER_KSI;7SMALL_LETTER_KSI;",
  "7CAPITAL_LETTER_O;7SMALL_LETTER_O;7CAPITAL_LETTER_PI;7SMALL_LETTER_PI;7CAPITAL_LETTER_RO;",
  "7SMALL_LETTER_RO;7CAPITAL_LETTER_SIMA;7SMALL_LETTER_SIMA;7CAPITAL_LETTER_TAU;7SMALL_LETTER_TAU;",
  "7CAPITAL_LETTER_UA;7SMALL_LETTER_UA;7CAPITAL_LETTER_FI;7SMALL_LETTER_FI;7CAPITAL_LETTER_KHI;",
  "7SMALL_LETTER_KHI;7CAPITAL_LETTER_PSI;7SMALL_LETTER_PSI;7CAPITAL_LETTER_OOU;7SMALL_LETTER_OOU;",
  "7CAPITAL_LETTER_DIALECT-P_ALEF;7SMALL_LETTER_DIALECT-P_ALEF;7CAPITAL_LETTER_OLD_COPTIC_AIN;",
  "7SMALL_LETTER_OLD_COPTIC_AIN;7CAPITAL_LETTER_CRYPTOGRAMMIC_EIE;7SMALL_LETTER_CRYPTOGRAMMIC_EIE;",
  "7CAPITAL_LETTER_DIALECT-P_KAPA;7SMALL_LETTER_DIALECT-P_KAPA;7CAPITAL_LETTER_DIALECT-P_NI;",
  "7SMALL_LETTER_DIALECT-P_NI;7CAPITAL_LETTER_CRYPTOGRAMMIC_NI;7SMALL_LETTER_CRYPTOGRAMMIC_NI;",
  "7CAPITAL_LETTER_OLD_COPTIC_OOU;7SMALL_LETTER_OLD_COPTIC_OOU;7CAPITAL_LETTER_SAMPI;",
  "7SMALL_LETTER_SAMPI;7CAPITAL_LETTER_CROSSED_SHEI;7SMALL_LETTER_CROSSED_SHEI;",
  "7CAPITAL_LETTER_OLD_COPTIC_SHEI;7SMALL_LETTER_OLD_COPTIC_SHEI;7CAPITAL_LETTER_OLD_COPTIC_ESH;",
  "7SMALL_LETTER_OLD_COPTIC_ESH;7CAPITAL_LETTER_AKHMIMIC_KHEI;7SMALL_LETTER_AKHMIMIC_KHEI;",
  "7CAPITAL_LETTER_DIALECT-P_HORI;7SMALL_LETTER_DIALECT-P_HORI;7CAPITAL_LETTER_OLD_COPTIC_HORI;",
  "7SMALL_LETTER_OLD_COPTIC_HORI;7CAPITAL_LETTER_OLD_COPTIC_HA;7SMALL_LETTER_OLD_COPTIC_HA;",
  "7CAPITAL_LETTER_L-SHAPED_HA;7SMALL_LETTER_L-SHAPED_HA;7CAPITAL_LETTER_OLD_COPTIC_HEI;",
  "7SMALL_LETTER_OLD_COPTIC_HEI;7CAPITAL_LETTER_OLD_COPTIC_HAT;7SMALL_LETTER_OLD_COPTIC_HAT;",
  "7CAPITAL_LETTER_OLD_COPTIC_GANGIA;7SMALL_LETTER_OLD_COPTIC_GANGIA;",
  "7CAPITAL_LETTER_OLD_COPTIC_DJA;7SMALL_LETTER_OLD_COPTIC_DJA;7CAPITAL_LETTER_OLD_COPTIC_SHIMA;",
  "7SMALL_LETTER_OLD_COPTIC_SHIMA;7CAPITAL_LETTER_OLD_NUBIAN_SHIMA;7SMALL_LETTER_OLD_NUBIAN_SHIMA;",
  "7CAPITAL_LETTER_OLD_NUBIAN_NGI;7SMALL_LETTER_OLD_NUBIAN_NGI;7CAPITAL_LETTER_OLD_NUBIAN_NYI;",
  "7SMALL_LETTER_OLD_NUBIAN_NYI;7CAPITAL_LETTER_OLD_NUBIAN_WAU;7SMALL_LETTER_OLD_NUBIAN_WAU;",
  "8YMBOL_KAI;eMI_RO;ePI_RO;eSTAUROS;eTAU_RO;eKHI_RO;eSHIMA_SIMA;",
  "7CAPITAL_LETTER_CRYPTOGRAMMIC_SHEI;7SMALL_LETTER_CRYPTOGRAMMIC_SHEI;",
  "7CAPITAL_LETTER_CRYPTOGRAMMIC_GANGIA;7SMALL_LETTER_CRYPTOGRAMMIC_GANGIA;7COMBINING_NI_ABOVE;",
  "hSPIRITUS_ASPER;qLENIS;8APITAL_LETTER_BOHAIRIC_KHEI;7SMALL_LETTER_BOHAIRIC_KHEI;",
  ">2CF9:7OLD_NUBIAN_FULL_STOP;iDIRECT_QUESTION_MARK;iINDIRECT_QUESTION_MARK;iVERSE_DIVIDER;",
  "7FRACTION_ONE_HALF;8ULL_STOP;7MORPHOLOGICAL_DIVIDER;0GEORGIAN_SMALL_LETTER_AN;mBAN;mGAN;mDON;",
  "mEN;mVIN;mZEN;mTAN;mIN;mKAN;mLAS;mMAN;mNAR;mON;mPAR;mZHAR;mRAE;mSAN;mTAR;mUN;mPHAR;mKHAR;mGHAN;",
  "mQAR;mSHIN;mCHIN;nAN;mJIL;mCIL;nHAR;mXAN;mJHAN;mHAE;nE;nIE;mWE;mHAR;nOE;>2D27:mYN;>2D2D:mAEN;",
  ">2D30:0TIFINAGH_LETTER_YA;iB;jH;iG;jHH;gBERBER_ACADEMY_YAJ;gYAJ;iD;jH;jD;kH;hEY;hAF;iK;",
  "gTUAREG_YAK;gYAKHH;iH;gBERBER_ACADEMY_YAH;gTUAREG_YAH;gYAHH;iA;iKH;gTUAREG_YAKH;gYAQ;",
  "gTUAREG_YAQ;gYI;hAZH;gAHAGGAR_YAZH;gTUAREG_YAZH;gYAL;iM;iN;gTUAREG_YAGN;pNG;gYAP;hU;hAR;jR;iGH;",
  "gTUAREG_YAGH;gAYER_YAGH;gYAS;jS;jH;iT;jH;iCH;iTT;iV;iW;iY;iZ;gTAWELLEMET_YAZ;gYAZZ;hE;hO;",
  ">2D6F:9MODIFIER_LETTER_LABIALIZATION_MARK;9SEPARATOR_MARK;>2D7F:9CONSONANT_JOINER;",
  "0ETHIOPIC_SYLLABLE_LOA;iMOA;iROA;iSOA;jHOA;iBOA;iTOA;iCOA;iNOA;jYOA;iGLOTTAL_OA;iZOA;iDOA;jDOA;",
  "iJOA;iTHOA;iCHOA;iPHOA;jOA;iGGWA;lI;lEE;m;>2DA0:iSSA;kU;kI;kAA;kEE;l;kO;>2DA8:iCCA;kU;kI;kAA;",
  "kEE;l;kO;>2DB0:iZZA;kU;kI;kAA;kEE;l;kO;>2DB8:iCCHA;lU;lI;lAA;lEE;m;lO;>2DC0:iQYA;kU;kI;kAA;kEE;",
  "l;kO;>2DC8:iKYA;kU;kI;kAA;kEE;l;kO;>2DD0:iXYA;kU;kI;kAA;kEE;l;kO;>2DD8:iGYA;kU;kI;kAA;kEE;l;kO;",
  ">2DE0:0COMBINING_CYRILLIC_LETTER_BE;qVE;qGHE;qDE;qZHE;rE;qKA;qEL;rM;rN;qO;qPE;qER;rS;qTE;qHA;",
  "qTSE;qCHE;qSHA;sCHA;qFITA;qES-TE;qA;qIE;qDJERV;qMONOGRAPH_UK;qYAT;rU;qIOTIFIED_A;qLITTLE_YUS;",
  "qBIG_YUS;qIOTIFIED_BIG_YUS;0RIGHT_ANGLE_SUBSTITUTION_MARKER;cDOTTED_SUBSTITUTION_MARKER;",
  "0LEFT_SUBSTITUTION_BRACKET;0RIGHT_SUBSTITUTION_BRACKET;0LEFT_DOTTED_SUBSTITUTION_BRACKET;",
  "0RIGHT_DOTTED_SUBSTITUTION_BRACKET;1AISED_INTERPOLATION_MARKER;7DOTTED_INTERPOLATION_MARKER;",
  "0DOTTED_TRANSPOSITION_MARKER;0LEFT_TRANSPOSITION_BRACKET;0RIGHT_TRANSPOSITION_BRACKET;",
  "1AISED_SQUARE;0LEFT_RAISED_OMISSION_BRACKET;0RIGHT_RAISED_OMISSION_BRACKET;0EDITORIAL_CORONIS;",
  "0PARAGRAPHOS;0FORKED_PARAGRAPHOS;0REVERSED_FORKED_PARAGRAPHOS;0HYPODIASTOLE;0DOTTED_OBELOS;",
  "2WNWARDS_ANCORA;0UPWARDS_ANCORA;0DOTTED_RIGHT-POINTING_ANGLE;2UBLE_OBLIQUE_HYPHEN;",
  "0INVERTED_INTERROBANG;0PALM_BRANCH;0HYPHEN_WITH_DIAERESIS;0TILDE_WITH_RING_ABOVE;",
  "0LEFT_LOW_PARAPHRASE_BRACKET;0RIGHT_LOW_PARAPHRASE_BRACKET;0TILDE_WITH_DOT_ABOVE;fBELOW;",
  "0LEFT_VERTICAL_BAR_WITH_QUILL;0RIGHT_VERTICAL_BAR_WITH_QUILL;0TOP_LEFT_HALF_BRACKET;",
  "4RIGHT_HALF_BRACKET;0BOTTOM_LEFT_HALF_BRACKET;7RIGHT_HALF_BRACKET;0LEFT_SIDEWAYS_U_BRACKET;",
  "0RIGHT_SIDEWAYS_U_BRACKET;0LEFT_DOUBLE_PARENTHESIS;0RIGHT_DOUBLE_PARENTHESIS;",
  "0TWO_DOTS_OVER_ONE_DOT_PUNCTUATION;0ONE_DOT_OVER_TWO_DOTS_PUNCTUATION;",
  "0SQUARED_FOUR_DOT_PUNCTUATION;0FIVE_DOT_MARK;0REVERSED_QUESTION_MARK;0VERTICAL_TILDE;",
  "0RING_POINT;0WORD_SEPARATOR_MIDDLE_DOT;0TURNED_COMMA;0RAISED_DOT;7COMMA;0TURNED_SEMICOLON;",
  "0DAGGER_WITH_LEFT_GUARD;cRIGHT_GUARD;0TURNED_DAGGER;1OP_HALF_SECTION_SIGN;1WO-EM_DASH;",
  "1HREE-EM_DASH;0STENOGRAPHIC_FULL_STOP;0VERTICAL_SIX_DOTS;0WIGGLY_VERTICAL_LINE;0CAPITULUM;",
  "0DOUBLE_HYPHEN;0REVERSED_COMMA;0DOUBLE_LOW-REVERSED-9_QUOTATION_MARK;1ASH_WITH_LEFT_UPTURN;",
  "1OUBLE_SUSPENSION_MARK;0INVERTED_LOW_KAVYKA;j_WITH_KAVYKA_ABOVE;0LOW_KAVYKA;a_WITH_DOT;",
  "0DOUBLE_STACKED_COMMA;2TTED_SOLIDUS;0TRIPLE_DAGGER;0MEDIEVAL_COMMA;0PARAGRAPHUS_MARK;",
  "1UNCTUS_ELEVATUS_MARK;0CORNISH_VERSE_DIVIDER;1ROSS_PATTY_WITH_RIGHT_CROSSBAR;hLEFT_CROSSBAR;",
  "0TIRONIAN_SIGN_CAPITAL_ET;0MEDIEVAL_EXCLAMATION_MARK;9QUESTION_MARK;",
  "0LEFT_SQUARE_BRACKET_WITH_STROKE;0RIGHT_SQUARE_BRACKET_WITH_STROKE;",
  "0LEFT_SQUARE_BRACKET_WITH_DOUBLE_STROKE;0RIGHT_SQUARE_BRACKET_WITH_DOUBLE_STROKE;",
  "0TOP_HALF_LEFT_PARENTHESIS;9RIGHT_PARENTHESIS;0BOTTOM_HALF_LEFT_PARENTHESIS;cRIGHT_PARENTHESIS;",
  "0OBLIQUE_HYPHEN;>2E80:0CJK_RADICAL_REPEAT;cCLIFF;cSECOND_ONE;jTWO;kHREE;cPERSON;cBOX;cTABLE;",
  "cKNIFE_ONE;iTWO;cDIVINATION;cSEAL;dMALL_ONE;iTWO;cLAME_ONE;hTWO;iHREE;hFOUR;cSNAKE;cTHREAD;",
  "cSNOUT_ONE;iTWO;cHEART_ONE;iTWO;dAND;cRAP;>2E9B:cCHOKE;cSUN;cMOON;cDEATH;cMOTHER;cCIVILIAN;",
  "cWATER_ONE;iTWO;cFIRE;cPAW_ONE;gTWO;cSIMPLIFIED_HALF_TREE_TRUNK;cCOW;cDOG;cJADE;cBOLT_OF_CLOTH;",
  "cEYE;cSPIRIT_ONE;jTWO;cBAMBOO;cSILK;cC-SIMPLIFIED_SILK;cNET_ONE;gTWO;hHREE;gFOUR;cMESH;cSHEEP;",
  "cRAM;cEWE;cOLD;cBRUSH_ONE;iTWO;cMEAT;dORTAR;cGRASS_ONE;iTWO;jHREE;cTIGER;cCLOTHES;cWEST_ONE;",
  "hTWO;cC-SIMPLIFIED_SEE;cSIMPLIFIED_HORN;cHORN;cC-SIMPLIFIED_SPEECH;qHELL;cFOOT;",
  "cC-SIMPLIFIED_CART;cSIMPLIFIED_WALK;cWALK_ONE;hTWO;cCITY;d-SIMPLIFIED_GOLD;cLONG_ONE;hTWO;",
  "cC-SIMPLIFIED_LONG;pGATE;cMOUND_ONE;iTWO;cRAIN;cBLUE;cC-SIMPLIFIED_TANNED_LEATHER;pLEAF;pWIND;",
  "pFLY;cEAT_ONE;gTWO;hHREE;cC-SIMPLIFIED_EAT;cHEAD;cC-SIMPLIFIED_HORSE;cBONE;cGHOST;",
  "cC-SIMPLIFIED_FISH;pBIRD;pSALT;cSIMPLIFIED_WHEAT;nYELLOW;cC-SIMPLIFIED_FROG;cJ-SIMPLIFIED_EVEN;",
  "cC-SIMPLIFIED_EVEN;cJ-SIMPLIFIED_TOOTH;cC-SIMPLIFIED_TOOTH;cJ-SIMPLIFIED_DRAGON;",
  "cC-SIMPLIFIED_DRAGON;cTURTLE;cJ-SIMPLIFIED_TURTLE;cC-SIMPLIFIED_TURTLE;",
  ">2F00:0KANGXI_RADICAL_ONE;fLINE;fDOT;fSLASH;gECOND;fHOOK;fTWO;fLID;fMAN;fLEGS;fENTER;gIGHT;",
  "fDOWN_BOX;fCOVER;fICE;fTABLE;fOPEN_BOX;fKNIFE;fPOWER;fWRAP;fSPOON;fRIGHT_OPEN_BOX;",
  "fHIDING_ENCLOSURE;fTEN;fDIVINATION;fSEAL;fCLIFF;fPRIVATE;fAGAIN;fMOUTH;fENCLOSURE;gARTH;",
  "fSCHOLAR;fGO;h_SLOWLY;fEVENING;fBIG;fWOMAN;fCHILD;fROOF;fINCH;fSMALL;fLAME;fCORPSE;fSPROUT;",
  "fMOUNTAIN;fRIVER;fWORK;fONESELF;fTURBAN;fDRY;fSHORT_THREAD;fDOTTED_CLIFF;fLONG_STRIDE;",
  "fTWO_HANDS;fSHOOT;fBOW;fSNOUT;fBRISTLE;fSTEP;fHEART;gALBERD;fDOOR;fHAND;fBRANCH;fRAP;fSCRIPT;",
  "fDIPPER;fAXE;fSQUARE;fNOT;fSUN;gAY;fMOON;fTREE;fLACK;fSTOP;fDEATH;fWEAPON;fDO_NOT;fCOMPARE;",
  "fFUR;fCLAN;fSTEAM;fWATER;fFIRE;fCLAW;fFATHER;fDOUBLE_X;fHALF_TREE_TRUNK;fSLICE;fFANG;fCOW;fDOG;",
  "fPROFOUND;fJADE;fMELON;fTILE;fSWEET;fLIFE;fUSE;fFIELD;fBOLT_OF_CLOTH;fSICKNESS;fDOTTED_TENT;",
  "fWHITE;fSKIN;fDISH;fEYE;fSPEAR;fARROW;fSTONE;gPIRIT;fTRACK;fGRAIN;fCAVE;fSTAND;fBAMBOO;fRICE;",
  "fSILK;fJAR;fNET;fSHEEP;fFEATHER;fOLD;fAND;fPLOW;fEAR;fBRUSH;fMEAT;gINISTER;fSELF;fARRIVE;",
  "fMORTAR;fTONGUE;fOPPOSE;fBOAT;fSTOPPING;fCOLOR;fGRASS;fTIGER;fINSECT;fBLOOD;fWALK_ENCLOSURE;",
  "fCLOTHES;fWEST;fSEE;fHORN;fSPEECH;fVALLEY;fBEAN;fPIG;fBADGER;fSHELL;fRED;gUN;fFOOT;fBODY;fCART;",
  "fBITTER;fMORNING;fWALK;fCITY;fWINE;fDISTINGUISH;fVILLAGE;fGOLD;fLONG;fGATE;fMOUND;fSLAVE;",
  "gHORT_TAILED_BIRD;fRAIN;fBLUE;fWRONG;fFACE;fLEATHER;fTANNED_LEATHER;fLEEK;fSOUND;fLEAF;fWIND;",
  "fFLY;fEAT;fHEAD;fFRAGRANT;fHORSE;fBONE;fTALL;fHAIR;fFIGHT;fSACRIFICIAL_WINE;fCAULDRON;fGHOST;",
  "fFISH;fBIRD;fSALT;fDEER;fWHEAT;fHEMP;fYELLOW;fMILLET;fBLACK;fEMBROIDERY;fFROG;fTRIPOD;fDRUM;",
  "fRAT;fNOSE;fEVEN;fTOOTH;fDRAGON;fTURTLE;fFLUTE;",
  ">2FF0:0IDEOGRAPHIC_DESCRIPTION_CHARACTER_LEFT_TO_RIGHT;yABOVE_TO_BELOW;",
  "yLEFT_TO_MIDDLE_AND_RIGHT;yABOVE_TO_MIDDLE_AND_BELOW;yFULL_SURROUND;ySURROUND_FROM_ABOVE;",
  "MBELOW;MLEFT;MUPPER_LEFT;SRIGHT;MLOWER_LEFT;yOVERLAID;>3000:cSPACE;cCOMMA;cFULL_STOP;",
  "0DITTO_MARK;0JAPANESE_INDUSTRIAL_STANDARD_SYMBOL;0IDEOGRAPHIC_ITERATION_MARK;cCLOSING_MARK;",
  "cNUMBER_ZERO;0LEFT_ANGLE_BRACKET;0RIGHT_ANGLE_BRACKET;0LEFT_DOUBLE_ANGLE_BRACKET;",
  "0RIGHT_DOUBLE_ANGLE_BRACKET;0LEFT_CORNER_BRACKET;0RIGHT_CORNER_BRACKET;",
  "0LEFT_WHITE_CORNER_BRACKET;0RIGHT_WHITE_CORNER_BRACKET;0LEFT_BLACK_LENTICULAR_BRACKET;",
  "0RIGHT_BLACK_LENTICULAR_BRACKET;0POSTAL_MARK;0GETA_MARK;0LEFT_TORTOISE_SHELL_BRACKET;",
  "0RIGHT_TORTOISE_SHELL_BRACKET;0LEFT_WHITE_LENTICULAR_BRACKET;0RIGHT_WHITE_LENTICULAR_BRACKET;",
  "0LEFT_WHITE_TORTOISE_SHELL_BRACKET;0RIGHT_WHITE_TORTOISE_SHELL_BRACKET;",
  "0LEFT_WHITE_SQUARE_BRACKET;0RIGHT_WHITE_SQUARE_BRACKET;0WAVE_DASH;",
  "0REVERSED_DOUBLE_PRIME_QUOTATION_MARK;0DOUBLE_PRIME_QUOTATION_MARK;",
  "0LOW_DOUBLE_PRIME_QUOTATION_MARK;0POSTAL_MARK_FACE;0HANGZHOU_NUMERAL_ONE;hTWO;iHREE;hFOUR;iIVE;",
  "hSIX;iEVEN;hEIGHT;hNINE;0IDEOGRAPHIC_LEVEL_TONE_MARK;cRISING_TONE_MARK;cDEPARTING_TONE_MARK;",
  "cENTERING_TONE_MARK;0HANGUL_SINGLE_DOT_TONE_MARK;7DOUBLE_DOT_TONE_MARK;0WAVY_DASH;",
  "0VERTICAL_KANA_REPEAT_MARK;lWITH_VOICED_SOUND_MARK;lMARK_UPPER_HALF;",
  "lWITH_VOICED_SOUND_MARK_UPPER_HALF;lMARK_LOWER_HALF;0CIRCLED_POSTAL_MARK;",
  "0IDEOGRAPHIC_TELEGRAPH_LINE_FEED_SEPARATOR_SYMBOL;0HANGZHOU_NUMERAL_TEN;iWENTY;iHIRTY;",
  "0VERTICAL_IDEOGRAPHIC_ITERATION_MARK;0MASU_MARK;0PART_ALTERNATION_MARK;",
  "0IDEOGRAPHIC_VARIATION_INDICATOR;cHALF_FILL_SPACE;>3041:0HIRAGANA_LETTER_SMALL_A;gA;gSMALL_I;",
  "gI;gSMALL_U;gU;gSMALL_E;gE;gSMALL_O;gO;gKA;gGA;gKI;gGI;gKU;gGU;gKE;gGE;gKO;gGO;gSA;gZA;gSI;gZI;",
  "gSU;gZU;gSE;gZE;gSO;gZO;gTA;gDA;gTI;gDI;gSMALL_TU;gTU;gDU;gTE;gDE;gTO;gDO;gNA;hI;hU;hE;hO;gHA;",
  "gBA;gPA;gHI;gBI;gPI;gHU;gBU;gPU;gHE;gBE;gPE;gHO;gBO;gPO;gMA;hI;hU;hE;hO;gSMALL_YA;gYA;",
  "gSMALL_YU;gYU;gSMALL_YO;gYO;gRA;hI;hU;hE;hO;gSMALL_WA;gWA;hI;hE;hO;gN;gVU;gSMALL_KA;nE;",
  ">3099:0COMBINING_KATAKANA-HIRAGANA_VOICED_SOUND_MARK;sSEMI-VOICED_SOUND_MARK;",
  "0KATAKANA-HIRAGANA_VOICED_SOUND_MARK;iSEMI-VOICED_SOUND_MARK;0HIRAGANA_ITERATION_MARK;",
  "9VOICED_ITERATION_MARK;9DIGRAPH_YORI;0KATAKANA-HIRAGANA_DOUBLE_HYPHEN;8_LETTER_SMALL_A;gA;",
  "gSMALL_I;gI;gSMALL_U;gU;gSMALL_E;gE;gSMALL_O;gO;gKA;gGA;gKI;gGI;gKU;gGU;gKE;gGE;gKO;gGO;gSA;",
  "gZA;gSI;gZI;gSU;gZU;gSE;gZE;gSO;gZO;gTA;gDA;gTI;gDI;gSMALL_TU;gTU;gDU;gTE;gDE;gTO;gDO;gNA;hI;",
  "hU;hE;hO;gHA;gBA;gPA;gHI;gBI;gPI;gHU;gBU;gPU;gHE;gBE;gPE;gHO;gBO;gPO;gMA;hI;hU;hE;hO;gSMALL_YA;",
  "gYA;gSMALL_YU;gYU;gSMALL_YO;gYO;gRA;hI;hU;hE;hO;gSMALL_WA;gWA;hI;hE;hO;gN;gVU;gSMALL_KA;nE;gVA;",
  "hI;hE;hO;9MIDDLE_DOT;8-HIRAGANA_PROLONGED_SOUND_MARK;8_ITERATION_MARK;9VOICED_ITERATION_MARK;",
  "9DIGRAPH_KOTO;>3105:0BOPOMOFO_LETTER_B;gP;gM;gF;gD;gT;gN;gL;gG;gK;gH;gJ;gQ;gX;gZH;gCH;gSH;gR;",
  "gZ;gC;gS;gA;gO;gE;hH;gAI;gEI;gAU;gOU;gAN;gEN;gANG;gENG;hR;gI;gU;gIU;gV;gNG;gGN;gIH;",
  "gO_WITH_DOT_ABOVE;gNN;>3131:0HANGUL_LETTER_KIYEOK;eSSANGKIYEOK;eKIYEOK-SIOS;eNIEUN;j-CIEUC;",
  "kHIEUH;eTIKEUT;eSSANGTIKEUT;eRIEUL;j-KIYEOK;kMIEUM;kPIEUP;kSIOS;kTHIEUTH;kPHIEUPH;kHIEUH;",
  "eMIEUM;ePIEUP;eSSANGPIEUP;ePIEUP-SIOS;eSIOS;fSANGSIOS;eIEUNG;eCIEUC;eSSANGCIEUC;eCHIEUCH;",
  "eKHIEUKH;eTHIEUTH;ePHIEUPH;eHIEUH;eA;fE;eYA;gE;eEO;f;eYEO;g;eO;eWA;gE;eOE;eYO;eU;eWEO;g;fI;eYU;",
  "eEU;eYI;eI;7FILLER;7LETTER_SSANGNIEUN;eNIEUN-TIKEUT;kSIOS;kPANSIOS;eRIEUL-KIYEOK-SIOS;kTIKEUT;",
  "kPIEUP-SIOS;lANSIOS;kYEORINHIEUH;eMIEUM-PIEUP;kSIOS;kPANSIOS;eKAPYEOUNMIEUM;ePIEUP-KIYEOK;",
  "kTIKEUT;kSIOS-KIYEOK;pTIKEUT;kCIEUC;kTHIEUTH;eKAPYEOUNPIEUP;mSSANGPIEUP;eSIOS-KIYEOK;jNIEUN;",
  "jTIKEUT;jPIEUP;jCIEUC;ePANSIOS;eSSANGIEUNG;eYESIEUNG;m-SIOS;nPANSIOS;eKAPYEOUNPHIEUPH;",
  "eSSANGHIEUH;eYEORINHIEUH;fO-YA;jE;hI;fU-YEO;j;hI;eARAEA;jE;",
  ">3190:0IDEOGRAPHIC_ANNOTATION_LINKING_MARK;nREVERSE_MARK;nONE_MARK;nTWO_MARK;oHREE_MARK;",
  "nFOUR_MARK;nTOP_MARK;nMIDDLE_MARK;nBOTTOM_MARK;nFIRST_MARK;nSECOND_MARK;nTHIRD_MARK;",
  "nFOURTH_MARK;nHEAVEN_MARK;nEARTH_MARK;nMAN_MARK;0BOPOMOFO_LETTER_BU;gZI;gJI;gGU;gEE;hNN;gOO;",
  "hNN;gIR;gANN;gINN;gUNN;gIM;gNGG;gAINN;hUNN;hM;gOM;hNG;gINNN;9FINAL_LETTER_P;mT;mK;mH;",
  "9LETTER_GH;gLH;gZY;9FINAL_LETTER_G;9LETTER_GW;gKW;gOE;gAH;0CJK_STROKE_T;bWG;bXG;bBXG;bSW;bHZZ;",
  "dG;cP;cZWG;bSZWG;bHZT;dZP;cPWG;cZW;dZZ;bN;bH;bS;bP;bSP;bD;bHZ;cG;bSZ;cWZ;cT;cG;bPD;cZ;bTN;bSZZ;",
  "cWG;bHXWG;cZZZG;bPG;bQ;>31F0:0KATAKANA_LETTER_SMALL_KU;mSI;nU;mTO;mNU;mHA;nI;nU;nE;nO;mMU;mRA;",
  "nI;nU;nE;nO;0PARENTHESIZED_HANGUL_KIYEOK;lNIEUN;lTIKEUT;lRIEUL;lMIEUM;lPIEUP;lSIOS;lIEUNG;",
  "lCIEUC;mHIEUCH;lKHIEUKH;lTHIEUTH;lPHIEUPH;lHIEUH;lKIYEOK_A;lNIEUN_A;lTIKEUT_A;lRIEUL_A;",
  "lMIEUM_A;lPIEUP_A;lSIOS_A;lIEUNG_A;lCIEUC_A;mHIEUCH_A;lKHIEUKH_A;lTHIEUTH_A;lPHIEUPH_A;",
  "lHIEUH_A;lCIEUC_U;eKOREAN_CHARACTER_OJEON;w_HU;>3220:eIDEOGRAPH_ONE;oTWO;pHREE;oFOUR;pIVE;oSIX;",
  "pEVEN;oEIGHT;oNINE;oTEN;oMOON;oFIRE;oWATER;pOOD;oMETAL;oEARTH;oSUN;pTOCK;oHAVE;oSOCIETY;oNAME;",
  "oSPECIAL;oFINANCIAL;oCONGRATULATION;oLABOR;oREPRESENT;oCALL;oSTUDY;pUPERVISE;oENTERPRISE;",
  "oRESOURCE;oALLIANCE;oFESTIVAL;oREST;oSELF;oREACH;0CIRCLED_IDEOGRAPH_QUESTION;iKINDERGARTEN;",
  "iSCHOOL;iKOTO;8NUMBER_TEN_ON_BLACK_SQUARE;gWENTY_ON_BLACK_SQUARE;gHIRTY_ON_BLACK_SQUARE;",
  "fFORTY_ON_BLACK_SQUARE;gIFTY_ON_BLACK_SQUARE;fSIXTY_ON_BLACK_SQUARE;gEVENTY_ON_BLACK_SQUARE;",
  "fEIGHTY_ON_BLACK_SQUARE;0PARTNERSHIP_SIGN;0CIRCLED_NUMBER_TWENTY_ONE;mTWO;nHREE;mFOUR;nIVE;",
  "mSIX;nEVEN;mEIGHT;mNINE;gHIRTY;l_ONE;mTWO;nHREE;mFOUR;nIVE;8HANGUL_KIYEOK;fNIEUN;fTIKEUT;",
  "fRIEUL;fMIEUM;fPIEUP;fSIOS;fIEUNG;fCIEUC;gHIEUCH;fKHIEUKH;fTHIEUTH;fPHIEUPH;fHIEUH;fKIYEOK_A;",
  "fNIEUN_A;fTIKEUT_A;fRIEUL_A;fMIEUM_A;fPIEUP_A;fSIOS_A;fIEUNG_A;fCIEUC_A;gHIEUCH_A;fKHIEUKH_A;",
  "fTHIEUTH_A;fPHIEUPH_A;fHIEUH_A;8KOREAN_CHARACTER_CHAMKO;pJUEUI;8HANGUL_IEUNG_U;",
  "0KOREAN_STANDARD_SYMBOL;0CIRCLED_IDEOGRAPH_ONE;iTWO;jHREE;iFOUR;jIVE;iSIX;jEVEN;iEIGHT;iNINE;",
  "iTEN;iMOON;iFIRE;iWATER;jOOD;iMETAL;iEARTH;iSUN;jTOCK;iHAVE;iSOCIETY;iNAME;iSPECIAL;iFINANCIAL;",
  "iCONGRATULATION;iLABOR;iSECRET;iMALE;iFEMALE;iSUITABLE;iEXCELLENT;iPRINT;iATTENTION;iITEM;",
  "iREST;iCOPY;kRRECT;iHIGH;iCENTRE;iLOW;jEFT;iRIGHT;iMEDICINE;iRELIGION;iSTUDY;jUPERVISE;",
  "iENTERPRISE;iRESOURCE;iALLIANCE;iNIGHT;8NUMBER_THIRTY_SIX;nEVEN;mEIGHT;mNINE;fFORTY;k_ONE;lTWO;",
  "mHREE;lFOUR;mIVE;lSIX;mEVEN;lEIGHT;lNINE;gIFTY;0IDEOGRAPHIC_TELEGRAPH_SYMBOL_FOR_JANUARY;",
  "xFEBRUARY;xMARCH;xAPRIL;xMAY;xJUNE;zLY;xAUGUST;xSEPTEMBER;xOCTOBER;xNOVEMBER;xDECEMBER;",
  "0SQUARE_HG;7ERG;8V;0LIMITED_LIABILITY_SIGN;0CIRCLED_KATAKANA_A;hI;hU;hE;hO;hKA;iI;iU;iE;iO;hSA;",
  "iI;iU;iE;iO;hTA;iI;iU;iE;iO;hNA;iI;iU;iE;iO;hHA;iI;iU;iE;iO;hMA;iI;iU;iE;iO;hYA;iU;iO;hRA;iI;",
  "iU;iE;iO;hWA;iI;iE;iO;0SQUARE_ERA_NAME_REIWA;7APAATO;8RUHUA;8NPEA;8ARU;7ININGU;9TI;7UON;",
  "7ESUKUUDO;8EKAA;7ONSU;8OMU;7KAIRI;9RATTO;aORII;7GARON;9NMA;8IGA;9NII;7KYURII;7GIRUDAA;7KIRO;",
  "bGURAMU;bMEETORU;bWATTO;7GURAMU;dTON;7KURUZEIRO;aOONE;8EESU;8ORUNA;9OPO;7SAIKURU;9NTIIMU;",
  "8IRINGU;8ENTI;bO;7DAASU;8ESI;8ORU;7TON;7NANO;8OTTO;7HAITU;7PAASENTO;aTU;7BAARERU;7PIASUTORU;",
  "9KURU;aO;7BIRU;7HUARADDO;9IITO;7BUSSYERU;7HURAN;8EKUTAARU;7PESO;9NIHI;7HERUTU;7PENSU;9EZI;",
  "7BEETA;7POINTO;7BORUTO;7HON;7PONDO;7HOORU;aN;7MAIKURO;aRU;9HHA;9RUKU;9NSYON;8IKURON;9RI;bBAARU;",
  "8EGA;bTON;9ETORU;7YAADO;aRU;8UAN;7RITTORU;9RA;8UPII;9UBURU;8EMU;9NTOGEN;7WATTO;",
  "0IDEOGRAPHIC_TELEGRAPH_SYMBOL_FOR_HOUR_ZERO;CONE;CTWO;DHREE;CFOUR;DIVE;CSIX;DEVEN;CEIGHT;CNINE;",
  "CTEN;CELEVEN;CTWELVE;DHIRTEEN;CFOURTEEN;DIFTEEN;CSIXTEEN;DEVENTEEN;CEIGHTEEN;CNINETEEN;CTWENTY;",
  "I-ONE;JTWO;KHREE;JFOUR;0SQUARE_HPA;7DA;7AU;7BAR;7OV;7PC;7DM;9_SQUARED;aCUBED;7IU;",
  "7ERA_NAME_HEISEI;gSYOUWA;gTAISYOU;gMEIZI;7CORPORATION;7PA_AMPS;7NA;7MU_A;8A;7KA;8B;7MB;7GB;",
  "7CAL;7KCAL;7PF;7NF;7MU_F;aG;8G;7KG;7HZ;7KHZ;7MHZ;7GHZ;7THZ;7MU_L;8L;7DL;7KL;7FM;7NM;7MU_M;8M;",
  "7CM;7KM;7MM_SQUARED;7CM_SQUARED;7M_SQUARED;7KM_SQUARED;7MM_CUBED;7CM_CUBED;7M_CUBED;7KM_CUBED;",
  "7M_OVER_S;f_SQUARED;7PA;7KPA;7MPA;7GPA;7RAD;a_OVER_S;h_SQUARED;7PS;7NS;7MU_S;8S;7PV;7NV;7MU_V;",
  "8V;7KV;7MV_MEGA;7PW;7NW;7MU_W;8W;7KW;7MW_MEGA;7K_OHM;7M_OHM;7AM;7BQ;7CC;8D;8_OVER_KG;8O;7DB;",
  "7GY;7HA;8P;7IN;7KK;8M_CAPITAL;8T;7LM;8N;8OG;8X;7MB_SMALL;8IL;8OL;7PH;8M;8PM;8R;7SR;8V;7WB;",
  "7V_OVER_M;7A_OVER_M;0IDEOGRAPHIC_TELEGRAPH_SYMBOL_FOR_DAY_ONE;BTWO;CHREE;BFOUR;CIVE;BSIX;CEVEN;",
  "BEIGHT;BNINE;BTEN;BELEVEN;BTWELVE;CHIRTEEN;BFOURTEEN;CIFTEEN;BSIXTEEN;CEVENTEEN;BEIGHTEEN;",
  "BNINETEEN;BTWENTY;H-ONE;ITWO;JHREE;IFOUR;JIVE;ISIX;JEVEN;IEIGHT;ININE;CHIRTY;H-ONE;0SQUARE_GAL;",
  ">4DC0:0HEXAGRAM_FOR_THE_CREATIVE_HEAVEN;hRECEPTIVE_EARTH;dDIFFICULTY_AT_THE_BEGINNING;",
  "dYOUTHFUL_FOLLY;dWAITING;dCONFLICT;dTHE_ARMY;dHOLDING_TOGETHER;dSMALL_TAMING;dTREADING;dPEACE;",
  "dSTANDSTILL;dFELLOWSHIP;dGREAT_POSSESSION;dMODESTY;dENTHUSIASM;dFOLLOWING;dWORK_ON_THE_DECAYED;",
  "dAPPROACH;dCONTEMPLATION;dBITING_THROUGH;dGRACE;dSPLITTING_APART;dRETURN;dINNOCENCE;",
  "dGREAT_TAMING;dMOUTH_CORNERS;dGREAT_PREPONDERANCE;dTHE_ABYSMAL_WATER;hCLINGING_FIRE;dINFLUENCE;",
  "dDURATION;dRETREAT;dGREAT_POWER;dPROGRESS;dDARKENING_OF_THE_LIGHT;dTHE_FAMILY;dOPPOSITION;",
  "eBSTRUCTION;dDELIVERANCE;fCREASE;dINCREASE;dBREAKTHROUGH;dCOMING_TO_MEET;dGATHERING_TOGETHER;",
  "dPUSHING_UPWARD;dOPPRESSION;dTHE_WELL;dREVOLUTION;dTHE_CAULDRON;hAROUSING_THUNDER;",
  "hKEEPING_STILL_MOUNTAIN;dDEVELOPMENT;dTHE_MARRYING_MAIDEN;dABUNDANCE;dTHE_WANDERER;",
  "hGENTLE_WIND;hJOYOUS_LAKE;dDISPERSION;dLIMITATION;dINNER_TRUTH;dSMALL_PREPONDERANCE;",
  "dAFTER_COMPLETION;dBEFORE_COMPLETION;>A000:0YI_SYLLABLE_IT;dX;d;dP;dET;eX;e;eP;cAT;dX;d;dP;",
  "cUOX;e;eP;cOT;dX;d;dP;cEX;d;cWU;cBIT;eX;e;eP;eET;fX;f;fP;dAT;eX;e;eP;dUOX;f;fP;dOT;eX;e;eP;dEX;",
  "e;eP;dUT;eX;e;eP;eRX;f;dYT;eX;e;eP;eRX;f;cPIT;eX;e;eP;eEX;f;fP;dAT;eX;e;eP;dUOX;f;fP;dOT;eX;e;",
  "eP;dUT;eX;e;eP;eRX;f;dYT;eX;e;eP;eRX;f;cBBIT;fX;f;fP;fET;gX;g;gP;eAT;fX;f;fP;eUOX;g;gP;eOT;fX;",
  "f;fP;eEX;f;fP;eUT;fX;f;fP;fRX;g;eYT;fX;f;fP;cNBIT;fX;f;fP;fEX;g;gP;eAT;fX;f;fP;eOT;fX;f;fP;eUT;",
  "fX;f;fP;fRX;g;eYT;fX;f;fP;fRX;g;cHMIT;fX;f;fP;fEX;g;gP;eAT;fX;f;fP;eUOX;g;gP;eOT;fX;f;fP;eUT;",
  "fX;f;fP;fRX;g;eYX;f;fP;fRX;g;cMIT;eX;e;eP;eEX;f;fP;dAT;eX;e;eP;dUOT;fX;f;fP;dOT;eX;e;eP;dEX;e;",
  "dUT;eX;e;eP;eRX;f;dYT;eX;e;eP;cFIT;eX;e;eP;dAT;eX;e;eP;dOX;e;eP;dUT;eX;e;eP;eRX;f;dYT;eX;e;eP;",
  "cVIT;eX;e;eP;eET;fX;f;fP;dAT;eX;e;eP;dOT;eX;e;eP;dEX;eP;dUT;eX;e;eP;eRX;f;dYT;eX;e;eP;eRX;f;",
  "cDIT;eX;e;eP;eEX;f;fP;dAT;eX;e;eP;dUOX;f;dOT;eX;e;eP;dEX;e;eP;dUT;eX;e;eP;eRX;f;cTIT;eX;e;eP;",
  "eEX;f;fP;dAT;eX;e;eP;dUOT;fX;f;fP;dOT;eX;e;eP;dEX;e;eP;dUT;eX;e;eP;eRX;f;cDDIT;fX;f;fP;fEX;g;",
  "gP;eAT;fX;f;fP;eUOX;g;gP;eOT;fX;f;fP;eEX;f;fP;eUT;fX;f;fP;fRX;g;cNDIT;fX;f;fP;fEX;g;eAT;fX;f;",
  "fP;eOT;fX;f;fP;eEX;f;fP;eUT;fX;f;fP;fRX;g;cHNIT;fX;f;fP;fET;gX;g;gP;eAT;fX;f;fP;eUOX;g;eOT;fX;",
  "fP;eEX;f;fP;eUT;cNIT;eX;e;eP;eEX;f;fP;dAX;e;eP;dUOX;f;fP;dOT;eX;e;eP;dEX;e;eP;dUT;eX;e;eP;eRX;",
  "f;cHLIT;fX;f;fP;fEX;g;gP;eAT;fX;f;fP;eUOX;g;gP;eOX;f;fP;eEX;f;fP;eUT;fX;f;fP;fRX;g;eYT;fX;f;fP;",
  "fRX;g;cLIT;eX;e;eP;eET;fX;f;fP;dAT;eX;e;eP;dUOT;fX;f;fP;dOT;eX;e;eP;dEX;e;eP;dUT;eX;e;eP;eRX;f;",
  "dYT;eX;e;eP;eRX;f;cGIT;eX;e;eP;eET;fX;f;fP;dAT;eX;e;eP;dUOT;fX;f;fP;dOT;eX;e;eP;dET;eX;e;eP;",
  "dUT;eX;e;eP;eRX;f;cKIT;eX;e;eP;eEX;f;fP;dAT;eX;e;eP;dUOX;f;fP;dOT;eX;e;eP;dET;eX;e;eP;dUT;eX;e;",
  "eP;eRX;f;cGGIT;fX;f;fEX;g;gP;eAT;fX;f;fP;eUOT;gX;g;gP;eOT;fX;f;fP;eET;fX;f;fP;eUT;fX;f;fP;fRX;",
  "g;cMGIEX;g;eAT;fX;f;fP;eUOX;g;gP;eOT;fX;f;fP;eEX;f;fP;eUT;fX;f;fP;fRX;g;cHXIT;fX;f;fP;fET;gX;g;",
  "gP;eAT;fX;f;fP;eUOT;gX;g;gP;eOT;fX;f;fP;eEX;f;fP;cNGIEX;g;gP;eAT;fX;f;fP;eUOT;gX;g;eOT;fX;f;fP;",
  "eEX;f;fP;cHIT;eEX;f;dAT;eX;e;eP;dUOT;fX;f;fP;dOT;eX;e;eP;dEX;e;eP;cWAT;eX;e;eP;dUOX;f;fP;dOX;e;",
  "eP;dEX;e;eP;cZIT;eX;e;eP;eEX;f;fP;dAT;eX;e;eP;dUOX;f;fP;dOT;eX;e;eP;dEX;e;eP;dUT;eX;e;eP;eRX;f;",
  "dYT;eX;e;eP;eRX;f;cCIT;eX;e;eP;eET;fX;f;fP;dAT;eX;e;eP;dUOX;f;fP;dOT;eX;e;eP;dEX;e;eP;dUT;eX;e;",
  "eP;eRX;f;dYT;eX;e;eP;eRX;f;cZZIT;fX;f;fP;fET;gX;g;gP;eAT;fX;f;fP;eOX;f;fP;eEX;f;fP;eUX;f;fP;",
  "fRX;g;eYT;fX;f;fP;fRX;g;cNZIT;fX;f;fP;fEX;g;gP;eAT;fX;f;fP;eUOX;g;eOX;fP;eEX;f;eUX;f;fP;fRX;g;",
  "eYT;fX;f;fP;fRX;g;cSIT;eX;e;eP;eEX;f;fP;dAT;eX;e;eP;dUOX;f;fP;dOT;eX;e;eP;dEX;e;eP;dUT;eX;e;eP;",
  "eRX;f;dYT;eX;e;eP;eRX;f;dSIT;fX;f;fP;fEX;g;gP;eAT;fX;f;fP;eOT;fX;f;fP;eEX;f;fP;eUT;fX;f;fP;eYT;",
  "fX;f;fP;fRX;g;cZHAT;fX;f;fP;eUOX;g;gP;eOT;fX;f;fP;eET;fX;f;fP;eUT;fX;f;fP;fRX;g;eYT;fX;f;fP;",
  "fRX;g;cCHAT;fX;f;fP;eUOT;gX;g;gP;eOT;fX;f;fP;eET;fX;f;fP;eUX;f;fP;fRX;g;eYT;fX;f;fP;fRX;g;",
  "cRRAX;f;eUOX;g;eOT;fX;f;fP;eET;fX;f;fP;eUT;fX;f;fP;fRX;g;eYT;fX;f;fP;fRX;g;cNRAT;fX;f;fP;eOX;f;",
  "fP;eET;fX;f;fP;eUT;fX;f;fP;fRX;g;eYT;fX;f;fP;fRX;g;cSHAT;fX;f;fP;eUOX;g;gP;eOT;fX;f;fP;eET;fX;",
  "f;fP;eUT;fX;f;fP;fRX;g;eYT;fX;f;fP;fRX;g;cRAT;eX;e;eP;dUOX;f;fP;dOT;eX;e;eP;dEX;e;eP;dUT;eX;e;",
  "eP;eRX;f;dYT;eX;e;eP;eRX;f;cJIT;eX;e;eP;eET;fX;f;fP;dUOT;fX;f;fP;dOT;eX;e;eP;dUT;eX;e;eP;eRX;f;",
  "dYT;eX;e;eP;eRX;f;cQIT;eX;e;eP;eET;fX;f;fP;dUOT;fX;f;fP;dOT;eX;e;eP;dUT;eX;e;eP;eRX;f;dYT;eX;e;",
  "eP;eRX;f;cJJIT;fX;f;fP;fET;gX;g;gP;eUOX;g;gP;eOT;fX;f;fP;eUT;fX;f;fP;fRX;g;eYT;fX;f;fP;cNJIT;",
  "fX;f;fP;fET;gX;g;gP;eUOX;g;eOT;fX;f;fP;eUX;f;fP;fRX;g;eYT;fX;f;fP;fRX;g;dYIT;fX;f;fP;fET;gX;g;",
  "gP;eUOX;g;gP;eOT;fX;f;fP;eUT;fX;f;fP;cXIT;eX;e;eP;eET;fX;f;fP;dUOX;f;dOT;eX;e;eP;dYT;eX;e;eP;",
  "eRX;f;cYIT;eX;e;eP;eET;fX;f;fP;dUOT;fX;f;fP;dOT;eX;e;eP;dUT;eX;e;eP;eRX;f;dYT;eX;e;eP;eRX;f;",
  ">A490:3RADICAL_QOT;bLI;bKIT;bNYIP;bCYP;bSSI;bGGOP;cEP;bMI;bHXIT;bLYR;bBBUT;bMOP;bYO;bPUT;bHXUO;",
  "bTAT;bGA;bZUP;bCYT;bDDUR;bBUR;bGGUO;bNYOP;bTU;bOP;bJJUT;bZOT;bPYT;bHMO;bYIT;bVUR;bSHY;bVEP;bZA;",
  "bJO;bNZUP;bJJY;bGOT;bJJIE;bWO;bDU;bSHUR;bLIE;bCY;cUOP;cIP;bHXOP;bSHAT;bZUR;bSHOP;bCHE;bZZIET;",
  "bNBIE;bKE;>A4D0:0LISU_LETTER_BA;cPA;dHA;cDA;cTA;dHA;cGA;cKA;dHA;cJA;cCA;dHA;cDZA;cTSA;eHA;cMA;",
  "cNA;cLA;cSA;cZHA;dA;cNGA;cHA;cXA;cHHA;cFA;cWA;cSHA;cYA;cGHA;cA;dE;cE;dU;cI;cO;cU;dE;dH;cOE;",
  "cTONE_MYA_TI;hNA_PO;hMYA_CYA;lBO;lNA;lJEU;5PUNCTUATION_COMMA;hFULL_STOP;0VAI_SYLLABLE_EE;fN;",
  "dHEE;dWEE;gN;dPEE;dBHEE;eEE;dMBEE;dKPEE;dMGBEE;dGBEE;dFEE;dVEE;dTEE;eHEE;dDHEE;fHEE;dLEE;dREE;",
  "dDEE;dNDEE;dSEE;eHEE;dZEE;eHEE;dCEE;dJEE;dNJEE;dYEE;dKEE;dNGGEE;dGEE;dMEE;dNEE;eYEE;dI;eN;dHI;",
  "fN;dWI;fN;dPI;dBHI;eI;dMBI;dKPI;dMGBI;dGBI;dFI;dVI;dTI;eHI;dDHI;fHI;dLI;dRI;dDI;dNDI;dSI;eHI;",
  "dZI;eHI;dCI;dJI;dNJI;dYI;dKI;dNGGI;dGI;dMI;dNI;eYI;dA;eN;dNGAN;dHA;fN;dWA;fN;dPA;dBHA;eA;dMBA;",
  "dKPA;gN;dMGBA;dGBA;dFA;dVA;dTA;eHA;dDHA;fHA;dLA;dRA;dDA;dNDA;dSA;eHA;dZA;eHA;dCA;dJA;dNJA;dYA;",
  "dKA;fN;dNGGA;dGA;dMA;dNA;eYA;dOO;fN;dHOO;dWOO;gN;dPOO;dBHOO;eOO;dMBOO;dKPOO;dMGBOO;dGBOO;dFOO;",
  "dVOO;dTOO;eHOO;dDHOO;fHOO;dLOO;dROO;dDOO;dNDOO;dSOO;eHOO;dZOO;eHOO;dCOO;dJOO;dNJOO;dYOO;dKOO;",
  "dNGGOO;dGOO;dMOO;dNOO;eYOO;dU;eN;dHU;fN;dWU;fN;dPU;dBHU;eU;dMBU;dKPU;dMGBU;dGBU;dFU;dVU;dTU;",
  "eHU;dDHU;fHU;dLU;dRU;dDU;dNDU;dSU;eHU;dZU;eHU;dCU;dJU;dNJU;dYU;dKU;dNGGU;dGU;dMU;dNU;eYU;dO;eN;",
  "dNGON;dHO;fN;dWO;fN;dPO;dBHO;eO;dMBO;dKPO;dMGBO;dGBO;gN;dFO;dVO;dTO;eHO;dDHO;fHO;dLO;dRO;dDO;",
  "dNDO;dSO;eHO;dZO;eHO;dCO;dJO;dNJO;dYO;dKO;dNGGO;dGO;dMO;dNO;eYO;dE;eN;dNGEN;dHE;fN;dWE;fN;dPE;",
  "dBHE;eE;dMBE;dKPE;gN;dMGBE;dGBE;gN;dFE;dVE;dTE;eHE;dDHE;fHE;dLE;dRE;dDE;dNDE;dSE;eHE;dZE;eHE;",
  "dCE;dJE;dNJE;dYE;dKE;dNGGE;hN;dGE;fN;dME;dNE;eYE;eG;dLENGTHENER;4COMMA;4FULL_STOP;",
  "4QUESTION_MARK;4SYLLABLE_NDOLE_FA;jKA;jSOO;6MBOL_FEENG;bKEENG;bTING;bNII;bBANG;bFAA;bTAA;bDANG;",
  "cOONG;bKUNG;bTONG;bDO-O;bJONG;4DIGIT_ZERO;aONE;aTWO;bHREE;aFOUR;bIVE;aSIX;bEVEN;aEIGHT;aNINE;",
  "4SYLLABLE_NDOLE_MA;jDO;>A640:0CYRILLIC_CAPITAL_LETTER_ZEMLYA;9SMALL_LETTER_ZEMLYA;",
  "9CAPITAL_LETTER_DZELO;9SMALL_LETTER_DZELO;9CAPITAL_LETTER_REVERSED_DZE;",
  "9SMALL_LETTER_REVERSED_DZE;9CAPITAL_LETTER_IOTA;9SMALL_LETTER_IOTA;9CAPITAL_LETTER_DJERV;",
  "9SMALL_LETTER_DJERV;9CAPITAL_LETTER_MONOGRAPH_UK;9SMALL_LETTER_MONOGRAPH_UK;",
  "9CAPITAL_LETTER_BROAD_OMEGA;9SMALL_LETTER_BROAD_OMEGA;9CAPITAL_LETTER_NEUTRAL_YER;",
  "9SMALL_LETTER_NEUTRAL_YER;9CAPITAL_LETTER_YERU_WITH_BACK_YER;9SMALL_LETTER_YERU_WITH_BACK_YER;",
  "9CAPITAL_LETTER_IOTIFIED_YAT;9SMALL_LETTER_IOTIFIED_YAT;9CAPITAL_LETTER_REVERSED_YU;",
  "9SMALL_LETTER_REVERSED_YU;9CAPITAL_LETTER_IOTIFIED_A;9SMALL_LETTER_IOTIFIED_A;",
  "9CAPITAL_LETTER_CLOSED_LITTLE_YUS;9SMALL_LETTER_CLOSED_LITTLE_YUS;9CAPITAL_LETTER_BLENDED_YUS;",
  "9SMALL_LETTER_BLENDED_YUS;9CAPITAL_LETTER_IOTIFIED_CLOSED_LITTLE_YUS;",
  "9SMALL_LETTER_IOTIFIED_CLOSED_LITTLE_YUS;9CAPITAL_LETTER_YN;9SMALL_LETTER_YN;",
  "9CAPITAL_LETTER_REVERSED_TSE;9SMALL_LETTER_REVERSED_TSE;9CAPITAL_LETTER_SOFT_DE;",
  "9SMALL_LETTER_SOFT_DE;9CAPITAL_LETTER_SOFT_EL;9SMALL_LETTER_SOFT_EL;9CAPITAL_LETTER_SOFT_EM;",
  "9SMALL_LETTER_SOFT_EM;9CAPITAL_LETTER_MONOCULAR_O;9SMALL_LETTER_MONOCULAR_O;",
  "9CAPITAL_LETTER_BINOCULAR_O;9SMALL_LETTER_BINOCULAR_O;9CAPITAL_LETTER_DOUBLE_MONOCULAR_O;",
  "9SMALL_LETTER_DOUBLE_MONOCULAR_O;9LETTER_MULTIOCULAR_O;1OMBINING_CYRILLIC_VZMET;",
  "jTEN_MILLIONS_SIGN;jHUNDRED_MILLIONS_SIGN;jTHOUSAND_MILLIONS_SIGN;0SLAVONIC_ASTERISK;",
  "0COMBINING_CYRILLIC_LETTER_UKRAINIAN_IE;qI;qYI;qU;qHARD_SIGN;qYERU;qSOFT_SIGN;qOMEGA;jKAVYKA;",
  "jPAYEROK;1YRILLIC_KAVYKA;9PAYEROK;9CAPITAL_LETTER_DWE;9SMALL_LETTER_DWE;9CAPITAL_LETTER_DZWE;",
  "9SMALL_LETTER_DZWE;9CAPITAL_LETTER_ZHWE;9SMALL_LETTER_ZHWE;9CAPITAL_LETTER_CCHE;",
  "9SMALL_LETTER_CCHE;9CAPITAL_LETTER_DZZE;9SMALL_LETTER_DZZE;9CAPITAL_LETTER_TE_WITH_MIDDLE_HOOK;",
  "9SMALL_LETTER_TE_WITH_MIDDLE_HOOK;9CAPITAL_LETTER_TWE;9SMALL_LETTER_TWE;9CAPITAL_LETTER_TSWE;",
  "9SMALL_LETTER_TSWE;9CAPITAL_LETTER_TSSE;9SMALL_LETTER_TSSE;9CAPITAL_LETTER_TCHE;",
  "9SMALL_LETTER_TCHE;9CAPITAL_LETTER_HWE;9SMALL_LETTER_HWE;9CAPITAL_LETTER_SHWE;",
  "9SMALL_LETTER_SHWE;9CAPITAL_LETTER_DOUBLE_O;9SMALL_LETTER_DOUBLE_O;9CAPITAL_LETTER_CROSSED_O;",
  "9SMALL_LETTER_CROSSED_O;0MODIFIER_LETTER_CYRILLIC_HARD_SIGN;pSOFT_SIGN;",
  "0COMBINING_CYRILLIC_LETTER_EF;qIOTIFIED_E;0BAMUM_LETTER_A;dKA;dU;dKU;dEE;dREE;dTAE;dO;dNYI;dI;",
  "dLA;dPA;dRII;fEE;dLEEEE;dMEEEE;dTAA;dNDAA;eJAEM;dM;dSUU;dMU;dSHII;eI;eHEUX;eEUX;dKYEE;eET;",
  "dNUAE;f;eJUAE;dYOQ;dSHU;dYUQ;eA;dNSHA;dKEUX;dPEUX;dNJEE;eTEE;dPUE;dWUE;dPEE;dFEE;dRU;dLU;dMI;",
  "dNI;dREUX;eAE;dKEN;dNGKWAEN;fGA;fA;dSHO;dPUAE;dFU;eOM;dWA;dNA;dLI;dPI;dLOQ;dKO;dMBEN;dREN;dMEN;",
  "eA;dTI;dKI;dMO;eBAA;dTET;dKPA;dTEN;dNTUU;dSAMBA;dFAAMAE;dKOVUU;fGHOM;6COMBINING_MARK_KOQNDON;",
  "lTUKWENTIS;6NJAEMLI;6FULL_STOP;6COLON;8MMA;6SEMICOLON;6QUESTION_MARK;",
  ">A700:0MODIFIER_LETTER_CHINESE_TONE_YIN_PING;uANG_PING;uIN_SHANG;uANG_SHANG;uIN_QU;uANG_QU;",
  "uIN_RU;uANG_RU;gEXTRA-HIGH_DOTTED_TONE_BAR;gHIGH_DOTTED_TONE_BAR;gMID_DOTTED_TONE_BAR;",
  "gLOW_DOTTED_TONE_BAR;gEXTRA-LOW_DOTTED_TONE_BAR;mHIGH_DOTTED_LEFT-STEM_TONE_BAR;",
  "gHIGH_DOTTED_LEFT-STEM_TONE_BAR;gMID_DOTTED_LEFT-STEM_TONE_BAR;gLOW_DOTTED_LEFT-STEM_TONE_BAR;",
  "gEXTRA-LOW_DOTTED_LEFT-STEM_TONE_BAR;mHIGH_LEFT-STEM_TONE_BAR;gHIGH_LEFT-STEM_TONE_BAR;",
  "gMID_LEFT-STEM_TONE_BAR;gLOW_LEFT-STEM_TONE_BAR;gEXTRA-LOW_LEFT-STEM_TONE_BAR;",
  "gDOT_VERTICAL_BAR;kSLASH;kHORIZONTAL_BAR;gLOWER_RIGHT_CORNER_ANGLE;gRAISED_UP_ARROW;",
  "nDOWN_ARROW;nEXCLAMATION_MARK;nINVERTED_EXCLAMATION_MARK;gLOW_INVERTED_EXCLAMATION_MARK;",
  "gSTRESS_AND_HIGH_TONE;rLOW_TONE;0LATIN_CAPITAL_LETTER_EGYPTOLOGICAL_ALEF;",
  "6SMALL_LETTER_EGYPTOLOGICAL_ALEF;6CAPITAL_LETTER_EGYPTOLOGICAL_AIN;",
  "6SMALL_LETTER_EGYPTOLOGICAL_AIN;6CAPITAL_LETTER_HENG;6SMALL_LETTER_HENG;6CAPITAL_LETTER_TZ;",
  "6SMALL_LETTER_TZ;6CAPITAL_LETTER_TRESILLO;6SMALL_LETTER_TRESILLO;6CAPITAL_LETTER_CUATRILLO;",
  "6SMALL_LETTER_CUATRILLO;6CAPITAL_LETTER_CUATRILLO_WITH_COMMA;",
  "6SMALL_LETTER_CUATRILLO_WITH_COMMA;6LETTER_SMALL_CAPITAL_F;rS;6CAPITAL_LETTER_AA;",
  "6SMALL_LETTER_AA;6CAPITAL_LETTER_AO;6SMALL_LETTER_AO;6CAPITAL_LETTER_AU;6SMALL_LETTER_AU;",
  "6CAPITAL_LETTER_AV;6SMALL_LETTER_AV;6CAPITAL_LETTER_AV_WITH_HORIZONTAL_BAR;",
  "6SMALL_LETTER_AV_WITH_HORIZONTAL_BAR;6CAPITAL_LETTER_AY;6SMALL_LETTER_AY;",
  "6CAPITAL_LETTER_REVERSED_C_WITH_DOT;6SMALL_LETTER_REVERSED_C_WITH_DOT;",
  "6CAPITAL_LETTER_K_WITH_STROKE;6SMALL_LETTER_K_WITH_STROKE;",
  "6CAPITAL_LETTER_K_WITH_DIAGONAL_STROKE;6SMALL_LETTER_K_WITH_DIAGONAL_STROKE;",
  "6CAPITAL_LETTER_K_WITH_STROKE_AND_DIAGONAL_STROKE;",
  "6SMALL_LETTER_K_WITH_STROKE_AND_DIAGONAL_STROKE;6CAPITAL_LETTER_BROKEN_L;",
  "6SMALL_LETTER_BROKEN_L;6CAPITAL_LETTER_L_WITH_HIGH_STROKE;"]

end Milp.Text.CharacterName
