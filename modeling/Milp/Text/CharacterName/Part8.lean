set_option autoImplicit false

/-! # Names of the characters from U+1F01B to U+E01EF

The names that Unicode 14 gives them, in the form that `Milp.Text.CharacterName` reads. -/

namespace Milp.Text.CharacterName

/-- Names from U+1F01B to U+E01EF. -/
def part8 : List String := [
  ">1F01B:0MAHJONG_TILE_THREE_OF_CIRCLES;dFOUR_OF_CIRCLES;eIVE_OF_CIRCLES;dSIX_OF_CIRCLES;",
  "eEVEN_OF_CIRCLES;dEIGHT_OF_CIRCLES;dNINE_OF_CIRCLES;dPLUM;dORCHID;dBAMBOO;dCHRYSANTHEMUM;",
  "dSPRING;eUMMER;dAUTUMN;dWINTER;dJOKER;dBACK;>1F030:0DOMINO_TILE_HORIZONTAL_BACK;m-00-00;r1;r2;",
  "r3;r4;r5;r6;o1-00;r1;r2;r3;r4;r5;r6;o2-00;r1;r2;r3;r4;r5;r6;o3-00;r1;r2;r3;r4;r5;r6;o4-00;r1;",
  "r2;r3;r4;r5;r6;o5-00;r1;r2;r3;r4;r5;r6;o6-00;r1;r2;r3;r4;r5;r6;cVERTICAL_BACK;k-00-00;p1;p2;p3;",
  "p4;p5;p6;m1-00;p1;p2;p3;p4;p5;p6;m2-00;p1;p2;p3;p4;p5;p6;m3-00;p1;p2;p3;p4;p5;p6;m4-00;p1;p2;",
  "p3;p4;p5;p6;m5-00;p1;p2;p3;p4;p5;p6;m6-00;p1;p2;p3;p4;p5;p6;>1F0A0:0PLAYING_CARD_BACK;",
  "dACE_OF_SPADES;dTWO_OF_SPADES;eHREE_OF_SPADES;dFOUR_OF_SPADES;eIVE_OF_SPADES;dSIX_OF_SPADES;",
  "eEVEN_OF_SPADES;dEIGHT_OF_SPADES;dNINE_OF_SPADES;dTEN_OF_SPADES;dJACK_OF_SPADES;",
  "dKNIGHT_OF_SPADES;dQUEEN_OF_SPADES;dKING_OF_SPADES;>1F0B1:dACE_OF_HEARTS;dTWO_OF_HEARTS;",
  "eHREE_OF_HEARTS;dFOUR_OF_HEARTS;eIVE_OF_HEARTS;dSIX_OF_HEARTS;eEVEN_OF_HEARTS;dEIGHT_OF_HEARTS;",
  "dNINE_OF_HEARTS;dTEN_OF_HEARTS;dJACK_OF_HEARTS;dKNIGHT_OF_HEARTS;dQUEEN_OF_HEARTS;",
  "dKING_OF_HEARTS;dRED_JOKER;>1F0C1:dACE_OF_DIAMONDS;dTWO_OF_DIAMONDS;eHREE_OF_DIAMONDS;",
  "dFOUR_OF_DIAMONDS;eIVE_OF_DIAMONDS;dSIX_OF_DIAMONDS;eEVEN_OF_DIAMONDS;dEIGHT_OF_DIAMONDS;",
  "dNINE_OF_DIAMONDS;dTEN_OF_DIAMONDS;dJACK_OF_DIAMONDS;dKNIGHT_OF_DIAMONDS;dQUEEN_OF_DIAMONDS;",
  "dKING_OF_DIAMONDS;dBLACK_JOKER;>1F0D1:dACE_OF_CLUBS;dTWO_OF_CLUBS;eHREE_OF_CLUBS;",
  "dFOUR_OF_CLUBS;eIVE_OF_CLUBS;dSIX_OF_CLUBS;eEVEN_OF_CLUBS;dEIGHT_OF_CLUBS;dNINE_OF_CLUBS;",
  "dTEN_OF_CLUBS;dJACK_OF_CLUBS;dKNIGHT_OF_CLUBS;dQUEEN_OF_CLUBS;dKING_OF_CLUBS;dWHITE_JOKER;",
  "dFOOL;dTRUMP-1;j2;j3;j4;j5;j6;j7;j8;j9;j10;k1;k2;k3;k4;k5;k6;k7;k8;k9;j20;k1;",
  ">1F100:0DIGIT_ZERO_FULL_STOP;bCOMMA;6ONE_COMMA;6TWO_COMMA;7HREE_COMMA;6FOUR_COMMA;7IVE_COMMA;",
  "6SIX_COMMA;7EVEN_COMMA;6EIGHT_COMMA;6NINE_COMMA;2NGBAT_CIRCLED_SANS-SERIF_DIGIT_ZERO;",
  "8NEGATIVE_CIRCLED_SANS-SERIF_DIGIT_ZERO;0CIRCLED_ZERO_WITH_SLASH;8ANTICLOCKWISE_ARROW;",
  "8DOLLAR_SIGN_WITH_OVERLAID_BACKSLASH;0PARENTHESIZED_LATIN_CAPITAL_LETTER_A;zB;zC;zD;zE;zF;zG;",
  "zH;zI;zJ;zK;zL;zM;zN;zO;zP;zQ;zR;zS;zT;zU;zV;zW;zX;zY;zZ;",
  "0TORTOISE_SHELL_BRACKETED_LATIN_CAPITAL_LETTER_S;0CIRCLED_ITALIC_LATIN_CAPITAL_LETTER_C;AR;8CD;",
  "8WZ;1OPYLEFT_SYMBOL;0SQUARED_LATIN_CAPITAL_LETTER_A;tB;tC;tD;tE;tF;tG;tH;tI;tJ;tK;tL;tM;tN;tO;",
  "tP;tQ;tR;tS;tT;tU;tV;tW;tX;tY;tZ;8HV;8MV;8SD;9S;8PPV;8WC;",
  "0NEGATIVE_CIRCLED_LATIN_CAPITAL_LETTER_A;CB;CC;CD;CE;CF;CG;CH;CI;CJ;CK;CL;CM;CN;CO;CP;CQ;CR;CS;",
  "CT;CU;CV;CW;CX;CY;CZ;0RAISED_MC_SIGN;8D_SIGN;8R_SIGN;0CIRCLED_CC;9_WITH_OVERLAID_BACKSLASH;",
  "8HUMAN_FIGURE;0NEGATIVE_SQUARED_LATIN_CAPITAL_LETTER_A;CB;CC;CD;CE;CF;CG;CH;CI;CJ;CK;CL;CM;CN;",
  "CO;CP;CQ;CR;CS;CT;CU;CV;CW;CX;CY;CZ;0CROSSED_NEGATIVE_SQUARED_LATIN_CAPITAL_LETTER_P;",
  "0NEGATIVE_SQUARED_IC;hPA;hSA;hAB;hWC;0SQUARE_DJ;6D_CL;9OOL;8FREE;8ID;8NEW;9G;8OK;8SOS;",
  "8UP_WITH_EXCLAMATION_MARK;8VS;8THREE_D;8SECOND_SCREEN;8TWO_K;8FOUR_K;8EIGHT_K;8FIVE_POINT_ONE;",
  "8SEVEN_POINT_ONE;8TWENTY-TWO_POINT_TWO;8SIXTY_P;8ONE_HUNDRED_TWENTY_P;8LATIN_SMALL_LETTER_D;",
  "8HC;9DR;9I-RES;8LOSSLESS;8SHV;8UHD;8VOD;0MASK_WORK_SYMBOL;",
  ">1F1E6:0REGIONAL_INDICATOR_SYMBOL_LETTER_A;xB;xC;xD;xE;xF;xG;xH;xI;xJ;xK;xL;xM;xN;xO;xP;xQ;xR;",
  "xS;xT;xU;xV;xW;xX;xY;xZ;0SQUARE_HIRAGANA_HOKA;6D_KATAKANA_KOKO;hSA;",
  ">1F210:8CJK_UNIFIED_IDEOGRAPH-624B;u5B57;v3CC;8KATAKANA_DE;8CJK_UNIFIED_IDEOGRAPH-4E8C;u591A;",
  "u89E3;u5929;u4EA4;u6620;u7121;u6599;u524D;vF8C;v18D;u65B0;u521D;u7D42;v51F;u8CA9;u58F0;v439;",
  "u6F14;v295;v355;u4E00;x9;u904A;u5DE6;u4E2D;u53F3;u6307;u8D70;u6253;u7981;vA7A;u5408;u6E80;v709;",
  "x8;u7533;u5272;v5B6;u914D;>1F240:0TORTOISE_SHELL_BRACKETED_CJK_UNIFIED_IDEOGRAPH-672C;L4E09;",
  "N8C;L5B89;L70B9;L6253;L76D7;L52DD;L6557;>1F250:0CIRCLED_IDEOGRAPH_ADVANTAGE;jCCEPT;",
  ">1F260:0ROUNDED_SYMBOL_FOR_FU;jLU;jSHOU;jXI;jSHUANGXI;jCAI;>1F300:0CYCLONE;0FOGGY;",
  "0CLOSED_UMBRELLA;0NIGHT_WITH_STARS;0SUNRISE_OVER_MOUNTAINS;7;0CITYSCAPE_AT_DUSK;",
  "0SUNSET_OVER_BUILDINGS;0RAINBOW;0BRIDGE_AT_NIGHT;0WATER_WAVE;0VOLCANO;0MILKY_WAY;",
  "0EARTH_GLOBE_EUROPE-AFRICA;cAMERICAS;dSIA-AUSTRALIA;0GLOBE_WITH_MERIDIANS;0NEW_MOON_SYMBOL;",
  "0WAXING_CRESCENT_MOON_SYMBOL;0FIRST_QUARTER_MOON_SYMBOL;0WAXING_GIBBOUS_MOON_SYMBOL;",
  "0FULL_MOON_SYMBOL;0WANING_GIBBOUS_MOON_SYMBOL;0LAST_QUARTER_MOON_SYMBOL;",
  "0WANING_CRESCENT_MOON_SYMBOL;0CRESCENT_MOON;0NEW_MOON_WITH_FACE;0FIRST_QUARTER_MOON_WITH_FACE;",
  "0LAST_QUARTER_MOON_WITH_FACE;0FULL_MOON_WITH_FACE;0SUN_WITH_FACE;0GLOWING_STAR;0SHOOTING_STAR;",
  "0THERMOMETER;0BLACK_DROPLET;0WHITE_SUN;9_WITH_SMALL_CLOUD;aBEHIND_CLOUD;m_WITH_RAIN;",
  "0CLOUD_WITH_RAIN;bSNOW;bLIGHTNING;bTORNADO;0FOG;0WIND_BLOWING_FACE;0HOT_DOG;0TACO;0BURRITO;",
  "0CHESTNUT;0SEEDLING;0EVERGREEN_TREE;0DECIDUOUS_TREE;0PALM_TREE;0CACTUS;0HOT_PEPPER;0TULIP;",
  "0CHERRY_BLOSSOM;0ROSE;0HIBISCUS;0SUNFLOWER;0BLOSSOM;0EAR_OF_MAIZE;7RICE;0HERB;",
  "0FOUR_LEAF_CLOVER;0MAPLE_LEAF;0FALLEN_LEAF;0LEAF_FLUTTERING_IN_WIND;0MUSHROOM;0TOMATO;",
  "0AUBERGINE;0GRAPES;0MELON;0WATERMELON;0TANGERINE;0LEMON;0BANANA;0PINEAPPLE;0RED_APPLE;",
  "0GREEN_APPLE;0PEAR;3CH;0CHERRIES;0STRAWBERRY;0HAMBURGER;0SLICE_OF_PIZZA;0MEAT_ON_BONE;",
  "0POULTRY_LEG;0RICE_CRACKER;5BALL;0COOKED_RICE;1URRY_AND_RICE;0STEAMING_BOWL;1PAGHETTI;0BREAD;",
  "0FRENCH_FRIES;0ROASTED_SWEET_POTATO;0DANGO;0ODEN;0SUSHI;0FRIED_SHRIMP;",
  "1ISH_CAKE_WITH_SWIRL_DESIGN;0SOFT_ICE_CREAM;1HAVED_ICE;0ICE_CREAM;0DOUGHNUT;0COOKIE;",
  "1HOCOLATE_BAR;1ANDY;0LOLLIPOP;0CUSTARD;0HONEY_POT;0SHORTCAKE;0BENTO_BOX;0POT_OF_FOOD;0COOKING;",
  "0FORK_AND_KNIFE;0TEACUP_WITHOUT_HANDLE;0SAKE_BOTTLE_AND_CUP;0WINE_GLASS;0COCKTAIL_GLASS;",
  "0TROPICAL_DRINK;0BEER_MUG;0CLINKING_BEER_MUGS;0BABY_BOTTLE;0FORK_AND_KNIFE_WITH_PLATE;",
  "0BOTTLE_WITH_POPPING_CORK;0POPCORN;0RIBBON;0WRAPPED_PRESENT;0BIRTHDAY_CAKE;0JACK-O-LANTERN;",
  "0CHRISTMAS_TREE;0FATHER_CHRISTMAS;1IREWORKS;8_SPARKLER;0BALLOON;0PARTY_POPPER;0CONFETTI_BALL;",
  "0TANABATA_TREE;0CROSSED_FLAGS;0PINE_DECORATION;0JAPANESE_DOLLS;0CARP_STREAMER;0WIND_CHIME;",
  "0MOON_VIEWING_CEREMONY;0SCHOOL_SATCHEL;0GRADUATION_CAP;0HEART_WITH_TIP_ON_THE_LEFT;",
  "0BOUQUET_OF_FLOWERS;0MILITARY_MEDAL;0REMINDER_RIBBON;0MUSICAL_KEYBOARD_WITH_JACKS;",
  "0STUDIO_MICROPHONE;0LEVEL_SLIDER;0CONTROL_KNOBS;0BEAMED_ASCENDING_MUSICAL_NOTES;",
  "7DESCENDING_MUSICAL_NOTES;0FILM_FRAMES;0ADMISSION_TICKETS;0CAROUSEL_HORSE;0FERRIS_WHEEL;",
  "0ROLLER_COASTER;0FISHING_POLE_AND_FISH;0MICROPHONE;1OVIE_CAMERA;0CINEMA;0HEADPHONE;",
  "0ARTIST_PALETTE;0TOP_HAT;0CIRCUS_TENT;0TICKET;0CLAPPER_BOARD;0PERFORMING_ARTS;0VIDEO_GAME;",
  "0DIRECT_HIT;0SLOT_MACHINE;0BILLIARDS;0GAME_DIE;0BOWLING;0FLOWER_PLAYING_CARDS;0MUSICAL_NOTE;",
  "2LTIPLE_MUSICAL_NOTES;0SAXOPHONE;0GUITAR;0MUSICAL_KEYBOARD;0TRUMPET;0VIOLIN;0MUSICAL_SCORE;",
  "0RUNNING_SHIRT_WITH_SASH;0TENNIS_RACQUET_AND_BALL;0SKI_AND_SKI_BOOT;0BASKETBALL_AND_HOOP;",
  "0CHEQUERED_FLAG;0SNOWBOARDER;0RUNNER;0SURFER;1PORTS_MEDAL;0TROPHY;0HORSE_RACING;",
  "0AMERICAN_FOOTBALL;0RUGBY_FOOTBALL;0SWIMMER;0WEIGHT_LIFTER;0GOLFER;0RACING_MOTORCYCLE;7CAR;",
  "0CRICKET_BAT_AND_BALL;0VOLLEYBALL;0FIELD_HOCKEY_STICK_AND_BALL;0ICE_HOCKEY_STICK_AND_PUCK;",
  "0TABLE_TENNIS_PADDLE_AND_BALL;0SNOW_CAPPED_MOUNTAIN;0CAMPING;0BEACH_WITH_UMBRELLA;",
  "1UILDING_CONSTRUCTION;0HOUSE_BUILDINGS;0CITYSCAPE;0DERELICT_HOUSE_BUILDING;0CLASSICAL_BUILDING;",
  "0DESERT;6_ISLAND;0NATIONAL_PARK;0STADIUM;0HOUSE_BUILDING;6WITH_GARDEN;0OFFICE_BUILDING;",
  "0JAPANESE_POST_OFFICE;0EUROPEAN_POST_OFFICE;0HOSPITAL;0BANK;0AUTOMATED_TELLER_MACHINE;0HOTEL;",
  "0LOVE_HOTEL;0CONVENIENCE_STORE;0SCHOOL;0DEPARTMENT_STORE;0FACTORY;0IZAKAYA_LANTERN;",
  "0JAPANESE_CASTLE;0EUROPEAN_CASTLE;0WHITE_PENNANT;0BLACK_PENNANT;0WAVING_WHITE_FLAG;7BLACK_FLAG;",
  "0ROSETTE;0BLACK_ROSETTE;0LABEL;0BADMINTON_RACQUET_AND_SHUTTLECOCK;1OW_AND_ARROW;0AMPHORA;",
  "0EMOJI_MODIFIER_FITZPATRICK_TYPE-1-2;w3;w4;w5;w6;0RAT;0MOUSE;0OX;0WATER_BUFFALO;0COW;0TIGER;",
  "0LEOPARD;0RABBIT;0CAT;0DRAGON;0CROCODILE;0WHALE;0SNAIL;3KE;0HORSE;0RAM;0GOAT;0SHEEP;0MONKEY;",
  "0ROOSTER;0CHICKEN;0DOG;0PIG;0BOAR;0ELEPHANT;0OCTOPUS;0SPIRAL_SHELL;0BUG;0ANT;0HONEYBEE;",
  "0LADY_BEETLE;0FISH;0TROPICAL_FISH;0BLOWFISH;0TURTLE;0HATCHING_CHICK;0BABY_CHICK;",
  "0FRONT-FACING_BABY_CHICK;0BIRD;0PENGUIN;0KOALA;0POODLE;0DROMEDARY_CAMEL;0BACTRIAN_CAMEL;",
  "0DOLPHIN;0MOUSE_FACE;0COW_FACE;0TIGER_FACE;0RABBIT_FACE;0CAT_FACE;0DRAGON_FACE;0SPOUTING_WHALE;",
  "0HORSE_FACE;0MONKEY_FACE;0DOG_FACE;0PIG_FACE;0FROG_FACE;0HAMSTER_FACE;0WOLF_FACE;0BEAR_FACE;",
  "0PANDA_FACE;1IG_NOSE;1AW_PRINTS;0CHIPMUNK;0EYES;3;1AR;0NOSE;0MOUTH;0TONGUE;",
  "0WHITE_UP_POINTING_BACKHAND_INDEX;6DOWN_POINTING_BACKHAND_INDEX;6LEFT_POINTING_BACKHAND_INDEX;",
  "6RIGHT_POINTING_BACKHAND_INDEX;0FISTED_HAND_SIGN;0WAVING_HAND_SIGN;0OK_HAND_SIGN;",
  "0THUMBS_UP_SIGN;7DOWN_SIGN;0CLAPPING_HANDS_SIGN;0OPEN_HANDS_SIGN;0CROWN;0WOMANS_HAT;",
  "0EYEGLASSES;0NECKTIE;0T-SHIRT;0JEANS;0DRESS;0KIMONO;0BIKINI;0WOMANS_CLOTHES;0PURSE;0HANDBAG;",
  "0POUCH;0MANS_SHOE;0ATHLETIC_SHOE;0HIGH-HEELED_SHOE;0WOMANS_SANDAL;7BOOTS;0FOOTPRINTS;",
  "0BUST_IN_SILHOUETTE;4S_IN_SILHOUETTE;1OY;0GIRL;0MAN;0WOMAN;0FAMILY;",
  "0MAN_AND_WOMAN_HOLDING_HANDS;0TWO_MEN_HOLDING_HANDS;4WOMEN_HOLDING_HANDS;0POLICE_OFFICER;",
  "0WOMAN_WITH_BUNNY_EARS;0BRIDE_WITH_VEIL;0PERSON_WITH_BLOND_HAIR;0MAN_WITH_GUA_PI_MAO;9TURBAN;",
  "0OLDER_MAN;6WOMAN;0BABY;0CONSTRUCTION_WORKER;0PRINCESS;0JAPANESE_OGRE;9GOBLIN;0GHOST;",
  "0BABY_ANGEL;0EXTRATERRESTRIAL_ALIEN;0ALIEN_MONSTER;0IMP;0SKULL;0INFORMATION_DESK_PERSON;",
  "0GUARDSMAN;0DANCER;0LIPSTICK;0NAIL_POLISH;0FACE_MASSAGE;0HAIRCUT;0BARBER_POLE;0SYRINGE;0PILL;",
  "0KISS_MARK;0LOVE_LETTER;0RING;0GEM_STONE;0KISS;0BOUQUET;0COUPLE_WITH_HEART;0WEDDING;",
  "0BEATING_HEART;1ROKEN_HEART;0TWO_HEARTS;0SPARKLING_HEART;0GROWING_HEART;0HEART_WITH_ARROW;",
  "0BLUE_HEART;0GREEN_HEART;0YELLOW_HEART;0PURPLE_HEART;0HEART_WITH_RIBBON;0REVOLVING_HEARTS;",
  "0HEART_DECORATION;0DIAMOND_SHAPE_WITH_A_DOT_INSIDE;0ELECTRIC_LIGHT_BULB;0ANGER_SYMBOL;0BOMB;",
  "0SLEEPING_SYMBOL;0COLLISION_SYMBOL;0SPLASHING_SWEAT_SYMBOL;0DROPLET;1ASH_SYMBOL;0PILE_OF_POO;",
  "0FLEXED_BICEPS;0DIZZY_SYMBOL;0SPEECH_BALLOON;0THOUGHT_BALLOON;0WHITE_FLOWER;",
  "0HUNDRED_POINTS_SYMBOL;0MONEY_BAG;0CURRENCY_EXCHANGE;0HEAVY_DOLLAR_SIGN;0CREDIT_CARD;",
  "0BANKNOTE_WITH_YEN_SIGN;eDOLLAR_SIGN;eEURO_SIGN;ePOUND_SIGN;0MONEY_WITH_WINGS;",
  "0CHART_WITH_UPWARDS_TREND_AND_YEN_SIGN;0SEAT;0PERSONAL_COMPUTER;0BRIEFCASE;0MINIDISC;",
  "0FLOPPY_DISK;0OPTICAL_DISC;0DVD;0FILE_FOLDER;0OPEN_FILE_FOLDER;0PAGE_WITH_CURL;5FACING_UP;",
  "0CALENDAR;0TEAR-OFF_CALENDAR;0CARD_INDEX;1HART_WITH_UPWARDS_TREND;bDOWNWARDS_TREND;0BAR_CHART;",
  "0CLIPBOARD;0PUSHPIN;0ROUND_PUSHPIN;0PAPERCLIP;0STRAIGHT_RULER;0TRIANGULAR_RULER;0BOOKMARK_TABS;",
  "0LEDGER;0NOTEBOOK;8_WITH_DECORATIVE_COVER;0CLOSED_BOOK;0OPEN_BOOK;0GREEN_BOOK;0BLUE_BOOK;",
  "0ORANGE_BOOK;0BOOKS;0NAME_BADGE;0SCROLL;0MEMO;0TELEPHONE_RECEIVER;0PAGER;0FAX_MACHINE;",
  "0SATELLITE_ANTENNA;0PUBLIC_ADDRESS_LOUDSPEAKER;0CHEERING_MEGAPHONE;0OUTBOX_TRAY;0INBOX_TRAY;",
  "0PACKAGE;0E-MAIL_SYMBOL;0INCOMING_ENVELOPE;0ENVELOPE_WITH_DOWNWARDS_ARROW_ABOVE;",
  "0CLOSED_MAILBOX_WITH_LOWERED_FLAG;kRAISED_FLAG;0OPEN_MAILBOX_WITH_RAISED_FLAG;iLOWERED_FLAG;",
  "0POSTBOX;4AL_HORN;0NEWSPAPER;0MOBILE_PHONE;c_WITH_RIGHTWARDS_ARROW_AT_LEFT;0VIBRATION_MODE;",
  "0MOBILE_PHONE_OFF;0NO_MOBILE_PHONES;0ANTENNA_WITH_BARS;0CAMERA;6_WITH_FLASH;0VIDEO_CAMERA;",
  "0TELEVISION;0RADIO;0VIDEOCASSETTE;0FILM_PROJECTOR;0PORTABLE_STEREO;1RAYER_BEADS;",
  "0TWISTED_RIGHTWARDS_ARROWS;0CLOCKWISE_RIGHTWARDS_AND_LEFTWARDS_OPEN_CIRCLE_ARROWS;",
  "R_WITH_CIRCLED_ONE_OVERLAY;aDOWNWARDS_AND_UPWARDS_OPEN_CIRCLE_ARROWS;",
  "0ANTICLOCKWISE_DOWNWARDS_AND_UPWARDS_OPEN_CIRCLE_ARROWS;0LOW_BRIGHTNESS_SYMBOL;",
  "0HIGH_BRIGHTNESS_SYMBOL;0SPEAKER_WITH_CANCELLATION_STROKE;7;7_WITH_ONE_SOUND_WAVE;",
  "dTHREE_SOUND_WAVES;0BATTERY;0ELECTRIC_PLUG;0LEFT-POINTING_MAGNIFYING_GLASS;",
  "0RIGHT-POINTING_MAGNIFYING_GLASS;0LOCK_WITH_INK_PEN;0CLOSED_LOCK_WITH_KEY;0KEY;0LOCK;",
  "0OPEN_LOCK;0BELL;4_WITH_CANCELLATION_STROKE;1OOKMARK;0LINK_SYMBOL;0RADIO_BUTTON;",
  "0BACK_WITH_LEFTWARDS_ARROW_ABOVE;0END_WITH_LEFTWARDS_ARROW_ABOVE;",
  "0ON_WITH_EXCLAMATION_MARK_WITH_LEFT_RIGHT_ARROW_ABOVE;0SOON_WITH_RIGHTWARDS_ARROW_ABOVE;",
  "0TOP_WITH_UPWARDS_ARROW_ABOVE;0NO_ONE_UNDER_EIGHTEEN_SYMBOL;0KEYCAP_TEN;",
  "0INPUT_SYMBOL_FOR_LATIN_CAPITAL_LETTERS;nSMALL_LETTERS;hNUMBERS;hSYMBOLS;hLATIN_LETTERS;0FIRE;",
  "0ELECTRIC_TORCH;0WRENCH;0HAMMER;0NUT_AND_BOLT;0HOCHO;0PISTOL;0MICROSCOPE;0TELESCOPE;",
  "0CRYSTAL_BALL;0SIX_POINTED_STAR_WITH_MIDDLE_DOT;0JAPANESE_SYMBOL_FOR_BEGINNER;0TRIDENT_EMBLEM;",
  "0BLACK_SQUARE_BUTTON;0WHITE_SQUARE_BUTTON;0LARGE_RED_CIRCLE;6BLUE_CIRCLE;6ORANGE_DIAMOND;",
  "6BLUE_DIAMOND;0SMALL_ORANGE_DIAMOND;6BLUE_DIAMOND;0UP-POINTING_RED_TRIANGLE;",
  "0DOWN-POINTING_RED_TRIANGLE;0UP-POINTING_SMALL_RED_TRIANGLE;0DOWN-POINTING_SMALL_RED_TRIANGLE;",
  "0LOWER_RIGHT_SHADOWED_WHITE_CIRCLE;0UPPER_RIGHT_SHADOWED_WHITE_CIRCLE;0CIRCLED_CROSS_POMMEE;",
  "1ROSS_POMMEE_WITH_HALF-CIRCLE_BELOW;c;0NOTCHED_LEFT_SEMICIRCLE_WITH_THREE_DOTS;",
  "8RIGHT_SEMICIRCLE_WITH_THREE_DOTS;0SYMBOL_FOR_MARKS_CHAPTER;0WHITE_LATIN_CROSS;",
  "0HEAVY_LATIN_CROSS;0CELTIC_CROSS;0OM_SYMBOL;0DOVE_OF_PEACE;0KAABA;0MOSQUE;0SYNAGOGUE;",
  "0MENORAH_WITH_NINE_BRANCHES;0BOWL_OF_HYGIEIA;0CLOCK_FACE_ONE_OCLOCK;bTWO_OCLOCK;cHREE_OCLOCK;",
  "bFOUR_OCLOCK;cIVE_OCLOCK;bSIX_OCLOCK;cEVEN_OCLOCK;bEIGHT_OCLOCK;bNINE_OCLOCK;bTEN_OCLOCK;",
  "bELEVEN_OCLOCK;bTWELVE_OCLOCK;bONE-THIRTY;bTWO-THIRTY;cHREE-THIRTY;bFOUR-THIRTY;cIVE-THIRTY;",
  "bSIX-THIRTY;cEVEN-THIRTY;bEIGHT-THIRTY;bNINE-THIRTY;bTEN-THIRTY;bELEVEN-THIRTY;bTWELVE-THIRTY;",
  "0RIGHT_SPEAKER;d_WITH_ONE_SOUND_WAVE;jTHREE_SOUND_WAVES;0BULLHORN;8_WITH_SOUND_WAVES;",
  "0RINGING_BELL;0BOOK;0CANDLE;0MANTELPIECE_CLOCK;0BLACK_SKULL_AND_CROSSBONES;0NO_PIRACY;0HOLE;",
  "0MAN_IN_BUSINESS_SUIT_LEVITATING;0SLEUTH_OR_SPY;0DARK_SUNGLASSES;0SPIDER;6_WEB;0JOYSTICK;",
  "0MAN_DANCING;0LEFT_HAND_TELEPHONE_RECEIVER;0TELEPHONE_RECEIVER_WITH_PAGE;",
  "0RIGHT_HAND_TELEPHONE_RECEIVER;0WHITE_TOUCHTONE_TELEPHONE;0BLACK_TOUCHTONE_TELEPHONE;",
  "0TELEPHONE_ON_TOP_OF_MODEM;0CLAMSHELL_MOBILE_PHONE;0BACK_OF_ENVELOPE;0STAMPED_ENVELOPE;",
  "0ENVELOPE_WITH_LIGHTNING;0FLYING_ENVELOPE;0PEN_OVER_STAMPED_ENVELOPE;0LINKED_PAPERCLIPS;",
  "0BLACK_PUSHPIN;0LOWER_LEFT_PENCIL;bBALLPOINT_PEN;bFOUNTAIN_PEN;bPAINTBRUSH;bCRAYON;",
  "1EFT_WRITING_HAND;0TURNED_OK_HAND_SIGN;0RAISED_HAND_WITH_FINGERS_SPLAYED;",
  "1EVERSED_RAISED_HAND_WITH_FINGERS_SPLAYED;9THUMBS_UP_SIGN;gDOWN_SIGN;9VICTORY_HAND;",
  "9HAND_WITH_MIDDLE_FINGER_EXTENDED;1AISED_HAND_WITH_PART_BETWEEN_MIDDLE_AND_RING_FINGERS;",
  "0WHITE_DOWN_POINTING_LEFT_HAND_INDEX;0SIDEWAYS_WHITE_LEFT_POINTING_INDEX;fRIGHT_POINTING_INDEX;",
  "9BLACK_LEFT_POINTING_INDEX;fRIGHT_POINTING_INDEX;0BLACK_LEFT_POINTING_BACKHAND_INDEX;",
  "6RIGHT_POINTING_BACKHAND_INDEX;0SIDEWAYS_WHITE_UP_POINTING_INDEX;fDOWN_POINTING_INDEX;",
  "9BLACK_UP_POINTING_INDEX;fDOWN_POINTING_INDEX;0BLACK_UP_POINTING_BACKHAND_INDEX;",
  "6DOWN_POINTING_BACKHAND_INDEX;6HEART;0DESKTOP_COMPUTER;0KEYBOARD_AND_MOUSE;",
  "0THREE_NETWORKED_COMPUTERS;0PRINTER;1OCKET_CALCULATOR;0BLACK_HARD_SHELL_FLOPPY_DISK;",
  "0WHITE_HARD_SHELL_FLOPPY_DISK;0SOFT_SHELL_FLOPPY_DISK;0TAPE_CARTRIDGE;0WIRED_KEYBOARD;",
  "0ONE_BUTTON_MOUSE;0TWO_BUTTON_MOUSE;1HREE_BUTTON_MOUSE;1RACKBALL;0OLD_PERSONAL_COMPUTER;",
  "0HARD_DISK;0SCREEN;0PRINTER_ICON;0FAX_ICON;0OPTICAL_DISC_ICON;0DOCUMENT_WITH_TEXT;",
  "i_AND_PICTURE;ePICTURE;0FRAME_WITH_PICTURE;bTILES;bAN_X;0BLACK_FOLDER;0FOLDER;0OPEN_FOLDER;",
  "0CARD_INDEX_DIVIDERS;5FILE_BOX;0FILE_CABINET;0EMPTY_NOTE;a_PAGE;dD;0NOTE;4_PAGE;7D;",
  "0EMPTY_DOCUMENT;6PAGE;aS;0DOCUMENT;0PAGE;4S;0WASTEBASKET;0SPIRAL_NOTE_PAD;7CALENDAR_PAD;",
  "0DESKTOP_WINDOW;0MINIMIZE;1AXIMIZE;0OVERLAP;0CLOCKWISE_RIGHT_AND_LEFT_SEMICIRCLE_ARROWS;",
  "1ANCELLATION_X;0INCREASE_FONT_SIZE_SYMBOL;0DECREASE_FONT_SIZE_SYMBOL;0COMPRESSION;0OLD_KEY;",
  "0ROLLED-UP_NEWSPAPER;0PAGE_WITH_CIRCLED_TEXT;0STOCK_CHART;0DAGGER_KNIFE;0LIPS;",
  "0SPEAKING_HEAD_IN_SILHOUETTE;0THREE_RAYS_ABOVE;bBELOW;bLEFT;bRIGHT;0LEFT_SPEECH_BUBBLE;",
  "0RIGHT_SPEECH_BUBBLE;0TWO_SPEECH_BUBBLES;1HREE_SPEECH_BUBBLES;0LEFT_THOUGHT_BUBBLE;",
  "0RIGHT_THOUGHT_BUBBLE;0LEFT_ANGER_BUBBLE;0RIGHT_ANGER_BUBBLE;0MOOD_BUBBLE;",
  "0LIGHTNING_MOOD_BUBBLE;e;0BALLOT_BOX_WITH_BALLOT;7SCRIPT_X;7BOX_WITH_SCRIPT_X;9LD_SCRIPT_X;",
  "9X_WITH_BOLD_SCRIPT_X;0LIGHT_CHECK_MARK;0BALLOT_BOX_WITH_BOLD_CHECK;0WORLD_MAP;0MOUNT_FUJI;",
  "0TOKYO_TOWER;0STATUE_OF_LIBERTY;1ILHOUETTE_OF_JAPAN;0MOYAI;0GRINNING_FACE;d_WITH_SMILING_EYES;",
  "0FACE_WITH_TEARS_OF_JOY;0SMILING_FACE_WITH_OPEN_MOUTH;s_AND_SMILING_EYES;xCOLD_SWEAT;",
  "xTIGHTLY-CLOSED_EYES;iHALO;jORNS;0WINKING_FACE;0SMILING_FACE_WITH_SMILING_EYES;",
  "0FACE_SAVOURING_DELICIOUS_FOOD;0RELIEVED_FACE;0SMILING_FACE_WITH_HEART-SHAPED_EYES;iSUNGLASSES;",
  "3RKING_FACE;0NEUTRAL_FACE;0EXPRESSIONLESS_FACE;0UNAMUSED_FACE;0FACE_WITH_COLD_SWEAT;",
  "0PENSIVE_FACE;0CONFUSED_FACE;4OUNDED_FACE;0KISSING_FACE;0FACE_THROWING_A_KISS;",
  "0KISSING_FACE_WITH_SMILING_EYES;iCLOSED_EYES;0FACE_WITH_STUCK-OUT_TONGUE;q_AND_WINKING_EYE;",
  "vTIGHTLY-CLOSED_EYES;0DISAPPOINTED_FACE;0WORRIED_FACE;0ANGRY_FACE;0POUTING_FACE;0CRYING_FACE;",
  "0PERSEVERING_FACE;0FACE_WITH_LOOK_OF_TRIUMPH;0DISAPPOINTED_BUT_RELIEVED_FACE;",
  "0FROWNING_FACE_WITH_OPEN_MOUTH;0ANGUISHED_FACE;0FEARFUL_FACE;0WEARY_FACE;0SLEEPY_FACE;",
  "0TIRED_FACE;0GRIMACING_FACE;0LOUDLY_CRYING_FACE;0FACE_WITH_OPEN_MOUTH;0HUSHED_FACE;",
  "0FACE_WITH_OPEN_MOUTH_AND_COLD_SWEAT;5SCREAMING_IN_FEAR;0ASTONISHED_FACE;0FLUSHED_FACE;",
  "0SLEEPING_FACE;0DIZZY_FACE;0FACE_WITHOUT_MOUTH;9_MEDICAL_MASK;",
  "0GRINNING_CAT_FACE_WITH_SMILING_EYES;0CAT_FACE_WITH_TEARS_OF_JOY;",
  "0SMILING_CAT_FACE_WITH_OPEN_MOUTH;mHEART-SHAPED_EYES;0CAT_FACE_WITH_WRY_SMILE;",
  "0KISSING_CAT_FACE_WITH_CLOSED_EYES;0POUTING_CAT_FACE;0CRYING_CAT_FACE;0WEARY_CAT_FACE;",
  "0SLIGHTLY_FROWNING_FACE;9SMILING_FACE;0UPSIDE-DOWN_FACE;0FACE_WITH_ROLLING_EYES;",
  "aNO_GOOD_GESTURE;aOK_GESTURE;0PERSON_BOWING_DEEPLY;0SEE-NO-EVIL_MONKEY;0HEAR-NO-EVIL_MONKEY;",
  "0SPEAK-NO-EVIL_MONKEY;0HAPPY_PERSON_RAISING_ONE_HAND;0PERSON_RAISING_BOTH_HANDS_IN_CELEBRATION;",
  "7FROWNING;7WITH_POUTING_FACE;cFOLDED_HANDS;0NORTH_WEST_POINTING_LEAF;0SOUTH_WEST_POINTING_LEAF;",
  "0NORTH_EAST_POINTING_LEAF;0SOUTH_EAST_POINTING_LEAF;0TURNED_NORTH_WEST_POINTING_LEAF;",
  "7SOUTH_WEST_POINTING_LEAF;7NORTH_EAST_POINTING_LEAF;7SOUTH_EAST_POINTING_LEAF;",
  "0NORTH_WEST_POINTING_VINE_LEAF;0SOUTH_WEST_POINTING_VINE_LEAF;0NORTH_EAST_POINTING_VINE_LEAF;",
  "0SOUTH_EAST_POINTING_VINE_LEAF;0HEAVY_NORTH_WEST_POINTING_VINE_LEAF;",
  "6SOUTH_WEST_POINTING_VINE_LEAF;6NORTH_EAST_POINTING_VINE_LEAF;6SOUTH_EAST_POINTING_VINE_LEAF;",
  "0NORTH_WEST_POINTING_BUD;0SOUTH_WEST_POINTING_BUD;0NORTH_EAST_POINTING_BUD;",
  "0SOUTH_EAST_POINTING_BUD;0HEAVY_NORTH_WEST_POINTING_BUD;6SOUTH_WEST_POINTING_BUD;",
  "6NORTH_EAST_POINTING_BUD;6SOUTH_EAST_POINTING_BUD;1OLLOW_QUILT_SQUARE_ORNAMENT;",
  "s_IN_BLACK_SQUARE;0SOLID_QUILT_SQUARE_ORNAMENT;r_IN_BLACK_SQUARE;0LEFTWARDS_ROCKET;",
  "0UPWARDS_ROCKET;0RIGHTWARDS_ROCKET;0DOWNWARDS_ROCKET;0SCRIPT_LIGATURE_ET_ORNAMENT;",
  "0HEAVY_SCRIPT_LIGATURE_ET_ORNAMENT;0LIGATURE_OPEN_ET_ORNAMENT;0HEAVY_LIGATURE_OPEN_ET_ORNAMENT;",
  "6AMPERSAND_ORNAMENT;0SWASH_AMPERSAND_ORNAMENT;",
  "1ANS-SERIF_HEAVY_DOUBLE_TURNED_COMMA_QUOTATION_MARK_ORNAMENT;oCOMMA_QUOTATION_MARK_ORNAMENT;",
  "hLOW_DOUBLE_COMMA_QUOTATION_MARK_ORNAMENT;0HEAVY_INTERROBANG_ORNAMENT;",
  "0SANS-SERIF_INTERROBANG_ORNAMENT;0HEAVY_SANS-SERIF_INTERROBANG_ORNAMENT;0VERY_HEAVY_SOLIDUS;",
  "bREVERSE_SOLIDUS;0CHECKER_BOARD;0REVERSE_CHECKER_BOARD;1OCKET;0HELICOPTER;0STEAM_LOCOMOTIVE;",
  "0RAILWAY_CAR;0HIGH-SPEED_TRAIN;g_WITH_BULLET_NOSE;0TRAIN;0METRO;0LIGHT_RAIL;0STATION;0TRAM;",
  "4_CAR;0BUS;0ONCOMING_BUS;0TROLLEYBUS;0BUS_STOP;0MINIBUS;0AMBULANCE;0FIRE_ENGINE;0POLICE_CAR;",
  "0ONCOMING_POLICE_CAR;0TAXI;0ONCOMING_TAXI;0AUTOMOBILE;0ONCOMING_AUTOMOBILE;",
  "0RECREATIONAL_VEHICLE;0DELIVERY_TRUCK;0ARTICULATED_LORRY;0TRACTOR;0MONORAIL;2UNTAIN_RAILWAY;",
  "0SUSPENSION_RAILWAY;0MOUNTAIN_CABLEWAY;0AERIAL_TRAMWAY;0SHIP;0ROWBOAT;0SPEEDBOAT;",
  "0HORIZONTAL_TRAFFIC_LIGHT;0VERTICAL_TRAFFIC_LIGHT;0CONSTRUCTION_SIGN;",
  "0POLICE_CARS_REVOLVING_LIGHT;0TRIANGULAR_FLAG_ON_POST;0DOOR;0NO_ENTRY_SIGN;0SMOKING_SYMBOL;",
  "0NO_SMOKING_SYMBOL;0PUT_LITTER_IN_ITS_PLACE_SYMBOL;0DO_NOT_LITTER_SYMBOL;0POTABLE_WATER_SYMBOL;",
  "0NON-POTABLE_WATER_SYMBOL;0BICYCLE;0NO_BICYCLES;0BICYCLIST;0MOUNTAIN_BICYCLIST;0PEDESTRIAN;",
  "0NO_PEDESTRIANS;0CHILDREN_CROSSING;0MENS_SYMBOL;0WOMENS_SYMBOL;0RESTROOM;0BABY_SYMBOL;0TOILET;",
  "0WATER_CLOSET;0SHOWER;0BATH;4TUB;0PASSPORT_CONTROL;0CUSTOMS;0BAGGAGE_CLAIM;0LEFT_LUGGAGE;",
  "0TRIANGLE_WITH_ROUNDED_CORNERS;0PROHIBITED_SIGN;0CIRCLED_INFORMATION_SOURCE;0BOYS_SYMBOL;",
  "0GIRLS_SYMBOL;0COUCH_AND_LAMP;0SLEEPING_ACCOMMODATION;1HOPPING_BAGS;0BELLHOP_BELL;2D;",
  "0PLACE_OF_WORSHIP;0OCTAGONAL_SIGN;0SHOPPING_TROLLEY;1TUPA;0PAGODA;0HINDU_TEMPLE;1UT;0ELEVATOR;",
  ">1F6DD:0PLAYGROUND_SLIDE;0WHEEL;0RING_BUOY;0HAMMER_AND_WRENCH;0SHIELD;0OIL_DRUM;0MOTORWAY;",
  "0RAILWAY_TRACK;0MOTOR_BOAT;0UP-POINTING_MILITARY_AIRPLANE;cAIRPLANE;cSMALL_AIRPLANE;",
  "0SMALL_AIRPLANE;0NORTHEAST-POINTING_AIRPLANE;0AIRPLANE_DEPARTURE;9ARRIVING;>1F6F0:0SATELLITE;",
  "0ONCOMING_FIRE_ENGINE;0DIESEL_LOCOMOTIVE;0PASSENGER_SHIP;0SCOOTER;0MOTOR_SCOOTER;0CANOE;0SLED;",
  "0FLYING_SAUCER;0SKATEBOARD;0AUTO_RICKSHAW;0PICKUP_TRUCK;0ROLLER_SKATE;",
  ">1F700:0ALCHEMICAL_SYMBOL_FOR_QUINTESSENCE;mAIR;mFIRE;mEARTH;mWATER;mAQUAFORTIS;q_REGIA;w-2;",
  "rVITAE;w-2;mVINEGAR;t-2;u3;mSULFUR;mPHILOSOPHERS_SULFUR;mBLACK_SULFUR;mMERCURY_SUBLIMATE;D-2;",
  "E3;mCINNABAR;mSALT;mNITRE;mVITRIOL;t-2;mROCK_SALT;v-2;mGOLD;mSILVER;mIRON_ORE;u-2;",
  "mCROCUS_OF_IRON;mREGULUS_OF_IRON;mCOPPER_ORE;mIRON-COPPER_ORE;mSUBLIMATE_OF_COPPER;",
  "mCROCUS_OF_COPPER;C-2;nOPPER_ANTIMONIATE;mSALT_OF_COPPER_ANTIMONIATE;",
  "nUBLIMATE_OF_SALT_OF_COPPER;mVERDIGRIS;mTIN_ORE;mLEAD_ORE;mANTIMONY_ORE;mSUBLIMATE_OF_ANTIMONY;",
  "nALT_OF_ANTIMONY;nUBLIMATE_OF_SALT_OF_ANTIMONY;mVINEGAR_OF_ANTIMONY;mREGULUS_OF_ANTIMONY;F-2;t;",
  "t-2;u3;u4;mALKALI;s-2;mMARCASITE;mSAL-AMMONIAC;mARSENIC;mREALGAR;t-2;mAURIPIGMENT;mBISMUTH_ORE;",
  "mTARTAR;s-2;mQUICK_LIME;mBORAX;r-2;s3;mALUM;mOIL;mSPIRIT;mTINCTURE;mGUM;mWAX;mPOWDER;mCALX;",
  "mTUTTY;mCAPUT_MORTUUM;mSCEPTER_OF_JOVE;mCADUCEUS;mTRIDENT;mSTARRED_TRIDENT;mLODESTONE;mSOAP;",
  "mURINE;mHORSE_DUNG;mASHES;mPOT_ASHES;mBRICK;mPOWDERED_BRICK;mAMALGAM;mSTRATUM_SUPER_STRATUM;",
  "H-2;nUBLIMATION;mPRECIPITATE;mDISTILL;pSOLVE;u-2;mPURIFY;oTREFACTION;mCRUCIBLE;u-2;v3;v4;v5;",
  "mALEMBIC;mBATH_OF_MARY;uVAPOURS;mRETORT;mHOUR;mNIGHT;mDAY-NIGHT;mMONTH;mHALF_DRAM;rOUNCE;",
  ">1F780:0BLACK_LEFT-POINTING_ISOSCELES_RIGHT_TRIANGLE;6UP-POINTING_ISOSCELES_RIGHT_TRIANGLE;",
  "6RIGHT-POINTING_ISOSCELES_RIGHT_TRIANGLE;6DOWN-POINTING_ISOSCELES_RIGHT_TRIANGLE;",
  "6SLIGHTLY_SMALL_CIRCLE;0MEDIUM_BOLD_WHITE_CIRCLE;0BOLD_WHITE_CIRCLE;0HEAVY_WHITE_CIRCLE;",
  "0VERY_HEAVY_WHITE_CIRCLE;0EXTREMELY_HEAVY_WHITE_CIRCLE;",
  "0WHITE_CIRCLE_CONTAINING_BLACK_SMALL_CIRCLE;0ROUND_TARGET;0BLACK_TINY_SQUARE;",
  "6SLIGHTLY_SMALL_SQUARE;0LIGHT_WHITE_SQUARE;0MEDIUM_WHITE_SQUARE;0BOLD_WHITE_SQUARE;",
  "0HEAVY_WHITE_SQUARE;0VERY_HEAVY_WHITE_SQUARE;0EXTREMELY_HEAVY_WHITE_SQUARE;",
  "0WHITE_SQUARE_CONTAINING_BLACK_VERY_SMALL_SQUARE;uMEDIUM_SQUARE;0SQUARE_TARGET;",
  "0BLACK_TINY_DIAMOND;6VERY_SMALL_DIAMOND;6MEDIUM_SMALL_DIAMOND;",
  "0WHITE_DIAMOND_CONTAINING_BLACK_VERY_SMALL_DIAMOND;vMEDIUM_DIAMOND;0DIAMOND_TARGET;",
  "0BLACK_TINY_LOZENGE;6VERY_SMALL_LOZENGE;6MEDIUM_SMALL_LOZENGE;",
  "0WHITE_LOZENGE_CONTAINING_BLACK_SMALL_LOZENGE;0THIN_GREEK_CROSS;0LIGHT_GREEK_CROSS;",
  "0MEDIUM_GREEK_CROSS;0BOLD_GREEK_CROSS;0VERY_BOLD_GREEK_CROSS;5HEAVY_GREEK_CROSS;",
  "0EXTREMELY_HEAVY_GREEK_CROSS;0THIN_SALTIRE;0LIGHT_SALTIRE;0MEDIUM_SALTIRE;0BOLD_SALTIRE;",
  "0HEAVY_SALTIRE;0VERY_HEAVY_SALTIRE;0EXTREMELY_HEAVY_SALTIRE;0LIGHT_FIVE_SPOKED_ASTERISK;",
  "0MEDIUM_FIVE_SPOKED_ASTERISK;0BOLD_FIVE_SPOKED_ASTERISK;0HEAVY_FIVE_SPOKED_ASTERISK;",
  "0VERY_HEAVY_FIVE_SPOKED_ASTERISK;0EXTREMELY_HEAVY_FIVE_SPOKED_ASTERISK;",
  "0LIGHT_SIX_SPOKED_ASTERISK;0MEDIUM_SIX_SPOKED_ASTERISK;0BOLD_SIX_SPOKED_ASTERISK;",
  "0HEAVY_SIX_SPOKED_ASTERISK;0VERY_HEAVY_SIX_SPOKED_ASTERISK;",
  "0EXTREMELY_HEAVY_SIX_SPOKED_ASTERISK;0LIGHT_EIGHT_SPOKED_ASTERISK;",
  "0MEDIUM_EIGHT_SPOKED_ASTERISK;0BOLD_EIGHT_SPOKED_ASTERISK;0HEAVY_EIGHT_SPOKED_ASTERISK;",
  "0VERY_HEAVY_EIGHT_SPOKED_ASTERISK;0LIGHT_THREE_POINTED_BLACK_STAR;",
  "0MEDIUM_THREE_POINTED_BLACK_STAR;0THREE_POINTED_BLACK_STAR;0MEDIUM_THREE_POINTED_PINWHEEL_STAR;",
  "0LIGHT_FOUR_POINTED_BLACK_STAR;0MEDIUM_FOUR_POINTED_BLACK_STAR;0FOUR_POINTED_BLACK_STAR;",
  "0MEDIUM_FOUR_POINTED_PINWHEEL_STAR;0REVERSE_LIGHT_FOUR_POINTED_PINWHEEL_STAR;",
  "0LIGHT_FIVE_POINTED_BLACK_STAR;0HEAVY_FIVE_POINTED_BLACK_STAR;0MEDIUM_SIX_POINTED_BLACK_STAR;",
  "0HEAVY_SIX_POINTED_BLACK_STAR;0SIX_POINTED_PINWHEEL_STAR;0MEDIUM_EIGHT_POINTED_BLACK_STAR;",
  "0HEAVY_EIGHT_POINTED_BLACK_STAR;0VERY_HEAVY_EIGHT_POINTED_BLACK_STAR;",
  "0HEAVY_EIGHT_POINTED_PINWHEEL_STAR;0LIGHT_TWELVE_POINTED_BLACK_STAR;",
  "0HEAVY_TWELVE_POINTED_BLACK_STAR;lPINWHEEL_STAR;0CIRCLED_TRIANGLE;0NEGATIVE_CIRCLED_TRIANGLE;",
  "0CIRCLED_SQUARE;0NEGATIVE_CIRCLED_SQUARE;>1F7E0:0LARGE_ORANGE_CIRCLE;6YELLOW_CIRCLE;",
  "6GREEN_CIRCLE;6PURPLE_CIRCLE;6BROWN_CIRCLE;6RED_SQUARE;6BLUE_SQUARE;6ORANGE_SQUARE;",
  "6YELLOW_SQUARE;6GREEN_SQUARE;6PURPLE_SQUARE;6BROWN_SQUARE;>1F7F0:0HEAVY_EQUALS_SIGN;",
  ">1F800:0LEFTWARDS_ARROW_WITH_SMALL_TRIANGLE_ARROWHEAD;",
  "0UPWARDS_ARROW_WITH_SMALL_TRIANGLE_ARROWHEAD;0RIGHTWARDS_ARROW_WITH_SMALL_TRIANGLE_ARROWHEAD;",
  "0DOWNWARDS_ARROW_WITH_SMALL_TRIANGLE_ARROWHEAD;0LEFTWARDS_ARROW_WITH_MEDIUM_TRIANGLE_ARROWHEAD;",
  "0UPWARDS_ARROW_WITH_MEDIUM_TRIANGLE_ARROWHEAD;0RIGHTWARDS_ARROW_WITH_MEDIUM_TRIANGLE_ARROWHEAD;",
  "0DOWNWARDS_ARROW_WITH_MEDIUM_TRIANGLE_ARROWHEAD;0LEFTWARDS_ARROW_WITH_LARGE_TRIANGLE_ARROWHEAD;",
  "0UPWARDS_ARROW_WITH_LARGE_TRIANGLE_ARROWHEAD;0RIGHTWARDS_ARROW_WITH_LARGE_TRIANGLE_ARROWHEAD;",
  "0DOWNWARDS_ARROW_WITH_LARGE_TRIANGLE_ARROWHEAD;",
  ">1F810:0LEFTWARDS_ARROW_WITH_SMALL_EQUILATERAL_ARROWHEAD;",
  "0UPWARDS_ARROW_WITH_SMALL_EQUILATERAL_ARROWHEAD;",
  "0RIGHTWARDS_ARROW_WITH_SMALL_EQUILATERAL_ARROWHEAD;",
  "0DOWNWARDS_ARROW_WITH_SMALL_EQUILATERAL_ARROWHEAD;0LEFTWARDS_ARROW_WITH_EQUILATERAL_ARROWHEAD;",
  "0UPWARDS_ARROW_WITH_EQUILATERAL_ARROWHEAD;0RIGHTWARDS_ARROW_WITH_EQUILATERAL_ARROWHEAD;",
  "0DOWNWARDS_ARROW_WITH_EQUILATERAL_ARROWHEAD;0HEAVY_LEFTWARDS_ARROW_WITH_EQUILATERAL_ARROWHEAD;",
  "6UPWARDS_ARROW_WITH_EQUILATERAL_ARROWHEAD;6RIGHTWARDS_ARROW_WITH_EQUILATERAL_ARROWHEAD;",
  "6DOWNWARDS_ARROW_WITH_EQUILATERAL_ARROWHEAD;6LEFTWARDS_ARROW_WITH_LARGE_EQUILATERAL_ARROWHEAD;",
  "6UPWARDS_ARROW_WITH_LARGE_EQUILATERAL_ARROWHEAD;",
  "6RIGHTWARDS_ARROW_WITH_LARGE_EQUILATERAL_ARROWHEAD;",
  "6DOWNWARDS_ARROW_WITH_LARGE_EQUILATERAL_ARROWHEAD;",
  "0LEFTWARDS_TRIANGLE-HEADED_ARROW_WITH_NARROW_SHAFT;",
  "0UPWARDS_TRIANGLE-HEADED_ARROW_WITH_NARROW_SHAFT;",
  "0RIGHTWARDS_TRIANGLE-HEADED_ARROW_WITH_NARROW_SHAFT;",
  "0DOWNWARDS_TRIANGLE-HEADED_ARROW_WITH_NARROW_SHAFT;",
  "0LEFTWARDS_TRIANGLE-HEADED_ARROW_WITH_MEDIUM_SHAFT;",
  "0UPWARDS_TRIANGLE-HEADED_ARROW_WITH_MEDIUM_SHAFT;",
  "0RIGHTWARDS_TRIANGLE-HEADED_ARROW_WITH_MEDIUM_SHAFT;",
  "0DOWNWARDS_TRIANGLE-HEADED_ARROW_WITH_MEDIUM_SHAFT;",
  "0LEFTWARDS_TRIANGLE-HEADED_ARROW_WITH_BOLD_SHAFT;",
  "0UPWARDS_TRIANGLE-HEADED_ARROW_WITH_BOLD_SHAFT;",
  "0RIGHTWARDS_TRIANGLE-HEADED_ARROW_WITH_BOLD_SHAFT;",
  "0DOWNWARDS_TRIANGLE-HEADED_ARROW_WITH_BOLD_SHAFT;",
  "0LEFTWARDS_TRIANGLE-HEADED_ARROW_WITH_HEAVY_SHAFT;",
  "0UPWARDS_TRIANGLE-HEADED_ARROW_WITH_HEAVY_SHAFT;",
  "0RIGHTWARDS_TRIANGLE-HEADED_ARROW_WITH_HEAVY_SHAFT;",
  "0DOWNWARDS_TRIANGLE-HEADED_ARROW_WITH_HEAVY_SHAFT;",
  "0LEFTWARDS_TRIANGLE-HEADED_ARROW_WITH_VERY_HEAVY_SHAFT;",
  "0UPWARDS_TRIANGLE-HEADED_ARROW_WITH_VERY_HEAVY_SHAFT;",
  "0RIGHTWARDS_TRIANGLE-HEADED_ARROW_WITH_VERY_HEAVY_SHAFT;",
  "0DOWNWARDS_TRIANGLE-HEADED_ARROW_WITH_VERY_HEAVY_SHAFT;0LEFTWARDS_FINGER-POST_ARROW;",
  "0UPWARDS_FINGER-POST_ARROW;0RIGHTWARDS_FINGER-POST_ARROW;0DOWNWARDS_FINGER-POST_ARROW;",
  "0LEFTWARDS_SQUARED_ARROW;0UPWARDS_SQUARED_ARROW;0RIGHTWARDS_SQUARED_ARROW;",
  "0DOWNWARDS_SQUARED_ARROW;0LEFTWARDS_COMPRESSED_ARROW;0UPWARDS_COMPRESSED_ARROW;",
  "0RIGHTWARDS_COMPRESSED_ARROW;0DOWNWARDS_COMPRESSED_ARROW;0LEFTWARDS_HEAVY_COMPRESSED_ARROW;",
  "0UPWARDS_HEAVY_COMPRESSED_ARROW;0RIGHTWARDS_HEAVY_COMPRESSED_ARROW;",
  "0DOWNWARDS_HEAVY_COMPRESSED_ARROW;0LEFTWARDS_HEAVY_ARROW;0UPWARDS_HEAVY_ARROW;",
  "0RIGHTWARDS_HEAVY_ARROW;0DOWNWARDS_HEAVY_ARROW;>1F850:0LEFTWARDS_SANS-SERIF_ARROW;",
  "0UPWARDS_SANS-SERIF_ARROW;0RIGHTWARDS_SANS-SERIF_ARROW;0DOWNWARDS_SANS-SERIF_ARROW;",
  "0NORTH_WEST_SANS-SERIF_ARROW;6EAST_SANS-SERIF_ARROW;0SOUTH_EAST_SANS-SERIF_ARROW;",
  "6WEST_SANS-SERIF_ARROW;0LEFT_RIGHT_SANS-SERIF_ARROW;0UP_DOWN_SANS-SERIF_ARROW;",
  ">1F860:0WIDE-HEADED_LEFTWARDS_LIGHT_BARB_ARROW;cUPWARDS_LIGHT_BARB_ARROW;",
  "cRIGHTWARDS_LIGHT_BARB_ARROW;cDOWNWARDS_LIGHT_BARB_ARROW;cNORTH_WEST_LIGHT_BARB_ARROW;",
  "iEAST_LIGHT_BARB_ARROW;cSOUTH_EAST_LIGHT_BARB_ARROW;iWEST_LIGHT_BARB_ARROW;",
  "cLEFTWARDS_BARB_ARROW;cUPWARDS_BARB_ARROW;cRIGHTWARDS_BARB_ARROW;cDOWNWARDS_BARB_ARROW;",
  "cNORTH_WEST_BARB_ARROW;iEAST_BARB_ARROW;cSOUTH_EAST_BARB_ARROW;iWEST_BARB_ARROW;",
  "cLEFTWARDS_MEDIUM_BARB_ARROW;cUPWARDS_MEDIUM_BARB_ARROW;cRIGHTWARDS_MEDIUM_BARB_ARROW;",
  "cDOWNWARDS_MEDIUM_BARB_ARROW;cNORTH_WEST_MEDIUM_BARB_ARROW;iEAST_MEDIUM_BARB_ARROW;",
  "cSOUTH_EAST_MEDIUM_BARB_ARROW;iWEST_MEDIUM_BARB_ARROW;cLEFTWARDS_HEAVY_BARB_ARROW;",
  "cUPWARDS_HEAVY_BARB_ARROW;cRIGHTWARDS_HEAVY_BARB_ARROW;cDOWNWARDS_HEAVY_BARB_ARROW;",
  "cNORTH_WEST_HEAVY_BARB_ARROW;iEAST_HEAVY_BARB_ARROW;cSOUTH_EAST_HEAVY_BARB_ARROW;",
  "iWEST_HEAVY_BARB_ARROW;cLEFTWARDS_VERY_HEAVY_BARB_ARROW;cUPWARDS_VERY_HEAVY_BARB_ARROW;",
  "cRIGHTWARDS_VERY_HEAVY_BARB_ARROW;cDOWNWARDS_VERY_HEAVY_BARB_ARROW;",
  "cNORTH_WEST_VERY_HEAVY_BARB_ARROW;iEAST_VERY_HEAVY_BARB_ARROW;",
  "cSOUTH_EAST_VERY_HEAVY_BARB_ARROW;iWEST_VERY_HEAVY_BARB_ARROW;",
  ">1F890:0LEFTWARDS_TRIANGLE_ARROWHEAD;0UPWARDS_TRIANGLE_ARROWHEAD;",
  "0RIGHTWARDS_TRIANGLE_ARROWHEAD;0DOWNWARDS_TRIANGLE_ARROWHEAD;",
  "0LEFTWARDS_WHITE_ARROW_WITHIN_TRIANGLE_ARROWHEAD;",
  "0UPWARDS_WHITE_ARROW_WITHIN_TRIANGLE_ARROWHEAD;",
  "0RIGHTWARDS_WHITE_ARROW_WITHIN_TRIANGLE_ARROWHEAD;",
  "0DOWNWARDS_WHITE_ARROW_WITHIN_TRIANGLE_ARROWHEAD;0LEFTWARDS_ARROW_WITH_NOTCHED_TAIL;",
  "0UPWARDS_ARROW_WITH_NOTCHED_TAIL;0RIGHTWARDS_ARROW_WITH_NOTCHED_TAIL;",
  "0DOWNWARDS_ARROW_WITH_NOTCHED_TAIL;0HEAVY_ARROW_SHAFT_WIDTH_ONE;oTWO_THIRDS;oONE_HALF;sTHIRD;",
  "0LEFTWARDS_BOTTOM-SHADED_WHITE_ARROW;0RIGHTWARDS_BOTTOM_SHADED_WHITE_ARROW;",
  "0LEFTWARDS_TOP_SHADED_WHITE_ARROW;0RIGHTWARDS_TOP_SHADED_WHITE_ARROW;",
  "0LEFTWARDS_LEFT-SHADED_WHITE_ARROW;0RIGHTWARDS_RIGHT-SHADED_WHITE_ARROW;",
  "0LEFTWARDS_RIGHT-SHADED_WHITE_ARROW;0RIGHTWARDS_LEFT-SHADED_WHITE_ARROW;",
  "0LEFTWARDS_BACK-TILTED_SHADOWED_WHITE_ARROW;0RIGHTWARDS_BACK-TILTED_SHADOWED_WHITE_ARROW;",
  "0LEFTWARDS_FRONT-TILTED_SHADOWED_WHITE_ARROW;0RIGHTWARDS_FRONT-TILTED_SHADOWED_WHITE_ARROW;",
  "0WHITE_ARROW_SHAFT_WIDTH_ONE;oTWO_THIRDS;>1F8B0:0ARROW_POINTING_UPWARDS_THEN_NORTH_WEST;",
  "fRIGHTWARDS_THEN_CURVING_SOUTH_WEST;>1F900:0CIRCLED_CROSS_FORMEE_WITH_FOUR_DOTS;qTWO_DOTS;k;",
  "0LEFT_HALF_CIRCLE_WITH_FOUR_DOTS;mTHREE_DOTS;nWO_DOTS;mDOT;g;0DOWNWARD_FACING_HOOK;",
  "gNOTCHED_HOOK;gHOOK_WITH_DOT;gNOTCHED_HOOK_WITH_DOT;0PINCHED_FINGERS;0WHITE_HEART;0BROWN_HEART;",
  "0PINCHING_HAND;0ZIPPER-MOUTH_FACE;0MONEY-MOUTH_FACE;0FACE_WITH_THERMOMETER;0NERD_FACE;",
  "0THINKING_FACE;0FACE_WITH_HEAD-BANDAGE;0ROBOT_FACE;0HUGGING_FACE;0SIGN_OF_THE_HORNS;",
  "0CALL_ME_HAND;0RAISED_BACK_OF_HAND;0LEFT-FACING_FIST;0RIGHT-FACING_FIST;0HANDSHAKE;",
  "4_WITH_INDEX_AND_MIDDLE_FINGERS_CROSSED;0I_LOVE_YOU_HAND_SIGN;0FACE_WITH_COWBOY_HAT;",
  "0CLOWN_FACE;0NAUSEATED_FACE;0ROLLING_ON_THE_FLOOR_LAUGHING;0DROOLING_FACE;0LYING_FACE;",
  "0FACE_PALM;0SNEEZING_FACE;0FACE_WITH_ONE_EYEBROW_RAISED;0GRINNING_FACE_WITH_STAR_EYES;",
  "jONE_LARGE_AND_ONE_SMALL_EYE;0FACE_WITH_FINGER_COVERING_CLOSED_LIPS;",
  "0SERIOUS_FACE_WITH_SYMBOLS_COVERING_MOUTH;",
  "1MILING_FACE_WITH_SMILING_EYES_AND_HAND_COVERING_MOUTH;0FACE_WITH_OPEN_MOUTH_VOMITING;",
  "0SHOCKED_FACE_WITH_EXPLODING_HEAD;0PREGNANT_WOMAN;0BREAST-FEEDING;0PALMS_UP_TOGETHER;0SELFIE;",
  "0PRINCE;0MAN_IN_TUXEDO;1OTHER_CHRISTMAS;0SHRUG;0PERSON_DOING_CARTWHEEL;0JUGGLING;0FENCER;",
  "0MODERN_PENTATHLON;0WRESTLERS;1ATER_POLO;0HANDBALL;0DIVING_MASK;0WILTED_FLOWER;",
  "0DRUM_WITH_DRUMSTICKS;0CLINKING_GLASSES;0TUMBLER_GLASS;0SPOON;0GOAL_NET;0RIFLE;",
  "0FIRST_PLACE_MEDAL;0SECOND_PLACE_MEDAL;0THIRD_PLACE_MEDAL;0BOXING_GLOVE;0MARTIAL_ARTS_UNIFORM;",
  "0CURLING_STONE;0LACROSSE_STICK_AND_BALL;0SOFTBALL;0FLYING_DISC;0CROISSANT;0AVOCADO;0CUCUMBER;",
  "0BACON;0POTATO;0CARROT;0BAGUETTE_BREAD;0GREEN_SALAD;0SHALLOW_PAN_OF_FOOD;1TUFFED_FLATBREAD;",
  "0EGG;0GLASS_OF_MILK;0PEANUTS;0KIWIFRUIT;0PANCAKES;0DUMPLING;0FORTUNE_COOKIE;0TAKEOUT_BOX;",
  "0CHOPSTICKS;0BOWL_WITH_SPOON;0CUP_WITH_STRAW;1OCONUT;0BROCCOLI;0PIE;1RETZEL;0CUT_OF_MEAT;",
  "0SANDWICH;0CANNED_FOOD;0LEAFY_GREEN;0MANGO;1OON_CAKE;0BAGEL;",
  "0SMILING_FACE_WITH_SMILING_EYES_AND_THREE_HEARTS;0YAWNING_FACE;0SMILING_FACE_WITH_TEAR;",
  "0FACE_WITH_PARTY_HORN_AND_PARTY_HAT;aUNEVEN_EYES_AND_WAVY_MOUTH;0OVERHEATED_FACE;",
  "0FREEZING_FACE;0NINJA;0DISGUISED_FACE;0FACE_HOLDING_BACK_TEARS;5WITH_PLEADING_EYES;0SARI;",
  "0LAB_COAT;0GOGGLES;0HIKING_BOOT;0FLAT_SHOE;0CRAB;0LION_FACE;0SCORPION;0TURKEY;0UNICORN_FACE;",
  "0EAGLE;0DUCK;0BAT;0SHARK;0OWL;0FOX_FACE;0BUTTERFLY;0DEER;0GORILLA;0LIZARD;0RHINOCEROS;0SHRIMP;",
  "1QUID;0GIRAFFE_FACE;0ZEBRA_FACE;0HEDGEHOG;0SAUROPOD;0T-REX;0CRICKET;0KANGAROO;0LLAMA;0PEACOCK;",
  "0HIPPOPOTAMUS;0PARROT;0RACCOON;0LOBSTER;0MOSQUITO;1ICROBE;0BADGER;0SWAN;0MAMMOTH;0DODO;0SLOTH;",
  "0OTTER;1RANGUTAN;0SKUNK;0FLAMINGO;0OYSTER;0BEAVER;1ISON;0SEAL;0GUIDE_DOG;0PROBING_CANE;",
  "0EMOJI_COMPONENT_RED_HAIR;gCURLY_HAIR;gBALD;gWHITE_HAIR;0BONE;0LEG;0FOOT;0TOOTH;0SUPERHERO;",
  "5VILLAIN;1AFETY_VEST;0EAR_WITH_HEARING_AID;0MOTORIZED_WHEELCHAIR;1ANUAL_WHEELCHAIR;",
  "1ECHANICAL_ARM;bLEG;0CHEESE_WEDGE;1UPCAKE;0SALT_SHAKER;0BEVERAGE_BOX;0GARLIC;0ONION;0FALAFEL;",
  "0WAFFLE;0BUTTER;0MATE_DRINK;0ICE_CUBE;0BUBBLE_TEA;0TROLL;0STANDING_PERSON;0KNEELING_PERSON;",
  "0DEAF_PERSON;0FACE_WITH_MONOCLE;0ADULT;0CHILD;0OLDER_ADULT;0BEARDED_PERSON;",
  "0PERSON_WITH_HEADSCARF;7IN_STEAMY_ROOM;7CLIMBING;7IN_LOTUS_POSITION;0MAGE;0FAIRY;0VAMPIRE;",
  "0MERPERSON;0ELF;0GENIE;0ZOMBIE;0BRAIN;0ORANGE_HEART;0BILLED_CAP;0SCARF;0GLOVES;0COAT;0SOCKS;",
  "0RED_GIFT_ENVELOPE;0FIRECRACKER;0JIGSAW_PUZZLE_PIECE;0TEST_TUBE;0PETRI_DISH;0DNA_DOUBLE_HELIX;",
  "0COMPASS;0ABACUS;0FIRE_EXTINGUISHER;0TOOLBOX;0BRICK;0MAGNET;0LUGGAGE;1OTION_BOTTLE;",
  "0SPOOL_OF_THREAD;0BALL_OF_YARN;0SAFETY_PIN;0TEDDY_BEAR;0BROOM;1ASKET;0ROLL_OF_PAPER;",
  "0BAR_OF_SOAP;0SPONGE;0RECEIPT;0NAZAR_AMULET;1EUTRAL_CHESS_KING;eQUEEN;eROOK;eBISHOP;eKNIGHT;",
  "ePAWN;0WHITE_CHESS_KNIGHT_ROTATED_FORTY-FIVE_DEGREES;",
  "0BLACK_CHESS_KNIGHT_ROTATED_FORTY-FIVE_DEGREES;",
  "0NEUTRAL_CHESS_KNIGHT_ROTATED_FORTY-FIVE_DEGREES;0WHITE_CHESS_KING_ROTATED_NINETY_DEGREES;",
  "cQUEEN_ROTATED_NINETY_DEGREES;cROOK_ROTATED_NINETY_DEGREES;cBISHOP_ROTATED_NINETY_DEGREES;",
  "cKNIGHT_ROTATED_NINETY_DEGREES;cPAWN_ROTATED_NINETY_DEGREES;",
  "0BLACK_CHESS_KING_ROTATED_NINETY_DEGREES;cQUEEN_ROTATED_NINETY_DEGREES;",
  "cROOK_ROTATED_NINETY_DEGREES;cBISHOP_ROTATED_NINETY_DEGREES;cKNIGHT_ROTATED_NINETY_DEGREES;",
  "cPAWN_ROTATED_NINETY_DEGREES;0NEUTRAL_CHESS_KING_ROTATED_NINETY_DEGREES;",
  "eQUEEN_ROTATED_NINETY_DEGREES;eROOK_ROTATED_NINETY_DEGREES;eBISHOP_ROTATED_NINETY_DEGREES;",
  "eKNIGHT_ROTATED_NINETY_DEGREES;ePAWN_ROTATED_NINETY_DEGREES;",
  "0WHITE_CHESS_KNIGHT_ROTATED_ONE_HUNDRED_THIRTY-FIVE_DEGREES;",
  "0BLACK_CHESS_KNIGHT_ROTATED_ONE_HUNDRED_THIRTY-FIVE_DEGREES;",
  "0NEUTRAL_CHESS_KNIGHT_ROTATED_ONE_HUNDRED_THIRTY-FIVE_DEGREES;0WHITE_CHESS_TURNED_KING;jQUEEN;",
  "jROOK;jBISHOP;jKNIGHT;jPAWN;0BLACK_CHESS_TURNED_KING;jQUEEN;jROOK;jBISHOP;jKNIGHT;jPAWN;",
  "0NEUTRAL_CHESS_TURNED_KING;lQUEEN;lROOK;lBISHOP;lKNIGHT;lPAWN;",
  "0WHITE_CHESS_KNIGHT_ROTATED_TWO_HUNDRED_TWENTY-FIVE_DEGREES;",
  "0BLACK_CHESS_KNIGHT_ROTATED_TWO_HUNDRED_TWENTY-FIVE_DEGREES;",
  "0NEUTRAL_CHESS_KNIGHT_ROTATED_TWO_HUNDRED_TWENTY-FIVE_DEGREES;",
  "0WHITE_CHESS_KING_ROTATED_TWO_HUNDRED_SEVENTY_DEGREES;",
  "cQUEEN_ROTATED_TWO_HUNDRED_SEVENTY_DEGREES;cROOK_ROTATED_TWO_HUNDRED_SEVENTY_DEGREES;",
  "cBISHOP_ROTATED_TWO_HUNDRED_SEVENTY_DEGREES;cKNIGHT_ROTATED_TWO_HUNDRED_SEVENTY_DEGREES;",
  "cPAWN_ROTATED_TWO_HUNDRED_SEVENTY_DEGREES;",
  "0BLACK_CHESS_KING_ROTATED_TWO_HUNDRED_SEVENTY_DEGREES;",
  "cQUEEN_ROTATED_TWO_HUNDRED_SEVENTY_DEGREES;cROOK_ROTATED_TWO_HUNDRED_SEVENTY_DEGREES;",
  "cBISHOP_ROTATED_TWO_HUNDRED_SEVENTY_DEGREES;cKNIGHT_ROTATED_TWO_HUNDRED_SEVENTY_DEGREES;",
  "cPAWN_ROTATED_TWO_HUNDRED_SEVENTY_DEGREES;",
  "0NEUTRAL_CHESS_KING_ROTATED_TWO_HUNDRED_SEVENTY_DEGREES;",
  "eQUEEN_ROTATED_TWO_HUNDRED_SEVENTY_DEGREES;eROOK_ROTATED_TWO_HUNDRED_SEVENTY_DEGREES;",
  "eBISHOP_ROTATED_TWO_HUNDRED_SEVENTY_DEGREES;eKNIGHT_ROTATED_TWO_HUNDRED_SEVENTY_DEGREES;",
  "ePAWN_ROTATED_TWO_HUNDRED_SEVENTY_DEGREES;",
  "0WHITE_CHESS_KNIGHT_ROTATED_THREE_HUNDRED_FIFTEEN_DEGREES;",
  "0BLACK_CHESS_KNIGHT_ROTATED_THREE_HUNDRED_FIFTEEN_DEGREES;",
  "0NEUTRAL_CHESS_KNIGHT_ROTATED_THREE_HUNDRED_FIFTEEN_DEGREES;0WHITE_CHESS_EQUIHOPPER;",
  "0BLACK_CHESS_EQUIHOPPER;0NEUTRAL_CHESS_EQUIHOPPER;",
  "0WHITE_CHESS_EQUIHOPPER_ROTATED_NINETY_DEGREES;0BLACK_CHESS_EQUIHOPPER_ROTATED_NINETY_DEGREES;",
  "0NEUTRAL_CHESS_EQUIHOPPER_ROTATED_NINETY_DEGREES;0WHITE_CHESS_KNIGHT-QUEEN;jROOK;jBISHOP;",
  "0BLACK_CHESS_KNIGHT-QUEEN;jROOK;jBISHOP;>1FA60:0XIANGQI_RED_GENERAL;cMANDARIN;cELEPHANT;cHORSE;",
  "cCHARIOT;dANNON;cSOLDIER;8BLACK_GENERAL;eMANDARIN;eELEPHANT;eHORSE;eCHARIOT;fANNON;eSOLDIER;",
  ">1FA70:0BALLET_SHOES;0ONE-PIECE_SWIMSUIT;0BRIEFS;0SHORTS;0THONG_SANDAL;>1FA78:0DROP_OF_BLOOD;",
  "0ADHESIVE_BANDAGE;0STETHOSCOPE;0X-RAY;0CRUTCH;>1FA80:0YO-YO;0KITE;0PARACHUTE;0BOOMERANG;",
  "0MAGIC_WAND;0PINATA;0NESTING_DOLLS;>1FA90:0RINGED_PLANET;0CHAIR;0RAZOR;0AXE;0DIYA_LAMP;0BANJO;",
  "0MILITARY_HELMET;0ACCORDION;0LONG_DRUM;0COIN;1ARPENTRY_SAW;0SCREWDRIVER;0LADDER;0HOOK;0MIRROR;",
  "0WINDOW;0PLUNGER;0SEWING_NEEDLE;0KNOT;0BUCKET;0MOUSE_TRAP;0TOOTHBRUSH;0HEADSTONE;0PLACARD;",
  "0ROCK;0MIRROR_BALL;0IDENTIFICATION_CARD;0LOW_BATTERY;0HAMSA;>1FAB0:0FLY;0WORM;0BEETLE;",
  "0COCKROACH;0POTTED_PLANT;0WOOD;0FEATHER;0LOTUS;0CORAL;0EMPTY_NEST;0NEST_WITH_EGGS;",
  ">1FAC0:0ANATOMICAL_HEART;0LUNGS;0PEOPLE_HUGGING;1REGNANT_MAN;9PERSON;1ERSON_WITH_CROWN;",
  ">1FAD0:0BLUEBERRIES;1ELL_PEPPER;0OLIVE;0FLATBREAD;0TAMALE;0FONDUE;0TEAPOT;0POURING_LIQUID;",
  "0BEANS;0JAR;>1FAE0:0MELTING_FACE;0SALUTING_FACE;0FACE_WITH_OPEN_EYES_AND_HAND_OVER_MOUTH;",
  "aPEEKING_EYE;aDIAGONAL_MOUTH;0DOTTED_LINE_FACE;0BITING_LIP;1UBBLES;",
  ">1FAF0:0HAND_WITH_INDEX_FINGER_AND_THUMB_CROSSED;0RIGHTWARDS_HAND;0LEFTWARDS_HAND;",
  "0PALM_DOWN_HAND;5UP_HAND;0INDEX_POINTING_AT_THE_VIEWER;0HEART_HANDS;>1FB00:0BLOCK_SEXTANT-1;e2;",
  "e12;e3;e13;e23;e123;e4;e14;e24;e124;e34;e134;e234;e1234;e5;e15;e25;e125;e35;e235;e1235;e45;",
  "e145;e245;e1245;e345;e1345;e2345;e12345;e6;e16;e26;e126;e36;e136;e236;e1236;e46;e146;f246;e346;",
  "e1346;e2346;e12346;e56;e156;e256;e1256;e356;e1356;e2356;e12356;e456;e1456;e2456;e12456;e3456;",
  "e13456;e23456;0LOWER_LEFT_BLOCK_DIAGONAL_LOWER_MIDDLE_LEFT_TO_LOWER_CENTRE;RRIGHT;",
  "qUPPER_MIDDLE_LEFT_TO_LOWER_CENTRE;RRIGHT;wLEFT_TO_LOWER_CENTRE;",
  "6RIGHT_BLOCK_DIAGONAL_UPPER_MIDDLE_LEFT_TO_UPPER_CENTRE;SRIGHT;",
  "rLOWER_MIDDLE_LEFT_TO_UPPER_CENTRE;SRIGHT;xLEFT_TO_UPPER_CENTRE;",
  "xMIDDLE_LEFT_TO_UPPER_MIDDLE_RIGHT;xCENTRE_TO_LOWER_MIDDLE_RIGHT;xLEFT_TO_LOWER_MIDDLE_RIGHT;",
  "xCENTRE_TO_UPPER_MIDDLE_RIGHT;xLEFT_TO_UPPER_MIDDLE_RIGHT;xCENTRE_TO_UPPER_RIGHT;",
  "6LEFT_BLOCK_DIAGONAL_UPPER_CENTRE_TO_UPPER_MIDDLE_RIGHT;wLEFT_TO_UPPER_MIDDLE_RIGHT;",
  "wCENTRE_TO_LOWER_MIDDLE_RIGHT;wLEFT_TO_LOWER_MIDDLE_RIGHT;wCENTRE_TO_LOWER_RIGHT;",
  "wMIDDLE_LEFT_TO_LOWER_MIDDLE_RIGHT;",
  "0UPPER_RIGHT_BLOCK_DIAGONAL_LOWER_MIDDLE_LEFT_TO_LOWER_CENTRE;SRIGHT;",
  "rUPPER_MIDDLE_LEFT_TO_LOWER_CENTRE;SRIGHT;xLEFT_TO_LOWER_CENTRE;",
  "6LEFT_BLOCK_DIAGONAL_UPPER_MIDDLE_LEFT_TO_UPPER_CENTRE;RRIGHT;",
  "qLOWER_MIDDLE_LEFT_TO_UPPER_CENTRE;RRIGHT;wLEFT_TO_UPPER_CENTRE;",
  "wMIDDLE_LEFT_TO_UPPER_MIDDLE_RIGHT;wCENTRE_TO_LOWER_MIDDLE_RIGHT;wLEFT_TO_LOWER_MIDDLE_RIGHT;",
  "wCENTRE_TO_UPPER_MIDDLE_RIGHT;wLEFT_TO_UPPER_MIDDLE_RIGHT;wCENTRE_TO_UPPER_RIGHT;",
  "6RIGHT_BLOCK_DIAGONAL_UPPER_CENTRE_TO_UPPER_MIDDLE_RIGHT;xLEFT_TO_UPPER_MIDDLE_RIGHT;",
  "xCENTRE_TO_LOWER_MIDDLE_RIGHT;xLEFT_TO_LOWER_MIDDLE_RIGHT;xCENTRE_TO_LOWER_RIGHT;",
  "xMIDDLE_LEFT_TO_LOWER_MIDDLE_RIGHT;6AND_RIGHT_AND_LOWER_TRIANGULAR_THREE_QUARTERS_BLOCK;",
  "0LEFT_AND_LOWER_AND_RIGHT_TRIANGULAR_THREE_QUARTERS_BLOCK;",
  "0UPPER_AND_LEFT_AND_LOWER_TRIANGULAR_THREE_QUARTERS_BLOCK;",
  "0LEFT_AND_UPPER_AND_RIGHT_TRIANGULAR_THREE_QUARTERS_BLOCK;5TRIANGULAR_ONE_QUARTER_BLOCK;",
  "0UPPER_TRIANGULAR_ONE_QUARTER_BLOCK;0RIGHT_TRIANGULAR_ONE_QUARTER_BLOCK;",
  "0LOWER_TRIANGULAR_ONE_QUARTER_BLOCK;0VERTICAL_ONE_EIGHTH_BLOCK-2;q3;q4;q5;q6;q7;",
  "0HORIZONTAL_ONE_EIGHTH_BLOCK-2;s3;s4;s5;s6;s7;0LEFT_AND_LOWER_ONE_EIGHTH_BLOCK;",
  "9UPPER_ONE_EIGHTH_BLOCK;0RIGHT_AND_UPPER_ONE_EIGHTH_BLOCK;aLOWER_ONE_EIGHTH_BLOCK;",
  "0UPPER_AND_LOWER_ONE_EIGHTH_BLOCK;0HORIZONTAL_ONE_EIGHTH_BLOCK-1358;0UPPER_ONE_QUARTER_BLOCK;",
  "6THREE_EIGHTHS_BLOCK;6FIVE_EIGHTHS_BLOCK;6THREE_QUARTERS_BLOCK;6SEVEN_EIGHTHS_BLOCK;",
  "0RIGHT_ONE_QUARTER_BLOCK;6THREE_EIGHTHS_BLOCK;6FIVE_EIGHTHS_BLOCK;6THREE_QUARTERS_BLOCK;",
  "6SEVEN_EIGHTHS_BLOCK;0LEFT_HALF_MEDIUM_SHADE;0RIGHT_HALF_MEDIUM_SHADE;0UPPER_HALF_MEDIUM_SHADE;",
  "0LOWER_HALF_MEDIUM_SHADE;0INVERSE_MEDIUM_SHADE;",
  "0UPPER_HALF_BLOCK_AND_LOWER_HALF_INVERSE_MEDIUM_SHADE;",
  "bINVERSE_MEDIUM_SHADE_AND_LOWER_HALF_BLOCK;",
  ">1FB94:0LEFT_HALF_INVERSE_MEDIUM_SHADE_AND_RIGHT_HALF_BLOCK;0CHECKER_BOARD_FILL;",
  "0INVERSE_CHECKER_BOARD_FILL;0HEAVY_HORIZONTAL_FILL;0UPPER_LEFT_TO_LOWER_RIGHT_FILL;",
  "6RIGHT_TO_LOWER_LEFT_FILL;6AND_LOWER_TRIANGULAR_HALF_BLOCK;",
  "0LEFT_AND_RIGHT_TRIANGULAR_HALF_BLOCK;0UPPER_LEFT_TRIANGULAR_MEDIUM_SHADE;",
  "6RIGHT_TRIANGULAR_MEDIUM_SHADE;0LOWER_RIGHT_TRIANGULAR_MEDIUM_SHADE;",
  "6LEFT_TRIANGULAR_MEDIUM_SHADE;0BOX_DRAWINGS_LIGHT_DIAGONAL_UPPER_CENTRE_TO_MIDDLE_LEFT;PRIGHT;",
  "sMIDDLE_LEFT_TO_LOWER_CENTRE;zRIGHT_TO_LOWER_CENTRE;",
  "sUPPER_CENTRE_TO_MIDDLE_LEFT_TO_LOWER_CENTRE;PRIGHT_TO_LOWER_CENTRE;",
  "sMIDDLE_LEFT_TO_LOWER_CENTRE_TO_MIDDLE_RIGHT;HUPPER_CENTRE_TO_MIDDLE_RIGHT;",
  "sUPPER_CENTRE_TO_MIDDLE_LEFT_AND_MIDDLE_RIGHT_TO_LOWER_CENTRE;",
  "PRIGHT_AND_MIDDLE_LEFT_TO_LOWER_CENTRE;VTO_LOWER_CENTRE_TO_MIDDLE_LEFT;",
  "PLEFT_TO_LOWER_CENTRE_TO_MIDDLE_RIGHT;",
  "sMIDDLE_LEFT_TO_UPPER_CENTRE_TO_MIDDLE_RIGHT_TO_LOWER_CENTRE;",
  "zRIGHT_TO_UPPER_CENTRE_TO_MIDDLE_LEFT_TO_LOWER_CENTRE;sDIAMOND;",
  "jHORIZONTAL_WITH_VERTICAL_STROKE;0ARROWHEAD-SHAPED_POINTER;0INVERSE_CHECK_MARK;",
  "0LEFT_HALF_RUNNING_MAN;0RIGHT_HALF_RUNNING_MAN;0INVERSE_DOWNWARDS_ARROW_WITH_TIP_LEFTWARDS;",
  "0LEFTWARDS_ARROW_AND_UPPER_AND_LOWER_ONE_EIGHTH_BLOCK;",
  "0RIGHTWARDS_ARROW_AND_UPPER_AND_LOWER_ONE_EIGHTH_BLOCK;",
  "0DOWNWARDS_ARROW_AND_RIGHT_ONE_EIGHTH_BLOCK;0UPWARDS_ARROW_AND_RIGHT_ONE_EIGHTH_BLOCK;",
  "0LEFT_HALF_FOLDER;0RIGHT_HALF_FOLDER;0VOIDED_GREEK_CROSS;0RIGHT_OPEN_SQUARED_DOT;",
  "0NEGATIVE_DIAGONAL_CROSS;iMIDDLE_RIGHT_TO_LOWER_CENTRE;iDIAMOND;",
  "0WHITE_HEAVY_SALTIRE_WITH_ROUNDED_CORNERS;0LEFT_THIRD_WHITE_RIGHT_POINTING_INDEX;",
  "0MIDDLE_THIRD_WHITE_RIGHT_POINTING_INDEX;0RIGHT_THIRD_WHITE_RIGHT_POINTING_INDEX;",
  "0NEGATIVE_SQUARED_QUESTION_MARK;0STICK_FIGURE;c_WITH_ARMS_RAISED;dLEANING_LEFT;lRIGHT;",
  "dWITH_DRESS;0WHITE_UP-POINTING_CHEVRON;>1FBF0:0SEGMENTED_DIGIT_ZERO;gONE;gTWO;hHREE;gFOUR;hIVE;",
  "gSIX;hEVEN;gEIGHT;gNINE;>2F800:0CJK_COMPATIBILITY_IDEOGRAPH-2F800;w1;w2;w3;w4;w5;w6;w7;w8;w9;",
  "wA;wB;wC;wD;wE;wF;v10;w1;w2;w3;w4;w5;w6;w7;w8;w9;wA;wB;wC;wD;wE;wF;v20;w1;w2;w3;w4;w5;w6;w7;w8;",
  "w9;wA;wB;wC;wD;wE;wF;v30;w1;w2;w3;w4;w5;w6;w7;w8;w9;wA;wB;wC;wD;wE;wF;v40;w1;w2;w3;w4;w5;w6;w7;",
  "w8;w9;wA;wB;wC;wD;wE;wF;v50;w1;w2;w3;w4;w5;w6;w7;w8;w9;wA;wB;wC;wD;wE;wF;v60;w1;w2;w3;w4;w5;w6;",
  "w7;w8;w9;wA;wB;wC;wD;wE;wF;v70;w1;w2;w3;w4;w5;w6;w7;w8;w9;wA;wB;wC;wD;wE;wF;v80;w1;w2;w3;w4;w5;",
  "w6;w7;w8;w9;wA;wB;wC;wD;wE;wF;v90;w1;w2;w3;w4;w5;w6;w7;w8;w9;wA;wB;wC;wD;wE;wF;vA0;w1;w2;w3;w4;",
  "w5;w6;w7;w8;w9;wA;wB;wC;wD;wE;wF;vB0;w1;w2;w3;w4;w5;w6;w7;w8;w9;wA;wB;wC;wD;wE;wF;vC0;w1;w2;w3;",
  "w4;w5;w6;w7;w8;w9;wA;wB;wC;wD;wE;wF;vD0;w1;w2;w3;w4;w5;w6;w7;w8;w9;wA;wB;wC;wD;wE;wF;vE0;w1;w2;",
  "w3;w4;w5;w6;w7;w8;w9;wA;wB;wC;wD;wE;wF;vF0;w1;w2;w3;w4;w5;w6;w7;w8;w9;wA;wB;wC;wD;wE;wF;u900;",
  "w1;w2;w3;w4;w5;w6;w7;w8;w9;wA;wB;wC;wD;wE;wF;v10;w1;w2;w3;w4;w5;w6;w7;w8;w9;wA;wB;wC;wD;wE;wF;",
  "v20;w1;w2;w3;w4;w5;w6;w7;w8;w9;wA;wB;wC;wD;wE;wF;v30;w1;w2;w3;w4;w5;w6;w7;w8;w9;wA;wB;wC;wD;wE;",
  "wF;v40;w1;w2;w3;w4;w5;w6;w7;w8;w9;wA;wB;wC;wD;wE;wF;v50;w1;w2;w3;w4;w5;w6;w7;w8;w9;wA;wB;wC;wD;",
  "wE;wF;v60;w1;w2;w3;w4;w5;w6;w7;w8;w9;wA;wB;wC;wD;wE;wF;v70;w1;w2;w3;w4;w5;w6;w7;w8;w9;wA;wB;wC;",
  "wD;wE;wF;v80;w1;w2;w3;w4;w5;w6;w7;w8;w9;wA;wB;wC;wD;wE;wF;v90;w1;w2;w3;w4;w5;w6;w7;w8;w9;wA;wB;",
  "wC;wD;wE;wF;vA0;w1;w2;w3;w4;w5;w6;w7;w8;w9;wA;wB;wC;wD;wE;wF;vB0;w1;w2;w3;w4;w5;w6;w7;w8;w9;wA;",
  "wB;wC;wD;wE;wF;vC0;w1;w2;w3;w4;w5;w6;w7;w8;w9;wA;wB;wC;wD;wE;wF;vD0;w1;w2;w3;w4;w5;w6;w7;w8;w9;",
  "wA;wB;wC;wD;wE;wF;vE0;w1;w2;w3;w4;w5;w6;w7;w8;w9;wA;wB;wC;wD;wE;wF;vF0;w1;w2;w3;w4;w5;w6;w7;w8;",
  "w9;wA;wB;wC;wD;wE;wF;uA00;w1;w2;w3;w4;w5;w6;w7;w8;w9;wA;wB;wC;wD;wE;wF;v10;w1;w2;w3;w4;w5;w6;",
  "w7;w8;w9;wA;wB;wC;wD;>E0001:0LANGUAGE_TAG;>E0020:0TAG_SPACE;4EXCLAMATION_MARK;4QUOTATION_MARK;",
  "4NUMBER_SIGN;4DOLLAR_SIGN;4PERCENT_SIGN;4AMPERSAND;5POSTROPHE;4LEFT_PARENTHESIS;",
  "4RIGHT_PARENTHESIS;4ASTERISK;4PLUS_SIGN;4COMMA;4HYPHEN-MINUS;4FULL_STOP;4SOLIDUS;4DIGIT_ZERO;",
  "aONE;aTWO;bHREE;aFOUR;bIVE;aSIX;bEVEN;aEIGHT;aNINE;4COLON;4SEMICOLON;4LESS-THAN_SIGN;",
  "4EQUALS_SIGN;4GREATER-THAN_SIGN;4QUESTION_MARK;4COMMERCIAL_AT;4LATIN_CAPITAL_LETTER_A;pB;pC;pD;",
  "pE;pF;pG;pH;pI;pJ;pK;pL;pM;pN;pO;pP;pQ;pR;pS;pT;pU;pV;pW;pX;pY;pZ;5EFT_SQUARE_BRACKET;",
  "4REVERSE_SOLIDUS;5IGHT_SQUARE_BRACKET;4CIRCUMFLEX_ACCENT;4LOW_LINE;4GRAVE_ACCENT;",
  "4LATIN_SMALL_LETTER_A;nB;nC;nD;nE;nF;nG;nH;nI;nJ;nK;nL;nM;nN;nO;nP;nQ;nR;nS;nT;nU;nV;nW;nX;nY;",
  "nZ;5EFT_CURLY_BRACKET;4VERTICAL_LINE;4RIGHT_CURLY_BRACKET;4TILDE;0CANCEL_TAG;",
  ">E0100:0VARIATION_SELECTOR-17;k8;k9;j20;k1;k2;k3;k4;k5;k6;k7;k8;k9;j30;k1;k2;k3;k4;k5;k6;k7;k8;",
  "k9;j40;k1;k2;k3;k4;k5;k6;k7;k8;k9;j50;k1;k2;k3;k4;k5;k6;k7;k8;k9;j60;k1;k2;k3;k4;k5;k6;k7;k8;",
  "k9;j70;k1;k2;k3;k4;k5;k6;k7;k8;k9;j80;k1;k2;k3;k4;k5;k6;k7;k8;k9;j90;k1;k2;k3;k4;k5;k6;k7;k8;",
  "k9;j100;l1;l2;l3;l4;l5;l6;l7;l8;l9;k10;l1;l2;l3;l4;l5;l6;l7;l8;l9;k20;l1;l2;l3;l4;l5;l6;l7;l8;",
  "l9;k30;l1;l2;l3;l4;l5;l6;l7;l8;l9;k40;l1;l2;l3;l4;l5;l6;l7;l8;l9;k50;l1;l2;l3;l4;l5;l6;l7;l8;",
  "l9;k60;l1;l2;l3;l4;l5;l6;l7;l8;l9;k70;l1;l2;l3;l4;l5;l6;l7;l8;l9;k80;l1;l2;l3;l4;l5;l6;l7;l8;",
  "l9;k90;l1;l2;l3;l4;l5;l6;l7;l8;l9;j200;l1;l2;l3;l4;l5;l6;l7;l8;l9;k10;l1;l2;l3;l4;l5;l6;l7;l8;",
  "l9;k20;l1;l2;l3;l4;l5;l6;l7;l8;l9;k30;l1;l2;l3;l4;l5;l6;l7;l8;l9;k40;l1;l2;l3;l4;l5;l6;l7;l8;",
  "l9;k50;l1;l2;l3;l4;l5;l6;"]

end Milp.Text.CharacterName
