import LinearProgram.Text.Ranges

/-!
# Names of characters

A string may give a character by its name. `isCharacterName` knows the names of the letters of
Latin, Greek, Cyrillic, Armenian, Hebrew, Arabic, Devanagari, Thai, Georgian and Kana, of marks,
punctuation, currencies, arrows, mathematical and technical signs, pictures and faces, and the names
and short forms of the controls. Capital and small letters count the same in them.

The names of the syllables of Hangul and of the unified ideographs are made by rules, and they are
written in capital letters only.
-/

namespace LinearProgram

/-- Names of characters: for each beginning, the ways in which the names go on, with bars between
them. -/
def characterNames : List (String × List String) :=
  [("",
    ["ABACUS|AC CURRENT|ACCORDION|ACCOUNT OF|ACK|ACKNOWLEDGE|ACTIVATE ARABIC FORM SHAPING",
     "ACTIVATE SYMMETRIC SWAPPING|ACUTE ACCENT|ADDRESSED TO THE SUBJECT|ADHESIVE BANDAGE",
     "ADI SHAKTI|ADMISSION TICKETS|ADULT|AERIAL TRAMWAY|AFGHANI SIGN|AIRPLANE|AIRPLANE ARRIVING",
     "AIRPLANE DEPARTURE|AKTIESELSKAB|ALARM CLOCK|ALEF SYMBOL|ALEMBIC|ALERT|ALIEN MONSTER",
     "ALL AROUND-PROFILE|ALL EQUAL TO|ALTERNATE ONE-WAY LEFT WAY TRAFFIC|ALTERNATIVE KEY SYMBOL",
     "AMBULANCE|AMERICAN FOOTBALL|AMPERSAND|AMPHORA|ANATOMICAL HEART|ANCHOR|AND WITH DOT",
     "ANGER SYMBOL|ANGLE|ANGRY FACE|ANGSTROM SIGN|ANGUISHED FACE|ANKH|ANT|ANTENNA WITH BARS|APC",
     "APOSTROPHE|APPLICATION PROGRAM COMMAND|APPROACHES THE LIMIT|AQUARIUS|ARC|ARIES",
     "ARTICULATED LORRY|ARTIST PALETTE|ASCENDING NODE|ASSERTION|ASTERISK|ASTERISK OPERATOR",
     "ASTERISM|ASTONISHED FACE|ASTRONOMICAL SYMBOL FOR URANUS|ASYMPTOTICALLY EQUAL TO",
     "ATHLETIC SHOE|ATOM SYMBOL|AUBERGINE|AUSTRAL SIGN|AUTO RICKSHAW|AUTOMATED TELLER MACHINE",
     "AUTOMOBILE|AVOCADO|AXE|BABY|BACK OF ENVELOPE|BACK WITH LEFTWARDS ARROW ABOVE",
     "BACK-TILTED SHADOWED WHITE RIGHTWARDS ARROW|BACKSPACE|BACON|BACTRIAN CAMEL|BADGER",
     "BADMINTON RACQUET AND SHUTTLECOCK|BAGEL|BAGGAGE CLAIM|BAGUETTE BREAD|BALL OF YARN",
     "BALLET SHOES|BALLOON|BALLOON-SPOKED ASTERISK|BANANA|BANJO|BANK|BAR CHART|BAR OF SOAP",
     "BARBER POLE|BASEBALL|BASKET|BASKETBALL AND HOOP|BAT|BATH|BATHTUB|BATTERY",
     "BEACH WITH UMBRELLA|BEANS|BEAR FACE|BEARDED PERSON|BEATING HEART|BEAVER|BECAUSE|BED",
     "BEER MUG|BEETLE|BEL|BELL|BELL PEPPER|BELL SYMBOL|BELL WITH CANCELLATION STROKE",
     "BELLHOP BELL|BENT ARROW POINTING DOWNWARDS THEN NORTH EAST|BENTO BOX|BENZENE RING",
     "BENZENE RING WITH CIRCLE|BET SYMBOL|BETWEEN|BEVERAGE BOX|BICYCLE|BICYCLIST|BIKINI",
     "BILLED CAP|BILLIARDS|BIOHAZARD SIGN|BIRD|BIRTHDAY CAKE|BISON|BITCOIN SIGN|BITING LIP",
     "BLANK SYMBOL|BLOSSOM|BLOWFISH|BLUE BOOK|BLUE HEART|BLUEBERRIES|BOAR|BOM|BOMB|BONE|BOOK",
     "BOOKMARK|BOOKMARK TABS|BOOKS|BOOMERANG|BOTTLE WITH POPPING CORK|BOUQUET|BOUQUET OF FLOWERS",
     "BOW AND ARROW|BOWL OF HYGIEIA|BOWL WITH SPOON|BOWLING|BOWTIE|BOXING GLOVE|BOY|BOYS SYMBOL",
     "BPH|BRAIN|BREAD|BREAK PERMITTED HERE|BREAST-FEEDING|BREVE|BRICK|BRIDE WITH VEIL",
     "BRIDGE AT NIGHT|BRIEFCASE|BRIEFS|BROCCOLI|BROOM|BROWN HEART|BS|BUBBLE TEA|BUBBLES|BUCKET",
     "BUG|BUILDING CONSTRUCTION|BULLET|BULLET OPERATOR|BULLHORN|BULLHORN WITH SOUND WAVES",
     "BULLSEYE|BURRITO|BUS|BUS STOP|BUST IN SILHOUETTE|BUSTS IN SILHOUETTE|BUTTER|BUTTERFLY",
     "BYTE ORDER MARK|CACTUS|CADA UNA|CADUCEUS|CALENDAR|CALL ME HAND|CAMERA|CAMERA WITH FLASH",
     "CAMPING|CAN|CANCEL|CANCEL CHARACTER|CANCELLATION X|CANCER|CANDLE|CANDY|CANNED FOOD|CANOE",
     "CAPRICORN|CAR SLIDING|CARD FILE BOX|CARD INDEX|CARD INDEX DIVIDERS|CARE OF|CARET",
     "CARET INSERTION POINT|CARON|CAROUSEL HORSE|CARP STREAMER|CARPENTRY SAW|CARRIAGE RETURN",
     "CARROT|CASTLE|CAT|CAT FACE|CAUTION SIGN|CCH|CEDI SIGN|CEDILLA|CELTIC CROSS|CENT SIGN",
     "CENTRE LINE SYMBOL|CERES|CGJ|CHAINS|CHAIR|CHECK MARK|CHEERING MEGAPHONE|CHEESE WEDGE",
     "CHEQUERED FLAG|CHERRIES|CHERRY BLOSSOM|CHESTNUT|CHI RHO|CHICKEN|CHILD|CHILDREN CROSSING",
     "CHIPMUNK|CHIRON|CHOCOLATE BAR|CHOPSTICKS|CHRISTMAS TREE|CHURCH|CINEMA|CIRCUMFLEX ACCENT",
     "CIRCUS TENT|CITYSCAPE|CITYSCAPE AT DUSK|CLAMSHELL MOBILE PHONE|CLAPPER BOARD",
     "CLAPPING HANDS SIGN|CLASSICAL BUILDING|CLEAR SCREEN SYMBOL|CLINKING BEER MUGS",
     "CLINKING GLASSES|CLIPBOARD|CLOSE UP|CLOUD|CLOWN FACE|COAT|COCKROACH|COCKTAIL GLASS|COCONUT",
     "COFFIN|COIN|COLLISION SYMBOL|COLON|COLON EQUALS|COLON SIGN|COMET|COMMA|COMPASS|COMPLEMENT",
     "COMPOSITION SYMBOL|COMPRESSION|CONFETTI BALL|CONFOUNDED FACE|CONFUSED FACE|CONICAL TAPER",
     "CONJUNCTION|CONTINUOUS UNDERLINE SYMBOL|CONTOUR INTEGRAL|CONTROL KNOBS",
     "CONTROL SEQUENCE INTRODUCER|CONVENIENCE STORE|COOKED RICE|COOKIE|COOKING|COPYLEFT SYMBOL",
     "COPYRIGHT SIGN|CORAL|CORRESPONDS TO|COUCH AND LAMP|COUNTERBORE|COUNTERSINK",
     "COUPLE WITH HEART|COW|COW FACE|CR|CRAB|CREDIT CARD|CRESCENT MOON|CRICKET",
     "CRICKET BAT AND BALL|CROCODILE|CROISSANT|CROSSING LANES|CROWN|CRUTCH|CRUZEIRO SIGN",
     "CRYING CAT FACE|CRYING FACE|CRYSTAL BALL|CSI|CUBE ROOT|CUCUMBER|CUP ON BLACK SQUARE",
     "CUP WITH STRAW|CUPCAKE|CURLING STONE|CURRENCY EXCHANGE|CURRENCY SIGN|CURRY AND RICE",
     "CURVED STEM PARAGRAPH SIGN ORNAMENT|CUSTARD|CUSTOMS|CUT OF MEAT|CYCLONE|CYLINDRICITY",
     "CYRILLIC LETTER PALOCHKA|CYRILLIC THOUSANDS SIGN|DAGGER|DAGGER KNIFE|DALET SYMBOL|DANCER",
     "DANGO|DARK SHADE|DARK SUNGLASSES|DASH SYMBOL|DATA LINK ESCAPE|DC1|DC2|DC3|DC4|DCS",
     "DEAF PERSON|DECIDUOUS TREE|DECIMAL EXPONENT SYMBOL|DECIMAL SEPARATOR KEY SYMBOL",
     "DECREASE FONT SIZE SYMBOL|DEER|DEL|DELETE|DELIVERY TRUCK|DELTA EQUAL TO|DEPARTMENT STORE",
     "DERELICT HOUSE BUILDING|DESCENDING NODE|DESERT|DESERT ISLAND|DESKTOP COMPUTER",
     "DESKTOP WINDOW|DIAERESIS|DIAMETER SIGN|DIESEL LOCOMOTIVE|DIFFERENCE BETWEEN",
     "DIMENSION ORIGIN|DINGBAT CIRCLED SANS-SERIF NUMBER TEN|DIRECT CURRENT SYMBOL FORM TWO",
     "DIRECT HIT|DISABLED CAR|DISCONTINUOUS UNDERLINE SYMBOL|DISGUISED FACE|DITTO MARK|DIVIDES",
     "DIVING MASK|DIVORCE SYMBOL|DIYA LAMP|DIZZY FACE|DIZZY SYMBOL|DLE|DNA DOUBLE HELIX",
     "DO NOT LITTER SYMBOL|DOCUMENT|DODO|DOG|DOG FACE|DOLLAR SIGN|DOLPHIN|DONG SIGN|DOOR",
     "DOUBLED FEMALE SIGN|DOUBLED MALE SIGN|DOUGHNUT|DOVE OF PEACE|DOWN ARROWHEAD",
     "DOWN RIGHT DIAGONAL ELLIPSIS|DOWN TACK|DRACHMA SIGN|DRAFTING POINT RIGHTWARDS ARROW|DRAGON",
     "DRAGON FACE|DRESS|DRIVE SLOW SIGN|DROMEDARY CAMEL|DROOLING FACE|DROP OF BLOOD|DROPLET",
     "DRUM WITH DRUMSTICKS|DUCK|DUMPLING|DVD|E-MAIL SYMBOL|EAGLE|EAR|EAR OF MAIZE|EAR OF RICE",
     "EAR WITH HEARING AID|EARTH|EARTH GROUND|EAST SYRIAC CROSS|EGG|EIGHTH NOTE|EJECT SYMBOL",
     "ELECTRICAL INTERSECTION|ELEMENT OF|ELEMENT OF OPENING UPWARDS|ELEPHANT|ELEVATOR|ELF",
     "EM DASH|EM QUAD|EM SPACE|EMPHASIS SYMBOL|EN DASH|EN QUAD|EN SPACE",
     "END WITH LEFTWARDS ARROW ABOVE|ENQ|ENQUIRY|ENTER SYMBOL|ENVELOPE|EOL|EOM|EOT|EPA",
     "EQUAL AND PARALLEL TO|EQUAL TO BY DEFINITION|EQUIANGULAR TO|EQUIVALENT TO|ESA|ESC|ESCAPE",
     "ESTIMATED SYMBOL|ESTIMATES|ETB|ETX|EULER CONSTANT|EURO SIGN|EURO-CURRENCY SIGN",
     "EUROPEAN CASTLE|EUROPEAN POST OFFICE|EVERGREEN TREE|EXCESS|EXPRESSIONLESS FACE",
     "EXTRATERRESTRIAL ALIEN|EYE|EYEGLASSES|EYES|FACSIMILE SIGN|FACTORY|FAIRY|FALAFEL",
     "FALLEN LEAF|FALLING DIAGONAL IN WHITE CIRCLE IN BLACK SQUARE|FAMILY|FARSI SYMBOL",
     "FATHER CHRISTMAS|FAX ICON|FAX MACHINE|FEARFUL FACE|FEATHER|FEMALE SIGN",
     "FEMININE ORDINAL INDICATOR|FENCER|FERRIS WHEEL|FERRY|FF|FIELD HOCKEY STICK AND BALL",
     "FIGURE DASH|FIGURE SPACE|FILE CABINET|FILE FOLDER|FILE SEPARATOR|FILM FRAMES",
     "FILM PROJECTOR|FIRE|FIRE ENGINE|FIRE EXTINGUISHER|FIRECRACKER|FIREWORK SPARKLER|FIREWORKS",
     "FIRST PLACE MEDAL|FIRST STRONG ISOLATE|FISH|FISH CAKE WITH SWIRL DESIGN|FISHEYE",
     "FISHING POLE AND FISH|FISTED HAND SIGN|FIVE DOT PUNCTUATION|FLAG IN HOLE|FLAMINGO",
     "FLAT SHOE|FLATBREAD|FLATNESS|FLEUR-DE-LIS|FLEXED BICEPS|FLOPPY DISK|FLORAL HEART|FLOWER",
     "FLOWER PLAYING CARDS|FLOWER PUNCTUATION MARK|FLUSHED FACE|FLY|FOG|FOGGY|FOLDER|FONDUE|FOOT",
     "FOOTPRINTS|FOR ALL|FORCES|FORK AND KNIFE|FORK AND KNIFE WITH PLATE|FORM FEED",
     "FORTUNE COOKIE|FOUNTAIN|FOUR-PER-EM SPACE|FOURTH ROOT|FOX FACE|FRACTION NUMERATOR ONE",
     "FRACTION SLASH|FREEZING FACE|FRENCH FRANC SIGN|FRENCH FRIES|FRIED SHRIMP|FROG FACE",
     "FRONT-FACING BABY CHICK|FRONT-TILTED SHADOWED WHITE RIGHTWARDS ARROW|FROWN",
     "FROWNING FACE WITH OPEN MOUTH|FS|FSI|FUEL PUMP|FUNCTION APPLICATION|FUNERAL URN|FUSE",
     "GAME DIE|GARLIC|GEAR|GEAR WITH HANDLES|GEAR WITHOUT HUB|GEM STONE|GEMINI|GENIE",
     "GEOMETRIC PROPORTION|GEORGIAN PARAGRAPH SEPARATOR|GERMAN PENNY SIGN|GETA MARK|GHOST",
     "GIMEL SYMBOL|GIRAFFE FACE|GIRL|GIRLS SYMBOL|GLASS OF MILK|GLOBE WITH MERIDIANS|GLOVES",
     "GLOWING STAR|GOAL NET|GOAT|GOGGLES|GOLFER|GORILLA|GRADUATION CAP|GRAPES|GRAVE ACCENT",
     "GRIMACING FACE|GRINNING CAT FACE WITH SMILING EYES|GRINNING FACE|GROUP SEPARATOR",
     "GROWING HEART|GS|GUARANI SIGN|GUARDSMAN|GUIDE DOG|GUITAR|HAIR SPACE|HAIRCUT|HAMBURGER",
     "HAMMER|HAMSA|HAMSTER FACE|HANDBAG|HANDBALL|HANDSHAKE|HANGUL DOUBLE DOT TONE MARK",
     "HANGUL SINGLE DOT TONE MARK|HAPPY PERSON RAISING ONE HAND|HARD DISK|HATCHING CHICK",
     "HEADPHONE|HEADSTONE|HEADSTONE GRAVEYARD SYMBOL|HEAR-NO-EVIL MONKEY|HEBREW YOD TRIANGLE",
     "HEDGEHOG|HELICOPTER|HELM SYMBOL|HELMET WITH WHITE CROSS|HERB|HERMITIAN CONJUGATE MATRIX",
     "HIBISCUS|HIGH BRIGHTNESS SYMBOL|HIGH OCTET PRESET|HIGH VOLTAGE SIGN|HIGH-HEELED SHOE",
     "HIKING BOOT|HINDU TEMPLE|HIPPOPOTAMUS|HISTORIC SITE|HOCHO|HOLE|HOMOTHETIC|HONEY POT",
     "HONEYBEE|HOOK|HOP|HORSE|HORSE FACE|HORSE RACING|HOSPITAL|HOTEL|HOURGLASS",
     "HOURGLASS WITH FLOWING SAND|HOUSE|HRYVNIA SIGN|HT|HTJ|HTS|HUGGING FACE",
     "HUNDRED POINTS SYMBOL|HUSHED FACE|HUT|HYPHEN|HYPHEN BULLET|HYPHEN-MINUS|HYPHENATION POINT",
     "HYSTERESIS SYMBOL|I LOVE YOU HAND SIGN|IDENTICAL TO|IDENTIFICATION CARD|IMAGE OF",
     "IMAGE OF OR APPROXIMATELY EQUAL TO|IMP|INBOX TRAY|INCOMING ENVELOPE",
     "INCREASE FONT SIZE SYMBOL|INCREMENT|IND|INDEX|INDEX POINTING AT THE VIEWER",
     "INDIAN RUPEE SIGN|INFINITY|INHIBIT ARABIC FORM SHAPING|INHIBIT SYMMETRIC SWAPPING",
     "INSERTION SYMBOL|INTEGRAL|INTEGRAL EXTENSION|INTERCALATE|INTERLOCKED FEMALE AND MALE SIGN",
     "INTERROBANG|INTERSECTION|INVERSE BULLET|INVERSE WHITE CIRCLE|IZAKAYA LANTERN",
     "JACK-O-LANTERN|JAR|JEANS|JIGSAW PUZZLE PIECE|JOYSTICK|JUGGLING|JUNO|JUPITER|KAABA|KANGAROO",
     "KELVIN SIGN|KEY|KEYBOARD|KEYBOARD AND MOUSE|KEYCAP TEN|KIMONO|KIP SIGN|KISS|KISS MARK|KITE",
     "KIWIFRUIT|KNEELING PERSON|KNOT|KOALA|L B BAR SYMBOL|LAB COAT|LABEL|LACROSSE STICK AND BALL",
     "LADDER|LADY BEETLE|LARI SIGN|LATIN CROSS|LEAF FLUTTERING IN WIND|LEAFY GREEN|LEDGER",
     "LEFT-HANDED INTERLACED PENTAGRAM|LEFT-SHADED WHITE RIGHTWARDS ARROW|LEG|LEMON|LEO|LEOPARD",
     "LEVEL SLIDER|LF|LIBRA|LIGHTNING|LIGHTNING MOOD|LIGHTNING MOOD BUBBLE|LINK SYMBOL",
     "LINKED PAPERCLIPS|LION FACE|LIPS|LIPSTICK|LIRA SIGN|LIVRE TOURNOIS SIGN|LIZARD|LLAMA",
     "LOBSTER|LOCK|LOCK WITH INK PEN|LOGICAL AND|LOGICAL OR|LOLLIPOP|LOTION BOTTLE|LOTUS",
     "LOUDLY CRYING FACE|LOVE HOTEL|LOVE LETTER|LOZENGE|LOZENGE DIVIDED BY HORIZONTAL RULE|LRE",
     "LRI|LRM|LRO|LUGGAGE|LUNGS|LYING FACE|MACRON|MAGE|MAGIC WAND|MAGNET|MALE AND FEMALE SIGN",
     "MALE SIGN|MALTESE CROSS|MAMMOTH|MAN|MANAT SIGN|MANGO|MANS SHOE|MANTELPIECE CLOCK",
     "MANUAL WHEELCHAIR|MAP SYMBOL FOR LIGHTHOUSE|MAPLE LEAF|MARRIAGE SYMBOL",
     "MARTIAL ARTS UNIFORM|MASCULINE ORDINAL INDICATOR|MASK WORK SYMBOL|MASU MARK|MATE DRINK",
     "MAXIMIZE|MEASURED ANGLE|MEASURED BY|MEAT ON BONE|MELON|MELTING FACE|MEMO",
     "MENORAH WITH NINE BRANCHES|MENS SYMBOL|MERCURY|MERPERSON|MESSAGE WAITING|METRO|MICRO SIGN",
     "MICROBE|MICROPHONE|MICROSCOPE|MIDDLE DOT|MIDLINE HORIZONTAL ELLIPSIS|MILITARY HELMET",
     "MILITARY MEDAL|MILKY WAY|MILL SIGN|MINIBUS|MINIDISC|MINIMIZE|MINUS SIGN|MINUS TILDE",
     "MINUS-OR-PLUS SIGN|MIRROR|MIRROR BALL|MMSP|MODELS|MODERN PENTATHLON|MONEY BAG",
     "MONEY WITH WINGS|MONEY-MOUTH FACE|MONKEY|MONKEY FACE|MONORAIL|MONOSTABLE SYMBOL",
     "MOOD BUBBLE|MOON CAKE|MOON VIEWING CEREMONY|MOSQUE|MOSQUITO|MOTHER CHRISTMAS|MOTOR BOAT",
     "MOTOR SCOOTER|MOTORIZED WHEELCHAIR|MOTORWAY|MOUNT FUJI|MOUNTAIN|MOUSE|MOUSE FACE",
     "MOUSE TRAP|MOUTH|MOVIE CAMERA|MOYAI|MUCH GREATER-THAN|MUCH LESS-THAN|MULTIMAP",
     "MULTIPLE MUSICAL NOTES|MULTISET|MULTISET MULTIPLICATION|MULTISET UNION|MUSHROOM|MW|NABLA",
     "NAIL POLISH|NAIRA SIGN|NAK|NAME BADGE|NAND|NARROW NO-BREAK SPACE|NATIONAL DIGIT SHAPES",
     "NATIONAL PARK|NAUSEATED FACE|NAZAR AMULET|NBH|NBSP|NECKTIE",
     "NEGATED DOUBLE VERTICAL BAR DOUBLE RIGHT TURNSTILE|NEGATIVE ACKNOWLEDGE",
     "NEGATIVE CIRCLED DIGIT ZERO|NEL|NEPTUNE|NERD FACE|NEST WITH EGGS|NESTING DOLLS|NEUTER",
     "NEUTRAL FACE|NEWSPAPER|NEXT LINE|NEXT PAGE|NIGHT WITH STARS|NINJA|NL|NNBSP|NO-BREAK SPACE",
     "NOMINAL DIGIT SHAPES|NON-BREAKING HYPHEN|NON-POTABLE WATER SYMBOL|NOR|NORDIC MARK SIGN",
     "NORTHEAST-POINTING AIRPLANE|NOSE|NOTE|NOTE PAD|NOTE PAGE|NOTEBOOK",
     "NOTEBOOK WITH DECORATIVE COVER|NUL|NULL|NUMERO SIGN|NUT AND BOLT",
     "OBJECT REPLACEMENT CHARACTER|OBSERVER EYE SYMBOL|OCTAGONAL SIGN|OCTOPUS|ODEN",
     "OFFICE BUILDING|OGONEK|OHM SIGN|OIL DRUM|OK HAND SIGN|OLD KEY|OLD PERSONAL COMPUTER|OLIVE",
     "OM SYMBOL|ON WITH EXCLAMATION MARK WITH LEFT RIGHT ARROW ABOVE|ONE BUTTON MOUSE",
     "ONE DOT LEADER|ONE-PIECE SWIMSUIT|ONION|OPEN-OUTLINED RIGHTWARDS ARROW",
     "OPERATING SYSTEM COMMAND|OPHIUCHUS|OPPOSITION|OPTICAL DISC|OPTICAL DISC ICON|OPTION KEY",
     "OR WITH DOT INSIDE|ORANGE BOOK|ORANGE HEART|ORANGUTAN|ORIGINAL OF|ORTHODOX CROSS|OSC|OTTER",
     "OUNCE SIGN|OUTBOX TRAY|OVERHEATED FACE|OVERLAP|OVERLINE|OWL|OX|OYSTER|PACKAGE|PAD",
     "PADDING CHARACTER|PAGE|PAGE FACING UP|PAGE WITH CIRCLED TEXT|PAGE WITH CURL|PAGER|PAGES",
     "PAGODA|PALLAS|PALM DOWN HAND|PALM TREE|PALM UP HAND|PALMS UP TOGETHER|PANCAKES|PANDA FACE",
     "PAPERCLIP|PARACHUTE|PARAGRAPH SEPARATOR|PARALLEL TO|PARROT|PART ALTERNATION MARK",
     "PARTIAL DIFFERENTIAL|PARTIALLY-RECYCLED PAPER SYMBOL|PARTY POPPER|PASSENGER SHIP",
     "PASSIVE-PULL-DOWN-OUTPUT SYMBOL|PASSIVE-PULL-UP-OUTPUT SYMBOL|PASSPORT CONTROL|PAW PRINTS",
     "PDF|PDI|PEACE SYMBOL|PEACH|PEACOCK|PEANUTS|PEAR|PEDESTRIAN|PEN OVER STAMPED ENVELOPE",
     "PENCIL|PENGUIN|PENSIVE FACE|PENTAGRAM|PEOPLE HUGGING|PER MILLE SIGN|PER SIGN",
     "PER TEN THOUSAND SIGN|PERCENT SIGN|PERFORMING ARTS|PERMANENT PAPER SIGN|PERPENDICULAR",
     "PERSEVERING FACE|PERSONAL COMPUTER|PERSPECTIVE|PESETA SIGN|PESO SIGN|PETRI DISH|PICK",
     "PICKUP TRUCK|PIE|PIG|PIG FACE|PIG NOSE|PILCROW SIGN|PILE OF POO|PILL|PINATA",
     "PINCHED FINGERS|PINCHING HAND|PINE DECORATION|PINEAPPLE|PINWHEEL STAR|PISCES|PISTOL",
     "PITCHFORK|PLACARD|PLACE OF INTEREST SIGN|PLACE OF WORSHIP|PLANCK CONSTANT",
     "PLANCK CONSTANT OVER TWO PI|PLAYGROUND SLIDE|PLD|PLU|PLUNGER|PLUS SIGN|PLUS-MINUS SIGN",
     "PLUTO|PM|POCKET CALCULATOR|POODLE|POPCORN|PORTABLE STEREO|POSITION INDICATOR|POSTBOX",
     "POT OF FOOD|POTABLE WATER SYMBOL|POTATO|POTTED PLANT|POUCH|POULTRY LEG|POUND SIGN",
     "POURING LIQUID|POUTING CAT FACE|POUTING FACE|PRAYER BEADS|PRECEDES|PRESCRIPTION TAKE",
     "PRETZEL|PREVIOUS PAGE|PRIME|PRINCE|PRINCESS|PRINT SCREEN SYMBOL|PRINTER|PRINTER ICON",
     "PRIVACY MESSAGE|PROBING CANE|PROHIBITED SIGN|PROJECTIVE|PROPERTY LINE|PROPORTION",
     "PROPORTIONAL TO|PU1|PU2|PUBLIC ADDRESS LOUDSPEAKER|PUNCTUATION SPACE|PURPLE HEART|PURSE",
     "PUSHPIN|PUT LITTER IN ITS PLACE SYMBOL|QUADRUPLE PRIME|QUARTER NOTE",
     "QUESTION EXCLAMATION MARK|QUESTION MARK|QUESTIONED EQUAL TO|QUINCUNX|QUOTATION MARK|RABBIT",
     "RABBIT FACE|RACCOON|RACING CAR|RACING MOTORCYCLE|RADICAL SYMBOL BOTTOM|RADIO|RADIO BUTTON",
     "RADIOACTIVE SIGN|RAILWAY CAR|RAILWAY TRACK|RAIN|RAINBOW|RAM|RAT|RATIO|RAZOR|RECEIPT",
     "RECORD SEPARATOR|RECREATIONAL VEHICLE|RECYCLED PAPER SYMBOL|RED APPLE|RED GIFT ENVELOPE",
     "REFERENCE MARK|REGISTERED SIGN|RELIEVED FACE|REMINDER RIBBON|REPLACEMENT CHARACTER",
     "RESPONSE|RESTROOM|RETURN SYMBOL|REVOLVING HEARTS|RHINOCEROS|RI|RIBBON|RICE BALL",
     "RICE CRACKER|RIFLE|RIGHT-HANDED INTERLACED PENTAGRAM|RIGHT-SHADED WHITE RIGHTWARDS ARROW",
     "RING|RINGED PLANET|RINGING BELL|RLE|RLI|RLM|RLO|ROASTED SWEET POTATO|ROBOT FACE|ROCK",
     "ROCKET|ROLL OF PAPER|ROLLED-UP NEWSPAPER|ROLLER COASTER|ROLLER SKATE",
     "ROLLING ON THE FLOOR LAUGHING|ROOSTER|ROSE|ROSETTE|ROUND PUSHPIN|ROWBOAT|RS|RUBLE SIGN",
     "RUGBY FOOTBALL|RUNNER|RUNNING SHIRT WITH SASH|RUPEE SIGN|SAFETY PIN|SAFETY VEST",
     "SAGITTARIUS|SAILBOAT|SAKE BOTTLE AND CUP|SALT SHAKER|SALTIRE|SALUTING FACE|SANDWICH|SARI",
     "SATELLITE|SATELLITE ANTENNA|SATURN|SAUROPOD|SAXOPHONE|SCALES|SCARF|SCHOOL|SCHOOL SATCHEL",
     "SCI|SCOOTER|SCORPION|SCORPIUS|SCREEN|SCREWDRIVER|SCROLL|SCRUPLE|SEAL|SEAT",
     "SECOND PLACE MEDAL|SECTION SIGN|SECTOR|SEE-NO-EVIL MONKEY|SEEDLING|SEGMENT|SELFIE",
     "SEMICOLON|SEMISEXTILE|SERIOUS FACE WITH SYMBOLS COVERING MOUTH|SERVICE MARK|SESAME DOT",
     "SESQUIQUADRATE|SET MINUS|SET TRANSMIT STATE|SEWING NEEDLE|SEXTILE|SGC|SHALLOW PAN OF FOOD",
     "SHAMROCK|SHARK|SHAVED ICE|SHEEP|SHIELD|SHIFT IN|SHIFT OUT|SHINTO SHRINE|SHIP",
     "SHOCKED FACE WITH EXPLODING HEAD|SHOOTING STAR|SHOPPING BAGS|SHOPPING TROLLEY|SHORTCAKE",
     "SHORTS|SHOULDERED OPEN BOX|SHOWER|SHRIMP|SHRUG|SHY|SI|SIGN OF THE HORNS",
     "SILHOUETTE OF JAPAN|SINE WAVE|SINGLE-SHIFT-2|SINGLE-SHIFT-3",
     "SIX PETALLED BLACK AND WHITE FLORETTE|SIX-PER-EM SPACE|SIXTEEN POINTED ASTERISK|SKATEBOARD",
     "SKI AND SKI BOOT|SKIER|SKULL|SKULL AND CROSSBONES|SKUNK|SLED|SLEEPY FACE|SLEUTH OR SPY",
     "SLICE OF PIZZA|SLIGHTLY FROWNING FACE|SLIGHTLY SMILING FACE|SLOPE|SLOT MACHINE|SLOTH|SMILE",
     "SMIRKING FACE|SMOKING SYMBOL|SNAIL|SNAKE|SNEEZING FACE|SNOW CAPPED MOUNTAIN|SNOWBOARDER",
     "SNOWFLAKE|SNOWMAN|SNOWMAN WITHOUT SNOW|SO|SOCCER BALL|SOCKS|SOFT HYPHEN|SOFT ICE CREAM",
     "SOFT SHELL FLOPPY DISK|SOFTBALL|SOFTWARE-FUNCTION SYMBOL|SOH|SOLIDUS|SOM SIGN",
     "SOON WITH RIGHTWARDS ARROW ABOVE|SOS|SOUND RECORDING COPYRIGHT|SP|SPA|SPACE|SPAGHETTI",
     "SPARKLE|SPARKLES|SPARKLING HEART|SPEAK-NO-EVIL MONKEY|SPEAKER|SPEAKING HEAD IN SILHOUETTE",
     "SPEECH BALLOON|SPEEDBOAT|SPESMILO SIGN|SPHERICAL ANGLE|SPIDER|SPIDER WEB",
     "SPLASHING SWEAT SYMBOL|SPONGE|SPOOL OF THREAD|SPOON|SPORTS MEDAL|SPOUTING WHALE",
     "SQUAT BLACK RIGHTWARDS ARROW|SQUID|SS2|SS3|SSA|ST|STADIUM|STAFF OF AESCULAPIUS",
     "STAFF OF HERMES|STAMPED ENVELOPE|STANDING PERSON|STATION|STATUE OF LIBERTY",
     "STEAM LOCOMOTIVE|STEAMING BOWL|STETHOSCOPE|STOCK CHART|STOPWATCH|STRAIGHT RULER",
     "STRAIGHTNESS|STRAWBERRY|STRESS OUTLINED WHITE STAR|STRICTLY EQUIVALENT TO",
     "STRING TERMINATOR|STS|STUDIO MICROPHONE|STUFFED FLATBREAD|STUPA|STX|SUB|SUBSTITUTE",
     "SUCCEEDS|SUMMATION BOTTOM|SUMMATION TOP|SUN|SUN BEHIND CLOUD|SUN WITH FACE|SUNFLOWER",
     "SUNRISE|SUNRISE OVER MOUNTAINS|SUNSET OVER BUILDINGS|SUPERHERO|SUPERVILLAIN",
     "SURFACE INTEGRAL|SURFER|SUSHI|SUSPENSION RAILWAY|SWAN|SWIMMER|SWUNG DASH|SYMMETRY|SYN",
     "SYNAGOGUE|SYNCHRONOUS IDLE|SYRINGE|T-REX|T-SHIRT|TAB|TABLE TENNIS PADDLE AND BALL|TACO",
     "TAKEOUT BOX|TAMALE|TANABATA TREE|TANGERINE|TAPE CARTRIDGE|TAPE DRIVE|TAURUS|TAXI",
     "TEACUP WITHOUT HANDLE|TEAPOT|TEAR-OFF CALENDAR|TEARDROP-BARBED RIGHTWARDS ARROW",
     "TEARDROP-SPOKED ASTERISK|TEDDY BEAR|TELESCOPE|TELEVISION|TENGE SIGN",
     "TENNIS RACQUET AND BALL|TENT|TEST TUBE|THAI CURRENCY SYMBOL BAHT|THERE DOES NOT EXIST",
     "THERE EXISTS|THEREFORE|THERMOMETER|THIN SPACE|THINKING FACE|THIRD PLACE MEDAL|THONG SANDAL",
     "THOUGHT BALLOON|THREE-D BOTTOM-LIGHTED RIGHTWARDS ARROWHEAD",
     "THREE-D TOP-LIGHTED RIGHTWARDS ARROWHEAD|THREE-PER-EM SPACE|THUMBS DOWN SIGN",
     "THUMBS UP SIGN|THUNDER CLOUD AND RAIN|THUNDERSTORM|TICKET|TIGER|TIGER FACE",
     "TIGHT TRIFOLIATE SNOWFLAKE|TILDE|TILDE OPERATOR|TILDE OPERATOR ABOVE LEFTWARDS ARROW",
     "TIMER CLOCK|TIRED FACE|TIRONIAN SIGN ET|TOILET|TOKYO TOWER|TOMATO|TONGUE|TOOLBOX|TOOTH",
     "TOOTHBRUSH|TORTOISE SHELL BRACKETED LATIN CAPITAL LETTER S|TOTAL RUNOUT|TRACKBALL|TRACTOR",
     "TRADE MARK SIGN|TRAIN|TRAM|TRAM CAR|TRIANGLE WITH ROUNDED CORNERS",
     "TRIANGLE-HEADED RIGHTWARDS ARROW|TRICOLON|TRIDENT EMBLEM|TROLL|TROLLEYBUS|TROPHY",
     "TROPICAL DRINK|TROPICAL FISH|TRUE|TRUMPET|TUGRIK SIGN|TULIP|TUMBLER GLASS|TURKEY",
     "TURKISH LIRA SIGN|TURTLE|TWELVE POINTED BLACK STAR|TWISTED RIGHTWARDS ARROWS|UMBRELLA",
     "UMBRELLA ON GROUND|UMBRELLA WITH RAIN DROPS|UNAMUSED FACE|UNDERTIE|UNDO SYMBOL",
     "UNICORN FACE|UNION|UNIT SEPARATOR|UNIVERSAL RECYCLING SYMBOL|UNMARRIED PARTNERSHIP SYMBOL",
     "UPSIDE-DOWN FACE|URANUS|US|VAMPIRE|VERSICLE|VERY MUCH GREATER-THAN|VERY MUCH LESS-THAN",
     "VESTA|VIBRATION MODE|VICTORY HAND|VIDEO CAMERA|VIDEO GAME|VIDEOCASSETTE|VIEWDATA SQUARE",
     "VIOLIN|VIRGO|VOLCANO|VOLLEYBALL|VOLUME INTEGRAL|VT|VTS|WAFFLE|WANING CRESCENT MOON SYMBOL",
     "WANING GIBBOUS MOON SYMBOL|WARNING SIGN|WASTEBASKET|WATCH|WATERMELON",
     "WAVE ARROW POINTING DIRECTLY LEFT|WAVE DASH|WAXING CRESCENT MOON SYMBOL",
     "WAXING GIBBOUS MOON SYMBOL|WEARY CAT FACE|WEARY FACE|WEDDING|WEDGE-TAILED RIGHTWARDS ARROW",
     "WEIERSTRASS ELLIPTIC FUNCTION|WEIGHT LIFTER|WEST SYRIAC CROSS|WHALE|WHEEL|WHEEL OF DHARMA",
     "WHEELCHAIR SYMBOL|WHITE-FEATHERED RIGHTWARDS ARROW|WILTED FLOWER|WIND BLOWING FACE",
     "WIND CHIME|WINDOW|WINE GLASS|WINKING FACE|WIRED KEYBOARD|WJ|WOLF FACE|WOMAN",
     "WOMAN WITH BUNNY EARS|WOMENS SYMBOL|WON SIGN|WOOD|WORD JOINER|WORLD MAP|WORM|WORRIED FACE",
     "WRAPPED PRESENT|WREATH PRODUCT|WRENCH|WRESTLERS|WRITING HAND|X IN A RECTANGLE BOX|X-RAY",
     "XOR|YAWNING FACE|YELLOW HEART|YEN SIGN|YIN YANG|YO-YO|Z NOTATION BAG MEMBERSHIP|ZEBRA FACE",
     "ZIPPER-MOUTH FACE|ZOMBIE|ZWJ|ZWNBSP|ZWNJ|ZWSP"]),
   ("ALMOST EQUAL ", ["OR EQUAL TO|TO"]),
   ("ANTICLOCKWISE ",
    ["CONTOUR INTEGRAL|DOWNWARDS AND UPWARDS OPEN CIRCLE ARROWS|GAPPED CIRCLE ARROW",
     "OPEN CIRCLE ARROW|TOP SEMICIRCLE ARROW"]),
   ("APL FUNCTIONAL SYMBOL ",
    ["ALPHA|ALPHA UNDERBAR|BACKSLASH BAR|COMMA BAR|DEL DIAERESIS|DEL STILE|DEL TILDE|DELTA STILE",
     "DELTA UNDERBAR|DIAMOND UNDERBAR|DOWN CARET TILDE|DOWN SHOE STILE|DOWN TACK JOT",
     "DOWN TACK UNDERBAR|DOWNWARDS VANE|EPSILON UNDERBAR|GREATER-THAN DIAERESIS|I-BEAM|IOTA",
     "IOTA UNDERBAR|JOT DIAERESIS|JOT UNDERBAR|LEFT SHOE STILE|LEFTWARDS VANE|OMEGA",
     "OMEGA UNDERBAR|QUAD|QUOTE QUAD|QUOTE UNDERBAR|RHO|RIGHTWARDS VANE|SEMICOLON UNDERBAR",
     "SLASH BAR|SQUISH QUAD|STAR DIAERESIS|STILE TILDE|TILDE DIAERESIS|UP CARET TILDE",
     "UP SHOE JOT|UP TACK DIAERESIS|UP TACK JOT|UP TACK OVERBAR|UPWARDS VANE|ZILDE"]),
   ("APL FUNCTIONAL SYMBOL CIRCLE ", ["BACKSLASH|DIAERESIS|JOT|STAR|STILE|UNDERBAR"]),
   ("APL FUNCTIONAL SYMBOL QUAD ",
    ["BACKSLASH|CIRCLE|COLON|DEL|DELTA|DIAMOND|DIVIDE|DOWN CARET|DOWNWARDS ARROW|EQUAL",
     "GREATER-THAN|JOT|LEFTWARDS ARROW|LESS-THAN|NOT EQUAL|QUESTION|RIGHTWARDS ARROW|SLASH",
     "UP CARET|UPWARDS ARROW"]),
   ("APPROXIMATELY ", ["BUT NOT ACTUALLY EQUAL TO|EQUAL TO|EQUAL TO OR THE IMAGE OF"]),
   ("ARABIC ",
    ["COMMA|DAMMA|DAMMATAN|DATE SEPARATOR|DECIMAL SEPARATOR|EMPTY CENTRE HIGH STOP",
     "EMPTY CENTRE LOW STOP|END OF AYAH|END OF TEXT MARK|FATHA|FATHA WITH TWO DOTS|FATHATAN",
     "FIVE POINTED STAR|FOOTNOTE MARKER|FULL STOP|HAMZA ABOVE|HAMZA BELOW|INVERTED DAMMA|KASRA",
     "KASRATAN|MADDAH ABOVE|MARK NOON GHUNNA|NUMBER MARK ABOVE|NUMBER SIGN|PERCENT SIGN",
     "PLACE OF SAJDAH|POETIC VERSE SIGN|QUESTION MARK|RAY|REVERSED DAMMA",
     "ROUNDED HIGH STOP WITH FILLED CENTRE|SEMICOLON|SHADDA|START OF RUB EL HIZB|SUBSCRIPT ALEF",
     "SUKUN|TATWEEL|THOUSANDS SEPARATOR|TRIPLE DOT PUNCTUATION MARK|WAVY HAMZA BELOW|ZWARAKAY"]),
   ("ARABIC LETTER ",
    ["AE|AIN|AIN WITH THREE DOTS ABOVE|ALEF|ALEF MAKSURA|ALEF WASLA|BEEH|BEH|BEHEH|DAD",
     "DAD WITH DOT BELOW|DAHAL|DAL|DDAHAL|DDAL|DOTLESS BEH|DOTLESS FEH|DOTLESS QAF|DUL|DYEH|E",
     "FARSI YEH|FEH|FEH WITH DOT BELOW|FEH WITH DOT MOVED BELOW|FEH WITH THREE DOTS BELOW|GAF",
     "GAF WITH RING|GAF WITH THREE DOTS ABOVE|GAF WITH TWO DOTS BELOW|GHAIN|GHAIN WITH DOT BELOW",
     "GUEH|HAH|HAH WITH HAMZA ABOVE|HAH WITH THREE DOTS ABOVE|HAH WITH TWO DOTS VERTICAL ABOVE",
     "HAMZA|HEH|HEH DOACHASHMEE|HEH GOAL|HEH GOAL WITH HAMZA ABOVE|HEH WITH INVERTED V",
     "HEH WITH YEH ABOVE|HIGH HAMZA|HIGH HAMZA ALEF|HIGH HAMZA WAW|HIGH HAMZA YEH|JEEM|JEH|KAF",
     "KAF WITH DOT ABOVE|KAF WITH RING|KAF WITH THREE DOTS BELOW|KASHMIRI YEH|KEHEH",
     "KEHEH WITH THREE DOTS BELOW|KEHEH WITH TWO DOTS ABOVE|KHAH|KIRGHIZ OE|KIRGHIZ YU|LAM|MARK",
     "MEEM|NG|NGOEH|NOON|NOON GHUNNA|NOON WITH DOT BELOW|NOON WITH RING",
     "NOON WITH THREE DOTS ABOVE|NYEH|OE|PEH|PEHEH|QAF|QAF WITH DOT ABOVE",
     "QAF WITH THREE DOTS ABOVE|REH|RNOON|RREH|SAD|SAD WITH THREE DOTS ABOVE",
     "SAD WITH TWO DOTS BELOW|SEEN|SEEN WITH DOT BELOW AND DOT ABOVE|SEEN WITH THREE DOTS BELOW",
     "SEEN WITH THREE DOTS BELOW AND THREE DOTS ABOVE|SHEEN|SHEEN WITH DOT BELOW",
     "SUPERSCRIPT ALEF|SWASH KAF|TAH|TAH WITH THREE DOTS ABOVE|TCHEH|TCHEH WITH DOT ABOVE",
     "TCHEHEH|TEH|TEH MARBUTA|TEH MARBUTA GOAL|TEH WITH RING|TEH WITH THREE DOTS ABOVE DOWNWARDS",
     "TEHEH|THAL|THEH|TTEH|TTEHEH|U|U WITH HAMZA ABOVE|VE|VEH|WAW|YEH|YEH BARREE",
     "YEH BARREE WITH HAMZA ABOVE|YU|ZAH|ZAIN"]),
   ("ARABIC LETTER ALEF WITH ",
    ["HAMZA ABOVE|HAMZA BELOW|MADDA ABOVE|WAVY HAMZA ABOVE|WAVY HAMZA BELOW"]),
   ("ARABIC LETTER DAL WITH ",
    ["DOT BELOW|DOT BELOW AND SMALL TAH|FOUR DOTS ABOVE|INVERTED V|RING",
     "THREE DOTS ABOVE DOWNWARDS"]),
   ("ARABIC LETTER FARSI YEH WITH ", ["INVERTED V|THREE DOTS ABOVE|TWO DOTS ABOVE"]),
   ("ARABIC LETTER LAM WITH ", ["DOT ABOVE|SMALL V|THREE DOTS ABOVE|THREE DOTS BELOW"]),
   ("ARABIC LETTER REH WITH ",
    ["DOT BELOW|DOT BELOW AND DOT ABOVE|FOUR DOTS ABOVE|INVERTED V|RING|SMALL V|SMALL V BELOW",
     "TWO DOTS ABOVE"]),
   ("ARABIC LETTER WAW WITH ", ["DOT ABOVE|HAMZA ABOVE|RING|TWO DOTS ABOVE"]),
   ("ARABIC LETTER YEH WITH ", ["HAMZA ABOVE|SMALL V|TAIL|THREE DOTS BELOW"]),
   ("ARABIC SIGN ",
    ["ALAYHE ASSALLAM|MISRA|RADI ALLAHOU ANHU|RAHMATULLAH ALAYHE|SAFHA",
     "SALLALLAHOU ALAYHE WASSALLAM|SAMVAT|SANAH|SINDHI AMPERSAND|SINDHI POSTPOSITION MEN",
     "TAKHALLUS"]),
   ("ARABIC SMALL ", ["DAMMA|FATHA|KASRA|LOW MEEM|LOW SEEN|WAW|YEH"]),
   ("ARABIC SMALL HIGH ",
    ["DOTLESS HEAD OF KHAH|JEEM|LAM ALEF|LIGATURE ALEF WITH LAM WITH YEH",
     "LIGATURE QAF WITH LAM WITH ALEF MAKSURA|LIGATURE SAD WITH LAM WITH ALEF MAKSURA|MADDA",
     "MEEM INITIAL FORM|MEEM ISOLATED FORM|NOON|ROUNDED ZERO|SEEN|TAH|THREE DOTS",
     "UPRIGHT RECTANGULAR ZERO|YEH|ZAIN"]),
   ("ARABIC VOWEL SIGN ", ["DOT BELOW|INVERTED SMALL V ABOVE|SMALL V ABOVE"]),
   ("ARABIC-INDIC ", ["CUBE ROOT|FOURTH ROOT|PER MILLE SIGN|PER TEN THOUSAND SIGN"]),
   ("ARABIC-INDIC DIGIT ", ["EIGHT|FIVE|FOUR|NINE|ONE|SEVEN|SIX|THREE|TWO|ZERO"]),
   ("ARMENIAN ",
    ["ABBREVIATION MARK|APOSTROPHE|COMMA|DRAM SIGN|EMPHASIS MARK|EXCLAMATION MARK|FULL STOP",
     "HYPHEN|MODIFIER LETTER LEFT HALF RING|QUESTION MARK|SMALL LIGATURE ECH YIWN"]),
   ("ARMENIAN CAPITAL LETTER ",
    ["AYB|BEN|CA|CHA|CHEH|CO|DA|ECH|EH|ET|FEH|GHAD|GIM|HO|INI|JA|JHEH|KEH|KEN|LIWN|MEN|NOW|OH",
     "PEH|PIWR|RA|REH|SEH|SHA|TIWN|TO|VEW|VO|XEH|YI|YIWN|ZA|ZHE"]),
   ("ARMENIAN SMALL LETTER ",
    ["AYB|BEN|CA|CHA|CHEH|CO|DA|ECH|EH|ET|FEH|GHAD|GIM|HO|INI|JA|JHEH|KEH|KEN|LIWN|MEN|NOW|OH",
     "PEH|PIWR|RA|REH|SEH|SHA|TIWN|TO|TURNED AYB|VEW|VO|XEH|YI|YI WITH STROKE|YIWN|ZA|ZHE"]),
   ("BABY ", ["ANGEL|BOTTLE|CHICK|SYMBOL"]),
   ("BACKSLANTED SOUTH ARROW WITH ", ["HOOKED TAIL|HORIZONTAL TAIL"]),
   ("BALLOT ", ["BOLD SCRIPT X|BOX|SCRIPT X|X"]),
   ("BALLOT BOX WITH ", ["BALLOT|BOLD CHECK|BOLD SCRIPT X|CHECK|SCRIPT X|X"]),
   ("BANKNOTE WITH ", ["DOLLAR SIGN|EURO SIGN|POUND SIGN|YEN SIGN"]),
   ("BEAMED ", ["ASCENDING MUSICAL NOTES|DESCENDING MUSICAL NOTES|EIGHTH NOTES|SIXTEENTH NOTES"]),
   ("BLACK ",
    ["CENTRE WHITE STAR|CIRCLE|CIRCLE FOR RECORD|CIRCLE WITH TWO WHITE DOTS",
     "CIRCLE WITH WHITE DOT RIGHT|CLUB SUIT|CROSS ON SHIELD|DIAMOND|DIAMOND MINUS WHITE X",
     "DIAMOND SUIT|DOWN POINTING BACKHAND INDEX|DRAUGHTS KING|DRAUGHTS MAN|DROPLET|FLAG|FLORETTE",
     "FOLDER|FOUR POINTED STAR|HARD SHELL FLOPPY DISK|HEART|HEART SUIT|HEXAGON",
     "HORIZONTAL ELLIPSE|LARGE CIRCLE|LARGE SQUARE|LEFT LANE MERGE|LEFT POINTING BACKHAND INDEX",
     "LEFT POINTING INDEX|LEFTWARDS BULLET|LOWER LEFT TRIANGLE|LOWER RIGHT TRIANGLE|MOON LILITH",
     "NIB|PARALLELOGRAM|PENNANT|PENTAGON|PUSHPIN|QUESTION MARK ORNAMENT|RECTANGLE",
     "RIGHT POINTING BACKHAND INDEX|RIGHT POINTING INDEX|ROSETTE|SAFETY SCISSORS|SCISSORS",
     "SHOGI PIECE|SKULL AND CROSSBONES|SMILING FACE|SNOWMAN|SPADE SUIT|SQUARE|SQUARE BUTTON",
     "SQUARE FOR STOP|STAR|SUN WITH RAYS|TELEPHONE|TOUCHTONE TELEPHONE|TRUCK",
     "TWO-WAY LEFT WAY TRAFFIC|UNIVERSAL RECYCLING SYMBOL|UP POINTING BACKHAND INDEX",
     "UPPER LEFT TRIANGLE|UPPER RIGHT TRIANGLE|VERTICAL ELLIPSE|VERTICAL RECTANGLE",
     "VERY SMALL SQUARE"]),
   ("BLACK CHESS ", ["BISHOP|KING|KNIGHT|PAWN|QUEEN|ROOK"]),
   ("BLACK DOWN-POINTING ", ["DOUBLE TRIANGLE|SMALL TRIANGLE|TRIANGLE"]),
   ("BLACK LEFT-POINTING ",
    ["DOUBLE TRIANGLE|DOUBLE TRIANGLE WITH VERTICAL BAR|POINTER|SMALL TRIANGLE|TRIANGLE"]),
   ("BLACK MEDIUM ",
    ["DIAMOND|DOWN-POINTING TRIANGLE|LEFT-POINTING TRIANGLE|LOZENGE|RIGHT-POINTING TRIANGLE",
     "SMALL SQUARE|SQUARE|UP-POINTING TRIANGLE"]),
   ("BLACK RIGHT-POINTING ",
    ["DOUBLE TRIANGLE|DOUBLE TRIANGLE WITH VERTICAL BAR|PENTAGON|POINTER|SMALL TRIANGLE|TRIANGLE",
     "TRIANGLE WITH DOUBLE VERTICAL BAR"]),
   ("BLACK RIGHTWARDS ", ["ARROW|ARROWHEAD|BULLET"]),
   ("BLACK SMALL ", ["DIAMOND|LOZENGE|SQUARE|STAR"]),
   ("BLACK UP-POINTING ", ["DOUBLE TRIANGLE|SMALL TRIANGLE|TRIANGLE"]),
   ("BLACK-FEATHERED ", ["NORTH EAST ARROW|RIGHTWARDS ARROW|SOUTH EAST ARROW"]),
   ("BLACK-LETTER CAPITAL ", ["C|H|I|R|Z"]),
   ("BOTTOM ",
    ["CURLY BRACKET|HALF INTEGRAL|LEFT CORNER|LEFT CROP|PARENTHESIS|RIGHT CORNER|RIGHT CROP",
     "SQUARE BRACKET|SQUARE BRACKET OVER TOP SQUARE BRACKET|TORTOISE SHELL BRACKET"]),
   ("BOX DRAWINGS ",
    ["LEFT DOWN HEAVY AND RIGHT UP LIGHT|LEFT UP HEAVY AND RIGHT DOWN LIGHT",
     "RIGHT DOWN HEAVY AND LEFT UP LIGHT|RIGHT UP HEAVY AND LEFT DOWN LIGHT"]),
   ("BOX DRAWINGS DOUBLE ",
    ["DOWN AND HORIZONTAL|DOWN AND LEFT|DOWN AND RIGHT|HORIZONTAL|UP AND HORIZONTAL|UP AND LEFT",
     "UP AND RIGHT|VERTICAL|VERTICAL AND HORIZONTAL|VERTICAL AND LEFT|VERTICAL AND RIGHT"]),
   ("BOX DRAWINGS DOWN DOUBLE AND ", ["HORIZONTAL SINGLE|LEFT SINGLE|RIGHT SINGLE"]),
   ("BOX DRAWINGS DOWN HEAVY AND ",
    ["HORIZONTAL LIGHT|LEFT LIGHT|LEFT UP LIGHT|RIGHT LIGHT|RIGHT UP LIGHT|UP HORIZONTAL LIGHT"]),
   ("BOX DRAWINGS DOWN LIGHT AND ",
    ["HORIZONTAL HEAVY|LEFT HEAVY|LEFT UP HEAVY|RIGHT HEAVY|RIGHT UP HEAVY|UP HORIZONTAL HEAVY"]),
   ("BOX DRAWINGS DOWN SINGLE AND ", ["HORIZONTAL DOUBLE|LEFT DOUBLE|RIGHT DOUBLE"]),
   ("BOX DRAWINGS HEAVY ",
    ["DOUBLE DASH HORIZONTAL|DOUBLE DASH VERTICAL|DOWN|DOWN AND HORIZONTAL|DOWN AND LEFT",
     "DOWN AND RIGHT|HORIZONTAL|LEFT|LEFT AND LIGHT RIGHT|QUADRUPLE DASH HORIZONTAL",
     "QUADRUPLE DASH VERTICAL|RIGHT|TRIPLE DASH HORIZONTAL|TRIPLE DASH VERTICAL|UP",
     "UP AND HORIZONTAL|UP AND LEFT|UP AND LIGHT DOWN|UP AND RIGHT|VERTICAL",
     "VERTICAL AND HORIZONTAL|VERTICAL AND LEFT|VERTICAL AND RIGHT"]),
   ("BOX DRAWINGS LEFT HEAVY AND RIGHT ", ["DOWN LIGHT|UP LIGHT|VERTICAL LIGHT"]),
   ("BOX DRAWINGS LEFT LIGHT AND RIGHT ", ["DOWN HEAVY|UP HEAVY|VERTICAL HEAVY"]),
   ("BOX DRAWINGS LIGHT ",
    ["ARC DOWN AND LEFT|ARC DOWN AND RIGHT|ARC UP AND LEFT|ARC UP AND RIGHT|DIAGONAL CROSS",
     "DIAGONAL UPPER LEFT TO LOWER RIGHT|DIAGONAL UPPER RIGHT TO LOWER LEFT",
     "DOUBLE DASH HORIZONTAL|DOUBLE DASH VERTICAL|DOWN|DOWN AND HORIZONTAL|DOWN AND LEFT",
     "DOWN AND RIGHT|HORIZONTAL|LEFT|LEFT AND HEAVY RIGHT|QUADRUPLE DASH HORIZONTAL",
     "QUADRUPLE DASH VERTICAL|RIGHT|TRIPLE DASH HORIZONTAL|TRIPLE DASH VERTICAL|UP",
     "UP AND HEAVY DOWN|UP AND HORIZONTAL|UP AND LEFT|UP AND RIGHT|VERTICAL",
     "VERTICAL AND HORIZONTAL|VERTICAL AND LEFT|VERTICAL AND RIGHT"]),
   ("BOX DRAWINGS RIGHT HEAVY AND LEFT ", ["DOWN LIGHT|UP LIGHT|VERTICAL LIGHT"]),
   ("BOX DRAWINGS RIGHT LIGHT AND LEFT ", ["DOWN HEAVY|UP HEAVY|VERTICAL HEAVY"]),
   ("BOX DRAWINGS UP DOUBLE AND ", ["HORIZONTAL SINGLE|LEFT SINGLE|RIGHT SINGLE"]),
   ("BOX DRAWINGS UP HEAVY AND ",
    ["DOWN HORIZONTAL LIGHT|HORIZONTAL LIGHT|LEFT DOWN LIGHT|LEFT LIGHT|RIGHT DOWN LIGHT",
     "RIGHT LIGHT"]),
   ("BOX DRAWINGS UP LIGHT AND ",
    ["DOWN HORIZONTAL HEAVY|HORIZONTAL HEAVY|LEFT DOWN HEAVY|LEFT HEAVY|RIGHT DOWN HEAVY",
     "RIGHT HEAVY"]),
   ("BOX DRAWINGS UP SINGLE AND ", ["HORIZONTAL DOUBLE|LEFT DOUBLE|RIGHT DOUBLE"]),
   ("BOX DRAWINGS VERTICAL ",
    ["DOUBLE AND HORIZONTAL SINGLE|DOUBLE AND LEFT SINGLE|DOUBLE AND RIGHT SINGLE",
     "HEAVY AND HORIZONTAL LIGHT|HEAVY AND LEFT LIGHT|HEAVY AND RIGHT LIGHT",
     "LIGHT AND HORIZONTAL HEAVY|LIGHT AND LEFT HEAVY|LIGHT AND RIGHT HEAVY",
     "SINGLE AND HORIZONTAL DOUBLE|SINGLE AND LEFT DOUBLE|SINGLE AND RIGHT DOUBLE"]),
   ("BROKEN ", ["BAR|CIRCLE WITH NORTHWEST ARROW|HEART"]),
   ("CAT FACE WITH ", ["TEARS OF JOY|WRY SMILE"]),
   ("CENTRELINE ", ["LOW LINE|OVERLINE"]),
   ("CHARACTER ", ["TABULATION|TABULATION SET|TABULATION WITH JUSTIFICATION|TIE"]),
   ("CHART WITH ", ["DOWNWARDS TREND|UPWARDS TREND|UPWARDS TREND AND YEN SIGN"]),
   ("CIRCLE WITH ",
    ["ALL BUT UPPER LEFT QUADRANT BLACK|LEFT HALF BLACK|LOWER HALF BLACK|RIGHT HALF BLACK",
     "UPPER HALF BLACK|UPPER RIGHT QUADRANT BLACK|VERTICAL FILL"]),
   ("CIRCLED ",
    ["ANTICLOCKWISE ARROW|ASTERISK OPERATOR|C WITH OVERLAID BACKSLASH|CC|CD|CROSS FORMEE",
     "CROSS FORMEE WITH FOUR DOTS|CROSS FORMEE WITH TWO DOTS|CROSS POMMEE|CROSSING LANES|DASH",
     "DIVISION SLASH|DOLLAR SIGN WITH OVERLAID BACKSLASH|DOT OPERATOR|EQUALS",
     "HEAVY WHITE RIGHTWARDS ARROW|HORIZONTAL BAR WITH NOTCH|HUMAN FIGURE|IDEOGRAPH ACCEPT",
     "IDEOGRAPH ADVANTAGE|INFORMATION SOURCE|MINUS|OPEN CENTRE EIGHT POINTED STAR|PLUS",
     "POSTAL MARK|RING OPERATOR|TIMES|TRIANGLE DOWN|WHITE STAR|WZ|ZERO WITH SLASH"]),
   ("CIRCLED DIGIT ", ["EIGHT|FIVE|FOUR|NINE|ONE|SEVEN|SIX|THREE|TWO|ZERO"]),
   ("CIRCLED ITALIC LATIN CAPITAL LETTER ", ["C|R"]),
   ("CIRCLED LATIN CAPITAL LETTER ", ["A|B|C|D|E|F|G|H|I|J|K|L|M|N|O|P|Q|R|S|T|U|V|W|X|Y|Z"]),
   ("CIRCLED LATIN SMALL LETTER ", ["A|B|C|D|E|F|G|H|I|J|K|L|M|N|O|P|Q|R|S|T|U|V|W|X|Y|Z"]),
   ("CIRCLED NUMBER ",
    ["EIGHTEEN|ELEVEN|FIFTEEN|FOURTEEN|NINETEEN|SEVENTEEN|SIXTEEN|TEN|THIRTEEN|TWELVE|TWENTY"]),
   ("CLOCK FACE ",
    ["EIGHT OCLOCK|EIGHT-THIRTY|ELEVEN OCLOCK|ELEVEN-THIRTY|FIVE OCLOCK|FIVE-THIRTY|FOUR OCLOCK",
     "FOUR-THIRTY|NINE OCLOCK|NINE-THIRTY|ONE OCLOCK|ONE-THIRTY|SEVEN OCLOCK|SEVEN-THIRTY",
     "SIX OCLOCK|SIX-THIRTY|TEN OCLOCK|TEN-THIRTY|THREE OCLOCK|THREE-THIRTY|TWELVE OCLOCK",
     "TWELVE-THIRTY|TWO OCLOCK|TWO-THIRTY"]),
   ("CLOCKWISE ",
    ["CONTOUR INTEGRAL|DOWNWARDS AND UPWARDS OPEN CIRCLE ARROWS|GAPPED CIRCLE ARROW|INTEGRAL",
     "OPEN CIRCLE ARROW|RIGHT AND LEFT SEMICIRCLE ARROWS|TOP SEMICIRCLE ARROW"]),
   ("CLOCKWISE RIGHTWARDS AND LEFTWARDS OPEN CIRCLE ", ["ARROWS|ARROWS WITH CIRCLED ONE OVERLAY"]),
   ("CLOSED ", ["BOOK|LOCK WITH KEY|MAILBOX WITH LOWERED FLAG|MAILBOX WITH RAISED FLAG|UMBRELLA"]),
   ("CLOUD WITH ", ["LIGHTNING|RAIN|SNOW|TORNADO"]),
   ("COMBINING ",
    ["ACUTE ACCENT|ACUTE ACCENT BELOW|ACUTE TONE MARK|ALMOST EQUAL TO ABOVE|ASTERISK BELOW|BREVE",
     "BREVE BELOW|BRIDGE ABOVE|BRIDGE BELOW|CANDRABINDU|CARON|CARON BELOW|CEDILLA",
     "CIRCUMFLEX ACCENT|CIRCUMFLEX ACCENT BELOW|COMMA ABOVE|COMMA ABOVE RIGHT|COMMA BELOW",
     "DIAERESIS|DIAERESIS BELOW|DOT ABOVE|DOT ABOVE RIGHT|DOT BELOW|DOWN TACK BELOW",
     "EQUALS SIGN BELOW|FERMATA|GRAPHEME JOINER|GRAVE ACCENT|GRAVE ACCENT BELOW|GRAVE TONE MARK",
     "GREEK DIALYTIKA TONOS|GREEK KORONIS|GREEK PERISPOMENI|GREEK YPOGEGRAMMENI|HOMOTHETIC ABOVE",
     "HOOK ABOVE|HORN|KATAKANA-HIRAGANA SEMI-VOICED SOUND MARK",
     "KATAKANA-HIRAGANA VOICED SOUND MARK|LONG SOLIDUS OVERLAY|LONG STROKE OVERLAY|LOW LINE",
     "MACRON|MACRON BELOW|MINUS SIGN BELOW|NOT TILDE ABOVE|OGONEK|OVERLINE",
     "PALATALIZED HOOK BELOW|PLUS SIGN BELOW|RETROFLEX HOOK BELOW|REVERSED COMMA ABOVE",
     "RIGHT HALF RING ABOVE|RIGHT HALF RING BELOW|RIGHT TACK BELOW|RING ABOVE|RING BELOW",
     "SEAGULL BELOW|SHORT SOLIDUS OVERLAY|SHORT STROKE OVERLAY|SQUARE BELOW|TILDE|TILDE BELOW",
     "TILDE OVERLAY|TURNED COMMA ABOVE|UP TACK BELOW|UPWARDS ARROW BELOW|VERTICAL LINE ABOVE",
     "VERTICAL LINE BELOW|VERTICAL TILDE|X ABOVE|X BELOW|ZIGZAG ABOVE"]),
   ("COMBINING CYRILLIC ",
    ["DASIA PNEUMATA|HUNDRED THOUSANDS SIGN|MILLIONS SIGN|PALATALIZATION|POKRYTIE|PSILI PNEUMATA",
     "TITLO"]),
   ("COMBINING DOUBLE ",
    ["ACUTE ACCENT|BREVE|BREVE BELOW|GRAVE ACCENT|INVERTED BREVE|LOW LINE|MACRON|MACRON BELOW",
     "OVERLINE|RIGHTWARDS ARROW BELOW|RING BELOW|TILDE|VERTICAL LINE ABOVE|VERTICAL LINE BELOW"]),
   ("COMBINING INVERTED ", ["BREVE|BREVE BELOW|BRIDGE BELOW|DOUBLE ARCH BELOW"]),
   ("COMBINING LATIN SMALL LETTER ", ["A|C|D|E|H|I|M|O|R|T|U|V|X"]),
   ("COMBINING LEFT ",
    ["ANGLE ABOVE|ANGLE BELOW|ARROWHEAD BELOW|HALF RING ABOVE|HALF RING BELOW|RIGHT ARROW BELOW",
     "TACK BELOW"]),
   ("COMBINING RIGHT ARROWHEAD ", ["ABOVE|AND UP ARROWHEAD BELOW|BELOW"]),
   ("COMMERCIAL ", ["AT|MINUS SIGN"]),
   ("CONSTRUCTION ", ["SIGN|WORKER"]),
   ("CONTAINS ",
    ["AS MEMBER|AS NORMAL SUBGROUP|AS NORMAL SUBGROUP OR EQUAL TO|WITH LONG HORIZONTAL STROKE",
     "WITH OVERBAR|WITH VERTICAL BAR AT END OF HORIZONTAL STROKE"]),
   ("COPTIC CAPITAL LETTER ", ["DEI|FEI|GANGIA|HORI|KHEI|SHEI|SHIMA"]),
   ("COPTIC SMALL LETTER ", ["DEI|FEI|GANGIA|HORI|KHEI|SHEI|SHIMA"]),
   ("CROSS ", ["MARK|OF JERUSALEM|OF LORRAINE|POMMEE|POMMEE WITH HALF-CIRCLE BELOW"]),
   ("CROSSED ", ["FLAGS|NEGATIVE SQUARED LATIN CAPITAL LETTER P|SWORDS"]),
   ("CURLY ", ["BRACKET EXTENSION|LOGICAL AND|LOGICAL OR|LOOP"]),
   ("CYRILLIC CAPITAL LETTER ",
    ["A|A WITH BREVE|A WITH DIAERESIS|ABKHASIAN CHE|ABKHASIAN CHE WITH DESCENDER|ABKHASIAN DZE",
     "ABKHASIAN HA|ALEUT KA|BARRED O|BARRED O WITH DIAERESIS|BASHKIR KA|BE|BIG YUS",
     "BYELORUSSIAN-UKRAINIAN I|CHE|CHE WITH DESCENDER|CHE WITH DIAERESIS",
     "CHE WITH VERTICAL STROKE|DCHE|DE|DJE|DZE|DZHE|DZZHE|E|E WITH DIAERESIS|EF|EL",
     "EL WITH DESCENDER|EL WITH HOOK|EL WITH MIDDLE HOOK|EL WITH TAIL|EM|EM WITH TAIL|EN",
     "EN WITH DESCENDER|EN WITH HOOK|EN WITH LEFT HOOK|EN WITH MIDDLE HOOK|EN WITH TAIL|ER",
     "ER WITH TICK|ES|ES WITH DESCENDER|FITA|GHE|GJE|HA|HA WITH DESCENDER|HA WITH HOOK",
     "HA WITH STROKE|HARD SIGN|I|I WITH DIAERESIS|I WITH GRAVE|I WITH MACRON|IE|IE WITH BREVE",
     "IE WITH GRAVE|IO|IOTIFIED BIG YUS|IOTIFIED E|IOTIFIED LITTLE YUS|IZHITSA",
     "IZHITSA WITH DOUBLE GRAVE ACCENT|JE|KA|KA WITH DESCENDER|KA WITH HOOK|KA WITH STROKE",
     "KA WITH VERTICAL STROKE|KHAKASSIAN CHE|KJE|KOPPA|KSI|LHA|LITTLE YUS|LJE|NJE|O",
     "O WITH DIAERESIS|OMEGA|OMEGA WITH TITLO|OT|PE|PE WITH DESCENDER|PE WITH MIDDLE HOOK|PSI|QA",
     "REVERSED ZE|RHA|ROUND OMEGA|SCHWA|SCHWA WITH DIAERESIS|SEMISOFT SIGN|SHA|SHCHA|SHHA",
     "SHHA WITH DESCENDER|SHORT I|SHORT I WITH TAIL|SHORT U|SOFT SIGN|STRAIGHT U",
     "STRAIGHT U WITH STROKE|TE|TE WITH DESCENDER|TSE|TSHE|U|U WITH DIAERESIS",
     "U WITH DOUBLE ACUTE|U WITH MACRON|UK|UKRAINIAN IE|VE|WE|YA|YAE|YAT|YERU",
     "YERU WITH DIAERESIS|YI|YU|ZE|ZE WITH DESCENDER|ZE WITH DIAERESIS|ZHE|ZHE WITH BREVE",
     "ZHE WITH DESCENDER|ZHE WITH DIAERESIS"]),
   ("CYRILLIC CAPITAL LETTER GHE WITH ", ["DESCENDER|MIDDLE HOOK|STROKE|STROKE AND HOOK|UPTURN"]),
   ("CYRILLIC CAPITAL LETTER KOMI ", ["DE|DJE|DZJE|LJE|NJE|SJE|TJE|ZJE"]),
   ("CYRILLIC CAPITAL LIGATURE ", ["A IE|EN GHE|TE TSE"]),
   ("CYRILLIC SMALL LETTER ",
    ["A|A WITH BREVE|A WITH DIAERESIS|ABKHASIAN CHE|ABKHASIAN CHE WITH DESCENDER|ABKHASIAN DZE",
     "ABKHASIAN HA|ALEUT KA|BARRED O|BARRED O WITH DIAERESIS|BASHKIR KA|BE|BIG YUS",
     "BYELORUSSIAN-UKRAINIAN I|CHE|CHE WITH DESCENDER|CHE WITH DIAERESIS",
     "CHE WITH VERTICAL STROKE|DCHE|DE|DJE|DZE|DZHE|DZZHE|E|E WITH DIAERESIS|EF|EL",
     "EL WITH DESCENDER|EL WITH HOOK|EL WITH MIDDLE HOOK|EL WITH TAIL|EM|EM WITH TAIL|EN",
     "EN WITH DESCENDER|EN WITH HOOK|EN WITH LEFT HOOK|EN WITH MIDDLE HOOK|EN WITH TAIL|ER",
     "ER WITH TICK|ES|ES WITH DESCENDER|FITA|GHE|GJE|HA|HA WITH DESCENDER|HA WITH HOOK",
     "HA WITH STROKE|HARD SIGN|I|I WITH DIAERESIS|I WITH GRAVE|I WITH MACRON|IE|IE WITH BREVE",
     "IE WITH GRAVE|IO|IOTIFIED BIG YUS|IOTIFIED E|IOTIFIED LITTLE YUS|IZHITSA",
     "IZHITSA WITH DOUBLE GRAVE ACCENT|JE|KA|KA WITH DESCENDER|KA WITH HOOK|KA WITH STROKE",
     "KA WITH VERTICAL STROKE|KHAKASSIAN CHE|KJE|KOPPA|KSI|LHA|LITTLE YUS|LJE|NJE|O",
     "O WITH DIAERESIS|OMEGA|OMEGA WITH TITLO|OT|PALOCHKA|PE|PE WITH DESCENDER",
     "PE WITH MIDDLE HOOK|PSI|QA|REVERSED ZE|RHA|ROUND OMEGA|SCHWA|SCHWA WITH DIAERESIS",
     "SEMISOFT SIGN|SHA|SHCHA|SHHA|SHHA WITH DESCENDER|SHORT I|SHORT I WITH TAIL|SHORT U",
     "SOFT SIGN|STRAIGHT U|STRAIGHT U WITH STROKE|TE|TE WITH DESCENDER|TSE|TSHE|U",
     "U WITH DIAERESIS|U WITH DOUBLE ACUTE|U WITH MACRON|UK|UKRAINIAN IE|VE|WE|YA|YAE|YAT|YERU",
     "YERU WITH DIAERESIS|YI|YU|ZE|ZE WITH DESCENDER|ZE WITH DIAERESIS|ZHE|ZHE WITH BREVE",
     "ZHE WITH DESCENDER|ZHE WITH DIAERESIS"]),
   ("CYRILLIC SMALL LETTER GHE WITH ", ["DESCENDER|MIDDLE HOOK|STROKE|STROKE AND HOOK|UPTURN"]),
   ("CYRILLIC SMALL LETTER KOMI ", ["DE|DJE|DZJE|LJE|NJE|SJE|TJE|ZJE"]),
   ("CYRILLIC SMALL LIGATURE ", ["A IE|EN GHE|TE TSE"]),
   ("DASHED ", ["LOW LINE|OVERLINE|TRIANGLE-HEADED RIGHTWARDS ARROW"]),
   ("DEGREE ", ["CELSIUS|FAHRENHEIT|SIGN"]),
   ("DENTISTRY SYMBOL LIGHT ", ["DOWN AND HORIZONTAL|UP AND HORIZONTAL"]),
   ("DENTISTRY SYMBOL LIGHT DOWN AND HORIZONTAL WITH ", ["CIRCLE|TRIANGLE|WAVE"]),
   ("DENTISTRY SYMBOL LIGHT UP AND HORIZONTAL WITH ", ["CIRCLE|TRIANGLE|WAVE"]),
   ("DENTISTRY SYMBOL LIGHT VERTICAL ",
    ["AND BOTTOM LEFT|AND BOTTOM RIGHT|AND TOP LEFT|AND TOP RIGHT|AND WAVE|WITH CIRCLE",
     "WITH TRIANGLE"]),
   ("DEVANAGARI ",
    ["ABBREVIATION SIGN|ACUTE ACCENT|DANDA|DOUBLE DANDA|GRAVE ACCENT|OM|STRESS SIGN ANUDATTA",
     "STRESS SIGN UDATTA"]),
   ("DEVANAGARI DIGIT ", ["EIGHT|FIVE|FOUR|NINE|ONE|SEVEN|SIX|THREE|TWO|ZERO"]),
   ("DEVANAGARI LETTER ",
    ["A|AA|AI|AU|AW|BA|BBA|BHA|CA|CANDRA A|CANDRA E|CANDRA O|CHA|DA|DDA|DDDA|DDDHA|DDHA|DHA|E|FA",
     "GA|GGA|GHA|GHHA|GLOTTAL STOP|HA|HEAVY YA|I|II|JA|JHA|JJA|KA|KHA|KHHA|LA|LLA|LLLA|MA",
     "MARWARI DDA|NA|NGA|NNA|NNNA|NYA|O|OE|OOE|PA|PHA|QA|RA|RHA|RRA|SA|SHA|SHORT A|SHORT E",
     "SHORT O|SSA|TA|THA|TTA|TTHA|U|UE|UU|UUE|VA|VOCALIC L|VOCALIC LL|VOCALIC R|VOCALIC RR|YA",
     "YYA|ZA|ZHA"]),
   ("DEVANAGARI SIGN ",
    ["ANUSVARA|AVAGRAHA|CANDRABINDU|HIGH SPACING DOT|INVERTED CANDRABINDU|NUKTA|VIRAMA|VISARGA"]),
   ("DEVANAGARI VOWEL SIGN ",
    ["AA|AI|AU|AW|CANDRA E|CANDRA LONG E|CANDRA O|E|I|II|O|OE|OOE|PRISHTHAMATRA E|SHORT E",
     "SHORT O|U|UE|UU|UUE|VOCALIC L|VOCALIC LL|VOCALIC R|VOCALIC RR"]),
   ("DEVICE CONTROL ", ["FOUR|ONE|STRING|THREE|TWO"]),
   ("DIAMOND ",
    ["OPERATOR|SHAPE WITH A DOT INSIDE|WITH BOTTOM HALF BLACK|WITH LEFT HALF BLACK",
     "WITH RIGHT HALF BLACK|WITH TOP HALF BLACK"]),
   ("DIE ", ["FACE-1|FACE-2|FACE-3|FACE-4|FACE-5|FACE-6"]),
   ("DIGIT ",
    ["EIGHT|EIGHT COMMA|EIGHT FULL STOP|FIVE|FIVE COMMA|FIVE FULL STOP|FOUR|FOUR COMMA",
     "FOUR FULL STOP|NINE|NINE COMMA|NINE FULL STOP|ONE|ONE COMMA|ONE FULL STOP|SEVEN",
     "SEVEN COMMA|SEVEN FULL STOP|SIX|SIX COMMA|SIX FULL STOP|THREE|THREE COMMA|THREE FULL STOP",
     "TWO|TWO COMMA|TWO FULL STOP|ZERO|ZERO COMMA|ZERO FULL STOP"]),
   ("DIGRAM FOR ", ["GREATER YANG|GREATER YIN|LESSER YANG|LESSER YIN"]),
   ("DINGBAT CIRCLED SANS-SERIF DIGIT ", ["EIGHT|FIVE|FOUR|NINE|ONE|SEVEN|SIX|THREE|TWO|ZERO"]),
   ("DINGBAT NEGATIVE CIRCLED ", ["NUMBER TEN|SANS-SERIF NUMBER TEN"]),
   ("DINGBAT NEGATIVE CIRCLED DIGIT ", ["EIGHT|FIVE|FOUR|NINE|ONE|SEVEN|SIX|THREE|TWO"]),
   ("DINGBAT NEGATIVE CIRCLED SANS-SERIF DIGIT ",
    ["EIGHT|FIVE|FOUR|NINE|ONE|SEVEN|SIX|THREE|TWO|ZERO"]),
   ("DISAPPOINTED ", ["BUT RELIEVED FACE|FACE"]),
   ("DIVISION ", ["SIGN|SLASH|TIMES"]),
   ("DOCUMENT WITH ", ["PICTURE|TEXT|TEXT AND PICTURE"]),
   ("DOES NOT ", ["DIVIDE|FORCE|PRECEDE|PRECEDE OR EQUAL|PROVE|SUCCEED|SUCCEED OR EQUAL"]),
   ("DOES NOT CONTAIN AS ", ["MEMBER|NORMAL SUBGROUP|NORMAL SUBGROUP OR EQUAL"]),
   ("DOMINO TILE ",
    ["HORIZONTAL BACK|HORIZONTAL-00-00|HORIZONTAL-00-01|HORIZONTAL-00-02|HORIZONTAL-00-03",
     "HORIZONTAL-00-04|HORIZONTAL-00-05|HORIZONTAL-00-06|HORIZONTAL-01-00|HORIZONTAL-01-01",
     "HORIZONTAL-01-02|HORIZONTAL-01-03|HORIZONTAL-01-04|HORIZONTAL-01-05|HORIZONTAL-01-06",
     "HORIZONTAL-02-00|HORIZONTAL-02-01|HORIZONTAL-02-02|HORIZONTAL-02-03|HORIZONTAL-02-04",
     "HORIZONTAL-02-05|HORIZONTAL-02-06|HORIZONTAL-03-00|HORIZONTAL-03-01|HORIZONTAL-03-02",
     "HORIZONTAL-03-03|HORIZONTAL-03-04|HORIZONTAL-03-05|HORIZONTAL-03-06|HORIZONTAL-04-00",
     "HORIZONTAL-04-01|HORIZONTAL-04-02|HORIZONTAL-04-03|HORIZONTAL-04-04|HORIZONTAL-04-05",
     "HORIZONTAL-04-06|HORIZONTAL-05-00|HORIZONTAL-05-01|HORIZONTAL-05-02|HORIZONTAL-05-03",
     "HORIZONTAL-05-04|HORIZONTAL-05-05|HORIZONTAL-05-06|HORIZONTAL-06-00|HORIZONTAL-06-01",
     "HORIZONTAL-06-02|HORIZONTAL-06-03|HORIZONTAL-06-04|HORIZONTAL-06-05|HORIZONTAL-06-06",
     "VERTICAL BACK|VERTICAL-00-00|VERTICAL-00-01|VERTICAL-00-02|VERTICAL-00-03|VERTICAL-00-04",
     "VERTICAL-00-05|VERTICAL-00-06|VERTICAL-01-00|VERTICAL-01-01|VERTICAL-01-02|VERTICAL-01-03",
     "VERTICAL-01-04|VERTICAL-01-05|VERTICAL-01-06|VERTICAL-02-00|VERTICAL-02-01|VERTICAL-02-02",
     "VERTICAL-02-03|VERTICAL-02-04|VERTICAL-02-05|VERTICAL-02-06|VERTICAL-03-00|VERTICAL-03-01",
     "VERTICAL-03-02|VERTICAL-03-03|VERTICAL-03-04|VERTICAL-03-05|VERTICAL-03-06|VERTICAL-04-00",
     "VERTICAL-04-01|VERTICAL-04-02|VERTICAL-04-03|VERTICAL-04-04|VERTICAL-04-05|VERTICAL-04-06",
     "VERTICAL-05-00|VERTICAL-05-01|VERTICAL-05-02|VERTICAL-05-03|VERTICAL-05-04|VERTICAL-05-05",
     "VERTICAL-05-06|VERTICAL-06-00|VERTICAL-06-01|VERTICAL-06-02|VERTICAL-06-03|VERTICAL-06-04",
     "VERTICAL-06-05|VERTICAL-06-06"]),
   ("DOT ", ["ABOVE|MINUS|OPERATOR|PLUS"]),
   ("DOTTED ", ["CIRCLE|CROSS|LINE FACE|SQUARE"]),
   ("DOUBLE ",
    ["ACUTE ACCENT|CIRCLED NUMBER TEN|CURLY LOOP|DAGGER|EXCLAMATION MARK",
     "HIGH-REVERSED-9 QUOTATION MARK|INTEGRAL|INTERSECTION|LOW LINE|LOW-9 QUOTATION MARK|PRIME",
     "PRIME QUOTATION MARK|QUESTION MARK|SUBSET|SUPERSET|UNION|WAVY OVERLINE"]),
   ("DOUBLE CIRCLED DIGIT ", ["EIGHT|FIVE|FOUR|NINE|ONE|SEVEN|SIX|THREE|TWO"]),
   ("DOUBLE VERTICAL ", ["BAR|BAR DOUBLE RIGHT TURNSTILE|LINE"]),
   ("DOUBLE-STRUCK ", ["ITALIC CAPITAL D|N-ARY SUMMATION|SMALL GAMMA|SMALL PI"]),
   ("DOUBLE-STRUCK CAPITAL ", ["C|GAMMA|H|N|P|PI|Q|R|Z"]),
   ("DOUBLE-STRUCK ITALIC SMALL ", ["D|E|I|J"]),
   ("DOWN-POINTING ", ["RED TRIANGLE|SMALL RED TRIANGLE"]),
   ("DOWNWARD FACING ", ["HOOK|HOOK WITH DOT|NOTCHED HOOK|NOTCHED HOOK WITH DOT"]),
   ("DOWNWARDS ",
    ["ARROW|ARROW FROM BAR|ARROW LEFTWARDS OF UPWARDS ARROW|BLACK ARROW|DASHED ARROW",
     "DOUBLE ARROW|HARPOON WITH BARB LEFTWARDS|HARPOON WITH BARB RIGHTWARDS|PAIRED ARROWS",
     "QUADRUPLE ARROW|TRIANGLE-HEADED ZIGZAG ARROW|TWO HEADED ARROW|WHITE ARROW|ZIGZAG ARROW"]),
   ("DOWNWARDS ARROW WITH ", ["CORNER LEFTWARDS|DOUBLE STROKE|TIP LEFTWARDS|TIP RIGHTWARDS"]),
   ("EARTH GLOBE ", ["AMERICAS|ASIA-AUSTRALIA|EUROPE-AFRICA"]),
   ("EIGHT ",
    ["PETALLED OUTLINED BLACK FLORETTE|POINTED BLACK STAR|POINTED PINWHEEL STAR",
     "POINTED RECTILINEAR BLACK STAR|SPOKED ASTERISK|TEARDROP-SPOKED PROPELLER ASTERISK"]),
   ("ELECTRIC ", ["ARROW|LIGHT BULB|PLUG|TORCH"]),
   ("ELEMENT OF WITH ",
    ["DOT ABOVE|LONG HORIZONTAL STROKE|OVERBAR|TWO HORIZONTAL STROKES|UNDERBAR",
     "VERTICAL BAR AT END OF HORIZONTAL STROKE"]),
   ("EMOJI COMPONENT ", ["BALD|CURLY HAIR|RED HAIR|WHITE HAIR"]),
   ("EMOJI MODIFIER FITZPATRICK ", ["TYPE-1-2|TYPE-3|TYPE-4|TYPE-5|TYPE-6"]),
   ("EMPTY ", ["DOCUMENT|NEST|NOTE|NOTE PAD|NOTE PAGE|PAGE|PAGES|SET"]),
   ("END OF ",
    ["GUARDED AREA|LINE|MEDIUM|PROOF|PROTECTED AREA|SELECTED AREA|TEXT|TRANSMISSION",
     "TRANSMISSION BLOCK"]),
   ("ENVELOPE WITH ", ["DOWNWARDS ARROW ABOVE|LIGHTNING"]),
   ("EQUAL TO OR ", ["GREATER-THAN|LESS-THAN|PRECEDES|SUCCEEDS"]),
   ("EQUALS ", ["COLON|SIGN|SIGN ABOVE LEFTWARDS ARROW"]),
   ("ERASE TO THE ", ["LEFT|RIGHT"]),
   ("EXCLAMATION ", ["MARK|QUESTION MARK"]),
   ("EXTENDED ARABIC-INDIC DIGIT ", ["EIGHT|FIVE|FOUR|NINE|ONE|SEVEN|SIX|THREE|TWO|ZERO"]),
   ("FACE ",
    ["HOLDING BACK TEARS|MASSAGE|PALM|SAVOURING DELICIOUS FOOD|SCREAMING IN FEAR|THROWING A KISS",
     "WITHOUT MOUTH"]),
   ("FACE WITH ",
    ["COLD SWEAT|COWBOY HAT|DIAGONAL MOUTH|FINGER COVERING CLOSED LIPS|HEAD-BANDAGE",
     "LOOK OF TRIUMPH|MEDICAL MASK|MONOCLE|NO GOOD GESTURE|OK GESTURE|ONE EYEBROW RAISED",
     "OPEN EYES AND HAND OVER MOUTH|OPEN MOUTH|OPEN MOUTH AND COLD SWEAT|OPEN MOUTH VOMITING",
     "PARTY HORN AND PARTY HAT|PEEKING EYE|PLEADING EYES|ROLLING EYES|STUCK-OUT TONGUE",
     "TEARS OF JOY|THERMOMETER|UNEVEN EYES AND WAVY MOUTH"]),
   ("FACE WITH STUCK-OUT TONGUE AND ", ["TIGHTLY-CLOSED EYES|WINKING EYE"]),
   ("FIRST QUARTER ", ["MOON|MOON SYMBOL|MOON WITH FACE"]),
   ("FLYING ", ["DISC|ENVELOPE|SAUCER"]),
   ("FOUR ",
    ["BALLOON-SPOKED ASTERISK|CLUB-SPOKED ASTERISK|DOT MARK|DOT PUNCTUATION|LEAF CLOVER",
     "TEARDROP-SPOKED ASTERISK"]),
   ("FRAME WITH ", ["AN X|PICTURE|TILES"]),
   ("FULL ", ["BLOCK|MOON SYMBOL|MOON WITH FACE|OUTER JOIN|STOP"]),
   ("FULLWIDTH ",
    ["AMPERSAND|APOSTROPHE|ASTERISK|BROKEN BAR|CENT SIGN|CIRCUMFLEX ACCENT|COLON|COMMA",
     "COMMERCIAL AT|DOLLAR SIGN|EQUALS SIGN|EXCLAMATION MARK|FULL STOP|GRAVE ACCENT",
     "GREATER-THAN SIGN|HYPHEN-MINUS|LEFT CURLY BRACKET|LEFT PARENTHESIS|LEFT SQUARE BRACKET",
     "LEFT WHITE PARENTHESIS|LESS-THAN SIGN|LOW LINE|MACRON|NOT SIGN|NUMBER SIGN|PERCENT SIGN",
     "PLUS SIGN|POUND SIGN|QUESTION MARK|QUOTATION MARK|REVERSE SOLIDUS|RIGHT CURLY BRACKET",
     "RIGHT PARENTHESIS|RIGHT SQUARE BRACKET|RIGHT WHITE PARENTHESIS|SEMICOLON|SOLIDUS|TILDE",
     "VERTICAL LINE|WON SIGN|YEN SIGN"]),
   ("FULLWIDTH DIGIT ", ["EIGHT|FIVE|FOUR|NINE|ONE|SEVEN|SIX|THREE|TWO|ZERO"]),
   ("FULLWIDTH LATIN CAPITAL LETTER ", ["A|B|C|D|E|F|G|H|I|J|K|L|M|N|O|P|Q|R|S|T|U|V|W|X|Y|Z"]),
   ("FULLWIDTH LATIN SMALL LETTER ", ["A|B|C|D|E|F|G|H|I|J|K|L|M|N|O|P|Q|R|S|T|U|V|W|X|Y|Z"]),
   ("GEOMETRICALLY ", ["EQUAL TO|EQUIVALENT TO"]),
   ("GEORGIAN CAPITAL LETTER ",
    ["AEN|AN|BAN|CAN|CHAR|CHIN|CIL|DON|EN|GAN|GHAN|HAE|HAR|HE|HIE|HOE|IN|JHAN|JIL|KAN|KHAR|LAS",
     "MAN|NAR|ON|PAR|PHAR|QAR|RAE|SAN|SHIN|TAN|TAR|UN|VIN|WE|XAN|YN|ZEN|ZHAR"]),
   ("GEORGIAN LETTER ",
    ["AEN|AIN|AN|BAN|CAN|CHAR|CHIN|CIL|DON|ELIFI|EN|FI|GAN|GHAN|HAE|HAR|HARD SIGN|HE|HIE|HOE|IN",
     "JHAN|JIL|KAN|KHAR|LABIAL SIGN|LAS|MAN|NAR|ON|PAR|PHAR|QAR|RAE|SAN|SHIN|TAN|TAR|TURNED GAN",
     "UN|VIN|WE|XAN|YN|ZEN|ZHAR"]),
   ("GREATER-THAN ",
    ["BUT NOT EQUAL TO|BUT NOT EQUIVALENT TO|EQUAL TO OR LESS-THAN|OR EQUAL TO|OR EQUIVALENT TO",
     "OR LESS-THAN|OVER EQUAL TO|SIGN|WITH DOT"]),
   ("GREEK ",
    ["ANO TELEIA|BETA SYMBOL|DASIA|KAI SYMBOL|KAPPA SYMBOL|KORONIS|LOWER NUMERAL SIGN",
     "LUNATE EPSILON SYMBOL|LUNATE SIGMA SYMBOL|NUMERAL SIGN|OXIA|PERISPOMENI|PHI SYMBOL",
     "PI SYMBOL|PROSGEGRAMMENI|PSILI|QUESTION MARK|REVERSED LUNATE EPSILON SYMBOL|RHO SYMBOL",
     "RHO WITH STROKE SYMBOL|SMALL DOTTED LUNATE SIGMA SYMBOL",
     "SMALL REVERSED DOTTED LUNATE SIGMA SYMBOL|SMALL REVERSED LUNATE SIGMA SYMBOL|THETA SYMBOL",
     "TONOS|VARIA|YPOGEGRAMMENI"]),
   ("GREEK CAPITAL ",
    ["DOTTED LUNATE SIGMA SYMBOL|KAI SYMBOL|LUNATE SIGMA SYMBOL",
     "REVERSED DOTTED LUNATE SIGMA SYMBOL|REVERSED LUNATE SIGMA SYMBOL|THETA SYMBOL"]),
   ("GREEK CAPITAL LETTER ",
    ["ALPHA|ARCHAIC SAMPI|BETA|CHI|DELTA|EPSILON|ETA|GAMMA|HETA|IOTA|KAPPA|LAMDA|MU|NU|OMEGA",
     "OMICRON|PAMPHYLIAN DIGAMMA|PHI|PI|PSI|RHO|RHO WITH DASIA|SAN|SHO|SIGMA|TAU|THETA|UPSILON",
     "XI|YOT|ZETA"]),
   ("GREEK CAPITAL LETTER ALPHA WITH ",
    ["DASIA|MACRON|OXIA|PROSGEGRAMMENI|PSILI|TONOS|VARIA|VRACHY"]),
   ("GREEK CAPITAL LETTER ALPHA WITH DASIA AND ",
    ["OXIA|OXIA AND PROSGEGRAMMENI|PERISPOMENI|PERISPOMENI AND PROSGEGRAMMENI|PROSGEGRAMMENI",
     "VARIA|VARIA AND PROSGEGRAMMENI"]),
   ("GREEK CAPITAL LETTER ALPHA WITH PSILI AND ",
    ["OXIA|OXIA AND PROSGEGRAMMENI|PERISPOMENI|PERISPOMENI AND PROSGEGRAMMENI|PROSGEGRAMMENI",
     "VARIA|VARIA AND PROSGEGRAMMENI"]),
   ("GREEK CAPITAL LETTER EPSILON WITH ",
    ["DASIA|DASIA AND OXIA|DASIA AND VARIA|OXIA|PSILI|PSILI AND OXIA|PSILI AND VARIA|TONOS|VARIA"]),
   ("GREEK CAPITAL LETTER ETA WITH ", ["DASIA|OXIA|PROSGEGRAMMENI|PSILI|TONOS|VARIA"]),
   ("GREEK CAPITAL LETTER ETA WITH DASIA AND ",
    ["OXIA|OXIA AND PROSGEGRAMMENI|PERISPOMENI|PERISPOMENI AND PROSGEGRAMMENI|PROSGEGRAMMENI",
     "VARIA|VARIA AND PROSGEGRAMMENI"]),
   ("GREEK CAPITAL LETTER ETA WITH PSILI AND ",
    ["OXIA|OXIA AND PROSGEGRAMMENI|PERISPOMENI|PERISPOMENI AND PROSGEGRAMMENI|PROSGEGRAMMENI",
     "VARIA|VARIA AND PROSGEGRAMMENI"]),
   ("GREEK CAPITAL LETTER IOTA WITH ",
    ["DASIA|DASIA AND OXIA|DASIA AND PERISPOMENI|DASIA AND VARIA|DIALYTIKA|MACRON|OXIA|PSILI",
     "PSILI AND OXIA|PSILI AND PERISPOMENI|PSILI AND VARIA|TONOS|VARIA|VRACHY"]),
   ("GREEK CAPITAL LETTER OMEGA WITH ", ["DASIA|OXIA|PROSGEGRAMMENI|PSILI|TONOS|VARIA"]),
   ("GREEK CAPITAL LETTER OMEGA WITH DASIA AND ",
    ["OXIA|OXIA AND PROSGEGRAMMENI|PERISPOMENI|PERISPOMENI AND PROSGEGRAMMENI|PROSGEGRAMMENI",
     "VARIA|VARIA AND PROSGEGRAMMENI"]),
   ("GREEK CAPITAL LETTER OMEGA WITH PSILI AND ",
    ["OXIA|OXIA AND PROSGEGRAMMENI|PERISPOMENI|PERISPOMENI AND PROSGEGRAMMENI|PROSGEGRAMMENI",
     "VARIA|VARIA AND PROSGEGRAMMENI"]),
   ("GREEK CAPITAL LETTER OMICRON WITH ",
    ["DASIA|DASIA AND OXIA|DASIA AND VARIA|OXIA|PSILI|PSILI AND OXIA|PSILI AND VARIA|TONOS|VARIA"]),
   ("GREEK CAPITAL LETTER UPSILON WITH ",
    ["DASIA|DASIA AND OXIA|DASIA AND PERISPOMENI|DASIA AND VARIA|DIALYTIKA|MACRON|OXIA|TONOS",
     "VARIA|VRACHY"]),
   ("GREEK DASIA AND ", ["OXIA|PERISPOMENI|VARIA"]),
   ("GREEK DIALYTIKA ", ["AND OXIA|AND PERISPOMENI|AND VARIA|TONOS"]),
   ("GREEK LETTER ", ["ARCHAIC KOPPA|DIGAMMA|KOPPA|SAMPI|STIGMA|YOT"]),
   ("GREEK PSILI AND ", ["OXIA|PERISPOMENI|VARIA"]),
   ("GREEK SMALL LETTER ",
    ["ALPHA|ARCHAIC KOPPA|ARCHAIC SAMPI|BETA|CHI|DELTA|DIGAMMA|EPSILON|ETA|FINAL SIGMA|GAMMA",
     "HETA|IOTA|KAPPA|KOPPA|LAMDA|MU|NU|OMEGA|OMICRON|PAMPHYLIAN DIGAMMA|PHI|PI|PSI|RHO",
     "RHO WITH DASIA|RHO WITH PSILI|SAMPI|SAN|SHO|SIGMA|STIGMA|TAU|THETA|UPSILON|XI|ZETA"]),
   ("GREEK SMALL LETTER ALPHA WITH ",
    ["DASIA|MACRON|OXIA|OXIA AND YPOGEGRAMMENI|PERISPOMENI|PERISPOMENI AND YPOGEGRAMMENI|PSILI",
     "TONOS|VARIA|VARIA AND YPOGEGRAMMENI|VRACHY|YPOGEGRAMMENI"]),
   ("GREEK SMALL LETTER ALPHA WITH DASIA AND ",
    ["OXIA|OXIA AND YPOGEGRAMMENI|PERISPOMENI|PERISPOMENI AND YPOGEGRAMMENI|VARIA",
     "VARIA AND YPOGEGRAMMENI|YPOGEGRAMMENI"]),
   ("GREEK SMALL LETTER ALPHA WITH PSILI AND ",
    ["OXIA|OXIA AND YPOGEGRAMMENI|PERISPOMENI|PERISPOMENI AND YPOGEGRAMMENI|VARIA",
     "VARIA AND YPOGEGRAMMENI|YPOGEGRAMMENI"]),
   ("GREEK SMALL LETTER EPSILON WITH ",
    ["DASIA|DASIA AND OXIA|DASIA AND VARIA|OXIA|PSILI|PSILI AND OXIA|PSILI AND VARIA|TONOS|VARIA"]),
   ("GREEK SMALL LETTER ETA WITH ",
    ["DASIA|OXIA|OXIA AND YPOGEGRAMMENI|PERISPOMENI|PERISPOMENI AND YPOGEGRAMMENI|PSILI|TONOS",
     "VARIA|VARIA AND YPOGEGRAMMENI|YPOGEGRAMMENI"]),
   ("GREEK SMALL LETTER ETA WITH DASIA AND ",
    ["OXIA|OXIA AND YPOGEGRAMMENI|PERISPOMENI|PERISPOMENI AND YPOGEGRAMMENI|VARIA",
     "VARIA AND YPOGEGRAMMENI|YPOGEGRAMMENI"]),
   ("GREEK SMALL LETTER ETA WITH PSILI AND ",
    ["OXIA|OXIA AND YPOGEGRAMMENI|PERISPOMENI|PERISPOMENI AND YPOGEGRAMMENI|VARIA",
     "VARIA AND YPOGEGRAMMENI|YPOGEGRAMMENI"]),
   ("GREEK SMALL LETTER IOTA WITH ",
    ["DASIA|DASIA AND OXIA|DASIA AND PERISPOMENI|DASIA AND VARIA|DIALYTIKA|MACRON|OXIA",
     "PERISPOMENI|PSILI|PSILI AND OXIA|PSILI AND PERISPOMENI|PSILI AND VARIA|TONOS|VARIA|VRACHY"]),
   ("GREEK SMALL LETTER IOTA WITH DIALYTIKA AND ", ["OXIA|PERISPOMENI|TONOS|VARIA"]),
   ("GREEK SMALL LETTER OMEGA WITH ",
    ["DASIA|OXIA|OXIA AND YPOGEGRAMMENI|PERISPOMENI|PERISPOMENI AND YPOGEGRAMMENI|PSILI|TONOS",
     "VARIA|VARIA AND YPOGEGRAMMENI|YPOGEGRAMMENI"]),
   ("GREEK SMALL LETTER OMEGA WITH DASIA AND ",
    ["OXIA|OXIA AND YPOGEGRAMMENI|PERISPOMENI|PERISPOMENI AND YPOGEGRAMMENI|VARIA",
     "VARIA AND YPOGEGRAMMENI|YPOGEGRAMMENI"]),
   ("GREEK SMALL LETTER OMEGA WITH PSILI AND ",
    ["OXIA|OXIA AND YPOGEGRAMMENI|PERISPOMENI|PERISPOMENI AND YPOGEGRAMMENI|VARIA",
     "VARIA AND YPOGEGRAMMENI|YPOGEGRAMMENI"]),
   ("GREEK SMALL LETTER OMICRON WITH ",
    ["DASIA|DASIA AND OXIA|DASIA AND VARIA|OXIA|PSILI|PSILI AND OXIA|PSILI AND VARIA|TONOS|VARIA"]),
   ("GREEK SMALL LETTER UPSILON WITH ",
    ["DASIA|DASIA AND OXIA|DASIA AND PERISPOMENI|DASIA AND VARIA|DIALYTIKA|DIALYTIKA AND OXIA",
     "DIALYTIKA AND PERISPOMENI|DIALYTIKA AND TONOS|DIALYTIKA AND VARIA|MACRON|OXIA|PERISPOMENI",
     "PSILI|PSILI AND OXIA|PSILI AND PERISPOMENI|PSILI AND VARIA|TONOS|VARIA|VRACHY"]),
   ("GREEK UPSILON WITH ", ["ACUTE AND HOOK SYMBOL|DIAERESIS AND HOOK SYMBOL|HOOK SYMBOL"]),
   ("GREEN ", ["APPLE|BOOK|HEART|SALAD"]),
   ("GRINNING FACE WITH ", ["ONE LARGE AND ONE SMALL EYE|SMILING EYES|STAR EYES"]),
   ("HALFWIDTH ",
    ["BLACK SQUARE|DOWNWARDS ARROW|FORMS LIGHT VERTICAL|HANGUL FILLER|IDEOGRAPHIC COMMA",
     "IDEOGRAPHIC FULL STOP|KATAKANA MIDDLE DOT|KATAKANA SEMI-VOICED SOUND MARK",
     "KATAKANA VOICED SOUND MARK|KATAKANA-HIRAGANA PROLONGED SOUND MARK|LEFT CORNER BRACKET",
     "LEFTWARDS ARROW|RIGHT CORNER BRACKET|RIGHTWARDS ARROW|UPWARDS ARROW|WHITE CIRCLE"]),
   ("HALFWIDTH HANGUL LETTER ",
    ["A|AE|CHIEUCH|CIEUC|E|EO|EU|HIEUH|I|IEUNG|KHIEUKH|KIYEOK|KIYEOK-SIOS|MIEUM|NIEUN",
     "NIEUN-CIEUC|NIEUN-HIEUH|O|OE|PHIEUPH|PIEUP|PIEUP-SIOS|RIEUL|RIEUL-HIEUH|RIEUL-KIYEOK",
     "RIEUL-MIEUM|RIEUL-PHIEUPH|RIEUL-PIEUP|RIEUL-SIOS|RIEUL-THIEUTH|SIOS|SSANGCIEUC|SSANGKIYEOK",
     "SSANGPIEUP|SSANGSIOS|SSANGTIKEUT|THIEUTH|TIKEUT|U|WA|WAE|WE|WEO|WI|YA|YAE|YE|YEO|YI|YO|YU"]),
   ("HALFWIDTH KATAKANA LETTER ",
    ["A|E|HA|HE|HI|HO|HU|I|KA|KE|KI|KO|KU|MA|ME|MI|MO|MU|N|NA|NE|NI|NO|NU|O|RA|RE|RI|RO|RU|SA|SE",
     "SI|SO|SU|TA|TE|TI|TO|TU|U|WA|WO|YA|YO|YU"]),
   ("HALFWIDTH KATAKANA LETTER SMALL ", ["A|E|I|O|TU|U|YA|YO|YU"]),
   ("HAMMER AND ", ["PICK|SICKLE|WRENCH"]),
   ("HAND WITH INDEX ", ["AND MIDDLE FINGERS CROSSED|FINGER AND THUMB CROSSED"]),
   ("HANGZHOU NUMERAL ", ["EIGHT|FIVE|FOUR|NINE|ONE|SEVEN|SIX|TEN|THIRTY|THREE|TWENTY|TWO"]),
   ("HEART ", ["DECORATION|HANDS|WITH ARROW|WITH RIBBON|WITH TIP ON THE LEFT"]),
   ("HEAVY ",
    ["ASTERISK|BALLOT X|BLACK CURVED DOWNWARDS AND RIGHTWARDS ARROW",
     "BLACK CURVED UPWARDS AND RIGHTWARDS ARROW|BLACK HEART|CHECK MARK|CHEVRON SNOWFLAKE|CIRCLE",
     "CIRCLE WITH CIRCLE INSIDE|CIRCLE WITH STROKE AND TWO DOTS ABOVE|CIRCLED SALTIRE",
     "CONCAVE-POINTED BLACK RIGHTWARDS ARROW|DASHED TRIANGLE-HEADED RIGHTWARDS ARROW",
     "DIVISION SIGN|DOLLAR SIGN|DOUBLE COMMA QUOTATION MARK ORNAMENT",
     "DOUBLE TURNED COMMA QUOTATION MARK ORNAMENT|EIGHT POINTED RECTILINEAR BLACK STAR",
     "EIGHT TEARDROP-SPOKED PROPELLER ASTERISK|FOUR BALLOON-SPOKED ASTERISK|GREEK CROSS",
     "HEART EXCLAMATION MARK ORNAMENT|LARGE CIRCLE|LATIN CROSS",
     "LOW DOUBLE COMMA QUOTATION MARK ORNAMENT|LOW SINGLE COMMA QUOTATION MARK ORNAMENT",
     "LOWER RIGHT-SHADOWED WHITE RIGHTWARDS ARROW|MINUS SIGN|MULTIPLICATION X|NORTH EAST ARROW",
     "OPEN CENTRE CROSS|OUTLINED BLACK STAR|OVAL WITH OVAL INSIDE|PLUS SIGN|RIGHTWARDS ARROW",
     "ROUND-TIPPED RIGHTWARDS ARROW|SINGLE COMMA QUOTATION MARK ORNAMENT",
     "SINGLE TURNED COMMA QUOTATION MARK ORNAMENT|SOUTH EAST ARROW|SPARKLE",
     "TEARDROP-SHANKED RIGHTWARDS ARROW|TEARDROP-SPOKED ASTERISK",
     "TEARDROP-SPOKED PINWHEEL ASTERISK|TRIANGLE-HEADED RIGHTWARDS ARROW",
     "UPPER RIGHT-SHADOWED WHITE RIGHTWARDS ARROW|VERTICAL BAR|WEDGE-TAILED RIGHTWARDS ARROW",
     "WHITE DOWN-POINTING TRIANGLE|WIDE-HEADED RIGHTWARDS ARROW"]),
   ("HEAVY BLACK-FEATHERED ", ["NORTH EAST ARROW|RIGHTWARDS ARROW|SOUTH EAST ARROW"]),
   ("HEAVY EXCLAMATION MARK ", ["ORNAMENT|SYMBOL"]),
   ("HEAVY LEFT-POINTING ANGLE ", ["BRACKET ORNAMENT|QUOTATION MARK ORNAMENT"]),
   ("HEAVY RIGHT-POINTING ANGLE ", ["BRACKET ORNAMENT|QUOTATION MARK ORNAMENT"]),
   ("HEBREW ACCENT ",
    ["ATNAH HAFUKH|DARGA|DEHI|ETNAHTA|GERESH|GERESH MUQDAM|GERSHAYIM|ILUY|MAHAPAKH|MERKHA",
     "MERKHA KEFULA|MUNAH|OLE|PASHTA|PAZER|QADMA|QARNEY PARA|REVIA|SEGOL|SHALSHELET",
     "TELISHA GEDOLA|TELISHA QETANA|TEVIR|TIPEHA|YERAH BEN YOMO|YETIV|ZAQEF GADOL|ZAQEF QATAN",
     "ZARQA|ZINOR"]),
   ("HEBREW LETTER ",
    ["ALEF|AYIN|BET|DALET|FINAL KAF|FINAL MEM|FINAL NUN|FINAL PE|FINAL TSADI|GIMEL|HE|HET|KAF",
     "LAMED|MEM|NUN|PE|QOF|RESH|SAMEKH|SHIN|TAV|TET|TSADI|VAV|YOD|ZAYIN"]),
   ("HEBREW LIGATURE YIDDISH ", ["DOUBLE VAV|DOUBLE YOD|VAV YOD"]),
   ("HEBREW MARK ", ["LOWER DOT|MASORA CIRCLE|UPPER DOT"]),
   ("HEBREW POINT ",
    ["DAGESH OR MAPIQ|HATAF PATAH|HATAF QAMATS|HATAF SEGOL|HIRIQ|HOLAM|HOLAM HASER FOR VAV|METEG",
     "PATAH|QAMATS|QAMATS QATAN|QUBUTS|RAFE|SEGOL|SHEVA|SHIN DOT|SIN DOT|TSERE"]),
   ("HEBREW PUNCTUATION ", ["GERESH|GERSHAYIM|MAQAF|NUN HAFUKHA|PASEQ|SOF PASUQ"]),
   ("HIGH-SPEED ", ["TRAIN|TRAIN WITH BULLET NOSE"]),
   ("HIRAGANA ", ["DIGRAPH YORI|ITERATION MARK|VOICED ITERATION MARK"]),
   ("HIRAGANA LETTER ",
    ["A|BA|BE|BI|BO|BU|DA|DE|DI|DO|DU|E|GA|GE|GI|GO|GU|HA|HE|HI|HO|HU|I|KA|KE|KI|KO|KU|MA|ME|MI",
     "MO|MU|N|NA|NE|NI|NO|NU|O|PA|PE|PI|PO|PU|RA|RE|RI|RO|RU|SA|SE|SI|SO|SU|TA|TE|TI|TO|TU|U|VU",
     "WA|WE|WI|WO|YA|YO|YU|ZA|ZE|ZI|ZO|ZU"]),
   ("HIRAGANA LETTER SMALL ", ["A|E|I|KA|KE|O|TU|U|WA|YA|YO|YU"]),
   ("HORIZONTAL ",
    ["BAR|BLACK HEXAGON|ELLIPSIS|LINE EXTENSION|MALE WITH STROKE SIGN|SCAN LINE-1|SCAN LINE-3",
     "SCAN LINE-7|SCAN LINE-9|TABULATION|TABULATION SET|TABULATION WITH JUSTIFICATION",
     "TRAFFIC LIGHT"]),
   ("HOT ", ["BEVERAGE|DOG|PEPPER|SPRINGS"]),
   ("HOUSE ", ["BUILDING|BUILDINGS|WITH GARDEN"]),
   ("ICE ", ["CREAM|CUBE|HOCKEY STICK AND PUCK|SKATE"]),
   ("IDEOGRAPHIC ",
    ["CLOSING MARK|COMMA|DEPARTING TONE MARK|ENTERING TONE MARK|FULL STOP|HALF FILL SPACE",
     "ITERATION MARK|LEVEL TONE MARK|NUMBER ZERO|RISING TONE MARK|SPACE",
     "TELEGRAPH LINE FEED SEPARATOR SYMBOL|VARIATION INDICATOR"]),
   ("INFORMATION ", ["DESK PERSON|SOURCE"]),
   ("INFORMATION SEPARATOR ", ["FOUR|ONE|THREE|TWO"]),
   ("INPUT SYMBOL FOR ",
    ["LATIN CAPITAL LETTERS|LATIN LETTERS|LATIN SMALL LETTERS|NUMBERS|SYMBOLS"]),
   ("INTERLINEAR ANNOTATION ", ["ANCHOR|SEPARATOR|TERMINATOR"]),
   ("INVERTED ", ["EXCLAMATION MARK|LAZY S|OHM SIGN|PENTAGRAM|QUESTION MARK|UNDERTIE"]),
   ("INVISIBLE ", ["PLUS|SEPARATOR|TIMES"]),
   ("JAPANESE ",
    ["BANK SYMBOL|CASTLE|DOLLS|GOBLIN|INDUSTRIAL STANDARD SYMBOL|OGRE|POST OFFICE",
     "SYMBOL FOR BEGINNER"]),
   ("KATAKANA ", ["DIGRAPH KOTO|ITERATION MARK|MIDDLE DOT|VOICED ITERATION MARK"]),
   ("KATAKANA LETTER ",
    ["A|BA|BE|BI|BO|BU|DA|DE|DI|DO|DU|E|GA|GE|GI|GO|GU|HA|HE|HI|HO|HU|I|KA|KE|KI|KO|KU|MA|ME|MI",
     "MO|MU|N|NA|NE|NI|NO|NU|O|PA|PE|PI|PO|PU|RA|RE|RI|RO|RU|SA|SE|SI|SO|SU|TA|TE|TI|TO|TU|U|VA",
     "VE|VI|VO|VU|WA|WE|WI|WO|YA|YO|YU|ZA|ZE|ZI|ZO|ZU"]),
   ("KATAKANA LETTER SMALL ", ["A|E|I|KA|KE|O|TU|U|WA|YA|YO|YU"]),
   ("KATAKANA-HIRAGANA ",
    ["DOUBLE HYPHEN|PROLONGED SOUND MARK|SEMI-VOICED SOUND MARK|VOICED SOUND MARK"]),
   ("KISSING ", ["CAT FACE WITH CLOSED EYES|FACE|FACE WITH CLOSED EYES|FACE WITH SMILING EYES"]),
   ("LARGE ", ["BLUE CIRCLE|BLUE DIAMOND|CIRCLE|DOWN TACK|ORANGE DIAMOND|RED CIRCLE|UP TACK"]),
   ("LAST QUARTER ", ["MOON|MOON SYMBOL|MOON WITH FACE"]),
   ("LATIN CAPITAL LETTER ",
    ["A|AE|AE WITH ACUTE|AE WITH MACRON|AFRICAN D|B|C|D|DZ|DZ WITH CARON|E|ENG|ESH|ETH|EZH",
     "EZH REVERSED|EZH WITH CARON|F|F WITH DOT ABOVE|F WITH HOOK|G|GAMMA|GHA|GLOTTAL STOP|H",
     "HWAIR|I|IOTA|J|J WITH CIRCUMFLEX|J WITH STROKE|K|L|LJ|M|M WITH ACUTE|M WITH DOT ABOVE",
     "M WITH DOT BELOW|MIDDLE-WELSH LL|MIDDLE-WELSH V|N|NJ|O|OI|OPEN E|OPEN O|OU|P|P WITH ACUTE",
     "P WITH DOT ABOVE|P WITH HOOK|Q|R|REVERSED E|S|SCHWA|SHARP S|SMALL Q WITH HOOK TAIL|T|THORN",
     "TONE FIVE|TONE SIX|TONE TWO|TURNED M|TURNED V|U|U BAR|UPSILON|V|V WITH DOT BELOW",
     "V WITH HOOK|V WITH TILDE|W|WYNN|X|X WITH DIAERESIS|X WITH DOT ABOVE|Y|YOGH|Z"]),
   ("LATIN CAPITAL LETTER A WITH ",
    ["ACUTE|BREVE|CARON|CIRCUMFLEX|DIAERESIS|DIAERESIS AND MACRON|DOT ABOVE|DOT ABOVE AND MACRON",
     "DOT BELOW|DOUBLE GRAVE|GRAVE|HOOK ABOVE|INVERTED BREVE|MACRON|OGONEK|RING ABOVE",
     "RING ABOVE AND ACUTE|RING BELOW|STROKE|TILDE"]),
   ("LATIN CAPITAL LETTER A WITH BREVE AND ", ["ACUTE|DOT BELOW|GRAVE|HOOK ABOVE|TILDE"]),
   ("LATIN CAPITAL LETTER A WITH CIRCUMFLEX AND ", ["ACUTE|DOT BELOW|GRAVE|HOOK ABOVE|TILDE"]),
   ("LATIN CAPITAL LETTER B WITH ", ["DOT ABOVE|DOT BELOW|HOOK|LINE BELOW|STROKE|TOPBAR"]),
   ("LATIN CAPITAL LETTER C WITH ",
    ["ACUTE|CARON|CEDILLA|CEDILLA AND ACUTE|CIRCUMFLEX|DOT ABOVE|HOOK|STROKE"]),
   ("LATIN CAPITAL LETTER D WITH ",
    ["CARON|CEDILLA|CIRCUMFLEX BELOW|DOT ABOVE|DOT BELOW|HOOK|LINE BELOW|SMALL LETTER Z",
     "SMALL LETTER Z WITH CARON|STROKE|TOPBAR"]),
   ("LATIN CAPITAL LETTER E WITH ",
    ["ACUTE|BREVE|CARON|CEDILLA|CEDILLA AND BREVE|CIRCUMFLEX|CIRCUMFLEX BELOW|DIAERESIS",
     "DOT ABOVE|DOT BELOW|DOUBLE GRAVE|GRAVE|HOOK ABOVE|INVERTED BREVE|MACRON|MACRON AND ACUTE",
     "MACRON AND GRAVE|OGONEK|STROKE|TILDE|TILDE BELOW"]),
   ("LATIN CAPITAL LETTER E WITH CIRCUMFLEX AND ", ["ACUTE|DOT BELOW|GRAVE|HOOK ABOVE|TILDE"]),
   ("LATIN CAPITAL LETTER G WITH ",
    ["ACUTE|BREVE|CARON|CEDILLA|CIRCUMFLEX|DOT ABOVE|HOOK|MACRON|STROKE"]),
   ("LATIN CAPITAL LETTER H WITH ",
    ["BREVE BELOW|CARON|CEDILLA|CIRCUMFLEX|DIAERESIS|DOT ABOVE|DOT BELOW|STROKE"]),
   ("LATIN CAPITAL LETTER I WITH ",
    ["ACUTE|BREVE|CARON|CIRCUMFLEX|DIAERESIS|DIAERESIS AND ACUTE|DOT ABOVE|DOT BELOW",
     "DOUBLE GRAVE|GRAVE|HOOK ABOVE|INVERTED BREVE|MACRON|OGONEK|STROKE|TILDE|TILDE BELOW"]),
   ("LATIN CAPITAL LETTER K WITH ", ["ACUTE|CARON|CEDILLA|DOT BELOW|HOOK|LINE BELOW"]),
   ("LATIN CAPITAL LETTER L WITH ",
    ["ACUTE|BAR|CARON|CEDILLA|CIRCUMFLEX BELOW|DOT BELOW|DOT BELOW AND MACRON|LINE BELOW",
     "MIDDLE DOT|SMALL LETTER J|STROKE"]),
   ("LATIN CAPITAL LETTER N WITH ",
    ["ACUTE|CARON|CEDILLA|CIRCUMFLEX BELOW|DOT ABOVE|DOT BELOW|GRAVE|LEFT HOOK|LINE BELOW",
     "LONG RIGHT LEG|SMALL LETTER J|TILDE"]),
   ("LATIN CAPITAL LETTER O WITH ",
    ["ACUTE|BREVE|CARON|CIRCUMFLEX|DIAERESIS|DIAERESIS AND MACRON|DOT ABOVE|DOT ABOVE AND MACRON",
     "DOT BELOW|DOUBLE ACUTE|DOUBLE GRAVE|GRAVE|HOOK ABOVE|HORN|HORN AND ACUTE",
     "HORN AND DOT BELOW|HORN AND GRAVE|HORN AND HOOK ABOVE|HORN AND TILDE|INVERTED BREVE|MACRON",
     "MACRON AND ACUTE|MACRON AND GRAVE|MIDDLE TILDE|OGONEK|OGONEK AND MACRON|STROKE",
     "STROKE AND ACUTE|TILDE|TILDE AND ACUTE|TILDE AND DIAERESIS|TILDE AND MACRON"]),
   ("LATIN CAPITAL LETTER O WITH CIRCUMFLEX AND ", ["ACUTE|DOT BELOW|GRAVE|HOOK ABOVE|TILDE"]),
   ("LATIN CAPITAL LETTER R WITH ",
    ["ACUTE|CARON|CEDILLA|DOT ABOVE|DOT BELOW|DOT BELOW AND MACRON|DOUBLE GRAVE|INVERTED BREVE",
     "LINE BELOW|STROKE"]),
   ("LATIN CAPITAL LETTER S WITH ",
    ["ACUTE|ACUTE AND DOT ABOVE|CARON|CARON AND DOT ABOVE|CEDILLA|CIRCUMFLEX|COMMA BELOW",
     "DOT ABOVE|DOT BELOW|DOT BELOW AND DOT ABOVE"]),
   ("LATIN CAPITAL LETTER T WITH ",
    ["CARON|CEDILLA|CIRCUMFLEX BELOW|COMMA BELOW|DIAGONAL STROKE|DOT ABOVE|DOT BELOW|HOOK",
     "LINE BELOW|RETROFLEX HOOK|STROKE"]),
   ("LATIN CAPITAL LETTER U WITH ",
    ["ACUTE|BREVE|CARON|CIRCUMFLEX|CIRCUMFLEX BELOW|DIAERESIS|DIAERESIS BELOW|DOT BELOW",
     "DOUBLE ACUTE|DOUBLE GRAVE|GRAVE|HOOK ABOVE|HORN|HORN AND ACUTE|HORN AND DOT BELOW",
     "HORN AND GRAVE|HORN AND HOOK ABOVE|HORN AND TILDE|INVERTED BREVE|MACRON",
     "MACRON AND DIAERESIS|OGONEK|RING ABOVE|TILDE|TILDE AND ACUTE|TILDE BELOW"]),
   ("LATIN CAPITAL LETTER U WITH DIAERESIS AND ", ["ACUTE|CARON|GRAVE|MACRON"]),
   ("LATIN CAPITAL LETTER W WITH ", ["ACUTE|CIRCUMFLEX|DIAERESIS|DOT ABOVE|DOT BELOW|GRAVE"]),
   ("LATIN CAPITAL LETTER Y WITH ",
    ["ACUTE|CIRCUMFLEX|DIAERESIS|DOT ABOVE|DOT BELOW|GRAVE|HOOK|HOOK ABOVE|LOOP|MACRON|STROKE",
     "TILDE"]),
   ("LATIN CAPITAL LETTER Z WITH ",
    ["ACUTE|CARON|CIRCUMFLEX|DOT ABOVE|DOT BELOW|HOOK|LINE BELOW|STROKE"]),
   ("LATIN CAPITAL LIGATURE ", ["IJ|OE"]),
   ("LATIN LETTER ",
    ["ALVEOLAR CLICK|BIDENTAL PERCUSSIVE|BILABIAL CLICK|BILABIAL PERCUSSIVE|DENTAL CLICK",
     "GLOTTAL STOP|GLOTTAL STOP WITH STROKE|INVERTED GLOTTAL STOP",
     "INVERTED GLOTTAL STOP WITH STROKE|LATERAL CLICK|PHARYNGEAL VOICED FRICATIVE",
     "RETROFLEX CLICK|REVERSED ESH LOOP|REVERSED GLOTTAL STOP WITH STROKE|STRETCHED C",
     "TWO WITH STROKE|WYNN|YR"]),
   ("LATIN LETTER SMALL CAPITAL ", ["B|G|G WITH HOOK|H|I|INVERTED R|L|N|OE|R|Y"]),
   ("LATIN SMALL LETTER ",
    ["A|AE|AE WITH ACUTE|AE WITH MACRON|ALPHA|B|BARRED O|C|CLOSED OMEGA|CLOSED OPEN E",
     "CLOSED REVERSED OPEN E|D|DB DIGRAPH|DELTA|DEZH DIGRAPH|DOTLESS I|DOTLESS J",
     "DOTLESS J WITH STROKE|DOTLESS J WITH STROKE AND HOOK|DZ|DZ DIGRAPH|DZ DIGRAPH WITH CURL",
     "DZ WITH CARON|E|ENG|ESH|ESH WITH CURL|ETH|EZH|EZH REVERSED|EZH WITH CARON|EZH WITH CURL",
     "EZH WITH TAIL|F|F WITH DOT ABOVE|F WITH HOOK|FENG DIGRAPH|G|GAMMA|GHA|GLOTTAL STOP|H",
     "HENG WITH HOOK|HV|I|IOTA|J|J WITH CARON|J WITH CIRCUMFLEX|J WITH CROSSED-TAIL",
     "J WITH STROKE|K|KRA|L|LAMBDA WITH STROKE|LEZH|LJ|LONG S|LONG S WITH DIAGONAL STROKE",
     "LONG S WITH DOT ABOVE|LONG S WITH HIGH STROKE|LS DIGRAPH|LZ DIGRAPH|M|M WITH ACUTE",
     "M WITH DOT ABOVE|M WITH DOT BELOW|M WITH HOOK|MIDDLE-WELSH LL|MIDDLE-WELSH V|N",
     "N PRECEDED BY APOSTROPHE|NJ|O|OI|OPEN E|OPEN O|OU|P|P WITH ACUTE|P WITH DOT ABOVE",
     "P WITH HOOK|PHI|Q|Q WITH HOOK|Q WITH HOOK TAIL|QP DIGRAPH|R|RAMS HORN|S|SCHWA",
     "SCHWA WITH HOOK|SCRIPT G|SHARP S|SQUAT REVERSED ESH|T|TC DIGRAPH WITH CURL|TESH DIGRAPH",
     "THORN|TONE FIVE|TONE SIX|TONE TWO|TS DIGRAPH|U|U BAR|UPSILON|V|V WITH DOT BELOW",
     "V WITH HOOK|V WITH TILDE|W|X|X WITH DIAERESIS|X WITH DOT ABOVE|Y|YOGH|Z"]),
   ("LATIN SMALL LETTER A WITH ",
    ["ACUTE|BREVE|CARON|CIRCUMFLEX|DIAERESIS|DIAERESIS AND MACRON|DOT ABOVE|DOT ABOVE AND MACRON",
     "DOT BELOW|DOUBLE GRAVE|GRAVE|HOOK ABOVE|INVERTED BREVE|MACRON|OGONEK|RIGHT HALF RING",
     "RING ABOVE|RING ABOVE AND ACUTE|RING BELOW|TILDE"]),
   ("LATIN SMALL LETTER A WITH BREVE AND ", ["ACUTE|DOT BELOW|GRAVE|HOOK ABOVE|TILDE"]),
   ("LATIN SMALL LETTER A WITH CIRCUMFLEX AND ", ["ACUTE|DOT BELOW|GRAVE|HOOK ABOVE|TILDE"]),
   ("LATIN SMALL LETTER B WITH ", ["DOT ABOVE|DOT BELOW|HOOK|LINE BELOW|STROKE|TOPBAR"]),
   ("LATIN SMALL LETTER C WITH ",
    ["ACUTE|CARON|CEDILLA|CEDILLA AND ACUTE|CIRCUMFLEX|CURL|DOT ABOVE|HOOK|STROKE"]),
   ("LATIN SMALL LETTER D WITH ",
    ["CARON|CEDILLA|CIRCUMFLEX BELOW|CURL|DOT ABOVE|DOT BELOW|HOOK|LINE BELOW|STROKE|TAIL|TOPBAR"]),
   ("LATIN SMALL LETTER E WITH ",
    ["ACUTE|BREVE|CARON|CEDILLA|CEDILLA AND BREVE|CIRCUMFLEX|CIRCUMFLEX BELOW|DIAERESIS",
     "DOT ABOVE|DOT BELOW|DOUBLE GRAVE|GRAVE|HOOK ABOVE|INVERTED BREVE|MACRON|MACRON AND ACUTE",
     "MACRON AND GRAVE|OGONEK|STROKE|TILDE|TILDE BELOW"]),
   ("LATIN SMALL LETTER E WITH CIRCUMFLEX AND ", ["ACUTE|DOT BELOW|GRAVE|HOOK ABOVE|TILDE"]),
   ("LATIN SMALL LETTER G WITH ",
    ["ACUTE|BREVE|CARON|CEDILLA|CIRCUMFLEX|DOT ABOVE|HOOK|MACRON|STROKE"]),
   ("LATIN SMALL LETTER H WITH ",
    ["BREVE BELOW|CARON|CEDILLA|CIRCUMFLEX|DIAERESIS|DOT ABOVE|DOT BELOW|HOOK|LINE BELOW|STROKE"]),
   ("LATIN SMALL LETTER I WITH ",
    ["ACUTE|BREVE|CARON|CIRCUMFLEX|DIAERESIS|DIAERESIS AND ACUTE|DOT BELOW|DOUBLE GRAVE|GRAVE",
     "HOOK ABOVE|INVERTED BREVE|MACRON|OGONEK|STROKE|TILDE|TILDE BELOW"]),
   ("LATIN SMALL LETTER K WITH ", ["ACUTE|CARON|CEDILLA|DOT BELOW|HOOK|LINE BELOW"]),
   ("LATIN SMALL LETTER L WITH ",
    ["ACUTE|BAR|BELT|CARON|CEDILLA|CIRCUMFLEX BELOW|CURL|DOT BELOW|DOT BELOW AND MACRON",
     "LINE BELOW|MIDDLE DOT|MIDDLE TILDE|RETROFLEX HOOK|STROKE"]),
   ("LATIN SMALL LETTER N WITH ",
    ["ACUTE|CARON|CEDILLA|CIRCUMFLEX BELOW|CURL|DOT ABOVE|DOT BELOW|GRAVE|LEFT HOOK|LINE BELOW",
     "LONG RIGHT LEG|RETROFLEX HOOK|TILDE"]),
   ("LATIN SMALL LETTER O WITH ",
    ["ACUTE|BREVE|CARON|CIRCUMFLEX|DIAERESIS|DIAERESIS AND MACRON|DOT ABOVE|DOT ABOVE AND MACRON",
     "DOT BELOW|DOUBLE ACUTE|DOUBLE GRAVE|GRAVE|HOOK ABOVE|HORN|HORN AND ACUTE",
     "HORN AND DOT BELOW|HORN AND GRAVE|HORN AND HOOK ABOVE|HORN AND TILDE|INVERTED BREVE|MACRON",
     "MACRON AND ACUTE|MACRON AND GRAVE|OGONEK|OGONEK AND MACRON|STROKE|STROKE AND ACUTE|TILDE",
     "TILDE AND ACUTE|TILDE AND DIAERESIS|TILDE AND MACRON"]),
   ("LATIN SMALL LETTER O WITH CIRCUMFLEX AND ", ["ACUTE|DOT BELOW|GRAVE|HOOK ABOVE|TILDE"]),
   ("LATIN SMALL LETTER R WITH ",
    ["ACUTE|CARON|CEDILLA|DOT ABOVE|DOT BELOW|DOT BELOW AND MACRON|DOUBLE GRAVE|FISHHOOK",
     "INVERTED BREVE|LINE BELOW|LONG LEG|STROKE|TAIL"]),
   ("LATIN SMALL LETTER REVERSED ", ["C|E|OPEN E|OPEN E WITH HOOK|R WITH FISHHOOK"]),
   ("LATIN SMALL LETTER S WITH ",
    ["ACUTE|ACUTE AND DOT ABOVE|CARON|CARON AND DOT ABOVE|CEDILLA|CIRCUMFLEX|COMMA BELOW",
     "DOT ABOVE|DOT BELOW|DOT BELOW AND DOT ABOVE|HOOK|SWASH TAIL"]),
   ("LATIN SMALL LETTER T WITH ",
    ["CARON|CEDILLA|CIRCUMFLEX BELOW|COMMA BELOW|CURL|DIAERESIS|DOT ABOVE|DOT BELOW|HOOK",
     "LINE BELOW|PALATAL HOOK|RETROFLEX HOOK|STROKE"]),
   ("LATIN SMALL LETTER TURNED ",
    ["A|ALPHA|DELTA|E|H|H WITH FISHHOOK|H WITH FISHHOOK AND TAIL|K|M|M WITH LONG LEG|R",
     "R WITH HOOK|R WITH LONG LEG|T|V|W|Y"]),
   ("LATIN SMALL LETTER U WITH ",
    ["ACUTE|BREVE|CARON|CIRCUMFLEX|CIRCUMFLEX BELOW|DIAERESIS|DIAERESIS BELOW|DOT BELOW",
     "DOUBLE ACUTE|DOUBLE GRAVE|GRAVE|HOOK ABOVE|HORN|HORN AND ACUTE|HORN AND DOT BELOW",
     "HORN AND GRAVE|HORN AND HOOK ABOVE|HORN AND TILDE|INVERTED BREVE|MACRON",
     "MACRON AND DIAERESIS|OGONEK|RING ABOVE|TILDE|TILDE AND ACUTE|TILDE BELOW"]),
   ("LATIN SMALL LETTER U WITH DIAERESIS AND ", ["ACUTE|CARON|GRAVE|MACRON"]),
   ("LATIN SMALL LETTER W WITH ",
    ["ACUTE|CIRCUMFLEX|DIAERESIS|DOT ABOVE|DOT BELOW|GRAVE|RING ABOVE"]),
   ("LATIN SMALL LETTER Y WITH ",
    ["ACUTE|CIRCUMFLEX|DIAERESIS|DOT ABOVE|DOT BELOW|GRAVE|HOOK|HOOK ABOVE|LOOP|MACRON",
     "RING ABOVE|STROKE|TILDE"]),
   ("LATIN SMALL LETTER Z WITH ",
    ["ACUTE|CARON|CIRCUMFLEX|CURL|DOT ABOVE|DOT BELOW|HOOK|LINE BELOW|RETROFLEX HOOK|STROKE",
     "SWASH TAIL"]),
   ("LATIN SMALL LIGATURE ", ["FF|FFI|FFL|FI|FL|IJ|LONG S T|OE|ST"]),
   ("LATIN SUBSCRIPT SMALL LETTER ", ["A|E|H|K|L|M|N|O|P|S|SCHWA|T|X"]),
   ("LEFT ",
    ["AND RIGHT DOUBLE TURNSTILE|AND RIGHT TACK|ANGER BUBBLE|ANGLE BRACKET",
     "ARROW WITH CIRCLED PLUS|ARROW WITH SMALL CIRCLE|BLACK LENTICULAR BRACKET|CEILING",
     "CLOSED ENTRY|CORNER BRACKET|CURLY BRACKET|DOUBLE ANGLE BRACKET|DOUBLE QUOTATION MARK",
     "FIVE EIGHTHS BLOCK|FLOOR|HALF BLACK CIRCLE|HALF BLOCK|HALF CIRCLE|HAND TELEPHONE RECEIVER",
     "LUGGAGE|MULTIMAP|NORMAL FACTOR SEMIDIRECT PRODUCT|ONE EIGHTH BLOCK|ONE QUARTER BLOCK",
     "OUTER JOIN|PARENTHESIS|S-SHAPED BAG DELIMITER|SEMIDIRECT PRODUCT|SEVEN EIGHTHS BLOCK",
     "SINGLE QUOTATION MARK|SPEECH BUBBLE|SQUARE BRACKET|TACK|THOUGHT BUBBLE|THREE EIGHTHS BLOCK",
     "THREE QUARTERS BLOCK|TORTOISE SHELL BRACKET|VERTICAL BOX LINE|WRITING HAND"]),
   ("LEFT CURLY BRACKET ", ["LOWER HOOK|MIDDLE PIECE|UPPER HOOK"]),
   ("LEFT HALF CIRCLE WITH ", ["DOT|FOUR DOTS|THREE DOTS|TWO DOTS"]),
   ("LEFT PARENTHESIS ", ["EXTENSION|LOWER HOOK|UPPER HOOK"]),
   ("LEFT RIGHT ",
    ["ARROW|BLACK ARROW|DOUBLE ARROW|DOUBLE ARROW WITH STROKE|OPEN-HEADED ARROW|WAVE ARROW",
     "WHITE ARROW"]),
   ("LEFT RIGHT ARROW WITH ", ["DOUBLE VERTICAL STROKE|STROKE|VERTICAL STROKE"]),
   ("LEFT SQUARE BRACKET ", ["EXTENSION|LOWER CORNER|UPPER CORNER|WITH QUILL"]),
   ("LEFT WHITE ", ["CORNER BRACKET|LENTICULAR BRACKET|SQUARE BRACKET|TORTOISE SHELL BRACKET"]),
   ("LEFT-FACING ", ["ARMENIAN ETERNITY SIGN|FIST"]),
   ("LEFT-POINTING ", ["ANGLE BRACKET|DOUBLE ANGLE QUOTATION MARK|MAGNIFYING GLASS"]),
   ("LEFT-TO-RIGHT ", ["EMBEDDING|ISOLATE|MARK|OVERRIDE"]),
   ("LEFTWARDS ",
    ["ARROW|BLACK ARROW|DASHED ARROW|DOUBLE ARROW|DOUBLE ARROW WITH STROKE|HAND",
     "HARPOON OVER RIGHTWARDS HARPOON|HARPOON WITH BARB DOWNWARDS|HARPOON WITH BARB UPWARDS",
     "OPEN-HEADED ARROW|PAIRED ARROWS|QUADRUPLE ARROW|SQUIGGLE ARROW|TRIPLE ARROW",
     "TWO HEADED ARROW|TWO-HEADED ARROW FROM BAR|TWO-HEADED TRIPLE DASH ARROW|WAVE ARROW",
     "WHITE ARROW"]),
   ("LEFTWARDS ARROW ",
    ["ABOVE ALMOST EQUAL TO|ABOVE REVERSE ALMOST EQUAL TO|ABOVE REVERSE TILDE OPERATOR|FROM BAR",
     "OVER RIGHTWARDS ARROW|THROUGH X|TO BAR|TO BAR OVER RIGHTWARDS ARROW TO BAR"]),
   ("LEFTWARDS ARROW WITH ",
    ["DOTTED STEM|DOUBLE VERTICAL STROKE|HOOK|LOOP|STROKE|TAIL|TAIL WITH DOUBLE VERTICAL STROKE",
     "TAIL WITH VERTICAL STROKE|TIP DOWNWARDS|TIP UPWARDS|VERTICAL STROKE"]),
   ("LEFTWARDS TWO-HEADED ARROW WITH ",
    ["DOUBLE VERTICAL STROKE|TAIL|TAIL WITH DOUBLE VERTICAL STROKE|TAIL WITH VERTICAL STROKE",
     "VERTICAL STROKE"]),
   ("LESS-THAN ",
    ["BUT NOT EQUAL TO|BUT NOT EQUIVALENT TO|EQUAL TO OR GREATER-THAN|OR EQUAL TO",
     "OR EQUIVALENT TO|OR GREATER-THAN|OVER EQUAL TO|SIGN|WITH DOT"]),
   ("LIGHT ",
    ["CHECK MARK|LEFT TORTOISE SHELL BRACKET ORNAMENT|RAIL|RIGHT TORTOISE SHELL BRACKET ORNAMENT",
     "SHADE|VERTICAL BAR"]),
   ("LINE ", ["FEED|SEPARATOR|TABULATION|TABULATION SET"]),
   ("LOCKING-SHIFT ", ["ONE|ZERO"]),
   ("LONG ", ["DIVISION|DRUM|LEFT RIGHT ARROW|LEFT RIGHT DOUBLE ARROW|LEFT TACK|RIGHT TACK"]),
   ("LONG LEFTWARDS ", ["ARROW|ARROW FROM BAR|DOUBLE ARROW|DOUBLE ARROW FROM BAR|SQUIGGLE ARROW"]),
   ("LONG RIGHTWARDS ",
    ["ARROW|ARROW FROM BAR|DOUBLE ARROW|DOUBLE ARROW FROM BAR|SQUIGGLE ARROW"]),
   ("LOW ", ["ASTERISK|BATTERY|BRIGHTNESS SYMBOL|DOUBLE PRIME QUOTATION MARK|LINE"]),
   ("LOWER ",
    ["BLADE SCISSORS|FIVE EIGHTHS BLOCK|HALF BLOCK|HALF CIRCLE|HALF INVERSE WHITE CIRCLE",
     "ONE EIGHTH BLOCK|ONE QUARTER BLOCK|SEVEN EIGHTHS BLOCK|THREE EIGHTHS BLOCK",
     "THREE QUARTERS BLOCK"]),
   ("LOWER LEFT ",
    ["BALLPOINT PEN|CRAYON|FOUNTAIN PEN|PAINTBRUSH|PENCIL|QUADRANT CIRCULAR ARC|TRIANGLE"]),
   ("LOWER RIGHT ",
    ["CORNER WITH DOT|DROP-SHADOWED WHITE SQUARE|PENCIL|QUADRANT CIRCULAR ARC",
     "SHADOWED WHITE CIRCLE|SHADOWED WHITE SQUARE|TRIANGLE"]),
   ("MAHJONG TILE ",
    ["AUTUMN|BACK|BAMBOO|CHRYSANTHEMUM|EAST WIND|EIGHT OF BAMBOOS|EIGHT OF CHARACTERS",
     "EIGHT OF CIRCLES|FIVE OF BAMBOOS|FIVE OF CHARACTERS|FIVE OF CIRCLES|FOUR OF BAMBOOS",
     "FOUR OF CHARACTERS|FOUR OF CIRCLES|GREEN DRAGON|JOKER|NINE OF BAMBOOS|NINE OF CHARACTERS",
     "NINE OF CIRCLES|NORTH WIND|ONE OF BAMBOOS|ONE OF CHARACTERS|ONE OF CIRCLES|ORCHID|PLUM",
     "RED DRAGON|SEVEN OF BAMBOOS|SEVEN OF CHARACTERS|SEVEN OF CIRCLES|SIX OF BAMBOOS",
     "SIX OF CHARACTERS|SIX OF CIRCLES|SOUTH WIND|SPRING|SUMMER|THREE OF BAMBOOS",
     "THREE OF CHARACTERS|THREE OF CIRCLES|TWO OF BAMBOOS|TWO OF CHARACTERS|TWO OF CIRCLES",
     "WEST WIND|WHITE DRAGON|WINTER"]),
   ("MALE WITH STROKE ", ["AND MALE AND FEMALE SIGN|SIGN"]),
   ("MAN ",
    ["AND WOMAN HOLDING HANDS|DANCING|IN BUSINESS SUIT LEVITATING|IN TUXEDO|WITH GUA PI MAO",
     "WITH TURBAN"]),
   ("MATHEMATICAL ",
    ["FALLING DIAGONAL|LEFT ANGLE BRACKET|LEFT DOUBLE ANGLE BRACKET|LEFT FLATTENED PARENTHESIS",
     "LEFT WHITE SQUARE BRACKET|LEFT WHITE TORTOISE SHELL BRACKET|RISING DIAGONAL"]),
   ("MATHEMATICAL BOLD ",
    ["EPSILON SYMBOL|KAPPA SYMBOL|NABLA|PARTIAL DIFFERENTIAL|PHI SYMBOL|PI SYMBOL|RHO SYMBOL",
     "THETA SYMBOL"]),
   ("MATHEMATICAL BOLD CAPITAL ",
    ["A|ALPHA|B|BETA|C|CHI|D|DELTA|DIGAMMA|E|EPSILON|ETA|F|G|GAMMA|H|I|IOTA|J|K|KAPPA|L|LAMDA|M",
     "MU|N|NU|O|OMEGA|OMICRON|P|PHI|PI|PSI|Q|R|RHO|S|SIGMA|T|TAU|THETA|THETA SYMBOL|U|UPSILON|V",
     "W|X|XI|Y|Z|ZETA"]),
   ("MATHEMATICAL BOLD DIGIT ", ["EIGHT|FIVE|FOUR|NINE|ONE|SEVEN|SIX|THREE|TWO|ZERO"]),
   ("MATHEMATICAL BOLD FRAKTUR CAPITAL ", ["A|B|C|D|E|F|G|H|I|J|K|L|M|N|O|P|Q|R|S|T|U|V|W|X|Y|Z"]),
   ("MATHEMATICAL BOLD FRAKTUR SMALL ", ["A|B|C|D|E|F|G|H|I|J|K|L|M|N|O|P|Q|R|S|T|U|V|W|X|Y|Z"]),
   ("MATHEMATICAL BOLD ITALIC ",
    ["EPSILON SYMBOL|KAPPA SYMBOL|NABLA|PARTIAL DIFFERENTIAL|PHI SYMBOL|PI SYMBOL|RHO SYMBOL",
     "THETA SYMBOL"]),
   ("MATHEMATICAL BOLD ITALIC CAPITAL ",
    ["A|ALPHA|B|BETA|C|CHI|D|DELTA|E|EPSILON|ETA|F|G|GAMMA|H|I|IOTA|J|K|KAPPA|L|LAMDA|M|MU|N|NU",
     "O|OMEGA|OMICRON|P|PHI|PI|PSI|Q|R|RHO|S|SIGMA|T|TAU|THETA|THETA SYMBOL|U|UPSILON|V|W|X|XI|Y",
     "Z|ZETA"]),
   ("MATHEMATICAL BOLD ITALIC SMALL ",
    ["A|ALPHA|B|BETA|C|CHI|D|DELTA|E|EPSILON|ETA|F|FINAL SIGMA|G|GAMMA|H|I|IOTA|J|K|KAPPA|L",
     "LAMDA|M|MU|N|NU|O|OMEGA|OMICRON|P|PHI|PI|PSI|Q|R|RHO|S|SIGMA|T|TAU|THETA|U|UPSILON|V|W|X",
     "XI|Y|Z|ZETA"]),
   ("MATHEMATICAL BOLD SCRIPT CAPITAL ", ["A|B|C|D|E|F|G|H|I|J|K|L|M|N|O|P|Q|R|S|T|U|V|W|X|Y|Z"]),
   ("MATHEMATICAL BOLD SCRIPT SMALL ", ["A|B|C|D|E|F|G|H|I|J|K|L|M|N|O|P|Q|R|S|T|U|V|W|X|Y|Z"]),
   ("MATHEMATICAL BOLD SMALL ",
    ["A|ALPHA|B|BETA|C|CHI|D|DELTA|DIGAMMA|E|EPSILON|ETA|F|FINAL SIGMA|G|GAMMA|H|I|IOTA|J|K",
     "KAPPA|L|LAMDA|M|MU|N|NU|O|OMEGA|OMICRON|P|PHI|PI|PSI|Q|R|RHO|S|SIGMA|T|TAU|THETA|U|UPSILON",
     "V|W|X|XI|Y|Z|ZETA"]),
   ("MATHEMATICAL DOUBLE-STRUCK CAPITAL ", ["A|B|D|E|F|G|I|J|K|L|M|O|S|T|U|V|W|X|Y"]),
   ("MATHEMATICAL DOUBLE-STRUCK DIGIT ", ["EIGHT|FIVE|FOUR|NINE|ONE|SEVEN|SIX|THREE|TWO|ZERO"]),
   ("MATHEMATICAL DOUBLE-STRUCK SMALL ", ["A|B|C|D|E|F|G|H|I|J|K|L|M|N|O|P|Q|R|S|T|U|V|W|X|Y|Z"]),
   ("MATHEMATICAL FRAKTUR CAPITAL ", ["A|B|D|E|F|G|J|K|L|M|N|O|P|Q|S|T|U|V|W|X|Y"]),
   ("MATHEMATICAL FRAKTUR SMALL ", ["A|B|C|D|E|F|G|H|I|J|K|L|M|N|O|P|Q|R|S|T|U|V|W|X|Y|Z"]),
   ("MATHEMATICAL ITALIC ",
    ["EPSILON SYMBOL|KAPPA SYMBOL|NABLA|PARTIAL DIFFERENTIAL|PHI SYMBOL|PI SYMBOL|RHO SYMBOL",
     "THETA SYMBOL"]),
   ("MATHEMATICAL ITALIC CAPITAL ",
    ["A|ALPHA|B|BETA|C|CHI|D|DELTA|E|EPSILON|ETA|F|G|GAMMA|H|I|IOTA|J|K|KAPPA|L|LAMDA|M|MU|N|NU",
     "O|OMEGA|OMICRON|P|PHI|PI|PSI|Q|R|RHO|S|SIGMA|T|TAU|THETA|THETA SYMBOL|U|UPSILON|V|W|X|XI|Y",
     "Z|ZETA"]),
   ("MATHEMATICAL ITALIC SMALL ",
    ["A|ALPHA|B|BETA|C|CHI|D|DELTA|DOTLESS I|DOTLESS J|E|EPSILON|ETA|F|FINAL SIGMA|G|GAMMA|I",
     "IOTA|J|K|KAPPA|L|LAMDA|M|MU|N|NU|O|OMEGA|OMICRON|P|PHI|PI|PSI|Q|R|RHO|S|SIGMA|T|TAU|THETA",
     "U|UPSILON|V|W|X|XI|Y|Z|ZETA"]),
   ("MATHEMATICAL MONOSPACE CAPITAL ", ["A|B|C|D|E|F|G|H|I|J|K|L|M|N|O|P|Q|R|S|T|U|V|W|X|Y|Z"]),
   ("MATHEMATICAL MONOSPACE DIGIT ", ["EIGHT|FIVE|FOUR|NINE|ONE|SEVEN|SIX|THREE|TWO|ZERO"]),
   ("MATHEMATICAL MONOSPACE SMALL ", ["A|B|C|D|E|F|G|H|I|J|K|L|M|N|O|P|Q|R|S|T|U|V|W|X|Y|Z"]),
   ("MATHEMATICAL RIGHT ",
    ["ANGLE BRACKET|DOUBLE ANGLE BRACKET|FLATTENED PARENTHESIS|WHITE SQUARE BRACKET",
     "WHITE TORTOISE SHELL BRACKET"]),
   ("MATHEMATICAL SANS-SERIF BOLD ",
    ["EPSILON SYMBOL|KAPPA SYMBOL|NABLA|PARTIAL DIFFERENTIAL|PHI SYMBOL|PI SYMBOL|RHO SYMBOL",
     "THETA SYMBOL"]),
   ("MATHEMATICAL SANS-SERIF BOLD CAPITAL ",
    ["A|ALPHA|B|BETA|C|CHI|D|DELTA|E|EPSILON|ETA|F|G|GAMMA|H|I|IOTA|J|K|KAPPA|L|LAMDA|M|MU|N|NU",
     "O|OMEGA|OMICRON|P|PHI|PI|PSI|Q|R|RHO|S|SIGMA|T|TAU|THETA|THETA SYMBOL|U|UPSILON|V|W|X|XI|Y",
     "Z|ZETA"]),
   ("MATHEMATICAL SANS-SERIF BOLD DIGIT ", ["EIGHT|FIVE|FOUR|NINE|ONE|SEVEN|SIX|THREE|TWO|ZERO"]),
   ("MATHEMATICAL SANS-SERIF BOLD ITALIC ",
    ["EPSILON SYMBOL|KAPPA SYMBOL|NABLA|PARTIAL DIFFERENTIAL|PHI SYMBOL|PI SYMBOL|RHO SYMBOL",
     "THETA SYMBOL"]),
   ("MATHEMATICAL SANS-SERIF BOLD ITALIC CAPITAL ",
    ["A|ALPHA|B|BETA|C|CHI|D|DELTA|E|EPSILON|ETA|F|G|GAMMA|H|I|IOTA|J|K|KAPPA|L|LAMDA|M|MU|N|NU",
     "O|OMEGA|OMICRON|P|PHI|PI|PSI|Q|R|RHO|S|SIGMA|T|TAU|THETA|THETA SYMBOL|U|UPSILON|V|W|X|XI|Y",
     "Z|ZETA"]),
   ("MATHEMATICAL SANS-SERIF BOLD ITALIC SMALL ",
    ["A|ALPHA|B|BETA|C|CHI|D|DELTA|E|EPSILON|ETA|F|FINAL SIGMA|G|GAMMA|H|I|IOTA|J|K|KAPPA|L",
     "LAMDA|M|MU|N|NU|O|OMEGA|OMICRON|P|PHI|PI|PSI|Q|R|RHO|S|SIGMA|T|TAU|THETA|U|UPSILON|V|W|X",
     "XI|Y|Z|ZETA"]),
   ("MATHEMATICAL SANS-SERIF BOLD SMALL ",
    ["A|ALPHA|B|BETA|C|CHI|D|DELTA|E|EPSILON|ETA|F|FINAL SIGMA|G|GAMMA|H|I|IOTA|J|K|KAPPA|L",
     "LAMDA|M|MU|N|NU|O|OMEGA|OMICRON|P|PHI|PI|PSI|Q|R|RHO|S|SIGMA|T|TAU|THETA|U|UPSILON|V|W|X",
     "XI|Y|Z|ZETA"]),
   ("MATHEMATICAL SANS-SERIF CAPITAL ", ["A|B|C|D|E|F|G|H|I|J|K|L|M|N|O|P|Q|R|S|T|U|V|W|X|Y|Z"]),
   ("MATHEMATICAL SANS-SERIF DIGIT ", ["EIGHT|FIVE|FOUR|NINE|ONE|SEVEN|SIX|THREE|TWO|ZERO"]),
   ("MATHEMATICAL SANS-SERIF ITALIC CAPITAL ",
    ["A|B|C|D|E|F|G|H|I|J|K|L|M|N|O|P|Q|R|S|T|U|V|W|X|Y|Z"]),
   ("MATHEMATICAL SANS-SERIF ITALIC SMALL ",
    ["A|B|C|D|E|F|G|H|I|J|K|L|M|N|O|P|Q|R|S|T|U|V|W|X|Y|Z"]),
   ("MATHEMATICAL SANS-SERIF SMALL ", ["A|B|C|D|E|F|G|H|I|J|K|L|M|N|O|P|Q|R|S|T|U|V|W|X|Y|Z"]),
   ("MATHEMATICAL SCRIPT CAPITAL ", ["A|C|D|G|J|K|N|O|P|Q|S|T|U|V|W|X|Y|Z"]),
   ("MATHEMATICAL SCRIPT SMALL ", ["A|B|C|D|F|H|I|J|K|L|M|N|P|Q|R|S|T|U|V|W|X|Y|Z"]),
   ("MECHANICAL ", ["ARM|LEG"]),
   ("MEDIUM ",
    ["BLACK CIRCLE|FLATTENED LEFT PARENTHESIS ORNAMENT|FLATTENED RIGHT PARENTHESIS ORNAMENT",
     "LEFT CURLY BRACKET ORNAMENT|LEFT PARENTHESIS ORNAMENT|LEFT-POINTING ANGLE BRACKET ORNAMENT",
     "MATHEMATICAL SPACE|RIGHT CURLY BRACKET ORNAMENT|RIGHT PARENTHESIS ORNAMENT",
     "RIGHT-POINTING ANGLE BRACKET ORNAMENT|SHADE|SMALL WHITE CIRCLE|VERTICAL BAR|WHITE CIRCLE"]),
   ("METRICAL ",
    ["BREVE|LONG OVER SHORT|LONG OVER TWO SHORTS|PENTASEME|SHORT OVER LONG|TETRASEME|TRISEME",
     "TWO SHORTS JOINED|TWO SHORTS OVER LONG"]),
   ("MOBILE ", ["PHONE|PHONE OFF|PHONE WITH RIGHTWARDS ARROW AT LEFT"]),
   ("MODIFIER LETTER ",
    ["ACUTE ACCENT|APOSTROPHE|BEGIN HIGH TONE|BEGIN LOW TONE|CENTRED LEFT HALF RING",
     "CENTRED RIGHT HALF RING|CIRCUMFLEX ACCENT|CROSS ACCENT|DOUBLE APOSTROPHE|DOUBLE PRIME",
     "DOWN ARROWHEAD|DOWN TACK|END HIGH TONE|END LOW TONE|EXTRA-HIGH TONE BAR|EXTRA-LOW TONE BAR",
     "GEORGIAN NAR|GLOTTAL STOP|GRAVE ACCENT|HALF TRIANGULAR COLON|HIGH TONE BAR|LEFT ARROWHEAD",
     "LEFT HALF RING|MACRON|MID TONE BAR|MIDDLE DOUBLE ACUTE ACCENT|MIDDLE DOUBLE GRAVE ACCENT",
     "MIDDLE GRAVE ACCENT|MINUS SIGN|OPEN SHELF|PLUS SIGN|PRIME|RAISED COLON|REVERSED COMMA",
     "REVERSED GLOTTAL STOP|RHOTIC HOOK|RIGHT ARROWHEAD|RIGHT HALF RING|SHELF|TRIANGULAR COLON",
     "TURNED COMMA|UNASPIRATED|UP ARROWHEAD|UP TACK|VERTICAL LINE|VOICING",
     "YANG DEPARTING TONE MARK|YIN DEPARTING TONE MARK"]),
   ("MODIFIER LETTER LOW ",
    ["ACUTE ACCENT|DOWN ARROWHEAD|GRAVE ACCENT|LEFT ARROW|LEFT ARROWHEAD|MACRON|RIGHT ARROWHEAD",
     "RING|TILDE|TONE BAR|UP ARROWHEAD|VERTICAL LINE"]),
   ("MODIFIER LETTER SMALL ",
    ["CAPITAL INVERTED R|GAMMA|H|H WITH HOOK|J|L|R|REVERSED GLOTTAL STOP|S|TURNED R",
     "TURNED R WITH HOOK|W|X|Y"]),
   ("MONOGRAM FOR ", ["YANG|YIN"]),
   ("MOUNTAIN ", ["BICYCLIST|CABLEWAY|RAILWAY"]),
   ("MULTIPLICATION ", ["SIGN|X"]),
   ("MUSIC ", ["FLAT SIGN|NATURAL SIGN|SHARP SIGN"]),
   ("MUSICAL ", ["KEYBOARD|KEYBOARD WITH JACKS|NOTE|SCORE"]),
   ("N-ARY ", ["COPRODUCT|INTERSECTION|LOGICAL AND|LOGICAL OR|PRODUCT|SUMMATION|UNION"]),
   ("NEGATIVE CIRCLED LATIN CAPITAL LETTER ",
    ["A|B|C|D|E|F|G|H|I|J|K|L|M|N|O|P|Q|R|S|T|U|V|W|X|Y|Z"]),
   ("NEGATIVE CIRCLED NUMBER ",
    ["EIGHTEEN|ELEVEN|FIFTEEN|FOURTEEN|NINETEEN|SEVENTEEN|SIXTEEN|THIRTEEN|TWELVE|TWENTY"]),
   ("NEGATIVE SQUARED ", ["AB|CROSS MARK|IC|PA|SA|WC"]),
   ("NEGATIVE SQUARED LATIN CAPITAL LETTER ",
    ["A|B|C|D|E|F|G|H|I|J|K|L|M|N|O|P|Q|R|S|T|U|V|W|X|Y|Z"]),
   ("NEITHER ",
    ["A SUBSET OF NOR EQUAL TO|A SUPERSET OF NOR EQUAL TO|APPROXIMATELY NOR ACTUALLY EQUAL TO"]),
   ("NEITHER GREATER-THAN NOR ", ["EQUAL TO|EQUIVALENT TO|LESS-THAN"]),
   ("NEITHER LESS-THAN NOR ", ["EQUAL TO|EQUIVALENT TO|GREATER-THAN"]),
   ("NEW ", ["LINE|MOON SYMBOL|MOON WITH FACE|SHEQEL SIGN"]),
   ("NO ",
    ["BICYCLES|BREAK HERE|ENTRY|ENTRY SIGN|MOBILE PHONES|ONE UNDER EIGHTEEN SYMBOL|PEDESTRIANS",
     "PIRACY|SMOKING SYMBOL"]),
   ("NORMAL SUBGROUP ", ["OF|OF OR EQUAL TO"]),
   ("NORTH EAST ", ["ARROW|BLACK ARROW|DOUBLE ARROW|WHITE ARROW"]),
   ("NORTH WEST ",
    ["ARROW|ARROW TO CORNER|ARROW TO LONG BAR|BLACK ARROW|DOUBLE ARROW|WHITE ARROW"]),
   ("NOT ",
    ["A SUBSET OF|A SUPERSET OF|ALMOST EQUAL TO|AN ELEMENT OF|ASYMPTOTICALLY EQUAL TO|CHECK MARK",
     "EQUAL TO|EQUIVALENT TO|GREATER-THAN|IDENTICAL TO|LESS-THAN|PARALLEL TO|SIGN",
     "SQUARE IMAGE OF OR EQUAL TO|SQUARE ORIGINAL OF OR EQUAL TO|TILDE|TRUE"]),
   ("NOT NORMAL SUBGROUP ", ["OF|OF OR EQUAL TO"]),
   ("NOTCHED ",
    ["LEFT SEMICIRCLE WITH THREE DOTS|LOWER RIGHT-SHADOWED WHITE RIGHTWARDS ARROW",
     "RIGHT SEMICIRCLE WITH THREE DOTS|UPPER RIGHT-SHADOWED WHITE RIGHTWARDS ARROW"]),
   ("NUMBER ",
    ["EIGHTEEN FULL STOP|ELEVEN FULL STOP|FIFTEEN FULL STOP|FOURTEEN FULL STOP",
     "NINETEEN FULL STOP|SEVENTEEN FULL STOP|SIGN|SIXTEEN FULL STOP|TEN FULL STOP",
     "THIRTEEN FULL STOP|TWELVE FULL STOP|TWENTY FULL STOP"]),
   ("OCR ",
    ["AMOUNT OF CHECK|BELT BUCKLE|BOW TIE|BRANCH BANK IDENTIFICATION|CHAIR",
     "CUSTOMER ACCOUNT NUMBER|DASH|DOUBLE BACKSLASH|FORK|HOOK|INVERTED FORK"]),
   ("OLDER ", ["ADULT|MAN|WOMAN"]),
   ("ONCOMING ", ["AUTOMOBILE|BUS|FIRE ENGINE|POLICE CAR|TAXI"]),
   ("OPEN ",
    ["BOOK|BOX|FILE FOLDER|FOLDER|HANDS SIGN|LOCK|MAILBOX WITH LOWERED FLAG",
     "MAILBOX WITH RAISED FLAG|SUBSET|SUPERSET"]),
   ("OPEN CENTRE ", ["ASTERISK|BLACK STAR|CROSS|TEARDROP-SPOKED ASTERISK"]),
   ("OPEN-CIRCUIT-OUTPUT ", ["H-TYPE SYMBOL|L-TYPE SYMBOL"]),
   ("OUTLINED ", ["BLACK STAR|GREEK CROSS|LATIN CROSS|WHITE STAR"]),
   ("PARENTHESIZED DIGIT ", ["EIGHT|FIVE|FOUR|NINE|ONE|SEVEN|SIX|THREE|TWO"]),
   ("PARENTHESIZED LATIN CAPITAL LETTER ",
    ["A|B|C|D|E|F|G|H|I|J|K|L|M|N|O|P|Q|R|S|T|U|V|W|X|Y|Z"]),
   ("PARENTHESIZED LATIN SMALL LETTER ", ["A|B|C|D|E|F|G|H|I|J|K|L|M|N|O|P|Q|R|S|T|U|V|W|X|Y|Z"]),
   ("PARENTHESIZED NUMBER ",
    ["EIGHTEEN|ELEVEN|FIFTEEN|FOURTEEN|NINETEEN|SEVENTEEN|SIXTEEN|TEN|THIRTEEN|TWELVE|TWENTY"]),
   ("PARTIAL LINE ", ["BACKWARD|DOWN|FORWARD|UP"]),
   ("PERSON ",
    ["BOWING DEEPLY|CLIMBING|DOING CARTWHEEL|FROWNING|IN LOTUS POSITION|IN STEAMY ROOM",
     "RAISING BOTH HANDS IN CELEBRATION"]),
   ("PERSON WITH ", ["BALL|BLOND HAIR|CROWN|FOLDED HANDS|HEADSCARF|POUTING FACE"]),
   ("PLAYING CARD ",
    ["ACE OF CLUBS|ACE OF DIAMONDS|ACE OF HEARTS|ACE OF SPADES|BACK|BLACK JOKER|FOOL|RED JOKER",
     "SIX OF CLUBS|SIX OF DIAMONDS|SIX OF HEARTS|SIX OF SPADES|TEN OF CLUBS|TEN OF DIAMONDS",
     "TEN OF HEARTS|TEN OF SPADES|TRUMP-1|TRUMP-10|TRUMP-11|TRUMP-12|TRUMP-13|TRUMP-14|TRUMP-15",
     "TRUMP-16|TRUMP-17|TRUMP-18|TRUMP-19|TRUMP-2|TRUMP-20|TRUMP-21|TRUMP-3|TRUMP-4|TRUMP-5",
     "TRUMP-6|TRUMP-7|TRUMP-8|TRUMP-9|TWO OF CLUBS|TWO OF DIAMONDS|TWO OF HEARTS|TWO OF SPADES",
     "WHITE JOKER"]),
   ("PLAYING CARD EIGHT OF ", ["CLUBS|DIAMONDS|HEARTS|SPADES"]),
   ("PLAYING CARD FIVE OF ", ["CLUBS|DIAMONDS|HEARTS|SPADES"]),
   ("PLAYING CARD FOUR OF ", ["CLUBS|DIAMONDS|HEARTS|SPADES"]),
   ("PLAYING CARD JACK OF ", ["CLUBS|DIAMONDS|HEARTS|SPADES"]),
   ("PLAYING CARD KING OF ", ["CLUBS|DIAMONDS|HEARTS|SPADES"]),
   ("PLAYING CARD KNIGHT OF ", ["CLUBS|DIAMONDS|HEARTS|SPADES"]),
   ("PLAYING CARD NINE OF ", ["CLUBS|DIAMONDS|HEARTS|SPADES"]),
   ("PLAYING CARD QUEEN OF ", ["CLUBS|DIAMONDS|HEARTS|SPADES"]),
   ("PLAYING CARD SEVEN OF ", ["CLUBS|DIAMONDS|HEARTS|SPADES"]),
   ("PLAYING CARD THREE OF ", ["CLUBS|DIAMONDS|HEARTS|SPADES"]),
   ("POLICE ", ["CAR|CARS REVOLVING LIGHT|OFFICER"]),
   ("POP DIRECTIONAL ", ["FORMATTING|ISOLATE"]),
   ("POSTAL ", ["HORN|MARK|MARK FACE"]),
   ("POWER ", ["ON SYMBOL|ON-OFF SYMBOL|SLEEP SYMBOL|SYMBOL"]),
   ("PRECEDES ", ["BUT NOT EQUIVALENT TO|OR EQUAL TO|OR EQUIVALENT TO|UNDER RELATION"]),
   ("PREGNANT ", ["MAN|PERSON|WOMAN"]),
   ("PRESENTATION FORM FOR VERTICAL ",
    ["EM DASH|EN DASH|LEFT ANGLE BRACKET|LEFT BLACK LENTICULAR BRACKET|LEFT CORNER BRACKET",
     "LEFT CURLY BRACKET|LEFT DOUBLE ANGLE BRACKET|LEFT PARENTHESIS|LEFT SQUARE BRACKET",
     "LEFT TORTOISE SHELL BRACKET|LEFT WHITE CORNER BRACKET|LOW LINE|TWO DOT LEADER",
     "WAVY LOW LINE"]),
   ("PRESENTATION FORM FOR VERTICAL RIGHT ",
    ["ANGLE BRACKET|BLACK LENTICULAR BRACKET|CORNER BRACKET|CURLY BRACKET|DOUBLE ANGLE BRACKET",
     "PARENTHESIS|SQUARE BRACKET|TORTOISE SHELL BRACKET|WHITE CORNER BRACKET"]),
   ("PRIVATE ", ["USE ONE|USE TWO|USE-1|USE-2"]),
   ("QUADRANT LOWER ", ["LEFT|RIGHT"]),
   ("QUADRANT UPPER ",
    ["LEFT|LEFT AND LOWER LEFT AND LOWER RIGHT|LEFT AND LOWER RIGHT|RIGHT|RIGHT AND LOWER LEFT",
     "RIGHT AND LOWER LEFT AND LOWER RIGHT"]),
   ("QUADRANT UPPER LEFT AND UPPER RIGHT AND LOWER ", ["LEFT|RIGHT"]),
   ("RAISED ",
    ["BACK OF HAND|FIST|HAND|HAND WITH FINGERS SPLAYED",
     "HAND WITH PART BETWEEN MIDDLE AND RING FINGERS|MC SIGN|MD SIGN|MR SIGN"]),
   ("RECYCLING SYMBOL FOR ",
    ["GENERIC MATERIALS|TYPE-1 PLASTICS|TYPE-2 PLASTICS|TYPE-3 PLASTICS|TYPE-4 PLASTICS",
     "TYPE-5 PLASTICS|TYPE-6 PLASTICS|TYPE-7 PLASTICS"]),
   ("REGIONAL INDICATOR SYMBOL LETTER ", ["A|B|C|D|E|F|G|H|I|J|K|L|M|N|O|P|Q|R|S|T|U|V|W|X|Y|Z"]),
   ("RESTRICTED LEFT ", ["ENTRY-1|ENTRY-2"]),
   ("REVERSE ", ["INDEX|LINE FEED|SOLIDUS|SOLIDUS PRECEDING SUBSET"]),
   ("REVERSE TILDE OPERATOR ABOVE ", ["LEFTWARDS ARROW|RIGHTWARDS ARROW"]),
   ("REVERSED ",
    ["DOUBLE PRIME|DOUBLE PRIME QUOTATION MARK|HAND WITH MIDDLE FINGER EXTENDED|NOT SIGN",
     "PILCROW SIGN|PRIME|RAISED HAND WITH FINGERS SPLAYED|ROTATED FLORAL HEART BULLET",
     "SANS-SERIF CAPITAL L|SEMICOLON|THUMBS DOWN SIGN|THUMBS UP SIGN|TILDE|TILDE EQUALS",
     "TRIPLE PRIME|VICTORY HAND"]),
   ("RIGHT ",
    ["ANGER BUBBLE|ANGLE|ANGLE BRACKET|ANGLE WITH ARC|ANGLE WITH DOWNWARDS ZIGZAG ARROW",
     "ARROW WITH CIRCLED PLUS|ARROW WITH SMALL CIRCLE|BLACK LENTICULAR BRACKET|CEILING",
     "CORNER BRACKET|CURLY BRACKET|DOUBLE ANGLE BRACKET|DOUBLE QUOTATION MARK|FLOOR",
     "HALF BLACK CIRCLE|HALF BLOCK|HAND TELEPHONE RECEIVER|NORMAL FACTOR SEMIDIRECT PRODUCT",
     "ONE EIGHTH BLOCK|OUTER JOIN|PARENTHESIS|S-SHAPED BAG DELIMITER|SEMIDIRECT PRODUCT",
     "SINGLE QUOTATION MARK|SPEAKER|SPEAKER WITH ONE SOUND WAVE|SPEAKER WITH THREE SOUND WAVES",
     "SPEECH BUBBLE|SQUARE BRACKET|TACK|THOUGHT BUBBLE|TORTOISE SHELL BRACKET|TRIANGLE",
     "VERTICAL BOX LINE"]),
   ("RIGHT CURLY BRACKET ", ["LOWER HOOK|MIDDLE PIECE|UPPER HOOK"]),
   ("RIGHT PARENTHESIS ", ["EXTENSION|LOWER HOOK|UPPER HOOK"]),
   ("RIGHT SQUARE BRACKET ", ["EXTENSION|LOWER CORNER|UPPER CORNER|WITH QUILL"]),
   ("RIGHT WHITE ", ["CORNER BRACKET|LENTICULAR BRACKET|SQUARE BRACKET|TORTOISE SHELL BRACKET"]),
   ("RIGHT-FACING ", ["ARMENIAN ETERNITY SIGN|FIST"]),
   ("RIGHT-POINTING ", ["ANGLE BRACKET|DOUBLE ANGLE QUOTATION MARK|MAGNIFYING GLASS"]),
   ("RIGHT-TO-LEFT ", ["EMBEDDING|ISOLATE|MARK|OVERRIDE"]),
   ("RIGHTWARDS ",
    ["ARROW|DASHED ARROW|DOUBLE ARROW|DOUBLE ARROW WITH STROKE|HAND",
     "HARPOON OVER LEFTWARDS HARPOON|HARPOON WITH BARB DOWNWARDS|HARPOON WITH BARB UPWARDS",
     "OPEN-HEADED ARROW|PAIRED ARROWS|QUADRUPLE ARROW|SQUIGGLE ARROW|TRIPLE ARROW",
     "TWO HEADED ARROW|WAVE ARROW|WHITE ARROW|WHITE ARROW FROM WALL"]),
   ("RIGHTWARDS ARROW ",
    ["ABOVE REVERSE ALMOST EQUAL TO|ABOVE REVERSE TILDE OPERATOR|FROM BAR|OVER LEFTWARDS ARROW",
     "THROUGH GREATER-THAN|THROUGH SUPERSET|TO BAR"]),
   ("RIGHTWARDS ARROW WITH ",
    ["CORNER DOWNWARDS|DOUBLE VERTICAL STROKE|HOOK|LOOP|STROKE|TAIL|TIP DOWNWARDS|TIP UPWARDS",
     "VERTICAL STROKE"]),
   ("RING ", ["ABOVE|BUOY|EQUAL TO|IN EQUAL TO|OPERATOR"]),
   ("ROMAN NUMERAL ",
    ["EIGHT|ELEVEN|FIFTY|FIFTY EARLY FORM|FIFTY THOUSAND|FIVE|FIVE HUNDRED|FIVE THOUSAND|FOUR",
     "NINE|ONE|ONE HUNDRED|ONE HUNDRED THOUSAND|ONE THOUSAND|ONE THOUSAND C D",
     "REVERSED ONE HUNDRED|SEVEN|SIX|SIX LATE FORM|TEN|TEN THOUSAND|THREE|TWELVE|TWO"]),
   ("ROTATED ", ["CAPITAL Q|FLORAL HEART BULLET|HEAVY BLACK HEART BULLET"]),
   ("ROUNDED SYMBOL FOR ", ["CAI|FU|LU|SHOU|SHUANGXI|XI"]),
   ("SCRIPT CAPITAL ", ["B|E|F|H|I|L|M|P|R"]),
   ("SCRIPT SMALL ", ["E|G|L|O"]),
   ("SHADOWED WHITE ", ["CIRCLE|LATIN CROSS|STAR"]),
   ("SHORT ",
    ["BACKSLANTED SOUTH ARROW|BENT ARROW POINTING DOWNWARDS THEN NORTH EAST|SLANTED NORTH ARROW"]),
   ("SIDEWAYS BLACK ",
    ["DOWN POINTING INDEX|LEFT POINTING INDEX|RIGHT POINTING INDEX|UP POINTING INDEX"]),
   ("SIDEWAYS WHITE ",
    ["DOWN POINTING INDEX|LEFT POINTING INDEX|RIGHT POINTING INDEX|UP POINTING INDEX"]),
   ("SINGLE ",
    ["CHARACTER INTRODUCER|GRAPHIC CHARACTER INTRODUCER|HIGH-REVERSED-9 QUOTATION MARK",
     "LEFT-POINTING ANGLE QUOTATION MARK|LOW-9 QUOTATION MARK",
     "RIGHT-POINTING ANGLE QUOTATION MARK|SHIFT THREE|SHIFT TWO"]),
   ("SIX POINTED ", ["BLACK STAR|STAR WITH MIDDLE DOT"]),
   ("SLANTED NORTH ARROW WITH ", ["HOOKED HEAD|HORIZONTAL TAIL"]),
   ("SLEEPING ", ["ACCOMMODATION|FACE|SYMBOL"]),
   ("SMALL ",
    ["AIRPLANE|AMPERSAND|ASTERISK|BLUE DIAMOND|COLON|COMMA|COMMERCIAL AT|DOLLAR SIGN|ELEMENT OF",
     "ELEMENT OF WITH OVERBAR|ELEMENT OF WITH VERTICAL BAR AT END OF HORIZONTAL STROKE|EM DASH",
     "EQUALS SIGN|EXCLAMATION MARK|FULL STOP|GREATER-THAN SIGN|HYPHEN-MINUS|IDEOGRAPHIC COMMA",
     "LEFT CURLY BRACKET|LEFT PARENTHESIS|LEFT TORTOISE SHELL BRACKET|LESS-THAN SIGN|NUMBER SIGN",
     "ORANGE DIAMOND|PERCENT SIGN|PLUS SIGN|QUESTION MARK|REVERSE SOLIDUS|RIGHT CURLY BRACKET",
     "RIGHT PARENTHESIS|RIGHT TORTOISE SHELL BRACKET|SEMICOLON|TILDE"]),
   ("SMALL CONTAINS ", ["AS MEMBER|WITH OVERBAR|WITH VERTICAL BAR AT END OF HORIZONTAL STROKE"]),
   ("SMALL ROMAN NUMERAL ",
    ["EIGHT|ELEVEN|FIFTY|FIVE|FIVE HUNDRED|FOUR|NINE|ONE|ONE HUNDRED|ONE THOUSAND|SEVEN|SIX|TEN",
     "THREE|TWELVE|TWO"]),
   ("SMILING CAT FACE WITH ", ["HEART-SHAPED EYES|OPEN MOUTH"]),
   ("SMILING FACE WITH ",
    ["HALO|HEART-SHAPED EYES|HORNS|OPEN MOUTH|SMILING EYES|SMILING EYES AND HAND COVERING MOUTH",
     "SMILING EYES AND THREE HEARTS|SUNGLASSES|TEAR"]),
   ("SMILING FACE WITH OPEN MOUTH AND ", ["COLD SWEAT|SMILING EYES|TIGHTLY-CLOSED EYES"]),
   ("SOUTH EAST ", ["ARROW|ARROW TO CORNER|BLACK ARROW|DOUBLE ARROW|WHITE ARROW"]),
   ("SOUTH WEST ", ["ARROW|BLACK ARROW|DOUBLE ARROW|WHITE ARROW"]),
   ("SPEAKER WITH ", ["CANCELLATION STROKE|ONE SOUND WAVE|THREE SOUND WAVES"]),
   ("SPIRAL ", ["CALENDAR PAD|NOTE PAD|SHELL"]),
   ("SQUARE ",
    ["CAP|CUP|DJ|FOOT|FOUR CORNERS|HIRAGANA HOKA|IMAGE OF|IMAGE OF OR EQUAL TO",
     "IMAGE OF OR NOT EQUAL TO|LOZENGE|ROOT"]),
   ("SQUARE ORIGINAL ", ["OF|OF OR EQUAL TO|OF OR NOT EQUAL TO"]),
   ("SQUARE WITH ",
    ["BOTTOM HALF BLACK|DIAGONAL CROSSHATCH FILL|HORIZONTAL FILL|LEFT HALF BLACK",
     "LOWER LEFT DIAGONAL HALF BLACK|LOWER RIGHT DIAGONAL HALF BLACK|ORTHOGONAL CROSSHATCH FILL",
     "RIGHT HALF BLACK|TOP HALF BLACK|UPPER LEFT DIAGONAL HALF BLACK",
     "UPPER LEFT TO LOWER RIGHT FILL|UPPER RIGHT DIAGONAL HALF BLACK",
     "UPPER RIGHT TO LOWER LEFT FILL|VERTICAL FILL"]),
   ("SQUARED ",
    ["CL|COOL|DOT OPERATOR|EIGHT K|FIVE POINT ONE|FOUR K|FREE|HC|HDR|HI-RES|HV|ID|KATAKANA DE",
     "KATAKANA KOKO|KATAKANA SA|KEY|LATIN SMALL LETTER D|LOGICAL AND|LOGICAL OR|LOSSLESS|MINUS",
     "MV|NEW|NG|OK|ONE HUNDRED TWENTY P|PLUS|PPV|SALTIRE|SD|SECOND SCREEN|SEVEN POINT ONE|SHV",
     "SIXTY P|SOS|SS|THREE D|TIMES|TWENTY-TWO POINT TWO|TWO K|UHD|UP WITH EXCLAMATION MARK|VOD",
     "VS|WC"]),
   ("SQUARED CJK UNIFIED ",
    ["IDEOGRAPH-4E00|IDEOGRAPH-4E09|IDEOGRAPH-4E2D|IDEOGRAPH-4E8C|IDEOGRAPH-4EA4|IDEOGRAPH-518D",
     "IDEOGRAPH-521D|IDEOGRAPH-524D|IDEOGRAPH-5272|IDEOGRAPH-53CC|IDEOGRAPH-53F3|IDEOGRAPH-5408",
     "IDEOGRAPH-5439|IDEOGRAPH-55B6|IDEOGRAPH-58F0|IDEOGRAPH-591A|IDEOGRAPH-5929|IDEOGRAPH-5B57",
     "IDEOGRAPH-5DE6|IDEOGRAPH-5F8C|IDEOGRAPH-624B|IDEOGRAPH-6253|IDEOGRAPH-6295|IDEOGRAPH-6307",
     "IDEOGRAPH-6355|IDEOGRAPH-6599|IDEOGRAPH-65B0|IDEOGRAPH-6620|IDEOGRAPH-6708|IDEOGRAPH-6709",
     "IDEOGRAPH-6E80|IDEOGRAPH-6F14|IDEOGRAPH-7121|IDEOGRAPH-751F|IDEOGRAPH-7533|IDEOGRAPH-7981",
     "IDEOGRAPH-7A7A|IDEOGRAPH-7D42|IDEOGRAPH-89E3|IDEOGRAPH-8CA9|IDEOGRAPH-8D70|IDEOGRAPH-904A",
     "IDEOGRAPH-914D"]),
   ("SQUARED LATIN CAPITAL LETTER ", ["A|B|C|D|E|F|G|H|I|J|K|L|M|N|O|P|Q|R|S|T|U|V|W|X|Y|Z"]),
   ("STAR ", ["AND CRESCENT|EQUALS|OF DAVID|OPERATOR"]),
   ("START OF ", ["GUARDED AREA|HEADING|PROTECTED AREA|SELECTED AREA|STRING|TEXT"]),
   ("SUBSCRIPT ",
    ["EIGHT|EQUALS SIGN|FIVE|FOUR|LEFT PARENTHESIS|MINUS|NINE|ONE|PLUS SIGN|RIGHT PARENTHESIS",
     "SEVEN|SIX|THREE|TWO|ZERO"]),
   ("SUBSET ", ["OF|OF OR EQUAL TO|OF WITH NOT EQUAL TO"]),
   ("SUCCEEDS ", ["BUT NOT EQUIVALENT TO|OR EQUAL TO|OR EQUIVALENT TO|UNDER RELATION"]),
   ("SUPERSCRIPT ",
    ["EIGHT|EQUALS SIGN|FIVE|FOUR|LATIN SMALL LETTER I|LATIN SMALL LETTER N|LEFT PARENTHESIS",
     "MINUS|NINE|ONE|PLUS SIGN|RIGHT PARENTHESIS|SEVEN|SIX|THREE|TWO|ZERO"]),
   ("SUPERSET ", ["OF|OF OR EQUAL TO|OF WITH NOT EQUAL TO|PRECEDING SOLIDUS"]),
   ("SYMBOL FOR ",
    ["ACKNOWLEDGE|BACKSPACE|BELL|CANCEL|CARRIAGE RETURN|DATA LINK ESCAPE|DELETE|DELETE FORM TWO",
     "END OF MEDIUM|END OF TEXT|END OF TRANSMISSION|END OF TRANSMISSION BLOCK|ENQUIRY|ESCAPE",
     "FILE SEPARATOR|FORM FEED|GROUP SEPARATOR|HORIZONTAL TABULATION|LINE FEED|MARKS CHAPTER",
     "NEGATIVE ACKNOWLEDGE|NEWLINE|NULL|RECORD SEPARATOR|SAMARITAN SOURCE|SHIFT IN|SHIFT OUT",
     "SPACE|START OF HEADING|START OF TEXT|SUBSTITUTE|SUBSTITUTE FORM TWO|SYNCHRONOUS IDLE",
     "UNIT SEPARATOR|VERTICAL TABULATION"]),
   ("SYMBOL FOR DEVICE CONTROL ", ["FOUR|ONE|THREE|TWO"]),
   ("TELEPHONE ", ["LOCATION SIGN|ON TOP OF MODEM|RECEIVER|RECEIVER WITH PAGE|RECORDER|SIGN"]),
   ("THAI CHARACTER ",
    ["ANGKHANKHU|BO BAIMAI|CHO CHAN|CHO CHANG|CHO CHING|CHO CHOE|DO CHADA|DO DEK|FO FA|FO FAN",
     "FONGMAN|HO HIP|HO NOKHUK|KHO KHAI|KHO KHON|KHO KHUAT|KHO KHWAI|KHO RAKHANG|KHOMUT|KO KAI",
     "LAKKHANGYAO|LO CHULA|LO LING|LU|MAI CHATTAWA|MAI EK|MAI HAN-AKAT|MAI THO|MAI TRI|MAITAIKHU",
     "MAIYAMOK|MO MA|NGO NGU|NIKHAHIT|NO NEN|NO NU|O ANG|PAIYANNOI|PHINTHU|PHO PHAN|PHO PHUNG",
     "PHO SAMPHAO|PO PLA|RO RUA|RU|SO RUSI|SO SALA|SO SO|SO SUA|THANTHAKHAT|THO NANGMONTHO",
     "THO PHUTHAO|THO THAHAN|THO THAN|THO THONG|THO THUNG|TO PATAK|TO TAO|WO WAEN|YAMAKKAN",
     "YO YAK|YO YING"]),
   ("THAI CHARACTER SARA ", ["A|AA|AE|AI MAIMALAI|AI MAIMUAN|AM|E|I|II|O|U|UE|UEE|UU"]),
   ("THAI DIGIT ", ["EIGHT|FIVE|FOUR|NINE|ONE|SEVEN|SIX|THREE|TWO|ZERO"]),
   ("THREE ",
    ["BUTTON MOUSE|DIMENSIONAL ANGLE|DOT PUNCTUATION|LEFTWARDS ARROWS|NETWORKED COMPUTERS",
     "RAYS ABOVE|RAYS BELOW|RAYS LEFT|RAYS RIGHT|RIGHTWARDS ARROWS|SPEECH BUBBLES"]),
   ("THREE LINES CONVERGING ", ["LEFT|RIGHT"]),
   ("TOP ",
    ["CURLY BRACKET|HALF INTEGRAL|HAT|LEFT CORNER|LEFT CROP|PARENTHESIS|RIGHT CORNER|RIGHT CROP",
     "SQUARE BRACKET|TORTOISE SHELL BRACKET|WITH UPWARDS ARROW ABOVE"]),
   ("TORTOISE SHELL BRACKETED CJK UNIFIED ",
    ["IDEOGRAPH-4E09|IDEOGRAPH-4E8C|IDEOGRAPH-52DD|IDEOGRAPH-5B89|IDEOGRAPH-6253|IDEOGRAPH-6557",
     "IDEOGRAPH-672C|IDEOGRAPH-70B9|IDEOGRAPH-76D7"]),
   ("TRIANGULAR ", ["BULLET|FLAG ON POST|RULER"]),
   ("TRIGRAM FOR ", ["EARTH|FIRE|HEAVEN|LAKE|MOUNTAIN|THUNDER|WATER|WIND"]),
   ("TRIPLE ", ["INTEGRAL|PRIME|TILDE|VERTICAL BAR RIGHT TURNSTILE"]),
   ("TURNED ",
    ["AMPERSAND|BLACK SHOGI PIECE|CAPITAL F|DIGIT THREE|DIGIT TWO|GREEK SMALL LETTER IOTA",
     "NOT SIGN|OK HAND SIGN|SMALL F|WHITE SHOGI PIECE"]),
   ("TURNED SANS-SERIF CAPITAL ", ["G|L|Y"]),
   ("TWO ",
    ["ASTERISKS ALIGNED VERTICALLY|BUTTON MOUSE|DOT LEADER|DOT PUNCTUATION|HEARTS",
     "MEN HOLDING HANDS|SPEECH BUBBLES|WOMEN HOLDING HANDS"]),
   ("UP ",
    ["ARROWHEAD|ARROWHEAD BETWEEN TWO HORIZONTAL BARS|RIGHT DIAGONAL ELLIPSIS|TACK",
     "TACK WITH CIRCLE ABOVE"]),
   ("UP DOWN ", ["ARROW|ARROW WITH BASE|BLACK ARROW|DOUBLE ARROW|WHITE ARROW"]),
   ("UP-POINTING ",
    ["AIRPLANE|MILITARY AIRPLANE|RED TRIANGLE|SMALL AIRPLANE|SMALL RED TRIANGLE",
     "TRIANGLE WITH LEFT HALF BLACK|TRIANGLE WITH RIGHT HALF BLACK"]),
   ("UPPER ",
    ["BLADE SCISSORS|HALF BLOCK|HALF CIRCLE|HALF INVERSE WHITE CIRCLE|LEFT CORNER WITH DOT",
     "LEFT OR LOWER RIGHT CURLY BRACKET SECTION|LEFT QUADRANT CIRCULAR ARC|LEFT TRIANGLE",
     "ONE EIGHTH BLOCK"]),
   ("UPPER RIGHT ",
    ["DROP-SHADOWED WHITE SQUARE|OR LOWER LEFT CURLY BRACKET SECTION|PENCIL",
     "QUADRANT CIRCULAR ARC|SHADOWED WHITE CIRCLE|SHADOWED WHITE SQUARE|TRIANGLE"]),
   ("UPWARDS ",
    ["ARROW|BLACK ARROW|DASHED ARROW|DOUBLE ARROW|HARPOON WITH BARB LEFTWARDS",
     "HARPOON WITH BARB RIGHTWARDS|PAIRED ARROWS|QUADRUPLE ARROW|TWO HEADED ARROW|WHITE ARROW",
     "WHITE DOUBLE ARROW|WHITE DOUBLE ARROW ON PEDESTAL"]),
   ("UPWARDS ARROW ",
    ["FROM BAR|LEFTWARDS OF DOWNWARDS ARROW|WITH DOUBLE STROKE|WITH TIP LEFTWARDS",
     "WITH TIP RIGHTWARDS"]),
   ("UPWARDS WHITE ARROW ",
    ["FROM BAR|ON PEDESTAL|ON PEDESTAL WITH HORIZONTAL BAR|ON PEDESTAL WITH VERTICAL BAR"]),
   ("VARIATION ",
    ["SELECTOR-1|SELECTOR-10|SELECTOR-11|SELECTOR-12|SELECTOR-13|SELECTOR-14|SELECTOR-15",
     "SELECTOR-16|SELECTOR-2|SELECTOR-3|SELECTOR-4|SELECTOR-5|SELECTOR-6|SELECTOR-7|SELECTOR-8",
     "SELECTOR-9"]),
   ("VERTICAL ",
    ["BAR WITH HORIZONTAL STROKE|ELLIPSIS|FOUR DOTS|IDEOGRAPHIC ITERATION MARK|LINE",
     "LINE EXTENSION|LINE WITH MIDDLE DOT|MALE WITH STROKE SIGN|TABULATION|TABULATION SET",
     "TRAFFIC LIGHT"]),
   ("VERTICAL KANA REPEAT ",
    ["MARK|MARK LOWER HALF|MARK UPPER HALF|WITH VOICED SOUND MARK",
     "WITH VOICED SOUND MARK UPPER HALF"]),
   ("VULGAR FRACTION ",
    ["FIVE EIGHTHS|FIVE SIXTHS|FOUR FIFTHS|SEVEN EIGHTHS|THREE EIGHTHS|THREE FIFTHS",
     "THREE QUARTERS|TWO FIFTHS|TWO THIRDS|ZERO THIRDS"]),
   ("VULGAR FRACTION ONE ", ["EIGHTH|FIFTH|HALF|NINTH|QUARTER|SEVENTH|SIXTH|TENTH|THIRD"]),
   ("WATER ", ["BUFFALO|CLOSET|POLO|WAVE"]),
   ("WAVING ", ["BLACK FLAG|HAND SIGN|WHITE FLAG"]),
   ("WAVY ", ["DASH|LINE|LOW LINE|OVERLINE"]),
   ("WHITE ",
    ["BULLET|CIRCLE|CLUB SUIT|DIAMOND|DOWN-POINTING SMALL TRIANGLE|DOWN-POINTING TRIANGLE",
     "DRAUGHTS KING|DRAUGHTS MAN|EXCLAMATION MARK ORNAMENT|FLAG",
     "FLAG WITH HORIZONTAL MIDDLE BLACK STRIPE|FLORETTE|FLOWER|FOUR POINTED STAR|FROWNING FACE",
     "HARD SHELL FLOPPY DISK|HEART|HEART SUIT|HEAVY CHECK MARK|HEXAGON|HORIZONTAL ELLIPSE",
     "LARGE SQUARE|LATIN CROSS|LEFT LANE MERGE|LEFT POINTING BACKHAND INDEX|LEFT POINTING INDEX",
     "NIB|PARALLELOGRAM|PENNANT|PENTAGON|QUESTION MARK ORNAMENT|RECTANGLE",
     "RIGHT POINTING BACKHAND INDEX|RIGHT POINTING INDEX|SCISSORS|SESAME DOT|SHOGI PIECE",
     "SMALL LOZENGE|SMALL SQUARE|SMALL STAR|SMILING FACE|SPADE SUIT|SQUARE|SQUARE BUTTON",
     "SQUARE CONTAINING BLACK SMALL SQUARE|STAR|SUN|SUN BEHIND CLOUD|SUN BEHIND CLOUD WITH RAIN",
     "SUN WITH RAYS|SUN WITH SMALL CLOUD|TELEPHONE|TOUCHTONE TELEPHONE|TRAPEZIUM",
     "TRIANGLE CONTAINING SMALL WHITE TRIANGLE|TWO-WAY LEFT WAY TRAFFIC",
     "UP POINTING BACKHAND INDEX|UP POINTING INDEX|VERTICAL ELLIPSE|VERTICAL RECTANGLE",
     "VERY SMALL SQUARE"]),
   ("WHITE CHESS ", ["BISHOP|KING|KNIGHT|PAWN|QUEEN|ROOK"]),
   ("WHITE CIRCLE WITH ",
    ["DOT RIGHT|LOWER LEFT QUADRANT|LOWER RIGHT QUADRANT|TWO DOTS|UPPER LEFT QUADRANT",
     "UPPER RIGHT QUADRANT"]),
   ("WHITE CONCAVE-SIDED ", ["DIAMOND|DIAMOND WITH LEFTWARDS TICK|DIAMOND WITH RIGHTWARDS TICK"]),
   ("WHITE DIAMOND ", ["CONTAINING BLACK SMALL DIAMOND|IN SQUARE|SUIT|WITH CENTRED DOT"]),
   ("WHITE DOWN POINTING ", ["BACKHAND INDEX|INDEX|LEFT HAND INDEX"]),
   ("WHITE LEFT-POINTING ", ["POINTER|SMALL TRIANGLE|TRIANGLE"]),
   ("WHITE MEDIUM ", ["DIAMOND|LOZENGE|SMALL SQUARE|SQUARE|STAR"]),
   ("WHITE RIGHT-POINTING ", ["PENTAGON|POINTER|SMALL TRIANGLE|TRIANGLE"]),
   ("WHITE SQUARE WITH ",
    ["CENTRE VERTICAL LINE|LEFTWARDS TICK|LOWER LEFT QUADRANT|LOWER RIGHT QUADRANT",
     "RIGHTWARDS TICK|ROUNDED CORNERS|UPPER LEFT QUADRANT|UPPER RIGHT QUADRANT",
     "VERTICAL BISECTING LINE"]),
   ("WHITE UP-POINTING ", ["SMALL TRIANGLE|TRIANGLE|TRIANGLE WITH DOT"]),
   ("WOMANS ", ["BOOTS|CLOTHES|HAT|SANDAL"]),
   ("ZERO WIDTH ", ["JOINER|NO-BREAK SPACE|NON-JOINER|SPACE"])]

/-- Whether a text in capital letters is a listed name. -/
def isListedName (name : Text) : Bool :=
  characterNames.any fun (beginning, endings) =>
    beginning.toList.isPrefixOf name &&
      endings.any fun list =>
        (list.toList.splitOn '|').contains (name.drop beginning.length)

/-! ## Names by rule -/

/-- Consonants that begin a syllable. -/
def syllableInitials : List String :=
  ["", "G", "GG", "N", "D", "DD", "R", "M", "B", "BB", "S", "SS", "J", "JJ", "C", "K", "T", "P",
   "H"]

/-- Vowels of a syllable. -/
def syllableVowels : List String :=
  ["A", "AE", "YA", "YAE", "EO", "E", "YEO", "YE", "O", "WA", "WAE", "OE", "YO", "U", "WEO", "WE",
   "WI", "YU", "EU", "YI", "I"]

/-- Consonants that end a syllable. -/
def syllableFinals : List String :=
  ["", "G", "GG", "GS", "N", "NJ", "NH", "D", "L", "LG", "LM", "LB", "LS", "LT", "LP", "LH", "M",
   "B", "BS", "S", "SS", "NG", "J", "C", "K", "T", "P", "H"]

/-- Whether a text is a syllable: consonants, a vowel and consonants again. -/
def isSyllable (s : Text) : Bool :=
  let isVowel := fun c : Char => ['A', 'E', 'I', 'O', 'U', 'W', 'Y'].contains c
  let rest := s.dropWhile fun c => !isVowel c
  syllableInitials.contains (String.ofList (s.takeWhile fun c => !isVowel c)) &&
    syllableVowels.contains (String.ofList (rest.takeWhile isVowel)) &&
    syllableFinals.contains (String.ofList (rest.dropWhile isVowel))

/-- Code points of the unified ideographs. -/
def ideographRanges : List (Nat × Nat) :=
  [(0x3400, 0x4DBF), (0x4E00, 0x9FFF), (0x20000, 0x2A6DF), (0x2A700, 0x2B738), (0x2B740, 0x2B81D),
   (0x2B820, 0x2CEA1), (0x2CEB0, 0x2EBE0), (0x30000, 0x3134A)]

/-- The value of a hexadecimal digit. -/
def hexValue? (c : Char) : Option Nat :=
  if '0' ≤ c && c ≤ '9' then some (c.toNat - 48)
  else if 'a' ≤ c && c ≤ 'f' then some (c.toNat - 87)
  else if 'A' ≤ c && c ≤ 'F' then some (c.toNat - 55)
  else none

/-- The number that hexadecimal digits denote. -/
def hexNumber (digits : Text) : Nat :=
  digits.foldl (fun n c => 16 * n + (hexValue? c).getD 0) 0

/-- Whether a text is the code point of a unified ideograph in capital hexadecimal. -/
def isIdeographCode (s : Text) : Bool :=
  (s.length = 4 || s.length = 5) &&
    (s.all fun c => ('0' ≤ c && c ≤ '9') || ('A' ≤ c && c ≤ 'F')) &&
    Text.inRanges ideographRanges (hexNumber s)

/-- What follows the given beginning in a text that has it. -/
def afterBeginning? (beginning : String) (s : Text) : Option Text :=
  if beginning.toList.isPrefixOf s then some (s.drop beginning.length) else none

/-- Whether a text is the name of a character. -/
def isCharacterName (name : Text) : Bool :=
  match afterBeginning? "HANGUL SYLLABLE " name, afterBeginning? "CJK UNIFIED IDEOGRAPH-" name with
  | some syllable, _ => isSyllable syllable
  | none, some code => isIdeographCode code
  | none, none => isListedName (name.map Char.toUpper)

end LinearProgram
