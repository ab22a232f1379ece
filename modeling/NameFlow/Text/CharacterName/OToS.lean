/-!
# Character names from O to S

The names and the name aliases of characters in Unicode 14 that no rule composes, as trees of
words by initial letter, cut into lines.
-/

namespace NameFlow.Text.CharacterName

set_option autoImplicit false

def namesO : List String :=
  ["O(B(JECT REPLACEMENT CHARACTER,LIQUE (ANGLE OPENING (DOWN,UP),HYPHEN),SERVER EYE SYMBOL),C(",
    "R (AMOUNT OF CHECK,B(ELT BUCKLE,OW TIE,RANCH BANK IDENTIFICATION),C(HAIR,",
    "USTOMER ACCOUNT NUMBER),D(ASH,OUBLE BACKSLASH),FORK,HOOK,INVERTED FORK),T(AGONAL SIGN,",
    "OPUS)),DEN,FFICE BUILDING,G(HAM (FEATHER MARK,LETTER (AILM,BEITH,C(EIRT,OLL),DAIR,EA(BHADH,",
    "DHADH,MHANCHOLL),FEARN,GORT,I(FIN,ODHADH),LUIS,MUIN,N(GEADAL,ION),O(NN,R),PEITH,RUIS,S(AIL,",
    "TRAIF),TINNE,U(ATH,ILLEANN,R)),REVERSED FEATHER MARK,SPACE MARK),ONEK),HM SIGN,IL DRUM,",
    "K HAND SIGN,L( CHIKI (AHAD,DIGIT (EIGHT,F(IVE,OUR),NINE,ONE,S(EVEN,IX),T(HREE,WO),ZERO),",
    "GAAHLAA TTUDDAAG,LETTER (A(A(J,K,M,W),G,L,NG,T),E(DD,N,P,RR),I(H,NY,R,S),L(A(,A),E,I,O,U),O(",
    "B,H,TT,V),U(C,D,NN,Y)),MU( TTUDDAG,-GAAHLAA TTUDDAAG),P(HAARKAA,UNCTUATION (DOUBLE MUCAAD,",
    "MUCAAD)),RELAA),D( (CHINESE (HOOK MARK,ITERATION MARK),HUNGARIAN (CAPITAL LETTER (A(,A,K,MB,",
    "ND),CLOSE E,E(,B,C(,H,S),D,E,F,G(,Y),H,J,K,L(,Y),M(,P),N(,C,T(,-SHAPED SIGN),Y),P,R,S(,Z),T(",
    ",Y),V,Z(,S)),I(,I),NIKOLSBURG (OE,UE),O(,EE,O),RUDIMENTA (OE,UE),SHORT ER,U(,NK,S,U)),",
    "NUMBER (FI(FTY,VE),ONE(, (HUNDRED,THOUSAND)),TEN),SMALL LETTER (A(,A,K,MB,ND),CLOSE E,E(,B,",
    "C(,H,S),D,E,F,G(,Y),H,J,K,L(,Y),M(,P),N(,C,T(,-SHAPED SIGN),Y),P,R,S(,Z),T(,Y),V,Z(,S)),I(,",
    "I),NIKOLSBURG (OE,UE),O(,EE,O),RUDIMENTA (OE,UE),SHORT ER,U(,NK,S,U))),ITALIC (LETTER (A,BE,",
    "CHE,DE,E(,F,KS,L,M,N,R(,S),S(,H,S)),HE,I(,I),K(A,E,HE,U),NORTHERN TSE,O,P(E,HE),S(HE,",
    "OUTHERN TSE),T(E,HE),U(,U),VE,YE,ZE),NUMERAL (FI(FTY,VE),ONE,TEN)),KEY,NORTH ARABIAN (",
    "LETTER (A(IN,LEF),BEH,DA(D,L),ES-(1,2,3),FEH,G(EEM,HAIN),H(AH,EH),K(AF,HAH),LAM,MEEM,NOON,",
    "QAF,REH,SAD,T(AH,EH,H(AL,EH)),WAW,YEH,ZA(H,IN)),NUMBER (ONE,T(EN,WENTY))),PER(MIC LETTER (",
    "AN,BUR,CHERY,D(OI,Z(HOI,ITA)),E(,F),GAI,HA,I(,A,E),KOKE,LEI,MENOE,NENOE,O(,O),PEEI,REI,S(H(",
    "CHOOI,OOI),II),T(AI,SIU),U,V(ER,OOI),Y(A(,T),ER(,I,U),RY,U),Z(ATA,HOI)),S(IAN (NUMBER (",
    "HUNDRED,ONE,T(EN,W(ENTY,O))),SIGN (A(,URAMAZDAA(,-2,HA)),B(A(,GA),UUMISH),CA,D(A(,HYAAUSH(,",
    "-2)),I,U),FA,G(A,U),HA,I,J(A,I),K(A,U),LA,M(A,I,U),N(A,U),PA,R(A,U),S(A,HA,SA),T(A,HA,U),U,",
    "V(A,I),X(A,SHAAYATHIYA),YA,ZA),WORD DIVIDER),ONAL COMPUTER)),SO(GDIAN (FRACTION ONE HALF,L(",
    "ETTER (A(L(EPH,TERNATE AYIN),YIN),BETH,FINAL (ALEPH,BETH,HE,NUN(, WITH VERTICAL TAIL),SADHE(",
    ", WITH VERTICAL TAIL),TAW(, WITH VERTICAL TAIL)),GIMEL,HE(,TH),KAPH,LAMEDH,MEM,NUN,PE,",
    "RESH-AYIN-DALETH,S(A(DHE,MEKH),HIN),TAW,WAW,YODH,ZAYIN),IGATURE AYIN-DALETH),NUMBER (F(IVE,",
    "OUR),ONE(, HUNDRED),T(EN,H(IRTY,REE),W(ENTY,O)))),UTH ARABIAN (LETTER (A(LEF,YN),BETH,D(",
    "ALETH,HA(DHE,LETH)),FE,G(HAYN,IMEL),HE(,TH),K(APH,HETH),LAMEDH,MEM,NUN,QOPH,RESH,S(A(DHE,",
    "MEKH,T),HIN),T(AW,ETH,H(AW,ETH)),WAW,YODH,ZAYN),NUM(BER (FIFTY,ONE),ERIC INDICATOR))),",
    "TURKIC LETTER (ORKHON (A(,B,D,E(B,D,G,K,L,N,R,S,T,Y),G,L,N,Q,R,S(,H),T,Y),BASH,E(C,LT,M,N(C,",
    "G,T,Y),P,SH,Z),I(,C,Q),O(,E(,K),P,Q,T)),YENISEI (A(,B,D,E(,B,G,K,N(,G),T,Y),G,L,NG,Q,R,SH,T,",
    "Y),E(,C,N(C,T,Y),SH,Z),I(,Q),O(E(,K),Q))),UYGHUR (COMBINING (DOT (ABOVE,BELOW),TWO DOTS (",
    "ABOVE,BELOW)),LETTER (ALEPH,BETH,FINAL HETH,GIMEL-HETH,KAPH,L(AMEDH,ESH),MEM,NUN,PE,RESH,S(",
    "A(DHE,MEKH),HIN),TAW,WAW,YODH,ZAYIN),PUNCTUATION (BAR,FOUR DOTS,TWO (BARS,DOTS)))),ER (",
    "ADULT,MAN,WOMAN)),IVE),M SYMBOL,N( WITH EXCLAMATION MARK WITH LEFT RIGHT ARROW ABOVE,",
    "COMING (AUTOMOBILE,BUS,FIRE ENGINE,POLICE CAR,TAXI),E( (BUTTON MOUSE,DOT (LEADER,",
    "OVER TWO DOTS PUNCTUATION)),-PIECE SWIMSUIT),ION),P(E(N( (BO(OK,X),CENTRE (ASTERISK,",
    "BLACK STAR,CROSS,TEARDROP-SPOKED ASTERISK),F(ILE FOLDER,OLDER),HANDS SIGN,LOCK,",
    "MAILBOX WITH (LOWERED FLAG,RAISED FLAG),SU(BSET,PERSET)),-(CIRCUIT-OUTPUT (H-TYPE SYMBOL,",
    "L-TYPE SYMBOL),OUTLINED RIGHTWARDS ARROW)),RATING SYSTEM COMMAND),HIUCHUS,POSITION,TI(",
    "CAL DISC(, ICON),ON KEY)),R( WITH DOT INSIDE,ANG(E (BOOK,HEART),UTAN),I(GINAL OF,YA (A(",
    "I LENGTH MARK,U LENGTH MARK),DIGIT (EIGHT,F(IVE,OUR),NINE,ONE,S(EVEN,IX),T(HREE,WO),ZERO),",
    "FRACTION (ONE (EIGHTH,HALF,QUARTER,SIXTEENTH),THREE (QUARTERS,SIXTEENTHS)),ISSHAR,LETTER (A(",
    ",A,I,U),B(A,HA),C(A,HA),D(A,D(A,HA),HA),E,G(A,HA),HA,I(,I),J(A,HA),K(A,HA),L(A,LA),MA,N(A,",
    "GA,NA,YA),O,P(A,HA),R(A,HA,RA),S(A,HA,SA),T(A,HA,T(A,HA)),U(,U),V(A,OCALIC (L(,L),R(,R))),",
    "WA,Y(A,YA)),SIGN (A(NUSVARA,VAGRAHA),CANDRABINDU,NUKTA,OVERLINE,VI(RAMA,SARGA)),VOWEL SIGN (",
    "A(A,I,U),E,I(,I),O,U(,U),VOCALIC (L(,L),R(,R))))),NATE (LEFT PARENTHESIS,RIGHT PARENTHESIS),",
    "THODOX CROSS),S(AGE (CAPITAL LETTER (A(,H,I(,N)),BRA,CHA,DHA,E(,H(CHA,KA,PA,T(A,SA)),IN),",
    "GHA,H(A,YA),I,K(A,HA,YA),LA,MA,NA,O(,IN),PA,S(A,HA),T(A,S(A,HA)),U,WA,Z(A,HA)),",
    "SMALL LETTER (A(,H,I(,N)),BRA,CHA,DHA,E(,H(CHA,KA,PA,T(A,SA)),IN),GHA,H(A,YA),I,K(A,HA,YA),",
    "LA,MA,NA,O(,IN),PA,S(A,HA),T(A,S(A,HA)),U,WA,Z(A,HA))),C,MANYA (DIGIT (EIGHT,F(IVE,OUR),",
    "NINE,ONE,S(EVEN,IX),T(HREE,WO),ZERO),LETTER (A(,A,LEF),BA,CAYN,D(EEL,HA),E(,E),FA,GA,HA,I,",
    "JA,K(AAF,HA),LAAN,MIIN,NUUN,O(,O),QAAF,RA,S(A,HIIN),TA,U,WAW,XA,YA))),TT(ER,OMAN SIYAQ (",
    "ALTERNATE NUMBER (EIGHT,F(IVE,OUR(, HUNDRED)),NINE,S(EVEN,IX(, HUNDRED)),T(EN(, THOUSAND),",
    "HREE,WO(, THOUSAND))),FRACTION ONE (HALF,SIXTH),MARRATAN,NUMBER (EIGHT(, (HUNDRED,THOUSAND),",
    "Y(, THOUSAND)),F(I(FTY(, THOUSAND),VE(, (HUNDRED,THOUSAND))),O(RTY(, THOUSAND),UR(, (",
    "HUNDRED,THOUSAND)))),NINE(, (HUNDRED,THOUSAND),TY(, THOUSAND)),ONE(, (HUNDRED,THOUSAND)),S(",
    "EVEN(, (HUNDRED,THOUSAND),TY(, THOUSAND)),IX(, (HUNDRED,THOUSAND),TY(, THOUSAND))),T(EN(",
    ", THOUSAND),H(IRTY(, THOUSAND),REE(, (HUNDRED,THOUSAND))),W(ENTY(, THOUSAND),O(, (HUNDRED,",
    "THOUSAND))))))),U(NCE SIGN,T(BOX TRAY,LINED (BLACK STAR,GREEK CROSS,LATIN CROSS,",
    "WHITE STAR))),VER(HEATED FACE,L(AP(,PING (BLACK SQUARES,WHITE (AND BLACK SQUARES,SQUARES))),",
    "INE)),WL,X,YSTER)"]

def namesP : List String :=
  ["P(A(CKAGE,D(,DING CHARACTER),G(E(, (FACING UP,WITH C(IRCLED TEXT,URL)),R,S),ODA),",
    "HAWH HMONG (C(LAN SIGN (FAJ,HA(M,WJ),K(HAB,OO,WM),L(AUJ,IS),MUAS,PHAB,T(HOJ,S(AB,HEEJ,WB)),",
    "V(AJ,WJ),XYOOJ,Y(AJ,EEG)),ONSONANT (AU,C(AU,HAU),H(AU,LAU,NAU),LAU,MAU,N(AU,CHAU,KAU,LAU,T(",
    "HAU,SAU)),PLHAU,QHAU,RAU,VAU,XAU,YAU)),DIGIT (EIGHT,F(IVE,OUR),NINE,ONE,S(EVEN,IX),T(HREE,",
    "WO),ZERO),MARK CIM (HOM,K(ES,HAV),S(O,UAM),T(AUM,UB)),NUMBER (HUNDRED( MILLIONS,S),MILLIONS,",
    "T(EN( (BILLIONS,THOUSANDS),S),RILLIONS)),SIGN (AV,CIM (C(HEEM,UAM TSHOOJ),",
    "HAIS LUS NTOG NTOG,NRES TOS,PUB DAWB,T(SOV ROG,XWV(, CHWV))),H(LI,NUB),IB YAM,LOS,M(EEJ (",
    "SUAB,TSEEB),US),N(QIG,TUJ),T(AU,HIRD-STAGE HLI,XHEEJ CEEV),VOS (FEEM,LUB,NRUA,SEEV,T(H(IAB,",
    "OM),SHAB CEEB)),X(AUS,IAB,Y(EEM (FAIB,NTXIV,RHO,TOV),OO)),ZWJ THAJ),VOWEL K(A(A(B,V),B,I(B,",
    "V),U(B,V),V,W(B,V)),E(B,E(B,V),V),I(A(B,V),B,V),O(B,O(B,V),V),U(A(B,V),B,V),W(B,V))),L(LAS,",
    "M( (BRANCH,DOWN HAND,TREE,UP HAND),S UP TOGETHER,YRENE (LE(FT-POINTING FLEURON,TTER (A(LEPH,",
    "YIN),BETH,DALETH,FINAL NUN,GIMEL,HE(,TH),KAPH,LAMEDH,MEM,NUN,PE,QOPH,RESH,S(A(DHE,MEKH),",
    "HIN),T(AW,ETH),WAW,YODH,ZAYIN)),NUMBER (F(IVE,OUR),ONE,T(EN,HREE,W(ENTY,O))),",
    "RIGHT-POINTING FLEURON))),N(CAKES,DA FACE),PERCLIP,R(A(CHUTE,GRAPH( SEPARATOR,OS,US MARK),",
    "LLEL (TO,WITH (HORIZONTAL STROKE,TILDE OPERATOR))),ENTHESIZED (DIGIT (EIGHT,F(IVE,OUR),NINE,",
    "ONE,S(EVEN,IX),T(HREE,WO)),HANGUL (C(HIEUCH(, A),IEUC(, (A,U))),HIEUH(, A),IEUNG(, A),K(",
    "HIEUKH(, A),IYEOK(, A)),MIEUM(, A),NIEUN(, A),P(HIEUPH(, A),IEUP(, A)),RIEUL(, A),SIOS(, A),",
    "T(HIEUTH(, A),IKEUT(, A))),IDEOGRAPH (ALLIANCE,C(ALL,ONGRATULATION),E(ARTH,IGHT,NTERPRISE),",
    "F(ESTIVAL,I(NANCIAL,RE,VE),OUR),HAVE,LABOR,M(ETAL,OON),N(AME,INE),ONE,RE(ACH,PRESENT,S(",
    "OURCE,T)),S(E(LF,VEN),IX,OCIETY,PECIAL,T(OCK,UDY),U(N,PERVISE)),T(EN,HREE,WO),W(ATER,OOD)),",
    "KOREAN CHARACTER O( HU,JEON),LATIN (CAPITAL LETTER (A,B,C,D,E,F,G,H,I,J,K,L,M,N,O,P,Q,R,S,T,",
    "U,V,W,X,Y,Z),SMALL LETTER (A,B,C,D,E,F,G,H,I,J,K,L,M,N,O,P,Q,R,S,T,U,V,W,X,Y,Z)),NUMBER (E(",
    "IGHTEEN,LEVEN),F(IFTEEN,OURTEEN),NINETEEN,S(EVENTEEN,IXTEEN),T(EN,HIRTEEN,WE(LVE,NTY)))),",
    "ROT,T( ALTERNATION MARK,IAL( (DIFFERENTIAL,LINE (BACKWARD,DOWN,FORWARD,UP)),",
    "LY-RECYCLED PAPER SYMBOL),NERSHIP SIGN,Y POPPER)),SS(E(D SYMBOL,NGER SHIP),IVE-PULL-(",
    "DOWN-OUTPUT SYMBOL,UP-OUTPUT SYMBOL),PORT CONTROL),U CIN HAU (GLOTTAL STOP(, (FINAL,",
    "VARIANT)),L(ETTER (A,BA,C(A,HA),DA,E,F(A,INAL (K,L,M,N(,G),P,T,W,Y)),GA,HA,I(,A),K(A,HA),LA,",
    "MA,N(A,GA),O,P(A,HA),RA,SA,T(A,HA),U(,A),VA,ZA),OW-FALLING TONE(, (FINAL,LONG(, FINAL)))),",
    "MID-LEVEL TONE(, (FINAL,LONG FINAL)),RISING TONE(, (FINAL,LONG(, FINAL))),SANDHI (",
    "GLOTTAL STOP(, FINAL),TONE(, (FINAL,LONG(, FINAL))))),W PRINTS),D(F,I),E(A(C(E SYMBOL,H,",
    "OCK),NUTS,R),DESTRIAN,N( OVER STAMPED ENVELOPE,CIL,GUIN,SIVE FACE,TAGRAM),OPLE HUGGING,R( (",
    "MILLE SIGN,SIGN,TEN THOUSAND SIGN),CENT SIGN,FORMING ARTS,MANENT PAPER SIGN,PENDICULAR(",
    ", WITH S),S(EVERING FACE,ON( (BOWING DEEPLY,CLIMBING,DOING CARTWHEEL,FROWNING,IN (",
    "LOTUS POSITION,STEAMY ROOM),RAISING BOTH HANDS IN CELEBRATION,WITH (B(ALL,LOND HAIR),CROWN,",
    "FOLDED HANDS,HEADSCARF,POUTING FACE)),AL COMPUTER),PECTIVE)),S(ETA SIGN,O SIGN),TRI DISH),H(",
    "A(GS-PA (DOUBLE HEAD MARK,LETTER (A(,LTERNATE YA,SPIRATED FA),BA,C(A(,NDRABINDU),HA),D(A,DA,",
    "ZA),E(,E),FA,G(A,GA),HA,I,JA,K(A,HA),LA,MA,N(A,GA,NA,YA),O,P(A,HA),QA,RA,S(A,HA,MALL A),T(A,",
    "HA,S(A,HA),T(A,HA)),U,VOICE(D HA,LESS SHA),WA,XA,YA,Z(A,HA)),MARK (DOUBLE SHAD,SHAD),S(",
    "INGLE HEAD MARK,U(BJOINED LETTER (RA,WA,YA),PERFIXED LETTER RA))),ISTOS DISC SIGN (ARROW,B(",
    "EE(,HIVE),O(OMERANG,W),ULLS LEG),C(A(PTIVE,RPENTRY PLANE,T),HILD,LUB,O(LUMN,MB(,",
    "INING OBLIQUE STROKE))),DO(LIUM,VE),EAGLE,FLUTE,G(AUNTLET,RATER),H(ELMET,IDE,ORN),LI(D,LY),",
    "MA(NACLES,TTOCK),OX BACK,P(APYRUS,EDESTRIAN,L(ANE TREE,UMED HEAD)),R(AM,OSETTE),S(AW,HI(ELD,",
    "P),LING,MALL AXE,TRAINER),T(ATTOOED HEAD,IARA,UNNY),VINE,W(AVY BAND,OMAN))),ILIPPINE (",
    "DOUBLE PUNCTUATION,SINGLE PUNCTUATION),O(ENICIAN (LETTER (A(IN,LF),BET,DELT,GAML,HE(,T),KAF,",
    "LAMD,MEM,NUN,PE,QOF,ROSH,S(ADE,EMK,HIN),T(AU,ET),WAU,YOD,ZAI),NUMBER (ONE(, HUNDRED),T(EN,",
    "HREE,W(ENTY,O))),WORD SEPARATOR),LUS)),I(CK(,UP TRUCK),E,G(, (FACE,NOSE)),L(CROW SIGN,",
    "E OF POO,L),N(ATA,CH(ED FINGERS,ING HAND),E( DECORATION,APPLE),WHEEL STAR),S(CES,TOL),",
    "TCHFORK(, WITH TEE TOP)),L(A(C(ARD,E OF (INTEREST SIGN,WORSHIP)),NCK CONSTANT(",
    ", OVER TWO PI),Y(GROUND SLIDE,ING CARD (ACE OF (CLUBS,DIAMONDS,HEARTS,SPADES),B(ACK,",
    "LACK JOKER),EIGHT OF (CLUBS,DIAMONDS,HEARTS,SPADES),F(IVE OF (CLUBS,DIAMONDS,HEARTS,SPADES),",
    "O(OL,UR OF (CLUBS,DIAMONDS,HEARTS,SPADES))),JACK OF (CLUBS,DIAMONDS,HEARTS,SPADES),K(",
    "ING OF (CLUBS,DIAMONDS,HEARTS,SPADES),NIGHT OF (CLUBS,DIAMONDS,HEARTS,SPADES)),NINE OF (",
    "CLUBS,DIAMONDS,HEARTS,SPADES),QUEEN OF (CLUBS,DIAMONDS,HEARTS,SPADES),RED JOKER,S(EVEN OF (",
    "CLUBS,DIAMONDS,HEARTS,SPADES),IX OF (CLUBS,DIAMONDS,HEARTS,SPADES)),T(EN OF (CLUBS,DIAMONDS,",
    "HEARTS,SPADES),HREE OF (CLUBS,DIAMONDS,HEARTS,SPADES),RUMP-(1(,0,1,2,3,4,5,6,7,8,9),2(,0,1),",
    "3,4,5,6,7,8,9),WO OF (CLUBS,DIAMONDS,HEARTS,SPADES)),WHITE JOKER))),D,U(,NGER,S( SIGN(, (",
    "ABOVE EQUALS SIGN,IN (LEFT HALF CIRCLE,RIGHT HALF CIRCLE,TRIANGLE),WITH (BLACK TRIANGLE,",
    "CIRCUMFLEX ACCENT ABOVE,DOT BELOW,S(MALL CIRCLE ABOVE,UBSCRIPT TWO),TILDE (ABOVE,BELOW)))),",
    "-MINUS SIGN),TO(, FORM (F(IVE,OUR),T(HREE,WO))))),M,O(CKET CALCULATOR,LICE (CAR(,",
    "S REVOLVING LIGHT),OFFICER),ODLE,P( DIRECTIONAL (FORMATTING,ISOLATE),CORN),RTABLE STEREO,S(",
    "EIDON,ITION INDICATOR,T(AL (HORN,MARK(, FACE)),BOX)),T( OF FOOD,A(BLE WATER SYMBOL,TO),",
    "TED PLANT),U(CH,LTRY LEG,ND SIGN,RING LIQUID,TING (CAT FACE,FACE)),WER (ON( SYMBOL,",
    "-OFF SYMBOL),S(LEEP SYMBOL,YMBOL))),R(AYER BEADS,E(CEDES(, (ABOVE (ALMOST EQUAL TO,",
    "EQUALS SIGN,NOT (ALMOST EQUAL TO,EQUAL TO),SINGLE-LINE (EQUALS SIGN,NOT EQUAL TO)),",
    "BUT NOT EQUIVALENT TO,OR EQU(AL TO,IVALENT TO),UNDER RELATION)),GNANT (MAN,PERSON,WOMAN),S(",
    "CRIPTION TAKE,ENTATION FORM FOR VERTICAL (CO(LON,MMA),E(M DASH,N DASH,XCLAMATION MARK),",
    "HORIZONTAL ELLIPSIS,IDEOGRAPHIC (COMMA,FULL STOP),L(EFT (ANGLE BRACKET,",
    "BLACK LENTICULAR BRACKET,C(ORNER BRACKET,URLY BRACKET),DOUBLE ANGLE BRACKET,PARENTHESIS,",
    "SQUARE BRACKET,TORTOISE SHELL BRACKET,WHITE (CORNER BRACKET,LENTICULAR BRACKET)),OW LINE),",
    "QUESTION MARK,RIGHT (ANGLE BRACKET,BLACK LENTICULAR BRACKET,C(ORNER BRACKET,URLY BRACKET),",
    "DOUBLE ANGLE BRACKET,PARENTHESIS,SQUARE BRACKET,TORTOISE SHELL BRACKET,WHITE (",
    "CORNER BRACKET,LENTICULAR BRA(CKET,KCET))),SEMICOLON,TWO DOT LEADER,WAVY LOW LINE)),TZEL,",
    "VIOUS PAGE),I(ME,N(CE(,SS),T( SCREEN SYMBOL,ER(, ICON))),VA(CY MESSAGE,TE USE( (ONE,TWO),-(",
    "1,2)))),O(BING CANE,HIBITED SIGN,JECTIVE,P(ERTY LINE,ORTION(,AL TO)),SERPINA)),",
    "SALTER PAHLAVI (FOUR DOTS WITH (CROSS,DOT),LETTER (ALEPH,BETH,DALETH,GIMEL,HE(,TH),KAPH,",
    "LAMEDH,MEM-QOPH,NUN,PE,S(A(DHE,MEKH),HIN),TAW,WAW-AYIN-RESH,YODH,ZAYIN),NUMBER (FOUR,ONE(",
    ", HUNDRED),T(EN,HREE,W(ENTY,O))),SECTION MARK,TURNED SECTION MARK),U(1,2,",
    "BLIC ADDRESS LOUDSPEAKER,NCTU(ATION SPACE,S ELEVATUS MARK),R(PLE HEART,SE),SHPIN,",
    "T LITTER IN ITS PLACE SYMBOL))"]

def namesQ : List String :=
  ["QU(A(DR(ANT (LOWER (LEFT,RIGHT),UPPER (LEFT(, AND (LOWER (LEFT AND LOWER RIGHT,RIGHT),",
    "UPPER RIGHT AND LOWER (LEFT,RIGHT))),RIGHT(, AND LOWER LEFT(, AND LOWER RIGHT)))),UPLE (",
    "INTEGRAL OPERATOR,PRIME)),RTER NOTE,TERNION INTEGRAL OPERATOR),ESTION( (EXCLAMATION MARK,",
    "MARK),ED EQUAL TO),INCUNX,OTATION MARK)"]

def namesR : List String :=
  ["R(A(BBIT(, FACE),C(COON,ING (CAR,MOTORCYCLE)),DI(CAL SYMBOL BOTTOM,O(, BUTTON,ACTIVE SIGN)),",
    "I(LWAY (CAR,TRACK),N(,BOW),SED (BACK OF HAND,COMMA,DOT(,TED INTERPOLATION MARKER),FIST,HAND(",
    ", WITH (FINGERS SPLAYED,PART BETWEEN MIDDLE AND RING FINGERS)),INTERPOLATION MARKER,M(",
    "C SIGN,D SIGN,R SIGN),SQUARE)),M,T(,IO),ZOR),E(C(EIPT,ORD SEPARATOR,REATIONAL VEHICLE,YCL(",
    "ED PAPER SYMBOL,ING SYMBOL FOR (GENERIC MATERIALS,TYPE-(1 PLASTICS,2 PLASTICS,3 PLASTICS,",
    "4 PLASTICS,5 PLASTICS,6 PLASTICS,7 PLASTICS)))),D (APPLE,GIFT ENVELOPE),FERENCE MARK,GI(",
    "ONAL INDICATOR SYMBOL LETTER (A,B,C,D,E,F,G,H,I,J,K,L,M,N,O,P,Q,R,S,T,U,V,W,X,Y,Z),",
    "STERED SIGN),JANG (CONSONANT SIGN (H,N(,G),R),LETTER (A,BA,CA,DA,GA,HA,JA,KA,LA,M(A,BA),N(A,",
    "DA,G(A,GA),Y(A,JA)),PA,RA,SA,TA,WA,YA),SECTION MARK,V(IRAMA,OWEL SIGN (A(I,U),E(,A,U),I,O,",
    "U))),LIEVED FACE,MINDER RIBBON,PLACEMENT CHARACTER,S(PONSE,TR(ICTED LEFT ENTRY-(1,2),OOM)),",
    "TURN (LEFT,RIGHT,SYMBOL),V(ERSE( (CHECKER BOARD,INDEX,LI(GHT FOUR POINTED PINWHEEL STAR,",
    "NE FEED),SOLIDUS(, (OPERATOR,PRECEDING SUBSET,WITH HORIZONTAL STROKE)),",
    "TILDE OPERATOR ABOVE (LEFTWARDS ARROW,RIGHTWARDS ARROW)),D (ANGLE(, WITH UNDERBAR),COMMA,",
    "DOUBLE (PRIME(, QUOTATION MARK),STROKE NOT SIGN),EMPTY SET,FORKED PARAGRAPHOS,",
    "HAND WITH MIDDLE FINGER EXTENDED,NOT SIGN,P(ILCROW SIGN,RIME),QUESTION MARK,R(",
    "AISED HAND WITH FINGERS SPLAYED,IGHT ANGLE,OTATED FLORAL HEART BULLET),S(",
    "ANS-SERIF CAPITAL L,EMICOLON),T(HUMBS (DOWN SIGN,UP SIGN),ILDE(, EQUALS),RIPLE PRIME),",
    "VICTORY HAND)),OLVING HEARTS)),HINOCEROS,I(,AL SIGN,BBON(, ARROW (DOWN (LEFT,RIGHT),LEFT (",
    "DOWN,UP),RIGHT (DOWN,UP),UP (LEFT,RIGHT))),CE (BALL,CRACKER),FLE,GHT( (A(N(D (",
    "LOWER ONE EIGHTH BLOCK,UPPER ONE EIGHTH BLOCK),G(ER BUBBLE,LE(, (BRACKET(, WITH DOT),",
    "DOTTED SUBSTITUTION MARKER,SUBSTITUTION MARKER,VARIANT WITH SQUARE,WITH (ARC,",
    "DOWNWARDS ZIGZAG ARROW))))),R(C GREATER-THAN BRACKET,ROW WITH (CIRCLED PLUS,SMALL CIRCLE))),",
    "BLACK (LENTICULAR BRACKET,TORTOISE SHELL BRACKET),C(EILING,ORNER BRACKET,URLY BRACKET(, (",
    "LOWER HOOK,MIDDLE PIECE,UPPER HOOK))),DO(TTED SUBSTITUTION BRACKET,UBLE (A(NGLE BRACKET,",
    "RROW WITH ROUNDED HEAD),PARENTHESIS,QUOTATION MARK,WIGGLY FENCE)),F(I(SH TAIL,",
    "VE EIGHTHS BLOCK),LOOR),HA(LF (BL(ACK (CIRCLE,STAR),OCK),FOLDER,MEDIUM SHADE,RUNNING MAN),",
    "ND TELEPHONE RECEIVER),LOW PARAPHRASE BRACKET,NORMAL FACTOR SEMIDIRECT PRODUCT,O(NE (",
    "EIGHTH BLOCK,QUARTER BLOCK),PEN SQUARED DOT,UTER JOIN),PARENTHESIS(, (EXTENSION,LOWER HOOK,",
    "UPPER HOOK)),RAISED OMISSION BRACKET,S(-SHAPED BAG DELIMITER,E(MIDIRECT PRODUCT,",
    "VEN EIGHTHS BLOCK),I(DEWAYS U BRACKET,NGLE QUOTATION MARK),PE(AKER(, WITH (ONE SOUND WAVE,",
    "THREE SOUND WAVES)),ECH BUBBLE),QUARE BRACKET(, (EXTENSION,LOWER CORNER,UPPER CORNER,WITH (",
    "DOUBLE STROKE,QUILL,STROKE,TICK IN (BOTTOM CORNER,TOP CORNER),UNDERBAR))),",
    "UBSTITUTION BRACKET),T(ACK,H(IRD WHITE RIGHT POINTING INDEX,OUGHT BUBBLE,REE (EIGHTHS BLOCK,",
    "QUARTERS BLOCK)),ORTOISE SHELL BRACKET,R(ANSPOSITION BRACKET,IANG(LE(, ABOVE LEFT TRIANGLE),",
    "ULAR ONE QUARTER BLOCK))),VERTICAL B(AR WITH QUILL,OX LINE),W(HITE (C(ORNER BRACKET,",
    "URLY BRACKET),LENTICULAR BRACKET,PARENTHESIS,SQUARE BRACKET,TORTOISE SHELL BRACKET),",
    "IGGLY FENCE)),-(FACING (ARMENIAN ETERNITY SIGN,FIST,SVASTI SIGN(, WITH DOTS)),",
    "HANDED INTERLACED PENTAGRAM,POINTING (ANGLE BRACKET,CURVED ANGLE BRACKET,",
    "DOUBLE ANGLE QUOTATION MARK,MAGNIFYING GLASS),S(HADED WHITE RIGHTWARDS ARROW,",
    "IDE ARC CLOCKWISE ARROW),TO-LEFT (EMBEDDING,ISOLATE,MARK,OVERRIDE)),HAND INTERIOR PRODUCT,",
    "WARDS (ARROW(, (A(BOVE (ALMOST EQUAL TO,REVERSE (ALMOST EQUAL TO,TILDE OPERATOR),",
    "SHORT LEFTWARDS ARROW,TILDE OPERATOR),ND UPPER AND LOWER ONE EIGHTH BLOCK),FROM BAR(",
    ", TO BLACK DIAMOND),OVER LEFTWARDS ARROW,T(HROUGH (GREATER-THAN,SUPERSET,X),O B(AR,",
    "LACK DIAMOND)),WITH (CORNER DOWNWARDS,DO(TTED STEM,UBLE VERTICAL STROKE),",
    "EQUILATERAL ARROWHEAD,HOOK,L(ARGE TRIANGLE ARROWHEAD,OOP),MEDIUM TRIANGLE ARROWHEAD,",
    "NOTCHED TAIL,PLUS BELOW,S(MALL (EQUILATERAL ARROWHEAD,TRIANGLE ARROWHEAD),TROKE),T(AIL(",
    ", WITH (DOUBLE VERTICAL STROKE,VERTICAL STROKE)),IP (DOWNWARDS,UPWARDS)),VERTICAL STROKE)),",
    "-TAIL),B(ACK-TILTED SHADOWED WHITE ARROW,LACK (ARROW,CIRCLED WHITE ARROW),",
    "OTTOM SHADED WHITE ARROW),COMPRESSED ARROW,D(ASHED ARROW,OUBLE (ARROW(, (FROM BAR,WITH (",
    "STROKE,VERTICAL STROKE)),-TAIL),DASH ARROW)),F(INGER-POST ARROW,",
    "RONT-TILTED SHADOWED WHITE ARROW),H(A(ND,RPOON (OVER LEFTWARDS HARPOON,WITH BARB (DOWN( (",
    "ABOVE LEFTWARDS HARPOON WITH BARB DOWN,BELOW LONG DASH,FROM BAR,TO BAR),WARDS),UP( (ABOVE (",
    "L(EFTWARDS HARPOON WITH BARB UP,ONG DASH),RIGHTWARDS HARPOON WITH BARB DOWN),FROM BAR,",
    "TO BAR),WARDS)))),EAVY (ARROW,COMPRESSED ARROW)),LEFT-SHADED WHITE ARROW,OPEN-HEADED ARROW,",
    "PAIRED ARROWS,QUADRUPLE ARROW,R(IGHT-SHADED WHITE ARROW,OCKET),S(ANS-SERIF ARROW,QU(",
    "ARED ARROW,IGGLE ARROW)),T(OP SHADED WHITE ARROW,RI(ANGLE( ARROWHEAD,-HEADED (ARROW(, (",
    "OVER LEFTWARDS TRIANGLE-HEADED ARROW,TO BAR,WITH (BOLD SHAFT,DOUBLE (HORIZONTAL STROKE,",
    "VERTICAL STROKE),HEAVY SHAFT,LONG TIP (DOWNWARDS,UPWARDS),MEDIUM SHAFT,NARROW SHAFT,",
    "VERY HEAVY SHAFT))),DASHED ARROW,PAIRED ARROWS)),PLE (ARROW,DASH ARROW)),WO( HEADED ARROW,",
    "-HEADED (ARROW (FROM BAR,WITH (DOUBLE VERTICAL STROKE,T(AIL(, WITH (DOUBLE VERTICAL STROKE,",
    "VERTICAL STROKE)),RIANGLE ARROWHEADS),VERTICAL STROKE)),TRIPLE DASH ARROW))),W(AVE ARROW,",
    "HITE ARROW(, (FROM WALL,WITHIN TRIANGLE ARROWHEAD))))),NG(, (ABOVE,BUOY,EQUAL TO,",
    "IN EQUAL TO,OPERATOR,POINT),ED PLANET,ING BELL),SING DIAGONAL CROSSING (FALLING DIAGONAL,",
    "SOUTH EAST ARROW)),L(E,I,M,O),O(ASTED SWEET POTATO,BOT FACE,CK(,ET),LL( OF PAPER,E(",
    "D-UP NEWSPAPER,R (COASTER,SKATE)),ING ON THE FLOOR LAUGHING),MAN (AS SIGN,CENTURIAL SIGN,D(",
    "ENARIUS SIGN,IMIDIA SEXTULA SIGN,UPONDIUS SIGN),NUMERAL (E(IGHT,LEVEN),F(I(FTY(, (",
    "EARLY FORM,THOUSAND)),VE(, (HUNDRED,THOUSAND))),OUR),NINE,ONE(, (HUNDRED(, THOUSAND),",
    "THOUSAND(, C D))),REVERSED ONE HUNDRED,S(EVEN,IX(, LATE FORM)),T(EN(, THOUSAND),HREE,W(ELVE,",
    "O))),QUINARIUS SIGN,S(E(MUNCIA SIGN,STERTIUS SIGN,XT(ANS SIGN,ULA SIGN)),ILIQUA SIGN),",
    "UNCIA SIGN),OSTER,SE(,TTE),TATED (CAPITAL Q,FLORAL HEART BULLET,HEAVY BLACK HEART BULLET,",
    "LIGHT FOUR POINTED BLACK CUSP,WHITE FOUR POINTED CUSP),UND( (PUSHPIN,TARGET),ED SYMBOL FOR (",
    "CAI,FU,LU,SH(OU,UANGXI),XI)),WBOAT),S,U(BLE SIGN,GBY FOOTBALL,LE-DELAYED,MI (DIGIT (EIGHT,F(",
    "IVE,OUR),NINE,ONE,S(EVEN,IX),T(HREE,WO)),FRACTION (ONE (HALF,QUARTER,THIRD),TWO THIRDS),",
    "NUMBER (EIGHT( HUNDRED,Y),F(I(FTY,VE HUNDRED),O(RTY,UR HUNDRED)),NINE( HUNDRED,TY),",
    "ONE HUNDRED,S(EVEN( HUNDRED,TY),IX( HUNDRED,TY)),T(EN,H(IRTY,REE HUNDRED),W(ENTY,",
    "O HUNDRED)))),N(IC (ARLAUG SYMBOL,BELGTHOR SYMBOL,CROSS PUNCTUATION,LETTER (A(C A,ESC,",
    "LGIZ EOLHX,NSUZ A),BERKANAN BEORC BJARKAN B,C(,ALC,E(ALC,N),WEORTH),D(,AGAZ DAEG D,OTTED-(L,",
    "N,P)),E(,AR,HWAZ EH E,NG,TH),F(EHU FEOH FE F,RANKS CASKET (A(C,ESC),EH,IS,OS)),G(,AR,E(",
    "BO GYFU G,R)),HA(EGL H,GLAZ H),I(CELANDIC-YR,NG(,WAZ),OR,SAZ IS ISS I,WAZ EOH),JERAN J,K(,",
    "AUN( K,A)),L(AUKAZ LAGU LOGR L,ONG-BRANCH-(AR AE,HAGALL H,MADR M,OSS O,YR)),MANNAZ MAN M,",
    "NAUDIZ NYD NAUD N,O(,E,N,O,PEN-P,S O,THALAN ETHEL O),PERTHO PEORTH P,Q,RAIDO RAD REID R,S(H(",
    ",ORT-TWIG-(AR A,BJARKAN B,HAGALL H,MADR M,NAUD N,OSS O,SOL S,TYR T,YR)),",
    "IGEL LONG-BRANCH-SOL S,OWILO S,TAN),T(HURISAZ THURS THORN,IWAZ TIR TYR T),URUZ UR U,V,W(,",
    "UNJO WYNN W),X,Y(,R),Z),MULTIPLE PUNCTUATION,SINGLE PUNCTUATION,TVIMADUR SYMBOL),N(ER,",
    "ING SHIRT WITH SASH)),PEE SIGN,SSIAN ASTROLOGICAL SYMBOL (BINOVILE,NOVILE,QUINTILE,SENTAGON,",
    "TREDECILE,VIGINTILE)))"]

def namesS : List String :=
  ["S( IN TRIANGLE,A(FETY (PIN,VEST),GITTARIUS,ILBOAT,KE BOTTLE AND CUP,L(T( SHAKER,IRE),",
    "UTING FACE),MARITAN (ABBREVIATION MARK,LETTER (ALAF,B(AA,IT),DALAT,FI,GAMAN,I(N,T,Y),KAAF,",
    "LABAT,MIM,NUN,QUF,RISH,S(HAN,INGAAT),T(AAF,IT,SAADIY),YUT,ZEN),M(ARK (DAGESH,EPENTHETIC YUT,",
    "IN(,-ALAF),NEQUDAA,OCCLUSION),ODIFIER LETTER (EPENTHETIC YUT,I,SHORT A)),PUNCTUATION (A(",
    "FSAAQ,N(GED,NAAU),RKAANU,TMAAU),BAU,MELODIC QITSA,NEQUDAA,QITSA,S(HIYYAALAA,OF MASHFAAT),",
    "TURU,Z(AEF,IQAA)),VOWEL SIGN (A(,A),E,I,LONG (A(,A),E,I,U),O(,VERLONG A(,A)),S(HORT A,UKUN),",
    "U)),N(DWICH,S-SERIF (HEAVY (DOUBLE (COMMA QUOTATION MARK ORNAMENT,",
    "TURNED COMMA QUOTATION MARK ORNAMENT),LOW DOUBLE COMMA QUOTATION MARK ORNAMENT),",
    "INTERROBANG ORNAMENT)),RI,T(ELLITE(, ANTENNA),URN),UR(ASHTRA (CONSONANT SIGN HAARU,D(ANDA,",
    "IGIT (EIGHT,F(IVE,OUR),NINE,ONE,S(EVEN,IX),T(HREE,WO),ZERO),OUBLE DANDA),LETTER (A(,A,I,U),",
    "B(A,HA),C(A,HA),D(A,D(A,HA),HA),E(,E),G(A,HA),HA,I(,I),J(A,HA),K(A,HA),L(A,LA),MA,N(A,GA,NA,",
    "YA),O(,O),P(A,HA),RA,S(A,HA,SA),T(A,HA,T(A,HA)),U(,U),V(A,OCALIC (L(,L),R(,R))),YA),SIGN (",
    "ANUSVARA,CANDRABINDU,VI(RAMA,SARGA)),VOWEL SIGN (A(A,I,U),E(,E),I(,I),O(,O),U(,U),VOCALIC (",
    "L(,L),R(,R)))),OPOD),XOPHONE),C(A(LES,RF),HOOL(, SATCHEL),I,O(OTER,RPI(ON,US)),R(E(EN,",
    "WDRIVER),IPT (CAPITAL (B,E,F,H,I,L,M,P,R),LIGATURE ET ORNAMENT,SMALL (E,G,L,O)),OLL,UPLE)),",
    "E(A(L,T),C(OND PLACE MEDAL,T(ION SIGN,OR)),DNA,E(-NO-EVIL MONKEY,DLING),GMENT(,ED DIGIT (",
    "EIGHT,F(IVE,OUR),NINE,ONE,S(EVEN,IX),T(HREE,WO),ZERO)),LFIE,MI(COLON,",
    "DIRECT PRODUCT WITH BOTTOM CLOSED,SEXTILE),PARATED SYMBOL,R(",
    "IOUS FACE WITH SYMBOLS COVERING MOUTH,VICE MARK),S(AME DOT,QUIQUADRATE),T (MINUS,",
    "TRANSMIT STATE),WING NEEDLE,XTILE),GC,H(A(DOWED WHITE (CIRCLE,LATIN CROSS,STAR),",
    "LLOW PAN OF FOOD,MROCK,R(ADA (ABBREVIATION SIGN,CONTINUATION SIGN,D(ANDA,IGIT (EIGHT,F(IVE,",
    "OUR),NINE,ONE,S(EVEN,IX),T(HREE,WO),ZERO),OUBLE DANDA),E(KAM,XTRA SHORT VOWEL MARK),",
    "HEADSTROKE,LETTER (A(,A,I,U),B(A,HA),C(A,HA),D(A,D(A,HA),HA),E,G(A,HA),HA,I(,I),J(A,HA),K(A,",
    "HA),L(A,LA),MA,N(A,GA,NA,YA),O,P(A,HA),RA,S(A,HA,SA),T(A,HA,T(A,HA)),U(,U),V(A,OCALIC (L(,",
    "L),R(,R))),YA),OM,S(ANDHI MARK,E(CTION MARK-(1,2),PARATOR),IGN (A(NUSVARA,VAGRAHA),",
    "CANDRABINDU,INVERTED CANDRABINDU,JIHVAMULIYA,NUKTA,SIDDHAM,UPADHMANIYA,VI(RAMA,SARGA)),",
    "UTRA MARK),VOWEL (MODIFIER MARK,SIGN (A(A,I,U),E,I(,I),O,PRISHTHAMATRA E,U(,U),VOCALIC (L(,",
    "L),R(,R))))),K),V(ED ICE,IAN LETTER (A(DO,GE,H,IR,R(E,RAY),SH,WE),BIB,CHURCH,DEAD,E(A(R,T),",
    "GG,RR),FEE,GAG,H(A-HA,UNG),I(AN,CE,F),JUDGE,KICK,LOLL,M(EASURE,IME),NUN,O(AK,IL,N,OZE,R,UT),",
    "PEEP,ROAR,S(O,URE),T(H(EY,IGH),OT),UP,VOW,WO(E,OL),YE(A,W),ZOO))),EEP,I(ELD,FT (IN,OUT),",
    "NTO SHRINE,P),O(CKED FACE WITH EXPLODING HEAD,OTING STAR,PPING (BAGS,TROLLEY),RT( (B(",
    "ACKSLANTED SOUTH ARROW,ENT ARROW POINTING DOWNWARDS THEN NORTH EAST),DOWN TACK(",
    ", WITH OVERBAR),LEFT TACK,RIGHTWARDS ARROW ABOVE LEFTWARDS ARROW,SLANTED NORTH ARROW,",
    "UP TACK(, (ABOVE SHORT DOWN TACK,WITH UNDERBAR))),CAKE,HAND FORMAT (CONTINUING OVERLAP,",
    "DOWN STEP,LETTER OVERLAP,UP STEP),S),ULDERED OPEN BOX,WER),R(IMP,UG),UFFLE PRODUCT,Y),I(,D(",
    "DHAM (D(ANDA,OUBLE DANDA),END OF TEXT MARK,LETTER (A(,A,I,LTERNATE U,U),B(A,HA),C(A,HA),D(A,",
    "D(A,HA),HA),E,G(A,HA),HA,I(,I),J(A,HA),K(A,HA),LA,MA,N(A,GA,NA,YA),O,P(A,HA),RA,S(A,HA,SA),",
    "T(A,H(A,REE-CIRCLE ALTERNATE I),T(A,HA),WO-CIRCLE ALTERNATE I(,I)),U(,U),V(A,OCALIC (L(,L),",
    "R(,R))),YA),REPETITION MARK-(1,2,3),S(E(CTION MARK (DOUBLE RING(, WITH RAYS),WITH (",
    "CIRCLES AND (FOUR ENCLOSURES,RAYS,TWO ENCLOSURES),DOUBLE CRESCENTS,QUADRUPLE CRESCENTS,",
    "RAYS AND DOTTED (CRESCENTS,DOUBLE CRESCENTS,TRIPLE CRESCENTS),SEPTUPLE CRESCENTS,TRI(",
    "DENT AND (DOTTED CRESCENTS,U-SHAPED ORNAMENTS),PLE CRESCENTS))),PARATOR (BAR,DOT)),IGN (",
    "ANUSVARA,CANDRABINDU,NUKTA,SIDDHAM,VI(RAMA,SARGA))),VOWEL SIGN (A(A,I,LTERNATE U(,U),U),E,I(",
    ",I),O,U(,U),VOCALIC R(,R))),EWAYS (BLACK (DOWN POINTING INDEX,LEFT POINTING INDEX,",
    "RIGHT POINTING INDEX,UP POINTING INDEX),WHITE (DOWN POINTING INDEX,LEFT POINTING INDEX,",
    "RIGHT POINTING INDEX,UP POINTING INDEX))),GN( OF THE HORNS,WRITING (AIR (",
    "BLOW( SMALL ROTATIONS,ING OUT),SUCK( SMALL ROTATIONS,ING IN)),BR(EATH (EXHALE,INHALE),USH (",
    "BETWEEN,MULTIPLE,SINGLE)),C(HEEKS (NEUTRAL,PUFFED,SUCKED),O(LON,MMA)),D(REAMY EYEBROWS (",
    "DOWN NEUTRAL,NEUTRAL (DOWN,UP),UP NEUTRAL),YNAMIC (ARROWHEAD (LARGE,SMALL),EVERY OTHER TIME,",
    "FAST,GRADUAL,RELAXED,S(IMULTANEOUS(, ALTERNATING),LOW),TENSE)),E(ARS,XCITEMENT,YE( (BLINK (",
    "MULTIPLE,SINGLE),WINK),BROWS STRAIGHT (DOWN,NEUTRAL,UP),GAZE-(FLOORPLANE (CURVED,STRAIGHT(",
    ", (ALTERNATING,DOUBLE))),WALLPLANE (C(IRCLING,URVED),STRAIGHT(, (ALTERNATING,DOUBLE)))),",
    "LASHES (DOWN,FLUTTERING,UP),S (CLOSED,HALF (CLOSED,OPEN),OPEN,SQUEEZED,WIDE( OPEN,",
    "NING MOVEMENT)))),F(ACE DIRECTION POSITION NOSE (FORWARD TILTING,UP OR DOWN(, TILTING)),I(",
    "LL MODIFIER-(2,3,4,5,6),NGER),L(ICK (LARGE (MULTIPLE,SINGLE),S(EQUENTIAL,MALL (MULTIPLE,",
    "SINGLE))),OORPLANE SHOULDER HIP MOVE),OREHEAD (CONTACT,NEUTRAL,WRINKLED),ULL STOP),GRASP (",
    "BETWEEN,MULTIPLE,SINGLE),H(A(IR,ND-(ANGLE(, (INDEX(, (MIDDLE (LITTLE,RING),RING LITTLE(",
    ", OUT),THUMB(, (IN,OUT)))),LITTLE (INDEX(, THUMB INDEX THUMB(, OUT)),UP),MIDDLE RING LITTLE(",
    ", (IN,OUT)),RING (DOWN MIDDLE THUMB INDEX CROSS,LITTLE))),C(IRCLE(, (INDEX(, (BENT,HINGE,",
    "MIDDLE(, (CROSS( LITTLE,ED),LITTLE,RING,THUMB)),RING LITTLE)),LITTLE (INDEX,UP),MIDDLE (",
    "RING LITTLE(, BENT),UP),RING LITTLE)),LAW(, (FOUR FINGERS CONJOINED,",
    "INDEX THUMB CURVE THUMB INSIDE,MIDDLE RING LITTLE CONJOINED(, SIDE),NO THUMB,THUMB (FORWARD,",
    "SIDE))),U(P(, (FIVE FINGERS SPREAD(, OPEN),INDEX(, (RING LITTLE,THUMB(, OPEN))),",
    "MIDDLE RING LITTLE,NO THUMB,OPEN(, (NO THUMB,THUMB (FORWARD,SIDE))),THUMB (FORWARD,SIDE))),",
    "RLICUE(, (INDEX RING LITTLE ON,MIDDLE RING LITTLE ON,OPEN)))),F(IST(, (",
    "FOUR FINGERS CONJOINED BENT,HEEL,INDEX(, (BENT(, OVER MIDDLE),CUPPED,HINGED(, (LOW,",
    "MIDDLE UP(, THUMB SIDE))),MIDDLE(, (BENT(, THUMB STRAIGHT),C(ONJOINED(, (CUPPED(",
    ", THUMB FORWARD),HINGED(, THUMB SIDE),INDEX BENT,MIDDLE BENT,THUMB (FORWARD,SIDE(, (BENT,",
    "CONJOINED))))),ROSS( LITTLE,ED(, THUMB SIDE))),HINGED(, SPREAD THUMB SIDE),LITTLE,R(",
    "AISED KNUCKLES,ING(, (BENT,CONJOINED))),STRAIGHT THUMB BENT,THUMB(, (ANGLED(, OUT),BENT,C(",
    "IRCLED,ONJOINED HINGED,UPPED),H(INGED,OOKED))),UP SPREAD THUMB FORWARD)),R(AISED KNUCKLE,",
    "ING LITTLE),THUMB (ANGLED (IN MIDDLE UP,OUT MIDDLE UP),C(IRCLE(,D MIDDLE UP),U(",
    "PPED MIDDLE UP,R(LICUE,VE THUMB (INSIDE,UNDER)))),FORWARD INDEX (BENT,STRAIGHT),HOOK(,",
    "ED MIDDLE (HINGED,UP)),SIDE(, (BOTH BENT,INDEX (BENT,HINGE),THUMB (BENT,CONJOINED,",
    "DIAGONAL)))),UP MIDDLE HINGED(, THUMB (CONJOINED,SIDE)))),LITTLE (BENT,DOWN(, (",
    "OTHERS CIRCLED,RIPPLE (CURVED,STRAIGHT))),INDEX(, THUMB),RAISED KNUCKLE,T(HUMB,",
    "OUCHES THUMB),UP),MIDDLE (BENT OVER INDEX,DOWN,LITTLE,R(AISED KNUCKLE,ING LITTLE),THUMB (",
    "ANGLED (INDEX UP,OUT INDEX (CROSSED,UP)),C(IRCLED INDEX (HINGED,UP),UPPED INDEX UP),",
    "HOOKED INDEX UP,LITTLE),UP(, THUMB SIDE)),RING (DOWN,INDEX,LITTLE,MIDDLE(, (CONJOINED,",
    "RAISED KNUCKLES)),RAISED KNUCKLE,THUMB,UP),THUMB(, (BETWEEN (INDEX MIDDLE(, STRAIGHT),",
    "MIDDLE RING,RING LITTLE),FORWARD,HEEL,OVER (FOUR RAISED KNUCKLES,TWO FINGERS),SIDE (BENT,",
    "CONJOINED,DIAGONAL),UNDER (FOUR FINGERS,INDEX BENT,LITTLE UP,T(HREE FINGERS,",
    "WO FINGERS)))))),LAT(, (BETWEEN PALM FACINGS,F(IVE FINGERS SPREAD(, (BENT,FOUR BENT,HINGED(",
    ", (NO THUMB,THUMB SIDE)),THUMB FORWARD)),OUR FINGERS(, (BENT,CONJOINED(, SPLIT),HINGED))),",
    "HEEL(, (FIVE FINGERS SPREAD(, (BENT,FOUR BENT)),THUMB SIDE)),SPLIT (CENTRE(, THUMB SIDE(",
    ", BENT)),INDEX THUMB SIDE,LITTLE),THUMB (BENT,FORWARD,SIDE)))),H(INGE(, (F(",
    "IVE FINGERS SPREAD OPEN,OUR FINGERS CONJOINED),INDEX(, (HINGED,MIDDLE (LITTLE,RING(",
    ", CONJOINED)),RING LITTLE,THUMB(, (LARGE,OPEN,S(IDE,MALL))))),LITTLE(, (INDEX(, THUMB),",
    "THUMB)),MIDDLE(, RING LITTLE),NO THUMB,OPEN(, (NO THUMB,THUMB (FORWARD,SIDE))),RING(",
    ", DOWN INDEX THUMB HOOK MIDDLE),SMALL,THUMB (BETWEEN MIDDLE RING,SIDE(, TOUCHING INDEX)))),",
    "OOK(, (CURLICUE,INDEX RING LITTLE (IN,OUT,UNDER),MIDDLE (RING LITTLE CONJOINED(, (IN,OUT)),",
    "THUMB),RING THUMB))),OVAL(, (FIVE FINGERS SPREAD,INDEX,LITTLE UP,NO THUMB,RING LITTLE,",
    "THUMB (FORWARD,SIDE))))),EAD(, (MOVEMENT( CIRCLE,-(FLOORPLANE (CURVE,STRAIGHT),WALLPLANE (",
    "CURVE,STRAIGHT,TILT))),RIM))),L(I(MB (COMBINATION,LENGTH-(1,2,3,4,5,6,7)),P( (",
    "LOWER OVER UPPER,UPPER OVER LOWER),S PRESSED TOGETHER)),OCATION( (DEPTH,HE(AD NECK,IGHT),",
    "LIMBS DIGITS,TORSO,WIDTH),-(FLOORPLANE SPACE,WALLPLANE SPACE))),MO(UTH (C(LOSED (CONTACT,",
    "FORWARD,NEUTRAL),ORNERS),FROWN(, (OPEN,WRINKLED)),KISS(, (FORWARD,WRINKLED)),OPEN (CIRCLE,",
    "FORWARD,OVAL(, (WRINKLED,YAWN)),RECTANGLE(, (WRINKLED,YAWN)),WRINKLED),SMILE(, (OPEN,",
    "WRINKLED)),TENSE(, (FORWARD,SUCKED)),WRINKLES (DOUBLE,SINGLE)),VEMENT-(DIAGONAL (AWAY (",
    "LARGE(,ST),MEDIUM,SMALL),BETWEEN (AWAY (LARGE(,ST),MEDIUM,SMALL),TOWARDS (LARGE(,ST),MEDIUM,",
    "SMALL)),TOWARDS (LARGE(,ST),MEDIUM,SMALL)),FLOORPLANE (ARM CIRCLE HITTING WALL (LARGE (",
    "DOUBLE,SINGLE),MEDIUM (DOUBLE,SINGLE),SMALL (DOUBLE,SINGLE)),B(END,OX (LARGE,MEDIUM,SMALL)),",
    "C(HECK,ORNER (LARGE,MEDIUM,SMALL),ROSS,URVE (COMBINED,HITTING (CEILING (LARGE,SMALL),FLOOR (",
    "LARGE,SMALL)),LARGE(,ST),MEDIUM,SMALL)),DOUBLE (ALTERNATING(, WRIST FLEX),STRAIGHT,",
    "WRIST FLEX),FINGER C(IRCLES HITTING WALL (DOUBLE,SINGLE),ONTACT),HUMP (HITTING (CEILING (",
    "LARGE (DOUBLE,TRIPLE),SMALL (DOUBLE,TRIPLE)),FLOOR (LARGE DOUBLE,SMALL DOUBLE,TRIPLE (",
    "LARGE TRIPLE,SMALL TRIPLE))),SMALL),JAW,LOOP (HITTING (CEILING (LARGE (DOUBLE,SINGLE),",
    "SMALL (DOUBLE,SINGLE)),FLOOR (LARGE (DOUBLE,SINGLE),SMALL (DOUBLE,SINGLE))),SMALL),PEAKS (",
    "LARGE,MEDIUM,SMALL),S(HAKING PARALLEL,INGLE (STRAIGHT (LARGE(,ST),MEDIUM,SMALL),",
    "WRIST FLEX)),TRIPLE (ALTERNATING (MOVEMENT,WRIST FLEX),STRAIGHT MOVEMENT,WRIST FLEX),W(AVE (",
    "HITTING (CEILING (LARGE,SMALL),FLOOR (LARGE,SMALL)),LARGE,S(MALL,NAKE)),",
    "RIST CIRCLE HITTING WALL (DOUBLE,SINGLE)),ZIGZAG (LARGE,MEDIUM,SMALL)),HINGE (",
    "DOWN SEQUENTIAL,SIDE TO SIDE SCISSORS,UP (DOWN (ALTERNATING (LARGE,SMALL),LARGE,SMALL),",
    "SEQUENTIAL)),WALLPLANE (ARM CIRCLE (MEDIUM (DOUBLE,SINGLE),SMALL (DOUBLE,SINGLE)),B(END (",
    "LARGE,MEDIUM,SMALL),OX (LARGE,MEDIUM,SMALL)),C(HECK (LARGE,MEDIUM,SMALL),ORNER (LARGE,",
    "MEDIUM,ROTATION,SMALL),ROSS,URVE( (H(ALF-CIRCLE (LARGE(,ST),MEDIUM,SMALL),ITTING (CHEST,",
    "FRONT WALL)),QUARTER (LARGE(,ST),MEDIUM,SMALL),TH(EN STRAIGHT,REE-QUARTER CIRCLE (MEDIUM,",
    "SMALL))),D CROSS (MEDIUM,SMALL))),DOUBLE (ALTERNATING(, WRIST FLEX),STRAIGHT,WRIST FLEX),",
    "FINGER C(IRCLES (DOUBLE,SINGLE),ONTACT),HUMP (HITTING (CHEST,FRONT WALL),LARGE,MEDIUM,",
    "SMALL),JAW,LOOP (HITTING (CHEST,FRONT WALL),LARGE,MEDIUM,SMALL(, DOUBLE)),PEAKS (LARGE,",
    "MEDIUM,SMALL),S(HAKING,INGLE (STRAIGHT (LARGE(,ST),MEDIUM,SMALL),WRIST FLEX)),TRIPLE (",
    "ALTERNATING(, WRIST FLEX),STRAIGHT MOVEMENT,WRIST FLEX),W(AVE (CURVE (DOUBLE (LARGE,MEDIUM,",
    "SMALL),TRIPLE (LARGE,MEDIUM,SMALL)),DIAGONAL PATH (LARGE,MEDIUM,SMALL),HITTING (CHEST,",
    "FRONT WALL)),RIST CIRCLE FRONT (DOUBLE,SINGLE)),ZIGZAG (LARGE,MEDIUM,SMALL)))),N(ECK,OSE (",
    "CONTACT,NEUTRAL,W(IGGLES,RINKLES))),PARENTHESIS,R(OTATION( MODIFIER-(1(0,1,2,3,4,5,6),2,3,4,",
    "5,6,7,8,9),-(FLOORPLANE (ALTERNATING(, HITTING (CEILING,FLOOR)),DOUBLE(, HITTING (CEILING,",
    "FLOOR)),SINGLE(, HITTING (CEILING,FLOOR))),WALLPLANE (ALTERNAT(E,ING HITTING (CHEST,",
    "FRONT WALL)),DOUBLE(, HITTING (CHEST,FRONT WALL)),SINGLE(, HITTING (CHEST,FRONT WALL))))),",
    "UB (BETWEEN,MULTIPLE,SINGLE)),S(EMICOLON,HOULDER (HIP (POSITIONS,SPINE),TILTING FROM WAIST),",
    "QUEEZE (FLICK ALTERNATING,LARGE (MULTIPLE,SINGLE),S(EQUENTIAL,MALL (MULTIPLE,SINGLE))),",
    "TRIKE (BETWEEN,MULTIPLE,SINGLE),URFACE (BETWEEN,SYMBOLS)),T(E(ETH(, (BITE LIPS,MOVEMENT,ON (",
    "LIPS(, MOVEMENT),TONGUE(, MOVEMENT)))),NSE CHEEKS (HIGH,LOW,MIDDLE)),O(NGUE (CENTRE (",
    "INSIDE MOUTH,STICKING OUT),INSIDE MOUTH RELAXED,LICKING LIPS,MOVES AGAINST CHEEK,",
    "STICKING OUT FAR,TIP (BETWEEN LIPS,TOUCHING INSIDE MOUTH)),RSO-(FLOORPLANE TWISTING,",
    "WALLPLANE (CURVED BEND,STRAIGHT STRETCH)),UCH (BETWEEN,MULTIPLE,SINGLE)),RAVEL-(FLOORPLANE (",
    "ROTATION-(FLOORPLANE (ALTERNATING,DOUBLE,SINGLE),WALLPLANE (ALTERNATING,DOUBLE,SINGLE)),",
    "SHAKING),WALLPLANE (ARM SPIRAL (DOUBLE,SINGLE,TRIPLE),ROTATION-(FLOORPLANE (ALTERNATING,",
    "DOUBLE,SINGLE),WALLPLANE (ALTERNATING,DOUBLE,SINGLE)),SHAKING))),",
    "UPPER BODY TILTING FROM HIP JOINTS,WALLPLANE SHOULDER HIP MOVE)),LHOUETTE OF JAPAN,MILAR (",
    "ABOVE (GREATER-THAN ABOVE EQUALS SIGN,LESS-THAN ABOVE EQUALS SIGN),MINUS SIMILAR,OR (",
    "GREATER-THAN,LESS-THAN)),N(E WAVE,GLE( (CHARACTER INTRODUCER,GRAPHIC CHARACTER INTRODUCER,",
    "HIGH-REVERSED-9 QUOTATION MARK,L(EFT-POINTING ANGLE QUOTATION MARK,OW-9 QUOTATION MARK),",
    "RIGHT-POINTING ANGLE QUOTATION MARK,SHIFT T(HREE,WO)),-SHIFT-(2,3)),HALA (ARCHAIC (DIGIT (",
    "EIGHT,F(IVE,OUR),NINE,ONE,S(EVEN,IX),T(HREE,WO)),NUMBER (EIGHTY,F(IFTY,ORTY),NINETY,ONE (",
    "HUNDRED,THOUSAND),S(EVENTY,IXTY),T(EN,HIRTY,WENTY))),L(ETTER (A(AYANNA,E(EYANNA,YANNA),",
    "IYANNA,LPAPRAANA (BAYANNA,CAYANNA,D(AYANNA,DAYANNA),GAYANNA,JAYANNA,KAYANNA,PAYANNA,T(",
    "AYANNA,TAYANNA)),MBA BAYANNA,UYANNA,YANNA),DANTAJA (LAYANNA,NAYANNA,SAYANNA),E(EYANNA,",
    "YANNA),FAYANNA,HAYANNA,I(IYANNA,LU(UYANNA,YANNA),RU(UYANNA,YANNA),YANNA),KANTAJA NAASIKYAYA,",
    "M(A(HAAPRAANA (BAYANNA,CAYANNA,D(AYANNA,DAYANNA),GAYANNA,JAYANNA,KAYANNA,PAYANNA,T(AYANNA,",
    "TAYANNA)),YANNA),UURDHAJA (LAYANNA,NAYANNA,SAYANNA)),O(OYANNA,YANNA),RAYANNA,SANYAKA (D(",
    "AYANNA,DAYANNA),GAYANNA,JAYANNA),TAALUJA (NAASIKYAYA,SA(NYOOGA NAAKSIKYAYA,YANNA)),U(UYANNA,",
    "YANNA),VAYANNA,YAYANNA),ITH DIGIT (EIGHT,F(IVE,OUR),NINE,ONE,S(EVEN,IX),T(HREE,WO),ZERO)),",
    "PUNCTUATION KUNDDALIYA,SIGN (A(L-LAKUNA,NUSVARAYA),CANDRABINDU,VISARGAYA),VOWEL SIGN (",
    "AELA-PILLA,DIGA (AEDA-PILLA,GA(ETTA-PILLA,YANUKITTA),IS-PILLA,KOMBUVA,PAA-PILLA),GA(",
    "ETTA-PILLA,YANUKITTA),K(ETTI (AEDA-PILLA,IS-PILLA,PAA-PILLA),OMBU( DEKA,VA(, HAA (",
    "AELA-PILLA,DIGA AELA-PILLA,GAYANUKITTA))))))),X( P(ETALLED BLACK AND WHITE FLORETTE,OINTED (",
    "BLACK STAR,PINWHEEL STAR,STAR WITH MIDDLE DOT)),-PER-EM SPACE,TEEN POINTED ASTERISK)),K(",
    "ATEBOARD,I( AND SKI BOOT,ER),U(LL(, AND CROSSBONES),NK)),L(A(NTED (EQUAL TO OR (",
    "GREATER-THAN(, WITH DOT INSIDE),LESS-THAN(, WITH DOT INSIDE)),NORTH ARROW WITH HO(OKED HEAD,",
    "RIZONTAL TAIL)),VONIC ASTERISK),E(D,EP(ING (ACCOMMODATION,FACE,SYMBOL),Y FACE),UTH OR SPY),",
    "I(CE OF PIZZA,GHTLY (FROWNING FACE,SMILING FACE)),O(P(E,ING LARGE (AND,OR)),T( MACHINE,H))),",
    "M(A(LL( (A(IRPLANE,MPERSAND,STERISK),BLUE DIAMOND,CO(LON,MM(A,ERCIAL AT),NTAINS (AS MEMBER,",
    "WITH (OVERBAR,VERTICAL BAR AT END OF HORIZONTAL STROKE))),DOLLAR SIGN,E(LEMENT OF(, WITH (",
    "OVERBAR,VERTICAL BAR AT END OF HORIZONTAL STROKE)),M DASH,QUALS SIGN,XCLAMATION MARK),",
    "FULL STOP,GREATER-THAN SIGN,HYPHEN-MINUS,IDEOGRAPHIC COMMA,LE(FT (CURLY BRACKET,PARENTHESIS,",
    "TORTOISE SHELL BRACKET),SS-THAN SIGN),NUMBER SIGN,ORANGE DIAMOND,P(ERCENT SIGN,LUS SIGN),",
    "QUESTION MARK,R(EVERSE SOLIDUS,IGHT (CURLY BRACKET,PARENTHESIS,TORTOISE SHELL BRACKET),",
    "OMAN NUMERAL (E(IGHT,LEVEN),F(I(FTY,VE(, HUNDRED)),OUR),NINE,ONE(, (HUNDRED,THOUSAND)),S(",
    "EVEN,IX),T(EN,HREE,W(ELVE,O)))),SEMICOLON,T(ILDE,WO DOTS OVER ONE DOT PUNCTUATION),",
    "VEE WITH UNDERBAR),ER THAN(, OR EQUAL TO)),SH PRODUCT),I(L(E,ING (CAT FACE WITH (",
    "HEART-SHAPED EYES,OPEN MOUTH),FACE WITH (H(ALO,EART-SHAPED EYES,ORNS),OPEN MOUTH(, AND (",
    "COLD SWEAT,SMILING EYES,TIGHTLY-CLOSED EYES)),S(MILING EYES(, AND (HAND COVERING MOUTH,",
    "THREE HEARTS)),UNGLASSES),TEAR))),RKING FACE),OKING SYMBOL),N(A(IL,KE),EEZING FACE,",
    "OW( CAPPED MOUNTAIN,BOARDER,FLAKE,MAN(, WITHOUT SNOW))),O(,C(CER BALL,KS),FT( (HYPHEN,",
    "ICE CREAM,SHELL FLOPPY DISK),BALL,WARE-FUNCTION SYMBOL),GDIAN (COMBINING (CURVE (ABOVE,",
    "BELOW),DOT (ABOVE,BELOW),HOOK (ABOVE,BELOW),LONG HOOK BELOW,RESH BELOW,STROKE BELOW,",
    "TWO DOTS (ABOVE,BELOW)),INDEPENDENT SHIN,LETTER (A(LEPH,YIN),BETH,FETH,GIMEL,HE(,TH),KAPH,L(",
    "AMEDH,ESH),MEM,NUN,PE,RESH-AYIN,S(A(DHE,MEKH),HIN),TAW,WAW,YODH,ZAYIN),NUMBER (ONE(",
    ", HUNDRED),T(EN,WENTY)),PUNCTUATION (CIRCLE WITH DOT,HALF CIRCLE WITH DOT,TWO (",
    "CIRCLES WITH DOTS,VERTICAL BARS(, WITH DOTS)))),H,LID( QUILT SQUARE ORNAMENT(",
    ", IN BLACK SQUARE),US(, WITH OVERBAR)),M SIGN,ON WITH RIGHTWARDS ARROW ABOVE,RA SOMPENG (",
    "DIGIT (EIGHT,F(IVE,OUR),NINE,ONE,S(EVEN,IX),T(HREE,WO),ZERO),LETTER (AH,BAH,CAH,DAH,E(EH,H),",
    "GAH,HAH,IH,JAH,KAH,LAH,MA(E,H),N(AH,GAH,YAH),OH,PAH,RAH,SAH,TAH,UH,VAH,YAH)),S,U(",
    "ND RECORDING COPYRIGHT,TH (EAST (ARROW(, (AND SOUTH WEST ARROW,CROSSING NORTH EAST ARROW,",
    "TO CORNER,WITH HOOK)),BLACK ARROW,DOUBLE ARROW,POINTING (BUD,LEAF,VINE LEAF),",
    "SANS-SERIF ARROW,TRIANGLE-HEADED ARROW(, TO BAR),WHITE ARROW),WEST (ARROW(, (",
    "AND NORTH WEST ARROW,WITH HOOK)),BLACK ARROW,DOUBLE ARROW,POINTING (BUD,LEAF,VINE LEAF),",
    "SANS-SERIF ARROW,TRIANGLE-HEADED ARROW(, TO BAR),WHITE ARROW))),YOMBO (",
    "CLUSTER-INITIAL LETTER (LA,RA,S(A,HA)),FINAL CONSONANT SIGN (-A,B,D,G,K,L,M,N(,G),R,S(,H)),",
    "GEMINATION MARK,HEAD MARK WITH MOON AND SUN(, AND (FLAME,TRIPLE FLAME)),LETTER (-A,A,B(A,",
    "HA),C(A,HA),D(A,D(A,HA),HA,ZA),G(A,HA),HA,J(A,HA),K(A,HA,SSA),LA,MA,N(A,GA,NA,YA),P(A,HA),",
    "RA,S(A,HA,SA),T(A,HA,S(A,HA),T(A,HA)),VA,YA,Z(A,HA)),MARK (DOUBLE SHAD,PLUTA,SHAD,TSHEG),S(",
    "IGN (ANUSVARA,JIHVAMULIYA,UPADHMANIYA,VISARGA),UBJOINER),TERMINAL MARK-(1,2),VOWEL (",
    "LENGTH MARK,SIGN (A(I,U),E,I,O(,E),U(,E),VOCALIC (L,R))))),P(,A(,CE,GHETTI,RKL(E(,S),",
    "ING HEART)),E(AK(-NO-EVIL MONKEY,ER(, WITH (CANCELLATION STROKE,ONE SOUND WAVE,",
    "THREE SOUND WAVES)),ING HEAD IN SILHOUETTE),E(CH BALLOON,DBOAT),SMILO SIGN),HERICAL ANGLE(",
    ", OPENING (LEFT,UP)),I(DER(, WEB),RAL (CALENDAR PAD,NOTE PAD,SHELL)),LASHING SWEAT SYMBOL,O(",
    "NGE,O(L OF THREAD,N),RTS MEDAL,UTING WHALE)),QU(A(RE( (A( OVER M,ARU,M,NPEA,PAATO,RUHUA,U),",
    "B(A(ARERU,R),EETA,IRU,ORUTO,Q,USSYERU),C( OVER KG,A(L,P),C,D,M(, (CUBED,SQUARED)),O(,",
    "RPORATION),UP),D(A(,ASU),B,ESI,J,L,M(, (CUBED,SQUARED)),ORU),E(EKAA,R(A NAME (HEISEI,MEIZI,",
    "REIWA,SYOUWA,TAISYOU),G),SUKUUDO,V),F(M,O(OT,UR CORNERS)),G(A(L,NMA,RON),B,HZ,I(GA,NII,",
    "RUDAA),PA,URAMU(,TON),Y),H(A(,ITU),E(KUTAARU,RUTU),G,IRAGANA HOKA,O(N,O(N,RU)),P(,A),U(",
    "ARADDO,IITO,RAN),Z),I(MAGE OF(, OR (EQUAL TO,NOT EQUAL TO)),N(,INGU,TI),U),K( OHM,A(,IRI,R(",
    "ATTO,ORII)),B,CAL,EESU,G,HZ,IRO(,GURAMU,MEETORU,WATTO),K,L,M(, (C(APITAL,UBED),SQUARED)),O(",
    "OPO,RUNA),PA,T,UR(OONE,UZEIRO),V,W,YURII),L(EFT OPEN BOX OPERATOR,M,N,O(G,ZENGE),X),M( (",
    "CUBED,O(HM,VER S(, SQUARED)),SQUARED),A(,HHA,I(KURO,RU),NSYON,RUKU),B(, SMALL),E(ETORU,GA(,",
    "TON)),G,HZ,I(KURON,L,RI(,BAARU)),L,M(, (CUBED,SQUARED)),OL,PA,S,U (A,F,G,L,M,S,V,W),V(",
    ", MEGA),W(, MEGA)),N(A(,NO),F,M,OTTO,S,V,W),O(NSU,OMU,RIGINAL OF(, OR (EQUAL TO,",
    "NOT EQUAL TO)),V),P(A(, AMPS,A(SENTO,TU)),C,E(EZI,N(IHI,SU),SO),F,H,I(ASUTORU,K(O,URU)),M,O(",
    "INTO,NDO,SITION INDICATOR),PM,R,S,V,W),R(AD(, OVER S(, SQUARED)),E(MU,NTOGEN),I(",
    "GHT OPEN BOX OPERATOR,RA,TTORU),OOT,U(PII,UBURU)),S(A(IKURU,NTIIMU),ENT(I,O),IRINGU,R,V),T(",
    "ARGET,HZ,ON),UON,V OVER M,W(ATTO,B,ITH (BOTTOM HALF BLACK,CONTOURED OUTLINE,",
    "DIAGONAL CROSSHATCH FILL,HORIZONTAL FILL,L(EFT HALF BLACK,OWER (LEFT DIAGONAL HALF BLACK,",
    "RIGHT DIAGONAL HALF BLACK)),ORTHOGONAL CROSSHATCH FILL,RIGHT HALF BLACK,TOP HALF BLACK,",
    "UPPER (LEFT (DIAGONAL HALF BLACK,TO LOWER RIGHT FILL),RIGHT (DIAGONAL HALF BLACK,",
    "TO LOWER LEFT FILL)),VERTICAL FILL)),Y(AA(DO,RU),UAN)),D (ASTERISK,C(JK UNIFIED IDEOGRAPH-(",
    "4E(0(0,9),2D,8C,A4),5(18D,2(1D,4D,72),3(CC,F3),4(08,39),5B6,8F0,9(1A,29),B57,DE6,F8C),6(2(",
    "4B,53,95),3(07,55),5(99,B0),620,70(8,9),E80,F14),7(121,5(1F,33),981,A7A,D42),8(9E3,CA9,D70),",
    "9(04A,14D)),L,OOL),DOT OPERATOR,EIGHT K,F(ALLING DIAGONAL SLASH,IVE POINT ONE,OUR (",
    "DOT PUNCTUATION,K),REE),H(C,DR,I-RES,V),ID,K(ATAKANA (DE,KOKO,SA),EY),L(ATIN (",
    "CAPITAL LETTER (A,B,C,D,E,F,G,H,I,J,K,L,M,N,O,P,Q,R,S,T,U,V,W,X,Y,Z),SMALL LETTER D),O(",
    "GICAL (AND,OR),SSLESS)),M(INUS,V),N(EW,G),O(K,NE HUNDRED TWENTY P),P(LUS,PV),",
    "RISING DIAGONAL SLASH,S(ALTIRE,D,E(COND SCREEN,VEN POINT ONE),HV,IXTY P,MALL CIRCLE,OS,",
    "QUARE,S),T(HREE D,IMES,W(ENTY-TWO POINT TWO,O K)),U(HD,P WITH EXCLAMATION MARK),V(OD,S),",
    "WC)),T BLACK RIGHTWARDS ARROW),ID),S(2,3,A),T(,A(DIUM,FF OF (AESCULAPIUS,HERMES),",
    "MPED ENVELOPE,NDING PERSON,R( (AND CRESCENT,EQUALS,O(F DAVID,PERATOR),WITH (LEFT HALF BLACK,",
    "RIGHT HALF BLACK)),T OF (GUARDED AREA,HEADING,PROTECTED AREA,S(ELECTED AREA,TRING),TEXT)),T(",
    "ION,UE OF LIBERTY)),E(AM( LOCOMOTIVE,ING BOWL),NOGRAPHIC FULL STOP,THOSCOPE),ICK FIGURE(, (",
    "LEANING (LEFT,RIGHT),WITH (ARMS RAISED,DRESS))),O(CK CHART,PWATCH),R(A(IGHT( RULER,NESS),",
    "WBERRY),ESS OUTLINED WHITE STAR,I(CTLY EQUIVALENT TO,NG TERMINATOR)),S,U(DIO MICROPHONE,",
    "FFED FLATBREAD,PA),X),U(B(,S(CRIPT (E(IGHT,QUALS SIGN),F(IVE,OUR),LEFT PARENTHESIS,MINUS,",
    "NINE,ONE,PLUS SIGN,RIGHT PARENTHESIS,S(EVEN,IX),T(HREE,WO),ZERO),ET (ABOVE (",
    "RIGHTWARDS ARROW,SU(BSET,PERSET)),OF(, (ABOVE (ALMOST EQUAL TO,EQUALS SIGN,NOT EQUAL TO,",
    "TILDE OPERATOR),OR EQUAL TO(, WITH DOT ABOVE),WITH NOT EQUAL TO)),WITH (DOT,",
    "MULTIPLICATION SIGN BELOW,PLUS SIGN BELOW)),TITUTE)),CCEEDS(, (ABOVE (ALMOST EQUAL TO,",
    "EQUALS SIGN,NOT (ALMOST EQUAL TO,EQUAL TO),SINGLE-LINE (EQUALS SIGN,NOT EQUAL TO)),",
    "BUT NOT EQUIVALENT TO,OR EQU(AL TO,IVALENT TO),UNDER RELATION)),MMATION (BOTTOM,TOP,",
    "WITH INTEGRAL),N(, (BEHIND CLOUD,WITH FACE),DANESE (AVAGRAHA,CONSONANT SIGN PA(MINGKAL,NY(",
    "AKRA,IKU),SANGAN (MA,WA)),DIGIT (EIGHT,F(IVE,OUR),NINE,ONE,S(EVEN,IX),T(HREE,WO),ZERO),",
    "LETTER (A(,E),B(A,HA),CA,DA,E(,U),F(A,INAL (K,M)),GA,HA,I,JA,K(A,HA),L(A,EU),MA,N(A,GA,YA),",
    "O,PA,QA,R(A,EU),S(A,YA),TA,U,VA,WA,XA,YA,ZA),PUNCTUATION BINDU (BA SATANGA,CAKRA,DA SATANGA,",
    "KA SATANGA,LEU SATANGA,P(ANGLONG,URNAMA),SURYA),SIGN (PA(MAAEH,N(G(LAYAR,WISAD),YECEK)),",
    "VIRAMA),VOWEL SIGN PA(MEPET,N(AELAENG,EULEUNG,GHULU,OLONG,YUKU))),FLOWER,RISE(",
    ", OVER MOUNTAINS),SET OVER BUILDINGS),PER(HERO,S(CRIPT (E(IGHT,QUALS SIGN),F(IVE,OUR),L(",
    "ATIN SMALL LETTER (I,N),EFT PARENTHESIS),MINUS,NINE,ONE,PLUS SIGN,RIGHT PARENTHESIS,S(EVEN,",
    "IX),T(HREE,WO),ZERO),ET (ABOVE (LEFTWARDS ARROW,SU(BSET,PERSET)),BESIDE (",
    "AND JOINED BY DASH WITH SUBSET,SUBSET),OF(, (ABOVE (ALMOST EQUAL TO,EQUALS SIGN,",
    "NOT EQUAL TO,TILDE OPERATOR),OR EQUAL TO(, WITH DOT ABOVE),WITH NOT EQUAL TO)),",
    "PRECEDING SOLIDUS,WITH (DOT,MULTIPLICATION SIGN BELOW,PLUS SIGN BELOW))),VILLAIN),RF(",
    "ACE INTEGRAL,ER),S(HI,PENSION RAILWAY)),W(A(N,SH AMPERSAND ORNAMENT),IMMER,UNG DASH),Y(",
    "LOTI NAGRI (LETTER (A,B(HO,O),C(HO,O),D(D(HO,O),HO,O),E,G(HO,O),HO,I,J(HO,O),K(HO,O),LO,MO,",
    "NO,O,P(HO,O),R(O,RO),SO,T(HO,O,T(HO,O)),U),POETRY MARK-(1,2,3,4),SIGN (A(LTERNATE HASANTA,",
    "NUSVARA),DVISVARA,HASANTA),VOWEL SIGN (A,E,I,OO,U)),M(BOL FOR (ACKNOWLEDGE,B(ACKSPACE,ELL),",
    "CA(NCEL,RRIAGE RETURN),D(ATA LINK ESCAPE,E(LETE(, FORM TWO),VICE CONTROL (FOUR,ONE,T(HREE,",
    "WO)))),E(N(D OF (MEDIUM,T(EXT,RANSMISSION(, BLOCK))),QUIRY),SCAPE),F(ILE SEPARATOR,",
    "ORM FEED),GROUP SEPARATOR,HORIZONTAL TABULATION,LINE FEED,MARKS CHAPTER,N(E(",
    "GATIVE ACKNOWLEDGE,WLINE),ULL),RECORD SEPARATOR,S(AMARITAN SOURCE,HIFT (IN,OUT),PACE,",
    "TART OF (HEADING,TEXT),UBSTITUTE(, FORM TWO),YNCHRONOUS IDLE),TYPE A ELECTRONICS,",
    "UNIT SEPARATOR,VERTICAL TABULATION),METRY),N(,AGOGUE,CHRONOUS IDLE),RI(AC (",
    "ABBREVIATION MARK,BARREKH,CO(LON SKEWED (LEFT,RIGHT),NTRACTION),DOTTED ZLAMA (ANGULAR,",
    "HORIZONTAL),E(ND OF PARAGRAPH,SASA (ABOVE,BELOW)),FEMININE DOT,H(ARKLEAN (ASTERISCUS,",
    "METOBELUS,OBELUS),BASA( (ABOVE,BELOW),-ESASA DOTTED),ORIZONTAL COLON),LETTER (ALAPH,BETH,D(",
    "ALATH,OTLESS DALATH RISH),E,FINAL SEMKATH,GAMAL(, GARSHUNI),HE(,TH),KAPH,LAMADH,M(ALAYALAM (",
    "BHA,JA,LL(A,LA),N(GA,N(A,NA),YA),RA,SSA,TTA),IM),NUN,PE(,RSIAN (BHETH,DHALATH,GHAMAL)),QAPH,",
    "R(EVERSED PE,ISH),S(ADHE,EMKATH,HIN,OGDIAN (FE,KHAPH,ZHAIN),UPERSCRIPT ALAPH),T(AW,ETH(",
    ", GARSHUNI)),WAW,YUDH(, HE),ZAIN),MUSIC,OBLIQUE LINE (ABOVE,BELOW),PTHAHA (ABOVE,BELOW,",
    "DOTTED),QUSHSHAYA,R(BASA (ABOVE,BELOW),UKKAKHA,WAHA),SU(BLINEAR (COLON(, SKEWED (LEFT,",
    "RIGHT)),FULL STOP),PRALINEAR (COLON(, SKEWED LEFT),FULL STOP)),T(HREE DOTS (ABOVE,BELOW),",
    "WO VERTICAL DOTS (ABOVE,BELOW)),ZQAPHA (ABOVE,BELOW,DOTTED)),NGE)))"]

end NameFlow.Text.CharacterName
