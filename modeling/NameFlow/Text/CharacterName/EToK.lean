/-!
# Character names from E to K

The names and the name aliases of characters in Unicode 14 that no rule composes, as trees of
words by initial letter, cut into lines.
-/

namespace NameFlow.Text.CharacterName

set_option autoImplicit false

def namesE : List String :=
  ["E(-MAIL SYMBOL,A(GLE,R(, (OF (MAIZE,RICE),WITH HEARING AID),TH(, G(LOBE (A(MERICAS,",
    "SIA-AUSTRALIA),EUROPE-AFRICA),ROUND))),ST SYRIAC CROSS),DITORIAL CORONIS,G(G,",
    "YPTIAN HIEROGLYPH (A(0(0(1,2,3,4,5(,A),6(,A,B),7,8,9),1(0,1,2,3,4(,A),5,6,7(,A),8,9),2(0,1,",
    "2,3,4,5,6,7,8,9),3(0,1,2(,A),3,4,5,6,7,8,9),4(0(,A),1,2(,A),3(,A),4,5(,A),6,7,8,9),5(0,1,2,",
    "3,4,5,6,7,8,9),6(0,1,2,3,4,5,6,7,8,9),70),A0(0(1,2,3,4,5,6,7(,A,B),8,9),1(0,1,2,3,4,5,6,7,8,",
    "9),2(0,1,2,3,4,5,6,7,8,9),3(0,1,2))),B(00(1,2,3,4,5(,A),6,7,8,9),EGIN SEGMENT),C0(0(1,2(,A,",
    "B,C),3,4,5,6,7,8,9),1(0(,A),1,2,3,4,5,6,7,8,9),2(0,1,2,3,4)),D0(0(1,2,3,4,5,6,7,8(,A),9),1(",
    "0,1,2,3,4,5,6,7,8,9),2(0,1,2,3,4,5,6,7(,A),8,9),3(0,1(,A),2,3,4(,A),5,6,7,8,9),4(0,1,2,3,4,",
    "5,6(,A),7,8(,A),9),5(0(,A,B,C,D,E,F,G,H,I),1,2(,A),3,4(,A),5,6,7,8,9),6(0,1,2,3,4,5,6,7(,A,",
    "B,C,D,E,F,G,H))),E(0(0(1,2,3,4,5,6,7,8(,A),9(,A)),1(0,1,2,3,4,5,6(,A),7(,A),8,9),2(0(,A),1,",
    "2,3,4,5,6,7,8(,A),9),3(0,1,2,3,4(,A),6,7,8)),ND SEGMENT),F0(0(1(,A),2,3,4,5,6,7,8,9),1(0,1,",
    "2,3(,A),4,5,6,7,8,9),2(0,1(,A),2,3,4,5,6,7,8,9),3(0,1(,A),2,3,4,5,6,7(,A),8(,A),9),4(0,1,2,",
    "3,4,5(,A),6(,A),7(,A),8,9),5(0,1(,A,B,C),2,3)),G0(0(1,2,3,4,5,6(,A),7(,A,B),8,9),1(0,1(,A),",
    "2,3,4,5,6,7,8,9),2(0(,A),1,2,3,4,5,6(,A),7,8,9),3(0,1,2,3,4,5,6(,A),7(,A),8,9),4(0,1,2,3(,",
    "A),4,5(,A),6,7,8,9),5(0,1,2,3,4)),H(00(1,2,3,4,5,6(,A),7,8),ORIZONTAL JOINER),I(0(0(1,2,3,4,",
    "5(,A),6,7,8,9(,A)),1(0(,A),1(,A),2,3,4,5)),NSERT AT (BOTTOM (END,START),TOP (END,START))),",
    "K00(1,2,3,4,5,6,7,8),L00(1,2(,A),3,4,5,6(,A),7,8),M0(0(1(,A,B),2,3(,A),4,5,6,7,8,9),1(0(,A),",
    "1,2(,A,B,C,D,E,F,G,H),3,4,5(,A),6(,A),7(,A),8,9),2(0,1,2(,A),3,4(,A),5,6,7,8(,A),9),3(0,1(,",
    "A),2,3(,A,B),4,5,6,7,8,9),4(0(,A),1,2,3,4)),N(0(0(1,2,3,4,5,6,7,8,9),1(0,1,2,3,4,5,6,7,8(,A,",
    "B),9),2(0,1,2,3,4,5(,A),6,7,8,9),3(0,1,2,3(,A),4(,A),5(,A),6,7(,A),8,9),4(0,1,2)),L0(0(1,2,",
    "3,4,5(,A),6,7,8,9),1(0,1,2,3,4,5,6,7(,A),8,9),20),U0(0(1,2,3,4,5,6,7,8,9),1(0(,A),1(,A),2,3,",
    "4,5,6,7,8(,A),9),2(0,1,2(,A)))),O(0(0(1(,A),2,3,4,5(,A),6(,A,B,C,D,E,F),7,8,9),1(0(,A,B,C),",
    "1,2,3,4,5,6,7,8,9(,A)),2(0(,A),1,2,3,4(,A),5(,A),6,7,8,9(,A)),3(0(,A),1,2,3(,A),4,5,6(,A,B,",
    "C,D),7,8,9),4(0,1,2,3,4,5,6,7,8,9),5(0(,A,B),1)),VERLAY MIDDLE),P0(0(1(,A),2,3(,A),4,5,6,7,",
    "8,9),1(0,1)),Q00(1,2,3,4,5,6,7),R0(0(1,2(,A),3(,A,B),4,5,6,7,8,9),1(0(,A),1,2,3,4,5,6(,A),7,",
    "8,9),2(0,1,2,3,4,5,6,7,8,9)),S0(0(1,2(,A),3,4,5,6(,A),7,8,9),1(0,1,2,3,4(,A,B),5,6,7(,A),8,",
    "9),2(0,1,2,3,4,5,6(,A,B),7,8,9),3(0,1,2,3,4,5(,A),6,7,8,9),4(0,1,2,3,4,5,6)),T0(0(1,2,3(,A),",
    "4,5,6,7(,A),8(,A),9(,A)),1(0,1(,A),2,3,4,5,6(,A),7,8,9),2(0,1,2,3,4,5,6,7,8,9),3(0,1,2(,A),",
    "3(,A),4,5,6)),U0(0(1,2,3,4,5,6(,A,B),7,8,9),1(0,1,2,3,4,5,6,7,8,9),2(0,1,2,3(,A),4,5,6,7,8,",
    "9(,A)),3(0,1,2(,A),3,4,5,6,7,8,9),4(0,1,2)),V(0(0(1(,A,B,C,D,E,F,G,H,I),2(,A),3,4,5,6,7(,A,",
    "B),8,9),1(0,1(,A,B,C),2(,A,B),3,4,5,6,7,8,9),2(0(,A,B,C,D,E,F,G,H,I,J,K,L),1,2,3(,A),4,5,6,",
    "7,8(,A),9(,A)),3(0(,A),1(,A),2,3(,A),4,5,6,7(,A),8,9),40(,A)),ERTICAL JOINER),W0(0(1,2,3(,",
    "A),4,5,6,7,8,9(,A)),1(0(,A),1,2,3,4(,A),5,6,7(,A),8(,A),9),2(0,1,2,3,4(,A),5)),X00(1,2,3,4(,",
    "A,B),5,6(,A),7,8(,A)),Y00(1(,A),2,3,4,5,6,7,8),Z0(0(1,2(,A,B,C,D),3(,A,B),4(,A),5(,A),6,7,8,",
    "9),1(0,1,2,3,4,5(,A,B,C,D,E,F,G,H,I),6(,A,B,C,D,E,F,G,H))))),IGHT( (P(",
    "ETALLED OUTLINED BLACK FLORETTE,OINTED (BLACK STAR,PINWHEEL STAR,RECTILINEAR BLACK STAR)),",
    "SPOKED ASTERISK,TEARDROP-SPOKED PROPELLER ASTERISK),H NOTE),JECT SYMBOL,L(BASAN LETTER (A,",
    "BE,C(E,HE),D(E,HE),E(,I),FE,G(E,H(AMMA,E),JE),HE,I,JE,K(E,HE),L(E,LE),ME,N(A,DE,E,JE),O,PE,",
    "QE,R(E,RE),S(E,HE),T(E,HE),U,VE,XE,Y,Z(E,HE)),E(CTRIC( (ARROW,LIGHT BULB,PLUG,TORCH),",
    "AL INTERSECTION),MENT OF(, (OPENING (DOWNWARDS,UPWARDS),WITH (DOT ABOVE,",
    "LONG HORIZONTAL STROKE,OVERBAR,TWO HORIZONTAL STROKES,UNDERBAR,",
    "VERTICAL BAR AT END OF HORIZONTAL STROKE))),PHANT,VATOR),F,YMAIC L(ETTER (A(LEPH,YIN),BETH,",
    "DALETH,GIMEL,HE(,TH),KAPH,LAMEDH,MEM,NUN,PE,QOPH,RESH,S(A(DHE,MEKH),HIN),T(AW,ETH),WAW,YODH,",
    "ZAYIN),IGATURE ZAYIN-YODH)),M( (DASH,QUAD,SPACE),OJI (COMPONENT (BALD,CURLY HAIR,RED HAIR,",
    "WHITE HAIR),MODIFIER FITZPATRICK TYPE-(1-2,3,4,5,6)),P(HASIS SYMBOL,TY (DOCUMENT,N(EST,OTE(",
    ", PA(D,GE))),PAGE(,S),SET(, WITH (LEFT ARROW ABOVE,OVERBAR,RIGHT ARROW ABOVE,",
    "SMALL CIRCLE ABOVE))))),N( (DASH,QUAD,SPACE),D (OF (GUARDED AREA,LINE,MEDIUM,PRO(OF,",
    "TECTED AREA),SELECTED AREA,T(EXT,RANSMISSION(, BLOCK))),WITH LEFTWARDS ARROW ABOVE),Q(,",
    "UIRY),TER SYMBOL,VELOPE(, WITH (DOWNWARDS ARROW ABOVE,LIGHTNING))),O(L,M,T),PA,QU(AL( (",
    "AND PARALLEL TO,TO (BY DEFINITION,OR (GREATER-THAN,LESS-THAN,PRECEDES,SUCCEEDS))),S (COLON,",
    "SIGN(, (A(BOVE (LEFTWARDS ARROW,PLUS SIGN,RIGHTWARDS ARROW,TILDE OPERATOR),",
    "ND SLANTED PARALLEL(, WITH TILDE ABOVE)),WITH (BUMPY ABOVE,DOT BELOW,INFINITY BELOW,",
    "TWO DOTS ABOVE AND TWO DOTS BELOW))),WITH ASTERISK)),I(ANGULAR TO,VALENT (TO,",
    "WITH FOUR DOTS ABOVE))),R(ASE TO THE (LEFT,RIGHT),IS FORM (ONE,TWO),ROR-BARRED (BLACK (",
    "CIRCLE,DIAMOND,SQUARE),WHITE (CIRCLE,DIAMOND,SQUARE))),S(A,C(,APE),TIMATE(D SYMBOL,S)),T(B,",
    "HIOPIC (CO(LON,M(BINING (GEMINATION (AND VOWEL LENGTH MARK,MARK),VOWEL LENGTH MARK),MA)),",
    "DIGIT (EIGHT,F(IVE,OUR),NINE,ONE,S(EVEN,IX),T(HREE,WO)),FULL STOP,NUMBER (EIGHTY,F(IFTY,",
    "ORTY),HUNDRED,NINETY,S(EVENTY,IXTY),T(EN(, THOUSAND),HIRTY,WENTY)),P(ARAGRAPH SEPARATOR,",
    "REFACE COLON),QUESTION MARK,S(E(CTION MARK,MICOLON),YLLABLE (B(A(,A),B(A(,A),E(,E),I,O,U),E(",
    ",E),I,O(,A),U,W(A,E(,E),I)),C(A(,A),C(A(,A),E(,E),H(A(,A),E(,E),H(A(,A),E(,E),I,O,U),I,O,U),",
    "I,O,U),E(,E),H(A(,A),E(,E),I,O(,A),U,WA),I,O(,A),U,WA),D(A(,A),D(A(,A),E(,E),H(AA,E(,E),I,O,",
    "U),I,O(,A),U,WA),E(,E),I,O(,A),U,WA,Z(AA,E(,E),I,O,U)),F(A(,A),E(,E),I,O,U,W(A,E(,E),I),YA),",
    "G(A(,A),E(,E),G(A(,A),E(,E),I,O,U,W(A(,A),E(,E),I)),I,LOTTAL (A(,A),E(,E),I,O(,A),U,WA),O(,",
    "A),U(,RAGE (BW(EE,I),FW(EE,I),GW(E(,E),I),HHWA,KW(E(,E),I),MW(EE,I),PW(EE,I),QW(E(,E),I))),",
    "W(A(,A),E(,E),I),Y(A(,A),E(,E),I,O,U)),H(A(,A),E(,E),H(A(,A),E(,E),I,O,U,W(A,E(,E),I),Y(A(,",
    "A),E(,E),I,O,U)),I,O(,A),U),J(A(,A),E(,E),I,O(,A),U,WA),K(A(,A),E(,E),I,O(,A),U,W(A(,A),E(,",
    "E),I),X(A(,A),E(,E),I,O,U,W(A(,A),E(,E),I)),Y(A(,A),E(,E),I,O,U)),L(A(,A),E(,E),I,O(,A),U,",
    "WA),M(A(,A),E(,E),I,O(,A),U,W(A,E(,E),I),YA),N(A(,A),E(,E),I,O(,A),U,WA,Y(A(,A),E(,E),I,O(,",
    "A),U,WA)),P(A(,A),E(,E),H(A(,A,RYNGEAL (A(,A),E(,E),I,O,U)),E(,E),I,O(,A),U,WA),I,O(,A),U,W(",
    "A,E(,E),I)),Q(A(,A),E(,E),H(A(,A),E(,E),I,O,U,W(A(,A),E(,E),I)),I,O(,A),U,W(A(,A),E(,E),I),",
    "Y(A(,A),E(,E),I,O,U)),R(A(,A),E(,E),I,O(,A),U,WA,YA),S(A(,A),E(,BATBEIT (BWA,FWA,MWA,PWA),",
    "E),H(A(,A),E(,E),I,O(,A),U,WA),I,O(,A),S(A(,A),E(,E),I,O,U),U,WA,Z(A(,A),E(,E),I,O,U,WA)),T(",
    "A(,A),E(,E),H(A(,A),E(,E),I,O(,A),U,WA),I,O(,A),S(A(,A),E(,E),I,O,U,WA),TH(AA,E(,E),I,O,U),",
    "U,WA,Z(A(,A),E(,E),I,O(,A),U)),V(A(,A),E(,E),I,O,U,WA),W(A(,A),E(,E),I,O(,A),U),X(A(,A),E(,",
    "E),I,O(,A),U,W(A(,A),E(,E),I),Y(A(,A),E(,E),I,O,U)),Y(A(,A),E(,E),I,O(,A),U),Z(A(,A),E(,E),",
    "H(A(,A),E(,E),I,O,U,WA),I,O(,A),U,WA,Z(A(,A),E(,E),I,O,U)))),TONAL MARK (CHIRET,D(ERET(,",
    "-HIDET),IFAT),HIDET,K(ENAT,URT),RIKRIK,SHORT RIKRIK,YIZET),WORDSPACE),X),U(LER CONSTANT,",
    "RO( SIGN,-CURRENCY SIGN,PEAN (CASTLE,POST OFFICE))),VERGREEN TREE,X(C(ESS,LAMATION (MARK,",
    "QUESTION MARK)),PRESSIONLESS FACE,T(ENDED ARABIC-INDIC DIGIT (EIGHT,F(IVE,OUR),NINE,ONE,S(",
    "EVEN,IX),T(HREE,WO),ZERO),R(ATERRESTRIAL ALIEN,EMELY HEAVY (FIVE SPOKED ASTERISK,",
    "GREEK CROSS,S(ALTIRE,IX SPOKED ASTERISK),WHITE (CIRCLE,SQUARE))))),YE(,GLASSES,S))"]

def namesF : List String :=
  ["F(A(C(E (HOLDING BACK TEARS,MASSAGE,PALM,S(AVOURING DELICIOUS FOOD,CREAMING IN FEAR),",
    "THROWING A KISS,WITH( (CO(LD SWEAT,WBOY HAT),DIAGONAL MOUTH,FINGER COVERING CLOSED LIPS,",
    "HEAD-BANDAGE,LOOK OF TRIUMPH,M(EDICAL MASK,ONOCLE),NO GOOD GESTURE,O(K GESTURE,",
    "NE EYEBROW RAISED,PEN (EYES AND HAND OVER MOUTH,MOUTH(, (AND COLD SWEAT,VOMITING)))),P(",
    "ARTY HORN AND PARTY HAT,EEKING EYE,LEADING EYES),ROLLING EYES,STUCK-OUT TONGUE(, AND (",
    "TIGHTLY-CLOSED EYES,WINKING EYE)),T(EARS OF JOY,HERMOMETER),UNEVEN EYES AND WAVY MOUTH),",
    "OUT MOUTH)),SIMILE SIGN,TORY),IRY,L(AFEL,L(EN LEAF,ING DIAGONAL (CROSSING (NORTH EAST ARROW,",
    "RISING DIAGONAL),IN WHITE CIRCLE IN BLACK SQUARE))),MILY,RSI SYMBOL,THER CHRISTMAS,X (ICON,",
    "MACHINE)),E(A(RFUL FACE,THER),M(ALE SIGN,ININE ORDINAL INDICATOR),NCER,RR(IS WHEEL,Y)),F,I(",
    "ELD HOCKEY STICK AND BALL,GURE (DASH,SPACE),L(E (CABINET,FOLDER,SEPARATOR),M (FRAMES,",
    "PROJECTOR)),NITE PART INTEGRAL,R(E(, E(NGINE,XTINGUISHER),CRACKER,WORK( SPARKLER,S)),ST (",
    "PLACE MEDAL,QUARTER MOON(, (SYMBOL,WITH FACE)),STRONG ISOLATE)),S(H(",
    ", CAKE WITH SWIRL DESIGN,EYE,ING POLE AND FISH),TED HAND SIGN),VE DOT (MARK,PUNCTUATION)),L(",
    "A(G IN HOLE,MINGO,T( SHOE,BREAD,NESS)),E(UR-DE-LIS,XED BICEPS),O(PPY DISK,RAL HEART,WER(, P(",
    "LAYING CARDS,UNCTUATION MARK))),USHED FACE,Y(,ING (DISC,ENVELOPE,SAUCER))),O(G(,GY),LDER,",
    "NDUE,OT(,PRINTS),R( ALL,CES,K( AND KNIFE(, WITH PLATE),ED PARAGRAPHOS,ING),M FEED,",
    "TUNE COOKIE),U(NTAIN,R( (BALLOON-SPOKED ASTERISK,C(LUB-SPOKED ASTERISK,",
    "ORNER ARROWS CIRCLING ANTICLOCKWISE),DOT (MARK,PUNCTUATION),LEAF CLOVER,POINTED BLACK STAR,",
    "TEARDROP-SPOKED ASTERISK),-PER-EM SPACE,TH ROOT)),X FACE),R(A(CTION (NUMERATOR ONE,SLASH),",
    "ME WITH (AN X,PICTURE,TILES)),E(EZING FACE,NCH FR(ANC SIGN,IES)),IED SHRIMP,O(G FACE,NT-(",
    "FACING BABY CHICK,TILTED SHADOWED WHITE RIGHTWARDS ARROW),WN(,ING FACE WITH OPEN MOUTH))),S(",
    ",I),U(EL PUMP,LL( (BLOCK,MOON (SYMBOL,WITH FACE),OUTER JOIN,STOP),WIDTH (A(MPERSAND,",
    "POSTROPHE,STERISK),BROKEN BAR,C(ENT SIGN,IRCUMFLEX ACCENT,O(LON,MM(A,ERCIAL AT))),D(IGIT (",
    "EIGHT,F(IVE,OUR),NINE,ONE,S(EVEN,IX),T(HREE,WO),ZERO),OLLAR SIGN),E(QUALS SIGN,",
    "XCLAMATION MARK),FULL STOP,GR(AVE ACCENT,EATER-THAN SIGN),HYPHEN-MINUS,L(ATIN (",
    "CAPITAL LETTER (A,B,C,D,E,F,G,H,I,J,K,L,M,N,O,P,Q,R,S,T,U,V,W,X,Y,Z),SMALL LETTER (A,B,C,D,",
    "E,F,G,H,I,J,K,L,M,N,O,P,Q,R,S,T,U,V,W,X,Y,Z)),E(FT (CURLY BRACKET,PARENTHESIS,",
    "SQUARE BRACKET,WHITE PARENTHESIS),SS-THAN SIGN),OW LINE),MACRON,N(OT SIGN,UMBER SIGN),P(",
    "ERCENT SIGN,LUS SIGN,OUND SIGN),QU(ESTION MARK,OTATION MARK),R(EVERSE SOLIDUS,IGHT (",
    "CURLY BRACKET,PARENTHESIS,SQUARE BRACKET,WHITE PARENTHESIS)),S(EMICOLON,OLIDUS),TILDE,",
    "VERTICAL LINE,WON SIGN,YEN SIGN)),N(CTION APPLICATION,ERAL URN),SE),VS(1,2,3,4))"]

def namesG : List String :=
  ["G(A(ME DIE,RLIC),E(AR(, WITH( HANDLES,OUT HUB)),M( STONE,INI),NIE,O(METRIC( PROPORTION,",
    "ALLY EQU(AL TO,IVALENT TO)),RGIAN (CAPITAL LETTER (A(EN,N),BAN,C(AN,H(AR,IN),IL),DON,EN,G(",
    "AN,HAN),H(A(E,R),E,IE,OE),IN,J(HAN,IL),K(AN,HAR),LAS,MAN,NAR,ON,P(AR,HAR),QAR,RAE,S(AN,HIN),",
    "TA(N,R),UN,VIN,WE,XAN,YN,Z(EN,HAR)),LETTER (A(EN,IN,N),BAN,C(AN,H(AR,IN),IL),DON,E(LIFI,N),",
    "FI,G(AN,HAN),H(A(E,R(,D SIGN)),E,IE,OE),IN,J(HAN,IL),K(AN,HAR),LA(BIAL SIGN,S),MAN,NAR,ON,P(",
    "AR,HAR),QAR,RAE,S(AN,HIN),T(A(N,R),URNED GAN),UN,VIN,WE,XAN,YN,Z(EN,HAR)),",
    "MTAVRULI CAPITAL LETTER (A(EN,IN,N),BAN,C(AN,H(AR,IN),IL),DON,E(LIFI,N),FI,G(AN,HAN),H(A(E,",
    "R(,D SIGN)),E,IE,OE),IN,J(HAN,IL),K(AN,HAR),LA(BIAL SIGN,S),MAN,NAR,ON,P(AR,HAR),QAR,RAE,S(",
    "AN,HIN),T(A(N,R),URNED GAN),UN,VIN,WE,XAN,YN,Z(EN,HAR)),PARAGRAPH SEPARATOR,SMALL LETTER (A(",
    "EN,N),BAN,C(AN,H(AR,IN),IL),DON,EN,G(AN,HAN),H(A(E,R),E,IE,OE),IN,J(HAN,IL),K(AN,HAR),LAS,",
    "MAN,NAR,ON,P(AR,HAR),QAR,RAE,S(AN,HIN),TA(N,R),UN,VIN,WE,XAN,YN,Z(EN,HAR)))),",
    "RMAN PENNY SIGN,TA MARK),HOST,I(MEL SYMBOL,R(AFFE FACE,L(,S SYMBOL))),L(A(GOLITIC (",
    "CAPITAL LETTER (AZU,B(IG YUS,UKY),C(AUDATE CHRIVI,HRIVI),D(JERVI,OBRO,ZELO),F(ITA,RITU),",
    "GLAGOLI,HERU,I(,NITIAL IZHE,OTATED (BIG YUS,SMALL YUS),ZH(E,ITSA)),KAKO,L(ATINATE MYSLITE,",
    "JUDIJE),MYSLITE,NASHI,O(NU,TU),P(E,OKOJI),RITSI,S(H(A,TA(,PIC)),LOVO,MALL YUS(, WITH TAIL),",
    "PIDERY HA),T(ROKUTASTI A,SI,VRIDO),UKU,VEDE,Y(ATI,E(R(I,U),STU),O,U),Z(EMLJA,HIVETE)),",
    "SMALL LETTER (AZU,B(IG YUS,UKY),C(AUDATE CHRIVI,HRIVI),D(JERVI,OBRO,ZELO),F(ITA,RITU),",
    "GLAGOLI,HERU,I(,NITIAL IZHE,OTATED (BIG YUS,SMALL YUS),ZH(E,ITSA)),KAKO,L(ATINATE MYSLITE,",
    "JUDIJE),MYSLITE,NASHI,O(NU,TU),P(E,OKOJI),RITSI,S(H(A,TA(,PIC)),LOVO,MALL YUS(, WITH TAIL),",
    "PIDERY HA),T(ROKUTASTI A,SI,VRIDO),UKU,VEDE,Y(ATI,E(R(I,U),STU),O,U),Z(EMLJA,HIVETE))),",
    "SS OF MILK),EICH STARK,O(BE WITH MERIDIANS,VES,WING STAR)),O(A(L NET,T),GGLES,LFER,RILLA,",
    "THIC LETTER (A(HSA,IHVUS),BAIRKAN,DAGS,EIS,FAIHU,GIBA,H(AGL,WAIR),I(GGWS,UJA),JER,KUSMA,",
    "LAGUS,MANNA,N(AUTHS,INE( HUNDRED,TY)),OTHAL,PAIRTHRA,QAIRTHRA,RAIDA,SAUIL,T(EIWS,HIUTH),",
    "URUS,WINJA)),R(A(DUATION CAP,NTHA (AU LENGTH MARK,LETTER (A(,A,I,U),B(A,HA),C(A,HA),D(A,D(A,",
    "HA),HA),EE,G(A,HA),HA,I(,I),J(A,HA),K(A,HA),L(A,LA),MA,N(A,GA,NA,YA),OO,P(A,HA),RA,S(A,HA,",
    "SA),T(A,HA,T(A,HA)),U(,U),V(A,EDIC (ANUSVARA,DOUBLE ANUSVARA),OCALIC (L(,L),R(,R))),YA),OM,",
    "SIGN (A(NUSVARA,VAGRAHA),C(ANDRABINDU,OMBINING ANUSVARA ABOVE),NUKTA,PLUTA,VI(RAMA,SARGA)),",
    "VOWEL SIGN (A(A,I,U),EE,I(,I),OO,U(,U),VOCALIC (L(,L),R(,R)))),PES,VE ACCENT),E(ATER-THAN (",
    "A(BOVE (DOUBLE-LINE EQUAL ABOVE LESS-THAN,LESS-THAN ABOVE DOUBLE-LINE EQUAL,",
    "RIGHTWARDS ARROW,S(IMILAR (ABOVE LESS-THAN,OR EQUAL),",
    "LANTED EQUAL ABOVE LESS-THAN ABOVE SLANTED EQUAL)),ND (NOT APPROXIMATE,",
    "SINGLE-LINE NOT EQUAL TO)),B(ESIDE LESS-THAN,UT NOT EQU(AL TO,IVALENT TO)),CLOSED BY CURVE(",
    ", ABOVE SLANTED EQUAL),EQUAL TO OR LESS-THAN,O(R (APPROXIMATE,EQU(AL TO,IVALENT TO),",
    "LESS-THAN,SLANTED EQUAL TO(, WITH DOT (ABOVE(, LEFT),INSIDE))),VER( EQUAL TO,",
    "LAPPING LESS-THAN)),SIGN,WITH (CIRCLE INSIDE,DOT,QUESTION MARK ABOVE)),E(K (A(CROPHONIC (",
    "ATTIC (FI(FTY(, (STATERS,T(ALENTS,HOUSAND(, STATERS)))),VE(, (HUNDRED(, (STATERS,TALENTS)),",
    "STATERS,T(ALENTS,HOUSAND(, TALENTS))))),ONE (DRACHMA,H(ALF,UNDRED (STATERS,TALENTS)),",
    "QUARTER,THOUSAND (STATERS,TALENTS)),TEN (MNAS,STATERS,T(ALENTS,HOUSAND STATERS))),C(",
    "ARYSTIAN FIVE HUNDRED,YRENAIC TWO DRACHMAS),DELPHIC FIVE MNAS,EPIDAUREAN (FIVE HUNDRED,TWO(",
    ", DRACHMAS)),HER(AEUM ONE PLETHRON,MIONIAN (FIFTY,ONE,TEN)),MESSENIAN TEN,",
    "NAXIAN FIVE HUNDRED,STRATIAN FIFTY MNAS,T(HESPIAN (FI(FTY,VE (HUNDRED,THOUSAND)),ONE(, (",
    "HUNDRED,THOUSAND)),T(EN,H(IRTY,REE HUNDRED),WO)),ROEZENIAN (FI(FTY(, ALTERNATE FORM),VE(",
    ", HUNDRED)),TEN(, ALTERNATE FORM)))),NO TELEIA,R(OURA SIGN,TABE SIGN)),BETA SYMBOL,CAPITAL (",
    "DOTTED LUNATE SIGMA SYMBOL,KAI SYMBOL,L(ETTER (A(LPHA(, WITH (DASIA(, AND (OXIA(",
    ", AND PROSGEGRAMMENI),P(ERISPOMENI(, AND PROSGEGRAMMENI),ROSGEGRAMMENI),VARIA(",
    ", AND PROSGEGRAMMENI))),MACRON,OXIA,P(ROSGEGRAMMENI,SILI(, AND (OXIA(, AND PROSGEGRAMMENI),",
    "P(ERISPOMENI(, AND PROSGEGRAMMENI),ROSGEGRAMMENI),VARIA(, AND PROSGEGRAMMENI)))),TONOS,V(",
    "ARIA,RACHY))),RCHAIC SAMPI),BETA,CHI,DELTA,E(PSILON(, WITH (DASIA(, AND (OXIA,VARIA)),OXIA,",
    "PSILI(, AND (OXIA,VARIA)),TONOS,VARIA)),TA(, WITH (DASIA(, AND (OXIA(, AND PROSGEGRAMMENI),",
    "P(ERISPOMENI(, AND PROSGEGRAMMENI),ROSGEGRAMMENI),VARIA(, AND PROSGEGRAMMENI))),OXIA,P(",
    "ROSGEGRAMMENI,SILI(, AND (OXIA(, AND PROSGEGRAMMENI),P(ERISPOMENI(, AND PROSGEGRAMMENI),",
    "ROSGEGRAMMENI),VARIA(, AND PROSGEGRAMMENI)))),TONOS,VARIA))),GAMMA,HETA,IOTA(, WITH (D(ASIA(",
    ", AND (OXIA,PERISPOMENI,VARIA)),IALYTIKA),MACRON,OXIA,PSILI(, AND (OXIA,PERISPOMENI,VARIA)),",
    "TONOS,V(ARIA,RACHY))),KAPPA,LAMDA,MU,NU,OM(EGA(, WITH (DASIA(, AND (OXIA(",
    ", AND PROSGEGRAMMENI),P(ERISPOMENI(, AND PROSGEGRAMMENI),ROSGEGRAMMENI),VARIA(",
    ", AND PROSGEGRAMMENI))),OXIA,P(ROSGEGRAMMENI,SILI(, AND (OXIA(, AND PROSGEGRAMMENI),P(",
    "ERISPOMENI(, AND PROSGEGRAMMENI),ROSGEGRAMMENI),VARIA(, AND PROSGEGRAMMENI)))),TONOS,",
    "VARIA)),ICRON(, WITH (DASIA(, AND (OXIA,VARIA)),OXIA,PSILI(, AND (OXIA,VARIA)),TONOS,",
    "VARIA))),P(AMPHYLIAN DIGAMMA,HI,I,SI),RHO(, WITH DASIA),S(AN,HO,IGMA),T(AU,HETA),UPSILON(",
    ", WITH (D(ASIA(, AND (OXIA,PERISPOMENI,VARIA)),IALYTIKA),MACRON,OXIA,TONOS,V(ARIA,RACHY))),",
    "XI,YOT,ZETA),UNATE SIGMA SYMBOL),REVERSED (DOTTED LUNATE SIGMA SYMBOL,LUNATE SIGMA SYMBOL),",
    "THETA SYMBOL),D(ASIA(, AND (OXIA,PERISPOMENI,VARIA)),IALYTIKA (AND (OXIA,PERISPOMENI,VARIA),",
    "TONOS),RACHMA SIGN),F(IVE OBOLS SIGN,OUR OBOLS SIGN),GRAMMA SIGN,IN(DICTION SIGN,",
    "STRUMENTAL NOTATION SYMBOL-(1(,1,2,3,4,7,8,9),2(,3,4,5,6,7,9),3(0,2,6,7,8,9),4(,0,2,3,5,7,8,",
    "9),5(,0,1,2,3,4),7,8)),K(A(I SYMBOL,PPA SYMBOL),ORONIS,YATHOS BASE SIGN),L(ETTER (",
    "ARCHAIC KOPPA,DIGAMMA,KOPPA,S(AMPI,MALL CAPITAL (GAMMA,LAMDA,OMEGA,P(I,SI),RHO),TIGMA),YOT),",
    "ITRA SIGN,OWER NUMERAL SIGN,UNATE (EPSILON SYMBOL,SIGMA SYMBOL)),M(ETRETES SIGN,",
    "USICAL LEIMMA),NUMERAL SIGN,O(BOL SIGN,NE (HALF SIGN(, ALTERNATE FORM),QUARTER SIGN),",
    "UNKIA SIGN,XIA),P(ERISPOMENI,HI SYMBOL,I SYMBOL,ROSGEGRAMMENI,SILI(, AND (OXIA,PERISPOMENI,",
    "VARIA))),QUESTION MARK,R(EVERSED LUNATE EPSILON SYMBOL,HO (SYMBOL,WITH STROKE SYMBOL)),S(",
    "INUSOID SIGN,MALL (DOTTED LUNATE SIGMA SYMBOL,LETTER (A(LPHA(, WITH (DASIA(, AND (OXIA(",
    ", AND YPOGEGRAMMENI),PERISPOMENI(, AND YPOGEGRAMMENI),VARIA(, AND YPOGEGRAMMENI),",
    "YPOGEGRAMMENI)),MACRON,OXIA(, AND YPOGEGRAMMENI),P(ERISPOMENI(, AND YPOGEGRAMMENI),SILI(",
    ", AND (OXIA(, AND YPOGEGRAMMENI),PERISPOMENI(, AND YPOGEGRAMMENI),VARIA(",
    ", AND YPOGEGRAMMENI),YPOGEGRAMMENI))),TONOS,V(ARIA(, AND YPOGEGRAMMENI),RACHY),",
    "YPOGEGRAMMENI)),RCHAIC (KOPPA,SAMPI)),BETA,CHI,D(ELTA,IGAMMA),E(PSILON(, WITH (DASIA(, AND (",
    "OXIA,VARIA)),OXIA,PSILI(, AND (OXIA,VARIA)),TONOS,VARIA)),TA(, WITH (DASIA(, AND (OXIA(",
    ", AND YPOGEGRAMMENI),PERISPOMENI(, AND YPOGEGRAMMENI),VARIA(, AND YPOGEGRAMMENI),",
    "YPOGEGRAMMENI)),OXIA(, AND YPOGEGRAMMENI),P(ERISPOMENI(, AND YPOGEGRAMMENI),SILI(, AND (",
    "OXIA(, AND YPOGEGRAMMENI),PERISPOMENI(, AND YPOGEGRAMMENI),VARIA(, AND YPOGEGRAMMENI),",
    "YPOGEGRAMMENI))),TONOS,VARIA(, AND YPOGEGRAMMENI),YPOGEGRAMMENI))),FINAL SIGMA,GAMMA,HETA,",
    "IOTA(, WITH (D(ASIA(, AND (OXIA,PERISPOMENI,VARIA)),IALYTIKA(, AND (OXIA,PERISPOMENI,TONOS,",
    "VARIA))),MACRON,OXIA,P(ERISPOMENI,SILI(, AND (OXIA,PERISPOMENI,VARIA))),TONOS,V(ARIA,",
    "RACHY))),K(APPA,OPPA),LAMDA,MU,NU,OM(EGA(, WITH (DASIA(, AND (OXIA(, AND YPOGEGRAMMENI),",
    "PERISPOMENI(, AND YPOGEGRAMMENI),VARIA(, AND YPOGEGRAMMENI),YPOGEGRAMMENI)),OXIA(",
    ", AND YPOGEGRAMMENI),P(ERISPOMENI(, AND YPOGEGRAMMENI),SILI(, AND (OXIA(",
    ", AND YPOGEGRAMMENI),PERISPOMENI(, AND YPOGEGRAMMENI),VARIA(, AND YPOGEGRAMMENI),",
    "YPOGEGRAMMENI))),TONOS,VARIA(, AND YPOGEGRAMMENI),YPOGEGRAMMENI)),ICRON(, WITH (DASIA(",
    ", AND (OXIA,VARIA)),OXIA,PSILI(, AND (OXIA,VARIA)),TONOS,VARIA))),P(AMPHYLIAN DIGAMMA,HI,I,",
    "SI),RHO(, WITH (DASIA,PSILI)),S(A(MPI,N),HO,IGMA,TIGMA),T(AU,HETA),UPSILON(, WITH (D(ASIA(",
    ", AND (OXIA,PERISPOMENI,VARIA)),IALYTIKA(, AND (OXIA,PERISPOMENI,TONOS,VARIA))),MACRON,OXIA,",
    "P(ERISPOMENI,SILI(, AND (OXIA,PERISPOMENI,VARIA))),TONOS,V(ARIA,RACHY))),XI,ZETA),REVERSED (",
    "DOTTED LUNATE SIGMA SYMBOL,LUNATE SIGMA SYMBOL)),UBSCRIPT SMALL LETTER (BETA,CHI,GAMMA,PHI,",
    "RHO),YMBOL TAU RHO),T(ALENT SIGN,H(ETA SYMBOL,REE (OBOLS SIGN,QUARTERS SIGN)),ONOS,",
    "RYBLION BASE SIGN,WO (OBOLS SIGN,THIRDS SIGN)),UPSILON WITH (ACUTE AND HOOK SYMBOL,",
    "DIAERESIS AND HOOK SYMBOL,HOOK SYMBOL),V(ARIA,OCAL NOTATION SYMBOL-(1(,0,1,2,3,4,5,6,7,8,9),",
    "2(,0,1,2,3,4),3,4,5(,0,1,2,3,4),6,7,8,9)),XESTES SIGN,Y(EAR SIGN,POGEGRAMMENI),ZERO SIGN),",
    "N (APPLE,BOOK,HEART,SALAD))),I(MACING FACE,NNING (CAT FACE WITH SMILING EYES,FACE(, WITH (",
    "ONE LARGE AND ONE SMALL EYE,S(MILING EYES,TAR EYES))))),O(UP (MARK,SEPARATOR),WING HEART)),",
    "S,U(AR(ANI SIGN,DSMAN),I(DE DOG,TAR),JARATI (ABBREVIATION SIGN,DIGIT (EIGHT,F(IVE,OUR),NINE,",
    "ONE,S(EVEN,IX),T(HREE,WO),ZERO),LETTER (A(,A,I,U),B(A,HA),C(A,HA),D(A,D(A,HA),HA),E,G(A,HA),",
    "HA,I(,I),J(A,HA),K(A,HA),L(A,LA),MA,N(A,GA,NA,YA),O,P(A,HA),RA,S(A,HA,SA),T(A,HA,T(A,HA)),U(",
    ",U),V(A,OCALIC (L(,L),R(,R))),YA,ZHA),OM,RUPEE SIGN,SIGN (A(NUSVARA,VAGRAHA),C(ANDRABINDU,",
    "IRCLE NUKTA ABOVE),MADDAH,NUKTA,S(HADDA,UKUN),T(HREE-DOT NUKTA ABOVE,WO-CIRCLE NUKTA ABOVE),",
    "VI(RAMA,SARGA)),VOWEL (CANDRA (E,O),SIGN (A(A,I,U),CANDRA (E,O),E,I(,I),O,U(,U),VOCALIC (L(,",
    "L),R(,R))))),NJALA GONDI (DIGIT (EIGHT,F(IVE,OUR),NINE,ONE,S(EVEN,IX),T(HREE,WO),ZERO),",
    "LETTER (A(,A,I,U),B(A,HA),C(A,HA),D(A,D(A,HA),HA),EE,G(A,HA),HA,I(,I),J(A,HA),K(A,HA),L(A,",
    "LA),MA,N(A,GA),OO,P(A,HA),RA,SA,T(A,HA,T(A,HA)),U(,U),VA,YA),OM,SIGN (ANUSVARA,VISARGA),V(",
    "IRAMA,OWEL SIGN (A(A,I,U),EE,I(,I),OO,U(,U)))),RMUKHI (A(BBREVIATION SIGN,DDAK),DIGIT (",
    "EIGHT,F(IVE,OUR),NINE,ONE,S(EVEN,IX),T(HREE,WO),ZERO),EK ONKAR,IRI,LETTER (A(,A,I,U),B(A,",
    "HA),C(A,HA),D(A,D(A,HA),HA),EE,FA,G(A,H(A,HA)),HA,I(,I),J(A,HA),K(A,H(A,HA)),L(A,LA),MA,N(A,",
    "GA,NA,YA),OO,P(A,HA),R(A,RA),S(A,HA),T(A,HA,T(A,HA)),U(,U),VA,YA,ZA),SIGN (ADAK BINDI,BINDI,",
    "NUKTA,UDAAT,VI(RAMA,SARGA),YAKASH),TIPPI,URA,VOWEL SIGN (A(A,I,U),EE,I(,I),OO,U(,U)))))"]

def namesH : List String :=
  ["H(A(DES,IR( SPACE,CUT),LFWIDTH (BLACK SQUARE,DOWNWARDS ARROW,FORMS LIGHT VERTICAL,HANGUL (",
    "FILLER,LETTER (A(,E),C(HIEUCH,IEUC),E(,O,U),HIEUH,I(,EUNG),K(HIEUKH,IYEOK(,-SIOS)),MIEUM,",
    "NIEUN(,-(CIEUC,HIEUH)),O(,E),P(HIEUPH,IEUP(,-SIOS)),RIEUL(,-(HIEUH,KIYEOK,MIEUM,P(HIEUPH,",
    "IEUP),SIOS,THIEUTH)),S(IOS,SANG(CIEUC,KIYEOK,PIEUP,SIOS,TIKEUT)),T(HIEUTH,IKEUT),U,W(A(,E),",
    "E(,O),I),Y(A(,E),E(,O),I,O,U))),IDEOGRAPHIC (COMMA,FULL STOP),KATAKANA( (LETTER (A,E,H(A,E,",
    "I,O,U),I,K(A,E,I,O,U),M(A,E,I,O,U),N(,A,E,I,O,U),O,R(A,E,I,O,U),S(A,E,I,MALL (A,E,I,O,TU,U,",
    "Y(A,O,U)),O,U),T(A,E,I,O,U),U,W(A,O),Y(A,O,U)),MIDDLE DOT,SEMI-VOICED SOUND MARK,",
    "VOICED SOUND MARK),-HIRAGANA PROLONGED SOUND MARK),LEFT( CORNER BRACKET,WARDS ARROW),",
    "RIGHT( CORNER BRACKET,WARDS ARROW),UPWARDS ARROW,WHITE CIRCLE),M(BURGER,MER(, AND (PICK,",
    "SICKLE,WRENCH)),S(A,TER FACE)),N(D( WITH INDEX (AND MIDDLE FINGERS CROSSED,",
    "FINGER AND THUMB CROSSED),BA(G,LL),SHAKE),G(UL (CHOSEONG (C(EONGCHIEUM(C(HIEUCH,IEUC),S(IOS,",
    "SANG(CIEUC,SIOS))),HI(EUCH(,-(HIEUH,KHIEUKH)),TUEUM(C(HIEUCH,IEUC),S(IOS,SANG(CIEUC,",
    "SIOS)))),IEUC(,-IEUNG)),FILLER,HIEUH(,-SIOS),IEUNG(,-(C(HIEUCH,IEUC),HIEUH,KIYEOK,MIEUM,P(",
    "ANSIOS,HIEUPH,IEUP),RIEUL,SIOS,T(HIEUTH,IKEUT))),K(APYEOUN(MIEUM,P(HIEUPH,IEUP),RIEUL,",
    "SSANGPIEUP),HIEUKH,IYEOK(,-TIKEUT)),MIEUM(,-(KIYEOK,PIEUP,SIOS,TIKEUT)),NIEUN(,-(CIEUC,",
    "HIEUH,KIYEOK,PIEUP,SIOS,TIKEUT)),P(ANSIOS,HIEUPH(,-(HIEUH,PIEUP)),IEUP(,-(C(HIEUCH,IEUC),",
    "HIEUH,K(HIEUKH,IYEOK),NIEUN,PHIEUPH,S(IOS(,-(CIEUC,KIYEOK,PIEUP,T(HIEUTH,IKEUT))),SANGSIOS),",
    "T(HIEUTH,IKEUT)))),RIEUL(,-(CIEUC,HIEUH,K(APYEOUNPIEUP,HIEUKH,IYEOK),MIEUM,NIEUN,PIEUP,S(",
    "IOS,SANG(KIYEOK,PIEUP,TIKEUT)),TIKEUT)),S(IOS(,-(C(HIEUCH,IEUC),HIEUH,IEUNG,K(HIEUKH,IYEOK),",
    "MIEUM,NIEUN,P(HIEUPH,IEUP(,-KIYEOK)),RIEUL,SSANGSIOS,T(HIEUTH,IKEUT))),SANG(CIEUC(,-HIEUH),",
    "HIEUH,IEUNG,KIYEOK,NIEUN,PIEUP,RIEUL,SIOS(,-PIEUP),T(HIEUTH,IKEUT),YEORINHIEUH)),T(HIEUTH,",
    "IKEUT(,-(CIEUC,KIYEOK,MIEUM,PIEUP,RIEUL,SIOS))),YE(ORINHIEUH,SIEUNG)),DOUBLE DOT TONE MARK,",
    "FILLER,J(ONGSEONG (C(HIEUCH,IEUC(,-(PIEUP,SSANGPIEUP))),HIEUH(,-(MIEUM,NIEUN,PIEUP,RIEUL)),",
    "IEUNG(,-(K(HIEUKH,IYEOK),SSANGKIYEOK)),K(APYEOUN(MIEUM,P(HIEUPH,IEUP),RIEUL),HIEUKH,IYEOK(,",
    "-(CHIEUCH,HIEUH,KHIEUKH,NIEUN,PIEUP,RIEUL,SIOS(,-KIYEOK)))),MIEUM(,-(C(HIEUCH,IEUC),HIEUH,",
    "KIYEOK,NIEUN,P(ANSIOS,IEUP(,-SIOS)),RIEUL,S(IOS,SANG(NIEUN,SIOS)))),NIEUN(,-(C(HIEUCH,IEUC),",
    "HIEUH,KIYEOK,PANSIOS,RIEUL,SIOS,T(HIEUTH,IKEUT))),P(ANSIOS(,-(KAPYEOUNPIEUP,PIEUP)),HIEUPH(,",
    "-(PIEUP,SIOS,THIEUTH)),IEUP(,-(C(HIEUCH,IEUC),HIEUH,MIEUM,PHIEUPH,RIEUL(,-PHIEUPH),SIOS(,",
    "-TIKEUT),TIKEUT))),RIEUL(,-(HIEUH,K(APYEOUNPIEUP,HIEUKH,IYEOK(,-(HIEUH,SIOS))),MIEUM(,-(",
    "HIEUH,KIYEOK,SIOS)),NIEUN,P(ANSIOS,HIEUPH,IEUP(,-(HIEUH,PHIEUPH,SIOS,TIKEUT))),S(IOS,SANG(",
    "KIYEOK,SIOS)),T(HIEUTH,IKEUT(,-HIEUH)),YE(ORINHIEUH(,-HIEUH),SIEUNG))),S(IOS(,-(C(HIEUCH,",
    "IEUC),HIEUH,K(APYEOUNPIEUP,IYEOK),MIEUM,P(ANSIOS,IEUP),RIEUL,T(HIEUTH,IKEUT))),SANG(CIEUC,",
    "IEUNG,KIYEOK,MIEUM,NIEUN,PIEUP,RIEUL(,-KHIEUKH),SIOS(,-(KIYEOK,TIKEUT)),TIKEUT(,-PIEUP),",
    "YESIEUNG)),T(HIEUTH,IKEUT(,-(C(HIEUCH,IEUC),KIYEOK,PIEUP,RIEUL,SIOS(,-KIYEOK),THIEUTH))),YE(",
    "ORINHIEUH,SIEUNG(,-(HIEUH,K(HIEUKH,IYEOK),MIEUM,PANSIOS,S(IOS,SANGKIYEOK))))),UNGSEONG (A(,",
    "-(EU,O,U),E,RAEA(,-(A,E(,O),I,U))),E(,O(,-(EU,O,U)),U(,-(A,E(,O,U),O,U))),FILLER,I(,-(A(,",
    "RAEA),EU,I,O(,-I),U,Y(A(,-O,E),E(,O),O,U))),O(,-(E(,O),O(,-I),U,Y(A(,E),E(,O))),E),",
    "SSANGARAEA,U(,-(A(,E),EO-EU,I-I,U,YE(,O))),W(A(,E),E(,O),I),Y(A(,-(O,U,YO),E),E(,O(,-(O,U,",
    "YA))),I(,-U),O(,-(A(,E),EO,I,O,Y(A(,E),EO))),U(,-(A(,E),E(,O),I,O,U,YE(,O)))))),LETTER (A(,",
    "E,RAEA(,E)),C(HIEUCH,IEUC),E(,O,U),HIEUH,I(,EUNG),K(APYEOUN(MIEUM,P(HIEUPH,IEUP),",
    "SSANGPIEUP),HIEUKH,IYEOK(,-SIOS)),MIEUM(,-(P(ANSIOS,IEUP),SIOS)),NIEUN(,-(CIEUC,HIEUH,",
    "PANSIOS,SIOS,TIKEUT)),O(,E),P(ANSIOS,HIEUPH,IEUP(,-(CIEUC,KIYEOK,SIOS(,-(KIYEOK,TIKEUT)),T(",
    "HIEUTH,IKEUT)))),RIEUL(,-(HIEUH,KIYEOK(,-SIOS),MIEUM,P(ANSIOS,HIEUPH,IEUP(,-SIOS)),SIOS,T(",
    "HIEUTH,IKEUT),YEORINHIEUH)),S(IOS(,-(CIEUC,KIYEOK,NIEUN,PIEUP,TIKEUT)),SANG(CIEUC,HIEUH,",
    "IEUNG,KIYEOK,NIEUN,PIEUP,SIOS,TIKEUT)),T(HIEUTH,IKEUT),U,W(A(,E),E(,O),I),Y(A(,E),E(,O(,",
    "RINHIEUH),SIEUNG(,-(PANSIOS,SIOS))),I,O(,-(I,YA(,E))),U(,-(I,YE(,O))))),",
    "SINGLE DOT TONE MARK),ZHOU NUMERAL (EIGHT,F(IVE,OUR),NINE,ONE,S(EVEN,IX),T(EN,H(IRTY,REE),W(",
    "ENTY,O)))),IFI ROHINGYA (DIGIT (EIGHT,F(IVE,OUR),NINE,ONE,S(EVEN,IX),T(HREE,WO),ZERO),",
    "LETTER (A,BA,CA,D(A,DA),FA,GA,HA,JA,K(A,HA,INNA (WA,YA)),LA,MA,N(A,GA,YA),PA,R(A,RA),S(A,",
    "HA),T(A,TA),VA,WA,YA,ZA),MARK (NA KHONNA,SAKIN),SIGN (HARBAHAY,TA(HALA,NA,SSI)),VOWEL (A,E,",
    "I,O,U)),UNOO (LETTER (A,BA,DA,GA,HA,I,KA,LA,MA,N(A,GA),PA,RA,SA,TA,U,WA,YA),SIGN PAMUDPOD,",
    "VOWEL SIGN (I,U))),PPY PERSON RAISING ONE HAND,RD DISK,T(CHING CHICK,RAN (LETTER (A(LEPH,",
    "YN),BETH,DALETH-RESH,GIMEL,HE(,TH),KAPH,LAMEDH,MEM,NUN,PE,QOPH,S(A(DHE,MEKH),HIN),T(AW,ETH),",
    "WAW,YODH,ZAYN),NUMBER (FIVE,ONE(, HUNDRED),T(EN,WENTY))))),E(A(D(PHONE,STONE(",
    ", GRAVEYARD SYMBOL)),R(-NO-EVIL MONKEY,T (DECORATION,HANDS,WITH (ARROW,RIBBON,",
    "TIP ON THE LEFT))),VY (A(MPERSAND ORNAMENT,RROW SHAFT WIDTH (ONE(, (HALF,THIRD)),",
    "TWO THIRDS),STERISK),B(ALLOT X,LACK( (CURVED (DOWNWARDS AND RIGHTWARDS ARROW,",
    "UPWARDS AND RIGHTWARDS ARROW),HEART),-FEATHERED (NORTH EAST ARROW,RIGHTWARDS ARROW,",
    "SOUTH EAST ARROW))),C(HE(CK MARK,VRON SNOWFLAKE),IRCLE(, WITH (CIRCLE INSIDE,",
    "STROKE AND TWO DOTS ABOVE),D SALTIRE),ONCAVE-POINTED BLACK RIGHTWARDS ARROW),D(",
    "ASHED TRIANGLE-HEADED RIGHTWARDS ARROW,IVISION SIGN,O(LLAR SIGN,UBLE (",
    "COMMA QUOTATION MARK ORNAMENT,TURNED COMMA QUOTATION MARK ORNAMENT),WNWARDS ARROW WITH (",
    "EQUILATERAL ARROWHEAD,LARGE EQUILATERAL ARROWHEAD))),E(IGHT (POINTED (BLACK STAR,",
    "PINWHEEL STAR,RECTILINEAR BLACK STAR),SPOKED ASTERISK,TEARDROP-SPOKED PROPELLER ASTERISK),",
    "QUALS SIGN,XCLAMATION MARK (ORNAMENT,SYMBOL)),F(IVE (POINTED BLACK STAR,SPOKED ASTERISK),",
    "OUR BALLOON-SPOKED ASTERISK),GREEK CROSS,H(EART EXCLAMATION MARK ORNAMENT,ORIZONTAL FILL),",
    "INTERROBANG ORNAMENT,L(A(RGE CIRCLE,TIN CROSS),EFT(-POINTING ANGLE (BRACKET ORNAMENT,",
    "QUOTATION MARK ORNAMENT),WARDS ARROW WITH (EQUILATERAL ARROWHEAD,",
    "LARGE EQUILATERAL ARROWHEAD)),IGATURE OPEN ET ORNAMENT,OW( (",
    "DOUBLE COMMA QUOTATION MARK ORNAMENT,SINGLE COMMA QUOTATION MARK ORNAMENT),",
    "ER RIGHT-SHADOWED WHITE RIGHTWARDS ARROW)),M(INUS SIGN,ULTIPLICATION X),NORTH (EAST (ARROW,",
    "POINTING (BUD,VINE LEAF)),WEST POINTING (BUD,VINE LEAF)),O(PEN CENTRE CROSS,",
    "UTLINED BLACK STAR,VAL WITH OVAL INSIDE),PLUS SIGN,R(IGHT(-POINTING ANGLE (BRACKET ORNAMENT,",
    "QUOTATION MARK ORNAMENT),WARDS ARROW(, WITH (EQUILATERAL ARROWHEAD,",
    "LARGE EQUILATERAL ARROWHEAD))),OUND-TIPPED RIGHTWARDS ARROW),S(A(LTIRE,",
    "NS-SERIF INTERROBANG ORNAMENT),CRIPT LIGATURE ET ORNAMENT,I(NGLE (",
    "COMMA QUOTATION MARK ORNAMENT,TURNED COMMA QUOTATION MARK ORNAMENT),X (POINTED BLACK STAR,",
    "SPOKED ASTERISK)),OUTH (EAST (ARROW,POINTING (BUD,VINE LEAF)),WEST POINTING (BUD,",
    "VINE LEAF)),PARKLE),T(EARDROP-S(HANKED RIGHTWARDS ARROW,POKED (ASTERISK,PINWHEEL ASTERISK)),",
    "RIANGLE-HEADED RIGHTWARDS ARROW,WELVE POINTED (BLACK STAR,PINWHEEL STAR)),UP(",
    "PER RIGHT-SHADOWED WHITE RIGHTWARDS ARROW,WARDS ARROW WITH (EQUILATERAL ARROWHEAD,",
    "LARGE EQUILATERAL ARROWHEAD)),VERTICAL BAR,W(EDGE-TAILED RIGHTWARDS ARROW,HITE (CIRCLE,",
    "DOWN-POINTING TRIANGLE,SQUARE),IDE-HEADED RIGHTWARDS ARROW))),BREW (ACCENT (ATNAH HAFUKH,D(",
    "ARGA,EHI),ETNAHTA,GER(ESH(, MUQDAM),SHAYIM),ILUY,M(AHAPAKH,ERKHA(, KEFULA),UNAH),OLE,PA(",
    "SHTA,ZER),QA(DMA,RNEY PARA),REVIA,S(EGOL,HALSHELET),T(E(LISHA (GEDOLA,QETANA),VIR),IPEHA),",
    "YE(RAH BEN YOMO,TIV),Z(A(QEF (GADOL,QATAN),RQA),INOR)),L(ETTER (A(L(EF(, WITH (MAPIQ,PATAH,",
    "QAMATS)),TERNATIVE (AYIN,PLUS SIGN)),YIN),BET(, WITH (DAGESH,RAFE)),DALET(, WITH DAGESH),",
    "FINAL (KAF(, WITH DAGESH),MEM,NUN,PE(, WITH DAGESH),TSADI),GIMEL(, WITH DAGESH),HE(",
    ", WITH MAPIQ,T),KAF(, WITH (DAGESH,RAFE)),LAMED(, WITH DAGESH),MEM(, WITH DAGESH),NUN(",
    ", WITH DAGESH),PE(, WITH (DAGESH,RAFE)),QOF(, WITH DAGESH),RESH(, WITH DAGESH),S(AMEKH(",
    ", WITH DAGESH),HIN(, WITH (DAGESH(, AND S(HIN DOT,IN DOT)),S(HIN DOT,IN DOT)))),T(AV(",
    ", WITH DAGESH),ET(, WITH DAGESH),SADI(, WITH DAGESH)),VAV(, WITH (DAGESH,HOLAM)),WIDE (ALEF,",
    "DALET,FINAL MEM,HE,KAF,LAMED,RESH,TAV),YOD(, WITH (DAGESH,HIRIQ)),ZAYIN(, WITH DAGESH)),",
    "IGATURE (ALEF LAMED,YIDDISH (DOUBLE (VAV,YOD),VAV YOD,YOD YOD PATAH))),MARK (LOWER DOT,",
    "MASORA CIRCLE,UPPER DOT),P(OINT (DAGESH OR MAPIQ,H(ATAF (PATAH,QAMATS,SEGOL),IRIQ,OLAM(",
    ", HASER FOR VAV)),JUDEO-SPANISH VARIKA,METEG,PATAH,Q(AMATS(, QATAN),UBUTS),RAFE,S(EGOL,H(",
    "EVA,IN DOT),IN DOT),TSERE),UNCTUATION (GER(ESH,SHAYIM),MAQAF,NUN HAFUKHA,PASEQ,SOF PASUQ)),",
    "YOD TRIANGLE),DGEHOG,L(ICOPTER,LSCHREIBER PAUSE SYMBOL,M( SYMBOL,ET WITH WHITE CROSS)),",
    "NTAIGANA LETTER (A-(1,2,3,WO),E-(1,2,3,4,5,6),H(A-(1(,0,1),2,3,4,5,6,7,8,9),E-(1,2,3,4,5,6,",
    "7),I-(1,2,3,4,5,6,7),O-(1,2,3,4,5,6,7,8),U-(1,2,3)),I-(1,2,3,4),K(A-(1(,0,1),2,3,4,5,6,7,8,",
    "9,KE),E-(1,2,3,4,5,6),I-(1,2,3,4,5,6,7,8),O-(1,2,3,KI),U-(1,2,3,4,5,6,7)),M(A-(1,2,3,4,5,6,",
    "7),E-(1,2,MA),I-(1,2,3,4,5,6,7),O-(1,2,3,4,5,6),U-(1,2,3,4)),N(-MU-MO-(1,2),A-(1,2,3,4,5,6,",
    "7,8,9),E-(1,2,3,4,5,6,KO),I-(1,2,3,4,5,6,7,TE),O-(1,2,3,4,5),U-(1,2,3)),O-(1,2,3),R(A-(1,2,",
    "3,4),E-(1,2,3,4),I-(1,2,3,4,5,6,7),O-(1,2,3,4,5,6),U-(1,2,3,4,5,6)),S(A-(1,2,3,4,5,6,7,8),",
    "E-(1,2,3,4,5),I-(1,2,3,4,5,6),O-(1,2,3,4,5,6,7),U-(1,2,3,4,5,6,7,8)),T(A-(1,2,3,4),E-(1,2,3,",
    "4,5,6,7,8,9),I-(1,2,3,4,5,6,7),O-(1,2,3,4,5,6,RA),U-(1,2,3,4,TO)),U-(1,2,3,4,5),W(A-(1,2,3,",
    "4,5),E-(1,2,3,4),I-(1,2,3,4,5),O-(1,2,3,4,5,6,7)),Y(A-(1,2,3,4,5,YO),O-(1,2,3,4,5,6),U-(1,2,",
    "3,4))),R(B,MITIAN CONJUGATE MATRIX),XAGRAM FOR (A(BUNDANCE,FTER COMPLETION,PPROACH),B(",
    "EFORE COMPLETION,ITING THROUGH,REAKTHROUGH),CO(MING TO MEET,N(FLICT,TEMPLATION)),D(",
    "ARKENING OF THE LIGHT,E(CREASE,LIVERANCE,VELOPMENT),I(FFICULTY AT THE BEGINNING,SPERSION),",
    "URATION),ENTHUSIASM,F(ELLOWSHIP,OLLOWING),G(ATHERING TOGETHER,R(ACE,EAT (P(O(SSESSION,WER),",
    "REPONDERANCE),TAMING))),HOLDING TOGETHER,IN(CREASE,FLUENCE,N(ER TRUTH,OCENCE)),LIMITATION,",
    "MO(DESTY,UTH CORNERS),O(BSTRUCTION,PP(OSITION,RESSION)),P(EACE,ROGRESS,USHING UPWARD),RE(T(",
    "REAT,URN),VOLUTION),S(MALL (PREPONDERANCE,TAMING),PLITTING APART,TANDSTILL),T(HE (A(",
    "BYSMAL WATER,R(MY,OUSING THUNDER)),C(AULDRON,LINGING FIRE,REATIVE HEAVEN),FAMILY,",
    "GENTLE WIND,JOYOUS LAKE,KEEPING STILL MOUNTAIN,MARRYING MAIDEN,RECEPTIVE EARTH,W(ANDERER,",
    "ELL)),READING),W(AITING,ORK ON THE DECAYED),YOUTHFUL FOLLY)),I(BISCUS,GH( (",
    "BRIGHTNESS SYMBOL,OCTET PRESET,VOLTAGE SIGN),-(HEELED SHOE,SPEED TRAIN(",
    ", WITH BULLET NOSE))),KING BOOT,NDU TEMPLE,PPOPOTAMUS,RAGANA (DIGRAPH YORI,ITERATION MARK,",
    "LETTER (A(,RCHAIC (WU,YE)),B(A,E,I,O,U),D(A,E,I,O,U),E,G(A,E,I,O,U),H(A,E,I,O,U),I,K(A,E,I,",
    "O,U),M(A,E,I,O,U),N(,A,E,I,O,U),O,P(A,E,I,O,U),R(A,E,I,O,U),S(A,E,I,MALL (A,E,I,K(A,E),O,TU,",
    "U,W(A,E,I,O),Y(A,O,U)),O,U),T(A,E,I,O,U),U,VU,W(A,E,I,O),Y(A,O,U),Z(A,E,I,O,U)),",
    "VOICED ITERATION MARK),STORIC SITE),O(CHO,L(E,LOW QUILT SQUARE ORNAMENT(, IN BLACK SQUARE)),",
    "MOTHETIC,NEY( POT,BEE),OK,P,R(IZONTAL (B(AR,LACK (HEXAGON,OCTAGON)),ELLIPSIS,LINE EXTENSION,",
    "MALE WITH STROKE SIGN,ONE EIGHTH BLOCK-(1358,2,3,4,5,6,7),SCAN LINE-(1,3,7,9),T(AB( KEY,",
    "ULATION(, (SET,WITH JUSTIFICATION))),RAFFIC LIGHT)),SE(, (FACE,RACING))),SPITAL,T( (",
    "BEVERAGE,DOG,PEPPER,SPRINGS),EL),U(RGLASS(, WITH FLOWING SAND),SE(, (BUILDING(,S),",
    "WITH GARDEN)))),RYVNIA SIGN,T(,J,S),U(GGING FACE,NDRED POINTS SYMBOL,SHED FACE,T),Y(GIEA,P(",
    "HEN(, (BULLET,WITH DIAERESIS),-MINUS,ATION POINT),ODIASTOLE),STERESIS SYMBOL))"]

def namesI : List String :=
  ["I( LOVE YOU HAND SIGN,CE (C(REAM,UBE),HOCKEY STICK AND PUCK,SKATE),DE(NTI(CAL (TO(",
    ", AND SLANTED PARALLEL),WITH DOT ABOVE),FICATION CARD),OGRAPHIC (ANNOTATION (BOTTOM MARK,",
    "EARTH MARK,F(IRST MARK,OUR( MARK,TH MARK)),HEAVEN MARK,LINKING MARK,M(AN MARK,IDDLE MARK),",
    "ONE MARK,REVERSE MARK,SECOND MARK,T(H(IRD MARK,REE MARK),OP MARK,WO MARK)),C(LOSING MARK,",
    "OMMA),DE(PARTING TONE MARK,SCRIPTION CHARACTER (ABOVE TO (BELOW,MIDDLE AND BELOW),",
    "FULL SURROUND,LEFT TO (MIDDLE AND RIGHT,RIGHT),OVERLAID,SURROUND FROM (ABOVE,BELOW,L(EFT,",
    "OWER LEFT),UPPER (LEFT,RIGHT)))),ENTERING TONE MARK,FULL STOP,HALF FILL SPACE,",
    "ITERATION MARK,LEVEL TONE MARK,NUMBER ZERO,RISING TONE MARK,SPACE,T(ALLY MARK (F(IVE,OUR),",
    "ONE,T(HREE,WO)),ELEGRAPH (LINE FEED SEPARATOR SYMBOL,SYMBOL FOR (A(PRIL,UGUST),D(AY (E(IGHT(",
    ",EEN),LEVEN),F(I(FTEEN,VE),OUR(,TEEN)),NINE(,TEEN),ONE,S(EVEN(,TEEN),IX(,TEEN)),T(EN,H(IRT(",
    "EEN,Y(,-ONE)),REE),W(E(LVE,NTY(,-(EIGHT,F(IVE,OUR),NINE,ONE,S(EVEN,IX),T(HREE,WO)))),O))),",
    "ECEMBER),FEBRUARY,HOUR (E(IGHT(,EEN),LEVEN),F(I(FTEEN,VE),OUR(,TEEN)),NINE(,TEEN),ONE,S(",
    "EVEN(,TEEN),IX(,TEEN)),T(EN,H(IRTEEN,REE),W(E(LVE,NTY(,-(FOUR,ONE,T(HREE,WO)))),O)),ZERO),J(",
    "ANUARY,U(LY,NE)),MA(RCH,Y),NOVEMBER,OCTOBER,SEPTEMBER))),VARIATION INDICATOR)),M(AGE OF(",
    ", OR APPROXIMATELY EQUAL TO),P(,ERIAL ARAMAIC (LETTER (A(LEPH,YIN),BETH,DALETH,GIMEL,HE(,",
    "TH),KAPH,LAMEDH,MEM,NUN,PE,QOPH,RESH,S(A(DHE,MEKH),HIN),T(AW,ETH),WAW,YODH,ZAYIN),NUMBER (",
    "ONE(, (HUNDRED,THOUSAND)),T(EN(, THOUSAND),HREE,W(ENTY,O))),SECTION SIGN))),N(BOX TRAY,C(OM(",
    "ING ENVELOPE,PLETE INFINITY),RE(ASE( FONT SIZE SYMBOL,S AS),MENT)),D(,EX(",
    ", POINTING AT THE VIEWER),I(AN RUPEE SIGN,C SIYAQ (ALTERNATE LAKH MARK,FRACTION (ONE (HALF,",
    "QUARTER),THREE QUARTERS),LAKH MARK,NUMBER (ALTERNATE (ONE,T(EN THOUSAND,WO)),EIGHT(, (",
    "HUNDRED,THOUSAND),Y(, THOUSAND)),F(I(FTY(, THOUSAND),VE(, (HUNDRED,THOUSAND))),O(RTY(",
    ", THOUSAND),UR(, (HUNDRED,THOUSAND)))),KAROR(,AN),LAKH(,AN),NINE(, (HUNDRED,THOUSAND),TY(",
    ", THOUSAND)),ONE(, (HUNDRED,THOUSAND)),PREFIXED (EIGHT,F(IVE,OUR),NINE,ONE,S(EVEN,IX),T(",
    "HREE,WO)),S(EVEN(, (HUNDRED,THOUSAND),TY(, THOUSAND)),IX(, (HUNDRED,THOUSAND),TY(",
    ", THOUSAND))),T(EN(, THOUSAND),H(IRTY(, THOUSAND),REE(, (HUNDRED,THOUSAND))),W(ENTY(",
    ", THOUSAND),O(, (HUNDRED,THOUSAND))))),PLACEHOLDER,RUPEE MARK))),F(INITY(",
    ", NEGATED WITH VERTICAL BAR),ORMATION (DESK PERSON,S(EPARATOR (FOUR,ONE,T(HREE,WO)),",
    "OURCE))),HIBIT (ARABIC FORM SHAPING,SYMMETRIC SWAPPING),PUT SYMBOL FOR (LATIN (",
    "CAPITAL LETTERS,LETTERS,SMALL LETTERS),NUMBERS,SYMBOLS),S(CRIPTIONAL PA(HLAVI (LETTER (",
    "ALEPH,BETH,DALETH,GIMEL,HE(,TH),KAPH,LAMEDH,MEM-QOPH,NUN,PE,S(A(DHE,MEKH),HIN),T(AW,ETH),",
    "WAW-AYIN-RESH,YODH,ZAYIN),NUMBER (FOUR,ONE(, (HUNDRED,THOUSAND)),T(EN,HREE,W(ENTY,O)))),",
    "RTHIAN (LETTER (A(LEPH,YIN),BETH,DALETH,GIMEL,HE(,TH),KAPH,LAMEDH,MEM,NUN,PE,QOPH,RESH,S(A(",
    "DHE,MEKH),HIN),T(AW,ETH),WAW,YODH,ZAYIN),NUMBER (FOUR,ONE(, (HUNDRED,THOUSAND)),T(EN,HREE,W(",
    "ENTY,O))))),ERTION SYMBOL),TE(GRAL(, (A(ROUND A POINT OPERATOR,VERAGE WITH SLASH),EXTENSION,",
    "WITH (DOUBLE STROKE,INTERSECTION,LEFTWARDS ARROW WITH HOOK,OVERBAR,TIMES SIGN,UN(DERBAR,",
    "ION)))),R(CALATE,IOR PRODUCT,L(INEAR ANNOTATION (ANCHOR,SEPARATOR,TERMINATOR),",
    "OCKED FEMALE AND MALE SIGN),ROBANG,SECTION(, (ABOVE (BAR ABOVE UNION,UNION),",
    "BESIDE AND JOINED WITH INTERSECTION,WITH (DOT,LOGICAL AND,OVERBAR))))),V(ER(SE (BULLET,",
    "CHECK( MARK,ER BOARD FILL),DOWNWARDS ARROW WITH TIP LEFTWARDS,MEDIUM SHADE,WHITE CIRCLE),",
    "TED (EXCLAMATION MARK,INTERROBANG,L(AZY S,OW KAVYKA(, WITH KAVYKA ABOVE)),OHM SIGN,",
    "PENTAGRAM,QUESTION MARK,UNDERTIE)),ISIBLE (PLUS,SEPARATOR,TIMES))),ZAKAYA LANTERN)"]

def namesJ : List String :=
  ["J(A(CK-O-LANTERN,PANESE (BANK SYMBOL,CASTLE,DOLLS,GOBLIN,INDUSTRIAL STANDARD SYMBOL,OGRE,",
    "POST OFFICE,SYMBOL FOR BEGINNER),R,VANESE (CONSONANT SIGN (CAKRA,KERET,PENGKAL),DIGIT (",
    "EIGHT,F(IVE,OUR),NINE,ONE,S(EVEN,IX),T(HREE,WO),ZERO),LE(FT RERENGGAN,TTER (A(,I),BA(",
    ", MURDA),CA(, MURDA),D(A(, MAHAPRANA),DA(, MAHAPRANA)),E,GA(, MURDA),HA,I(, KAWI,I),JA(",
    ", MAHAPRANA),KA(, (MURDA,SASAK)),LA,MA,N(A(, MURDA),GA(, LELET(, RASWADI)),YA(, MURDA)),O,",
    "PA(, (CEREK,MURDA)),RA(, AGUNG),SA(, M(AHAPRANA,URDA)),T(A(, MURDA),TA(, MAHAPRANA)),U,WA,",
    "YA)),PA(DA (A(DEG(, ADEG),NDAP),ISEN-ISEN,L(INGSA,U(HUR,NGSI)),MADYA,P(ANGKAT,ISELEH),",
    "TIRTA TUMETES,WINDU),NG(KON,RANGKEP)),RIGHT RERENGGAN,SIGN (CECAK(, TELU),LAYAR,PANYANGGA,",
    "WIGNYAN),TURNED PADA PISELEH,VOWEL SIGN (DIRGA MURE,PEPET,SUKU(, MENDUT),T(A(LING,RUNG),",
    "OLONG),WULU(, MELIK)))),EANS,IGSAW PUZZLE PIECE,O(IN,YSTICK),U(GGLING,NO,PITER))"]

def namesK : List String :=
  ["K(A(ABA,ITHI (ABBREVIATION SIGN,D(ANDA,OUBLE (DANDA,SECTION MARK)),ENUMERATION SIGN,LETTER (",
    "A(,A,I,U),B(A,HA),C(A,HA),D(A,D(A,DHA,HA),HA),E,G(A,HA),HA,I(,I),J(A,HA),K(A,HA),LA,MA,N(A,",
    "GA,NA,YA),O,P(A,HA),R(A,HA),S(A,HA,SA),T(A,HA,T(A,HA)),U(,U),VA,YA),NUMBER SIGN(, ABOVE),S(",
    "ECTION MARK,IGN (ANUSVARA,CANDRABINDU,NUKTA,VI(RAMA,SARGA))),VOWEL SIGN (A(A,I,U),E,I(,I),O,",
    "U(,U),VOCALIC R)),N(G(AROO,XI RADICAL (A(GAIN,ND,RR(IVE,OW),XE),B(A(DGER,MBOO),EAN,I(G,RD,",
    "TTER),L(ACK,OOD,UE),O(AT,DY,LT OF CLOTH,NE,W),R(ANCH,ISTLE,USH)),C(A(RT,ULDRON,VE),HILD,ITY,",
    "L(A(N,W),IFF,OTHES),O(LOR,MPARE,RPSE,VER,W)),D(E(ATH,ER),I(PPER,S(H,TINGUISH),VINATION),",
    "O( NOT,G,OR,T(,TED (CLIFF,TENT)),UBLE X,WN BOX),R(AGON,UM,Y)),E(A(R(,TH),T),IGHT,MBROIDERY,",
    "N(CLOSURE,TER),VEN(,ING),YE),F(A(CE,NG,THER),EATHER,I(ELD,GHT,RE,SH),L(UTE,Y),OOT,R(AGRANT,",
    "OG),UR),G(ATE,HOST,O(, SLOWLY,LD),RA(IN,SS)),H(A(IR,L(BERD,F TREE TRUNK),ND),E(A(D,RT),MP),",
    "IDING ENCLOSURE,O(OK,R(N,SE))),I(CE,N(CH,SECT)),JA(DE,R),KNIFE,L(A(CK,ME),E(A(F,THER),EK,",
    "GS),I(D,FE,NE),ONG(, STRIDE)),M(AN,E(AT,LON),I(LLET,NISTER),O(ON,R(NING,TAR),U(N(D,TAIN),",
    "TH))),N(ET,O(SE,T)),O(LD,NE(,SELF),P(EN BOX,POSE)),P(IG,LOW,OWER,R(IVATE,OFOUND)),R(A(IN,P,",
    "T),ED,I(CE,GHT OPEN BOX,VER),OOF,UN),S(A(CRIFICIAL WINE,LT,Y),C(HOLAR,RIPT),E(AL,COND,E,LF),",
    "H(E(EP,LL),O(OT,RT T(AILED BIRD,HREAD))),I(CKNESS,LK),KIN,L(A(SH,VE),ICE),MALL,NOUT,OUND,P(",
    "E(AR,ECH),IRIT,OON,ROUT),QUARE,T(AND,E(AM,P),O(NE,P(,PING))),UN,WEET),T(A(BLE,LL,",
    "NNED LEATHER),EN,I(GER,LE),O(NGUE,OTH),R(ACK,EE,IPOD),UR(BAN,TLE),WO(, HANDS)),USE,V(ALLEY,",
    "ILLAGE),W(A(LK(, ENCLOSURE),TER),E(APON,ST),H(EAT,ITE),IN(D,E),O(MAN,RK),R(AP,ONG)),",
    "YELLOW)),NADA (AI LENGTH MARK,DIGIT (EIGHT,F(IVE,OUR),NINE,ONE,S(EVEN,IX),T(HREE,WO),ZERO),",
    "LE(NGTH MARK,TTER (A(,A,I,U),B(A,HA),C(A,HA),D(A,D(A,HA),HA),E(,E),FA,G(A,HA),HA,I(,I),J(A,",
    "HA),K(A,HA),L(A,L(A,LA)),MA,N(A(,KAARA POLLU),GA,NA,YA),O(,O),P(A,HA),R(A,RA),S(A,HA,SA),T(",
    "A,HA,T(A,HA)),U(,U),V(A,OCALIC (L(,L),R(,R))),YA)),SIGN (A(NUSVARA,VAGRAHA),CANDRABINDU,",
    "JIHVAMULIYA,NUKTA,S(IDDHAM,PACING CANDRABINDU),UPADHMANIYA,VI(RAMA,SARGA)),VOWEL SIGN (A(A,",
    "I,U),E(,E),I(,I),O(,O),U(,U),VOCALIC (L(,L),R(,R))))),TAKANA( (DIGRAPH KOTO,ITERATION MARK,",
    "LETTER (A(,RCHAIC (E,WU,Y(E,I))),B(A,E,I,O,U),D(A,E,I,O,U),E,G(A,E,I,O,U),H(A,E,I,O,U),I,K(",
    "A,E,I,O,U),M(A,E,I(,NNAN (NASALIZED TONE-(1,2,3,4,5,7,8),TONE-(2,3,4,5,7,8))),O,U),N(,A,E,I,",
    "O,U),O,P(A,E,I,O,U),R(A,E,I,O,U),S(A,E,I,MALL (A,E,H(A,E,I,O,U),I,K(A,E,U),MU,N(,U),O,R(A,E,",
    "I,O,U),S(I,U),T(O,U),U,W(A,E,I,O),Y(A,O,U)),O,U),T(A,E,I,O,U),U,V(A,E,I,O,U),W(A,E,I,O),Y(A,",
    "O,U),Z(A,E,I,O,U)),MIDDLE DOT,VOICED ITERATION MARK),-HIRAGANA (DOUBLE HYPHEN,",
    "PROLONGED SOUND MARK,SEMI-VOICED SOUND MARK,VOICED SOUND MARK)),YAH LI (DIGIT (EIGHT,F(IVE,",
    "OUR),NINE,ONE,S(EVEN,IX),T(HREE,WO),ZERO),LETTER (A,BA,CA,DA,GA,H(A,TA),I,K(A,HA),LA,MA,N(A,",
    "GA,YA),O(E,O),P(A,HA),RA,S(A,HA),T(A,HA),VA,WA,YA,ZA),SIGN (CWI,SHYA),TONE (CALYA(, PLOPHU),",
    "PLOPHU),VOWEL (E(,E),O,U(,E)))),E(LVIN SIGN,Y(,BOARD(, AND MOUSE),CAP TEN)),H(AROSHTHI (",
    "DIGIT (FOUR,ONE,T(HREE,WO)),FRACTION ONE HALF,LETTER (A,B(A,HA),C(A,HA),D(A,D(A,HA),HA),G(A,",
    "HA),HA,JA,K(A,HA,KA),LA,MA,N(A,NA,YA),P(A,HA),RA,S(A,HA,SA),T(A,HA,T(A,HA,T(A,HA))),V(A,HA),",
    "YA,ZA),NUMBER (ONE (HUNDRED,THOUSAND),T(EN,WENTY)),PUNCTUATION (C(IRCLE,RESCENT BAR),D(ANDA,",
    "O(T,UBLE DANDA)),L(INES,OTUS),MANGALAM,SMALL CIRCLE),SIGN (ANUSVARA,BAR ABOVE,CAUDA,DO(",
    "T BELOW,UBLE RING BELOW),VISARGA),V(IRAMA,OWEL (LENGTH MARK,SIGN (E,I,O,U,VOCALIC R)))),",
    "ITAN SMALL SCRIPT (CHARACTER-18(B(0(0,1,2,3,4,5,6,7,8,9,A,B,C,D,E,F),1(0,1,2,3,4,5,6,7,8,9,",
    "A,B,C,D,E,F),2(0,1,2,3,4,5,6,7,8,9,A,B,C,D,E,F),3(0,1,2,3,4,5,6,7,8,9,A,B,C,D,E,F),4(0,1,2,",
    "3,4,5,6,7,8,9,A,B,C,D,E,F),5(0,1,2,3,4,5,6,7,8,9,A,B,C,D,E,F),6(0,1,2,3,4,5,6,7,8,9,A,B,C,D,",
    "E,F),7(0,1,2,3,4,5,6,7,8,9,A,B,C,D,E,F),8(0,1,2,3,4,5,6,7,8,9,A,B,C,D,E,F),9(0,1,2,3,4,5,6,",
    "7,8,9,A,B,C,D,E,F),A(0,1,2,3,4,5,6,7,8,9,A,B,C,D,E,F),B(0,1,2,3,4,5,6,7,8,9,A,B,C,D,E,F),C(",
    "0,1,2,3,4,5,6,7,8,9,A,B,C,D,E,F),D(0,1,2,3,4,5,6,7,8,9,A,B,C,D,E,F),E(0,1,2,3,4,5,6,7,8,9,A,",
    "B,C,D,E,F),F(0,1,2,3,4,5,6,7,8,9,A,B,C,D,E,F)),C(0(0,1,2,3,4,5,6,7,8,9,A,B,C,D,E,F),1(0,1,2,",
    "3,4,5,6,7,8,9,A,B,C,D,E,F),2(0,1,2,3,4,5,6,7,8,9,A,B,C,D,E,F),3(0,1,2,3,4,5,6,7,8,9,A,B,C,D,",
    "E,F),4(0,1,2,3,4,5,6,7,8,9,A,B,C,D,E,F),5(0,1,2,3,4,5,6,7,8,9,A,B,C,D,E,F),6(0,1,2,3,4,5,6,",
    "7,8,9,A,B,C,D,E,F),7(0,1,2,3,4,5,6,7,8,9,A,B,C,D,E,F),8(0,1,2,3,4,5,6,7,8,9,A,B,C,D,E,F),9(",
    "0,1,2,3,4,5,6,7,8,9,A,B,C,D,E,F),A(0,1,2,3,4,5,6,7,8,9,A,B,C,D,E,F),B(0,1,2,3,4,5,6,7,8,9,A,",
    "B,C,D,E,F),C(0,1,2,3,4,5,6,7,8,9,A,B,C,D,E,F),D(0,1,2,3,4,5))),FILLER),MER (",
    "CURRENCY SYMBOL RIEL,DIGIT (EIGHT,F(IVE,OUR),NINE,ONE,S(EVEN,IX),T(HREE,WO),ZERO),",
    "INDEPENDENT VOWEL (LY(,Y),Q(A(A,I,Q,U),E,I(,I),OO TYPE (ONE,TWO),U(,K,U(,V))),RY(,Y)),",
    "LETTER (BA,C(A,H(A,O),O),D(A,O),HA,K(A,H(A,O),O),L(A,O),MO,N(GO,NO,O,YO),P(H(A,O),O),QA,RO,",
    "S(A,HA,SO),T(A,H(A,O),O,TH(A,O)),VO,YO),S(IGN (A(HSDA,TTHACAN,VAKRAHASANYA),B(A(NTOC,",
    "RIYOOSAN,THAMASAT),EYYAL),C(AMNUC PII KUUH,OENG),K(AKABAT,HAN,OOMUUT),LEK TOO,MUUSIKATOAN,",
    "NIKAHIT,PHNAEK MUAN,R(EAHMUK,OBAT),SAMYOK SANNYA,T(OANDAKHIAT,RIISAP),VIRIAM,YUUKALEAPINTU),",
    "YMBOL (B(EI (KOET,ROC),UON (KOET,ROC)),DAP( (KOET,ROC),-(B(EI (KOET,ROC),UON (KOET,ROC)),",
    "MUOY (KOET,ROC),P(II (KOET,ROC),RAM (KOET,ROC)))),LEK ATTAK (B(EI,UON),MUOY,P(II,RAM(,-(B(",
    "EI,UON),MUOY,PII))),SON),MUOY (KOET,ROC),P(ATHAMASAT,II (KOET,ROC),RAM( (KOET,ROC),-(B(EI (",
    "KOET,ROC),UON (KOET,ROC)),MUOY (KOET,ROC),PII (KOET,ROC)))),TUTEYASAT)),VOWEL (INHERENT A(A,",
    "Q),SIGN (A(A,E,I,U),E,I(,E,I),O(E,O),U(,A,U),Y(,A,Y)))),OJKI (ABBREVIATION SIGN,D(ANDA,",
    "OUBLE (DANDA,SECTION MARK)),LETTER (A(,A,I,U),B(A,BA,HA),C(A,HA),D(A,D(A,DA,HA),HA),E,G(A,",
    "GA,HA),HA,I,J(A,JA),K(A,HA),L(A,LA),MA,N(A,GA,NA,YA),O,P(A,HA),RA,SA,T(A,HA,T(A,HA)),U,VA,",
    "YA),S(ECTION MARK,IGN (ANUSVARA,NUKTA,S(HADDA,UKUN),VIRAMA)),VOWEL SIGN (A(A,I,U),E,I(,I),O,",
    "U),WORD SEPARATOR),UDAWADI (DIGIT (EIGHT,F(IVE,OUR),NINE,ONE,S(EVEN,IX),T(HREE,WO),ZERO),",
    "LETTER (A(,A,I,U),B(A,BA,HA),C(A,HA),D(A,D(A,DA,HA),HA),E,G(A,GA,HA),HA,I(,I),J(A,HA,JA),K(",
    "A,HA),LA,MA,N(A,GA,NA,YA),O,P(A,HA),R(A,RA),S(A,HA),T(A,HA,T(A,HA)),U(,U),VA,YA),SIGN (",
    "ANUSVARA,NUKTA,VIRAMA),VOWEL SIGN (A(A,I,U),E,I(,I),O,U(,U)))),I(MONO,P SIGN,SS(, MARK,ING (",
    "CAT FACE WITH CLOSED EYES,FACE(, WITH (CLOSED EYES,SMILING EYES)))),TE,WIFRUIT),N(",
    "EELING PERSON,OT),O(ALA,REAN STANDARD SYMBOL),RONOS)"]

end NameFlow.Text.CharacterName
