/-!
# Character names from L to N

The names and the name aliases of characters in Unicode 14 that no rule composes, as trees of
words by initial letter, cut into lines.
-/

namespace NameFlow.Text.CharacterName

set_option autoImplicit false

def namesL : List String :=
  ["L( B BAR SYMBOL,A(B( COAT,EL),CROSSE STICK AND BALL,D(DER,Y BEETLE),NGUAGE TAG,O (",
    "CANCELLATION MARK,DIGIT (EIGHT,F(IVE,OUR),NINE,ONE,S(EVEN,IX),T(HREE,WO),ZERO),ELLIPSIS,HO (",
    "MO,NO),KO LA,LETTER (BO,CO,DO,FO (F(AY,ON),SUNG,TAM),HO (SUNG,TAM),K(H(MU (GO,NYO),O (SUNG,",
    "TAM)),O),LO(, L(ING,OOT)),MO,N(GO,O,YO),O,P(ALI (BHA,CHA,D(D(A,HA),HA),GHA,JHA,LLA,N(NA,YA),",
    "TT(A,HA)),HO (SUNG,TAM),O),RO,S(ANSKRIT S(HA,SA),O (SUNG,TAM)),T(HO (SUNG,TAM),O),WO,YO),",
    "NIGGAHITA,S(EMIVOWEL SIGN (LO,NYO),IGN PALI VIRAMA),TONE MAI (CATAWA,EK,T(HO,I)),",
    "VOWEL SIGN (A(,A,I,M,Y),E(,I),I(,I),MAI K(AN,ON),O,U(,U),Y(,Y))),R(GE( (B(LUE (CIRCLE,",
    "DIAMOND,SQUARE),ROWN (CIRCLE,SQUARE)),CIRCLE,DOWN TACK,GREEN (CIRCLE,SQUARE),",
    "LEFT TRIANGLE OPERATOR,O(NE (DOT OVER TWO DOTS PUNCTUATION,RING OVER TWO RINGS PUNCTUATION),",
    "RANGE (CIRCLE,DIAMOND,SQUARE)),PURPLE (CIRCLE,SQUARE),RED (CIRCLE,SQUARE),T(",
    "RIPLE VERTICAL BAR OPERATOR,WO (DOTS OVER ONE DOT PUNCTUATION,",
    "RINGS OVER ONE RING PUNCTUATION)),UP TACK,YELLOW (CIRCLE,SQUARE)),R THAN(, OR EQUAL TO)),",
    "I SIGN),ST QUARTER MOON(, (SYMBOL,WITH FACE)),TIN (C(APITAL L(ETTER (A(, WITH (ACUTE,BREVE(",
    ", AND (ACUTE,DOT BELOW,GRAVE,HOOK ABOVE,TILDE)),C(ARON,IRCUMFLEX(, AND (ACUTE,DOT BELOW,",
    "GRAVE,HOOK ABOVE,TILDE))),D(IAERESIS(, AND MACRON),O(T (ABOVE(, AND MACRON),BELOW),",
    "UBLE GRAVE)),GRAVE,HOOK ABOVE,INVERTED BREVE,MACRON,OGONEK,RING (ABOVE(, AND ACUTE),BELOW),",
    "STROKE,TILDE),A,E(, WITH (ACUTE,MACRON)),FRICAN D,LPHA,NGLICANA W,O,U,V(",
    ", WITH HORIZONTAL BAR),Y),B(, WITH (DOT (ABOVE,BELOW),FLOURISH,HOOK,LINE BELOW,STROKE,",
    "TOPBAR),ETA,ROKEN L),C(, WITH (ACUTE,BAR,C(ARON,EDILLA(, AND ACUTE),IRCUMFLEX),DOT ABOVE,",
    "HOOK,PALATAL HOOK,STROKE),HI,LOSED INSULAR G,ON,UATRILLO(, WITH COMMA)),D(, WITH (C(ARON,",
    "EDILLA,IRCUMFLEX BELOW),DOT (ABOVE,BELOW),HOOK,LINE BELOW,S(HORT STROKE OVERLAY,",
    "MALL LETTER Z(, WITH CARON),TROKE),TOPBAR),Z(, WITH CARON)),E(, WITH (ACUTE,BREVE,C(ARON,",
    "EDILLA(, AND BREVE),IRCUMFLEX(, (AND (ACUTE,DOT BELOW,GRAVE,HOOK ABOVE,TILDE),BELOW))),D(",
    "IAERESIS,O(T (ABOVE,BELOW),UBLE GRAVE)),GRAVE,HOOK ABOVE,INVERTED BREVE,MACRON(, AND (ACUTE,",
    "GRAVE)),OGONEK,STROKE,TILDE(, BELOW)),GYPTOLOGICAL A(IN,LEF),NG,SH,T(,H),ZH(, (REVERSED,",
    "WITH CARON))),F(, WITH (DOT ABOVE,HOOK,STROKE)),G(, WITH (ACUTE,BREVE,C(ARON,EDILLA,",
    "IRCUMFLEX),DOT ABOVE,HOOK,MACRON,OBLIQUE STROKE,STROKE),AMMA,HA,LOTTAL (A,I,STOP,U)),H(",
    ", WITH (BREVE BELOW,C(ARON,EDILLA,IRCUMFLEX),D(ESCENDER,IAERESIS,OT (ABOVE,BELOW)),HOOK,",
    "STROKE),ALF H,ENG,WAIR),I(, WITH (ACUTE,BREVE,C(ARON,IRCUMFLEX),D(IAERESIS(, AND ACUTE),O(",
    "T (ABOVE,BELOW),UBLE GRAVE)),GRAVE,HOOK ABOVE,INVERTED BREVE,MACRON,OGONEK,STROKE,TILDE(",
    ", BELOW)),NSULAR (D,F,G,R,S,T),OTA,S),J(, WITH (C(IRCUMFLEX,ROSSED-TAIL),STROKE)),K(, WITH (",
    "ACUTE,C(ARON,EDILLA),D(ESCENDER,IAGONAL STROKE,OT BELOW),HOOK,LINE BELOW,OBLIQUE STROKE,",
    "STROKE(, AND DIAGONAL STROKE))),L(, WITH (ACUTE,B(AR,ELT),C(ARON,EDILLA,IRCUMFLEX BELOW),DO(",
    "T BELOW(, AND MACRON),UBLE BAR),HIGH STROKE,LINE BELOW,MIDDLE (DOT,TILDE),S(MALL LETTER J,",
    "TROKE)),J),M(, WITH (ACUTE,DOT (ABOVE,BELOW),HOOK),IDDLE( SCOTS S,-WELSH (LL,V))),N(, WITH (",
    "ACUTE,C(ARON,EDILLA,IRCUMFLEX BELOW),D(ESCENDER,OT (ABOVE,BELOW)),GRAVE,L(EFT HOOK,",
    "INE BELOW,ONG RIGHT LEG),OBLIQUE STROKE,SMALL LETTER J,TILDE),J),O(, WITH (ACUTE,BREVE,C(",
    "ARON,IRCUMFLEX(, AND (ACUTE,DOT BELOW,GRAVE,HOOK ABOVE,TILDE))),D(IAERESIS(, AND MACRON),O(",
    "T (ABOVE(, AND MACRON),BELOW),UBLE (ACUTE,GRAVE))),GRAVE,HO(OK ABOVE,RN(, AND (ACUTE,",
    "DOT BELOW,GRAVE,HOOK ABOVE,TILDE))),INVERTED BREVE,LO(NG STROKE OVERLAY,OP),M(ACRON(, AND (",
    "ACUTE,GRAVE)),IDDLE TILDE),OGONEK(, AND MACRON),STROKE(, AND ACUTE),TILDE(, AND (ACUTE,",
    "DIAERESIS,MACRON))),I,LD POLISH O,MEGA,O,PEN (E,O),U),P(, WITH (ACUTE,DOT ABOVE,FLOURISH,",
    "HOOK,S(QUIRREL TAIL,TROKE(, THROUGH DESCENDER)))),Q(, WITH (DIAGONAL STROKE,",
    "STROKE THROUGH DESCENDER)),R(, (ROTUNDA,WITH (ACUTE,C(ARON,EDILLA),DO(T (ABOVE,BELOW(",
    ", AND MACRON)),UBLE GRAVE),INVERTED BREVE,LINE BELOW,OBLIQUE STROKE,STROKE,TAIL)),EVERSED (",
    "C WITH DOT,E,HALF H,OPEN E),UM ROTUNDA),S(, WITH (ACUTE(, AND DOT ABOVE),C(ARON(",
    ", AND DOT ABOVE),EDILLA,IRCUMFLEX,OMMA BELOW),DOT (ABOVE,BELOW(, AND DOT ABOVE)),HOOK,",
    "OBLIQUE STROKE,S(HORT STROKE OVERLAY,WASH TAIL)),ALTILLO,C(HWA,RIPT G),HARP S,IGMOID S,",
    "MALL (CAPITAL I,Q WITH HOOK TAIL)),T(, WITH (C(ARON,EDILLA,IRCUMFLEX BELOW,OMMA BELOW),D(",
    "IAGONAL STROKE,OT (ABOVE,BELOW)),HOOK,LINE BELOW,RETROFLEX HOOK,STROKE),HORN(, WITH STROKE(",
    ", THROUGH DESCENDER)),ONE (FIVE,SIX,TWO),RESILLO,URNED (A(,LPHA),H,INSULAR G,K,L,M,T,V),Z),",
    "U(, (BAR,WITH (ACUTE,BREVE,C(ARON,IRCUMFLEX(, BELOW)),D(IAERESIS(, (AND (ACUTE,CARON,GRAVE,",
    "MACRON),BELOW)),O(T BELOW,UBLE (ACUTE,GRAVE))),GRAVE,HO(OK ABOVE,RN(, AND (ACUTE,DOT BELOW,",
    "GRAVE,HOOK ABOVE,TILDE))),INVERTED BREVE,MACRON(, AND DIAERESIS),OGONEK,RING ABOVE,STROKE,",
    "TILDE(, (AND ACUTE,BELOW)))),PSILON),V(, WITH (D(IAGONAL STROKE,OT BELOW),HOOK,TILDE),END,",
    "ISIGOTHIC Z,OLAPUK (AE,OE,UE),Y),W(, WITH (ACUTE,CIRCUMFLEX,D(IAERESIS,OT (ABOVE,BELOW)),",
    "GRAVE,HOOK),YNN),X(, WITH D(IAERESIS,OT ABOVE)),Y(, WITH (ACUTE,CIRCUMFLEX,D(IAERESIS,OT (",
    "ABOVE,BELOW)),GRAVE,HOOK(, ABOVE),LOOP,MACRON,STROKE,TILDE),OGH),Z(, WITH (ACUTE,C(ARON,",
    "IRCUMFLEX),D(ESCENDER,OT (ABOVE,BELOW)),HOOK,LINE BELOW,PALATAL HOOK,S(TROKE,WASH TAIL)))),",
    "IGATURE (IJ,OE)),ROSS),EPIGRAPHIC LETTER (ARCHAIC M,I( LONGA,NVERTED M),REVERSED (F,P),",
    "SIDEWAYS I),LETTER (A(IN,LVEOLAR CLICK),BI(DENTAL PERCUSSIVE,LABIAL (CLICK,PERCUSSIVE)),",
    "DENTAL CLICK,GLOTTAL STOP(, WITH STROKE),INVERTED GLOTTAL STOP(, WITH (CURL,STROKE)),",
    "LATERAL CLICK,PHARYNGEAL VOICED FRICATIVE,RE(TROFLEX CLICK(, WITH RETROFLEX HOOK),VERSED (",
    "ESH LOOP,GLOTTAL STOP WITH STROKE)),S(INOLOGICAL DOT,MALL CAPITAL (A(,E),B(,ARRED B),C,D,E(,",
    "TH,ZH),F,G(, WITH HOOK),H,I(,NVERTED R),J,K,L(, WITH (BELT,STROKE)),M,N,O(,E,PEN O,U),P,Q,R(",
    ", WITH RIGHT LEG,EVERSED (N,R),UM),S,T(,URNED (E,G,K,M,R)),U,V,W,Y,Z),TRETCHED C(",
    ", WITH CURL)),TWO WITH STROKE,VOICED LARYNGEAL SPIRANT,WYNN,YR),S(MALL (CAPITAL LETTER (",
    "I WITH STROKE,U WITH STROKE),L(ETTER (A(, (REVERSED-SCHWA,WITH (ACUTE,BREVE(, AND (ACUTE,",
    "DOT BELOW,GRAVE,HOOK ABOVE,TILDE)),C(ARON,IRCUMFLEX(, AND (ACUTE,DOT BELOW,GRAVE,HOOK ABOVE,",
    "TILDE))),D(IAERESIS(, AND MACRON),O(T (ABOVE(, AND MACRON),BELOW),UBLE GRAVE)),GRAVE,",
    "HOOK ABOVE,INVERTED BREVE,MACRON,OGONEK,R(ETROFLEX HOOK,I(GHT HALF RING,NG (ABOVE(",
    ", AND ACUTE),BELOW))),STROKE,TILDE)),A,E(, WITH (ACUTE,MACRON)),LPHA(, WITH RETROFLEX HOOK),",
    "NGLICANA W,O,U,V(, WITH HORIZONTAL BAR),Y),B(, WITH (DOT (ABOVE,BELOW),FLOURISH,HOOK,",
    "LINE BELOW,MIDDLE TILDE,PALATAL HOOK,STROKE,TOPBAR),A(RRED (ALPHA,E,O),SELINE ESH),ETA,",
    "LACKLETTER (E,O(, WITH STROKE)),OTTOM HALF O,ROKEN L),C(, WITH (ACUTE,BAR,C(ARON,EDILLA(",
    ", AND ACUTE),IRCUMFLEX,URL),DOT ABOVE,HOOK,PALATAL HOOK,RETROFLEX HOOK,STROKE),HI(",
    ", WITH LOW (LEFT SERIF,RIGHT RING)),LOSED (INSULAR G,O(MEGA,PEN E),REVERSED OPEN E),ON,",
    "UATRILLO(, WITH COMMA)),D(, WITH (C(ARON,EDILLA,IRCUMFLEX BELOW,URL),DOT (ABOVE,BELOW),HOOK(",
    ", AND TAIL),LINE BELOW,MIDDLE TILDE,PALATAL HOOK,S(HORT STROKE OVERLAY,TROKE),T(AIL,OPBAR)),",
    "B DIGRAPH,E(LTA,ZH DIGRAPH(, WITH (PALATAL HOOK,RETROFLEX HOOK))),O(TLESS (I,J(",
    ", WITH STROKE(, AND HOOK))),UBLE (R(, WITH CROSSED-TAIL),THORN,WYNN)),UM,Z(, (DIGRAPH(",
    ", WITH (CURL,RETROFLEX HOOK)),WITH CARON))),E(, WITH (ACUTE,BREVE,C(ARON,EDILLA(",
    ", AND BREVE),IRCUMFLEX(, (AND (ACUTE,DOT BELOW,GRAVE,HOOK ABOVE,TILDE),BELOW))),D(IAERESIS,",
    "O(T (ABOVE,BELOW),UBLE GRAVE)),FLOURISH,GRAVE,HOOK ABOVE,INVERTED BREVE,MACRON(, AND (ACUTE,",
    "GRAVE)),NOTCH,OGONEK,RETROFLEX HOOK,STROKE,TILDE(, BELOW)),GYPTOLOGICAL A(IN,LEF),NG(",
    ", WITH (CROSSED-TAIL,PALATAL HOOK)),SH(, WITH (CURL,DOUBLE BAR(, AND CURL),PALATAL HOOK,",
    "RETROFLEX HOOK)),T(,H),ZH(, (REVERSED,WITH (C(ARON,URL),PALATAL HOOK,RETROFLEX HOOK,",
    "TAIL)))),F(, WITH (DOT ABOVE,HOOK,MIDDLE TILDE,PALATAL HOOK,STROKE),ENG DIGRAPH(",
    ", WITH TRILL)),G(, WITH (ACUTE,BREVE,C(ARON,EDILLA,IRCUMFLEX),DOT ABOVE,HOOK,MACRON,",
    "OBLIQUE STROKE,PALATAL HOOK,STROKE),AMMA,HA,LOTTAL (A,I,STOP,U)),H(, WITH (BREVE BELOW,C(",
    "ARON,EDILLA,IRCUMFLEX),D(ESCENDER,IAERESIS,OT (ABOVE,BELOW)),HOOK,LINE BELOW,PALATAL HOOK,",
    "STROKE),ALF H,ENG(, WITH HOOK),V),I(, WITH (ACUTE,BREVE,C(ARON,IRCUMFLEX),D(IAERESIS(",
    ", AND ACUTE),O(T BELOW,UBLE GRAVE)),GRAVE,HOOK ABOVE,INVERTED BREVE,MACRON,OGONEK,",
    "RETROFLEX HOOK,STROKE(, AND RETROFLEX HOOK),TILDE(, BELOW)),N(SULAR (D,F,G,R,S,T),VERTED (",
    "ALPHA,OE)),OT(A(, WITH STROKE),IFIED E),S),J(, WITH (C(ARON,IRCUMFLEX,ROSSED-TAIL),STROKE)),",
    "K(, WITH (ACUTE,C(ARON,EDILLA),D(ESCENDER,IAGONAL STROKE,OT BELOW),HOOK,LINE BELOW,",
    "OBLIQUE STROKE,PALATAL HOOK,STROKE(, AND DIAGONAL STROKE)),RA),L(, WITH (ACUTE,B(AR,ELT(",
    ", AND PALATAL HOOK)),C(ARON,EDILLA,IRCUMFLEX BELOW,URL),DO(T BELOW(, AND MACRON),UBLE (BAR,",
    "MIDDLE TILDE)),FISHHOOK,HIGH STROKE,INVERTED LAZY S,LINE BELOW,MIDDLE (DOT,RING,TILDE),",
    "PALATAL HOOK,RETROFLEX HOOK(, AND BELT),STROKE),AMBDA WITH STROKE,E(NIS F,ZH(",
    ", WITH RETROFLEX HOOK)),J,ONG S(, WITH (D(IAGONAL STROKE,OT ABOVE),HIGH STROKE)),S DIGRAPH,",
    "UM,Z DIGRAPH),M(, WITH (ACUTE,CROSSED-TAIL,DOT (ABOVE,BELOW),HOOK,MIDDLE TILDE,",
    "PALATAL HOOK),IDDLE( SCOTS S,-WELSH (LL,V)),UM),N(, (PRECEDED BY APOSTROPHE,WITH (ACUTE,C(",
    "ARON,EDILLA,IRCUMFLEX BELOW,ROSSED-TAIL,URL),D(ESCENDER,OT (ABOVE,BELOW)),GRAVE,L(EFT HOOK,",
    "INE BELOW,ONG RIGHT LEG),MIDDLE TILDE,OBLIQUE STROKE,PALATAL HOOK,RETROFLEX HOOK,TILDE)),J,",
    "UM),O(, WITH (ACUTE,BREVE,C(ARON,IRCUMFLEX(, AND (ACUTE,DOT BELOW,GRAVE,HOOK ABOVE,TILDE))),",
    "D(IAERESIS(, AND MACRON),O(T (ABOVE(, AND MACRON),BELOW),UBLE (ACUTE,GRAVE))),GRAVE,HO(",
    "OK ABOVE,RN(, AND (ACUTE,DOT BELOW,GRAVE,HOOK ABOVE,TILDE))),INVERTED BREVE,LO(",
    "NG STROKE OVERLAY,OP,W RING INSIDE),MACRON(, AND (ACUTE,GRAVE)),OGONEK(, AND MACRON),",
    "RETROFLEX HOOK,STROKE(, AND ACUTE),TILDE(, AND (ACUTE,DIAERESIS,MACRON))),I,LD POLISH O,",
    "MEGA,O,PEN (E(, WITH RETROFLEX HOOK),O(, WITH (RETROFLEX HOOK,STROKE),E)),U),P(, WITH (",
    "ACUTE,DOT ABOVE,FLOURISH,HOOK,MIDDLE TILDE,PALATAL HOOK,S(QUIRREL TAIL,TROKE(",
    ", THROUGH DESCENDER))),HI),Q(, WITH (DIAGONAL STROKE,HOOK(, TAIL),STROKE THROUGH DESCENDER),",
    "P DIGRAPH),R(, (ROTUNDA,WITH( (ACUTE,C(ARON,EDILLA,ROSSED-TAIL),DO(T (ABOVE,BELOW(",
    ", AND MACRON)),UBLE GRAVE),FISHHOOK(, AND (MIDDLE TILDE,PALATAL HOOK)),INVERTED BREVE,L(",
    "INE BELOW,ONG LEG),MIDDLE TILDE,OBLIQUE STROKE,PALATAL HOOK,STROKE,TAIL),OUT HANDLE)),",
    "AMS HORN,EVERSED (C(, WITH DOT),E(,NG),HALF H,K,OPEN E(, WITH (HOOK,RETROFLEX HOOK)),",
    "R WITH FISHHOOK,SCRIPT G),UM(, ROTUNDA)),S(, WITH (ACUTE(, AND DOT ABOVE),C(ARON(",
    ", AND DOT ABOVE),EDILLA,IRCUMFLEX,OMMA BELOW,URL),DOT (ABOVE,BELOW(, AND DOT ABOVE)),HOOK,",
    "MIDDLE TILDE,OBLIQUE STROKE,PALATAL HOOK,S(HORT STROKE OVERLAY,WASH TAIL)),A(KHA YAT,",
    "LTILLO),C(HWA(, WITH (HOOK,RETROFLEX HOOK)),RIPT (G(, WITH CROSSED-TAIL),R(, WITH RING))),",
    "HARP S,I(DEWAYS (DIAERESIZED U,O(, WITH STROKE,PEN O),TURNED M,U),GMOID S),",
    "QUAT REVERSED ESH,TIRRUP R),T(, WITH (C(ARON,EDILLA,IRCUMFLEX BELOW,OMMA BELOW,URL),D(IA(",
    "ERESIS,GONAL STROKE),OT (ABOVE,BELOW)),HOOK(, AND RETROFLEX HOOK),LINE BELOW,MIDDLE TILDE,",
    "PALATAL HOOK,RETROFLEX HOOK,STROKE),AILLESS PHI,C DIGRAPH WITH CURL,ESH DIGRAPH(, WITH (",
    "PALATAL HOOK,RETROFLEX HOOK)),H( WITH STRIKETHROUGH,ORN(, WITH STROKE(",
    ", THROUGH DESCENDER))),O(NE (FIVE,SIX,TWO),P HALF O),RESILLO,S DIGRAPH(",
    ", WITH RETROFLEX HOOK),U(M,RNED (A(,E,LPHA),DELTA,E,G,H(, WITH FISHHOOK(, AND TAIL)),I(,",
    "NSULAR G),K,L,M(, WITH LONG LEG),O( OPEN-O(, WITH STROKE),E(, WITH (HORIZONTAL STROKE,",
    "STROKE)),PEN E),R(, WITH (HOOK,LONG LEG(, AND RETROFLEX HOOK),MIDDLE TILDE,PALATAL HOOK,",
    "TAIL)),T(, WITH CURL),UI,V,W,Y(, WITH BELT))),Z),U(, (BAR(, WITH SHORT RIGHT LEG),WITH (",
    "ACUTE,BREVE,C(ARON,IRCUMFLEX(, BELOW)),D(IAERESIS(, (AND (ACUTE,CARON,GRAVE,MACRON),BELOW)),",
    "O(T BELOW,UBLE (ACUTE,GRAVE))),GRAVE,HO(OK ABOVE,RN(, AND (ACUTE,DOT BELOW,GRAVE,HOOK ABOVE,",
    "TILDE))),INVERTED BREVE,LEFT HOOK,MACRON(, AND DIAERESIS),OGONEK,R(ETROFLEX HOOK,ING ABOVE),",
    "S(HORT RIGHT LEG,TROKE),TILDE(, (AND ACUTE,BELOW)))),E,I,M,O,PSILON(, WITH STROKE)),V(",
    ", WITH (CURL,D(IAGONAL STROKE,OT BELOW),HOOK,PALATAL HOOK,RIGHT HOOK,TILDE),END,ISIGOTHIC Z,",
    "OLAPUK (AE,OE,UE),Y),W(, WITH (ACUTE,CIRCUMFLEX,D(IAERESIS,OT (ABOVE,BELOW)),GRAVE,HOOK,",
    "RING ABOVE)),X(, WITH (D(IAERESIS,OT ABOVE),LO(NG LEFT LEG(, (AND LOW RIGHT RING,",
    "WITH SERIF)),W RIGHT RING),PALATAL HOOK)),Y(, WITH (ACUTE,CIRCUMFLEX,D(IAERESIS,OT (ABOVE,",
    "BELOW)),GRAVE,HOOK(, ABOVE),LOOP,MACRON,RING ABOVE,S(HORT RIGHT LEG,TROKE),TILDE),OGH),Z(",
    ", WITH (ACUTE,C(ARON,IRCUMFLEX,URL),D(ESCENDER,OT (ABOVE,BELOW)),HOOK,LINE BELOW,",
    "MIDDLE TILDE,PALATAL HOOK,RETROFLEX HOOK,S(TROKE,WASH TAIL)))),IGATURE (F(F(,I,L),I,L),IJ,",
    "LONG S T,OE,ST))),UBSCRIPT SMALL LETTER (A,E,H,I,J,K,L,M,N,O,P,R,S(,CHWA),T,U,V,X)))),E(",
    "AF( FLUTTERING IN WIND,Y GREEN),DGER,FT( (A(N(D (LOWER (",
    "AND RIGHT TRIANGULAR THREE QUARTERS BLOCK,ONE EIGHTH BLOCK),RIGHT (DOUBLE TURNSTILE,T(ACK,",
    "RIANGULAR HALF BLOCK)),UPPER (AND RIGHT TRIANGULAR THREE QUARTERS BLOCK,ONE EIGHTH BLOCK)),",
    "G(ER BUBBLE,LE BRACKET(, WITH DOT))),R(C LESS-THAN BRACKET,ROW WITH (CIRCLED PLUS,",
    "SMALL CIRCLE))),B(ARB (DOWN RIGHT BARB (DOWN HARPOON,UP HARPOON),UP RIGHT BARB (",
    "DOWN HARPOON,UP HARPOON)),LACK (LENTICULAR BRACKET,TORTOISE SHELL BRACKET)),C(EILING,",
    "LOSED ENTRY,ORNER BRACKET,URLY BRACKET(, (LOWER HOOK,MIDDLE PIECE,UPPER HOOK))),DO(",
    "TTED SUBSTITUTION BRACKET,UBLE (ANGLE BRACKET,PARENTHESIS,QUOTATION MARK,WIGGLY FENCE)),F(I(",
    "SH TAIL,VE EIGHTHS BLOCK),LOOR),HA(LF (BL(ACK (CIRCLE,STAR),OCK),CIRCLE(, WITH (DOT,",
    "FOUR DOTS,T(HREE DOTS,WO DOTS))),FOLDER,INVERSE MEDIUM SHADE AND RIGHT HALF BLOCK,",
    "MEDIUM SHADE,RUNNING MAN),ND TELEPHONE RECEIVER),L(OW PARAPHRASE BRACKET,UGGAGE),MULTIMAP,",
    "NORMAL FACTOR SEMIDIRECT PRODUCT,O(NE (EIGHTH BLOCK,QUARTER BLOCK),UTER JOIN),PARENTHESIS(",
    ", (EXTENSION,LOWER HOOK,UPPER HOOK)),R(AISED OMISSION BRACKET,IGHT (ARROW(, (",
    "THROUGH SMALL CIRCLE,WITH (DOUBLE VERTICAL STROKE,STROKE,VERTICAL STROKE))),BLACK ARROW,",
    "DOUBLE ARROW(, WITH (STROKE,VERTICAL STROKE)),OPEN-HEADED ARROW,SANS-SERIF ARROW,",
    "TRIANGLE-HEADED ARROW,W(AVE ARROW,HITE ARROW))),S(-SHAPED BAG DELIMITER,E(MIDIRECT PRODUCT,",
    "VEN EIGHTHS BLOCK),I(DEWAYS U BRACKET,NGLE QUOTATION MARK),PEECH BUBBLE,QUARE BRACKET(, (",
    "EXTENSION,LOWER CORNER,UPPER CORNER,WITH (DOUBLE STROKE,QUILL,STROKE,TICK IN (BOTTOM CORNER,",
    "TOP CORNER),UNDERBAR))),UBSTITUTION BRACKET),T(ACK,H(IRD WHITE RIGHT POINTING INDEX,",
    "OUGHT BUBBLE,REE (EIGHTHS BLOCK,QUARTERS BLOCK)),ORTOISE SHELL BRACKET,R(",
    "ANSPOSITION BRACKET,IANG(LE BESIDE VERTICAL BAR,ULAR ONE QUARTER BLOCK))),VERTICAL B(",
    "AR WITH QUILL,OX LINE),W(HITE (C(ORNER BRACKET,URLY BRACKET),LENTICULAR BRACKET,PARENTHESIS,",
    "SQUARE BRACKET,TORTOISE SHELL BRACKET),IGGLY FENCE,RITING HAND)),-(FACING (",
    "ARMENIAN ETERNITY SIGN,FIST,SVASTI SIGN(, WITH DOTS)),HANDED INTERLACED PENTAGRAM,POINTING (",
    "ANGLE BRACKET,CURVED ANGLE BRACKET,DOUBLE ANGLE QUOTATION MARK,MAGNIFYING GLASS),S(",
    "HADED WHITE RIGHTWARDS ARROW,IDE ARC ANTICLOCKWISE ARROW),TO-RIGHT (EMBEDDING,ISOLATE,MARK,",
    "OVERRIDE)),WARDS (ARROW(, (A(BOVE (ALMOST EQUAL TO,REVERSE (ALMOST EQUAL TO,TILDE OPERATOR),",
    "SHORT RIGHTWARDS ARROW,TILDE OPERATOR),ND UPPER AND LOWER ONE EIGHTH BLOCK),FROM BAR(",
    ", TO BLACK DIAMOND),OVER RIGHTWARDS ARROW,T(HROUGH (LESS-THAN,SUBSET,X),O B(AR(",
    ", OVER RIGHTWARDS ARROW TO BAR),LACK DIAMOND)),WITH (DO(TTED STEM,UBLE VERTICAL STROKE),",
    "EQUILATERAL ARROWHEAD,HOOK,L(ARGE TRIANGLE ARROWHEAD,OOP),MEDIUM TRIANGLE ARROWHEAD,",
    "NOTCHED TAIL,PLUS BELOW,S(MALL (EQUILATERAL ARROWHEAD,TRIANGLE ARROWHEAD),TROKE),T(AIL(",
    ", WITH (DOUBLE VERTICAL STROKE,VERTICAL STROKE)),IP (DOWNWARDS,UPWARDS)),VERTICAL STROKE)),",
    "-TAIL),B(ACK-TILTED SHADOWED WHITE ARROW,LACK (ARROW,CIRCLED WHITE ARROW),",
    "OTTOM-SHADED WHITE ARROW),COMPRESSED ARROW,D(ASHED ARROW,OUBLE (ARROW(, (FROM BAR,WITH (",
    "STROKE,VERTICAL STROKE)),-TAIL),DASH ARROW)),F(INGER-POST ARROW,",
    "RONT-TILTED SHADOWED WHITE ARROW),H(A(ND,RPOON (OVER RIGHTWARDS HARPOON,WITH BARB (DOWN( (",
    "ABOVE RIGHTWARDS HARPOON WITH BARB DOWN,BELOW LONG DASH,FROM BAR,TO BAR),WARDS),UP( (ABOVE (",
    "L(EFTWARDS HARPOON WITH BARB DOWN,ONG DASH),RIGHTWARDS HARPOON WITH BARB UP),FROM BAR,",
    "TO BAR),WARDS)))),EAVY (ARROW,COMPRESSED ARROW)),LEFT-SHADED WHITE ARROW,OPEN-HEADED ARROW,",
    "PAIRED ARROWS,QUADRUPLE ARROW,R(IGHT-SHADED WHITE ARROW,OCKET),S(ANS-SERIF ARROW,QU(",
    "ARED ARROW,IGGLE ARROW)),T(OP SHADED WHITE ARROW,RI(ANGLE( ARROWHEAD,-HEADED (ARROW(, (",
    "OVER RIGHTWARDS TRIANGLE-HEADED ARROW,TO BAR,WITH (BOLD SHAFT,DOUBLE (HORIZONTAL STROKE,",
    "VERTICAL STROKE),HEAVY SHAFT,LONG TIP (DOWNWARDS,UPWARDS),MEDIUM SHAFT,NARROW SHAFT,",
    "VERY HEAVY SHAFT))),DASHED ARROW,PAIRED ARROWS)),PLE (ARROW,DASH ARROW)),WO( HEADED ARROW,",
    "-HEADED (ARROW (FROM BAR,WITH (DOUBLE VERTICAL STROKE,T(AIL(, WITH (DOUBLE VERTICAL STROKE,",
    "VERTICAL STROKE)),RIANGLE ARROWHEADS),VERTICAL STROKE)),TRIPLE DASH ARROW))),W(AVE ARROW,",
    "HITE ARROW(, WITHIN TRIANGLE ARROWHEAD)))),G,MON,O(,PARD),PCHA (CONSONANT SIGN (K(,ANG),L,M,",
    "N(,YIN-DO),P,R,T),DIGIT (EIGHT,F(IVE,OUR),NINE,ONE,S(EVEN,IX),T(HREE,WO),ZERO),LETTER (A,B(",
    "A,LA),C(A,HA),D(A,DA,ZA),F(A,LA),G(A,LA),H(A,LA),JA,K(A,HA,LA),LA,M(A,LA),N(A,GA,YA),P(A,HA,",
    "LA),RA,S(A,HA),T(A,HA,S(A,HA),T(A,HA)),VA,WA,YA),PUNCTUATION (CER-WA,NYET THYOOM TA-ROL,T(",
    "A-ROL,SHOOK(, CER-WA))),S(IGN (NUKTA,RAN),UBJOINED LETTER (RA,YA)),VOWEL SIGN (AA,E,I,O(,O),",
    "U(,U))),SS-THAN (A(BOVE (DOUBLE-LINE EQUAL ABOVE GREATER-THAN,",
    "GREATER-THAN ABOVE DOUBLE-LINE EQUAL,LEFTWARDS ARROW,S(IMILAR (ABOVE GREATER-THAN,OR EQUAL),",
    "LANTED EQUAL ABOVE GREATER-THAN ABOVE SLANTED EQUAL)),ND (NOT APPROXIMATE,",
    "SINGLE-LINE NOT EQUAL TO)),BUT NOT EQU(AL TO,IVALENT TO),CLOSED BY CURVE(",
    ", ABOVE SLANTED EQUAL),EQUAL TO OR GREATER-THAN,O(R (APPROXIMATE,EQU(AL TO,IVALENT TO),",
    "GREATER-THAN,SLANTED EQUAL TO(, WITH DOT (ABOVE(, RIGHT),INSIDE))),VER EQUAL TO),SIGN,WITH (",
    "CIRCLE INSIDE,DOT,QUESTION MARK ABOVE)),VEL SLIDER),F,I(BRA,G(ATURE OPEN ET ORNAMENT,HT( (",
    "CHECK MARK,EIGHT SPOKED ASTERISK,F(IVE (POINTED BLACK STAR,SPOKED ASTERISK),",
    "OUR POINTED BLACK (CUSP,STAR)),GREEK CROSS,LEFT TORTOISE SHELL BRACKET ORNAMENT,R(AIL,",
    "IGHT TORTOISE SHELL BRACKET ORNAMENT),S(ALTIRE,HADE,IX SPOKED ASTERISK),T(",
    "HREE POINTED BLACK STAR,WELVE POINTED BLACK STAR),VERTICAL BAR,WHITE SQUARE),NING(, MOOD(",
    ", BUBBLE)))),M(BU (DIGIT (EIGHT,F(IVE,OUR),NINE,ONE,S(EVEN,IX),T(HREE,WO),ZERO),",
    "EXCLAMATION MARK,LETTER (B(A,HA),C(A,HA),D(A,HA),G(A,HA,YAN),HA,J(A,HA),K(A,HA),LA,MA,N(A,",
    "GA),P(A,HA),RA,S(A,HA,SA),T(A,HA,RA),WA,YA(,N)),QUESTION MARK,S(IGN (KEMPHRENG,LOO,",
    "MUKPHRENG,SA-I),MALL LETTER (ANUSVARA,KA,LA,MA,N(A,GA),PA,RA,TA),UBJOINED LETTER (RA,WA,",
    "YA)),VOWEL( SIGN (A(,I,U),E(,E),I,O(,O),U),-CARRIER LETTER)),ITED LIABILITY SIGN),N(E( (",
    "FEED,INTEGRATION (NOT INCLUDING THE POLE,WITH (RECTANGULAR PATH AROUND POLE,",
    "SEMICIRCULAR PATH AROUND POLE)),SEPARATOR,TABULATION(, SET)),AR (A SIGN A(028B,1(00-102,20B,",
    "31C),3(0(1,2,3,4,5,6,7,8,9(A,B,C)),1(0,1,2,3(A,B,C),4,5,6,7,8,9),2(0,1,2,3,4,5,6,7,8,9),3(0,",
    "1,2,3,4,5,6,7,8,9),4(0,1,2,3,4,5,6,7,8,9),5(0,1,2,3,4,5,6,7,8,9),6(0,1,2,3,4,5,6,7,8,9),7(0,",
    "1)),4(0(0-VAS,1-VAS,2-VAS,3-VAS,4-VAS,5-VAS,6-VAS,7-VAS,8-VAS,9-VAS),1(0-VAS,1-VAS,2-VAS,",
    "3-VAS,4-VAS,5-VAS,6-VAS,7-VAS,8-VAS)),5(0(1,2,3,4,5,6,8,9),1(0,1,2,3,5,6),2(0,1,3,4,5,6,7,8,",
    "9),3(0,1,2,4,5,6,7,8,9),4(0,1,2,5,7,8,9),5(0,1,2,3,4,5,6,7,9),6(3,4,5,6,8,9),7(0,1,2,3,4,5,",
    "6,7,8,9),8(0,1,2,3,4,5,6,7,8,9),9(1,2,4,5,6,8)),6(0(0,1,2,3,4,6,8,9),1(0,1,2,3,4,5,6,7,8,9),",
    "2(0,1,2,3,4,6,7,8,9),3(4,7,8),4(0,2,3,4,5,6,8,9),5(1,2,3,4,5,6,7,8,9),6(0,1,2,3,4)),7(0(1 A,",
    "2 B,3 D,4 E,5 F,6 H,7 J,8 K,9( L,-(2 L2,3 L3,4 L4,6 L6))),1(0 W,1 X,2 Y,3 OMEGA,4 ABB,5 BB,",
    "7 DD),26 EYYY,32 JE),80(0,1,2,3,4,5,6,7),B(0(0(1,2,3,4,5,6,7,8,9),1(0,1,3,6,7),2(0,1(,F,M),",
    "2(,F,M),3(,M),4,6,7,8,9),3(0,1,4,7,8,9),4(0,1,4,5,6,7,8,9),5(0,1,3,4,5,6,7,8,9),6(0,1,5,6,7,",
    "9),7(0,3,4,6,7,8,9),8(0,1,2,5,6,7)),1(18,2(0,2,3),31(A,B),64,71,8(0,8),91))),B (IDEOGRAM (B(",
    "1(0(0 MAN,2 WOMAN,4 DEER,5( EQUID,F MARE,M STALLION),6(F EWE,M RAM),7(F SHE-GOAT,M HE-GOAT),",
    "8(F SOW,M BOAR),9(F COW,M BULL)),2(0 WHEAT,1 BARLEY,2 OLIVE,3 SPICE,5 CYPERUS),3(0 OIL,",
    "1 WINE,2),4(0 BRONZE,1 GOLD,2,5 WOOL,6),5(0,1 HORN,2,3,4,7,8,9 CLOTH),6(0,1,2 GARMENT,",
    "3 ARMOUR,4,5,6,7,8,9),7(0,1,2,3 MONTH,4,6 TREE,7,8,9),8(0,1,2,3,4,5,9),9(0,1 HELMET)),2(2(",
    "0 FOOTSTOOL,5 BATHTUB),3(0 SPEAR,1 ARROW,2,3 SWORD,4,6),4(0 WHEELED CHARIOT,1 CHARIOT,",
    "2 CHARIOT FRAME,3 WHEEL,5,6,8,9),5(1,2,3,4 DART,5,6,7,8,9))),VESSEL B(155,2(0(0,1,2,3,4,5,6,",
    "7,8,9),1(0,1,2,3,4,5,6,7,8,9),2(1,2,6,7,8,9),50),305)),MONOGRAM B(1(2(7 KAPO,8 KANAKO),3(",
    "3 AREPA,5 MERI),56 TURO2),247 DIPTE),SY(LLABLE B0(0(1 DA,2 RO,3 PA,4 TE,5 TO,6 NA,7 DI,8 A,",
    "9 SE),1(0 U,1 PO,2 SO,3 ME,4 DO,5 MO,6 QA,7 ZA),2(0 ZO,1 QI,3 MU,4 NE,5 A2,6 RU,7 RE,8 I,",
    "9 PU2),3(0 NI,1 SA,2 QO,3 RA3,6 JO,7 TI,8 E,9 PI),4(0 WI,1 SI,2 WO,3 A3,4 KE,5 DE,6 JE,",
    "8 NWA),5(0 PU,1 DU,2 NO,3 RI,4 WA,5 NU,7 JA,8 SU,9 TA),6(0 RA,1 O,2 PTE,5 JU,6 TA2,7 KI,",
    "8 RO2,9 TU),7(0 KO,1 DWE,2 PE,3 MI,4 ZE,5 WE,6 RA2,7 KA,8 QE),8(0 MA,1 KU,5 AU,7 TWE),9(",
    "0 DWO,1 TWO)),MBOL B0(1(8,9),22,34,4(7,9),56,6(3,4),79,8(2,3,6,9)))))),K( SYMBOL,",
    "ED PAPERCLIPS)),ON FACE,PS(,TICK),RA SIGN,SU (LETTER (A(,E),BA,C(A,HA),D(A,ZA),E(,U),FA,G(A,",
    "HA),H(A,HA),I,JA,K(A,HA),LA,MA,N(A,GA),O(,E),P(A,HA),S(A,HA),T(A,HA,ONE (MYA (BO,CYA,JEU,NA,",
    "TI),NA PO),S(A,HA)),U(,E,H),WA,XA,Y(A,HA),Z(A,HA)),PUNCTUATION (COMMA,FULL STOP)),",
    "VRE TOURNOIS SIGN,ZARD),LAMA,O(BSTER,CK(, WITH INK PEN,ING-SHIFT (ONE,ZERO)),GICAL (AND(",
    ", WITH (DO(T ABOVE,UBLE (OVERBAR,UNDERBAR)),HORIZONTAL DASH,MIDDLE STEM,UNDERBAR)),OR(, (",
    "OVERLAPPING LOGICAL AND,WITH (DO(T ABOVE,UBLE (OVERBAR,UNDERBAR)),HORIZONTAL DASH,",
    "MIDDLE STEM)))),LLIPOP,NG (D(ASH FROM LEFT MEMBER OF DOUBLE VERTICAL,IVISION,RUM),LEFT( (",
    "RIGHT (ARROW,DOUBLE ARROW),TACK),WARDS (ARROW(, FROM BAR),DOUBLE ARROW(, FROM BAR),",
    "SQUIGGLE ARROW)),RIGHT( TACK,WARDS (ARROW(, FROM BAR),DOUBLE ARROW(, FROM BAR),",
    "SQUIGGLE ARROW))),T(ION BOTTLE,US),UDLY CRYING FACE,VE (HOTEL,LETTER),W( (ASTERISK,B(ATTERY,",
    "RIGHTNESS SYMBOL),DOUBLE PRIME QUOTATION MARK,KAVYKA(, WITH DOT),LINE),ER (BLADE SCISSORS,",
    "FIVE EIGHTHS BLOCK,HALF (BLOCK,CIRCLE,INVERSE WHITE CIRCLE,MEDIUM SHADE),LEFT (B(",
    "ALLPOINT PEN,LOCK DIAGONAL (LOWER MIDDLE LEFT TO LOWER (CENTRE,RIGHT),UPPER (CENTRE TO (",
    "LOWER (MIDDLE RIGHT,RIGHT),UPPER MIDDLE RIGHT),LEFT TO (LOWER (CENTRE,MIDDLE RIGHT),",
    "UPPER MIDDLE RIGHT),MIDDLE LEFT TO LOWER (CENTRE,MIDDLE RIGHT,RIGHT)))),CRAYON,FOUNTAIN PEN,",
    "P(AINTBRUSH,ENCIL),QUADRANT CIRCULAR ARC,SEMICIRCULAR ANTICLOCKWISE ARROW,TRIANG(LE,",
    "ULAR MEDIUM SHADE)),ONE (EIGHTH BLOCK,QUARTER BLOCK),RIGHT (BLOCK DIAGONAL (LOWER (",
    "CENTRE TO (LOWER MIDDLE RIGHT,UPPER (MIDDLE RIGHT,RIGHT)),LEFT TO (LOWER MIDDLE RIGHT,",
    "UPPER (CENTRE,MIDDLE RIGHT)),MIDDLE LEFT TO UPPER (CENTRE,MIDDLE RIGHT,RIGHT)),",
    "UPPER MIDDLE LEFT TO UPPER (CENTRE,RIGHT)),CORNER WITH DOT,DROP-SHADOWED WHITE SQUARE,",
    "PENCIL,QUADRANT CIRCULAR ARC,S(EMICIRCULAR CLOCKWISE ARROW,HADOWED WHITE (CIRCLE,SQUARE)),",
    "TRIANG(LE,ULAR MEDIUM SHADE)),SEVEN EIGHTHS BLOCK,T(HREE (EIGHTHS BLOCK,QUARTERS BLOCK),",
    "RIANGULAR ONE QUARTER BLOCK))),ZENGE(, DIVIDED BY HORIZONTAL RULE)),R(E,I,M,O),U(GGAGE,NGS),",
    "Y(CIAN LETTER (A(,N),B(,H),D,E(,N),G,H,I,J,K(,K),L,M(,M),N(,N),P,Q,R,S,T(,H,T),U,W,X,Z),",
    "DIAN (LETTER (A(,N),B,C,D,E(,N),F,G,I,K,L(,Y),M,N(,N),O,Q,R,S(,S),T(,T),U,V,Y),",
    "TRIANGULAR MARK),ING FACE))"]

def namesM : List String :=
  ["M(A(CRON,G(E,IC WAND,NET),H(AJANI (ABBREVIATION SIGN,L(ETTER (A,B(A,HA),C(A,HA),D(A,D(A,HA),",
    "HA),E,G(A,HA),HA,I,J(A,HA),K(A,HA),LA,MA,N(A,NA,YA),O,P(A,HA),R(A,RA),SA,T(A,HA,T(A,HA)),U,",
    "VA),IGATURE SHRI),S(ECTION MARK,IGN NUKTA)),JONG TILE (AUTUMN,BA(CK,MBOO),CHRYSANTHEMUM,E(",
    "AST WIND,IGHT OF (BAMBOOS,C(HARACTERS,IRCLES))),F(IVE OF (BAMBOOS,C(HARACTERS,IRCLES)),",
    "OUR OF (BAMBOOS,C(HARACTERS,IRCLES))),GREEN DRAGON,JOKER,N(INE OF (BAMBOOS,C(HARACTERS,",
    "IRCLES)),ORTH WIND),O(NE OF (BAMBOOS,C(HARACTERS,IRCLES)),RCHID),PLUM,RED DRAGON,S(EVEN OF (",
    "BAMBOOS,C(HARACTERS,IRCLES)),IX OF (BAMBOOS,C(HARACTERS,IRCLES)),OUTH WIND,PRING,UMMER),T(",
    "HREE OF (BAMBOOS,C(HARACTERS,IRCLES)),WO OF (BAMBOOS,C(HARACTERS,IRCLES))),W(EST WIND,",
    "HITE DRAGON,INTER))),KASAR (ANGKA,END OF SECTION,LETTER (A,BA,CA,DA,GA,JA,KA,LA,MA,N(A,GA,",
    "YA),PA,RA,SA,TA,VA,YA),PASSIMBANG,VOWEL SIGN (E,I,O,U)),L(AYALAM (AU LENGTH MARK,D(ATE MARK,",
    "IGIT (EIGHT,F(IVE,OUR),NINE,ONE,S(EVEN,IX),T(HREE,WO),ZERO)),FRACTION (ONE (EIGHTH,F(IFTH,",
    "ORTIETH),HALF,ONE-HUNDRED-AND-SIXTIETH,QUARTER,SIXTEENTH,T(ENTH,WENTIETH)),THREE (",
    "EIGHTIETHS,QUARTERS,SIXTEENTHS,TWENTIETHS)),LETTER (A(,A,I,RCHAIC II,U),B(A,HA),C(A,H(A,",
    "ILLU (K,L(,L(,L)),M,N(,N),RR,Y))),D(A,D(A,HA),HA,OT REPH),E(,E),G(A,HA),HA,I(,I),J(A,HA),K(",
    "A,HA),L(A,L(A,LA)),MA,N(A,GA,N(A,NA),YA),O(,O),P(A,HA),R(A,RA),S(A,HA,SA),T(A,HA,T(A,HA,",
    "TA)),U(,U),V(A,EDIC ANUSVARA,OCALIC (L(,L),R(,R))),YA),NUMBER (ONE (HUNDRED,THOUSAND),TEN),",
    "SIGN (A(NUSVARA,VAGRAHA),C(ANDRABINDU,IRCULAR VIRAMA,OMBINING ANUSVARA ABOVE),PARA,V(",
    "ERTICAL BAR VIRAMA,I(RAMA,SARGA))),VOWEL SIGN (A(A,I,U),E(,E),I(,I),O(,O),U(,U),VOCALIC (L(,",
    "L),R(,R)))),E (AND FEMALE SIGN,SIGN,WITH STROKE (AND MALE AND FEMALE SIGN,SIGN)),",
    "TESE CROSS),MMOTH,N(, (AND WOMAN HOLDING HANDS,DANCING,IN (BUSINESS SUIT LEVITATING,TUXEDO),",
    "WITH (GUA PI MAO,TURBAN)),AT SIGN,DAIC (AFFRICATION MARK,GEMINATION MARK,LETTER (A(B,D,G,H,",
    "IN,K(,SA),L,M,N,P,Q,R,S(,H,Z),T(,T),Z),DUSHENNA,HALQA,I(N,T),KAD,USHENNA),PUNCTUATION,",
    "VOCALIZATION MARK),GO,ICHAEAN (ABBREVIATION MARK (ABOVE,BELOW),LETTER (A(AYIN,LEPH,YIN),B(",
    "ETH,HETH),D(ALETH,HAMEDH),FE,G(HIMEL,IMEL),HE(,TH),J(AYIN,HAYIN),K(APH,HAPH),LAMEDH,MEM,NUN,",
    "PE,Q(HOPH,OPH),RESH,S(A(DHE,MEKH),HIN,SHIN),T(AW,ETH,HAMEDH),WAW,X(APH,OPH),YODH,Z(AYIN,",
    "HAYIN)),NUMBER (FIVE,ONE(, HUNDRED),T(EN,WENTY)),PUNCTUATION (DO(T(, WITHIN DOT),",
    "UBLE DOT WITHIN DOT),FLEURON,LINE FILLER,STAR,TWO DOTS),SIGN UD),S SHOE,TELPIECE CLOCK,",
    "UAL WHEELCHAIR),P( SYMBOL FOR LIGHTHOUSE,LE LEAF),R(CHEN (HEAD MARK,LETTER (-A,A,BA,C(A,HA),",
    "D(A,ZA),GA,HA,JA,K(A,HA),LA,MA,N(A,GA,YA),P(A,HA),RA,S(A,HA),T(A,HA,S(A,HA)),WA,YA,Z(A,HA)),",
    "MARK SHAD,S(IGN (ANUSVARA,CANDRABINDU),UBJOINED LETTER (A,BA,C(A,HA),D(A,ZA),GA,HA,JA,K(A,",
    "HA),LA,MA,N(A,GA,YA),P(A,HA),RA,S(A,HA),T(A,HA,S(A,HA)),WA,YA,Z(A,HA))),VOWEL SIGN (AA,E,I,",
    "O,U)),RIAGE SYMBOL,TIAL ARTS UNIFORM),S(ARAM GONDI (DIGIT (EIGHT,F(IVE,OUR),NINE,ONE,S(EVEN,",
    "IX),T(HREE,WO),ZERO),LETTER (A(,A,I,U),B(A,HA),C(A,HA),D(A,D(A,HA),HA),E,G(A,HA),HA,I(,I),J(",
    "A,HA,NYA),K(A,HA,SSA),L(A,LA),MA,N(A,GA,NA,YA),O,P(A,HA),RA,S(A,HA,SA),T(A,HA,RA,T(A,HA)),U(",
    ",U),VA,YA),R(A-KARA,EPHA),SIGN (ANUSVARA,CANDRA,HALANTA,NUKTA,VISARGA),V(IRAMA,OWEL SIGN (A(",
    "A,I,U),E,I(,I),O,U(,U),VOCALIC R))),CULINE ORDINAL INDICATOR,K WORK SYMBOL,U MARK),T(",
    "E DRINK,HEMATICAL (BOLD (CAPITAL (A(,LPHA),B(,ETA),C(,HI),D(,ELTA,IGAMMA),E(,PSILON,TA),F,G(",
    ",AMMA),H,I(,OTA),J,K(,APPA),L(,AMDA),M(,U),N(,U),O(,M(EGA,ICRON)),P(,HI,I,SI),Q,R(,HO),S(,",
    "IGMA),T(,AU,HETA(, SYMBOL)),U(,PSILON),V,W,X(,I),Y,Z(,ETA)),DIGIT (EIGHT,F(IVE,OUR),NINE,",
    "ONE,S(EVEN,IX),T(HREE,WO),ZERO),EPSILON SYMBOL,FRAKTUR (CAPITAL (A,B,C,D,E,F,G,H,I,J,K,L,M,",
    "N,O,P,Q,R,S,T,U,V,W,X,Y,Z),SMALL (A,B,C,D,E,F,G,H,I,J,K,L,M,N,O,P,Q,R,S,T,U,V,W,X,Y,Z)),",
    "ITALIC (CAPITAL (A(,LPHA),B(,ETA),C(,HI),D(,ELTA),E(,PSILON,TA),F,G(,AMMA),H,I(,OTA),J,K(,",
    "APPA),L(,AMDA),M(,U),N(,U),O(,M(EGA,ICRON)),P(,HI,I,SI),Q,R(,HO),S(,IGMA),T(,AU,HETA(",
    ", SYMBOL)),U(,PSILON),V,W,X(,I),Y,Z(,ETA)),EPSILON SYMBOL,KAPPA SYMBOL,NABLA,P(",
    "ARTIAL DIFFERENTIAL,HI SYMBOL,I SYMBOL),RHO SYMBOL,SMALL (A(,LPHA),B(,ETA),C(,HI),D(,ELTA),",
    "E(,PSILON,TA),F(,INAL SIGMA),G(,AMMA),H,I(,OTA),J,K(,APPA),L(,AMDA),M(,U),N(,U),O(,M(EGA,",
    "ICRON)),P(,HI,I,SI),Q,R(,HO),S(,IGMA),T(,AU,HETA),U(,PSILON),V,W,X(,I),Y,Z(,ETA)),",
    "THETA SYMBOL),KAPPA SYMBOL,NABLA,P(ARTIAL DIFFERENTIAL,HI SYMBOL,I SYMBOL),RHO SYMBOL,S(",
    "CRIPT (CAPITAL (A,B,C,D,E,F,G,H,I,J,K,L,M,N,O,P,Q,R,S,T,U,V,W,X,Y,Z),SMALL (A,B,C,D,E,F,G,H,",
    "I,J,K,L,M,N,O,P,Q,R,S,T,U,V,W,X,Y,Z)),MALL (A(,LPHA),B(,ETA),C(,HI),D(,ELTA,IGAMMA),E(,",
    "PSILON,TA),F(,INAL SIGMA),G(,AMMA),H,I(,OTA),J,K(,APPA),L(,AMDA),M(,U),N(,U),O(,M(EGA,",
    "ICRON)),P(,HI,I,SI),Q,R(,HO),S(,IGMA),T(,AU,HETA),U(,PSILON),V,W,X(,I),Y,Z(,ETA))),",
    "THETA SYMBOL),DOUBLE-STRUCK (CAPITAL (A,B,D,E,F,G,I,J,K,L,M,O,S,T,U,V,W,X,Y),DIGIT (EIGHT,F(",
    "IVE,OUR),NINE,ONE,S(EVEN,IX),T(HREE,WO),ZERO),SMALL (A,B,C,D,E,F,G,H,I,J,K,L,M,N,O,P,Q,R,S,",
    "T,U,V,W,X,Y,Z)),F(ALLING DIAGONAL,RAKTUR (CAPITAL (A,B,D,E,F,G,J,K,L,M,N,O,P,Q,S,T,U,V,W,X,",
    "Y),SMALL (A,B,C,D,E,F,G,H,I,J,K,L,M,N,O,P,Q,R,S,T,U,V,W,X,Y,Z))),ITALIC (CAPITAL (A(,LPHA),",
    "B(,ETA),C(,HI),D(,ELTA),E(,PSILON,TA),F,G(,AMMA),H,I(,OTA),J,K(,APPA),L(,AMDA),M(,U),N(,U),",
    "O(,M(EGA,ICRON)),P(,HI,I,SI),Q,R(,HO),S(,IGMA),T(,AU,HETA(, SYMBOL)),U(,PSILON),V,W,X(,I),Y,",
    "Z(,ETA)),EPSILON SYMBOL,KAPPA SYMBOL,NABLA,P(ARTIAL DIFFERENTIAL,HI SYMBOL,I SYMBOL),",
    "RHO SYMBOL,SMALL (A(,LPHA),B(,ETA),C(,HI),D(,ELTA,OTLESS (I,J)),E(,PSILON,TA),F(,",
    "INAL SIGMA),G(,AMMA),I(,OTA),J,K(,APPA),L(,AMDA),M(,U),N(,U),O(,M(EGA,ICRON)),P(,HI,I,SI),Q,",
    "R(,HO),S(,IGMA),T(,AU,HETA),U(,PSILON),V,W,X(,I),Y,Z(,ETA)),THETA SYMBOL),LEFT (",
    "ANGLE BRACKET,DOUBLE ANGLE BRACKET,FLATTENED PARENTHESIS,WHITE (SQUARE BRACKET,",
    "TORTOISE SHELL BRACKET)),MONOSPACE (CAPITAL (A,B,C,D,E,F,G,H,I,J,K,L,M,N,O,P,Q,R,S,T,U,V,W,",
    "X,Y,Z),DIGIT (EIGHT,F(IVE,OUR),NINE,ONE,S(EVEN,IX),T(HREE,WO),ZERO),SMALL (A,B,C,D,E,F,G,H,",
    "I,J,K,L,M,N,O,P,Q,R,S,T,U,V,W,X,Y,Z)),RI(GHT (ANGLE BRACKET,DOUBLE ANGLE BRACKET,",
    "FLATTENED PARENTHESIS,WHITE (SQUARE BRACKET,TORTOISE SHELL BRACKET)),SING DIAGONAL),S(",
    "ANS-SERIF (BOLD (CAPITAL (A(,LPHA),B(,ETA),C(,HI),D(,ELTA),E(,PSILON,TA),F,G(,AMMA),H,I(,",
    "OTA),J,K(,APPA),L(,AMDA),M(,U),N(,U),O(,M(EGA,ICRON)),P(,HI,I,SI),Q,R(,HO),S(,IGMA),T(,AU,",
    "HETA(, SYMBOL)),U(,PSILON),V,W,X(,I),Y,Z(,ETA)),DIGIT (EIGHT,F(IVE,OUR),NINE,ONE,S(EVEN,IX),",
    "T(HREE,WO),ZERO),EPSILON SYMBOL,ITALIC (CAPITAL (A(,LPHA),B(,ETA),C(,HI),D(,ELTA),E(,PSILON,",
    "TA),F,G(,AMMA),H,I(,OTA),J,K(,APPA),L(,AMDA),M(,U),N(,U),O(,M(EGA,ICRON)),P(,HI,I,SI),Q,R(,",
    "HO),S(,IGMA),T(,AU,HETA(, SYMBOL)),U(,PSILON),V,W,X(,I),Y,Z(,ETA)),EPSILON SYMBOL,",
    "KAPPA SYMBOL,NABLA,P(ARTIAL DIFFERENTIAL,HI SYMBOL,I SYMBOL),RHO SYMBOL,SMALL (A(,LPHA),B(,",
    "ETA),C(,HI),D(,ELTA),E(,PSILON,TA),F(,INAL SIGMA),G(,AMMA),H,I(,OTA),J,K(,APPA),L(,AMDA),M(,",
    "U),N(,U),O(,M(EGA,ICRON)),P(,HI,I,SI),Q,R(,HO),S(,IGMA),T(,AU,HETA),U(,PSILON),V,W,X(,I),Y,",
    "Z(,ETA)),THETA SYMBOL),KAPPA SYMBOL,NABLA,P(ARTIAL DIFFERENTIAL,HI SYMBOL,I SYMBOL),",
    "RHO SYMBOL,SMALL (A(,LPHA),B(,ETA),C(,HI),D(,ELTA),E(,PSILON,TA),F(,INAL SIGMA),G(,AMMA),H,",
    "I(,OTA),J,K(,APPA),L(,AMDA),M(,U),N(,U),O(,M(EGA,ICRON)),P(,HI,I,SI),Q,R(,HO),S(,IGMA),T(,",
    "AU,HETA),U(,PSILON),V,W,X(,I),Y,Z(,ETA)),THETA SYMBOL),CAPITAL (A,B,C,D,E,F,G,H,I,J,K,L,M,N,",
    "O,P,Q,R,S,T,U,V,W,X,Y,Z),DIGIT (EIGHT,F(IVE,OUR),NINE,ONE,S(EVEN,IX),T(HREE,WO),ZERO),",
    "ITALIC (CAPITAL (A,B,C,D,E,F,G,H,I,J,K,L,M,N,O,P,Q,R,S,T,U,V,W,X,Y,Z),SMALL (A,B,C,D,E,F,G,",
    "H,I,J,K,L,M,N,O,P,Q,R,S,T,U,V,W,X,Y,Z)),SMALL (A,B,C,D,E,F,G,H,I,J,K,L,M,N,O,P,Q,R,S,T,U,V,",
    "W,X,Y,Z)),CRIPT (CAPITAL (A,C,D,G,J,K,N,O,P,Q,S,T,U,V,W,X,Y,Z),SMALL (A,B,C,D,F,H,I,J,K,L,M,",
    "N,P,Q,R,S,T,U,V,W,X,Y,Z))))),XIMIZE,YAN NUMERAL (E(IGHT(,EEN),LEVEN),F(I(FTEEN,VE),OUR(,",
    "TEEN)),NINE(,TEEN),ONE,S(EVEN(,TEEN),IX(,TEEN)),T(EN,H(IRTEEN,REE),W(ELVE,O)),ZERO)),E(A(",
    "SURED (ANGLE(, (OPENING LEFT,WITH OPEN ARM ENDING IN ARROW POINTING (DOWN AND (LEFT,RIGHT),",
    "LEFT AND (DOWN,UP),RIGHT AND (DOWN,UP),UP AND (LEFT,RIGHT)))),BY,RIGHT ANGLE WITH DOT),",
    "T ON BONE),CHANICAL (ARM,LEG),D(EFAIDRIN (C(APITAL LETTER (A(,I,TIU),B,C,D,E,F,G,H(,P),I,J,",
    "K(,P),L,M,N(,G,Y),O(,E),P,Q,R,S,T,U,V,W,X,Y(,U),Z),OMMA),DIGIT (EIGHT,F(IVE,OUR),NINE,ONE(",
    ", ALTERNATE FORM),S(EVEN,IX),T(HREE(, ALTERNATE FORM),WO(, ALTERNATE FORM)),ZERO),",
    "EXCLAMATION OH,FULL STOP,NUMBER (E(IGHTEEN,LEVEN),F(IFTEEN,OURTEEN),NINETEEN,S(EVENTEEN,",
    "IXTEEN),T(EN,HIRTEEN,WELVE)),S(MALL LETTER (A(,I,TIU),B,C,D,E,F,G,H(,P),I,J,K(,P),L,M,N(,G,",
    "Y),O(,E),P,Q,R,S,T,U,V,W,X,Y(,U),Z),YMBOL AIVA)),I(EVAL (COMMA,EXCLAMATION MARK,",
    "QUESTION MARK),UM (B(LACK CIRCLE,OLD WHITE CIRCLE),EIGHT (POINTED BLACK STAR,",
    "SPOKED ASTERISK),F(IVE SPOKED ASTERISK,LATTENED (LEFT PARENTHESIS ORNAMENT,",
    "RIGHT PARENTHESIS ORNAMENT),OUR POINTED (BLACK STAR,PINWHEEL STAR)),GREEK CROSS,LEFT( (",
    "CURLY BRACKET ORNAMENT,PARENTHESIS ORNAMENT),-POINTING ANGLE BRACKET ORNAMENT),",
    "MATHEMATICAL SPACE,RIGHT( (CURLY BRACKET ORNAMENT,PARENTHESIS ORNAMENT),",
    "-POINTING ANGLE BRACKET ORNAMENT),S(ALTIRE,HADE,IX (POINTED BLACK STAR,SPOKED ASTERISK),",
    "MALL WHITE CIRCLE),THREE POINTED (BLACK STAR,PINWHEEL STAR),VERTICAL BAR,WHITE (CIRCLE,",
    "SQUARE)))),ETEI MAYEK (A(HANG KHUDAM,NJI,PUN IYEK),CHEIKH(AN,EI),DIGIT (EIGHT,F(IVE,OUR),",
    "NINE,ONE,S(EVEN,IX),T(HREE,WO),ZERO),L(ETTER (ATIYA,B(A,HAM),CH(A,IL),D(D(A,HA),HOU,IL),E,G(",
    "HOU,OK),HUK,I(, LONSUM),J(HAM,IL),K(HOU,OK(, LONSUM)),LAI(, LONSUM),MIT(, LONSUM),N(A(",
    ", LONSUM),GOU(, LONSUM),NA,YA),O,P(A(, LONSUM),HAM),RAI,S(AM,HA,SA),T(HOU,IL(, LONSUM),T(A,",
    "HA)),UN,WAI,YANG),UM IYEK),SYLLABLE REPETITION MARK,V(IRAMA,OWEL SIGN (A(A(I,U),NAP,U),",
    "CHEINAP,I(I,NAP),NUNG,ONAP,SOUNAP,U(NAP,U),VISARGA,YENAP)),WORD REPETITION MARK),L(ON,",
    "TING FACE),MO,N(DE KIKAKUI (COMBINING NUMBER (HUNDRED( THOUSANDS,S),MILLIONS,T(E(ENS,",
    "N( THOUSANDS,S)),HOUSANDS)),DIGIT (EIGHT,F(IVE,OUR),NINE,ONE,S(EVEN,IX),T(HREE,WO)),",
    "SYLLABLE M(0(0(1 KI,2 KA,3 KU,4 WI,5 WA,6 WU,7 MIN,8 MAN,9 MUN),1(0 BI,1 BA,2 BU,3 I,4 A,",
    "5 U,6 DI,7 DA,8 DU,9 SI),2(0 SA,1 SU,2 TI,3 TA,4 TU,5 LI,6 LA,7 LU,8 JI,9 JA),3(0 JU,1 YI,",
    "2 YA,3 YU,4 FI,5 FA,6 FU,7 NIN,8 NAN,9 NUN),4(0 HEE,1 HA,2 HOO,3 NGGA,4 KPEE,5 WO,6 HUAN,",
    "7 MBEE,8 KO,9 WVA),5(0 PU,1 PE,2 HEN,3 HIN,4 LOO,5 TE,6 GBA,7 NGON,8 NYAN,9 MEN),6(0 NYON,",
    "1 WVI,2 MBA,3 JO,4 NDO,5 KEE,6 PO,7 NDOO,8 PI,9 TO),7(0 GBO,1 GBOO,2 MBE,3 LE,4 KPU,5 FE,",
    "6 KOO,7 VO,8 FEE,9 SO),8(0 YE,1 PEE,2 NGGU,3 HEEI,4 LEE,5 VE,6 LONG NGGE,7 HUN,8 FO,9 DEE),",
    "9(0 NGGI,1 TEE,2 KPA,3 GBEE,4 MON,5 KE,6 HE,7 BE,8 NYEN,9 PA)),1(0(0 E,1 FAN,2 POO,3 BOO,",
    "4 TOO,5 LONG MBOO,6 LONG NGGOO,7 GBE,8 KPE,9 YEE),1(0 LONG LE,1 GA,2 KPOO,3 JE,4 WOO,",
    "5 NGGEE,6 SE,7 NEN,8 WE,9 NDE),2(0 NGGO,1 YO,2 MBU,3 NDI,4 GBI,5 NDU,6 WEE,7 NGGUA,8 HOOU,",
    "9 NDA),3(0 HAN,1 IN,2 KPI,3 FOO,4 NJOO,5 IN,6 SOO,7 EI,8 BO,9 WVE),4(0 HO,1 YOO,2 LONG MBO,",
    "3 WEI,4 VOO,5 MBI,6 NGGE,7 O,8 GBU,9 NJEE),5(0 BEE,1 VU,2 NJA,3 LO,4 MUAN,5 GI,6 NGGOO,",
    "7 JEE,8 KPO,9 NGGAA),6(0 JOO,1 LONG MBE,2 SEE,3 EE,4 NYIN,5 OO,6 GUEI,7 GUAN,8 GU,9 NON),7(",
    "0 NYUN,1 RA,2 MBOO,3 VEE,4 MBO,5 LONG JO,6 HI,7 NGUAN,8 EN,9 KUA),8(0 DOO,1 DO,2 VI,",
    "3 LONG NGGO,4 NGEN,5 VA,6 HU,7 MBUU,8 MBEE,9 MUEN),9(0 GEE,1 NDEE,2 NJU,3 HON,4 WUI,5 AN,",
    "6 SIA,7 FUA)))),ORAH WITH NINE BRANCHES,S SYMBOL),R(CURY,OITIC (CURSIVE (FRACTION (E(",
    "IGHT TWELFTHS,LEVEN TWELFTHS),F(IVE TWELFTHS,OUR TWELFTHS),NINE TWELFTHS,ONE (HALF,TWELFTH),",
    "S(EVEN TWELFTHS,IX TWELFTHS),T(EN TWELFTHS,HREE TWELFTHS,WO TWELFTHS)),L(ETTER (A(,",
    "RCHAIC SA),BA,DA,E,HHA,I,K(A,HA),LA,MA,N(A,E),O,PA,QA,RA,S(A,E),T(A,E,O),WA,YA),OGOGRAM (",
    "IMN,RMT)),NUMBER (EIGHT(, (HUNDRED(, THOUSAND),THOUSAND),Y THOUSAND),F(I(FTY(, THOUSAND),VE(",
    ", (HUNDRED(, THOUSAND),THOUSAND))),O(RTY(, THOUSAND),UR(, (HUNDRED(, THOUSAND),THOUSAND)))),",
    "NINE(, (HUNDRED(, THOUSAND),THOUSAND),TY THOUSAND),ONE(, (HUNDRED(, THOUSAND),THOUSAND)),S(",
    "EVEN(, (HUNDRED(, THOUSAND),THOUSAND),TY(, THOUSAND)),IX(, (HUNDRED(, THOUSAND),THOUSAND),",
    "TY(, THOUSAND))),T(EN(, THOUSAND),H(IRTY(, THOUSAND),REE(, (HUNDRED(, THOUSAND),THOUSAND))),",
    "W(ENTY(, THOUSAND),O(, (HUNDRED(, THOUSAND),THOUSAND)))))),HIEROGLYPHIC (LETTER (A,BA(,-2),",
    "DA,E,HHA,I,K(A,HA),LA,MA,N(A(,-2),E(,-2)),O,PA,QA,RA(,-2),S(A(,-2),E),T(A(,-2),E(,-2),O),WA,",
    "YA),SYMBOL VIDJ(,-2))),PERSON),SSAGE WAITING,TR(ICAL (BREVE,LONG OVER (SHORT,TWO SHORTS),",
    "PENTASEME,SHORT OVER LONG,T(ETRASEME,RISEME,WO SHORTS (JOINED,OVER LONG))),O)),I(AO (",
    "LETTER (A(H,RCHAIC (MA,N(A,GA),ZZA)),B(A,RI),D(A,DA,LH(A,YA),Z(A,HA,YI,ZA)),FA,G(A,H(A,HA)),",
    "H(A,HA),KA,L(A,H(A,YA),YA),M(A,HA),N(A(,SALIZATION),G(A,HA),HA,N(A,HA),Y(A,HA)),P(A,LA),Q(A,",
    "GA),R(EFORMED T(ONE-(1,2,4,5,6,8),SHA),TE),S(A,HA,SA,YI),T(A,E,LH(A,YA),ONE-(2,3,4,5,6,7,8),",
    "S(A,E,HA,SA),TA),V(A,FA),WA,XA,YI (DZHA,KA,NNA,PA,T(A,S(A,HA),TA)),Z(A,HA,S(A,HA),Z(A,S(A,",
    "YA),YA))),SIGN (ASPIRATION,CONSONANT MODIFIER BAR,REFORMED (ASPIRATION,VOICING)),TONE (",
    "ABOVE,BELOW,RIGHT,TOP RIGHT),VOWEL SIGN (A(,A,E(,E),HH,I,N(,G),U),E(,A,I,N(,G),R(,R)),I(,A(,",
    "N(,G)),E,G,I,NG,O(,NG),U),N(,G),O(,E(R,Y),G,O,U),ROUNDED ER(,R),U(,A(,N(,G)),EI,I,NG,OG,U),",
    "VW,W(,O),Y(,I,UI))),CR( (DASH SYMBOL,ON US SYMBOL),O( SIGN,BE,PHONE,SCOPE)),D(DLE (DOT,",
    "THIRD WHITE RIGHT POINTING INDEX),LINE HORIZONTAL ELLIPSIS),L(ITARY (HELMET,MEDAL),KY WAY,",
    "L SIGN),N(I(BUS,DISC,MIZE),US( (SIGN(, (IN TRIANGLE,WITH (COMMA ABOVE,DOT BELOW,",
    "FALLING DOTS,RISING DOTS))),TILDE),-OR-PLUS SIGN),Y),RROR(, BALL)),MSP,O(BILE PHONE(, (OFF,",
    "WITH RIGHTWARDS ARROW AT LEFT)),D(E(LS,RN PENTATHLON),I( (ABBREVIATION SIGN,D(ANDA,IGIT (",
    "EIGHT,F(IVE,OUR),NINE,ONE,S(EVEN,IX),T(HREE,WO),ZERO),OUBLE DANDA),LETTER (A(,A,I,U),B(A,",
    "HA),C(A,HA),D(A,D(A,HA),HA),E,G(A,HA),HA,I(,I),J(A,HA),K(A,HA),L(A,LA),MA,N(A,GA,NA,YA),O,P(",
    "A,HA),RA,S(A,HA,SA),T(A,HA,T(A,HA)),U(,U),V(A,OCALIC (L(,L),R(,R))),YA),SIGN (A(NUSVARA,",
    "RDHACANDRA),HUVA,VI(RAMA,SARGA)),VOWEL SIGN (A(A,I,U),E,I(,I),O,U(,U),VOCALIC (L(,L),R(,",
    "R)))),FIER (BREVE WITH INVERTED BREVE,LETTER (A(CUTE ACCENT,LVEOLAR CLICK,POSTROPHE),B(",
    "EGIN (HIGH TONE,LOW TONE),ILABIAL CLICK),C(APITAL (A(,E),B(,ARRED B),C,D,E,F,G,H(",
    ", WITH STROKE),I,J,K,L,M,N,O(,U),P,Q,R(,EVERSED (E,N)),T,U,V,W),ENTRED (LEFT HALF RING,",
    "RIGHT HALF RING),HINESE TONE Y(ANG (PING,QU,RU,SHANG),IN (PING,QU,RU,SHANG)),",
    "IRCUMFLEX ACCENT,OLON,ROSS ACCENT,YRILLIC (EN,HARD SIGN,SOFT SIGN)),D(ENTAL CLICK,O(T (",
    "HORIZONTAL BAR,SLASH,VERTICAL BAR),UBLE (APOSTROPHE,PRIME),WN (ARROWHEAD,TACK))),E(ND (",
    "HIGH TONE,LOW TONE),XTRA-(HIGH (DOTTED (LEFT-STEM TONE BAR,TONE BAR),LEFT-STEM TONE BAR,",
    "TONE BAR),LOW (DOTTED (LEFT-STEM TONE BAR,TONE BAR),LEFT-STEM TONE BAR,TONE BAR))),G(",
    "EORGIAN NAR,LOTTAL STOP(, WITH STROKE),RAVE ACCENT),H(ALF TRIANGULAR COLON,IGH (DOTTED (",
    "LEFT-STEM TONE BAR,TONE BAR),LEFT-STEM TONE BAR,TONE BAR)),L(ATERAL CLICK,EFT (ARROWHEAD,",
    "HALF RING,TACK),OW( (ACUTE ACCENT,CIRCUMFLEX ACCENT,DO(TTED (LEFT-STEM TONE BAR,TONE BAR),",
    "WN ARROWHEAD),GRAVE ACCENT,INVERTED EXCLAMATION MARK,LEFT( ARROW(,HEAD),-STEM TONE BAR),",
    "MACRON,RI(GHT ARROWHEAD,NG),T(ILDE,ONE BAR),UP ARROWHEAD,VERTICAL LINE),",
    "ER RIGHT CORNER ANGLE)),M(ACRON,I(D( (DOTTED (LEFT-STEM TONE BAR,TONE BAR),",
    "LEFT-STEM TONE BAR,TONE BAR),DLE (DOUBLE (ACUTE ACCENT,GRAVE ACCENT),GRAVE ACCENT)),",
    "NUS SIGN)),OPEN SHELF,P(LUS SIGN,RIME),R(AISED (COLON,DOWN ARROW,EXCLAMATION MARK,",
    "INVERTED EXCLAMATION MARK,UP ARROW),E(TROFLEX CLICK WITH RETROFLEX HOOK,VERSED (COMMA,",
    "GLOTTAL STOP(, WITH STROKE))),HOTIC HOOK,IGHT (ARROWHEAD,HALF RING,TACK)),S(H(ELF,",
    "ORT EQUALS SIGN),MALL (A(,E,IN,LPHA),B(, WITH HOOK,ARRED O,ETA,OTTOM HALF O),C(, WITH CURL,",
    "APITAL (AA,B,G(, WITH HOOK),H,I(, WITH STROKE,NVERTED R),L(, WITH BELT),N,OE,R,U,Y),HI,",
    "LOSED (OMEGA,REVERSED OPEN E)),D(, WITH (HOOK(, AND TAIL),TAIL),E(LTA,ZH DIGRAPH),",
    "OTLESS J WITH STROKE(, AND HOOK),Z DIGRAPH(, WITH (CURL,RETROFLEX HOOK))),E(,NG,SH,TH,ZH),F(",
    ",ENG DIGRAPH),G(, WITH HOOK,AMMA,REEK (GAMMA,PHI)),H(, WITH (HOOK,STROKE),ENG(, WITH HOOK)),",
    "I( WITH STROKE,OTA),J(, WITH CROSSED-TAIL),K,L(, WITH (BELT,INVERTED LAZY S,MIDDLE TILDE,",
    "PALATAL HOOK,RETROFLEX HOOK(, AND BELT)),EZH(, WITH RETROFLEX HOOK),IGATURE OE,S DIGRAPH,",
    "Z DIGRAPH),M(, WITH HOOK),N WITH (LEFT HOOK,RETROFLEX HOOK),O(, WITH STROKE,PEN (E,O)),P(,",
    "HI),Q,R(, WITH (FISHHOOK,TAIL),AMS HORN,EVERSED (E,GLOTTAL STOP,OPEN E)),S(, WITH (CURL,",
    "HOOK),C(HWA,RIPT G),IDEWAYS U),T(, WITH (PALATAL HOOK,RETROFLEX HOOK),C DIGRAPH WITH CURL,",
    "ESH DIGRAPH,HETA,OP HALF O,S DIGRAPH(, WITH RETROFLEX HOOK),URNED (A(,E,LPHA),H,I,M(",
    ", WITH LONG LEG),OPEN E,R(, WITH (HOOK,LONG LEG(, AND RETROFLEX HOOK))),V,W,Y(",
    ", WITH BELT))),U(, (BAR,WITH LEFT HOOK),PSILON),V(, WITH (HOOK,RIGHT HOOK)),W,X,Y,Z(, WITH (",
    "CURL,RETROFLEX HOOK))),TRESS AND (HIGH TONE,LOW TONE),UPERSCRIPT (HALF TRIANGULAR COLON,",
    "TRIANGULAR COLON)),T(RIANGULAR COLON,URNED COMMA),U(NASPIRATED,P (ARROWHEAD,TACK),S),V(",
    "ERTICAL LINE,OICING),Y(ANG DEPARTING TONE MARK,IN DEPARTING TONE MARK)))),ULO TWO SUM),N(",
    "EY( (BAG,WITH WINGS),-MOUTH FACE),GOLIAN (BIRGA(, WITH (DOUBLE ORNAMENT,ORNAMENT)),CO(LON,",
    "MMA),D(IGIT (EIGHT,F(IVE,OUR),NINE,ONE,S(EVEN,IX),T(HREE,WO),ZERO),",
    "OUBLE BIRGA WITH ORNAMENT),ELLIPSIS,F(OUR DOTS,REE VARIATION SELECTOR (FOUR,ONE,T(HREE,WO)),",
    "ULL STOP),INVERTED BIRGA(, WITH DOUBLE ORNAMENT),LETTER (A(,LI GALI (A(,H,NUSVARA ONE),",
    "BALUDA,CA,D(A(,GALGA,MARU),DA),HALF (U,YA),I(,NVERTED UBADAMA),KA,N(GA,NA),P(A,HA),SSA,T(A,",
    "HREE BALUDA,T(A,HA)),UBADAMA,VISARGA ONE,Z(A,HA)),NG),BA,CH(A(, WITH TWO DOTS),I),DA,E(,E),",
    "FA,GA,HAA,I,JA,K(A,HA),L(A,HA),MA(,NCHU (ALI GALI (BHA,C(A,YA),D(DHA,HA),GHA,JHA,LHA,NGA,",
    "SSA,T(A,TA),Z(A,HA)),FA,I,KA,RA,ZHA)),NA,O(,E),PA,QA,RA,S(A,HA,IBE (ANG,CHA,DA,E,FA,GA(,A),",
    "HA(,A),I(,Y),JA,KA,PA,RAA,SHA,T(A,SA),U(,E),Z(A,HA))),T(A,ODO (A(LI GALI (TA,ZHA),NG),BA,",
    "CHA,D(A,ZA),E,GA(,A),HAA,I,J(A,IA),KA,LONG VOWEL SIGN,MA,NIA,O(,E),PA,QA,T(A,SA),U(,E),WA,",
    "YA),SA),U(,E),WA,YA,Z(A,HI,RA)),MANCHU (COMMA,FULL STOP),NIRUGU,ROTATED BIRGA(, WITH (",
    "DOUBLE ORNAMENT,ORNAMENT)),S(IBE SYLLABLE BOUNDARY MARKER,WIRL BIRGA(, WITH (",
    "DOUBLE ORNAMENT,ORNAMENT))),T(ODO SOFT HYPHEN,RIPLE BIRGA WITH ORNAMENT,",
    "URNED SWIRL BIRGA WITH DOUBLE ORNAMENT),VOWEL SEPARATOR),KEY(, FACE),O(GRAM FOR (EARTH,Y(",
    "ANG,IN)),RAIL,STABLE SYMBOL)),O(D BUBBLE,N (CAKE,VIEWING CEREMONY)),SQU(E,ITO),T(",
    "HER CHRISTMAS,OR( (BOAT,SCOOTER),IZED WHEELCHAIR,WAY)),U(NT( FUJI,AIN(, (BICYCLIST,CABLEWAY,",
    "RAILWAY))),SE(, (FACE,TRAP)),TH),VIE CAMERA,YAI),RO (D(ANDA,IGIT (EIGHT,F(IVE,OUR),NINE,ONE,",
    "S(EVEN,IX),T(HREE,WO),ZERO),OUBLE DANDA),LETTER (A,BA,CHU,DA(,I),E(,A),HA(I,O),K(EAAE,HAI,",
    "O),LA(,N),M(AEM,IM),N(GI,IN),O(,L,O),P(A,HI),R(I,O),SHI,T(A,EK,HEA),WA,YO)),U(CH (",
    "GREATER-THAN,LESS-THAN),LT(ANI (LETTER (A,B(A,HA),C(A,HA),D(A,D(A,DA,HA),HA),E,G(A,HA),HA,I,",
    "J(A,JA),K(A,HA),LA,MA,N(A,NA,YA),P(A,HA),R(A,HA,RA),SA,T(A,HA,T(A,HA)),U,VA,YA),",
    "SECTION MARK),I(MAP,PL(E MUSICAL NOTES,ICATION (SIGN(, (IN (DOUBLE CIRCLE,LEFT HALF CIRCLE,",
    "RIGHT HALF CIRCLE,TRIANGLE),WITH (DOT ABOVE,UNDERBAR))),X)),SET(, (MULTIPLICATION,UNION)))),",
    "S(HROOM,IC( (FLAT SIGN,NATURAL SIGN,SHARP SIGN),AL (KEYBOARD(, WITH JACKS),NOTE,S(CORE,",
    "YMBOL (ARPEGGIATO (DOWN,UP),B(EGIN (BEAM,PHRASE,SLUR,TIE),R(AC(E,KET),E(ATH MARK,V(E,IS(",
    ", REST))))),C( CLEF,AESURA,IRCLE X NOTEHEAD,L(I(MACUS,VIS),USTER NOTEHEAD (BLACK,WHITE)),O(",
    "DA,M(BINING (A(CCENT(,-STACCATO),UGMENTATION DOT),BEND,DO(IT,UBLE TONGUE,WN BOW),FL(AG-(1,2,",
    "3,4,5),IP),HARMONIC,LOURE,MARCATO(,-STACCATO),RIP,S(MEAR,NAP PIZZICATO,PRECHGESANG STEM,T(",
    "ACCAT(ISSIMO,O),EM)),T(ENUTO,R(EMOLO-(1,2,3),IPLE TONGUE)),UP BOW),MON TIME)),R(ESCENDO,",
    "OIX),UT TIME),D(A( CAPO,L SEGNO,MP(, ALL),SHED BARLINE),E(CRESCENDO,GREE SLASH),OUBLE (",
    "BARLINE,FLAT,SHARP),RUM CLEF-(1,2)),E(IGHTH (NOTE,REST),ND (BEAM,OF STIMME,PHRASE,SLUR,",
    "TIE)),F( CLEF(, OTTAVA (ALTA,BASSA)),ERMATA(, BELOW),I(N(AL BARLINE,GERED TREMOLO-(1,2,3)),",
    "VE-LINE STAFF),LAT (DOWN,UP),O(RTE,UR-(LINE STAFF,STRING FRETBOARD)),USA (BLACK,WHITE)),",
    "G( CLEF(, OTTAVA (ALTA,BASSA)),LISSANDO (DOWN,UP),R(ACE NOTE (NO SLASH,SLASH),EGORIAN (",
    "C CLEF,F CLEF))),HA(LF (NOTE,PEDAL MARK,REST),UPTSTIMME),INVERTED TURN,K(IEVAN (C CLEF,E(",
    "IGHTH NOTE STEM (DOWN,UP),ND OF PIECE),F(INAL NOTE,LAT SIGN),HALF NOTE,QUARTER NOTE STEM (",
    "DOWN,UP),RECITATIVE MARK,WHOLE NOTE),ORON),L(EFT REPEAT SIGN,ONGA(, (IMPERFECTA REST,",
    "PERFECTA REST))),M(AXIMA,EZZO,INIMA(, (BLACK,REST)),OON NOTEHEAD (BLACK,WHITE),ULTI( REST,",
    "PLE MEASURE REST)),N(ATURAL (DOWN,UP),EBENSTIMME,OTEHEAD BLACK,ULL NOTEHEAD),O(",
    "NE( HUNDRED TWENTY-EIGHTH (NOTE,REST),-LINE STAFF),RNAMENT STROKE-(1(,0,1),2,3,4,5,6,7,8,9),",
    "TTAVA (ALTA,BASSA)),P(ARENTHESIS NOTEHEAD,E(DAL (MARK,UP MARK),S SUBPUNCTIS),IANO,",
    "LUS NOTEHEAD,O(DATUS,RRECTUS(, FLEXUS))),QU(ARTER (NOTE,REST,TONE (FLAT,SHARP)),INDICESIMA (",
    "ALTA,BASSA)),R(E(PEAT( DOTS,ED FIGURE-(1,2,3)),VERSE FINAL BARLINE),I(GHT REPEAT SIGN,",
    "NFORZANDO)),S(CANDICUS(, FLEXUS),E(GNO,MI(BREVIS (BLACK,REST,WHITE),MINIMA (BLACK,REST,",
    "WHITE))),H(ARP (DOWN,UP),ORT BARLINE),I(NGLE BARLINE,X(-(LINE STAFF,STRING FRETBOARD),T(",
    "EENTH (NOTE,REST),Y-FOURTH (NOTE,REST)))),ORI,QUARE (B,NOTEHEAD (BLACK,WHITE)),UBITO),T(",
    "EMPUS (IMPERFECTUM CUM PROLATIONE (IMPERFECTA(, DIMINUTION-(1,2,3)),PERFECTA),",
    "PERFECTUM CUM PROLATIONE (IMPERFECTA,PERFECTA(, DIMINUTION-1))),H(IRTY-SECOND (NOTE,REST),",
    "REE-LINE STAFF),ORCULUS(, RESUPINUS),R(,IANGLE( NOTEHEAD (DOWN (BLACK,WHITE),LEFT (BLACK,",
    "WHITE),RIGHT (BLACK,WHITE),UP (BLACK,RIGHT (BLACK,WHITE),WHITE)),-ROUND NOTEHEAD DOWN (",
    "BLACK,WHITE))),URN(, (SLASH,UP)),WO-LINE STAFF),V(IRGA,OID NOTEHEAD),W(HOLE (NOTE,REST),",
    "ITH FINGERNAILS),X NOTEHEAD,Z)))))),VS,W,YANMAR (CONSONANT SIGN (M(EDIAL (HA,RA,WA,YA),",
    "ON MEDIAL (LA,MA,NA)),SHAN MEDIAL WA),DIGIT (EIGHT,F(IVE,OUR),NINE,ONE,S(EVEN,IX),T(HREE,",
    "WO),ZERO),L(ETTER (A(,ITON RA,U),B(A,HA),C(A,HA),D(A,D(A,HA),HA),E(,ASTERN PWO KAREN (GHWA,",
    "NNA,YWA)),G(A,HA,REAT SA),HA,I(,I),J(A,HA),K(A,HA(,MTI (C(A,HA),D(D(A,HA),HA),FA,GA,H(A,HA),",
    "J(A,HA),LLA,N(A,YA),RA,SA,TT(A,HA),XA,ZA))),L(A,LA),M(A,ON (BB(A,E),E,JHA,NGA)),N(A,GA,N(A,",
    "YA),YA),O,P(A,HA),R(A,UMAI PALAUNG FA),S(A,GAW KAREN SHA,H(A(,N (A,B(A,HA),C(A,HA),DA,FA,G(",
    "A,HA),HA,JHA,K(A,HA),N(A,NA,YA),PHA,THA,ZA)),WE PALAUNG (CHA,SHA)),SA),T(A(,I LAING (B(A,",
    "HA),D(A,D(A,HA),HA),FA,G(A,HA),J(A,HA),LLA,N(NA,YA))),HA,T(A,HA)),U(,U),VOCALIC (L(,L),R(,",
    "R)),W(A,ESTERN PWO KAREN (PWA,THA)),YA),OGOGRAM KHAMTI (HM,OAY,QN)),MODIFIER LETTER (",
    "KHAMTI REDUPLICATION,SHAN REDUPLICATION),S(HAN DIGIT (EIGHT,F(IVE,OUR),NINE,ONE,S(EVEN,IX),",
    "T(HREE,WO),ZERO),IGN (A(NUSVARA,SAT),DOT BELOW,KHAMTI TONE-(1,3),LITTLE SECTION,",
    "PAO KAREN TONE,RUMAI PALAUNG TONE-5,S(ECTION,HAN (COUNCIL (EMPHATIC TONE,TONE-(2,3)),SAW,",
    "TONE-(2,3,5,6))),TAI LAING TONE-(2,5),VI(RAMA,SARGA),WESTERN PWO KAREN TONE-(1,2,3,4,5)),",
    "YMBOL (A(FOREMENTIONED,ITON (EXCLAMATION,ONE,TWO)),COMPLETED,GENITIVE,LOCATIVE,SHAN (",
    "EXCLAMATION,ONE))),T(AI LAING DIGIT (EIGHT,F(IVE,OUR),NINE,ONE,S(EVEN,IX),T(HREE,WO),ZERO),",
    "ONE MARK SGAW KAREN (HATHI,KE PHO)),VOWEL SIGN (A(A,I(,TON A(,I))),E(, ABOVE),GEBA KAREN I,",
    "I(,I),KAYAH (EE,OE,U),MON (II,O),S(GAW KAREN EU,HAN (AA,E(, ABOVE),FINAL Y)),TALL AA,U(,U),",
    "VOCALIC (L(,L),R(,R)),WESTERN PWO KAREN (EU,UE))))"]

def namesN : List String :=
  ["N(-ARY (C(IRCLED (DOT OPERATOR,PLUS OPERATOR,TIMES OPERATOR),OPRODUCT),INTERSECTION,",
    "LOGICAL (AND,OR),PRODUCT,S(QUARE (INTERSECTION OPERATOR,UNION OPERATOR),UMMATION),",
    "TIMES OPERATOR,UNION(, OPERATOR WITH (DOT,PLUS)),WHITE VERTICAL BAR),A(B(ATAEAN (",
    "CRUCIFORM NUMBER FOUR,LETTER (A(LEPH,YIN),BETH,DALETH,FINAL (ALEPH,BETH,HE,KAPH,LAMEDH,MEM,",
    "NUN,SHIN,YODH),GIMEL,HE(,TH),KAPH,LAMEDH,MEM,NUN,PE,QOPH,RESH,S(A(DHE,MEKH),HIN),T(AW,ETH),",
    "WAW,YODH,ZAYIN),NUMBER (F(IVE,OUR),ONE(, HUNDRED),T(EN,HREE,W(ENTY,O)))),LA),I(L POLISH,",
    "RA SIGN),K,ME BADGE,ND(,INAGARI (HEADSTROKE,LETTER (A(,A,I,U),B(A,HA),C(A,HA),D(A,D(A,HA),",
    "HA),E,G(A,HA),HA,I(,I),J(A,HA),K(A,HA),L(A,LA),MA,N(A,GA,NA,YA),O,P(A,HA),R(A,RA),S(A,HA,",
    "SA),T(A,HA,T(A,HA)),U(,U),V(A,OCALIC R(,R)),YA),SIGN (A(NUSVARA,VAGRAHA),SIDDHAM,VI(RAMA,",
    "SARGA)),VOWEL SIGN (A(A,I,U),E,I(,I),O,PRISHTHAMATRA E,U(,U),VOCALIC R(,R)))),",
    "RROW NO-BREAK SPACE,TIONAL (DIGIT SHAPES,PARK),USEATED FACE,ZAR AMULET),B(H,SP),E(CKTIE,GAT(",
    "ED DOUBLE VERTICAL BAR DOUBLE RIGHT TURNSTILE,IVE (ACKNOWLEDGE,CIRCLED (DIGIT ZERO,",
    "LATIN CAPITAL LETTER (A,B,C,D,E,F,G,H,I,J,K,L,M,N,O,P,Q,R,S,T,U,V,W,X,Y,Z),NUMBER (E(",
    "IGHTEEN,LEVEN),F(IFTEEN,OURTEEN),NINETEEN,S(EVENTEEN,IXTEEN),T(HIRTEEN,WE(LVE,NTY))),SQUARE,",
    "TRIANGLE),DIAGONAL (CROSS,DIAMOND,MIDDLE RIGHT TO LOWER CENTRE),SQUARED (AB,CROSS MARK,IC,",
    "LATIN CAPITAL LETTER (A,B,C,D,E,F,G,H,I,J,K,L,M,N,O,P,Q,R,S,T,U,V,W,X,Y,Z),PA,QUESTION MARK,",
    "SA,WC))),ITHER (A( SU(BSET OF NOR EQUAL TO,PERSET OF NOR EQUAL TO),",
    "PPROXIMATELY NOR ACTUALLY EQUAL TO),GREATER-THAN NOR (EQU(AL TO,IVALENT TO),LESS-THAN),",
    "LESS-THAN NOR (EQU(AL TO,IVALENT TO),GREATER-THAN)),L,PTUNE(, FORM TWO),RD FACE,S(SUS,",
    "T( WITH EGGS,ING DOLLS)),UT(ER,RAL (CHESS (BISHOP(, ROTATED (NINETY DEGREES,",
    "TWO HUNDRED SEVENTY DEGREES)),EQUIHOPPER(, ROTATED NINETY DEGREES),K(ING(, ROTATED (",
    "NINETY DEGREES,TWO HUNDRED SEVENTY DEGREES)),NIGHT(, ROTATED (FORTY-FIVE DEGREES,",
    "NINETY DEGREES,ONE HUNDRED THIRTY-FIVE DEGREES,T(HREE HUNDRED FIFTEEN DEGREES,WO HUNDRED (",
    "SEVENTY DEGREES,TWENTY-FIVE DEGREES))))),PAWN(, ROTATED (NINETY DEGREES,",
    "TWO HUNDRED SEVENTY DEGREES)),QUEEN(, ROTATED (NINETY DEGREES,TWO HUNDRED SEVENTY DEGREES)),",
    "ROOK(, ROTATED (NINETY DEGREES,TWO HUNDRED SEVENTY DEGREES)),TURNED (BISHOP,K(ING,NIGHT),",
    "PAWN,QUEEN,ROOK)),FACE)),W( (LINE,MOON (SYMBOL,WITH FACE),SHEQEL SIGN,TAI LUE (DIGIT (EIGHT,",
    "F(IVE,OUR),NINE,ONE,S(EVEN,IX),T(HREE,WO),ZERO),LETTER (FINAL (B,D,K,M,N(,G),V),HIGH (BA,DA,",
    "FA,HA,K(A,VA),LA,MA,N(A,GA),P(A,HA),QA,S(A,UA),T(A,HA,SA),VA,X(A,VA),YA),LOW (BA,DA,FA,HA,K(",
    "A,VA),LA,MA,N(A,GA),P(A,HA),QA,S(A,UA),T(A,HA,SA),VA,X(A,VA),YA)),SIGN LAE(,V),T(",
    "HAM DIGIT ONE,ONE MARK-(1,2)),VOWEL SIGN (A(A(,Y),E,Y),E,I(I,Y),O(,A(,Y),Y),U(,E(,Y),U,Y),",
    "VOWEL SHORTENER))),A (ABBREVIATION SIGN,COMMA,D(ANDA,IGIT (EIGHT,F(IVE,OUR),NINE,ONE,S(EVEN,",
    "IX),T(HREE,WO),ZERO),OUBLE (COMMA,DANDA)),GAP FILLER,INSERTION SIGN,LETTER (A(,A,I,U),B(A,",
    "HA),C(A,HA),D(A,D(A,HA),HA),E,G(A,HA),HA,I(,I),J(A,HA),K(A,HA),L(A,HA),M(A,HA),N(A,G(A,HA),",
    "HA,NA,Y(A,HA)),O,P(A,HA),R(A,HA),S(A,HA,SA),T(A,HA,T(A,HA)),U(,U),V(EDIC ANUSVARA,OCALIC (L(",
    ",L),R(,R))),WA,YA),OM,PLACEHOLDER MARK,S(ANDHI MARK,I(DDHI,GN (A(NUSVARA,VAGRAHA),",
    "CANDRABINDU,FINAL ANUSVARA,JIHVAMULIYA,NUKTA,UPADHMANIYA,VI(RAMA,SARGA)))),VOWEL SIGN (A(A,",
    "I,U),E,I(,I),O,U(,U),VOCALIC (L(,L),R(,R)))),LINE (LEFT,RIGHT),SPAPER),XT (LINE,PAGE)),I(",
    "GHT WITH STARS,NJA),KO (COM(BINING (DOUBLE DOT ABOVE,LONG (DESCENDING TONE,HIGH TONE,",
    "LOW TONE,RISING TONE),NASALIZATION MARK,SHORT (HIGH TONE,LOW TONE,RISING TONE)),MA),D(",
    "ANTAYALAN,IGIT (EIGHT,F(IVE,OUR),NINE,ONE,S(EVEN,IX),T(HREE,WO),ZERO),OROME SIGN),",
    "EXCLAMATION MARK,HIGH TONE APOSTROPHE,L(AJANYALAN,ETTER (A,BA,CHA,DA(,GBASINNA),E(,E),FA,",
    "GBA,HA,I,J(A,ONA (CHA,JA,RA)),KA,LA,MA,N(,A(, WOLOSO),YA(, WOLOSO)),O(,O),PA,R(A,RA),SA,TA,",
    "U,WA,YA),OW TONE APOSTROPHE),SYMBOL (GBAKURUNEN,OO DENNEN),TAMAN SIGN),L,NBSP,O( (B(ICYCLES,",
    "REAK HERE),ENTRY(, SIGN),MOBILE PHONES,ONE UNDER EIGHTEEN SYMBOL,P(EDESTRIANS,IRACY),",
    "SMOKING SYMBOL),-BREAK SPACE,MI(NAL DIGIT SHAPES,SMA SIGN),N(-(BREAKING HYPHEN,",
    "POTABLE WATER SYMBOL),FORKING),R(,DIC MARK SIGN,MAL SUBGROUP OF(, OR EQUAL TO),TH( (EAST (A(",
    "ND SOUTH WEST ARROW,RROW(, (AND SOUTH EAST ARROW,CROSSING (NORTH WEST ARROW,",
    "SOUTH EAST ARROW),WITH HOOK))),BLACK ARROW,DOUBLE ARROW,POINTING (BUD,LEAF,VINE LEAF),",
    "SANS-SERIF ARROW,TRIANGLE-HEADED ARROW(, TO BAR),WHITE ARROW),INDIC (FRACTION (ONE (EIGHTH,",
    "HALF,QUARTER,SIXTEENTH),THREE (QUARTERS,SIXTEENTHS)),PLACEHOLDER MARK,QUA(NTITY MARK,",
    "RTER MARK),RUPEE MARK),WEST (A(ND SOUTH EAST ARROW,RROW(, (AND NORTH EAST ARROW,",
    "CROSSING NORTH EAST ARROW,TO (CORNER,LONG BAR),WITH HOOK))),BLACK ARROW,DOUBLE ARROW,",
    "POINTING (BUD,LEAF,VINE LEAF),SANS-SERIF ARROW,TRIANGLE-HEADED ARROW(, TO BAR),",
    "WHITE ARROW)),EAST-POINTING AIRPLANE)),SE,T( (A( SU(BSET OF,PERSET OF),LMOST EQUAL TO,",
    "N ELEMENT OF,SYMPTOTICALLY EQUAL TO),CHECK MARK,EQU(AL TO,IVALENT TO),GREATER-THAN,",
    "IDENTICAL TO,LESS-THAN,NORMAL SUBGROUP OF(, OR EQUAL TO),PARALLEL TO,S(IGN,QUARE (",
    "IMAGE OF OR EQUAL TO,ORIGINAL OF OR EQUAL TO)),T(ILDE,RUE)),CHED (L(",
    "EFT SEMICIRCLE WITH THREE DOTS,OWER RIGHT-SHADOWED WHITE RIGHTWARDS ARROW),",
    "RIGHT SEMICIRCLE WITH THREE DOTS,UPPER RIGHT-SHADOWED WHITE RIGHTWARDS ARROW),E(, PA(D,GE),",
    "BOOK(, WITH DECORATIVE COVER)))),U(L(,L),M(BER (E(IGHTEEN FULL STOP,LEVEN FULL STOP),F(",
    "IFTEEN FULL STOP,OURTEEN FULL STOP),NINETEEN FULL STOP,S(EVENTEEN FULL STOP,I(GN,",
    "XTEEN FULL STOP)),T(EN FULL STOP,HIRTEEN FULL STOP,WE(LVE FULL STOP,NTY FULL STOP))),",
    "ERO SIGN),SHU (CHARACTER-1B(1(7(0,1,2,3,4,5,6,7,8,9,A,B,C,D,E,F),8(0,1,2,3,4,5,6,7,8,9,A,B,",
    "C,D,E,F),9(0,1,2,3,4,5,6,7,8,9,A,B,C,D,E,F),A(0,1,2,3,4,5,6,7,8,9,A,B,C,D,E,F),B(0,1,2,3,4,",
    "5,6,7,8,9,A,B,C,D,E,F),C(0,1,2,3,4,5,6,7,8,9,A,B,C,D,E,F),D(0,1,2,3,4,5,6,7,8,9,A,B,C,D,E,",
    "F),E(0,1,2,3,4,5,6,7,8,9,A,B,C,D,E,F),F(0,1,2,3,4,5,6,7,8,9,A,B,C,D,E,F)),2(0(0,1,2,3,4,5,6,",
    "7,8,9,A,B,C,D,E,F),1(0,1,2,3,4,5,6,7,8,9,A,B,C,D,E,F),2(0,1,2,3,4,5,6,7,8,9,A,B,C,D,E,F),3(",
    "0,1,2,3,4,5,6,7,8,9,A,B,C,D,E,F),4(0,1,2,3,4,5,6,7,8,9,A,B,C,D,E,F),5(0,1,2,3,4,5,6,7,8,9,A,",
    "B,C,D,E,F),6(0,1,2,3,4,5,6,7,8,9,A,B,C,D,E,F),7(0,1,2,3,4,5,6,7,8,9,A,B,C,D,E,F),8(0,1,2,3,",
    "4,5,6,7,8,9,A,B,C,D,E,F),9(0,1,2,3,4,5,6,7,8,9,A,B,C,D,E,F),A(0,1,2,3,4,5,6,7,8,9,A,B,C,D,E,",
    "F),B(0,1,2,3,4,5,6,7,8,9,A,B,C,D,E,F),C(0,1,2,3,4,5,6,7,8,9,A,B,C,D,E,F),D(0,1,2,3,4,5,6,7,",
    "8,9,A,B,C,D,E,F),E(0,1,2,3,4,5,6,7,8,9,A,B,C,D,E,F),F(0,1,2,3,4,5,6,7,8,9,A,B))),",
    "ITERATION MARK),T AND BOLT),YIAKENG PUACHUE HMONG (CIRCLED CA,DIGIT (EIGHT,F(IVE,OUR),NINE,",
    "ONE,S(EVEN,IX),T(HREE,WO),ZERO),L(ETTER (A(,A),CA,D(A,LA),E(,E),FA,GA,HA(,H),I,KA,LA,M(A,",
    "LA),N(A,CA,KA,P(A,LA),QA,RA,T(A,SA,XA),YA),O(,O),P(A,LA),QA,R(A,RA),SA,T(A,SA,XA),U,VA,W,X(",
    "A,YA),YA,ZA),OGOGRAM NYAJ),S(IGN (FOR (ANIMAL,INVERTEBRATE,LOCATION,PERSON,THING),XW XW),",
    "YLLABLE LENGTHENER),TONE-(B,D,G,J,M,S,V)))"]

end NameFlow.Text.CharacterName
