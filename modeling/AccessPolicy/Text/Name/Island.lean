import AccessPolicy.Text.Name.Run

namespace AccessPolicy.Text

/-- Mongolian letters, letters of the islands, and phonetic extensions. -/
def islandNames : List NamedRun := [
  ⟨0x1800, "MONGOLIAN ", ["BIRGA,ELLIPSIS,COMMA,FULL STOP,COLON,FOUR DOTS,TODO SOFT HYPHEN",
    "SIBE SYLLABLE BOUNDARY MARKER,MANCHU COMMA,MANCHU FULL STOP,NIRUGU"]⟩,
  ⟨0x180b, "MONGOLIAN FREE VARIATION SELECTOR ", ["ONE,TWO,THREE"]⟩,
  ⟨0x180e, "MONGOLIAN ", ["VOWEL SEPARATOR,FREE VARIATION SELECTOR FOUR"]⟩,
  ⟨0x1810, "MONGOLIAN DIGIT ", ["ZERO,ONE,TWO,THREE,FOUR,FIVE,SIX,SEVEN,EIGHT,NINE"]⟩,
  ⟨0x1820, "MONGOLIAN LETTER ", ["A,E,I,O,U,OE,UE,EE,NA,ANG,BA,PA,QA,GA,MA,LA,SA,SHA,TA,DA,CHA,JA,YA,RA,WA,FA,KA",
    "KHA,TSA,ZA,HAA,ZRA,LHA,ZHI,CHI"]⟩,
  ⟨0x1843, "MONGOLIAN LETTER TODO ", ["LONG VOWEL SIGN,E,I,O,U,OE,UE,ANG,BA,PA,QA,GA,MA,TA,DA,CHA,JA,TSA,YA,WA,KA",
    "GAA,HAA,JIA,NIA,DZA"]⟩,
  ⟨0x185d, "MONGOLIAN LETTER SIBE ", ["E,I,IY,UE,U,ANG,KA,GA,HA,PA,SHA,TA,DA,JA,FA,GAA,HAA,TSA,ZA,RAA,CHA,ZHA"]⟩,
  ⟨0x1873, "MONGOLIAN LETTER ", ["MANCHU I,MANCHU KA,MANCHU RA,MANCHU FA,MANCHU ZHA,CHA WITH TWO DOTS"]⟩,
  ⟨0x1880, "MONGOLIAN LETTER ALI GALI ", ["ANUSVARA ONE,VISARGA ONE,DAMARU,UBADAMA,INVERTED UBADAMA,BALUDA",
    "THREE BALUDA,A,I,KA,NGA,CA,TTA,TTHA,DDA,NNA,TA,DA,PA,PHA,SSA,ZHA,ZA,AH"]⟩,
  ⟨0x1898, "MONGOLIAN LETTER TODO ALI GALI ", ["TA,ZHA"]⟩,
  ⟨0x189a, "MONGOLIAN LETTER MANCHU ALI GALI ", ["GHA,NGA,CA,JHA,TTA,DDHA,TA,DHA,SSA,CYA,ZHA,ZA"]⟩,
  ⟨0x18a6, "MONGOLIAN LETTER ", ["ALI GALI HALF U,ALI GALI HALF YA,MANCHU ALI GALI BHA,ALI GALI DAGALGA",
    "MANCHU ALI GALI LHA"]⟩,
  ⟨0x18b0, "CANADIAN SYLLABICS ", ["OY,AY,AAY,WAY,POY,PAY,PWOY,TAY,KAY,KWAY,MAY,NOY,NAY,LAY,SOY,SAY,SHOY,SHAY,SHWOY",
    "YOY,YAY,RAY,NWI,OJIBWAY NWI,NWII,OJIBWAY NWII,NWO,OJIBWAY NWO,NWOO,OJIBWAY NWOO,RWEE,RWI,RWII,RWO,RWOO,RWA",
    "OJIBWAY P,OJIBWAY T,OJIBWAY K,OJIBWAY C,OJIBWAY M,OJIBWAY N,OJIBWAY S,OJIBWAY SH,EASTERN W,WESTERN W",
    "FINAL SMALL RING,FINAL RAISED DOT,R-CREE RWE,WEST-CREE LOO,WEST-CREE LAA,THWE,THWA,TTHWE,TTHOO,TTHAA,TLHWE",
    "TLHOO,SAYISI SHWE,SAYISI SHOO,SAYISI HOO,CARRIER GWU,CARRIER DENE GEE,CARRIER GAA,CARRIER GWA,SAYISI JUU",
    "CARRIER JWA,BEAVER DENE L,BEAVER DENE R,CARRIER DENTAL S"]⟩,
  ⟨0x1900, "LIMBU VOWEL-CARRIER ", ["LETTER"]⟩,
  ⟨0x1901, "LIMBU LETTER ", ["KA,KHA,GA,GHA,NGA,CA,CHA,JA,JHA,YAN,TA,THA,DA,DHA,NA,PA,PHA,BA,BHA,MA,YA,RA,LA,WA,SHA",
    "SSA,SA,HA,GYAN,TRA"]⟩,
  ⟨0x1920, "LIMBU VOWEL SIGN ", ["A,I,U,EE,AI,OO,AU,E,O"]⟩, ⟨0x1929, "LIMBU SUBJOINED LETTER ", ["YA,RA,WA"]⟩,
  ⟨0x1930, "LIMBU SMALL LETTER ", ["KA,NGA,ANUSVARA,TA,NA,PA,MA,RA,LA"]⟩,
  ⟨0x1939, "LIMBU SIGN ", ["MUKPHRENG,KEMPHRENG,SA-I"]⟩, ⟨0x1940, "LIMBU SIGN ", ["LOO"]⟩,
  ⟨0x1944, "LIMBU ", ["EXCLAMATION MARK,QUESTION MARK"]⟩,
  ⟨0x1946, "LIMBU DIGIT ", ["ZERO,ONE,TWO,THREE,FOUR,FIVE,SIX,SEVEN,EIGHT,NINE"]⟩,
  ⟨0x1950, "TAI LE LETTER ", ["KA,XA,NGA,TSA,SA,YA,TA,THA,LA,PA,PHA,MA,FA,VA,HA,QA,KHA,TSHA,NA,A,I,EE,EH,U,OO,O,UE",
    "E,AUE,AI"]⟩,
  ⟨0x1970, "TAI LE LETTER TONE-", ["2,3,4,5,6"]⟩,
  ⟨0x1980, "NEW TAI LUE LETTER ", ["HIGH QA,LOW QA,HIGH KA,HIGH XA,HIGH NGA,LOW KA,LOW XA,LOW NGA,HIGH TSA,HIGH SA",
    "HIGH YA,LOW TSA,LOW SA,LOW YA,HIGH TA,HIGH THA,HIGH NA,LOW TA,LOW THA,LOW NA,HIGH PA,HIGH PHA,HIGH MA,LOW PA",
    "LOW PHA,LOW MA,HIGH FA,HIGH VA,HIGH LA,LOW FA,LOW VA,LOW LA,HIGH HA,HIGH DA,HIGH BA,LOW HA,LOW DA,LOW BA",
    "HIGH KVA,HIGH XVA,LOW KVA,LOW XVA,HIGH SUA,LOW SUA"]⟩,
  ⟨0x19b0, "NEW TAI LUE VOWEL SIGN ", ["VOWEL SHORTENER,AA,II,U,UU,E,AE,O,OA,UE,AY,AAY,UY,OY,OAY,UEY,IY"]⟩,
  ⟨0x19c1, "NEW TAI LUE LETTER FINAL ", ["V,NG,N,M,K,D,B"]⟩, ⟨0x19c8, "NEW TAI LUE TONE MARK-", ["1,2"]⟩,
  ⟨0x19d0, "NEW TAI LUE DIGIT ", ["ZERO,ONE,TWO,THREE,FOUR,FIVE,SIX,SEVEN,EIGHT,NINE"]⟩,
  ⟨0x19da, "NEW TAI LUE THAM DIGIT ", ["ONE"]⟩, ⟨0x19de, "NEW TAI LUE SIGN ", ["LAE,LAEV"]⟩,
  ⟨0x19e0, "KHMER SYMBOL ", ["PATHAMASAT,MUOY KOET,PII KOET,BEI KOET,BUON KOET,PRAM KOET,PRAM-MUOY KOET",
    "PRAM-PII KOET,PRAM-BEI KOET,PRAM-BUON KOET,DAP KOET,DAP-MUOY KOET,DAP-PII KOET,DAP-BEI KOET,DAP-BUON KOET",
    "DAP-PRAM KOET,TUTEYASAT,MUOY ROC,PII ROC,BEI ROC,BUON ROC,PRAM ROC,PRAM-MUOY ROC,PRAM-PII ROC,PRAM-BEI ROC",
    "PRAM-BUON ROC,DAP ROC,DAP-MUOY ROC,DAP-PII ROC,DAP-BEI ROC,DAP-BUON ROC,DAP-PRAM ROC"]⟩,
  ⟨0x1a00, "BUGINESE LETTER ", ["KA,GA,NGA,NGKA,PA,BA,MA,MPA,TA,DA,NA,NRA,CA,JA,NYA,NYCA,YA,RA,LA,VA,SA,A,HA"]⟩,
  ⟨0x1a17, "BUGINESE VOWEL SIGN ", ["I,U,E,O,AE"]⟩, ⟨0x1a1e, "BUGINESE ", ["PALLAWA,END OF SECTION"]⟩,
  ⟨0x1a20, "TAI THAM LETTER ", ["HIGH KA,HIGH KHA,HIGH KXA,LOW KA,LOW KXA,LOW KHA,NGA,HIGH CA,HIGH CHA,LOW CA",
    "LOW SA,LOW CHA,NYA,RATA,HIGH RATHA,DA,LOW RATHA,RANA,HIGH TA,HIGH THA,LOW TA,LOW THA,NA,BA,HIGH PA,HIGH PHA",
    "HIGH FA,LOW PA,LOW FA,LOW PHA,MA,LOW YA,HIGH YA,RA,RUE,LA,LUE,WA,HIGH SHA,HIGH SSA,HIGH SA,HIGH HA,LLA,A",
    "LOW HA,I,II,U,UU,EE,OO,LAE,GREAT SA"]⟩,
  ⟨0x1a55, "TAI THAM CONSONANT SIGN ", ["MEDIAL RA,MEDIAL LA,LA TANG LAI"]⟩,
  ⟨0x1a58, "TAI THAM SIGN MAI KANG ", ["LAI"]⟩,
  ⟨0x1a59, "TAI THAM CONSONANT SIGN ", ["FINAL NGA,LOW PA,HIGH RATHA OR LOW PA,MA,BA,SA"]⟩,
  ⟨0x1a60, "TAI THAM SIGN ", ["SAKOT"]⟩,
  ⟨0x1a61, "TAI THAM VOWEL SIGN ", ["A,MAI SAT,AA,TALL AA,I,II,UE,UUE,U,UU,O,OA BELOW,OY,E,AE,OO,AI,THAM AI",
    "OA ABOVE"]⟩,
  ⟨0x1a74, "TAI THAM SIGN ", ["MAI KANG,TONE-1,TONE-2,KHUEN TONE-3,KHUEN TONE-4,KHUEN TONE-5,RA HAAM,MAI SAM",
    "KHUEN-LUE KARAN"]⟩,
  ⟨0x1a7f, "TAI THAM COMBINING CRYPTOGRAMMIC ", ["DOT"]⟩,
  ⟨0x1a80, "TAI THAM HORA DIGIT ", ["ZERO,ONE,TWO,THREE,FOUR,FIVE,SIX,SEVEN,EIGHT,NINE"]⟩,
  ⟨0x1a90, "TAI THAM THAM DIGIT ", ["ZERO,ONE,TWO,THREE,FOUR,FIVE,SIX,SEVEN,EIGHT,NINE"]⟩,
  ⟨0x1aa0, "TAI THAM SIGN ", ["WIANG,WIANGWAAK,SAWAN,KEOW,HOY,DOKMAI,REVERSED ROTATED RANA,MAI YAMOK,KAAN,KAANKUU",
    "SATKAAN,SATKAANKUU,HANG,CAANG"]⟩,
  ⟨0x1ab0, "COMBINING ", ["DOUBLED CIRCUMFLEX ACCENT,DIAERESIS-RING,INFINITY,DOWNWARDS ARROW,TRIPLE DOT,X-X BELOW",
    "WIGGLY LINE BELOW,OPEN MARK BELOW,DOUBLE OPEN MARK BELOW,LIGHT CENTRALIZATION STROKE BELOW",
    "STRONG CENTRALIZATION STROKE BELOW,PARENTHESES ABOVE,DOUBLE PARENTHESES ABOVE,PARENTHESES BELOW",
    "PARENTHESES OVERLAY,LATIN SMALL LETTER W BELOW,LATIN SMALL LETTER TURNED W BELOW,LEFT PARENTHESIS ABOVE LEFT",
    "RIGHT PARENTHESIS ABOVE RIGHT,LEFT PARENTHESIS BELOW LEFT,RIGHT PARENTHESIS BELOW RIGHT,SQUARE BRACKETS ABOVE",
    "NUMBER SIGN ABOVE,INVERTED DOUBLE ARCH ABOVE,PLUS SIGN ABOVE,DOUBLE PLUS SIGN ABOVE,DOUBLE PLUS SIGN BELOW",
    "TRIPLE ACUTE ACCENT"]⟩,
  ⟨0x1acc, "COMBINING LATIN SMALL LETTER INSULAR ", ["G,R,T"]⟩,
  ⟨0x1b00, "BALINESE SIGN ", ["ULU RICEM,ULU CANDRA,CECEK,SURANG,BISAH"]⟩,
  ⟨0x1b05, "BALINESE LETTER ", ["AKARA,AKARA TEDUNG,IKARA,IKARA TEDUNG,UKARA,UKARA TEDUNG,RA REPA,RA REPA TEDUNG",
    "LA LENGA,LA LENGA TEDUNG,EKARA,AIKARA,OKARA,OKARA TEDUNG,KA,KA MAHAPRANA,GA,GA GORA,NGA,CA,CA LACA,JA,JA JERA",
    "NYA,TA LATIK,TA MURDA MAHAPRANA,DA MURDA ALPAPRANA,DA MURDA MAHAPRANA,NA RAMBAT,TA,TA TAWA,DA,DA MADU,NA,PA",
    "PA KAPAL,BA,BA KEMBANG,MA,YA,RA,LA,WA,SA SAGA,SA SAPA,SA,HA"]⟩,
  ⟨0x1b34, "BALINESE SIGN ", ["REREKAN"]⟩,
  ⟨0x1b35, "BALINESE VOWEL SIGN ", ["TEDUNG,ULU,ULU SARI,SUKU,SUKU ILUT,RA REPA,RA REPA TEDUNG,LA LENGA",
    "LA LENGA TEDUNG,TALING,TALING REPA,TALING TEDUNG,TALING REPA TEDUNG,PEPET,PEPET TEDUNG"]⟩,
  ⟨0x1b44, "BALINESE ADEG ", ["ADEG"]⟩,
  ⟨0x1b45, "BALINESE LETTER ", ["KAF SASAK,KHOT SASAK,TZIR SASAK,EF SASAK,VE SASAK,ZAL SASAK,ASYURA SASAK",
    "ARCHAIC JNYA"]⟩,
  ⟨0x1b50, "BALINESE DIGIT ", ["ZERO,ONE,TWO,THREE,FOUR,FIVE,SIX,SEVEN,EIGHT,NINE"]⟩,
  ⟨0x1b5a, "BALINESE ", ["PANTI,PAMADA,WINDU,CARIK PAMUNGKAH,CARIK SIKI,CARIK PAREREN,PAMENENG"]⟩,
  ⟨0x1b61, "BALINESE MUSICAL SYMBOL ", ["DONG,DENG,DUNG,DANG,DANG SURANG,DING,DAENG,DEUNG,DAING,DANG GEDE"]⟩,
  ⟨0x1b6b, "BALINESE MUSICAL SYMBOL COMBINING ", ["TEGEH,ENDEP,KEMPUL,KEMPLI,JEGOGAN,KEMPUL WITH JEGOGAN",
    "KEMPLI WITH JEGOGAN,BENDE,GONG"]⟩,
  ⟨0x1b74, "BALINESE MUSICAL SYMBOL RIGHT-HAND ", ["OPEN DUG,OPEN DAG,CLOSED TUK,CLOSED TAK"]⟩,
  ⟨0x1b78, "BALINESE MUSICAL SYMBOL LEFT-HAND ", ["OPEN PANG,OPEN PUNG,CLOSED PLAK,CLOSED PLUK,OPEN PING"]⟩,
  ⟨0x1b7d, "BALINESE ", ["PANTI LANTANG,PAMADA LANTANG"]⟩,
  ⟨0x1b80, "SUNDANESE SIGN ", ["PANYECEK,PANGLAYAR,PANGWISAD"]⟩,
  ⟨0x1b83, "SUNDANESE LETTER ", ["A,I,U,AE,O,E,EU,KA,QA,GA,NGA,CA,JA,ZA,NYA,TA,DA,NA,PA,FA,VA,BA,MA,YA,RA,LA,WA,SA",
    "XA,HA"]⟩,
  ⟨0x1ba1, "SUNDANESE CONSONANT SIGN ", ["PAMINGKAL,PANYAKRA,PANYIKU"]⟩,
  ⟨0x1ba4, "SUNDANESE VOWEL SIGN ", ["PANGHULU,PANYUKU,PANAELAENG,PANOLONG,PAMEPET,PANEULEUNG"]⟩,
  ⟨0x1baa, "SUNDANESE ", ["SIGN PAMAAEH,SIGN VIRAMA,CONSONANT SIGN PASANGAN MA,CONSONANT SIGN PASANGAN WA",
    "LETTER KHA,LETTER SYA"]⟩,
  ⟨0x1bb0, "SUNDANESE DIGIT ", ["ZERO,ONE,TWO,THREE,FOUR,FIVE,SIX,SEVEN,EIGHT,NINE"]⟩,
  ⟨0x1bba, "SUNDANESE ", ["AVAGRAHA"]⟩, ⟨0x1bbb, "SUNDANESE LETTER ", ["REU,LEU,BHA,FINAL K,FINAL M"]⟩,
  ⟨0x1bc0, "BATAK LETTER ", ["A,SIMALUNGUN A,HA,SIMALUNGUN HA,MANDAILING HA,BA,KARO BA,PA,SIMALUNGUN PA,NA",
    "MANDAILING NA,WA,SIMALUNGUN WA,PAKPAK WA,GA,SIMALUNGUN GA,JA,DA,RA,SIMALUNGUN RA,MA,SIMALUNGUN MA,SOUTHERN TA",
    "NORTHERN TA,SA,SIMALUNGUN SA,MANDAILING SA,YA,SIMALUNGUN YA,NGA,LA,SIMALUNGUN LA,NYA,CA,NDA,MBA,I,U"]⟩,
  ⟨0x1be6, "BATAK SIGN ", ["TOMPI"]⟩,
  ⟨0x1be7, "BATAK VOWEL SIGN ", ["E,PAKPAK E,EE,I,KARO I,O,KARO O,U,U FOR SIMALUNGUN SA"]⟩,
  ⟨0x1bf0, "BATAK ", ["CONSONANT SIGN NG,CONSONANT SIGN H,PANGOLAT,PANONGONAN"]⟩,
  ⟨0x1bfc, "BATAK SYMBOL BINDU ", ["NA METEK,PINARBORAS,JUDUL,PANGOLAT"]⟩,
  ⟨0x1c00, "LEPCHA LETTER ", ["KA,KLA,KHA,GA,GLA,NGA,CA,CHA,JA,NYA,TA,THA,DA,NA,PA,PLA,PHA,FA,FLA,BA,BLA,MA,MLA,TSA",
    "TSHA,DZA,YA,RA,LA,HA,HLA,VA,SA,SHA,WA,A"]⟩,
  ⟨0x1c24, "LEPCHA SUBJOINED LETTER ", ["YA,RA"]⟩, ⟨0x1c26, "LEPCHA VOWEL SIGN ", ["AA,I,O,OO,U,UU,E"]⟩,
  ⟨0x1c2d, "LEPCHA CONSONANT SIGN ", ["K,M,L,N,P,R,T,NYIN-DO,KANG"]⟩, ⟨0x1c36, "LEPCHA SIGN ", ["RAN,NUKTA"]⟩,
  ⟨0x1c3b, "LEPCHA PUNCTUATION ", ["TA-ROL,NYET THYOOM TA-ROL,CER-WA,TSHOOK CER-WA,TSHOOK"]⟩,
  ⟨0x1c40, "LEPCHA DIGIT ", ["ZERO,ONE,TWO,THREE,FOUR,FIVE,SIX,SEVEN,EIGHT,NINE"]⟩,
  ⟨0x1c4d, "LEPCHA LETTER ", ["TTA,TTHA,DDA"]⟩,
  ⟨0x1c50, "OL CHIKI DIGIT ", ["ZERO,ONE,TWO,THREE,FOUR,FIVE,SIX,SEVEN,EIGHT,NINE"]⟩,
  ⟨0x1c5a, "OL CHIKI LETTER ", ["LA,AT,AG,ANG,AL,LAA,AAK,AAJ,AAM,AAW,LI,IS,IH,INY,IR,LU,UC,UD,UNN,UY,LE,EP,EDD,EN",
    "ERR,LO,OTT,OB,OV,OH"]⟩,
  ⟨0x1c78, "OL CHIKI ", ["MU TTUDDAG,GAAHLAA TTUDDAAG,MU-GAAHLAA TTUDDAAG,RELAA,PHAARKAA,AHAD,PUNCTUATION MUCAAD",
    "PUNCTUATION DOUBLE MUCAAD"]⟩,
  ⟨0x1c80, "CYRILLIC SMALL LETTER ", ["ROUNDED VE,LONG-LEGGED DE,NARROW O,WIDE ES,TALL TE,THREE-LEGGED TE",
    "TALL HARD SIGN,TALL YAT,UNBLENDED UK"]⟩,
  ⟨0x1c90, "GEORGIAN MTAVRULI CAPITAL LETTER ", ["AN,BAN,GAN,DON,EN,VIN,ZEN,TAN,IN,KAN,LAS,MAN,NAR,ON,PAR,ZHAR,RAE",
    "SAN,TAR,UN,PHAR,KHAR,GHAN,QAR,SHIN,CHIN,CAN,JIL,CIL,CHAR,XAN,JHAN,HAE,HE,HIE,WE,HAR,HOE,FI,YN,ELIFI,TURNED GAN",
    "AIN"]⟩,
  ⟨0x1cbd, "GEORGIAN MTAVRULI CAPITAL LETTER ", ["AEN,HARD SIGN,LABIAL SIGN"]⟩,
  ⟨0x1cc0, "SUNDANESE PUNCTUATION BINDU ", ["SURYA,PANGLONG,PURNAMA,CAKRA,LEU SATANGA,KA SATANGA,DA SATANGA",
    "BA SATANGA"]⟩,
  ⟨0x1cd0, "VEDIC ", ["TONE KARSHANA,TONE SHARA,TONE PRENKHA,SIGN NIHSHVASA,SIGN YAJURVEDIC MIDLINE SVARITA"]⟩,
  ⟨0x1cd5, "VEDIC TONE ", ["YAJURVEDIC AGGRAVATED INDEPENDENT SVARITA,YAJURVEDIC INDEPENDENT SVARITA",
    "YAJURVEDIC KATHAKA INDEPENDENT SVARITA,CANDRA BELOW,YAJURVEDIC KATHAKA INDEPENDENT SVARITA SCHROEDER",
    "DOUBLE SVARITA,TRIPLE SVARITA,KATHAKA ANUDATTA,DOT BELOW,TWO DOTS BELOW,THREE DOTS BELOW",
    "RIGVEDIC KASHMIRI INDEPENDENT SVARITA,ATHARVAVEDIC INDEPENDENT SVARITA"]⟩,
  ⟨0x1ce2, "VEDIC SIGN ", ["VISARGA SVARITA,VISARGA UDATTA,REVERSED VISARGA UDATTA,VISARGA ANUDATTA",
    "REVERSED VISARGA ANUDATTA,VISARGA UDATTA WITH TAIL,VISARGA ANUDATTA WITH TAIL,ANUSVARA ANTARGOMUKHA",
    "ANUSVARA BAHIRGOMUKHA,ANUSVARA VAMAGOMUKHA,ANUSVARA VAMAGOMUKHA WITH TAIL,TIRYAK,HEXIFORM LONG ANUSVARA",
    "LONG ANUSVARA,RTHANG LONG ANUSVARA,ANUSVARA UBHAYATO MUKHA,ARDHAVISARGA,ROTATED ARDHAVISARGA"]⟩,
  ⟨0x1cf4, "VEDIC ", ["TONE CANDRA ABOVE,SIGN JIHVAMULIYA,SIGN UPADHMANIYA,SIGN ATIKRAMA,TONE RING ABOVE",
    "TONE DOUBLE RING ABOVE,SIGN DOUBLE ANUSVARA ANTARGOMUKHA"]⟩,
  ⟨0x1d00, "LATIN LETTER SMALL CAPITAL ", ["A,AE"]⟩, ⟨0x1d02, "LATIN SMALL LETTER TURNED ", ["AE"]⟩,
  ⟨0x1d03, "LATIN LETTER SMALL CAPITAL ", ["BARRED B,C,D,ETH,E"]⟩,
  ⟨0x1d08, "LATIN SMALL LETTER TURNED ", ["OPEN E,I"]⟩,
  ⟨0x1d0a, "LATIN LETTER SMALL CAPITAL ", ["J,K,L WITH STROKE,M,REVERSED N,O,OPEN O"]⟩,
  ⟨0x1d11, "LATIN SMALL LETTER SIDEWAYS ", ["O,OPEN O,O WITH STROKE"]⟩,
  ⟨0x1d14, "LATIN ", ["SMALL LETTER TURNED OE,LETTER SMALL CAPITAL OU,SMALL LETTER TOP HALF O",
    "SMALL LETTER BOTTOM HALF O"]⟩,
  ⟨0x1d18, "LATIN LETTER SMALL CAPITAL ", ["P,REVERSED R,TURNED R,T,U"]⟩,
  ⟨0x1d1d, "LATIN SMALL LETTER SIDEWAYS ", ["U,DIAERESIZED U,TURNED M"]⟩,
  ⟨0x1d20, "LATIN LETTER SMALL CAPITAL ", ["V,W,Z,EZH"]⟩, ⟨0x1d24, "LATIN LETTER ", ["VOICED LARYNGEAL SPIRANT,AIN"]⟩,
  ⟨0x1d26, "GREEK LETTER SMALL CAPITAL ", ["GAMMA,LAMDA,PI,RHO,PSI"]⟩,
  ⟨0x1d2b, "CYRILLIC LETTER SMALL CAPITAL ", ["EL"]⟩,
  ⟨0x1d2c, "MODIFIER LETTER CAPITAL ", ["A,AE,B,BARRED B,D,E,REVERSED E,G,H,I,J,K,L,M,N,REVERSED N,O,OU,P,R,T,U,W"]⟩,
  ⟨0x1d43, "MODIFIER LETTER SMALL ", ["A,TURNED A,ALPHA,TURNED AE,B,D,E,SCHWA,OPEN E,TURNED OPEN E,G,TURNED I,K,M",
    "ENG,O,OPEN O,TOP HALF O,BOTTOM HALF O,P,T,U,SIDEWAYS U,TURNED M,V,AIN,BETA,GREEK GAMMA,DELTA,GREEK PHI,CHI"]⟩,
  ⟨0x1d62, "LATIN SUBSCRIPT SMALL LETTER ", ["I,R,U,V"]⟩,
  ⟨0x1d66, "GREEK SUBSCRIPT SMALL LETTER ", ["BETA,GAMMA,RHO,PHI,CHI"]⟩,
  ⟨0x1d6b, "LATIN SMALL LETTER ", ["UE,B WITH MIDDLE TILDE,D WITH MIDDLE TILDE,F WITH MIDDLE TILDE",
    "M WITH MIDDLE TILDE,N WITH MIDDLE TILDE,P WITH MIDDLE TILDE,R WITH MIDDLE TILDE",
    "R WITH FISHHOOK AND MIDDLE TILDE,S WITH MIDDLE TILDE,T WITH MIDDLE TILDE,Z WITH MIDDLE TILDE,TURNED G"]⟩,
  ⟨0x1d78, "MODIFIER LETTER CYRILLIC ", ["EN"]⟩,
  ⟨0x1d79, "LATIN SMALL ", ["LETTER INSULAR G,LETTER TH WITH STRIKETHROUGH,CAPITAL LETTER I WITH STROKE",
    "LETTER IOTA WITH STROKE,LETTER P WITH STROKE,CAPITAL LETTER U WITH STROKE"]⟩,
  ⟨0x1d7f, "LATIN SMALL LETTER ", ["UPSILON WITH STROKE,B WITH PALATAL HOOK,D WITH PALATAL HOOK,F WITH PALATAL HOOK",
    "G WITH PALATAL HOOK,K WITH PALATAL HOOK,L WITH PALATAL HOOK,M WITH PALATAL HOOK,N WITH PALATAL HOOK",
    "P WITH PALATAL HOOK,R WITH PALATAL HOOK,S WITH PALATAL HOOK,ESH WITH PALATAL HOOK,V WITH PALATAL HOOK",
    "X WITH PALATAL HOOK,Z WITH PALATAL HOOK,A WITH RETROFLEX HOOK,ALPHA WITH RETROFLEX HOOK,D WITH HOOK AND TAIL",
    "E WITH RETROFLEX HOOK,OPEN E WITH RETROFLEX HOOK,REVERSED OPEN E WITH RETROFLEX HOOK,SCHWA WITH RETROFLEX HOOK",
    "I WITH RETROFLEX HOOK,OPEN O WITH RETROFLEX HOOK,ESH WITH RETROFLEX HOOK,U WITH RETROFLEX HOOK",
    "EZH WITH RETROFLEX HOOK"]⟩,
  ⟨0x1d9b, "MODIFIER LETTER SMALL ", ["TURNED ALPHA,C,C WITH CURL,ETH,REVERSED OPEN E,F,DOTLESS J WITH STROKE",
    "SCRIPT G,TURNED H,I WITH STROKE,IOTA,CAPITAL I,CAPITAL I WITH STROKE,J WITH CROSSED-TAIL,L WITH RETROFLEX HOOK",
    "L WITH PALATAL HOOK,CAPITAL L,M WITH HOOK,TURNED M WITH LONG LEG,N WITH LEFT HOOK,N WITH RETROFLEX HOOK",
    "CAPITAL N,BARRED O,PHI,S WITH HOOK,ESH,T WITH PALATAL HOOK,U BAR,UPSILON,CAPITAL U,V WITH HOOK,TURNED V,Z",
    "Z WITH RETROFLEX HOOK,Z WITH CURL,EZH,THETA"]⟩,
  ⟨0x1dc0, "COMBINING ", ["DOTTED GRAVE ACCENT,DOTTED ACUTE ACCENT,SNAKE BELOW,SUSPENSION MARK,MACRON-ACUTE",
    "GRAVE-MACRON,MACRON-GRAVE,ACUTE-MACRON,GRAVE-ACUTE-GRAVE,ACUTE-GRAVE-ACUTE,LATIN SMALL LETTER R BELOW",
    "BREVE-MACRON,MACRON-BREVE,DOUBLE CIRCUMFLEX ABOVE,OGONEK ABOVE,ZIGZAG BELOW,IS BELOW,UR ABOVE,US ABOVE"]⟩,
  ⟨0x1dd3, "COMBINING LATIN SMALL LETTER ", ["FLATTENED OPEN A ABOVE,AE,AO,AV,C CEDILLA,INSULAR D,ETH,G"]⟩,
  ⟨0x1ddb, "COMBINING LATIN ", ["LETTER SMALL CAPITAL G,SMALL LETTER K,SMALL LETTER L,LETTER SMALL CAPITAL L",
    "LETTER SMALL CAPITAL M,SMALL LETTER N,LETTER SMALL CAPITAL N,LETTER SMALL CAPITAL R"]⟩,
  ⟨0x1de3, "COMBINING LATIN SMALL LETTER ", ["R ROTUNDA,S,LONG S,Z,ALPHA,B,BETA,SCHWA,F,L WITH DOUBLE MIDDLE TILDE",
    "O WITH LIGHT CENTRALIZATION STROKE,P,ESH,U WITH LIGHT CENTRALIZATION STROKE,W,A WITH DIAERESIS",
    "O WITH DIAERESIS,U WITH DIAERESIS"]⟩,
  ⟨0x1df5, "COMBINING ", ["UP TACK ABOVE,KAVYKA ABOVE RIGHT,KAVYKA ABOVE LEFT,DOT ABOVE LEFT",
    "WIDE INVERTED BRIDGE BELOW,DOT BELOW LEFT,DELETION MARK,DOUBLE INVERTED BREVE BELOW,ALMOST EQUAL TO BELOW",
    "LEFT ARROWHEAD ABOVE,RIGHT ARROWHEAD AND DOWN ARROWHEAD BELOW"]⟩]

end AccessPolicy.Text
