import AccessPolicy.Text.Name.Run

namespace AccessPolicy.Text

/-- Devanagari and other letters of India. -/
def indiaNames : List NamedRun := [
  ⟨0x900, "DEVANAGARI SIGN ", ["INVERTED CANDRABINDU,CANDRABINDU,ANUSVARA,VISARGA"]⟩,
  ⟨0x904, "DEVANAGARI LETTER ", ["SHORT A,A,AA,I,II,U,UU,VOCALIC R,VOCALIC L,CANDRA E,SHORT E,E,AI,CANDRA O,SHORT O",
    "O,AU,KA,KHA,GA,GHA,NGA,CA,CHA,JA,JHA,NYA,TTA,TTHA,DDA,DDHA,NNA,TA,THA,DA,DHA,NA,NNNA,PA,PHA,BA,BHA,MA,YA,RA",
    "RRA,LA,LLA,LLLA,VA,SHA,SSA,SA,HA"]⟩,
  ⟨0x93a, "DEVANAGARI ", ["VOWEL SIGN OE,VOWEL SIGN OOE,SIGN NUKTA,SIGN AVAGRAHA"]⟩,
  ⟨0x93e, "DEVANAGARI VOWEL SIGN ", ["AA,I,II,U,UU,VOCALIC R,VOCALIC RR,CANDRA E,SHORT E,E,AI,CANDRA O,SHORT O,O,AU"]⟩,
  ⟨0x94d, "DEVANAGARI ", ["SIGN VIRAMA,VOWEL SIGN PRISHTHAMATRA E,VOWEL SIGN AW,OM,STRESS SIGN UDATTA",
    "STRESS SIGN ANUDATTA,GRAVE ACCENT,ACUTE ACCENT,VOWEL SIGN CANDRA LONG E,VOWEL SIGN UE,VOWEL SIGN UUE"]⟩,
  ⟨0x958, "DEVANAGARI LETTER ", ["QA,KHHA,GHHA,ZA,DDDHA,RHA,FA,YYA,VOCALIC RR,VOCALIC LL"]⟩,
  ⟨0x962, "DEVANAGARI ", ["VOWEL SIGN VOCALIC L,VOWEL SIGN VOCALIC LL,DANDA,DOUBLE DANDA"]⟩,
  ⟨0x966, "DEVANAGARI DIGIT ", ["ZERO,ONE,TWO,THREE,FOUR,FIVE,SIX,SEVEN,EIGHT,NINE"]⟩,
  ⟨0x970, "DEVANAGARI ", ["ABBREVIATION SIGN,SIGN HIGH SPACING DOT"]⟩,
  ⟨0x972, "DEVANAGARI LETTER ", ["CANDRA A,OE,OOE,AW,UE,UUE,MARWARI DDA,ZHA,HEAVY YA,GGA,JJA,GLOTTAL STOP,DDDA,BBA"]⟩,
  ⟨0x980, "BENGALI ", ["ANJI,SIGN CANDRABINDU,SIGN ANUSVARA,SIGN VISARGA"]⟩,
  ⟨0x985, "BENGALI LETTER ", ["A,AA,I,II,U,UU,VOCALIC R,VOCALIC L"]⟩, ⟨0x98f, "BENGALI LETTER ", ["E,AI"]⟩,
  ⟨0x993, "BENGALI LETTER ", ["O,AU,KA,KHA,GA,GHA,NGA,CA,CHA,JA,JHA,NYA,TTA,TTHA,DDA,DDHA,NNA,TA,THA,DA,DHA,NA"]⟩,
  ⟨0x9aa, "BENGALI LETTER ", ["PA,PHA,BA,BHA,MA,YA,RA"]⟩, ⟨0x9b2, "BENGALI LETTER ", ["LA"]⟩,
  ⟨0x9b6, "BENGALI LETTER ", ["SHA,SSA,SA,HA"]⟩, ⟨0x9bc, "BENGALI SIGN ", ["NUKTA,AVAGRAHA"]⟩,
  ⟨0x9be, "BENGALI VOWEL SIGN ", ["AA,I,II,U,UU,VOCALIC R,VOCALIC RR"]⟩, ⟨0x9c7, "BENGALI VOWEL SIGN ", ["E,AI"]⟩,
  ⟨0x9cb, "BENGALI ", ["VOWEL SIGN O,VOWEL SIGN AU,SIGN VIRAMA,LETTER KHANDA TA"]⟩,
  ⟨0x9d7, "BENGALI AU LENGTH ", ["MARK"]⟩, ⟨0x9dc, "BENGALI LETTER ", ["RRA,RHA"]⟩,
  ⟨0x9df, "BENGALI LETTER ", ["YYA,VOCALIC RR,VOCALIC LL"]⟩, ⟨0x9e2, "BENGALI VOWEL SIGN VOCALIC ", ["L,LL"]⟩,
  ⟨0x9e6, "BENGALI DIGIT ", ["ZERO,ONE,TWO,THREE,FOUR,FIVE,SIX,SEVEN,EIGHT,NINE"]⟩,
  ⟨0x9f0, "BENGALI LETTER RA WITH ", ["MIDDLE DIAGONAL,LOWER DIAGONAL"]⟩, ⟨0x9f2, "BENGALI RUPEE ", ["MARK,SIGN"]⟩,
  ⟨0x9f4, "BENGALI CURRENCY NUMERATOR ", ["ONE,TWO,THREE,FOUR,ONE LESS THAN THE DENOMINATOR"]⟩,
  ⟨0x9f9, "BENGALI ", ["CURRENCY DENOMINATOR SIXTEEN,ISSHAR,GANDA MARK,LETTER VEDIC ANUSVARA,ABBREVIATION SIGN",
    "SANDHI MARK"]⟩,
  ⟨0xa01, "GURMUKHI SIGN ", ["ADAK BINDI,BINDI,VISARGA"]⟩, ⟨0xa05, "GURMUKHI LETTER ", ["A,AA,I,II,U,UU"]⟩,
  ⟨0xa0f, "GURMUKHI LETTER ", ["EE,AI"]⟩,
  ⟨0xa13, "GURMUKHI LETTER ", ["OO,AU,KA,KHA,GA,GHA,NGA,CA,CHA,JA,JHA,NYA,TTA,TTHA,DDA,DDHA,NNA,TA,THA,DA,DHA,NA"]⟩,
  ⟨0xa2a, "GURMUKHI LETTER ", ["PA,PHA,BA,BHA,MA,YA,RA"]⟩, ⟨0xa32, "GURMUKHI LETTER ", ["LA,LLA"]⟩,
  ⟨0xa35, "GURMUKHI LETTER ", ["VA,SHA"]⟩, ⟨0xa38, "GURMUKHI LETTER ", ["SA,HA"]⟩,
  ⟨0xa3c, "GURMUKHI SIGN ", ["NUKTA"]⟩, ⟨0xa3e, "GURMUKHI VOWEL SIGN ", ["AA,I,II,U,UU"]⟩,
  ⟨0xa47, "GURMUKHI VOWEL SIGN ", ["EE,AI"]⟩, ⟨0xa4b, "GURMUKHI ", ["VOWEL SIGN OO,VOWEL SIGN AU,SIGN VIRAMA"]⟩,
  ⟨0xa51, "GURMUKHI SIGN ", ["UDAAT"]⟩, ⟨0xa59, "GURMUKHI LETTER ", ["KHHA,GHHA,ZA,RRA"]⟩,
  ⟨0xa5e, "GURMUKHI LETTER ", ["FA"]⟩,
  ⟨0xa66, "GURMUKHI DIGIT ", ["ZERO,ONE,TWO,THREE,FOUR,FIVE,SIX,SEVEN,EIGHT,NINE"]⟩,
  ⟨0xa70, "GURMUKHI ", ["TIPPI,ADDAK,IRI,URA,EK ONKAR,SIGN YAKASH,ABBREVIATION SIGN"]⟩,
  ⟨0xa81, "GUJARATI SIGN ", ["CANDRABINDU,ANUSVARA,VISARGA"]⟩,
  ⟨0xa85, "GUJARATI LETTER ", ["A,AA,I,II,U,UU,VOCALIC R,VOCALIC L"]⟩, ⟨0xa8d, "GUJARATI VOWEL CANDRA ", ["E"]⟩,
  ⟨0xa8f, "GUJARATI ", ["LETTER E,LETTER AI,VOWEL CANDRA O"]⟩,
  ⟨0xa93, "GUJARATI LETTER ", ["O,AU,KA,KHA,GA,GHA,NGA,CA,CHA,JA,JHA,NYA,TTA,TTHA,DDA,DDHA,NNA,TA,THA,DA,DHA,NA"]⟩,
  ⟨0xaaa, "GUJARATI LETTER ", ["PA,PHA,BA,BHA,MA,YA,RA"]⟩, ⟨0xab2, "GUJARATI LETTER ", ["LA,LLA"]⟩,
  ⟨0xab5, "GUJARATI LETTER ", ["VA,SHA,SSA,SA,HA"]⟩, ⟨0xabc, "GUJARATI SIGN ", ["NUKTA,AVAGRAHA"]⟩,
  ⟨0xabe, "GUJARATI VOWEL SIGN ", ["AA,I,II,U,UU,VOCALIC R,VOCALIC RR,CANDRA E"]⟩,
  ⟨0xac7, "GUJARATI VOWEL SIGN ", ["E,AI,CANDRA O"]⟩, ⟨0xacb, "GUJARATI ", ["VOWEL SIGN O,VOWEL SIGN AU,SIGN VIRAMA"]⟩,
  ⟨0xad0, "GUJARATI ", ["OM"]⟩, ⟨0xae0, "GUJARATI LETTER VOCALIC ", ["RR,LL"]⟩,
  ⟨0xae2, "GUJARATI VOWEL SIGN VOCALIC ", ["L,LL"]⟩,
  ⟨0xae6, "GUJARATI DIGIT ", ["ZERO,ONE,TWO,THREE,FOUR,FIVE,SIX,SEVEN,EIGHT,NINE"]⟩,
  ⟨0xaf0, "GUJARATI ", ["ABBREVIATION SIGN,RUPEE SIGN"]⟩, ⟨0xaf9, "GUJARATI LETTER ", ["ZHA"]⟩,
  ⟨0xafa, "GUJARATI SIGN ", ["SUKUN,SHADDA,MADDAH,THREE-DOT NUKTA ABOVE,CIRCLE NUKTA ABOVE,TWO-CIRCLE NUKTA ABOVE"]⟩,
  ⟨0xb01, "ORIYA SIGN ", ["CANDRABINDU,ANUSVARA,VISARGA"]⟩,
  ⟨0xb05, "ORIYA LETTER ", ["A,AA,I,II,U,UU,VOCALIC R,VOCALIC L"]⟩, ⟨0xb0f, "ORIYA LETTER ", ["E,AI"]⟩,
  ⟨0xb13, "ORIYA LETTER ", ["O,AU,KA,KHA,GA,GHA,NGA,CA,CHA,JA,JHA,NYA,TTA,TTHA,DDA,DDHA,NNA,TA,THA,DA,DHA,NA"]⟩,
  ⟨0xb2a, "ORIYA LETTER ", ["PA,PHA,BA,BHA,MA,YA,RA"]⟩, ⟨0xb32, "ORIYA LETTER ", ["LA,LLA"]⟩,
  ⟨0xb35, "ORIYA LETTER ", ["VA,SHA,SSA,SA,HA"]⟩, ⟨0xb3c, "ORIYA SIGN ", ["NUKTA,AVAGRAHA"]⟩,
  ⟨0xb3e, "ORIYA VOWEL SIGN ", ["AA,I,II,U,UU,VOCALIC R,VOCALIC RR"]⟩, ⟨0xb47, "ORIYA VOWEL SIGN ", ["E,AI"]⟩,
  ⟨0xb4b, "ORIYA ", ["VOWEL SIGN O,VOWEL SIGN AU,SIGN VIRAMA"]⟩,
  ⟨0xb55, "ORIYA ", ["SIGN OVERLINE,AI LENGTH MARK,AU LENGTH MARK"]⟩, ⟨0xb5c, "ORIYA LETTER ", ["RRA,RHA"]⟩,
  ⟨0xb5f, "ORIYA LETTER ", ["YYA,VOCALIC RR,VOCALIC LL"]⟩, ⟨0xb62, "ORIYA VOWEL SIGN VOCALIC ", ["L,LL"]⟩,
  ⟨0xb66, "ORIYA DIGIT ", ["ZERO,ONE,TWO,THREE,FOUR,FIVE,SIX,SEVEN,EIGHT,NINE"]⟩,
  ⟨0xb70, "ORIYA ", ["ISSHAR,LETTER WA"]⟩,
  ⟨0xb72, "ORIYA FRACTION ", ["ONE QUARTER,ONE HALF,THREE QUARTERS,ONE SIXTEENTH,ONE EIGHTH,THREE SIXTEENTHS"]⟩,
  ⟨0xb82, "TAMIL SIGN ", ["ANUSVARA,VISARGA"]⟩, ⟨0xb85, "TAMIL LETTER ", ["A,AA,I,II,U,UU"]⟩,
  ⟨0xb8e, "TAMIL LETTER ", ["E,EE,AI"]⟩, ⟨0xb92, "TAMIL LETTER ", ["O,OO,AU,KA"]⟩,
  ⟨0xb99, "TAMIL LETTER ", ["NGA,CA"]⟩, ⟨0xb9c, "TAMIL LETTER ", ["JA"]⟩, ⟨0xb9e, "TAMIL LETTER ", ["NYA,TTA"]⟩,
  ⟨0xba3, "TAMIL LETTER ", ["NNA,TA"]⟩, ⟨0xba8, "TAMIL LETTER ", ["NA,NNNA,PA"]⟩,
  ⟨0xbae, "TAMIL LETTER ", ["MA,YA,RA,RRA,LA,LLA,LLLA,VA,SHA,SSA,SA,HA"]⟩,
  ⟨0xbbe, "TAMIL VOWEL SIGN ", ["AA,I,II,U,UU"]⟩, ⟨0xbc6, "TAMIL VOWEL SIGN ", ["E,EE,AI"]⟩,
  ⟨0xbca, "TAMIL VOWEL SIGN ", ["O,OO,AU"]⟩, ⟨0xbcd, "TAMIL SIGN ", ["VIRAMA"]⟩, ⟨0xbd0, "TAMIL ", ["OM"]⟩,
  ⟨0xbd7, "TAMIL AU LENGTH ", ["MARK"]⟩,
  ⟨0xbe6, "TAMIL DIGIT ", ["ZERO,ONE,TWO,THREE,FOUR,FIVE,SIX,SEVEN,EIGHT,NINE"]⟩,
  ⟨0xbf0, "TAMIL ", ["NUMBER TEN,NUMBER ONE HUNDRED,NUMBER ONE THOUSAND,DAY SIGN,MONTH SIGN,YEAR SIGN,DEBIT SIGN",
    "CREDIT SIGN,AS ABOVE SIGN,RUPEE SIGN,NUMBER SIGN"]⟩,
  ⟨0xc00, "TELUGU SIGN ", ["COMBINING CANDRABINDU ABOVE,CANDRABINDU,ANUSVARA,VISARGA,COMBINING ANUSVARA ABOVE"]⟩,
  ⟨0xc05, "TELUGU LETTER ", ["A,AA,I,II,U,UU,VOCALIC R,VOCALIC L"]⟩, ⟨0xc0e, "TELUGU LETTER ", ["E,EE,AI"]⟩,
  ⟨0xc12, "TELUGU LETTER ", ["O,OO,AU,KA,KHA,GA,GHA,NGA,CA,CHA,JA,JHA,NYA,TTA,TTHA,DDA,DDHA,NNA,TA,THA,DA,DHA,NA"]⟩,
  ⟨0xc2a, "TELUGU LETTER ", ["PA,PHA,BA,BHA,MA,YA,RA,RRA,LA,LLA,LLLA,VA,SHA,SSA,SA,HA"]⟩,
  ⟨0xc3c, "TELUGU SIGN ", ["NUKTA,AVAGRAHA"]⟩, ⟨0xc3e, "TELUGU VOWEL SIGN ", ["AA,I,II,U,UU,VOCALIC R,VOCALIC RR"]⟩,
  ⟨0xc46, "TELUGU VOWEL SIGN ", ["E,EE,AI"]⟩, ⟨0xc4a, "TELUGU VOWEL SIGN ", ["O,OO,AU"]⟩,
  ⟨0xc4d, "TELUGU SIGN ", ["VIRAMA"]⟩, ⟨0xc55, "TELUGU ", ["LENGTH MARK,AI LENGTH MARK"]⟩,
  ⟨0xc58, "TELUGU LETTER ", ["TSA,DZA,RRRA"]⟩, ⟨0xc5d, "TELUGU LETTER NAKAARA ", ["POLLU"]⟩,
  ⟨0xc60, "TELUGU LETTER VOCALIC ", ["RR,LL"]⟩, ⟨0xc62, "TELUGU VOWEL SIGN VOCALIC ", ["L,LL"]⟩,
  ⟨0xc66, "TELUGU DIGIT ", ["ZERO,ONE,TWO,THREE,FOUR,FIVE,SIX,SEVEN,EIGHT,NINE"]⟩,
  ⟨0xc77, "TELUGU SIGN ", ["SIDDHAM"]⟩,
  ⟨0xc78, "TELUGU FRACTION DIGIT ", ["ZERO FOR ODD POWERS OF FOUR,ONE FOR ODD POWERS OF FOUR",
    "TWO FOR ODD POWERS OF FOUR,THREE FOR ODD POWERS OF FOUR,ONE FOR EVEN POWERS OF FOUR",
    "TWO FOR EVEN POWERS OF FOUR,THREE FOR EVEN POWERS OF FOUR"]⟩,
  ⟨0xc7f, "TELUGU SIGN ", ["TUUMU"]⟩,
  ⟨0xc80, "KANNADA SIGN ", ["SPACING CANDRABINDU,CANDRABINDU,ANUSVARA,VISARGA,SIDDHAM"]⟩,
  ⟨0xc85, "KANNADA LETTER ", ["A,AA,I,II,U,UU,VOCALIC R,VOCALIC L"]⟩, ⟨0xc8e, "KANNADA LETTER ", ["E,EE,AI"]⟩,
  ⟨0xc92, "KANNADA LETTER ", ["O,OO,AU,KA,KHA,GA,GHA,NGA,CA,CHA,JA,JHA,NYA,TTA,TTHA,DDA,DDHA,NNA,TA,THA,DA,DHA,NA"]⟩,
  ⟨0xcaa, "KANNADA LETTER ", ["PA,PHA,BA,BHA,MA,YA,RA,RRA,LA,LLA"]⟩, ⟨0xcb5, "KANNADA LETTER ", ["VA,SHA,SSA,SA,HA"]⟩,
  ⟨0xcbc, "KANNADA SIGN ", ["NUKTA,AVAGRAHA"]⟩, ⟨0xcbe, "KANNADA VOWEL SIGN ", ["AA,I,II,U,UU,VOCALIC R,VOCALIC RR"]⟩,
  ⟨0xcc6, "KANNADA VOWEL SIGN ", ["E,EE,AI"]⟩, ⟨0xcca, "KANNADA VOWEL SIGN ", ["O,OO,AU"]⟩,
  ⟨0xccd, "KANNADA SIGN ", ["VIRAMA"]⟩, ⟨0xcd5, "KANNADA ", ["LENGTH MARK,AI LENGTH MARK"]⟩,
  ⟨0xcdd, "KANNADA LETTER ", ["NAKAARA POLLU,FA"]⟩, ⟨0xce0, "KANNADA LETTER VOCALIC ", ["RR,LL"]⟩,
  ⟨0xce2, "KANNADA VOWEL SIGN VOCALIC ", ["L,LL"]⟩,
  ⟨0xce6, "KANNADA DIGIT ", ["ZERO,ONE,TWO,THREE,FOUR,FIVE,SIX,SEVEN,EIGHT,NINE"]⟩,
  ⟨0xcf1, "KANNADA SIGN ", ["JIHVAMULIYA,UPADHMANIYA"]⟩,
  ⟨0xd00, "MALAYALAM SIGN ", ["COMBINING ANUSVARA ABOVE,CANDRABINDU,ANUSVARA,VISARGA"]⟩,
  ⟨0xd04, "MALAYALAM LETTER ", ["VEDIC ANUSVARA,A,AA,I,II,U,UU,VOCALIC R,VOCALIC L"]⟩,
  ⟨0xd0e, "MALAYALAM LETTER ", ["E,EE,AI"]⟩,
  ⟨0xd12, "MALAYALAM LETTER ", ["O,OO,AU,KA,KHA,GA,GHA,NGA,CA,CHA,JA,JHA,NYA,TTA,TTHA,DDA,DDHA,NNA,TA,THA,DA,DHA,NA",
    "NNNA,PA,PHA,BA,BHA,MA,YA,RA,RRA,LA,LLA,LLLA,VA,SHA,SSA,SA,HA,TTTA"]⟩,
  ⟨0xd3b, "MALAYALAM SIGN ", ["VERTICAL BAR VIRAMA,CIRCULAR VIRAMA,AVAGRAHA"]⟩,
  ⟨0xd3e, "MALAYALAM VOWEL SIGN ", ["AA,I,II,U,UU,VOCALIC R,VOCALIC RR"]⟩,
  ⟨0xd46, "MALAYALAM VOWEL SIGN ", ["E,EE,AI"]⟩,
  ⟨0xd4a, "MALAYALAM ", ["VOWEL SIGN O,VOWEL SIGN OO,VOWEL SIGN AU,SIGN VIRAMA,LETTER DOT REPH,SIGN PARA"]⟩,
  ⟨0xd54, "MALAYALAM LETTER CHILLU ", ["M,Y,LLL"]⟩, ⟨0xd57, "MALAYALAM AU LENGTH ", ["MARK"]⟩,
  ⟨0xd58, "MALAYALAM FRACTION ", ["ONE ONE-HUNDRED-AND-SIXTIETH,ONE FORTIETH,THREE EIGHTIETHS,ONE TWENTIETH",
    "ONE TENTH,THREE TWENTIETHS,ONE FIFTH"]⟩,
  ⟨0xd5f, "MALAYALAM LETTER ", ["ARCHAIC II,VOCALIC RR,VOCALIC LL"]⟩,
  ⟨0xd62, "MALAYALAM VOWEL SIGN VOCALIC ", ["L,LL"]⟩,
  ⟨0xd66, "MALAYALAM DIGIT ", ["ZERO,ONE,TWO,THREE,FOUR,FIVE,SIX,SEVEN,EIGHT,NINE"]⟩,
  ⟨0xd70, "MALAYALAM NUMBER ", ["TEN,ONE HUNDRED,ONE THOUSAND"]⟩,
  ⟨0xd73, "MALAYALAM FRACTION ", ["ONE QUARTER,ONE HALF,THREE QUARTERS,ONE SIXTEENTH,ONE EIGHTH,THREE SIXTEENTHS"]⟩,
  ⟨0xd79, "MALAYALAM DATE ", ["MARK"]⟩, ⟨0xd7a, "MALAYALAM LETTER CHILLU ", ["NN,N,RR,L,LL,K"]⟩,
  ⟨0xd81, "SINHALA SIGN ", ["CANDRABINDU,ANUSVARAYA,VISARGAYA"]⟩,
  ⟨0xd85, "SINHALA LETTER ", ["AYANNA,AAYANNA,AEYANNA,AEEYANNA,IYANNA,IIYANNA,UYANNA,UUYANNA,IRUYANNA,IRUUYANNA",
    "ILUYANNA,ILUUYANNA,EYANNA,EEYANNA,AIYANNA,OYANNA,OOYANNA,AUYANNA"]⟩,
  ⟨0xd9a, "SINHALA LETTER ", ["ALPAPRAANA KAYANNA,MAHAAPRAANA KAYANNA,ALPAPRAANA GAYANNA,MAHAAPRAANA GAYANNA",
    "KANTAJA NAASIKYAYA,SANYAKA GAYANNA,ALPAPRAANA CAYANNA,MAHAAPRAANA CAYANNA,ALPAPRAANA JAYANNA",
    "MAHAAPRAANA JAYANNA,TAALUJA NAASIKYAYA,TAALUJA SANYOOGA NAAKSIKYAYA,SANYAKA JAYANNA,ALPAPRAANA TTAYANNA",
    "MAHAAPRAANA TTAYANNA,ALPAPRAANA DDAYANNA,MAHAAPRAANA DDAYANNA,MUURDHAJA NAYANNA,SANYAKA DDAYANNA",
    "ALPAPRAANA TAYANNA,MAHAAPRAANA TAYANNA,ALPAPRAANA DAYANNA,MAHAAPRAANA DAYANNA,DANTAJA NAYANNA"]⟩,
  ⟨0xdb3, "SINHALA LETTER ", ["SANYAKA DAYANNA,ALPAPRAANA PAYANNA,MAHAAPRAANA PAYANNA,ALPAPRAANA BAYANNA",
    "MAHAAPRAANA BAYANNA,MAYANNA,AMBA BAYANNA,YAYANNA,RAYANNA"]⟩,
  ⟨0xdbd, "SINHALA LETTER DANTAJA ", ["LAYANNA"]⟩,
  ⟨0xdc0, "SINHALA LETTER ", ["VAYANNA,TAALUJA SAYANNA,MUURDHAJA SAYANNA,DANTAJA SAYANNA,HAYANNA,MUURDHAJA LAYANNA",
    "FAYANNA"]⟩,
  ⟨0xdca, "SINHALA SIGN AL-", ["LAKUNA"]⟩,
  ⟨0xdcf, "SINHALA VOWEL SIGN ", ["AELA-PILLA,KETTI AEDA-PILLA,DIGA AEDA-PILLA,KETTI IS-PILLA,DIGA IS-PILLA",
    "KETTI PAA-PILLA"]⟩,
  ⟨0xdd6, "SINHALA VOWEL SIGN DIGA PAA-", ["PILLA"]⟩,
  ⟨0xdd8, "SINHALA VOWEL SIGN ", ["GAETTA-PILLA,KOMBUVA,DIGA KOMBUVA,KOMBU DEKA,KOMBUVA HAA AELA-PILLA",
    "KOMBUVA HAA DIGA AELA-PILLA,KOMBUVA HAA GAYANUKITTA,GAYANUKITTA"]⟩,
  ⟨0xde6, "SINHALA LITH DIGIT ", ["ZERO,ONE,TWO,THREE,FOUR,FIVE,SIX,SEVEN,EIGHT,NINE"]⟩,
  ⟨0xdf2, "SINHALA ", ["VOWEL SIGN DIGA GAETTA-PILLA,VOWEL SIGN DIGA GAYANUKITTA,PUNCTUATION KUNDDALIYA"]⟩]

end AccessPolicy.Text
