import AccessPolicy.Text.Name.Run

namespace AccessPolicy.Text

/-- Thai, Lao, Tibetan and Myanmar letters. -/
def southEastNames : List NamedRun := [
  ⟨0xe01, "THAI CHARACTER ", ["KO KAI,KHO KHAI,KHO KHUAT,KHO KHWAI,KHO KHON,KHO RAKHANG,NGO NGU,CHO CHAN,CHO CHING",
    "CHO CHANG,SO SO,CHO CHOE,YO YING,DO CHADA,TO PATAK,THO THAN,THO NANGMONTHO,THO PHUTHAO,NO NEN,DO DEK,TO TAO",
    "THO THUNG,THO THAHAN,THO THONG,NO NU,BO BAIMAI,PO PLA,PHO PHUNG,FO FA,PHO PHAN,FO FAN,PHO SAMPHAO,MO MA,YO YAK",
    "RO RUA,RU,LO LING,LU,WO WAEN,SO SALA,SO RUSI,SO SUA,HO HIP,LO CHULA,O ANG,HO NOKHUK,PAIYANNOI,SARA A",
    "MAI HAN-AKAT,SARA AA,SARA AM,SARA I,SARA II,SARA UE,SARA UEE,SARA U,SARA UU,PHINTHU"]⟩,
  ⟨0xe3f, "THAI CURRENCY SYMBOL ", ["BAHT"]⟩,
  ⟨0xe40, "THAI CHARACTER ", ["SARA E,SARA AE,SARA O,SARA AI MAIMUAN,SARA AI MAIMALAI,LAKKHANGYAO,MAIYAMOK",
    "MAITAIKHU,MAI EK,MAI THO,MAI TRI,MAI CHATTAWA,THANTHAKHAT,NIKHAHIT,YAMAKKAN,FONGMAN"]⟩,
  ⟨0xe50, "THAI DIGIT ", ["ZERO,ONE,TWO,THREE,FOUR,FIVE,SIX,SEVEN,EIGHT,NINE"]⟩,
  ⟨0xe5a, "THAI CHARACTER ", ["ANGKHANKHU,KHOMUT"]⟩, ⟨0xe81, "LAO LETTER ", ["KO,KHO SUNG"]⟩,
  ⟨0xe84, "LAO LETTER KHO ", ["TAM"]⟩, ⟨0xe86, "LAO LETTER ", ["PALI GHA,NGO,CO,PALI CHA,SO TAM"]⟩,
  ⟨0xe8c, "LAO LETTER ", ["PALI JHA,NYO,PALI NYA,PALI TTA,PALI TTHA,PALI DDA,PALI DDHA,PALI NNA,DO,TO,THO SUNG",
    "THO TAM,PALI DHA,NO,BO,PO,PHO SUNG,FO TAM,PHO TAM,FO SUNG,PALI BHA,MO,YO,LO LING"]⟩,
  ⟨0xea5, "LAO LETTER LO ", ["LOOT"]⟩,
  ⟨0xea7, "LAO LETTER ", ["WO,SANSKRIT SHA,SANSKRIT SSA,SO SUNG,HO SUNG,PALI LLA,O,HO TAM"]⟩,
  ⟨0xeaf, "LAO ", ["ELLIPSIS"]⟩, ⟨0xeb0, "LAO VOWEL SIGN ", ["A,MAI KAN,AA,AM,I,II,Y,YY,U,UU"]⟩,
  ⟨0xeba, "LAO ", ["SIGN PALI VIRAMA,VOWEL SIGN MAI KON,SEMIVOWEL SIGN LO,SEMIVOWEL SIGN NYO"]⟩,
  ⟨0xec0, "LAO VOWEL SIGN ", ["E,EI,O,AY,AI"]⟩, ⟨0xec6, "LAO KO ", ["LA"]⟩,
  ⟨0xec8, "LAO TONE MAI ", ["EK,THO,TI,CATAWA"]⟩, ⟨0xecc, "LAO ", ["CANCELLATION MARK,NIGGAHITA"]⟩,
  ⟨0xed0, "LAO DIGIT ", ["ZERO,ONE,TWO,THREE,FOUR,FIVE,SIX,SEVEN,EIGHT,NINE"]⟩,
  ⟨0xedc, "LAO ", ["HO NO,HO MO,LETTER KHMU GO,LETTER KHMU NYO"]⟩, ⟨0xf00, "TIBETAN SYLLABLE ", ["OM"]⟩,
  ⟨0xf01, "TIBETAN MARK GTER YIG MGO ", ["TRUNCATED A,-UM RNAM BCAD MA,-UM GTER TSHEG MA"]⟩,
  ⟨0xf04, "TIBETAN MARK ", ["INITIAL YIG MGO MDUN MA,CLOSING YIG MGO SGAB MA,CARET YIG MGO PHUR SHAD MA",
    "YIG MGO TSHEG SHAD MA,SBRUL SHAD,BSKUR YIG MGO,BKA- SHOG YIG MGO,INTERSYLLABIC TSHEG,DELIMITER TSHEG BSTAR",
    "SHAD,NYIS SHAD,TSHEG SHAD,NYIS TSHEG SHAD,RIN CHEN SPUNGS SHAD,RGYA GRAM SHAD,CARET -DZUD RTAGS ME LONG CAN",
    "GTER TSHEG"]⟩,
  ⟨0xf15, "TIBETAN LOGOTYPE SIGN ", ["CHAD RTAGS,LHAG RTAGS"]⟩,
  ⟨0xf17, "TIBETAN ASTROLOGICAL SIGN ", ["SGRA GCAN -CHAR RTAGS,-KHYUD PA,SDONG TSHUGS"]⟩,
  ⟨0xf1a, "TIBETAN SIGN RDEL ", ["DKAR GCIG,DKAR GNYIS,DKAR GSUM,NAG GCIG,NAG GNYIS,DKAR RDEL NAG"]⟩,
  ⟨0xf20, "TIBETAN DIGIT ", ["ZERO,ONE,TWO,THREE,FOUR,FIVE,SIX,SEVEN,EIGHT,NINE"]⟩,
  ⟨0xf2a, "TIBETAN DIGIT HALF ", ["ONE,TWO,THREE,FOUR,FIVE,SIX,SEVEN,EIGHT,NINE,ZERO"]⟩,
  ⟨0xf34, "TIBETAN MARK ", ["BSDUS RTAGS,NGAS BZUNG NYI ZLA,CARET -DZUD RTAGS BZHI MIG CAN,NGAS BZUNG SGOR RTAGS",
    "CHE MGO,TSA -PHRU,GUG RTAGS GYON,GUG RTAGS GYAS,ANG KHANG GYON,ANG KHANG GYAS"]⟩,
  ⟨0xf3e, "TIBETAN SIGN ", ["YAR TSHES,MAR TSHES"]⟩, ⟨0xf40, "TIBETAN LETTER ", ["KA,KHA,GA,GHA,NGA,CA,CHA,JA"]⟩,
  ⟨0xf49, "TIBETAN LETTER ", ["NYA,TTA,TTHA,DDA,DDHA,NNA,TA,THA,DA,DHA,NA,PA,PHA,BA,BHA,MA,TSA,TSHA,DZA,DZHA,WA,ZHA",
    "ZA,-A,YA,RA,LA,SHA,SSA,SA,HA,A,KSSA,FIXED-FORM RA,KKA,RRA"]⟩,
  ⟨0xf71, "TIBETAN VOWEL SIGN ", ["AA,I,II,U,UU,VOCALIC R,VOCALIC RR,VOCALIC L,VOCALIC LL,E,EE,O,OO"]⟩,
  ⟨0xf7e, "TIBETAN ", ["SIGN RJES SU NGA RO,SIGN RNAM BCAD,VOWEL SIGN REVERSED I,VOWEL SIGN REVERSED II",
    "SIGN NYI ZLA NAA DA,SIGN SNA LDAN,MARK HALANTA,MARK PALUTA"]⟩,
  ⟨0xf86, "TIBETAN SIGN ", ["LCI RTAGS,YANG RTAGS,LCE TSA CAN,MCHU CAN,GRU CAN RGYINGS,GRU MED RGYINGS",
    "INVERTED MCHU CAN"]⟩,
  ⟨0xf8d, "TIBETAN SUBJOINED SIGN ", ["LCE TSA CAN,MCHU CAN,INVERTED MCHU CAN"]⟩,
  ⟨0xf90, "TIBETAN SUBJOINED LETTER ", ["KA,KHA,GA,GHA,NGA,CA,CHA,JA"]⟩,
  ⟨0xf99, "TIBETAN SUBJOINED LETTER ", ["NYA,TTA,TTHA,DDA,DDHA,NNA,TA,THA,DA,DHA,NA,PA,PHA,BA,BHA,MA,TSA,TSHA,DZA",
    "DZHA,WA,ZHA,ZA,-A,YA,RA,LA,SHA,SSA,SA,HA,A,KSSA,FIXED-FORM WA,FIXED-FORM YA,FIXED-FORM RA"]⟩,
  ⟨0xfbe, "TIBETAN KU RU ", ["KHA,KHA BZHI MIG CAN"]⟩,
  ⟨0xfc0, "TIBETAN CANTILLATION SIGN ", ["HEAVY BEAT,LIGHT BEAT,CANG TE-U,SBUB -CHAL"]⟩,
  ⟨0xfc4, "TIBETAN SYMBOL ", ["DRIL BU,RDO RJE,PADMA GDAN,RDO RJE RGYA GRAM,PHUR PA,NOR BU,NOR BU NYIS -KHYIL",
    "NOR BU GSUM -KHYIL,NOR BU BZHI -KHYIL"]⟩,
  ⟨0xfce, "TIBETAN SIGN RDEL NAG ", ["RDEL DKAR,GSUM"]⟩,
  ⟨0xfd0, "TIBETAN MARK ", ["BSKA- SHOG GI MGO RGYAN,MNYAM YIG GI MGO RGYAN,NYIS TSHEG",
    "INITIAL BRDA RNYING YIG MGO MDUN MA,CLOSING BRDA RNYING YIG MGO SGAB MA"]⟩,
  ⟨0xfd5, "", ["RIGHT-FACING SVASTI SIGN,LEFT-FACING SVASTI SIGN,RIGHT-FACING SVASTI SIGN WITH DOTS",
    "LEFT-FACING SVASTI SIGN WITH DOTS"]⟩,
  ⟨0xfd9, "TIBETAN MARK ", ["LEADING MCHAN RTAGS,TRAILING MCHAN RTAGS"]⟩,
  ⟨0x1000, "MYANMAR LETTER ", ["KA,KHA,GA,GHA,NGA,CA,CHA,JA,JHA,NYA,NNYA,TTA,TTHA,DDA,DDHA,NNA,TA,THA,DA,DHA,NA,PA",
    "PHA,BA,BHA,MA,YA,RA,LA,WA,SA,HA,LLA,A,SHAN A,I,II,U,UU,E,MON E,O,AU"]⟩,
  ⟨0x102b, "MYANMAR VOWEL SIGN ", ["TALL AA,AA,I,II,U,UU,E,AI,MON II,MON O,E ABOVE"]⟩,
  ⟨0x1036, "MYANMAR SIGN ", ["ANUSVARA,DOT BELOW,VISARGA,VIRAMA,ASAT"]⟩,
  ⟨0x103b, "MYANMAR CONSONANT SIGN MEDIAL ", ["YA,RA,WA,HA"]⟩, ⟨0x103f, "MYANMAR LETTER GREAT ", ["SA"]⟩,
  ⟨0x1040, "MYANMAR DIGIT ", ["ZERO,ONE,TWO,THREE,FOUR,FIVE,SIX,SEVEN,EIGHT,NINE"]⟩,
  ⟨0x104a, "MYANMAR ", ["SIGN LITTLE SECTION,SIGN SECTION,SYMBOL LOCATIVE,SYMBOL COMPLETED,SYMBOL AFOREMENTIONED",
    "SYMBOL GENITIVE,LETTER SHA,LETTER SSA"]⟩,
  ⟨0x1052, "MYANMAR LETTER VOCALIC ", ["R,RR,L,LL"]⟩, ⟨0x1056, "MYANMAR VOWEL SIGN VOCALIC ", ["R,RR,L,LL"]⟩,
  ⟨0x105a, "MYANMAR LETTER MON ", ["NGA,JHA,BBA,BBE"]⟩, ⟨0x105e, "MYANMAR CONSONANT SIGN MON MEDIAL ", ["NA,MA,LA"]⟩,
  ⟨0x1061, "MYANMAR ", ["LETTER SGAW KAREN SHA,VOWEL SIGN SGAW KAREN EU"]⟩,
  ⟨0x1063, "MYANMAR TONE MARK SGAW KAREN ", ["HATHI,KE PHO"]⟩,
  ⟨0x1065, "MYANMAR LETTER WESTERN PWO KAREN ", ["THA,PWA"]⟩,
  ⟨0x1067, "MYANMAR VOWEL SIGN WESTERN PWO KAREN ", ["EU,UE"]⟩,
  ⟨0x1069, "MYANMAR SIGN WESTERN PWO KAREN TONE-", ["1,2,3,4,5"]⟩,
  ⟨0x106e, "MYANMAR LETTER EASTERN PWO KAREN ", ["NNA,YWA,GHWA"]⟩,
  ⟨0x1071, "MYANMAR VOWEL SIGN ", ["GEBA KAREN I,KAYAH OE,KAYAH U,KAYAH EE"]⟩,
  ⟨0x1075, "MYANMAR LETTER SHAN ", ["KA,KHA,GA,CA,ZA,NYA,DA,NA,PHA,FA,BA,THA,HA"]⟩,
  ⟨0x1082, "MYANMAR CONSONANT SIGN SHAN MEDIAL ", ["WA"]⟩,
  ⟨0x1083, "MYANMAR VOWEL SIGN SHAN ", ["AA,E,E ABOVE,FINAL Y"]⟩, ⟨0x1087, "MYANMAR SIGN SHAN TONE-", ["2,3,5,6"]⟩,
  ⟨0x108b, "MYANMAR SIGN SHAN COUNCIL ", ["TONE-2,TONE-3,EMPHATIC TONE"]⟩,
  ⟨0x108e, "MYANMAR ", ["LETTER RUMAI PALAUNG FA,SIGN RUMAI PALAUNG TONE-5"]⟩,
  ⟨0x1090, "MYANMAR SHAN DIGIT ", ["ZERO,ONE,TWO,THREE,FOUR,FIVE,SIX,SEVEN,EIGHT,NINE"]⟩,
  ⟨0x109a, "MYANMAR SIGN KHAMTI TONE-", ["1,3"]⟩, ⟨0x109c, "MYANMAR VOWEL SIGN AITON ", ["A,AI"]⟩,
  ⟨0x109e, "MYANMAR SYMBOL SHAN ", ["ONE,EXCLAMATION"]⟩]

end AccessPolicy.Text
