import AccessPolicy.Text.Name.Run

namespace AccessPolicy.Text

/-- Shorthand, and signs of music and counting. -/
def notationNames : List NamedRun := [
  ⟨0x1bc00, "DUPLOYAN LETTER ", ["H,X,P,T,F,K,L,B,D,V,G,R,P N,D S,F N,K M,R S,TH,SLOAN DH,DH,KK,SLOAN J,HL,LH,RH,M",
    "N,J,S,M N,N M,J M,S J,M WITH DOT,N WITH DOT,J WITH DOT,J WITH DOTS INSIDE AND ABOVE,S WITH DOT",
    "S WITH DOT BELOW,M S,N S,J S,S S,M N S,N M S,J M S,S J S,J S WITH DOT,J N,J N S,S T,S T R,S P,S P R,T S,T R S",
    "W,WH,W R,S N,S M,K R S,G R S,S K,S K R,A,SLOAN OW,OA,O,AOU,I,E,IE,SHORT I,UI,EE,SLOAN EH,ROMANIAN I,SLOAN EE",
    "LONG I,YE,U,EU,XW,U N,LONG U,ROMANIAN U,UH,SLOAN U,OOH,OW,OU,WA,WO,WI,WEI,WOW,NASAL U,NASAL O,NASAL I,NASAL A",
    "PERNIN AN,PERNIN AM,SLOAN EN,SLOAN AN,SLOAN ON,VOCALIC M"]⟩,
  ⟨0x1bc70, "DUPLOYAN AFFIX ", ["LEFT HORIZONTAL SECANT,MID HORIZONTAL SECANT,RIGHT HORIZONTAL SECANT",
    "LOW VERTICAL SECANT,MID VERTICAL SECANT,HIGH VERTICAL SECANT"]⟩,
  ⟨0x1bc76, "DUPLOYAN AFFIX ATTACHED ", ["SECANT,LEFT-TO-RIGHT SECANT,TANGENT,TAIL,E HOOK,I HOOK,TANGENT HOOK"]⟩,
  ⟨0x1bc80, "DUPLOYAN AFFIX HIGH ", ["ACUTE,TIGHT ACUTE,GRAVE,LONG GRAVE,DOT,CIRCLE,LINE,WAVE,VERTICAL"]⟩,
  ⟨0x1bc90, "DUPLOYAN AFFIX LOW ", ["ACUTE,TIGHT ACUTE,GRAVE,LONG GRAVE,DOT,CIRCLE,LINE,WAVE,VERTICAL,ARROW"]⟩,
  ⟨0x1bc9c, "DUPLOYAN ", ["SIGN O WITH CROSS,THICK LETTER SELECTOR,DOUBLE MARK,PUNCTUATION CHINOOK FULL STOP"]⟩,
  ⟨0x1bca0, "SHORTHAND FORMAT ", ["LETTER OVERLAP,CONTINUING OVERLAP,DOWN STEP,UP STEP"]⟩,
  ⟨0x1cf00, "ZNAMENNY COMBINING MARK ", ["GORAZDO NIZKO S KRYZHEM ON LEFT,NIZKO S KRYZHEM ON LEFT,TSATA ON LEFT",
    "GORAZDO NIZKO ON LEFT,NIZKO ON LEFT,SREDNE ON LEFT,MALO POVYSHE ON LEFT,POVYSHE ON LEFT,VYSOKO ON LEFT",
    "MALO POVYSHE S KHOKHLOM ON LEFT,POVYSHE S KHOKHLOM ON LEFT,VYSOKO S KHOKHLOM ON LEFT",
    "GORAZDO NIZKO S KRYZHEM ON RIGHT,NIZKO S KRYZHEM ON RIGHT,TSATA ON RIGHT,GORAZDO NIZKO ON RIGHT,NIZKO ON RIGHT",
    "SREDNE ON RIGHT,MALO POVYSHE ON RIGHT,POVYSHE ON RIGHT,VYSOKO ON RIGHT,MALO POVYSHE S KHOKHLOM ON RIGHT",
    "POVYSHE S KHOKHLOM ON RIGHT,VYSOKO S KHOKHLOM ON RIGHT,TSATA S KRYZHEM,MALO POVYSHE S KRYZHEM",
    "STRANNO MALO POVYSHE,POVYSHE S KRYZHEM,POVYSHE STRANNO,VYSOKO S KRYZHEM,MALO POVYSHE STRANNO,GORAZDO VYSOKO",
    "ZELO,ON,RAVNO,TIKHAYA,BORZAYA,UDARKA,PODVERTKA,LOMKA,KUPNAYA,KACHKA,ZEVOK,SKOBA,RAZSEKA,KRYZH ON LEFT"]⟩,
  ⟨0x1cf30, "ZNAMENNY COMBINING TONAL RANGE MARK ", ["MRACHNO,SVETLO,TRESVETLO"]⟩,
  ⟨0x1cf33, "ZNAMENNY COMBINING MARK ", ["ZADERZHKA,DEMESTVENNY ZADERZHKA,OTSECHKA,PODCHASHIE",
    "PODCHASHIE WITH VERTICAL STROKE,CHASHKA,CHASHKA POLNAYA,OBLACHKO,SOROCHYA NOZHKA,TOCHKA,DVOETOCHIE"]⟩,
  ⟨0x1cf3e, "ZNAMENNY COMBINING ", ["ATTACHING VERTICAL OMET,MARK CURVED OMET,MARK KRYZH",
    "LOWER TONAL RANGE INDICATOR"]⟩,
  ⟨0x1cf42, "ZNAMENNY PRIZNAK MODIFIER ", ["LEVEL-2,LEVEL-3,DIRECTION FLIP,KRYZH,ROG"]⟩,
  ⟨0x1cf50, "ZNAMENNY NEUME ", ["KRYUK,KRYUK TIKHY,PARAKLIT,DVA V CHELNU,KLYUCH,ZANOZHEK,STOPITSA,STOPITSA S OCHKOM",
    "PEREVODKA,PEREVODKA NEPOSTOYANNAYA,STOPITSA WITH SOROCHYA NOZHKA,CHELYUSTKA,PALKA,ZAPYATAYA"]⟩,
  ⟨0x1cf5e, "ZNAMENNY NEUME GOLUBCHIK ", ["BORZY,TIKHY,MRACHNY,SVETLY,TRESVETLY"]⟩,
  ⟨0x1cf63, "ZNAMENNY NEUME VRAKHIYA ", ["PROSTAYA,MRACHNAYA,SVETLAYA,TRESVETLAYA,KLYUCHEVAYA PROSTAYA",
    "KLYUCHEVAYA MRACHNAYA,KLYUCHEVAYA SVETLAYA,KLYUCHEVAYA TRESVETLAYA"]⟩,
  ⟨0x1cf6b, "ZNAMENNY NEUME ", ["DOUBLE ZAPYATAYA,REVERSED CHELYUSTKA,DERBITSA,KHAMILO,CHASHKA,PODCHASHIE",
    "SKAMEYTSA MRACHNAYA,SKAMEYTSA SVETLAYA,SKAMEYTSA TRESVETLAYA,SKAMEYTSA TIKHAYA,DEMESTVENNY KLYUCH",
    "SKAMEYTSA KLYUCHEVAYA SVETLAYA,SKAMEYTSA KLYUCHENEPOSTOYANNAYA,SKAMEYTSA KLYUCHEVAYA TIKHAYA"]⟩,
  ⟨0x1cf79, "ZNAMENNY NEUME SKAMEYTSA DVOECHELNAYA ", ["PROSTAYA,SVETLAYA,NEPOSTOYANNAYA,KLYUCHEVAYA"]⟩,
  ⟨0x1cf7d, "ZNAMENNY NEUME ", ["SLOZHITIE,SLOZHITIE S ZAPYATOY,SLOZHITIE ZAKRYTOE,SLOZHITIE S KRYZHEM,KRYZH,ROG",
    "FITA,KOBYLA,ZMEYTSA,STATYA"]⟩,
  ⟨0x1cf87, "ZNAMENNY NEUME STATYA ", ["S ZAPYATOY,S KRYZHEM,S ZAPYATOY I KRYZHEM,S KRYZHEM I ZAPYATOY,ZAKRYTAYA",
    "ZAKRYTAYA S ZAPYATOY,S ROGOM,S DVUMYA ZAPYATYMI,S ZAPYATOY I PODCHASHIEM"]⟩,
  ⟨0x1cf90, "ZNAMENNY NEUME ", ["POLKULIZMY,STATYA NEPOSTOYANNAYA"]⟩,
  ⟨0x1cf92, "ZNAMENNY NEUME STRELA ", ["PROSTAYA,MRACHNOTIKHAYA,KRYZHEVAYA,POLUPOVODNAYA,POVODNAYA,NEPOSTOYANNAYA",
    "KLYUCHEPOVODNAYA,KLYUCHENEPOSTOYANNAYA,TIKHAYA PUTNAYA,DVOECHELNAYA,DVOECHELNOKRYZHEVAYA,DVOECHELNOPOVODNAYA",
    "DVOECHELNAYA KLYUCHEVAYA,DVOECHELNOPOVODNAYA KLYUCHEVAYA,GROMNAYA WITH SINGLE ZAPYATAYA",
    "GROMOPOVODNAYA WITH SINGLE ZAPYATAYA,GROMNAYA,GROMOPOVODNAYA,GROMOPOVODNAYA WITH DOUBLE ZAPYATAYA",
    "GROMOKRYZHEVAYA,GROMOKRYZHEVAYA POVODNAYA"]⟩,
  ⟨0x1cfa7, "ZNAMENNY NEUME ", ["MECHIK,MECHIK POVODNY,MECHIK KLYUCHEVOY,MECHIK KLYUCHEPOVODNY",
    "MECHIK KLYUCHENEPOSTOYANNY,STRELA TRYASOGLASNAYA,STRELA TRYASOPOVODNAYA,STRELA TRYASOSTRELNAYA,OSOKA",
    "OSOKA SVETLAYA,OSOKA TRESVETLAYA,OSOKA KRYUKOVAYA SVETLAYA,OSOKA KLYUCHEVAYA SVETLAYA",
    "OSOKA KLYUCHEVAYA NEPOSTOYANNAYA,STRELA KRYUKOVAYA"]⟩,
  ⟨0x1cfb6, "ZNAMENNY NEUME STRELA KRYUKOVAYA ", ["POVODNAYA,GROMNAYA WITH SINGLE ZAPYATAYA",
    "GROMOPOVODNAYA WITH SINGLE ZAPYATAYA,GROMNAYA,GROMOPOVODNAYA,GROMOPOVODNAYA WITH DOUBLE ZAPYATAYA",
    "GROMOKRYZHEVAYA,GROMOKRYZHEVAYA POVODNAYA,TRYASKA"]⟩,
  ⟨0x1cfbf, "ZNAMENNY NEUME ", ["KUFISMA,OBLAKO,DUDA,NEMKA,PAUK"]⟩,
  ⟨0x1d000, "BYZANTINE MUSICAL SYMBOL ", ["PSILI,DASEIA,PERISPOMENI,OXEIA EKFONITIKON,OXEIA DIPLI",
    "VAREIA EKFONITIKON,VAREIA DIPLI,KATHISTI,SYRMATIKI,PARAKLITIKI,YPOKRISIS,YPOKRISIS DIPLI,KREMASTI",
    "APESO EKFONITIKON,EXO EKFONITIKON,TELEIA,KENTIMATA,APOSTROFOS,APOSTROFOS DIPLI,SYNEVMA,THITA,OLIGON ARCHAION",
    "GORGON ARCHAION,PSILON,CHAMILON,VATHY,ISON ARCHAION,KENTIMA ARCHAION,KENTIMATA ARCHAION,SAXIMATA,PARICHON",
    "STAVROS APODEXIA,OXEIAI ARCHAION,VAREIAI ARCHAION,APODERMA ARCHAION,APOTHEMA,KLASMA,REVMA,PIASMA ARCHAION",
    "TINAGMA,ANATRICHISMA,SEISMA,SYNAGMA ARCHAION,SYNAGMA META STAVROU,OYRANISMA ARCHAION,THEMA,LEMOI,DYO,TRIA",
    "TESSERA,KRATIMATA,APESO EXO NEO,FTHORA ARCHAION,IMIFTHORA,TROMIKON ARCHAION,KATAVA TROMIKON,PELASTON,PSIFISTON",
    "KONTEVMA,CHOREVMA ARCHAION,RAPISMA,PARAKALESMA ARCHAION,PARAKLITIKI ARCHAION,ICHADIN,NANA,PETASMA",
    "KONTEVMA ALLO,TROMIKON ALLO,STRAGGISMATA,GRONTHISMATA,ISON NEO,OLIGON NEO,OXEIA NEO,PETASTI,KOUFISMA",
    "PETASTOKOUFISMA,KRATIMOKOUFISMA,PELASTON NEO,KENTIMATA NEO ANO,KENTIMA NEO ANO,YPSILI,APOSTROFOS NEO",
    "APOSTROFOI SYNDESMOS NEO,YPORROI,KRATIMOYPORROON,ELAFRON,CHAMILI,MIKRON ISON,VAREIA NEO,PIASMA NEO",
    "PSIFISTON NEO,OMALON,ANTIKENOMA,LYGISMA,PARAKLITIKI NEO,PARAKALESMA NEO,ETERON PARAKALESMA,KYLISMA",
    "ANTIKENOKYLISMA,TROMIKON NEO,EKSTREPTON,SYNAGMA NEO,SYRMA,CHOREVMA NEO,EPEGERMA,SEISMA NEO,XIRON KLASMA",
    "TROMIKOPSIFISTON,PSIFISTOLYGISMA,TROMIKOLYGISMA,TROMIKOPARAKALESMA,PSIFISTOPARAKALESMA,TROMIKOSYNAGMA",
    "PSIFISTOSYNAGMA,GORGOSYNTHETON,ARGOSYNTHETON,ETERON ARGOSYNTHETON,OYRANISMA NEO,THEMATISMOS ESO",
    "THEMATISMOS EXO,THEMA APLOUN,THES KAI APOTHES,KATAVASMA,ENDOFONON,YFEN KATO,YFEN ANO,STAVROS,KLASMA ANO",
    "DIPLI ARCHAION,KRATIMA ARCHAION,KRATIMA ALLO,KRATIMA NEO,APODERMA NEO,APLI,DIPLI,TRIPLI,TETRAPLI,KORONIS",
    "LEIMMA ENOS CHRONOU,LEIMMA DYO CHRONON,LEIMMA TRION CHRONON,LEIMMA TESSARON CHRONON,LEIMMA IMISEOS CHRONOU",
    "GORGON NEO ANO,GORGON PARESTIGMENON ARISTERA,GORGON PARESTIGMENON DEXIA,DIGORGON",
    "DIGORGON PARESTIGMENON ARISTERA KATO,DIGORGON PARESTIGMENON ARISTERA ANO,DIGORGON PARESTIGMENON DEXIA",
    "TRIGORGON,ARGON,IMIDIARGON,DIARGON"]⟩,
  ⟨0x1d09a, "BYZANTINE MUSICAL SYMBOL AGOGI ", ["POLI ARGI,ARGOTERI,ARGI,METRIA,MESI,GORGI,GORGOTERI,POLI GORGI"]⟩,
  ⟨0x1d0a2, "BYZANTINE MUSICAL SYMBOL MARTYRIA ", ["PROTOS ICHOS,ALLI PROTOS ICHOS,DEYTEROS ICHOS",
    "ALLI DEYTEROS ICHOS,TRITOS ICHOS,TRIFONIAS,TETARTOS ICHOS,TETARTOS LEGETOS ICHOS,LEGETOS ICHOS,PLAGIOS ICHOS"]⟩,
  ⟨0x1d0ac, "BYZANTINE MUSICAL SYMBOL ", ["ISAKIA TELOUS ICHIMATOS,APOSTROFOI TELOUS ICHIMATOS",
    "FANEROSIS TETRAFONIAS,FANEROSIS MONOFONIAS,FANEROSIS DIFONIAS,MARTYRIA VARYS ICHOS,MARTYRIA PROTOVARYS ICHOS",
    "MARTYRIA PLAGIOS TETARTOS ICHOS,GORTHMIKON N APLOUN,GORTHMIKON N DIPLOUN,ENARXIS KAI FTHORA VOU,IMIFONON",
    "IMIFTHORON"]⟩,
  ⟨0x1d0b9, "BYZANTINE MUSICAL SYMBOL FTHORA ", ["ARCHAION DEYTEROU ICHOU,DIATONIKI PA,DIATONIKI NANA,NAOS ICHOS",
    "DIATONIKI DI,SKLIRON DIATONON DI,DIATONIKI KE,DIATONIKI ZO,DIATONIKI NI KATO,DIATONIKI NI ANO",
    "MALAKON CHROMA DIFONIAS,MALAKON CHROMA MONOFONIAS"]⟩,
  ⟨0x1d0c5, "BYZANTINE MUSICAL SYMBOL ", ["FHTORA SKLIRON CHROMA VASIS,FTHORA SKLIRON CHROMA SYNAFI,FTHORA NENANO",
    "CHROA ZYGOS,CHROA KLITON,CHROA SPATHI,FTHORA I YFESIS TETARTIMORION,FTHORA ENARMONIOS ANTIFONIA",
    "YFESIS TRITIMORION,DIESIS TRITIMORION,DIESIS TETARTIMORION,DIESIS APLI DYO DODEKATA",
    "DIESIS MONOGRAMMOS TESSERA DODEKATA,DIESIS DIGRAMMOS EX DODEKATA,DIESIS TRIGRAMMOS OKTO DODEKATA",
    "YFESIS APLI DYO DODEKATA,YFESIS MONOGRAMMOS TESSERA DODEKATA,YFESIS DIGRAMMOS EX DODEKATA",
    "YFESIS TRIGRAMMOS OKTO DODEKATA,GENIKI DIESIS,GENIKI YFESIS,DIASTOLI APLI MIKRI,DIASTOLI APLI MEGALI",
    "DIASTOLI DIPLI,DIASTOLI THESEOS,SIMANSIS THESEOS,SIMANSIS THESEOS DISIMOU,SIMANSIS THESEOS TRISIMOU",
    "SIMANSIS THESEOS TETRASIMOU,SIMANSIS ARSEOS,SIMANSIS ARSEOS DISIMOU,SIMANSIS ARSEOS TRISIMOU",
    "SIMANSIS ARSEOS TETRASIMOU,DIGRAMMA GG,DIFTOGGOS OU,STIGMA,ARKTIKO PA,ARKTIKO VOU,ARKTIKO GA,ARKTIKO DI",
    "ARKTIKO KE,ARKTIKO ZO,ARKTIKO NI,KENTIMATA NEO MESO,KENTIMA NEO MESO,KENTIMATA NEO KATO,KENTIMA NEO KATO",
    "KLASMA KATO,GORGON NEO KATO"]⟩,
  ⟨0x1d100, "MUSICAL SYMBOL ", ["SINGLE BARLINE,DOUBLE BARLINE,FINAL BARLINE,REVERSE FINAL BARLINE,DASHED BARLINE",
    "SHORT BARLINE,LEFT REPEAT SIGN,RIGHT REPEAT SIGN,REPEAT DOTS,DAL SEGNO,DA CAPO,SEGNO,CODA,REPEATED FIGURE-1",
    "REPEATED FIGURE-2,REPEATED FIGURE-3,FERMATA,FERMATA BELOW,BREATH MARK,CAESURA,BRACE,BRACKET,ONE-LINE STAFF",
    "TWO-LINE STAFF,THREE-LINE STAFF,FOUR-LINE STAFF,FIVE-LINE STAFF,SIX-LINE STAFF,SIX-STRING FRETBOARD",
    "FOUR-STRING FRETBOARD,G CLEF,G CLEF OTTAVA ALTA,G CLEF OTTAVA BASSA,C CLEF,F CLEF,F CLEF OTTAVA ALTA",
    "F CLEF OTTAVA BASSA,DRUM CLEF-1,DRUM CLEF-2"]⟩,
  ⟨0x1d129, "MUSICAL SYMBOL ", ["MULTIPLE MEASURE REST,DOUBLE SHARP,DOUBLE FLAT,FLAT UP,FLAT DOWN,NATURAL UP",
    "NATURAL DOWN,SHARP UP,SHARP DOWN,QUARTER TONE SHARP,QUARTER TONE FLAT,COMMON TIME,CUT TIME,OTTAVA ALTA",
    "OTTAVA BASSA,QUINDICESIMA ALTA,QUINDICESIMA BASSA,MULTI REST,WHOLE REST,HALF REST,QUARTER REST,EIGHTH REST",
    "SIXTEENTH REST,THIRTY-SECOND REST,SIXTY-FOURTH REST,ONE HUNDRED TWENTY-EIGHTH REST,X NOTEHEAD,PLUS NOTEHEAD",
    "CIRCLE X NOTEHEAD,SQUARE NOTEHEAD WHITE,SQUARE NOTEHEAD BLACK"]⟩,
  ⟨0x1d148, "MUSICAL SYMBOL TRIANGLE NOTEHEAD ", ["UP WHITE,UP BLACK,LEFT WHITE,LEFT BLACK,RIGHT WHITE,RIGHT BLACK",
    "DOWN WHITE,DOWN BLACK,UP RIGHT WHITE,UP RIGHT BLACK"]⟩,
  ⟨0x1d152, "MUSICAL SYMBOL ", ["MOON NOTEHEAD WHITE,MOON NOTEHEAD BLACK,TRIANGLE-ROUND NOTEHEAD DOWN WHITE",
    "TRIANGLE-ROUND NOTEHEAD DOWN BLACK,PARENTHESIS NOTEHEAD,VOID NOTEHEAD,NOTEHEAD BLACK,NULL NOTEHEAD",
    "CLUSTER NOTEHEAD WHITE,CLUSTER NOTEHEAD BLACK,BREVE,WHOLE NOTE,HALF NOTE,QUARTER NOTE,EIGHTH NOTE",
    "SIXTEENTH NOTE,THIRTY-SECOND NOTE,SIXTY-FOURTH NOTE,ONE HUNDRED TWENTY-EIGHTH NOTE"]⟩,
  ⟨0x1d165, "MUSICAL SYMBOL COMBINING ", ["STEM,SPRECHGESANG STEM,TREMOLO-1,TREMOLO-2,TREMOLO-3"]⟩,
  ⟨0x1d16a, "MUSICAL SYMBOL FINGERED TREMOLO-", ["1,2,3"]⟩,
  ⟨0x1d16d, "MUSICAL SYMBOL COMBINING ", ["AUGMENTATION DOT,FLAG-1,FLAG-2,FLAG-3,FLAG-4,FLAG-5"]⟩,
  ⟨0x1d173, "MUSICAL SYMBOL ", ["BEGIN BEAM,END BEAM,BEGIN TIE,END TIE,BEGIN SLUR,END SLUR,BEGIN PHRASE,END PHRASE"]⟩,
  ⟨0x1d17b, "MUSICAL SYMBOL COMBINING ", ["ACCENT,STACCATO,TENUTO,STACCATISSIMO,MARCATO,MARCATO-STACCATO",
    "ACCENT-STACCATO,LOURE"]⟩,
  ⟨0x1d183, "MUSICAL SYMBOL ARPEGGIATO ", ["UP,DOWN"]⟩,
  ⟨0x1d185, "MUSICAL SYMBOL COMBINING ", ["DOIT,RIP,FLIP,SMEAR,BEND,DOUBLE TONGUE,TRIPLE TONGUE"]⟩,
  ⟨0x1d18c, "MUSICAL SYMBOL ", ["RINFORZANDO,SUBITO,Z,PIANO,MEZZO,FORTE,CRESCENDO,DECRESCENDO,GRACE NOTE SLASH",
    "GRACE NOTE NO SLASH,TR,TURN,INVERTED TURN,TURN SLASH,TURN UP"]⟩,
  ⟨0x1d19b, "MUSICAL SYMBOL ORNAMENT STROKE-", ["1,2,3,4,5,6,7,8,9,10,11"]⟩,
  ⟨0x1d1a6, "MUSICAL SYMBOL ", ["HAUPTSTIMME,NEBENSTIMME,END OF STIMME,DEGREE SLASH,COMBINING DOWN BOW",
    "COMBINING UP BOW,COMBINING HARMONIC,COMBINING SNAP PIZZICATO,PEDAL MARK,PEDAL UP MARK,HALF PEDAL MARK",
    "GLISSANDO UP,GLISSANDO DOWN,WITH FINGERNAILS,DAMP,DAMP ALL,MAXIMA,LONGA,BREVIS,SEMIBREVIS WHITE",
    "SEMIBREVIS BLACK,MINIMA,MINIMA BLACK,SEMIMINIMA WHITE,SEMIMINIMA BLACK,FUSA WHITE,FUSA BLACK",
    "LONGA PERFECTA REST,LONGA IMPERFECTA REST,BREVIS REST,SEMIBREVIS REST,MINIMA REST,SEMIMINIMA REST"]⟩,
  ⟨0x1d1c7, "MUSICAL SYMBOL TEMPUS PERFECTUM CUM PROLATIONE ", ["PERFECTA,IMPERFECTA,PERFECTA DIMINUTION-1"]⟩,
  ⟨0x1d1ca, "MUSICAL SYMBOL TEMPUS IMPERFECTUM CUM PROLATIONE ", ["PERFECTA,IMPERFECTA,IMPERFECTA DIMINUTION-1",
    "IMPERFECTA DIMINUTION-2,IMPERFECTA DIMINUTION-3"]⟩,
  ⟨0x1d1cf, "MUSICAL SYMBOL ", ["CROIX,GREGORIAN C CLEF,GREGORIAN F CLEF,SQUARE B,VIRGA,PODATUS,CLIVIS,SCANDICUS",
    "CLIMACUS,TORCULUS,PORRECTUS,PORRECTUS FLEXUS,SCANDICUS FLEXUS,TORCULUS RESUPINUS,PES SUBPUNCTIS"]⟩,
  ⟨0x1d1de, "MUSICAL SYMBOL KIEVAN ", ["C CLEF,END OF PIECE,FINAL NOTE,RECITATIVE MARK,WHOLE NOTE,HALF NOTE",
    "QUARTER NOTE STEM DOWN,QUARTER NOTE STEM UP,EIGHTH NOTE STEM DOWN,EIGHTH NOTE STEM UP,FLAT SIGN"]⟩,
  ⟨0x1d1e9, "MUSICAL SYMBOL ", ["SORI,KORON"]⟩,
  ⟨0x1d200, "GREEK VOCAL NOTATION SYMBOL-", ["1,2,3,4,5,6,7,8,9,10,11,12,13,14,15,16,17,18,19,20,21,22,23,24,50,51",
    "52,53,54"]⟩,
  ⟨0x1d21d, "GREEK INSTRUMENTAL NOTATION SYMBOL-", ["1,2,4,5,7,8,11,12,13,14,17,18,19,23,24,25,26,27,29,30,32,36,37",
    "38,39,40,42,43,45,47,48,49,50,51,52,53,54"]⟩,
  ⟨0x1d242, "COMBINING GREEK MUSICAL ", ["TRISEME,TETRASEME,PENTASEME"]⟩, ⟨0x1d245, "GREEK MUSICAL ", ["LEIMMA"]⟩,
  ⟨0x1d2e0, "MAYAN NUMERAL ", ["ZERO,ONE,TWO,THREE,FOUR,FIVE,SIX,SEVEN,EIGHT,NINE,TEN,ELEVEN,TWELVE,THIRTEEN",
    "FOURTEEN,FIFTEEN,SIXTEEN,SEVENTEEN,EIGHTEEN,NINETEEN"]⟩,
  ⟨0x1d300, "MONOGRAM FOR ", ["EARTH"]⟩,
  ⟨0x1d301, "DIGRAM FOR ", ["HEAVENLY EARTH,HUMAN EARTH,EARTHLY HEAVEN,EARTHLY HUMAN,EARTH"]⟩,
  ⟨0x1d306, "TETRAGRAM FOR ", ["CENTRE,FULL CIRCLE,MIRED,BARRIER,KEEPING SMALL,CONTRARIETY,ASCENT,OPPOSITION",
    "BRANCHING OUT,DEFECTIVENESS OR DISTORTION,DIVERGENCE,YOUTHFULNESS,INCREASE,PENETRATION,REACH,CONTACT",
    "HOLDING BACK,WAITING,FOLLOWING,ADVANCE,RELEASE,RESISTANCE,EASE,JOY,CONTENTION,ENDEAVOUR,DUTIES,CHANGE",
    "DECISIVENESS,BOLD RESOLUTION,PACKING,LEGION,CLOSENESS,KINSHIP,GATHERING,STRENGTH,PURITY,FULLNESS,RESIDENCE",
    "LAW OR MODEL,RESPONSE,GOING TO MEET,ENCOUNTERS,STOVE,GREATNESS,ENLARGEMENT,PATTERN,RITUAL,FLIGHT",
    "VASTNESS OR WASTING,CONSTANCY,MEASURE,ETERNITY,UNITY,DIMINISHMENT,CLOSED MOUTH,GUARDEDNESS,GATHERING IN",
    "MASSING,ACCUMULATION,EMBELLISHMENT,DOUBT,WATCH,SINKING,INNER,DEPARTURE,DARKENING,DIMMING,EXHAUSTION,SEVERANCE",
    "STOPPAGE,HARDNESS,COMPLETION,CLOSURE,FAILURE,AGGRAVATION,COMPLIANCE,ON THE VERGE,DIFFICULTIES,LABOURING",
    "FOSTERING"]⟩,
  ⟨0x1d360, "COUNTING ROD UNIT DIGIT ", ["ONE,TWO,THREE,FOUR,FIVE,SIX,SEVEN,EIGHT,NINE"]⟩,
  ⟨0x1d369, "COUNTING ROD TENS DIGIT ", ["ONE,TWO,THREE,FOUR,FIVE,SIX,SEVEN,EIGHT,NINE"]⟩,
  ⟨0x1d372, "IDEOGRAPHIC TALLY MARK ", ["ONE,TWO,THREE,FOUR,FIVE"]⟩, ⟨0x1d377, "TALLY MARK ", ["ONE,FIVE"]⟩]

end AccessPolicy.Text
