import AccessPolicy.Text.Name.Run

namespace AccessPolicy.Text

/-- Greek, Cyrillic and Armenian letters. -/
def europeNames : List NamedRun := [
  ⟨0x370, "GREEK ", ["CAPITAL LETTER HETA,SMALL LETTER HETA,CAPITAL LETTER ARCHAIC SAMPI,SMALL LETTER ARCHAIC SAMPI",
    "NUMERAL SIGN,LOWER NUMERAL SIGN,CAPITAL LETTER PAMPHYLIAN DIGAMMA,SMALL LETTER PAMPHYLIAN DIGAMMA"]⟩,
  ⟨0x37a, "GREEK ", ["YPOGEGRAMMENI,SMALL REVERSED LUNATE SIGMA SYMBOL,SMALL DOTTED LUNATE SIGMA SYMBOL",
    "SMALL REVERSED DOTTED LUNATE SIGMA SYMBOL,QUESTION MARK,CAPITAL LETTER YOT"]⟩,
  ⟨0x384, "GREEK ", ["TONOS,DIALYTIKA TONOS,CAPITAL LETTER ALPHA WITH TONOS,ANO TELEIA"]⟩,
  ⟨0x388, "GREEK CAPITAL LETTER ", ["EPSILON WITH TONOS,ETA WITH TONOS,IOTA WITH TONOS"]⟩,
  ⟨0x38c, "GREEK CAPITAL LETTER OMICRON WITH ", ["TONOS"]⟩,
  ⟨0x38e, "GREEK ", ["CAPITAL LETTER UPSILON WITH TONOS,CAPITAL LETTER OMEGA WITH TONOS",
    "SMALL LETTER IOTA WITH DIALYTIKA AND TONOS"]⟩,
  ⟨0x391, "GREEK CAPITAL LETTER ", ["ALPHA,BETA,GAMMA,DELTA,EPSILON,ZETA,ETA,THETA,IOTA,KAPPA,LAMDA,MU,NU,XI",
    "OMICRON,PI,RHO"]⟩,
  ⟨0x3a3, "GREEK CAPITAL LETTER ", ["SIGMA,TAU,UPSILON,PHI,CHI,PSI,OMEGA,IOTA WITH DIALYTIKA,UPSILON WITH DIALYTIKA"]⟩,
  ⟨0x3ac, "GREEK SMALL LETTER ", ["ALPHA WITH TONOS,EPSILON WITH TONOS,ETA WITH TONOS,IOTA WITH TONOS",
    "UPSILON WITH DIALYTIKA AND TONOS,ALPHA,BETA,GAMMA,DELTA,EPSILON,ZETA,ETA,THETA,IOTA,KAPPA,LAMDA,MU,NU,XI",
    "OMICRON,PI,RHO,FINAL SIGMA,SIGMA,TAU,UPSILON,PHI,CHI,PSI,OMEGA,IOTA WITH DIALYTIKA,UPSILON WITH DIALYTIKA",
    "OMICRON WITH TONOS,UPSILON WITH TONOS,OMEGA WITH TONOS"]⟩,
  ⟨0x3cf, "GREEK ", ["CAPITAL KAI SYMBOL,BETA SYMBOL,THETA SYMBOL,UPSILON WITH HOOK SYMBOL",
    "UPSILON WITH ACUTE AND HOOK SYMBOL,UPSILON WITH DIAERESIS AND HOOK SYMBOL,PHI SYMBOL,PI SYMBOL,KAI SYMBOL",
    "LETTER ARCHAIC KOPPA,SMALL LETTER ARCHAIC KOPPA,LETTER STIGMA,SMALL LETTER STIGMA,LETTER DIGAMMA",
    "SMALL LETTER DIGAMMA,LETTER KOPPA,SMALL LETTER KOPPA,LETTER SAMPI,SMALL LETTER SAMPI"]⟩,
  ⟨0x3e2, "COPTIC ", ["CAPITAL LETTER SHEI,SMALL LETTER SHEI,CAPITAL LETTER FEI,SMALL LETTER FEI",
    "CAPITAL LETTER KHEI,SMALL LETTER KHEI,CAPITAL LETTER HORI,SMALL LETTER HORI,CAPITAL LETTER GANGIA",
    "SMALL LETTER GANGIA,CAPITAL LETTER SHIMA,SMALL LETTER SHIMA,CAPITAL LETTER DEI,SMALL LETTER DEI"]⟩,
  ⟨0x3f0, "GREEK ", ["KAPPA SYMBOL,RHO SYMBOL,LUNATE SIGMA SYMBOL,LETTER YOT,CAPITAL THETA SYMBOL",
    "LUNATE EPSILON SYMBOL,REVERSED LUNATE EPSILON SYMBOL,CAPITAL LETTER SHO,SMALL LETTER SHO",
    "CAPITAL LUNATE SIGMA SYMBOL,CAPITAL LETTER SAN,SMALL LETTER SAN,RHO WITH STROKE SYMBOL",
    "CAPITAL REVERSED LUNATE SIGMA SYMBOL,CAPITAL DOTTED LUNATE SIGMA SYMBOL",
    "CAPITAL REVERSED DOTTED LUNATE SIGMA SYMBOL"]⟩,
  ⟨0x400, "CYRILLIC CAPITAL LETTER ", ["IE WITH GRAVE,IO,DJE,GJE,UKRAINIAN IE,DZE,BYELORUSSIAN-UKRAINIAN I,YI,JE",
    "LJE,NJE,TSHE,KJE,I WITH GRAVE,SHORT U,DZHE,A,BE,VE,GHE,DE,IE,ZHE,ZE,I,SHORT I,KA,EL,EM,EN,O,PE,ER,ES,TE,U,EF",
    "HA,TSE,CHE,SHA,SHCHA,HARD SIGN,YERU,SOFT SIGN,E,YU,YA"]⟩,
  ⟨0x430, "CYRILLIC SMALL LETTER ", ["A,BE,VE,GHE,DE,IE,ZHE,ZE,I,SHORT I,KA,EL,EM,EN,O,PE,ER,ES,TE,U,EF,HA,TSE,CHE",
    "SHA,SHCHA,HARD SIGN,YERU,SOFT SIGN,E,YU,YA,IE WITH GRAVE,IO,DJE,GJE,UKRAINIAN IE,DZE,BYELORUSSIAN-UKRAINIAN I",
    "YI,JE,LJE,NJE,TSHE,KJE,I WITH GRAVE,SHORT U,DZHE"]⟩,
  ⟨0x460, "CYRILLIC ", ["CAPITAL LETTER OMEGA,SMALL LETTER OMEGA,CAPITAL LETTER YAT,SMALL LETTER YAT",
    "CAPITAL LETTER IOTIFIED E,SMALL LETTER IOTIFIED E,CAPITAL LETTER LITTLE YUS,SMALL LETTER LITTLE YUS",
    "CAPITAL LETTER IOTIFIED LITTLE YUS,SMALL LETTER IOTIFIED LITTLE YUS,CAPITAL LETTER BIG YUS",
    "SMALL LETTER BIG YUS,CAPITAL LETTER IOTIFIED BIG YUS,SMALL LETTER IOTIFIED BIG YUS,CAPITAL LETTER KSI",
    "SMALL LETTER KSI,CAPITAL LETTER PSI,SMALL LETTER PSI,CAPITAL LETTER FITA,SMALL LETTER FITA",
    "CAPITAL LETTER IZHITSA,SMALL LETTER IZHITSA,CAPITAL LETTER IZHITSA WITH DOUBLE GRAVE ACCENT",
    "SMALL LETTER IZHITSA WITH DOUBLE GRAVE ACCENT,CAPITAL LETTER UK,SMALL LETTER UK,CAPITAL LETTER ROUND OMEGA",
    "SMALL LETTER ROUND OMEGA,CAPITAL LETTER OMEGA WITH TITLO,SMALL LETTER OMEGA WITH TITLO,CAPITAL LETTER OT",
    "SMALL LETTER OT,CAPITAL LETTER KOPPA,SMALL LETTER KOPPA,THOUSANDS SIGN"]⟩,
  ⟨0x483, "COMBINING CYRILLIC ", ["TITLO,PALATALIZATION,DASIA PNEUMATA,PSILI PNEUMATA,POKRYTIE",
    "HUNDRED THOUSANDS SIGN,MILLIONS SIGN"]⟩,
  ⟨0x48a, "CYRILLIC ", ["CAPITAL LETTER SHORT I WITH TAIL,SMALL LETTER SHORT I WITH TAIL",
    "CAPITAL LETTER SEMISOFT SIGN,SMALL LETTER SEMISOFT SIGN,CAPITAL LETTER ER WITH TICK,SMALL LETTER ER WITH TICK",
    "CAPITAL LETTER GHE WITH UPTURN,SMALL LETTER GHE WITH UPTURN,CAPITAL LETTER GHE WITH STROKE",
    "SMALL LETTER GHE WITH STROKE,CAPITAL LETTER GHE WITH MIDDLE HOOK,SMALL LETTER GHE WITH MIDDLE HOOK",
    "CAPITAL LETTER ZHE WITH DESCENDER,SMALL LETTER ZHE WITH DESCENDER,CAPITAL LETTER ZE WITH DESCENDER",
    "SMALL LETTER ZE WITH DESCENDER,CAPITAL LETTER KA WITH DESCENDER,SMALL LETTER KA WITH DESCENDER",
    "CAPITAL LETTER KA WITH VERTICAL STROKE,SMALL LETTER KA WITH VERTICAL STROKE,CAPITAL LETTER KA WITH STROKE",
    "SMALL LETTER KA WITH STROKE,CAPITAL LETTER BASHKIR KA,SMALL LETTER BASHKIR KA,CAPITAL LETTER EN WITH DESCENDER",
    "SMALL LETTER EN WITH DESCENDER,CAPITAL LIGATURE EN GHE,SMALL LIGATURE EN GHE",
    "CAPITAL LETTER PE WITH MIDDLE HOOK,SMALL LETTER PE WITH MIDDLE HOOK,CAPITAL LETTER ABKHASIAN HA",
    "SMALL LETTER ABKHASIAN HA,CAPITAL LETTER ES WITH DESCENDER,SMALL LETTER ES WITH DESCENDER",
    "CAPITAL LETTER TE WITH DESCENDER,SMALL LETTER TE WITH DESCENDER,CAPITAL LETTER STRAIGHT U",
    "SMALL LETTER STRAIGHT U,CAPITAL LETTER STRAIGHT U WITH STROKE,SMALL LETTER STRAIGHT U WITH STROKE",
    "CAPITAL LETTER HA WITH DESCENDER,SMALL LETTER HA WITH DESCENDER,CAPITAL LIGATURE TE TSE,SMALL LIGATURE TE TSE",
    "CAPITAL LETTER CHE WITH DESCENDER,SMALL LETTER CHE WITH DESCENDER,CAPITAL LETTER CHE WITH VERTICAL STROKE",
    "SMALL LETTER CHE WITH VERTICAL STROKE,CAPITAL LETTER SHHA,SMALL LETTER SHHA,CAPITAL LETTER ABKHASIAN CHE",
    "SMALL LETTER ABKHASIAN CHE,CAPITAL LETTER ABKHASIAN CHE WITH DESCENDER",
    "SMALL LETTER ABKHASIAN CHE WITH DESCENDER,LETTER PALOCHKA,CAPITAL LETTER ZHE WITH BREVE",
    "SMALL LETTER ZHE WITH BREVE,CAPITAL LETTER KA WITH HOOK,SMALL LETTER KA WITH HOOK,CAPITAL LETTER EL WITH TAIL",
    "SMALL LETTER EL WITH TAIL,CAPITAL LETTER EN WITH HOOK,SMALL LETTER EN WITH HOOK,CAPITAL LETTER EN WITH TAIL",
    "SMALL LETTER EN WITH TAIL,CAPITAL LETTER KHAKASSIAN CHE,SMALL LETTER KHAKASSIAN CHE",
    "CAPITAL LETTER EM WITH TAIL,SMALL LETTER EM WITH TAIL,SMALL LETTER PALOCHKA,CAPITAL LETTER A WITH BREVE",
    "SMALL LETTER A WITH BREVE,CAPITAL LETTER A WITH DIAERESIS,SMALL LETTER A WITH DIAERESIS,CAPITAL LIGATURE A IE",
    "SMALL LIGATURE A IE,CAPITAL LETTER IE WITH BREVE,SMALL LETTER IE WITH BREVE,CAPITAL LETTER SCHWA",
    "SMALL LETTER SCHWA,CAPITAL LETTER SCHWA WITH DIAERESIS,SMALL LETTER SCHWA WITH DIAERESIS",
    "CAPITAL LETTER ZHE WITH DIAERESIS,SMALL LETTER ZHE WITH DIAERESIS,CAPITAL LETTER ZE WITH DIAERESIS",
    "SMALL LETTER ZE WITH DIAERESIS,CAPITAL LETTER ABKHASIAN DZE,SMALL LETTER ABKHASIAN DZE",
    "CAPITAL LETTER I WITH MACRON,SMALL LETTER I WITH MACRON,CAPITAL LETTER I WITH DIAERESIS",
    "SMALL LETTER I WITH DIAERESIS,CAPITAL LETTER O WITH DIAERESIS,SMALL LETTER O WITH DIAERESIS",
    "CAPITAL LETTER BARRED O,SMALL LETTER BARRED O,CAPITAL LETTER BARRED O WITH DIAERESIS",
    "SMALL LETTER BARRED O WITH DIAERESIS,CAPITAL LETTER E WITH DIAERESIS,SMALL LETTER E WITH DIAERESIS",
    "CAPITAL LETTER U WITH MACRON,SMALL LETTER U WITH MACRON,CAPITAL LETTER U WITH DIAERESIS",
    "SMALL LETTER U WITH DIAERESIS,CAPITAL LETTER U WITH DOUBLE ACUTE,SMALL LETTER U WITH DOUBLE ACUTE",
    "CAPITAL LETTER CHE WITH DIAERESIS,SMALL LETTER CHE WITH DIAERESIS,CAPITAL LETTER GHE WITH DESCENDER",
    "SMALL LETTER GHE WITH DESCENDER,CAPITAL LETTER YERU WITH DIAERESIS,SMALL LETTER YERU WITH DIAERESIS",
    "CAPITAL LETTER GHE WITH STROKE AND HOOK,SMALL LETTER GHE WITH STROKE AND HOOK,CAPITAL LETTER HA WITH HOOK",
    "SMALL LETTER HA WITH HOOK,CAPITAL LETTER HA WITH STROKE,SMALL LETTER HA WITH STROKE,CAPITAL LETTER KOMI DE",
    "SMALL LETTER KOMI DE,CAPITAL LETTER KOMI DJE,SMALL LETTER KOMI DJE,CAPITAL LETTER KOMI ZJE",
    "SMALL LETTER KOMI ZJE,CAPITAL LETTER KOMI DZJE,SMALL LETTER KOMI DZJE,CAPITAL LETTER KOMI LJE",
    "SMALL LETTER KOMI LJE,CAPITAL LETTER KOMI NJE,SMALL LETTER KOMI NJE,CAPITAL LETTER KOMI SJE",
    "SMALL LETTER KOMI SJE,CAPITAL LETTER KOMI TJE,SMALL LETTER KOMI TJE,CAPITAL LETTER REVERSED ZE",
    "SMALL LETTER REVERSED ZE,CAPITAL LETTER EL WITH HOOK,SMALL LETTER EL WITH HOOK,CAPITAL LETTER LHA",
    "SMALL LETTER LHA,CAPITAL LETTER RHA,SMALL LETTER RHA,CAPITAL LETTER YAE,SMALL LETTER YAE,CAPITAL LETTER QA",
    "SMALL LETTER QA,CAPITAL LETTER WE,SMALL LETTER WE,CAPITAL LETTER ALEUT KA,SMALL LETTER ALEUT KA",
    "CAPITAL LETTER EL WITH MIDDLE HOOK,SMALL LETTER EL WITH MIDDLE HOOK,CAPITAL LETTER EN WITH MIDDLE HOOK",
    "SMALL LETTER EN WITH MIDDLE HOOK,CAPITAL LETTER PE WITH DESCENDER,SMALL LETTER PE WITH DESCENDER",
    "CAPITAL LETTER SHHA WITH DESCENDER,SMALL LETTER SHHA WITH DESCENDER,CAPITAL LETTER EN WITH LEFT HOOK",
    "SMALL LETTER EN WITH LEFT HOOK,CAPITAL LETTER DZZHE,SMALL LETTER DZZHE,CAPITAL LETTER DCHE,SMALL LETTER DCHE",
    "CAPITAL LETTER EL WITH DESCENDER,SMALL LETTER EL WITH DESCENDER"]⟩,
  ⟨0x531, "ARMENIAN CAPITAL LETTER ", ["AYB,BEN,GIM,DA,ECH,ZA,EH,ET,TO,ZHE,INI,LIWN,XEH,CA,KEN,HO,JA,GHAD,CHEH,MEN",
    "YI,NOW,SHA,VO,CHA,PEH,JHEH,RA,SEH,VEW,TIWN,REH,CO,YIWN,PIWR,KEH,OH,FEH"]⟩,
  ⟨0x559, "ARMENIAN ", ["MODIFIER LETTER LEFT HALF RING,APOSTROPHE,EMPHASIS MARK,EXCLAMATION MARK,COMMA",
    "QUESTION MARK,ABBREVIATION MARK"]⟩,
  ⟨0x560, "ARMENIAN SMALL LETTER ", ["TURNED AYB,AYB,BEN,GIM,DA,ECH,ZA,EH,ET,TO,ZHE,INI,LIWN,XEH,CA,KEN,HO,JA,GHAD",
    "CHEH,MEN,YI,NOW,SHA,VO,CHA,PEH,JHEH,RA,SEH,VEW,TIWN,REH,CO,YIWN,PIWR,KEH,OH,FEH"]⟩,
  ⟨0x587, "ARMENIAN ", ["SMALL LIGATURE ECH YIWN,SMALL LETTER YI WITH STROKE,FULL STOP,HYPHEN"]⟩,
  ⟨0x58d, "", ["RIGHT-FACING ARMENIAN ETERNITY SIGN,LEFT-FACING ARMENIAN ETERNITY SIGN,ARMENIAN DRAM SIGN"]⟩]

end AccessPolicy.Text
