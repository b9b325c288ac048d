import CodeGraph.Unicode.Category

/-! # Scripts

The sets of the Script and Script_Extensions properties.
-/

namespace CodeGraph.Unicode

/-- The Script property. -/
def scripts : List NamedSet := [
  ⟨["adlm", "adlam"],
    ["HDEuCyekec"]⟩,
  ⟨["ahom"],
    ["EBRcBbcpex"]⟩,
  ⟨["hluw", "anatolianhieroglyphs"],
    ["ESSeWl"]⟩,
  ⟨["arab", "arabic"],
    ["CHcfbgbobdbBgbklBabEebBiDcBwJgBfbcgCwbBdDNTwElqNzcDccCchbBgqEifbFfFVnBfEwdDGLsebBbbcbbcbbkbe",
     "bbbbgbebbbbbbdbcbbcbbbbbbbbbbcbbcebhbebebbbkbrfdbfbrCac"]⟩,
  ⟨["armn", "armenian"],
    ["BZdBmcBycdDOZjf"]⟩,
  ⟨["avst", "avestan"],
    ["DXCyCcdh"]⟩,
  ⟨["bali", "balinese"],
    ["KFwCzdBv"]⟩,
  ⟨["bamu", "bamum"],
    ["CLCqDkCVCqVx"]⟩,
  ⟨["bass", "bassavah"],
    ["FHKiBecg"]⟩,
  ⟨["batk", "batak"],
    ["KNgCaie"]⟩,
  ⟨["beng", "bengali"],
    ["DPoebicccwbhbbdecjccceibecbfcz"]⟩,
  ⟨["bhks", "bhaiksuki"],
    ["EDOijbBtbokBd"]⟩,
  ⟨["bopo", "bopomofo"],
    ["BCscRLxBrEiBg"]⟩,
  ⟨["brah", "brahmi"],
    ["DZAeDaeBkjb"]⟩,
  ⟨["brai", "braille"],
    ["PDwJw"]⟩,
  ⟨["bugi", "buginese"],
    ["JWaBccc"]⟩,
  ⟨["buhd", "buhid"],
    ["IUyu"]⟩,
  ⟨["cans", "canadianaboriginal"],
    ["HOyYqVoCsDTPqq"]⟩,
  ⟨["cari", "carian"],
    ["DTYmBx"]⟩,
  ⟨["aghb", "caucasianalbanian"],
    ["DUXsCalb"]⟩,
  ⟨["cakm", "chakma"],
    ["DZKaCbbs"]⟩,
  ⟨["cham"],
    ["CMJwCdjockce"]⟩,
  ⟨["cher", "cherokee"],
    ["HLgDicgCFJeDc"]⟩,
  ⟨["chrs", "chorasmian"],
    ["DYXcBc"]⟩,
  ⟨["zyyy", "common"],
    ["aCnBagBaBvbpbfxbBfbRhBnffcuEmbjbgbbbYnbgbobdbBgbGabTwbEzcBVtbPpeLebCGldCtcHvcbbBVhbnbhebgbdc",
     "bBDtmcDjbldlbprBhClBmbdcgbBbbrBpdeZnzlvBJsJwYecBgbEbTsDqPmmefbbbzpieeDncdbDmcFrqBgBkCiCmBfDd",
     "BvbDkGmJToCmBHSiBiDydGjkJkbGebPfbocBEZqcIakwBjbtbeFrbbBgBagBalkbBtcCmhbhkfJydeBtdjDcnBzBtIuB",
     "bCSHweHBwEmCiJmkBncCkdrichBeeCjIfumumDjjzFfDhbCtbccbcccebmbbbhbCnbecibhbBcbebfbbdhbNccLgcByH",
     "ThCqCyCjBBeBseDwmpcpbpbBlkGsCeBabcnBsejhcogFyBLwerdndEpeDrgmebpmeCeikgBoiBeccDaNcmocndjhBubh",
     "ioejhjhFrbCdBlkBSUXbbBeDs"]⟩,
  ⟨["copt", "coptic", "qaac"],
    ["BMgoPJkEmfh"]⟩,
  ⟨["xsux", "cuneiform"],
    ["EFBsBJmDyEhbflHo"]⟩,
  ⟨["cprt", "cypriot"],
    ["DVZkgcbbBsbcdbcb"]⟩,
  ⟨["cpmn", "cyprominoan"],
    ["EKYyDv"]⟩,
  ⟨["cyrl", "cyrillic"],
    ["BNkFdcGnIVolGebCybGFnBgBTOaDsBHEccDHPgCkBhb"]⟩,
  ⟨["dsrt", "deseret"],
    ["DUMaDc"]⟩,
  ⟨["deva", "devanagari"],
    ["DKqDdepcBaCIJgBgBREmk"]⟩,
  ⟨["diak", "divesakuru"],
    ["ECKuhcbcibcbBebccmjk"]⟩,
  ⟨["dogr", "dogra"],
    ["ECAyCi"]⟩,
  ⟨["dupl", "duployan"],
    ["GMDsEdfndjhkce"]⟩,
  ⟨["egyp", "egyptianhieroglyphs"],
    ["ELDgBQskFXr"]⟩,
  ⟨["elba", "elbasan"],
    ["DUVwBo"]⟩,
  ⟨["elym", "elymaic"],
    ["DYYyx"]⟩,
  ⟨["ethi", "ethiopic"],
    ["GVgCvbechbbbecBpbecBhbechbbbecpbCfbecCpcBgdBaJVaxjhbhbhbhbhbhbhbhBVKcgcgcgjhbhEPYfhbebcbp"]⟩,
  ⟨["geor", "georgian"],
    ["GHsBmbbfbcBrbeEJwBrcdGEaBmbbfb"]⟩,
  ⟨["glag", "glagolitic"],
    ["QRgDsGIZghbrchbcbf"]⟩,
  ⟨["goth", "gothic"],
    ["DUEaBb"]⟩,
  ⟨["gran", "grantha"],
    ["EADsebicccwbhbcbfcjcccdcbgbfhchdf"]⟩,
  ⟨["grek", "greek"],
    ["BHwebdcebbebbbbdbbbubCloqJNqfByfefDgbMiwcgcBmcgcibbbbbbbBfcCbbpbocgbtcdbjLjbCAJebBGNiDbrbDAX",
     "rCs"]⟩,
  ⟨["gujr", "gujarati"],
    ["DZldbjbdbwbhbcbfckbdbdcbpecmhh"]⟩,
  ⟨["gong", "gunjalagondi"],
    ["EEBwgbcbBlbcbghk"]⟩,
  ⟨["guru", "gurmukhi"],
    ["DUndbgeccwbhbcbcbccbbfeccddbhebbhr"]⟩,
  ⟨["hani", "han"],
    ["RPwBabDlmIgBvbbbzjoeBLcJToCmBFBkBHSiOccEcBSIicmcCCOkCLFcBgGDugIocINqoLBlpXyDQwUwCFyHHzfGFg"]⟩,
  ⟨["hang", "hangul"],
    ["GLkJwLLecJxDqEjBfCnBfBTAnBdYtQNsmxeBxPAiBfdgcgcgcd"]⟩,
  ⟨["rohg", "hanifirohingya"],
    ["DXWqBoik"]⟩,
  ⟨["hano", "hanunoo"],
    ["ITsv"]⟩,
  ⟨["hatr", "hatran"],
    ["DWIatbcff"]⟩,
  ⟨["hebr", "hebrew"],
    ["CCvCdiBbegDOVwBabfbbbcbcbk"]⟩,
  ⟨["hira", "hiragana"],
    ["SHdDigdFPEvLbsbBddYMvb"]⟩,
  ⟨["armi", "imperialaramaic"],
    ["DWBwwbj"]⟩,
  ⟨["zinh", "inherited", "qaai"],
    ["BDoEiKrcRklBabBCieGOxBfTtdbnbhebgbdcHqCmUecHmBhFTxeEdcCZUjqqoBLnbIsbGFabCTCuBucxUydrichBeeBT",
     "LHiJg"]⟩,
  ⟨["phli", "inscriptionalpahlavi"],
    ["DXGqtfi"]⟩,
  ⟨["prti", "inscriptionalparthian"],
    ["DXFkwci"]⟩,
  ⟨["java", "javanese"],
    ["CMEyDackec"]⟩,
  ⟨["kthi", "kaithi"],
    ["DZFcCpkb"]⟩,
  ⟨["knda", "kannada"],
    ["ETcnbdbxbkbfcjbdbehcgcbeckbd"]⟩,
  ⟨["kana", "katakana"],
    ["SKvDmcdJgqIaBvbDkCZHekbBtCOUcebhbcbbLbdByboe"]⟩,
  ⟨["kawi"],
    ["EERwrbBpdBc"]⟩,
  ⟨["kali", "kayahli"],
    ["CMAaBubb"]⟩,
  ⟨["khar", "kharoshthi"],
    ["DWTcebcfibdbBdcdekhj"]⟩,
  ⟨["kits", "khitansmallscript"],
    ["FJIibKGxSc"]⟩,
  ⟨["khmr", "khmer"],
    ["IXkDqckgkSsBg"]⟩,
  ⟨["khoj", "khojki"],
    ["DZTwsbBv"]⟩,
  ⟨["sind", "khudawadi"],
    ["EAAqChfk"]⟩,
  ⟨["laoo", "lao"],
    ["FMvcbbbfbybbbxcfbbbhbkce"]⟩,
  ⟨["latn", "latin"],
    ["CnBagBaBvbpbfxbBfbRhBnfJXbBmgBxfefnbCsCnJwOfbnbqnFlcgbBbbrBpECtBgBULmDydCpccbbbivoBFkBrbjbeB",
     "EDqhBOkBagBaDCfgbBqbjDDNpBfgg"]⟩,
  ⟨["lepc", "lepcha"],
    ["KPsCedpdd"]⟩,
  ⟨["limb", "limbu"],
    ["JMeBfbmemebdm"]⟩,
  ⟨["lina", "lineara"],
    ["DVFsLzjwki"]⟩,
  ⟨["linb", "linearb"],
    ["DSYqmbBabtbcbpcoBiEt"]⟩,
  ⟨["lisu"],
    ["CKKuBwBUMab"]⟩,
  ⟨["lyci", "lycian"],
    ["DTXgBd"]⟩,
  ⟨["lydi", "lydian"],
    ["DWKmBafb"]⟩,
  ⟨["mahj", "mahajani"],
    ["DZNcBn"]⟩,
  ⟨["maka", "makasar"],
    ["EEQqz"]⟩,
  ⟨["mlym", "malayalam"],
    ["EYanbdbBzbdbgeqcBa"]⟩,
  ⟨["mand", "mandaic"],
    ["DDgBccb"]⟩,
  ⟨["mani", "manichaean"],
    ["DXAmBnem"]⟩,
  ⟨["marc", "marchen"],
    ["EDSqBgcwbo"]⟩,
  ⟨["gonm", "masaramgondi"],
    ["EDYehbcbBsdbbcbjik"]⟩,
  ⟨["medf", "medefaidrin"],
    ["FISeDn"]⟩,
  ⟨["mtei", "meeteimayek"],
    ["CMSmxHtBuck"]⟩,
  ⟨["mend", "mendekikakui"],
    ["HCUyHpcq"]⟩,
  ⟨["merc", "meroiticcursive"],
    ["DWPkyeucBu"]⟩,
  ⟨["mero", "meroitichieroglyphs"],
    ["DWOeBg"]⟩,
  ⟨["plrd", "miao"],
    ["FIZoCxeCfhr"]⟩,
  ⟨["modi"],
    ["EBHgCrlk"]⟩,
  ⟨["mong", "mongolian"],
    ["JCiccbbugDlhBrDSCbn"]⟩,
  ⟨["mroo", "mro"],
    ["FHEuBfbkec"]⟩,
  ⟨["mult", "multani"],
    ["DZYuhbbbebpbl"]⟩,
  ⟨["mymr", "myanmar"],
    ["GBoGeCGAyBfDtBg"]⟩,
  ⟨["nbat", "nabataean"],
    ["DWEiBfij"]⟩,
  ⟨["nagm", "nagmundari"],
    ["HBPoBq"]⟩,
  ⟨["nand", "nandinagari"],
    ["ECQyicBucl"]⟩,
  ⟨["talu", "newtailue"],
    ["JRcBseBagldc"]⟩,
  ⟨["newa"],
    ["EANoDobf"]⟩,
  ⟨["nkoo", "nko"],
    ["CYiChcd"]⟩,
  ⟨["nshu", "nushu"],
    ["FJIfbYVmPg"]⟩,
  ⟨["hmnp", "nyiakengpuachuehmong"],
    ["HAEaBtdockec"]⟩,
  ⟨["ogam", "ogham"],
    ["INoBd"]⟩,
  ⟨["olck", "olchiki"],
    ["KSuBw"]⟩,
  ⟨["hung", "oldhungarian"],
    ["DXRsBznBzhg"]⟩,
  ⟨["ital", "olditalic"],
    ["DUCeBkjd"]⟩,
  ⟨["narb", "oldnortharabian"],
    ["DWYaBg"]⟩,
  ⟨["perm", "oldpermic"],
    ["DUFgBr"]⟩,
  ⟨["xpeo", "oldpersian"],
    ["DUIiBkeo"]⟩,
  ⟨["sogo", "oldsogdian"],
    ["DYQiBo"]⟩,
  ⟨["sarb", "oldsoutharabian"],
    ["DWWuBg"]⟩,
  ⟨["orkh", "oldturkic"],
    ["DXMuCv"]⟩,
  ⟨["ougr", "olduyghur"],
    ["DYUqBa"]⟩,
  ⟨["orya", "oriya"],
    ["EEjdbicccwbhbcbfcjcccdhdecbfcs"]⟩,
  ⟨["osge", "osage"],
    ["DUSuBkeBk"]⟩,
  ⟨["osma", "osmanya"],
    ["DUQyBeck"]⟩,
  ⟨["hmng", "pahawhhmong"],
    ["FHMeCskkbhbvft"]⟩,
  ⟨["palm", "palmyrene"],
    ["DWDcBg"]⟩,
  ⟨["pauc", "paucinhau"],
    ["EDCaCf"]⟩,
  ⟨["phag", "phagspa"],
    ["CLSqCe"]⟩,
  ⟨["phnx", "phoenician"],
    ["DWJgBcdb"]⟩,
  ⟨["phlp", "psalterpahlavi"],
    ["DXHwshemh"]⟩,
  ⟨["rjng", "rejang"],
    ["CMBwBklb"]⟩,
  ⟨["runr", "runic"],
    ["IOuCxdl"]⟩,
  ⟨["samr", "samaritan"],
    ["DAuBucp"]⟩,
  ⟨["saur", "saurashtra"],
    ["CLVcCsim"]⟩,
  ⟨["shrd", "sharada"],
    ["DZOyDs"]⟩,
  ⟨["shaw", "shavian"],
    ["DUPcBw"]⟩,
  ⟨["sidd", "siddham"],
    ["EBCiCccBm"]⟩,
  ⟨["sgnw", "signwriting"],
    ["GWTkZcpfbp"]⟩,
  ⟨["sinh", "sinhala"],
    ["FCzdbsdybjbbchdbegbbbigkcdDULgu"]⟩,
  ⟨["sogd", "sogdian"],
    ["DYSeBq"]⟩,
  ⟨["sora", "sorasompeng"],
    ["DZIezhk"]⟩,
  ⟨["soyo", "soyombo"],
    ["ECXsDf"]⟩,
  ⟨["sund", "sundanese"],
    ["KKuCmJwi"]⟩,
  ⟨["sylo", "sylotinagri"],
    ["CLQeBt"]⟩,
  ⟨["syrc", "syriac"],
    ["CQyobCicdKml"]⟩,
  ⟨["tglg", "tagalog"],
    ["ISmwjb"]⟩,
  ⟨["tagb", "tagbanwa"],
    ["IWenbdbc"]⟩,
  ⟨["tale", "taile"],
    ["JPgBecf"]⟩,
  ⟨["lana", "taitham"],
    ["JXgClbBdclgkgo"]⟩,
  ⟨["tavt", "taiviet"],
    ["CMOuCpyf"]⟩,
  ⟨["takr", "takri"],
    ["EBMeCggk"]⟩,
  ⟨["taml", "tamil"],
    ["EJicbgddbedcbbbcdcdddmefddbecbgbovEALhBynb"]⟩,
  ⟨["tnsa", "tangsa"],
    ["FHGqDbbk"]⟩,
  ⟨["tang", "tangut"],
    ["FJIebBfJCaiBDoTsj"]⟩,
  ⟨["telu", "telugu"],
    ["EOenbdbxbqcjbdbehcbdcbceckhj"]⟩,
  ⟨["thaa", "thaana"],
    ["CVwBy"]⟩,
  ⟨["thai"],
    ["FHxCgfBc"]⟩,
  ⟨["tibt", "tibetan"],
    ["FRsCubBkeBnbBkbpbhec"]⟩,
  ⟨["tfng", "tifinagh"],
    ["RCyCehcob"]⟩,
  ⟨["tirh", "tirhuta"],
    ["EASmCuik"]⟩,
  ⟨["toto"],
    ["HATkBf"]⟩,
  ⟨["ugar", "ugaritic"],
    ["DUHcBebb"]⟩,
  ⟨["vaii", "vai"],
    ["CKMqLo"]⟩,
  ⟨["vith", "vithkuqi"],
    ["DVAelbpbhbcblbpbhbc"]⟩,
  ⟨["wcho", "wancho"],
    ["HAVgCgfb"]⟩,
  ⟨["wara", "warangciti"],
    ["ECHcDfmb"]⟩,
  ⟨["yezi", "yezidi"],
    ["DYLkBqbdcc"]⟩,
  ⟨["yiii", "yi"],
    ["CIPkBSvdCd"]⟩,
  ⟨["zanb", "zanabazarsquare"],
    ["ECUqCu"]⟩]

/-- The Script_Extensions property. -/
def scriptExtensions : List NamedSet := [
  ⟨["adlm", "adlam"],
    ["CIhbBgbHAVfCyekec"]⟩,
  ⟨["ahom"],
    ["EBRcBbcpex"]⟩,
  ⟨["hluw", "anatolianhieroglyphs"],
    ["ESSeWl"]⟩,
  ⟨["arab", "arabic"],
    ["CHcfbIhbBiDcBwJgBfbcgCwbBdDNTwElqRdcCchbBgqEifbFfBMhBcEIeBfEwdDGLsebBbbcbbcbbkbebbbbgbebbbbb",
     "bdbcbbcbbbbbbbbbbcbbcebhbebebbbkbrfdbfbrCac"]⟩,
  ⟨["armn", "armenian"],
    ["BZdBmcBycdDOZjf"]⟩,
  ⟨["avst", "avestan"],
    ["DXCyCcdh"]⟩,
  ⟨["bali", "balinese"],
    ["KFwCzdBv"]⟩,
  ⟨["bamu", "bamum"],
    ["CLCqDkCVCqVx"]⟩,
  ⟨["bass", "bassavah"],
    ["FHKiBecg"]⟩,
  ⟨["batk", "batak"],
    ["KNgCaie"]⟩,
  ⟨["beng", "bengali"],
    ["DNtcrcBaebicccwbhbbdecjccceibecbfczHDhbbbccbbibibcbebcdCBAfb"]⟩,
  ⟨["bhks", "bhaiksuki"],
    ["EDOijbBtbokBd"]⟩,
  ⟨["bopo", "bopomofo"],
    ["BCscRBxdekbnkecbgbHnbjBrEiBgCZLtcKwf"]⟩,
  ⟨["brah", "brahmi"],
    ["DZAeDaeBkjb"]⟩,
  ⟨["brai", "braille"],
    ["PDwJw"]⟩,
  ⟨["bugi", "buginese"],
    ["JWaBcccCCKtb"]⟩,
  ⟨["buhd", "buhid"],
    ["IUncju"]⟩,
  ⟨["cans", "canadianaboriginal"],
    ["HOyYqVoCsDTPqq"]⟩,
  ⟨["cari", "carian"],
    ["DTYmBx"]⟩,
  ⟨["aghb", "caucasianalbanian"],
    ["DUXsCalb"]⟩,
  ⟨["cakm", "chakma"],
    ["DTmkCKekDTFqCbbs"]⟩,
  ⟨["cham"],
    ["CMJwCdjockce"]⟩,
  ⟨["cher", "cherokee"],
    ["HLgDicgCFJeDc"]⟩,
  ⟨["chrs", "chorasmian"],
    ["DYXcBc"]⟩,
  ⟨["zyyy", "common"],
    ["aCnBagBaBvbpbfxbBfbRhBnffcuEmbjbgbbbYnbIhbTwbCAubPpeCRqdDLimcBhbCbbldlbprBhClBmbdcgbBbbrBpde",
     "ZnzlvBJsJwYecBgbEbTsCpbBaPmmebdbnbnbvbUjyBfbBxpmeGfkfDsBfbJToCmBHSqBaDydBLobocBFHskwvcmbtbeF",
     "rbbBgBagBagExhbhkfPmnBzBtCZTrEmCiJmkBncCkdrichBeeCjIfumumDjBbhFfDhbCtbccbcccebmbbbhbCnbecibh",
     "bBcbebfbbdhbNccLgcByHThCqCyCjBBeBseDwmpcpbpbBlkGsCeBabcnBsejxgFyBLwerdndEpeDrgmebpmeCeikgBoi",
     "BeccDaNcmocndjhBubhioejhjhFrbCdBlkBSUXbbBeDs"]⟩,
  ⟨["copt", "coptic", "qaac"],
    ["BMgoPJkEmfhDCZwBc"]⟩,
  ⟨["xsux", "cuneiform"],
    ["EFBsBJmDyEhbflHo"]⟩,
  ⟨["cprt", "cypriot"],
    ["DTImdeBtdjCOmgcbbBsbcdbcb"]⟩,
  ⟨["cpmn", "cyprominoan"],
    ["DTImcRQkDv"]⟩,
  ⟨["cyrl", "cyrillic"],
    ["BNkLsIVolGebCybExbGApBgCpbBTLkDsBHEccDHPgCkBhb"]⟩,
  ⟨["dsrt", "deseret"],
    ["DUMaDc"]⟩,
  ⟨["deva", "devanagari"],
    ["DKqDfcBrHIeBnbcBNabBZFrkGkBgBREmk"]⟩,
  ⟨["diak", "divesakuru"],
    ["ECKuhcbcibcbBebccmjk"]⟩,
  ⟨["dogr", "dogra"],
    ["DOmmCIDckBQIoCi"]⟩,
  ⟨["dupl", "duployan"],
    ["GMDsEdfndjhkci"]⟩,
  ⟨["egyp", "egyptianhieroglyphs"],
    ["ELDgBQskFXr"]⟩,
  ⟨["elba", "elbasan"],
    ["DUVwBo"]⟩,
  ⟨["elym", "elymaic"],
    ["DYYyx"]⟩,
  ⟨["ethi", "ethiopic"],
    ["GVgCvbechbbbecBpbecBhbechbbbecpbCfbecCpcBgdBaJVaxjhbhbhbhbhbhbhbhBVKcgcgcgjhbhEPYfhbebcbp"]⟩,
  ⟨["geor", "georgian"],
    ["GHsBmbbfbcBwEJwBrcdGEaBmbbfb"]⟩,
  ⟨["glag", "glagolitic"],
    ["BSmbcbOYqDsSpbBTNfbEOTkhbrchbcbf"]⟩,
  ⟨["goth", "gothic"],
    ["DUEaBb"]⟩,
  ⟨["gran", "grantha"],
    ["DNtcrcYqoGKabbcBeddcBNabDNRjebicccwbhbcbfbkcccdcbgbfhchdfERrcbb"]⟩,
  ⟨["grek", "greek"],
    ["BGcbcbBqebdcebbebbbbdbbbubCloqJNqfByfefDgdMgwcgcBmcgcibbbbbbbBfcCbbpbocgbtcdbjLjbCAJebBGNiDb",
     "rbDAXrCs"]⟩,
  ⟨["gujr", "gujarati"],
    ["DNtcrcKxdbjbdbwbhbcbfckbdbdcbpecmhhCHNsk"]⟩,
  ⟨["gong", "gunjalagondi"],
    ["DOmcEANigbcbBlbcbghk"]⟩,
  ⟨["guru", "gurmukhi"],
    ["DNtcrcFzdbgeccwbhbcbcbccbbfeccddbhebbhrCHSzk"]⟩,
  ⟨["hani", "han"],
    ["RPwBabDlmIgBrdbnbnbncbgjHfbFsqBgBkCiBoCeBxpmBzbDkzkfDsBfbJToCmBFBkCQyiBFBcOccEcBHrcKwfBQPocm",
     "cBLRasLRycFEsCLFcBgGDugIocINqoLBlpXyDQwUwCFyHHzfGFg"]⟩,
  ⟨["hang", "hangul"],
    ["GLkJwLJldekbnodgbHnbCbDqEjBfCnBfBTAnBdYtQNsmxeBxOMzcKwfCgBfdgcgcgcd"]⟩,
  ⟨["rohg", "hanifirohingya"],
    ["CHobobdbBgbFrbDVHjBoik"]⟩,
  ⟨["hano", "hanunoo"],
    ["ITsx"]⟩,
  ⟨["hatr", "hatran"],
    ["DWIatbcff"]⟩,
  ⟨["hebr", "hebrew"],
    ["CCvCdiBbegDOVwBabfbbbcbcbk"]⟩,
  ⟨["hira", "hiragana"],
    ["SErdekbnqgbbecdDiciDmcCZTgcKwfkbBtcCOUrLbsbBddYMvb"]⟩,
  ⟨["armi", "imperialaramaic"],
    ["DWBwwbj"]⟩,
  ⟨["zinh", "inherited", "qaai"],
    ["BDoCobcbBdCGmcGOxBfBDbCcbbbfUecHmBgDFSqqqoBLnbCZQoBucxUydrichBeeBTLHiJg"]⟩,
  ⟨["phli", "inscriptionalpahlavi"],
    ["DXGqtfi"]⟩,
  ⟨["prti", "inscriptionalparthian"],
    ["DXFkwci"]⟩,
  ⟨["java", "javanese"],
    ["CMEyDablec"]⟩,
  ⟨["kthi", "kaithi"],
    ["DOokCIDckBNMsCpkb"]⟩,
  ⟨["knda", "kannada"],
    ["DNtcrcBEonbdbxbkbfcjbdbehcgcbeckbdGAebbbhbxbbbCASxg"]⟩,
  ⟨["kana", "katakana"],
    ["SErdekbnqgbbecDnedDsJgqIaBvbDkCYWbcKwClCOUaebhbcbbLbdByboe"]⟩,
  ⟨["kawi"],
    ["EERwrbBpdBc"]⟩,
  ⟨["kali", "kayahli"],
    ["CMAaBw"]⟩,
  ⟨["khar", "kharoshthi"],
    ["DWTcebcfibdbBdcdekhj"]⟩,
  ⟨["kits", "khitansmallscript"],
    ["FJIibKGxSc"]⟩,
  ⟨["khmr", "khmer"],
    ["IXkDqckgkSsBg"]⟩,
  ⟨["khoj", "khojki"],
    ["EDikCHOikBOBmsbBv"]⟩,
  ⟨["sind", "khudawadi"],
    ["DOmcCIDmkBOIgChfk"]⟩,
  ⟨["laoo", "lao"],
    ["FMvcbbbfbybbbxcfbbbhbkce"]⟩,
  ⟨["latn", "latin"],
    ["CnBagBaBvbpbfxbBfbRhBnfEwnKrcBVecCXkbEOiBmgBxfefnbCsCnJwLrbCnbnbqnDfbCfcgbBbbrBpECtBgBUKeiBa",
     "DydCpccbbbivoLqbTtBrbjbeBEDqhBOkBagBaDCfgbBqbjDDNpBfgg"]⟩,
  ⟨["lepc", "lepcha"],
    ["KPsCedpdd"]⟩,
  ⟨["limb", "limbu"],
    ["DOnbFXqBfbmemebdm"]⟩,
  ⟨["lina", "lineara"],
    ["DTItBtBVgLzjwki"]⟩,
  ⟨["linb", "linearb"],
    ["DSYqmbBabtbcbpcoBiEtfdeBtdj"]⟩,
  ⟨["lisu"],
    ["CKKuBwBUMab"]⟩,
  ⟨["lyci", "lycian"],
    ["DTXgBd"]⟩,
  ⟨["lydi", "lydian"],
    ["DWKmBafb"]⟩,
  ⟨["mahj", "mahajani"],
    ["DOmmCIDckBNUsBn"]⟩,
  ⟨["maka", "makasar"],
    ["EEQqz"]⟩,
  ⟨["mlym", "malayalam"],
    ["DNtcrcBJmnbdbBzbdbgeqcBaFVebCATxd"]⟩,
  ⟨["mand", "mandaic"],
    ["CJobTrBccb"]⟩,
  ⟨["mani", "manichaean"],
    ["CJobDUQxBnem"]⟩,
  ⟨["marc", "marchen"],
    ["EDSqBgcwbo"]⟩,
  ⟨["gonm", "masaramgondi"],
    ["DOmcEAJqhbcbBsdbbcbjik"]⟩,
  ⟨["medf", "medefaidrin"],
    ["FISeDn"]⟩,
  ⟨["mtei", "meeteimayek"],
    ["CMSmxHtBuck"]⟩,
  ⟨["mend", "mendekikakui"],
    ["HCUyHpcq"]⟩,
  ⟨["merc", "meroiticcursive"],
    ["DWPkyeucBu"]⟩,
  ⟨["mero", "meroitichieroglyphs"],
    ["DWOeBg"]⟩,
  ⟨["plrd", "miao"],
    ["FIZoCxeCfhr"]⟩,
  ⟨["modi"],
    ["CLSakBPOwCrlk"]⟩,
  ⟨["mong", "mongolian"],
    ["JCiBagDlhBrCWabDPGan"]⟩,
  ⟨["mroo", "mro"],
    ["FHEuBfbkec"]⟩,
  ⟨["mult", "multani"],
    ["DYkkDWAahbbbebpbl"]⟩,
  ⟨["mymr", "myanmar"],
    ["GBoGeCFUcbGvBfDtBg"]⟩,
  ⟨["nbat", "nabataean"],
    ["DWEiBfij"]⟩,
  ⟨["nagm", "nagmundari"],
    ["HBPoBq"]⟩,
  ⟨["nand", "nandinagari"],
    ["DOmcBImkGBhbibhbCASrgBQYsicBucl"]⟩,
  ⟨["talu", "newtailue"],
    ["JRcBseBagldc"]⟩,
  ⟨["newa"],
    ["EANoDobf"]⟩,
  ⟨["nkoo", "nko"],
    ["CHobobdbQaChcdDOWsc"]⟩,
  ⟨["nshu", "nushu"],
    ["FJIfbYVmPg"]⟩,
  ⟨["hmnp", "nyiakengpuachuehmong"],
    ["HAEaBtdockec"]⟩,
  ⟨["ogam", "ogham"],
    ["INoBd"]⟩,
  ⟨["olck", "olchiki"],
    ["KSuBw"]⟩,
  ⟨["hung", "oldhungarian"],
    ["DXRsBznBzhg"]⟩,
  ⟨["ital", "olditalic"],
    ["DUCeBkjd"]⟩,
  ⟨["narb", "oldnortharabian"],
    ["DWYaBg"]⟩,
  ⟨["perm", "oldpermic"],
    ["BSlbDSMuBr"]⟩,
  ⟨["xpeo", "oldpersian"],
    ["DUIiBkeo"]⟩,
  ⟨["sogo", "oldsogdian"],
    ["DYQiBo"]⟩,
  ⟨["sarb", "oldsoutharabian"],
    ["DWWuBg"]⟩,
  ⟨["orkh", "oldturkic"],
    ["DXMuCv"]⟩,
  ⟨["ougr", "olduyghur"],
    ["CJobDUSvbBSfBa"]⟩,
  ⟨["orya", "oriya"],
    ["DNtcrcPvdbicccwbhbcbfcjcccdhdecbfcsGPebxb"]⟩,
  ⟨["osge", "osage"],
    ["DUSuBkeBk"]⟩,
  ⟨["osma", "osmanya"],
    ["DUQyBeck"]⟩,
  ⟨["hmng", "pahawhhmong"],
    ["FHMeCskkbhbvft"]⟩,
  ⟨["palm", "palmyrene"],
    ["DWDcBg"]⟩,
  ⟨["pauc", "paucinhau"],
    ["EDCaCf"]⟩,
  ⟨["phag", "phagspa"],
    ["JCkcbbCCQcCe"]⟩,
  ⟨["phnx", "phoenician"],
    ["DWJgBcdb"]⟩,
  ⟨["phlp", "psalterpahlavi"],
    ["CJobDUYhshemh"]⟩,
  ⟨["rjng", "rejang"],
    ["CMBwBklb"]⟩,
  ⟨["runr", "runic"],
    ["IOuCxdl"]⟩,
  ⟨["samr", "samaritan"],
    ["DAuBucp"]⟩,
  ⟨["saur", "saurashtra"],
    ["CLVcCsim"]⟩,
  ⟨["shrd", "sharada"],
    ["DNtbHKfbbbcccbDOQpDs"]⟩,
  ⟨["shaw", "shavian"],
    ["DUPcBw"]⟩,
  ⟨["sidd", "siddham"],
    ["EBCiCccBm"]⟩,
  ⟨["sgnw", "signwriting"],
    ["GWTkZcpfbp"]⟩,
  ⟨["sinh", "sinhala"],
    ["DOmcBOldbsdybjbbchdbegbbbigkcdDULgu"]⟩,
  ⟨["sogd", "sogdian"],
    ["CJobDWIpBq"]⟩,
  ⟨["sora", "sorasompeng"],
    ["DZIezhk"]⟩,
  ⟨["soyo", "soyombo"],
    ["ECXsDf"]⟩,
  ⟨["sund", "sundanese"],
    ["KKuCmJwi"]⟩,
  ⟨["sylo", "sylotinagri"],
    ["DOmcEykCHWiBt"]⟩,
  ⟨["syrc", "syriac"],
    ["CHoboccbBgbklBabFnobCicdKmlIEfbbb"]⟩,
  ⟨["tglg", "tagalog"],
    ["ISmwjbvc"]⟩,
  ⟨["tagb", "tagbanwa"],
    ["IUncBpnbdbc"]⟩,
  ⟨["tale", "taile"],
    ["GEakDKwBecf"]⟩,
  ⟨["lana", "taitham"],
    ["JXgClbBdclgkgo"]⟩,
  ⟨["tavt", "taiviet"],
    ["CMOuCpyf"]⟩,
  ⟨["takr", "takri"],
    ["DOmcCIDmkBPTuCggk"]⟩,
  ⟨["taml", "tamil"],
    ["DNtcrcUucbgddbedcbbbcdcdddmefddbecbgbovGKdbCBBkbBOEfbbbCdcETfBynb"]⟩,
  ⟨["tnsa", "tangsa"],
    ["FHGqDbbk"]⟩,
  ⟨["tang", "tangut"],
    ["FJIebBfJCaiBDoTsj"]⟩,
  ⟨["telu", "telugu"],
    ["DNtcrcZqnbdbxbqcjbdbehcbdcbceckhjGFabxb"]⟩,
  ⟨["thaa", "thaana"],
    ["CHoboccbCmkKsByDPGqbkb"]⟩,
  ⟨["thai"],
    ["FHxCgfBc"]⟩,
  ⟨["tibt", "tibetan"],
    ["FRsCubBkeBnbBkbpbhec"]⟩,
  ⟨["tfng", "tifinagh"],
    ["RCyCehcob"]⟩,
  ⟨["tirh", "tirhuta"],
    ["DNtcrcHKmbCASzkBPAcCuik"]⟩,
  ⟨["toto"],
    ["HATkBf"]⟩,
  ⟨["ugar", "ugaritic"],
    ["DUHcBebb"]⟩,
  ⟨["vaii", "vai"],
    ["CKMqLo"]⟩,
  ⟨["vith", "vithkuqi"],
    ["DVAelbpbhbcblbpbhbc"]⟩,
  ⟨["wcho", "wancho"],
    ["HAVgCgfb"]⟩,
  ⟨["wara", "warangciti"],
    ["ECHcDfmb"]⟩,
  ⟨["yezi", "yezidi"],
    ["CHobobdbCmkDWAgBqbdcc"]⟩,
  ⟨["yiii", "yi"],
    ["SErcfkciIpbBQBcBSvdCdBIIcf"]⟩,
  ⟨["zanb", "zanabazarsquare"],
    ["ECUqCu"]⟩]

end CodeGraph.Unicode
