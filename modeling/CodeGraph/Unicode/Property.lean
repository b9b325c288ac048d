import CodeGraph.Unicode.Category

/-! # Binary properties

The properties a character has or has not.
-/

namespace CodeGraph.Unicode

/-- The binary properties. -/
def properties : List NamedSet := [
  ⟨["ahex", "asciihexdigit"],
    ["BwkhgBag"]⟩,
  ⟨["alpha", "alphabetic"],
    ["CnBagBaBvbkbebfxbBfbRqemofhbbbDibBqfbccebbgbbdbbbubDfbFjiGkbBmcbgBpBnobbbcbcbbiBbeeBdlfCebho",
     "DybieiedkdcbqBwnDxyBhjcebfycttzhlfybgibiBqkmdhgCybqbdepntbicccwbhbbdediccccbbibecbfmckbedbge",
     "ccwbhbcbcbcefecccebhebbrgldbjbdbwbhbcbfdjbdbcdbpeveedbicccwbhbcbfdiccccjcecbfnbqcbgddbedcbbb",
     "cdcdddmefddbddbgbBonbdbxbqdibdbdicbdcbceBcebibdbxbkbfdibdbdicgcbendmnbdbBpcibdbdbbfehfwgbdbs",
     "dybjbbchigbbbiscnCgfhgbBzcbbbfbybbbtbdcfbbgboeBgbClibBketeqbBkCpCdbbcfqCmkecBmbbfbcBrbMvbech",
     "bbbecBpbecBhbechbbbecpbCfbecCpBlqqDicgdXwcrbBafCxdlhulvmumnbdbcmCactobebCpDlhBrfCskBfbmejxBe",
     "cflBseBaCcBceClcuBybxcldBxCabpbiBzBqcekBsbloCdwdkBkclfBrcdBpebgbcdbfHkBnolKscgcBmcgcibbbbbbb",
     "BfcCbbhbbddbhdecgenfdbhEmbnbqnDxbebckbbdfgbbbbbbeblceffebrBpBFhCaCRuIvgedcmBmbbfbcCehbqxjhbh",
     "bhbhbhbhbhbhbBgBvbSbdzjhfcfeDigdbDmbefBrbDqrBgBwqTsJToCmBGUfCpBucKjdqkcuBvfidEjBnjcDzcCpccbb",
     "bivubBhyCamCqbbBsgdbbdkBhfBjnBddBzbmpbqqkfbCdjosxdCrbbbbydcqcelgcgcgjhbhbBrbogEtvQNsmxeBxMNc",
     "OccEcBmhmffmbnbfbbbcbcbEeBhNzsCmcCcBomEmfbFfBkBagBalDldgcgcgcdBjmbBabtbcbpcoBiEtCrCbKhBddBxB",
     "vBgnBefBrfBecBkeibfBqGcsBkeBkeBoiCamlbpbhbcblbpbhbcdCamLzjwkiygbBqbjCrgcbbBsbcdbcxkxjBfCntbc",
     "kwkBaCsCegcCmebcfibdbBdBqBddBdBjibBcBbCckwktnsEgCvCdBznBznBoBiBcdbfxJqBqbcdcqdCdbdBdkbiwBqsB",
     "uvBbxjCsBrfkCfjbnzxBzreiBjdbjCmbejckbbbBjsbBicbgeCkhbbbebpbkhCfxebicccwbhbcbfdiccccdbgbfhGaC",
     "obdbeudBeCoccbbHcCcchzgBiClbbdbChCccbCtBbcovhHdCfDzCmBficbcibcbBebcccceDpicBucgbbbcBbBzckrCu",
     "fbsCvHrBhBfjbBtbhbbBxBecwboCvhbcbBsdbbcbdbbccygbcbBlbcbebbMpxjrbBpddEhbDbBJmDyEhrHoDXkDtpBPg",
     "rgzFXrfWlKDdBeCPuVxhBfrDbrBesBwqeBfvftQqBtIdCmEyCxeCfhrCmcbbmcoJCaiBVqBpkNFrebhbcbLfpbBddcbo",
     "eiPgDKuEdfndjhkebIWfDhbCtbccbcccebmbbbhbCnbecibhbBcbebfbbdhbNcczbzbBfbzbBfbzbBfbzbBfbzbiCSyB",
     "fggIfhbrchbcbffCkBhbEiBtkhqbMjBesBsSqBcIuBecbTbhbebcbpbHpChCqdbdbBUiebBbbcbbcbbkbebbbbgbebbb",
     "bbbdbcbbcbbbbbbbbbbcbbcebhbebebbbkbrfdbfbrYeBagBagBaFMkCLFcBgGDugIocINqoLBlpXyDQwUwCFyHHzfGF",
     "g"]⟩,
  ⟨["bidic", "bidicontrol"],
    ["CIebJVlcBafCde"]⟩,
  ⟨["bidim", "bidimirrored"],
    ["BocsbbbBcbbbBdbbbBtbpbFMseCUncDQqckcCccocGvbHkedgdbdcdebebbbbejfbbsfejcbbbicBfcefbjcctfcjfcc",
     "eycqieuchcBPtoCwbcebcbdfefddoPnwcgboibhgdbefbccfebbdcckgccmtbecbbbcbbefcgdyclceebccceBrcibBo",
     "fbbbdffdebdfbbJwbTvedcbcocckBriQlkciDACrgfcGgcsbbbBcbbbBdbbbbcbcDDPnbCfbCfbCfbCfb"]⟩,
  ⟨["ci", "caseignorable"],
    ["BnbgblbBjbbbCtbebbbebccTjHkecebjcbbJrhHzbfbBxBtbbbcbcbbBsblgklbbBjbkvqbDxibkbeBhbbbBeBbDnlCg",
     "lebcbyyBrdBsbhcfjBpCgCdbbbeiebdhkcnbpbCgbeeibucBabccCfbececcddbBecdblcCfbefbcebucwgbbCgbcbbe",
     "ibhclcBebCjbmbBybdbCdbbdfdbehclcBdbCgbcbgbfcucBccCfceeibucBdbCubhdbbDmbchljDubcjjbbhCvcBbbbb",
     "bbCdobfbcflbBkjbDyebgbccczcedqenbccgbpbDqbXkdBKkdBdcBecBecCmcbhibcldbfbBtfBzbCncBibEodecjbgd",
     "IlccbCgbbhbbbbcigkcbBnbiBfBxeBwbbfbbfbBojmcBgeccbdCebbcdbbdCgiccCmgDedbnbhebgbdcByClnbBiDxRd",
     "bbdldndndncmfickbcbcfBxfbkbbnbqnBzBhEJrcEjdEvbpbDsBgBvbSbbBkedffbDpgDpdBQBubBWcgKkbDuebkbbBc",
     "eDccoBiDabxdDzddcibdbebzcfbFvcBasnbBmizlBudBwbceccrbvcCogccccmbibBjblbBzbbdccfcbbBbbocfcbbDw",
     "fjdErbcbebBDZsbFrrWbqdbmqBibcbGnbhbgblbBjbbbBvbBtcCpbvdTtbIsbFtfBNpgbBqbjWkdbcfeBodebGjcWbeB",
     "mbBafbbMdcDbeCslBxeEtbCcpBpbcckdBxecccbebkbBydBkfbiCkbmcCajkecbDrdcbbcgbcbGbbdivcCfcdbBlhdfH",
     "nicdbbxbDggbbecbcJeegcbcBbcDhicbbcEcbbbcgbbDxdcebfJzjbcJwcbbebFoeccebBgkBogceibjgcdBunbcPqhb",
     "gbbDewchbcbcEsgdbbcbhbbCucdbbbNjclcCaffbbbxbHXdrgpURqfChhjeTodBocSobClrCmcbcYGpebhbcEUgcbeGY",
     "uBucxUydjqchBeeFsdCYdCdeByibobwfbpCAihbrchbcbffCkBhbGeoOebC",
     "jeTnfJucBCihEfiEBffBSXXpbBeDsEyJg"]⟩,
  ⟨["cased"],
    ["CnBagBaBvbkbebfxbBfbHnbeeIabBkhcBefDsbBqecccebbgbbdbbbubDfbFjiGkbBmjBpEFfBmbbfbcBrbeZwDicgDF",
     "ulfBrcdCmHkCmKscgcBmcgcibbbbbbbBfcCbbhbbddbhdecgenfdbhEmbnbqnDxbebckbbdfgbbbbbbebgebceffebrB",
     "gdcBFlCaCRuIvgedcmBmbbfbBTWcBusBeFcDydebCkccbbbivfbdBFpBrbogDcBEAihmfBNtBagBaBTtDcDsBkeBkEml",
     "bpbhbcblbpbhbcRjbcdbBqbjBUzBznBzDpwkwEFiCmBGIqCmBMLkDhbCtbccbcccebmbbbhbCnbecibhbBcbebfbbdhb",
     "NcczbzbBfbzbBfbzbBfbzbBfbzbiCSykbuggKbCkDGkCqDAaBagBagBa"]⟩,
  ⟨["cwcf", "changeswhencasefolded"],
    ["CnBaDmbkxbiBgbbbbbbbbbbbbbbbbbbbbbbbbbbbbbbbbbbbbbbbbbbbbbbbbbbbbbbbcbbbbbbbbbbbbbbbbcbbbbbb",
     "bbbbbbbbbbbbbbbbbbbbbbbbbbbbbbbbbbbbbbbcbbbbbbbcbbbcbdcebcbddcbcbbbbbcbbcbbcbdbbbcdbhcbcbcbb",
     "bbbbbbbbbbbbbbcbbbbbbbbbbbbbbbbbccbbbdbbbbbbbbbbbbbbbbbbbbbbbbbbbbbbbbbbbbbbbbbbbbbbbbbbbbbb",
     "bbbbhcbccbbebbbbbbbbJmbBqbbbdbibgbbdbbbcbrbjwbmddcbbbbbbbbbbbbbbbbbbbbbbbbbcccbbbccBzBwbbbbb",
     "bbbbbbbbbbbbbbbbbbbbbbbbbbbbjbbbbbbbbbbbbbbbbbbbbbbbbbbbbbbbbbbbbbbbbbbbbbbbbbbbbbbcbbbbbbbb",
     "bbbbcbbbbbbbbbbbbbbbbbbbbbbbbbbbbbbbbbbbbbbbbbbbbbbbbbbbbbbbbbbbbbbbbbbbbbbbbbbbbbbbbbbbbbbb",
     "bbbbbbbbcBmBwbEFgBmbbfbBFegDFujhBrcdMibbbbbbbbbbbbbbbbbbbbbbbbbbbbbbbbbbbbbbbbbbbbbbbbbbbbbb",
     "bbbbbbbbbbbbbbbbbbbbbbbbbbbbbbbbbbbbbbbbbbbbbbbbbbbbbbbbbbbbbbbbbbbbbbbbbbbbbbbbbbbbbbbbbbbb",
     "bbbfccbbbbbbbbbbbbbbbbbbbbbbbbbbbbbbbbbbbbbbbbbbbbbbbbbbbbbbbbbbbbbbbbbbbbbbbbbbbbbbbbbbbbbb",
     "bbbbbbbbbbbjiigkiiiiglbbbbbbbiiqBwcdcgfdcglemffdcgLlbdcgbBtqtbBFmBaCSuBwBwbbdcbbbbbbebbcbidb",
     "bbbbbbbbbbbbbbbbbbbbbbbbbbbbbbbbbbbbbbbbbbbbbbbbbbbbbbbbbbbbbbbbbbbbbbbbbbbbbbbbbbbbbbbbbbbb",
     "bbbbbibbbebBTYjbbbbbbbbbbbbbbbbbbbbbbbbbbbbbbbbbbbbbbbbbbbbbtbbbbbbbbbbbbbbbbbbbbbbbbbbbFfbb",
     "bbbbbbbbbbbdbbbbbbbbbbbbbbbbbbbbbbbbbbbbbbbbbbbbbbbbbbbbbbbbbbbbbbbbbbbbbkbbbbcbbbbbbbbebbbc",
     "bbbdbbbbbbbbbbbbbbbbbbbbfbfbbbbbbbbbbbbbbbebbgbfbbbBcbBIgDcBEAihmfBNtBaBUzBoFgBkGalbpbhbcCQc",
     "BzENlBgBGJwBgBULkBi"]⟩,
  ⟨["cwcm", "changeswhencasemapped"],
    ["CnBagBaCgbkxbBfbCmbDgbnbococcbbeDpbsgBbbcbbbcdcbbbcbfcbbccbhbcbbcdgfbkcGkbBqeccddbbgbbdbbbub",
     "BvdBhbfbFdiGkbBmkBnEFgBmbbfbcBrcdZwDicgDFujhBrcdHdbdbqbEjGacbbEocgcBmcgcibbbbbbbBfcCbbhbbddb",
     "hdecgenfdbhLlbdcgbBbbrBgdcBFlCaCRuEjbcbchDyhedcmBmbbfbBTWcBusBcFeocCkjpddcfbzbBbfceeBbcBHcbB",
     "cDcBEAihmfBNtBagBaBTtDcDsBkeBkEmlbpbhbcblbpbhbcCOpBznBzEKzCmBGIqCmBUKeCq"]⟩,
  ⟨["cwl", "changeswhenlowercased"],
    ["CnBaDxxbhBhbbbbbbbbbbbbbbbbbbbbbbbbbbbbbbbbbbbbbbbbbbbbbbbbbbbbbbbcbbbbbbbbbbbbbbbcbbbbbbbbb",
     "bbbbbbbbbbbbbbbbbbbbbbbbbbbbbbbbbbbbbcbbbbdcbbbcbdcebcbddcbcbbbbbcbbcbbcbdbbbcdbhcbcbcbbbbbb",
     "bbbbbbbbbbcbbbbbbbbbbbbbbbbbccbbbdbbbbbbbbbbbbbbbbbbbbbbbbbbbbbbbbbbbbbbbbbbbbbbbbbbbbbbbbbb",
     "hcbccbbebbbbbbbbLdbbbdbibgbbdbbbcbrbjBjbibbbbbbbbbbbbbbbbbbbbbbbfbcbbccBzBwbbbbbbbbbbbbbbbbb",
     "bbbbbbbbbbbbbbbbjbbbbbbbbbbbbbbbbbbbbbbbbbbbbbbbbbbbbbbbbbbbbbbbbbbbbbbcbbbbbbbbbbbbcbbbbbbb",
     "bbbbbbbbbbbbbbbbbbbbbbbbbbbbbbbbbbbbbbbbbbbbbbbbbbbbbbbbbbbbbbbbbbbbbbbbbbbbbbbbbbbbbbbbcBmE",
     "HdBmbbfbBBuDiDGsBrcdMibbbbbbbbbbbbbbbbbbbbbbbbbbbbbbbbbbbbbbbbbbbbbbbbbbbbbbbbbbbbbbbbbbbbbb",
     "bbbbbbbbbbbbbbbbbbbbbbbbbbbbbbbbbbbbbbbbbbbbbbbbbbbbbbbbbbbbbbbbbbbbbbbbbbbbbbbjbbbbbbbbbbbb",
     "bbbbbbbbbbbbbbbbbbbbbbbbbbbbbbbbbbbbbbbbbbbbbbbbbbbbbbbbbbbbbbbbbbbbbbbbbbbbbbbbbbbbbjiigkii",
     "iiglbbbbbbbiiyiiiiiiflflemflfLlbdcgbBtqtbBFmBaCSuBwBwbbdcbbbbbbebbcbidbbbbbbbbbbbbbbbbbbbbbb",
     "bbbbbbbbbbbbbbbbbbbbbbbbbbbbbbbbbbbbbbbbbbbbbbbbbbbbbbbbbbbbbbbbbbbbbbbbbbbbibbbebBTYjbbbbbb",
     "bbbbbbbbbbbbbbbbbbbbbbbbbbbbbbbbbbbbbbbtbbbbbbbbbbbbbbbbbbbbbbbbbbbFfbbbbbbbbbbbbbdbbbbbbbbb",
     "bbbbbbbbbbbbbbbbbbbbbbbbbbbbbbbbbbbbbbbbbbbbbbbbbbbbkbbbbcbbbbbbbbebbbcbbbdbbbbbbbbbbbbbbbbb",
     "bbbfbfbbbbbbbbbbbbbbbebbgbfbbbBcbBHAhBaBUzBoFgBkGalbpbhbcCQcBzENlBgBGJwBgBULkBi"]⟩,
  ⟨["cwt", "changeswhentitlecased"],
    ["DtBaCgbBpybibbbbbbbbbbbbbbbbbbbbbbbbbbbbbbbbbbbbbbbbbbbbbbbbbbbbbbbbcbbbbbbbbbbbbbbcbbbbbbbb",
     "bbbbbbbbbbbbbbbbbbbbbbbbbbbbbbbbbbbbbbcbbbbdcbbbcbdbfbcbdcdbcbbbbbcbebcbdbbbcbdbbbebbcbcbbbb",
     "bbbbbbbbbbbbbcbbbbbbbbbbbbbbbbbdbbbbdbbbbbbbbbbbbbbbbbbbbbbbbbbbbbbbbbbbbbbbdbbbbbbbbbbbbbbb",
     "bbibccbbebbbbbbbbgbcbbbcdcbbbcbfcbbccbhbcbbcdgfbkcGkbBrbbbdbddsbBbBjbcddbbbbbbbbbbbbbbbbbbbb",
     "bbbfbbcbcbCaBwbbbbbbbbbbbbbbbbbbbbbbbbbbbbbbbbbbjbbbbbbbbbbbbbbbbbbbbbbbbbbbbbbbbbbbbbbbbbbb",
     "bbbbbbbbbbcbbbbbbbbbbbbcbbbbbbbbbbbbbbbbbbbbbbbbbbbbbbbbbbbbbbbbbbbbbbbbbbbbbbbbbbbbbbbbbbbb",
     "bbbbbbbbbbbbbbbbbbbbbbbbbbbbBxBnFMegDFujJgbdbqbEkbbbbbbbbbbbbbbbbbbbbbbbbbbbbbbbbbbbbbbbbbbb",
     "bbbbbbbbbbbbbbbbbbbbbbbbbbbbbbbbbbbbbbbbbbbbbbbbbbbbbbbbbbbbbbbbbbbbbbbbbbbbbbbbbbbbbbbbbbbb",
     "bbbbbbbbbbbbbhfbbbbbbbbbbbbbbbbbbbbbbbbbbbbbbbbbbbbbbbbbbbbbbbbbbbbbbbbbbbbbbbbbbbbbbbbbbbbb",
     "bbbbbbbbbbbbbbbbbjigkiiiigkiiiiociiiiiifbcgbddbciecciikdbcNebBhqebBGlBaCTqBwbbdcbbbbbbgbcbkb",
     "bbbbbbbbbbbbbbbbbbbbbbbbbbbbbbbbbbbbbbbbbbbbbbbbbbbbbbbbbbbbbbbbbbbbbbbbbbbbbbbbbbbbbbbbbbbb",
     "bbbbbbibbbebmBmbbfbBTWdbbbbbbbbbbbbbbbbbbbbbbbbbbbbbbbbbbbbbbbbbbbbbtbbbbbbbbbbbbbbbbbbbbbbb",
     "bbbbFfbbbbbbbbbbbbbdbbbbbbbbbbbbbbbbbbbbbbbbbbbbbbbbbbbbbbbbbbbbbbbbbbbbbbbbbbbbbkbbbcbbbbbb",
     "bbbebebbccbbbbbbbbbbbbbbbbbbblbbbbbbbbbbbbbbbebbbgbfbbbBcbBHcbBcDcBEAihmfBOzBaBVhBoFgBkFzlbp",
     "bhbcCRbBzEMfBgBGJwBgBULmBi"]⟩,
  ⟨["cwu", "changeswhenuppercased"],
    ["DtBaCgbBpybibbbbbbbbbbbbbbbbbbbbbbbbbbbbbbbbbbbbbbbbbbbbbbbbbbbbbbbbcbbbbbbbbbbbbbbcbbbbbbbb",
     "bbbbbbbbbbbbbbbbbbbbbbbbbbbbbbbbbbbbbbcbbbbdcbbbcbdbfbcbdcdbcbbbbbcbebcbdbbbcbdbbbfcbcbcbbbb",
     "bbbbbbbbbbbcbbbbbbbbbbbbbbbbbcbcbbdbbbbbbbbbbbbbbbbbbbbbbbbbbbbbbbbbbbbbbbdbbbbbbbbbbbbbbbbb",
     "ibccbbebbbbbbbbgbcbbbcdcbbbcbfcbbccbhbcbbcdgfbkcGkbBrbbbdbddsbBbBjbcddbbbbbbbbbbbbbbbbbbbbbb",
     "bfbbcbcbCaBwbbbbbbbbbbbbbbbbbbbbbbbbbbbbbbbbbbjbbbbbbbbbbbbbbbbbbbbbbbbbbbbbbbbbbbbbbbbbbbbb",
     "bbbbbbbbcbbbbbbbbbbbbcbbbbbbbbbbbbbbbbbbbbbbbbbbbbbbbbbbbbbbbbbbbbbbbbbbbbbbbbbbbbbbbbbbbbbb",
     "bbbbbbbbbbbbbbbbbbbbbbbbbbBxBnEHcBrcdBDggDFujJgbdbqbEkbbbbbbbbbbbbbbbbbbbbbbbbbbbbbbbbbbbbbb",
     "bbbbbbbbbbbbbbbbbbbbbbbbbbbbbbbbbbbbbbbbbbbbbbbbbbbbbbbbbbbbbbbbbbbbbbbbbbbbbbbbbbbbbbbbbbbb",
     "bbbbbbbbbbbbbbbbbbhfbbbbbbbbbbbbbbbbbbbbbbbbbbbbbbbbbbbbbbbbbbbbbbbbbbbbbbbbbbbbbbbbbbbbbbbb",
     "bbbbbbbbbbbbbbbbbbbbbbjigkiiiigkiiiiocCbbcebbbddbcebdecciikdbcebMzbBhqebBGlBaCTqBwbbdcbbbbbb",
     "gbcbkbbbbbbbbbbbbbbbbbbbbbbbbbbbbbbbbbbbbbbbbbbbbbbbbbbbbbbbbbbbbbbbbbbbbbbbbbbbbbbbbbbbbbbb",
     "bbbbbbbbbbbbibbbebmBmbbfbBTWdbbbbbbbbbbbbbbbbbbbbbbbbbbbbbbbbbbbbbbbbbbbbbtbbbbbbbbbbbbbbbbb",
     "bbbbbbbbbbFfbbbbbbbbbbbbbdbbbbbbbbbbbbbbbbbbbbbbbbbbbbbbbbbbbbbbbbbbbbbbbbbbbbbbbbbbbbbkbbbc",
     "bbbbbbbbbebebbccbbbbbbbbbbbbbbbbbbblbbbbbbbbbbbbbbbebbbgbfbbbBcbBHcbBcDcBEAihmfBOzBaBVhBoFgB",
     "kFzlbpbhbcCRbBzEMfBgBGJwBgBULmBi"]⟩,
  ⟨["dash"],
    ["BtbCAubBzbFKjbBNpbDBdgCjbBnbpbPabEOibcbBfcebBcbRebtbEhbCZWacBlbkbGnbFXvb"]⟩,
  ⟨["di", "defaultignorablecodepoint"],
    ["GrbZxbBBobEGwcCKhcDhfDApfBafBxqGKybCZMpqJfbGebDbjCTLneHWxiBTKZlGBo"]⟩,
  ⟨["dep", "deprecated"],
    ["MrbBYvbDKtbbbDCjcDIjgBAvcBZRYkb"]⟩,
  ⟨["dia", "diacritic"],
    ["DqbbbCtbgbebccTjGdbifgrcebjcJtfIbbCdrbBbbbbcbbFeiecFececddCpBbDnlCglBicEwiBpkqBcCjbqbdeBcbCw",
     "bqbEgbqbEgbqbBvdCibqbhbEpbEgbqbEgbqbEfcqbEubEugbbEdbnfCxcBbbbbbbecCodbcCkbEibbcBocefzhbbkcBB",
     "ddBKmcGxljbNjdMbicbBwpclEabpbBmjCccFicCmgDezebgbcdByClDlmBllRdbbdldndndncEXkdMfbTmgEbeDrbBSM",
     "kbmcbbBccDecoBiDydEfcHubBbsCfeBkbDrbmbBkbFtdCneBzbDwfjdEycBDZsbBDpqKkbbbBvbBtcCpbBDkbBTngbBq",
     "bjBFecVzgSbdCslBxeHkbBpbCucEqcCkbCybjdEacGwcDdbqbyhdfHxbdbEtcJrcEwbEocElbKjcJycebGabDfbsbDdb",
     "QfbJybbcDdbIPjpURqfChhBQurDccYGcebhbcLThBucxUyddgiichBeeFMwCkHmhOlbCjeCFwhEfdbd"]⟩,
  ⟨["emoji"],
    ["BjbgbfkEhbebLYrbmbIibwbDmgpcOdcmbGkbzledHrbIxckbjbCgebfjbcbcccbebcbbccbdbdcidfbbbfmlccbbcbbs",
     "bccsgbbbcdcfbcceclcfccbfcbbbcucfgbecbebcbcgbbcbbbbbgbdbgbkcpbcbebbbedbblcBwdjbobobOicRvdtcBz",
     "bebBVubmbXdbbbGMRqbHubGecmcobckCxBabcxbubcjvcGsBicEiccbdcDfcdbKdbCllgbyhccimbcecbecnccbicjbf",
     "dmdidcbbbebgbdbgDiBwCsficdekdbbcdbckItmebKxBvbkbHdEindjhBubhioejhj"]⟩,
  ⟨["ecomp", "emojicomponent"],
    ["BjbgbfkMBjbIfbDFTrbDOIwBaTnfCEaeBSVUqDs"]⟩,
  ⟨["emod", "emojimodifier"],
    ["HHIxf"]⟩,
  ⟨["ebase", "emojimodifierbase"],
    ["OLhbIlbqeGSJvbCidcbcdEncclvtdbedbdhbbbybHtcebvbecGsddfDfbqdjblbWdbcbiigbjkcdCebCjcbcbbrdbnIv",
     "dBqj"]⟩,
  ⟨["epres", "emojipresentation"],
    ["NHqcHxedbcbUbcvcBymBrbtbnbicrcfcibfbvbhcbbebcbhbecBcbBjbbbedbbCjdybobBHbcBzbebGPLebHubHibckC",
     "xBabbybubcfbdvcGsBhmjbCsbwmBrefmrdbdCtbbbHfcClnebysbBacnbDiDhBwCsgbddcdeelchjItmebKxBvbkbHdE",
     "indjhBubhioejhj"]⟩,
  ⟨["extpict", "extendedpictographic"],
    ["GnbebLYrbmbIibwbDmgpcOdcmbDrbCsbzledHrbIxckbjbCgebgbmbEkkEoclbbbbgbdbgbkcpbcbebbbedbblfBtdjb",
     "obobOicRvdtcBzbebBVubmbXdbbbGMRmJwndBfbCigmcobcksCfBbpkbubcjbejQsfMgiKgBwEyEmmDhBrmeCeikgBoi",
     "BeDemBvbkbQzJwBNi"]⟩,
  ⟨["ext", "extender"],
    ["HbbUqcBHubQzbBHabBCybExbDNfbCebXnbPibCqbHKjbBrfDzcDpdBQBubCGsbBLabwbFhbEebvcBFZvbDBkcEMsbXsd",
     "BVjbBEOfcBTkcbbBQYacDBad"]⟩,
  ⟨["grbase", "graphemebase"],
    ["BgDrBhnbWwEiicgehbbbubIqhGkbBmcBycdBubbbcbcbjBbegrklbbBuvqbDxibgccbeBgcbbBeBdDllboBrjhdyebjb",
     "dbhpbzfbblfBfrBqCfCdbbbeiebdhkcBdbcbicccwbhbbdedbbcgcccbbncbdeyfbbgeccwbhbcbcbcedyebbhkcdbbm",
     "bbjbdbwbhbcbfdeibbcdbpcemhbicbicccwbhbcbfdbcbgcccpcbdeslbbgddbedcbbbcdcdddmfbbcddbddbvvgdbib",
     "dbxbqdbdetdcbccekhkblbdbxbkbfdcbcbcccbcrcbcekbdolbdbBpcbbcfdbdbcedbkeBaccbsdybjbbchjcghhkcdm",
     "BwbcliinBlcbbbfbybbbkbcjbcfbbjkceBgycBbbbbbbobBksbfbcfBxibgbnBlBtebgbccczcedqenbccgbpbBobbfb",
     "cOnbechbbbecBpbecBhbechbbbecpbCfbecCpfBddBagDicgcZtdDlhsdbjtcdjsonbdpCacbhibcljdkgkglfkgDlhf",
     "cBibbfCskBfeecdecbghbdBqcflBseBagldCfccdCebbjbbcignkgkgoDiBwhbbfbkdBbjldBgeccbdCebbcdbbdciBw",
     "icfpdCihBrcllbnbhebgbdcbfHkCmKscgcBmcgcibbbbbbbBfcCbbpbocgbtcdbjblfyhBxqccBbbndBhClFkeZnzlvC",
     "RscBgbNgdcfBtbbfbcCehcpxjhbhbhbhbhbhbhbhBhDqBiBabDlmIgBameBqgqbDieDxfBrbDqbDgmBvbBRIrdCdjNku",
     "BvebkBgcDccgiHvfcbbbfyqbdbebzcfekgCeiCqkmynbBmizlclBegBwbceccqblehbzbBpgcccldbibbckcBgbBzbbd",
     "ccfcbbbyrcilgcgcgjhbhbCieEnbcbedkgQNsmxeBxMNcOccEcBmhmffbbybfbbbcbcbEvqRdcCchbBgqqkwBjbtbeef",
     "bFfeGbcBfdgcgcgcddhbhnccmbBabtbcbpcoBiEtfdeBtdDkbndbBvBtFbBddBxqBbeBkjBefBmkBebBleoBqGcckgBk",
     "eBkeBoiCalmbpbhbcblbpbhbcCpLzjwkiygbBqbjCrgcbbBsbcdbcxbCuijBwtbcfBhdBbfbCmCeeucBvpebdbBdkjhj",
     "hCmBgBlgmjCcdBdcBbfBahemhDcCvCdBznBzhBqmkLiBfbBqdbccDaBoiwljwseeBmBcuxjbbCcpheBebccbmBxecccb",
     "eozhkjBkfbjsiBjbdlCajkecbqbulsbBcdcbbcgbcClhbbbebpblgBvbdnkicbicccwbhbcbfdbbbbecccdcbmhGaCei",
     "cdbbvbbbdBeBwbcgbbcbbcbceikGkBvbcgecbcBbBkBzicbbcelkgntBrbbbcgbbcgkCcBbfcebjxHdBvjbcbDwDfmic",
     "bcibcbybfbcebbebdjkCsicBqiebeBbbkBogceijbgcdBunbcjnCvhkJmjbBmobbgkBddBgzbhbcbCxhbcbBmvbjkggb",
     "cbBlecbbbbhkLytcejpbBkicbbbxDibpBynBJnDyEhbflHoDXkDvnBPgrgFYvWlMUbVxhBfbkeDdbkgBehbkBwhpkkbh",
     "bvftBAmDnDxCxfCelnCmemcoJCaiBVqBqjNFrebhbcbLfpbBddcboeiPgDKuEdfndjhkcbcbHCaEmCiJmkBncCibbdev",
     "chBeeCjvCodbEsumumDjjzFfDhbCtbccbcccebmbbbhbCnbecibhbBcbebfbbdhbNccLgcVqCdeByibobhBRwBfggKbC",
     "kFqBtkhckecMiBesBsekfbRwBcekBCohbebcbpbHpcjBwCqhbekecBEfCqCyCjHmebBbbcbbcbbkbebbbbgbebbbbbbd",
     "bcbbcbbbbbbbbbbcbbcebhbebebbbkbrfdbfbrCacKkBseDwmpcpbpbBlkGsCeBdnBsejhcogFyBLwerdndEpeDrgmeb",
     "pmeCeikgBoiBeccDaNcmocndjhBubhioejhjhFrbCdBlkBNqCLFcBgGDugIocINqoLBlEPjUwCFyHHzfGFg"]⟩,
  ⟨["grext", "graphemeextend"],
    ["BDoEiKphKdBtbbbcbcbbCulBwvqbDxhcgccbeBjbBeBbDnlCgjjbyebjbdbfBrdChjBqybBgCdbbbeiebdhkcBdbCgbb",
     "bceibjbkcBabccCfbececcddbBecdblcCfbefbcebucwgbbCgbbcbeibhdkcBebChbbbmbjbBobdbCdbbdfdbehclcBd",
     "bCgbcbcbdbfchclcBccCfcbbceibjbkcBdbCubebcdbbibDdbchmiDubcjlhCvcBbbbbbbCdobfbcflbBkjbDyebgbcc",
     "czcedqenbccgbpbBBbdBKkdBdcBecBecCmcbhibcljbBtdbbEncBibEodecjbgdIlccbCgbbhbbbbcigkcbBwBfBxeBw",
     "hbbfbBojmcBgeccbdCebbcdbbdCgiccFwdbnbhebgbdcHqCmUebHnBhEOcdFlbDsBgVigEbcBSQeebkBgcDccKmbdbeb",
     "zcfbFvcBasnbBmizlBudBwbceccBnbCpgccccmbibBvbBzbbdccfcbbBqcibJebcbebBDZsbBCjqqqOccXhbIsbFtfCM",
     "gdbcfeBodebGjcWbeCnfMfcDbeCslBxeEtbCcpBpbcckdBxecchbCjdBkfbiCkbmcCajkecbDrdcbbcgbcbGbbdivcCf",
     "cbbbbwbohdfHnicdbbxbDdbcgbbcbbcbcJbbcegcbcBbcDhicbbcEcbbbcgbbDxdcebfJzjbcJlbkcbbebFoeccebBgk",
     "BogceibjgcdBunbcPqhbgbbDewchbcbcEsgdbbcbhbbCucdbbbNjclcCaffbbbxbHXtbgpURqfChhBOibCleDdbBDBkc",
     "GYzBucxUwbbdefiichBeeFsdCYdCdeByibobwfbpCAihbrchbcbfDwbGehOlbCjeToeJucBCihEfhBTCAfDsEyJg"]⟩,
  ⟨["hex", "hexdigit"],
    ["BwkhgBagDSLlkhgBag"]⟩,
  ⟨["idsb", "idsbinaryoperator"],
    ["SEacci"]⟩,
  ⟨["idst", "idstrinaryoperator"],
    ["SEcc"]⟩,
  ⟨["idc", "idcontinue"],
    ["BwkhBaebbBaBvbkbbbcbfxbBfbRqemofhbbbrEnbccebbgfbbbubDfbFjbfcGkbBmcbgBpiBtbbbcbcbbiBbeeBdlfCw",
     "eDybickbtcbqChcDxoCcebcbcBusBcelfybgiCxbEzckbtbicccwbhbbdecjccceibecbfcmkbbbcdbgeccwbhbcbcbc",
     "cbbfeccddbhebbhqldbjbdbwbhbcbfckbdbdcbpeckjhbdbicccwbhbcbfcjcccdhdecbfckbbqcbgddbedcbbbcdcdd",
     "dmefddbecbgbokqnbdbxbqcjbdbehcbdcbceckqebibdbxbkbfcjbdbehcgcbeckbdmnbdbBzbdbffehfckkgbdbsdyb",
     "jbbchdbegbbbigkccnCgfpbkBncbbbfbybbbxcfbbbhbkceBgbxcgklbbbbbekbBkeubsbBkjbCfCwgDacBmbbfbcBrb",
     "MvbechbbbecBpbecBhbechbbbecpbCfbecCpcdjjoqqDicgdXwcrbBafCxdlhwjwlumnbdbcmDgdbecckBhdblgDlhBr",
     "fCskBfbmemkBocflBseBaglBlBceClbBdclgknbiobqBxCzdkrjmEmmCeikdBxclfBrcdqdbBnfUocgcBmcgcibbbbbb",
     "bBfcCbbhbbddbhdecgenfdbhCoctbBcbnbqnBznebdmrbebckbbcggbbbbbbqceffebrBpDZbIvgjmBmbbfbcCehbpyj",
     "hbhbhbhbhbhbhbhbBgTxdzpbfcfeDichbDmbefBrbDqrBgBwqTsJToCmBGUfCpBucKjdBcuBwekbElBljcDzcCpccbbb",
     "ivCcebtCamCskkgydbbBxcBkmBddCnolgBfbCdjockgxdCvydcqcfkgcgcgjhbhbBrbogEtbcckgQNsmxeBxMNcOccEc",
     "BmhmffmbnbfbbbcbcbEeBhNzsCmcCcBomeqqqdcydBgfbFftkhBaebbBalDldgcgcgcdBjmbBabtbcbpcoBiEtCrCbFg",
     "bFaBddBxpbBfBgnBefBrfBecBkeibfBqGcckgBkeBkeBoiCamlbpbhbcblbpbhbcdCamLzjwkiygbBqbjCrgcbbBsbcd",
     "bcxkxjBfCntbckwkBaCsCegcCmebcfibdbBdcdebBgBddBdBjibBezCckwktnsEgCvCdBznBznBoikgBmdfbxJqBqbcd",
     "cqdCdBhkbiBhBfwBqvBbxjCtBfqjCihbnzhkgCbbkeeiBkcbjCreebnbbBjsbBlgeCkhbbbebpbkhChfkgebicccwbhb",
     "cbfbkcccdcbgbfhchdfFjCxfkeeBeCsbbikGkCccjxgBiCndblkBmCfhkguBcBbcpekghHdChDxCwvicbcibcbBebccj",
     "mkCsicBucibcBbClibiCwdbsCvHrBhpkgjbBtbjpkyBecwboCvhbcbBsdbbcbjikggbcbBlbcbghkLyxjrbBpdfnlDhb",
     "DbBJmDyEhrHoDXkDtpBPgqwkFXrfWlKDdBeskCOsVxhBfbkgDbbkgBecflCdjemkjvftQqBtdkHqCmEyCxeCfhrCmcbc",
     "lcoJCaiBVqBpkNFrebhbcbLfpbBddcboeiPgDKuEdfndjhkdcGErkTyBucxUwfdgiichBeeFsdRbDhbCtbccbcccebmb",
     "bbhbCnbecibhbBcbebfbbdhbNcczbzbBfbzbBfbzbBfbzbBfbzbicByTsCdeByibobwfbpBQmBfggIfhbrchbcbffCkB",
     "hbEiBtdockebMjBfrCgScBqIgBrSrhbebcbpbHplhBpCyekBTuebBbbcbbcbbkbebbbbgbebbbbbbdbcbbcbbbbbbbbb",
     "bcbbcebhbebebbbkbrfdbfbrFAakBNqCLFcBgGDugIocINqoLBlpXyDQwUwCFyHHzfGFgBONHgJg"]⟩,
  ⟨["ids", "idstart"],
    ["CnBagBaBvbkbebfxbBfbRqemofhbbbEzfbccebbgbbdbbbubDfbFjiGkbBmcbgBpCtBbeeBtBrBjcbDvbbpchckdcbqb",
     "bBeBdDllbyBhjcebfwebjbdbxzhlfybgrBqCgCcdbsbhkpqeicccwbhbbdedbqbncbdockbigeccwbhbcbcbcBfebbtd",
     "qjbdbwbhbcbfdbsbpcxblicccwbhbcbfdbBecbdpbrbbgddbedcbbbcdcdddmwbCaibdbxbqdbBadcbccBebeibdbxbk",
     "bfdbBfcbcpcrjbdbBpcbqbfdidygfsdybjbbchCgBwbcmhCgcbbbfbybbbkbcjbcfbbveBgbClibBkBbfElBrubqgeed",
     "bdchdenmbrBmbbfbcBrbMvbechbbbecBpbecBhbechbbbecpbCfbecCpBlqqDicgdXwcrbBafCxdlhsntosonbdpCaBj",
     "bebCpDlhBpbbfCskBfBxBecflBseBaCcxjCbDebDpBvriCcBenckBsBaBkBpdkBkclfBrcdBpebgbcdbfHkCmKscgcBm",
     "cgcibbbbbbbBfcCbbhbbddbhdecgenfdbhEmbnbqnDxbebckbbcggbbbbbbqceffebrBpDZbIvgedcmBmbbfbcCehbqx",
     "jhbhbhbhbhbhbhbhVedzjhfcfeDiefbDmbefBrbDqrBgBwqTsJToCmBGUfCpBucKjdqkcuBvqBfcDcBnjcDzcCpccbbb",
     "ivqbdbebxBdCaoByCkgdbbclBckxzBdhBvBcbqfbkkfbBpxdbiuxdbdBybbdccfcbbbydclhdmgcgcgjhbhbBrbogElB",
     "dQNsmxeBxMNcOccEcBmhmffbbkbnbfbbbcbcbEeBhNzsCmcCcBomEmfbFfBkBagBalDldgcgcgcdBjmbBabtbcbpcoBi",
     "EtCrCbKhBddBxBvBgnBefBmkBecBkeibfBqGcsBkeBkeBoiCamlbpbhbcblbpbhbcdCamLzjwkiygbBqbjCrgcbbBsbc",
     "dbcxkxjBfCntbckwkBaCsCegcCmbpebdbBdBqBddBdBjibBcBbCckwktnsEgCvCdBznBznBkBmBcjxJqBqgcqdChBdkb",
     "iwBqsBuvBbxmCbCfccbnBtBgzBaBkBdbcbiBjdbmBwoevbbbBjsbztcClhbbbebpbkhBvBmicccwbhbcbfdbsbmfGcCb",
     "seudBeBwucbbHcBvBpeBkBwubChBrnbCtBbBlhHdBsEmCmBficbcibcbypbbbDqicBnqbbbBcbkBohbvblButbsCvHrB",
     "hBfjbBlrbBxBeEihbcbBmvbzgbcbBgobMptpbbnbBiEubDbBJmDyEhrHoDXkDtpBPgrgzFXrfWlKDdBeCPuVxhBfrDbr",
     "BesBwqeBfvftQqBtIdCmEyCxfbConCmcbbBcJCaiBVqBpkNFrebhbcbLfpbBddcboeiPgDKuEdfndjhkIWkDhbCtbccb",
     "cccebmbbbhbCnbecibhbBcbebfbbdhbNcczbzbBfbzbBfbzbBfbzbBfbzbiCSyBfggKbCkFqBtkhqbMjBesBsSqBcIuB",
     "ecbTbhbebcbpbHpChCqhbBUiebBbbcbbcbbkbebbbbgbebbbbbbdbcbbcbbbbbbbbbbcbbcebhbebebbbkbrfdbfbrGO",
     "aCLFcBgGDugIocINqoLBlpXyDQwUwCFyHHzfGFg"]⟩,
  ⟨["ideo", "ideographic"],
    ["SEwczjodBLdJToCmBFBkBHSiOccEcBSIkbBbJCaiBVqBqjNUlPgBDEiCLFcBgGDugIocINqoLBlpXyDQwUwCFyHHzfGF",
     "g"]⟩,
  ⟨["joinc", "joincontrol"],
    ["MDoc"]⟩,
  ⟨["loe", "logicalorderexception"],
    ["FKifEtfEDsdcbCCXmccbbc"]⟩,
  ⟨["lower", "lowercase"],
    ["DtBaBvbkbebBkybibbbbbbbbbbbbbbbbbbbbbbbbbbbbbbbbbbbbbbbbbbbbbbbbbbbbbbbcbbbbbbbbbbbbbbbcbbbb",
     "bbbbbbbbbbbbbbbbbbbbbbbbbbbbbbbbbbbbbbbbbbcbbbbdcbbbcbdcebcbddcbcbbbbbcbbcbbcbdbbbcccdgbcbcb",
     "bbbbbbbbbbbbbbbcbbbbbbbbbbbbbbbbbccbbbdbbbbbbbbbbbbbbbbbbbbbbbbbbbbbbbbbbbbbbbbbbbbbbbbbbbbb",
     "bbbbbhcbccbbebbbbbbbbCrbBkhcBefDsbBrbbbdbcesbBbBjbcddbbbbbbbbbbbbbbbbbbbbbbbfbbcbccBzBwbbbbb",
     "bbbbbbbbbbbbbbbbbbbbbbbbbbbbbjbbbbbbbbbbbbbbbbbbbbbbbbbbbbbbbbbbbbbbbbbbbbbbbbbbbbbcbbbbbbbb",
     "bbbbcbbbbbbbbbbbbbbbbbbbbbbbbbbbbbbbbbbbbbbbbbbbbbbbbbbbbbbbbbbbbbbbbbbbbbbbbbbbbbbbbbbbbbbb",
     "bbbbbbbbbBwBpEHbBrbeBDggDFujbbEnHkCnbbbbbbbbbbbbbbbbbbbbbbbbbbbbbbbbbbbbbbbbbbbbbbbbbbbbbbbb",
     "bbbbbbbbbbbbbbbbbbbbbbbbbbbbbbbbbbbbbbbbbbbbbbbbbbbbbbbbbbbbbbbbbbbbbbbbbbbbbbbbbbbbbbbbbbbb",
     "jbbbbbbbbbbbbbbbbbbbbbbbbbbbbbbbbbbbbbbbbbbbbbbbbbbbbbbbbbbbbbbbbbbbbbbbbbbbbbbbbbbbbbbbbbbb",
     "bbbbbbjigkiiiigkiiiiociiiiiifbcgbddbciecciikdbcErbnbqnEfbdcdbBbbebebccieebBhqebBGlBaCTqBwbbd",
     "cbbbbbbebbcbidbbbbbbbbbbbbbbbbbbbbbbbbbbbbbbbbbbbbbbbbbbbbbbbbbbbbbbbbbbbbbbbbbbbbbbbbbbbbbb",
     "bbbbbbbbbbbbbbbbbbbbchbbbebmBmbbfbBTWdbbbbbbbbbbbbbbbbbbbbbbbbbbbbbbbbbbbbbbbbbbbbbtbbbbbbbb",
     "bbbbbbbbbbbbbbbbbbdFdbbbbbbbbbbbbdbbbbbbbbbbbbbbbbbbbbbbbbbbbbbbbbbbbbbbbbbbbbbbbbbbbbbbbbbb",
     "bbbkbbbbcbbbbbbbbbebbbcbbdbbbbbbbbbbbbbbbbbbbbfbfbbbbbbbbbbbbbbbebbbcbdbbbbbbbbbbbwdbbbdBFpB",
     "rbogDcBEAihmfBOzBaBVhBoFgBkFzlbpbhbcRjbcdbBqbjBXlBzEvwEGoBgBGJwBgBMMkBaBahbsBaBaBaebbbhblBaB",
     "aBaBaBaBaBaBaBaBaBaBaBaBaBaBaBaBcBczbgBazbgBazbgBazbgBazbgbbCSykbuggKbCkDHsBi"]⟩,
  ⟨["math"],
    ["BrbqdBfbBdbbbBtbebBlbBfbBCadcbBaccdUhdJWnbBbdlbdbnboevflfCnnebdcefsbebckbbcggbdcccbdbgdobbCq",
     "ybgbceceBgbbgcoKiieucDmbBeBbbbyblhRdcmkegecccdfobbbcglifcCfbbbBdejdMyCmJwTsBwvcgDASqbBFrgbbG",
     "gbqdBdbbbBdbbbFbbgeDCIdDhbCtbccbcccebmbbbhbCnbecibhbBcbebfbbdhbNccLgcByIIqebBbbcbbcbbkbebbbb",
     "gbebbbbbbdbcbbcbbbbbbbbbbcbbcebhbebebbbkbrfdbfbrCac"]⟩,
  ⟨["nchar", "noncharactercodepoint"],
    ["DSDcBgUgcDSYocDSYocDSYocDSYocDSYocDSYocDSYocDSYocDSYocDSYocDSYocDSYocDSYocDSYocDSYocDSYo"]⟩,
  ⟨["patsyn", "patternsyntax"],
    ["BhpkhBaebbBaeBihbbbcbbbcebebdbxbBfbLUeyipctbkLtBBsGeYgBeBRoTsEyOvdezpbCZQzcKbc"]⟩,
  ⟨["patws", "patternwhitespace"],
    ["jfsbDwbLYmcyc"]⟩,
  ⟨["pcm", "prependedconcatenationmark"],
    ["CHcgIhbBxbOucDcbDVXybpb"]⟩,
  ⟨["qmark", "quotationmark"],
    ["BibebFbbpbLWuizcFIdbRpendDABpeHhbebDmc"]⟩,
  ⟨["radical"],
    ["RPwBabDlmIg"]⟩,
  ⟨["ri", "regionalindicator"],
    ["HGOkBa"]⟩,
  ⟨["sterm", "sentenceterminal"],
    ["BhbmbqbCAbbFrdGybBrdJmbCjbbbdcLhcCPwcBEkbecBDtbHqcHwbfbMccNqeGscccBdcHgcCncBKucjdFGubnbwcQnb",
     "BSHwbKkcItbdbOscDicDrbFwcFrdFocJpbBFFibdcGnbmbqbCnbEDwcBXdfBseHhcEneExdEzcgbqcDkcbcEebQbcOjc",
     "fpEbcJpdTxbbbJrcDjcQecBAqcCwcBCMbcFdbCnclbBGtbBDOgbLImb"]⟩,
  ⟨["sd", "softdotted"],
    ["EbcHobKvbBebCabubMibDubbbJMnbBzbnbdbFcbGbbQfbIgcEGgbGELhcBycBycBycBycBycBycBycBycBycBycBycBy",
     "cDFybLtcBab"]⟩,
  ⟨["term", "terminalpunctuation"],
    ["BhbkbbblcdbBFybibTtbCfbCubobbdGybBrlbbJbcCcpBfbKbcBWucGqbegLzcBEjiBDtbEudCtcGbddbBneccMccNqe",
     "GscbdBdcHgfCkcBKucjdFGubnbebkbbcdcQmcBSHvcKjdItfOscDicDrbFvdFrdExbqcJpbBFFgdbeGnbkbbblcdbCnb",
     "cbBPqbBwbBSobHrbLycFwgCqgDleBKqfBseHhhEieExdEzcgbqcDkfEebQbdmcNuedpEbcJpdTxbbbJrcDjcecPydBtb",
     "YvcCwcBYxfBAMzcFdbCndkbBGscBDOgbLIle"]⟩,
  ⟨["uideo", "unifiedideograph"],
    ["TSaJToCmBFBkBICscbbbckbbbbccdDVEcCLFcBgGDugIocINqoLBlpXyGRqHHzfGFg"]⟩,
  ⟨["upper", "uppercase"],
    ["CnBaDxxbhBhbbbbbbbbbbbbbbbbbbbbbbbbbbbbbbbbbbbbbbbbbbbbbbbbbbbbbbbcbbbbbbbbbbbbbbbcbbbbbbbbb",
     "bbbbbbbbbbbbbbbbbbbbbbbbbbbbbbbbbbbbbcbbbbdcbbbcbdcebcbddcbcbbbbbcbbcbbcbdbbbcdbhbcbcbcbbbbb",
     "bbbbbbbbbbcbbbbbbbbbbbbbbbbbcbcbbdbbbbbbbbbbbbbbbbbbbbbbbbbbbbbbbbbbbbbbbbbbbbbbbbbbbbbbbbbb",
     "hcbccbbebbbbbbbbLdbbbdbibgbbdbbbcbrbjBjbcddbbbbbbbbbbbbbbbbbbbbbbbfbcbbccBzBwbbbbbbbbbbbbbbb",
     "bbbbbbbbbbbbbbbbbbjbbbbbbbbbbbbbbbbbbbbbbbbbbbbbbbbbbbbbbbbbbbbbbbbbbbbbbcbbbbbbbbbbbbcbbbbb",
     "bbbbbbbbbbbbbbbbbbbbbbbbbbbbbbbbbbbbbbbbbbbbbbbbbbbbbbbbbbbbbbbbbbbbbbbbbbbbbbbbbbbbbbbbbbcB",
     "mEHdBmbbfbBBuDiDGlbgBrcdMibbbbbbbbbbbbbbbbbbbbbbbbbbbbbbbbbbbbbbbbbbbbbbbbbbbbbbbbbbbbbbbbbb",
     "bbbbbbbbbbbbbbbbbbbbbbbbbbbbbbbbbbbbbbbbbbbbbbbbbbbbbbbbbbbbbbbbbbbbbbbbbbbbbbbbbbbjbbbbbbbb",
     "bbbbbbbbbbbbbbbbbbbbbbbbbbbbbbbbbbbbbbbbbbbbbbbbbbbbbbbbbbbbbbbbbbbbbbbbbbbbbbbbbbbbbbbbbjii",
     "gkiiiiglbbbbbbbiiCuemememfleKcbebddcdcbdfgbbbbbbecekcfbBaqtbBFmBaCSuBwBwbbdcbbbbbbebbcbidbbb",
     "bbbbbbbbbbbbbbbbbbbbbbbbbbbbbbbbbbbbbbbbbbbbbbbbbbbbbbbbbbbbbbbbbbbbbbbbbbbbbbbbbbbbbbbbbbbb",
     "bbbibbbebBTYjbbbbbbbbbbbbbbbbbbbbbbbbbbbbbbbbbbbbbbbbbbbbbtbbbbbbbbbbbbbbbbbbbbbbbbbbbFfbbbb",
     "bbbbbbbbbdbbbbbbbbbbbbbbbbbbbbbbbbbbbbbbbbbbbbbbbbbbbbbbbbbbbbbbbbbbbbbkbbbbcbbbbbbbbebbbcbb",
     "bdbbbbbbbbbbbbbbbbbbbbfbfbbbbbbbbbbbbbbbebbbcdbfbbbbbbbybBHAhBaBUzBoFgBkGalbpbhbcCQcBzGbwEGo",
     "BgBGJwBgBMMqBaBaBaBaBaBabbccbcccebiBaBaBacbecibhBbcbebfbbdhBbBaBaBaBaBaBaBaBaBaBaBaBezBhzBhz",
     "BhzBhzBhbGNlBiDBiBagBagBa"]⟩,
  ⟨["vs", "variationselector"],
    ["JCtdbbDJCaqBWNKyJg"]⟩,
  ⟨["wspace", "whitespace", "space"],
    ["jfsbDwbBabIHjbDPnlBdcfbBvbFXwb"]⟩,
  ⟨["xidc", "xidcontinue"],
    ["BwkhBaebbBaBvbkbbbcbfxbBfbRqemofhbbbrEnbcddbbgfbbbubDfbFjbfcGkbBmcbgBpiBtbbbcbcbbiBbeeBdlfCw",
     "eDybickbtcbqChcDxoCcebcbcBusBcelfybgiCxbEzckbtbicccwbhbbdecjccceibecbfcmkbbbcdbgeccwbhbcbcbc",
     "cbbfeccddbhebbhqldbjbdbwbhbcbfckbdbdcbpeckjhbdbicccwbhbcbfcjcccdhdecbfckbbqcbgddbedcbbbcdcdd",
     "dmefddbecbgbokqnbdbxbqcjbdbehcbdcbceckqebibdbxbkbfcjbdbehcgcbeckbdmnbdbBzbdbffehfckkgbdbsdyb",
     "jbbchdbegbbbigkccnCgfpbkBncbbbfbybbbxcfbbbhbkceBgbxcgklbbbbbekbBkeubsbBkjbCfCwgDacBmbbfbcBrb",
     "MvbechbbbecBpbecBhbechbbbecpbCfbecCpcdjjoqqDicgdXwcrbBafCxdlhwjwlumnbdbcmDgdbecckBhdblgDlhBr",
     "fCskBfbmemkBocflBseBaglBlBceClbBdclgknbiobqBxCzdkrjmEmmCeikdBxclfBrcdqdbBnfUocgcBmcgcibbbbbb",
     "bBfcCbbhbbddbhdecgenfdbhCoctbBcbnbqnBznebdmrbebckbbcggbbbbbbqceffebrBpDZbIvgjmBmbbfbcCehbpyj",
     "hbhbhbhbhbhbhbhbBgTxdzpbfcfeDicccdbDmbefBrbDqrBgBwqTsJToCmBGUfCpBucKjdBcuBwekbElBljcDzcCpccb",
     "bbivCcebtCamCskkgydbbBxcBkmBddCnolgBfbCdjockgxdCvydcqcfkgcgcgjhbhbBrbogEtbcckgQNsmxeBxMNcOcc",
     "EcBmhmffmbnbfbbbcbcbEeBhFjgIksCmcCcBokgqqqdcydBhbbbdbbbbbbbbEwtkhBaebbBalDldgcgcgcdBjmbBabtb",
     "cbpcoBiEtCrCbFgbFaBddBxpbBfBgnBefBrfBecBkeibfBqGcckgBkeBkeBoiCamlbpbhbcblbpbhbcdCamLzjwkiygb",
     "BqbjCrgcbbBsbcdbcxkxjBfCntbckwkBaCsCegcCmebcfibdbBdcdebBgBddBdBjibBezCckwktnsEgCvCdBznBznBoi",
     "kgBmdfbxJqBqbcdcqdCdBhkbiBhBfwBqvBbxjCtBfqjCihbnzhkgCbbkeeiBkcbjCreebnbbBjsbBlgeCkhbbbebpbkh",
     "ChfkgebicccwbhbcbfbkcccdcbgbfhchdfFjCxfkeeBeCsbbikGkCccjxgBiCndblkBmCfhkguBcBbcpekghHdChDxCw",
     "vicbcibcbBebccjmkCsicBucibcBbClibiCwdbsCvHrBhpkgjbBtbjpkyBecwboCvhbcbBsdbbcbjikggbcbBlbcbghk",
     "LyxjrbBpdfnlDhbDbBJmDyEhrHoDXkDtpBPgqwkFXrfWlKDdBeskCOsVxhBfbkgDbbkgBecflCdjemkjvftQqBtdkHqC",
     "mEyCxeCfhrCmcbclcoJCaiBVqBpkNFrebhbcbLfpbBddcboeiPgDKuEdfndjhkdcGErkTyBucxUwfdgiichBeeFsdRbD",
     "hbCtbccbcccebmbbbhbCnbecibhbBcbebfbbdhbNcczbzbBfbzbBfbzbBfbzbBfbzbicByTsCdeByibobwfbpBQmBfgg",
     "IfhbrchbcbffCkBhbEiBtdockebMjBfrCgScBqIgBrSrhbebcbpbHplhBpCyekBTuebBbbcbbcbbkbebbbbgbebbbbbb",
     "dbcbbcbbbbbbbbbbcbbcebhbebebbbkbrfdbfbrFAakBNqCLFcBgGDugIoc",
     "INqoLBlpXyDQwUwCFyHHzfGFgBONHgJg"]⟩,
  ⟨["xids", "xidstart"],
    ["CnBagBaBvbkbebfxbBfbRqemofhbbbEzfbcddbbgbbdbbbubDfbFjiGkbBmcbgBpCtBbeeBtBrBjcbDvbbpchckdcbqb",
     "bBeBdDllbyBhjcebfwebjbdbxzhlfybgrBqCgCcdbsbhkpqeicccwbhbbdedbqbncbdockbigeccwbhbcbcbcBfebbtd",
     "qjbdbwbhbcbfdbsbpcxblicccwbhbcbfdbBecbdpbrbbgddbedcbbbcdcdddmwbCaibdbxbqdbBadcbccBebeibdbxbk",
     "bfdbBfcbcpcrjbdbBpcbqbfdidygfsdybjbbchCgBwbbnhCgcbbbfbybbbkbbkbcfbbveBgbClibBkBbfElBrubqgeed",
     "bdchdenmbrBmbbfbcBrbMvbechbbbecBpbecBhbechbbbecpbCfbecCpBlqqDicgdXwcrbBafCxdlhsntosonbdpCaBj",
     "bebCpDlhBpbbfCskBfBxBecflBseBaCcxjCbDebDpBvriCcBenckBsBaBkBpdkBkclfBrcdBpebgbcdbfHkCmKscgcBm",
     "cgcibbbbbbbBfcCbbhbbddbhdecgenfdbhEmbnbqnDxbebckbbcggbbbbbbqceffebrBpDZbIvgedcmBmbbfbcCehbqx",
     "jhbhbhbhbhbhbhbhVedzjhfcfeDigdbDmbefBrbDqrBgBwqTsJToCmBGUfCpBucKjdqkcuBvqBfcDcBnjcDzcCpccbbb",
     "ivqbdbebxBdCaoByCkgdbbclBckxzBdhBvBcbqfbkkfbBpxdbiuxdbdBybbdccfcbbbydclhdmgcgcgjhbhbBrbogElB",
     "dQNsmxeBxMNcOccEcBmhmffbbkbnbfbbbcbcbEeBhFjgIksCmcCcBokEpbbbdbbbbbbbbEwBkBagBalCecBfdgcgcgcd",
     "BjmbBabtbcbpcoBiEtCrCbKhBddBxBvBgnBefBmkBecBkeibfBqGcsBkeBkeBoiCamlbpbhbcblbpbhbcdCamLzjwkiy",
     "gbBqbjCrgcbbBsbcdbcxkxjBfCntbckwkBaCsCegcCmbpebdbBdBqBddBdBjibBcBbCckwktnsEgCvCdBznBznBkBmBc",
     "jxJqBqgcqdChBdkbiwBqsBuvBbxmCbCfccbnBtBgzBaBkBdbcbiBjdbmBwoevbbbBjsbztcClhbbbebpbkhBvBmicccw",
     "bhbcbfdbsbmfGcCbseudBeBwucbbHcBvBpeBkBwubChBrnbCtBbBlhHdBsEmCmBficbcibcbypbbbDqicBnqbbbBcbkB",
     "ohbvblButbsCvHrBhBfjbBlrbBxBeEihbcbBmvbzgbcbBgobMptpbbnbBiEubDbBJmDyEhrHoDXkDtpBPgrgzFXrfWlK",
     "DdBeCPuVxhBfrDbrBesBwqeBfvftQqBtIdCmEyCxfbConCmcbbBcJCaiBVqBpkNFrebhbcbLfpbBddcboeiPgDKuEdfn",
     "djhkIWkDhbCtbccbcccebmbbbhbCnbecibhbBcbebfbbdhbNcczbzbBfbzbBfbzbBfbzbBfbzbiCSyBfggKbCkFqBtkh",
     "qbMjBesBsSqBcIuBecbTbhbebcbpbHpChCqhbBUiebBbbcbbcbbkbebbbbgbebbbbbbdbcbbcbbbbbbbbbbcbbcebhbe",
     "bebbbkbrfdbfbrGOaCLFcBgGDugIocINqoLBlpXyDQwUwCFyHHzfGFg"]⟩]

end CodeGraph.Unicode
