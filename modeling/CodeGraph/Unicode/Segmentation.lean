import CodeGraph.Unicode.Category

/-! # Segmentation

The sets of the properties that say where a text divides into characters, words and sentences.
-/

namespace CodeGraph.Unicode

/-- The Grapheme_Cluster_Break property. -/
def graphemeBreaks : List NamedSet := [
  ⟨["cr"],
    ["nb"]⟩,
  ⟨["cn", "control"],
    ["akbcbsDrBhnbCBmbGUrbDAqbccyhBxqDGHjbJgmTUaqBZQueHWxiBTKZlBgDsEyJgFIm"]⟩,
  ⟨["ex", "extend"],
    ["BDoEiKphKdBtbbbcbcbbCulBwvqbDxhcgccbeBjbBeBbDnlCgjjbyebjbdbfBrdCiiBqybBgCdbbbeiebdhkcBdbCgbb",
     "bceibjbkcBabccCfbececcddbBecdblcCfbefbcebucwgbbCgbbcbeibhdkcBebChbbbmbjbBobdbCdbbdfdbehclcBd",
     "bCgbcbcbdbfchclcBccCfcbbceibjbkcBdbCubebcdbbibDdbchmiDubcjlhCvcBbbbbbbCdobfbcflbBkjbDyebgbcc",
     "czcedqenbccgbpbBBbdBKkdBdcBecBecCmcbhibcljbBtdbbEncBibEodecjbgdIlccbCgbbhbbbbcigkcbBwBfBxeBw",
     "hbbfbBojmcBgeccbdCebbcdbbdCgiccFwdbnbhebgbdcHqCmUebHnBhEOcdFlbDsBgVigEbcBSQeebkBgcDccKmbdbeb",
     "zcfbFvcBasnbBmizlBudBwbceccBnbCpgccccmbibBvbBzbbdccfcbbBqcibJebcbebBDZsbBCjqqqOccXhbIsbFtfCM",
     "gdbcfeBodebGjcWbeOxcDcdCslBxeEtbCcpBpbcckdBxecchbCjdBkfbiCkbmcCajkecbDrdcbbcgbcbGbbdivcCfcbb",
     "bbwbohdfHnicdbbxbDdbcgbbcbbcbcJbbcegcbcBbcDhicbbcEcbbbcgbbDxdcebfJzjbcJlbkcbbebFoeccebBgkBog",
     "ceibjgcdBunbcPqhbgbbDewchbcbcEsgdbbcbhbbCucdbbbNjclcCaffbbbHYrbgpURqfChhBOibCleDdbBDBkcGYzBu",
     "cxUwbbdefiichBeeFsdCYdCdeByibobwfbpCAihbrchbcbfDwbGehOlbCjeToeBMehEfhEBgfBSXYuDsEyJg"]⟩,
  ⟨["l"],
    ["GLkDsCFOqBd"]⟩,
  ⟨["lf"],
    ["kb"]⟩,
  ⟨["lv"],
    ["CNDobBbbBbbBbbBbbBbbBbbBbbBbbBbbBbbBbbBbbBbbBbbBbbBbbBbbBbbBbbBbbBbbBbbBbbBbbBbbBbbBbbBbbBbb",
     "BbbBbbBbbBbbBbbBbbBbbBbbBbbBbbBbbBbbBbbBbbBbbBbbBbbBbbBbbBbbBbbBbbBbbBbbBbbBbbBbbBbbBbbBbbBb",
     "bBbbBbbBbbBbbBbbBbbBbbBbbBbbBbbBbbBbbBbbBbbBbbBbbBbbBbbBbbBbbBbbBbbBbbBbbBbbBbbBbbBbbBbbBbbB",
     "bbBbbBbbBbbBbbBbbBbbBbbBbbBbbBbbBbbBbbBbbBbbBbbBbbBbbBbbBbbBbbBbbBbbBbbBbbBbbBbbBbbBbbBbbBbb",
     "BbbBbbBbbBbbBbbBbbBbbBbbBbbBbbBbbBbbBbbBbbBbbBbbBbbBbbBbbBbbBbbBbbBbbBbbBbbBbbBbbBbbBbbBbbBb",
     "bBbbBbbBbbBbbBbbBbbBbbBbbBbbBbbBbbBbbBbbBbbBbbBbbBbbBbbBbbBbbBbbBbbBbbBbbBbbBbbBbbBbbBbbBbbB",
     "bbBbbBbbBbbBbbBbbBbbBbbBbbBbbBbbBbbBbbBbbBbbBbbBbbBbbBbbBbbBbbBbbBbbBbbBbbBbbBbbBbbBbbBbbBbb",
     "BbbBbbBbbBbbBbbBbbBbbBbbBbbBbbBbbBbbBbbBbbBbbBbbBbbBbbBbbBbbBbbBbbBbbBbbBbbBbbBbbBbbBbbBbbBb",
     "bBbbBbbBbbBbbBbbBbbBbbBbbBbbBbbBbbBbbBbbBbbBbbBbbBbbBbbBbbBbbBbbBbbBbbBbbBbbBbbBbbBbbBbbBbbB",
     "bbBbbBbbBbbBbbBbbBbbBbbBbbBbbBbbBbbBbbBbbBbbBbbBbbBbbBbbBbbBbbBbbBbbBbbBbbBbbBbbBbbBbbBbbBbb",
     "BbbBbbBbbBbbBbbBbbBbbBbbBbbBbbBbbBbbBbbBbbBbbBbbBbbBbbBbbBbbBbbBbbBbbBbbBbbBbbBbbBbbBbbBbbBb",
     "bBbbBbbBbbBbbBbbBbbBbbBbbBbbBbbBbbBbbBbbBbbBbbBbbBbbBbbBbbBbbBbbBbbBbbBbbBbbBbbBbbBbbBbbBbbB",
     "bbBbbBbbBbbBbbBbbBbbBbbBbbBbbBbbBbbBbbBbbBbbBbbBbbBbbBbbBbbBbbBbbBbbBbbBbbBbbBbbBbbBbbBbbBbb",
     "Bbb"]⟩,
  ⟨["lvt"],
    ["CNDpBbbBbbBbbBbbBbbBbbBbbBbbBbbBbbBbbBbbBbbBbbBbbBbbBbbBbbBbbBbbBbbBbbBbbBbbBbbBbbBbbBbbBbbB",
     "bbBbbBbbBbbBbbBbbBbbBbbBbbBbbBbbBbbBbbBbbBbbBbbBbbBbbBbbBbbBbbBbbBbbBbbBbbBbbBbbBbbBbbBbbBbb",
     "BbbBbbBbbBbbBbbBbbBbbBbbBbbBbbBbbBbbBbbBbbBbbBbbBbbBbbBbbBbbBbbBbbBbbBbbBbbBbbBbbBbbBbbBbbBb",
     "bBbbBbbBbbBbbBbbBbbBbbBbbBbbBbbBbbBbbBbbBbbBbbBbbBbbBbbBbbBbbBbbBbbBbbBbbBbbBbbBbbBbbBbbBbbB",
     "bbBbbBbbBbbBbbBbbBbbBbbBbbBbbBbbBbbBbbBbbBbbBbbBbbBbbBbbBbbBbbBbbBbbBbbBbbBbbBbbBbbBbbBbbBbb",
     "BbbBbbBbbBbbBbbBbbBbbBbbBbbBbbBbbBbbBbbBbbBbbBbbBbbBbbBbbBbbBbbBbbBbbBbbBbbBbbBbbBbbBbbBbbBb",
     "bBbbBbbBbbBbbBbbBbbBbbBbbBbbBbbBbbBbbBbbBbbBbbBbbBbbBbbBbbBbbBbbBbbBbbBbbBbbBbbBbbBbbBbbBbbB",
     "bbBbbBbbBbbBbbBbbBbbBbbBbbBbbBbbBbbBbbBbbBbbBbbBbbBbbBbbBbbBbbBbbBbbBbbBbbBbbBbbBbbBbbBbbBbb",
     "BbbBbbBbbBbbBbbBbbBbbBbbBbbBbbBbbBbbBbbBbbBbbBbbBbbBbbBbbBbbBbbBbbBbbBbbBbbBbbBbbBbbBbbBbbBb",
     "bBbbBbbBbbBbbBbbBbbBbbBbbBbbBbbBbbBbbBbbBbbBbbBbbBbbBbbBbbBbbBbbBbbBbbBbbBbbBbbBbbBbbBbbBbbB",
     "bbBbbBbbBbbBbbBbbBbbBbbBbbBbbBbbBbbBbbBbbBbbBbbBbbBbbBbbBbbBbbBbbBbbBbbBbbBbbBbbBbbBbbBbbBbb",
     "BbbBbbBbbBbbBbbBbbBbbBbbBbbBbbBbbBbbBbbBbbBbbBbbBbbBbbBbbBbbBbbBbbBbbBbbBbbBbbBbbBbbBbbBbbBb",
     "bBbbBbbBbbBbbBbbBbbBbbBbbBbbBbbBbbBbbBbbBbbBbbBbbBbbBbbBbbBbbBbbBbbBbbBbbBbbBbbBbbBbbBbbBbbB",
     "bbBb"]⟩,
  ⟨["pp", "prepend"],
    ["CHcgIhbBxbOucDcbBRnbDUGkbpbJkcCVrbbbJobCvgBAybRbb"]⟩,
  ⟨["ri", "regionalindicator"],
    ["HGOkBa"]⟩,
  ⟨["sm", "spacingmark"],
    ["DKtbCdbcdiebcBycChcgcccCcbCgdCobCgdibbcCbcCibgcccEkbbcddbdCadCjeCjcCgbbcbcccbcBnbocChcfdbdCb",
     "cCycghtcClbExbFicClbGvbjczcBsbCMqbBebEzbhibcNiecdecbgIqcCgbbbvgFpbCcbbfbcCjbBebeccbCibcdbbdc",
     "BwiicGpbvbCAShccbDkcByqFmcBvbBwceccdEgcccybGbbccfbJdcbcbcbbBLXjbbbExbBtdecElbycChbBwdjcnbDpd",
     "dcbbGodBfcChbbecccducIbdicdbEdcgbbcbbcbJecgecbEjdicbbEfbbcgbEhbKbdjbJofbcebcbbbFmdieebDgbBdc",
     "CkbPrbobEcbhbcbIffecbbNmcmbBwcicbbBEIhCdEacBKXobgb"]⟩,
  ⟨["t"],
    ["GRwDkCWXnBx"]⟩,
  ⟨["v"],
    ["GPcCuCWZwx"]⟩,
  ⟨["zwj"],
    ["MDpb"]⟩]

/-- The Word_Break property. -/
def wordBreaks : List NamedSet := [
  ⟨["le", "aletter"],
    ["CnBagBaBvbkbebfxbBfbSmgBiEifbccebbgbbdbbbubDfbFjiGkbBmcebbbBpbbEabBsBrBjcbDvbbpchckdcbqbbBeB",
     "dDllbyBhjcebfwebjbdbxzhlfybgrBqCgCcdbsbhkpqeicccwbhbbdedbqbncbdockbigeccwbhbcbcbcBfebbtdqjbd",
     "bwbhbcbfdbsbpcxblicccwbhbcbfdbBecbdpbrbbgddbedcbbbcdcdddmwbCaibdbxbqdbBadcbccBebeibdbxbkbfdb",
     "BfcbcpcrjbdbBpcbqbfdidygfsdybjbbchMbbClibBkBbfKpBmbbfbcBrbMvbechbbbecBpbecBhbechbbbecpbCfbec",
     "CpBlqqDicgdXwcrbBafCxdlhsntosonbdGtDlhfcBibbfCskBfIrxJeBvriCcBenckBsBaBkBpdkBkcjhBrcdBpebgbc",
     "dbfHkCmKscgcBmcgcibbbbbbbBfcCbbhbbddbhdecgenfdbhEmbnbqnDxbebckbbdfgbbbbbbeblceffebrBpBFhCaCR",
     "uIvgedcmBmbbfbcCehbqxjhbhbhbhbhbhbhbhDcbSbbCbcHsBrbDqrBgBPToBSvCpBucKjdqkcuBvqBfcDcyHnfcbbbf",
     "yqbdbebxBdCaoByCkgdbbclBckxzBdhBvBcbBwBpxdbiFslhdmgcgcgjhbhbCggElBdQNsmxeBxNGuhmfCeDuBhNzsCm",
     "cCcBomEmfbFfBkBagBaCrBfdgcgcgcdBjmbBabtbcbpcoBiEtCrCbKhBddBxBvBgnBefBmkBecBkeibfBqGcsBkeBkeB",
     "oiCamlbpbhbcblbpbhbcCpLzjwkiygbBqbjCrgcbbBsbcdbcxkxjBfCntbckwkBaCsCegcCmbpebdbBdBqBddBdBjibB",
     "cBbCckwktnsEgCvCdBznBznBkNkBqgcDaBdkbiwBqsBuvBbxmCbCfccbnBtBgzBaBkBdbcbiBjdbmBwoevbbbBjsbztc",
     "ClhbbbebpbkhBvBmicccwbhbcbfdbsbmfGcCbseudBeBwucbbHcBvBpeBkBwubChBrnbMpBsEmCmBficbcibcbypbbbD",
     "qicBnqbbbBcbkBohbvblButbsCvKdjbBlrbBxBeEihbcbBmvbzgbcbBgobMptpbbnbBiEubDbBJmDyEhrHoDXkDtpBPg",
     "rgFYvWlMUbVxhBfrDbrBesBwqeBfvftBAmCmEyCxfbConCmcbbBCVkEdfndjhkIWkDhbCtbccbcccebmbbbhbCnbecib",
     "hbBcbebfbbdhbNcczbzbBfbzbBfbzbBfbzbBfbzbiCSyBfggKbCkFqBtkhqbMjBesBsSqBcBDchbebcbpbHpChCqhbBU",
     "iebBbbcbbcbbkbebbbbgbebbbbbbdbcbbcbbbbbbbbbbcbbcebhbebebbbkbrfdbfbrYeBagBagBa"]⟩,
  ⟨["cr"],
    ["nb"]⟩,
  ⟨["dq", "doublequote"],
    ["Bib"]⟩,
  ⟨["extend"],
    ["BDoEiKphKdBtbbbcbcbbCulBwvqbDxhcgccbeBjbBeBbDnlCgjjbyebjbdbfBrdCiiBqybBhCcdbsbhkcBddCebbhccc",
     "djbkcBabcdCebbfeccddbBecdbldCebbibdbducwgbdCebbhcccdhdkcBebChfddbejbBofCdbbhbdbehclcBddCebbh",
     "bdbehclcpbmeCdcbhbdbejbkcBddCsbegbbbiscCjbchmiDubcjlhCvcBbbbbbbecBxubcflbBkjbDwuxeedbdchdenm",
     "bbkeBBbdBKkeBcdBdcBecCmBgjbBtdbbEncBibEomemIlfCfkbBdcbBwBfBxfBvrBmjmdBenCeoBwuFwdbvebgbcdHqC",
     "mUebHnBhEOcdFlbDsBgVigEbcBSQeebkBgcDccKmbdbebxfebDfcBysBasnbBmiznBseBvoBkbCpombicBtdBybbdccf",
     "cbbBpffcJcibcBDZsbBCjqqqOccXhbIsbFtfCMgdbcfeBodebGjcWbeOxcDcdCslBxeEsdCbpBpbcckeBtlhbCjdBkoq",
     "cBsbmdBwoiebcDomgbcbGbmveCdcbhcccdjbkcchdfHksxbDduJbhcjBbcDerEcnDxpJwpJlgbccebbbcFlhchdbBckB",
     "ohbeibjlBuqPpibiDewboEsgdbbcbhbbCofbcbfNjejcbbBwhdfHYrbgpURqfChhBOibbCdheDdblcBDAxcGYzBucxUw",
     "fdgiichBeeFsdCYdCdeByibobwfbpCAihbrchbcbfDwbGehOlbCjeToeBMehEfhEBgfBSXYuDsEyJg"]⟩,
  ⟨["ex", "extendnumlet"],
    ["DrbMBfbpctbDGAocydJfb"]⟩,
  ⟨["fo", "format"],
    ["GrbCAkgwbHkbBxbOucDcbFTjbDAtcBafBxfbkDGHjbJpdGIzbpbNKkqBZQueHWxiBTKZmb"]⟩,
  ⟨["hl", "hebrewletter"],
    ["CFgBbeeDOVybbkbnbfbbbcbcbk"]⟩,
  ⟨["ka", "katakana"],
    ["SGnfDxcdDnbeJgqIaBvbDkCZHeCeCOUcebhbcbbLbdByboe"]⟩,
  ⟨["lf"],
    ["kb"]⟩,
  ⟨["ml", "midletter"],
    ["CgbEubBBrbSdbFsbJXybDGBbbCnbHob"]⟩,
  ⟨["mn", "midnum"],
    ["BsbobBGcbUcbFacDqbPfbJFfbDFZvbdbChbdbHbbob"]⟩,
  ⟨["mb", "midnumlet"],
    ["BubMCfckbDGDpbGybgb"]⟩,
  ⟨["nl", "newline"],
    ["lcEqbLZmc"]⟩,
  ⟨["nu", "numeric"],
    ["BwkCIokbbFckHqkPwkEokEokEokEokEokEokEokEokEokDskEokCskKskCskCTqkBmkLokEykGkkgkHakDikFekgkCAE",
     "okBAckBmkHqkwkDikPqkBFMckCCkkDFykBFgkEykCikFokKskNekEokOkkDykDykQgkDykBDekJmkCskQgkBCKskDikF",
     "ekBPBwByDNckQgkTikBQskHBak"]⟩,
  ⟨["ri", "regionalindicator"],
    ["HGOkBa"]⟩,
  ⟨["sq", "singlequote"],
    ["Bnb"]⟩,
  ⟨["wsegspace"],
    ["BgbIMhbDPnhbdDgbFXwb"]⟩,
  ⟨["zwj"],
    ["MDpb"]⟩]

/-- The Sentence_Break property. -/
def sentenceBreaks : List NamedSet := [
  ⟨["at", "aterm"],
    ["BubMCrbDGDpbHfb"]⟩,
  ⟨["cr"],
    ["nb"]⟩,
  ⟨["cl", "close"],
    ["BibedBxbbbBdbbbBtbpbFMseCUncDPjizckcCccocYjeBdcBPgghoDbcBfkPnwCleBgcBNmoocckybsiQlkcibdCZRqc",
     "IhcBcqccqgGncBxbbbBdbbbbcbcDPOsd"]⟩,
  ⟨["ex", "extend"],
    ["BDoEiKphKdBtbbbcbcbbCulBwvqbDxhcgccbeBjbBeBbDnlCgjjbyebjbdbfBrdCiiBqybBhCcdbsbhkcBddCebbhccc",
     "djbkcBabcdCebbfeccddbBecdbldCebbibdbducwgbdCebbhcccdhdkcBebChfddbejbBofCdbbhbdbehclcBddCebbh",
     "bdbehclcpbmeCdcbhbdbejbkcBddCsbegbbbiscCjbchmiDubcjlhCvcBbbbbbbecBxubcflbBkjbDwuxeedbdchdenm",
     "bbkeBBbdBKkeBcdBdcBecCmBgjbBtdbbEncBibEomemIlfCfkbBdcbBwBfBxfBvrBmjmdBenCeoBwuFwdbvebgbcdHqC",
     "mUecHmBhEOcdFlbDsBgVigEbcBSQeebkBgcDccKmbdbebxfebDfcBysBasnbBmiznBseBvoBkbCpombicBtdBybbdccf",
     "cbbBpffcJcibcBDZsbBCjqqqOccXhbIsbFtfCMgdbcfeBodebGjcWbeOxcDcdCslBxeEsdCbpBpbcckeBtlhbCjdBkoq",
     "cBsbmdBwoiebcDomgbcbGbmveCdcbhcccdjbkcchdfHksxbDduJbhcjBbcDerEcnDxpJwpJlgbccebbbcFlhchdbBckB",
     "ohbeibjlBuqPpibiDewboEsgdbbcbhbbCofbcbfNjejcbbBwhdfHYrbgpURqfChhBOibbCdheDdblcBDAxcGYzBucxUw",
     "fdgiichBeeFsdCYdCdeByibobwfbpCAihbrchbcbfDwbGehOlbCjeToeBMehEfhBTCAfDsEyJg"]⟩,
  ⟨["fo", "format"],
    ["GrbCAkgwbHkbBxbOucDcbFTjbDAqbccBafBxfbkDGHjbJpdGIzbpbNKkqBZQueHWxiBTKZmb"]⟩,
  ⟨["lf"],
    ["kb"]⟩,
  ⟨["lo", "lower"],
    ["DtBaBvbkbebBkybibbbbbbbbbbbbbbbbbbbbbbbbbbbbbbbbbbbbbbbbbbbbbbbbbbbbbbbcbbbbbbbbbbbbbbbcbbbb",
     "bbbbbbbbbbbbbbbbbbbbbbbbbbbbbbbbbbbbbbbbbbcbbbbdcbbbcbdcebcbddcbcbbbbbcbbcbbcbdbbbcccdgbcbcb",
     "bbbbbbbbbbbbbbbcbbbbbbbbbbbbbbbbbccbbbdbbbbbbbbbbbbbbbbbbbbbbbbbbbbbbbbbbbbbbbbbbbbbbbbbbbbb",
     "bbbbbhcbccbbebbbbbbbbCrbBkhcBefFkbbbdbcesbBbBjbcddbbbbbbbbbbbbbbbbbbbbbbbfbbcbccBzBwbbbbbbbb",
     "bbbbbbbbbbbbbbbbbbbbbbbbbbjbbbbbbbbbbbbbbbbbbbbbbbbbbbbbbbbbbbbbbbbbbbbbbbbbbbbbcbbbbbbbbbbb",
     "bcbbbbbbbbbbbbbbbbbbbbbbbbbbbbbbbbbbbbbbbbbbbbbbbbbbbbbbbbbbbbbbbbbbbbbbbbbbbbbbbbbbbbbbbbbb",
     "bbbbbbBwBpEItbBDjgDFujEpHkCnbbbbbbbbbbbbbbbbbbbbbbbbbbbbbbbbbbbbbbbbbbbbbbbbbbbbbbbbbbbbbbbb",
     "bbbbbbbbbbbbbbbbbbbbbbbbbbbbbbbbbbbbbbbbbbbbbbbbbbbbbbbbbbbbbbbbbbbbbbbbbbbbbbbbbbbbjbbbbbbb",
     "bbbbbbbbbbbbbbbbbbbbbbbbbbbbbbbbbbbbbbbbbbbbbbbbbbbbbbbbbbbbbbbbbbbbbbbbbbbbbbbbbbbbbbbbbbji",
     "gkiiiigkiiiiociiiiiifbcgbddbciecciikdbcErbnbqnEfbdcdbBbbebebccieebBhqebBGlBaCTqBwbbdcbbbbbbe",
     "bbcbidbbbbbbbbbbbbbbbbbbbbbbbbbbbbbbbbbbbbbbbbbbbbbbbbbbbbbbbbbbbbbbbbbbbbbbbbbbbbbbbbbbbbbb",
     "bbbbbbbbbbbbchbbbebmBmbbfbBTWdbbbbbbbbbbbbbbbbbbbbbbbbbbbbbbbbbbbbbbbbbbbbbtbbbbbbbbbbbbbbbb",
     "bbbbbbbbbbdFdbbbbbbbbbbbbdbbbbbbbbbbbbbbbbbbbbbbbbbbbbbbbbbbbbbbbbbbbbbbbbbbbbbbbbbbbbbkbbbb",
     "cbbbbbbbbbebbbcbbdbbbbbbbbbbbbbbbbbbbbfbfbbbbbbbbbbbbbbbebbbgbbbbbbbbbydbbbdBFpBrbogDcBEAihm",
     "fBOzBaBVhBoFgBkFzlbpbhbcRjbcdbBqbjBXlBzEMfBgBGJwBgBMMkBaBahbsBaBaBaebbbhblBaBaBaBaBaBaBaBaBa",
     "BaBaBaBaBaBaBaBaBcBczbgBazbgBazbgBazbgBazbgbbCSykbuggKbCkDHsBi"]⟩,
  ⟨["nu", "numeric"],
    ["BwkCIokbcFbkHqkPwkEokEokEokEokEokEokEokEokEokDskEokCskKskCskCTqkBmkLokEykGkkgkHakDikFekgkCAE",
     "okBAckBmkHqkwkDikPqkBFMckCCkkDFykBFgkEykCikFokKskNekEokOkkDykDykQgkDykBDekJmkCskQgkBCKskDikF",
     "ekBPBwByDNckQgkTikBQskHBak"]⟩,
  ⟨["le", "oletter"],
    ["RbbeeIabBkhgmBabbbFdbSqbEoBbefBsBrBjcbDvbbpchckdcbqbbBeBdDllbyBhjcebfwebjbdbxzhlfybgrBqCgCcd",
     "bsbhkpqeicccwbhbbdedbqbncbdockbigeccwbhbcbcbcBfebbtdqjbdbwbhbcbfdbsbpcxblicccwbhbcbfdbBecbdp",
     "brbbgddbedcbbbcdcdddmwbCaibdbxbqdbBadcbccBebeibdbxbkbfdbBfcbcpcrjbdbBpcbqbfdidygfsdybjbbchCg",
     "BwbcmhCgcbbbfbybbbkbcjbcfbbveBgbClibBkBbfElBrubqgeedbdchdenmbCnBrcMubechbbbecBpbecBhbechbbbe",
     "cpbCfbecCpBlqEjXwcrbBafCxdlhsntosonbdpCaBjbebCpDlhfcBibbfCskBfBxBecflBseBaCcxjCbDebDpBvriCcB",
     "enckBsBaBkBpdkBksBrcdBpebgbcdbBPqeCtdceEKtCehbqxjhbhbhbhbhbhbhbhDcbSbdzjhfcfeDigdbDmbefBrbDq",
     "rBgBwqTsJToCmBGUfCpBucKjdqkcCobqbBgDcBnjEabgbDzbdhbdbebxBdCaoByCkgdbbclBckxzBdhBvBcbqfbkkfbB",
     "pxdbiuxdbdBybbdccfcbbbydclhdmgcgcgjhbhFpBjBdQNsmxeBxMNcOccEcCpbbkbnbfbbbcbcbEeBhNzsCmcCcBomE",
     "mfbFfEbCecBfdgcgcgcdBjmbBabtbcbpcoBiEtCrCbKhBddBxBvBgnBefBmkBecBkeibfEsDaDuBoiCaGaLzjwkizcEv",
     "gcbbBsbcdbcxkxjBfCntbckwkBaCsCegcCmbpebdbBdBqBddBdBjibBcBbCckwktnsEgCvHbBkNkBqgcDaBdkbiwBqsB",
     "uvBbxmCbCfccbnBtBgzBaBkBdbcbiBjdbmBwoevbbbBjsbztcClhbbbebpbkhBvBmicccwbhbcbfdbsbmfGcCbseudBe",
     "BwucbbHcBvBpeBkBwubChBrnbCtBbBlhHdBsIdicbcibcbypbbbDqicBnqbbbBcbkBohbvblButbsCvKdjbBlrbBxBeE",
     "ihbcbBmvbzgbcbBgobMptpbbnbBiEubDbBJmDyEhrHoDXkDtpBPgrgFYvWlMUbVxhBfrDbrBesBwqeBfvftBHwCxfbCo",
     "nCmcbbBcJCaiBVqBqjNFrebhbcbLfpbBddcboeiPgDKuEdfndjhkNBcbThBtkhqbMjBesBsSqBcBDchbebcbpbHpFebB",
     "UiebBbbcbbcbbkbebbbbgbebbbbbbdbcbbcbbbbbbbbbbcbbcebhbebebbbkbrfdbfbrGOaCLFcBgGDugIocINqoLBlE",
     "PjUwCFyHHzfGFg"]⟩,
  ⟨["sc", "scontinue"],
    ["BscmbBYobGscSwbGBxbfbDBecGAubDAAwcbbBdcBdcdbcbkbGmcmbCvb"]⟩,
  ⟨["st", "sterm"],
    ["BhbBdbCAbbFrdGybBrdJmbCjbbbdcLhcCPwcBEkbecBDtbHqcHwbfbMccNqeGscccBdcHgcCncBKucjdFGubnbwcQnbB",
     "SHwbKkcItbdbOscDicDrbFwcFrdFocJpbBFFmcGnbBdbCnbEDwcBXdfBseHhcEneExdEzcgbqcDkcbcEebQbcOjcfpEb",
     "cJpdTxbbbJrcDjcQecBAqcCwcBCMbcFdbCnclbBGtbBDOgbLImb"]⟩,
  ⟨["se", "sep"],
    ["FdbLZmc"]⟩,
  ⟨["sp"],
    ["jbbctbExbIHjbDPnlBkbBvbFXwb"]⟩,
  ⟨["up", "upper"],
    ["CnBaDxxbhBhbbbbbbbbbbbbbbbbbbbbbbbbbbbbbbbbbbbbbbbbbbbbbbbbbbbbbbbcbbbbbbbbbbbbbbbcbbbbbbbbb",
     "bbbbbbbbbbbbbbbbbbbbbbbbbbbbbbbbbbbbbcbbbbdcbbbcbdcebcbddcbcbbbbbcbbcbbcbdbbbcdbhcbcbcbbbbbb",
     "bbbbbbbbbbcbbbbbbbbbbbbbbbbbccbbbdbbbbbbbbbbbbbbbbbbbbbbbbbbbbbbbbbbbbbbbbbbbbbbbbbbbbbbbbbb",
     "hcbccbbebbbbbbbbLdbbbdbibgbbdbbbcbrbjBjbcddbbbbbbbbbbbbbbbbbbbbbbbfbcbbccBzBwbbbbbbbbbbbbbbb",
     "bbbbbbbbbbbbbbbbbbjbbbbbbbbbbbbbbbbbbbbbbbbbbbbbbbbbbbbbbbbbbbbbbbbbbbbbbcbbbbbbbbbbbbcbbbbb",
     "bbbbbbbbbbbbbbbbbbbbbbbbbbbbbbbbbbbbbbbbbbbbbbbbbbbbbbbbbbbbbbbbbbbbbbbbbbbbbbbbbbbbbbbbbbcB",
     "mEHdBmbbfbBBuDiDUwbbbbbbbbbbbbbbbbbbbbbbbbbbbbbbbbbbbbbbbbbbbbbbbbbbbbbbbbbbbbbbbbbbbbbbbbbb",
     "bbbbbbbbbbbbbbbbbbbbbbbbbbbbbbbbbbbbbbbbbbbbbbbbbbbbbbbbbbbbbbbbbbbbbbbbbbbjbbbbbbbbbbbbbbbb",
     "bbbbbbbbbbbbbbbbbbbbbbbbbbbbbbbbbbbbbbbbbbbbbbbbbbbbbbbbbbbbbbbbbbbbbbbbbbbbbbbbbjiigkiiiigl",
     "bbbbbbbiiyiiiiiiflflemflfKbbebddcdcbdfgbbbbbbecekcfbBaqtbBFmBaCSuBwBwbbdcbbbbbbebbcbidbbbbbb",
     "bbbbbbbbbbbbbbbbbbbbbbbbbbbbbbbbbbbbbbbbbbbbbbbbbbbbbbbbbbbbbbbbbbbbbbbbbbbbbbbbbbbbbbbbbbbb",
     "ibbbebBTYjbbbbbbbbbbbbbbbbbbbbbbbbbbbbbbbbbbbbbbbbbbbbbtbbbbbbbbbbbbbbbbbbbbbbbbbbbFfbbbbbbb",
     "bbbbbbdbbbbbbbbbbbbbbbbbbbbbbbbbbbbbbbbbbbbbbbbbbbbbbbbbbbbbbbbbbbbbkbbbbcbbbbbbbbebbbcbbbdb",
     "bbbbbbbbbbbbbbbbbbbfbfbbbbbbbbbbbbbbbebbgbfbbbBcbBHAhBaBUzBoFgBkGalbpbhbcCQcBzENlBgBGJwBgBMM",
     "qBaBaBaBaBaBabbccbcccebiBaBaBacbecibhBbcbebfbbdhBbBaBaBaBaBaBaBaBaBaBaBaBezBhzBhzBhzBhzBhbGN",
     "lBiDBiBagBagBa"]⟩]

end CodeGraph.Unicode
