import CodeGraph.Unicode.Category

/-! # Age

For each version of the standard the characters it added, the oldest version first.
-/

namespace CodeGraph.Unicode

/-- The characters that each version added. -/
def ages : List NamedSet := [
  ⟨["1.1", "v11"],
    ["aTieBeCeDlhBvbkwCsBacscebdbfhbbbubBsbhdbbbbbbbbsnmbCobmbBpjCbccccdBcciccCdBmchbBnbbBmkbjmBbf",
     "fxbobdbbBaftnocCucfbpbBeckTzdbCbcscfdzqdbicccwbhbbdecbbhcccdjbecbfcvhbcgeccwbhbcbcbccbbfeccd",
     "lebbhpmdbhbbbdbwbhbcbfckbdbdcbpbfkrdbicccwbhbccecidccdicecbdelrcbgddbedcbbbcdcdddibdefddbejb",
     "pmodbibdbxbkbfehbdbehcjcekscbibdbxbkbfehbdbehchbbcekscbibdbxbqegcdbejbicekFpCgeBdBlcbbccbbcb",
     "gebhbdbbbbccbnbdcfbbbgckccRiBmkBnebeDmfCqfDeEOkFzfDmgwcgcBmcgcibbbbbbbBfcCbbpbocgbtcdbjbBvbx",
     "BjhdBbrlBlsBeCfBaBwnDnvJiobbErFdBlBblvFjvFukDcqugDiFpebecBcbBjbbbedbbhchoBfdyboDDhCehbbDgegc",
     "DqgBoeDqbqDsBddBkBcBcdBypmeBvbEpeDvcBfJWbBEXyYJqJXuIchmfgzbfbbbcbcbEeBhObqCmcCcBomBkemvekbtb",
     "eedbbbFfcbbDqcDqdgcgcgcddhbhod"]⟩,
  ⟨["2.0", "v20"],
    ["CCvrbnubDMxCubBhhBbegbbbvdhbbFQnbUhbCATwQNsEIFycDSYocDSYocDSYocDSYocDSYocDSYocDSYocDSYocDSYo",
     "cDSYocDSYocDSYocDSYo"]⟩,
  ⟨["2.1", "v21"],
    ["MJsbDGOtb"]⟩,
  ⟨["3.0", "v30"],
    ["TieBeicsEnfBxbkfDjjtbEmbdbbbbbbbBebmbCobmbBqcceDocGabHsdDucfbpbBqfbobBedBbCbBxCFhcbsdybjbbch",
     "dbegbbbisdOjbBrbxdhbbdbpcbBwBibfbcbhdegBaQghbClbbbechbbbecBnbbbecBfbbbechbbbechbhbxbBfbbbech",
     "bBnbtgBcBjDhmYgjBddDdFnDpdkwpbkgDkiBqCWbbygDrdBycDhcCubDzjKjbErbbBeFicRpiBhbDicPiJwCCeBabDlm",
     "IgBamCiddbNpyWmJTeBFEgBSvdscqbmbdbbBGScbBVvd"]⟩,
  ⟨["3.1", "v31"],
    ["BMycDQQcBgBXwBfbemBbGzBmcBmCZDqJmkBndGyVaDhbCtbccbcccebmbbbebcbCnbecibhbBcbebfbbdhbNaeLeeByP",
     "DwCLEtBETdUwBPCQtbBeDs"]⟩,
  ⟨["3.2", "v32"],
    ["UybLqbtnEacBcbFrcCfcccccBxqNmcMjbDNhcCHjnbhlxjumnbdbcDIxbgfebhfnbCkcByhDepGmmJioEubBeCaKyuFv",
     "kDkiwcDmmckIooDmBceqJwTsBZndDjcicDqbJgqDdpDdpBRDicqbmbdbBGJaChBJdbdqCbcBsbJbc"]⟩,
  ⟨["4.0", "v40"],
    ["UzbsdEpcClrDcifdFvfTwejjCmdFtcpbBtdBddQubHcbCpbbbFgbDgdnbCpbChbEziHlcEFnbskKcBddmemebdBqcfEd",
     "BgBDoEeBCpcIwbZjcLqbKqcEmiocBRaoCRncBxbBrcDaeGleDvcBfbJToCmCOQvbCvcQxmbBabtbcbpcoBiEtfdeBtdj",
     "WeBebbFecBmDcckBGwgcbbBsbcdbcbCYUiDjNybBTKDaJg"]⟩,
  ⟨["4.1", "v41"],
    ["VvlKsfGdeJmcGobBidCpbsbCggJhBeUhbDcbStbBvbBMncLjcbbKgbClbClbBnbBfbBfbBfbpbBnbxcBfBaCGcBqgBag",
     "kecBgBcccBGmDkZhcbhBxfBdeCbbDcbpbYulWabDxcslfqKkhBGhgJcBvbBvBhEdoBtkCcjbqxjhbhbhbhbhbhbhbhBh",
     "yecBJuqGsbBPItwCToxIzBsBFEaEcBFqkBFaCxUnBkeoCIsebcfibdbBbedejijCXPvCsBRac"]⟩,
  ⟨["5.0", "v50"],
    ["WgoLndMzbBqgqeGkbTxChOucbcBHicncFIjCyeBtWlhBzcBCueDpcCbbXbmBBmbKqeBGjhfeMenheBULjefcLaCeBKOm",
     "BafbIRgBHvFpDvneCOGisBQuc"]⟩,
  ⟨["5.1", "v51"],
    ["BHweccDjbHbbFkqIsflfBgfLqsTdcIobBjbHybBdcEebEebBacicuiHhbgbBdcmgdhSxcDtbddCzbfbcbhdegBaCmecD",
     "BebBBxBrdmCsCedpdBzMtBcGzeDmgNsbFjbDqbCbeBYabvkdeKebBfeBFffeBpdfKudbdegNqBgyectBDkbGguBPPoiB",
     "ZoLouBgcsiBcFbfcEdEgfEyCrjmBmDglbGeCdjockceBFSudBHpmCaBuFaBddBxCKdBafbCXSjbLRqBseDw"]⟩,
  ⟨["5.2", "v52"],
    ["BYqcBCcBucpHlbCzbgbBjcEybCFpeHleHgfCqfDegTsbYgjVoCsGycBubCrClbBdclgkgoVaBjKgbBAudFvdCcbXibBA",
     "rcBddekbtbbeyDjbBNhfKsbncEdhMhbBOcmBPLsiBXkBwQaDkMakGkBcDwBddDablecEyBceCpyfIqBuckQOkxeBxNBb",
     "dFGcwbjHecMmBgEyCcdBdcBbfiEyCvUpBfTtCoLVqBPfCTNdlfBfcblbbbcbdbdfibhbzbbccbkecbEhbpBiojCQLjGD",
     "p"]⟩,
  ⟨["6.0", "v60"],
    ["BYscJobCkbSmBccbIlctbgcBbfTmgQrbqbtbWbeCvcBIocDEnCaieTobZoiBcbBFjlBCcbtbbeBdbecBcbBjbbbedjcC",
     "adybobocCDkbobBPodBSEncLncbcokDcbBDugcgcgjhbhBEMtqHRiDaeBeBHEeVxBALbcYMgpcocpbpDcbblbbbcbdbd",
     "fibhbkgjbbccbkecbkCxBabcBvjvcGsBhpgbCsdumBlbfvrpClbbbHabedCksyFrfbqbdbbbbbbbdbgcebbcebmelBwC",
     "sCgEmCUQmIo"]⟩,
  ⟨["6.1", "v61"],
    ["CCtbEmbZrbblCdBbTdbBMrcStbfbBvdEBbdmgJwiBreECqbbbBYqcBzbfbCecHukBRAebCNniBjbJicwbCzcBCoxBDZz",
     "cFUuCegcCRozhkgCbboCiCvhkBTuCeikBHKoCrlBvqrBVWiebBbbcbbcbbkbebbbbgbebbbbbbdbcbbcbbbbbbbbbbcb",
     "bcebhbebebbbkbrfdbfbrCacYicBLseHgbqbdbbbbbbbdbgcebbceb"]⟩,
  ⟨["6.2", "v62"],
    ["MKgb"]⟩,
  ⟨["6.3", "v63"],
    ["CIebJYve"]⟩,
  ⟨["7.0", "v70"],
    ["BIlbQiiDpcEobZrblgCybEqbhbYpbBzbCybExbIukDKriVccPlpVxcJdpBBhdBFqhBDtbBQidkBacBgcBidmbiXuhBTO",
     "vgJmmldccCrbSuBfEveGuBwecBFIvhBHdctbMhBcBjbBwBrOzBoiCalbFoLzjwkiJoClijRwBgBgBnemFhshemhBVjbI",
     "aBnDibmbgulsbBrEkChfkhdbicccwbhbcbfcjcccdjbfhchdfKhCuikGkCccsCcCrlkWkDfmbRgCfDFiBqHumfbBALfB",
     "fbkecDsBecgkCskkbhbvftBEMaEdfndjhkciQKyHpcqCZwbBgwvcUmmjbCsbwmBlbfefmrhCtbbbHabecClcehBdsbBp",
     "bDiCscnBwCskqndeFkDhBrmeCeikgBoiBe"]⟩,
  ⟨["8.0", "v80"],
    ["DHrcBubUnbNobKabCMvbcgEVobHvcDYeeBRWvjCOubJgbBigMmcXmemDcBFFqcEBgtbcffHgccqcBuYqBznBzhgBVdeo",
     "fGehbbbebpblDibDbbYjuLeBadpeqERpbIwHoLQqWlCAWllCHzZcpfbpJHddDacDbfBkiJvbCxfJjcFjbWdjDzfChbCU",
     "ClINq"]⟩,
  ⟨["9.0", "v90"],
    ["DHuiwpBJpbHybedbhxdFRzjOgbCHbeDXccBTZlbKsbBHQdcBEvBkeBkFAobRhDmbbbbTunCCxjbBtbokBddBgcwboBFM",
     "vbBfJBptBDbBGFlhbrchbcbfDIzCxfkecDDbsFmbBFybBpbLocBhdVagbiibcmbmepBmn"]⟩,
  ⟨["10.0", "v100"],
    ["DEmlPlcJsgTsbCgcFYwbJueBBhbBFzbCZabYcfBCmbBPXnvBLPidIQqCuiCacxbfXhhbcbBsdbbcbjikBFGpbYHkKzDd",
     "PgYAegBRpcBicTzmtbiibczbsnBmgCexDCPdLBl"]⟩,
  ⟨["11.0", "v110"],
    ["CAybBnbDybUfdIdbLmbEpbPhbExbENrbBOhBrcdFRmdwzepWpfBCibBPYhfCYhbicMmcBKVccsbBAtBoikRmBoiBqOhb",
     "EodTgbLebBAxbIvCiXlbBBegbcbBlbcbghkLyzBEApDnJPifBCJuuEwhJLwCqBScbCEzbIleOidBcfcedbbeylnkhcBk",
     "zDso"]⟩,
  ⟨["12.0", "v120"],
    ["EStbUgbcbcbbgebhbhccbnbFKhbFPubCbbWtbBTZmgcfBJrcBMBgxBRkbXcbBCpicBuclGdcBZmBynbHQujWJkgebBvj",
     "DmcJCwgPRcdreSAqBtdockecOeCgfbCJzbBKnCjBPebCBgbBkbIvmLddBvbBxbjbBpgdckgdicdBwDgBceedfdng"]⟩,
  ⟨["12.1", "v121"],
    ["TIdb"]⟩,
  ⟨["13.0", "v130"],
    ["DIckZdbQobEubFAjcGJubBAudBHofKPikBFDgnCYseBqcCbbBFveBGQqbEWxBqbdccJuBcOpbFecZabfcBTmhcbcibcb",
     "BebccmjkCKkbBEJrblcKFxSpBqjBLWudDpdCjbBYucBjcQtcDmbDxbecBqcgdBdbGmboepthhjdnhBpFrbCdBlkCMSjh",
     "BHTqHHz"]⟩,
  ⟨["14.0", "v140"],
    ["CIfbWwBfbcgivbslBHpbBgbExbDWhbhbjbJfbBAnoEvbBwcYlbBBhbEIobBvbTflBRAtdCYicocbbbfydBFTdbOrqExb",
     "BucCVglbpbhbcblbpbhbcRjgbBqbjCXxBaIwgCybCGsbFehBHpqHWyDvWDxDbbkBAEwebhbcLceLIbBucxjEmVdcEYvB",
     "fBHxBfBZdhbebcbpFQkdKmbPcbDebGscBsekeidrdgiihCNCpcGEve"]⟩,
  ⟨["15.0", "v150"],
    ["EXnbSgbDTAkdBFzdDIckBNarbBpdBcHXdbjBdBVHkbBibMRauERhgKbCkBhbBPwBqGUcbFvdefDlbZrdpcBkdldbbock",
     "cmbocCTHobBIWsGFg"]⟩]

end CodeGraph.Unicode
