import SqlTemplate.Character.Set

/-!
# Ages of characters

The Unicode property `Age`: the version of the standard in which a code point was first assigned.
A pattern that names a version asks for the code points that were assigned by then.
-/

namespace SqlTemplate.CharSet

/-- The versions from the first on, each with its names and the code points that it added. -/
def ageTables : List (List String × List String) :=
  [(["1.1", "v11"],
    ["aThdBdCdDkgBuajvCrzbrbdacaegaaataBragcaaaaaaaarmlaCnalaBoiCabbbbcBbbhbbCcBlbgaBmaaBljailBa",
     "eewanacaazesmnbCtbeaoaBdbjTycaCabrbecypcahbbbvagaacdbaagbbbciadbaebugabfdbbvagabababbaaedb",
     "bckdaagolcagaaacavagabaebjacacbaoaejqcahbbbvagabbdbhcbbchbdbacdkqbafccadcbaaabcbccchacdecc",
     "adiaolncahacawajaedgacadgbibdjrbahacawajaedgacadgbgaabdjrbahacawapdfbcadiahbdjFoCfdBcBkbaa",
     "bbaabafdagacaaaabbamacbeaaafbjbbRhBljBmdadDleCpeDdEOjFyeDlfvbfbBlbfbhaaaaaaaBebCaaoanbfasb",
     "caiaBuawBigcBaqkBkrBdCezBvmDmuJhnaaEqFcBkBakuFiuFtjDbptfDhFodadbBbaBiaaadcaagbgnBecxanDDgC",
     "dgaaDfdfbDpfBndDpapDrBccBjBbBbcBxoldBuaEodDubBeJWaBEXxYJpJXtIbglefyaeaaababaEdBgOapClbCbBn",
     "lBjdludjasaddcaaaFebaaDpbDpcfbfbfbccgagnc"]),
   (["2.0", "v20"],
    ["CCvqamtaDMwCtaBggBadfaaaucgaaFQmaUgaCATvQNrEIFxbDSYnbDSYnbDSYnbDSYnbDSYnbDSYnbDSYnbDSYnbDS",
     "YnbDSYnbDSYnbDSYnbDSYn"]),
   (["2.1", "v21"],
    ["MJsaDGOsa"]),
   (["3.0", "v30"],
    ["TidBdhbrEmeBwajeDiisaElacaaaaaaaBdalaCnalaBpbbdDnbFzaHrcDtbeaoaBpeanaBdcBaCaBwCFgbarcxaiaa",
     "bgcadfaaahrcOiaBqawcgaacaobaBvBhaeabagcdfzQfgaCkaaadbgaaadbBmaaadbBeaaadbgaaadbgagawaBeaaa",
     "dbgaBmasfBbBiDglYfiBccDcFmDocjvoajfDjhBpCWaaxfDqcBxbDgbCtaDyiKiaEqaaBdFhbRohBgaDhbPhJvCCdz",
     "aDklIfzlChccaNoxWlJTdBFEfBSucrbpalacaaBGSbaBVuc"]),
   (["3.1", "v31"],
    ["BMybDQQbBfBXvBeadlBaGyBlbBlCZDpJljBmcGxUzDgaCsabbabbbdalaaadabaCmadbhagaBbadaeaacgaMzdLddB",
     "xPDvCLEsBETcUvBPCQsaBdDr"]),
   (["3.2", "v32"],
    ["UyaLpasmDzbBbaFqbCebbbbbBwpNlbMiaDNgbCHimagkwitlmacabDIwafedagemaCjbBxgDdoGllJhnEtaBdBzKxt",
     "FujDjhvbDllbjInnDlBbdpJvTrBZmcDibhbDpaJfpDcoDcoBRDhbpalacaBGIzCgBJcacpCabBraJab"]),
   (["4.0", "v40"],
    ["UzarcEobCkqDbhecFueTvdiiClcFsboaBscBccQtaHbaCoaaaFfaDfcmaCoaCgaEyhHkbEFmarjKbBccldldacBpbe",
     "EcBfBDnEdBCobIvaZibLpaKpbElhnbBQznCRmbBwaBqbCzdGkdDubBeaJTnClCOQuaCubQwlazasabaobnBhEsecdB",
     "sciWdBdaaFdbBlDbbjBGvfbaaBrabcabaCYUhDiNxaBTKCzJf"]),
   (["4.1", "v41"],
    ["VvkKreGcdJlbGnaBhcCoaraCffJgBdUgaDbaSsaBuaBMmbLibaaKfaCkaCkaBmaBeaBeaBeaoaBmawbBezCGbBpfzf",
     "jdbBfBbbbBGlDjZgbagBweBcdCaaDbaoaYtkVzaDwbrkepKjgBGgfJbBuaBuBgEcnBsjCbiapwigagagagagagagag",
     "BgxdbBJtpGraBPIsvCTnwIyBrBFDzEbBFpjBEzCwUmBjdnCIrdabehacaBadcdihiCXPuCrBQzb"]),
   (["5.0", "v50"],
    ["WgnLmcMyaBpfpdGjaTwCgOtbabBHhbmbFIiCxdBsWkgBybBCtdDobCaaXalBBlaKpdBGigedMdmgdBULidebKzCdBK",
     "OlzeaIRfBHuFoDumdCOGhrBQtb"]),
   (["5.1", "v51"],
    ["BHwdbbDiaHaaFjpIrekeBfeLprTcbInaBiaHxaBcbEdaEdazbhbthHgafaBcblfcgSwbDsaccCyaeabagcdfzCldbD",
     "BdaBBwBqclCrCdcocByMsBbGydDlfNraFiaDpaCadBXzaujcdKdaBedBFeedBoceKtcacdfNpBfxdbsBDjaGftBPPn",
     "hBZnLntBfbrhBbFaebEcEfeExCqilBlDfkaGdCcinbjbdBFStcBHolBzBtEzBccBwCKczeaCXSiaLRpBrdDv"]),
   (["5.2", "v52"],
    ["BYqbBCbBtboHkaCyafaBibExaCFodHkdHfeCpeDdfTraYfiVnCrGxbBtaCqCkaBcbkfjfnUzBiKfaBAtcFucCbaXha",
     "BAqbBccdjasaadxDiaBNgeKrambEcgMgaBOblBPLrhBXjBvPzDjLzjGjBbDvBccCzakdbExBbdCoxeIpBtbjQOjwdB",
     "wNBacFGbvaiHdbMlBfExCbcBcbBaehExCuUoBeTsCnLVpBPeCTNckeBebakaaabacacehagayaabbajdbaEgaoBhni",
     "CQLiGDo"]),
   (["6.0", "v60"],
    ["BYsbJnaCjaSlBbbaIkbsafbBaeTlfQqapasaWadCubBInbDEmBzhdTnaZnhBbaBFikBCbasaadBcadbBbaBiaaadci",
     "bBzcxananbCDjanaBPncBSEmbLmbabnjDbaBDtfbfbfigagBEMspHRhCzdBdBHEdVwBALabYMfobnboaoDbaakaaab",
     "acacehagajfiaabbajdbajCwzabBuiubGrBgofaCrctlBkaeuqoCkaaaGzadcCjrxFqeapacaaaaaaacafbdaabdal",
     "dkBvCrCfElCUQlIn"]),
   (["6.1", "v61"],
    ["CCtaElaZqaakCcBaTcaBMqbSsaeaBucEBaclfJvhBqdECpaaaBYpbByaeaCdbHtjBRAdaCNmhBiaJhbvaCybBCnwBD",
     "ZybFUtCdfbCRnygjfCaanChCugjBTtCdhjBHKnCqkBupqBVWhdaBaabaabaajadaaaafadaaaaaacabaabaaaaaaaa",
     "aabaabdagadadaaajaqecaeaqBzbYhbBLrdHfapacaaaaaaacafbdaabda"]),
   (["6.2", "v62"],
    ["MKga"]),
   (["6.3", "v63"],
    ["CIeaJYud"]),
   (["7.0", "v70"],
    ["BIlaQhhDobEnaZqakfCxaEpagaYoaByaCxaEwaItjDKqhVbbPkoVwbJcoBBgcBFpgBDsaBQhcjzbBfbBhclahXtgBT",
     "OufJllkcbbCqaStBeEudGtBvdbBFIugBHcbsaMgBbBiaBvBqOyBnhBzkaFnLyivjhJnCkhiRvBfBfBmdlFgrgdlgBV",
     "iaHzBmDhalaftkraBqEjCgejgcahbbbvagabaebibbbciaegbgceKgCthjGjCbbrCbCqkjWjDelaRfCeDFhBpHtlea",
     "BALeBeajdbDrBdbfjCrjjagauesBELzEcemcigjbhQKxHobpCZvaBfvubUlliaCravlBkaedelqgCsaaaGzadbCkbd",
     "gBcraBoaDhCrbmBvCrjpmcdFjDgBqldCdhjfBnhBd"]),
   (["8.0", "v80"],
    ["DHrbBtaUmaNnaJzaCMuabfEVnaHubDYddBRWuiCOtaJfaBhfMlbXldlDbBFFpbEBfsabeeHfbbpbBtYpBymBygfBVc",
     "dneGdgaaadaoakDhaDaaYitLdzcodpERoaIvHnLQpWkCAWkkCHyZboeaoJHccCzbDaeBjhJuaCweJibFiaWciDyeCg",
     "aCUCkINp"]),
   (["9.0", "v90"],
    ["DHuhvoBJoaHxadcagwcFRyiOfaCHadDXbbBTZkaKraBHQcbBEuBjdBjFAnaRgDlaaaaTtmCCwiaBsanjBccBfbvanB",
     "FMuaBeJBosBDaBGFkgaqbgabaeDIyCwejdbDDarFlaBFxaBoaLnbBgcUzfahhablaldoBlm"]),
   (["10.0", "v100"],
    ["DEmkPkbJrfTraCfbFYvaJtdBBgaBFyaCYzaYbeBClaBPXmuBLPhcIQpCthBzbwaeXggabaBrcaabaihjBFGoaYHjKy",
     "DcPfYAdfBRobBhbTylsahhabyarmBlfCdwDCPcLBk"]),
   (["11.0", "v110"],
    ["CAyaBmaDxaUecIcaLlaEoaPgaEwaENqaBOgBqbcFRlcvydoWoeBChaBPYgeCYgahbMlbBKVbbraBAsBnhjRlBnhBpO",
     "gaEncTfaLdaBAwaIuChXkaBBdfabaBkabafgjLxyBEAoDmJPheBCJttEvgJLvCpBSbaCEyaIkdOhcBbebdcaadxkmj",
     "gbBjyDrn"]),
   (["12.0", "v120"],
    ["EStaUfababaafdagagbbamaFKgaFPtaCaaWsaBTZlfbeBJqbBMBfwBRjaXbaBCohbBtbkGcbBZlBxmaHQtiWJjfdaB",
     "uiDlbJCvfPRbcqdSApBscnbjdbOdCfeaCJyaBKmCiBPdaCBfaBjaIulLccBuaBwaiaBofcbjfchbcBvDfBbddcecmf"]),
   (["12.1", "v121"],
    ["TIda"]),
   (["13.0", "v130"],
    ["DIcjZcaQnaEtaFAibGJtaBAtcBHneKPhjBFDfmCYrdBpbCaaBFudBGQpaEWwBpacbbJtBbOoaFdbYzaebBTlgbabha",
     "baBdabblijCKjaBEJqakbKFwSoBpiBLWtcDocCiaBYtbBibQsbDlaDwadbBpbfcBcaGlandosggicmgBoFqaCcBkjC",
     "MSigBHTpHHy"]),
   (["14.0", "v140"],
    ["CIfaWvBeabfhuarkBHoaBfaEwaDWgagaiaJeaBAmnEuaBvbYkaBBgaEInaBuaTekBRAscCYhbnbaaaexcBFTcaOqpE",
     "waBtbCVfkaoagabakaoagabRifaBpaiCXwzIvfCxaCGraFdgBHopHWxDuWDwDaajBAEvdagabLbdLIaBtbwiElVcbE",
     "YuBeBHwBeBZcgadabaoFQjcKlaPbaDdaGrbBrdjdhcqcfhhgCNCobGEud"]),
   (["15.0", "v150"],
    ["EXnaSfaDTAjcBFycDIbjBMzqaBocBbHXcaiBcBVHjaBhaMQztERgfKaCjBgaBPvBpGUbaFucdeDkaZqcobBjckcaan",
     "bjblanbCTHnaBIWrGFf"]),
   (["15.1", "v151"],
    ["SEmdTaaKEIpXx"]),
   (["16.0", "v160"],
    ["DGpaHCfbBuaKebCWxcFFdbBSQuclcBJOkBzCTvBlcBchbLtcCcaBSkjaabaaBlajaabaadajabhbBCutBVvBhnjBHf",
     "aHYyFXqKZsCfEOjCfLYiaXWhJpfQtITnBqdaHCbjdbRmaeaBtagauabaiaIqBk"])]

/-- The code points that the versions up to a name added. -/
def addedBy (name : String) : List (List String × List String) → Option CharSet
  | [] => .none
  | (names, table) :: later =>
    if names.contains name then some (ofTable table)
    else (addedBy name later).map (ofTable table).union

/-- The code points that were assigned by a version. -/
def age? (name : String) : Option CharSet :=
  addedBy name ageTables

end SqlTemplate.CharSet
