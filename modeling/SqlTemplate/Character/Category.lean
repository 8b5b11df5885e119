import SqlTemplate.Character.Set

/-!
# General categories

The Unicode property `General_Category`: every character has one. Surrogates are no characters, so
their category is not among them.
-/

namespace SqlTemplate

/-- The values of `General_Category`, by their two-letter names. -/
inductive Category where
  | lu | ll | lt | lm | lo | mn | mc | me | nd | nl
  | no | pc | pd | ps | pe | pi | pf | po | sm | sc
  | sk | so | zs | zl | zp | cc | cf | co | cn
deriving DecidableEq, Repr

namespace Category

def table : Category → List String
  | .lu =>
    ["CnzDwwagBgaaaaaaaaaaaaaaaaaaaaaaaaaaaaaaaaaaaaaaaaaaaaaaaaaaaaaaabaaaaaaaaaaaaaaabaaaaaaaa",
     "aaaaaaaaaaaaaaaaaaaaaaaaaaaaaaaaaaaaaabaaaacbaaabacbdabaccbabaaaaabaabaabacaaabcagabababaa",
     "aaaaaaaaaaaaabaaaaaaaaaaaaaaaaababaacaaaaaaaaaaaaaaaaaaaaaaaaaaaaaaaaaaaaaaaaaaaaaaaaaaaaa",
     "aaaaagbabbaadaaaaaaaaLcaaacahafaacaaabaqaiBiabccaaaaaaaaaaaaaaaaaaaaaaaeabaabbByBvaaaaaaaa",
     "aaaaaaaaaaaaaaaaaaaaaaaaaiaaaaaaaaaaaaaaaaaaaaaaaaaaaaaaaaaaaaaaaaaaaaaaaaaaaaaabaaaaaaaaa",
     "aaabaaaaaaaaaaaaaaaaaaaaaaaaaaaaaaaaaaaaaaaaaaaaaaaaaaaaaaaaaaaaaaaaaaaaaaaaaaaaaaaaaaaaaa",
     "aaaaaaaaabBlEHcBlaaeaBBtDhDGkafBqbcMhaaaaaaaaaaaaaaaaaaaaaaaaaaaaaaaaaaaaaaaaaaaaaaaaaaaaa",
     "aaaaaaaaaaaaaaaaaaaaaaaaaaaaaaaaaaaaaaaaaaaaaaaaaaaaaaaaaaaaaaaaaaaaaaaaaaaaaaaaaaaaaaaaaa",
     "aaaaaaiaaaaaaaaaaaaaaaaaaaaaaaaaaaaaaaaaaaaaaaaaaaaaaaaaaaaaaaaaaaaaaaaaaaaaaaaaaaaaaaaaaa",
     "aaaaaaaaaaaaaaihhfjhhhhfkaaaaaaahhCtdldldlekdKbadaccbcbacefaaaaaadbdjbeaCiaDZfBvBvaacbaaaa",
     "aadaabahcaaaaaaaaaaaaaaaaaaaaaaaaaaaaaaaaaaaaaaaaaaaaaaaaaaaaaaaaaaaaaaaaaaaaaaaaaaaaaaaaa",
     "aaaaaaaaaaaaaaaaahaaadaBTYiaaaaaaaaaaaaaaaaaaaaaaaaaaaaaaaaaaaaaaaaaaaaasaaaaaaaaaaaaaaaaa",
     "aaaaaaaaaaFeaaaaaaaaaaaaacaaaaaaaaaaaaaaaaaaaaaaaaaaaaaaaaaaaaaaaaaaaaaaaaaaaaaaaaaaaaajaa",
     "aabaaaaaaaadaaabaaacaaaaaaaaaaaaaaaaaaaaeaeaaaaaaaaaaaaaaadaaabcaeaaaaaaaxaBHAgzBUyBnFfBjF",
     "zkaoagabCQbByGavEGnBfBGJvBfBMMpzzzzzzaabbabbbdahzzzbadbhagBabadaeaacgBazzzzzzzzzzzBdyBgyBg",
     "yBgyBgyBgaGNkBh"]
  | .ll =>
    ["DtzCfaBoxahaaaaaaaaaaaaaaaaaaaaaaaaaaaaaaaaaaaaaaaaaaaaaaaaaaaaaaabaaaaaaaaaaaaaaabaaaaaaa",
     "aaaaaaaaaaaaaaaaaaaaaaaaaaaaaaaaaaaaaaabaaaacbaaabacbdabaccbabaaaaabaabaabacaaabbbcfababaa",
     "aaaaaaaaaaaaaabaaaaaaaaaaaaaaaaabbaaacaaaaaaaaaaaaaaaaaaaaaaaaaaaaaaaaaaaaaaaaaaaaaaaaaaaa",
     "aaaaaagbabbaadaaaaaaaaCqaBaHkaaacaccraBaBiabccaaaaaaaaaaaaaaaaaaaaaaaeaababbByBvaaaaaaaaaa",
     "aaaaaaaaaaaaaaaaaaaaaaaaiaaaaaaaaaaaaaaaaaaaaaaaaaaaaaaaaaaaaaaaaaaaaaaaaaaaaabaaaaaaaaaaa",
     "abaaaaaaaaaaaaaaaaaaaaaaaaaaaaaaaaaaaaaaaaaaaaaaaaaaaaaaaaaaaaaaaaaaaaaaaaaaaaaaaaaaaaaaaa",
     "aaaaaaaaBvBoEHaBqbcBDffDFtiaaEmBrCkmaBhDxaaaaaaaaaaaaaaaaaaaaaaaaaaaaaaaaaaaaaaaaaaaaaaaaa",
     "aaaaaaaaaaaaaaaaaaaaaaaaaaaaaaaaaaaaaaaaaaaaaaaaaaaaaaaaaaaaaaaaaaaaaaaaaaaaaaaaaaaaaaaaaa",
     "aaaaaaaaaiaaaaaaaaaaaaaaaaaaaaaaaaaaaaaaaaaaaaaaaaaaaaaaaaaaaaaaaaaaaaaaaaaaaaaaaaaaaaaaaa",
     "aaaaaaaaaaaaaaaaaihfjhhhhfjhhhhnbhhhhhheabfaccabhdbbhhjcabKnacbcaBaadadabbhddaCaaEBaBvaacb",
     "aaaaaadaabafeaaaaaaaaaaaaaaaaaaaaaaaaaaaaaaaaaaaaaaaaaaaaaaaaaaaaaaaaaaaaaaaaaaaaaaaaaaaaa",
     "aaaaaaaaaaaaaaaaaaaaabgaaadalBlaaeaBTWcaaaaaaaaaaaaaaaaaaaaaaaaaaaaaaaaaaaaaaaaaaaaasaaaaa",
     "aaaaaaaaaaaaaaaaaaaaaaFeaaaaaaaaaaaacaaaaaaaaaaaaaaaaaaaaaaaaaaaaaaaaaaaaaaaaaaaaaaaaaaaaa",
     "aaaaaaaaaahaaaabaaaaaaaaadaaabaacaaaaaaaaaaaaaaaaaaaaeaeaaaaaaaaaaaaaaadaaabacaaaaaaaaaaaz",
     "acaBFoBqeigDbBEAhgleBOyzBVgBnFfBjFykaoagabCRaByEuvEGnBfBGJvBfBMMjzzgarzzzdaaagakzzzzzzzzzz",
     "zzzzzzzBbBbyafzyafzyafzyafzyafaaCSxjatffDUcBh"]
  | .lt =>
    ["RlababaBlaLFghhhhhlaoaBua"]
  | .lm =>
    ["BAmrdlnegaaaFcaeaSjaIvaGhbKibdaBeaiacaGdaGkaBVnaEwaVsaCPlaEcaXmaRvfGrCkmaBhBkBAmamapmEMwbJ",
     "gaHiaSaaBqeeaDsbDocBQBtaBWbfKjaEjaBbbEqiDbawaEaccbSaavaFgaEdaubDydiaBFVhaBsbCZnfaBpaiCCwaB",
     "faBJNrdTncBnbVdmClbaaYGpdagabSGmCjHsgBKeaBRaa"]
  | .lo =>
    ["GoaoaJvaddHzaBFuBaddBsBfajBibaDuaaxbjcbapaaBdBcDkkaxBguvBpygkexafqBoCgCbcaragjpodhbbbvagaa",
     "cdcapambacnbjahfdbbvagabababBedaascpiacavagabaecaraobwakhbbbvagabaecaBdbacoaqaafccadcbaaab",
     "cbccclvaBzhacawapcazcbabbBdadhacawajaecaBebabobqiacaBobapaechcxfercxaiaabgCfBvablfCgbaaaea",
     "xaaajabiabewdBfaCkhaBjBaeEkBqtapfddcacbgcdmlaEiMqadbgaaadbBoadbBgadbgaaadboaCeadbCoBkpEiXv",
     "bqazeCwfhgrmsnrnmacoBzBnaCoBiaCagebBhaaeCrjBeBwBdbekBrdzCbwiCaGtBuqhCbBdmbjBrzBjBocjBdEida",
     "fabcaBPpdENuCdxwigagagagagagagagVeaCaadDhhaaDldaeBqaDpqBfBvpTrJTnClBFCeaBRyCoBnhKhdpjbCnaB",
     "wCrGmaDyacgacadawBcBznBxCjfcaabkBbjwyBcgBuBsebijeaBowcahtpafcacBxaacbbebaaaxbckganfbfbfiga",
     "gFoBiBcQNrlwdBwMNbObbEbCoaajamaeaaababaEdBgNyrClbCbBnlEleaFeEajaBsbBecfbfbfbcBilazasabaobn",
     "BhEsOyBccBwBuBfmtahfBljBdbBjdhExCzDtBnhBzDnBzlLyivjhFvfbaaBrabcabwjwiBeCmsabjvjzCrCdfbClao",
     "dacaBcBpBccBcBihaBbBaCbjvjsmrEfCuHaBjBldaaLrBpfbpcCgBcjahvBprBtuBawlCaCebbamBsBfyzBjBcabah",
     "BicalBvnduaaaBiraysbCkgaaadaoajgBuBlhbbbvagabaecaraleBdjaabaaBlaayaaaBrCardtcBdBvtbaaHbBuB",
     "odBjBvtaCgBqmaCsBaBkgHcBrIchbabhabaxoaaaDphbBmpaaaBbajBngauakBtsarCuHqBgBeiaBkqaBwBdEhgaba",
     "BluayfabaBfnaMosoaamaBhEtaDaBJlIvHnDXjDsoBPfqfyFXqeWkKDcBdCPtVwgBeqDaqBdrBvByuesQsBnPoCwea",
     "GsJBzhBVpBojNGgLeoaBccbandhPfDKtEcemcigjNBbaTgBsBgaMiBdrBrSpBaIuBdbaTagadabaoaHoBZmdaBaaba",
     "abaajadaaaafadaaaaaacabaabaaaaaaaaaabaabdagadadaaajaqecaeaqGNzCLFbBfGDtfInbINpnLBkoXxDQvUv",
     "CFxHHyeGFf"]
  | .mn =>
    ["BDoEhKoeKeBsaaababaaCtkBvupaDwgbfbbadBiaBdBaDmkCfiiaxdaiacaeBqcCgiBpxaBfCcaaadhdacgjbBcaCf",
     "addhatbzabbCeadbdbbccaBdbcakbCeadeabdatbvfaaCfabaadhagbkbBdaCialaBxacaCcaacecadgbkbBcaCfab",
     "afaebtbBbbCebddhatbBcaCtagcaaDlabglhDtabikgCubBaaaaaaCcnaeabekaBjiaDxdafabbbybdcpdmabbfaoa",
     "BBacBKjcBcbBdbBdbClbaghabkiaBscaaEmbBhaEncdbiafcIkbbaCfaagaaaabhfjbaBvnapBwdBvaaeaaeaBnilb",
     "BfdbbacCdaabcaacCfhbbFvcamagdafacbHpClBBrmdaclEObcFkaDrBfVhdEcbBSQdadjBfbDbbKlacadaybeaFub",
     "zrmaBlhykBtcBvabdbbBmaCofbbbblahaBuaByaacbbebaaBpbhaJdabadaBDZraBCipppBLkaIraFseCMfcabedBn",
     "cdaGibWadCmeMebDadCrkBwdEsaCboBoabbjcBwdbbgaCicBjeahCjalbBzijdbaDqcbaabfabaGaachubCebcaBkg",
     "ceCrfmaaaaanbDghbcaawaDffaadbabJddfbabBabDghbaabEbaaabfaaDwaaabdaeJyiabJvbaadaFndbbdaBfjBn",
     "fbdhaifbcBtmabPpgafaaDdvbgababErfcaabagaaCtbcaaaNibkbBzeeaaawaHXsafoQYxlccDRzeCggBOhaCkdDc",
     "aBDBjbGYyBtbwUxcqhbgBddFrcCYcCcdBxhanaveaoCAhgaqbgabaeDvaGdgOkaCidTndJtbBChgEegBTCIuJf"]
  | .mc =>
    ["DKtaCcabchdabBxbCfcfbbbjaBqaCfcCnaCfchaabCabCfaaafbbbjaDxbabccacjaBocCidCibCfaaebbabibBban",
     "bCfcecacjaBpbCwcfhrbMrbCkaGobdafabbybjcbgubbfbajcCLraBdaEyaghabNhdbcdbafIpbCfaaaiaabhfFoaB",
     "vaeaaeabCiaBdadbbaChabcaacbBvhhbGoauaHHdbBTLabbaDjbBxpFlbBuaBvbdbbcEfbbbxaBsaaaEeabbeaJcba",
     "babaaBLXiaaaEwaBscdbEkaxbCgaBvcibmaDoccbaaGncBebCfbadbbbciajbDfcgabaadabaaDwchbcaEbcfaadba",
     "JccfdbaEichbaaEeaabfaDyaabdaKaciaJmfabdabaaaFlchddaDfaBcbCjaPqanaEbagabaIeedbaaNlblaBvbhba",
     "aYYxcFJfCcDzbBKXmbff"]
  | .me =>
    ["BSqbIKpaCIfdacBYOwc"]
  | .nd =>
    ["BwjCInjFdjHpjPvjEnjEnjEnjEnjEnjEnjEnjEnjEnjDrjEnjCrjKrjCrjCTpjBljLnjExjGjjfjGzjDhjFdjfjCAE",
     "njBAbjBljHpjvjDhjPpjBFMbjCCjjDFxjfjBEpjExjChjFnjKrjNdjEnjOjjDxjftCxjQfjDxjZljDhjJljCrjQfjY",
     "YfjDMbjDhjFdjUnjBKDxjECpBxDNbjQfjThjJmjBGujHAzj"]
  | .nl =>
    ["IRucDYsBibdFMrayincBSYkjBIFfCaRrahaFdeMErEg"]
  | .no =>
    ["GwbeabcDMqfOlfEpcFcgIigqiQqjBPktBRujSlaCMuacffjHppBoaBBxChCzvYfBdCBgaBTbdFhjBdhaoBfjBmoBSM",
     "hfBHQmBsCmdqbNcBaBjdBZfhygBmiCwevfGdbbpbBtCliBzbBdcCweDzhxhBogMrfNnBeGbjBpdEhgFdtOotBZwbQn",
     "iBHmsBGsuBCPpgBErwBLYetltEdyIBtiBJsCgacadCxBsaoBKzm"]
  | .pc =>
    ["DraMBubsaDGAnbxcJea"]
  | .pd =>
    ["BtaCAtaByaFKiaBNoaDBcfFHwabaBebdaBbaRdasaEgaCZVzbBkajaGmaFLnaMfa"]
  | .ps =>
    ["BoaBxaBeaFPdaaaCUnaDPlacaBlaCcaoaYjaaaBdaBPtaaaaaaaaaaaaaDbaBfaaaaaaaaaPnaaaaaaaaaaaaaaaaa",
     "aaaaClaaaBgaBOuaaaaaaayaraaaaaaaQlaaaaaaaaacaaaaaaabaCZRsaIgaBcaaaaaaaaaaaaaaacaqaaaaaGnaB",
     "xaBeacaba"]
  | .pe =>
    ["BpaByaBeaFPcaaaCUnaDRcaCcaoaYjaaaBdaBPtaaaaaaaaaaaaaDbaBfaaaaaaaaaPnaaaaaaaaaaaaaaaaaaaaaC",
     "laaaBgaBOuaaaaaaaBraaaaaaaQlaaaaaaaaacaaaaaaabbCZRpaIiaBcaaaaaaaaaaaaaaacaqaaaaaGnaByaBeab",
     "aba"]
  | .pi =>
    ["GpaLXjabbbayaFFraaadabaoaca"]
  | .pf =>
    ["HfaLWuacaBbaFFraaadabaoaca"]
  | .po =>
    ["BhcacbaaaabjbcbBaaCpaeanbgaBAzahaRxfBoaCbababaBrbtbabmaacCvdDxaBqnIycCboBeaKabjaFjaEpaEqaO",
     "zalaOcaDlajbGloaaEhaCvedbEgfGoaXniBDsaEtcCsbGacacBkfadMabIhbExgafGdbjgBbcEtdCgeCjbClhkaBGb",
     "bhhhibdbcckaaajEUbdabEhaFmbdcbabiabaabbjeajbdaaambcQlcCeaHgaBRYfbKicDuajaEkfOpdDhbBncaaBwb",
     "BuaDsmpbEtdEvbpbJoaBFCtgbavatbbdccadgcfaabFscacbaaaabjbcbBaaBjabbPtcZraBvaPxaBCoaHqaBeaKli",
     "BlaEhgCngDkdBKpeBrdHggEebadEvdBvbDaddamaacDjfEcaLlbabEjejbaaDzaJpwEacBbmCxaEzcJraKdcFyaDnh",
     "DecaeDojIgaDqeBpbYubCvmGsaBRreEJbbWDubFcaCmehaVfcLidMoaBDBnaLIkeEIsaBHdb"]
  | .sm =>
    ["BrapcCiaaaBsadaBkaBeaBDlaUgcJYgamaBmcmcFiaBmefaCpeebdababagaBebbaaaBeKhBfbDlaBdyBnfSaaiaCb",
     "hEgaMxebBejpJvFavCkdBfbJxBvubfDASpaBFraacGhapcCiaaaFaafdFEebCYEyayaBeayaBeayaBeayaBeayaIUd",
     "b"]
  | .sc =>
    ["BkaEudBWiaEsaTdbTdbgaJkaKcaWiaDQoaDIhBgBZHuaBGMkaEdaFxaIkbcbMCrdCVXdaDRja"]
  | .sk =>
    ["DqaaaCsafadacaUadlnegaaaqEmanbBXhaIUlaackcmcmcmbGHnbBSVqwibDybBLnanbBEKjqBIgaaaGfaDOLie"]
  | .so =>
    ["GkabadaaaBLoaKfbEwbHxajasbJmaTuaOiaEzfaaFbaHyaBoaPacoaacbftaaaaaFchafabedHobBCxjBBuaBBtaGa",
     "BhNojiiCCgbadabjaabffaaaaaadakbnaabaaCfbiebdababagaBebbaaaBeKhhdtbgbDcaBdyBnfCtvkDcCzvHaai",
     "aCbhEgaJnBrBrClJvTrBvubfBmbBfaEaIufNsbBtzaDklIfzpdamblaubfbMxbdjBfBliapBekBdhaoBfjBmoMhJTn",
     "ClBGUhCcBHgdjbaaWacBFIzpEwaBscSpacadbmbMaiCeqbcamcaBuBsCLtbWsaESraDGmhdqBCNhdeaBEUvaFVmJfp",
     "QtFzElChJljBmbChecvbgBddCiuCncaHdDiBTwTrCcdBxhanabCOtaEHvaEyaBBsBrdDvloboaoaBkwGeCdBcmBrdi",
     "gbnfFxJqeBBzdqcmcEodDqfldaoldCdhjfBnhBdbldbCjNblnbmcjeCdgobkfigFqaDn"]
  | .zs =>
    ["BgaEwaIHiaDPmkBjaBuaFXva"]
  | .zl =>
    ["MEqa"]
  | .zp =>
    ["MEra"]
  | .cc =>
    ["aBfDqBg"]
  | .cf =>
    ["GraCAjfvaHjaBwaOtbDbaFTiaDApezeBweajDGHiaJocGIyaoaNKjpBZQtdHWwhBTKZlaBdDr"]
  | .co =>
    ["DGVoJMdCAHXnDSYnbDSYn"]
  | .cn =>
    ["BIebfdgaaataPgaBlbBxbcaCchBadfkKjaChbDwnCgbBwboaBbbaakeBeabeJcahbbbvagaacdbibbbdhadbaebybc",
     "afdbbvagabababbaaedbbccagdaagqjcaiacavagabaebjacacbaodblggacahbbbvagabaebibbbcgcdbaebrjbaf",
     "ccadcbaaabcbcccldeccadbafanuemacawapbiacadgbacbabdbjgvacawajaebiacadgbfbadbjaclmacaByacafd",
     "pbzacarcxaiaabgcadfaaahfjbclCfdBcBkbaaaeaxaaawbeaaagajbdBfCtaBjdBmaBjaoamBkHpaaeabOmadbgaa",
     "adbBoadbBgadbgaaadboaCeadbCobBfczfDhbfbZscDkgvixitlmacablDpbjfjfzfDkgBqeCrjBealdldacBpbekB",
     "rdzfkcCjbCmaBcbkfjfnbBeBwCyaGjhChcocCjeBqbkhBqeUnbfbBlbfbhaaaaaaaBebCaaoanbfasbcaiaDwalbBa",
     "amcBgoBgoFjdZpvkuCRrbBfaNkeBsaaeabCdgbnxigagagagagagagagaEvBhzaDklIfzDbaDhbDyeBqaDpaDhiBva",
     "BRIqcCciNjtHbhHxbbaaahuCgcjfCdhCrhlfElkBdcCzakdBgaCcinbjbDyxBbjfbfbfigagaChdEvbjfQNrlwdBwd",
     "NAzbEbBlgleezaeaaababaEupRcbCbgaBfBpfByasaddeaFebaaHhcfbfbfbccgagjeblazasabaobnBhEsecdBscD",
     "jamcaBuBtEzBccBwoBbdBjiBdeBqeBdaBkdnBpGbbjfBjdBjdBnhBzklaoagabakaoagabcBzlLyivjhxfaBpaiCqf",
     "baaBrabcabwaCthiBvsabeBgcBaeaClCddtbBxabehacaBcbcdjgigClBfBmdliCbcBcbBaezgdlgDbCuCcBymBygB",
     "thjfBlcBchbHzBeaBpacbbpcCcBrhBpvzBlBbtwiCzdBjiCpjabygjfCaarhBmiDratkraBuCjgaaadaoakfCgejfd",
     "ahbbbvagabaeajbbbcbafaegbgcekjaabaaBlajaabaadajabhbBcDnaeBdCthjGjCbbBlBhCqkjfmsCffjftBbBab",
     "odwHcChDvDelhbabhabaBdabblijCrhbBtbkBaCthDemCugjGzBhnjfiaBsanjBccBfbvanCugabaBrcaabaihjffa",
     "baBkabafgjLxygqaBocBcDgaoBxmBJmDxEgaekHnDXjDumBQrjFXqeWkKDcCfCOrVwgBeajdDcajfBdbfjCrjjagau",
     "esQpCfHpDmDwCwdCegqClekbnJBzhBVpBojNFqdagabaLeoaBccbandhPfDKtEcemcigjbhFVfJpfQtCxBtbwiElCh",
     "JljBmbHluCrErtltlDiiyFeDgaCsabbabbbdalaaagaCmadbhagaBbadaeaacgaNbbLfbBAzoeaoBQlBeffIegaqbg",
     "abaeeCjBgaEhBscnbjdbMhBeqCfeaRvBpIfBqdaSlgadabaoaHobpBoCxdjdbBEeCpCxCiHldaBaabaabaajadaaaa",
     "fadaaaaaacabaabaaaaaaaaaabaabdagadadaaajaqecaeaqBzbKjBrdDvloboaoaBkjGrCdBcmBrdigbnfFxBLvdq",
     "cmcEodDqfldaoldCdhjfBnhBdbldbCjNblnbmcjeCdgobkfigFqaDxBNpCLFbBfGDtfInbINpnLBkoXxDQvUvCFxHH",
     "yeGFfBOMXkaBdDrExJfDSFnDSYnbDSYn"]

def members (category : Category) : CharSet :=
  .ofTable category.table

def union (categories : List Category) : CharSet :=
  .unions (categories.map members)

def letters : List Category := [.lu, .ll, .lt, .lm, .lo]

def marks : List Category := [.mn, .mc, .me]

def numbers : List Category := [.nd, .nl, .no]

/-- The categories that a name stands for. Names are written without capitals, blanks,
underscores and hyphens. -/
def named? (name : String) : Option (List Category) :=
  match name with
  | "l" | "letter" => some letters
  | "m" | "mark" | "combiningmark" => some marks
  | "n" | "number" => some numbers
  | "p" | "punct" | "punctuation" => some [.pc, .pd, .ps, .pe, .pi, .pf, .po]
  | "s" | "symbol" => some [.sm, .sc, .sk, .so]
  | "z" | "separator" => some [.zs, .zl, .zp]
  | "c" | "other" => some [.cc, .cf, .co, .cn]
  | "lc" | "casedletter" => some [.lu, .ll, .lt]
  | "lu" | "uppercaseletter" => some [.lu]
  | "ll" | "lowercaseletter" => some [.ll]
  | "lt" | "titlecaseletter" => some [.lt]
  | "lm" | "modifierletter" => some [.lm]
  | "lo" | "otherletter" => some [.lo]
  | "mn" | "nonspacingmark" => some [.mn]
  | "mc" | "spacingmark" => some [.mc]
  | "me" | "enclosingmark" => some [.me]
  | "nd" | "digit" | "decimalnumber" => some [.nd]
  | "nl" | "letternumber" => some [.nl]
  | "no" | "othernumber" => some [.no]
  | "pc" | "connectorpunctuation" => some [.pc]
  | "pd" | "dashpunctuation" => some [.pd]
  | "ps" | "openpunctuation" => some [.ps]
  | "pe" | "closepunctuation" => some [.pe]
  | "pi" | "initialpunctuation" => some [.pi]
  | "pf" | "finalpunctuation" => some [.pf]
  | "po" | "otherpunctuation" => some [.po]
  | "sm" | "mathsymbol" => some [.sm]
  | "sc" | "currencysymbol" => some [.sc]
  | "sk" | "modifiersymbol" => some [.sk]
  | "so" | "othersymbol" => some [.so]
  | "zs" | "spaceseparator" => some [.zs]
  | "zl" | "lineseparator" => some [.zl]
  | "zp" | "paragraphseparator" => some [.zp]
  | "cc" | "cntrl" | "control" => some [.cc]
  | "cf" | "format" => some [.cf]
  | "co" | "privateuse" => some [.co]
  | "cn" | "unassigned" => some [.cn]
  | _ => none

end Category

end SqlTemplate
