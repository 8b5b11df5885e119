import SqlTemplate.Character.Set

/-!
# Classes of text segmentation

The Unicode properties `Grapheme_Cluster_Break`, `Word_Break` and `Sentence_Break`, which tell
where a text falls into characters as readers see them, words and sentences. Every class but the
remainder has a name.
-/

namespace SqlTemplate.CharSet

/-- Letters in words stay together around these: `Word_Break` is `MidLetter`. -/
def midLetterTable : List String :=
  ["CgaEtaBBqaScaFraJXxaDGBaaCmaHna"]

/-- Letters as well as numbers stay together around these: `Word_Break` is `MidNumLet`. -/
def midNumLetTable : List String :=
  ["BuaMCebjaDGDoaGxafa"]

def singleQuoteTable : List String :=
  ["Bna"]

/-- The syllables of Hangul that end in a vowel: every 28th of all. -/
def openSyllables : CharSet :=
  ofPoints ((List.range 399).map fun n => 0xAC00 + 28 * n)

/-- The syllables of Hangul that end in a consonant. -/
def closedSyllables : CharSet :=
  (range 0xAC00 0xD7A3).diff openSyllables

/-- The tables of `Grapheme_Cluster_Break` apart from whole syllables. -/
def graphemeBreakTables : List (List String × List String) :=
  [(["cr"],
    ["na"]),
   (["control", "cn"],
    ["ajabarDqBgmaCBlaGUqaDApabbxgBwpDGHiaJflTTzpBZQtdHWwhBTKZkBfDrExJfFIl"]),
   (["extend", "ex"],
    ["BDoEhKogKcBsaaababaaCtkBvupaDwgbfbbadBiaBdBaDmkCfiiaxdaiacaeBqcCgiBpxaBfCcaaadhdacgjbBcaCf",
     "aaabdhaiajbzabbCeadbdbbccaBdbcakbCeadeabdatbvfaaCfaabadhagcjbBdaCgaaalaiaBnacaCcaacecadgbk",
     "bBcaCfabbaaccadgbkbBbbCebaabdhaiajbBcaCtadabcaahaDcabglhDtabikgCubBaaaaaaCcnaeabekaBjiaDxd",
     "afabbbybdcpdmabbfaoaBBacBKjdBbcBcbBdbClbaghabkiaBscaaEmbBhaEncdbiafcIkbbaCfaagaaaabhfjbaBv",
     "BeBwdBvjdcBlilbBfdbfCdaabcaaeCdhbbFvcamagdafacbHpClUdaHmBgEObcFkaDrBfVhfEabBSQddajBfbDbbKl",
     "acadaybeaFubzrmaBlhykaaBrcBvabdbbbaBjaCofbbbblahaBuaByaacbbebaaBpbhaJdabadaBDZraBCipppObbX",
     "gaIraFseCMfcabedBncdaGibWadCmeMebDadCrkBwdEsaCboBoabbjcBwdbbgaCicBjeahCjalbBziaahdbaDqcbdf",
     "abaGaachubCebaaaalaiangceCoabfaabaacdcaanbDghbcaawaDcabfaabaababJaabdfbabBabDghbaabEbaaabh",
     "DwaaabdaeJyiabJkajddaFndbbdaBfjBnfbdhaifbcBtmabPpgafaaDdvbgababErfcaabagaaCtbcaaaNibkbBzee",
     "cwaHXsafoQYxlccDRzeCggBOhaCkdDcakbBDAwbGYyBtbwUvecfhhbgBddFrcCYcCcdBxhanaveaoCAhgaqbgabaeD",
     "vaGdgOkaCidTndJtbBChgEegEBfeBSXYtDrExJf"]),
   (["l"],
    ["GLkDrCFOpBc"]),
   (["lf"],
    ["ka"]),
   (["prepend", "pp"],
    ["CHcfIgaBwaOtbDbaBRmaDUGjaoaJjbUeaCBkaaaJnaCufBAxaRaa"]),
   (["regionalindicator", "ri"],
    ["HGOkz"]),
   (["spacingmark", "sm"],
    ["DKtaCcabchdabBxbCgbfbbbCbaCfcCnaCfchaabCabChafbbbEjaabccacBzcCidCibCfabaabBtanbCgbecacCabC",
     "xbfgsbCkaEwaFhbCkaGuaibybBraCSuaghabNhdbcdbafIpbCfaaaufFoaCedClaBdadbCkabcaaCahhbGoauaCASg",
     "bbaDjbBxpFlaBvaBvbdbbbEgbbbxaGaabbeaJcbababaaBLXiaaaEwaBscdbEkaxbCgaBvcianaDoccbGpcBebCgaa",
     "dbbbbubDgboaabDychbcaEcbfaabaabaJdbfdbaEichbaaEeaabEfagaKaciaJneabgaaaFlchddaDfaBcbCjaPqan",
     "aEbagabaIeedbaaNlblaBvbhbYYzcFJfCc"]),
   (["t"],
    ["GRwDjCWXmBw"]),
   (["v"],
    ["GPcCtCWZvwCERbacd"]),
   (["zwj"],
    ["MDpa"])]

def wordBreakTables : List (List String × List String) :=
  [(["aletter", "le"],
    ["CnzfzBuajadaewaBeaSlfBhEheabbdaafaacaaataDeaFihGjaBlbdaaaBoaaDzaBrBqBibaDuaaobgbjcbaobaBdB",
     "cDkkaxBgibdaevdaiacawygkexafqBpCfCbcaragjopdhbbbvagaacdcapambacnbjahfdbbvagabababBedaascpi",
     "acavagabaecaraobwakhbbbvagabaecaBdbacoaqaafccadcbaaabcbccclvaBzhacawapcazcbabbBdadhacawaja",
     "ecaBebabobqiacaBobapaechcxfercxaiaabgMaaCkhaBjBaeKoBlaaeabBqaMuadbgaaadbBoadbBgadbgaaadboa",
     "CeadbCoBkppDhbfcXvbqazeCwckgrmsnrnmacGsDkgebBhaaeCrjBeIqwJdBuqhCbBdmbjBrzBjBocjBjbkeBqbcBo",
     "dafabcaeHjClKrbfbBlbfbhaaaaaaaBebCaagaaccagcdbfdmecagElamapmDwadabjaacefaaaaaadakbdeedaqBo",
     "BFgBzCRtIufdcblBlaaeabCdgapwigagagagagagagagDbaSaaCabHrBqaDpqBfBPTnBSuCoBtbKicpjbtBupBebDb",
     "xHpbbaaahupacadawBcBznBxCjfcaabkBbjwyBcgBuBbaBvBowcahFrkgclfbfbfigagaCffEkBcQNrlwdBwNGtgle",
     "CdDtBgNyrClbCbBnlEleaFeBjzfzCqBecfbfbfbcBilazasabaobnBhEsCqCaKgBccBwBuBfmBdeBljBdbBjdhaeBp",
     "GbrBjdBjdBnhBzlkaoagabakaoagabcBzlLyivjhxfaBpaiCqfbaaBrabcabwjwiBeCmsabjvjzCrCdfbClaodacaB",
     "cBpBccBcBihaBbBaCbjvjsmrEfCuCcBymBymBjBlBbiwJpBpfbpcCgBcjahvBprBtuBawlCaCebbamBsBfyzBjBcab",
     "ahBicalBvnduaaaBiraysbCkgaaadaoajgBuBlhbbbvagabaecaraleBdjaabaaBlaayaaaBrCardtcBdBvtbaaHbB",
     "uBodBjBvtaCgBqmaMoBrElClBehbabhabaxoaaaDphbBmpaaaBbajBngauakBtsarCuHqBgBeiaBkqaBwBdEhgabaB",
     "luayfabaBfnaMosoaamaBhEtaDaBJlDxEgqHnDXjDsoBPfqfyFXqeWkKDcBdCPtVwgBeqDaqBdrBvpdBeuesQpBsIc",
     "ClExCweaCnmClbaaBCVjEcemcigjIWjDgaCsabbabbbdalaaagaCmadbhagaBbadaeaacgaNbbyayaBeayaBeayaBe",
     "ayaBeayahCSxBeffKaCjFpBsjgpaMiBdrBrSpBbItBdbaTagadabaoaHoCgCpgaBUhdaBaabaabaajadaaaafadaaa",
     "aaacabaabaaaaaaaaaabaabdagadadaaajaqecaeaqYdzfzfz"]),
   (["cr"],
    ["na"]),
   (["doublequote", "dq"],
    ["Bia"]),
   (["extend"],
    ["BDoEhKogKcBsaaababaaCtkBvupaDwgbfbbadBiaBdBaDmkCfiiaxdaiacaeBqcCgiBpxaBgCbcaragjbBccCdaagb",
     "bbciajbzabcCdaaedbbccaBdbcakcCdaahacactbvfacCdaagbbbcgcjbBdaCgeccadiaBneCcaagacadgbkbBccCd",
     "aagacadgbkboaldCcbagacadiajbBccCradfaaahrbCiabglhDtabikgCubBaaaaaadbBwtabekaBjiaDvtwddcacb",
     "gcdmlaajdBBacBKjdBbcBcbBdbClBfiaBscaaEmbBhaEnldlIkeCejaBcbaBvBeBweBuqBlilcBdmCdnBvtFvcauda",
     "fabcHpClUdaHmBgEObcFkaDrBfVhfEabBSQddajBfbDbbKlacadawedaDebBxrzrmaBlhymBrdBunBjaConlahbBsc",
     "BxaacbbebaaBoeebJbhabBDZraBCipppObbXgaIraFseCMfcabedBncdaGibWadCmeMebDadCrkBwdErcCaoBoabbj",
     "dBskgaCicBjnpbBralcBvnhdabDnlfabaGaludCcbagbbbciajbbgceCoiaabaadaeaanbDdrwaDctJagbiBabDdqE",
     "bmDwoJvoJkfabbdaaabFkgbgcaBbjBngadhaikBtpPohahDdvanErfcaabagaaCneabaeNidibaaBvgcewaHXsafoQ",
     "YxrDRzeCggBOhaaCcgdDcakbBDAwbGYyBtbwUvecfhhbgBddFrcCYcCcdBxhanaveaoCAhgaqbgabaeDvaGdgOkaCi",
     "dTndJtbBChgEegEBfeBSXYtDrExJf"]),
   (["extendnumlet", "ex"],
    ["DraMBeaobsaDGAnbxcJea"]),
   (["format", "fo"],
    ["GraCBlaGUqaDAsbzeBweajDGHiaJocTTzpBZQtdHWwhBTKZla"]),
   (["hebrewletter", "hl"],
    ["CFgBaddDOVxaajamaeaaababaj"]),
   (["katakana", "ka"],
    ["SGneDwbcDmadJfpHzBuaDjCZHdCdCOUbdagabaaLacBxand"]),
   (["lf"],
    ["ka"]),
   (["midletter", "ml"],
    midLetterTable),
   (["midnum", "mn"],
    ["BsanaBGbaUbaEzbDpaPeaJFeaDGCgacaHaana"]),
   (["midnumlet", "mb"],
    midNumLetTable),
   (["newline", "nl"],
    ["lbEpaLZlb"]),
   (["numeric", "nu"],
    ["BwjCEvfDljaaEiarjHpjHpbDbaFajEnjEnjEnjEnjEnjEnjEnjEnjEnjDrjEnjCrjKrjCrjCTpjBljLnjExkGijfjG",
     "zjDhjFdjfjCAEnjBAbjBljHpjvjDhjPpjBFMbjCCjjDFxjfjBEpjCyaoaBhjChjFnjKrjNdjEnjOjjDxjftCxjQfjD",
     "xjZljDhjJljCrjQfjYYfjDMbjDhjFdjUnjBKDxjECpBxDNbjQfjThjJmjBGujHAzj"]),
   (["regionalindicator", "ri"],
    ["HGOkz"]),
   (["singlequote", "sq"],
    singleQuoteTable),
   (["wsegspace"],
    ["BgaIMgaDPmgacDfaFXva"]),
   (["zwj"],
    ["MDpa"])]

def sentenceBreakTables : List (List String × List String) :=
  [(["aterm", "at"],
    ["BuaMCqaDGDoaHea"]),
   (["cr"],
    ["na"]),
   (["close", "cl"],
    ["BiadcBwaaaBcaaaBsaoaFMrdCUmbDPihybjbCbbnbYidBcbBPffgnDabBejPmvCkdBfbBNlnnbbjxarhQkjbhacCZR",
     "pbIgbBbpbbpfGmbBwaaaBcaaaababDPOrc"]),
   (["extend", "ex"],
    ["BDoEhKogKcBsaaababaaCtkBvupaDwgbfbbadBiaBdBaDmkCfiiaxdaiacaeBqcCgiBpxaBgCbcaragjbBccCdaagb",
     "bbciajbzabcCdaaedbbccaBdbcakcCdaahacactbvfacCdaagbbbcgcjbBdaCgeccadiaBneCcaagacadgbkbBccCd",
     "aagacadgbkboaldCcbagacadiajbBccCradfaaahrbCiabglhDtabikgCubBaaaaaadbBwtabekaBjiaDvtwddcacb",
     "gcdmlaajdBBacBKjdBbcBcbBdbClBfiaBscaaEmbBhaEnldlIkeCejaBcbaBvBeBweBuqBlilcBdmCdnBvtFvcauda",
     "fabcHpClUdbHlBgEObcFkaDrBfVhfEabBSQddajBfbDbbKlacadawedaDebBxrzrmaBlhymBrdBunBjaConlahbBsc",
     "BxaacbbebaaBoeebJbhabBDZraBCipppObbXgaIraFseCMfcabedBncdaGibWadCmeMebDadCrkBwdErcCaoBoabbj",
     "dBskgaCicBjnpbBralcBvnhdabDnlfabaGaludCcbagbbbciajbbgceCoiaabaadaeaanbDdrwaDctJagbiBabDdqE",
     "bmDwoJvoJkfabbdaaabFkgbgcaBbjBngadhaikBtpPohahDdvanErfcaabagaaCneabaeNidibaaBvgcewaHXsafoQ",
     "YxrDRzeCggBOhaaCcgdDcakbBDAwbGYyBtbwUvecfhhbgBddFrcCYcCcdBxhanaveaoCAhgaqbgabaeDvaGdgOkaCi",
     "dTndJtbBChgEegBTCAeDrExJf"]),
   (["format", "fo"],
    ["GraCBlaJhaGLhaDApabbzeBweajDGHiaJocTTzpBZQtdHWwhBTKZla"]),
   (["lf"],
    ["ka"]),
   (["lower", "lo"],
    ["DtzBuajadaBjxahaaaaaaaaaaaaaaaaaaaaaaaaaaaaaaaaaaaaaaaaaaaaaaaaaaaaaaabaaaaaaaaaaaaaaabaaa",
     "aaaaaaaaaaaaaaaaaaaaaaaaaaaaaaaaaaaaaaaaaaabaaaacbaaabacbdabaccbabaaaaabaabaabacaaabbbcfab",
     "abaaaaaaaaaaaaaaaabaaaaaaaaaaaaaaaaabbaaacaaaaaaaaaaaaaaaaaaaaaaaaaaaaaaaaaaaaaaaaaaaaaaaa",
     "aaaaaaaaaagbabbaadaaaaaaaaCqaBjgbBdeFjaaacabdraBaBiabccaaaaaaaaaaaaaaaaaaaaaaaeaababbByBva",
     "aaaaaaaaaaaaaaaaaaaaaaaaaaaaaaaaaiaaaaaaaaaaaaaaaaaaaaaaaaaaaaaaaaaaaaaaaaaaaaaaaaaaaaabaa",
     "aaaaaaaaaabaaaaaaaaaaaaaaaaaaaaaaaaaaaaaaaaaaaaaaaaaaaaaaaaaaaaaaaaaaaaaaaaaaaaaaaaaaaaaaa",
     "aaaaaaaaaaaaaaaaaBvBoEIsaBDifDFtiaaEmHjCmaaaaaaaaaaaaaaaaaaaaaaaaaaaaaaaaaaaaaaaaaaaaaaaaa",
     "aaaaaaaaaaaaaaaaaaaaaaaaaaaaaaaaaaaaaaaaaaaaaaaaaaaaaaaaaaaaaaaaaaaaaaaaaaaaaaaaaaaaaaaaaa",
     "aaaaaaaaaiaaaaaaaaaaaaaaaaaaaaaaaaaaaaaaaaaaaaaaaaaaaaaaaaaaaaaaaaaaaaaaaaaaaaaaaaaaaaaaaa",
     "aaaaaaaaaaaaaaaaaihfjhhhhfjhhhhnbhhhhhheabfaccabhdbbhhjcabEqamapmEeacbcaBaadadabbhddaBgpda",
     "BGkzCTpBvaacbaaaaaadaabahcaaaaaaaaaaaaaaaaaaaaaaaaaaaaaaaaaaaaaaaaaaaaaaaaaaaaaaaaaaaaaaaa",
     "aaaaaaaaaaaaaaaaaaaaaaaaaaaaaaaaaabgaaadalBlaaeaBTWcaaaaaaaaaaaaaaaaaaaaaaaaaaaaaaaaaaaaaa",
     "aaaaaaasaaaaaaaaaaaaaaaaaaaaaaaaaacFcaaaaaaaaaaaacaaaaaaaaaaaaaaaaaaaaaaaaaaaaaaaaaaaaaaaa",
     "aaaaaaaaaaaaaaaaaaaaajaaaabaaaaaaaaadaaabaacaaaaaaaaaaaaaaaaaaaaeaeaaaaaaaaaaaaaaadaaabaca",
     "aaaaaaaaaavcaaacBFoBqanfDbBEAhgleBOyzBVgBnFfBjFykaoagabRiabcaBpaiBXkByEuvEGnBfBGJvBfBMMjzz",
     "garzzzdaaagakzzzzzzzzzzzzzzzzzBbBbyafzyafzyafzyafzyafaaCSxjatffKaCjDHrBh"]),
   (["numeric", "nu"],
    ["BwjCEvfDljabEharjHpjHpbDbaFajEnjEnjEnjEnjEnjEnjEnjEnjEnjDrjEnjCrjKrjCrjCTpjBljLnjExkGijfjG",
     "zjDhjFdjfjCAEnjBAbjBljHpjvjDhjPpjBFMbjCCjjDFxjfjBEpjCyaoaBhjChjFnjKrjNdjEnjOjjDxjftCxjQfjD",
     "xjZljDhjJljCrjQfjYYfjDMbjDhjFdjUnjBKDxjECpBxDNbjQfjThjJmjBGujHAzj"]),
   (["oletter", "le"],
    ["RbaddHzaBjgflzaaaFcaSpaEnBadeBrBqBibaDuaaobgbjcbapaaBdBcDkkaxBgibdaevdaiacawygkexafqBpCfCb",
     "caragjopdhbbbvagaacdcapambacnbjahfdbbvagabababBedaascpiacavagabaecaraobwakhbbbvagabaecaBdb",
     "acoaqaafccadcbaaabcbccclvaBzhacawapcazcbabbBdadhacawajaecaBebabobqiacaBobapaechcxfercxaiaa",
     "bgCfBvablgCfbaaaeaxaaajabiabeaaudBfaCkhaBjBaeEkBqtapfddcacbgcdmlaCmBqbMtadbgaaadbBoadbBgad",
     "bgaaadboaCeadbCoBkpEiXvbqazeCwckgrmsnrnmacoBzBiadaCoDkgebBhaaeCrjBeBwBdbekBrdzCbwiCaDdaDoB",
     "uqhCbBdmbjBrzBjBocjBjrBqbcBodafabcaBPpdCscbdEKsCdgapwigagagagagagagagDbaSacyigebedDhfcaDla",
     "deBqaDpqBfBvpTrJTnClBGUeCoBtbKicpjbCnapaBfDbBmiDzafaDyacgacadawBcBznBxCjfcaabkBbjwyBcgBuBb",
     "apeajjeaBowcahtwcacBxaacbbebaaaxcbkgclfbfbfigagFoBiBcQNrlwdBwMNbObbEbCoaajamaeaaababaEdBgN",
     "yrClbCbBnlEleaFeEaCdbBecfbfbfbcBilazasabaobnBhEsCqCaKgBccBwBuBfmBdeBljBdbBjdhaeErCzDtBnhBz",
     "DnBzlLyivjhybEufbaaBrabcabwjwiBeCmsabjvjzCrCdfbClaodacaBcBpBccBcBihaBbBaCbjvjsmrEfCuHaBjBl",
     "fBeaKlBpfbpcCgBcjahvBprBtuBawlCaCebbamBsBfyzBjBcabahBicalBvnduaaaBiraysbCkgaaadaoajgBuBlhb",
     "bbvagabaecaraleBdjaabaaBlaayaaaBrCardtcBdBvtbaaHbBuBodBjBvtaCgBqmaCsBaBkgHcBrIchbabhabaxoa",
     "aaDphbBmpaaaBbajBngauakBtsarCuHqBgBeiaBkqaBwBdEhgabaBluayfabaBfnaMosoaamaBhEtaDaBJlDxEgqHn",
     "DXjDsoBPfqfyFXqeWkKDcBdCPtVwgBeqDaqBdrBvpdBeuesQpBsPmCweaCnmClbaaBbJBzhBVpBojNFqdagabaLeoa",
     "BccbandhPfDKtEcemcigjNBbaTgBsjgpaMiBdrBrSpBbItBdbaTagadabaoaHoFdaBUhdaBaabaabaajadaaaafada",
     "aaaaacabaabaaaaaaaaaabaabdagadadaaajaqecaeaqGNzCLFbBfGDtfInbINpnLBkoXxDQvUvCFxHHyeGFf"]),
   (["scontinue", "sc"],
    ["BsblbBGbaSjaGrbSvaGBwaeaDBdbGAtaDAAvbabBbbBcbbbbajaGlblbCta"]),
   (["sterm", "st"],
    ["BhaBcaCAaaFqcGxaBqcJlaCiaaacbLgbCPvbBEjadbBDsaHpbGabBsaeaMbbNpdGfbjbbbBccHebCmbBKtbicEUwcL",
     "tamavbQmaBSHvaKjbIsacaOrbDhbDqaFvbFqcFnbJoaBFCvabbCkbGmaBcaCmaEDvbBXceBrdHgbEmdEwcEybfapbD",
     "jbabEdaLlbEmbOibeoEabJocTwaaaJqbDibQdbBApbCvbBCMabFcaCmbkaVgbLjaBDOfaLIla"]),
   (["sep", "se"],
    ["FdaLZlb"]),
   (["sp"],
    ["jaabsaEwaIHiaDPmkBjaBuaFXva"]),
   (["upper", "up"],
    ["CnzDwwagBgaaaaaaaaaaaaaaaaaaaaaaaaaaaaaaaaaaaaaaaaaaaaaaaaaaaaaaabaaaaaaaaaaaaaaabaaaaaaaa",
     "aaaaaaaaaaaaaaaaaaaaaaaaaaaaaaaaaaaaaabaaaacbaaabacbdabaccbabaaaaabaabaabacaaabcagbababaaa",
     "aaaaaaaaaaaaabaaaaaaaaaaaaaaaaabbaaacaaaaaaaaaaaaaaaaaaaaaaaaaaaaaaaaaaaaaaaaaaaaaaaaaaaaa",
     "aaaaagbabbaadaaaaaaaaLcaaacahafaacaaabaqaiBiabccaaaaaaaaaaaaaaaaaaaaaaaeabaabbByBvaaaaaaaa",
     "aaaaaaaaaaaaaaaaaaaaaaaaaiaaaaaaaaaaaaaaaaaaaaaaaaaaaaaaaaaaaaaaaaaaaaaaaaaaaaaabaaaaaaaaa",
     "aaabaaaaaaaaaaaaaaaaaaaaaaaaaaaaaaaaaaaaaaaaaaaaaaaaaaaaaaaaaaaaaaaaaaaaaaaaaaaaaaaaaaaaaa",
     "aaaaaaaaabBlEHcBlaaeaBBtDhDGkaOjaaaaaaaaaaaaaaaaaaaaaaaaaaaaaaaaaaaaaaaaaaaaaaaaaaaaaaaaaa",
     "aaaaaaaaaaaaaaaaaaaaaaaaaaaaaaaaaaaaaaaaaaaaaaaaaaaaaaaaaaaaaaaaaaaaaaaaaaaaaaaaaaaaaaaaaa",
     "aiaaaaaaaaaaaaaaaaaaaaaaaaaaaaaaaaaaaaaaaaaaaaaaaaaaaaaaaaaaaaaaaaaaaaaaaaaaaaaaaaaaaaaaaa",
     "aaaaaaaaaihhfjhhhhfkaaaaaaahhxhhhhhhekekdlekeKaadaccbcbacefaaaaaadbdjbeazpsaBFlzCStBvBvaac",
     "baaaaaadaabahcaaaaaaaaaaaaaaaaaaaaaaaaaaaaaaaaaaaaaaaaaaaaaaaaaaaaaaaaaaaaaaaaaaaaaaaaaaaa",
     "aaaaaaaaaaaaaaaaaaaaaahaaadaBTYiaaaaaaaaaaaaaaaaaaaaaaaaaaaaaaaaaaaaaaaaaaaaasaaaaaaaaaaaa",
     "aaaaaaaaaaaaaaaFeaaaaaaaaaaaaacaaaaaaaaaaaaaaaaaaaaaaaaaaaaaaaaaaaaaaaaaaaaaaaaaaaaaaaaaaa",
     "aajaaaabaaaaaaaadaaabaaacaaaaaaaaaaaaaaaaaaaaeaeaaaaaaaaaaaaaaadaaabcaeaaaaaaaxaBHAgzBUyBn",
     "FfBjFzkaoagabCQbByGavEGnBfBGJvBfBMMpzzzzzzaabbabbbdahzzzbadbhagBabadaeaacgBazzzzzzzzzzzBdy",
     "BgyBgyBgyBgyBgaGNkBhDBhzfzfz"])]

def ofTables? (tables : List (List String × List String)) (name : String) : Option CharSet :=
  (tables.find? (·.1.contains name)).map fun (_, table) => ofTable table

def graphemeBreak? (name : String) : Option CharSet :=
  match name with
  | "lv" => some openSyllables
  | "lvt" => some closedSyllables
  | name => ofTables? graphemeBreakTables name

def wordBreak? (name : String) : Option CharSet :=
  ofTables? wordBreakTables name

def sentenceBreak? (name : String) : Option CharSet :=
  ofTables? sentenceBreakTables name

end SqlTemplate.CharSet
