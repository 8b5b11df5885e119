import SqlTemplate.Character.Break
import SqlTemplate.Character.Category

/-!
# Binary properties of characters

The Unicode properties that a character has or lacks. Those that the standard derives from others
are derived here in the same way; a table holds each of the rest.
-/

namespace SqlTemplate.CharSet

/-! ## Tables that others build on -/

def otherLowercase : CharSet := .ofTable
  ["GoaoaTgigbBdeDraBzaFCyaEPyCkmaBhBkBAmamapmIcpBGpzCWnbBUGjbIbaEyccbBHhdiaBIWrabcaBpaiDDZgCj"]

def otherUppercase : CharSet := .ofTable
  ["MQqpBGfzGSIxzfzfz"]

/-- The marks and symbols that are parts of words as letters are. -/
def otherAlphabetic : CharSet := .ofTable
  ["BGfaBcmWdnaaababaaCtkBvmagpaDwgddbbdaBiaBdpDxkDwbciacadEbaChlcgftCbbboabecjbBccCfgbbbbjajbBc",
   "cCfedbbbdaBdbcakcCfhacabubvcdcCfgbbbbibjbBdaCgeccacjaBneCegacachbkbBccCfgacachbkboaldCfgacac",
   "jajbBccCwfaaahrbCiabgraDuabfabpaGgsikaBjEflaabdwddcacbgcdmlaajdCLnbBdbBdbBdbCnsHfbBhaEnldiIn",
   "eCejbtCvbkcBweBvoChcBdibbCekBxsPvBhCOmBzDKfBfBTPzhBhbNpahaweDjbBxpaaCeaBleBblBsdBvlBkaConlah",
   "bBscBxaacbbeaBreeaJchBDZuaDEceCMfcabedBEhdCmaMibDaaJycCanBsbkcBsiiaCicBjlrbCecBvmnbDnibafaba",
   "GajwdCfgbbbbjajbDfiaabaadabDymacEbrJcgbgBcbDdoaaEbkDynJwmJmfabbbcaaaFlgbfdaBbjBpeadrkBtnPqha",
   "gDevanErfcaabacaacaCneabadNjdibaaBvgccYYmqFJbaaCcgdDobBDAxaNKigaqbgabaeDvaDHuaCZvzfzfz"]

def otherMath : CharSet := .ofTable
  ["DqaBHwcbazbbbKQxaBackaBfdxbnbCmmdacbderadabjaacefacbbbacafcdeeCwebdababaaaebbdbdrbbaaagaafbL",
   "ddGlbaaxaqaRcblieeebbbcenaaabfxbCeaaaBcdibNdbBejPmvCkdBfbDCLeaaadaIcaaaDCOuDgaCsabbabbbdalaa",
   "agaCmadbhagaBbadaeaacgaNbbyayaBeayaBeayaBeayaBeayahbBxIIpdaBaabaabaajadaaaafadaaaaaacabaabaa",
   "aaaaaaaabaabdagadadaaajaqecaeaq"]

/-- The characters of other categories that join the one before them. -/
def otherGraphemeExtend : CharSet := .ofTable
  ["DRyaxaNtaxaDxaxaIxaaadbabibDyaxaEoaoaDMqaBdaBNjaeaaaebDwaCsbBOhaGCubBTWsaEdaBGNkbGWlaElaKdan",
   "aiaDraiabaaceaIpalaJgaKbaYialaCHeaBEOjbBKXmbffBTLAyDr"]

def otherIdStart : CharSet := .ofTable
  ["JHlbDGiauaFVvb"]

def otherIdContinue : CharSet := .ofTable
  ["HbaBBqaGAiiCLbaCIybGKqaDAEia"]

def patternSyntax : CharSet := .ofTable
  ["BhojgzdaazdBhgaaabaaabdadacawaBeaLUdxhobsajLsBBrGdYfBdBRnTrExOucdyoaCZQybKab"]

def patternBlank : CharSet := .ofTable
  ["jeraDvaLYlbxb"]

def lowercasable : CharSet := .ofTable
  ["CnzDwwagBgaaaaaaaaaaaaaaaaaaaaaaaaaaaaaaaaaaaaaaaaaaaaaaaaaaaaaaabaaaaaaaaaaaaaaabaaaaaaaaaa",
   "aaaaaaaaaaaaaaaaaaaaaaaaaaaaaaaaaaaabaaaacbaaabacbdabaccbabaaaaabaabaabacaaabcagbababaaaaaaa",
   "aaaaaaaaabaaaaaaaaaaaaaaaaabbaaacaaaaaaaaaaaaaaaaaaaaaaaaaaaaaaaaaaaaaaaaaaaaaaaaaaaaaaaaaag",
   "babbaadaaaaaaaaLcaaacahafaacaaabaqaiBiahaaaaaaaaaaaaaaaaaaaaaaaeabaabbByBvaaaaaaaaaaaaaaaaaa",
   "aaaaaaaaaaaaaaaiaaaaaaaaaaaaaaaaaaaaaaaaaaaaaaaaaaaaaaaaaaaaaaaaaaaaaabaaaaaaaaaaaabaaaaaaaa",
   "aaaaaaaaaaaaaaaaaaaaaaaaaaaaaaaaaaaaaaaaaaaaaaaaaaaaaaaaaaaaaaaaaaaaaaaaaaaaaaaaaaaaaaabBlEH",
   "cBlaaeaBBtDhDGkafBqbcMhaaaaaaaaaaaaaaaaaaaaaaaaaaaaaaaaaaaaaaaaaaaaaaaaaaaaaaaaaaaaaaaaaaaaa",
   "aaaaaaaaaaaaaaaaaaaaaaaaaaaaaaaaaaaaaaaaaaaaaaaaaaaaaaaaaaaaaaaaaaaaaaaaaaaaaaaaiaaaaaaaaaaa",
   "aaaaaaaaaaaaaaaaaaaaaaaaaaaaaaaaaaaaaaaaaaaaaaaaaaaaaaaaaaaaaaaaaaaaaaaaaaaaaaaaaaaaaaihhfjh",
   "hhhfkaaaaaaahhxhhhhhhekekdlekeLkacbfaBspsaBFlzCStBvBvaacbaaaaaadaabahcaaaaaaaaaaaaaaaaaaaaaa",
   "aaaaaaaaaaaaaaaaaaaaaaaaaaaaaaaaaaaaaaaaaaaaaaaaaaaaaaaaaaaaaaaaaaaaaaaaaaaahaaadaBTYiaaaaaa",
   "aaaaaaaaaaaaaaaaaaaaaaaaaaaaaaaaaaaaaaasaaaaaaaaaaaaaaaaaaaaaaaaaaaFeaaaaaaaaaaaaacaaaaaaaaa",
   "aaaaaaaaaaaaaaaaaaaaaaaaaaaaaaaaaaaaaaaaaaaaaaaaaaaajaaaabaaaaaaaadaaabaaacaaaaaaaaaaaaaaaaa",
   "aaaeaeaaaaaaaaaaaaaaadaaabcaeaaaaaaaxaBHAgzBUyBnFfBjFzkaoagabCQbByGavEGnBfBGJvBfBULjBh"]

def uppercasable : CharSet := .ofTable
  ["DtzCfaBoxahaaaaaaaaaaaaaaaaaaaaaaaaaaaaaaaaaaaaaaaaaaaaaaaaaaaaaaaabaaaaaaaaaaaaaabaaaaaaaaa",
   "aaaaaaaaaaaaaaaaaaaaaaaaaaaaaaaaaaaaabaaaacbaaabacaeabaccbabaaaaabadabacaaabacaaaebababaaaaa",
   "aaaaaaaaaabaaaaaaaaaaaaaaaaababaacaaaaaaaaaaaaaaaaaaaaaaaaaaaaaaaaaaaaaaacaaaaaaaaaaaaaaaaah",
   "abbaadaaaaaaaafabaaabcbadaebaabbagabaabcfeajbGjaBqaaacaccraBaBiabccaaaaaaaaaaaaaaaaaaaaaaaea",
   "ababaBzBvaaaaaaaaaaaaaaaaaaaaaaaaaaaaaaaaaaiaaaaaaaaaaaaaaaaaaaaaaaaaaaaaaaaaaaaaaaaaaaaaaaa",
   "aaaaabaaaaaaaaaaaabaaaaaaaaaaaaaaaaaaaaaaaaaaaaaaaaaaaaaaaaaaaaaaaaaaaaaaaaaaaaaaaaaaaaaaaaa",
   "aaaaaaaaaaaaaaaaaaaaaaaBwBmEHbBqbcBDffDFtiaaJdacapaEjaaaaaaaaaaaaaaaaaaaaaaaaaaaaaaaaaaaaaaa",
   "aaaaaaaaaaaaaaaaaaaaaaaaaaaaaaaaaaaaaaaaaaaaaaaaaaaaaaaaaaaaaaaaaaaaaaaaaaaaaaaaaaaaaaaaaaaa",
   "aaaaaaaaaaaaaaaaageaaaaaaaaaaaaaaaaaaaaaaaaaaaaaaaaaaaaaaaaaaaaaaaaaaaaaaaaaaaaaaaaaaaaaaaaa",
   "aaaaaaaaaaaaaaaaaaaaaihfjhhhhfjhhhhnbCaabdaaaccabdacdbbhhjcabdaMyaBgpdaBGkzCTpBvaacbaaaaaafa",
   "bajaaaaaaaaaaaaaaaaaaaaaaaaaaaaaaaaaaaaaaaaaaaaaaaaaaaaaaaaaaaaaaaaaaaaaaaaaaaaaaaaaaaaaaaaa",
   "aaaaaaaaaahaaadalBlaaeaBTWcaaaaaaaaaaaaaaaaaaaaaaaaaaaaaaaaaaaaaaaaaaaaasaaaaaaaaaaaaaaaaaaa",
   "aaaaaaaaFeaaaaaaaaaaaaacaaaaaaaaaaaaaaaaaaaaaaaaaaaaaaaaaaaaaaaaaaaaaaaaaaaaaaaaaaaaajaaabaa",
   "aaaaaaadadaabbaaaaaaaaaaaaaaaaaaakaaaaaaaaaaaaaaadaaabacaeaaaaazaBHbaBbDbBEAhgleBOyzBVgBnFfB",
   "jFykaoagabCRaByEuvEGnBfBGJvBfBULlBh"]

def titlecasable : CharSet := .ofTable
  ["DtzCfaBoxahaaaaaaaaaaaaaaaaaaaaaaaaaaaaaaaaaaaaaaaaaaaaaaaaaaaaaaaabaaaaaaaaaaaaaabaaaaaaaaa",
   "aaaaaaaaaaaaaaaaaaaaaaaaaaaaaaaaaaaaabaaaacbaaabacaeabaccbabaaaaabadabacaaabacaaadaababaaaaa",
   "aaaaaaaaaaaabaaaaaaaaaaaaaaaaacaaaacaaaaaaaaaaaaaaaaaaaaaaaaaaaaaaaaaaaaaaacaaaaaaaaaaaaaaaa",
   "ahabbaadaaaaaaaafabaaabcbadaebaabbagabaabcfeajbGjaBqaaacaccraBaBiabccaaaaaaaaaaaaaaaaaaaaaaa",
   "eaababaBzBvaaaaaaaaaaaaaaaaaaaaaaaaaaaaaaaaaaiaaaaaaaaaaaaaaaaaaaaaaaaaaaaaaaaaaaaaaaaaaaaaa",
   "aaaaaaabaaaaaaaaaaaabaaaaaaaaaaaaaaaaaaaaaaaaaaaaaaaaaaaaaaaaaaaaaaaaaaaaaaaaaaaaaaaaaaaaaaa",
   "aaaaaaaaaaaaaaaaaaaaaaaaaBwBmFMdfDFtiaaJdacapaEjaaaaaaaaaaaaaaaaaaaaaaaaaaaaaaaaaaaaaaaaaaaa",
   "aaaaaaaaaaaaaaaaaaaaaaaaaaaaaaaaaaaaaaaaaaaaaaaaaaaaaaaaaaaaaaaaaaaaaaaaaaaaaaaaaaaaaaaaaaaa",
   "aaaaaaaaaaaageaaaaaaaaaaaaaaaaaaaaaaaaaaaaaaaaaaaaaaaaaaaaaaaaaaaaaaaaaaaaaaaaaaaaaaaaaaaaaa",
   "aaaaaaaaaaaaaaaaihfjhhhhfjhhhhnbhhhhhheabfaccabhdbbhhjcabNdaBgpdaBGkzCTpBvaacbaaaaaafabajaaa",
   "aaaaaaaaaaaaaaaaaaaaaaaaaaaaaaaaaaaaaaaaaaaaaaaaaaaaaaaaaaaaaaaaaaaaaaaaaaaaaaaaaaaaaaaaaaaa",
   "aaaahaaadalBlaaeaBTWcaaaaaaaaaaaaaaaaaaaaaaaaaaaaaaaaaaaaaaaaaaaaasaaaaaaaaaaaaaaaaaaaaaaaaa",
   "aaFeaaaaaaaaaaaaacaaaaaaaaaaaaaaaaaaaaaaaaaaaaaaaaaaaaaaaaaaaaaaaaaaaaaaaaaaaaajaaabaaaaaaaa",
   "adadaabbaaaaaaaaaaaaaaaaaaakaaaaaaaaaaaaaaadaaabacaeaaaaazaBHbaBbDbBEAhgleBOyzBVgBnFfBjFykao",
   "agabCRaByEuvEGnBfBGJvBfBULlBh"]

def otherIgnorable : CharSet := .ofTable
  ["BGpaFIkbCKgbDHmaGLhaDACoaDaiBWMIgaaBdDrExJfFIl"]

def variationSelector : CharSet := .ofTable
  ["JCtcaaDJBzpBWNKxJf"]

/-- The marks in front of the digits that they span. -/
def prependedMark : CharSet := .ofTable
  ["CHcfIgaBwaOtbDbaDVXxaoa"]

def blank : CharSet := .ofTable
  ["jeraDvazaIHiaDPmkBcbeaBuaFXva"]

def joinControl : CharSet := .ofTable
  ["MDob"]

/-! ## Derived properties -/

def lowercase : CharSet := (Category.union [.ll]).union otherLowercase

def uppercase : CharSet := (Category.union [.lu]).union otherUppercase

/-- `Cased`: the characters that are in lower, upper or title case. -/
def cased : CharSet := unions [lowercase, uppercase, Category.union [.lt]]

def alphabetic : CharSet :=
  unions [lowercase, uppercase, Category.union [.lt, .lm, .lo, .nl], otherAlphabetic]

def math : CharSet := (Category.union [.sm]).union otherMath

/-- `Case_Ignorable`: marks, modifiers and what stands in the middle of words. -/
def caseIgnorable : CharSet :=
  unions [Category.union [.mn, .me, .cf, .lm, .sk],
    .ofTable midLetterTable, .ofTable midNumLetTable, .ofTable singleQuoteTable]

def casemappable : CharSet := unions [lowercasable, uppercasable, titlecasable]

def graphemeExtend : CharSet := (Category.union [.me, .mn]).union otherGraphemeExtend

def graphemeBase : CharSet :=
  complement ((Category.union [.cc, .cf, .co, .cn, .zl, .zp]).union graphemeExtend)

/-- Patterns do not use identifiers' characters as syntax. -/
def withoutSyntax (s : CharSet) : CharSet := (s.diff patternSyntax).diff patternBlank

def idStart : CharSet :=
  withoutSyntax (unions [Category.union Category.letters, Category.union [.nl], otherIdStart])

def idContinue : CharSet :=
  withoutSyntax (unions [idStart, Category.union [.mn, .mc, .nd, .pc], otherIdContinue])

/-- The characters of identifiers that turn into others under compatibility normalization. -/
def unstable : CharSet := .ofTable
  ["BIgaRChbCZEefPpbElaaaaaaaaaaaaaaa"]

def xidContinue : CharSet := idContinue.diff unstable

def xidStart : CharSet := (idStart.diff unstable).diff (ofPoints [0xE33, 0xEB3, 0xFF9E, 0xFF9F])

def ignorable : CharSet :=
  let kept := unions [blank, range 0xFFF9 0xFFFB, range 0x13430 0x13440, prependedMark]
  (unions [otherIgnorable, Category.union [.cf], variationSelector]).diff kept

/-! ## Names -/

def propertyTables : List (List String × List String) :=
  [(["asciihexdigit", "ahex"],
    ["Bwjgfzf"]),
   (["bidicontrol", "bidic"],
    ["CIeaJVkbzeCcd"]),
   (["bidimirrored", "bidim"],
    ["BobraaaBbaaaBcaaaBsaoaFMrdCUmbDQpbjbCbbnbGuaHjdcfcacbcdadaaaadieaaredibaaahaBfbdeaibbsebie",
     "bbdxbphdtbgbBPsnCvabdabacedeccnPmvbfanhagfcadeabbedaacbbjfbblsadbaaabaadebfcxbkbddabbbdBqb",
     "haBneaaaceecdaceaaJvaTudcbabnbbjBqhQkjbhDACqfebGfbraaaBbaaaBcaaaababDDPmaCeaCeaCeaCea"]),
   (["changeswhencasefolded", "cwcf"],
    ["CnzDlajwahBfaaaaaaaaaaaaaaaaaaaaaaaaaaaaaaaaaaaaaaaaaaaaaaaaaaaaaaabaaaaaaaaaaaaaaaabaaaaa",
     "aaaaaaaaaaaaaaaaaaaaaaaaaaaaaaaaaaaaaaaabaaaaaaabaaabacbdabaccbabaaaaabaabaabacaaabcagbaba",
     "baaaaaaaaaaaaaaaabaaaaaaaaaaaaaaaaabbaaacaaaaaaaaaaaaaaaaaaaaaaaaaaaaaaaaaaaaaaaaaaaaaaaaa",
     "aaaaaaaaagbabbaadaaaaaaaaJlaBpaaacahafaacaaabaqaivalccbaaaaaaaaaaaaaaaaaaaaaaaaabbbaaabbBy",
     "Bvaaaaaaaaaaaaaaaaaaaaaaaaaaaaaaaaaiaaaaaaaaaaaaaaaaaaaaaaaaaaaaaaaaaaaaaaaaaaaaaaaaaaaaaa",
     "baaaaaaaaaaaabaaaaaaaaaaaaaaaaaaaaaaaaaaaaaaaaaaaaaaaaaaaaaaaaaaaaaaaaaaaaaaaaaaaaaaaaaaaa",
     "aaaaaaaaaaaaaaaaaaabBlBvaEFfBlaaeaBFdfDFtjfBqbcMhaaaaaaaaaaaaaaaaaaaaaaaaaaaaaaaaaaaaaaaaa",
     "aaaaaaaaaaaaaaaaaaaaaaaaaaaaaaaaaaaaaaaaaaaaaaaaaaaaaaaaaaaaaaaaaaaaaaaaaaaaaaaaaaaaaaaaaa",
     "aaaaaaaaaaaaaaaaaaebbaaaaaaaaaaaaaaaaaaaaaaaaaaaaaaaaaaaaaaaaaaaaaaaaaaaaaaaaaaaaaaaaaaaaa",
     "aaaaaaaaaaaaaaaaaaaaaaaaaaaaihhfjhhhhfkaaaaaaahhpBvbcbfecbfkdleecbfLkacbfaBspsaBFlzCStBvBv",
     "aacbaaaaaadaabahcaaaaaaaaaaaaaaaaaaaaaaaaaaaaaaaaaaaaaaaaaaaaaaaaaaaaaaaaaaaaaaaaaaaaaaaaa",
     "aaaaaaaaaaaaaaaaaaaaaaaaahaaadaBTYiaaaaaaaaaaaaaaaaaaaaaaaaaaaaaaaaaaaaaaaaaaaaasaaaaaaaaa",
     "aaaaaaaaaaaaaaaaaaFeaaaaaaaaaaaaacaaaaaaaaaaaaaaaaaaaaaaaaaaaaaaaaaaaaaaaaaaaaaaaaaaaaaaaa",
     "aaaaajaaaabaaaaaaaadaaabaaacaaaaaaaaaaaaaaaaaaaaeaeaaaaaaaaaaaaaaadaaabcaeaaaaaaaxaBIfDbBE",
     "AhgleBNszBUyBnFfBjFzkaoagabCQbByGavEGnBfBGJvBfBULjBh"]),
   (["dash"],
    ["BtaCAtaByaFKiaBNoaDBcfCiaBmaoaOzaEOhabaBebdaBbaRdasaEgaCZVzbBkajaGmaFLnaMfa"]),
   (["deprecated", "dep"],
    ["MraBYuaDKsaaaDCibDIifBAubBZRYja"]),
   (["diacritic", "dia"],
    ["DqaaaCsafadabbTiGcahefqbdaibJseIaaCcqaBaaaabaaFdhdbFdbdbccCoBaDmkCfkBhbEvhBojpBbCiapacdBba",
     "CvapaEfapaEfapaBucChapagaEoaEfapaEfapaEebpaEtaEgalfaaEcameCwbBaaaaaadbCncabCjaEhaabBnbdeyg",
     "aajbBBccBKlbBdaFrkiaNicLfathbaBvobkDzaoaBliCbbCfakbCnbClfDdydafabcBxCkDklBkkRcaackcmcmcmbE",
     "XjcMeaTlfEadDqaBSMjalbaaBbbDdbnBhDxcEeblaBkaFuaBarCedBjaDqalaBjaFscCmdByaDveicExbBDZraBDop",
     "KjaaaBuaBsbCoaBDjaBTmfaBpaiYmcdaGibVyfBlazePicCrkBwdHjaBoaCtbEpbCjaCxaicDzbGvbDbbpaxgceDkc",
     "abmbDqacaEsbJqbEvaEnbEkaKibJxbdaFzaDearaDcaQeaJxaabDcaQibwaHXzoQZoaDRzeCggVrbUzqDbbYGbdaga",
     "bLTgBtbwUxccfhhbgBddFMvCjHlgOkaCidBDlbBChgEecac"]),
   (["emoji"],
    ["BjafaejEgadaLYqalaIhavaDlfobOcblaGjaykdcHqaIwbjaiaCfdaeiababbbadabaabbacacbhceaaaelkbbaaba",
     "arabbrfaaabcbeabbdbkbebbaebaaabtbefadbadababfaabaaaaafacafajboabadaaadcaakbBvciananaOhbRuc",
     "sbByadaBVtalaXcaaaGMRpaHtaGdblbnabjCwzabwatabiubGrBhbEhbbacbDebcaKcaCkkfaxgbbhlabdbadbmbba",
     "hbiaeclchcbaaadafacafDhBvCrehbcdjcaabcabjIsldaKwBuajaHcEhmcjeCdgobkfi"]),
   (["emojicomponent", "ecomp"],
    ["BjafaejMBiaIeaDFTqaDOIvzTmeCDzdBSVUpDr"]),
   (["emojimodifier", "emod"],
    ["HHIxe"]),
   (["emojimodifierbase", "ebase"],
    ["OLhaIkapdGSJuaChcbabcEmbbkuscadcacgaaaxaHsbdauadbGrcceDeapciakaWcabahhfaijbcCdaCibabaaqcam",
     "IucBpi"]),
   (["emojipresentation", "epres"],
    ["NHqbHwdcabaUabubBxlBqasamahbqbebhaeauagbaadabagadbBbaBiaaadcaaCicxanaBHabByadaGPLdaHtaHhab",
     "jCwzaaxatabeacubGrBgliaCravlBqdelqcacCsaaaHebCkmdaxrazbmaDhDgBvCrfaccbcddkbgiIsldaKwBuajaH",
     "cEhmcjeCdgobkfi"]),
   (["extendedpictographic", "extpict"],
    ["GnadaLYqalaIhavaDlfobOcblaDqaCraykdcHqaIwbjaiaCfdafalaEjjEnbkaaaafacafajboabadaaadcaakeBsc",
     "iananaOhbRucsbByadaBVtalaXcaaaGMRlJvmcBeaChflbnabjrCeBaojatabiadiQreMfhKfBvExEllDgBqldCdhj",
     "fBnhBdDdlBuajaQyJvBNh"]),
   (["extender", "ext"],
    ["HbaUpbBHtaQyaYfaFgaDkaBCxaEwaDNeaCdaXmaPhaCpaHKiaBqeDybDocBQBtaCGraBKzavaFgaEdaubBFZuaDBjb",
     "CFaaBaadaBVaaLgaElbTdcBViaBEOebBTjbaaBQXzbBUeaBGtc"]),
   (["graphemelink", "grlink"],
    ["DNpaEwaEwaEwaEwaEwaEwaEwaEebpaEtaEgaEwaHsaGxbCPkbBdaGaaZcaIsaDwbCrbGQsaBUKjaBkaFuaFlaEdaLw",
     "aJlaBJSqaCHhaBoanaCeaEqbFiaElaGxaDtaExcEiaEwaJraEwaEnaElaKiaJybGeaDearaDcaQeaJzbDcaQibYZba"]),
   (["hexdigit", "hex"],
    ["BwjgfzfDSLkjgfzf"]),
   (["hyphen"],
    ["BtaEwaBVvaGZyaDBcbFIaaBCkaCZUkaGmaDia"]),
   (["idsbinaryoperator", "idsb"],
    ["SEabbjTca"]),
   (["idstrinaryoperator", "idst"],
    ["SEcb"]),
   (["idsunaryoperator", "idsu"],
    ["SEob"]),
   (["idcompatmathcontinue"],
    ["GwbeaMAfackaoOgadavaGJJdayaBeayaBeayaBeayaBeaya"]),
   (["idcompatmathstart"],
    ["MWwadavaGJJdayaBeayaBeayaBeayaBeaya"]),
   (["ideographic", "ideo"],
    ["SEwbyincBLcJTnClBFBjBHShObbEbBSIjaBaJBzhBVpBojNUkPfBDEhCLFbBfGDtfInbINpnLBkoXxDQvUvCFxHHye",
     "GFf"]),
   (["logicalorderexception", "loe"],
    ["FKieEseEDrcbaCCXlbbaab"]),
   (["modifiercombiningmark", "mcm"],
    ["CKibbaFaafacbSmbaccaBea"]),
   (["noncharactercodepoint", "nchar"],
    ["DSDcBfUfbDSYnbDSYnbDSYnbDSYnbDSYnbDSYnbDSYnbDSYnbDSYnbDSYnbDSYnbDSYnbDSYnbDSYnbDSYnbDSYn"]),
   (["quotationmark", "qmark"],
    ["BiadaFaaoaLWthybFIcaRodmcDABodHgadaDlb"]),
   (["radical"],
    ["RPwzaDklIf"]),
   (["regionalindicator", "ri"],
    ["HGOkz"]),
   (["sentenceterminal", "sterm"],
    ["BhalapaCAaaFqcGxaBqcJlaCiaaacbLgbCPvbBEjadbBDsaHpbGabBsaeaMbbNpdGfbjbbbBccHebCmbBJvawbicEU",
     "wcLtamavbQmaBSHvaKjbIsacaOrbDhbDqaFvbFqcFnbJoaBFCvabbCgacbGmalapaCmaEDvbBXceBrdHgbEmdEwcEy",
     "bfapbDjbabEdaLlbEmbOibeoEabJocTwaaaJqbDibQdbBApbCvbBCMabFcaCmbkaVgbLjaBDOfaLIla"]),
   (["softdotted", "sd"],
    ["EbbHnaKuaBdaBzataMhaDtaaaJMmaByamacaFbaGaaQeaIfbEGfaGELgbBxbBxbBxbBxbBxbBxbBxbBxbBxbBxbBxb",
     "BxbDFxaLsbza"]),
   (["terminalpunctuation", "term"],
    ["BhajaaakbcaBFxahaTsaCeaCtanaacGxaBqkaaJabCbfahBeaKabBWtbGpadfLybBEihBDsaEtcCsbGaccaBmdbbMb",
     "bNpdGfbjbacBccHeeCjbBJvawbicEUwcLtamadajaabcbQlbBSHubKicIseOrbDhbDqaFucFqcEwapbJoaBFCvabbC",
     "ecadGmajaaakbcaCmabaBPpaBvaBSnaHqaLxbFvfCpfDkdBKpeBrdHggEhdEwcEybfapbDjeEdaLlbEmclbNtdcoEa",
     "bJocTwaaaJqbDibdbPxcBsaYubCvbBYweBAMybFcaCmcjaVgbLibBDOfaLIkd"]),
   (["unifiedideograph", "uideo"],
    ["TSaJTnClBFBjBICrbaaabjaaaabbcDVEbCLFbBfGDtfInbINpnLBkoXxGRpHHyeGFf"])]

/-- The characters that have a property. Names are written without capitals, blanks, underscores
and hyphens. -/
def binary? (name : String) : Option CharSet :=
  match name with
  | "lowercase" | "lower" => some lowercase
  | "uppercase" | "upper" => some uppercase
  | "alphabetic" | "alpha" => some alphabetic
  | "math" => some math
  | "cased" => some cased
  | "caseignorable" | "ci" => some caseIgnorable
  | "graphemeextend" | "grext" => some graphemeExtend
  | "graphemebase" | "grbase" => some graphemeBase
  | "idstart" | "ids" => some idStart
  | "idcontinue" | "idc" => some idContinue
  | "xidstart" | "xids" => some xidStart
  | "xidcontinue" | "xidc" => some xidContinue
  | "changeswhencasemapped" | "cwcm" => some casemappable
  | "defaultignorablecodepoint" | "di" => some ignorable
  | "otherlowercase" | "olower" => some otherLowercase
  | "otheruppercase" | "oupper" => some otherUppercase
  | "otheralphabetic" | "oalpha" => some otherAlphabetic
  | "othermath" | "omath" => some otherMath
  | "othergraphemeextend" | "ogrext" => some otherGraphemeExtend
  | "otheridstart" | "oids" => some otherIdStart
  | "otheridcontinue" | "oidc" => some otherIdContinue
  | "patternsyntax" | "patsyn" => some patternSyntax
  | "patternwhitespace" | "patws" => some patternBlank
  | "changeswhenlowercased" | "cwl" => some lowercasable
  | "changeswhenuppercased" | "cwu" => some uppercasable
  | "changeswhentitlecased" | "cwt" => some titlecasable
  | "otherdefaultignorablecodepoint" | "odi" => some otherIgnorable
  | "variationselector" | "vs" => some variationSelector
  | "prependedconcatenationmark" | "pcm" => some prependedMark
  | "whitespace" | "wspace" | "space" => some blank
  | "joincontrol" | "joinc" => some joinControl
  | name => (propertyTables.find? (·.1.contains name)).map fun (_, table) => ofTable table

end SqlTemplate.CharSet
