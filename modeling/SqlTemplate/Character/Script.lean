import SqlTemplate.Character.Break

/-!
# Scripts

The Unicode property `Script`, and `Script_Extensions`, by which a character that is shared by
several scripts belongs to each of them.
-/

namespace SqlTemplate.CharSet

def scriptTables : List (List String × List String) :=
  [(["adlam", "adlm"],
    ["HDEuCxdjdb"]),
   (["ahom"],
    ["EBRcBabodw"]),
   (["anatolianhieroglyphs", "hluw"],
    ["ESSeWk"]),
   (["arabic", "arab"],
    ["CHceafanacaBfajkzaEdaBhDbBvJfBeabeCwaBcDNTvEkpNybDbbCbgaBfpEheaFeFVmBeCocCcdDGLrdaBaabaaba",
     "ajadaaaafadaaaaaacabaabaaaaaaaaaabaabdagadadaaajaqecaeaqBzb"]),
   (["armenian", "armn"],
    ["BZdBlbBxbcDOZie"]),
   (["avestan", "avst"],
    ["DXCyCbcg"]),
   (["balinese", "bali"],
    ["KFwCyaBx"]),
   (["bamum", "bamu"],
    ["CLCqDjCVCpVw"]),
   (["bassavah", "bass"],
    ["FHKiBdbf"]),
   (["batak", "batk"],
    ["KNgBzhd"]),
   (["bengali", "beng"],
    ["DPodahbbbvagaacdbibbbdhadbaeby"]),
   (["bhaiksuki", "bhks"],
    ["EDOiiaBsanjBc"]),
   (["bopomofo", "bopo"],
    ["BCsbRLwBqEhBf"]),
   (["brahmi", "brah"],
    ["DZAeCzdBjia"]),
   (["braille", "brai"],
    ["PDwJv"]),
   (["buginese", "bugi"],
    ["JWaBbbb"]),
   (["buhid", "buhd"],
    ["IUyt"]),
   (["canadianaboriginal", "cans"],
    ["HOyYpVnCrDTPpp"]),
   (["carian", "cari"],
    ["DTYmBw"]),
   (["caucasianalbanian", "aghb"],
    ["DUXsBzka"]),
   (["chakma", "cakm"],
    ["DZKaCaar"]),
   (["cham"],
    ["CMJwCcinbjbd"]),
   (["cherokee", "cher"],
    ["HLgDhbfCFJdDb"]),
   (["chorasmian", "chrs"],
    ["DYXcBb"]),
   (["common", "zyyy"],
    ["aCmzfzBuaoaewaBeaRgBmeebtElaiafaaaYmafanacaBfaFzaTvaEybBVsaPodLdaCGkcCsbHubaaBVgamagdafacb",
     "aBDslbDiakckaoqBgCkBlacbfaBaaqBocdZpvkuBJrJvYdbBfaEaTrDpPluaaayohddDmbcaDlbFqpBfBliaBvClBe",
     "DcBuaDjGlJTnClBHShBhDxcGijJjaGdaPeanbBEZpbHzjvBiasadFqaaBfzfzkjaBsbClgagjeJxcdBsciDbmByBsI",
     "tBaCSHvdFVfJpfQtFzElChJljBmbCjcqhbgBddCiIetltlDiiyFeDgaCsabbabbbdalaaagaCmadbhagaBbadaeaac",
     "gaNbbLfbBxHTgCpCxCiBBdBrdDvloboaoaBkjGrCdzabmBrdigbnfFxBLvdqcmcEodDqfldaoldCdhjfBnhBdbldbC",
     "jNblnbmcjeCdgobkfigFqaDxBSUXaaBdDr"]),
   (["coptic", "copt", "qaac"],
    ["BMgnPJjEleg"]),
   (["cuneiform", "xsux"],
    ["EFBsBJlDxEgaekHn"]),
   (["cypriot", "cprt"],
    ["DVZkfbaaBrabcaba"]),
   (["cyprominoan", "cpmn"],
    ["EKYyDu"]),
   (["cyrillic", "cyrl"],
    ["BNkFcbGmIVnkGdaCxaGFmBfBTNzDrBHEbbDHPfCjBga"]),
   (["deseret", "dsrt"],
    ["DUMaDb"]),
   (["devanagari", "deva"],
    ["DKqDcdobzCIJfBfBRElj"]),
   (["divesakuru", "diak"],
    ["ECKugbabhabaBdabblij"]),
   (["dogra", "dogr"],
    ["ECAyCh"]),
   (["duployan", "dupl"],
    ["GMDsEcemcigjbd"]),
   (["egyptianhieroglyphs", "egyp"],
    ["ELDgBQrjFXq"]),
   (["elbasan", "elba"],
    ["DUVwBn"]),
   (["elymaic", "elym"],
    ["DYYyw"]),
   (["ethiopic", "ethi"],
    ["GVgCuadbgaaadbBoadbBgadbgaaadboaCeadbCobBfczJUzwigagagagagagagagBVKbfbfbfigagEPYegadabao"]),
   (["garay", "gara"],
    ["DXZcBlcBchb"]),
   (["georgian", "geor"],
    ["GHsBlaaeabBqadEJvBqbcGDzBlaaea"]),
   (["glagolitic", "glag"],
    ["QRgDrGIZfgaqbgabae"]),
   (["gothic", "goth"],
    ["DUEaBa"]),
   (["grantha", "gran"],
    ["EADsdahbbbvagabaebibbbcbafaegbgce"]),
   (["greek", "grek"],
    ["BHwdacbdaadaaaacaaataCknpJNpeBxedeDfaMhvbfbBlbfbhaaaaaaaBebCaaoanbfasbcaiLiaCAJdaBGNhDaqaD",
     "AXqCr"]),
   (["gujarati", "gujr"],
    ["DZlcaiacavagabaebjacacbaodblgg"]),
   (["gunjalagondi", "gong"],
    ["EEBwfabaBkabafgj"]),
   (["gurmukhi", "guru"],
    ["DUncafdbbvagabababbaaedbbccagdaagq"]),
   (["gurungkhema", "gukh"],
    ["FDRsCf"]),
   (["hani", "han"],
    ["RPwzaDklIfBuaaayindBLbJTnClBFBjBHShObbEbBSIhblbCCOjCLFbBfGDtfInbINpnLBkoXxDQvUvCFxHHyeGFf"]),
   (["hangul", "hang"],
    ["GLkJvLLdbJwDpEiBeCmBeBTAmBcYsQNrlwdBwPAhBecfbfbfbc"]),
   (["hanifirohingya", "rohg"],
    ["DXWqBnhj"]),
   (["hanunoo", "hano"],
    ["ITsu"]),
   (["hatran", "hatr"],
    ["DWIasabee"]),
   (["hebrew", "hebr"],
    ["CCvCchBadfDOVvzaeaaababaj"]),
   (["hiragana", "hira"],
    ["SHdDhfcFPEuLaraBccYMua"]),
   (["imperialaramaic", "armi"],
    ["DWBwvai"]),
   (["inherited", "qaai", "zinh"],
    ["BDoEhKqbRjkzaBChdGOwBeTscamagdafacbHpClUdbHlBgFTwdEcbCZUippnBLmaIraGEzaCTCtBtbwUxcqhbgBddB",
     "TLHhJf"]),
   (["inscriptionalpahlavi", "phli"],
    ["DXGqseh"]),
   (["inscriptionalparthian", "prti"],
    ["DXFkvbh"]),
   (["javanese", "java"],
    ["CMEyCzbjdb"]),
   (["kaithi", "kthi"],
    ["DZFcCoja"]),
   (["kannada", "knda"],
    ["ETcmacawajaebiacadgbfbadbjac"]),
   (["katakana", "kana"],
    ["SKvDlbcJfpHzBuaDjCZHdjaBsCOUbdagabaaLacBxand"]),
   (["kawi"],
    ["EERwqaBocBc"]),
   (["kayahli", "kali"],
    ["CMAaBtaa"]),
   (["kharoshthi", "khar"],
    ["DWTcdabehacaBcbcdjgi"]),
   (["khitansmallscript", "kits"],
    ["FJIiaKGwSbBoa"]),
   (["khmer", "khmr"],
    ["IXkDpbjfjSrBf"]),
   (["khojki", "khoj"],
    ["DZTwraBu"]),
   (["khudawadi", "sind"],
    ["EAAqCgej"]),
   (["kiratrai", "krai"],
    ["FIIiCf"]),
   (["laoo", "lao"],
    ["FMvbaaaeaxaaawbeaaagajbd"]),
   (["latin", "latn"],
    ["CnzfzBuaoaewaBeaRgBmeJXaBlfBwedemaCrCmJvOeamapmFkbfaBaaqBoECsBfBULlDxcCobbaaahunBFjBqaiadB",
     "EDpgBOjzfzDCefaBpaiDDNoBeff"]),
   (["lepcha", "lepc"],
    ["KPsCdcocc"]),
   (["limbu", "limb"],
    ["JMeBealdldacl"]),
   (["lineara", "lina"],
    ["DVFsLyivjh"]),
   (["linearb", "linb"],
    ["DSYqlazasabaobnBhEs"]),
   (["lisu"],
    ["CKKuBvBULza"]),
   (["lycian", "lyci"],
    ["DTXgBc"]),
   (["lydian", "lydi"],
    ["DWKmzea"]),
   (["mahajani", "mahj"],
    ["DZNcBm"]),
   (["makasar", "maka"],
    ["EEQqy"]),
   (["malayalam", "mlym"],
    ["EYamacaByacafdpbz"]),
   (["mandaic", "mand"],
    ["DDgBbba"]),
   (["manichaean", "mani"],
    ["DXAmBmdl"]),
   (["marchen", "marc"],
    ["EDSqBfbvan"]),
   (["masaramgondi", "gonm"],
    ["EDYegabaBrcaabaihj"]),
   (["medefaidrin", "medf"],
    ["FISeDm"]),
   (["meeteimayek", "mtei"],
    ["CMSmwHsBtbj"]),
   (["mendekikakui", "mend"],
    ["HCUyHobp"]),
   (["meroiticcursive", "merc"],
    ["DWPkxdtbBt"]),
   (["meroitichieroglyphs", "mero"],
    ["DWOeBf"]),
   (["miao", "plrd"],
    ["FIZoCwdCegq"]),
   (["modi"],
    ["EBHgCqkj"]),
   (["mongolian", "mong"],
    ["JCibbaatfDkgBqDSCam"]),
   (["mroo", "mro"],
    ["FHEuBeajdb"]),
   (["multani", "mult"],
    ["DZYugaaadaoak"]),
   (["myanmar", "mymr"],
    ["GBoGdCGAxBeDsBfBPAlt"]),
   (["nabataean", "nbat"],
    ["DWEiBehi"]),
   (["nagmundari", "nagm"],
    ["HBPoBp"]),
   (["nandinagari", "nand"],
    ["ECQyhbBtbk"]),
   (["newtailue", "talu"],
    ["JRcBrdzfkcb"]),
   (["newa"],
    ["EANoDnae"]),
   (["nkoo", "nko"],
    ["CYiCgbc"]),
   (["nushu", "nshu"],
    ["FJIfaYVlPf"]),
   (["nyiakengpuachuehmong", "hmnp"],
    ["HAEaBscnbjdb"]),
   (["ogham", "ogam"],
    ["INoBc"]),
   (["olchiki", "olck"],
    ["KSuBv"]),
   (["olonal", "onao"],
    ["HBZkBqda"]),
   (["oldhungarian", "hung"],
    ["DXRsBymBygf"]),
   (["olditalic", "ital"],
    ["DUCeBjic"]),
   (["oldnortharabian", "narb"],
    ["DWYaBf"]),
   (["oldpermic", "perm"],
    ["DUFgBq"]),
   (["oldpersian", "xpeo"],
    ["DUIiBjdn"]),
   (["oldsogdian", "sogo"],
    ["DYQiBn"]),
   (["oldsoutharabian", "sarb"],
    ["DWWuBf"]),
   (["oldturkic", "orkh"],
    ["DXMuCu"]),
   (["olduyghur", "ougr"],
    ["DYUqz"]),
   (["oriya", "orya"],
    ["EEjcahbbbvagabaebibbbcgcdbaebr"]),
   (["osage", "osge"],
    ["DUSuBjdBj"]),
   (["osmanya", "osma"],
    ["DUQyBdbj"]),
   (["pahawhhmong", "hmng"],
    ["FHMeCrjjagaues"]),
   (["palmyrene", "palm"],
    ["DWDcBf"]),
   (["paucinhau", "pauc"],
    ["EDCaCe"]),
   (["phagspa", "phag"],
    ["CLSqCd"]),
   (["phoenician", "phnx"],
    ["DWJgBbca"]),
   (["psalterpahlavi", "phlp"],
    ["DXHwrgdlg"]),
   (["rejang", "rjng"],
    ["CMBwBjka"]),
   (["runic", "runr"],
    ["IOuCwck"]),
   (["samaritan", "samr"],
    ["DAuBtbo"]),
   (["saurashtra", "saur"],
    ["CLVcCrhl"]),
   (["sharada", "shrd"],
    ["DZOyDr"]),
   (["shavian", "shaw"],
    ["DUPcBv"]),
   (["siddham", "sidd"],
    ["EBCiCbbBl"]),
   (["signwriting", "sgnw"],
    ["GWTkZboeao"]),
   (["sinhala", "sinh"],
    ["FCzcarcxaiaabgcadfaaahfjbcDULft"]),
   (["sogdian", "sogd"],
    ["DYSeBp"]),
   (["sorasompeng", "sora"],
    ["DZIeygj"]),
   (["soyombo", "soyo"],
    ["ECXsDe"]),
   (["sundanese", "sund"],
    ["KKuClJvh"]),
   (["sunuwar", "sunu"],
    ["EDLwBhnj"]),
   (["sylotinagri", "sylo"],
    ["CLQeBs"]),
   (["syriac", "syrc"],
    ["CQynaChbcKlk"]),
   (["tagalog", "tglg"],
    ["ISmvia"]),
   (["tagbanwa", "tagb"],
    ["IWemacab"]),
   (["taile", "tale"],
    ["JPgBdbe"]),
   (["taitham", "lana"],
    ["JXgCkaBcbkfjfn"]),
   (["taiviet", "tavt"],
    ["CMOuCoxe"]),
   (["takri", "takr"],
    ["EBMeCffj"]),
   (["tamil", "taml"],
    ["EJibafccadcbaaabcbcccldeccadbafanuEALgBxma"]),
   (["tangsa", "tnsa"],
    ["FHGqDaaj"]),
   (["tangut", "tang"],
    ["FJIeaBeJBzhBDnTri"]),
   (["telugu", "telu"],
    ["EOemacawapbiacadgbacbabdbjgi"]),
   (["thaana", "thaa"],
    ["CVwBx"]),
   (["thai"],
    ["FHxCfeBb"]),
   (["tibetan", "tibt"],
    ["FRsCtaBjdBmaBjaoagdb"]),
   (["tifinagh", "tfng"],
    ["RCyCdgbna"]),
   (["tirhuta", "tirh"],
    ["EASmCthj"]),
   (["todhri", "todr"],
    ["DVDgBz"]),
   (["toto"],
    ["HATkBe"]),
   (["tulutigalari", "tutg"],
    ["EAIqjaabaaBlajaabaadajabhb"]),
   (["ugaritic", "ugar"],
    ["DUHcBdaa"]),
   (["vaii", "vai"],
    ["CKMqLn"]),
   (["vithkuqi", "vith"],
    ["DVAekaoagabakaoagab"]),
   (["wancho", "wcho"],
    ["HAVgCfea"]),
   (["warangciti", "wara"],
    ["ECHcDela"]),
   (["yezidi", "yezi"],
    ["DYLkBpacbb"]),
   (["yiii", "yi"],
    ["CIPkBSucCc"]),
   (["zanabazarsquare", "zanb"],
    ["ECUqCt"])]

/-- The further characters of a script, by its name in full. -/
def sharedTables : List (String × List String) :=
  [("adlam",
    ["CIhaBfaJWnaFHga"]),
   ("arabic",
    ["CHoanacaBfajkzaJUraFHgaDAJzbCDjBb"]),
   ("armenian",
    ["BDwa"]),
   ("avestan",
    ["HbaRFrb"]),
   ("bengali",
    ["BAyaCMtbqbHJdaaabbaahahabadabcCBAea"]),
   ("bopomofo",
    ["BBjaacmaRCocdjamjdbafaHmaCZTgbKve"]),
   ("buginese",
    ["CMHza"]),
   ("buhid",
    ["IUnb"]),
   ("carian",
    ["HbaLZlabaFGca"]),
   ("caucasianalbanian",
    ["BDsaBraBra"]),
   ("chakma",
    ["DTmjCKdj"]),
   ("cherokee",
    ["BDocaafbvbkb"]),
   ("coptic",
    ["HbaWlacbaaEdbQDsaDCPbBb"]),
   ("cypriot",
    ["DTImcdBsci"]),
   ("cyprominoan",
    ["DTImb"]),
   ("cyrillic",
    ["BAyaCocaaaaaabaeaOgbJQmaGEja"]),
   ("devanagari",
    ["BAyaCMtbqbHJdBmabBMzaBZFqj"]),
   ("dogra",
    ["DOmlCIDbj"]),
   ("duployan",
    ["HbaWsbaaxbQIgaFUWod"]),
   ("elbasan",
    ["HbaWqa"]),
   ("ethiopic",
    ["BEca"]),
   ("garay",
    ["CHoanaca"]),
   ("georgian",
    ["HbaBVkaEIqaFVhaFGfa"]),
   ("glagolitic",
    ["HbaWoaaaOrabaJwaEIqaFVhaFGxaBTNea"]),
   ("gothic",
    ["HbaWpbbaBna"]),
   ("grantha",
    ["DNtbqbYpnGJzaabBdccbBMzaDNTpaETvbaa"]),
   ("greek",
    ["HbaWlbbaaaaajaBtabaBtaJYwbZqa"]),
   ("gujarati",
    ["DNtbqbCIDlj"]),
   ("gunjalagondi",
    ["HbaDHjb"]),
   ("gurmukhi",
    ["DNtbqbCIDlj"]),
   ("gurungkhema",
    ["DOna"]),
   ("hani",
    ["HbaRWxpacbaajamjdbafaddHeaFrpBfBliaBvBnCdBwolByaDjyjeDrBeBROihBHAybKveDCHdrLRxb"]),
   ("hangul",
    ["SErcdjampafaHmaCZTgbKve"]),
   ("hanifirohingya",
    ["CHoanacaBfaFqa"]),
   ("hanunoo",
    ["IUnb"]),
   ("hebrew",
    ["BDvb"]),
   ("hiragana",
    ["SErcdjampfaadbDmdcaDlbCZTfbKvejaBsb"]),
   ("javanese",
    ["CMHza"]),
   ("kaithi",
    ["DOojNXwaBUFdj"]),
   ("kannada",
    ["DNtbqbHJdaabfawaaaCASwf"]),
   ("katakana",
    ["BDtaBcaQZscdjampfaadbDmdcaDlbCZTfbKvejaBsb"]),
   ("kayahli",
    ["CMBua"]),
   ("khojki",
    ["EDijCHOhj"]),
   ("khudawadi",
    ["DOmbCIDlj"]),
   ("latin",
    ["HbaTvajaacaaiaaaBloabaalabcgbabBlaeadmKqbBVdbCXjaEXvaVtaHjaEZlaBTUlhVda"]),
   ("limbu",
    ["DOna"]),
   ("lineara",
    ["DTItBs"]),
   ("linearb",
    ["DTImcdBsci"]),
   ("lisu",
    ["BAyapaRDjb"]),
   ("lycian",
    ["MGoa"]),
   ("lydian",
    ["HbaRFsa"]),
   ("mahajani",
    ["HbaDHjlCIDbj"]),
   ("malayalam",
    ["DNtbqbHJnawaCASyc"]),
   ("mandaic",
    ["CJoa"]),
   ("manichaean",
    ["CJoa"]),
   ("masaramgondi",
    ["DOmb"]),
   ("meroitichieroglyphs",
    ["MGra"]),
   ("modi",
    ["CLSaj"]),
   ("mongolian",
    ["JCkbaaDCiaFZsbed"]),
   ("multani",
    ["DYkj"]),
   ("myanmar",
    ["CMBua"]),
   ("nandinagari",
    ["DOmbBIljGBgahagaCASqf"]),
   ("nkoo",
    ["CHoanacaDPPdb"]),
   ("olonal",
    ["DOmb"]),
   ("oldhungarian",
    ["MGoabaFGcaoa"]),
   ("oldpermic",
    ["HbaWlaecjaOca"]),
   ("oldturkic",
    ["MGoaFGea"]),
   ("olduyghur",
    ["CJoaDUSua"]),
   ("oriya",
    ["DNtbqbHJnawa"]),
   ("osage",
    ["BDpabafaCxa"]),
   ("phagspa",
    ["JCkbaaDCiaFZta"]),
   ("psalterpahlavi",
    ["CJoa"]),
   ("runic",
    ["IRrc"]),
   ("samaritan",
    ["RMva"]),
   ("sharada",
    ["DNtaHKeaaabbbaCATqfba"]),
   ("shavian",
    ["Hba"]),
   ("sinhala",
    ["DOmbHKla"]),
   ("sogdian",
    ["CJoa"]),
   ("sunuwar",
    ["BDobaaiabaBbaca"]),
   ("sylotinagri",
    ["DOmbExj"]),
   ("syriac",
    ["BDrbbbaauabcgbaaBCcanbbaBfajkzaIXqaaa"]),
   ("tagalog",
    ["IUnb"]),
   ("tagbanwa",
    ["IUnb"]),
   ("taile",
    ["BDobebcaEZyj"]),
   ("takri",
    ["DOmbCIDlj"]),
   ("tamil",
    ["DNtbqbHJnaCBBjaBOEeaaaCcb"]),
   ("tangut",
    ["SEapTaa"]),
   ("telugu",
    ["DNtbqbHJnawa"]),
   ("thaana",
    ["CHoanbbaCljDPTfaja"]),
   ("thai",
    ["BAyazaBqaBsa"]),
   ("tibetan",
    ["SEyd"]),
   ("tifinagh",
    ["BDqaaabaaa"]),
   ("tirhuta",
    ["DNtbqbHKlaCASyj"]),
   ("todhri",
    ["BDpababaiaaaCva"]),
   ("toto",
    ["BAya"]),
   ("tulutigalari",
    ["EXajGBpaaaCASwfHea"]),
   ("yezidi",
    ["CHoanacaClj"]),
   ("yiii",
    ["SErbejbhIoaDAEee"])]

def script? (name : String) : Option CharSet :=
  ofTables? scriptTables name

/-- The characters that belong to named scripts besides their own. -/
def shared : CharSet :=
  unions (sharedTables.map fun (_, table) => ofTable table)

/-- The characters that a script uses. Those without a script of their own, which are `common` or
`inherited`, are not any more where they are shared by named scripts. -/
def scriptExtension? (name : String) : Option CharSet :=
  match scriptTables.find? (·.1.contains name) with
  | .none => .none
  | some (names, table) =>
    if names.contains "common" || names.contains "inherited" then
      some ((ofTable table).diff shared)
    else
      match sharedTables.find? fun (script, _) => names.contains script with
      | .none => some (ofTable table)
      | some (_, further) => some ((ofTable table).union (ofTable further))

end SqlTemplate.CharSet
