import Graft.Text.Packed

set_option autoImplicit false

/-!
# Scripts

Every character belongs to one script of the Unicode standard. Some are used with several, and these
are its script extensions.
-/

namespace Graft.Text

/-- The names of the scripts, in small letters and without separators, in the order in which the table
numbers them. Number zero is for code points without a script. -/
def scriptNames : List (List String) := [
    [], ["common", "zyyy"], ["arabic", "arab"], ["latin", "latn"], ["ethiopic", "ethi"], ["greek", "grek"],
    ["inherited", "zinh", "qaai"], ["han", "hani"], ["tamil", "taml"], ["gurmukhi", "guru"],
    ["grantha", "gran"], ["bengali", "beng"], ["gujarati", "gujr"], ["hangul", "hang"],
    ["katakana", "kana"], ["oriya", "orya"], ["kannada", "knda"], ["sinhala", "sinh"], ["telugu", "telu"],
    ["lao", "laoo"], ["tulutigalari", "tutg"], ["cyrillic", "cyrl"], ["georgian", "geor"],
    ["hebrew", "hebr"], ["divesakuru", "diak"], ["kharoshthi", "khar"], ["vithkuqi", "vith"],
    ["linearb", "linb"], ["malayalam", "mlym"], ["masaramgondi", "gonm"], ["tibetan", "tibt"],
    ["cypriot", "cprt"], ["glagolitic", "glag"], ["gunjalagondi", "gong"], ["hiragana", "hira"],
    ["mongolian", "mong"], ["devanagari", "deva"], ["duployan", "dupl"], ["limbu", "limb"],
    ["multani", "mult"], ["pahawhhmong", "hmng"], ["taitham", "lana"], ["armenian", "armn"],
    ["bhaiksuki", "bhks"], ["cham"], ["cuneiform", "xsux"], ["khmer", "khmr"], ["myanmar", "mymr"],
    ["newtailue", "talu"], ["nyiakengpuachuehmong", "hmnp"], ["syriac", "syrc"], ["tangut", "tang"],
    ["adlam", "adlm"], ["ahom"], ["bopomofo", "bopo"], ["brahmi", "brah"], ["canadianaboriginal", "cans"],
    ["cherokee", "cher"], ["coptic", "copt", "qaac"], ["garay", "gara"], ["hatran", "hatr"],
    ["javanese", "java"], ["kawi"], ["khitansmallscript", "kits"], ["lepcha", "lepc"], ["lineara", "lina"],
    ["marchen", "marc"], ["meeteimayek", "mtei"], ["meroiticcursive", "merc"], ["miao", "plrd"],
    ["mro", "mroo"], ["nandinagari", "nand"], ["oldhungarian", "hung"], ["psalterpahlavi", "phlp"],
    ["signwriting", "sgnw"], ["tagbanwa", "tagb"], ["tifinagh", "tfng"], ["yezidi", "yezi"],
    ["avestan", "avst"], ["balinese", "bali"], ["bamum", "bamu"], ["bassavah", "bass"], ["batak", "batk"],
    ["buginese", "bugi"], ["caucasianalbanian", "aghb"], ["chakma", "cakm"],
    ["egyptianhieroglyphs", "egyp"], ["hanifirohingya", "rohg"], ["imperialaramaic", "armi"],
    ["inscriptionalpahlavi", "phli"], ["inscriptionalparthian", "prti"], ["kaithi", "kthi"],
    ["kayahli", "kali"], ["khojki", "khoj"], ["khudawadi", "sind"], ["lisu"], ["lydian", "lydi"],
    ["mandaic", "mand"], ["manichaean", "mani"], ["mendekikakui", "mend"], ["modi"], ["nabataean", "nbat"],
    ["newa"], ["nko", "nkoo"], ["nushu", "nshu"], ["olonal", "onao"], ["olditalic", "ital"],
    ["oldpersian", "xpeo"], ["osage", "osge"], ["osmanya", "osma"], ["phoenician", "phnx"],
    ["rejang", "rjng"], ["runic", "runr"], ["samaritan", "samr"], ["saurashtra", "saur"],
    ["siddham", "sidd"], ["sorasompeng", "sora"], ["sundanese", "sund"], ["sunuwar", "sunu"],
    ["tagalog", "tglg"], ["taile", "tale"], ["taiviet", "tavt"], ["takri", "takr"], ["tangsa", "tnsa"],
    ["thai"], ["tirhuta", "tirh"], ["ugaritic", "ugar"], ["wancho", "wcho"], ["warangciti", "wara"],
    ["yi", "yiii"], ["anatolianhieroglyphs", "hluw"], ["braille", "brai"], ["buhid", "buhd"],
    ["carian", "cari"], ["chorasmian", "chrs"], ["cyprominoan", "cpmn"], ["deseret", "dsrt"],
    ["dogra", "dogr"], ["elbasan", "elba"], ["elymaic", "elym"], ["gothic", "goth"],
    ["gurungkhema", "gukh"], ["hanunoo", "hano"], ["kiratrai", "krai"], ["lycian", "lyci"],
    ["mahajani", "mahj"], ["makasar", "maka"], ["medefaidrin", "medf"], ["meroitichieroglyphs", "mero"],
    ["nagmundari", "nagm"], ["ogham", "ogam"], ["olchiki", "olck"], ["oldnortharabian", "narb"],
    ["oldpermic", "perm"], ["oldsogdian", "sogo"], ["oldsoutharabian", "sarb"], ["oldturkic", "orkh"],
    ["olduyghur", "ougr"], ["palmyrene", "palm"], ["paucinhau", "pauc"], ["phagspa", "phag"],
    ["sharada", "shrd"], ["shavian", "shaw"], ["sogdian", "sogd"], ["soyombo", "soyo"],
    ["sylotinagri", "sylo"], ["thaana", "thaa"], ["todhri", "todr"], ["toto"], ["vai", "vaii"],
    ["zanabazarsquare", "zanb"]]

/-- The script of every code point. -/
def scripts : Partition := .unpack <| String.join [
    "BcMDZBFDZBbUDABODABEDWBADbEBADrGBbMDEBEcCBBTGeHFDBAFCABFDBAFAADFABAFABAFCAAFAAAFTAAFcKcGNFPVfCGBVgMAAbQb",
    "LABbQbXABbQCAAXcCAHXbAADXFAKCEBACFBACNBACCBACbFBACJGKCZGACeDBACbHbYNAAbYcHABbYCCbVgKbXANdZcGABdZCeJbTABe",
    "JOAAdTbBABdTAAAbYKAECbEAACBAECcWBACbCbKdCGDbKOBBbKZLDAALHABLBABLVAALGAALAACLDABLIABLBABLDAHLAADLBAALEABL",
    "YABJCAAJFADJBABJVAAJGAAJBAAJBAAJBABJAAAJEADJBABJCACJAAGJDAAJAAGJQAJMCAAMIAAMCAAMVAAMGAAMBAAMEABMJAAMCAAM",
    "CABMAAOMDABMLAGMGAAPCAAPHABPBABPVAAPGAAPBAAPEABPIABPBABPCAGPCADPBAAPEABPRAJIBAAIFACICAAIDACIBAAIAAAIBACI",
    "BACICACILADIEACICAAIDABIAAFIAANIUAESMAASCAASWAASPABSIAASCAASDAGSBAASCABSAABSDABSJAGSIQMAAQCAAQWAAQJAAQEA",
    "BQIAAQCAAQDAGQBAFQBAAQDABQJAAQCALbCMAAbCCAAbCbYAAbCCAAbCFADbCPABbCZAARCAARRACRXAARIAARAABRGACRAADRFAARAA",
    "ARHAFRJABRCALeUcFADBAeUbBAbKTBAATAAATEAATXAATAAATWABTEAATAAATGAATJABTDAbFbEcTAAbEbJADbEbMAAbEbJAAbEOAAbE",
    "GBDbEBAbKbVgDWbLAAWAAEWAABWbQBAWDNjVEcUAAEDABEGAAEAAAEDABEbOAAEDABEbGAAEDABEGAAEAAAEDABEOAAEcEAAEDABEcOA",
    "BEbFACEZAFcFdHABcFFABcEyPfUbCACeIcWBCeIKAGePVAIePAfMUBBAIfCTALcXMAAcXCAAcXBALbUdPABbUJAFbUJAFbJBBBbJABAb",
    "JTAFbJdKAGbJbQAEcEcRAJbMbEAAbMLADbMLADbMAACbMLeQbDABeQEAKbWbRADbWZAFbWKACbWBbUbFdFbBABdFBbPcKAAbPbCABbPK",
    "AFbPJAFbPNABGbEAbWdBcYAAdBbXeNcLdEbZAHdEDcMcDACcMOACcMCfVbVVKAEWbQABWCeNHAHGCBAGMBAGGBDGABFGABCGBBAAEDbL",
    "FEVADbWFEDDFEDMVADcRFAGcLDjVFVABFFABFbLABFFABFHAAFAAAFAAAFAAAFbEABFcAAAFOAAFNABFFAAFSABFCAAFIAABLGBBdIAA",
    "BKDAABBKDABOAADMACBbGAOGbGAOBbLFABCDBBFDABbADABQDbOBCADBzPAVBKAUBbjRfBjVByDABBbFAABeAbGdRDbFcGeLAEcGGWbL",
    "AAWAAEWAABcYcDAGcYBANcYAEWAIEGAAEGAAEGAAEGAAEGAAEGAAEGAAEGAAVbFBdPAbHHZAAHdKALHiFAZBUHABAHABYHIGDNBBHHDB",
    "DAAbIdHABGBBBbICBAOdLBBOCAEcCbQAANdPAABPcCbFBbLAIBAOPNbEAABcLNbEBdCObUBAOdJBgLHjtNBcLHbfbJeZbsUACeZcCAId",
    "RbVgNlNATVdRdCdJAHBbHDdXBCDcOABDBAADAAADHAUDNgJbSACBJAFgEcDAHeKcRAHeKLAFbKbFdObTBAdOAeHbJAKeHANbCACcJcZA",
    "ABAcJJADcJBbVbEAAbScCAIbSNABbSJABbSDbVbFeRcOAXeREcPWAJEFABEFABEFAIEGAAEGAADbQBADIFADDBBADcFdBcPbTABcPJAF",
    "NqnRALNWADNbWAmnBHoBABHeBAbLDGALbQEAEXZAAXEAAXAAAXBAAXBAAXJCeKAPCnYBBCdBABCcBAGCAAbFCPGPBJAFGNVBBbIAABSA",
    "ABDADCEAACfEABBAAABbFDZBFDZBKOJBAObSBBNbEACNFABNFABNFABNCACBGAABGAJBEABbBLAAbBZAAbBSAAbBBAAbBOABbBNAbHbB",
    "eSAEBCADBbSACBIFdAAABMACFAAbUBbSGAAeZfObCACfDbWAOGABbAADeCbJAIeCCfKbAAEfXbQAEeWbDAAeWAeDbJADeDNAbPfGdBgG",
    "bVeFbDABeFJAFeEbJADeEbJADfIbNAHdGbZAKdGAbAKAAbAOAAbAGAAbABAAbAKAAbAOAAbAGAAbABACgLbZALcNlYAIcNVAJcNHAXDF",
    "AADbPAADIAcQbFFABbFAAAbFbRAAbFBACbFAABbFAdKVAAdKIgCbFdXbEAHdXIAbVcISAAcIBAEcIEeGbBACeGAdSZAEdSAAcLfSbFcQ",
    "XADcQTABcQbTZDAAZBAEZHAAZCAAZbCABZCADZJAGZIAGfZbFfWbFAbFdUbMADdULAIdAcBACdAGdMVABdMHdLSAEdLHcVRAGcVDALcV",
    "GAdBgAcUAcCcUbYAMcUbYAGcUFdJbNAHdJJAFcHbLACcHbCAHcHBAhZCbEAAcZbPAAcZCABcZBAPCCAcCCDfYbNAHgHbPAVgBZAbLfEb",
    "BATfJWAIcDcZADcDbJAIcDAdNcOAJdNAABeMYAGeMJAFdHcAAAdHRAHfPbMAIgFdRAARTAKdPRAAdPbUAcJbNGAAbNAAAbNDAAbNOAAb",
    "NKAFdQcGAEdQJAFKDAAKHABKBABKVAAKGAAKBAAKEAAGAKIABKBABKCABKAAFKAAEKGABKGACKEAKUJAAUAABUAAAUbLAAUJAAUAABUA",
    "AAUDAAUJAAUBAHUBAbCdYdNAAdYEAbDeVcTAHeVJAgJeLcBABeLbLAbHdWcQAKdWJAFbJMASeScFAFeSJAFbVTAbBcBbAABcBOADcBWA",
    "hCfHcHAdVeYdEALeYAYGABYAABYHAAYBAAYbDAAYBABYLAIYJAcRcTHABcTbTABcTKAbAgOcTAHgIdEAMcEPgDcEAGbKJAgZeObHANeO",
    "JAFbRIAAbRbSAAbRNAJbRbCACcObFABcOVAAcONAcUbDGAAbDBAAbDbRACbDAAAbDBAAbDIAHbDJAFbHFAAbHBAAbHbKAAbHBAAbHFAG",
    "bHJAlXfQYAGcKQAAcKbOACcKbCAdGdRAAOIbXAMIAbTbjLAdXbTeGAAbTEAKbThNAdxJfFdUAMdIbqRAJdIfxQAEfAwKAkdCfLcFAcoR",
    "dCvWAGcSbEAAcSJADcSBeTdAAAeTJAFdDbDABdDFAJbOcRAJbOJAAbOGAAbOUAEbOSAqPfNcFAhPfRdMAdWcRcWADcRcEAGcRQAcLbZA",
    "eAAHBcLAAKHBANbZjbZAHbZbdNcLsBAbOcLAbZIAnfQODAAOGAAOBAAOAbIlAOCAObIAAbCbICABOAANODAHeApFAdkTbLeCAEbLMACb",
    "LIAGbLJABbLDBDAfvFBjPAFBqTAcXGbTABGWAIBeLAcHBjLAJBbMABBcJGCBQGHBBGGBbDGDBcIAUFcRAeRBTALBTALBdIAIBYAfEBdG",
    "AABcSAABBABBAABBBABBDAABLAABAAABGAABcMAABDABBHAABGAABbBAABDAABEAABAACBGAABnBABBlFABBbXcWzBAOcWEAAcWOAbqL",
    "DbEAFDFAiEbGGAAbGQABbGGAAbGBAAbGEAEVcJAbGVAAeHbXbSACbXNABbXJADbXBAmHgMbEAQeXcFAEeXAArVfTbPAiFeBbQADeBAAs",
    "LEGAAEDAAEBAAEOAAdVhOABdVPAbOcAcXADcAJADcABAbeEBcPAcXBcIAhLCDAACbAAACBAACAABCAAACJAACDAACAAACAAFCAADCAAA",
    "CAAACAAACCAACBAACAABCAAACAAACAAACAAACAAACBAACAABCDAACGAACDAACDAACAAACJAACQAECCAACEAACQAbZCBAkJBbRADBdVAL",
    "BOABBOAABOAABbKAJBgRAcDBZbIABBAMBbRADBIAGBBANBFAfXBblVADBQACBMACBeOADBdQAFBLADBAAOBLADBcDAHBJAFBbNAHBbDA",
    "BBLADBBAcJBnBALBNABBMACBJAEBcDAGBOABBKAFBIAGBfQAABdXAbnPHclfBAbFHgdTAFHiNABHinPANHlbKAOHxXAdqVHuVAcfXHhh",
    "YAEHgfFAbomxKBAAbDBdRAeXGjFAlecT"]

/-- The characters that are used with other scripts than just their own, and the numbers of the scripts. -/
def sharedCharacters : List (String × List Nat) := [
    ("hBA", [78, 133, 58, 37, 138, 22, 32, 140, 5, 33, 7, 3, 96, 145, 153, 162]),
    ("baYA", [11, 21, 36, 3, 95, 124, 168]), ("bbJAACMA", [54, 3]), ("bbPA", [3, 95]), ("bbZA", [3, 124]),
    ("bdOA", [57, 58, 21, 5, 3, 153, 118, 120]), ("bdPA", [57, 21, 5, 3, 108, 118, 120, 167]),
    ("bdQA", [57, 21, 3, 76]), ("bdRA", [32, 3, 118, 50, 124]),
    ("bdSA", [84, 57, 58, 21, 140, 5, 3, 108, 50, 76, 167]), ("bdTA", [58, 138, 32, 140, 14, 3]),
    ("bdUA", [21, 5, 3, 153, 76]), ("bdVA", [58, 37, 23, 3, 153, 50, 120, 76, 167]),
    ("bdWA", [42, 21, 37, 140, 5, 23, 3, 153, 50, 120, 76]), ("bdXA", [3, 76]), ("bdYA", [37, 3, 50]),
    ("bdZA", [57, 21, 3, 108]), ("beAA", [57, 3, 120]), ("beBABA", [3, 118]), ("beCA", [4, 3]),
    ("beFA", [21, 3, 167]), ("beHA", [5, 3, 153, 167]), ("beXA", [57, 37, 14, 3, 50, 76]),
    ("beYA", [57, 37, 3, 50]), ("beZAHA", [3, 50]), ("bfHA", [3, 118, 50]), ("bfKA", [57, 3, 50]),
    ("bfLA", [84, 57, 140, 3, 118, 50, 124]), ("bgCABAkaRB", [5]), ("bgYA", [3, 108]),
    ("bhEA", [84, 3, 167]), ("bhJM", [3]), ("biAB", [58, 5]), ("bsLA", [21, 153]),
    ("bsMABApuWAbtnEA", [21, 32]), ("bsNB", [21, 3]), ("ccNA", [42, 22, 32]),
    ("chOANA", [2, 59, 87, 103, 50, 166, 77]), ("ciEA", [2, 50, 166]),
    ("ciHA", [52, 2, 59, 87, 103, 50, 166, 77]), ("cjOA", [52, 2, 87, 97, 98, 157, 73, 163, 50]),
    ("cjZKZA", [2, 50]), ("ckUJ", [2, 166, 77]), ("cpGA", [2, 87]),
    ("dnTA", [11, 36, 10, 12, 9, 16, 3, 28, 71, 102, 15, 161, 8, 18, 125]),
    ("dnUA", [11, 36, 10, 12, 9, 16, 3, 28, 102, 15, 8, 18, 125]),
    ("doMA", [11, 36, 137, 10, 12, 33, 9, 16, 94, 145, 28, 29, 71, 105, 15, 17, 165, 122, 8, 18, 125]),
    ("doNA", [11, 36, 137, 10, 12, 33, 9, 141, 16, 94, 38, 145, 28, 29, 71, 105, 15, 17, 165, 122, 8, 18, 125]),
    ("doOJ", [36, 137, 91, 145]), ("dtMJ", [11, 85, 165]), ("dyKJ", [9, 39]), ("edIJ", [12, 93]),
    ("enENdvqAAAAcCBetUBAA", [10, 8]), ("exAJ", [16, 71, 20]), ("geAJ", [85, 47, 120]),
    ("glFA", [22, 32, 3]), ("irRC", [112]), ("iuNB", [132, 142, 119, 75]), ("jcKBAA", [35, 160]),
    ("kxSAAA", [11, 36, 10, 16]), ("kxTABAFABBCFCAAD", [36]), ("kxVA", [36, 10, 16]),
    ("kxXA", [11, 36, 102, 18, 125]), ("kxYA", [11, 36, 18]), ("kxZA", [36, 102, 161]),
    ("kyAA", [11, 36, 102, 18]), ("kyBABBBA", [36, 161]), ("kyCA", [36, 16, 28, 15, 8, 18]),
    ("kyJASB", [11, 36]), ("kyKA", [36, 102, 125]), ("kyRA", [36, 71, 102]), ("kySA", [11, 36, 161]),
    ("kyTA", [36, 102]), ("kyVA", [11, 36, 102, 161]),
    ("kzAA", [11, 36, 10, 16, 28, 71, 15, 17, 18, 125, 20]), ("kzBADB", [36, 10]),
    ("kzCA", [36, 10, 16, 20]), ("kzFA", [11]), ("kzIA", [71]), ("ljCA", [21, 3, 50]), ("ljEA", [50]),
    ("meXA", [3, 35, 160]), ("mgDA", [52, 2]), ("mgOA", [133, 22, 32, 144, 72, 156]),
    ("mgRA", [133, 5, 148, 72]), ("mmIA", [36, 10, 3]), ("rlVA", [58, 3]), ("rmUA", [78, 156]),
    ("rmVA", [78, 133, 22, 91, 96, 72, 113]), ("rnGAfuwOD", [37]), ("rnLA", [52, 2, 72]),
    ("seAPtAA", [7, 51]), ("seRA", [54, 7, 13, 34, 14, 35, 129]),
    ("seSA", [54, 7, 13, 34, 14, 35, 160, 129]), ("seTAOAHDPAFAdaaUB", [54, 7, 13, 34, 14]),
    ("seWAcCBmXPbFbLcFbNcDbWOLbYAdJYJEdRbEgbhWRlrXB", [7]), ("seYB", [54, 7, 13, 34, 14, 35, 30, 129]),
    ("sfAB", [54, 7, 13, 34, 14, 95, 35, 30, 129]), ("sfCFBHiOAdaeEE", [54, 7, 13, 34, 14, 129]),
    ("sgGD", [54, 7]), ("sgNEdUDCAdMAdaeSAbSB", [34, 14]), ("sgYB", [7, 34, 14]), ("clgIH", [7, 3]),
    ("clsAC", [36, 137, 12, 9, 91, 16, 93, 94, 145, 28, 100, 71, 161, 122, 125, 20]),
    ("clsDC", [36, 137, 12, 9, 91, 16, 93, 94, 145, 100, 71, 161, 122, 125, 20]),
    ("clsGBAA", [36, 137, 12, 9, 91, 93, 94, 145, 100, 122, 125]),
    ("clsIA", [36, 137, 12, 9, 91, 93, 94, 145, 100, 161, 122, 125]), ("clzLA", [11, 36, 20]),
    ("clzNA", [36, 8]), ("cmbUA", [92, 3, 47]), ("cmhZA", [83, 61]), ("drxMB", [2, 103]),
    ("dseKAJA", [2, 166]), ("dtiMB", [31, 135, 27]), ("dtiOAbZI", [31, 27]), ("dtiTbS", [31, 65, 27]),
    ("duaYbB", [2, 58]), ("dxcKA", [98, 157])]

/-- The number of a script. -/
def scriptNumber? (name : String) : Option Nat :=
  (List.range scriptNames.length).find? fun n => (scriptNames.getD n []).contains name

/-- The characters of a script. -/
def script? (name : String) : Option CharSet :=
  (scriptNumber? name).map fun n => scripts.select (· == n)

/-- The characters that are used with a script. -/
def scriptExtensions? (name : String) : Option CharSet :=
  (scriptNumber? name).map fun n =>
    let shared := CharSet.unionAll (sharedCharacters.map fun (chars, _) => .unpack chars)
    let used := CharSet.unionAll (sharedCharacters.filterMap fun (chars, with_) =>
      if with_.contains n then some (.unpack chars) else none)
    ((scripts.select (· == n)).diff shared).union used

end Graft.Text
