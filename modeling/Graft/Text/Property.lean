import Graft.Text.Blank
import Graft.Text.Category

set_option autoImplicit false

/-!
# Properties of characters

The properties of the Unicode standard that a code point has or does not have. Some are given by tables;
the others are put together from these and the general categories.
-/

namespace Graft.Text

/-! ## Tables -/

def asciiHexDigits : CharSet := .unpack "bWJGFZF"

def bidiControls : CharSet := .unpack "ciEAjvKBZEcCD"

def bidiPaired : CharSet := .unpack <| String.join [
    "bOBRAAAbBAAAbCAAAbSAOAfmRDcuMBdqPBJBcBBNBgUAhJDCFCACBCDADAAAADIEAAREDIBAAAHAbFBDEAIBBSEBIEBBDXBPHDTBGBbp",
    "SNcVABDABACEDECCNpMVBFANHAGFCADEABBEDAACBBJFBBLSADBAAABAADEBFCXBKBDDABBBDbQBHAbNEAAACEECDACEAAjVAtUDCBAB",
    "NBBJbQHqKJBHdacQFEBgFBRAAAbBAAAbCAAAABABddpMAcEAcEAcEAcEA"]

def changedByLowering : CharSet := .unpack <| String.join [
    "cNZdWWAGbGAAAAAAAAAAAAAAAAAAAAAAAAAAAAAAAAAAAAAAAAAAAAAAAAAAAAAAABAAAAAAAAAAAAAAABAAAAAAAAAAAAAAAAAAAAAA",
    "AAAAAAAAAAAAAAAAAAAAAAAABAAAACBAAABACBDABACCBABAAAAABAABAABACAAABCAGBABABAAAAAAAAAAAAAAAABAAAAAAAAAAAAAA",
    "AAABBAAACAAAAAAAAAAAAAAAAAAAAAAAAAAAAAAAAAAAAAAAAAAAAAAAAAAAAAAAAAAGBABBAADAAAAAAAAlCAAACAHAFAACAAABAQAI",
    "bIAHAAAAAAAAAAAAAAAAAAAAAAAEABAABBbYbVAAAAAAAAAAAAAAAAAAAAAAAAAAAAAAAAAIAAAAAAAAAAAAAAAAAAAAAAAAAAAAAAAA",
    "AAAAAAAAAAAAAAAAAAAAAABAAAAAAAAAAAABAAAAAAAAAAAAAAAAAAAAAAAAAAAAAAAAAAAAAAAAAAAAAAAAAAAAAAAAAAAAAAAAAAAA",
    "AAAAAAAAAAAAAAAAAAAAAAAAAAABbLehCbLAAEAbbTdHdgKAFbQBCmHAAAAAAAAAAAAAAAAAAAAAAAAAAAAAAAAAAAAAAAAAAAAAAAAA",
    "AAAAAAAAAAAAAAAAAAAAAAAAAAAAAAAAAAAAAAAAAAAAAAAAAAAAAAAAAAAAAAAAAAAAAAAAAAAAAAAAAAAAAAAAAAAAAAAAAAAAIAAA",
    "AAAAAAAAAAAAAAAAAAAAAAAAAAAAAAAAAAAAAAAAAAAAAAAAAAAAAAAAAAAAAAAAAAAAAAAAAAAAAAAAAAAAAAAAAAAAAAIHHFJHHHHF",
    "KAAAAAAAHHXHHHHHHEKEKDLEKElKACBFAbSPSAbfLZcsTbVbVAACBAAAAAADAABAHCAAAAAAAAAAAAAAAAAAAAAAAAAAAAAAAAAAAAAA",
    "AAAAAAAAAAAAAAAAAAAAAAAAAAAAAAAAAAAAAAAAAAAAAAAAAAAAAAAAAAAAHAAADAbtyIAAAAAAAAAAAAAAAAAAAAAAAAAAAAAAAAAA",
    "AAAAAAAAAAASAAAAAAAAAAAAAAAAAAAAAAAAAAAfEAAAAAAAAAAAAACAAAAAAAAAAAAAAAAAAAAAAAAAAAAAAAAAAAAAAAAAAAAAAAAA",
    "AAAAAAAAAAAAJAAAABAAAAAAAADAAABAAACAAAAAAAAAAAAAAAAAAAAEAEAAAAAAAAAAAAAAADAAABCAEAAAAAAAXAbhaGZbuYbNfFbJ",
    "fZKAOAGABcqBbYgAVegNbFbgjVbFbulJbH"]

def changedByRaising : CharSet := .unpack <| String.join [
    "dTZcFAbOXAHAAAAAAAAAAAAAAAAAAAAAAAAAAAAAAAAAAAAAAAAAAAAAAAAAAAAAAAABAAAAAAAAAAAAAABAAAAAAAAAAAAAAAAAAAAA",
    "AAAAAAAAAAAAAAAAAAAAAAAAABAAAACBAAABACAEABACCBABAAAAABADABACAAABACAAAEBABABAAAAAAAAAAAAAAABAAAAAAAAAAAAA",
    "AAAABABAACAAAAAAAAAAAAAAAAAAAAAAAAAAAAAAAAAAAAAAACAAAAAAAAAAAAAAAAAHABBAADAAAAAAAAFABAAABCBADAEBAABBAGAB",
    "AABCFEAJBgJAbQAAACACCRAbAbIABCCAAAAAAAAAAAAAAAAAAAAAAAEAABABAbZbVAAAAAAAAAAAAAAAAAAAAAAAAAAAAAAAAAAIAAAA",
    "AAAAAAAAAAAAAAAAAAAAAAAAAAAAAAAAAAAAAAAAAAAAAAAAABAAAAAAAAAAAABAAAAAAAAAAAAAAAAAAAAAAAAAAAAAAAAAAAAAAAAA",
    "AAAAAAAAAAAAAAAAAAAAAAAAAAAAAAAAAAAAAAAAAAAAAAAAAAAAAAAbWbMehBbQBCbdFFdfTIAAjDACAPAeJAAAAAAAAAAAAAAAAAAA",
    "AAAAAAAAAAAAAAAAAAAAAAAAAAAAAAAAAAAAAAAAAAAAAAAAAAAAAAAAAAAAAAAAAAAAAAAAAAAAAAAAAAAAAAAAAAAAAAAAAAAAAAAA",
    "AAAAAAAAAAAAAAAAAAAAAAAAAGEAAAAAAAAAAAAAAAAAAAAAAAAAAAAAAAAAAAAAAAAAAAAAAAAAAAAAAAAAAAAAAAAAAAAAAAAAAAAA",
    "AAAAAAAAAAAAAAAAAIHFJHHHHFJHHHHNBcAABDAAACCABDACDBBHHJCABDAmYAbGPDAbgKZctPbVAACBAAAAAAFABAJAAAAAAAAAAAAA",
    "AAAAAAAAAAAAAAAAAAAAAAAAAAAAAAAAAAAAAAAAAAAAAAAAAAAAAAAAAAAAAAAAAAAAAAAAAAAAAAAAAAAAAAHAAADALbLAAEAbtwCA",
    "AAAAAAAAAAAAAAAAAAAAAAAAAAAAAAAAAAAAAAAAAAAASAAAAAAAAAAAAAAAAAAAAAAAAAAAfEAAAAAAAAAAAAACAAAAAAAAAAAAAAAA",
    "AAAAAAAAAAAAAAAAAAAAAAAAAAAAAAAAAAAAAAAAAAAAAJAAABAAAAAAAAADADAABBAAAAAAAAAAAAAAAAAAAKAAAAAAAAAAAAAAADAA",
    "ABACAEAAAAAZAbhBAbBdBbeaHGLEboYZbvGbNfFbJfYKAOAGABcrAbYeUVegNbFbgjVbFbulLbH"]

def dashes : CharSet := .unpack <| "bTAcaTAbYAfkIAbnOAdbCFcIAbMAOAoZAeoHABAbEBDAbBArDASAeGAczvZBbKAJAgMAflNAmFA"

def deprecated : CharSet := .unpack "mRAbyUAdkSAAAdcIBdiIFbaUBbzryJA"

def diacritics : CharSet := .unpack <| String.join [
    "dQAAAcSAFADABBtIgCAHEFQBDAIBjSEiAAcCbSAAABABAAfAHDBfDBDBCCcObAdMKcFKbHBeVHbOJPbBcIAPACDbBAcVAPAeFAPAeFAP",
    "AbUCcHAPAGAeOAeFAPAeFAPAeEBPAeTAeGALFAAeCAMEcWBbAAAAAADBcNCABcJAeHAABbNBDEYGAAJBbbCCbkLBbDAfRKIAnIClFATH",
    "BAbVOBKdZAOAbLIcBBcFAKBcNBcLFdDYDAFABCbXcKbVbJELbKKrCAACKCMCMCMBexJCmEAtLFeADdQAbsmJALBAAbBBdDBNbHdXCeEB",
    "LAbKAfUAbARcEDbJAdQALAbJAfSCcMDbYAdVEICeXBbdzRAbdOPkJAAAbUAbSBcOAbdJAbtMFAbPAIyMCDAgIBvYFbLAZEpICcRKbWDh",
    "JAbOAcTBePBcJAcXAICdZBgVBdBBPAXGCEdKCABMBdQACAeSBjQBeVAeNBeKAkIBjXBDAfZAdEARAdCAqEAjXAABdCAqIBWAhxZOqzOA",
    "drZEcGGvRBuZQdBBygBDAGABltGbTBWuXCCFHHBGbDDfmVcJhLGoKAcIDbdLBbcHGeECAC"]

def emoji : CharSet := .unpack <| String.join [
    "bJAFAEJeGADAlyQALAiHAVAdLFOBoCBLAgJAYKDChQAiWBJAIAcFDAEIABABBBADABAABBACACBHCEAAAELKBBAABAARABBRFAAABCBE",
    "ABBDBKBEBBAEBAAABTBEFADBADABABFAABAAAAAFACAFAJBOABADAAADCAAKBbVCIANANAoHBrUCSBbYADAbvTALAxCAAAgmrPAhTAgD",
    "BLBNABJcWZABWATABIUBgRbHBeHBBACBdEBCAkCAcKKFAXGBBHLABDBADBMBBAHBIAECLCHCBAAADAFACAFdHbVcREHBCDJCAABCABJi",
    "SLDAkWbUAJAhCeHMCJEcDGOBKFI"]

def emojiComponents : CharSet := .unpack "bJAFAEJmbIAiEAdftQAdoiVZtMEcdZDbsvuPdR"

def emojiModifiers : CharSet := .unpack "hhiXE"

def emojiBases : CharSet := .unpack <| "olHAiKAPDgsjUAcHCBABCeMBBKUSCADCACGAAAXAhSBDAUADBgRCCEdEAPCIAKAwCABAHHFAIJBCcDAcIBABAAQCAMiUCbPI"

def emojiPresented : CharSet := .unpack <| String.join [
    "nhQBhWDCABAuABUBbXLbQASAMAHBQBEBHAEAUAGBAADABAGADBbBAbIAAADCAAcICXANAbhABbYADAgplDAhTAhHABJcWZAAXATABEAC",
    "UBgRbGLIAcRAVLbQDELQCACcSAAAhEBcKMDAXRAZBMAdHdGbVcRFACCBCDDKBGIiSLDAkWbUAJAhCeHMCJEcDGOBKFI"]

def pictographs : CharSet := .unpack <| String.join [
    "gNADAlyQALAiHAVAdLFOBoCBLAdQAcRAYKDChQAiWBJAIAcFDAFALAeJJeNBKAAAAFACAFAJBOABADAAADCAAKEbSCIANANAoHBrUCSB",
    "bYADAbvTALAxCAAAgmrLjVMCbEAcHFLBNABJRcEbAOJATABIADIqREmFHkFbVeXeLLdGbQLDcDHJFbNHbDdDLbUAJAqYjVbnH"]

def extenders : CharSet := .unpack <| String.join [
    "hBAuPBbhTAqYAyFAfGAdKAbcXAeWAdnEAcDAxMApHAcPAhkIAbQEdYBdOCbqbTAcgRAbkZAVAfGAeDAUBbfzUAdbJBcfAAbAADAbvAAl",
    "GAeLBtDCbvIAbeoEBbtJBAAbqxZBbuEAbgTC"]

def hexDigitChars : CharSet := .unpack "bWJGFZFdslKJGFZF"

def graphemeLinks : CharSet := .unpack <| String.join [
    "dnPAeWAeWAeWAeWAeWAeWAeWAeEBPAeTAeGAeWAhSAgXBcpKBbDAgAAzCAiSAdWBcRBgqSAbukJAbKAfUAfLAeDAlWAjLAbjsQAchHAb",
    "OANAcEAeQBfIAeLAgXAdTAeXCeIAeWAjRAeWAeNAeLAkIAjYBgEAdEARAdCAqEAjZBdCAqIByzBA"]

def hyphens : CharSet := .unpack "bTAeWAbvVAgzYAdbCBfiAAbcKAczuKAgMAdIA"

def binaryDescribers : CharSet := .unpack "seABBJtCA"

def ternaryDescribers : CharSet := .unpack "seCB"

def unaryDescribers : CharSet := .unpack "seOB"

def mathStarts : CharSet := .unpack "mwWADAVAgjjDAYAbEAYAbEAYAbEAYAbEAYA"

def mathContinuations : CharSet := .unpack "gWBEAmaFACKAOoGADAVAgjjDAYAbEAYAbEAYAbEAYAbEAYA"

def ideographs : CharSet := .unpack <| "seWBYINCblCjtNcLbfbJbhsHoBBeBbsiJAbAjbZHbvPbOJnuKpFbdeHclfBbFgdTFiNBinPNlbKOxXdqVuVcfXhhYEgfF"

def joinControls : CharSet := .unpack "mdOB"

def orderExceptions : CharSet := .unpack "fkIEeSEedRCBAccxLBBAAB"

def combiningModifiers : CharSet := .unpack "ckIBBAfAAFACBsMBACCAbEA"

def noncharacters : CharSet := .unpack <| "dsdCbFuFBdsyNBdsyNBdsyNBdsyNBdsyNBdsyNBdsyNBdsyNBdsyNBdsyNBdsyNBdsyNBdsyNBdsyNBdsyNBdsyNB"

def otherAlphabetic : CharSet := .unpack <| String.join [
    "bhJMwDNAAABABAAcTKbVMAGPAdWGDDBBDAbIAbDPdXKdWBCIACADeBAcHLCGFTcBBBOABECJBbCCcFGBBBBJAJBbCCcFEDBBBDAbDBCA",
    "KCcFHACABUBVCDCcFGBBBBIBJBbDAcGECCACJAbNEcEGACACHBKBbCCcFGACACHBKBOALDcFGACACJAJBbCCcWFAAAHRBcIABGRAdUAB",
    "FABPAgGSIKAbJeFLAABDWDDCACBGCDMLAAJDclNBbDBbDBbDBcNShFBbHAeNLDIiNEcEJBTcVBKCbWEbVOcHCbDIBBcEKbXSpVbHgaSb",
    "FbtpZHbHBnPAHAWEdJBbXPAAcEAbLEbBLbSDbVLbKAcONLAHBbSCbXAACBBEAbREEAjCHbdzUAdeCEcmFCABEDbeHDcMAmIBdAAjYCcA",
    "NbSBKCbSIIAcICbJLRBcECbVMNBdNIBAFABAgAJWDcFGBBBBJAJBdFIAABAADABdYMACeBRjCGBGbCBdDOAAeBKdYNjWMjMFABBBCAAA",
    "fLGBFDAbBJbPEADRKbTNpQHAGdEVANeRFCAABACAACAcNEABADnJDIBAAbVGCCyyMQfjBAAcCGDdOBbdaXAnkIGAQBGABAEdVAdhUA"]

def otherIgnorable : CharSet := .unpack "bgPAfiKBckGBdhMAglHAdacOAdAIbwmiGAAbDdReXjFfiL"

def otherExtenders : CharSet := .unpack <| String.join [
    "drYAXAnTAXAdXAXAiXAAADBABIBdYAXAeOAOAdmQAbDAbnJAEAAAEBdWAcSBboHAgcUBbtwSAeDAbgnKBgwLAeLAkDANAIAdRAIABAAC",
    "EAiPALAjGAkBAyIALAchEAbeoJBbkxMBFFbtlaYdR"]

def otherIdContinue : CharSet := .unpack "hBAbbQAgaIIclBAciYBgkQAdaeIA"

def otherIdStart : CharSet := .unpack "jhLBdgIAUAfvVB"

def otherLowercase : CharSet := .unpack <| "gOAOAtGIGBbDEdRAbZAfcYAepYcKMAbHbKbaMAMAPMiCPbgPZcwNBbugJBiBAeYCCBbhHDIAbiwRABCAbPAIddzGcJ"

def otherMath : CharSet := .unpack <| String.join [
    "dQAbhWCBAZBBBkqXAbACKAbFDXBNBcMMDACBDERADABJAACEFACBBBACAFCDEEcWEBDABABAAAEBBDBDRBBAAAGAAFBlDDgLBAAXAQAr",
    "CBLIEEEBBBCENAAABFXBcEAAAbCDIBnDBbEJpMVcKDbFBdclEAAADAiCAAAdcoUdGAcSABBABBBDALAAAGAcMADBHAGAbBADAEAACGAn",
    "BBYAYAbEAYAbEAYAbEAYAbEAYAHBbXiiPDAbAABAABAAJADAAAAFADAAAAAACABAABAAAAAAAAAABAABDAGADADAAAJAQECAEAQ"]

def otherUppercase : CharSet := .unpack "mqQPbgFZgsiXZFZFZ"

def patternSigns : CharSet := .unpack <| "bHOJGZDAAZDbHGAAABAAABDADACAWAbEAluDXHOBSAJlSbbRgDyFbDbrNtReXoUCDYOAczqYBkAB"

def patternBlanks : CharSet := .unpack "JERAdVAlyLBXB"

def prependedMarks : CharSet := .unpack "chCFiGAbWAoTBdBAdvxXAOA"

def quotationMarks : CharSet := .unpack "bIADAfAAOAlwTHYBfiCArODMCdabODhGADAdLB"

def radicals : CharSet := .unpack "rpWZAdKLiF"

def regionalIndicators : CharSet := .unpack "hgoKZ"

def sentenceTerminals : CharSet := .unpack <| String.join [
    "bHALAPAcaAAfQCgXAbQCjLAcIAAACBlGBcpVBbeJADBbdSAhPBgABbSAEAmBBnPDgFBJBBBbCChEBcMBbjVAWBICeuWClTAMAVBqMAbs",
    "hVAkJBiSACAoRBdHBdQAfVBfQCfNBjOAbfcVABBcGACBgMALAPAcMAedVBbxCEbRDhGBeMDeWCeYBFAPBdJBABeDAlLBeMBoIBEOeABj",
    "OCtWAAAjQBdIBqDBbaPBcVBbcmABfCAcMBKAvGBlJAbdoFAliLA"]

def softDotted : CharSet := .unpack <| "eBBhNAkUAbDAbZATAmHAdTAAAjmMAbYAMACAfBAgAAqEAiFBegFAgelGBbXBbXBbXBbXBbXBbXBbXBbXBbXBbXBbXBbXBdfXAlSBZA"

def terminalMarks : CharSet := .unpack <| String.join [
    "bHAJAAAKBCAbfXAHAtSAcEAcTANAACgXAbQKAAjABcBFAHbEAkABbwTBgPADFlYBbeIHbdSAeTCcSBgACCAbMDBBmBBnPDgFBJBACbCC",
    "hEEcJBbjVAWBICeuWClTAMADAJAABCBqLBbshUBkICiSEoRBdHBdQAfUCfQCeWAPBjOAbfcVABBcECADgMAJAAAKBCAcMABAbpPAbVAb",
    "sNAhQAlXBfVFcPFdKDbkPEbRDhGGeHDeWCeYBFAPBdJEeDAlLBeMCLBnTDCOeABjOCtWAAAjQBdIBDBpXCbSAyUBcVBbyWEbamYBfCAc",
    "MCJAvGBlIBbdoFAliKD"]

def unifiedIdeographs : CharSet := .unpack <| "tsAjtNcLbfbJbicRBAAABJAAAABBCdveBclfBbFgdTFiNBinPNlbKOxXgrPhhYEgfF"

def variationSelectors : CharSet := .unpack "jcTCAAdjbZPbwnkXjF"

/-! ## Sets put together from others -/

def lowercase : CharSet := (inCategories ["Ll"]).union otherLowercase

def uppercase : CharSet := (inCategories ["Lu"]).union otherUppercase

def alphabetic : CharSet :=
  CharSet.unionAll [letters, inCategories ["Nl"], otherLowercase, otherUppercase, otherAlphabetic]

def cased : CharSet := CharSet.unionAll [lowercase, uppercase, inCategories ["Lt"]]

def caseIgnorable : CharSet :=
  (inCategories ["Mn", "Me", "Cf", "Lm", "Sk"]).union <| .unpack "bNAFAKAeTAbbQAsCAfRAjxIBJABAdgbAAcJABAgUAFAKA"

def changedByTitling : CharSet := (changedByRaising.diff <| .unpack "rLABABAbLAfqIbQBCfnBHHHHHLAOAbUA").union <| .unpack "rKABABAbLA"

def changedByFolding : CharSet := (changedByLowering.diff <| .unpack "hlGdH").union <| .unpack
    "gZAbOAeAAcAArKAeTAMBCBYBCApKAfmDFdfTIuIBiTHHHHHJCBAJCBAbPCBAcavFdBbeaHGLE"

def changedByCase : CharSet := CharSet.unionAll [changedByLowering, changedByRaising, changedByTitling]

def mathematical : CharSet := (inCategories ["Sm"]).union otherMath

def graphemeExtenders : CharSet := (inCategories ["Mn", "Me"]).union otherExtenders

def graphemeBases : CharSet :=
  ((inCategories ["Cc", "Cf", "Cs", "Co", "Cn", "Zl", "Zp"]).union graphemeExtenders).compl

/-- Code points that are not shown at all. -/
def ignorable : CharSet :=
  (CharSet.unionAll [inCategories ["Cf"], variationSelectors, otherIgnorable]).diff
    (CharSet.unionAll [blanks, .range 0xFFF9 0xFFFB, .range 0x13430 0x13440, prependedMarks])

/-- Characters that a name may begin with. -/
def idStart : CharSet :=
  (CharSet.unionAll [letters, inCategories ["Nl"], otherIdStart]).diff (patternSigns.union patternBlanks)

/-- Characters that a name may go on with. -/
def idContinue : CharSet :=
  (CharSet.unionAll [idStart, inCategories ["Mn", "Mc", "Nd", "Pc"], otherIdContinue]).diff
    (patternSigns.union patternBlanks)

/-- Like `idStart`, but also after normalisation. -/
def xidStart : CharSet := idStart.diff <| .unpack
    "biGAebNAeWAmvUBczeEFpPBeLAAAAAAAAAAAAAAAlAB"

/-- Like `idContinue`, but also after normalisation. -/
def xidContinue : CharSet := idContinue.diff <| .unpack
    "biGArcHBczeEFpPBeLAAAAAAAAAAAAAAA"

/-! ## Names -/

/-- The properties by their names, in small letters and without separators. -/
def properties : List (List String × CharSet) := [
    (["alpha", "alphabetic"], alphabetic), (["ahex", "asciihexdigit"], asciiHexDigits),
    (["bidic", "bidicontrol"], bidiControls), (["bidim", "bidimirrored"], bidiPaired),
    (["cased"], cased), (["ci", "caseignorable"], caseIgnorable),
    (["cwcf", "changeswhencasefolded"], changedByFolding),
    (["cwcm", "changeswhencasemapped"], changedByCase),
    (["cwl", "changeswhenlowercased"], changedByLowering),
    (["cwt", "changeswhentitlecased"], changedByTitling),
    (["cwu", "changeswhenuppercased"], changedByRaising), (["dash"], dashes),
    (["di", "defaultignorablecodepoint"], ignorable), (["dep", "deprecated"], deprecated),
    (["dia", "diacritic"], diacritics), (["emoji"], emoji), (["ecomp", "emojicomponent"], emojiComponents),
    (["emod", "emojimodifier"], emojiModifiers), (["ebase", "emojimodifierbase"], emojiBases),
    (["epres", "emojipresentation"], emojiPresented), (["extpict", "extendedpictographic"], pictographs),
    (["ext", "extender"], extenders), (["grbase", "graphemebase"], graphemeBases),
    (["grext", "graphemeextend"], graphemeExtenders), (["grlink", "graphemelink"], graphemeLinks),
    (["hex", "hexdigit"], hexDigitChars), (["hyphen"], hyphens),
    (["idcompatmathcontinue"], mathContinuations), (["idcompatmathstart"], mathStarts),
    (["idc", "idcontinue"], idContinue), (["ideo", "ideographic"], ideographs),
    (["idsb", "idsbinaryoperator"], binaryDescribers), (["ids", "idstart"], idStart),
    (["idst", "idstrinaryoperator"], ternaryDescribers), (["idsu", "idsunaryoperator"], unaryDescribers),
    (["joinc", "joincontrol"], joinControls), (["loe", "logicalorderexception"], orderExceptions),
    (["lower", "lowercase"], lowercase), (["math"], mathematical),
    (["mcm", "modifiercombiningmark"], combiningModifiers),
    (["nchar", "noncharactercodepoint"], noncharacters), (["oalpha", "otheralphabetic"], otherAlphabetic),
    (["odi", "otherdefaultignorablecodepoint"], otherIgnorable),
    (["ogrext", "othergraphemeextend"], otherExtenders), (["oidc", "otheridcontinue"], otherIdContinue),
    (["oids", "otheridstart"], otherIdStart), (["olower", "otherlowercase"], otherLowercase),
    (["omath", "othermath"], otherMath), (["oupper", "otheruppercase"], otherUppercase),
    (["patsyn", "patternsyntax"], patternSigns), (["patws", "patternwhitespace"], patternBlanks),
    (["pcm", "prependedconcatenationmark"], prependedMarks), (["qmark", "quotationmark"], quotationMarks),
    (["radical"], radicals), (["ri", "regionalindicator"], regionalIndicators),
    (["sterm", "sentenceterminal"], sentenceTerminals), (["sd", "softdotted"], softDotted),
    (["wspace", "whitespace", "space"], blanks), (["term", "terminalpunctuation"], terminalMarks),
    (["uideo", "unifiedideograph"], unifiedIdeographs), (["upper", "uppercase"], uppercase),
    (["vs", "variationselector"], variationSelectors), (["xidc", "xidcontinue"], xidContinue),
    (["xids", "xidstart"], xidStart)]

/-- The code points that have a property. -/
def property? (name : String) : Option CharSet :=
  (properties.find? fun (names, _) => names.contains name).map (·.2)

end Graft.Text
