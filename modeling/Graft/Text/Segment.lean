import Graft.Text.Packed

set_option autoImplicit false

/-!
# Segmentation

What the code points do where a text is divided into characters as a reader sees them, into words, and
into sentences.
-/

namespace Graft.Text

/-- The parts of `graphemeBreaks` by their names; number zero is for code points of no interest. -/
def graphemeBreaksNames : List (List String) := [
    [], ["lv"], ["lvt"], ["ex", "extend"], ["sm", "spacingmark"], ["cn", "control"], ["pp", "prepend"],
    ["v"], ["t"], ["l"], ["ri", "regionalindicator"], ["lf"], ["cr"], ["zwj"]]

/-- The role of every code point in a character as a reader sees it. -/
def graphemeBreaks : Partition := .unpack <| String.join [
    "FJLAFBMAFRAdQFbGAMFAAwVDeHAkODGAkCDbSAADAAADBAADBAADAAcDGFAJDKAAFAAbTDUAPDAAdWDGGAAADFABDBAADDAbGGAAADAA",
    "bDDbAAdMDKAcFDIAIDAAXDDAADIAADCAADEAbQDCAbZGBAEDIAbPDXGADbFEAAcBDAEADAAAECDHEDDAEBAADGAJDBAbCDAEBAcDDAAA",
    "DAEBDDABEBABEBDAAIDAAJDBAZDAABDBEAAcDDAAAECDBADDBABDCACDAAbDDBACDAAKDBEAAcDDAAAECDEAADBEAAAEBDAATDBAVDFA",
    "ADAEBAcDDAAADBEADDABEBABEBDAAGDCAJDBAbDDAAcGDAEADAEBACECAAECDAAIDAAbNDAECDAAcCDAAADCEDAADCAADDAGDBAKDBAb",
    "CDAEBAcDDAAAEADBEADAEBAADCAADDAGDBAKDBAOEAALDBEBAcCDBAADAEBDDAAECAAECDAGAAHDAAJDBAbCDAEBAcRDAADDAEBDCAAD",
    "AAAEGDAAREBAcIDAAAEADGALDHAdTDAAAEADIAKDGAcUDBAbADAAADAAADAADEBAbWDNEADEAADBAEDKAADbJAIDAAdXDDEADFAADBEB",
    "DBAWEBDBADDCAPDDAMDAAAEADBAFDAAODAAdTJdRHcTIdJAnKDCAbkJDDAbBDCAbCDBAbDDBAcLDBEADGEHDAEBDKAIDAAbSDCFADAAe",
    "MDBAbHDAAeNDCEDDBECADEBDAEFDCAiKDBEBDAAcEEADAEADGAADAAADAABDHEFDJABDAAbVDbEAbWDDEAAbUDJEDDCAbLDIALDBEAAb",
    "DEADDEBDFAcDDAEADBECDAEADEAbVEHDHEBDBAfVDCAADMEADGADDAAFDAABEADBAhPDcLAuCFADANAFBAXFGAbWFPAdRDbGAeoBDCAf",
    "KDAAdRDbFAvHDFAeADBAbsqDDDAADJAbFDBAdBDBAkLDAACDAADDAAWEBDBEAADDAAdEEBAbXEPDBAZDRAMDAAbLDHAYDKEADAALJbCA",
    "CDCEAAbUDAEBDDEBDBEBDAAbJDAAcODFEBDBEBDBALDAAHDAEAAbTDAAbYDAAADCABDBAEDBAADAAbOEADBEBAEEADAAjBEBDAEBDAEB",
    "AAEADAARBACbABACbABACbABACbABACbABACbABACbABACbABACbABACbABACbABACbABACbABACbABACbABACbABACbABACbABACbAB",
    "ACbABACbABACbABACbABACbABACbABACbABACbABACbABACbABACbABACbABACbABACbABACbABACbABACbABACbABACbABACbABACbA",
    "BACbABACbABACbABACbABACbABACbABACbABACbABACbABACbABACbABACbABACbABACbABACbABACbABACbABACbABACbABACbABACb",
    "ABACbABACbABACbABACbABACbABACbABACbABACbABACbABACbABACbABACbABACbABACbABACbABACbABACbABACbABACbABACbABAC",
    "bABACbABACbABACbABACbABACbABACbABACbABACbABACbABACbABACbABACbABACbABACbABACbABACbABACbABACbABACbABACbABA",
    "CbABACbABACbABACbABACbABACbABACbABACbABACbABACbABACbABACbABACbABACbABACbABACbABACbABACbABACbABACbABACbAB",
    "ACbABACbABACbABACbABACbABACbABACbABACbABACbABACbABACbABACbABACbABACbABACbABACbABACbABACbABACbABACbABACbA",
    "BACbABACbABACbABACbABACbABACbABACbABACbABACbABACbABACbABACbABACbABACbABACbABACbABACbABACbABACbABACbABACb",
    "ABACbABACbABACbABACbABACbABACbABACbABACbABACbABACbABACbABACbABACbABACbABACbABACbABACbABACbABACbABACbABAC",
    "bABACbABACbABACbABACbABACbABACbABACbABACbABACbABACbABACbABACbABACbABACbABACbABACbABACbABACbABACbABACbABA",
    "CbABACbABACbABACbABACbABACbABACbABACbABACbABACbABACbABACbABACbABACbABACbABACbABACbABACbABACbABACbABACbAB",
    "ACbABACbABACbABACbABACbABACbABACbABACbABACbABACbABACbABACbABACbABACbABACbABACbABACbABACbABACbABACbABACbA",
    "BACbABACbABACbABACbABACbABACbABACbABACbABACbABACbABACbABACbABACbABACbABACbABACbABACbABACbABACbABACbABACb",
    "ABACbABACbABACbABACbABACbABACbABACbABACbABACbABACbABACbABACbABACbABACbABACbABACbABACbABACbABACbABACbABAC",
    "bABACbABACbABACbABACbABACbABACbABACbABACbABACbABACbABACbABACbABACbABACbABACbABACbABACbABACbABACbABACbABA",
    "CbABACbABACbABACbABACbABACbABACbABACbABACbABACbABACbABACbABACbABACbABACbABACbABACbABACbABACbABACbABACbAB",
    "ACbABACbABACbABACbABACbABACbABACbABACbABACbABACbABACbABACbABACbABACbABACbABACbABACbABACbABACbABACbABACbA",
    "BACbABACbABACbABACbABACbABACbABACbABACbABACbABACbABACbABACbABACbABACbABACbABACbABACbABACbABACbABACbABACb",
    "ABACbABACbABACbABACbABACbABACbABACbABACbABACbABACbABACbABACbABACbABACbABACbABACbABACbABACbABACbABACbABAC",
    "bABACbABACbABACbABACbABACbAALHWADIbWAnhXDAAbcIDPAPDPAhYFAAgBDBAdBFLAtSDAAiRDAAfSDEAcmFDCAADBAEDDAbNDCADD",
    "AAgIDBAwADDAcMDEAmEDBAdADDAcRDKAbWDDAeREADAEAAcADOAbODAABDBAJDCEAAbSECDDEBDBABGAADDAAJGAAbXDCAbJDEEADHAP",
    "EBAbRDAALDBEAAbVECDIEADAAAGBAEDDAAEADAAdNECDCEBDDAFDAABDAAgADAECDHAUDBEBAcCDBAADAEADAEDABEBABEBDAAIDAAJE",
    "BABDGACDEAcODAEBDFAADAABDAAADCEAAAEBDCGADAANDBAdDECDHEBDCEADAAWDAAdCDAEBDFEADAEBDAEADBEADBAjADAEBDDABEDD",
    "BEADBAbADBAdDECDHEBDAEADBAeBDAEADAEBDHAdWDAEADAABDDEADEAjVECDIEADBAjKDAEEAAEBABDDGAEAGAEADAAfKECDDABDBED",
    "DAACEAAbBDJAbNDFEAGADDAHDAAIDFEBDCAbNGFDMEADBApOEADGAADFEADAAdDDVAAEADGEADBEADBAeRDFACDAAADBAADGGADAAcNE",
    "EAADBAAEBDAEADAAnIDBEBAIDBGAEAAbVEBDEACEBDCAWDAAhxCFPDAAFDOAqyXDLECDCAdrZDEAcGDGAboHDAAAEcCAGDDAdCDAAKDB",
    "AbdaWDBAAFDAgyTDbTABDWAuVDEACDFFHDHABDGAbDDDAfRDCAcyCDcCADDbXAHDAANDAAVDEAADOAcaHDGAADQABDGAADBAADEAdVDA",
    "AgDDGAoKDAAcIDDAtNDDAjTDBAbcHDGAeEDGAdgSKZAtMDEAbsxxNFbFDdRFeXDjFFfiLAkyuH"]

/-- The parts of `wordBreaks` by their names; number zero is for code points of no interest. -/
def wordBreaksNames : List (List String) := [
    [], ["le", "aletter"], ["extend"], ["nu", "numeric"], ["fo", "format"], ["ka", "katakana"],
    ["mn", "midnum"], ["hl", "hebrewletter"], ["ml", "midletter"], ["ex", "extendnumlet"], ["wsegspace"],
    ["mb", "midnumlet"], ["nl", "newline"], ["cr"], ["ri", "regionalindicator"], ["lf"], ["zwj"],
    ["sq", "singlequote"], ["dq", "doublequote"]]

/-- The role of every code point in a word. -/
def wordBreaks : Partition := .unpack <| String.join [
    "AJPAMBNAARKAAASAADRAADGAAALAAADJIAGAAEBZADJAAABZAJMAAbJBAABEAAGBAAAIAABBAAEBWAABbEAABsLAFBbHCeHBEAABBABB",
    "DGABAAFBAIABCAABAAABTAABdEAABfIAACGBgJAABbLABBDAABAIABbOGABAAFCbSAACAAACBAACBAACAAHHbAADHDBAIAAKEFAFGBAB",
    "CKAAEAACBbQCUDJAADAGAAABBCABdUAABACGEAAACFBBCBAACDBBDJBCABBAAOEABACABbDCbAABBdKCKBAANDJBbGCIBBABGAAABAAB",
    "CAABBVCDBACIBACCBACEARBYCCADBKAEBXAABFAAEBAECIBbPCXEACbGBcBCCBACRBACGBJCBABDJAABPCCAABHABBBABBVAABGAABAA",
    "CBDABCABACGABCBABCCBAAHCAADBBAABCCBABDJBBAJBAAACAABCCAABFADBBABBVAABGAABBAABBAABBABCAAACEADCBABCCACCAAGB",
    "DAABAAGDJCBBCCAAKCCAABIAABCAABVAABGAABBAABEABCABACHAACCAACCABBAAOBBCBABDJAIBACFAACCAABHABBBABBVAABGAABBA",
    "ABEABCABACGABCBABCCAGCCADBBAABCCBABDJAABAAPCABAAABFACBCAABDACBBAABAAABBACBBACBCACBLADCEACCCAACDABBAAFCAA",
    "NDJAPCEBHAABCAABWAABPABCABACGAACCAACDAGCBAABCABBAABBBCBABDJAPBACCAABHAABCAABWAABJAABEABCABACGAACCAACDAGC",
    "BAFBBAABBCBABDJAABBCAALCDBIAABCAABbOCBBACGAACCAACDBAAEBCCAAGBCCBABDJAJBFAACCAABRACBXAABIAABAABBGACCAADCF",
    "AACAAACHAFDJABCBAcICAABCGALCHAADJAdICAABCIAKCGAADJAbLBAAWCBAFDJAKCAAACAAACAADCBBHAABbJADCTAACBBECKAACbJA",
    "ICAAdVCTAADJALCDADCCAACCABCGACCDAMCLAACADJCDABBbLAABAAEBAABBbQAABmUAABDABBGAABAAABDABBbOAABDABBbGAABDABB",
    "GAABAAABDABBOAABcEAABDABBcOABCCAbFBPAPBdHABBFACBxVABBQKABZAEBcWACBKAGBRCDAIBSCCAKBRCBALBMAABCAACBAcLCbFA",
    "ICAABDJAbGCCEACADJAFBdKAGBECBBbHCABAAEBcRAJBbEAACLADCLAJDJAeXDJAbLBWCEAcECJAACbCABCADJAFDJAVCbEAbWCEBbUC",
    "QBHACDJAQCIALCCBbDCMBBDJBbRCNALBbJCTAHDJACBCDJBbJABBKAEBbQABBCAPCCAACUBDCABFCABBCCBAAEBhJCcLBkRABBFABBbL",
    "ABBFABBHAABAAABAAABAAABbEABBcAAABGAABAACBCAABGACBDABBFADBMAEBCAABGACKGAAKCAACAQAEBAHLBAJLAABIAMBEEJAAOJB",
    "ACGAAOJAAJKAEEAAEJAABAAMBAAPBMAbYCbGAQBAADBAABBJAABAACBEAFBAAABAAABAAABDAABKABBDAEBEADBAAQBbOAbfGBbZAcrT",
    "BiUAFBDCCBBALBbLAABAAEBAABBcDAGBAAOCABWAIBGAABGAABGAABGAABGAABGAABGAABGAACbFAbUBAArVKAADBAAbJCFAAFEAEBBA",
    "dNCBFBACFdMAAFDAEBbQAABdPAQBbFAbVFPAhZFbUAAFdJAbpdVBbsUAcOBbTABBkIACBPDJBBATBbUCDAACJAABbECBBdBCBAVBhPAB",
    "BBAABAAABHAUBPCABCCABDCABWCEADCAASBbZALCBBbXCRAJDJAFCRBFACBAAABBCADJBbBCHABBWCMALBbCACCDBbUCNANBADJAKCAA",
    "JDJAFBbOCNAIBCCABHCBABDJAbGCCAbXCAAACCABCBAECBAACAAbDBKCEABBCCBAJBFABBFABBFAIBGAABGAABcFAFBeKCHAACBABDJA",
    "FBqnRALBWADBbWAngTBGALBEAEHACAHJAAHMAAHEAAHAAAHBAAHBAAHJBdTAbGBnYARBcLABBcBAbNBLADCPGAABIAGAAKCPACJBAXJC",
    "GAAALAAAGAIAAZBEAABfEABEAAGLAADGAAALAAADJIAGAAEBZADJAAABZAKFcDCBBbEACBFABBFABBFABBCAbBECADBLAABZAABSAABB",
    "AABOABBNAbHBeSAcQBcAAfFCAAeZBbCACBbWAOCAAbEBbFAMBbDAEBbLCEAEBbDABBbJADBHAABEAbPBgBABDJAFBbJADBbJADBbNAHB",
    "bZALBKAABOAABGAABBAABKAABOAABGAABBACBbZALBlYAIBVAJBHAXBFAABbPAABIAcQBFABBAAABbRAABBACBAABBWAJBWAIBbEAcMB",
    "SAABBAJBVAJBZAcRBcDAFBBAcLBACCAACBAECDBDAABCAABbCABCCADCAAbFBbCACBbCAbIBHAABbBCBAYBcBAJBVAJBSAMBRAeFBcUA",
    "cCBbYAMBbYAMBbJCDAHDJAFDJBbBACCEAABWAjPBbPAACBACBBAPBCAcCCDBbCAJBAAHBVCKAbEBRCDAbPBUAbABWAICCBcACOAbEDJC",
    "ABBCBBAAICDBbSCKABEAADCAAJEAABBYAGDJAFCCBbJCNAADJADBACBBAAHBbICAABBAAICCBbVCNBDADCDAACBDJBAAABAAbIBRAABY",
    "CLAFCABBCAAcJBGAABAAABDAABOAABJAGBbUCLAEDJAFCDAABHABBBABBVAABGAABBAABEAACBBACGABCBABCCABBAAFCAAEBECBABCG",
    "ACCEAKBJAABAABBAAABbLAABACIAACAABCAAACDAACEBACABAAMCBAbCBcACRBDAEDJADCABCAbDBbVCTBBAABAAHDJAgJBbUCGABCIA",
    "WBDCBAbHBbVCQACBAAKDJAbLBbQCMBAAGDJAFDTAcECOADDJAhPBbRCOAdWBcLDJAUBHABBAABBHAABBAABXCFAACBABCDBACABACBAL",
    "DJAcRBHABBbMCGABCGBAAABACAAbABACJBbNCGBACDAHCAAHBACKBbTCPACBAARBcUAhQBbGAODJAFBIAABbKCHAACHBAAODJAXBbDAB",
    "CVAACNAcUBGAABBAABbLCFACCAAACBAACGBACAAHDJAFBFAABBAABbFCEAACBAACEBAAGDJAlXBSCDAICBBACABMAABbHCGACCEAMDJC",
    "AAdGBAAdABbjLAdXBeGAQBhNAdxJBdSAOBbpFEPCABFCOAJBfxQAEBwKAkdCBbDCRDJAcoRBvWAGBbEAADJAFBdAAADJAFBbDABCEAKB",
    "bVCGAIBDALDJAIBUAEBSAqPBbSACDJAhPBcLAeXBcWADCABACcCAGCDBMAcLBBAABACAAKCBAygBFDAAFGAAFBAAFAAlAFCAbXFAANFD",
    "AeaHBeCAEBMACBIAGBJACCBAAEDAgeLDJAtXCbTABCWAuVCEACCFEHCHABCGAbDCDAfRCCArABdGAABcSAABBABBAABBBABBDAABLAAB",
    "AAABGAABcMAABDABBHAABGAABbBAABDAABEAABAACBGAABnBABBYAABYAABbEAABYAABbEAABYAABbEAABYAABbEAABYAABHABDbXAtR",
    "CcCADCbXAHCAANCAAVCEAACOAbqLBbEAFBFAiECGAACQABCGAACBAACEAEBcJAbGCAAeHBbSACCGBGABDJADBAAmIBbDCAAQBbRCDDJA",
    "sBBbBCDDJAiFBbDCBBADJAsQBGAABDAABBAABOAABhOAKCGAbOBcPCGBAADDJAbtTBDAABbAAABBAABAABBAAABJAABDAABAAABAAFBA",
    "ADBAAABAAABAAABCAABBAABAABBAAABAAABAAABAAABAAABBAABAABBDAABGAABDAABDAABAAABJAABQAEBCAABEAABQAyDBZAFBZAFB",
    "ZAdNOZAtMCEAdaDDJAbsuxAEAAbDCdRAeXCjFAlecT"]

/-- The parts of `sentenceBreaks` by their names; number zero is for code points of no interest. -/
def sentenceBreaksNames : List (List String) := [
    [], ["lo", "lower"], ["up", "upper"], ["le", "oletter"], ["ex", "extend"], ["st", "sterm"],
    ["nu", "numeric"], ["cl", "close"], ["fo", "format"], ["sc", "scontinue"], ["sp"], ["at", "aterm"],
    ["se", "sep"], ["lf"], ["cr"]]

/-- The role of every code point in a sentence. -/
def sentenceBreaks : Partition := .unpack <| String.join [
    "AIKANAKBOAARKAFAHAADHCABJBLAAAGJJAADFAAACZHAAAHAACBZHAAAHAAGMAAZKAAIBAHAAAIAAGBAADBAHAADCWAACGBXAABHCABA",
    "CABACABACABACABACABACABACABACABACABACABACABACABACABACABACABACABACABACABACABACABACABACABACABACABACABACABA",
    "CABBCABACABACABACABACABACABACABACABBCABACABACABACABACABACABACABACABACABACABACABACABACABACABACABACABACABA",
    "CABACABACABACABACABACABACBBACABACABCCBBACABACBBACCBBCDBACBBACCBCCBBACBBACABACABACBBACABBCABACBBACCBACABA",
    "CBBBDACABCDDCBBACBBACBBACABACABACABACABACABACABACABACABBCABACABACABACABACABACABACABACABACABBCBBACABACCBA",
    "CABACABACABACABACABACABACABACABACABACABACABACABACABACABACABACABACABACABACABACABACABACABACABACABACABACABA",
    "CABACABACABGCBBACBBBCABACDBACABACABACABACABcQDABbJDGBBADDLANBEAGDAAADAAQEeHCABACABADAAACABAABBDAACAAFCAA",
    "ACCAACAAACBBACQAACIBbICABBCCBCCABACABACABACABACABACABACABACABACABACABACABACABECABAAACABACBBBCbYBbVCABACA",
    "BACABACABACABACABACABACABACABACABACABACABACABACABACABACABACABAAAEGCABACABACABACABACABACABACABACABACABACA",
    "BACABACABACABACABACABACABACABACABACABACABACABACABACABACABACABACABACABACBBACABACABACABACABACABACABBCABACA",
    "BACABACABACABACABACABACABACABACABACABACABACABACABACABACABACABACABACABACABACABACABACABACABACABACABACABACA",
    "BACABACABACABACABACABACABACABACABACABACABACABACABACABACABACABACABACABACABACABACABAAACbLABDAACJAABBbOFAAG",
    "EbSAAEAAAEBAAEBAAEAAHDbAADDEALIFAFJBABEKAAIAFCDbQEUGJAAGBAADBEADdUFADAEGIAAAEFDBEBAAEDDBGJDCABDAFCALIADA",
    "EADbDEbAABDdKEKDAANGJDbGEIDBABJAFADAABEAABDVEDDAEIDAECDAEEAIFAAAFAACFBAADYECADDKAEDXAADFAAIBAEEIDbPEXIAE",
    "bGDcBECDAERDAEGDJEBFBGJAADPECAADHABDBABDVAADGAADAACDDABEADAEGABEBABECDAAHEAADDBAADCEBABGJDBAJDAAAEAABECA",
    "ADFADDBABDVAADGAADBAADBAADBABEAAAEEADEBABECACEAAGDDAADAAGGJEBDCEAAKECAADIAADCAADVAADGAADBAADEABEADAEHAAE",
    "CAAECABDAAODBEBABGJAIDAEFAAECAADHABDBABDVAADGAADBAADEABEADAEGABEBABECAGECADDBAADCEBABGJAADAAPEADAAADFACD",
    "CAADDACDBAADAAADBACDBACDCACDLADEEACECAAEDABDAAFEAANGJAPEEDHAADCAADWAADPABEADAEGAAECAAEDAGEBAADCABDAABDBE",
    "BABGJAPDAECAADHAADCAADWAADJAADEABEADAEGAAECAAEDAGEBAFDBAADBEBABGJAADBEAALEDDIAADCAADbOEBDAEGAAECAAEDDAAE",
    "DCEAAGDCEBABGJAJDFAAECAADRACDXAADIAADAABDGACEAADEFAAEAAAEHAFGJABEBAMDbVEADBEGAEDGEHAAGJAbMDBAADAAADEAADX",
    "AADAAADJEADBEIDAABDEAADAAAEGAAGJABDDAbFDAAWEBAFGJAKEAAAEAAAEAHDEBDHAADbJADETAAEBDEEKAAEbJAIEAAcEDbQETDAG",
    "JFBADDFEDDDECDAECDBEGDCEDDMELDAEAGJEDABCbLAACAAECAABDbQAABADmTAADDABDGAADAAADDABDbOAADDABDbGAADDABDGAADA",
    "AADDABDOAADcEAADDABDcOABECABFAADFBAWDPAPCdHABBFACDxVAAFADQKADZHBACDcWACDKAGDREDAIDSECFBAIDREBALDMAADCAAE",
    "BALDbZEbFFBAADAADDAEAABGJAXJAFAADJAFAAAECIAEAGJAFDdKAGDEEBDbHEADAAEDcRAJDbEAAELADELAHFBGJDbDABDEAKDbRADD",
    "ZAFGJAbLDWEEADDcAEJAAEbCABEAGJAFGJAMDAFDADEbEAbWEEDbUEQDHAAFBGJFBABFBAKEIAIFCECDbDEMDBGJDbRENALDbJETACFB",
    "ACGJACDCGJDbJFBBICABAAEDbQABDCAPECAAEUDDEADFEADBECDAAEBhJEcLCABACABACABACABACABACABACABACABACABACABACABA",
    "CABACABACABACABACABACABACABACABACABACABACABACABACABACABACABACABACABACABACABACABACABACABACABACABACABACABA",
    "CABACABACABACABACABACABACABACABACABACABACABACABACABACABACABACABACABACABACABACABACABACABACABACABACABACABA",
    "CABACABACABACABACABACABACABACABACABACABACABACABICABACABACABACABACABACABACABACABACABACABACABACABACABACABA",
    "CABACABACABACABACABACABACABACABACABACABACABACABACABACABACABACABACABACABACABACABACABACABACABACABACABACABA",
    "CABACABACABACABACABACABACABACABACABICHBFABCFABBHCHBHCHBFABCFABBHAACAAACAAACAAACABHCHBNABBHCHBHCHBHCHBEAA",
    "BBCEAABAACBCAABBCEACBDABBBCDADBHCEAEBCAABBCEACKKIAEBIBACJBACHHADLAACMBIEKAAIHBAAFBAGHBFCAUKAIEAAIJAABAAK",
    "HBBAAMHBAABMAbYEbGAQCAADCAABBACCBBCCBAAACAACCEAFCAAACAAACAAACDAABACDBADDBAABBBCBAECABDADBAAQCPBPDCCABADD",
    "AoSHDAbCHBApECZBZAyAHFAGHNAdAHBAbEHJApMHVAcKHDAbFHBAtTCbVBbVCABACCBBCABACABACABACDBACABBCABHCCBACABACABA",
    "CABACABACABACABACABACABACABACABACABACABACABACABACABACABACABACABACABACABACABACABACABACABACABACABACABACABA",
    "CABACABACABACABACABACABACABACABACABACABACABACABACABACABACABACABACABACABACABACABACABBAFCABACABAECCABAAEFC",
    "ADBbLAABAAEBAABDcDAGDAAOEADWAIDGAADGAADGAADGAADGAADGAADGAADGAAEbFHNANHBABHJADFADAALFAAEHAAPFBHHAqCKAJAFA",
    "ABDCHJABHHAAHCAADIEFAADEABDEADDdHABEBABDCAADdLAADDAEDbQAADdPAQDbFAbVDPAtRDjtNAcLDbguEAcODbTAAFADkIAAFBDP",
    "GJDBATCABACABACABACABACABACABACABACABACABACABACABACABACABACABACABACABACABACABACABACABACABACABACABADAEDAA",
    "EJAADACABACABACABACABACABACABACABACABACABACABACABACABACABACABCEBDdBEBAAFAACFAAbEDIABCABACABACABACABACABA",
    "CABACABCCABACABACABACABACABACABACABACABACABACABACABACABACABACABACABACABACABACABACABACABACABACABACABACABA",
    "CABACABACABACABACABACABACABJCABACABACBBACABACABACABACABADAABCABACABADACABACABCCABACABACABACABACABACABACA",
    "BACABACABACABACEBACEBACABACABACABACABACABACABACABACDBACABACBBAABCABAAABAAABACABACABACABACAAUBCCABADABCDG",
    "EADCEADDEADWEEADEAASDbZABFBAHEBDbXERAHFBGJAFERDFACDAAADBEAGJDbBEHAAFADWEMALDbCACEDDbUENAGFBAEDAGJAFDEEAD",
    "JGJDEAADbOENAIDCEADHEBABGJACFCDWACDAECDbXEADAECDBEBDEEBDAEADAAXDCABDKEEFBDCEBAJDFABDFABDFAIDGAADGAABbQAA",
    "BNAFBdBDbIEHFAEBABGJAFDqnRALDWADDbWAmnBDoBABDeBAbLBGALBEAEDAEADJAADMAADEAADAAADBAADBAADeDAbGDnYHBAPDcLAB",
    "DcBAbNDLADEPJBFAJAAAFBHBAGEPAAJBABHPABHBAGJBLAABJAFBJAHFADJAALDEAADfEABIAAAFAAFHBABJBLAAAGJJAADFAAACZHAA",
    "AHAACBZHAAAHAAAHBFAHBJAAADcDEBDbEACDFABDFABDFABDCAbBICADDLAADZAADSAADBAADOABDNAbHDeSAcQDcAAfFEAAeZDbCACD",
    "bWAOEAAbEDbFAMDbDAEDbLEEAEDbDABDbJADDHAADEAbPCbNBbNDcZABGJAFCbJADBbJADDbNAHDbZALCKAACOAACGAACBAABKAABOAA",
    "BGAABBACDbZALDlYAIDVAJDHAXBADBBCAABbPAABIAcQDFABDAAADbRAADBACDAABDWAJDWAIDbEAcMDSAADBAJDVAJDZAcRDcDAFDBA",
    "cLDAECAAEBAEEDDDAADCAADbCABECADEAAVFBAHDbCACDbCAbIDHAADbBEBAYDcBAJDVAJDSAMDRAeFDcUAcCCbYAMBbYAMDbJEDAHGJ",
    "AFGJDFCVACEEAADABVAjPDbPAAEBACDBAPDCAcCEDDbCAJDAAHDVEKADFEAVDREDFDAbLDUAbADWAIECDcAEOFBAbCGJEADBEBDAAIED",
    "DbSEKABIAFDEAAJIAABDYAGGJAFECDbJENAAGJAAFCDAEBDAAHDbIEAABDAAIECDbVENDDFBABEDFAEBGJDAAADAAAFBAbFDRAADYELF",
    "BAAFBAAEADBEAAcJDGAADAAADDAADOAADJFAAFDbUELAEGJAFEDAADHABDBABDVAADGAADBAADEAAEBDAEGABEBABECABDAAFEAAEDEE",
    "BABEGACEEAKDJAADAABDAAADbLAADAEIAAEAABEAAAEDAAEEDAEADAFBAKEBAbCDcAERDDFBACGJADEADCAbDDbVETDBAADAAHGJAgJD",
    "bUEGABEIAAFBAEFODDEBAbHDbVEQFBAADAAKGJAbLDbQEMDAAGGJAFGTAbBDbAABEOADGJABFCAADGAhCDbREOAdWCbFBbFGJAUDHABD",
    "AABDHAADBAADXEFAAEBABEDDAEADAEBFAAAFAAIGJAcRDHABDbMEGABEGDAAADAEAAbADAEJDbNEGDAEDACFBACEAAHDAEKDbTEPAAFB",
    "DAARDcUAhQDbGAOGJAFDIAADbKEHAAEHDAFBAMGJAXDbDABEVAAENAcUDGAADBAADbLEFACEAAAEBAAEGDAEAAHGJAFDFAADBAADbFEE",
    "AAEBAAEEDAAGGJAlXDSEDFBAGEBDAEADMAADbHEGACEEFBAKGJEAAdGDAAdADbjLAdXDeGAQDhNAdxJDdSAODbpFIPEADFEOAJDfxQAE",
    "DwKAkdCDbDERGJAcoRDvWAGDbEAAGJADFBDdAAAGJAFDbDABEEFAAJDbVEGFBAGDDFAAKGJAIDUAEDSAqPDbSAAFBGJAhPCbFBbFAXFA",
    "AdYDcWADEADAEcCAGEDDMAcLDBAADAEAAKEBANDjbZAHDbvPAbODJAnfQDDAADGAADBAADlEAODAAbCDCABDAANDDAHDpFAdkTDeCAED",
    "MACDIAGDJACEBFAIDAgeLGJAtXEbTABEWAuVEEACEFIHEHABEGAbDEDAfRECArACZBZCZBGAABRCZBZCAAACBABCAABCBABCDAACHBDA",
    "ABAAABGAABKCZBZCBAACDABCHAACGAABZCBAACDAACEAACAACCGAABZCZBZCZBZCZBZCZBZCZBZCZBbBABCYAABYAABFCYAABYAABFCY",
    "AABYAABFCYAABYAABFCYAABYAABFCABAABGbXAtREcCADEbXAHEAANEAACFAAREEAAEOAbqLBJDABTAFBFAiEEGAAEQABEGAAEBAAEEA",
    "EBcJAbGEAAeHDbSACEGDGABGJADDAAmIDbDEAAQDbREDGJAsBDbBEDGJAiFDbDEBDAGJAsQDGAADDAADBAADOAADhOAKEGAbOCbHBbHE",
    "GDAADGJAbtTDDAADbAAADBAADAABDAAADJAADDAADAAADAAFDAADDAAADAAADAAADCAADBAADAABDAAADAAADAAADAAADAAADBAADAAB",
    "DDAADGAADDAADDAADAAADJAADQAEDCAADEAADQAyDCZAFCZAFCZAbwLHCAcbUGJAbnPDclfBAbFDgdTAFDiNABDinPANDlbKAODxXAdq",
    "VDuVAcfXDhhYAEDgfFAbomxKIAAbDEdRAeXEjFAlecT"]

/-- One part of a partition by its name. -/
def part? (names : List (List String)) (parts : Partition) (name : String) : Option CharSet :=
  ((List.range names.length).find? fun n => (names.getD n []).contains name).map fun n => parts.select (· == n)

end Graft.Text
