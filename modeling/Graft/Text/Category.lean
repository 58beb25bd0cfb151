import Graft.Text.Packed

set_option autoImplicit false

/-!
# General categories

Every code point has one general category of the Unicode standard, written with two letters; the first
of them tells the family. The tables here and those of the other properties follow edition 16 of the
standard.
-/

namespace Graft.Text

/-- The categories in the order in which the table numbers them. -/
def categoryCodes : List String := [
    "Cn", "Lu", "Ll", "Lo", "Mn", "So", "Po", "Nd", "Mc", "Lm", "Sm", "No", "Sk", "Ps", "Pe", "Cf", "Nl", 
    "Sc", "Pd", "Zs", "Lt", "Me", "Pi", "Pf", "Pc", "Cc", "Zl", "Zp", "Cs", "Co"]

/-- The category of every code point. -/
def categories : Partition := .unpack <| String.join [
    "ZbFTAGCRAGCNAOAGAKAGASAGBHJGBKCGBBZNAGAOAMAYAMACZNAKAOAKAZbGTAGARDFAGAMAFADAWAKAPAFAMAFAKALBMACAGBMALADA",
    "XALCGABWKABGCXKACHBACABACABACABACABACABACABACABACABACABACABACABACABACABACABACABACABACABACABACABACABACABA",
    "CABACABACABACABACABACABACBBACABACABACABACABACABACABACABACBBACABACABACABACABACABACABACABACABACABACABACABA",
    "CABACABACABACABACABACABACABACABACABACABACABACABBCABACABACCBBCABACABBCABCCBBDCABBCABCCCBBCABBCABACABACABB",
    "CABACBBACABBCABCCABACABBCBDABACCDDBAUACABAUACABAUACABACABACABACABACABACABACABACABACBBACABACABACABACABACA",
    "BACABACABACABACBBAUACABACABCCABACABACABACABACABACABACABACABACABACABACABACABACABACABACABACABACABACABACABA",
    "CABACABACABACABACABACABACABACABACABACABACGBBCABBCBBACABDCABACABACABACABACcQDACbAJRMDJLMNJEMGJAMAJAMQEeHB",
    "ACABACAJAMABACAABJACCGABAADMBBAGABCAABAAABBCABQAABICbIBACBBCCCBACABACABACABACABACABACABACABACABACABACABA",
    "CABACEBACAKABACABBCBBbYCbVBACABACABACABACABACABACABACABACABACABACABACABACABACABACABACABACABACAFAEEVBBACA",
    "BACABACABACABACABACABACABACABACABACABACABACABACABACABACABACABACABACABACABACABACABACABACABACABACABACABACA",
    "BBCABACABACABACABACABACABACBBACABACABACABACABACABACABACABACABACABACABACABACABACABACABACABACABACABACABACA",
    "BACABACABACABACABACABACABACABACABACABACABACABACABACABACABACABACABACABACABACABACABACABACABACABACABACABACA",
    "BACABACABACAAABbLABJAGFCbOGASAABFBRAAAEbSSAEAGAEBGAEBGAEAAHDbAADDDGBAKPFKCGBRAGBFBEKGAPAGCDbFJADJEUHJGDD",
    "BEADdUGADAEGPAFAEFJBEBFAEDDBHJDCFBDAGNAAPADAEADbDEbAABDdKEKDAANHJDbGEIJBFAGCJAABEARBDVEDJAEIJAECJAEEABGO",
    "AADYECABGAAADKAEDXMADFAAPBAEEIDbOJAEXPAEbFIADcBEAIAEADAICEHIDEAIBDAEGDJEBGBHJGAJADOEAIBAADHABDBABDVAADGA",
    "ADAACDDABEADAICEDABIBABIBEADAAHIAADDBAADCEBABHJDBRBLFFARADAGAEAABEBIAAADFADDBABDVAADGAADBAADBAADBABEAAAI",
    "CEBADEBABECACEAAGDDAADAAGHJEBDCEAGAAJEBIAAADIAADCAADVAADGAADBAADEABEADAICEEAAEBIAAAIBEAABDAAODBEBABHJGAR",
    "AAGDAEFAAEAIBAADHABDBABDVAADGAADBAADEABEADAIAEAIAEDABIBABIBEAAGEBIAADDBAADCEBABHJFADALFAJEADAAADFACDCAAD",
    "DACDBAADAAADBACDBACDCACDLADIBEAIBACICAAICEAABDAAFIAANHJLCFFRAFAAEEAICEADHAADCAADWAADPABEADAECIDAAECAAEDA",
    "GEBAADCABDAABDBEBABHJAGGALGFADAEAIBGADHAADCAADWAADJAADEABEADAIAEAIEAAEAIBAAIBEBAGIBAFDBAADBEBABHJAADBIAA",
    "LEBIBDIAADCAADbOEBDAICEDAAICAAICEADAFAADDCIALGDCEBABHJLIFADFAAEAIBAADRACDXAADIAADAABDGACEAADICECAAEAAAIH",
    "AFHJABIBGAALDbVEADBEGADRADFJAEHGAHJGBAbKDBAADAAADEAADXAADAAADJEADBEIDAABDEAAJAAAEGAAHJABDDAbFDAFCGOFAGAF",
    "CEBFFHJLJFAEAFAEAFAEANAOANAOAIBDHAADbJADENIAEEGAEBDEEKAAEbJAAFHEAFFAAFBGEFDGBAbKDbQIBEDIAEFIAEBIBEBDAHJG",
    "FDFIBEBDDECDAICDBIGDCEDDMEAIBEBIFEADAIAHJICEAFBBbLAABAAEBAABCbQGAJACCDmQAADDABDGAADAAADDABDbOAADDABDbGAA",
    "DDABDGAADAAADDABDOAADcEAADDABDcOABECGILTACDPFJAFBdHABCFABSADxVFAGADQTADZNAOAACDcWGCQCDHAGDRECIAAIDSEBIAG",
    "BAIDREBALDMAADCAAEBALDbZEBIAEGIHEAIBEKGCJAGCRADAEAABHJAFLJAFGFSAGDECPAEAHJAFDbIJADcAAGDEEBDbHEADAAEDcRAJ",
    "DbEAAECIDEBICADIBEAIFECADFAACGBHJDbDABDEAKDbRADDZAFHJLAACFbHDWEBIBEAABGBDcAIAEAIAEGAAEAIAEAIBEHIFEJABEAH",
    "JAFHJAFGGJAGFABENVAEPAbWEDIADbUEAIAEEIAEAIEEAIBDHAAGBHJGGFJEIFIGCEBIADbDIAEDIBEBIAECDBHJDbREAIAEBICEAIAE",
    "CIBAHGDDbJIHEHIBEBACGEHJACDCHJDbDJFGBCIBACAAEBbQABBCGHAHECGAEMIAEGDDEADFEADBIAEBDAAECbRJcKCMJACbHJbKEcLB",
    "ACABACABACABACABACABACABACABACABACABACABACABACABACABACABACABACABACABACABACABACABACABACABACABACABACABACAB",
    "ACABACABACABACABACABACABACABACABACABACABACABACABACABACABACABACABACABACABACABACABACABACABACABACABACABACAB",
    "ACABACABACABACABACABACABACABACABACABACABACABACABACABACABACABACABACABACABACABACABACABACABACIBACABACABACAB",
    "ACABACABACABACABACABACABACABACABACABACABACABACABACABACABACABACABACABACABACABACABACABACABACABACABACABACAB",
    "ACABACABACABACABACABACABACABACABACABACABACABACABACABACABACABACABACABACABACABACIBHCFABBFABCHBHCHBHCFABBFA",
    "BCHAABAAABAAABAAABACHBHCNABCHUHCHUHCHUHCEAACBBDUAMACAMCCCAACBBDUAMCCDABCBBDAAMCCHBEMCABCCAACBBDUAMBAATKP",
    "ESFGBWAXANAWBXANAWAGHbAAbBAPETAGIWAXAGDYBGCKANAOAGKKAGAYAGJTAPEAAPJLAJAABLFKCNAOAJALJKCNAOAAAJMACRbGAOEM",
    "VDEAVCELAOFBBAFDBAFBCABCCBBCCAFABAFBKABEFFBAFABAFABAFABDFACABDCADDCAFBCBBBKEBACDFAKAFBCAFALPQbIBACAQDLAF",
    "BADKEFEKBFDKAFBKAFBKAFGKAFbEKBFBKAFAKAFbEKkHFHNAOANAOAFTKBFGNAOAFdCKAFbDKYFbNKFFcTAVFKAULcHFcZLVFhAKAFIK",
    "AFcBKHFeGKAFjNNAOANAOANAOANAOANAOANAOANAOALbDFbRKENAOAKbENAOANAOANAOANAOANAOAKPFjVKfANAOANAOANAOANAOANAO",
    "ANAOANAOANAOANAOANAOANAOAKcKNAOANAOAKbFNAOAKjXFbVKUFBKFFbMABFbFAAFeABbVCbVBACABCCBBACABACABACABDCABACBBA",
    "CFJBBCCABACABACABACABACABACABACABACABACABACABACABACABACABACABACABACABACABACABACABACABACABACABACABACABACA",
    "BACABACABACABACABACABACABACABACABACABACABACABACABACABACABACABACABACABACABACABACABACABACABACABACABACBFFBA",
    "CABACAECBACAAEGDLAGBCbLAACAAECAABDcDAGJAGAANEADWAIDGAADGAADGAADGAADGAADGAADGAADGAAEbFGBWAXAWAXAGCWAXAGAW",
    "AXAGISAGBSAGAWAXAGBWAXANAOANAOANAOANAOAGEJAGJSBGDSAGANAGMFBGCNAOANAOANAOANAOASAAbHFZAAFdKALFiFAZFPTAGCFA",
    "JADAQANAOANAOANAOANAOANAOAFBNAOANAOANAOANAOASANAOBFAQIEDIBSAJEFBQCJADAGAFBAADdHABEBMBJBDASADdLGAJCDAAEDb",
    "QAADdPAAFBLDFJDbFFbLAIFADPFbEAALJFbDLHFALOFbFLJFbMLOFmHDjtNFcLDbfcEJADbrYACFcCAIDbNJFGBDkHJAGCDPHJDBATBA",
    "CABACABACABACABACABACABACABACABACABACABACABACABACABACABACABACABACABACABACABACABACABACABACADAEAVCGAEJGAJA",
    "BACABACABACABACABACABACABACABACABACABACABACABACABACABACAJBEBDcRQJEBGFAHMWJIMBBACABACABACABACABACABACABAC",
    "CBACABACABACABACABACABACABACABACABACABACABACABACABACABACABACABACABACABACABACABACABACABACABACABACABACABAC",
    "ABACABACABACABACABACAJACHBACABACABBCABACABACABACABACAJAMBBACABACADABACABACCBACABACABACABACABACABACABACAB",
    "ACABACABACABECABECABACABACABACABACABACABACABACABDCABACABBCAABBACAAACAAACABACABACABACABAAUJCBACADAJBCADGE",
    "ADCEADDEADWIBEBIAFDEAACLFFBRAFAAFDbZGDAHIBDbXIPEBAHGBHJAFERDFGCDAGADBEAHJDbBEHGBDWEKIBAKGADbCACECIADbUEA",
    "IBEDIBEBICGMAAJAHJADGBDEEAJADIHJDEAADbOEFIBEBIBEBAIDCEADHEAIAABHJABGDDPJADFFCDAIAEAIADbXEADAECDBEBDEEBDA",
    "EADAAXDBJAGBDKIAEBIBGBDAJBIAEAAJDFABDFABDFAIDGAADGAACbQMAJDCIJAMBADCdBDbIIBEAIBEAIBGAIAEAABHJAFDqnRALDWA",
    "DDbWADbCdaTbDjmDDoBABDeBAbLCGALCEAEDAEADJKADMAADEAADAAADBAADBAADeDMQAPDnYOANAFPDcLABDcBAGFAAbFDLRAFCEPGG",
    "NAOAGAAFEPGASBYBNAOANAOANAOANAOANAOANAOANAOANAOAGBNAOAGDYCGCAAGDSANAOANAOANAOAGCKASAKCAAGARAGBADDEAADfEA",
    "BPAAAGCRAGCNAOAGAKAGASAGBHJGBKCGBBZNAGAOAMAYAMACZNAKAOAKANAOAGANAOAGBDJJADbSJBDbEACDFABDFABDFABDCACRBKAM",
    "AFARBAAFAKDFBAJPCFBABDLAADZAADSAADBAADOABDNAbHDeSAEGCADLbSACFIQcALDFQLBFCAAFMACFAAbUFbSEAAeZDbCACDbWAOEA",
    "LbAADDbFLDAIDTQADHQAAEDbLEEAEDbDAAGADbJADDHGAQEAbPBbNCbNDcZABHJAFBbJADCbJADDbNAHDbZAKGABKAABOAABGAABBAAC",
    "KAACOAACGAACBACDbZALDlYAIDVAJDHAXJFAAJbPAAJIAcQDFABDAAADbRAADBACDAABDWAAGALHDWFBLGDbEAHLIAbVDSAADBAELEDV",
    "LFACGADZAEGAAcLDcDADLBDBLPABLbTDAECAAEBAEEDDDAADCAADbCABECADEALIAGGIAGDbCLBGADbCLCAbFDHFADbBEBADLEGGAIDc",
    "BACGGDVABLHDSAELHDRAGGDALLGAdBDcUAcCBbYAMCbYAGLFDbJEDAHHJAFHJDDJADABVACEESAJACVAHKBAhZLbEAADbPAAEBSAABDB",
    "APDCAcCEDDbCLJDAAHDVEKLDGEAVDREDGDAbLDULGATDWAIIAEAIADcAEOGGADLTHJEADBEBDAAIECIADbSICEDIBEBGBPAGDEAAJPAA",
    "BDYAGHJAFECDbJEEIAEHAAHJGDDAIBDAAHDbIEAGBDAAIEBIADbVICEIIBDDGDEDGAIAEAHJDAGADAGCAALTAKDRAADYICECIBEAIAEB",
    "GFEADBEAAcJDGAADAAADDAADOAADJGAAFDbUEAICEHAEHJAFEBIBAADHABDBABDVAADGAADBAADEAAEBDAIBEAIDABIBABICABDAAFIA",
    "AEDEIBABEGACEEAKDJAADAABDAAADbLAADAICEFAAIAABIAAAIDAAIBEAIAEADAEADAGBAAGBAHEBAbCDcAICEHIBECIAEADDGEHJGBA",
    "AGAEADCAbDDbVICEFIAEAIDEBIAEBDBGADAAHHJAgJDbUICEDABIDEBIAEBGWDDEBAbHDbVICEHIBEAIAEBGCDAAKHJAFGMASDbQEAIA",
    "EAIBEFIAEADAGAAFHJAFHTAbBDbAABEAIAEAIBEDIAEEADHJLBGCFADGAhCDbRICEIIAEBGAAdVBbFCbFHJLIALDHABDAABDHAADBAAD",
    "XIFAAIBABEBIAEADAIADAIAEAGCAIHJAcRDHABDbMICEDABEBIDEADAGADAIAAbADAEJDbNEFIADAEDGHEAAHDAEFIBECDbTEMIAEBGC",
    "DAGEAMDcUAGGJAgZDbGGAANHJAFDIAADbKIAEGAAEFIAEADAGEAJHJLSACGBDbDABEVAAIAEGIAEBIAEBAcUDGAADBAADbLEFACEAAAE",
    "BAAEGDAEAAHHJAFDFAADBAADbFIEAAEBAAIBEAIAEADAAGHJAlXDSEBIBGBAGEBDAIADMAADbHIBEEACIBEAIAEAGMHJEAAdGDAAOLUF",
    "HRDFQAMGADbjLAdXQeGAAGEAKDhNAdxJDdSGBAMDbpFPPEADFEOAJDfxQAEDwKAkdCDbDELICECHJAcoRDvWAGDbEAAHJADGBDdAAAHJ",
    "AFDbDABEEGAAJDbVEGGEFDJDGAFAAJHJAALGAADUAEDSAqPJCDbNJBGCHJAhPBbFCbFLWGDAdWDcWADEADAIcCAGEDJMAcLJBGAJAEAA",
    "KIBANDjbZAHDbvPAbODJAnfQJDAAJGAAJBAADlEAODAAbCDCABDAANDDAHDpFAdkTDeCAEDMACDIAGDJABFAEBGAPDAfvFFjFHJAFFqT",
    "AcXEbTABEWAIFeLAcHFjLAJFbMABFcHIBECFCIFPHEHFBEGFbDEDFcIAUFcNECFAAeRLTALLTALFdIAILYAfEBZCZBZCGAACRBZCZBAA",
    "ABBABBAABBBABBDAABHCDAACAAACGAACKBZCZBBAABDABBHAABGAACZBBAABDAABEAABAACBGAACZBZCZBZCZBZCZBZCZBZCZBZCbBAB",
    "BYKACYKACFBYKACYKACFBYKACYKACFBYKACYKACFBYKACYKACFBACAABHbXFtREcCFDEbXFHEAFNEAFBGEAOEEAAEOAbqLCJDACTAFCF",
    "AiEEGAAEQABEGAAEBAAEEAEJcJAbGEAAeHDbSACEGJGABHJADDAFAAmHDbDEAAQDbREDHJAERAArVDbAJAEDHJAiFDbDEBDAHJADGAAs",
    "LDGAADDAADBAADOAADhOABLIEGAbOBbHCbHEGJAADHJADGBAbeELcGFALCRALDAcXLbSFALOAhLDDAADbAAADBAADAABDAAADJAADDAA",
    "DAAADAAFDAADDAAADAAADAAADCAADBAADAABDAAADAAADAAADAAADAAADBAADAABDDAADGAADDAADDAADAAADJAADQAEDCAADEAADQAb",
    "ZKBAkJFbRADFdVALFOABFOAAFOAAFbKAJLMFgEAcDFbCAMFbRADFIAGFBANFFAfXFjQMEFbbZADFQACFMACFeOADFdQAFFLADFAAOFLA",
    "DFcDAHFJAFFbNAHFbDABFLADFBAcJFnBALFNABFMACFJAEFcDAGFOABFKAFFIAGFfQAAFdNHJAbnPDclfBAbFDgdTAFDiNABDinPANDl",
    "bKAODxXAdqVDuVAcfXDhhYAEDgfFAbomxKPAAbDPdRAeXEjFAdsfNbDdsyNABbDdsyNAB"]

/-- The code points of some categories. -/
def inCategories (codes : List String) : CharSet :=
  categories.select fun n => codes.contains (categoryCodes.getD n "")

def letters : CharSet := inCategories ["Lu", "Ll", "Lt", "Lm", "Lo"]

def marks : CharSet := inCategories ["Mn", "Mc", "Me"]

def decimals : CharSet := inCategories ["Nd"]

/-- The names of the categories, in small letters and without separators, and what they stand for. -/
def categoryNames : List (List String × List String) := [
    (["c", "other"], ["Cc", "Cf", "Cn", "Co"]),
    (["cc", "control", "cntrl"], ["Cc"]),
    (["cf", "format"], ["Cf"]),
    (["cn", "unassigned"], ["Cn"]),
    (["co", "privateuse"], ["Co"]),
    (["l", "letter"], ["Lu", "Ll", "Lt", "Lm", "Lo"]),
    (["lc", "casedletter"], ["Lu", "Ll", "Lt"]),
    (["ll", "lowercaseletter"], ["Ll"]),
    (["lm", "modifierletter"], ["Lm"]),
    (["lo", "otherletter"], ["Lo"]),
    (["lt", "titlecaseletter"], ["Lt"]),
    (["lu", "uppercaseletter"], ["Lu"]),
    (["m", "mark", "combiningmark"], ["Mn", "Mc", "Me"]),
    (["mc", "spacingmark"], ["Mc"]),
    (["me", "enclosingmark"], ["Me"]),
    (["mn", "nonspacingmark"], ["Mn"]),
    (["n", "number"], ["Nd", "Nl", "No"]),
    (["nd", "decimalnumber", "digit"], ["Nd"]),
    (["nl", "letternumber"], ["Nl"]),
    (["no", "othernumber"], ["No"]),
    (["p", "punctuation", "punct"], ["Pc", "Pd", "Ps", "Pe", "Pi", "Pf", "Po"]),
    (["pc", "connectorpunctuation"], ["Pc"]),
    (["pd", "dashpunctuation"], ["Pd"]),
    (["pe", "closepunctuation"], ["Pe"]),
    (["pf", "finalpunctuation"], ["Pf"]),
    (["pi", "initialpunctuation"], ["Pi"]),
    (["po", "otherpunctuation"], ["Po"]),
    (["ps", "openpunctuation"], ["Ps"]),
    (["s", "symbol"], ["Sm", "Sc", "Sk", "So"]),
    (["sc", "currencysymbol"], ["Sc"]),
    (["sk", "modifiersymbol"], ["Sk"]),
    (["sm", "mathsymbol"], ["Sm"]),
    (["so", "othersymbol"], ["So"]),
    (["z", "separator"], ["Zs", "Zl", "Zp"]),
    (["zl", "lineseparator"], ["Zl"]),
    (["zp", "paragraphseparator"], ["Zp"]),
    (["zs", "spaceseparator"], ["Zs"])]

/-- The code points of a category by its name. -/
def category? (name : String) : Option CharSet :=
  match name with
  | "any" => some .all
  | "ascii" => some (.range 0 0x7F)
  | "assigned" => some (inCategories ["Cn"]).compl
  | _ => (categoryNames.find? fun (names, _) => names.contains name).map fun (_, codes) => inCategories codes

end Graft.Text
