import Graft.Text.Packed

set_option autoImplicit false

/-!
# Age

The edition of the Unicode standard in which a code point was given its meaning.
-/

namespace Graft.Text

/-- The editions in order. -/
def editions : List String := [
    "1.1", "2.0", "2.1", "3.0", "3.1", "3.2", "4.0", "4.1", "5.0", "5.1", "5.2", "6.0", "6.1", "6.2",
    "6.3", "7.0", "8.0", "9.0", "10.0", "11.0", "12.0", "12.1", "13.0", "14.0", "15.0", "15.1", "16.0"]

/-- The number of the edition of every code point; those without meaning come last. -/
def ages : Partition := .unpack <| String.join [
    "AtHDDAbDDHFAGADRGCHKINAdKDEGBAbUDAAJDEGQAcRDIFAGHHEGCABDAFMJDABJBbBBAAICAAPAbBDAGbBAAAbBAATbBAAbRJAAGDAF",
    "BAADAAADAAADAAADAAREBFAGEHDDAALDAAcNDAALDAAbOJADBFBDDAcAFBABFBABFBIAAbBDBAHHBABIFFPIDJPKBLBPHbBAAbLbBBAG",
    "TAAbMTAAADAbBBPBMAbBABQHABMAJIAAIBAHCbBHAbAbBDTAAEbBKGDMAPAJEHAAAGIJEAAOAXAHAAALAAZJEASDCGCHFLAANFBAcTDB",
    "AEDAAODAAbDGBAJDEGADNbBADbDGCDbAbBBGCHbDJRDbWFAbBNIcGbBBTCKbTbBBKObBALbBbBBLAbBASKbBEXbEbBAXBbBEbAAXHMAP",
    "AMKPFQBXARHWJXKTAROQAMbAPAKAACGAAcALBARKALAAEKALBAYJBLEPAKBIBHAIBPAACbBAAHbBBABbBBAVbBAAGbBAAAbBCADbBBAA",
    "GAAGbBBABbBBACHAbBHAAbBDABbBAAEbBBAUKASBTAbBBGAAAGAbBAAFbBDABbBBAVbBAAGbBAABbBAABbBAABbBBAAbBAAEbBDABbBB",
    "ACbBCJAbBGADbBAAAbBGAOJATAbBJACbBAAGGAAAbBAACbBAAVbBAAGbBAABbBAAEbBBAJbBAACbBAACbBBAAbBOAAGCbBBAJMAGAbBG",
    "QASFbBAACbBAAHbBBABbBBAVbBAAGbBAABbBAGAADbBBAHJAbBBABbBBACbBGWAABbBDABbBAACJBbBBAKGALFbBJABbBAAFbBCACbBA",
    "ADbBCABbBAAAbBAABbBCABbBCACbBCAHHAACbBDAEbBCACbBAADbBBJAbBFAAbBNHAALGHbBEPAACTAAHbBAACbBAAWbBAAJPAAEbBBX",
    "AJAAGbBAACbBAADbBGABbBAJBQAbBBXAbBBABJBbBBAJbBGUAJHRAPAABTAAHbBAACbBAAWbBAAJbBAAEbBBGBAGbBAACbBAADbBGABb",
    "BFXAAAbBAABIBbBBAJbBAIBYAbBLSAPAABWAAHbBAACbBAAWLAAPLASBJAAFJAbBAACbBAADLARAbBDRCAARGQAABJBbBBAJJFRCJGbB",
    "AWADBbBADRbBCDXbBADIbBADAbBBDGbBCDAbBDDFbBADAbBADHbBFPJbBBDCbBLAcFbBDAbCbBbKABbBAAAbBAUAABUAAAbBAUAAAUFA",
    "DUAAGUAACbBAAAbBAAAUBABUAAMUAACbBBAEbBAAAbBAAFYAbBAAJbBBABMBbBbFBcTbBABbGDAJBbBDBbALDBFDABAbBABUDCBGDABA",
    "DCbBADObBAJADAHBJCKDLBbBbKDbHJADEJADBJADGJCDDJFDZJcLKDJBAbLbBAMAbBEMAbBBAbMFBHBAAHAMCAdLKEAcPKEAdDKFDGHA",
    "DcKHADAbBADDbBBDGbBADAbBADDbBBDbMHADAbBADDbBBDbEHADAbBADDbBBDGbBADAbBADDbBBDGHADGbBADWHADbEHADAbBADDbBBD",
    "GHADbMHADSbBBLBHBDbBbBCHZbBFDdGQAbBBQFbBBKADyFKIDbCbBCDdCPHbBGFMXAFGXAbBIXAFWbBIFTbBLFMbBAFCbBAFBbBLDdOG",
    "AbBBDJbBFGJbBFDOXADJbBFDdJTAbBGDbPJAbBEKcRbBJGbCPBbBAGLbBDGLbBDGAbBCGbPbBBGEbBKHbPKBbBDHZbBFHJKAbBCHBGbF",
    "HbBbBBHBKcKbBAKbCbBBKKbBFKJbBFKNbBBPOWBXNbBbWIcXXAbBAbABIbSXBbAAJbQMCJLMFLbZbBHLDJcDbBCJObBCJbYRIbABbBET",
    "bQbBBTCMHbBHKbIMDSAPBUAbBEGeDHdJIGJbBPOSDXARALAKAIBAfYBAJDAdLJFAVbBBAFbBBAbLbBBAFbBBAHbBAAAbBAAAbBAAAbBA",
    "AbEbBBAcAbBAAObBAANbBBAFbBAASbBBACbBAAIbBAAbUDAAWFADFFEGBHBFAHGFEJAbBAODAGFAbBBAbAbBAHELHbBCAKBACADCFBHD",
    "KCLANAPCQASAXAbBOARDBFGHAIDJAbBOAcEDBGAHAFOHAIBJAKCAbVDAIAJDKAQBbBDAdMDIFLAjHFNAADAAeQDAFADbDFbZGBHKILKA",
    "LKPGRDSAAbKDBbACbBVAKbBUAfIFTGAAfTFJAdBDHFHATGBFBHADAAdHDBFLHBFJGHHKJAKBGBHPIAJJKCJDKJLAKSLAKALDKXPAADLA",
    "ADLBAbBLAAbILAAALAADLCAAKAAGLBAGFNAbELCAXLAANLAHGIDMAJAMALBFbBJDFPDjVFtRGNHFIGJEIDJbOPCJEKEPZbBBPbFbBAWA",
    "PbHTCPLUAPHSATYQDTOUAHbUXAHbUXAIMJCKAJCIDJFKBHeCKGMBbBEHbSbBAMAbBEMAbBBHcBMBbBGHALAbBNLAHWbBIHGbBAHGbBAH",
    "GbBAHGbBAHGbBAHGbBAHGbBAHGbBAJbFHXJDHBJSKAMJPGRBSETEUAWCXKbBbHDZbBADdKbBLDiFbBZDLZDAcDDCFCDAAAbBAAdFFBbB",
    "BAFFBAdPFAbBEAbNJASATAbBAAdPbBAAPDXLCWEHPJTbABbBIZAFPAbCGBbBAAbJKLGAFOAbBGBHAAbXFOALGDAbUVAAeOGDAdUGBAbE",
    "GADjtDWJGcLAbexXHVJHKHMAQISUTEWMXCDbsUbBCDRFBDPFADLFADCFADAbBIKbVJlNbBTJbFLBJRMHJbBPFQAMAKdJbBHHWIDJEIBJ",
    "eCLBQALBMBPLLJMAPCRATAPBQFTBUFXBUEWDbACbBBXBbBAXAbBAXEbACbBUXCWBPAMBLAJEHbRWAbBCKJbBFIcDbBHJcQRAbBHJLbBF",
    "KbBQBTBJdFbBKJAKbCbBCKcZbBAKKbBDKBPbEbBAJcCbBIJNbBBJJbBBJDKbBPDKcObBXKEMWbBJLFbBBLFbBBLFbBILGbBALGbBAPbV",
    "QDPBUBWDbBDQdBKbTbBBKJbBFBqnRbBLKWbBDKbWbBDBdaTAjxTMBFcGKCbBBHeBbBbLAGbBLAEbBEDAAYbBAAEbBAAAbBAABbBAABbB",
    "AAeDLPXAbBPAoAXPAcLbBBAcBbBGXAEbFALFAGAXBFPHJbBFADJCPGQBAUFBGBAJbBAASbBAADbBDACFAAAbBAAfEbBBAAbBAAdPFBAd",
    "PbBCAFbBBAFbBBAFbBBACbBCAGbBAAGbBJDCCAACGLbBAGZbBAGSbBAGBbBAGObBBGNbBbHGeSbBEGCbBDGbSbBCGIHcWPBRBbBAJLWA",
    "bBCPAbBbUJbTbBeZJbCbBCJbWbBOPbBbBDEbEPAEDbBISCEbAbBEPbQbBEGbDbBAGAHbJbBDHNbBbPEbLGBEbLGdBbBBGJbBFRbJbBDR",
    "bJbBDPbNbBHPbZbBKPAXKbBAXObBAXGbBAXBbBAXKbBAXObBAXGbBAXBbBCbAbZbBLPlYbBIPVbBJPHbBXXFbBAXbPbBAXIbBcQGFbBB",
    "GAbBAGbRbBAGBbBCGAbBBGAKVbBAKIPcKbBHPIbBbVQSbBAQBbBEQEIZKBbBCIAJZbBEJAbBcLMcDbBDQBMBQPbBBQbTHDbBAHBbBEHH",
    "bBAHCbBAHbATBbBBHCbBDHITAbBGHIbBGKbFPbFbBbFPbMbBDPLbBIKcBbBCKbCbBBKbAbBEKHPRbBGPDbBLPGbBdBKcUbBcCQbYbBMQ",
    "bYbBGQFTbNbBHTJbBFbAbLbBCbAbCbBHbABbBhZKbEbBAWbPbBAWCbBBWBbBPbACbBcCbAAYCTbNbBHTbPbBVXZbBbLWbBbBTUWbBILc",
    "ZbBDLbDXFbBIPAKcNXAbBJTAbBBMYbBGMJbBFMcAbBAMNTCWAbBHPbMbBIMcUQDPAWBMJPAQEbBAPTbBKPRbBAPbQRAYCbBcJQGbBAQA",
    "bBAQDbBAQObBAQKbBFPcGbBEPJbBFQAPCbBAPHbBBPBbBBPVbBAPGbBAPBbBAPEbBATAPIbBBPBbBBPCbBBQAbBFPAbBEPGbBBPGbBCP",
    "EbBKbAJbBAbAAbBBbAAbBAbAbLbBAbAJbBAbAAbBBbAAbBAbADbBAbAJbBAbABbBHbABbBbCRdLWARAbBARATAUAWBbBbDPcTbBHPJbB",
    "gJPcBbBBPRQTbBbHPcQbBKPJbBFRMbBSMcDUAXAbBFMJbBFbATbBbBQZTAbBBQObBDQPXGbBhCTcHbBdVPdEbBLPAWGbBBWAbBBWHbBA",
    "WBbBAWbDbBAWBbBBWLbBIWJbBcRUHbBBUbTbBBUKbBbAScTbBHSbZUBSWTASEbBMXPPcEbBGYJbBgZbAbHbBNbAJbBFRIbBARbSbBARN",
    "bBJRbCbBCRbFbBBRVbBARNbBcUSGbBASBbBASbRbBCSAbBASBbBASIbBHSJbBFTFbBATBbBATbKbBATBbBATFbBGTJbBlXTYbBGYQbBA",
    "YbObBCYbBbAAbBdGWAbBOUbXbBMUAIbhUPbPQAbBdXIdUPLbBAIDPAbBKQhNbBdxJXdUbBMKbpEYAUIYbCbBJbAfxQbBEQwKbBkdCbAc",
    "FbBcoRLvWbBGPbEbBAPJbBDPBXdAbBAXJbBFPbDbBBPFbBJPcRbBJPJbBAPGbBAPUbBEPSbBqPbAcFbBhPTdMbBdWMcQUFbBDUAMbUUI",
    "bBGMQbBcLRASAUBWAbBKWBbBNRjbOTEUFbBHRbdAWsObBbObAAWIbBnfQXDbBAXGbBAXBbBALBSkYXDbBOYAbBbCUCbBBYAbBNUDbBHS",
    "pFbBdkTPeCbBEPMbBCPIbBGPJbBBPHbBfvFbAjPbBFbAqTbBcXXbTbBBXWbBIXeLbBcHEjLbBJEbMbBBJAEgXQKXBbBUHcRbBeRYTbBL",
    "TTbBLGdIbBIIRTGbBfEEdGbBAEcSbBAEBbBBEAbBBEBbBBEDbBAELbBAEAbBAEDGAEBbBAEcMbBAEDbBBEHbBAEGbBAEbBbBAEDbBAEE",
    "bBAEAbBCEGbBAEmZHBbBBElDIBbBBEbXQzBbBOQEbBAQObBbqLXbEbBFYFbBiERGbBARQbBBRGbBARBbBAREbBEYcJbBbGYAbBeHUbSb",
    "BCUNbBBUJbBDUBbBmHXbEbBQUcFbBEUAbBrVYbPbBiFbAbQbBDbAAbBsLXGbBAXDbBAXBbBAXObBAPhObBBPPbBbORcWUAbBDRJbBDRB",
    "bBbeETcPbBcXUcIbBhLMDbBAMbAbBAMBbBAMAbBBMAbBAMJbBAMDbBAMAbBAMAbBFMAbBDMAbBAMAbBAMAbBAMCbBAMBbBAMAbBBMAbB",
    "AMAbBAMAbBAMAbBAMAbBAMBbBAMAbBBMDbBAMGbBAMDbBAMDbBAMAbBAMJbBAMQbBEMCbBAMEbBAMQbBbZMBbBkJJbRbBDJdVbBLLObB",
    "BLNPAbBALObBALOPVbBJKKPBWCKbETALAKALKKALAKALBKALCKALCKELHKALGKALJMBUAWCLIKALAKBLBKALJKDLBKALJRRWAbBcDLZK",
    "ALBbBMKbHLIRAbBDKIbBGLBbBNSFbBfXLbGPLQCLFPALcRPAQBLTPLLbKPALEPDQEPLLQPGQHLcKPALAPALgZPALDPBQALcJPBMDPGQE",
    "LXPRRAPbORAPdHLEMALPMALCMALAMALAMALAMALCMALFMBLDMALAMBLDMALLPBQBLKPbVLcRPJQARBSBUAWBbBDYAXCPMbBCPDRCSBTA",
    "UAWBbBCLeLYCbBDYEPdGTDYAbBFULbBDXAbBOPLbBDPcDbBHPJbBFPbNbBHPbDbBBWBbAJbBDbABbBcJSLWAUCQIRFSARHSHRASBRLUA",
    "RLSATCROSMTEUAWATDWBXATAUATDQERMSFTKWBUFWCUBTJUFQATBUHWAXAUCSWTYUdFbBLTNbBBUDWAYCUCXBbBCUCWDYBbAAbBEbAAU",
    "FWSXDYCWGXDYCbAAYAWCXCbAAbBGYBWGXCYBbAAbBBbAAXHYAbAAbBFXGYBbBGWfQbBAWcCbAbKWJbBbnNBBEcleSWGXBbBbFKgdOXDY",
    "AbBFLiNbBBQinPbBNSlbKbBOZxXbBdqVEuVbBcfVBBWhhYbBEYgfFbBdflDBBbBdsyNBBbBdsyNBBbBdsyNBBbBdsyNBBbBdsyNBBbBd",
    "syNBBbBdsyNBBbBdsyNBBbBdsyNBBbBdsyNBBbBAEAbBbDEdRbBeXGjFbBdsfLBhlxH"]

/-- The code points that have had a meaning since an edition, which is written with a point or, behind the
letter V, without. -/
def age? (name : String) : Option CharSet :=
  ((List.range editions.length).find? fun n =>
    let edition := editions.getD n ""
    name == edition || name == "v" ++ String.ofList (edition.toList.filter Char.isDigit)).map fun n =>
      ages.select (· ≤ n)

end Graft.Text
