/-!
# Names of pictographs

Game pieces, enclosed letters and pictographs.
-/

namespace ScriptBundle.Text.CharacterName

def pictographNames : List String :=
    ["1f000:MAHJONGTILEEASTWINDiSOUTHWINDjWESTWINDiNORTHWINDjREDDRAGONjGREENDRAGONlWHITEDRAGONlONE",
     "OFCHARACTERSpTWOOFCHARACTERSoHREEOFCHARACTERSrFOUROFCHARACTERSpIVEOFCHARACTERSqSIXOFCHARACTE",
     "RSoEVENOFCHARACTERSrEIGHTOFCHARACTERSrNINEOFCHARACTERSqONEOFBAMBOOSmTWOOFBAMBOOSlHREEOFBAMBO",
     "OSoFOUROFBAMBOOSmIVEOFBAMBOOSnSIXOFBAMBOOSlEVENOFBAMBOOSoEIGHTOFBAMBOOSoNINEOFBAMBOOSnONEOFC",
     "IRCLESmTWOOFCIRCLESlHREEOFCIRCLESoFOUROFCIRCLESmIVEOFCIRCLESnSIXOFCIRCLESlEVENOFCIRCLESoEIGH",
     "TOFCIRCLESoNINEOFCIRCLESnPLUMeORCHIDgBAMBOOgCHRYSANTHEMUMnSPRINGfUMMERgAUTUMNgWINTERgJOKERfB",
     "ACK 1f030:DOMINOTILEHORIZONTALBACKe0000b1b2b3b4b5b6d100b1b2b3b4b5b6d200b1b2b3b4b5b6d300b1b2b",
     "3b4b5b6d400b1b2b3b4b5b6d500b1b2b3b4b5b6d600b1b2b3b4b5b6oVERTICALBACKe0000b1b2b3b4b5b6d100b1b",
     "2b3b4b5b6d200b1b2b3b4b5b6d300b1b2b3b4b5b6d400b1b2b3b4b5b6d500b1b2b3b4b5b6d600b1b2b3b4b5b6 1f",
     "0a0:PLAYINGCARDBACKeACEOFSPADESlTWOOFSPADESkHREEOFSPADESnFOUROFSPADESlIVEOFSPADESmSIXOFSPADE",
     "SkEVENOFSPADESnEIGHTOFSPADESnNINEOFSPADESmTENOFSPADESlJACKOFSPADESmKNIGHTOFSPADESoQUEENOFSPA",
     "DESnKINGOFSPADES 1f0b1:PLAYINGCARDACEOFHEARTSlTWOOFHEARTSkHREEOFHEARTSnFOUROFHEARTSlIVEOFHEA",
     "RTSmSIXOFHEARTSkEVENOFHEARTSnEIGHTOFHEARTSnNINEOFHEARTSmTENOFHEARTSlJACKOFHEARTSmKNIGHTOFHEA",
     "RTSoQUEENOFHEARTSnKINGOFHEARTSmREDJOKER 1f0c1:PLAYINGCARDACEOFDIAMONDSnTWOOFDIAMONDSmHREEOFD",
     "IAMONDSpFOUROFDIAMONDSnIVEOFDIAMONDSoSIXOFDIAMONDSmEVENOFDIAMONDSpEIGHTOFDIAMONDSpNINEOFDIAM",
     "ONDSoTENOFDIAMONDSnJACKOFDIAMONDSoKNIGHTOFDIAMONDSqQUEENOFDIAMONDSpKINGOFDIAMONDSoBLACKJOKER",
     " 1f0d1:PLAYINGCARDACEOFCLUBSkTWOOFCLUBSjHREEOFCLUBSmFOUROFCLUBSkIVEOFCLUBSlSIXOFCLUBSjEVENOF",
     "CLUBSmEIGHTOFCLUBSmNINEOFCLUBSlTENOFCLUBSkJACKOFCLUBSlKNIGHTOFCLUBSnQUEENOFCLUBSmKINGOFCLUBS",
     "lWHITEJOKERkFOOLeTRUMP1b2b3b4b5b6b7b8b9b10b1b2b3b4b5b6b7b8b9c20b1 1f100:DIGITZEROFULLSTOPiCO",
     "MMAjONECOMMAiTWOCOMMAhHREECOMMAkFOURCOMMAiIVECOMMAjSIXCOMMAhEVENCOMMAkEIGHTCOMMAkNINECOMMAmN",
     "GBATCIRCLEDSANSSERIFDIGITZEROzNEGATIVECIRCLEDSANSSERIFDIGITZERO 1f10d:CIRCLEDZEROWITHSLASHnA",
     "NTICLOCKWISEARROWsDOLLARSIGNWITHOVERLAIDBACKSLASH 1f110:PARENTHESIZEDLATINCAPITALLETTERAbBbC",
     "bDbEbFbGbHbIbJbKbLbMbNbObPbQbRbSbTbUbVbWbXbYbZ 1f12a:TORTOISESHELLBRACKETEDLATINCAPITALLETTE",
     "RS 1f12b:CIRCLEDITALICLATINCAPITALLETTERCbRzCDcWZiOPYLEFTSYMBOLoSQUAREDLATINCAPITALLETTERAbB",
     "bCbDbEbFbGbHbIbJbKbLbMbNbObPbQbRbSbTbUbVbWbXbYbZtHVcMVcSDbScPPVdWCjNEGATIVECIRCLEDLATINCAPIT",
     "ALLETTERAbBbCbDbEbFbGbHbIbJbKbLbMbNbObPbQbRbSbTbUbVbWbXbYbZ 1f16a:RAISEDMCSIGNfDSIGNfRSIGNmC",
     "IRCLEDCCbWITHOVERLAIDBACKSLASHwHUMANFIGUREsNEGATIVESQUAREDLATINCAPITALLETTERAbBbCbDbEbFbGbHb",
     "IbJbKbLbMbNbObPbQbRbSbTbUbVbWbXbYbZ 1f18a:CROSSEDNEGATIVESQUAREDLATINCAPITALLETTERP 1f18b:NE",
     "GATIVESQUAREDICcPAcSAcABcWCrSQUAREDJbCLbOOLeFREEeIDcNEWcGcOKcSOSdUPWITHEXCLAMATIONMARKvVScTH",
     "REEDgSECONDSCREENmTWOKeFOURKfEIGHTKgFIVEPOINTONEmSEVENPOINTONEnTWENTYTWOPOINTTWOrSIXTYPgONEH",
     "UNDREDTWENTYPrLATINSMALLLETTERDrHCbDRcIRESfLOSSLESSiSHVdUHDdVODkMASKWORKSYMBOL 1f1e6:REGIONA",
     "LINDICATORSYMBOLLETTERAbBbCbDbEbFbGbHbIbJbKbLbMbNbObPbQbRbSbTbUbVbWbXbYbZ 1f200:SQUAREHIRAGA",
     "NAHOKAmDKATAKANAKOKOeSA 1f210:SQUAREDCJKUNIFIEDIDEOGRAPH624Be5B57d3CCxKATAKANADEkCJKUNIFIEDI",
     "DEOGRAPH4E8Ce591Ae89E3e5929e4EA4e6620e7121e6599e524DdF8Cd18De65B0e521De7D42d51Fe8CA9e58F0d43",
     "9e6F14d295d355e4E00b9e904Ae5DE6e4E2De53F3e6307e8D70e6253e7981dA7Ae5408e6E80d709b8e7533e5272d",
     "5B6e914D 1f240:TORTOISESHELLBRACKETEDCJKUNIFIEDIDEOGRAPH672Ce4E09c8Ce5B89e70B9e6253e76D7e52D",
     "De6557 1f250:CIRCLEDIDEOGRAPHADVANTAGEiCCEPT 1f260:ROUNDEDSYMBOLFORFUcLUcSHOUeXIcSHUANGXIiCA",
     "I 1f300:CYCLONEhFOGGYfCLOSEDUMBRELLAoNIGHTWITHSTARSoSUNRISEOVERMOUNTAINSnhCITYSCAPEATDUSKpSU",
     "NSETOVERBUILDINGStRAINBOWhBRIDGEATNIGHTnWATERWAVEjVOLCANOhMILKYWAYiEARTHGLOBEEUROPEAFRICAmAM",
     "ERICAShSIAAUSTRALIAxGLOBEWITHMERIDIANSsNEWMOONSYMBOLnWAXINGCRESCENTMOONSYMBOLyFIRSTQUARTERMO",
     "ONSYMBOLwWAXINGGIBBOUSMOONSYMBOLxFULLMOONSYMBOLoWANINGGIBBOUSMOONSYMBOLxLASTQUARTERMOONSYMBO",
     "LvWANINGCRESCENTMOONSYMBOLyCRESCENTMOONmNEWMOONWITHFACEpFIRSTQUARTERMOONWITHFACEyLASTQUARTER",
     "MOONWITHFACExFULLMOONWITHFACEqSUNWITHFACElGLOWINGSTARlSHOOTINGSTARmTHERMOMETERlBLACKDROPLETm",
     "WHITESUNaWITHSMALLCLOUDoBEHINDCLOUDaWITHRAIN 1f327:CLOUDWITHRAINeSNOWeLIGHTNINGjTORNADOqFOGd",
     "WINDBLOWINGFACEpHOTDOGgTACOeBURRITOhCHESTNUTiSEEDLINGiEVERGREENTREEnDECIDUOUSTREEnPALMTREEiC",
     "ACTUSgHOTPEPPERjTULIPfCHERRYBLOSSOMnROSEeHIBISCUSiSUNFLOWERjBLOSSOMhEAROFMAIZEfRICEjHERBeFOU",
     "RLEAFCLOVERoMAPLELEAFjFALLENLEAFkLEAFFLUTTERINGINWINDuMUSHROOMiTOMATOgAUBERGINEjGRAPESgMELON",
     "fWATERMELONkTANGERINEjLEMONfBANANAgPINEAPPLEjREDAPPLEiGREENAPPLEkPEARbCHfCHERRIESiSTRAWBERRY",
     "kHAMBURGERjSLICEOFPIZZAmMEATONBONEkPOULTRYLEGkRICECRACKERhBALLiCOOKEDRICEjURRYANDRICEmSTEAMI",
     "NGBOWLlPAGHETTIjBREADfFRENCHFRIESlROASTEDSWEETPOTATOsDANGOfODENeSUSHIfFRIEDSHRIMPkISHCAKEWIT",
     "HSWIRLDESIGNxSOFTICECREAMlHAVEDICEjICECREAMiDOUGHNUTiCOOKIEfHOCOLATEBARlANDYfLOLLIPOPiCUSTAR",
     "DhHONEYPOTiSHORTCAKEjBENTOBOXiPOTOFFOODjCOOKINGhFORKANDKNIFEmTEACUPWITHOUTHANDLEtSAKEBOTTLEA",
     "NDCUPqWINEGLASSjCOCKTAILGLASSnTROPICALDRINKnBEERMUGhCLINKINGBEERMUGSqBABYBOTTLEkFORKANDKNIFE",
     "WITHPLATEvBOTTLEWITHPOPPINGCORKvPOPCORNhRIBBONgWRAPPEDPRESENToBIRTHDAYCAKEmJACKOLANTERNmCHRI",
     "STMASTREEnFATHERCHRISTMASoIREWORKSaPARKLERqBALLOONhPARTYPOPPERlCONFETTIBALLmTANABATATREEmCRO",
     "SSEDFLAGSmPINEDECORATIONoJAPANESEDOLLSnCARPSTREAMERmWINDCHIMEjMOONVIEWINGCEREMONYtSCHOOLSATC",
     "HELnGRADUATIONCAPnHEARTWITHTIPONTHELEFTvBOUQUETOFFLOWERSqMILITARYMEDALnREMINDERRIBBONoMUSICA",
     "LKEYBOARDWITHJACKSySTUDIOMICROPHONEqLEVELSLIDERlCONTROLKNOBSmBEAMEDASCENDINGMUSICALNOTESvDES",
     "CENDINGMUSICALNOTES 1f39e:FILMFRAMESkADMISSIONTICKETSqCAROUSELHORSEnFERRISWHEELlROLLERCOASTE",
     "RnFISHINGPOLEANDFISHsMICROPHONEjOVIECAMERAlCINEMAgHEADPHONEjARTISTPALETTEnTOPHATgCIRCUSTENTk",
     "TICKETgCLAPPERBOARDmPERFORMINGARTSoVIDEOGAMEjDIRECTHITjSLOTMACHINElBILLIARDSjGAMEDIEhBOWLING",
     "hFLOWERPLAYINGCARDSsMUSICALNOTEjLTIPLEMUSICALNOTESuSAXOPHONEjGUITARgMUSICALKEYBOARDpTRUMPETh",
     "VIOLINgMUSICALSCOREmRUNNINGSHIRTWITHSASHuTENNISRACQUETANDBALLuSKIANDSKIBOOTnBASKETBALLANDHOO",
     "PrCHEQUEREDFLAGnSNOWBOARDERlRUNNERgSURFERfPORTSMEDALlTROPHYgHORSERACINGlAMERICANFOOTBALLqRUG",
     "BYFOOTBALLnSWIMMERhWEIGHTLIFTERmGOLFERgRACINGMOTORCYCLEkCARjCRICKETBATANDBALLrVOLLEYBALLkFIE",
     "LDHOCKEYSTICKANDBALLxICEHOCKEYSTICKANDPUCKvTABLETENNISPADDLEANDBALLySNOWCAPPEDMOUNTAINsCAMPI",
     "NGhBEACHWITHUMBRELLAqUILDINGCONSTRUCTIONuHOUSEBUILDINGSoCITYSCAPEjDERELICTHOUSEBUILDINGvCLAS",
     "SICALBUILDINGrDESERTaISLANDmNATIONALPARKmSTADIUMhHOUSEBUILDINGiWITHGARDENpOFFICEBUILDINGoJAP",
     "ANESEPOSTOFFICEsEUROPEANPOSTOFFICEsHOSPITALiBANKeAUTOMATEDTELLERMACHINEwHOTELfLOVEHOTELjCONV",
     "ENIENCESTOREqSCHOOLgDEPARTMENTSTOREpFACTORYhIZAKAYALANTERNoJAPANESECASTLEoEUROPEANCASTLEoWHI",
     "TEPENNANTmBLACKPENNANTmWAVINGWHITEFLAGjBLACKFLAGpROSETTEhBLACKROSETTEmLABELfBADMINTONRACQUET",
     "ANDSHUTTLECOCK 1f3f9:BOWANDARROWlAMPHORAhEMOJIMODIFIERFITZPATRICKTYPE12c3b4b5b6 1f400:RATdMO",
     "USEfOXcWATERBUFFALOmCOWdTIGERfLEOPARDhRABBITgCATdDRAGONgCROCODILEjWHALEfSNAILcKEfHORSEfRAMdG",
     "OATeSHEEPfMONKEYgROOSTERhCHICKENhDOGdPIGdBOAReELEPHANTiOCTOPUShSPIRALSHELLlBUGdANTdHONEYBEEi",
     "LADYBEETLEkFISHeTROPICALFISHmBLOWFISHiTURTLEgHATCHINGCHICKnBABYCHICKjFRONTFACINGBABYCHICKuBI",
     "RDePENGUINhKOALAfPOODLEgDROMEDARYCAMELoBACTRIANCAMELnDOLPHINhMOUSEFACEjCOWFACEhTIGERFACEjRAB",
     "BITFACEkCATFACEhDRAGONFACEkSPOUTINGWHALEnHORSEFACEjMONKEYFACEkDOGFACEhPIGFACEhFROGFACEiHAMST",
     "ERFACElWOLFFACEiBEARFACEiPANDAFACEiIGNOSEgAWPRINTSjCHIPMUNKiEYESbcARdNOSEeMOUTHfTONGUEgWHITE",
     "UPPOINTINGBACKHANDINDEXxDOWNPOINTINGBACKHANDINDEXzLEFTPOINTINGBACKHANDINDEXzRIGHTPOINTINGBAC",
     "KHANDINDEX 1f44a:FISTEDHANDSIGNoWAVINGHANDSIGNoOKHANDSIGNkTHUMBSUPSIGNgDOWNSIGNoCLAPPINGHAND",
     "SSIGNrOPENHANDSSIGNnCROWNfWOMANSHATjEYEGLASSESkNECKTIEhTSHIRTgJEANSfDRESSfKIMONOgBIKINIgWOMA",
     "NSCLOTHESnPURSEfHANDBAGhPOUCHfMANSSHOEiATHLETICSHOEmHIGHHEELEDSHOEoWOMANSSANDALgBOOTSlFOOTPR",
     "INTSkBUSTINSILHOUETTEmSINSILHOUETTEqOYdGIRLeMANdWOMANfFAMILYgMANANDWOMANHOLDINGHANDSxTWOMENH",
     "OLDINGHANDSpWOMENHOLDINGHANDSuPOLICEOFFICERnWOMANWITHBUNNYEARSsBRIDEWITHVEILnPERSONWITHBLOND",
     "HAIRtMANWITHGUAPIMAOiTURBANnOLDERMANdWOMANkBABYeCONSTRUCTIONWORKERsPRINCESSiJAPANESEOGREeGOB",
     "LINoGHOSTfBABYANGELjEXTRATERRESTRIALALIENvALIENMONSTERmIMPdSKULLfINFORMATIONDESKPERSONvGUARD",
     "SMANjDANCERgLIPSTICKiNAILPOLISHkFACEMASSAGElHAIRCUThBARBERPOLEkSYRINGEhPILLeKISSMARKiLOVELET",
     "TERkRINGeGEMSTONEiKISSeBOUQUEThCOUPLEWITHHEARTpWEDDINGhBEATINGHEARTlROKENHEARTlTWOHEARTSjSPA",
     "RKLINGHEARToGROWINGHEARTmHEARTWITHARROWoBLUEHEARTjGREENHEARTkYELLOWHEARTlPURPLEHEARTlHEARTWI",
     "THRIBBONpREVOLVINGHEARTSpHEARTDECORATIONpDIAMONDSHAPEWITHADOTINSIDE 1f4a1:ELECTRICLIGHTBULBr",
     "ANGERSYMBOLlBOMBeSLEEPINGSYMBOLoCOLLISIONSYMBOLpSPLASHINGSWEATSYMBOLuDROPLETgASHSYMBOLkPILEO",
     "FPOOjFLEXEDBICEPSmDIZZYSYMBOLlSPEECHBALLOONnTHOUGHTBALLOONoWHITEFLOWERlHUNDREDPOINTSSYMBOLtM",
     "ONEYBAGiCURRENCYEXCHANGEqHEAVYDOLLARSIGNpCREDITCARDkBANKNOTEWITHYENSIGNhDOLLARSIGNkEUROSIGNi",
     "POUNDSIGNvMONEYWITHWINGSoCHARTWITHUPWARDSTRENDANDYENSIGN 1f4ba:SEATePERSONALCOMPUTERqBRIEFCA",
     "SEjMINIDISCiFLOPPYDISKkOPTICALDISClDVDdFILEFOLDERkOPENFILEFOLDERoPAGEWITHCURLiFACINGUPmCALEN",
     "DARiTEAROFFCALENDARpCARDINDEXiHARTWITHUPWARDSTRENDmDOWNWARDSTRENDxBARCHARTiCLIPBOARDjPUSHPIN",
     "hROUNDPUSHPINmPAPERCLIPjSTRAIGHTRULERnTRIANGULARRULERpBOOKMARKTABSmLEDGERgNOTEBOOKaWITHDECOR",
     "ATIVECOVER 1f4d5:CLOSEDBOOKkOPENBOOKiGREENBOOKjBLUEBOOKiORANGEBOOKkBOOKSfNAMEBADGEjSCROLLgME",
     "MOeTELEPHONERECEIVERrPAGERfFAXMACHINEkSATELLITEANTENNAqPUBLICADDRESSLOUDSPEAKERyCHEERINGMEGA",
     "PHONErOUTBOXTRAYkINBOXTRAYjPACKAGEhEMAILSYMBOLlINCOMINGENVELOPEqENVELOPEWITHDOWNWARDSARROWAB",
     "OVE 1f4ea:CLOSEDMAILBOXWITHLOWEREDFLAGlRAISEDFLAG 1f4ec:OPENMAILBOXWITHRAISEDFLAGkLOWEREDFLA",
     "G 1f4ee:POSTBOXdALHORNkNEWSPAPERjMOBILEPHONEaWITHRIGHTWARDSARROWATLEFT 1f4f3:VIBRATIONMODEnM",
     "OBILEPHONEOFFoNOMOBILEPHONESoANTENNAWITHBARSpCAMERAaWITHFLASHpVIDEOCAMERAlTELEVISIONkRADIOfV",
     "IDEOCASSETTEnFILMPROJECTORnPORTABLESTEREOnRAYERBEADSlTWISTEDRIGHTWARDSARROWSxCLOCKWISERIGHTW",
     "ARDSANDLEFTWARDSOPENCIRCLEARROWSaWITHCIRCLEDONEOVERLAY 1f503:CLOCKWISEDOWNWARDSANDUPWARDSOPE",
     "NCIRCLEARROWS 1f504:ANTICLOCKWISEDOWNWARDSANDUPWARDSOPENCIRCLEARROWS 1f505:LOWBRIGHTNESSSYMB",
     "OLtHIGHBRIGHTNESSSYMBOLuSPEAKERWITHCANCELLATIONSTROKEwaWITHONESOUNDWAVEmTHREESOUNDWAVES 1f50",
     "b:BATTERYhELECTRICPLUGmLEFTPOINTINGMAGNIFYINGGLASS 1f50e:RIGHTPOINTINGMAGNIFYINGGLASS 1f50f:",
     "LOCKWITHINKPENoCLOSEDLOCKWITHKEYrKEYdLOCKeOPENLOCKiBELLaWITHCANCELLATIONSTROKEzOOKMARKiLINKS",
     "YMBOLkRADIOBUTTONlBACKWITHLEFTWARDSARROWABOVE 1f51a:ENDWITHLEFTWARDSARROWABOVE 1f51b:ONWITHE",
     "XCLAMATIONMARKWITHLEFTRIGHTARROWABOVE 1f51c:SOONWITHRIGHTWARDSARROWABOVE 1f51d:TOPWITHUPWARD",
     "SARROWABOVEyNOONEUNDEREIGHTEENSYMBOLyKEYCAPTENjINPUTSYMBOLFORLATINCAPITALLETTERSoSMALLLETTER",
     "SrNUMBERShSYMBOLShLATINLETTERS 1f525:FIREeELECTRICTORCHnWRENCHgHAMMERgNUTANDBOLTkHOCHOfPISTO",
     "LgMICROSCOPEkTELESCOPEjCRYSTALBALLlSIXPOINTEDSTARWITHMIDDLEDOT 1f530:JAPANESESYMBOLFORBEGINN",
     "ERzTRIDENTEMBLEMnBLACKSQUAREBUTTONrWHITESQUAREBUTTONrLARGEREDCIRCLEjBLUECIRCLEkORANGEDIAMOND",
     "nBLUEDIAMONDqSMALLORANGEDIAMONDnBLUEDIAMONDqUPPOINTINGREDTRIANGLEvDOWNPOINTINGREDTRIANGLExUP",
     "POINTINGSMALLREDTRIANGLE 1f53d:DOWNPOINTINGSMALLREDTRIANGLE 1f53e:LOWERRIGHTSHADOWEDWHITECIR",
     "CLE 1f53f:UPPERRIGHTSHADOWEDWHITECIRCLE 1f540:CIRCLEDCROSSPOMMEErROSSPOMMEEWITHHALFCIRCLEBEL",
     "OWtlNOTCHEDLEFTSEMICIRCLEWITHTHREEDOTS 1f544:NOTCHEDRIGHTSEMICIRCLEWITHTHREEDOTS 1f545:SYMBO",
     "LFORMARKSCHAPTERvWHITELATINCROSSpHEAVYLATINCROSSpCELTICCROSSlOMSYMBOLiDOVEOFPEACElKAABAfMOSQ",
     "UEgSYNAGOGUEjMENORAHWITHNINEBRANCHESxBOWLOFHYGIEIAnCLOCKFACEONEOCLOCKjTWOOCLOCKiHREEOCLOCKlF",
     "OUROCLOCKjIVEOCLOCKkSIXOCLOCKiEVENOCLOCKlEIGHTOCLOCKlNINEOCLOCKkTENOCLOCKjELEVENOCLOCKmTWELV",
     "EOCLOCKmONETHIRTYjTWOTHIRTYiHREETHIRTYlFOURTHIRTYjIVETHIRTYkSIXTHIRTYiEVENTHIRTYlEIGHTTHIRTY",
     "lNINETHIRTYkTENTHIRTYjELEVENTHIRTYmTWELVETHIRTYvRIGHTSPEAKERaWITHONESOUNDWAVEmTHREESOUNDWAVE",
     "S 1f56b:BULLHORNaWITHSOUNDWAVESwRINGINGBELLlBOOKeCANDLEgMANTELPIECECLOCKqBLACKSKULLANDCROSSB",
     "ONESxNOPIRACYiHOLEeMANINBUSINESSSUITLEVITATING 1f575:SLEUTHORSPYlDARKSUNGLASSESoSPIDERaWEBjJ",
     "OYSTICKiMANDANCINGkLEFTHANDTELEPHONERECEIVERzTELEPHONERECEIVERWITHPAGEzRIGHTHANDTELEPHONEREC",
     "EIVER 1f57e:WHITETOUCHTONETELEPHONExBLACKTOUCHTONETELEPHONExTELEPHONEONTOPOFMODEMvCLAMSHELLM",
     "OBILEPHONEuBACKOFENVELOPEoSTAMPEDENVELOPEpENVELOPEWITHLIGHTNINGvFLYINGENVELOPEoPENOVERSTAMPE",
     "DENVELOPEwLINKEDPAPERCLIPSqBLACKPUSHPINmLOWERLEFTPENCILgBALLPOINTPENmFOUNTAINPENlPAINTBRUSHk",
     "CRAYONoEFTWRITINGHANDpTURNEDOKHANDSIGNqRAISEDHANDWITHFINGERSSPLAYED 1f591:REVERSEDRAISEDHAND",
     "WITHFINGERSSPLAYED 1f592:REVERSEDTHUMBSUPSIGNgDOWNSIGNoVICTORYHANDlHANDWITHMIDDLEFINGEREXTEN",
     "DED 1f596:RAISEDHANDWITHPARTBETWEENMIDDLEANDRINGFINGERS 1f597:WHITEDOWNPOINTINGLEFTHANDINDEX",
     " 1f598:SIDEWAYSWHITELEFTPOINTINGINDEXrRIGHTPOINTINGINDEXxBLACKLEFTPOINTINGINDEXrRIGHTPOINTIN",
     "GINDEX 1f59c:BLACKLEFTPOINTINGBACKHANDINDEXzRIGHTPOINTINGBACKHANDINDEX 1f59e:SIDEWAYSWHITEUP",
     "POINTINGINDEXpDOWNPOINTINGINDEXwBLACKUPPOINTINGINDEXpDOWNPOINTINGINDEX 1f5a2:BLACKUPPOINTING",
     "BACKHANDINDEXxDOWNPOINTINGBACKHANDINDEXzHEARTkDESKTOPCOMPUTERpKEYBOARDANDMOUSEqTHREENETWORKE",
     "DCOMPUTERSxPRINTERgOCKETCALCULATORqBLACKHARDSHELLFLOPPYDISKyWHITEHARDSHELLFLOPPYDISKySOFTSHE",
     "LLFLOPPYDISKtTAPECARTRIDGEnWIREDKEYBOARDnONEBUTTONMOUSEoTWOBUTTONMOUSEnHREEBUTTONMOUSEpRACKB",
     "ALLjOLDPERSONALCOMPUTERtHARDDISKiSCREENgPRINTERICONlFAXICONhOPTICALDISCICONpDOCUMENTWITHTEXT",
     "aANDPICTUREoPICTUREtFRAMEWITHPICTUREhTILESfANXmBLACKFOLDERlFOLDERgOPENFOLDERkCARDINDEXDIVIDE",
     "RSnFILEBOXlFILECABINETlEMPTYNOTEaPAGEcDmNOTEaPAGEcDhEMPTYDOCUMENTiPAGEaSkDOCUMENTiPAGEaSfWAS",
     "TEBASKETlSPIRALNOTEPADhCALENDARPADrDESKTOPWINDOWnMINIMIZEhAXIMIZEiOVERLAPhCLOCKWISERIGHTANDL",
     "EFTSEMICIRCLEARROWS 1f5d9:CANCELLATIONXnINCREASEFONTSIZESYMBOLwDECREASEFONTSIZESYMBOLwCOMPRE",
     "SSIONlOLDKEYgROLLEDUPNEWSPAPERrPAGEWITHCIRCLEDTEXTtSTOCKCHARTkDAGGERKNIFElLIPSeSPEAKINGHEADI",
     "NSILHOUETTEyTHREERAYSABOVEfBELOWfLEFTeRIGHToLEFTSPEECHBUBBLEqRIGHTSPEECHBUBBLErTWOSPEECHBUBB",
     "LESpHREESPEECHBUBBLESsLEFTTHOUGHTBUBBLErRIGHTTHOUGHTBUBBLEsLEFTANGERBUBBLEpRIGHTANGERBUBBLEq",
     "MOODBUBBLEkLIGHTNINGMOODBUBBLEgnBALLOTBOXWITHBALLOTnSCRIPTXhBOXWITHSCRIPTXmLDSCRIPTXjXWITHBO",
     "LDSCRIPTXyLIGHTCHECKMARKoBALLOTBOXWITHBOLDCHECKwWORLDMAPiMOUNTFUJIjTOKYOTOWERkSTATUEOFLIBERT",
     "YoILHOUETTEOFJAPANrMOYAIfGRINNINGFACEaWITHSMILINGEYES 1f602:FACEWITHTEARSOFJOYsSMILINGFACEWI",
     "THOPENMOUTHaANDSMILINGEYESlCOLDSWEATjTIGHTLYCLOSEDEYES 1f607:SMILINGFACEWITHHALOdORNSuWINKIN",
     "GFACElSMILINGFACEWITHSMILINGEYES 1f60b:FACESAVOURINGDELICIOUSFOOD 1f60c:RELIEVEDFACEmSMILING",
     "FACEWITHHEARTSHAPEDEYESpSUNGLASSESwRKINGFACEmNEUTRALFACElEXPRESSIONLESSFACEsUNAMUSEDFACEmFAC",
     "EWITHCOLDSWEATrPENSIVEFACElCONFUSEDFACEiOUNDEDFACEoKISSINGFACElFACETHROWINGAKISSrKISSINGFACE",
     "WITHSMILINGEYESlCLOSEDEYESzFACEWITHSTUCKOUTTONGUEaANDWINKINGEYEkTIGHTLYCLOSEDEYES 1f61e:DISA",
     "PPOINTEDFACEqWORRIEDFACElANGRYFACEjPOUTINGFACElCRYINGFACEkPERSEVERINGFACEpFACEWITHLOOKOFTRIU",
     "MPHvDISAPPOINTEDBUTRELIEVEDFACE 1f626:FROWNINGFACEWITHOPENMOUTHzANGUISHEDFACEnFEARFULFACElWE",
     "ARYFACEjSLEEPYFACEkTIREDFACEjGRIMACINGFACEnLOUDLYCRYINGFACEqFACEWITHOPENMOUTHrHUSHEDFACEkFAC",
     "EWITHOPENMOUTHANDCOLDSWEATzSCREAMINGINFEARtASTONISHEDFACEoFLUSHEDFACElSLEEPINGFACEmDIZZYFACE",
     "jFACEWITHOUTMOUTHiMEDICALMASKtGRINNINGCATFACEWITHSMILINGEYES 1f639:CATFACEWITHTEARSOFJOYvSMI",
     "LINGCATFACEWITHOPENMOUTHjHEARTSHAPEDEYES 1f63c:CATFACEWITHWRYSMILEtKISSINGCATFACEWITHCLOSEDE",
     "YES 1f63e:POUTINGCATFACEoCRYINGCATFACEnWEARYCATFACEmSLIGHTLYFROWNINGFACEmSMILINGFACEtUPSIDED",
     "OWNFACEoFACEWITHROLLINGEYESlNOGOODGESTUREnOKGESTURErPERSONBOWINGDEEPLYsSEENOEVILMONKEYpHEARN",
     "OEVILMONKEYqSPEAKNOEVILMONKEYrHAPPYPERSONRAISINGONEHANDzPERSONRAISINGBOTHHANDSINCELEBRATION ",
     "1f64d:PERSONFROWNINGiWITHPOUTINGFACElFOLDEDHANDSvNORTHWESTPOINTINGLEAFvSOUTHWESTPOINTINGLEAF",
     "vNORTHEASTPOINTINGLEAFvSOUTHEASTPOINTINGLEAFvTURNEDNORTHWESTPOINTINGLEAFvSOUTHWESTPOINTINGLE",
     "AFvNORTHEASTPOINTINGLEAFvSOUTHEASTPOINTINGLEAF 1f658:NORTHWESTPOINTINGVINELEAFzSOUTHWESTPOIN",
     "TINGVINELEAFzNORTHEASTPOINTINGVINELEAFzSOUTHEASTPOINTINGVINELEAFzHEAVYNORTHWESTPOINTINGVINEL",
     "EAFzSOUTHWESTPOINTINGVINELEAFzNORTHEASTPOINTINGVINELEAFzSOUTHEASTPOINTINGVINELEAF 1f660:NORT",
     "HWESTPOINTINGBUDuSOUTHWESTPOINTINGBUDuNORTHEASTPOINTINGBUDuSOUTHEASTPOINTINGBUDuHEAVYNORTHWE",
     "STPOINTINGBUDuSOUTHWESTPOINTINGBUDuNORTHEASTPOINTINGBUDuSOUTHEASTPOINTINGBUDyOLLOWQUILTSQUAR",
     "EORNAMENTaINBLACKSQUARE 1f66a:SOLIDQUILTSQUAREORNAMENTaINBLACKSQUARE 1f66c:LEFTWARDSROCKETpU",
     "PWARDSROCKETnRIGHTWARDSROCKETqDOWNWARDSROCKETpSCRIPTLIGATUREETORNAMENTyHEAVYSCRIPTLIGATUREET",
     "ORNAMENT 1f672:LIGATUREOPENETORNAMENTwHEAVYLIGATUREOPENETORNAMENTwAMPERSANDORNAMENTwSWASHAMP",
     "ERSANDORNAMENTvANSSERIFHEAVYDOUBLETURNEDCOMMAQUOTATIONMARKORNAMENT 1f677:SANSSERIFHEAVYDOUBL",
     "ECOMMAQUOTATIONMARKORNAMENT 1f678:SANSSERIFHEAVYLOWDOUBLECOMMAQUOTATIONMARKORNAMENT 1f679:HE",
     "AVYINTERROBANGORNAMENTySANSSERIFINTERROBANGORNAMENT 1f67b:HEAVYSANSSERIFINTERROBANGORNAMENT ",
     "1f67c:VERYHEAVYSOLIDUShREVERSESOLIDUSxCHECKERBOARDmREVERSECHECKERBOARDsOCKETgHELICOPTERkSTEA",
     "MLOCOMOTIVEpRAILWAYCARkHIGHSPEEDTRAINaWITHBULLETNOSE 1f686:TRAINfMETROfLIGHTRAILjSTATIONhTRA",
     "MaCARhBUSdONCOMINGBUSlTROLLEYBUSkBUSSTOPhMINIBUShAMBULANCEjFIREENGINEkPOLICECARjONCOMINGPOLI",
     "CECARrTAXIeONCOMINGTAXImAUTOMOBILEkONCOMINGAUTOMOBILEsRECREATIONALVEHICLEtDELIVERYTRUCKnARTI",
     "CULATEDLORRYqTRACTORhMONORAILgUNTAINRAILWAYpSUSPENSIONRAILWAYrMOUNTAINCABLEWAYqAERIALTRAMWAY",
     "nSHIPeROWBOAThSPEEDBOATjHORIZONTALTRAFFICLIGHTwVERTICALTRAFFICLIGHTuCONSTRUCTIONSIGNqPOLICEC",
     "ARSREVOLVINGLIGHTyTRIANGULARFLAGONPOSTuDOOReNOENTRYSIGNlSMOKINGSYMBOLnNOSMOKINGSYMBOLpPUTLIT",
     "TERINITSPLACESYMBOLzDONOTLITTERSYMBOLrPOTABLEWATERSYMBOLsNONPOTABLEWATERSYMBOLvBICYCLEhNOBIC",
     "YCLESkBICYCLISTjMOUNTAINBICYCLISTrPEDESTRIANkNOPEDESTRIANSnCHILDRENCROSSINGqMENSSYMBOLkWOMEN",
     "SSYMBOLmRESTROOMiBABYSYMBOLkTOILETgWATERCLOSETlSHOWERgBATHaTUBhPASSPORTCONTROLpCUSTOMShBAGGA",
     "GECLAIMmLEFTLUGGAGElTRIANGLEWITHROUNDEDCORNERS 1f6c7:PROHIBITEDSIGNoCIRCLEDINFORMATIONSOURCE",
     "yBOYSSYMBOLkGIRLSSYMBOLlCOUCHANDLAMPmSLEEPINGACCOMMODATIONuHOPPINGBAGSmBELLHOPBELLjDdPLACEOF",
     "WORSHIPoOCTAGONALSIGNnSHOPPINGTROLLEYoTUPAfPAGODAgHINDUTEMPLEkUTdELEVATOR 1f6dc:WIRELESSiPLA",
     "YGROUNDSLIDEpWHEELfRINGBUOYiHAMMERANDWRENCHpSHIELDgOILDRUMhMOTORWAYiRAILWAYTRACKmMOTORBOATjU",
     "PPOINTINGMILITARYAIRPLANEqAIRPLANEiSMALLAIRPLANExSMALLAIRPLANEnNORTHEASTPOINTINGAIRPLANEzAIR",
     "PLANEDEPARTUREjARRIVING 1f6f0:SATELLITEjONCOMINGFIREENGINEsDIESELLOCOMOTIVEqPASSENGERSHIPnSC",
     "OOTERhMOTORSCOOTERmCANOEfSLEDeFLYINGSAUCERmSKATEBOARDkAUTORICKSHAWmPICKUPTRUCKlROLLERSKATE 1",
     "f700:ALCHEMICALSYMBOLFORQUINTESSENCEmAIRdFIREeEARTHfWATERfAQUAFORTISgREGIAa2gVITAEa2kVINEGAR",
     "a2b3iSULFURgPHILOSOPHERSSULFURsBLACKSULFURlMERCURYSUBLIMATEa2b3rCINNABARiSALTeNITREfVITRIOLa",
     "2iROCKSALTa2jGOLDeSILVERgIRONOREa2iCROCUSOFIRONmREGULUSOFIRONnCOPPEROREjIRONCOPPEROREnSUBLIM",
     "ATEOFCOPPERrCROCUSOFCOPPERa2oOPPERANTIMONIATErSALTOFCOPPERANTIMONIATEwUBLIMATEOFSALTOFCOPPER",
     "xVERDIGRISjTINOREgLEADOREhANTIMONYORElSUBLIMATEOFANTIMONYsALTOFANTIMONYnUBLIMATEOFSALTOFANTI",
     "MONYzVINEGAROFANTIMONYrREGULUSOFANTIMONYa2la2b3b4iALKALIa2hMARCASITEjSALAMMONIAClARSENIChREA",
     "LGARa2iAURIPIGMENTlBISMUTHOREkTARTARa2hQUICKLIMEjBORAXa2b3gALUMeOILdSPIRITgTINCTUREiGUMdWAXd",
     "POWDERgCALXeTUTTYfCAPUTMORTUUMmSCEPTEROFJOVEnCADUCEUSiTRIDENThSTARREDTRIDENToLODESTONEjSOAPe",
     "URINEfHORSEDUNGjASHESfPOTASHESiBRICKfPOWDEREDBRICKnAMALGAMhSTRATUMSUPERSTRATUMa2tUBLIMATIONl",
     "PRECIPITATElDISTILLeSOLVEa2jPURIFYeTREFACTIONmCRUCIBLEa2b3b4b5jALEMBIChBATHOFMARYeVAPOURSnRE",
     "TORTgHOUReNIGHTfDAYNIGHTiMONTHfHALFDRAMeOUNCE 1f774:LOTOFFORTUNEmOCCULTATIONlLUNARECLIPSE 1f",
     "77b:HAUMEAgMAKEMAKEiGONGGONGiQUAOARgORCUSfBLACKLEFTPOINTINGISOSCELESRIGHTTRIANGLE 1f781:BLAC",
     "KUPPOINTINGISOSCELESRIGHTTRIANGLE 1f782:BLACKRIGHTPOINTINGISOSCELESRIGHTTRIANGLE 1f783:BLACK",
     "DOWNPOINTINGISOSCELESRIGHTTRIANGLE 1f784:BLACKSLIGHTLYSMALLCIRCLEyMEDIUMBOLDWHITECIRCLEvBOLD",
     "WHITECIRCLEpHEAVYWHITECIRCLEqVERYHEAVYWHITECIRCLEuEXTREMELYHEAVYWHITECIRCLEzWHITECIRCLECONTA",
     "ININGBLACKSMALLCIRCLE 1f78b:ROUNDTARGETlBLACKTINYSQUAREkSLIGHTLYSMALLSQUAREyLIGHTWHITESQUARE",
     "qMEDIUMWHITESQUARErBOLDWHITESQUAREpHEAVYWHITESQUAREqVERYHEAVYWHITESQUAREuEXTREMELYHEAVYWHITE",
     "SQUAREzWHITESQUARECONTAININGBLACKVERYSMALLSQUAREpMEDIUMSQUARE 1f796:SQUARETARGETmBLACKTINYDI",
     "AMONDlVERYSMALLDIAMONDqMEDIUMSMALLDIAMONDxWHITEDIAMONDCONTAININGBLACKVERYSMALLDIAMONDqMEDIUM",
     "DIAMOND 1f79c:DIAMONDTARGETnBLACKTINYLOZENGElVERYSMALLLOZENGEqMEDIUMSMALLLOZENGExWHITELOZENG",
     "ECONTAININGBLACKSMALLLOZENGE 1f7a1:THINGREEKCROSSoLIGHTGREEKCROSSpMEDIUMGREEKCROSSqBOLDGREEK",
     "CROSSoVERYBOLDGREEKCROSSoHEAVYGREEKCROSStEXTREMELYHEAVYGREEKCROSSyTHINSALTIRElLIGHTSALTIREmM",
     "EDIUMSALTIREnBOLDSALTIRElHEAVYSALTIREmVERYHEAVYSALTIREqEXTREMELYHEAVYSALTIREvLIGHTFIVESPOKED",
     "ASTERISKxMEDIUMFIVESPOKEDASTERISKyBOLDFIVESPOKEDASTERISKwHEAVYFIVESPOKEDASTERISKxVERYHEAVYFI",
     "VESPOKEDASTERISK 1f7b4:EXTREMELYHEAVYFIVESPOKEDASTERISK 1f7b5:LIGHTSIXSPOKEDASTERISKwMEDIUMS",
     "IXSPOKEDASTERISKxBOLDSIXSPOKEDASTERISKvHEAVYSIXSPOKEDASTERISKwVERYHEAVYSIXSPOKEDASTERISK 1f7",
     "ba:EXTREMELYHEAVYSIXSPOKEDASTERISK 1f7bb:LIGHTEIGHTSPOKEDASTERISKyMEDIUMEIGHTSPOKEDASTERISKz",
     "BOLDEIGHTSPOKEDASTERISKxHEAVYEIGHTSPOKEDASTERISKyVERYHEAVYEIGHTSPOKEDASTERISK 1f7c0:LIGHTTHR",
     "EEPOINTEDBLACKSTAR 1f7c1:MEDIUMTHREEPOINTEDBLACKSTAR 1f7c2:THREEPOINTEDBLACKSTARvMEDIUMTHREE",
     "POINTEDPINWHEELSTAR 1f7c4:LIGHTFOURPOINTEDBLACKSTARzMEDIUMFOURPOINTEDBLACKSTAR 1f7c6:FOURPOI",
     "NTEDBLACKSTARuMEDIUMFOURPOINTEDPINWHEELSTAR 1f7c8:REVERSELIGHTFOURPOINTEDPINWHEELSTAR 1f7c9:",
     "LIGHTFIVEPOINTEDBLACKSTARzHEAVYFIVEPOINTEDBLACKSTARzMEDIUMSIXPOINTEDBLACKSTARzHEAVYSIXPOINTE",
     "DBLACKSTARySIXPOINTEDPINWHEELSTARwMEDIUMEIGHTPOINTEDBLACKSTAR 1f7cf:HEAVYEIGHTPOINTEDBLACKST",
     "AR 1f7d0:VERYHEAVYEIGHTPOINTEDBLACKSTAR 1f7d1:HEAVYEIGHTPOINTEDPINWHEELSTAR 1f7d2:LIGHTTWELV",
     "EPOINTEDBLACKSTAR 1f7d3:HEAVYTWELVEPOINTEDBLACKSTARjPINWHEELSTAR 1f7d5:CIRCLEDTRIANGLEpNEGAT",
     "IVECIRCLEDTRIANGLExCIRCLEDSQUAREnNEGATIVECIRCLEDSQUAREuINEPOINTEDWHITESTAR 1f7e0:LARGEORANGE",
     "CIRCLEmYELLOWCIRCLEmGREENCIRCLElPURPLECIRCLEmBROWNCIRCLElREDSQUAREjBLUESQUAREkORANGESQUAREmY",
     "ELLOWSQUAREmGREENSQUARElPURPLESQUAREmBROWNSQUARE 1f7f0:HEAVYEQUALSSIGN 1f800:LEFTWARDSARROWW",
     "ITHSMALLTRIANGLEARROWHEAD 1f801:UPWARDSARROWWITHSMALLTRIANGLEARROWHEAD 1f802:RIGHTWARDSARROW",
     "WITHSMALLTRIANGLEARROWHEAD 1f803:DOWNWARDSARROWWITHSMALLTRIANGLEARROWHEAD 1f804:LEFTWARDSARR",
     "OWWITHMEDIUMTRIANGLEARROWHEAD 1f805:UPWARDSARROWWITHMEDIUMTRIANGLEARROWHEAD 1f806:RIGHTWARDS",
     "ARROWWITHMEDIUMTRIANGLEARROWHEAD 1f807:DOWNWARDSARROWWITHMEDIUMTRIANGLEARROWHEAD 1f808:LEFTW",
     "ARDSARROWWITHLARGETRIANGLEARROWHEAD 1f809:UPWARDSARROWWITHLARGETRIANGLEARROWHEAD 1f80a:RIGHT",
     "WARDSARROWWITHLARGETRIANGLEARROWHEAD 1f80b:DOWNWARDSARROWWITHLARGETRIANGLEARROWHEAD 1f810:LE",
     "FTWARDSARROWWITHSMALLEQUILATERALARROWHEAD 1f811:UPWARDSARROWWITHSMALLEQUILATERALARROWHEAD 1f",
     "812:RIGHTWARDSARROWWITHSMALLEQUILATERALARROWHEAD 1f813:DOWNWARDSARROWWITHSMALLEQUILATERALARR",
     "OWHEAD 1f814:LEFTWARDSARROWWITHEQUILATERALARROWHEAD 1f815:UPWARDSARROWWITHEQUILATERALARROWHE",
     "AD 1f816:RIGHTWARDSARROWWITHEQUILATERALARROWHEAD 1f817:DOWNWARDSARROWWITHEQUILATERALARROWHEA",
     "D 1f818:HEAVYLEFTWARDSARROWWITHEQUILATERALARROWHEAD 1f819:HEAVYUPWARDSARROWWITHEQUILATERALAR",
     "ROWHEAD 1f81a:HEAVYRIGHTWARDSARROWWITHEQUILATERALARROWHEAD 1f81b:HEAVYDOWNWARDSARROWWITHEQUI",
     "LATERALARROWHEAD 1f81c:HEAVYLEFTWARDSARROWWITHLARGEEQUILATERALARROWHEAD 1f81d:HEAVYUPWARDSAR",
     "ROWWITHLARGEEQUILATERALARROWHEAD 1f81e:HEAVYRIGHTWARDSARROWWITHLARGEEQUILATERALARROWHEAD 1f8",
     "1f:HEAVYDOWNWARDSARROWWITHLARGEEQUILATERALARROWHEAD 1f820:LEFTWARDSTRIANGLEHEADEDARROWWITHNA",
     "RROWSHAFT 1f821:UPWARDSTRIANGLEHEADEDARROWWITHNARROWSHAFT 1f822:RIGHTWARDSTRIANGLEHEADEDARRO",
     "WWITHNARROWSHAFT 1f823:DOWNWARDSTRIANGLEHEADEDARROWWITHNARROWSHAFT 1f824:LEFTWARDSTRIANGLEHE",
     "ADEDARROWWITHMEDIUMSHAFT 1f825:UPWARDSTRIANGLEHEADEDARROWWITHMEDIUMSHAFT 1f826:RIGHTWARDSTRI",
     "ANGLEHEADEDARROWWITHMEDIUMSHAFT 1f827:DOWNWARDSTRIANGLEHEADEDARROWWITHMEDIUMSHAFT 1f828:LEFT",
     "WARDSTRIANGLEHEADEDARROWWITHBOLDSHAFT 1f829:UPWARDSTRIANGLEHEADEDARROWWITHBOLDSHAFT 1f82a:RI",
     "GHTWARDSTRIANGLEHEADEDARROWWITHBOLDSHAFT 1f82b:DOWNWARDSTRIANGLEHEADEDARROWWITHBOLDSHAFT 1f8",
     "2c:LEFTWARDSTRIANGLEHEADEDARROWWITHHEAVYSHAFT 1f82d:UPWARDSTRIANGLEHEADEDARROWWITHHEAVYSHAFT",
     " 1f82e:RIGHTWARDSTRIANGLEHEADEDARROWWITHHEAVYSHAFT 1f82f:DOWNWARDSTRIANGLEHEADEDARROWWITHHEA",
     "VYSHAFT 1f830:LEFTWARDSTRIANGLEHEADEDARROWWITHVERYHEAVYSHAFT 1f831:UPWARDSTRIANGLEHEADEDARRO",
     "WWITHVERYHEAVYSHAFT 1f832:RIGHTWARDSTRIANGLEHEADEDARROWWITHVERYHEAVYSHAFT 1f833:DOWNWARDSTRI",
     "ANGLEHEADEDARROWWITHVERYHEAVYSHAFT 1f834:LEFTWARDSFINGERPOSTARROWyUPWARDSFINGERPOSTARROWwRIG",
     "HTWARDSFINGERPOSTARROWzDOWNWARDSFINGERPOSTARROWyLEFTWARDSSQUAREDARROWvUPWARDSSQUAREDARROWtRI",
     "GHTWARDSSQUAREDARROWwDOWNWARDSSQUAREDARROWvLEFTWARDSCOMPRESSEDARROWyUPWARDSCOMPRESSEDARROWwR",
     "IGHTWARDSCOMPRESSEDARROWzDOWNWARDSCOMPRESSEDARROWyLEFTWARDSHEAVYCOMPRESSEDARROW 1f841:UPWARD",
     "SHEAVYCOMPRESSEDARROW 1f842:RIGHTWARDSHEAVYCOMPRESSEDARROW 1f843:DOWNWARDSHEAVYCOMPRESSEDARR",
     "OW 1f844:LEFTWARDSHEAVYARROWtUPWARDSHEAVYARROWrRIGHTWARDSHEAVYARROWuDOWNWARDSHEAVYARROW 1f85",
     "0:LEFTWARDSSANSSERIFARROWxUPWARDSSANSSERIFARROWvRIGHTWARDSSANSSERIFARROWyDOWNWARDSSANSSERIFA",
     "RROWxNORTHWESTSANSSERIFARROWsEASTSANSSERIFARROWxSOUTHEASTSANSSERIFARROWsWESTSANSSERIFARROWxL",
     "EFTRIGHTSANSSERIFARROWxUPDOWNSANSSERIFARROW 1f860:WIDEHEADEDLEFTWARDSLIGHTBARBARROWxUPWARDSL",
     "IGHTBARBARROWvRIGHTWARDSLIGHTBARBARROWyDOWNWARDSLIGHTBARBARROWxNORTHWESTLIGHTBARBARROWsEASTL",
     "IGHTBARBARROWxSOUTHEASTLIGHTBARBARROWsWESTLIGHTBARBARROWxLEFTWARDSBARBARROWsUPWARDSBARBARROW",
     "qRIGHTWARDSBARBARROWtDOWNWARDSBARBARROWsNORTHWESTBARBARROWnEASTBARBARROWsSOUTHEASTBARBARROWn",
     "WESTBARBARROWsLEFTWARDSMEDIUMBARBARROWyUPWARDSMEDIUMBARBARROWwRIGHTWARDSMEDIUMBARBARROWzDOWN",
     "WARDSMEDIUMBARBARROWyNORTHWESTMEDIUMBARBARROWtEASTMEDIUMBARBARROWySOUTHEASTMEDIUMBARBARROWtW",
     "ESTMEDIUMBARBARROWyLEFTWARDSHEAVYBARBARROWxUPWARDSHEAVYBARBARROWvRIGHTWARDSHEAVYBARBARROWyDO",
     "WNWARDSHEAVYBARBARROWxNORTHWESTHEAVYBARBARROWsEASTHEAVYBARBARROWxSOUTHEASTHEAVYBARBARROWsWES",
     "THEAVYBARBARROWxLEFTWARDSVERYHEAVYBARBARROW 1f881:WIDEHEADEDUPWARDSVERYHEAVYBARBARROWzRIGHTW",
     "ARDSVERYHEAVYBARBARROW 1f883:WIDEHEADEDDOWNWARDSVERYHEAVYBARBARROW 1f884:WIDEHEADEDNORTHWEST",
     "VERYHEAVYBARBARROWwEASTVERYHEAVYBARBARROW 1f886:WIDEHEADEDSOUTHEASTVERYHEAVYBARBARROWwWESTVE",
     "RYHEAVYBARBARROW 1f890:LEFTWARDSTRIANGLEARROWHEAD 1f891:UPWARDSTRIANGLEARROWHEADyRIGHTWARDST",
     "RIANGLEARROWHEAD 1f893:DOWNWARDSTRIANGLEARROWHEAD 1f894:LEFTWARDSWHITEARROWWITHINTRIANGLEARR",
     "OWHEAD 1f895:UPWARDSWHITEARROWWITHINTRIANGLEARROWHEAD 1f896:RIGHTWARDSWHITEARROWWITHINTRIANG",
     "LEARROWHEAD 1f897:DOWNWARDSWHITEARROWWITHINTRIANGLEARROWHEAD 1f898:LEFTWARDSARROWWITHNOTCHED",
     "TAIL 1f899:UPWARDSARROWWITHNOTCHEDTAIL 1f89a:RIGHTWARDSARROWWITHNOTCHEDTAIL 1f89b:DOWNWARDSA",
     "RROWWITHNOTCHEDTAIL 1f89c:HEAVYARROWSHAFTWIDTHONEdTWOTHIRDSjONEHALFeTHIRD 1f8a0:LEFTWARDSBOT",
     "TOMSHADEDWHITEARROW 1f8a1:RIGHTWARDSBOTTOMSHADEDWHITEARROW 1f8a2:LEFTWARDSTOPSHADEDWHITEARRO",
     "W 1f8a3:RIGHTWARDSTOPSHADEDWHITEARROW 1f8a4:LEFTWARDSLEFTSHADEDWHITEARROW 1f8a5:RIGHTWARDSRI",
     "GHTSHADEDWHITEARROW 1f8a6:LEFTWARDSRIGHTSHADEDWHITEARROW 1f8a7:RIGHTWARDSLEFTSHADEDWHITEARRO",
     "W 1f8a8:LEFTWARDSBACKTILTEDSHADOWEDWHITEARROW 1f8a9:RIGHTWARDSBACKTILTEDSHADOWEDWHITEARROW 1",
     "f8aa:LEFTWARDSFRONTTILTEDSHADOWEDWHITEARROW 1f8ab:RIGHTWARDSFRONTTILTEDSHADOWEDWHITEARROW 1f",
     "8ac:WHITEARROWSHAFTWIDTHONEdTWOTHIRDS 1f8b0:ARROWPOINTINGUPWARDSTHENNORTHWESTuRIGHTWARDSTHEN",
     "CURVINGSOUTHWEST 1f900:CIRCLEDCROSSFORMEEWITHFOURDOTSiTWODOTSlsLEFTHALFCIRCLEWITHFOURDOTSiTH",
     "REEDOTSiWODOTShDOThoDOWNWARDFACINGHOOKeNOTCHEDHOOKlHOOKWITHDOTlNOTCHEDHOOKWITHDOT 1f90c:PINC",
     "HEDFINGERSoWHITEHEARTkBROWNHEARTkPINCHINGHANDmZIPPERMOUTHFACEpMONEYMOUTHFACEoFACEWITHTHERMOM",
     "ETERtNERDFACEiTHINKINGFACEmFACEWITHHEADBANDAGEtROBOTFACEjHUGGINGFACElSIGNOFTHEHORNSoCALLMEHA",
     "NDkRAISEDBACKOFHANDqLEFTFACINGFISToRIGHTFACINGFISTpHANDSHAKEfWITHINDEXANDMIDDLEFINGERSCROSSE",
     "D 1f91f:ILOVEYOUHANDSIGNqFACEWITHCOWBOYHATrCLOWNFACEjNAUSEATEDFACEnROLLINGONTHEFLOORLAUGHING",
     "zDROOLINGFACEmLYINGFACEjFACEPALMiSNEEZINGFACEmFACEWITHONEEYEBROWRAISEDyGRINNINGFACEWITHSTARE",
     "YESiONELARGEANDONESMALLEYE 1f92b:FACEWITHFINGERCOVERINGCLOSEDLIPS 1f92c:SERIOUSFACEWITHSYMBO",
     "LSCOVERINGMOUTH 1f92d:SMILINGFACEWITHSMILINGEYESANDHANDCOVERINGMOUTH 1f92e:FACEWITHOPENMOUTH",
     "VOMITINGzSHOCKEDFACEWITHEXPLODINGHEAD 1f930:PREGNANTWOMANnBREASTFEEDINGnPALMSUPTOGETHERpSELF",
     "IEgPRINCEgMANINTUXEDOkOTHERCHRISTMASpSHRUGfPERSONDOINGCARTWHEELuJUGGLINGiFENCERgMODERNPENTAT",
     "HLONqWRESTLERSiATERPOLOjHANDBALLiDIVINGMASKkWILTEDFLOWERmDRUMWITHDRUMSTICKSsCLINKINGGLASSESp",
     "TUMBLERGLASSmSPOONfGOALNEThRIFLEfFIRSTPLACEMEDALpSECONDPLACEMEDALqTHIRDPLACEMEDALpBOXINGGLOV",
     "ElMARTIALARTSUNIFORMsCURLINGSTONEmLACROSSESTICKANDBALLuSOFTBALLiFLYINGDISCkCROISSANTjAVOCADO",
     "hCUCUMBERiBACONfPOTATOgCARROTgBAGUETTEBREADnGREENSALADkSHALLOWPANOFFOODpTUFFEDFLATBREADqEGGd",
     "GLASSOFMILKlPEANUTShKIWIFRUITjPANCAKESiDUMPLINGiFORTUNECOOKIEnTAKEOUTBOXkCHOPSTICKSkBOWLWITH",
     "SPOONnCUPWITHSTRAWlOCONUThBROCCOLIiPIEcRETZELhCUTOFMEATjSANDWICHiCANNEDFOODkLEAFYGREENkMANGO",
     "eOONCAKEiBAGELfSMILINGFACEWITHSMILINGEYESANDTHREEHEARTS 1f971:YAWNINGFACElSMILINGFACEWITHTEA",
     "RtFACEWITHPARTYHORNANDPARTYHATuUNEVENEYESANDWAVYMOUTH 1f975:OVERHEATEDFACEoFREEZINGFACEmNINJ",
     "AfDISGUISEDFACEnFACEHOLDINGBACKTEARSqWITHPLEADINGEYESuSARIeLABCOAThGOGGLEShHIKINGBOOTkFLATSH",
     "OEiCRABeLIONFACEiSCORPIONiTURKEYgUNICORNFACElEAGLEfDUCKeBATdSHARKfOWLdFOXFACEhBUTTERFLYjDEER",
     "eGORILLAhLIZARDgRHINOCEROSkSHRIMPfQUIDfGIRAFFEFACElZEBRAFACEjHEDGEHOGiSAUROPODiTREXeCRICKETh",
     "KANGAROOiLLAMAfPEACOCKhHIPPOPOTAMUSmPARROTgRACCOONhLOBSTERhMOSQUITOhICROBEhBADGERgSWANeMAMMO",
     "THhDODOeSLOTHfOTTEReRANGUTANjSKUNKfFLAMINGOiOYSTERgBEAVERfISONfSEALeGUIDEDOGiPROBINGCANElEMO",
     "JICOMPONENTREDHAIRhCURLYHAIRjBALDeWHITEHAIRxBONEeLEGdFOOTeTOOTHfSUPERHEROeVILLAINlAFETYVESTk",
     "EARWITHHEARINGAIDrMOTORIZEDWHEELCHAIRsANUALWHEELCHAIRpECHANICALARMdLEGnCHEESEWEDGEkUPCAKEhSA",
     "LTSHAKERkBEVERAGEBOXlGARLICgONIONfFALAFELhWAFFLEgBUTTERgMATEDRINKjICECUBEhBUBBLETEAjTROLLfST",
     "ANDINGPERSONoKNEELINGPERSONoDEAFPERSONkFACEWITHMONOCLEpADULTfCHILDfOLDERADULTkBEARDEDPERSONn",
     "PERSONWITHHEADSCARFnINSTEAMYROOMmCLIMBINGiINLOTUSPOSITIONvMAGEeFAIRYfVAMPIREhMERPERSONjELFdG",
     "ENIEfZOMBIEgBRAINfORANGEHEARTlBILLEDCAPjSCARFfGLOVESgCOATeSOCKSfREDGIFTENVELOPEpFIRECRACKERl",
     "JIGSAWPUZZLEPIECErTESTTUBEiPETRIDISHjDNADOUBLEHELIXoCOMPASShABACUSgFIREEXTINGUISHERqTOOLBOXh",
     "BRICKfMAGNETgLUGGAGEgOTIONBOTTLEmSPOOLOFTHREADnBALLOFYARNkSAFETYPINjTEDDYBEARjBROOMeASKETgRO",
     "LLOFPAPERlBAROFSOAPjSPONGEgRECEIPThNAZARAMULETkEUTRALCHESSKINGeQUEENfROOKeBISHOPgKNIGHTgPAWN",
     "qWHITECHESSKNIGHTROTATEDFORTYFIVEDEGREES 1fa07:BLACKCHESSKNIGHTROTATEDFORTYFIVEDEGREES 1fa08",
     ":NEUTRALCHESSKNIGHTROTATEDFORTYFIVEDEGREES 1fa09:WHITECHESSKINGROTATEDNINETYDEGREESyQUEENROT",
     "ATEDNINETYDEGREESzROOKROTATEDNINETYDEGREESyBISHOPROTATEDNINETYDEGREES 1fa0d:WHITECHESSKNIGHT",
     "ROTATEDNINETYDEGREES 1fa0e:WHITECHESSPAWNROTATEDNINETYDEGREES 1fa0f:BLACKCHESSKINGROTATEDNIN",
     "ETYDEGREESyQUEENROTATEDNINETYDEGREESzROOKROTATEDNINETYDEGREESyBISHOPROTATEDNINETYDEGREES 1fa",
     "13:BLACKCHESSKNIGHTROTATEDNINETYDEGREES 1fa14:BLACKCHESSPAWNROTATEDNINETYDEGREES 1fa15:NEUTR",
     "ALCHESSKINGROTATEDNINETYDEGREESyQUEENROTATEDNINETYDEGREESzROOKROTATEDNINETYDEGREESyBISHOPROT",
     "ATEDNINETYDEGREES 1fa19:NEUTRALCHESSKNIGHTROTATEDNINETYDEGREES 1fa1a:NEUTRALCHESSPAWNROTATED",
     "NINETYDEGREES 1fa1b:WHITECHESSKNIGHTROTATEDONEHUNDREDTHIRTYFIVEDEGREES 1fa1c:BLACKCHESSKNIGH",
     "TROTATEDONEHUNDREDTHIRTYFIVEDEGREES 1fa1d:NEUTRALCHESSKNIGHTROTATEDONEHUNDREDTHIRTYFIVEDEGRE",
     "ES 1fa1e:WHITECHESSTURNEDKINGeQUEENfROOKeBISHOPgKNIGHTgPAWNuBLACKCHESSTURNEDKINGeQUEENfROOKe",
     "BISHOPgKNIGHTgPAWNuNEUTRALCHESSTURNEDKINGeQUEENfROOKeBISHOPgKNIGHTgPAWNwWHITECHESSKNIGHTROTA",
     "TEDTWOHUNDREDTWENTYFIVEDEGREES 1fa31:BLACKCHESSKNIGHTROTATEDTWOHUNDREDTWENTYFIVEDEGREES 1fa3",
     "2:NEUTRALCHESSKNIGHTROTATEDTWOHUNDREDTWENTYFIVEDEGREES 1fa33:WHITECHESSKINGROTATEDTWOHUNDRED",
     "SEVENTYDEGREES 1fa34:WHITECHESSQUEENROTATEDTWOHUNDREDSEVENTYDEGREES 1fa35:WHITECHESSROOKROTA",
     "TEDTWOHUNDREDSEVENTYDEGREES 1fa36:WHITECHESSBISHOPROTATEDTWOHUNDREDSEVENTYDEGREES 1fa37:WHIT",
     "ECHESSKNIGHTROTATEDTWOHUNDREDSEVENTYDEGREES 1fa38:WHITECHESSPAWNROTATEDTWOHUNDREDSEVENTYDEGR",
     "EES 1fa39:BLACKCHESSKINGROTATEDTWOHUNDREDSEVENTYDEGREES 1fa3a:BLACKCHESSQUEENROTATEDTWOHUNDR",
     "EDSEVENTYDEGREES 1fa3b:BLACKCHESSROOKROTATEDTWOHUNDREDSEVENTYDEGREES 1fa3c:BLACKCHESSBISHOPR",
     "OTATEDTWOHUNDREDSEVENTYDEGREES 1fa3d:BLACKCHESSKNIGHTROTATEDTWOHUNDREDSEVENTYDEGREES 1fa3e:B",
     "LACKCHESSPAWNROTATEDTWOHUNDREDSEVENTYDEGREES 1fa3f:NEUTRALCHESSKINGROTATEDTWOHUNDREDSEVENTYD",
     "EGREES 1fa40:NEUTRALCHESSQUEENROTATEDTWOHUNDREDSEVENTYDEGREES 1fa41:NEUTRALCHESSROOKROTATEDT",
     "WOHUNDREDSEVENTYDEGREES 1fa42:NEUTRALCHESSBISHOPROTATEDTWOHUNDREDSEVENTYDEGREES 1fa43:NEUTRA",
     "LCHESSKNIGHTROTATEDTWOHUNDREDSEVENTYDEGREES 1fa44:NEUTRALCHESSPAWNROTATEDTWOHUNDREDSEVENTYDE",
     "GREES 1fa45:WHITECHESSKNIGHTROTATEDTHREEHUNDREDFIFTEENDEGREES 1fa46:BLACKCHESSKNIGHTROTATEDT",
     "HREEHUNDREDFIFTEENDEGREES 1fa47:NEUTRALCHESSKNIGHTROTATEDTHREEHUNDREDFIFTEENDEGREES 1fa48:WH",
     "ITECHESSEQUIHOPPERuBLACKCHESSEQUIHOPPERuNEUTRALCHESSEQUIHOPPERwWHITECHESSEQUIHOPPERROTATEDNI",
     "NETYDEGREES 1fa4c:BLACKCHESSEQUIHOPPERROTATEDNINETYDEGREES 1fa4d:NEUTRALCHESSEQUIHOPPERROTAT",
     "EDNINETYDEGREES 1fa4e:WHITECHESSKNIGHTQUEENfROOKeBISHOPwBLACKCHESSKNIGHTQUEENfROOKeBISHOP 1f",
     "a60:XIANGQIREDGENERALhMANDARINiELEPHANTiHORSEfCHARIOTgANNONgSOLDIERkBLACKGENERALhMANDARINiEL",
     "EPHANTiHORSEfCHARIOTgANNONgSOLDIER 1fa70:BALLETSHOESlONEPIECESWIMSUITqBRIEFSgSHORTSgTHONGSAN",
     "DALlLIGHTBLUEHEARToGREYHEARTjPINKHEARTjDROPOFBLOODlADHESIVEBANDAGEpSTETHOSCOPElXRAYeCRUTCH 1",
     "fa80:YOYOeKITEePARACHUTEjBOOMERANGjMAGICWANDjPINATAgNESTINGDOLLSmMARACAShFLUTE 1fa90:RINGEDP",
     "LANETmCHAIRfRAZORfAXEdDIYALAMPiBANJOfMILITARYHELMEToACCORDIONjLONGDRUMiCOINdARPENTRYSAWmSCRE",
     "WDRIVERlLADDERgHOOKeMIRRORgWINDOWgPLUNGERhSEWINGNEEDLEmKNOTeBUCKETgMOUSETRAPjTOOTHBRUSHkHEAD",
     "STONEjPLACARDhROCKeMIRRORBALLkIDENTIFICATIONCARDsLOWBATTERYkHAMSAfFOLDINGHANDFANoHAIRPICKiKH",
     "ANDAgFLYdWORMeBEETLEgCOCKROACHjPOTTEDPLANTlWOODeFEATHERhLOTUSfCORALfEMPTYNESTjNESTWITHEGGSmH",
     "YACINTHiJELLYFISHjWING 1fabf:GOOSEfANATOMICALHEARTpLUNGSfPEOPLEHUGGINGmREGNANTMANdPERSONnERS",
     "ONWITHCROWN 1face:MOOSEfDONKEYgBLUEBERRIESkELLPEPPERkOLIVEfFLATBREADjTAMALEgFONDUEgTEAPOTgPO",
     "URINGLIQUIDnBEANSfJARdGINGERROOTkPEAPOD 1fae0:MELTINGFACElSALUTINGFACEmFACEWITHOPENEYESANDHA",
     "NDOVERMOUTHyPEEKINGEYEkDIAGONALMOUTHvDOTTEDLINEFACEoBITINGLIPiUBBLEShSHAKINGFACE 1faf0:HANDW",
     "ITHINDEXFINGERANDTHUMBCROSSED 1faf1:RIGHTWARDSHANDoLEFTWARDSHANDnPALMDOWNHANDiUPHANDkINDEXPO",
     "INTINGATTHEVIEWERyHEARTHANDSkLEFTWARDSPUSHINGHANDuRIGHTWARDSPUSHINGHAND 1fb00:BLOCKSEXTANT1b",
     "2b12c3b13c23c123d4b14c24c124d34c134d234d1234e5b15c25c125d35c235d1235e45c145d245d1245e345d134",
     "5e2345e12345f6b16c26c126d36c136d236d1236e46c146c246e346d1346e2346e12346f56c156d256d1256e356d",
     "1356e2356e12356f456d1456e2456e12456f3456e13456f23456rLOWERLEFTBLOCKDIAGONALLOWERMIDDLELEFTTO",
     "LOWERCENTREgRIGHT 1fb3e:LOWERLEFTBLOCKDIAGONALUPPERMIDDLELEFTTOLOWERCENTREgRIGHTwLEFTTOLOWER",
     "CENTRE 1fb41:LOWERRIGHTBLOCKDIAGONALUPPERMIDDLELEFTTOUPPERCENTREgRIGHT 1fb43:LOWERRIGHTBLOCK",
     "DIAGONALLOWERMIDDLELEFTTOUPPERCENTREgRIGHTwLEFTTOUPPERCENTRErMIDDLELEFTTOUPPERMIDDLERIGHT 1f",
     "b47:LOWERRIGHTBLOCKDIAGONALLOWERCENTRETOLOWERMIDDLERIGHTyLEFTTOLOWERMIDDLERIGHTwCENTRETOUPPE",
     "RMIDDLERIGHTyLEFTTOUPPERMIDDLERIGHTwCENTRETOUPPERRIGHT 1fb4c:LOWERLEFTBLOCKDIAGONALUPPERCENT",
     "RETOUPPERMIDDLERIGHTyLEFTTOUPPERMIDDLERIGHTwCENTRETOLOWERMIDDLERIGHTyLEFTTOLOWERMIDDLERIGHTw",
     "CENTRETOLOWERRIGHTsMIDDLELEFTTOLOWERMIDDLERIGHT 1fb52:UPPERRIGHTBLOCKDIAGONALLOWERMIDDLELEFT",
     "TOLOWERCENTREgRIGHT 1fb54:UPPERRIGHTBLOCKDIAGONALUPPERMIDDLELEFTTOLOWERCENTREgRIGHTwLEFTTOLO",
     "WERCENTRE 1fb57:UPPERLEFTBLOCKDIAGONALUPPERMIDDLELEFTTOUPPERCENTREgRIGHT 1fb59:UPPERLEFTBLOC",
     "KDIAGONALLOWERMIDDLELEFTTOUPPERCENTREgRIGHTwLEFTTOUPPERCENTRErMIDDLELEFTTOUPPERMIDDLERIGHT 1",
     "fb5d:UPPERLEFTBLOCKDIAGONALLOWERCENTRETOLOWERMIDDLERIGHTyLEFTTOLOWERMIDDLERIGHTwCENTRETOUPPE",
     "RMIDDLERIGHTyLEFTTOUPPERMIDDLERIGHTwCENTRETOUPPERRIGHT 1fb62:UPPERRIGHTBLOCKDIAGONALUPPERCEN",
     "TRETOUPPERMIDDLERIGHTyLEFTTOUPPERMIDDLERIGHTwCENTRETOLOWERMIDDLERIGHTyLEFTTOLOWERMIDDLERIGHT",
     "wCENTRETOLOWERRIGHTsMIDDLELEFTTOLOWERMIDDLERIGHT 1fb68:UPPERANDRIGHTANDLOWERTRIANGULARTHREEQ",
     "UARTERSBLOCK 1fb69:LEFTANDLOWERANDRIGHTTRIANGULARTHREEQUARTERSBLOCK 1fb6a:UPPERANDLEFTANDLOW",
     "ERTRIANGULARTHREEQUARTERSBLOCK 1fb6b:LEFTANDUPPERANDRIGHTTRIANGULARTHREEQUARTERSBLOCK 1fb6c:",
     "LEFTTRIANGULARONEQUARTERBLOCK 1fb6d:UPPERTRIANGULARONEQUARTERBLOCK 1fb6e:RIGHTTRIANGULARONEQ",
     "UARTERBLOCK 1fb6f:LOWERTRIANGULARONEQUARTERBLOCK 1fb70:VERTICALONEEIGHTHBLOCK2b3b4b5b6b7xHOR",
     "IZONTALONEEIGHTHBLOCK2b3b4b5b6b7zLEFTANDLOWERONEEIGHTHBLOCKtUPPERONEEIGHTHBLOCK 1fb7e:RIGHTA",
     "NDUPPERONEEIGHTHBLOCKtLOWERONEEIGHTHBLOCK 1fb80:UPPERANDLOWERONEEIGHTHBLOCK 1fb81:HORIZONTAL",
     "ONEEIGHTHBLOCK1358 1fb82:UPPERONEQUARTERBLOCKpTHREEEIGHTHSBLOCKrFIVEEIGHTHSBLOCKqTHREEQUARTE",
     "RSBLOCKsSEVENEIGHTHSBLOCKwRIGHTONEQUARTERBLOCKpTHREEEIGHTHSBLOCKrFIVEEIGHTHSBLOCKqTHREEQUART",
     "ERSBLOCKsSEVENEIGHTHSBLOCKwLEFTHALFMEDIUMSHADEtRIGHTHALFMEDIUMSHADEuUPPERHALFMEDIUMSHADEuLOW",
     "ERHALFMEDIUMSHADEuINVERSEMEDIUMSHADEsUPPERHALFBLOCKANDLOWERHALFINVERSEMEDIUMSHADE 1fb92:UPPE",
     "RHALFINVERSEMEDIUMSHADEANDLOWERHALFBLOCK 1fb94:LEFTHALFINVERSEMEDIUMSHADEANDRIGHTHALFBLOCK 1",
     "fb95:CHECKERBOARDFILLqINVERSECHECKERBOARDFILLxHEAVYHORIZONTALFILLtUPPERLEFTTOLOWERRIGHTFILLu",
     "RIGHTTOLOWERLEFTFILLuANDLOWERTRIANGULARHALFBLOCK 1fb9b:LEFTANDRIGHTTRIANGULARHALFBLOCK 1fb9c",
     ":UPPERLEFTTRIANGULARMEDIUMSHADEzRIGHTTRIANGULARMEDIUMSHADE 1fb9e:LOWERRIGHTTRIANGULARMEDIUMS",
     "HADE 1fb9f:LOWERLEFTTRIANGULARMEDIUMSHADE 1fba0:BOXDRAWINGSLIGHTDIAGONALUPPERCENTRETOMIDDLEL",
     "EFTeRIGHTyMIDDLELEFTTOLOWERCENTRErRIGHTTOLOWERCENTREyUPPERCENTRETOMIDDLELEFTTOLOWERCENTRErRI",
     "GHTTOLOWERCENTRE 1fba6:BOXDRAWINGSLIGHTDIAGONALMIDDLELEFTTOLOWERCENTRETOMIDDLERIGHTyUPPERCEN",
     "TRETOMIDDLERIGHT 1fba8:BOXDRAWINGSLIGHTDIAGONALUPPERCENTRETOMIDDLELEFTANDMIDDLERIGHTTOLOWERC",
     "ENTRE 1fba9:BOXDRAWINGSLIGHTDIAGONALUPPERCENTRETOMIDDLERIGHTANDMIDDLELEFTTOLOWERCENTRE 1fbaa",
     ":BOXDRAWINGSLIGHTDIAGONALUPPERCENTRETOMIDDLERIGHTTOLOWERCENTRETOMIDDLELEFT 1fbab:BOXDRAWINGS",
     "LIGHTDIAGONALUPPERCENTRETOMIDDLELEFTTOLOWERCENTRETOMIDDLERIGHT 1fbac:BOXDRAWINGSLIGHTDIAGONA",
     "LMIDDLELEFTTOUPPERCENTRETOMIDDLERIGHTTOLOWERCENTRE 1fbad:BOXDRAWINGSLIGHTDIAGONALMIDDLERIGHT",
     "TOUPPERCENTRETOMIDDLELEFTTOLOWERCENTRE 1fbae:BOXDRAWINGSLIGHTDIAGONALDIAMONDpHORIZONTALWITHV",
     "ERTICALSTROKE 1fbb0:ARROWHEADSHAPEDPOINTERwINVERSECHECKMARKqLEFTHALFRUNNINGMANsRIGHTHALFRUNN",
     "INGMANtINVERSEDOWNWARDSARROWWITHTIPLEFTWARDS 1fbb5:LEFTWARDSARROWANDUPPERANDLOWERONEEIGHTHBL",
     "OCK 1fbb6:RIGHTWARDSARROWANDUPPERANDLOWERONEEIGHTHBLOCK 1fbb7:DOWNWARDSARROWANDRIGHTONEEIGHT",
     "HBLOCK 1fbb8:UPWARDSARROWANDRIGHTONEEIGHTHBLOCK 1fbb9:LEFTHALFFOLDERoRIGHTHALFFOLDERpVOIDEDG",
     "REEKCROSSqRIGHTOPENSQUAREDDOTtNEGATIVEDIAGONALCROSSfMIDDLERIGHTTOLOWERCENTREyDIAMONDxWHITEHE",
     "AVYSALTIREWITHROUNDEDCORNERS 1fbc1:LEFTTHIRDWHITERIGHTPOINTINGINDEX 1fbc2:MIDDLETHIRDWHITERI",
     "GHTPOINTINGINDEX 1fbc3:RIGHTTHIRDWHITERIGHTPOINTINGINDEX 1fbc4:NEGATIVESQUAREDQUESTIONMARK 1",
     "fbc5:STICKFIGUREaWITHARMSRAISEDoLEANINGLEFTeRIGHTmWITHDRESSuWHITEUPPOINTINGCHEVRON 1fbf0:SEG",
     "MENTEDDIGITZEROeONEdTWOcHREEfFOURdIVEeSIXcEVENfEIGHTfNINE e0001:LANGUAGETAG e0020:TAGSPACEfE",
     "XCLAMATIONMARKpQUOTATIONMARKnNUMBERSIGNkDOLLARSIGNkPERCENTSIGNlAMPERSANDiPOSTROPHEkLEFTPAREN",
     "THESISpRIGHTPARENTHESISqASTERISKiPLUSSIGNiCOMMAfHYPHENMINUSlFULLSTOPiSOLIDUShDIGITZEROeONEdT",
     "WOcHREEfFOURdIVEeSIXcEVENfEIGHTfNINEjCOLONfSEMICOLONjLESSTHANSIGNmEQUALSSIGNkGREATERTHANSIGN",
     "pQUESTIONMARKmCOMMERCIALATmLATINCAPITALLETTERAbBbCbDbEbFbGbHbIbJbKbLbMbNbObPbQbRbSbTbUbVbWbX",
     "bYbZsEFTSQUAREBRACKETrREVERSESOLIDUSnIGHTSQUAREBRACKETsCIRCUMFLEXACCENTqLOWLINEhGRAVEACCENTl",
     "LATINSMALLLETTERAbBbCbDbEbFbGbHbIbJbKbLbMbNbObPbQbRbSbTbUbVbWbXbYbZqEFTCURLYBRACKETqVERTICAL",
     "LINEmRIGHTCURLYBRACKETrTILDEiCANCELTAG e0100:VARIATIONSELECTOR17b8b9c20b1b2b3b4b5b6b7b8b9c30",
     "b1b2b3b4b5b6b7b8b9c40b1b2b3b4b5b6b7b8b9c50b1b2b3b4b5b6b7b8b9c60b1b2b3b4b5b6b7b8b9c70b1b2b3b4",
     "b5b6b7b8b9c80b1b2b3b4b5b6b7b8b9c90b1b2b3b4b5b6b7b8b9c100b1b2b3b4b5b6b7b8b9c10b1b2b3b4b5b6b7b",
     "8b9c20b1b2b3b4b5b6b7b8b9c30b1b2b3b4b5b6b7b8b9c40b1b2b3b4b5b6b7b8b9c50b1b2b3b4b5b6b7b8b9c60b1",
     "b2b3b4b5b6b7b8b9c70b1b2b3b4b5b6b7b8b9c80b1b2b3b4b5b6b7b8b9c90b1b2b3b4b5b6b7b8b9d200b1b2b3b4b",
     "5b6b7b8b9c10b1b2b3b4b5b6b7b8b9c20b1b2b3b4b5b6b7b8b9c30b1b2b3b4b5b6b7b8b9c40b1b2b3b4b5b6b7b8b",
     "9c50b1b2b3b4b5b6"]

end ScriptBundle.Text.CharacterName
