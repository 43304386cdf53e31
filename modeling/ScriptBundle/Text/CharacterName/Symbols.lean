/-!
# Names of symbols

Punctuation, arrows, operators, shapes and other symbols.
-/

namespace ScriptBundle.Text.CharacterName

/-- Names of the code points from 2000 to 2e7f. -/
def symbolNames : List String :=
    ["2000:ENQUADfMQUADfNSPACEgMSPACEhTHREEPEREMSPACEpFOURPEREMSPACEoSIXPEREMSPACEnFIGURESPACElPUN",
     "CTUATIONSPACEqTHINSPACEjHAIRSPACEjZEROWIDTHSPACEfNONJOINERjJOINERpLEFTTORIGHTMARKpRIGHTTOLEF",
     "TMARKpHYPHENgNONBREAKINGHYPHENrFIGUREDASHkENDASHfMDASHgHORIZONTALBARnDOUBLEVERTICALLINEmLOWL",
     "INEnLEFTSINGLEQUOTATIONMARKxRIGHTSINGLEQUOTATIONMARKySINGLELOW9QUOTATIONMARKrHIGHREVERSED9QU",
     "OTATIONMARK 201c:LEFTDOUBLEQUOTATIONMARKxRIGHTDOUBLEQUOTATIONMARKyDOUBLELOW9QUOTATIONMARKrHI",
     "GHREVERSED9QUOTATIONMARK 2020:DAGGERfOUBLEDAGGERmBULLETgTRIANGULARBULLETqONEDOTLEADERmTWODOT",
     "LEADERmHORIZONTALELLIPSISrYPHENATIONPOINTqLINESEPARATORnPARAGRAPHSEPARATORsLEFTTORIGHTEMBEDD",
     "INGuRIGHTTOLEFTEMBEDDINGuPOPDIRECTIONALFORMATTINGyLEFTTORIGHTOVERRIDEtRIGHTTOLEFTOVERRIDEtNA",
     "RROWNOBREAKSPACEsPERMILLESIGNjTENTHOUSANDSIGNrRIMEfDOUBLEPRIMElTRIPLEPRIMElREVERSEDPRIMEfDOU",
     "BLEPRIMElTRIPLEPRIMEtCARETfSINGLELEFTPOINTINGANGLEQUOTATIONMARK 203a:SINGLERIGHTPOINTINGANGL",
     "EQUOTATIONMARK 203b:REFERENCEMARKnDOUBLEEXCLAMATIONMARKvINTERROBANGlOVERLINEiUNDERTIEiCHARAC",
     "TERTIElARETINSERTIONPOINTtASTERISMiHYPHENBULLETmFRACTIONSLASHnLEFTSQUAREBRACKETWITHQUILL 204",
     "6:RIGHTSQUAREBRACKETWITHQUILL 2047:DOUBLEQUESTIONMARKsQUESTIONEXCLAMATIONMARKxEXCLAMATIONQUE",
     "STIONMARKxTIRONIANSIGNEToREVERSEDPILCROWSIGNtBLACKLEFTWARDSBULLETpRIGHTWARDSBULLETvLOWASTERI",
     "SKlREVERSEDSEMICOLONrCLOSEUPhTWOASTERISKSALIGNEDVERTICALLY 2052:COMMERCIALMINUSSIGNtSWUNGDAS",
     "HjINVERTEDUNDERTIEqFLOWERPUNCTUATIONMARKvTHREEDOTPUNCTUATIONtQUADRUPLEPRIMEoFOURDOTPUNCTUATI",
     "ONrIVEDOTPUNCTUATIONsTWODOTPUNCTUATIONrFOURDOTMARKlDOTTEDCROSSlTRICOLONiVERTICALFOURDOTSqMED",
     "IUMMATHEMATICALSPACExWORDJOINERkFUNCTIONAPPLICATIONtINVISIBLETIMESfSEPARATORjPLUS 2066:LEFTT",
     "ORIGHTISOLATEsRIGHTTOLEFTISOLATEsFIRSTSTRONGISOLATEsPOPDIRECTIONALISOLATEvINHIBITSYMMETRICSW",
     "APPINGyACTIVATESYMMETRICSWAPPINGzINHIBITARABICFORMSHAPINGyACTIVATEARABICFORMSHAPINGzNATIONAL",
     "DIGITSHAPESsOMINALDIGITSHAPESsSUPERSCRIPTZEROeLATINSMALLLETTERI 2074:SUPERSCRIPTFOURdIVEeSIX",
     "cEVENfEIGHTfNINEePLUSSIGNiMINUSfEQUALSSIGNkLEFTPARENTHESISpRIGHTPARENTHESISqLATINSMALLLETTER",
     "N 2080:SUBSCRIPTZEROeONEdTWOcHREEfFOURdIVEeSIXcEVENfEIGHTfNINEePLUSSIGNiMINUSfEQUALSSIGNkLEF",
     "TPARENTHESISpRIGHTPARENTHESIS 2090:LATINSUBSCRIPTSMALLLETTERAbEbObXbSCHWAfHbKbLbMbNbPbSbT 20",
     "a0:EUROCURRENCYSIGNqCOLONSIGNiRUZEIROSIGNmFRENCHFRANCSIGNpLIRASIGNiMILLSIGNiNAIRASIGNjPESETA",
     "SIGNkRUPEESIGNjWONSIGNhNEWSHEQELSIGNnDONGSIGNiEUROSIGNiKIPSIGNhTUGRIKSIGNkDRACHMASIGNlGERMAN",
     "PENNYSIGNpPESOSIGNiGUARANISIGNlAUSTRALSIGNlHRYVNIASIGNlCEDISIGNiLIVRETOURNOISSIGNrSPESMILOSI",
     "GNmTENGESIGNjINDIANRUPEESIGNpTURKISHLIRASIGNpNORDICMARKSIGNoMANATSIGNjRUBLESIGNjLARISIGNiBIT",
     "COINSIGNlSOMSIGN 20d0:COMBININGLEFTHARPOONABOVEqRIGHTHARPOONABOVErLONGVERTICALLINEOVERLAYxSH",
     "ORTVERTICALLINEOVERLAYyANTICLOCKWISEARROWABOVExCLOCKWISEARROWABOVEtLEFTARROWABOVEoRIGHTARROW",
     "ABOVEnNGOVERLAYlCLOCKWISERINGOVERLAYuANTICLOCKWISERINGOVERLAYyTHREEDOTSABOVEoFOURDOTSABOVEnE",
     "NCLOSINGCIRCLEgSQUAREgDIAMONDhCIRCLEBACKSLASHyLEFTRIGHTARROWABOVEtENCLOSINGSCREENgKEYCAPgUPW",
     "ARDPOINTINGTRIANGLE 20e5:COMBININGREVERSESOLIDUSOVERLAYvDOUBLEVERTICALSTROKEOVERLAY 20e7:COM",
     "BININGANNUITYSYMBOLnTRIPLEUNDERDOToWIDEBRIDGEABOVEpLEFTWARDSARROWOVERLAYuONGDOUBLESOLIDUSOVE",
     "RLAYyRIGHTWARDSHARPOONWITHBARBDOWNWARDS 20ed:COMBININGLEFTWARDSHARPOONWITHBARBDOWNWARDS 20ee",
     ":COMBININGLEFTARROWBELOWoRIGHTARROWBELOWpASTERISKABOVE 2100:ACCOUNTOFiDDRESSEDTOTHESUBJECTvD",
     "OUBLESTRUCKCAPITALCtEGREECELSIUSnCENTRELINESYMBOLpAREOFeDAUNAhEULERCONSTANTnSCRUPLEhDEGREEFA",
     "HRENHEITqSCRIPTSMALLGgCAPITALHoBLACKLETTERCAPITALHtDOUBLESTRUCKCAPITALHuPLANCKCONSTANTaOVERT",
     "WOPIxSCRIPTCAPITALIoBLACKLETTERCAPITALItSCRIPTCAPITALLiSMALLLmLBBARSYMBOLlDOUBLESTRUCKCAPITA",
     "LNuNUMEROSIGNkSOUNDRECORDINGCOPYRIGHTwCRIPTCAPITALPoDOUBLESTRUCKCAPITALPbQuSCRIPTCAPITALRoBL",
     "ACKLETTERCAPITALRtDOUBLESTRUCKCAPITALRuPRESCRIPTIONTAKEqRESPONSEiSERVICEMARKlTELEPHONESIGNmR",
     "ADEMARKSIGNnVERSICLEiDOUBLESTRUCKCAPITALZuOUNCESIGNiHMSIGNhINVERTEDOHMSIGNpBLACKLETTERCAPITA",
     "LZtTURNEDGREEKSMALLLETTERIOTA 212a:KELVINSIGNkANGSTROMSIGNmSCRIPTCAPITALBoBLACKLETTERCAPITAL",
     "CtESTIMATEDSYMBOLpSCRIPTSMALLEgCAPITALEbFoTURNEDCAPITALFoSCRIPTCAPITALMiSMALLOmALEFSYMBOLkBE",
     "TSYMBOLjGIMELSYMBOLlDALETSYMBOLlINFORMATIONSOURCErROTATEDCAPITALQpFACSIMILESIGNnDOUBLESTRUCK",
     "SMALLPIcGAMMAkCAPITALGAMMAfPIjNARYSUMMATIONzTURNEDSANSSERIFCAPITALGbLxREVERSEDSANSSERIFCAPIT",
     "ALLzTURNEDSANSSERIFCAPITALYxDOUBLESTRUCKITALICCAPITALDiSMALLDbEbIbJyPROPERTYLINEmTURNEDAMPER",
     "SANDpPERSIGNhAKTIESELSKABmTURNEDSMALLFmSYMBOLFORSAMARITANSOURCEyVULGARFRACTIONONESEVENTHhNIN",
     "THfTENTHeHIRDiTWOTHIRDSjONEFIFTHiTWOFIFTHSiHREEFIFTHSlFOURFIFTHSkONESIXTHiFIVESIXTHSkONEEIGH",
     "THjTHREEEIGHTHSmFIVEEIGHTHSlSEVENEIGHTHS 215f:FRACTIONNUMERATORONEuROMANNUMERALONEdTWOcHREEf",
     "FOURdIVEeSIXcEVENfEIGHTfNINEeTENdELEVENgTWELVEgFIFTYfONEHUNDREDkFIVEHUNDREDlONETHOUSANDxSMAL",
     "LROMANNUMERALONEdTWOcHREEfFOURdIVEeSIXcEVENfEIGHTfNINEeTENdELEVENgTWELVEgFIFTYfONEHUNDREDkFI",
     "VEHUNDREDlONETHOUSAND 2180:ROMANNUMERALONETHOUSANDCDnFIVETHOUSANDmTENTHOUSANDlREVERSEDONEHUN",
     "DRED 2184:LATINSMALLLETTERREVERSEDCzROMANNUMERALSIXLATEFORMlFIFTYEARLYFORMjTHOUSANDnONEHUNDR",
     "EDTHOUSAND 2189:VULGARFRACTIONZEROTHIRDSyTURNEDDIGITTWOcHREE 2190:LEFTWARDSARROWoUPWARDSARRO",
     "WmRIGHTWARDSARROWpDOWNWARDSARROWoLEFTRIGHTARROWoUPDOWNARROWlNORTHWESTARROWjEASTARROWoSOUTHEA",
     "STARROWjWESTARROWoLEFTWARDSARROWWITHSTROKEyRIGHTWARDSARROWWITHSTROKEzLEFTWARDSWAVEARROWsRIGH",
     "TWARDSWAVEARROWtLEFTWARDSTWOHEADEDARROWxUPWARDSTWOHEADEDARROWvRIGHTWARDSTWOHEADEDARROWyDOWNW",
     "ARDSTWOHEADEDARROWxLEFTWARDSARROWWITHTAILwRIGHTWARDSARROWWITHTAILxLEFTWARDSARROWFROMBARvUPWA",
     "RDSARROWFROMBARtRIGHTWARDSARROWFROMBARwDOWNWARDSARROWFROMBARvUPDOWNARROWWITHBASEtLEFTWARDSAR",
     "ROWWITHHOOKwRIGHTWARDSARROWWITHHOOKxLEFTWARDSARROWWITHLOOPwRIGHTWARDSARROWWITHLOOPxLEFTRIGHT",
     "WAVEARROWjARROWWITHSTROKEyDOWNWARDSZIGZAGARROWuUPWARDSARROWWITHTIPLEFTWARDSjRIGHTWARDS 21b2:",
     "DOWNWARDSARROWWITHTIPLEFTWARDSjRIGHTWARDS 21b4:RIGHTWARDSARROWWITHCORNERDOWNWARDS 21b5:DOWNW",
     "ARDSARROWWITHCORNERLEFTWARDS 21b6:ANTICLOCKWISETOPSEMICIRCLEARROW 21b7:CLOCKWISETOPSEMICIRCL",
     "EARROW 21b8:NORTHWESTARROWTOLONGBARxLEFTWARDSARROWTOBAROVERRIGHTWARDSARROWTOBAR 21ba:ANTICLO",
     "CKWISEOPENCIRCLEARROW 21bb:CLOCKWISEOPENCIRCLEARROWyLEFTWARDSHARPOONWITHBARBUPWARDShDOWNWARD",
     "S 21be:UPWARDSHARPOONWITHBARBRIGHTWARDSkLEFTWARDS 21c0:RIGHTWARDSHARPOONWITHBARBUPWARDShDOWN",
     "WARDS 21c2:DOWNWARDSHARPOONWITHBARBRIGHTWARDSkLEFTWARDS 21c4:RIGHTWARDSARROWOVERLEFTWARDSARR",
     "OW 21c5:UPWARDSARROWLEFTWARDSOFDOWNWARDSARROW 21c6:LEFTWARDSARROWOVERRIGHTWARDSARROWyPAIREDA",
     "RROWSvUPWARDSPAIREDARROWStRIGHTWARDSPAIREDARROWSwDOWNWARDSPAIREDARROWSvLEFTWARDSHARPOONOVERR",
     "IGHTWARDSHARPOON 21cc:RIGHTWARDSHARPOONOVERLEFTWARDSHARPOON 21cd:LEFTWARDSDOUBLEARROWWITHSTR",
     "OKE 21ce:LEFTRIGHTDOUBLEARROWWITHSTROKE 21cf:RIGHTWARDSDOUBLEARROWWITHSTROKE 21d0:LEFTWARDSD",
     "OUBLEARROWuUPWARDSDOUBLEARROWsRIGHTWARDSDOUBLEARROWvDOWNWARDSDOUBLEARROWuLEFTRIGHTDOUBLEARRO",
     "WuUPDOWNDOUBLEARROWrNORTHWESTDOUBLEARROWpEASTDOUBLEARROWuSOUTHEASTDOUBLEARROWpWESTDOUBLEARRO",
     "WuLEFTWARDSTRIPLEARROWuRIGHTWARDSTRIPLEARROWvLEFTWARDSSQUIGGLEARROWwRIGHTWARDSSQUIGGLEARROWx",
     "UPWARDSARROWWITHDOUBLESTROKE 21df:DOWNWARDSARROWWITHDOUBLESTROKE 21e0:LEFTWARDSDASHEDARROWuU",
     "PWARDSDASHEDARROWsRIGHTWARDSDASHEDARROWvDOWNWARDSDASHEDARROWuLEFTWARDSARROWTOBARtRIGHTWARDSA",
     "RROWTOBARuLEFTWARDSWHITEARROWtUPWARDSWHITEARROWrRIGHTWARDSWHITEARROWuDOWNWARDSWHITEARROWtUPW",
     "ARDSWHITEARROWFROMBARhONPEDESTALaWITHHORIZONTALBARnVERTICALBAR 21ee:UPWARDSWHITEDOUBLEARROWa",
     "ONPEDESTAL 21f0:RIGHTWARDSWHITEARROWFROMWALL 21f1:NORTHWESTARROWTOCORNERwSOUTHEASTARROWTOCOR",
     "NERwUPDOWNWHITEARROWqRIGHTARROWWITHSMALLCIRCLEzDOWNWARDSARROWLEFTWARDSOFUPWARDSARROW 21f6:TH",
     "REERIGHTWARDSARROWSvLEFTWARDSARROWWITHVERTICALSTROKE 21f8:RIGHTWARDSARROWWITHVERTICALSTROKE ",
     "21f9:LEFTRIGHTARROWWITHVERTICALSTROKE 21fa:LEFTWARDSARROWWITHDOUBLEVERTICALSTROKE 21fb:RIGHT",
     "WARDSARROWWITHDOUBLEVERTICALSTROKE 21fc:LEFTRIGHTARROWWITHDOUBLEVERTICALSTROKE 21fd:LEFTWARD",
     "SOPENHEADEDARROWyRIGHTWARDSOPENHEADEDARROWzLEFTRIGHTOPENHEADEDARROWyFORALLgCOMPLEMENTkPARTIA",
     "LDIFFERENTIALtTHEREEXISTSgDOESNOTEXISTrEMPTYSETiINCREMENTjNABLAfELEMENTOFjNOTANELEMENTOFoSMA",
     "LLELEMENTOFoCONTAINSASMEMBERqDOESNOTCONTAINASMEMBERwSMALLCONTAINSASMEMBERvENDOFPROOFkNARYPRO",
     "DUCThCOPRODUCTjSUMMATIONnMINUSSIGNeORPLUSSIGNpDOTPLUSgIVISIONSLASHnSETMINUSiASTERISKOPERATOR",
     "qRINGOPERATORmBULLETOPERATORoSQUAREROOTkCUBEROOTiFOURTHROOTkPROPORTIONALTOoINFINITYiRIGHTANG",
     "LEkANGLEfMEASUREDANGLEnSPHERICALANGLEoDIVIDESgOESNOTDIVIDEnPARALLELTOkNOTPARALLELTOnLOGICALA",
     "NDdORjINTERSECTIONmUNIONfINTEGRALiDOUBLEINTEGRALoTRIPLEINTEGRALoCONTOURINTEGRALpSURFACEINTEG",
     "RALpVOLUMEINTEGRALoCLOCKWISEINTEGRALiCONTOURINTEGRALyANTICLOCKWISECONTOURINTEGRAL 2234:THERE",
     "FOREjBECAUSEhRATIOfPROPORTIONkDOTMINUSiEXCESSgGEOMETRICPROPORTIONtHOMOTHETICkTILDEOPERATORnR",
     "EVERSEDTILDEnINVERTEDLAZYSnSINEWAVEiWREATHPRODUCTnNOTTILDEiMINUSTILDEkASYMPTOTICALLYEQUALTOv",
     "NOTASYMPTOTICALLYEQUALTOyAPPROXIMATELYEQUALTOhBUTNOTACTUALLYEQUALTO 2247:NEITHERAPPROXIMATEL",
     "YNORACTUALLYEQUALTO 2248:ALMOSTEQUALTOnNOTALMOSTEQUALTOqALMOSTEQUALOREQUALTOuTRIPLETILDElALL",
     "EQUALTOkEQUIVALENTTOmGEOMETRICALLYEQUIVALENTTOzDIFFERENCEBETWEENrAPPROACHESTHELIMITsGEOMETRI",
     "CALLYEQUALTOuAPPROXIMATELYEQUALTOORTHEIMAGEOF 2253:IMAGEOFORAPPROXIMATELYEQUALTO 2254:COLONE",
     "QUALSlEQUALSCOLONlRINGINEQUALTOjEQUALTOlCORRESPONDSTOnESTIMATESiQUIANGULARTOnSTAREQUALSkDELT",
     "AEQUALTOmEQUALTOBYDEFINITIONtMEASUREDBYkQUESTIONEDEQUALTOrNOTEQUALTOkIDENTICALTOlNOTIDENTICA",
     "LTOoSTRICTLYEQUIVALENTTOuLESSTHANOREQUALTOrGREATERTHANOREQUALTOuLESSTHANOVEREQUALTOtGREATERT",
     "HANOVEREQUALTOwLESSTHANBUTNOTEQUALTOvGREATERTHANBUTNOTEQUALTOyMUCHLESSTHANiGREATERTHANpBETWE",
     "ENhNOTEQUIVALENTTOmLESSTHANiGREATERTHANnEITHERLESSTHANNOREQUALTOsGREATERTHANNOREQUALTO 2272:",
     "LESSTHANOREQUIVALENTTOwGREATERTHANOREQUIVALENTTOzNEITHERLESSTHANNOREQUIVALENTTOxGREATERTHANN",
     "OREQUIVALENTTO 2276:LESSTHANORGREATERTHANvGREATERTHANORLESSTHANvNEITHERLESSTHANNORGREATERTHA",
     "NwGREATERTHANNORLESSTHAN 227a:PRECEDESiSUCCEEDSiPRECEDESOREQUALTOrSUCCEEDSOREQUALTOrPRECEDES",
     "OREQUIVALENTTOwSUCCEEDSOREQUIVALENTTOwDOESNOTPRECEDEhSUCCEEDoSUBSETOFgPERSETOFkNOTASUBSETOFg",
     "PERSETOFoSUBSETOFOREQUALTOpPERSETOFOREQUALTOtNEITHERASUBSETOFNOREQUALTOqPERSETOFNOREQUALTO 2",
     "28a:SUBSETOFWITHNOTEQUALTOuPERSETOFWITHNOTEQUALTOyMULTISETaMULTIPLICATIONoUNIONnSQUAREIMAGEO",
     "FhORIGINALOFkIMAGEOFOREQUALTOqORIGINALOFOREQUALTOtCAPcUPjCIRCLEDPLUSeMINUSfTIMESfDIVISIONSLA",
     "SHmOTOPERATORlRINGOPERATORmASTERISKOPERATORqEQUALSgDASHlSQUAREDPLUSeMINUSfTIMESfDOTOPERATORs",
     "RIGHTTACKjLEFTTACKiDOWNTACKiUPTACKgASSERTIONjMODELSgTRUEeFORCESgTRIPLEVERTICALBARRIGHTTURNST",
     "ILE 22ab:DOUBLEVERTICALBARDOUBLERIGHTTURNSTILE 22ac:DOESNOTPROVEmNOTTRUEhDOESNOTFORCEmNEGATE",
     "DDOUBLEVERTICALBARDOUBLERIGHTTURNSTILE 22b0:PRECEDESUNDERRELATIONvSUCCEEDSUNDERRELATIONvNORM",
     "ALSUBGROUPOFqCONTAINSASNORMALSUBGROUPyNORMALSUBGROUPOFOREQUALTOzCONTAINSASNORMALSUBGROUPOREQ",
     "UALTO 22b6:ORIGINALOFkIMAGEOFhMULTIMAPiHERMITIANCONJUGATEMATRIXyINTERCALATElXORdNANDdORdRIGH",
     "TANGLEWITHARCmTRIANGLEnNARYLOGICALANDdORjINTERSECTIONmUNIONjDIAMONDOPERATORoOTOPERATORlSTARO",
     "PERATORmDIVISIONTIMESnBOWTIEgLEFTNORMALFACTORSEMIDIRECTPRODUCT 22ca:RIGHTNORMALFACTORSEMIDIR",
     "ECTPRODUCT 22cb:LEFTSEMIDIRECTPRODUCTvRIGHTSEMIDIRECTPRODUCTvEVERSEDTILDEEQUALStCURLYLOGICAL",
     "ORcANDpDOUBLESUBSETePERSETiINTERSECTIONmUNIONlPITCHFORKjEQUALANDPARALLELTOsLESSTHANWITHDOTpG",
     "REATERTHANWITHDOTsVERYMUCHLESSTHANiGREATERTHANtLESSTHANEQUALTOORGREATERTHAN 22db:GREATERTHAN",
     "EQUALTOORLESSTHAN 22dc:EQUALTOORLESSTHANiGREATERTHANlPRECEDESiSUCCEEDSrDOESNOTPRECEDEOREQUAL",
     "oSUCCEEDOREQUALvNOTSQUAREIMAGEOFOREQUALTOqORIGINALOFOREQUALTO 22e4:SQUAREIMAGEOFORNOTEQUALTO",
     "tORIGINALOFORNOTEQUALTO 22e6:LESSTHANBUTNOTEQUIVALENTTO 22e7:GREATERTHANBUTNOTEQUIVALENTTO 2",
     "2e8:PRECEDESBUTNOTEQUIVALENTTO 22e9:SUCCEEDSBUTNOTEQUIVALENTTO 22ea:NOTNORMALSUBGROUPOFtDOES",
     "NOTCONTAINASNORMALSUBGROUP 22ec:NOTNORMALSUBGROUPOFOREQUALTO 22ed:DOESNOTCONTAINASNORMALSUBG",
     "ROUPOREQUAL 22ee:VERTICALELLIPSISqMIDLINEHORIZONTALELLIPSISzUPRIGHTDIAGONALELLIPSISxDOWNRIGH",
     "TDIAGONALELLIPSISzELEMENTOFWITHLONGHORIZONTALSTROKEuVERTICALBARATENDOFHORIZONTALSTROKE 22f4:",
     "SMALLELEMENTOFWITHVERTICALBARATENDOFHORIZONTALSTROKE 22f5:ELEMENTOFWITHDOTABOVEiOVERBARuSMAL",
     "LELEMENTOFWITHOVERBARzELEMENTOFWITHUNDERBARiTWOHORIZONTALSTROKES 22fa:CONTAINSWITHLONGHORIZO",
     "NTALSTROKEuVERTICALBARATENDOFHORIZONTALSTROKE 22fc:SMALLCONTAINSWITHVERTICALBARATENDOFHORIZO",
     "NTALSTROKE 22fd:CONTAINSWITHOVERBARtSMALLCONTAINSWITHOVERBARyZNOTATIONBAGMEMBERSHIPwDIAMETER",
     "SIGNmELECTRICARROWnHOUSEfUPARROWHEADlDOWNARROWHEADnPROJECTIVEjERSPECTIVElWAVYLINEiLEFTCEILIN",
     "GlRIGHTCEILINGmLEFTFLOORjRIGHTFLOORkBOTTOMRIGHTCROPjLEFTCROPoTOPRIGHTCROPjLEFTCROPlREVERSEDN",
     "OTSIGNpSQUARELOZENGEnARCdSEGMENTfCTORgTELEPHONERECORDERrPOSITIONINDICATORrVIEWDATASQUAREoPLA",
     "CEOFINTERESTSIGNtTURNEDNOTSIGNnWATCHfHOURGLASSjTOPLEFTCORNERkRIGHTCORNERoBOTTOMLEFTCORNERkRI",
     "GHTCORNERrTOPHALFINTEGRALpBOTTOMHALFINTEGRALsFROWNfSMILEfUPARROWHEADBETWEENTWOHORIZONTALBARS",
     " 2325:OPTIONKEYjERASETOTHERIGHTpXINARECTANGLEBOXqKEYBOARDiLEFTPOINTINGANGLEBRACKETyRIGHTPOIN",
     "TINGANGLEBRACKETzERASETOTHELEFToBENZENERINGlCYLINDRICITYmALLAROUNDPROFILEqSYMMETRYiTOTALRUNO",
     "UTlDIMENSIONORIGINpCONICALTAPERmSLOPEfCOUNTERBOREeSINKlAPLFUNCTIONALSYMBOLIBEAMfSQUISHQUADkQ",
     "UADEQUALfDIVIDEeAMONDhJOTdCIRCLEkCIRCLESTILEfJOTjSLASHBARiBACKSLASHBARmQUADSLASHfBACKSLASHjL",
     "ESSTHANiGREATERTHANpLEFTWARDSVANEnRIGHTWARDSVANEoQUADLEFTWARDSARROWoRIGHTWARDSARROWtCIRCLEBA",
     "CKSLASHpDOWNTACKUNDERBARpELTASTILEkQUADDOWNCARETiELTAjDOWNTACKJOTlUPWARDSVANElQUADUPWARDSARR",
     "OWqUPTACKOVERBARnDELSTILEiQUADUPCAREThDELhUPTACKJOTjDOWNWARDSVANEnQUADDOWNWARDSARROWqOTEUNDE",
     "RBARnDELTAUNDERBARmIAMONDUNDERBARpJOTUNDERBARlCIRCLEUNDERBARoUPSHOEJOTjQUOTEQUADjCIRCLESTARk",
     "QUADCOLONjUPTACKDIAERESISpDELDIAERESISmSTARDIAERESISnJOTDIAERESISmCIRCLEDIAERESISpDOWNSHOEST",
     "ILEnLEFTSHOESTILEnTILDEDIAERESISoGREATERTHANDIAERESISuCOMMABARiDELTILDEiZILDEfSTILETILDEjEMI",
     "COLONUNDERBARrQUADNOTEQUALiQUESTIONmDOWNCARETTILDEoUPCARETTILDEmIOTAeRHOdOMEGAfALPHAUNDERBAR",
     "nEPSILONUNDERBARpIOTAUNDERBARmOMEGAUNDERBARnALPHAyNOTCHECKMARKmRIGHTANGLEWITHDOWNWARDSZIGZAG",
     "ARROW 237d:SHOULDEREDOPENBOXrBELLSYMBOLkVERTICALLINEWITHMIDDLEDOTzINSERTIONSYMBOLpCONTINUOUS",
     "UNDERLINESYMBOLzDISCONTINUOUSUNDERLINESYMBOL 2383:EMPHASISSYMBOLoCOMPOSITIONSYMBOLrWHITESQUA",
     "REWITHCENTREVERTICALLINE 2386:ENTERSYMBOLlALTERNATIVEKEYSYMBOLuHELMSYMBOLkCIRCLEDHORIZONTALB",
     "ARWITHNOTCHwTRIANGLEDOWNtBROKENCIRCLEWITHNORTHWESTARROW 238c:UNDOSYMBOLkMONOSTABLESYMBOLqHYS",
     "TERESISSYMBOLqOPENCIRCUITOUTPUTHTYPESYMBOLlLTYPESYMBOL 2391:PASSIVEPULLDOWNOUTPUTSYMBOLqUPOU",
     "TPUTSYMBOLzDIRECTCURRENTSYMBOLFORMTWO 2394:SOFTWAREFUNCTIONSYMBOLwAPLFUNCTIONALSYMBOLQUADxDE",
     "CIMALSEPARATORKEYSYMBOLzPREVIOUSPAGEmNEXTPAGEiPRINTSCREENSYMBOLrCLEARSCREENSYMBOLrLEFTPARENT",
     "HESISUPPERHOOKjEXTENSIONjLOWERHOOKyRIGHTPARENTHESISUPPERHOOKjEXTENSIONjLOWERHOOKzLEFTSQUAREB",
     "RACKETUPPERCORNERlEXTENSIONjLOWERCORNER 23a4:RIGHTSQUAREBRACKETUPPERCORNERlEXTENSIONjLOWERCO",
     "RNER 23a7:LEFTCURLYBRACKETUPPERHOOKjMIDDLEPIECElLOWERHOOKzCURLYBRACKETEXTENSIONvRIGHTCURLYBR",
     "ACKETUPPERHOOKjMIDDLEPIECElLOWERHOOK 23ae:INTEGRALEXTENSIONrHORIZONTALLINEEXTENSIONxUPPERLEF",
     "TORLOWERRIGHTCURLYBRACKETSECTION 23b1:UPPERRIGHTORLOWERLEFTCURLYBRACKETSECTION 23b2:SUMMATIO",
     "NTOPdBOTTOMpTOPSQUAREBRACKETqBOTTOMSQUAREBRACKETaOVERTOPSQUAREBRACKET 23b7:RADICALSYMBOLBOTT",
     "OMtLEFTVERTICALBOXLINEtRIGHTVERTICALBOXLINEuHORIZONTALSCANLINE1b3b7b9tDENTISTRYSYMBOLLIGHTVE",
     "RTICALANDTOPRIGHTiBOTTOMRIGHToWITHCIRCLEsDOWNANDHORIZONTALWITHCIRCLE 23c2:DENTISTRYSYMBOLLIG",
     "HTUPANDHORIZONTALWITHCIRCLEzVERTICALWITHTRIANGLEuDOWNANDHORIZONTALWITHTRIANGLE 23c5:DENTISTR",
     "YSYMBOLLIGHTUPANDHORIZONTALWITHTRIANGLE 23c6:DENTISTRYSYMBOLLIGHTVERTICALANDWAVEpDOWNANDHORI",
     "ZONTALWITHWAVEzUPANDHORIZONTALWITHWAVExDOWNANDHORIZONTALrUPANDHORIZONTALpVERTICALANDTOPLEFTh",
     "BOTTOMLEFT 23cd:SQUAREFOOTkRETURNSYMBOLmEJECTSYMBOLlVERTICALLINEEXTENSIONvMETRICALBREVEfLONG",
     "OVERSHORTnSHORTOVERLONGnLONGOVERTWOSHORTSrTWOSHORTSOVERLONGiJOINEDoRISEMEgETRASEMEjPENTASEME",
     "rEARTHGROUNDlFUSEeTOPPARENTHESISoBOTTOMPARENTHESISrTOPCURLYBRACKETpBOTTOMCURLYBRACKETsTOPTOR",
     "TOISESHELLBRACKETxBOTTOMTORTOISESHELLBRACKET 23e2:WHITETRAPEZIUMoBENZENERINGWITHCIRCLEvSTRAI",
     "GHTNESSmFLATNESSiACCURRENTjELECTRICALINTERSECTIONwDECIMALEXPONENTSYMBOLvBLACKRIGHTPOINTINGDO",
     "UBLETRIANGLE 23ea:BLACKLEFTPOINTINGDOUBLETRIANGLE 23eb:BLACKUPPOINTINGDOUBLETRIANGLEyDOWNPOI",
     "NTINGDOUBLETRIANGLE 23ed:BLACKRIGHTPOINTINGDOUBLETRIANGLEWITHVERTICALBAR 23ee:BLACKLEFTPOINT",
     "INGDOUBLETRIANGLEWITHVERTICALBAR 23ef:BLACKRIGHTPOINTINGTRIANGLEWITHDOUBLEVERTICALBAR 23f0:A",
     "LARMCLOCKkSTOPWATCHjTIMERCLOCKkHOURGLASSWITHFLOWINGSANDyBLACKMEDIUMLEFTPOINTINGTRIANGLEuRIGH",
     "TPOINTINGTRIANGLEvUPPOINTINGTRIANGLEsDOWNPOINTINGTRIANGLE 23f8:DOUBLEVERTICALBARrBLACKSQUARE",
     "FORSTOPnCIRCLEFORRECORDuPOWERSYMBOLgONOFFSYMBOLjSYMBOLiSLEEPSYMBOLqOBSERVEREYESYMBOLrSYMBOLF",
     "ORNULLeSTARTOFHEADINGhTEXTlENDOFTEXTdRANSMISSIONpQUIRYhACKNOWLEDGElBELLdACKSPACEjHORIZONTALT",
     "ABULATIONuLINEFEEDiVERTICALTABULATIONsFORMFEEDiCARRIAGERETURNoSHIFTOUTdINhDATALINKESCAPEnEVI",
     "CECONTROLONEdTWOcHREEfFOURrNEGATIVEACKNOWLEDGEtSYNCHRONOUSIDLEpENDOFTRANSMISSIONBLOCKwCANCEL",
     "gENDOFMEDIUMlSUBSTITUTEkESCAPEgFILESEPARATORnGROUPSEPARATORoRECORDSEPARATORpUNITSEPARATORnSP",
     "ACEfDELETEpBLANKSYMBOLlOPENBOXhSYMBOLFORNEWLINEhDELETEFORMTWOnSUBSTITUTEFORMTWO 2440:OCRHOOK",
     "eCHAIRfFORKeINVERTEDFORKmBELTBUCKLEjOWTIEfRANCHBANKIDENTIFICATIONyAMOUNTOFCHECKnDASHeCUSTOME",
     "RACCOUNTNUMBERvDOUBLEBACKSLASH 2460:CIRCLEDDIGITONEdTWOcHREEfFOURdIVEeSIXcEVENfEIGHTfNINEjNU",
     "MBERTENdELEVENgTWELVEfHIRTEENiFOURTEENhIFTEENhSIXTEENgEVENTEENjEIGHTEENiNINETEENiTWENTYtPARE",
     "NTHESIZEDDIGITONEdTWOcHREEfFOURdIVEeSIXcEVENfEIGHTfNINEjNUMBERTENdELEVENgTWELVEfHIRTEENiFOUR",
     "TEENhIFTEENhSIXTEENgEVENTEENjEIGHTEENiNINETEENiTWENTYzDIGITONEFULLSTOPlTWOFULLSTOPkHREEFULLS",
     "TOPnFOURFULLSTOPlIVEFULLSTOPmSIXFULLSTOPkEVENFULLSTOPnEIGHTFULLSTOPnNINEFULLSTOPrNUMBERTENFU",
     "LLSTOPlELEVENFULLSTOPoTWELVEFULLSTOPnHIRTEENFULLSTOPqFOURTEENFULLSTOPpIFTEENFULLSTOPpSIXTEEN",
     "FULLSTOPoEVENTEENFULLSTOPrEIGHTEENFULLSTOPqNINETEENFULLSTOPqTWENTYFULLSTOPuPARENTHESIZEDLATI",
     "NSMALLLETTERAbBbCbDbEbFbGbHbIbJbKbLbMbNbObPbQbRbSbTbUbVbWbXbYbZ 24b6:CIRCLEDLATINCAPITALLETT",
     "ERAbBbCbDbEbFbGbHbIbJbKbLbMbNbObPbQbRbSbTbUbVbWbXbYbZoSMALLLETTERAbBbCbDbEbFbGbHbIbJbKbLbMbN",
     "bObPbQbRbSbTbUbVbWbXbYbZrDIGITZEROqNEGATIVECIRCLEDNUMBERELEVENgTWELVEfHIRTEENiFOURTEENhIFTEE",
     "NhSIXTEENgEVENTEENjEIGHTEENiNINETEENiTWENTY 24f5:DOUBLECIRCLEDDIGITONEdTWOcHREEfFOURdIVEeSIX",
     "cEVENfEIGHTfNINEjNUMBERTENwNEGATIVECIRCLEDDIGITZEROyBOXDRAWINGSLIGHTHORIZONTALpHEAVYHORIZONT",
     "ALpLIGHTVERTICALnHEAVYVERTICALnLIGHTTRIPLEDASHHORIZONTALzHEAVYTRIPLEDASHHORIZONTALzLIGHTTRIP",
     "LEDASHVERTICALxHEAVYTRIPLEDASHVERTICALxLIGHTQUADRUPLEDASHHORIZONTAL 2509:BOXDRAWINGSHEAVYQUA",
     "DRUPLEDASHHORIZONTAL 250a:BOXDRAWINGSLIGHTQUADRUPLEDASHVERTICAL 250b:BOXDRAWINGSHEAVYQUADRUP",
     "LEDASHVERTICAL 250c:BOXDRAWINGSLIGHTDOWNANDRIGHTrDOWNLIGHTANDRIGHTHEAVYsHEAVYANDRIGHTLIGHTwH",
     "EAVYDOWNANDRIGHTrLIGHTDOWNANDLEFTqDOWNLIGHTANDLEFTHEAVYrHEAVYANDLEFTLIGHTvHEAVYDOWNANDLEFTqL",
     "IGHTUPANDRIGHTpUPLIGHTANDRIGHTHEAVYsHEAVYANDRIGHTLIGHTuHEAVYUPANDRIGHTpLIGHTUPANDLEFToUPLIGH",
     "TANDLEFTHEAVYrHEAVYANDLEFTLIGHTtHEAVYUPANDLEFToLIGHTVERTICALANDRIGHTvVERTICALLIGHTANDRIGHTHE",
     "AVY 251e:BOXDRAWINGSUPHEAVYANDRIGHTDOWNLIGHTyDOWNHEAVYANDRIGHTUPLIGHTyVERTICALHEAVYANDRIGHTL",
     "IGHT 2521:BOXDRAWINGSDOWNLIGHTANDRIGHTUPHEAVYyUPLIGHTANDRIGHTDOWNHEAVYyHEAVYVERTICALANDRIGHT",
     "vLIGHTVERTICALANDLEFTuVERTICALLIGHTANDLEFTHEAVYzUPHEAVYANDLEFTDOWNLIGHTxDOWNHEAVYANDLEFTUPLI",
     "GHTxVERTICALHEAVYANDLEFTLIGHTzDOWNLIGHTANDLEFTUPHEAVYxUPLIGHTANDLEFTDOWNHEAVYxHEAVYVERTICALA",
     "NDLEFTuLIGHTDOWNANDHORIZONTALvEFTHEAVYANDRIGHTDOWNLIGHT 252e:BOXDRAWINGSRIGHTHEAVYANDLEFTDOW",
     "NLIGHT 252f:BOXDRAWINGSDOWNLIGHTANDHORIZONTALHEAVYxHEAVYANDHORIZONTALLIGHT 2531:BOXDRAWINGSR",
     "IGHTLIGHTANDLEFTDOWNHEAVY 2532:BOXDRAWINGSLEFTLIGHTANDRIGHTDOWNHEAVY 2533:BOXDRAWINGSHEAVYDO",
     "WNANDHORIZONTALwLIGHTUPANDHORIZONTALtEFTHEAVYANDRIGHTUPLIGHTyRIGHTHEAVYANDLEFTUPLIGHTyUPLIGH",
     "TANDHORIZONTALHEAVYxHEAVYANDHORIZONTALLIGHTzRIGHTLIGHTANDLEFTUPHEAVYyLEFTLIGHTANDRIGHTUPHEAV",
     "YyHEAVYUPANDHORIZONTALuLIGHTVERTICALANDHORIZONTALzEFTHEAVYANDRIGHTVERTICALLIGHT 253e:BOXDRAW",
     "INGSRIGHTHEAVYANDLEFTVERTICALLIGHT 253f:BOXDRAWINGSVERTICALLIGHTANDHORIZONTALHEAVY 2540:BOXD",
     "RAWINGSUPHEAVYANDDOWNHORIZONTALLIGHT 2541:BOXDRAWINGSDOWNHEAVYANDUPHORIZONTALLIGHT 2542:BOXD",
     "RAWINGSVERTICALHEAVYANDHORIZONTALLIGHT 2543:BOXDRAWINGSLEFTUPHEAVYANDRIGHTDOWNLIGHT 2544:BOX",
     "DRAWINGSRIGHTUPHEAVYANDLEFTDOWNLIGHT 2545:BOXDRAWINGSLEFTDOWNHEAVYANDRIGHTUPLIGHT 2546:BOXDR",
     "AWINGSRIGHTDOWNHEAVYANDLEFTUPLIGHT 2547:BOXDRAWINGSDOWNLIGHTANDUPHORIZONTALHEAVY 2548:BOXDRA",
     "WINGSUPLIGHTANDDOWNHORIZONTALHEAVY 2549:BOXDRAWINGSRIGHTLIGHTANDLEFTVERTICALHEAVY 254a:BOXDR",
     "AWINGSLEFTLIGHTANDRIGHTVERTICALHEAVY 254b:BOXDRAWINGSHEAVYVERTICALANDHORIZONTAL 254c:BOXDRAW",
     "INGSLIGHTDOUBLEDASHHORIZONTALzHEAVYDOUBLEDASHHORIZONTALzLIGHTDOUBLEDASHVERTICALxHEAVYDOUBLED",
     "ASHVERTICALxDOUBLEHORIZONTALkVERTICALmWNSINGLEANDRIGHTDOUBLEuDOUBLEANDRIGHTSINGLEwUBLEDOWNAN",
     "DRIGHTqWNSINGLEANDLEFTDOUBLEtDOUBLEANDLEFTSINGLEvUBLEDOWNANDLEFTrUPSINGLEANDRIGHTDOUBLEuDOUB",
     "LEANDRIGHTSINGLEwDOUBLEUPANDRIGHTqUPSINGLEANDLEFTDOUBLEtDOUBLEANDLEFTSINGLEvDOUBLEUPANDLEFTp",
     "VERTICALSINGLEANDRIGHTDOUBLEuDOUBLEANDRIGHTSINGLE 2560:BOXDRAWINGSDOUBLEVERTICALANDRIGHTwVER",
     "TICALSINGLEANDLEFTDOUBLEtDOUBLEANDLEFTSINGLE 2563:BOXDRAWINGSDOUBLEVERTICALANDLEFTtWNSINGLEA",
     "NDHORIZONTALDOUBLEzDOUBLEANDHORIZONTALSINGLE 2566:BOXDRAWINGSDOUBLEDOWNANDHORIZONTALxUPSINGL",
     "EANDHORIZONTALDOUBLEzDOUBLEANDHORIZONTALSINGLE 2569:BOXDRAWINGSDOUBLEUPANDHORIZONTALvVERTICA",
     "LSINGLEANDHORIZONTALDOUBLEzDOUBLEANDHORIZONTALSINGLE 256c:BOXDRAWINGSDOUBLEVERTICALANDHORIZO",
     "NTAL 256d:BOXDRAWINGSLIGHTARCDOWNANDRIGHTfLEFTlUPANDLEFTeRIGHTnDIAGONALUPPERRIGHTTOLOWERLEFT",
     "qLEFTTOLOWERRIGHTvCROSSnLEFTeUPcRIGHTfDOWNjHEAVYLEFTeUPcRIGHTfDOWNjLIGHTLEFTANDHEAVYRIGHTrUP",
     "ANDHEAVYDOWNtHEAVYLEFTANDLIGHTRIGHTrUPANDLIGHTDOWN 2580:UPPERHALFBLOCKoLOWERONEEIGHTHBLOCKlQ",
     "UARTERBLOCKpTHREEEIGHTHSBLOCKrHALFBLOCKjFIVEEIGHTHSBLOCKqTHREEQUARTERSBLOCKsSEVENEIGHTHSBLOC",
     "KwFULLBLOCKjLEFTSEVENEIGHTHSBLOCKrTHREEQUARTERSBLOCKsFIVEEIGHTHSBLOCKqHALFBLOCKjTHREEEIGHTHS",
     "BLOCKrONEQUARTERBLOCKmEIGHTHBLOCKsRIGHTHALFBLOCKoLIGHTSHADEkMEDIUMSHADElDARKSHADEjUPPERONEEI",
     "GHTHBLOCKtRIGHTONEEIGHTHBLOCKtQUADRANTLOWERLEFTeRIGHTkUPPERLEFTaANDLOWERLEFTANDLOWERRIGHTrRI",
     "GHTkUPPERRIGHTANDLOWERLEFTeRIGHT 259d:QUADRANTUPPERRIGHTaANDLOWERLEFTaANDLOWERRIGHT 25a0:BLA",
     "CKSQUARElWHITESQUAREaWITHROUNDEDCORNERSsCONTAININGBLACKSMALLSQUARE 25a4:SQUAREWITHHORIZONTAL",
     "FILLoVERTICALFILLmORTHOGONALCROSSHATCHFILLyUPPERLEFTTOLOWERRIGHTFILLuRIGHTTOLOWERLEFTFILLzDI",
     "AGONALCROSSHATCHFILL 25aa:BLACKSMALLSQUAREqWHITESMALLSQUAREqBLACKRECTANGLEoWHITERECTANGLEoBL",
     "ACKVERTICALRECTANGLEwWHITEVERTICALRECTANGLEwBLACKPARALLELOGRAMsWHITEPARALLELOGRAMsBLACKUPPOI",
     "NTINGTRIANGLExWHITEUPPOINTINGTRIANGLExBLACKUPPOINTINGSMALLTRIANGLE 25b5:WHITEUPPOINTINGSMALL",
     "TRIANGLE 25b6:BLACKRIGHTPOINTINGTRIANGLE 25b7:WHITERIGHTPOINTINGTRIANGLE 25b8:BLACKRIGHTPOIN",
     "TINGSMALLTRIANGLE 25b9:WHITERIGHTPOINTINGSMALLTRIANGLE 25ba:BLACKRIGHTPOINTINGPOINTERzWHITER",
     "IGHTPOINTINGPOINTERzBLACKDOWNPOINTINGTRIANGLEzWHITEDOWNPOINTINGTRIANGLEzBLACKDOWNPOINTINGSMA",
     "LLTRIANGLE 25bf:WHITEDOWNPOINTINGSMALLTRIANGLE 25c0:BLACKLEFTPOINTINGTRIANGLEzWHITELEFTPOINT",
     "INGTRIANGLEzBLACKLEFTPOINTINGSMALLTRIANGLE 25c3:WHITELEFTPOINTINGSMALLTRIANGLE 25c4:BLACKLEF",
     "TPOINTINGPOINTERyWHITELEFTPOINTINGPOINTERyBLACKDIAMONDmWHITEDIAMONDaCONTAININGBLACKSMALLDIAM",
     "OND 25c9:FISHEYEhLOZENGEhWHITECIRCLElDOTTEDCIRCLEmCIRCLEWITHVERTICALFILLwBULLSEYEhLACKCIRCLE",
     "lCIRCLEWITHLEFTHALFBLACKnRIGHTHALFBLACKoLOWERHALFBLACKoUPPERHALFBLACKjRIGHTQUADRANTBLACKxALL",
     "BUTUPPERLEFTQUADRANTBLACK 25d6:LEFTHALFBLACKCIRCLEtRIGHTHALFBLACKCIRCLEuINVERSEBULLETgWHITEC",
     "IRCLEsUPPERHALFINVERSEWHITECIRCLE 25db:LOWERHALFINVERSEWHITECIRCLE 25dc:UPPERLEFTQUADRANTCIR",
     "CULARARCxRIGHTQUADRANTCIRCULARARC 25de:LOWERRIGHTQUADRANTCIRCULARARCyLEFTQUADRANTCIRCULARARC",
     " 25e0:UPPERHALFCIRCLEpLOWERHALFCIRCLEpBLACKLOWERRIGHTTRIANGLEnLEFTTRIANGLErUPPERLEFTTRIANGLE",
     "mRIGHTTRIANGLExWHITEBULLETlSQUAREWITHLEFTHALFBLACKnRIGHTHALFBLACKoUPPERLEFTDIAGONALHALFBLACK",
     " 25ea:SQUAREWITHLOWERRIGHTDIAGONALHALFBLACK 25eb:WHITESQUAREWITHVERTICALBISECTINGLINE 25ec:W",
     "HITEUPPOINTINGTRIANGLEWITHDOT 25ed:UPPOINTINGTRIANGLEWITHLEFTHALFBLACKnRIGHTHALFBLACK 25ef:L",
     "ARGECIRCLElWHITESQUAREWITHUPPERLEFTQUADRANTrLOWERLEFTQUADRANTmRIGHTQUADRANTsUPPERRIGHTQUADRA",
     "NT 25f4:WHITECIRCLEWITHUPPERLEFTQUADRANTrLOWERLEFTQUADRANTmRIGHTQUADRANTsUPPERRIGHTQUADRANT ",
     "25f8:UPPERLEFTTRIANGLEmRIGHTTRIANGLEsLOWERLEFTTRIANGLErWHITEMEDIUMSQUARErBLACKMEDIUMSQUARErW",
     "HITEMEDIUMSMALLSQUAREwBLACKMEDIUMSMALLSQUAREwLOWERRIGHTTRIANGLEsBLACKSUNWITHRAYSqCLOUDfUMBRE",
     "LLAiSNOWMANhCOMETfBLACKSTARjWHITESTARjLIGHTNINGjTHUNDERSTORMmSUNdASCENDINGNODEnDESCENDINGNOD",
     "EoCONJUNCTIONlOPPOSITIONkBLACKTELEPHONEoWHITETELEPHONEoBALLOTBOXaWITHCHECKfXoSALTIREhUMBRELL",
     "AWITHRAINDROPSvHOTBEVERAGElWHITESHOGIPIECEpBLACKSHOGIPIECEpSHAMROCKiREVERSEDROTATEDFLORALHEA",
     "RTBULLET 261a:BLACKLEFTPOINTINGINDEXrRIGHTPOINTINGINDEXxWHITELEFTPOINTINGINDEXrUPPOINTINGIND",
     "EXpRIGHTPOINTINGINDEXsDOWNPOINTINGINDEXwSKULLANDCROSSBONESsCAUTIONSIGNlRADIOACTIVESIGNpBIOHA",
     "ZARDSIGNnCADUCEUSiANKHeORTHODOXCROSSnCHIRHOfROSSOFLORRAINEiJERUSALEMqSTARANDCRESCENTpFARSISY",
     "MBOLlADISHAKTIjHAMMERANDSICKLEpPEACESYMBOLlYINYANGhTRIGRAMFORHEAVENgLAKEeFIREeTHUNDERhWINDdA",
     "TERfMOUNTAINiEARTHpWHEELOFDHARMAlITEFROWNINGFACEmSMILINGFACEqBLACKSMILINGFACEqWHITESUNWITHRA",
     "YSqFIRSTQUARTERMOONqLASTQUARTERMOONpMERCURYhFEMALESIGNkEARTHfMALESIGNiJUPITERhSATURNgURANUSg",
     "NEPTUNEhPLUTOfARIESfTAURUSgGEMINIgCANCERgLEOdVIRGOfLIBRAfSCORPIUShAGITTARIUSlCAPRICORNjAQUAR",
     "IUSiPISCESgWHITECHESSKINGeQUEENfROOKeBISHOPgKNIGHTgPAWNoBLACKCHESSKINGeQUEENfROOKeBISHOPgKNI",
     "GHTgPAWNjSPADESUIToWHITEHEARTSUITjDIAMONDSUITqBLACKCLUBSUITnWHITESPADESUIToBLACKHEARTSUITjDI",
     "AMONDSUITqWHITECLUBSUITnHOTSPRINGSkQUARTERNOTElEIGHTHNOTEkBEAMEDEIGHTHNOTESlSIXTEENTHNOTESuM",
     "USICFLATSIGNiNATURALSIGNlSHARPSIGNoWESTSYRIACCROSSpEASTSYRIACCROSSpUNIVERSALRECYCLINGSYMBOLy",
     "RECYCLINGSYMBOLFORTYPE1PLASTICSj2PLASTICSj3PLASTICSj4PLASTICSj5PLASTICSj6PLASTICSj7PLASTICSn",
     "GENERICMATERIALS 267b:BLACKUNIVERSALRECYCLINGSYMBOL 267c:RECYCLEDPAPERSYMBOLtPARTIALLYRECYCL",
     "EDPAPERSYMBOL 267e:PERMANENTPAPERSIGNsWHEELCHAIRSYMBOLqDIEFACE1b2b3b4b5b6iWHITECIRCLEWITHDOT",
     "RIGHTiTWODOTSwBLACKCIRCLEWITHWHITEDOTRIGHTnTWOWHITEDOTS 268a:MONOGRAMFORYANGdINoDIGRAMFORGRE",
     "ATERYANGlLESSERYINcANGkGREATERYINtWHITEFLAGjBLACKFLAGjHAMMERANDPICKnANCHORgCROSSEDSWORDSnSTA",
     "FFOFAESCULAPIUSrCALESgALEMBIChFLOWERgGEAReSTAFFOFHERMESnATOMSYMBOLkFLEURDELISkOUTLINEDWHITES",
     "TARrTHREELINESCONVERGINGRIGHTfLEFTyWARNINGSIGNlHIGHVOLTAGESIGNpDOUBLEDFEMALESIGNkMALESIGNpIN",
     "TERLOCKEDFEMALEANDMALESIGN 26a5:MALEANDFEMALESIGNnWITHSTROKESIGNeANDMALEANDFEMALESIGN 26a8:V",
     "ERTICALMALEWITHSTROKESIGN 26a9:HORIZONTALMALEWITHSTROKESIGN 26aa:MEDIUMWHITECIRCLElBLACKCIRC",
     "LElSMALLWHITECIRCLEvARRIAGESYMBOLoDIVORCESYMBOLnUNMARRIEDPARTNERSHIPSYMBOL 26b0:COFFINgFUNER",
     "ALURNkNEUTERgCERESfPALLASgJUNOeVESTAfCHIRONgBLACKMOONLILITHpSEXTILEfMISEXTILElQUINCUNXiSESQU",
     "IQUADRATEnOCCERBALLkBASEBALLiSQUAREDKEYkWHITEDRAUGHTSMANdKINGrBLACKDRAUGHTSMANdKINGrSNOWMANW",
     "ITHOUTSNOWrUNBEHINDCLOUDoRAINeBLACKSNOWMANmTHUNDERCLOUDANDRAINsURNEDWHITESHOGIPIECEpBLACKSHO",
     "GIPIECEvWHITEDIAMONDINSQUAREuCROSSINGLANESnDISABLEDCARlOPHIUCHUSjPICKeCARSLIDINGkHELMETWITHW",
     "HITECROSSuCIRCLEDCROSSINGLANEStHAINSgNOENTRYhALTERNATEONEWAYLEFTWAYTRAFFIC 26d6:BLACKTWOWAYL",
     "EFTWAYTRAFFICzWHITETWOWAYLEFTWAYTRAFFICzBLACKLEFTLANEMERGEsWHITELEFTLANEMERGEsDRIVESLOWSIGNn",
     "HEAVYWHITEDOWNPOINTINGTRIANGLE 26dc:LEFTCLOSEDENTRYpSQUAREDSALTIREoFALLINGDIAGONALINWHITECIR",
     "CLEINBLACKSQUARE 26df:BLACKTRUCKkRESTRICTEDLEFTENTRY1b2uASTRONOMICALSYMBOLFORURANUS 26e3:HEA",
     "VYCIRCLEWITHSTROKEANDTWODOTSABOVE 26e4:PENTAGRAMjRIGHTHANDEDINTERLACEDPENTAGRAM 26e6:LEFTHAN",
     "DEDINTERLACEDPENTAGRAM 26e7:INVERTEDPENTAGRAMrBLACKCROSSONSHIELDsSHINTOSHRINEmCHURCHfASTLEgH",
     "ISTORICSITEmGEARWITHOUTHUBgHANDLESpMAPSYMBOLFORLIGHTHOUSEvOUNTAINiUMBRELLAONGROUNDqFOUNTAINh",
     "LAGINHOLEjERRYfSAILBOAThQUAREFOURCORNERSqKIERfICESKATEiPERSONWITHBALLoTENTeJAPANESEBANKSYMBO",
     "LsHEADSTONEGRAVEYARDSYMBOLyFUELPUMPiCUPONBLACKSQUAREqWHITEFLAGWITHHORIZONTALMIDDLEBLACKSTRIP",
     "E 2700:BLACKSAFETYSCISSORStUPPERBLADESCISSORSsBLACKSCISSORSnLOWERBLADESCISSORSsWHITESCISSORS",
     "iHEAVYCHECKMARKtTELEPHONELOCATIONSIGNuAPEDRIVEjAIRPLANEiENVELOPEiRAISEDFISTeHANDkVICTORYHAND",
     "lWRITINGHANDlLOWERRIGHTPENCILqPENCILgUPPERRIGHTPENCILqWHITENIBiBLACKNIBiCHECKMARKjHEAVYCHECK",
     "MARKoMULTIPLICATIONXpHEAVYMULTIPLICATIONXuBALLOTXhHEAVYBALLOTXmOUTLINEDGREEKCROSSsHEAVYGREEK",
     "CROSSpOPENCENTRECROSSpHEAVYOPENCENTRECROSSuLATINCROSSkSHADOWEDWHITELATINCROSSxOUTLINEDLATINC",
     "ROSSsMALTESECROSSmSTAROFDAVIDlFOURTEARDROPSPOKEDASTERISKwBALLOONSPOKEDASTERISKzHEAVYFOURBALL",
     "OONSPOKEDASTERISK 2725:FOURCLUBSPOKEDASTERISKwBLACKFOURPOINTEDSTARuWHITEFOURPOINTEDSTARuSPAR",
     "KLEShTRESSOUTLINEDWHITESTARxCIRCLEDWHITESTARqOPENCENTREBLACKSTARtBLACKCENTREWHITESTARuOUTLIN",
     "EDBLACKSTARrHEAVYOUTLINEDBLACKSTARwPINWHEELSTARmSHADOWEDWHITESTARrHEAVYASTERISKnOPENCENTREAS",
     "TERISKsEIGHTSPOKEDASTERISKoPOINTEDBLACKSTARjPINWHEELSTARySIXPOINTEDBLACKSTARtEIGHTPOINTEDREC",
     "TILINEARBLACKSTAR 2738:HEAVYEIGHTPOINTEDRECTILINEARBLACKSTAR 2739:TWELVEPOINTEDBLACKSTARwSIX",
     "TEENPOINTEDASTERISKwTEARDROPSPOKEDASTERISKwOPENCENTRETEARDROPSPOKEDASTERISK 273d:HEAVYTEARDR",
     "OPSPOKEDASTERISK 273e:SIXPETALLEDBLACKANDWHITEFLORETTE 273f:BLACKFLORETTEnWHITEFLORETTEnEIGH",
     "TPETALLEDOUTLINEDBLACKFLORETTE 2742:CIRCLEDOPENCENTREEIGHTPOINTEDSTAR 2743:HEAVYTEARDROPSPOK",
     "EDPINWHEELASTERISK 2744:SNOWFLAKEjTIGHTTRIFOLIATESNOWFLAKEyHEAVYCHEVRONSNOWFLAKEvSPARKLEhHEA",
     "VYSPARKLEmBALLOONSPOKEDASTERISKvEIGHTTEARDROPSPOKEDPROPELLERASTERISK 274b:HEAVYEIGHTTEARDROP",
     "SPOKEDPROPELLERASTERISK 274c:CROSSMARKjSHADOWEDWHITECIRCLEtNEGATIVESQUAREDCROSSMARKyLOWERRIG",
     "HTDROPSHADOWEDWHITESQUARE 2750:UPPERRIGHTDROPSHADOWEDWHITESQUARE 2751:LOWERRIGHTSHADOWEDWHIT",
     "ESQUARE 2752:UPPERRIGHTSHADOWEDWHITESQUARE 2753:BLACKQUESTIONMARKORNAMENTzWHITEQUESTIONMARKO",
     "RNAMENTuEXCLAMATIONMARKORNAMENT 2756:BLACKDIAMONDMINUSWHITEXxHEAVYEXCLAMATIONMARKSYMBOL 2758",
     ":LIGHTVERTICALBARqMEDIUMVERTICALBARrHEAVYVERTICALBARlSINGLETURNEDCOMMAQUOTATIONMARKORNAMENT ",
     "275c:HEAVYSINGLECOMMAQUOTATIONMARKORNAMENT 275d:HEAVYDOUBLETURNEDCOMMAQUOTATIONMARKORNAMENT ",
     "275e:HEAVYDOUBLECOMMAQUOTATIONMARKORNAMENT 275f:HEAVYLOWSINGLECOMMAQUOTATIONMARKORNAMENT 276",
     "0:HEAVYLOWDOUBLECOMMAQUOTATIONMARKORNAMENT 2761:CURVEDSTEMPARAGRAPHSIGNORNAMENT 2762:HEAVYEX",
     "CLAMATIONMARKORNAMENTxHEARTEXCLAMATIONMARKORNAMENT 2764:HEAVYBLACKHEARTpROTATEDHEAVYBLACKHEA",
     "RTBULLET 2766:FLORALHEARTlROTATEDFLORALHEARTBULLETyMEDIUMLEFTPARENTHESISORNAMENTxRIGHTPARENT",
     "HESISORNAMENTyFLATTENEDLEFTPARENTHESISORNAMENTxRIGHTPARENTHESISORNAMENT 276c:MEDIUMLEFTPOINT",
     "INGANGLEBRACKETORNAMENT 276d:MEDIUMRIGHTPOINTINGANGLEBRACKETORNAMENT 276e:HEAVYLEFTPOINTINGA",
     "NGLEQUOTATIONMARKORNAMENT 276f:HEAVYRIGHTPOINTINGANGLEQUOTATIONMARKORNAMENT 2770:HEAVYLEFTPO",
     "INTINGANGLEBRACKETORNAMENT 2771:HEAVYRIGHTPOINTINGANGLEBRACKETORNAMENT 2772:LIGHTLEFTTORTOIS",
     "ESHELLBRACKETORNAMENT 2773:LIGHTRIGHTTORTOISESHELLBRACKETORNAMENT 2774:MEDIUMLEFTCURLYBRACKE",
     "TORNAMENTyRIGHTCURLYBRACKETORNAMENT 2776:DINGBATNEGATIVECIRCLEDDIGITONEdTWOcHREEfFOURdIVEeSI",
     "XcEVENfEIGHTfNINEjNUMBERTENyCIRCLEDSANSSERIFDIGITONEdTWOcHREEfFOURdIVEeSIXcEVENfEIGHTfNINEjN",
     "UMBERTENzNEGATIVECIRCLEDSANSSERIFDIGITONEdTWOcHREEfFOURdIVEeSIXcEVENfEIGHTfNINEjNUMBERTEN 27",
     "94:HEAVYWIDEHEADEDRIGHTWARDSARROWzPLUSSIGNiMINUSSIGNjDIVISIONSIGNmSOUTHEASTARROWoRIGHTWARDSA",
     "RROWpNORTHEASTARROWtDRAFTINGPOINTRIGHTWARDSARROW 279c:HEAVYROUNDTIPPEDRIGHTWARDSARROW 279d:T",
     "RIANGLEHEADEDRIGHTWARDSARROW 279e:HEAVYTRIANGLEHEADEDRIGHTWARDSARROW 279f:DASHEDTRIANGLEHEAD",
     "EDRIGHTWARDSARROW 27a0:HEAVYDASHEDTRIANGLEHEADEDRIGHTWARDSARROW 27a1:BLACKRIGHTWARDSARROWuTH",
     "REEDTOPLIGHTEDRIGHTWARDSARROWHEAD 27a3:THREEDBOTTOMLIGHTEDRIGHTWARDSARROWHEAD 27a4:BLACKRIGH",
     "TWARDSARROWHEADyHEAVYBLACKCURVEDDOWNWARDSANDRIGHTWARDSARROW 27a6:HEAVYBLACKCURVEDUPWARDSANDR",
     "IGHTWARDSARROW 27a7:SQUATBLACKRIGHTWARDSARROWzHEAVYCONCAVEPOINTEDBLACKRIGHTWARDSARROW 27a9:R",
     "IGHTSHADEDWHITERIGHTWARDSARROW 27aa:LEFTSHADEDWHITERIGHTWARDSARROW 27ab:BACKTILTEDSHADOWEDWH",
     "ITERIGHTWARDSARROW 27ac:FRONTTILTEDSHADOWEDWHITERIGHTWARDSARROW 27ad:HEAVYLOWERRIGHTSHADOWED",
     "WHITERIGHTWARDSARROW 27ae:HEAVYUPPERRIGHTSHADOWEDWHITERIGHTWARDSARROW 27af:NOTCHEDLOWERRIGHT",
     "SHADOWEDWHITERIGHTWARDSARROW 27b0:CURLYLOOPjNOTCHEDUPPERRIGHTSHADOWEDWHITERIGHTWARDSARROW 27",
     "b2:CIRCLEDHEAVYWHITERIGHTWARDSARROW 27b3:WHITEFEATHEREDRIGHTWARDSARROW 27b4:BLACKFEATHEREDSO",
     "UTHEASTARROWoRIGHTWARDSARROWpNORTHEASTARROW 27b7:HEAVYBLACKFEATHEREDSOUTHEASTARROWoRIGHTWARD",
     "SARROWpNORTHEASTARROW 27ba:TEARDROPBARBEDRIGHTWARDSARROW 27bb:HEAVYTEARDROPSHANKEDRIGHTWARDS",
     "ARROW 27bc:WEDGETAILEDRIGHTWARDSARROW 27bd:HEAVYWEDGETAILEDRIGHTWARDSARROW 27be:OPENOUTLINED",
     "RIGHTWARDSARROW 27bf:DOUBLECURLYLOOPpTHREEDIMENSIONALANGLEvWHITETRIANGLECONTAININGSMALLWHITE",
     "TRIANGLE 27c2:PERPENDICULARnOPENSUBSETePERSETmLEFTSSHAPEDBAGDELIMITERxRIGHTSSHAPEDBAGDELIMIT",
     "ERyORWITHDOTINSIDEpREVERSESOLIDUSPRECEDINGSUBSET 27c9:SUPERSETPRECEDINGSOLIDUSyVERTICALBARWI",
     "THHORIZONTALSTROKE 27cb:MATHEMATICALRISINGDIAGONAL 27cc:LONGDIVISIONmMATHEMATICALFALLINGDIAG",
     "ONAL 27ce:SQUAREDLOGICALANDdORqWHITEDIAMONDWITHCENTREDDOT 27d1:ANDWITHDOTkELEMENTOFOPENINGUP",
     "WARDSxLOWERRIGHTCORNERWITHDOTxUPPERLEFTCORNERWITHDOTwLEFTOUTERJOINnRIGHTOUTERJOINoFULLOUTERJ",
     "OINnLARGEUPTACKgDOWNTACKmEFTANDRIGHTDOUBLETURNSTILEpTACKmMULTIMAPlONGRIGHTTACKjLEFTTACKmUPTA",
     "CKWITHCIRCLEABOVEvLOZENGEDIVIDEDBYHORIZONTALRULE 27e1:WHITECONCAVESIDEDDIAMONDaWITHLEFTWARDS",
     "TICKnRIGHTWARDSTICK 27e4:WHITESQUAREWITHLEFTWARDSTICKnRIGHTWARDSTICK 27e6:MATHEMATICALLEFTWH",
     "ITESQUAREBRACKETwRIGHTWHITESQUAREBRACKETxLEFTANGLEBRACKETqRIGHTANGLEBRACKETrLEFTDOUBLEANGLEB",
     "RACKETwRIGHTDOUBLEANGLEBRACKETxLEFTWHITETORTOISESHELLBRACKET 27ed:MATHEMATICALRIGHTWHITETORT",
     "OISESHELLBRACKET 27ee:MATHEMATICALLEFTFLATTENEDPARENTHESISyRIGHTFLATTENEDPARENTHESIS 27f0:UP",
     "WARDSQUADRUPLEARROWvDOWNWARDSQUADRUPLEARROWxANTICLOCKWISEGAPPEDCIRCLEARROW 27f3:CLOCKWISEGAP",
     "PEDCIRCLEARROW 27f4:RIGHTARROWWITHCIRCLEDPLUSzLONGLEFTWARDSARROWoRIGHTWARDSARROWpLEFTRIGHTAR",
     "ROWkWARDSDOUBLEARROWuRIGHTWARDSDOUBLEARROWvLEFTRIGHTDOUBLEARROWqWARDSARROWFROMBARvRIGHTWARDS",
     "ARROWFROMBARwLEFTWARDSDOUBLEARROWFROMBAR 27fe:LONGRIGHTWARDSDOUBLEARROWFROMBARsSQUIGGLEARROW",
     " 2800:BRAILLEPATTERNBLANKfDOTS1b2b12c3b13c23c123d4b14c24c124d34c134d234d1234e5b15c25c125d35c",
     "135d235d1235e45c145d245d1245e345d1345e2345e12345f6b16c26c126d36c136d236d1236e46c146d246d1246",
     "e346d1346e2346e12346f56c156d256d1256e356d1356e2356e12356f456d1456e2456e12456f3456e13456f2345",
     "6f123456g7b17c27c127d37c137d237d1237e47c147d247d1247e347d1347e2347e12347f57c157d257d1257e357",
     "d1357e2357e12357f457d1457e2457e12457f3457e13457f23457f123457g67c167d267d1267e367d1367e2367e1",
     "2367f467d1467e2467e12467f3467e13467f23467f123467g567d1567e2567e12567f3567e13567f23567f123567",
     "g4567e14567f24567f124567g34567f134567g234567g1234567h8b18c28c128d38c138d238d1238e48c148d248d",
     "1248e348d1348e2348e12348f58c158d258d1258e358d1358e2358e12358f458d1458e2458e12458f3458e13458f",
     "23458f123458g68c168d268d1268e368d1368e2368e12368f468d1468e2468e12468f3468e13468f23468f123468",
     "g568d1568e2568e12568f3568e13568f23568f123568g4568e14568f24568f124568g34568f134568g234568g123",
     "4568h78c178d278d1278e378d1378e2378e12378f478d1478e2478e12478f3478e13478f23478f123478g578d157",
     "8e2578e12578f3578e13578f23578f123578g4578e14578f24578f124578g34578f134578g234578g1234578h678",
     "d1678e2678e12678f3678e13678f23678f123678g4678e14678f24678f124678g34678f134678g234678g1234678",
     "h5678e15678f25678f125678g35678f135678g235678g1235678h45678f145678g245678g1245678h345678g1345",
     "678h2345678h12345678 2900:RIGHTWARDSTWOHEADEDARROWWITHVERTICALSTROKEoDOUBLEVERTICALSTROKE 29",
     "02:LEFTWARDSDOUBLEARROWWITHVERTICALSTROKE 2903:RIGHTWARDSDOUBLEARROWWITHVERTICALSTROKE 2904:",
     "LEFTRIGHTDOUBLEARROWWITHVERTICALSTROKE 2905:RIGHTWARDSTWOHEADEDARROWFROMBAR 2906:LEFTWARDSDO",
     "UBLEARROWFROMBAR 2907:RIGHTWARDSDOUBLEARROWFROMBAR 2908:DOWNWARDSARROWWITHHORIZONTALSTROKE 2",
     "909:UPWARDSARROWWITHHORIZONTALSTROKEzTRIPLEARROWsDOWNWARDSTRIPLEARROWuLEFTWARDSDOUBLEDASHARR",
     "OWyRIGHTWARDSDOUBLEDASHARROWzLEFTWARDSTRIPLEDASHARROWyRIGHTWARDSTRIPLEDASHARROWoWOHEADEDTRIP",
     "LEDASHARROWyARROWWITHDOTTEDSTEM 2912:UPWARDSARROWTOBARrDOWNWARDSARROWTOBARtRIGHTWARDSARROWWI",
     "THTAILWITHVERTICALSTROKEoDOUBLEVERTICALSTROKE 2916:RIGHTWARDSTWOHEADEDARROWWITHTAILaWITHVERT",
     "ICALSTROKEoDOUBLEVERTICALSTROKE 2919:LEFTWARDSARROWTAILsRIGHTWARDSARROWTAILtLEFTWARDSDOUBLEA",
     "RROWTAILyRIGHTWARDSDOUBLEARROWTAILzLEFTWARDSARROWTOBLACKDIAMOND 291e:RIGHTWARDSARROWTOBLACKD",
     "IAMOND 291f:LEFTWARDSARROWFROMBARTOBLACKDIAMOND 2920:RIGHTWARDSARROWFROMBARTOBLACKDIAMOND 29",
     "21:NORTHWESTANDSOUTHEASTARROWvEASTANDSOUTHWESTARROWvWESTARROWWITHHOOKrEASTARROWWITHHOOKwSOUT",
     "HEASTARROWWITHHOOKrWESTARROWWITHHOOKwNORTHWESTARROWANDNORTHEASTARROW 2928:NORTHEASTARROWANDS",
     "OUTHEASTARROW 2929:SOUTHEASTARROWANDSOUTHWESTARROW 292a:SOUTHWESTARROWANDNORTHWESTARROW 292b",
     ":RISINGDIAGONALCROSSINGFALLINGDIAGONAL 292c:FALLINGDIAGONALCROSSINGRISINGDIAGONAL 292d:SOUTH",
     "EASTARROWCROSSINGNORTHEASTARROW 292e:NORTHEASTARROWCROSSINGSOUTHEASTARROW 292f:FALLINGDIAGON",
     "ALCROSSINGNORTHEASTARROW 2930:RISINGDIAGONALCROSSINGSOUTHEASTARROW 2931:NORTHEASTARROWCROSSI",
     "NGNORTHWESTARROW 2932:NORTHWESTARROWCROSSINGNORTHEASTARROW 2933:WAVEARROWPOINTINGDIRECTLYRIG",
     "HT 2934:ARROWPOINTINGRIGHTWARDSTHENCURVINGUPWARDShDOWNWARDS 2936:ARROWPOINTINGDOWNWARDSTHENC",
     "URVINGLEFTWARDSjRIGHTWARDS 2938:RIGHTSIDEARCCLOCKWISEARROW 2939:LEFTSIDEARCANTICLOCKWISEARRO",
     "W 293a:TOPARCANTICLOCKWISEARROWyBOTTOMARCANTICLOCKWISEARROW 293c:TOPARCCLOCKWISEARROWWITHMIN",
     "USxANTICLOCKWISEARROWWITHPLUS 293e:LOWERRIGHTSEMICIRCULARCLOCKWISEARROW 293f:LOWERLEFTSEMICI",
     "RCULARANTICLOCKWISEARROW 2940:ANTICLOCKWISECLOSEDCIRCLEARROW 2941:CLOCKWISECLOSEDCIRCLEARROW",
     " 2942:RIGHTWARDSARROWABOVESHORTLEFTWARDSARROW 2943:LEFTWARDSARROWABOVESHORTRIGHTWARDSARROW 2",
     "944:SHORTRIGHTWARDSARROWABOVELEFTWARDSARROW 2945:RIGHTWARDSARROWWITHPLUSBELOW 2946:LEFTWARDS",
     "ARROWWITHPLUSBELOW 2947:RIGHTWARDSARROWTHROUGHXxLEFTRIGHTARROWTHROUGHSMALLCIRCLE 2949:UPWARD",
     "STWOHEADEDARROWFROMSMALLCIRCLE 294a:LEFTBARBUPRIGHTBARBDOWNHARPOONwDOWNRIGHTBARBUPHARPOON 29",
     "4c:UPBARBRIGHTDOWNBARBLEFTHARPOONyLEFTDOWNBARBRIGHTHARPOON 294e:LEFTBARBUPRIGHTBARBUPHARPOON",
     " 294f:UPBARBRIGHTDOWNBARBRIGHTHARPOON 2950:LEFTBARBDOWNRIGHTBARBDOWNHARPOON 2951:UPBARBLEFTD",
     "OWNBARBLEFTHARPOON 2952:LEFTWARDSHARPOONWITHBARBUPTOBAR 2953:RIGHTWARDSHARPOONWITHBARBUPTOBA",
     "R 2954:UPWARDSHARPOONWITHBARBRIGHTTOBAR 2955:DOWNWARDSHARPOONWITHBARBRIGHTTOBAR 2956:LEFTWAR",
     "DSHARPOONWITHBARBDOWNTOBAR 2957:RIGHTWARDSHARPOONWITHBARBDOWNTOBAR 2958:UPWARDSHARPOONWITHBA",
     "RBLEFTTOBAR 2959:DOWNWARDSHARPOONWITHBARBLEFTTOBAR 295a:LEFTWARDSHARPOONWITHBARBUPFROMBAR 29",
     "5b:RIGHTWARDSHARPOONWITHBARBUPFROMBAR 295c:UPWARDSHARPOONWITHBARBRIGHTFROMBAR 295d:DOWNWARDS",
     "HARPOONWITHBARBRIGHTFROMBAR 295e:LEFTWARDSHARPOONWITHBARBDOWNFROMBAR 295f:RIGHTWARDSHARPOONW",
     "ITHBARBDOWNFROMBAR 2960:UPWARDSHARPOONWITHBARBLEFTFROMBAR 2961:DOWNWARDSHARPOONWITHBARBLEFTF",
     "ROMBAR 2962:LEFTWARDSHARPOONWITHBARBUPABOVELEFTWARDSHARPOONWITHBARBDOWN 2963:UPWARDSHARPOONW",
     "ITHBARBLEFTBESIDEUPWARDSHARPOONWITHBARBRIGHT 2964:RIGHTWARDSHARPOONWITHBARBUPABOVERIGHTWARDS",
     "HARPOONWITHBARBDOWN 2965:DOWNWARDSHARPOONWITHBARBLEFTBESIDEDOWNWARDSHARPOONWITHBARBRIGHT 296",
     "6:LEFTWARDSHARPOONWITHBARBUPABOVERIGHTWARDSHARPOONWITHBARBUP 2967:LEFTWARDSHARPOONWITHBARBDO",
     "WNABOVERIGHTWARDSHARPOONWITHBARBDOWN 2968:RIGHTWARDSHARPOONWITHBARBUPABOVELEFTWARDSHARPOONWI",
     "THBARBUP 2969:RIGHTWARDSHARPOONWITHBARBDOWNABOVELEFTWARDSHARPOONWITHBARBDOWN 296a:LEFTWARDSH",
     "ARPOONWITHBARBUPABOVELONGDASHpDOWNBELOWLONGDASH 296c:RIGHTWARDSHARPOONWITHBARBUPABOVELONGDAS",
     "HpDOWNBELOWLONGDASH 296e:UPWARDSHARPOONWITHBARBLEFTBESIDEDOWNWARDSHARPOONWITHBARBRIGHT 296f:",
     "DOWNWARDSHARPOONWITHBARBLEFTBESIDEUPWARDSHARPOONWITHBARBRIGHT 2970:RIGHTDOUBLEARROWWITHROUND",
     "EDHEAD 2971:EQUALSSIGNABOVERIGHTWARDSARROW 2972:TILDEOPERATORABOVERIGHTWARDSARROW 2973:LEFTW",
     "ARDSARROWABOVETILDEOPERATOR 2974:RIGHTWARDSARROWABOVETILDEOPERATORnALMOSTEQUALTO 2976:LESSTH",
     "ANABOVELEFTWARDSARROWzFTWARDSARROWTHROUGHLESSTHAN 2978:GREATERTHANABOVERIGHTWARDSARROW 2979:",
     "SUBSETABOVERIGHTWARDSARROW 297a:LEFTWARDSARROWTHROUGHSUBSET 297b:SUPERSETABOVELEFTWARDSARROW",
     " 297c:LEFTFISHTAILmRIGHTFISHTAILnUPFISHTAILkDOWNFISHTAILmTRIPLEVERTICALBARDELIMITER 2981:ZNO",
     "TATIONSPOTeTYPECOLONsLEFTWHITECURLYBRACKETvRIGHTWHITECURLYBRACKETwLEFTWHITEPARENTHESISuRIGHT",
     "WHITEPARENTHESISvZNOTATIONLEFTIMAGEBRACKETqRIGHTIMAGEBRACKETrLEFTBINDINGBRACKETsRIGHTBINDING",
     "BRACKET 298b:LEFTSQUAREBRACKETWITHUNDERBAR 298c:RIGHTSQUAREBRACKETWITHUNDERBAR 298d:LEFTSQUA",
     "REBRACKETWITHTICKINTOPCORNER 298e:RIGHTSQUAREBRACKETWITHTICKINBOTTOMCORNER 298f:LEFTSQUAREBR",
     "ACKETWITHTICKINBOTTOMCORNER 2990:RIGHTSQUAREBRACKETWITHTICKINTOPCORNER 2991:LEFTANGLEBRACKET",
     "WITHDOTxRIGHTANGLEBRACKETWITHDOTyLEFTARCLESSTHANBRACKETwRIGHTARCGREATERTHANBRACKET 2995:DOUB",
     "LELEFTARCGREATERTHANBRACKETzRIGHTARCLESSTHANBRACKET 2997:LEFTBLACKTORTOISESHELLBRACKET 2998:",
     "RIGHTBLACKTORTOISESHELLBRACKET 2999:DOTTEDFENCElVERTICALZIGZAGLINEsMEASUREDANGLEOPENINGLEFTy",
     "RIGHTANGLEVARIANTWITHSQUARE 299d:MEASUREDRIGHTANGLEWITHDOTzANGLEWITHSINSIDEpCUTEANGLEkSPHERI",
     "CALANGLEOPENINGLEFTeUPxTURNEDANGLElREVERSEDANGLEnANGLEWITHUNDERBARrREVERSEDANGLEWITHUNDERBAR",
     "zOBLIQUEANGLEOPENINGUPcDOWNxMEASUREDANGLEWITHOPENARMENDINGINARROWPOINTINGUPANDRIGHTfLEFTjDOW",
     "NANDRIGHTfLEFTlRIGHTANDUPkLEFTANDUPjRIGHTANDDOWNmLEFTANDDOWN 29b0:REVERSEDEMPTYSETqEMPTYSETW",
     "ITHOVERBARhSMALLCIRCLEABOVEqRIGHTARROWABOVEpLEFTARROWABOVE 29b5:CIRCLEWITHHORIZONTALBARrDVER",
     "TICALBARlPARALLELiREVERSESOLIDUSoPERPENDICULARnIVIDEDBYHORIZONTALBARANDTOPHALFDIVIDEDBYVERTI",
     "CALBAR 29bb:CIRCLEWITHSUPERIMPOSEDXrDANTICLOCKWISEROTATEDDIVISIONSIGN 29bd:UPARROWTHROUGHCIR",
     "CLEuCIRCLEDWHITEBULLETlBULLETgLESSTHANiGREATERTHANmWITHSMALLCIRCLETOTHERIGHTvTWOHORIZONTALST",
     "ROKESTOTHERIGHT 29c4:SQUAREDRISINGDIAGONALSLASHtFALLINGDIAGONALSLASHuASTERISKiSMALLCIRCLEkQU",
     "AREnTWOJOINEDSQUARESpRIANGLEWITHDOTABOVEiUNDERBARuSINTRIANGLElTRIANGLEWITHSERIFSATBOTTOM 29c",
     "e:RIGHTTRIANGLEABOVELEFTTRIANGLE 29cf:LEFTTRIANGLEBESIDEVERTICALBAR 29d0:VERTICALBARBESIDERI",
     "GHTTRIANGLE 29d1:BOWTIEWITHLEFTHALFBLACKnRIGHTHALFBLACKxLACKBOWTIElTIMESWITHLEFTHALFBLACKnRI",
     "GHTHALFBLACKxWHITEHOURGLASSoBLACKHOURGLASSoLEFTWIGGLYFENCEpRIGHTWIGGLYFENCEqLEFTDOUBLEWIGGLY",
     "FENCEvRIGHTDOUBLEWIGGLYFENCEwINCOMPLETEINFINITYsTIEOVERINFINITYpINFINITYNEGATEDWITHVERTICALB",
     "AR 29df:DOUBLEENDEDMULTIMAPtSQUAREWITHCONTOUREDOUTLINE 29e1:INCREASESASlSHUFFLEPRODUCToEQUAL",
     "SSIGNANDSLANTEDPARALLELaWITHTILDEABOVE 29e5:IDENTICALTOANDSLANTEDPARALLEL 29e6:GLEICHSTARKlT",
     "HERMODYNAMICnDOWNPOINTINGTRIANGLEWITHLEFTHALFBLACKnRIGHTHALFBLACK 29ea:BLACKDIAMONDWITHDOWNA",
     "RROWuLOZENGEmWHITECIRCLEWITHDOWNARROWyBLACKCIRCLEWITHDOWNARROWyERRORBARREDWHITESQUARElBLACKS",
     "QUARElWHITEDIAMONDmBLACKDIAMONDmWHITECIRCLElBLACKCIRCLEwRULEDELAYEDkEVERSESOLIDUSOPERATORwSO",
     "LIDUSWITHOVERBARsREVERSESOLIDUSWITHHORIZONTALSTROKE 29f8:BIGSOLIDUShREVERSESOLIDUSrDOUBLEPLU",
     "SkTRIPLEPLUSkLEFTPOINTINGCURVEDANGLEBRACKET 29fd:RIGHTPOINTINGCURVEDANGLEBRACKET 29fe:TINYeM",
     "INYeNARYCIRCLEDDOTOPERATORlPLUSOPERATORmTIMESOPERATORuUNIONOPERATORWITHDOTdPLUSvSQUAREINTERS",
     "ECTIONOPERATORuUNIONOPERATORxTWOLOGICALANDOPERATORlOROPERATORuNARYTIMESOPERATORrMODULOTWOSUM",
     "mSUMMATIONWITHINTEGRALvQUADRUPLEINTEGRALOPERATORzFINITEPARTINTEGRALsINTEGRALWITHDOUBLESTROKE",
     "qAVERAGEWITHSLASHyCIRCULATIONFUNCTIONtANTICLOCKWISEINTEGRATIONyLINEINTEGRATIONWITHRECTANGULA",
     "RPATHAROUNDPOLEzSEMICIRCULARPATHAROUNDPOLE 2a14:LINEINTEGRATIONNOTINCLUDINGTHEPOLE 2a15:INTE",
     "GRALAROUNDAPOINTOPERATOR 2a16:QUATERNIONINTEGRALOPERATOR 2a17:INTEGRALWITHLEFTWARDSARROWWITH",
     "HOOKwTIMESSIGNjINTERSECTIONmUNIONfOVERBARhUNDERBARuJOINeLARGELEFTTRIANGLEOPERATORzZNOTATIONS",
     "CHEMACOMPOSITIONlPIPINGfROJECTIONzPLUSSIGNWITHSMALLCIRCLEABOVEqCIRCUMFLEXACCENTABOVEvTILDEAB",
     "OVEkDOTBELOWiTILDEBELOWkSUBSCRIPTTWOmBLACKTRIANGLEzMINUSSIGNWITHCOMMAABOVEkDOTBELOWiFALLINGD",
     "OTSlRISINGDOTSxPLUSSIGNINLEFTHALFCIRCLEoRIGHTHALFCIRCLEzVECTORORCROSSPRODUCTuMULTIPLICATIONS",
     "IGNWITHDOTABOVEiUNDERBAR 2a32:SEMIDIRECTPRODUCTWITHBOTTOMCLOSED 2a33:SMASHPRODUCTmMULTIPLICA",
     "TIONSIGNINLEFTHALFCIRCLEoRIGHTHALFCIRCLE 2a36:CIRCLEDMULTIPLICATIONSIGNWITHCIRCUMFLEXACCENT ",
     "2a37:MULTIPLICATIONSIGNINDOUBLECIRCLE 2a38:CIRCLEDDIVISIONSIGNtPLUSSIGNINTRIANGLEsMINUSSIGNI",
     "NTRIANGLEsULTIPLICATIONSIGNINTRIANGLE 2a3c:INTERIORPRODUCTpRIGHTHANDINTERIORPRODUCTyZNOTATIO",
     "NRELATIONALCOMPOSITION 2a3f:AMALGAMATIONORCOPRODUCTxINTERSECTIONWITHDOTtUNIONWITHMINUSSIGNjO",
     "VERBARqINTERSECTIONWITHOVERBARhLOGICALAND 2a45:UNIONWITHLOGICALORnABOVEINTERSECTIONwINTERSEC",
     "TIONABOVEUNIONwUNIONABOVEBARABOVEINTERSECTION 2a49:INTERSECTIONABOVEBARABOVEUNION 2a4a:UNION",
     "BESIDEANDJOINEDWITHUNION 2a4b:INTERSECTIONBESIDEANDJOINEDWITHINTERSECTION 2a4c:CLOSEDUNIONWI",
     "THSERIFSpINTERSECTIONWITHSERIFS 2a4e:DOUBLESQUAREINTERSECTIONmUNIONrCLOSEDUNIONWITHSERIFSAND",
     "SMASHPRODUCT 2a51:LOGICALANDWITHDOTABOVEpORWITHDOTABOVEvDOUBLELOGICALANDdORpTWOINTERSECTINGL",
     "OGICALANDdORySLOPINGLARGEORcANDpLOGICALOROVERLAPPINGLOGICALANDxANDWITHMIDDLESTEMrORWITHMIDDL",
     "ESTEMqANDWITHHORIZONTALDASHvORWITHHORIZONTALDASHuANDWITHDOUBLEOVERBARnUNDERBARiDOUBLEUNDERBA",
     "R 2a61:SMALLVEEWITHUNDERBARuLOGICALORWITHDOUBLEOVERBARhUNDERBAR 2a64:ZNOTATIONDOMAINANTIREST",
     "RICTIONvRANGEANTIRESTRICTION 2a66:EQUALSSIGNWITHDOTBELOWwIDENTICALWITHDOTABOVEvTRIPLEHORIZON",
     "TALBARWITHDOUBLEVERTICALSTROKEuTRIPLEVERTICALSTROKE 2a6a:TILDEOPERATORWITHDOTABOVEiRISINGDOT",
     "S 2a6c:SIMILARMINUSSIMILARtCONGRUENTWITHDOTABOVEvEQUALSWITHASTERISKsALMOSTEQUALTOWITHCIRCUMF",
     "LEXACCENT 2a70:APPROXIMATELYEQUALOREQUALTO 2a71:EQUALSSIGNABOVEPLUSSIGNxPLUSSIGNABOVEEQUALSS",
     "IGNxEQUALSSIGNABOVETILDEOPERATOR 2a74:DOUBLECOLONEQUALqTWOCONSECUTIVEEQUALSSIGNSyHREECONSECU",
     "TIVEEQUALSSIGNS 2a77:EQUALSSIGNWITHTWODOTSABOVEANDTWODOTSBELOW 2a78:EQUIVALENTWITHFOURDOTSAB",
     "OVE 2a79:LESSTHANWITHCIRCLEINSIDEyGREATERTHANWITHCIRCLEINSIDE 2a7b:LESSTHANWITHQUESTIONMARKA",
     "BOVE 2a7c:GREATERTHANWITHQUESTIONMARKABOVE 2a7d:LESSTHANORSLANTEDEQUALTOyGREATERTHANORSLANTE",
     "DEQUALTO 2a7f:LESSTHANORSLANTEDEQUALTOWITHDOTINSIDE 2a80:GREATERTHANORSLANTEDEQUALTOWITHDOTI",
     "NSIDE 2a81:LESSTHANORSLANTEDEQUALTOWITHDOTABOVE 2a82:GREATERTHANORSLANTEDEQUALTOWITHDOTABOVE",
     " 2a83:LESSTHANORSLANTEDEQUALTOWITHDOTABOVERIGHT 2a84:GREATERTHANORSLANTEDEQUALTOWITHDOTABOVE",
     "LEFT 2a85:LESSTHANORAPPROXIMATEvGREATERTHANORAPPROXIMATEyLESSTHANANDSINGLELINENOTEQUALTO 2a8",
     "8:GREATERTHANANDSINGLELINENOTEQUALTO 2a89:LESSTHANANDNOTAPPROXIMATEzGREATERTHANANDNOTAPPROXI",
     "MATE 2a8b:LESSTHANABOVEDOUBLELINEEQUALABOVEGREATERTHAN 2a8c:GREATERTHANABOVEDOUBLELINEEQUALA",
     "BOVELESSTHAN 2a8d:LESSTHANABOVESIMILAROREQUAL 2a8e:GREATERTHANABOVESIMILAROREQUAL 2a8f:LESST",
     "HANABOVESIMILARABOVEGREATERTHAN 2a90:GREATERTHANABOVESIMILARABOVELESSTHAN 2a91:LESSTHANABOVE",
     "GREATERTHANABOVEDOUBLELINEEQUAL 2a92:GREATERTHANABOVELESSTHANABOVEDOUBLELINEEQUAL 2a93:LESST",
     "HANABOVESLANTEDEQUALABOVEGREATERTHANABOVESLANTEDEQUAL 2a94:GREATERTHANABOVESLANTEDEQUALABOVE",
     "LESSTHANABOVESLANTEDEQUAL 2a95:SLANTEDEQUALTOORLESSTHANiGREATERTHANlLESSTHANWITHDOTINSIDEvGR",
     "EATERTHANWITHDOTINSIDE 2a99:DOUBLELINEEQUALTOORLESSTHANiGREATERTHANuSLANTEDEQUALTOORLESSTHAN",
     "iGREATERTHAN 2a9d:SIMILARORLESSTHANiGREATERTHANnABOVELESSTHANABOVEEQUALSSIGNxGREATERTHANABOV",
     "EEQUALSSIGN 2aa1:DOUBLENESTEDLESSTHANiGREATERTHANlLESSTHANWITHUNDERBAR 2aa4:GREATERTHANOVERL",
     "APPINGLESSTHANtBESIDELESSTHANzLESSTHANCLOSEDBYCURVEvGREATERTHANCLOSEDBYCURVEyLESSTHANCLOSEDB",
     "YCURVEABOVESLANTEDEQUAL 2aa9:GREATERTHANCLOSEDBYCURVEABOVESLANTEDEQUAL 2aaa:SMALLERTHANlLARG",
     "ERTHANkSMALLERTHANOREQUALTOuLARGERTHANOREQUALTOtEQUALSSIGNWITHBUMPYABOVEyPRECEDESABOVESINGLE",
     "LINEEQUALSSIGN 2ab0:SUCCEEDSABOVESINGLELINEEQUALSSIGN 2ab1:PRECEDESABOVESINGLELINENOTEQUALTO",
     " 2ab2:SUCCEEDSABOVESINGLELINENOTEQUALTO 2ab3:PRECEDESABOVEEQUALSSIGNxSUCCEEDSABOVEEQUALSSIGN",
     "xPRECEDESABOVENOTEQUALTOxSUCCEEDSABOVENOTEQUALTOxPRECEDESABOVEALMOSTEQUALTO 2ab8:SUCCEEDSABO",
     "VEALMOSTEQUALTO 2ab9:PRECEDESABOVENOTALMOSTEQUALTO 2aba:SUCCEEDSABOVENOTALMOSTEQUALTO 2abb:D",
     "OUBLEPRECEDESiSUCCEEDSoSUBSETWITHDOTlPERSETWITHDOTnBSETWITHPLUSSIGNBELOWvPERSETWITHPLUSSIGNB",
     "ELOWxBSETWITHMULTIPLICATIONSIGNBELOW 2ac2:SUPERSETWITHMULTIPLICATIONSIGNBELOW 2ac3:SUBSETOFO",
     "REQUALTOWITHDOTABOVE 2ac4:SUPERSETOFOREQUALTOWITHDOTABOVE 2ac5:SUBSETOFABOVEEQUALSSIGNvPERSE",
     "TOFABOVEEQUALSSIGNxBSETOFABOVETILDEOPERATORyPERSETOFABOVETILDEOPERATOR 2ac9:SUBSETOFABOVEALM",
     "OSTEQUALTOyPERSETOFABOVEALMOSTEQUALTO 2acb:SUBSETOFABOVENOTEQUALTOvPERSETOFABOVENOTEQUALTOyQ",
     "UARELEFTOPENBOXOPERATORtRIGHTOPENBOXOPERATOR 2acf:CLOSEDSUBSETePERSETgBSETOREQUALTOnPERSETOR",
     "EQUALTOxSUBSETABOVESUPERSETrPERSETABOVESUBSETrBSETABOVESUBSETpPERSETABOVESUPERSETnBESIDESUBS",
     "ETgANDJOINEDBYDASHWITHSUBSET 2ad9:ELEMENTOFOPENINGDOWNWARDSzPITCHFORKWITHTEETOPtTRANSVERSALI",
     "NTERSECTIONxFORKINGhNONFORKINGkSHORTLEFTTACKiDOWNTACKiUPTACKlPERPENDICULARWITHSsVERTICALBART",
     "RIPLERIGHTTURNSTILE 2ae3:DOUBLEVERTICALBARLEFTTURNSTILE 2ae4:VERTICALBARDOUBLELEFTTURNSTILE ",
     "2ae5:DOUBLEVERTICALBARDOUBLELEFTTURNSTILE 2ae6:LONGDASHFROMLEFTMEMBEROFDOUBLEVERTICAL 2ae7:S",
     "HORTDOWNTACKWITHOVERBARtUPTACKWITHUNDERBARmABOVESHORTDOWNTACK 2aea:DOUBLEDOWNTACKiUPTACKgSTR",
     "OKENOTSIGNtREVERSEDDOUBLESTROKENOTSIGN 2aee:DOESNOTDIVIDEWITHREVERSEDNEGATIONSLASH 2aef:VERT",
     "ICALLINEWITHCIRCLEABOVEfBELOW 2af1:DOWNTACKWITHCIRCLEBELOWxPARALLELWITHHORIZONTALSTROKEqTILD",
     "EOPERATORzTRIPLEVERTICALBARBINARYRELATIONoWITHHORIZONTALSTROKE 2af6:TRIPLECOLONOPERATORnNEST",
     "EDLESSTHANiGREATERTHANxDOUBLELINESLANTEDLESSTHANOREQUALTOrGREATERTHANOREQUALTO 2afb:TRIPLESO",
     "LIDUSBINARYRELATION 2afc:LARGETRIPLEVERTICALBAROPERATOR 2afd:DOUBLESOLIDUSOPERATORvWHITEVERT",
     "ICALBARqNARYWHITEVERTICALBARtORTHEASTWHITEARROWoWESTWHITEARROWtSOUTHEASTWHITEARROWoWESTWHITE",
     "ARROWtLEFTRIGHTWHITEARROWpWARDSBLACKARROWtUPWARDSBLACKARROWrDOWNWARDSBLACKARROWtNORTHEASTBLA",
     "CKARROWoWESTBLACKARROWtSOUTHEASTBLACKARROWoWESTBLACKARROWtLEFTRIGHTBLACKARROWtUPDOWNBLACKARR",
     "OWqRIGHTWARDSARROWWITHTIPDOWNWARDSjUPWARDS 2b10:LEFTWARDSARROWWITHTIPDOWNWARDSjUPWARDS 2b12:",
     "SQUAREWITHTOPHALFBLACKmBOTTOMHALFBLACKpUPPERRIGHTDIAGONALHALFBLACK 2b15:SQUAREWITHLOWERLEFTD",
     "IAGONALHALFBLACK 2b16:DIAMONDWITHLEFTHALFBLACKnRIGHTHALFBLACKoTOPHALFBLACKmBOTTOMHALFBLACKzO",
     "TTEDSQUAREmBLACKLARGESQUAREqWHITELARGESQUAREqBLACKVERYSMALLSQUAREuWHITEVERYSMALLSQUAREuBLACK",
     "PENTAGONnWHITEPENTAGONiHEXAGONmBLACKHEXAGONmHORIZONTALBLACKHEXAGONwBLACKLARGECIRCLElMEDIUMDI",
     "AMONDsWHITEMEDIUMDIAMONDsBLACKMEDIUMLOZENGEsWHITEMEDIUMLOZENGEsBLACKSMALLDIAMONDhLOZENGErWHI",
     "TESMALLLOZENGErBLACKHORIZONTALELLIPSEwWHITEHORIZONTALELLIPSEwBLACKVERTICALELLIPSEuWHITEVERTI",
     "CALELLIPSEuLEFTARROWWITHSMALLCIRCLEyTHREELEFTWARDSARROWSuLEFTARROWWITHCIRCLEDPLUSxONGLEFTWAR",
     "DSSQUIGGLEARROWzEFTWARDSTWOHEADEDARROWWITHVERTICALSTROKEoDOUBLEVERTICALSTROKEyFROMBARmTRIPLE",
     "DASHARROWyARROWWITHDOTTEDSTEMkTAILWITHVERTICALSTROKEoDOUBLEVERTICALSTROKE 2b3b:LEFTWARDSTWOH",
     "EADEDARROWWITHTAILaWITHVERTICALSTROKEoDOUBLEVERTICALSTROKE 2b3e:LEFTWARDSARROWTHROUGHXwWAVEA",
     "RROWPOINTINGDIRECTLYLEFT 2b40:EQUALSSIGNABOVELEFTWARDSARROW 2b41:REVERSETILDEOPERATORABOVELE",
     "FTWARDSARROW 2b42:LEFTWARDSARROWABOVEREVERSEALMOSTEQUALTO 2b43:RIGHTWARDSARROWTHROUGHGREATER",
     "THANlSUPERSET 2b45:LEFTWARDSQUADRUPLEARROWxRIGHTWARDSQUADRUPLEARROWxEVERSETILDEOPERATORABOVE",
     "RIGHTWARDSARROW 2b48:RIGHTWARDSARROWABOVEREVERSEALMOSTEQUALTO 2b49:TILDEOPERATORABOVELEFTWAR",
     "DSARROW 2b4a:LEFTWARDSARROWABOVEALMOSTEQUALTOnREVERSETILDEOPERATOR 2b4c:RIGHTWARDSARROWABOVE",
     "REVERSETILDEOPERATOR 2b4d:DOWNWARDSTRIANGLEHEADEDZIGZAGARROW 2b4e:SHORTSLANTEDNORTHARROWrBAC",
     "KSLANTEDSOUTHARROW 2b50:WHITEMEDIUMSTARpBLACKSMALLSTARoWHITESMALLSTARoBLACKRIGHTPOINTINGPENT",
     "AGON 2b54:WHITERIGHTPOINTINGPENTAGON 2b55:HEAVYLARGECIRCLElOVALWITHOVALINSIDEsCIRCLEWITHCIRC",
     "LEINSIDEqaDSALTIREtSLANTEDNORTHARROWWITHHOOKEDHEAD 2b5b:BACKSLANTEDSOUTHARROWWITHHOOKEDTAIL ",
     "2b5c:SLANTEDNORTHARROWWITHHORIZONTALTAIL 2b5d:BACKSLANTEDSOUTHARROWWITHHORIZONTALTAIL 2b5e:B",
     "ENTARROWPOINTINGDOWNWARDSTHENNORTHEAST 2b5f:SHORTBENTARROWPOINTINGDOWNWARDSTHENNORTHEAST 2b6",
     "0:LEFTWARDSTRIANGLEHEADEDARROW 2b61:UPWARDSTRIANGLEHEADEDARROW 2b62:RIGHTWARDSTRIANGLEHEADED",
     "ARROW 2b63:DOWNWARDSTRIANGLEHEADEDARROW 2b64:LEFTRIGHTTRIANGLEHEADEDARROW 2b65:UPDOWNTRIANGL",
     "EHEADEDARROWzNORTHWESTTRIANGLEHEADEDARROWxEASTTRIANGLEHEADEDARROW 2b68:SOUTHEASTTRIANGLEHEAD",
     "EDARROWxWESTTRIANGLEHEADEDARROW 2b6a:LEFTWARDSTRIANGLEHEADEDDASHEDARROW 2b6b:UPWARDSTRIANGLE",
     "HEADEDDASHEDARROW 2b6c:RIGHTWARDSTRIANGLEHEADEDDASHEDARROW 2b6d:DOWNWARDSTRIANGLEHEADEDDASHE",
     "DARROW 2b6e:CLOCKWISETRIANGLEHEADEDOPENCIRCLEARROW 2b6f:ANTICLOCKWISETRIANGLEHEADEDOPENCIRCL",
     "EARROW 2b70:LEFTWARDSTRIANGLEHEADEDARROWTOBAR 2b71:UPWARDSTRIANGLEHEADEDARROWTOBAR 2b72:RIGH",
     "TWARDSTRIANGLEHEADEDARROWTOBAR 2b73:DOWNWARDSTRIANGLEHEADEDARROWTOBAR 2b76:NORTHWESTTRIANGLE",
     "HEADEDARROWTOBAR 2b77:NORTHEASTTRIANGLEHEADEDARROWTOBAR 2b78:SOUTHEASTTRIANGLEHEADEDARROWTOB",
     "AR 2b79:SOUTHWESTTRIANGLEHEADEDARROWTOBAR 2b7a:LEFTWARDSTRIANGLEHEADEDARROWWITHDOUBLEHORIZON",
     "TALSTROKE 2b7b:UPWARDSTRIANGLEHEADEDARROWWITHDOUBLEHORIZONTALSTROKE 2b7c:RIGHTWARDSTRIANGLEH",
     "EADEDARROWWITHDOUBLEHORIZONTALSTROKE 2b7d:DOWNWARDSTRIANGLEHEADEDARROWWITHDOUBLEHORIZONTALST",
     "ROKE 2b7e:HORIZONTALTABKEYqVERTICALTABKEYoLEFTWARDSTRIANGLEHEADEDARROWOVERRIGHTWARDSTRIANGLE",
     "HEADEDARROW 2b81:UPWARDSTRIANGLEHEADEDARROWLEFTWARDSOFDOWNWARDSTRIANGLEHEADEDARROW 2b82:RIGH",
     "TWARDSTRIANGLEHEADEDARROWOVERLEFTWARDSTRIANGLEHEADEDARROW 2b83:DOWNWARDSTRIANGLEHEADEDARROWL",
     "EFTWARDSOFUPWARDSTRIANGLEHEADEDARROW 2b84:LEFTWARDSTRIANGLEHEADEDPAIREDARROWS 2b85:UPWARDSTR",
     "IANGLEHEADEDPAIREDARROWS 2b86:RIGHTWARDSTRIANGLEHEADEDPAIREDARROWS 2b87:DOWNWARDSTRIANGLEHEA",
     "DEDPAIREDARROWS 2b88:LEFTWARDSBLACKCIRCLEDWHITEARROW 2b89:UPWARDSBLACKCIRCLEDWHITEARROW 2b8a",
     ":RIGHTWARDSBLACKCIRCLEDWHITEARROW 2b8b:DOWNWARDSBLACKCIRCLEDWHITEARROW 2b8c:ANTICLOCKWISETRI",
     "ANGLEHEADEDRIGHTUSHAPEDARROWrBOTTOMUSHAPEDARROWsLEFTUSHAPEDARROWqTOPUSHAPEDARROW 2b90:RETURN",
     "LEFTeRIGHTlNEWLINELEFTeRIGHTmFOURCORNERARROWSCIRCLINGANTICLOCKWISE 2b95:RIGHTWARDSBLACKARROW",
     " 2b97:SYMBOLFORTYPEAELECTRONICSzTHREEDTOPLIGHTEDLEFTWARDSEQUILATERALARROWHEAD 2b99:THREEDRIG",
     "HTLIGHTEDUPWARDSEQUILATERALARROWHEAD 2b9a:THREEDTOPLIGHTEDRIGHTWARDSEQUILATERALARROWHEAD 2b9",
     "b:THREEDLEFTLIGHTEDDOWNWARDSEQUILATERALARROWHEAD 2b9c:BLACKLEFTWARDSEQUILATERALARROWHEAD 2b9",
     "d:BLACKUPWARDSEQUILATERALARROWHEAD 2b9e:BLACKRIGHTWARDSEQUILATERALARROWHEAD 2b9f:BLACKDOWNWA",
     "RDSEQUILATERALARROWHEAD 2ba0:DOWNWARDSTRIANGLEHEADEDARROWWITHLONGTIPLEFTWARDSjRIGHTWARDS 2ba",
     "2:UPWARDSTRIANGLEHEADEDARROWWITHLONGTIPLEFTWARDSjRIGHTWARDS 2ba4:LEFTWARDSTRIANGLEHEADEDARRO",
     "WWITHLONGTIPUPWARDS 2ba5:RIGHTWARDSTRIANGLEHEADEDARROWWITHLONGTIPUPWARDS 2ba6:LEFTWARDSTRIAN",
     "GLEHEADEDARROWWITHLONGTIPDOWNWARDS 2ba7:RIGHTWARDSTRIANGLEHEADEDARROWWITHLONGTIPDOWNWARDS 2b",
     "a8:BLACKCURVEDDOWNWARDSANDLEFTWARDSARROWoRIGHTWARDSARROW 2baa:BLACKCURVEDUPWARDSANDLEFTWARDS",
     "ARROWoRIGHTWARDSARROWzLEFTWARDSANDUPWARDSARROWyRIGHTWARDSANDUPWARDSARROWzLEFTWARDSANDDOWNWAR",
     "DSARROW 2baf:BLACKCURVEDRIGHTWARDSANDDOWNWARDSARROW 2bb0:RIBBONARROWDOWNLEFTeRIGHTjUPLEFTeRI",
     "GHThLEFTUPgRIGHTUPhLEFTDOWNiRIGHTDOWNuUPWARDSWHITEARROWFROMBARWITHHORIZONTALBAR 2bb9:UPARROW",
     "HEADINARECTANGLEBOX 2bba:OVERLAPPINGWHITESQUAREShANDBLACKSQUARESuBLACKSQUARESxBALLOTBOXWITHL",
     "IGHTXtCIRCLEDXbBOLDXmBLACKSQUARECENTREDnDIAMONDCENTREDtTURNEDBLACKPENTAGONtHORIZONTALBLACKOC",
     "TAGONwBLACKOCTAGONhMEDIUMUPPOINTINGTRIANGLECENTREDzDOWNPOINTINGTRIANGLECENTRED 2bc7:BLACKMED",
     "IUMLEFTPOINTINGTRIANGLECENTRED 2bc8:BLACKMEDIUMRIGHTPOINTINGTRIANGLECENTRED 2bc9:NEPTUNEFORM",
     "TWOoTOPHALFBLACKCIRCLEsBOTTOMHALFBLACKCIRCLEvLIGHTFOURPOINTEDBLACKCUSPzROTATEDLIGHTFOURPOINT",
     "EDBLACKCUSP 2bce:WHITEFOURPOINTEDCUSPuROTATEDWHITEFOURPOINTEDCUSP 2bd0:SQUAREPOSITIONINDICAT",
     "ORxUNCERTAINTYSIGNpGROUPMARKjPLUTOFORMTWOcHREEfFOURdIVEnTRANSPLUTOkPROSERPINAkASTRAEAhHYGIEA",
     "gPHOLUSgNESSUSgWHITEMOONSELENApBLACKDIAMONDONCROSStTRUELIGHTMOONARTArCUPIDOgHADESfZEUSeKRONO",
     "SgAPOLLONgDMETOShVULCANUSiPOSEIDONiLEFTHALFBLACKSTARrRIGHTHALFBLACKSTARsSTARWITHLEFTHALFBLAC",
     "KnRIGHTHALFBLACKwLEFTWARDSTWOHEADEDARROWWITHTRIANGLEARROWHEADS 2bed:UPWARDSTWOHEADEDARROWWIT",
     "HTRIANGLEARROWHEADS 2bee:RIGHTWARDSTWOHEADEDARROWWITHTRIANGLEARROWHEADS 2bef:DOWNWARDSTWOHEA",
     "DEDARROWWITHTRIANGLEARROWHEADS 2bf0:ERISFORMONEdTWOlSEDNAfRUSSIANASTROLOGICALSYMBOLVIGINTILE",
     "jNOVILEgQUINTILEiBINOVILEiSENTAGONiTREDECILE 2bf9:EQUALSSIGNWITHINFINITYBELOW 2bfa:UNITEDSYM",
     "BOLmSEPARATEDSYMBOLpDOUBLEDSYMBOLnPASSEDSYMBOLmREVERSEDRIGHTANGLEsHELLSCHREIBERPAUSESYMBOLyG",
     "LAGOLITICCAPITALLETTERAZUdBUKYeVEDEeGLAGOLIhDOBROfYESTUfZHIVETEhDZELOfZEMLJAgIZHEdNITIALIZHE",
     "kbDJERVIgKAKOeLJUDIJEhMYSLITEhNASHIfONUdPOKOJIgRITSIfSLOVOfTVRIDOgUKUdFRITUfHERUeOTUdPEcSHTA",
     "eTSIdCHRIVIgSHAdYERUbIdATIeSPIDERYHAjYUcSMALLYUSaWITHTAILqYOcIOTATEDSMALLYUSpBIGYUSgIOTATEDB",
     "IGYUSnFITAeIZHITSAhSHTAPIChTROKUTASTIAlLATINATEMYSLITEpCAUDATECHRIVI 2c30:GLAGOLITICSMALLLET",
     "TERAZUdBUKYeVEDEeGLAGOLIhDOBROfYESTUfZHIVETEhDZELOfZEMLJAgIZHEdNITIALIZHEkbDJERVIgKAKOeLJUDI",
     "JEhMYSLITEhNASHIfONUdPOKOJIgRITSIfSLOVOfTVRIDOgUKUdFRITUfHERUeOTUdPEcSHTAeTSIdCHRIVIgSHAdYER",
     "UbIdATIeSPIDERYHAjYUcSMALLYUSaWITHTAILqYOcIOTATEDSMALLYUSpBIGYUSgIOTATEDBIGYUSnFITAeIZHITSAh",
     "SHTAPIChTROKUTASTIAlLATINATEMYSLITEpCAUDATECHRIVI 2c60:LATINCAPITALLETTERLWITHDOUBLEBAR 2c61",
     ":LATINSMALLLETTERLWITHDOUBLEBARzCAPITALLETTERLWITHMIDDLETILDEqPWITHSTROKElRWITHTAILwSMALLLET",
     "TERAWITHSTROKElTWITHDIAGONALSTROKE 2c67:LATINCAPITALLETTERHWITHDESCENDER 2c68:LATINSMALLLETT",
     "ERHWITHDESCENDERzCAPITALLETTERKWITHDESCENDER 2c6a:LATINSMALLLETTERKWITHDESCENDERzCAPITALLETT",
     "ERZWITHDESCENDER 2c6c:LATINSMALLLETTERZWITHDESCENDERzCAPITALLETTERALPHAfMWITHHOOKjTURNEDAaLP",
     "HAySMALLLETTERVWITHRIGHTHOOKzCAPITALLETTERWWITHHOOKwSMALLLETTERWWITHHOOKjVWITHCURLuCAPITALLE",
     "TTERHALFHsSMALLLETTERHALFHfTAILLESSPHIlEWITHNOTCHkTURNEDRWITHTAILpOWITHLOWRINGINSIDE 2c7b:LA",
     "TINLETTERSMALLCAPITALTURNEDEzSUBSCRIPTSMALLLETTERJ 2c7d:MODIFIERLETTERCAPITALVwLATINCAPITALL",
     "ETTERSWITHSWASHTAILoZWITHSWASHTAIL 2c80:COPTICCAPITALLETTERALFArSMALLLETTERALFApCAPITALLETTE",
     "RVIDArSMALLLETTERVIDApCAPITALLETTERGAMMAsSMALLLETTERGAMMAqCAPITALLETTERDALDAsSMALLLETTERDALD",
     "AqCAPITALLETTEREIEqSMALLLETTEREIEoCAPITALLETTERSOUqSMALLLETTERSOUoCAPITALLETTERZATArSMALLLET",
     "TERZATApCAPITALLETTERHATErSMALLLETTERHATEpCAPITALLETTERTHETHEtSMALLLETTERTHETHErCAPITALLETTE",
     "RIAUDAsSMALLLETTERIAUDAqCAPITALLETTERKAPArSMALLLETTERKAPApCAPITALLETTERLAULAsSMALLLETTERLAUL",
     "AqCAPITALLETTERMIpSMALLLETTERMInCAPITALLETTERNIpSMALLLETTERNInCAPITALLETTERKSIqSMALLLETTERKS",
     "IoCAPITALLETTEROoSMALLLETTEROmCAPITALLETTERPIpSMALLLETTERPInCAPITALLETTERROpSMALLLETTERROnCA",
     "PITALLETTERSIMArSMALLLETTERSIMApCAPITALLETTERTAUqSMALLLETTERTAUoCAPITALLETTERUApSMALLLETTERU",
     "AnCAPITALLETTERFIpSMALLLETTERFInCAPITALLETTERKHIqSMALLLETTERKHIoCAPITALLETTERPSIqSMALLLETTER",
     "PSIoCAPITALLETTEROOUqSMALLLETTEROOUoCAPITALLETTERDIALECTPALEFzSMALLLETTERDIALECTPALEFxCAPITA",
     "LLETTEROLDCOPTICAINzSMALLLETTEROLDCOPTICAINxCAPITALLETTERCRYPTOGRAMMICEIE 2cb7:COPTICSMALLLE",
     "TTERCRYPTOGRAMMICEIE 2cb8:COPTICCAPITALLETTERDIALECTPKAPAzSMALLLETTERDIALECTPKAPAxCAPITALLET",
     "TERDIALECTPNIxSMALLLETTERDIALECTPNIvCAPITALLETTERCRYPTOGRAMMICNI 2cbd:COPTICSMALLLETTERCRYPT",
     "OGRAMMICNI 2cbe:COPTICCAPITALLETTEROLDCOPTICOOUzSMALLLETTEROLDCOPTICOOUxCAPITALLETTERSAMPIsS",
     "MALLLETTERSAMPIqCAPITALLETTERCROSSEDSHEIySMALLLETTERCROSSEDSHEIwCAPITALLETTEROLDCOPTICSHEI 2",
     "cc5:COPTICSMALLLETTEROLDCOPTICSHEIyCAPITALLETTEROLDCOPTICESHzSMALLLETTEROLDCOPTICESHxCAPITAL",
     "LETTERAKHMIMICKHEIzSMALLLETTERAKHMIMICKHEIxCAPITALLETTERDIALECTPHORIzSMALLLETTERDIALECTPHORI",
     "xCAPITALLETTEROLDCOPTICHORI 2ccd:COPTICSMALLLETTEROLDCOPTICHORIyCAPITALLETTEROLDCOPTICHAySMA",
     "LLLETTEROLDCOPTICHAwCAPITALLETTERLSHAPEDHAwSMALLLETTERLSHAPEDHAuCAPITALLETTEROLDCOPTICHEIzSM",
     "ALLLETTEROLDCOPTICHEIxCAPITALLETTEROLDCOPTICHATzSMALLLETTEROLDCOPTICHATxCAPITALLETTEROLDCOPT",
     "ICGANGIA 2cd7:COPTICSMALLLETTEROLDCOPTICGANGIA 2cd8:COPTICCAPITALLETTEROLDCOPTICDJAzSMALLLET",
     "TEROLDCOPTICDJAxCAPITALLETTEROLDCOPTICSHIMA 2cdb:COPTICSMALLLETTEROLDCOPTICSHIMAzCAPITALLETT",
     "EROLDNUBIANSHIMA 2cdd:COPTICSMALLLETTEROLDNUBIANSHIMAzCAPITALLETTEROLDNUBIANNGIzSMALLLETTERO",
     "LDNUBIANNGIxCAPITALLETTEROLDNUBIANNYIzSMALLLETTEROLDNUBIANNYIxCAPITALLETTEROLDNUBIANWAUzSMAL",
     "LLETTEROLDNUBIANWAUwYMBOLKAIdMIROePIROeSTAUROShTAUROfKHIROfSHIMASIMApCAPITALLETTERCRYPTOGRAM",
     "MICSHEI 2cec:COPTICSMALLLETTERCRYPTOGRAMMICSHEI 2ced:COPTICCAPITALLETTERCRYPTOGRAMMICGANGIA ",
     "2cee:COPTICSMALLLETTERCRYPTOGRAMMICGANGIA 2cef:COPTICCOMBININGNIABOVEhSPIRITUSASPERfLENISvAP",
     "ITALLETTERBOHAIRICKHEIzSMALLLETTERBOHAIRICKHEI 2cf9:COPTICOLDNUBIANFULLSTOPiDIRECTQUESTIONMA",
     "RKsINDIRECTQUESTIONMARKuVERSEDIVIDERvFRACTIONONEHALFoULLSTOPiMORPHOLOGICALDIVIDER 2d00:GEORG",
     "IANSMALLLETTERANcBANdGANdDONdENcVINdZENdTANdINcKANdLASdMANdNARdONcPARdZHAReRAEdSANdTARdUNcPH",
     "AReKHAReGHANeQARdSHINeCHINdANdJILdCILcHAReXANdJHANeHAEcEbIEdWEcHARcOE 2d27:GEORGIANSMALLLETT",
     "ERYN 2d2d:GEORGIANSMALLLETTERAEN 2d30:TIFINAGHLETTERYAaBaHcGaHHfBERBERACADEMYYAJqYAJbDaHbDaH",
     "eEYcAFbKdTUAREGYAKjYAKHHdHdBERBERACADEMYYAHqTUAREGYAHjYAHHcAbKHeTUAREGYAKHkYAQdTUAREGYAQjYIb",
     "AZHeAHAGGARYAZHlTUAREGYAZHkYALbMbNdTUAREGYAGNcNGkYAPcUbARaRcGHeTUAREGYAGHkAYERYAGHiYASaSbHcT",
     "aHcCHcTTcVbWbYbZdTAWELLEMETYAZnYAZZdEbO 2d6f:TIFINAGHMODIFIERLETTERLABIALIZATIONMARK 2d70:TI",
     "FINAGHSEPARATORMARK 2d7f:TIFINAGHCONSONANTJOINERxETHIOPICSYLLABLELOAdMOAdROAdSOAcHOAeBOAdTOA",
     "dCOAdNOAcYOAeGLOTTALOAjZOAdDOAcDOAeJOAdTHOAeCHOAePHOAdOAdGGWAbIbEEb 2da0:ETHIOPICSYLLABLESSA",
     "bUbIbAAcEEbbO 2da8:ETHIOPICSYLLABLECCAbUbIbAAcEEbbO 2db0:ETHIOPICSYLLABLEZZAbUbIbAAcEEbbO 2d",
     "b8:ETHIOPICSYLLABLECCHAbUbIbAAcEEbbO 2dc0:ETHIOPICSYLLABLEQYAbUbIbAAcEEbbO 2dc8:ETHIOPICSYLL",
     "ABLEKYAbUbIbAAcEEbbO 2dd0:ETHIOPICSYLLABLEXYAbUbIbAAcEEbbO 2dd8:ETHIOPICSYLLABLEGYAbUbIbAAcE",
     "EbbO 2de0:COMBININGCYRILLICLETTERBEcVEcGHEdDEcZHEcEcKAcELbMbNcObPEcERbScTEcHAcTSEdCHEdSHAbCH",
     "AfFITAeESTEeAbIEcDJERVfMONOGRAPHUKlYATcUcIOTIFIEDAjLITTLEYUSjBIGYUSgIOTIFIEDBIGYUS 2e00:RIGH",
     "TANGLESUBSTITUTIONMARKERsDOTTEDSUBSTITUTIONMARKER 2e02:LEFTSUBSTITUTIONBRACKETxRIGHTSUBSTITU",
     "TIONBRACKETyLEFTDOTTEDSUBSTITUTIONBRACKET 2e05:RIGHTDOTTEDSUBSTITUTIONBRACKET 2e06:RAISEDINT",
     "ERPOLATIONMARKERtDOTTEDINTERPOLATIONMARKER 2e08:DOTTEDTRANSPOSITIONMARKERzLEFTTRANSPOSITIONB",
     "RACKETyRIGHTTRANSPOSITIONBRACKETyAISEDSQUAREmLEFTRAISEDOMISSIONBRACKETzRIGHTRAISEDOMISSIONBR",
     "ACKET 2e0e:EDITORIALCORONISqPARAGRAPHOSlFORKEDPARAGRAPHOSrREVERSEDFORKEDPARAGRAPHOSzHYPODIAS",
     "TOLEmDOTTEDOBELOSkWNWARDSANCORApUPWARDSANCORAnDOTTEDRIGHTPOINTINGANGLEwUBLEOBLIQUEHYPHENtINV",
     "ERTEDINTERROBANGtPALMBRANCHkHYPHENWITHDIAERESIStTILDEWITHRINGABOVEsLEFTLOWPARAPHRASEBRACKETy",
     "RIGHTLOWPARAPHRASEBRACKETzTILDEWITHDOTABOVEfBELOWrLEFTVERTICALBARWITHQUILLyRIGHTVERTICALBARW",
     "ITHQUILLzTOPLEFTHALFBRACKETpRIGHTHALFBRACKETtBOTTOMLEFTHALFBRACKETpRIGHTHALFBRACKETwLEFTSIDE",
     "WAYSUBRACKETuRIGHTSIDEWAYSUBRACKETvLEFTDOUBLEPARENTHESISvRIGHTDOUBLEPARENTHESISwTWODOTSOVERO",
     "NEDOTPUNCTUATION 2e2b:ONEDOTOVERTWODOTSPUNCTUATION 2e2c:SQUAREDFOURDOTPUNCTUATIONzFIVEDOTMAR",
     "KlREVERSEDQUESTIONMARKuVERTICALTILDEnRINGPOINTjWORDSEPARATORMIDDLEDOTwTURNEDCOMMAlRAISEDDOTd",
     "COMMAlTURNEDSEMICOLONpDAGGERWITHLEFTGUARDjRIGHTGUARDuTURNEDDAGGERlOPHALFSECTIONSIGNrWOEMDASH",
     "iHREEEMDASHlSTENOGRAPHICFULLSTOPuVERTICALSIXDOTSpWIGGLYVERTICALLINEsCAPITULUMjDOUBLEHYPHENmR",
     "EVERSEDCOMMAnDOUBLELOWREVERSED9QUOTATIONMARK 2e43:DASHWITHLEFTUPTURNrOUBLESUSPENSIONMARKuINV",
     "ERTEDLOWKAVYKAaWITHKAVYKAABOVE 2e47:LOWKAVYKAaWITHDOTqDOUBLESTACKEDCOMMAqTTEDSOLIDUSnTRIPLED",
     "AGGERmMEDIEVALCOMMAnPARAGRAPHUSMARKoUNCTUSELEVATUSMARKtCORNISHVERSEDIVIDERsROSSPATTYWITHRIGH",
     "TCROSSBARnLEFTCROSSBAR 2e52:TIRONIANSIGNCAPITALETvMEDIEVALEXCLAMATIONMARKpQUESTIONMARKuLEFTS",
     "QUAREBRACKETWITHSTROKE 2e56:RIGHTSQUAREBRACKETWITHSTROKE 2e57:LEFTSQUAREBRACKETWITHDOUBLESTR",
     "OKE 2e58:RIGHTSQUAREBRACKETWITHDOUBLESTROKE 2e59:TOPHALFLEFTPARENTHESISpRIGHTPARENTHESISxBOT",
     "TOMHALFLEFTPARENTHESISpRIGHTPARENTHESIS 2e5d:OBLIQUEHYPHEN"]

end ScriptBundle.Text.CharacterName
