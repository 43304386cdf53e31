/-!
# Names of notations

Music, mathematics, shorthand and the writing of signs.
-/

namespace ScriptBundle.Text.CharacterName

/-- Names of the code points from 1b000 to 1efff. -/
def notationNames : List String :=
    ["1b000:KATAKANALETTERARCHAICEwHIRAGANALETTERARCHAICYEwENTAIGANALETTERA1b2b3bWOdI1b2b3b4cU1b2b",
     "3b4b5cE2b3b4b5b6cO1b2b3cKA1b2b3b4b5b6b7b8b9b10b1cKEdI1b2b3b4b5b6b7b8cU1b2b3b4b5b6b7cE1b2b3b4",
     "b5b6cO1b2b3bKIeSA1b2b3b4b5b6b7b8cI1b2b3b4b5b6cU1b2b3b4b5b6b7b8cE1b2b3b4b5cO1b2b3b4b5b6b7dTA1",
     "b2b3b4cI1b2b3b4b5b6b7cU1b2b3b4bTOdE1b2b3b4b5b6b7b8b9cO1b2b3b4b5b6bRAeNA1b2b3b4b5b6b7b8b9cI1b",
     "2b3b4b5b6b7bTEdU1b2b3cE1b2b3b4b5b6bKOdO1b2b3b4b5dHA1b2b3b4b5b6b7b8b9b10b1dI1b2b3b4b5b6b7cU1b",
     "2b3cE1b2b3b4b5b6b7cO1b2b3b4b5b6b7b8dMA1b2b3b4b5b6b7cI1b2b3b4b5b6b7cU1b2b3b4cE1b2bMAdO1b2b3b4",
     "b5b6dYA1b2b3b4b5bYOdU1b2b3b4cO1b2b3b4b5b6dRA1b2b3b4cI1b2b3b4b5b6b7cU1b2b3b4b5b6cE1b2b3b4cO1b",
     "2b3b4b5b6dWA1b2b3b4b5cI1b2b3b4b5cE1b2b3b4cO1b2b3b4b5b6b7dNMUMO1b2vIRAGANALETTERARCHAICWUxKAT",
     "AKANALETTERARCHAICYIbEcWU 1b132:HIRAGANALETTERSMALLKO 1b150:HIRAGANALETTERSMALLWIbEbO 1b155:",
     "KATAKANALETTERSMALLKO 1b164:KATAKANALETTERSMALLWIbEbOcN 1bc00:DUPLOYANLETTERHbXbPbTbFbKbLbBb",
     "DbVbGbRbPNcDScFNcKMcRScTHcSLOANDHhDHcKKcSLOANJgHLcLHcRHcMbNbJbSbMNcNMcJMcSJcMWITHDOTiNWITHDO",
     "TiJWITHDOTaSINSIDEANDABOVExSWITHDOTaBELOWnMScNScJScSScMNSdNMSdJMSdSJSdJSWITHDOTiNaSdSTaRcPaR",
     "dTSbRSdWaHbRcSNbMcKRSdGRSdSKaRdAbSLOANOWhOAbbAOUdIbEbIEcSHORTIgUIcEEcSLOANEHhROMANIANIjSLOAN",
     "EEhLONGIfYEcUbEUcXWcUNcLONGUfROMANIANUjUHcSLOANUgOOHcWbUcWAbObIbEIcOWdNASALUbObIbAgPERNINANb",
     "MiSLOANENcANcONhVOCALICM 1bc70:DUPLOYANAFFIXLEFTHORIZONTALSECANTuMIDHORIZONTALSECANTtRIGHTHO",
     "RIZONTALSECANTvLOWVERTICALSECANTrMIDVERTICALSECANTrHIGHVERTICALSECANTsATTACHEDSECANTgLEFTTOR",
     "IGHTSECANTrTANGENTfILeEHOOKfIHOOKfTANGENTHOOK 1bc80:DUPLOYANAFFIXHIGHACUTEfTIGHTACUTEkGRAVEf",
     "LONGGRAVEjDOTdCIRCLEgLINEeWAVEeVERTICAL 1bc90:DUPLOYANAFFIXLOWACUTEfTIGHTACUTEkGRAVEfLONGGRA",
     "VEjDOTdCIRCLEgLINEeWAVEeVERTICALiARROW 1bc9c:DUPLOYANSIGNOWITHCROSSoTHICKLETTERSELECTORtDOUB",
     "LEMARKkPUNCTUATIONCHINOOKFULLSTOP 1bca0:SHORTHANDFORMATLETTEROVERLAPnCONTINUINGOVERLAPrDOWNS",
     "TEPiUPSTEP 1cf00:ZNAMENNYCOMBININGMARKGORAZDONIZKOSKRYZHEMONLEFT 1cf01:ZNAMENNYCOMBININGMARK",
     "NIZKOSKRYZHEMONLEFTtTSATAONLEFTlGORAZDONIZKOONLEFTsNIZKOONLEFTlSREDNEONLEFTmMALOPOVYSHEONLEF",
     "TrPOVYSHEONLEFTnVYSOKOONLEFTmMALOPOVYSHESKHOKHLOMONLEFT 1cf0a:ZNAMENNYCOMBININGMARKPOVYSHESK",
     "HOKHLOMONLEFTwVYSOKOSKHOKHLOMONLEFTvGORAZDONIZKOSKRYZHEMONRIGHT 1cf0d:ZNAMENNYCOMBININGMARKN",
     "IZKOSKRYZHEMONRIGHTuTSATAONRIGHTmGORAZDONIZKOONRIGHTtNIZKOONRIGHTmSREDNEONRIGHTnMALOPOVYSHEO",
     "NRIGHTsPOVYSHEONRIGHToVYSOKOONRIGHTnMALOPOVYSHESKHOKHLOMONRIGHT 1cf16:ZNAMENNYCOMBININGMARKP",
     "OVYSHESKHOKHLOMONRIGHTxVYSOKOSKHOKHLOMONRIGHTwTSATASKRYZHEMnMALOPOVYSHESKRYZHEMtSTRANNOMALOP",
     "OVYSHEsPOVYSHESKRYZHEMhTRANNOoVYSOKOSKRYZHEMoMALOPOVYSHESTRANNOsGORAZDOVYSOKOnZELOeONcRAVNOf",
     "TIKHAYAhBORZAYAhUDARKAgPODVERTKAjLOMKAfKUPNAYAgACHKAgZEVOKfSKOBAfRAZSEKAhKRYZHONLEFT 1cf30:Z",
     "NAMENNYCOMBININGTONALRANGEMARKMRACHNOhSVETLOgTRESVETLOxMARKZADERZHKAjDEMESTVENNYZADERZHKAuOT",
     "SECHKAiPODCHASHIEaWITHVERTICALSTROKE 1cf38:ZNAMENNYCOMBININGMARKCHASHKAaPOLNAYAoOBLACHKOiSOR",
     "OCHYANOZHKAoTOCHKAgDVOETOCHIEoATTACHINGVERTICALOMETvMARKCURVEDOMETkKRYZHjLOWERTONALRANGEINDI",
     "CATOR 1cf42:ZNAMENNYPRIZNAKMODIFIERLEVEL2b3gDIRECTIONFLIPnKRYZHfROG 1cf50:ZNAMENNYNEUMEKRYUK",
     "aTIKHYkPARAKLITiDVAVCHELNUkKLYUCHgZANOZHEKiSTOPITSAaSOCHKOMpPEREVODKAaNEPOSTOYANNAYAxSTOPITS",
     "AWITHSOROCHYANOZHKA 1cf5b:ZNAMENNYNEUMECHELYUSTKAkPALKAfZAPYATAYAjGOLUBCHIKBORZYfTIKHYfMRACH",
     "NYhSVETLYgTRESVETLYsVRAKHIYAPROSTAYAiMRACHNAYAjSVETLAYAiTRESVETLAYAlKLYUCHEVAYAPROSTAYAiMRAC",
     "HNAYAjSVETLAYAiTRESVETLAYA 1cf6b:ZNAMENNYNEUMEDOUBLEZAPYATAYApREVERSEDCHELYUSTKAsDERBITSAiKH",
     "AMILOhCHASHKAhPODCHASHIEkSKAMEYTSAMRACHNAYAjSVETLAYAiTRESVETLAYAkIKHAYAqDEMESTVENNYKLYUCHrSK",
     "AMEYTSAKLYUCHEVAYASVETLAYAmNEPOSTOYANNAYAoVAYATIKHAYAsDVOECHELNAYAPROSTAYAiSVETLAYAiNEPOSTOY",
     "ANNAYAoKLYUCHEVAYA 1cf7d:ZNAMENNYNEUMESLOZHITIEaSZAPYATOYjZAKRYTOEiSKRYZHEMrKRYZHfROGdFITAeK",
     "OBYLAgZMEYTSAhSTATYAaSZAPYATOYiKRYZHEMhZAPYATOYIKRYZHEMqKRYZHEMIZAPYATOYrZAKRYTAYAaSZAPYATOY",
     "sSROGOMfDVUMYAZAPYATYMIpZAPYATOYIPODCHASHIEM 1cf90:ZNAMENNYNEUMEPOLKULIZMYkSTATYANEPOSTOYANN",
     "AYAsRELAPROSTAYAiMRACHNOTIKHAYAoKRYZHEVAYAkPOLUPOVODNAYAlVODNAYAjNEPOSTOYANNAYAoKLYUCHEPOVOD",
     "NAYAjNEPOSTOYANNAYAvTIKHAYAPUTNAYAoDVOECHELNAYAdOKRYZHEVAYAkPOVODNAYAkAYAKLYUCHEVAYAoOPOVODN",
     "AYAKLYUCHEVAYA 1cfa0:ZNAMENNYNEUMESTRELAGROMNAYAWITHSINGLEZAPYATAYAxOPOVODNAYAWITHSINGLEZAPY",
     "ATAYA 1cfa2:ZNAMENNYNEUMESTRELAGROMNAYAeOPOVODNAYAaWITHDOUBLEZAPYATAYA 1cfa5:ZNAMENNYNEUMEST",
     "RELAGROMOKRYZHEVAYAaPOVODNAYA 1cfa7:ZNAMENNYNEUMEMECHIKaPOVODNYhKLYUCHEVOYdPOVODNYhNEPOSTOYA",
     "NNYzSTRELATRYASOGLASNAYAiPOVODNAYAjSTRELNAYAvOSOKAaSVETLAYAiTRESVETLAYAlKRYUKOVAYASVETLAYArL",
     "YUCHEVAYASVETLAYAiNEPOSTOYANNAYA 1cfb5:ZNAMENNYNEUMESTRELAKRYUKOVAYAaPOVODNAYAjGROMNAYAWITHS",
     "INGLEZAPYATAYAxOPOVODNAYAWITHSINGLEZAPYATAYA 1cfb9:ZNAMENNYNEUMESTRELAKRYUKOVAYAGROMNAYAeOPO",
     "VODNAYAaWITHDOUBLEZAPYATAYA 1cfbc:ZNAMENNYNEUMESTRELAKRYUKOVAYAGROMOKRYZHEVAYAaPOVODNAYAyTRY",
     "ASKAxKUFISMAhOBLAKOgDUDAeNEMKAfPAUK 1d000:BYZANTINEMUSICALSYMBOLPSILIfDASEIAgPERISPOMENIlOXE",
     "IAEKFONITIKONlDIPLIkVAREIAEKFONITIKONlDIPLIlKATHISTIiSYRMATIKIjPARAKLITIKIlYPOKRISISaDIPLIoK",
     "REMASTIiAPESOEKFONITIKONqEXOEKFONITIKONoTELEIAgKENTIMATAjAPOSTROFOSaDIPLIpSYNEVMAhTHITAfOLIG",
     "ONARCHAIONoGORGONARCHAIONoPSILONgCHAMILONiVATHYfISONARCHAIONmKENTIMAARCHAIONiTAARCHAIONrSAXI",
     "MATAiPARICHONiSTAVROSAPODEXIApOXEIAIARCHAIONoVAREIAIARCHAIONpAPODERMAARCHAIONnTHEMAiKLASMAgR",
     "EVMAfPIASMAARCHAIONoTINAGMAhANATRICHISMAmSEISMAfYNAGMAARCHAIONiMETASTAVROUsOYRANISMAARCHAION",
     "rTHEMAfLEMOIfDYOdTRIAdESSERAhKRATIMATAjAPESOEXONEOlFTHORAARCHAIONoIMIFTHORAjTROMIKONARCHAION",
     "qKATAVATROMIKONoPELASTONhSIFISTONjKONTEVMAiCHOREVMAARCHAIONqRAPISMAhPARAKALESMAARCHAIONoLITI",
     "KIARCHAIONtICHADINhNANAePETASMAhKONTEVMAALLOmTROMIKONALLOmSTRAGGISMATAmGRONTHISMATAmISONNEOh",
     "OLIGONNEOiXEIANEOiPETASTIhKOUFISMAiPETASTOKOUFISMApKRATIMOKOUFISMApPELASTONNEOlKENTIMATANEOA",
     "NOiNEOANOnYPSILIgAPOSTROFOSNEOeISYNDESMOSNEOwYPORROIhKRATIMOYPORROONpELAFRONhCHAMILIhMIKRONI",
     "SONkVAREIANEOjPIASMANEOiSIFISTONNEOmOMALONgANTIKENOMAkLYGISMAhPARAKLITIKINEOjALESMANEOoETERO",
     "NPARAKALESMArKYLISMAhANTIKENOKYLISMApTROMIKONNEOlEKSTREPTONkSYNAGMANEOiRMAfCHOREVMANEOlEPEGE",
     "RMAiSEISMANEOjXIRONKLASMAlTROMIKOPSIFISTONqPSIFISTOLYGISMApTROMIKOLYGISMAhPARAKALESMAsPSIFIS",
     "TOPARAKALESMAtTROMIKOSYNAGMAoPSIFISTOSYNAGMApGORGOSYNTHETONoARGOSYNTHETONnETERONARGOSYNTHETO",
     "NtOYRANISMANEOmTHEMATISMOSESOcXOjAPLOUNiSKAIAPOTHESoKATAVASMAjENDOFONONjYFENKATOeANOhSTAVROS",
     "hKLASMAANOjDIPLIARCHAIONnKRATIMAARCHAIONhLLOeNEOkAPODERMANEOjLIeDIPLIfTRIPLIfETRAPLIiKORONIS",
     "hLEIMMAENOSCHRONOUlDYOCHRONONkTRIONCHRONONlESSARONCHRONONpIMISEOSCHRONOUuGORGONNEOANOgPAREST",
     "IGMENONARISTERAiDEXIAyDIGORGONaPARESTIGMENONARISTERAKATOeANOlDEXIA 1d096:BYZANTINEMUSICALSYM",
     "BOLTRIGORGONjARGONfIMIDIARGONkDIARGONhAGOGIPOLIARGIiARGOTERIfIeMETRIAeSIeGORGIbOTERIjPOLIGOR",
     "GIoMARTYRIAPROTOSICHOSlALLIPROTOSICHOSpDEYTEROSICHOSnALLIDEYTEROSICHOSrTRITOSICHOSiFONIASiET",
     "ARTOSICHOSfLEGETOSICHOSuLEGETOSICHOSmPLAGIOSICHOSuISAKIATELOUSICHIMATOSvAPOSTROFOITELOUSICHI",
     "MATOSzFANEROSISTETRAFONIASlMONOFONIASkDIFONIASrMARTYRIAVARYSICHOSkPROTOVARYSICHOSoLAGIOSTETA",
     "RTOSICHOS 1d0b4:BYZANTINEMUSICALSYMBOLGORTHMIKONNAPLOUNgDIPLOUNsENARXISKAIFTHORAVOUtIMIFONON",
     "eTHORONkFTHORAARCHAIONDEYTEROUICHOUvDIATONIKIPAcNANAnNAOSICHOSjDIATONIKIDIlSKLIRONDIATONONDI",
     "rDIATONIKIKEcZOcNIKATOeANOoMALAKONCHROMADIFONIASiMONOFONIAS 1d0c5:BYZANTINEMUSICALSYMBOLFHTO",
     "RASKLIRONCHROMAVASISxTHORASKLIRONCHROMASYNAFItNENANOmCHROAZYGOSfKLITONgSPATHIlFTHORAIYFESIST",
     "ETARTIMORIONuENARMONIOSANTIFONIAzYFESISTRITIMORIONrDIESISTRITIMORIONkETARTIMORIONnAPLIDYODOD",
     "EKATApMONOGRAMMOSTESSERADODEKATA 1d0d2:BYZANTINEMUSICALSYMBOLDIESISDIGRAMMOSEXDODEKATAtTRIGR",
     "AMMOSOKTODODEKATA 1d0d4:BYZANTINEMUSICALSYMBOLYFESISAPLIDYODODEKATApMONOGRAMMOSTESSERADODEKA",
     "TA 1d0d6:BYZANTINEMUSICALSYMBOLYFESISDIGRAMMOSEXDODEKATAtTRIGRAMMOSOKTODODEKATA 1d0d8:BYZANT",
     "INEMUSICALSYMBOLGENIKIDIESISgYFESISmDIASTOLIAPLIMIKRIeEGALIkDIPLIfTHESEOSpSIMANSISTHESEOSaDI",
     "SIMOUhTRISIMOUhETRASIMOUrARSEOSaDISIMOUhTRISIMOUhETRASIMOUyDIGRAMMAGGiFTOGGOSOUlSTIGMAgARKTI",
     "KOPAcVOUdGAcDIcKEcZOcNIjKENTIMATANEOMESOjNEOMESOhTANEOKATOjNEOKATOnLASMAKATOkGORGONNEOKATO 1",
     "d100:MUSICALSYMBOLSINGLEBARLINEnDOUBLEBARLINEnFINALBARLINEmREVERSEFINALBARLINEtDASHEDBARLINE",
     "nSHORTBARLINEmLEFTREPEATSIGNoRIGHTREPEATSIGNoEPEATDOTSkDALSEGNOgCAPOgSEGNOfCODAeREPEATEDFIGU",
     "RE1b2b3pFERMATAaBELOWmBREATHMARKkCAESURAhBRACEbKEThONELINESTAFFmTWOLINESTAFFlHREELINESTAFFoF",
     "OURLINESTAFFmIVELINESTAFFnSIXLINESTAFFjSTRINGFRETBOARDsFOURSTRINGFRETBOARDtGCLEFaOTTAVAALTAe",
     "BASSAqCCLEFfFCLEFaOTTAVAALTAeBASSAqDRUMCLEF1b2 1d129:MUSICALSYMBOLMULTIPLEMEASURERESTtDOUBLE",
     "SHARPfFLATkFLATUPcDOWNiNATURALUPcDOWNlSHARPUPcDOWNjQUARTERTONESHARPfFLATpCOMMONTIMEjUTTIMEhO",
     "TTAVAALTAeBASSAlQUINDICESIMAALTAeBASSArMULTIRESTjWHOLERESTjHALFRESTiQUARTERRESTlEIGHTHRESTkS",
     "IXTEENTHRESTnTHIRTYSECONDRESTqSIXTYFOURTHRESTpONEHUNDREDTWENTYEIGHTHREST 1d143:MUSICALSYMBOL",
     "XNOTEHEADjPLUSNOTEHEADmCIRCLEXNOTEHEADpSQUARENOTEHEADWHITEfBLACKtTRIANGLENOTEHEADUPWHITEfBLA",
     "CKhLEFTWHITEfBLACKjRIGHTWHITEfBLACKkDOWNWHITEfBLACKjUPRIGHTWHITEfBLACK 1d152:MUSICALSYMBOLMO",
     "ONNOTEHEADWHITEfBLACKrTRIANGLEROUNDNOTEHEADDOWNWHITEfBLACK 1d156:MUSICALSYMBOLPARENTHESISNOT",
     "EHEADtVOIDNOTEHEADmNOTEHEADBLACKmULLNOTEHEADmCLUSTERNOTEHEADWHITEfBLACKuBREVEfWHOLENOTEjHALF",
     "NOTEiQUARTERNOTElEIGHTHNOTEkSIXTEENTHNOTEnTHIRTYSECONDNOTEqSIXTYFOURTHNOTEpONEHUNDREDTWENTYE",
     "IGHTHNOTE 1d165:MUSICALSYMBOLCOMBININGSTEMdPRECHGESANGSTEMqTREMOLO1b2b3rFINGEREDTREMOLO1b2b3",
     "qCOMBININGAUGMENTATIONDOTpFLAG1b2b3b4b5oBEGINBEAMjENDBEAMhBEGINTIEiENDTIEgBEGINSLURjENDSLURh",
     "BEGINPHRASElENDPHRASEjCOMBININGACCENTgSTACCATOiTENUTOgSTACCATISSIMOnMARCATOaSTACCATOpACCENTS",
     "TACCATOoLOUREoARPEGGIATOUPcDOWNoCOMBININGDOITeRIPdFLIPeSMEARfBENDeDOUBLETONGUEmTRIPLETONGUEv",
     "RINFORZANDOlSUBITOgZbPIANOfMEZZOfFORTEfCRESCENDOjDECRESCENDOlGRACENOTESLASHfNOSLASHqTRbURNeI",
     "NVERTEDTURNmTURNSLASHfUPgORNAMENTSTROKE1b2b3b4b5b6b7b8b9b10b1qHAUPTSTIMMElNEBENSTIMMElENDOFS",
     "TIMMElDEGREESLASHlCOMBININGDOWNBOWhUPBOWfHARMONICiSNAPPIZZICATOwPEDALMARKeUPMARKlHALFPEDALMA",
     "RKnGLISSANDOUPcDOWNnWITHFINGERNAILSpDAMPaALLhMAXIMAgLONGAfBREVISgSEMIBREVISWHITEfBLACKpMINIM",
     "AaBLACKlSEMIMINIMAWHITEfBLACKpFUSAWHITEfBLACKjLONGAPERFECTARESTmIMPERFECTARESTtBREVISRESTkSE",
     "MIBREVISRESToMINIMARESTkSEMIMINIMARESToTEMPUSPERFECTUMCUMPROLATIONEPERFECTAiIMPERFECTAkPERFE",
     "CTADIMINUTION1 1d1ca:MUSICALSYMBOLTEMPUSIMPERFECTUMCUMPROLATIONEPERFECTAiIMPERFECTAaDIMINUTI",
     "ON1b2b3 1d1cf:MUSICALSYMBOLCROIXfGREGORIANCCLEFfFCLEFoSQUAREBhVIRGAfPODATUShCLIVISgSCANDICUS",
     "jCLIMACUSiTORCULUSiPORRECTUSaFLEXUSpSCANDICUSFLEXUSpTORCULUSRESUPINUSrPESSUBPUNCTISnKIEVANCC",
     "LEFfENDOFPIECEkFINALNOTEjRECITATIVEMARKoWHOLENOTEjHALFNOTEiQUARTERNOTESTEMDOWNeUPrEIGHTHNOTE",
     "STEMDOWNeUPqFLATSIGNoSORIeKORON 1d200:GREEKVOCALNOTATIONSYMBOL1b2b3b4b5b6b7b8b9b10b1b2b3b4b5",
     "b6b7b8b9c20b1b2b3b4c50b1b2b3b4vINSTRUMENTALNOTATIONSYMBOL1b2b4b5b7b8b11b2b3b4b7b8b9c23b4b5b6",
     "b7b9c30b2b6b7b8b9c40b2b3b5b7b8b9c50b1b2b3b4 1d242:COMBININGGREEKMUSICALTRISEMEgETRASEMEjPENT",
     "ASEME 1d245:GREEKMUSICALLEIMMA 1d2c0:KAKTOVIKNUMERALZEROeONEdTWOcHREEfFOURdIVEeSIXcEVENfEIGH",
     "TfNINEeTENdELEVENgTWELVEfHIRTEENiFOURTEENhIFTEENhSIXTEENgEVENTEENjEIGHTEENiNINETEEN 1d2e0:MA",
     "YANNUMERALZEROeONEdTWOcHREEfFOURdIVEeSIXcEVENfEIGHTfNINEeTENdELEVENgTWELVEfHIRTEENiFOURTEENh",
     "IFTEENhSIXTEENgEVENTEENjEIGHTEENiNINETEEN 1d300:MONOGRAMFOREARTHqDIGRAMFORHEAVENLYEARTHmUMAN",
     "EARTHkEARTHLYHEAVENfUMANhoTETRAGRAMFORCENTREgFULLCIRCLEkMIREDfBARRIERhKEEPINGSMALLmCONTRARIE",
     "TYlASCENTgOPPOSITIONkBRANCHINGOUTmDEFECTIVENESSORDISTORTIONyIVERGENCEkYOUTHFULNESSmINCREASEi",
     "PENETRATIONlREACHfCONTACThHOLDINGBACKlWAITINGhFOLLOWINGjADVANCEhRELEASEfSISTANCEkEASEeJOYdCO",
     "NTENTIONkENDEAVOURjDUTIESgCHANGEgDECISIVENESSmBOLDRESOLUTIONoPACKINGhLEGIONgCLOSENESSjKINSHI",
     "PhGATHERINGjSTRENGTHiPURITYgFULLNESSiRESIDENCEjLAWORMODELkRESPONSEiGOINGTOMEETlENCOUNTERSkST",
     "OVEfGREATNESSjENLARGEMENTlPATTERNhRITUALgFLIGHTgVASTNESSORWASTINGrCONSTANCYjMEASUREhETERNITY",
     "iUNITYfDIMINISHMENTmCLOSEDMOUTHlGUARDEDNESSkATHERINGINlMASSINGhACCUMULATIONmEMBELLISHMENTnDO",
     "UBTfWATCHfSINKINGhINNERfDEPARTUREiARKENINGiIMMINGhEXHAUSTIONkSEVERANCEiTOPPAGEiHARDNESSiCOMP",
     "LETIONjLOSUREhFAILUREhAGGRAVATIONlCOMPLIANCEkONTHEVERGEkDIFFICULTIESmLABOURINGjFOSTERING 1d3",
     "60:COUNTINGRODUNITDIGITONEdTWOcHREEfFOURdIVEeSIXcEVENfEIGHTfNINEnTENSDIGITONEdTWOcHREEfFOURd",
     "IVEeSIXcEVENfEIGHTfNINEyIDEOGRAPHICTALLYMARKONEdTWOcHREEfFOURdIVEyTALLYMARKONEdFIVE 1d400:MA",
     "THEMATICALBOLDCAPITALAbBbCbDbEbFbGbHbIbJbKbLbMbNbObPbQbRbSbTbUbVbWbXbYbZiSMALLAbBbCbDbEbFbGb",
     "HbIbJbKbLbMbNbObPbQbRbSbTbUbVbWbXbYbZkITALICCAPITALAbBbCbDbEbFbGbHbIbJbKbLbMbNbObPbQbRbSbTbU",
     "bVbWbXbYbZiSMALLAbBbCbDbEbFbG 1d456:MATHEMATICALITALICSMALLIbJbKbLbMbNbObPbQbRbSbTbUbVbWbXbY",
     "bZmBOLDITALICCAPITALAbBbCbDbEbFbGbHbIbJbKbLbMbNbObPbQbRbSbTbUbVbWbXbYbZiSMALLAbBbCbDbEbFbGbH",
     "bIbJbKbLbMbNbObPbQbRbSbTbUbVbWbXbYbZqSCRIPTCAPITALA 1d49e:MATHEMATICALSCRIPTCAPITALCbD 1d4a2",
     ":MATHEMATICALSCRIPTCAPITALG 1d4a5:MATHEMATICALSCRIPTCAPITALJbK 1d4a9:MATHEMATICALSCRIPTCAPIT",
     "ALNbObPbQ 1d4ae:MATHEMATICALSCRIPTCAPITALSbTbUbVbWbXbYbZiSMALLAbBbCbD 1d4bb:MATHEMATICALSCRI",
     "PTSMALLF 1d4bd:MATHEMATICALSCRIPTSMALLHbIbJbKbLbMbN 1d4c5:MATHEMATICALSCRIPTSMALLPbQbRbSbTbU",
     "bVbWbXbYbZmBOLDSCRIPTCAPITALAbBbCbDbEbFbGbHbIbJbKbLbMbNbObPbQbRbSbTbUbVbWbXbYbZiSMALLAbBbCbD",
     "bEbFbGbHbIbJbKbLbMbNbObPbQbRbSbTbUbVbWbXbYbZqFRAKTURCAPITALAbB 1d507:MATHEMATICALFRAKTURCAPI",
     "TALDbEbFbG 1d50d:MATHEMATICALFRAKTURCAPITALJbKbLbMbNbObPbQ 1d516:MATHEMATICALFRAKTURCAPITALS",
     "bTbUbVbWbXbY 1d51e:MATHEMATICALFRAKTURSMALLAbBbCbDbEbFbGbHbIbJbKbLbMbNbObPbQbRbSbTbUbVbWbXbY",
     "bZnDOUBLESTRUCKCAPITALAbB 1d53b:MATHEMATICALDOUBLESTRUCKCAPITALDbEbFbG 1d540:MATHEMATICALDOU",
     "BLESTRUCKCAPITALIbJbKbLbM 1d546:MATHEMATICALDOUBLESTRUCKCAPITALO 1d54a:MATHEMATICALDOUBLESTR",
     "UCKCAPITALSbTbUbVbWbXbY 1d552:MATHEMATICALDOUBLESTRUCKSMALLAbBbCbDbEbFbGbHbIbJbKbLbMbNbObPbQ",
     "bRbSbTbUbVbWbXbYbZsBOLDFRAKTURCAPITALAbBbCbDbEbFbGbHbIbJbKbLbMbNbObPbQbRbSbTbUbVbWbXbYbZiSMA",
     "LLAbBbCbDbEbFbGbHbIbJbKbLbMbNbObPbQbRbSbTbUbVbWbXbYbZrSANSSERIFCAPITALAbBbCbDbEbFbGbHbIbJbKb",
     "LbMbNbObPbQbRbSbTbUbVbWbXbYbZiSMALLAbBbCbDbEbFbGbHbIbJbKbLbMbNbObPbQbRbSbTbUbVbWbXbYbZgBOLDC",
     "APITALAbBbCbDbEbFbGbHbIbJbKbLbMbNbObPbQbRbSbTbUbVbWbXbYbZiSMALLAbBbCbDbEbFbGbHbIbJbKbLbMbNbO",
     "bPbQbRbSbTbUbVbWbXbYbZkITALICCAPITALAbBbCbDbEbFbGbHbIbJbKbLbMbNbObPbQbRbSbTbUbVbWbXbYbZiSMAL",
     "LAbBbCbDbEbFbGbHbIbJbKbLbMbNbObPbQbRbSbTbUbVbWbXbYbZmBOLDITALICCAPITALAbBbCbDbEbFbGbHbIbJbKb",
     "LbMbNbObPbQbRbSbTbUbVbWbXbYbZiSMALLAbBbCbDbEbFbGbHbIbJbKbLbMbNbObPbQbRbSbTbUbVbWbXbYbZzMONOS",
     "PACECAPITALAbBbCbDbEbFbGbHbIbJbKbLbMbNbObPbQbRbSbTbUbVbWbXbYbZiSMALLAbBbCbDbEbFbGbHbIbJbKbLb",
     "MbNbObPbQbRbSbTbUbVbWbXbYbZpITALICSMALLDOTLESSIbJ 1d6a8:MATHEMATICALBOLDCAPITALALPHAfBETAeGA",
     "MMAfDELTAfEPSILONhZETAeETAdTHETAfIOTAeKAPPAfLAMDAfMUcNUcXIcOMICRONhPIcRHOdTHETASYMBOLlSIGMAf",
     "TAUdUPSILONhPHIdCHIdPSIdOMEGAmNABLAfSMALLALPHAfBETAeGAMMAfDELTAfEPSILONhZETAeETAdTHETAfIOTAe",
     "KAPPAfLAMDAfMUcNUcXIcOMICRONhPIcRHOdFINALSIGMAkSIGMAfTAUdUPSILONhPHIdCHIdPSIdOMEGAkPARTIALDI",
     "FFERENTIALtEPSILONSYMBOLnTHETASYMBOLlKAPPASYMBOLlPHISYMBOLjRHOSYMBOLjPISYMBOLmITALICCAPITALA",
     "LPHAfBETAeGAMMAfDELTAfEPSILONhZETAeETAdTHETAfIOTAeKAPPAfLAMDAfMUcNUcXIcOMICRONhPIcRHOdTHETAS",
     "YMBOLlSIGMAfTAUdUPSILONhPHIdCHIdPSIdOMEGAmNABLAfSMALLALPHAfBETAeGAMMAfDELTAfEPSILONhZETAeETA",
     "dTHETAfIOTAeKAPPAfLAMDAfMUcNUcXIcOMICRONhPIcRHOdFINALSIGMAkSIGMAfTAUdUPSILONhPHIdCHIdPSIdOME",
     "GAkPARTIALDIFFERENTIALtEPSILONSYMBOLnTHETASYMBOLlKAPPASYMBOLlPHISYMBOLjRHOSYMBOLjPISYMBOLoBO",
     "LDITALICCAPITALALPHAfBETAeGAMMAfDELTAfEPSILONhZETAeETAdTHETAfIOTAeKAPPAfLAMDAfMUcNUcXIcOMICR",
     "ONhPIcRHOdTHETASYMBOLlSIGMAfTAUdUPSILONhPHIdCHIdPSIdOMEGAmNABLAfSMALLALPHAfBETAeGAMMAfDELTAf",
     "EPSILONhZETAeETAdTHETAfIOTAeKAPPAfLAMDAfMUcNUcXIcOMICRONhPIcRHOdFINALSIGMAkSIGMAfTAUdUPSILON",
     "hPHIdCHIdPSIdOMEGAkPARTIALDIFFERENTIALtEPSILONSYMBOLnTHETASYMBOLlKAPPASYMBOLlPHISYMBOLjRHOSY",
     "MBOLjPISYMBOLsSANSSERIFBOLDCAPITALALPHAfBETAeGAMMAfDELTAfEPSILONhZETAeETAdTHETAfIOTAeKAPPAfL",
     "AMDAfMUcNUcXIcOMICRONhPIcRHOdTHETASYMBOLlSIGMAfTAUdUPSILONhPHIdCHIdPSIdOMEGAmNABLAfSMALLALPH",
     "AfBETAeGAMMAfDELTAfEPSILONhZETAeETAdTHETAfIOTAeKAPPAfLAMDAfMUcNUcXIcOMICRONhPIcRHOdFINALSIGM",
     "AkSIGMAfTAUdUPSILONhPHIdCHIdPSIdOMEGAkPARTIALDIFFERENTIALtEPSILONSYMBOLnTHETASYMBOLlKAPPASYM",
     "BOLlPHISYMBOLjRHOSYMBOLjPISYMBOLiITALICCAPITALALPHAfBETAeGAMMAfDELTAfEPSILONhZETAeETAdTHETAf",
     "IOTAeKAPPAfLAMDAfMUcNUcXIcOMICRONhPIcRHOdTHETASYMBOLlSIGMAfTAUdUPSILONhPHIdCHIdPSIdOMEGAmNAB",
     "LAfSMALLALPHAfBETAeGAMMAfDELTAfEPSILONhZETAeETAdTHETAfIOTAeKAPPAfLAMDAfMUcNUcXIcOMICRONhPIcR",
     "HOdFINALSIGMAkSIGMAfTAUdUPSILONhPHIdCHIdPSIdOMEGAkPARTIALDIFFERENTIALtEPSILONSYMBOLnTHETASYM",
     "BOLlKAPPASYMBOLlPHISYMBOLjRHOSYMBOLjPISYMBOL 1d7ca:MATHEMATICALBOLDCAPITALDIGAMMAoSMALLDIGAM",
     "MA 1d7ce:MATHEMATICALBOLDDIGITZEROeONEdTWOcHREEfFOURdIVEeSIXcEVENfEIGHTfNINEnDOUBLESTRUCKDIG",
     "ITZEROeONEdTWOcHREEfFOURdIVEeSIXcEVENfEIGHTfNINEvSANSSERIFDIGITZEROeONEdTWOcHREEfFOURdIVEeSI",
     "XcEVENfEIGHTfNINEjBOLDDIGITZEROeONEdTWOcHREEfFOURdIVEeSIXcEVENfEIGHTfNINEwMONOSPACEDIGITZERO",
     "eONEdTWOcHREEfFOURdIVEeSIXcEVENfEIGHTfNINE 1d800:SIGNWRITINGHANDFISTINDEXjCIRCLEINDEXkUPINDE",
     "XiOVALINDEXjHINGEINDEXkANGLEINDEXkFISTINDEXBENTnCIRCLEINDEXBENTpFISTTHUMBUNDERINDEXBENTtINDE",
     "XRAISEDKNUCKLEnCUPPEDgHINGEDaLOWsCIRCLEINDEXHINGEqFISTINDEXMIDDLEpCIRCLEINDEXMIDDLErFISTINDE",
     "XMIDDLEBENTeRAISEDKNUCKLESoHINGEDmUPMIDDLEHINGEDoHINGEDMIDDLEUPoMIDDLECONJOINEDaINDEXBENTjMI",
     "DDLEBENTkCUPPEDgHINGEDoROSSEDwCIRCLEINDEXMIDDLECROSSEDyFISTMIDDLEBENTOVERINDEXtINDEXBENTOVER",
     "MIDDLEoMIDDLETHUMBuCIRCLEINDEXMIDDLETHUMBwFISTINDEXMIDDLESTRAIGHTTHUMBBENTrBENTTHUMBSTRAIGHT",
     "rTHUMBBENTjHINGEDSPREADTHUMBSIDE 1d824:SIGNWRITINGHANDFISTINDEXUPMIDDLEHINGEDTHUMBSIDEeCONJO",
     "INED 1d826:SIGNWRITINGHANDFISTINDEXHINGEDMIDDLEUPTHUMBSIDExMIDDLEUPSPREADTHUMBFORWARDuTHUMBC",
     "UPPEDfIRCLEDhHOOKEDfINGEDwTHUMBBETWEENINDEXMIDDLESTRAIGHT 1d82d:SIGNWRITINGHANDFISTINDEXMIDD",
     "LECONJOINEDTHUMBSIDEaCONJOINEDjBENT 1d830:SIGNWRITINGHANDFISTMIDDLETHUMBHOOKEDINDEXUPyINDEXT",
     "HUMBHOOKEDMIDDLEUPtMIDDLECONJOINEDHINGEDTHUMBSIDExROSSEDTHUMBSIDEpONJOINEDTHUMBFORWARDmCUPPE",
     "DTHUMBFORWARD 1d836:SIGNWRITINGHANDFISTMIDDLETHUMBCUPPEDINDEXUPyINDEXTHUMBCUPPEDMIDDLEUPyMID",
     "DLETHUMBCIRCLEDINDEXUPcHINGED 1d83a:SIGNWRITINGHANDFISTINDEXTHUMBANGLEDOUTMIDDLEUPlINMIDDLEU",
     "PqCIRCLEDMIDDLEUPuMIDDLETHUMBCONJOINEDHINGEDpANGLEDOUTdwMIDDLETHUMBANGLEDOUTINDEXUPcCROSSEDp",
     "INDEXUPyINDEXTHUMBHOOKEDMIDDLEHINGED 1d844:SIGNWRITINGHANDFLATFOURFINGERSaBENTeHINGEDgCONJOI",
     "NEDaSPLIT 1d849:SIGNWRITINGHANDCLAWFOURFINGERSCONJOINEDyFISTFOURFINGERSCONJOINEDBENT 1d84b:S",
     "IGNWRITINGHANDHINGEFOURFINGERSCONJOINEDzFLATFIVEFINGERSSPREADrHEELFIVEFINGERSSPREADvFIVEFING",
     "ERSSPREADFOURBENTzHEELFIVEFINGERSSPREADFOURBENT 1d850:SIGNWRITINGHANDFLATFIVEFINGERSSPREADBE",
     "NTvHEELFIVEFINGERSSPREADBENTzFIVEFINGERSSPREADTHUMBFORWARD 1d853:SIGNWRITINGHANDCUPFIVEFINGE",
     "RSSPREADaOPENyHINGEFIVEFINGERSSPREADOPEN 1d856:SIGNWRITINGHANDOVALFIVEFINGERSSPREADvFLATFIVE",
     "FINGERSSPREADHINGEDaTHUMBSIDEjNOTHUMB 1d85a:SIGNWRITINGHANDFLATaBETWEENPALMFACINGSsHEELeTHUM",
     "BSIDEjHEELTHUMBSIDEnTHUMBBENTeFORWARDmSPLITINDEXTHUMBSIDEoCENTREaTHUMBSIDEaBENTtLITTLEpCLAWa",
     "THUMBSIDEjNOTHUMBhTHUMBFORWARDqHOOKCURLICUEieCUPOPENeaOPENTHUMBSIDEnTHUMBSIDEjOPENNOTHUMBlNO",
     "THUMBhOPENTHUMBFORWARDqTHUMBFORWARDnRLICUEOPENehIRCLEgOVALaTHUMBSIDEjNOTHUMBhTHUMBFORWARDqHI",
     "NGEOPENaTHUMBFORWARDqaSMALLfOPENTHUMBSIDEnTHUMBSIDEjOPENNOTHUMBlNOTHUMBhTHUMBSIDETOUCHINGIND",
     "EXrBETWEENMIDDLERING 1d885:SIGNWRITINGHANDANGLEfFISTINDEXMIDDLERINGtCIRCLEINDEXMIDDLERINGvHI",
     "NGEINDEXMIDDLERINGuANGLEINDEXMIDDLERINGuHINGELITTLElFISTINDEXMIDDLERINGBENTeCONJOINED 1d88d:",
     "SIGNWRITINGHANDHINGEINDEXMIDDLERINGCONJOINED 1d88e:SIGNWRITINGHANDFISTLITTLEDOWNaRIPPLESTRAI",
     "GHTiCURVEDmOTHERSCIRCLEDrUPiTHUMBUNDERLITTLEUPwCIRCLELITTLEUPoOVALLITTLEUPmANGLELITTLEUPnFIS",
     "TLITTLERAISEDKNUCKLEnBENTeTOUCHESTHUMBlHUMBpHINGELITTLETHUMBqFISTLITTLEINDEXTHUMBuHINGELITTL",
     "EINDEXTHUMBvANGLELITTLEINDEXTHUMBINDEXTHUMBOUTd 1d8a0:SIGNWRITINGHANDFISTLITTLEINDEXpCIRCLEL",
     "ITTLEINDEXrHINGELITTLEINDEXqANGLELITTLEINDEXqFISTINDEXMIDDLELITTLEvCIRCLEINDEXMIDDLELITTLExH",
     "INGEINDEXMIDDLELITTLErRINGjANGLEINDEXMIDDLELITTLEwFISTINDEXMIDDLECROSSLITTLE 1d8aa:SIGNWRITI",
     "NGHANDCIRCLEINDEXMIDDLECROSSLITTLE 1d8ab:SIGNWRITINGHANDFISTRINGDOWNmHINGERINGDOWNINDEXTHUMB",
     "HOOKMIDDLE 1d8ad:SIGNWRITINGHANDANGLERINGDOWNMIDDLETHUMBINDEXCROSS 1d8ae:SIGNWRITINGHANDFIST",
     "RINGUPcRAISEDKNUCKLEnLITTLEoCIRCLERINGLITTLEqOVALRINGLITTLEoANGLERINGLITTLEpFISTRINGMIDDLEaC",
     "ONJOINEDjRAISEDKNUCKLESuINDEXfTHUMBnHOOKRINGTHUMBnFISTINDEXRINGLITTLEtCIRCLEINDEXRINGLITTLEu",
     "URLICUEINDEXRINGLITTLEONzHOOKINDEXRINGLITTLEOUTdINcUNDERyCUPINDEXRINGLITTLEsHINGEINDEXRINGLI",
     "TTLEuANGLEINDEXRINGLITTLEOUTduFISTMIDDLEDOWNoHINGEMIDDLElFISTMIDDLEUPmCIRCLEMIDDLEUPoFISTMID",
     "DLERAISEDKNUCKLEnUPTHUMBSIDEvHOOKMIDDLETHUMBpFISTMIDDLETHUMBLITTLElLITTLEgRINGLITTLEuCIRCLEM",
     "IDDLERINGLITTLEvURLICUEMIDDLERINGLITTLEONyPMIDDLERINGLITTLEtHINGEMIDDLERINGLITTLEvANGLEMIDDL",
     "ERINGLITTLEOUTdINcvCIRCLEMIDDLERINGLITTLEBENTzLAWMIDDLERINGLITTLECONJOINEDaSIDE 1d8d8:SIGNWR",
     "ITINGHANDHOOKMIDDLERINGLITTLECONJOINEDOUTdINc 1d8db:SIGNWRITINGHANDHINGEINDEXHINGEDqFISTINDE",
     "XTHUMBSIDEsHINGEINDEXTHUMBSIDEtFISTINDEXTHUMBSIDETHUMBDIAGONALiCONJOINEDjBENTjINDEXBENTjBOTH",
     "BENTiINDEXHINGEoFORWARDINDEXSTRAIGHTiBENTqHOOKeCURLICUEfVETHUMBINSIDE 1d8e9:SIGNWRITINGHANDC",
     "LAWINDEXTHUMBCURVETHUMBINSIDE 1d8ea:SIGNWRITINGHANDFISTINDEXTHUMBCURVETHUMBUNDERoIRCLEuCUPIN",
     "DEXTHUMBaOPENrHINGEINDEXTHUMBOPENeLARGEfaSMALLuANGLEINDEXTHUMBOUTdINcpFISTTHUMBaHEELeSIDEDIA",
     "GONALiCONJOINEDjBENTiFORWARDhBETWEENINDEXMIDDLElMIDDLERINGkRINGLITTLErUNDERTWOFINGERSpOVERTW",
     "OFINGERSoUNDERTHREEFINGERSmFOURFINGERSqOVERFOURRAISEDKNUCKLES 1d903:SIGNWRITINGHANDFISTaHEEL",
     "mTOUCHSINGLEgMULTIPLEiBETWEENmGRASPSINGLEgMULTIPLEiBETWEENmSTRIKESINGLEgMULTIPLEiBETWEENnBRU",
     "SHSINGLEgMULTIPLEiBETWEENmRUBSINGLEgMULTIPLEiBETWEENkSURFACESYMBOLShBETWEENnQUEEZELARGESINGL",
     "ElSMALLSINGLElLARGEMULTIPLEnSMALLMULTIPLEmEQUENTIALrFLICKLARGESINGLElSMALLSINGLElLARGEMULTIP",
     "LEnSMALLMULTIPLEmEQUENTIALpSQUEEZEFLICKALTERNATINGxMOVEMENTHINGEUPDOWNLARGEfSMALLjSEQUENTIAL",
     "mDOWNSEQUENTIALoUPDOWNALTERNATINGLARGEfSMALLwSIDETOSIDESCISSORSxWALLPLANEFINGERCONTACTwFLOOR",
     "PLANEFINGERCONTACTxWALLPLANESINGLESTRAIGHTSMALLfMEDIUMgLARGEaSTpWRISTFLEXpDOUBLESTRAIGHTiWRI",
     "STFLEXjALTERNATINGaWRISTFLEX 1d933:SIGNWRITINGMOVEMENTWALLPLANECROSSfTRIPLESTRAIGHTMOVEMENTq",
     "WRISTFLEXjALTERNATINGaWRISTFLEX 1d938:SIGNWRITINGMOVEMENTWALLPLANEBENDSMALLfMEDIUMgLARGEjCOR",
     "NERSMALLfMEDIUMgLARGEfROTATIONnHECKSMALLfMEDIUMgLARGEkBOXSMALLfMEDIUMgLARGEiZIGZAGSMALLfMEDI",
     "UMgLARGElPEAKSSMALLfMEDIUMgLARGE 1d94b:SIGNWRITINGTRAVELWALLPLANEROTATIONWALLPLANESINGLEgDOU",
     "BLEgALTERNATINGuFLOORPLANESINGLEgDOUBLEgALTERNATING 1d951:SIGNWRITINGTRAVELWALLPLANESHAKINGh",
     "ARMSPIRALSINGLEgDOUBLEgTRIPLE 1d955:SIGNWRITINGMOVEMENTDIAGONALAWAYSMALLfMEDIUMgLARGEaSTlTOW",
     "ARDSSMALLfMEDIUMgLARGEaSToBETWEENAWAYSMALLfMEDIUMgLARGEaSTlTOWARDSSMALLfMEDIUMgLARGEaST 1d96",
     "5:SIGNWRITINGMOVEMENTFLOORPLANESINGLESTRAIGHTSMALLfMEDIUMgLARGEaSTpWRISTFLEXpDOUBLESTRAIGHTi",
     "WRISTFLEXjALTERNATINGaWRISTFLEX 1d96e:SIGNWRITINGMOVEMENTFLOORPLANECROSSfTRIPLESTRAIGHTMOVEM",
     "ENTqWRISTFLEXjALTERNATINGMOVEMENTiWRISTFLEX 1d973:SIGNWRITINGMOVEMENTFLOORPLANEBENDeCORNERSM",
     "ALLfMEDIUMgLARGEkHECKfBOXSMALLfMEDIUMgLARGEiZIGZAGSMALLfMEDIUMgLARGElPEAKSSMALLfMEDIUMgLARGE",
     " 1d981:SIGNWRITINGTRAVELFLOORPLANEROTATIONFLOORPLANESINGLEgDOUBLEgALTERNATINGvWALLPLANESINGL",
     "EgDOUBLEgALTERNATING 1d987:SIGNWRITINGTRAVELFLOORPLANESHAKINGxMOVEMENTWALLPLANECURVEQUARTERS",
     "MALLfMEDIUMgLARGEaSToHALFCIRCLESMALLfMEDIUMgLARGEaSTrTHREEQUARTERCIRCLESMALLfMEDIUM 1d992:SI",
     "GNWRITINGMOVEMENTWALLPLANEHUMPSMALLfMEDIUMgLARGEjLOOPSMALLfMEDIUMgLARGEfSMALLDOUBLEpWAVECURV",
     "EDOUBLESMALLfMEDIUMgLARGElTRIPLESMALLfMEDIUMgLARGEuCURVETHENSTRAIGHTmDCROSSSMALLfMEDIUM 1d9a",
     "2:SIGNWRITINGROTATIONWALLPLANESINGLEgDOUBLEgALTERNATE 1d9a5:SIGNWRITINGMOVEMENTWALLPLANESHAK",
     "INGhCURVEHITTINGFRONTWALLvHUMPHITTINGFRONTWALLuLOOPHITTINGFRONTWALLuWAVEHITTINGFRONTWALL 1d9",
     "aa:SIGNWRITINGROTATIONWALLPLANESINGLEHITTINGFRONTWALLwDOUBLEHITTINGFRONTWALLwALTERNATINGHITT",
     "INGFRONTWALL 1d9ad:SIGNWRITINGMOVEMENTWALLPLANECURVEHITTINGCHESTrHUMPHITTINGCHESTqLOOPHITTIN",
     "GCHESTqWAVEHITTINGCHEST 1d9b1:SIGNWRITINGROTATIONWALLPLANESINGLEHITTINGCHESTsDOUBLEHITTINGCH",
     "ESTsALTERNATINGHITTINGCHEST 1d9b4:SIGNWRITINGMOVEMENTWALLPLANEWAVEDIAGONALPATHSMALLfMEDIUMgL",
     "ARGE 1d9b7:SIGNWRITINGMOVEMENTFLOORPLANECURVEHITTINGCEILINGSMALLfLARGEyHUMPHITTINGCEILINGSMA",
     "LLDOUBLElLARGEDOUBLElSMALLTRIPLElLARGETRIPLE 1d9bd:SIGNWRITINGMOVEMENTFLOORPLANELOOPHITTINGC",
     "EILINGSMALLSINGLElLARGESINGLElSMALLDOUBLElLARGEDOUBLE 1d9c1:SIGNWRITINGMOVEMENTFLOORPLANEWAV",
     "EHITTINGCEILINGSMALLfLARGE 1d9c3:SIGNWRITINGROTATIONFLOORPLANESINGLEHITTINGCEILINGuDOUBLEHIT",
     "TINGCEILINGuALTERNATINGHITTINGCEILING 1d9c6:SIGNWRITINGMOVEMENTFLOORPLANECURVEHITTINGFLOORSM",
     "ALLfLARGEwHUMPHITTINGFLOORSMALLDOUBLElLARGEDOUBLElTRIPLESMALLTRIPLElLARGETRIPLE 1d9cc:SIGNWR",
     "ITINGMOVEMENTFLOORPLANELOOPHITTINGFLOORSMALLSINGLElLARGESINGLElSMALLDOUBLElLARGEDOUBLE 1d9d0",
     ":SIGNWRITINGMOVEMENTFLOORPLANEWAVEHITTINGFLOORSMALLfLARGE 1d9d2:SIGNWRITINGROTATIONFLOORPLAN",
     "ESINGLEHITTINGFLOORsDOUBLEHITTINGFLOORsALTERNATINGHITTINGFLOOR 1d9d5:SIGNWRITINGMOVEMENTFLOO",
     "RPLANECURVESMALLfMEDIUMgLARGEaSThCOMBINEDnHUMPSMALLjLOOPSMALLjWAVESNAKEeMALLfLARGE 1d9df:SIG",
     "NWRITINGROTATIONFLOORPLANESINGLEgDOUBLEgALTERNATING 1d9e2:SIGNWRITINGMOVEMENTFLOORPLANESHAKI",
     "NGPARALLELzWALLPLANEARMCIRCLESMALLSINGLElMEDIUMSINGLEmSMALLDOUBLElMEDIUMDOUBLE 1d9e7:SIGNWRI",
     "TINGMOVEMENTFLOORPLANEARMCIRCLEHITTINGWALLSMALLSINGLElMEDIUMSINGLEmLARGESINGLElSMALLDOUBLElM",
     "EDIUMDOUBLEmLARGEDOUBLE 1d9ed:SIGNWRITINGMOVEMENTWALLPLANEWRISTCIRCLEFRONTSINGLEgDOUBLE 1d9e",
     "f:SIGNWRITINGMOVEMENTFLOORPLANEWRISTCIRCLEHITTINGWALLSINGLEgDOUBLE 1d9f1:SIGNWRITINGMOVEMENT",
     "WALLPLANEFINGERCIRCLESSINGLEgDOUBLE 1d9f3:SIGNWRITINGMOVEMENTFLOORPLANEFINGERCIRCLESHITTINGW",
     "ALLSINGLEgDOUBLE 1d9f5:SIGNWRITINGDYNAMICARROWHEADSMALLfLARGEoFASTeSLOWeTENSEfRELAXEDhSIMULT",
     "ANEOUSaALTERNATINGxEVERYOTHERTIMEoGRADUALoHEADaRIMdMOVEMENTWALLPLANESTRAIGHTiTILTnFLOORPLANE",
     "STRAIGHTsWALLPLANECURVEoFLOORPLANECURVEpCIRCLEsFACEDIRECTIONPOSITIONNOSEFORWARDTILTINGoUPORD",
     "OWNaTILTING 1da0a:SIGNWRITINGEYEBROWSSTRAIGHTUPcNEUTRALhDOWNuDREAMYEYEBROWSNEUTRALDOWNlDOWNN",
     "EUTRALlUPNEUTRALjNEUTRALUPxFOREHEADNEUTRALhCONTACThWRINKLEDqEYESOPENeSQUEEZEDiCLOSEDhBLINKSI",
     "NGLEgMULTIPLEnSHALFOPENiWIDEOPENiHALFCLOSEDkWIDENINGMOVEMENTrWINKeLASHESUPcDOWNeFLUTTERINGqG",
     "AZEWALLPLANESTRAIGHTaDOUBLEgALTERNATING 1da24:SIGNWRITINGEYEGAZEFLOORPLANESTRAIGHTaDOUBLEgAL",
     "TERNATING 1da27:SIGNWRITINGEYEGAZEWALLPLANECURVEDpFLOORPLANECURVEDqWALLPLANECIRCLINGyCHEEKSP",
     "UFFEDgNEUTRALhSUCKEDmTENSECHEEKSHIGHeMIDDLEgLOWoEARSeNOSENEUTRALhCONTACThWRINKLEShIGGLESlAIR",
     "BLOWINGOUTkSUCKINGINjBLOWSMALLROTATIONSsSUCKSMALLROTATIONSvBREATHINHALEgEXHALEmMOUTHCLOSEDNE",
     "UTRALhFORWARDhCONTACTnSMILEaWRINKLEDiOPENjFROWNaWRINKLEDiOPENjOPENCIRCLEgFORWARDhWRINKLEDiOV",
     "ALaWRINKLEDiYAWNiRECTANGLEaWRINKLEDiYAWNrKISSaFORWARDhWRINKLEDmTENSEaFORWARDhSUCKEDqLIPSPRES",
     "SEDTOGETHERqLOWEROVERUPPERoUPPEROVERLOWERrMOUTHCORNERShWRINKLESSINGLEgDOUBLEtTONGUESTICKINGO",
     "UTFARoLICKINGLIPSlTIPBETWEENLIPSlTOUCHINGINSIDEMOUTHwINSIDEMOUTHRELAXEDsMOVESAGAINSTCHEEKrCE",
     "NTRESTICKINGOUTlINSIDEMOUTHwEETHaMOVEMENTiONTONGUEaMOVEMENToLIPSaMOVEMENToBITELIPSnMOVEMENTW",
     "ALLPLANEJAWmFLOORPLANEJAWvNECKeHAIReEXCITEMENTkSHOULDERHIPSPINEfPOSITIONSuWALLPLANESHOULDERH",
     "IPMOVEyFLOORPLANESHOULDERHIPMOVEzSHOULDERTILTINGFROMWAISTyTORSOWALLPLANESTRAIGHTSTRETCHpCURV",
     "EDBENDtFLOORPLANETWISTINGxUPPERBODYTILTINGFROMHIPJOINTS 1da76:SIGNWRITINGLIMBCOMBINATIONlLEN",
     "GTH1b2b3b4b5b6b7lFINGERgLOCATIONWALLPLANESPACEoFLOORPLANESPACEpHEIGHTgWIDTHfDEPTHfHEADNECKiT",
     "ORSOfLIMBSDIGITStCOMMAfFULLSTOPiSEMICOLONjCOLONfPARENTHESIS 1da9b:SIGNWRITINGFILLMODIFIER2b3",
     "b4b5b6 1daa1:SIGNWRITINGROTATIONMODIFIER2b3b4b5b6b7b8b9b10b1b2b3b4b5b6 1df00:LATINSMALLLETTE",
     "RFENGDIGRAPHWITHTRILLuREVERSEDSCRIPTG 1df02:LATINLETTERSMALLCAPITALTURNEDGzSMALLLETTERREVERS",
     "EDKuLETTERSMALLCAPITALLWITHBELT 1df05:LATINSMALLLETTERLEZHWITHRETROFLEXHOOKvTURNEDYWITHBELTp",
     "REVERSEDENGlTURNEDRWITHLONGLEGANDRETROFLEXHOOK 1df09:LATINSMALLLETTERTWITHHOOKANDRETROFLEXHO",
     "OK 1df0a:LATINLETTERRETROFLEXCLICKWITHRETROFLEXHOOK 1df0b:LATINSMALLLETTERESHWITHDOUBLEBARaA",
     "NDCURLxTURNEDTWITHCURL 1df0e:LATINLETTERINVERTEDGLOTTALSTOPWITHCURL 1df0f:LATINLETTERSTRETCH",
     "EDCWITHCURLrMALLCAPITALTURNEDKzSMALLLETTERLWITHFISHHOOKnDEZHDIGRAPHWITHPALATALHOOK 1df13:LAT",
     "INSMALLLETTERLWITHBELTANDPALATALHOOKxENGWITHPALATALHOOKsTURNEDRWITHPALATALHOOKwRWITHFISHHOOK",
     "ANDPALATALHOOK 1df17:LATINSMALLLETTERTESHDIGRAPHWITHPALATALHOOK 1df18:LATINSMALLLETTEREZHWIT",
     "HPALATALHOOKsDEZHDIGRAPHWITHRETROFLEXHOOK 1df1a:LATINSMALLLETTERIWITHSTROKEANDRETROFLEXHOOK ",
     "1df1b:LATINSMALLLETTEROWITHRETROFLEXHOOKsTESHDIGRAPHWITHRETROFLEXHOOK 1df1d:LATINSMALLLETTER",
     "CWITHRETROFLEXHOOKsSWITHCURL 1df25:LATINSMALLLETTERDWITHMIDHEIGHTLEFTHOOKwLWITHMIDHEIGHTLEFT",
     "HOOKwNWITHMIDHEIGHTLEFTHOOKwRWITHMIDHEIGHTLEFTHOOKwSWITHMIDHEIGHTLEFTHOOKwTWITHMIDHEIGHTLEFT",
     "HOOK 1e000:COMBININGGLAGOLITICLETTERAZUdBUKYeVEDEeGLAGOLIhDOBROfYESTUfZHIVETE 1e008:COMBININ",
     "GGLAGOLITICLETTERZEMLJAgIZHEdNITIALIZHEkbDJERVIgKAKOeLJUDIJEhMYSLITEhNASHIfONUdPOKOJIgRITSIf",
     "SLOVOfTVRIDOgUKUdFRITUfHERU 1e01b:COMBININGGLAGOLITICLETTERSHTAeTSIdCHRIVIgSHAdYERUbIdATI 1e",
     "023:COMBININGGLAGOLITICLETTERYUcSMALLYUS 1e026:COMBININGGLAGOLITICLETTERYOcIOTATEDSMALLYUSpB",
     "IGYUSgIOTATEDBIGYUSnFITA 1e030:MODIFIERLETTERCYRILLICSMALLAbBEcVEcGHEdDEcIEcZHEcEcIbKAcELbMc",
     "ObPEcERbScTEcUbEFcHAcTSEdCHEdSHAdYERUeEbYUcDZZEeSCHWAfBYELORUSSIANUKRAINIANIwJEcBARREDOhSTRA",
     "IGHTUjPALOCHKA 1e051:CYRILLICSUBSCRIPTSMALLLETTERAbBEcVEcGHEdDEcIEcZHEcEcIbKAcELcObPEcEScUbE",
     "FcHAcTSEdCHEdSHAdHARDSIGNiYERUeGHEWITHUPTURNnBYELORUSSIANUKRAINIANIwDZEbHE 1e06b:MODIFIERLET",
     "TERCYRILLICSMALLESWITHDESCENDERpYERUWITHBACKYERpSTRAIGHTUWITHSTROKE 1e08f:COMBININGCYRILLICS",
     "MALLLETTERBYELORUSSIANUKRAINIANI 1e100:NYIAKENGPUACHUEHMONGLETTERMAcTSAdNTAdTAcHAcNAcXAcNKAd",
     "CAcLAcSAcZAcNCAcTSAeKAcDAcNYAcRAdVAcNTXAeTXAdFAcRAcQAcYAcNQAdPAcXYAdNPAdDLAdNPLAeHAHdMLAdPLA",
     "dGAcRRAdAaAcIbUbOaOcEaEcW 1e130:NYIAKENGPUACHUEHMONGTONEBbMbJbVbSbGbDfSIGNFORPERSONgTHINGfLO",
     "CATIONiANIMALgINVERTEBRATEpXWXWhYLLABLELENGTHENER 1e140:NYIAKENGPUACHUEHMONGDIGITZEROeONEdTW",
     "OcHREEfFOURdIVEeSIXcEVENfEIGHTfNINE 1e14e:NYIAKENGPUACHUEHMONGLOGOGRAMNYAJmCIRCLEDCA 1e290:T",
     "OTOLETTERPAcBAcTAcDAcKAcGAcMAcNAbGAdSAcCHAdYAcWAcJAcHAcRAcLAcIbBREATHYIiIUcBREATHYIUjUbEbBRE",
     "ATHYEiEOcBREATHYEOjObAEcBREATHYAEjAhSIGNRISINGTONE 1e2c0:WANCHOLETTERAAbbBAcCAcDAcGAcYAcPHAd",
     "LAcNAcPAcTAbHAdFAcSAbHAdJAcZAcWAcVAcKAcObAUcRAcMAcKHAdHAcEbIbNGAdUbLLHAeTSAcRAdONGdAANGdNGdI",
     "NGdONcENcAANdNYAdUENdYIHjTONETUPaNIfKOIaNIjDIGITZEROeONEdTWOcHREEfFOURdIVEeSIXcEVENfEIGHTfNI",
     "NE 1e2ff:WANCHONGUNSIGN 1e4d0:NAGMUNDARILETTEROaPbLbYbNGdAaJbBbNYcHcIaSbDDcTbHcUaCbDbKbRcEaN",
     "NcGbMbNbTTcLLjSIGNOJODeMUHORfTOYORfIKIReSUTUHjDIGITZEROeONEdTWOcHREEfFOURdIVEeSIXcEVENfEIGHT",
     "fNINE 1e7e0:ETHIOPICSYLLABLEHHYAbUbIbAAcEEbbO 1e7e8:ETHIOPICSYLLABLEGURAGEHHWAkHHWIbEEb 1e7e",
     "d:ETHIOPICSYLLABLEGURAGEMWIbEE 1e7f0:ETHIOPICSYLLABLEGURAGEQWIbEEbdBWIbEEeKWIbEEbdGWIbEEbdFW",
     "IbEEePWIbEE 1e800:MENDEKIKAKUISYLLABLEM001KId2KAd3KUe65KEEf95KEe76KOOf48KOf179KUAg004WId5WAd",
     "6WUf126WEEf18WEd4WOOg045WOf194WUIf43WEIg061WVIf49WVAg139WVEg007MINe8MANe9MUNf59MENf94MONg154",
     "MUANg89MUENh010BId1BAd2BUf150BEEg097BEf103BOOf38BOf013Ic4Ac5Ue163EEe00Ed65OOe47Od37EId1INd5I",
     "Ne95ANe78ENf019SIe20SAd1SUf162SEEf16SEe36SOOg079SOf196SIAg025LId6LAd7LUe84LEEf73LEe54LOOg153",
     "LOe10LONGLEj016DId7DAd8DUe89DEEg180DOOe1DOf022TId3TAd4TUe91TEEf55TEf104TOOg069TOe28JId9JAe30",
     "JUf157JEEf13JEe60JOOg063JOf175LONGJOj031YId2YAd3YUf109YEEg080YEf141YOOf21YOf034FId5FAd6FUe78",
     "FEEe5FEf133FOOg088FOf197FUAf01FANg037NINe8NANe9NUNg117NENf69NONf76HIf041HAf186HUf040HEEf96HE",
     "e42HOOg140HOf083HEEIh128HOOUh053HINg130HANg087HUNf52HENg193HONg046HUANg90NGGIg43NGGAg82NGGUh",
     "115NGGEEh46NGGEg56NGGOOh20NGGOg59NGGAAh27NGGUAi086LONGNGGEl106LONGNGGOOl83LONGNGGOk55GIe11GA",
     "e68GUe90GEEf66GUEIf7GUANg84NGENh057NGONh177NGUANi068PIe99PAe50PUe81PEEf51PEf102POOg066POf145",
     "MBIg062MBAg122MBUg047MBEEh188MBEEh072MBEg172MBOOf4MBOf87MBUUg61LONGMBEj05LONGMBOOk42LONGMBOj",
     "32KPIg092KPAf74KPUf44KPEEh108KPEf12KPOOg58KPOf24GBIg056GBAg148GBUg093GBEEh107GBEg071GBOOf0GB",
     "Og171RAe23NDIe9NDAe5NDUf91NDEEg19NDEg067NDOOf4NDOg152NJAf92NJUf49NJEEg34NJOOg82VId5VAe51VUe7",
     "3VEEg085VEf144VOOg077VOf164NYINh058NYANh170NYUNh098NYENg60NYON 1e8c7:MENDEKIKAKUIDIGITONEdTW",
     "OcHREEfFOURdIVEeSIXcEVENfEIGHTfNINEjCOMBININGNUMBERTEENSdNSeHUNDREDSiTHOUSANDSiENTHOUSANDSmH",
     "UNDREDTHOUSANDSqMILLIONS 1e900:ADLAMCAPITALLETTERALIFeDAALIfLAAMeMIIMeBAcSINNYIIYHEkPEcBHEdR",
     "AcEbFAcIbObDHAdYHEdWAWdNUNdKAFdYAcUbJIIMeCHIdHAcQAAFeGAcNYAdTUcNHAdVAcKHAdGBEdZALdKPOdSHAqSM",
     "ALLLETTERALIFeDAALIfLAAMeMIIMeBAcSINNYIIYHEkPEcBHEdRAcEbFAcIbObDHAdYHEdWAWdNUNdKAFdYAcUbJIIM",
     "eCHIdHAcQAAFeGAcNYAdTUcNHAdVAcKHAdGBEdZALdKPOdSHAoALIFLENGTHENERoVOWELLENGTHENERpGEMINATIONM",
     "ARKoHAMZAfCONSONANTMODIFIERrGEMINATECONSONANTMODIFIERzNUKTAeASALIZATIONMARK 1e950:ADLAMDIGIT",
     "ZEROeONEdTWOcHREEfFOURdIVEeSIXcEVENfEIGHTfNINE 1e95e:ADLAMINITIALEXCLAMATIONMARKpQUESTIONMAR",
     "K 1ec71:INDICSIYAQNUMBERONEdTWOcHREEfFOURdIVEeSIXcEVENfEIGHTfNINEeTENcWENTYfHIRTYgFORTYeIFTY",
     "fSIXTYeEVENTYhEIGHTYgNINETYgONEHUNDREDkTWOHUNDREDjHREEHUNDREDmFOURHUNDREDkIVEHUNDREDlSIXHUND",
     "REDjEVENHUNDREDmEIGHTHUNDREDmNINEHUNDREDlONETHOUSANDlTWOTHOUSANDkHREETHOUSANDnFOURTHOUSANDlI",
     "VETHOUSANDmSIXTHOUSANDkEVENTHOUSANDnEIGHTTHOUSANDnNINETHOUSANDmTENTHOUSANDkWENTYTHOUSANDnHIR",
     "TYTHOUSANDoFORTYTHOUSANDmIFTYTHOUSANDnSIXTYTHOUSANDmEVENTYTHOUSANDpEIGHTYTHOUSANDoNINETYTHOU",
     "SANDoLAKHaANmLAKHMARKiNUMBERKARORaANhPREFIXEDONEdTWOcHREEfFOURdIVEeSIXcEVENfEIGHTfNINEsPLACE",
     "HOLDERlFRACTIONONEQUARTERhHALFhTHREEQUARTERSvRUPEEMARKjNUMBERALTERNATEONEdTWOcENTHOUSAND 1ec",
     "b4:INDICSIYAQALTERNATELAKHMARK 1ed01:OTTOMANSIYAQNUMBERONEdTWOcHREEfFOURdIVEeSIXcEVENfEIGHTf",
     "NINEeTENcWENTYfHIRTYgFORTYeIFTYfSIXTYeEVENTYhEIGHTYgNINETYgONEHUNDREDkTWOHUNDREDjHREEHUNDRED",
     "mFOURHUNDREDkIVEHUNDREDlSIXHUNDREDjEVENHUNDREDmEIGHTHUNDREDmNINEHUNDREDlONETHOUSANDlTWOTHOUS",
     "ANDkHREETHOUSANDnFOURTHOUSANDlIVETHOUSANDmSIXTHOUSANDkEVENTHOUSANDnEIGHTTHOUSANDnNINETHOUSAN",
     "DmTENTHOUSANDkWENTYTHOUSANDnHIRTYTHOUSANDoFORTYTHOUSANDmIFTYTHOUSANDnSIXTYTHOUSANDmEVENTYTHO",
     "USANDpEIGHTYTHOUSANDoNINETYTHOUSANDuMARRATANiALTERNATENUMBERTWOcHREEfFOURdIVEeSIXcEVENfEIGHT",
     "fNINEeTENdFOURHUNDREDlSIXHUNDREDkTWOTHOUSANDkENTHOUSAND 1ed3c:OTTOMANSIYAQFRACTIONONEHALFeSI",
     "XTH 1ee00:ARABICMATHEMATICALALEFeBEHdJEEMeDAL 1ee05:ARABICMATHEMATICALWAWdZAINeHAHdTAHdYEHdK",
     "AFdLAMdMEEMeNOONeSEENeAINdFEHdSADdQAFdREHdSHEENfTEHcHEHeKHAHeTHALeDADdZAHdGHAINfDOTLESSBEHdN",
     "OONeFEHdQAF 1ee21:ARABICMATHEMATICALINITIALBEHdJEEM 1ee24:ARABICMATHEMATICALINITIALHEH 1ee27",
     ":ARABICMATHEMATICALINITIALHAH 1ee29:ARABICMATHEMATICALINITIALYEHdKAFdLAMdMEEMeNOONeSEENeAINd",
     "FEHdSADdQAF 1ee34:ARABICMATHEMATICALINITIALSHEENfTEHcHEHeKHAH 1ee39:ARABICMATHEMATICALINITIA",
     "LDAD 1ee3b:ARABICMATHEMATICALINITIALGHAIN 1ee42:ARABICMATHEMATICALTAILEDJEEM 1ee47:ARABICMAT",
     "HEMATICALTAILEDHAH 1ee49:ARABICMATHEMATICALTAILEDYEH 1ee4b:ARABICMATHEMATICALTAILEDLAM 1ee4d",
     ":ARABICMATHEMATICALTAILEDNOONeSEENeAIN 1ee51:ARABICMATHEMATICALTAILEDSADdQAF 1ee54:ARABICMAT",
     "HEMATICALTAILEDSHEEN 1ee57:ARABICMATHEMATICALTAILEDKHAH 1ee59:ARABICMATHEMATICALTAILEDDAD 1e",
     "e5b:ARABICMATHEMATICALTAILEDGHAIN 1ee5d:ARABICMATHEMATICALTAILEDDOTLESSNOON 1ee5f:ARABICMATH",
     "EMATICALTAILEDDOTLESSQAF 1ee61:ARABICMATHEMATICALSTRETCHEDBEHdJEEM 1ee64:ARABICMATHEMATICALS",
     "TRETCHEDHEH 1ee67:ARABICMATHEMATICALSTRETCHEDHAHdTAHdYEHdKAF 1ee6c:ARABICMATHEMATICALSTRETCH",
     "EDMEEMeNOONeSEENeAINdFEHdSADdQAF 1ee74:ARABICMATHEMATICALSTRETCHEDSHEENfTEHcHEHeKHAH 1ee79:A",
     "RABICMATHEMATICALSTRETCHEDDADdZAHdGHAINfDOTLESSBEH 1ee7e:ARABICMATHEMATICALSTRETCHEDDOTLESSF",
     "EH 1ee80:ARABICMATHEMATICALLOOPEDALEFeBEHdJEEMeDALdHEHdWAWdZAINeHAHdTAHdYEH 1ee8b:ARABICMATH",
     "EMATICALLOOPEDLAMdMEEMeNOONeSEENeAINdFEHdSADdQAFdREHdSHEENfTEHcHEHeKHAHeTHALeDADdZAHdGHAIN 1",
     "eea1:ARABICMATHEMATICALDOUBLESTRUCKBEHdJEEMeDAL 1eea5:ARABICMATHEMATICALDOUBLESTRUCKWAWdZAIN",
     "eHAHdTAHdYEH 1eeab:ARABICMATHEMATICALDOUBLESTRUCKLAMdMEEMeNOONeSEENeAINdFEHdSADdQAFdREHdSHEE",
     "NfTEHcHEHeKHAHeTHALeDADdZAHdGHAIN 1eef0:ARABICMATHEMATICALOPERATORMEEMWITHHAHWITHTATWEELwHAH",
     "WITHDAL"]

end ScriptBundle.Text.CharacterName
