/-!
# Names of East Asia

Radicals, the syllables of Japan and of the Yi, and forms for presentation.
-/

namespace ScriptBundle.Text.CharacterName

/-- Names of the code points from 2e80 to ffff. -/
def eastAsiaNames : List String :=
    ["2e80:CJKRADICALREPEATgCLIFFfSECONDONEdTWOcHREElPERSONgBOXdTABLEfKNIFEONEdTWOiDIVINATIONkSEAL",
     "dMALLONEdTWOiLAMEONEdTWOcHREEfFOURiSNAKEfTHREADgSNOUTONEdTWOiHEARTONEdTWOhANDeRAP 2e9b:CJKRA",
     "DICALCHOKEfSUNdMOONeDEATHfMOTHERgCIVILIANiWATERONEdTWOiFIREePAWONEdTWOgSIMPLIFIEDHALFTREETRU",
     "NKxCOWdDOGdJADEeBOLTOFCLOTHlEYEdSPIRITONEdTWOjBAMBOOgSILKeCSIMPLIFIEDSILKpNETONEdTWOcHREEfFO",
     "URhMESHeSHEEPfRAMdEWEdOLDdBRUSHONEdTWOiMEATdORTARgGRASSONEdTWOcHREEkTIGERfCLOTHEShWESTONEdTW",
     "OhCSIMPLIFIEDSEEoSIMPLIFIEDHORNoHORNeCSIMPLIFIEDSPEECHfHELLqFOOTeCSIMPLIFIEDCARTpSIMPLIFIEDW",
     "ALKoWALKONEdTWOhCITYdSIMPLIFIEDGOLDpLONGONEdTWOhCSIMPLIFIEDLONGeGATEpMOUNDONEdTWOiRAINeBLUEe",
     "CSIMPLIFIEDTANNEDLEATHERnLEAFeWINDeFLYoEATONEdTWOcHREEiCSIMPLIFIEDEAToHEADeCSIMPLIFIEDHORSEq",
     "BONEeGHOSTfCSIMPLIFIEDFISHeBIRDeSALTpSIMPLIFIEDWHEATfYELLOWqCSIMPLIFIEDFROGpJSIMPLIFIEDEVENp",
     "CSIMPLIFIEDEVENpJSIMPLIFIEDTOOTHqCSIMPLIFIEDTOOTHqJSIMPLIFIEDDRAGONrCSIMPLIFIEDDRAGONrTURTLE",
     "gJSIMPLIFIEDTURTLErCSIMPLIFIEDTURTLE 2f00:KANGXIRADICALONEdLINEeDOTdSLASHeECONDgHOOKeTWOdLID",
     "dMANdLEGSeENTEReIGHTfDOWNBOXhCOVERfICEdTABLEfOPENBOXhKNIFEfPOWERfWRAPeSPOONfRIGHTOPENBOXmHID",
     "INGENCLOSUREpTENdDIVINATIONkSEALeCLIFFfPRIVATEhAGAINfMOUTHfENCLOSUREiARTHfSCHOLARhGOaSLOWLYi",
     "EVENINGhBIGdWOMANfCHILDfROOFeINCHeSMALLfLAMEeCORPSEgSPROUTgMOUNTAINiRIVERfWORKeONESELFhTURBA",
     "NgDRYdSHORTTHREADlDOTTEDCLIFFlLONGSTRIDEkTWOHANDSiSHOOTfBOWdSNOUTfBRISTLEhSTEPeHEARTeALBERDh",
     "DOOReHANDeBRANCHgRAPdSCRIPTgDIPPERgAXEdSQUAREgNOTdSUNcAYdMOONeTREEeLACKeSTOPeDEATHfWEAPONgDO",
     "NOTfCOMPAREhFURdCLANeSTEAMfWATERfFIREeCLAWeFATHERgDOUBLEXhHALFTREETRUNKnSLICEfFANGeCOWdDOGdP",
     "ROFOUNDiJADEeMELONfTILEeSWEETfLIFEeUSEdFIELDfBOLTOFCLOTHlSICKNESSiDOTTEDTENTkWHITEfSKINeDISH",
     "eEYEdSPEARfARROWfSTONEePIRITgTRACKfGRAINfCAVEeSTANDfBAMBOOgRICEeSILKeJARdNETdSHEEPfFEATHERhO",
     "LDdANDdPLOWeEARdBRUSHfMEATdINISTERiSELFeARRIVEgMORTARgTONGUEgOPPOSEgBOATeSTOPPINGiCOLORfGRAS",
     "SfTIGERfINSECTgBLOODfWALKENCLOSUREnCLOTHEShWESTeSEEdHORNeSPEECHgVALLEYgBEANePIGdBADGERgSHELL",
     "fREDcUNdFOOTeBODYeCARTeBITTERgMORNINGhWALKeCITYeWINEeDISTINGUISHlVILLAGEhGOLDeLONGeGATEeMOUN",
     "DfSLAVEeHORTTAILEDBIRDpRAINeBLUEeWRONGfFACEeLEATHERhTANNEDLEATHERnLEEKeSOUNDfLEAFeWINDeFLYdE",
     "ATdHEADeFRAGRANTiHORSEfBONEeTALLeHAIReFIGHTfSACRIFICIALWINEpCAULDRONiGHOSTfFISHeBIRDeSALTeDE",
     "EReWHEATfHEMPeYELLOWgMILLETgBLACKfEMBROIDERYkFROGeTRIPODgDRUMeRATdNOSEeEVENeTOOTHfDRAGONgTUR",
     "TLEgFLUTE 2ff0:IDEOGRAPHICDESCRIPTIONCHARACTERLEFTTORIGHTlABOVETOBELOWmLEFTTOMIDDLEANDRIGHTu",
     "ABOVETOMIDDLEANDBELOWvFULLSURROUNDmSURROUNDFROMABOVEfBELOWfLEFTeUPPERLEFTeRIGHTkLOWERLEFTvOV",
     "ERLAID 3000:IDEOGRAPHICSPACEfCOMMAfFULLSTOPtDITTOMARKjJAPANESEINDUSTRIALSTANDARDSYMBOL 3005:",
     "IDEOGRAPHICITERATIONMARKnCLOSINGMARKlNUMBERZEROvLEFTANGLEBRACKETqRIGHTANGLEBRACKETrLEFTDOUBL",
     "EANGLEBRACKETwRIGHTDOUBLEANGLEBRACKETxLEFTCORNERBRACKETrRIGHTCORNERBRACKETsLEFTWHITECORNERBR",
     "ACKETwRIGHTWHITECORNERBRACKETxLEFTBLACKLENTICULARBRACKET 3011:RIGHTBLACKLENTICULARBRACKET 30",
     "12:POSTALMARKkGETAMARKiLEFTTORTOISESHELLBRACKETyRIGHTTORTOISESHELLBRACKETzLEFTWHITELENTICULA",
     "RBRACKET 3017:RIGHTWHITELENTICULARBRACKET 3018:LEFTWHITETORTOISESHELLBRACKET 3019:RIGHTWHITE",
     "TORTOISESHELLBRACKET 301a:LEFTWHITESQUAREBRACKETwRIGHTWHITESQUAREBRACKETxWAVEDASHiREVERSEDDO",
     "UBLEPRIMEQUOTATIONMARK 301e:DOUBLEPRIMEQUOTATIONMARKyLOWDOUBLEPRIMEQUOTATIONMARK 3020:POSTAL",
     "MARKFACEoHANGZHOUNUMERALONEdTWOcHREEfFOURdIVEeSIXcEVENfEIGHTfNINEtIDEOGRAPHICLEVELTONEMARKnR",
     "ISINGTONEMARKoDEPARTINGTONEMARKrENTERINGTONEMARK 302e:HANGULSINGLEDOTTONEMARKrDOUBLEDOTTONEM",
     "ARKxWAVYDASHiVERTICALKANAREPEATMARKeWITHVOICEDSOUNDMARKtMARKUPPERHALFnWITHVOICEDSOUNDMARKUPP",
     "ERHALF 3035:VERTICALKANAREPEATMARKLOWERHALF 3036:CIRCLEDPOSTALMARKrIDEOGRAPHICTELEGRAPHLINEF",
     "EEDSEPARATORSYMBOL 3038:HANGZHOUNUMERALTENcWENTYfHIRTYvVERTICALIDEOGRAPHICITERATIONMARK 303c",
     ":MASUMARKiPARTALTERNATIONMARKtIDEOGRAPHICVARIATIONINDICATORsHALFFILLSPACE 3041:HIRAGANALETTE",
     "RSMALLAgAbSMALLIgIbSMALLUgUbSMALLEgEbSMALLOgObKAcGAcKIcGIcKUcGUcKEcGEcKOcGOcSAcZAcSIcZIcSUcZ",
     "UcSEcZEcSOcZOcTAcDAcTIcDIcSMALLTUhTUcDUcTEcDEcTOcDOcNAbIbUbEbOcHAcBAcPAcHIcBIcPIcHUcBUcPUcHE",
     "cBEcPEcHOcBOcPOcMAbIbUbEbOcSMALLYAhYAcSMALLYUhYUcSMALLYOhYOcRAbIbUbEbOcSMALLWAhWAbIbEbOcNbVU",
     "cSMALLKAbE 3099:COMBININGKATAKANAHIRAGANAVOICEDSOUNDMARKpSEMIVOICEDSOUNDMARK 309b:KATAKANAHI",
     "RAGANAVOICEDSOUNDMARKpSEMIVOICEDSOUNDMARK 309d:HIRAGANAITERATIONMARKnVOICEDITERATIONMARKtDIG",
     "RAPHYORItKATAKANAHIRAGANADOUBLEHYPHENuLETTERSMALLAgAbSMALLIgIbSMALLUgUbSMALLEgEbSMALLOgObKAc",
     "GAcKIcGIcKUcGUcKEcGEcKOcGOcSAcZAcSIcZIcSUcZUcSEcZEcSOcZOcTAcDAcTIcDIcSMALLTUhTUcDUcTEcDEcTOc",
     "DOcNAbIbUbEbOcHAcBAcPAcHIcBIcPIcHUcBUcPUcHEcBEcPEcHOcBOcPOcMAbIbUbEbOcSMALLYAhYAcSMALLYUhYUc",
     "SMALLYOhYOcRAbIbUbEbOcSMALLWAhWAbIbEbOcNbVUcSMALLKAbEhVAbIbEbOiMIDDLEDOTjHIRAGANAPROLONGEDSO",
     "UNDMARK 30fd:KATAKANAITERATIONMARKnVOICEDITERATIONMARKtDIGRAPHKOTO 3105:BOPOMOFOLETTERBbPbMb",
     "FbDbTbNbLbGbKbHbJbQbXbZHcCHcSHcRbZbCbSbAbObEaHcAIcEIcAUcOUcANcENcANGdENGcRcIbUbIUcVbNGcGNcIH",
     "cOWITHDOTABOVEnNN 3131:HANGULLETTERKIYEOKgSSANGKIYEOKlKIYEOKSIOSkNIEUNaCIEUCfHIEUHkTIKEUTgSS",
     "ANGTIKEUTlRIEULaKIYEOKgMIEUMfPIEUPfSIOSeTHIEUTHhPHIEUPHhHIEUHkMIEUMfPIEUPfSSANGPIEUPkPIEUPSI",
     "OSjSIOSdSANGSIOSjIEUNGfCIEUCfSSANGCIEUCkCHIEUCHhKHIEUKHhTHIEUTHhPHIEUPHhHIEUHfAaEcYAaEdEObbY",
     "EObcObWAaEdOEcYOcUbWEObbIcYUcEUcYIcIhFILLERgLETTERSSANGNIEUNkNIEUNTIKEUTgSIOSePANSIOSmRIEULK",
     "IYEOKSIOSkTIKEUTgPIEUPSIOSiANSIOShYEORINHIEUHqMIEUMPIEUPfSIOSePANSIOSmKAPYEOUNMIEUMnPIEUPKIY",
     "EOKgTIKEUTgSIOSKIYEOKgTIKEUTkCIEUCfTHIEUTHmKAPYEOUNPIEUPfSSANGPIEUPsSIOSKIYEOKgNIEUNfTIKEUTg",
     "PIEUPfCIEUCjPANSIOShSSANGIEUNGkYESIEUNGaSIOSePANSIOSpKAPYEOUNPHIEUPHpSSANGHIEUHkYEORINHIEUHk",
     "OYAaEdIcUYEObcIdARAEAaE 3190:IDEOGRAPHICANNOTATIONLINKINGMARKlREVERSEMARKlONEMARKhTWOMARKgHR",
     "EEMARKjFOURMARKiTOPMARKhMIDDLEMARKkBOTTOMMARKkFIRSTMARKjSECONDMARKkTHIRDMARKjFOURTHMARKkHEAV",
     "ENMARKkEARTHMARKjMANMARK 31a0:BOPOMOFOLETTERBUcZIcJIcGUcEEbNNdOObNNdIRcANNdINNdUNNdIMcNGGdAI",
     "NNdUNNdMcOMbNGdINNNkFINALLETTERPbTbKbHmLETTERGHcLHcZYiFINALLETTERGmLETTERGWcKWcOEcAHqCJKSTRO",
     "KETbWGcXGcBXGdSWcHZZbGcPbZWGeSZWGeHZTbZPdPWGdZWbZZeNbHbSbPbSPcDbHZbGcSZbWZcTbGcPDbZcTNcSZZcW",
     "GdHXWGdZZZGfPGcQ 31f0:KATAKANALETTERSMALLKUcSIbUcTOcNUcHAbIbUbEbOcMUcRAbIbUbEbOvPARENTHESIZE",
     "DHANGULKIYEOKgNIEUNfTIKEUTgRIEULfMIEUMfPIEUPfSIOSeIEUNGfCIEUCeHIEUCHhKHIEUKHhTHIEUTHhPHIEUPH",
     "hHIEUHfKIYEOKAhNIEUNAgTIKEUTAhRIEULAgMIEUMAgPIEUPAgSIOSAfIEUNGAgCIEUCAfHIEUCHAiKHIEUKHAiTHIE",
     "UTHAiPHIEUPHAiHIEUHAgCIEUCUmKOREANCHARACTEROJEONeHU 3220:PARENTHESIZEDIDEOGRAPHONEdTWOcHREEf",
     "FOURdIVEeSIXcEVENfEIGHTfNINEeTENdMOONeFIREeWATEReOODeMETALfEARTHfSUNcTOCKfHAVEeSOCIETYhNAMEe",
     "SPECIALhFINANCIALjCONGRATULATIONoLABORfREPRESENTjCALLeSTUDYeUPERVISEjENTERPRISEkRESOURCEiALL",
     "IANCEiFESTIVALiRESTeSELFeREACH 3244:CIRCLEDIDEOGRAPHQUESTIONiKINDERGARTENmSCHOOLgKOTOnNUMBER",
     "TENONBLACKSQUAREpWENTYONBLACKSQUAREsHIRTYONBLACKSQUAREtFORTYONBLACKSQUARErIFTYONBLACKSQUAREs",
     "SIXTYONBLACKSQUARErEVENTYONBLACKSQUAREuEIGHTYONBLACKSQUARE 3250:PARTNERSHIPSIGNpCIRCLEDNUMBE",
     "RTWENTYONEdTWOcHREEfFOURdIVEeSIXcEVENfEIGHTfNINEjHIRTYaONEdTWOcHREEfFOURdIVEqHANGULKIYEOKgNI",
     "EUNfTIKEUTgRIEULfMIEUMfPIEUPfSIOSeIEUNGfCIEUCeHIEUCHhKHIEUKHhTHIEUTHhPHIEUPHhHIEUHfKIYEOKAhN",
     "IEUNAgTIKEUTAhRIEULAgMIEUMAgPIEUPAgSIOSAfIEUNGAgCIEUCAfHIEUCHAiKHIEUKHAiTHIEUTHAiPHIEUPHAiHI",
     "EUHAmKOREANCHARACTERCHAMKOgJUEUIuHANGULIEUNGUtKOREANSTANDARDSYMBOLuCIRCLEDIDEOGRAPHONEdTWOcH",
     "REEfFOURdIVEeSIXcEVENfEIGHTfNINEeTENdMOONeFIREeWATEReOODeMETALfEARTHfSUNcTOCKfHAVEeSOCIETYhN",
     "AMEeSPECIALhFINANCIALjCONGRATULATIONoLABORfSECRETgMALEeFEMALEgSUITABLEiEXCELLENTjPRINTfATTEN",
     "TIONjITEMeRESTeCOPYcRRECThHIGHeCENTREgLOWcEFTeRIGHTfMEDICINEiRELIGIONiSTUDYeUPERVISEjENTERPR",
     "ISEkRESOURCEiALLIANCEiNIGHToNUMBERTHIRTYSIXcEVENfEIGHTfNINEkFORTYaONEdTWOcHREEfFOURdIVEeSIXc",
     "EVENfEIGHTfNINEiIFTYsIDEOGRAPHICTELEGRAPHSYMBOLFORJANUARYhFEBRUARYiMARCHfAPRILfMAYdJUNEcLYeA",
     "UGUSTgSEPTEMBERjOCTOBERhNOVEMBERiDECEMBER 32cc:SQUAREHGcERGcViLIMITEDLIABILITYSIGNuCIRCLEDKA",
     "TAKANAAbIbUbEbObKAbIbUbEbOcSAbIbUbEbOcTAbIbUbEbOcNAbIbUbEbOcHAbIbUbEbOcMAbIbUbEbOcYAbUbOcRAb",
     "IbUbEbOcWAbIbEbOrSQUAREERANAMEREIWAmAPAATOfRUHUAfNPEAeARUeININGUeTIeUONdESUKUUDOhEKAAfONSUdO",
     "MUeKAIRIdRATTOeORIIhGARONdNMAeIGAcNIIfKYURIIgGIRUDAAhKIROaGURAMUgMEETORUhWATTOjGURAMUaTONjKU",
     "RUZEIROgOONEgEESUeORUNAeOPOfSAIKURUfNTIIMUhIRINGUgENTIbOfDAASUeESIdORUeTONdNANOdOTTOfHAITUfP",
     "AASENTOfTUfBAARERUhPIASUTORUhKURUdOeBIRUeHUARADDOgIITOgBUSSYERUiHURANeEKUTAARUjPESOcNIHIgHER",
     "UTUgPENSUdEZIfBEETAfPOINTOgBORUTOgHONdPONDOfHOORUcNeMAIKUROeRUdHHAdRUKUeNSYONgIKURONfRIaBAAR",
     "UiEGAaTONfETORUhYAADOcRUeUANeRITTORUfRAdUPIIdUBURUgEMUcNTOGENiWATTOlIDEOGRAPHICTELEGRAPHSYMB",
     "OLFORHOURZEROeONEdTWOcHREEfFOURdIVEeSIXcEVENfEIGHTfNINEeTENdELEVENgTWELVEfHIRTEENiFOURTEENhI",
     "FTEENhSIXTEENgEVENTEENjEIGHTEENiNINETEENiTWENTYaONEdTWOcHREEfFOUR 3371:SQUAREHPAdDAcAUcBARdO",
     "VcPCcDMaSQUAREDhCUBEDhIUcERANAMEHEISEIgSYOUWAgTAISYOUhMEIZImCORPORATIONlPAAMPSgNAcMUAcAcKAbB",
     "cMBcGBcCALdKCALePFcNFcMUFbGcGcKGcHZcKHZdMHZdGHZdTHZdMULcLcDLcKLcFMcNMcMUMcMcCMcKMcMMSQUAREDj",
     "CMSQUAREDjMSQUAREDiKMSQUAREDjMMCUBEDhCMCUBEDhMCUBEDgKMCUBEDhMOVERSaSQUAREDnPAcKPAdMPAdGPAdRA",
     "DaOVERSaSQUAREDpPScNScMUScScPVcNVcMUVcVcKVcMVMEGAgPWcNWcMUWcWcKWcMWMEGAgKOHMeMOHMeAMcBQcCCbD",
     "bOVERKGfcDBcGYcHAbPcINcKKbMCAPITALiTcLMbNbOGcXcMBSMALLgILcOLdPHbMbPMcRcSRbVcWBcVOVERMgAOVERM",
     "mIDEOGRAPHICTELEGRAPHSYMBOLFORDAYONEdTWOcHREEfFOURdIVEeSIXcEVENfEIGHTfNINEeTENdELEVENgTWELVE",
     "fHIRTEENiFOURTEENhIFTEENhSIXTEENgEVENTEENjEIGHTEENiNINETEENiTWENTYaONEdTWOcHREEfFOURdIVEeSIX",
     "cEVENfEIGHTfNINEjHIRTYaONE 33ff:SQUAREGAL 4dc0:HEXAGRAMFORTHECREATIVEHEAVENoRECEPTIVEEARTHrD",
     "IFFICULTYATTHEBEGINNINGyYOUTHFULFOLLYnWAITINGhCONFLICTiTHEARMYhHOLDINGTOGETHERpSMALLTAMINGlT",
     "READINGiPEACEfSTANDSTILLkFELLOWSHIPkGREATPOSSESSIONpMODESTYhENTHUSIASMkFOLLOWINGjWORKONTHEDE",
     "CAYEDqAPPROACHiCONTEMPLATIONnBITINGTHROUGHnGRACEfSPLITTINGAPARToRETURNgINNOCENCEjGREATTAMING",
     "lMOUTHCORNERSmGREATPREPONDERANCEsTHEABYSMALWATERmCLINGINGFIREpINFLUENCEjDURATIONiRETREAThGRE",
     "ATPOWERkPROGRESSiDARKENINGOFTHELIGHTtTHEFAMILYjOPPOSITIONjBSTRUCTIONlDELIVERANCEjCREASEiINCR",
     "EASEiBREAKTHROUGHmCOMINGTOMEETmGATHERINGTOGETHERrPUSHINGUPWARDnOPPRESSIONkTHEWELLhREVOLUTION",
     "kTHECAULDRONiAROUSINGTHUNDERpKEEPINGSTILLMOUNTAINxDEVELOPMENTlTHEMARRYINGMAIDENrABUNDANCEjTH",
     "EWANDERERiGENTLEWINDkJOYOUSLAKEnDISPERSIONkLIMITATIONkINNERTRUTHkSMALLPREPONDERANCEsAFTERCOM",
     "PLETIONpBEFORECOMPLETION a000:YISYLLABLEITbXbaPbETbXbaPdATbXbaPcUOXbaPdOTbXbaPcEXbbWUcBITbXb",
     "aPbETbXbaPdATbXbaPcUOXbaPdOTbXbaPcEXbaPcUTbXbaPbRXbcYTbXbaPbRXbdPITbXbaPbEXbaPdATbXbaPcUOXba",
     "PdOTbXbaPcUTbXbaPbRXbcYTbXbaPbRXbdBBITbXbaPbETbXbaPdATbXbaPcUOXbaPdOTbXbaPcEXbaPcUTbXbaPbRXb",
     "cYTbXbaPeNBITbXbaPbEXbaPdATbXbaPcOTbXbaPcUTbXbaPbRXbcYTbXbaPbRXbeHMITbXbaPbEXbaPdATbXbaPcUOX",
     "baPdOTbXbaPcUTbXbaPbRXbcYXbaPbRXbeMITbXbaPbEXbaPdATbXbaPcUOTbXbaPdOTbXbaPcEXbbUTbXbaPbRXbcYT",
     "bXbaPdFITbXbaPcATbXbaPcOXbaPcUTbXbaPbRXbcYTbXbaPdVITbXbaPbETbXbaPdATbXbaPcOTbXbaPcEXbPcUTbXb",
     "aPbRXbcYTbXbaPbRXbdDITbXbaPbEXbaPdATbXbaPcUOXbcOTbXbaPcEXbaPcUTbXbaPbRXbdTITbXbaPbEXbaPdATbX",
     "baPcUOTbXbaPdOTbXbaPcEXbaPcUTbXbaPbRXbdDDITbXbaPbEXbaPdATbXbaPcUOXbaPdOTbXbaPcEXbaPcUTbXbaPb",
     "RXbeNDITbXbaPbEXbcATbXbaPcOTbXbaPcEXbaPcUTbXbaPbRXbeHNITbXbaPbETbXbaPdATbXbaPcUOXbcOTbXbPcEX",
     "baPcUTeNITbXbaPbEXbaPdAXbaPcUOXbaPdOTbXbaPcEXbaPcUTbXbaPbRXbdHLITbXbaPbEXbaPdATbXbaPcUOXbaPd",
     "OXbaPcEXbaPcUTbXbaPbRXbcYTbXbaPbRXbeLITbXbaPbETbXbaPdATbXbaPcUOTbXbaPdOTbXbaPcEXbaPcUTbXbaPb",
     "RXbcYTbXbaPbRXbdGITbXbaPbETbXbaPdATbXbaPcUOTbXbaPdOTbXbaPcETbXbaPcUTbXbaPbRXbdKITbXbaPbEXbaP",
     "dATbXbaPcUOXbaPdOTbXbaPcETbXbaPcUTbXbaPbRXbdGGITbXbaEXbaPdATbXbaPcUOTbXbaPdOTbXbaPcETbXbaPcU",
     "TbXbaPbRXbeMGIEXbcATbXbaPcUOXbaPdOTbXbaPcEXbaPcUTbXbaPbRXbeHXITbXbaPbETbXbaPdATbXbaPcUOTbXba",
     "PdOTbXbaPcEXbaPeNGIEXbaPdATbXbaPcUOTbXbcOTbXbaPcEXbaPeHITbEXbcATbXbaPcUOTbXbaPdOTbXbaPcEXbaP",
     "dWATbXbaPcUOXbaPdOXbaPcEXbaPdZITbXbaPbEXbaPdATbXbaPcUOXbaPdOTbXbaPcEXbaPcUTbXbaPbRXbcYTbXbaP",
     "bRXbdCITbXbaPbETbXbaPdATbXbaPcUOXbaPdOTbXbaPcEXbaPcUTbXbaPbRXbcYTbXbaPbRXbdZZITbXbaPbETbXbaP",
     "dATbXbaPcOXbaPcEXbaPcUXbaPbRXbcYTbXbaPbRXbeNZITbXbaPbEXbaPdATbXbaPcUOXbcOXbPcEXbbUXbaPbRXbcY",
     "TbXbaPbRXbeSITbXbaPbEXbaPdATbXbaPcUOXbaPdOTbXbaPcEXbaPcUTbXbaPbRXbcYTbXbaPbRXbcSITbXbaPbEXba",
     "PdATbXbaPcOTbXbaPcEXbaPcUTbXbaPcYTbXbaPbRXbeZHATbXbaPcUOXbaPdOTbXbaPcETbXbaPcUTbXbaPbRXbcYTb",
     "XbaPbRXbeCHATbXbaPcUOTbXbaPdOTbXbaPcETbXbaPcUXbaPbRXbcYTbXbaPbRXbeRRAXbbUOXbcOTbXbaPcETbXbaP",
     "cUTbXbaPbRXbcYTbXbaPbRXbeNRATbXbaPcOXbaPcETbXbaPcUTbXbaPbRXbcYTbXbaPbRXbeSHATbXbaPcUOXbaPdOT",
     "bXbaPcETbXbaPcUTbXbaPbRXbcYTbXbaPbRXbeRATbXbaPcUOXbaPdOTbXbaPcEXbaPcUTbXbaPbRXbcYTbXbaPbRXbd",
     "JITbXbaPbETbXbaPdUOTbXbaPdOTbXbaPcUTbXbaPbRXbcYTbXbaPbRXbdQITbXbaPbETbXbaPdUOTbXbaPdOTbXbaPc",
     "UTbXbaPbRXbcYTbXbaPbRXbdJJITbXbaPbETbXbaPdUOXbaPdOTbXbaPcUTbXbaPbRXbcYTbXbaPeNJITbXbaPbETbXb",
     "aPdUOXbcOTbXbaPcUXbaPbRXbcYTbXbaPbRXbdYITbXbaPbETbXbaPdUOXbaPdOTbXbaPcUTbXbaPeXITbXbaPbETbXb",
     "aPdUOXbcOTbXbaPcYTbXbaPbRXbdYITbXbaPbETbXbaPdUOTbXbaPdOTbXbaPcUTbXbaPbRXbcYTbXbaPbRXb a490:Y",
     "IRADICALQOTdLIcKITdNYIPeCYPdSSIdGGOPdEPdMIcHXITeLYRdBBUTeMOPdYOcPUTdHXUOeTATdGAcZUPdCYTdDDUR",
     "eBURdGGUOeNYOPeTUcOPcJJUTeZOTdPYTdHMOdYITdVURdSHYdVEPdZAcJOcNZUPeJJYdGOTdJJIEeWOcDUcSHUReLIE",
     "dCYbUOPdIPdHXOPeSHATeZURdSHOPeCHEdZZIETfNBIEeKE a4d0:LISULETTERBAcPAbHAdDAcTAbHAdGAcKAbHAdJA",
     "cCAbHAdDZAdTSAbHAeMAcNAcLAcSAcZHAcAcNGAdHAcXAcHHAdFAcWAcSHAdYAcGHAdAaEcEaUcIbObUaEbHcOEcTONE",
     "MYATIfNAPOeMYACYAdBOcNAcJEUqPUNCTUATIONCOMMAfFULLSTOPxVAISYLLABLEEEaNdHEEdWEEaNePEEdBHEEdEEd",
     "MBEEeKPEEeMGBEEfGBEEeFEEdVEEdTEEcHEEeDHEEcHEEfLEEdREEdDEEdNDEEeSEEcHEEeZEEcHEEeCEEdJEEdNJEEe",
     "YEEdKEEdNGGEEfGEEdMEEdNEEcYEEeIaNcHIaNdWIaNdPIcBHIcIcMBIdKPIdMGBIeGBIdFIcVIcTIbHIdDHIbHIeLIc",
     "RIcDIcNDIdSIbHIdZIbHIdCIcJIcNJIdYIcKIcNGGIeGIcMIcNIbYIdAaNcNGANeHAaNdWAaNdPAcBHAcAcMBAdKPAaN",
     "eMGBAeGBAdFAcVAcTAbHAdDHAbHAeLAcRAcDAcNDAdSAbHAdZAbHAdCAcJAcNJAdYAcKAaNdNGGAeGAcMAcNAbYAdOOa",
     "NdHOOdWOOaNePOOdBHOOdOOdMBOOeKPOOeMGBOOfGBOOeFOOdVOOdTOOcHOOeDHOOcHOOfLOOdROOdDOOdNDOOeSOOcH",
     "OOeZOOcHOOeCOOdJOOdNJOOeYOOdKOOdNGGOOfGOOdMOOdNOOcYOOeUaNcHUaNdWUaNdPUcBHUcUcMBUdKPUdMGBUeGB",
     "UdFUcVUcTUbHUdDHUbHUeLUcRUcDUcNDUdSUbHUdZUbHUdCUcJUcNJUdYUcKUcNGGUeGUcMUcNUbYUdOaNcNGONeHOaN",
     "dWOaNdPOcBHOcOcMBOdKPOdMGBOeGBOaNeFOcVOcTObHOdDHObHOeLOcROcDOcNDOdSObHOdZObHOdCOcJOcNJOdYOcK",
     "OcNGGOeGOcMOcNObYOdEaNcNGENeHEaNdWEaNdPEcBHEcEcMBEdKPEaNeMGBEeGBEaNeFEcVEcTEbHEdDHEbHEeLEcRE",
     "cDEcNDEdSEbHEdZEbHEdCEcJEcNJEdYEcKEcNGGEaNfGEaNdMEcNEbYEcGcLENGTHENERsCOMMAfFULLSTOPiQUESTIO",
     "NMARKmSYLLABLENDOLEFAcKAcSOOoMBOLFEENGfKEENGfTINGeNIIdBANGeFAAdTAAdDANGdOONGfKUNGeTONGeDOOdJ",
     "ONGkDIGITZEROeONEdTWOcHREEfFOURdIVEeSIXcEVENfEIGHTfNINEjSYLLABLENDOLEMAcDO a640:CYRILLICCAPI",
     "TALLETTERZEMLYAtSMALLLETTERZEMLYArCAPITALLETTERDZELOsSMALLLETTERDZELOqCAPITALLETTERREVERSEDD",
     "ZEySMALLLETTERREVERSEDDZEwCAPITALLETTERIOTArSMALLLETTERIOTApCAPITALLETTERDJERVsSMALLLETTERDJ",
     "ERVqCAPITALLETTERMONOGRAPHUKySMALLLETTERMONOGRAPHUKwCAPITALLETTERBROADOMEGAxSMALLLETTERBROAD",
     "OMEGAvCAPITALLETTERNEUTRALYERxSMALLLETTERNEUTRALYERvCAPITALLETTERYERUWITHBACKYER a651:CYRILL",
     "ICSMALLLETTERYERUWITHBACKYER a652:CYRILLICCAPITALLETTERIOTIFIEDYATySMALLLETTERIOTIFIEDYATwCA",
     "PITALLETTERREVERSEDYUxSMALLLETTERREVERSEDYUvCAPITALLETTERIOTIFIEDAwSMALLLETTERIOTIFIEDAuCAPI",
     "TALLETTERCLOSEDLITTLEYUS a659:CYRILLICSMALLLETTERCLOSEDLITTLEYUS a65a:CYRILLICCAPITALLETTERB",
     "LENDEDYUSxSMALLLETTERBLENDEDYUSvCAPITALLETTERIOTIFIEDCLOSEDLITTLEYUS a65d:CYRILLICSMALLLETTE",
     "RIOTIFIEDCLOSEDLITTLEYUS a65e:CYRILLICCAPITALLETTERYNpSMALLLETTERYNnCAPITALLETTERREVERSEDTSE",
     "ySMALLLETTERREVERSEDTSEwCAPITALLETTERSOFTDEtSMALLLETTERSOFTDErCAPITALLETTERSOFTELtSMALLLETTE",
     "RSOFTELrCAPITALLETTERSOFTEMtSMALLLETTERSOFTEMrCAPITALLETTERMONOCULAROxSMALLLETTERMONOCULAROv",
     "CAPITALLETTERBINOCULAROxSMALLLETTERBINOCULAROvCAPITALLETTERDOUBLEMONOCULARO a66d:CYRILLICSMA",
     "LLLETTERDOUBLEMONOCULARO a66e:CYRILLICLETTERMULTIOCULAROzOMBININGCYRILLICVZMETfTENMILLIONSSI",
     "GNpHUNDREDMILLIONSSIGNtTHOUSANDMILLIONSSIGN a673:SLAVONICASTERISKqCOMBININGCYRILLICLETTERUKR",
     "AINIANIElIbYIcUbHARDSIGNiYERUeSOFTSIGNiOMEGAlKAVYKAgPAYEROKxYRILLICKAVYKAgPAYEROKhCAPITALLET",
     "TERDWEqSMALLLETTERDWEoCAPITALLETTERDZWErSMALLLETTERDZWEpCAPITALLETTERZHWErSMALLLETTERZHWEpCA",
     "PITALLETTERCCHErSMALLLETTERCCHEpCAPITALLETTERDZZErSMALLLETTERDZZEpCAPITALLETTERTEWITHMIDDLEH",
     "OOK a68b:CYRILLICSMALLLETTERTEWITHMIDDLEHOOK a68c:CYRILLICCAPITALLETTERTWEqSMALLLETTERTWEoCA",
     "PITALLETTERTSWErSMALLLETTERTSWEpCAPITALLETTERTSSErSMALLLETTERTSSEpCAPITALLETTERTCHErSMALLLET",
     "TERTCHEpCAPITALLETTERHWEqSMALLLETTERHWEoCAPITALLETTERSHWErSMALLLETTERSHWEpCAPITALLETTERDOUBL",
     "EOuSMALLLETTERDOUBLEOsCAPITALLETTERCROSSEDOvSMALLLETTERCROSSEDO a69c:MODIFIERLETTERCYRILLICH",
     "ARDSIGNiSOFTSIGN a69e:COMBININGCYRILLICLETTEREFcIOTIFIEDE a6a0:BAMUMLETTERAbKAcUbKUcEEcREEdT",
     "AEdObNYIdIbLAcPAcRIIbEEeLEEEEfMEEEEfTAAdNDAAdJAEMfMbSUUdMUcSHIIdIbHEUXeEUXeKYEEdETdNUAEcbJUA",
     "EfYOQdSHUdYUQcAcNSHAeKEUXePEUXeNJEEdTEEePUEdWUEdPEEdFEEdRUcLUcMIcNIcREUXdAEdKENdNGKWAENfGAcA",
     "dSHOdPUAEeFUbOMdWAcNAcLIcPIcLOQdKOcMBENeRENdMENcAcTIcKIcMObBAAeTETdKPAdTENdNTUUeSAMBAfFAAMAE",
     "gKOVUUdGHOMmCOMBININGMARKKOQNDONhTUKWENTISwNJAEMLIhFULLSTOPiCOLONdMMAfSEMICOLONjQUESTIONMARK",
     " a700:MODIFIERLETTERCHINESETONEYINPINGgANGPINGhINSHANGhANGSHANGiINQUeANGQUfINRUeANGRUrEXTRAH",
     "IGHDOTTEDTONEBARwHIGHDOTTEDTONEBARrMIDDOTTEDTONEBARqLOWDOTTEDTONEBARqEXTRALOWDOTTEDTONEBARqH",
     "IGHDOTTEDLEFTSTEMTONEBAR a70e:MODIFIERLETTERHIGHDOTTEDLEFTSTEMTONEBARzMIDDOTTEDLEFTSTEMTONEB",
     "ARyLOWDOTTEDLEFTSTEMTONEBARyEXTRALOWDOTTEDLEFTSTEMTONEBARyHIGHLEFTSTEMTONEBARyHIGHLEFTSTEMTO",
     "NEBARtMIDLEFTSTEMTONEBARsLOWLEFTSTEMTONEBARsEXTRALOWLEFTSTEMTONEBARxDOTVERTICALBARlSLASHfHOR",
     "IZONTALBARqLOWERRIGHTCORNERANGLEvRAISEDUPARROWhDOWNARROWjEXCLAMATIONMARKpINVERTEDEXCLAMATION",
     "MARK a71f:MODIFIERLETTERLOWINVERTEDEXCLAMATIONMARK a720:MODIFIERLETTERSTRESSANDHIGHTONEiLOWT",
     "ONE a722:LATINCAPITALLETTEREGYPTOLOGICALALEF a723:LATINSMALLLETTEREGYPTOLOGICALALEF a724:LAT",
     "INCAPITALLETTEREGYPTOLOGICALAIN a725:LATINSMALLLETTEREGYPTOLOGICALAIN a726:LATINCAPITALLETTE",
     "RHENGrSMALLLETTERHENGpCAPITALLETTERTZpSMALLLETTERTZnCAPITALLETTERTRESILLOvSMALLLETTERTRESILL",
     "OtCAPITALLETTERCUATRILLOwSMALLLETTERCUATRILLOuCAPITALLETTERCUATRILLOWITHCOMMA a72f:LATINSMAL",
     "LLETTERCUATRILLOWITHCOMMA a730:LATINLETTERSMALLCAPITALFbStCAPITALLETTERAApSMALLLETTERAAnCAPI",
     "TALLETTERAOpSMALLLETTERAOnCAPITALLETTERAUpSMALLLETTERAUnCAPITALLETTERAVpSMALLLETTERAVnCAPITA",
     "LLETTERAVWITHHORIZONTALBAR a73b:LATINSMALLLETTERAVWITHHORIZONTALBAR a73c:LATINCAPITALLETTERA",
     "YpSMALLLETTERAYnCAPITALLETTERREVERSEDCWITHDOT a73f:LATINSMALLLETTERREVERSEDCWITHDOT a740:LAT",
     "INCAPITALLETTERKWITHSTROKEySMALLLETTERKWITHSTROKEwCAPITALLETTERKWITHDIAGONALSTROKE a743:LATI",
     "NSMALLLETTERKWITHDIAGONALSTROKE a744:LATINCAPITALLETTERKWITHSTROKEANDDIAGONALSTROKE a745:LAT",
     "INSMALLLETTERKWITHSTROKEANDDIAGONALSTROKE a746:LATINCAPITALLETTERBROKENLuSMALLLETTERBROKENLs",
     "CAPITALLETTERLWITHHIGHSTROKE a749:LATINSMALLLETTERLWITHHIGHSTROKE a74a:LATINCAPITALLETTEROWI",
     "THLONGSTROKEOVERLAY a74b:LATINSMALLLETTEROWITHLONGSTROKEOVERLAY a74c:LATINCAPITALLETTEROWITH",
     "LOOPwSMALLLETTEROWITHLOOPuCAPITALLETTEROOpSMALLLETTEROOnCAPITALLETTERPWITHSTROKETHROUGHDESCE",
     "NDER a751:LATINSMALLLETTERPWITHSTROKETHROUGHDESCENDER a752:LATINCAPITALLETTERPWITHFLOURISH a",
     "753:LATINSMALLLETTERPWITHFLOURISHyCAPITALLETTERPWITHSQUIRRELTAIL a755:LATINSMALLLETTERPWITHS",
     "QUIRRELTAIL a756:LATINCAPITALLETTERQWITHSTROKETHROUGHDESCENDER a757:LATINSMALLLETTERQWITHSTR",
     "OKETHROUGHDESCENDER a758:LATINCAPITALLETTERQWITHDIAGONALSTROKE a759:LATINSMALLLETTERQWITHDIA",
     "GONALSTROKE a75a:LATINCAPITALLETTERRROTUNDAvSMALLLETTERRROTUNDAtCAPITALLETTERRUMROTUNDAxSMAL",
     "LLETTERRUMROTUNDAvCAPITALLETTERVWITHDIAGONALSTROKE a75f:LATINSMALLLETTERVWITHDIAGONALSTROKE ",
     "a760:LATINCAPITALLETTERVYpSMALLLETTERVYnCAPITALLETTERVISIGOTHICZySMALLLETTERVISIGOTHICZwCAPI",
     "TALLETTERTHORNWITHSTROKE a765:LATINSMALLLETTERTHORNWITHSTROKE a766:LATINCAPITALLETTERTHORNWI",
     "THSTROKETHROUGHDESCENDER a767:LATINSMALLLETTERTHORNWITHSTROKETHROUGHDESCENDER a768:LATINCAPI",
     "TALLETTERVENDrSMALLLETTERVENDpCAPITALLETTERETpSMALLLETTERETnCAPITALLETTERISpSMALLLETTERISnCA",
     "PITALLETTERCONqSMALLLETTERCONtMODIFIERLETTERUSqLATINSMALLLETTERDUMdLUMdMUMdNUMdRUMoLETTERSMA",
     "LLCAPITALRUMvSMALLLETTERTUMdUMnCAPITALLETTERINSULARDvSMALLLETTERINSULARDtCAPITALLETTERINSULA",
     "RFvSMALLLETTERINSULARFtCAPITALLETTERINSULARGiTURNEDINSULARG a77f:LATINSMALLLETTERTURNEDINSUL",
     "ARGzCAPITALLETTERTURNEDLuSMALLLETTERTURNEDLsCAPITALLETTERINSULARRvSMALLLETTERINSULARRtCAPITA",
     "LLETTERINSULARSvSMALLLETTERINSULARStCAPITALLETTERINSULARTvSMALLLETTERINSULARTyMODIFIERLETTER",
     "LOWCIRCUMFLEXACCENTtCOLONfSHORTEQUALSSIGN a78b:LATINCAPITALLETTERSALTILLOvSMALLLETTERSALTILL",
     "OtCAPITALLETTERTURNEDHuSMALLLETTERLWITHRETROFLEXHOOKANDBELT a78f:LATINLETTERSINOLOGICALDOTuC",
     "APITALLETTERNWITHDESCENDER a791:LATINSMALLLETTERNWITHDESCENDERzCAPITALLETTERCWITHBARvSMALLLE",
     "TTERCWITHBARdPALATALHOOKqHWITHPALATALHOOK a796:LATINCAPITALLETTERBWITHFLOURISH a797:LATINSMA",
     "LLLETTERBWITHFLOURISHyCAPITALLETTERFWITHSTROKEySMALLLETTERFWITHSTROKEwCAPITALLETTERVOLAPUKAE",
     "wSMALLLETTERVOLAPUKAEuCAPITALLETTERVOLAPUKOEwSMALLLETTERVOLAPUKOEuCAPITALLETTERVOLAPUKUEwSMA",
     "LLLETTERVOLAPUKUEuCAPITALLETTERGWITHOBLIQUESTROKE a7a1:LATINSMALLLETTERGWITHOBLIQUESTROKE a7",
     "a2:LATINCAPITALLETTERKWITHOBLIQUESTROKE a7a3:LATINSMALLLETTERKWITHOBLIQUESTROKE a7a4:LATINCA",
     "PITALLETTERNWITHOBLIQUESTROKE a7a5:LATINSMALLLETTERNWITHOBLIQUESTROKE a7a6:LATINCAPITALLETTE",
     "RRWITHOBLIQUESTROKE a7a7:LATINSMALLLETTERRWITHOBLIQUESTROKE a7a8:LATINCAPITALLETTERSWITHOBLI",
     "QUESTROKE a7a9:LATINSMALLLETTERSWITHOBLIQUESTROKE a7aa:LATINCAPITALLETTERHWITHHOOKjREVERSEDO",
     "PENEnSCRIPTGhLWITHBELTjSMALLCAPITALI a7af:LATINLETTERSMALLCAPITALQtCAPITALLETTERTURNEDKbThJW",
     "ITHCROSSEDTAILqCHIdBETArSMALLLETTERBETApCAPITALLETTEROMEGAsSMALLLETTEROMEGAqCAPITALLETTERUWI",
     "THSTROKEySMALLLETTERUWITHSTROKEwCAPITALLETTERGLOTTALAvSMALLLETTERGLOTTALAtCAPITALLETTERGLOTT",
     "ALIvSMALLLETTERGLOTTALItCAPITALLETTERGLOTTALUvSMALLLETTERGLOTTALUtCAPITALLETTEROLDPOLISHOxSM",
     "ALLLETTEROLDPOLISHOvCAPITALLETTERANGLICANAWxSMALLLETTERANGLICANAWvCAPITALLETTERCWITHPALATALH",
     "OOKqSWITHHOOKjZWITHPALATALHOOKqDWITHSHORTSTROKEOVERLAY a7c8:LATINSMALLLETTERDWITHSHORTSTROKE",
     "OVERLAY a7c9:LATINCAPITALLETTERSWITHSHORTSTROKEOVERLAY a7ca:LATINSMALLLETTERSWITHSHORTSTROKE",
     "OVERLAY a7d0:LATINCAPITALLETTERCLOSEDINSULARG a7d1:LATINSMALLLETTERCLOSEDINSULARG a7d3:LATIN",
     "SMALLLETTERDOUBLETHORN a7d5:LATINSMALLLETTERDOUBLEWYNNvCAPITALLETTERMIDDLESCOTSSzSMALLLETTER",
     "MIDDLESCOTSSxCAPITALLETTERSIGMOIDSvSMALLLETTERSIGMOIDS a7f2:MODIFIERLETTERCAPITALCbFbQwLATIN",
     "CAPITALLETTERREVERSEDHALFH a7f6:LATINSMALLLETTERREVERSEDHALFHyEPIGRAPHICLETTERSIDEWAYSI a7f8",
     ":MODIFIERLETTERCAPITALHWITHSTROKEsSMALLLIGATUREOE a7fa:LATINLETTERSMALLCAPITALTURNEDMzEPIGRA",
     "PHICLETTERREVERSEDFbPjINVERTEDMiLONGAgARCHAICM a800:SYLOTINAGRILETTERAbIhSIGNDVISVARAmLETTER",
     "UbEbOhSIGNHASANTAlLETTERKObHOdGObHOjSIGNANUSVARAmLETTERCObHOdJObHOdTTObHOeDDObHOeTObHOdDObHO",
     "dNOcPObHOdBObHOdMOcROcLOcRROdSOcHOiVOWELSIGNAbIbUbEbOOlPOETRYMARK1b2b3b4lSIGNALTERNATEHASANT",
     "A a830:NORTHINDICFRACTIONONEQUARTERhHALFhTHREEQUARTERSnONESIXTEENTHjEIGHTHjTHREESIXTEENTHSxQ",
     "UARTERMARKlPLACEHOLDERMARKpRUPEEMARKjQUANTITYMARK a840:PHAGSPALETTERKAbHAdGAcNGAdCAbHAdJAcNY",
     "AdTAbHAdDAcNAcPAbHAdBAcMAcTSAbHAeDZAdWAcZHAcAcSMALLAgYAcRAcLAcSHAcAcHAcAbIbUbEbObQAcXAcFAcGG",
     "AdEEiSUBJOINEDLETTERWAcYArLETTERTTAbHAeDDAdNNAdALTERNATEYAlVOICELESSSHAhDHAiASPIRATEDFArSUBJ",
     "OINEDLETTERRApPERFIXEDLETTERRAsLETTERCANDRABINDUrSINGLEHEADMARKoDOUBLEHEADMARKoMARKSHADeDOUB",
     "LESHAD a880:SAURASHTRASIGNANUSVARAiVISARGAlLETTERAaAcIaIcUaUcVOCALICRaRcLaLjEaEcAIcOaOcAUcKA",
     "bHAdGAbHAdNGAdCAbHAdJAbHAdNYAdTTAbHAeDDAbHAeNNAdTAbHAdDAbHAdNAcPAbHAdBAbHAdMAcYAcRAcLAcVAcSH",
     "AcSAcAcHAcLLAjCONSONANTSIGNHAARUsVOWELSIGNAAcIaIcUaUcVOCALICRaRcLaLjEaEcAIcOaOcAUlSIGNVIRAMA",
     "gCANDRABINDU a8ce:SAURASHTRADANDAeOUBLEDANDAkIGITZEROeONEdTWOcHREEfFOURdIVEeSIXcEVENfEIGHTfN",
     "INE a8e0:COMBININGDEVANAGARIDIGITZEROeONEdTWOcHREEfFOURdIVEeSIXcEVENfEIGHTfNINEjLETTERAbUbKA",
     "cNAcPAcRAcVIiSIGNAVAGRAHA a8f2:DEVANAGARISIGNSPACINGCANDRABINDUsCANDRABINDUVIRAMArDOUBLECAND",
     "RABINDUVIRAMAxCANDRABINDUTWOcHREEfAVAGRAHAtPUSHPIKAmGAPFILLERjCARETfHEADSTROKEkSIGNSIDDHAMlJ",
     "AINOMgLETTERAYiVOWELSIGNAYvKAYAHLIDIGITZEROeONEdTWOcHREEfFOURdIVEeSIXcEVENfEIGHTfNINEjLETTER",
     "KAbHAdGAcNGAdSAbHAdZAcNYAdTAcHTAdNAcPAbHAdMAcDAcBAcRAcYAcLAcWAcTHAdHAcVAcCAcAbOEcIbOOiVOWELU",
     "EcEbUbEEcOgTONEPLOPHUgCALYAaPLOPHUpSIGNCWIdSHYApREJANGLETTERKAcGAcNGAdTAcDAcNAcPAcBAcMAcCAcJ",
     "AcNYAdSAcRAcLAcYAcWAcHAcMBAdNGGAdDAcYJAeAhVOWELSIGNIbUbEbAIcObAUcEUbAlCONSONANTSIGNNGbbRbHoV",
     "IRAMA a95f:REJANGSECTIONMARKrHANGULCHOSEONGTIKEUTMIEUMfPIEUPfSIOSeCIEUClRIEULKIYEOKgSSANGKIY",
     "EOKlTIKEUTgSSANGTIKEUTlMIEUMfPIEUPfSSANGPIEUPkKAPYEOUNPIEUPnSIOSeCIEUCfKHIEUKHmMIEUMKIYEOKgT",
     "IKEUTgSIOSjPIEUPSIOSTHIEUTHlKHIEUKHhHIEUHkSSANGSIOSPIEUPoIEUNGRIEULfHIEUHkSSANGCIEUCHIEUHkTH",
     "IEUTHmPHIEUPHHIEUHmHIEUHSIOSjSSANGYEORINHIEUH a980:JAVANESESIGNPANYANGGAjCECAKfLAYARfWIGNYAN",
     "lLETTERAbIKAWIeaIcUbPACEREKhNGALELETaRASWADIpEbAIcObKAaSASAKfMURDAhGAaMURDAhNGAdCAaMURDAhJAc",
     "NYAMURDAiJAMAHAPRANAlNYAdTTAaMAHAPRANAmDDAaMAHAPRANAmNAMURDAhTAaMURDAhDAaMAHAPRANAlNAcPAaMUR",
     "DAhBAaMURDAhMAcYAcRAaAGUNGhLAcWAcSAMURDAeAHAPRANAjcHAiSIGNCECAKTELUnVOWELSIGNTARUNGfOLONGgWU",
     "LUaMELIKjSUKUaMENDUTkTALINGgDIRGAMUREjPEPEToCONSONANTSIGNKERETfPENGKALhCAKRAsPANGKONhLEFTRER",
     "ENGGANnRIGHTRERENGGANoPADAANDAPfMADYAfLUHURfWINDUfPANGKAThLINGSAfUNGSIgADEGaADEGiPISELEHlTUR",
     "NEDPADAPISELEH a9cf:JAVANESEPANGRANGKEPlDIGITZEROeONEdTWOcHREEfFOURdIVEeSIXcEVENfEIGHTfNINE ",
     "a9de:JAVANESEPADATIRTATUMETESmISENISENuMYANMARLETTERSHANGHAdCHAdJHAdNNAdBHAnSIGNSHANSAWlMODI",
     "FIERLETTERSHANREDUPLICATION a9e7:MYANMARLETTERTAILAINGNYAdFAcGAbHAdJAbHAdDDAbHAeNNArTAILAING",
     "DIGITZEROeONEdTWOcHREEfFOURdIVEeSIXcEVENfEIGHTfNINErLETTERTAILAINGLLAdDAbHAdBAbHA aa00:CHAML",
     "ETTERAbIbUbEbAIcObKAbHAdGAbHAdNGUEcAdCHAbHAeJAbHAdNHUEcAbJAeTAbHAdDAbHAdNUEcAcDDAdPAbPAcHAdB",
     "AbHAdMUEcAcBBAdYAcRAcLAcVAcSSAcAcHAiVOWELSIGNAAcIaIcEIcUbOEbbAIbUcUElCONSONANTSIGNYAcRAcLAcW",
     "A aa40:CHAMLETTERFINALKbGbNGnCONSONANTSIGNFINALNGuLETTERFINALCHcTbNbPbYbRbLbSSnCONSONANTSIGN",
     "FINALMbH aa50:CHAMDIGITZEROeONEdTWOcHREEfFOURdIVEeSIXcEVENfEIGHTfNINE aa5c:CHAMPUNCTUATIONSP",
     "IRALgDANDAeOUBLEDANDAlTRIPLEDANDA aa60:MYANMARLETTERKHAMTIGAcCAbHAdJAbHAdNYAdTTAbHAeDDAbHAdH",
     "AdNAcSAcHAbHAdFAoMODIFIERLETTERKHAMTIREDUPLICATION aa71:MYANMARLETTERKHAMTIXAcZAcRAnOGOGRAMK",
     "HAMTIOAYdQNcHMqSYMBOLAITONEXCLAMATIONlONEdTWOoLETTERAITONRAnSIGNPAOKARENTONEmTAILAINGTONE2b5",
     "rLETTERSHWEPALAUNGCHAdSHA aa80:TAIVIETLETTERLOWKOfHIGHKOgLOWKHOgHIGHKHOhLOWKHHOhHIGHKHHOiLOW",
     "GOfHIGHGOgLOWNGOgHIGHNGOhLOWCOfHIGHCOgLOWCHOgHIGHCHOhLOWSOfHIGHSOgLOWNYOgHIGHNYOhLOWDOfHIGHD",
     "OgLOWTOfHIGHTOgLOWTHOgHIGHTHOhLOWNOfHIGHNOgLOWBOfHIGHBOgLOWPOfHIGHPOgLOWPHOgHIGHPHOhLOWFOfHI",
     "GHFOgLOWMOfHIGHMOgLOWYOfHIGHYOgLOWROfHIGHROgLOWLOfHIGHLOgLOWVOfHIGHVOgLOWHOfHIGHHOgLOWOeHIGH",
     "OlMAIKANGhVOWELAAcIbUEbbEbOgMAIKHIThVOWELIAcUEAcAcAUEcYbNbMhTONEMAIEKcNUENGfTHOdSONG aadb:TA",
     "IVIETSYMBOLKONdNUENGfSAMdHOHOIfKOIKOItMEETEIMAYEKLETTEREbObCHAdNYAdTTAbHAeDDAbHAeNNAdSHAcSAj",
     "VOWELSIGNIIcUUcAAIcUbAUmCHEIKHANiAHANGKHUDAMkNJIeSYLLABLEREPETITIONMARKwWORDREPETITIONMARKsV",
     "OWELSIGNVISARGApIRAMA ab01:ETHIOPICSYLLABLETTHUbIbAAcEEbbO ab09:ETHIOPICSYLLABLEDDHUbIbAAcEE",
     "bbO ab11:ETHIOPICSYLLABLEDZUbIbAAcEEbbO ab20:ETHIOPICSYLLABLECCHHAbUbIbAAcEEbbO ab28:ETHIOPI",
     "CSYLLABLEBBAbUbIbAAcEEbbO ab30:LATINSMALLLETTERBARREDALPHAlAREVERSEDSCHWAoBLACKLETTERElARRED",
     "EhEWITHFLOURISHnLENISFgSCRIPTGWITHCROSSEDTAILwLWITHINVERTEDLAZYSnDOUBLEMIDDLETILDErMIDDLERIN",
     "GpMWITHCROSSEDTAILqNWITHCROSSEDTAILqENGWITHCROSSEDTAILsBLACKLETTEROaWITHSTROKEwOPENOWITHSTRO",
     "KEpINVERTEDOEkTURNEDOEWITHSTROKEgHORIZONTALSTROKEvOPENOaWITHSTROKEwSTIRRUPRtLETTERSMALLCAPIT",
     "ALRWITHRIGHTLEG ab47:LATINSMALLLETTERRWITHOUTHANDLEoDOUBLERhRWITHCROSSEDTAILqDOUBLERWITHCROS",
     "SEDTAILwSCRIPTRaWITHRINGpBASELINEESHlUWITHSHORTRIGHTLEGrBARWITHSHORTRIGHTLEGuIcTURNEDUIiUWIT",
     "HLEFTHOOKnCHIaWITHLOWRIGHTRINGjLEFTSERIFtXWITHLOWRIGHTRINGkNGLEFTLEGaANDLOWRIGHTRINGpWITHSER",
     "IFzYWITHSHORTRIGHTLEG ab5b:MODIFIERBREVEWITHINVERTEDBREVEwLETTERSMALLHENGeLWITHINVERTEDLAZYS",
     "nMIDDLETILDEqUWITHLEFTHOOK ab60:LATINSMALLLETTERSAKHAYATiIOTIFIEDEjOPENOEgUOcINVERTEDALPHA a",
     "b65:GREEKLETTERSMALLCAPITALOMEGA ab66:LATINSMALLLETTERDZDIGRAPHWITHRETROFLEXHOOK ab67:LATINS",
     "MALLLETTERTSDIGRAPHWITHRETROFLEXHOOKzURNEDRWITHMIDDLETILDE ab69:MODIFIERLETTERSMALLTURNEDWmL",
     "EFTTACKiRIGHTTACK ab70:CHEROKEESMALLLETTERAbEbIbObUbVbGAcKAcGEbIbObUbVcHAbEbIbObUbVcLAbEbIbO",
     "bUbVcMAbEbIbObUcNAcHNAdNAHcEbIbObUbVcQUAbEbIbObUbVdSAbaEbIbObUbVcDAcTAcDEcTEcDIcTIcDObUbVbLA",
     "dTLAbEbIbObUbVcSAbEbIbObUbVdWAbEbIbObUbVcYAvMEETEIMAYEKLETTERKOKdSAMdLAIdMITdPAcNAcCHILeTILd",
     "KHOUeNGOUeTHOUeWAIdYANGeHUKdUNcIbPHAMeATIYAfGOKdJHAMeRAIdBAcJILdDILdGHOUeDHOUeBHAMeKOKLONSUM",
     "jLAILONSUMjMITLONSUMjPALONSUMiNALONSUMiTILLONSUMjNGOULONSUMkILONSUMnVOWELSIGNONAPeINAPeANAPe",
     "YENAPfSOUNAPgUNAPeCHEINAPhNUNGnCHEIKHEIiLUMIYEKhAPUNIYEK abf0:MEETEIMAYEKDIGITZEROeONEdTWOcH",
     "REEfFOURdIVEeSIXcEVENfEIGHTfNINE d7b0:HANGULJUNGSEONGOYEOdOIdYOAaEcEOeUYEOdIIdYUAEcOdEUAbEOb",
     "bOdIYAObEcEObcOIcYObUcIcARAEAAbE d7cb:HANGULJONGSEONGNIEUNRIEULfCHIEUCHmSSANGTIKEUTaPIEUPqTI",
     "KEUTPIEUPfSIOSaKIYEOKkCIEUCeHIEUCHhTHIEUTHnRIEULSSANGKIYEOKlKIYEOKHIEUHqSSANGRIEULKHIEUKHrRI",
     "EULMIEUMHIEUHkPIEUPTIKEUTgPHIEUPHmYESIEUNGgORINHIEUHHIEUHvKAPYEOUNRIEULnMIEUMNIEUNfSSANGNIEU",
     "NpSSANGMIEUMkMIEUMPIEUPSIOSjCIEUCkPIEUPTIKEUTgRIEULPHIEUPHmMIEUMkSSANGPIEUPkPIEUPSIOSTIKEUTk",
     "CIEUCeHIEUCHmSIOSMIEUMfKAPYEOUNPIEUPqSANGSIOSKIYEOKgTIKEUToIOSPANSIOShCIEUCeHIEUCHhTHIEUTHhH",
     "IEUHjPANSIOSPIEUPfKAPYEOUNPIEUPuYESIEUNGMIEUMfHIEUHnCIEUCPIEUPfSSANGPIEUPpSSANGCIEUCkPHIEUPH",
     "SIOSeTHIEUTH fb00:LATINSMALLLIGATUREFFbIbLbFIbLdLONGSTgST fb13:ARMENIANSMALLLIGATUREMENNOWdE",
     "CHdINIgVEWNOWgMENXEH fb1d:HEBREWLETTERYODWITHHIRIQsPOINTJUDEOSPANISHVARIKAxLIGATUREYIDDISHYO",
     "DYODPATAHzETTERALTERNATIVEAYINpWIDEALEFeDALETfHEcKAFdLAMEDfFINALMEMiRESHeTAVhALTERNATIVEPLUS",
     "SIGNtSHINWITHSHINDOTgINDOTgDAGESHANDSHINDOTgINDOTxALEFWITHPATAHfQAMATSgMAPIQnBETWITHDAGESHnG",
     "IMELWITHDAGESHpDALETWITHDAGESHpHEWITHMAPIQlVAVWITHDAGESHnZAYINWITHDAGESH fb38:HEBREWLETTERTE",
     "TWITHDAGESHnYODWITHDAGESHnFINALKAFWITHDAGESHsKAFWITHDAGESHnLAMEDWITHDAGESH fb3e:HEBREWLETTER",
     "MEMWITHDAGESH fb40:HEBREWLETTERNUNWITHDAGESHnSAMEKHWITHDAGESH fb43:HEBREWLETTERFINALPEWITHDA",
     "GESHrPEWITHDAGESH fb46:HEBREWLETTERTSADIWITHDAGESHpQOFWITHDAGESHnRESHWITHDAGESHoSHINWITHDAGE",
     "SHoTAVWITHDAGESHnVAVWITHHOLAMmBETWITHRAFElKAFWITHRAFElPEWITHRAFEpIGATUREALEFLAMEDxARABICLETT",
     "ERALEFWASLAISOLATEDFORMmFINALFORMsBEEHISOLATEDFORMmFINALFORMjINITIALFORMlMEDIALFORMoPEHISOLA",
     "TEDFORMmFINALFORMjINITIALFORMlMEDIALFORMnBEHEHISOLATEDFORMmFINALFORMjINITIALFORMlMEDIALFORMp",
     "TTEHEHISOLATEDFORMmFINALFORMjINITIALFORMlMEDIALFORMpEHEHISOLATEDFORMmFINALFORMjINITIALFORMlM",
     "EDIALFORMoTEHISOLATEDFORMmFINALFORMjINITIALFORMlMEDIALFORMoVEHISOLATEDFORMmFINALFORMjINITIAL",
     "FORMlMEDIALFORMnPEHEHISOLATEDFORMmFINALFORMjINITIALFORMlMEDIALFORMpDYEHISOLATEDFORMmFINALFOR",
     "MjINITIALFORMlMEDIALFORMoNYEHISOLATEDFORMmFINALFORMjINITIALFORMlMEDIALFORMoTCHEHISOLATEDFORM",
     "mFINALFORMjINITIALFORMlMEDIALFORMkEHISOLATEDFORMmFINALFORMjINITIALFORMlMEDIALFORMrDDAHALISOL",
     "ATEDFORMmFINALFORMoAHALISOLATEDFORMmFINALFORMnULISOLATEDFORMmFINALFORMlDALISOLATEDFORMmFINAL",
     "FORMnJEHISOLATEDFORMmFINALFORMmRREHISOLATEDFORMmFINALFORMnKEHEHISOLATEDFORMmFINALFORMjINITIA",
     "LFORMlMEDIALFORMpGAFISOLATEDFORMmFINALFORMjINITIALFORMlMEDIALFORMmUEHISOLATEDFORMmFINALFORMj",
     "INITIALFORMlMEDIALFORMoNGOEHISOLATEDFORMmFINALFORMjINITIALFORMlMEDIALFORMoOONGHUNNAISOLATEDF",
     "ORMmFINALFORMtRNOONISOLATEDFORMmFINALFORMjINITIALFORMlMEDIALFORMpHEHWITHYEHABOVEISOLATEDFORM",
     "mFINALFORMvGOALISOLATEDFORMmFINALFORMjINITIALFORMlMEDIALFORMoDOACHASHMEEISOLATEDFORMmFINALFO",
     "RMjINITIALFORMlMEDIALFORMyYEHBARREEISOLATEDFORMmFINALFORMjWITHHAMZAABOVEISOLATEDFORMmFINALFO",
     "RM fbb2:ARABICSYMBOLDOTABOVEfBELOWiTWODOTSABOVEfBELOWlHREEDOTSABOVEfBELOWfPOINTINGDOWNWARDSA",
     "BOVEfBELOW fbba:ARABICSYMBOLFOURDOTSABOVEfBELOWnDOUBLEVERTICALBARBELOWwTWODOTSVERTICALLYABOV",
     "EfBELOWwRINGeSMALLTAHABOVEfBELOWnWASLAABOVE fbd3:ARABICLETTERNGISOLATEDFORMmFINALFORMjINITIA",
     "LFORMlMEDIALFORMmUISOLATEDFORMmFINALFORMkOEISOLATEDFORMmFINALFORMlYUISOLATEDFORMmFINALFORMlU",
     "WITHHAMZAABOVEISOLATEDFORM fbde:ARABICLETTERVEISOLATEDFORMmFINALFORMlKIRGHIZOEISOLATEDFORMmF",
     "INALFORMlYUISOLATEDFORMmFINALFORMsEISOLATEDFORMmFINALFORMjINITIALFORMlMEDIALFORMlUIGHURKAZAK",
     "HKIRGHIZALEFMAKSURAINITIALFORMlMEDIALFORM fbea:ARABICLIGATUREYEHWITHHAMZAABOVEWITHALEFISOLAT",
     "EDFORMmFINALFORMmEISOLATEDFORMmFINALFORMlWAWISOLATEDFORMmFINALFORMmUISOLATEDFORMmFINALFORMkO",
     "EISOLATEDFORMmFINALFORMlYUISOLATEDFORMmFINALFORMlEISOLATEDFORMmFINALFORMjINITIALFORM fbf9:AR",
     "ABICLIGATUREUIGHURKIRGHIZYEHWITHHAMZAABOVEWITHALEFMAKSURAISOLATEDFORMmFINALFORMjINITIALFORM ",
     "fbfc:ARABICLETTERFARSIYEHISOLATEDFORMmFINALFORMjINITIALFORMlMEDIALFORMxIGATUREYEHWITHHAMZAAB",
     "OVEWITHJEEMISOLATEDFORMqHAHISOLATEDFORMpMEEMISOLATEDFORMqALEFMAKSURAISOLATEDFORMxYEHISOLATED",
     "FORM fc05:ARABICLIGATUREBEHWITHJEEMISOLATEDFORMqHAHISOLATEDFORMpKHAHISOLATEDFORMqMEEMISOLATE",
     "DFORMqALEFMAKSURAISOLATEDFORMxYEHISOLATEDFORMwTEHWITHJEEMISOLATEDFORMqHAHISOLATEDFORMpKHAHIS",
     "OLATEDFORMqMEEMISOLATEDFORMqALEFMAKSURAISOLATEDFORMxYEHISOLATEDFORMvHEHWITHJEEMISOLATEDFORMq",
     "MEEMISOLATEDFORMqALEFMAKSURAISOLATEDFORMxYEHISOLATEDFORMxJEEMWITHHAHISOLATEDFORMpMEEMISOLATE",
     "DFORMyHAHWITHJEEMISOLATEDFORMqMEEMISOLATEDFORMxKHAHWITHJEEMISOLATEDFORMqHAHISOLATEDFORMpMEEM",
     "ISOLATEDFORMySEENWITHJEEMISOLATEDFORMqHAHISOLATEDFORMpKHAHISOLATEDFORMqMEEMISOLATEDFORMxADWI",
     "THHAHISOLATEDFORMpMEEMISOLATEDFORMxDADWITHJEEMISOLATEDFORMqHAHISOLATEDFORMpKHAHISOLATEDFORMq",
     "MEEMISOLATEDFORMxTAHWITHHAHISOLATEDFORMpMEEMISOLATEDFORMxZAHWITHMEEMISOLATEDFORMxAINWITHJEEM",
     "ISOLATEDFORMqMEEMISOLATEDFORMxGHAINWITHJEEMISOLATEDFORMqMEEMISOLATEDFORMzFEHWITHJEEMISOLATED",
     "FORMqHAHISOLATEDFORMpKHAHISOLATEDFORMqMEEMISOLATEDFORMqALEFMAKSURAISOLATEDFORMxYEHISOLATEDFO",
     "RMwQAFWITHHAHISOLATEDFORMpMEEMISOLATEDFORMqALEFMAKSURAISOLATEDFORMxYEHISOLATEDFORMwKAFWITHAL",
     "EFISOLATEDFORMqJEEMISOLATEDFORMqHAHISOLATEDFORMpKHAHISOLATEDFORMqLAMISOLATEDFORMpMEEMISOLATE",
     "DFORMqALEFMAKSURAISOLATEDFORMxYEHISOLATEDFORMwLAMWITHJEEMISOLATEDFORMqHAHISOLATEDFORMpKHAHIS",
     "OLATEDFORMqMEEMISOLATEDFORMqALEFMAKSURAISOLATEDFORMxYEHISOLATEDFORMwMEEMWITHJEEMISOLATEDFORM",
     "qHAHISOLATEDFORMpKHAHISOLATEDFORMqMEEMISOLATEDFORMqALEFMAKSURAISOLATEDFORMxYEHISOLATEDFORMxN",
     "OONWITHJEEMISOLATEDFORMqHAHISOLATEDFORMpKHAHISOLATEDFORMqMEEMISOLATEDFORMqALEFMAKSURAISOLATE",
     "DFORMxYEHISOLATEDFORMxHEHWITHJEEMISOLATEDFORMqMEEMISOLATEDFORMqALEFMAKSURAISOLATEDFORMxYEHIS",
     "OLATEDFORMwYEHWITHJEEMISOLATEDFORMqHAHISOLATEDFORMpKHAHISOLATEDFORMqMEEMISOLATEDFORMqALEFMAK",
     "SURAISOLATEDFORMxYEHISOLATEDFORMwTHALWITHSUPERSCRIPTALEFISOLATEDFORM fc5c:ARABICLIGATUREREHW",
     "ITHSUPERSCRIPTALEFISOLATEDFORM fc5d:ARABICLIGATUREALEFMAKSURAWITHSUPERSCRIPTALEFISOLATEDFORM",
     " fc5e:ARABICLIGATURESHADDAWITHDAMMATANISOLATEDFORMuKASRATANISOLATEDFORMuFATHAISOLATEDFORMrDA",
     "MMAISOLATEDFORMrKASRAISOLATEDFORMrSUPERSCRIPTALEFISOLATEDFORM fc64:ARABICLIGATUREYEHWITHHAMZ",
     "AABOVEWITHREHFINALFORMmZAINFINALFORMnMEEMFINALFORMnNOONFINALFORMnALEFMAKSURAFINALFORMuYEHFIN",
     "ALFORM fc6a:ARABICLIGATUREBEHWITHREHFINALFORMmZAINFINALFORMnMEEMFINALFORMnNOONFINALFORMnALEF",
     "MAKSURAFINALFORMuYEHFINALFORMtTEHWITHREHFINALFORMmZAINFINALFORMnMEEMFINALFORMnNOONFINALFORMn",
     "ALEFMAKSURAFINALFORMuYEHFINALFORMsHEHWITHREHFINALFORMmZAINFINALFORMnMEEMFINALFORMnNOONFINALF",
     "ORMnALEFMAKSURAFINALFORMuYEHFINALFORMuFEHWITHALEFMAKSURAFINALFORMuYEHFINALFORMtQAFWITHALEFMA",
     "KSURAFINALFORMuYEHFINALFORMtKAFWITHALEFFINALFORMnLAMFINALFORMmMEEMFINALFORMnALEFMAKSURAFINAL",
     "FORMuYEHFINALFORMtLAMWITHMEEMFINALFORMnALEFMAKSURAFINALFORMuYEHFINALFORMtMEEMWITHALEFFINALFO",
     "RMnMEEMFINALFORMvNOONWITHREHFINALFORMmZAINFINALFORMnMEEMFINALFORMnNOONFINALFORMnALEFMAKSURAF",
     "INALFORMuYEHFINALFORMuALEFMAKSURAWITHSUPERSCRIPTALEFFINALFORM fc91:ARABICLIGATUREYEHWITHREHF",
     "INALFORMmZAINFINALFORMnMEEMFINALFORMnNOONFINALFORMnALEFMAKSURAFINALFORMuYEHFINALFORMmHAMZAAB",
     "OVEWITHJEEMINITIALFORMpHAHINITIALFORMoKHAHINITIALFORMpMEEMINITIALFORMpHEHINITIALFORM fc9c:AR",
     "ABICLIGATUREBEHWITHJEEMINITIALFORMpHAHINITIALFORMoKHAHINITIALFORMpMEEMINITIALFORMpHEHINITIAL",
     "FORMvTEHWITHJEEMINITIALFORMpHAHINITIALFORMoKHAHINITIALFORMpMEEMINITIALFORMpHEHINITIALFORMuHE",
     "HWITHMEEMINITIALFORMxJEEMWITHHAHINITIALFORMoMEEMINITIALFORMxHAHWITHJEEMINITIALFORMpMEEMINITI",
     "ALFORMwKHAHWITHJEEMINITIALFORMpMEEMINITIALFORMxSEENWITHJEEMINITIALFORMpHAHINITIALFORMoKHAHIN",
     "ITIALFORMpMEEMINITIALFORMwADWITHHAHINITIALFORMoKHAHINITIALFORMpMEEMINITIALFORMwDADWITHJEEMIN",
     "ITIALFORMpHAHINITIALFORMoKHAHINITIALFORMpMEEMINITIALFORMwTAHWITHHAHINITIALFORMvZAHWITHMEEMIN",
     "ITIALFORMwAINWITHJEEMINITIALFORMpMEEMINITIALFORMwGHAINWITHJEEMINITIALFORMpMEEMINITIALFORMyFE",
     "HWITHJEEMINITIALFORMpHAHINITIALFORMoKHAHINITIALFORMpMEEMINITIALFORMwQAFWITHHAHINITIALFORMoME",
     "EMINITIALFORMwKAFWITHJEEMINITIALFORMpHAHINITIALFORMoKHAHINITIALFORMpLAMINITIALFORMoMEEMINITI",
     "ALFORMwLAMWITHJEEMINITIALFORMpHAHINITIALFORMoKHAHINITIALFORMpMEEMINITIALFORMpHEHINITIALFORMv",
     "MEEMWITHJEEMINITIALFORMpHAHINITIALFORMoKHAHINITIALFORMpMEEMINITIALFORMxNOONWITHJEEMINITIALFO",
     "RMpHAHINITIALFORMoKHAHINITIALFORMpMEEMINITIALFORMpHEHINITIALFORMwHEHWITHJEEMINITIALFORMpMEEM",
     "INITIALFORMpSUPERSCRIPTALEFINITIALFORM fcda:ARABICLIGATUREYEHWITHJEEMINITIALFORMpHAHINITIALF",
     "ORMoKHAHINITIALFORMpMEEMINITIALFORMpHEHINITIALFORMnAMZAABOVEWITHMEEMMEDIALFORMoHEHMEDIALFORM",
     " fce1:ARABICLIGATUREBEHWITHMEEMMEDIALFORMoHEHMEDIALFORMuTEHWITHMEEMMEDIALFORMoHEHMEDIALFORMt",
     "HEHWITHMEEMMEDIALFORMoHEHMEDIALFORMvSEENWITHMEEMMEDIALFORMoHEHMEDIALFORMuHEENWITHMEEMMEDIALF",
     "ORMoHEHMEDIALFORMwKAFWITHLAMMEDIALFORMnMEEMMEDIALFORMvLAMWITHMEEMMEDIALFORMvNOONWITHMEEMMEDI",
     "ALFORMoHEHMEDIALFORMvYEHWITHMEEMMEDIALFORMoHEHMEDIALFORMuSHADDAWITHFATHAMEDIALFORMpDAMMAMEDI",
     "ALFORMpKASRAMEDIALFORMzTAHWITHALEFMAKSURAISOLATEDFORMxYEHISOLATEDFORMwAINWITHALEFMAKSURAISOL",
     "ATEDFORMxYEHISOLATEDFORMwGHAINWITHALEFMAKSURAISOLATEDFORMxYEHISOLATEDFORMySEENWITHALEFMAKSUR",
     "AISOLATEDFORMxYEHISOLATEDFORMwHEENWITHALEFMAKSURAISOLATEDFORMxYEHISOLATEDFORMyHAHWITHALEFMAK",
     "SURAISOLATEDFORMxYEHISOLATEDFORMwJEEMWITHALEFMAKSURAISOLATEDFORMxYEHISOLATEDFORMxKHAHWITHALE",
     "FMAKSURAISOLATEDFORMxYEHISOLATEDFORMxSADWITHALEFMAKSURAISOLATEDFORMxYEHISOLATEDFORMwDADWITHA",
     "LEFMAKSURAISOLATEDFORMxYEHISOLATEDFORMwSHEENWITHJEEMISOLATEDFORMqHAHISOLATEDFORMpKHAHISOLATE",
     "DFORMqMEEMISOLATEDFORMqREHISOLATEDFORMxEENWITHREHISOLATEDFORMwADWITHREHISOLATEDFORMwDADWITHR",
     "EHISOLATEDFORMwTAHWITHALEFMAKSURAFINALFORMuYEHFINALFORMtAINWITHALEFMAKSURAFINALFORMuYEHFINAL",
     "FORMtGHAINWITHALEFMAKSURAFINALFORMuYEHFINALFORMvSEENWITHALEFMAKSURAFINALFORMuYEHFINALFORMtHE",
     "ENWITHALEFMAKSURAFINALFORMuYEHFINALFORMvHAHWITHALEFMAKSURAFINALFORMuYEHFINALFORMtJEEMWITHALE",
     "FMAKSURAFINALFORMuYEHFINALFORMuKHAHWITHALEFMAKSURAFINALFORMuYEHFINALFORMuSADWITHALEFMAKSURAF",
     "INALFORMuYEHFINALFORMtDADWITHALEFMAKSURAFINALFORMuYEHFINALFORMtSHEENWITHJEEMFINALFORMnHAHFIN",
     "ALFORMmKHAHFINALFORMnMEEMFINALFORMnREHFINALFORMuEENWITHREHFINALFORMtADWITHREHFINALFORMtDADWI",
     "THREHFINALFORMtSHEENWITHJEEMINITIALFORMpHAHINITIALFORMoKHAHINITIALFORMpMEEMINITIALFORMxEENWI",
     "THHEHINITIALFORMvHEENWITHHEHINITIALFORMxTAHWITHMEEMINITIALFORMwSEENWITHJEEMMEDIALFORMoHAHMED",
     "IALFORMnKHAHMEDIALFORMvHEENWITHJEEMMEDIALFORMoHAHMEDIALFORMnKHAHMEDIALFORMxTAHWITHMEEMMEDIAL",
     "FORMvZAHWITHMEEMMEDIALFORMvALEFWITHFATHATANFINALFORMjISOLATEDFORM fd3e:ORNATELEFTPARENTHESIS",
     "pRIGHTPARENTHESISwARABICLIGATURERAHIMAHUALLAAHmDIALLAAHUANHaAAcUMaAAdNNAsSALLALLAAHUALAYHIWA",
     "AALIHyALAYHIASSALAAMiMASSALAAMhAASSALAAMlASSALAATUWASSALAAMyQUDDISASIRRAHnSALLALLAHUALAYHIWA",
     "AALIHEEWASALLAM fd4d:ARABICLIGATUREALAYHAAASSALAAMpTABAARAKAWATAAALAAsRAHIMAHUMALLAAHpTEHWIT",
     "HJEEMWITHMEEMINITIALFORMxHAHWITHJEEMFINALFORMjINITIALFORMpMEEMINITIALFORMwKHAHWITHMEEMINITIA",
     "LFORMxMEEMWITHJEEMINITIALFORMpHAHINITIALFORMoKHAHINITIALFORM fd58:ARABICLIGATUREJEEMWITHMEEM",
     "WITHHAHFINALFORMjINITIALFORM fd5a:ARABICLIGATUREHAHWITHMEEMWITHYEHFINALFORMmALEFMAKSURAFINAL",
     "FORM fd5c:ARABICLIGATURESEENWITHHAHWITHJEEMINITIALFORMwJEEMWITHHAHINITIALFORMoALEFMAKSURAFIN",
     "ALFORM fd5f:ARABICLIGATURESEENWITHMEEMWITHHAHFINALFORMjINITIALFORMoJEEMINITIALFORMpMEEMFINAL",
     "FORMjINITIALFORM fd64:ARABICLIGATURESADWITHHAHWITHHAHFINALFORMjINITIALFORMvMEEMWITHMEEMFINAL",
     "FORM fd67:ARABICLIGATURESHEENWITHHAHWITHMEEMFINALFORMjINITIALFORMwJEEMWITHYEHFINALFORMuMEEMW",
     "ITHKHAHFINALFORMjINITIALFORMpMEEMFINALFORMjINITIALFORM fd6e:ARABICLIGATUREDADWITHHAHWITHALEF",
     "MAKSURAFINALFORM fd6f:ARABICLIGATUREDADWITHKHAHWITHMEEMFINALFORMjINITIALFORM fd71:ARABICLIGA",
     "TURETAHWITHMEEMWITHHAHFINALFORMjINITIALFORMoMEEMINITIALFORMpYEHFINALFORM fd75:ARABICLIGATURE",
     "AINWITHJEEMWITHMEEMFINALFORMvMEEMWITHMEEMFINALFORMjINITIALFORMpALEFMAKSURAFINALFORM fd79:ARA",
     "BICLIGATUREGHAINWITHMEEMWITHMEEMFINALFORMnYEHFINALFORMmALEFMAKSURAFINALFORM fd7c:ARABICLIGAT",
     "UREFEHWITHKHAHWITHMEEMFINALFORMjINITIALFORM fd7e:ARABICLIGATUREQAFWITHMEEMWITHHAHFINALFORMmM",
     "EEMFINALFORM fd80:ARABICLIGATURELAMWITHHAHWITHMEEMFINALFORMnYEHFINALFORMmALEFMAKSURAFINALFOR",
     "M fd83:ARABICLIGATURELAMWITHJEEMWITHJEEMINITIALFORMlFINALFORMvKHAHWITHMEEMFINALFORMjINITIALF",
     "ORMxMEEMWITHHAHFINALFORMjINITIALFORM fd89:ARABICLIGATUREMEEMWITHHAHWITHJEEMINITIALFORMpMEEMI",
     "NITIALFORMpYEHFINALFORMtJEEMWITHHAHINITIALFORMoMEEMINITIALFORMxKHAHWITHJEEMINITIALFORMpMEEMI",
     "NITIALFORM fd92:ARABICLIGATUREMEEMWITHJEEMWITHKHAHINITIALFORM fd93:ARABICLIGATUREHEHWITHMEEM",
     "WITHJEEMINITIALFORMpMEEMINITIALFORM fd95:ARABICLIGATURENOONWITHHAHWITHMEEMINITIALFORMpALEFMA",
     "KSURAFINALFORM fd97:ARABICLIGATURENOONWITHJEEMWITHMEEMFINALFORMjINITIALFORMpALEFMAKSURAFINAL",
     "FORM fd9a:ARABICLIGATURENOONWITHMEEMWITHYEHFINALFORMmALEFMAKSURAFINALFORM fd9c:ARABICLIGATUR",
     "EYEHWITHMEEMWITHMEEMFINALFORMjINITIALFORM fd9e:ARABICLIGATUREBEHWITHKHAHWITHYEHFINALFORM fd9",
     "f:ARABICLIGATURETEHWITHJEEMWITHYEHFINALFORMmALEFMAKSURAFINALFORM fda1:ARABICLIGATURETEHWITHK",
     "HAHWITHYEHFINALFORMmALEFMAKSURAFINALFORM fda3:ARABICLIGATURETEHWITHMEEMWITHYEHFINALFORMmALEF",
     "MAKSURAFINALFORM fda5:ARABICLIGATUREJEEMWITHMEEMWITHYEHFINALFORMuHAHWITHALEFMAKSURAFINALFORM",
     " fda7:ARABICLIGATUREJEEMWITHMEEMWITHALEFMAKSURAFINALFORM fda8:ARABICLIGATURESEENWITHKHAHWITH",
     "ALEFMAKSURAFINALFORM fda9:ARABICLIGATURESADWITHHAHWITHYEHFINALFORMzHEENWITHHAHWITHYEHFINALFO",
     "RM fdab:ARABICLIGATUREDADWITHHAHWITHYEHFINALFORM fdac:ARABICLIGATURELAMWITHJEEMWITHYEHFINALF",
     "ORMuMEEMWITHYEHFINALFORM fdae:ARABICLIGATUREYEHWITHHAHWITHYEHFINALFORMtJEEMWITHYEHFINALFORMu",
     "MEEMWITHYEHFINALFORM fdb1:ARABICLIGATUREMEEMWITHMEEMWITHYEHFINALFORM fdb2:ARABICLIGATUREQAFW",
     "ITHMEEMWITHYEHFINALFORM fdb3:ARABICLIGATURENOONWITHHAHWITHYEHFINALFORM fdb4:ARABICLIGATUREQA",
     "FWITHMEEMWITHHAHINITIALFORM fdb5:ARABICLIGATURELAMWITHHAHWITHMEEMINITIALFORM fdb6:ARABICLIGA",
     "TUREAINWITHMEEMWITHYEHFINALFORM fdb7:ARABICLIGATUREKAFWITHMEEMWITHYEHFINALFORM fdb8:ARABICLI",
     "GATURENOONWITHJEEMWITHHAHINITIALFORM fdb9:ARABICLIGATUREMEEMWITHKHAHWITHYEHFINALFORM fdba:AR",
     "ABICLIGATURELAMWITHJEEMWITHMEEMINITIALFORM fdbb:ARABICLIGATUREKAFWITHMEEMWITHMEEMFINALFORM f",
     "dbc:ARABICLIGATURELAMWITHJEEMWITHMEEMFINALFORM fdbd:ARABICLIGATURENOONWITHJEEMWITHHAHFINALFO",
     "RM fdbe:ARABICLIGATUREJEEMWITHHAHWITHYEHFINALFORM fdbf:ARABICLIGATUREHAHWITHJEEMWITHYEHFINAL",
     "FORM fdc0:ARABICLIGATUREMEEMWITHJEEMWITHYEHFINALFORM fdc1:ARABICLIGATUREFEHWITHMEEMWITHYEHFI",
     "NALFORM fdc2:ARABICLIGATUREBEHWITHHAHWITHYEHFINALFORM fdc3:ARABICLIGATUREKAFWITHMEEMWITHMEEM",
     "INITIALFORM fdc4:ARABICLIGATUREAINWITHJEEMWITHMEEMINITIALFORM fdc5:ARABICLIGATURESADWITHMEEM",
     "WITHMEEMINITIALFORM fdc6:ARABICLIGATURESEENWITHKHAHWITHYEHFINALFORM fdc7:ARABICLIGATURENOONW",
     "ITHJEEMWITHYEHFINALFORM fdcf:ARABICLIGATURESALAAMUHUALAYNAA fdf0:ARABICLIGATURESALLAUSEDASKO",
     "RANICSTOPSIGNISOLATEDFORM fdf1:ARABICLIGATUREQALAUSEDASKORANICSTOPSIGNISOLATEDFORM fdf2:ARAB",
     "ICLIGATUREALLAHISOLATEDFORMqKBARISOLATEDFORMrMOHAMMADISOLATEDFORMuSALAMISOLATEDFORMrRASOULIS",
     "OLATEDFORMsALAYHEISOLATEDFORMsWASALLAMISOLATEDFORMuSALLAISOLATEDFORMmLLAHOUALAYHEWASALLAMzJA",
     "LLAJALALOUHOU fdfc:RIALSIGNiARABICLIGATUREBISMILLAHARRAHMANARRAHEEMzSUBHAANAHUWATAAALAAtAZZA",
     "WAJALLyVARIATIONSELECTOR1b2b3b4b5b6b7b8b9b10b1b2b3b4b5b6tPRESENTATIONFORMFORVERTICALCOMMAfID",
     "EOGRAPHICCOMMAfFULLSTOPtCOLONfSEMICOLONjEXCLAMATIONMARKpQUESTIONMARKmLEFTWHITELENTICULARBRAC",
     "KET fe18:PRESENTATIONFORMFORVERTICALRIGHTWHITELENTICULARBRAKCET fe19:PRESENTATIONFORMFORVERT",
     "ICALHORIZONTALELLIPSIS fe20:COMBININGLIGATURELEFTHALFiRIGHTHALFrDOUBLETILDELEFTHALFiRIGHTHAL",
     "FuMACRONLEFTHALFiRIGHTHALFpCONJOININGMACRONqLIGATURELEFTHALFBELOWnRIGHTHALFBELOWwTILDELEFTHA",
     "LFBELOWnRIGHTHALFBELOWtMACRONLEFTHALFBELOWnRIGHTHALFBELOWuCONJOININGMACRONBELOWuYRILLICTITLO",
     "LEFTHALFiRIGHTHALF fe30:PRESENTATIONFORMFORVERTICALTWODOTLEADERmEMDASHfNDASHgLOWLINEhWAVYLOW",
     "LINElLEFTPARENTHESISpRIGHTPARENTHESISqLEFTCURLYBRACKETqRIGHTCURLYBRACKETrLEFTTORTOISESHELLBR",
     "ACKETyRIGHTTORTOISESHELLBRACKETzLEFTBLACKLENTICULARBRACKET fe3c:PRESENTATIONFORMFORVERTICALR",
     "IGHTBLACKLENTICULARBRACKET fe3d:PRESENTATIONFORMFORVERTICALLEFTDOUBLEANGLEBRACKETwRIGHTDOUBL",
     "EANGLEBRACKETxLEFTANGLEBRACKETqRIGHTANGLEBRACKETrLEFTCORNERBRACKETrRIGHTCORNERBRACKETsLEFTWH",
     "ITECORNERBRACKETwRIGHTWHITECORNERBRACKET fe45:SESAMEDOTjWHITESESAMEDOToPRESENTATIONFORMFORVE",
     "RTICALLEFTSQUAREBRACKETrRIGHTSQUAREBRACKET fe49:DASHEDOVERLINEoCENTRELINEOVERLINEsWAVYOVERLI",
     "NEmDOUBLEWAVYOVERLINErASHEDLOWLINEnCENTRELINELOWLINErWAVYLOWLINElSMALLCOMMAfIDEOGRAPHICCOMMA",
     "qFULLSTOP fe54:SMALLSEMICOLONjCOLONfQUESTIONMARKmEXCLAMATIONMARKoMDASHgLEFTPARENTHESISpRIGHT",
     "PARENTHESISqLEFTCURLYBRACKETqRIGHTCURLYBRACKETrLEFTTORTOISESHELLBRACKETyRIGHTTORTOISESHELLBR",
     "ACKETzNUMBERSIGNkAMPERSANDiSTERISKiPLUSSIGNiHYPHENMINUSlLESSTHANSIGNmGREATERTHANSIGNpEQUALSS",
     "IGN fe68:SMALLREVERSESOLIDUSoDOLLARSIGNkPERCENTSIGNlCOMMERCIALAT fe70:ARABICFATHATANISOLATED",
     "FORMuTATWEELWITHFATHATANABOVEyDAMMATANISOLATEDFORMuTAILFRAGMENTmKASRATANISOLATEDFORM fe76:AR",
     "ABICFATHAISOLATEDFORMmMEDIALFORMpDAMMAISOLATEDFORMmMEDIALFORMpKASRAISOLATEDFORMmMEDIALFORMpS",
     "HADDAISOLATEDFORMmMEDIALFORMpUKUNISOLATEDFORMmMEDIALFORMpLETTERHAMZAISOLATEDFORMrALEFWITHMAD",
     "DAABOVEISOLATEDFORMmFINALFORMtHAMZAABOVEISOLATEDFORMmFINALFORM fe85:ARABICLETTERWAWWITHHAMZA",
     "ABOVEISOLATEDFORMmFINALFORM fe87:ARABICLETTERALEFWITHHAMZABELOWISOLATEDFORMmFINALFORM fe89:A",
     "RABICLETTERYEHWITHHAMZAABOVEISOLATEDFORMmFINALFORMjINITIALFORMlMEDIALFORM fe8d:ARABICLETTERA",
     "LEFISOLATEDFORMmFINALFORMnBEHISOLATEDFORMmFINALFORMjINITIALFORMlMEDIALFORMnTEHMARBUTAISOLATE",
     "DFORMmFINALFORMqISOLATEDFORMmFINALFORMjINITIALFORMlMEDIALFORMmHEHISOLATEDFORMmFINALFORMjINIT",
     "IALFORMlMEDIALFORMoJEEMISOLATEDFORMmFINALFORMjINITIALFORMlMEDIALFORMoHAHISOLATEDFORMmFINALFO",
     "RMjINITIALFORMlMEDIALFORMnKHAHISOLATEDFORMmFINALFORMjINITIALFORMlMEDIALFORMoDALISOLATEDFORMm",
     "FINALFORMmTHALISOLATEDFORMmFINALFORMnREHISOLATEDFORMmFINALFORMmZAINISOLATEDFORMmFINALFORMnSE",
     "ENISOLATEDFORMmFINALFORMjINITIALFORMlMEDIALFORMnHEENISOLATEDFORMmFINALFORMjINITIALFORMlMEDIA",
     "LFORMoADISOLATEDFORMmFINALFORMjINITIALFORMlMEDIALFORMnDADISOLATEDFORMmFINALFORMjINITIALFORMl",
     "MEDIALFORMnTAHISOLATEDFORMmFINALFORMjINITIALFORMlMEDIALFORMnZAHISOLATEDFORMmFINALFORMjINITIA",
     "LFORMlMEDIALFORMnAINISOLATEDFORMmFINALFORMjINITIALFORMlMEDIALFORMnGHAINISOLATEDFORMmFINALFOR",
     "MjINITIALFORMlMEDIALFORMpFEHISOLATEDFORMmFINALFORMjINITIALFORMlMEDIALFORMnQAFISOLATEDFORMmFI",
     "NALFORMjINITIALFORMlMEDIALFORMnKAFISOLATEDFORMmFINALFORMjINITIALFORMlMEDIALFORMnLAMISOLATEDF",
     "ORMmFINALFORMjINITIALFORMlMEDIALFORMnMEEMISOLATEDFORMmFINALFORMjINITIALFORMlMEDIALFORMoNOONI",
     "SOLATEDFORMmFINALFORMjINITIALFORMlMEDIALFORMoHEHISOLATEDFORMmFINALFORMjINITIALFORMlMEDIALFOR",
     "MnWAWISOLATEDFORMmFINALFORMmALEFMAKSURAISOLATEDFORMmFINALFORMuYEHISOLATEDFORMmFINALFORMjINIT",
     "IALFORMlMEDIALFORMsIGATURELAMWITHALEFWITHMADDAABOVEISOLATEDFORMmFINALFORMtHAMZAABOVEISOLATED",
     "FORMmFINALFORMoBELOWISOLATEDFORMmFINALFORMxISOLATEDFORMmFINALFORM feff:ZEROWIDTHNOBREAKSPACE",
     " ff01:FULLWIDTHEXCLAMATIONMARKpQUOTATIONMARKnNUMBERSIGNkDOLLARSIGNkPERCENTSIGNlAMPERSANDiPOS",
     "TROPHEkLEFTPARENTHESISpRIGHTPARENTHESISqASTERISKiPLUSSIGNiCOMMAfHYPHENMINUSlFULLSTOPiSOLIDUS",
     "hDIGITZEROeONEdTWOcHREEfFOURdIVEeSIXcEVENfEIGHTfNINEjCOLONfSEMICOLONjLESSTHANSIGNmEQUALSSIGN",
     "kGREATERTHANSIGNpQUESTIONMARKmCOMMERCIALATmLATINCAPITALLETTERAbBbCbDbEbFbGbHbIbJbKbLbMbNbObP",
     "bQbRbSbTbUbVbWbXbYbZsEFTSQUAREBRACKETrREVERSESOLIDUSnIGHTSQUAREBRACKETsCIRCUMFLEXACCENTqLOWL",
     "INEhGRAVEACCENTlLATINSMALLLETTERAbBbCbDbEbFbGbHbIbJbKbLbMbNbObPbQbRbSbTbUbVbWbXbYbZqEFTCURLY",
     "BRACKETqVERTICALLINEmRIGHTCURLYBRACKETrTILDEfLEFTWHITEPARENTHESISuRIGHTWHITEPARENTHESIS ff61",
     ":HALFWIDTHIDEOGRAPHICFULLSTOPtLEFTCORNERBRACKETrRIGHTCORNERBRACKETsIDEOGRAPHICCOMMAqKATAKANA",
     "MIDDLEDOTjLETTERWOcSMALLAbIbUbEbObYAbUbOcTUnHIRAGANAPROLONGEDSOUNDMARK ff71:HALFWIDTHKATAKAN",
     "ALETTERAbIbUbEbObKAbIbUbEbOcSAbIbUbEbOcTAbIbUbEbOcNAbIbUbEbOcHAbIbUbEbOcMAbIbUbEbOcYAbUbOcRA",
     "bIbUbEbOcWAcNhVOICEDSOUNDMARKpSEMIVOICEDSOUNDMARK ffa0:HALFWIDTHHANGULFILLERgLETTERKIYEOKgSS",
     "ANGKIYEOKlKIYEOKSIOSkNIEUNaCIEUCfHIEUHkTIKEUTgSSANGTIKEUTlRIEULaKIYEOKgMIEUMfPIEUPfSIOSeTHIE",
     "UTHhPHIEUPHhHIEUHkMIEUMfPIEUPfSSANGPIEUPkPIEUPSIOSjSIOSdSANGSIOSjIEUNGfCIEUCfSSANGCIEUCkCHIE",
     "UCHhKHIEUKHhTHIEUTHhPHIEUPHhHIEUH ffc2:HALFWIDTHHANGULLETTERAaEcYAaEdEOb ffca:HALFWIDTHHANGU",
     "LLETTERYEObcObWAaEdOE ffd2:HALFWIDTHHANGULLETTERYOcUbWEObbIcYU ffda:HALFWIDTHHANGULLETTEREUc",
     "YIcI ffe0:FULLWIDTHCENTSIGNiPOUNDSIGNjNOTSIGNhMACRONgBROKENBARjYENSIGNhWONSIGN ffe8:HALFWIDT",
     "HFORMSLIGHTVERTICALsLEFTWARDSARROWoUPWARDSARROWmRIGHTWARDSARROWpDOWNWARDSARROWoBLACKSQUARElW",
     "HITECIRCLE fff9:INTERLINEARANNOTATIONANCHORgSEPARATORjTERMINATOR fffc:OBJECTREPLACEMENTCHARA",
     "CTER fffd:REPLACEMENTCHARACTER"]

end ScriptBundle.Text.CharacterName
