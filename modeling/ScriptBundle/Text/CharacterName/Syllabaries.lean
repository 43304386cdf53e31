/-!
# Names of syllabaries

Scripts of South-East Asia, Africa and America, and further Latin and Greek letters.
-/

namespace ScriptBundle.Text.CharacterName

/-- Names of the code points from 1000 to 1fff. -/
def syllabaryNames : List String :=
    ["1000:MYANMARLETTERKAbHAdGAbHAdNGAdCAbHAdJAbHAdNYAcNYAeTTAbHAeDDAbHAeNNAdTAbHAdDAbHAdNAcPAbHA",
     "dBAbHAdMAcYAcRAcLAcWAcSAcHAcLLAdAbSHANAfIaIcUaUcEbMONEeObAUiVOWELSIGNTALLAAgAAcIaIcUaUcEbAIc",
     "MONIIcOeEABOVEpSIGNANUSVARAiDOTBELOWiVISARGAfRAMAgASATiCONSONANTSIGNMEDIALYAcRAcWAcHAvLETTER",
     "GREATSAnDIGITZEROeONEdTWOcHREEfFOURdIVEeSIXcEVENfEIGHTfNINEjSIGNLITTLESECTIONnSECTIONkYMBOLL",
     "OCATIVEiCOMPLETEDjAFOREMENTIONEDoGENITIVEoLETTERSHAcSAdVOCALICRaRcLaLpVOWELSIGNVOCALICRaRcLa",
     "LsLETTERMONNGAdJHAdBBAbEmCONSONANTSIGNMONMEDIALNAcMAcLAyLETTERSGAWKARENSHAsVOWELSIGNSGAWKARE",
     "NEUuTONEMARKSGAWKARENHATHIfKEPHOwLETTERWESTERNPWOKARENTHAdPWAyVOWELSIGNWESTERNPWOKARENEUcUE ",
     "1069:MYANMARSIGNWESTERNPWOKARENTONE1b2b3b4b5yLETTEREASTERNPWOKARENNNAdYWAdGHWAzVOWELSIGNGEBA",
     "KARENIkKAYAHOEcUbEEqLETTERSHANKAbHAdGAcCAcZAcNYAdDAcNAcPHAdFAcBAcTHAdHAmCONSONANTSIGNSHANMED",
     "IALWAzVOWELSIGNSHANAAcEaABOVEgFINALYtSIGNSHANTONE2b3b5b6fCOUNCILTONE2b3fEMPHATICTONE 108e:MY",
     "ANMARLETTERRUMAIPALAUNGFAuSIGNRUMAIPALAUNGTONE5uHANDIGITZEROeONEdTWOcHREEfFOURdIVEeSIXcEVENf",
     "EIGHTfNINEmIGNKHAMTITONE1b3pVOWELSIGNAITONAaIqSYMBOLSHANONEdEXCLAMATION 10a0:GEORGIANCAPITAL",
     "LETTERANcBANdGANdDONdENcVINdZENdTANdINcKANdLASdMANdNARdONcPARdZHAReRAEdSANdTARdUNcPHAReKHARe",
     "GHANeQARdSHINeCHINdANdJILdCILcHAReXANdJHANeHAEcEbIEdWEcHARcOE 10c7:GEORGIANCAPITALLETTERYN 1",
     "0cd:GEORGIANCAPITALLETTERAEN 10d0:GEORGIANLETTERANcBANdGANdDONdENcVINdZENdTANdINcKANdLASdMAN",
     "dNARdONcPARdZHAReRAEdSANdTARdUNcPHAReKHAReGHANeQARdSHINeCHINdANdJILdCILcHAReXANdJHANeHAEcEbI",
     "EdWEcHARcOEdFIcYNcELIFIfTURNEDGANjAINjPARAGRAPHSEPARATOR 10fc:MODIFIERLETTERGEORGIANNARzGEOR",
     "GIANLETTERAENdHARDSIGNiLABIALSIGNyHANGULCHOSEONGKIYEOKgSSANGKIYEOKlNIEUNfTIKEUTgSSANGTIKEUTl",
     "RIEULfMIEUMfPIEUPfSSANGPIEUPjIOSdSANGSIOSjIEUNGfCIEUCfSSANGCIEUCkCHIEUCHhKHIEUKHhTHIEUTHhPHI",
     "EUPHhHIEUHfNIEUNKIYEOKlSSANGNIEUNkNIEUNTIKEUTgPIEUPkTIKEUTKIYEOKmRIEULNIEUNkSSANGRIEULkRIEUL",
     "HIEUHkKAPYEOUNRIEULnMIEUMPIEUPkKAPYEOUNMIEUMnPIEUPKIYEOKgNIEUNfTIKEUTgSIOSaKIYEOKgTIKEUTgPIE",
     "UPiSANGSIOSiIOSCIEUCjCIEUCeHIEUCHhTHIEUTHhPHIEUPHmKAPYEOUNPIEUPfSSANGPIEUPsSIOSKIYEOKgNIEUNf",
     "TIKEUTgRIEULfMIEUMfPIEUPaKIYEOKlSSANGSIOSjIEUNGfCIEUCeHIEUCHhKHIEUKHhTHIEUTHhPHIEUPHhHIEUHjC",
     "HITUEUMSIOSdSANGSIOSqEONGCHIEUMSIOSdSANGSIOSuPANSIOShIEUNGKIYEOKgTIKEUTgMIEUMfPIEUPfSIOSePAN",
     "SIOSmSSANGIEUNGkIEUNGCIEUCeHIEUCHhTHIEUTHhPHIEUPHmYESIEUNGiCIEUCIEUNGjHITUEUMCIEUCfSSANGCIEU",
     "CrEONGCHIEUMCIEUCfSSANGCIEUCuHIEUCHKHIEUKHhHIEUHjTUEUMCHIEUCHoEONGCHIEUMCHIEUCHsPHIEUPHPIEUP",
     "mKAPYEOUNPHIEUPHpSSANGHIEUHkYEORINHIEUHlKIYEOKTIKEUTmNIEUNSIOSeCIEUCfHIEUHkTIKEUTRIEULlFILLE",
     "RoJUNGSEONGFILLERgAaEcYAaEdEObbYEObcObWAaEdOEcYOcUbWEObbIcYUcEUcYIcIbAObUcYAObYOeEOObUbEUeYE",
     "OObUeOEOc-EcYEcObUcYOYAaEcEOdObIdUAaEcEOEUeYEcUcYUAbEObbYEObcUbIdEUUbEUeYIUdIAbYAcObUbEUcARA",
     "EAgARAEAaEOcUbIgSSANGARAEAkAEUdYAUcEOYAfOYAaEmONGSEONGKIYEOKgSSANGKIYEOKlKIYEOKSIOSkNIEUNaCI",
     "EUCfHIEUHkTIKEUTgRIEULaKIYEOKgMIEUMfPIEUPfSIOSeTHIEUTHhPHIEUPHhHIEUHkMIEUMfPIEUPaSIOSjSIOSdS",
     "ANGSIOSjIEUNGfCIEUCeHIEUCHhKHIEUKHhTHIEUTHhPHIEUPHhHIEUHfKIYEOKRIEULfSIOSKIYEOKqNIEUNKIYEOKg",
     "TIKEUTgSIOSePANSIOShTHIEUTHmTIKEUTKIYEOKgRIEULlRIEULKIYEOKSIOSkNIEUNfTIKEUTaHIEUHqSSANGRIEUL",
     "kRIEULMIEUMKIYEOKgSIOSjPIEUPSIOSeHIEUHkKAPYEOUNPIEUPnSSANGSIOSjPANSIOShKHIEUKHhYEORINHIEUHqM",
     "IEUMKIYEOKgRIEULfPIEUPfSIOSdSANGSIOSjPANSIOShCHIEUCHhHIEUHkKAPYEOUNMIEUMnPIEUPRIEULfPHIEUPHh",
     "HIEUHkKAPYEOUNPIEUPnSIOSKIYEOKgTIKEUTgRIEULfPIEUPjPANSIOShIEUNGKIYEOKgSSANGKIYEOKqSSANGIEUNG",
     "kIEUNGKHIEUKHmYESIEUNGaSIOSePANSIOSpPHIEUPHPIEUPmKAPYEOUNPHIEUPHpHIEUHNIEUNfRIEULfMIEUMfPIEU",
     "PkYEORINHIEUHlKIYEOKNIEUNfPIEUPfCHIEUCHhKHIEUKHhHIEUHlSSANGNIEUNzETHIOPICSYLLABLEHAbUbIbAAcE",
     "EbbOaAdLAbUbIbAAcEEbbObWAdHHAbUbIbAAcEEbbObWAeMAbUbIbAAcEEbbObWAdSZAbUbIbAAcEEbbObWAeRAbUbIb",
     "AAcEEbbObWAdSAbUbIbAAcEEbbObWAcHAbUbIbAAcEEbbObWAeQAbUbIbAAcEEbbOaAcWA 124a:ETHIOPICSYLLABLE",
     "QWIbAAcEEb 1250:ETHIOPICSYLLABLEQHAbUbIbAAcEEbbO 1258:ETHIOPICSYLLABLEQHWA 125a:ETHIOPICSYLL",
     "ABLEQHWIbAAcEEb 1260:ETHIOPICSYLLABLEBAbUbIbAAcEEbbObWAdVAbUbIbAAcEEbbObWAdTAbUbIbAAcEEbbObW",
     "AdCAbUbIbAAcEEbbObWAdXAbUbIbAAcEEbbOaAcWA 128a:ETHIOPICSYLLABLEXWIbAAcEEb 1290:ETHIOPICSYLLA",
     "BLENAbUbIbAAcEEbbObWAcYAbUbIbAAcEEbbObWAeGLOTTALAbUbIbAAcEEbbObWAjKAbUbIbAAcEEbbOaAcWA 12b2:",
     "ETHIOPICSYLLABLEKWIbAAcEEb 12b8:ETHIOPICSYLLABLEKXAbUbIbAAcEEbbO 12c0:ETHIOPICSYLLABLEKXWA 1",
     "2c2:ETHIOPICSYLLABLEKXWIbAAcEEb 12c8:ETHIOPICSYLLABLEWAbUbIbAAcEEbbOaAdPHARYNGEALAbUbIbAAcEE",
     "bbO 12d8:ETHIOPICSYLLABLEZAbUbIbAAcEEbbObWAcHAbUbIbAAcEEbbObWAeYAbUbIbAAcEEbbOaAdDAbUbIbAAcE",
     "EbbObWAcDAbUbIbAAcEEbbObWAeJAbUbIbAAcEEbbObWAdGAbUbIbAAcEEbbOaAcWA 1312:ETHIOPICSYLLABLEGWIb",
     "AAcEEb 1318:ETHIOPICSYLLABLEGGAbUbIbAAcEEbbObWAAfTHAbUbIbAAcEEbbObWAeCHAbUbIbAAcEEbbObWAePHA",
     "bUbIbAAcEEbbObWAeTSAbUbIbAAcEEbbObWAdZAbUbIbAAcEEbbOaAeFAbUbIbAAcEEbbObWAdPAbUbIbAAcEEbbObWA",
     "dRYAdMYAdFYA 135d:ETHIOPICCOMBININGGEMINATIONANDVOWELLENGTHMARK 135e:ETHIOPICCOMBININGVOWELL",
     "ENGTHMARKpGEMINATIONMARKxSECTIONMARKlWORDSPACEjFULLSTOPiCOMMAfSEMICOLONjCOLONfPREFACECOLONmQ",
     "UESTIONMARKmPARAGRAPHSEPARATORsDIGITONEdTWOcHREEfFOURdIVEeSIXcEVENfEIGHTfNINEjNUMBERTENcWENT",
     "YfHIRTYgFORTYeIFTYfSIXTYeEVENTYhEIGHTYgNINETYgHUNDREDhTENTHOUSAND 1380:ETHIOPICSYLLABLESEBAT",
     "BEITMWAmMWIbEEbdSEBATBEITBWAmBWIbEEbdSEBATBEITFWAmFWIbEEbdSEBATBEITPWAmPWIbEEblTONALMARKYIZE",
     "TfDERETfRIKRIKgSHORTRIKRIKlDIFATfKENATfCHIRETgHIDETfDERETHIDETkKURT 13a0:CHEROKEELETTERAbEbI",
     "bObUbVbGAcKAcGEbIbObUbVcHAbEbIbObUbVcLAbEbIbObUbVcMAbEbIbObUcNAcHNAdNAHcEbIbObUbVcQUAbEbIbOb",
     "UbVdSAbaEbIbObUbVcDAcTAcDEcTEcDIcTIcDObUbVbLAdTLAbEbIbObUbVcSAbEbIbObUbVdWAbEbIbObUbVcYAbEbI",
     "bObUbVcMV 13f8:CHEROKEESMALLLETTERYEbIbObUbVcMV 1400:CANADIANSYLLABICSHYPHENgEbAAIdIaIcOaOcY",
     "CREEOOhCARRIEREEcIiAaAcWEaSTCREEWEjIbESTCREEWIjIIcESTCREEWIIkObESTCREEWOjOOcESTCREEWOOlNASKA",
     "PIWOOkWAbESTCREEWAjAAcESTCREEWAAlNASKAPIWAAkAIcYCREEWgGLOTTALSTOPlFINALACUTEfGRAVEfBOTTOMHAL",
     "FRINGoTOPHALFRINGlRIGHTHALFRINGlNGeDOUBLEACUTEfSHORTVERTICALSTROKES 1427:CANADIANSYLLABICSFI",
     "NALMIDDLEDOTjSHORTHORIZONTALSTROKEvPLUSeDOWNTACKnENcINcONcANcPEbAAIdIaIcOaOdYCREEPOOiCARRIER",
     "HEEcIjPAaAcWEdWESTCREEPWElPWIdWESTCREEPWIlPWIIeWESTCREEPWIImPWOdWESTCREEPWOlPWOOeWESTCREEPWO",
     "OmPWAdWESTCREEPWAlPWAAeWESTCREEPWAAmYCREEPWAAjPbWESTCREEPjCARRIERHiTEbAAIdIaIcOaOdYCREETOOiC",
     "ARRIERDEEcIjTAaAcWEdWESTCREETWElTWIdWESTCREETWIlTWIIeWESTCREETWIImTWOdWESTCREETWOlTWOOeWESTC",
     "REETWOOmTWAdWESTCREETWAlTWAAeWESTCREETWAAmNASKAPITWAAlTaTEbIbObAdKEbAAIdIaIcOaOdYCREEKOOiKAa",
     "AcWEdWESTCREEKWElKWIdWESTCREEKWIlKWIIeWESTCREEKWIImKWOdWESTCREEKWOlKWOOeWESTCREEKWOOmKWAdWES",
     "TCREEKWAlKWAAeWESTCREEKWAAmNASKAPIKWAAlKaWcSOUTHSLAVEYKEHcIHcOHcAHoCEbAAIdIaIcOaOdYCREECOOiC",
     "AaAcWEdWESTCREECWElCWIdWESTCREECWIlCWIIeWESTCREECWIImCWOdWESTCREECWOlCWOOeWESTCREECWOOmCWAdW",
     "ESTCREECWAlCWAAeWESTCREECWAAmNASKAPICWAAlCbSAYISITHiMEbAAIdIaIcOaOdYCREEMOOiMAaAcWEdWESTCREE",
     "MWElMWIdWESTCREEMWIlMWIIeWESTCREEMWIImMWOdWESTCREEMWOlMWOOeWESTCREEMWOOmMWAdWESTCREEMWAlMWAA",
     "eWESTCREEMWAAmNASKAPIMWAAlMbWESTCREEMjMHcATHAPASCANMlSAYISIMhNEbAAIdIaIcOaOdYCREENOOiNAaAcWE",
     "dWESTCREENWElNWAdWESTCREENWAlNWAAeWESTCREENWAAmNASKAPINWAAkbCARRIERNGjNHcLEbAAIdIaIcOaOdYCRE",
     "ELOOiLAaAcWEdWESTCREELWElLWIdWESTCREELWIlLWIIeWESTCREELWIImLWOdWESTCREELWOlLWOOeWESTCREELWOO",
     "mLWAdWESTCREELWAlLWAAeWESTCREELWAAmLbWESTCREELjMEDIALLhSEbAAIdIaIcOaOdYCREESOOiSAaAcWEdWESTC",
     "REESWElSWIdWESTCREESWIlSWIIeWESTCREESWIImSWOdWESTCREESWOlSWOOeWESTCREESWOOmSWAdWESTCREESWAlS",
     "WAAeWESTCREESWAAmNASKAPISWAAlSbATHAPASCANSlSWcBLACKFOOTSkMOOSECREESKlNASKAPISKWcWbPWAdTWAdKW",
     "AdCWAlSHEbIaIcOaOcAaAcWEeWESTCREESHWEmSHWIeWESTCREESHWImSHWIIfWESTCREESHWIInSHWOeWESTCREESHW",
     "OmSHWOOfWESTCREESHWOOnSHWAeWESTCREESHWAmSHWAAfWESTCREESHWAAnSHcYEbAAIdIaIcOaOcCREEYOOhAaAcWE",
     "dWESTCREEYWElYWIdWESTCREEYWIlYWIIeWESTCREEYWIImYWOdWESTCREEYWOlYWOOeWESTCREEYWOOmYWAdWESTCRE",
     "EYWAlYWAAeWESTCREEYWAAmNASKAPIYWAAlYbBIBLECREEYkWESTCREEYjSAYISIYIiREbCREEREhWESTCREELEkRAAI",
     "dIaIcOaOdWESTCREELOkRAaAdWESTCREELAkRWAAeWESTCREERWAAmRbWESTCREERjMEDIALRhFEbAAIdIaIcOaOcAaA",
     "cWAAeWESTCREEFWAAmFbTHEdNCREETHEiTHIdNCREETHIiTHIIeNCREETHIIjTHOaOcAaAcWAAfWESTCREETHWAAnTHb",
     "THEbIbObAbcYEbIbObAdNUNAVIKHEbIaIcOaOcAaAcdUTHiHKcQAAIdIaIcOaOcAaAcbTLHEbIbObAeWESTCREEREbIb",
     "ObAkNGAAIdIaIcOaOcAaAcbNGdSAYISISHEbIbObAjWOODSCREETHEbIbObAblLHIaIcOaOcAaAccTHCREETHEbIaIcO",
     "aOcAaAciAIVILIKBiBLACKFOOTEbIbObAbWEbIbObAcNEbIbObAcKEbIbObAlSAYISIHEbIbObAiCARRIERGHUbObEaE",
     "cIbAdRUbObEaEcIbAcWUbObEaEcIbAcHWUbObEaEcIbAdTHUbObEaEcIbAcTUbObEaEcIbAdPUbObEaEcIbAbbGUbObE",
     "aEcIbAcKHUbObEaEcIbAcKUbObEaEcIbAbcNUbObEaEcIbAcMUbObEaEcIbAcYUbObEaEcIbAcJUjSAYISIJUiCARRIE",
     "RJObEaEcIjSAYISIJIiCARRIERJAbJUbObEaEcIbAdLUbObEaEcIbAcDLUbObEaEcIbAdLHUbObEaEcIbAdTLHUbObEa",
     "EcIbAcUbObEaEcIbAdZUbObEaEcIbAbbINITIALZiDZUbObEaEcIbAdSUbObEaEcIbAbHUbObEaEcIbAbcTSUbObEaEc",
     "IbAdCHUbObEaEcIbAdTTSUbObEaEcIbAkHISIGNhFULLSTOPiQAIdNGAIdNGIaIcOaOcAaAfWOODSCREETHWEEcIaIcO",
     "aOcAaAfFINALTHqBLACKFOOTW 1680:OGHAMSPACEMARKjLETTERBEITHfLUISeFEARNfSAILeNIONeUATHeDAIReTIN",
     "NEfCOLLdEIRTfMUINeGORTeNGEADALhSTRAIFgRUISeAILMeONNdURcEADHADHhIODHADHhEABHADHhORcUILLEANNiI",
     "FINeEAMHANCHOLLlPEITHlFEATHERMARKlREVERSEDFEATHERMARK 16a0:RUNICLETTERFEHUFEOHFEFlVbURUZURUh",
     "YRbbWbTHURISAZTHURSTHORNsETHdANSUZAgOSOdACAcESCeLONGBRANCHOSSOoSHORTTWIGOSSOnOaEbNcRAIDORADR",
     "EIDRnKAUNAfCENdKAUNKfGbENGdGEBOGYFUGiARdWUNJOWYNNWkHAGLAZHfEGLHgLONGBRANCHHAGALLHrSHORTTWIGH",
     "AGALLHqNAUDIZNYDNAUDNoSHORTTWIGNAUDNoDOTTEDNhISAZISISSIkEbJERANJgGERdLONGBRANCHARAEoSHORTTWI",
     "GARAmIWAZEOHhPERTHOPEORTHPnALGIZEOLHXkSOWILOSgIGELLONGBRANCHSOLSsHORTTWIGSOLSnCbZbTIWAZTIRTY",
     "RTmSHORTTWIGTYRTnDbBERKANANBEORCBJARKANBvSHORTTWIGBJARKANBrDOTTEDPhOPENPfEHWAZEHEiMANNAZMANM",
     "kLONGBRANCHMADRMpSHORTTWIGMADRMoLAUKAZLAGULOGRLpDOTTEDLhINGWAZddDAGAZDAEGDkOTHALANETHELOnEAR",
     "dIORdCWEORTHgALCdEALCfSTANeLONGBRANCHYRmSHORTTWIGYRlICELANDICYRlQbXhSINGLEPUNCTUATIONrMULTIP",
     "LEPUNCTUATIONtCROSSPUNCTUATIONqARLAUGSYMBOLmTVIMADURSYMBOLoBELGTHORSYMBOLoLETTERKbSHcOOcFRAN",
     "KSCASKETOScIScEHcACbESC 1700:TAGALOGLETTERAbIbUbKAcGAcNGAdTAcDAcNAcPAcBAcMAcYAcRAcLAcWAcSAcH",
     "AiVOWELSIGNIbUkSIGNVIRAMAgPAMUDPOD 171f:TAGALOGLETTERARCHAICRAwHANUNOOLETTERAbIbUbKAcGAcNGAd",
     "TAcDAcNAcPAcBAcMAcYAcRAcLAcWAcSAcHAiVOWELSIGNIbUkSIGNPAMUDPODtPHILIPPINESINGLEPUNCTUATIONrDO",
     "UBLEPUNCTUATION 1740:BUHIDLETTERAbIbUbKAcGAcNGAdTAcDAcNAcPAcBAcMAcYAcRAcLAcWAcSAcHAiVOWELSIG",
     "NIbU 1760:TAGBANWALETTERAbIbUbKAcGAcNGAdTAcDAcNAcPAcBAcMAcYA 176e:TAGBANWALETTERLAcWAcSA 177",
     "2:TAGBANWAVOWELSIGNIbU 1780:KHMERLETTERKAbHAcObHOdNGOdCAbHAcObHOdNYOdDAcTTHAeDOcTTHOeNNOdTAb",
     "HAcObHOdNOcBAcPHAcObHOdMOcYOcROcLOcVOcSHAcSOcAcHAcLAcQAiINDEPENDENTVOWELQAQbAcIaIcUaKbUaVeRY",
     "aYdLYaYdQEbAIcOOTYPEONEdTWOjAUtVOWELINHERENTAQbAkSIGNAAcIaIcYaYcUaUbAcOEcYAcIEcEbAEbIcOOcAUl",
     "SIGNNIKAHIThREAHMUKhYUUKALEAPINTUnMUUSIKATOANlTRIISAPhBANTOCgROBATfTOANDAKHIATlKAKABAThAHSDA",
     "fSAMYOKSANNYAmVIRIAMgCOENGfBATHAMASATkKHANeBARIYOOSANkCAMNUCPIIKUUHnLEKTOOgBEYYALgPHNAEKMUAN",
     "kKOOMUUTlCURRENCYSYMBOLRIELsSIGNAVAKRAHASANYAmTTHACAN 17e0:KHMERDIGITZEROeONEdTWOcHREEfFOURd",
     "IVEeSIXcEVENfEIGHTfNINE 17f0:KHMERSYMBOLLEKATTAKSONdMUOYePIIdBEIcUONePRAMaMUOYePIIdBEIcUON 1",
     "800:MONGOLIANBIRGAfELLIPSISiCOMMAfFULLSTOPiCOLONfFOURDOTSiTODOSOFTHYPHENoSIBESYLLABLEBOUNDAR",
     "YMARKER 1808:MONGOLIANMANCHUCOMMAfFULLSTOPoNIRUGUgFREEVARIATIONSELECTORONEdTWOcHREE 180e:MON",
     "GOLIANVOWELSEPARATORoFREEVARIATIONSELECTORFOURzDIGITZEROeONEdTWOcHREEfFOURdIVEeSIXcEVENfEIGH",
     "TfNINE 1820:MONGOLIANLETTERAbEbIbObUbOEcUEcEEcNAcANGdBAcPAcQAcGAcMAcLAcSAbHAdTAcDAcCHAdJAcYA",
     "cRAcWAcFAcKAbHAdTSAdZAcHAAdZRAdLHAdZHIdCHIdTODOLONGVOWELSIGNnEbIbObUbOEcUEcANGdBAcPAcQAcGAcM",
     "AcTAcDAcCHAdJAcTSAdYAcWAcKAcGAAdHAAdJIAdNIAdDZAhSIBEEbIaYcUEbbANGdKAcGAcHAcPAcSHAdTAcDAcJAcF",
     "AcGAAdHAAdTSAdZAcRAAdCHAdZHAhMANCHUIbKAcRAcFAcZHAjCHAWITHTWODOTS 1880:MONGOLIANLETTERALIGALI",
     "ANUSVARAONElVISARGAONEkDAMARUgUBADAMAhINVERTEDUBADAMApBALUDAgTHREEBALUDAlAbIbKAcNGAdCAcTTAbH",
     "AeDDAdNNAdTAcDAcPAbHAdSSAdZHAcAcAHjTODOALIGALITAcZHAoMANCHUALIGALIGHAdNGAdCAcJHAdTTAdDDHAeTA",
     "cDHAdSSAdCYAdZHAcApALIGALIHALFUbYAnMANCHUALIGALIBHAqALIGALIDAGALGAoMANCHUALIGALILHA 18b0:CAN",
     "ADIANSYLLABICSOYcAYbAYdWAYdPOYcAYcWOYeTAYdKAYcWAYeMAYdNOYcAYdLAYdSOYcAYcHOYcAYcWOYfYOYcAYdRA",
     "YdNWIdOJIBWAYNWIkNWIIeOJIBWAYNWIIlNWOdOJIBWAYNWOkNWOOeOJIBWAYNWOOlRWEEcIaIcOaOcAdOJIBWAYPbTb",
     "KbCbMbNbSaHjEASTERNWiWESTERNWiFINALSMALLRINGjRAISEDDOToRCREERWEiWESTCREELOOcAAlTHWEbAdTHWEcO",
     "OcAAeLHWEcOOfSAYISISHWEcOOeHOOjCARRIERGWUdDENEGEEhGAAcWAkSAYISIJUUjCARRIERJWAkBEAVERDENELbRl",
     "CARRIERDENTALS 1900:LIMBUVOWELCARRIERLETTERsLETTERKAbHAdGAbHAdNGAdCAbHAdJAbHAdYANdTAbHAdDAbH",
     "AdNAcPAbHAdBAbHAdMAcYAcRAcLAcWAcSHAcSAcAcHAcGYANeTRA 1920:LIMBUVOWELSIGNAbIbUbEEcAIcOOcAUcEb",
     "OkSUBJOINEDLETTERYAcRAcWA 1930:LIMBUSMALLLETTERKAcNGAdANUSVARAiTAcNAcPAcMAcRAcLAmIGNMUKPHREN",
     "GjKEMPHRENGjSAI 1940:LIMBUSIGNLOO 1944:LIMBUEXCLAMATIONMARKpQUESTIONMARKmDIGITZEROeONEdTWOcH",
     "REEfFOURdIVEeSIXcEVENfEIGHTfNINEoTAILELETTERKAcXAcNGAdTSAdSAcYAcTAbHAdLAcPAbHAdMAcFAcVAcHAcQ",
     "AcKHAdTSHAeNAcAbIbEEbHcUbOObbUEcEbAUEcI 1970:TAILELETTERTONE2b3b4b5b6 1980:NEWTAILUELETTERHI",
     "GHQAgLOWQAfHIGHKAcXAcNGAhLOWKAcXAcNGAgHIGHTSAdSAcYAgLOWTSAdSAcYAfHIGHTAbHAdNAgLOWTAbHAdNAfHI",
     "GHPAbHAdMAgLOWPAbHAdMAfHIGHFAcVAcLAgLOWFAcVAcLAfHIGHHAcDAcBAgLOWHAcDAcBAfHIGHKVAdXVAhLOWKVAd",
     "XVAgHIGHSUAhLOWSUA 19b0:NEWTAILUEVOWELSIGNVOWELSHORTENERoAAcIIcUaUcEbAEcOaAcUEcAYbAYdUYcOYbA",
     "YdUEYdIYlLETTERFINALVbNGbbMbKbDbBmTONEMARK1b2 19d0:NEWTAILUEDIGITZEROeONEdTWOcHREEfFOURdIVEe",
     "SIXcEVENfEIGHTfNINEjTHAMDIGITONE 19de:NEWTAILUESIGNLAEaVrKHMERSYMBOLPATHAMASATkMUOYKOETiPIIK",
     "OEThBEIKOETgUONKOETiPRAMKOETeMUOYKOETiPIIKOEThBEIKOETgUONKOETmDAPKOETeMUOYKOETiPIIKOEThBEIKO",
     "ETgUONKOETiPRAMKOETlTUTEYASATjMUOYROChPIIROCgBEIROCfUONROChPRAMROCdMUOYROChPIIROCgBEIROCfUON",
     "ROClDAPROCdMUOYROChPIIROCgBEIROCfUONROChPRAMROCvBUGINESELETTERKAcGAcNGAbKAePAcBAcMAbPAdTAcDA",
     "cNAbRAdCAcJAcNYAbCAeYAcRAcLAcVAcSAcAbHAiVOWELSIGNIbUbEbObAE 1a1e:BUGINESEPALLAWAhENDOFSECTIO",
     "NuTAITHAMLETTERHIGHKAbHAcXAhLOWKAbXAcHAgNGAdHIGHCAbHAhLOWCAcSAcCHAgNYAdRATAeHIGHRATHAjDAcLOW",
     "RATHAiRANAeHIGHTAbHAhLOWTAbHAgNAcBAcHIGHPAbHAdFAgLOWPAcFAcPHAgMAcLOWYAfHIGHYAgRAbUEdLAbUEdWA",
     "cHIGHSHAcSAcAcHAgLLAdAbLOWHAfIaIcUaUcEEcOOcLAEdGREATSAnCONSONANTSIGNMEDIALRAcLAiLATANGLAIwSI",
     "GNMAIKANGLAIoCONSONANTSIGNFINALNGAiLOWPAfHIGHRATHAORLOWPAqMAcBAcSA 1a60:TAITHAMSIGNSAKOTjVOW",
     "ELSIGNAbMAISATgAAcTALLAAgIaIcUEbUEcaUcOaABELOWgYcEbAEcOOcAIcTHAMAIgOAABOVEqSIGNMAIKANGhTONE1",
     "b2fKHUENTONE3b4b5kRAHAAMgMAISAMgKHUENLUEKARAN 1a7f:TAITHAMCOMBININGCRYPTOGRAMMICDOTzHORADIGI",
     "TZEROeONEdTWOcHREEfFOURdIVEeSIXcEVENfEIGHTfNINE 1a90:TAITHAMTHAMDIGITZEROeONEdTWOcHREEfFOURd",
     "IVEeSIXcEVENfEIGHTfNINE 1aa0:TAITHAMSIGNWIANGaWAAKjSAWANfKEOWeHOYdDOKMAIgREVERSEDROTATEDRANA",
     "tMAIYAMOKiKAANaKUUhSATKAANaKUUkHANGeCAANG 1ab0:COMBININGDOUBLEDCIRCUMFLEXACCENTwIAERESISRING",
     "nINFINITYiDOWNWARDSARROWoTRIPLEDOTjXXBELOWhWIGGLYLINEBELOWpOPENMARKBELOWnDOUBLEOPENMARKBELOW",
     "tLIGHTCENTRALIZATIONSTROKEBELOW 1aba:COMBININGSTRONGCENTRALIZATIONSTROKEBELOW 1abb:COMBINING",
     "PARENTHESESABOVEqDOUBLEPARENTHESESABOVEwPARENTHESESBELOWfOVERLAYsLATINSMALLLETTERWBELOWgTURN",
     "EDWBELOW 1ac1:COMBININGLEFTPARENTHESISABOVELEFTyRIGHTPARENTHESISABOVERIGHT 1ac3:COMBININGLEF",
     "TPARENTHESISBELOWLEFTyRIGHTPARENTHESISBELOWRIGHT 1ac5:COMBININGSQUAREBRACKETSABOVEtNUMBERSIG",
     "NABOVEpINVERTEDDOUBLEARCHABOVExPLUSSIGNABOVEnDOUBLEPLUSSIGNABOVEfBELOWtTRIPLEACUTEACCENTrLAT",
     "INSMALLLETTERINSULARGbRbT 1b00:BALINESESIGNULURICEMfCANDRAjCECEKfSURANGgBISAHjLETTERAKARAaTE",
     "DUNGlIKARAaTEDUNGlUKARAaTEDUNGlRAREPAaTEDUNGmLALENGAaTEDUNGnEKARAfAIKARAgOKARAaTEDUNGlKAaMAH",
     "APRANAlGAaGORAgNGAdCAaLACAgJAaJERAgNYAdTALATIKfMURDAMAHAPRANAqDAMURDAALPAPRANAjMAHAPRANAqNAR",
     "AMBATiTAaTAWAgDAaMADUgNAcPAaKAPALhBAaKEMBANGjMAcYAcRAcLAcWAcSASAGAcPAecHAiSIGNREREKANlVOWELS",
     "IGNTEDUNGgULUaSARIhSUKUaILUTiRAREPAaTEDUNGmLALENGAaTEDUNGnTALINGaREPAeTEDUNGgREPATEDUNGqPEPE",
     "TaTEDUNGuADEGADEGiLETTERKAFSASAKhHOTSASAKjTZIRSASAKjEFSASAKhVESASAKhZALSASAKiASYURASASAKkRCH",
     "AICJNYA 1b50:BALINESEDIGITZEROeONEdTWOcHREEfFOURdIVEeSIXcEVENfEIGHTfNINEjPANTIdMADAgWINDUfCA",
     "RIKPAMUNGKAHjSIKIePARERENmPAMENENGiMUSICALSYMBOLDONGdENGdUNGdANGaSURANGjINGdAENGeEUNGeAINGdN",
     "GGEDEiCOMBININGTEGEHfENDEPfKEMPULcLIgJEGOGANhKEMPULWITHJEGOGANnLIWITHJEGOGANrBENDEfGONGnRIGH",
     "THANDOPENDUGcAGhCLOSEDTUKcAKsLEFTHANDOPENPANGdUNGiCLOSEDPLAKcUKkOPENPING 1b7d:BALINESEPANTIL",
     "ANTANGkMADALANTANG 1b80:SUNDANESESIGNPANYECEKfGLAYARfWISADnLETTERAbIbUbAEcObEaUcKAcQAcGAcNGA",
     "dCAcJAcZAcNYAdTAcDAcNAcPAcFAcVAcBAcMAcYAcRAcLAcWAcSAcXAcHAiCONSONANTSIGNPAMINGKALhNYAKRAeIKU",
     "uVOWELSIGNPANGHULUfYUKUeAELAENGhOLONGgMEPETfNEULEUNGtSIGNPAMAAEHhVIRAMAkCONSONANTSIGNPASANGA",
     "NMAcWAxLETTERKHAdSYAjDIGITZEROeONEdTWOcHREEfFOURdIVEeSIXcEVENfEIGHTfNINEjAVAGRAHAiLETTERREUd",
     "LEUdBHAdFINALKbMvBATAKLETTERAbSIMALUNGUNAlHAcSIMALUNGUNHAmMANDAILINGHAmBAcKAROBAgPAcSIMALUNG",
     "UNPAmNAcMANDAILINGNAmWAcSIMALUNGUNWAmPAKPAKWAiGAcSIMALUNGUNGAmJAcDAcRAcSIMALUNGUNRAmMAcSIMAL",
     "UNGUNMAlOUTHERNTAkNORTHERNTAkSAbIMALUNGUNSAmMANDAILINGSAmYAcSIMALUNGUNYAmNGAdLAcSIMALUNGUNLA",
     "mNYAdCAcNDAdMBAdIbUhSIGNTOMPIjVOWELSIGNEbPAKPAKEhEEcIbKAROIfObKAROOfUaFORSIMALUNGUNSAzCONSON",
     "ANTSIGNNGcHoPANGOLATfONGONAN 1bfc:BATAKSYMBOLBINDUNAMETEKhPINARBORASkJUDULfPANGOLATyLEPCHALE",
     "TTERKAbLAcHAdGAbLAdNGAdCAbHAdJAcNYAdTAbHAdDAcNAcPAbLAcHAdFAbLAdBAbLAdMAbLAdTSAbHAeDZAdYAcRAc",
     "LAcHAbLAdVAcSAbHAdWAcAhSUBJOINEDLETTERYAcRArVOWELSIGNAAcIbOaOcUaUcEkCONSONANTSIGNKbMbLbNbPbR",
     "bTbNYINDOgKANGrSIGNRANdNUKTA 1c3b:LEPCHAPUNCTUATIONTAROLfNYETTHYOOMTAROLpCERWAfTSHOOKCERWAfr",
     "DIGITZEROeONEdTWOcHREEfFOURdIVEeSIXcEVENfEIGHTfNINE 1c4d:LEPCHALETTERTTAbHAeDDApOLCHIKIDIGIT",
     "ZEROeONEdTWOcHREEfFOURdIVEeSIXcEVENfEIGHTfNINEjLETTERLAcATbGbNGcLcLAAdAAKbJbMbWdLIcISbHbNYcR",
     "cLUcUCbDbNNcYcLEcEPbDDcNbRRdLOcOTTcBbVbHiMUTTUDDAGjGAAHLAATTUDDAAGpMUGAAHLAATTUDDAAGrRELAAfP",
     "HAARKAAiAHADePUNCTUATIONMUCAADgDOUBLEMUCAAD 1c80:CYRILLICSMALLLETTERROUNDEDVEjLONGLEGGEDDEmN",
     "ARROWOhWIDEESgTALLTEfHREELEGGEDTEmALLHARDSIGNiYAThUNBLENDEDUK 1c90:GEORGIANMTAVRULICAPITALLE",
     "TTERANcBANdGANdDONdENcVINdZENdTANdINcKANdLASdMANdNARdONcPARdZHAReRAEdSANdTARdUNcPHAReKHAReGH",
     "ANeQARdSHINeCHINdANdJILdCILcHAReXANdJHANeHAEcEbIEdWEcHARcOEdFIcYNcELIFIfTURNEDGANjAIN 1cbd:G",
     "EORGIANMTAVRULICAPITALLETTERAENdHARDSIGNiLABIALSIGN 1cc0:SUNDANESEPUNCTUATIONBINDUSURYAfPANG",
     "LONGhURNAMAhCAKRAfLEUSATANGAkKASATANGAjDASATANGAjBASATANGA 1cd0:VEDICTONEKARSHANAiSHARAfPREN",
     "KHAlSIGNNIHSHVASAjYAJURVEDICMIDLINESVARITA 1cd5:VEDICTONEYAJURVEDICAGGRAVATEDINDEPENDENTSVAR",
     "ITA 1cd6:VEDICTONEYAJURVEDICINDEPENDENTSVARITAsKATHAKAINDEPENDENTSVARITA 1cd8:VEDICTONECANDR",
     "ABELOWlYAJURVEDICKATHAKAINDEPENDENTSVARITASCHROEDER 1cda:VEDICTONEDOUBLESVARITAnTRIPLESVARIT",
     "AnKATHAKAANUDATTApDOTBELOWiTWODOTSBELOWlHREEDOTSBELOWoRIGVEDICKASHMIRIINDEPENDENTSVARITA 1ce",
     "1:VEDICTONEATHARVAVEDICINDEPENDENTSVARITA 1ce2:VEDICSIGNVISARGASVARITAhUDATTAnREVERSEDVISARG",
     "AUDATTAvVISARGAANUDATTApREVERSEDVISARGAANUDATTAxVISARGAUDATTAWITHTAILoANUDATTAWITHTAILxANUSV",
     "ARAANTARGOMUKHAmBAHIRGOMUKHAmVAMAGOMUKHAaWITHTAIL 1ced:VEDICSIGNTIRYAKgHEXIFORMLONGANUSVARAu",
     "LONGANUSVARAmRTHANGLONGANUSVARAsANUSVARAUBHAYATOMUKHAuRDHAVISARGAmROTATEDARDHAVISARGAxTONECA",
     "NDRAABOVEpSIGNJIHVAMULIYAlUPADHMANIYAlATIKRAMAmTONERINGABOVEjDOUBLERINGABOVEtSIGNDOUBLEANUSV",
     "ARAANTARGOMUKHA 1d00:LATINLETTERSMALLCAPITALAaEuSMALLLETTERTURNEDAEtLETTERSMALLCAPITALBARRED",
     "BhCbDbETHctSMALLLETTERTURNEDOPENEfIsLETTERSMALLCAPITALJbKbLWITHSTROKElMbREVERSEDNjOaPENOxSMA",
     "LLLETTERSIDEWAYSOaPENOeWITHSTROKEtTURNEDOEtLETTERSMALLCAPITALOUuSMALLLETTERTOPHALFOiBOTTOMHA",
     "LFOwLETTERSMALLCAPITALPbREVERSEDRjTURNEDRgbUtSMALLLETTERSIDEWAYSUbDIAERESIZEDUmTURNEDM 1d20:",
     "LATINLETTERSMALLCAPITALVbWbZbEZHpVOICEDLARYNGEALSPIRANTwAINoGREEKLETTERSMALLCAPITALGAMMAfLAM",
     "DAfPIcRHOdPSI 1d2b:CYRILLICLETTERSMALLCAPITALEL 1d2c:MODIFIERLETTERCAPITALAaEcBaARREDBhDbEbR",
     "EVERSEDEjGbHbIbJbKbLbMbNbREVERSEDNjOaUcPbRbTbUbWiSMALLAbTURNEDAhALPHAfTURNEDAEiBbDbEbSCHWAfO",
     "PENEfTURNEDOPENElGbTURNEDIhKbMbENGdOaPENOfTOPHALFOiBOTTOMHALFOlPbTbUbSIDEWAYSUjTURNEDMhVbAIN",
     "dBETAeGREEKGAMMAkDELTAfGREEKPHIiCHIwLATINSUBSCRIPTSMALLLETTERIbRbUbV 1d66:GREEKSUBSCRIPTSMAL",
     "LLETTERBETAeGAMMAfRHOdPHIdCHI 1d6b:LATINSMALLLETTERUEcBWITHMIDDLETILDEqDWITHMIDDLETILDEqFWIT",
     "HMIDDLETILDEqMWITHMIDDLETILDEqNWITHMIDDLETILDEqPWITHMIDDLETILDEqRWITHMIDDLETILDElFISHHOOKAND",
     "MIDDLETILDE 1d74:LATINSMALLLETTERSWITHMIDDLETILDEqTWITHMIDDLETILDEqZWITHMIDDLETILDEqTURNEDGx",
     "MODIFIERLETTERCYRILLICENyLATINSMALLLETTERINSULARGiTHWITHSTRIKETHROUGHzCAPITALLETTERIWITHSTRO",
     "KEyLETTERIOTAWITHSTROKEoPWITHSTROKErCAPITALLETTERUWITHSTROKEyLETTERUPSILONWITHSTROKErBWITHPA",
     "LATALHOOKqDWITHPALATALHOOKqFWITHPALATALHOOKqGWITHPALATALHOOKqKWITHPALATALHOOKqLWITHPALATALHO",
     "OKqMWITHPALATALHOOKqNWITHPALATALHOOKqPWITHPALATALHOOKqRWITHPALATALHOOKqSWITHPALATALHOOKqESHW",
     "ITHPALATALHOOKsVWITHPALATALHOOKqXWITHPALATALHOOKqZWITHPALATALHOOKqAWITHRETROFLEXHOOKrLPHAWIT",
     "HRETROFLEXHOOKwDWITHHOOKANDTAILqEWITHRETROFLEXHOOKsOPENEWITHRETROFLEXHOOKwREVERSEDOPENEWITHR",
     "ETROFLEXHOOK 1d95:LATINSMALLLETTERSCHWAWITHRETROFLEXHOOKwIWITHRETROFLEXHOOKsOPENOWITHRETROFL",
     "EXHOOKwESHWITHRETROFLEXHOOKuUWITHRETROFLEXHOOKsEZHWITHRETROFLEXHOOK 1d9b:MODIFIERLETTERSMALL",
     "TURNEDALPHAlCaWITHCURLjETHdREVERSEDOPENEnFbDOTLESSJWITHSTROKEsSCRIPTGhTURNEDHhIWITHSTROKEkOT",
     "AeCAPITALIaWITHSTROKEsJWITHCROSSEDTAILqLWITHRETROFLEXHOOKnPALATALHOOKqCAPITALLiMWITHHOOKjTUR",
     "NEDMWITHLONGLEGsNWITHLEFTHOOKiRETROFLEXHOOKsCAPITALNiBARREDOhPHIdSWITHHOOKjESHdTWITHPALATALH",
     "OOKqUBARdPSILONhCAPITALUiVWITHHOOKjTURNEDVhZaWITHRETROFLEXHOOKnCURLjEZHdTHETAyCOMBININGDOTTE",
     "DGRAVEACCENTlACUTEACCENTrSNAKEBELOWjUSPENSIONMARKoMACRONACUTElGRAVEMACRONlMACRONGRAVElACUTEM",
     "ACRONlGRAVEACUTEGRAVEpACUTEGRAVEACUTEpLATINSMALLLETTERRBELOWwBREVEMACRONlMACRONBREVElDOUBLEC",
     "IRCUMFLEXABOVEvOGONEKABOVElZIGZAGBELOWlISBELOWhURABOVEgSABOVEhLATINSMALLLETTERFLATTENEDOPENA",
     "ABOVEtAEbObVcCCEDILLAiINSULARDiETHdGmLETTERSMALLCAPITALGtSMALLLETTERKbLmLETTERSMALLCAPITALLb",
     "MtSMALLLETTERNmLETTERSMALLCAPITALNbRtSMALLLETTERRROTUNDAiSbLONGSfZbALPHAfBaETAeSCHWAfFbLWITH",
     "DOUBLEMIDDLETILDEwOWITHLIGHTCENTRALIZATIONSTROKE 1dee:COMBININGLATINSMALLLETTERPbESHdUWITHLI",
     "GHTCENTRALIZATIONSTROKE 1df1:COMBININGLATINSMALLLETTERWbAWITHDIAERESISoOWITHDIAERESISoUWITHD",
     "IAERESIS 1df5:COMBININGUPTACKABOVElKAVYKAABOVERIGHTfLEFTpDOTABOVELEFTmWIDEINVERTEDBRIDGEBELO",
     "WxDOTBELOWLEFTlELETIONMARKlOUBLEINVERTEDBREVEBELOWyALMOSTEQUALTOBELOWsLEFTARROWHEADABOVEsRIG",
     "HTARROWHEADANDDOWNARROWHEADBELOW 1e00:LATINCAPITALLETTERAWITHRINGBELOW 1e01:LATINSMALLLETTER",
     "AWITHRINGBELOWzCAPITALLETTERBWITHDOTABOVE 1e03:LATINSMALLLETTERBWITHDOTABOVEyCAPITALLETTERBW",
     "ITHDOTBELOW 1e05:LATINSMALLLETTERBWITHDOTBELOWyCAPITALLETTERBWITHLINEBELOW 1e07:LATINSMALLLE",
     "TTERBWITHLINEBELOWzCAPITALLETTERCWITHCEDILLAANDACUTE 1e09:LATINSMALLLETTERCWITHCEDILLAANDACU",
     "TE 1e0a:LATINCAPITALLETTERDWITHDOTABOVE 1e0b:LATINSMALLLETTERDWITHDOTABOVEyCAPITALLETTERDWIT",
     "HDOTBELOW 1e0d:LATINSMALLLETTERDWITHDOTBELOWyCAPITALLETTERDWITHLINEBELOW 1e0f:LATINSMALLLETT",
     "ERDWITHLINEBELOWzCAPITALLETTERDWITHCEDILLAzSMALLLETTERDWITHCEDILLAxCAPITALLETTERDWITHCIRCUMF",
     "LEXBELOW 1e13:LATINSMALLLETTERDWITHCIRCUMFLEXBELOW 1e14:LATINCAPITALLETTEREWITHMACRONANDGRAV",
     "E 1e15:LATINSMALLLETTEREWITHMACRONANDGRAVE 1e16:LATINCAPITALLETTEREWITHMACRONANDACUTE 1e17:L",
     "ATINSMALLLETTEREWITHMACRONANDACUTE 1e18:LATINCAPITALLETTEREWITHCIRCUMFLEXBELOW 1e19:LATINSMA",
     "LLLETTEREWITHCIRCUMFLEXBELOW 1e1a:LATINCAPITALLETTEREWITHTILDEBELOW 1e1b:LATINSMALLLETTEREWI",
     "THTILDEBELOW 1e1c:LATINCAPITALLETTEREWITHCEDILLAANDBREVE 1e1d:LATINSMALLLETTEREWITHCEDILLAAN",
     "DBREVE 1e1e:LATINCAPITALLETTERFWITHDOTABOVE 1e1f:LATINSMALLLETTERFWITHDOTABOVEyCAPITALLETTER",
     "GWITHMACRONySMALLLETTERGWITHMACRONwCAPITALLETTERHWITHDOTABOVE 1e23:LATINSMALLLETTERHWITHDOTA",
     "BOVEyCAPITALLETTERHWITHDOTBELOW 1e25:LATINSMALLLETTERHWITHDOTBELOWyCAPITALLETTERHWITHDIAERES",
     "IS 1e27:LATINSMALLLETTERHWITHDIAERESISzCAPITALLETTERHWITHCEDILLAzSMALLLETTERHWITHCEDILLAxCAP",
     "ITALLETTERHWITHBREVEBELOW 1e2b:LATINSMALLLETTERHWITHBREVEBELOW 1e2c:LATINCAPITALLETTERIWITHT",
     "ILDEBELOW 1e2d:LATINSMALLLETTERIWITHTILDEBELOW 1e2e:LATINCAPITALLETTERIWITHDIAERESISANDACUTE",
     " 1e2f:LATINSMALLLETTERIWITHDIAERESISANDACUTE 1e30:LATINCAPITALLETTERKWITHACUTExSMALLLETTERKW",
     "ITHACUTEvCAPITALLETTERKWITHDOTBELOW 1e33:LATINSMALLLETTERKWITHDOTBELOWyCAPITALLETTERKWITHLIN",
     "EBELOW 1e35:LATINSMALLLETTERKWITHLINEBELOWzCAPITALLETTERLWITHDOTBELOW 1e37:LATINSMALLLETTERL",
     "WITHDOTBELOWyCAPITALLETTERLWITHDOTBELOWANDMACRON 1e39:LATINSMALLLETTERLWITHDOTBELOWANDMACRON",
     " 1e3a:LATINCAPITALLETTERLWITHLINEBELOW 1e3b:LATINSMALLLETTERLWITHLINEBELOWzCAPITALLETTERLWIT",
     "HCIRCUMFLEXBELOW 1e3d:LATINSMALLLETTERLWITHCIRCUMFLEXBELOW 1e3e:LATINCAPITALLETTERMWITHACUTE",
     "xSMALLLETTERMWITHACUTEvCAPITALLETTERMWITHDOTABOVE 1e41:LATINSMALLLETTERMWITHDOTABOVEyCAPITAL",
     "LETTERMWITHDOTBELOW 1e43:LATINSMALLLETTERMWITHDOTBELOWyCAPITALLETTERNWITHDOTABOVE 1e45:LATIN",
     "SMALLLETTERNWITHDOTABOVEyCAPITALLETTERNWITHDOTBELOW 1e47:LATINSMALLLETTERNWITHDOTBELOWyCAPIT",
     "ALLETTERNWITHLINEBELOW 1e49:LATINSMALLLETTERNWITHLINEBELOWzCAPITALLETTERNWITHCIRCUMFLEXBELOW",
     " 1e4b:LATINSMALLLETTERNWITHCIRCUMFLEXBELOW 1e4c:LATINCAPITALLETTEROWITHTILDEANDACUTE 1e4d:LA",
     "TINSMALLLETTEROWITHTILDEANDACUTE 1e4e:LATINCAPITALLETTEROWITHTILDEANDDIAERESIS 1e4f:LATINSMA",
     "LLLETTEROWITHTILDEANDDIAERESIS 1e50:LATINCAPITALLETTEROWITHMACRONANDGRAVE 1e51:LATINSMALLLET",
     "TEROWITHMACRONANDGRAVE 1e52:LATINCAPITALLETTEROWITHMACRONANDACUTE 1e53:LATINSMALLLETTEROWITH",
     "MACRONANDACUTE 1e54:LATINCAPITALLETTERPWITHACUTExSMALLLETTERPWITHACUTEvCAPITALLETTERPWITHDOT",
     "ABOVE 1e57:LATINSMALLLETTERPWITHDOTABOVEyCAPITALLETTERRWITHDOTABOVE 1e59:LATINSMALLLETTERRWI",
     "THDOTABOVEyCAPITALLETTERRWITHDOTBELOW 1e5b:LATINSMALLLETTERRWITHDOTBELOWyCAPITALLETTERRWITHD",
     "OTBELOWANDMACRON 1e5d:LATINSMALLLETTERRWITHDOTBELOWANDMACRON 1e5e:LATINCAPITALLETTERRWITHLIN",
     "EBELOW 1e5f:LATINSMALLLETTERRWITHLINEBELOWzCAPITALLETTERSWITHDOTABOVE 1e61:LATINSMALLLETTERS",
     "WITHDOTABOVEyCAPITALLETTERSWITHDOTBELOW 1e63:LATINSMALLLETTERSWITHDOTBELOWyCAPITALLETTERSWIT",
     "HACUTEANDDOTABOVE 1e65:LATINSMALLLETTERSWITHACUTEANDDOTABOVE 1e66:LATINCAPITALLETTERSWITHCAR",
     "ONANDDOTABOVE 1e67:LATINSMALLLETTERSWITHCARONANDDOTABOVE 1e68:LATINCAPITALLETTERSWITHDOTBELO",
     "WANDDOTABOVE 1e69:LATINSMALLLETTERSWITHDOTBELOWANDDOTABOVE 1e6a:LATINCAPITALLETTERTWITHDOTAB",
     "OVE 1e6b:LATINSMALLLETTERTWITHDOTABOVEyCAPITALLETTERTWITHDOTBELOW 1e6d:LATINSMALLLETTERTWITH",
     "DOTBELOWyCAPITALLETTERTWITHLINEBELOW 1e6f:LATINSMALLLETTERTWITHLINEBELOWzCAPITALLETTERTWITHC",
     "IRCUMFLEXBELOW 1e71:LATINSMALLLETTERTWITHCIRCUMFLEXBELOW 1e72:LATINCAPITALLETTERUWITHDIAERES",
     "ISBELOW 1e73:LATINSMALLLETTERUWITHDIAERESISBELOW 1e74:LATINCAPITALLETTERUWITHTILDEBELOW 1e75",
     ":LATINSMALLLETTERUWITHTILDEBELOW 1e76:LATINCAPITALLETTERUWITHCIRCUMFLEXBELOW 1e77:LATINSMALL",
     "LETTERUWITHCIRCUMFLEXBELOW 1e78:LATINCAPITALLETTERUWITHTILDEANDACUTE 1e79:LATINSMALLLETTERUW",
     "ITHTILDEANDACUTE 1e7a:LATINCAPITALLETTERUWITHMACRONANDDIAERESIS 1e7b:LATINSMALLLETTERUWITHMA",
     "CRONANDDIAERESIS 1e7c:LATINCAPITALLETTERVWITHTILDExSMALLLETTERVWITHTILDEvCAPITALLETTERVWITHD",
     "OTBELOW 1e7f:LATINSMALLLETTERVWITHDOTBELOWyCAPITALLETTERWWITHGRAVExSMALLLETTERWWITHGRAVEvCAP",
     "ITALLETTERWWITHACUTExSMALLLETTERWWITHACUTEvCAPITALLETTERWWITHDIAERESIS 1e85:LATINSMALLLETTER",
     "WWITHDIAERESISzCAPITALLETTERWWITHDOTABOVE 1e87:LATINSMALLLETTERWWITHDOTABOVEyCAPITALLETTERWW",
     "ITHDOTBELOW 1e89:LATINSMALLLETTERWWITHDOTBELOWyCAPITALLETTERXWITHDOTABOVE 1e8b:LATINSMALLLET",
     "TERXWITHDOTABOVEyCAPITALLETTERXWITHDIAERESIS 1e8d:LATINSMALLLETTERXWITHDIAERESISzCAPITALLETT",
     "ERYWITHDOTABOVE 1e8f:LATINSMALLLETTERYWITHDOTABOVEyCAPITALLETTERZWITHCIRCUMFLEX 1e91:LATINSM",
     "ALLLETTERZWITHCIRCUMFLEX 1e92:LATINCAPITALLETTERZWITHDOTBELOW 1e93:LATINSMALLLETTERZWITHDOTB",
     "ELOWyCAPITALLETTERZWITHLINEBELOW 1e95:LATINSMALLLETTERZWITHLINEBELOWoHWITHLINEBELOWoTWITHDIA",
     "ERESISoWWITHRINGABOVEoYWITHRINGABOVEoAWITHRIGHTHALFRINGsLONGSWITHDOTABOVEhIAGONALSTROKEoHIGH",
     "STROKE 1e9e:LATINCAPITALLETTERSHARPStSMALLLETTERDELTAqCAPITALLETTERAWITHDOTBELOW 1ea1:LATINS",
     "MALLLETTERAWITHDOTBELOWyCAPITALLETTERAWITHHOOKABOVE 1ea3:LATINSMALLLETTERAWITHHOOKABOVEzCAPI",
     "TALLETTERAWITHCIRCUMFLEXANDACUTE 1ea5:LATINSMALLLETTERAWITHCIRCUMFLEXANDACUTE 1ea6:LATINCAPI",
     "TALLETTERAWITHCIRCUMFLEXANDGRAVE 1ea7:LATINSMALLLETTERAWITHCIRCUMFLEXANDGRAVE 1ea8:LATINCAPI",
     "TALLETTERAWITHCIRCUMFLEXANDHOOKABOVE 1ea9:LATINSMALLLETTERAWITHCIRCUMFLEXANDHOOKABOVE 1eaa:L",
     "ATINCAPITALLETTERAWITHCIRCUMFLEXANDTILDE 1eab:LATINSMALLLETTERAWITHCIRCUMFLEXANDTILDE 1eac:L",
     "ATINCAPITALLETTERAWITHCIRCUMFLEXANDDOTBELOW 1ead:LATINSMALLLETTERAWITHCIRCUMFLEXANDDOTBELOW ",
     "1eae:LATINCAPITALLETTERAWITHBREVEANDACUTE 1eaf:LATINSMALLLETTERAWITHBREVEANDACUTE 1eb0:LATIN",
     "CAPITALLETTERAWITHBREVEANDGRAVE 1eb1:LATINSMALLLETTERAWITHBREVEANDGRAVE 1eb2:LATINCAPITALLET",
     "TERAWITHBREVEANDHOOKABOVE 1eb3:LATINSMALLLETTERAWITHBREVEANDHOOKABOVE 1eb4:LATINCAPITALLETTE",
     "RAWITHBREVEANDTILDE 1eb5:LATINSMALLLETTERAWITHBREVEANDTILDE 1eb6:LATINCAPITALLETTERAWITHBREV",
     "EANDDOTBELOW 1eb7:LATINSMALLLETTERAWITHBREVEANDDOTBELOW 1eb8:LATINCAPITALLETTEREWITHDOTBELOW",
     " 1eb9:LATINSMALLLETTEREWITHDOTBELOWyCAPITALLETTEREWITHHOOKABOVE 1ebb:LATINSMALLLETTEREWITHHO",
     "OKABOVEzCAPITALLETTEREWITHTILDExSMALLLETTEREWITHTILDEvCAPITALLETTEREWITHCIRCUMFLEXANDACUTE 1",
     "ebf:LATINSMALLLETTEREWITHCIRCUMFLEXANDACUTE 1ec0:LATINCAPITALLETTEREWITHCIRCUMFLEXANDGRAVE 1",
     "ec1:LATINSMALLLETTEREWITHCIRCUMFLEXANDGRAVE 1ec2:LATINCAPITALLETTEREWITHCIRCUMFLEXANDHOOKABO",
     "VE 1ec3:LATINSMALLLETTEREWITHCIRCUMFLEXANDHOOKABOVE 1ec4:LATINCAPITALLETTEREWITHCIRCUMFLEXAN",
     "DTILDE 1ec5:LATINSMALLLETTEREWITHCIRCUMFLEXANDTILDE 1ec6:LATINCAPITALLETTEREWITHCIRCUMFLEXAN",
     "DDOTBELOW 1ec7:LATINSMALLLETTEREWITHCIRCUMFLEXANDDOTBELOW 1ec8:LATINCAPITALLETTERIWITHHOOKAB",
     "OVE 1ec9:LATINSMALLLETTERIWITHHOOKABOVEzCAPITALLETTERIWITHDOTBELOW 1ecb:LATINSMALLLETTERIWIT",
     "HDOTBELOWyCAPITALLETTEROWITHDOTBELOW 1ecd:LATINSMALLLETTEROWITHDOTBELOWyCAPITALLETTEROWITHHO",
     "OKABOVE 1ecf:LATINSMALLLETTEROWITHHOOKABOVEzCAPITALLETTEROWITHCIRCUMFLEXANDACUTE 1ed1:LATINS",
     "MALLLETTEROWITHCIRCUMFLEXANDACUTE 1ed2:LATINCAPITALLETTEROWITHCIRCUMFLEXANDGRAVE 1ed3:LATINS",
     "MALLLETTEROWITHCIRCUMFLEXANDGRAVE 1ed4:LATINCAPITALLETTEROWITHCIRCUMFLEXANDHOOKABOVE 1ed5:LA",
     "TINSMALLLETTEROWITHCIRCUMFLEXANDHOOKABOVE 1ed6:LATINCAPITALLETTEROWITHCIRCUMFLEXANDTILDE 1ed",
     "7:LATINSMALLLETTEROWITHCIRCUMFLEXANDTILDE 1ed8:LATINCAPITALLETTEROWITHCIRCUMFLEXANDDOTBELOW ",
     "1ed9:LATINSMALLLETTEROWITHCIRCUMFLEXANDDOTBELOW 1eda:LATINCAPITALLETTEROWITHHORNANDACUTE 1ed",
     "b:LATINSMALLLETTEROWITHHORNANDACUTE 1edc:LATINCAPITALLETTEROWITHHORNANDGRAVE 1edd:LATINSMALL",
     "LETTEROWITHHORNANDGRAVE 1ede:LATINCAPITALLETTEROWITHHORNANDHOOKABOVE 1edf:LATINSMALLLETTEROW",
     "ITHHORNANDHOOKABOVE 1ee0:LATINCAPITALLETTEROWITHHORNANDTILDE 1ee1:LATINSMALLLETTEROWITHHORNA",
     "NDTILDE 1ee2:LATINCAPITALLETTEROWITHHORNANDDOTBELOW 1ee3:LATINSMALLLETTEROWITHHORNANDDOTBELO",
     "W 1ee4:LATINCAPITALLETTERUWITHDOTBELOW 1ee5:LATINSMALLLETTERUWITHDOTBELOWyCAPITALLETTERUWITH",
     "HOOKABOVE 1ee7:LATINSMALLLETTERUWITHHOOKABOVEzCAPITALLETTERUWITHHORNANDACUTE 1ee9:LATINSMALL",
     "LETTERUWITHHORNANDACUTE 1eea:LATINCAPITALLETTERUWITHHORNANDGRAVE 1eeb:LATINSMALLLETTERUWITHH",
     "ORNANDGRAVE 1eec:LATINCAPITALLETTERUWITHHORNANDHOOKABOVE 1eed:LATINSMALLLETTERUWITHHORNANDHO",
     "OKABOVE 1eee:LATINCAPITALLETTERUWITHHORNANDTILDE 1eef:LATINSMALLLETTERUWITHHORNANDTILDE 1ef0",
     ":LATINCAPITALLETTERUWITHHORNANDDOTBELOW 1ef1:LATINSMALLLETTERUWITHHORNANDDOTBELOW 1ef2:LATIN",
     "CAPITALLETTERYWITHGRAVExSMALLLETTERYWITHGRAVEvCAPITALLETTERYWITHDOTBELOW 1ef5:LATINSMALLLETT",
     "ERYWITHDOTBELOWyCAPITALLETTERYWITHHOOKABOVE 1ef7:LATINSMALLLETTERYWITHHOOKABOVEzCAPITALLETTE",
     "RYWITHTILDExSMALLLETTERYWITHTILDEvCAPITALLETTERMIDDLEWELSHLL 1efb:LATINSMALLLETTERMIDDLEWELS",
     "HLLyCAPITALLETTERMIDDLEWELSHVzSMALLLETTERMIDDLEWELSHVxCAPITALLETTERYWITHLOOPwSMALLLETTERYWIT",
     "HLOOPzGREEKSMALLLETTERALPHAWITHPSILIfDASIAfPSILIANDVARIAnDASIAANDVARIAnPSILIANDOXIAmDASIAAND",
     "OXIAmPSILIANDPERISPOMENItDASIAANDPERISPOMENI 1f08:GREEKCAPITALLETTERALPHAWITHPSILIfDASIAfPSI",
     "LIANDVARIAnDASIAANDVARIAnPSILIANDOXIAmDASIAANDOXIAmPSILIANDPERISPOMENItDASIAANDPERISPOMENI 1",
     "f10:GREEKSMALLLETTEREPSILONWITHPSILIfDASIAfPSILIANDVARIAnDASIAANDVARIAnPSILIANDOXIAmDASIAAND",
     "OXIA 1f18:GREEKCAPITALLETTEREPSILONWITHPSILIfDASIAfPSILIANDVARIAnDASIAANDVARIAnPSILIANDOXIAm",
     "DASIAANDOXIA 1f20:GREEKSMALLLETTERETAWITHPSILIfDASIAfPSILIANDVARIAnDASIAANDVARIAnPSILIANDOXI",
     "AmDASIAANDOXIAmPSILIANDPERISPOMENItDASIAANDPERISPOMENI 1f28:GREEKCAPITALLETTERETAWITHPSILIfD",
     "ASIAfPSILIANDVARIAnDASIAANDVARIAnPSILIANDOXIAmDASIAANDOXIAmPSILIANDPERISPOMENItDASIAANDPERIS",
     "POMENI 1f30:GREEKSMALLLETTERIOTAWITHPSILIfDASIAfPSILIANDVARIAnDASIAANDVARIAnPSILIANDOXIAmDAS",
     "IAANDOXIAmPSILIANDPERISPOMENItDASIAANDPERISPOMENI 1f38:GREEKCAPITALLETTERIOTAWITHPSILIfDASIA",
     "fPSILIANDVARIAnDASIAANDVARIAnPSILIANDOXIAmDASIAANDOXIAmPSILIANDPERISPOMENItDASIAANDPERISPOME",
     "NI 1f40:GREEKSMALLLETTEROMICRONWITHPSILIfDASIAfPSILIANDVARIAnDASIAANDVARIAnPSILIANDOXIAmDASI",
     "AANDOXIA 1f48:GREEKCAPITALLETTEROMICRONWITHPSILIfDASIAfPSILIANDVARIAnDASIAANDVARIAnPSILIANDO",
     "XIAmDASIAANDOXIA 1f50:GREEKSMALLLETTERUPSILONWITHPSILIfDASIAfPSILIANDVARIAnDASIAANDVARIAnPSI",
     "LIANDOXIAmDASIAANDOXIAmPSILIANDPERISPOMENItDASIAANDPERISPOMENI 1f59:GREEKCAPITALLETTERUPSILO",
     "NWITHDASIA 1f5b:GREEKCAPITALLETTERUPSILONWITHDASIAANDVARIA 1f5d:GREEKCAPITALLETTERUPSILONWIT",
     "HDASIAANDOXIA 1f5f:GREEKCAPITALLETTERUPSILONWITHDASIAANDPERISPOMENI 1f60:GREEKSMALLLETTEROME",
     "GAWITHPSILIfDASIAfPSILIANDVARIAnDASIAANDVARIAnPSILIANDOXIAmDASIAANDOXIAmPSILIANDPERISPOMENIt",
     "DASIAANDPERISPOMENI 1f68:GREEKCAPITALLETTEROMEGAWITHPSILIfDASIAfPSILIANDVARIAnDASIAANDVARIAn",
     "PSILIANDOXIAmDASIAANDOXIAmPSILIANDPERISPOMENItDASIAANDPERISPOMENI 1f70:GREEKSMALLLETTERALPHA",
     "WITHVARIAfOXIAnEPSILONWITHVARIAfOXIAoTAWITHVARIAfOXIAlIOTAWITHVARIAfOXIAmOMICRONWITHVARIAfOX",
     "IApUPSILONWITHVARIAfOXIApOMEGAWITHVARIAfOXIA 1f80:GREEKSMALLLETTERALPHAWITHPSILIANDYPOGEGRAM",
     "MENIvDASIAANDYPOGEGRAMMENIvPSILIANDVARIAANDYPOGEGRAMMENI 1f83:GREEKSMALLLETTERALPHAWITHDASIA",
     "ANDVARIAANDYPOGEGRAMMENI 1f84:GREEKSMALLLETTERALPHAWITHPSILIANDOXIAANDYPOGEGRAMMENI 1f85:GRE",
     "EKSMALLLETTERALPHAWITHDASIAANDOXIAANDYPOGEGRAMMENI 1f86:GREEKSMALLLETTERALPHAWITHPSILIANDPER",
     "ISPOMENIANDYPOGEGRAMMENI 1f87:GREEKSMALLLETTERALPHAWITHDASIAANDPERISPOMENIANDYPOGEGRAMMENI 1",
     "f88:GREEKCAPITALLETTERALPHAWITHPSILIANDPROSGEGRAMMENIwDASIAANDPROSGEGRAMMENIwPSILIANDVARIAAN",
     "DPROSGEGRAMMENI 1f8b:GREEKCAPITALLETTERALPHAWITHDASIAANDVARIAANDPROSGEGRAMMENI 1f8c:GREEKCAP",
     "ITALLETTERALPHAWITHPSILIANDOXIAANDPROSGEGRAMMENI 1f8d:GREEKCAPITALLETTERALPHAWITHDASIAANDOXI",
     "AANDPROSGEGRAMMENI 1f8e:GREEKCAPITALLETTERALPHAWITHPSILIANDPERISPOMENIANDPROSGEGRAMMENI 1f8f",
     ":GREEKCAPITALLETTERALPHAWITHDASIAANDPERISPOMENIANDPROSGEGRAMMENI 1f90:GREEKSMALLLETTERETAWIT",
     "HPSILIANDYPOGEGRAMMENIvDASIAANDYPOGEGRAMMENIvPSILIANDVARIAANDYPOGEGRAMMENI 1f93:GREEKSMALLLE",
     "TTERETAWITHDASIAANDVARIAANDYPOGEGRAMMENI 1f94:GREEKSMALLLETTERETAWITHPSILIANDOXIAANDYPOGEGRA",
     "MMENI 1f95:GREEKSMALLLETTERETAWITHDASIAANDOXIAANDYPOGEGRAMMENI 1f96:GREEKSMALLLETTERETAWITHP",
     "SILIANDPERISPOMENIANDYPOGEGRAMMENI 1f97:GREEKSMALLLETTERETAWITHDASIAANDPERISPOMENIANDYPOGEGR",
     "AMMENI 1f98:GREEKCAPITALLETTERETAWITHPSILIANDPROSGEGRAMMENIwDASIAANDPROSGEGRAMMENIwPSILIANDV",
     "ARIAANDPROSGEGRAMMENI 1f9b:GREEKCAPITALLETTERETAWITHDASIAANDVARIAANDPROSGEGRAMMENI 1f9c:GREE",
     "KCAPITALLETTERETAWITHPSILIANDOXIAANDPROSGEGRAMMENI 1f9d:GREEKCAPITALLETTERETAWITHDASIAANDOXI",
     "AANDPROSGEGRAMMENI 1f9e:GREEKCAPITALLETTERETAWITHPSILIANDPERISPOMENIANDPROSGEGRAMMENI 1f9f:G",
     "REEKCAPITALLETTERETAWITHDASIAANDPERISPOMENIANDPROSGEGRAMMENI 1fa0:GREEKSMALLLETTEROMEGAWITHP",
     "SILIANDYPOGEGRAMMENIvDASIAANDYPOGEGRAMMENIvPSILIANDVARIAANDYPOGEGRAMMENI 1fa3:GREEKSMALLLETT",
     "EROMEGAWITHDASIAANDVARIAANDYPOGEGRAMMENI 1fa4:GREEKSMALLLETTEROMEGAWITHPSILIANDOXIAANDYPOGEG",
     "RAMMENI 1fa5:GREEKSMALLLETTEROMEGAWITHDASIAANDOXIAANDYPOGEGRAMMENI 1fa6:GREEKSMALLLETTEROMEG",
     "AWITHPSILIANDPERISPOMENIANDYPOGEGRAMMENI 1fa7:GREEKSMALLLETTEROMEGAWITHDASIAANDPERISPOMENIAN",
     "DYPOGEGRAMMENI 1fa8:GREEKCAPITALLETTEROMEGAWITHPSILIANDPROSGEGRAMMENIwDASIAANDPROSGEGRAMMENI",
     "wPSILIANDVARIAANDPROSGEGRAMMENI 1fab:GREEKCAPITALLETTEROMEGAWITHDASIAANDVARIAANDPROSGEGRAMME",
     "NI 1fac:GREEKCAPITALLETTEROMEGAWITHPSILIANDOXIAANDPROSGEGRAMMENI 1fad:GREEKCAPITALLETTEROMEG",
     "AWITHDASIAANDOXIAANDPROSGEGRAMMENI 1fae:GREEKCAPITALLETTEROMEGAWITHPSILIANDPERISPOMENIANDPRO",
     "SGEGRAMMENI 1faf:GREEKCAPITALLETTEROMEGAWITHDASIAANDPERISPOMENIANDPROSGEGRAMMENI 1fb0:GREEKS",
     "MALLLETTERALPHAWITHVRACHYgMACRONgVARIAANDYPOGEGRAMMENIvYPOGEGRAMMENInOXIAANDYPOGEGRAMMENI 1f",
     "b6:GREEKSMALLLETTERALPHAWITHPERISPOMENIaANDYPOGEGRAMMENI 1fb8:GREEKCAPITALLETTERALPHAWITHVRA",
     "CHYgMACRONgVARIAfOXIAePROSGEGRAMMENI 1fbd:GREEKKORONIShPROSGEGRAMMENInSILIeERISPOMENIlDIALYT",
     "IKAANDPERISPOMENIxSMALLLETTERETAWITHVARIAANDYPOGEGRAMMENIvYPOGEGRAMMENInOXIAANDYPOGEGRAMMENI",
     " 1fc6:GREEKSMALLLETTERETAWITHPERISPOMENIaANDYPOGEGRAMMENI 1fc8:GREEKCAPITALLETTEREPSILONWITH",
     "VARIAfOXIAoTAWITHVARIAfOXIAePROSGEGRAMMENI 1fcd:GREEKPSILIANDVARIAfOXIAePERISPOMENItSMALLLET",
     "TERIOTAWITHVRACHYgMACRONgDIALYTIKAANDVARIAfOXIA 1fd6:GREEKSMALLLETTERIOTAWITHPERISPOMENIlDIA",
     "LYTIKAANDPERISPOMENI 1fd8:GREEKCAPITALLETTERIOTAWITHVRACHYgMACRONgVARIAfOXIA 1fdd:GREEKDASIA",
     "ANDVARIAfOXIAePERISPOMENItSMALLLETTERUPSILONWITHVRACHYgMACRONgDIALYTIKAANDVARIAfOXIA 1fe4:GR",
     "EEKSMALLLETTERRHOWITHPSILIfDASIAmUPSILONWITHPERISPOMENIlDIALYTIKAANDPERISPOMENI 1fe8:GREEKCA",
     "PITALLETTERUPSILONWITHVRACHYgMACRONgVARIAfOXIApRHOWITHDASIAzDIALYTIKAANDVARIAfOXIAqVARIA 1ff",
     "2:GREEKSMALLLETTEROMEGAWITHVARIAANDYPOGEGRAMMENIvYPOGEGRAMMENInOXIAANDYPOGEGRAMMENI 1ff6:GRE",
     "EKSMALLLETTEROMEGAWITHPERISPOMENIaANDYPOGEGRAMMENI 1ff8:GREEKCAPITALLETTEROMICRONWITHVARIAfO",
     "XIAnEGAWITHVARIAfOXIAePROSGEGRAMMENI 1ffd:GREEKOXIAeDASIA"]

end ScriptBundle.Text.CharacterName
