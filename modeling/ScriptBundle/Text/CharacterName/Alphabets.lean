/-!
# Names of alphabets

The first scripts: Latin, Greek, Cyrillic, Hebrew, Arabic and those of India.
-/

namespace ScriptBundle.Text.CharacterName

def alphabetNames : List String :=
    ["20:SPACEfEXCLAMATIONMARKpQUOTATIONMARKnNUMBERSIGNkDOLLARSIGNkPERCENTSIGNlAMPERSANDiPOSTROPHE",
     "kLEFTPARENTHESISpRIGHTPARENTHESISqASTERISKiPLUSSIGNiCOMMAfHYPHENMINUSlFULLSTOPiSOLIDUShDIGIT",
     "ZEROeONEdTWOcHREEfFOURdIVEeSIXcEVENfEIGHTfNINEjCOLONfSEMICOLONjLESSTHANSIGNmEQUALSSIGNkGREAT",
     "ERTHANSIGNpQUESTIONMARKmCOMMERCIALATmLATINCAPITALLETTERAbBbCbDbEbFbGbHbIbJbKbLbMbNbObPbQbRbS",
     "bTbUbVbWbXbYbZsEFTSQUAREBRACKETrREVERSESOLIDUSnIGHTSQUAREBRACKETsCIRCUMFLEXACCENTqLOWLINEhGR",
     "AVEACCENTlLATINSMALLLETTERAbBbCbDbEbFbGbHbIbJbKbLbMbNbObPbQbRbSbTbUbVbWbXbYbZqEFTCURLYBRACKE",
     "TqVERTICALLINEmRIGHTCURLYBRACKETrTILDE a0:NOBREAKSPACEmINVERTEDEXCLAMATIONMARKxCENTSIGNiPOUN",
     "DSIGNjCURRENCYSIGNmYENSIGNhBROKENBARjSECTIONSIGNlDIAERESISjCOPYRIGHTSIGNnFEMININEORDINALINDI",
     "CATORyLEFTPOINTINGDOUBLEANGLEQUOTATIONMARK ac:NOTSIGNhSOFTHYPHENkREGISTEREDSIGNoMACRONgDEGRE",
     "ESIGNkPLUSMINUSSIGNnSUPERSCRIPTTWOcHREEqACUTEACCENTlMICROSIGNjPILCROWSIGNlMIDDLEDOTjCEDILLAh",
     "SUPERSCRIPTONEoMASCULINEORDINALINDICATORzRIGHTPOINTINGDOUBLEANGLEQUOTATIONMARK bc:VULGARFRAC",
     "TIONONEQUARTERhHALFhTHREEQUARTERS bf:INVERTEDQUESTIONMARKuLATINCAPITALLETTERAWITHGRAVEfACUTE",
     "fCIRCUMFLEXkTILDEfDIAERESISjRINGABOVEnEcCWITHCEDILLAmEWITHGRAVEfACUTEfCIRCUMFLEXkDIAERESISoI",
     "WITHGRAVEfACUTEfCIRCUMFLEXkDIAERESISoETHdNWITHTILDEkOWITHGRAVEfACUTEfCIRCUMFLEXkTILDEfDIAERE",
     "SIS d7:MULTIPLICATIONSIGNsLATINCAPITALLETTEROWITHSTROKElUWITHGRAVEfACUTEfCIRCUMFLEXkDIAERESI",
     "SoYWITHACUTEkTHORNsSMALLLETTERSHARPSgAWITHGRAVEfACUTEfCIRCUMFLEXkTILDEfDIAERESISjRINGABOVEnE",
     "cCWITHCEDILLAmEWITHGRAVEfACUTEfCIRCUMFLEXkDIAERESISoIWITHGRAVEfACUTEfCIRCUMFLEXkDIAERESISoET",
     "HdNWITHTILDEkOWITHGRAVEfACUTEfCIRCUMFLEXkTILDEfDIAERESIS f7:DIVISIONSIGNmLATINSMALLLETTEROWI",
     "THSTROKElUWITHGRAVEfACUTEfCIRCUMFLEXkDIAERESISoYWITHACUTEkTHORNfYWITHDIAERESISzCAPITALLETTER",
     "AWITHMACRONySMALLLETTERAWITHMACRONwCAPITALLETTERAWITHBREVExSMALLLETTERAWITHBREVEvCAPITALLETT",
     "ERAWITHOGONEKySMALLLETTERAWITHOGONEKwCAPITALLETTERCWITHACUTExSMALLLETTERCWITHACUTEvCAPITALLE",
     "TTERCWITHCIRCUMFLEX 109:LATINSMALLLETTERCWITHCIRCUMFLEX 10a:LATINCAPITALLETTERCWITHDOTABOVE ",
     "10b:LATINSMALLLETTERCWITHDOTABOVEyCAPITALLETTERCWITHCARONxSMALLLETTERCWITHCARONvCAPITALLETTE",
     "RDWITHCARONxSMALLLETTERDWITHCARONvCAPITALLETTERDWITHSTROKEySMALLLETTERDWITHSTROKEwCAPITALLET",
     "TEREWITHMACRONySMALLLETTEREWITHMACRONwCAPITALLETTEREWITHBREVExSMALLLETTEREWITHBREVEvCAPITALL",
     "ETTEREWITHDOTABOVE 117:LATINSMALLLETTEREWITHDOTABOVEyCAPITALLETTEREWITHOGONEKySMALLLETTEREWI",
     "THOGONEKwCAPITALLETTEREWITHCARONxSMALLLETTEREWITHCARONvCAPITALLETTERGWITHCIRCUMFLEX 11d:LATI",
     "NSMALLLETTERGWITHCIRCUMFLEX 11e:LATINCAPITALLETTERGWITHBREVExSMALLLETTERGWITHBREVEvCAPITALLE",
     "TTERGWITHDOTABOVE 121:LATINSMALLLETTERGWITHDOTABOVEyCAPITALLETTERGWITHCEDILLAzSMALLLETTERGWI",
     "THCEDILLAxCAPITALLETTERHWITHCIRCUMFLEX 125:LATINSMALLLETTERHWITHCIRCUMFLEX 126:LATINCAPITALL",
     "ETTERHWITHSTROKEySMALLLETTERHWITHSTROKEwCAPITALLETTERIWITHTILDExSMALLLETTERIWITHTILDEvCAPITA",
     "LLETTERIWITHMACRONySMALLLETTERIWITHMACRONwCAPITALLETTERIWITHBREVExSMALLLETTERIWITHBREVEvCAPI",
     "TALLETTERIWITHOGONEKySMALLLETTERIWITHOGONEKwCAPITALLETTERIWITHDOTABOVE 131:LATINSMALLLETTERD",
     "OTLESSItCAPITALLIGATUREIJrSMALLLIGATUREIJpCAPITALLETTERJWITHCIRCUMFLEX 135:LATINSMALLLETTERJ",
     "WITHCIRCUMFLEX 136:LATINCAPITALLETTERKWITHCEDILLAzSMALLLETTERKWITHCEDILLAlRAoCAPITALLETTERLW",
     "ITHACUTExSMALLLETTERLWITHACUTEvCAPITALLETTERLWITHCEDILLAzSMALLLETTERLWITHCEDILLAxCAPITALLETT",
     "ERLWITHCARONxSMALLLETTERLWITHCARONvCAPITALLETTERLWITHMIDDLEDOT 140:LATINSMALLLETTERLWITHMIDD",
     "LEDOTzCAPITALLETTERLWITHSTROKEySMALLLETTERLWITHSTROKEwCAPITALLETTERNWITHACUTExSMALLLETTERNWI",
     "THACUTEvCAPITALLETTERNWITHCEDILLAzSMALLLETTERNWITHCEDILLAxCAPITALLETTERNWITHCARONxSMALLLETTE",
     "RNWITHCARONjPRECEDEDBYAPOSTROPHE 14a:LATINCAPITALLETTERENGqSMALLLETTERENGoCAPITALLETTEROWITH",
     "MACRONySMALLLETTEROWITHMACRONwCAPITALLETTEROWITHBREVExSMALLLETTEROWITHBREVEvCAPITALLETTEROWI",
     "THDOUBLEACUTE 151:LATINSMALLLETTEROWITHDOUBLEACUTE 152:LATINCAPITALLIGATUREOErSMALLLIGATUREO",
     "EpCAPITALLETTERRWITHACUTExSMALLLETTERRWITHACUTEvCAPITALLETTERRWITHCEDILLAzSMALLLETTERRWITHCE",
     "DILLAxCAPITALLETTERRWITHCARONxSMALLLETTERRWITHCARONvCAPITALLETTERSWITHACUTExSMALLLETTERSWITH",
     "ACUTEvCAPITALLETTERSWITHCIRCUMFLEX 15d:LATINSMALLLETTERSWITHCIRCUMFLEX 15e:LATINCAPITALLETTE",
     "RSWITHCEDILLAzSMALLLETTERSWITHCEDILLAxCAPITALLETTERSWITHCARONxSMALLLETTERSWITHCARONvCAPITALL",
     "ETTERTWITHCEDILLAzSMALLLETTERTWITHCEDILLAxCAPITALLETTERTWITHCARONxSMALLLETTERTWITHCARONvCAPI",
     "TALLETTERTWITHSTROKEySMALLLETTERTWITHSTROKEwCAPITALLETTERUWITHTILDExSMALLLETTERUWITHTILDEvCA",
     "PITALLETTERUWITHMACRONySMALLLETTERUWITHMACRONwCAPITALLETTERUWITHBREVExSMALLLETTERUWITHBREVEv",
     "CAPITALLETTERUWITHRINGABOVE 16f:LATINSMALLLETTERUWITHRINGABOVEzCAPITALLETTERUWITHDOUBLEACUTE",
     " 171:LATINSMALLLETTERUWITHDOUBLEACUTE 172:LATINCAPITALLETTERUWITHOGONEKySMALLLETTERUWITHOGON",
     "EKwCAPITALLETTERWWITHCIRCUMFLEX 175:LATINSMALLLETTERWWITHCIRCUMFLEX 176:LATINCAPITALLETTERYW",
     "ITHCIRCUMFLEX 177:LATINSMALLLETTERYWITHCIRCUMFLEX 178:LATINCAPITALLETTERYWITHDIAERESISoZWITH",
     "ACUTExSMALLLETTERZWITHACUTEvCAPITALLETTERZWITHDOTABOVE 17c:LATINSMALLLETTERZWITHDOTABOVEyCAP",
     "ITALLETTERZWITHCARONxSMALLLETTERZWITHCARONkLONGSfBWITHSTROKEwCAPITALLETTERBWITHHOOKeTOPBARyS",
     "MALLLETTERBWITHTOPBARwCAPITALLETTERTONESIXuSMALLLETTERTONESIXsCAPITALLETTEROPENOfCWITHHOOKwS",
     "MALLLETTERCWITHHOOKuCAPITALLETTERAFRICANDiDWITHHOOKeTOPBARySMALLLETTERDWITHTOPBARlTURNEDDELT",
     "AwCAPITALLETTERREVERSEDEjSCHWAfOPENEfFWITHHOOKwSMALLLETTERFWITHHOOKuCAPITALLETTERGWITHHOOKiA",
     "MMAsSMALLLETTERHVnCAPITALLETTERIOTAdWITHSTROKElKWITHHOOKwSMALLLETTERKWITHHOOKjLWITHBARhAMBDA",
     "WITHSTROKE 19c:LATINCAPITALLETTERTURNEDMhNWITHLEFTHOOK 19e:LATINSMALLLETTERNWITHLONGRIGHTLEG",
     " 19f:LATINCAPITALLETTEROWITHMIDDLETILDElHORNwSMALLLETTEROWITHHORNuCAPITALLETTEROIpSMALLLETTE",
     "ROInCAPITALLETTERPWITHHOOKwSMALLLETTERPWITHHOOKuLETTERYRiCAPITALLETTERTONETWOuSMALLLETTERTON",
     "ETWOsCAPITALLETTERESHqLETTERREVERSEDESHLOOPvSMALLLETTERTWITHPALATALHOOK 1ac:LATINCAPITALLETT",
     "ERTWITHHOOKwSMALLLETTERTWITHHOOKuCAPITALLETTERTWITHRETROFLEXHOOKsUWITHHORNwSMALLLETTERUWITHH",
     "ORNuCAPITALLETTERUPSILONhVWITHHOOKjYWITHHOOKwSMALLLETTERYWITHHOOKuCAPITALLETTERZWITHSTROKEyS",
     "MALLLETTERZWITHSTROKEwCAPITALLETTEREZHaREVERSEDySMALLLETTEREZHREVERSEDiWITHTAILwLETTERTWOWIT",
     "HSTROKEtCAPITALLETTERTONEFIVEvSMALLLETTERTONEFIVEtLETTERINVERTEDGLOTTALSTOPWITHSTROKE 1bf:LA",
     "TINLETTERWYNNeDENTALCLICKlLATERALCLICKmALVEOLARCLICKnRETROFLEXCLICKuCAPITALLETTERDZWITHCARON",
     "kWITHSMALLLETTERZWITHCARON 1c6:LATINSMALLLETTERDZWITHCARONwCAPITALLETTERLJbWITHSMALLLETTERJ ",
     "1c9:LATINSMALLLETTERLJnCAPITALLETTERNJbWITHSMALLLETTERJ 1cc:LATINSMALLLETTERNJnCAPITALLETTER",
     "AWITHCARONxSMALLLETTERAWITHCARONvCAPITALLETTERIWITHCARONxSMALLLETTERIWITHCARONvCAPITALLETTER",
     "OWITHCARONxSMALLLETTEROWITHCARONvCAPITALLETTERUWITHCARONxSMALLLETTERUWITHCARONvCAPITALLETTER",
     "UWITHDIAERESISANDMACRON 1d6:LATINSMALLLETTERUWITHDIAERESISANDMACRON 1d7:LATINCAPITALLETTERUW",
     "ITHDIAERESISANDACUTE 1d8:LATINSMALLLETTERUWITHDIAERESISANDACUTE 1d9:LATINCAPITALLETTERUWITHD",
     "IAERESISANDCARON 1da:LATINSMALLLETTERUWITHDIAERESISANDCARON 1db:LATINCAPITALLETTERUWITHDIAER",
     "ESISANDGRAVE 1dc:LATINSMALLLETTERUWITHDIAERESISANDGRAVEwTURNEDEsCAPITALLETTERAWITHDIAERESISA",
     "NDMACRON 1df:LATINSMALLLETTERAWITHDIAERESISANDMACRON 1e0:LATINCAPITALLETTERAWITHDOTABOVEANDM",
     "ACRON 1e1:LATINSMALLLETTERAWITHDOTABOVEANDMACRON 1e2:LATINCAPITALLETTERAEWITHMACRONzSMALLLET",
     "TERAEWITHMACRONxCAPITALLETTERGWITHSTROKEySMALLLETTERGWITHSTROKEwCAPITALLETTERGWITHCARONxSMAL",
     "LLETTERGWITHCARONvCAPITALLETTERKWITHCARONxSMALLLETTERKWITHCARONvCAPITALLETTEROWITHOGONEKySMA",
     "LLLETTEROWITHOGONEKwCAPITALLETTEROWITHOGONEKANDMACRON 1ed:LATINSMALLLETTEROWITHOGONEKANDMACR",
     "ON 1ee:LATINCAPITALLETTEREZHWITHCARONzSMALLLETTEREZHWITHCARONmJWITHCARONvCAPITALLETTERDZbWIT",
     "HSMALLLETTERZ 1f3:LATINSMALLLETTERDZnCAPITALLETTERGWITHACUTExSMALLLETTERGWITHACUTEvCAPITALLE",
     "TTERHWAIRfWYNNeNWITHGRAVExSMALLLETTERNWITHGRAVEvCAPITALLETTERAWITHRINGABOVEANDACUTE 1fb:LATI",
     "NSMALLLETTERAWITHRINGABOVEANDACUTE 1fc:LATINCAPITALLETTERAEWITHACUTEySMALLLETTERAEWITHACUTEw",
     "CAPITALLETTEROWITHSTROKEANDACUTE 1ff:LATINSMALLLETTEROWITHSTROKEANDACUTE 200:LATINCAPITALLET",
     "TERAWITHDOUBLEGRAVE 201:LATINSMALLLETTERAWITHDOUBLEGRAVE 202:LATINCAPITALLETTERAWITHINVERTED",
     "BREVE 203:LATINSMALLLETTERAWITHINVERTEDBREVE 204:LATINCAPITALLETTEREWITHDOUBLEGRAVE 205:LATI",
     "NSMALLLETTEREWITHDOUBLEGRAVE 206:LATINCAPITALLETTEREWITHINVERTEDBREVE 207:LATINSMALLLETTEREW",
     "ITHINVERTEDBREVE 208:LATINCAPITALLETTERIWITHDOUBLEGRAVE 209:LATINSMALLLETTERIWITHDOUBLEGRAVE",
     " 20a:LATINCAPITALLETTERIWITHINVERTEDBREVE 20b:LATINSMALLLETTERIWITHINVERTEDBREVE 20c:LATINCA",
     "PITALLETTEROWITHDOUBLEGRAVE 20d:LATINSMALLLETTEROWITHDOUBLEGRAVE 20e:LATINCAPITALLETTEROWITH",
     "INVERTEDBREVE 20f:LATINSMALLLETTEROWITHINVERTEDBREVE 210:LATINCAPITALLETTERRWITHDOUBLEGRAVE ",
     "211:LATINSMALLLETTERRWITHDOUBLEGRAVE 212:LATINCAPITALLETTERRWITHINVERTEDBREVE 213:LATINSMALL",
     "LETTERRWITHINVERTEDBREVE 214:LATINCAPITALLETTERUWITHDOUBLEGRAVE 215:LATINSMALLLETTERUWITHDOU",
     "BLEGRAVE 216:LATINCAPITALLETTERUWITHINVERTEDBREVE 217:LATINSMALLLETTERUWITHINVERTEDBREVE 218",
     ":LATINCAPITALLETTERSWITHCOMMABELOW 219:LATINSMALLLETTERSWITHCOMMABELOW 21a:LATINCAPITALLETTE",
     "RTWITHCOMMABELOW 21b:LATINSMALLLETTERTWITHCOMMABELOW 21c:LATINCAPITALLETTERYOGHrSMALLLETTERY",
     "OGHpCAPITALLETTERHWITHCARONxSMALLLETTERHWITHCARONvCAPITALLETTERNWITHLONGRIGHTLEG 221:LATINSM",
     "ALLLETTERDWITHCURLuCAPITALLETTEROUpSMALLLETTEROUnCAPITALLETTERZWITHHOOKwSMALLLETTERZWITHHOOK",
     "uCAPITALLETTERAWITHDOTABOVE 227:LATINSMALLLETTERAWITHDOTABOVEyCAPITALLETTEREWITHCEDILLAzSMAL",
     "LLETTEREWITHCEDILLAxCAPITALLETTEROWITHDIAERESISANDMACRON 22b:LATINSMALLLETTEROWITHDIAERESISA",
     "NDMACRON 22c:LATINCAPITALLETTEROWITHTILDEANDMACRON 22d:LATINSMALLLETTEROWITHTILDEANDMACRON 2",
     "2e:LATINCAPITALLETTEROWITHDOTABOVE 22f:LATINSMALLLETTEROWITHDOTABOVEyCAPITALLETTEROWITHDOTAB",
     "OVEANDMACRON 231:LATINSMALLLETTEROWITHDOTABOVEANDMACRON 232:LATINCAPITALLETTERYWITHMACRONySM",
     "ALLLETTERYWITHMACRONlLWITHCURLjNWITHCURLjTWITHCURLjDOTLESSJhBDIGRAPHjQPDIGRAPHuCAPITALLETTER",
     "AWITHSTROKElCWITHSTROKEySMALLLETTERCWITHSTROKEwCAPITALLETTERLWITHBARiTWITHDIAGONALSTROKE 23f",
     ":LATINSMALLLETTERSWITHSWASHTAILoZWITHSWASHTAILzCAPITALLETTERGLOTTALSTOPySMALLLETTERGLOTTALST",
     "OPwCAPITALLETTERBWITHSTROKElUBAReTURNEDVhEWITHSTROKEySMALLLETTEREWITHSTROKEwCAPITALLETTERJWI",
     "THSTROKEySMALLLETTERJWITHSTROKEwCAPITALLETTERSMALLQWITHHOOKTAIL 24b:LATINSMALLLETTERQWITHHOO",
     "KTAILyCAPITALLETTERRWITHSTROKEySMALLLETTERRWITHSTROKEwCAPITALLETTERYWITHSTROKEySMALLLETTERYW",
     "ITHSTROKElTURNEDAhALPHAfTURNEDALPHAlBWITHHOOKjOPENOfCWITHCURLjDWITHTAILeHOOKjREVERSEDEjSCHWA",
     "aWITHHOOKnOPENEfREVERSEDOPENEaWITHHOOKvCLOSEDREVERSEDOPENEtDOTLESSJWITHSTROKEsGWITHHOOKjSCRI",
     "PTGsLETTERSMALLCAPITALGtSMALLLETTERGAMMAfRAMSHORNiTURNEDHhHWITHHOOKiENGWITHHOOKmIWITHSTROKEk",
     "OTApLETTERSMALLCAPITALItSMALLLETTERLWITHMIDDLETILDElBELTeRETROFLEXHOOKrEZHeTURNEDMaWITHLONGL",
     "EGsMWITHHOOKjNWITHLEFTHOOKiRETROFLEXHOOK 274:LATINLETTERSMALLCAPITALNtSMALLLETTERBARREDOsLET",
     "TERSMALLCAPITALOEuSMALLLETTERCLOSEDOMEGAlPHIdTURNEDRaWITHLONGLEGhHOOKpRWITHLONGLEGhTAILeFISH",
     "HOOKmEVERSEDRWITHFISHHOOK 280:LATINLETTERSMALLCAPITALRbINVERTEDR 282:LATINSMALLLETTERSWITHHO",
     "OKjESHdDOTLESSJWITHSTROKEANDHOOKzSQUATREVERSEDESHqESHWITHCURLlTURNEDTgWITHRETROFLEXHOOKsUBAR",
     "dPSILONhVWITHHOOKjTURNEDVbWbYsLETTERSMALLCAPITALYtSMALLLETTERZWITHRETROFLEXHOOKnCURLjEZHaWIT",
     "HCURLwLETTERGLOTTALSTOPlPHARYNGEALVOICEDFRICATIVEzINVERTEDGLOTTALSTOPtSTRETCHEDCkBILABIALCLI",
     "CKnSMALLCAPITALBtSMALLLETTERCLOSEDOPENEwLETTERSMALLCAPITALGWITHHOOKjHtSMALLLETTERJWITHCROSSE",
     "DTAILqTURNEDKsLETTERSMALLCAPITALLtSMALLLETTERQWITHHOOKuLETTERGLOTTALSTOPWITHSTROKEvREVERSEDG",
     "LOTTALSTOPWITHSTROKE 2a3:LATINSMALLLETTERDZDIGRAPHiEZHDIGRAPHkZDIGRAPHWITHCURLrTSDIGRAPHiESH",
     "DIGRAPHkCDIGRAPHWITHCURLrFENGDIGRAPHlLSDIGRAPHiZDIGRAPHuLETTERBILABIALPERCUSSIVEqDENTALPERCU",
     "SSIVEySMALLLETTERTURNEDHWITHFISHHOOKaANDTAIL 2b0:MODIFIERLETTERSMALLHaWITHHOOKjJbRbTURNEDRaW",
     "ITHHOOKpCAPITALINVERTEDRqWbYgPRIMEfDOUBLEPRIMElTURNEDCOMMAlAPOSTROPHEkREVERSEDCOMMAmIGHTHALF",
     "RINGnLEFTHALFRINGmGLOTTALSTOPlREVERSEDGLOTTALSTOPtLEFTARROWHEADnRIGHTARROWHEADoUPARROWHEADlD",
     "OWNARROWHEADnCIRCUMFLEXACCENT 2c7:CARONfMODIFIERLETTERVERTICALLINEmMACRONgACUTEACCENTlGRAVEA",
     "CCENTlLOWVERTICALLINEmMACRONgGRAVEACCENTlACUTEACCENToTRIANGULARCOLONpHALFTRIANGULARCOLONtCEN",
     "TREDRIGHTHALFRINGnLEFTHALFRINGtUPTACKgDOWNTACKiPLUSSIGNiMINUSSIGNxBREVEfDOTABOVEiRINGABOVEjO",
     "GONEKgSMALLTILDEkDOUBLEACUTEACCENTrMODIFIERLETTERRHOTICHOOKkCROSSACCENTlSMALLGAMMAfLbSbXbREV",
     "ERSEDGLOTTALSTOPyEXTRAHIGHTONEBARqHIGHTONEBARlMIDTONEBARkLOWTONEBARkEXTRALOWTONEBARpYINDEPAR",
     "TINGTONEMARKtANGDEPARTINGTONEMARKvVOICINGhUNASPIRATEDlDOUBLEAPOSTROPHEqLOWDOWNARROWHEADnUPAR",
     "ROWHEADlLEFTARROWHEADnRIGHTARROWHEADmNGhMIDDLEGRAVEACCENTlDOUBLEGRAVEACCENTlACUTEACCENTxLOWT",
     "ILDEiRAISEDCOLONlBEGINHIGHTONEnENDHIGHTONElBEGINLOWTONEmENDLOWTONEkSHELFfOPENSHELFjLOWLEFTAR",
     "ROW 300:COMBININGGRAVEACCENTlACUTEACCENTlCIRCUMFLEXACCENTqTILDEfMACRONgOVERLINEiBREVEfDOTABO",
     "VEhIAERESISjHOOKABOVEjRINGABOVEjDOUBLEACUTEACCENTrCARONfVERTICALLINEABOVErDOUBLEVERTICALLINE",
     "ABOVErGRAVEACCENTrCANDRABINDUlINVERTEDBREVEnTURNEDCOMMAABOVEqCOMMAABOVEkREVERSEDCOMMAABOVEsC",
     "OMMAABOVERIGHTpGRAVEACCENTBELOWqACUTEACCENTBELOWqLEFTTACKBELOWnRIGHTTACKBELOWoLEFTANGLEABOVE",
     "oHORNeLEFTHALFRINGBELOWrUPTACKBELOWlDOWNTACKBELOWnPLUSSIGNBELOWnMINUSSIGNBELOWoPALATALIZEDHO",
     "OKBELOWuRETROFLEXHOOKBELOWsDOTBELOWhIAERESISBELOWoRINGBELOWjCOMMABELOWjEDILLAhOGONEKgVERTICA",
     "LLINEBELOWrBRIDGEBELOWlINVERTEDDOUBLEARCHBELOWxCARONBELOWjIRCUMFLEXACCENTBELOWvBREVEBELOWkIN",
     "VERTEDBREVEBELOWsTILDEBELOWkMACRONBELOWlLOWLINEhDOUBLELOWLINEnTILDEOVERLAYmSHORTSTROKEOVERLA",
     "YsLONGSTROKEOVERLAYrSHORTSOLIDUSOVERLAYtLONGSOLIDUSOVERLAYsRIGHTHALFRINGBELOWsINVERTEDBRIDGE",
     "BELOWtSQUAREBELOWkEAGULLBELOWmXABOVEgVERTICALTILDEnDOUBLEOVERLINEoGRAVETONEMARKnACUTETONEMAR",
     "KnGREEKPERISPOMENIlKORONIShDIALYTIKATONOSoYPOGEGRAMMENIsBRIDGEABOVElEQUALSSIGNBELOWpDOUBLEVE",
     "RTICALLINEBELOWxLEFTANGLEBELOWoNOTTILDEABOVEnHOMOTHETICABOVEpALMOSTEQUALTOABOVEsLEFTRIGHTARR",
     "OWBELOWtUPWARDSARROWBELOWrGRAPHEMEJOINERoRIGHTARROWHEADABOVEtLEFTHALFRINGABOVErFERMATAhXBELO",
     "WgLEFTARROWHEADBELOWsRIGHTARROWHEADBELOWfANDUPARROWHEADBELOW 357:COMBININGRIGHTHALFRINGABOVE",
     "sDOTABOVERIGHTnASTERISKBELOWnDOUBLERINGBELOWpZIGZAGABOVElDOUBLEBREVEBELOWffMACRONaBELOWlTILD",
     "EfINVERTEDBREVEnRIGHTWARDSARROWBELOW 363:COMBININGLATINSMALLLETTERAbEbIbObUbCbDbHbMbRbTbVbX ",
     "370:GREEKCAPITALLETTERHETArSMALLLETTERHETApCAPITALLETTERARCHAICSAMPIzSMALLLETTERARCHAICSAMPI",
     "xNUMERALSIGNlLOWERNUMERALSIGNqCAPITALLETTERPAMPHYLIANDIGAMMA 377:GREEKSMALLLETTERPAMPHYLIAND",
     "IGAMMA 37a:GREEKYPOGEGRAMMENInSMALLREVERSEDLUNATESIGMASYMBOLzDOTTEDLUNATESIGMASYMBOLxREVERSE",
     "DDOTTEDLUNATESIGMASYMBOL 37e:GREEKQUESTIONMARKmCAPITALLETTERYOT 384:GREEKTONOSfDIALYTIKATONO",
     "SoCAPITALLETTERALPHAWITHTONOS 387:GREEKANOTELEIAjCAPITALLETTEREPSILONWITHTONOSpTAWITHTONOSmI",
     "OTAWITHTONOS 38c:GREEKCAPITALLETTEROMICRONWITHTONOS 38e:GREEKCAPITALLETTERUPSILONWITHTONOSqO",
     "MEGAWITHTONOS 390:GREEKSMALLLETTERIOTAWITHDIALYTIKAANDTONOS 391:GREEKCAPITALLETTERALPHAfBETA",
     "eGAMMAfDELTAfEPSILONhZETAeETAdTHETAfIOTAeKAPPAfLAMDAfMUcNUcXIcOMICRONhPIcRHO 3a3:GREEKCAPITA",
     "LLETTERSIGMAfTAUdUPSILONhPHIdCHIdPSIdOMEGAfIOTAWITHDIALYTIKArUPSILONWITHDIALYTIKA 3ac:GREEKS",
     "MALLLETTERALPHAWITHTONOSoEPSILONWITHTONOSpTAWITHTONOSmIOTAWITHTONOSnUPSILONWITHDIALYTIKAANDT",
     "ONOS 3b1:GREEKSMALLLETTERALPHAfBETAeGAMMAfDELTAfEPSILONhZETAeETAdTHETAfIOTAeKAPPAfLAMDAfMUcN",
     "UcXIcOMICRONhPIcRHOdFINALSIGMAkSIGMAfTAUdUPSILONhPHIdCHIdPSIdOMEGAfIOTAWITHDIALYTIKArUPSILON",
     "WITHDIALYTIKAuOMICRONWITHTONOSqUPSILONWITHTONOSqOMEGAWITHTONOSzCAPITALKAISYMBOLqBETASYMBOLkT",
     "HETASYMBOLlUPSILONWITHHOOKSYMBOLkACUTEANDHOOKSYMBOLsDIAERESISANDHOOKSYMBOL 3d5:GREEKPHISYMBO",
     "LiISYMBOLiKAISYMBOLjLETTERARCHAICKOPPAsSMALLLETTERARCHAICKOPPAxLETTERSTIGMAmSMALLLETTERSTIGM",
     "ArLETTERDIGAMMAnSMALLLETTERDIGAMMAsLETTERKOPPAlSMALLLETTERKOPPAqLETTERSAMPIlSMALLLETTERSAMPI",
     "vCOPTICCAPITALLETTERSHEIrSMALLLETTERSHEIpCAPITALLETTERFEIqSMALLLETTERFEIoCAPITALLETTERKHEIrS",
     "MALLLETTERKHEIpCAPITALLETTERHORIrSMALLLETTERHORIpCAPITALLETTERGANGIAtSMALLLETTERGANGIArCAPIT",
     "ALLETTERSHIMAsSMALLLETTERSHIMAqCAPITALLETTERDEIqSMALLLETTERDEIuGREEKKAPPASYMBOLlRHOSYMBOLjLU",
     "NATESIGMASYMBOLqETTERYOTjCAPITALTHETASYMBOLsLUNATEEPSILONSYMBOLtREVERSEDLUNATEEPSILONSYMBOL ",
     "3f7:GREEKCAPITALLETTERSHOqSMALLLETTERSHOoCAPITALLUNATESIGMASYMBOLqETTERSANqSMALLLETTERSANoRH",
     "OWITHSTROKESYMBOLtCAPITALREVERSEDLUNATESIGMASYMBOLzDOTTEDLUNATESIGMASYMBOLxREVERSEDDOTTEDLUN",
     "ATESIGMASYMBOL 400:CYRILLICCAPITALLETTERIEWITHGRAVEkOcDJEdGJEdUKRAINIANIElDZEdBYELORUSSIANUK",
     "RAINIANIwYIcJEcLJEdNJEdTSHEeKJEdIWITHGRAVEkSHORTUgDZHEeAbBEcVEcGHEdDEcIEcZHEcEcIbSHORTIgKAcE",
     "LbMbNcObPEcERbScTEcUbEFcHAcTSEdCHEdSHAbCHAfHARDSIGNiYERUeSOFTSIGNiEbYUbApSMALLLETTERAbBEcVEc",
     "GHEdDEcIEcZHEcEcIbSHORTIgKAcELbMbNcObPEcERbScTEcUbEFcHAcTSEdCHEdSHAbCHAfHARDSIGNiYERUeSOFTSI",
     "GNiEbYUbAcIEWITHGRAVEkOcDJEdGJEdUKRAINIANIElDZEdBYELORUSSIANUKRAINIANIwYIcJEcLJEdNJEdTSHEeKJ",
     "EdIWITHGRAVEkSHORTUgDZHEpCAPITALLETTEROMEGAsSMALLLETTEROMEGAqCAPITALLETTERYATqSMALLLETTERYAT",
     "oCAPITALLETTERIOTIFIEDEwSMALLLETTERIOTIFIEDEuCAPITALLETTERLITTLEYUSwSMALLLETTERLITTLEYUSuCAP",
     "ITALLETTERIOTIFIEDLITTLEYUS 469:CYRILLICSMALLLETTERIOTIFIEDLITTLEYUS 46a:CYRILLICCAPITALLETT",
     "ERBIGYUStSMALLLETTERBIGYUSrCAPITALLETTERIOTIFIEDBIGYUS 46d:CYRILLICSMALLLETTERIOTIFIEDBIGYUS",
     "zCAPITALLETTERKSIqSMALLLETTERKSIoCAPITALLETTERPSIqSMALLLETTERPSIoCAPITALLETTERFITArSMALLLETT",
     "ERFITApCAPITALLETTERIZHITSAuSMALLLETTERIZHITSAsCAPITALLETTERIZHITSAWITHDOUBLEGRAVEACCENT 477",
     ":CYRILLICSMALLLETTERIZHITSAWITHDOUBLEGRAVEACCENT 478:CYRILLICCAPITALLETTERUKpSMALLLETTERUKnC",
     "APITALLETTERROUNDOMEGAxSMALLLETTERROUNDOMEGAvCAPITALLETTEROMEGAWITHTITLO 47d:CYRILLICSMALLLE",
     "TTEROMEGAWITHTITLOzCAPITALLETTEROTpSMALLLETTEROTnCAPITALLETTERKOPPAsSMALLLETTERKOPPAqTHOUSAN",
     "DSSIGNuOMBININGCYRILLICTITLOfPALATALIZATIONoDASIAPNEUMATAnPSILIPNEUMATAmOKRYTIEiHUNDREDTHOUS",
     "ANDSSIGNuMILLIONSSIGN 48a:CYRILLICCAPITALLETTERSHORTIWITHTAIL 48b:CYRILLICSMALLLETTERSHORTIW",
     "ITHTAILzCAPITALLETTERSEMISOFTSIGNzSMALLLETTERSEMISOFTSIGNxCAPITALLETTERERWITHTICKxSMALLLETTE",
     "RERWITHTICKvCAPITALLETTERGHEWITHUPTURN 491:CYRILLICSMALLLETTERGHEWITHUPTURNyCAPITALLETTERGHE",
     "WITHSTROKE 493:CYRILLICSMALLLETTERGHEWITHSTROKEyCAPITALLETTERGHEWITHMIDDLEHOOK 495:CYRILLICS",
     "MALLLETTERGHEWITHMIDDLEHOOK 496:CYRILLICCAPITALLETTERZHEWITHDESCENDER 497:CYRILLICSMALLLETTE",
     "RZHEWITHDESCENDER 498:CYRILLICCAPITALLETTERZEWITHDESCENDER 499:CYRILLICSMALLLETTERZEWITHDESC",
     "ENDER 49a:CYRILLICCAPITALLETTERKAWITHDESCENDER 49b:CYRILLICSMALLLETTERKAWITHDESCENDER 49c:CY",
     "RILLICCAPITALLETTERKAWITHVERTICALSTROKE 49d:CYRILLICSMALLLETTERKAWITHVERTICALSTROKE 49e:CYRI",
     "LLICCAPITALLETTERKAWITHSTROKEzSMALLLETTERKAWITHSTROKExCAPITALLETTERBASHKIRKAwSMALLLETTERBASH",
     "KIRKAuCAPITALLETTERENWITHDESCENDER 4a3:CYRILLICSMALLLETTERENWITHDESCENDER 4a4:CYRILLICCAPITA",
     "LLIGATUREENGHEuSMALLLIGATUREENGHEsCAPITALLETTERPEWITHMIDDLEHOOK 4a7:CYRILLICSMALLLETTERPEWIT",
     "HMIDDLEHOOK 4a8:CYRILLICCAPITALLETTERABKHASIANHAySMALLLETTERABKHASIANHAwCAPITALLETTERESWITHD",
     "ESCENDER 4ab:CYRILLICSMALLLETTERESWITHDESCENDER 4ac:CYRILLICCAPITALLETTERTEWITHDESCENDER 4ad",
     ":CYRILLICSMALLLETTERTEWITHDESCENDER 4ae:CYRILLICCAPITALLETTERSTRAIGHTUwSMALLLETTERSTRAIGHTUu",
     "CAPITALLETTERSTRAIGHTUWITHSTROKE 4b1:CYRILLICSMALLLETTERSTRAIGHTUWITHSTROKE 4b2:CYRILLICCAPI",
     "TALLETTERHAWITHDESCENDER 4b3:CYRILLICSMALLLETTERHAWITHDESCENDER 4b4:CYRILLICCAPITALLIGATURET",
     "ETSEuSMALLLIGATURETETSEsCAPITALLETTERCHEWITHDESCENDER 4b7:CYRILLICSMALLLETTERCHEWITHDESCENDE",
     "R 4b8:CYRILLICCAPITALLETTERCHEWITHVERTICALSTROKE 4b9:CYRILLICSMALLLETTERCHEWITHVERTICALSTROK",
     "E 4ba:CYRILLICCAPITALLETTERSHHArSMALLLETTERSHHApCAPITALLETTERABKHASIANCHEzSMALLLETTERABKHASI",
     "ANCHExCAPITALLETTERABKHASIANCHEWITHDESCENDER 4bf:CYRILLICSMALLLETTERABKHASIANCHEWITHDESCENDE",
     "R 4c0:CYRILLICLETTERPALOCHKAoCAPITALLETTERZHEWITHBREVEzSMALLLETTERZHEWITHBREVExCAPITALLETTER",
     "KAWITHHOOKxSMALLLETTERKAWITHHOOKvCAPITALLETTERELWITHTAILxSMALLLETTERELWITHTAILvCAPITALLETTER",
     "ENWITHHOOKxSMALLLETTERENWITHHOOKvCAPITALLETTERENWITHTAILxSMALLLETTERENWITHTAILvCAPITALLETTER",
     "KHAKASSIANCHE 4cc:CYRILLICSMALLLETTERKHAKASSIANCHEyCAPITALLETTEREMWITHTAILxSMALLLETTEREMWITH",
     "TAILkPALOCHKAtCAPITALLETTERAWITHBREVExSMALLLETTERAWITHBREVEvCAPITALLETTERAWITHDIAERESIS 4d3:",
     "CYRILLICSMALLLETTERAWITHDIAERESISzCAPITALLIGATUREAIEsSMALLLIGATUREAIEqCAPITALLETTERIEWITHBRE",
     "VEySMALLLETTERIEWITHBREVEwCAPITALLETTERSCHWAsSMALLLETTERSCHWAqCAPITALLETTERSCHWAWITHDIAERESI",
     "S 4db:CYRILLICSMALLLETTERSCHWAWITHDIAERESIS 4dc:CYRILLICCAPITALLETTERZHEWITHDIAERESIS 4dd:CY",
     "RILLICSMALLLETTERZHEWITHDIAERESIS 4de:CYRILLICCAPITALLETTERZEWITHDIAERESIS 4df:CYRILLICSMALL",
     "LETTERZEWITHDIAERESIS 4e0:CYRILLICCAPITALLETTERABKHASIANDZEzSMALLLETTERABKHASIANDZExCAPITALL",
     "ETTERIWITHMACRONySMALLLETTERIWITHMACRONwCAPITALLETTERIWITHDIAERESIS 4e5:CYRILLICSMALLLETTERI",
     "WITHDIAERESISzCAPITALLETTEROWITHDIAERESIS 4e7:CYRILLICSMALLLETTEROWITHDIAERESISzCAPITALLETTE",
     "RBARREDOuSMALLLETTERBARREDOsCAPITALLETTERBARREDOWITHDIAERESIS 4eb:CYRILLICSMALLLETTERBARREDO",
     "WITHDIAERESIS 4ec:CYRILLICCAPITALLETTEREWITHDIAERESIS 4ed:CYRILLICSMALLLETTEREWITHDIAERESISz",
     "CAPITALLETTERUWITHMACRONySMALLLETTERUWITHMACRONwCAPITALLETTERUWITHDIAERESIS 4f1:CYRILLICSMAL",
     "LLETTERUWITHDIAERESISzCAPITALLETTERUWITHDOUBLEACUTE 4f3:CYRILLICSMALLLETTERUWITHDOUBLEACUTE ",
     "4f4:CYRILLICCAPITALLETTERCHEWITHDIAERESIS 4f5:CYRILLICSMALLLETTERCHEWITHDIAERESIS 4f6:CYRILL",
     "ICCAPITALLETTERGHEWITHDESCENDER 4f7:CYRILLICSMALLLETTERGHEWITHDESCENDER 4f8:CYRILLICCAPITALL",
     "ETTERYERUWITHDIAERESIS 4f9:CYRILLICSMALLLETTERYERUWITHDIAERESIS 4fa:CYRILLICCAPITALLETTERGHE",
     "WITHSTROKEANDHOOK 4fb:CYRILLICSMALLLETTERGHEWITHSTROKEANDHOOK 4fc:CYRILLICCAPITALLETTERHAWIT",
     "HHOOKxSMALLLETTERHAWITHHOOKvCAPITALLETTERHAWITHSTROKEzSMALLLETTERHAWITHSTROKExCAPITALLETTERK",
     "OMIDEtSMALLLETTERKOMIDErCAPITALLETTERKOMIDJEuSMALLLETTERKOMIDJEsCAPITALLETTERKOMIZJEuSMALLLE",
     "TTERKOMIZJEsCAPITALLETTERKOMIDZJEvSMALLLETTERKOMIDZJEtCAPITALLETTERKOMILJEuSMALLLETTERKOMILJ",
     "EsCAPITALLETTERKOMINJEuSMALLLETTERKOMINJEsCAPITALLETTERKOMISJEuSMALLLETTERKOMISJEsCAPITALLET",
     "TERKOMITJEuSMALLLETTERKOMITJEsCAPITALLETTERREVERSEDZExSMALLLETTERREVERSEDZEvCAPITALLETTERELW",
     "ITHHOOKxSMALLLETTERELWITHHOOKvCAPITALLETTERLHAqSMALLLETTERLHAoCAPITALLETTERRHAqSMALLLETTERRH",
     "AoCAPITALLETTERYAEqSMALLLETTERYAEoCAPITALLETTERQApSMALLLETTERQAnCAPITALLETTERWEpSMALLLETTERW",
     "EnCAPITALLETTERALEUTKAuSMALLLETTERALEUTKAsCAPITALLETTERELWITHMIDDLEHOOK 521:CYRILLICSMALLLET",
     "TERELWITHMIDDLEHOOK 522:CYRILLICCAPITALLETTERENWITHMIDDLEHOOK 523:CYRILLICSMALLLETTERENWITHM",
     "IDDLEHOOK 524:CYRILLICCAPITALLETTERPEWITHDESCENDER 525:CYRILLICSMALLLETTERPEWITHDESCENDER 52",
     "6:CYRILLICCAPITALLETTERSHHAWITHDESCENDER 527:CYRILLICSMALLLETTERSHHAWITHDESCENDER 528:CYRILL",
     "ICCAPITALLETTERENWITHLEFTHOOK 529:CYRILLICSMALLLETTERENWITHLEFTHOOKzCAPITALLETTERDZZHEsSMALL",
     "LETTERDZZHEqCAPITALLETTERDCHErSMALLLETTERDCHEpCAPITALLETTERELWITHDESCENDER 52f:CYRILLICSMALL",
     "LETTERELWITHDESCENDER 531:ARMENIANCAPITALLETTERAYBdBENdGIMdDAcECHdZAcEHbTcTOcZHEdINIdLIWNeXE",
     "HdCAcKENdHOcJAcGHADeCHEHeMENdYIcNOWdSHAdVOcCHAdPEHdJHEHeRAcSEHdVEWdTIWNeREHdCOcYIWNePIWReKEH",
     "dOHcFEH 559:ARMENIANMODIFIERLETTERLEFTHALFRING 55a:ARMENIANAPOSTROPHEkEMPHASISMARKlXCLAMATIO",
     "NMARKpCOMMAfQUESTIONMARKmABBREVIATIONMARKqSMALLLETTERTURNEDAYBjAYBdBENdGIMdDAcECHdZAcEHbTcTO",
     "cZHEdINIdLIWNeXEHdCAcKENdHOcJAcGHADeCHEHeMENdYIcNOWdSHAdVOcCHAdPEHdJHEHeRAcSEHdVEWdTIWNeREHd",
     "COcYIWNePIWReKEHdOHcFEHiIGATUREECHYIWNoETTERYIWITHSTROKExFULLSTOPiHYPHEN 58d:RIGHTFACINGARME",
     "NIANETERNITYSIGN 58e:LEFTFACINGARMENIANETERNITYSIGN 58f:ARMENIANDRAMSIGN 591:HEBREWACCENTETN",
     "AHTAhSEGOLeHALSHELETkZAQEFQATANfGADOLkTIPEHAgREVIAfZARQAfPASHTAgYETIVfTEVIRfGERESHaMUQDAMjSH",
     "AYIMjQARNEYPARAkTELISHAGEDOLAnPAZERfATNAHHAFUKHlMUNAHeAHAPAKHhERKHAaKEFULAmDARGAfQADMAfTELIS",
     "HAQETANAnYERAHBENYOMOmOLEdILUYeDEHIeZINORlMARKMASORACIRCLEqPOINTSHEVAfHATAFSEGOLfPATAHfQAMAT",
     "SkIRIQfTSEREfSEGOLfPATAHfQAMATSgHOLAMaHASERFORVAVqQUBUTSgDAGESHORMAPIQnMETEGjUNCTUATIONMAQAF",
     "pOINTRAFEiUNCTUATIONPASEQpOINTSHINDOTgINDOTkUNCTUATIONSOFPASUQtMARKUPPERDOTiLOWERDOTmPUNCTUA",
     "TIONNUNHAFUKHAuOINTQAMATSQATAN 5d0:HEBREWLETTERALEFeBETdGIMELfDALETfHEcVAVdZAYINfHETdTETdYOD",
     "dFINALKAFiKAFdLAMEDfFINALMEMiMEMdFINALNUNiNUNdSAMEKHgAYINeFINALPEhPEcFINALTSADIkTSADIfQOFdRE",
     "SHeSHINeTAV 5ef:HEBREWYODTRIANGLElLIGATUREYIDDISHDOUBLEVAVjVAVYODgDOUBLEYODyPUNCTUATIONGERES",
     "HdSHAYIM 600:ARABICNUMBERSIGNkSIGNSANAHjFOOTNOTEMARKERoSIGNSAFHAdMVATkNUMBERMARKABOVEpINDICC",
     "UBEROOTiFOURTHROOTpRAYdINDICPERMILLESIGNjTENTHOUSANDSIGN 60b:AFGHANISIGNkRABICCOMMAfDATESEPA",
     "RATORnPOETICVERSESIGNpSIGNMISRAfSALLALLAHOUALAYHEWASSALLAM 611:ARABICSIGNALAYHEASSALLAMoRAHM",
     "ATULLAHALAYHEpDIALLAHOUANHUpTAKHALLUSmMALLHIGHTAHdLIGATUREALEFWITHLAMWITHYEH 617:ARABICSMALL",
     "HIGHZAINiFATHAfDAMMAfKASRAjEMICOLONjLETTERMARKkENDOFTEXTMARKnTRIPLEDOTPUNCTUATIONMARKyQUESTI",
     "ONMARKmLETTERKASHMIRIYEHlHAMZAfALEFWITHMADDAABOVEkHAMZAABOVEsWAWWITHHAMZAABOVErALEFWITHHAMZA",
     "BELOWsYEHWITHHAMZAABOVErALEFeBEHdTEHMARBUTAhcHEHeJEEMeHAHdKHAHeDALdTHALeREHdZAINeSEENdHEENeA",
     "DdDADdTAHdZAHdAINdGHAINfKEHEHWITHTWODOTSABOVElHREEDOTSBELOWxFARSIYEHWITHINVERTEDVjTWODOTSABO",
     "VElHREEDOTSABOVE 640:ARABICTATWEELhLETTERFEHdQAFdKAFdLAMdMEEMeNOONeHEHdWAWdALEFMAKSURAlYEHjF",
     "ATHATANiDAMMATANiKASRATANiFATHAfDAMMAfKASRAfSHADDAfUKUNfMADDAHABOVElHAMZAABOVEfBELOWkSUBSCRI",
     "PTALEFnINVERTEDDAMMAnMARKNOONGHUNNAoZWARAKAYiVOWELSIGNSMALLVABOVElINVERTEDSMALLVABOVEtDOTBEL",
     "OWrREVERSEDDAMMAnFATHAWITHTWODOTSqWAVYHAMZABELOWoINDICDIGITZEROeONEdTWOcHREEfFOURdIVEeSIXcEV",
     "ENfEIGHTfNINEoPERCENTSIGNlDECIMALSEPARATORqTHOUSANDSSEPARATORsFIVEPOINTEDSTARpLETTERDOTLESSB",
     "EHdQAFkSUPERSCRIPTALEFpALEFWASLAeITHWAVYHAMZAABOVEfBELOWwHIGHHAMZAaALEFeWAWmUWITHHAMZAABOVEp",
     "HIGHHAMZAYEHmTTEHaEHgBEEHeTEHWITHRINGeTHREEDOTSABOVEDOWNWARDS 67e:ARABICLETTERPEHdTEHEHfBEHE",
     "HfHAHWITHHAMZAABOVEkTWODOTSVERTICALABOVE 683:ARABICLETTERNYEHeDYEHeHAHWITHTHREEDOTSABOVEvTCH",
     "EHaEHhDDALdALWITHRINGeDOTBELOWaANDSMALLTAHyHALeDAHALfULcALWITHTHREEDOTSABOVEDOWNWARDSxFOURDO",
     "TSABOVEuRREHdEHWITHSMALLVgRINGeDOTBELOWiSMALLVBELOWlDOTBELOWANDDOTABOVEtTWODOTSABOVEtJEHdREH",
     "WITHFOURDOTSABOVEuSEENWITHDOTBELOWANDDOTABOVEtTHREEDOTSBELOWaANDTHREEDOTSABOVE 69d:ARABICLET",
     "TERSADWITHTWODOTSBELOWlHREEDOTSABOVEvTAHWITHTHREEDOTSABOVEvAINWITHTHREEDOTSABOVEvDOTLESSFEHk",
     "FEHWITHDOTMOVEDBELOWkBELOWpVEHdFEHWITHTHREEDOTSBELOWvPEHEHfQAFWITHDOTABOVEiTHREEDOTSABOVEvKE",
     "HEHfSWASHKAFiKAFWITHRINGeDOTABOVEpNGcKAFWITHTHREEDOTSBELOWvGAFaWITHRINGlNGOEHfGAFWITHTWODOTS",
     "BELOWsUEHdAFWITHTHREEDOTSABOVEvLAMWITHSMALLVgDOTABOVEiTHREEDOTSABOVEfBELOWvNOONWITHDOTBELOWm",
     "GHUNNAkRNOONfNOONWITHRINGeTHREEDOTSABOVEwHEHDOACHASHMEEoTCHEHWITHDOTABOVErHEHWITHYEHABOVEmGO",
     "ALaWITHHAMZAABOVEvTEHMARBUTAGOALoWAWWITHRINGlKIRGHIZOEjOEcUbYUcKIRGHIZYUjWAWWITHTWODOTSABOVE",
     "tVEcFARSIYEHiYEHWITHTAILeSMALLVnWAWWITHDOTABOVEpEbYEHWITHTHREEDOTSBELOWsBARREEaWITHHAMZAABOV",
     "E 6d4:ARABICFULLSTOPiLETTERAEiSMALLHIGHLIGATURESADWITHLAMWITHALEFMAKSURAzQAFWITHLAMWITHALEFM",
     "AKSURA 6d8:ARABICSMALLHIGHMEEMINITIALFORMpLAMALEFhJEEMeTHREEDOTSjSEENnENDOFAYAHjSTARTOFRUBEL",
     "HIZBpMALLHIGHROUNDEDZEROlUPRIGHTRECTANGULARZEROwDOTLESSHEADOFKHAHrMEEMISOLATEDFORMuLOWSEENhH",
     "IGHMADDAjWAWdYEHdHIGHYEHdNOONnPLACEOFSAJDAHnEMPTYCENTRELOWSTOPhHIGHSTOPtROUNDEDHIGHSTOPWITHF",
     "ILLEDCENTRE 6ed:ARABICSMALLLOWMEEMmLETTERDALWITHINVERTEDVqREHWITHINVERTEDV 6f0:EXTENDEDARABI",
     "CINDICDIGITZEROeONEdTWOcHREEfFOURdIVEeSIXcEVENfEIGHTfNINE 6fa:ARABICLETTERSHEENWITHDOTBELOWr",
     "DADWITHDOTBELOWpGHAINWITHDOTBELOWxSIGNSINDHIAMPERSANDjPOSTPOSITIONMENzLETTERHEHWITHINVERTEDV",
     " 700:SYRIACENDOFPARAGRAPHoSUPRALINEARFULLSTOPrBLINEARFULLSTOPpPRALINEARCOLONoBLINEARCOLONoHO",
     "RIZONTALCOLONpCOLONSKEWEDLEFTeRIGHTqSUPRALINEARCOLONSKEWEDLEFTyBLINEARCOLONSKEWEDRIGHTzCONTR",
     "ACTIONlHARKLEANOBELUSgMETOBELUSjASTERISCUS 70f:SYRIACABBREVIATIONMARKqLETTERALAPHfSUPERSCRIP",
     "TALAPHqBETHeGAMALaGARSHUNInDALATHfOTLESSDALATHRISHrHEcWAWdZAINeHETHeTETHaGARSHUNImYUDHaHEgKA",
     "PHeLAMADHgMIMdNUNdSEMKATHhFINALSEMKATHmEbPEcREVERSEDPEkSADHEfQAPHeRISHeSHINeTAWdPERSIANBHETH",
     "fGHAMALgDHALATHuPTHAHAABOVEfBELOWfDOTTEDmZQAPHAABOVEfBELOWfDOTTEDmRBASAABOVEfBELOWkDOTTEDZLA",
     "MAHORIZONTALkANGULARsHBASAABOVEfBELOWfESASADOTTEDqESASAABOVEfBELOWkRWAHAfFEMININEDOTlQUSHSHA",
     "YAjRUKKAKHAiTWOVERTICALDOTSABOVEfBELOWtHREEDOTSABOVEfBELOWoOBLIQUELINEABOVEfBELOWqMUSICfBARR",
     "EKH 74d:SYRIACLETTERSOGDIANZHAINfKHAPHfFEvARABICLETTERBEHWITHTHREEDOTSHORIZONTALLYBELOW 751:",
     "ARABICLETTERBEHWITHDOTBELOWANDTHREEDOTSABOVEzTHREEDOTSPOINTINGUPWARDSBELOWaANDTWODOTSABOVE 7",
     "54:ARABICLETTERBEHWITHTWODOTSBELOWANDDOTABOVExINVERTEDSMALLVBELOWtSMALLVnHAHWITHTWODOTSABOVE",
     "lHREEDOTSPOINTINGUPWARDSBELOW 759:ARABICLETTERDALWITHTWODOTSVERTICALLYBELOWANDSMALLTAH 75a:A",
     "RABICLETTERDALWITHINVERTEDSMALLVBELOW 75b:ARABICLETTERREHWITHSTROKEnSEENWITHFOURDOTSABOVEvAI",
     "NWITHTWODOTSABOVElHREEDOTSPOINTINGDOWNWARDSABOVE 75f:ARABICLETTERAINWITHTWODOTSVERTICALLYABO",
     "VE 760:ARABICLETTERFEHWITHTWODOTSBELOWlHREEDOTSPOINTINGUPWARDSBELOW 762:ARABICLETTERKEHEHWIT",
     "HDOTABOVEiTHREEDOTSABOVEfPOINTINGUPWARDSBELOW 765:ARABICLETTERMEEMWITHDOTABOVEfBELOWqNOONWIT",
     "HTWODOTSBELOWmSMALLTAHdVoLAMWITHBARkREHWITHTWODOTSVERTICALLYABOVEwHAMZAABOVErSEENWITHTWODOTS",
     "VERTICALLYABOVE 76e:ARABICLETTERHAHWITHSMALLARABICLETTERTAHBELOWfANDTWODOTS 770:ARABICLETTER",
     "SEENWITHSMALLARABICLETTERTAHANDTWODOTS 771:ARABICLETTERREHWITHSMALLARABICLETTERTAHANDTWODOTS",
     " 772:ARABICLETTERHAHWITHSMALLARABICLETTERTAHABOVE 773:ARABICLETTERALEFWITHEXTENDEDARABICINDI",
     "CDIGITTWOABOVEhHREEABOVE 775:ARABICLETTERFARSIYEHWITHEXTENDEDARABICINDICDIGITTWOABOVEhHREEAB",
     "OVEkFOURBELOW 778:ARABICLETTERWAWWITHEXTENDEDARABICINDICDIGITTWOABOVEhHREEABOVE 77a:ARABICLE",
     "TTERYEHBARREEWITHEXTENDEDARABICINDICDIGITTWOABOVEhHREEABOVE 77c:ARABICLETTERHAHWITHEXTENDEDA",
     "RABICINDICDIGITFOURBELOW 77d:ARABICLETTERSEENWITHEXTENDEDARABICINDICDIGITFOURABOVE 77e:ARABI",
     "CLETTERSEENWITHINVERTEDVrKAFWITHTWODOTSABOVE 780:THAANALETTERHAAdSHAVIYANIjNOONUfRAAdBAAdLHA",
     "VIYANIjKAAFUfALIFUfVAAVUfMEEMUfFAAFUfDHAALUgTHAAeLAAMUfGAAFUeNAVIYANIjSEENUfDAVIYANIiZAVIYAN",
     "IiTAVIYANIiYAAdPAVIYANIiJAVIYANIiCHAVIYANIjTTAAeHHAAeKHAAeTHAALUgZAAdSHEENUfAADHUgDAADHUgTOc",
     "ZOcAINUeGHAINUgQAAFUfWAAVUlABAFILIgABAAFILIjIBIFILIhEEBEEFILIjUBUFILIhOOBOOFILIjEBEFILIgYBEY",
     "FILIjOBOFILIgABOAFILIjSUKUNfLETTERNAA 7c0:NKODIGITZEROeONEdTWOcHREEfFOURdIVEeSIXcEVENfEIGHTf",
     "NINEjLETTERAbEEcIbEbUbOObbDAGBASINNAkNbBAcPAcTAcJAcCHAdDAcRAbRAdSAcGBAdFAcKAcLAcNAWOLOSOiMAc",
     "NYAcAcHAcWAcYAcNYAWOLOSOjJONAJAcCHAdRAmCOMBININGSHORTHIGHTONEiLOWTONEhRISINGTONEpLONGDESCEND",
     "INGTONEoHIGHTONEiLOWTONEhRISINGTONEoNASALIZATIONMARKqDOUBLEDOTABOVExHIGHTONEAPOSTROPHEsLOWTO",
     "NEAPOSTROPHErSYMBOLOODENNENiGBAKURUNENqCOMMAfEXCLAMATIONMARKpLAJANYALAN 7fd:NKODANTAYALANjOR",
     "OMESIGNkTAMANSIGNmSAMARITANLETTERALAFeBITdGAMANfDALATfIYcBAAdZENdITcTITdYUTdKAAFeLABATfMIMdN",
     "UNdSINGAAThINcFIcTSAADIYhQUFdRISHeSHANeTAAFkMARKINaALAFgOCCLUSIONjDAGESHjODIFIERLETTEREPENTH",
     "ETICYUT 81b:SAMARITANMARKEPENTHETICYUTrVOWELSIGNLONGEfEbOVERLONGAAkLONGAAgAAcOVERLONGAjLONGA",
     "fAkMODIFIERLETTERSHORTAuVOWELSIGNSHORTAgLONGUfUkMODIFIERLETTERIpVOWELSIGNLONGIfIbObSUKUNoMAR",
     "KNEQUDAA 830:SAMARITANPUNCTUATIONNEQUDAAhAFSAAQfNGEDfBAUdATMAAUgSHIYYAALAAvABBREVIATIONMARKq",
     "PUNCTUATIONMELODICQITSAmZIQAAfQITSAfZAEFeTURUeARKAANUhSOFMASHFAATlANNAAU 840:MANDAICLETTERHA",
     "LQAfABbGbDbHcUSHENNAhAZcITcATTcKSAcbLbMbNbScINcAPbSZcQbRbSHcTcDUSHENNAiKADdAINjAFFRICATIONMA",
     "RKpVOCALIZATIONMARKqGEMINATIONMARK 85e:MANDAICPUNCTUATION 860:SYRIACLETTERMALAYALAMNGAdJAcNY",
     "AdTTAdNNAbNAeBHAdRAcLLAbLAeSSA 870:ARABICLETTERALEFWITHATTACHEDFATHAfTOPRIGHTFATHAvRIGHTMIDD",
     "LESTROKErLEFTMIDDLESTROKEqATTACHEDKASRAfBOTTOMRIGHTKASRAqROUNDDOTABOVEmIGHTROUNDDOTnLEFTROUN",
     "DDOTmROUNDDOTBELOWvDOTABOVEiATTACHEDTOPRIGHTFATHAANDDOTABOVE 87c:ARABICLETTERALEFWITHRIGHTMI",
     "DDLESTROKEANDDOTABOVE 87d:ARABICLETTERALEFWITHATTACHEDBOTTOMRIGHTKASRAANDDOTABOVE 87e:ARABIC",
     "LETTERALEFWITHATTACHEDTOPRIGHTFATHAANDLEFTRING 87f:ARABICLETTERALEFWITHRIGHTMIDDLESTROKEANDL",
     "EFTRING 880:ARABICLETTERALEFWITHATTACHEDBOTTOMRIGHTKASRAANDLEFTRING 881:ARABICLETTERALEFWITH",
     "ATTACHEDRIGHTHAMZAkLEFTHAMZA 883:ARABICTATWEELWITHOVERSTRUCKHAMZAfWAWnTWODOTSBELOWxLETTERTHI",
     "NYEHnBASELINEROUNDDOTqRAISEDROUNDDOToLETTERNOONWITHINVERTEDSMALLVwHAHWITHINVERTEDSMALLVBELOW",
     " 88b:ARABICLETTERTAHWITHDOTBELOWiTHREEDOTSBELOWvKEHEHWITHTWODOTSVERTICALLYBELOW 88e:ARABICVE",
     "RTICALTAIL 890:ARABICPOUNDMARKABOVEnIASTREMARKABOVE 898:ARABICSMALLHIGHWORDALJUZnLOWWORDISHM",
     "AAMgMAALAgTASHEELtMADDAWAAJIBlSUPERSCRIPTALEFMOKHASSASyDOUBLEDMADDAmHALFMADDAOVERMADDAsLETTE",
     "RBEHWITHSMALLVBELOWlHAMZAABOVErJEEMWITHTWODOTSABOVEuTAHWITHTWODOTSABOVEtFEHWITHDOTBELOWANDTH",
     "REEDOTSABOVE 8a5:ARABICLETTERQAFWITHDOTBELOWpLAMWITHDOUBLEBARqMEEMWITHTHREEDOTSABOVEwYEHWITH",
     "TWODOTSBELOWANDHAMZAABOVEkDOTABOVE 8aa:ARABICLETTERREHWITHLOOPlWAWWITHDOTWITHINqROHINGYAYEHl",
     "LOWALEFhDALWITHTHREEDOTSBELOWvSADWITHTHREEDOTSBELOWvGAFWITHINVERTEDSTROKEvSTRAIGHTWAWlZAINWI",
     "THINVERTEDVABOVEwAINWITHTHREEDOTSBELOWvKAFWITHDOTBELOWpQAFWITHDOTBELOWANDNODOTSABOVE 8b6:ARA",
     "BICLETTERBEHWITHSMALLMEEMABOVEvPEHWITHSMALLMEEMABOVEvTEHWITHSMALLTEHABOVEuREHWITHSMALLNOONAB",
     "OVEvYEHWITHTWODOTSBELOWANDSMALLNOONABOVE 8bb:ARABICLETTERAFRICANFEHdQAFdNOONlPEHWITHSMALLVnT",
     "EHWITHSMALLVmTEHWITHSMALLVnCHEHWITHSMALLVpKEHEHWITHSMALLVpGHAINWITHTHREEDOTSABOVExAFRICANQAF",
     "WITHTHREEDOTSABOVE 8c5:ARABICLETTERJEEMWITHTHREEDOTSABOVEfBELOWwLAMWITHSMALLARABICLETTERTAHA",
     "BOVE 8c8:ARABICLETTERGRAFkSMALLFARSIYEHiHIGHFARSIYEHiYEHBARREEWITHTWODOTSBELOWzWORDSAHhZAHmL",
     "ARGEROUNDDOTABOVEfBELOWsSUKUNBELOWkLARGECIRCLEBELOWlROUNDDOTINSIDECIRCLEBELOW 8d3:ARABICSMAL",
     "LLOWWAWgHIGHWORDARRUBjSADdAINdQAFdNOONWITHKASRArLOWNOONWITHKASRAqHIGHWORDATHTHALATHAkSSAJDAg",
     "NNISFgSAKTAfQIFdWAQFAjFOOTNOTEMARKERoSIGNSAFHAsDISPUTEDENDOFAYAHrTURNEDDAMMABELOWqCURLYFATHA",
     "fDAMMAfKASRAfFATHATANiDAMMATANiKASRATANnTONEONEDOTABOVElTWODOTSABOVEmLOOPABOVEjONEDOTBELOWlT",
     "WODOTSBELOWmLOOPBELOWnOPENFATHATANiDAMMATANiKASRATANmSMALLHIGHWAWmFATHAWITHRINGeDOTABOVErKAS",
     "RAWITHDOTBELOWrLEFTARROWHEADABOVEsRIGHTARROWHEADABOVEtLEFTARROWHEADBELOWsRIGHTARROWHEADBELOW",
     "tDOUBLERIGHTARROWHEADABOVEaWITHDOT 8fd:ARABICRIGHTARROWHEADABOVEWITHDOT 8fe:ARABICDAMMAWITHD",
     "OTmMARKSIDEWAYSNOONGHUNNA 900:DEVANAGARISIGNINVERTEDCANDRABINDUtCANDRABINDUlANUSVARAiVISARGA",
     "lLETTERSHORTAgAaAcIaIcUaUcVOCALICRbLiCANDRAEhSHORTEgEbAIcCANDRAOhSHORTOgObAUcKAbHAdGAbHAdNGA",
     "dCAbHAdJAbHAdNYAdTTAbHAeDDAbHAeNNAdTAbHAdDAbHAdNAbNNAePAbHAdBAbHAdMAcYAcRAbRAdLAbLAbLAeVAcSH",
     "AcSAcAcHAiVOWELSIGNOEbOEmSIGNNUKTAfAVAGRAHAmVOWELSIGNAAcIaIcUaUcVOCALICRaRjCANDRAEhSHORTEgEb",
     "AIcCANDRAOhSHORTOgObAUlSIGNVIRAMAkVOWELSIGNPRISHTHAMATRAEoAWlOMcSTRESSSIGNUDATTAgANUDATTAsGR",
     "AVEACCENTlACUTEACCENTlVOWELSIGNCANDRALONGElUEbUEmLETTERQAcKHHAeGHHAeZAcDDDHAfRHAdFAcYYAdVOCA",
     "LICRRcLLpVOWELSIGNVOCALICLaLsDANDAeOUBLEDANDAkIGITZEROeONEdTWOcHREEfFOURdIVEeSIXcEVENfEIGHTf",
     "NINEjABBREVIATIONSIGNqSIGNHIGHSPACINGDOTsLETTERCANDRAAhOEbOEdAWcUEbUEdMARWARIDDAkZHAdHEAVYYA",
     "hGGAdJJAdGLOTTALSTOPlDDDAeBBAtBENGALIANJIeSIGNCANDRABINDUlANUSVARAiVISARGA 985:BENGALILETTER",
     "AaAcIaIcUaUcVOCALICRbL 98f:BENGALILETTEREbAI 993:BENGALILETTERObAUcKAbHAdGAbHAdNGAdCAbHAdJAb",
     "HAdNYAdTTAbHAeDDAbHAeNNAdTAbHAdDAbHAdNA 9aa:BENGALILETTERPAbHAdBAbHAdMAcYAcRA 9b2:BENGALILET",
     "TERLA 9b6:BENGALILETTERSHAcSAcAcHA 9bc:BENGALISIGNNUKTAfAVAGRAHAmVOWELSIGNAAcIaIcUaUcVOCALIC",
     "RaR 9c7:BENGALIVOWELSIGNEbAI 9cb:BENGALIVOWELSIGNObAUlSIGNVIRAMAkLETTERKHANDATA 9d7:BENGALIA",
     "ULENGTHMARK 9dc:BENGALILETTERRRAcHA 9df:BENGALILETTERYYAdVOCALICRRcLLpVOWELSIGNVOCALICLaL 9e",
     "6:BENGALIDIGITZEROeONEdTWOcHREEfFOURdIVEeSIXcEVENfEIGHTfNINEjLETTERRAWITHMIDDLEDIAGONALoLOWE",
     "RDIAGONALzRUPEEMARKeSIGNjCURRENCYNUMERATORONEdTWOcHREEfFOUReONELESSTHANTHEDENOMINATOR 9f9:BE",
     "NGALICURRENCYDENOMINATORSIXTEEN 9fa:BENGALIISSHARgGANDAMARKjLETTERVEDICANUSVARAtABBREVIATION",
     "SIGNqSANDHIMARK a01:GURMUKHISIGNADAKBINDIjBINDIfVISARGA a05:GURMUKHILETTERAaAcIaIcUaU a0f:GU",
     "RMUKHILETTEREEcAI a13:GURMUKHILETTEROOcAUcKAbHAdGAbHAdNGAdCAbHAdJAbHAdNYAdTTAbHAeDDAbHAeNNAd",
     "TAbHAdDAbHAdNA a2a:GURMUKHILETTERPAbHAdBAbHAdMAcYAcRA a32:GURMUKHILETTERLAbLA a35:GURMUKHILE",
     "TTERVAcSHA a38:GURMUKHILETTERSAcHA a3c:GURMUKHISIGNNUKTA a3e:GURMUKHIVOWELSIGNAAcIaIcUaU a47",
     ":GURMUKHIVOWELSIGNEEcAI a4b:GURMUKHIVOWELSIGNOOcAUlSIGNVIRAMA a51:GURMUKHISIGNUDAAT a59:GURM",
     "UKHILETTERKHHAeGHHAeZAcRRA a5e:GURMUKHILETTERFA a66:GURMUKHIDIGITZEROeONEdTWOcHREEfFOURdIVEe",
     "SIXcEVENfEIGHTfNINEjTIPPIfADDAKfIRIdURAdEKONKARhSIGNYAKASHkABBREVIATIONSIGN a81:GUJARATISIGN",
     "CANDRABINDUlANUSVARAiVISARGA a85:GUJARATILETTERAaAcIaIcUaUcVOCALICRbLoVOWELCANDRAE a8f:GUJAR",
     "ATILETTEREbAIiVOWELCANDRAO a93:GUJARATILETTERObAUcKAbHAdGAbHAdNGAdCAbHAdJAbHAdNYAdTTAbHAeDDA",
     "bHAeNNAdTAbHAdDAbHAdNA aaa:GUJARATILETTERPAbHAdBAbHAdMAcYAcRA ab2:GUJARATILETTERLAbLA ab5:GU",
     "JARATILETTERVAcSHAcSAcAcHA abc:GUJARATISIGNNUKTAfAVAGRAHAmVOWELSIGNAAcIaIcUaUcVOCALICRaRjCAN",
     "DRAE ac7:GUJARATIVOWELSIGNEbAIcCANDRAO acb:GUJARATIVOWELSIGNObAUlSIGNVIRAMA ad0:GUJARATIOM a",
     "e0:GUJARATILETTERVOCALICRRcLLpVOWELSIGNVOCALICLaL ae6:GUJARATIDIGITZEROeONEdTWOcHREEfFOURdIV",
     "EeSIXcEVENfEIGHTfNINEjABBREVIATIONSIGNqRUPEESIGN af9:GUJARATILETTERZHAjSIGNSUKUNeHADDAgMADDA",
     "HgTHREEDOTNUKTAABOVEsCIRCLENUKTAABOVEqTWOCIRCLENUKTAABOVE b01:ORIYASIGNCANDRABINDUlANUSVARAi",
     "VISARGA b05:ORIYALETTERAaAcIaIcUaUcVOCALICRbL b0f:ORIYALETTEREbAI b13:ORIYALETTERObAUcKAbHAd",
     "GAbHAdNGAdCAbHAdJAbHAdNYAdTTAbHAeDDAbHAeNNAdTAbHAdDAbHAdNA b2a:ORIYALETTERPAbHAdBAbHAdMAcYAc",
     "RA b32:ORIYALETTERLAbLA b35:ORIYALETTERVAcSHAcSAcAcHA b3c:ORIYASIGNNUKTAfAVAGRAHAmVOWELSIGNA",
     "AcIaIcUaUcVOCALICRaR b47:ORIYAVOWELSIGNEbAI b4b:ORIYAVOWELSIGNObAUlSIGNVIRAMA b55:ORIYASIGNO",
     "VERLINEmAILENGTHMARKlULENGTHMARK b5c:ORIYALETTERRRAcHA b5f:ORIYALETTERYYAdVOCALICRRcLLpVOWEL",
     "SIGNVOCALICLaL b66:ORIYADIGITZEROeONEdTWOcHREEfFOURdIVEeSIXcEVENfEIGHTfNINEjISSHARgLETTERWAi",
     "FRACTIONONEQUARTERhHALFhTHREEQUARTERSnONESIXTEENTHjEIGHTHjTHREESIXTEENTHS b82:TAMILSIGNANUSV",
     "ARAiVISARGA b85:TAMILLETTERAaAcIaIcUaU b8e:TAMILLETTEREaEcAI b92:TAMILLETTEROaOcAUcKA b99:TA",
     "MILLETTERNGAdCA b9c:TAMILLETTERJA b9e:TAMILLETTERNYAdTTA ba3:TAMILLETTERNNAdTA ba8:TAMILLETT",
     "ERNAbNNAePA bae:TAMILLETTERMAcYAcRAbRAdLAbLAbLAeVAcSHAcSAcAcHA bbe:TAMILVOWELSIGNAAcIaIcUaU ",
     "bc6:TAMILVOWELSIGNEaEcAI bca:TAMILVOWELSIGNOaOcAUlSIGNVIRAMA bd0:TAMILOM bd7:TAMILAULENGTHMA",
     "RK be6:TAMILDIGITZEROeONEdTWOcHREEfFOURdIVEeSIXcEVENfEIGHTfNINEjNUMBERTENdONEHUNDREDhTHOUSAN",
     "DrDAYSIGNhMONTHSIGNjYEARSIGNiDEBITSIGNjCREDITSIGNkASABOVESIGNlRUPEESIGNjNUMBERSIGN c00:TELUG",
     "USIGNCOMBININGCANDRABINDUABOVEyANDRABINDUlANUSVARAiVISARGAhCOMBININGANUSVARAABOVE c05:TELUGU",
     "LETTERAaAcIaIcUaUcVOCALICRbL c0e:TELUGULETTEREaEcAI c12:TELUGULETTEROaOcAUcKAbHAdGAbHAdNGAdC",
     "AbHAdJAbHAdNYAdTTAbHAeDDAbHAeNNAdTAbHAdDAbHAdNA c2a:TELUGULETTERPAbHAdBAbHAdMAcYAcRAbRAdLAbL",
     "AbLAeVAcSHAcSAcAcHA c3c:TELUGUSIGNNUKTAfAVAGRAHAmVOWELSIGNAAcIaIcUaUcVOCALICRaR c46:TELUGUVO",
     "WELSIGNEaEcAI c4a:TELUGUVOWELSIGNOaOcAUlSIGNVIRAMA c55:TELUGULENGTHMARKkAILENGTHMARK c58:TEL",
     "UGULETTERTSAdDZAdRRRA c5d:TELUGULETTERNAKAARAPOLLU c60:TELUGULETTERVOCALICRRcLLpVOWELSIGNVOC",
     "ALICLaL c66:TELUGUDIGITZEROeONEdTWOcHREEfFOURdIVEeSIXcEVENfEIGHTfNINE c77:TELUGUSIGNSIDDHAMl",
     "FRACTIONDIGITZEROFORODDPOWERSOFFOURwONEFORODDPOWERSOFFOURvTWOFORODDPOWERSOFFOURuHREEFORODDPO",
     "WERSOFFOURxONEFOREVENPOWERSOFFOURwTWOFOREVENPOWERSOFFOURvHREEFOREVENPOWERSOFFOUR c7f:TELUGUS",
     "IGNTUUMUpKANNADASIGNSPACINGCANDRABINDUsCANDRABINDUlANUSVARAiVISARGAhSIDDHAMlLETTERAaAcIaIcUa",
     "UcVOCALICRbL c8e:KANNADALETTEREaEcAI c92:KANNADALETTEROaOcAUcKAbHAdGAbHAdNGAdCAbHAdJAbHAdNYA",
     "dTTAbHAeDDAbHAeNNAdTAbHAdDAbHAdNA caa:KANNADALETTERPAbHAdBAbHAdMAcYAcRAbRAdLAbLA cb5:KANNADA",
     "LETTERVAcSHAcSAcAcHA cbc:KANNADASIGNNUKTAfAVAGRAHAmVOWELSIGNAAcIaIcUaUcVOCALICRaR cc6:KANNAD",
     "AVOWELSIGNEaEcAI cca:KANNADAVOWELSIGNOaOcAUlSIGNVIRAMA cd5:KANNADALENGTHMARKkAILENGTHMARK cd",
     "d:KANNADALETTERNAKAARAPOLLUmFA ce0:KANNADALETTERVOCALICRRcLLpVOWELSIGNVOCALICLaL ce6:KANNADA",
     "DIGITZEROeONEdTWOcHREEfFOURdIVEeSIXcEVENfEIGHTfNINE cf1:KANNADASIGNJIHVAMULIYAlUPADHMANIYAlC",
     "OMBININGANUSVARAABOVERIGHT d00:MALAYALAMSIGNCOMBININGANUSVARAABOVEvANDRABINDUlANUSVARAiVISAR",
     "GAlLETTERVEDICANUSVARAnAaAcIaIcUaUcVOCALICRbL d0e:MALAYALAMLETTEREaEcAI d12:MALAYALAMLETTERO",
     "aOcAUcKAbHAdGAbHAdNGAdCAbHAdJAbHAdNYAdTTAbHAeDDAbHAeNNAdTAbHAdDAbHAdNAbNNAePAbHAdBAbHAdMAcYA",
     "cRAbRAdLAbLAbLAeVAcSHAcSAcAcHAcTTTAkSIGNVERTICALBARVIRAMArCIRCULARVIRAMAoAVAGRAHAmVOWELSIGNA",
     "AcIaIcUaUcVOCALICRaR d46:MALAYALAMVOWELSIGNEaEcAI d4a:MALAYALAMVOWELSIGNOaOcAUlSIGNVIRAMAkLE",
     "TTERDOTREPHnSIGNPARA d54:MALAYALAMLETTERCHILLUMbYbLLLpAULENGTHMARKmFRACTIONONEONEHUNDREDANDS",
     "IXTIETHvFORTIETHlTHREEEIGHTIETHSpONETWENTIETHiENTHiTHREETWENTIETHSpONEFIFTHqLETTERARCHAICIIj",
     "VOCALICRRcLLpVOWELSIGNVOCALICLaL d66:MALAYALAMDIGITZEROeONEdTWOcHREEfFOURdIVEeSIXcEVENfEIGHT",
     "fNINEjNUMBERTENdONEHUNDREDhTHOUSANDrFRACTIONONEQUARTERhHALFhTHREEQUARTERSnONESIXTEENTHjEIGHT",
     "HjTHREESIXTEENTHSxDATEMARKiLETTERCHILLUNNbbRRcLaLcK d81:SINHALASIGNCANDRABINDUlANUSVARAYAkVI",
     "SARGAYA d85:SINHALALETTERAYANNAfAYANNAgEYANNAfEYANNAiIYANNAfIYANNAhUYANNAfUYANNAhIRUYANNAfUY",
     "ANNAiLUYANNAfUYANNAjEYANNAfEYANNAhAIYANNAhOYANNAfOYANNAhAUYANNA d9a:SINHALALETTERALPAPRAANAK",
     "AYANNArMAHAAPRAANAKAYANNAsALPAPRAANAGAYANNArMAHAAPRAANAGAYANNAsKANTAJANAASIKYAYArSANYAKAGAYA",
     "NNAoALPAPRAANACAYANNArMAHAAPRAANACAYANNAsALPAPRAANAJAYANNArMAHAAPRAANAJAYANNAsTAALUJANAASIKY",
     "AYAkSANYOOGANAAKSIKYAYA da6:SINHALALETTERSANYAKAJAYANNAoALPAPRAANATTAYANNAsMAHAAPRAANATTAYAN",
     "NAtALPAPRAANADDAYANNAsMAHAAPRAANADDAYANNAsUURDHAJANAYANNAqSANYAKADDAYANNApALPAPRAANATAYANNAr",
     "MAHAAPRAANATAYANNAsALPAPRAANADAYANNArMAHAAPRAANADAYANNAsDANTAJANAYANNA db3:SINHALALETTERSANY",
     "AKADAYANNAoALPAPRAANAPAYANNArMAHAAPRAANAPAYANNAsALPAPRAANABAYANNArMAHAAPRAANABAYANNAqYANNAhA",
     "MBABAYANNAlYAYANNAhRAYANNA dbd:SINHALALETTERDANTAJALAYANNA dc0:SINHALALETTERVAYANNAhTAALUJAS",
     "AYANNAoMUURDHAJASAYANNAqDANTAJASAYANNAoHAYANNAhMUURDHAJALAYANNAqFAYANNA dca:SINHALASIGNALLAK",
     "UNA dcf:SINHALAVOWELSIGNAELAPILLAjKETTIAEDAPILLAoDIGAAEDAPILLAnKETTIISPILLAmDIGAISPILLAlKETT",
     "IPAAPILLA dd6:SINHALAVOWELSIGNDIGAPAAPILLA dd8:SINHALAVOWELSIGNGAETTAPILLAlKOMBUVAhDIGAKOMBU",
     "VAlKOMBUDEKAeVAHAAAELAPILLAjDIGAAELAPILLAnGAYANUKITTAvGAYANUKITTA de6:SINHALALITHDIGITZEROeO",
     "NEdTWOcHREEfFOURdIVEeSIXcEVENfEIGHTfNINE df2:SINHALAVOWELSIGNDIGAGAETTAPILLAjYANUKITTAyPUNCT",
     "UATIONKUNDDALIYA e01:THAICHARACTERKOKAIeHOKHAIcUATdWAIdONeRAKHANGkNGONGUgCHOCHANcINGdANGiSOS",
     "OeCHOCHOEhYOYINGgDOCHADAhTOPATAKgHOTHANeNANGMONTHOkPHUTHAOkNONENfDODEKfTOTAOeHOTHUNGdAHANeON",
     "GiNONUeBOBAIMAIiPOPLAeHOPHUNGiFOFAePHOPHANhFOFANfPHOSAMPHAOkMOMAeYOYAKfRORUAeUcLOLINGfUcWOWA",
     "ENgSOSALAeRUSIeSUAfHOHIPfLOCHULAhOANGeHONOKHUKiPAIYANNOIjSARAAfMAIHANAKATkSARAAAbMcIaIcUEaEc",
     "aUgPHINTHU e3f:THAICURRENCYSYMBOLBAHTrHARACTERSARAEbAEcObAIMAIMUANdALAIoLAKKHANGYAOlMAIYAMOK",
     "fTAIKHUgEKcTHOcRIdCHATTAWAlTHANTHAKHATlNIKHAHITiYAMAKKANiFONGMANqDIGITZEROeONEdTWOcHREEfFOUR",
     "dIVEeSIXcEVENfEIGHTfNINEjCHARACTERANGKHANKHUkKHOMUT e81:LAOLETTERKObHOSUNG e84:LAOLETTERKHOT",
     "AM e86:LAOLETTERPALIGHAhNGOdCOcPALICHAhSOTAM e8c:LAOLETTERPALIJHAhNYOdPALINYAdTTAbHAeDDAbHAe",
     "NNAhDOcTObHOSUNGeTAMgPALIDHAhNOcBOcPObHOSUNGhFOTAMfPHOTAMgFOSUNGgPALIBHAhMOcYOcLOLING ea5:LA",
     "OLETTERLOLOOT ea7:LAOLETTERWOcSANSKRITSHAcSAkOSUNGgHOSUNGgPALILLAhObHOTAMlELLIPSISiVOWELSIGN",
     "AbMAIKANgAAbMcIaIcYaYcUaUlSIGNPALIVIRAMAoVOWELSIGNMAIKONpSEMIVOWELSIGNLOcNYO ec0:LAOVOWELSIG",
     "NEaIcObAYbI ec6:LAOKOLA ec8:LAOTONEMAIEKcTHOcIcCATAWAnCANCELLATIONMARKqNIGGAHITAjYAMAKKAN ed",
     "0:LAODIGITZEROeONEdTWOcHREEfFOURdIVEeSIXcEVENfEIGHTfNINE edc:LAOHONOcMOeLETTERKHMUGOcNYO f00",
     ":TIBETANSYLLABLEOMkMARKGTERYIGMGOTRUNCATEDAk-UMRNAMBCADMAkGTERTSHEGMAyINITIALYIGMGOMDUNMAtCL",
     "OSINGYIGMGOSGABMAsARETYIGMGOPHURSHADMAvYIGMGOTSHEGSHADMArSBRULSHADjBSKURYIGMGOkKA-SHOGYIGMGO",
     "oINTERSYLLABICTSHEGsDELIMITERTSHEGBSTARtSHADeNYISSHADiTSHEGSHADjNYISTSHEGSHADnRINCHENSPUNGSS",
     "HADqGYAGRAMSHADmCARET-DZUDRTAGSMELONGCANyGTERTSHEGnLOGOTYPESIGNCHADRTAGSjLHAGRTAGSvASTROLOGI",
     "CALSIGNSGRAGCAN-CHARRTAGSs-KHYUDPAiSDONGTSHUGS f1a:TIBETANSIGNRDELDKARGCIGdNYISeSUMiNAGGCIGd",
     "NYISiDKARRDELNAGtDIGITZEROeONEdTWOcHREEfFOURdIVEeSIXcEVENfEIGHTfNINEeHALFONEdTWOcHREEfFOURdI",
     "VEeSIXcEVENfEIGHTfNINEeZEROnMARKBSDUSRTAGSkNGASBZUNGNYIZLApCARET-DZUDRTAGSBZHIMIGCANzNGASBZU",
     "NGSGORRTAGSsCHEMGOgTSA-PHRUiGUGRTAGSGYONcASmANGKHANGGYONcASqSIGNYARTSHESiMARTSHESmLETTERKAbH",
     "AdGAbHAdNGAdCAbHAdJA f49:TIBETANLETTERNYAdTTAbHAeDDAbHAeNNAdTAbHAdDAbHAdNAcPAbHAdBAbHAdMAcTS",
     "AbHAeDZAbHAeWAcZHAcAc-AcYAcRAcLAcSHAcSAcAcHAcAbKSSAeFIXEDFORMRAlKKAdRRA f71:TIBETANVOWELSIGN",
     "AAcIaIcUaUcVOCALICRaRcLaLjEaEcOaOlSIGNRJESSUNGAROkNAMBCADmVOWELSIGNREVERSEDIaItSIGNNYIZLANAA",
     "DAlSNALDANlMARKHALANTAhPALUTAkSIGNLCIRTAGSiYANGRTAGSjLCETSACANjMCHUCANhGRUCANRGYINGSkMEDRGYI",
     "NGSnINVERTEDMCHUCANsUBJOINEDSIGNLCETSACANjMCHUCANhINVERTEDMCHUCANtLETTERKAbHAdGAbHAdNGAdCAbH",
     "AdJA f99:TIBETANSUBJOINEDLETTERNYAdTTAbHAeDDAbHAeNNAdTAbHAdDAbHAdNAcPAbHAdBAbHAdMAcTSAbHAeDZ",
     "AbHAeWAcZHAcAc-AcYAcRAcLAcSHAcSAcAcHAcAbKSSAeFIXEDFORMWAcYAcRA fbe:TIBETANKURUKHAaBZHIMIGCAN",
     "rCANTILLATIONSIGNHEAVYBEATjLIGHTBEATjCANGTEUhSBUB-CHALzSYMBOLDRILBUgRDORJEgPADMAGDANjRDORJER",
     "GYAGRAMoPHURPAgNORBUaNYIS-KHYILkGSUM-KHYILkBZHI-KHYIL fce:TIBETANSIGNRDELNAGRDELDKARiGSUMpMA",
     "RKBSKA-SHOGGIMGORGYANtMNYAMYIGGIMGORGYANsNYISTSHEGjINITIALBRDARNYINGYIGMGOMDUNMA fd4:TIBETAN",
     "MARKCLOSINGBRDARNYINGYIGMGOSGABMA fd5:RIGHTFACINGSVASTISIGNvLEFTFACINGSVASTISIGNuRIGHTFACING",
     "SVASTISIGNWITHDOTS fd8:LEFTFACINGSVASTISIGNWITHDOTS fd9:TIBETANMARKLEADINGMCHANRTAGSrTRAILIN",
     "GMCHANRTAGS"]

end ScriptBundle.Text.CharacterName
