/-!
# Names of historic scripts

Scripts that are no longer in use, and some that few people use.
-/

namespace ScriptBundle.Text.CharacterName

/-- Names of the code points from 10000 to 1afff. -/
def historicNames : List String :=
    ["10000:LINEARBSYLLABLEB008Ad38Ed28Id61Od10Ud01DAe45DEe07DIe14DOe51DUd7JAe46JE 1000d:LINEARBSY",
     "LLABLEB036JOe65JUe77KAe44KEe67KIe70KOe81KUd0MAe13MEe73MIe15MOe23MUe06NAe24NEe30NIe52NOd5NUe0",
     "3PAe72PEe39PIe11POe50PUe16QAe78QEe21QIe32QO 10028:LINEARBSYLLABLEB060RAe27REe53RIe02ROe26RUe",
     "31SAe09SEe41SIe12SOe58SUd9TAe04TEe37TIe05TOe69TUe54WAe75WEe40WId2WO 1003c:LINEARBSYLLABLEB01",
     "7ZAe74ZE 1003f:LINEARBSYLLABLEB020ZOd5A2e43A3e85AUe71DWEf90DWOf48NWAf29PU2f62PTEf76RA2f33RA3",
     "f68RO2e6TA2f87TWEf91TWO 10050:LINEARBSYMBOLB018b9c22c34c47b9c56c63b4c79c82b3b6b9 10080:LINEA",
     "RBIDEOGRAMB100MANe2WOMANg4DEERf5EQUIDfFMAREfMSTALLIONk6FEWEeMRAMf7FSHEGOATiMHEGOATi8FSOWeMBO",
     "ARg9FCOWeMBULLh20WHEATg1BARLEYh2OLIVEg3SPICEg5CYPERUStMONOGRAMB127KAPOf8KANAKOsIDEOGRAMB130O",
     "ILe1WINEf2mMONOGRAMB133AREPAg5MERIqIDEOGRAMB140BRONZEh1GOLDf2b5WOOLf6c50b1HORNf2b3b4mMONOGRA",
     "MB156TURO2rIDEOGRAMB157b8b9CLOTHh60b1b2GARMENTi3ARMOURh4b5b6b7b8b9c70b1b2b3MONTHg4b6TREEf7b8",
     "b9c80b1b2b3b4b5b9c90b1HELMETj220FOOTSTOOLk5BATHTUBj30SPEARg1ARROWg2b3SWORDg4b6c40WHEELEDCHAR",
     "IOTp1CHARIOTi2CHARIOTFRAMEn3WHEELg5b6mMONOGRAMB247DIPTErIDEOGRAMB248b9c51b2b3b4DARTf5b6b7b8b",
     "9eVESSELB155d200b1b2b3b4b5b6b7b8b9c10b1b2b3b4b5b6b7b8b9c21b2b6b7b8b9c50d305 10100:AEGEANWORD",
     "SEPARATORLINEeDOTqCHECKMARK 10107:AEGEANNUMBERONEdTWOcHREEfFOURdIVEeSIXcEVENfEIGHTfNINEeTENc",
     "WENTYfHIRTYgFORTYeIFTYfSIXTYeEVENTYhEIGHTYgNINETYgONEHUNDREDkTWOHUNDREDjHREEHUNDREDmFOURHUND",
     "REDkIVEHUNDREDlSIXHUNDREDjEVENHUNDREDmEIGHTHUNDREDmNINEHUNDREDlONETHOUSANDlTWOTHOUSANDkHREET",
     "HOUSANDnFOURTHOUSANDlIVETHOUSANDmSIXTHOUSANDkEVENTHOUSANDnEIGHTTHOUSANDnNINETHOUSANDmTENTHOU",
     "SANDkWENTYTHOUSANDnHIRTYTHOUSANDoFORTYTHOUSANDmIFTYTHOUSANDnSIXTYTHOUSANDmEVENTYTHOUSANDpEIG",
     "HTYTHOUSANDoNINETYTHOUSAND 10137:AEGEANWEIGHTBASEUNITiFIRSTSUBUNITmSECONDSUBUNITnTHIRDSUBUNI",
     "TmFOURTHSUBUNITtDRYMEASUREFIRSTSUBUNITwLIQUIDMEASUREFIRSTSUBUNITzMEASURESECONDSUBUNITnTHIRDS",
     "UBUNITzGREEKACROPHONICATTICONEQUARTERhHALFeDRACHMAkFIVEcFTYdVEHUNDREDhTHOUSANDkFTYTHOUSANDlV",
     "ETALENTSlTENTALENTSkFIFTYTALENTSmONEHUNDREDTALENTSrFIVEHUNDREDTALENTSsONETHOUSANDTALENTSsFIV",
     "ETHOUSANDTALENTSpSTATERSlTENSTATERSkFIFTYSTATERSmONEHUNDREDSTATERSrFIVEHUNDREDSTATERSsONETHO",
     "USANDSTATERSsTENTHOUSANDSTATERSsFIFTYTHOUSANDSTATERSuTENMNASmHERAEUMONEPLETHRONsTHESPIANONEl",
     "HERMIONIANONEnEPIDAUREANTWOnTHESPIANTWOlCYRENAICTWODRACHMAStEPIDAUREANTWODRACHMASvTROEZENIAN",
     "FIVEeTENaALTERNATEFORM 10162:GREEKACROPHONICHERMIONIANTENnMESSENIANTENmTHESPIANTENcHIRTYnROE",
     "ZENIANFIFTYaALTERNATEFORM 10168:GREEKACROPHONICHERMIONIANFIFTYpTHESPIANFIFTYfONEHUNDREDkTHRE",
     "EHUNDREDuEPIDAUREANFIVEHUNDREDvTROEZENIANFIVEHUNDREDuHESPIANFIVEHUNDREDtCARYSTIANFIVEHUNDRED",
     "uNAXIANFIVEHUNDREDrTHESPIANONETHOUSANDlFIVETHOUSANDuDELPHICFIVEMNASpSTRATIANFIFTYMNAS 10175:",
     "GREEKONEHALFSIGNaALTERNATEFORMyTWOTHIRDSSIGNmHREEQUARTERSSIGNrYEARSIGNiTALENTSIGNkDRACHMASIG",
     "NlOBOLSIGNiTWOOBOLSSIGNlHREEOBOLSSIGNoFOUROBOLSSIGNmIVEOBOLSSIGNnMETRETESSIGNmKYATHOSBASESIG",
     "NpLITRASIGNjOUNKIASIGNkXESTESSIGNkARTABESIGNiOURASIGNkGRAMMASIGNkTRYBLIONBASESIGNqZEROSIGNiO",
     "NEQUARTERSIGNoSINUSOIDSIGNmINDICTIONSIGNsNOMISMASIGN 10190:ROMANSEXTANSSIGNlUNCIASIGNjSEMUNC",
     "IASIGNkXTULASIGNlDIMIDIASEXTULASIGNsSILIQUASIGNlDENARIUSSIGNmQUINARIUSSIGNnSESTERTIUSSIGNoDU",
     "PONDIUSSIGNnASSIGNgCENTURIALSIGNsASCIASYMBOL 101a0:GREEKSYMBOLTAURHO 101d0:PHAISTOSDISCSIGNP",
     "EDESTRIANjLUMEDHEADkTATTOOEDHEADmCAPTIVEgHILDfWOMANfHELMETgGAUNTLETiTIARAfARROWfBOWdSHIELDgC",
     "LUBeMANACLESgTTOCKhSAWdLIDdBOOMERANGjCARPENTRYPLANEoDOLIUMgCOMBeSLINGfCOLUMNgBEEHIVEhSHIPeHO",
     "RNdIDEeBULLSLEGiCATdRAMdEAGLEfDOVEeTUNNYfBEEdPLANETREEjVINEePAPYRUShROSETTEhLILYeOXBACKgFLUT",
     "EfGRATERgSTRAINERhMALLAXEiWAVYBANDiCOMBININGOBLIQUESTROKE 10280:LYCIANLETTERAbEbBaHcGbDbIbWb",
     "ZbTHcJbKbQbLbMbNbMMcNNcUbPbKKcRbSbTaTcANcENcHbX 102a0:CARIANLETTERAbP2cDbLbUUUdRbLDcA2cQbBbM",
     "bObD2cTbSHa2cbC18dUbNNcXbNbTT2dPbSScIbEbUUUUeKa2cNDcUUcGa2cSTa2dNGcIIcC39dTTcUUU2eRRcMBa2b3b",
     "4dLD2dE2cUUU3 102e0:COPTICEPACTTHOUSANDSMARKnDIGITONEdTWOcHREEfFOURdIVEeSIXcEVENfEIGHTfNINEj",
     "NUMBERTENcWENTYfHIRTYgFORTYeIFTYfSIXTYeEVENTYhEIGHTYgNINETYgONEHUNDREDkTWOHUNDREDjHREEHUNDRE",
     "DmFOURHUNDREDkIVEHUNDREDlSIXHUNDREDjEVENHUNDREDmEIGHTHUNDREDmNINEHUNDRED 10300:OLDITALICLETT",
     "ERAbBEcKEcDEcEbVEcZEcHEcTHEdIbKAcELbMbNbSHdObPEcSHEdKUcERbScTEcUbEKSdPHEdKHEdEFbRSdCHEdIIcUU",
     "cESSjNUMERALONEdFIVEeTENdFIFTY 1032d:OLDITALICLETTERYEcNORTHERNTSElSOUTHERNTSE 10330:GOTHICL",
     "ETTERAHSAeBAIRKANhGIBAeDAGSeAIHVUSgQAIRTHRAiIUJAeHAGLeTHIUTHgEISdKUSMAfLAGUSfMANNAfNAUTHSgJE",
     "RdURUSePAIRTHRAiNINETYgRAIDAfSAUILfTEIWSfWINJAfFAIHUfIGGWSfHWAIRfOTHALfNINEHUNDRED 10350:OLD",
     "PERMICLETTERANcBURdGAIdDOIdEbZHOIeDZHOIfZATAeDZITAfIbKOKEeLEIdMENOEfNENOEfVOOIePEEIeREIdSIId",
     "TAIdUbCHERYfSHOOIdCHOOIhYRYcERUeOaOcEFcHAcTSIUeVERdYERaIdATdIEcYUbAcIArCOMBININGOLDPERMICLET",
     "TERANcDOIdZATAeNENOEfSII 10380:UGARITICLETTERALPAeBETAeGAMLAfKHAdDELTAfHOcWOcZETAeHOTAeTETdY",
     "ODdKAFdSHINeLAMDAfMEMdDHALeNUNdZUcSAMKAfAINdPUcSADEeQOPAeRASHAfTHANNAgGHAINfTOcIbUbSSU 1039f",
     ":UGARITICWORDDIVIDERtOLDPERSIANSIGNAbIbUbKAbUcGAbUcXAcCAcJAbIcTAbUcDAbIbUcTHAdPAcBAcFAcNAbUc",
     "MAbIbUcYAcVAbIcRAbUcLAcSAcZAcSHAcSAdHA 103c8:OLDPERSIANSIGNAURAMAZDAAa2bHAmXSHAAYATHIYAmDAHY",
     "AAUSHa2kBAGAdUUMISHlWORDDIVIDERlNUMBERONEdTWOcENcWENTYgHUNDRED 10400:DESERETCAPITALLETTERLON",
     "GIbEbAaHcOaOgSHORTIbEbAaHcOaOhAYcOWcWUcYEEdHbPEEdBEEdTEEdDEEdCHEEeJEEdKAYdGAYdEFcVEEdETHdTHE",
     "EeEScZEEdESHdZHEEeERbLbMbNaGdOIcEWpSMALLLETTERLONGIbEbAaHcOaOgSHORTIbEbAaHcOaOhAYcOWcWUcYEEd",
     "HbPEEdBEEdTEEdDEEdCHEEeJEEdKAYdGAYdEFcVEEdETHdTHEEeEScZEEdESHdZHEEeERbLbMbNaGdOIcEWuSHAVIANL",
     "ETTERPEEPeTOTdKICKeFEEdTHIGHfSObUREeCHURCHgYEAdHUNGeBIBdDEADeGAGdVOWdTHEYeZOOdMEASUREhJUDGEf",
     "WOEdHAHAeLOLLeMIMEeIFcEGGdASHcDOdONcWOOLeOUTdAHcROAReNUNdEATdAGEdICEdUPcOAKcOZEdILdAWEcREdOR",
     "cAIRdERRdARRAYfEARdIANdYEWqOSMANYALETTERALEFeBAcTAcJAcXAcKHAdDEELeRAcSAbHIINfDHAdCAYNeGAcFAc",
     "QAAFeKAAFeLAANeMIINeNUUNeWAWdHAcYAcAbEbIbObUbAAcEEcOO 104a0:OSMANYADIGITZEROeONEdTWOcHREEfFO",
     "URdIVEeSIXcEVENfEIGHTfNINE 104b0:OSAGECAPITALLETTERAaIaNcHcBRAdCHAdEHCHAeaINdHAbYAdIbKAcEHKA",
     "eKYAdLAcMAcNAcOaINdPAcEHPAeSAbHAdTAcEHTAeTSAdEHTSAfTSHAeDHAdUbWAcKHAdGHAdZAbHA 104d8:OSAGESM",
     "ALLLETTERAaIaNcHcBRAdCHAdEHCHAeaINdHAbYAdIbKAcEHKAeKYAdLAcMAcNAcOaINdPAcEHPAeSAbHAdTAcEHTAeT",
     "SAdEHTSAfTSHAeDHAdUbWAcKHAdGHAdZAbHA 10500:ELBASANLETTERAbBEcCEbHEdDEcNDEdDHEdEIbbFEcGEbJEdH",
     "EcIbJEcKEcLEbLEdMEcNEbAbJEdObPEcQEcREbREdSEbHEdTEbHEdUbVEcXEcYbZEbHEdGHEbAMMAgKHE 10530:CAUC",
     "ASIANALBANIANLETTERALTdBETdGIMdDATdEBcZARLeEYNdZHILeTASdCHAdYOWDeZHAdIRBdSHAdLANdINYAeXEYNeD",
     "YANeCARdJHOXeKARdLYITeHEYTeQAYdAORdCHOYcIcYAYeMAQdQARdNOWCeDZYAYfSHAKeJAYNeONcTYAYeFAMdDZAYe",
     "CHATePENdGHEYSfRATdSEYKeVEYZeTIWReSHOYeIWNdCYAWdAYNeYAYDePIWReKIW 1056f:CAUCASIANALBANIANCIT",
     "ATIONMARK 10570:VITHKUQICAPITALLETTERAbBBEcEcCEbHEdDEbHEdEIbbFEcGA 1057c:VITHKUQICAPITALLETT",
     "ERHAbHAdIaJEdJEcKAcLAbLAdMEcNEbJEdObPEcQAcRE 1058c:VITHKUQICAPITALLETTERSEbHEdTEbHEdUbVEcXE ",
     "10594:VITHKUQICAPITALLETTERYbZE 10597:VITHKUQISMALLLETTERAbBBEcEcCEbHEdDEbHEdEIbbFEcGA 105a3",
     ":VITHKUQISMALLLETTERHAbHAdIaJEdJEcKAcLAbLAdMEcNEbJEdObPEcQAcRE 105b3:VITHKUQISMALLLETTERSEbH",
     "EdTEbHEdUbVEcXE 105bb:VITHKUQISMALLLETTERYbZE 10600:LINEARASIGNAB001b2b3b4b5b6b7b8b9c10b1b3b",
     "6b7c20b1aFbMc2aFbMc3aMc4b6b7b8e028BeB029c30b1b4b7b8b9c40b1b4b5b6b7b8b9c50b1b3b4b5b6b7b8b9c60",
     "b1b5b6b7b9c70b3b4b6b7b8b9c80b1b2b5b6b7e100102gB118c20e120BeB122b3c31AbBf131CeB164c71c80b8c91",
     "e301b2b3b4b5b6b7b8b9AbBbCd10b1b2b3AbBbCc4b5b6b7b8b9c20b1b2b3b4b5b6b7b8b9c30b1b2b3b4b5b6b7b8b",
     "9c40b1b2b3b4b5b6b7b8b9c50b1b2b3b4b5b6b7b8b9c60b1b2b3b4b5b6b7b8b9c70b1d400VASe1VASe2VASe3VASe",
     "4VASe5VASe6VASe7VASe8VASe9VASf10VASe1VASe2VASe3VASe4VASe5VASe6VASe7VASe8VASg501b2b3b4b5b6b8b",
     "9c10b1b2b3b5b6c20b1b3b4b5b6b7b8b9c30b1b2b4b5b6b7b8b9c40b1b2b5b7b8b9c50b1b2b3b4b5b6b7b9c63b4b",
     "5b6b8b9c70b1b2b3b4b5b6b7b8b9c80b1b2b3b4b5b6b7b8b9c91b2b4b5b6b8d600b1b2b3b4b6b8b9c10b1b2b3b4b",
     "5b6b7b8b9c20b1b2b3b4b6b7b8b9c34b7b8c40b2b3b4b5b6b8b9c51b2b3b4b5b6b7b8b9c60b1b2b3b4 10740:LIN",
     "EARASIGNA701Ac2Bc3Dc4Ec5Fc6Hc7Jc8Kc9Lb2L2d3L3d4L4d6L6f10Wc1Xc2Yc3OMEGAg4ABBe5BBd7DDe26EYYYg3",
     "2JE 10760:LINEARASIGNA800b1b2b3b4b5b6b7 10780:MODIFIERLETTERSMALLCAPITALAAnUPERSCRIPTTRIANGU",
     "LARCOLONpHALFTRIANGULARCOLON 10783:MODIFIERLETTERSMALLAEcCAPITALBiBWITHHOOK 10787:MODIFIERLE",
     "TTERSMALLDZDIGRAPHaWITHRETROFLEXHOOKnCURLqEZHDIGRAPHkWITHTAILeHOOKaANDTAILqREVERSEDEjCLOSEDR",
     "EVERSEDOPENEtFENGDIGRAPHlRAMSHORNiCAPITALGiGWITHHOOKjCAPITALGWITHHOOKqHWITHSTROKElCAPITALHiH",
     "ENGWITHHOOKmDOTLESSJWITHSTROKEANDHOOKzLSDIGRAPHiZDIGRAPHiWITHBELTjCAPITALLWITHBELTqLWITHRETR",
     "OFLEXHOOKANDBELTyEZHaWITHRETROFLEXHOOKvTURNEDYaWITHBELTpOWITHSTROKElCAPITALOEiLOSEDOMEGAlQbT",
     "URNEDRWITHLONGLEGaANDRETROFLEXHOOK 107a8:MODIFIERLETTERSMALLRWITHTAILeFISHHOOKnCAPITALRiTCDI",
     "GRAPHWITHCURLqSDIGRAPHaWITHRETROFLEXHOOKzESHDIGRAPHkWITHRETROFLEXHOOKsVWITHRIGHTHOOK 107b2:M",
     "ODIFIERLETTERSMALLCAPITALYnGLOTTALSTOPWITHSTROKEvREVERSEDGLOTTALSTOPWITHSTROKE 107b5:MODIFIE",
     "RLETTERBILABIALCLICKnDENTALCLICKlLATERALCLICKmALVEOLARCLICKnRETROFLEXCLICKWITHRETROFLEXHOOK ",
     "107ba:MODIFIERLETTERSMALLSWITHCURL 10800:CYPRIOTSYLLABLEAbEbIbObUbJA 10808:CYPRIOTSYLLABLEJO",
     " 1080a:CYPRIOTSYLLABLEKAbEbIbObUcLAbEbIbObUcMAbEbIbObUcNAbEbIbObUcPAbEbIbObUcRAbEbIbObUcSAbE",
     "bIbObUcTAbEbIbObUcWAbEbIbO 10837:CYPRIOTSYLLABLEXAbE 1083c:CYPRIOTSYLLABLEZA 1083f:CYPRIOTSY",
     "LLABLEZOrIMPERIALARAMAICLETTERALEPHfBETHeGIMELfDALETHgHEcWAWdZAYINfHETHeTETHeYODHeKAPHeLAMED",
     "HgMEMdNUNdSAMEKHgAYINePEcSADHEfQOPHeRESHeSHINeTAW 10857:IMPERIALARAMAICSECTIONSIGNlNUMBERONE",
     "dTWOcHREEeENcWENTYgONEHUNDREDhTHOUSANDlTENTHOUSAND 10860:PALMYRENELETTERALEPHfBETHeGIMELfDAL",
     "ETHgHEcWAWdZAYINfHETHeTETHeYODHeKAPHeLAMEDHgMEMdFINALNUNiNUNdSAMEKHgAYINePEcSADHEfQOPHeRESHe",
     "SHINeTAWhFTPOINTINGFLEURONtRIGHTPOINTINGFLEURONuNUMBERONEdTWOcHREEfFOURdIVEeTENcWENTYvNABATA",
     "EANLETTERFINALALEPHkALEPHfFINALBETHjBETHeGIMELfDALETHgFINALHEhHEcWAWdZAYINfHETHeTETHeFINALYO",
     "DHjYODHeFINALKAPHjKAPHeFINALLAMEDHlLAMEDHgFINALMEMiMEMdFINALNUNiNUNdSAMEKHgAYINePEcSADHEfQOP",
     "HeRESHeFINALSHINjSHINeTAW 108a7:NABATAEANNUMBERONEdTWOcHREEfFOURkCRUCIFORMNUMBERFOURtNUMBERF",
     "IVEeTENcWENTYgONEHUNDRED 108e0:HATRANLETTERALEPHfBETHeGIMELfDALETHRESHkHEcWAWdZAYNeHETHeTETH",
     "eYODHeKAPHeLAMEDHgMEMdNUNdSAMEKHgAYNdPEcSADHEfQOPH 108f4:HATRANLETTERSHINeTAW 108fb:HATRANNU",
     "MBERONEdFIVEeTENcWENTYgONEHUNDREDwPHOENICIANLETTERALFdBETdGAMLeDELTeHEcWAUdZAIdHETdTETdYODdK",
     "AFdLAMDeMEMdNUNdSEMKeAINdPEcSADEeQOFdROSHeSHINeTAUjNUMBERONEdTENcWENTYgONEHUNDREDkTWOcHREE 1",
     "091f:PHOENICIANWORDSEPARATORxLYDIANLETTERAbBbGbDbEbVbIbYbKbLbMbNbObRbSScTbUbFbQbSbTTcANcENcL",
     "YcNNcC 1093f:LYDIANTRIANGULARMARK 10980:MEROITICHIEROGLYPHICLETTERAbEbIbObYAcWAcBAa2dPAcMAcN",
     "Aa2cEa2dRAa2dLAcKHAdHHAdSAa2cEcKAcQAcTAa2cEa2cOcDAiSYMBOLVIDJa2xCURSIVELETTERAbEbIbObYAcWAcB",
     "AcPAcMAcNAbEcRAcLAcKHAdHHAdSAcARCHAICSAjSEcKAcQAcTAbEbOcDA 109bc:MEROITICCURSIVEFRACTIONELEV",
     "ENTWELFTHSoONEHALFpLOGOGRAMRMTdIMNlNUMBERONEdTWOcHREEfFOURdIVEeSIXcEVENfEIGHTfNINEeTENcWENTY",
     "fHIRTYgFORTYeIFTYfSIXTYeEVENTY 109d2:MEROITICCURSIVENUMBERONEHUNDREDkTWOHUNDREDjHREEHUNDREDm",
     "FOURHUNDREDkIVEHUNDREDlSIXHUNDREDjEVENHUNDREDmEIGHTHUNDREDmNINEHUNDREDlONETHOUSANDlTWOTHOUSA",
     "NDkHREETHOUSANDnFOURTHOUSANDlIVETHOUSANDmSIXTHOUSANDkEVENTHOUSANDnEIGHTTHOUSANDnNINETHOUSAND",
     "mTENTHOUSANDkWENTYTHOUSANDnHIRTYTHOUSANDoFORTYTHOUSANDmIFTYTHOUSANDnSIXTYTHOUSANDmEVENTYTHOU",
     "SANDpEIGHTYTHOUSANDoNINETYTHOUSANDoONEHUNDREDTHOUSANDsTWOHUNDREDTHOUSANDrHREEHUNDREDTHOUSAND",
     "uFOURHUNDREDTHOUSANDsIVEHUNDREDTHOUSANDtSIXHUNDREDTHOUSANDrEVENHUNDREDTHOUSANDuEIGHTHUNDREDT",
     "HOUSANDuNINEHUNDREDTHOUSANDzFRACTIONONETWELFTHkTWOTWELFTHSkHREETWELFTHSnFOURTWELFTHSlIVETWEL",
     "FTHSmSIXTWELFTHSkEVENTWELFTHSnEIGHTTWELFTHSnNINETWELFTHSmTENTWELFTHS 10a00:KHAROSHTHILETTERA",
     "hVOWELSIGNIbUbVOCALICR 10a05:KHAROSHTHIVOWELSIGNEbO 10a0c:KHAROSHTHIVOWELLENGTHMARKpSIGNDOUB",
     "LERINGBELOWpANUSVARAiVISARGAlLETTERKAbHAdGAbHA 10a15:KHAROSHTHILETTERCAbHAdJA 10a19:KHAROSHT",
     "HILETTERNYAdTTAbHAeDDAbHAeNNAdTAbHAdDAbHAdNAcPAbHAdBAbHAdMAcYAcRAcLAcVAcSHAcSAcAcZAcHAcKKAdT",
     "TTHAcAeVHA 10a38:KHAROSHTHISIGNBARABOVEiCAUDAfDOTBELOW 10a3f:KHAROSHTHIVIRAMAgDIGITONEdTWOcH",
     "REEfFOURjNUMBERTENcWENTYgONEHUNDREDhTHOUSANDrFRACTIONONEHALF 10a50:KHAROSHTHIPUNCTUATIONDOTd",
     "SMALLCIRCLElCIRCLEfRESCENTBARlMANGALAMiLOTUSfDANDAeOUBLEDANDAlLINES 10a60:OLDSOUTHARABIANLET",
     "TERHEcLAMEDHgHETHeMEMdQOPHeWAWdSHINeRESHeBETHeTAWdSATdKAPHeNUNdKHETHfSADHEdMEKHgFEcALEFdYNdD",
     "HADHEgGIMELfDALETHgGHAYNfTETHeZAYNeDHALETHhYODHeTHAWcETHlNUMBERONEdFIFTYiERICINDICATOR 10a80",
     ":OLDNORTHARABIANLETTERHEHdLAMdHAHdMEEMeQAFdWAWdES2dREHdBEHdTEHdES1dKAFdNOONeKHAHeSADdES3dFEH",
     "dALEFdINdDADdGEEMeDALdGHAINfTAHdZAINeTHALeYEHdTHEHeZAHjNUMBERONEdTENcWENTY 10ac0:MANICHAEANL",
     "ETTERALEPHfBETHdHETHfGIMELeHIMELgDALETHgHEcWAWjSIGNUDgLETTERZAYINeHAYINgJAYINeHAYINgHETHeTET",
     "HeYODHeKAPHeXAPHeKHAPHfLAMEDHgDHAMEDHhTHAMEDHhMEMdNUNdSAMEKHgAYINdAYINfPEcFEcSADHEfQOPHeXOPH",
     "eQHOPHfRESHeSHINdSHINfTAWjABBREVIATIONMARKABOVEfBELOW 10aeb:MANICHAEANNUMBERONEdFIVEeTENcWEN",
     "TYgONEHUNDREDqPUNCTUATIONSTAReFLEURONhDOUBLEDOTWITHINDOTqTWITHINDOTjdTWODOTShLINEFILLER 10b0",
     "0:AVESTANLETTERAaAbObAOcNbANcEaEdEaEcOaOcIaIcUaUcKEcXEbYEcVEdGEbGEcHEdCEcJEcTEbHEdDEbHEdTTEd",
     "PEcFEcBEbHEdNGEbYEcVEdEbYEcNEdMEcHMEdYYEcEcVEcREcLEcSEcZEcSHEdZHEdSHYEdSHEeHE 10b39:AVESTANA",
     "BBREVIATIONMARKxTINYTWODOTSOVERONEDOTPUNCTUATION 10b3b:SMALLTWODOTSOVERONEDOTPUNCTUATION 10b",
     "3c:LARGETWODOTSOVERONEDOTPUNCTUATION 10b3d:LARGEONEDOTOVERTWODOTSPUNCTUATION 10b3e:LARGETWOR",
     "INGSOVERONERINGPUNCTUATION 10b3f:LARGEONERINGOVERTWORINGSPUNCTUATION 10b40:INSCRIPTIONALPART",
     "HIANLETTERALEPHfBETHeGIMELfDALETHgHEcWAWdZAYINfHETHeTETHeYODHeKAPHeLAMEDHgMEMdNUNdSAMEKHgAYI",
     "NePEcSADHEfQOPHeRESHeSHINeTAW 10b58:INSCRIPTIONALPARTHIANNUMBERONEdTWOcHREEfFOUReTENcWENTYgO",
     "NEHUNDREDhTHOUSANDxHLAVILETTERALEPHfBETHeGIMELfDALETHgHEcWAWAYINRESHlZAYINfHETHeTETHeYODHeKA",
     "PHeLAMEDHgMEMQOPHhNUNdSAMEKHgPEcSADHEeHINeTAW 10b78:INSCRIPTIONALPAHLAVINUMBERONEdTWOcHREEfF",
     "OUReTENcWENTYgONEHUNDREDhTHOUSAND 10b80:PSALTERPAHLAVILETTERALEPHfBETHeGIMELfDALETHgHEcWAWAY",
     "INRESHlZAYINfHETHeYODHeKAPHeLAMEDHgMEMQOPHhNUNdSAMEKHgPEcSADHEeHINeTAW 10b99:PSALTERPAHLAVIS",
     "ECTIONMARKlTURNEDSECTIONMARKrFOURDOTSWITHCROSSfDOT 10ba9:PSALTERPAHLAVINUMBERONEdTWOcHREEfFO",
     "UReTENcWENTYgONEHUNDRED 10c00:OLDTURKICLETTERORKHONAhYENISEIAaEjORKHONIhYENISEIIbEiORKHONOaE",
     "iYENISEIOEjORKHONABiYENISEIABjORKHONAEBjYENISEIAEBkORKHONAGiYENISEIAGjORKHONAEGjYENISEIAEGkO",
     "RKHONADiYENISEIADjORKHONAEDdEZiYENISEIEZjORKHONAYiYENISEIAYjORKHONAEYjYENISEIAEYkORKHONAEKjY",
     "ENISEIAEKkORKHONOEKjYENISEIOEKkORKHONALiYENISEIALjORKHONAELdELTcMcANbENjYENISEIAENkORKHONENT",
     "jYENISEIENTkORKHONENCjYENISEIENCkORKHONENYjYENISEIENYdANGkORKHONENGjYENISEIAENGlORKHONEPcOPc",
     "ICcECiYENISEIECjORKHONAQiYENISEIAQjORKHONIQiYENISEIIQjORKHONOQiYENISEIOQjORKHONARiYENISEIARj",
     "ORKHONAERcSbEScSHjYENISEIASHkORKHONESHjYENISEIESHkORKHONATiYENISEIATjORKHONAETjYENISEIAETkOR",
     "KHONOTcBASH 10c80:OLDHUNGARIANCAPITALLETTERAaAcEBcAMBdECbNCcCScDcANDdEbCLOSEEgEEbFbGaYcHcIaI",
     "cEJbKcAKcUNKdELaYcMbNaYdOaOcNIKOLSBURGOEmRUDIMENTAOElOEEdEPbMPcRcSHORTERhESaZcTbNTcTYcCHdUaU",
     "cNIKOLSBURGUEmRUDIMENTAUElEVbZaScNTSHAPEDSIGNnUS 10cc0:OLDHUNGARIANSMALLLETTERAaAcEBcAMBdECb",
     "NCcCScDcANDdEbCLOSEEgEEbFbGaYcHcIaIcEJbKcAKcUNKdELaYcMbNaYdOaOcNIKOLSBURGOEmRUDIMENTAOElOEEd",
     "EPbMPcRcSHORTERhESaZcTbNTcTYcCHdUaUcNIKOLSBURGUEmRUDIMENTAUElEVbZaScNTSHAPEDSIGNnUS 10cfa:OL",
     "DHUNGARIANNUMBERONEdFIVEeTENdFIFTYfONEHUNDREDhTHOUSAND 10d00:HANIFIROHINGYALETTERAbBAcPAcTAb",
     "TAdJAcCAcHAcKHAdFAcDAbDAdRAbRAdZAcSAbHAdKAcGAcLAcMAcNAcWAcKINNAWAhYAcKINNAYAhNGAcYAdVAiVOWEL",
     "AbIbUbEbOgMARKSAKINfNAKHONNAmSIGNHARBAHAYiTAHALAeNAcSSI 10d30:HANIFIROHINGYADIGITZEROeONEdTW",
     "OcHREEfFOURdIVEeSIXcEVENfEIGHTfNINE 10e60:RUMIDIGITONEdTWOcHREEfFOURdIVEeSIXcEVENfEIGHTfNINE",
     "jNUMBERTENcWENTYfHIRTYgFORTYeIFTYfSIXTYeEVENTYhEIGHTYgNINETYgONEHUNDREDkTWOHUNDREDjHREEHUNDR",
     "EDmFOURHUNDREDkIVEHUNDREDlSIXHUNDREDjEVENHUNDREDmEIGHTHUNDREDmNINEHUNDREDrFRACTIONONEHALFeQU",
     "ARTERhTHIRDiTWOTHIRDS 10e80:YEZIDILETTERELIFeBEcPEbHEdTHEdSEcCIMcHIMcHIMfHHAdXAcDALdZALdRAbH",
     "AdZAcJAcSINcHINdADdDADdTAcZEcEYNdXHEYNfFAcVAaALTERNATEFORMpQAFdKAFcHAFeGAFdLAMdMIMdNUNdUMcWA",
     "WdOWcEWcHAYdYOTdET 10eab:YEZIDICOMBININGHAMZAMARKjMADDAMARKsHYPHENATIONMARK 10eb0:YEZIDILETT",
     "ERLAMWITHDOTABOVEpYOTWITHCIRCUMFLEXABOVE 10efd:ARABICSMALLLOWWORDSAKTAfQASReMADDAxOLDSOGDIAN",
     "LETTERALEPHfFINALALEPHkBETHeFINALBETHjGIMELfHEcFINALHEhWAWdZAYINfHETHeYODHeKAPHeLAMEDHgMEMdN",
     "UNdFINALNUNaWITHVERTICALTAILySAMEKHgAYINdLTERNATEAYINnPEcSADHEfFINALSADHEaWITHVERTICALTAIL 1",
     "0f18:OLDSOGDIANLETTERRESHAYINDALETHoSHINeTAWdFINALTAWaWITHVERTICALTAIL 10f1d:OLDSOGDIANNUMBE",
     "RONEdTWOcHREEfFOURdIVEeTENcWENTYfHIRTYgONEHUNDREDqFRACTIONONEHALFpLIGATUREAYINDALETH 10f30:S",
     "OGDIANLETTERALEPHfBETHeGIMELfHEcWAWdZAYINfHETHeYODHeKAPHeLAMEDHgMEMdNUNdSAMEKHgAYINePEcSADHE",
     "fRESHAYINiSHINeTAWdFETHeLESHkINDEPENDENTSHINpCOMBININGDOTBELOWiTWODOTSBELOWmDOTABOVEiTWODOTS",
     "ABOVEmCURVEABOVEfBELOWkHOOKABOVEfBELOWjLONGHOOKBELOWnRESHBELOWjSTROKEBELOWuNUMBERONEdTENcWEN",
     "TYgONEHUNDREDqPUNCTUATIONTWOVERTICALBARSaWITHDOTSxCIRCLEWITHDOTnTWOCIRCLESWITHDOTSsHALFCIRCL",
     "EWITHDOT 10f70:OLDUYGHURLETTERALEPHfBETHeGIMELHETHjWAWdZAYINfFINALHETHjYODHeKAPHeLAMEDHgMEMd",
     "NUNdSAMEKHgPEcSADHEfRESHeSHINeTAWdLESHkCOMBININGDOTABOVEfBELOWiTWODOTSABOVEfBELOWvPUNCTUATIO",
     "NBARdTWOBARSeDOTShFOURDOTS 10fb0:CHORASMIANLETTERALEPHfSMALLALEPHkBETHeGIMELfDALETHgHEcWAWdC",
     "URLEDWAWjZAYINfHETHeYODHeKAPHeLAMEDHgMEMdNUNdSAMEKHgAYINePEcRESHeSHINeTAWjNUMBERONEdTWOcHREE",
     "fFOUReTENcWENTYgONEHUNDRED 10fe0:ELYMAICLETTERALEPHfBETHeGIMELfDALETHgHEcWAWdZAYINfHETHeTETH",
     "eYODHeKAPHeLAMEDHgMEMdNUNdSAMEKHgAYINePEcSADHEfQOPHeRESHeSHINeTAWiIGATUREZAYINYODH 11000:BRA",
     "HMISIGNCANDRABINDUlANUSVARAiVISARGAhJIHVAMULIYAlUPADHMANIYApLETTERAaAcIaIcUaUcVOCALICRaRcLaL",
     "jEbAIcObAUcKAbHAdGAbHAdNGAdCAbHAdJAbHAdNYAdTTAbHAeDDAbHAeNNAdTAbHAdDAbHAdNAcPAbHAdBAbHAdMAcY",
     "AcRAcLAcVAcSHAcSAcAcHAcLLAdOLDTAMILLLLAeRRAdNNNAsVOWELSIGNAAcBHATTIPROLUAAnIaIcUaUcVOCALICRa",
     "RcLaLjEbAIcObAUkIRAMAgDANDAeOUBLEDANDAlPUNCTUATIONDOTbUBLEDOTjLINEeCRESCENTBARlLOTUS 11052:B",
     "RAHMINUMBERONEdTWOcHREEfFOURdIVEeSIXcEVENfEIGHTfNINEeTENcWENTYfHIRTYgFORTYeIFTYfSIXTYeEVENTY",
     "hEIGHTYgNINETYgONEHUNDREDhTHOUSANDrDIGITZEROeONEdTWOcHREEfFOURdIVEeSIXcEVENfEIGHTfNINEjSIGNO",
     "LDTAMILVIRAMAsLETTEROLDTAMILSHORTEbOuVOWELSIGNOLDTAMILSHORTEbOxLETTEROLDTAMILLLA 1107f:BRAHM",
     "INUMBERJOINERsKAITHISIGNCANDRABINDUlANUSVARAiVISARGAlLETTERAaAcIaIcUaUcEbAIcObAUcKAbHAdGAbHA",
     "dNGAdCAbHAdJAbHAdNYAdTTAbHAeDDAbDHAdHAeRHAdNNAdTAbHAdDAbHAdNAcPAbHAdBAbHAdMAcYAcRAcLAcVAcSHA",
     "cSAcAcHAiVOWELSIGNAAcIaIcUaUcEbAIcObAUlSIGNVIRAMAgNUKTAjABBREVIATIONSIGNqENUMERATIONSIGNpNUM",
     "BERSIGNkSECTIONMARKlDOUBLESECTIONMARKqANDAeOUBLEDANDAlVOWELSIGNVOCALICR 110cd:KAITHINUMBERSI",
     "GNABOVE 110d0:SORASOMPENGLETTERSAHdTAHdBAHdCAHdDAHdGAHdMAHdNGAHeLAHdNAHdVAHdPAHdYAHdRAHdHAHd",
     "KAHdJAHdNYAHeAHcEEHdIHcUHcOHcEHcMAE 110f0:SORASOMPENGDIGITZEROeONEdTWOcHREEfFOURdIVEeSIXcEVE",
     "NfEIGHTfNINE 11100:CHAKMASIGNCANDRABINDUlANUSVARAiVISARGAlLETTERAAcIbUbEbKAAcHAAeGAAcHAAeNGA",
     "AeCAAcHAAeJAAcHAAeNYAAeTTAAcHAAfDDAAcHAAfNNAAeTAAcHAAeDAAcHAAeNAAdPAAcHAAeBAAcHAAeMAAdYYAAdA",
     "AdRAAdLAAdWAAdSAAdHAAjVOWELSIGNAbIaIcUaUcEbAIcObAUcOIlOMARKfAUMARKgVIRAMAgMAAYYAA 11136:CHAK",
     "MADIGITZEROeONEdTWOcHREEfFOURdIVEeSIXcEVENfEIGHTfNINEjSECTIONMARKlDANDAeOUBLEDANDAlQUESTIONM",
     "ARKmLETTERLHAAkVOWELSIGNAAcEIlLETTERVAA 11150:MAHAJANILETTERAbIbUbEbObKAbHAdGAbHAdCAbHAdJAbH",
     "AdNYAdTTAbHAeDDAbHAeNNAdTAbHAdDAbHAdNAcPAbHAdBAbHAdMAcRAcLAcVAcSAcHAcRRAjSIGNNUKTAjABBREVIAT",
     "IONSIGNqSECTIONMARKlLIGATURESHRI 11180:SHARADASIGNCANDRABINDUlANUSVARAiVISARGAlLETTERAaAcIaI",
     "cUaUcVOCALICRaRcLaLjEbAIcObAUcKAbHAdGAbHAdNGAdCAbHAdJAbHAdNYAdTTAbHAeDDAbHAeNNAdTAbHAdDAbHAd",
     "NAcPAbHAdBAbHAdMAcYAcRAcLAbLAdVAcSHAcSAcAcHAiVOWELSIGNAAcIaIcUaUcVOCALICRaRcLaLjEbAIcObAUlSI",
     "GNVIRAMAgAVAGRAHAiJIHVAMULIYAlUPADHMANIYApOMcDANDAeOUBLEDANDAlABBREVIATIONSIGNqSEPARATORiAND",
     "HIMARKjIGNNUKTAjVOWELMODIFIERMARKrEXTRASHORTVOWELMARKtSUTRAMARKjVOWELSIGNPRISHTHAMATRAExSIGN",
     "INVERTEDCANDRABINDUxDIGITZEROeONEdTWOcHREEfFOURdIVEeSIXcEVENfEIGHTfNINEjEKAMeSIGNSIDDHAMlHEA",
     "DSTROKEkCONTINUATIONSIGNqSECTIONMARK1b2 111e1:SINHALAARCHAICDIGITONEdTWOcHREEfFOURdIVEeSIXcE",
     "VENfEIGHTfNINEjNUMBERTENcWENTYfHIRTYgFORTYeIFTYfSIXTYeEVENTYhEIGHTYgNINETYgONEHUNDREDhTHOUSA",
     "ND 11200:KHOJKILETTERAaAcIbUbEbAIcObAUcKAbHAdGAbGAcHAdNGAdCAbHAdJAbJA 11213:KHOJKILETTERNYAd",
     "TTAbHAeDDAbHAeNNAdTAbHAdDAbDDAdHAdNAcPAbHAdBAbBAcHAdMAcYAcRAcLAcVAcSAcHAcLLAjVOWELSIGNAAcIaI",
     "cUbEbAIcObAUlSIGNANUSVARAiVIRAMAgNUKTAfSHADDAkDANDAeOUBLEDANDAlWORDSEPARATORnSECTIONMARKlDOU",
     "BLESECTIONMARKrABBREVIATIONSIGNqSIGNSUKUNjLETTERQAcSHORTImVOWELSIGNVOCALICR 11280:MULTANILET",
     "TERAbIbUbEbKAbHAdGA 11288:MULTANILETTERGHA 1128a:MULTANILETTERCAbHAdJAbJA 1128f:MULTANILETTE",
     "RNYAdTTAbHAeDDAbDAcHAeNNAdTAbHAdDAbHAdNAcPAbHAdBA 1129f:MULTANILETTERBHAdMAcYAcRAcLAcVAcSAcH",
     "AcRRAcHAjSECTIONMARK 112b0:KHUDAWADILETTERAaAcIaIcUaUcEbAIcObAUcKAbHAdGAbGAcHAdNGAdCAbHAdJAb",
     "JAcHAdNYAdTTAbHAeDDAbDAeRRAdDDHAeNNAdTAbHAdDAbHAdNAcPAbHAdBAbBAcHAdMAcYAcRAcLAcVAcSHAcAcHAiS",
     "IGNANUSVARAmVOWELSIGNAAcIaIcUaUcEbAIcObAUlSIGNNUKTAfVIRAMA 112f0:KHUDAWADIDIGITZEROeONEdTWOc",
     "HREEfFOURdIVEeSIXcEVENfEIGHTfNINE 11300:GRANTHASIGNCOMBININGANUSVARAABOVEvANDRABINDUlANUSVAR",
     "AiVISARGA 11305:GRANTHALETTERAaAcIaIcUaUcVOCALICRbL 1130f:GRANTHALETTEREEcAI 11313:GRANTHALE",
     "TTEROOcAUcKAbHAdGAbHAdNGAdCAbHAdJAbHAdNYAdTTAbHAeDDAbHAeNNAdTAbHAdDAbHAdNA 1132a:GRANTHALETT",
     "ERPAbHAdBAbHAdMAcYAcRA 11332:GRANTHALETTERLAbLA 11335:GRANTHALETTERVAcSHAcSAcAcHA 1133b:COMB",
     "ININGBINDUBELOWtGRANTHASIGNNUKTAfAVAGRAHAmVOWELSIGNAAcIaIcUaUcVOCALICRaR 11347:GRANTHAVOWELS",
     "IGNEEcAI 1134b:GRANTHAVOWELSIGNOOcAUlSIGNVIRAMA 11350:GRANTHAOM 11357:GRANTHAAULENGTHMARK 11",
     "35d:GRANTHASIGNPLUTAjLETTERVEDICANUSVARAiDOUBLEANUSVARAsOCALICRRcLLpVOWELSIGNVOCALICLaL 1136",
     "6:COMBININGGRANTHADIGITZEROeONEdTWOcHREEfFOURdIVEeSIX 11370:COMBININGGRANTHALETTERAbKAcNAcVI",
     "cPA 11400:NEWALETTERAaAcIaIcUaUcVOCALICRaRcLaLjEbAIcObAUcKAbHAdGAbHAdNGAbHAeCAbHAdJAbHAdNYAb",
     "HAeTTAbHAeDDAbHAeNNAdTAbHAdDAbHAdNAbHAdPAbHAdBAbHAdMAbHAdYAcRAbHAdLAbHAdWAcSHAcSAcAcHAiVOWEL",
     "SIGNAAcIaIcUaUcVOCALICRaRcLaLjEbAIcObAUlSIGNVIRAMAgCANDRABINDUlANUSVARAiVISARGAhNUKTAfAVAGRA",
     "HAiFINALANUSVARArOMcSIDDHIgDANDAeOUBLEDANDAlCOMMAfGAPFILLERjABBREVIATIONSIGNqDIGITZEROeONEdT",
     "WOcHREEfFOURdIVEeSIXcEVENfEIGHTfNINEiOUBLECOMMAlPLACEHOLDERMARK 1145d:NEWAINSERTIONSIGNnSAND",
     "HIMARKkLETTERVEDICANUSVARAtSIGNJIHVAMULIYAlUPADHMANIYA 11480:TIRHUTAANJIeLETTERAaAcIaIcUaUcV",
     "OCALICRaRcLaLjEbAIcObAUcKAbHAdGAbHAdNGAdCAbHAdJAbHAdNYAdTTAbHAeDDAbHAeNNAdTAbHAdDAbHAdNAcPAb",
     "HAdBAbHAdMAcYAcRAcLAcVAcSHAcSAcAcHAiVOWELSIGNAAcIaIcUaUcVOCALICRaRcLaLjEbSHORTEgAIcObSHORTOg",
     "AUlSIGNCANDRABINDUlANUSVARAiVISARGAfRAMAgNUKTAfAVAGRAHAmGVANGfABBREVIATIONSIGNqOM 114d0:TIRH",
     "UTADIGITZEROeONEdTWOcHREEfFOURdIVEeSIXcEVENfEIGHTfNINE 11580:SIDDHAMLETTERAaAcIaIcUaUcVOCALI",
     "CRaRcLaLjEbAIcObAUcKAbHAdGAbHAdNGAdCAbHAdJAbHAdNYAdTTAbHAeDDAbHAeNNAdTAbHAdDAbHAdNAcPAbHAdBA",
     "bHAdMAcYAcRAcLAcVAcSHAcSAcAcHAiVOWELSIGNAAcIaIcUaUcVOCALICRaR 115b8:SIDDHAMVOWELSIGNEbAIcObA",
     "UlSIGNCANDRABINDUlANUSVARAiVISARGAfRAMAgNUKTAfSIDDHAMlDANDAeOUBLEDANDAlSEPARATORDOTdBARmREPE",
     "TITIONMARK1b2b3pENDOFTEXTMARKnSECTIONMARKWITHTRIDENTANDUSHAPEDORNAMENTSqDOTTEDCRESCENTSzRAYS",
     "ANDDOTTEDCRESCENTSjDOUBLECRESCENTSpTRIPLECRESCENTS 115cf:SIDDHAMSECTIONMARKDOUBLERINGaWITHRA",
     "YSsWITHDOUBLECRESCENTSpTRIPLECRESCENTSpQUADRUPLECRESCENTSsSEPTUPLECRESCENTSrCIRCLESANDRAYSeT",
     "WOENCLOSURESnFOURENCLOSURES 115d8:SIDDHAMLETTERTHREECIRCLEALTERNATEIuWOCIRCLEALTERNATEIaIuAL",
     "TERNATEUqVOWELSIGNALTERNATEUaU 11600:MODILETTERAaAcIaIcUaUcVOCALICRaRcLaLjEbAIcObAUcKAbHAdGA",
     "bHAdNGAdCAbHAdJAbHAdNYAdTTAbHAeDDAbHAeNNAdTAbHAdDAbHAdNAcPAbHAdBAbHAdMAcYAcRAcLAcVAcSHAcSAcA",
     "cHAcLLAjVOWELSIGNAAcIaIcUaUcVOCALICRaRcLaLjEbAIcObAUlSIGNANUSVARAiVISARGAfRAMAgARDHACANDRApD",
     "ANDAeOUBLEDANDAlABBREVIATIONSIGNqSIGNHUVA 11650:MODIDIGITZEROeONEdTWOcHREEfFOURdIVEeSIXcEVEN",
     "fEIGHTfNINE 11660:MONGOLIANBIRGAWITHORNAMENTrROTATEDBIRGAmDOUBLEBIRGAWITHORNAMENTxTRIPLEBIRG",
     "AWITHORNAMENTxBIRGAWITHDOUBLEORNAMENTxROTATEDBIRGAWITHORNAMENTiDOUBLEORNAMENT 11667:MONGOLIA",
     "NINVERTEDBIRGAaWITHDOUBLEORNAMENT 11669:MONGOLIANSWIRLBIRGAaWITHORNAMENTiDOUBLEORNAMENT 1166",
     "c:MONGOLIANTURNEDSWIRLBIRGAWITHDOUBLEORNAMENT 11680:TAKRILETTERAaAcIaIcUaUcEbAIcObAUcKAbHAdG",
     "AbHAdNGAdCAbHAdJAbHAdNYAdTTAbHAeDDAbHAeNNAdTAbHAdDAbHAdNAcPAbHAdBAbHAdMAcYAcRAcLAcVAcSHAcAcH",
     "AcRRAjSIGNANUSVARAiVISARGAlVOWELSIGNAAcIaIcUaUcEbAIcObAUlSIGNVIRAMAgNUKTAjLETTERARCHAICKHAqA",
     "BBREVIATIONSIGN 116c0:TAKRIDIGITZEROeONEdTWOcHREEfFOURdIVEeSIXcEVENfEIGHTfNINE 11700:AHOMLET",
     "TERKAbHAdNGAcAcTAcALTERNATETAlPAbHAdBAcMAcJAcCHAdTHAdRAcLAcSAcNYAdHAcAbDAbHAdGAcALTERNATEGAl",
     "GHAdBHAdJHAdALTERNATEBA 1171d:AHOMCONSONANTSIGNMEDIALLAcRAcLIGATINGRA 11720:AHOMVOWELSIGNAaA",
     "cIaIcUaUcEbAWcObAIbMlSIGNKILLER 11730:AHOMDIGITZEROeONEdTWOcHREEfFOURdIVEeSIXcEVENfEIGHTfNIN",
     "EjNUMBERTENcWENTYmSIGNSMALLSECTIONlECTIONhRULAIiYMBOLVIiLETTERCAcTTAbHAeDDAbHAeNNAdLLA 11800",
     ":DOGRALETTERAaAcIaIcUaUcEbAIcObAUcKAbHAdGAbHAdNGAdCAbHAdJAbHAdNYAdTTAbHAeDDAbHAeNNAdTAbHAdDA",
     "bHAdNAcPAbHAdBAbHAdMAcYAcRAcLAcVAcSHAcSAcAcHAcRRAjVOWELSIGNAAcIaIcUaUcVOCALICRaRjEbAIcObAUlS",
     "IGNANUSVARAiVISARGAfRAMAgNUKTAjABBREVIATIONSIGN 118a0:WARANGCITICAPITALLETTERNGAAeAbWIcYUbAb",
     "OcIIcUUcEbObANGdGAcKOcENYdYUJdUCcENNdODDdTTEdNUNGeDAcATbMcBUcPUcHIYOdOLOcRRdARdSSUUdIIdVIYOr",
     "SMALLLETTERNGAAeAbWIcYUbAbOcIIcUUcEbObANGdGAcKOcENYdYUJdUCcENNdODDdTTEdNUNGeDAcATbMcBUcPUcHI",
     "YOdOLOcRRdARdSSUUdIIdVIYOpDIGITZEROeONEdTWOcHREEfFOURdIVEeSIXcEVENfEIGHTfNINEjNUMBERTENcWENT",
     "YfHIRTYgFORTYeIFTYfSIXTYeEVENTYhEIGHTYgNINETY 118ff:WARANGCITIOMmDIVESAKURULETTERAaAcIaIcUaU",
     "cE 11909:DIVESAKURULETTERO 1190c:DIVESAKURULETTERKAbHAdGAbHAdNGAdCAbHAdJA 11915:DIVESAKURULE",
     "TTERNYAdTTA 11918:DIVESAKURULETTERDDAbHAeNNAdTAbHAdDAbHAdNAcPAbHAdBAbHAdMAcYAbYAdRAcLAcVAcSH",
     "AcSAcAcHAcLLAdZAiVOWELSIGNAAcIaIcUaUcE 11937:DIVESAKURUVOWELSIGNAIcO 1193b:DIVESAKURUSIGNANU",
     "SVARAiCANDRABINDUlHALANTAlVIRAMAgPREFIXEDNASALSIGNrMEDIALYAiINITIALRAjMEDIALRAiSIGNNUKTAjDOU",
     "BLEDANDAlGAPFILLERjENDOFTEXTMARK 11950:DIVESAKURUDIGITZEROeONEdTWOcHREEfFOURdIVEeSIXcEVENfEI",
     "GHTfNINE 119a0:NANDINAGARILETTERAaAcIaIcUaUcVOCALICRaR 119aa:NANDINAGARILETTEREbAIcObAUcKAbH",
     "AdGAbHAdNGAdCAbHAdJAbHAdNYAdTTAbHAeDDAbHAeNNAdTAbHAdDAbHAdNAcPAbHAdBAbHAdMAcYAcRAcLAcVAcSHAc",
     "SAcAcHAcLLAdRRAjVOWELSIGNAAcIaIcUaUcVOCALICRaR 119da:NANDINAGARIVOWELSIGNEbAIcObAUlSIGNANUSV",
     "ARAiVISARGAfRAMAgAVAGRAHAiSIDDHAMlHEADSTROKEkVOWELSIGNPRISHTHAMATRAE 11a00:ZANABAZARSQUARELE",
     "TTERAhVOWELSIGNIbUEbbEbOEbbAIbUcREVERSEDInLENGTHMARKpLETTERKAbHAdGAbHAdNGAdCAbHAdJAcNYAdTTAb",
     "HAeDDAbHAeNNAdTAbHAdDAbHAdNAcPAbHAdBAbHAdMAcTSAbHAeDZAbHAeZHAcAc-AcYAcRAcLAcVAcSHAcSAcAcHAcK",
     "SSAkFINALCONSONANTMARKsSIGNVIRAMAgCANDRABINDUaWITHORNAMENTrWITHORNAMENTsANUSVARAiVISARGAlCLU",
     "STERINITIALLETTERRApFINALLETTERYAcRAcLAcVAuINITIALHEADMARKpCLOSINGHEADMARKpMARKTSHEGfSHADeDO",
     "UBLESHADkLONGTSHEGnINITIALDOUBLELINEDHEADMARK 11a46:ZANABAZARSQUARECLOSINGDOUBLELINEDHEADMAR",
     "K 11a47:ZANABAZARSQUARESUBJOINER 11a50:SOYOMBOLETTERAhVOWELSIGNIbUEbbEbOaEcAIbUcVOCALICRbLmL",
     "ENGTHMARKpLETTERKAbHAdGAbHAdNGAdCAbHAdJAbHAdNYAdTTAbHAeDDAbHAeNNAdTAbHAdDAbHAdNAcPAbHAdBAbHA",
     "dMAcTSAbHAeDZAdZHAcAc-AcYAcRAcLAcVAcSHAcSAcAcHAcKSSAkSIGNJIHVAMULIYAlUPADHMANIYApCLUSTERINIT",
     "IALLETTERRAcLAcSHAcAwFINALCONSONANTSIGNGbKbNGcDbNbBbMbRbLbSHbb-AuSIGNANUSVARAiVISARGAlGEMINA",
     "TIONMARKoSUBJOINERjMARKTSHEGfSHADeDOUBLESHADkPLUTAjHEADMARKWITHMOONANDSUNANDTRIPLEFLAMElFLAM",
     "EiwTERMINALMARK1b2 11ab0:CANADIANSYLLABICSNATTILIKHIaIcOaOcAaAdSHRIaIcOaOcAaAnSPEbIbObAuPAUC",
     "INHAULETTERPAcKAcLAcMAcDAcZAcVAcNGAdHAcGAcKHAdSAcBAcCAcTAbHAdNAcPHAdRAcFAcCHAdAbEbIbObUaAcIA",
     "cFINALPbKbTbMbNbLbWbNGcYmRISINGTONELONGekSANDHIGLOTTALSTOPrRISINGTONELONGFINALjFINALpSANDHIG",
     "LOTTALSTOPFINALqTONELONGeaLONGFINALjFINALpMIDLEVELTONEmGLOTTALSTOPVARIANTsMIDLEVELTONELONGFI",
     "NALjFINALrLOWFALLINGTONELONGeoGLOTTALSTOPlLOWFALLINGTONELONGFINALjFINALtGLOTTALSTOPFINAL 11b",
     "00:DEVANAGARIHEADMARKaWITHHEADSTROKEwSIGNBHALEaWITHHOOKnEXTENDEDBHALEaWITHHOOKvWESTERNFIVELI",
     "KEBHALEnNINELIKEBHALEuREVERSEDNINELIKEBHALEvMINDU 11c00:BHAIKSUKILETTERAaAcIaIcUaUcVOCALICRa",
     "RcL 11c0a:BHAIKSUKILETTEREbAIcObAUcKAbHAdGAbHAdNGAdCAbHAdJAbHAdNYAdTTAbHAeDDAbHAeNNAdTAbHAdD",
     "AbHAdNAcPAbHAdBAbHAdMAcYAcRAcLAcVAcSHAcSAcAcHAiVOWELSIGNAAcIaIcUaUcVOCALICRaRcL 11c38:BHAIKS",
     "UKIVOWELSIGNEbAIcObAUlSIGNCANDRABINDUlANUSVARAiVISARGAfRAMAgAVAGRAHAmDANDAeOUBLEDANDAlWORDSE",
     "PARATORnGAPFILLER1b2 11c50:BHAIKSUKIDIGITZEROeONEdTWOcHREEfFOURdIVEeSIXcEVENfEIGHTfNINEjNUMB",
     "ERONEdTWOcHREEfFOURdIVEeSIXcEVENfEIGHTfNINEeTENcWENTYfHIRTYgFORTYeIFTYfSIXTYeEVENTYhEIGHTYgN",
     "INETYmHUNDREDSUNITMARK 11c70:MARCHENHEADMARKiMARKSHADiLETTERKAbHAdGAcNGAdCAbHAdJAcNYAdTAbHAd",
     "DAcNAcPAbHAdBAcMAcTSAbHAeDZAdWAcZHAcAc-AcYAcRAcLAcSHAcAcHAcA 11c92:MARCHENSUBJOINEDLETTERKAb",
     "HAdGAcNGAdCAbHAdJAcNYAdTAbHAdDAcNAcPAbHAdBAcMAcTSAbHAeDZAdWAcZHAcA 11ca9:MARCHENSUBJOINEDLET",
     "TERYAcRAcLAcSHAcAcHAcAqVOWELSIGNAAcIbUbEbOkSIGNANUSVARAiCANDRABINDU 11d00:MASARAMGONDILETTER",
     "AaAcIaIcUaUcE 11d08:MASARAMGONDILETTERAIcO 11d0b:MASARAMGONDILETTERAUcKAbHAdGAbHAdNGAdCAbHAd",
     "JAbHAdNYAdTTAbHAeDDAbHAeNNAdTAbHAdDAbHAdNAcPAbHAdBAbHAdMAcYAcRAcLAcVAcSHAcSAcAcHAcLLAdKSSAeJ",
     "NYAeTRAjVOWELSIGNAAcIaIcUaUcVOCALICR 11d3a:MASARAMGONDIVOWELSIGNE 11d3c:MASARAMGONDIVOWELSIG",
     "NAIcO 11d3f:MASARAMGONDIVOWELSIGNAUlSIGNANUSVARAiVISARGAhNUKTAfCANDRAgHALANTAlVIRAMAgREPHAeA",
     "KARA 11d50:MASARAMGONDIDIGITZEROeONEdTWOcHREEfFOURdIVEeSIXcEVENfEIGHTfNINE 11d60:GUNJALAGOND",
     "ILETTERAaAcIaIcUaU 11d67:GUNJALAGONDILETTEREEcAI 11d6a:GUNJALAGONDILETTEROOcAUcYAcVAcBAbHAdM",
     "AcKAbHAdTAbHAdLAcGAbHAdDAbHAdNAcCAbHAdTTAbHAeLLAdJAbHAdDDAbHAeNGAdPAbHAdHAcRAcSAiVOWELSIGNAA",
     "cIaIcUaU 11d90:GUNJALAGONDIVOWELSIGNEEcAI 11d93:GUNJALAGONDIVOWELSIGNOOcAUlSIGNANUSVARAiVISA",
     "RGAlVIRAMAgOM 11da0:GUNJALAGONDIDIGITZEROeONEdTWOcHREEfFOURdIVEeSIXcEVENfEIGHTfNINE 11ee0:MA",
     "KASARLETTERKAcGAcNGAdPAcBAcMAcTAcDAcNAcCAcJAcNYAdYAcRAcLAcVAcSAcAhANGKAfVOWELSIGNIbUbEbOkPAS",
     "SIMBANGkENDOFSECTION 11f00:KAWISIGNCANDRABINDUlANUSVARAiREPHAfVISARGAlLETTERAaAcIaIcUaUcVOCA",
     "LICRaRcLaLjEbAIcO 11f12:KAWILETTERKAbHAdGAbHAdNGAdCAbHAdJAbHAdNYAdTTAbHAeDDAbHAeNNAdTAbHAdDA",
     "bHAdNAcPAbHAdBAbHAdMAcYAcRAcLAcWAcSHAcSAcAcHAcJNYAkVOWELSIGNAAbLTERNATEAAlIaIcUaUcVOCALICR 1",
     "1f3e:KAWIVOWELSIGNEbAIcEUlSIGNKILLERkCONJOINERjDANDAeOUBLEDANDAlPUNCTUATIONSECTIONMARKERnALT",
     "ERNATESECTIONMARKERwFLOWERgSPACEFILLERlDOTbUBLEDOTjTRIPLEDOTjCIRCLEgFILLEDCIRCLEmSPIRALgCLOS",
     "INGSPIRALyDIGITZEROeONEdTWOcHREEfFOURdIVEeSIXcEVENfEIGHTfNINE 11fb0:LISULETTERYHA 11fc0:TAMI",
     "LFRACTIONONETHREEHUNDREDANDTWENTIETHyONEHUNDREDANDSIXTIETHvEIGHTIETHjSIXTYFOURTHlFORTIETHiTH",
     "IRTYSECONDpTHREEEIGHTIETHSkSIXTYFOURTHSrONETWENTIETHjSIXTEENTH1b2kTENTHfEIGHTHjTHREETWENTIET",
     "HSkSIXTEENTHSpONEFIFTHfQUARTERhHALF1b2iTHREEQUARTERSnDOWNSCALINGFACTORKIIZH 11fd5:TAMILSIGNN",
     "ELdCEVITUgAAZHAAKKUjUZHAKKUhMUUVUZHAKKUlKURUNIgPATHAKKUiMUKKURUNIjKAACUfPANAMeONdVARAAKANiPA",
     "ARAMgKUZHIfVELIiWETCULTIVATIONSIGNsDRYCULTIVATIONSIGNsLANDSIGNiSALTPANSIGNlTRADITIONALCREDIT",
     "SIGNkNUMBERSIGNvCURRENTSIGNlANDODDSIGNkSPENTSIGNjTOTALSIGNjINPOSSESSIONSIGNqSTARTINGFROMSIGN",
     "pIGNMUTHALIYAjVAKAIYARAA 11fff:TAMILPUNCTUATIONENDOFTEXTzCUNEIFORMSIGNAaTIMESAbBADdGAN2TENUi",
     "HAcIGIdLAGARGUNUjMUSHeSAGi2bBaTIMESASH2eDUN3GUNUiGALbN2TENUiHAcIGIGUNUgMINeLAGABfSHESHfUPLUS",
     "UPLUSUqGUNUe2aTIMESBALAGfGAN2TENUiMEPLUSENiSHA3eTAK4lDbKaTIMESERIN2fSHITAPLUSGISHtLaTIMESALc",
     "DIM2eGISHeHAcKAD3dIcSHEdUSHiANcEPHeMARaTIMESSHElNaOVERANgTHREETIMESkPLUSNAGAOPPOSINGANPLUSNA",
     "GAsSQUAREDpSHEePINdRADaTIMESKURkKABeSAL2dHaZIDATENUiKABATENUiOVERASHTUG2OVERTUG2TUG2OVERTUG2",
     "PAP 1203c:CUNEIFORMSIGNASHOVERASHOVERASHaCROSSINGASHOVERASHOVERASH 1203e:CUNEIFORMSIGNASH2bG",
     "ABgBAaDbG3cHAR2eLaOVERBALhAGdRaA2eIaTIMESAbGARdIGIGUNUnUaOVERBUABcUNiCROSSINGBUkLUGaOVERBULU",
     "GmRa2eDAaGaKISIM5TIMESAPLUSMASHiMAReBALAGeIcGAaPLUSMASHjIaR2dUDdHAcIRaPLUSLUiKAKdLAbUaPLUSMA",
     "SH2jMdNEcPAPPLUSPAPkSIcTAK4eU2PLUSGIR2jSHpMbRaA3b4eIaBbMaTIMESSHEi2cNaKASKALUGUNUDISHqSHdUaO",
     "VERDUgGUNUeSHESHIGhBaTIMESESH2j2cGaUDdHbNa3aGUNUaGUNUj4cR2eEaTIMESPAPiOVERENUNOVERNUNp2aTIME",
     "SAPLUSHAPLUSDAnGARdMIcSALcHEdUhDINdGIRdLbNaTIMESGAN2aTENUiMEhCROSSINGENkOPPOSINGENkSQUAREDiR",
     "ENcIN2eSH2dZENaTIMESAaPLUSLALaTIMESLALpNcBADdDUN3GUNUaGUNUmHAaGUNUgIGIGUNUhKASKALaSQUAREDmU3",
     "dLAaLTIMESLALkIbUcU2bDlGAaGUNUe2aTIMESAPLUSDAPLUSHAiHAcIGIhB2TENUPLUSTABnNbSHa2PLUSGALlBADbR",
     "PLUSRAiURaPLUSRAjDAbIaMTIMESSHEkUBdELaPLUSLAhNaTIMESGAN2TENUpGAN2TENUgRcIa4aPLUSAgR2PLUSSUkH",
     "APLUSLUPLUSESH2oLaPLUSLAiIPLUSLIhUB2eIGIGUNUgSHPLUSHUPLUSASHqKAKbSKALfIDaPLUSLALjU3PLUSANjLA",
     "cMEPLUSENhIcNUNaOVERNUNkPAcSALbRcHEaPLUSTURiIDdUMdTAK4eUaDaPLUSDUnOVERGA2iBAaCROSSINGGABAoDa",
     "OVERGADGAROVERGARsLaGADOVERGADGAROVERGARuAMdMbNa2aTENUeOVERGAN2iCROSSINGGAN2oRa3cSHANfESHTIN",
     "aTIMESKURoIaTIMESEbUgCROSSINGGIk4aOVERGI4hCROSSINGGI4mDIMdR2aGUNUf3aTIMESAPLUSIGIiGAN2TENUiI",
     "GIdLUPLUSIGIjPAjSALcHaCROSSINGGISHmTIMESBADdTAK4iENUhUaCROSSINGGUk2aTIMESKAKaTIMESIGIGUNUpNU",
     "NdSALPLUSTUG2qGUNUfDaTIMESAPLUSKURiKURiOVERGUDLUGALnLbMaTIMESSHEjRa7bUNbSHgHAaTENUeGUNUeLcIa",
     "TIMESASHa2eBADdDISHeGADdKINdNUNdSHEdUhUaB2aTIMESANcHALdKASKALgLISHeUDjL2eIaAbBbDIMaOVERIDIMB",
     "URdSQUAREDsGaIaDIBdRIcOVERIGISHIROVERSHIRUDOVERUD 1214a:CUNEIFORMSIGNIGIGUNUgLaTIMESGAN2TENU",
     "n2cMaTIMESTAK4jCROSSINGIMkOPPOSINGIMkSQUAREDhINdNbRbSHdKAaTIMESAaDaPLUSKU3iSH2eBADbLAGdRcIcE",
     "RIN2eSH2eGAaLbN2TENUgRaPLUSSHA3PLUSApIaR2cSHPLUSSARhCROSSINGGISHpUaR7eIGIcMcKAKcIaDdLIbUcMEa",
     "PLUSDUcGIcTEhIaPLUSNUNUZlNEbUNdPIcRUcSAaRcHAbEbIDcUcIGcUHURfTARdUa2bDbMUMTIMESPAkSHdZIh2aCRO",
     "SSINGKA2mBbD2b3b4b5aOVERKAD5kKaTIMESIGIGUNUnLaTIMESBADiCROSSINGKALmM2b4cSKALaLAGABTIMESUOVER",
     "LAGABTIMESU 1219e:CUNEIFORMSIGNKASKALOVERKASKALLAGABTIMESUOVERLAGABTIMESU 1219f:CUNEIFORMSIG",
     "NKESH2eIaTIMESBADdUaDhDbNbSALcHbIM5aOVERKISIM5pUaOVERHITIMESASH2KUOVERHITIMESASH2 121ac:CUNE",
     "IFORMSIGNKU3b4aVARIANTFORMm7bLaGUNUfNbRaOPPOSINGKURmSHU2fWU318gLAaGABaTIMESAaPLUSDAPLUSHAiGA",
     "RdLALhLbNbSHZIDATENUlBADcIcDARdENcGAaRcUDaPLUSGUDkHAaLcITIMESNUNkIGIGUNUgMaPLUSHAcLUiKIaNcU3",
     "bLaPLUSHIPLUSAoLAGABeISHdUaLdMEaPLUSENhUSHeNEcSHEPLUSSUMiITAPLUSGISHPLUSERIN2jTENUpU2aPLUSSH",
     "U2lUMdTAGbK4dEPLUSAPLUSSUPLUSNAtUaPLUSAbUPLUSUk2PLUSASHiDbSHiSQUAREDiRaTIMESSHEaPLUSSUMpGUNU",
     "aOVERLAGARGUNUSHExHSHUeLaTIMESLALjMaTIMESKURaPLUSRUqIaLbMMU2eSHdUaTIMESBADi2aTIMESALcBADdESH",
     "2aTENUiGAN2TENUiHITIMESBADkIMcKAD2b3aPLUSASHkIcLAPLUSASHhGABfMEPLUSENiNEbUcSIPLUSASHhK2PLUSB",
     "UkTUG2iENUeCROSSINGLU2lOPPOSINGLU2lSQUAREDgHESHIGi3bGALaOVERLUGALiPPOSINGLUGALnSHESHIGkHbLbM",
     "aOVERLUMaGAROVERGARuMAaTIMESTAK4jGUNUe2bHbRbSHa2eEaScIaNcUaOVERMUgGaGUNUfNSUBeRGU2eSHaTIMESA",
     "bKURdZAhOVERMUSHaTIMESAPLUSNAuCROSSINGMUSHm3aTIMESAaPLUSDIhDIhGUNUjNAa2bGAaINVERTEDiTIMESSHU",
     "TENUmOPPOSINGNAGAmRdMNUTILLUha2dEaTIMESAbUDhSHESHIGiIaTIMESEg2bMaTIMESGAN2TENUgRPLUSGAN2TENU",
     "vNDA2aTIMESANbSHaPLUSASHkGUDdMEPLUSGAN2TENUoNEbUNdSHEaPLUSAANcSHaPLUSASHrU2PLUSASHiSHmSAGeUa",
     "11cNaLAGARTIMESGARdMASHeSALaOVERNUNLAGARTIMESSALxUSHnTENUeOVERNUNhCROSSINGNUNaLAGAROVERLAGAR",
     "zUZaAB2TIMESASHGABgBIcDUGdGUDdIGIGUNUhKAD3eLAcNEcSILA3fU2kKISIM5TIMESBIaUtPAaDbNbPcESH2eIaTI",
     "MESAaBcBIbUcEbIaBcUa2hCROSSINGPIkRIGaTIMESKALdUDcZAhOPPOSINGPIRIGsRAaBcIbUcSAaGNUTILLUhaTIME",
     "SAbDUaBdHAcKAKcURdLUMdMIcNUNdSALcHIDeTABdU2bBbMbRbSHiOVERSAGhGUNUfLaLAGABTIMESASH2pNGA2eRcHA",
     "a3aTIMESAbBADdGISHeNEcSHU2eTURdUaPLUSAm6bB6cR2dEaHUcOVERSHEGADOVERGADGAROVERGARuTABOVERTABGA",
     "ROVERGAR 122be:CUNEIFORMSIGNSHEG9cNbSHa2bLAMgIDaTIMESAbIMiMaTIMESAbBALcULUGfDINdGARdIGIaGUNU",
     "hKUSHU2gLULdMUGdSALjNIGdRaTENUeOVERSHIRBUROVERBURtTAdUaOVERINVERTEDSHUp2bBURfIaGUNUda4aOVERS",
     "IG4SHU2oK2cLA3eUaOVERSUgDa2cHURdMaASHeRa9eTAaASTERISKiTIMESHIcMIhGUNUeBaOVERTABNIOVERNIDISHO",
     "VERDISH 122f2:CUNEIFORMSIGNTABSQUAREDiGaTIMESBIcGUDdSHEbUdTUG2eUDiK4cRcEaGUNUfIaTENUeLbRaTIM",
     "ESTAK4jOVERTIRaGADOVERGADGAROVERGAR 12305:CUNEIFORMSIGNTUaG2cKbMbRaOVERTURZAOVERZAsUaGUDdUUc",
     "OVERUPAOVERPAGAROVERGARsSUROVERSURkUREVERSEDOVERUREVERSED 12311:CUNEIFORMSIGNU2bBbDaKUSHU2gT",
     "IMESBADdMIcUPLUSUPLUSUaGUNUuGUNUeSHESHIGaTIMESBADpUGdMaTIMESLAGABfMEPLUSDAiSHA3eUgBINdUMaTIM",
     "ESKASKALgPAkNaGUNUfRaCROSSINGURkSHESHIGh2aTIMESAPLUSHAcNAgLcHAcNUNdU2aPLUSASHdBIo4bIa3cUaTIM",
     "ESAaSHGABgBARdDUNdGAaLbN2TENUgRcUcHAcIGIcMbSHdKIcLUMdMINdPAcSHEcIG4eTUcUPLUSGUDhDbRUDAkDAaTI",
     "MESUkSHaTIMESAbKUaRdTAK4jXb2bUMXfTUKIeZ3aTIMESKASKALmUdZAaTENUeSQUAREDTIMESKURpGbMXdE2cIaOVE",
     "RZIg3bBaKABATENUjGbZ2dUa5aTIMESAhBURdMdKAPELAMITEkABTIMESNUNi2TIMESAiMARTIMESKUGmDAGKISIM5TI",
     "MESU2PLUSMASHv3dISHPLUSSHUkUBTIMESSHElEZENTIMESGUDdSHEmGA2TIMESANPLUSKAKPLUSAnSH2lE22dIGdHUS",
     "HeKATIMESANSHEeSH3eGISHdUDdHITIMESASH2lLUMdPAcSHULeTUcUR2kLAGABTIMESGIlU2SHESHIGTIMESBADpTIM",
     "ESESH2PLUSLALlSHUlMESHdUSH3TIMESZAmNA4cINa9bDA2TIMESBALdGImU11ROTATEDNINETYDEGREESyPESH2ASTE",
     "RISKmIR2eSAGTIMESIGIGUNUpTI2dUMTIMESMEiU 12400:CUNEIFORMNUMERICSIGNTWOASHfHREEASHiFOURASHgIV",
     "EASHhSIXASHfEVENASHiEIGHTASHiNINEASHhTHREEDISHjFOURDISHhIVEDISHiSIXDISHgEVENDISHjEIGHTDISHjN",
     "INEDISHiFOURUeIVEUfSIXUdEVENUgEIGHTUgNINEUfONEGESH2iTWOGESH2hHREEGESH2kFOURGESH2iIVEGESH2jSI",
     "XGESH2hEVENGESH2kEIGHTGESH2kNINEGESH2jONEGESHUiTWOGESHUhHREEGESHUkFOURGESHUiIVEGESHUjTWOSHAR",
     "2hHREESHAR2aVARIANTFORMvFOURSHAR2iIVESHAR2jSIXSHAR2hEVENSHAR2kEIGHTSHAR2kNINESHAR2jONESHARUi",
     "TWOSHARUhHREESHARUaVARIANTFORMvFOURSHARUiIVESHARUjSHAR2TIMESGALPLUSDISHeMINuONEBURUhTWOBURUg",
     "HREEBURUaVARIANTFORMuFOURBURUhIVEBURUiTHREEVARIANTFORMESH16c21vFOURVARIANTFORMLIMMUa4bAbBvSI",
     "XVARIANTFORMASH9rEVENVARIANTFORMIMIN3bAbBvEIGHTVARIANTFORMUSSUa3vNINEVARIANTFORMILIMMUa3b4bA",
     "wTWOASHTENUjHREEASHTENUmFOURASHTENUkIVEASHTENUlSIXASHTENUkONEBAN2hTWOBAN2gHREEBAN2jFOURBAN2a",
     "VARIANTFORMsIVEBAN2aVARIANTFORMtNIGIDAMINdESHjONEESHE3iTWOESHE3iONETHIRDDISHmTWOTHIRDSDISHnF",
     "IVESIXTHSDISHoONETHIRDVARIANTFORMAuTWOTHIRDSVARIANTFORMAvONEEIGHTHASHjQUARTERASHmLDASSYRIANO",
     "NESIXTHfQUARTERuNEQUARTERGURkHALFGURkELAMITEONETHIRDiTWOTHIRDSjFORTYeIFTYmFOURUVARIANTFORMpI",
     "VEUVARIANTFORMqSIXUVARIANTFORMoEVENUVARIANTFORMrEIGHTUVARIANTFORMrNINEUVARIANTFORM 12470:CUN",
     "EIFORMPUNCTUATIONSIGNOLDASSYRIANWORDDIVIDERwVERTICALCOLONnDIAGONALCOLONfTRICOLONiQUADCOLON 1",
     "2480:CUNEIFORMSIGNABTIMESNUNTENUhSHU2kDTIMESESH2lBADTIMESDISHTENUoHAR2TIMESAB2dNIcZAmUOVERBU",
     "TIMESNA2qDATIMESTAK4jGTIMESKURkIMTIMESIGIdUUUi2TIMESUDkUGTIMESANSHEeSHaATLEFTjDINcUNdERIN2fG",
     "AbIaR2GUNUgSHeHAbIcIGIGUNUhKASKALfURbSHU2aPLUSKASKALqLAK020eMaTIMESKURkUHPLUSGISHlMASHdEScIc",
     "NIcPIcSHEcIGUNUoE2TIMESKURdPAPjRIN2XfSH2CROSSINGESH2pZENSHESHIGTIMESASHdHIcIGIGUNUhLAaLdMEaS",
     "dSUoTIMESSUlGA2TIMESBAHAR2gDIMGUNUgUGTIMESIGIGUNUhKASKALoERENeGAaRPLUSDIcNEjHAPLUSAhKUSHU2PL",
     "USKASKALqLAMaTIMESKURkUHdMUSHeNEaPLUSE2cGIiSHIMeZIZ2kBAROTATEDNINETYDEGREESxESHTINTIMESUmISH",
     "TIMESGISHCROSSINGGISHyU2TIMESIGIGUNUnDPLUSGISHTIMESTAK4uHATENUGUNUjITIMESASHOVERHITIMESASHyK",
     "ATIMESBUcKAcUUUcRjLAGABTIMESZUOVERZUqK003c21b5c30c50b1c62c79OVERLAK079GUNUq80b1OVERLAK081m92",
     "d130c42d210b9c20b5b8c38c65b6d343b7b8c83b4c90d441b9aTIMESGUcIGIdPAPPLUSLU3dPAPPLUSLU3rU2PLUSB",
     "Ap50b7c70c83c90b2b3b5d550d608c17aTIMESASHdBADdDUN3GUNUGUNUmKU3dLAcTARcEcU2bDbRUDAm36c48aTIME",
     "SDUBdGAcIGIaGUNUhNIcPAPPLUSPAPPLUSLU3rSHESHPLUSKIlUDbRUDAn724c49fU2GUNUTIMESASHmTIMESDISHeHA",
     "LdPAPaPLUSPAPPLUSLU3rTAK4mMIPLUSZA7iUSHOVERMUSHTIMESGAcKAKuNINDA2TIMESDIMGUNUhGISHdULdHIcKES",
     "H2fLAK050gMASHePAPPLUSPAPkUaPLUSUfRUDAqSAGGUNUTIMESHAlTIMESENcSHEATLEFTjTAK4lHA6TENUgEOVERSH",
     "EhPLUSHUB2eNAM2eSARiU2PLUSDUGTIMESNIkE2TIMESANqITIMESTAK4lTAK4PLUSSAGkUMTIMESGAN2TENUiTHREED",
     "ISHrUR2INVERTEDiTIMESUDiUTIMESDARA3fLAK668fU3lZA7cUOVERZUPLUSSARn5TIMESTHREEDISHTENU 12f90:C",
     "YPROMINOANSIGNCM001b2b4b5b6b7b8b9c10b1b2aBc3b5b7b9c21b3b4b5b6b7b8b9c30b3b4b5b6b7b8b9c40b1b4b",
     "6b7b9c50b1b2b3b4b5b6b8b9c60b1b2b3b4b6b7b8b9c70b1b2b3b4b5aBc6b8b9c80b1b2b3b4b5b6b7b8b9c90b1b2",
     "b4b5b6b7b8b9d100b1b2b3b4b5b7b8b9c10b2b4d301b2 13000:EGYPTIANHIEROGLYPHA001b2b3b4b5aAc6aAbBc7",
     "b8b9c10b1b2b3b4aAc5b6b7aAc8b9c20b1b2b3b4b5b6b7b8b9c30b1b2aAc3b4b5b6b7b8b9c40aAc1b2aAc3aAc4b5",
     "aAc6b7b8b9c50b1b2b3b4b5b6b7b8b9c60b1b2b3b4b5b6b7b8b9c70eB001b2b3b4b5aAc6b7b8b9eC001b2aAbBbCc",
     "3b4b5b6b7b8b9c10aAc1b2b3b4b5b6b7b8b9c20b1b2b3b4eD001b2b3b4b5b6b7b8aAc9c10b1b2b3b4b5b6b7b8b9c",
     "20b1b2b3b4b5b6b7aAc8b9c30b1aAc2b3b4aAc5b6b7b8b9c40b1b2b3b4b5b6aAc7b8aAc9c50aAbBbCbDbEbFbGbHb",
     "Ic1b2aAc3b4aAc5b6b7b8b9c60b1b2b3b4b5b6b7aAbBbCbDbEbFbGbHfE001b2b3b4b5b6b7b8aAc9aAd10b1b2b3b4",
     "b5b6aAc7aAc8b9c20aAc1b2b3b4b5b6b7b8aAc9c30b1b2b3b4aAc6b7b8eF001aAc2b3b4b5b6b7b8b9c10b1b2b3aA",
     "c4b5b6b7b8b9c20b1aAc2b3b4b5b6b7b8b9c30b1aAc2b3b4b5b6b7aAc8aAc9c40b1b2b3b4b5aAc6aAc7aAc8b9c50",
     "b1aAbBbCc2b3eG001b2b3b4b5b6aAc7aAbBc8b9c10b1aAc2b3b4b5b6b7b8b9c20aAc1b2b3b4b5b6aAc7b8b9c30b1",
     "b2b3b4b5b6aAc7aAc8b9c40b1b2b3aAc4b5aAc6b7b8b9c50b1b2b3b4eH001b2b3b4b5b6aAc7b8eI001b2b3b4b5aA",
     "c6b7b8b9aAd10aAc1aAc2b3b4b5eK001b2b3b4b5b6b7b8eL001b2aAc3b4b5b6aAc7b8eM001aAbBc2b3aAc4b5b6b7",
     "b8b9c10aAc1b2aAbBbCbDbEbFbGbHc3b4b5aAc6aAc7aAc8b9c20b1b2aAc3b4aAc5b6b7b8aAc9c30b1aAc2b3aAbBc",
     "4b5b6b7b8b9c40aAc1b2b3b4eN001b2b3b4b5b6b7b8b9c10b1b2b3b4b5b6b7b8aAbBc9c20b1b2b3b4b5aAc6b7b8b",
     "9c30b1b2b3aAc4aAc5aAc6b7aAc8b9c40b1b2dL001b2b3b4b5aAc6b7b8b9c10b1b2b3b4b5b6b7aAc8b9c20eU001b",
     "2b3b4b5b6b7b8b9c10aAc1aAc2b3b4b5b6b7b8aAc9c20b1b2aAgO001aAc2b3b4b5aAc6aAbBbCbDbEbFc7b8b9c10a",
     "AbBbCc1b2b3b4b5b6b7b8b9aAd20aAc1b2b3b4aAc5aAc6b7b8b9aAd30aAc1b2b3aAc4b5b6aAbBbCbDc7b8b9c40b1",
     "b2b3b4b5b6b7b8b9c50aAbBc1eP001aAc2b3aAc4b5b6b7b8b9c10b1eQ001b2b3b4b5b6b7eR001b2aAc3aAbBc4b5b",
     "6b7b8b9c10aAc1b2b3b4b5b6aAc7b8b9c20b1b2b3b4b5b6b7b8b9eS001b2aAc3b4b5b6aAc7b8b9c10b1b2b3b4aAb",
     "Bc5b6b7aAc8b9c20b1b2b3b4b5b6aAbBc7b8b9c30b1b2b3b4b5aAc6b7b8b9c40b1b2b3b4b5b6eT001b2b3aAc4b5b",
     "6b7aAc8aAc9aAd10b1aAc2b3b4b5b6aAc7b8b9c20b1b2b3b4b5b6b7b8b9c30b1b2aAc3aAc4b5b6eU001b2b3b4b5b",
     "6aAbBc7b8b9c10b1b2b3b4b5b6b7b8b9c20b1b2b3aAc4b5b6b7b8b9aAd30b1b2aAc3b4b5b6b7b8b9c40b1b2eV001",
     "aAbBbCbDbEbFbGbHbIc2aAc3b4b5b6b7aAbBc8b9c10b1aAbBbCc2aAbBc3b4b5b6b7b8b9c20aAbBbCbDbEbFbGbHbI",
     "bJbKbLc1b2b3aAc4b5b6b7b8aAc9aAd30aAc1aAc2b3aAc4b5b6b7aAc8b9c40aAfW001b2b3aAc4b5b6b7b8b9aAd10",
     "aAc1b2b3b4aAc5b6b7aAc8aAc9c20b1b2b3b4aAc5eX001b2b3b4aAbBc5b6aAc7b8aAfY001aAc2b3b4b5b6b7b8eZ0",
     "01b2aAbBbCbDc3aAbBc4aAc5aAc6b7b8b9c10b1b2b3b4b5aAbBbCbDbEbFbGbHbIc6aAbBbCbDbEbFbGbHfAA001b2b",
     "3b4b5b6b7aAbBc8b9c10b1b2b3b4b5b6b7b8b9c20b1b2b3b4b5b6b7b8b9c30b1b2fV011DeERTICALJOINERoHORIZ",
     "ONTALJOINERqINSERTATTOPSTARTiBOTTOMSTARTlTOPENDgBOTTOMENDrOVERLAYMIDDLEnBEGINSEGMENTmENDSEGM",
     "ENTkINSERTATMIDDLEgTOPdBOTTOMoBEGINENCLOSUREoENDENCLOSUREmBEGINWALLEDENCLOSUREuENDWALLEDENCL",
     "OSUREsMIRRORHORIZONTALLYsFULLBLANKjHALFBLANKjLOSTSIGNiHALFLOSTSIGNmTALLLOSTSIGNmWIDELOSTSIGN",
     "mMODIFIERDAMAGEDATTOPSTARTiBOTTOMSTARTlSTARTfTOPENDddBOTTOMSTARTANDTOPENDuSTARTANDTOPlBOTTOM",
     "ENDjTOPSTARTANDBOTTOMENDuBOTTOMgSTARTANDBOTTOMoENDdTOPANDENDjBOTTOMANDENDo 14400:ANATOLIANHI",
     "EROGLYPHA001b2b3b4b5b6b7b8b9c10aAc1b2b3b4b5b6b7b8b9c20b1b2b3b4b5b6aAc7b8b9c30b1b2b3b4b5b6b7b",
     "8b9aAd40b1aAc2b3b4b5aAc6aAbBc7b8b9c50b1b2b3b4b5b6b7b8b9c60b1b2b3b4b5b6aAbBbCc7b8b9c70b1b2b3b",
     "4b5b6b7b8b9c80b1b2b3b4b5b6b7b8b9c90b1b2b3b4b5b6b7aAc8aAc9d100aAc1aAc2aAc3b4aAbBbCc5aAbBc6b7a",
     "AbBbCc8b9c10aAbBc1b2b3b4b5aAc6b7b8b9c20b1b2b3b4b5aAc6b7b8b9c30b1b2b3b4b5aAc6b7b8b9c40b1b2b3b",
     "4b5b6b7b8b9c50b1b2b3b4b5b6b7b8b9c60b1b2b3b4b5b6b7b8b9c70b1b2b3b4b5b6b7b8b9c80b1b2b3b4b5b6b7b",
     "8b9c90b1b2b3b4b5b6b7b8b9d200b1b2aAbBc3b4b5b6b7aAc8b9aAd10b1b2b3b4b5aAc6aAc7b8b9c20b1b2b3b4b5",
     "b6b7aAc8b9c30b1b2b3b4b5b6b7b8b9c40b1b2b3b4b5b6b7b8b9c50b1b2b3b4b5b6b7b8b9c60b1b2b3b4b5b6b7aA",
     "c8b9c70b1b2b3b4b5b6b7b8b9c80b1b2b3b4b5b6b7b8b9aAd90b1b2b3b4aAc5b6b7b8b9aAe300b1b2b3b4b5b6b7b",
     "8b9aAd10b1b2b3b4b5b6b7b8b9c20b1b2b3b4b5b6b7b8b9aAd30b1b2AbBbCc3b4b5b6aAbBbCc7b8b9c40b1b2b3b4",
     "b5b6b7b8b9c50b1b2b3b4b5b6b7b8b9aAd60b1b2b3b4aAc5b6b7b8aAc9c70b1aAc2b3b4b5b6b7b8b9c80b1aAc2b3",
     "RAORRIgAc4b5b6aAc7b8b9c90b1b2b3EIGHTg4b5b6b7b8b9d400b1b2b3b4b5b6b7b8b9c10BEGINLOGOGRAMMARKrA",
     "ENDLOGOGRAMMARKr1b2b3b4b5b6b7b8b9c20b1b2b3b4b5b6b7b8b9c30b1b2b3b4b5b6b7b8b9c40b1b2b3b4b5b6b7",
     "b8b9c50aAc1b2b3b4b5b6b7aAc8b9c60b1b2b3b4b5b6b7b8b9c70b1b2b3b4b5b6b7b8b9c80b1b2b3b4b5b6b7b8b9",
     "c90b1b2b3b4b5b6b7d501b2b3b4b5b6b7b8b9c10b1b2b3b4b5b6b7b8b9c20b1b2b3b4b5b6b7b8b9c30 16800:BAM",
     "UMLETTERPHASEANGKUEMFONjGBIEEFONiPONMFONPIPAEMGBIEEfBApNAAMFONhSHUENSHUETkTITAMFONiNZAMFONhS",
     "HINDAPANJIlPONPANJIPIPAEMGBIEEfBAqMAEMBGBIEEkTUMAEMBAiNGANGUgMAEMVEUXgNSUAEgVEUAENGAMkSEUNYA",
     "MhNTOQPENhKEUKEUTNDAkNKINDIgSUUdNGKUENZEUMkLAPAQeETKUTgNTAPMFAAiMAEKEUPhPASHAEgGHEUAERAEjPAM",
     "SHAEhMONNGGEUAETlNZUNMEUTiUYUQNAEhGHEUAEGHEUAEmNTAPNTAAiSISAeMGBASAfEUNJOMNDEUQlOOMPUQhKAFAe",
     "PALEERAEWAkNDALEERAEWAlPETdMAEMKPENiNIKAePUPdTUAEPfLUAEPfSONJAMgTEUTEUWENjMAENYIgKETdNDAANGG",
     "EUAETmKUOQeMOOMEUThSHUMeLOMMAEgFIRIeROMdKPOQeSOQdMAPPIEETiSHIRAEgNTAPeSHOQNSHUTYUMmNYITMONGK",
     "EUAEQoPAARAEgNKAARAEhUNKNOWNhNGGENfMAESIfNJAMeMBANYIgNYETeTEUAENgSOTdPAAMeNSHIEEgMAEMeNYIdKA",
     "QdNSHAeVEEdLUcNENcAQdMBAQfBNSHUETgTUMAEMGBIEElSIEEdETTUfLOMNTEUMiMBAMAELEEjKIEEMfYEURAEgMBAA",
     "RAEhKAMdPEESHIgYAFULEERAEWAmLAMNSHUTNYAMmNTIEESHEUOQkDUNJAAhGHEUGHEUAEMlPITdTUNSIEEhSHETNJAQ",
     "fUAEQTUjMFONTEUAEQjBITMBAAKETlNYINTEUMiKEUPUQgGHEUGHENiKEUYEUXhLAANAEgPARUMfVEUMeNGKINDIMVOP",
     "jGEUMBUiWUAETfSAKEUAEhTAAMeMEUQeNGGUOQaLARGElMFIYAQgSUEdMBEURIfONTIEENiNYAEMAEhPUNGAAMhMEUTN",
     "GGEETkFEUXeMBUOQfFEEdKEUAEMgMANJEUAENAgUQAhLETdNGGAAMfSENeMAcKIQdNGOMfCNGKUEMAEMBAkZAdYUMdWA",
     "NGKUOQiNGGENeDEUAEREEiGKAQfGHARAEgMBEEKEETiGBAYIfNYIRMKPARAQMEUNoTUMBIThMBEUMfPIRIEENhNDOMBU",
     "gMBAACABBAGETREEpKEUSHEUAEPkGHAPeKEUKAQgYUMUOMAEiNZEUMfMBUEeNSEUAENhMBITeYEUQeKPARAQfAAdSEUX",
     "eNDIDAfTAASHAEhNJUEQfTITAYUEhSUAETfNGGUAENNYAMlVEUXeNANSANAQiMAKEUAERIjNTAAdGGUONgLAPdMBIRIE",
     "ENhGBASAQhNTEUNGBAiTEUTEUXhNGGUMfFUEdNDEUTeSAbHAQfBUNGeVEUAEPENiMBERAEgRUcNJAEMfLAMdTITUAEPh",
     "NSUOTNGOMiJEEEEgKETdNGGUeMAESIeBUAEMgLUcKUTdNJAMdGOMeWUPdNGGUEETgSOMdTENeKUOPNKAARAElNSUNdDA",
     "MeMANSIEEhYAAdNDAPeSHUEQeETFONgMBIcAEMBAfBANYIgKEUSEUXhMBEUXfKEUMeMBAAPICKETkYUWOQfNJEUXfMIE",
     "EdUAEeSHIQeKENLAWdFATIGUEkNGAQdAQdLIQdPINcENdTETeDMBUOeWAPdNJIdMFONeNJIEEfLIEEeNJEUTeSHEEeGG",
     "AAMAEhYAMeWUAENfNGKUNfSHEEeNGKAPfKEUAETMEUNkTEUTeSHEUAEgNJAPeSUEdKETdYAEMMAEhKUOMeSAPdMFEUTf",
     "NDEUXfMALEERIgEUTeSEUAEQgYENdNJEUAEMhKEUOTMBUAEkNGKEURIhTUcGHAAeNGKYEEgFEUFEUAETjNDEEeMGBOFU",
     "MhLEUAEPgNDONeMONIdGBEUNgPUUTeMGBIEEfFOdLUMdNSIEEPgMBAAeKWAETfNYETeTEUAENgSOTdYUWOQfKEUMeRAE",
     "MeTEEEEfNGKEUAEQiMFEUAEgNSIEETgKEUPePIPcEUTAEgNYUEeLETdNGGAAMgMFIEEfNGGWAENhYUOMePAPdYUOPeND",
     "AMdTEUMfSUAEeKUNdNGGEUXeKIEEgTUOTeMEUNeKUQdNSUMeTEUNeMAENJEThNGGAPfLEUMeNGGUOMfSHUTeJUEQfGHE",
     "UAEgKUcRENOLDgTAEcOQdNYIdRIIdLEEEEfMEEEEebSUUdMUcSHIIcEUXfKYEEeNUcSHUdNTEEePEEdNIcSHOQePUQdM",
     "VOPeLOQdRENMUCHhTIcNTUUeMBAASEVENjSAQdFAAeENDAPeTOONeMBEUMfLAPdVOMdLOONePAAdSOMdRAQdNSHUOPfD",
     "UNePUAEeTAMdNGKAeKPEUXfWUOdSEEdNGGEUAETiPAAMeTOOdKUOPeLOMdNSHIEEfGOPeMAEMeNGKEUXeOQdSHUEfRIM",
     "GBAgNJEUXfPEEMeSAAdNGGURAEhMGBAeGHEUXfNGKEUAEMhJAEMLIhMAPdLOOTeNGGEEEEgDIQeTAENNTEUMjSETdPUM",
     "dNDAASOFTNESSlGGUAESHAENYAMoYIEEeGHEUNfTUAEeYEUAEfPOcTUMAEfKEUAEfSUAENfTEUAEQgVEUAEfWEUXeLAA",
     "MePUcTAAQeGHAAMAEhNGEUREUTiSHEUAEQhMGBENeBEEeNZAQdKOMeGBETeTUMdKUETeYAPdNYICLEAVERkYITdMFEUQ",
     "fNDIAQfPIEEQfYUEQeLEUAEMgFUEdGBEUXfNGKUPfKETdMAEdNGKAAMIhGHETeFAcNTUMePEUTeYEUMeNGGEUAEgYIBE",
     "TWEENjZUQePOONeMIEEeFUETeNAEdMUAEeGHEUAEgFUIdMVIdPUAQeNGKUMfKUTdPIETeNTAPeYEUAETgNGGUPfPAPEO",
     "PLEiFUCALLfOMdNJEEeAbTOQdObIbLAQdPAPLURALiTAAbQdNDAAMYHOUSElSHIQeYEUXeNGUAEfYUAENeOQSWIMMING",
     "iCOVERhUQbNdKEUXePEUXeNJEEEPOCHjPUEdWUEdFEEdVEEdLUcMIcREUXdAEdNGUAETeAdSHOaQeFUREMEDYiNAcPIc",
     "LOQdKOcMENcAaQdTEUdKIcMONdTENdFAQdGHOMfFKAcUbKUcEEcREEdTAEdNYIdLAcRIIbEEeMEEEEfTAAdNDAAdJAEM",
     "fMbSUUcHIIdIbEUXeKYEEdETdNUAEcbJUAEfYOQdSHUdYAcNSHAePEUXeNTEEeWUEdPEEdRUcNIcREUXeKENdNGKWAEN",
     "fGAeSHOdPUAEeFOMdWAcLIbOQdKOcMBENeRENdMAbObBAAeTETdKPAdSAMBAfVUEQ 16a40:MROLETTERTAcNGIdYOcM",
     "IMdBAcDAcAbPHIdKHAIeHAOdDAIdCHUdKEAAEfOLcMAEMeNINdPAcOObbROcSHIdTHEAeEAcWAcEbKOcLANbcHAIdRIc",
     "TEK 16a60:MRODIGITZEROeONEdTWOcHREEfFOURdIVEeSIXcEVENfEIGHTfNINE 16a6e:MRODANDAeOUBLEDANDAoT",
     "ANGSALETTEROZbCbQbXcAZbCbQbXcVZbCbQbXcEZbCbQbXcIZbCbQbXcUZbCbQbXcAWZbCbQbXdUIZbCbQbXdFINALNG",
     "hLONGUEXhSHORTUEZdAWXiUECbZbQbXcIUZbCbQbXeMZbCbQbXcKAbHAdGAcNGAdSAcYAcWAcPAcNYAdPHAdBAcMAcNA",
     "cHAcLAcHTAdTAcDAcRAcNHAdSHAdCAcTSAdGHAdHTTAeTHAdXAcFAcDHAdCHAdZA 16ac0:TANGSADIGITZEROeONEdT",
     "WOcHREEfFOURdIVEeSIXcEVENfEIGHTfNINE 16ad0:BASSAVAHLETTERENNIeKAcSEcFAcMBEdYIEdGAHdDHIIeKPAH",
     "eJOcHWAHeWAcZOcGBUdDOcCEcUWUdTOcBAcVUcYEINePAcWADDAfAbOaOcUbEEbbI 16af0:BASSAVAHCOMBININGHIG",
     "HTONEiLOWTONEhMIDTONEhLOWMIDTONEkHIGHLOWTONEuFULLSTOP 16b00:PAHAWHHMONGVOWELKEEBbVdIBbVcAUBb",
     "VdUBbVcEBbVcAIBbVdOOBbVdAWBbVdUABbVdOBbVcIABbVdABbVcWBbVcAABbVjCONSONANTVAUdNTSAUfLAUdHAUdNL",
     "AUeRAUdNKAUeQHAUeYAUdHLAUeMAUdCHAUeNCHAUfHNAUePLHAUfNTHAUeAUdAUcXAUdCAUmMARKCIMTUBdSOcKEScHA",
     "VeSUAMeHOMdTAUMlSIGNVOSTHOMdSHABCEEBmCIMCHEEMiVOSTHIABfFEEMhXYEEMNTXIVfRHOdTOVdFAIBjVOSSEEVh",
     "MEEJSUABiVOSNRUAhIBYAMfXAUSeCIMTSOVROG 16b50:PAHAWHHMONGDIGITZEROeONEdTWOcHREEfFOURdIVEeSIXc",
     "EVENfEIGHTfNINE 16b5b:PAHAWHHMONGNUMBERTENSeHUNDREDSiTENTHOUSANDSmMILLIONSiHUNDREDMILLIONSpT",
     "ENBILLIONSkRILLIONS 16b63:PAHAWHHMONGSIGNVOSLUBgXYOOeHLIdTHIRDSTAGEHLInZWJTHAJhHNUBeNQIGeXIA",
     "BeNTUJeAVcTXHEEJCEEVkMEEJTSEEBjTAUdLOSdMUSdCIMHAISLUSNTOGNTOGpCUAMTSHOOJkTXWVaCHWViPUBDAWBhN",
     "RESTOS 16b7d:PAHAWHHMONGCLANSIGNTSHEEJgYEEGeLIScAUJeXYOOJfKOOdHAWJeMUASeTHOJdSABePHABeKHABeH",
     "AMdVAJdFAJdYAJdTSWBeKWMdVWJ 16e40:MEDEFAIDRINCAPITALLETTERMbSbVbWbATIUeZbKPcPbTbGbFbIbKbAbJb",
     "EbBbCbUbYUcLbQbHPcNYcXbDbOEcNbRbObAIcYoSMALLLETTERMbSbVbWbATIUeZbKPcPbTbGbFbIbKbAbJbEbBbCbUb",
     "YUcLbQbHPcNYcXbDbOEcNbRbObAIcYmDIGITZEROeONEdTWOcHREEfFOURdIVEeSIXcEVENfEIGHTfNINEjNUMBERTEN",
     "dELEVENgTWELVEfHIRTEENiFOURTEENhIFTEENhSIXTEENgEVENTEENjEIGHTEENiNINETEENoDIGITONEALTERNATEF",
     "ORMqTWOALTERNATEFORMpHREEALTERNATEFORMxCOMMAfFULLSTOPiSYMBOLAIVAkEXCLAMATIONOH 16f00:MIAOLET",
     "TERPAcBAcYIPAePLAdMAbHAdARCHAICMAjFAcVAbFAdTAcDAcYITTAcAeTTAdDDAdNAbHAdYINNAfARCHAICNAjNNAbH",
     "AeLAbYAcHAbYAeTLHAeDLHAeTLHYAfDLHYAfKAcGAcYIKAeQAbGAdNGAbHAeARCHAICNGAkHAcXAcGHAbHAeTSSAeDZZ",
     "AeNYAbHAeTSHAeDZHAeYITSHAeDZHAgREFORMEDTSHAmSHAcSAdZHAcSHAeTSAdDZAdYITSAfSAcZAbSAcZAbSAeARCH",
     "AICZZAkZZYAcSYAfWAcAHcHHAdBRIdSYIdDZYIeTEbSEdRTE 16f4f:MIAOSIGNCONSONANTMODIFIERBARyLETTERNA",
     "SALIZATIONsSIGNASPIRATIONkREFORMEDVOICINGhASPIRATIONwVOWELSIGNAaAbHHcNaGdOaOcWObbEaNaGdOEYdI",
     "aAaNaGdObEbIbUbNGdUaAaNaGdUbEIcNGdYaIcAEaEdERRdROUNDEDERRkERcROUNDEDERjAIcEIcAUcOUcNaGcUOGdY",
     "UIdOGbERdVWcIGcEAcIONGeUI 16f8f:MIAOTONERIGHTfTOPRIGHTiABOVEfBELOWjLETTERTONE2b3b4b5b6b7b8fR",
     "EFORMEDTONE1b2b4b5b6b8 16fe0:TANGUTITERATIONMARKtNUSHUITERATIONMARKsOLDCHINESEHOOKMARKiITERA",
     "TIONMARKxKHITANSMALLSCRIPTFILLER 16ff0:VIETNAMESEALTERNATEREADINGMARKCAcNHAY 18800:TANGUTCOM",
     "PONENT001b2b3b4b5b6b7b8b9c10b1b2b3b4b5b6b7b8b9c20b1b2b3b4b5b6b7b8b9c30b1b2b3b4b5b6b7b8b9c40b",
     "1b2b3b4b5b6b7b8b9c50b1b2b3b4b5b6b7b8b9c60b1b2b3b4b5b6b7b8b9c70b1b2b3b4b5b6b7b8b9c80b1b2b3b4b",
     "5b6b7b8b9c90b1b2b3b4b5b6b7b8b9d100b1b2b3b4b5b6b7b8b9c10b1b2b3b4b5b6b7b8b9c20b1b2b3b4b5b6b7b8",
     "b9c30b1b2b3b4b5b6b7b8b9c40b1b2b3b4b5b6b7b8b9c50b1b2b3b4b5b6b7b8b9c60b1b2b3b4b5b6b7b8b9c70b1b",
     "2b3b4b5b6b7b8b9c80b1b2b3b4b5b6b7b8b9c90b1b2b3b4b5b6b7b8b9d200b1b2b3b4b5b6b7b8b9c10b1b2b3b4b5",
     "b6b7b8b9c20b1b2b3b4b5b6b7b8b9c30b1b2b3b4b5b6b7b8b9c40b1b2b3b4b5b6b7b8b9c50b1b2b3b4b5b6b7b8b9",
     "c60b1b2b3b4b5b6b7b8b9c70b1b2b3b4b5b6b7b8b9c80b1b2b3b4b5b6b7b8b9c90b1b2b3b4b5b6b7b8b9d300b1b2",
     "b3b4b5b6b7b8b9c10b1b2b3b4b5b6b7b8b9c20b1b2b3b4b5b6b7b8b9c30b1b2b3b4b5b6b7b8b9c40b1b2b3b4b5b6",
     "b7b8b9c50b1b2b3b4b5b6b7b8b9c60b1b2b3b4b5b6b7b8b9c70b1b2b3b4b5b6b7b8b9c80b1b2b3b4b5b6b7b8b9c9",
     "0b1b2b3b4b5b6b7b8b9d400b1b2b3b4b5b6b7b8b9c10b1b2b3b4b5b6b7b8b9c20b1b2b3b4b5b6b7b8b9c30b1b2b3",
     "b4b5b6b7b8b9c40b1b2b3b4b5b6b7b8b9c50b1b2b3b4b5b6b7b8b9c60b1b2b3b4b5b6b7b8b9c70b1b2b3b4b5b6b7",
     "b8b9c80b1b2b3b4b5b6b7b8b9c90b1b2b3b4b5b6b7b8b9d500b1b2b3b4b5b6b7b8b9c10b1b2b3b4b5b6b7b8b9c20",
     "b1b2b3b4b5b6b7b8b9c30b1b2b3b4b5b6b7b8b9c40b1b2b3b4b5b6b7b8b9c50b1b2b3b4b5b6b7b8b9c60b1b2b3b4",
     "b5b6b7b8b9c70b1b2b3b4b5b6b7b8b9c80b1b2b3b4b5b6b7b8b9c90b1b2b3b4b5b6b7b8b9d600b1b2b3b4b5b6b7b",
     "8b9c10b1b2b3b4b5b6b7b8b9c20b1b2b3b4b5b6b7b8b9c30b1b2b3b4b5b6b7b8b9c40b1b2b3b4b5b6b7b8b9c50b1",
     "b2b3b4b5b6b7b8b9c60b1b2b3b4b5b6b7b8b9c70b1b2b3b4b5b6b7b8b9c80b1b2b3b4b5b6b7b8b9c90b1b2b3b4b5",
     "b6b7b8b9d700b1b2b3b4b5b6b7b8b9c10b1b2b3b4b5b6b7b8b9c20b1b2b3b4b5b6b7b8b9c30b1b2b3b4b5b6b7b8b",
     "9c40b1b2b3b4b5b6b7b8b9c50b1b2b3b4b5b6b7b8b9c60b1b2b3b4b5b6b7b8 1aff0:KATAKANALETTERMINNANTON",
     "E2b3b4b5 1aff5:KATAKANALETTERMINNANTONE7b8fNASALIZEDTONE1b2b3b4b5 1affd:KATAKANALETTERMINNAN",
     "NASALIZEDTONE7b8"]

end ScriptBundle.Text.CharacterName
