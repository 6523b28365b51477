/-!
# Names of characters from U+3000 to U+FFFF

The table of the names of scripts of East Asia and forms of letters, written as `Names.runNames` reads it.
-/

namespace SnippetProfiler.Text.Names

/-- The names of characters from U+3000 to U+FFFF. -/
def forms : List (Nat × String) :=
  [(0x3000, "aIDEOGRAPHIC SPACEmCOMMAmFULL STOPaDITTO MARKaJAPANESE INDUSTRIAL STANDARD SYMBOLaI" ++
    "DEOGRAPHIC ITERATION MARKmCLOSING~FmNUMBER ZEROaLEFT ANGLE BRACKETaRIGH~PaLEFT DOUBLE~OaRIGH" ++
    "~WaLEFT CORNER~IaRIGH~QaLEFT WHITE~PaRIGH~WaLEFT BLACK LENTICULA~JaRIGHT~ZaPOSTAL MARKaGETA~" ++
    "FaLEFT TORTOISE SHELL BRACKETaRIGH~YaLEFT WHITE LENTICULAR~IaRIGHT~ZaLEFT WHITE TORTOISE SHE" ++
    "LL~IaRIGHT WHI~ZaLEFT WHITE SQUARE~IaRIGH~WaWAVE DASHaREVERSED DOUBLE PRIME QUOTATION MARKaD" ++
    "O~ZaLOW DO~ZaPOSTAL MARK FACEaHANGZHOU NUMERAL ONErTWOsHREErFOURsIVErSIXsEVENrEIGHTrNINEaIDE" ++
    "OGRAPHIC LEVEL TONE MARKmRISING~KmDEPART~NmENTER~NaHANGUL SINGLE DOT~KhDOUB~QaWAVY DASHaVERT" ++
    "ICAL KANA REPEAT MARKvWITH VOICED SOUND ~EvMARK UPPER HALFvWITH VOICED SOUND ~PvMARK LOW~HaC" ++
    "IRCLED POSTAL MARKaIDEOGRAPHIC TELEGRAPH LINE FEED SEPARATOR SYMBOLaHANGZHOU NUMERAL TENsWEN" ++
    "TYsHIRTYaVERTICAL IDEOGRAPHIC ITERATION MARKaMASU~FaPART ALTERNATION~FaIDEOGRAPHIC VARIATION" ++
    " INDICATORmHALF FILL SPACE"),
   (0x3041, "aHIRAGANA LETTER SMALL AqAqSMALL IqIqSMALL UqUqSMALL EqEqSMALL OqOqKAqGAqKIqGIqKUqG" ++
    "UqKEqGEqKOqGOqSAqZAqSIqZIqSUqZUqSEqZEqSOqZOqTAqDAqTIqDIqSMALL TUqTUqDUqTEqDEqTOqDOqNArIrUrEr" ++
    "OqHAqBAqPAqHIqBIqPIqHUqBUqPUqHEqBEqPEqHOqBOqPOqMArIrUrErOqSMALL YAqYAqSMALL YUqYUqSMALL YOqY" ++
    "OqRArIrUrErOqSMALL WAqWArIrErOqNqVUqSMALL KAxE"),
   (0x3099, "aCOMBINING KATAKANA-HIRAGANA VOICED SOUND MARK&SEMI-~RaKATAKANA-HIRAGANA ~RsSEMI-~R" ++
    "aHIRAGANA ITERATION~FjVOICED ~OjDIGRAPH YORIaKATAKANA-HIRAGANA DOUBLE HYPHENi LETTER SMALL A" ++
    "qAqSMALL IqIqSMALL UqUqSMALL EqEqSMALL OqOqKAqGAqKIqGIqKUqGUqKEqGEqKOqGOqSAqZAqSIqZIqSUqZUqS" ++
    "EqZEqSOqZOqTAqDAqTIqDIqSMALL TUqTUqDUqTEqDEqTOqDOqNArIrUrErOqHAqBAqPAqHIqBIqPIqHUqBUqPUqHEqB" ++
    "EqPEqHOqBOqPOqMArIrUrErOqSMALL YAqYAqSMALL YUqYUqSMALL YOqYOqRArIrUrErOqSMALL WAqWArIrErOqNq" ++
    "VUqSMALL KAxEqVArIrErOjMIDDLE DOTi-HIRAGANA PROLONGED SOUND MARKi ITERATION~FjVOICED ~OjDIGR" ++
    "APH KOTO"),
   (0x3105, "aBOPOMOFO LETTER BqPqMqFqDqTqNqLqGqKqHqJqQqXqZHqCHqSHqRqZqCqSqAqOqErHqAIqEIqAUqOUqA" ++
    "NqENqANGqENGrRqIqUqIUqVqNGqGNqIHqO WITH DOT ABOVEqNN"),
   (0x3131, "aHANGUL LETTER KIYEOKoSSANG~GoKIYEOK-SIOSoNIEUNt-CIEUCuHIEUHoTIKEUToSSANG~GoRIEULt-" ++
    "KIYEOKuMIEUMuPIEUPuSIOSuTHIEUTHuPHIEUPHuHIEUHoMIEUMoPIEUPoSSANG~FoPIEUP-SIOSo~EpSANGS~DoIEUN" ++
    "GoCIEUCoSSANG~FoCHIEUCHoKHIEUKHoTHIEUTHoPHIEUPHoHIEUHoApEoYAqEoEOpoYEOqoOoWAqEoOEoYOoUoWEOqp" ++
    "IoYUoEUoYIoIhFILLERhLETTER SSANGNIEUNoNIEUN-TIKEUTuSIOSuPAN~EoRIEUL-KIYEOK-~EuTIKEUTuPIEUP-S" ++
    "IOSvAN~EuYEORINHIEUHoMIEUM-PIEUPuSIOSuPAN~EoKAPYEOUNMIEUMoPIEUP-KIYEOKuTIKEUTuSIOS-KIYEOKzTI" ++
    "KEUTuCIEUCuTHIEUTHoKAPYEOUNPIEUPwSSANG~FoSIOS-KIYEOKtNIEUNtTIKEUTtPIEUPtCIEUCoPANSIOSoSSANGI" ++
    "EUNGoYES~Fw-SIOSxPAN~EoKAPYEOUNPHIEUPHoSSANGHIEUHoYEORIN~FpO-YAtErIpU-YEOtrIoARAEAtE"),
   (0x3190, "aIDEOGRAPHIC ANNOTATION LINKING MARKxREVERSE~FxON~GxTWO~FyHREE~FxFOUR~FxTOP~FxMIDDL" ++
    "E~FxBOTTOM~FxFIRST~FxSECOND~FxTHIR~GxFOURTH~FxHEAVEN~FxEARTH~FxMAN~FaBOPOMOFO LETTER BUqZIqJ" ++
    "IqGUqEErNNqOOrNNqIRqANNqINNqUNNqIMqNGGqAINNrUNNrMqOMrNGqINNNjFINAL LETTER PwTwKwHjLETTER GHq" ++
    "LHqZYjFINAL LETTER GjLETTER GWqKWqOEqAHaCJK STROKE TlWGlXGlBXGlSWlHZZnGmPmZWGlS~DlHZTnZPmPWG" ++
    "mZWnZZlNlHlSlPlSPlDlHZmGlSZmWZmTmGlPDmZlTNlSZZmWGlHXWGmZZZGlPGlQ"),
   (0x31F0, "aKATAKANA LETTER SMALL KUwSIxUwTOwNUwHAxIxUxExOwMUwRAxIxUxExOaPARENTHESIZED HANGUL " ++
    "KIYEOKvNIEUNvTIKEUTvRIEULvMIEUMvPIEUPvSIOSvIEUNGvCIEUCwHIEUCHvKHIEUKHvTHIEUTHvPHIEUPHvHIEUHv" ++
    "KIYEOK AvNIEUN AvTIKEUT AvRIEUL AvMIEUM AvPIEUP AvSIOS AvIEUNG AvCIEUC AwHIEUCH AvKHIEUK~DvT" ++
    "HIEUT~DvPHIEUP~DvHIEU~DvCIEUC UoKOREAN CHARACTER OJEON+ HU"),
   (0x3220, "aPARENTHESIZED IDEOGRAPH ONEyTWOzHREEyFOURzIVEySIXzEVENyEIGHTyNINEyTENyMOONyFIREyWA" ++
    "TERzOODyMETALyEARTHySUNzTOCKyHAVEySOCIETYyNAMEySPECIALyFINAN~EyCONGRATULATIONyLABORyREPRESEN" ++
    "TyCALLySTUDYzUPERVISEyENTERPR~DyRESOURCEyALLIANCEyFESTIVALyRESTySELFyREACHaCIRCLED IDEOGRAPH" ++
    " QUESTIONsKINDERGARTENsSCHOOLsKOTOiNUMBER TEN ON BLACK SQUAREqWENTY~QqHIR~SpFO~TqIF~SpSIX~Sq" ++
    "EVEN~SpEIGH~SaPARTNERSHIP SIGNaCIRCLED NUMBER TWENTY ONEwTWOxHREEwFOURxIVEwSIXxEVENwEIGHTwNI" ++
    "NEqHIRTYv ONEwTWOxHREEwFOURxIVEiHANGUL KIYEOKpNIEUNpTIKEUTpRIEULpMIEUMpPIEUPpSIOSpIEUNGpCIEU" ++
    "CqHIEUCHpKHIEUKHpTHIEUTHpPHIEUPHpHIEUHpKIYEOK ApNIEUN ApTIKEUT ApRIEUL ApMIEUM ApPIEUP ApSIO" ++
    "S ApIEUNG ApCIEUC AqHIEUCH ApKHIEUK~DpTHIEUT~DpPHIEUP~DpHIEU~DiKOREAN CHARACTER CHAMKOzJUEUI" ++
    "iHANGUL IEUNG UaKOREAN STANDARD SYMBOLaCIRCLED IDEOGRAPH ONEsTWOtHREEsFOURtIVEsSIXtEVENsEIGH" ++
    "TsNINEsTENsMOONsFIREsWATERtOODsMETALsEARTHsSUNtTOCKsHAVEsSOCIETYsNAMEsSPECIALsFINAN~EsCONGRA" ++
    "TULATIONsLABORsSECRETsMALEsFE~EsSUITABLEsEXCELLENTsPRINTsATTENTIONsITEMsRESTsCOPYuRRECTsHIGH" ++
    "sCENTREsLOWtEFTsRIGHTsMEDICINEsRELIGIONsSTUDYtUPERVISEsENTERPR~DsRESOURCEsALLIANCEsNIGHTiNUM" ++
    "BER THIRTY SIXxEVENwEIGHTwNINEpFORTYu ONEvTWOwHREEvFOURwIVEvSIXwEVENvEIGHTvNINEqIFTYaIDEOGRA" ++
    "PHIC TELEGRAPH SYMBOL FOR JANUARY,FEBR~E,MARCH,APRIL,MAY,JUNE:LY,AUGUST,SEPTEMBER,OCTO~D,NOV" ++
    "EM~D,DEC~FaSQUARE HGhERGiVaLIMITED LIABILITY SIGNaCIRCLED KATAKANA ArIrUrErOrKAsIsUsEsOrSAsI" ++
    "sUsEsOrTAsIsUsEsOrNAsIsUsEsOrHAsIsUsEsOrMAsIsUsEsOrYAsUsOrRAsIsUsEsOrWAsIsEsOaSQUARE ERA NAM" ++
    "E REIWAhAPAATOiRUHUAiNPEAiARUhININGUjTIhUONhESUKUUDOiEKAAhONSUiOMUhKAIRIjRATTOkORIIhGARONjNM" ++
    "AiIGAjNIIhKYURIIhGIRUDAAhKIROlGURAMUlMEETORUlWATTOhGURAMUnTONhKURUZEIROkOONEiEESUiORUNAjOPOh" ++
    "SAIKURUjNTIIMUiIRINGUiENTIlOhDAASUiESIiORUhTONhNANOiOTTOhHAITUhPAASENTOkTUhBAARERUhPIASUTORU" ++
    "jKURUkOhBIRUhHUARADDOjIITOhBUSSYERUhHURANiEKUTAARUhPESOjNIHIhHERUTUhPENSUjEZIhBEETAhPOINTOhB" ++
    "ORUTOhHONhPONDOhHOORUkNhMAIKUROkRUjHHAjRUKUjNSYONiIKURONjRIlBAARUiEGAlTONjETORUhYAADOkRUiUAN" ++
    "hRITTORUjRAiUPIIjUBURUiEMUjNTOGENhWATTOaIDEOGRAPHIC TELEGRAPH SYMBOL FOR HOUR ZERO=ONE=TWO>H" ++
    "REE=FOUR>IVE=SIX>EVEN=EIGHT=NINE=TEN=ELEVEN=TWELVE>HIRTEEN=FOU~F>IF~E=SIX~E>EVEN~E=EIGH~E=NI" ++
    "NE~E=TWENTY|TY-ONE|TY-TWO|TY-THREE|TY-FOURaSQUARE HPAhDAhAUhBARhOVhPChDMj SQUAREDkCUBEDhIUhE" ++
    "RA NAME HEISEIqSYOUWAqTAISYOUqMEIZIhCORPORATIONhPA AMPShNAhMU AiAhKAiBhMBhGBhCALhK~DhPFhNFhM" ++
    "U FkGiGhKGhHZhKHZhMHZhGHZhTHZhMU LiLhDLhKLhFMhNMhMU MiMhCMhKMhMM SQUAREDhC~Jh~JhK~JhMM CUBED" ++
    "hC~Hh~HhK~HhM OVER Sp SQUAREDhPAhKPAhMPAhGPAhRADk OVER Sr SQUAREDhPShNShMU SiShPVhNVhMU ViVh" ++
    "KVhMV MEGAhPWhNWhMU WiWhKWhMW MEGAhK OHMhM~EhAMhBQhCCiDi OVER KGiOhDBhGYhHAiPhINhKKiM CAPITA" ++
    "LiThLMiNiOGiXhMB SMALLiILiOLhPHiMiPMiRhSRiVhWBhV OVER MhA~HaIDEOGRAPHIC TELEGRAPH SYMBOL FOR" ++
    " DAY ONE<TWO=HREE<FOUR=IVE<SIX=EVEN<EIGHT<NINE<TEN<ELEVEN<TWELVE=HIRTEEN<FOU~F=IF~E<SIX~E=EV" ++
    "EN~E<EIGH~E<NINE~E<TWENTY|Y-ONE|Y-TWO|Y-THREE|Y-FOUR|Y-FIVE|Y-SIX|Y-SEVEN|Y-EIGHT|Y-NINE=HIR" ++
    "TY|Y-ONEaSQUARE GAL"),
   (0x4DC0, "aHEXAGRAM FOR THE CREATIVE HEAVENrRECEPTIVE EARTHnDIFFICULTY AT THE BEGINNINGnYOUTH" ++
    "FUL FOLLYnWAITINGnCONFLICTnTHE ARMYnHOLDING TOGETHERnSMALL TAMINGnTREAD~DnPEACEnSTANDSTILLnF" ++
    "ELLOWSHIPnGREAT POSSESSIONnMODESTYnENTHUSIASMnFOLLOWINGnWORK ON THE DECAYEDnAPPROACHnCONTEMP" ++
    "LATIONnBITING THROUGHnGRACEnSPLITTING APARTnRETURNnINNOCENCEnGREAT TAMINGnMOUTH CORNERSnGREA" ++
    "T PREPONDERANCEnTHE ABYSMAL WATERrCLINGING FIREnINFLUENCEnDURATIONnRETREATnGREAT POWERnPROGR" ++
    "ESSnDARKENING OF THE LIGHTnTHE FAMILYnOPPOSITIONoBSTRUC~EnDELIVERANCEpCREASEnIN~GnBREAKTHROU" ++
    "GHnCOMING TO MEETnGATHERING TOGETHERnPUSHING UPWARDnOPPRESSIONnTHE WELLnREVOLUTIONnTHE CAULD" ++
    "RONrAROUSING THUNDERrKEEPING STILL MOUNTAINnDEVELOPMENTnTHE MARRYING MAIDENnABUNDANCEnTHE WA" ++
    "NDERERrGENTLE WINDrJOYOUS LAKEnDISPERSIONnLIMITAT~DnINNER TRUTHnSMALL PREPONDERANCEnAFTER CO" ++
    "MPLETIONnBEFORE~L"),
   (0xA000, "aYI SYLLABLE ITnXnnPnEToXooPmATnXnnPmUOXooPmOTnXnnPmEXnmWUmBIToXooPoETpXppPnAToXooP" ++
    "nUOXppPnOToXooPnEXooPnUToXooPoRXpnYToXooPoRXpmPIToXooPoEXppPnAToXooPnUOXppPnOToXooPnUToXooPo" ++
    "RXpnYToXooPoRXpmBBITpXppPpETqXqqPoATpXppPoUOXqqPoOTpXppPoEXppPoUTpXppPpRXqoYTpXppPmNBITpXppP" ++
    "pEXqqPoATpXppPoOTpXppPoUTpXppPpRXqoYTpXppPpRXqmHMITpXppPpEXqqPoATpXppPoUOXqqPoOTpXppPoUTpXpp" ++
    "PpRXqoYXppPpRXqmMIToXooPoEXppPnAToXooPnUOTpXppPnOToXooPnEXonUToXooPoRXpnYToXooPmFIToXooPnATo" ++
    "XooPnOXooPnUToXooPoRXpnYToXooPmVIToXooPoETpXppPnAToXooPnOToXooPnEXoPnUToXooPoRXpnYToXooPoRXp" ++
    "mDIToXooPoEXppPnAToXooPnUOXpnOToXooPnEXooPnUToXooPoRXpmTIToXooPoEXppPnAToXooPnUOTpXppPnOToXo" ++
    "oPnEXooPnUToXooPoRXpmDDITpXppPpEXqqPoATpXppPoUOXqqPoOTpXppPoEXppPoUTpXppPpRXqmNDITpXppPpEXqo" ++
    "ATpXppPoOTpXppPoEXppPoUTpXppPpRXqmHNITpXppPpETqXqqPoATpXppPoUOXqoOTpXpPoEXppPoUTmNIToXooPoEX" ++
    "ppPnAXooPnUOXppPnOToXooPnEXooPnUToXooPoRXpmHLITpXppPpEXqqPoATpXppPoUOXqqPoOXppPoEXppPoUTpXpp" ++
    "PpRXqoYTpXppPpRXqmLIToXooPoETpXppPnAToXooPnUOTpXppPnOToXooPnEXooPnUToXooPoRXpnYToXooPoRXpmGI" ++
    "ToXooPoETpXppPnAToXooPnUOTpXppPnOToXooPnEToXooPnUToXooPoRXpmKIToXooPoEXppPnAToXooPnUOXppPnOT" ++
    "oXooPnEToXooPnUToXooPoRXpmGGITpXppEXqqPoATpXppPoUOTqXqqPoOTpXppPoETpXppPoUTpXppPpRXqmMGIEXqo" ++
    "ATpXppPoUOXqqPoOTpXppPoEXppPoUTpXppPpRXqmHXITpXppPpETqXqqPoATpXppPoUOTqXqqPoOTpXppPoEXppPmNG" ++
    "IEXqqPoATpXppPoUOTqXqoOTpXppPoEXppPmHIToEXpnAToXooPnUOTpXppPnOToXooPnEXooPmWAToXooPnUOXppPnO" ++
    "XooPnEXooPmZIToXooPoEXppPnAToXooPnUOXppPnOToXooPnEXooPnUToXooPoRXpnYToXooPoRXpmCIToXooPoETpX" ++
    "ppPnAToXooPnUOXppPnOToXooPnEXooPnUToXooPoRXpnYToXooPoRXpmZZITpXppPpETqXqqPoATpXppPoOXppPoEXp" ++
    "pPoUXppPpRXqoYTpXppPpRXqmNZITpXppPpEXqqPoATpXppPoUOXqoOXpPoEXpoUXppPpRXqoYTpXppPpRXqmSIToXoo" ++
    "PoEXppPnAToXooPnUOXppPnOToXooPnEXooPnUToXooPoRXpnYToXooPoRXpnSITpXppPpEXqqPoATpXppPoOTpXppPo" ++
    "EXppPoUTpXppPoYTpXppPpRXqmZHATpXppPoUOXqqPoOTpXppPoETpXppPoUTpXppPpRXqoYTpXppPpRXqmCHATpXppP" ++
    "oUOTqXqqPoOTpXppPoETpXppPoUXppPpRXqoYTpXppPpRXqmRRAXpoUOXqoOTpXppPoETpXppPoUTpXppPpRXqoYTpXp" ++
    "pPpRXqmNRATpXppPoOXppPoETpXppPoUTpXppPpRXqoYTpXppPpRXqmSHATpXppPoUOXqqPoOTpXppPoETpXppPoUTpX" ++
    "ppPpRXqoYTpXppPpRXqmRAToXooPnUOXppPnOToXooPnEXooPnUToXooPoRXpnYToXooPoRXpmJIToXooPoETpXppPnU" ++
    "OTpXppPnOToXooPnUToXooPoRXpnYToXooPoRXpmQIToXooPoETpXppPnUOTpXppPnOToXooPnUToXooPoRXpnYToXoo" ++
    "PoRXpmJJITpXppPpETqXqqPoUOXqqPoOTpXppPoUTpXppPpRXqoYTpXppPmNJITpXppPpETqXqqPoUOXqoOTpXppPoUX" ++
    "ppPpRXqoYTpXppPpRXqnYITpXppPpETqXqqPoUOXqqPoOTpXppPoUTpXppPmXIToXooPoETpXppPnUOXpnOToXooPnYT" ++
    "oXooPoRXpmYIToXooPoETpXppPnUOTpXppPnOToXooPnUToXooPoRXpnYToXooPoRXp"),
   (0xA490, "aYI RADICAL QOTlLIlKITlNYIPlCYPlSSIlGGOPmEPlMIlHXITlLYRlBBUTlMOPlYOlPUTlHXUOlTATlGA" ++
    "lZUPlCYTlDDURlBURlGGUOlNYOPlTUlOPlJJUTlZOTlPYTlHMOlYITlVURlSHYlVEPlZAlJOlNZUPlJJYlGOTlJJIElW" ++
    "OlDUlSHURlLIElCYmUOPmIPlHXOPlSHATlZURlSHOPlCHElZZIETlNBIElKE"),
   (0xA4D0, "aLISU LETTER BAmPAnHAmDAmTAnHAmGAmKAnHAmJAmCAnHAmDZAmTSAoHAmMAmNAmLAmSAmZHAnAmNGAmH" ++
    "AmXAmHHAmFAmWAmSHAmYAmGHAmAnEmEnUmImOmUnEnHmOEmTONE MYA TIrNA POrMYA CYAvBOvNAvJEUfPUNCTUATI" ++
    "ON COMMArFULL STOPaVAI SYLLABLE EEpNnHEEnWEEqNnPEEnBHEEoEEnM~DnKPEEnMGBEEn~EnFEEnVEEnTEEoHEE" ++
    "nD~DpHEEnLEEnREEnDEEnN~DnSEEoHEEnZEEoHEEnCEEnJEEnN~DnYEEnKEEnNGGEEn~DnMEEnNEEoYEEnIoNnHIpNnW" ++
    "IpNnPInBHIoInMBInKPInMGBIn~DnFInVInTIoHInDHIpHInLInRInDInNDInSIoHInZIoHInCInJInNJInYInKInNGG" ++
    "InGInMInNIoYInAoNnNGANnHApNnWApNnPAnBHAoAnMBAnKPAqNnMGBAn~DnFAnVAnTAoHAnDHApHAnLAnRAnDAnNDAn" ++
    "SAoHAnZAoHAnCAnJAnNJAnYAnKApNnNGGAnGAnMAnNAoYAnOOpNnHOOnWOOqNnPOOnBHOOoOOnM~DnKPOOnMGBOOn~En" ++
    "FOOnVOOnTOOoHOOnD~DpHOOnLOOnROOnDOOnN~DnSOOoHOOnZOOoHOOnCOOnJOOnN~DnYOOnKOOnNGGOOn~DnMOOnNOO" ++
    "oYOOnUoNnHUpNnWUpNnPUnBHUoUnMBUnKPUnMGBUn~DnFUnVUnTUoHUnDHUpHUnLUnRUnDUnNDUnSUoHUnZUoHUnCUnJ" ++
    "UnNJUnYUnKUnNGGUnGUnMUnNUoYUnOoNnNGONnHOpNnWOpNnPOnBHOoOnMBOnKPOnMGBOn~DqNnFOnVOnTOoHOnDHOpH" ++
    "OnLOnROnDOnNDOnSOoHOnZOoHOnCOnJOnNJOnYOnKOnNGGOnGOnMOnNOoYOnEoNnNGENnHEpNnWEpNnPEnBHEoEnMBEn" ++
    "KPEqNnMGBEn~DqNnFEnVEnTEoHEnDHEpHEnLEnREnDEnNDEnSEoHEnZEoHEnCEnJEnNJEnYEnKEnNGGErNnGEpNnMEnN" ++
    "EoYEoGnLENGTHENEReCOMMAeFULL STOPeQUESTION MARKeSYLLABLE NDOLE FAtKAtSOOgMBOL FEENGlK~ElTING" ++
    "lNIIlBANGlFAAlTAAlDANGmOONGlKUNGlTONGlDO-OlJONGeDIGIT ZEROkONEkTWOlHREEkFOURlIVEkSIXlEVENkEI" ++
    "GHTkNINEeSYLLABLE NDOLE MAtDO"),
   (0xA640, "aCYRILLIC CAPITAL LETTER ZEMLYAjSMAL~PjCAPITAL LETTER DZELOjSMAL~OjCAPITAL LETTER R" ++
    "EVERSED DZEjSMAL~VjCAPITAL LETTER IOTAjSMAL~NjCAPITAL LETTER DJERVjSMAL~OjCAPITAL LETTER MON" ++
    "OGRAPH UKjSMAL~VjCAPITAL LETTER BROAD OMEGAjSMAL~UjCAPITAL LETTER NEUTRAL YERjSMAL~UjCAPITAL" ++
    " LETTER YERU WITH BACK~EjSMALL ~ZjCAPITAL LETTER IOTIFIED YATjSMAL~VjCAPITAL LETTER REVERSED" ++
    " YUjSMAL~UjCAPITAL LETTER IOTIFIED AjSMAL~TjCAPITAL LETTER CLOSED LITTLE YUSjSMALL~ZjCAPITAL" ++
    " LETTER BLENDED~EjSMAL~UjCAPITAL LETTER IOTIFIED CLOSED LITTLE~EjSMALL LETTER I~ZjCAPITAL LE" ++
    "TTER YNjSMAL~LjCAPITAL LETTER REVERSED TSEjSMAL~VjCAPITAL LETTER SOFT DEjSMAL~QjCAPITAL LETT" ++
    "ER SOFT ELjSMAL~QjCAPITAL LETTER SOFT EMjSMAL~QjCAPITAL LETTER MONOCULAR OjSMAL~UjCAPITAL LE" ++
    "TTER BI~JjSMAL~UjCAPITAL LETTER DOUBLE MO~JjSMALL ~ZjLETTER MULTI~IbOMBINING CYRILLIC VZMETt" ++
    "TEN MILLIONS SIGNtHUNDRED~OtTHOUSAN~PaSLAVONIC ASTERISKaCOMBINING CYRILLIC LETTER UKRAINIAN " ++
    "IE!I!YI!U!HARD SIGN!YERU!SOFT SIGN!OMEGAtKAVYKAtPAYEROKbYRILLIC KAVYKAjPAYEROKjCAPITAL LETTE" ++
    "R DWEjSMAL~MjCAPITAL LETTER DZWEjSMAL~NjCAPITAL LETTER ZHWEjSMAL~NjCAPITAL LETTER CCHEjSMAL~" ++
    "NjCAPITAL LETTER DZZEjSMAL~NjCAPITAL LETTER TE WITH MIDDLE HOOKjSMALL L~ZjCAPITAL LETTER TWE" ++
    "jSMAL~MjCAPITAL LETTER TSWEjSMAL~NjCAPITAL LETTER TSSEjSMAL~NjCAPITAL LETTER TCHEjSMAL~NjCAP" ++
    "ITAL LETTER HWEjSMAL~MjCAPITAL LETTER S~DjSMAL~NjCAPITAL LETTER DOUBLE OjSMAL~RjCAPITAL LETT" ++
    "ER CROSSED OjSMAL~SaMODIFIER LETTER CYRILLIC HARD SIGNzSOFT~FaCOMBINING CYRILLIC LETTER EF!I" ++
    "OTIFIED EaBAMUM LETTER AnKAnUnKUnEEnREEnTAEnOnNYInInLAnPAnRIIpEEnLEEEEnM~EnTAAnNDAAoJAEMnMnS" ++
    "UUnMUnSHIIoIoHEUXo~DnKYEEoETnNUAEpoJUAEnYOQnSHUnYUQoAnNSHAnKEUXnP~DnNJEEoTEEnPUEnWUEnPEEnFEE" ++
    "nRUnLUnMInNInREUXoAEnKENnNGKWAENpGApAnSHOnPUAEnFUoOMnWAnNAnLInPInLOQnKOnMBENnRENnMENoAnTInKI" ++
    "nMOoBAAnTETnKPAnTENnNTUUnSAMBAnFAAMAEnKOVUUpGHOMgCOMBINING MARK KOQNDONvTUKWENTISgNJAEMLIgFU" ++
    "LL STOPgCOLONiMMAgSEMICOLONgQUESTION MARK"),
   (0xA700, "aMODIFIER LETTER CHINESE TONE YIN PING)ANG~F)IN SHANG)ANG~G)IN QU)ANG~D)IN RU)ANG~D" ++
    "qEXTRA-HIGH DOTTED TONE BARq~UqMID~QqLOW~QqEXTRA-~TwHIGH DOTTED LEFT-STEM~JqHIGH ~ZqMID ~ZqL" ++
    "OW ~ZqEXTRA-LOW ~ZwHIGH~Tq~XqMID~TqLOW~TqEXTRA-~WqDOT VERTICAL~EuSLASHuHORIZONTAL BARqLOWER " ++
    "RIGHT CORNER ANGLEqRAISED UP ARROWxDOWN~GxEXCLAMATION MARKxINVERTED ~QqLOW ~ZqSTRESS AND HIG" ++
    "H TONE$LOW~FaLATIN CAPITAL LETTER EGYPTOLOGICAL ALEFgSMALL ~ZgCAPITAL LETTER EGYPTOLOGICAL A" ++
    "INgSMALL~ZgCAPITAL LETTER HENGgSMAL~NgCAPITAL LETTER TZgSMAL~LgCAPITAL LETTER TRESILLOgSMAL~" ++
    "RgCAPITAL LETTER CUATR~EgSMAL~SgCAPITAL LETTER CUATRILLO WITH COMMAgSMALL LE~ZgLETTER SMALL " ++
    "CAPITAL F$SgCAPITAL LETTER AAgSMAL~LgCAPITAL LETTER AOgSMAL~LgCAPITAL LETTER AUgSMAL~LgCAPIT" ++
    "AL LETTER AVgSMAL~LgCAPITAL LETTER AV WITH HORIZONTAL BARgSMALL LETT~ZgCAPITAL LETTER AYgSMA" ++
    "L~LgCAPITAL LETTER REVERSED C WITH DOTgSMALL L~ZgCAPITAL LETTER K WITH STROKEgSMAL~WgCAPITAL" ++
    " LETTER K WITH DIAGONAL~HgSMALL LETT~ZgCAPITAL LETTER K WITH STROKE AND~QgSMALL LETTER K WIT" ++
    "H S~ZgCAPITAL LETTER BROKEN LgSMAL~RgCAPITAL LETTER L WITH HIGH STROKEgSMALL ~ZgCAPITAL LETT" ++
    "ER O WITH LONG STROKE OVERLAYgSMALL LETTER O~ZgCAPITAL LETTER O WITH LOOPgSMAL~UgCAPITAL LET" ++
    "TER OOgSMAL~LgCAPITAL LETTER P WITH STROKE THROUGH DESCENDERgSMALL LETTER P WITH~ZgCAPITAL L" ++
    "ETTER P WITH FLOURISHgSMAL~YgCAPITAL LETTER P WITH SQUIRREL TAILgSMALL LE~ZgCAPITAL LETTER Q" ++
    " WITH STROKE THROUGH DESCENDERgSMALL LETTER Q WITH~ZgCAPITAL LETTER Q WITH DIAGONAL STROKEgS" ++
    "MALL LETT~ZgCAPITAL LETTER R ROTUNDAgSMAL~SgCAPITAL LETTER RUM~IgSMAL~UgCAPITAL LETTER V WIT" ++
    "H DIAGONAL STROKEgSMALL LETT~ZgCAPITAL LETTER VYgSMAL~LgCAPITAL LETTER VISIGOTHIC ZgSMAL~VgC" ++
    "APITAL LETTER THORN WITH STROKEgSMALL~ZgCAPITAL LETTER THORN WITH STROKE THROUGH DESCENDERgS" ++
    "MALL LETTER THORN WITH~ZgCAPITAL LETTER VENDgSMAL~NgCAPITAL LETTER ETgSMAL~LgCAPITAL LETTER " ++
    "ISgSMAL~LgCAPITAL LETTER CONgSMAL~MaMODIFIER LETTER USaLATIN SMALL LETTER DUMtLUMtMUMtNUMtRU" ++
    "MgLETTER SMALL CAPITAL~EgSMALL LETTER TUMtUMgCAPITAL LETTER INSULAR DgSMAL~SgCAPITAL LETTER " ++
    "INSULAR FgSMAL~SgCAPITAL LETTER INSULAR GvTURNED ~JgSMAL~ZgCAPITAL LETTER TURNED LgSMAL~RgCA" ++
    "PITAL LETTER INSULAR RgSMAL~SgCAPITAL LETTER INSULAR SgSMAL~SgCAPITAL LETTER INSULAR TgSMAL~" ++
    "SaMODIFIER LETTER LOW CIRCUMFLEX ACCENTqCOLONqSHORT EQUALS SIGNaLATIN CAPITAL LETTER SALTILL" ++
    "OgSMAL~RgCAPITAL LETTER TURNED HgSMALL LETTER L WITH RETROFLEX HOOK AND BELTgLETTER SINOLOGI" ++
    "CAL DOTgCAPITAL LETTER N WITH DESCENDERgSMAL~ZgCAPITAL LETTER C WITH BARgSMAL~T!PALATAL HOOK" ++
    "tH~SgCAPITAL LETTER B WITH FLOURISHgSMAL~YgCAPITAL LETTER F WITH STROKEgSMAL~WgCAPITAL LETTE" ++
    "R VOLAPUK AEgSMAL~TgCAPITAL LETTER VOLAPUK OEgSMAL~TgCAPITAL LETTER VOLAPUK UEgSMAL~TgCAPITA" ++
    "L LETTER G WITH OBLIQUE STROKEgSMALL LET~ZgCAPITAL LETTER K~UgSMALL LET~ZgCAPITAL LETTER N~U" ++
    "gSMALL LET~ZgCAPITAL LETTER R~UgSMALL LET~ZgCAPITAL LETTER S~UgSMALL LET~ZgCAPITAL LETTER H " ++
    "WITH HOOKvREVERSED OPEN EvSCRIPT GvL WITH BELTvSMALL CAPITAL IgLETTER SMALL CAPITAL QgCAPITA" ++
    "L LETTER TURNED K&TvJ WITH CROSSED-TAILvCHIvBETAgSMAL~NgCAPITAL LETTER OMEGAgSMAL~OgCAPITAL " ++
    "LETTER U WITH STROKEgSMAL~WgCAPITAL LETTER GLOTTAL AgSMAL~SgCAPITAL LETTER GLOTTAL IgSMAL~Sg" ++
    "CAPITAL LETTER GLOTTAL UgSMAL~SgCAPITAL LETTER OLD POLISH OgSMAL~VgCAPITAL LETTER ANGLICANA " ++
    "WgSMAL~UgCAPITAL LETTER C WITH PALATAL HOOKvS WITH~FvZ WITH PALATAL~FvD WITH SHORT STROKE OV" ++
    "ERLAYgSMALL LETTER D ~ZgCAPITAL LETTER S ~ZgSMALL LETTER S ~Z"),
   (0xA7D0, "aLATIN CAPITAL LETTER CLOSED INSULAR GgSMAL~Z"),
   (0xA7D3, "aLATIN SMALL LETTER DOUBLE THORN"),
   (0xA7D5, "aLATIN SMALL LETTER DOUBLE WYNNgCAPITAL LETTER MIDDLE SCOTS SgSMAL~XgCAPITAL LETTER" ++
    " SIGMOID SgSMAL~S"),
   (0xA7F2, "aMODIFIER LETTER CAPITAL CyFyQaLATIN CAPITAL LETTER REVERSED HALF HgSMAL~YgEPIGRAPH" ++
    "IC LETTER SIDEWAYS IaMODIFIER LETTER CAPITAL H WITH STROKEqSMALL LIGATURE OEaLATIN LETTER SM" ++
    "ALL CAPITAL TURNED MgEPIGRAPHIC LETTER REVERSED F,PyINVERTED Mz LONGAyARCHAIC MaSYLOTI NAGRI" ++
    " LETTER AuInSIGN DVISVARAnLETTER UuEuOnSIGN HASANTAnLETTER KOvHOuGOvHOnSIGN ANUSVARAnLETTER " ++
    "COvHOuJOvHOuTTOwHOuDDOwHOuTOvHOuDOvHOuNOuPOvHOuBOvHOuMOuROuLOuRROuSOuHOnVOWEL SIGN AyIyUyEyO" ++
    "OnPOETRY MARK-1z2z3z4nSIGN ALTERNATE HASANTA"),
   (0xA830, "aNORTH INDIC FRACTION ONE QUARTERzHALFvTHREE QUARTERSvONE SIXTEENTHzEIGHTHvTHREE SI" ++
    "XTEENTHSmQUARTER MARKmPLACEHOLD~HmRUPEE~FmQUANTITY~F"),
   (0xA840, "aPHAGS-PA LETTER KArHAqGAqNGAqCArHAqJAqNYAqTArHAqDAqNAqPArHAqBAqMAqTSAsHAqDZAqWAqZH" ++
    "ArAqSMALL AqYAqRAqLAqSHArAqHAqAqIqUqEqOqQAqXAqFAqGGAqEEjSUBJOINED LETTER WA!YAjLETTER TTAsHA" ++
    "qDDAqNNAqALTERNATE YAqVOICELESS SHAvD HAqASPIRATED FAjSUBJOINED LETTER RAlPERFIX~MjLETTER CA" ++
    "NDRABINDUjSINGLE HEAD MARKjDOUB~MjMARK SHADoDOUBLE ~E"),
   (0xA880, "aSAURASHTRA SIGN ANUSVARAqVISARGAlLETTER AtAsItIsUtUsVOCALIC R$R!L$LsEtEsAIsOtOsAUs" ++
    "KAtHAsGAtHAsNGAsCAtHAsJAtHAsNYAsTTAuHAsDDAuHAsNNAsTAtHAsDAtHAsNAsPAtHAsBAtHAsMAsYAsRAsLAsVAs" ++
    "SHAtSAtAsHAsLLAlCONSONANT SIGN HAARUlVOWEL SIGN AAwIxIwUxUwVOCALIC R*R)L*LwExEwAIwOxOwAUlSIG" ++
    "N VIRAMAqCANDRABINDU"),
   (0xA8CE, "aSAURASHTRA DANDAmOUBLE D~EmIGIT ZEROrONErTWOsHREErFOURsIVErSIXsEVENrEIGHTrNINE"),
   (0xA8E0, "aCOMBINING DEVANAGARI DIGIT ZERO$ONE$TWO&HREE$FOUR&IVE$SIX&EVEN$EIGHT$NINEvLETTER A" ++
    "&U&KA&NA&PA&RA&VIvSIGN AVAGRAHAaDEVANAGARI SIGN SPACING CANDRABINDUqCANDRABINDU VIRAMAqDOUBL" ++
    "E ~SqCANDRABINDU TWO(HREE&AVAGRAHAqPUSHPIKAlGAP FILLERlCARETlHEADSTROKElSIGN SIDDHAMlJAIN OM" ++
    "lLETTER AYlVOWEL SIGN~DaKAYAH LI DIGIT ZEROpONEpTWOqHREEpFOURqIVEpSIXqEVENpEIGHTpNINEjLETTER" ++
    " KArHAqGAqNGAqSArHAqZAqNYAqTAqHTAqNAqPArHAqMAqDAqBAqRAqYAqLAqWAqTHAqHAqVAqCAqAqOEqIqOOjVOWEL" ++
    " UEpEpUpEEpOjTONE PLOPHUoCALYAt PLOPHUjSIGN CWIoSHYAaREJANG LETTER KAoGAoNGAoTAoDAoNAoPAoBAo" ++
    "MAoCAoJAoNYAoSAoRAoLAoYAoWAoHAoMBAoNGGApDApYJAoAhVOWEL SIGN IsUsEsAIsOsAUsEUtAhCONSONANT SIG" ++
    "N NGxwRwHhVIRAMA"),
   (0xA95F, "aREJANG SECTION MARKaHANGUL CHOSEONG TIKEUT-MIEUMxPIEUPxSIOSxCIEUCqRIEUL-KIYEOKwSSA" ++
    "NG~GwTIKEUTwSSANG~GwMIEUMwPIEUPwSSANG~FwKAPYEOUN~FwSIOSwCIEUCwKHIEUKHqMIEUM-KIYEOKwTIKEUTwSI" ++
    "OSqPIEUP-SIOS-THIEUTHwKHIEUKHwHIEUHqSSANGSIOS-PIEUPqIEUNG-RIEULwHIEUHqSSANGCIEUC~GvTHIEUTHqP" ++
    "HIEUPH-HIEUHqHIEUH-SIOSqSSANGYEORINHIEUH"),
   (0xA980, "aJAVANESE SIGN PANYANGGAoCECAKoLAYARoWIGNYANjLETTER AqI KAWIrrIqUqPA CEREKqNGA LELE" ++
    "Tz RASWADIqEqAIqOqKAs SASAKtMURDAqGAs MURDAqNGAqCAs MURDAqJAqNYA MURDAqJA MAHAPRANAqNYAqTTAt" ++
    " MAHAPRANAqDDAt MAHAPRANAqNA MURDAqTAs MURDAqDAs MAHAPRANAqNAqPAs MURDAqBAs MURDAqMAqYAqRAs " ++
    "AGUNGqLAqWAqSA MURDAuAHAPRANAsqHAjSIGN CECAK TELUjVOWEL SIGN TARUNGvOLONGuWULUy MELIKuSUKUy " ++
    "MENDUTuTALINGuDIRGA MUREuPEPETjCONSONANT SIGN KERETyPENGKALyCAKRAjPANGKONjLEFT RERENGGANjRIG" ++
    "H~LjPADA ANDAPoMADYAoLUHURoWINDUoPANGKAToLINGSApUNGSIoADEGs ADEGoPISELEHjTURNED ~M"),
   (0xA9CF, "aJAVANESE PANGRANGKEPjDIGIT ZEROpONEpTWOqHREEpFOURqIVEpSIXqEVENpEIGHTpNINE"),
   (0xA9DE, "aJAVANESE PADA TIRTA TUMETESoISEN-ISENaMYANMAR LETTER SHAN GHAuCHAuJHAuNNAuBHAiSIGN" ++
    " SHAN SAWiMODIFIER LETTER SHAN REDUPLICATIONiLETTER TAI LAING NYAzFAzGA!HAzJA!HAzDDA$HAzNNAi" ++
    "TAI LAING DIGIT ZEROyONEyTWOzHREEyFOURzIVEySIXzEVENyEIGHTyNINEiLETTER TAI LAING LLAzDA!HAzBA" ++
    "!HA"),
   (0xAA00, "aCHAM LETTER AmImUmEmAImOmKAnHAmGAnHAmNGUEoAmCHAoHAmJAnHAmNHUEoAoJAmTAnHAmDAnHAmNUE" ++
    "nAmDDAmPAnPAnHAmBAnHAmMUEnAmBBAmYAmRAmLAmVAmSSAnAmHAfVOWEL SIGN AAqIrIqEIqUqOErqAIrUqUEfCONS" ++
    "ONANT SIGN YAuRAuLAuWA"),
   (0xAA40, "aCHAM LETTER FINAL KsGsNGfCONSONANT SIGN~JfLETTER FINAL CHsTsNsPsYsRsLsSSfCONSONANT" ++
    " SIGN FINAL M!H"),
   (0xAA50, "aCHAM DIGIT ZEROlONElTWOmHREElFOURmIVElSIXmEVENlEIGHTlNINE"),
   (0xAA5C, "aCHAM PUNCTUATION SPIRALrDANDAsOUBLE D~ErTRIP~IaMYANMAR LETTER KHAMTI GAwCAxHAwJAxH" ++
    "AwNYAwTTAyHAwDDAyHAxHAwNAwSAwHAxHAwFAiMODIFIER LETTER KHAMTI REDUPLICATIONiLETTER KHAMTI XAw" ++
    "ZAwRAjOGOGRAM KHAMTI OAYyQNyHMiSYMBOL AITON EXCLAMATIONvONEvTWOiLETTER AITON RAiSIGN PAO KAR" ++
    "EN TONEnTAI LAING TONE-2&5iLETTER SHWE PALAUNG CHA&SHAaTAI VIET LETTER LOW KOqHIGH~DqLOW KHO" ++
    "qHIGH~EqLOW KHHOqHIGH~FqLOW GOqHIGH~DqLOW NGOqHIGH~EqLOW COqHIGH~DqLOW CHOqHIGH~EqLOW SOqHIG" ++
    "H~DqLOW NYOqHIGH~EqLOW DOqHIGH~DqLOW TOqHIGH~DqLOW THOqHIGH~EqLOW NOqHIGH~DqLOW BOqHIGH~DqLO" ++
    "W POqHIGH~DqLOW PHOqHIGH~EqLOW FOqHIGH~DqLOW MOqHIGH~DqLOW YOqHIGH~DqLOW ROqHIGH~DqLOW LOqHI" ++
    "GH~DqLOW VOqHIGH~DqLOW HOqHIGH~DqLOW OqHIGH OjMAI KANGjVOWEL AApIpUEqpEpOjMAI KHITjVOWEL IAp" ++
    "UEAqApAUEqYqNqMjTONE MAI EKsNUENGsTHOsSONG"),
   (0xAADB, "aTAI VIET SYMBOL KONqNUENGqSAMqHO HOIqKOI KOIaMEETEI MAYEK LETTER EuOuCHAuNYAuTTAwH" ++
    "AuDDAwHAuNNAuSHAvSAnVOWEL SIGN IIyUUyAAIzUzAUnCHEIKHANnAHANG KHUDAMoNJInSYLLABLE REPETITION " ++
    "MARKnWORD~QnVOWEL SIGN VISARGAoIRAMA"),
   (0xAB01, "aETHIOPIC SYLLABLE TTHUvIvAAvEEwvO"),
   (0xAB09, "aETHIOPIC SYLLABLE DDHUvIvAAvEEwvO"),
   (0xAB11, "aETHIOPIC SYLLABLE DZUuIuAAuEEvuO"),
   (0xAB20, "aETHIOPIC SYLLABLE CCHHAwUwIwAAwEExwO"),
   (0xAB28, "aETHIOPIC SYLLABLE BBAuUuIuAAuEEvuO"),
   (0xAB30, "aLATIN SMALL LETTER BARRED ALPHAtA REVERSED-SCHWAtBLACKLETTER EuARRED EtE WITH FLOU" ++
    "RISHtLENIS FtSCRIPT G WITH CROSSED-TAILtL WITH INVERTED LAZY S!DOUBLE MIDDLE TILDE!MIDDLE RI" ++
    "NGtM WITH CROSSED-TAILtN~StENG~StBLACKLETTER O+ WITH STROKEtOPEN~OtINVERTED OEtTURNED OE WIT" ++
    "H STROKE.HORIZONTAL ~G$ OPEN-O. WITH STROKEtSTIRRUP RgLETTER SMALL CAPITAL R WITH RIGHT LEGg" ++
    "SMALL LETTER R WITHOUT HANDLEtDOUBLE RtR WITH CROSSED-TAILtDOUBLE ~TtSCRIPT R$ WITH RINGtBAS" ++
    "ELINE ESHtU WITH SHORT RIGHT LEGvBAR ~UuItTURNED UItU WITH LEFT HOOKtCHIw WITH LOW RIGHT RIN" ++
    "G+LEFT SERIFtX WITH LOW RIGHT RING&NG LEFT LEG> AND LOW RIGHT RING^WITH SERIFtY WITH SHORT R" ++
    "IGHT LEGaMODIFIER BREVE WITH INVERTED BREVEjLETTER SMALL HENGwL WITH INVERTED LAZY S(MIDDLE " ++
    "TILDEwU WITH LEFT HOOKaLATIN SMALL LETTER SAKHA YATtIOTIFIED EtOPEN OEtUOtINVERTED ALPHAaGRE" ++
    "EK LETTER SMALL CAPITAL OMEGAaLATIN SMALL LETTER DZ DIGRAPH WITH RETROFLEX HOOKtTS DI~ZuURNE" ++
    "D R WITH MIDDLE TILDEaMODIFIER LETTER SMALL TURNED WqLEFT TACKqRIGH~G"),
   (0xAB70, "aCHEROKEE SMALL LETTER AwEwIwOwUwVwGAwKAwGExIxOxUxVwHAxExIxOxUxVwLAxExIxOxUxVwMAxEx" ++
    "IxOxUwNAwHNAwNAHxExIxOxUxVwQUAyEyIyOyUyVwSAxxExIxOxUxVwDAwTAwDEwTEwDIwTIwDOxUxVxLAwTLAyEyIyO" ++
    "yUyVxSAyEyIyOyUyVwWAxExIxOxUxVwYAaMEETEI MAYEK LETTER KOKuSAMuLAIuMITuPAuNAuCHILuTILuKHOUuNG" ++
    "OUuTHOUuWAIuYANGuHUKuUNuIuPHAMuATIYAuGOKuJHAMuRAIuBAuJILuDILuGHOUuD~DuBHAMuKOK LONSUMuLAI~Hu" ++
    "MIT~HuPA~HuN~IuTIL~HuNGOU~HuI~HnVOWEL SIGN ONAPyI~DyA~DyYE~DySOU~Dy~EyCHEI~DyNUNGnCHEIKHEInL" ++
    "UM IYEKnAPUN~F"),
   (0xABF0, "aMEETEI MAYEK DIGIT ZEROtONEtTWOuHREEtFOURuIVEtSIXuEVENtEIGHTtNINE"),
   (0xD7B0, "aHANGUL JUNGSEONG O-YEOtO-IrYO-AvEuEOrU-YEOtI-IrYU-AEuOrEU-AuEOvuOrI-YA-OvEuEOvtO-I" ++
    "tYOuUtIrARAEA-AxE"),
   (0xD7CB, "aHANGUL JONGSEONG NIEUN-RIEULxCHIEUCHrSSANGTIKEUT&-PIEUPr~MySIOS&-KIYEOKyCIEUCzHIEU" ++
    "CHyTHIEUTHrRIEUL-SSANGKIYEOKxKIYEOK-HIEUHrSSANGRIEUL-KHIEUKHrRIEUL-MIEUM-HIEUHxPIEUP-TIKEUT(" ++
    "PHIEUPHxYESIEUNGzORINHIEUH-HIEUHrKAPYEOUNRIEULrMIEUM-NIEUNxSSANG~FrSSANGMIEUMrMIEUM-PIEUP-SI" ++
    "OSxCIEUCrPIEUP-TIKEUTxRIEUL-PHIEUPHxMIEUMrSSANGPIEUPrPIEUP-SIOS-TIKEUTxCIEUCyHIEUCHrSIOS-MIE" ++
    "UMwKAPYEOUNPIEUPsSANGSIOS-KIYEOK$TIKEUTsIOS-PANSIOSwCIEUCxHIEUCHwTHIEUTHwHIEUHrPANSIOS-PIEUP" ++
    "zKAPYEOUN~FrYESIEUNG-MIEUM!HIEUHrCIEUC-PIEUPxSSANG~FrSSANGCIEUCrPHIEUPH-SIOSzTHIEUTH"),
   (0xFB00, "aLATIN SMALL LIGATURE FFwIwLwFIxLvLONG S TvST"),
   (0xFB13, "aARMENIAN SMALL LIGATURE MEN NOW&ECH&INIyVEW NOWyMEN XEH"),
   (0xFB1D, "aHEBREW LETTER YOD WITH HIRIQhPOINT JUDEO-SPANISH VARIKAhLIGATURE YIDDISH YOD YOD P" ++
    "ATAHiETTER ALTERNATIVE AYINoWIDE ALEFtDALETtHEtKAFtLAMEDtFINAL MEMtRESHtTAVoALTERNATIVE PLUS" ++
    " SIGNoSHIN WITH SHIN DOTz~GyDAGESH AND SH~G;~GoALEF WITH PATAHyQAMATSyMAPIQoBET WITH DAGESHo" ++
    "GIMEL~MoDALET~MoHE WITH MAPIQoVAV WITH DAGESHoZAYIN~M"),
   (0xFB38, "aHEBREW LETTER TET WITH DAGESHoYOD~MoFINAL KAF~Mo~PoLAMED~M"),
   (0xFB3E, "aHEBREW LETTER MEM WITH DAGESH"),
   (0xFB40, "aHEBREW LETTER NUN WITH DAGESHoSAMEKH~M"),
   (0xFB43, "aHEBREW LETTER FINAL PE WITH DAGESHo~O"),
   (0xFB46, "aHEBREW LETTER TSADI WITH DAGESHoQOF~MoRESH~MoSHIN~MoTAV~MoVAV WITH HOLAMoBET WITH " ++
    "RAFEoKAF~KoPE~KiIGATURE ALEF LAMEDaARABIC LETTER ALEF WASLA ISOLATED FORMzFINAL~FoBEEH ISOLA" ++
    "TED~FtFINAL~FtINITI~HtMED~IoPEH ISOLATED~FsFINAL~FsINITI~HsMED~IoBEHEH ISOLATED~FuFINAL~FuIN" ++
    "ITI~HuMED~IoTTEHEH ISOLATED~FvFINAL~FvINITI~HvMED~IpEHEH ISOLATED~FuFINAL~FuINITI~HuMED~IpTE" ++
    "H ISOLATED~FtFINAL~FtINITI~HtMED~IoVEH ISOLATED~FsFINAL~FsINITI~HsMED~IoPEHEH ISOLATED~FuFIN" ++
    "AL~FuINITI~HuMED~IoDYEH ISOLATED~FtFINAL~FtINITI~HtMED~IoNYEH ISOLATED~FtFINAL~FtINITI~HtMED" ++
    "~IoTCHEH ISOLATED~FuFINAL~FuINITI~HuMED~ItEH ISOLATED~FwFINAL~FwINITI~HwMED~IoDDAHAL ISOLATE" ++
    "D~FvFINAL~FpAHAL ISOLATED~FuFINAL~FpUL ISOLATED~FsFINAL~FpDAL ISOLATED~FtFINAL~FoJEH ISOLATE" ++
    "D~FsFINAL~FoRREH ISOLATED~FtFINAL~FoKEHEH ISOLATED~FuFINAL~FuINITI~HuMED~IoGAF ISOLATED~FsFI" ++
    "NAL~FsINITI~HsMED~IpUEH ISOLATED~FtFINAL~FtINITI~HtMED~IoNGOEH ISOLATED~FuFINAL~FuINITI~HuME" ++
    "D~IpOON GHUNNA ISOLATED~F!FINAL~FoRNOON ISOLATED~FuFINAL~FuINITI~HuMED~IoHEH WITH YEH ABOVE " ++
    "ISOLATED~F,FINAL~FsGOAL ISOLATED~FxFINAL~FxINITI~HxMED~IsDOACHASHMEE ISOLATED~F)FINAL~F)INIT" ++
    "I~H)MED~IoYEH BARREE ISOLATED~FzFINAL~FzWITH HAMZA ABOVE ISOLATED~F|FINAL~FhSYMBOL DOT ABOVE" ++
    "sBELOWoTWO DOTS ABOVExBELOWpHREE DOTS ABOVEzBELOWzPOINTING DOWNWARDS ABOVE|S BELOWoFOUR DOTS" ++
    " ABOVEyBELOWoDOUBLE VERTICAL BAR~GoTWO DOTS VERTICALLY ABOVE.BELOWoRINGoSMALL TAH ABOVEyBELO" ++
    "WoWASLA ABOVE"),
   (0xFBD3, "aARABIC LETTER NG ISOLATED FORMrFINAL~FrINITI~HrMED~IoU ISOLATED~FqFINAL~FoOE ISOLA" ++
    "TED~FrFINAL~FoYU ISOLATED~FrFINAL~FoU WITH HAMZA ABOVE ISOLATED~Fo~QrFINAL~FoKIRGHIZ OE ISOL" ++
    "ATED~FzFINAL~FwYU ISOLATED~FzFINAL~FoE ISOLATED~FqFINAL~FqINITI~HqMED~IoUIGHUR KAZAKH KIRGHI" ++
    "Z ALEF MAKSURA INIT~I|AKSURA MED~IiIGATURE YEH WITH HAMZA ABOVE WITH ALEF ISOLATED~F|ALEF FI" ++
    "NAL~F|AE ISOLATED~F|AE FINAL~F|WAW ISOLATED~F|WAW FINAL~F|U ISOLATED~F|U FINAL~F|OE ISOLATED" ++
    "~F|OE FINAL~F|YU ISOLATED~F|YU FINAL~F|E ISOLATED~F|E FINAL~F|E INITI~HqUIGHUR KIRGHIZ YEH W" ++
    "ITH HAMZA ABOVE WITH ALEF MAKSURA ISOLATED~F|MZA ABOVE WITH ALEF MAKSURA FINAL~F|MZA ABOVE W" ++
    "ITH ALEF MAKSURA INITI~HiETTER FARSI YEH ISOLATED~FyFINAL~FyINITI~HyMED~IiIGATURE YEH WITH H" ++
    "AMZA ABOVE WITH JEEM ISOLATED~F|HAH~O|MEEM~O|ALEF MAKSURA~O|YEH~OqBEH WITH JEEM~OzHAH~OzK~Rz" ++
    "MEEM~OzALEF MAKSURA~OzYEH~OqTEH WITH JEEM~OzHAH~OzK~RzMEEM~OzALEF MAKSURA~OzYEH~OrHEH WITH J" ++
    "EEM~O!M~R!ALEF MAKSURA~O!YEH~OqJEEM WITH HA~P!MEEM~OqHAH WITH J~RzM~RqKHAH WITH J~R!HAH~O!ME" ++
    "EM~OqSEEN WITH J~R!HAH~O!K~R!MEEM~OrAD WITH HAH~OzMEEM~OqDAD WITH J~RzHAH~OzK~RzMEEM~OqTAH W" ++
    "ITH HAH~OzMEEM~OqZA~ZqAIN WITH J~RzM~RqGHAIN WITH J~R$M~RqFEH WITH J~RzHAH~OzK~RzMEEM~OzALEF" ++
    " MAKSURA~OzYEH~OqQAF WITH HA~PzMEEM~OzALEF MAKSURA~OzYEH~OqKAF WITH ALEF~OzJEEM~OzHAH~OzK~Rz" ++
    "LAM~OzMEE~PzALEF MAKSURA~OzYEH~OqLAM WITH JEEM~OzHAH~OzK~RzMEEM~OzALEF MAKSURA~OzYEH~OqMEEM " ++
    "WITH JEEM~O!HAH~O!K~R!MEEM~O!ALEF MAKSURA~O!YEH~OqNOON WITH JEEM~O!HAH~O!K~R!MEEM~O!ALEF MAK" ++
    "SURA~O!YEH~OqHEH WITH JEEM~OzM~RzALEF MAKSURA~OzYEH~OqYEH WITH JEEM~OzHAH~OzK~RzMEEM~OzALEF " ++
    "MAKSURA~OzYEH~OqTHAL WITH SUPERSCRIPT ALEF~OqREH WITH SUPER~ZqALEF MAKSURA WITH SUPER~ZqSHAD" ++
    "DA WITH DAMMATAN~O&KASR~S&FATHA~O&DAMM~P&KASR~P&SUPERSCRIPT ALEF~OqYEH WITH HAMZA ABOVE WITH" ++
    " REH FINAL~F|ZAIN~L|MEEM~L|NOON~L|ALEF MAKSURA~L|YEH~LqBEH WITH R~NzZAIN~LzMEEM~LzNOON~LzALE" ++
    "F MAKSURA~LzYEH~LqTEH WITH R~NzZAIN~LzMEEM~LzNOON~LzALEF MAKSURA~LzYEH~LrHEH WITH R~N!ZAIN~L" ++
    "!MEEM~L!NOON~L!ALEF MAKSURA~L!YEH~LqFEH WITH ALEF MAKSURA~LzYEH~LqQAF WITH ALEF MAKSURA~LzYE" ++
    "H~LqKAF WITH ALEF~LzLAM~LzMEE~MzALEF MAKSURA~LzYEH~LqLAM WITH MEEM~LzALEF MAKSURA~LzYEH~LqME" ++
    "EM WITH ALEF~L!MEEM~LqNOON WITH REH~L!ZAIN~L!MEEM~L!NOON~L!ALEF MAKSURA~L!YEH~LqALEF MAKSURA" ++
    " WITH SUPERSCRIPT ALEF~LqYEH WITH REH~LzZAIN~LzMEEM~LzNOON~LzALEF MAKSURA~LzYEH~LzHAMZA ABOV" ++
    "E WITH JEEM INITI~H|HAH~N|K~Q|MEEM~N|HEH~NqBEH WITH JEEM~NzHAH~NzK~QzMEEM~NzHEH~NqTEH WITH J" ++
    "EEM~NzHAH~NzK~QzMEEM~NzHEH~NrHEH WITH MEEM~NqJEEM WITH HAH~N!MEEM~NqHAH WITH J~QzM~QqKHAH WI" ++
    "TH J~Q!M~QqSEEN WITH J~Q!HAH~N!K~Q!MEEM~NrAD WITH HAH~NzK~QzMEEM~NqDAD WITH J~QzHAH~NzK~QzME" ++
    "EM~NqTAH WITH HAH~NqZAH WITH MEEM~NqAIN WITH J~QzM~QqGHAIN WITH J~Q$M~QqFEH WITH J~QzHAH~NzK" ++
    "~QzMEEM~NqQAF WITH HAH~NzMEEM~NqKAF WITH J~QzHAH~NzK~QzLAM~NzMEE~OqLAM WITH J~QzHAH~NzK~QzME" ++
    "EM~NzHEH~NqMEEM WITH JEEM~N!HAH~N!K~Q!MEEM~NqNOON WITH J~Q!HAH~N!K~Q!MEEM~N!HEH~NqHEH WITH J" ++
    "EEM~NzM~QzSUPERSCRIPT ALEF~NqYEH WITH JEEM~NzHAH~NzK~QzMEEM~NzHEH~N!AMZA ABOVE WITH MEEM MED" ++
    "~I|HEH~MqBEH WITH MEEM~MzHEH~MqTEH WITH MEEM~MzHEH~MrHEH WITH MEEM~M!HEH~MqSEEN WITH MEEM~M!" ++
    "HEH~MrHEEN WITH MEEM~M$HEH~MqKAF WITH LAM~MzMEE~NqLAM~WqNOON~W!HEH~MqYEH WITH MEEM~MzHEH~MqS" ++
    "HADDA WITH FATHA~M&DAMM~N&KASR~NqTAH WITH ALEF MAKSURA ISOLATED~FzYEH~OqAIN WITH ALEF MAKSUR" ++
    "A~OzYEH~OqGHAIN WITH ALEF MAKSURA~O$YEH~OqSEEN WITH ALEF MAKSURA~O!YEH~OrHEEN WITH ALEF MAKS" ++
    "URA~O$YEH~OqHAH WITH ALEF MAKSURA~OzYEH~OqJEEM WITH ALEF MAKSURA~O!YEH~OqKHAH WITH ALEF MAKS" ++
    "URA~O!YEH~OqSAD WITH ALEF MAKSURA~OzYEH~OqDAD WITH ALEF MAKSURA~OzYEH~OqSHEEN WITH JEEM~O$HA" ++
    "H~O$K~R$MEEM~O$REH~OrE~ZrAD~XqD~ZqTAH WITH ALEF MAKSURA FINAL~FzYEH~LqAIN WITH ALEF MAKSURA~" ++
    "LzYEH~LqGHAIN WITH ALEF MAKSURA~L$YEH~LqSEEN WITH ALEF MAKSURA~L!YEH~LrHEEN WITH ALEF MAKSUR" ++
    "A~L$YEH~LqHAH WITH ALEF MAKSURA~LzYEH~LqJEEM WITH ALEF MAKSURA~L!YEH~LqKHAH WITH ALEF MAKSUR" ++
    "A~L!YEH~LqSAD WITH ALEF MAKSURA~LzYEH~LqDAD WITH ALEF MAKSURA~LzYEH~LqSHEEN WITH JEEM~L$HAH~" ++
    "L$K~O$MEEM~L$REH~Lr~XrAD~UqD~WqSHEEN WITH JEEM INITI~H$HAH~N$K~Q$MEEM~NrEEN WITH HEH~NrH~ZqT" ++
    "AH WITH MEEM~NqSEEN WITH JEEM MED~I!HAH~M!K~PrHEEN WITH JEEM~M$HAH~M$K~PqTAH WITH MEEM~MqZ~Y" ++
    "qALEF WITH FATHATAN FIN~H:ISOLATED~FaORNATE LEFT PARENTHESIShRIGH~NaARABIC LIGATURE RAHIMAHU" ++
    " ALLAAHsDI ALLAAHU ANH+AA+UM.AA,NNAqSALLALLAAHU ALAYHI WA-AALIHqALAYHI AS-SALAAMwM~KxAA~Kw A" ++
    "S-SALAATU W~JqQUDDISA SIRRAHqSALLALLAHU ALAYHI WAAALIHEE WA-SALLAMqALAYHAA AS-SALAAMqTABAARA" ++
    "KA WA-TAAALAAqRAHIMAHUM ALLAAHqTEH WITH JEEM WITH MEEM INITIAL FORMzHAH WITH JEEM FIN~H>INIT" ++
    "I~H.M~QzKH~ZzMEEM WITH J~Q:HAH~N:K~QqJEEM WITH MEEM WITH HAH FIN~H^INITI~HqHAH WITH MEEM WIT" ++
    "H YEH FIN~H:ALEF MAKSURA~LqSEEN WITH HAH WITH JEEM INITI~H!JEEM WITH HAH~N;ALEF MAKSURA FIN~" ++
    "H!MEEM WITH HAH~L^INITI~H;JEEM~N;MEEM FIN~H_INITI~HrAD WITH HAH WITH HAH FIN~H=INITI~HzMEEM " ++
    "WITH MEEM FIN~HrHEEN WITH HAH~V_INITI~H$JEEM WITH YEH FIN~H$MEEM WITH KHA~M|INITI~H<MEEM FIN" ++
    "~H|INITI~HqDAD WITH HAH WITH ALEF MAKSURA FIN~HzKHAH WITH MEEM~L^INITI~HqTAH WITH MEEM WITH " ++
    "HAH FIN~H>INITI~H:MEEM~N:YEH FIN~HqAIN WITH JEEM WITH MEEM~LzM~Y^INITI~H:ALEF MAKSURA FIN~Hq" ++
    "GHAIN WITH MEEM WITH MEEM~L<YEH~L<ALEF MAKSURA~LqFEH WITH KHAH WITH MEEM~L^INITI~HqQAF WITH " ++
    "MEEM WITH HAH FIN~H:MEEM~LqLAM WITH HAH~V.YEH~L.ALEF MAKSURA~LzJEEM WITH JEEM INITI~H^FIN~Hz" ++
    "KHAH WITH M~O^INITI~HzMEEM WITH HAH FIN~H>INITI~HqMEEM WITH HAH WITH JEEM~N:M~Q:YEH FIN~H!JE" ++
    "EM WITH HAH INITI~H;MEEM~N!KHAH WITH J~Q;M~Q"),
   (0xFD92, "aARABIC LIGATURE MEEM WITH JEEM WITH KHAH INITIAL FORMqHEH WITH MEEM WITH JEEM~N:M~" ++
    "QqNOON WITH HAH~X:ALEF MAKSURA FIN~H!JEEM WITH MEEM~L_INITI~H;ALEF MAKSURA FIN~H!MEEM WITH Y" ++
    "EH~L;ALEF MAKSURA~LqYEH WITH MEEM WITH MEEM~L^INITI~HqBEH WITH KHAH WITH YEH FIN~HqTEH WITH " ++
    "JEEM~U:ALEF MAKSURA~LzKHAH WITH YEH~L:ALEF MAKSURA~LzMEEM WITH YEH~L:ALEF MAKSURA~LqJEEM WIT" ++
    "H MEEM WITH YEH~L!HAH WITH ALEF MAKSURA~L!MEEM WIT~ZqSEEN WITH KHAH WIT~ZrAD WITH HAH WITH Y" ++
    "EH~LrHEEN WIT~ZqDAD WIT~ZqLAM WITH JEEM~UzM~XqYEH WITH HAH~UzJEEM~UzM~XqMEEM WITH~ZqQAF WITH" ++
    "~ZqNOON WITH HAH~UqQAF WITH MEEM WITH HAH INITI~HqLAM WITH HAH WITH MEEM~NqAIN WITH MEEM WIT" ++
    "H YEH FIN~HqKAF WITH~ZqNOON WITH JEEM WITH HAH INITI~HqMEEM WITH KHAH WITH YEH FIN~HqLAM WIT" ++
    "H JEEM WITH MEEM INITI~HqKAF WITH MEEM WITH MEEM FIN~HqLAM WITH J~YqNOON WITH JEEM WITH HAH~" ++
    "LqJEEM WITH HAH WITH YE~MqHAH WITH JEEM~UqMEEM WITH~ZqFEH WITH M~XqBEH WITH HAH~UqKAF WITH M" ++
    "EEM WITH MEEM INITI~HqAIN WITH JE~ZqSAD WITH ME~ZrEEN WITH KHAH WITH YEH FIN~HqNOON WITH JEE" ++
    "M~U"),
   (0xFDCF, "aARABIC LIGATURE SALAAMUHU ALAYNAA"),
   (0xFDF0, "aARABIC LIGATURE SALLA USED AS KORANIC STOP SIGN ISOLATED FORMqQALA USED AS KORANI~" ++
    "ZqALLAH~OrKBAR~OqMOHAMMAD~OqSALAM~OqRASOUL~OqALAYHE~OqWASALLAM~OqSALLA~OvLLAHOU ALAYHE WASAL" ++
    "LAMqJALLAJALALOUHOUaRIAL SIGNaARABIC LIGATURE BISMILLAH AR-RAHMAN AR-RAHEEMqSUBHAANAHU WA TA" ++
    "AALAAqAZZA WA JALLaVARIATION SELECTOR-1t2t3t4t5t6t7t8t9t10u1u2u3u4u5u6aPRESENTATION FORM FOR" ++
    " VERTICAL COMMA*IDEOGRAPHIC ~F| FULL STOP*COLON*SEMI~F*EXCLAMATION MARK*QUES~J*LEFT WHITE LE" ++
    "NTICULAR BRACKET*RIGHT WHITE LENTICULAR BRAKCET*HORIZONTAL ELLIPSIS"),
   (0xFE20, "aCOMBINING LIGATURE LEFT HALFtRIGH~GkDOUBLE TILDE LEF~GxRIGH~GkMACRON LEF~GrRIGH~Gk" ++
    "CONJOINING MACRONkLIGATURE LEFT HALF BELOWtRIGH~MkTILDE LEF~MqRIGH~MkMACRON LEF~MrRIGH~MkCON" ++
    "JOINING MACRON~GlYRILLIC TITLO LEFT HALFzRIGH~GaPRESENTATION FORM FOR VERTICAL TWO DOT LEADE" ++
    "R*EM DASH+N~F*LOW LINE*WAVY ~I*LEFT PARENTHESIS*RIGH~N*LEFT CURLY BRACKET*RIGH~P*LEFT TORTOI" ++
    "SE SHELL~I*RIGH~Y*LEFT BLACK LENTICULAR~I*RIGHT~Z*LEFT DOUBLE ANGLE~I*RIGH~W*LEFT~O*RIGH~P*L" ++
    "EFT CORNER~I*RIGH~Q*LEFT WHITE~P*RIGH~WaSESAME DOTaWHITE ~KaPRESENTATION FORM FOR VERTICAL L" ++
    "EFT SQUARE BRACKET*RIGH~QaDASHED OVERLINEaCENTRELINE~JaWAVY~JaDOUBLE ~NbASHED LOW ~EaCENTREL" ++
    "INE~JaWAVY~JaSMALL COMMAgIDEOGRAPHIC ~FgFULL STOP"),
   (0xFE54, "aSMALL SEMICOLONg~FgQUESTION MARKgEXCLAMA~JhM DASHgLEFT PARENTHESISgRIGH~NgLEFT CUR" ++
    "LY BRACKETgRIGH~PgLEFT TORTOISE SHELL~IgRIGH~YgNUMBER SIGNgAMPERSANDhSTERISKgPLUS SIGNgHYPHE" ++
    "N-MINUSgLESS-THAN SIGNgGREATER~KgEQUALS~F"),
   (0xFE68, "aSMALL REVERSE SOLIDUSgDOLLAR SIGNgPERCENT~FgCOMMERCIAL AT"),
   (0xFE70, "aARABIC FATHATAN ISOLATED FORMhTATWEEL WITH FATHATAN ABOVEhDAMMATAN ISOLATED FORMhT" ++
    "AIL FRAGMENThKASRATAN ISOLATED FORM"),
   (0xFE76, "aARABIC FATHA ISOLATED FORMnMEDIAL~FhDAMMA ISOLATED~FnMEDIAL~FhKASRA ISOLATED~FnMED" ++
    "IAL~FhSHADDA ISOLATED~FoMEDIAL~FiUKUN ISOLATED~FnMEDIAL~FhLETTER HAMZA ISOLATED~FoALEF WITH " ++
    "MADDA ABOVE~O;FINAL~FyHAMZA ABOVE ISOLATED~F;FINAL~FoWAW WITH HAMZA ABOVE ISOLATED~F:FINAL~F" ++
    "oALEF WITH HAMZA BELOW ISOLATED~F;FINAL~FoYEH WITH HAMZA ABOVE ISOLATED~F:FINAL~F:INITI~H:ME" ++
    "D~IoALEF ISOLATED~FtFINAL~FoBEH ISOLATED~FsFINAL~FsINITI~HsMED~IoTEH MARBUTA ISOLATED~F!FINA" ++
    "L~FsISOLATED~FsFINAL~FsINITI~HsMED~IpHEH ISOLATED~FtFINAL~FtINITI~HtMED~IoJEEM ISOLATED~FtFI" ++
    "NAL~FtINITI~HtMED~IoHAH ISOLATED~FsFINAL~FsINITI~HsMED~IoKHAH ISOLATED~FtFINAL~FtINITI~HtMED" ++
    "~IoDAL ISOLATED~FsFINAL~FoTHAL ISOLATED~FtFINAL~FoREH ISOLATED~FsFINAL~FoZAIN ISOLATED~FtFIN" ++
    "AL~FoSEEN ISOLATED~FtFINAL~FtINITI~HtMED~IpHEEN ISOLATED~FuFINAL~FuINITI~HuMED~IpAD ISOLATED" ++
    "~FsFINAL~FsINITI~HsMED~IoDAD ISOLATED~FsFINAL~FsINITI~HsMED~IoTAH ISOLATED~FsFINAL~FsINITI~H" ++
    "sMED~IoZAH ISOLATED~FsFINAL~FsINITI~HsMED~IoAIN ISOLATED~FsFINAL~FsINITI~HsMED~IoGHAIN ISOLA" ++
    "TED~FuFINAL~FuINITI~HuMED~IoFEH ISOLATED~FsFINAL~FsINITI~HsMED~IoQAF ISOLATED~FsFINAL~FsINIT" ++
    "I~HsMED~IoKAF ISOLATED~FsFINAL~FsINITI~HsMED~IoLAM ISOLATED~FsFINAL~FsINITI~HsMED~IoMEEM ISO" ++
    "LATED~FtFINAL~FtINITI~HtMED~IoNOON ISOLATED~FtFINAL~FtINITI~HtMED~IoHEH ISOLATED~FsFINAL~FsI" ++
    "NITI~HsMED~IoWAW ISOLATED~FsFINAL~FoALEF MAKSURA ISOLATED~F$FINAL~FoYEH ISOLATED~FsFINAL~FsI" ++
    "NITI~HsMED~IiIGATURE LAM WITH ALEF WITH MADDA ABOVE ISOLATED~F|BOVE FINAL~F:HAMZA ABOVE ISOL" ++
    "ATED~F|BOVE FINAL~F_BELOW ISOLATED~F|ELOW FINAL~F)ISOLATED~F)FINAL~F"),
   (0xFEFF, "aZERO WIDTH NO-BREAK SPACE"),
   (0xFF01, "aFULLWIDTH EXCLAMATION MARKkQUOT~KkNUMBER SIGNkDOLLA~GkPERCENT~FkAMPERSANDlPOSTROPH" ++
    "EkLEFT PARENTHESISkRIGH~NkASTERISKkPLUS SIGNkCOMMAkHYPHEN-MINUSkFULL STOPkSOLIDUSkDIGIT ZERO" ++
    "qONEqTWOrHREEqFOURrIVEqSIXrEVENqEIGHTqNINEkCOLONkSEMI~FkLESS-THAN SIGNkEQUALS~FkGREATER-THAN" ++
    "~FkQUESTION MARKkCOMMERCIAL ATkLATIN CAPITAL LETTER A*B*C*D*E*F*G*H*I*J*K*L*M*N*O*P*Q*R*S*T*" ++
    "U*V*W*X*Y*ZlEFT SQUARE BRACKETkREVERSE SOLIDUSlIGHT SQUARE BRACKETkCIRCUMFLEX ACCENTkLOW LIN" ++
    "EkGRAVE ACCENTkLATIN SMALL LETTER A(B(C(D(E(F(G(H(I(J(K(L(M(N(O(P(Q(R(S(T(U(V(W(X(Y(ZlEFT CU" ++
    "RLY BRACKETkVERTICAL LINEkRIGHT CURLY BRACKETkTILDEkLEFT WHITE PARENTHESISkRIGH~TaHALFWIDTH " ++
    "IDEOGRAPHIC FULL STOPkLEFT CORNER BRACKETkRIGH~QkIDEOGRAPHIC COMMAkKATAKANA MIDDLE DOTtLETTE" ++
    "R WO!SMALL A+I+U+E+O+YA,U,O+TUs-HIRAGANA PROLONGED SOUND MARKs LETTER A!I!U!E!O!KA$I$U$E$O!S" ++
    "A$I$U$E$O!TA$I$U$E$O!NA$I$U$E$O!HA$I$U$E$O!MA$I$U$E$O!YA$U$O!RA$I$U$E$O!WA!NtVOICED SOUND MA" ++
    "RKtSEMI-~RkHANGUL FILLERrLETTER KIYEOKySSANG~GyKIYEOK-SIOSyNIEUN(-CIEUC)HIEUHyTIKEUTySSANG~G" ++
    "yRIEUL(-KIYEOK)MIEUM)PIEUP)SIOS)THIEUTH)PHIEUPH)HIEUHyMIEUMyPIEUPySSANG~FyPIEUP-SIOSy~EzSANG" ++
    "S~DyIEUNGyCIEUCySSANG~FyCHIEUCHyKHIEUKHyTHIEUTHyPHIEUPHyHIEUH"),
   (0xFFC2, "aHALFWIDTH HANGUL LETTER AzEyYA!EyEOz"),
   (0xFFCA, "aHALFWIDTH HANGUL LETTER YEO!yOyWA!EyOE"),
   (0xFFD2, "aHALFWIDTH HANGUL LETTER YOyUyWEO!zIyYU"),
   (0xFFDA, "aHALFWIDTH HANGUL LETTER EUyYIyI"),
   (0xFFE0, "aFULLWIDTH CENT SIGNkPOUND~FkNOT~FkMACRONkBROKEN BARkYEN SIGNkWO~G"),
   (0xFFE8, "aHALFWIDTH FORMS LIGHT VERTICALkLEFTWARDS ARROWkUP~LkRIGHT~LkDOWN~LkBLACK SQUAREkWH" ++
    "ITE CIRCLE"),
   (0xFFF9, "aINTERLINEAR ANNOTATION ANCHORxSEPARATORxTERMIN~EaOBJECT REPLACEMENT CHARACTERa~V")]

end SnippetProfiler.Text.Names
