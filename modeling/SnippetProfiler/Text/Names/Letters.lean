/-!
# Names of characters below U+2000

The tables of the names of alphabets, abugidas and syllables, and of letters with marks, written as
`Names.runNames` reads them.
-/

namespace SnippetProfiler.Text.Names

/-- The names of characters below U+1000. -/
def letters : List (Nat × String) :=
  [(0x20, "aSPACEaEXCLAMATION MARKaQUOT~KaNUMBER SIGNaDOLLA~GaPERCENT~FaAMPERSANDbPOSTROPHEaLEFT" ++
    " PARENTHESISaRIGH~NaASTERISKaPLUS SIGNaCOMMAaHYPHEN-MINUSaFULL STOPaSOLIDUSaDIGIT ZEROgONEgT" ++
    "WOhHREEgFOURhIVEgSIXhEVENgEIGHTgNINEaCOLONaSEMI~FaLESS-THAN SIGNaEQUALS~FaGREATER-THAN~FaQUE" ++
    "STION MARKaCOMMERCIAL ATaLATIN CAPITAL LETTER AvBvCvDvEvFvGvHvIvJvKvLvMvNvOvPvQvRvSvTvUvVvWv" ++
    "XvYvZbEFT SQUARE BRACKETaREVERSE SOLIDUSbIGHT SQUARE BRACKETaCIRCUMFLEX ACCENTaLOW LINEaGRAV" ++
    "E ACCENTaLATIN SMALL LETTER AtBtCtDtEtFtGtHtItJtKtLtMtNtOtPtQtRtStTtUtVtWtXtYtZbEFT CURLY BR" ++
    "ACKETaVERTICAL LINEaRIGHT CURLY BRACKETaTILDE"),
   (0xA0, "aNO-BREAK SPACEaINVERTED EXCLAMATION MARKaCENT SIGNaPOUND~FaCURRENCY~FaYEN~FaBROKEN B" ++
    "ARaSECTION SIGNaDIAERESISaCOPYRIGHT SIGNaFEMININE ORDINAL INDICATORaLEFT-POINTING DOUBLE ANG" ++
    "LE QUOTATION MARKaNOT SIGNaSOFT HYPHENaREGISTERED SIGNaMACRONaDEGREE SIGNaPLUS-MINUS~FaSUPER" ++
    "SCRIPT TWOnHREEaACUTE ACCENTaMICRO SIGNaPILCROW~FaMIDDLE DOTaCEDILLAaSUPERSCRIPT ONEaMASCULI" ++
    "NE ORDINAL INDICATORaRIGHT-POINTING DOUBLE ANGLE QUOTATION MARKaVULGAR FRACTION ONE QUARTERu" ++
    "HALFqTHREE QUARTERSaINVERTED QUESTION MARKaLATIN CAPITAL LETTER A WITH GRAVE&ACUTE&CIRCUMFLE" ++
    "X&TILDE&DIAERESIS&RING ABOVEwEvC WITH CEDILLAvE WITH GRAVE&ACUTE&CIRCUMFLEX&DIAERESISvI WITH" ++
    " GRAVE&ACUTE&CIRCUMFLEX&DIAERESISvETHvN WITH TILDEvO WITH GRAVE&ACUTE&CIRCUMFLEX&TILDE&DIAER" ++
    "ESISaMULTIPLICATION SIGNaLATIN CAPITAL LETTER O WITH STROKEvU WITH GRAVE&ACUTE&CIRCUMFLEX&DI" ++
    "AERESISvY WITH ACUTEvTHORNgSMALL LETTER SHARP StA WITH GRAVE!ACUTE!CIRCUMFLEX!TILDE!DIAERESI" ++
    "S!RING ABOVEuEtC WITH CEDILLAtE WITH GRAVE!ACUTE!CIRCUMFLEX!DIAERESIStI WITH GRAVE!ACUTE!CIR" ++
    "CUMFLEX!DIAERESIStETHtN WITH TILDEtO WITH GRAVE!ACUTE!CIRCUMFLEX!TILDE!DIAERESISaDIVISION SI" ++
    "GNaLATIN SMALL LETTER O WITH STROKEtU WITH GRAVE!ACUTE!CIRCUMFLEX!DIAERESIStY WITH ACUTEtTHO" ++
    "RNtY WITH DIAERESISgCAPITAL LETTER A WITH MACRONgSMAL~WgCAPITAL LETTER A WITH BREVEgSMAL~VgC" ++
    "APITAL LETTER A WITH OGONEKgSMAL~WgCAPITAL LETTER C WITH ACUTEgSMAL~VgCAPITAL LETTER C WITH " ++
    "CIRCUMFLEXgSMALL~ZgCAPITAL LETTER C WITH DOT ABOVEgSMAL~ZgCAPITAL LETTER C WITH CARONgSMAL~V" ++
    "gCAPITAL LETTER D~LgSMAL~VgCAPITAL LETTER D WITH STROKEgSMAL~WgCAPITAL LETTER E WITH MACRONg" ++
    "SMAL~WgCAPITAL LETTER E WITH BREVEgSMAL~VgCAPITAL LETTER E WITH DOT ABOVEgSMAL~ZgCAPITAL LET" ++
    "TER E WITH OGONEKgSMAL~WgCAPITAL LETTER E WITH CARONgSMAL~VgCAPITAL LETTER G WITH CIRCUMFLEX" ++
    "gSMALL~ZgCAPITAL LETTER G WITH BREVEgSMAL~VgCAPITAL LETTER G WITH DOT ABOVEgSMAL~ZgCAPITAL L" ++
    "ETTER G WITH CEDILLAgSMAL~XgCAPITAL LETTER H WITH CIRCUMFLEXgSMALL~ZgCAPITAL LETTER H WITH S" ++
    "TROKEgSMAL~WgCAPITAL LETTER I WITH TILDEgSMAL~VgCAPITAL LETTER I WITH MACRONgSMAL~WgCAPITAL " ++
    "LETTER I WITH BREVEgSMAL~VgCAPITAL LETTER I WITH OGONEKgSMAL~WgCAPITAL LETTER I WITH DOT ABO" ++
    "VEgSMALL LETTER DOTLESS IgCAPITAL LIGATURE IJgSMAL~NgCAPITAL LETTER J WITH CIRCUMFLEXgSMALL~" ++
    "ZgCAPITAL LETTER K WITH CEDILLAgSMAL~XuRAgCAPITAL LETTER L WITH ACUTEgSMAL~VgCAPITAL LETTER " ++
    "L WITH CEDILLAgSMAL~XgCAPITAL LETTER L WITH CARONgSMAL~VgCAPITAL LETTER L WITH MIDDLE DOTgSM" ++
    "ALL~ZgCAPITAL LETTER L WITH STROKEgSMAL~WgCAPITAL LETTER N WITH ACUTEgSMAL~VgCAPITAL LETTER " ++
    "N WITH CEDILLAgSMAL~XgCAPITAL LETTER N WITH CARONgSMAL~VvPRECEDED BY APOSTROPHEgCAPITAL LETT" ++
    "ER ENGgSMAL~MgCAPITAL LETTER O WITH MACRONgSMAL~WgCAPITAL LETTER O WITH BREVEgSMAL~VgCAPITAL" ++
    " LETTER O WITH DOUBLE ACUTEgSMALL L~ZgCAPITAL LIGATURE OEgSMAL~NgCAPITAL LETTER R WITH ACUTE" ++
    "gSMAL~VgCAPITAL LETTER R WITH CEDILLAgSMAL~XgCAPITAL LETTER R WITH CARONgSMAL~VgCAPITAL LETT" ++
    "ER S WITH ACUTEgSMAL~VgCAPITAL LETTER S WITH CIRCUMFLEXgSMALL~ZgCAPITAL LETTER S WITH CEDILL" ++
    "AgSMAL~XgCAPITAL LETTER S WITH CARONgSMAL~VgCAPITAL LETTER T WITH CEDILLAgSMAL~XgCAPITAL LET" ++
    "TER T WITH CARONgSMAL~VgCAPITAL LETTER T WITH STROKEgSMAL~WgCAPITAL LETTER U WITH TILDEgSMAL" ++
    "~VgCAPITAL LETTER U WITH MACRONgSMAL~WgCAPITAL LETTER U WITH BREVEgSMAL~VgCAPITAL LETTER U W" ++
    "ITH RING ABOVEgSMALL~ZgCAPITAL LETTER U WITH DOUBLE ACUTEgSMALL L~ZgCAPITAL LETTER U WITH OG" ++
    "ONEKgSMAL~WgCAPITAL LETTER W WITH CIRCUMFLEXgSMALL~ZgCAPITAL LETTER Y~QgSMALL~ZgCAPITAL LETT" ++
    "ER Y WITH DIAERESISvZ WITH ACUTEgSMAL~VgCAPITAL LETTER Z WITH DOT ABOVEgSMAL~ZgCAPITAL LETTE" ++
    "R Z WITH CARONgSMAL~VtLONG StB WITH STROKEgCAPITAL LETTER B WITH HOOK&TOPBARgSMAL~WgCAPITAL " ++
    "LETTER TONE SIXgSMAL~RgCAPITAL LETTER OPEN OvC WITH HOOKgSMAL~UgCAPITAL LETTER AFRICAN DvD W" ++
    "ITH HOOK&TOPBARgSMAL~WtTURNED DELTAgCAPITAL LETTER REVERSED EvSCHWAvOPEN EvF WITH HOOKgSMAL~" ++
    "UgCAPITAL LETTER G~KwAMMAgSMALL LETTER HVgCAPITAL LETTER IOTAw WITH STROKEvK WITH HOOKgSMAL~" ++
    "UtL WITH BARuAMBDA WITH STROKEgCAPITAL LETTER TURNED MvN WITH LEFT HOOKgSMALL LETTER N WITH " ++
    "LONG RIGHT LEGgCAPITAL LETTER O WITH MIDDLE TILDE&HORNgSMAL~UgCAPITAL LETTER OIgSMAL~LgCAPIT" ++
    "AL LETTER P WITH HOOKgSMAL~UgLETTER YRgCAPITAL LETTER TONE TWOgSMAL~RgCAPITAL LETTER ESHgLET" ++
    "TER REVERSED ESH LOOPgSMALL LETTER T WITH PALATAL HOOKgCAPITAL LETTER T WITH~FgSMAL~UgCAPITA" ++
    "L LETTER T WITH RETROFLEX~FvU WITH HORNgSMAL~UgCAPITAL LETTER UPSILONvV WITH HOOKvY~KgSMAL~U" ++
    "gCAPITAL LETTER Z WITH STROKEgSMAL~WgCAPITAL LETTER EZHy REVERSEDgSMAL~VxWITH TAILgLETTER TW" ++
    "O WITH STROKEgCAPITAL LETTER TONE FIVEgSMAL~SgLETTER INVERTED GLOTTAL STOP WITH STROKEnWYNNn" ++
    "DENTAL CLICKnLATER~InALVEOLAR~GnRETROFLEX~GgCAPITAL LETTER DZ WITH CARONw WITH SMALL LETTER " ++
    "~MgSMALL LETTER D~MgCAPITAL LETTER LJw WITH SMALL LETTER JgSMALL LETTER LJgCAPITAL LETTER NJ" ++
    "w WITH SMALL LETTER JgSMALL LETTER NJgCAPITAL LETTER A WITH CARONgSMAL~VgCAPITAL LETTER I~Lg" ++
    "SMAL~VgCAPITAL LETTER O~LgSMAL~VgCAPITAL LETTER U~LgSMAL~VgCAPITAL LETTER U WITH DIAERESIS A" ++
    "ND MAC~DgSMALL LETTER U ~ZgCAPITAL LETTER U WITH DIAERESIS AND ACUTEgSMALL LETTER U~ZgCAPITA" ++
    "L LETTER U WITH DIAERESIS AND CARONgSMALL LETTER U~ZgCAPITAL LETTER U WITH DIAERESIS AND GRA" ++
    "VEgSMALL LETTER U~ZtTURNED EgCAPITAL LETTER A WITH DIAERESIS AND MACRONgSMALL LETTER A ~ZgCA" ++
    "PITAL LETTER A WITH DOT ABOVE~LgSMALL LETTER A ~ZgCAPITAL LETTER AE WITH~HgSMAL~XgCAPITAL LE" ++
    "TTER G WITH STROKEgSMAL~WgCAPITAL LETTER G WITH CARONgSMAL~VgCAPITAL LETTER K~LgSMAL~VgCAPIT" ++
    "AL LETTER O WITH OGONEKgSMAL~WgCAPITAL LETTER O WITH OGONEK AND MACRONgSMALL LETTER~ZgCAPITA" ++
    "L LETTER EZH WITH CA~DgSMAL~XtJ~LgCAPITAL LETTER DZw WITH SMALL LETTER ZgSMALL LETTER DZgCAP" ++
    "ITAL LETTER G WITH ACUTEgSMAL~VgCAPITAL LETTER HWAIRvWYNNvN WITH GRAVEgSMAL~VgCAPITAL LETTER" ++
    " A WITH RING ABOVE AND ACUTEgSMALL LETTER A ~ZgCAPITAL LETTER AE WITH~GgSMAL~WgCAPITAL LETTE" ++
    "R O WITH STROKE AND~GgSMALL LETTE~ZgCAPITAL LETTER A WITH DOUBLE GRAVEgSMALL L~ZgCAPITAL LET" ++
    "TER A WITH INVERTED BREVEgSMALL LET~ZgCAPITAL LETTER E WITH DOUBLE GRAVEgSMALL L~ZgCAPITAL L" ++
    "ETTER E WITH INVERTED BREVEgSMALL LET~ZgCAPITAL LETTER I WITH DOUBLE GRAVEgSMALL L~ZgCAPITAL" ++
    " LETTER I WITH INVERTED BREVEgSMALL LET~ZgCAPITAL LETTER O WITH DOUBLE GRAVEgSMALL L~ZgCAPIT" ++
    "AL LETTER O WITH INVERTED BREVEgSMALL LET~ZgCAPITAL LETTER R WITH DOUBLE GRAVEgSMALL L~ZgCAP" ++
    "ITAL LETTER R WITH INVERTED BREVEgSMALL LET~ZgCAPITAL LETTER U WITH DOUBLE GRAVEgSMALL L~ZgC" ++
    "APITAL LETTER U WITH INVERTED BREVEgSMALL LET~ZgCAPITAL LETTER S WITH COMMA BELOWgSMALL ~ZgC" ++
    "APITAL LETTER T~RgSMALL ~ZgCAPITAL LETTER YOGHgSMAL~NgCAPITAL LETTER H WITH CARONgSMAL~VgCAP" ++
    "ITAL LETTER N WITH LONG RIGHT LEGgSMALL LETTER D WITH CURLgCAPITAL LETTER OUgSMAL~LgCAPITAL " ++
    "LETTER Z WITH HOOKgSMAL~UgCAPITAL LETTER A WITH DOT ABOVEgSMAL~ZgCAPITAL LETTER E WITH CEDIL" ++
    "LAgSMAL~XgCAPITAL LETTER O WITH DIAERESIS AND MACRONgSMALL LETTER O ~ZgCAPITAL LETTER O WITH" ++
    " TILDE~LgSMALL LETTE~ZgCAPITAL LETTER O WITH DOT ABOVEgSMAL~ZgCAPITAL LETTER O WITH DOT ABOV" ++
    "E AND MACRONgSMALL LETTER O ~ZgCAPITAL LETTER Y WITH~HgSMAL~WtL WITH CURLtN~KtT~KtDOTLESS Ju" ++
    "B DIGRAPHtQP~IgCAPITAL LETTER A WITH STROKEvC~MgSMAL~WgCAPITAL LETTER L WITH BARvT WITH DIAG" ++
    "ONAL STROKEgSMALL LETTER S WITH SWASH TAILtZ~QgCAPITAL LETTER GLOTTAL STOPgSMAL~VgCAPITAL LE" ++
    "TTER B WITH STROKEvU BARvTURNED VvE WITH STROKEgSMAL~WgCAPITAL LETTER J~MgSMAL~WgCAPITAL LET" ++
    "TER SMALL Q WITH HOOK TAILgSMALL LETTER~RgCAPITAL LETTER R WITH STROKEgSMAL~WgCAPITAL LETTER" ++
    " Y~MgSMAL~WtTURNED AtALPHAtTURNED ~FtB WITH HOOKtOPEN OtC WITH CURLtD WITH TAIL!HOOKtREVERSE" ++
    "D EtSCHWAy WITH HOOKtOPEN EtREVERSED ~G. WITH HOOKtCLOSED REVERSED OPEN EtDOTLESS J WITH STR" ++
    "OKEtG WITH HOOKtSCRIPT GgLETTER SMALL CAPITAL GgSMALL LETTER GAMMAtRAMS HORNtTURNED HtH WITH" ++
    " HOOKuENG~KtI WITH STROKEuOTAgLETTER SMALL CAPITAL IgSMALL LETTER L WITH MIDDLE TILDE!BELT!R" ++
    "ETROFLEX HOOKuEZHtTURNED M$ WITH LONG LEGtM WITH HOOKtN WITH LEFT~F!RETROFLEX~FgLETTER SMALL" ++
    " CAPITAL NgSMALL LETTER BARRED OgLETTER SMALL CAPITAL OEgSMALL LETTER CLOSED OMEGAtPHItTURNE" ++
    "D R$ WITH LONG LEG,HOOKtR WITH LONG LEG!TAIL!FISHHOOKuEVERSED R~OgLETTER SMALL CAPITAL R$INV" ++
    "ERTED RgSMALL LETTER S WITH HOOKtESHtDOTLESS J WITH STROKE AND HOOKtSQUAT REVERSED ESHtESH W" ++
    "ITH CURLtTURNED Tu WITH RETROFLEX HOOKtU BARuPSILONtV WITH HOOKtTURNED V!W!YgLETTER SMALL CA" ++
    "PITAL YgSMALL LETTER Z WITH RETROFLEX HOOK!CURLtEZHw WITH CURLgLETTER GLOTTAL STOPnPHARYNGEA" ++
    "L VOICED FRICATIVEnINVERTED GLOTTAL STOPnSTRETCHED CnBILABIAL CLICKnSMALL CAPITAL BgSMALL LE" ++
    "TTER CLOSED OPEN EgLETTER SMALL CAPITAL G WITH HOOK$HgSMALL LETTER J WITH CROSSED-TAILtTURNE" ++
    "D KgLETTER SMALL CAPITAL LgSMALL LETTER Q WITH HOOKgLETTER GLOTTAL STOP WITH STROKEnREVERSED" ++
    " ~YgSMALL LETTER DZ DIGRAPHuEZH~IuZ DIGRAPH WITH CURLtTS DIGRAPHuESH~IuC DIGRAPH WITH CURLtF" ++
    "ENG DIGRAPHtLS~IuZ~IgLETTER BILABIAL PERCUSSIVEpDENT~NgSMALL LETTER TURNED H WITH FISHHOOK_ " ++
    "AND TAILaMODIFIER LETTER SMALL Hx WITH HOOKwJwRwTURNED R) WITH HOOKwCAPITAL INVERTED RwWwYqP" ++
    "RIMEqDOUBLE ~FqTURNED COMMAqAPOSTROPHEqREVERSED COMMArIGHT HALF RINGqLEF~LqGLOTTAL STOPqREVE" ++
    "RSED ~MqLEFT ARROWHEADqRIGH~LqUP~KqDOWN~KqCIRCUMFLEX ACCENTaCARONaMODIFIER LETTER VERTICAL L" ++
    "INEqMACRONqACUTE ACCENTqGRAV~IqLOW VERTICAL LINEuMACRONuGRAVE ACCENTuACUT~IqTRIANGULAR COLON" ++
    "qHALF ~QqCENTRED RIGHT HALF RINGyLEF~LqUP TACKqDOWN~FqPLUS SIGNqMIN~HaBREVEaDOT ABOVEaRING~G" ++
    "aOGONEKaSMALL TILDEaDOUBLE ACUTE ACCENTaMODIFIER LETTER RHOTIC HOOKqCROSS ACCENTqSMALL GAMMA" ++
    "wLwSwXwREVERSED GLOTTAL STOPqEXTRA-HIGH TONE BARq~NqMID~JqLOW~JqEXTRA-~MqYIN DEPARTING TONE " ++
    "MARKrANG~UqVOICINGqUNASPIRATEDqDOUBLE APOSTROPHEqLOW DOWN ARROWHEADuUP~KuLEFT~KuRIGH~LwNGqMI" ++
    "DDLE GRAVE ACCENTxDOUBLE ~M)ACUT~IqLOW TILDEqRAISED COLONqBEGIN HIGH TONEqEND~KqBEGIN LOW~Fq" ++
    "END~JqSHELFqOPEN ~FqLOW LEFT ARROWaCOMBINING GRAVE ACCENTkACUT~IkCIRCUMFLEX~HkTILDEkMACRONkO" ++
    "VERLINEkBREVEkDOT ABOVElIAERESISkHOOK ABOVEkRING~GkDOUBLE ACUTE ACCENTkCARONkVERTICAL LINE A" ++
    "BOVEkDOUBLE ~TrGRAVE ACCENTkCANDRABINDUkINVERTED BREVEkTURNED COMMA ABOVEk~LkREVERSED ~LkCOM" ++
    "MA ABOVE RIGHTkGRAVE ACCENT BELOWkACUT~OkLEFT TACK~GkRIGH~MkLEFT ANGLE ABOVEkHORNkLEFT HALF " ++
    "RING BELOWkUP TACK~GkDOWN~LkPLUS SIGN~GkMIN~NkPALATALIZED HOOK~GkRETROFLEX~LkDOT~GlIAERESIS~" ++
    "GkRING~GkCOMMA~GlEDILLAkOGONEKkVERTICAL LINE BELOWkBRIDG~HkINVERTED DOUBLE ARCH~GkCARON~GlIR" ++
    "CUMFLEX ACCENT~GkBREVE~GkINVERTED ~LkTILD~HkMACRON~GkLOW LINEkDOUBLE ~IkTILDE OVERLAYkSHORT " ++
    "STROK~JkLONG~PkSHORT SOLIDUS~IkLONG~QkRIGHT HALF RING BELOWkINVERTED BRIDGE~GkSQUAR~HlEAGULL" ++
    "~GkX ABOVEkVERTICAL TILDEkDOUBLE OVERLINEkGRAVE TONE MARKkACUT~LkGREEK PERISPOMENIqKORONISqD" ++
    "IALYTIKA TONOSqYPOGEGRAMMENIkBRIDGE ABOVEkEQUALS SIGN BELOWkDOUBLE VERTICAL LINE~GkLEFT ANGL" ++
    "~HkNOT TILDE ABOVEkHOMOTHETIC~GkALMOST EQUAL TO~GkLEFT RIGHT ARROW BELOWkUPWARDS~MkGRAPHEME " ++
    "JOINERkRIGHT ARROWHEAD ABOVEkLEFT HALF RING~GkFERMATAkX BELOWkLEFT ARROWHEAD~GkRIGH~R!AND UP" ++
    " ARROWHEAD ~FqHALF RING ABOVEkDOT ABOVE RIGHTkASTERISK BELOWkDOUBLE RING~GkZIGZAG ABOVEkDOUB" ++
    "LE BREVE BELOWwrMACRONx BELOWrTILDErINVERTED BREVErRIGHTWARDS ARROW BELOWkLATIN SMALL LETTER" ++
    " A(E(I(O(U(C(D(H(M(R(T(V(XaGREEK CAPITAL LETTER HETAgSMAL~NgCAPITAL LETTER ARCHAIC SAMPIgSMA" ++
    "L~WgNUMERAL SIGNgLOWER ~MgCAPITAL LETTER PAMPHYLIAN DIGAMMAgSMALL ~Z"),
   (0x37A, "aGREEK YPOGEGRAMMENIgSMALL REVERSED LUNATE SIGMA SYMBOLmDOTT~WmREVERSED D~ZgQUESTION" ++
    " MARKgCAPITAL LETTER YOT"),
   (0x384, "aGREEK TONOSgDIALYTIKA ~FgCAPITAL LETTER ALPHA WITH~GgANO TELEIAgCAPITAL LETTER EPSI" ++
    "LON WITH TONOSwTA~LvIO~N"),
   (0x38C, "aGREEK CAPITAL LETTER OMICRON WITH TONOS"),
   (0x38E, "aGREEK CAPITAL LETTER UPSILON WITH TONOSvOMEGA~LgSMALL LETTER IOTA WITH DIALYTIKA AN" ++
    "D~GgCAPITAL LETTER ALPHAvBETAvGAMMAvDELTAvEPSILONvZETAv~DvTH~DvIOTAvKAPPAvLAMDAvMUvNUvXIvOMI" ++
    "CRONvPIvRHO"),
   (0x3A3, "aGREEK CAPITAL LETTER SIGMAvTAUvUPSILONvPHIvCHIvPSIvOMEGAvIOTA WITH DIALYTIKAvUPSILO" ++
    "N~PgSMALL LETTER ALPHA WITH TONOStEPSILON~LuTA~LtIO~NtUPSILON WITH DIALYTIKA AND~GtALPHAtBET" ++
    "AtGAMMAtDELTAtEPSILONtZETAt~DtTH~DtIOTAtKAPPAtLAMDAtMUtNUtXItOMICRONtPItRHOtFINAL SIGMAt~FtT" ++
    "AUtUPSILONtPHItCHItPSItOMEGAtIOTA WITH DIALYTIKAtUPSILON~PtOMICRON WITH TONOStUPSIL~NtOMEGA~" ++
    "LgCAPITAL KAI SYMBOLgBETA~HgTH~KgUPSILON WITH HOOK~HtACUTE AND ~LtDIAERESIS~QgPHI~Hh~IgKA~Ig" ++
    "LETTER ARCHAIC KOPPAgSMALL ~UgLETTER STIGMAgSMALL ~NgLETTER DIGAMMAgSMALL ~OgLETTER KOPPAgSM" ++
    "ALL ~MgLETTER SAMPIgSMALL ~MaCOPTIC CAPITAL LETTER SHEIhSMAL~NhCAPITAL LETTER FEIhSMAL~MhCAP" ++
    "ITAL LETTER KHEIhSMAL~NhCAPITAL LETTER HORIhSMAL~NhCAPITAL LETTER GANGIAhSMAL~PhCAPITAL LETT" ++
    "ER SHIMAhSMAL~OhCAPITAL LETTER DEIhSMAL~MaGREEK KAPPA SYMBOLgRHO~HgLUNATE SIGMA~HhETTER YOTg" ++
    "CAPITAL THETA SYMBOLgLUNATE EPSILON~HgREVERSED ~VgCAPITAL LETTER SHOgSMAL~MgCAPITAL LUNATE S" ++
    "IGMA SYMBOLpETTER SANgSMAL~MgRHO WITH STROKE SYMBOLgCAPITAL REVERSED LUNATE SIGMA~HoDOTT~WoR" ++
    "EVERSED D~ZaCYRILLIC CAPITAL LETTER IE WITH GRAVEzOyDJEyGJEyUKRAINIAN IEyDZEyBYELORUSSIAN-UK" ++
    "RAINIAN IyYIyJEyLJEyNJEyTSHEyKJEyI WITH GRAVEySHORT UyDZHEyAyBEyVEyGHEyDEyIEyZHEzEyIySHORT I" ++
    "yKAyELzMzNyOyPEyERzSyTEyUyEFyHAyTSEyCHEySHA!CHAyHARD SIGNyYERUySOFT SIGNyEyYUzAjSMALL LETTER" ++
    " AwBEwVEwGHEwDEwIEwZHExEwIwSHORT IwKAwELxMxNwOwPEwERxSwTEwUwEFwHAwTSEwCHEwSHAyCHAwHARD SIGNw" ++
    "YERUwSOFT SIGNwEwYUxAwIE WITH GRAVExOwDJEwGJEwUKRAINIAN IEwDZEwBYELORUSSIAN-UKRAINIAN IwYIwJ" ++
    "EwLJEwNJEwTSHEwKJEwI WITH GRAVEwSHORT UwDZHEjCAPITAL LETTER OMEGAjSMAL~OjCAPITAL LETTER YATj" ++
    "SMAL~MjCAPITAL LETTER IOTIFIED EjSMAL~TjCAPITAL LETTER LITTLE YUSjSMAL~TjCAPITAL LETTER IOTI" ++
    "FIED~LjSMALL L~ZjCAPITAL LETTER BIG~EjSMAL~QjCAPITAL LETTER IOTIFIED~IjSMAL~ZjCAPITAL LETTER" ++
    " KSIjSMAL~MjCAPITAL LETTER PSIjSMAL~MjCAPITAL LETTER FITAjSMAL~NjCAPITAL LETTER IZHITSAjSMAL" ++
    "~QjCAPITAL LETTER IZHITSA WITH DOUBLE GRAVE ACCENTjSMALL LETTER IZHITSA~ZjCAPITAL LETTER UKj" ++
    "SMAL~LjCAPITAL LETTER ROUND OMEGAjSMAL~UjCAPITAL LETTER OMEGA WITH TITLOjSMAL~ZjCAPITAL LETT" ++
    "ER OTjSMAL~LjCAPITAL LETTER KOPPAjSMAL~OjTHOUSANDS SIGNbOMBINING CYRILLIC TITLOtPALATALIZATI" ++
    "ONtDASIA PNEUMATAtPSILI~JuOKRYTIEtHUNDRED THOUSANDS SIGNtMILLION~GbYRILLIC CAPITAL LETTER SH" ++
    "ORT I WITH TAILjSMALL~ZjCAPITAL LETTER SEMISOFT SIGNjSMAL~WjCAPITAL LETTER ER WITH TICKjSMAL" ++
    "~VjCAPITAL LETTER GHE WITH UPTURNjSMAL~YjCAPITAL LETTER GHE WITH STROKEjSMAL~YjCAPITAL LETTE" ++
    "R GHE WITH MIDDLE HOOKjSMALL LE~ZjCAPITAL LETTER ZHE WITH DESCENDERjSMALL ~ZjCAPITAL LETTER " ++
    "Z~QjSMALL~ZjCAPITAL LETTER KA~PjSMALL~ZjCAPITAL LETTER KA WITH VERTICAL STROKEjSMALL LETTE~Z" ++
    "jCAPITAL LETTER KA WITH~HjSMAL~XjCAPITAL LETTER BASHKIR KAjSMAL~TjCAPITAL LETTER EN WITH DES" ++
    "CENDERjSMALL~ZjCAPITAL LIGATURE EN GHEjSMAL~RjCAPITAL LETTER PE WITH MIDDLE HOOKjSMALL L~ZjC" ++
    "APITAL LETTER ABKHASIAN HAjSMAL~VjCAPITAL LETTER ES WITH DESCENDERjSMALL~ZjCAPITAL LETTER TE" ++
    "~PjSMALL~ZjCAPITAL LETTER STRAIGHT UjSMAL~TjCAPITAL LETTER STRAIGHT U WITH STROKEjSMALL LETT" ++
    "~ZjCAPITAL LETTER HA WITH DESCENDERjSMALL~ZjCAPITAL LIGATURE TE TSEjSMAL~RjCAPITAL LETTER CH" ++
    "E WITH DESCENDERjSMALL ~ZjCAPITAL LETTER CHE WITH VERTICAL STROKEjSMALL LETTER~ZjCAPITAL LET" ++
    "TER SHHAjSMAL~NjCAPITAL LETTER ABKHASIAN CHEjSMAL~WjCAPITAL LETTER ABKHASIAN CHE WITH DESCEN" ++
    "DERjSMALL LETTER ABK~ZjLETTER PALOCHKAjCAPITAL LETTER ZHE WITH BREVEjSMAL~XjCAPITAL LETTER K" ++
    "A WITH HOOKjSMAL~VjCAPITAL LETTER EL WITH TAILjSMAL~VjCAPITAL LETTER EN WITH HOOKjSMAL~VjCAP" ++
    "ITAL LETTER EN WITH TAILjSMAL~VjCAPITAL LETTER KHAKASSIAN CHEjSMAL~XjCAPITAL LETTER EM WITH " ++
    "TAILjSMAL~VwPALOCHKAjCAPITAL LETTER A WITH BREVEjSMAL~VjCAPITAL LETTER A WITH DIAERESISjSMAL" ++
    "~ZjCAPITAL LIGATURE A IEjSMAL~PjCAPITAL LETTER IE WITH BREVEjSMAL~WjCAPITAL LETTER SCHWAjSMA" ++
    "L~OjCAPITAL LETTER SCHWA WITH DIAERESISjSMALL LE~ZjCAPITAL LETTER ZHE~PjSMALL ~ZjCAPITAL LET" ++
    "TER Z~QjSMALL~ZjCAPITAL LETTER ABKHASIAN DZEjSMAL~WjCAPITAL LETTER I WITH MACRONjSMAL~WjCAPI" ++
    "TAL LETTER I WITH DIAERESISjSMAL~ZjCAPITAL LETTER O~PjSMAL~ZjCAPITAL LETTER BARRED OjSMAL~Rj" ++
    "CAPITAL LETTER BARRED O WITH DIAERESISjSMALL LETTE~ZjCAPITAL LETTER E~PjSMAL~ZjCAPITAL LETTE" ++
    "R U WITH MACRONjSMAL~WjCAPITAL LETTER U WITH DIAERESISjSMAL~ZjCAPITAL LETTER U WITH DOUBLE A" ++
    "CUTEjSMALL L~ZjCAPITAL LETTER CHE WITH DIAERESISjSMALL ~ZjCAPITAL LETTER GHE WITH DESCENDERj" ++
    "SMALL ~ZjCAPITAL LETTER YERU WITH DIAERESISjSMALL L~ZjCAPITAL LETTER GHE WITH STROKE AND HOO" ++
    "KjSMALL LETTER~ZjCAPITAL LETTER HA WITH~FjSMAL~VjCAPITAL LETTER HA WITH STROKEjSMAL~XjCAPITA" ++
    "L LETTER KOMI DEjSMAL~QjCAPITAL LETTER KOMI DJEjSMAL~RjCAPITAL LETTER KOMI ZJEjSMAL~RjCAPITA" ++
    "L LETTER KOMI D~DjSMAL~SjCAPITAL LETTER KOMI LJEjSMAL~RjCAPITAL LETTER KOMI NJEjSMAL~RjCAPIT" ++
    "AL LETTER KOMI SJEjSMAL~RjCAPITAL LETTER KOMI TJEjSMAL~RjCAPITAL LETTER REVERSED ZEjSMAL~UjC" ++
    "APITAL LETTER EL WITH HOOKjSMAL~VjCAPITAL LETTER LHAjSMAL~MjCAPITAL LETTER RHAjSMAL~MjCAPITA" ++
    "L LETTER YAEjSMAL~MjCAPITAL LETTER QAjSMAL~LjCAPITAL LETTER WEjSMAL~LjCAPITAL LETTER ALEUT K" ++
    "AjSMAL~RjCAPITAL LETTER EL WITH MIDDLE HOOKjSMALL L~ZjCAPITAL LETTER EN~RjSMALL L~ZjCAPITAL " ++
    "LETTER PE WITH DESCENDERjSMALL~ZjCAPITAL LETTER SHHA~PjSMALL L~ZjCAPITAL LETTER EN WITH LEFT" ++
    " HOOKjSMALL~ZjCAPITAL LETTER DZZHEjSMAL~OjCAPITAL LETTER DCHEjSMAL~NjCAPITAL LETTER EL WITH " ++
    "DESCENDERjSMALL~Z"),
   (0x531, "aARMENIAN CAPITAL LETTER AYByBENyGIMyDAyECHyZAyEHzTyTOyZHEyINIyLIWNyXEHyCAyKENyHOyJA" ++
    "yGHADyCHEHyMENyYIyNOWySHAyVOyCHAyPEHyJHEHyRAySEHyVEWyTIWNyREHyCOyYIWNyPIWRyKEHyOHyFEH"),
   (0x559, "aARMENIAN MODIFIER LETTER LEFT HALF RINGjAPOSTROPHEjEMPHASIS MARKkXCLAMATION~FjCOMMA" ++
    "jQUESTION MARKjABBREVIA~JjSMALL LETTER TURNED AYBw~DwBENwGIMwDAwECHwZAwEHxTwTOwZHEwINIwLIWNw" ++
    "XEHwCAwKENwHOwJAwGHADwCHEHwMENwYIwNOWwSHAwVOwCHAwPEHwJHEHwRAwSEHwVEWwTIWNwREHwCOwYIWNwPIWRwK" ++
    "EHwOHwFEHqIGATURE ECH YIWNqETTER YI WITH STROKEjFULL STOPjHYPHEN"),
   (0x58D, "aRIGHT-FACING ARMENIAN ETERNITY SIGNaLEFT-FACI~ZaARMENIAN DRAM~F"),
   (0x591, "aHEBREW ACCENT ETNAHTAoSEGOLpHALSHELEToZAQEF QATANuGADOLoTIPEHAoREVIAoZARQAoPASHTAoY" ++
    "ETIVoTEVIRoGERESHu MUQDAMrSHAYIMoQARNEY PARAoTELISHA GEDOLAoPAZERoATNAH HAFUKHoMUNAHpAHAPAKH" ++
    "pERKHAu KEFULAoDARGAoQADMAoTELISHA QETANAoYERAH BEN YOMOoOLEoILUYoDEHIoZINORhMARK MASORA CIR" ++
    "CLEhPOINT SHEVAnHATAF SEGOLtPATAHtQAMATSoIRIQnTSEREnSEGOLnPATAHnQAMATSnHOLAMs HASER FOR VAVn" ++
    "QUBUTSnDAGESH OR MAPIQnMETEGiUNCTUATION MAQAFiOINT RAFEiUNCTUATION PASEQiOINT SHIN DOTo~GiUN" ++
    "CTUATION SOF PASUQhMARK UPPER DOTmLOW~GhPUNCTUATION NUN HAFUKHAiOINT QAMATS QATAN"),
   (0x5D0, "aHEBREW LETTER ALEFoBEToGIMELoDALEToHEoVAVoZAYINoHEToTEToYODoFINAL KAFo~DoLAMEDoFINA" ++
    "L MEMo~DoFINAL NUNo~DoSAMEKHoAYINoFINAL PEoPEoFINAL TSADIo~FoQOFoRESHoSHINoTAV"),
   (0x5EF, "aHEBREW YOD TRIANGLEhLIGATURE YIDDISH DOUBLE VAVyVAV YODyDOUBLE~EhPUNCTUATION GERESH" ++
    "wSHAYIM"),
   (0x600, "aARABIC NUMBER SIGNhSIGN SANAHhFOOTNOTE MARKERhSIGN SAFHAoMVAThNUMBER MARK ABOVEg-IN" ++
    "DIC CUBE ROOTnFOURTH~Fg RAYg-INDIC PER MILLE SIGNrTEN THOUSAND~FbFGHANI~FbRABIC COMMAhDATE S" ++
    "EPARATORhPOETIC VERSE SIGNhSIGN MISRAmSALLALLAHOU ALAYHE WASSALLAMmALAYHE ~ImRAHMATULLAH ALA" ++
    "YHEoDI ALLAHOU ANHUmTAKHALLUSiMALL HIGH TAHsLIGATURE ALEF WITH LAM WITH YEHsZAINnFATHAnDAMMA" ++
    "nKASRAiEMICOLONhLETTER MARKhEND OF TEXT~FhTRIPLE DOT PUNCTUATION~FhQUES~JhLETTER KASHMIRI YE" ++
    "HoHAMZAoALEF WITH MADDA ABOVEyHAMZ~HoWAW~RoALEF WITH HAMZA BELOWoYEH WITH HAMZA ABOVEoALEFoB" ++
    "EHoTEH MARBUTArpHEHoJEEMoHAHoK~DoDALoTHALoREHoZAINoSEENpH~DpADoDADoTAHoZAHoAINoGH~DoKEHEH WI" ++
    "TH TWO DOTS ABOVE!HREE DOTS BELOWoFARSI YEH WITH INVERTED V(TWO DOTS ABOVE)HREE~LhTATWEELhLE" ++
    "TTER FEHoQAFoKAFoLAMoMEEMoNOONoHEHoWAWoALEF MAKSURAoYEHhFATHATANhDAMM~EhKASR~EhFATHAhDAMMAhK" ++
    "ASRAhSHADDAiUKUNhMADDAH ABOVEhHAMZA~GnBELOWhSUBSCRIPT ALEFhINVERTED DAMMAhMARK NOON GHUNNAhZ" ++
    "WARAKAYhVOWEL SIGN SMALL V ABOVEsINVERTED ~NsDOT BELOWhREVERSED DAMMAhFATHA WITH TWO DOTShWA" ++
    "VY HAMZA BELOWg-INDIC DIGIT ZEROtONEtTWOuHREEtFOURuIVEtSIXuEVENtEIGHTtNINEg PERCENT SIGNhDEC" ++
    "IMAL SEPARATORhTHOUSANDS~KhFIVE POINTED STARhLETTER DOTLESS BEHwQAFoSUPERSCRIPT ALEFoALEF WA" ++
    "SLAuITH WAVY HAMZA ABOVE:BELOWoHIGH HAMZAy ALEFzWAWoU WITH HAMZA ABOVEoHIGH HAMZA YEHoTTEHsE" ++
    "HoBEEHoTEH WITH RINGxTHREE DOTS ABOVE DOWNWARDSoPEHoTEHEHoB~EoHAH WITH HAMZA ABOVExTWO DOTS " ++
    "VERTICAL~GoNYEHoD~DoHAH WITH THREE DOTS ABOVEoTCHEHtEHoDDALpAL WITH RINGxDOT BELOW+ AND SMAL" ++
    "L TAHqHALpD~EpULpAL WITH THREE DOTS ABOVE DOWNWARDSxFOUR DOTS ABOVEoRREHpEH WITH SMALL VxRIN" ++
    "GxDOT BELOWxSMALL V~GxDOT BELOW AND DOT ABOVExTWO DOTS~GoJEHoREH WITH FOUR DOTS ABOVEoSEEN W" ++
    "ITH DOT BELOW AND DOT~GyTHREE DOTS BELOW^ AND THREE DOTS ABOVEpAD WITH TWO DOTS BELOWyHREE D" ++
    "OTS ABOVEoTAH~WoAIN~WoDOTLESS FEHoFEH WITH DOT MOVED BELOW$~FoVEHoFEH WITH THREE DOTS BELOWo" ++
    "PEHEHoQAF WITH DOT ABOVExTHREE DOTS~GoKEHEHoSWASH KAFoKAF WITH RINGxDOT ABOVEoNGoKAF WITH TH" ++
    "REE DOTS BELOWoGAFr WITH RINGoNGOEHoGAF WITH TWO DOTS BELOWpUEHpAF WITH THREE DOTS ABOVEoLAM" ++
    " WITH SMALL VxDOT ABOVExTHREE DOTS~G.BELOWoNOON WITH DOT~GtGHUNNAoRNOONoNOON WITH RINGyTHREE" ++
    " DOTS ABOVEoHEH DOACHASHMEEoTCHEH WITH DOT ABOVEoHEH WITH YEH~GsGOALw WITH HAMZA ABOVEoTEH M" ++
    "ARBUTA GOALoWAW WITH RINGoKIRGHIZ OEoOEoUoYUoKIRGHIZ YUoWAW WITH TWO DOTS ABOVEoVEoFARSI YEH" ++
    "oYEH WITH TAILxSMALL VoWAW WITH DOT ABOVEoEoYEH WITH THREE DOTS BELOWsBARREEy WITH HAMZA ABO" ++
    "VEhFULL STOPhLETTER AEhSMALL HIGH LIGATURE SAD WITH LAM WITH ALEF MAKSURA$QAF W~ZsMEEM INITI" ++
    "AL FORMsLAM ALEFsJEEMsTHREE DOTSsSEENhEND OF AYAHhSTART OF RUB EL HIZBiMALL HIGH ROUNDED ZER" ++
    "OsUPRIGHT RECTANGULAR~FsDOTLESS HEAD OF KHAHsMEEM ISOLATED FORMnLOW SEENnHIGH MADDAnWAWnYEHn" ++
    "HIGH ~DsNOONhPLACE OF SAJDAHhEMPTY CENTRE LOW STOPuHIGH~FhROUNDED HIGH STOP WITH FILLED CENT" ++
    "REhSMALL LOW MEEMhLETTER DAL WITH INVERTED VoREH~QaEXTENDED ARABIC-INDIC DIGIT ZERO&ONE&TWO(" ++
    "HREE&FOUR(IVE&SIX(EVEN&EIGHT&NINEaARABIC LETTER SHEEN WITH DOT BELOWoDAD~PoGHAIN~PhSIGN SIND" ++
    "HI AMPERSANDtPOSTPOSITION MENhLETTER HEH WITH INVERTED VaSYRIAC END OF PARAGRAPHhSUPRALINEAR" ++
    " FULL STOPjB~QjPRALINEAR COLONjB~MhHORIZONTAL~GhCOLON SKEWED LEFTuRIGHThSUPRALINEAR COLON SK" ++
    "EWED LEFTjBLINEAR COLON SKEWED RIGHThCONTRACTIONhHARKLEAN OBELUSqMET~GqASTERISCUS"),
   (0x70F, "aSYRIAC ABBREVIATION MARKhLETTER ALAPHoSUPERSCRIPT ~FoBETHoGAMALt GARSHUNIoDALATHpOT" ++
    "LESS DALATH RISHoHEoWAWoZAINoHETHoT~Ds GARSHUNIoYUDHs HEoKAPHoLAMADHoMIMoNUNoSEMKATHoFINAL ~" ++
    "HoEoPEoREVERSED PEoSADHEoQAPHoRISHoSHINoTAWoPERSIAN BHETHwGHAMALwDHALATHhPTHAHA ABOVEoBELOWo" ++
    "DOTTEDhZQAPHA ABOVEoBELOWoDOTTEDhRBASA ABOVEnBELOWhDOTTED ZLAMA HORIZONTALuANGULARhHBASA ABO" ++
    "VEnBELOWm-ESASA DOTTEDhESASA ABOVEnBELOWhRWAHAhFEMININE DOThQUSHSHAYAhRUKKAKHAhTWO VERTICAL " ++
    "DOTS ABOVEzBELOWiHREE DOTS ABOVEsBELOWhOBLIQUE LINE ABOVEuBELOWhMUSIChBARREKH"),
   (0x74D, "aSYRIAC LETTER SOGDIAN ZHAINwKHAPHwFEaARABIC LETTER BEH WITH THREE DOTS HORIZONTALLY" ++
    " BELOWxDOT BELOW AND THREE DOTS ABOVExTHREE DOTS POINTING UPWARDS BELOW| UPWARDS BELOW AND T" ++
    "WO DOTS ABOVEyWO DOTS BELOW AND DOT~GxINVERTED SMALL V BELOWxSMALL VoHAH WITH TWO DOTS ABOVE" ++
    "yHREE DOTS POINTING UPWARDS BELOWoDAL WITH TWO DOTS VERTICALLY BELOW AND SMALL TAHxINVERTED " ++
    "SMALL V BELOWoREH WITH STROKEoSEEN WITH FOUR DOTS ABOVEoAIN WITH TWO~LyHREE DOTS POINTING DO" ++
    "WNWARD~HyWO DOTS VERTICALLY~GoFEH WITH TWO DOTS BELOWyHREE DOTS POINTING UPWARD~HoKEHEH WITH" ++
    " DOT ABOVEzTHREE DOTS~G;POINTING UPWARDS BELOWoMEEM WITH DOT ABOVE&BELOWoNOON WITH TWO DOTS~" ++
    "GySMALL TAH)VoLAM WITH BARoREH WITH TWO DOTS VERTICALLY ABOVExHAMZA~GoSEEN WITH TWO DOTS VER" ++
    "TICALLY~GoHAH WITH SMALL ARABIC LETTER TAH BELOW| TAH AND TWO DOTSoSEEN WITH SMALL ARABI~ZoR" ++
    "EH WITH SMALL ARABI~ZoHAH WITH SMALL ARABIC LETTER TAH ABOVEoALEF WITH EXTENDED ARABIC-INDIC" ++
    " DIGIT TWO~G|DIC DIGIT THREE~GoFARSI YEH WITH EXTENDED ARABIC-INDIC DIGIT TWO~G|IC-INDIC DIG" ++
    "IT THREE~G|IC-INDIC DIGIT FOUR BELOWoWAW WITH EXTENDED ARABIC-INDIC DIGIT TWO ABOVE|IC DIGIT" ++
    " THREE~GoYEH BARREE WITH EXTENDED ARABIC-INDIC DIGIT TWO~G|BIC-INDIC DIGIT THREE~GoHAH WITH " ++
    "EXTENDED ARABIC-INDIC DIGIT FOUR BELOWoSEEN WITH EXTENDED ARABIC-INDIC DIGIT FOUR ABOVEyINVE" ++
    "RTED VoKAF WITH TWO DOTS ABOVEaTHAANA LETTER HAAoSHAVIYANIoNOONUoRAAoBAAoLHAVIYANIoKAAFUoALI" ++
    "FUoVAAVUoMEEMUoFAAFUoDHAALUoTHAAoLAAMUoGAAFUpNAVIYANIoSEENUoDAVIYANIoZ~HoT~HoYAAoPAVIYANIoJ~" ++
    "HoCH~HoTTAAoHHAAoK~DoTHAALUoZAAoSHEENUpAADHUoD~FoTOoZOoAINUoGH~EoQAAFUoWAAVUhABAFILIiABA~FhI" ++
    "BI~EhEEBEE~EhUBU~EhOOBOO~EhEBE~EiYBEY~EhOBO~EiABOA~EhSUKUNhLETTER NAA"),
   (0x7C0, "aNKO DIGIT ZEROkONEkTWOlHREEkFOURlIVEkSIXlEVENkEIGHTkNINEeLETTER AlEElIlElUlOOmlDAGB" ++
    "ASINNAlNlBAlPAlTAlJAlCHAlDAlRAmRAlSAlGBAlFAlKAlLAlNA WOLOSOlMAlNYAmAlHAlWAlYAlNYA WOLOSOlJON" ++
    "A JAqCHAqRAeCOMBINING SHORT HIGH TONEuLOW~FuRISING~FoLONG DESCEND~ItHIGH~FtLOW~FtRISING~FoNA" ++
    "SALIZATION MARKoDOUBLE DOT ABOVEeHIGH TONE APOSTROPHEeLOW~QeSYMBOL OO DENNENlGBAKURU~DeCOMMA" ++
    "eEXCLAMATION MARKeLAJANYALAN"),
   (0x7FD, "aNKO DANTAYALANfOROME SIGNeTAMAN~FaSAMARITAN LETTER ALAFrBITrGAMANrDALATrIYrBAArZENr" ++
    "ITrTITrYUTrKAAFrLABATrMIMrNUNrSINGAATrINrFIrTSAADIYrQUFrRISHrSHANrTAAFkMARK INr-ALAFpOCCLUSI" ++
    "ONpDAGESHlODIFIER LETTER EPENTHETIC YUTlARK~PkVOWEL SIGN LONG EvEvOVERLONG AAv~HvAAvOVERLONG" ++
    " Av~GvAkMODIFIER LETTER SHORT AkVOWEL SIGN~IvLONG UvUkMODIFIER LETTER IkVOWEL SIGN LONG IvIv" ++
    "OvSUKUNkMARK NEQUDAA"),
   (0x830, "aSAMARITAN PUNCTUATION NEQUDAAwAFSAAQxNGEDwBAUwATMAAUwSHIYYAALAAkABBREVIATION MARKkP" ++
    "UNCTUATION MELODIC QITSAwZIQAAwQITSAwZAEFwTURUwARKAANUwSOF MASHFAATwANNAAU"),
   (0x840, "aMANDAIC LETTER HALQApABqGqDqHpUSHENNApAZpITpATTqKSArqLqMqNqSpINpAPqSZqQqRqSHqTpDUSH" ++
    "ENNApKADpAINiAFFRICATION MARKiVOCALIZ~KiGEMIN~K"),
   (0x85E, "aMANDAIC PUNCTUATION"),
   (0x860, "aSYRIAC LETTER MALAYALAM NGAyJAyNYAyTTAyNNA!NAyBHAyRAyLLA!LAySSA"),
   (0x870, "aARABIC LETTER ALEF WITH ATTACHED FATHA,TOP RIGHT ~FyRIGHT MIDDLE STROKEyLEF~PyATTAC" ++
    "HED KASRA,BOTTOM RIGHT ~F,ROUND DOT ABOVE.IGHT ROUND DOT,LEF~L,ROUND DOT BELOWyDOT ABOVEyATT" ++
    "ACHED TOP RIGHT FATHA AND ~JyRIGHT MIDDLE STROKE~OyATTACHED BOTTOM RIGHT KASRA~O,TOP RIGHT F" ++
    "ATHA AND LEFT RINGyRIGHT MIDDLE STROKE~OyATTACHED BOTTOM RIGHT KASRA~O,RIGHT HAMZA,LEF~HhTAT" ++
    "WEEL WITH OVERSTRUCK~G*WAWuTWO DOTS BELOWhLETTER THIN YEHhBASELINE ROUND DOThRAISED~KhLETTER" ++
    " NOON WITH INVERTED SMALL VoHAH WITH INVERTED SMALL V BELOWoTAH WITH DOT~GxTHREE DOTS~GoKEHE" ++
    "H WITH TWO DOTS VERTICALLY~GhVERTICAL TAIL"),
   (0x890, "aARABIC POUND MARK ABOVEiIASTRE~L"),
   (0x898, "aARABIC SMALL HIGH WORD AL-JUZnLOW WORD ISHMAAMxMAALAwTASHEELhMADDA WAAJIBhSUPERSCRI" ++
    "PT ALEF MOKHASSAShDOUBLED MADDAhHALF MADDA OVER~GhLETTER BEH WITH SMALL V BELOWxHAMZA ABOVEo" ++
    "JEEM WITH TWO DOTS~GoTAH~UoFEH WITH DOT BELOW AND THREE~LoQAF WITH DOT BELOWoLAM WITH DOUBLE" ++
    " BARoMEEM WITH THREE DOTS ABOVEoYEH WITH TWO DOTS BELOW AND HAMZA~G|DOT~GoREH WITH LOOPoWAW " ++
    "WITH DOT WITHINoROHINGYA YEHoLOW ALEFoDAL WITH THREE DOTS BELOWoSAD~WoGAF WITH INVERTED STRO" ++
    "KEoSTRAIGHT WAWoZAIN WITH INVERTED V ABOVEoAIN WITH THREE DOTS BELOWoKAF WITH DOT~GoQAF WITH" ++
    " DOT BELOW AND NO DOTS ABOVEoBEH WITH SMALL MEEM~GoP~YoTEH WITH SMALL TEH~GoREH WITH SMALL N" ++
    "OON~GoYEH WITH TWO DOTS BELOW AND~RoAFRICAN FEHwQAFwNOONoPEH WITH SMALL VoT~PpT~PpCH~PoKE~Qo" ++
    "GHAIN WITH THREE DOTS ABOVEoAFRICAN QAF~WoJEEM~W:BELOWoLAM WITH SMALL ARABIC LETTER TAH ABOV" ++
    "EoGRAFhSMALL FARSI YEHnHIGH ~JsYEH BARREE WITH TWO DOTS BELOWsWORD SAHsZAHhLARGE ROUND DOT A" ++
    "BOVExBELOWhSUKUN~GhLARGE CIRCLE~GnROUND DOT INSIDE ~MhSMALL LOW WAWnHIGH WORD AR-RUBsSADsAIN" ++
    "sQAFsNOON WITH KASRAnLOW~QnHIGH WORD ATH-THALATHAyS-SAJDAyN-NISFxSAKTAxQIFxWAQFAsFOOTNOTE MA" ++
    "RKERsSIGN SAFHAhDISPUTED END OF AYAHhTURNED DAMMA BELOWhCURLY FATHAnDAMMAnKASRAnFATHATANnDAM" ++
    "M~EnKASR~EhTONE ONE DOT ABOVEmTWO DOTS~GmLOOP~GmONE DOT BELOWmTWO DOTS~GmLOOP~GhOPEN FATHATA" ++
    "NmDAMM~EmKASR~EhSMALL HIGH WAWhFATHA WITH RINGsDOT ABOVEhKASRA WITH DOT BELOWhLEFT ARROWHEAD" ++
    " ABOVEhRIGH~RhLEFT ARROWHEAD BELOWhRIGH~RhDOUBLE RIGHT ARROWHEAD ABOVE: WITH DOThRIGHT~ZhDAM" ++
    "MA~JhMARK SIDEWAYS NOON GHUNNAaDEVANAGARI SIGN INVERTED CANDRABINDUq~LqANUSVARAqVISARGAlLETT" ++
    "ER SHORT AsAtAsItIsUtUsVOCALIC R!LsCANDRA EsSHORT EsEsAIsCANDRA OsSHORT OsOsAUsKAtHAsGAtHAsN" ++
    "GAsCAtHAsJAtHAsNYAsTTAuHAsDDAuHAsNNAsTAtHAsDAtHAsNAtNNAsPAtHAsBAtHAsMAsYAsRAtRAsLAtLAuLAsVAs" ++
    "SHAtSAtAsHAlVOWEL SIGN OExOElSIGN NUKTAqAVAGRAHAlVOWEL SIGN AAwIxIwUxUwVOCALIC R*RwCANDRA Ew" ++
    "SHORT EwEwAIwCANDRA OwSHORT OwOwAUlSIGN VIRAMAlVOWEL SIGN PRISHTHAMATRA EwAWlOMlSTRESS SIGN " ++
    "UDATTAxAN~GlGRAVE ACCENTlACUT~IlVOWEL SIGN CANDRA LONG EwUExUElLETTER QAsKHHAsG~DsZAsDDDHAsR" ++
    "HAsFAsYYAsVOCALIC RR!LLlVOWEL SIGN VOCALIC L*LlDANDAmOUBLE D~EmIGIT ZEROrONErTWOsHREErFOURsI" ++
    "VErSIXsEVENrEIGHTrNINElABBREVIATION SIGNlSIGN HIGH SPACING DOTlLETTER CANDRA AsOEtOEsAWsUEtU" ++
    "EsMARWARI DDAsZHAsHEAVY YAsGGAsJJAsGLOTTAL STOPsDDDAsBBAaBENGALI ANJIiSIGN CANDRABINDUnANUSV" ++
    "ARAnVISARGA"),
   (0x985, "aBENGALI LETTER AqApIqIpUqUpVOCALIC RxL"),
   (0x98F, "aBENGALI LETTER EpAI"),
   (0x993, "aBENGALI LETTER OpAUpKAqHApGAqHApNGApCAqHApJAqHApNYApTTArHApDDArHApNNApTAqHApDAqHApN" ++
    "A"),
   (0x9AA, "aBENGALI LETTER PAqHApBAqHApMApYApRA"),
   (0x9B2, "aBENGALI LETTER LA"),
   (0x9B6, "aBENGALI LETTER SHAqSAqApHA"),
   (0x9BC, "aBENGALI SIGN NUKTAnAVAGRAHAiVOWEL SIGN AAtIuItUuUtVOCALIC R&R"),
   (0x9C7, "aBENGALI VOWEL SIGN EtAI"),
   (0x9CB, "aBENGALI VOWEL SIGN OtAUiSIGN VIRAMAiLETTER KHANDA TA"),
   (0x9D7, "aBENGALI AU LENGTH MARK"),
   (0x9DC, "aBENGALI LETTER RRAqHA"),
   (0x9DF, "aBENGALI LETTER YYApVOCALIC RRxLLiVOWEL SIGN VOCALIC L&L"),
   (0x9E6, "aBENGALI DIGIT ZEROoONEoTWOpHREEoFOURpIVEoSIXpEVENoEIGHToNINEiLETTER RA WITH MIDDLE " ++
    "DIAGONALxLOWER~JiRUPEE MARKoSIGNiCURRENCY NUMERATOR ONE$TWO&HREE$FOUR$ONE LESS THAN THE DENO" ++
    "MINATORrDENOMINATOR SIXTEENiISSHARiGANDA MARKiLETTER VEDIC ANUSVARAiABBREVIATION SIGNiSANDHI" ++
    " MARK"),
   (0xA01, "aGURMUKHI SIGN ADAK BINDIo~FoVISARGA"),
   (0xA05, "aGURMUKHI LETTER ArAqIrIqUrU"),
   (0xA0F, "aGURMUKHI LETTER EEqAI"),
   (0xA13, "aGURMUKHI LETTER OOqAUqKArHAqGArHAqNGAqCArHAqJArHAqNYAqTTAsHAqDDAsHAqNNAqTArHAqDArHA" ++
    "qNA"),
   (0xA2A, "aGURMUKHI LETTER PArHAqBArHAqMAqYAqRA"),
   (0xA32, "aGURMUKHI LETTER LArLA"),
   (0xA35, "aGURMUKHI LETTER VAqSHA"),
   (0xA38, "aGURMUKHI LETTER SAqHA"),
   (0xA3C, "aGURMUKHI SIGN NUKTA"),
   (0xA3E, "aGURMUKHI VOWEL SIGN AAuIvIuUvU"),
   (0xA47, "aGURMUKHI VOWEL SIGN EEuAI"),
   (0xA4B, "aGURMUKHI VOWEL SIGN OOuAUjSIGN VIRAMA"),
   (0xA51, "aGURMUKHI SIGN UDAAT"),
   (0xA59, "aGURMUKHI LETTER KHHAqG~DqZAqRRA"),
   (0xA5E, "aGURMUKHI LETTER FA"),
   (0xA66, "aGURMUKHI DIGIT ZEROpONEpTWOqHREEpFOURqIVEpSIXqEVENpEIGHTpNINEjTIPPIjADDAKjIRIjURAjE" ++
    "K ONKARjSIGN YAKASHjABBREVIATION SIGN"),
   (0xA81, "aGUJARATI SIGN CANDRABINDUoANUSVARAoVISARGA"),
   (0xA85, "aGUJARATI LETTER ArAqIrIqUrUqVOCALIC RyLjVOWEL CANDRA E"),
   (0xA8F, "aGUJARATI LETTER EqAIjVOWEL CANDRA O"),
   (0xA93, "aGUJARATI LETTER OqAUqKArHAqGArHAqNGAqCArHAqJArHAqNYAqTTAsHAqDDAsHAqNNAqTArHAqDArHAq" ++
    "NA"),
   (0xAAA, "aGUJARATI LETTER PArHAqBArHAqMAqYAqRA"),
   (0xAB2, "aGUJARATI LETTER LArLA"),
   (0xAB5, "aGUJARATI LETTER VAqSHArSArAqHA"),
   (0xABC, "aGUJARATI SIGN NUKTAoAVAGRAHAjVOWEL SIGN AAuIvIuUvUuVOCALIC R(RuCANDRA E"),
   (0xAC7, "aGUJARATI VOWEL SIGN EuAIuCANDRA O"),
   (0xACB, "aGUJARATI VOWEL SIGN OuAUjSIGN VIRAMA"),
   (0xAD0, "aGUJARATI OM"),
   (0xAE0, "aGUJARATI LETTER VOCALIC RRyLLjVOWEL SIGN VOCALIC L(L"),
   (0xAE6, "aGUJARATI DIGIT ZEROpONEpTWOqHREEpFOURqIVEpSIXqEVENpEIGHTpNINEjABBREVIATION SIGNjRUP" ++
    "EE~F"),
   (0xAF9, "aGUJARATI LETTER ZHAjSIGN SUKUNpHADDAoMADDAHoTHREE-DOT NUKTA ABOVEoCIRCLE~MoTWO-~S"),
   (0xB01, "aORIYA SIGN CANDRABINDUlANUSVARAlVISARGA"),
   (0xB05, "aORIYA LETTER AoAnIoInUoUnVOCALIC RvL"),
   (0xB0F, "aORIYA LETTER EnAI"),
   (0xB13, "aORIYA LETTER OnAUnKAoHAnGAoHAnNGAnCAoHAnJAoHAnNYAnTTApHAnDDApHAnNNAnTAoHAnDAoHAnNA"),
   (0xB2A, "aORIYA LETTER PAoHAnBAoHAnMAnYAnRA"),
   (0xB32, "aORIYA LETTER LAoLA"),
   (0xB35, "aORIYA LETTER VAnSHAoSAoAnHA"),
   (0xB3C, "aORIYA SIGN NUKTAlAVAGRAHAgVOWEL SIGN AArIsIrUsUrVOCALIC R!R"),
   (0xB47, "aORIYA VOWEL SIGN ErAI"),
   (0xB4B, "aORIYA VOWEL SIGN OrAUgSIGN VIRAMA"),
   (0xB55, "aORIYA SIGN OVERLINEgAI LENGTH MARKhU~M"),
   (0xB5C, "aORIYA LETTER RRAoHA"),
   (0xB5F, "aORIYA LETTER YYAnVOCALIC RRvLLgVOWEL SIGN VOCALIC L!L"),
   (0xB66, "aORIYA DIGIT ZEROmONEmTWOnHREEmFOURnIVEmSIXnEVENmEIGHTmNINEgISSHARgLETTER WAgFRACTIO" ++
    "N ONE QUARTERtHALFpTHREE QUARTERSpONE SIXTEENTHtEIGHTHpTHREE SIXTEENTHS"),
   (0xB82, "aTAMIL SIGN ANUSVARAlVISARGA"),
   (0xB85, "aTAMIL LETTER AoAnIoInUoU"),
   (0xB8E, "aTAMIL LETTER EoEnAI"),
   (0xB92, "aTAMIL LETTER OoOnAUnKA"),
   (0xB99, "aTAMIL LETTER NGAnCA"),
   (0xB9C, "aTAMIL LETTER JA"),
   (0xB9E, "aTAMIL LETTER NYAnTTA"),
   (0xBA3, "aTAMIL LETTER NNAnTA"),
   (0xBA8, "aTAMIL LETTER NAoNNAnPA"),
   (0xBAE, "aTAMIL LETTER MAnYAnRAoRAnLAoLApLAnVAnSHAoSAoAnHA"),
   (0xBBE, "aTAMIL VOWEL SIGN AArIsIrUsU"),
   (0xBC6, "aTAMIL VOWEL SIGN EsErAI"),
   (0xBCA, "aTAMIL VOWEL SIGN OsOrAUgSIGN VIRAMA"),
   (0xBD0, "aTAMIL OM"),
   (0xBD7, "aTAMIL AU LENGTH MARK"),
   (0xBE6, "aTAMIL DIGIT ZEROmONEmTWOnHREEmFOURnIVEmSIXnEVENmEIGHTmNINEgNUMBER TENnONE HUNDREDrT" ++
    "HOUSANDgDAY SIGNgMONTH~FgYEAR~FgDEBIT~FgCRED~HgAS ABOVE~FgRUPE~GgNUMBER~F"),
   (0xC00, "aTELUGU SIGN COMBINING CANDRABINDU ABOVEnANDRABINDUmANUSVARAmVISARGAmCOMBINING ANUSV" ++
    "ARA ABOVEhLETTER ApAoIpIoUpUoVOCALIC RwL"),
   (0xC0E, "aTELUGU LETTER EpEoAI"),
   (0xC12, "aTELUGU LETTER OpOoAUoKApHAoGApHAoNGAoCApHAoJApHAoNYAoTTAqHAoDDAqHAoNNAoTApHAoDApHAo" ++
    "NA"),
   (0xC2A, "aTELUGU LETTER PApHAoBApHAoMAoYAoRApRAoLApLAqLAoVAoSHApSApAoHA"),
   (0xC3C, "aTELUGU SIGN NUKTAmAVAGRAHAhVOWEL SIGN AAsItIsUtUsVOCALIC R$R"),
   (0xC46, "aTELUGU VOWEL SIGN EtEsAI"),
   (0xC4A, "aTELUGU VOWEL SIGN OtOsAUhSIGN VIRAMA"),
   (0xC55, "aTELUGU LENGTH MARKhAI ~L"),
   (0xC58, "aTELUGU LETTER TSAoDZAoRRRA"),
   (0xC5D, "aTELUGU LETTER NAKAARA POLLU"),
   (0xC60, "aTELUGU LETTER VOCALIC RRwLLhVOWEL SIGN VOCALIC L$L"),
   (0xC66, "aTELUGU DIGIT ZEROnONEnTWOoHREEnFOURoIVEnSIXoEVENnEIGHTnNINE"),
   (0xC77, "aTELUGU SIGN SIDDHAMhFRACTION DIGIT ZERO FOR ODD POWERS OF FOURwONE~XwTWO~XxHREE~XwO" ++
    "NE FOR EVEN~PwTWO~YxHREE~YhSIGN TUUMUaKANNADA SIGN SPACING CANDRABINDUn~LnANUSVARAnVISARGAnS" ++
    "IDDHAMiLETTER AqApIqIpUqUpVOCALIC RxL"),
   (0xC8E, "aKANNADA LETTER EqEpAI"),
   (0xC92, "aKANNADA LETTER OqOpAUpKAqHApGAqHApNGApCAqHApJAqHApNYApTTArHApDDArHApNNApTAqHApDAqHA" ++
    "pNA"),
   (0xCAA, "aKANNADA LETTER PAqHApBAqHApMApYApRAqRApLAqLA"),
   (0xCB5, "aKANNADA LETTER VApSHAqSAqApHA"),
   (0xCBC, "aKANNADA SIGN NUKTAnAVAGRAHAiVOWEL SIGN AAtIuItUuUtVOCALIC R&R"),
   (0xCC6, "aKANNADA VOWEL SIGN EuEtAI"),
   (0xCCA, "aKANNADA VOWEL SIGN OuOtAUiSIGN VIRAMA"),
   (0xCD5, "aKANNADA LENGTH MARKiAI ~L"),
   (0xCDD, "aKANNADA LETTER NAKAARA POLLUpFA"),
   (0xCE0, "aKANNADA LETTER VOCALIC RRxLLiVOWEL SIGN VOCALIC L&L"),
   (0xCE6, "aKANNADA DIGIT ZEROoONEoTWOpHREEoFOURpIVEoSIXpEVENoEIGHToNINE"),
   (0xCF1, "aKANNADA SIGN JIHVAMULIYAnUPADHMAN~D"),
   (0xD00, "aMALAYALAM SIGN COMBINING ANUSVARA ABOVEqANDRABINDUpANUSVARApVISARGAkLETTER VEDIC AN" ++
    "USVARArAsArIsIrUsUrVOCALIC RzL"),
   (0xD0E, "aMALAYALAM LETTER EsErAI"),
   (0xD12, "aMALAYALAM LETTER OsOrAUrKAsHArGAsHArNGArCAsHArJAsHArNYArTTAtHArDDAtHArNNArTAsHArDAs" ++
    "HArNAsNNArPAsHArBAsHArMArYArRAsRArLAsLAtLArVArSHAsSAsArHArTTTAkSIGN VERTICAL BAR VIRAMApCIRC" ++
    "UL~JpAVAGRAHAkVOWEL SIGN AAvIwIvUwUvVOCALIC R)R"),
   (0xD46, "aMALAYALAM VOWEL SIGN EwEvAI"),
   (0xD4A, "aMALAYALAM VOWEL SIGN OwOvAUkSIGN VIRAMAkLETTER DOT REPHkSIGN PARA"),
   (0xD54, "aMALAYALAM LETTER CHILLU MyYyLLLkAU LENGTH MARKkFRACTION ONE ONE-HUNDRED-AND-SIXTIET" ++
    "HxFOR~FtTHREE EIGHTIETHStONE TWENTIETHyENTHtTHREE TWENTIETHStONE FIFTHkLETTER ARCHAIC IIrVOC" ++
    "ALIC RRzLLkVOWEL SIGN VOCALIC L)L"),
   (0xD66, "aMALAYALAM DIGIT ZEROqONEqTWOrHREEqFOURrIVEqSIXrEVENqEIGHTqNINEkNUMBER TENrONE HUNDR" ++
    "EDvTHOUSANDkFRACTION ONE QUARTERxHALFtTHREE QUARTERStONE SIXTEENTHxEIGHTHtTHREE SIXTEENTHSkD" ++
    "ATE MARKkLETTER CHILLU NNzyRRyLzLyK"),
   (0xD81, "aSINHALA SIGN CANDRABINDUnANUSVARAYAnVISARG~D"),
   (0xD85, "aSINHALA LETTER AYANNAqA~FqE~FrE~FpI~FqI~FpU~FqU~FpIR~GsU~FqL~GsU~FpE~FqE~FpAI~FpO~F" ++
    "qO~FpAU~F"),
   (0xD9A, "aSINHALA LETTER ALPAPRAANA KAYANNApMAHA~PpALPAPRAANA G~GpMAHA~PpKANTAJA NAASIKYAYApS" ++
    "ANYAKA GAYANNApALPAPRAANA C~GpMAHA~PpALPAPRAANA J~GpMAHA~PpTAALUJA NAASIKYAYAxSANYOOGA NAAK~" ++
    "HpSANYAKA JAYANNApALPAPRAANA TT~GpMAHA~QpALPAPRAANA DD~GpMAHA~QqUURDHAJA N~GpSANYAKA DD~GpAL" ++
    "PAPRAANA T~GpMAHA~PpALPAPRAANA D~GpMAHA~PpDANTAJA N~G"),
   (0xDB3, "aSINHALA LETTER SANYAKA DAYANNApALPAPRAANA P~GpMAHA~PpALPAPRAANA B~GpMAHA~Pr~FpAMBA " ++
    "B~GpY~GpR~G"),
   (0xDBD, "aSINHALA LETTER DANTAJA LAYANNA"),
   (0xDC0, "aSINHALA LETTER VAYANNApTAALUJA S~GpMUURDHA~KpDANT~LpH~GpMUURDHAJA L~GpF~G"),
   (0xDCA, "aSINHALA SIGN AL-LAKUNA"),
   (0xDCF, "aSINHALA VOWEL SIGN AELA-PILLAtKETTI AED~HtDIGA~LtKETTI IS~GtDIGA~JtKETTI PAA~G"),
   (0xDD6, "aSINHALA VOWEL SIGN DIGA PAA-PILLA"),
   (0xDD8, "aSINHALA VOWEL SIGN GAETTA-PILLAtKOMBUVAtDIGA ~HtKOMBU DEKAyVA HAA AELA-PILLA*DIGA ~" ++
    "K*GAYANUKITTAt~L"),
   (0xDE6, "aSINHALA LITH DIGIT ZEROtONEtTWOuHREEtFOURuIVEtSIXuEVENtEIGHTtNINE"),
   (0xDF2, "aSINHALA VOWEL SIGN DIGA GAETTA-PILLA!YANUKITTAiPUNCTUATION KUNDDALIYA"),
   (0xE01, "aTHAI CHARACTER KO KAIqHO KHAIvUATvWAIvONtRAKHANGpNGO NGUpCHO CHANvINGvANGpSO SOpCHO" ++
    " CHOEpYO YINGpDO CHADApTO PATAKqHO THANtNANGMONTHOtPHUTHAOpNO NENpDO DEKpTO TAOqHO THUNGvAHA" ++
    "NvONGpNO NUpBO BAIMAIpPO PLAqHO PHUNGpFO FApPHO PHANpFO FANpPHO SAMPHAOpMO MApYO YAKpRO RUAq" ++
    "UpLO LINGqUpWO WAENpSO SALAsRUSIsSUApHO HIPpLO CHULApO ANGpHO NOKHUKpPAIYANNOIpSARA ApMAI HA" ++
    "N-AKATpSARA AAvMuIvIuUEwEvvUpPHINTHU"),
   (0xE3F, "aTHAI CURRENCY SYMBOL BAHTgHARACTER SARA EuAEuOuAI MAIMUAN$ALAIpLAKKHANGYAOpMAIYAMOK" ++
    "sTAIKHUs EKtTHOuRItCHATTAWApTHANTHAKHATpNIKHAHITpYAMAKKANpFONGMANfDIGIT ZEROlONElTWOmHREElFO" ++
    "URmIVElSIXmEVENlEIGHTlNINEfCHARACTER ANGKHANKHUpKHOMUT"),
   (0xE81, "aLAO LETTER KOmHO SUNG"),
   (0xE84, "aLAO LETTER KHO TAM"),
   (0xE86, "aLAO LETTER PALI GHAlNGOlCOlPALI CHAlSO TAM"),
   (0xE8C, "aLAO LETTER PALI JHAlNYOlPALI NYAqTTAsHAqDDAsHAqNNAlDOlTOmHO SUNGpTAMlPALI DHAlNOlBO" ++
    "lPOmHO SUNGlFO TAMlPH~FlFO SUNGlPALI BHAlMOlYOlLO LING"),
   (0xEA5, "aLAO LETTER LO LOOT"),
   (0xEA7, "aLAO LETTER WOlSANSKRIT SHAvSAmO SUNGlH~GlPALI LLAlOlHO TAMeELLIPSISeVOWEL SIGN ApMA" ++
    "I KANpAAqMpIqIpYqYpUqUeSIGN PALI VIRAMAeVOWEL SIGN MAI KONeSEMIVOWEL SIGN LOtNYO"),
   (0xEC0, "aLAO VOWEL SIGN EqIpOpAYqI"),
   (0xEC6, "aLAO KO LA"),
   (0xEC8, "aLAO TONE MAI EKnTHOoInCATAWAeCANCELLATION MARKeNIGGAHITA"),
   (0xED0, "aLAO DIGIT ZEROkONEkTWOlHREEkFOURlIVEkSIXlEVENkEIGHTkNINE"),
   (0xEDC, "aLAO HO NOhMOeLETTER KHMU GOqNYO"),
   (0xF00, "aTIBETAN SYLLABLE OMiMARK GTER YIG MGO TRUNCATED A!-UM RNAM BCAD MA)GTER TSHEG~DnINI" ++
    "TIAL YIG MGO MDUN~DnCLOSING YIG MGO SGAB~DoARET YIG MGO PHUR SHAD~DnYIG MGO TSHEG~InSBRUL SH" ++
    "ADnBSKUR YIG MGOoKA- SHOG~InINTERSYLLABIC TSHEGnDELIMITER TSHEG BSTARnSHADnNYIS ~EnTSHEG~FnN" ++
    "YIS ~KnRIN CHEN SPUNGS~FoGYA GRAM~FnCARET -DZUD RTAGS ME LONG CANnGTER TSHEGiLOGOTYPE SIGN C" ++
    "HAD RTAGSwLHAG~GiASTROLOGICAL SIGN SGRA GCAN -CHAR~G!-KHYUD PA!SDONG TSHUGSiSIGN RDEL DKAR G" ++
    "CIGyNYISySUMsNAG GCIGxNYISsDKAR RDEL NAGiDIGIT ZEROoONEoTWOpHREEoFOURpIVEoSIXpEVENoEIGHToNIN" ++
    "EoHALF ONEtTWOuHREEtFOURuIVEtSIXuEVENtEIGHTtNINEtZEROiMARK BSDUS RTAGSnNGAS BZUNG NYI ZLAnCA" ++
    "RET -DZUD RTAGS BZHI MIG CANnNGAS BZUNG SGOR RTAGSnCHE MGOnTSA -PHRUnGUG RTAGS GYONzASnANG K" ++
    "HANG GYONzASiSIGN YAR TSHESnM~IiLETTER KAqHApGAqHApNGApCAqHApJA"),
   (0xF49, "aTIBETAN LETTER NYApTTArHApDDArHApNNApTAqHApDAqHApNApPAqHApBAqHApMApTSArHApDZArHApWA" ++
    "pZHAqAp-ApYApRApLApSHAqSAqApHApApKSSApFIXED-FORM RApKKApRRA"),
   (0xF71, "aTIBETAN VOWEL SIGN AAtIuItUuUtVOCALIC R&R$L&LtEuEtOuOiSIGN RJES SU NGA ROoNAM BCADi" ++
    "VOWEL SIGN REVERSED I(IiSIGN NYI ZLA NAA DAnSNA LDANiMARK HALANTAnPALUTAiSIGN LCI RTAGSnYANG" ++
    "~GnLCE TSA CANnMCHU~EnGRU CAN RGYINGSrMED~InINVERTED MCHU CANjUBJOINED SIGN LCE TSA~ExMCHU~E" ++
    "xINVERTED ~IsLETTER KA!HAzGA!HAzNGAzCA!HAzJA"),
   (0xF99, "aTIBETAN SUBJOINED LETTER NYAzTTA$HAzDDA$HAzNNAzTA!HAzDA!HAzNAzPA!HAzBA!HAzMAzTSA$HA" ++
    "zDZA$HAzWAzZHA!Az-AzYAzRAzLAzSHA!SA!AzHAzAzKSSAzFIXED-FORM WA;YA;RA"),
   (0xFBE, "aTIBETAN KU RU KHAr BZHI MIG CANiCANTILLATION SIGN HEAVY BEAT!LIGHT~F!CANG TE-U!SBUB" ++
    " -CHALiSYMBOL DRIL BUpRDO RJEpPADMA GDANpRDO RJE RGYA GRAMpPHUR PApNOR BUv NYIS -KHYILwGSUM~" ++
    "HwBZHI~H"),
   (0xFCE, "aTIBETAN SIGN RDEL NAG RDEL DKARwGSUMiMARK BSKA- SHOG GI MGO RGYANnMNYAM YI~OnNYIS T" ++
    "SHEGnINITIAL BRDA RNYING YIG MGO MDUN MAnCLOSING BRDA RNYING YIG MGO SGAB~DaRIGHT-FACING SVA" ++
    "STI SIGNaLEF~UaRIGHT-FACING SVASTI SIGN WITH DOTSaLEFT-FAC~ZaTIBETAN MARK LEADING MCHAN RTAG" ++
    "SnTRAIL~P")]

/-- The names of characters from U+1000 to U+1FFF. -/
def syllables : List (Nat × String) :=
  [(0x1000, "aMYANMAR LETTER KAqHApGAqHApNGApCAqHApJAqHApNYAqNYApTTArHApDDArHApNNApTAqHApDAqHApN" ++
    "ApPAqHApBAqHApMApYApRApLApWApSApHApLLApApSHAN ApIqIpUqUpEpMON EpOpAUiVOWEL SIGN TALL AAtAAtI" ++
    "uItUuUtEtAItMON IIxOtE ABOVEiSIGN ANUSVARAnDOT BELOWnVISARGApRAMAnASATiCONSONANT SIGN MEDIAL" ++
    " YA)RA)WA)HAiLETTER GREAT SAiDIGIT ZEROoONEoTWOpHREEoFOURpIVEoSIXpEVENoEIGHToNINEiSIGN LITTL" ++
    "E SECTIONn~HjYMBOL LOCATIVEpCOMPLETEDpAFOREMENTIONEDpGENITIVEiLETTER SHAqSApVOCALIC RyRxLyLi" ++
    "VOWEL SIGN VOCALIC R&R$L&LiLETTER MON NGAtJHAtBBAvEiCONSONANT SIGN MON MEDIAL NA.MA.LAiLETTE" ++
    "R SGAW KAREN SHAiVOWEL SIGN SGAW KAREN EUiTONE MARK SGAW KAREN HATHI(KE PHOiLETTER WESTERN P" ++
    "WO KAREN THA,PWAiVOWEL SIGN WESTERN PWO KAREN EU<UEiSIGN WESTERN PWO KAREN TONE-1;2;3;4;5iLE" ++
    "TTER EASTERN PWO KAREN NNA,YWA,GHWAiVOWEL SIGN GEBA KAREN ItKAYAH OEzUzEEiLETTER SHAN KAvHAu" ++
    "GAuCAuZAuNYAuDAuNAuPHAuFAuBAuTHAuHAiCONSONANT SIGN SHAN MEDIAL WAiVOWEL SIGN SHAN AAyEz ABOV" ++
    "EyFINAL YiSIGN SHAN TONE-2x3x5x6sCOUNCIL TONE-2*3!EMPHATIC TONEiLETTER RUMAI PALAUNG FAiSIGN" ++
    " RUMAI PALAUNG TONE-5jHAN DIGIT ZEROtONEtTWOuHREEtFOURuIVEtSIXuEVENtEIGHTtNINEjIGN KHAMTI TO" ++
    "NE-1z3iVOWEL SIGN AITON A!IiSYMBOL SHAN ONEuEXCLAMATIONaGEORGIAN CAPITAL LETTER ANyBANyGANyD" ++
    "ONyENyVINyZENyTANyINyKANyLASyMANyNARyONyPARyZHARyRAEySANyTARyUNyPHARyK~DyGHANyQARySHINyC~DzA" ++
    "NyJILyCILzHARyXANyJHANyHAEzEzIEyWEyHARzOE"),
   (0x10C7, "aGEORGIAN CAPITAL LETTER YN"),
   (0x10CD, "aGEORGIAN CAPITAL LETTER AEN"),
   (0x10D0, "aGEORGIAN LETTER ANqBANqGANqDONqENqVINqZENqTANqINqKANqLASqMANqNARqONqPARqZHARqRAEqS" ++
    "ANqTARqUNqPHARqK~DqGHANqQARqSHINqC~DrANqJILqCILrHARqXANqJHANqHAErErIEqWEqHARrOEqFIqYNqELIFIq" ++
    "TURNED GANqAINjPARAGRAPH SEPARATORaMODIFIER LETTER GEORGIAN NARaGEORGIAN LETTER AENqHARD SIG" ++
    "NqLABIAL~FaHANGUL CHOSEONG KIYEOKqSSANG~GqNIEUNqTIKEUTqSSANG~GqRIEULqMIEUMqPIEUPqSSANG~FrIOS" ++
    "rSANGS~DqIEUNGqCIEUCqSSANG~FqCHIEUCHqKHIEUKHqTHIEUTHqPHIEUPHqHIEUHqNIEUN-KIYEOKqSSANGNIEUNqN" ++
    "IEUN-TIKEUTwPIEUPqTIKEUT-KIYEOKqRIEUL-NIEUNqSSANGRIEULqRIEUL-HIEUHqKAPYEOUNRIEULqMIEUM-PIEUP" ++
    "qKAPYEOUNMIEUMqPIEUP-KIYEOKwNIEUNwTIKEUTwSIOS!-KIYEOK$TIKEUT$PIEUPxSANGSIOSxIOS-CIEUCw~FxHIE" ++
    "UCHwTHIEUTHwPHIEUPHqKAPYEOUNPIEUPySSANG~FqSIOS-KIYEOKvNIEUNvTIKEUTvRIEULvMIEUMvPIEUP!-KIYEOK" ++
    "vSSANGSIOSvIEUNGvCIEUCwHIEUCHvKHIEUKHvTHIEUTHvPHIEUPHvHIEUHqCHITUEUMSIOSzSANGS~DrEONGCHIEUM~" ++
    "E&SANGS~DqPAN~EqIEUNG-KIYEOKwTIKEUTwMIEUMwPIEUPwSIOSwPAN~EqSSANGIEUNGqIEUNG-CIEUCxHIEUCHwTHI" ++
    "EUTHwPHIEUPHqYESIEUNGqCIEUC-~FrHITUEUMCIEUCySSANG~FrEONGCHIEUM~F$SSANG~FrHIEUCH-KHIEUKHyHIEU" ++
    "HtTUEUMCHIEUCHrEONGCHI~KqPHIEUPH-PIEUPqKAPYEOUNPHIEUPHqSSANGHIEUHqYEORIN~FqKIYEOK-TIKEUTqNIE" ++
    "UN-SIOSwCIEUCwHIEUHqTIKEUT-RIEULqFILLERhJUNG~MrAsErYAtErEOsrYEOtrOrWAtErOErYOrUrWEOtsIrYUrEU" ++
    "rYIrIrA-OtUrYA-OuYOrEO-OuUuEUrYEO-OvUrO-EOutYEtOtUrYO-YAwEvEOuOuIrU-AuEtEO-EUtYEtUrYU-AuEOvu" ++
    "YEOwuUuIrEU-UuEUrYI-UrI-AtYAtOtUtEUtARAEAr~Fw-EOxUxIrSSANGARAEArA-EUrYA-UsEO-YAr~EvEiONGSEON" ++
    "G KIYEOKrSSANG~GrKIYEOK-SIOSrNIEUNw-CIEUCxHIEUHrTIKEUTrRIEULw-KIYEOKxMIEUMxPIEUPxSIOSxTHIEUT" ++
    "HxPHIEUPHxHIEUHrMIEUMrPIEUPw-SIOSr~EsSANGS~DrIEUNGrCIEUCsHIEUCHrKHIEUKHrTHIEUTHrPHIEUPHrHIEU" ++
    "HrKIYEOK-RIEULySIOS-KIYEOKrNIEUN~HxTIKEUTxSIOSxPAN~ExTHIEUTHrTIKEUT-KIYEOKyRIEULrRIEUL-KIYEO" ++
    "K-SIOSxNIEUNxTIKEUT(-HIEUHrSSANGRIEULrRIEUL-MIEUM-KIYEOK(SIOSxPIEUP~F(HIEUHxKAPYEOUNPIEUPxSS" ++
    "ANGSIOSxPAN~ExKHIEUKHxYEORINHIEUHrMIEUM-KIYEOKxRIEULxPIEUPxSIOSySANGS~DxPAN~ExCHIEUCHxHIEUHr" ++
    "KAPYEOUNMIEUMrPIEUP-RIEULxPHIEUPHxHIEUHrKAPYEOUNPIEUPrSIOS-KIYEOKwTIKEUTwRIEULwPIEUPrPANSIOS" ++
    "rIEUNG-KIYEOKxSSANG~GrSSANGIEUNGrIEUNG-KHIEUKHrYESIEUNGz-SIOS!PAN~ErPHIEUPH-PIEUPrKAPYEOUNPH" ++
    "IEUPHrHIEUH-NIEUNxRIEULxMIEUMxPIEUPrYEORINHIEUHrKIYEOK-NIEUNyPIEUPyCHIEUCHyKHIEUKHyHIEUHrSSA" ++
    "NGNIEUNaETHIOPIC SYLLABLE HAtUtItAAtEEutOuAsLAtUtItAAtEEutOtWAsHHAuUuIuAAuEEvuOuWAsMAtUtItAA" ++
    "tEEutOtWAsSZAuUuIuAAuEEvuOuWAsRAtUtItAAtEEutOtWAsSAtUtItAAtEEutOtWAtHAuUuIuAAuEEvuOuWAsQAtUt" ++
    "ItAAtEEutOuAtWA"),
   (0x124A, "aETHIOPIC SYLLABLE QWIuAAuEEv"),
   (0x1250, "aETHIOPIC SYLLABLE QHAuUuIuAAuEEvuO"),
   (0x1258, "aETHIOPIC SYLLABLE QHWA"),
   (0x125A, "aETHIOPIC SYLLABLE QHWIvAAvEEw"),
   (0x1260, "aETHIOPIC SYLLABLE BAtUtItAAtEEutOtWAsVAtUtItAAtEEutOtWAsTAtUtItAAtEEutOtWAsCAtUtIt" ++
    "AAtEEutOtWAsXAtUtItAAtEEutOuAtWA"),
   (0x128A, "aETHIOPIC SYLLABLE XWIuAAuEEv"),
   (0x1290, "aETHIOPIC SYLLABLE NAtUtItAAtEEutOtWAtYAuUuIuAAuEEvuOuWAsGLOTTAL A!U!I!AA!EE$!O!WAs" ++
    "KAtUtItAAtEEutOuAtWA"),
   (0x12B2, "aETHIOPIC SYLLABLE KWIuAAuEEv"),
   (0x12B8, "aETHIOPIC SYLLABLE KXAuUuIuAAuEEvuO"),
   (0x12C0, "aETHIOPIC SYLLABLE KXWA"),
   (0x12C2, "aETHIOPIC SYLLABLE KXWIvAAvEEw"),
   (0x12C8, "aETHIOPIC SYLLABLE WAtUtItAAtEEutOuAsPHARYNGEAL A(U(I(AA(EE)(O"),
   (0x12D8, "aETHIOPIC SYLLABLE ZAtUtItAAtEEutOtWAtHAuUuIuAAuEEvuOuWAsYAtUtItAAtEEutOuAsDAtUtItA" ++
    "AtEEutOtWAtDAuUuIuAAuEEvuOuWAsJAtUtItAAtEEutOtWAsGAtUtItAAtEEutOuAtWA"),
   (0x1312, "aETHIOPIC SYLLABLE GWIuAAuEEv"),
   (0x1318, "aETHIOPIC SYLLABLE GGAuUuIuAAuEEvuOuWAAsTHAuUuIuAAuEEvuOuWAsCHAuUuIuAAuEEvuOuWAsPHA" ++
    "uUuIuAAuEEvuOuWAsTSAuUuIuAAuEEvuOuWAtZAuUuIuAAuEEvuOvAsFAtUtItAAtEEutOtWAsPAtUtItAAtEEutOtWA" ++
    "sRYAsMYAsFYA"),
   (0x135D, "aETHIOPIC COMBINING GEMINATION AND VOWEL LENGTH MARKt~RtGEMINATION~FjSEC~JjWORDSPAC" ++
    "EjFULL STOPjCOMMAjSEMICOLONj~FjPREFACE ~FjQUESTION MARKjPARAGRAPH SEPARATORjDIGIT ONEpTWOqHR" ++
    "EEpFOURqIVEpSIXqEVENpEIGHTpNINEjNUMBER TENrWENTYrHIRTYqFO~DrIFTYqSIXTYrEVENTYqEIGHTYqNINETYq" ++
    "HUNDREDqTEN THOUSAND"),
   (0x1380, "aETHIOPIC SYLLABLE SEBATBEIT MWAsMWIuEEvsSEBATBEIT BWAsBWIuEEvsSEBATBEIT FWAsFWIuEE" ++
    "vsSEBATBEIT PWAsPWIuEEvjTONAL MARK YIZETuDERETuRIKRIKuSHORT ~GuDIFATuKENATuCHIRETuHIDETuDERE" ++
    "T-~FuKURT"),
   (0x13A0, "aCHEROKEE LETTER AqEqIqOqUqVqGAqKAqGErIrOrUrVqHArErIrOrUrVqLArErIrOrUrVqMArErIrOrUq" ++
    "NAqHNAqNAHrErIrOrUrVqQUAsEsIsOsUsVqSArrErIrOrUrVqDAqTAqDEqTEqDIqTIqDOrUrVrLAqTLAsEsIsOsUsVrS" ++
    "AsEsIsOsUsVqWArErIrOrUrVqYArErIrOrUrVqMV"),
   (0x13F8, "aCHEROKEE SMALL LETTER YExIxOxUxVwMV"),
   (0x1400, "aCANADIAN SYLLABICS HYPHENtEtAAItIuItOuOtY-CREE OOtCARRIER EE$ItAuAtWEvST-CREE WEuI" ++
    "uEST-CREE WIuIIuEST-CREE WIIuOuEST-CREE WOuOOuEST-CREE WOOtNASKAPI~EtWAuEST-CREE WAuAAuEST-C" ++
    "REE WAAtNASKAPI~EtAItY-CREE WtGLOTTAL STOPtFINAL ACUTEzGRAVEzBOTTOM HALF RINGzTOP~KzRIGHT~K$" ++
    "NGzDOUBLE ACUTE+SHORT VERTICAL STROKESzMIDDLE DOTzSHORT HORIZONTAL STROKEzPLUSzDOWN TACKtENt" ++
    "INtONtANtPEuAAIuIvIuOvOtY-CREE ~DtCARRIER HEE&ItPAvAuWEtWEST-CREE ~DtPWItWEST-CREE ~DtPWIItW" ++
    "EST-CREE ~EtPWOtWEST-CREE ~DtPWOOtWEST-CREE ~EtPWAtWEST-CREE ~DtPWAAtWEST-CREE ~EtY~KtPtWEST" ++
    "-CREE PtCARRIER HtTEuAAIuIvIuOvOtY-CREE ~DtCARRIER DEE&ItTAvAuWEtWEST-CREE ~DtTWItWEST-CREE " ++
    "~DtTWIItWEST-CREE ~EtTWOtWEST-CREE ~DtTWOOtWEST-CREE ~EtTWAtWEST-CREE ~DtTWAAtWEST-CREE ~EtN" ++
    "ASKAPI~FtTuTEvIvOvAtKEuAAIuIvIuOvOtY-CREE ~DtKAvAuWEtWEST-CREE ~DtKWItWEST-CREE ~DtKWIItWEST" ++
    "-CREE ~EtKWOtWEST-CREE ~DtKWOOtWEST-CREE ~EtKWAtWEST-CREE ~DtKWAAtWEST-CREE ~EtNASKAPI~FtKuW" ++
    "tSOUTH-SLAVEY KEH,IH,OH,AHtCEuAAIuIvIuOvOtY-CREE ~DtCAvAuWEtWEST-CREE ~DtCWItWEST-CREE ~DtCW" ++
    "IItWEST-CREE ~EtCWOtWEST-CREE ~DtCWOOtWEST-CREE ~EtCWAtWEST-CREE ~DtCWAAtWEST-CREE ~EtNASKAP" ++
    "I~FtCtSAYISI THtMEuAAIuIvIuOvOtY-CREE ~DtMAvAuWEtWEST-CREE ~DtMWItWEST-CREE ~DtMWIItWEST-CRE" ++
    "E ~EtMWOtWEST-CREE ~DtMWOOtWEST-CREE ~EtMWAtWEST-CREE ~DtMWAAtWEST-CREE ~EtNASKAPI~FtMtWEST-" ++
    "CREE MtMHtATHAPASCAN MtSAYISI MtNEuAAIuIvIuOvOtY-CREE ~DtNAvAuWEtWEST-CREE ~DtNWAtWEST-CREE " ++
    "~DtNWAAtWEST-CREE ~EtNASKAPI~FutCARRIER NGtNHtLEuAAIuIvIuOvOtY-CREE ~DtLAvAuWEtWEST-CREE ~Dt" ++
    "LWItWEST-CREE ~DtLWIItWEST-CREE ~EtLWOtWEST-CREE ~DtLWOOtWEST-CREE ~EtLWAtWEST-CREE ~DtLWAAt" ++
    "WEST-CREE ~EtLtWEST-CREE LtMEDIAL LtSEuAAIuIvIuOvOtY-CREE ~DtSAvAuWEtWEST-CREE ~DtSWItWEST-C" ++
    "REE ~DtSWIItWEST-CREE ~EtSWOtWEST-CREE ~DtSWOOtWEST-CREE ~EtSWAtWEST-CREE ~DtSWAAtWEST-CREE " ++
    "~EtNASKAPI~FtStATHAPASCAN StSWtBLACKFOOT StMOOSE-CREE SKtNASKAPI SKW&-W&PWA&TWA&KWA&CWAtSHEv" ++
    "IwIvOwOvAwAvWEtWEST-CREE ~EtSHWItWEST-CREE ~EtSHWIItWEST-CREE ~FtSHWOtWEST-CREE ~EtSHWOOtWES" ++
    "T-CREE ~FtSHWAtWEST-CREE ~EtSHWAAtWEST-CREE ~FtSHtYEuAAIuIvIuOvOu-CREE YOOuAvAuWEtWEST-CREE " ++
    "~DtYWItWEST-CREE ~DtYWIItWEST-CREE ~EtYWOtWEST-CREE ~DtYWOOtWEST-CREE ~EtYWAtWEST-CREE ~DtYW" ++
    "AAtWEST-CREE ~EtNASKAPI~FtYtBIBLE-CREE YtWEST~HtSAYISI YItREu-CREE REtWEST-CREE LEtRAAIuIvIu" ++
    "OvOtWEST-CREE LOtRAvAtWEST-CREE LAtRWAAtWEST-CREE ~EtRtWEST-CREE RtMEDIAL RtFEuAAIuIvIuOvOuA" ++
    "vAuWAAtWEST-CREE ~EtFtTHEtN-CREE ~DtTHItN-CREE ~DtTHIItN-CREE ~EtTHOwOvAwAvWAAtWEST-CREE ~Ft" ++
    "THuTHEwIwOwAwuYEvIvOvAtNUNAVIK HE&I(I&O(O&A(A&yUT HtHKtQAAIuIvIuOvOuAvAutTLHEwIwOwAtWEST-CRE" ++
    "E RE)I)O)AtNGAAIvIwIvOwOvAwAvuNGtSAYISI SHE&I&O&AtWOODS-CREE THE+I+O+A+tLHIwIvOwOvAwAvtTH-CR" ++
    "EE THE(I)I(O)O(A)A(tAIVILIK BtBLACKFOOT E(I(O(A(WE)I)O)A(NE)I)O)A(KE)I)O)AtSAYISI HE$I$O$AtC" ++
    "ARRIER GHU(O(E)E(I(A$RU&O&E(E&I&A$WU&O&E(E&I&A$HWU(O(E)E(I(A$THU(O(E)E(I(A&TU(O(E)E(I(A$PU&O" ++
    "&E(E&I&A&$GU&O&E(E&I&A$KHU(O(E)E(I(A&KU(O(E)E(I(A($NU&O&E(E&I&A$MU&O&E(E&I&A$YU&O&E(E&I&A$JU" ++
    "tSAYISI~DtCARRIER JO&E(E&ItSAYISI~DtCARRIER JA&JU(O(E)E(I(A$LU&O&E(E&I&A$DLU(O(E)E(I(A$LHU(O" ++
    "(E)E(I(A$TLHU)O)E*E)I)A(U(O(E)E(I(A$ZU&O&E(E&I&A&$INITIAL Z$DZU(O(E)E(I(A$SU&O&E(E&I&A&HU(O(" ++
    "E)E(I(A($TSU(O(E)E(I(A$CHU(O(E)E(I(A$TTSU)O)E*E)I)AuHI SIGNtFULL STOPtQAItNGAIuNGIxIwOxOwAxA" ++
    "tWOODS-CREE THWEE,I.I,O.O,A.A)FINAL THtBLACKFOOT WaOGHAM SPACE MARKgLETTER BEITHnLUISnFEARNn" ++
    "SAILnNIONnUATHnDAIRnTINNEnCOLLoEIRTnMUINnGORTnNGEADALnSTRAIFnRUISnAILMnONNnURnEADHADHnIO~FnE" ++
    "AB~EnORnUILLEANNnIFINnEAMHANCHOLLnPEITHgFEATHER MARKgREVERSED ~M"),
   (0x16A0, "aRUNIC LETTER FEHU FEOH FE FnVnURUZ UR UnYRonWnTHURISAZ THURS THORNnETHnANSUZ AnOS " ++
    "OnAC AoESCnLONG-BRANCH-OSS OnSHORT-TWIG~GnOoEoNnRAIDO RAD REID RnKAUNAnCENnKAUN KnGnENGnGEBO" ++
    " GYFU GoARnWUNJO WYNN WnHAGLAZ HpEGL HnLONG-BRANCH-HAGAL~DnSHORT-TWIG~JnNAUDIZ NYD NAUD NnSH" ++
    "ORT-TWIG-~GnDOTTED-NnISAZ IS ISS InEnJERAN JnGERnLONG-BRANCH-AR AEnSHORT-TWIG-AR AnIWAZ EOHn" ++
    "PERTHO PEORTH PnALGIZ EOLHXnSOWILO SoIGEL LONG-BRANCH-SOL SoHORT-TWIG~GnCnZnTIWAZ TIR TYR Tn" ++
    "SHORT-TWIG-~FnDnBERKANAN BEORC BJARKAN BnSHORT-TWIG-~JnDOTTED-PnOPEN-PnEHWAZ EH EnMANNAZ MAN" ++
    " MnLONG-BRANCH-MADR MnSHORT-TWIG~HnLAUKAZ LAGU LOGR LnDOTTED-LnINGWAZqnDAGAZ DAEG DnOTHALAN " ++
    "ETHEL OnEARnIORnCWEORTHoALCoE~DnSTANnLONG-BRANCH-YRnSHORT-TWIG~DnICELANDIC~DnQnXgSINGLE PUNC" ++
    "TUATIONgMULTIP~OgCROSS~MgARLAUG SYMBOLgTVIMADUR~HgBELGTHO~IgLETTER KnSHnOOnFRANKS CASKET OS$" ++
    "IS$EH$AC&ESC"),
   (0x1700, "aTAGALOG LETTER ApIpUpKApGApNGApTApDApNApPApBApMApYApRApLApWApSApHAiVOWEL SIGN ItUi" ++
    "SIGN VIRAMAnPAMUDPOD"),
   (0x171F, "aTAGALOG LETTER ARCHAIC RAaHANUNOO LETTER ApIpUpKApGApNGApTApDApNApPApBApMApYApRApL" ++
    "ApWApSApHAiVOWEL SIGN ItUiSIGN PAMUDPODaPHILIPPINE SINGLE PUNCTUATIONlDOUB~O"),
   (0x1740, "aBUHID LETTER AnInUnKAnGAnNGAnTAnDAnNAnPAnBAnMAnYAnRAnLAnWAnSAnHAgVOWEL SIGN IrU"),
   (0x1760, "aTAGBANWA LETTER AqIqUqKAqGAqNGAqTAqDAqNAqPAqBAqMAqYA"),
   (0x176E, "aTAGBANWA LETTER LAqWAqSA"),
   (0x1772, "aTAGBANWA VOWEL SIGN IuU"),
   (0x1780, "aKHMER LETTER KAoHAoOoHOnNGOnCAoHAoOoHOnNYOnDAnTTHAnDOnTTHOnNNOnTAoHAoOoHOnNOnBAnPH" ++
    "AoOoHOnMOnYOnROnLOnVOnSHAoSOoAnHAnLAnQAgINDEPENDENT VOWEL QAQ!AzI!IzU!K!U$VyRY!YyLY!YyQEzAIz" ++
    "OO TYPE ONE,TWOzAUgVOWEL INHERENT AQwAmSIGN~DrIsIrYsYrUsUsArOErYArIErErAEsIrOOrAUgSIGN NIKAH" ++
    "ITlREAHMUKlYUUKALEAPINTUlMUUSIKATOANlTRIISAPlBANTOClROBATlTOANDAKHIATlKAKABATlAHSDAlSAMYOK S" ++
    "ANNYAlVIRIAMlCOENGlBATHAMASATlKHANlBARIYOOSANlCAMNUC PII KUUHlLEK TOOlBEYYALlPHNAEK MUANlKOO" ++
    "MUUTgCURRENCY SYMBOL RIELgSIGN AVAKRAHASANYAmTTHACAN"),
   (0x17E0, "aKHMER DIGIT ZEROmONEmTWOnHREEmFOURnIVEmSIXnEVENmEIGHTmNINE"),
   (0x17F0, "aKHMER SYMBOL LEK ATTAK SONxMUOYxPIIxBEIyUONxPRAM$-MUOY&PII&BEI(UON"),
   (0x1800, "aMONGOLIAN BIRGAkELLIPSISkCOMMAkFULL STOPkCOLONkFOUR DOTSkTODO SOFT HYPHENkSIBE SYL" ++
    "LABLE BOUNDARY MARKERkMANCHU COMMArFULL STOPkNIRUGUkFREE VARIATION SELECTOR ONE.TWO:HREEkVOW" ++
    "EL SEPARATORkFREE VARIATION SELECTOR FOURkDIGIT ZEROqONEqTWOrHREEqFOURrIVEqSIXrEVENqEIGHTqNI" ++
    "NE"),
   (0x1820, "aMONGOLIAN LETTER ArErIrOrUrOErUErEErNArANGrBArPArQArGArMArLArSAsHArTArDArCHArJArYA" ++
    "rRArWArFArKAsHArTSArZArHAArZRArLHArZHIrCHIrTODO LONG VOWEL SIGNwEwIwOwUwOEwUEwANGwBAwPAwQAwG" ++
    "AwMAwTAwDAwCHAwJAwTSAwYAwWAwKAwGAAwHAAwJIAwNIAwDZArSIBE EwIxYwUExwANGwKAwGAwHAwPAwSHAwTAwDAw" ++
    "JAwFAwGAAwHAAwTSAwZAwRAAwCHAwZHArMANCHU IyKAyRAyFAyZHArCHA WITH TWO DOTS"),
   (0x1880, "aMONGOLIAN LETTER ALI GALI ANUSVARA ONE!VISARG~F!DAMARU!UBADAMA!INVERTED ~H!BALUDA!" ++
    "THREE ~G!A!I!KA!NGA!CA!TTA&HA!DDA!NNA!TA!DA!PA$HA!SSA!ZHA$A!AHrTODO ALI GALI TA*ZHArMANCHU A" ++
    "LI GALI GHA,NGA,CA,JHA,TTA,DDHA,TA,DHA,SSA,CYA,ZHA.ArALI GALI HALF U*YArMANCHU ALI GALI BHAr" ++
    "ALI GALI DAGALGArMANCHU ALI GALI LHA"),
   (0x18B0, "aCANADIAN SYLLABICS OYtAYuAYtWAYtPOYuAYuWOYtTAYtKAYuWAYtMAYtNOYuAYtLAYtSOYuAYuHOYvA" ++
    "YvWOYtYOYuAYtRAYtNWItOJIBWAY ~DtNWIItOJIBWAY ~EtNWOtOJIBWAY ~DtNWOOtOJIBWAY ~EtRWEEvIwIvOwOv" ++
    "AtOJIBWAY P$T$K$C$M$N$S&HtEASTERN WtWE~HtFINAL SMALL RINGzRAISED DOTtR-CREE RWEtWEST-CREE LO" ++
    "O)AAtTHWEwAuTHWEwOOwAAuLHWEwOOtSAYISI SHWE&OO!~DtCARRIER GWU$DENE GEE$GAA&WAtSAYISI JUUtCARR" ++
    "IER JWAtBEAVER DENE L*RtCARRIER DENTAL S"),
   (0x1900, "aLIMBU VOWEL-CARRIER LETTERgLETTER KAoHAnGAoHAnNGAnCAoHAnJAoHAnYANnTAoHAnDAoHAnNAnP" ++
    "AoHAnBAoHAnMAnYAnRAnLAnWAnSHAoSAoAnHAnGYANnTRA"),
   (0x1920, "aLIMBU VOWEL SIGN ArIrUrEErAIrOOrAUrErOgSUBJOINED LETTER YAxRAxWA"),
   (0x1930, "aLIMBU SMALL LETTER KAtNGAtANUSVARAtTAtNAtPAtMAtRAtLAhIGN MUKPHRENGlKEM~GlSA-I"),
   (0x1940, "aLIMBU SIGN LOO"),
   (0x1944, "aLIMBU EXCLAMATION MARKgQUES~JgDIGIT ZEROmONEmTWOnHREEmFOURnIVEmSIXnEVENmEIGHTmNINE" ++
    "aTAI LE LETTER KAoXAoNGAoTSAoSAoYAoTApHAoLAoPApHAoMAoFAoVAoHAoQAoKHAoTSHAoNAoAoIoEEpHoUoOOpo" ++
    "UEoEoAUEpI"),
   (0x1970, "aTAI LE LETTER TONE-2t3t4t5t6"),
   (0x1980, "aNEW TAI LUE LETTER HIGH QAtLOW~DtHIGH KAyXAyNGAtLOW KAxXAxNGAtHIGH TSAySAyYAtLOW T" ++
    "SAxSAxYAtHIGH TAzHAyNAtLOW TAyHAxNAtHIGH PAzHAyMAtLOW PAyHAxMAtHIGH FAyVAyLAtLOW FAxVAxLAtHI" ++
    "GH HAyDAyBAtLOW HAxDAxBAtHIGH KVAyXVAtLOW KVAxXVAtHIGH SUAtLOW~E"),
   (0x19B0, "aNEW TAI LUE VOWEL SIGN VOWEL SHORTENERxAAxIIxUyUxExAExOyAxUExAYyAYxUYxOYyAYxUEYxIY" ++
    "mLETTER FINAL VzNG!zMzKzDzBmTONE MARK-1w2"),
   (0x19D0, "aNEW TAI LUE DIGIT ZEROsONEsTWOtHREEsFOURtIVEsSIXtEVENsEIGHTsNINEmTHAM DIGIT ONE"),
   (0x19DE, "aNEW TAI LUE SIGN LAEuVaKHMER SYMBOL PATHAMASATnMUOY KOETnPII~FnBE~GoUON~FnPRAM~Fr-" ++
    "MUOY~FsPII~FsBE~GtUON~FnDAP~Fq-MUOY~FrPII~FrBE~GsUON~FrPRAM~FnTUTEYASATnMUOY ROCnPII~EnBE~Fo" ++
    "UON~EnPRAM~Er-MUOY~EsPII~EsBE~FtUON~EnDAP~Eq-MUOY~ErPII~ErBE~FsUON~ErPRAM~EaBUGINESE LETTER " ++
    "KAqGAqNGAsKAqPAqBAqMArPAqTAqDAqNArRAqCAqJAqNYAsCAqYAqRAqLAqVAqSAqAqHAjVOWEL SIGN IuUuEuOuAE"),
   (0x1A1E, "aBUGINESE PALLAWAjEND OF SECTIONaTAI THAM LETTER HIGH KAwHAwXAqLOW KAvXAvHAqNGAqHIG" ++
    "H CAwHAqLOW CAuSAuCHAqNYAqRATAqHIGH RATHAqDAqLOW RATHAqRANAqHIGH TAwHAqLOW TAvHAqNAqBAqHIGH " ++
    "PAwHAvFAqLOW PAuFAuPHAqMAqLOW YAqHIGH~DqRArUEqLArUEqWAqHIGH SHAwSAwAvHAqLLAqAqLOW HAqIrIqUrU" ++
    "qEEqOOqLAEqGREAT SAjCONSONANT SIGN MEDIAL RA*LAyLA TANG LAIjSIGN MAI K~HjCONSONANT SIGN FINA" ++
    "L NGAyLOW PAyHIGH RATHA OR ~GyMAyBAySA"),
   (0x1A60, "aTAI THAM SIGN SAKOTjVOWEL SIGN AuMAI SATuAAuTALL AAuIvIuUEvUEvvUuOvA BELOWvYuEuAEu" ++
    "OOuAIuTHAM AIuOA ABOVEjSIGN MAI KANGoTONE-1t2oKHUEN TONE-3z4z5oRA HAAMoMAI SAMoKHUEN-LUE KAR" ++
    "AN"),
   (0x1A7F, "aTAI THAM COMBINING CRYPTOGRAMMIC DOTjHORA DIGIT ZEROuONEuTWOvHREEuFOURvIVEuSIXvEVE" ++
    "NuEIGHTuNINE"),
   (0x1A90, "aTAI THAM THAM DIGIT ZEROuONEuTWOvHREEuFOURvIVEuSIXvEVENuEIGHTuNINE"),
   (0x1AA0, "aTAI THAM SIGN WIANGtWAAKoSAWANoKEOWoHOYoDOKMAIoREVERSED ROTATED RANAoMAI YAMOKoKAA" ++
    "NsKUUoSATKAANvKUUoHANGoCA~D"),
   (0x1AB0, "aCOMBINING DOUBLED CIRCUMFLEX ACCENTlIAERESIS-RINGkINFINITYkDOWNWARDS ARROWkTRIPLE " ++
    "DOTkX-X BELOWkWIGGLY LINE~GkOPEN MARK~GkDOUBLE ~PkLIGHT CENTRALIZATION STROKE~GkSTRONG CE~Zk" ++
    "PARENTHESES ABOVEkDOUBLE ~RkPARENTHESES BELOWwOVERLAYkLATIN SMALL LETTER W BELOW(TURNED ~HlE" ++
    "FT PARENTHESIS ABOVE LEFTkRIGHT PARENTHESIS ABOVE RIGHTkLEFT PARENTHESIS BELOW LEFTkRIGHT PA" ++
    "RENTHESIS BELOW RIGHTkSQUARE BRACKETS ABOVEkNUMBER SIGN~GkINVERTED DOUBLE ARCH~GkPLUS SIGN~G" ++
    "kDOUBLE ~P$BELOWkTRIPLE ACUTE ACCENTkLATIN SMALL LETTER INSULAR G<R<T"),
   (0x1B00, "aBALINESE SIGN ULU RICEMsCANDRAoCECEKoSURANGoBISAHjLETTER AKARAv TEDUNGqIKARAv TEDU" ++
    "NGqUKARAv TEDUNGqRA REPAx TEDUNGqLA LENGAy TEDUNGqEKARAqAI~EqO~Ev TEDUNGqKAs MAHAPRANAqGAs G" ++
    "ORAqNGAqCAs LACAqJAs JERAqNYAqTA LATIKtMURDA MAHAPRANAqDA MURDA ALP~GzMAH~GqNA RAMBATqTAs TA" ++
    "WAqDAs MADUqNAqPAs KAPALqBAs KEMBANGqMAqYAqRAqLAqWAqSA SAGAvPAsqHAjSIGN REREKANjVOWEL SIGN T" ++
    "EDUNGuULUx SARIuSUKUy ILUTuRA REPA$ TEDUNGuLA LENGA& TEDUNGuTALING! REPA$TEDUNG$REPA ~GuPEPE" ++
    "Tz TEDUNGjADEG ADEGjLETTER KAF SASAKrHOT~GqTZIR~GqEF~GqVE~GqZAL~GqASYURA~GrRCHAIC JNYA"),
   (0x1B50, "aBALINESE DIGIT ZEROpONEpTWOqHREEpFOURqIVEpSIXqEVENpEIGHTpNINEjPANTIlMADAjWINDUjCAR" ++
    "IK PAMUNGKAHpSIKIpPARERENjPAMENENGjMUSICAL SYMBOL DONGzENGzUNGzANG& SURANGzINGzAENGzEUNGzAIN" ++
    "G!NG GEDEyCOMBINING TEGEH.ENDEP.KEMPUL=LI.JEGOGAN.KEMPUL WITH ~H=LI~N.BENDE.GONGyRIGHT-HAND " ++
    "OPEN DUG_AG:CLOSED TUK|TAKyLEFT-HAND OPEN PANG^UNG.CLOSED PLAK|LUK.OPEN PINGjPANTI LANTANGlM" ++
    "ADA~I"),
   (0x1B80, "aSUNDANESE SIGN PANYECEKsGLAYARtWISADkLETTER ArIrUrAErOrEsUrKArQArGArNGArCArJArZArN" ++
    "YArTArDArNArPArFArVArBArMArYArRArLArWArSArXArHAkCONSONANT SIGN PAMINGKAL$NYAKRA(IKUkVOWEL SI" ++
    "GN PANGHULUyYUKUyAELAENGyOLONGxMEPETxNEULEUNGkSIGN PAMAAEHpVIRAMAkCONSONANT SIGN PASANGAN MA" ++
    ".WAkLETTER KHArSYAkDIGIT ZEROqONEqTWOrHREEqFOURrIVEqSIXrEVENqEIGHTqNINEkAVAGRAHAkLETTER REUr" ++
    "LEUrBHArFINAL KxMaBATAK LETTER AnSIMALUNGUN AnHAnSIMALUNGUN HAnMANDAILING~DnBAnKARO BAnPAnSI" ++
    "MALUNGUN PAnNAnMANDAILING NAnWAnSIMALUNGUN WAnPAKPAK~DnGAnSIMALUNGUN GAnJAnDAnRAnSIMALUNGUN " ++
    "RAnMAnSIMALUNGUN MAoOUTHERN TAnNOR~InSAoIMALUNGUN SAnMANDAILING~DnYAnSIMALUNGUN YAnNGAnLAnSI" ++
    "MALUNGUN LAnNYAnCAnNDAnMBAnInUgSIGN TOMPIgVOWEL SIGN ErPAKPAK ErEErIrKARO IrOrKARO OrUs FOR " ++
    "SIMALUNGUN SAgCONSONANT SIGN NGvHgPANGOLATjONGONAN"),
   (0x1BFC, "aBATAK SYMBOL BINDU NA METEKtPINARBORAStJUDULtPANGOLATaLEPCHA LETTER KApLApHAoGApLA" ++
    "oNGAoCApHAoJAoNYAoTApHAoDAoNAoPApLApHAoFApLAoBApLAoMApLAoTSAqHAoDZAoYAoRAoLAoHApLAoVAoSApHAo" ++
    "WAoAhSUBJOINED LETTER YAyRAhVOWEL SIGN AAsIsOtOsUtUsEhCONSONANT SIGN KwMwLwNwPwRwTwNYIN-DOwK" ++
    "ANGhSIGN RANmNUKTA"),
   (0x1C3B, "aLEPCHA PUNCTUATION TA-ROLtNYET THYOOM ~GtCER-WAtTSHOOK ~GzhDIGIT ZEROnONEnTWOoHREE" ++
    "nFOURoIVEnSIXoEVENnEIGHTnNINE"),
   (0x1C4D, "aLEPCHA LETTER TTAqHAoDDAaOL CHIKI DIGIT ZEROpONEpTWOqHREEpFOURqIVEpSIXqEVENpEIGHTp" ++
    "NINEjLETTER LAqATrGrNGrLqLAAqAAKsJsMsWqLIqISrHrNYrRqLUqUCrDrNNrYqLEqEPrDDrNrRRqLOqOTTrBrVrHj" ++
    "MU TTUDDAGjGAAHLAA TTUDDAAGjMU-~QjRELAAjPHAARKAAjAHADjPUNCTUATION MUCAADvDOUBLE ~GaCYRILLIC " ++
    "SMALL LETTER ROUNDED VEwLONG-LEGGED DEwNARROW OwWIDE ESwTALL TExHREE-LEGGED~DxALL HARD SIGN$" ++
    "YATwUNBLENDED UK"),
   (0x1C90, "aGEORGIAN MTAVRULI CAPITAL LETTER AN,BAN,GAN,DON,EN,VIN,ZEN,TAN,IN,KAN,LAS,MAN,NAR," ++
    "ON,PAR,ZHAR,RAE,SAN,TAR,UN,PHAR,K~D,GHAN,QAR,SHIN,C~D.AN,JIL,CIL.HAR,XAN,JHAN,HAE.E.IE,WE,HA" ++
    "R.OE,FI,YN,ELIFI,TURNED GAN,AIN"),
   (0x1CBD, "aGEORGIAN MTAVRULI CAPITAL LETTER AEN,HARD SIGN,LABIAL~FaSUNDANESE PUNCTUATION BIND" ++
    "U SURYA&PANGLONG(URNAMA&CAKRA&LEU SATANGA&KA~I&D~J&B~J"),
   (0x1CD0, "aVEDIC TONE KARSHANAlSHARAlPRENKHAgSIGN NIHSHVASAlYAJURVEDIC MIDLINE SVARITAgTONE Y" ++
    "AJURVEDIC AGGRAVATED INDEPENDENT~Iw~TwKATHAKA ~TlCANDRA BELOWlYAJURVEDIC KATHAKA INDEPENDENT" ++
    " SVARITA SCHROEDERlDOUBLE SVARITAlTRIP~KlKATHAKA ANUDATTAlDOT BELOWlTWO DOTS~GmHREE~LlRIGVED" ++
    "IC KASHMIRI INDEPENDENT SVARITAlATHARVAVEDIC~UgSIGN VISARGA~ItUDATTAlREVERSED ~OlVISARGA AN~" ++
    "GlREVERSED ~QlVISARGA UDATTA WITH TAILtAN~QlANUSVARA ANTARGOMUKHAuBAHI~IuVAMA~H* WITH TAILlT" ++
    "IRYAKlHEXIFORM LONG ANUSVARAl~NlRTHANG ~NlANUSVARA UBHAYATO MUKHAmRDHAVISARGAlROTATED ~MgTON" ++
    "E CANDRA ABOVEgSIGN JIHVAMULIYAlUPADHMAN~DlATIKRAMAgTONE RING ABOVElDOUBLE ~KgSIGN DOUBLE AN" ++
    "USVARA ANTARGOMUKHA"),
   (0x1D00, "aLATIN LETTER SMALL CAPITAL A&EgSMALL LETTER TURNED~DgLETTER SMALL CAPITAL BARRED B" ++
    "$C$D$ETH&gSMALL LETTER TURNED OPEN E!IgLETTER SMALL CAPITAL J$K$L WITH STROKE$M$REVERSED N$O" ++
    "&PEN OgSMALL LETTER SIDEWAYS O(PEN O( WITH STROKEtTURNED OEgLETTER SMALL CAPITAL OUgSMALL LE" ++
    "TTER TOP HALF OtBOTTOM~HgLETTER SMALL CAPITAL P$REVERSED R$TURN~E&$UgSMALL LETTER SIDEWAYS U" ++
    "&DIAERESIZED U&TURNED MgLETTER SMALL CAPITAL V$W$Z$EZHnVOICED LARYNGEAL SPIRANTnAINaGREEK LE" ++
    "TTER SMALL CAPITAL GAMMA$LAMDA$PI$RHO$PSIaCYRILLIC LETTER SMALL CAPITAL ELaMODIFIER LETTER C" ++
    "APITAL AzEyBzARRED ByDyEyREVERSED EyGyHyIyJyKyLyMyNyREVERSED NyOzUyPyRyTyUyWqSMALL AwTURNED " ++
    "AwALPHAwTURNED AEwBwDwEwSCHWAwOPEN EwTURNED ~GwGwTURNED IwKwMwENGwOxPEN OwTOP HALF OwBOTTOM~" ++
    "HwPwTwUwSIDEWAYS UwTURNED MwVwAINwBETAwGREEK GAMMAwDELTAwGREEK PHIwCHIaLATIN SUBSCRIPT SMALL" ++
    " LETTER I(R(U(VaGREEK SUBSCRIPT SMALL LETTER BETA(GAMMA(RHO(PHI(CHIaLATIN SMALL LETTER UEtB " ++
    "WITH MIDDLE TILDEtD~StF~StM~StN~StP~StR~S!FISHHOOK AND ~MtS WITH~NtT~StZ~StTURNED GaMODIFIER" ++
    " LETTER CYRILLIC ENaLATIN SMALL LETTER INSULAR GtTH WITH STRIKETHROUGHmCAPITAL LETTER I WITH" ++
    " STROKEmLETTER IOTA~MtP~MmCAPITAL LETTER U~MmLETTER UPSILON~MtB WITH PALATAL HOOKtD~StF~StG~" ++
    "StK~StL~StM~StN~StP~StR~StS~StESH~StV~StX~StZ~StA WITH RETROFLEX~FuLPHA~UtD WITH HOOK AND TA" ++
    "ILtE WITH RETROFLEX HOOKtOPEN ~VtREVERSED O~ZtSCHWA~UtI~UtOPEN O~UtESH~UtU~UtEZH~UaMODIFIER " ++
    "LETTER SMALL TURNED ALPHAwCx WITH CURLwETHwREVERSED OPEN EwFwDOTLESS J WITH STROKEwSCRIPT Gw" ++
    "TURNED HwI WITH STROKExOTAwCAPITAL I* WITH STROKEwJ WITH CROSSED-TAILwL WITH RETROFLEX HOOK(" ++
    "PALATAL~FwCAPITAL LwM WITH HOOKwTURNED M WITH LONG LEGwN WITH LEFT HOOK(RETROFLEX~FwCAPITAL " ++
    "NwBARRED OwPHIwS WITH HOOKwESHwT WITH PALATAL HOOKwU BARxPSILONwCAPITAL UwV WITH HOOKwTURNED" ++
    " VwZx WITH RETROFLEX HOOK(CURLwEZHwTHETAaCOMBINING DOTTED GRAVE ACCENTrACUT~IkSNAKE BELOWlUS" ++
    "PENSION MARKkMACRON-ACUTEkGRAVE-MACRONkMACRON-GRAVEkACUTE-MACRONkGRAVE-ACUTE-GRAVEkACUTE-GRA" ++
    "VE-ACUTEkLATIN SMALL LETTER R BELOWkBREVE-MACRONkMACRON-BREVEkDOUBLE CIRCUMFLEX ABOVEkOGONEK" ++
    "~GkZIGZAG BELOWkIS~GkUR ABOVElS~GkLATIN SMALL LETTER FLATTENED OPEN A~G(AE)O)V(C CEDILLA(INS" ++
    "ULAR D(ETH(GqLETTER SMALL CAPITAL GqSMALL LETTER K(LqLETTER SMALL CAPITAL L<MqSMALL LETTER N" ++
    "qLETTER SMALL CAPITAL N<RqSMALL LETTER R ROTUNDA(S(LONG S(Z(ALPHA(B)ETA(SCHWA(F(L WITH DOUBL" ++
    "E MIDDLE TILDE(O WITH LIGHT CENTRALIZATION STROKE(P(ESH(U WITH LIGHT CENTRALIZATION STROKE(W" ++
    "(A WITH DIAERESIS(O~P(U~PkUP TACK ABOVEkKAVYKA ABOVE RIGHTxLEFTkDOT~LkWIDE INVERTED BRIDGE B" ++
    "ELOWkDOT BELOW LEFTlELETION MARKlOUBLE INVERTED BREVE BELOWkALMOST EQUAL TO~GkLEFT ARROWHEAD" ++
    " ABOVEkRIGHT ARROWHEAD AND DOWN ARROWHEAD BELOWaLATIN CAPITAL LETTER A WITH RING~GgSMALL~ZgC" ++
    "APITAL LETTER B WITH DOT ABOVEgSMAL~ZgCAPITAL LETTER B WITH DOT BELOWgSMAL~ZgCAPITAL LETTER " ++
    "B WITH LINE~GgSMALL~ZgCAPITAL LETTER C WITH CEDILLA AND ACUTEgSMALL LETTER~ZgCAPITAL LETTER " ++
    "D WITH DOT ABOVEgSMAL~ZgCAPITAL LETTER D WITH DOT BELOWgSMAL~ZgCAPITAL LETTER D WITH LINE~Gg" ++
    "SMALL~ZgCAPITAL LETTER D WITH CEDILLAgSMAL~XgCAPITAL LETTER D WITH CIRCUMFLEX BELOWgSMALL LE" ++
    "TTE~ZgCAPITAL LETTER E WITH MACRON AND GRAVEgSMALL LETTE~ZgCAPITAL LETTER E WITH MACRON AND " ++
    "ACUTEgSMALL LETTE~ZgCAPITAL LETTER E WITH CIRCUMFLEX BELOWgSMALL LETTE~ZgCAPITAL LETTER E WI" ++
    "TH TILDE~GgSMALL ~ZgCAPITAL LETTER E WITH CEDILLA AND BREVEgSMALL LETTER~ZgCAPITAL LETTER F " ++
    "WITH DOT ABOVEgSMAL~ZgCAPITAL LETTER G WITH MACRONgSMAL~WgCAPITAL LETTER H WITH DOT ABOVEgSM" ++
    "AL~ZgCAPITAL LETTER H WITH DOT BELOWgSMAL~ZgCAPITAL LETTER H WITH DIAERESISgSMAL~ZgCAPITAL L" ++
    "ETTER H WITH CEDILLAgSMAL~XgCAPITAL LETTER H WITH BREVE BELOWgSMALL ~ZgCAPITAL LETTER I WITH" ++
    " TILD~HgSMALL ~ZgCAPITAL LETTER I WITH DIAERESIS AND ACUTEgSMALL LETTER I~ZgCAPITAL LETTER K" ++
    " WITH~GgSMAL~VgCAPITAL LETTER K WITH DOT BELOWgSMAL~ZgCAPITAL LETTER K WITH LINE~GgSMALL~ZgC" ++
    "APITAL LETTER L WITH DOT~GgSMAL~ZgCAPITAL LETTER L WITH DOT BELOW AND MACRONgSMALL LETTER L " ++
    "~ZgCAPITAL LETTER L WITH LINE BELOWgSMALL~ZgCAPITAL LETTER L WITH CIRCUMFLEX~GgSMALL LETTE~Z" ++
    "gCAPITAL LETTER M WITH ACUTEgSMAL~VgCAPITAL LETTER M WITH DOT ABOVEgSMAL~ZgCAPITAL LETTER M " ++
    "WITH DOT BELOWgSMAL~ZgCAPITAL LETTER N WITH DOT ABOVEgSMAL~ZgCAPITAL LETTER N WITH DOT BELOW" ++
    "gSMAL~ZgCAPITAL LETTER N WITH LINE~GgSMALL~ZgCAPITAL LETTER N WITH CIRCUMFLEX~GgSMALL LETTE~" ++
    "ZgCAPITAL LETTER O WITH TILDE AND ACUTEgSMALL LETT~ZgCAPITAL LETTER O WITH TILDE AND DIAERES" ++
    "ISgSMALL LETTER O~ZgCAPITAL LETTER O WITH MACRON AND GRAVEgSMALL LETTE~ZgCAPITAL LETTER O WI" ++
    "TH MACRON AND ACUTEgSMALL LETTE~ZgCAPITAL LETTER P WITH~GgSMAL~VgCAPITAL LETTER P WITH DOT A" ++
    "BOVEgSMAL~ZgCAPITAL LETTER R~PgSMAL~ZgCAPITAL LETTER R WITH DOT BELOWgSMAL~ZgCAPITAL LETTER " ++
    "R WITH DOT BELOW AND MACRONgSMALL LETTER R ~ZgCAPITAL LETTER R WITH LINE BELOWgSMALL~ZgCAPIT" ++
    "AL LETTER S WITH DOT ABOVEgSMAL~ZgCAPITAL LETTER S WITH DOT BELOWgSMAL~ZgCAPITAL LETTER S WI" ++
    "TH ACUTE AND DOT ABOVEgSMALL LETTER S~ZgCAPITAL LETTER S WITH CARON~OgSMALL LETTER S~ZgCAPIT" ++
    "AL LETTER S WITH DOT BELOW~OgSMALL LETTER S WIT~ZgCAPITAL LETTER T WITH~KgSMAL~ZgCAPITAL LET" ++
    "TER T WITH DOT BELOWgSMAL~ZgCAPITAL LETTER T WITH LINE~GgSMALL~ZgCAPITAL LETTER T WITH CIRCU" ++
    "MFLEX~GgSMALL LETTE~ZgCAPITAL LETTER U WITH DIAERESIS~GgSMALL LETT~ZgCAPITAL LETTER U WITH T" ++
    "ILDE~GgSMALL ~ZgCAPITAL LETTER U WITH CIRCUMFLEX~GgSMALL LETTE~ZgCAPITAL LETTER U WITH TILDE" ++
    " AND ACUTEgSMALL LETT~ZgCAPITAL LETTER U WITH MACRON AND DIAERESISgSMALL LETTER U ~ZgCAPITAL" ++
    " LETTER V WITH TILDEgSMAL~VgCAPITAL LETTER V WITH DOT BELOWgSMAL~ZgCAPITAL LETTER W WITH GRA" ++
    "VEgSMAL~VgCAPITAL LETTER W WITH ACUTEgSMAL~VgCAPITAL LETTER W WITH DIAERESISgSMAL~ZgCAPITAL " ++
    "LETTER W WITH DOT ABOVEgSMAL~ZgCAPITAL LETTER W WITH DOT BELOWgSMAL~ZgCAPITAL LETTER X WITH " ++
    "DOT ABOVEgSMAL~ZgCAPITAL LETTER X WITH DIAERESISgSMAL~ZgCAPITAL LETTER Y WITH DOT ABOVEgSMAL" ++
    "~ZgCAPITAL LETTER Z WITH CIRCUMFLEXgSMALL~ZgCAPITAL LETTER Z WITH DOT BELOWgSMAL~ZgCAPITAL L" ++
    "ETTER Z WITH LINE~GgSMALL~ZtH~QtT WITH DIAERESIStW WITH RING ABOVEtY~QtA WITH RIGHT HALF RIN" ++
    "GtLONG S WITH DOT ABOVE+IAGONAL STROKE*HIGH~HgCAPITAL LETTER SHARP SgSMALL LETTER DELTAgCAPI" ++
    "TAL LETTER A WITH DOT BELOWgSMAL~ZgCAPITAL LETTER A WITH HOOK ABOVEgSMALL~ZgCAPITAL LETTER A" ++
    " WITH CIRCUMFLEX AND ACUTEgSMALL LETTER A ~ZgCAPITAL LETTER A WITH CIRCUMFLEX AND GRAVEgSMAL" ++
    "L LETTER A ~ZgCAPITAL LETTER A WITH CIRCUMFLEX AND HOOK ABOVEgSMALL LETTER A WITH ~ZgCAPITAL" ++
    " LETTER A WITH CIRCUMFLEX AND TILDEgSMALL LETTER A ~ZgCAPITAL LETTER A WITH CIRCUMFLEX AND D" ++
    "OT BELOWgSMALL LETTER A WITH~ZgCAPITAL LETTER A WITH BREVE AND ACUTEgSMALL LETT~ZgCAPITAL LE" ++
    "TTER A WITH BREVE AND GRAVEgSMALL LETT~ZgCAPITAL LETTER A WITH BREVE AND HOOK ABOVEgSMALL LE" ++
    "TTER A ~ZgCAPITAL LETTER A WITH BREVE AND TILDEgSMALL LETT~ZgCAPITAL LETTER A WITH BREVE AND" ++
    " DOT BELOWgSMALL LETTER A~ZgCAPITAL LETTER E WITH~KgSMAL~ZgCAPITAL LETTER E WITH HOOK ABOVEg" ++
    "SMALL~ZgCAPITAL LETTER E WITH TILDEgSMAL~VgCAPITAL LETTER E WITH CIRCUMFLEX AND ACUTEgSMALL " ++
    "LETTER E ~ZgCAPITAL LETTER E WITH CIRCUMFLEX AND GRAVEgSMALL LETTER E ~ZgCAPITAL LETTER E WI" ++
    "TH CIRCUMFLEX AND HOOK ABOVEgSMALL LETTER E WITH ~ZgCAPITAL LETTER E WITH CIRCUMFLEX AND TIL" ++
    "DEgSMALL LETTER E ~ZgCAPITAL LETTER E WITH CIRCUMFLEX AND DOT BELOWgSMALL LETTER E WITH~ZgCA" ++
    "PITAL LETTER I WITH HOOK ABOVEgSMALL~ZgCAPITAL LETTER I WITH DOT BELOWgSMAL~ZgCAPITAL LETTER" ++
    " O~PgSMAL~ZgCAPITAL LETTER O WITH HOOK ABOVEgSMALL~ZgCAPITAL LETTER O WITH CIRCUMFLEX AND AC" ++
    "UTEgSMALL LETTER O ~ZgCAPITAL LETTER O WITH CIRCUMFLEX AND GRAVEgSMALL LETTER O ~ZgCAPITAL L" ++
    "ETTER O WITH CIRCUMFLEX AND HOOK ABOVEgSMALL LETTER O WITH ~ZgCAPITAL LETTER O WITH CIRCUMFL" ++
    "EX AND TILDEgSMALL LETTER O ~ZgCAPITAL LETTER O WITH CIRCUMFLEX AND DOT BELOWgSMALL LETTER O" ++
    " WITH~ZgCAPITAL LETTER O WITH HORN AND ACUTEgSMALL LET~ZgCAPITAL LETTER O WITH HORN AND GRAV" ++
    "EgSMALL LET~ZgCAPITAL LETTER O WITH HORN AND HOOK ABOVEgSMALL LETTER O~ZgCAPITAL LETTER O WI" ++
    "TH HORN AND TILDEgSMALL LET~ZgCAPITAL LETTER O WITH HORN AND DOT BELOWgSMALL LETTER ~ZgCAPIT" ++
    "AL LETTER U WITH~KgSMAL~ZgCAPITAL LETTER U WITH HOOK ABOVEgSMALL~ZgCAPITAL LETTER U WITH HOR" ++
    "N AND ACUTEgSMALL LET~ZgCAPITAL LETTER U WITH HORN AND GRAVEgSMALL LET~ZgCAPITAL LETTER U WI" ++
    "TH HORN AND HOOK ABOVEgSMALL LETTER U~ZgCAPITAL LETTER U WITH HORN AND TILDEgSMALL LET~ZgCAP" ++
    "ITAL LETTER U WITH HORN AND DOT BELOWgSMALL LETTER ~ZgCAPITAL LETTER Y WITH GRAVEgSMAL~VgCAP" ++
    "ITAL LETTER Y WITH DOT BELOWgSMAL~ZgCAPITAL LETTER Y WITH HOOK ABOVEgSMALL~ZgCAPITAL LETTER " ++
    "Y WITH TILDEgSMAL~VgCAPITAL LETTER MIDDLE-WELSH LLgSMAL~YgCAPITAL LETTER MIDDLE-WELSH VgSMAL" ++
    "~XgCAPITAL LETTER Y WITH LOOPgSMAL~UaGREEK SMALL LETTER ALPHA WITH PSILI)DASIA)PSILI AND VAR" ++
    "IA)DASIA~K)PSILI AND OXIA)DASIA~J)PSILI AND PERISPOMENI)DASIA~QgCAPITAL LETTER ALPHA WITH PS" ++
    "ILI+DASIA+PSILI AND VARIA+DASIA~K+PSILI AND OXIA+DASIA~J+PSILI AND PERISPOMENI+DASIA~QgSMALL" ++
    " LETTER EPSILON WITH PSILI+DASIA+PSILI AND VARIA+DASIA~K+PSILI AND OXIA+DASIA~J"),
   (0x1F18, "aGREEK CAPITAL LETTER EPSILON WITH PSILI.DASIA.PSILI AND VARIA.DASIA~K.PSILI AND OX" ++
    "IA.DASIA~J"),
   (0x1F20, "aGREEK SMALL LETTER ETA WITH PSILI&DASIA&PSILI AND VARIA&DASIA~K&PSILI AND OXIA&DAS" ++
    "IA~J&PSILI AND PERISPOMENI&DASIA~QgCAPITAL LETTER ETA WITH PSILI)DASIA)PSILI AND VARIA)DASIA" ++
    "~K)PSILI AND OXIA)DASIA~J)PSILI AND PERISPOMENI)DASIA~QgSMALL LETTER IOTA WITH PSILI(DASIA(P" ++
    "SILI AND VARIA(DASIA~K(PSILI AND OXIA(DASIA~J(PSILI AND PERISPOMENI(DASIA~QgCAPITAL LETTER I" ++
    "OTA WITH PSILI*DASIA*PSILI AND VARIA*DASIA~K*PSILI AND OXIA*DASIA~J*PSILI AND PERISPOMENI*DA" ++
    "SIA~QgSMALL LETTER OMICRON WITH PSILI+DASIA+PSILI AND VARIA+DASIA~K+PSILI AND OXIA+DASIA~J"),
   (0x1F48, "aGREEK CAPITAL LETTER OMICRON WITH PSILI.DASIA.PSILI AND VARIA.DASIA~K.PSILI AND OX" ++
    "IA.DASIA~J"),
   (0x1F50, "aGREEK SMALL LETTER UPSILON WITH PSILI+DASIA+PSILI AND VARIA+DASIA~K+PSILI AND OXIA" ++
    "+DASIA~J+PSILI AND PERISPOMENI+DASIA~Q"),
   (0x1F59, "aGREEK CAPITAL LETTER UPSILON WITH DASIA"),
   (0x1F5B, "aGREEK CAPITAL LETTER UPSILON WITH DASIA AND VARIA"),
   (0x1F5D, "aGREEK CAPITAL LETTER UPSILON WITH DASIA AND OXIA"),
   (0x1F5F, "aGREEK CAPITAL LETTER UPSILON WITH DASIA AND PERISPOMENIgSMALL LETTER OMEGA WITH PS" ++
    "ILI)DASIA)PSILI AND VARIA)DASIA~K)PSILI AND OXIA)DASIA~J)PSILI AND PERISPOMENI)DASIA~QgCAPIT" ++
    "AL LETTER OMEGA WITH PSILI+DASIA+PSILI AND VARIA+DASIA~K+PSILI AND OXIA+DASIA~J+PSILI AND PE" ++
    "RISPOMENI+DASIA~QgSMALL LETTER ALPHA WITH VARIA)OXIAtEPSILON WITH VARIA+OXIAuTA WITH VARIA&O" ++
    "XIAtIOTA WITH VARIA(OXIAtOMICRON WITH VARIA+OXIAtUPSILON WITH VARIA+OXIAtOMEGA WITH VARIA)OX" ++
    "IA"),
   (0x1F80, "aGREEK SMALL LETTER ALPHA WITH PSILI AND YPOGEGRAMMENI)DASIA~S)PSILI AND VAR~U)DASI" ++
    "A AN~Z)PSILI AND OX~U)DASIA A~Z)PSILI AND PERISPOMENI~S)DASIA AND PERI~ZgCAPITAL LETTER ALPH" ++
    "A WITH PSILI AND PROS~K+DASIA~T+PSILI AND VAR~V+DASIA AND~Z+PSILI AND OX~V+DASIA AN~Z+PSILI " ++
    "AND PERISPOMENI~T+DASIA AND PERIS~ZgSMALL LETTER ETA WITH PSILI AND YPO~K&DASIA~S&PSILI AND " ++
    "VAR~U&DASIA AN~Z&PSILI AND OX~U&DASIA A~Z&PSILI AND PERISPOMENI~S&DASIA AND PERI~ZgCAPITAL L" ++
    "ETTER ETA WITH PSILI AND PROS~K)DASIA~T)PSILI AND VAR~V)DASIA AND~Z)PSILI AND OX~V)DASIA AN~" ++
    "Z)PSILI AND PERISPOMENI~T)DASIA AND PERIS~ZgSMALL LETTER OMEGA WITH PSILI AND YPO~K)DASIA~S)" ++
    "PSILI AND VAR~U)DASIA AN~Z)PSILI AND OX~U)DASIA A~Z)PSILI AND PERISPOMENI~S)DASIA AND PERI~Z" ++
    "gCAPITAL LETTER OMEGA WITH PSILI AND PROS~K+DASIA~T+PSILI AND VAR~V+DASIA AND~Z+PSILI AND OX" ++
    "~V+DASIA AN~Z+PSILI AND PERISPOMENI~T+DASIA AND PERIS~ZgSMALL LETTER ALPHA WITH VRACHY)MACRO" ++
    "N)VARIA AND YPOGEGRAMMENI)~N)OXIA AND ~N"),
   (0x1FB6, "aGREEK SMALL LETTER ALPHA WITH PERISPOMENI_ AND YPOGEGRAMMENIgCAPITAL LETTER ALPHA " ++
    "WITH VRACHY+MACRON+VARIA+OXIA+PROSGEGRAMMENIgKORONISgPROSGEGRAMMENIhSILIhERISPOMENIgDIALYTIK" ++
    "A AND ~LgSMALL LETTER ETA WITH VARIA AND YPOGEGRAM~E&~N&OXIA AND ~N"),
   (0x1FC6, "aGREEK SMALL LETTER ETA WITH PERISPOMENI> AND YPOGEGRAMMENIgCAPITAL LETTER EPSILON " ++
    "WITH VARIA.OXIAwTA WITH VARIA)OXIA)PROSGEGRAMMENIgPSILI AND VARIAqOXIAqPERISPOMENIgSMALL LET" ++
    "TER IOTA WITH VRACHY(MACRON(DIALYTIKA AND VARIA| OXIA"),
   (0x1FD6, "aGREEK SMALL LETTER IOTA WITH PERISPOMENI(DIALYTIKA AND ~LgCAPITAL LETTER IOTA WITH" ++
    " VRACHY*MACRON*VARIA*OXIA"),
   (0x1FDD, "aGREEK DASIA AND VARIAqOXIAqPERISPOMENIgSMALL LETTER UPSILON WITH VRACHY+MACRON+DIA" ++
    "LYTIKA AND VARIA|AND OXIAtRHO WITH PSILI&DASIAtUPSILON WITH PERISPOMENI+DIALYTIKA AND ~LgCAP" ++
    "ITAL LETTER UPSILON WITH VRACHY.MACRON.VARIA.OXIAvRHO WITH DASIAgDIALYTIKA AND VARIAuOXIAgVA" ++
    "RIA"),
   (0x1FF2, "aGREEK SMALL LETTER OMEGA WITH VARIA AND YPOGEGRAMMENI)~N)OXIA AND ~N"),
   (0x1FF6, "aGREEK SMALL LETTER OMEGA WITH PERISPOMENI_ AND YPOGEGRAMMENIgCAPITAL LETTER OMICRO" ++
    "N WITH VARIA.OXIAxEGA WITH VARIA+OXIA+PROSGEGRAMMENIgOXIAgDASIA")]

end SnippetProfiler.Text.Names
