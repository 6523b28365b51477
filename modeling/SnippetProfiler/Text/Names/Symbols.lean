/-!
# Names of characters from U+2000 to U+2FFF

The tables of the names of punctuation, arrows, operators and shapes, and of pictures, patterns and
radicals, written as `Names.runNames` reads them.
-/

namespace SnippetProfiler.Text.Names

/-- The names of characters from U+2000 to U+25FF. -/
def symbols : List (Nat × String) :=
  [(0x2000, "aEN QUADbM~FbN SPACEbM~GaTHREE-PER-~IaFOUR~NaSIX~NaFIGURE~GaPUNCTUATION~GaTHI~HaHAI" ++
    "R~GaZERO WIDTH~GlNON-JOINERl~GaLEFT-TO-RIGHT MARKaRIGHT-TO-LEF~GaHYPHENaNON-BREAKING ~GaFIGU" ++
    "RE DASHaEN~FbM~FaHORIZONTAL BARaDOUBLE VERTICAL LINEhLOW~FaLEFT SINGLE QUOTATION MARKaRIGH~X" ++
    "aSINGLE LOW-9~PhHIGH-REVERSED~RaLEFT DOUBLE~PaRIGH~XaDOUBLE LOW-9~PhHIGH-REVERSED~RbAGGERbOU" ++
    "BLE D~FaBULLETaTRIANGULAR ~GaONE DOT LEADERaTWO~LaHORIZONTAL ELLIPSISbYPHENATION POINTaLINE " ++
    "SEPARATORaPARAGRAPH~KaLEFT-TO-RIGHT EMBEDDINGaRIGHT-TO-LEF~LaPOP DIRECTIONAL FORMATT~DaLEFT-" ++
    "TO-RIGHT OVERRIDEaRIGHT-TO-LEF~KaNARROW NO-BREAK SPACEaPER MILLE SIGNeTEN THOUSAND~FbRIMEaDO" ++
    "UBLE ~FaTRIP~IaREVERSED~GjDOUBLE ~FjTRIP~IaCARETaSINGLE LEFT-POINTING ANGLE QUOTATION MARKhR" ++
    "IGHT-POIN~ZaREFERENCE~FaDOUBLE EXCLAMATION~FaINTERROBANGaOVERLINEaUNDERTIEaCHARACTER ~DbARET" ++
    " INSERTION POINTaASTERISMaHYPHEN BULLETaFRACTION SLASHaLEFT SQUARE BRACKET WITH QUILLaRIGHT " ++
    "~ZaDOUBLE QUESTION MARKaQUESTION EXCLAMA~JaEXCLAMATION QUES~JaTIRONIAN SIGN ETaREVERSED PILC" ++
    "ROW SIGNaBLACK LEFTWARDS BULLETgRIGH~NaLOW ASTERISKaREVERSED SEMICOLONaCLOSE UPaTWO ASTERISK" ++
    "S ALIGNED VERTICALLYaCOMMERCIAL MINUS SIGNaSWUNG DASHaINVERTED UNDERTIEaFLOWER PUNCTUATION M" ++
    "ARKaTHREE DOT PUNCTUATIONaQUADRUPLE PRIMEaFOUR DOT PUNCTUATIONbIVE~QaTWO~QaFOUR DOT MARKaDOT" ++
    "TED CROSSaTRICOLONaVERTICAL FOUR DOTSaMEDIUM MATHEMATICAL SPACEaWORD JOINERaFUNCTION APPLICA" ++
    "TIONaINVISIBLE TIMESkSEPARATORkPLUS"),
   (0x2066, "aLEFT-TO-RIGHT ISOLATEaRIGHT-TO-LEF~JaFIRST STRONG~IaPOP DIRECTIONAL~IaINHIBIT SYMM" ++
    "ETRIC SWAPPINGaACTIVATE~TaINHIBIT ARABIC FORM SHA~EaACTIVATE~UaNATIONAL DIGIT SHAPESbOMI~QaS" ++
    "UPERSCRIPT ZEROmLATIN SMALL LETTER I"),
   (0x2074, "aSUPERSCRIPT FOURnIVEmSIXnEVENmEIGHTmNINEmPLUS SIGNmMINUSmEQUALS SIGNmLEFT PARENTHE" ++
    "SISmRIGH~NmLATIN SMALL LETTER NcBSCRIPT ZEROkONEkTWOlHREEkFOURlIVEkSIXlEVENkEIGHTkNINEkPLUS " ++
    "SIGNkMINUSkEQUALS SIGNkLEFT PARENTHESISkRIGH~N"),
   (0x2090, "aLATIN SUBSCRIPT SMALL LETTER A(E(O(X(SCHWA(H(K(L(M(N(P(S(T"),
   (0x20A0, "aEURO-CURRENCY SIGNaCOLON~FbRUZEIRO~FaFRENCH FRANC~FaLIRA~FaMILL~FaNAIRA~FaPESET~Ga" ++
    "RUPEE~FaWON~FaNEW SHEQEL~FaDONG~FaEURO~FaKIP~FaTUGRIK~FaDRACHMA~FaGERMAN PENNY~FaPESO~FaGUAR" ++
    "ANI~FaAUSTRAL~FaHRYVNIA~FaCEDI~FaLIVRE TOURNOIS~FaSPESMILO~FaTENGE~FaINDIAN RUPE~GaTURKISH L" ++
    "IRA~FaNORDIC MARK~FaMANAT~FaRUBLE~FaLARI~FaBITCOIN~FaSOM~F"),
   (0x20D0, "aCOMBINING LEFT HARPOON ABOVEkRIGH~PkLONG VERTICAL LINE OVERLAYkSHORT~WkANTICLOCKWI" ++
    "SE ARROW ABOVEk~VkLEFT~MkRIGH~NmNG OVERLAYkCLOCKWISE ~MkANTI~WkTHREE DOTS ABOVEkFOUR~LkENCLO" ++
    "SING CIRCLEuSQUAREuDIAMONDuCIRCLE BACKSLASHkLEFT RIGHT ARROW ABOVEkENCLOSING SCREENuKEYCAPuU" ++
    "PWARD POINTING TRIANGLEkREVERSE SOLIDUS OVERLAYkDOUBLE VERTICAL STROKE~IkANNUITY SYMBOLkTRIP" ++
    "LE UNDERDOTkWIDE BRIDGE ABOVEkLEFTWARDS ARROW OVERLAYlONG DOUBLE SOLIDUS~IkRIGHTWARDS HARPOO" ++
    "N WITH BARB DOWNWARDSkLEFTWARDS HA~Zo ARROW BELOWkRIGH~NkASTERISK ABOVE"),
   (0x2100, "aACCOUNT OFbDDRESSED TO THE SUBJECTaDOUBLE-STRUCK CAPITAL CbEGREE CELSIUSaCENTRE LI" ++
    "NE SYMBOLbARE OFcDA UNAaEULER CONSTANTaSCRUPLEaDEGREE FAHRENHEITaSCRIPT SMALL GhCAPITAL HaBL" ++
    "ACK-LETTER~KaDOUBLE-STRUCK~KaPLANCK CONSTANTp OVER TWO PIaSCRIPT CAPITAL IaBLACK-LETTER~KaSC" ++
    "RIPT CAPITAL LhSMAL~DaL B BAR SYMBOLaDOUBLE-STRUCK CAPITAL NaNUMERO SIGNaSOUND RECORDING COP" ++
    "YRIGHTbCRIPT CAPITAL PaDOUBLE-STRUCK~KwQaSCRIPT CAPITAL RaBLACK-LETTER~KaDOUBLE-STRUCK~KaPRE" ++
    "SCRIPTION TAKEaRESPONSEaSERVICE MARKaTELEPHONE SIGNbRADE MARK~FaVERSICLEaDOUBLE-STRUCK CAPIT" ++
    "AL ZaOUNCE SIGNbHM~FaINVERTED ~IaBLACK-LETTER CAPITAL ZaTURNED GREEK SMALL LETTER IOTAaKELVI" ++
    "N SIGNaANGSTROM~FaSCRIPT CAPITAL BaBLACK-LETTER CAPITAL CaESTIMATED SYMBOLaSCRIPT SMALL EhCA" ++
    "PITA~DpFaTURNED~KaSCRIPT CAPITAL MhSMALL OaALEF SYMBOLaBET~HaGIMEL~HaDALET~HaINFORMATION SOU" ++
    "RCEaROTATED CAPITAL QaFACSIMILE SIGNaDOUBLE-STRUCK SMALL PIuGAMMAoCAPITA~HwPIoN-ARY SUMMATIO" ++
    "NaTURNED SANS-SERIF CAPITAL G!LaREVERS~XaTURNED SANS-SERIF CAPITAL YaDOUBLE-STRUCK ITALIC CA" ++
    "PITAL DvSMAL~D$E$I$JaPROPERTY LINEaTURNED AMPERSANDaPER SIGNaAKTIESELSKABaTURNED SMALL FaSYM" ++
    "BOL FOR SAMARITAN SOURCEaVULGAR FRACTION ONE SEVENTHuNI~DuTE~DvHIRDqTWO THIRDSqONE FIFTHqTWO" ++
    " FIFTHSrHREE~HqFOUR~HqONE SIXTHqFIVE SIXTHSqONE EIGHTHqTHREE EIGHTHSqFIV~JqSEVEN~IaFRACTION " ++
    "NUMERATOR ONEaROMAN NUMERAL~EoTWOpHREEoFOURpIVEoSIXpEVENoEIGHToNINEoTENoELEVENoTWELVEoFIFTYo" ++
    "ONE HUNDREDoFIV~JoONE THOUSANDaSMALL ROMAN NUMERAL ONEuTWOvHREEuFOURvIVEuSIXvEVENuEIGHTuNINE" ++
    "uTENuELEVENuTWELVEuFIFTYuONE HUNDREDuFIV~JuONE THOUSANDaROMAN NUMERAL ONE THOUSAND C DoFIVE " ++
    "THOUSANDoTEN~JoREVERSED ONE HUNDREDaLATIN SMALL LETTER REVERSED CaROMAN NUMERAL SIX LATE FOR" ++
    "MoFIFTY EARLY~FuTHOUSANDoONE HUNDRED~JaVULGAR FRACTION ZERO THIRDSaTURNED DIGIT TWOoHREE"),
   (0x2190, "aLEFTWARDS ARROWaUP~LaRIGHT~LaDOWN~LaLEFT RIGHT~GaUP DOWN~GaNORTH WEST~GgEA~IaSOU~N" ++
    "gWE~IaLEFTWARDS ARROW WITH STROKEaRIGH~YaLEFTWARDS WAVE ARROWaRIGH~RaLEFTWARDS TWO HEADED~Ga" ++
    "UP~WaRIGHT~WaDOWN~WaLEFTWARDS ARROW WITH TAILaRIGH~WaLEFTWARDS ARROW FROM BARaUP~UaRIGHT~UaD" ++
    "OWN~UaUP DOWN ARROW WITH BASEaLEFTWARDS ARROW WITH HOOKaRIGH~WaLEFTWARDS ARROW WITH LOOPaRIG" ++
    "H~WaLEFT RIGHT WAVE ARROWlARROW WITH STROKEaDOWNWARDS ZIGZAG ARROWaUPWARDS ARROW WITH TIP LE" ++
    "FTWARDSxRIGH~GaDOWNWARDS ARROW WITH TIP LEF~GzRIGH~GaRIGHTWARDS ARROW WITH CORNER DOWN~FaDOW" ++
    "NWARDS ARROW WITH CORNER LEFT~FaANTICLOCKWISE TOP SEMICIRCLE ARROWaCLOCK~ZaNORTH WEST ARROW " ++
    "TO LONG BARaLEFTWARDS ARROW TO BAR OVER RIGHTWARDS ARROW TO~EaANTICLOCKWISE OPEN CIRCLE ARRO" ++
    "WaCL~ZaLEFTWARDS HARPOON WITH BARB UPWARDS&DOWN~FaUPWARDS HARPOON WITH BARB RIGHT~F!LEF~GaRI" ++
    "GHTWARDS HARPOON WITH BARB UP~F(DOWN~FaDOWNWARDS HARPOON WITH BARB RIGHT~F&LEF~GaRIGHTWARDS " ++
    "ARROW OVER LEFTWARDS ARROWaUPWARDS ARROW LEFTWARDS OF DOWN~LaLEFTWARDS ARROW OVER RIGHT~LkPA" ++
    "IRED ARROWSaUP~TaRIGHT~TaDOWN~TaLEFTWARDS HARPOON OVER RIGHTWARDS HARPOONaRIGHTWARDS HARPOON" ++
    " OVER LEF~OaLEFTWARDS DOUBLE ARROW WITH STROKEe RIGHT~ZaRIGHTWARDS~ZaLEFTWARDS DOUBLE ARROWa" ++
    "UP~SaRIGHT~SaDOWN~SaLEFT RIGHT~NaUP DOWN~NaNORTH WEST~NgEA~PaSOU~UgWE~PaLEFTWARDS TRIP~IaRIG" ++
    "H~TaLEFTWARDS SQUIGG~IaRIGH~VaUPWARDS ARROW WITH DOUBLE STROKEaDOWNWARDS~ZaLEFTWARDS DASHED " ++
    "ARROWaUP~SaRIGHT~SaDOWN~SaLEFTWARDS ARROW TO BARaRIGH~TaLEFTWARDS WHITE ARROWaUP~RaRIGHT~RaD" ++
    "OWN~RaUPWARDS WHITE ARROW FROM BARuON PEDESTAL* WITH HORIZONTAL BAR<VERTIC~GoDOUBLE ARROW! O" ++
    "N PEDESTALaRIGHTWARDS WHITE ARROW FROM WALLaNORTH WEST ARROW TO CORNERaSOUTH EA~SaUP DOWN WH" ++
    "ITE ARROWaRIGHT ARROW WITH SMALL CIRCLEaDOWNWARDS ARROW LEFTWARDS OF UPWARDS ARROWaTHREE RIG" ++
    "HTWARDS ARROWSaLEFTWARDS ARROW WITH VERTICAL STROKEaRIGHTWARDS A~ZaLEFT RIGHT A~ZeWARDS ARRO" ++
    "W WITH DOUBLE~QaRIGHTWARDS ARROW WI~ZaLEFT RIGHT ARROW WI~ZeWARDS OPEN-HEADED ARROWaRIGH~YaL" ++
    "EFT RIGHT~SaFOR ALLaCOMPLEMENTaPARTIAL DIFFERENTIALaTHERE EXISTSgDOES NOT EXISTaEMPTY SETaIN" ++
    "CREMENTaNABLAaELEMENT OFaNOT AN ~KaSMALL~LaCONTAINS AS MEMBERaDOES NOT CONTAIN~KaSMALL CONTA" ++
    "INS~KaEND OF PROOFaN-ARY PRODUCTgCO~HgSUMMATIONaMINUS SIGNf-OR-PLUS~FaDOT PLUSbIVISION SLASH" ++
    "aSET MINUSaASTERISK OPERATORaRING~JaBULLET~JaSQUARE ROOTaCUB~GaFOURTH~FaPROPORTIONAL TOaINFI" ++
    "NITYaRIGHT ANGLEa~FaMEASURED ~FaSPHERICAL~GaDIVIDESbOES NOT DIVIDEaPARALLEL TOaNOT ~LaLOGICA" ++
    "L ANDiORaINTERSECTIONaUN~DaINTEGRALaDOUBLE ~IaTRIP~LaCONTOUR~JaSURFACE~JaVOLUM~KaCLOCKWIS~Kk" ++
    "CONTOUR ~IaANTIC~ZaTHEREFOREaBECAUSEaRATIOaPROPORTIONaDOT MINUSaEXCESSaGEOMETRIC PROPORTIONa" ++
    "HOMOTHETICaTILDE OPERATORaREVERSED TILDEaINVERTED LAZY SaSINE WAVEaWREATH PRODUCTaNOT TILDEa" ++
    "MINUS~GaASYMPTOTICALLY EQUAL TOaNOT ~XaAPPROXIMATE~LoBUT NOT ACTUALLY ~IaNEITHER APPROXIMATE" ++
    "LY NOR~SaALMOST~JaNOT ~PaALMOST EQUAL OR~JaTRIPLE TILDEaALL EQUAL TOaEQUIVALENT~DaGEOMETRICA" ++
    "LLY ~NaDIFFERENCE BETWEENaAPPROACHES THE LIMITaGEOMETRICALLY EQUAL TOaAPPROXIMATELY EQUAL TO" ++
    " OR THE IMAGE OFaIMAGE OF OR APPROXIMATELY EQUAL TOaCOLON EQUALSaEQUALS COLONaRING IN EQUAL " ++
    "TOf~IaCORRESPONDS~DaESTIMATESbQUIANGULAR TOaSTAR EQUALSaDELTA EQUAL TOaEQUAL TO BY DEFINITIO" ++
    "NaMEASURED BYaQUESTIONED EQUAL TOaNOT~JaIDENTIC~FaNOT ~MaSTRICTLY EQUIVALENT~DaLESS-THAN OR " ++
    "EQUAL~DaGREATER~RaLESS-THAN OVE~KaGREATER~TaLESS-THAN BUT NOT~JaGREATER~WaMUCH LESS-THANfGRE" ++
    "ATER~FaBETWEENaNOT EQUIVALENT TOeLESS-THANeGREATER~FbEITHER LESS-THAN NOR EQUAL TOiGREATER~S" ++
    "aLESS-THAN OR EQUIVALENT~DaGREATER~WaNEITHER LESS-THAN N~QiGREATER~XaLESS-THAN OR GREATER-TH" ++
    "ANaGREATER-THAN OR LESS~FaNEITHER LESS-THAN NOR GREATER~FiGREATER-THAN NOR LESS~FaPRECEDESaS" ++
    "UCCEEDSaPRECEDES OR EQUAL TOaSUCCEED~NaPRECEDES OR EQUIVALENT~DaSUCCEED~SaDOES NOT PRECEDEjS" ++
    "UCCEEDaSUBSET OFcPER~GaNOT A SUB~GiPER~GaSUBSET OF OR EQUAL TOcPER~SaNEITHER A SUBSET OF N~L" ++
    "mPER~TaSUBSET OF WITH NOT~JcPER~YaMULTISETi MULTIPLICATIONjUN~DaSQUARE IMAGE OFhORIGINAL~DhI" ++
    "MAGE OF OR EQUAL TOhORIGINAL~PhCAPiUPaCIRCLED PLUSiMINUSiTIMESiDIVISION SLASHjOT OPERATORiRI" ++
    "NG~JiASTERISK~JiEQUALSiDASHaSQUARED PLUSiMINUSiTIMESiDOT OPERATORaRIGHT TACKaLEF~GaDOWN~FaUP" ++
    "~FaASSERTIONaMODELSaTRUEaFORCESaTRIPLE VERTICAL BAR RIGHT TURNSTILEaDOUBLE VERTICAL BAR DOUB" ++
    "LE~QcES NOT PROVEaNOT TRUEaDOES NOT FORCEaNEGATED DOUBLE VERTICAL BAR DOUBLE RIGHT TURNSTILE" ++
    "aPRECEDES UNDER RELATIONaSUCCEED~QaNORMAL SUBGROUP OFaCONTAINS AS NORMAL SUBGROUPaNORMAL SUB" ++
    "GROUP OF OR EQUAL TOaCONTAINS AS NORMAL SUBGROUP~MaORIGINAL OFaIMAGE~DaMULTIMAPaHERMITIAN CO" ++
    "NJUGATE MATRIXaINTERCALATEaXORaNANDbORaRIGHT ANGLE WITH ARCgTRIANGLEaN-ARY LOGICAL ANDoORgIN" ++
    "TERSECTIONgUN~DaDIAMOND OPERATORbOT~JaSTAR~JaDIVISION TIMESaBOWTIEaLEFT NORMAL FACTOR SEMIDI" ++
    "RECT PRODUCTaRIGHT NORMAL ~ZaLEFT~TaRIGH~UbEVERSED TILDE EQUALSaCURLY LOGICAL ORoANDaDOUBLE " ++
    "SUBSETjPER~DhINTERSECTIONhUN~DaPITCHFORKaEQUAL AND PARALLEL TOaLESS-THAN WITH DOTaGREATER~Oa" ++
    "VERY MUCH LESS-THANkGREATER~FaLESS-THAN EQUAL TO OR~NaGREATER-THAN EQUAL TO OR LESS~Fa~VmGRE" ++
    "ATER~FmPRECEDESmSUCCEEDSaDOES NOT PRECEDE OR EQUALjSUCCEED~JaNOT SQUARE IMAGE OF OR EQUAL TO" ++
    "lORIGINAL~PaSQUARE IMAGE OF OR NOT~JhORIGINAL~TaLESS-THAN BUT NOT EQUIVALENT~DaGREATER-T~ZaP" ++
    "RECEDES~WaSUCCEED~XaNOT NORMAL SUBGROUP OFaDOES NOT CONTAIN AS NORMAL SUBGROUPaNOT NORMAL SU" ++
    "BGROUP OF OR EQUAL TOaDOES NOT CONTAIN AS NORMAL SUBGROUP OR EQUALaVERTICAL ELLIPSISaMIDLINE" ++
    " HORIZONT~LaUP RIGHT DIAGON~LaDOWN~YaELEMENT OF WITH LONG HORIZONTAL STROKEqVERTICAL BAR AT " ++
    "END OF~SaSMALL ELEMENT OF WITH VERTICAL BAR AT~ZaELEMENT OF WITH DOT ABOVEqOVERBARaSMALL ~Xa" ++
    "ELEMENT OF WITH UND~FqTWO HORIZONTAL STROKESaCONTAINS WITH LONG HORIZONTAL STROKEoVERTICAL B" ++
    "AR AT END OF~SaSMALL CONTAINS WITH VERTICAL BAR AT~ZaCONTAINS WITH OVERBARaSMALL ~VaZ NOTATI" ++
    "ON BAG MEMBERSHIPaDIAMETER SIGNaELECTRIC ARROWaHOUSEaUP ARROWHEADaDOWN~KaPROJECTIVEbERSP~GaW" ++
    "AVY LINEaLEFT CEILINGaRIGH~JaLEFT FLOORaRIGH~HaBOTTOM RIGHT CROPhLEF~GaTOP RIGH~GeLEF~GaREVE" ++
    "RSED NOT SIGNaSQUARE LOZENGEaARCaSEGMENTcCTORaTELEPHONE RECORDERaPOSITION INDICATORaVIEWDATA" ++
    " SQUAREaPLACE OF INTEREST SIGNaTURNED NO~GaWATCHaHOURGLASSaTOP LEFT CORNEReRIGH~IaBOTTOM LEF" ++
    "~IhRIGH~IaTOP HALF INTEGRALaBOTTOM~OaFROWNaSMILEaUP ARROWHEAD BETWEEN TWO HORIZONTAL BARSaOP" ++
    "TION KEYaERASE TO THE RIGHTaX IN A RECTANGLE BOXaKEYBOARDaLEFT-POINTING ANGLE BRACKETaRIGH~Y" ++
    "aERASE TO THE LEFTaBENZENE RINGaCYLINDRICITYaALL AROUND-PROFILEaSYMMETRYaTOTAL RUNOUTaDIMENS" ++
    "ION ORIGINaCONICAL TAPERaSLOPEaCOUNTERBOREhSINKaAPL FUNCTIONAL SYMBOL I-BEAMwSQUISH QUADwQUA" ++
    "D EQUAL$DIVIDE(AMOND$JOT$CIRCLEwCIRCLE STILE(JOTwSLASH BARwBACK~JwQUAD SLASH$BACK~F$LESS-THA" ++
    "N$GREATER~FwLEFTWARDS VANEwRIGH~LwQUAD LEFTWARDS ARROW$RIGH~MwCIRCLE BACKSLASHwDOWN TACK UND" ++
    "ERBARxELTA STILEwQUAD DOWN CARET&ELTAwDOWN TACK JOTwUPWARDS VANEwQUAD UPWARDS ARROWwUP TACK " ++
    "OVERBARwDEL STILEwQUAD UP CARET$DELwUP TACK JOTwDOWNWARDS VANEwQUAD DOWNWARDS ARROWyOTE UNDE" ++
    "RBARwDELTA~JxIAMOND~JwJOT~JwCIRCLE~JwUP SHOE JOTwQUOTE QUADwCIRCLE STARwQUAD COLONwUP TACK D" ++
    "IAERESISwDEL~KwSTAR~KwJOT~KwCIRCLE~KwDOWN SHOE STILEwLEFT~LwTILDE DIAERESISwGREATER-THAN~KwC" ++
    "OMMA BARwDEL TILDEwZ~EwSTILE T~ExEMICOLON UNDERBARwQUAD NOT EQUAL$QUESTIONwDOWN CARET TILDEw" ++
    "UP~MwIOTAwRHOwOMEGAwALPHA UNDERBARwEPSILON~JwIOTA~JwOMEG~KwALPHAaNOT CHECK MARKaRIGHT ANGLE " ++
    "WITH DOWNWARDS ZIGZAG ARROWaSHOULDERED OPEN BOXaBELL SYMBOLaVERTICAL LINE WITH MIDDLE DOTaIN" ++
    "SERTION SYMBOLaCONTINUOUS UNDERLINE~HaDISCO~ZaEMPHASIS~HaCOMPOSITION~HaWHITE SQUARE WITH CEN" ++
    "TRE VERTICAL LINEaENTER SYMBOLaALTERNATIVE KEY~HaHELM~HaCIRCLED HORIZONTAL BAR WITH NOTCHiTR" ++
    "IANGLE DOWNaBROKEN CIRCLE WITH NORTHWEST ARROWaUNDO SYMBOLaMONOSTABLE~HaHYSTERESIS~HaOPEN-CI" ++
    "RCUIT-OUTPUT H-TYPE~HuL~MaPASSIVE-PULL-DOWN-OUTPUT~HnUP~OaDIRECT CURRENT SYMBOL FORM TWOaSOF" ++
    "TWARE-FUNCTION SYMBOLaAPL FUNCTIONAL SYMBOL QUADaDECIMAL SEPARATOR KEY SYMBOLaPREVIOUS PAGEa" ++
    "NEXT~FaPRINT SCREEN SYMBOLaCLEAR~OaLEFT PARENTHESIS UPPER HOOKrEXTENSIONrLOWER HOOKaRIGHT PA" ++
    "RENTHESIS UPP~HsEXTENSIONsLOWER HOOKaLEFT SQUARE BRACKET UPPER CORNERuEXTENSIONuLOWER CORNER" ++
    "aRIGHT SQUARE BRACKET UPP~JvEXTENSIONvLOWER CORNERaLEFT CURLY BRACKET UPPER HOOKtMIDDLE PIEC" ++
    "EtLOWER HOOKaCURLY BRACKET EXTENSIONaRIGHT CURLY BRACKET UPPER HOOKuMIDDLE PIECEuLOWER HOOKa" ++
    "INTEGRAL EXTENSIONaHORIZONTAL LINE~KaUPPER LEFT OR LOWER RIGHT CURLY BRACKET SECT~DgRIGHT OR" ++
    " LOWER LEF~XaSUMMATION TOPkBOTTOMaTOP SQUARE BRACKETaBOTTOM~Pv OVER TOP SQUARE BRACKETaRADIC" ++
    "AL SYMBOL BOTTOMaLEFT VERTICAL BOX LINEaRIGH~TaHORIZONTAL SCAN LINE-1v3v7v9aDENTISTRY SYMBOL" ++
    " LIGHT VERTICAL AND TOP RIGHT;BOTTOM~G+WITH CIRCLExDOWN AND HORIZONT~OxUP A~ZxVERTICAL WITH " ++
    "TRIANGLExDOWN AND HORIZONT~QxUP AND~ZxVERTICAL AND WAVExDOWN AND HORIZONTAL WITH~FxUP~ZxDOWN" ++
    " AND HORIZONTALxUP~PxVERTICAL AND TOP LEFT;BOTTOM~FaSQUARE FOOTaRETURN SYMBOLaEJECT~HaVERTIC" ++
    "AL LINE EXTENSIONaMETRICAL BREVEjLONG OVER SHORTjSHORT OVER LONGjLONG OVER TWO SHORTSjTWO SH" ++
    "ORTS OVER LONGuJOINEDkRISEMEkETRA~EjPENT~FaEARTH GROUNDaFUSEaTOP PARENTHESISaBOTTOM~MaTOP CU" ++
    "RLY BRACKETaBOTTOM~OaTOP TORTOISE SHELL~IaBOTTOM~XaWHITE TRAPEZIUMaBENZENE RING WITH CIRCLEa" ++
    "STRAIGHTNESSaFLA~FaAC CURRENTaELECTRICAL INTERSECTIONaDECIMAL EXPONENT SYMBOLaBLACK RIGHT-PO" ++
    "INTING DOUBLE TRIANGLEgLEFT~ZgUP~ZgDOWN~ZgRIGHT-POINTING DOUBLE TRIANGLE WITH VERTICAL BARgL" ++
    "EFT-POINTING DOUBLE T~ZgRIGHT-POINTING TRIANGLE WITH DOUBLE~NaALARM CLOCKaSTOPWATCHaTIMER CL" ++
    "OCKaHOURGLASS WITH FLOWING SANDaBLACK MEDIUM LEFT-POINTING TRIANGLEnRIGH~TnUP~SnDOWN~SaDOUBL" ++
    "E VERTICAL BARaBLACK SQUARE FOR STOPgCIRCLE FOR RECORDaPOWER SYMBOLgON-OFF ~Gi~HgSLEEP~HaOBS" ++
    "ERVER EYE~HaSYMBOL FOR NULLlSTART OF HEADINGuTEXTlEND~ItRANSMISSIONnQUIRYlACKNOWLEDGElBELLmA" ++
    "CKSPACElHORIZONTAL TABULATIONlLINE FEEDlVERTICAL TABULATIONlFORM FEEDlCARRIAGE RETURNlSHIFT " ++
    "OUTrINlDATA LINK ESCAPEmEVICE CONTROL ONE!TWO$HREE!FOURlNEGATIVE ACKNOWLEDGElSYNCHRONOUS IDL" ++
    "ElEND OF TRANSMISSION BLOCKlCANCELlEND OF MEDIUMlSUBSTITUTElESCAPElFILE SEPARATORlGROUP~KlRE" ++
    "CORD~KlUNIT~KlSPACElDELETEaBLANK SYMBOLaOPEN BOXaSYMBOL FOR NEWLINElDELETE FORM TWOlSUBSTITU" ++
    "~L"),
   (0x2440, "aOCR HOOKeCHAIReFORKeINVERTED ~EeBELT BUCKLEfOW TIEfRANCH BANK IDENTIFICATIONeAMOUN" ++
    "T OF CHECKeDASHeCUSTOMER ACCOUNT NUMBEReDOUBLE BACKSLASH"),
   (0x2460, "aCIRCLED DIGIT ONEoTWOpHREEoFOURpIVEoSIXpEVENoEIGHToNINEiNUMBER TENpELEVENpTWELVEqH" ++
    "IRTEENpFOU~FqIF~EpSIX~EqEVEN~EpEIGH~EpNINE~EpTWENTYaPARENTHESIZED DIGIT ONEuTWOvHREEuFOURvIV" ++
    "EuSIXvEVENuEIGHTuNINEoNUMBER TENvELEVENvTWELVEwHIRTEENvFOU~FwIF~EvSIX~EwEVEN~EvEIGH~EvNINE~E" ++
    "vTWENTYaDIGIT ONE FULL STOPgTWO~KhHREE~KgFOUR~KhIVE~KgSIX~KhEVEN~KgEIGHT~KgNINE~KaNUMBER TEN" ++
    "~KhELEV~MhTWELVE~KiHIRTEEN~KhFOU~PiIF~OhSIX~OiEVEN~OhEIGH~OhNINE~OhTWENTY~KaPARENTHESIZED LA" ++
    "TIN SMALL LETTER A,B,C,D,E,F,G,H,I,J,K,L,M,N,O,P,Q,R,S,T,U,V,W,X,Y,ZaCIRCLED LATIN CAPITAL L" ++
    "ETTER A(B(C(D(E(F(G(H(I(J(K(L(M(N(O(P(Q(R(S(T(U(V(W(X(Y(ZoSMALL LETTER A$B$C$D$E$F$G$H$I$J$K" ++
    "$L$M$N$O$P$Q$R$S$T$U$V$W$X$Y$ZiDIGIT ZEROaNEGATIVE CIRCLED NUMBER ELEVENyTWELVEzHIRTEENyFOU~" ++
    "FzIF~EySIX~EzEVEN~EyEIGH~EyNINE~EyTWENTYaDOUBLE CIRCLED DIGIT ONEvTWOwHREEvFOURwIVEvSIXwEVEN" ++
    "vEIGHTvNINEpNUMBER TENaNEGATIVE CIRCLED DIGIT ZEROaBOX DRAWINGS LIGHT HORIZONTALnHEAVY~LnLIG" ++
    "HT VERTICALnHEAVY~JnLIGHT TRIPLE DASH HORIZONTALnHEAVY~XnLIGHT TRIPLE DASH VERTICALnHEAVY~Vn" ++
    "LIGHT QUADRUPLE DASH HORIZONTALnHEAVY ~ZnLIGHT QUADRUPLE DASH VERTICALnHEAVY~YnLIGHT DOWN AN" ++
    "D RIGHTnDOWN LIGHT AND RIGHT HEAVYsHEAVY AND RIGHT LIGHTnHEAVY DOWN AND R~EnLIGHT DOWN AND L" ++
    "EFTnDOWN LIGHT AND LEFT HEAVYsHEAVY AND LEFT LIGHTnHEAVY DOWN AND LEFTnLIGHT UP AND RIGHTnUP" ++
    " LIGHT AND RIGHT HEAVYqHEAVY AND RIGHT LIGHTnHEAVY UP AND R~EnLIGHT UP AND LEFTnUP LIGHT AND" ++
    " LEFT HEAVYqHEAVY AND LEFT LIGHTnHEAVY UP AND LEFTnLIGHT VERTICAL AND RIGHTnVERTICAL LIGHT A" ++
    "ND RIGHT HEAVYnUP HEAVY AND RIGHT DOWN LIGHTnDOWN HEAVY AND RIGHT UP~GnVERTICAL HEAVY AND RI" ++
    "GHT~GnDOWN LIGHT AND RIGHT UP HEAVYnUP LIGHT AND RIGHT DOWN~GnHEAVY VERTICAL AND RIGHTnLIGHT" ++
    " VERTICAL AND LEFTnVERTICAL LIGHT AND LEFT HEAVYnUP HEAVY AND LEFT DOWN LIGHTnDOWN HEAVY AND" ++
    " LEFT UP~GnVERTICAL HEAVY AND LEFT~GnDOWN LIGHT AND LEFT UP HEAVYnUP LIGHT AND LEFT DOWN~GnH" ++
    "EAVY VERTICAL AND LEFTnLIGHT DOWN AND HORIZONTALoEFT HEAVY AND RIGHT DOWN LIGHTnRIGHT HEAVY " ++
    "AND LEF~MnDOWN LIGHT AND HORIZONTAL HEAVYsHEAVY AND HORIZONTAL LIGHTnRIGHT LIGHT AND LEFT DO" ++
    "WN HEAVYnLEFT LIGHT AND RIGH~MnHEAVY DOWN AND HORIZONTALnLIGHT UP~PoEFT HEAVY AND RIGHT UP L" ++
    "IGHTnRIGHT HEAVY AND LEF~KnUP LIGHT AND HORIZONTAL HEAVYqHEAVY AND HORIZONTAL LIGHTnRIGHT LI" ++
    "GHT AND LEFT UP HEAVYnLEFT LIGHT AND RIGH~KnHEAVY UP AND HORIZONTALnLIGHT VERTICAL~PoEFT HEA" ++
    "VY AND RIGHT VERTICAL LIGHTnRIGHT HEAVY AND LEF~QnVERTICAL LIGHT AND HORIZONTAL HEAVYnUP HEA" ++
    "VY AND DOWN HORIZONTAL LIGHTnDOWN HEAVY AND UP~RnVERTICAL HEAVY AND~RnLEFT UP HEAVY AND RIGH" ++
    "T DOWN~GnRIGHT UP HEAVY AND LEF~MnLEFT DOWN HEAVY AND RIGHT UP~GnRIGHT DOWN HEAVY AND LEF~Kn" ++
    "DOWN LIGHT AND UP HORIZONTAL HEAVYnUP LIGHT AND DOWN~RnRIGHT LIGHT AND LEFT VERTIC~InLEFT LI" ++
    "GHT AND RIGH~QnHEAVY VERTICAL AND HORIZONTALnLIGHT DOUBLE DASH~LnHEAVY~XnLIGHT DOUBLE DASH V" ++
    "ERTICALnHEAVY~VnDOUBLE HORIZONTALuVERTICALpWN SINGLE AND RIGHT DOUBLEsDOUBLE AND RIGHT SINGL" ++
    "EpUBLE DOWN AND RIGHTpWN SINGLE AND LEFT DOUBLEsDOUBLE AND LEFT SINGLEpUBLE DOWN AND LEFTnUP" ++
    " SINGLE AND RIGHT DOUBLEqDOUBLE AND RIGHT SINGLEnDOUBLE UP AND RIGHTnUP SINGLE AND LEFT DOUB" ++
    "LEqDOUBLE AND LEFT SINGLEnDOUBLE UP AND LEFTnVERTICAL SINGLE AND RIGHT DOUBLEwDOUBLE AND RIG" ++
    "HT SINGLEnDOUBLE VERTICAL AND RIGHTnVERTICAL SINGLE AND LEFT DOUBLEwDOUBLE AND LEFT SINGLEnD" ++
    "OUBLE VERTICAL AND LEFTpWN SINGLE AND HORIZONTAL DOUBLEsDOUBLE AND HORIZONTAL SINGLEpUBLE DO" ++
    "WN AND HORIZONTALnUP SINGLE AND HORIZONTAL DOUBLEqDOUBLE AND HORIZONTAL SINGLEnDOUBLE UP AND" ++
    " HORIZONTALnVERTICAL SINGLE AND HORIZONTAL DOUBLEwDOUBLE AND HORIZONTAL SINGLEnDOUBLE VERTIC" ++
    "AL AND HORIZONTALnLIGHT ARC DOWN AND RIGHT+LEFTxUP~J)RIGHTtDIAGONAL UPPER RIGHT TO LOWER LEF" ++
    "T.LEFT TO LOWER RIGHT&CROSStLEFTtUPtRIGHTtDOWNnHEAVY LEFTtUPtRIGHTtDOWNnLIGHT LEFT AND HEAVY" ++
    " RIGHTtUP AND HEAVY DOWNnHEAVY LEFT AND LIGHT RIGHTtUP AND LIGHT DOWNaUPPER HALF BLOCKaLOWER" ++
    " ONE EIGHTH~GkQUARTER~GgTHREE EIGHTHS~GgHALF~GgFIVE EIGHTHS~GgTHREE QUARTER~HgSEVEN EIGHTH~H" ++
    "aFULL~GaLEFT SEVEN EIGHTHS~GfTHREE QUARTER~HfFIVE EIGHTH~HfHALF~GfTHREE EIGHTHS~GfONE QUARTE" ++
    "R~GjEIGHTH~GaRIGHT HALF~GaLIGHT SHADEaMEDIUM~GaDARK~GaUPPER ONE EIGHTH BLOCKaRIGHT~RaQUADRAN" ++
    "T LOWER LEFTpRIGHTjUPPER LEFTt AND LOWER LEFT AND LOWER RIGHT)~FyUPPER RIGHT AND LOWER LEFT|" ++
    "WER RIGHTp~Fu AND LOWER LEFT: AND LOWER RIGHTaBLACK SQUAREaWHITE~Hm WITH ROUNDED CORNERSnCON" ++
    "TAINING BLACK SMALL SQUAREaSQUARE WITH HORIZONTAL FILLmVERTIC~HmORTHOGONAL CROSSHATCH~FmUPPE" ++
    "R LEFT TO LOWER RIGHT~FsRIGHT TO LOWER LEF~GmDIAGONAL CROSSHATCH~FaBLACK SMALL SQUAREaWHITE~" ++
    "NaBLACK RECTANGLEaWHITE~KaBLACK VERTICAL~KaWHITE~TaBLACK PARALLELOGRAMaWHITE~OaBLACK UP-POIN" ++
    "TING TRIANGLEaWHITE~VaBLACK UP-POINTING SMALL~JaWHITE U~ZaBLACK RIGHT-POINTING~JaWHITE~YaBLA" ++
    "CK RIGHT-POINTING SMALL~JaWHITE RIGH~ZaBLACK RIGHT-POINTING POINTERaWHITE~XaBLACK DOWN-POINT" ++
    "ING TRIANGLEaWHITE~XaBLACK DOWN-POINTING SMALL~JaWHITE DOW~ZaBLACK LEFT-POINTING~JaWHITE~XaB" ++
    "LACK LEFT-POINTING SMALL~JaWHITE LEF~ZaBLACK LEFT-POINTING POINTERaWHITE~WaBLACK DIAMONDaWHI" ++
    "TE~In CONTAINING BLACK SMALL DIAMONDaFISHEYEaLOZENGEaWHITE CIRCLEaDOTTED~HaCIRCLE WITH VERTI" ++
    "CAL FILLaBULLSEYEbLACK CIRCLEaCIRCLE WITH LEFT HALF BLACKmRIGH~MmLOWER~LmUPP~NsRIGHT QUADRAN" ++
    "T~GmALL BUT UPPER LEF~QaLEFT HALF BLACK CIRCLEaRIGH~TaINVERSE BULLETiWHITE CIRCLEaUPPER HALF" ++
    " ~UaLOWER ~ZaUPPER LEFT QUADRANT CIRCULAR ARCgRIGH~XaLOWER RI~ZgLEF~XaUPPER HALF CIRCLEaLOW~" ++
    "OaBLACK LOWER RIGHT TRIANGLEmLEF~KgUPP~QmRIGH~KaWHITE BULLETaSQUARE WITH LEFT HALF BLACKmRIG" ++
    "H~MmUPPER LEFT DIAGONAL~LmLOWER RIGH~VaWHITE SQUARE WITH VERTICAL BISECTING LINEgUP-POINTING" ++
    " TRIANGLE WITH DOTaUP-POINTING TRIANGLE WITH LEFT HALF BLACK!RIGH~MaLARGE CIRCLEaWHITE SQUAR" ++
    "E WITH UPPER LEFT QUADRANTsLOW~QyRIGH~KsUPP~RgCIRCLE WITH UPPER LEF~KsLOW~QyRIGH~KsUPP~RaUPP" ++
    "ER LEFT TRIANGLEgRIGH~KaLOWER LEF~KaWHITE MEDIUM SQUAREaBLACK~OaWHITE MEDIUM SMALL~HaBLACK~U" ++
    "aLOWER RIGHT TRIANGLE")]

/-- The names of characters from U+2600 to U+2FFF. -/
def pictures : List (Nat × String) :=
  [(0x2600, "aBLACK SUN WITH RAYSaCLOUDaUMBRELLAaSNOWMANaCOMETaBLACK STARaWHITE~FaLIGHTNINGaTHUN" ++
    "DERSTORMaSUNaASCENDING NODEaDE~NaCONJUNCTIONaOPPOSI~EaBLACK TELEPHONEaWHITE~KaBALLOT BOXk WI" ++
    "TH CHECKqXaSALTIREaUMBRELLA WITH RAIN DROPSaHOT BEVERAGEaWHITE SHOGI PIECEaBLACK~MaSHAMROCKa" ++
    "REVERSED ROTATED FLORAL HEART BULLETaBLACK LEFT POINTING INDEXgRIGH~QaWHITE LEF~QgUP~PgRIGHT" ++
    "~PgDOWN~PaSKULL AND CROSSBONESaCAUTION SIGNaRADIOACTIVE~FaBIOHAZARD~FaCADUCEUSaANKHaORTHODOX" ++
    " CROSSaCHI RHObROSS OF LORRAINEjJERUSALEMaSTAR AND CRESCENTaFARSI SYMBOLaADI SHAKTIaHAMMER A" ++
    "ND SICKLEaPEACE SYMBOLaYIN YANGaTRIGRAM FOR HEAVENmLAKEmFIREmTHUNDERmWINDnATERmMOUNTAINmEART" ++
    "HaWHEEL OF DHARMAcITE FROWNING FACEgSMIL~IaBLACK~NaWHITE SUN WITH RAYSaFIRST QUARTER MOONaLA" ++
    "~PaMERCURYaFEMALE SIGNaEARTHaMALE SIGNaJUPITERaSATURNaURANUSaNEPTUNEaPLUTOaARIESaTAURUSaGEMI" ++
    "NIaCANCERaLEOaVIRGOaLIBRAaSCORPIUSbAGITTAR~DaCAPRICORNaAQUARIUSaPISCESaWHITE CHESS KINGmQUEE" ++
    "NmROOKmBISHOPmKNIGHTmPAWNaBLACK CHESS KINGmQUEENmROOKmBISHOPmKNIGHTmPAWNgSPADE SUITaWHITE HE" ++
    "ART~FgDIAMOND~FaBLACK CLUB~FaWHITE SPADE~FaBLACK HEART~FgDIAMOND~FaWHITE CLUB~FaHOT SPRINGSa" ++
    "QUARTER NOTEaEIGHTH~FaBEAMED EIGHTH NOTEShSIXTEEN~IaMUSIC FLAT SIGNgNATURAL~FgSHARP~FaWEST S" ++
    "YRIAC CROSSaEA~PaUNIVERSAL RECYCLING SYMBOLaRECYCLING SYMBOL FOR TYPE-1 PLASTICS!2~J!3~J!4~J" ++
    "!5~J!6~J!7~JvGENERIC MATERIALSaBLACK UNIVERSAL RECYCLING SYMBOLaRECYCLED PAPER~HaPARTIALLY-~" ++
    "VbERMANENT PAPER SIGNaWHEELCHAIR SYMBOLaDIE FACE-1j2j3j4j5j6aWHITE CIRCLE WITH DOT RIGHTsTWO" ++
    " DOTSaBLACK CIRCLE WITH WHITE DOT RIGHTsTWO WHITE DOTSaMONOGRAM FOR YANGoINaDIGRAM FOR GREAT" ++
    "ER YANGlLESSER YINtANGlGREATER YINaWHITE FLAGaBLACK~FaHAMMER AND PICKaANCHORaCROSSED SWORDSa" ++
    "STAFF OF AESCULAPIUSbCALESaALEMBICaFLOWERaGEARaSTAFF OF HERMESaATOM SYMBOLaFLEUR-DE-LISaOUTL" ++
    "INED WHITE STARaTHREE LINES CONVERGING RIGHTxLEFTaWARNING SIGNaHIGH VOLTAGE~FaDOUBLED FEMAL~" ++
    "Gi~JaINTERLOCKED FEMALE AN~LaMALE AND FE~JfWITH STROK~GrAND MALE AND FEMALE ~EaVERTICAL MALE" ++
    " WITH STROK~GaHORIZONT~YaMEDIUM WHITE CIRCLEhBLACK~HhSMALL WHITE~HbARRIAGE SYMBOLaDIVORC~IaU" ++
    "NMARRIED PARTNERSHIP~HaCOFFINaFUNERAL URNaNEUTERaCERESaPALLASaJUNOaVESTAaCHIRONaBLACK MOON L" ++
    "ILITHaSEXTILEcMISE~FaQUINCUNXaSESQUIQUADRATEbOCCER BALLaBASE~EaSQUARED KEYaWHITE DRAUGHTS MA" ++
    "NpKINGaBLACK DRAUGHTS MANpKINGaSNOWMAN WITHOUT SNOWbUN BEHIND CLOUDaRAINaBLACK SNOWMANaTHUND" ++
    "ER CLOUD AND RAINbURNED WHITE SHOGI PIECEhBLACK~MaWHITE DIAMOND IN SQUAREaCROSSING LANESaDIS" ++
    "ABLED CARaOPHIUCHUSaPICKaCAR SLIDINGaHELMET WITH WHITE CROSSaCIRCLED CROSSING LANESbHAINSaNO" ++
    " ENTRYaALTERNATE ONE-WAY LEFT WAY TRAFFICaBLACK TWO~VaWHITE~ZaBLACK LEFT LANE MERGEaWHITE~Qa" ++
    "DRIVE SLOW SIGNaHEAVY WHITE DOWN-POINTING TRIANGLEaLEFT CLOSED ENTRYaSQUARED SALTIREaFALLING" ++
    " DIAGONAL IN WHITE CIRCLE IN BLACK SQUAREaBLACK TRUCKaRESTRICTED LEFT ENTRY-1w2aASTRONOMICAL" ++
    " SYMBOL FOR URANUSaHEAVY CIRCLE WITH STROKE AND TWO DOTS ABOVEaPENTAGRAMaRIGHT-HANDED INTERL" ++
    "ACED ~JaLEFT-HA~ZaINVERT~MaBLACK CROSS ON SHIELDaSHINTO SHRINEaCHURCHbASTLEaHISTORIC SITEaGE" ++
    "AR WITHOUT HUBj HANDLESaMAP SYMBOL FOR LIGHTHOUSEbOUNTAINaUMBRELLA ON GROUNDaFOUNTAINbLAG IN" ++
    " HOLEbERRYaSAILBOATbQUARE FOUR CORNERSbKIERaICE SKATEaPERSON WITH BALLaTENTaJAPANESE BANK SY" ++
    "MBOLaHEADSTONE GRAVEYARD~HaFUEL PUMPaCUP ON BLACK SQUAREaWHITE FLAG WITH HORIZONTAL MIDDLE B" ++
    "LACK STRIPEaBLACK SAFETY SCISSORSaUPPER BLADE~JaBLACK~JaLOWER BLADE~JaWHIT~KgHEAVY CHECK MAR" ++
    "KaTELEPHONE LOCATION SIGNbAPE DRIVEaAIRPLANEaENVELOPEaRAISED FISThHANDaVICTORY~FaWRITING~FaL" ++
    "OWER RIGHT PENCILa~GaUPPER RIGHT ~GaWHITE NIBaBLACK~EaCHECK MARKaHEAVY ~KaMULTIPLICATION XaH" ++
    "EAVY ~QaBALLOT XaHEAVY ~IaOUTLINED GREEK CROSSaHEAVY~MaOPEN CENTRE~GaHEAVY ~RaLATIN~GaSHADOW" ++
    "ED WHITE ~LaOUTLINED~MaMALTESE~GaSTAR OF DAVIDaFOUR TEARDROP-SPOKED ASTERISKfBALLOON~QaHEAVY" ++
    " FOU~ZaFOUR CLUB~QaBLACK FOUR POINTED STARaWHITE~SaSPARKLESbTRESS OUTLINED WHITE STARaCIRCL~" ++
    "NaOPEN CENTRE BLACK~FaBLACK CENTRE WHITE~FaOUTLINED BLACK~FaHEAVY ~TaPINWHEEL~FaSHADOWED WHI" ++
    "TE~FaHEAVY ASTERISKaOPEN CENTRE~JaEIGHT SPOKED~JgPOINTED BLACK STARoPINWHEEL~FaSIX POINTED B" ++
    "LACK~FaEIGHT POINTED RECTILINEAR~LaHEAVY EIGHT POINT~ZaTWELVE POINTED~LaSIXTEEN POINTED ASTE" ++
    "RISKaTEARDROP-SPOK~LaOPEN CENTRE ~YaHEAVY~ZaSIX PETALLED BLACK AND WHITE FLORETTEaBLACK~JaWH" ++
    "ITE~JaEIGHT PETALLED OUTLINED BLACK~JaCIRCLED OPEN CENTRE EIGHT POINTED STARaHEAVY TEARDROP-" ++
    "SPOKED PINWHEEL ASTERISKaSNOWFLAKEaTIGHT TRIFOLIATE ~JaHEAVY CHEVRON~KaSPARKLEaHEAVY ~HaBALL" ++
    "OON-SPOKED ASTERISKaEIGHT TEARDROP-SPOKED PROPELLER~JaHEAVY EIGHT TEARDROP-~ZaCROSS MARKaSHA" ++
    "DOWED WHITE CIRCLEaNEGATIVE SQUARED CROSS MARKaLOWER RIGHT DROP-SHADOWED WHITE SQUAREaUPPER " ++
    "RIGHT D~ZaLOWER RIGHT ~VaUPPER RI~ZaBLACK QUESTION MARK ORNAMENTaWHITE~XgEXCLAMA~SaBLACK DIA" ++
    "MOND MINUS WHITE XaHEAVY EXCLAMATION MARK SYMBOLaLIGHT VERTICAL BARaMEDIUM~NaHEAVY~NgSINGLE " ++
    "TURNED COMMA QUOTATION MARK ORNAMENTnCOMM~ZgDOUBLE TURNED COMM~ZnCOMM~ZgLOW SINGLE COMM~ZkDO" ++
    "UBLE COMM~ZaCURVED STEM PARAGRAPH SIGN~JaHEAVY EXCLAMATION MARK~JgHEART ~ZgBLACK HEARTaROTAT" ++
    "ED HEAVY BLACK HEART BULLETaFLORAL HEARTaROTATED FLORAL HEART BULLETaMEDIUM LEFT PARENTHESIS" ++
    " ORNAMENThRIGH~WhFLATTENED LEF~WrRIGH~WhLEFT-POINTING ANGLE BRACKET~JhRIGHT-POINTI~ZaHEAVY L" ++
    "EFT-POINTING ANGLE QUOTATION MARK~JgRIGHT-POINTING ANGL~ZgLEFT-POINTING ANGLE BRACKET~JgRIGH" ++
    "T-POINTI~ZaLIGHT LEFT TORTOISE SHELL~RgRIGHT TORTOI~ZaMEDIUM LEFT CURLY~RhRIGH~YaDINGBAT NEG" ++
    "ATIVE CIRCLED DIGIT ONE*TWO+HREE*FOUR+IVE*SIX+EVEN*EIGHT*NINEzNUMBER TENiCIRCLED SANS-SERIF " ++
    "DIGIT ONE,TWO.HREE,FOUR.IVE,SIX.EVEN,EIGHT,NINE$NUMBER TENiNEGATIVE CIRCLED SANS-SERIF DIGIT" ++
    " ONE|TWO|THREE|FOUR|FIVE|SIX|SEVEN|EIGHT|NINE;NUMBER TENaHEAVY WIDE-HEADED RIGHTWARDS ARROWg" ++
    "PLUS SIGNgMIN~HgDIVISION~FgSOUTH EAST ARROWgRIGHTWARDS~GgNORTH EAST~GaDRAFTING POINT RIGHTWA" ++
    "RDS~GaHEAVY ROUND-TIPPED~RaTRIANGLE-HEAD~TaHEAVY TRIANGL~ZaDASHED TRIANGL~ZaHEAVY DASHED TRI" ++
    "ANGL~ZaBLACK~RaTHREE-D TOP-LIGHTED RIGHTWARDS ARROWHEADiBOTTOM-LIG~ZaBLACK~VaHEAVY BLACK CUR" ++
    "VED DOWNWARDS AND RIGHTWARDS ARROWtUPW~ZaSQUAT BLACK~RaHEAVY CONCAVE-POINTED~XaRIGHT-SHADED " ++
    "WHITE~RaLEFT-SHAD~ZaBACK-TILTED SHADOW~ZaFRONT-TILTED SHADOW~ZaHEAVY LOWER RIGHT-SHADOW~ZgUP" ++
    "PER RIGHT-SHADOW~ZaNOTCHED LOWER RIGHT-SHADOW~ZaCURLY LOOPaNOTCHED UPPER RIGHT-SHADOWED WHIT" ++
    "E RIGHTWARDS ARROWaCIRCLED HEAVY~XaWHITE-FEATHERED~RaBLACK-FEATHERED SOUTH EAST~GqRIGHTWARDS" ++
    "~GqNORTH EAST~GaHEAVY BLACK-FEATHERED SOU~NwRIGHTWARDS~GwNORTH EAST~GaTEARDROP-BARBED RIGHTW" ++
    "ARDS~GaHEAVY TEARDROP-SHANK~TaWEDGE-TAIL~TaHEAVY WEDG~ZaOPEN-OUTLIN~TaDOUBLE CURLY LOOPaTHRE" ++
    "E DIMENSIONAL ANGLEaWHITE TRIANGLE CONTAINING SMALL WHITE TRI~FaPERPENDICULARaOPEN SUBSEThPE" ++
    "R~DaLEFT S-SHAPED BAG DELIMITERaRIGH~YaOR WITH DOT INSIDEaREVERSE SOLIDUS PRECEDING SUBSETaS" ++
    "UPERSET PRECEDING SOLIDUSaVERTICAL BAR WITH HORIZONTAL STROKEaMATHEMATICAL RISING DIAGONALaL" ++
    "ONG DIVISIONaMATHEMATICAL FALLING DIAGONALaSQUARED LOGICAL ANDqORaWHITE DIAMOND WITH CENTRED" ++
    " DOTaAND WITH~EaELEMENT OF OPENING UPWARDSaLOWER RIGHT CORNER WITH DOTaUPPER LEF~RaLEFT OUTE" ++
    "R JOINaRIGH~MaFULL~LaLARGE UP TACKgDOWN~FbEFT AND RIGHT DOUBLE TURNSTILEpTACKfMULTIMAPbONG R" ++
    "IGHT TACKfLEF~GaUP TACK WITH CIRCLE ABOVEaLOZENGE DIVIDED BY HORIZONTAL RULEaWHITE CONCAVE-S" ++
    "IDED DIAMOND$ WITH LEFTWARDS TICK,RIGH~LgSQUARE WITH LEF~LsRIGH~LaMATHEMATICAL LEFT WHITE SQ" ++
    "UARE BRACKETnRIGH~WnLEFT ANGL~JnRIGH~PnLEFT DOUBLE~OnRIGH~WnLEFT WHITE TORTOISE SHELL~InRIGH" ++
    "T WHI~ZnLEFT FLATTENED PARENTHESISnRIGH~XaUPWARDS QUADRUPLE ARROWaDOWN~VaANTICLOCKWISE GAPPE" ++
    "D CIRC~IaCLOC~ZaRIGHT ARROW WITH CIRCLED PLUSaLONG LEFTWARDS ARROWfRIGH~MfLEFT RIGHT~GjWARDS" ++
    " DOUBLE~GfRIGH~TfLEFT RIGHT~NjWARDS ARROW FROM BARfRIGH~VfLEFTWARDS DOUBLE~PfRIGHTWA~ZqSQUIG" ++
    "GLE ARROWaBRAILLE PATTERN BLANKqDOTS-1v2v12v3v13v23v123v4v14v24v124v34v134v234v1~Dv5v15v25v1" ++
    "25v35v135v235v1~Dv45v145v245v1~Dv345v1~Dv2~Dv1~Ev6v16v26v126v36v136v236v1~Dv46v146v246v1~Dv3" ++
    "46v1~Dv2~Dv1~Ev56v156v256v1~Dv356v1~Dv2~Dv1~Ev456v1~Dv2~Dv1~Ev3~Dv1~Ev2~Ev1~Fv7v17v27v127v37" ++
    "v137v237v1~Dv47v147v247v1~Dv347v1~Dv2~Dv1~Ev57v157v257v1~Dv357v1~Dv2~Dv1~Ev457v1~Dv2~Dv1~Ev3" ++
    "~Dv1~Ev2~Ev1~Fv67v167v267v1~Dv367v1~Dv2~Dv1~Ev467v1~Dv2~Dv1~Ev3~Dv1~Ev2~Ev1~Fv567v1~Dv2~Dv1~" ++
    "Ev3~Dv1~Ev2~Ev1~Fv4~Dv1~Ev2~Ev1~Fv3~Ev1~Fv2~Fv1~Gv8v18v28v128v38v138v238v1~Dv48v148v248v1~Dv" ++
    "348v1~Dv2~Dv1~Ev58v158v258v1~Dv358v1~Dv2~Dv1~Ev458v1~Dv2~Dv1~Ev3~Dv1~Ev2~Ev1~Fv68v168v268v1~" ++
    "Dv368v1~Dv2~Dv1~Ev468v1~Dv2~Dv1~Ev3~Dv1~Ev2~Ev1~Fv568v1~Dv2~Dv1~Ev3~Dv1~Ev2~Ev1~Fv4~Dv1~Ev2~" ++
    "Ev1~Fv3~Ev1~Fv2~Fv1~Gv78v178v278v1~Dv378v1~Dv2~Dv1~Ev478v1~Dv2~Dv1~Ev3~Dv1~Ev2~Ev1~Fv578v1~D" ++
    "v2~Dv1~Ev3~Dv1~Ev2~Ev1~Fv4~Dv1~Ev2~Ev1~Fv3~Ev1~Fv2~Fv1~Gv678v1~Dv2~Dv1~Ev3~Dv1~Ev2~Ev1~Fv4~D" ++
    "v1~Ev2~Ev1~Fv3~Ev1~Fv2~Fv1~Gv5~Dv1~Ev2~Ev1~Fv3~Ev1~Fv2~Fv1~Gv4~Ev1~Fv2~Fv1~Gv3~Fv1~Gv2~Gv1~H" ++
    "aRIGHTWARDS TWO-HEADED ARROW WITH VERTICAL STROKE,DOUBLE ~PaLEFTWARDS DOUBLE ARROW WITH~QaRI" ++
    "GHTWARDS DOUBLE A~ZaLEFT RIGHT DOUBLE A~ZaRIGHTWARDS TWO-HEADED ARROW FROM BARaLEFTWARDS DOU" ++
    "BLE~PaRIGHTWA~ZaDOWNWARDS ARROW WITH HORIZONTAL STROKEaUPWARDS ARR~ZiTRIPLE ARROWaDOWN~SaLEF" ++
    "TWARDS DOUBLE DASH~GaRIGH~YaLEFTWARDS TRIP~NaRIGH~YmWO-HEADED T~QlARROW WITH DOTTED STEMaUPW" ++
    "ARDS ARROW TO BARaDOWN~SaRIGHTWARDS ARROW WITH TAIL WITH VERTICAL STROKE+DOUBLE ~PlTWO-HEADE" ++
    "D ARROW WITH TAIL< WITH VERTICAL STROKE| DOUBLE~QaLEFTWARDS ARROW-TAILaRIGH~RaLEFTWARDS DOUB" ++
    "LE~LaRIGH~YaLEFTWARDS ARROW TO BLACK DIAMONDaRIGHTWAR~ZaLEFTWARDS ARROW FROM BAR~RaRIGHTWARD" ++
    "S ARROW ~ZaNORTH WEST AND SOUTH EAST ARROWgEAST AND SOUTH WE~IgWEST ARROW WITH HOOKgEA~SaSOU" ++
    "~XgWE~SaNORTH WEST ARROW AND NORTH EAST ARROWgEAST ARROW AND SOU~NaSOUTH EAST ARROW AND SOUT" ++
    "H WE~IgWEST ARROW AND NOR~NaRISING DIAGONAL CROSSING FALLING DIAGONALaFALLING DIAGONAL CROSS" ++
    "ING RIS~MaSOUTH EAST ARROW CROSSING NORTH EAST ARROWaNORTH EAST ARROW CROSSING SOU~NaFALLING" ++
    " DIAGONAL CROSSING NOR~NaRISING DIAGONAL CROSSING SOU~NaNORTH EAST ARROW CROSSING NORTH WE~I" ++
    "gWEST ARROW CROSSING NORTH EA~IaWAVE ARROW POINTING DIRECTLY RIGHTaARROW POINTING RIGHTWARDS" ++
    " THEN CURVING UPWARDS>DOWN~FpDOWNWARDS THEN CURVING LEFT~F=RIGH~GaRIGHT-SIDE ARC CLOCKWISE A" ++
    "RROWaLEFT-SIDE ARC ANTI~PaTOP~YaBOTTOM~YaTOP ARC CLOCKWISE ARROW WITH MINUSiANTICLOCKWISE AR" ++
    "ROW WITH PLUSaLOWER RIGHT SEMICIRCULAR CLOCKWISE ARROWgLEFT SEMICIRCULAR ANTI~PaANTICLOCKWIS" ++
    "E CLOSED CIRCL~HaCLOC~ZaRIGHTWARDS ARROW ABOVE SHORT LEFTWARDS~GaLEFTWARDS ARROW ABOVE SHORT" ++
    " RIGH~MaSHORT RIGHTWARDS ARROW ABOVE LEF~MaRIGHTWARDS ARROW WITH PLUS BELOWaLEFTWA~ZaRIGHTWA" ++
    "RDS ARROW THROUGH XaLEFT RIGHT ARROW THROUGH SMALL CIRCLEaUPWARDS TWO-HEADED ARROW FROM~NaLE" ++
    "FT BARB UP RIGHT BARB DOWN HARPOONkDOWN RIGHT BARB UP~IaUP BARB RIGHT DOWN BARB LEFT~IiLEFT " ++
    "DOWN BARB RIGH~JaLEFT BARB UP RIGHT BARB UP~IaUP BARB RIGHT DOWN BARB RIGHT~IaLEFT BARB DOWN" ++
    " RIGHT BARB DOWN~IaUP BARB LEFT DOWN BARB LEFT~IaLEFTWARDS HARPOON WITH BARB UP TO BARaRIGHT" ++
    "WARDS HA~ZaUPWARDS HARPOON WITH BARB RIGHT~HaDOWNWARDS HARPO~ZaLEFTWARDS HARPOON WITH BARB D" ++
    "OWN~HaRIGHTWARDS HARP~ZaUPWARDS HARPOON WITH BARB LEFT~HaDOWNWARDS HARP~ZaLEFTWARDS HARPOON " ++
    "WITH BARB UP FROM~EaRIGHTWARDS HARP~ZaUPWARDS HARPOON WITH BARB RIGHT~JaDOWNWARDS HARPOON~Za" ++
    "LEFTWARDS HARPOON WITH BARB DOWN~JaRIGHTWARDS HARPOO~ZaUPWARDS HARPOON WITH BARB LEFT~JaDOWN" ++
    "WARDS HARPOO~ZaLEFTWARDS HARPOON WITH BARB UP ABOVE LEFTWARDS HARPOON WITH BARB DOWNaUPWARDS" ++
    " HARPOON WITH BARB LEFT BESIDE UPWARDS HARPOON WITH BARB RIGHTaRIGHTWARDS HARPOON WITH BARB " ++
    "UP ABOVE RIGHTWARDS HARPOON WITH BARB DOWNaDOWNWARDS HARPOON WITH BARB LEFT BESIDE DOWNWARDS" ++
    " HARPOON WITH BARB RIGHTaLEFTWARDS HARPOON WITH BARB UP ABOVE RIGHTWARDS HARPOON WITH BARB U" ++
    "P&DOWN ABOVE RIGHTWARDS HARPOON WITH BARB DOWNaRIGHTWARDS HARPOON WITH BARB UP ABOVE LEFTWAR" ++
    "DS HARPOON WITH BARB UP(DOWN ABOVE LEFTWARDS HARPOON WITH BARB DOWNaLEFTWARDS HARPOON WITH B" ++
    "ARB UP ABOVE LONG DASH&DOWN BELOW~KaRIGHTWARDS HARPOON WITH BARB UP ABOVE~K(DOWN BELOW~KaUPW" ++
    "ARDS HARPOON WITH BARB LEFT BESIDE DOWNWARDS HARPOON WITH BARB RIGHTaDOWNWARDS HARPOON WITH " ++
    "BARB LEFT BESIDE UPWARD~ZaRIGHT DOUBLE ARROW WITH ROUNDED HEADaEQUALS SIGN ABOVE RIGHTWARDS " ++
    "ARROWaTILDE OPERATOR~XaLEFTWARDS ARROW ABOVE TILDE OPERATORaRIGHTWARDS A~ZxALMOST EQUAL TOaL" ++
    "ESS-THAN ABOVE LEFTWARDS ARROWcFTWARDS ARROW THROUGH LESS-THANaGREATER-THAN ABOVE RIGHTWARDS" ++
    " ARROWaSUBSET~XaLEFTWARDS ARROW THROUGH SUBSETaSUPERSET ABOVE LEFTWARDS ARROWaLEFT FISH TAIL" ++
    "aRIGH~LaUP~KaDOWN~KaTRIPLE VERTICAL BAR DELIMITERaZ NOTATION SPOTlTYPE COLONaLEFT WHITE CURL" ++
    "Y BRACKETaRIGH~VaLEFT WHITE PARENTHESISaRIGH~TaZ NOTATION LEFT IMAGE BRACKETlRIGH~PlLEFT BIN" ++
    "DING~IlRIGH~RaLEFT SQUARE BRACKET WITH UNDERBARaRIGHT SQU~ZaLEFT SQUARE BRACKET WITH TICK IN" ++
    " TOP CORNERaRIGHT SQUARE BRACKET WITH TICK IN BOTTOM~HaLEFT SQUARE BRACKET W~ZaRIGHT SQUARE " ++
    "BRACKET WITH TICK IN TOP~HaLEFT ANGLE BRACKET WITH DOTaRIGH~YaLEFT ARC LESS-THAN BRACKETaRIG" ++
    "HT ARC GREATER~NaDOUBLE LEFT~ZhRIGHT ARC LESS~NaLEFT BLACK TORTOISE SHELL~IaRIGHT BLA~ZaDOTT" ++
    "ED FENCEaVERTICAL ZIGZAG LINEaMEASURED ANGLE OPENING LEFTaRIGHT ANGLE VARIANT WITH SQUAREaME" ++
    "ASURED RIGHT ANGLE WITH DOTaANGLE WITH S INSIDEbCUTE ANGLEaSPHERICAL ANGLE OPENING LEFTyUPaT" ++
    "URNED ANGLEaREVERS~IaANGLE WITH UNDERBARaREVERSED ~TaOBLIQUE ANGLE OPENING UPwDOWNaMEASURED " ++
    "ANGLE WITH OPEN ARM ENDING IN ARROW POINTING UP AND RIGHT|OW POINTING UP AND LEFT|OW POINTIN" ++
    "G DOWN AND RIGHT|OW POINTING DOWN AND LEFT|OW POINTING RIGHT AND UP|OW POINTING LEF~I|OW POI" ++
    "NTING RIGHT AND DOWN|OW POINTING LEF~KaREVERSED EMPTY SETaEMPTY SET WITH OVERBARpSMALL CIRCL" ++
    "E ABOVEpRIGHT ARROW~GpLEF~NaCIRCLE WITH HORIZONTAL BARgD VERTIC~GiPARALLELiREVERSE SOLIDUSiP" ++
    "ERPENDICULARg DIVIDED BY HORIZONTAL BAR AND TOP HALF DIVIDED BY VERTICAL BARhWITH SUPERIMPOS" ++
    "ED XgD ANTICLOCKWISE-ROTATED DIVISION SIGNaUP ARROW THROUGH CIRCLEaCIRCLED WHITE BULLETi~GiL" ++
    "ESS-THANiGREATER~Fg WITH SMALL CIRCLE TO THE RIGHTmTWO HORIZONTAL STROKES~NaSQUARED RISING D" ++
    "IAGONAL SLASHiFALL~SiASTERISKiSMALL CIRCLEjQUAREaTWO JOINED SQUARESbRIANGLE WITH DOT ABOVEoU" ++
    "NDERBARaS IN TRIANGLEaTRIANGLE WITH SERIFS AT BOTTOMaRIGHT TRIANGLE ABOVE LEFT TRIANGLEaLEFT" ++
    " TRIANGLE BESIDE VERTICAL BARaVERTICAL BAR BESIDE RIGHT TRIANGLEaBOWTIE WITH LEFT HALF BLACK" ++
    "mRIGH~MbLACK BOWTIEaTIMES WITH LEFT HALF BLACKlRIGH~MaWHITE HOURGLASSaBLACK~KaLEFT WIGGLY FE" ++
    "NCEaRIGH~OaLEFT DOUBLE~NaRIGH~VaINCOMPLETE INFINITYaTIE OVER~JaINFINITY NEGATED WITH VERTICA" ++
    "L BARaDOUBLE-ENDED MULTIMAPaSQUARE WITH CONTOURED OUTLINEaINCREASES ASaSHUFFLE PRODUCTaEQUAL" ++
    "S SIGN AND SLANTED PARALLEL+ WITH TILDE ABOVEaIDENTICAL TO AND SLANTED PARALLELaGLEICH STARK" ++
    "aTHERMODYNAMICaDOWN-POINTING TRIANGLE WITH LEFT HALF BLACK&RIGH~MaBLACK DIAMOND WITH DOWN AR" ++
    "ROWgLOZENGEaWHITE CIRCLE WITH DOWN ARROWaBLACK~XaERROR-BARRED WHITE SQUAREnBLACK~HnWHITE DIA" ++
    "MONDnBLACK~InWHITE CIRCLEnBLACK~HaRULE-DELAYEDbEVERSE SOLIDUS OPERATORaSOLIDUS WITH OVERBARa" ++
    "REVERSE SOLIDUS WITH HORIZONTAL STROKEaBIG SOLIDUSeREVERSE ~HaDOUBLE PLUSaTRIP~HaLEFT-POINTI" ++
    "NG CURVED ANGLE BRACKETaRIGHT-POIN~ZaTINYaM~DaN-ARY CIRCLED DOT OPERATORoPLUS~JoTIME~KgUNION" ++
    " OPERATOR WITH DOT!PLUSgSQUARE INTERSECTION OPERATORnUN~MaTWO LOGICAL AND~JmOR~JaN-ARY TIMES" ++
    "~JaMODULO TWO SUMaSUMMATION WITH INTEGRALaQUADRUPLE INTEGRAL OPERATORaFINITE PART INTEGRALaI" ++
    "NTEGRAL WITH DOUBLE STROKEjAVERAGE WITH SLASHaCIRCULATION FUNCTIONaANTICLOCKWISE INTEGRA~EaL" ++
    "INE INTEGRATION WITH RECTANGULAR PATH AROUND POLEwSEMICIRC~VrNOT INCLUDING THE~FaINTEGRAL AR" ++
    "OUND A POINT OPERATORaQUATERNION INTEGRAL~JaINTEGRAL WITH LEFTWARDS ARROW WITH HOOKoTIMES SI" ++
    "GNoINTERSECTIONoUN~DoOVERBARoUND~FaJOINaLARGE LEFT TRIANGLE OPERATORaZ NOTATION SCHEMA COMPO" ++
    "SITIONsPIPINGtROJECTIONaPLUS SIGN WITH SMALL CIRCLE ABOVEpCIRCUMFLEX ACCENT~GpTILDE~GpDOT BE" ++
    "LOWpTILDE~GpSUBSCRIPT TWOpBLACK TRIANGLEaMINUS SIGN WITH COMMA ABOVEqDOT BELOWqFALLING DOTSq" ++
    "RIS~IaPLUS SIGN IN LEFT HALF CIRCLEnRIGH~NaVECTOR OR CROSS PRODUCTaMULTIPLICATION SIGN WITH " ++
    "DOT ABOVEzUNDERBARaSEMIDIRECT PRODUCT WITH BOTTOM CLOSEDbMASH PRODUCTaMULTIPLICATION SIGN IN" ++
    " LEFT HALF CIRCLExRIGH~NaCIRCLED MULTIPLICATION SIGN WITH CIRCUMFLEX ACCENTaMULTIPLICATION S" ++
    "IGN IN DOUBLE CIRCLEaCIRCLED DIVISION SIGNaPLUS SIGN IN TRIANGLEaMIN~TbULTIPLICATION~RaINTER" ++
    "IOR PRODUCTaRIGHTHAND ~QaZ NOTATION RELATIONAL COMPOSITIONaAMALGAMATION OR COPRODUCTaINTERSE" ++
    "CTION WITH DOTaUNION WITH MINUS SIGNlOVERBARaINTERSECT~QsLOGICAL ANDaUNION WITH LOGICAL ORgA" ++
    "BOVE INTERSECTIONaINTERSECTION ABOVE UN~DaUNION ABOVE BAR ABOVE INTERSECT~DaINTERSECTION ABO" ++
    "VE BAR ABOVE UN~DaUNION BESIDE AND JOINED WITH~GaINTERSECTION BESIDE AND JOINED WITH INTERSE" ++
    "CT~DaCLOSED UNION WITH SERIFShINTERSECT~PaDOUBLE SQUARE INTERSECTIONoUN~DaCLOSED UNION WITH " ++
    "SERIFS AND SMASH PRODUCTaLOGICAL AND WITH DOT ABOVEiOR~PaDOUBLE LOGICAL ANDpORaTWO INTERSECT" ++
    "ING LOGICAL ANDzORaSLOPING LARGE~DoANDaLOGICAL OR OVERLAPPING LOGICAL~EiAND WITH MIDDLE STEM" ++
    "iOR~RiAND WITH HORIZONTAL DASHiOR~ViAND WITH DOUBLE OVERBARrUND~FrDOUBLE ~IaSMALL VEE WITH~J" ++
    "aLOGICAL OR WITH DOUBLE OV~FxUND~FaZ NOTATION DOMAIN ANTIRESTRICTIONlRANGE~QaEQUALS SIGN WIT" ++
    "H DOT BELOWaIDENTICAL WITH DOT ABOVEaTRIPLE HORIZONTAL BAR WITH DOUBLE VERTICAL STROKE$TRIP~" ++
    "SbILDE OPERATOR WITH DOT ABOVEuRISING DOTSaSIMILAR MINUS SIMILARaCONGRUENT WITH DOT ABOVEaEQ" ++
    "UALS WITH ASTERISKaALMOST EQUAL TO WITH CIRCUMFLEX ACCENTbPPROXIMATELY EQUAL OR EQUAL TOaEQU" ++
    "ALS SIGN ABOVE PLUS SIGNaPLUS SIGN ABOVE EQUAL~GaEQUALS SIGN ABOVE TILDE OPERATORaDOUBLE COL" ++
    "ON EQUALaTWO CONSECUTIVE EQUALS SIGNSbHREE~ZaEQUALS SIGN WITH TWO DOTS ABOVE AND TWO DOTS BE" ++
    "LOWdIVALENT WITH FOUR DOTS ABOVEaLESS-THAN WITH CIRCLE INSIDEaGREATER~YaLESS-THAN WITH QUEST" ++
    "ION MARK ABOVEaGREATER-THAN~ZaLESS-THAN OR SLANTED EQUAL TOaGREATER~ZaLESS-THAN OR SLANTED E" ++
    "QUAL TO WITH DOT INSIDEaGREATER-THAN OR SLANTED~ZaLESS-THAN OR SLANTED EQUAL TO WITH DOT ABO" ++
    "VEaGREATER-THAN OR SLANTE~ZaLESS-THAN OR SLANTED EQUAL TO WITH DOT ABOVE RIGHTaGREATER-THAN " ++
    "OR SLANTED EQUAL TO WITH DOT ABOVE LEFTaLESS-THAN OR APPROXIMATEaGREATER~UaLESS-THAN AND SIN" ++
    "GLE-LINE NOT EQUAL TOaGREATER-THAN AND~ZaLESS-THAN AND NOT APPROXIMATEaGREATER~ZaLESS-THAN A" ++
    "BOVE DOUBLE-LINE EQUAL ABOVE GREATER-THANaGREATER-THAN ABOVE DOUBLE-LINE EQUAL ABOVE LESS~Fa" ++
    "LESS-THAN ABOVE SIMILAR OR EQUALaGREATER-TH~ZaLESS-THAN ABOVE SIMILAR ABOVE GREATER-THANaGRE" ++
    "ATER-THAN ABOVE SIMILAR ABOVE LESS~FaLESS-THAN ABOVE GREATER-THAN ABOVE DOUBLE-LINE EQUALaGR" ++
    "EATER-THAN ABOVE LESS-THA~ZaLESS-THAN ABOVE SLANTED EQUAL ABOVE GREATER-THAN ABOVE SLANTED~G" ++
    "aGREATER-THAN ABOVE SLANTED EQUAL ABOVE LESS~ZaSLANTED EQUAL TO OR LESS-THANuGREATER~FuLESS-" ++
    "THAN WITH DOT INSIDEuGREATER~VaDOUBLE-LINE EQUAL TO OR LESS-THANyGREATER~FmSLANTED EQUAL TO " ++
    "OR LESS~F+GREATER~FaSIMILAR OR LESS~FlGREATER~FiABOVE LESS-THAN ABOVE EQUALS SIGNoGREATER~Xa" ++
    "DOUBLE NESTED LESS-THANoGREATER~FoLESS-THAN WITH UNDERBARaGREATER-THAN OVERLAPPING LESS-THAN" ++
    "nBESIDE~KaLESS-THAN CLOSED BY CURVEaGREATER~VaLESS-THAN CLOSED BY CURVE ABOVE SLANTED EQUALa" ++
    "GREATER-THAN CLOSED BY ~ZaSMALLER THANaLARG~HaSMALLER THAN OR EQUAL TOaLARG~TaEQUALS SIGN WI" ++
    "TH BUMPY ABOVEaPRECEDES ABOVE SINGLE-LINE EQUALS SIGNaSUCCEEDS ABOV~ZaPRECEDES ABOVE SINGLE-" ++
    "LINE NOT EQUAL TOaSUCCEEDS ABOVE~ZaPRECEDES ABOVE EQUALS SIGNaSUCCEED~TaPRECEDES ABOVE NOT E" ++
    "QUAL TOaSUCCEED~UaPRECEDES ABOVE ALMOS~KaSUCCEED~XaPRECEDES ABOVE NOT~QaSUCCEEDS ~ZaDOUBLE P" ++
    "RECEDEShSUCCEEDSaSUBSET WITH DOTcPER~McBSET WITH PLUS SIGN BELOWcPER~YcBSET WITH MULTIPLICAT" ++
    "ION~LcPERSET WITH ~ZcBSET OF OR EQUAL TO WITH DOT ABOVEcPERSET OF O~ZcBSET OF ABOVE EQUALS S" ++
    "IGNcPER~YcBSET OF ABOVE TILDE OPERATORcPERSE~ZcBSET OF ABOVE ALMOST EQUAL TOcPERSET~ZcBSET O" ++
    "F ABOVE NO~KcPER~ZbQUARE LEFT OPEN BOX OPERATORhRIGH~TaCLOSED SUBSETjPER~DjBSET OR EQUAL TOj" ++
    "PER~PaSUBSET ABOVE SUPERSETcPERSET ABOVE SUB~DcB~QcPERSET ABOVE SUPER~DjBESIDE SUB~DqAND JOI" ++
    "NED BY DASH WITH ~GaELEMENT OF OPENING DOWNWARDSaPITCHFORK WITH TEE TOPaTRANSVERSAL INTERSEC" ++
    "TIONaFORKINGaNON~HaSHORT LEFT TACKgDOWN~FgUP~FaPERPENDICULAR WITH SaVERTICAL BAR TRIPLE RIGH" ++
    "T TURNSTILEaDOUBLE VERTICAL BAR LEF~LaVERTICAL BAR DOUBLE~PaDOUBLE VERTICAL ~ZaLONG DASH FRO" ++
    "M LEFT MEMBER OF DOUBLE VERTICALaSHORT DOWN TACK WITH OVERBARgUP TACK WITH UND~FoABOVE SHORT" ++
    " DOWN TACKaDOUBLE~KhUP~FhSTROKE NOT SIGNaREVERSED ~WaDOES NOT DIVIDE WITH REVERSED NEGATION " ++
    "SLASHaVERTICAL LINE WITH CIRCLE ABOVE!BELOWaDOWN TACK~SaPARALLEL WITH HORIZONTAL STROKEoTILD" ++
    "E OPERATORaTRIPLE VERTICAL BAR BINARY RELATIONuWITH HORIZONTAL STROKEhCOLON OPERATORhNESTED " ++
    "LESS-THANoGREATER~FaDOUBLE-LINE SLANTED LESS-THAN OR EQUAL TOuGREATER~RaTRIPLE SOLIDUS BINAR" ++
    "Y RELATIONaLARGE TRIPLE VERTICAL BAR OPERATORaDOUBLE SOLIDUS~JaWHITE VERTICAL BARaN-ARY ~SbO" ++
    "RTH EAST WHITE ARROWgWE~OaSOUTH EA~OgWE~OaLEFT RIGH~NeWARDS BLACK~GaUP~RaDOWN~RaNORTH EAST~M" ++
    "gWE~OaSOUTH EA~OgWE~OaLEFT RIGH~NaUP DOWN~MaRIGHTWARDS ARROW WITH TIP DOWNWARDS!UP~FaLEFTWAR" ++
    "DS ARROW WITH TIP DOWN~FzUP~FaSQUARE WITH TOP HALF BLACKmBOTTOM~LmUPPER RIGHT DIAGONAL~LmLOW" ++
    "ER LEF~VaDIAMOND WITH LEFT~LnRIGH~MnTOP~LnBOTTOM~LbOTTED SQUAREaBLACK LARGE~HaWHITE~NaBLACK " ++
    "VERY SMALL~HaWHITE~SaBLACK PENTAGONaWHITE~JgHEX~EaBLACK~IaHORIZONTAL ~NaBLACK LARGE CIRCLEgM" ++
    "EDIUM DIAMONDaWHITE~PaBLACK MEDIUM LOZENGEaWHITE~PaBLACK SMALL DIAMONDmLOZENGEaWHITE~OaBLACK" ++
    " HORIZONTAL ELLIPSEaWHITE~TaBLACK VERTIC~KaWHITE~RaLEFT ARROW WITH SMALL CIRCLEaTHREE LEFTWA" ++
    "RDS ARROWSaLEFT ARROW WITH CIRCLED PLUSbONG LEFTWARDS SQUIGGLE ARROWbEFTWARDS TWO-HEADED ARR" ++
    "OW WITH VERTICAL STROKE+DOUBLE ~P$FROM BARvTRIPLE DASH ARROWkARROW WITH DOTTED STEMvTAIL WIT" ++
    "H VERTICAL STROKE*DOUBLE ~PkTWO-HEADED ARROW WITH TAIL; WITH VERTICAL STROKE|DOUBLE ~PkARROW" ++
    " THROUGH XaWAVE ARROW POINTING DIRECTLY LEFTaEQUALS SIGN ABOVE LEFTWARDS ARROWaREVERSE TILDE" ++
    " OPERATOR~WaLEFTWARDS ARROW ABOVE REVERSE ALMOST EQUAL TOaRIGHTWARDS ARROW THROUGH GREATER-T" ++
    "HANzSUPERSETaLEFTWARDS QUADRUPLE ARROWaRIGH~WbEVERSE TILDE OPERATOR ABOVE RIGHTWARDS~GbIGHTW" ++
    "ARDS ARROW ABOVE REVERSE ALMOST EQUAL TOaTILDE OPERATOR ABOVE LEFTWARDS ARROWaLEFTWARDS ARRO" ++
    "W ABOVE ALMOST EQUAL TOwREVERSE TILDE OPERATORaRIGHTWARDS ARROW ABO~ZaDOWNWARDS TRIANGLE-HEA" ++
    "DED ZIGZAG ARROWaSHORT SLANTED NORTH~GgBACKSLANTED SOU~IaWHITE MEDIUM STARaBLACK SMALL~FaWHI" ++
    "TE~LaBLACK RIGHT-POINTING PENTAGONaWHITE~YaHEAVY LARGE CIRCLEgOVAL WITH OVAL INSIDEgCIRCLE W" ++
    "ITH CIRCLE~HmmD SALTIREaSLANTED NORTH ARROW WITH HOOKED HEADaBACKSLANTED SOUTH ARROW WITH HO" ++
    "OKED TAILaSLANTED NORTH ARROW WITH HORIZONTAL~FaBACKSLANTED SOUTH A~ZbENT ARROW POINTING DOW" ++
    "NWARDS THEN NORTH EASTaSHORT BENT ARROW POINTING ~ZaLEFTWARDS TRIANGLE-HEADED ARROWaUPWA~ZaR" ++
    "IGHTWA~ZaDOWNWA~ZaLEFT RIGHT~WaUP DOWN~WaNORTH WEST~WgEA~YaSOUTH E~ZgWE~YaLEFTWARDS TRIANGLE" ++
    "-HEADED DASH~IaUPWARDS TRI~ZaRIGHTWARDS TRI~ZaDOWNWARDS TRI~ZaCLOCKWISE TRIANGLE-HEADED OPEN" ++
    " CIRCLE~GaANTICLOCKWISE TRIANGLE~ZaLEFTWARDS TRIANGLE-HEADED ARROW TO BARaUPWARDS TRI~ZaRIGH" ++
    "TWARDS TRI~ZaDOWNWARDS TRI~Z"),
   (0x2B76, "aNORTH WEST TRIANGLE-HEADED ARROW TO BARgEAST TRI~ZaSOUTH EAST TRI~ZgWEST TRI~ZaLEF" ++
    "TWARDS TRIANGLE-HEADED ARROW WITH DOUBLE HORIZONTAL STROKEaUPWARDS TRIANGLE-HEADED ARROW WIT" ++
    "H~ZaRIGHTWARDS TRIANGLE-HEADED ARROW WITH~ZaDOWNWARDS TRIANGLE-HEADED ARROW WITH~ZaHORIZONTA" ++
    "L TAB KEYaVERTIC~KaLEFTWARDS TRIANGLE-HEADED ARROW OVER RIGHTWARDS TRIANGLE-HEADED ARROWaUPW" ++
    "ARDS TRIANGLE-HEADED ARROW LEFTWARDS OF DOWNWA~ZaRIGHTWARDS TRIANGLE-HEADED ARROW OVER LEFTW" ++
    "A~ZaDOWNWARDS TRIANGLE-HEADED ARROW LEFTWARDS OF UPWA~ZaLEFTWARDS TRIANGLE-HEADED PAIRED ARR" ++
    "OWSaUPWARDS TRIA~ZaRIGHTWARDS TRIA~ZaDOWNWARDS TRIA~ZaLEFTWARDS BLACK CIRCLED WHITE ARROWaUP" ++
    "WARDS ~ZaRIGHTWARDS ~ZaDOWNWARDS ~ZaANTICLOCKWISE TRIANGLE-HEADED RIGHT U-SHAPED~G)BOTTOM~P)" ++
    "LEFT~P)TOP~PaRETURN LEFThRIGHTaNEWLINE LEFTiRIGHTaFOUR CORNER ARROWS CIRCLING ANTICLOCKWISEa" ++
    "RIGHTWARDS BLACK ARROW"),
   (0x2B97, "aSYMBOL FOR TYPE A ELECTRONICSaTHREE-D TOP-LIGHTED LEFTWARDS EQUILATERAL ARROWHEADi" ++
    "RIGHT-LIGHTED UPWA~ZiTOP-LIGHTED RIGHTWA~ZiLEFT-LIGHTED DOWNWA~ZaBLACK LEFTWA~ZgUPWA~ZgRIGHT" ++
    "WA~ZgDOWNWA~ZaDOWNWARDS TRIANGLE-HEADED ARROW WITH LONG TIP LEFTWARDS|TIP RIGH~GaUPWARDS TRI" ++
    "ANGLE-HEADED ARROW WITH LONG TIP LEF~G|P RIGH~GaLEFTWARDS TRIANGLE-HEADED ARROW WITH LONG TI" ++
    "P UP~FaRIGHTWARDS TRIANGLE-HEADED AR~ZaLEFTWARDS TRIANGLE-HEADED ARROW WITH LONG TIP DOWN~Fa" ++
    "RIGHTWARDS TRIANGLE-HEADED ARRO~ZaBLACK CURVED DOWNWARDS AND LEFTWARDS ARROW$RIGH~MnUPWARDS " ++
    "AND LEF~MzRIGH~MnLEFTWARDS AND UP~LnRIGH~YnLEFTWARDS AND DOWN~LnRIGHT~ZaRIBBON ARROW DOWN LE" ++
    "FTsRIGHTnUP LEFTqRIGHTnLEFT UPnRIGH~EnLEFT DOWNnRIGH~GaUPWARDS WHITE ARROW FROM BAR WITH HOR" ++
    "IZONTAL BARc ARROWHEAD IN A RECTANGLE BOXaOVERLAPPING WHITE SQUARESsAND BLACK ~Hm~NaBALLOT B" ++
    "OX WITH LIGHT XaCIRCLED XiBOLD XaBLACK SQUARE CENTREDgDIAMOND~IaTURNED BLACK PENTAGONaHORIZO" ++
    "NTAL BLACK OC~Fa~NgMEDIUM UP-POINTING TRIANGLE CENTREDnDOWN-~ZnLEFT-~ZnRIGHT-~ZaNEPTUNE FORM" ++
    " TWOaTOP HALF BLACK CIRCLEaBOTTOM~SaLIGHT FOUR POINTED BLACK CUSPaROTATED LIGH~ZaWHITE FOUR " ++
    "POINTED~FaROTATED ~XaSQUARE POSITION INDICATORaUNCERTAINTY SIGNaGROUP MARKaPLUTO FORM TWOmHR" ++
    "EElFOURmIVEaTRANSPLUTOaPROSERPINAaASTRAEAaHYGIEAaPHOLUSaNESSUSaWHITE MOON SELENAaBLACK DIAMO" ++
    "ND ON CROSSaTRUE LIGHT MOON ARTAaCUPIDOaHADESaZEUSaKRONOSaAPOLLONbDMETOSaVULCANUSaPOSEIDONaL" ++
    "EFT HALF BLACK STARaRIGH~RaSTAR WITH LEFT HALF BLACKkRIGH~MaLEFTWARDS TWO-HEADED ARROW WITH " ++
    "TRIANGLE ARROWHEADSaUPWARDS TWO-HEADED ARROW~ZaRIGHTWARDS TWO-HEADED ARROW~ZaDOWNWARDS TWO-H" ++
    "EADED ARROW~ZaERIS FORM ONEkTWOaSEDNAaRUSSIAN ASTROLOGICAL SYMBOL VIGINTILE&NOV~D&QUINT~D&BI" ++
    "NOV~D&SENTAGON&TREDECILEaEQUALS SIGN WITH INFINITY BELOWaUNITED SYMBOLaSEPARA~KaDOUBL~JaPASS" ++
    "~JaREVERSED RIGHT ANGLEaHELLSCHREIBER PAUSE SYMBOLaGLAGOLITIC CAPITAL LETTER AZU!BUKY!VEDE!G" ++
    "LAGOLI!DOBRO!YESTU!ZHIVETE!DZELO!ZEMLJA!IZHE$NITIAL I~D$!DJERVI!KAKO!LJUDIJE!MYSLITE!NASHI!O" ++
    "NU!POKOJI!RITSI!SLOVO!TVRIDO!UKU!FRITU!HERU!OTU!PE!SHTA!TSI!CHRIVI!SHA!YERU(I$ATI!SPIDERY HA" ++
    "!YU!SMALL YUS: WITH TAIL!YO!IOTATED SMALL YUS!BIG~E!IOTATED ~H!FITA!IZHITSA!SHTAPIC!TROKUTAS" ++
    "TI A!LATINATE MYSLITE!CAUDATE CHRIVIlSMALL LETTER AZUyBUKYyVEDEyGLAGOLIyDOBROyYESTUyZHIVETEy" ++
    "DZELOyZEMLJAyIZHEzNITIAL I~DzyDJERVIyKAKOyLJUDIJEyMYSLITEyNASHIyONUyPOKOJIyRITSIySLOVOyTVRID" ++
    "OyUKUyFRITUyHERUyOTUyPEySHTAyTSIyCHRIVIySHAyYERU$IzATIySPIDERY HAyYUySMALL YUS, WITH TAILyYO" ++
    "yIOTATED SMALL YUSyBIG~EyIOTATED ~HyFITAyIZHITSAySHTAPICyTROKUTASTI AyLATINATE MYSLITEyCAUDA" ++
    "TE CHRIVIaLATIN CAPITAL LETTER L WITH DOUBLE BARgSMALL~ZgCAPITAL LETTER L WITH MIDDLE TILDEv" ++
    "P WITH STROKEvR WITH TAILgSMALL LETTER A WITH STROKEtT WITH DIAGONAL~HgCAPITAL LETTER H WITH" ++
    " DESCENDERgSMAL~ZgCAPITAL LETTER K~PgSMAL~ZgCAPITAL LETTER Z~PgSMAL~ZgCAPITAL LETTER ALPHAvM" ++
    " WITH HOOKvTURNED A(LPHAgSMALL LETTER V WITH RIGHT HOOKgCAPITAL LETTER W WITH~FgSMAL~UtV WIT" ++
    "H CURLgCAPITAL LETTER HALF HgSMAL~PtTAILLESS PHItE WITH NOTCHtTURNED R WITH TAILtO WITH LOW " ++
    "RING INSIDEgLETTER SMALL CAPITAL TURNED EgSUBSCRIPT SMALL LETTER JaMODIFIER LETTER CAPITAL V" ++
    "aLATIN CAPITAL LETTER S WITH SWASH TAILvZ~QaCOPTIC CAPITAL LETTER ALFAhSMAL~NhCAPITAL LETTER" ++
    " VIDAhSMAL~NhCAPITAL LETTER GAMMAhSMAL~OhCAPITAL LETTER DALDAhSMAL~OhCAPITAL LETTER EIEhSMAL" ++
    "~MhCAPITAL LETTER SOUhSMAL~MhCAPITAL LETTER ZATAhSMAL~NhCAPITAL LETTER HATEhSMAL~NhCAPITAL L" ++
    "ETTER THETHEhSMAL~PhCAPITAL LETTER IAUDAhSMAL~OhCAPITAL LETTER KAPAhSMAL~NhCAPITAL LETTER LA" ++
    "ULAhSMAL~OhCAPITAL LETTER MIhSMAL~LhCAPITAL LETTER NIhSMAL~LhCAPITAL LETTER KSIhSMAL~MhCAPIT" ++
    "AL LETTER OhSMAL~KhCAPITAL LETTER PIhSMAL~LhCAPITAL LETTER ROhSMAL~LhCAPITAL LETTER SIMAhSMA" ++
    "L~NhCAPITAL LETTER TAUhSMAL~MhCAPITAL LETTER UAhSMAL~LhCAPITAL LETTER FIhSMAL~LhCAPITAL LETT" ++
    "ER KHIhSMAL~MhCAPITAL LETTER PSIhSMAL~MhCAPITAL LETTER OOUhSMAL~MhCAPITAL LETTER DIALECT-P A" ++
    "LEFhSMAL~XhCAPITAL LETTER OLD COPTIC AINhSMAL~XhCAPITAL LETTER CRYPTOGRAMMIC EIEhSMALL~ZhCAP" ++
    "ITAL LETTER DIALECT-P KAPAhSMAL~XhCAPITAL LETTER DIALECT-P NIhSMAL~VhCAPITAL LETTER CRYPTOGR" ++
    "AMMIC~DhSMAL~ZhCAPITAL LETTER OLD COPTIC OOUhSMAL~XhCAPITAL LETTER SAMPIhSMAL~OhCAPITAL LETT" ++
    "ER CROSSED SHEIhSMAL~VhCAPITAL LETTER OLD COPTIC~FhSMAL~YhCAPITAL LETTER OLD COPTIC ESHhSMAL" ++
    "~XhCAPITAL LETTER AKHMIMIC KHEIhSMAL~WhCAPITAL LETTER DIALECT-P HORIhSMAL~XhCAPITAL LETTER O" ++
    "LD COPTIC~FhSMAL~YhCAPITAL LETTER OLD COPTIC HAhSMAL~WhCAPITAL LETTER L-SHAPED~DhSMAL~UhCAPI" ++
    "TAL LETTER OLD COPTIC HEIhSMAL~XhCAPITAL LETTER OLD COPTIC HAThSMAL~XhCAPITAL LETTER OLD COP" ++
    "TIC GANGIAhSMALL~ZhCAPITAL LETTER OLD COPTIC DJAhSMAL~XhCAPITAL LETTER OLD COPTIC SHIMAhSMAL" ++
    "~ZhCAPITAL LETTER OLD NUBIAN~GhSMAL~ZhCAPITAL LETTER OLD NUBIAN NGIhSMAL~XhCAPITAL LETTER OL" ++
    "D NUBIAN NYIhSMAL~XhCAPITAL LETTER OLD NUBIAN WAUhSMAL~XiYMBOL KAIoMI ROoP~EoSTAUROSoTAU ROo" ++
    "KHI~DoSHIMA SIMAhCAPITAL LETTER CRYPTOGRAMMIC SHEIhSMALL ~ZhCAPITAL LETTER CRYPTOGRAMMIC GAN" ++
    "GIAhSMALL LE~ZhCOMBINING NI ABOVErSPIRITUS ASPER!LENISiAPITAL LETTER BOHAIRIC KHEIhSMAL~W"),
   (0x2CF9, "aCOPTIC OLD NUBIAN FULL STOPsDIRECT QUESTION MARKsIN~UsVERSE DIVIDERhFRACTION ONE H" ++
    "ALFiULL STOPhMORPHOLOGICAL DIVIDERaGEORGIAN SMALL LETTER ANwBANwGANwDONwENwVINwZENwTANwINwKA" ++
    "NwLASwMANwNARwONwPARwZHARwRAEwSANwTARwUNwPHARwK~DwGHANwQARwSHINwC~DxANwJILwCILxHARwXANwJHANw" ++
    "HAExExIEwWEwHARxOE"),
   (0x2D27, "aGEORGIAN SMALL LETTER YN"),
   (0x2D2D, "aGEORGIAN SMALL LETTER AEN"),
   (0x2D30, "aTIFINAGH LETTER YAsBtHsGtHHqBERBER ACADEMY YAJq~DsDtHtDuHrEYrAFsKqTUAREG ~DqYAKHHs" ++
    "HqBERBER ACADEMY ~DqTUAREG~EqYAHHsAsKHqTUAREG ~EqYAQqTUAREG ~DqYIrAZHqAHAGGAR ~EqTUAREG~FqYA" ++
    "LsMsNqTUAREG YAGNzNGqYAPrUrARtRsGHqTUAREG ~EqAYER~FqYAStStHsTtHsCHsTTsVsWsYsZqTAWELLEMET ~Dq" ++
    "YAZZrErO"),
   (0x2D6F, "aTIFINAGH MODIFIER LETTER LABIALIZATION MARKjSEPARATOR~F"),
   (0x2D7F, "aTIFINAGH CONSONANT JOINERaETHIOPIC SYLLABLE LOAsMOAsROAsSOAtHOAsBOAsTOAsCOAsNOAtYO" ++
    "AsGLOTTAL OAsZOAsDOAtDOAsJOAsTHOAsC~DsP~DtOAsGGWAvIvEEw"),
   (0x2DA0, "aETHIOPIC SYLLABLE SSAuUuIuAAuEEvuO"),
   (0x2DA8, "aETHIOPIC SYLLABLE CCAuUuIuAAuEEvuO"),
   (0x2DB0, "aETHIOPIC SYLLABLE ZZAuUuIuAAuEEvuO"),
   (0x2DB8, "aETHIOPIC SYLLABLE CCHAvUvIvAAvEEwvO"),
   (0x2DC0, "aETHIOPIC SYLLABLE QYAuUuIuAAuEEvuO"),
   (0x2DC8, "aETHIOPIC SYLLABLE KYAuUuIuAAuEEvuO"),
   (0x2DD0, "aETHIOPIC SYLLABLE XYAuUuIuAAuEEvuO"),
   (0x2DD8, "aETHIOPIC SYLLABLE GYAuUuIuAAuEEvuO"),
   (0x2DE0, "aCOMBINING CYRILLIC LETTER BE!VE!GHE!DE!ZHE$E!KA!EL$M$N!O!PE!ER$S!TE!HA!TSE!CHE!SHA" ++
    "&CHA!FITA!ES-TE!A!IE!DJERV!MONOGRAPH UK!YAT$U!IOTIFIED A!LITTLE YUS!BIG~E!IOTIFIED ~HaRIGHT " ++
    "ANGLE SUBSTITUTION MARKERmDOTTED ~TaLEFT SUBSTITUTION BRACKETaRIGH~WaLEFT DOTTED~VaRIGHT DO~" ++
    "ZbAISED INTERPOLATION MARKERhDOTTED ~UaDOTTED TRANSPOSI~LaLEFT TRANSPOSITION BRACKETaRIGH~Xb" ++
    "AISED SQUAREaLEFT RAISED OMISSION BRACKETaRIGH~ZaEDITORIAL CORONISaPARAGRAPHOSaFORKED ~LaREV" ++
    "ERSED ~SaHYPODIASTOLEaDOTTED OBELOScWNWARDS ANCORAaUP~MaDOTTED RIGHT-POINTING ANGLEcUBLE OBL" ++
    "IQUE HYPHENaINVERTED INTERROBANGaPALM BRANCHaHYPHEN WITH DIAERESISaTILDE WITH RING ABOVEaLEF" ++
    "T LOW PARAPHRASE BRACKETaRIGH~YaTILDE WITH DOT ABOVEpBELOWaLEFT VERTICAL BAR WITH QUILLaRIGH" ++
    "~ZaTOP LEFT HALF BRACKETeRIGH~OaBOTTOM LEF~OhRIGH~OaLEFT SIDEWAYS U~IaRIGH~UaLEFT DOUBLE PAR" ++
    "ENTHESISaRIGH~UaTWO DOTS OVER ONE DOT PUNCTUATIONaONE DOT OVER TWO DOTS~MaSQUARED FOUR DOT~M" ++
    "aFIVE DOT MARKaREVERSED QUESTION~FaVERTICAL TILDEaRING POINTaWORD SEPARATOR MIDDLE DOTaTURNE" ++
    "D COMMAaRAISED DOThCOMMAaTURNED SEMICOLONaDAGGER WITH LEFT GUARDmRIGH~HaTURNED DAGGERbOP HAL" ++
    "F SECTION SIGNbWO-EM DASHbHREE~IaSTENOGRAPHIC FULL STOPaVERTICAL SIX DOTSaWIGGLY VERTICAL LI" ++
    "NEaCAPITULUMaDOUBLE HYPHENaREVERSED COMMAaDOUBLE LOW-REVERSED-9 QUOTATION MARKbASH WITH LEFT" ++
    " UPTURNbOUBLE SUSPENSION MARKaINVERTED LOW KAVYKAt WITH KAVYKA ABOVEaLOW KAVYKAk WITH DOTaDO" ++
    "UBLE STACKED COMMAcTTED SOLIDUSaTRIPLE DAGGERaMEDIEVAL COMMAaPARAGRAPHUS MARKbUNCTUS ELEVAT~" ++
    "HaCORNISH VERSE DIVIDERbROSS PATTY WITH RIGHT CROSSBARrLEF~KaTIRONIAN SIGN CAPITAL ETaMEDIEV" ++
    "AL EXCLAMATION MARKjQUES~JaLEFT SQUARE BRACKET WITH STROKEaRIGHT S~ZaLEFT SQUARE BRACKET WIT" ++
    "H DOUBLE~HaRIGHT SQUARE B~ZaTOP HALF LEFT PARENTHESISjRIGH~NaBOTTOM HALF LEF~NmRIGH~NaOBLIQU" ++
    "E HYPHEN"),
   (0x2E80, "aCJK RADICAL REPEATmCLIFFmSECOND ONEtTWOuHREEmPERSONmBOXmTABLEmKNIFE ONEsTWOmDIVINA" ++
    "TIONmSEALnMALL ONEsTWOmLAME ONErTWOsHREErFOURmSNAKEmTHREADmSNOUT ONEsTWOmHEART ONEsTWOnANDmR" ++
    "AP"),
   (0x2E9B, "aCJK RADICAL CHOKEmSUNmMOONmDEATHmMOTHERmCIVILIANmWATER ONEsTWOmFIREmPAW ONEqTWOmSI" ++
    "MPLIFIED HALF TREE TRUNKmCOWmDOGmJADEmBOLT OF CLOTHmEYEmSPIRIT ONEtTWOmBAMBOOmSILKmC-SIMPLIF" ++
    "IED ~EmNET ONEqTWOrHREEqFOURmMESHmSHEEPmRAMmEWEmOLDmBRUSH ONEsTWOmMEATnORTARmGRASS ONEsTWOtH" ++
    "REEmTIGERmCLOTHESmWEST ONErTWOmC-SIMPLIFIED SEEmSIMPLIFIED HORNm~EmC-SIMPLIFIED SPEECH!HELLm" ++
    "FOOTmC-SIMPLIFIED CARTmSIMPLIFIED WALKmWALK ONErTWOmCITYn-SIMPLIFIED GOLDmLONG ONErTWOmC-SIM" ++
    "PLIFIED LONGzGATEmMOUND ONEsTWOmRAINmBLUEmC-SIMPLIFIED TANNED LEATHERzLEAFzWINDzFLYmEAT ONEq" ++
    "TWOrHREEmC-SIMPLIFIED EATmHEADmC-SIMPLIFIED HORSEmBONEmGHOSTmC-SIMPLIFIED FISHzBIRDzSALTmSIM" ++
    "PLIFIED WHEATxYELLOWmC-SIMPLIFIED FROGmJ-SIMPLIFIED EVENmC~QmJ-SIMPLIFIED TOOTHmC~RmJ-SIMPLI" ++
    "FIED DRAGONmC~SmTURTLEmJ-SIMPLIFIED ~GmC~S"),
   (0x2F00, "aKANGXI RADICAL ONEpLINEpDOTpSLASHqECONDpHOOKpTWOpLIDpMANpLEGSpENTERqIGHTpDOWN BOXp" ++
    "COVERpICEpTABLEpOPEN BOXpKNIFEpPOWERpWRAPpSPOONpRIGHT OPEN BOXpHIDING ENCLOSUREpTENpDIVINATI" ++
    "ONpSEALpCLIFFpPRIVATEpAGAINpMOUTHpENCLOSUREqARTHpSCHOLARpGOr SLOWLYpEVENINGpBIGpWOMANpCHILDp" ++
    "ROOFpINCHpSMALLpLAMEpCORPSEpSPROUTpMOUNTAINpRIVERpWORKpONESELFpTURBANpDRYpSHORT THREADpDOTTE" ++
    "D CLIFFpLONG STRIDEpTWO HANDSpSHOOTpBOWpSNOUTpBRISTLEpSTEPpHEARTqALBERDpDOORpHANDpBRANCHpRAP" ++
    "pSCRIPTpDIPPERpAXEpSQUAREpNOTpSUNqAYpMOONpTREEpLACKpSTOPpDEATHpWEAPONpDO NOTpCOMPAREpFURpCLA" ++
    "NpSTEAMpWATERpFIREpCLAWpFATHERpDOUBLE XpHALF TREE TRUNKpSLICEpFANGpCOWpDOGpPROFOUNDpJADEpMEL" ++
    "ONpTILEpSWEETpLIFEpUSEpFIELDpBOLT OF CLOTHpSICKNESSpDOTTED TENTpWHITEpSKINpDISHpEYEpSPEARpAR" ++
    "ROWpSTONEqPIRITpTRACKpGRAINpCAVEpSTANDpBAMBOOpRICEpSILKpJARpNETpSHEEPpFEATHERpOLDpANDpPLOWpE" ++
    "ARpBRUSHpMEATqINISTERpSELFpARRIVEpMORTARpTONGUEpOPPOSEpBOATpSTOPPINGpCOLORpGRASSpTIGERpINSEC" ++
    "TpBLOODpWALK ENCLOSUREpCLOTHESpWESTpSEEpHORNpSPEECHpVALLEYpBEANpPIGpBADGERpSHELLpREDqUNpFOOT" ++
    "pBODYpCARTpBITTERpMORNINGpWALKpCITYpWINEpDISTINGUISHpVILLAGEpGOLDpLONGpGATEpMOUNDpSLAVEqHORT" ++
    " TAILED BIRDpRAINpBLUEpWRONGpFACEpLEATHERpTANNED ~HpLEEKpSOUNDpLEAFpWINDpFLYpEATpHEADpFRAGRA" ++
    "NTpHORSEpBONEpTALLpHAIRpFIGHTpSACRIFICIAL WINEpCAULDRONpGHOSTpFISHpBIRDpSALTpDEERpWHEATpHEMP" ++
    "pYELLOWpMILLETpBLACKpEMBROIDERYpFROGpTRIPODpDRUMpRATpNOSEpEVENpTOOTHpDRAGONpTURTLEpFLUTE"),
   (0x2FF0, "aIDEOGRAPHIC DESCRIPTION CHARACTER LEFT TO RIGHT.ABOVE TO BELOW.LEFT TO MIDDLE AND " ++
    "RIGHT.ABOVE TO MIDDLE AND BELOW.FULL SURROUND.SURROUND FROM ABOVE| FROM BELOW| FROM LEFT| FR" ++
    "OM UPPER~F| FROM UPPER RIGHT| FROM LOWER LEFT.OVERLAID")]

end SnippetProfiler.Text.Names
