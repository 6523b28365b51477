/-!
# Names of characters from U+1D000 on

The tables of the names of music, signed languages and letters of formulas, and of games, emblems and
tags, written as `Names.runNames` reads them.
-/

namespace SnippetProfiler.Text.Names

/-- The names of characters from U+1D000 to U+1EFFF. -/
def scores : List (Nat × String) :=
  [(0x1D000, "aBYZANTINE MUSICAL SYMBOL PSILIzDASEIAzPERISPOMENIzOXEIA EKFONITIKON*DIPLIzVAREIA " ++
    "EKFONITIKON+DIPLIzKATHISTIzSYRMATIKIzPARAKLI~EzYPOKRISIS. DIPLIzKREMASTIzAPESO EKFONITIKONzE" ++
    "X~NzTELEIAzKENTIMATAzAPOSTROFOS: DIPLIzSYNEVMAzTHITAzOLIGON ARCHAIONzGOR~MzPSILONzCHAM~EzVAT" ++
    "HYzISON ARCHAIONzKENTIMA~J+TA~JzSAXIMATAzPARICHONzSTAVROS APODEXIAzOXEIAI ARCHAIONzVAR~NzAPO" ++
    "DERMA~J&THEMAzKLASMAzREVMAzPIASMA ARCHAIONzTINAGMAzANATRICHISMAzSE~E!YNAGMA ARCHAION,META ST" ++
    "AVROUzOYRANISMA ARCHAIONzTHEMAzLEMOIzDYOzTRIA!ESSERAzKRATIMATAzAPESO EXO NEOzFTHORA ARCHAION" ++
    "zIMIFTHORAzTROMIKON ARCHAIONzKATAVA TROMIKONzPELASTON!SIFI~EzKONTEVMAzCHOREVMA ARCHAIONzRAPI" ++
    "SMAzPARAKALESMA ARCHAION)LITIKI~JzICHADINzNANAzPETASMAzKONTEVMA ALLOzTROMIKON~FzSTRAGGISMATA" ++
    "zGRONTH~GzISON NEOzOLIG~G!XEIA~EzPETASTIzKOUFISMAzPETASTO~IzKRATIM~JzPELASTON NEOzKENTIMATA " ++
    "NEO ANO+~IzYPSILIzAPOSTROFOS NEO.I SYNDESMO~FzYPORROIzKRATIMOYPORROONzELAFRONzCHAMILIzMIKRON" ++
    " ISONzVAREIA NEOzPIASM~F!SIFISTON~EzOMALONzANTIKENOMAzLYGISMAzPARAKLITIKI NEO)ALESMA~EzETERO" ++
    "N PARAKALESMAzKYLI~DzANTIKENO~HzTROMIKON NEOzEKSTREPTONzSYNAGMA NEO$RMAzCHOREVMA NEOzEPEGERM" ++
    "AzSEISMA NEOzXIRON KLASMAzTROMIKOPSIFISTONzPSIFISTOLYGISMAzTROMIK~I+PARAKALE~DzPSIFIST~MzTRO" ++
    "MIKOSYNAGMAzPSIFIST~IzGORGOSYNTHETONzA~MzETERON ~NzOYRANISMA NEOzTHEMATISMOS ESO=XO) APLOUN&" ++
    "S KAI APOTHESzKATAVASMAzENDOFONONzYFEN KATO)ANOzSTAVROSzKLASMA ANOzDIPLI ARCHAIONzKRATIMA~J." ++
    "LLO,NEOzAPODER~G$LIzDI~DzTR~E!ETRA~DzKORONISzLEIMMA ENOS CHRONOU+DYO CHRONON+TRION~I,ESSAR~K" ++
    "+IMISEOS CHRONOUzGORGON NEO ANO+PARESTIGMENON ARISTERA|NON DEXIAzDIGORGON, PARESTIGMENON ARI" ++
    "STERA KATO|MENON ARISTERA ANO|MENON DEXIAzTRIGORGONzA~EzIMIDI~Fz~HzAGOGI POLI ARGI*ARGOTERI." ++
    "I*METRIA,SI*GORGI:OTERI*POLI GORGIzMARTYRIA PROTOS ICHOS.ALLI ~M.DEYTER~I.ALLI ~O.TRIT~I<FON" ++
    "IAS:ETARTOS ICHOS| LEGETOS~G.~N.PLAGI~IzISAKIA TELOUS ICHIMATOSzAPOSTROFOI~RzFANEROSIS TETRA" ++
    "FONIAS:MONO~G:DI~GzMARTYRIA VARYS ICHOS.PROTO~L:LAGIOS TETARTO~HzGORTHMIKON N APLOUN=DI~FzEN" ++
    "ARXIS KAI FTHORA VOUzIMIFONON(THORONzFTHORA ARCHAION DEYTEROU ICHOU+DIATONIKI PA|NANA+NAOS I" ++
    "CHOS+DIATONIKI DI+SKLIRON DIATONON~D+DIATONIKI KE|ZO|NI KATO|NI ANO+MALAKON CHROMA DIFONIAS|" ++
    "ROMA MONO~G!HTORA SKLIRON CHROMA VASIS!THORA SKLIRON CHROMA SYNAFI+NENANOzCHROA ZYGOS*KLITON" ++
    "*SPATHIzFTHORA I YFESIS TETARTIMORION+ENARMONIOS ANTIFONIAzYFESIS TRITIMORIONzDI~Q,ETAR~I+AP" ++
    "LI DYO DODEKATA+MONOGRAMMOS TESSERA~J+DIGRAMMOS EX~J+TRIGRAMMOS OKTO~JzYFESIS APLI DY~K+MONO" ++
    "GRAMMOS TESSERA~J+DIGRAMMOS EX~J+TRIGRAMMOS OKTO~JzGENIKI DIESIS+YF~EzDIASTOLI APLI MIKRI^EG" ++
    "ALI.DIPLI.THESEOSzSIMANSIS~I_ DISIMOU|TR~G|TETRA~F.ARSEOS^ DISIMOU_TR~G|ETRA~FzDIGRAMMA GG$F" ++
    "TOGGOS OUzSTIGMAzARKTIKO PA,VOU,GA,DI,KE,ZO,NIzKENTIMATA NEO MESO+~J+TA NEO KATO+~J!LASMA~Fz" ++
    "GORGON NEO~F"),
   (0x1D100, "aMUSICAL SYMBOL SINGLE BARLINEpDOUB~KpFINAL~IpREVERSE ~NpDASHED~IpSHORT~IpLEFT REP" ++
    "EAT SIGNpRIGH~NqEPEAT DOTSpDAL SEGNOr CAPOpSEGNOpCODApREPEATED FIGURE-1*2*3pFERMATAw BELOWpB" ++
    "REATH MARKpCAESURApBRACEtKETpONE-LINE STAFFpTWO~LqHREE~LpFOUR~LqIVE~LpSIX~LtSTRING FRETBOARD" ++
    "pFOUR~RpG CLEFv OTTAVA ALTA(BASSApC CLEFpF~Fv OTTAVA ALTA(BASSApDRUM CLEF-1z2"),
   (0x1D129, "aMUSICAL SYMBOL MULTIPLE MEASURE RESTpDOUBLE SHARPwFLATpFLAT UPuDOWNpNATURAL UPxDO" ++
    "WNpSHARP UPvDOWNpQUARTER TONE SHARP&FLATpCOMMON TIMEqUT~FpOTTAVA ALTAwBASSApQUINDICESIMA ALT" ++
    "A&BASSApMULTI RESTpWHOLE~FpHALF~FpQUARTER~FpEIGHTH~FpSIXTEEN~HpTHIRTY-SECOND~FpSIXTY-FOURTH~" ++
    "FpONE HUNDRED TWENTY-EIGH~HpX NOTEHEADpPLUS~JpCIRCLE X~JpSQUARE NOTEHEAD WHITE*BLACKpTRIANGL" ++
    "E NOTEHEAD UP WHITE;BLACK,LEFT WHITE=BLACK,RIGHT WHITE>BLACK,DOWN WHITE=BLACK,UP RIGHT WHITE" ++
    "|BLACKpMOON NOTEHEAD WHITE(BLACKpTRIANGLE-ROUND NOTEHEAD DOWN WHITE|N BLACKpPARENTHESIS NOTE" ++
    "HEADpVOID~JpNOTEHEAD BLACKqULL NOTEHEADpCLUSTER NOTEHEAD WHITE+BLACKpBREVEpWHOLE NOTEpHALF~F" ++
    "pQUARTER~FpEIGHTH~FpSIXTEEN~HpTHIRTY-SECOND~FpSIXTY-FOURTH~FpONE HUNDRED TWENTY-EIGH~HpCOMBI" ++
    "NING STEM!PRECHGESANG S~DzTREMOLO-1,2,3pFINGERED TREMOLO-1+2+3pCOMBINING AUGMENTATION DOTzFL" ++
    "AG-1)2)3)4)5pBEGIN BEAMpEND~FpBEGIN TIEpEND~EpBEGIN SLURpEND~FpBEGIN PHRASEpEND~HpCOMBINING " ++
    "ACCENTzSTACCATOzTENUTOzSTACCATISSIMOzMARCATO+-STACCATOzACCENT~JzLOUREpARPEGGIATO UP!DOWNpCOM" ++
    "BINING DOITzRIPzFLIPzSMEARzBENDzDOUBLE TONGUEzTRIP~JpRINFORZANDOpSUBITOpZpPIANOpMEZZOpFORTEp" ++
    "CRESCENDOpDE~JpGRACE NOTE SLASH!NO ~FpTRqURNpINVERTED ~EpTURN SLASHuUPpORNAMENT STROKE-1*2*3" ++
    "*4*5*6*7*8*9*10+1pHAUPTSTIMMEpNEBEN~GpEND OF ~GpDEGREE SLASHpCOMBINING DOWN BOWzUP~EzHARMONI" ++
    "CzSNAP PIZZICATOpPEDAL MARKvUP ~EpHALF PEDAL~FpGLISSANDO UPzDOWNpWITH FINGERNAILSpDAMPt ALLp" ++
    "MAXIMApLONGApBREVISpSEMIBREVIS WHITE!BLACKpMINIMAv BLACKpSEMIMINIMA WHITE!BLACKpFUSA WHITEuB" ++
    "LACKpLONGA PERFECTA RESTvIM~NpBREVIS~FpSEMI~LpMINIMA~FpSEMI~LpTEMPUS PERFECTUM CUM PROLATION" ++
    "E PERFECTA|IONE IM~I|IONE PERFECTA DIMINUTION-1wIMPERFECTUM CUM PROLATIONE PERFECTA|ATIONE I" ++
    "M~I|ATIONE IMPERFECTA DIMINUTION-1|ATIONE IMPERFECTA DIMINUTION-2|ATIONE IMPERFECTA DIMINUTI" ++
    "ON-3pCROIXpGREGORIAN C CLEFzF~FpSQUARE BpVIRGApPODATUSpCLIVISpSCANDICUSpCLIMA~DpTORCULUSpPOR" ++
    "RECTUSy FLEXUSpSCANDIC~JpTORCULUS RESUPINUSpPES SUBPUNCTISpKIEVAN C CLEFwEND OF PIECEwFINAL " ++
    "NOTEwRECITATIVE MARKwWHOLE NOTEwHALF~FwQUARTER NOTE STEM DOWN^UPwEIGHTH NOTE STEM DOWN>UPwFL" ++
    "AT SIGNpSORIpKORON"),
   (0x1D200, "aGREEK VOCAL NOTATION SYMBOL-1&2&3&4&5&6&7&8&9&10(1(2(3(4(5(6(7(8(9&20(1(2(3(4&50(" ++
    "1(2(3(4gINSTRUMENTAL NOTATION SYMBOL-1:2:4:5:7:8:11;2;3;4;7;8;9:23;4;5;6;7;9:30;2;6;7;8;9:40" ++
    ";2;3;5;7;8;9:50;1;2;3;4aCOMBINING GREEK MUSICAL TRISEMEzETRA~EyPENT~FaGREEK MUSICAL LEIMMA"),
   (0x1D2E0, "aMAYAN NUMERAL ZEROoONEoTWOpHREEoFOURpIVEoSIXpEVENoEIGHToNINEoTENoELEVENoTWELVEpHI" ++
    "RTEENoFOU~FpIF~EoSIX~EpEVEN~EoEIGH~EoNINE~E"),
   (0x1D300, "aMONOGRAM FOR EARTHaDIGRAM FOR HEAVENLY~GmUMAN~GlEARTHLY HEAVENuUMANqaTETRAGRAM FO" ++
    "R CENTREoFULL CIRCLEoMIREDoBARRIERoKEEPING SMALLoCONTRARIETYoASCENToOPPOSITIONoBRANCHING OUT" ++
    "oDEFECTIVENESS OR DISTORTIONpIVERGENCEoYOUTHFULNESSoINCREASEoPENETRATIONoREACHoCONTACToHOLDI" ++
    "NG BACKoWAITINGoFOLLOW~DoADVANCEoRELEASEqSISTANCEoEASEoJOYoCONTENTIONoENDEAVOURoDUTIESoCHANG" ++
    "EoDECISIVENESSoBOLD RESOLUTIONoPACKINGoLEGIONoCLOSENESSoKINSHIPoGATHERINGoSTRENGTHoPURITYoFU" ++
    "LLNESSoRESIDENCEoLAW OR MODELoRESPONSEoGOING TO MEEToENCOUNTERSoSTOVEoGREATNESSoENLARGEMENTo" ++
    "PATTERNoRITUALoFLIGHToVASTNESS OR WASTINGoCONSTANCYoMEASUREoETERNITYoU~EoDIMINISHMENToCLOSED" ++
    " MOUTHoGUARDEDNESSpATHERING INoMASSINGoACCUMULATIONoEMBELLISHMENToDOUBToWATCHoSINKINGoINNERo" ++
    "DEPARTUREpARKENINGpIMM~DoEXHAUSTIONoSEVERANCEpTOPPAGEoHARDNESSoCOMPLETIONpLOSUREoFAIL~DoAGGR" ++
    "AVATIONoCOMPLIANCEoON THE VERGEoDIFFICULTIESoLABOURINGoFOSTE~E"),
   (0x1D360, "aCOUNTING ROD UNIT DIGIT ONEyTWOzHREEyFOURzIVEySIXzEVENyEIGHTyNINEnTENS DIGIT ONEy" ++
    "TWOzHREEyFOURzIVEySIXzEVENyEIGHTyNINEaIDEOGRAPHIC TALLY MARK ONExTWOyHREExFOURyIVEaTALLY MAR" ++
    "K ONElFIVE"),
   (0x1D400, "aMATHEMATICAL BOLD CAPITAL A!B!C!D!E!F!G!H!I!J!K!L!M!N!O!P!Q!R!S!T!U!V!W!X!Y!ZsSMA" ++
    "LL AyByCyDyEyFyGyHyIyJyKyLyMyNyOyPyQyRySyTyUyVyWyXyYyZnITALIC CAPITAL A&B&C&D&E&F&G&H&I&J&K&" ++
    "L&M&N&O&P&Q&R&S&T&U&V&W&X&Y&ZuSMALL A!B!C!D!E!F!G"),
   (0x1D456, "aMATHEMATICAL ITALIC SMALL I!J!K!L!M!N!O!P!Q!R!S!T!U!V!W!X!Y!ZnBOLD ITALIC CAPITAL" ++
    " A,B,C,D,E,F,G,H,I,J,K,L,M,N,O,P,Q,R,S,T,U,V,W,X,Y,ZzSMALL A*B*C*D*E*F*G*H*I*J*K*L*M*N*O*P*Q" ++
    "*R*S*T*U*V*W*X*Y*ZnSCRIPT CAPITAL A"),
   (0x1D49E, "aMATHEMATICAL SCRIPT CAPITAL C&D"),
   (0x1D4A2, "aMATHEMATICAL SCRIPT CAPITAL G"),
   (0x1D4A5, "aMATHEMATICAL SCRIPT CAPITAL J&K"),
   (0x1D4A9, "aMATHEMATICAL SCRIPT CAPITAL N&O&P&Q"),
   (0x1D4AE, "aMATHEMATICAL SCRIPT CAPITAL S&T&U&V&W&X&Y&ZuSMALL A!B!C!D"),
   (0x1D4BB, "aMATHEMATICAL SCRIPT SMALL F"),
   (0x1D4BD, "aMATHEMATICAL SCRIPT SMALL H!I!J!K!L!M!N"),
   (0x1D4C5, "aMATHEMATICAL SCRIPT SMALL P!Q!R!S!T!U!V!W!X!Y!ZnBOLD SCRIPT CAPITAL A,B,C,D,E,F,G" ++
    ",H,I,J,K,L,M,N,O,P,Q,R,S,T,U,V,W,X,Y,ZzSMALL A*B*C*D*E*F*G*H*I*J*K*L*M*N*O*P*Q*R*S*T*U*V*W*X" ++
    "*Y*ZnFRAKTUR CAPITAL A(B"),
   (0x1D507, "aMATHEMATICAL FRAKTUR CAPITAL D(E(F(G"),
   (0x1D50D, "aMATHEMATICAL FRAKTUR CAPITAL J(K(L(M(N(O(P(Q"),
   (0x1D516, "aMATHEMATICAL FRAKTUR CAPITAL S(T(U(V(W(X(Y"),
   (0x1D51E, "aMATHEMATICAL FRAKTUR SMALL A$B$C$D$E$F$G$H$I$J$K$L$M$N$O$P$Q$R$S$T$U$V$W$X$Y$ZnDO" ++
    "UBLE-STRUCK CAPITAL A:B"),
   (0x1D53B, "aMATHEMATICAL DOUBLE-STRUCK CAPITAL D:E:F:G"),
   (0x1D540, "aMATHEMATICAL DOUBLE-STRUCK CAPITAL I:J:K:L:M"),
   (0x1D546, "aMATHEMATICAL DOUBLE-STRUCK CAPITAL O"),
   (0x1D54A, "aMATHEMATICAL DOUBLE-STRUCK CAPITAL S:T:U:V:W:X:Y"),
   (0x1D552, "aMATHEMATICAL DOUBLE-STRUCK SMALL A,B,C,D,E,F,G,H,I,J,K,L,M,N,O,P,Q,R,S,T,U,V,W,X," ++
    "Y,ZnBOLD FRAKTUR CAPITAL A.B.C.D.E.F.G.H.I.J.K.L.M.N.O.P.Q.R.S.T.U.V.W.X.Y.Z!SMALL A+B+C+D+E" ++
    "+F+G+H+I+J+K+L+M+N+O+P+Q+R+S+T+U+V+W+X+Y+ZnSANS-SERIF CAPITAL A+B+C+D+E+F+G+H+I+J+K+L+M+N+O+" ++
    "P+Q+R+S+T+U+V+W+X+Y+ZySMALL A)B)C)D)E)F)G)H)I)J)K)L)M)N)O)P)Q)R)S)T)U)V)W)X)Y)ZyBOLD CAPITAL" ++
    " A<B<C<D<E<F<G<H<I<J<K<L<M<N<O<P<Q<R<S<T<U<V<W<X<Y<Z(SMALL A:B:C:D:E:F:G:H:I:J:K:L:M:N:O:P:Q" ++
    ":R:S:T:U:V:W:X:Y:ZyITALIC CAPITAL A>B>C>D>E>F>G>H>I>J>K>L>M>N>O>P>Q>R>S>T>U>V>W>X>Y>Z*SMALL " ++
    "A<B<C<D<E<F<G<H<I<J<K<L<M<N<O<P<Q<R<S<T<U<V<W<X<Y<ZyBOLD ITALIC CAPITAL A|L B|L C|L D|L E|L " ++
    "F|L G|L H|L I|L J|L K|L L|L M|L N|L O|L P|L Q|L R|L S|L T|L U|L V|L W|L X|L Y|L Z;SMALL A|B|" ++
    "C|D|E|F|G|H|I|J|K|L|M|N|O|P|Q|R|S|T|U|V|W|X|Y|ZnMONOSPACE CAPITAL A*B*C*D*E*F*G*H*I*J*K*L*M*" ++
    "N*O*P*Q*R*S*T*U*V*W*X*Y*ZxSMALL A(B(C(D(E(F(G(H(I(J(K(L(M(N(O(P(Q(R(S(T(U(V(W(X(Y(ZnITALIC S" ++
    "MALL DOTLESS I.J"),
   (0x1D6A8, "aMATHEMATICAL BOLD CAPITAL ALPHA!BETA!GAMMA!DELTA!EPSILON!ZETA!~D!TH~D!IOTA!KAPPA!" ++
    "LAMDA!MU!NU!XI!OMICRON!PI!RHO!THETA SYMBOL!SIGMA!TAU!UPSILON!PHI!CHI!PSI!OMEGAsNABLAsSMALL A" ++
    "LPHAyBETAyGAMMAyDELTAyEPSILONyZETAy~DyTH~DyIOTAyKAPPAyLAMDAyMUyNUyXIyOMICRONyPIyRHOyFINAL SI" ++
    "GMAy~FyTAUyUPSILONyPHIyCHIyPSIyOMEGAsPARTIAL DIFFERENTIALsEPSILON SYMBOLsTHETA~HsKAPP~IsPHI~" ++
    "HsRHO~HsPI~HnITALIC CAPITAL ALPHA&BETA&GAMMA&DELTA&EPSILON&ZETA&~D&TH~D&IOTA&KAPPA&LAMDA&MU&" ++
    "NU&XI&OMICRON&PI&RHO&THETA SYMBOL&SIGMA&TAU&UPSILON&PHI&CHI&PSI&OMEGAuNABLAuSMALL ALPHA!BETA" ++
    "!GAMMA!DELTA!EPSILON!ZETA!~D!TH~D!IOTA!KAPPA!LAMDA!MU!NU!XI!OMICRON!PI!RHO!FINAL SIGMA!~F!TA" ++
    "U!UPSILON!PHI!CHI!PSI!OMEGAuPARTIAL DIFFERENTIALuEPSILON SYMBOLuTHETA~HuKAPP~IuPHI~HuRHO~HuP" ++
    "I~HnBOLD ITALIC CAPITAL ALPHA,BETA,GAMMA,DELTA,EPSILON,ZETA,~D,TH~D,IOTA,KAPPA,LAMDA,MU,NU,X" ++
    "I,OMICRON,PI,RHO,THETA SYMBOL,SIGMA,TAU,UPSILON,PHI,CHI,PSI,OMEGAzNABLAzSMALL ALPHA*BETA*GAM" ++
    "MA*DELTA*EPSILON*ZETA*~D*TH~D*IOTA*KAPPA*LAMDA*MU*NU*XI*OMICRON*PI*RHO*FINAL SIGMA*~F*TAU*UP" ++
    "SILON*PHI*CHI*PSI*OMEGAzPARTIAL DIFFERENTIALzEPSILON SYMBOLzTHETA~HzKAPP~IzPHI~HzRHO~HzPI~Hn" ++
    "SANS-SERIF BOLD CAPITAL ALPHA<BETA<GAMMA<DELTA<EPSILON<ZETA<~D<TH~D<IOTA<KAPPA<LAMDA<MU<NU<X" ++
    "I<OMICRON<PI<RHO<THETA SYMBOL<SIGMA<TAU<UPSILON<PHI<CHI<PSI<OMEGA(NABLA(SMALL ALPHA:BETA:GAM" ++
    "MA:DELTA:EPSILON:ZETA:~D:TH~D:IOTA:KAPPA:LAMDA:MU:NU:XI:OMICRON:PI:RHO:FINAL SIGMA:~F:TAU:UP" ++
    "SILON:PHI:CHI:PSI:OMEGA(PARTIAL DIFFERENTIAL(EPSILON SYMBOL(THETA~H(KAPP~I(PHI~H(RHO~H(PI~H(" ++
    "ITALIC CAPITAL ALPHA|L BETA|L GAMMA|L DELTA|L EPSILON|L ZETA|L ~D|L TH~D|L IOTA|L KAPPA|L LA" ++
    "MDA|L MU|L NU|L XI|L OMICRON|L PI|L RHO|L THETA SYMBOL|L SIGMA|L TAU|L UPSILON|L PHI|L CHI|L" ++
    " PSI|L OMEGA;NABLA;SMALL ALPHA|BETA|GAMMA|DELTA|EPSILON|ZETA|~D|TH~D|IOTA|KAPPA|LAMDA|MU|NU|" ++
    "XI|OMICRON|PI|RHO|FINAL SIGMA|~F|TAU|UPSILON|PHI|CHI|PSI|OMEGA;PARTIAL DIFFERENTIAL;EPSILON " ++
    "SYMBOL;THETA~H;KAPP~I;PHI~H;RHO~H;PI~HnBOLD CAPITAL DIGAMMAsSMAL~J"),
   (0x1D7CE, "aMATHEMATICAL BOLD DIGIT ZEROyONEyTWOzHREEyFOURzIVEySIXzEVENyEIGHTyNINEnDOUBLE-STR" ++
    "UCK DIGIT ZERO,ONE,TWO.HREE,FOUR.IVE,SIX.EVEN,EIGHT,NINEnSANS-SERIF DIGIT ZERO)ONE)TWO*HREE)" ++
    "FOUR*IVE)SIX*EVEN)EIGHT)NINEyBOLD DIGIT ZERO:ONE:TWO;HREE:FOUR;IVE:SIX;EVEN:EIGHT:NINEnMONOS" ++
    "PACE DIGIT ZERO(ONE(TWO)HREE(FOUR)IVE(SIX)EVEN(EIGHT(NINEaSIGNWRITING HAND-FIST INDEXrCIRCLE" ++
    "~GsUP~GrOVAL~GrHINGE~GrANGL~HrFIST INDEX BENTrCIRCLE~LrFIST THUMB UNDER~LwINDEX RAISED KNUCK" ++
    "LE&CUPPED&HINGED. LOWrCIRCLE INDEX HINGErFIST INDEX MIDDLErCIRCLE~NrFIST INDEX MIDDLE BENT:R" ++
    "AISED KNUCKLES:HINGED&UP ~N&HINGED MIDDLE UP&MIDDLE CONJOINED|ED INDEX BENT|ED MIDDLE~F|ED C" ++
    "UPPED|ED HINGED;ROSSEDrCIRCLE~VrFIST MIDDLE BENT OVER INDEXwINDEX BENT OVER MIDDLE&MIDDLE TH" ++
    "UMBrCIRCLE~TrFIST INDEX MIDDLE STRAIGHT THUMB BENT:BENT THUMB STRAIGHT:THUMB BENT:HINGED SPR" ++
    "EAD THUMB SIDE&UP MIDDLE HINGE~M|ED THUMB CONJOINED&HINGED MIDDLE UP THUMB SIDE&MIDDLE UP SP" ++
    "READ THUMB FORWARD:THUMB CUPPED|IRCLED_HOOKED|INGEDwTHUMB BETWEEN INDEX MIDDLE STRAIGHTwINDE" ++
    "X MIDDLE CONJOINED THUMB SIDE|ED THUMB SIDE CONJOINED|ED THUMB SIDE BENTwMIDDLE THUMB HOOKED" ++
    " INDEX UPwINDEX THUMB HOOKED MIDDLE~D&MIDDLE CONJOINED HINGED THUMB SIDE;ROSS~N;ONJOINED THU" ++
    "MB FORWARD|ED CUPP~QwMIDDLE THUMB CUPPED INDEX UPwINDEX THUMB CUPPED MIDDLE~DwMIDDLE THUMB C" ++
    "IRCLED INDEX~D| INDEX HINGEDwINDEX THUMB ANGLED OUT MIDDLE UP_IN~K.CIRCLED~K&MIDDLE THUMB CO" ++
    "NJOINED HINGED_ANGLED OUT|NGLEDwMIDDLE THUMB ANGLED OUT INDEX UP|OUT INDEX CROSSED|INDEX UPw" ++
    "INDEX THUMB HOOKED MIDDLE HINGEDsLAT FOUR FINGERS. BENT:HINGED:CONJOINED|ED SPLITrCLAW FOUR " ++
    "FINGERS CONJOINEDrFIST FOUR FINGERS CONJOINED BENTrHINGE FOUR FINGERS CONJOINEDrFLAT FIVE FI" ++
    "NGERS SPREADwHEEL ~TwFIVE FINGERS SPREAD FOUR BENTwHEEL FIVE~ZwFIVE FINGERS SPREAD~FwHEEL ~Y" ++
    "wFIVE FINGERS SPREAD THUMB FORWARDrCUP FIVE FINGERS SPREAD^ OPENrHINGE~ZrOVAL FIVE FINGERS S" ++
    "PREADrFLAT FIVE FINGERS SPREAD HINGED|HINGED THUMB SIDE|HINGED NO THUMBvv BETWEEN PALM FACIN" ++
    "GSwHEELwTHUMB SIDEwHEEL ~KwTHUMB BENT&FORWARDwSPLIT INDEX THUMB SIDE&CENTRE. THUMB SIDE|IDE " ++
    "BENT&LITTLErCLAWv THUMB SIDEwNO THUMBwTHUMB FORWARDrHOOK CURLICUEvrCUP OPENuu OPEN THUMB SID" ++
    "Ev~KvOPEN NO THUMBv~IvOPEN THUMB FORWARDv~NtRLICUE OPENzsIRCLErOVALv THUMB SIDEwNO THUMBwTHU" ++
    "MB FORWARDrHINGE OPEN$ THUMB FORWARDww SMALLxOPEN THUMB SIDEx~KxOPEN NO THUMBx~IxTHUMB SIDE " ++
    "TOUCHING INDEX(BETWEEN MIDDLE RINGrANGLErFIST INDEX MIDDLE RINGrCIRCLE~SrHING~TrANGL~TrHINGE" ++
    " LITTLErFIST INDEX MIDDLE RING BENT^CONJOINEDrHINGE IN~ZrFIST LITTLE DOWN, RIPPLE STRAIGHT_C" ++
    "URVED.OTHERS CIRCLED(UPwTHUMB UNDER ~JrCIRCLE~KrOVAL~KrANGLE~KrFIST LITTLE RAISED KNUCKLE(BE" ++
    "NT(TOUCHES THUMB)~ErHINGE~NrFIST LITTLE INDEX~GrHINGE~TrANGLE LITTLE INDEX THUMB INDEX THUMB" ++
    " OUT|INDEX THUMBrFIST LITTLE INDEXrCIRCLE~NrHING~OrANGL~OrFIST INDEX MIDDLE LITTLErCIRCLE~Ur" ++
    "HING~VxRINGrANGLE INDEX MIDDLE LITTLErFIST INDEX MIDDLE CROSS~HrCIRCLE ~ZrFIST RING DOWNrHIN" ++
    "GE RING DOWN INDEX THUMB HOOK MIDDLErANGLE RING DOWN MIDDLE THUMB INDEX CROSSrFIST RING UP$R" ++
    "AISED KNUCKLE$LITTLErCIRCLE~MrOVAL~MrANGLE~MrFIST RING MIDDLE, CONJOINED.RAISED KNUCKLES$IND" ++
    "EX$THUMBrHOOK~LrFIST INDEX RING LITTLErCIRCLE~SsURLICUE INDEX RING LITTLE ONrHOOK INDEX RING" ++
    " LITTLE OUT^IN^UNDERrCUP INDEX RING LITTLErHINGE~SrANGLE INDEX RING LITTLE OUT^rFIST MIDDLE " ++
    "DOWNrHINGE MIDDLErFIST MIDDLE UPrCIRCLE~KrFIST MIDDLE RAISED KNUCKLE(UP THUMB SIDErHOOK MIDD" ++
    "LE THUMBrFIST MIDDLE THUMB LITTLE(~G(RING ~GrCIRCLE~TsURLICUE MIDDLE RING LITTLE ONtP MIDDLE" ++
    " RING LITTLErHINGE~TrANGLE MIDDLE RING LITTLE OUT|IN_rCIRCLE MIDDLE RING LITTLE BENTsLAW MID" ++
    "DLE RING LITTLE CONJOINED|ONJOINED SIDErHOOK MIDDLE RING LITTLE CONJOINED OUT|ONJOINED IN|ON" ++
    "JOINEDsINGE INDEX HINGEDrFIST INDEX THUMB SIDErHINGE~RrFIST INDEX THUMB SIDE THUMB DIAGONAL|" ++
    "MB CONJOINED|MB BENT>INDEX~F>BOTH~F>INDEX HINGE.FORWARD INDEX STRAIGHT|INDEX BENT.HOOK.CURLI" ++
    "CUE<VE THUMB INSIDErCLAW INDEX~ZrFIST INDEX THUMB CURVE THUMB UNDER:IRCLErCUP INDEX THUMB+ O" ++
    "PENrHINGE~R:LARGE.. SMALLrANGLE INDEX THUMB OUT:IN.rFIST~G$ HEEL&SIDE DIAGONAL,CONJOINED,BEN" ++
    "T&FORWARD&BETWEEN INDEX MIDDLE;MIDDLE RING;RING LITTLE&UNDER TWO FINGERS&OV~O&UNDER THREE~I." ++
    "FOUR~I&OVER FOUR RAISED KNUCKLESvv HEELmTOUCH SINGLEsMULTIPLEsBETWEENmGRASP SINGLEsMULTIPLEs" ++
    "BETWEENmSTRIKE SINGLEtMULTIPLEtBETWEENmBRUSH SINGLEsMULTIPLEsBETWEENmRUB SINGLEqMULTIPLEqBET" ++
    "WEENmSURFACE SYMBOLSuBETWEENnQUEEZE LARGE SINGLEuSMALL~HuLARGE MULTIPLEuSMALL~JvEQUENTIALmFL" ++
    "ICK LARGE SINGLEsSMALL~HsLARGE MULTIPLEsSMALL~JtEQUENTIALmSQUEEZE FLICK ALTERNATINGmMOVEMENT" ++
    "-HINGE UP DOWN LARGE:SMALL)SEQUENTIAL$DOWN~L$UP DOWN ALTERNATING LARGE|TING SMALL$SIDE TO SI" ++
    "DE SCISSORSvWALLPLANE FINGER CONTACTvFLOOR~UvWALLPLANE SINGLE STRAIGHT SMALL|IGHT MEDIUM|IGH" ++
    "T LARGE|IGHT LARGEST=WRIST FLEX*DOUBLE STRAIGHT=WRIST FLEX=ALTERNATING|RNATING WRIST FLEX*CR" ++
    "OSS*TRIPLE STRAIGHT MOVEMENT=WRIST FLEX=ALTERNATING|RNATING WRIST FLEX*BEND SMALL;MEDIUM;LAR" ++
    "GE*CORNER SMALL=MEDIUM=LARGE=ROTATION+HECK SMALL<MEDIUM<LARGE*BOX SMALL:MEDIUM:LARGE*ZIGZAG " ++
    "SMALL=MEDIUM=LARGE*PEAKS SMALL<MEDIUM<LARGEmTRAVEL-WALLPLANE ROTATION-WALLPLANE SINGLE|PLANE" ++
    " DOUBLE|PLANE ALTERNATING=FLOORPLANE SINGLE|RPLANE DOUBLE|RPLANE ALTERNATING(SHAK~D(ARM SPIR" ++
    "AL SINGLE^DOUBLE^TRIPLEmMOVEMENT-DIAGONAL AWAY SMALL:MEDIUM:LARGE^ST)TOWARDS SMALL=MEDIUM=LA" ++
    "RGE|EST)BETWEEN AWAY SMALL| MEDIUM| LARGE| LARGEST=TOWARDS SMALL|RDS MEDIUM|RDS LARGE|RDS LA" ++
    "RGESTvFLOORPLANE SINGLE STRAIGHT SMALL|AIGHT MEDIUM|AIGHT LARGE|AIGHT LARGEST>WRIST FLEX+DOU" ++
    "BLE STRAIGHT>WRIST FLEX>ALTERNATING|ERNATING WRIST FLEX+CROSS+TRIPLE STRAIGHT MOVEMENT>WRIST" ++
    " FLEX>ALTERNATING MOVEMENT|ERNATING WRIST FLEX+BEND+CORNER SMALL>MEDIUM>LARGE,HECK+BOX SMALL" ++
    ";MEDIUM;LARGE+ZIGZAG SMALL>MEDIUM>LARGE+PEAKS SMALL=MEDIUM=LARGEmTRAVEL-FLOORPLANE ROTATION-" ++
    "FLOORPLANE SINGLE|ORPLANE DOUBLE|ORPLANE ALTERNATING>WALLPLANE SINGLE|LPLANE DOUBLE|LPLANE A" ++
    "LTERNATING)SHAK~DmMOVEMENT-WALLPLANE CURVE QUARTER SMALL|ER MEDIUM|ER LARGE|ER LARGEST<HALF-" ++
    "CIRCLE SMALL|CIRCLE MEDIUM|CIRCLE LARGE|CIRCLE LARGEST<THREE-QUARTER CIRCLE SMALL|-QUARTER C" ++
    "IRCLE MEDIUM*HUMP SMALL;MEDIUM;LARGE*LOOP SMALL;MEDIUM;LARGE;SMALL DOUBLE*WAVE CURVE DOUBLE " ++
    "SMALL|DOUBLE MEDIUM|DOUBLE LARGE|TRIPLE SMALL|TRIPLE MEDIUM|TRIPLE LARGE*CURVE THEN STRAIGHT" ++
    ";D CROSS SMALL|S MEDIUMmROTATION-WALLPLANE SINGLE*DOUBLE*ALTERNATEmMOVEMENT-WALLPLANE SHAKIN" ++
    "G*CURVE HITTING FRONT WALL*HUMP~T*LOO~U*WAVE~TmROTATION-WALLPLANE SINGL~U*DOUB~V*ALTERNATING" ++
    "~TmMOVEMENT-WALLPLANE CURVE HITTING CHEST*HUMP~O*LOO~P*WAVE~OmROTATION-WALLPLANE SINGL~P*DOU" ++
    "B~Q*ALTERNATING~OmMOVEMENT-WALLPLANE WAVE DIAGONAL PATH SMALL|AL PATH MEDIUM|AL PATH LARGEvF" ++
    "LOORPLANE CURVE HITTING CEILING SMALL|ING CEILING LARGE+HUMP HITTING CEILING SMALL DOUBLE|NG" ++
    " CEILING LARGE~H|NG CEILING SMALL TRIPLE|NG CEILING LARGE~H+LOOP HITTING CEILING SMALL SINGL" ++
    "E|NG CEILING LARGE~H|NG CEILING SMALL DOUBLE|NG CEILING LARGE~H+WAVE HITTING CEILING SMALL|N" ++
    "G CEILING LARGEmROTATION-FLOORPLANE SINGLE HITTING CEILING+DOUB~S+ALTERNATING~QmMOVEMENT-FLO" ++
    "ORPLANE CURVE HITTING FLOOR SMALL|ING FLOOR LARGE+HUMP HITTING FLOOR SMALL DOUBLE|NG FLOOR L" ++
    "ARGE~H|NG FLOOR TRIPLE SMALL TRIPLE|NG FLOOR TRIPLE LARGE~H+LOOP HITTING FLOOR SMALL SINGLE|" ++
    "NG FLOOR LARGE~H|NG FLOOR SMALL DOUBLE|NG FLOOR LARGE~H+WAVE HITTING FLOOR SMALL|NG FLOOR LA" ++
    "RGEmROTATION-FLOORPLANE SINGLE HITTING FLOOR+DOUB~Q+ALTERNATING~OmMOVEMENT-FLOORPLANE CURVE " ++
    "SMALL=MEDIUM=LARGE|EST=COMBINED+HUMP SMALL+LOO~H+WAVE SNAKE=MALL<LARGEmROTATION-FLOORPLANE S" ++
    "INGLE+DOUBLE+ALTERNATINGmMOVEMENT-FLOORPLANE SHAKING PARALLELvWALLPLANE ARM CIRCLE SMALL SIN" ++
    "GLE|MEDIUM~H|SMALL DOUBLE|MEDIUM~HvFLOORPLANE ARM CIRCLE HITTING WALL SMALL SINGLE| HITTING " ++
    "WALL MEDIUM~H| HITTING WALL LARGE~H| HITTING WALL SMALL DOUBLE| HITTING WALL MEDIUM~H| HITTI" ++
    "NG WALL LARGE~HvWALLPLANE WRIST CIRCLE FRONT SINGLE|E FRONT DOUBLEvFLOORPLANE WRIST CIRCLE H" ++
    "ITTING WALL SINGLE|LE HITTING WALL DOUBLEvWALLPLANE FINGER CIRCLES SINGLE|LES DOUBLEvFLOORPL" ++
    "ANE FINGER CIRCLES HITTING WALL SINGLE|CLES HITTING WALL DOUBLEmDYNAMIC ARROWHEAD SMALL)LARG" ++
    "EuFASTuSLOWuTENSEuRELAXEDuSIMULTANEOUS+ ALTERNATINGuEVERY OTHER TIMEuGRADUALmHEADq RIMrMOVEM" ++
    "ENT-WALLPLANE STRAIGHT;TILT!FLOORPLANE STRAIGHT!WALLPLANE CURVE!FLOOR~Lz CIRCLEmFACE DIRECTI" ++
    "ON POSITION NOSE FORWARD TILTING_UP OR DOWN|P OR DOWN TILTINGmEYEBROWS STRAIGHT UP)NEUTRAL)D" ++
    "OWNmDREAMY EYEBROWS NEUTRAL~F&DOWN NEUTRAL&UP~I&NEUTRAL UPmFOREHEAD NEUTRALvCONTACTvWRINKLED" ++
    "mEYES OPENrSQUEEZEDrCLOSEDp BLINK SINGLEwMULTIPLEpS HALF OPENrWIDE~FrHALF CLOSEDrWIDENING MO" ++
    "VEMENTp WINKpLASHES UPwDOWNwFLUTTERINGpGAZE-WALLPLANE STRAIGHT= DOUBLE>ALTERNATINGuFLOORPLAN" ++
    "E STRAIGHT> DOUBLE^ALTERNATINGuWALLPLANE CURVEDuFLOOR~MuWALLPLANE CIRCLINGmCHEEKS PUFFEDtNEU" ++
    "TRALtSUCKEDmTENSE CHEEKS HIGHzMIDDLEzLOWmEARSmNOSE NEUTRALrCONTACTrWRINKLESsIGG~DmAIR BLOWIN" ++
    "G OUTqSUCKING INqBLOW SMALL ROTATIONSqSUCK~QmBREATH INHALEtEX~EmMOUTH CLOSED NEUTRALzFORWARD" ++
    "zCONTACTsSMILEx WRINKLEDyOPENsFROWNx WRINKLEDyOPENsOPEN CIRCLExFORWARDxWRINKLEDxOVAL$ WRINKL" ++
    "ED&YAWNxRECTANGLE+ WRINKLED,YAWNsKISSw FORWARDxWRINKLEDsTENSEx FORWARDySUCKEDmLIPS PRESSED T" ++
    "OGETHERp LOWER OVER UPPERqUPPER OVER LOWERmMOUTH CORNERSsWRINKLES SINGLE$DOUBLEmTONGUE STICK" ++
    "ING OUT FARtLICKING LIPStTIP BETWEEN~FxTOUCHING INSIDE MOUTHtINSIDE MOUTH RELAXEDtMOVES AGAI" ++
    "NST CHEEKtCENTRE STICKING OUT!INSIDE MOUTHnEETHr MOVEMENTsON TONGUE$ MOVEMENTvLIPSz MOVEMENT" ++
    "sBITE LIPSmMOVEMENT-WALLPLANE JAWvFLOOR~JmNECKmHAIRmEXCITEMENTmSHOULDER HIP SPINEzPOSITIONSm" ++
    "WALLPLANE SHOULDER HIP MOVEmFLOOR~XmSHOULDER TILTING FROM WAISTmTORSO-WALLPLANE STRAIGHT STR" ++
    "ETCH&CURVED BENDsFLOORPLANE TWISTINGmUPPER BODY TILTING FROM HIP JOINTSmLIMB COMBINATIONrLEN" ++
    "GTH-1y2y3y4y5y6y7mFINGERmLOCATION-WALLPLANE SPACEvFLOOR~Lu HEIGHTvWIDTHvDEPTHvHEAD NECKvTORS" ++
    "OvLIMBS DIGITSmCOMMAmFULL STOPmSEMICOLONm~FmPARENTHESIS"),
   (0x1DA9B, "aSIGNWRITING FILL MODIFIER-2!3!4!5!6"),
   (0x1DAA1, "aSIGNWRITING ROTATION MODIFIER-2)3)4)5)6)7)8)9)10*1*2*3*4*5*6"),
   (0x1DF00, "aLATIN SMALL LETTER FENG DIGRAPH WITH TRILLtREVERSED SCRIPT GgLETTER SMALL CAPITAL" ++
    " TURNED GgSMALL LETTER REVERSED KgLETTER SMALL CAPITAL L WITH BELTgSMALL LETTER LEZH WITH RE" ++
    "TROFLEX HOOKtTURNED Y WITH BELTtREVERSED ENGtTURNED R WITH LONG LEG AND RETROFLEX HOOKu WITH" ++
    " HOOK~TgLETTER RETROFLEX CLICK WITH~PgSMALL LETTER ESH WITH DOUBLE BAR= AND CURLtTURNED T WI" ++
    "TH~FgLETTER INVERTED GLOTTAL STOP~KnSTRETCHED C~KoMALL CAPITAL TURNED KgSMALL LETTER L WITH " ++
    "FISHHOOKtDEZH DIGRAPH WITH PALATAL ~EtL WITH BELT AND~NtENG WITH~NtTURNED R~StR WITH FISHHOO" ++
    "K AND~NtTESH DIGRAPH WITH~NtEZ~TtDEZH DIGRAPH WITH RETROFLEX~FtI WITH STROKE AND~PtO WITH~Pt" ++
    "TESH DIGRAPH~UtC~UtS WITH CURL"),
   (0x1E000, "aCOMBINING GLAGOLITIC LETTER AZU&BUKY&VEDE&GLAGOLI&DOBRO&YESTU&ZHIVETE"),
   (0x1E008, "aCOMBINING GLAGOLITIC LETTER ZEMLJA&IZHE(NITIAL I~D(&DJERVI&KAKO&LJUDIJE&MYSLITE&N" ++
    "ASHI&ONU&POKOJI&RITSI&SLOVO&TVRIDO&UKU&FRITU&HERU"),
   (0x1E01B, "aCOMBINING GLAGOLITIC LETTER SHTA&TSI&CHRIVI&SHA&YERU*I(ATI"),
   (0x1E023, "aCOMBINING GLAGOLITIC LETTER YU&SMALL YUS"),
   (0x1E026, "aCOMBINING GLAGOLITIC LETTER YO&IOTATED SMALL YUS&BIG~E&IOTATED ~H&FITA"),
   (0x1E100, "aNYIAKENG PUACHUE HMONG LETTER MA)TSA)NTA)TA)HA)NA)XA)NKA)CA)LA)SA)ZA)NCA*TSA)KA)D" ++
    "A)NYA*RA)VA)NTXA)~D)FA)RA)QA)YA)NQA)PA)XYA)NPA)DLA)NPLA)HAH)MLA)PLA)GA)RRA)A*A)I)U)O*O)E*E)W"),
   (0x1E130, "aNYIAKENG PUACHUE HMONG TONE-B&M&J&V&S&G&DxSIGN FOR PERSON+THING+LOCATION+ANIMAL+I" ++
    "NVERTEBRATE&XW XWyYLLABLE LENGTHENER"),
   (0x1E140, "aNYIAKENG PUACHUE HMONG DIGIT ZERO(ONE(TWO)HREE(FOUR)IVE(SIX)EVEN(EIGHT(NINE"),
   (0x1E14E, "aNYIAKENG PUACHUE HMONG LOGOGRAM NYAJxCIRCLED CA"),
   (0x1E290, "aTOTO LETTER PAmBAmTAmDAmKAmGAmMAmNAnGAmSAmCHAmYAmWAmJAmHAmRAmLAmImBREATHY ImIUmBR" ++
    "EATHY IUmUmEmBREATHY EmEOmBREATHY EOmOmAEmBREATHY AEmAfSIGN RISING TONE"),
   (0x1E2C0, "aWANCHO LETTER AApoBAoCAoDAoGAoYAoPHAoLAoNAoPAoTApHAoFAoSApHAoJAoZAoWAoVAoKAoOoAUo" ++
    "RAoMAoKHAoHAoEoIoNGAoUoLLHAoTSApRAoONGoAANGpNGoINGoONoENoAANoNYAoUENoYIHhTONE TUPpNImKOIpNIh" ++
    "DIGIT ZEROnONEnTWOoHREEnFOURoIVEnSIXoEVENnEIGHTnNINE"),
   (0x1E2FF, "aWANCHO NGUN SIGN"),
   (0x1E7E0, "aETHIOPIC SYLLABLE HHYAvUvIvAAvEEwvO"),
   (0x1E7E8, "aETHIOPIC SYLLABLE GURAGE HHWAsHHWIvEEw"),
   (0x1E7ED, "aETHIOPIC SYLLABLE GURAGE MWI$EE"),
   (0x1E7F0, "aETHIOPIC SYLLABLE GURAGE QWI$EE&zBWI$EEzKWI$EE&zGWI$EE&zFWI$EEzPWI$EE"),
   (0x1E800, "aMENDE KIKAKUI SYLLABLE M001 KI!2 KA!3 KUz65 KEEz95 KEz76 KOOz48 KOy179 KUAy004 WI" ++
    "!5 WA!6 WUy126 WEEz18 WE!4 WOOy045 WOy194 WUIz43 WEIy061 WVIz49 WVAy139 WVEy007 MIN!8 MAN!9 " ++
    "MUNz59 MENz94 MONy154 MUANz89 MUENy010 BI!1 BA!2 BUy150 BEEy097 BEy103 BOOz38 BOy013 I!4 A!5" ++
    " Uy163 EEz00 Ez65 OOz47 Oz37 EI!1 IN!5~Dz95 ANz78 ENy019 SIz20 SA!1 SUy162 SEEz16 SEz36 SOOy" ++
    "079 SOy196 SIAy025 LI!6 LA!7 LUz84 LEEz73 LEz54 LOOy153 LOz10 LONG LEy016 DI!7 DA!8 DUz89 DE" ++
    "Ey180 DOO!1 DOy022 TI!3 TA!4 TUz91 TEEz55 TEy104 TOOy069 TOz28 JI!9 JAz30 JUy157 JEEz13 JEz6" ++
    "0 JOOy063 JOy175 LONG~Dy031 YI!2 YA!3 YUy109 YEEy080 YEy141 YOOz21 YOy034 FI!5 FA!6 FUz78 FE" ++
    "E!5 FEy133 FOOy088 FOy197 FUAz01 FANy037 NIN!8 NAN!9 NUNy117 NENz69 NONz76 HIy041 HAy186 HUy" ++
    "040 HEEz96 HEz42 HOOy140 HOy083 HEEIy128 HOOUy053 HINy130 HANy087 HUNz52 HENy193 HONy046 HUA" ++
    "Nz90 NGGIz43 NGGAz82 NGGUy115 NGGEEz46 NGGEz56 NGGOOz20 NGGOz59 NGGAAz27 NGGUAy086 LONG NGGE" ++
    "y106 LONG NGGOOz83 LONG NGGOz55 GIz11 GAz68 GUz90 GEEz66 GUEI!7 GUANz84 NGENy057 NGONy177 NG" ++
    "UANy068 PIz99 PAz50 PUz81 PEEz51 PEy102 POOy066 POy145 MBIy062 MBAy122 MBUy047 MBEEy188~Fy07" ++
    "2 MBEy172 MBOO!4 MBOz87 MBUUz61 LONG MBEz05 LONG MBOOz42 LONG MBOz32 KPIy092 KPAz74 KPUz44 K" ++
    "PEEy108 KPEz12 KPOOz58 KPOz24 GBIy056 GBAy148 GBUy093 GBEEy107 GBEy071 GBOO!0 GBOy171 RAz23 " ++
    "NDI!9 NDA!5 NDUz91 NDEEz19 NDEy067 NDOO!4 NDOy152 NJAz92 NJUz49 NJEEz34 NJOOz82 VI!5 VAz51 V" ++
    "Uz73 VEEy085 VEy144 VOOy077 VOy164 NYINy058 NYANy170 NYUNy098 NYENz60 NYON"),
   (0x1E8C7, "aMENDE KIKAKUI DIGIT ONEuTWOvHREEuFOURvIVEuSIXvEVENuEIGHTuNINEoCOMBINING NUMBER TE" ++
    "ENS,NS*HUNDREDS*THOUSANDS+EN T~I*HUNDRED~K*MILLIONS"),
   (0x1E900, "aADLAM CAPITAL LETTER ALIFvDAALIvLAAMvMIIMvBAvSINNYIIYHEvPEvBHEvRAvEvFAvIvOvDHAvYH" ++
    "EvWAWvNUNvKAFvYAvUvJIIMvCHIvHAvQAAFvGAvNYAvTUvNHAvVAvKHAvGBEvZALvKPOvSHAgSMALL LETTER ALIFtD" ++
    "AALItLAAMtMIIMtBAtSINNYIIYHEtPEtBHEtRAtEtFAtItOtDHAtYHEtWAWtNUNtKAFtYAtUtJIIMtCHItHAtQAAFtGA" ++
    "tNYAtTUtNHAtVAtKHAtGBEtZALtKPOtSHAgALIF LENGTHENERgVOWEL~LgGEMINATION MARKgHAMZAgCONSONANT M" ++
    "ODIFIERgGEMINATE ~SgNUKTAhASALIZATION MARK"),
   (0x1E950, "aADLAM DIGIT ZEROmONEmTWOnHREEmFOURnIVEmSIXnEVENmEIGHTmNINE"),
   (0x1E95E, "aADLAM INITIAL EXCLAMATION MARKoQUES~J"),
   (0x1EC71, "aINDIC SIYAQ NUMBER ONEtTWOuHREEtFOURuIVEtSIXuEVENtEIGHTtNINEtTENuWENTYuHIRTYtFO~D" ++
    "uIFTYtSIXTYuEVENTYtEIGHTYtNINETYtONE HUNDREDtTWO~IuHREE~ItFOUR~IuIVE~ItSIX~IuEVEN~ItEIGHT~It" ++
    "NINE~ItONE THOUSANDtTWO~JuHREE~JtFOUR~JuIVE~JtSIX~JuEVEN~JtEIGHT~JtNINE~JtTEN~JuWENTY~JuHIR~" ++
    "LtFO~MuIF~LtSIX~LuEVEN~LtEIGH~LtNINE~LtLAKHxANmLAKH MARKmNUMBER KARORyANtPREFIXED ONE&TWO(HR" ++
    "EE&FOUR(IVE&SIX(EVEN&EIGHT&NINEmPLACEHOLDERmFRACTION ONE QUARTERzHALFvTHREE QUARTERSmRUPEE M" ++
    "ARKmNUMBER ALTERNATE ONE(TWO)EN THOUSANDmALTERNATE LAKH MARK"),
   (0x1ED01, "aOTTOMAN SIYAQ NUMBER ONEvTWOwHREEvFOURwIVEvSIXwEVENvEIGHTvNINEvTENwWENTYwHIRTYvFO" ++
    "~DwIFTYvSIXTYwEVENTYvEIGHTYvNINETYvONE HUNDREDvTWO~IwHREE~IvFOUR~IwIVE~IvSIX~IwEVEN~IvEIGHT~" ++
    "IvNINE~IvONE THOUSANDvTWO~JwHREE~JvFOUR~JwIVE~JvSIX~JwEVEN~JvEIGHT~JvNINE~JvTEN~JwWENTY~JwHI" ++
    "R~LvFO~MwIF~LvSIX~LwEVEN~LvEIGH~LvNINE~LoMARRATANoALTERNATE NUMBER TWO+HREE*FOUR+IVE*SIX+EVE" ++
    "N*EIGHT*NINE*TEN*FOUR HUNDRED*SIX~I*TWO THOUSAND+EN~JoFRACTION ONE HALF$SIXTH"),
   (0x1EE00, "aARABIC MATHEMATICAL ALEFuBEHuJEEMuDAL"),
   (0x1EE05, "aARABIC MATHEMATICAL WAWuZAINuHAHuTAHuYEHuKAFuLAMuMEEMuNOONuSEENuAINuFEHuSADuQAFuR" ++
    "EHuSHEENuTEHvHEHuKHAHuTHALuDADuZAHuGHAINuDOTLESS BEH&NOON&FEH&QAF"),
   (0x1EE21, "aARABIC MATHEMATICAL INITIAL BEH&JEEM"),
   (0x1EE24, "aARABIC MATHEMATICAL INITIAL HEH"),
   (0x1EE27, "aARABIC MATHEMATICAL INITIAL HAH"),
   (0x1EE29, "aARABIC MATHEMATICAL INITIAL YEH&KAF&LAM&MEEM&NOON&SEEN&AIN&FEH&SAD&QAF"),
   (0x1EE34, "aARABIC MATHEMATICAL INITIAL SHEEN&TEH(HEH&KHAH"),
   (0x1EE39, "aARABIC MATHEMATICAL INITIAL DAD"),
   (0x1EE3B, "aARABIC MATHEMATICAL INITIAL GHAIN"),
   (0x1EE42, "aARABIC MATHEMATICAL TAILED JEEM"),
   (0x1EE47, "aARABIC MATHEMATICAL TAILED HAH"),
   (0x1EE49, "aARABIC MATHEMATICAL TAILED YEH"),
   (0x1EE4B, "aARABIC MATHEMATICAL TAILED LAM"),
   (0x1EE4D, "aARABIC MATHEMATICAL TAILED NOON$SEEN$AIN"),
   (0x1EE51, "aARABIC MATHEMATICAL TAILED SAD$QAF"),
   (0x1EE54, "aARABIC MATHEMATICAL TAILED SHEEN"),
   (0x1EE57, "aARABIC MATHEMATICAL TAILED KHAH"),
   (0x1EE59, "aARABIC MATHEMATICAL TAILED DAD"),
   (0x1EE5B, "aARABIC MATHEMATICAL TAILED GHAIN"),
   (0x1EE5D, "aARABIC MATHEMATICAL TAILED DOTLESS NOON"),
   (0x1EE5F, "aARABIC MATHEMATICAL TAILED DOTLESS QAF"),
   (0x1EE61, "aARABIC MATHEMATICAL STRETCHED BEH)JEEM"),
   (0x1EE64, "aARABIC MATHEMATICAL STRETCHED HEH"),
   (0x1EE67, "aARABIC MATHEMATICAL STRETCHED HAH)TAH)YEH)KAF"),
   (0x1EE6C, "aARABIC MATHEMATICAL STRETCHED MEEM)NOON)SEEN)AIN)FEH)SAD)QAF"),
   (0x1EE74, "aARABIC MATHEMATICAL STRETCHED SHEEN)TEH*HEH)KHAH"),
   (0x1EE79, "aARABIC MATHEMATICAL STRETCHED DAD)ZAH)GHAIN)DOTLESS BEH"),
   (0x1EE7E, "aARABIC MATHEMATICAL STRETCHED DOTLESS FEH"),
   (0x1EE80, "aARABIC MATHEMATICAL LOOPED ALEF$BEH$JEEM$DAL$HEH$WAW$ZAIN$HAH$TAH$YEH"),
   (0x1EE8B, "aARABIC MATHEMATICAL LOOPED LAM$MEEM$NOON$SEEN$AIN$FEH$SAD$QAF$REH$SHEEN$TEH&HEH$K" ++
    "HAH$THAL$DAD$ZAH$GHAIN"),
   (0x1EEA1, "aARABIC MATHEMATICAL DOUBLE-STRUCK BEH.JEEM.DAL"),
   (0x1EEA5, "aARABIC MATHEMATICAL DOUBLE-STRUCK WAW.ZAIN.HAH.TAH.YEH"),
   (0x1EEAB, "aARABIC MATHEMATICAL DOUBLE-STRUCK LAM.MEEM.NOON.SEEN.AIN.FEH.SAD.QAF.REH.SHEEN.TE" ++
    "H:HEH.KHAH.THAL.DAD.ZAH.GHAIN"),
   (0x1EEF0, "aARABIC MATHEMATICAL OPERATOR MEEM WITH HAH WITH TATWEEL(HAH WITH DAL")]

/-- The names of characters from U+1F000 on. -/
def emblems : List (Nat × String) :=
  [(0x1F000, "aMAHJONG TILE EAST WINDnSOUTH~FnWEST~FnNORTH~FnRED DRAGONnGREEN~HnWHITE~HnONE OF C" ++
    "HARACTERSnTWO~OoHREE~OnFOUR~OoIVE~OnSIX~OoEVEN~OnEIGHT~OnNINE~OnONE OF BAMBOOSnTWO~LoHREE~Ln" ++
    "FOUR~LoIVE~LnSIX~LoEVEN~LnEIGHT~LnNINE~LnONE OF CIRCLESnTWO~LoHREE~LnFOUR~LoIVE~LnSIX~LoEVEN" ++
    "~LnEIGHT~LnNINE~LnPLUMnORCHIDnBAMBOOnCHRYSANTHEMUMnSPRINGoUMMERnAUTUMNnWINTERnJOKERnBACK"),
   (0x1F030, "aDOMINO TILE HORIZONTAL BACKw-00-00$1$2$3$4$5$6y1-00$1$2$3$4$5$6y2-00$1$2$3$4$5$6y" ++
    "3-00$1$2$3$4$5$6y4-00$1$2$3$4$5$6y5-00$1$2$3$4$5$6y6-00$1$2$3$4$5$6mVERTICAL BACKu-00-00z1z2" ++
    "z3z4z5z6w1-00z1z2z3z4z5z6w2-00z1z2z3z4z5z6w3-00z1z2z3z4z5z6w4-00z1z2z3z4z5z6w5-00z1z2z3z4z5z" ++
    "6w6-00z1z2z3z4z5z6"),
   (0x1F0A0, "aPLAYING CARD BACKnACE OF SPADESnTWO~KoHREE~KnFOUR~KoIVE~KnSIX~KoEVEN~KnEIGHT~KnNI" ++
    "NE~KnTEN~KnJACK~KnKNIGHT~KnQUEEN~KnKING~K"),
   (0x1F0B1, "aPLAYING CARD ACE OF HEARTSnTWO~KoHREE~KnFOUR~KoIVE~KnSIX~KoEVEN~KnEIGHT~KnNINE~Kn" ++
    "TEN~KnJACK~KnKNIGHT~KnQUEEN~KnKING~KnRED JOKER"),
   (0x1F0C1, "aPLAYING CARD ACE OF DIAMONDSnTWO~MoHREE~MnFOUR~MoIVE~MnSIX~MoEVEN~MnEIGHT~MnNINE~" ++
    "MnTEN~MnJACK~MnKNIGHT~MnQUEEN~MnKING~MnBLACK JOKER"),
   (0x1F0D1, "aPLAYING CARD ACE OF CLUBSnTWO~JoHREE~JnFOUR~JoIVE~JnSIX~JoEVEN~JnEIGHT~JnNINE~JnT" ++
    "EN~JnJACK~JnKNIGHT~JnQUEEN~JnKING~JnWHITE JOKERnFOOLnTRUMP-1t2t3t4t5t6t7t8t9t10u1u2u3u4u5u6u" ++
    "7u8u9t20u1"),
   (0x1F100, "aDIGIT ZERO FULL STOPlCOMMAgONE~GgTWO~GhHREE~GgFOUR~GhIVE~GgSIX~GhEVEN~GgEIGHT~GgN" ++
    "INE~GcNGBAT CIRCLED SANS-SERIF DIGIT ZEROiNEGATIVE CIRC~ZaCIRCLED ZERO WITH SLASHiANTICLOCKW" ++
    "ISE ARROWiDOLLAR SIGN WITH OVERLAID BACKSLASHaPARENTHESIZED LATIN CAPITAL LETTER A:B:C:D:E:F" ++
    ":G:H:I:J:K:L:M:N:O:P:Q:R:S:T:U:V:W:X:Y:ZaTORTOISE SHELL BRACKETED LATIN CAPITAL LETTER SaCIR" ++
    "CLED ITALIC LATIN CAPITAL LETTER C;RiCDiWZbOPYLEFT SYMBOLaSQUARED LATIN CAPITAL LETTER A(B(C" ++
    "(D(E(F(G(H(I(J(K(L(M(N(O(P(Q(R(S(T(U(V(W(X(Y(ZiHViMViSDjSiPPViWCaNEGATIVE CIRCLED LATIN CAPI" ++
    "TAL LETTER A=B=C=D=E=F=G=H=I=J=K=L=M=N=O=P=Q=R=S=T=U=V=W=X=Y=ZaRAISED MC SIGNiD~FiR~FaCIRCLE" ++
    "D CCj WITH OVERLAID BACKSLASHiHUMAN FIGUREaNEGATIVE SQUARED LATIN CAPITAL LETTER A=B=C=D=E=F" ++
    "=G=H=I=J=K=L=M=N=O=P=Q=R=S=T=U=V=W=X=Y=ZaCROSSED NEGATIVE SQUARED LATIN CAPITAL LETTER PaNEG" ++
    "ATIVE SQUARED ICrPArSArABrWCaSQUARE DJgD CLjOOLiFREEiIDiNEWjGiOKiSOSiUP WITH EXCLAMATION MAR" ++
    "KiVSiTHREE DiSECOND SCREENiTWO KiFOUR KiEIGHT KiFIVE POINT ONEiSEVEN~KiTWENTY-TWO POINT TWOi" ++
    "SIXTY PiONE HUNDRED TWEN~EiLATIN SMALL LETTER DiHCjDRjI-RESiLOSSLESSiSHViUHDiVODaMASK WORK S" ++
    "YMBOL"),
   (0x1F1E6, "aREGIONAL INDICATOR SYMBOL LETTER A,B,C,D,E,F,G,H,I,J,K,L,M,N,O,P,Q,R,S,T,U,V,W,X," ++
    "Y,ZaSQUARE HIRAGANA HOKAgD KATAKANA KOKOrSA"),
   (0x1F210, "aSQUARED CJK UNIFIED IDEOGRAPH-624B)5B57*3CCiKATAKANA DEiCJK UNIFIED IDEOGRAPH-4E8" ++
    "C)591A)89E3)5929)4EA4)6620)7121)6599)524D*F8C*18D)65B0)521D)7D42*51F)8CA9)58F0*439)6F14*295*" ++
    "355)4E00,9)904A)5DE6)4E2D)53F3)6307)8D70)6253)7981*A7A)5408)6E80*709,8)7533)5272*5B6)914D"),
   (0x1F240, "aTORTOISE SHELL BRACKETED CJK UNIFIED IDEOGRAPH-672C|RAPH-4E09|RAPH-4E8C|RAPH-5B89" ++
    "|RAPH-70B9|RAPH-6253|RAPH-76D7|RAPH-52DD|RAPH-6557"),
   (0x1F250, "aCIRCLED IDEOGRAPH ADVANTAGEtCCEPT"),
   (0x1F260, "aROUNDED SYMBOL FOR FUtLUtSHOUtXItSHUANGXItCAI"),
   (0x1F300, "aCYCLONEaFOGGYaCLOSED UMBRELLAaNIGHT WITH STARSaSUNRISE OVER MOUNTAINShaCITYSCAPE " ++
    "AT DUSKaSUNSET OVER BUILDINGSaRAINBOWaBRIDGE AT NIGHTaWATER WAVEaVOLCANOaMILKY WAYaEARTH GLO" ++
    "BE EUROPE-AFRICAmAMERICASnSIA-AUSTRALIAaGLOBE WITH MERIDIANSaNEW MOON SYMBOLaWAXING CRESCENT" ++
    "~MaFIRST QUARTER~MaWAXING GIBBOUS~MaFULL~MaWANING GIBBOUS~MaLAST QUARTER~MaWANING CRESCENT~M" ++
    "aCRESCENT MOONaNEW MOON WITH FACEaFIRST QUARTER~PaLA~ZaFULL~PaSU~LaGLOWING STARaSHOOT~IaTHER" ++
    "MOMETERaBLACK DROPLETaWHITE SUNj WITH SMALL CLOUDkBEHIND~Gw WITH RAINa~PlSNOWlLIGHTNINGlTORN" ++
    "ADOaFOGaWIND BLOWING FACEaHOT DOGaTACOaBURRITOaCHESTNUTaSEEDLINGaEVERGREEN TREEaDECIDUOUS~Fa" ++
    "PALM~FaCACTUSaHOT PEPPERaTULIPaCHERRY BLOSSOMaROSEaHIBISCUSaSUNFLOWERaBLOSSOMaEAR OF MAIZEhR" ++
    "ICEaHERBaFOUR LEAF CLOVERaMAPLE LEAFaFALLEN~FaLEAF FLUTTERING IN WINDaMUSHROOMaTOMATOaAUBERG" ++
    "INEaGRAPESaMELONaWATER~FaTANGERINEaLEMONaBANANAaPINEAPPLEaRED ~FaGREEN~GaPEARdCHaCHERRIESaST" ++
    "RAWBERRYaHAMBURGERaSLICE OF PIZZAaMEAT ON BONEaPOULTRY LEGaRICE CRACKERfBALLaCOOKED RICEbURR" ++
    "Y AN~GaSTEAMING BOWLbPAGHETTIaBREADaFRENCH FRIESaROASTED SWEET POTATOaDANGOaODENaSUSHIaFRIED" ++
    " SHRIMPbISH CAKE WITH SWIRL DESIGNaSOFT ICE CREAMbHAVED ICEaICE CREAMaDOUGHNUTaCOOKIEbHOCOLA" ++
    "TE BARbANDYaLOLLIPOPaCUSTARDaHONEY POTaSHORTCAKEaBENTO BOXaPOT OF FOODaCOOKINGaFORK AND KNIF" ++
    "EaTEACUP WITHOUT HANDLEaSAKE BOTTLE AND CUPaWINE GLASSaCOCKTAIL~GaTROPICAL DRINKaBEER MUGaCL" ++
    "INKING BEER MUGSaBABY BOTTLEaFORK AND KNIFE WITH PLATEaBOTTLE WITH POPPING CORKaPOPCORNaRIBB" ++
    "ONaWRAPPED PRESENTaBIRTHDAY CAKEaJACK-O-LANTERNaCHRISTMAS TREEaFATHER CHRISTMASbIREWORKSi SP" ++
    "ARKLERaBALLOONaPARTY POPPERaCONFETTI BALLaTANABATA TREEaCROSSED FLAGSaPINE DECORATIONaJAPANE" ++
    "SE DOLLSaCARP STREAMERaWIND CHIMEaMOON VIEWING CEREMONYaSCHOOL SATCHELaGRADUATION CAPaHEART " ++
    "WITH TIP ON THE LEFTaBOUQUET OF FLOWERSaMILITARY MEDALaREMINDER RIBBONaMUSICAL KEYBOARD WITH" ++
    " JACKSaSTUDIO MICROPHONEaLEVEL SLIDERaCONTROL KNOBSaBEAMED ASCENDING MUSICAL NOTEShDE~WaFILM" ++
    " FRAMESaADMISSION TICKETSaCAROUSEL HORSEaFERRIS WHEELaROLLER COASTERaFISHING POLE AND FISHaM" ++
    "ICROPHONEbOVIE CAMERAaCINEMAaHEADPHONEaARTIST PALETTEaTOP HATaCIRCUS TENTaTICKETaCLAPPER BOA" ++
    "RDaPERFORMING ARTSaVIDEO GAMEaDIRECT HITaSLOT MACHINEaBILLIARDSaGAME DIEaBOWLINGaFLOWER PLAY" ++
    "ING CARDSaMUSICAL NOTEcLTIPLE MUSICAL NOTESaSAXOPHONEaGUITARaMUSICAL KEYBOARDaTRUMPETaVIOLIN" ++
    "aMUSICAL SCOREaRUNNING SHIRT WITH SASHaTENNIS RACQUET AND BALLaSKI AND SKI BOOTaBASKETBALL A" ++
    "ND HOOPaCHEQUERED FLAGaSNOWBOARDERaRUNNERaSURFERbPORTS MEDALaTROPHYaHORSE RACINGaAMERICAN FO" ++
    "OTBALLaRUGBY~JaSWIMMERaWEIGHT LIFTERaGOLFERaRACING MOTORCYCLEhCARaCRICKET BAT AND BALLaVOLLE" ++
    "Y~EaFIELD HOCKEY STICK AND ~EaICE HOCKEY STICK AND PUCKaTABLE TENNIS PADDLE AND BALLaSNOW CA" ++
    "PPED MOUNTAINaCAMPINGaBEACH WITH UMBRELLAbUILDING CONSTRUCTIONaHOUSE BUILDINGSaCITYSCAPEaDER" ++
    "ELICT HOUSE BUILDINGaCLASSICAL~JaDESERTg ISLANDaNATIONAL PARKaSTADIUMaHOUSE BUILDINGgWITH GA" ++
    "RDENaOFFICE BUILDINGaJAPANESE POST OFFICEaEUROPEAN~MaHOSPITALaBANKaAUTOMATED TELLER MACHINEa" ++
    "HOTELaLOVE ~FaCONVENIENCE STOREaSCHOOLaDEPARTMENT STOREaFACTORYaIZAKAYA LANTERNaJAPANESE CAS" ++
    "TLEaEUROPEAN~HaWHITE PENNANTaBLACK~IaWAVING WHITE FLAGhBLACK~FaROSETTEaBLACK ~HaLABELaBADMIN" ++
    "TON RACQUET AND SHUTTLECOCKbOW AND ARROWaAMPHORAaEMOJI MODIFIER FITZPATRICK TYPE-1-2+3+4+5+6" ++
    "aRATaMOUSEaOXaWATER BUFFALOaCOWaTIGERaLEOPARDaRABBITaCATaDRAGONaCROCODILEaWHALEaSNAILdKEaHOR" ++
    "SEaRAMaGOATaSHEEPaMONKEYaROOSTERaCHICKENaDOGaPIGaBOARaELEPHANTaOCTOPUSaSPIRAL SHELLaBUGaANTa" ++
    "HONEYBEEaLADY BEETLEaFISHaTROPICAL ~EaBLOW~EaTURTLEaHATCHING CHICKaBABY~GaFRONT-FACING ~KaBI" ++
    "RDaPENGUINaKOALAaPOODLEaDROMEDARY CAMELaBACTRIAN~GaDOLPHINaMOUSE FACEaCOW~FaTIGER~FaRABBIT~F" ++
    "aCA~GaDRAGON~FaSPOUTING WHALEaHORSE FACEaMONKEY~FaDOG~FaPI~GaFRO~GaHAMSTER~FaWOLF~FaBEAR~FaP" ++
    "ANDA~FbIG NOSEbAW PRINTSaCHIPMUNKaEYESdbARaNOSEaMOUTHaTONGUEaWHITE UP POINTING BACKHAND INDE" ++
    "XgDOWN~YgLEFT~YgRIGH~ZaFISTED HAND SIGNaWAVING~KaOK~KaTHUMBS UP~FhDOWN~FaCLAPPING HANDS~FaOP" ++
    "EN~LaCROWNaWOMANS HATaEYEGLASSESaNECKTIEaT-SHIRTaJEANSaDRESSaKIMONOaBIKINIaWOMANS CLOTHESaPU" ++
    "RSEaHANDBAGaPOUCHaMANS SHOEaATHLETIC~FaHIGH-HEELED~FaWOMANS SANDALhBOOTSaFOOTPRINTSaBUST IN " ++
    "SILHOUETTEeS~ObOYaGIRLaMANaWO~DaFAMILYaMAN AND WOMAN HOLDING HANDSaTWO ME~PeWO~RaPOLICE OFFI" ++
    "CERaWOMAN WITH BUNNY EARSaBRIDE WITH VEILaPERSON WITH BLOND HAIRaMAN WITH GUA PI MAOjTURBANa" ++
    "OLDER MANgWO~DaBABYaCONSTRUCTION WORKERaPRINCESSaJAPANESE OGREjGOBLINaGHOSTaBABY ANGELaEXTRA" ++
    "TERRESTRIAL ALIENaALIEN MONSTERaIMPaSKULLaINFORMATION DESK PERSONaGUARDSMANaDANCERaLIPSTICKa" ++
    "NAIL POLISHaFACE MASSAGEaHAIRCUTaBARBER POLEaSYRINGEaPILLaKISS MARKaLOVE LETTERaRINGaGEM STO" ++
    "NEaKISSaBOUQUETaCOUPLE WITH HEARTaWEDDINGaBEATING HEARTbROKEN~GaTWO HEARTSaSPARKLING HEARTaG" ++
    "ROW~JaHEART WITH ARROWaBLUE HEARTaGREEN~GaYELLOW~GaPURPLE~GaHEART WITH RIBBONaREVOLVING HEAR" ++
    "TSaHEART DECORATIONaDIAMOND SHAPE WITH A DOT INSIDEaELECTRIC LIGHT BULBaANGER SYMBOLaBOMBaSL" ++
    "EEPING SYMBOLaCOLLISION~HaSPLASHING SWEAT~HaDROPLETbASH SYMBOLaPILE OF POOaFLEXED BICEPSaDIZ" ++
    "ZY SYMBOLaSPEECH BALLOONaTHOUGHT~IaWHITE FLOWERaHUNDRED POINTS SYMBOLaMONEY BAGaCURRENCY EXC" ++
    "HANGEaHEAVY DOLLAR SIGNaCREDIT CARDaBANKNOTE WITH YEN SIGNoDOLLAR~FoEURO~FoPOUND~FaMONEY WIT" ++
    "H WINGSaCHART WITH UPWARDS TREND AND YEN SIGNaSEATaPERSONAL COMPUTERaBRIEFCASEaMINIDISCaFLOP" ++
    "PY DISKaOPTICAL DISCaDVDaFILE FOLDERaOPEN ~LaPAGE WITH CURLfFACING UPaCALENDARaTEAR-OFF ~IaC" ++
    "ARD INDEXbHART WITH UPWARDS TRENDlDOWN~LaBAR CHARTaCLIPBOARDaPUSHPINaROUND ~HaPAPERCLIPaSTRA" ++
    "IGHT RULERaTRIANGULAR~GaBOOKMARK TABSaLEDGERaNOTEBOOKi WITH DECORATIVE COVERaCLOSED BOOKaOPE" ++
    "N~FaGRE~HaBLUE~FaORANG~GaBOOKSaNAME BADGEaSCROLLaMEMOaTELEPHONE RECEIVERaPAGERaFAX MACHINEaS" ++
    "ATELLITE ANTENNAaPUBLIC ADDRESS LOUDSPEAKERaCHEERING MEGAPHONEaOUTBOX TRAYaIN~IaPACKAGEaE-MA" ++
    "IL SYMBOLaINCOMING ENVELOPEaENVELOPE WITH DOWNWARDS ARROW ABOVEaCLOSED MAILBOX WITH LOWERED " ++
    "FLAGuRAIS~HaOPEN~ZsLOWER~HaPOSTBOXeAL HORNaNEWSPAPERaMOBILE PHONEm WITH RIGHTWARDS ARROW AT " ++
    "LEFTaVIBRATION MODEaMOBILE PHONE OFFaNO MOBILE PHONESaANTENNA WITH BARSaCAMERAg WITH FLASHaV" ++
    "IDEO CAMERAaTELEVISIONaRADIOaVIDEOCASSETTEaFILM PROJECTORaPORTABLE STEREObRAYER BEADSaTWISTE" ++
    "D RIGHTWARDS ARROWSaCLOCKWISE RIGHTWARDS AND LEFTWARDS OPEN CIRCLE~H|RCLE ARROWS WITH CIRCLE" ++
    "D ONE OVERLAYkDOWNWARDS AND UPWARDS OPEN CIRCLE ARROWSaANTICLOCKWISE DOWNWARDS AND U~ZaLOW B" ++
    "RIGHTNESS SYMBOLaHIGH~SaSPEAKER WITH CANCELLATION STROKEhh WITH ONE SOUND WAVEnTHREE SOUND W" ++
    "AVESaBATTERYaELECTRIC PLUGaLEFT-POINTING MAGNIFYING GLASSaRIGHT-~ZaLOCK WITH INK PENaCLOSED " ++
    "LOCK WITH KEYa~DaLOCKaOPEN ~EaBELLe WITH CANCELLATION STROKEbOOKMARKaLINK SYMBOLaRADIO BUTTO" ++
    "NaBACK WITH LEFTWARDS ARROW ABOVEaEND W~ZaON WITH EXCLAMATION MARK WITH LEFT RIGHT~MaSOON WI" ++
    "TH RIGHTWARDS~MaTOP WITH UP~RaNO ONE UNDER EIGHTEEN SYMBOLaKEYCAP TENaINPUT SYMBOL FOR LATIN" ++
    " CAPITAL LETTERSxSMAL~JrNUMB~DrSYMBOLSrLATIN LETTERSaFIREaELECTRIC TORCHaWRENCHaHAMMERaNUT A" ++
    "ND BOLTaHOCHOaPISTOLaMICROSCOPEaTELE~FaCRYSTAL BALLaSIX POINTED STAR WITH MIDDLE DOTaJAPANES" ++
    "E SYMBOL FOR BEGINNERaTRIDENT EMBLEMaBLACK SQUARE BUTTONaWHITE~OaLARGE RED CIRCLEgBLUE~HgORA" ++
    "NGE DIAMONDgBLU~JaSMALL ORANG~JgBLU~JaUP-POINTING RED TRIANGLEaDOWN~WaUP-POINTING SMALL~NaDO" ++
    "WN-PO~ZaLOWER RIGHT SHADOWED WHITE CIRCLEaUPPER RI~ZaCIRCLED CROSS POMMEEbROSS POMMEE WITH H" ++
    "ALF-CIRCLE BELOWmaNOTCHED LEFT SEMICIRCLE WITH THREE DOTSiRIGHT S~ZaSYMBOL FOR MARKS CHAPTER" ++
    "aWHITE LATIN CROSSaHEAVY~MaCELTIC~GaOM SYMBOLaDOVE OF PEACEaKAABAaMOSQUEaSYNAGOGUEaMENORAH W" ++
    "ITH NINE BRANCHESaBOWL OF HYGIEIAaCLOCK FACE ONE OCLOCKlTWO~HmHREE~HlFOUR~HmIVE~HlSIX~HmEVEN" ++
    "~HlEIGHT~HlNINE~HlTEN~HlELEV~JlTWELVE~HlONE-THIRTYlTWO~HmHREE~HlFOUR~HmIVE~HlSIX~HmEVEN~HlEI" ++
    "GHT~HlNINE~HlTEN~HlELEV~JlTWELVE~HaRIGHT SPEAKERn WITH ONE SOUND WAVEtTHREE SOUND WAVESaBULL" ++
    "HORNi WITH SOUND WAVESaRINGING BELLaBOOKaCANDLEaMANTELPIECE CLOCKaBLACK SKULL AND CROSSBONES" ++
    "aNO PIRACYaHOLEaMAN IN BUSINESS SUIT LEVITATINGaSLEUTH OR SPYaDARK SUNGLASSESaSPIDERg WEBaJO" ++
    "YSTICKaMAN DANCINGaLEFT HAND TELEPHONE RECEIVERaTELEPHONE RECEIVER WITH PAGEaRIGHT HAND TELE" ++
    "PHONE RECEIVERaWHITE TOUCHTONE TELEPHONEaBLACK~UaTELEPHONE ON TOP OF MODEMaCLAMSHELL MOBILE " ++
    "PHONEaBACK OF ENVELOPEaSTAMPED~JaENVELOPE WITH LIGHTNINGaFLYING ENVELOPEaPEN OVER STAMPED~Ja" ++
    "LINKED PAPERCLIPSaBLACK PUSHPINaLOWER LEFT PENCILlBALLPOINT PENlFOUNTAIN~ElPAINTBRUSHlCRAYON" ++
    "bEFT WRITING HANDaTURNED OK HAND SIGNaRAISED HAND WITH FINGERS SPLAYEDbEVERSED RAISED ~ZjTHU" ++
    "MBS UP SIGNqDOWN~FjVICTORY HANDjHAND WITH MIDDLE FINGER EXTENDEDbAISED HAND WITH PART BETWEE" ++
    "N MIDDLE AND RING FINGERSaWHITE DOWN POINTING LEFT HAND INDEXaSIDEWAYS WHITE LEFT POINTING~G" ++
    "pRIGH~QjBLACK LEF~QpRIGH~QaBLACK LEFT POINTING BACKHAND~GgRIGH~ZaSIDEWAYS WHITE UP POINTING~" ++
    "GpDOWN~PjBLACK UP~PpDOWN~PaBLACK UP POINTING BACKHAND~GgDOWN~YgHEARTaDESKTOP COMPUTERaKEYBOA" ++
    "RD AND MOUSEaTHREE NETWORKED COMPUTERSaPRINTERbOCKET CALCULATORaBLACK HARD SHELL FLOPPY DISK" ++
    "aWHITE~XaSOFT~SaTAPE CARTRIDGEaWIRED KEYBOARDaONE BUTTON MOUSEaTWO~NbHREE~NbRACKBALLaOLD PER" ++
    "SONAL COMPUTERaHARD DISKaSCREENaPRINTER ICONaFAX~FaOPTICAL DISC~FaDOCUMENT WITH TEXTs AND PI" ++
    "CTUREo~HaFRAME~NlTILESlAN XaBLACK FOLDERa~GaOPEN ~GaCARD INDEX DIVIDERSfFILE BOXaFILE CABINE" ++
    "TaEMPTY NOTEk PAGEnDaNOTEe PAGEhDaEMPTY DOCUMENTgPAGEkSaDOCUMENTaPAGEeSaWASTEBASKETaSPIRAL N" ++
    "OTE PADhCALENDAR~EaDESKTOP WINDOWaMINIMIZEbAX~FaOVERLAPaCLOCKWISE RIGHT AND LEFT SEMICIRCLE " ++
    "ARROWSbANCELLATION XaINCREASE FONT SIZE SYMBOLaDE~XaCOMPRESSIONaOLD KEYaROLLED-UP NEWSPAPERa" ++
    "PAGE WITH CIRCLED TEXTaSTOCK CHARTaDAGGER KNIFEaLIPSaSPEAKING HEAD IN SILHOUETTEaTHREE RAYS " ++
    "ABOVElBELOWlLEFTlRIGHTaLEFT SPEECH BUBBLEaRIGH~PaTWO SPEECH BUBBLESbHREE~PaLEFT THOUGHT BUBB" ++
    "LEaRIGH~QaLEFT ANGER~HaRIGH~OaMOOD~HaLIGHTNING ~LoaBALLOT BOX WITH BALLOThSCRIPT XhBOX WITH " ++
    "~IjLD~JjX WITH BO~LaLIGHT CHECK MARKaBALLOT BOX WITH BOLD CHECKaWORLD MAPaMOUNT FUJIaTOKYO T" ++
    "OWERaSTATUE OF LIBERTYbILHOUETTE OF JAPANaMOYAIaGRINNING FACEn WITH SMILING EYESaFACE WITH T" ++
    "EARS OF JOYaSMILING FACE WITH OPEN MOUTH& AND SMILING EYES,COLD SWEAT,TIGHTLY-CLOSED EYESsHA" ++
    "LOtORNSaWINKING FACEaSMILING FACE WITH SMILING EYESaFACE SAVOURING DELICIOUS FOODaRELIEVED F" ++
    "ACEaSMILING FACE WITH HEART-SHAPED EYESsSUNGLASSESdRKING FACEaNEUTRAL~FaEXPRESSIONLESS~FaUNA" ++
    "MUSED~FaFACE WITH COLD SWEATaPENSIVE FACEaCONFUSED~FeOUND~HaKISSING~FaFACE THROWING A KISSaK" ++
    "ISSING FACE WITH SMILING EYESsCLOSED~FaFACE WITH STUCK-OUT TONGUE! AND WINKING EYE*TIGHTLY-C" ++
    "LOSED EYESaDISAPPOINTED FACEaWORRI~HaANGRY~FaPOUTING~FaCRY~IaPERSEVER~IaFACE WITH LOOK OF TR" ++
    "IUMPHaDISAPPOINTED BUT RELIEVED FACEaFROWNING FACE WITH OPEN MOUTHaANGUISHED FACEaFEARFUL~Fa" ++
    "WEARY~FaSLEEP~GaTIRED~FaGRIMACING~FaLOUDLY CRY~IaFACE WITH OPEN MOUTHaHUSHED FACEaFACE WITH " ++
    "OPEN MOUTH AND COLD SWEATfSCREAMING IN FEARaASTONISHED FACEaFLU~JaSLEEPING~FaDIZZY~FaFACE WI" ++
    "THOUT MOUTHj MEDICAL MASKaGRINNING CAT FACE WITH SMILING EYESaCAT FACE WITH TEARS OF JOYaSMI" ++
    "LING CAT FACE WITH OPEN MOUTHwHEART-SHAPED EYESaCAT FACE WITH WRY SMILEaKISSING CAT FACE WIT" ++
    "H CLOSED EYESaPOUTING CAT FACEaCRY~MaWEARY~JaSLIGHTLY FROWNING~FjSMIL~IaUPSIDE-DOWN~FaFACE W" ++
    "ITH ROLLING EYESkNO GOOD GESTUREkOK~IaPERSON BOWING DEEPLYaSEE-NO-EVIL MONKEYaHEAR~PaSPEAK~P" ++
    "aHAPPY PERSON RAISING ONE HANDaPERSON RAISING BOTH HANDS IN CELEBRATIONhFROWNINGhWITH POUTIN" ++
    "G FACEmFOLDED HANDSaNORTH WEST POINTING LEAFaSOU~VaNORTH EA~QaSOU~VaTURNED NORTH WE~QhSOU~Vh" ++
    "NORTH EA~QhSOU~VaNORTH WEST POINTING VINE~FaSOUT~ZaNORTH EA~VaSOUT~ZaHEAVY NORTH WE~VgSOUT~Z" ++
    "gNORTH EA~VgSOUT~ZaNORTH WEST POINTING BUDaSOU~UaNORTH EA~PaSOU~UaHEAVY NORTH WE~PgSOU~UgNOR" ++
    "TH EA~PgSOU~UbOLLOW QUILT SQUARE ORNAMENT& IN BLACK SQUAREaSOLID QUILT SQUARE ORNAMENT$ IN B" ++
    "LACK SQUAREaLEFTWARDS ROCKETaUP~MaRIGHT~MaDOWN~MaSCRIPT LIGATURE ET ORNAMENTaHEAVY SC~ZaLIGA" ++
    "TURE OPEN~MaHEAVY ~ZgAMPERSAND~JaSWASH~TbANS-SERIF HEAVY DOUBLE TURNED COMMA QUOTATION MARK~" ++
    "JyCOMM~ZrLOW DOUBLE COMM~ZaHEAVY INTERROBANG~JaSANS-SERIF~VaHEAVY SANS-S~ZaVERY HEAVY SOLIDU" ++
    "SlREVERSE ~HaCHECKER BOARDaREVERSE ~NbOCKETaHELICOPTERaSTEAM LOCOMOTIVEaRAILWAY CARaHIGH-SPE" ++
    "ED TRAINq WITH BULLET NOSEaTRAINaMETROaLIGHT RAILaSTATIONaTRAMe CARaBUSaONCOMING ~DaTROLLEY~" ++
    "DaBUS STOPaMINIBUSaAMBULANCEaFIRE ENGINEaPOLICE CARaONCOMING ~KaTAXIaONCOMING ~EaAUTOMOBILEa" ++
    "ONCOMING ~KaRECREATIONAL VEHICLEaDELIVERY TRUCKaARTICULATED LORRYaTRACTORaMONORAILcUNTAIN RA" ++
    "ILWAYaSUSPENSIO~JaMOUNTAIN CABLE~DaAERIAL TRAM~DaSHIPaROWBOATaSPEED~EaHORIZONTAL TRAFFIC LIG" ++
    "HTaVERTIC~QaCONSTRUCTION SIGNaPOLICE CARS REVOLVING LIGHTaTRIANGULAR FLAG ON POSTaDOORaNO EN" ++
    "TRY SIGNaSMOKING SYMBOLaNO ~OaPUT LITTER IN ITS PLACE~HaDO NOT LITTER~HaPOTABLE WA~KaNON-~Ua" ++
    "BICYCLEaNO BICYCLESaBICYCLISTaMOUNTAIN ~JaPEDESTRIANaNO PEDESTRIANSaCHILDREN CROSSINGaMENS S" ++
    "YMBOLaWO~LaRESTROOMaBABY SYMBOLaTOILETaWATER CLOSETaSHOWERaBATHeTUBaPASSPORT CONTROLaCUSTOMS" ++
    "aBAGGAGE CLAIMaLEFT LUGGAGEaTRIANGLE WITH ROUNDED CORNERSaPROHIBITED SIGNaCIRCLED INFORMATIO" ++
    "N SOURCEaBOYS SYMBOLaGIRL~IaCOUCH AND LAMPaSLEEPING ACCOMMODATIONbHOPPING BAGSaBELLHOP BELLc" ++
    "DaPLACE OF WORSHIPaOCTAGONAL SIGNaSHOPPING TROLLEYbTUPAaPAGODAaHINDU TEMPLEbUTaELEVATOR"),
   (0x1F6DD, "aPLAYGROUND SLIDEaWHEELaRING BUOYaHAMMER AND WRENCHaSHIELDaOIL DRUMaMOTORWAYaRAILW" ++
    "AY TRACKaMOTOR BOATaUP-POINTING MILITARY AIRPLANEm~ImSMALL ~Ia~OaNORTHEAST-POINTING~JaAIRPLA" ++
    "NE DEPARTUREjARRIVING"),
   (0x1F6F0, "aSATELLITEaONCOMING FIRE ENGINEaDIESEL LOCOMOTIVEaPASSENGER SHIPaSCOOTERaMOTOR ~Ha" ++
    "CANOEaSLEDaFLYING SAUCERaSKATEBOARDaAUTO RICKSHAWaPICKUP TRUCKaROLLER SKATE"),
   (0x1F700, "aALCHEMICAL SYMBOL FOR QUINTESSENCEwAIRwFIREwEARTHwWATERwAQUAFORTIS! REGIA+-2$VITA" ++
    "E+-2wVINEGAR(-2)3wSULFURwPHILOSOPHERS ~GwBLACK~HwMERCURY SUBLIMATE>-2^3wCINNABARwSALTwNITREw" ++
    "VITRIOL(-2wROCK SALT*-2wGOLDwSILVERwIRON ORE)-2wCROCUS OF IRONwREGUL~KwCOPPER OREwIRON-~KwSU" ++
    "BLIMATE OF COPPERwCROCUS~K=-2xOPPER ANTIMONIATEwSALT OF ~SxUBLIMATE OF SALT OF COPPERwVERDIG" ++
    "RISwTIN OREwLEAD~EwANTIMONY~EwSUBLIMATE OF ANTIMONYxALT~MxUBLIMATE OF S~PwVINEGAR~MwREGULUS~" ++
    "M_-2((-2)3)4wALKALI&-2wMARCASITEwSAL-AMMONIACwARSENICwREALGAR(-2wAURIPIGMENTwBISMUTH OREwTAR" ++
    "TAR&-2wQUICK LIMEwBORAX$-2&3wALUMwOILwSPIRITwTINCTUREwGUMwWAXwPOWDERwCALXwTUTTYwCAPUT MORTUU" ++
    "MwSCEPTER OF JOVEwCADUCEUSwTRIDENTwSTARRED ~HwLODESTONEwSOAPwURINEwHORSE DUNGwASHESwPOT ~FwB" ++
    "RICKwPOWDERED ~FwAMALGAMwSTRATUM SUPER STRATUM|M-2xUBLIMATIONwPRECIPITATEwDISTILLzSOLVE)-2wP" ++
    "URIFYyTREFACTIONwCRUCIBLE)-2*3*4*5wALEMBICwBATH OF MARY)VAPOURSwRETORTwHOURwNIGHTwDAY-~FwMON" ++
    "THwHALF DRAM$OUNCE"),
   (0x1F780, "aBLACK LEFT-POINTING ISOSCELES RIGHT TRIANGLEgUP-POINTING~ZgRIGHT-POINTING~ZgDOWN-" ++
    "POINTING~ZgSLIGHTLY SMALL CIRCLEaMEDIUM BOLD WHITE~Ha~RaHEAVY~NaVERY ~SaEXTREMEL~UaWHITE CIR" ++
    "CLE CONTAINING BLACK SMALL~HaROUND TARGETaBLACK TINY SQUAREgSLIGHTLY SMALL~HaLIGHT WHITE~HaM" ++
    "EDIUM~NaBOLD~NaHEAVY~NaVERY ~SaEXTREMEL~UaWHITE SQUARE CONTAINING BLACK VERY SMALL~H)MEDIUM~" ++
    "HaSQUARE TARGETaBLACK TINY DIAMONDgVERY SMALL~IgMEDIUM~OaWHITE DIAMOND CONTAINING BLACK VERY" ++
    "~O*MEDIUM~IaDIAMOND TARGETaBLACK TINY LOZENGEgVERY SMALL~IgMEDIUM~OaWHITE LOZENGE CONTAINING" ++
    " BLACK~OaTHIN GREEK CROSSaLIGHT~MaMEDIUM~MaBOLD~MaVERY ~QfHEAVY~MaEXTREMEL~TaTHIN SALTIREaLI" ++
    "GHT~IaMEDIUM~IaBOLD~IaHEAVY~IaVERY ~NaEXTREMEL~PaLIGHT FIVE SPOKED ASTERISKaMEDIUM~VaBOLD~Va" ++
    "HEAVY~VaVERY H~ZaEXTREMELY H~ZaLIGHT SIX~QaMEDIUM~UaBOLD~UaHEAVY~UaVERY ~ZaEXTREMELY ~ZaLIGH" ++
    "T EIGHT~QaMEDIUM~WaBOLD~WaHEAVY~WaVERY HE~ZaLIGHT THREE POINTED BLACK STARaMEDIUM~Za~YaMEDIU" ++
    "M THREE POINTED PINWHEEL~FaLIGHT FOUR POINTED BLACK~FaMEDIUM~Ya~XaMEDIUM FOUR POINTED PINWHE" ++
    "EL~FaREVERSE LIGHT F~ZaLIGHT FIVE POINTED BLACK~FaHEAVY~YaMEDIUM SIX~TaHEAVY~XaSIX POINTED P" ++
    "INWHEEL~FaMEDIUM EIGHT POINTED BLACK~FaHEAVY~ZaVERY HEAVY~ZaHEAVY EIGHT POINTED PINWHEEL~FaL" ++
    "IGHT TWELVE POINTED BLACK~FaHEAVY ~ZvPINWHEEL~FaCIRCLED TRIANGLEaNEGATIVE ~QaCIRCLED SQUAREa" ++
    "NEGATIVE ~O"),
   (0x1F7E0, "aLARGE ORANGE CIRCLEgYELLOW~HgGREEN~HgPURPLE~HgBROWN~HgRED SQUAREgBLUE~HgORANG~IgY" ++
    "ELLOW~HgGREEN~HgPURPLE~HgBROWN~H"),
   (0x1F7F0, "aHEAVY EQUALS SIGN"),
   (0x1F800, "aLEFTWARDS ARROW WITH SMALL TRIANGLE ARROWHEADaUPWARDS ARROW WITH~ZaRIGHTWARDS ARR" ++
    "OW WITH~ZaDOWNWARDS ARROW WITH~ZaLEFTWARDS ARROW WITH MEDIUM~TaUPWARDS ARROW WITH ~ZaRIGHTWA" ++
    "RDS ARROW WITH ~ZaDOWNWARDS ARROW WITH ~ZaLEFTWARDS ARROW WITH LARGE~TaUPWARDS ARROW WITH~Za" ++
    "RIGHTWARDS ARROW WITH~ZaDOWNWARDS ARROW WITH~Z"),
   (0x1F810, "aLEFTWARDS ARROW WITH SMALL EQUILATERAL ARROWHEADaUPWARDS ARROW WITH SM~ZaRIGHTWAR" ++
    "DS ARROW WITH SM~ZaDOWNWARDS ARROW WITH SM~ZaLEFTWARDS ARROW WITH~WaUPWARDS ARROW W~ZaRIGHTW" ++
    "ARDS ARROW W~ZaDOWNWARDS ARROW W~ZaHEAVY LEFTWARDS ARROW W~ZgUPWARDS ARROW W~ZgRIGHTWARDS AR" ++
    "ROW W~ZgDOWNWARDS ARROW W~ZgLEFTWARDS ARROW WITH LARGE~WgUPWARDS ARROW WITH LA~ZgRIGHTWARDS " ++
    "ARROW WITH LA~ZgDOWNWARDS ARROW WITH LA~ZaLEFTWARDS TRIANGLE-HEADED ARROW WITH NARROW SHAFTa" ++
    "UPWARDS TRIANGLE-HEADE~ZaRIGHTWARDS TRIANGLE-HEADE~ZaDOWNWARDS TRIANGLE-HEADE~ZaLEFTWARDS TR" ++
    "IANGLE-HEADED ARROW WITH MEDIUM~GaUPWARDS TRIANGLE-HEADE~ZaRIGHTWARDS TRIANGLE-HEADE~ZaDOWNW" ++
    "ARDS TRIANGLE-HEADE~ZaLEFTWARDS TRIANGLE-HEADED ARROW WITH BOLD~GaUPWARDS TRIANGLE-HEA~ZaRIG" ++
    "HTWARDS TRIANGLE-HEA~ZaDOWNWARDS TRIANGLE-HEA~ZaLEFTWARDS TRIANGLE-HEADED ARROW WITH HEAVY~G" ++
    "aUPWARDS TRIANGLE-HEAD~ZaRIGHTWARDS TRIANGLE-HEAD~ZaDOWNWARDS TRIANGLE-HEAD~ZaLEFTWARDS TRIA" ++
    "NGLE-HEADED ARROW WITH VERY~MaUPWARDS TRIANGLE-HEADED AR~ZaRIGHTWARDS TRIANGLE-HEADED AR~ZaD" ++
    "OWNWARDS TRIANGLE-HEADED AR~ZaLEFTWARDS FINGER-POST ARROWaUP~XaRIGHT~XaDOWN~XaLEFTWARDS SQUA" ++
    "RED~GaUP~TaRIGHT~TaDOWN~TaLEFTWARDS COMPRESS~IaUP~WaRIGHT~WaDOWN~WaLEFTWARDS HEAVY~RaUPWAR~Z" ++
    "aRIGHTWAR~ZaDOWNWAR~ZaLEFTWARDS HEAVY~GaUP~RaRIGHT~RaDOWN~R"),
   (0x1F850, "aLEFTWARDS SANS-SERIF ARROWaUP~WaRIGHT~WaDOWN~WaNORTH WEST~RgEA~TaSOU~YgWE~TaLEFT " ++
    "RIGH~SaUP DOWN~R"),
   (0x1F860, "aWIDE-HEADED LEFTWARDS LIGHT BARB ARROWmUP~WmRIGHT~WmDOWN~WmNORTH WEST~RsEA~TmSOU~" ++
    "YsWE~TmLEFTWARDS~LmUP~QmRIGHT~QmDOWN~QmNORTH WEST~LsEA~NmSOU~SsWE~NmLEFTWARDS MEDIUM~LmUP~Xm" ++
    "RIGHT~XmDOWN~XmNORTH WEST~SsEA~UmSOU~ZsWE~UmLEFTWARDS HEAVY~LmUP~WmRIGHT~WmDOWN~WmNORTH WEST" ++
    "~RsEA~TmSOU~YsWE~TmLEFTWARDS VERY~RmUPWA~ZmRIGHTWA~ZmDOWNWA~ZmNORTH WEST~WsEA~YmSOUTH E~ZsWE" ++
    "~Y"),
   (0x1F890, "aLEFTWARDS TRIANGLE ARROWHEADaUP~YaRIGHT~YaDOWN~YaLEFTWARDS WHITE ARROW WITHIN~TaU" ++
    "PWARDS WHITE ARROW ~ZaRIGHTWARDS WHITE ARROW ~ZaDOWNWARDS WHITE ARROW ~ZaLEFTWARDS ARROW WIT" ++
    "H NOTCHED TAILaUPWARD~ZaRIGHTWARD~ZaDOWNWARD~ZaHEAVY ARROW SHAFT WIDTH ONEyTWO THIRDSyONE HA" ++
    "LF&THIRDaLEFTWARDS BOTTOM-SHADED WHITE ARROWaRIGHTWARDS BOTTOM ~SaLEFTWARDS TOP~TaRIGHTWAR~Z" ++
    "aLEFTWARDS LEFT-~SaRIGHTWARDS RIGH~UaLEFTWARDS~ZaRIGHTWARDS LEF~UaLEFTWARDS BACK-TILTED SHAD" ++
    "OW~OaRIGHTWARDS BACK-TI~ZaLEFTWARDS FRONT-TI~ZaRIGHTWARDS FRONT-TI~ZaWHITE ARROW SHAFT WIDTH" ++
    " ONEyTWO THIRDS"),
   (0x1F8B0, "aARROW POINTING UPWARDS THEN NORTH WESTpRIGHTWARDS THEN CURVING SOU~H"),
   (0x1F900, "aCIRCLED CROSS FORMEE WITH FOUR DOTS!TWO~FuaLEFT HALF CIRCLE WITH FOUR DOTSwTHREE~" ++
    "FxWO~FwDOTqaDOWNWARD FACING HOOKqNOTCHED ~EqHOOK WITH DOTqNOTCHED ~NaPINCHED FINGERSaWHITE H" ++
    "EARTaBROWN~GaPINCHING HANDaZIPPER-MOUTH FACEaMONEY~LaFACE WITH THERMOMETERaNERD FACEaTHINKIN" ++
    "G~FaFACE WITH HEAD-BANDAGEaROBOT FACEaHUGGING~FaSIGN OF THE HORNSaCALL ME HANDaRAISED BACK O" ++
    "F~FaLEFT-FACING FISTaRIGH~NaHANDSHAKEe WITH INDEX AND MIDDLE FINGERS CROSSEDaI LOVE YOU HAND" ++
    " SIGNaFACE WITH COWBOY HATaCLOWN FACEaNAUSEATED~FaROLLING ON THE FLOOR LAUGHINGaDROOLING FAC" ++
    "EaLY~IaFACE PALMaSNEEZING FACEaFACE WITH ONE EYEBROW RAISEDaGRINNING FACE WITH STAR EYEStONE" ++
    " LARGE AND ONE SMALL EYEaFACE WITH FINGER COVERING CLOSED LIPSaSERIOUS FACE WITH SYMBOLS COV" ++
    "ERING MOUTHbMILING FACE WITH SMILING EYES AND HAND~PaFACE WITH OPEN MOUTH VOMITINGaSHOCKED F" ++
    "ACE WITH EXPLODING HEADaPREGNANT WOMANaBREAST-FEEDINGaPALMS UP TOGETHERaSELFIEaPRINCEaMAN IN" ++
    " TUXEDObOTHER CHRISTMASaSHRUGaPERSON DOING CARTWHEELaJUGGLINGaFENCERaMODERN PENTATHLONaWREST" ++
    "LERSbATER POLOaHANDBALLaDIVING MASKaWILTED FLOWERaDRUM WITH DRUMSTICKSaCLINKING GLASSESaTUMB" ++
    "LER GLASSaSPOONaGOAL NETaRIFLEaFIRST PLACE MEDALaSECOND~MaTHIR~NaBOXING GLOVEaMARTIAL ARTS U" ++
    "NIFORMaCURLING STONEaLACROSSE STICK AND BALLaSOFT~EaFLYING DISCaCROISSANTaAVOCADOaCUCUMBERaB" ++
    "ACONaPOTATOaCARROTaBAGUETTE BREADaGREEN SALADaSHALLOW PAN OF FOODbTUFFED FLATBREADaEGGaGLASS" ++
    " OF MILKaPEANUTSaKIWIFRUITaPANCAKESaDUMPLINGaFORTUNE COOKIEaTAKEOUT BOXaCHOPSTICKSaBOWL WITH" ++
    " SPOONaCUP WITH STRAWbOCONUTaBROCCOLIaPIEbRETZELaCUT OF MEATaSANDWICHaCANNED FOODaLEAFY GREE" ++
    "NaMANGObOON CAKEaBAGELaSMILING FACE WITH SMILING EYES AND THREE HEARTSaYAWNING FACEaSMILING " ++
    "FACE WITH TEARaFACE WITH PARTY HORN AND PARTY HATkUNEVEN EYES AND WAVY MOUTHaOVERHEATED FACE" ++
    "aFREEZING~FaNINJAaDISGUISED FACEaFACE HOLDING BACK TEARSfWITH PLEADING EYESaSARIaLAB COATaGO" ++
    "GGLESaHIKING BOOTaFLAT SHOEaCRABaLION FACEaSCORPIONaTURKEYaUNICORN FACEaEAGLEaDUCKaBATaSHARK" ++
    "aOWLaFOX FACEaBUTTERFLYaDEERaGORILLAaLIZARDaRHINOCEROSaSHRIMPbQUIDaGIRAFFE FACEaZEBRA~FaHEDG" ++
    "EHOGaSAUROPODaT-REXaCRICKETaKANGAROOaLLAMAaPEACOCKaHIPPOPOTAMUSaPARROTaRACCOONaLOBSTERaMOSQU" ++
    "ITObICROBEaBADGERaSWANaMAMMOTHaDODOaSLOTHaOTTERbRANGUTANaSKUNKaFLAMINGOaOYSTERaBEAVERbISONaS" ++
    "EALaGUIDE DOGaPROBING CANEaEMOJI COMPONENT RED HAIRqCURLY~FqBALDqWHITE HAIRaBONEaLEGaFOOTaTO" ++
    "OTHaSUPERHEROfVILLAINbAFETY VESTaEAR WITH HEARING AIDaMOTORIZED WHEELCHAIRbANUAL~LbECHANICAL" ++
    " ARMlLEGaCHEESE WEDGEbUPCAKEaSALT SHAKERaBEVERAGE BOXaGARLICaONIONaFALAFELaWAFFLEaBUTTERaMAT" ++
    "E DRINKaICE CUBEaBUBBLE TEAaTROLLaSTANDING PERSONaKNEEL~KaDEAF~HaFACE WITH MONOCLEaADULTaCHI" ++
    "LDaOLDER ADULTaBEARDED PERSONaPERSON WITH HEADSCARFhIN STEAMY ROOMhCLIMBINGhIN LOTUS POSITIO" ++
    "NaMAGEaFAIRYaVAMPIREaMERPERSONaELFaGENIEaZOMBIEaBRAINaORANGE HEARTaBILLED CAPaSCARFaGLOVESaC" ++
    "OATaSOCKSaRED GIFT ENVELOPEaFIRECRACKERaJIGSAW PUZZLE PIECEaTEST TUBEaPETRI DISHaDNA DOUBLE " ++
    "HELIXaCOMPASSaABACUSaFIRE EXTINGUISHERaTOOLBOXaBRICKaMAGNETaLUGGAGEbOTION BOTTLEaSPOOL OF TH" ++
    "READaBALL OF YARNaSAFETY PINaTEDDY BEARaBROOMbASKETaROLL OF PAPERaBAR OF SOAPaSPONGEaRECEIPT" ++
    "aNAZAR AMULETbEUTRAL CHESS KINGoQUEENoROOKoBISHOPoKNIGHToPAWNaWHITE CHESS KNIGHT ROTATED FOR" ++
    "TY-FIVE DEGREESaBLACK CHESS KNIGHT R~ZaNEUTRAL CHESS KNIGHT R~ZaWHITE CHESS KING ROTATED NIN" ++
    "ETY~ImQUEEN~XmROOK~XmBISHOP~XmKNIGHT~XmPAWN~XaBLACK CHESS KING~XmQUEEN~XmROOK~XmBISHOP~XmKNI" ++
    "GHT~XmPAWN~XaNEUTRAL CHESS KING~XoQUEEN~XoROOK~XoBISHOP~XoKNIGHT~XoPAWN~XaWHITE CHESS KNIGHT" ++
    " ROTATED ONE HUNDRED THIRTY-FIVE~IaBLACK CHESS KNIGHT ROTATED ONE HU~ZaNEUTRAL CHESS KNIGHT " ++
    "ROTATED ONE HU~ZaWHITE CHESS TURNED KINGtQUEENtROOKtBISHOPtKNIGHTtPAWNaBLACK CHESS TURNED KI" ++
    "NGtQUEENtROOKtBISHOPtKNIGHTtPAWNaNEUTRAL CHESS TURNED KINGvQUEENvROOKvBISHOPvKNIGHTvPAWNaWHI" ++
    "TE CHESS KNIGHT ROTATED TWO HUNDRED TWENTY-FIVE DEGREESaBLACK CHESS KNIGHT ROTATED TWO HU~Za" ++
    "NEUTRAL CHESS KNIGHT ROTATED TWO HU~ZaWHITE CHESS KING ROTATED TWO HUNDRED SEVENTY~ImQUEEN R" ++
    "OTATED TW~ZmROOK ROTATED TW~ZmBISHOP ROTATED TW~ZmKNIGHT ROTATED TW~ZmPAWN ROTATED TW~ZaBLAC" ++
    "K CHESS KING ROTATED TW~ZmQUEEN ROTATED TW~ZmROOK ROTATED TW~ZmBISHOP ROTATED TW~ZmKNIGHT RO" ++
    "TATED TW~ZmPAWN ROTATED TW~ZaNEUTRAL CHESS KING ROTATED TW~ZoQUEEN ROTATED TW~ZoROOK ROTATED" ++
    " TW~ZoBISHOP ROTATED TW~ZoKNIGHT ROTATED TW~ZoPAWN ROTATED TW~ZaWHITE CHESS KNIGHT ROTATED T" ++
    "HREE HUNDRED FIFTEEN~IaBLACK CHESS KNIGHT ROTATED THRE~ZaNEUTRAL CHESS KNIGHT ROTATED THRE~Z" ++
    "aWHITE CHESS EQUIHOPPERaBLACK~RaNEUTRAL~RaWHITE CHESS EQUIHOPPER ROTATED NINETY DEGREESaBLAC" ++
    "K CHESS EQUIHOPP~ZaNEUTRAL CHESS EQUIHOPP~ZaWHITE CHESS KNIGHT-QUEENtROOKtBISHOPaBLACK CHESS" ++
    " KNIGHT-QUEENtROOKtBISHOP"),
   (0x1FA60, "aXIANGQI RED GENERALmMANDARINmELEPHANTmHORSEmCHARIOTnANNONmSOLDIERiBLACK GENERALoM" ++
    "ANDARINoELEPHANToHORSEoCHARIOTpANNONoSOLDIER"),
   (0x1FA70, "aBALLET SHOESaONE-PIECE SWIMSUITaBRIEFSaSHORTSaTHONG SANDAL"),
   (0x1FA78, "aDROP OF BLOODaADHESIVE BANDAGEaSTETHOSCOPEaX-RAYaCRUTCH"),
   (0x1FA80, "aYO-YOaKITEaPARACHUTEaBOOMERANGaMAGIC WANDaPINATAaNESTING DOLLS"),
   (0x1FA90, "aRINGED PLANETaCHAIRaRAZORaAXEaDIYA LAMPaBANJOaMILITARY HELMETaACCORDIONaLONG DRUM" ++
    "aCOINbARPENTRY SAWaSCREWDRIVERaLADDERaHOOKaMIRRORaWINDOWaPLUNGERaSEWING NEEDLEaKNOTaBUCKETaM" ++
    "OUSE TRAPaTOOTHBRUSHaHEADSTONEaPLACARDaROCKaMIRROR BALLaIDENTIFICATION CARDaLOW BATTERYaHAMS" ++
    "A"),
   (0x1FAB0, "aFLYaWORMaBEETLEaCOCKROACHaPOTTED PLANTaWOODaFEATHERaLOTUSaCORALaEMPTY NESTaNEST W" ++
    "ITH EGGS"),
   (0x1FAC0, "aANATOMICAL HEARTaLUNGSaPEOPLE HUGGINGbREGNANT MANjPERSONbERSON WITH CROWN"),
   (0x1FAD0, "aBLUEBERRIESbELL PEPPERaOLIVEaFLATBREADaTAMALEaFONDUEaTEAPOTaPOURING LIQUIDaBEANSa" ++
    "JAR"),
   (0x1FAE0, "aMELTING FACEaSALU~JaFACE WITH OPEN EYES AND HAND OVER MOUTHkPEEKING EYEkDIAGONAL " ++
    "MOUTHaDOTTED LINE FACEaBITING LIPbUBBLES"),
   (0x1FAF0, "aHAND WITH INDEX FINGER AND THUMB CROSSEDaRIGHTWARDS HANDaLEF~LaPALM DOWN~FfUP~FaI" ++
    "NDEX POINTING AT THE VIEWERaHEART HANDS"),
   (0x1FB00, "aBLOCK SEXTANT-1o2o12o3o13o23o123o4o14o24o124o34o134o234o1~Do5o15o25o125o35o235o1~" ++
    "Do45o145o245o1~Do345o1~Do2~Do1~Eo6o16o26o126o36o136o236o1~Do46o146p246o346o1~Do2~Do1~Eo56o15" ++
    "6o256o1~Do356o1~Do2~Do1~Eo456o1~Do2~Do1~Eo3~Do1~Eo2~EaLOWER LEFT BLOCK DIAGONAL LOWER MIDDLE" ++
    " LEFT TO LOWER CENTRE|T TO LOWER RIGHT!UPPER MIDDLE LEFT TO LOWER CENTRE|T TO LOWER RIGHT+LE" ++
    "FT TO LOWER CENTREgRIGHT BLOCK DIAGONAL UPPER MIDDLE LEFT TO UPP~J|FT TO UPPER RIGHT$LOWER M" ++
    "IDDLE LEFT TO UPPER CENTRE|FT TO UPPER RIGHT,LEFT TO UPPER CENTRE,MIDDLE LEFT TO UPPER MIDDL" ++
    "E RIGHT,CENTRE TO LOW~P,LEFT~W,CENTRE TO UPP~P,LEFT~W,CENTRE TO UPPER~GgLEFT BLOCK DIAGONAL " ++
    "UPPER CENTRE TO UPPER MIDDLE~G+LEFT~W+CENTRE TO LOW~P+LEFT~W+CENTRE TO LOWER~G+MIDDLE LEFT T" ++
    "O LOWER MIDDLE~GaUPPER RIGHT BLOCK DIAGONAL LOWER MIDDLE LEFT TO LOWER CENTRE|FT TO LOWER RI" ++
    "GHT$UPPER MIDDLE LEFT TO LOWER CENTRE|FT TO LOWER RIGHT,LEFT TO LOWER CENTREgLEFT BLOCK DIAG" ++
    "ONAL UPPER MIDDLE LEFT TO UPP~J|T TO UPPER RIGHT!LOWER MIDDLE LEFT TO UPPER CENTRE|T TO UPPE" ++
    "R RIGHT+LEFT TO UPPER CENTRE+MIDDLE LEFT TO UPPER MIDDLE RIGHT+CENTRE TO LOW~P+LEFT~W+CENTRE" ++
    " TO UPP~P+LEFT~W+CENTRE TO UPPER~GgRIGHT BLOCK DIAGONAL UPPER CENTRE TO UPPER MIDDLE~G,LEFT~" ++
    "W,CENTRE TO LOW~P,LEFT~W,CENTRE TO LOWER~G,MIDDLE LEFT TO LOWER MIDDLE~GgAND RIGHT AND LOWER" ++
    " TRIANGULAR THREE QUARTERS BLOCKaLEFT AND LOWER AND RIGHT TRIANG~ZaUPPER AND LEFT AND LOWER " ++
    "TRIANG~ZaLEFT AND UPPER AND RIGHT TRIANG~ZfTRIANGULAR ONE QUARTER~GaUPPER TRI~ZaRIGHT TRI~Za" ++
    "LOWER TRI~ZaVERTICAL ONE EIGHTH BLOCK-2!3!4!5!6!7aHORIZONTAL ONE EIGHTH BLOCK-2&3&4&5&6&7aLE" ++
    "FT AND LOWER ONE EIGHTH BLOCKjUPP~TaRIGHT A~ZkLOW~TaUPPER A~ZaHORIZONTAL ONE EIGHTH BLOCK-13" ++
    "58aUPPER ONE QUARTER BLOCKgTHREE EIGHTHS~GgFIV~PgTHREE QUARTER~HgSEVEN EIGHTH~HaRIGHT ONE QU" ++
    "ARTER~GgTHREE EIGHTHS~GgFIV~PgTHREE QUARTER~HgSEVEN EIGHTH~HaLEFT HALF MEDIUM SHADEaRIGH~TaU" ++
    "PPER~SaLOW~UaINVERSE~NaUPPER HALF BLOCK AND LOWER HALF ~UlINVERSE MEDIUM SHADE AND LOWER HAL" ++
    "F BLOCK"),
   (0x1FB94, "aLEFT HALF INVERSE MEDIUM SHADE AND RIGHT HALF BLOCKaCHECKER BOARD FILLaINVERSE ~S" ++
    "aHEAVY HORIZONTAL~FaUPPER LEFT TO LOWER RIGHT~FgRIGHT TO LOWER LEF~GgAND LOWER TRIANGULAR HA" ++
    "LF BLOCKaLEFT AND RIGHT~WaUPPER LEFT TRIANGULAR MEDIUM SHADEgRIGH~ZaLOWER RIGH~ZgLEF~ZaBOX D" ++
    "RAWINGS LIGHT DIAGONAL UPPER CENTRE TO MIDDLE LEFT|O MIDDLE RIGHT&MIDDLE LEFT TO LOWER CENTR" ++
    "E:RIGH~R&UPPER CENTRE TO MIDDLE LEF~R|O MIDDLE RIGH~R&MIDDLE LEFT TO LOWER CENTRE TO MIDDLE " ++
    "RIGHT| UPP~Z&UPPER CENTRE TO MIDDLE LEFT AND MIDDLE RIGHT TO LOWER CENTRE|O MIDDLE RIGHT AND" ++
    " MIDDLE LEF~R|O MIDDLE RIGHT TO LOWER CENTRE TO MIDDLE LEFT|O MIDDLE LEFT TO LOWER CENTRE TO" ++
    " MIDDLE RIGHT&MIDDLE LEFT TO UPPER CENTRE TO MIDDLE RIGHT TO LOWER CENTRE:RIGHT TO UPPER CEN" ++
    "TRE TO MIDDLE LEF~R&DIAMONDtHORIZONTAL WITH VERTICAL STROKEaARROWHEAD-SHAPED POINTERaINVERSE" ++
    " CHECK MARKaLEFT HALF RUNNING MANaRIGH~SaINVERSE DOWNWARDS ARROW WITH TIP LEFTWARDSaLEFTWARD" ++
    "S ARROW AND UPPER AND LOWER ONE EIGHTH BLOCKaRIGHTWARDS ARROW AND UPPER A~ZaDOWNWARDS ARROW " ++
    "AND RIGHT~RaUPWARDS ARROW A~ZaLEFT HALF FOLDERaRIGH~NaVOIDED GREEK CROSSaRIGHT OPEN SQUARED " ++
    "DOTaNEGATIVE DIAGONAL CROSSsMIDDLE RIGHT TO LOWER CENTREsDIAMONDaWHITE HEAVY SALTIRE WITH RO" ++
    "UNDED CORNERSaLEFT THIRD WHITE RIGHT POINTING INDEXaMIDDLE THIRD W~ZaRIGHT THIRD W~ZaNEGATIV" ++
    "E SQUARED QUESTION MARKaSTICK FIGUREm WITH ARMS RAISEDnLEANING LEFTvRIGHTnWITH DRESSaWHITE U" ++
    "P-POINTING CHEVRON"),
   (0x1FBF0, "aSEGMENTED DIGIT ZEROqONEqTWOrHREEqFOURrIVEqSIXrEVENqEIGHTqNINE"),
   (0xE0001, "aLANGUAGE TAG"),
   (0xE0020, "aTAG SPACEeEXCLAMATION MARKeQUOT~KeNUMBER SIGNeDOLLA~GePERCENT~FeAMPERSANDfPOSTROP" ++
    "HEeLEFT PARENTHESISeRIGH~NeASTERISKePLUS SIGNeCOMMAeHYPHEN-MINUSeFULL STOPeSOLIDUSeDIGIT ZER" ++
    "OkONEkTWOlHREEkFOURlIVEkSIXlEVENkEIGHTkNINEeCOLONeSEMI~FeLESS-THAN SIGNeEQUALS~FeGREATER-THA" ++
    "N~FeQUESTION MARKeCOMMERCIAL ATeLATIN CAPITAL LETTER AzBzCzDzEzFzGzHzIzJzKzLzMzNzOzPzQzRzSzT" ++
    "zUzVzWzXzYzZfEFT SQUARE BRACKETeREVERSE SOLIDUSfIGHT SQUARE BRACKETeCIRCUMFLEX ACCENTeLOW LI" ++
    "NEeGRAVE ACCENTeLATIN SMALL LETTER AxBxCxDxExFxGxHxIxJxKxLxMxNxOxPxQxRxSxTxUxVxWxXxYxZfEFT C" ++
    "URLY BRACKETeVERTICAL LINEeRIGHT CURLY BRACKETeTILDEaCANCEL TAG"),
   (0xE0100, "aVARIATION SELECTOR-17u8u9t20u1u2u3u4u5u6u7u8u9t30u1u2u3u4u5u6u7u8u9t40u1u2u3u4u5u" ++
    "6u7u8u9t50u1u2u3u4u5u6u7u8u9t60u1u2u3u4u5u6u7u8u9t70u1u2u3u4u5u6u7u8u9t80u1u2u3u4u5u6u7u8u9t" ++
    "90u1u2u3u4u5u6u7u8u9t100v1v2v3v4v5v6v7v8v9u10v1v2v3v4v5v6v7v8v9u20v1v2v3v4v5v6v7v8v9u30v1v2v" ++
    "3v4v5v6v7v8v9u40v1v2v3v4v5v6v7v8v9u50v1v2v3v4v5v6v7v8v9u60v1v2v3v4v5v6v7v8v9u70v1v2v3v4v5v6v" ++
    "7v8v9u80v1v2v3v4v5v6v7v8v9u90v1v2v3v4v5v6v7v8v9t200v1v2v3v4v5v6v7v8v9u10v1v2v3v4v5v6v7v8v9u2" ++
    "0v1v2v3v4v5v6v7v8v9u30v1v2v3v4v5v6v7v8v9u40v1v2v3v4v5v6v7v8v9u50v1v2v3v4v5v6")]

end SnippetProfiler.Text.Names
