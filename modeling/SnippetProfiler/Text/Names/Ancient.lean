/-!
# Names of characters from U+10000 to U+1CFFF

The tables of the names of scripts of the past, and of cuneiform, hieroglyphs and other large scripts,
written as `Names.runNames` reads them.
-/

namespace SnippetProfiler.Text.Names

/-- The names of characters from U+10000 to U+11FFF. -/
def ancient : List (Nat × String) :=
  [(0x10000, "aLINEAR B SYLLABLE B008 Au38 Eu28 Iu61 Ou10 Uu01 DAu45 DEu07 DIu14 DOu51 DUv7 JAu4" ++
    "6 JE"),
   (0x1000D, "aLINEAR B SYLLABLE B036 JOu65 JUu77 KAu44 KEu67 KIu70 KOu81 KUv0 MAu13 MEu73 MIu15" ++
    " MOu23 MUu06 NAu24 NEu30 NIu52 NOv5 NUu03 PAu72 PEu39 PIu11 POu50 PUu16 QAu78 QEu21 QIu32 QO"),
   (0x10028, "aLINEAR B SYLLABLE B060 RAu27 REu53 RIu02 ROu26 RUu31 SAu09 SEu41 SIu12 SOu58 SUv9" ++
    " TAu04 TEu37 TIu05 TOu69 TUu54 WAu75 WEu40 WIv2 WO"),
   (0x1003C, "aLINEAR B SYLLABLE B017 ZAu74 ZE"),
   (0x1003F, "aLINEAR B SYLLABLE B020 ZOv5 A2u43 A3u85 AUu71 DWEu90 DWOu48 NWAu29 PU2u62 PTEu76 " ++
    "RA2u33 RA3u68 RO2v6 TA2u87 TWEu91 TWO"),
   (0x10050, "aLINEAR B SYMBOL B018t9s22s34s47t9s56s63t4s79s82t3t6t9"),
   (0x10080, "aLINEAR B IDEOGRAM B100 MANv2 WO~Dv4 DEERv5 EQUIDwF MAREwM STALLIONv6F EWEwM RAMv7" ++
    "F SHE-GOATwM ~Hv8F SOWwM BOARv9F COWwM BULLu20 WHEATv1 BARLEYv2 OLIVEv3 SPICEv5 CYPERUSjMONO" ++
    "GRAM B127 KAPOv8 KANAKOjIDEOGRAM B130 OILv1 WINEv2jMONOGRAM B133 AREPAv5 MERIjIDEOGRAM B140 " ++
    "BRONZEv1 GOLDv2v5 WOOLv6u50v1 HORNv2v3v4jMONOGRAM B156 TURO2jIDEOGRAM B157v8v9 CLOTHu60v1v2 " ++
    "GARMENTv3 ARMOURv4v5v6v7v8v9u70v1v2v3 MONTHv4v6 TREEv7v8v9u80v1v2v3v4v5v9u90v1 HELMETt220 FO" ++
    "OTSTOOLv5 BATHTUBu30 SPEARv1 ARROWv2v3 SWORDv4v6u40 WHEELED CHARIOTv1~Iv2 CHARIOT FRAMEv3 WH" ++
    "EELv5v6jMONOGRAM B247 DIPTEjIDEOGRAM B248v9u51v2v3v4 DARTv5v6v7v8v9sVESSEL B155!200&1&2&3&4&" ++
    "5&6&7&8&9$10&1&2&3&4&5&6&7&8&9$21&2&6&7&8&9$50!305"),
   (0x10100, "aAEGEAN WORD SEPARATOR LINEwDOThCHECK MARK"),
   (0x10107, "aAEGEAN NUMBER ONEoTWOpHREEoFOURpIVEoSIXpEVENoEIGHToNINEoTENpWENTYpHIRTYoFO~DpIFTY" ++
    "oSIXTYpEVENTYoEIGHTYoNINETYoONE HUNDREDoTWO~IpHREE~IoFOUR~IpIVE~IoSIX~IpEVEN~IoEIGHT~IoNINE~" ++
    "IoONE THOUSANDoTWO~JpHREE~JoFOUR~JpIVE~JoSIX~JpEVEN~JoEIGHT~JoNINE~JoTEN~JpWENTY~JpHIR~LoFO~" ++
    "MpIF~LoSIX~LpEVEN~LoEIGH~LoNINE~L"),
   (0x10137, "aAEGEAN WEIGHT BASE UNIToFIRST SUB~EoSECOND~IoTHIR~JoFOURTH~IhDRY MEASURE FIRST~Ih" ++
    "LIQUID~WhMEASURE SECOND~IpTHIR~JaGREEK ACROPHONIC ATTIC ONE QUARTER$HALF$DRACHMAxFIVEzFTYzVE" ++
    " HUNDRED&THOUSANDzFTY~JzVE TALENTSxTEN~IxFIFTY~IxONE HUNDRED~IxFIV~RxONE THOUSAN~JxFIV~S&STA" ++
    "TERSxTEN~IxFIFTY~IxONE HUNDRED~IxFIV~RxONE THOUSAN~JxTEN~RxFIFTY~RxTEN MNASrHERAEUM ONE PLET" ++
    "HRONrTHESPIAN ONErHERMION~HrEPIDAUREAN TWOrTHESPI~GrCYRENAIC TWO DRACHMASrEPIDAUREAN~NrTROEZ" ++
    "ENIAN FIVE&TEN* ALTERNATE FORMrHERMIONIAN TENrMESSE~IrTHESP~H$HIRTYsROEZENIAN FIFTY, ALTERNA" ++
    "TE FORMrHERMIONIAN FIFTYrTHESP~J!ONE HUNDRED!THRE~JrEPIDAUREAN FIV~JrTROEZENI~PsHESP~QrCARYS" ++
    "T~QrNAX~QrTHESPIAN ONE THOUSAND!FIV~KrDELPHIC FIVE MNASrSTRATIAN FIFTY~FgONE HALF SIGNt ALTE" ++
    "RNATE FORMgTWO THIRDS SIGNhHREE QUARTER~GgYEAR~FgTALENT~FgDRACHMA~FgOBOL~FgTWO OBOLS~FhHREE~" ++
    "LgFOUR~LhIVE~LgMETRETE~GgKYATHOS BASE~FgLITRA~FgOUNKI~GgXESTES~FgARTABE~FiOURA~FgGRAMM~GgTRY" ++
    "BLION BASE~FgZERO~FgONE QUARTER~FgSINUSOID~FgINDICTION~FaNOMISMA~F"),
   (0x10190, "aROMAN SEXTANS SIGNgUNCIA~FgSEM~KiXTUL~GgDIMIDIA ~MgSILIQU~GgDENARIUS~FgQUI~LgSEST" ++
    "ERT~IgDUPOND~IgA~GgCENTURIAL~FaASCIA SYMBOL"),
   (0x101A0, "aGREEK SYMBOL TAU RHO"),
   (0x101D0, "aPHAISTOS DISC SIGN PEDESTRIANuLUMED HEADtTATTOO~HtCAPTIVEuHILDtWOMANtHELMETtGAUNT" ++
    "LETtTIARAtARROWtBOWtSHIELDtCLUBtMANACLESvTTOCKtSAWtLIDtBOOMERANGtCARPENTRY PLANEtDOLIUMtCOMB" ++
    "tSLINGtCOLUMNtBEEHIVEtSHIPtHORNuIDEtBULLS LEGtCATtRAMtEAGLEtDOVEtTUNNYtBEEtPLANE TREEtVINEtP" ++
    "APYRUStROSETTEtLILYtOX BACKtFLUTEtGRATERtSTRAINERuMALL AXEtWAVY BANDtCOMBINING OBLIQUE STROK" ++
    "E"),
   (0x10280, "aLYCIAN LETTER AoEoBpHoGoDoIoWoZoTHoJoKoQoLoMoNoMMoNNoUoPoKKoRoSoTpToANoENoHoX"),
   (0x102A0, "aCARIAN LETTER AoP2oDoLoUUUoRoLDoA2oQoBoMoOoD2oToSHq2poC-18oUoNNoXoNoTT2oPoSSoIoEo" ++
    "UUUUoKp2oNDoUUoGp2oSTq2oNGoIIoC-39oTToUUU2oRRoMBq2q3q4oLD2oE2oUUU3"),
   (0x102E0, "aCOPTIC EPACT THOUSANDS MARKnDIGIT ONEtTWOuHREEtFOURuIVEtSIXuEVENtEIGHTtNINEnNUMBE" ++
    "R TENvWENTYvHIRTYuFO~DvIFTYuSIXTYvEVENTYuEIGHTYuNINETYuONE HUNDREDuTWO~IvHREE~IuFOUR~IvIVE~I" ++
    "uSIX~IvEVEN~IuEIGHT~IuNINE~I"),
   (0x10300, "aOLD ITALIC LETTER AsBEsKEsDEsEsVEsZEsHEsTHEsIsKAsELtMtNtSHsOsPEsSHEsKUsERtSsTEsUs" ++
    "EKSsPHEsKHEsEFtRSsCHEsIIsUUsESSlNUMERAL ONEtFIVEtTENtFIFTY"),
   (0x1032D, "aOLD ITALIC LETTER YEsNORTHERN TSEsSOU~JaGOTHIC LETTER AHSAoBAIRKANoGIBAoDAGSoAIHV" ++
    "USoQAIRTHRAoIUJAoHAGLoTHIUTHoEISoKUSMAoLAGUSoMANNAoNAUTHSoJERoURUSoPAIRTHRAoNINETYoRAIDAoSAU" ++
    "ILoTEIWSoWINJAoFAIHUoIGGWSoHWAIRoOTHALoNINE HUNDRED"),
   (0x10350, "aOLD PERMIC LETTER ANsBURsGAIsDOIsEsZHOIsD~EsZATAsDZITAsIsKOKEsLEIsMENOEsN~EsVOOIs" ++
    "PEEIsREIsSIIsTAIsUsCHERYsSHOOIuCH~DsYRYtERUsOtOsEFsHAsTSIUsVERsYERvItATsIEsYUtAsIAaCOMBINING" ++
    " OLD PERMIC LETTER AN&DOI&ZATA&NENOE&SII"),
   (0x10380, "aUGARITIC LETTER ALPAqBETAqGAMLAqKHAqDELTAqHOqWOqZETAqHOTAqTETqYODqKAFqSHINqLAMDAq" ++
    "MEMqDHALqNUNqZUqSAMKAqAINqPUqSADEqQOPAqRASHAqTHANNAqGHAINqTOqIqUqSSU"),
   (0x1039F, "aUGARITIC WORD DIVIDERaOLD PERSIAN SIGN ArIrUrKAsUrGAsUrXArCArJAsIrTAsUrDAsIsUrTHA" ++
    "rPArBArFArNAsUrMAsIsUrYArVAsIrRAsUrLArSArZArSHAsSArHA"),
   (0x103C8, "aOLD PERSIAN SIGN AURAMAZDAA$-2$HArXSHAAYATHIYArDAHYAAUSH!-2rBAGAsUUMISHmWORD DIVI" ++
    "DERmNUMBER ONEtTWOuENuWENTYtHUNDRED"),
   (0x10400, "aDESERET CAPITAL LETTER LONG I&E&A(H&O(OxSHORT I(E(A)H(O)OxAYxOWxWUxYEExHxPEExBEEx" ++
    "TEExDEExCHEExJEExKAYxGAYxEFxVEExETHxTHEExESxZEExESHxZHEExERyLyMyNzGxOIxEWiSMALL LETTER LONG " ++
    "I!E!A$H!O$OvSHORT I$E$A&H$O&OvAYvOWvWUvYEEvHvPEEvBEEvTEEvDEEvCHEEvJEEvKAYvGAYvEFvVEEvETHvTHE" ++
    "EvESvZEEvESHvZHEEvERwLwMwNxGvOIvEWaSHAVIAN LETTER PEEPpTOTpKICKpFEEpTHIGHpSOqUREpCHURCHpYEAp" ++
    "HUNGpBIBpDEADpGAGpVOWpTHEYpZOOpMEASUREpJUDGEpWOEpHA-HApLOLLpMIMEpIFpEGGpASHqDOpONpWOOLpOUTpA" ++
    "HpROARpNUNpEATpAGEpICEpUPpOAKqOZEqILpAWEqREpORpAIRpERRpARRAYpEARpIANpYEWaOSMANYA LETTER ALEF" ++
    "pBApTApJApXApKHApDEELpRApSAqHIINpDHApCAYNpGApFApQAAFpK~DpLAANpMIINpNUUNpWAWpHApYApApEpIpOpUp" ++
    "AApEEpOO"),
   (0x104A0, "aOSMANYA DIGIT ZEROoONEoTWOpHREEoFOURpIVEoSIXpEVENoEIGHToNINE"),
   (0x104B0, "aOSAGE CAPITAL LETTER AwIxNwHvBRAvCHAvEH~DwwINvHAwYAvIvKAvEHKAvKYAvLAvMAvNAvOwINvP" ++
    "AvEHPAvSAwHAvTAvEHTAvTSAvEH~DvTSHAvDHAvUvWAvKHAvGHAvZAwHA"),
   (0x104D8, "aOSAGE SMALL LETTER AuIvNuHtBRAtCHAtEH~DuuINtHAuYAtItKAtEHKAtKYAtLAtMAtNAtOuINtPAt" ++
    "EHPAtSAuHAtTAtEHTAtTSAtEH~DtTSHAtDHAtUtWAtKHAtGHAtZAuHA"),
   (0x10500, "aELBASAN LETTER ApBEpCEqHEpDEpNDEpDHEpEIqpFEpGEqJEpHEpIpJEpKEpLEqLEpMEpNEqAqJEpOpP" ++
    "EpQEpREqREpSEqHEpTEqHEpUpVEpXEpYpZEqHEpGHErAMMApKHE"),
   (0x10530, "aCAUCASIAN ALBANIAN LETTER ALT!BET!GIM!DAT!EB!ZARL!EYN!ZHIL!TAS!CHA!YOWD!ZHA!IRB!S" ++
    "HA!LAN!INYA!XEYN!DYAN!CAR!JHOX!KAR!LYIT!HEYT!QAY!AOR!CHOY&I$YAY!MAQ!QAR!NOWC!DZYAY!SHAK!JAYN" ++
    "!ON!TYAY!FAM!DZAY!CHAT!PEN!GHEYS!RAT!SEYK!VEYZ!TIWR!SHOY!IWN!CYAW$AYN!YAYD!PIWR!KIW"),
   (0x1056F, "aCAUCASIAN ALBANIAN CITATION MARKaVITHKUQI CAPITAL LETTER AyBBEzEyCEzHEyDEzHEyEIzy" ++
    "FEyGA"),
   (0x1057C, "aVITHKUQI CAPITAL LETTER HAzHAyIzJEyJEyKAyLAzLAyMEyNEzJEyOyPEyQAyRE"),
   (0x1058C, "aVITHKUQI CAPITAL LETTER SEzHEyTEzHEyUyVEyXE"),
   (0x10594, "aVITHKUQI CAPITAL LETTER YyZE"),
   (0x10597, "aVITHKUQI SMALL LETTER AwBBExEwCExHEwDExHEwEIxwFEwGA"),
   (0x105A3, "aVITHKUQI SMALL LETTER HAxHAwIxJEwJEwKAwLAxLAwMEwNExJEwOwPEwQAwRE"),
   (0x105B3, "aVITHKUQI SMALL LETTER SExHEwTExHEwUwVEwXE"),
   (0x105BB, "aVITHKUQI SMALL LETTER YwZE"),
   (0x10600, "aLINEAR A SIGN AB001s2s3s4s5s6s7s8s9r10s1s3s6s7r20s1tFtMs2tFtMs3tMs4s6s7s8p028BpB0" ++
    "29r30s1s4s7s8s9r40s1s4s5s6s7s8s9r50s1s3s4s5s6s7s8s9r60s1s5s6s7s9r70s3s4s6s7s8s9r80s1s2s5s6s7" ++
    "p100-102pB118r20p120BpB122s3r31AtBp131CpB164r71r80s8r91p301r2r3r4r5r6r7r8r9AsBsCq10r1r2r3AsB" ++
    "sCr4r5r6r7r8r9q20r1r2r3r4r5r6r7r8r9q30r1r2r3r4r5r6r7r8r9q40r1r2r3r4r5r6r7r8r9q50r1r2r3r4r5r6" ++
    "r7r8r9q60r1r2r3r4r5r6r7r8r9q70r1p400-VASr1~Er2~Er3~Er4~Er5~Er6~Er7~Er8~Er9~Eq10~Er1~Er2~Er3~" ++
    "Er4~Er5~Er6~Er7~Er8~Ep501r2r3r4r5r6r8r9q10r1r2r3r5r6q20r1r3r4r5r6r7r8r9q30r1r2r4r5r6r7r8r9q4" ++
    "0r1r2r5r7r8r9q50r1r2r3r4r5r6r7r9q63r4r5r6r8r9q70r1r2r3r4r5r6r7r8r9q80r1r2r3r4r5r6r7r8r9q91r2" ++
    "r4r5r6r8p600r1r2r3r4r6r8r9q10r1r2r3r4r5r6r7r8r9q20r1r2r3r4r6r7r8r9q34r7r8q40r2r3r4r5r6r8r9q5" ++
    "1r2r3r4r5r6r7r8r9q60r1r2r3r4"),
   (0x10740, "aLINEAR A SIGN A701 Ar2 Br3 Dr4 Er5 Fr6 Hr7 Jr8 Kr9 Ls-2 L2t3 L3t4 L4t6 L6q10 Wr1 " ++
    "Xr2 Yr3 OMEGAr4 ABBr5 BBr7 DDq26 EYYYq32 JE"),
   (0x10760, "aLINEAR A SIGN A800r1r2r3r4r5r6r7"),
   (0x10780, "aMODIFIER LETTER SMALL CAPITAL AArUPERSCRIPT TRIANGULAR COLON&HALF ~QrMALL AEwCAPI" ++
    "TAL BwB WITH HOOK"),
   (0x10787, "aMODIFIER LETTER SMALL DZ DIGRAPH+ WITH RETROFLEX HOOK=CURLxEZH DIGRAPHx WITH TAIL" ++
    "(HOOK, AND TAILwREVERSED EwCLOSED REVERSED OPEN EwFENG DIGRAPHwRAMS HORNwCAPITAL GwG WITH HO" ++
    "OKwCAPITAL ~LwH WITH STROKEwCAPITAL HwHENG WITH HOOKwDOTLESS J WITH STROKE AND~FwLS DIGRAPHx" ++
    "Z~Ix WITH BELTwCAPITAL ~LwL WITH RETROFLEX HOOK AND~FxEZH! WITH RETROFLEX HOOKwTURNED Y) WIT" ++
    "H BELTwO WITH STROKEwCAPITAL OExLOSED OMEGAwQwTURNED R WITH LONG LEG|EG AND RETROFLEX HOOKwR" ++
    " WITH TAIL(FISHHOOKwCAPITAL RwTC DIGRAPH WITH CURLxS DIGRAPH+ WITH RETROFLEX HOOKxESH DIGRAP" ++
    "Hx WITH RETROFLEX HOOKwV WITH RIGHT~F"),
   (0x107B2, "aMODIFIER LETTER SMALL CAPITAL YqGLOTTAL STOP WITH STROKEqREVERSED ~YqBILABIAL CLI" ++
    "CKqDENT~IqLATER~IqALVEOLAR~GqRETROFLEX CLICK WITH RETROFLEX HOOKqSMALL S WITH CURL"),
   (0x10800, "aCYPRIOT SYLLABLE ArErIrOrUrJA"),
   (0x10808, "aCYPRIOT SYLLABLE JO"),
   (0x1080A, "aCYPRIOT SYLLABLE KAsEsIsOsUrLAsEsIsOsUrMAsEsIsOsUrNAsEsIsOsUrPAsEsIsOsUrRAsEsIsOs" ++
    "UrSAsEsIsOsUrTAsEsIsOsUrWAsEsIsO"),
   (0x10837, "aCYPRIOT SYLLABLE XAsE"),
   (0x1083C, "aCYPRIOT SYLLABLE ZA"),
   (0x1083F, "aCYPRIOT SYLLABLE ZOaIMPERIAL ARAMAIC LETTER ALEPHyBETHyGIMELyDALETHyHEyWAWyZAYINy" ++
    "HETHyT~DyYODHyKAPHyLAMEDHyMEMyNUNySAMEKHyAYINyPEySADHEyQOPHyRESHySHINyTAW"),
   (0x10857, "aIMPERIAL ARAMAIC SECTION SIGNrNUMBER ONEyTWOzHREEzENzWENTYyONE HUNDRED&THOUSANDyT" ++
    "EN~JaPALMYRENE LETTER ALEPHrBETHrGIMELrDALETHrHErWAWrZAYINrHETHrT~DrYODHrKAPHrLAMEDHrMEMrFIN" ++
    "AL NUNr~DrSAMEKHrAYINrPErSADHErQOPHrRESHrSHINrTAWmFT-POINTING FLEURONkRIGH~SkNUMBER ONErTWOs" ++
    "HREErFOURsIVErTENsWENTYaNABATAEAN LETTER FINAL ALEPHr~FrFINAL BETHr~ErGIMELrDALETHrFINAL HEr" ++
    "HErWAWrZAYINrHETHrT~DrFINAL YODHr~ErFINAL KAPHr~ErFINAL LAMEDHr~GrFINAL MEMr~DrFINAL NUNr~Dr" ++
    "SAMEKHrAYINrPErSADHErQOPHrRESHrFINAL SHINr~ErTAW"),
   (0x108A7, "aNABATAEAN NUMBER ONErTWOsHREErFOURkCRUCIFORM ~LkNUMBER FIVErTENsWENTYrONE HUNDRED"),
   (0x108E0, "aHATRAN LETTER ALEPHoBETHoGIMELoDALETH-RESHoHEoWAWoZAYNoHETHoT~DoYODHoKAPHoLAMEDHo" ++
    "MEMoNUNoSAMEKHoAYNoPEoSADHEoQOPH"),
   (0x108F4, "aHATRAN LETTER SHINoTAW"),
   (0x108FB, "aHATRAN NUMBER ONEoFIVEoTENpWENTYoONE HUNDREDaPHOENICIAN LETTER ALFsBETsGAMLsDELTs" ++
    "HEsWAUsZAIsHETsTETsYODsKAFsLAMDsMEMsNUNsSEMKsAINsPEsSADEsQOFsROSHsSHINsTAUlNUMBER ONEsTENtWE" ++
    "NTYsONE HUNDREDsTWOtHREE"),
   (0x1091F, "aPHOENICIAN WORD SEPARATORaLYDIAN LETTER AoBoGoDoEoVoIoYoKoLoMoNoOoRoSSoToUoFoQoSo" ++
    "TToANoENoLYoNNoC"),
   (0x1093F, "aLYDIAN TRIANGULAR MARK"),
   (0x10980, "aMEROITIC HIEROGLYPHIC LETTER A(E(I(O(YA(WA(BA*-2(PA(MA(NA*-2)E*-2(RA*-2(LA(KHA(HH" ++
    "A(SA*-2)E(KA(QA(TA*-2)E*-2)O(DAwSYMBOL VIDJ,-2jCURSIVE LETTER AyEyIyOyYAyWAyBAyPAyMAyNAzEyRA" ++
    "yLAyKHAyHHAySAyARCHAIC SAySEyKAyQAyTAzEzOyDA"),
   (0x109BC, "aMEROITIC CURSIVE FRACTION ELEVEN TWELFTHS!ONE HALFrLOGOGRAM RMT!IMNrNUMBER ONEyTW" ++
    "OzHREEyFOURzIVEySIXzEVENyEIGHTyNINEyTENzWENTYzHIRTYyFO~DzIFTYySIXTYzEVENTY"),
   (0x109D2, "aMEROITIC CURSIVE NUMBER ONE HUNDREDyTWO~IzHREE~IyFOUR~IzIVE~IySIX~IzEVEN~IyEIGHT~" ++
    "IyNINE~IyONE THOUSANDyTWO~JzHREE~JyFOUR~JzIVE~JySIX~JzEVEN~JyEIGHT~JyNINE~JyTEN~JzWENTY~JzHI" ++
    "R~LyFO~MzIF~LySIX~LzEVEN~LyEIGH~LyNINE~LyONE HUNDRED~JyTWO~RzHREE~RyFOUR~RzIVE~RySIX~RzEVEN~" ++
    "RyEIGHT~RyNINE~RrFRACTION ONE TWELFTH!TWO TWELFTHS$HREE~J!FOUR~J$IVE~J!SIX~J$EVEN~J!EIGHT~J!" ++
    "NINE~J!TEN~JaKHAROSHTHI LETTER AlVOWEL SIGN IwUwVOCALIC R"),
   (0x10A05, "aKHAROSHTHI VOWEL SIGN EwO"),
   (0x10A0C, "aKHAROSHTHI VOWEL LENGTH MARKlSIGN DOUBLE RING BELOWqANUSVARAqVISARGAlLETTER KAtHA" ++
    "sGAtHA"),
   (0x10A15, "aKHAROSHTHI LETTER CAtHAsJA"),
   (0x10A19, "aKHAROSHTHI LETTER NYAsTTAuHAsDDAuHAsNNAsTAtHAsDAtHAsNAsPAtHAsBAtHAsMAsYAsRAsLAsVA" ++
    "sSHAtSAtAsZAsHAsKKAsTTTHAvAsVHA"),
   (0x10A38, "aKHAROSHTHI SIGN BAR ABOVEqCAUDAqDOT BELOW"),
   (0x10A3F, "aKHAROSHTHI VIRAMAlDIGIT ONErTWOsHREErFOURlNUMBER TENtWENTYsONE HUNDREDwTHOUSANDlF" ++
    "RACTION ONE HALF"),
   (0x10A50, "aKHAROSHTHI PUNCTUATION DOTxSMALL CIRCLEx~GyRESCENT BARxMANGALAMxLOTUSxDANDAyOUBLE" ++
    " D~ExLINES"),
   (0x10A60, "aOLD SOUTH ARABIAN LETTER HEzLAMEDHzHETHzMEMzQOPHzWAWzSHINzRESHzBETHzTAWzSATzKAPHz" ++
    "NUNzKHETHzSADHE$MEKHzFEzALEF!YNzDHADHEzGIMELzDALETHzGHAYNzTETHzZAYNzDHALETHzYODHzTHAW$ETHsNU" ++
    "MBER ONEzFIFTYvERIC INDICATOReNORTH ARABIAN LETTER HEHzLAMzHAHzMEEMzQAFzWAWzES-2zREHzBEHzTEH" ++
    "zES-1zKAFzNOONzKHAHzSADzES-3zFEHzALEF!INzDADzGEEMzDALzGHAINzTAHzZAINzTHALzYEHzTHEHzZAHsNUMBE" ++
    "R ONEzTEN!WENTY"),
   (0x10AC0, "aMANICHAEAN LETTER ALEPHsBETHtH~DsGIMELtH~EsDALETHsHEsWAWlSIGN UDlLETTER ZAYINtH~E" ++
    "sJ~EtH~EsHETHsT~DsYODHsKAPHsX~DsKH~DsLAMEDHsDH~FsT~GsMEMsNUNsSAMEKHsAYINtA~DsPEsFEsSADHEsQOP" ++
    "HsX~DsQH~DsRESHsSHINtS~DsTAWlABBREVIATION MARK ABOVE(BELOW"),
   (0x10AEB, "aMANICHAEAN NUMBER ONEsFIVEsTENtWENTYsONE HUNDREDlPUNCTUATION STARxFLEURONxDOUBLE " ++
    "DOT WITHIN DOTz~M!xTWO DOTSxLINE FILLER"),
   (0x10B00, "aAVESTAN LETTER AqAqOqAOqNqANqErEpEqEpOqOpIqIpUqUpKEpXEqYEqVEpGEqGEqHEpCEpJEpTEqHE" ++
    "pDEqHEpTTEpPEpFEpBEqHEpNGErYErVEqEqYEqNEpMEpHMEpYYEqEpVEpREpLEpSEpZEpSHEpZHEpSHYEqSHEpHE"),
   (0x10B39, "aAVESTAN ABBREVIATION MARKaTINY TWO DOTS OVER ONE DOT PUNCTUATIONaSMALL TWO DOTS~Z" ++
    "aLARGE TWO DOTS~ZgONE DOT OVER TWO DOTS~MgTWO RINGS OVER ONE RING~MgONE RING OVER TWO RINGS~" ++
    "MaINSCRIPTIONAL PARTHIAN LETTER ALEPH)BETH)GIMEL)DALETH)HE)WAW)ZAYIN)HETH)T~D)YODH)KAPH)LAME" ++
    "DH)MEM)NUN)SAMEKH)AYIN)PE)SADHE)QOPH)RESH)SHIN)TAW"),
   (0x10B58, "aINSCRIPTIONAL PARTHIAN NUMBER ONE)TWO*HREE)FOUR)TEN*WENTY)ONE HUNDRED.THOUSANDqHL" ++
    "AVI LETTER ALEPH(BETH(GIMEL(DALETH(HE(WAW-AYIN-RESH(ZAYIN(HETH(T~D(YODH(KAPH(LAMEDH(MEM-QOPH" ++
    "(NUN(SAMEKH(PE(SADHE)HIN(TAW"),
   (0x10B78, "aINSCRIPTIONAL PAHLAVI NUMBER ONE(TWO)HREE(FOUR(TEN)WENTY(ONE HUNDRED,THOUSANDaPSA" ++
    "LTER PAHLAVI LETTER ALEPHxBETHxGIMELxDALETHxHExWAW-AYIN-RESHxZAYINxHETHxYODHxKAPHxLAMEDHxMEM" ++
    "-QOPHxNUNxSAMEKHxPExSADHEyHINxTAW"),
   (0x10B99, "aPSALTER PAHLAVI SECTION MARKqTURNED ~MqFOUR DOTS WITH CROSS*DOT"),
   (0x10BA9, "aPSALTER PAHLAVI NUMBER ONExTWOyHREExFOURxTENyWENTYxONE HUNDRED"),
   (0x10C00, "aOLD TURKIC LETTER ORKHON AsYENISEI A$EsORKHON IsYENISEI I!EsORKHON O!EsYENISEI~Ds" ++
    "ORKHON ABsYENISEI~DsORKHON AEBsYENISEI~EsORKHON AGsYENISEI~DsORKHON AEGsYENISEI~EsORKHON ADs" ++
    "YENISEI~DsORKHON AEDzEZsYENISEI~DsORKHON AYsYENISEI~DsORKHON AEYsYENISEI~EsORKHON AEKsYENISE" ++
    "I~EsORKHON OEKsYENISEI~EsORKHON ALsYENISEI~DsORKHON AELzELT!MzAN!ENsYENISEI~EsORKHON ENTsYEN" ++
    "ISEI~EsORKHON ENCsYENISEI~EsORKHON ENYsYENISEI~E!ANGsORKHON ENGsYENISEI A~DsORKHON EPzOPzICz" ++
    "ECsYENISEI~DsORKHON AQsYENISEI~DsORKHON IQsYENISEI~DsORKHON OQsYENISEI~DsORKHON ARsYENISEI~D" ++
    "sORKHON AER!S!ES!SHsYENISEI~EsORKHON ESHsYENISEI~EsORKHON ATsYENISEI~DsORKHON AETsYENISEI~Es" ++
    "ORKHON OTzBASH"),
   (0x10C80, "aOLD HUNGARIAN CAPITAL LETTER A)A(EB(AMB(EC)NC)CS)D(AND(E(CLOSE E(EE)F)G*Y)H(I)I(E" ++
    "J)K(AK(UNK(EL*Y)M)N*Y(O)O(NIKOLSBURG OE(RUDIMENTA~D(OEE(EP)MP)R(SHORT ER(ES*Z)T)NT)TY)CH(U)U" ++
    "(NIKOLSBURG UE(RUDIMENTA~D(EV)Z*S)NT-SHAPED SIGN(US"),
   (0x10CC0, "aOLD HUNGARIAN SMALL LETTER A&A$EB$AMB$EC&NC&CS&D$AND$E$CLOSE E$EE&F&G(Y&H$I&I$EJ&" ++
    "K$AK$UNK$EL(Y&M&N(Y$O&O$NIKOLSBURG OE$RUDIMENTA~D$OEE$EP&MP&R$SHORT ER$ES(Z&T&NT&TY&CH$U&U$N" ++
    "IKOLSBURG UE$RUDIMENTA~D$EV&Z(S&NT-SHAPED SIGN$US"),
   (0x10CFA, "aOLD HUNGARIAN NUMBER ONEvFIVEvTENvFIFTYvONE HUNDREDzTHOUSANDaHANIFI ROHINGYA LETT" ++
    "ER AxBAxPAxTAyTAxJAxCAxHAxKHAxFAxDAyDAxRAyRAxZAxSAyHAxKAxGAxLAxMAxNAxWAxKINNA WAxYAxKINNA YA" ++
    "xNGAyYAxVAqVOWEL AwIwUwEwOqMARK SAKINvNA KHONNAqSIGN HARBAHAYvTAHALAxNAxSSI"),
   (0x10D30, "aHANIFI ROHINGYA DIGIT ZEROwONEwTWOxHREEwFOURxIVEwSIXxEVENwEIGHTwNINE"),
   (0x10E60, "aRUMI DIGIT ONElTWOmHREElFOURmIVElSIXmEVENlEIGHTlNINEfNUMBER TENnWENTYnHIRTYmFO~Dn" ++
    "IFTYmSIXTYnEVENTYmEIGHTYmNINETYmONE HUNDREDmTWO~InHREE~ImFOUR~InIVE~ImSIX~InEVEN~ImEIGHT~ImN" ++
    "INE~IfFRACTION ONE HALFsQUARTERsTHIRDoTWO THIRDS"),
   (0x10E80, "aYEZIDI LETTER ELIFoBEoPEpHEoTHEoSEoCIMpHIMqHIMoHHAoXAoDALoZALoRApHAoZAoJAoSINpHIN" ++
    "pADoDADoTAoZEoEYNoXH~DoFAoVAq ALTERNATE FORMoQAFoKAFpHAFoGAFoLAMoMIMoNUNoUMoWAWoOWoEWoHAYoYO" ++
    "ToET"),
   (0x10EAB, "aYEZIDI COMBINING HAMZA MARKrMADD~GhHYPHENATION~F"),
   (0x10EB0, "aYEZIDI LETTER LAM WITH DOT ABOVEoYOT WITH CIRCUMFLEX~G"),
   (0x10F00, "aOLD SOGDIAN LETTER ALEPHtFINAL ~FtBETHtFINAL ~EtGIMELtHEtFINAL HEtWAWtZAYINtHETHt" ++
    "YODHtKAPHtLAMEDHtMEMtNUNtFINAL ~D& WITH VERTICAL TAILtSAMEKHtAYINuLTERNATE A~DtPEtSADHEtFINA" ++
    "L ~F) WITH VERTICAL TAILtRESH-AYIN-DALETHtSHINtTAWtFINAL ~D& WITH VERTICAL TAILmNUMBER ONEtT" ++
    "WOuHREEtFOURuIVEtTENuWENTYuHIRTYtONE HUNDREDmFRACTION ONE HALFmLIGATURE AYIN-DALETH"),
   (0x10F30, "aSOGDIAN LETTER ALEPHpBETHpGIMELpHEpWAWpZAYINpHETHpYODHpKAPHpLAMEDHpMEMpNUNpSAMEKH" ++
    "pAYINpPEpSADHEpRESH-AYINpSHINpTAWpFETHpLESHiINDEPENDENT SHINiCOMBINING DOT BELOWsTWO DOTS~Gs" ++
    "DOT ABOVEsTWO DOTS~GsCURVE~GyBELOWsHOOK ABOVExBELOWsLONG ~KsRESH~GsSTROKE~GiNUMBER ONEpTENqW" ++
    "ENTYpONE HUNDREDiPUNCTUATION TWO VERTICAL BARS< WITH DOTSuCIRCLE WITH DOTuTWO CIRCLES WITH D" ++
    "OTSuHALF CIRCLE WITH DOT"),
   (0x10F70, "aOLD UYGHUR LETTER ALEPHsBETHsGIMEL-H~DsWAWsZAYINsFINAL HETHsYODHsKAPHsLAMEDHsMEMs" ++
    "NUNsSAMEKHsPEsSADHEsRESHsSHINsTAWsLESHlCOMBINING DOT ABOVEzBELOWvTWO DOTS ABOVE)BELOWlPUNCTU" ++
    "ATION BARxTWO BARS$DOTSxFOUR~F"),
   (0x10FB0, "aCHORASMIAN LETTER ALEPHsSMALL ~FsBETHsGIMELsDALETHsHEsWAWsCURLED ~DsZAYINsHETHsYO" ++
    "DHsKAPHsLAMEDHsMEMsNUNsSAMEKHsAYINsPEsRESHsSHINsTAWlNUMBER ONEsTWOtHREEsFOURsTENtWENTYsONE H" ++
    "UNDRED"),
   (0x10FE0, "aELYMAIC LETTER ALEPHpBETHpGIMELpDALETHpHEpWAWpZAYINpHETHpT~DpYODHpKAPHpLAMEDHpMEM" ++
    "pNUNpSAMEKHpAYINpPEpSADHEpQOPHpRESHpSHINpTAWjIGATURE ZAYIN-YODH"),
   (0x11000, "aBRAHMI SIGN CANDRABINDUmANUSVARAmVISARGAmJIHVAMULIYAmUPADHMAN~DhLETTER ApAoIpIoUp" ++
    "UoVOCALIC RxRwLxLoEoAIoOoAUoKApHAoGApHAoNGAoCApHAoJApHAoNYAoTTAqHAoDDAqHAoNNAoTApHAoDApHAoNA" ++
    "oPApHAoBApHAoMAoYAoRAoLAoVAoSHApSApAoHAoLLAoOLD TAMIL L~DyRRAyNNNAhVOWEL SIGN AAsBHATTIPROLU" ++
    " AAsItIsUtUsVOCALIC R$R!L$LsEsAIsOsAUiIRAMAhDANDAiOUBLE D~EhPUNCTUATION DOTvUBLE DOTtLINEtCR" ++
    "ESCENT BARtLOTUS"),
   (0x11052, "aBRAHMI NUMBER ONEoTWOpHREEoFOURpIVEoSIXpEVENoEIGHToNINEoTENpWENTYpHIRTYoFO~DpIFTY" ++
    "oSIXTYpEVENTYoEIGHTYoNINETYoONE HUNDREDsTHOUSANDhDIGIT ZEROnONEnTWOoHREEnFOURoIVEnSIXoEVENnE" ++
    "IGHTnNINEhSIGN OLD TAMIL VIRAMAhLETTER OLD TAMIL SHORT E)OhVOWEL SIGN OLD TAMIL SHORT E.OhLE" ++
    "TTER OLD TAMIL LLA"),
   (0x1107F, "aBRAHMI NUMBER JOINERaKAITHI SIGN CANDRABINDUmANUSVARAmVISARGAhLETTER ApAoIpIoUpUo" ++
    "EoAIoOoAUoKApHAoGApHAoNGAoCApHAoJApHAoNYAoTTAqHAoDDAqDHAqHAoRHAoNNAoTApHAoDApHAoNAoPApHAoBAp" ++
    "HAoMAoYAoRAoLAoVAoSHApSApAoHAhVOWEL SIGN AAsItIsUtUsEsAIsOsAUhSIGN VIRAMAmNUKTAhABBREVIATION" ++
    " SIGNhENUMER~KhNUMBER~FhSECTION MARKhDOUBLE ~MiANDAiOUBLE D~EhVOWEL SIGN VOCALIC R"),
   (0x110CD, "aKAITHI NUMBER SIGN ABOVE"),
   (0x110D0, "aSORA SOMPENG LETTER SAHuTAHuBAHuCAHuDAHuGAHuMAHuNGAHuLAHuNAHuVAHuPAHuYAHuRAHuHAHu" ++
    "KAHuJAHuNYAHuAHuEEHuIHuUHuOHuEHuMAE"),
   (0x110F0, "aSORA SOMPENG DIGIT ZEROtONEtTWOuHREEtFOURuIVEtSIXuEVENtEIGHTtNINE"),
   (0x11100, "aCHAKMA SIGN CANDRABINDUmANUSVARAmVISARGAhLETTER AAoIoUoEoKAApHAAoGAApHAAoNGAAoCAA" ++
    "pHAAoJAApHAAoNYAAoTTAAqHAAoDDAAqHAAoNNAAoTAApHAAoDAApHAAoNAAoPAApHAAoBAApHAAoMAAoYYAApAAoRAA" ++
    "oLAAoWAAoSAAoHAAhVOWEL SIGN AsItIsUtUsEsAIsOsAUsOIhO MARKhAU~FhVIRAMAhMAAYYAA"),
   (0x11136, "aCHAKMA DIGIT ZEROnONEnTWOoHREEnFOURoIVEnSIXoEVENnEIGHTnNINEhSECTION MARKhDANDAiOU" ++
    "BLE D~EhQUESTION MARKhLETTER LHAAhVOWEL SIGN AAsEIhLETTER VAA"),
   (0x11150, "aMAHAJANI LETTER AqIqUqEqOqKArHAqGArHAqCArHAqJArHAqNYAqTTAsHAqDDAsHAqNNAqTArHAqDAr" ++
    "HAqNAqPArHAqBArHAqMAqRAqLAqVAqSAqHAqRRAjSIGN NUKTAjABBREVIATION SIGNjSECTION MARKjLIGATURE S" ++
    "HRI"),
   (0x11180, "aSHARADA SIGN CANDRABINDUnANUSVARAnVISARGAiLETTER AqApIqIpUqUpVOCALIC RyRxLyLpEpAI" ++
    "pOpAUpKAqHApGAqHApNGApCAqHApJAqHApNYApTTArHApDDArHApNNApTAqHApDAqHApNApPAqHApBAqHApMApYApRAp" ++
    "LAqLApVApSHAqSAqApHAiVOWEL SIGN AAtIuItUuUtVOCALIC R&R$L&LtEtAItOtAUiSIGN VIRAMAnAVAGRAHAnJI" ++
    "HVAMULIYAnUPADHMAN~DiOMiDANDAjOUBLE D~EiABBREVIATION SIGNiSEPARATORjANDHI MARKjIGN NUKTAiVOW" ++
    "EL MODIFIER MARKiEXTRA SHORT VOWEL~FiSUTRA~FiVOWEL SIGN PRISHTHAMATRA EiSIGN INVERTED CANDRA" ++
    "BINDUiDIGIT ZEROoONEoTWOpHREEoFOURpIVEoSIXpEVENoEIGHToNINEiEKAMiSIGN SIDDHAMiHEADSTROKEiCONT" ++
    "INUATION SIGNiSECTION MARK-1v2"),
   (0x111E1, "aSINHALA ARCHAIC DIGIT ONEwTWOxHREEwFOURxIVEwSIXxEVENwEIGHTwNINEqNUMBER TENyWENTYy" ++
    "HIRTYxFO~DyIFTYxSIXTYyEVENTYxEIGHTYxNINETYxONE HUNDRED$THOUSAND"),
   (0x11200, "aKHOJKI LETTER ApAoIoUoEoAIoOoAUoKApHAoGApGApHAoNGAoCApHAoJApJA"),
   (0x11213, "aKHOJKI LETTER NYAoTTAqHAoDDAqHAoNNAoTApHAoDApDDApHAoNAoPApHAoBApBApHAoMAoYAoRAoLA" ++
    "oVAoSAoHAoLLAhVOWEL SIGN AAsItIsUsEsAIsOsAUhSIGN ANUSVARAmVIRAMAmNUKTAmSHADDAhDANDAiOUBLE D~" ++
    "EhWORD SEPARATORhSECTION MARKhDOUBLE ~MhABBREVIATION SIGNhSIGN SUKUN"),
   (0x11280, "aMULTANI LETTER ApIpUpEpKAqHApGA"),
   (0x11288, "aMULTANI LETTER GHA"),
   (0x1128A, "aMULTANI LETTER CAqHApJAqJA"),
   (0x1128F, "aMULTANI LETTER NYApTTArHApDDArDArHApNNApTAqHApDAqHApNApPAqHApBA"),
   (0x1129F, "aMULTANI LETTER BHApMApYApRApLApVApSApHApRRAqHAiSECTION MARK"),
   (0x112B0, "aKHUDAWADI LETTER AsArIsIrUsUrErAIrOrAUrKAsHArGAsGAsHArNGArCAsHArJAsJAsHArNYArTTAt" ++
    "HArDDAtDArRRArDDHArNNArTAsHArDAsHArNArPAsHArBAsBAsHArMArYArRArLArVArSHAsArHAkSIGN ANUSVARAkV" ++
    "OWEL SIGN AAvIwIvUwUvEvAIvOvAUkSIGN NUKTApVIRAMA"),
   (0x112F0, "aKHUDAWADI DIGIT ZEROqONEqTWOrHREEqFOURrIVEqSIXrEVENqEIGHTqNINE"),
   (0x11300, "aGRANTHA SIGN COMBINING ANUSVARA ABOVEoANDRABINDUnANUSVARAnVISARGA"),
   (0x11305, "aGRANTHA LETTER AqApIqIpUqUpVOCALIC RxL"),
   (0x1130F, "aGRANTHA LETTER EEpAI"),
   (0x11313, "aGRANTHA LETTER OOpAUpKAqHApGAqHApNGApCAqHApJAqHApNYApTTArHApDDArHApNNApTAqHApDAqH" ++
    "ApNA"),
   (0x1132A, "aGRANTHA LETTER PAqHApBAqHApMApYApRA"),
   (0x11332, "aGRANTHA LETTER LAqLA"),
   (0x11335, "aGRANTHA LETTER VApSHAqSAqApHA"),
   (0x1133B, "aCOMBINING BINDU BELOWaGRANTHA SIGN NUKTAnAVAGRAHAiVOWEL SIGN AAtIuItUuUtVOCALIC R" ++
    "&R"),
   (0x11347, "aGRANTHA VOWEL SIGN EEtAI"),
   (0x1134B, "aGRANTHA VOWEL SIGN OOtAUiSIGN VIRAMA"),
   (0x11350, "aGRANTHA OM"),
   (0x11357, "aGRANTHA AU LENGTH MARK"),
   (0x1135D, "aGRANTHA SIGN PLUTAiLETTER VEDIC ANUSVARAvDOUBLE ~IqOCALIC RRxLLiVOWEL SIGN VOCALI" ++
    "C L&L"),
   (0x11366, "aCOMBINING GRANTHA DIGIT ZEROyONEyTWOzHREEyFOURzIVEySIX"),
   (0x11370, "aCOMBINING GRANTHA LETTER AzKAzNAzVIzPA"),
   (0x11400, "aNEWA LETTER AnAmInImUnUmVOCALIC RvRuLvLmEmAImOmAUmKAnHAmGAnHAmNGAoHAmCAnHAmJAnHAm" ++
    "NYAoHAmTTAoHAmDDAoHAmNNAmTAnHAmDAnHAmNAnHAmPAnHAmBAnHAmMAnHAmYAmRAnHAmLAnHAmWAmSHAnSAnAmHAfV" ++
    "OWEL SIGN AAqIrIqUrUqVOCALIC RzRyLzLqEqAIqOqAUfSIGN VIRAMAkCANDRABINDUkANUSVARAkVISARGAkNUKT" ++
    "AkAVAGRAHAkFINAL ANUSVARAfOMfSIDDHIfDANDAgOUBLE D~EfCOMMAfGAP FILLERfABBREVIATION SIGNfDIGIT" ++
    " ZEROlONElTWOmHREElFOURmIVElSIXmEVENlEIGHTlNINEgOUBLE COMMAfPLACEHOLDER MARK"),
   (0x1145D, "aNEWA INSERTION SIGNfSANDHI MARKfLETTER VEDIC ANUSVARAfSIGN JIHVAMULIYAkUPADHMAN~D"),
   (0x11480, "aTIRHUTA ANJIiLETTER AqApIqIpUqUpVOCALIC RyRxLyLpEpAIpOpAUpKAqHApGAqHApNGApCAqHApJ" ++
    "AqHApNYApTTArHApDDArHApNNApTAqHApDAqHApNApPAqHApBAqHApMApYApRApLApVApSHAqSAqApHAiVOWEL SIGN " ++
    "AAtIuItUuUtVOCALIC R&R$L&LtEtSHORT EtAItOtSHORT OtAUiSIGN CANDRABINDUnANUSVARAnVISARGApRAMAn" ++
    "NUKTAnAVAGRAHAiGVANGiABBREVIATION SIGNiOM"),
   (0x114D0, "aTIRHUTA DIGIT ZEROoONEoTWOpHREEoFOURpIVEoSIXpEVENoEIGHToNINE"),
   (0x11580, "aSIDDHAM LETTER AqApIqIpUqUpVOCALIC RyRxLyLpEpAIpOpAUpKAqHApGAqHApNGApCAqHApJAqHAp" ++
    "NYApTTArHApDDArHApNNApTAqHApDAqHApNApPAqHApBAqHApMApYApRApLApVApSHAqSAqApHAiVOWEL SIGN AAtIu" ++
    "ItUuUtVOCALIC R&R"),
   (0x115B8, "aSIDDHAM VOWEL SIGN EtAItOtAUiSIGN CANDRABINDUnANUSVARAnVISARGApRAMAnNUKTAnSIDDHAM" ++
    "iDANDAjOUBLE D~EiSEPARATOR DOTsBARiREPETITION MARK-1y2y3iEND OF TEXT MARKiSECTION MARK WITH " ++
    "TRIDENT AND U-SHAPED ORNAMENTS=DOTTED CRESC~E!RAYS~V|DOUBLE ~J|TRIP~MvDOUBLE RING+ WITH RAYS" ++
    "vWITH DOUBLE CRESCENTS!TRIP~M!QUADRU~N!SEPT~O!CIRCLES AND RAYS=TWO ENCLOSURES=FOUR~LiLETTER " ++
    "THREE-CIRCLE ALTERNATE IqWO~T<IpALTERNATE UiVOWEL SIGN~M)U"),
   (0x11600, "aMODI LETTER AnAmInImUnUmVOCALIC RvRuLvLmEmAImOmAUmKAnHAmGAnHAmNGAmCAnHAmJAnHAmNYA" ++
    "mTTAoHAmDDAoHAmNNAmTAnHAmDAnHAmNAmPAnHAmBAnHAmMAmYAmRAmLAmVAmSHAnSAnAmHAmLLAfVOWEL SIGN AAqI" ++
    "rIqUrUqVOCALIC RzRyLzLqEqAIqOqAUfSIGN ANUSVARAkVISARGAmRAMAkARDHACANDRAfDANDAgOUBLE D~EfABBR" ++
    "EVIATION SIGNfSIGN HUVA"),
   (0x11650, "aMODI DIGIT ZEROlONElTWOmHREElFOURmIVElSIXmEVENlEIGHTlNINE"),
   (0x11660, "aMONGOLIAN BIRGA WITH ORNAMENTkROTATED BIRGAkDOUBLE BIRGA WITH ORNAMENTkTRIP~WkBIR" ++
    "GA WITH DOUBLE~JkROTATED BIRGA WITH~J(DOUBLE ~IkINVERTED BIRGAy WITH DOUBLE ORNAMENTkSWIRL B" ++
    "IRGAv WITH ORNAMENT$DOUBLE ~IkTURNED SWIRL B~Z"),
   (0x11680, "aTAKRI LETTER AoAnIoInUoUnEnAInOnAUnKAoHAnGAoHAnNGAnCAoHAnJAoHAnNYAnTTApHAnDDApHAn" ++
    "NNAnTAoHAnDAoHAnNAnPAoHAnBAoHAnMAnYAnRAnLAnVAnSHAoAnHAnRRAgSIGN ANUSVARAlVISARGAgVOWEL SIGN " ++
    "AArIsIrUsUrErAIrOrAUgSIGN VIRAMAlNUKTAgLETTER ARCHAIC KHAgABBREVIATION SIGN"),
   (0x116C0, "aTAKRI DIGIT ZEROmONEmTWOnHREEmFOURnIVEmSIXnEVENmEIGHTmNINE"),
   (0x11700, "aAHOM LETTER KAnHAmNGAnAmTAmALTERNATE TAmPAnHAmBAmMAmJAmCHAmTHAmRAmLAmSAmNYAmHAmAm" ++
    "DAnHAmGAmALTERNATE GAmGHAmBHAmJHAmALTERNATE BA"),
   (0x1171D, "aAHOM CONSONANT SIGN MEDIAL LA$RA$LIGATING RAfVOWEL SIGN ArAqIrIqUrUqEqAWqOqAIrMfS" ++
    "IGN KILLER"),
   (0x11730, "aAHOM DIGIT ZEROlONElTWOmHREElFOURmIVElSIXmEVENlEIGHTlNINEfNUMBER TENnWENTYfSIGN S" ++
    "MALL SECTIONl~GkRULAIgYMBOL VIfLETTER CAmTTAoHAmDDAoHAmNNAmLLA"),
   (0x11800, "aDOGRA LETTER AoAnIoInUoUnEnAInOnAUnKAoHAnGAoHAnNGAnCAoHAnJAoHAnNYAnTTApHAnDDApHAn" ++
    "NNAnTAoHAnDAoHAnNAnPAoHAnBAoHAnMAnYAnRAnLAnVAnSHAoSAoAnHAnRRAgVOWEL SIGN AArIsIrUsUrVOCALIC " ++
    "R!RrErAIrOrAUgSIGN ANUSVARAlVISARGAnRAMAlNUKTAgABBREVIATION SIGN"),
   (0x118A0, "aWARANG CITI CAPITAL LETTER NGAA$A$WI$YU&A&O$II$UU$E$O$ANG$GA$KO$ENY$YUJ$UC$ENN$OD" ++
    "D$TTE$NUNG$DA$AT&M$BU$PU$HIYO&OLO(RR&AR$SSUU&II$VIYOmSMALL LETTER NGAAzAzWIzYU!A!OzIIzUUzEzO" ++
    "zANGzGAzKOzENYzYUJzUCzENNzODDzTTEzNUNGzDAzAT!MzBUzPUzHIYO!OLO$RR!ARzSSUU!IIzVIYOmDIGIT ZEROs" ++
    "ONEsTWOtHREEsFOURtIVEsSIXtEVENsEIGHTsNINEmNUMBER TENuWENTYuHIRTYtFO~DuIFTYtSIXTYuEVENTYtEIGH" ++
    "TYtNINETY"),
   (0x118FF, "aWARANG CITI OMaDIVES AKURU LETTER AuAtIuItUuUtE"),
   (0x11909, "aDIVES AKURU LETTER O"),
   (0x1190C, "aDIVES AKURU LETTER KAuHAtGAuHAtNGAtCAuHAtJA"),
   (0x11915, "aDIVES AKURU LETTER NYAtTTA"),
   (0x11918, "aDIVES AKURU LETTER DDAvHAtNNAtTAuHAtDAuHAtNAtPAuHAtBAuHAtMAtYAuYAtRAtLAtVAtSHAuSA" ++
    "uAtHAtLLAtZAmVOWEL SIGN AAxIyIxUyUxE"),
   (0x11937, "aDIVES AKURU VOWEL SIGN AIxO"),
   (0x1193B, "aDIVES AKURU SIGN ANUSVARArCANDRABINDUrHALANTAmVIRAMAmPREFIXED NASAL SIGNmMEDIAL Y" ++
    "AmINITIAL RAmMED~GmSIGN NUKTAmDOUBLE DANDAmGAP FILLERmEND OF TEXT MARK"),
   (0x11950, "aDIVES AKURU DIGIT ZEROsONEsTWOtHREEsFOURtIVEsSIXtEVENsEIGHTsNINE"),
   (0x119A0, "aNANDINAGARI LETTER AuAtIuItUuUtVOCALIC R&R"),
   (0x119AA, "aNANDINAGARI LETTER EtAItOtAUtKAuHAtGAuHAtNGAtCAuHAtJAuHAtNYAtTTAvHAtDDAvHAtNNAtTA" ++
    "uHAtDAuHAtNAtPAuHAtBAuHAtMAtYAtRAtLAtVAtSHAuSAuAtHAtLLAtRRAmVOWEL SIGN AAxIyIxUyUxVOCALIC R+" ++
    "R"),
   (0x119DA, "aNANDINAGARI VOWEL SIGN ExAIxOxAUmSIGN ANUSVARArVISARGAtRAMArAVAGRAHArSIDDHAMmHEAD" ++
    "STROKEmVOWEL SIGN PRISHTHAMATRA E"),
   (0x11A00, "aZANABAZAR SQUARE LETTER ArVOWEL SIGN I&UE(&E&OE(&AI(U&REVERSED IxLENGTH MARKrLETT" ++
    "ER KAzHAyGAzHAyNGAyCAzHAyJAyNYAyTTA!HAyDDA!HAyNNAyTAzHAyDAzHAyNAyPAzHAyBAzHAyMAyTSA!HAyDZA!H" ++
    "Ay~DzAy-AyYAyRAyLAyVAySHAzSAzAyHAyKSSArFINAL CONSONANT MARKrSIGN VIRAMAwCANDRABINDU, WITH OR" ++
    "NAMENT&~OwANUSVARAwVISARGArCLUSTER-INITIAL LETTER RAzFINAL LETTER YA=RA=LA=VArINITIAL HEAD M" ++
    "ARKrCLOSING~KrMARK TSHEGwSHADwDOUBLE ~EwLONG TSHEGrINITIAL DOUBLE-LINED HEAD MARKrCLOSING~Xr" ++
    "SUBJOINER"),
   (0x11A50, "aSOYOMBO LETTER AiVOWEL SIGN ItUEutEtOuEtAIuUtVOCALIC R$LoLENGTH MARKiLETTER KAqHA" ++
    "pGAqHApNGApCAqHApJAqHApNYApTTArHApDDArHApNNApTAqHApDAqHApNApPAqHApBAqHApMApTSArHApDZApZHAqAp" ++
    "-ApYApRApLApVApSHAqSAqApHApKSSAiSIGN JIHVAMULIYAnUPADHMAN~DiCLUSTER-INITIAL LETTER RA*LA*SHA" ++
    "+AiFINAL CONSONANT SIGN G(K(NG(D(N(B(M(R(L(SH)(-AiSIGN ANUSVARAnVISARGAiGEMINATION MARKiSUBJ" ++
    "OINERiMARK TSHEGnSHADnDOUBLE ~EnPLUTAiHEAD MARK WITH MOON AND SUN AND TRIPLE FLAME^~F:iTERMI" ++
    "NAL MARK-1w2"),
   (0x11AB0, "aCANADIAN SYLLABICS NATTILIK HI)I(O)O(A)A&SHRI+I*O+O*A+AtSPEvIvOvAaPAU CIN HAU LET" ++
    "TER PAtKAtLAtMAtDAtZAtVAtNGAtHAtGAtKHAtSAtBAtCAtTAuHAtNAtPHAtRAtFAtCHAtAtEtItOtUuAtIAtFINAL " ++
    "PzKzTzMzNzLzWzNGzYmRISING TONE LONGxmSANDHI GLOTTAL STOPmRISING TONE LONG FINALy~FmSANDHI GL" ++
    "OTTAL STOP~GtTONE LONGxx LONG FINALy~FmMID-LEVEL TONEmGLOTTAL STOP VARIANTmMID-LEVEL TONE LO" ++
    "NG FINAL$~FmLOW-FALLING TONE LONG&mGLOTTAL STOPmLOW-FALLING TONE LONG FINAL(~FmGLOTTAL STOP~" ++
    "G"),
   (0x11C00, "aBHAIKSUKI LETTER AsArIsIrUsUrVOCALIC R!RzL"),
   (0x11C0A, "aBHAIKSUKI LETTER ErAIrOrAUrKAsHArGAsHArNGArCAsHArJAsHArNYArTTAtHArDDAtHArNNArTAsH" ++
    "ArDAsHArNArPAsHArBAsHArMArYArRArLArVArSHAsSAsArHAkVOWEL SIGN AAvIwIvUwUvVOCALIC R)R(L"),
   (0x11C38, "aBHAIKSUKI VOWEL SIGN EvAIvOvAUkSIGN CANDRABINDUpANUSVARApVISARGArRAMApAVAGRAHAkDA" ++
    "NDAlOUBLE D~EkWORD SEPARATORkGAP FILLER-1v2"),
   (0x11C50, "aBHAIKSUKI DIGIT ZEROqONEqTWOrHREEqFOURrIVEqSIXrEVENqEIGHTqNINEkNUMBER ONErTWOsHRE" ++
    "ErFOURsIVErSIXsEVENrEIGHTrNINErTENsWENTYsHIRTYrFO~DsIFTYrSIXTYsEVENTYrEIGHTYrNINETYkHUNDREDS" ++
    " UNIT MARK"),
   (0x11C70, "aMARCHEN HEAD MARKiMARK SHADiLETTER KAqHApGApNGApCAqHApJApNYApTAqHApDApNApPAqHApBA" ++
    "pMApTSArHApDZApWApZHAqAp-ApYApRApLApSHAqApHApA"),
   (0x11C92, "aMARCHEN SUBJOINED LETTER KA!HAzGAzNGAzCA!HAzJAzNYAzTA!HAzDAzNAzPA!HAzBAzMAzTSA$HA" ++
    "zDZAzWAzZHA!A"),
   (0x11CA9, "aMARCHEN SUBJOINED LETTER YAzRAzLAzSHA!AzHAzAiVOWEL SIGN AAtItUtEtOiSIGN ANUSVARAn" ++
    "CANDRABINDU"),
   (0x11D00, "aMASARAM GONDI LETTER AwAvIwIvUwUvE"),
   (0x11D08, "aMASARAM GONDI LETTER AIvO"),
   (0x11D0B, "aMASARAM GONDI LETTER AUvKAwHAvGAwHAvNGAvCAwHAvJAwHAvNYAvTTAxHAvDDAxHAvNNAvTAwHAvD" ++
    "AwHAvNAvPAwHAvBAwHAvMAvYAvRAvLAvVAvSHAwSAwAvHAvLLAvKSSAvJNYAvTRAoVOWEL SIGN AAzI!IzU!UzVOCAL" ++
    "IC R"),
   (0x11D3A, "aMASARAM GONDI VOWEL SIGN E"),
   (0x11D3C, "aMASARAM GONDI VOWEL SIGN AIzO"),
   (0x11D3F, "aMASARAM GONDI VOWEL SIGN AUoSIGN ANUSVARAtVISARGAtNUKTAtCANDRAtHALANTAoVIRAMAoREP" ++
    "HApA-KARA"),
   (0x11D50, "aMASARAM GONDI DIGIT ZEROuONEuTWOvHREEuFOURvIVEuSIXvEVENuEIGHTuNINE"),
   (0x11D60, "aGUNJALA GONDI LETTER AwAvIwIvUwU"),
   (0x11D67, "aGUNJALA GONDI LETTER EEvAI"),
   (0x11D6A, "aGUNJALA GONDI LETTER OOvAUvYAvVAvBAwHAvMAvKAwHAvTAwHAvLAvGAwHAvDAwHAvNAvCAwHAvTTA" ++
    "xHAvLLAvJAwHAvDDAxHAvNGAvPAwHAvHAvRAvSAoVOWEL SIGN AAzI!IzU!U"),
   (0x11D90, "aGUNJALA GONDI VOWEL SIGN EEzAI"),
   (0x11D93, "aGUNJALA GONDI VOWEL SIGN OOzAUoSIGN ANUSVARAtVISARGAoVIRAMAoOM"),
   (0x11DA0, "aGUNJALA GONDI DIGIT ZEROuONEuTWOvHREEuFOURvIVEuSIXvEVENuEIGHTuNINE"),
   (0x11EE0, "aMAKASAR LETTER KApGApNGApPApBApMApTApDApNApCApJApNYApYApRApLApVApSApAiANGKAiVOWEL" ++
    " SIGN ItUtEtOiPASSIMBANGiEND OF SECTION"),
   (0x11FB0, "aLISU LETTER YHA"),
   (0x11FC0, "aTAMIL FRACTION ONE THREE-HUNDRED-AND-TWENTIETHtONE-HUNDRED-AND-SIX~FtEIGH~FtSIXTY" ++
    "-FOURTHtFORTIETHtTHIRTY-SECONDpTHREE EIGHTIETHSvSIXTY-FOUR~DpONE TWENTIETHtSIXTEENTH-1(2tTEN" ++
    "THtEIGHTHpTHREE TWENTIETHSvSIXTEEN~DpONE FIFTHtQUARTERtHALF-1y2pTHREE QUARTERSpDOWNSCALING F" ++
    "ACTOR KIIZHgSIGN NELlCEVITUlAAZHAAKKUlUZH~ElMUUV~HlKURUNIlPATHAKKUlMUKKURUNIlKAACUlPANAMmONl" ++
    "VARAAKANlPAARAMlKUZHIlVELIgWET CULTIVATION SIGNgDRY~RgLAND~FgSALT PAN~FgTRADITIONAL CREDIT~F" ++
    "sNUMBER~FgCURRENT~FgAND ODD~FgSPENT~FgTOTAL~FgIN POSSESSION~FgSTARTING FROM~FhIGN MUTHALIYAl" ++
    "VAKAIYARAA"),
   (0x11FFF, "aTAMIL PUNCTUATION END OF TEXT")]

/-- The names of characters from U+12000 to U+1CFFF. -/
def signs : List (Nat × String) :=
  [(0x12000, "aCUNEIFORM SIGN Aq TIMES AxBADxGAN2 TENUxHAxIGIxLAGAR GUNUxMUSHxSAGq2qBr TIMES ASH" ++
    "2yDUN3 GUNUyGAL!N2 TENUyHAyIGI GUNUzMINyLAGABySHESHyU PLUS U PLUS UsGUNUr2s TIMES BALAGzGAN2" ++
    " TENUzME PLUS ENzSHA3zTAK4qDqKr TIMES ERIN2ySHITA PLUS GISHqLr TIMES ALyDIM2yGISHyHAyKAD3zIy" ++
    "SHEyUSHrANrEPHqMARt TIMES SHEqNr OVER ANsTHREE TIMESsPLUS NAGA OPPOSING AN PLUS NAGA&SQUARED" ++
    "rSHEqPINqRADt TIMES KURrKABqSAL2rHs ZIDA TENUtKAB~GtOVER ASH TUG2 OVER TUG2 TUG2 OVER TUG2 P" ++
    "AP&OVER ASH; CROSSING ASH OVER ASH OVER ASHs2sGABpBArDrG3rHAR2rLs OVER BALsAGrRsA2qIr TIMES " ++
    "AyGARyIGI GUNUqUr OVER BU AB!UNsCROSSING BUrLUGu OVER BULUGrRs2pDArGs KISIM5 TIMES A PLUS MA" ++
    "SH,MAR+BALAG,I+GA. PLUS MASH,I.R2,UD+HA+IR. PLUS LU+KAK+LA,U. PLUS MASH2.M+NE+PAP PLUS PAP+S" ++
    "I+TAK4+U2 PLUS GIR2,SHrMrRsA3t4qIrBrMs TIMES SHEs2rNs KASKAL U GUNU DISHrSHqUr OVER DUsGUNUs" ++
    "SHESHIGrBs TIMES ESH2s2rGsUDrHrNs3t GUNUy GUNUs4rR2pEq TIMES PAPrOVER E NUN OVER NUNq2r TIME" ++
    "S A PLUS HA PLUS DAyGARyMIySALzHEyUqDINqGIRqLqNr TIMES GAN2& TENUyMEsCROSSING ENsOPPO~HsSQUA" ++
    "REDqRENrIN2qSH2qZENt TIMES A$ PLUS LAL; TIMES LAL$N!BAD!DUN3 GUNU: GUNU!HA& GUNU!IGI~F!KASKA" ++
    "L+ SQUARED$U3!LA&L TIMES LAL$I$U!U2$DpGAr GUNUr2s TIMES A PLUS DA PLUS HA+HA+IGI!B2 TENU PLU" ++
    "S TAB!N!SH&2 PLUS GALzBAD$R PLUS RA!UR& PLUS RAzDA!I$M TIMES SHE!UBzEL$ PLUS LA!N$ TIMES GAN" ++
    "2 TENUz~J$R!I$4& PLUS A$R2 PLUS SUzHA PLUS LU PLUS ESH2$L& PLUS LA!I PLUS LI!UB2zIGI GUNU!SH" ++
    " PLUS HU PLUS ASHzKAK$SKAL!ID& PLUS LAL!U3 PLUS ANzLAzME PLUS EN!IzNUN& OVER NUNzPAzSAL$R!HE" ++
    "& PLUS TUR$ID!UMzTAK4zU!D$ PLUS DUtOVER GA2rBAt CROSSING GABArDs OVER GAD GAR OVER GARrLs GA" ++
    "D OVER GAD GAR OVER GARsAMrMrNs2t TENUuOVER GAN2uCROSSING~FrRs3rSHANqESHTINw TIMES KURqIr TI" ++
    "MES EyUsCROSSING GIr4s OVER GI4tCROSSING~ErDIMrR2t GUNUs3t TIMES A PLUS IGI!GAN2 TENU!IGI!LU" ++
    " PLUS ~D!PArSALsHt CROSSING GISHuTIMES BAD!TAK4vENUqUr CROSSING GUr2s TIMES KAK& TIMES IGI G" ++
    "UNUzNUNzSAL PLUS TUG2tGUNUrDs TIMES A PLUS KURz~DtOVER GUD LUGALrLrMs TIMES SHErRs7sUNtSHpHA" ++
    "r TENUsGUNUrLqIr TIMES ASH$2yBADyDISHyGADyKINyNUNySHEyUqUrB2t TIMES AN!HAL!KASKAL!LISH!UDrL2" ++
    "pIq AqBqDIMt OVER IDIM BUR)SQUAREDqGrIs DIBtRItOVER IGI SHIR OVER SHIR UD OVER UDtGUNUqLr TI" ++
    "MES GAN2 TENUr2qMr TIMES TAK4sCROSSING IMsOPPO~HsSQUAREDrINqNqRqSHpKAr TIMES AzD! PLUS KU3zS" ++
    "H2yBAD!LAG!RzIyERIN2zSH2yGA!L!N2 TENU!R$ PLUS SHA3 PLUS AzI!R2!SH PLUS SAR(CROSSING GISHzU!R" ++
    "7yIGIzMyKAKzI!DyLIzUyME! PLUS DU+GI+TEzI! PLUS NUNUZyNEzUNyPIyRUySA!RzHA!E!ID!UzIGzUHURyTARy" ++
    "Uz2zDzMUM TIMES PAzSHyZIr2s CROSSING KA2rBrD2s3s4s5t OVER KAD5rKs TIMES IGI GUNUrLs TIMES BA" ++
    "DtCROSSING KALrM2s4rSKALv LAGAB TIMES U OVER LAGAB TIMES UwOVER KASKAL LAGAB T~ZqESH2qIr TIM" ++
    "ES BADyUzDrDrNrSALsHsIM5v OVER KISIM5qUr OVER HI TIMES ASH2 KU OVER HI TIMES ASH2r3r4s VARIA" ++
    "NT FORMr7rLs GUNUrNrRs OPPOSING KURrSHU2qWU318pLArGABu TIMES A& PLUS DA PLUS HA.GAR.LAL&L&N&" ++
    "SH ZIDA TENU$BAD&I$DAR$EN$GA(R&UD) PLUS GUD$HA(L&I TIMES NUN$IGI GUNU&M( PLUS HA:LU$KI(N&U3(" ++
    "L) PLUS HI PLUS A$LAGAB&ISH&U(L$ME( PLUS EN&USH$NE$SHE PLUS SUM(ITA PLUS GISH PLUS ERIN2| TE" ++
    "NU(U2* PLUS SHU2&UM$TAG(K4&E PLUS A PLUS SU PLUS NA$U& PLUS A.U PLUS U&2 PLUS ASH&D&SHvSQUAR" ++
    "EDtRu TIMES SHE) PLUS SUMvGUNUz OVER LAGAR GUNU SHErHSHUrLs TIMES LALrMs TIMES KUR& PLUS RUq" ++
    "IrLrMMU2rSHqUr TIMES BADr2s TIMES ALzBADzESH2( TENUzGAN~GzHI TIMES BADzIMzKAD2&3( PLUS ASH!I" ++
    "zLA PLUS ASH$GABzME PLUS ENzNE!UzSI PLUS ASH$K2 PLUS BUzTUG2uENUtCROSSING LU2tOPPO~ItSQUARED" ++
    "uHESHIGr3rGALu OVER LUGALwPPOSING~GvSHESHIGrHrLrMs OVER LUM$ GAR OVER GARpMAr TIMES TAK4sGUN" ++
    "Ur2rHrRrSHt2qErSqIrNqUr OVER MUrGs GUNUrNSUBrRGU2rSHt TIMES A!KUR!ZAuOVER MUSH( TIMES A PLUS" ++
    " NAuCROSSING MUSHt3u TIMES A& PLUS DI$DIvGUNUpNAr2rGAt INVERTEDuTIMES SHU TENUuOPPOSING NAGA" ++
    "tRrM NUTILLUss2qEr TIMES AyUDsSHESHIGqIr TIMES Er2rMs TIMES GAN2 TENU$R PLUS GA~HrNDA2v TIME" ++
    "S AN(SH* PLUS ASH&GUD&ME PLUS GAN2 TENU&NE(UN&SHE* PLUS A AN=SH^ PLUS ASH&U2~J(SHrSAGqUr11rN" ++
    "s LAGAR TIMES GAR*MASH*SAL. OVER NUN LAGAR TIMES SAL*USHtTENUtOVER NUNtCROSSING~E* LAGAR OVE" ++
    "R LAGARsUZu AB2 TIMES ASHGAB*BI*DUG*GUD*IGI GUNU*KAD3*LA*NE*SILA3*U2vKISIM5 TIMES BI; UpPArD" ++
    "rNrPqESH2qIr TIMES AzByBIzUyEyIzByUz2sCROSSING PIrRIGu TIMES KAL$UD$ZAvOPPOSING PIRIGpRArBqI" ++
    "qUpSArG NUTILLUss TIMES AzDU$BzHAzKAK!URzLUMzMIzNUNzSAL!HIDzTABzU2!B!M!R!SHtOVER SAGtGUNUrLs" ++
    " LAGAB TIMES ASH2rNGA2rRqHAs3t TIMES A!BAD!GISH!NE!SHU2!TUR!U$ PLUS As6sB6sR2rEs HUtOVER SHE" ++
    " GAD OVER GAD GAR OVER GAR&TAB OVER TAB~NsG9sNsSHu2uLAMrIDt TIMES A!IMsMt TIMES A!BAL$ULUG!D" ++
    "IN!GAR!IGI( GUNU!KUSHU2!LUL!MUG!SALsNIGsRt TENUuOVER SHIR BUR OVER BURsTArUs OVER INVERTED S" ++
    "HUs2sBURqIr GUNUrGs4t OVER SIG4 SHU2rK2rLA3qUr OVER SUrDs2rHURrMsASHrRs9pTAr ASTERISKsTIMES " ++
    "HIyMIsGUNUrBs OVER TAB NI OVER NI DISH OVER DISHtSQUAREDrGs TIMES BIzGUDzSHE$UzTUG2zUDrK4rRq" ++
    "Er GUNUqIr TENUrLrRs TIMES TAK4tOVER TIR$ GAD OVER GAD GAR OVER GARqUrG2rKrMrRs OVER TUR ZA " ++
    "OVER ZApUq GUDrU UrOVER U PA OVER PA GAR OVER GARySUR OVER SURyU REVERSED OVER U REVERSEDq2q" ++
    "BqDr KUSHU2sTIMES BADyMIyU PLUS U PLUS U> GUNUs~EsSHESHIGz TIMES BADrUGqMr TIMES LAGAByME PL" ++
    "US DAySHA3yUrBINrUMt TIMES KASKAL!PAqNr GUNUqRr CROSSING URsSHESHIGr2s TIMES A PLUS HA+NA!Lz" ++
    "HAzNUNzU2$ PLUS ASH,BIr4rIs3rUs TIMES A!SHGABzBARzDUNzGA$L$N2 TENU$R!UzHAzIGI!M!SHzKIzLUMzMI" ++
    "NzPAzSHE!IG4zTUzU PLUS GUD!D!RUDAsDAu TIMES UqSHs TIMES AzKU$RzTAK4sXs2sUMXqTUKIqZ3s TIMES K" ++
    "ASKALrUpZAr TENUsSQUARED TIMES KURrGrMXqE2qIr OVER ZIr3rBs KABA TENUrGrZ2qUr5s TIMES ArBURrM" ++
    "pKAP ELAMITEpAB TIMES NUNr2 TIMES AqMAR TIMES KUGpDAG KISIM5 TIMES U2 PLUS MASHs3qISH PLUS S" ++
    "HUqUB TIMES SHEpEZEN TIMES GUD!SHEpGA2 TIMES AN PLUS KAK PLUS A!SH2qE22qIGpHUSHpKA TIMES ANS" ++
    "HEzSH3yGISHzUDyHI TIMES ASH2yLUMyPAySHULyTUyUR2pLAGAB TIMES GIqU2 SHESHIG TIMES BADtTIMES ES" ++
    "H2 PLUS LALzSHUpMESHqUSH3 TIMES ZApNA4qINs9sDA2 TIMES BAL&GIqU11 ROTATED NINETY DEGREESpPESH" ++
    "2 ASTERISKqIR2pSAG TIMES IGI GUNUpTI2pUM TIMES MEq U"),
   (0x12400, "aCUNEIFORM NUMERIC SIGN TWO ASHyHREE~ExFOUR~EyIVE~ExSIX~EyEVEN~ExEIGHT~ExNINE~ExTH" ++
    "REE DISHxFOUR~FyIVE~FxSIX~FyEVEN~FxEIGHT~FxNINE~FxFOUR UyIVE UxSIX UyEVEN UxEIGHT UxNINE UxO" ++
    "NE GESH2xTWO~GyHREE~GxFOUR~GyIVE~GxSIX~GyEVEN~GxEIGHT~GxNINE~GxONE GESHUxTWO~GyHREE~GxFOUR~G" ++
    "yIVE~GxTWO SHAR2yHREE~G. VARIANT FORMxFOUR SHAR2yIVE~GxSIX~GyEVEN~GxEIGHT~GxNINE~GxONE SHARU" ++
    "xTWO~GyHREE~G. VARIANT FORMxFOUR SHARUyIVE~GxSHAR2 TIMES GAL PLUS DISH|S MINxONE BURUxTWO~Fy" ++
    "HREE~F, VARIANT FORMxFOUR BURUyIVE~FxTHREE VARIANT FORM ESH16|ESH21xFOUR VARIANT FORM LIMMU|" ++
    "IMMU4|IMMU A|IMMU BxSIX VARIANT FORM ASH9yEVEN VARIANT FORM IMIN3|IMIN A|IMIN BxEIGHT VARIAN" ++
    "T FORM USSU|USSU3xNINE VARIANT FORM ILIMMU|LIMMU3|LIMMU4|LIMMU AxTWO ASH TENUyHREE~JxFOUR~Jy" ++
    "IVE~JxSIX~JxONE BAN2xTWO~FyHREE~FxFOUR~F+ VARIANT FORMyIVE BAN2+ VARIANT FORMxNIGIDAMIN(ESHx" ++
    "ONE ESHE3xTWO~GxONE THIRD DISHxTWO THIRDS~FxFIVE SIXTH~GxONE THIRD VARIANT FORM AxTWO THIRDS" ++
    "~PxONE EIGHTH ASH$QUARTER~EyLD ASSYRIAN ONE SIXTH^QUARTERyNE QUARTER GUR$HALF~ExELAMITE ONE " ++
    "THIRD*TWO THIRDS*FORTY+IFTYxFOUR U VARIANT FORMyIVE~PxSIX~PyEVEN~PxEIGHT~PxNINE~P"),
   (0x12470, "aCUNEIFORM PUNCTUATION SIGN OLD ASSYRIAN WORD DIVIDER$VERTICAL COLON$DIAGON~I;TRI~" ++
    "F;QUAD~F"),
   (0x12480, "aCUNEIFORM SIGN AB TIMES NUN TENUySHU2qD TIMES ESH2pBAD TIMES DISH TENUrHAR2 TIMES" ++
    " AB2&NI&ZAqU OVER BU TIMES NA2pDA TIMES TAK4rG TIMES KURqIM TIMES IGIzU U Us2 TIMES UDqUG TI" ++
    "MES ANSHE!SH& AT LEFTzDIN!UNzERIN2zGA!I$R2 GUNU$SHzHA!IzIGI GUNUzKASKAL!UR$SHU2* PLUS KASKAL" ++
    "zLAK-020$M& TIMES KUR!UH PLUS GISHzMASH!ES!IzNIzPIzSHE!I GUNUpE2 TIMES KURyPAPqRIN2 XqSH2 CR" ++
    "OSSING ESH2qZEN SHESHIG TIMES ASH.HI.IGI GUNU.LA;L.ME;S.SUu~IpGA2 TIMES BAHAR2zDIM GUNU!UG T" ++
    "IMES IGI~F:KASKALzERENzGA$R PLUS DI.NEzHA PLUS AzKUSHU2 PLUS KASKALzLAM& TIMES KUR!UHzMUSHzN" ++
    "E$ PLUS E2,GIzSHIMzZIZ2rBA ROTATED NINETY DEGREESqESHTIN TIMES UqISH TIMES GISH CROSSING GIS" ++
    "HqU2 TIMES IGI GUNUrD PLUS GISH TIMES TAK4pHA TENU GUNUqI TIMES ASH OVER HI TIMES ASHpKA TIM" ++
    "ES BUyKAyU U UzRpLAGAB TIMES ZU OVER ZUrK-003u21v5u30u50v1u62u79 OVER LAK-079 GUNUu80v1 OVER" ++
    " LAK-081u92t130u42t210v9u20v5v8u38u65v6t343v7v8u83v4u90t441v9w TIMES GU(IGI(PAP PLUS LU3=PAP" ++
    " PLUS ~D(U2 PLUS BAu50v7u70u83u90v2v3v5t550t608u17w TIMES ASH(BAD(DUN3 GUNU GUNU(KU3(LA(TAR)" ++
    "E(U2)D)RUDAu36u48w TIMES DUB(GA(IGI+ GUNU(NI(PAP PLUS PAP PLUS LU3(SHESH PLUS KI(UD)RUDAt724" ++
    "u49qU2 GUNU TIMES ASHtTIMES DISHzHALzPAP& PLUS PAP PLUS LU3zTAK4pMI PLUS ZA7qUSH OVER MUSH T" ++
    "IMES GA;KAKpNINDA2 TIMES DIM GUNU&GISH(UL&HI&KESH2&LAK-050&MASH&PAP PLUS PAP&U( PLUS U(RUDAp" ++
    "SAG GUNU TIMES HAtTIMES ENzSHE AT LEFTzTAK4qHA6 TENUrE OVER SHEtPLUS HUB2yNAM2ySARrU2 PLUS D" ++
    "UG TIMES NIzE2 TIMES ANqI TIMES TAK4pTAK4 PLUS SAGqUM TIMES GAN2 TENUzTHREE DISHpUR2 INVERTE" ++
    "DtTIMES UDrU TIMES DARA3zLAK-668!U3pZA7qU OVER ZU PLUS SARr5 TIMES THREE DISH TENU"),
   (0x12F90, "aCYPRO-MINOAN SIGN CM001w2w4w5w6w7w8w9v10w1w2xBw3w5w7w9v21w3w4w5w6w7w8w9v30w3w4w5w" ++
    "6w7w8w9v40w1w4w6w7w9v50w1w2w3w4w5w6w8w9v60w1w2w3w4w6w7w8w9v70w1w2w3w4w5xBw6w8w9v80w1w2w3w4w5" ++
    "w6w7w8w9v90w1w2w4w5w6w7w8w9u100w1w2w3w4w5w7w8w9v10w2w4u301w2"),
   (0x13000, "aEGYPTIAN HIEROGLYPH A001x2x3x4x5yAx6yAyBx7x8x9w10x1x2x3x4yAx5x6x7yAx8x9w20x1x2x3x" ++
    "4x5x6x7x8x9w30x1x2yAx3x4x5x6x7x8x9w40yAx1x2yAx3yAx4x5yAx6x7x8x9w50x1x2x3x4x5x6x7x8x9w60x1x2x" ++
    "3x4x5x6x7x8x9w70uB001x2x3x4x5yAx6x7x8x9uC001x2yAyByCx3x4x5x6x7x8x9w10yAx1x2x3x4x5x6x7x8x9w20" ++
    "x1x2x3x4uD001x2x3x4x5x6x7x8yAx9w10x1x2x3x4x5x6x7x8x9w20x1x2x3x4x5x6x7yAx8x9w30x1yAx2x3x4yAx5" ++
    "x6x7x8x9w40x1x2x3x4x5x6yAx7x8yAx9w50yAyByCyDyEyFyGyHyIx1x2yAx3x4yAx5x6x7x8x9w60x1x2x3x4x5x6x" ++
    "7yAyByCyDyEyFyGyHuE001x2x3x4x5x6x7x8yAx9yAw10x1x2x3x4x5x6yAx7yAx8x9w20yAx1x2x3x4x5x6x7x8yAx9" ++
    "w30x1x2x3x4yAx6x7x8uF001yAx2x3x4x5x6x7x8x9w10x1x2x3yAx4x5x6x7x8x9w20x1yAx2x3x4x5x6x7x8x9w30x" ++
    "1yAx2x3x4x5x6x7yAx8yAx9w40x1x2x3x4x5yAx6yAx7yAx8x9w50x1yAyByCx2x3uG001x2x3x4x5x6yAx7yAyBx8x9" ++
    "w10x1yAx2x3x4x5x6x7x8x9w20yAx1x2x3x4x5x6yAx7x8x9w30x1x2x3x4x5x6yAx7yAx8x9w40x1x2x3yAx4x5yAx6" ++
    "x7x8x9w50x1x2x3x4uH001x2x3x4x5x6yAx7x8uI001x2x3x4x5yAx6x7x8x9yAw10yAx1yAx2x3x4x5uK001x2x3x4x" ++
    "5x6x7x8uL001x2yAx3x4x5x6yAx7x8uM001yAyBx2x3yAx4x5x6x7x8x9w10yAx1x2yAyByCyDyEyFyGyHx3x4x5yAx6" ++
    "yAx7yAx8x9w20x1x2yAx3x4yAx5x6x7x8yAx9w30x1yAx2x3yAyBx4x5x6x7x8x9w40yAx1x2x3x4uN001x2x3x4x5x6" ++
    "x7x8x9w10x1x2x3x4x5x6x7x8yAyBx9w20x1x2x3x4x5yAx6x7x8x9w30x1x2x3yAx4yAx5yAx6x7yAx8x9w40x1x2vL" ++
    "001y2y3y4y5zAy6y7y8y9x10y1y2y3y4y5y6y7zAy8y9x20vU001y2y3y4y5y6y7y8y9x10zAy1zAy2y3y4y5y6y7y8z" ++
    "Ay9x20y1y2zAuO001yAx2x3x4x5yAx6yAyByCyDyEyFx7x8x9w10yAyByCx1x2x3x4x5x6x7x8x9yAw20yAx1x2x3x4y" ++
    "Ax5yAx6x7x8x9yAw30yAx1x2x3yAx4x5x6yAyByCyDx7x8x9w40x1x2x3x4x5x6x7x8x9w50yAyBx1uP001yAx2x3yAx" ++
    "4x5x6x7x8x9w10x1uQ001x2x3x4x5x6x7uR001x2yAx3yAyBx4x5x6x7x8x9w10yAx1x2x3x4x5x6yAx7x8x9w20x1x2" ++
    "x3x4x5x6x7x8x9uS001x2yAx3x4x5x6yAx7x8x9w10x1x2x3x4yAyBx5x6x7yAx8x9w20x1x2x3x4x5x6yAyBx7x8x9w" ++
    "30x1x2x3x4x5yAx6x7x8x9w40x1x2x3x4x5x6uT001x2x3yAx4x5x6x7yAx8yAx9yAw10x1yAx2x3x4x5x6yAx7x8x9w" ++
    "20x1x2x3x4x5x6x7x8x9w30x1x2yAx3yAx4x5x6uU001x2x3x4x5x6yAyBx7x8x9w10x1x2x3x4x5x6x7x8x9w20x1x2" ++
    "x3yAx4x5x6x7x8x9yAw30x1x2yAx3x4x5x6x7x8x9w40x1x2uV001yAyByCyDyEyFyGyHyIx2yAx3x4x5x6x7yAyBx8x" ++
    "9w10x1yAyByCx2yAyBx3x4x5x6x7x8x9w20yAyByCyDyEyFyGyHyIyJyKyLx1x2x3yAx4x5x6x7x8yAx9yAw30yAx1yA" ++
    "x2x3yAx4x5x6x7yAx8x9w40yAuW001x2x3yAx4x5x6x7x8x9yAw10yAx1x2x3x4yAx5x6x7yAx8yAx9w20x1x2x3x4yA" ++
    "x5uX001x2x3x4yAyBx5x6yAx7x8yAuY001yAx2x3x4x5x6x7x8uZ001x2yAyByCyDx3yAyBx4yAx5yAx6x7x8x9w10x1" ++
    "x2x3x4x5yAyByCyDyEyFyGyHyIx6yAyByCyDyEyFyGyHuAA001y2y3y4y5y6y7zAzBy8y9x10y1y2y3y4y5y6y7y8y9x" ++
    "20y1y2y3y4y5y6y7y8y9x30y1y2"),
   (0x13430, "aEGYPTIAN HIEROGLYPH VERTICAL JOINERuHORIZONT~JuINSERT AT TOP START)BOTTOM~G)TOP E" ++
    "ND)BOTTOM~EuOVERLAY MIDDLEuBEGIN SEGMENTuEND~I"),
   (0x14400, "aANATOLIAN HIEROGLYPH A001y2y3y4y5y6y7y8y9x10zAy1y2y3y4y5y6y7y8y9x20y1y2y3y4y5y6zA" ++
    "y7y8y9x30y1y2y3y4y5y6y7y8y9zAx40y1zAy2y3y4y5zAy6zAzBy7y8y9x50y1y2y3y4y5y6y7y8y9x60y1y2y3y4y5" ++
    "y6zAzBzCy7y8y9x70y1y2y3y4y5y6y7y8y9x80y1y2y3y4y5y6y7y8y9x90y1y2y3y4y5y6y7zAy8zAy9w100zAy1zAy" ++
    "2zAy3y4zAzBzCy5zAzBy6y7zAzBzCy8y9x10zAzBy1y2y3y4y5zAy6y7y8y9x20y1y2y3y4y5zAy6y7y8y9x30y1y2y3" ++
    "y4y5zAy6y7y8y9x40y1y2y3y4y5y6y7y8y9x50y1y2y3y4y5y6y7y8y9x60y1y2y3y4y5y6y7y8y9x70y1y2y3y4y5y6" ++
    "y7y8y9x80y1y2y3y4y5y6y7y8y9x90y1y2y3y4y5y6y7y8y9w200y1y2zAzBy3y4y5y6y7zAy8y9zAx10y1y2y3y4y5z" ++
    "Ay6zAy7y8y9x20y1y2y3y4y5y6y7zAy8y9x30y1y2y3y4y5y6y7y8y9x40y1y2y3y4y5y6y7y8y9x50y1y2y3y4y5y6y" ++
    "7y8y9x60y1y2y3y4y5y6y7zAy8y9x70y1y2y3y4y5y6y7y8y9x80y1y2y3y4y5y6y7y8y9zAx90y1y2y3y4zAy5y6y7y" ++
    "8y9zAw300y1y2y3y4y5y6y7y8y9zAx10y1y2y3y4y5y6y7y8y9x20y1y2y3y4y5y6y7y8y9zAx30y1y2AzBzCy3y4y5y" ++
    "6zAzBzCy7y8y9x40y1y2y3y4y5y6y7y8y9x50y1y2y3y4y5y6y7y8y9zAx60y1y2y3y4zAy5y6y7y8zAy9x70y1zAy2y" ++
    "3y4y5y6y7y8y9x80y1zAy2y3 RA OR RIzAy4y5y6zAy7y8y9x90y1y2y3 EIGHTy4y5y6y7y8y9w400y1y2y3y4y5y6" ++
    "y7y8y9x10 BEGIN LOGOGRAM MARKzA END~Oy1y2y3y4y5y6y7y8y9x20y1y2y3y4y5y6y7y8y9x30y1y2y3y4y5y6y" ++
    "7y8y9x40y1y2y3y4y5y6y7y8y9x50zAy1y2y3y4y5y6y7zAy8y9x60y1y2y3y4y5y6y7y8y9x70y1y2y3y4y5y6y7y8y" ++
    "9x80y1y2y3y4y5y6y7y8y9x90y1y2y3y4y5y6y7w501y2y3y4y5y6y7y8y9x10y1y2y3y4y5y6y7y8y9x20y1y2y3y4y" ++
    "5y6y7y8y9x30"),
   (0x16800, "aBAMUM LETTER PHASE-A NGKUE MFONvGBIEE ~DvPON MFON PIPAEMGBIEE;BAvNAA MFONvSHUENSH" ++
    "UETvTITA MFONvNZ~GvSHINDA PA NJIvPON PA NJI PIPAEMGBIEE=BAvMAEMBGBIEEvTU MAEMBAvNGANGUvMAEMV" ++
    "EUXxNSUAEwVEUAENGAMvSEUNYAMvNTOQPENvKEUKEUTNDAvNKINDIvSUUvNGKUENZEUMvLAPAQwET KUTvNTAP MFAAv" ++
    "MAEKEUPvPASHAEvGHEUAERAEvPAMSHAEvMON NGGEUAETvNZUN MEUTvU YUQ NAEvGHEUAEGHEUAEvNTAP NTAAvSIS" ++
    "AvMGBASAwEUNJOMNDEUQwOOMPUQvKAFAvPA LEERAEWAvND~KvPETvMAEMKPENvNIKAvPUPvTUAEPvL~EvSONJAMvTEU" ++
    "TEUWENvMAENYIvKETvNDAANGGEUAETvKUOQvMOOMEUTvSHUMvLOMMAEvFIRIvROMvKPOQvSOQvMAP PIEETvSHIRAEvN" ++
    "TAPvSHOQ NSHUT YUMvNYIT MONGKEUAEQvPAARAEvNK~FvUNKNOWNvNGGENvMAESIvNJAMvMBANYIvNYETvTEUAENvS" ++
    "OTvPAAMvNSHIEEvMAEMvNYIvKAQvNSHAvVEEvLUvNENwAQvMBAQtB NSHUETvTU MAEMGBIEEvS~DwET TUvLOM NTEU" ++
    "MvMBA MAELEEvKIEEMvYEURAEvMBAA~DvKAMvPEESHIvYAFU LEERAEWAvLAM NSHUT NYAMvNTIEE SHEUOQwDU NJA" ++
    "AvGHEUGHEUAEMvPITvTU NSIEEvSHET NJAQyUAEQTUvMFON TEUAEQwBIT MBAAKETvNYI NTEUMvKEUPUQvGHEUGHE" ++
    "NvKEUYEUXvLAANAEvPARUMvVEUMvNGKINDI MVOPxGEU MBUvWUAETvSAKEUAEvTAAMvMEUQvNGGUOQ$ LARGEvMFIYA" ++
    "QvSUEvMBEURIwONTIEENvNYAEMAEvPUNGAAMvMEUT NGGEETvFEUXvMBUOQvFEEvKEUAEMvMA NJEUAENA!UQAvLETvN" ++
    "GGAAMwSENvMAvKIQvNGOMtC NGKUE MAEMBAwZAvYUMvWANGKUOQvNGGENwDEUAEREEwGKAQvGHARAEvMBEEKEETvGBA" ++
    "YIvNYIR MKPARAQ MEUNwTU MBITvMBEUMvPIRIEENvNDOMBUvMBAA CABBAGE-TREEvKEUSHEUAEPvGHAPvKEUKAQvY" ++
    "U MUOMAEvNZEUMvMBUEvNSEUAENvMBITvYEUQvKPARAQwAAvSEUXvNDIDAvTAASHAEvNJUEQvTITA YUEvSUAETvNGGU" ++
    "AEN NYAMvVEUXvNANSANAQvMA KEUAERIvNTAAwGGUONvLAPvMBIRIEENwGBASAQvNTEUNGBAvTEUTEUXvNGGUMvFUEv" ++
    "NDEUTwSAxHAQvBUNGvVEUAEPENvMBERAEvRUvNJAEMvLAMvTITUAEPvNSUOT NGOMwJEEEEvKETvNGGUvMAESIwBUAEM" ++
    "vLUvKUTvNJAMwGOMvWUPvNGGUEETwSOMwTENvKUOP NKAARAEvNSUNwDAMvMA NSIEEvYAAvNDAPvSHUEQwETFONvMBI" ++
    "wAEMBAwBANYIvKEUSEUXvMB~DvKEUMvMBAA PICKETvYUWOQvNJEUXvMIEEwUAEvSHIQvKEN LAWzFATIGUEvNGAQwAQ" ++
    "vLIQvPINwENvTETtD MBUOvWAPvNJIvMFONvNJIEEvL~DvNJEUTwSHEEwGGAAMAEwYAMvWUAENvNGKUNvSHEEvNGKAPv" ++
    "KEUAETMEUNvTEUTvSHEUAEvNJAPvSUEvKETvYAEMMAEvKUOMvSAPvMFEUTvNDEUXvMALEERIwEUTvSEUAEQvYENvNJEU" ++
    "AEMvKEUOT MBUAEvNGKEURIvTUvGHAAvNGKYEEvFEUFEUAETvNDEEvMGBOFUMvLEUAEPvNDONvMONIwGBEUNvPUUTvMG" ++
    "BIEEwFOvLUMvNSIEEPvMBAAvKWAETvNYETvTEUAENvSOTvYUWOQvKEUMvRAEMvTEEEEvNGKEUAEQvMFEUAEvNSIEETvK" ++
    "EUPvPIPwEUTAEvNYUEvLETvNGGAAMvMFIEEvNGGWAENvYUOMvPAPvYUOPvNDAMwTEUMvSUAEvKUNvNGGEUXxKIEEvTUO" ++
    "TvMEUNvKUQvNSUMvTEUNvMAENJETvNGGAPvLEUMvNGGUOMwSHUTwJUEQvGHEUAEvKUvREN OLDvTAEwOQvNYIvRIIvLE" ++
    "EEEvM~EwvSUUvMUvSHIIxEUXvKYEEvNUvSHUvNTEEvPEEvNIvSHOQvPUQvMVOPvLOQvREN MUCHvTIvNTUUvMBAA SEV" ++
    "ENvSAQvFAAtE NDAPvTOONvMBEUMvLAPvVOMvLOONvPAAvSOMvRAQvNSHUOPwDUNvPUAEvTAMvNGKAvKPEUXvWUOvSEE" ++
    "vNGGEUAETvPAAMvTOOvKUOPvLOMvNSHIEEwGOPvMAEMvNGKEUXxOQwSHUEvRIMGBAvNJEUXvPEEMvSAAvNGGURAEvMGB" ++
    "AvGHEUXvNGKEUAEMwJAEMLIvMAPvLOOTvNGGEEEEwDIQvTAEN NTEUMvSETvPUMvNDAA SOFTNESSwGGUAESHAE NYAM" ++
    "vYIEEvGHEUNvTUAEvYE~DvPOvTUMAEvKEUAEvSUAENvTEUAEQvVEUAEvWEUXvLAAMvPUvTAAQvGHAAMAEvNGEUREUTvS" ++
    "HEUAEQvMGBENwBEEvNZAQwKOMvGBETvTUMvKUETvYAPvNYI CLEAVERvYITvMFEUQvNDIAQvPIEEQvYUEQvLEUAEMvFU" ++
    "EvGBEUXvNGKUPvKETvMAEvNGKAAMIvGHETvFAvNTUMvPEUTvYEUMvNGGEUAEwYI BETWEENwZUQvPOONvMIEEvFUETvN" ++
    "AEvMUAEvGHE~DvFU IvMVIvPUAQvNGKUMvKUTvPIETvNTAPvYEUAETvNGGUPvPA PEOPLEvFU CALLwOMvNJEEvAvTOQ" ++
    "vOvIvLAQvPA PLURALvTAAxQvNDAA MY HOUSEvSHIQvYEUXvNGUAEvYUAENwOQ SWIMMINGzCOVERwUQxNvKEUXvP~D" ++
    "vNJEE EPOCHvPUEvWUEvFEEvVEEvLUvMIvREUXwAEvNGUAETxAvSHOyQvFU REMEDYvNAvPIvLOQvKOvMENwAxQvTEUv" ++
    "KIvMONvTENvFAQvGHOMtF KAvUvKUvEEvREEvTAEvNYIvLAvRIIxEEvMEEEEvTAAvNDAAwJAEMvMvSUUwHIIwIwEUXvK" ++
    "YEEwETvNUAExwJUAEvYOQvSHUvYAvNSHAvPEUXvNTEEvWUEvPEEvRUvNIvREUXvKENvNGKWAENxGAvSHOvPUAEvFOMvW" ++
    "AvLIwOQvKOvMBENvRENvMAwOwBAAvTETvKPAvSAMBAvVUEQ"),
   (0x16A40, "aMRO LETTER TAlNGIlYOlMIMlBAlDAlAlPHIlKHAIlHAOlDAIlCHUlKEAAElOLlMAEMlNINlPAlOOmlRO" ++
    "lSHIlTHEAlEAlWAlElKOlLANnlHAIlRIlTEK"),
   (0x16A60, "aMRO DIGIT ZEROkONEkTWOlHREEkFOURlIVEkSIXlEVENkEIGHTkNINE"),
   (0x16A6E, "aMRO DANDAfOUBLE D~EaTANGSA LETTER OZpCpQpXoAZpCpQpXoVZpCpQpXoEZpCpQpXoIZpCpQpXoUZ" ++
    "pCpQpXoAWZqCqQqXoUIZqCqQqXoFINAL NGoLONG UEXoSHORT UEZuAWXoUECqZqQqXpIUZrCrQrXoMZpCpQpXoKApH" ++
    "AoGAoNGAoSAoYAoWAoPAoNYAoPHAoBAoMAoNAoHAoLAoHTAoTAoDAoRAoNHAoSHAoCAoTSAoGHAoHTTAoTHAoXAoFAoD" ++
    "HAoCHAoZA"),
   (0x16AC0, "aTANGSA DIGIT ZEROnONEnTWOoHREEnFOURoIVEnSIXoEVENnEIGHTnNINE"),
   (0x16AD0, "aBASSA VAH LETTER ENNIrKArSErFArMBErYIErGAHrDHIIrKPAHrJOrHWAHrWArZOrGBUrDOrCErUWUr" ++
    "TOrBArVUrYEINrPArWADDArArOsOrUrEEsrI"),
   (0x16AF0, "aBASSA VAH COMBINING HIGH TONEuLOW~FuMID~FuLOW-~IuHIGH-LOW~FkFULL STOP"),
   (0x16B00, "aPAHAWH HMONG VOWEL KEEBwVuIBvVuAUBwVuUBvVuEBvVuAIBwVuOOBwVuAWBwVuUABwVuOBvVuIABwV" ++
    "uABvVuWBvVuAABwVnCONSONANT VAUxNTSAUxLAUxHAUxNLAUxRAUxNKAUxQHAUxYAUxHLAUxMAUxCHAUxN~ExHNAUxP" ++
    "LHAUxNT~DyAUxAUxXAUxCAUnMARK CIM TUBwSOwKESxHAVwSUAMwHOMwTAUMnSIGN VOS THOMxSHAB CEEBsCIM CH" ++
    "EEMsVOS THIABwFEEMsXYEEM NTXIVyRHOyTOVyFAIBsVOS SEEVsMEEJ SUABsVOS NRUAsIB YAMsXAUSsCIM TSOV" ++
    " ROG"),
   (0x16B50, "aPAHAWH HMONG DIGIT ZEROtONEtTWOuHREEtFOURuIVEtSIXuEVENtEIGHTtNINE"),
   (0x16B5B, "aPAHAWH HMONG NUMBER TENSuHUNDREDSuTEN THOUSANDSuMILLIONSuHUNDRED ~IuTEN B~HvR~H"),
   (0x16B63, "aPAHAWH HMONG SIGN VOS LUBsXYOOsHLIsTHIRD-STAGE ~DsZWJ THAJsHNUBsNQIGsXIABsNTUJsAV" ++
    "sTXHEEJ CEEVsMEEJ TSEEBsTAUsLOSsMUSsCIM HAIS LUS NTOG NTOGwCUAM TSHOOJwTXWV! CHWVwPUB DAWBwN" ++
    "RES TOS"),
   (0x16B7D, "aPAHAWH HMONG CLAN SIGN TSHEEJxYEEGxLISyAUJxXYOOJxKOOxHAWJxMUASxTHOJySABxPHABxK~Dx" ++
    "HAMxVAJxFAJxYAJxTSWBxKWMxVWJ"),
   (0x16E40, "aMEDEFAIDRIN CAPITAL LETTER M$S$V$W$ATIU$Z$KP$P$T$G$F$I$K$A$J$E$B$C$U$YU$L$Q$HP$NY" ++
    "$X$D$OE$N$R$O$AI$YmSMALL LETTER MzSzVzWzATIUzZzKPzPzTzGzFzIzKzAzJzEzBzCzUzYUzLzQzHPzNYzXzDzO" ++
    "EzNzRzOzAIzYmDIGIT ZEROsONEsTWOtHREEsFOURtIVEsSIXtEVENsEIGHTsNINEmNUMBER TENtELEVENtTWELVEuH" ++
    "IRTEENtFOU~FuIF~EtSIX~EuEVEN~EtEIGH~EtNINE~EmDIGIT ONE ALTERNATE FORMsTWO~PtHREE~PmCOMMAmFUL" ++
    "L STOPmSYMBOL AIVAmEXCLAMATION OH"),
   (0x16F00, "aMIAO LETTER PAmBAmYI PAmPLAmMAnHAmARCHAIC MAmFAmVAnFAmTAmDAmYI TTAqAmTTAmDDAmNAnH" ++
    "AmYI NNAmARCHAIC NAmNNAoHAmLAnYAnHAoYAmTLHAmD~DmTLHYAmD~EmKAmGAmYI KAmQAnGAmNGAoHAmARCHAIC N" ++
    "GAmHAmXAmGHAoHAmTSSAmDZZAmNYAoHAmTSHAmDZHAmYI TSHApDZHAmREFORMED TSHAm~DnSAmZHAnSHAmTSAmDZAm" ++
    "YI TSAmSAmZAnSAnZAoSAmARCHAIC ZZAmZZYAoSYAmWAmAHmHHAmBRImSYImDZYImTEnSEmRTE"),
   (0x16F4F, "aMIAO SIGN CONSONANT MODIFIER BARfLETTER NASALIZATIONfSIGN ASPIR~FkREFORMED VOICIN" ++
    "GtASPIRATIONfVOWEL SIGN ArArHHrNsGqOrOqWOrqErNsGqOEYqIrAsNtGrOrErIrUrNGqUrAsNtGrUrEIrNGqYrIq" ++
    "AEsEqERRqROUNDED ~DqERqROUNDED ERqAIqEIqAUqOUqNrGqUOGqYUIqOGrERqVWqIGqEAqIONGqUI"),
   (0x16F8F, "aMIAO TONE RIGHTkTOP ~FkABOVEkBELOWfLETTER TONE-2r3r4r5r6r7r8mREFORMED TONE-1!2!4!" ++
    "5!6!8"),
   (0x16FE0, "aTANGUT ITERATION MARKaNUSHU~PaOLD CHINESE HOOK~FmITERATION~FaKHITAN SMALL SCRIPT " ++
    "FILLER"),
   (0x16FF0, "aVIETNAMESE ALTERNATE READING MARK CA.NHAY"),
   (0x18800, "aTANGUT COMPONENT-001t2t3t4t5t6t7t8t9s10t1t2t3t4t5t6t7t8t9s20t1t2t3t4t5t6t7t8t9s30" ++
    "t1t2t3t4t5t6t7t8t9s40t1t2t3t4t5t6t7t8t9s50t1t2t3t4t5t6t7t8t9s60t1t2t3t4t5t6t7t8t9s70t1t2t3t4" ++
    "t5t6t7t8t9s80t1t2t3t4t5t6t7t8t9s90t1t2t3t4t5t6t7t8t9r100t1t2t3t4t5t6t7t8t9s10t1t2t3t4t5t6t7t" ++
    "8t9s20t1t2t3t4t5t6t7t8t9s30t1t2t3t4t5t6t7t8t9s40t1t2t3t4t5t6t7t8t9s50t1t2t3t4t5t6t7t8t9s60t1" ++
    "t2t3t4t5t6t7t8t9s70t1t2t3t4t5t6t7t8t9s80t1t2t3t4t5t6t7t8t9s90t1t2t3t4t5t6t7t8t9r200t1t2t3t4t" ++
    "5t6t7t8t9s10t1t2t3t4t5t6t7t8t9s20t1t2t3t4t5t6t7t8t9s30t1t2t3t4t5t6t7t8t9s40t1t2t3t4t5t6t7t8t" ++
    "9s50t1t2t3t4t5t6t7t8t9s60t1t2t3t4t5t6t7t8t9s70t1t2t3t4t5t6t7t8t9s80t1t2t3t4t5t6t7t8t9s90t1t2" ++
    "t3t4t5t6t7t8t9r300t1t2t3t4t5t6t7t8t9s10t1t2t3t4t5t6t7t8t9s20t1t2t3t4t5t6t7t8t9s30t1t2t3t4t5t" ++
    "6t7t8t9s40t1t2t3t4t5t6t7t8t9s50t1t2t3t4t5t6t7t8t9s60t1t2t3t4t5t6t7t8t9s70t1t2t3t4t5t6t7t8t9s" ++
    "80t1t2t3t4t5t6t7t8t9s90t1t2t3t4t5t6t7t8t9r400t1t2t3t4t5t6t7t8t9s10t1t2t3t4t5t6t7t8t9s20t1t2t" ++
    "3t4t5t6t7t8t9s30t1t2t3t4t5t6t7t8t9s40t1t2t3t4t5t6t7t8t9s50t1t2t3t4t5t6t7t8t9s60t1t2t3t4t5t6t" ++
    "7t8t9s70t1t2t3t4t5t6t7t8t9s80t1t2t3t4t5t6t7t8t9s90t1t2t3t4t5t6t7t8t9r500t1t2t3t4t5t6t7t8t9s1" ++
    "0t1t2t3t4t5t6t7t8t9s20t1t2t3t4t5t6t7t8t9s30t1t2t3t4t5t6t7t8t9s40t1t2t3t4t5t6t7t8t9s50t1t2t3t" ++
    "4t5t6t7t8t9s60t1t2t3t4t5t6t7t8t9s70t1t2t3t4t5t6t7t8t9s80t1t2t3t4t5t6t7t8t9s90t1t2t3t4t5t6t7t" ++
    "8t9r600t1t2t3t4t5t6t7t8t9s10t1t2t3t4t5t6t7t8t9s20t1t2t3t4t5t6t7t8t9s30t1t2t3t4t5t6t7t8t9s40t" ++
    "1t2t3t4t5t6t7t8t9s50t1t2t3t4t5t6t7t8t9s60t1t2t3t4t5t6t7t8t9s70t1t2t3t4t5t6t7t8t9s80t1t2t3t4t" ++
    "5t6t7t8t9s90t1t2t3t4t5t6t7t8t9r700t1t2t3t4t5t6t7t8t9s10t1t2t3t4t5t6t7t8t9s20t1t2t3t4t5t6t7t8" ++
    "t9s30t1t2t3t4t5t6t7t8t9s40t1t2t3t4t5t6t7t8t9s50t1t2t3t4t5t6t7t8t9s60t1t2t3t4t5t6t7t8"),
   (0x1AFF0, "aKATAKANA LETTER MINNAN TONE-2&3&4&5"),
   (0x1AFF5, "aKATAKANA LETTER MINNAN TONE-7&8xNASALIZED TONE-1=2=3=4=5"),
   (0x1AFFD, "aKATAKANA LETTER MINNAN NASALIZED TONE-7=8"),
   (0x1B000, "aKATAKANA LETTER ARCHAIC EaHIRAGANA LETTER ARCHAIC YEbENTAIGANA LETTER A-1u2u3uWOs" ++
    "I-1u2u3u4sU-1u2u3u4u5sE-2u3u4u5u6sO-1u2u3sKA-1v2v3v4v5v6v7v8v9v10w1vKEtI-1v2v3v4v5v6v7v8tU-1" ++
    "v2v3v4v5v6v7tE-1v2v3v4v5v6tO-1v2v3vKIsSA-1v2v3v4v5v6v7v8tI-1v2v3v4v5v6tU-1v2v3v4v5v6v7v8tE-1" ++
    "v2v3v4v5tO-1v2v3v4v5v6v7sTA-1v2v3v4tI-1v2v3v4v5v6v7tU-1v2v3v4vTOtE-1v2v3v4v5v6v7v8v9tO-1v2v3" ++
    "v4v5v6vRAsNA-1v2v3v4v5v6v7v8v9tI-1v2v3v4v5v6v7vTEtU-1v2v3tE-1v2v3v4v5v6vKOtO-1v2v3v4v5sHA-1v" ++
    "2v3v4v5v6v7v8v9v10w1tI-1v2v3v4v5v6v7tU-1v2v3tE-1v2v3v4v5v6v7tO-1v2v3v4v5v6v7v8sMA-1v2v3v4v5v" ++
    "6v7tI-1v2v3v4v5v6v7tU-1v2v3v4tE-1v2vMAtO-1v2v3v4v5v6sYA-1v2v3v4v5vYOtU-1v2v3v4tO-1v2v3v4v5v6" ++
    "sRA-1v2v3v4tI-1v2v3v4v5v6v7tU-1v2v3v4v5v6tE-1v2v3v4tO-1v2v3v4v5v6sWA-1v2v3v4v5tI-1v2v3v4v5tE" ++
    "-1v2v3v4tO-1v2v3v4v5v6v7sN-MU-MO-1!2bIRAGANA LETTER ARCHAIC WUaKATAKANA LETTER ARCHAIC YIzEy" ++
    "WU"),
   (0x1B150, "aHIRAGANA LETTER SMALL WIxExO"),
   (0x1B164, "aKATAKANA LETTER SMALL WIxExOwN"),
   (0x1BC00, "aDUPLOYAN LETTER HqXqPqTqFqKqLqBqDqVqGqRqP NqD SqF NqK MqR SqTHqSLOAN DHqDHqKKqSLO" ++
    "AN JqHLqLHqRHqMqNqJqSqM NqN MqJ MqS JqM WITH DOTqN~JqJ~J!S INSIDE AND ABOVEqS WITH DOT! BELO" ++
    "WqM SqN SqJ SqS SqM N SqN M SqJ~EqS J SqJ S WITH DOTsNt SqS Tt RsPt RqT SsR SqWrHr RqS NsMqK" ++
    " R SqG~EqS Kt RqAqSLOAN OWqOArqAOUqIqEqIEqSHORT IqUIqEEqSLOAN EHqROMANIAN IqSLOAN EEqLONG Iq" ++
    "YEqUqEUqXWqU NqLONG UqROMANIAN UqUHqSLOAN UqOOHrWrUqWArOrIrEIrOWqNASAL UwOwIwAqPERNIN ANyMqS" ++
    "LOAN ENwANwONqVOCALIC M"),
   (0x1BC70, "aDUPLOYAN AFFIX LEFT HORIZONTAL SECANTpMID~SpRIGHT~SpLOW VERTIC~JpMID~QpHIGH~QpATT" ++
    "ACHED~HyLEFT-TO-RIGHT ~GyTANGENT!ILyE HOOKyI~FyTANGENT~F"),
   (0x1BC80, "aDUPLOYAN AFFIX HIGH ACUTEuTIGHT ~FuGRAVEuLONG ~FuDOTuCIRCLEuLINEuWAVEuVERTICAL"),
   (0x1BC90, "aDUPLOYAN AFFIX LOW ACUTEtTIGHT ~FtGRAVEtLONG ~FtDOTtCIRCLEtLINEtWAVEtVERTICALtARR" ++
    "OW"),
   (0x1BC9C, "aDUPLOYAN SIGN O WITH CROSSjTHICK LETTER SELECTORjDOUBLE MARKjPUNCTUATION CHINOOK " ++
    "FULL STOPaSHORTHAND FORMAT LETTER OVERLAPrCONTINUING~IrDOWN STEPrUP~F"),
   (0x1CF00, "aZNAMENNY COMBINING MARK GORAZDO NIZKO S KRYZHEM ON LEFTy~XyTSATA~IyGORAZDO NIZKO~" ++
    "Iy~NySREDNE~IyMALO POVYSH~Jy~PyVYSOKO~IyMALO POVYSHE S KHOKHLOM~IyP~ZyVYSOKO~TyGORAZDO NIZKO" ++
    " S KRYZHEM ON RIGHTy~YyTSATA~JyGORAZDO NIZKO~Jy~OySREDNE~JyMALO POVYSH~Ky~QyVYSOKO~JyMALO PO" ++
    "VYSHE S KHOKHLOM~JyPO~ZyVYSOKO~UyTSATA S KRYZHEMyMALO POVYSHE~KySTRANNO MALO POVYSHEyPOVYSHE" ++
    " S KRYZHEM,TRANNOyVYSOKO S KRYZHEMyMALO POVYSHE STRANNOyGORAZDO VYSOKOyZELOyONyRAVNOyTIKHAYA" ++
    "yBORZ~DyUDARKAyPODVERTKAyLOMKAyKUPNAYAzACHKAyZEVOKySKOBAyRAZSEKAyKRYZH ON LEFT"),
   (0x1CF30, "aZNAMENNY COMBINING TONAL RANGE MARK MRACHNO;SVETLO;TRE~GtMARK ZADERZHKAyDEMESTVEN" ++
    "NY ~JyOTSEC~DyPODCHASHIE. WITH VERTICAL STROKEyCHASHKA* POLNAYAyOBLACHKOySOROCHYA NOZHKAyTOC" ++
    "~DyDVOETOCHIEtATTACHING VERTICAL OMETtMARK CURVED~FyKRYZHtLOWER TONAL RANGE INDICATORjPRIZNA" ++
    "K MODIFIER LEVEL-2+3!DIRECTION FLIP!KRYZH!ROG"),
   (0x1CF50, "aZNAMENNY NEUME KRYUKu TIKHYpPARAKLITpDVA V CHELNUpKLYUCHpZANOZHEKpSTOPITSAx S OCH" ++
    "KOMpPEREVODKAy NEPOSTOYANNAYApSTOPITSA WITH SOROCHYA NOZHKApCHELYUSTKApPALKApZAPYATAYApGOLUB" ++
    "CHIK BORZYzTIKHYzMRACHNYzSVETLYzTRE~GpVRAKHIYA PROSTAYAyMRACHN~DySVETL~DyTRE~IyKLYUCHEVAYA P" ++
    "ROST~D;MRACHN~D;SVETL~D;TRE~IpDOUBLE ZAPYAT~DpREVERSED CHELYUSTKApDERBITSApKHAMILOpCHASHKApP" ++
    "ODCHASHIEpSKAMEYTSA MRACHNAYAzSVETL~DzTRE~I!IKH~DpDEMESTVENNY KLYUCHpSKAMEYTSA KLYUCHEVAYA S" ++
    "VETLAYA+NEPOSTOYANN~D+VAYA TIKH~DzDVOECHELNAYA PROST~D=SVETL~D=NEPOSTOYANN~D=KLYUCHEV~DqLOZH" ++
    "ITIEy S ZAPYATOYzZAKRYTOEzS KRYZHEMpKRYZHpROGpFITApKOBYLApZMEYTSApSTATYAv S ZAPYATOYyKRYZHEM" ++
    "yZAPYATOY I ~HyKRYZHEM I ZAPYATOYwZAKRYTAYA* S ZAPYATOYwS ROGOMyDVUMYA ZAPYATYMIyZAPYATOY I " ++
    "PODCHASHIEMpPOLKULIZMYpSTATYA NEPOSTOYANNAYArRELA PROST~DwMRACHNOTIKH~DwKRYZHEV~DwPOLUPOVODN" ++
    "~Dy~HwNEPOSTOYAN~EwKLYUCHEPOVOD~E(NEPOSTOYAN~EwTIKHAYA PUT~EwDVOECHEL~E*OKRYZHEV~D+POVODN~D*" ++
    "AYA KLYUCHEV~D*OPOVODN~PwGROMNAYA WITH SINGLE ZAPYAT~D!OPOVODN~Z!N~D!OPOVOD~E; WITH DOUBLE Z" ++
    "APYATAYA$KRYZHEV~D< POVODNAYApMECHIKv POVODNYwKLYUCHEVOY(POVODNY(NEPOSTOYANNYpSTRELA TRYASOG" ++
    "LASNAYA&POVOD~E&STREL~EpOSOKAu SVETLAYAvTRE~IvKRYUKOVAYA ~IwLYUCHE~N,NEPOSTOYANN~DpSTRELA KR" ++
    "YUKOV~D+ POVODNAYA,GROMNAYA WITH SINGLE ZAPYAT~D<OPOVODN~Z<N~D<OPOVOD~E|DNAYA WITH DOUBLE ZA" ++
    "PYAT~D=KRYZHEV~D|HEVAYA POVODN~D,TRYASKApKUFISMApOBLAKOpDUDApNEMKApPAUK")]

end SnippetProfiler.Text.Names
