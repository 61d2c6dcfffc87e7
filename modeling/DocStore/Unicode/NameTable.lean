/-!
# Names of characters

The names that characters have one by one, in version 14 of the character database. They are listed
by runs of characters that follow each other, each with its first code point.

A name is written as what it does not share with the name before, in its list or in the list before
this. In front of it stands how many characters it shares at the beginning, and behind a dot how
many at the end, if any. A letter stands for its place in the alphabet, from 0, and several letters
are added up. So behind `SPACE` the text `bTAR` is read as `STAR`, and `a.dPL` as `PLACE`.
-/

namespace DocStore.Unicode

/-- Names from U+0000 on. -/
def namesFrom0 : List (Nat × List String) := [
    (0x20, ["aSPACEaEXCLAMATION MARKa.kQUOTaNUMBER SIGNa.gDOLLAa.fPERCENTaAMPERSANDbPOSTROPHE",
      "aLEFT PARENTHESISa.nRIGHaASTERISKaPLUS SIGNaCOMMAaHYPHEN-MINUSaFULL STOPaSOLIDUS",
      "aDIGIT ZEROgONEgTWOhHREEgFOURhIVEgSIXhEVENgEIGHTgNINEaCOLONa.fSEMIaLESS-THAN SIGN",
      "a.fEQUALSa.fGREATER-THANaQUESTION MARKaCOMMERCIAL ATaLATIN CAPITAL LETTER AvBvCvDvEvFvGvH",
      "vIvJvKvLvMvNvOvPvQvRvSvTvUvVvWvXvYvZbEFT SQUARE BRACKETaREVERSE SOLIDUS",
      "bIGHT SQUARE BRACKETaCIRCUMFLEX ACCENTaLOW LINEaGRAVE ACCENTaLATIN SMALL LETTER AtBtCtDtE",
      "tFtGtHtItJtKtLtMtNtOtPtQtRtStTtUtVtWtXtYtZbEFT CURLY BRACKETaVERTICAL LINE",
      "aRIGHT CURLY BRACKETaTILDE"]),
    (0xa0, ["aNO-BREAK SPACEaINVERTED EXCLAMATION MARKaCENT SIGNa.fPOUNDa.fCURRENCYa.fYEN",
      "aBROKEN BARaSECTION SIGNaDIAERESISaCOPYRIGHT SIGNaFEMININE ORDINAL INDICATOR",
      "aLEFT-POINTING DOUBLE ANGLE QUOTATION MARKaNOT SIGNaSOFT HYPHENaREGISTERED SIGNaMACRON",
      "aDEGREE SIGNa.fPLUS-MINUSaSUPERSCRIPT TWOnHREEaACUTE ACCENTaMICRO SIGNa.fPILCROW",
      "aMIDDLE DOTaCEDILLAaSUPERSCRIPT ONEaMASCULINE ORDINAL INDICATOR",
      "aRIGHT-POINTING DOUBLE ANGLE QUOTATION MARKaVULGAR FRACTION ONE QUARTERuHALF",
      "qTHREE QUARTERSaINVERTED QUESTION MARKaLATIN CAPITAL LETTER A WITH GRAVEzdACUTE",
      "zdCIRCUMFLEXzdTILDEzdDIAERESISzdRING ABOVEwEvC WITH CEDILLAvE WITH GRAVEzdACUTE",
      "zdCIRCUMFLEXzdDIAERESISvI WITH GRAVEzdACUTEzdCIRCUMFLEXzdDIAERESISvETHvN WITH TILDE",
      "vO WITH GRAVEzdACUTEzdCIRCUMFLEXzdTILDEzdDIAERESISaMULTIPLICATION SIGN",
      "aLATIN CAPITAL LETTER O WITH STROKEvU WITH GRAVEzdACUTEzdCIRCUMFLEXzdDIAERESIS",
      "vY WITH ACUTEvTHORNgSMALL LETTER SHARP StA WITH GRAVEzbACUTEzbCIRCUMFLEXzbTILDE",
      "zbDIAERESISzbRING ABOVEuEtC WITH CEDILLAtE WITH GRAVEzbACUTEzbCIRCUMFLEXzbDIAERESIS",
      "tI WITH GRAVEzbACUTEzbCIRCUMFLEXzbDIAERESIStETHtN WITH TILDEtO WITH GRAVEzbACUTE",
      "zbCIRCUMFLEXzbTILDEzbDIAERESISaDIVISION SIGNaLATIN SMALL LETTER O WITH STROKE",
      "tU WITH GRAVEzbACUTEzbCIRCUMFLEXzbDIAERESIStY WITH ACUTEtTHORNtY WITH DIAERESIS",
      "gCAPITAL LETTER A WITH MACRONg.wSMALgCAPITAL LETTER A WITH BREVEg.vSMAL",
      "gCAPITAL LETTER A WITH OGONEKg.wSMALgCAPITAL LETTER C WITH ACUTEg.vSMAL",
      "gCAPITAL LETTER C WITH CIRCUMFLEXg.zbSMALgCAPITAL LETTER C WITH DOT ABOVEg.zSMAL",
      "gCAPITAL LETTER C WITH CARONg.vSMALg.lCAPITAL LETTER Dg.vSMAL",
      "gCAPITAL LETTER D WITH STROKEg.wSMALgCAPITAL LETTER E WITH MACRONg.wSMAL",
      "gCAPITAL LETTER E WITH BREVEg.vSMALgCAPITAL LETTER E WITH DOT ABOVEg.zSMAL",
      "gCAPITAL LETTER E WITH OGONEKg.wSMALgCAPITAL LETTER E WITH CARONg.vSMAL",
      "gCAPITAL LETTER G WITH CIRCUMFLEXg.zbSMALgCAPITAL LETTER G WITH BREVEg.vSMAL",
      "gCAPITAL LETTER G WITH DOT ABOVEg.zSMALgCAPITAL LETTER G WITH CEDILLAg.xSMAL",
      "gCAPITAL LETTER H WITH CIRCUMFLEXg.zbSMALgCAPITAL LETTER H WITH STROKEg.wSMAL",
      "gCAPITAL LETTER I WITH TILDEg.vSMALgCAPITAL LETTER I WITH MACRONg.wSMAL",
      "gCAPITAL LETTER I WITH BREVEg.vSMALgCAPITAL LETTER I WITH OGONEKg.wSMAL",
      "gCAPITAL LETTER I WITH DOT ABOVEgSMALL LETTER DOTLESS IgCAPITAL LIGATURE IJg.nSMAL",
      "gCAPITAL LETTER J WITH CIRCUMFLEXg.zbSMALgCAPITAL LETTER K WITH CEDILLAg.xSMALuRA",
      "gCAPITAL LETTER L WITH ACUTEg.vSMALgCAPITAL LETTER L WITH CEDILLAg.xSMAL",
      "gCAPITAL LETTER L WITH CARONg.vSMALgCAPITAL LETTER L WITH MIDDLE DOTg.zbSMAL",
      "gCAPITAL LETTER L WITH STROKEg.wSMALgCAPITAL LETTER N WITH ACUTEg.vSMAL",
      "gCAPITAL LETTER N WITH CEDILLAg.xSMALgCAPITAL LETTER N WITH CARONg.vSMAL",
      "vPRECEDED BY APOSTROPHEgCAPITAL LETTER ENGg.mSMALgCAPITAL LETTER O WITH MACRONg.wSMAL",
      "gCAPITAL LETTER O WITH BREVEg.vSMALgCAPITAL LETTER O WITH DOUBLE ACUTEg.zdSMAL",
      "gCAPITAL LIGATURE OEg.nSMALgCAPITAL LETTER R WITH ACUTEg.vSMAL",
      "gCAPITAL LETTER R WITH CEDILLAg.xSMALgCAPITAL LETTER R WITH CARONg.vSMAL",
      "gCAPITAL LETTER S WITH ACUTEg.vSMALgCAPITAL LETTER S WITH CIRCUMFLEXg.zbSMAL",
      "gCAPITAL LETTER S WITH CEDILLAg.xSMALgCAPITAL LETTER S WITH CARONg.vSMAL",
      "gCAPITAL LETTER T WITH CEDILLAg.xSMALgCAPITAL LETTER T WITH CARONg.vSMAL",
      "gCAPITAL LETTER T WITH STROKEg.wSMALgCAPITAL LETTER U WITH TILDEg.vSMAL",
      "gCAPITAL LETTER U WITH MACRONg.wSMALgCAPITAL LETTER U WITH BREVEg.vSMAL",
      "gCAPITAL LETTER U WITH RING ABOVEg.zbSMALgCAPITAL LETTER U WITH DOUBLE ACUTEg.zdSMAL",
      "gCAPITAL LETTER U WITH OGONEKg.wSMALgCAPITAL LETTER W WITH CIRCUMFLEXg.zbSMAL",
      "g.qCAPITAL LETTER Yg.zbSMALgCAPITAL LETTER Y WITH DIAERESISvZ WITH ACUTEg.vSMAL",
      "gCAPITAL LETTER Z WITH DOT ABOVEg.zSMALgCAPITAL LETTER Z WITH CARONg.vSMALtLONG S",
      "tB WITH STROKEgCAPITAL LETTER B WITH HOOKzdTOPBARg.wSMALgCAPITAL LETTER TONE SIXg.rSMAL",
      "gCAPITAL LETTER OPEN OvC WITH HOOKg.uSMALgCAPITAL LETTER AFRICAN DvD WITH HOOKzdTOPBAR",
      "g.wSMALtTURNED DELTAgCAPITAL LETTER REVERSED EvSCHWAvOPEN EvF WITH HOOKg.uSMAL",
      "g.kCAPITAL LETTER GwAMMAgSMALL LETTER HVgCAPITAL LETTER IOTAw WITH STROKEvK WITH HOOK",
      "g.uSMALtL WITH BARuAMBDA WITH STROKEgCAPITAL LETTER TURNED MvN WITH LEFT HOOK",
      "gSMALL LETTER N WITH LONG RIGHT LEGgCAPITAL LETTER O WITH MIDDLE TILDEzdHORNg.uSMAL",
      "gCAPITAL LETTER OIg.lSMALgCAPITAL LETTER P WITH HOOKg.uSMALgLETTER YR",
      "gCAPITAL LETTER TONE TWOg.rSMALgCAPITAL LETTER ESHgLETTER REVERSED ESH LOOP",
      "gSMALL LETTER T WITH PALATAL HOOKg.fCAPITAL LETTER T WITHg.uSMAL",
      "g.fCAPITAL LETTER T WITH RETROFLEXvU WITH HORNg.uSMALgCAPITAL LETTER UPSILONvV WITH HOOK",
      "v.kYg.uSMALgCAPITAL LETTER Z WITH STROKEg.wSMALgCAPITAL LETTER EZHy REVERSEDg.vSMAL",
      "xWITH TAILgLETTER TWO WITH STROKEgCAPITAL LETTER TONE FIVEg.sSMAL",
      "gLETTER INVERTED GLOTTAL STOP WITH STROKEnWYNNnDENTAL CLICKn.iLATERn.gALVEOLAR",
      "n.gRETROFLEXgCAPITAL LETTER DZ WITH CARONw.m WITH SMALL LETTER g.mSMALL LETTER D",
      "gCAPITAL LETTER LJw WITH SMALL LETTER JgSMALL LETTER LJgCAPITAL LETTER NJ",
      "w WITH SMALL LETTER JgSMALL LETTER NJgCAPITAL LETTER A WITH CARONg.vSMAL",
      "g.lCAPITAL LETTER Ig.vSMALg.lCAPITAL LETTER Og.vSMALg.lCAPITAL LETTER Ug.vSMAL",
      "g.dCAPITAL LETTER U WITH DIAERESIS AND MACg.zlSMAL",
      "gCAPITAL LETTER U WITH DIAERESIS AND ACUTEg.zkSMAL",
      "gCAPITAL LETTER U WITH DIAERESIS AND CARONg.zkSMAL",
      "gCAPITAL LETTER U WITH DIAERESIS AND GRAVEg.zkSMALtTURNED E",
      "gCAPITAL LETTER A WITH DIAERESIS AND MACRONg.zlSMALg.lCAPITAL LETTER A WITH DOT ABOVE",
      "g.zlSMALg.hCAPITAL LETTER AE WITHg.xSMALgCAPITAL LETTER G WITH STROKEg.wSMAL",
      "gCAPITAL LETTER G WITH CARONg.vSMALg.lCAPITAL LETTER Kg.vSMAL",
      "gCAPITAL LETTER O WITH OGONEKg.wSMALgCAPITAL LETTER O WITH OGONEK AND MACRONg.ziSMAL",
      "g.dCAPITAL LETTER EZH WITH CAg.xSMALt.lJgCAPITAL LETTER DZw WITH SMALL LETTER Z",
      "gSMALL LETTER DZgCAPITAL LETTER G WITH ACUTEg.vSMALgCAPITAL LETTER HWAIRvWYNN",
      "vN WITH GRAVEg.vSMALgCAPITAL LETTER A WITH RING ABOVE AND ACUTEg.zlSMAL",
      "g.gCAPITAL LETTER AE WITHg.wSMALg.gCAPITAL LETTER O WITH STROKE ANDg.zhSMAL",
      "gCAPITAL LETTER A WITH DOUBLE GRAVEg.zdSMALgCAPITAL LETTER A WITH INVERTED BREVEg.zfSMAL",
      "gCAPITAL LETTER E WITH DOUBLE GRAVEg.zdSMALgCAPITAL LETTER E WITH INVERTED BREVEg.zfSMAL",
      "gCAPITAL LETTER I WITH DOUBLE GRAVEg.zdSMALgCAPITAL LETTER I WITH INVERTED BREVEg.zfSMAL",
      "gCAPITAL LETTER O WITH DOUBLE GRAVEg.zdSMALgCAPITAL LETTER O WITH INVERTED BREVEg.zfSMAL",
      "gCAPITAL LETTER R WITH DOUBLE GRAVEg.zdSMALgCAPITAL LETTER R WITH INVERTED BREVEg.zfSMAL",
      "gCAPITAL LETTER U WITH DOUBLE GRAVEg.zdSMALgCAPITAL LETTER U WITH INVERTED BREVEg.zfSMAL",
      "gCAPITAL LETTER S WITH COMMA BELOWg.zcSMALg.rCAPITAL LETTER Tg.zcSMALgCAPITAL LETTER YOGH",
      "g.nSMALgCAPITAL LETTER H WITH CARONg.vSMALgCAPITAL LETTER N WITH LONG RIGHT LEG",
      "gSMALL LETTER D WITH CURLgCAPITAL LETTER OUg.lSMALgCAPITAL LETTER Z WITH HOOKg.uSMAL",
      "gCAPITAL LETTER A WITH DOT ABOVEg.zSMALgCAPITAL LETTER E WITH CEDILLAg.xSMAL",
      "gCAPITAL LETTER O WITH DIAERESIS AND MACRONg.zlSMALg.lCAPITAL LETTER O WITH TILDEg.zhSMAL",
      "gCAPITAL LETTER O WITH DOT ABOVEg.zSMALgCAPITAL LETTER O WITH DOT ABOVE AND MACRON",
      "g.zlSMALg.hCAPITAL LETTER Y WITHg.wSMALtL WITH CURLt.kNt.kTtDOTLESS JuB DIGRAPHt.iQP",
      "gCAPITAL LETTER A WITH STROKEv.mCg.wSMALgCAPITAL LETTER L WITH BARvT WITH DIAGONAL STROKE",
      "gSMALL LETTER S WITH SWASH TAILt.qZgCAPITAL LETTER GLOTTAL STOPg.vSMAL",
      "gCAPITAL LETTER B WITH STROKEvU BARvTURNED VvE WITH STROKEg.wSMALg.mCAPITAL LETTER J",
      "g.wSMALgCAPITAL LETTER SMALL Q WITH HOOK TAILg.rSMALL LETTERgCAPITAL LETTER R WITH STROKE",
      "g.wSMALg.mCAPITAL LETTER Yg.wSMALtTURNED AtALPHAt.fTURNED tB WITH HOOKtOPEN OtC WITH CURL",
      "tD WITH TAILzbHOOKtREVERSED EtSCHWAy WITH HOOKtOPEN Et.gREVERSED zj WITH HOOK",
      "tCLOSED REVERSED OPEN EtDOTLESS J WITH STROKEtG WITH HOOKtSCRIPT GgLETTER SMALL CAPITAL G",
      "gSMALL LETTER GAMMAtRAMS HORNtTURNED HtH WITH HOOKu.kENGtI WITH STROKEuOTA",
      "gLETTER SMALL CAPITAL IgSMALL LETTER L WITH MIDDLE TILDEzbBELTzbRETROFLEX HOOKuEZH",
      "tTURNED Mzc WITH LONG LEGtM WITH HOOKt.fN WITH LEFTzb.fRETROFLEXgLETTER SMALL CAPITAL N",
      "gSMALL LETTER BARRED OgLETTER SMALL CAPITAL OEgSMALL LETTER CLOSED OMEGAtPHItTURNED R",
      "zc WITH LONG LEGziHOOKtR WITH LONG LEGzbTAILzbFISHHOOKu.oEVERSED RgLETTER SMALL CAPITAL R",
      "zcINVERTED RgSMALL LETTER S WITH HOOKtESHtDOTLESS J WITH STROKE AND HOOK",
      "tSQUAT REVERSED ESHtESH WITH CURLtTURNED Tu WITH RETROFLEX HOOKtU BARuPSILONtV WITH HOOK",
      "tTURNED VzbWzbYgLETTER SMALL CAPITAL YgSMALL LETTER Z WITH RETROFLEX HOOKzbCURLtEZH",
      "w WITH CURLgLETTER GLOTTAL STOPnPHARYNGEAL VOICED FRICATIVEnINVERTED GLOTTAL STOP",
      "nSTRETCHED CnBILABIAL CLICKnSMALL CAPITAL BgSMALL LETTER CLOSED OPEN E",
      "gLETTER SMALL CAPITAL G WITH HOOKzcHgSMALL LETTER J WITH CROSSED-TAILtTURNED K",
      "gLETTER SMALL CAPITAL LgSMALL LETTER Q WITH HOOKgLETTER GLOTTAL STOP WITH STROKE",
      "n.yREVERSED gSMALL LETTER DZ DIGRAPHu.iEZHuZ DIGRAPH WITH CURLtTS DIGRAPHu.iESH",
      "uC DIGRAPH WITH CURLtFENG DIGRAPHt.iLSu.iZgLETTER BILABIAL PERCUSSIVEp.nDENT",
      "gSMALL LETTER TURNED H WITH FISHHOOKzq AND TAILaMODIFIER LETTER SMALL Hx WITH HOOKwJwR",
      "wTURNED Rzf WITH HOOKwCAPITAL INVERTED RwWwYqPRIMEq.fDOUBLE qTURNED COMMAqAPOSTROPHE",
      "qREVERSED COMMArIGHT HALF RINGq.lLEFqGLOTTAL STOPq.mREVERSED qLEFT ARROWHEADq.lRIGHq.kUP",
      "q.kDOWNqCIRCUMFLEX ACCENTaCARONaMODIFIER LETTER VERTICAL LINEqMACRONqACUTE ACCENTq.iGRAV",
      "qLOW VERTICAL LINEuMACRONuGRAVE ACCENTu.iACUTqTRIANGULAR COLONq.qHALF ",
      "qCENTRED RIGHT HALF RINGy.lLEFqUP TACKq.fDOWNqPLUS SIGNq.hMINaBREVEaDOT ABOVEa.gRING",
      "aOGONEKaSMALL TILDEaDOUBLE ACUTE ACCENTaMODIFIER LETTER RHOTIC HOOKqCROSS ACCENT",
      "qSMALL GAMMAwLwSwXwREVERSED GLOTTAL STOPqEXTRA-HIGH TONE BARq.mHq.jMIDq.jLOWq.mEXTRA-",
      "qYIN DEPARTING TONE MARKr.uANGqVOICINGqUNASPIRATEDqDOUBLE APOSTROPHEqLOW DOWN ARROWHEAD",
      "u.kUPu.kLEFTu.lRIGHwNGqMIDDLE GRAVE ACCENTx.mDOUBLE zf.iACUTqLOW TILDEqRAISED COLON",
      "qBEGIN HIGH TONEq.kENDq.fBEGIN LOWq.jENDqSHELFq.fOPEN qLOW LEFT ARROW",
      "aCOMBINING GRAVE ACCENTk.iACUTk.hCIRCUMFLEXkTILDEkMACRONkOVERLINEkBREVEkDOT ABOVE",
      "lIAERESISkHOOK ABOVEk.gRINGkDOUBLE ACUTE ACCENTkCARONkVERTICAL LINE ABOVEk.tDOUBLE ",
      "rGRAVE ACCENTkCANDRABINDUkINVERTED BREVEkTURNED COMMA ABOVEk.kCk.lREVERSED ",
      "kCOMMA ABOVE RIGHTkGRAVE ACCENT BELOWk.oACUTk.gLEFT TACKk.mRIGHkLEFT ANGLE ABOVEkHORN",
      "kLEFT HALF RING BELOWk.gUP TACKk.lDOWNk.gPLUS SIGNk.nMINk.gPALATALIZED HOOKk.lRETROFLEX",
      "k.gDOTl.gIAERESISk.gRINGk.gCOMMAlEDILLAkOGONEKkVERTICAL LINE BELOWk.hBRIDG",
      "k.gINVERTED DOUBLE ARCHk.gCARONl.gIRCUMFLEX ACCENTk.gBREVEk.lINVERTED k.hTILDk.gMACRON",
      "kLOW LINEk.iDOUBLE kTILDE OVERLAYk.jSHORT STROKk.pLONGk.iSHORT SOLIDUSk.qLONG",
      "kRIGHT HALF RING BELOWk.gINVERTED BRIDGEk.hSQUARl.gEAGULLkX ABOVEkVERTICAL TILDE",
      "kDOUBLE OVERLINEkGRAVE TONE MARKk.lACUTkGREEK PERISPOMENIqKORONISqDIALYTIKA TONOS",
      "qYPOGEGRAMMENIkBRIDGE ABOVEkEQUALS SIGN BELOWk.gDOUBLE VERTICAL LINEk.hLEFT ANGL",
      "kNOT TILDE ABOVEk.gHOMOTHETICk.gALMOST EQUAL TOkLEFT RIGHT ARROW BELOWk.mUPWARDS",
      "kGRAPHEME JOINERkRIGHT ARROWHEAD ABOVEk.gLEFT HALF RINGkFERMATAkX BELOWk.gLEFT ARROWHEAD",
      "k.rRIGHzb.fAND UP ARROWHEAD qHALF RING ABOVEkDOT ABOVE RIGHTkASTERISK BELOWk.gDOUBLE RING",
      "kZIGZAG ABOVEkDOUBLE BREVE BELOWvErMACRONx BELOWrTILDErINVERTED BREVE",
      "rRIGHTWARDS ARROW BELOWkLATIN SMALL LETTER AzeEzeIzeOzeUzeCzeDzeHzeMzeRzeTzeVzeX",
      "aGREEK CAPITAL LETTER HETAg.nSMALgCAPITAL LETTER ARCHAIC SAMPIg.wSMALgNUMERAL SIGN",
      "g.mLOWER gCAPITAL LETTER PAMPHYLIAN DIGAMMAg.zcSMAL"]),
    (0x37a, ["gYPOGEGRAMMENIgSMALL REVERSED LUNATE SIGMA SYMBOLm.wDOTTm.zbREVERSED ",
      "gQUESTION MARKgCAPITAL LETTER YOT"]),
    (0x384, ["gTONOSg.fDIALYTIKA g.gCAPITAL LETTER ALPHA WITHgANO TELEIA",
      "gCAPITAL LETTER EPSILON WITH TONOSw.lTAv.nIO"]),
    (0x38c, ["v.lOMICRON"]),
    (0x38e, ["v.nUPSILv.lOMEGAg.gSMALL LETTER IOTA WITH DIALYTIKA ANDgCAPITAL LETTER ALPHAvBETA",
      "vGAMMAvDELTAvEPSILONvZETAvETAv.dTHvIOTAvKAPPAvLAMDAvMUvNUvXIvOMICRONvPIvRHO"]),
    (0x3a3, ["vSIGMAvTAUvUPSILONvPHIvCHIvPSIvOMEGAvIOTA WITH DIALYTIKAv.pUPSILON",
      "gSMALL LETTER ALPHA WITH TONOSt.lEPSILONu.lTAt.nIOt.gUPSILON WITH DIALYTIKA ANDtALPHA",
      "tBETAtGAMMAtDELTAtEPSILONtZETAtETAt.dTHtIOTAtKAPPAtLAMDAtMUtNUtXItOMICRONtPItRHO",
      "tFINAL SIGMAt.eStTAUtUPSILONtPHItCHItPSItOMEGAtIOTA WITH DIALYTIKAt.pUPSILON",
      "tOMICRON WITH TONOSt.nUPSILt.lOMEGAgCAPITAL KAI SYMBOLg.hBETAg.kTHg.hUPSILON WITH HOOK",
      "t.lACUTE AND t.qDIAERESISg.hPHIh.hIg.iKAgLETTER ARCHAIC KOPPAg.uSMALL gLETTER STIGMA",
      "g.nSMALL gLETTER DIGAMMAg.oSMALL gLETTER KOPPAg.mSMALL gLETTER SAMPIg.mSMALL ",
      "aCOPTIC CAPITAL LETTER SHEIh.nSMALhCAPITAL LETTER FEIh.mSMALhCAPITAL LETTER KHEIh.nSMAL",
      "hCAPITAL LETTER HORIh.nSMALhCAPITAL LETTER GANGIAh.pSMALhCAPITAL LETTER SHIMAh.oSMAL",
      "hCAPITAL LETTER DEIh.mSMALaGREEK KAPPA SYMBOLg.hRHOg.hLUNATE SIGMAhETTER YOT",
      "gCAPITAL THETA SYMBOLg.hLUNATE EPSILONg.vREVERSED gCAPITAL LETTER SHOg.mSMAL",
      "gCAPITAL LUNATE SIGMA SYMBOLpETTER SANg.mSMALgRHO WITH STROKE SYMBOL",
      "g.hCAPITAL REVERSED LUNATE SIGMAo.wDOTTo.zbREVERSED ",
      "aCYRILLIC CAPITAL LETTER IE WITH GRAVEzOyDJEyGJEyUKRAINIAN IEyDZE",
      "yBYELORUSSIAN-UKRAINIAN IyYIyJEyLJEyNJEyTSHEyKJEyI WITH GRAVEySHORT UyDZHEyAyBEyVEyGHEyDE",
      "yIEyZHEzEyIySHORT IyKAyELzMzNyOyPEyERzSyTEyUyEFyHAyTSEyCHEySHAzbCHAyHARD SIGNyYERU",
      "ySOFT SIGNyEyYUzAjSMALL LETTER AwBEwVEwGHEwDEwIEwZHExEwIwSHORT IwKAwELxMxNwOwPEwERxSwTEwU",
      "wEFwHAwTSEwCHEwSHAyCHAwHARD SIGNwYERUwSOFT SIGNwEwYUxAwIE WITH GRAVExOwDJEwGJE",
      "wUKRAINIAN IEwDZEwBYELORUSSIAN-UKRAINIAN IwYIwJEwLJEwNJEwTSHEwKJEwI WITH GRAVEwSHORT U",
      "wDZHEjCAPITAL LETTER OMEGAj.oSMALjCAPITAL LETTER YATj.mSMALjCAPITAL LETTER IOTIFIED E",
      "j.tSMALjCAPITAL LETTER LITTLE YUSj.tSMALj.lCAPITAL LETTER IOTIFIEDj.zdSMAL",
      "j.eCAPITAL LETTER BIGj.qSMALj.iCAPITAL LETTER IOTIFIEDj.zSMALjCAPITAL LETTER KSIj.mSMAL",
      "jCAPITAL LETTER PSIj.mSMALjCAPITAL LETTER FITAj.nSMALjCAPITAL LETTER IZHITSAj.qSMAL",
      "jCAPITAL LETTER IZHITSA WITH DOUBLE GRAVE ACCENTj.zqSMALjCAPITAL LETTER UKj.lSMAL",
      "jCAPITAL LETTER ROUND OMEGAj.uSMALjCAPITAL LETTER OMEGA WITH TITLOj.zSMAL",
      "jCAPITAL LETTER OTj.lSMALjCAPITAL LETTER KOPPAj.oSMALjTHOUSANDS SIGN",
      "bOMBINING CYRILLIC TITLOtPALATALIZATIONtDASIA PNEUMATAt.jPSILIuOKRYTIE",
      "tHUNDRED THOUSANDS SIGNt.gMILLIONbYRILLIC CAPITAL LETTER SHORT I WITH TAILj.zbSMAL",
      "jCAPITAL LETTER SEMISOFT SIGNj.wSMALjCAPITAL LETTER ER WITH TICKj.vSMAL",
      "jCAPITAL LETTER GHE WITH UPTURNj.ySMALjCAPITAL LETTER GHE WITH STROKEj.ySMAL",
      "jCAPITAL LETTER GHE WITH MIDDLE HOOKj.zeSMALjCAPITAL LETTER ZHE WITH DESCENDERj.zcSMAL",
      "j.qCAPITAL LETTER Zj.zbSMALj.pCAPITAL LETTER KAj.zbSMAL",
      "jCAPITAL LETTER KA WITH VERTICAL STROKEj.zhSMALj.hCAPITAL LETTER KA WITHj.xSMAL",
      "jCAPITAL LETTER BASHKIR KAj.tSMALjCAPITAL LETTER EN WITH DESCENDERj.zbSMAL",
      "jCAPITAL LIGATURE EN GHEj.rSMALjCAPITAL LETTER PE WITH MIDDLE HOOKj.zdSMAL",
      "jCAPITAL LETTER ABKHASIAN HAj.vSMALjCAPITAL LETTER ES WITH DESCENDERj.zbSMAL",
      "j.pCAPITAL LETTER TEj.zbSMALjCAPITAL LETTER STRAIGHT Uj.tSMAL",
      "jCAPITAL LETTER STRAIGHT U WITH STROKEj.zgSMALjCAPITAL LETTER HA WITH DESCENDERj.zbSMAL",
      "jCAPITAL LIGATURE TE TSEj.rSMALjCAPITAL LETTER CHE WITH DESCENDERj.zcSMAL",
      "jCAPITAL LETTER CHE WITH VERTICAL STROKEj.ziSMALjCAPITAL LETTER SHHAj.nSMAL",
      "jCAPITAL LETTER ABKHASIAN CHEj.wSMALjCAPITAL LETTER ABKHASIAN CHE WITH DESCENDERj.zmSMAL",
      "jLETTER PALOCHKAjCAPITAL LETTER ZHE WITH BREVEj.xSMALjCAPITAL LETTER KA WITH HOOKj.vSMAL",
      "jCAPITAL LETTER EL WITH TAILj.vSMALjCAPITAL LETTER EN WITH HOOKj.vSMAL",
      "jCAPITAL LETTER EN WITH TAILj.vSMALjCAPITAL LETTER KHAKASSIAN CHEj.xSMAL",
      "jCAPITAL LETTER EM WITH TAILj.vSMALwPALOCHKAjCAPITAL LETTER A WITH BREVEj.vSMAL",
      "jCAPITAL LETTER A WITH DIAERESISj.zSMALjCAPITAL LIGATURE A IEj.pSMAL",
      "jCAPITAL LETTER IE WITH BREVEj.wSMALjCAPITAL LETTER SCHWAj.oSMAL",
      "jCAPITAL LETTER SCHWA WITH DIAERESISj.zeSMALj.pCAPITAL LETTER ZHEj.zcSMAL",
      "j.qCAPITAL LETTER Zj.zbSMALjCAPITAL LETTER ABKHASIAN DZEj.wSMAL",
      "jCAPITAL LETTER I WITH MACRONj.wSMALjCAPITAL LETTER I WITH DIAERESISj.zSMAL",
      "j.pCAPITAL LETTER Oj.zSMALjCAPITAL LETTER BARRED Oj.rSMAL",
      "jCAPITAL LETTER BARRED O WITH DIAERESISj.zhSMALj.pCAPITAL LETTER Ej.zSMAL",
      "jCAPITAL LETTER U WITH MACRONj.wSMALjCAPITAL LETTER U WITH DIAERESISj.zSMAL",
      "jCAPITAL LETTER U WITH DOUBLE ACUTEj.zdSMALjCAPITAL LETTER CHE WITH DIAERESISj.zcSMAL",
      "jCAPITAL LETTER GHE WITH DESCENDERj.zcSMALjCAPITAL LETTER YERU WITH DIAERESISj.zdSMAL",
      "jCAPITAL LETTER GHE WITH STROKE AND HOOKj.ziSMALj.fCAPITAL LETTER HA WITHj.vSMAL",
      "jCAPITAL LETTER HA WITH STROKEj.xSMALjCAPITAL LETTER KOMI DEj.qSMAL",
      "jCAPITAL LETTER KOMI DJEj.rSMALjCAPITAL LETTER KOMI ZJEj.rSMALj.dCAPITAL LETTER KOMI D",
      "j.sSMALjCAPITAL LETTER KOMI LJEj.rSMALjCAPITAL LETTER KOMI NJEj.rSMAL",
      "jCAPITAL LETTER KOMI SJEj.rSMALjCAPITAL LETTER KOMI TJEj.rSMALjCAPITAL LETTER REVERSED ZE",
      "j.uSMALjCAPITAL LETTER EL WITH HOOKj.vSMALjCAPITAL LETTER LHAj.mSMALjCAPITAL LETTER RHA",
      "j.mSMALjCAPITAL LETTER YAEj.mSMALjCAPITAL LETTER QAj.lSMALjCAPITAL LETTER WEj.lSMAL",
      "jCAPITAL LETTER ALEUT KAj.rSMALjCAPITAL LETTER EL WITH MIDDLE HOOKj.zdSMAL",
      "j.rCAPITAL LETTER ENj.zdSMALjCAPITAL LETTER PE WITH DESCENDERj.zbSMAL",
      "j.pCAPITAL LETTER SHHAj.zdSMALjCAPITAL LETTER EN WITH LEFT HOOKj.zbSMAL",
      "jCAPITAL LETTER DZZHEj.oSMALjCAPITAL LETTER DCHEj.nSMALjCAPITAL LETTER EL WITH DESCENDER",
      "j.zbSMAL"]),
    (0x531, ["aARMENIAN CAPITAL LETTER AYByBENyGIMyDAyECHyZAyEHzTyTOyZHEyINIyLIWNyXEHyCAyKENyHO",
      "yJAyGHADyCHEHyMENyYIyNOWySHAyVOyCHAyPEHyJHEHyRAySEHyVEWyTIWNyREHyCOyYIWNyPIWRyKEHyOHyFEH"]),
    (0x559, ["jMODIFIER LETTER LEFT HALF RINGjAPOSTROPHEjEMPHASIS MARKk.fXCLAMATIONjCOMMA",
      "jQUESTION MARKj.jABBREVIAjSMALL LETTER TURNED AYBwAYBwBENwGIMwDAwECHwZAwEHxTwTOwZHEwINI",
      "wLIWNwXEHwCAwKENwHOwJAwGHADwCHEHwMENwYIwNOWwSHAwVOwCHAwPEHwJHEHwRAwSEHwVEWwTIWNwREHwCO",
      "wYIWNwPIWRwKEHwOHwFEHqIGATURE ECH YIWNqETTER YI WITH STROKEjFULL STOPjHYPHEN"]),
    (0x58d, ["aRIGHT-FACING ARMENIAN ETERNITY SIGNa.zgLEFa.fARMENIAN DRAM"]),
    (0x591, ["aHEBREW ACCENT ETNAHTAoSEGOLpHALSHELEToZAQEF QATANuGADOLoTIPEHAoREVIAoZARQAoPASHTA",
      "oYETIVoTEVIRoGERESHu MUQDAMrSHAYIMoQARNEY PARAoTELISHA GEDOLAoPAZERoATNAH HAFUKHoMUNAH",
      "pAHAPAKHpERKHAu KEFULAoDARGAoQADMAoTELISHA QETANAoYERAH BEN YOMOoOLEoILUYoDEHIoZINOR",
      "hMARK MASORA CIRCLEhPOINT SHEVAnHATAF SEGOLtPATAHtQAMATSoIRIQnTSEREnSEGOLnPATAHnQAMATS",
      "nHOLAMs HASER FOR VAVnQUBUTSnDAGESH OR MAPIQnMETEGiUNCTUATION MAQAFiOINT RAFE",
      "iUNCTUATION PASEQiOINT SHIN DOTo.fIiUNCTUATION SOF PASUQhMARK UPPER DOTm.gLOW",
      "hPUNCTUATION NUN HAFUKHAiOINT QAMATS QATAN"]),
    (0x5d0, ["hLETTER ALEFoBEToGIMELoDALEToHEoVAVoZAYINoHEToTEToYODoFINAL KAFoKAFoLAMED",
      "oFINAL MEMoMEMoFINAL NUNoNUNoSAMEKHoAYINoFINAL PEoPEoFINAL TSADIo.eToQOFoRESHoSHINoTAV"]),
    (0x5ef, ["hYOD TRIANGLEhLIGATURE YIDDISH DOUBLE VAVyVAV YODy.eDOUBLEhPUNCTUATION GERESH",
      "wSHAYIM"]),
    (0x600, ["aARABIC NUMBER SIGNhSIGN SANAHhFOOTNOTE MARKERhSIGN SAFHAoMVAThNUMBER MARK ABOVE",
      "g-INDIC CUBE ROOTn.fFOURTHg RAYg-INDIC PER MILLE SIGNr.fTEN THOUSANDb.fFGHANIbRABIC COMMA",
      "hDATE SEPARATORhPOETIC VERSE SIGNhSIGN MISRAmSALLALLAHOU ALAYHE WASSALLAMm.iALAYHE ",
      "mRAHMATULLAH ALAYHEoDI ALLAHOU ANHUmTAKHALLUSiMALL HIGH TAH",
      "sLIGATURE ALEF WITH LAM WITH YEHsZAINnFATHAnDAMMAnKASRAiEMICOLONhLETTER MARK",
      "h.fEND OF TEXTh.fTRIPLE DOT PUNCTUATIONh.jQUEShLETTER KASHMIRI YEHoHAMZA",
      "oALEF WITH MADDA ABOVEy.hHAMZo.rWAWoALEF WITH HAMZA BELOWoYEH WITH HAMZA ABOVEoALEFoBEH",
      "oTEH MARBUTAqHpHEHoJEEMoHAHo.dKoDALoTHALoREHoZAINoSEENp.dHpADoDADoTAHoZAHoAINo.dGH",
      "oKEHEH WITH TWO DOTS ABOVEzbHREE DOTS BELOWoFARSI YEH WITH INVERTED VzeTWO DOTS ABOVE",
      "zf.lHREEhTATWEELhLETTER FEHoQAFoKAFoLAMoMEEMoNOONoHEHoWAWoALEF MAKSURAoYEHhFATHATAN",
      "h.eDAMMh.eKASRhFATHAhDAMMAhKASRAhSHADDAiUKUNhMADDAH ABOVEh.gHAMZAnBELOWhSUBSCRIPT ALEF",
      "hINVERTED DAMMAhMARK NOON GHUNNAhZWARAKAYhVOWEL SIGN SMALL V ABOVEs.nINVERTED sDOT BELOW",
      "hREVERSED DAMMAhFATHA WITH TWO DOTShWAVY HAMZA BELOWg-INDIC DIGIT ZEROtONEtTWOuHREEtFOUR",
      "uIVEtSIXuEVENtEIGHTtNINEg PERCENT SIGNhDECIMAL SEPARATORh.kTHOUSANDShFIVE POINTED STAR",
      "hLETTER DOTLESS BEHwQAFoSUPERSCRIPT ALEFoALEF WASLAuITH WAVY HAMZA ABOVEzkBELOW",
      "oHIGH HAMZAy ALEFzWAWoU WITH HAMZA ABOVEoHIGH HAMZA YEHoTTEHsEHoBEEHoTEH WITH RING",
      "xTHREE DOTS ABOVE DOWNWARDSoPEHoTEHEHo.eBoHAH WITH HAMZA ABOVEx.gTWO DOTS VERTICALoNYEH",
      "o.dDoHAH WITH THREE DOTS ABOVEoTCHEHtEHoDDALpAL WITH RINGxDOT BELOWzh AND SMALL TAHqHAL",
      "p.eDpULpAL WITH THREE DOTS ABOVE DOWNWARDSxFOUR DOTS ABOVEoRREHpEH WITH SMALL VxRING",
      "xDOT BELOWx.gSMALL VxDOT BELOW AND DOT ABOVEx.gTWO DOTSoJEHoREH WITH FOUR DOTS ABOVE",
      "o.gSEEN WITH DOT BELOW AND DOTyTHREE DOTS BELOWzp AND THREE DOTS ABOVE",
      "pAD WITH TWO DOTS BELOWyHREE DOTS ABOVEo.wTAHo.wAINoDOTLESS FEHoFEH WITH DOT MOVED BELOW",
      "zc.eBoVEHoFEH WITH THREE DOTS BELOWoPEHEHoQAF WITH DOT ABOVEx.gTHREE DOTSoKEHEHoSWASH KAF",
      "oKAF WITH RINGxDOT ABOVEoNGoKAF WITH THREE DOTS BELOWoGAFr WITH RINGoNGOEH",
      "oGAF WITH TWO DOTS BELOWpUEHpAF WITH THREE DOTS ABOVEoLAM WITH SMALL VxDOT ABOVE",
      "x.gTHREE DOTSzjBELOWo.gNOON WITH DOTtGHUNNAoRNOONoNOON WITH RINGyTHREE DOTS ABOVE",
      "oHEH DOACHASHMEEoTCHEH WITH DOT ABOVEo.gHEH WITH YEHsGOALw WITH HAMZA ABOVE",
      "oTEH MARBUTA GOALoWAW WITH RINGoKIRGHIZ OEoOEoUoYUoKIRGHIZ YUoWAW WITH TWO DOTS ABOVEoVE",
      "oFARSI YEHoYEH WITH TAILxSMALL VoWAW WITH DOT ABOVEoEoYEH WITH THREE DOTS BELOWsBARREE",
      "y WITH HAMZA ABOVEhFULL STOPhLETTER AEhSMALL HIGH LIGATURE SAD WITH LAM WITH ALEF MAKSURA",
      "zc.zcQAFsMEEM INITIAL FORMsLAM ALEFsJEEMsTHREE DOTSsSEENhEND OF AYAHhSTART OF RUB EL HIZB",
      "iMALL HIGH ROUNDED ZEROs.fUPRIGHT RECTANGULARsDOTLESS HEAD OF KHAHsMEEM ISOLATED FORM",
      "nLOW SEENnHIGH MADDAnWAWnYEHn.dHIGH sNOONhPLACE OF SAJDAHhEMPTY CENTRE LOW STOPu.fHIGH",
      "hROUNDED HIGH STOP WITH FILLED CENTREhSMALL LOW MEEMhLETTER DAL WITH INVERTED Vo.qREH",
      "aEXTENDED ARABIC-INDIC DIGIT ZEROzdONEzdTWOzeHREEzdFOURzeIVEzdSIXzeEVENzdEIGHTzdNINE",
      "aARABIC LETTER SHEEN WITH DOT BELOWo.pDADo.pGHAINhSIGN SINDHI AMPERSANDtPOSTPOSITION MEN",
      "hLETTER HEH WITH INVERTED VaSYRIAC END OF PARAGRAPHhSUPRALINEAR FULL STOPj.qB",
      "jPRALINEAR COLONj.mBh.gHORIZONTALhCOLON SKEWED LEFTuRIGHThSUPRALINEAR COLON SKEWED LEFT",
      "jBLINEAR COLON SKEWED RIGHThCONTRACTIONhHARKLEAN OBELUSq.gMETqASTERISCUS"]),
    (0x70f, ["hABBREVIATION MARKhLETTER ALAPHo.fSUPERSCRIPT oBETHoGAMALt GARSHUNIoDALATH",
      "pOTLESS DALATH RISHoHEoWAWoZAINoHETHo.dTs GARSHUNIoYUDHs HEoKAPHoLAMADHoMIMoNUNoSEMKATH",
      "o.hFINAL oEoPEoREVERSED PEoSADHEoQAPHoRISHoSHINoTAWoPERSIAN BHETHwGHAMALwDHALATH",
      "hPTHAHA ABOVEoBELOWoDOTTEDhZQAPHA ABOVEoBELOWoDOTTEDhRBASA ABOVEnBELOW",
      "hDOTTED ZLAMA HORIZONTALuANGULARhHBASA ABOVEnBELOWm-ESASA DOTTEDhESASA ABOVEnBELOWhRWAHA",
      "hFEMININE DOThQUSHSHAYAhRUKKAKHAhTWO VERTICAL DOTS ABOVEzBELOWiHREE DOTS ABOVEsBELOW",
      "hOBLIQUE LINE ABOVEuBELOWhMUSIChBARREKH"]),
    (0x74d, ["hLETTER SOGDIAN ZHAINwKHAPHwFE",
      "aARABIC LETTER BEH WITH THREE DOTS HORIZONTALLY BELOWxDOT BELOW AND THREE DOTS ABOVE",
      "xTHREE DOTS POINTING UPWARDS BELOWzzg AND TWO DOTS ABOVEy.gWO DOTS BELOW AND DOT",
      "xINVERTED SMALL V BELOWxSMALL VoHAH WITH TWO DOTS ABOVEyHREE DOTS POINTING UPWARDS BELOW",
      "oDAL WITH TWO DOTS VERTICALLY BELOW AND SMALL TAHxINVERTED SMALL V BELOWoREH WITH STROKE",
      "oSEEN WITH FOUR DOTS ABOVEo.lAIN WITH TWOy.hHREE DOTS POINTING DOWNWARD",
      "y.gWO DOTS VERTICALLYoFEH WITH TWO DOTS BELOWy.hHREE DOTS POINTING UPWARD",
      "oKEHEH WITH DOT ABOVEz.gTHREE DOTSzlPOINTING UPWARDS BELOWoMEEM WITH DOT ABOVEzdBELOW",
      "o.gNOON WITH TWO DOTSySMALL TAHzfVoLAM WITH BARoREH WITH TWO DOTS VERTICALLY ABOVE",
      "x.gHAMZAo.gSEEN WITH TWO DOTS VERTICALLYoHAH WITH SMALL ARABIC LETTER TAH BELOW",
      "zwAND TWO DOTSo.zrSEENo.zrREHoHAH WITH SMALL ARABIC LETTER TAH ABOVE",
      "o.gALEF WITH EXTENDED ARABIC-INDIC DIGIT TWOzzd.gHREE",
      "o.gFARSI YEH WITH EXTENDED ARABIC-INDIC DIGIT TWOzzi.gHREEzzhFOUR BELOW",
      "oWAW WITH EXTENDED ARABIC-INDIC DIGIT TWO ABOVEzzc.gHREE",
      "o.gYEH BARREE WITH EXTENDED ARABIC-INDIC DIGIT TWOzzj.gHREE",
      "oHAH WITH EXTENDED ARABIC-INDIC DIGIT FOUR BELOW",
      "oSEEN WITH EXTENDED ARABIC-INDIC DIGIT FOUR ABOVEyINVERTED VoKAF WITH TWO DOTS ABOVE",
      "aTHAANA LETTER HAAoSHAVIYANIoNOONUoRAAoBAAoLHAVIYANIoKAAFUoALIFUoVAAVUoMEEMUoFAAFUoDHAALU",
      "oTHAAoLAAMUoGAAFUpNAVIYANIoSEENUoDAVIYANIo.hZo.hToYAAoPAVIYANIo.hJo.hCHoTTAAoHHAAo.dK",
      "oTHAALUoZAAoSHEENUpAADHUo.fDoTOoZOoAINUo.eGHoQAAFUoWAAVUhABAFILIi.fABAh.eIBIh.eEEBEE",
      "h.eUBUh.eOOBOOh.eEBEi.eYBEYh.eOBOi.eABOAhSUKUNhLETTER NAA"]),
    (0x7c0, ["aNKO DIGIT ZEROkONEkTWOlHREEkFOURlIVEkSIXlEVENkEIGHTkNINEeLETTER AlEElIlElUlOOlO",
      "lDAGBASINNAlNlBAlPAlTAlJAlCHAlDAlRAmRAlSAlGBAlFAlKAlLAlNA WOLOSOlMAlNYAmAlHAlWAlYA",
      "lNYA WOLOSOlJONA JAqCHAqRAeCOMBINING SHORT HIGH TONEu.fLOWu.fRISINGo.iLONG DESCENDt.fHIGH",
      "t.fLOWt.fRISINGoNASALIZATION MARKoDOUBLE DOT ABOVEeHIGH TONE APOSTROPHEe.qLOW",
      "eSYMBOL OO DENNENl.dGBAKURUeCOMMAeEXCLAMATION MARKeLAJANYALAN"]),
    (0x7fd, ["e.fDANTAfOROME SIGNe.fTAMANaSAMARITAN LETTER ALAFrBITrGAMANrDALATrIYrBAArZENrIT",
      "rTITrYUTrKAAFrLABATrMIMrNUNrSINGAATrINrFIrTSAADIYrQUFrRISHrSHANrTAAFkMARK INr-ALAF",
      "pOCCLUSIONpDAGESHlODIFIER LETTER EPENTHETIC YUTl.pARKkVOWEL SIGN LONG EvEvOVERLONG AAv.gL",
      "vAAvOVERLONG Av.fLvAkMODIFIER LETTER SHORT Ak.iVOWEL SIGNvLONG UvUkMODIFIER LETTER I",
      "kVOWEL SIGN LONG IvIvOvSUKUNkMARK NEQUDAA"]),
    (0x830, ["k.iPUNCTUATIONwAFSAAQxNGEDwBAUwATMAAUwSHIYYAALAAkABBREVIATION MARK",
      "kPUNCTUATION MELODIC QITSAwZIQAAwQITSAwZAEFwTURUwARKAANUwSOF MASHFAATwANNAAU"]),
    (0x840, ["aMANDAIC LETTER HALQApABqGqDqHpUSHENNApAZpITpATTqKSAqKqLqMqNqSpINpAPqSZqQqRqSHqT",
      "pDUSHENNApKADpAINiAFFRICATION MARKi.kVOCALIZi.kGEMIN"]),
    (0x85e, ["iPUNCTUATION"]),
    (0x860, ["aSYRIAC LETTER MALAYALAM NGAyJAyNYAyTTAyNNAzbNAyBHAyRAyLLAzbLAySSA"]),
    (0x870, ["aARABIC LETTER ALEF WITH ATTACHED FATHAzi.fTOP RIGHT yRIGHT MIDDLE STROKEy.pLEF",
      "yATTACHED KASRAzi.fBOTTOM RIGHT ziROUND DOT ABOVEzjIGHT ROUND DOTzi.lLEFziROUND DOT BELOW",
      "yDOT ABOVEy.jATTACHED TOP RIGHT FATHA AND y.oRIGHT MIDDLE STROKE",
      "y.oATTACHED BOTTOM RIGHT KASRAziTOP RIGHT FATHA AND LEFT RINGy.oRIGHT MIDDLE STROKE",
      "y.oATTACHED BOTTOM RIGHT KASRAziRIGHT HAMZAzi.hLEFh.gTATWEEL WITH OVERSTRUCKzgWAW",
      "uTWO DOTS BELOWhLETTER THIN YEHhBASELINE ROUND DOTh.kRAISED",
      "hLETTER NOON WITH INVERTED SMALL VoHAH WITH INVERTED SMALL V BELOWo.gTAH WITH DOT",
      "x.gTHREE DOTSo.gKEHEH WITH TWO DOTS VERTICALLYhVERTICAL TAIL"]),
    (0x890, ["hPOUND MARK ABOVEi.lIASTRE"]),
    (0x898, ["hSMALL HIGH WORD AL-JUZnLOW WORD ISHMAAMxMAALAwTASHEELhMADDA WAAJIB",
      "hSUPERSCRIPT ALEF MOKHASSAShDOUBLED MADDAh.gHALF MADDA OVERhLETTER BEH WITH SMALL V BELOW",
      "xHAMZA ABOVEo.gJEEM WITH TWO DOTSo.uTAHo.lFEH WITH DOT BELOW AND THREEoQAF WITH DOT BELOW",
      "oLAM WITH DOUBLE BARoMEEM WITH THREE DOTS ABOVEo.gYEH WITH TWO DOTS BELOW AND HAMZA",
      "zr.gDOToREH WITH LOOPoWAW WITH DOT WITHINoROHINGYA YEHoLOW ALEFoDAL WITH THREE DOTS BELOW",
      "o.wSADoGAF WITH INVERTED STROKEoSTRAIGHT WAWoZAIN WITH INVERTED V ABOVE",
      "oAIN WITH THREE DOTS BELOWo.gKAF WITH DOToQAF WITH DOT BELOW AND NO DOTS ABOVE",
      "o.gBEH WITH SMALL MEEMo.yPo.gTEH WITH SMALL TEHo.gREH WITH SMALL NOON",
      "o.rYEH WITH TWO DOTS BELOW ANDoAFRICAN FEHwQAFwNOONoPEH WITH SMALL Vo.pTp.pTp.pCHo.qKE",
      "oGHAIN WITH THREE DOTS ABOVEo.wAFRICAN QAFo.wJEEMzkBELOW",
      "oLAM WITH SMALL ARABIC LETTER TAH ABOVEoGRAFhSMALL FARSI YEHn.jHIGH ",
      "sYEH BARREE WITH TWO DOTS BELOWsWORD SAHsZAHhLARGE ROUND DOT ABOVExBELOWh.gSUKUN",
      "h.gLARGE CIRCLEn.mROUND DOT INSIDE hSMALL LOW WAWnHIGH WORD AR-RUBsSADsAINsQAF",
      "sNOON WITH KASRAn.qLOWnHIGH WORD ATH-THALATHAyS-SAJDAyN-NISFxSAKTAxQIFxWAQFA",
      "sFOOTNOTE MARKERsSIGN SAFHAhDISPUTED END OF AYAHhTURNED DAMMA BELOWhCURLY FATHAnDAMMA",
      "nKASRAnFATHATANn.eDAMMn.eKASRhTONE ONE DOT ABOVEm.gTWO DOTSm.gLOOPmONE DOT BELOW",
      "m.gTWO DOTSm.gLOOPhOPEN FATHATANm.eDAMMm.eKASRhSMALL HIGH WAWhFATHA WITH RINGsDOT ABOVE",
      "hKASRA WITH DOT BELOWhLEFT ARROWHEAD ABOVEh.rRIGHhLEFT ARROWHEAD BELOWh.rRIGH",
      "hDOUBLE RIGHT ARROWHEAD ABOVEzk WITH DOTh.zeRh.jDAMMAhMARK SIDEWAYS NOON GHUNNA",
      "aDEVANAGARI SIGN INVERTED CANDRABINDUq.kCqANUSVARAqVISARGAlLETTER SHORT AsAtAsItIsUtU",
      "sVOCALIC RzbLsCANDRA EsSHORT EsEsAIsCANDRA OsSHORT OsOsAUsKAtHAsGAtHAsNGAsCAtHAsJAtHAsNYA",
      "sTTAuHAsDDAuHAsNNAsTAtHAsDAtHAsNAtNNAsPAtHAsBAtHAsMAsYAsRAtRAsLAtLAuLAsVAsSHAtSAtAsHA",
      "lVOWEL SIGN OExOElSIGN NUKTAqAVAGRAHAlVOWEL SIGN AAwIxIwUxUwVOCALIC RzgRwCANDRA EwSHORT E",
      "wEwAIwCANDRA OwSHORT OwOwAUlSIGN VIRAMAlVOWEL SIGN PRISHTHAMATRA EwAWlOM",
      "lSTRESS SIGN UDATTAx.gANlGRAVE ACCENTl.iACUTlVOWEL SIGN CANDRA LONG EwUExUElLETTER QA",
      "sKHHAs.dGsZAsDDDHAsRHAsFAsYYAsVOCALIC RRzbLLlVOWEL SIGN VOCALIC LzgLlDANDAm.eOUBLE D",
      "mIGIT ZEROrONErTWOsHREErFOURsIVErSIXsEVENrEIGHTrNINElABBREVIATION SIGN",
      "lSIGN HIGH SPACING DOTlLETTER CANDRA AsOEtOEsAWsUEtUEsMARWARI DDAsZHAsHEAVY YAsGGAsJJA",
      "sGLOTTAL STOPsDDDAsBBAaBENGALI ANJIiSIGN CANDRABINDUnANUSVARAnVISARGA"]),
    (0x985, ["iLETTER AqApIqIpUqUpVOCALIC RxL"]), (0x98f, ["pEpAI"]),
    (0x993, ["pOpAUpKAqHApGAqHApNGApCAqHApJAqHApNYApTTArHApDDArHApNNApTAqHApDAqHApNA"]),
    (0x9aa, ["pPAqHApBAqHApMApYApRA"]), (0x9b2, ["pLA"]), (0x9b6, ["pSHAqSAqApHA"]),
    (0x9bc, ["iSIGN NUKTAnAVAGRAHAiVOWEL SIGN AAtIuItUuUtVOCALIC RzdR"]), (0x9c7, ["tEtAI"]),
    (0x9cb, ["tOtAUiSIGN VIRAMAiLETTER KHANDA TA"]), (0x9d7, ["iAU LENGTH MARK"]),
    (0x9dc, ["iLETTER RRAqHA"]), (0x9df, ["pYYApVOCALIC RRxLLiVOWEL SIGN VOCALIC LzdL"]),
    (0x9e6, ["iDIGIT ZEROoONEoTWOpHREEoFOURpIVEoSIXpEVENoEIGHToNINE",
      "iLETTER RA WITH MIDDLE DIAGONALx.jLOWERiRUPEE MARKoSIGNiCURRENCY NUMERATOR ONEzcTWOzdHREE",
      "zcFOURzcONE LESS THAN THE DENOMINATORrDENOMINATOR SIXTEENiISSHARiGANDA MARK",
      "iLETTER VEDIC ANUSVARAiABBREVIATION SIGNiSANDHI MARK"]),
    (0xa01, ["aGURMUKHI SIGN ADAK BINDIo.eBoVISARGA"]), (0xa05, ["jLETTER ArAqIrIqUrU"]),
    (0xa0f, ["qEEqAI"]),
    (0xa13, ["qOOqAUqKArHAqGArHAqNGAqCArHAqJArHAqNYAqTTAsHAqDDAsHAqNNAqTArHAqDArHAqNA"]),
    (0xa2a, ["qPArHAqBArHAqMAqYAqRA"]), (0xa32, ["qLArLA"]), (0xa35, ["qVAqSHA"]),
    (0xa38, ["rAqHA"]), (0xa3c, ["jSIGN NUKTA"]), (0xa3e, ["jVOWEL SIGN AAuIvIuUvU"]),
    (0xa47, ["uEEuAI"]), (0xa4b, ["uOOuAUjSIGN VIRAMA"]), (0xa51, ["oUDAAT"]),
    (0xa59, ["jLETTER KHHAq.dGqZAqRRA"]), (0xa5e, ["qFA"]),
    (0xa66, ["jDIGIT ZEROpONEpTWOqHREEpFOURqIVEpSIXqEVENpEIGHTpNINEjTIPPIjADDAKjIRIjURAjEK ONKAR",
      "jSIGN YAKASHjABBREVIATION SIGN"]),
    (0xa81, ["cJARATI SIGN CANDRABINDUoANUSVARAoVISARGA"]),
    (0xa85, ["jLETTER ArAqIrIqUrUqVOCALIC RyLjVOWEL CANDRA E"]),
    (0xa8f, ["jLETTER EqAIjVOWEL CANDRA O"]),
    (0xa93, ["jLETTER OqAUqKArHAqGArHAqNGAqCArHAqJArHAqNYAqTTAsHAqDDAsHAqNNAqTArHAqDArHAqNA"]),
    (0xaaa, ["qPArHAqBArHAqMAqYAqRA"]), (0xab2, ["qLArLA"]), (0xab5, ["qVAqSHArSArAqHA"]),
    (0xabc, ["jSIGN NUKTAoAVAGRAHAjVOWEL SIGN AAuIvIuUvUuVOCALIC RzeRuCANDRA E"]),
    (0xac7, ["uEuAIuCANDRA O"]), (0xacb, ["uOuAUjSIGN VIRAMA"]), (0xad0, ["jOM"]),
    (0xae0, ["jLETTER VOCALIC RRyLLjVOWEL SIGN VOCALIC LzeL"]),
    (0xae6, ["jDIGIT ZEROpONEpTWOqHREEpFOURqIVEpSIXqEVENpEIGHTpNINEjABBREVIATION SIGNj.fRUPEE"]),
    (0xaf9, ["jLETTER ZHAjSIGN SUKUNpHADDAoMADDAHoTHREE-DOT NUKTA ABOVEo.mCIRCLEo.sTWO-"])]

/-- Names from U+0B00 on. -/
def namesFromb00 : List (Nat × List String) := [
    (0xb01, ["aORIYA SIGN CANDRABINDUlANUSVARAlVISARGA"]),
    (0xb05, ["gLETTER AoAnIoInUoUnVOCALIC RvL"]), (0xb0f, ["nEnAI"]),
    (0xb13, ["nOnAUnKAoHAnGAoHAnNGAnCAoHAnJAoHAnNYAnTTApHAnDDApHAnNNAnTAoHAnDAoHAnNA"]),
    (0xb2a, ["nPAoHAnBAoHAnMAnYAnRA"]), (0xb32, ["nLAoLA"]), (0xb35, ["nVAnSHAoSAoAnHA"]),
    (0xb3c, ["gSIGN NUKTAlAVAGRAHAgVOWEL SIGN AArIsIrUsUrVOCALIC RzbR"]), (0xb47, ["rErAI"]),
    (0xb4b, ["rOrAUgSIGN VIRAMA"]), (0xb55, ["lOVERLINEgAI LENGTH MARKh.mU"]),
    (0xb5c, ["gLETTER RRAoHA"]), (0xb5f, ["nYYAnVOCALIC RRvLLgVOWEL SIGN VOCALIC LzbL"]),
    (0xb66, ["gDIGIT ZEROmONEmTWOnHREEmFOURnIVEmSIXnEVENmEIGHTmNINEgISSHARgLETTER WA",
      "gFRACTION ONE QUARTERtHALFpTHREE QUARTERSpONE SIXTEENTHtEIGHTHpTHREE SIXTEENTHS"]),
    (0xb82, ["aTAMIL SIGN ANUSVARAlVISARGA"]), (0xb85, ["gLETTER AoAnIoInUoU"]),
    (0xb8e, ["nEoEnAI"]), (0xb92, ["nOoOnAUnKA"]), (0xb99, ["nNGAnCA"]), (0xb9c, ["nJA"]),
    (0xb9e, ["nNYAnTTA"]), (0xba3, ["nNNAnTA"]), (0xba8, ["nNAoNNAnPA"]),
    (0xbae, ["nMAnYAnRAoRAnLAoLApLAnVAnSHAoSAoAnHA"]), (0xbbe, ["gVOWEL SIGN AArIsIrUsU"]),
    (0xbc6, ["rEsErAI"]), (0xbca, ["rOsOrAUgSIGN VIRAMA"]), (0xbd0, ["gOM"]),
    (0xbd7, ["gAU LENGTH MARK"]),
    (0xbe6, ["gDIGIT ZEROmONEmTWOnHREEmFOURnIVEmSIXnEVENmEIGHTmNINEgNUMBER TENnONE HUNDRED",
      "rTHOUSANDgDAY SIGNg.fMONTHg.fYEARg.fDEBITg.hCREDg.fAS ABOVEg.gRUPEg.fNUMBER"]),
    (0xc00, ["bELUGU SIGN COMBINING CANDRABINDU ABOVEnANDRABINDUmANUSVARAmVISARGA",
      "mCOMBINING ANUSVARA ABOVEhLETTER ApAoIpIoUpUoVOCALIC RwL"]),
    (0xc0e, ["oEpEoAI"]),
    (0xc12, ["oOpOoAUoKApHAoGApHAoNGAoCApHAoJApHAoNYAoTTAqHAoDDAqHAoNNAoTApHAoDApHAoNA"]),
    (0xc2a, ["oPApHAoBApHAoMAoYAoRApRAoLApLAqLAoVAoSHApSApAoHA"]),
    (0xc3c, ["hSIGN NUKTAmAVAGRAHAhVOWEL SIGN AAsItIsUtUsVOCALIC RzcR"]), (0xc46, ["sEtEsAI"]),
    (0xc4a, ["sOtOsAUhSIGN VIRAMA"]), (0xc55, ["hLENGTH MARKh.lAI "]),
    (0xc58, ["hLETTER TSAoDZAoRRRA"]), (0xc5d, ["oNAKAARA POLLU"]),
    (0xc60, ["oVOCALIC RRwLLhVOWEL SIGN VOCALIC LzcL"]),
    (0xc66, ["hDIGIT ZEROnONEnTWOoHREEnFOURoIVEnSIXoEVENnEIGHTnNINE"]),
    (0xc77, ["hSIGN SIDDHAMhFRACTION DIGIT ZERO FOR ODD POWERS OF FOURw.xONEw.xTWOx.xHREE",
      "w.pONE FOR EVENw.yTWOx.yHREEhSIGN TUUMUaKANNADA SIGN SPACING CANDRABINDUn.kCnANUSVARA",
      "nVISARGAnSIDDHAMiLETTER AqApIqIpUqUpVOCALIC RxL"]),
    (0xc8e, ["pEqEpAI"]),
    (0xc92, ["pOqOpAUpKAqHApGAqHApNGApCAqHApJAqHApNYApTTArHApDDArHApNNApTAqHApDAqHApNA"]),
    (0xcaa, ["pPAqHApBAqHApMApYApRAqRApLAqLA"]), (0xcb5, ["pVApSHAqSAqApHA"]),
    (0xcbc, ["iSIGN NUKTAnAVAGRAHAiVOWEL SIGN AAtIuItUuUtVOCALIC RzdR"]), (0xcc6, ["tEuEtAI"]),
    (0xcca, ["tOuOtAUiSIGN VIRAMA"]), (0xcd5, ["iLENGTH MARKi.lAI "]),
    (0xcdd, ["iLETTER NAKAARA POLLUpFA"]), (0xce0, ["pVOCALIC RRxLLiVOWEL SIGN VOCALIC LzdL"]),
    (0xce6, ["iDIGIT ZEROoONEoTWOpHREEoFOURpIVEoSIXpEVENoEIGHToNINE"]),
    (0xcf1, ["iSIGN JIHVAMULIYAn.dUPADHMAN"]),
    (0xd00, ["aMALAYALAM SIGN COMBINING ANUSVARA ABOVEqANDRABINDUpANUSVARApVISARGA",
      "kLETTER VEDIC ANUSVARArAsArIsIrUsUrVOCALIC RzL"]),
    (0xd0e, ["rEsErAI"]),
    (0xd12, ["rOsOrAUrKAsHArGAsHArNGArCAsHArJAsHArNYArTTAtHArDDAtHArNNArTAsHArDAsHArNAsNNArPAsHA",
      "rBAsHArMArYArRAsRArLAsLAtLArVArSHAsSAsArHArTTTAkSIGN VERTICAL BAR VIRAMAp.jCIRCUL",
      "pAVAGRAHAkVOWEL SIGN AAvIwIvUwUvVOCALIC RzfR"]),
    (0xd46, ["vEwEvAI"]), (0xd4a, ["vOwOvAUkSIGN VIRAMAkLETTER DOT REPHkSIGN PARA"]),
    (0xd54, ["kLETTER CHILLU MyYyLLLkAU LENGTH MARKkFRACTION ONE ONE-HUNDRED-AND-SIXTIETHx.fFOR",
      "tTHREE EIGHTIETHStONE TWENTIETHyENTHtTHREE TWENTIETHStONE FIFTHkLETTER ARCHAIC II",
      "rVOCALIC RRzLLkVOWEL SIGN VOCALIC LzfL"]),
    (0xd66, ["kDIGIT ZEROqONEqTWOrHREEqFOURrIVEqSIXrEVENqEIGHTqNINEkNUMBER TENrONE HUNDRED",
      "vTHOUSANDkFRACTION ONE QUARTERxHALFtTHREE QUARTERStONE SIXTEENTHxEIGHTHtTHREE SIXTEENTHS",
      "kDATE MARKkLETTER CHILLU NNyNyRRyLzLyK"]),
    (0xd81, ["aSINHALA SIGN CANDRABINDUnANUSVARAYAn.dVISARG"]),
    (0xd85, ["iLETTER AYANNAq.fAq.fEr.fEp.fIq.fIp.fUq.fUp.gIRs.fUq.gLs.fUp.fEq.fEp.fAIp.fOq.fO",
      "p.fAU"]),
    (0xd9a, ["q.fLPAPRAANA KAp.pMAHAp.gALPAPRAANA Gp.pMAHApKANTAJA NAASIKYAYApSANYAKA GAYANNA",
      "p.gALPAPRAANA Cp.pMAHAp.gALPAPRAANA Jp.pMAHApTAALUJA NAASIKYAYAx.hSANYOOGA NAAK",
      "pSANYAKA JAYANNAp.gALPAPRAANA TTp.qMAHAp.gALPAPRAANA DDp.qMAHAq.gUURDHAJA Np.gSANYAKA DD",
      "p.gALPAPRAANA Tp.pMAHAp.gALPAPRAANA Dp.pMAHAp.gDANTAJA N"]),
    (0xdb3, ["p.gSANYAKA Dp.gALPAPRAANA Pp.pMAHAp.gALPAPRAANA Bp.pMAHAr.eYp.gAMBA Bp.gYp.gR"]),
    (0xdbd, ["p.gDANTAJA L"]), (0xdc0, ["p.gVp.gTAALUJA Sp.kMUURDHAp.lDANTp.gHp.gMUURDHAJA Lp.gF"]),
    (0xdca, ["iSIGN AL-LAKUNA"]),
    (0xdcf, ["iVOWEL SIGN AELA-PILLAt.hKETTI AEDt.lDIGAt.gKETTI ISt.jDIGAt.gKETTI PAA"]),
    (0xdd6, ["t.kDIGA"]),
    (0xdd8, ["t.hGAETTtKOMBUVAt.hDIGA tKOMBU DEKAyVA HAA AELA-PILLAzg.kDIGA zgGAYANUKITTAt.kG"]),
    (0xde6, ["iLITH DIGIT ZEROtONEtTWOuHREEtFOURuIVEtSIXuEVENtEIGHTtNINE"]),
    (0xdf2, ["iVOWEL SIGN DIGA GAETTA-PILLAzbYANUKITTAiPUNCTUATION KUNDDALIYA"]),
    (0xe01, ["aTHAI CHARACTER KO KAIqHO KHAIvUATvWAIvONtRAKHANGpNGO NGUpCHO CHANvINGvANGpSO SO",
      "pCHO CHOEpYO YINGpDO CHADApTO PATAKqHO THANtNANGMONTHOtPHUTHAOpNO NENpDO DEKpTO TAO",
      "qHO THUNGvAHANvONGpNO NUpBO BAIMAIpPO PLAqHO PHUNGpFO FApPHO PHANpFO FANpPHO SAMPHAO",
      "pMO MApYO YAKpRO RUAqUpLO LINGqUpWO WAENpSO SALAsRUSIsSUApHO HIPpLO CHULApO ANGpHO NOKHUK",
      "pPAIYANNOIpSARA ApMAI HAN-AKATpSARA AAvMuIvIuUEwEuUvUpPHINTHU"]),
    (0xe3f, ["gURRENCY SYMBOL BAHTgHARACTER SARA EuAEuOuAI MAIMUANzcALAIpLAKKHANGYAOpMAIYAMOK",
      "sTAIKHUs EKtTHOuRItCHATTAWApTHANTHAKHATpNIKHAHITpYAMAKKANpFONGMANfDIGIT ZEROlONElTWOmHREE",
      "lFOURmIVElSIXmEVENlEIGHTlNINEfCHARACTER ANGKHANKHUpKHOMUT"]),
    (0xe81, ["aLAO LETTER KOmHO SUNG"]), (0xe84, ["pTAM"]),
    (0xe86, ["lPALI GHAlNGOlCOlPALI CHAlSO TAM"]),
    (0xe8c, ["lPALI JHAlNYOlPALI NYAqTTAsHAqDDAsHAqNNAlDOlTOmHO SUNGpTAMlPALI DHAlNOlBOlPO",
      "mHO SUNGlFO TAMl.fPHlFO SUNGlPALI BHAlMOlYOlLO LING"]),
    (0xea5, ["pOOT"]),
    (0xea7, ["lWOlSANSKRIT SHAvSAmO SUNGl.gHlPALI LLAlOlHO TAMeELLIPSISeVOWEL SIGN ApMAI KANpAA",
      "qMpIqIpYqYpUqUeSIGN PALI VIRAMAeVOWEL SIGN MAI KONeSEMIVOWEL SIGN LOtNYO"]),
    (0xec0, ["eVOWEL SIGN EqIpOpAYqI"]), (0xec6, ["eKO LA"]),
    (0xec8, ["eTONE MAI EKnTHOoInCATAWAeCANCELLATION MARKeNIGGAHITA"]),
    (0xed0, ["eDIGIT ZEROkONEkTWOlHREEkFOURlIVEkSIXlEVENkEIGHTkNINE"]),
    (0xedc, ["eHO NOhMOeLETTER KHMU GOqNYO"]),
    (0xf00, ["aTIBETAN SYLLABLE OMiMARK GTER YIG MGO TRUNCATED Azb-UM RNAM BCAD MAzf.dGTER TSHEG",
      "n.dINITIAL YIG MGO MDUNn.dCLOSING YIG MGO SGABo.dARET YIG MGO PHUR SHADn.iYIG MGO TSHEG",
      "nSBRUL SHADnBSKUR YIG MGOo.iKA- SHOGnINTERSYLLABIC TSHEGnDELIMITER TSHEG BSTARnSHAD",
      "n.eNYIS n.fTSHEGn.kNYIS n.fRIN CHEN SPUNGSo.fGYA GRAMnCARET -DZUD RTAGS ME LONG CAN",
      "nGTER TSHEGiLOGOTYPE SIGN CHAD RTAGSw.gLHAGi.gASTROLOGICAL SIGN SGRA GCAN -CHAR",
      "zb-KHYUD PAzbSDONG TSHUGSiSIGN RDEL DKAR GCIGyNYISySUMsNAG GCIGxNYISsDKAR RDEL NAG",
      "iDIGIT ZEROoONEoTWOpHREEoFOURpIVEoSIXpEVENoEIGHToNINEoHALF ONEtTWOuHREEtFOURuIVEtSIXuEVEN",
      "tEIGHTtNINEtZEROiMARK BSDUS RTAGSnNGAS BZUNG NYI ZLAnCARET -DZUD RTAGS BZHI MIG CAN",
      "nNGAS BZUNG SGOR RTAGSnCHE MGOnTSA -PHRUnGUG RTAGS GYONzASnANG KHANG GYONzAS",
      "iSIGN YAR TSHESn.iMiLETTER KAqHApGAqHApNGApCAqHApJA"]),
    (0xf49, ["pNYApTTArHApDDArHApNNApTAqHApDAqHApNApPAqHApBAqHApMApTSArHApDZArHApWApZHAqAp-ApYA",
      "pRApLApSHAqSAqApHApApKSSApFIXED-FORM RApKKApRRA"]),
    (0xf71, ["iVOWEL SIGN AAtIuItUuUtVOCALIC RzdRzcLzdLtEuEtOuOiSIGN RJES SU NGA ROoNAM BCAD",
      "iVOWEL SIGN REVERSED IzeIiSIGN NYI ZLA NAA DAnSNA LDANiMARK HALANTAnPALUTAiSIGN LCI RTAGS",
      "n.gYANGnLCE TSA CANn.eMCHUnGRU CAN RGYINGSr.iMEDnINVERTED MCHU CAN",
      "j.eUBJOINED SIGN LCE TSAx.eMCHUx.iINVERTED sLETTER KAzbHAzGAzbHAzNGAzCAzbHAzJA"]),
    (0xf99, ["zNYAzTTAzcHAzDDAzcHAzNNAzTAzbHAzDAzbHAzNAzPAzbHAzBAzbHAzMAzTSAzcHAzDZAzcHAzWAzZHA",
      "zbAz-AzYAzRAzLAzSHAzbSAzbAzHAzAzKSSAzFIXED-FORM WAzlYAzlRA"]),
    (0xfbe, ["iKU RU KHAr BZHI MIG CANiCANTILLATION SIGN HEAVY BEATzb.fLIGHTzbCANG TE-U",
      "zbSBUB -CHALiSYMBOL DRIL BUpRDO RJEpPADMA GDANpRDO RJE RGYA GRAMpPHUR PApNOR BU",
      "v NYIS -KHYILw.hGSUMw.hBZHI"]),
    (0xfce, ["jIGN RDEL NAG RDEL DKARwGSUMiMARK BSKA- SHOG GI MGO RGYANn.oMNYAM YInNYIS TSHEG",
      "nINITIAL BRDA RNYING YIG MGO MDUN MAn.dCLOSING BRDA RNYING YIG MGO SGAB",
      "aRIGHT-FACING SVASTI SIGNa.uLEFaRIGHT-FACING SVASTI SIGN WITH DOTSa.zfLEF",
      "aTIBETAN MARK LEADING MCHAN RTAGSn.pTRAIL"]),
    (0x1000, ["aMYANMAR LETTER KAqHApGAqHApNGApCAqHApJAqHApNYAqNYApTTArHApDDArHApNNApTAqHApDAqHA",
      "pNApPAqHApBAqHApMApYApRApLApWApSApHApLLApApSHAN ApIqIpUqUpEpMON EpOpAUiVOWEL SIGN TALL AA",
      "tAAtIuItUuUtEtAItMON IIxOtE ABOVEiSIGN ANUSVARAnDOT BELOWnVISARGApRAMAnASAT",
      "iCONSONANT SIGN MEDIAL YAzfRAzfWAzfHAiLETTER GREAT SAiDIGIT ZEROoONEoTWOpHREEoFOURpIVE",
      "oSIXpEVENoEIGHToNINEiSIGN LITTLE SECTIONn.gSjYMBOL LOCATIVEpCOMPLETEDpAFOREMENTIONED",
      "pGENITIVEiLETTER SHAqSApVOCALIC RyRxLyLiVOWEL SIGN VOCALIC RzdRzcLzdLiLETTER MON NGAtJHA",
      "tBBAvEiCONSONANT SIGN MON MEDIAL NAzjMAzjLAiLETTER SGAW KAREN SHA",
      "iVOWEL SIGN SGAW KAREN EUiTONE MARK SGAW KAREN HATHIzeKE PHOiLETTER WESTERN PWO KAREN THA",
      "ziPWAiVOWEL SIGN WESTERN PWO KAREN EUzmUEiSIGN WESTERN PWO KAREN TONE-1zl2zl3zl4zl5",
      "iLETTER EASTERN PWO KAREN NNAziYWAziGHWAiVOWEL SIGN GEBA KAREN ItKAYAH OEzUzEE",
      "iLETTER SHAN KAvHAuGAuCAuZAuNYAuDAuNAuPHAuFAuBAuTHAuHAiCONSONANT SIGN SHAN MEDIAL WA",
      "iVOWEL SIGN SHAN AAyEz ABOVEyFINAL YiSIGN SHAN TONE-2x3x5x6sCOUNCIL TONE-2zg3",
      "zbEMPHATIC TONEiLETTER RUMAI PALAUNG FAiSIGN RUMAI PALAUNG TONE-5jHAN DIGIT ZEROtONEtTWO",
      "uHREEtFOURuIVEtSIXuEVENtEIGHTtNINEjIGN KHAMTI TONE-1z3iVOWEL SIGN AITON AzbI",
      "iSYMBOL SHAN ONEuEXCLAMATIONaGEORGIAN CAPITAL LETTER ANyBANyGANyDONyENyVINyZENyTANyINyKAN",
      "yLASyMANyNARyONyPARyZHARyRAEySANyTARyUNyPHARy.dKyGHANyQARySHINy.dCzANyJILyCILzHARyXAN",
      "yJHANyHAEzEzIEyWEyHARzOE"]),
    (0x10c7, ["yYN"]), (0x10cd, ["yAEN"]),
    (0x10d0, ["jLETTER ANqBANqGANqDONqENqVINqZENqTANqINqKANqLASqMANqNARqONqPARqZHARqRAEqSANqTAR",
      "qUNqPHARq.dKqGHANqQARqSHINq.dCrANqJILqCILrHARqXANqJHANqHAErErIEqWEqHARrOEqFIqYNqELIFI",
      "qTURNED GANqAINjPARAGRAPH SEPARATORaMODIFIER LETTER GEORGIAN NARaGEORGIAN LETTER AEN",
      "qHARD SIGNq.fLABIALaHANGUL CHOSEONG KIYEOKq.gSSANGqNIEUNqTIKEUTq.gSSANGqRIEULqMIEUMqPIEUP",
      "q.fSSANGrIOSr.dSANGSqIEUNGqCIEUCq.fSSANGqCHIEUCHqKHIEUKHqTHIEUTHqPHIEUPHqHIEUH",
      "qNIEUN-KIYEOKqSSANGNIEUNqNIEUN-TIKEUTwPIEUPqTIKEUT-KIYEOKqRIEUL-NIEUNqSSANGRIEUL",
      "qRIEUL-HIEUHqKAPYEOUNRIEULqMIEUM-PIEUPqKAPYEOUNMIEUMqPIEUP-KIYEOKwNIEUNwTIKEUTwSIOS",
      "zb-KIYEOKzcTIKEUTzcPIEUPxSANGSIOSxIOS-CIEUCw.eCxHIEUCHwTHIEUTHwPHIEUPHqKAPYEOUNPIEUP",
      "y.fSSANGqSIOS-KIYEOKvNIEUNvTIKEUTvRIEULvMIEUMvPIEUPzb-KIYEOKvSSANGSIOSvIEUNGvCIEUCwHIEUCH",
      "vKHIEUKHvTHIEUTHvPHIEUPHvHIEUHqCHITUEUMSIOSz.dSANGSr.eEONGCHIEUMzd.dSANGSq.ePAN",
      "qIEUNG-KIYEOKwTIKEUTwMIEUMwPIEUPwSIOSw.ePANqSSANGIEUNGqIEUNG-CIEUCxHIEUCHwTHIEUTHwPHIEUPH",
      "qYESIEUNGq.fCIEUC-rHITUEUMCIEUCy.fSSANGr.fEONGCHIEUMzc.fSSANGrHIEUCH-KHIEUKHyHIEUH",
      "tTUEUMCHIEUCHr.kEONGCHIqPHIEUPH-PIEUPqKAPYEOUNPHIEUPHqSSANGHIEUHq.fYEORINqKIYEOK-TIKEUT",
      "qNIEUN-SIOSwCIEUCwHIEUHqTIKEUT-RIEULqFILLERh.mJUNGrAsErYAtErEOrErYEOsErOrWAtErOErYOrUrWEO",
      "sEsIrYUrEUrYIrIrA-OtUrYA-OuYOrEO-OuUuEUrYEO-OvUrO-EOtEtYEtOtUrYO-YAwEvEOuOuIrU-AuEtEO-EU",
      "tYEtUrYU-AuEOuEuYEOvEuUuIrEU-UuEUrYI-UrI-AtYAtOtUtEUtARAEAr.eAw-EOxUxIrSSANGARAEArA-EU",
      "rYA-UsEO-YAr.dOvEiONGSEONG KIYEOKr.gSSANGrKIYEOK-SIOSrNIEUNw-CIEUCxHIEUHrTIKEUTrRIEUL",
      "w-KIYEOKxMIEUMxPIEUPxSIOSxTHIEUTHxPHIEUPHxHIEUHrMIEUMrPIEUPw-SIOSr.dSs.dSANGSrIEUNGrCIEUC",
      "sHIEUCHrKHIEUKHrTHIEUTHrPHIEUPHrHIEUHrKIYEOK-RIEULySIOS-KIYEOKr.hNIEUNxTIKEUTxSIOSx.ePAN",
      "xTHIEUTHrTIKEUT-KIYEOKyRIEULrRIEUL-KIYEOK-SIOSxNIEUNxTIKEUTze-HIEUHrSSANGRIEUL",
      "rRIEUL-MIEUM-KIYEOKzeSIOSx.fPIEUPzeHIEUHxKAPYEOUNPIEUPxSSANGSIOSx.ePANxKHIEUKH",
      "xYEORINHIEUHrMIEUM-KIYEOKxRIEULxPIEUPxSIOSy.dSANGSx.ePANxCHIEUCHxHIEUHrKAPYEOUNMIEUM",
      "rPIEUP-RIEULxPHIEUPHxHIEUHrKAPYEOUNPIEUPrSIOS-KIYEOKwTIKEUTwRIEULwPIEUPrPANSIOS",
      "rIEUNG-KIYEOKx.gSSANGrSSANGIEUNGrIEUNG-KHIEUKHrYESIEUNGz-SIOSzb.ePANrPHIEUPH-PIEUP",
      "rKAPYEOUNPHIEUPHrHIEUH-NIEUNxRIEULxMIEUMxPIEUPrYEORINHIEUHrKIYEOK-NIEUNyPIEUPyCHIEUCH",
      "yKHIEUKHyHIEUHrSSANGNIEUNaETHIOPIC SYLLABLE HAtUtItAAtEEtEtOuAsLAtUtItAAtEEtEtOtWAsHHAuU",
      "uIuAAuEEuEuOuWAsMAtUtItAAtEEtEtOtWAsSZAuUuIuAAuEEuEuOuWAsRAtUtItAAtEEtEtOtWAsSAtUtItAAtEE",
      "tEtOtWAtHAuUuIuAAuEEuEuOuWAsQAtUtItAAtEEtEtOuAtWA"]),
    (0x124a, ["uIuAAuEEuE"]), (0x1250, ["tHAuUuIuAAuEEuEuO"]), (0x1258, ["uWA"]),
    (0x125a, ["vIvAAvEEvE"]),
    (0x1260, ["sBAtUtItAAtEEtEtOtWAsVAtUtItAAtEEtEtOtWAsTAtUtItAAtEEtEtOtWAsCAtUtItAAtEEtEtOtWA",
      "sXAtUtItAAtEEtEtOuAtWA"]),
    (0x128a, ["uIuAAuEEuE"]),
    (0x1290, ["sNAtUtItAAtEEtEtOtWAtYAuUuIuAAuEEuEuOuWAsGLOTTAL AzbUzbIzbAAzbEEzbEzbOzbWAsKAtUtI",
      "tAAtEEtEtOuAtWA"]),
    (0x12b2, ["uIuAAuEEuE"]), (0x12b8, ["tXAuUuIuAAuEEuEuO"]), (0x12c0, ["uWA"]),
    (0x12c2, ["vIvAAvEEvE"]), (0x12c8, ["sWAtUtItAAtEEtEtOuAsPHARYNGEAL AzeUzeIzeAAzeEEzeEzeO"]),
    (0x12d8, ["sZAtUtItAAtEEtEtOtWAtHAuUuIuAAuEEuEuOuWAsYAtUtItAAtEEtEtOuAsDAtUtItAAtEEtEtOtWA",
      "tDAuUuIuAAuEEuEuOuWAsJAtUtItAAtEEtEtOtWAsGAtUtItAAtEEtEtOuAtWA"]),
    (0x1312, ["uIuAAuEEuE"]),
    (0x1318, ["tGAuUuIuAAuEEuEuOuWAAsTHAuUuIuAAuEEuEuOuWAsCHAuUuIuAAuEEuEuOuWAsPHAuUuIuAAuEEuEuO",
      "uWAsTSAuUuIuAAuEEuEuOuWAtZAuUuIuAAuEEuEuOvAsFAtUtItAAtEEtEtOtWAsPAtUtItAAtEEtEtOtWAsRYA",
      "sMYAsFYA"]),
    (0x135d, ["jCOMBINING GEMINATION AND VOWEL LENGTH MARKt.qVt.fGEMINATIONj.jSECjWORDSPACE",
      "jFULL STOPjCOMMAjSEMICOLONj.eCj.fPREFACE jQUESTION MARKjPARAGRAPH SEPARATORjDIGIT ONEpTWO",
      "qHREEpFOURqIVEpSIXqEVENpEIGHTpNINEjNUMBER TENrWENTYrHIRTYq.dFOrIFTYqSIXTYrEVENTYqEIGHTY",
      "qNINETYqHUNDREDqTEN THOUSAND"]),
    (0x1380, ["jSYLLABLE SEBATBEIT MWAsMWIuEEuEsSEBATBEIT BWAsBWIuEEuEsSEBATBEIT FWAsFWIuEEuE",
      "sSEBATBEIT PWAsPWIuEEuEjTONAL MARK YIZETuDERETuRIKRIKu.gSHORT uDIFATuKENATuCHIRETuHIDET",
      "u.fDERET-uKURT"]),
    (0x13a0, ["aCHEROKEE LETTER AqEqIqOqUqVqGAqKAqGErIrOrUrVqHArErIrOrUrVqLArErIrOrUrVqMArErIrO",
      "rUqNAqHNAqNAHrErIrOrUrVqQUAsEsIsOsUsVqSAqSrErIrOrUrVqDAqTAqDEqTEqDIqTIqDOrUrVrLAqTLAsEsI",
      "sOsUsVrSAsEsIsOsUsVqWArErIrOrUrVqYArErIrOrUrVqMV"]),
    (0x13f8, ["jSMALL LETTER YExIxOxUxVwMV"]),
    (0x1400, ["bANADIAN SYLLABICS HYPHENtEtAAItIuItOuOtY-CREE OOtCARRIER EEzcItAuAtWEvST-CREE WE",
      "uIuEST-CREE WIuIIuEST-CREE WIIuOuEST-CREE WOuOOuEST-CREE WOOt.eNASKAPItWAuEST-CREE WAuAA",
      "uEST-CREE WAAt.eNASKAPItAItY-CREE WtGLOTTAL STOPtFINAL ACUTEzGRAVEzBOTTOM HALF RINGz.kTOP",
      "z.kRIGHTzcNGzDOUBLE ACUTEzhSHORT VERTICAL STROKESzMIDDLE DOTzSHORT HORIZONTAL STROKEzPLUS",
      "zDOWN TACKtENtINtONtANtPEuAAIuIvIuOvOt.dY-CREE tCARRIER HEEzdItPAvAuWEt.dWEST-CREE tPWI",
      "t.dWEST-CREE tPWIIt.eWEST-CREE tPWOt.dWEST-CREE tPWOOt.eWEST-CREE tPWAt.dWEST-CREE tPWAA",
      "t.eWEST-CREE t.kYtPtWEST-CREE PtCARRIER HtTEuAAIuIvIuOvOt.dY-CREE tCARRIER DEEzdItTAvAuWE",
      "t.dWEST-CREE tTWIt.dWEST-CREE tTWIIt.eWEST-CREE tTWOt.dWEST-CREE tTWOOt.eWEST-CREE tTWA",
      "t.dWEST-CREE tTWAAt.eWEST-CREE t.fNASKAPItTuTEvIvOvAtKEuAAIuIvIuOvOt.dY-CREE tKAvAuWE",
      "t.dWEST-CREE tKWIt.dWEST-CREE tKWIIt.eWEST-CREE tKWOt.dWEST-CREE tKWOOt.eWEST-CREE tKWA",
      "t.dWEST-CREE tKWAAt.eWEST-CREE t.fNASKAPItKuWtSOUTH-SLAVEY KEHziIHziOHziAHtCEuAAIuIvIuOvO",
      "t.dY-CREE tCAvAuWEt.dWEST-CREE tCWIt.dWEST-CREE tCWIIt.eWEST-CREE tCWOt.dWEST-CREE tCWOO",
      "t.eWEST-CREE tCWAt.dWEST-CREE tCWAAt.eWEST-CREE t.fNASKAPItCtSAYISI THtMEuAAIuIvIuOvO",
      "t.dY-CREE tMAvAuWEt.dWEST-CREE tMWIt.dWEST-CREE tMWIIt.eWEST-CREE tMWOt.dWEST-CREE tMWOO",
      "t.eWEST-CREE tMWAt.dWEST-CREE tMWAAt.eWEST-CREE t.fNASKAPItMtWEST-CREE MtMHtATHAPASCAN M",
      "tSAYISI MtNEuAAIuIvIuOvOt.dY-CREE tNAvAuWEt.dWEST-CREE tNWAt.dWEST-CREE tNWAA",
      "t.eWEST-CREE t.fNASKAPItNtCARRIER NGtNHtLEuAAIuIvIuOvOt.dY-CREE tLAvAuWEt.dWEST-CREE tLWI",
      "t.dWEST-CREE tLWIIt.eWEST-CREE tLWOt.dWEST-CREE tLWOOt.eWEST-CREE tLWAt.dWEST-CREE tLWAA",
      "t.eWEST-CREE tLtWEST-CREE LtMEDIAL LtSEuAAIuIvIuOvOt.dY-CREE tSAvAuWEt.dWEST-CREE tSWI",
      "t.dWEST-CREE tSWIIt.eWEST-CREE tSWOt.dWEST-CREE tSWOOt.eWEST-CREE tSWAt.dWEST-CREE tSWAA",
      "t.eWEST-CREE t.fNASKAPItStATHAPASCAN StSWtBLACKFOOT StMOOSE-CREE SKtNASKAPI SKWzd-WzdPWA",
      "zdTWAzdKWAzdCWAtSHEvIwIvOwOvAwAvWEt.eWEST-CREE tSHWIt.eWEST-CREE tSHWIIt.fWEST-CREE tSHWO",
      "t.eWEST-CREE tSHWOOt.fWEST-CREE tSHWAt.eWEST-CREE tSHWAAt.fWEST-CREE tSHtYEuAAIuIvIuOvO",
      "u-CREE YOOuAvAuWEt.dWEST-CREE tYWIt.dWEST-CREE tYWIIt.eWEST-CREE tYWOt.dWEST-CREE tYWOO",
      "t.eWEST-CREE tYWAt.dWEST-CREE tYWAAt.eWEST-CREE t.fNASKAPItYtBIBLE-CREE Yt.hWEST",
      "tSAYISI YItREu-CREE REtWEST-CREE LEtRAAIuIvIuOvOtWEST-CREE LOtRAvAtWEST-CREE LAtRWAA",
      "t.eWEST-CREE tRtWEST-CREE RtMEDIAL RtFEuAAIuIvIuOvOuAvAuWAAt.eWEST-CREE tFtTHEt.dN-CREE ",
      "tTHIt.dN-CREE tTHIIt.eN-CREE tTHOwOvAwAvWAAt.fWEST-CREE tTHuTHEwIwOwAvHuYEvIvOvA",
      "tNUNAVIK HEzdIzeIzdOzeOzdAzeAzcHyUT HtHKtQAAIuIvIuOvOuAvAtQtTLHEwIwOwAtWEST-CREE REzfIzfO",
      "zfAtNGAAIvIwIvOwOvAwAuGuNGtSAYISI SHEzdIzdOzdAtWOODS-CREE THEzhIzhOzhAzgHtLHIwIvOwOvAwAuH",
      "tTH-CREE THEzeIzfIzeOzfOzeAzfAzdHtAIVILIK BtBLACKFOOT EzeIzeOzeAzeWEzfIzfOzfAzeNEzfIzfO",
      "zfAzeKEzfIzfOzfAtSAYISI HEzcIzcOzcAtCARRIER GHUzeOzeEzfEzeIzeAzcRUzdOzdEzeEzdIzdAzcWUzdO",
      "zdEzeEzdIzdAzcHWUzeOzeEzfEzeIzeAzcTHUzeOzeEzfEzeIzeAzdTUzeOzeEzfEzeIzeAzcPUzdOzdEzeEzdI",
      "zdAzcPzcGUzdOzdEzeEzdIzdAzcKHUzeOzeEzfEzeIzeAzdKUzeOzeEzfEzeIzeAzdKzcNUzdOzdEzeEzdIzdA",
      "zcMUzdOzdEzeEzdIzdAzcYUzdOzdEzeEzdIzdAzcJUt.dSAYISItCARRIER JOzdEzeEzdIt.dSAYISI",
      "tCARRIER JAzdJUzeOzeEzfEzeIzeAzcLUzdOzdEzeEzdIzdAzcDLUzeOzeEzfEzeIzeAzcLHUzeOzeEzfEzeIzeA",
      "zcTLHUzfOzfEzgEzfIzfAzeUzeOzeEzfEzeIzeAzcZUzdOzdEzeEzdIzdAzcZzcINITIAL ZzcDZUzeOzeEzfEzeI",
      "zeAzcSUzdOzdEzeEzdIzdAzdHUzeOzeEzfEzeIzeAzdHzcTSUzeOzeEzfEzeIzeAzcCHUzeOzeEzfEzeIzeA",
      "zcTTSUzfOzfEzgEzfIzfAuHI SIGNtFULL STOPtQAItNGAIuNGIxIwOxOwAxAtWOODS-CREE THWEEziIzjIziO",
      "zjOziAzjAzfFINAL THtBLACKFOOT WaOGHAM SPACE MARKgLETTER BEITHnLUISnFEARNnSAILnNIONnUATH",
      "nDAIRnTINNEnCOLLoEIRTnMUINnGORTnNGEADALnSTRAIFnRUISnAILMnONNnURnEADHADHn.fIOn.eEABnOR",
      "nUILLEANNnIFINnEAMHANCHOLLnPEITHgFEATHER MARKg.mREVERSED "]),
    (0x16a0, ["aRUNIC LETTER FEHU FEOH FE FnVnURUZ UR UnYRnYnWnTHURISAZ THURS THORNnETHnANSUZ A",
      "nOS OnAC AoESCnLONG-BRANCH-OSS On.gSHORT-TWIGnOoEoNnRAIDO RAD REID RnKAUNAnCENnKAUN KnG",
      "nENGnGEBO GYFU GoARnWUNJO WYNN WnHAGLAZ HpEGL Hn.dLONG-BRANCH-HAGALn.jSHORT-TWIG",
      "nNAUDIZ NYD NAUD Nn.gSHORT-TWIG-nDOTTED-NnISAZ IS ISS InEnJERAN JnGERnLONG-BRANCH-AR AE",
      "nSHORT-TWIG-AR AnIWAZ EOHnPERTHO PEORTH PnALGIZ EOLHXnSOWILO SoIGEL LONG-BRANCH-SOL S",
      "o.gHORT-TWIGnCnZnTIWAZ TIR TYR Tn.fSHORT-TWIG-nDnBERKANAN BEORC BJARKAN Bn.jSHORT-TWIG-",
      "nDOTTED-PnOPEN-PnEHWAZ EH EnMANNAZ MAN MnLONG-BRANCH-MADR Mn.hSHORT-TWIG",
      "nLAUKAZ LAGU LOGR LnDOTTED-LnINGWAZpGnDAGAZ DAEG DnOTHALAN ETHEL OnEARnIORnCWEORTHoALC",
      "o.dEnSTANnLONG-BRANCH-YRn.dSHORT-TWIGn.dICELANDICnQnXgSINGLE PUNCTUATIONg.oMULTIPg.mCROSS",
      "gARLAUG SYMBOLg.hTVIMADURg.iBELGTHOgLETTER KnSHnOOnFRANKS CASKET OSzcISzcEHzcACzdESC"]),
    (0x1700, ["aTAGALOG LETTER ApIpUpKApGApNGApTApDApNApPApBApMApYApRApLApWApSApHAiVOWEL SIGN I",
      "tUiSIGN VIRAMAnPAMUDPOD"]),
    (0x171f, ["iLETTER ARCHAIC RAaHANUNOO LETTER ApIpUpKApGApNGApTApDApNApPApBApMApYApRApLApWA",
      "pSApHAiVOWEL SIGN ItUiSIGN PAMUDPODaPHILIPPINE SINGLE PUNCTUATIONl.oDOUB"]),
    (0x1740, ["aBUHID LETTER AnInUnKAnGAnNGAnTAnDAnNAnPAnBAnMAnYAnRAnLAnWAnSAnHAgVOWEL SIGN IrU"]),
    (0x1760, ["aTAGBANWA LETTER AqIqUqKAqGAqNGAqTAqDAqNAqPAqBAqMAqYA"]), (0x176e, ["qLAqWAqSA"]),
    (0x1772, ["jVOWEL SIGN IuU"]),
    (0x1780, ["aKHMER LETTER KAoHAoOoHOnNGOnCAoHAoOoHOnNYOnDAnTTHAnDOnTTHOnNNOnTAoHAoOoHOnNOnBA",
      "nPHAoOoHOnMOnYOnROnLOnVOnSHAoSOoAnHAnLAnQAgINDEPENDENT VOWEL QAQzbAzIzbIzUzbKzbUzcVyRYzbY",
      "yLYzbYyQEzAIzOO TYPE ONEziTWOzAUgVOWEL INHERENT AQwAm.dSIGNrIsIrYsYrUsUsArOErYArIErErAEsI",
      "rOOrAUgSIGN NIKAHITlREAHMUKlYUUKALEAPINTUlMUUSIKATOANlTRIISAPlBANTOClROBATlTOANDAKHIAT",
      "lKAKABATlAHSDAlSAMYOK SANNYAlVIRIAMlCOENGlBATHAMASATlKHANlBARIYOOSANlCAMNUC PII KUUH",
      "lLEK TOOlBEYYALlPHNAEK MUANlKOOMUUTgCURRENCY SYMBOL RIELgSIGN AVAKRAHASANYAmTTHACAN"]),
    (0x17e0, ["gDIGIT ZEROmONEmTWOnHREEmFOURnIVEmSIXnEVENmEIGHTmNINE"]),
    (0x17f0, ["gSYMBOL LEK ATTAK SONxMUOYxPIIxBEIyUONxPRAMzc-MUOYzdPIIzdBEIzeUON"])]

/-- Names from U+1800 on. -/
def namesFrom1800 : List (Nat × List String) := [
    (0x1800, ["aMONGOLIAN BIRGAkELLIPSISkCOMMAkFULL STOPkCOLONkFOUR DOTSkTODO SOFT HYPHEN",
      "kSIBE SYLLABLE BOUNDARY MARKERkMANCHU COMMArFULL STOPkNIRUGUkFREE VARIATION SELECTOR ONE",
      "zjTWOzkHREEkVOWEL SEPARATORkFREE VARIATION SELECTOR FOURkDIGIT ZEROqONEqTWOrHREEqFOURrIVE",
      "qSIXrEVENqEIGHTqNINE"]),
    (0x1820, ["kLETTER ArErIrOrUrOErUErEErNArANGrBArPArQArGArMArLArSAsHArTArDArCHArJArYArRArWA",
      "rFArKAsHArTSArZArHAArZRArLHArZHIrCHIrTODO LONG VOWEL SIGNwEwIwOwUwOEwUEwANGwBAwPAwQAwGA",
      "wMAwTAwDAwCHAwJAwTSAwYAwWAwKAwGAAwHAAwJIAwNIAwDZArSIBE EwIxYwUEwUwANGwKAwGAwHAwPAwSHAwTA",
      "wDAwJAwFAwGAAwHAAwTSAwZAwRAAwCHAwZHArMANCHU IyKAyRAyFAyZHArCHA WITH TWO DOTS"]),
    (0x1880, ["rALI GALI ANUSVARA ONEzb.fVISARGzbDAMARUzbUBADAMAzb.hINVERTED zbBALUDAzb.gTHREE ",
      "zbAzbIzbKAzbNGAzbCAzbTTAzdHAzbDDAzbNNAzbTAzbDAzbPAzcHAzbSSAzbZHAzcAzbAHrTODO ALI GALI TA",
      "zgZHArMANCHU ALI GALI GHAziNGAziCAziJHAziTTAziDDHAziTAziDHAziSSAziCYAziZHAzjA",
      "rALI GALI HALF UzgYArMANCHU ALI GALI BHArALI GALI DAGALGArMANCHU ALI GALI LHA"]),
    (0x18b0, ["aCANADIAN SYLLABICS OYtAYuAYtWAYtPOYuAYuWOYtTAYtKAYuWAYtMAYtNOYuAYtLAYtSOYuAYuHOY",
      "vAYvWOYtYOYuAYtRAYtNWIt.dOJIBWAY tNWIIt.eOJIBWAY tNWOt.dOJIBWAY tNWOOt.eOJIBWAY tRWEEvIwI",
      "vOwOvAtOJIBWAY PzcTzcKzcCzcMzcNzcSzdHtEASTERN Wt.hWEtFINAL SMALL RINGzRAISED DOT",
      "tR-CREE RWEtWEST-CREE LOOzfAAtTHWEwAuTHWEwOOwAAuLHWEwOOtSAYISI SHWEzdOOzbHOOtCARRIER GWU",
      "zcDENE GEEzcGAAzdWAtSAYISI JUUtCARRIER JWAtBEAVER DENE LzgRtCARRIER DENTAL S"]),
    (0x1900, ["aLIMBU VOWEL-CARRIER LETTERgLETTER KAoHAnGAoHAnNGAnCAoHAnJAoHAnYANnTAoHAnDAoHAnNA",
      "nPAoHAnBAoHAnMAnYAnRAnLAnWAnSHAoSAoAnHAnGYANnTRA"]),
    (0x1920, ["gVOWEL SIGN ArIrUrEErAIrOOrAUrErOgSUBJOINED LETTER YAxRAxWA"]),
    (0x1930, ["hMALL LETTER KAtNGAtANUSVARAtTAtNAtPAtMAtRAtLAhIGN MUKPHRENGl.gKEMlSA-I"]),
    (0x1940, ["lLOO"]),
    (0x1944, ["gEXCLAMATION MARKg.jQUESgDIGIT ZEROmONEmTWOnHREEmFOURnIVEmSIXnEVENmEIGHTmNINE",
      "aTAI LE LETTER KAoXAoNGAoTSAoSAoYAoTApHAoLAoPApHAoMAoFAoVAoHAoQAoKHAoTSHAoNAoAoIoEEpHoU",
      "oOOoOoUEoEoAUEpI"]),
    (0x1970, ["oTONE-2t3t4t5t6"]),
    (0x1980, ["aNEW TAI LUE LETTER HIGH QAt.dLOWtHIGH KAyXAyNGAtLOW KAxXAxNGAtHIGH TSAySAyYA",
      "tLOW TSAxSAxYAtHIGH TAzHAyNAtLOW TAyHAxNAtHIGH PAzHAyMAtLOW PAyHAxMAtHIGH FAyVAyLAtLOW FA",
      "xVAxLAtHIGH HAyDAyBAtLOW HAxDAxBAtHIGH KVAyXVAtLOW KVAxXVAtHIGH SUAt.eLOW"]),
    (0x19b0, ["mVOWEL SIGN VOWEL SHORTENERxAAxIIxUyUxExAExOyAxUExAYyAYxUYxOYyAYxUEYxIY",
      "mLETTER FINAL VzNGzNzMzKzDzBmTONE MARK-1w2"]),
    (0x19d0, ["mDIGIT ZEROsONEsTWOtHREEsFOURtIVEsSIXtEVENsEIGHTsNINEmTHAM DIGIT ONE"]),
    (0x19de, ["mSIGN LAEuVaKHMER SYMBOL PATHAMASATnMUOY KOETn.fPIIn.gBEo.fUONn.fPRAMr.f-MUOY",
      "s.fPIIs.gBEt.fUONn.fDAPq.f-MUOYr.fPIIr.gBEs.fUONr.fPRAMnTUTEYASATnMUOY ROCn.ePIIn.fBE",
      "o.eUONn.ePRAMr.e-MUOYs.ePIIs.fBEt.eUONn.eDAPq.e-MUOYr.ePIIr.fBEs.eUONr.ePRAM",
      "aBUGINESE LETTER KAqGAqNGAsKAqPAqBAqMArPAqTAqDAqNArRAqCAqJAqNYAsCAqYAqRAqLAqVAqSAqAqHA",
      "jVOWEL SIGN IuUuEuOuAE"]),
    (0x1a1e, ["jPALLAWAjEND OF SECTIONaTAI THAM LETTER HIGH KAwHAwXAqLOW KAvXAvHAqNGAqHIGH CAwHA",
      "qLOW CAuSAuCHAqNYAqRATAqHIGH RATHAqDAqLOW RATHAqRANAqHIGH TAwHAqLOW TAvHAqNAqBAqHIGH PA",
      "wHAvFAqLOW PAuFAuPHAqMAqLOW YAq.dHIGHqRArUEqLArUEqWAqHIGH SHAwSAwAvHAqLLAqAqLOW HAqIrIqU",
      "rUqEEqOOqLAEqGREAT SAjCONSONANT SIGN MEDIAL RAzgLAyLA TANG LAIj.hSIGN MAI K",
      "jCONSONANT SIGN FINAL NGAyLOW PAy.gHIGH RATHA OR yMAyBAySA"]),
    (0x1a60, ["jSIGN SAKOTjVOWEL SIGN AuMAI SATuAAuTALL AAuIvIuUEvUEuUvUuOvA BELOWvYuEuAEuOOuAI",
      "uTHAM AIuOA ABOVEjSIGN MAI KANGoTONE-1t2oKHUEN TONE-3z4z5oRA HAAMoMAI SAMoKHUEN-LUE KARAN"]),
    (0x1a7f, ["jCOMBINING CRYPTOGRAMMIC DOTjHORA DIGIT ZEROuONEuTWOvHREEuFOURvIVEuSIXvEVENuEIGHT",
      "uNINE"]),
    (0x1a90, ["jTHAM DIGIT ZEROuONEuTWOvHREEuFOURvIVEuSIXvEVENuEIGHTuNINE"]),
    (0x1aa0, ["jSIGN WIANGtWAAKoSAWANoKEOWoHOYoDOKMAIoREVERSED ROTATED RANAoMAI YAMOKoKAANsKUU",
      "oSATKAANvKUUoHANGo.dCA"]),
    (0x1ab0, ["aCOMBINING DOUBLED CIRCUMFLEX ACCENTlIAERESIS-RINGkINFINITYkDOWNWARDS ARROW",
      "kTRIPLE DOTkX-X BELOWk.gWIGGLY LINEk.gOPEN MARKk.pDOUBLE k.gLIGHT CENTRALIZATION STROKE",
      "k.zdSTRONGkPARENTHESES ABOVEk.rDOUBLE kPARENTHESES BELOWwOVERLAY",
      "kLATIN SMALL LETTER W BELOWze.hTURNED lEFT PARENTHESIS ABOVE LEFT",
      "kRIGHT PARENTHESIS ABOVE RIGHTkLEFT PARENTHESIS BELOW LEFTkRIGHT PARENTHESIS BELOW RIGHT",
      "kSQUARE BRACKETS ABOVEk.gNUMBER SIGNk.gINVERTED DOUBLE ARCHk.gPLUS SIGNk.pDOUBLE zcBELOW",
      "kTRIPLE ACUTE ACCENTkLATIN SMALL LETTER INSULAR GzmRzmT"]),
    (0x1b00, ["aBALINESE SIGN ULU RICEMsCANDRAoCECEKoSURANGoBISAHjLETTER AKARAv TEDUNGqIKARA",
      "v TEDUNGqUKARAv TEDUNGqRA REPAx TEDUNGqLA LENGAy TEDUNGqEKARAq.eAIq.eOv TEDUNGqKA",
      "s MAHAPRANAqGAs GORAqNGAqCAs LACAqJAs JERAqNYAqTA LATIKtMURDA MAHAPRANAq.gDA MURDA ALP",
      "z.gMAHqNA RAMBATqTAs TAWAqDAs MADUqNAqPAs KAPALqBAs KEMBANGqMAqYAqRAqLAqWAqSA SAGAvPArA",
      "qHAjSIGN REREKANjVOWEL SIGN TEDUNGuULUx SARIuSUKUy ILUTuRA REPAzc TEDUNGuLA LENGA",
      "zd TEDUNGuTALINGzb REPAzcTEDUNGzc.gREPA uPEPETz TEDUNGjADEG ADEGjLETTER KAF SASAKr.gHOT",
      "q.gTZIRq.gEFq.gVEq.gZALq.gASYURArRCHAIC JNYA"]),
    (0x1b50, ["jDIGIT ZEROpONEpTWOqHREEpFOURqIVEpSIXqEVENpEIGHTpNINEjPANTIlMADAjWINDU",
      "jCARIK PAMUNGKAHpSIKIpPARERENjPAMENENGjMUSICAL SYMBOL DONGzENGzUNGzANGzd SURANGzINGzAENG",
      "zEUNGzAINGzbNG GEDEyCOMBINING TEGEHzjENDEPzjKEMPULznLIzjJEGOGANzj.hKEMPUL WITH zn.nLI",
      "zjBENDEzjGONGyRIGHT-HAND OPEN DUGzqAGzkCLOSED TUKzsAKyLEFT-HAND OPEN PANGzpUNG",
      "zjCLOSED PLAKzsUKzjOPEN PINGjPANTI LANTANGl.iMADA"]),
    (0x1b80, ["aSUNDANESE SIGN PANYECEKsGLAYARtWISADkLETTER ArIrUrAErOrEsUrKArQArGArNGArCArJArZA",
      "rNYArTArDArNArPArFArVArBArMArYArRArLArWArSArXArHAkCONSONANT SIGN PAMINGKALzcNYAKRAzeIKU",
      "kVOWEL SIGN PANGHULUyYUKUyAELAENGyOLONGxMEPETxNEULEUNGkSIGN PAMAAEHpVIRAMA",
      "kCONSONANT SIGN PASANGAN MAzjWAkLETTER KHArSYAkDIGIT ZEROqONEqTWOrHREEqFOURrIVEqSIXrEVEN",
      "qEIGHTqNINEkAVAGRAHAkLETTER REUrLEUrBHArFINAL KxMaBATAK LETTER AnSIMALUNGUN AnHA",
      "nSIMALUNGUN HAn.dMANDAILINGnBAnKARO BAnPAnSIMALUNGUN PAnNAnMANDAILING NAnWAnSIMALUNGUN WA",
      "n.dPAKPAKnGAnSIMALUNGUN GAnJAnDAnRAnSIMALUNGUN RAnMAnSIMALUNGUN MAoOUTHERN TAn.iNORnSA",
      "oIMALUNGUN SAn.dMANDAILINGnYAnSIMALUNGUN YAnNGAnLAnSIMALUNGUN LAnNYAnCAnNDAnMBAnInU",
      "gSIGN TOMPIgVOWEL SIGN ErPAKPAK ErEErIrKARO IrOrKARO OrUs FOR SIMALUNGUN SA",
      "gCONSONANT SIGN NGvHgPANGOLATjONGONAN"]),
    (0x1bfc, ["gSYMBOL BINDU NA METEKtPINARBORAStJUDULtPANGOLATaLEPCHA LETTER KApLApHAoGApLAoNGA",
      "oCApHAoJAoNYAoTApHAoDAoNAoPApLApHAoFApLAoBApLAoMApLAoTSAqHAoDZAoYAoRAoLAoHApLAoVAoSApHA",
      "oWAoAhSUBJOINED LETTER YAyRAhVOWEL SIGN AAsIsOtOsUtUsEhCONSONANT SIGN KwMwLwNwPwRwT",
      "wNYIN-DOwKANGhSIGN RANmNUKTA"]),
    (0x1c3b, ["hPUNCTUATION TA-ROLt.gNYET THYOOM tCER-WAt.gTSHOOK yKhDIGIT ZEROnONEnTWOoHREE",
      "nFOURoIVEnSIXoEVENnEIGHTnNINE"]),
    (0x1c4d, ["hLETTER TTAqHAoDDAaOL CHIKI DIGIT ZEROpONEpTWOqHREEpFOURqIVEpSIXqEVENpEIGHTpNINE",
      "jLETTER LAqATrGrNGrLqLAAqAAKsJsMsWqLIqISrHrNYrRqLUqUCrDrNNrYqLEqEPrDDrNrRRqLOqOTTrBrVrH",
      "jMU TTUDDAGjGAAHLAA TTUDDAAGj.qMU-jRELAAjPHAARKAAjAHADjPUNCTUATION MUCAADv.gDOUBLE ",
      "aCYRILLIC SMALL LETTER ROUNDED VEwLONG-LEGGED DEwNARROW OwWIDE ESwTALL TEx.dHREE-LEGGED",
      "xALL HARD SIGNzcYATwUNBLENDED UK"]),
    (0x1c90, ["aGEORGIAN MTAVRULI CAPITAL LETTER ANziBANziGANziDONziENziVINziZENziTANziINziKAN",
      "ziLASziMANziNARziONziPARziZHARziRAEziSANziTARziUNziPHARzi.dKziGHANziQARziSHINzi.dCzjAN",
      "ziJILziCILzjHARziXANziJHANziHAEzjEzjIEziWEziHARzjOEziFIziYNziELIFIziTURNED GANziAIN"]),
    (0x1cbd, ["zjENziHARD SIGNzi.fLABIALaSUNDANESE PUNCTUATION BINDU SURYAzdPANGLONGzeURNAMA",
      "zdCAKRAzdLEU SATANGAzd.iKAzd.jDzd.jB"]),
    (0x1cd0, ["aVEDIC TONE KARSHANAlSHARAlPRENKHAgSIGN NIHSHVASAlYAJURVEDIC MIDLINE SVARITA",
      "g.iTONE YAJURVEDIC AGGRAVATED INDEPENDENTw.sIw.tKATHAKA lCANDRA BELOW",
      "lYAJURVEDIC KATHAKA INDEPENDENT SVARITA SCHROEDERlDOUBLE SVARITAl.kTRIPlKATHAKA ANUDATTA",
      "lDOT BELOWl.gTWO DOTSm.lHREElRIGVEDIC KASHMIRI INDEPENDENT SVARITAl.uATHARVAVEDIC",
      "g.iSIGN VISARGAtUDATTAl.oREVERSED l.gVISARGA ANl.qREVERSED lVISARGA UDATTA WITH TAILt.qAN",
      "lANUSVARA ANTARGOMUKHAu.iBAHIu.hVAMAzg WITH TAILlTIRYAKlHEXIFORM LONG ANUSVARAl.mL",
      "l.nRTHANG lANUSVARA UBHAYATO MUKHAmRDHAVISARGAl.mROTATED gTONE CANDRA ABOVE",
      "gSIGN JIHVAMULIYAl.dUPADHMANlATIKRAMAgTONE RING ABOVEl.kDOUBLE ",
      "gSIGN DOUBLE ANUSVARA ANTARGOMUKHA"]),
    (0x1d00, ["aLATIN LETTER SMALL CAPITAL AzdEg.dSMALL LETTER TURNED",
      "gLETTER SMALL CAPITAL BARRED BzcCzcDzcETHzcEgSMALL LETTER TURNED OPEN EzbI",
      "gLETTER SMALL CAPITAL JzcKzcL WITH STROKEzcMzcREVERSED NzcOzdPEN O",
      "gSMALL LETTER SIDEWAYS OzePEN Oze WITH STROKEtTURNED OEgLETTER SMALL CAPITAL OU",
      "gSMALL LETTER TOP HALF Ot.hBOTTOMgLETTER SMALL CAPITAL PzcREVERSED Rzc.eTURNzcTzcU",
      "gSMALL LETTER SIDEWAYS UzdDIAERESIZED UzdTURNED MgLETTER SMALL CAPITAL VzcWzcZzcEZH",
      "nVOICED LARYNGEAL SPIRANTnAINaGREEK LETTER SMALL CAPITAL GAMMAzcLAMDAzcPIzcRHOzcPSI",
      "aCYRILLIC LETTER SMALL CAPITAL ELaMODIFIER LETTER CAPITAL AzEyBzARRED ByDyEyREVERSED EyG",
      "yHyIyJyKyLyMyNyREVERSED NyOzUyPyRyTyUyWqSMALL AwTURNED AwALPHAwTURNED AEwBwDwEwSCHWA",
      "wOPEN Ew.gTURNED wGwTURNED IwKwMwENGwOxPEN OwTOP HALF Ow.hBOTTOMwPwTwUwSIDEWAYS U",
      "wTURNED MwVwAINwBETAwGREEK GAMMAwDELTAwGREEK PHIwCHIaLATIN SUBSCRIPT SMALL LETTER IzeRzeU",
      "zeVaGREEK SUBSCRIPT SMALL LETTER BETAzeGAMMAzeRHOzePHIzeCHIaLATIN SMALL LETTER UE",
      "tB WITH MIDDLE TILDEt.sDt.sFt.sMt.sNt.sPt.sRzb.mFISHHOOK AND t.nS WITHt.sTt.sZtTURNED G",
      "aMODIFIER LETTER CYRILLIC ENaLATIN SMALL LETTER INSULAR GtTH WITH STRIKETHROUGH",
      "mCAPITAL LETTER I WITH STROKEm.mLETTER IOTAt.mPm.mCAPITAL LETTER Um.mLETTER UPSILON",
      "tB WITH PALATAL HOOKt.sDt.sFt.sGt.sKt.sLt.sMt.sNt.sPt.sRt.sSt.sESHt.sVt.sXt.sZ",
      "t.fA WITH RETROFLEXu.uLPHAtD WITH HOOK AND TAILtE WITH RETROFLEX HOOKt.vOPEN ",
      "t.zbREVERSED t.uSCHWAt.uIt.uOPEN Ot.uESHt.uUt.uEZHaMODIFIER LETTER SMALL TURNED ALPHAwC",
      "x WITH CURLwETHwREVERSED OPEN EwFwDOTLESS J WITH STROKEwSCRIPT GwTURNED HwI WITH STROKE",
      "xOTAwCAPITAL Izg WITH STROKEwJ WITH CROSSED-TAILwL WITH RETROFLEX HOOKze.fPALATAL",
      "wCAPITAL LwM WITH HOOKwTURNED M WITH LONG LEGwN WITH LEFT HOOKze.fRETROFLEXwCAPITAL N",
      "wBARRED OwPHIwS WITH HOOKwESHwT WITH PALATAL HOOKwU BARxPSILONwCAPITAL UwV WITH HOOK",
      "wTURNED VwZx WITH RETROFLEX HOOKzeCURLwEZHwTHETAaCOMBINING DOTTED GRAVE ACCENTr.iACUT",
      "kSNAKE BELOWlUSPENSION MARKkMACRON-ACUTEkGRAVE-MACRONkMACRON-GRAVEkACUTE-MACRON",
      "kGRAVE-ACUTE-GRAVEkACUTE-GRAVE-ACUTEkLATIN SMALL LETTER R BELOWkBREVE-MACRONkMACRON-BREVE",
      "kDOUBLE CIRCUMFLEX ABOVEk.gOGONEKkZIGZAG BELOWk.gISkUR ABOVEl.gS",
      "k.gLATIN SMALL LETTER FLATTENED OPEN AzeAEzfOzfVzeC CEDILLAzeINSULAR DzeETHzeG",
      "qLETTER SMALL CAPITAL GqSMALL LETTER KzeLqLETTER SMALL CAPITAL LzmMqSMALL LETTER N",
      "qLETTER SMALL CAPITAL NzmRqSMALL LETTER R ROTUNDAzeSzeLONG SzeZzeALPHAzeBzfETAzeSCHWAzeF",
      "zeL WITH DOUBLE MIDDLE TILDEzeO WITH LIGHT CENTRALIZATION STROKEzePzeESH",
      "zeU WITH LIGHT CENTRALIZATION STROKEzeWzeA WITH DIAERESISze.pOze.pUkUP TACK ABOVE",
      "kKAVYKA ABOVE RIGHTxLEFTk.lDOTkWIDE INVERTED BRIDGE BELOWkDOT BELOW LEFTlELETION MARK",
      "lOUBLE INVERTED BREVE BELOWk.gALMOST EQUAL TOkLEFT ARROWHEAD ABOVE",
      "kRIGHT ARROWHEAD AND DOWN ARROWHEAD BELOWa.gLATIN CAPITAL LETTER A WITH RINGg.zbSMAL",
      "gCAPITAL LETTER B WITH DOT ABOVEg.zSMALgCAPITAL LETTER B WITH DOT BELOWg.zSMAL",
      "g.gCAPITAL LETTER B WITH LINEg.zbSMALgCAPITAL LETTER C WITH CEDILLA AND ACUTEg.ziSMAL",
      "gCAPITAL LETTER D WITH DOT ABOVEg.zSMALgCAPITAL LETTER D WITH DOT BELOWg.zSMAL",
      "g.gCAPITAL LETTER D WITH LINEg.zbSMALgCAPITAL LETTER D WITH CEDILLAg.xSMAL",
      "gCAPITAL LETTER D WITH CIRCUMFLEX BELOWg.zhSMALgCAPITAL LETTER E WITH MACRON AND GRAVE",
      "g.zhSMALgCAPITAL LETTER E WITH MACRON AND ACUTEg.zhSMAL",
      "gCAPITAL LETTER E WITH CIRCUMFLEX BELOWg.zhSMALg.gCAPITAL LETTER E WITH TILDEg.zcSMAL",
      "gCAPITAL LETTER E WITH CEDILLA AND BREVEg.ziSMALgCAPITAL LETTER F WITH DOT ABOVEg.zSMAL",
      "gCAPITAL LETTER G WITH MACRONg.wSMALgCAPITAL LETTER H WITH DOT ABOVEg.zSMAL",
      "gCAPITAL LETTER H WITH DOT BELOWg.zSMALgCAPITAL LETTER H WITH DIAERESISg.zSMAL",
      "gCAPITAL LETTER H WITH CEDILLAg.xSMALgCAPITAL LETTER H WITH BREVE BELOWg.zcSMAL",
      "g.hCAPITAL LETTER I WITH TILDg.zcSMALgCAPITAL LETTER I WITH DIAERESIS AND ACUTEg.zkSMAL",
      "g.gCAPITAL LETTER K WITHg.vSMALgCAPITAL LETTER K WITH DOT BELOWg.zSMAL",
      "g.gCAPITAL LETTER K WITH LINEg.zbSMALg.gCAPITAL LETTER L WITH DOTg.zSMAL",
      "gCAPITAL LETTER L WITH DOT BELOW AND MACRONg.zlSMALgCAPITAL LETTER L WITH LINE BELOW",
      "g.zbSMALg.gCAPITAL LETTER L WITH CIRCUMFLEXg.zhSMALgCAPITAL LETTER M WITH ACUTEg.vSMAL",
      "gCAPITAL LETTER M WITH DOT ABOVEg.zSMALgCAPITAL LETTER M WITH DOT BELOWg.zSMAL",
      "gCAPITAL LETTER N WITH DOT ABOVEg.zSMALgCAPITAL LETTER N WITH DOT BELOWg.zSMAL",
      "g.gCAPITAL LETTER N WITH LINEg.zbSMALg.gCAPITAL LETTER N WITH CIRCUMFLEXg.zhSMAL",
      "gCAPITAL LETTER O WITH TILDE AND ACUTEg.zgSMALgCAPITAL LETTER O WITH TILDE AND DIAERESIS",
      "g.zkSMALgCAPITAL LETTER O WITH MACRON AND GRAVEg.zhSMAL",
      "gCAPITAL LETTER O WITH MACRON AND ACUTEg.zhSMALg.gCAPITAL LETTER P WITHg.vSMAL",
      "gCAPITAL LETTER P WITH DOT ABOVEg.zSMALg.pCAPITAL LETTER Rg.zSMAL",
      "gCAPITAL LETTER R WITH DOT BELOWg.zSMALgCAPITAL LETTER R WITH DOT BELOW AND MACRON",
      "g.zlSMALgCAPITAL LETTER R WITH LINE BELOWg.zbSMALgCAPITAL LETTER S WITH DOT ABOVEg.zSMAL",
      "gCAPITAL LETTER S WITH DOT BELOWg.zSMALgCAPITAL LETTER S WITH ACUTE AND DOT ABOVEg.zkSMAL",
      "g.oCAPITAL LETTER S WITH CARONg.zkSMALg.oCAPITAL LETTER S WITH DOT BELOWg.zoSMAL",
      "g.kCAPITAL LETTER T WITHg.zSMALgCAPITAL LETTER T WITH DOT BELOWg.zSMAL",
      "g.gCAPITAL LETTER T WITH LINEg.zbSMALg.gCAPITAL LETTER T WITH CIRCUMFLEXg.zhSMAL",
      "g.gCAPITAL LETTER U WITH DIAERESISg.zgSMALg.gCAPITAL LETTER U WITH TILDEg.zcSMAL",
      "g.gCAPITAL LETTER U WITH CIRCUMFLEXg.zhSMALgCAPITAL LETTER U WITH TILDE AND ACUTEg.zgSMAL",
      "gCAPITAL LETTER U WITH MACRON AND DIAERESISg.zlSMALgCAPITAL LETTER V WITH TILDEg.vSMAL",
      "gCAPITAL LETTER V WITH DOT BELOWg.zSMALgCAPITAL LETTER W WITH GRAVEg.vSMAL",
      "gCAPITAL LETTER W WITH ACUTEg.vSMALgCAPITAL LETTER W WITH DIAERESISg.zSMAL",
      "gCAPITAL LETTER W WITH DOT ABOVEg.zSMALgCAPITAL LETTER W WITH DOT BELOWg.zSMAL",
      "gCAPITAL LETTER X WITH DOT ABOVEg.zSMALgCAPITAL LETTER X WITH DIAERESISg.zSMAL",
      "gCAPITAL LETTER Y WITH DOT ABOVEg.zSMALgCAPITAL LETTER Z WITH CIRCUMFLEXg.zbSMAL",
      "gCAPITAL LETTER Z WITH DOT BELOWg.zSMALg.gCAPITAL LETTER Z WITH LINEg.zbSMALt.qH",
      "tT WITH DIAERESIStW WITH RING ABOVEt.qYtA WITH RIGHT HALF RINGtLONG S WITH DOT ABOVE",
      "zhIAGONAL STROKEzg.hHIGHgCAPITAL LETTER SHARP SgSMALL LETTER DELTA",
      "gCAPITAL LETTER A WITH DOT BELOWg.zSMALgCAPITAL LETTER A WITH HOOK ABOVEg.zbSMAL",
      "gCAPITAL LETTER A WITH CIRCUMFLEX AND ACUTEg.zlSMAL",
      "gCAPITAL LETTER A WITH CIRCUMFLEX AND GRAVEg.zlSMAL",
      "gCAPITAL LETTER A WITH CIRCUMFLEX AND HOOK ABOVEg.zqSMAL",
      "gCAPITAL LETTER A WITH CIRCUMFLEX AND TILDEg.zlSMAL",
      "gCAPITAL LETTER A WITH CIRCUMFLEX AND DOT BELOWg.zpSMAL",
      "gCAPITAL LETTER A WITH BREVE AND ACUTEg.zgSMALgCAPITAL LETTER A WITH BREVE AND GRAVE",
      "g.zgSMALgCAPITAL LETTER A WITH BREVE AND HOOK ABOVEg.zlSMAL",
      "gCAPITAL LETTER A WITH BREVE AND TILDEg.zgSMALgCAPITAL LETTER A WITH BREVE AND DOT BELOW",
      "g.zkSMALg.kCAPITAL LETTER E WITHg.zSMALgCAPITAL LETTER E WITH HOOK ABOVEg.zbSMAL",
      "gCAPITAL LETTER E WITH TILDEg.vSMALgCAPITAL LETTER E WITH CIRCUMFLEX AND ACUTEg.zlSMAL",
      "gCAPITAL LETTER E WITH CIRCUMFLEX AND GRAVEg.zlSMAL",
      "gCAPITAL LETTER E WITH CIRCUMFLEX AND HOOK ABOVEg.zqSMAL",
      "gCAPITAL LETTER E WITH CIRCUMFLEX AND TILDEg.zlSMAL",
      "gCAPITAL LETTER E WITH CIRCUMFLEX AND DOT BELOWg.zpSMALgCAPITAL LETTER I WITH HOOK ABOVE",
      "g.zbSMALgCAPITAL LETTER I WITH DOT BELOWg.zSMALg.pCAPITAL LETTER Og.zSMAL",
      "gCAPITAL LETTER O WITH HOOK ABOVEg.zbSMALgCAPITAL LETTER O WITH CIRCUMFLEX AND ACUTE",
      "g.zlSMALgCAPITAL LETTER O WITH CIRCUMFLEX AND GRAVEg.zlSMAL",
      "gCAPITAL LETTER O WITH CIRCUMFLEX AND HOOK ABOVEg.zqSMAL",
      "gCAPITAL LETTER O WITH CIRCUMFLEX AND TILDEg.zlSMAL",
      "gCAPITAL LETTER O WITH CIRCUMFLEX AND DOT BELOWg.zpSMAL",
      "gCAPITAL LETTER O WITH HORN AND ACUTEg.zfSMALgCAPITAL LETTER O WITH HORN AND GRAVE",
      "g.zfSMALgCAPITAL LETTER O WITH HORN AND HOOK ABOVEg.zkSMAL",
      "gCAPITAL LETTER O WITH HORN AND TILDEg.zfSMALgCAPITAL LETTER O WITH HORN AND DOT BELOW",
      "g.zjSMALg.kCAPITAL LETTER U WITHg.zSMALgCAPITAL LETTER U WITH HOOK ABOVEg.zbSMAL",
      "gCAPITAL LETTER U WITH HORN AND ACUTEg.zfSMALgCAPITAL LETTER U WITH HORN AND GRAVE",
      "g.zfSMALgCAPITAL LETTER U WITH HORN AND HOOK ABOVEg.zkSMAL",
      "gCAPITAL LETTER U WITH HORN AND TILDEg.zfSMALgCAPITAL LETTER U WITH HORN AND DOT BELOW",
      "g.zjSMALgCAPITAL LETTER Y WITH GRAVEg.vSMALgCAPITAL LETTER Y WITH DOT BELOWg.zSMAL",
      "gCAPITAL LETTER Y WITH HOOK ABOVEg.zbSMALgCAPITAL LETTER Y WITH TILDEg.vSMAL",
      "gCAPITAL LETTER MIDDLE-WELSH LLg.ySMALgCAPITAL LETTER MIDDLE-WELSH Vg.xSMAL",
      "gCAPITAL LETTER Y WITH LOOPg.uSMALaGREEK SMALL LETTER ALPHA WITH PSILIzfDASIA",
      "zfPSILI AND VARIAzf.kDASIAzfPSILI AND OXIAzf.jDASIAzfPSILI AND PERISPOMENIzf.qDASIA",
      "gCAPITAL LETTER ALPHA WITH PSILIzhDASIAzhPSILI AND VARIAzh.kDASIAzhPSILI AND OXIA",
      "zh.jDASIAzhPSILI AND PERISPOMENIzh.qDASIAgSMALL LETTER EPSILON WITH PSILIzhDASIA",
      "zhPSILI AND VARIAzh.kDASIAzhPSILI AND OXIAzh.jDASIA"]),
    (0x1f18, ["gCAPITAL LETTER EPSILON WITH PSILIzjDASIAzjPSILI AND VARIAzj.kDASIA",
      "zjPSILI AND OXIAzj.jDASIA"]),
    (0x1f20, ["gSMALL LETTER ETA WITH PSILIzdDASIAzdPSILI AND VARIAzd.kDASIAzdPSILI AND OXIA",
      "zd.jDASIAzdPSILI AND PERISPOMENIzd.qDASIAgCAPITAL LETTER ETA WITH PSILIzfDASIA",
      "zfPSILI AND VARIAzf.kDASIAzfPSILI AND OXIAzf.jDASIAzfPSILI AND PERISPOMENIzf.qDASIA",
      "gSMALL LETTER IOTA WITH PSILIzeDASIAzePSILI AND VARIAze.kDASIAzePSILI AND OXIAze.jDASIA",
      "zePSILI AND PERISPOMENIze.qDASIAgCAPITAL LETTER IOTA WITH PSILIzgDASIAzgPSILI AND VARIA",
      "zg.kDASIAzgPSILI AND OXIAzg.jDASIAzgPSILI AND PERISPOMENIzg.qDASIA",
      "gSMALL LETTER OMICRON WITH PSILIzhDASIAzhPSILI AND VARIAzh.kDASIAzhPSILI AND OXIA",
      "zh.jDASIA"]),
    (0x1f48, ["gCAPITAL LETTER OMICRON WITH PSILIzjDASIAzjPSILI AND VARIAzj.kDASIA",
      "zjPSILI AND OXIAzj.jDASIA"]),
    (0x1f50, ["gSMALL LETTER UPSILON WITH PSILIzhDASIAzhPSILI AND VARIAzh.kDASIAzhPSILI AND OXIA",
      "zh.jDASIAzhPSILI AND PERISPOMENIzh.qDASIA"]),
    (0x1f59, ["gCAPITAL LETTER UPSILON WITH DASIA"]), (0x1f5b, ["zo AND VARIA"]),
    (0x1f5d, ["ztOXIA"]),
    (0x1f5f, ["ztPERISPOMENIgSMALL LETTER OMEGA WITH PSILIzfDASIAzfPSILI AND VARIAzf.kDASIA",
      "zfPSILI AND OXIAzf.jDASIAzfPSILI AND PERISPOMENIzf.qDASIAgCAPITAL LETTER OMEGA WITH PSILI",
      "zhDASIAzhPSILI AND VARIAzh.kDASIAzhPSILI AND OXIAzh.jDASIAzhPSILI AND PERISPOMENI",
      "zh.qDASIAgSMALL LETTER ALPHA WITH VARIAzfOXIAtEPSILON WITH VARIAzhOXIAuTA WITH VARIA",
      "zdOXIAtIOTA WITH VARIAzeOXIAtOMICRON WITH VARIAzhOXIAtUPSILON WITH VARIAzhOXIA",
      "tOMEGA WITH VARIAzfOXIA"]),
    (0x1f80, ["tALPHA WITH PSILI AND YPOGEGRAMMENIzf.sDASIAzf.uPSILI AND VARzf.zdDASIA",
      "zf.uPSILI AND OXzf.zcDASIAzf.sPSILI AND PERISPOMENIzf.zjDASIA",
      "g.kCAPITAL LETTER ALPHA WITH PSILI AND PROSzh.tDASIAzh.vPSILI AND VARzh.zeDASIA",
      "zh.vPSILI AND OXzh.zdDASIAzh.tPSILI AND PERISPOMENIzh.zkDASIA",
      "g.kSMALL LETTER ETA WITH PSILI AND YPOzd.sDASIAzd.uPSILI AND VARzd.zdDASIA",
      "zd.uPSILI AND OXzd.zcDASIAzd.sPSILI AND PERISPOMENIzd.zjDASIA",
      "g.kCAPITAL LETTER ETA WITH PSILI AND PROSzf.tDASIAzf.vPSILI AND VARzf.zeDASIA",
      "zf.vPSILI AND OXzf.zdDASIAzf.tPSILI AND PERISPOMENIzf.zkDASIA",
      "g.kSMALL LETTER OMEGA WITH PSILI AND YPOzf.sDASIAzf.uPSILI AND VARzf.zdDASIA",
      "zf.uPSILI AND OXzf.zcDASIAzf.sPSILI AND PERISPOMENIzf.zjDASIA",
      "g.kCAPITAL LETTER OMEGA WITH PSILI AND PROSzh.tDASIAzh.vPSILI AND VARzh.zeDASIA",
      "zh.vPSILI AND OXzh.zdDASIAzh.tPSILI AND PERISPOMENIzh.zkDASIA",
      "gSMALL LETTER ALPHA WITH VRACHYzfMACRONzfVARIA AND YPOGEGRAMMENIzf.mYzf.nOXIA AND "]),
    (0x1fb6, ["zf.ePERISPOzq AND YPOGEGRAMMENIgCAPITAL LETTER ALPHA WITH VRACHYzhMACRONzhVARIA",
      "zhOXIAzhPROSGEGRAMMENIgKORONISgPROSGEGRAMMENIhSILIhERISPOMENIg.lDIALYTIKA AND ",
      "g.eSMALL LETTER ETA WITH VARIA AND YPOGEGRAMzd.mYzd.nOXIA AND "]),
    (0x1fc6, ["zd.ePERISPOzo AND YPOGEGRAMMENIgCAPITAL LETTER EPSILON WITH VARIAzjOXIA",
      "wTA WITH VARIAzfOXIAzfPROSGEGRAMMENIgPSILI AND VARIAqOXIAqPERISPOMENI",
      "gSMALL LETTER IOTA WITH VRACHYzeMACRONzeDIALYTIKA AND VARIAzsOXIA"]),
    (0x1fd6, ["zePERISPOMENIze.lDIALYTIKA AND gCAPITAL LETTER IOTA WITH VRACHYzgMACRONzgVARIA",
      "zgOXIA"]),
    (0x1fdd, ["gDASIA AND VARIAqOXIAqPERISPOMENIgSMALL LETTER UPSILON WITH VRACHYzhMACRON",
      "zhDIALYTIKA AND VARIAzvOXIAtRHO WITH PSILIzdDASIAtUPSILON WITH PERISPOMENI",
      "zh.lDIALYTIKA AND gCAPITAL LETTER UPSILON WITH VRACHYzjMACRONzjVARIAzjOXIAvRHO WITH DASIA",
      "gDIALYTIKA AND VARIAuOXIAgVARIA"]),
    (0x1ff2, ["gSMALL LETTER OMEGA WITH VARIA AND YPOGEGRAMMENIzf.mYzf.nOXIA AND "]),
    (0x1ff6, ["zf.ePERISPOzq AND YPOGEGRAMMENIgCAPITAL LETTER OMICRON WITH VARIAzjOXIA",
      "xEGA WITH VARIAzhOXIAzhPROSGEGRAMMENIgOXIAgDASIA"]),
    (0x2000, ["aEN QUADb.fMbN SPACEb.gMa.iTHREE-PER-a.nFOURa.nSIXa.gFIGUREa.gPUNCTUATIONa.hTHI",
      "a.gHAIRa.gZERO WIDTHlNON-JOINERl.fJaLEFT-TO-RIGHT MARKa.gRIGHT-TO-LEFaHYPHEN",
      "a.gNON-BREAKING aFIGURE DASHa.fENb.fMaHORIZONTAL BARaDOUBLE VERTICAL LINEh.fLOW",
      "aLEFT SINGLE QUOTATION MARKa.xRIGHa.pSINGLE LOW-9h.rHIGH-REVERSEDa.pLEFT DOUBLEa.xRIGH",
      "a.pDOUBLE LOW-9h.rHIGH-REVERSEDbAGGERb.fOUBLE DaBULLETa.gTRIANGULAR aONE DOT LEADERa.lTWO",
      "aHORIZONTAL ELLIPSISbYPHENATION POINTaLINE SEPARATORa.kPARAGRAPHaLEFT-TO-RIGHT EMBEDDING",
      "a.lRIGHT-TO-LEFa.dPOP DIRECTIONAL FORMATTaLEFT-TO-RIGHT OVERRIDEa.kRIGHT-TO-LEF",
      "aNARROW NO-BREAK SPACEaPER MILLE SIGNe.fTEN THOUSANDbRIMEa.fDOUBLE a.iTRIPa.gREVERSED",
      "j.fDOUBLE j.iTRIPaCARETaSINGLE LEFT-POINTING ANGLE QUOTATION MARKh.zgRIGHa.fREFERENCE",
      "a.fDOUBLE EXCLAMATIONaINTERROBANGaOVERLINEaUNDERTIEa.dCHARACTER bARET INSERTION POINT",
      "aASTERISMaHYPHEN BULLETaFRACTION SLASHaLEFT SQUARE BRACKET WITH QUILLa.zcRIGH",
      "aDOUBLE QUESTION MARKa.jQUESTION EXCLAMAa.jEXCLAMATION QUESaTIRONIAN SIGN ET",
      "aREVERSED PILCROW SIGNaBLACK LEFTWARDS BULLETg.nRIGHaLOW ASTERISKaREVERSED SEMICOLON",
      "aCLOSE UPaTWO ASTERISKS ALIGNED VERTICALLYaCOMMERCIAL MINUS SIGNaSWUNG DASH",
      "aINVERTED UNDERTIEaFLOWER PUNCTUATION MARKaTHREE DOT PUNCTUATIONaQUADRUPLE PRIME",
      "aFOUR DOT PUNCTUATIONb.qIVEa.qTWOaFOUR DOT MARKaDOTTED CROSSaTRICOLONaVERTICAL FOUR DOTS",
      "aMEDIUM MATHEMATICAL SPACEaWORD JOINERaFUNCTION APPLICATIONaINVISIBLE TIMESkSEPARATOR",
      "kPLUS"]),
    (0x2066, ["aLEFT-TO-RIGHT ISOLATEa.jRIGHT-TO-LEFa.iFIRST STRONGa.iPOP DIRECTIONAL",
      "aINHIBIT SYMMETRIC SWAPPINGa.tACTIVATEa.eINHIBIT ARABIC FORM SHAa.uACTIVATE",
      "aNATIONAL DIGIT SHAPESb.qOMIaSUPERSCRIPT ZEROmLATIN SMALL LETTER I"]),
    (0x2074, ["mFOURnIVEmSIXnEVENmEIGHTmNINEmPLUS SIGNmMINUSmEQUALS SIGNmLEFT PARENTHESISm.nRIGH",
      "mLATIN SMALL LETTER NcBSCRIPT ZEROkONEkTWOlHREEkFOURlIVEkSIXlEVENkEIGHTkNINEkPLUS SIGN",
      "kMINUSkEQUALS SIGNkLEFT PARENTHESISk.nRIGH"]),
    (0x2090, ["aLATIN SUBSCRIPT SMALL LETTER AzeEzeOzeXzeSCHWAzeHzeKzeLzeMzeNzePzeSzeT"]),
    (0x20a0, ["aEURO-CURRENCY SIGNa.fCOLONb.fRUZEIROa.fFRENCH FRANCa.fLIRAa.fMILLa.fNAIRA",
      "a.gPESETa.fRUPEEa.fWONa.fNEW SHEQELa.fDONGa.fEUROa.fKIPa.fTUGRIKa.fDRACHMAa.fGERMAN PENNY",
      "a.fPESOa.fGUARANIa.fAUSTRALa.fHRYVNIAa.fCEDIa.fLIVRE TOURNOISa.fSPESMILOa.fTENGE",
      "a.gINDIAN RUPEa.fTURKISH LIRAa.fNORDIC MARKa.fMANATa.fRUBLEa.fLARIa.fBITCOINa.fSOM"]),
    (0x20d0, ["aCOMBINING LEFT HARPOON ABOVEk.pRIGHkLONG VERTICAL LINE OVERLAYk.wSHORT",
      "kANTICLOCKWISE ARROW ABOVEk.uCk.mLEFTk.nRIGHmNG OVERLAYk.mCLOCKWISE k.wANTI",
      "kTHREE DOTS ABOVEk.lFOURkENCLOSING CIRCLEuSQUAREuDIAMONDuCIRCLE BACKSLASH",
      "kLEFT RIGHT ARROW ABOVEkENCLOSING SCREENuKEYCAPuUPWARD POINTING TRIANGLE",
      "kREVERSE SOLIDUS OVERLAYk.iDOUBLE VERTICAL STROKEkANNUITY SYMBOLkTRIPLE UNDERDOT",
      "kWIDE BRIDGE ABOVEkLEFTWARDS ARROW OVERLAYl.iONG DOUBLE SOLIDUS",
      "kRIGHTWARDS HARPOON WITH BARB DOWNWARDSk.zjLEFo ARROW BELOWk.nRIGHkASTERISK ABOVE"]),
    (0x2100, ["aACCOUNT OFbDDRESSED TO THE SUBJECTaDOUBLE-STRUCK CAPITAL CbEGREE CELSIUS",
      "aCENTRE LINE SYMBOLbARE OFcDA UNAaEULER CONSTANTaSCRUPLEaDEGREE FAHRENHEITaSCRIPT SMALL G",
      "hCAPITAL Ha.kBLACK-LETTERa.kDOUBLE-STRUCKaPLANCK CONSTANTp OVER TWO PIaSCRIPT CAPITAL I",
      "a.kBLACK-LETTERaSCRIPT CAPITAL Lh.dSMALaL B BAR SYMBOLaDOUBLE-STRUCK CAPITAL N",
      "aNUMERO SIGNaSOUND RECORDING COPYRIGHTbCRIPT CAPITAL Pa.kDOUBLE-STRUCKwQaSCRIPT CAPITAL R",
      "a.kBLACK-LETTERa.kDOUBLE-STRUCKaPRESCRIPTION TAKEaRESPONSEaSERVICE MARKaTELEPHONE SIGN",
      "b.fRADE MARKaVERSICLEaDOUBLE-STRUCK CAPITAL ZaOUNCE SIGNb.fHMa.iINVERTED ",
      "aBLACK-LETTER CAPITAL ZaTURNED GREEK SMALL LETTER IOTAaKELVIN SIGNa.fANGSTROM",
      "aSCRIPT CAPITAL BaBLACK-LETTER CAPITAL CaESTIMATED SYMBOLaSCRIPT SMALL Eh.dCAPITApF",
      "a.kTURNEDaSCRIPT CAPITAL MhSMALL OaALEF SYMBOLa.hBETa.hGIMELa.hDALETaINFORMATION SOURCE",
      "aROTATED CAPITAL QaFACSIMILE SIGNaDOUBLE-STRUCK SMALL PIuGAMMAo.hCAPITAwPI",
      "oN-ARY SUMMATIONaTURNED SANS-SERIF CAPITAL GzbLa.xREVERSaTURNED SANS-SERIF CAPITAL Y",
      "aDOUBLE-STRUCK ITALIC CAPITAL Dv.dSMALzcEzcIzcJaPROPERTY LINEaTURNED AMPERSANDaPER SIGN",
      "aAKTIESELSKABaTURNED SMALL FaSYMBOL FOR SAMARITAN SOURCEaVULGAR FRACTION ONE SEVENTHu.dNI",
      "u.dTEvHIRDqTWO THIRDSqONE FIFTHqTWO FIFTHSr.hHREEq.hFOURqONE SIXTHqFIVE SIXTHSqONE EIGHTH",
      "qTHREE EIGHTHSq.jFIVq.iSEVENaFRACTION NUMERATOR ONEa.eROMAN NUMERALoTWOpHREEoFOURpIVEoSIX",
      "pEVENoEIGHToNINEoTENoELEVENoTWELVEoFIFTYoONE HUNDREDo.jFIVoONE THOUSAND",
      "aSMALL ROMAN NUMERAL ONEuTWOvHREEuFOURvIVEuSIXvEVENuEIGHTuNINEuTENuELEVENuTWELVEuFIFTY",
      "uONE HUNDREDu.jFIVuONE THOUSANDaROMAN NUMERAL ONE THOUSAND C DoFIVE THOUSANDo.jTEN",
      "oREVERSED ONE HUNDREDaLATIN SMALL LETTER REVERSED CaROMAN NUMERAL SIX LATE FORM",
      "o.fFIFTY EARLYuTHOUSANDo.jONE HUNDREDaVULGAR FRACTION ZERO THIRDSaTURNED DIGIT TWOoHREE"]),
    (0x2190, ["aLEFTWARDS ARROWa.lUPa.lRIGHTa.lDOWNa.gLEFT RIGHTa.gUP DOWNa.gNORTH WESTg.iEA",
      "a.nSOUg.iWEaLEFTWARDS ARROW WITH STROKEa.yRIGHaLEFTWARDS WAVE ARROWa.rRIGH",
      "a.gLEFTWARDS TWO HEADEDa.wUPa.wRIGHTa.wDOWNaLEFTWARDS ARROW WITH TAILa.wRIGH",
      "aLEFTWARDS ARROW FROM BARa.uUPa.uRIGHTa.uDOWNaUP DOWN ARROW WITH BASE",
      "aLEFTWARDS ARROW WITH HOOKa.wRIGHaLEFTWARDS ARROW WITH LOOPa.wRIGHaLEFT RIGHT WAVE ARROW",
      "lARROW WITH STROKEaDOWNWARDS ZIGZAG ARROWaUPWARDS ARROW WITH TIP LEFTWARDSx.gRIGH",
      "a.gDOWNWARDS ARROW WITH TIP LEFz.gRIGHa.fRIGHTWARDS ARROW WITH CORNER DOWN",
      "a.fDOWNWARDS ARROW WITH CORNER LEFTaANTICLOCKWISE TOP SEMICIRCLE ARROWa.zeC",
      "aNORTH WEST ARROW TO LONG BARa.eLEFTWARDS ARROW TO BAR OVER RIGHTWARDS ARROW TO",
      "aANTICLOCKWISE OPEN CIRCLE ARROWa.zbCaLEFTWARDS HARPOON WITH BARB UPWARDSzd.fDOWN",
      "a.fUPWARDS HARPOON WITH BARB RIGHTzb.gLEFa.fRIGHTWARDS HARPOON WITH BARB UPze.fDOWN",
      "a.fDOWNWARDS HARPOON WITH BARB RIGHTzd.gLEFaRIGHTWARDS ARROW OVER LEFTWARDS ARROW",
      "a.lUPWARDS ARROW LEFTWARDS OF DOWNa.lLEFTWARDS ARROW OVER RIGHTkPAIRED ARROWSa.tUP",
      "a.tRIGHTa.tDOWNaLEFTWARDS HARPOON OVER RIGHTWARDS HARPOONa.oRIGHTWARDS HARPOON OVER LEF",
      "aLEFTWARDS DOUBLE ARROW WITH STROKEe.z RIGHTa.zRIGHTWARDSaLEFTWARDS DOUBLE ARROWa.sUP",
      "a.sRIGHTa.sDOWNa.nLEFT RIGHTa.nUP DOWNa.nNORTH WESTg.pEAa.uSOUg.pWEa.iLEFTWARDS TRIP",
      "a.tRIGHa.iLEFTWARDS SQUIGGa.vRIGHaUPWARDS ARROW WITH DOUBLE STROKEa.zfDOWN",
      "aLEFTWARDS DASHED ARROWa.sUPa.sRIGHTa.sDOWNaLEFTWARDS ARROW TO BARa.tRIGH",
      "aLEFTWARDS WHITE ARROWa.rUPa.rRIGHTa.rDOWNaUPWARDS WHITE ARROW FROM BARuON PEDESTAL",
      "zg WITH HORIZONTAL BARzm.gVERTICoDOUBLE ARROWzb ON PEDESTAL",
      "aRIGHTWARDS WHITE ARROW FROM WALLaNORTH WEST ARROW TO CORNERa.sSOUTH EA",
      "aUP DOWN WHITE ARROWaRIGHT ARROW WITH SMALL CIRCLE",
      "aDOWNWARDS ARROW LEFTWARDS OF UPWARDS ARROWaTHREE RIGHTWARDS ARROWS",
      "aLEFTWARDS ARROW WITH VERTICAL STROKEa.ziRIGHa.zcLEFT RIGHTe.qWARDS ARROW WITH DOUBLE",
      "a.zpRIGHa.zjLEFT RIGHTeWARDS OPEN-HEADED ARROWa.yRIGHa.sLEFT RIGHTaFOR ALLaCOMPLEMENT",
      "aPARTIAL DIFFERENTIALaTHERE EXISTSgDOES NOT EXISTaEMPTY SETaINCREMENTaNABLAaELEMENT OF",
      "a.kNOT AN a.lSMALLaCONTAINS AS MEMBERa.kDOES NOT CONTAINa.kSMALL CONTAINSaEND OF PROOF",
      "aN-ARY PRODUCTg.hCOgSUMMATIONaMINUS SIGNf.f-OR-PLUSaDOT PLUSbIVISION SLASHaSET MINUS",
      "aASTERISK OPERATORa.jRINGa.jBULLETaSQUARE ROOTa.gCUBa.fFOURTHaPROPORTIONAL TOaINFINITY",
      "aRIGHT ANGLEa.eAa.fMEASURED a.gSPHERICALaDIVIDESbOES NOT DIVIDEaPARALLEL TOa.lNOT ",
      "aLOGICAL ANDiORaINTERSECTIONa.dUNaINTEGRALa.iDOUBLE a.lTRIPa.jCONTOURa.jSURFACEa.kVOLUM",
      "a.kCLOCKWISk.iCONTOUR a.zbANTIaTHEREFOREaBECAUSEaRATIOaPROPORTIONaDOT MINUSaEXCESS",
      "aGEOMETRIC PROPORTIONaHOMOTHETICaTILDE OPERATORaREVERSED TILDEaINVERTED LAZY SaSINE WAVE",
      "aWREATH PRODUCTaNOT TILDEa.gMINUSaASYMPTOTICALLY EQUAL TOa.xNOT a.lAPPROXIMATE",
      "o.iBUT NOT ACTUALLY a.sNEITHER APPROXIMATELY NORa.jALMOSTa.pNOT a.jALMOST EQUAL OR",
      "aTRIPLE TILDEaALL EQUAL TOa.dEQUIVALENTa.nGEOMETRICALLY aDIFFERENCE BETWEEN",
      "aAPPROACHES THE LIMITaGEOMETRICALLY EQUAL TOaAPPROXIMATELY EQUAL TO OR THE IMAGE OF",
      "aIMAGE OF OR APPROXIMATELY EQUAL TOaCOLON EQUALSaEQUALS COLONaRING IN EQUAL TOf.hE",
      "a.dCORRESPONDSaESTIMATESbQUIANGULAR TOaSTAR EQUALSaDELTA EQUAL TOaEQUAL TO BY DEFINITION",
      "aMEASURED BYaQUESTIONED EQUAL TOa.jNOTa.fIDENTICa.mNOT a.dSTRICTLY EQUIVALENT",
      "a.dLESS-THAN OR EQUALa.rGREATERa.kLESS-THAN OVEa.tGREATERa.jLESS-THAN BUT NOTa.wGREATER",
      "aMUCH LESS-THANf.fGREATERaBETWEENaNOT EQUIVALENT TOeLESS-THANe.fGREATER",
      "bEITHER LESS-THAN NOR EQUAL TOi.sGREATERa.dLESS-THAN OR EQUIVALENTa.wGREATER",
      "a.qNEITHER LESS-THAN Ni.xGREATERaLESS-THAN OR GREATER-THANa.fGREATER-THAN OR LESS",
      "a.fNEITHER LESS-THAN NOR GREATERi.fGREATER-THAN NOR LESSaPRECEDESaSUCCEEDS",
      "aPRECEDES OR EQUAL TOa.nSUCCEEDa.dPRECEDES OR EQUIVALENTa.sSUCCEEDaDOES NOT PRECEDE",
      "jSUCCEEDaSUBSET OFc.gPERa.gNOT A SUBi.gPERaSUBSET OF OR EQUAL TOc.sPER",
      "a.lNEITHER A SUBSET OF Nm.tPERa.jSUBSET OF WITH NOTc.yPERaMULTISETi MULTIPLICATIONj.dUN",
      "aSQUARE IMAGE OFh.dORIGINALhIMAGE OF OR EQUAL TOh.pORIGINALhCAPiUPaCIRCLED PLUSiMINUS",
      "iTIMESiDIVISION SLASHjOT OPERATORi.jRINGi.jASTERISKiEQUALSiDASHaSQUARED PLUSiMINUSiTIMES",
      "iDOT OPERATORaRIGHT TACKa.gLEFa.fDOWNa.fUPaASSERTIONaMODELSaTRUEaFORCES",
      "aTRIPLE VERTICAL BAR RIGHT TURNSTILEa.qDOUBLE VERTICAL BAR DOUBLEcES NOT PROVEaNOT TRUE",
      "aDOES NOT FORCEaNEGATED DOUBLE VERTICAL BAR DOUBLE RIGHT TURNSTILE",
      "aPRECEDES UNDER RELATIONa.qSUCCEEDaNORMAL SUBGROUP OFaCONTAINS AS NORMAL SUBGROUP",
      "aNORMAL SUBGROUP OF OR EQUAL TOa.mCONTAINS AS NORMAL SUBGROUPaORIGINAL OFa.dIMAGE",
      "aMULTIMAPaHERMITIAN CONJUGATE MATRIXaINTERCALATEaXORaNANDbORaRIGHT ANGLE WITH ARC",
      "gTRIANGLEaN-ARY LOGICAL ANDoORgINTERSECTIONg.dUNaDIAMOND OPERATORb.jOTa.jSTAR",
      "aDIVISION TIMESaBOWTIEaLEFT NORMAL FACTOR SEMIDIRECT PRODUCTa.zjRIGHa.tLEFTa.uRIGH",
      "bEVERSED TILDE EQUALSaCURLY LOGICAL ORoANDaDOUBLE SUBSETj.dPERhINTERSECTIONh.dUN",
      "aPITCHFORKaEQUAL AND PARALLEL TOaLESS-THAN WITH DOTa.oGREATERaVERY MUCH LESS-THAN",
      "k.fGREATERa.nLESS-THAN EQUAL TO ORa.fGREATER-THAN EQUAL TO OR LESSa.uEm.fGREATERmPRECEDES",
      "mSUCCEEDSaDOES NOT PRECEDE OR EQUALj.jSUCCEEDaNOT SQUARE IMAGE OF OR EQUAL TOl.pORIGINAL",
      "a.jSQUARE IMAGE OF OR NOTh.tORIGINALa.dLESS-THAN BUT NOT EQUIVALENTa.zcGREATERa.wPRECEDES",
      "a.xSUCCEEDaNOT NORMAL SUBGROUP OFaDOES NOT CONTAIN AS NORMAL SUBGROUP",
      "aNOT NORMAL SUBGROUP OF OR EQUAL TOaDOES NOT CONTAIN AS NORMAL SUBGROUP OR EQUAL",
      "aVERTICAL ELLIPSISa.lMIDLINE HORIZONTa.lUP RIGHT DIAGONa.yDOWN",
      "aELEMENT OF WITH LONG HORIZONTAL STROKEq.sVERTICAL BAR AT END OFa.zzgSMALL ",
      "aELEMENT OF WITH DOT ABOVEqOVERBARa.xSMALL a.fELEMENT OF WITH UNDqTWO HORIZONTAL STROKES",
      "aCONTAINS WITH LONG HORIZONTAL STROKEo.sVERTICAL BAR AT END OFa.zzeSMALL ",
      "aCONTAINS WITH OVERBARa.vSMALL aZ NOTATION BAG MEMBERSHIPaDIAMETER SIGNaELECTRIC ARROW",
      "aHOUSEaUP ARROWHEADa.kDOWNaPROJECTIVEb.gERSPaWAVY LINEaLEFT CEILINGa.jRIGHaLEFT FLOOR",
      "a.hRIGHaBOTTOM RIGHT CROPh.gLEFa.gTOP RIGHe.gLEFaREVERSED NOT SIGNaSQUARE LOZENGEaARC",
      "aSEGMENTcCTORaTELEPHONE RECORDERaPOSITION INDICATORaVIEWDATA SQUARE",
      "aPLACE OF INTEREST SIGNa.gTURNED NOaWATCHaHOURGLASSaTOP LEFT CORNERe.iRIGHa.iBOTTOM LEF",
      "h.iRIGHaTOP HALF INTEGRALa.oBOTTOMaFROWNaSMILEaUP ARROWHEAD BETWEEN TWO HORIZONTAL BARS",
      "aOPTION KEYaERASE TO THE RIGHTaX IN A RECTANGLE BOXaKEYBOARDaLEFT-POINTING ANGLE BRACKET",
      "a.yRIGHaERASE TO THE LEFTaBENZENE RINGaCYLINDRICITYaALL AROUND-PROFILEaSYMMETRY",
      "aTOTAL RUNOUTaDIMENSION ORIGINaCONICAL TAPERaSLOPEaCOUNTERBOREhSINK",
      "aAPL FUNCTIONAL SYMBOL I-BEAMwSQUISH QUADwQUAD EQUALzcDIVIDEzeAMONDzcJOTzcCIRCLE",
      "wCIRCLE STILEzeJOTwSLASH BARw.jBACKwQUAD SLASHzc.fBACKzcLESS-THANzc.fGREATER",
      "wLEFTWARDS VANEw.lRIGHwQUAD LEFTWARDS ARROWzc.mRIGHwCIRCLE BACKSLASHwDOWN TACK UNDERBAR",
      "xELTA STILEwQUAD DOWN CARETzdELTAwDOWN TACK JOTwUPWARDS VANEwQUAD UPWARDS ARROW",
      "wUP TACK OVERBARwDEL STILEwQUAD UP CARETzcDELwUP TACK JOTwDOWNWARDS VANE",
      "wQUAD DOWNWARDS ARROWyOTE UNDERBARw.jDELTAx.jIAMONDw.jJOTw.jCIRCLEwUP SHOE JOTwQUOTE QUAD",
      "wCIRCLE STARwQUAD COLONwUP TACK DIAERESISw.kDELw.kSTARw.kJOTw.kCIRCLEwDOWN SHOE STILE",
      "w.lLEFTwTILDE DIAERESISw.kGREATER-THANwCOMMA BARwDEL TILDEw.eZw.eSTILE T",
      "xEMICOLON UNDERBARwQUAD NOT EQUALzcQUESTIONwDOWN CARET TILDEw.mUPwIOTAwRHOwOMEGA",
      "wALPHA UNDERBARw.jEPSILONw.jIOTAw.kOMEGwALPHAaNOT CHECK MARK",
      "aRIGHT ANGLE WITH DOWNWARDS ZIGZAG ARROWaSHOULDERED OPEN BOXaBELL SYMBOL",
      "aVERTICAL LINE WITH MIDDLE DOTaINSERTION SYMBOLa.hCONTINUOUS UNDERLINEa.zcDISa.hEMPHASIS",
      "a.hCOMPOSITIONaWHITE SQUARE WITH CENTRE VERTICAL LINEaENTER SYMBOLa.hALTERNATIVE KEY",
      "a.hHELMaCIRCLED HORIZONTAL BAR WITH NOTCHiTRIANGLE DOWN",
      "aBROKEN CIRCLE WITH NORTHWEST ARROWaUNDO SYMBOLa.hMONOSTABLEa.hHYSTERESIS",
      "a.hOPEN-CIRCUIT-OUTPUT H-TYPEu.mLa.hPASSIVE-PULL-DOWN-OUTPUTn.oUP",
      "aDIRECT CURRENT SYMBOL FORM TWOaSOFTWARE-FUNCTION SYMBOLaAPL FUNCTIONAL SYMBOL QUAD",
      "aDECIMAL SEPARATOR KEY SYMBOLaPREVIOUS PAGEa.fNEXTaPRINT SCREEN SYMBOLa.oCLEAR",
      "aLEFT PARENTHESIS UPPER HOOKrEXTENSIONrLOWER HOOKa.hRIGHT PARENTHESIS UPPsEXTENSION",
      "sLOWER HOOKaLEFT SQUARE BRACKET UPPER CORNERuEXTENSIONuLOWER CORNER",
      "a.jRIGHT SQUARE BRACKET UPPvEXTENSIONvLOWER CORNERaLEFT CURLY BRACKET UPPER HOOK",
      "tMIDDLE PIECEtLOWER HOOKaCURLY BRACKET EXTENSIONaRIGHT CURLY BRACKET UPPER HOOK",
      "uMIDDLE PIECEuLOWER HOOKaINTEGRAL EXTENSIONa.kHORIZONTAL LINE",
      "a.dUPPER LEFT OR LOWER RIGHT CURLY BRACKET SECTg.xRIGHT OR LOWER LEFaSUMMATION TOPkBOTTOM",
      "aTOP SQUARE BRACKETa.pBOTTOMv OVER TOP SQUARE BRACKETaRADICAL SYMBOL BOTTOM",
      "aLEFT VERTICAL BOX LINEa.tRIGHaHORIZONTAL SCAN LINE-1v3v7v9",
      "aDENTISTRY SYMBOL LIGHT VERTICAL AND TOP RIGHTzl.gBOTTOMzhWITH CIRCLEx.oDOWN AND HORIZONT",
      "x.zcUPxVERTICAL WITH TRIANGLEx.qDOWN AND HORIZONTx.zeUPxVERTICAL AND WAVE",
      "x.fDOWN AND HORIZONTAL WITHx.zUPxDOWN AND HORIZONTALx.pUPxVERTICAL AND TOP LEFTzl.fBOTTOM",
      "aSQUARE FOOTaRETURN SYMBOLa.hEJECTaVERTICAL LINE EXTENSIONaMETRICAL BREVEjLONG OVER SHORT",
      "jSHORT OVER LONGjLONG OVER TWO SHORTSjTWO SHORTS OVER LONGuJOINEDkRISEMEk.eETRAj.fPENT",
      "aEARTH GROUNDaFUSEaTOP PARENTHESISa.mBOTTOMaTOP CURLY BRACKETa.oBOTTOM",
      "a.iTOP TORTOISE SHELLa.xBOTTOMaWHITE TRAPEZIUMaBENZENE RING WITH CIRCLEaSTRAIGHTNESS",
      "a.fFLAaAC CURRENTaELECTRICAL INTERSECTIONaDECIMAL EXPONENT SYMBOL",
      "aBLACK RIGHT-POINTING DOUBLE TRIANGLEg.zbLEFg.zUPg.zDOWN",
      "gRIGHT-POINTING DOUBLE TRIANGLE WITH VERTICAL BARg.ztLEF",
      "g.nRIGHT-POINTING TRIANGLE WITH DOUBLEaALARM CLOCKaSTOPWATCHaTIMER CLOCK",
      "aHOURGLASS WITH FLOWING SANDaBLACK MEDIUM LEFT-POINTING TRIANGLEn.tRIGHn.sUPn.sDOWN",
      "aDOUBLE VERTICAL BARaBLACK SQUARE FOR STOPgCIRCLE FOR RECORDaPOWER SYMBOLg.gON-OFF i.g ",
      "g.hSLEEPa.hOBSERVER EYEaSYMBOL FOR NULLlSTART OF HEADINGuTEXTl.iENDtRANSMISSIONnQUIRY",
      "lACKNOWLEDGElBELLmACKSPACElHORIZONTAL TABULATIONlLINE FEEDlVERTICAL TABULATIONlFORM FEED",
      "lCARRIAGE RETURNlSHIFT OUTrINlDATA LINK ESCAPEmEVICE CONTROL ONEzbTWOzcHREEzbFOUR",
      "lNEGATIVE ACKNOWLEDGElSYNCHRONOUS IDLElEND OF TRANSMISSION BLOCKlCANCELlEND OF MEDIUM",
      "lSUBSTITUTElESCAPElFILE SEPARATORl.kGROUPl.kRECORDl.kUNITlSPACElDELETEaBLANK SYMBOL",
      "aOPEN BOXaSYMBOL FOR NEWLINElDELETE FORM TWOl.lSUBSTITU"]),
    (0x2440, ["aOCR HOOKeCHAIReFORKe.eINVERTED eBELT BUCKLEfOW TIEfRANCH BANK IDENTIFICATION",
      "eAMOUNT OF CHECKeDASHeCUSTOMER ACCOUNT NUMBEReDOUBLE BACKSLASH"]),
    (0x2460, ["aCIRCLED DIGIT ONEoTWOpHREEoFOURpIVEoSIXpEVENoEIGHToNINEiNUMBER TENpELEVENpTWELVE",
      "qHIRTEENp.fFOUq.eIFp.eSIXq.eEVENp.eEIGHp.eNINEpTWENTYaPARENTHESIZED DIGIT ONEuTWOvHREE",
      "uFOURvIVEuSIXvEVENuEIGHTuNINEoNUMBER TENvELEVENvTWELVEwHIRTEENv.fFOUw.eIFv.eSIXw.eEVEN",
      "v.eEIGHv.eNINEvTWENTYaDIGIT ONE FULL STOPg.kTWOh.kHREEg.kFOURh.kIVEg.kSIXh.kEVENg.kEIGHT",
      "g.kNINEa.kNUMBER TENh.mELEVh.kTWELVEi.kHIRTEENh.pFOUi.oIFh.oSIXi.oEVENh.oEIGHh.oNINE",
      "h.kTWENTYaPARENTHESIZED LATIN SMALL LETTER AziBziCziDziEziFziGziHziIziJziKziLziMziNziOziP",
      "ziQziRziSziTziUziVziWziXziYziZaCIRCLED LATIN CAPITAL LETTER AzeBzeCzeDzeEzeFzeGzeHzeIzeJ",
      "zeKzeLzeMzeNzeOzePzeQzeRzeSzeTzeUzeVzeWzeXzeYzeZoSMALL LETTER AzcBzcCzcDzcEzcFzcGzcHzcI",
      "zcJzcKzcLzcMzcNzcOzcPzcQzcRzcSzcTzcUzcVzcWzcXzcYzcZiDIGIT ZERO",
      "aNEGATIVE CIRCLED NUMBER ELEVENyTWELVEzHIRTEENy.fFOUz.eIFy.eSIXz.eEVENy.eEIGHy.eNINE",
      "yTWENTYaDOUBLE CIRCLED DIGIT ONEvTWOwHREEvFOURwIVEvSIXwEVENvEIGHTvNINEpNUMBER TEN",
      "aNEGATIVE CIRCLED DIGIT ZEROaBOX DRAWINGS LIGHT HORIZONTALn.lHEAVYnLIGHT VERTICALn.jHEAVY",
      "nLIGHT TRIPLE DASH HORIZONTALn.xHEAVYnLIGHT TRIPLE DASH VERTICALn.vHEAVY",
      "nLIGHT QUADRUPLE DASH HORIZONTALn.zbHEAVYnLIGHT QUADRUPLE DASH VERTICALn.yHEAVY",
      "nLIGHT DOWN AND RIGHTnDOWN LIGHT AND RIGHT HEAVYsHEAVY AND RIGHT LIGHTn.eHEAVY DOWN AND R",
      "nLIGHT DOWN AND LEFTnDOWN LIGHT AND LEFT HEAVYsHEAVY AND LEFT LIGHTnHEAVY DOWN AND LEFT",
      "nLIGHT UP AND RIGHTnUP LIGHT AND RIGHT HEAVYqHEAVY AND RIGHT LIGHTn.eHEAVY UP AND R",
      "nLIGHT UP AND LEFTnUP LIGHT AND LEFT HEAVYqHEAVY AND LEFT LIGHTnHEAVY UP AND LEFT",
      "nLIGHT VERTICAL AND RIGHTnVERTICAL LIGHT AND RIGHT HEAVYnUP HEAVY AND RIGHT DOWN LIGHT",
      "n.gDOWN HEAVY AND RIGHT UPn.gVERTICAL HEAVY AND RIGHTnDOWN LIGHT AND RIGHT UP HEAVY",
      "n.gUP LIGHT AND RIGHT DOWNnHEAVY VERTICAL AND RIGHTnLIGHT VERTICAL AND LEFT",
      "nVERTICAL LIGHT AND LEFT HEAVYnUP HEAVY AND LEFT DOWN LIGHTn.gDOWN HEAVY AND LEFT UP",
      "n.gVERTICAL HEAVY AND LEFTnDOWN LIGHT AND LEFT UP HEAVYn.gUP LIGHT AND LEFT DOWN",
      "nHEAVY VERTICAL AND LEFTnLIGHT DOWN AND HORIZONTALoEFT HEAVY AND RIGHT DOWN LIGHT",
      "n.mRIGHT HEAVY AND LEFnDOWN LIGHT AND HORIZONTAL HEAVYsHEAVY AND HORIZONTAL LIGHT",
      "nRIGHT LIGHT AND LEFT DOWN HEAVYn.mLEFT LIGHT AND RIGHnHEAVY DOWN AND HORIZONTAL",
      "n.pLIGHT UPoEFT HEAVY AND RIGHT UP LIGHTn.kRIGHT HEAVY AND LEF",
      "nUP LIGHT AND HORIZONTAL HEAVYqHEAVY AND HORIZONTAL LIGHTnRIGHT LIGHT AND LEFT UP HEAVY",
      "n.kLEFT LIGHT AND RIGHnHEAVY UP AND HORIZONTALn.pLIGHT VERTICAL",
      "oEFT HEAVY AND RIGHT VERTICAL LIGHTn.qRIGHT HEAVY AND LEF",
      "nVERTICAL LIGHT AND HORIZONTAL HEAVYnUP HEAVY AND DOWN HORIZONTAL LIGHT",
      "n.rDOWN HEAVY AND UPn.rVERTICAL HEAVY ANDn.gLEFT UP HEAVY AND RIGHT DOWN",
      "n.mRIGHT UP HEAVY AND LEFn.gLEFT DOWN HEAVY AND RIGHT UPn.kRIGHT DOWN HEAVY AND LEF",
      "nDOWN LIGHT AND UP HORIZONTAL HEAVYn.rUP LIGHT AND DOWNn.iRIGHT LIGHT AND LEFT VERTIC",
      "n.qLEFT LIGHT AND RIGHnHEAVY VERTICAL AND HORIZONTALn.lLIGHT DOUBLE DASHn.xHEAVY",
      "nLIGHT DOUBLE DASH VERTICALn.vHEAVYnDOUBLE HORIZONTALuVERTICALpWN SINGLE AND RIGHT DOUBLE",
      "sDOUBLE AND RIGHT SINGLEpUBLE DOWN AND RIGHTpWN SINGLE AND LEFT DOUBLE",
      "sDOUBLE AND LEFT SINGLEpUBLE DOWN AND LEFTnUP SINGLE AND RIGHT DOUBLE",
      "qDOUBLE AND RIGHT SINGLEnDOUBLE UP AND RIGHTnUP SINGLE AND LEFT DOUBLE",
      "qDOUBLE AND LEFT SINGLEnDOUBLE UP AND LEFTnVERTICAL SINGLE AND RIGHT DOUBLE",
      "wDOUBLE AND RIGHT SINGLEnDOUBLE VERTICAL AND RIGHTnVERTICAL SINGLE AND LEFT DOUBLE",
      "wDOUBLE AND LEFT SINGLEnDOUBLE VERTICAL AND LEFTpWN SINGLE AND HORIZONTAL DOUBLE",
      "sDOUBLE AND HORIZONTAL SINGLEpUBLE DOWN AND HORIZONTALnUP SINGLE AND HORIZONTAL DOUBLE",
      "qDOUBLE AND HORIZONTAL SINGLEnDOUBLE UP AND HORIZONTAL",
      "nVERTICAL SINGLE AND HORIZONTAL DOUBLEwDOUBLE AND HORIZONTAL SINGLE",
      "nDOUBLE VERTICAL AND HORIZONTALnLIGHT ARC DOWN AND RIGHTzhLEFTx.jUPzfRIGHT",
      "tDIAGONAL UPPER RIGHT TO LOWER LEFTzjLEFT TO LOWER RIGHTzdCROSStLEFTtUPtRIGHTtDOWN",
      "nHEAVY LEFTtUPtRIGHTtDOWNnLIGHT LEFT AND HEAVY RIGHTtUP AND HEAVY DOWN",
      "nHEAVY LEFT AND LIGHT RIGHTtUP AND LIGHT DOWNaUPPER HALF BLOCKa.gLOWER ONE EIGHTH",
      "k.gQUARTERg.gTHREE EIGHTHSg.gHALFg.gFIVE EIGHTHSg.hTHREE QUARTERg.hSEVEN EIGHTHa.gFULL",
      "a.gLEFT SEVEN EIGHTHSf.hTHREE QUARTERf.hFIVE EIGHTHf.gHALFf.gTHREE EIGHTHSf.gONE QUARTER",
      "j.gEIGHTHa.gRIGHT HALFaLIGHT SHADEa.gMEDIUMa.gDARKaUPPER ONE EIGHTH BLOCKa.rRIGHT",
      "aQUADRANT LOWER LEFTpRIGHTjUPPER LEFTt AND LOWER LEFT AND LOWER RIGHTzf.eR",
      "yUPPER RIGHT AND LOWER LEFTzvRIGHTp.eRu AND LOWER LEFTzk AND LOWER RIGHTaBLACK SQUARE",
      "a.hWHITEm WITH ROUNDED CORNERSnCONTAINING BLACK SMALL SQUAREaSQUARE WITH HORIZONTAL FILL",
      "m.hVERTICm.fORTHOGONAL CROSSHATCHm.fUPPER LEFT TO LOWER RIGHTs.gRIGHT TO LOWER LEF",
      "m.fDIAGONAL CROSSHATCHaBLACK SMALL SQUAREa.nWHITEaBLACK RECTANGLEa.kWHITE",
      "a.kBLACK VERTICALa.tWHITEaBLACK PARALLELOGRAMa.oWHITEaBLACK UP-POINTING TRIANGLEa.vWHITE",
      "a.jBLACK UP-POINTING SMALLa.zcWHITEa.jBLACK RIGHT-POINTINGa.yWHITE",
      "a.jBLACK RIGHT-POINTING SMALLa.zfWHITEaBLACK RIGHT-POINTING POINTERa.xWHITE",
      "aBLACK DOWN-POINTING TRIANGLEa.xWHITEa.jBLACK DOWN-POINTING SMALLa.zeWHITE",
      "a.jBLACK LEFT-POINTINGa.xWHITEa.jBLACK LEFT-POINTING SMALLa.zeWHITE",
      "aBLACK LEFT-POINTING POINTERa.wWHITEaBLACK DIAMONDa.iWHITE",
      "n CONTAINING BLACK SMALL DIAMONDaFISHEYEaLOZENGEaWHITE CIRCLEa.hDOTTED",
      "aCIRCLE WITH VERTICAL FILLaBULLSEYEbLACK CIRCLEaCIRCLE WITH LEFT HALF BLACKm.mRIGH",
      "m.lLOWERm.nUPPs.gRIGHT QUADRANTm.qALL BUT UPPER LEFaLEFT HALF BLACK CIRCLEa.tRIGH",
      "aINVERSE BULLETiWHITE CIRCLEa.uUPPER HALF a.zdLOWaUPPER LEFT QUADRANT CIRCULAR ARCg.xRIGH",
      "a.zfLOWg.xLEFaUPPER HALF CIRCLEa.oLOWaBLACK LOWER RIGHT TRIANGLEm.kLEFg.qUPPm.kRIGH",
      "aWHITE BULLETaSQUARE WITH LEFT HALF BLACKm.mRIGHm.lUPPER LEFT DIAGONALm.vLOWER RIGH",
      "aWHITE SQUARE WITH VERTICAL BISECTING LINEgUP-POINTING TRIANGLE WITH DOT",
      "aUP-POINTING TRIANGLE WITH LEFT HALF BLACKzb.mRIGHaLARGE CIRCLE",
      "aWHITE SQUARE WITH UPPER LEFT QUADRANTs.qLOWy.kRIGHs.rUPPg.kCIRCLE WITH UPPER LEFs.qLOW",
      "y.kRIGHs.rUPPaUPPER LEFT TRIANGLEg.kRIGHa.kLOWER LEFaWHITE MEDIUM SQUAREa.oBLACK",
      "a.hWHITE MEDIUM SMALLa.uBLACKaLOWER RIGHT TRIANGLEaBLACK SUN WITH RAYSaCLOUDaUMBRELLA",
      "aSNOWMANaCOMETaBLACK STARa.fWHITEaLIGHTNINGaTHUNDERSTORMaSUNaASCENDING NODEa.nDE",
      "aCONJUNCTIONa.eOPPOSIaBLACK TELEPHONEa.kWHITEaBALLOT BOXk WITH CHECKqXaSALTIRE",
      "aUMBRELLA WITH RAIN DROPSaHOT BEVERAGEaWHITE SHOGI PIECEa.mBLACKaSHAMROCK",
      "aREVERSED ROTATED FLORAL HEART BULLETaBLACK LEFT POINTING INDEXg.qRIGHa.qWHITE LEFg.pUP",
      "g.pRIGHTg.pDOWNaSKULL AND CROSSBONESaCAUTION SIGNa.fRADIOACTIVEa.fBIOHAZARDaCADUCEUSaANKH",
      "aORTHODOX CROSSaCHI RHObROSS OF LORRAINEjJERUSALEMaSTAR AND CRESCENTaFARSI SYMBOL",
      "aADI SHAKTIaHAMMER AND SICKLEaPEACE SYMBOLaYIN YANGaTRIGRAM FOR HEAVENmLAKEmFIREmTHUNDER",
      "mWINDnATERmMOUNTAINmEARTHaWHEEL OF DHARMAcITE FROWNING FACEg.iSMILa.nBLACK",
      "aWHITE SUN WITH RAYSaFIRST QUARTER MOONa.pLAaMERCURYaFEMALE SIGNaEARTHaMALE SIGNaJUPITER",
      "aSATURNaURANUSaNEPTUNEaPLUTOaARIESaTAURUSaGEMINIaCANCERaLEOaVIRGOaLIBRAaSCORPIUS",
      "b.dAGITTARaCAPRICORNaAQUARIUSaPISCESaWHITE CHESS KINGmQUEENmROOKmBISHOPmKNIGHTmPAWN",
      "aBLACK CHESS KINGmQUEENmROOKmBISHOPmKNIGHTmPAWNgSPADE SUITa.fWHITE HEARTg.fDIAMOND",
      "a.fBLACK CLUBa.fWHITE SPADEa.fBLACK HEARTg.fDIAMONDa.fWHITE CLUBaHOT SPRINGSaQUARTER NOTE",
      "a.fEIGHTHaBEAMED EIGHTH NOTESh.iSIXTEENaMUSIC FLAT SIGNg.fNATURALg.fSHARP",
      "aWEST SYRIAC CROSSa.pEAaUNIVERSAL RECYCLING SYMBOLaRECYCLING SYMBOL FOR TYPE-1 PLASTICS",
      "zb.j2zb.j3zb.j4zb.j5zb.j6zb.j7vGENERIC MATERIALSaBLACK UNIVERSAL RECYCLING SYMBOL",
      "a.hRECYCLED PAPERa.vPARTIALLY-bERMANENT PAPER SIGNaWHEELCHAIR SYMBOLaDIE FACE-1j2j3j4j5j6",
      "aWHITE CIRCLE WITH DOT RIGHTsTWO DOTSaBLACK CIRCLE WITH WHITE DOT RIGHTsTWO WHITE DOTS",
      "aMONOGRAM FOR YANGoINaDIGRAM FOR GREATER YANGlLESSER YINtANGlGREATER YINaWHITE FLAG",
      "a.fBLACKaHAMMER AND PICKaANCHORaCROSSED SWORDSaSTAFF OF AESCULAPIUSbCALESaALEMBICaFLOWER",
      "aGEARaSTAFF OF HERMESaATOM SYMBOLaFLEUR-DE-LISaOUTLINED WHITE STAR",
      "aTHREE LINES CONVERGING RIGHTxLEFTaWARNING SIGNa.fHIGH VOLTAGEa.gDOUBLED FEMALi.iM",
      "a.lINTERLOCKED FEMALE ANa.jMALE AND FEf.gWITH STROKr.eAND MALE AND FEMALE ",
      "a.gVERTICAL MALE WITH STROKa.yHORIZONTaMEDIUM WHITE CIRCLEh.hBLACKh.hSMALL WHITE",
      "bARRIAGE SYMBOLa.iDIVORCa.hUNMARRIED PARTNERSHIPaCOFFINaFUNERAL URNaNEUTERaCERESaPALLAS",
      "aJUNOaVESTAaCHIRONaBLACK MOON LILITHaSEXTILEc.fMISEaQUINCUNXaSESQUIQUADRATEbOCCER BALL",
      "a.eBASEaSQUARED KEYaWHITE DRAUGHTS MANpKINGaBLACK DRAUGHTS MANpKINGaSNOWMAN WITHOUT SNOW",
      "bUN BEHIND CLOUDaRAINaBLACK SNOWMANaTHUNDER CLOUD AND RAINbURNED WHITE SHOGI PIECE",
      "h.mBLACKaWHITE DIAMOND IN SQUAREaCROSSING LANESaDISABLED CARaOPHIUCHUSaPICKaCAR SLIDING",
      "aHELMET WITH WHITE CROSSaCIRCLED CROSSING LANESbHAINSaNO ENTRY",
      "aALTERNATE ONE-WAY LEFT WAY TRAFFICa.vBLACK TWOa.zWHITEaBLACK LEFT LANE MERGEa.qWHITE",
      "aDRIVE SLOW SIGNaHEAVY WHITE DOWN-POINTING TRIANGLEaLEFT CLOSED ENTRYaSQUARED SALTIRE",
      "aFALLING DIAGONAL IN WHITE CIRCLE IN BLACK SQUAREaBLACK TRUCKaRESTRICTED LEFT ENTRY-1w2",
      "aASTRONOMICAL SYMBOL FOR URANUSaHEAVY CIRCLE WITH STROKE AND TWO DOTS ABOVEaPENTAGRAM",
      "a.jRIGHT-HANDED INTERLACED a.zeLEFa.mINVERTaBLACK CROSS ON SHIELDaSHINTO SHRINEaCHURCH",
      "bASTLEaHISTORIC SITEaGEAR WITHOUT HUBj HANDLESaMAP SYMBOL FOR LIGHTHOUSEbOUNTAIN",
      "aUMBRELLA ON GROUNDaFOUNTAINbLAG IN HOLEbERRYaSAILBOATbQUARE FOUR CORNERSbKIERaICE SKATE",
      "aPERSON WITH BALLaTENTaJAPANESE BANK SYMBOLa.hHEADSTONE GRAVEYARDaFUEL PUMP",
      "aCUP ON BLACK SQUAREaWHITE FLAG WITH HORIZONTAL MIDDLE BLACK STRIPEaBLACK SAFETY SCISSORS",
      "a.jUPPER BLADEa.jBLACKa.jLOWER BLADEa.kWHITgHEAVY CHECK MARKaTELEPHONE LOCATION SIGN",
      "bAPE DRIVEaAIRPLANEaENVELOPEaRAISED FISThHANDa.fVICTORYa.fWRITINGaLOWER RIGHT PENCILa.fP",
      "a.gUPPER RIGHT aWHITE NIBa.eBLACKaCHECK MARKa.kHEAVY aMULTIPLICATION Xa.qHEAVY aBALLOT X",
      "a.iHEAVY aOUTLINED GREEK CROSSa.mHEAVYa.gOPEN CENTREa.rHEAVY a.gLATINa.lSHADOWED WHITE ",
      "a.mOUTLINEDa.gMALTESEaSTAR OF DAVIDaFOUR TEARDROP-SPOKED ASTERISKf.qBALLOONa.zdHEAVY ",
      "a.qFOUR CLUBaBLACK FOUR POINTED STARa.sWHITEaSPARKLESbTRESS OUTLINED WHITE STARa.nCIRCL",
      "a.fOPEN CENTRE BLACKa.fBLACK CENTRE WHITEa.fOUTLINED BLACKa.tHEAVY a.fPINWHEEL",
      "a.fSHADOWED WHITEaHEAVY ASTERISKa.jOPEN CENTREa.jEIGHT SPOKEDgPOINTED BLACK STAR",
      "o.fPINWHEELa.fSIX POINTED BLACKa.lEIGHT POINTED RECTILINEARa.zlHEAVY a.lTWELVE POINTED",
      "aSIXTEEN POINTED ASTERISKa.lTEARDROP-SPOKa.yOPEN CENTRE a.zHEAVY",
      "aSIX PETALLED BLACK AND WHITE FLORETTEa.jBLACKa.jWHITEa.jEIGHT PETALLED OUTLINED BLACK",
      "aCIRCLED OPEN CENTRE EIGHT POINTED STARaHEAVY TEARDROP-SPOKED PINWHEEL ASTERISKaSNOWFLAKE",
      "a.jTIGHT TRIFOLIATE a.kHEAVY CHEVRONaSPARKLEa.hHEAVY aBALLOON-SPOKED ASTERISK",
      "a.jEIGHT TEARDROP-SPOKED PROPELLERa.zpHEAVY aCROSS MARKaSHADOWED WHITE CIRCLE",
      "aNEGATIVE SQUARED CROSS MARKaLOWER RIGHT DROP-SHADOWED WHITE SQUAREa.zkUPPa.vLOWER RIGHT ",
      "a.zfUPPaBLACK QUESTION MARK ORNAMENTa.xWHITEg.sEXCLAMAaBLACK DIAMOND MINUS WHITE X",
      "aHEAVY EXCLAMATION MARK SYMBOLaLIGHT VERTICAL BARa.nMEDIUMa.nHEAVY",
      "gSINGLE TURNED COMMA QUOTATION MARK ORNAMENTn.zdCg.zfDOUBLE TURNEDn.zdCg.zhLOW SING",
      "k.zhDOUBa.jCURVED STEM PARAGRAPH SIGNa.jHEAVY EXCLAMATION MARKg.zHEART gBLACK HEART",
      "aROTATED HEAVY BLACK HEART BULLETaFLORAL HEARTaROTATED FLORAL HEART BULLET",
      "aMEDIUM LEFT PARENTHESIS ORNAMENTh.wRIGHh.wFLATTENED LEFr.wRIGH",
      "h.jLEFT-POINTING ANGLE BRACKETh.ziRIGHa.jHEAVY LEFT-POINTING ANGLE QUOTATION MARKg.zpRIGH",
      "g.jLEFT-POINTING ANGLE BRACKETg.ziRIGHa.rLIGHT LEFT TORTOISE SHELLg.ziRIGH",
      "a.rMEDIUM LEFT CURLYh.yRIGHaDINGBAT NEGATIVE CIRCLED DIGIT ONEzgTWOzhHREEzgFOURzhIVEzgSIX",
      "zhEVENzgEIGHTzgNINEzNUMBER TENiCIRCLED SANS-SERIF DIGIT ONEziTWOzjHREEziFOURzjIVEziSIX",
      "zjEVENziEIGHTziNINEzcNUMBER TENiNEGATIVE CIRCLED SANS-SERIF DIGIT ONEzrTWOzsHREEzrFOUR",
      "zsIVEzrSIXzsEVENzrEIGHTzrNINEzlNUMBER TENaHEAVY WIDE-HEADED RIGHTWARDS ARROWgPLUS SIGN",
      "g.hMINg.fDIVISIONgSOUTH EAST ARROWg.gRIGHTWARDSg.gNORTH EASTa.gDRAFTING POINT RIGHTWARDS",
      "a.rHEAVY ROUND-TIPPEDa.tTRIANGLE-HEADa.zhHEAVY a.ziDASHEDa.zoHEAVY a.rBLACK",
      "aTHREE-D TOP-LIGHTED RIGHTWARDS ARROWHEADi.zeBOTTOMa.vBLACK",
      "aHEAVY BLACK CURVED DOWNWARDS AND RIGHTWARDS ARROWt.zbUPa.rSQUAT BLACK",
      "a.xHEAVY CONCAVE-POINTEDa.rRIGHT-SHADED WHITEa.zgLEFa.zBACK-TILTED SHADOWa.zoFRONT",
      "a.zgHEAVY LOWER RIGHT-g.zpUPPa.zpNOTCHED LOWaCURLY LOOP",
      "aNOTCHED UPPER RIGHT-SHADOWED WHITE RIGHTWARDS ARROWa.xCIRCLED HEAVYa.rWHITE-FEATHERED",
      "a.gBLACK-FEATHERED SOUTH EASTq.gRIGHTWARDSq.gNORTH EASTa.nHEAVY BLACK-FEATHERED SOU",
      "w.gRIGHTWARDSw.gNORTH EASTa.gTEARDROP-BARBED RIGHTWARDSa.tHEAVY TEARDROP-SHANK",
      "a.tWEDGE-TAILa.zeHEAVY a.tOPEN-OUTLINaDOUBLE CURLY LOOPaTHREE DIMENSIONAL ANGLE",
      "a.fWHITE TRIANGLE CONTAINING SMALL WHITE TRIaPERPENDICULARaOPEN SUBSETh.dPER",
      "aLEFT S-SHAPED BAG DELIMITERa.yRIGHaOR WITH DOT INSIDEaREVERSE SOLIDUS PRECEDING SUBSET",
      "aSUPERSET PRECEDING SOLIDUSaVERTICAL BAR WITH HORIZONTAL STROKE",
      "aMATHEMATICAL RISING DIAGONALaLONG DIVISIONaMATHEMATICAL FALLING DIAGONAL",
      "aSQUARED LOGICAL ANDqORaWHITE DIAMOND WITH CENTRED DOTa.eAND WITH",
      "aELEMENT OF OPENING UPWARDSaLOWER RIGHT CORNER WITH DOTa.rUPPER LEFaLEFT OUTER JOIN",
      "a.mRIGHa.lFULLaLARGE UP TACKg.fDOWNbEFT AND RIGHT DOUBLE TURNSTILEpTACKfMULTIMAP",
      "bONG RIGHT TACKf.gLEFaUP TACK WITH CIRCLE ABOVEaLOZENGE DIVIDED BY HORIZONTAL RULE",
      "aWHITE CONCAVE-SIDED DIAMONDzc WITH LEFTWARDS TICKzi.lRIGHg.lSQUARE WITH LEFs.lRIGH",
      "aMATHEMATICAL LEFT WHITE SQUARE BRACKETn.wRIGHn.jLEFT ANGLn.pRIGHn.oLEFT DOUBLEn.wRIGH",
      "n.iLEFT WHITE TORTOISE SHELLn.zfRIGHnLEFT FLATTENED PARENTHESISn.xRIGH",
      "aUPWARDS QUADRUPLE ARROWa.vDOWNa.iANTICLOCKWISE GAPPED CIRCa.zdC",
      "aRIGHT ARROW WITH CIRCLED PLUSaLONG LEFTWARDS ARROWf.mRIGHf.gLEFT RIGHTj.gWARDS DOUBLE",
      "f.tRIGHf.nLEFT RIGHTjWARDS ARROW FROM BARf.vRIGHf.pLEFTWARDS DOUBLEf.zdRIGH",
      "qSQUIGGLE ARROWaBRAILLE PATTERN BLANKqDOTS-1v2v12v3v13v23v123v4v14v24v124v34v134v234v.d1",
      "v5v15v25v125v35v135v235v.d1v45v145v245v.d1v345v.d1v.d2v.e1v6v16v26v126v36v136v236v.d1v46",
      "v146v246v.d1v346v.d1v.d2v.e1v56v156v256v.d1v356v.d1v.d2v.e1v456v.d1v.d2v.e1v.d3v.e1v.e2",
      "v.f1v7v17v27v127v37v137v237v.d1v47v147v247v.d1v347v.d1v.d2v.e1v57v157v257v.d1v357v.d1v.d2",
      "v.e1v457v.d1v.d2v.e1v.d3v.e1v.e2v.f1v67v167v267v.d1v367v.d1v.d2v.e1v467v.d1v.d2v.e1v.d3",
      "v.e1v.e2v.f1v567v.d1v.d2v.e1v.d3v.e1v.e2v.f1v.d4v.e1v.e2v.f1v.e3v.f1v.f2v.g1v8v18v28v128",
      "v38v138v238v.d1v48v148v248v.d1v348v.d1v.d2v.e1v58v158v258v.d1v358v.d1v.d2v.e1v458v.d1v.d2",
      "v.e1v.d3v.e1v.e2v.f1v68v168v268v.d1v368v.d1v.d2v.e1v468v.d1v.d2v.e1v.d3v.e1v.e2v.f1v568",
      "v.d1v.d2v.e1v.d3v.e1v.e2v.f1v.d4v.e1v.e2v.f1v.e3v.f1v.f2v.g1v78v178v278v.d1v378v.d1v.d2",
      "v.e1v478v.d1v.d2v.e1v.d3v.e1v.e2v.f1v578v.d1v.d2v.e1v.d3v.e1v.e2v.f1v.d4v.e1v.e2v.f1v.e3",
      "v.f1v.f2v.g1v678v.d1v.d2v.e1v.d3v.e1v.e2v.f1v.d4v.e1v.e2v.f1v.e3v.f1v.f2v.g1v.d5v.e1v.e2",
      "v.f1v.e3v.f1v.f2v.g1v.e4v.f1v.f2v.g1v.f3v.g1v.g2v.h1",
      "aRIGHTWARDS TWO-HEADED ARROW WITH VERTICAL STROKEzi.pDOUBLE ",
      "a.qLEFTWARDS DOUBLE ARROW WITHa.zpRIGHa.zjLEFT RIGHTaRIGHTWARDS TWO-HEADED ARROW FROM BAR",
      "a.pLEFTWARDS DOUBLEa.zdRIGHaDOWNWARDS ARROW WITH HORIZONTAL STROKEa.zjUPiTRIPLE ARROW",
      "a.sDOWNa.gLEFTWARDS DOUBLE DASHa.yRIGHa.nLEFTWARDS TRIPa.yRIGHm.qWO-HEADED T",
      "lARROW WITH DOTTED STEMaUPWARDS ARROW TO BARa.sDOWN",
      "aRIGHTWARDS ARROW WITH TAIL WITH VERTICAL STROKEzh.pDOUBLE lTWO-HEADED ARROW WITH TAIL",
      "zm WITH VERTICAL STROKEzs.pDOUBLE aLEFTWARDS ARROW-TAILa.rRIGHa.lLEFTWARDS DOUBLEa.yRIGH",
      "aLEFTWARDS ARROW TO BLACK DIAMONDa.zeRIGHa.rLEFTWARDS ARROW FROM BARa.znRIGH",
      "aNORTH WEST AND SOUTH EAST ARROWg.iEAST AND SOUTH WEgWEST ARROW WITH HOOKg.sEAa.xSOUg.sWE",
      "aNORTH WEST ARROW AND NORTH EAST ARROWg.nEAST ARROW AND SOU",
      "a.iSOUTH EAST ARROW AND SOUTH WEg.nWEST ARROW AND NOR",
      "aRISING DIAGONAL CROSSING FALLING DIAGONALa.mFALLING DIAGONAL CROSSING RIS",
      "aSOUTH EAST ARROW CROSSING NORTH EAST ARROWa.nNORTH EAST ARROW CROSSING SOU",
      "a.nFALLING DIAGONAL CROSSING NORa.nRISING DIAGONAL CROSSING SOU",
      "a.iNORTH EAST ARROW CROSSING NORTH WEg.iWEST ARROW CROSSING NORTH EA",
      "aWAVE ARROW POINTING DIRECTLY RIGHTaARROW POINTING RIGHTWARDS THEN CURVING UPWARDS",
      "zo.fDOWNp.fDOWNWARDS THEN CURVING LEFTzn.gRIGHaRIGHT-SIDE ARC CLOCKWISE ARROW",
      "a.pLEFT-SIDE ARC ANTIa.yTOPa.yBOTTOMaTOP ARC CLOCKWISE ARROW WITH MINUS",
      "iANTICLOCKWISE ARROW WITH PLUSaLOWER RIGHT SEMICIRCULAR CLOCKWISE ARROW",
      "g.pLEFT SEMICIRCULAR ANTIa.hANTICLOCKWISE CLOSED CIRCLa.zdC",
      "a.gRIGHTWARDS ARROW ABOVE SHORT LEFTWARDSa.mLEFTWARDS ARROW ABOVE SHORT RIGH",
      "a.mSHORT RIGHTWARDS ARROW ABOVE LEFaRIGHTWARDS ARROW WITH PLUS BELOWa.zdLEF",
      "aRIGHTWARDS ARROW THROUGH XaLEFT RIGHT ARROW THROUGH SMALL CIRCLE",
      "a.nUPWARDS TWO-HEADED ARROW FROMaLEFT BARB UP RIGHT BARB DOWN HARPOON",
      "k.iDOWN RIGHT BARB UPa.iUP BARB RIGHT DOWN BARB LEFTi.jLEFT DOWN BARB RIGH",
      "a.iLEFT BARB UP RIGHT BARB UPa.iUP BARB RIGHT DOWN BARB RIGHT",
      "a.iLEFT BARB DOWN RIGHT BARB DOWNa.iUP BARB LEFT DOWN BARB LEFT",
      "aLEFTWARDS HARPOON WITH BARB UP TO BARa.zjRIGHa.hUPWARDS HARPOON WITH BARB RIGHTa.zlDOWN",
      "a.hLEFTWARDS HARPOON WITH BARB DOWNa.zlRIGHa.hUPWARDS HARPOON WITH BARB LEFTa.zkDOWN",
      "a.eLEFTWARDS HARPOON WITH BARB UP FROMa.zlRIGHa.jUPWARDS HARPOON WITH BARB RIGHTa.znDOWN",
      "a.jLEFTWARDS HARPOON WITH BARB DOWNa.znRIGHa.jUPWARDS HARPOON WITH BARB LEFTa.zmDOWN",
      "aLEFTWARDS HARPOON WITH BARB UP ABOVE LEFTWARDS HARPOON WITH BARB DOWN",
      "aUPWARDS HARPOON WITH BARB LEFT BESIDE UPWARDS HARPOON WITH BARB RIGHT",
      "aRIGHTWARDS HARPOON WITH BARB UP ABOVE RIGHTWARDS HARPOON WITH BARB DOWN",
      "aDOWNWARDS HARPOON WITH BARB LEFT BESIDE DOWNWARDS HARPOON WITH BARB RIGHT",
      "aLEFTWARDS HARPOON WITH BARB UP ABOVE RIGHTWARDS HARPOON WITH BARB UP",
      "zdDOWN ABOVE RIGHTWARDS HARPOON WITH BARB DOWN",
      "aRIGHTWARDS HARPOON WITH BARB UP ABOVE LEFTWARDS HARPOON WITH BARB UP",
      "zeDOWN ABOVE LEFTWARDS HARPOON WITH BARB DOWN",
      "aLEFTWARDS HARPOON WITH BARB UP ABOVE LONG DASHzd.kDOWN BELOW",
      "a.kRIGHTWARDS HARPOON WITH BARB UP ABOVEze.kDOWN BELOW",
      "aUPWARDS HARPOON WITH BARB LEFT BESIDE DOWNWARDS HARPOON WITH BARB RIGHT",
      "a.zeDOWNWARDS HARPOON WITH BARB LEFT BESIDE UPaRIGHT DOUBLE ARROW WITH ROUNDED HEAD",
      "aEQUALS SIGN ABOVE RIGHTWARDS ARROWa.xTILDE OPERATORaLEFTWARDS ARROW ABOVE TILDE OPERATOR",
      "a.ziRIGHxALMOST EQUAL TOaLESS-THAN ABOVE LEFTWARDS ARROWcFTWARDS ARROW THROUGH LESS-THAN",
      "aGREATER-THAN ABOVE RIGHTWARDS ARROWa.xSUBSETaLEFTWARDS ARROW THROUGH SUBSET",
      "aSUPERSET ABOVE LEFTWARDS ARROWaLEFT FISH TAILa.lRIGHa.kUPa.kDOWN",
      "aTRIPLE VERTICAL BAR DELIMITERaZ NOTATION SPOTlTYPE COLONaLEFT WHITE CURLY BRACKETa.vRIGH",
      "aLEFT WHITE PARENTHESISa.tRIGHaZ NOTATION LEFT IMAGE BRACKETl.pRIGHl.iLEFT BINDINGl.rRIGH",
      "aLEFT SQUARE BRACKET WITH UNDERBARa.zfRIGHaLEFT SQUARE BRACKET WITH TICK IN TOP CORNER",
      "a.hRIGHT SQUARE BRACKET WITH TICK IN BOTTOMa.zsLEF",
      "a.hRIGHT SQUARE BRACKET WITH TICK IN TOPaLEFT ANGLE BRACKET WITH DOTa.yRIGH",
      "aLEFT ARC LESS-THAN BRACKETa.nRIGHT ARC GREATERa.zbDOUBLE LEFh.nRIGHT ARC LESS",
      "a.iLEFT BLACK TORTOISE SHELLa.zfRIGHaDOTTED FENCEaVERTICAL ZIGZAG LINE",
      "aMEASURED ANGLE OPENING LEFTaRIGHT ANGLE VARIANT WITH SQUARE",
      "aMEASURED RIGHT ANGLE WITH DOTaANGLE WITH S INSIDEbCUTE ANGLE",
      "aSPHERICAL ANGLE OPENING LEFTyUPaTURNED ANGLEa.iREVERSaANGLE WITH UNDERBARa.tREVERSED ",
      "aOBLIQUE ANGLE OPENING UPwDOWN",
      "aMEASURED ANGLE WITH OPEN ARM ENDING IN ARROW POINTING UP AND RIGHTzzlLEFT",
      "zzeDOWN AND RIGHTzznLEFTzzeRIGHT AND UPzze.iLEFzzeRIGHT AND DOWNzze.kLEF",
      "aREVERSED EMPTY SETaEMPTY SET WITH OVERBARpSMALL CIRCLE ABOVEp.gRIGHT ARROWp.nLEF",
      "aCIRCLE WITH HORIZONTAL BARg.gD VERTICiPARALLELiREVERSE SOLIDUSiPERPENDICULAR",
      "g DIVIDED BY HORIZONTAL BAR AND TOP HALF DIVIDED BY VERTICAL BARhWITH SUPERIMPOSED X",
      "gD ANTICLOCKWISE-ROTATED DIVISION SIGNaUP ARROW THROUGH CIRCLEaCIRCLED WHITE BULLETi.fB",
      "iLESS-THANi.fGREATERg WITH SMALL CIRCLE TO THE RIGHTm.nTWO HORIZONTAL STROKES",
      "aSQUARED RISING DIAGONAL SLASHi.sFALLiASTERISKiSMALL CIRCLEjQUAREaTWO JOINED SQUARES",
      "bRIANGLE WITH DOT ABOVEoUNDERBARaS IN TRIANGLEaTRIANGLE WITH SERIFS AT BOTTOM",
      "aRIGHT TRIANGLE ABOVE LEFT TRIANGLEaLEFT TRIANGLE BESIDE VERTICAL BAR",
      "aVERTICAL BAR BESIDE RIGHT TRIANGLEaBOWTIE WITH LEFT HALF BLACKm.mRIGHbLACK BOWTIE",
      "aTIMES WITH LEFT HALF BLACKl.mRIGHaWHITE HOURGLASSa.kBLACKaLEFT WIGGLY FENCEa.oRIGH",
      "a.nLEFT DOUBLEa.vRIGHaINCOMPLETE INFINITYa.jTIE OVERaINFINITY NEGATED WITH VERTICAL BAR",
      "aDOUBLE-ENDED MULTIMAPaSQUARE WITH CONTOURED OUTLINEaINCREASES ASaSHUFFLE PRODUCT",
      "aEQUALS SIGN AND SLANTED PARALLELzh WITH TILDE ABOVEaIDENTICAL TO AND SLANTED PARALLEL",
      "aGLEICH STARKaTHERMODYNAMICaDOWN-POINTING TRIANGLE WITH LEFT HALF BLACKzd.mRIGH",
      "aBLACK DIAMOND WITH DOWN ARROWgLOZENGEaWHITE CIRCLE WITH DOWN ARROWa.xBLACK",
      "aERROR-BARRED WHITE SQUAREn.hBLACKnWHITE DIAMONDn.iBLACKnWHITE CIRCLEn.hBLACK",
      "aRULE-DELAYEDbEVERSE SOLIDUS OPERATORaSOLIDUS WITH OVERBAR",
      "aREVERSE SOLIDUS WITH HORIZONTAL STROKEaBIG SOLIDUSe.hREVERSE aDOUBLE PLUSa.hTRIP",
      "aLEFT-POINTING CURVED ANGLE BRACKETa.zgRIGHaTINYa.dMaN-ARY CIRCLED DOT OPERATORo.jPLUS",
      "o.kTIMEgUNION OPERATOR WITH DOTzbPLUSgSQUARE INTERSECTION OPERATORn.mUNa.jTWO LOGICAL AND",
      "m.jORa.jN-ARY TIMESaMODULO TWO SUMaSUMMATION WITH INTEGRALaQUADRUPLE INTEGRAL OPERATOR",
      "aFINITE PART INTEGRALaINTEGRAL WITH DOUBLE STROKEjAVERAGE WITH SLASHaCIRCULATION FUNCTION",
      "a.eANTICLOCKWISE INTEGRAaLINE INTEGRATION WITH RECTANGULAR PATH AROUND POLEw.vSEMICIRC",
      "r.fNOT INCLUDING THEaINTEGRAL AROUND A POINT OPERATORa.jQUATERNION INTEGRAL",
      "aINTEGRAL WITH LEFTWARDS ARROW WITH HOOKoTIMES SIGNoINTERSECTIONo.dUNoOVERBARo.fUNDaJOIN",
      "aLARGE LEFT TRIANGLE OPERATORaZ NOTATION SCHEMA COMPOSITIONsPIPINGtROJECTION",
      "aPLUS SIGN WITH SMALL CIRCLE ABOVEp.gCIRCUMFLEX ACCENTp.gTILDEpDOT BELOWp.gTILDE",
      "pSUBSCRIPT TWOpBLACK TRIANGLEaMINUS SIGN WITH COMMA ABOVEqDOT BELOWqFALLING DOTSq.iRIS",
      "aPLUS SIGN IN LEFT HALF CIRCLEn.nRIGHaVECTOR OR CROSS PRODUCT",
      "aMULTIPLICATION SIGN WITH DOT ABOVEzUNDERBARaSEMIDIRECT PRODUCT WITH BOTTOM CLOSED",
      "bMASH PRODUCTaMULTIPLICATION SIGN IN LEFT HALF CIRCLEx.nRIGH",
      "aCIRCLED MULTIPLICATION SIGN WITH CIRCUMFLEX ACCENTaMULTIPLICATION SIGN IN DOUBLE CIRCLE",
      "aCIRCLED DIVISION SIGNaPLUS SIGN IN TRIANGLEa.tMINb.rULTIPLICATIONaINTERIOR PRODUCT",
      "a.qRIGHTHAND aZ NOTATION RELATIONAL COMPOSITIONaAMALGAMATION OR COPRODUCT",
      "aINTERSECTION WITH DOTaUNION WITH MINUS SIGNlOVERBARa.qINTERSECTsLOGICAL AND",
      "aUNION WITH LOGICAL ORgABOVE INTERSECTIONa.dINTERSECTION ABOVE UN",
      "a.dUNION ABOVE BAR ABOVE INTERSECTa.dINTERSECTION ABOVE BAR ABOVE UN",
      "a.gUNION BESIDE AND JOINED WITHa.dINTERSECTION BESIDE AND JOINED WITH INTERSECT",
      "aCLOSED UNION WITH SERIFSh.pINTERSECTaDOUBLE SQUARE INTERSECTIONo.dUN",
      "aCLOSED UNION WITH SERIFS AND SMASH PRODUCTaLOGICAL AND WITH DOT ABOVEi.pOR",
      "aDOUBLE LOGICAL ANDpORaTWO INTERSECTING LOGICAL ANDzORa.dSLOPING LARGEoAND",
      "a.eLOGICAL OR OVERLAPPING LOGICALiAND WITH MIDDLE STEMi.rORiAND WITH HORIZONTAL DASHi.vOR",
      "iAND WITH DOUBLE OVERBARr.fUNDr.iDOUBLE a.jSMALL VEE WITHa.fLOGICAL OR WITH DOUBLE OV",
      "x.fUNDaZ NOTATION DOMAIN ANTIRESTRICTIONl.qRANGEaEQUALS SIGN WITH DOT BELOW",
      "aIDENTICAL WITH DOT ABOVEaTRIPLE HORIZONTAL BAR WITH DOUBLE VERTICAL STROKEzc.sTRIP",
      "bILDE OPERATOR WITH DOT ABOVEuRISING DOTSaSIMILAR MINUS SIMILARaCONGRUENT WITH DOT ABOVE",
      "aEQUALS WITH ASTERISKaALMOST EQUAL TO WITH CIRCUMFLEX ACCENT",
      "bPPROXIMATELY EQUAL OR EQUAL TOaEQUALS SIGN ABOVE PLUS SIGNa.gPLUS SIGN ABOVE EQUAL",
      "aEQUALS SIGN ABOVE TILDE OPERATORaDOUBLE COLON EQUALaTWO CONSECUTIVE EQUALS SIGNSb.zHREE",
      "aEQUALS SIGN WITH TWO DOTS ABOVE AND TWO DOTS BELOWdIVALENT WITH FOUR DOTS ABOVE",
      "aLESS-THAN WITH CIRCLE INSIDEa.yGREATERaLESS-THAN WITH QUESTION MARK ABOVEa.zfGREATER",
      "aLESS-THAN OR SLANTED EQUAL TOa.zGREATERaLESS-THAN OR SLANTED EQUAL TO WITH DOT INSIDE",
      "a.zqGREATERaLESS-THAN OR SLANTED EQUAL TO WITH DOT ABOVEa.zpGREATER",
      "aLESS-THAN OR SLANTED EQUAL TO WITH DOT ABOVE RIGHT",
      "aGREATER-THAN OR SLANTED EQUAL TO WITH DOT ABOVE LEFTaLESS-THAN OR APPROXIMATEa.uGREATER",
      "aLESS-THAN AND SINGLE-LINE NOT EQUAL TOa.zjGREATERaLESS-THAN AND NOT APPROXIMATE",
      "a.zGREATERaLESS-THAN ABOVE DOUBLE-LINE EQUAL ABOVE GREATER-THAN",
      "a.fGREATER-THAN ABOVE DOUBLE-LINE EQUAL ABOVE LESSaLESS-THAN ABOVE SIMILAR OR EQUAL",
      "a.zdGREATERaLESS-THAN ABOVE SIMILAR ABOVE GREATER-THAN",
      "a.fGREATER-THAN ABOVE SIMILAR ABOVE LESS",
      "aLESS-THAN ABOVE GREATER-THAN ABOVE DOUBLE-LINE EQUALa.zeGREATER-THAN ABOVE LESS",
      "a.gLESS-THAN ABOVE SLANTED EQUAL ABOVE GREATER-THAN ABOVE SLANTED",
      "a.zGREATER-THAN ABOVE SLANTED EQUAL ABOVE LESSaSLANTED EQUAL TO OR LESS-THANu.fGREATER",
      "uLESS-THAN WITH DOT INSIDEu.vGREATERaDOUBLE-LINE EQUAL TO OR LESS-THANy.fGREATER",
      "m.fSLANTED EQUAL TO OR LESSzh.fGREATERa.fSIMILAR OR LESSl.fGREATER",
      "iABOVE LESS-THAN ABOVE EQUALS SIGNo.xGREATERaDOUBLE NESTED LESS-THANo.fGREATER",
      "oLESS-THAN WITH UNDERBARaGREATER-THAN OVERLAPPING LESS-THANn.kBESIDE",
      "aLESS-THAN CLOSED BY CURVEa.vGREATERaLESS-THAN CLOSED BY CURVE ABOVE SLANTED EQUAL",
      "a.zqGREATERaSMALLER THANa.hLARGaSMALLER THAN OR EQUAL TOa.tLARG",
      "aEQUALS SIGN WITH BUMPY ABOVEaPRECEDES ABOVE SINGLE-LINE EQUALS SIGNa.zgSUCCEED",
      "aPRECEDES ABOVE SINGLE-LINE NOT EQUAL TOa.zhSUCCEEDaPRECEDES ABOVE EQUALS SIGNa.tSUCCEED",
      "aPRECEDES ABOVE NOT EQUAL TOa.uSUCCEEDa.kPRECEDES ABOVE ALMOSa.xSUCCEED",
      "a.qPRECEDES ABOVE NOTa.zcSUCCEEDaDOUBLE PRECEDEShSUCCEEDSaSUBSET WITH DOTc.mPER",
      "cBSET WITH PLUS SIGN BELOWc.yPERc.lBSET WITH MULTIPLICATIONc.zjPER",
      "cBSET OF OR EQUAL TO WITH DOT ABOVEc.ziPERcBSET OF ABOVE EQUALS SIGNc.yPER",
      "cBSET OF ABOVE TILDE OPERATORc.zcPERcBSET OF ABOVE ALMOST EQUAL TOc.zdPER",
      "c.kBSET OF ABOVE NOc.zPERbQUARE LEFT OPEN BOX OPERATORh.tRIGHaCLOSED SUBSETj.dPER",
      "jBSET OR EQUAL TOj.pPERaSUBSET ABOVE SUPERSETc.dPERSET ABOVE SUBc.qBc.dPERSET ABOVE SUPER",
      "j.dBESIDE SUBq.gAND JOINED BY DASH WITH aELEMENT OF OPENING DOWNWARDS",
      "aPITCHFORK WITH TEE TOPaTRANSVERSAL INTERSECTIONaFORKINGa.hNONaSHORT LEFT TACKg.fDOWN",
      "g.fUPaPERPENDICULAR WITH SaVERTICAL BAR TRIPLE RIGHT TURNSTILEa.lDOUBLE VERTICAL BAR LEF",
      "a.pVERTICAL BAR DOUBLEa.zjDOUBLE aLONG DASH FROM LEFT MEMBER OF DOUBLE VERTICAL",
      "aSHORT DOWN TACK WITH OVERBARg.fUP TACK WITH UNDoABOVE SHORT DOWN TACKa.kDOUBLEh.fUP",
      "hSTROKE NOT SIGNa.wREVERSED aDOES NOT DIVIDE WITH REVERSED NEGATION SLASH",
      "aVERTICAL LINE WITH CIRCLE ABOVEzbBELOWa.sDOWN TACKaPARALLEL WITH HORIZONTAL STROKE",
      "oTILDE OPERATORaTRIPLE VERTICAL BAR BINARY RELATIONuWITH HORIZONTAL STROKEhCOLON OPERATOR",
      "hNESTED LESS-THANo.fGREATERaDOUBLE-LINE SLANTED LESS-THAN OR EQUAL TOu.rGREATER",
      "aTRIPLE SOLIDUS BINARY RELATIONaLARGE TRIPLE VERTICAL BAR OPERATORa.jDOUBLE SOLIDUS",
      "aWHITE VERTICAL BARa.sN-ARY bORTH EAST WHITE ARROWg.oWEa.oSOUTH EAg.oWEa.nLEFT RIGH",
      "e.gWARDS BLACKa.rUPa.rDOWNa.mNORTH EASTg.oWEa.oSOUTH EAg.oWEa.nLEFT RIGHa.mUP DOWN",
      "aRIGHTWARDS ARROW WITH TIP DOWNWARDSzb.fUPa.fLEFTWARDS ARROW WITH TIP DOWNz.fUP",
      "aSQUARE WITH TOP HALF BLACKm.lBOTTOMm.lUPPER RIGHT DIAGONALm.vLOWER LEF",
      "a.lDIAMOND WITH LEFTn.mRIGHn.lTOPn.lBOTTOMbOTTED SQUAREa.hBLACK LARGEa.nWHITE",
      "a.hBLACK VERY SMALLa.sWHITEaBLACK PENTAGONa.jWHITEg.eHEXa.iBLACKa.nHORIZONTAL ",
      "aBLACK LARGE CIRCLEgMEDIUM DIAMONDa.pWHITEaBLACK MEDIUM LOZENGEa.pWHITE",
      "aBLACK SMALL DIAMONDmLOZENGEa.oWHITEaBLACK HORIZONTAL ELLIPSEa.tWHITEa.kBLACK VERTIC",
      "a.rWHITEaLEFT ARROW WITH SMALL CIRCLEaTHREE LEFTWARDS ARROWSaLEFT ARROW WITH CIRCLED PLUS",
      "bONG LEFTWARDS SQUIGGLE ARROWbEFTWARDS TWO-HEADED ARROW WITH VERTICAL STROKEzh.pDOUBLE ",
      "zcFROM BARvTRIPLE DASH ARROWkARROW WITH DOTTED STEMvTAIL WITH VERTICAL STROKEzg.pDOUBLE ",
      "kTWO-HEADED ARROW WITH TAILzl WITH VERTICAL STROKEzr.pDOUBLE kARROW THROUGH X",
      "aWAVE ARROW POINTING DIRECTLY LEFTaEQUALS SIGN ABOVE LEFTWARDS ARROW",
      "a.wREVERSE TILDE OPERATORaLEFTWARDS ARROW ABOVE REVERSE ALMOST EQUAL TO",
      "aRIGHTWARDS ARROW THROUGH GREATER-THANzSUPERSETaLEFTWARDS QUADRUPLE ARROWa.wRIGH",
      "b.gEVERSE TILDE OPERATOR ABOVE RIGHTWARDSbIGHTWARDS ARROW ABOVE REVERSE ALMOST EQUAL TO",
      "aTILDE OPERATOR ABOVE LEFTWARDS ARROWaLEFTWARDS ARROW ABOVE ALMOST EQUAL TO",
      "wREVERSE TILDE OPERATORa.zqRIGHaDOWNWARDS TRIANGLE-HEADED ZIGZAG ARROW",
      "a.gSHORT SLANTED NORTHg.iBACKSLANTED SOUaWHITE MEDIUM STARa.fBLACK SMALLa.lWHITE",
      "aBLACK RIGHT-POINTING PENTAGONa.yWHITEaHEAVY LARGE CIRCLEgOVAL WITH OVAL INSIDE",
      "g.hCIRCLE WITH CIRCLElEmD SALTIREaSLANTED NORTH ARROW WITH HOOKED HEAD",
      "aBACKSLANTED SOUTH ARROW WITH HOOKED TAILa.fSLANTED NORTH ARROW WITH HORIZONTAL",
      "a.zeBACKSLANTED SOUbENT ARROW POINTING DOWNWARDS THEN NORTH EASTa.zuSHORT ",
      "aLEFTWARDS TRIANGLE-HEADED ARROWa.zcUPa.zcRIGHTa.zcDOWNa.wLEFT RIGHTa.wUP DOWN",
      "a.wNORTH WESTg.yEAa.zeSOUg.yWEa.iLEFTWARDS TRIANGLE-HEADED DASHa.zjUPa.zjRIGHTa.zjDOWN",
      "a.gCLOCKWISE TRIANGLE-HEADED OPEN CIRCLEa.zsANTIaLEFTWARDS TRIANGLE-HEADED ARROW TO BAR",
      "a.zjUPa.zjRIGHTa.zjDOWN"])]

/-- Names from U+2800 on. -/
def namesFrom2800 : List (Nat × List String) := [
    (0x2b76, ["a.zeNORTH WESTg.zgEAa.zlSOUg.zgWE",
      "aLEFTWARDS TRIANGLE-HEADED ARROW WITH DOUBLE HORIZONTAL STROKEa.zzhUPa.zzhRIGHTa.zzhDOWN",
      "aHORIZONTAL TAB KEYa.kVERTIC",
      "aLEFTWARDS TRIANGLE-HEADED ARROW OVER RIGHTWARDS TRIANGLE-HEADED ARROW",
      "a.zcUPWARDS TRIANGLE-HEADED ARROW LEFTWARDS OF DOWN",
      "a.zcRIGHTWARDS TRIANGLE-HEADED ARROW OVER LEFT",
      "a.zcDOWNWARDS TRIANGLE-HEADED ARROW LEFTWARDS OF UP",
      "aLEFTWARDS TRIANGLE-HEADED PAIRED ARROWSa.zkUPa.zkRIGHTa.zkDOWN",
      "aLEFTWARDS BLACK CIRCLED WHITE ARROWa.zgUPa.zgRIGHTa.zgDOWN",
      "a.gANTICLOCKWISE TRIANGLE-HEADED RIGHT U-SHAPEDzf.pBOTTOMzf.pLEFTzf.pTOPaRETURN LEFT",
      "hRIGHTaNEWLINE LEFTiRIGHTaFOUR CORNER ARROWS CIRCLING ANTICLOCKWISE",
      "aRIGHTWARDS BLACK ARROW"]),
    (0x2b97, ["aSYMBOL FOR TYPE A ELECTRONICS",
      "aTHREE-D TOP-LIGHTED LEFTWARDS EQUILATERAL ARROWHEADi.zcRIGHT-LIGHTED UP",
      "i.zcTOP-LIGHTED RIGHTi.zcLEFT-LIGHTED DOWNa.zcBLACK LEFTg.zcUPg.zcRIGHTg.zcDOWN",
      "aDOWNWARDS TRIANGLE-HEADED ARROW WITH LONG TIP LEFTWARDSzv.gRIGH",
      "a.gUPWARDS TRIANGLE-HEADED ARROW WITH LONG TIP LEFzt.gRIGH",
      "a.fLEFTWARDS TRIANGLE-HEADED ARROW WITH LONG TIP UPa.zzRIGH",
      "a.fLEFTWARDS TRIANGLE-HEADED ARROW WITH LONG TIP DOWNa.zzcRIGH",
      "aBLACK CURVED DOWNWARDS AND LEFTWARDS ARROWzc.mRIGHn.mUPWARDS AND LEFz.mRIGH",
      "n.lLEFTWARDS AND UPn.yRIGHn.lLEFTWARDS AND DOWNn.zbRIGHaRIBBON ARROW DOWN LEFTsRIGHT",
      "nUP LEFTqRIGHTnLEFT UPn.eRIGHnLEFT DOWNn.gRIGH",
      "aUPWARDS WHITE ARROW FROM BAR WITH HORIZONTAL BARc ARROWHEAD IN A RECTANGLE BOX",
      "aOVERLAPPING WHITE SQUARESs.hAND BLACK m.mBaBALLOT BOX WITH LIGHT XaCIRCLED XiBOLD X",
      "aBLACK SQUARE CENTREDg.iDIAMONDaTURNED BLACK PENTAGONa.fHORIZONTAL BLACK OCa.mB",
      "gMEDIUM UP-POINTING TRIANGLE CENTREDn.zbDOWNn.zbLEFTn.zcRIGHaNEPTUNE FORM TWO",
      "aTOP HALF BLACK CIRCLEa.sBOTTOMaLIGHT FOUR POINTED BLACK CUSPa.zeROTATED ",
      "a.fWHITE FOUR POINTEDa.xROTATED aSQUARE POSITION INDICATORaUNCERTAINTY SIGNaGROUP MARK",
      "aPLUTO FORM TWOmHREElFOURmIVEaTRANSPLUTOaPROSERPINAaASTRAEAaHYGIEAaPHOLUSaNESSUS",
      "aWHITE MOON SELENAaBLACK DIAMOND ON CROSSaTRUE LIGHT MOON ARTAaCUPIDOaHADESaZEUSaKRONOS",
      "aAPOLLONbDMETOSaVULCANUSaPOSEIDONaLEFT HALF BLACK STARa.rRIGHaSTAR WITH LEFT HALF BLACK",
      "k.mRIGHaLEFTWARDS TWO-HEADED ARROW WITH TRIANGLE ARROWHEADSa.zwUPa.zwRIGHTa.zwDOWN",
      "aERIS FORM ONEkTWOaSEDNAaRUSSIAN ASTROLOGICAL SYMBOL VIGINTILEzd.dNOVzd.dQUINTzd.dBINOV",
      "zdSENTAGONzdTREDECILEaEQUALS SIGN WITH INFINITY BELOWaUNITED SYMBOLa.kSEPARAa.jDOUBL",
      "a.jPASSaREVERSED RIGHT ANGLEaHELLSCHREIBER PAUSE SYMBOLaGLAGOLITIC CAPITAL LETTER AZU",
      "zbBUKYzbVEDEzbGLAGOLIzbDOBROzbYESTUzbZHIVETEzbDZELOzbZEMLJAzbIZHEzc.dNITIAL IzbIzbDJERVI",
      "zbKAKOzbLJUDIJEzbMYSLITEzbNASHIzbONUzbPOKOJIzbRITSIzbSLOVOzbTVRIDOzbUKUzbFRITUzbHERUzbOTU",
      "zbPEzbSHTAzbTSIzbCHRIVIzbSHAzbYERUzeIzcATIzbSPIDERY HAzbYUzbSMALL YUSzk WITH TAILzbYO",
      "zbIOTATED SMALL YUSzb.eBIGzb.hIOTATED zbFITAzbIZHITSAzbSHTAPICzbTROKUTASTI A",
      "zbLATINATE MYSLITEzbCAUDATE CHRIVIlSMALL LETTER AZUyBUKYyVEDEyGLAGOLIyDOBROyYESTUyZHIVETE",
      "yDZELOyZEMLJAyIZHEz.dNITIAL IyIyDJERVIyKAKOyLJUDIJEyMYSLITEyNASHIyONUyPOKOJIyRITSIySLOVO",
      "yTVRIDOyUKUyFRITUyHERUyOTUyPEySHTAyTSIyCHRIVIySHAyYERUzcIzATIySPIDERY HAyYUySMALL YUS",
      "zi WITH TAILyYOyIOTATED SMALL YUSy.eBIGy.hIOTATED yFITAyIZHITSAySHTAPICyTROKUTASTI A",
      "yLATINATE MYSLITEyCAUDATE CHRIVIaLATIN CAPITAL LETTER L WITH DOUBLE BARg.zbSMAL",
      "gCAPITAL LETTER L WITH MIDDLE TILDEvP WITH STROKEvR WITH TAILgSMALL LETTER A WITH STROKE",
      "t.hT WITH DIAGONALgCAPITAL LETTER H WITH DESCENDERg.zSMALg.pCAPITAL LETTER Kg.zSMAL",
      "g.pCAPITAL LETTER Zg.zSMALgCAPITAL LETTER ALPHAvM WITH HOOKvTURNED AzeLPHA",
      "gSMALL LETTER V WITH RIGHT HOOKg.fCAPITAL LETTER W WITHg.uSMALtV WITH CURL",
      "gCAPITAL LETTER HALF Hg.pSMALtTAILLESS PHItE WITH NOTCHtTURNED R WITH TAIL",
      "tO WITH LOW RING INSIDEgLETTER SMALL CAPITAL TURNED EgSUBSCRIPT SMALL LETTER J",
      "aMODIFIER LETTER CAPITAL VaLATIN CAPITAL LETTER S WITH SWASH TAILv.qZ",
      "aCOPTIC CAPITAL LETTER ALFAh.nSMALhCAPITAL LETTER VIDAh.nSMALhCAPITAL LETTER GAMMAh.oSMAL",
      "hCAPITAL LETTER DALDAh.oSMALhCAPITAL LETTER EIEh.mSMALhCAPITAL LETTER SOUh.mSMAL",
      "hCAPITAL LETTER ZATAh.nSMALhCAPITAL LETTER HATEh.nSMALhCAPITAL LETTER THETHEh.pSMAL",
      "hCAPITAL LETTER IAUDAh.oSMALhCAPITAL LETTER KAPAh.nSMALhCAPITAL LETTER LAULAh.oSMAL",
      "hCAPITAL LETTER MIh.lSMALhCAPITAL LETTER NIh.lSMALhCAPITAL LETTER KSIh.mSMAL",
      "hCAPITAL LETTER Oh.kSMALhCAPITAL LETTER PIh.lSMALhCAPITAL LETTER ROh.lSMAL",
      "hCAPITAL LETTER SIMAh.nSMALhCAPITAL LETTER TAUh.mSMALhCAPITAL LETTER UAh.lSMAL",
      "hCAPITAL LETTER FIh.lSMALhCAPITAL LETTER KHIh.mSMALhCAPITAL LETTER PSIh.mSMAL",
      "hCAPITAL LETTER OOUh.mSMALhCAPITAL LETTER DIALECT-P ALEFh.xSMAL",
      "hCAPITAL LETTER OLD COPTIC AINh.xSMALhCAPITAL LETTER CRYPTOGRAMMIC EIEh.zbSMAL",
      "hCAPITAL LETTER DIALECT-P KAPAh.xSMALhCAPITAL LETTER DIALECT-P NIh.vSMAL",
      "h.dCAPITAL LETTER CRYPTOGRAMMICh.zSMALhCAPITAL LETTER OLD COPTIC OOUh.xSMAL",
      "hCAPITAL LETTER SAMPIh.oSMALhCAPITAL LETTER CROSSED SHEIh.vSMAL",
      "h.fCAPITAL LETTER OLD COPTICh.ySMALhCAPITAL LETTER OLD COPTIC ESHh.xSMAL",
      "hCAPITAL LETTER AKHMIMIC KHEIh.wSMALhCAPITAL LETTER DIALECT-P HORIh.xSMAL",
      "h.fCAPITAL LETTER OLD COPTICh.ySMALhCAPITAL LETTER OLD COPTIC HAh.wSMAL",
      "h.dCAPITAL LETTER L-SHAPEDh.uSMALhCAPITAL LETTER OLD COPTIC HEIh.xSMAL",
      "hCAPITAL LETTER OLD COPTIC HATh.xSMALhCAPITAL LETTER OLD COPTIC GANGIAh.zbSMAL",
      "hCAPITAL LETTER OLD COPTIC DJAh.xSMALhCAPITAL LETTER OLD COPTIC SHIMAh.zSMAL",
      "h.gCAPITAL LETTER OLD NUBIANh.zSMALhCAPITAL LETTER OLD NUBIAN NGIh.xSMAL",
      "hCAPITAL LETTER OLD NUBIAN NYIh.xSMALhCAPITAL LETTER OLD NUBIAN WAUh.xSMALiYMBOL KAI",
      "oMI ROo.ePoSTAUROSoTAU ROo.dKHIoSHIMA SIMAhCAPITAL LETTER CRYPTOGRAMMIC SHEIh.zcSMAL",
      "hCAPITAL LETTER CRYPTOGRAMMIC GANGIAh.zeSMALhCOMBINING NI ABOVErSPIRITUS ASPERzbLENIS",
      "iAPITAL LETTER BOHAIRIC KHEIh.wSMAL"]),
    (0x2cf9, ["hOLD NUBIAN FULL STOPsDIRECT QUESTION MARKs.uINsVERSE DIVIDERhFRACTION ONE HALF",
      "iULL STOPhMORPHOLOGICAL DIVIDERaGEORGIAN SMALL LETTER ANwBANwGANwDONwENwVINwZENwTANwIN",
      "wKANwLASwMANwNARwONwPARwZHARwRAEwSANwTARwUNwPHARw.dKwGHANwQARwSHINw.dCxANwJILwCILxHARwXAN",
      "wJHANwHAExExIEwWEwHARxOE"]),
    (0x2d27, ["wYN"]), (0x2d2d, ["wAEN"]),
    (0x2d30, ["aTIFINAGH LETTER YAsBtHsGtHHqBERBER ACADEMY YAJqYAJsDtHtDuHrEYrAFsKq.dTUAREG ",
      "qYAKHHsHq.dBERBER ACADEMY q.eTUAREGqYAHHsAsKHq.eTUAREG qYAQq.dTUAREG qYIrAZHq.eAHAGGAR ",
      "q.fTUAREGqYALsMsNqTUAREG YAGNzNGqYAPrUrARtRsGHq.eTUAREG q.fAYERqYAStStHsTtHsCHsTTsVsWsYsZ",
      "q.dTAWELLEMET qYAZZrErO"]),
    (0x2d6f, ["jMODIFIER LETTER LABIALIZATION MARKj.fSEPARATOR"]),
    (0x2d7f, ["jCONSONANT JOINERaETHIOPIC SYLLABLE LOAsMOAsROAsSOAtHOAsBOAsTOAsCOAsNOAtYOA",
      "sGLOTTAL OAsZOAsDOAtDOAsJOAsTHOAs.dCs.dPtOAsGGWAvIvEEvE"]),
    (0x2da0, ["sSSAuUuIuAAuEEuEuO"]), (0x2da8, ["sCCAuUuIuAAuEEuEuO"]),
    (0x2db0, ["sZZAuUuIuAAuEEuEuO"]), (0x2db8, ["sCCHAvUvIvAAvEEvEvO"]),
    (0x2dc0, ["sQYAuUuIuAAuEEuEuO"]), (0x2dc8, ["sKYAuUuIuAAuEEuEuO"]),
    (0x2dd0, ["sXYAuUuIuAAuEEuEuO"]), (0x2dd8, ["sGYAuUuIuAAuEEuEuO"]),
    (0x2de0, ["aCOMBINING CYRILLIC LETTER BEzbVEzbGHEzbDEzbZHEzcEzbKAzbELzcMzcNzbOzbPEzbERzcS",
      "zbTEzbHAzbTSEzbCHEzbSHAzdCHAzbFITAzbES-TEzbAzbIEzbDJERVzbMONOGRAPH UKzbYATzcUzbIOTIFIED A",
      "zbLITTLE YUSzb.eBIGzb.hIOTIFIED aRIGHT ANGLE SUBSTITUTION MARKERm.tDOTTED ",
      "aLEFT SUBSTITUTION BRACKETa.wRIGHa.vLEFT DOTTEDa.zeRIGHbAISED INTERPOLATION MARKER",
      "h.uDOTTED a.lDOTTED TRANSPOSIaLEFT TRANSPOSITION BRACKETa.xRIGHbAISED SQUARE",
      "aLEFT RAISED OMISSION BRACKETa.zRIGHaEDITORIAL CORONISaPARAGRAPHOSa.lFORKED a.sREVERSED ",
      "aHYPODIASTOLEaDOTTED OBELOScWNWARDS ANCORAa.mUPaDOTTED RIGHT-POINTING ANGLE",
      "cUBLE OBLIQUE HYPHENaINVERTED INTERROBANGaPALM BRANCHaHYPHEN WITH DIAERESIS",
      "aTILDE WITH RING ABOVEaLEFT LOW PARAPHRASE BRACKETa.yRIGHaTILDE WITH DOT ABOVEpBELOW",
      "aLEFT VERTICAL BAR WITH QUILLa.zRIGHaTOP LEFT HALF BRACKETe.oRIGHa.oBOTTOM LEFh.oRIGH",
      "a.iLEFT SIDEWAYS Ua.uRIGHaLEFT DOUBLE PARENTHESISa.uRIGH",
      "aTWO DOTS OVER ONE DOT PUNCTUATIONa.mONE DOT OVER TWO DOTSa.mSQUARED FOUR DOT",
      "aFIVE DOT MARKa.fREVERSED QUESTIONaVERTICAL TILDEaRING POINTaWORD SEPARATOR MIDDLE DOT",
      "aTURNED COMMAaRAISED DOThCOMMAaTURNED SEMICOLONaDAGGER WITH LEFT GUARDm.hRIGH",
      "aTURNED DAGGERbOP HALF SECTION SIGNbWO-EM DASHb.iHREEaSTENOGRAPHIC FULL STOP",
      "aVERTICAL SIX DOTSaWIGGLY VERTICAL LINEaCAPITULUMaDOUBLE HYPHENaREVERSED COMMA",
      "aDOUBLE LOW-REVERSED-9 QUOTATION MARKbASH WITH LEFT UPTURNbOUBLE SUSPENSION MARK",
      "aINVERTED LOW KAVYKAt WITH KAVYKA ABOVEaLOW KAVYKAk WITH DOTaDOUBLE STACKED COMMA",
      "cTTED SOLIDUSaTRIPLE DAGGERaMEDIEVAL COMMAaPARAGRAPHUS MARKb.hUNCTUS ELEVAT",
      "aCORNISH VERSE DIVIDERbROSS PATTY WITH RIGHT CROSSBARr.kLEFaTIRONIAN SIGN CAPITAL ET",
      "aMEDIEVAL EXCLAMATION MARKj.jQUESaLEFT SQUARE BRACKET WITH STROKEa.zdRIGH",
      "a.hLEFT SQUARE BRACKET WITH DOUBLEa.zkRIGHaTOP HALF LEFT PARENTHESISj.nRIGH",
      "a.nBOTTOM HALF LEFm.nRIGHaOBLIQUE HYPHEN"]),
    (0x2e80, ["aCJK RADICAL REPEATmCLIFFmSECOND ONEtTWOuHREEmPERSONmBOXmTABLEmKNIFE ONEsTWO",
      "mDIVINATIONmSEALnMALL ONEsTWOmLAME ONErTWOsHREErFOURmSNAKEmTHREADmSNOUT ONEsTWOmHEART ONE",
      "sTWOnANDmRAP"]),
    (0x2e9b, ["mCHOKEmSUNmMOONmDEATHmMOTHERmCIVILIANmWATER ONEsTWOmFIREmPAW ONEqTWO",
      "mSIMPLIFIED HALF TREE TRUNKmCOWmDOGmJADEmBOLT OF CLOTHmEYEmSPIRIT ONEtTWOmBAMBOOmSILK",
      "m.eC-SIMPLIFIED mNET ONEqTWOrHREEqFOURmMESHmSHEEPmRAMmEWEmOLDmBRUSH ONEsTWOmMEATnORTAR",
      "mGRASS ONEsTWOtHREEmTIGERmCLOTHESmWEST ONErTWOmC-SIMPLIFIED SEEmSIMPLIFIED HORNm.dH",
      "mC-SIMPLIFIED SPEECHzbHELLmFOOTmC-SIMPLIFIED CARTmSIMPLIFIED WALKmWALK ONErTWOmCITY",
      "n-SIMPLIFIED GOLDmLONG ONErTWOmC-SIMPLIFIED LONGzGATEmMOUND ONEsTWOmRAINmBLUE",
      "mC-SIMPLIFIED TANNED LEATHERzLEAFzWINDzFLYmEAT ONEqTWOrHREEmC-SIMPLIFIED EATmHEAD",
      "mC-SIMPLIFIED HORSEmBONEmGHOSTmC-SIMPLIFIED FISHzBIRDzSALTmSIMPLIFIED WHEATxYELLOW",
      "mC-SIMPLIFIED FROGmJ-SIMPLIFIED EVENm.qCmJ-SIMPLIFIED TOOTHm.rCmJ-SIMPLIFIED DRAGONm.sC",
      "mTURTLEm.gJ-SIMPLIFIED m.sC"]),
    (0x2f00, ["aKANGXI RADICAL ONEpLINEpDOTpSLASHqECONDpHOOKpTWOpLIDpMANpLEGSpENTERqIGHT",
      "pDOWN BOXpCOVERpICEpTABLEpOPEN BOXpKNIFEpPOWERpWRAPpSPOONpRIGHT OPEN BOXpHIDING ENCLOSURE",
      "pTENpDIVINATIONpSEALpCLIFFpPRIVATEpAGAINpMOUTHpENCLOSUREqARTHpSCHOLARpGOr SLOWLYpEVENING",
      "pBIGpWOMANpCHILDpROOFpINCHpSMALLpLAMEpCORPSEpSPROUTpMOUNTAINpRIVERpWORKpONESELFpTURBAN",
      "pDRYpSHORT THREADpDOTTED CLIFFpLONG STRIDEpTWO HANDSpSHOOTpBOWpSNOUTpBRISTLEpSTEPpHEART",
      "qALBERDpDOORpHANDpBRANCHpRAPpSCRIPTpDIPPERpAXEpSQUAREpNOTpSUNqAYpMOONpTREEpLACKpSTOP",
      "pDEATHpWEAPONpDO NOTpCOMPAREpFURpCLANpSTEAMpWATERpFIREpCLAWpFATHERpDOUBLE X",
      "pHALF TREE TRUNKpSLICEpFANGpCOWpDOGpPROFOUNDpJADEpMELONpTILEpSWEETpLIFEpUSEpFIELD",
      "pBOLT OF CLOTHpSICKNESSpDOTTED TENTpWHITEpSKINpDISHpEYEpSPEARpARROWpSTONEqPIRITpTRACK",
      "pGRAINpCAVEpSTANDpBAMBOOpRICEpSILKpJARpNETpSHEEPpFEATHERpOLDpANDpPLOWpEARpBRUSHpMEAT",
      "qINISTERpSELFpARRIVEpMORTARpTONGUEpOPPOSEpBOATpSTOPPINGpCOLORpGRASSpTIGERpINSECTpBLOOD",
      "pWALK ENCLOSUREpCLOTHESpWESTpSEEpHORNpSPEECHpVALLEYpBEANpPIGpBADGERpSHELLpREDqUNpFOOT",
      "pBODYpCARTpBITTERpMORNINGpWALKpCITYpWINEpDISTINGUISHpVILLAGEpGOLDpLONGpGATEpMOUNDpSLAVE",
      "qHORT TAILED BIRDpRAINpBLUEpWRONGpFACEpLEATHERp.hTANNED pLEEKpSOUNDpLEAFpWINDpFLYpEAT",
      "pHEADpFRAGRANTpHORSEpBONEpTALLpHAIRpFIGHTpSACRIFICIAL WINEpCAULDRONpGHOSTpFISHpBIRDpSALT",
      "pDEERpWHEATpHEMPpYELLOWpMILLETpBLACKpEMBROIDERYpFROGpTRIPODpDRUMpRATpNOSEpEVENpTOOTH",
      "pDRAGONpTURTLEpFLUTE"]),
    (0x2ff0, ["aIDEOGRAPHIC DESCRIPTION CHARACTER LEFT TO RIGHTzjABOVE TO BELOW",
      "zjLEFT TO MIDDLE AND RIGHTzjABOVE TO MIDDLE AND BELOWzjFULL SURROUNDzjSURROUND FROM ABOVE",
      "zxBELOWzxLEFTzx.eUPPER zzeRIGHTzxLOWER LEFTzjOVERLAID"]),
    (0x3000, ["mSPACEmCOMMAmFULL STOPaDITTO MARKaJAPANESE INDUSTRIAL STANDARD SYMBOL",
      "aIDEOGRAPHIC ITERATION MARKm.fCLOSINGmNUMBER ZEROaLEFT ANGLE BRACKETa.pRIGHa.oLEFT DOUBLE",
      "a.wRIGHa.iLEFT CORNERa.qRIGHa.pLEFT WHITEa.wRIGHa.jLEFT BLACK LENTICULAa.zbRIGH",
      "aPOSTAL MARKa.fGETAaLEFT TORTOISE SHELL BRACKETa.yRIGHa.iLEFT WHITE LENTICULARa.zbRIGH",
      "a.iLEFT WHITE TORTOISE SHELLa.zfRIGHa.iLEFT WHITE SQUAREa.wRIGHaWAVE DASH",
      "aREVERSED DOUBLE PRIME QUOTATION MARKa.zbDa.zcLOW aPOSTAL MARK FACEaHANGZHOU NUMERAL ONE",
      "rTWOsHREErFOURsIVErSIXsEVENrEIGHTrNINEaIDEOGRAPHIC LEVEL TONE MARKm.kRISINGm.nDEPART",
      "m.nENTERa.kHANGUL SINGLE DOTh.qDOUBaWAVY DASHaVERTICAL KANA REPEAT MARK",
      "v.eWITH VOICED SOUND vMARK UPPER HALFv.pWITH VOICED SOUND v.hMARK LOWaCIRCLED POSTAL MARK",
      "aIDEOGRAPHIC TELEGRAPH LINE FEED SEPARATOR SYMBOLaHANGZHOU NUMERAL TENsWENTYsHIRTY",
      "aVERTICAL IDEOGRAPHIC ITERATION MARKa.fMASUa.fPART ALTERNATION",
      "aIDEOGRAPHIC VARIATION INDICATORmHALF FILL SPACE"]),
    (0x3041, ["aHIRAGANA LETTER SMALL AqAqSMALL IqIqSMALL UqUqSMALL EqEqSMALL OqOqKAqGAqKIqGIqKU",
      "qGUqKEqGEqKOqGOqSAqZAqSIqZIqSUqZUqSEqZEqSOqZOqTAqDAqTIqDIqSMALL TUqTUqDUqTEqDEqTOqDOqNArI",
      "rUrErOqHAqBAqPAqHIqBIqPIqHUqBUqPUqHEqBEqPEqHOqBOqPOqMArIrUrErOqSMALL YAqYAqSMALL YUqYU",
      "qSMALL YOqYOqRArIrUrErOqSMALL WAqWArIrErOqNqVUqSMALL KAxE"]),
    (0x3099, ["aCOMBINING KATAKANA-HIRAGANA VOICED SOUND MARKzd.rSEMI-a.rKATAKANA-HIRAGANA ",
      "s.rSEMI-a.fHIRAGANA ITERATIONj.oVOICED jDIGRAPH YORIaKATAKANA-HIRAGANA DOUBLE HYPHEN",
      "i LETTER SMALL AqAqSMALL IqIqSMALL UqUqSMALL EqEqSMALL OqOqKAqGAqKIqGIqKUqGUqKEqGEqKOqGO",
      "qSAqZAqSIqZIqSUqZUqSEqZEqSOqZOqTAqDAqTIqDIqSMALL TUqTUqDUqTEqDEqTOqDOqNArIrUrErOqHAqBAqPA",
      "qHIqBIqPIqHUqBUqPUqHEqBEqPEqHOqBOqPOqMArIrUrErOqSMALL YAqYAqSMALL YUqYUqSMALL YOqYOqRArI",
      "rUrErOqSMALL WAqWArIrErOqNqVUqSMALL KAxEqVArIrErOjMIDDLE DOT",
      "i-HIRAGANA PROLONGED SOUND MARKi.f ITERATIONj.oVOICED jDIGRAPH KOTO"]),
    (0x3105, ["aBOPOMOFO LETTER BqPqMqFqDqTqNqLqGqKqHqJqQqXqZHqCHqSHqRqZqCqSqAqOqErHqAIqEIqAUqOU",
      "qANqENqANGqENGrRqIqUqIUqVqNGqGNqIHqO WITH DOT ABOVEqNN"]),
    (0x3131, ["aHANGUL LETTER KIYEOKo.gSSANGoKIYEOK-SIOSoNIEUNt-CIEUCuHIEUHoTIKEUTo.gSSANGoRIEUL",
      "t-KIYEOKuMIEUMuPIEUPuSIOSuTHIEUTHuPHIEUPHuHIEUHoMIEUMoPIEUPo.fSSANGoPIEUP-SIOSo.dS",
      "p.dSANGSoIEUNGoCIEUCo.fSSANGoCHIEUCHoKHIEUKHoTHIEUTHoPHIEUPHoHIEUHoApEoYAqEoEOoEoYEOpEoO",
      "oWAqEoOEoYOoUoWEOpEpIoYUoEUoYIoIhFILLERhLETTER SSANGNIEUNoNIEUN-TIKEUTuSIOSu.ePAN",
      "o.eRIEUL-KIYEOK-uTIKEUTuPIEUP-SIOSv.eANuYEORINHIEUHoMIEUM-PIEUPuSIOSu.ePANoKAPYEOUNMIEUM",
      "oPIEUP-KIYEOKuTIKEUTuSIOS-KIYEOKzTIKEUTuCIEUCuTHIEUTHoKAPYEOUNPIEUPw.fSSANGoSIOS-KIYEOK",
      "tNIEUNtTIKEUTtPIEUPtCIEUCoPANSIOSoSSANGIEUNGo.fYESw-SIOSx.ePANoKAPYEOUNPHIEUPHoSSANGHIEUH",
      "o.fYEORINpO-YAtErIpU-YEOsErIoARAEAtE"]),
    (0x3190, ["aIDEOGRAPHIC ANNOTATION LINKING MARKx.fREVERSEx.gONx.fTWOy.fHREEx.fFOURx.fTOP",
      "x.fMIDDLEx.fBOTTOMx.fFIRSTx.fSECONDx.gTHIRx.fFOURTHx.fHEAVENx.fEARTHx.fMAN",
      "aBOPOMOFO LETTER BUqZIqJIqGUqEErNNqOOrNNqIRqANNqINNqUNNqIMqNGGqAINNrUNNrMqOMrNGqINNN",
      "jFINAL LETTER PwTwKwHjLETTER GHqLHqZYjFINAL LETTER GjLETTER GWqKWqOEqAHaCJK STROKE TlWG",
      "lXGlBXGlSWlHZZnGmPmZWGl.dSlHZTnZPmPWGmZWnZZlNlHlSlPlSPlDlHZmGlSZmWZmTmGlPDmZlTNlSZZmWG",
      "lHXWGmZZZGlPGlQ"]),
    (0x31f0, ["aKATAKANA LETTER SMALL KUwSIxUwTOwNUwHAxIxUxExOwMUwRAxIxUxExO",
      "aPARENTHESIZED HANGUL KIYEOKvNIEUNvTIKEUTvRIEULvMIEUMvPIEUPvSIOSvIEUNGvCIEUCwHIEUCH",
      "vKHIEUKHvTHIEUTHvPHIEUPHvHIEUHvKIYEOK AvNIEUN AvTIKEUT AvRIEUL AvMIEUM AvPIEUP AvSIOS A",
      "vIEUNG AvCIEUC AwHIEUCH Av.dKHIEUKv.dTHIEUTv.dPHIEUPv.dHIEUvCIEUC U",
      "oKOREAN CHARACTER OJEONzh HU"]),
    (0x3220, ["oIDEOGRAPH ONEyTWOzHREEyFOURzIVEySIXzEVENyEIGHTyNINEyTENyMOONyFIREyWATERzOOD",
      "yMETALyEARTHySUNzTOCKyHAVEySOCIETYyNAMEySPECIALy.eFINANyCONGRATULATIONyLABORyREPRESENT",
      "yCALLySTUDYzUPERVISEy.dENTERPRyRESOURCEyALLIANCEyFESTIVALyRESTySELFyREACH",
      "aCIRCLED IDEOGRAPH QUESTIONsKINDERGARTENsSCHOOLsKOTOiNUMBER TEN ON BLACK SQUAREq.qWENTY",
      "q.sHIRp.tFOq.sIFp.sSIXq.sEVENp.sEIGHaPARTNERSHIP SIGNaCIRCLED NUMBER TWENTY ONEwTWOxHREE",
      "wFOURxIVEwSIXxEVENwEIGHTwNINEqHIRTYv ONEwTWOxHREEwFOURxIVEiHANGUL KIYEOKpNIEUNpTIKEUT",
      "pRIEULpMIEUMpPIEUPpSIOSpIEUNGpCIEUCqHIEUCHpKHIEUKHpTHIEUTHpPHIEUPHpHIEUHpKIYEOK ApNIEUN A",
      "pTIKEUT ApRIEUL ApMIEUM ApPIEUP ApSIOS ApIEUNG ApCIEUC AqHIEUCH Ap.dKHIEUKp.dTHIEUT",
      "p.dPHIEUPp.dHIEUiKOREAN CHARACTER CHAMKOzJUEUIiHANGUL IEUNG UaKOREAN STANDARD SYMBOL",
      "aCIRCLED IDEOGRAPH ONEsTWOtHREEsFOURtIVEsSIXtEVENsEIGHTsNINEsTENsMOONsFIREsWATERtOOD",
      "sMETALsEARTHsSUNtTOCKsHAVEsSOCIETYsNAMEsSPECIALs.eFINANsCONGRATULATIONsLABORsSECRETsMALE",
      "s.eFEsSUITABLEsEXCELLENTsPRINTsATTENTIONsITEMsRESTsCOPYuRRECTsHIGHsCENTREsLOWtEFTsRIGHT",
      "sMEDICINEsRELIGIONsSTUDYtUPERVISEs.dENTERPRsRESOURCEsALLIANCEsNIGHTiNUMBER THIRTY SIX",
      "xEVENwEIGHTwNINEpFORTYu ONEvTWOwHREEvFOURwIVEvSIXwEVENvEIGHTvNINEqIFTY",
      "aIDEOGRAPHIC TELEGRAPH SYMBOL FOR JANUARYzi.eFEBRziMARCHziAPRILziMAYziJUNEzkLYziAUGUST",
      "ziSEPTEMBERzi.dOCTOzi.dNOVEMzi.fDECaSQUARE HGhERGiVaLIMITED LIABILITY SIGN",
      "aCIRCLED KATAKANA ArIrUrErOrKAsIsUsEsOrSAsIsUsEsOrTAsIsUsEsOrNAsIsUsEsOrHAsIsUsEsOrMAsIsU",
      "sEsOrYAsUsOrRAsIsUsEsOrWAsIsEsOaSQUARE ERA NAME REIWAhAPAATOiRUHUAiNPEAiARUhININGUjTIhUON",
      "hESUKUUDOiEKAAhONSUiOMUhKAIRIjRATTOkORIIhGARONjNMAiIGAjNIIhKYURIIhGIRUDAAhKIROlGURAMU",
      "lMEETORUlWATTOhGURAMUnTONhKURUZEIROkOONEiEESUiORUNAjOPOhSAIKURUjNTIIMUiIRINGUiENTIlO",
      "hDAASUiESIiORUhTONhNANOiOTTOhHAITUhPAASENTOkTUhBAARERUhPIASUTORUjKURUkOhBIRUhHUARADDO",
      "jIITOhBUSSYERUhHURANiEKUTAARUhPESOjNIHIhHERUTUhPENSUjEZIhBEETAhPOINTOhBORUTOhHONhPONDO",
      "hHOORUkNhMAIKUROkRUjHHAjRUKUjNSYONiIKURONjRIlBAARUiEGAlTONjETORUhYAADOkRUiUANhRITTORUjRA",
      "iUPIIjUBURUiEMUjNTOGENhWATTOaIDEOGRAPHIC TELEGRAPH SYMBOL FOR HOUR ZEROznONEznTWOzoHREE",
      "znFOURzoIVEznSIXzoEVENznEIGHTznNINEznTENznELEVENznTWELVEzoHIRTEENzn.fFOUzo.eIFzn.eSIX",
      "zo.eEVENzn.eEIGHzn.eNINEznTWENTYzt-ONEzuTWOzvHREEzuFOURaSQUARE HPAhDAhAUhBARhOVhPChDM",
      "j SQUAREDkCUBEDhIUhERA NAME HEISEIqSYOUWAqTAISYOUqMEIZIhCORPORATIONhPA AMPShNAhMU AiAhKA",
      "iBhMBhGBhCALh.dKhPFhNFhMU FkGiGhKGhHZhKHZhMHZhGHZhTHZhMU LiLhDLhKLhFMhNMhMU MiMhCMhKM",
      "hMM SQUAREDh.jCh.iMh.jKhMM CUBEDh.hCh.gMh.hKhM OVER Sp SQUAREDhPAhKPAhMPAhGPAhRADk OVER S",
      "r SQUAREDhPShNShMU SiShPVhNVhMU ViVhKVhMV MEGAhPWhNWhMU WiWhKWhMW MEGAhK OHMh.eMhAMhBQhCC",
      "iDi OVER KGiOhDBhGYhHAiPhINhKKiM CAPITALiThLMiNiOGiXhMB SMALLiILiOLhPHiMiPMiRhSRiVhWB",
      "hV OVER Mh.hAaIDEOGRAPHIC TELEGRAPH SYMBOL FOR DAY ONEzmTWOznHREEzmFOURznIVEzmSIXznEVEN",
      "zmEIGHTzmNINEzmTENzmELEVENzmTWELVEznHIRTEENzm.fFOUzn.eIFzm.eSIXzn.eEVENzm.eEIGHzm.eNINE",
      "zmTWENTYzs-ONEztTWOzuHREEztFOURzuIVEztSIXzuEVENztEIGHTztNINEznHIRTYzs-ONEaSQUARE GAL"]),
    (0x4dc0, ["aHEXAGRAM FOR THE CREATIVE HEAVENrRECEPTIVE EARTHnDIFFICULTY AT THE BEGINNING",
      "nYOUTHFUL FOLLYnWAITINGnCONFLICTnTHE ARMYnHOLDING TOGETHERnSMALL TAMINGn.dTREADnPEACE",
      "nSTANDSTILLnFELLOWSHIPnGREAT POSSESSIONnMODESTYnENTHUSIASMnFOLLOWINGnWORK ON THE DECAYED",
      "nAPPROACHnCONTEMPLATIONnBITING THROUGHnGRACEnSPLITTING APARTnRETURNnINNOCENCE",
      "nGREAT TAMINGnMOUTH CORNERSnGREAT PREPONDERANCEnTHE ABYSMAL WATERrCLINGING FIREnINFLUENCE",
      "nDURATIONnRETREATnGREAT POWERnPROGRESSnDARKENING OF THE LIGHTnTHE FAMILYnOPPOSITION",
      "o.eBSTRUCnDELIVERANCEpCREASEn.gINnBREAKTHROUGHnCOMING TO MEETnGATHERING TOGETHER",
      "nPUSHING UPWARDnOPPRESSIONnTHE WELLnREVOLUTIONnTHE CAULDRONrAROUSING THUNDER",
      "rKEEPING STILL MOUNTAINnDEVELOPMENTnTHE MARRYING MAIDENnABUNDANCEnTHE WANDERER",
      "rGENTLE WINDrJOYOUS LAKEnDISPERSIONn.dLIMITATnINNER TRUTHnSMALL PREPONDERANCE",
      "nAFTER COMPLETIONn.lBEFORE"])]

/-- Names from U+A000 on. -/
def namesFroma000 : List (Nat × List String) := [
    (0xa000, ["aYI SYLLABLE ITnXmInPnEToXnEoPmATnXmAnPmUOXnOoPmOTnXmOnPmEXmEmWUmBIToXnIoPoETpXoE",
      "pPnAToXnAoPnUOXoOpPnOToXnOoPnEXnEoPnUToXnUoPoRXoRnYToXnYoPoRXoRmPIToXnIoPoEXoEpPnAToXnAoP",
      "nUOXoOpPnOToXnOoPnUToXnUoPoRXoRnYToXnYoPoRXoRmBBITpXoIpPpETqXpEqPoATpXoApPoUOXpOqPoOTpXoO",
      "pPoEXoEpPoUTpXoUpPpRXpRoYTpXoYpPmNBITpXoIpPpEXpEqPoATpXoApPoOTpXoOpPoUTpXoUpPpRXpRoYTpXoY",
      "pPpRXpRmHMITpXoIpPpEXpEqPoATpXoApPoUOXpOqPoOTpXoOpPoUTpXoUpPpRXpRoYXoYpPpRXpRmMIToXnIoP",
      "oEXoEpPnAToXnAoPnUOTpXoOpPnOToXnOoPnEXnEnUToXnUoPoRXoRnYToXnYoPmFIToXnIoPnAToXnAoPnOXnOoP",
      "nUToXnUoPoRXoRnYToXnYoPmVIToXnIoPoETpXoEpPnAToXnAoPnOToXnOoPnEXoPnUToXnUoPoRXoRnYToXnYoP",
      "oRXoRmDIToXnIoPoEXoEpPnAToXnAoPnUOXoOnOToXnOoPnEXnEoPnUToXnUoPoRXoRmTIToXnIoPoEXoEpPnAToX",
      "nAoPnUOTpXoOpPnOToXnOoPnEXnEoPnUToXnUoPoRXoRmDDITpXoIpPpEXpEqPoATpXoApPoUOXpOqPoOTpXoOpP",
      "oEXoEpPoUTpXoUpPpRXpRmNDITpXoIpPpEXpEoATpXoApPoOTpXoOpPoEXoEpPoUTpXoUpPpRXpRmHNITpXoIpP",
      "pETqXpEqPoATpXoApPoUOXpOoOTpXpPoEXoEpPoUTmNIToXnIoPoEXoEpPnAXnAoPnUOXoOpPnOToXnOoPnEXnEoP",
      "nUToXnUoPoRXoRmHLITpXoIpPpEXpEqPoATpXoApPoUOXpOqPoOXoOpPoEXoEpPoUTpXoUpPpRXpRoYTpXoYpPpRX",
      "pRmLIToXnIoPoETpXoEpPnAToXnAoPnUOTpXoOpPnOToXnOoPnEXnEoPnUToXnUoPoRXoRnYToXnYoPoRXoRmGIT",
      "oXnIoPoETpXoEpPnAToXnAoPnUOTpXoOpPnOToXnOoPnEToXnEoPnUToXnUoPoRXoRmKIToXnIoPoEXoEpPnAToX",
      "nAoPnUOXoOpPnOToXnOoPnEToXnEoPnUToXnUoPoRXoRmGGITpXoIpEXpEqPoATpXoApPoUOTqXpOqPoOTpXoOpP",
      "oETpXoEpPoUTpXoUpPpRXpRmMGIEXpEoATpXoApPoUOXpOqPoOTpXoOpPoEXoEpPoUTpXoUpPpRXpRmHXITpXoIpP",
      "pETqXpEqPoATpXoApPoUOTqXpOqPoOTpXoOpPoEXoEpPmNGIEXpEqPoATpXoApPoUOTqXpOoOTpXoOpPoEXoEpP",
      "mHIToEXoEnAToXnAoPnUOTpXoOpPnOToXnOoPnEXnEoPmWAToXnAoPnUOXoOpPnOXnOoPnEXnEoPmZIToXnIoPoEX",
      "oEpPnAToXnAoPnUOXoOpPnOToXnOoPnEXnEoPnUToXnUoPoRXoRnYToXnYoPoRXoRmCIToXnIoPoETpXoEpPnAToX",
      "nAoPnUOXoOpPnOToXnOoPnEXnEoPnUToXnUoPoRXoRnYToXnYoPoRXoRmZZITpXoIpPpETqXpEqPoATpXoApPoOX",
      "oOpPoEXoEpPoUXoUpPpRXpRoYTpXoYpPpRXpRmNZITpXoIpPpEXpEqPoATpXoApPoUOXpOoOXpPoEXoEoUXoUpP",
      "pRXpRoYTpXoYpPpRXpRmSIToXnIoPoEXoEpPnAToXnAoPnUOXoOpPnOToXnOoPnEXnEoPnUToXnUoPoRXoRnYToX",
      "nYoPoRXoRnSITpXoIpPpEXpEqPoATpXoApPoOTpXoOpPoEXoEpPoUTpXoUpPoYTpXoYpPpRXpRmZHATpXoApPoUOX",
      "pOqPoOTpXoOpPoETpXoEpPoUTpXoUpPpRXpRoYTpXoYpPpRXpRmCHATpXoApPoUOTqXpOqPoOTpXoOpPoETpXoEpP",
      "oUXoUpPpRXpRoYTpXoYpPpRXpRmRRAXoAoUOXpOoOTpXoOpPoETpXoEpPoUTpXoUpPpRXpRoYTpXoYpPpRXpR",
      "mNRATpXoApPoOXoOpPoETpXoEpPoUTpXoUpPpRXpRoYTpXoYpPpRXpRmSHATpXoApPoUOXpOqPoOTpXoOpPoETpX",
      "oEpPoUTpXoUpPpRXpRoYTpXoYpPpRXpRmRAToXnAoPnUOXoOpPnOToXnOoPnEXnEoPnUToXnUoPoRXoRnYToXnYoP",
      "oRXoRmJIToXnIoPoETpXoEpPnUOTpXoOpPnOToXnOoPnUToXnUoPoRXoRnYToXnYoPoRXoRmQIToXnIoPoETpXoE",
      "pPnUOTpXoOpPnOToXnOoPnUToXnUoPoRXoRnYToXnYoPoRXoRmJJITpXoIpPpETqXpEqPoUOXpOqPoOTpXoOpPoUT",
      "pXoUpPpRXpRoYTpXoYpPmNJITpXoIpPpETqXpEqPoUOXpOoOTpXoOpPoUXoUpPpRXpRoYTpXoYpPpRXpRnYITpXoI",
      "pPpETqXpEqPoUOXpOqPoOTpXoOpPoUTpXoUpPmXIToXnIoPoETpXoEpPnUOXoOnOToXnOoPnYToXnYoPoRXoRmYIT",
      "oXnIoPoETpXoEpPnUOTpXoOpPnOToXnOoPnUToXnUoPoRXoRnYToXnYoPoRXoR"]),
    (0xa490, ["dRADICAL QOTlLIlKITlNYIPlCYPlSSIlGGOPmEPlMIlHXITlLYRlBBUTlMOPlYOlPUTlHXUOlTATlGA",
      "lZUPlCYTlDDURlBURlGGUOlNYOPlTUlOPlJJUTlZOTlPYTlHMOlYITlVURlSHYlVEPlZAlJOlNZUPlJJYlGOT",
      "lJJIElWOlDUlSHURlLIElCYmUOPmIPlHXOPlSHATlZURlSHOPlCHElZZIETlNBIElKE"]),
    (0xa4d0, ["aLISU LETTER BAmPAnHAmDAmTAnHAmGAmKAnHAmJAmCAnHAmDZAmTSAoHAmMAmNAmLAmSAmZHAnAmNGA",
      "mHAmXAmHHAmFAmWAmSHAmYAmGHAmAnEmEnUmImOmUnEnHmOEmTONE MYA TIrNA POrMYA CYAvBOvNAvJEU",
      "fPUNCTUATION COMMArFULL STOPaVAI SYLLABLE EEpNnHEEnWEEqNnPEEnBHEEoEEn.dMnKPEEnMGBEEn.dG",
      "nFEEnVEEnTEEoHEEn.dDpHEEnLEEnREEnDEEn.dNnSEEoHEEnZEEoHEEnCEEnJEEn.dNnYEEnKEEnNGGEEnGEE",
      "nMEEnNEEoYEEnIoNnHIpNnWIpNnPInBHIoInMBInKPInMGBInGBInFInVInTIoHInDHIpHInLInRInDInNDInSI",
      "oHInZIoHInCInJInNJInYInKInNGGInGInMInNIoYInAoNnNGANnHApNnWApNnPAnBHAoAnMBAnKPAqNnMGBAnGBA",
      "nFAnVAnTAoHAnDHApHAnLAnRAnDAnNDAnSAoHAnZAoHAnCAnJAnNJAnYAnKApNnNGGAnGAnMAnNAoYAnOOpNnHOO",
      "nWOOqNnPOOnBHOOoOOn.dMnKPOOnMGBOOn.dGnFOOnVOOnTOOoHOOn.dDpHOOnLOOnROOnDOOn.dNnSOOoHOOnZOO",
      "oHOOnCOOnJOOn.dNnYOOnKOOnNGGOOnGOOnMOOnNOOoYOOnUoNnHUpNnWUpNnPUnBHUoUnMBUnKPUnMGBUnGBUnFU",
      "nVUnTUoHUnDHUpHUnLUnRUnDUnNDUnSUoHUnZUoHUnCUnJUnNJUnYUnKUnNGGUnGUnMUnNUoYUnOoNnNGONnHOpN",
      "nWOpNnPOnBHOoOnMBOnKPOnMGBOnGBOqNnFOnVOnTOoHOnDHOpHOnLOnROnDOnNDOnSOoHOnZOoHOnCOnJOnNJO",
      "nYOnKOnNGGOnGOnMOnNOoYOnEoNnNGENnHEpNnWEpNnPEnBHEoEnMBEnKPEqNnMGBEnGBEqNnFEnVEnTEoHEnDHE",
      "pHEnLEnREnDEnNDEnSEoHEnZEoHEnCEnJEnNJEnYEnKEnNGGErNnGEpNnMEnNEoYEoGnLENGTHENEReCOMMA",
      "eFULL STOPeQUESTION MARKeSYLLABLE NDOLE FAtKAtSOOgMBOL FEENGl.eKlTINGlNIIlBANGlFAAlTAA",
      "lDANGmOONGlKUNGlTONGlDO-OlJONGeDIGIT ZEROkONEkTWOlHREEkFOURlIVEkSIXlEVENkEIGHTkNINE",
      "eSYLLABLE NDOLE MAtDO"]),
    (0xa640, ["aCYRILLIC CAPITAL LETTER ZEMLYAj.pSMALjCAPITAL LETTER DZELOj.oSMAL",
      "jCAPITAL LETTER REVERSED DZEj.vSMALjCAPITAL LETTER IOTAj.nSMALjCAPITAL LETTER DJERV",
      "j.oSMALjCAPITAL LETTER MONOGRAPH UKj.vSMALjCAPITAL LETTER BROAD OMEGAj.uSMAL",
      "jCAPITAL LETTER NEUTRAL YERj.uSMALj.eCAPITAL LETTER YERU WITH BACKj.zcSMAL",
      "jCAPITAL LETTER IOTIFIED YATj.vSMALjCAPITAL LETTER REVERSED YUj.uSMAL",
      "jCAPITAL LETTER IOTIFIED Aj.tSMALjCAPITAL LETTER CLOSED LITTLE YUSj.zbSMAL",
      "j.eCAPITAL LETTER BLENDEDj.uSMALj.eCAPITAL LETTER IOTIFIED CLOSED LITTLEj.zkSMAL",
      "jCAPITAL LETTER YNj.lSMALjCAPITAL LETTER REVERSED TSEj.vSMALjCAPITAL LETTER SOFT DE",
      "j.qSMALjCAPITAL LETTER SOFT ELj.qSMALjCAPITAL LETTER SOFT EMj.qSMAL",
      "jCAPITAL LETTER MONOCULAR Oj.uSMALj.jCAPITAL LETTER BIj.uSMALj.jCAPITAL LETTER DOUBLE MO",
      "j.zcSMALj.iLETTER MULTIbOMBINING CYRILLIC VZMETtTEN MILLIONS SIGNt.oHUNDREDt.pTHOUSAN",
      "aSLAVONIC ASTERISKaCOMBINING CYRILLIC LETTER UKRAINIAN IEzbIzbYIzbUzbHARD SIGNzbYERU",
      "zbSOFT SIGNzbOMEGAtKAVYKAtPAYEROKbYRILLIC KAVYKAjPAYEROKjCAPITAL LETTER DWEj.mSMAL",
      "jCAPITAL LETTER DZWEj.nSMALjCAPITAL LETTER ZHWEj.nSMALjCAPITAL LETTER CCHEj.nSMAL",
      "jCAPITAL LETTER DZZEj.nSMALjCAPITAL LETTER TE WITH MIDDLE HOOKj.zdSMALjCAPITAL LETTER TWE",
      "j.mSMALjCAPITAL LETTER TSWEj.nSMALjCAPITAL LETTER TSSEj.nSMALjCAPITAL LETTER TCHEj.nSMAL",
      "jCAPITAL LETTER HWEj.mSMALj.dCAPITAL LETTER Sj.nSMALjCAPITAL LETTER DOUBLE Oj.rSMAL",
      "jCAPITAL LETTER CROSSED Oj.sSMALaMODIFIER LETTER CYRILLIC HARD SIGNz.fSOFT",
      "aCOMBINING CYRILLIC LETTER EFzbIOTIFIED EaBAMUM LETTER AnKAnUnKUnEEnREEnTAEnOnNYInInLAnPA",
      "nRIIpEEnLEEEEn.eMnTAAnNDAAoJAEMnMnSUUnMUnSHIIoIoHEUXoEUXnKYEEoETnNUAEoUoJUAEnYOQnSHUnYUQ",
      "oAnNSHAnKEUXn.dPnNJEEoTEEnPUEnWUEnPEEnFEEnRUnLUnMInNInREUXoAEnKENnNGKWAENpGApAnSHOnPUAE",
      "nFUoOMnWAnNAnLInPInLOQnKOnMBENnRENnMENoAnTInKInMOoBAAnTETnKPAnTENnNTUUnSAMBAnFAAMAEnKOVUU",
      "pGHOMgCOMBINING MARK KOQNDONvTUKWENTISgNJAEMLIgFULL STOPgCOLONiMMAgSEMICOLON",
      "gQUESTION MARK"]),
    (0xa700, ["aMODIFIER LETTER CHINESE TONE YIN PINGzf.fANGzfIN SHANGzf.gANGzfIN QUzf.dANG",
      "zfIN RUzf.dANGqEXTRA-HIGH DOTTED TONE BARq.tHq.qMIDq.qLOWq.tEXTRA-",
      "w.jHIGH DOTTED LEFT-STEMq.zeHq.zbMIDq.zbLOWq.zeEXTRA-w.tHIGHq.wHq.tMIDq.tLOWq.wEXTRA-",
      "q.eDOT VERTICALuSLASHuHORIZONTAL BARqLOWER RIGHT CORNER ANGLEqRAISED UP ARROWx.gDOWN",
      "xEXCLAMATION MARKx.qINVERTED q.zbLOWqSTRESS AND HIGH TONEzc.fLOW",
      "aLATIN CAPITAL LETTER EGYPTOLOGICAL ALEFg.zcSMALgCAPITAL LETTER EGYPTOLOGICAL AINg.zbSMAL",
      "gCAPITAL LETTER HENGg.nSMALgCAPITAL LETTER TZg.lSMALgCAPITAL LETTER TRESILLOg.rSMAL",
      "g.eCAPITAL LETTER CUATRg.sSMALgCAPITAL LETTER CUATRILLO WITH COMMAg.zeSMAL",
      "gLETTER SMALL CAPITAL FzcSgCAPITAL LETTER AAg.lSMALgCAPITAL LETTER AOg.lSMAL",
      "gCAPITAL LETTER AUg.lSMALgCAPITAL LETTER AVg.lSMALgCAPITAL LETTER AV WITH HORIZONTAL BAR",
      "g.zgSMALgCAPITAL LETTER AYg.lSMALgCAPITAL LETTER REVERSED C WITH DOTg.zdSMAL",
      "gCAPITAL LETTER K WITH STROKEg.wSMALg.hCAPITAL LETTER K WITH DIAGONALg.zgSMAL",
      "g.qCAPITAL LETTER K WITH STROKE ANDg.zrSMALgCAPITAL LETTER BROKEN Lg.rSMAL",
      "gCAPITAL LETTER L WITH HIGH STROKEg.zcSMALgCAPITAL LETTER O WITH LONG STROKE OVERLAY",
      "g.zkSMALgCAPITAL LETTER O WITH LOOPg.uSMALgCAPITAL LETTER OOg.lSMAL",
      "gCAPITAL LETTER P WITH STROKE THROUGH DESCENDERg.zpSMALgCAPITAL LETTER P WITH FLOURISH",
      "g.ySMALgCAPITAL LETTER P WITH SQUIRREL TAILg.zeSMAL",
      "gCAPITAL LETTER Q WITH STROKE THROUGH DESCENDERg.zpSMAL",
      "gCAPITAL LETTER Q WITH DIAGONAL STROKEg.zgSMALgCAPITAL LETTER R ROTUNDAg.sSMAL",
      "g.iCAPITAL LETTER RUMg.uSMALgCAPITAL LETTER V WITH DIAGONAL STROKEg.zgSMAL",
      "gCAPITAL LETTER VYg.lSMALgCAPITAL LETTER VISIGOTHIC Zg.vSMAL",
      "gCAPITAL LETTER THORN WITH STROKEg.zbSMAL",
      "gCAPITAL LETTER THORN WITH STROKE THROUGH DESCENDERg.ztSMALgCAPITAL LETTER VENDg.nSMAL",
      "gCAPITAL LETTER ETg.lSMALgCAPITAL LETTER ISg.lSMALgCAPITAL LETTER CONg.mSMAL",
      "aMODIFIER LETTER USaLATIN SMALL LETTER DUMtLUMtMUMtNUMtRUMg.eLETTER SMALL CAPITAL",
      "gSMALL LETTER TUMtUMgCAPITAL LETTER INSULAR Dg.sSMALgCAPITAL LETTER INSULAR Fg.sSMAL",
      "gCAPITAL LETTER INSULAR Gv.jTURNED g.zSMALgCAPITAL LETTER TURNED Lg.rSMAL",
      "gCAPITAL LETTER INSULAR Rg.sSMALgCAPITAL LETTER INSULAR Sg.sSMALgCAPITAL LETTER INSULAR T",
      "g.sSMALaMODIFIER LETTER LOW CIRCUMFLEX ACCENTqCOLONqSHORT EQUALS SIGN",
      "aLATIN CAPITAL LETTER SALTILLOg.rSMALgCAPITAL LETTER TURNED H",
      "gSMALL LETTER L WITH RETROFLEX HOOK AND BELTgLETTER SINOLOGICAL DOT",
      "gCAPITAL LETTER N WITH DESCENDERg.zSMALgCAPITAL LETTER C WITH BARg.tSMALzbPALATAL HOOK",
      "t.sHgCAPITAL LETTER B WITH FLOURISHg.ySMALgCAPITAL LETTER F WITH STROKEg.wSMAL",
      "gCAPITAL LETTER VOLAPUK AEg.tSMALgCAPITAL LETTER VOLAPUK OEg.tSMAL",
      "gCAPITAL LETTER VOLAPUK UEg.tSMALgCAPITAL LETTER G WITH OBLIQUE STROKEg.zfSMAL",
      "g.uCAPITAL LETTER Kg.zfSMALg.uCAPITAL LETTER Ng.zfSMALg.uCAPITAL LETTER Rg.zfSMAL",
      "g.uCAPITAL LETTER Sg.zfSMALgCAPITAL LETTER H WITH HOOKvREVERSED OPEN EvSCRIPT G",
      "vL WITH BELTvSMALL CAPITAL IgLETTER SMALL CAPITAL QgCAPITAL LETTER TURNED KzdT",
      "vJ WITH CROSSED-TAILvCHIvBETAg.nSMALgCAPITAL LETTER OMEGAg.oSMAL",
      "gCAPITAL LETTER U WITH STROKEg.wSMALgCAPITAL LETTER GLOTTAL Ag.sSMAL",
      "gCAPITAL LETTER GLOTTAL Ig.sSMALgCAPITAL LETTER GLOTTAL Ug.sSMAL",
      "gCAPITAL LETTER OLD POLISH Og.vSMALgCAPITAL LETTER ANGLICANA Wg.uSMAL",
      "gCAPITAL LETTER C WITH PALATAL HOOKv.fS WITHv.fZ WITH PALATALvD WITH SHORT STROKE OVERLAY",
      "g.zlSMALg.zbCAPITAL LETTER Sg.zlSMAL"]),
    (0xa7d0, ["gCAPITAL LETTER CLOSED INSULAR Gg.zSMAL"]), (0xa7d3, ["tDOUBLE THORN"]),
    (0xa7d5, ["zbWYNNgCAPITAL LETTER MIDDLE SCOTS Sg.xSMALgCAPITAL LETTER SIGMOID Sg.sSMAL"]),
    (0xa7f2, ["aMODIFIER LETTER CAPITAL CyFyQaLATIN CAPITAL LETTER REVERSED HALF Hg.ySMAL",
      "gEPIGRAPHIC LETTER SIDEWAYS IaMODIFIER LETTER CAPITAL H WITH STROKEqSMALL LIGATURE OE",
      "aLATIN LETTER SMALL CAPITAL TURNED MgEPIGRAPHIC LETTER REVERSED FziPyINVERTED Mz LONGA",
      "yARCHAIC MaSYLOTI NAGRI LETTER AuInSIGN DVISVARAnLETTER UuEuOnSIGN HASANTAnLETTER KOvHO",
      "uGOvHOnSIGN ANUSVARAnLETTER COvHOuJOvHOuTTOwHOuDDOwHOuTOvHOuDOvHOuNOuPOvHOuBOvHOuMOuROuLO",
      "uRROuSOuHOnVOWEL SIGN AyIyUyEyOOnPOETRY MARK-1z2z3z4nSIGN ALTERNATE HASANTA"]),
    (0xa830, ["aNORTH INDIC FRACTION ONE QUARTERzHALFvTHREE QUARTERSvONE SIXTEENTHzEIGHTH",
      "vTHREE SIXTEENTHSmQUARTER MARKm.hPLACEHOLDm.fRUPEEm.fQUANTITY"]),
    (0xa840, ["aPHAGS-PA LETTER KArHAqGAqNGAqCArHAqJAqNYAqTArHAqDAqNAqPArHAqBAqMAqTSAsHAqDZAqWA",
      "qZHArAqSMALL AqYAqRAqLAqSHArAqHAqAqIqUqEqOqQAqXAqFAqGGAqEEjSUBJOINED LETTER WAzbYA",
      "jLETTER TTAsHAqDDAqNNAqALTERNATE YAqVOICELESS SHAvD HAqASPIRATED FAjSUBJOINED LETTER RA",
      "l.mPERFIXjLETTER CANDRABINDUjSINGLE HEAD MARKj.mDOUBjMARK SHADo.eDOUBLE "]),
    (0xa880, ["aSAURASHTRA SIGN ANUSVARAqVISARGAlLETTER AtAsItIsUtUsVOCALIC RzcRzbLzcLsEtEsAIsO",
      "tOsAUsKAtHAsGAtHAsNGAsCAtHAsJAtHAsNYAsTTAuHAsDDAuHAsNNAsTAtHAsDAtHAsNAsPAtHAsBAtHAsMAsYA",
      "sRAsLAsVAsSHAtSAtAsHAsLLAlCONSONANT SIGN HAARUlVOWEL SIGN AAwIxIwUxUwVOCALIC RzgRzfLzgLwE",
      "xEwAIwOxOwAUlSIGN VIRAMAqCANDRABINDU"]),
    (0xa8ce, ["lDANDAm.eOUBLE DmIGIT ZEROrONErTWOsHREErFOURsIVErSIXsEVENrEIGHTrNINE"]),
    (0xa8e0, ["aCOMBINING DEVANAGARI DIGIT ZEROzcONEzcTWOzdHREEzcFOURzdIVEzcSIXzdEVENzcEIGHT",
      "zcNINEvLETTER AzdUzdKAzdNAzdPAzdRAzdVIvSIGN AVAGRAHAaDEVANAGARI SIGN SPACING CANDRABINDU",
      "qCANDRABINDU VIRAMAq.sDOUBLE qCANDRABINDU TWOzeHREEzdAVAGRAHAqPUSHPIKAlGAP FILLERlCARET",
      "lHEADSTROKElSIGN SIDDHAMlJAIN OMlLETTER AYl.dVOWEL SIGNaKAYAH LI DIGIT ZEROpONEpTWOqHREE",
      "pFOURqIVEpSIXqEVENpEIGHTpNINEjLETTER KArHAqGAqNGAqSArHAqZAqNYAqTAqHTAqNAqPArHAqMAqDAqBA",
      "qRAqYAqLAqWAqTHAqHAqVAqCAqAqOEqIqOOjVOWEL UEpEpUpEEpOjTONE PLOPHUoCALYAt PLOPHUjSIGN CWI",
      "oSHYAaREJANG LETTER KAoGAoNGAoTAoDAoNAoPAoBAoMAoCAoJAoNYAoSAoRAoLAoYAoWAoHAoMBAoNGGApDA",
      "pYJAoAhVOWEL SIGN IsUsEsAIsOsAUsEUtAhCONSONANT SIGN NGwNwRwHhVIRAMA"]),
    (0xa95f, ["hSECTION MARKaHANGUL CHOSEONG TIKEUT-MIEUMxPIEUPxSIOSxCIEUCqRIEUL-KIYEOKw.gSSANG",
      "wTIKEUTw.gSSANGwMIEUMwPIEUPw.fSSANGw.fKAPYEOUNwSIOSwCIEUCwKHIEUKHqMIEUM-KIYEOKwTIKEUT",
      "wSIOSqPIEUP-SIOS-THIEUTHwKHIEUKHwHIEUHqSSANGSIOS-PIEUPqIEUNG-RIEULwHIEUHq.gSSANGCIEUC",
      "vTHIEUTHqPHIEUPH-HIEUHqHIEUH-SIOSqSSANGYEORINHIEUH"]),
    (0xa980, ["aJAVANESE SIGN PANYANGGAoCECAKoLAYARoWIGNYANjLETTER AqI KAWIqIrIqUqPA CEREK",
      "qNGA LELETz RASWADIqEqAIqOqKAs SASAKtMURDAqGAs MURDAqNGAqCAs MURDAqJAqNYA MURDA",
      "qJA MAHAPRANAqNYAqTTAt MAHAPRANAqDDAt MAHAPRANAqNA MURDAqTAs MURDAqDAs MAHAPRANAqNAqPA",
      "s MURDAqBAs MURDAqMAqYAqRAs AGUNGqLAqWAqSA MURDAuAHAPRANArAqHAjSIGN CECAK TELU",
      "jVOWEL SIGN TARUNGvOLONGuWULUy MELIKuSUKUy MENDUTuTALINGuDIRGA MUREuPEPET",
      "jCONSONANT SIGN KERETyPENGKALyCAKRAjPANGKONjLEFT RERENGGANj.lRIGHjPADA ANDAPoMADYAoLUHUR",
      "oWINDUoPANGKAToLINGSApUNGSIoADEGs ADEGoPISELEHj.mTURNED "]),
    (0xa9cf, ["jPANGRANGKEPjDIGIT ZEROpONEpTWOqHREEpFOURqIVEpSIXqEVENpEIGHTpNINE"]),
    (0xa9de, ["jPADA TIRTA TUMETESoISEN-ISENaMYANMAR LETTER SHAN GHAuCHAuJHAuNNAuBHA",
      "iSIGN SHAN SAWiMODIFIER LETTER SHAN REDUPLICATIONiLETTER TAI LAING NYAzFAzGAzbHAzJAzbHA",
      "zDDAzcHAzNNAiTAI LAING DIGIT ZEROyONEyTWOzHREEyFOURzIVEySIXzEVENyEIGHTyNINE",
      "iLETTER TAI LAING LLAzDAzbHAzBAzbHA"]),
    (0xaa00, ["aCHAM LETTER AmImUmEmAImOmKAnHAmGAnHAmNGUEoAmCHAoHAmJAnHAmNHUEoAoJAmTAnHAmDAnHA",
      "mNUEnAmDDAmPAnPAnHAmBAnHAmMUEnAmBBAmYAmRAmLAmVAmSSAnAmHAfVOWEL SIGN AAqIrIqEIqUqOEqOqAIrU",
      "qUEfCONSONANT SIGN YAuRAuLAuWA"]),
    (0xaa40, ["fLETTER FINAL KsGsNGf.jCONSONANT SIGNfLETTER FINAL CHsTsNsPsYsRsLsSS",
      "fCONSONANT SIGN FINAL MzbH"]),
    (0xaa50, ["fDIGIT ZEROlONElTWOmHREElFOURmIVElSIXmEVENlEIGHTlNINE"]),
    (0xaa5c, ["fPUNCTUATION SPIRALrDANDAs.eOUBLE Dr.iTRIPaMYANMAR LETTER KHAMTI GAwCAxHAwJAxHA",
      "wNYAwTTAyHAwDDAyHAxHAwNAwSAwHAxHAwFAiMODIFIER LETTER KHAMTI REDUPLICATION",
      "iLETTER KHAMTI XAwZAwRAjOGOGRAM KHAMTI OAYyQNyHMiSYMBOL AITON EXCLAMATIONvONEvTWO",
      "iLETTER AITON RAiSIGN PAO KAREN TONEnTAI LAING TONE-2zd5iLETTER SHWE PALAUNG CHAzdSHA",
      "aTAI VIET LETTER LOW KOq.dHIGHqLOW KHOq.eHIGHqLOW KHHOq.fHIGHqLOW GOq.dHIGHqLOW NGO",
      "q.eHIGHqLOW COq.dHIGHqLOW CHOq.eHIGHqLOW SOq.dHIGHqLOW NYOq.eHIGHqLOW DOq.dHIGHqLOW TO",
      "q.dHIGHqLOW THOq.eHIGHqLOW NOq.dHIGHqLOW BOq.dHIGHqLOW POq.dHIGHqLOW PHOq.eHIGHqLOW FO",
      "q.dHIGHqLOW MOq.dHIGHqLOW YOq.dHIGHqLOW ROq.dHIGHqLOW LOq.dHIGHqLOW VOq.dHIGHqLOW HO",
      "q.dHIGHqLOW OqHIGH OjMAI KANGjVOWEL AApIpUEpUpEpOjMAI KHITjVOWEL IApUEAqApAUEqYqNqM",
      "jTONE MAI EKsNUENGsTHOsSONG"]),
    (0xaadb, ["jSYMBOL KONqNUENGqSAMqHO HOIqKOI KOIaMEETEI MAYEK LETTER EuOuCHAuNYAuTTAwHAuDDA",
      "wHAuNNAuSHAvSAnVOWEL SIGN IIyUUyAAIzUzAUnCHEIKHANnAHANG KHUDAMoNJI",
      "nSYLLABLE REPETITION MARKn.qWORDnVOWEL SIGN VISARGAoIRAMA"]),
    (0xab01, ["aETHIOPIC SYLLABLE TTHUvIvAAvEEvEvO"]), (0xab09, ["sDDHUvIvAAvEEvEvO"]),
    (0xab11, ["tZUuIuAAuEEuEuO"]), (0xab20, ["sCCHHAwUwIwAAwEEwEwO"]),
    (0xab28, ["sBBAuUuIuAAuEEuEuO"]),
    (0xab30, ["aLATIN SMALL LETTER BARRED ALPHAtA REVERSED-SCHWAtBLACKLETTER EuARRED E",
      "tE WITH FLOURISHtLENIS FtSCRIPT G WITH CROSSED-TAILtL WITH INVERTED LAZY S",
      "zbDOUBLE MIDDLE TILDEzbMIDDLE RINGtM WITH CROSSED-TAILt.sNt.sENGtBLACKLETTER O",
      "zh WITH STROKEt.oOPENtINVERTED OEtTURNED OE WITH STROKEzj.gHORIZONTAL zc OPEN-O",
      "zj WITH STROKEtSTIRRUP RgLETTER SMALL CAPITAL R WITH RIGHT LEG",
      "gSMALL LETTER R WITHOUT HANDLEtDOUBLE RtR WITH CROSSED-TAILt.tDOUBLE tSCRIPT R",
      "zc WITH RINGtBASELINE ESHtU WITH SHORT RIGHT LEGv.uBAR uItTURNED UItU WITH LEFT HOOKtCHI",
      "w WITH LOW RIGHT RINGzhLEFT SERIFtX WITH LOW RIGHT RINGzdNG LEFT LEGzo AND LOW RIGHT RING",
      "zpWITH SERIFtY WITH SHORT RIGHT LEGaMODIFIER BREVE WITH INVERTED BREVEjLETTER SMALL HENG",
      "wL WITH INVERTED LAZY SzeMIDDLE TILDEwU WITH LEFT HOOKaLATIN SMALL LETTER SAKHA YAT",
      "tIOTIFIED EtOPEN OEtUOtINVERTED ALPHAaGREEK LETTER SMALL CAPITAL OMEGA",
      "aLATIN SMALL LETTER DZ DIGRAPH WITH RETROFLEX HOOKt.zdTSuURNED R WITH MIDDLE TILDE",
      "aMODIFIER LETTER SMALL TURNED WqLEFT TACKq.gRIGH"]),
    (0xab70, ["aCHEROKEE SMALL LETTER AwEwIwOwUwVwGAwKAwGExIxOxUxVwHAxExIxOxUxVwLAxExIxOxUxVwMA",
      "xExIxOxUwNAwHNAwNAHxExIxOxUxVwQUAyEyIyOyUyVwSAwSxExIxOxUxVwDAwTAwDEwTEwDIwTIwDOxUxVxLA",
      "wTLAyEyIyOyUyVxSAyEyIyOyUyVwWAxExIxOxUxVwYAaMEETEI MAYEK LETTER KOKuSAMuLAIuMITuPAuNA",
      "uCHILuTILuKHOUuNGOUuTHOUuWAIuYANGuHUKuUNuIuPHAMuATIYAuGOKuJHAMuRAIuBAuJILuDILuGHOUu.dD",
      "uBHAMuKOK LONSUMu.hLAIu.hMITu.hPAu.iNu.hTILu.hNGOUu.hInVOWEL SIGN ONAPy.dIy.dAy.dYEy.dSOU",
      "y.dUy.dCHEIyNUNGnCHEIKHEInLUM IYEKn.fAPUN"]),
    (0xabf0, ["nDIGIT ZEROtONEtTWOuHREEtFOURuIVEtSIXuEVENtEIGHTtNINE"]),
    (0xd7b0, ["aHANGUL JUNGSEONG O-YEOtO-IrYO-AvEuEOrU-YEOtI-IrYU-AEuOrEU-AuEOuEuOrI-YA-OvEuEOuE",
      "tO-ItYOuUtIrARAEA-AxE"]),
    (0xd7cb, ["iONGSEONG NIEUN-RIEULxCHIEUCHrSSANGTIKEUTzd-PIEUPr.lTySIOSzd-KIYEOKyCIEUCzHIEUCH",
      "yTHIEUTHrRIEUL-SSANGKIYEOKxKIYEOK-HIEUHrSSANGRIEUL-KHIEUKHrRIEUL-MIEUM-HIEUHxPIEUP-TIKEUT",
      "zePHIEUPHxYESIEUNGzORINHIEUH-HIEUHrKAPYEOUNRIEULrMIEUM-NIEUNx.fSSANGrSSANGMIEUM",
      "rMIEUM-PIEUP-SIOSxCIEUCrPIEUP-TIKEUTxRIEUL-PHIEUPHxMIEUMrSSANGPIEUPrPIEUP-SIOS-TIKEUT",
      "xCIEUCyHIEUCHrSIOS-MIEUMwKAPYEOUNPIEUPsSANGSIOS-KIYEOKzcTIKEUTsIOS-PANSIOSwCIEUCxHIEUCH",
      "wTHIEUTHwHIEUHrPANSIOS-PIEUPz.fKAPYEOUNrYESIEUNG-MIEUMzbHIEUHrCIEUC-PIEUPx.fSSANG",
      "rSSANGCIEUCrPHIEUPH-SIOSzTHIEUTH"]),
    (0xfb00, ["aLATIN SMALL LIGATURE FFwIwLwFIxLvLONG S TvST"]),
    (0xfb13, ["aARMENIAN SMALL LIGATURE MEN NOWzdECHzdINIyVEW NOWyMEN XEH"]),
    (0xfb1d, ["aHEBREW LETTER YOD WITH HIRIQhPOINT JUDEO-SPANISH VARIKA",
      "hLIGATURE YIDDISH YOD YOD PATAHiETTER ALTERNATIVE AYINoWIDE ALEFtDALETtHEtKAFtLAMED",
      "tFINAL MEMtRESHtTAVoALTERNATIVE PLUS SIGNoSHIN WITH SHIN DOTz.fIy.gDAGESH AND SHzl.fI",
      "oALEF WITH PATAHyQAMATSyMAPIQoBET WITH DAGESHo.mGIMELo.mDALEToHE WITH MAPIQ",
      "oVAV WITH DAGESHo.mZAYIN"]),
    (0xfb38, ["o.mTETo.mYODo.mFINAL KAFo.oKo.mLAMED"]), (0xfb3e, ["o.mMEM"]),
    (0xfb40, ["o.mNUNo.mSAMEKH"]), (0xfb43, ["o.mFINAL PEo.nP"]),
    (0xfb46, ["o.mTSADIo.mQOFo.mRESHo.mSHINo.mTAVoVAV WITH HOLAMoBET WITH RAFEo.kKAFo.kPE",
      "iIGATURE ALEF LAMEDaARABIC LETTER ALEF WASLA ISOLATED FORMz.fFINALo.fBEEH ISOLATED",
      "t.fFINALt.hINITIt.iMEDo.fPEH ISOLATEDs.fFINALs.hINITIs.iMEDo.fBEHEH ISOLATEDu.fFINAL",
      "u.hINITIu.iMEDo.fTTEHEH ISOLATEDv.fFINALv.hINITIv.iMEDp.fEHEH ISOLATEDu.fFINALu.hINITI",
      "u.iMEDp.fTEH ISOLATEDt.fFINALt.hINITIt.iMEDo.fVEH ISOLATEDs.fFINALs.hINITIs.iMED",
      "o.fPEHEH ISOLATEDu.fFINALu.hINITIu.iMEDo.fDYEH ISOLATEDt.fFINALt.hINITIt.iMED",
      "o.fNYEH ISOLATEDt.fFINALt.hINITIt.iMEDo.fTCHEH ISOLATEDu.fFINALu.hINITIu.iMED",
      "t.fEH ISOLATEDw.fFINALw.hINITIw.iMEDo.fDDAHAL ISOLATEDv.fFINALp.fAHAL ISOLATEDu.fFINAL",
      "p.fUL ISOLATEDs.fFINALp.fDAL ISOLATEDt.fFINALo.fJEH ISOLATEDs.fFINALo.fRREH ISOLATED",
      "t.fFINALo.fKEHEH ISOLATEDu.fFINALu.hINITIu.iMEDo.fGAF ISOLATEDs.fFINALs.hINITIs.iMED",
      "p.fUEH ISOLATEDt.fFINALt.hINITIt.iMEDo.fNGOEH ISOLATEDu.fFINALu.hINITIu.iMED",
      "p.fOON GHUNNA ISOLATEDzb.fFINALo.fRNOON ISOLATEDu.fFINALu.hINITIu.iMED",
      "o.fHEH WITH YEH ABOVE ISOLATEDzi.fFINALs.fGOAL ISOLATEDx.fFINALx.hINITIx.iMED",
      "s.fDOACHASHMEE ISOLATEDzf.fFINALzf.hINITIzf.iMEDo.fYEH BARREE ISOLATEDz.fFINAL",
      "z.fWITH HAMZA ABOVE ISOLATEDzr.fFINALhSYMBOL DOT ABOVEsBELOWoTWO DOTS ABOVExBELOW",
      "pHREE DOTS ABOVEzBELOWzPOINTING DOWNWARDS ABOVEztBELOWoFOUR DOTS ABOVEyBELOW",
      "o.gDOUBLE VERTICAL BARoTWO DOTS VERTICALLY ABOVEzjBELOWoRINGoSMALL TAH ABOVEyBELOW",
      "oWASLA ABOVE"]),
    (0xfbd3, ["hLETTER NG ISOLATED FORMr.fFINALr.hINITIr.iMEDo.fU ISOLATEDq.fFINALo.fOE ISOLATED",
      "r.fFINALo.fYU ISOLATEDr.fFINALo.fU WITH HAMZA ABOVE ISOLATEDo.pVr.fFINAL",
      "o.fKIRGHIZ OE ISOLATEDz.fFINALw.fYU ISOLATEDz.fFINALo.fE ISOLATEDq.fFINALq.hINITIq.iMED",
      "o.iUIGHUR KAZAKH KIRGHIZ ALEF MAKSURA INITzy.iMED",
      "i.fIGATURE YEH WITH HAMZA ABOVE WITH ALEF ISOLATEDzw.fFINALzs.fE ISOLATEDzu.fFINAL",
      "zr.fWAW ISOLATEDzv.fFINALzr.fU ISOLATEDzt.fFINALzr.fOE ISOLATEDzu.fFINALzr.fYU ISOLATED",
      "zu.fFINALzr.fE ISOLATEDzt.fFINALzt.hINITI",
      "q.fUIGHUR KIRGHIZ YEH WITH HAMZA ABOVE WITH ALEF MAKSURA ISOLATEDzzu.fFINALzzu.hINITI",
      "i.fETTER FARSI YEH ISOLATEDy.fFINALy.hINITIy.iMED",
      "i.fIGATURE YEH WITH HAMZA ABOVE WITH JEEM ISOLATEDzr.oHAHzr.oMEEMzr.oALEF MAKSURAzr.oYEH",
      "q.oBEH WITH JEEMz.oHAHz.rKz.oMEEMz.oALEF MAKSURAz.oYEHq.oTEH WITH JEEMz.oHAHz.rKz.oMEEM",
      "z.oALEF MAKSURAz.oYEHr.oHEH WITH JEEMzb.rMzb.oALEF MAKSURAzb.oYEHq.pJEEM WITH HAzb.oMEEM",
      "q.rHAH WITH Jz.rMq.rKHAH WITH Jzb.oHAHzb.oMEEMq.rSEEN WITH Jzb.oHAHzb.rKzb.oMEEM",
      "r.oAD WITH HAHz.oMEEMq.rDAD WITH Jz.oHAHz.rKz.oMEEMq.oTAH WITH HAHz.oMEEMq.zbZ",
      "q.rAIN WITH Jz.rMq.rGHAIN WITH Jzc.rMq.rFEH WITH Jz.oHAHz.rKz.oMEEMz.oALEF MAKSURAz.oYEH",
      "q.pQAF WITH HAz.oMEEMz.oALEF MAKSURAz.oYEHq.oKAF WITH ALEFz.oJEEMz.oHAHz.rKz.oLAMz.pMEE",
      "z.oALEF MAKSURAz.oYEHq.oLAM WITH JEEMz.oHAHz.rKz.oMEEMz.oALEF MAKSURAz.oYEH",
      "q.oMEEM WITH JEEMzb.oHAHzb.rKzb.oMEEMzb.oALEF MAKSURAzb.oYEHq.oNOON WITH JEEMzb.oHAHzb.rK",
      "zb.oMEEMzb.oALEF MAKSURAzb.oYEHq.oHEH WITH JEEMz.rMz.oALEF MAKSURAz.oYEHq.oYEH WITH JEEM",
      "z.oHAHz.rKz.oMEEMz.oALEF MAKSURAz.oYEHq.oTHAL WITH SUPERSCRIPT ALEFq.zlREH",
      "q.zlALEF MAKSURAq.oSHADDA WITH DAMMATANzd.sKASRzd.oFATHAzd.pDAMMzd.pKASR",
      "zd.oSUPERSCRIPT ALEFq.fYEH WITH HAMZA ABOVE WITH REH FINALzr.lZAINzr.lMEEMzr.lNOON",
      "zr.lALEF MAKSURAzr.lYEHq.nBEH WITH Rz.lZAINz.lMEEMz.lNOONz.lALEF MAKSURAz.lYEH",
      "q.nTEH WITH Rz.lZAINz.lMEEMz.lNOONz.lALEF MAKSURAz.lYEHr.nHEH WITH Rzb.lZAINzb.lMEEM",
      "zb.lNOONzb.lALEF MAKSURAzb.lYEHq.lFEH WITH ALEF MAKSURAz.lYEHq.lQAF WITH ALEF MAKSURA",
      "z.lYEHq.lKAF WITH ALEFz.lLAMz.mMEEz.lALEF MAKSURAz.lYEHq.lLAM WITH MEEMz.lALEF MAKSURA",
      "z.lYEHq.lMEEM WITH ALEFzb.lMEEMq.lNOON WITH REHzb.lZAINzb.lMEEMzb.lNOONzb.lALEF MAKSURA",
      "zb.lYEHq.lALEF MAKSURA WITH SUPERSCRIPT ALEFq.lYEH WITH REHz.lZAINz.lMEEMz.lNOON",
      "z.lALEF MAKSURAz.lYEHz.hHAMZA ABOVE WITH JEEM INITIzr.nHAHzr.qKzr.nMEEMzr.nHEH",
      "q.nBEH WITH JEEMz.nHAHz.qKz.nMEEMz.nHEHq.nTEH WITH JEEMz.nHAHz.qKz.nMEEMz.nHEH",
      "r.nHEH WITH MEEMq.nJEEM WITH HAHzb.nMEEMq.qHAH WITH Jz.qMq.qKHAH WITH Jzb.qM",
      "q.qSEEN WITH Jzb.nHAHzb.qKzb.nMEEMr.nAD WITH HAHz.qKz.nMEEMq.qDAD WITH Jz.nHAHz.qKz.nMEEM",
      "q.nTAH WITH HAHq.nZAH WITH MEEMq.qAIN WITH Jz.qMq.qGHAIN WITH Jzc.qMq.qFEH WITH Jz.nHAH",
      "z.qKz.nMEEMq.nQAF WITH HAHz.nMEEMq.qKAF WITH Jz.nHAHz.qKz.nLAMz.oMEEq.qLAM WITH Jz.nHAH",
      "z.qKz.nMEEMz.nHEHq.nMEEM WITH JEEMzb.nHAHzb.qKzb.nMEEMq.qNOON WITH Jzb.nHAHzb.qKzb.nMEEM",
      "zb.nHEHq.nHEH WITH JEEMz.qMz.nSUPERSCRIPT ALEFq.nYEH WITH JEEMz.nHAHz.qKz.nMEEMz.nHEH",
      "zb.iAMZA ABOVE WITH MEEM MEDzr.mHEHq.mBEH WITH MEEMz.mHEHq.mTEH WITH MEEMz.mHEH",
      "r.mHEH WITH MEEMzb.mHEHq.mSEEN WITH MEEMzb.mHEHr.mHEEN WITH MEEMzc.mHEHq.mKAF WITH LAM",
      "z.nMEEq.wLAMq.wNOONzb.mHEHq.mYEH WITH MEEMz.mHEHq.mSHADDA WITH FATHAzd.nDAMMzd.nKASR",
      "q.fTAH WITH ALEF MAKSURA ISOLATEDz.oYEHq.oAIN WITH ALEF MAKSURAz.oYEH",
      "q.oGHAIN WITH ALEF MAKSURAzc.oYEHq.oSEEN WITH ALEF MAKSURAzb.oYEH",
      "r.oHEEN WITH ALEF MAKSURAzc.oYEHq.oHAH WITH ALEF MAKSURAz.oYEHq.oJEEM WITH ALEF MAKSURA",
      "zb.oYEHq.oKHAH WITH ALEF MAKSURAzb.oYEHq.oSAD WITH ALEF MAKSURAz.oYEH",
      "q.oDAD WITH ALEF MAKSURAz.oYEHq.oSHEEN WITH JEEMzc.oHAHzc.rKzc.oMEEMzc.oREHr.zEr.xADq.zD",
      "q.fTAH WITH ALEF MAKSURA FINALz.lYEHq.lAIN WITH ALEF MAKSURAz.lYEH",
      "q.lGHAIN WITH ALEF MAKSURAzc.lYEHq.lSEEN WITH ALEF MAKSURAzb.lYEH",
      "r.lHEEN WITH ALEF MAKSURAzc.lYEHq.lHAH WITH ALEF MAKSURAz.lYEHq.lJEEM WITH ALEF MAKSURA",
      "zb.lYEHq.lKHAH WITH ALEF MAKSURAzb.lYEHq.lSAD WITH ALEF MAKSURAz.lYEH",
      "q.lDAD WITH ALEF MAKSURAz.lYEHq.lSHEEN WITH JEEMzc.lHAHzc.oKzc.lMEEMzc.lREHr.wEr.uADq.wD",
      "q.hSHEEN WITH JEEM INITIzc.nHAHzc.qKzc.nMEEMr.nEEN WITH HEHr.zHq.nTAH WITH MEEM",
      "q.iSEEN WITH JEEM MEDzb.mHAHzb.pKr.mHEEN WITH JEEMzc.mHAHzc.pKq.mTAH WITH MEEMq.yZ",
      "q.hALEF WITH FATHATAN FINzk.fISOLATEDaORNATE LEFT PARENTHESISh.nRIGH",
      "aARABIC LIGATURE RAHIMAHU ALLAAHsDI ALLAAHU ANHzhAAzhUMzjAAziNNA",
      "qSALLALLAAHU ALAYHI WA-AALIHqALAYHI AS-SALAAMw.kMx.kAAw.j AS-SALAATU WqQUDDISA SIRRAH",
      "qSALLALLAHU ALAYHI WAAALIHEE WA-SALLAMqALAYHAA AS-SALAAMqTABAARAKA WA-TAAALAA",
      "qRAHIMAHUM ALLAAHqTEH WITH JEEM WITH MEEM INITIAL FORMz.hHAH WITH JEEM FINzo.hINITIzj.qM",
      "z.zbKz.qMEEM WITH Jzk.nHAHzk.qKq.hJEEM WITH MEEM WITH HAH FINzp.hINITI",
      "q.hHAH WITH MEEM WITH YEH FINzk.lALEF MAKSURAq.hSEEN WITH HAH WITH JEEM INITI",
      "zb.nJEEM WITH HAHzl.hALEF MAKSURA FINzb.lMEEM WITH HAHzp.hINITIzl.nJEEMzl.hMEEM FIN",
      "zq.hINITIr.hAD WITH HAH WITH HAH FINzn.hINITIz.hMEEM WITH MEEM FINr.vHEEN WITH HAH",
      "zq.hINITIzc.hJEEM WITH YEH FINzc.mMEEM WITH KHAzr.hINITIzm.hMEEM FINzr.hINITI",
      "q.hDAD WITH HAH WITH ALEF MAKSURA FINz.lKHAH WITH MEEMzp.hINITI",
      "q.hTAH WITH MEEM WITH HAH FINzo.hINITIzk.nMEEMzk.hYEH FINq.lAIN WITH JEEM WITH MEEMz.yM",
      "zp.hINITIzk.hALEF MAKSURA FINq.lGHAIN WITH MEEM WITH MEEMzm.lYEHzm.lALEF MAKSURA",
      "q.lFEH WITH KHAH WITH MEEMzp.hINITIq.hQAF WITH MEEM WITH HAH FINzk.lMEEMq.vLAM WITH HAH",
      "zj.lYEHzj.lALEF MAKSURAz.hJEEM WITH JEEM INITIzp.hFINz.oKHAH WITH Mzp.hINITI",
      "z.hMEEM WITH HAH FINzo.hINITIq.nMEEM WITH HAH WITH JEEMzk.qMzk.hYEH FIN",
      "zb.hJEEM WITH HAH INITIzl.nMEEMzb.qKHAH WITH Jzl.qM"]),
    (0xfd92, ["zb.nJEEM WITH KHAHq.nHEH WITH MEEM WITH JEEMzk.qMq.xNOON WITH HAH",
      "zk.hALEF MAKSURA FINzb.lJEEM WITH MEEMzq.hINITIzl.hALEF MAKSURA FINzb.lMEEM WITH YEH",
      "zl.lALEF MAKSURAq.lYEH WITH MEEM WITH MEEMzp.hINITIq.hBEH WITH KHAH WITH YEH FIN",
      "q.uTEH WITH JEEMzk.lALEF MAKSURAz.lKHAH WITH YEHzk.lALEF MAKSURAz.lMEEM WITH YEH",
      "zk.lALEF MAKSURAq.lJEEM WITH MEEM WITH YEHzb.lHAH WITH ALEF MAKSURAzb.zeMEEM",
      "q.zeSEEN WITH KHAHr.lAD WITH HAH WITH YEHr.zeHEENq.zeDADq.uLAM WITH JEEMz.xM",
      "q.uYEH WITH HAHz.uJEEMz.xMq.zfMEEMq.zfQAFq.uNOON WITH HAHq.hQAF WITH MEEM WITH HAH INITI",
      "q.nLAM WITH HAH WITH MEEMq.hAIN WITH MEEM WITH YEH FINq.zfKAF",
      "q.hNOON WITH JEEM WITH HAH INITIq.hMEEM WITH KHAH WITH YEH FIN",
      "q.hLAM WITH JEEM WITH MEEM INITIq.hKAF WITH MEEM WITH MEEM FINq.yLAM WITH J",
      "q.lNOON WITH JEEM WITH HAHq.mJEEM WITH HAH WITH YEq.uHAH WITH JEEMq.zfMEEMq.xFEH WITH M",
      "q.uBEH WITH HAHq.hKAF WITH MEEM WITH MEEM INITIq.zbAIN WITH Jq.zbSAD WITH M",
      "r.hEEN WITH KHAH WITH YEH FINq.uNOON WITH JEEM"]),
    (0xfdcf, ["qSALAAMUHU ALAYNAA"]),
    (0xfdf0, ["tLA USED AS KORANIC STOP SIGN ISOLATED FORMq.zrQAq.oALLAHr.oKBARq.oMOHAMMAD",
      "q.oSALAMq.oRASOULq.oALAYHEq.oWASALLAMq.oSALLAvLLAHOU ALAYHE WASALLAMqJALLAJALALOUHOU",
      "aRIAL SIGNaARABIC LIGATURE BISMILLAH AR-RAHMAN AR-RAHEEMqSUBHAANAHU WA TAAALAA",
      "qAZZA WA JALLaVARIATION SELECTOR-1t2t3t4t5t6t7t8t9t10u1u2u3u4u5u6",
      "aPRESENTATION FORM FOR VERTICAL COMMAzg.fIDEOGRAPHIC zsFULL STOPzgCOLONzg.fSEMI",
      "zgEXCLAMATION MARKzg.jQUESzgLEFT WHITE LENTICULAR BRACKETzgRIGHT WHITE LENTICULAR BRAKCET",
      "zgHORIZONTAL ELLIPSIS"]),
    (0xfe20, ["aCOMBINING LIGATURE LEFT HALFt.gRIGHk.gDOUBLE TILDE LEFx.gRIGHk.gMACRON LEF",
      "r.gRIGHkCONJOINING MACRONkLIGATURE LEFT HALF BELOWt.mRIGHk.mTILDE LEFq.mRIGHk.mMACRON LEF",
      "r.mRIGHk.gCONJOINING MACRONlYRILLIC TITLO LEFT HALFz.gRIGH",
      "aPRESENTATION FORM FOR VERTICAL TWO DOT LEADERzgEM DASHzh.fNzgLOW LINEzg.iWAVY ",
      "zgLEFT PARENTHESISzg.nRIGHzgLEFT CURLY BRACKETzg.pRIGHzg.iLEFT TORTOISE SHELLzg.yRIGH",
      "zg.iLEFT BLACK LENTICULARzg.zbRIGHzg.iLEFT DOUBLE ANGLEzg.wRIGHzg.oLEFTzg.pRIGH",
      "zg.iLEFT CORNERzg.qRIGHzg.pLEFT WHITEzg.wRIGHaSESAME DOTa.kWHITE ",
      "aPRESENTATION FORM FOR VERTICAL LEFT SQUARE BRACKETzg.qRIGHaDASHED OVERLINEa.jCENTRELINE",
      "a.jWAVYa.nDOUBLE b.eASHED LOW a.jCENTRELINEa.jWAVYaSMALL COMMAg.fIDEOGRAPHIC gFULL STOP"]),
    (0xfe54, ["gSEMICOLONg.eCgQUESTION MARKg.jEXCLAMAhM DASHgLEFT PARENTHESISg.nRIGH",
      "gLEFT CURLY BRACKETg.pRIGHg.iLEFT TORTOISE SHELLg.yRIGHgNUMBER SIGNgAMPERSANDhSTERISK",
      "gPLUS SIGNgHYPHEN-MINUSgLESS-THAN SIGNg.kGREATERg.fEQUALS"]),
    (0xfe68, ["gREVERSE SOLIDUSgDOLLAR SIGNg.fPERCENTgCOMMERCIAL AT"]),
    (0xfe70, ["aARABIC FATHATAN ISOLATED FORMhTATWEEL WITH FATHATAN ABOVEhDAMMATAN ISOLATED FORM",
      "hTAIL FRAGMENThKASRATAN ISOLATED FORM"]),
    (0xfe76, ["h.oFATHAn.fMEDIALh.fDAMMA ISOLATEDn.fMEDIALh.fKASRA ISOLATEDn.fMEDIAL",
      "h.fSHADDA ISOLATEDo.fMEDIALi.fUKUN ISOLATEDn.fMEDIALh.fLETTER HAMZA ISOLATED",
      "o.oALEF WITH MADDA ABOVEzl.fFINALy.fHAMZA ABOVE ISOLATEDzl.fFINAL",
      "o.fWAW WITH HAMZA ABOVE ISOLATEDzk.fFINALo.fALEF WITH HAMZA BELOW ISOLATEDzl.fFINAL",
      "o.fYEH WITH HAMZA ABOVE ISOLATEDzk.fFINALzk.hINITIzk.iMEDo.fALEF ISOLATEDt.fFINAL",
      "o.fBEH ISOLATEDs.fFINALs.hINITIs.iMEDo.fTEH MARBUTA ISOLATEDzb.fFINALs.fISOLATEDs.fFINAL",
      "s.hINITIs.iMEDp.fHEH ISOLATEDt.fFINALt.hINITIt.iMEDo.fJEEM ISOLATEDt.fFINALt.hINITIt.iMED",
      "o.fHAH ISOLATEDs.fFINALs.hINITIs.iMEDo.fKHAH ISOLATEDt.fFINALt.hINITIt.iMED",
      "o.fDAL ISOLATEDs.fFINALo.fTHAL ISOLATEDt.fFINALo.fREH ISOLATEDs.fFINALo.fZAIN ISOLATED",
      "t.fFINALo.fSEEN ISOLATEDt.fFINALt.hINITIt.iMEDp.fHEEN ISOLATEDu.fFINALu.hINITIu.iMED",
      "p.fAD ISOLATEDs.fFINALs.hINITIs.iMEDo.fDAD ISOLATEDs.fFINALs.hINITIs.iMEDo.fTAH ISOLATED",
      "s.fFINALs.hINITIs.iMEDo.fZAH ISOLATEDs.fFINALs.hINITIs.iMEDo.fAIN ISOLATEDs.fFINAL",
      "s.hINITIs.iMEDo.fGHAIN ISOLATEDu.fFINALu.hINITIu.iMEDo.fFEH ISOLATEDs.fFINALs.hINITI",
      "s.iMEDo.fQAF ISOLATEDs.fFINALs.hINITIs.iMEDo.fKAF ISOLATEDs.fFINALs.hINITIs.iMED",
      "o.fLAM ISOLATEDs.fFINALs.hINITIs.iMEDo.fMEEM ISOLATEDt.fFINALt.hINITIt.iMED",
      "o.fNOON ISOLATEDt.fFINALt.hINITIt.iMEDo.fHEH ISOLATEDs.fFINALs.hINITIs.iMED",
      "o.fWAW ISOLATEDs.fFINALo.fALEF MAKSURA ISOLATEDzc.fFINALo.fYEH ISOLATEDs.fFINALs.hINITI",
      "s.iMEDi.fIGATURE LAM WITH ALEF WITH MADDA ABOVE ISOLATEDzw.fFINALzk.fHAMZA ABOVE ISOLATED",
      "zw.fFINALzq.fBELOW ISOLATEDzw.fFINALzf.fISOLATEDzf.fFINAL"]),
    (0xfeff, ["aZERO WIDTH NO-BREAK SPACE"]),
    (0xff01, ["aFULLWIDTH EXCLAMATION MARKk.kQUOTkNUMBER SIGNk.gDOLLAk.fPERCENTkAMPERSAND",
      "lPOSTROPHEkLEFT PARENTHESISk.nRIGHkASTERISKkPLUS SIGNkCOMMAkHYPHEN-MINUSkFULL STOP",
      "kSOLIDUSkDIGIT ZEROqONEqTWOrHREEqFOURrIVEqSIXrEVENqEIGHTqNINEkCOLONk.fSEMIkLESS-THAN SIGN",
      "k.fEQUALSk.fGREATER-THANkQUESTION MARKkCOMMERCIAL ATkLATIN CAPITAL LETTER AzgBzgCzgDzgE",
      "zgFzgGzgHzgIzgJzgKzgLzgMzgNzgOzgPzgQzgRzgSzgTzgUzgVzgWzgXzgYzgZlEFT SQUARE BRACKET",
      "kREVERSE SOLIDUSlIGHT SQUARE BRACKETkCIRCUMFLEX ACCENTkLOW LINEkGRAVE ACCENT",
      "kLATIN SMALL LETTER AzeBzeCzeDzeEzeFzeGzeHzeIzeJzeKzeLzeMzeNzeOzePzeQzeRzeSzeTzeUzeVzeW",
      "zeXzeYzeZlEFT CURLY BRACKETkVERTICAL LINEkRIGHT CURLY BRACKETkTILDE",
      "kLEFT WHITE PARENTHESISk.tRIGHaHALFWIDTH IDEOGRAPHIC FULL STOPkLEFT CORNER BRACKETk.qRIGH",
      "kIDEOGRAPHIC COMMAkKATAKANA MIDDLE DOTtLETTER WOzbSMALL AzhIzhUzhEzhOzhYAziUziOzhTU",
      "s-HIRAGANA PROLONGED SOUND MARKs LETTER AzbIzbUzbEzbOzbKAzcIzcUzcEzcOzbSAzcIzcUzcEzcOzbTA",
      "zcIzcUzcEzcOzbNAzcIzcUzcEzcOzbHAzcIzcUzcEzcOzbMAzcIzcUzcEzcOzbYAzcUzcOzbRAzcIzcUzcEzcO",
      "zbWAzbNtVOICED SOUND MARKt.rSEMI-kHANGUL FILLERrLETTER KIYEOKy.gSSANGyKIYEOK-SIOSyNIEUN",
      "ze-CIEUCzfHIEUHyTIKEUTy.gSSANGyRIEULze-KIYEOKzfMIEUMzfPIEUPzfSIOSzfTHIEUTHzfPHIEUPH",
      "zfHIEUHyMIEUMyPIEUPy.fSSANGyPIEUP-SIOSy.dSz.dSANGSyIEUNGyCIEUCy.fSSANGyCHIEUCHyKHIEUKH",
      "yTHIEUTHyPHIEUPHyHIEUH"]),
    (0xffc2, ["yAzEyYAzbEyEOyE"]), (0xffca, ["yYEOzEyOyWAzbEyOE"]), (0xffd2, ["yYOyUyWEOzEzIyYU"]),
    (0xffda, ["yEUyYIyI"]),
    (0xffe0, ["aFULLWIDTH CENT SIGNk.fPOUNDk.fNOTkMACRONkBROKEN BARkYEN SIGNk.gWO"]),
    (0xffe8, ["aHALFWIDTH FORMS LIGHT VERTICALkLEFTWARDS ARROWk.lUPk.lRIGHTk.lDOWNkBLACK SQUARE",
      "kWHITE CIRCLE"]),
    (0xfff9, ["aINTERLINEAR ANNOTATION ANCHORxSEPARATORx.eTERMINaOBJECT REPLACEMENT CHARACTER",
      "a.uR"])]

/-- Names from U+10000 on. -/
def namesFrom10000 : List (Nat × List String) := [
    (0x10000, ["aLINEAR B SYLLABLE B008 Au38 Eu28 Iu61 Ou10 Uu01 DAu45 DEu07 DIu14 DOu51 DUv7 JA",
      "u46 JE"]),
    (0x1000d, ["u36 JOu65 JUu77 KAu44 KEu67 KIu70 KOu81 KUv0 MAu13 MEu73 MIu15 MOu23 MUu06 NA",
      "u24 NEu30 NIu52 NOv5 NUu03 PAu72 PEu39 PIu11 POu50 PUu16 QAu78 QEu21 QIu32 QO"]),
    (0x10028, ["u60 RAu27 REu53 RIu02 ROu26 RUu31 SAu09 SEu41 SIu12 SOu58 SUv9 TAu04 TEu37 TI",
      "u05 TOu69 TUu54 WAu75 WEu40 WIv2 WO"]),
    (0x1003c, ["u17 ZAu74 ZE"]),
    (0x1003f, ["u20 ZOv5 A2u43 A3u85 AUu71 DWEu90 DWOu48 NWAu29 PU2u62 PTEu76 RA2u33 RA3u68 RO2",
      "v6 TA2u87 TWEu91 TWO"]),
    (0x10050, ["lMBOL B018t9s22s34s47t9s56s63t4s79s82t3t6t9"]),
    (0x10080, ["jIDEOGRAM B100 MANv.d2 WOv4 DEERv5 EQUIDwF MAREwM STALLIONv6F EWEwM RAM",
      "v7F SHE-GOATw.hM v8F SOWwM BOARv9F COWwM BULLu20 WHEATv1 BARLEYv2 OLIVEv3 SPICEv5 CYPERUS",
      "jMONOGRAM B127 KAPOv8 KANAKOjIDEOGRAM B130 OILv1 WINEv2jMONOGRAM B133 AREPAv5 MERI",
      "jIDEOGRAM B140 BRONZEv1 GOLDv2v5 WOOLv6u50v1 HORNv2v3v4jMONOGRAM B156 TURO2jIDEOGRAM B157",
      "v8v9 CLOTHu60v1v2 GARMENTv3 ARMOURv4v5v6v7v8v9u70v1v2v3 MONTHv4v6 TREEv7v8v9u80v1v2v3v4v5",
      "v9u90v1 HELMETt220 FOOTSTOOLv5 BATHTUBu30 SPEARv1 ARROWv2v3 SWORDv4v6u40 WHEELED CHARIOT",
      "v.i1v2 CHARIOT FRAMEv3 WHEELv5v6jMONOGRAM B247 DIPTEjIDEOGRAM B248v9u51v2v3v4 DARTv5v6v7",
      "v8v9sVESSEL B155zb200zd1zd2zd3zd4zd5zd6zd7zd8zd9zc10zd1zd2zd3zd4zd5zd6zd7zd8zd9zc21zd2zd6",
      "zd7zd8zd9zc50zb305"]),
    (0x10100, ["aAEGEAN WORD SEPARATOR LINEwDOThCHECK MARK"]),
    (0x10107, ["hNUMBER ONEoTWOpHREEoFOURpIVEoSIXpEVENoEIGHToNINEoTENpWENTYpHIRTYo.dFOpIFTY",
      "oSIXTYpEVENTYoEIGHTYoNINETYoONE HUNDREDo.iTWOp.iHREEo.iFOURp.iIVEo.iSIXp.iEVENo.iEIGHT",
      "o.iNINEoONE THOUSANDo.jTWOp.jHREEo.jFOURp.jIVEo.jSIXp.jEVENo.jEIGHTo.jNINEo.jTENp.jWENTY",
      "p.lHIRo.mFOp.lIFo.lSIXp.lEVENo.lEIGHo.lNINE"]),
    (0x10137, ["hWEIGHT BASE UNITo.eFIRST SUBo.iSECONDo.jTHIRo.iFOURTHh.iDRY MEASURE FIRST",
      "h.wLIQUIDh.iMEASURE SECONDp.jTHIRaGREEK ACROPHONIC ATTIC ONE QUARTERzcHALFzcDRACHMAxFIVE",
      "zFTYzVE HUNDREDzdTHOUSANDz.jFTYzVE TALENTSx.iTENx.iFIFTYx.iONE HUNDREDx.rFIV",
      "x.jONE THOUSANx.sFIVzdSTATERSx.iTENx.iFIFTYx.iONE HUNDREDx.rFIVx.jONE THOUSANx.rTEN",
      "x.rFIFTYxTEN MNASrHERAEUM ONE PLETHRONrTHESPIAN ONEr.hHERMIONrEPIDAUREAN TWOr.gTHESPI",
      "rCYRENAIC TWO DRACHMASr.nEPIDAUREANrTROEZENIAN FIVEzdTENzg ALTERNATE FORMrHERMIONIAN TEN",
      "r.iMESSEr.hTHESPzcHIRTYsROEZENIAN FIFTYzi ALTERNATE FORMrHERMIONIAN FIFTYr.jTHESP",
      "zbONE HUNDREDzb.jTHREr.jEPIDAUREAN FIVr.pTROEZENIs.qHESPr.qCARYSTr.qNAX",
      "rTHESPIAN ONE THOUSANDzb.kFIVrDELPHIC FIVE MNASr.fSTRATIAN FIFTYgONE HALF SIGN",
      "t ALTERNATE FORMgTWO THIRDS SIGNh.gHREE QUARTERg.fYEARg.fTALENTg.fDRACHMAg.fOBOL",
      "g.fTWO OBOLSh.lHREEg.lFOURh.lIVEg.gMETRETEg.fKYATHOS BASEg.fLITRAg.gOUNKIg.fXESTES",
      "g.fARTABEi.fOURAg.gGRAMMg.fTRYBLION BASEg.fZEROg.fONE QUARTERg.fSINUSOIDg.fINDICTION",
      "a.fNOMISMA"]),
    (0x10190, ["a.fROMAN SEXTANSg.fUNCIAg.kSEMi.gXTULg.mDIMIDIA g.gSILIQUg.fDENARIUSg.lQUI",
      "g.iSESTERTg.iDUPONDg.gAg.fCENTURIALaASCIA SYMBOL"]),
    (0x101a0, ["aGREEK SYMBOL TAU RHO"]),
    (0x101d0, ["aPHAISTOS DISC SIGN PEDESTRIANuLUMED HEADt.hTATTOOtCAPTIVEuHILDtWOMANtHELMET",
      "tGAUNTLETtTIARAtARROWtBOWtSHIELDtCLUBtMANACLESvTTOCKtSAWtLIDtBOOMERANGtCARPENTRY PLANE",
      "tDOLIUMtCOMBtSLINGtCOLUMNtBEEHIVEtSHIPtHORNuIDEtBULLS LEGtCATtRAMtEAGLEtDOVEtTUNNYtBEE",
      "tPLANE TREEtVINEtPAPYRUStROSETTEtLILYtOX BACKtFLUTEtGRATERtSTRAINERuMALL AXEtWAVY BAND",
      "tCOMBINING OBLIQUE STROKE"]),
    (0x10280, ["aLYCIAN LETTER AoEoBpHoGoDoIoWoZoTHoJoKoQoLoMoNoMMoNNoUoPoKKoRoSoTpToANoENoHoX"]),
    (0x102a0, ["aCARIAN LETTER AoP2oDoLoUUUoRoLDoA2oQoBoMoOoD2oToSHq2oSoC-18oUoNNoXoNoTT2oPoSSoI",
      "oEoUUUUoKp2oNDoUUoGp2oSTq2oNGoIIoC-39oTToUUU2oRRoMBq2q3q4oLD2oE2oUUU3"]),
    (0x102e0, ["bOPTIC EPACT THOUSANDS MARKnDIGIT ONEtTWOuHREEtFOURuIVEtSIXuEVENtEIGHTtNINE",
      "nNUMBER TENvWENTYvHIRTYu.dFOvIFTYuSIXTYvEVENTYuEIGHTYuNINETYuONE HUNDREDu.iTWOv.iHREE",
      "u.iFOURv.iIVEu.iSIXv.iEVENu.iEIGHTu.iNINE"]),
    (0x10300, ["aOLD ITALIC LETTER AsBEsKEsDEsEsVEsZEsHEsTHEsIsKAsELtMtNtSHsOsPEsSHEsKUsERtSsTE",
      "sUsEKSsPHEsKHEsEFtRSsCHEsIIsUUsESSlNUMERAL ONEtFIVEtTENtFIFTY"]),
    (0x1032d, ["lLETTER YEsNORTHERN TSEs.jSOUaGOTHIC LETTER AHSAoBAIRKANoGIBAoDAGSoAIHVUS",
      "oQAIRTHRAoIUJAoHAGLoTHIUTHoEISoKUSMAoLAGUSoMANNAoNAUTHSoJERoURUSoPAIRTHRAoNINETYoRAIDA",
      "oSAUILoTEIWSoWINJAoFAIHUoIGGWSoHWAIRoOTHALoNINE HUNDRED"]),
    (0x10350, ["aOLD PERMIC LETTER ANsBURsGAIsDOIsEsZHOIs.eDsZATAsDZITAsIsKOKEsLEIsMENOEs.eN",
      "sVOOIsPEEIsREIsSIIsTAIsUsCHERYsSHOOIu.dCHsYRYtERUsOtOsEFsHAsTSIUsVERsYERvItATsIEsYUtAsIA",
      "aCOMBINING OLD PERMIC LETTER ANzdDOIzdZATAzdNENOEzdSII"]),
    (0x10380, ["aUGARITIC LETTER ALPAqBETAqGAMLAqKHAqDELTAqHOqWOqZETAqHOTAqTETqYODqKAFqSHIN",
      "qLAMDAqMEMqDHALqNUNqZUqSAMKAqAINqPUqSADEqQOPAqRASHAqTHANNAqGHAINqTOqIqUqSSU"]),
    (0x1039f, ["jWORD DIVIDERaOLD PERSIAN SIGN ArIrUrKAsUrGAsUrXArCArJAsIrTAsUrDAsIsUrTHArPArBA",
      "rFArNAsUrMAsIsUrYArVAsIrRAsUrLArSArZArSHAsSArHA"]),
    (0x103c8, ["rAURAMAZDAAzc-2zcHArXSHAAYATHIYArDAHYAAUSHzb-2rBAGAsUUMISHmWORD DIVIDER",
      "mNUMBER ONEtTWOuENuWENTYtHUNDRED"]),
    (0x10400, ["aDESERET CAPITAL LETTER LONG IzdEzdAzeHzdOzeOxSHORT IzeEzeAzfHzeOzfOxAYxOWxWU",
      "xYEExHxPEExBEExTEExDEExCHEExJEExKAYxGAYxEFxVEExETHxTHEExESxZEExESHxZHEExERyLyMyNzGxOIxEW",
      "iSMALL LETTER LONG IzbEzbAzcHzbOzcOvSHORT IzcEzcAzdHzcOzdOvAYvOWvWUvYEEvHvPEEvBEEvTEEvDEE",
      "vCHEEvJEEvKAYvGAYvEFvVEEvETHvTHEEvESvZEEvESHvZHEEvERwLwMwNxGvOIvEWaSHAVIAN LETTER PEEP",
      "pTOTpKICKpFEEpTHIGHpSOqUREpCHURCHpYEApHUNGpBIBpDEADpGAGpVOWpTHEYpZOOpMEASUREpJUDGEpWOE",
      "pHA-HApLOLLpMIMEpIFpEGGpASHqDOpONpWOOLpOUTpAHpROARpNUNpEATpAGEpICEpUPpOAKqOZEqILpAWEqRE",
      "pORpAIRpERRpARRAYpEARpIANpYEWaOSMANYA LETTER ALEFpBApTApJApXApKHApDEELpRApSAqHIINpDHA",
      "pCAYNpGApFApQAAFp.dKpLAANpMIINpNUUNpWAWpHApYApApEpIpOpUpAApEEpOO"]),
    (0x104a0, ["iDIGIT ZEROoONEoTWOpHREEoFOURpIVEoSIXpEVENoEIGHToNINE"]),
    (0x104b0, ["cAGE CAPITAL LETTER AwIxNwHvBRAvCHAv.dEHvEwINvHAwYAvIvKAvEHKAvKYAvLAvMAvNAvOwIN",
      "vPAvEHPAvSAwHAvTAvEHTAvTSAv.dEHvTSHAvDHAvUvWAvKHAvGHAvZAwHA"]),
    (0x104d8, ["gSMALL LETTER AuIvNuHtBRAtCHAt.dEHtEuINtHAuYAtItKAtEHKAtKYAtLAtMAtNAtOuINtPA",
      "tEHPAtSAuHAtTAtEHTAtTSAt.dEHtTSHAtDHAtUtWAtKHAtGHAtZAuHA"]),
    (0x10500, ["aELBASAN LETTER ApBEpCEqHEpDEpNDEpDHEpEIpEpFEpGEqJEpHEpIpJEpKEpLEqLEpMEpNEqAqJE",
      "pOpPEpQEpREqREpSEqHEpTEqHEpUpVEpXEpYpZEqHEpGHErAMMApKHE"]),
    (0x10530, ["aCAUCASIAN ALBANIAN LETTER ALTzbBETzbGIMzbDATzbEBzbZARLzbEYNzbZHILzbTASzbCHA",
      "zbYOWDzbZHAzbIRBzbSHAzbLANzbINYAzbXEYNzbDYANzbCARzbJHOXzbKARzbLYITzbHEYTzbQAYzbAORzbCHOY",
      "zdIzcYAYzbMAQzbQARzbNOWCzbDZYAYzbSHAKzbJAYNzbONzbTYAYzbFAMzbDZAYzbCHATzbPENzbGHEYSzbRAT",
      "zbSEYKzbVEYZzbTIWRzbSHOYzbIWNzbCYAWzcAYNzbYAYDzbPIWRzbKIW"]),
    (0x1056f, ["tCITATION MARKaVITHKUQI CAPITAL LETTER AyBBEzEyCEzHEyDEzHEyEIyEyFEyGA"]),
    (0x1057c, ["yHAzHAyIzJEyJEyKAyLAzLAyMEyNEzJEyOyPEyQAyRE"]), (0x1058c, ["ySEzHEyTEzHEyUyVEyXE"]),
    (0x10594, ["yYyZE"]), (0x10597, ["jSMALL LETTER AwBBExEwCExHEwDExHEwEIwEwFEwGA"]),
    (0x105a3, ["wHAxHAwIxJEwJEwKAwLAxLAwMEwNExJEwOwPEwQAwRE"]), (0x105b3, ["wSExHEwTExHEwUwVEwXE"]),
    (0x105bb, ["wYwZE"]),
    (0x10600, ["aLINEAR A SIGN AB001s2s3s4s5s6s7s8s9r10s1s3s6s7r20s1tFtMs2tFtMs3tMs4s6s7s8p028B",
      "pB029r30s1s4s7s8s9r40s1s4s5s6s7s8s9r50s1s3s4s5s6s7s8s9r60s1s5s6s7s9r70s3s4s6s7s8s9r80s1s2",
      "s5s6s7p100-102pB118r20p120BpB122s3r31AtBp131CpB164r71r80s8r91p301r2r3r4r5r6r7r8r9AsBsCq10",
      "r1r2r3AsBsCr4r5r6r7r8r9q20r1r2r3r4r5r6r7r8r9q30r1r2r3r4r5r6r7r8r9q40r1r2r3r4r5r6r7r8r9q50",
      "r1r2r3r4r5r6r7r8r9q60r1r2r3r4r5r6r7r8r9q70r1p400-VASr.e1r.e2r.e3r.e4r.e5r.e6r.e7r.e8r.e9",
      "q.e10r.e1r.e2r.e3r.e4r.e5r.e6r.e7r.e8p501r2r3r4r5r6r8r9q10r1r2r3r5r6q20r1r3r4r5r6r7r8r9",
      "q30r1r2r4r5r6r7r8r9q40r1r2r5r7r8r9q50r1r2r3r4r5r6r7r9q63r4r5r6r8r9q70r1r2r3r4r5r6r7r8r9",
      "q80r1r2r3r4r5r6r7r8r9q91r2r4r5r6r8p600r1r2r3r4r6r8r9q10r1r2r3r4r5r6r7r8r9q20r1r2r3r4r6r7",
      "r8r9q34r7r8q40r2r3r4r5r6r8r9q51r2r3r4r5r6r7r8r9q60r1r2r3r4"]),
    (0x10740, ["p701 Ar2 Br3 Dr4 Er5 Fr6 Hr7 Jr8 Kr9 Ls-2 L2t3 L3t4 L4t6 L6q10 Wr1 Xr2 Yr3 OMEGA",
      "r4 ABBr5 BBr7 DDq26 EYYYq32 JE"]),
    (0x10760, ["p800r1r2r3r4r5r6r7"]),
    (0x10780, ["aMODIFIER LETTER SMALL CAPITAL AArUPERSCRIPT TRIANGULAR COLONzd.qHALF rMALL AE",
      "wCAPITAL BwB WITH HOOK"]),
    (0x10787, ["wDZ DIGRAPHzh WITH RETROFLEX HOOKznCURLxEZH DIGRAPHx WITH TAILzeHOOKzi AND TAIL",
      "wREVERSED EwCLOSED REVERSED OPEN EwFENG DIGRAPHwRAMS HORNwCAPITAL GwG WITH HOOK",
      "w.lCAPITAL wH WITH STROKEwCAPITAL HwHENG WITH HOOKw.fDOTLESS J WITH STROKE ANDwLS DIGRAPH",
      "x.iZx WITH BELTw.lCAPITAL w.fL WITH RETROFLEX HOOK ANDxEZHzb WITH RETROFLEX HOOKwTURNED Y",
      "zf WITH BELTwO WITH STROKEwCAPITAL OExLOSED OMEGAwQwTURNED R WITH LONG LEG",
      "zt AND RETROFLEX HOOKwR WITH TAILzeFISHHOOKwCAPITAL RwTC DIGRAPH WITH CURLxS DIGRAPH",
      "zh WITH RETROFLEX HOOKxESH DIGRAPHx WITH RETROFLEX HOOKw.fV WITH RIGHT"]),
    (0x107b2, ["wCAPITAL YqGLOTTAL STOP WITH STROKEq.yREVERSED qBILABIAL CLICKq.iDENTq.iLATER",
      "q.gALVEOLARqRETROFLEX CLICK WITH RETROFLEX HOOKqSMALL S WITH CURL"]),
    (0x10800, ["aCYPRIOT SYLLABLE ArErIrOrUrJA"]), (0x10808, ["sO"]),
    (0x1080a, ["rKAsEsIsOsUrLAsEsIsOsUrMAsEsIsOsUrNAsEsIsOsUrPAsEsIsOsUrRAsEsIsOsUrSAsEsIsOsUrTA",
      "sEsIsOsUrWAsEsIsO"]),
    (0x10837, ["rXAsE"]), (0x1083c, ["rZA"]),
    (0x1083f, ["sOaIMPERIAL ARAMAIC LETTER ALEPHyBETHyGIMELyDALETHyHEyWAWyZAYINyHETHy.dTyYODH",
      "yKAPHyLAMEDHyMEMyNUNySAMEKHyAYINyPEySADHEyQOPHyRESHySHINyTAW"]),
    (0x10857, ["rSECTION SIGNrNUMBER ONEyTWOzHREEzENzWENTYyONE HUNDREDzdTHOUSANDy.jTEN",
      "aPALMYRENE LETTER ALEPHrBETHrGIMELrDALETHrHErWAWrZAYINrHETHr.dTrYODHrKAPHrLAMEDHrMEM",
      "rFINAL NUNrNUNrSAMEKHrAYINrPErSADHErQOPHrRESHrSHINrTAWmFT-POINTING FLEURONk.sRIGH",
      "kNUMBER ONErTWOsHREErFOURsIVErTENsWENTYaNABATAEAN LETTER FINAL ALEPHr.eArFINAL BETHr.dB",
      "rGIMELrDALETHrFINAL HErHErWAWrZAYINrHETHr.dTrFINAL YODHr.dYrFINAL KAPHr.dKrFINAL LAMEDH",
      "r.fLrFINAL MEMrMEMrFINAL NUNrNUNrSAMEKHrAYINrPErSADHErQOPHrRESHrFINAL SHINr.dSrTAW"]),
    (0x108a7, ["kNUMBER ONErTWOsHREErFOURk.lCRUCIFORM kNUMBER FIVErTENsWENTYrONE HUNDRED"]),
    (0x108e0, ["aHATRAN LETTER ALEPHoBETHoGIMELoDALETH-RESHoHEoWAWoZAYNoHETHo.dToYODHoKAPH",
      "oLAMEDHoMEMoNUNoSAMEKHoAYNoPEoSADHEoQOPH"]),
    (0x108f4, ["oSHINoTAW"]),
    (0x108fb, ["hNUMBER ONEoFIVEoTENpWENTYoONE HUNDREDaPHOENICIAN LETTER ALFsBETsGAMLsDELTsHE",
      "sWAUsZAIsHETsTETsYODsKAFsLAMDsMEMsNUNsSEMKsAINsPEsSADEsQOFsROSHsSHINsTAUlNUMBER ONEsTEN",
      "tWENTYsONE HUNDREDsTWOtHREE"]),
    (0x1091f, ["lWORD SEPARATORaLYDIAN LETTER AoBoGoDoEoVoIoYoKoLoMoNoOoRoSSoToUoFoQoSoTToANoEN",
      "oLYoNNoC"]),
    (0x1093f, ["hTRIANGULAR MARK"]),
    (0x10980, ["aMEROITIC HIEROGLYPHIC LETTER AzeEzeIzeOzeYAzeWAzeBAzg-2zePAzeMAzeNAzg-2zfEzg-2",
      "zeRAzg-2zeLAzeKHAzeHHAzeSAzg-2zfEzeKAzeQAzeTAzg-2zfEzg-2zfOzeDAwSYMBOL VIDJzi-2",
      "jCURSIVE LETTER AyEyIyOyYAyWAyBAyPAyMAyNAzEyRAyLAyKHAyHHAySAyARCHAIC SAySEyKAyQAyTAzEzO",
      "yDA"]),
    (0x109bc, ["rFRACTION ELEVEN TWELFTHSzbONE HALFrLOGOGRAM RMTzbIMNrNUMBER ONEyTWOzHREEyFOUR",
      "zIVEySIXzEVENyEIGHTyNINEyTENzWENTYzHIRTYy.dFOzIFTYySIXTYzEVENTY"]),
    (0x109d2, ["yONE HUNDREDy.iTWOz.iHREEy.iFOURz.iIVEy.iSIXz.iEVENy.iEIGHTy.iNINEyONE THOUSAND",
      "y.jTWOz.jHREEy.jFOURz.jIVEy.jSIXz.jEVENy.jEIGHTy.jNINEy.jTENz.jWENTYz.lHIRy.mFOz.lIF",
      "y.lSIXz.lEVENy.lEIGHy.lNINEy.jONE HUNDREDy.rTWOz.rHREEy.rFOURz.rIVEy.rSIXz.rEVENy.rEIGHT",
      "y.rNINErFRACTION ONE TWELFTHzbTWO TWELFTHSzc.jHREEzb.jFOURzc.jIVEzb.jSIXzc.jEVENzb.jEIGHT",
      "zb.jNINEzb.jTENaKHAROSHTHI LETTER AlVOWEL SIGN IwUwVOCALIC R"]),
    (0x10a05, ["wEwO"]),
    (0x10a0c, ["rLENGTH MARKlSIGN DOUBLE RING BELOWqANUSVARAqVISARGAlLETTER KAtHAsGAtHA"]),
    (0x10a15, ["sCAtHAsJA"]),
    (0x10a19, ["sNYAsTTAuHAsDDAuHAsNNAsTAtHAsDAtHAsNAsPAtHAsBAtHAsMAsYAsRAsLAsVAsSHAtSAtAsZAsHA",
      "sKKAsTTTHAvAsVHA"]),
    (0x10a38, ["lSIGN BAR ABOVEqCAUDAqDOT BELOW"]),
    (0x10a3f, ["lVIRAMAlDIGIT ONErTWOsHREErFOURlNUMBER TENtWENTYsONE HUNDREDwTHOUSAND",
      "lFRACTION ONE HALF"]),
    (0x10a50, ["lPUNCTUATION DOTxSMALL CIRCLEx.fCyRESCENT BARxMANGALAMxLOTUSxDANDAy.eOUBLE D",
      "xLINES"]),
    (0x10a60, ["aOLD SOUTH ARABIAN LETTER HEzLAMEDHzHETHzMEMzQOPHzWAWzSHINzRESHzBETHzTAWzSAT",
      "zKAPHzNUNzKHETHzSADHEzcMEKHzFEzALEFzbYNzDHADHEzGIMELzDALETHzGHAYNzTETHzZAYNzDHALETHzYODH",
      "zTHAWzcETHsNUMBER ONEzFIFTYvERIC INDICATOReNORTH ARABIAN LETTER HEHzLAMzHAHzMEEMzQAFzWAW",
      "zES-2zREHzBEHzTEHzES-1zKAFzNOONzKHAHzSADzES-3zFEHzALEFzbINzDADzGEEMzDALzGHAINzTAHzZAIN",
      "zTHALzYEHzTHEHzZAHsNUMBER ONEzTENzbWENTY"]),
    (0x10ac0, ["aMANICHAEAN LETTER ALEPHsBETHt.dHsGIMELt.eHsDALETHsHEsWAWlSIGN UDlLETTER ZAYIN",
      "t.eHs.eJt.eHsHETHs.dTsYODHsKAPHs.dXs.dKHsLAMEDHs.fDHs.gTsMEMsNUNsSAMEKHsAYINt.dAsPEsFE",
      "sSADHEsQOPHs.dXs.dQHsRESHsSHINt.dSsTAWlABBREVIATION MARK ABOVEzeBELOW"]),
    (0x10aeb, ["lNUMBER ONEsFIVEsTENtWENTYsONE HUNDREDlPUNCTUATION STARxFLEURON",
      "xDOUBLE DOT WITHIN DOTz.lTzTxTWO DOTSxLINE FILLER"]),
    (0x10b00, ["aAVESTAN LETTER AqAqOqAOqNqANqErEpEqEpOqOpIqIpUqUpKEpXEqYEqVEpGEqGEqHEpCEpJEpTE",
      "qHEpDEqHEpTTEpPEpFEpBEqHEpNGErYErVEqEqYEqNEpMEpHMEpYYEqEpVEpREpLEpSEpZEpSHEpZHEpSHYEqSHE",
      "pHE"]),
    (0x10b39, ["iABBREVIATION MARKaTINY TWO DOTS OVER ONE DOT PUNCTUATIONa.zjSMALLa.zjLARGE",
      "g.mONE DOT OVER TWO DOTSg.mTWO RINGS OVER ONE RINGg.mONE RING OVER TWO RINGS",
      "aINSCRIPTIONAL PARTHIAN LETTER ALEPHzfBETHzfGIMELzfDALETHzfHEzfWAWzfZAYINzfHETHzf.dT",
      "zfYODHzfKAPHzfLAMEDHzfMEMzfNUNzfSAMEKHzfAYINzfPEzfSADHEzfQOPHzfRESHzfSHINzfTAW"]),
    (0x10b58, ["xNUMBER ONEzfTWOzgHREEzfFOURzfTENzgWENTYzfONE HUNDREDzjTHOUSAND",
      "qHLAVI LETTER ALEPHzeBETHzeGIMELzeDALETHzeHEzeWAW-AYIN-RESHzeZAYINzeHETHze.dTzeYODHzeKAPH",
      "zeLAMEDHzeMEM-QOPHzeNUNzeSAMEKHzePEzeSADHEzfHINzeTAW"]),
    (0x10b78, ["wNUMBER ONEzeTWOzfHREEzeFOURzeTENzfWENTYzeONE HUNDREDziTHOUSAND",
      "aPSALTER PAHLAVI LETTER ALEPHxBETHxGIMELxDALETHxHExWAW-AYIN-RESHxZAYINxHETHxYODHxKAPH",
      "xLAMEDHxMEM-QOPHxNUNxSAMEKHxPExSADHEyHINxTAW"]),
    (0x10b99, ["qSECTION MARKq.mTURNED qFOUR DOTS WITH CROSSzgDOT"]),
    (0x10ba9, ["qNUMBER ONExTWOyHREExFOURxTENyWENTYxONE HUNDRED"]),
    (0x10c00, ["aOLD TURKIC LETTER ORKHON AsYENISEI AzcEsORKHON IsYENISEI IzbEsORKHON OzbE",
      "s.dYENISEIsORKHON ABs.dYENISEIsORKHON AEBs.eYENISEIsORKHON AGs.dYENISEIsORKHON AEG",
      "s.eYENISEIsORKHON ADs.dYENISEIsORKHON AEDzEZs.dYENISEIsORKHON AYs.dYENISEIsORKHON AEY",
      "s.eYENISEIsORKHON AEKs.eYENISEIsORKHON OEKs.eYENISEIsORKHON ALs.dYENISEIsORKHON AELzELT",
      "zbMzANzbENs.eYENISEIsORKHON ENTs.eYENISEIsORKHON ENCs.eYENISEIsORKHON ENYs.eYENISEIzbANG",
      "sORKHON ENGs.dYENISEI AsORKHON EPzOPzICzECs.dYENISEIsORKHON AQs.dYENISEIsORKHON IQ",
      "s.dYENISEIsORKHON OQs.dYENISEIsORKHON ARs.dYENISEIsORKHON AERzbSzbESzbSHs.eYENISEI",
      "sORKHON ESHs.eYENISEIsORKHON ATs.dYENISEIsORKHON AETs.eYENISEIsORKHON OTzBASH"]),
    (0x10c80, ["eHUNGARIAN CAPITAL LETTER AzfAzeEBzeAMBzeECzfNCzfCSzfDzeANDzeEzeCLOSE EzeEEzfF",
      "zfGzgYzfHzeIzfIzeEJzfKzeAKzeUNKzeELzgYzfMzfNzgYzeOzfOzeNIKOLSBURG OEze.dRUDIMENTAzeOEE",
      "zeEPzfMPzfRzeSHORT ERzeESzgZzfTzfNTzfTYzfCHzeUzfUzeNIKOLSBURG UEze.dRUDIMENTAzeEVzfZzgS",
      "zfNT-SHAPED SIGNzeUS"]),
    (0x10cc0, ["oSMALL LETTER AzdAzcEBzcAMBzcECzdNCzdCSzdDzcANDzcEzcCLOSE EzcEEzdFzdGzeYzdHzcI",
      "zdIzcEJzdKzcAKzcUNKzcELzeYzdMzdNzeYzcOzdOzcNIKOLSBURG OEzc.dRUDIMENTAzcOEEzcEPzdMPzdR",
      "zcSHORT ERzcESzeZzdTzdNTzdTYzdCHzcUzdUzcNIKOLSBURG UEzc.dRUDIMENTAzcEVzdZzeS",
      "zdNT-SHAPED SIGNzcUS"]),
    (0x10cfa, ["oNUMBER ONEvFIVEvTENvFIFTYvONE HUNDREDzTHOUSANDaHANIFI ROHINGYA LETTER AxBAxPA",
      "xTAyTAxJAxCAxHAxKHAxFAxDAyDAxRAyRAxZAxSAyHAxKAxGAxLAxMAxNAxWAxKINNA WAxYAxKINNA YAxNGAyYA",
      "xVAqVOWEL AwIwUwEwOqMARK SAKINvNA KHONNAqSIGN HARBAHAYvTAHALAxNAxSSI"]),
    (0x10d30, ["qDIGIT ZEROwONEwTWOxHREEwFOURxIVEwSIXxEVENwEIGHTwNINE"]),
    (0x10e60, ["aRUMI DIGIT ONElTWOmHREElFOURmIVElSIXmEVENlEIGHTlNINEfNUMBER TENnWENTYnHIRTY",
      "m.dFOnIFTYmSIXTYnEVENTYmEIGHTYmNINETYmONE HUNDREDm.iTWOn.iHREEm.iFOURn.iIVEm.iSIXn.iEVEN",
      "m.iEIGHTm.iNINEfFRACTION ONE HALFsQUARTERsTHIRDoTWO THIRDS"]),
    (0x10e80, ["aYEZIDI LETTER ELIFoBEoPEpHEoTHEoSEoCIMpHIMqHIMoHHAoXAoDALoZALoRApHAoZAoJAoSIN",
      "pHINpADoDADoTAoZEoEYNo.dXHoFAoVAq ALTERNATE FORMoQAFoKAFpHAFoGAFoLAMoMIMoNUNoUMoWAWoOWoEW",
      "oHAYoYOToET"]),
    (0x10eab, ["hCOMBINING HAMZA MARKr.gMADDh.fHYPHENATION"]),
    (0x10eb0, ["hLETTER LAM WITH DOT ABOVEo.gYOT WITH CIRCUMFLEX"]),
    (0x10f00, ["aOLD SOGDIAN LETTER ALEPHt.fFINAL tBETHt.eFINAL tGIMELtHEtFINAL HEtWAWtZAYIN",
      "tHETHtYODHtKAPHtLAMEDHtMEMtNUNt.dFINAL zd WITH VERTICAL TAILtSAMEKHtAYINu.dLTERNATE AtPE",
      "tSADHEt.fFINAL zf WITH VERTICAL TAILtRESH-AYIN-DALETHtSHINtTAWt.dFINAL ",
      "zd WITH VERTICAL TAILmNUMBER ONEtTWOuHREEtFOURuIVEtTENuWENTYuHIRTYtONE HUNDRED",
      "mFRACTION ONE HALFmLIGATURE AYIN-DALETH"]),
    (0x10f30, ["aSOGDIAN LETTER ALEPHpBETHpGIMELpHEpWAWpZAYINpHETHpYODHpKAPHpLAMEDHpMEMpNUN",
      "pSAMEKHpAYINpPEpSADHEpRESH-AYINpSHINpTAWpFETHpLESHiINDEPENDENT SHINiCOMBINING DOT BELOW",
      "s.gTWO DOTSsDOT ABOVEs.gTWO DOTSs.gCURVEyBELOWsHOOK ABOVExBELOWs.kLONG s.gRESHs.gSTROKE",
      "iNUMBER ONEpTENqWENTYpONE HUNDREDiPUNCTUATION TWO VERTICAL BARSzm WITH DOTS",
      "uCIRCLE WITH DOTuTWO CIRCLES WITH DOTSuHALF CIRCLE WITH DOT"]),
    (0x10f70, ["aOLD UYGHUR LETTER ALEPHsBETHs.dGIMEL-HsWAWsZAYINsFINAL HETHsYODHsKAPHsLAMEDH",
      "sMEMsNUNsSAMEKHsPEsSADHEsRESHsSHINsTAWsLESHlCOMBINING DOT ABOVEzBELOWvTWO DOTS ABOVE",
      "zfBELOWlPUNCTUATION BARxTWO BARSzcDOTSx.fFOUR"]),
    (0x10fb0, ["aCHORASMIAN LETTER ALEPHs.fSMALL sBETHsGIMELsDALETHsHEsWAWs.dCURLED sZAYINsHETH",
      "sYODHsKAPHsLAMEDHsMEMsNUNsSAMEKHsAYINsPEsRESHsSHINsTAWlNUMBER ONEsTWOtHREEsFOURsTENtWENTY",
      "sONE HUNDRED"]),
    (0x10fe0, ["aELYMAIC LETTER ALEPHpBETHpGIMELpDALETHpHEpWAWpZAYINpHETHp.dTpYODHpKAPHpLAMEDH",
      "pMEMpNUNpSAMEKHpAYINpPEpSADHEpQOPHpRESHpSHINpTAWjIGATURE ZAYIN-YODH"]),
    (0x11000, ["aBRAHMI SIGN CANDRABINDUmANUSVARAmVISARGAmJIHVAMULIYAm.dUPADHMANhLETTER ApAoIpI",
      "oUpUoVOCALIC RxRwLxLoEoAIoOoAUoKApHAoGApHAoNGAoCApHAoJApHAoNYAoTTAqHAoDDAqHAoNNAoTApHAoDA",
      "pHAoNAoPApHAoBApHAoMAoYAoRAoLAoVAoSHApSApAoHAoLLAo.dOLD TAMIL LyRRAyNNNAhVOWEL SIGN AA",
      "sBHATTIPROLU AAsItIsUtUsVOCALIC RzcRzbLzcLsEsAIsOsAUiIRAMAhDANDAi.eOUBLE D",
      "hPUNCTUATION DOTvUBLE DOTtLINEtCRESCENT BARtLOTUS"]),
    (0x11052, ["hNUMBER ONEoTWOpHREEoFOURpIVEoSIXpEVENoEIGHToNINEoTENpWENTYpHIRTYo.dFOpIFTY",
      "oSIXTYpEVENTYoEIGHTYoNINETYoONE HUNDREDsTHOUSANDhDIGIT ZEROnONEnTWOoHREEnFOURoIVEnSIX",
      "oEVENnEIGHTnNINEhSIGN OLD TAMIL VIRAMAhLETTER OLD TAMIL SHORT EzfO",
      "hVOWEL SIGN OLD TAMIL SHORT EzjOhLETTER OLD TAMIL LLA"]),
    (0x1107f, ["hNUMBER JOINERaKAITHI SIGN CANDRABINDUmANUSVARAmVISARGAhLETTER ApAoIpIoUpUoEoAI",
      "oOoAUoKApHAoGApHAoNGAoCApHAoJApHAoNYAoTTAqHAoDDAqDHAqHAoRHAoNNAoTApHAoDApHAoNAoPApHAoBA",
      "pHAoMAoYAoRAoLAoVAoSHApSApAoHAhVOWEL SIGN AAsItIsUtUsEsAIsOsAUhSIGN VIRAMAmNUKTA",
      "hABBREVIATION SIGNh.kENUMERh.fNUMBERhSECTION MARKh.mDOUBLE iANDAi.eOUBLE D",
      "hVOWEL SIGN VOCALIC R"]),
    (0x110cd, ["hNUMBER SIGN ABOVE"]),
    (0x110d0, ["aSORA SOMPENG LETTER SAHuTAHuBAHuCAHuDAHuGAHuMAHuNGAHuLAHuNAHuVAHuPAHuYAHuRAH",
      "uHAHuKAHuJAHuNYAHuAHuEEHuIHuUHuOHuEHuMAE"]),
    (0x110f0, ["nDIGIT ZEROtONEtTWOuHREEtFOURuIVEtSIXuEVENtEIGHTtNINE"]),
    (0x11100, ["aCHAKMA SIGN CANDRABINDUmANUSVARAmVISARGAhLETTER AAoIoUoEoKAApHAAoGAApHAAoNGAA",
      "oCAApHAAoJAApHAAoNYAAoTTAAqHAAoDDAAqHAAoNNAAoTAApHAAoDAApHAAoNAAoPAApHAAoBAApHAAoMAAoYYAA",
      "pAAoRAAoLAAoWAAoSAAoHAAhVOWEL SIGN AsItIsUtUsEsAIsOsAUsOIhO MARKh.fAUhVIRAMAhMAAYYAA"]),
    (0x11136, ["hDIGIT ZEROnONEnTWOoHREEnFOURoIVEnSIXoEVENnEIGHTnNINEhSECTION MARKhDANDA",
      "i.eOUBLE DhQUESTION MARKhLETTER LHAAhVOWEL SIGN AAsEIhLETTER VAA"]),
    (0x11150, ["aMAHAJANI LETTER AqIqUqEqOqKArHAqGArHAqCArHAqJArHAqNYAqTTAsHAqDDAsHAqNNAqTArHA",
      "qDArHAqNAqPArHAqBArHAqMAqRAqLAqVAqSAqHAqRRAjSIGN NUKTAjABBREVIATION SIGNjSECTION MARK",
      "jLIGATURE SHRI"]),
    (0x11180, ["aSHARADA SIGN CANDRABINDUnANUSVARAnVISARGAiLETTER AqApIqIpUqUpVOCALIC RyRxLyLpE",
      "pAIpOpAUpKAqHApGAqHApNGApCAqHApJAqHApNYApTTArHApDDArHApNNApTAqHApDAqHApNApPAqHApBAqHApMA",
      "pYApRApLAqLApVApSHAqSAqApHAiVOWEL SIGN AAtIuItUuUtVOCALIC RzdRzcLzdLtEtAItOtAU",
      "iSIGN VIRAMAnAVAGRAHAnJIHVAMULIYAn.dUPADHMANiOMiDANDAj.eOUBLE DiABBREVIATION SIGN",
      "iSEPARATORjANDHI MARKjIGN NUKTAiVOWEL MODIFIER MARKi.fEXTRA SHORT VOWELi.fSUTRA",
      "iVOWEL SIGN PRISHTHAMATRA EiSIGN INVERTED CANDRABINDUiDIGIT ZEROoONEoTWOpHREEoFOURpIVE",
      "oSIXpEVENoEIGHToNINEiEKAMiSIGN SIDDHAMiHEADSTROKEiCONTINUATION SIGNiSECTION MARK-1v2"]),
    (0x111e1, ["bINHALA ARCHAIC DIGIT ONEwTWOxHREEwFOURxIVEwSIXxEVENwEIGHTwNINEqNUMBER TENyWENTY",
      "yHIRTYx.dFOyIFTYxSIXTYyEVENTYxEIGHTYxNINETYxONE HUNDREDzcTHOUSAND"]),
    (0x11200, ["aKHOJKI LETTER ApAoIoUoEoAIoOoAUoKApHAoGApGApHAoNGAoCApHAoJApJA"]),
    (0x11213, ["oNYAoTTAqHAoDDAqHAoNNAoTApHAoDApDDApHAoNAoPApHAoBApBApHAoMAoYAoRAoLAoVAoSAoHA",
      "oLLAhVOWEL SIGN AAsItIsUsEsAIsOsAUhSIGN ANUSVARAmVIRAMAmNUKTAmSHADDAhDANDAi.eOUBLE D",
      "hWORD SEPARATORhSECTION MARKh.mDOUBLE hABBREVIATION SIGNhSIGN SUKUN"]),
    (0x11280, ["aMULTANI LETTER ApIpUpEpKAqHApGA"]), (0x11288, ["qHA"]),
    (0x1128a, ["pCAqHApJAqJA"]), (0x1128f, ["pNYApTTArHApDDArDArHApNNApTAqHApDAqHApNApPAqHApBA"]),
    (0x1129f, ["qHApMApYApRApLApVApSApHApRRAqHAiSECTION MARK"]),
    (0x112b0, ["aKHUDAWADI LETTER AsArIsIrUsUrErAIrOrAUrKAsHArGAsGAsHArNGArCAsHArJAsJAsHArNYA",
      "rTTAtHArDDAtDArRRArDDHArNNArTAsHArDAsHArNArPAsHArBAsBAsHArMArYArRArLArVArSHAsArHA",
      "kSIGN ANUSVARAkVOWEL SIGN AAvIwIvUwUvEvAIvOvAUkSIGN NUKTApVIRAMA"]),
    (0x112f0, ["kDIGIT ZEROqONEqTWOrHREEqFOURrIVEqSIXrEVENqEIGHTqNINE"]),
    (0x11300, ["aGRANTHA SIGN COMBINING ANUSVARA ABOVEoANDRABINDUnANUSVARAnVISARGA"]),
    (0x11305, ["iLETTER AqApIqIpUqUpVOCALIC RxL"]), (0x1130f, ["pEEpAI"]),
    (0x11313, ["pOOpAUpKAqHApGAqHApNGApCAqHApJAqHApNYApTTArHApDDArHApNNApTAqHApDAqHApNA"]),
    (0x1132a, ["pPAqHApBAqHApMApYApRA"]), (0x11332, ["pLAqLA"]), (0x11335, ["pVApSHAqSAqApHA"]),
    (0x1133b, ["aCOMBINING BINDU BELOWaGRANTHA SIGN NUKTAnAVAGRAHAiVOWEL SIGN AAtIuItUuU",
      "tVOCALIC RzdR"]),
    (0x11347, ["tEEtAI"]), (0x1134b, ["tOOtAUiSIGN VIRAMA"]), (0x11350, ["iOM"]),
    (0x11357, ["iAU LENGTH MARK"]),
    (0x1135d, ["iSIGN PLUTAiLETTER VEDIC ANUSVARAv.iDOUBLE qOCALIC RRxLLiVOWEL SIGN VOCALIC LzdL"]),
    (0x11366, ["aCOMBINING GRANTHA DIGIT ZEROyONEyTWOzHREEyFOURzIVEySIX"]),
    (0x11370, ["sLETTER AzKAzNAzVIzPA"]),
    (0x11400, ["aNEWA LETTER AnAmInImUnUmVOCALIC RvRuLvLmEmAImOmAUmKAnHAmGAnHAmNGAoHAmCAnHAmJA",
      "nHAmNYAoHAmTTAoHAmDDAoHAmNNAmTAnHAmDAnHAmNAnHAmPAnHAmBAnHAmMAnHAmYAmRAnHAmLAnHAmWAmSHAnSA",
      "nAmHAfVOWEL SIGN AAqIrIqUrUqVOCALIC RzRyLzLqEqAIqOqAUfSIGN VIRAMAkCANDRABINDUkANUSVARA",
      "kVISARGAkNUKTAkAVAGRAHAkFINAL ANUSVARAfOMfSIDDHIfDANDAg.eOUBLE DfCOMMAfGAP FILLER",
      "fABBREVIATION SIGNfDIGIT ZEROlONElTWOmHREElFOURmIVElSIXmEVENlEIGHTlNINEgOUBLE COMMA",
      "fPLACEHOLDER MARK"]),
    (0x1145d, ["fINSERTION SIGNfSANDHI MARKfLETTER VEDIC ANUSVARAfSIGN JIHVAMULIYAk.dUPADHMAN"]),
    (0x11480, ["aTIRHUTA ANJIiLETTER AqApIqIpUqUpVOCALIC RyRxLyLpEpAIpOpAUpKAqHApGAqHApNGApCAqHA",
      "pJAqHApNYApTTArHApDDArHApNNApTAqHApDAqHApNApPAqHApBAqHApMApYApRApLApVApSHAqSAqApHA",
      "iVOWEL SIGN AAtIuItUuUtVOCALIC RzdRzcLzdLtEtSHORT EtAItOtSHORT OtAUiSIGN CANDRABINDU",
      "nANUSVARAnVISARGApRAMAnNUKTAnAVAGRAHAiGVANGiABBREVIATION SIGNiOM"]),
    (0x114d0, ["iDIGIT ZEROoONEoTWOpHREEoFOURpIVEoSIXpEVENoEIGHToNINE"]),
    (0x11580, ["aSIDDHAM LETTER AqApIqIpUqUpVOCALIC RyRxLyLpEpAIpOpAUpKAqHApGAqHApNGApCAqHApJA",
      "qHApNYApTTArHApDDArHApNNApTAqHApDAqHApNApPAqHApBAqHApMApYApRApLApVApSHAqSAqApHA",
      "iVOWEL SIGN AAtIuItUuUtVOCALIC RzdR"]),
    (0x115b8, ["tEtAItOtAUiSIGN CANDRABINDUnANUSVARAnVISARGApRAMAnNUKTAnSIDDHAMiDANDAj.eOUBLE D",
      "iSEPARATOR DOTsBARiREPETITION MARK-1y2y3iEND OF TEXT MARK",
      "iSECTION MARK WITH TRIDENT AND U-SHAPED ORNAMENTSzn.eDOTTED CRESCzb.vRAYSzr.jDOUBLE ",
      "zr.mTRIPvDOUBLE RINGzh WITH RAYSvWITH DOUBLE CRESCENTSzb.mTRIPzb.nQUADRUzb.oSEPT",
      "zbCIRCLES AND RAYSznTWO ENCLOSURESzn.lFOURiLETTER THREE-CIRCLE ALTERNATE Iq.tWOzmI",
      "pALTERNATE Ui.mVOWEL SIGNzfU"]),
    (0x11600, ["aMODI LETTER AnAmInImUnUmVOCALIC RvRuLvLmEmAImOmAUmKAnHAmGAnHAmNGAmCAnHAmJAnHA",
      "mNYAmTTAoHAmDDAoHAmNNAmTAnHAmDAnHAmNAmPAnHAmBAnHAmMAmYAmRAmLAmVAmSHAnSAnAmHAmLLA",
      "fVOWEL SIGN AAqIrIqUrUqVOCALIC RzRyLzLqEqAIqOqAUfSIGN ANUSVARAkVISARGAmRAMAkARDHACANDRA",
      "fDANDAg.eOUBLE DfABBREVIATION SIGNfSIGN HUVA"]),
    (0x11650, ["fDIGIT ZEROlONElTWOmHREElFOURmIVElSIXmEVENlEIGHTlNINE"]),
    (0x11660, ["cNGOLIAN BIRGA WITH ORNAMENTkROTATED BIRGAkDOUBLE BIRGA WITH ORNAMENTk.wTRIP",
      "k.jBIRGA WITH DOUBLEk.jROTATED BIRGA WITHze.iDOUBLE kINVERTED BIRGAy WITH DOUBLE ORNAMENT",
      "kSWIRL BIRGAv WITH ORNAMENTzc.iDOUBLE k.zhTURNED "]),
    (0x11680, ["aTAKRI LETTER AoAnIoInUoUnEnAInOnAUnKAoHAnGAoHAnNGAnCAoHAnJAoHAnNYAnTTApHAnDDA",
      "pHAnNNAnTAoHAnDAoHAnNAnPAoHAnBAoHAnMAnYAnRAnLAnVAnSHAoAnHAnRRAgSIGN ANUSVARAlVISARGA",
      "gVOWEL SIGN AArIsIrUsUrErAIrOrAUgSIGN VIRAMAlNUKTAgLETTER ARCHAIC KHAgABBREVIATION SIGN"]),
    (0x116c0, ["gDIGIT ZEROmONEmTWOnHREEmFOURnIVEmSIXnEVENmEIGHTmNINE"]),
    (0x11700, ["aAHOM LETTER KAnHAmNGAnAmTAmALTERNATE TAmPAnHAmBAmMAmJAmCHAmTHAmRAmLAmSAmNYAmHA",
      "mAmDAnHAmGAmALTERNATE GAmGHAmBHAmJHAmALTERNATE BA"]),
    (0x1171d, ["fCONSONANT SIGN MEDIAL LAzcRAzcLIGATING RAfVOWEL SIGN ArAqIrIqUrUqEqAWqOqAIrM",
      "fSIGN KILLER"]),
    (0x11730, ["fDIGIT ZEROlONElTWOmHREElFOURmIVElSIXmEVENlEIGHTlNINEfNUMBER TENnWENTY",
      "fSIGN SMALL SECTIONl.fEkRULAIgYMBOL VIfLETTER CAmTTAoHAmDDAoHAmNNAmLLA"]),
    (0x11800, ["aDOGRA LETTER AoAnIoInUoUnEnAInOnAUnKAoHAnGAoHAnNGAnCAoHAnJAoHAnNYAnTTApHAnDDA",
      "pHAnNNAnTAoHAnDAoHAnNAnPAoHAnBAoHAnMAnYAnRAnLAnVAnSHAoSAoAnHAnRRAgVOWEL SIGN AArIsIrUsU",
      "rVOCALIC RzbRrErAIrOrAUgSIGN ANUSVARAlVISARGAnRAMAlNUKTAgABBREVIATION SIGN"]),
    (0x118a0, ["aWARANG CITI CAPITAL LETTER NGAAzcAzcWIzcYUzdAzdOzcIIzcUUzcEzcOzcANGzcGAzcKO",
      "zcENYzcYUJzcUCzcENNzcODDzcTTEzcNUNGzcDAzcATzdMzcBUzcPUzcHIYOzdOLOzeRRzdARzcSSUUzdIIzcVIYO",
      "mSMALL LETTER NGAAzAzWIzYUzbAzbOzIIzUUzEzOzANGzGAzKOzENYzYUJzUCzENNzODDzTTEzNUNGzDAzATzbM",
      "zBUzPUzHIYOzbOLOzcRRzbARzSSUUzbIIzVIYOmDIGIT ZEROsONEsTWOtHREEsFOURtIVEsSIXtEVENsEIGHT",
      "sNINEmNUMBER TENuWENTYuHIRTYt.dFOuIFTYtSIXTYuEVENTYtEIGHTYtNINETY"]),
    (0x118ff, ["mOMaDIVES AKURU LETTER AuAtIuItUuUtE"]), (0x11909, ["tO"]),
    (0x1190c, ["tKAuHAtGAuHAtNGAtCAuHAtJA"]), (0x11915, ["tNYAtTTA"]),
    (0x11918, ["tDDAvHAtNNAtTAuHAtDAuHAtNAtPAuHAtBAuHAtMAtYAuYAtRAtLAtVAtSHAuSAuAtHAtLLAtZA",
      "mVOWEL SIGN AAxIyIxUyUxE"]),
    (0x11937, ["xAIxO"]),
    (0x1193b, ["mSIGN ANUSVARArCANDRABINDUrHALANTAmVIRAMAmPREFIXED NASAL SIGNmMEDIAL YA",
      "mINITIAL RAm.gMEDmSIGN NUKTAmDOUBLE DANDAmGAP FILLERmEND OF TEXT MARK"]),
    (0x11950, ["mDIGIT ZEROsONEsTWOtHREEsFOURtIVEsSIXtEVENsEIGHTsNINE"]),
    (0x119a0, ["aNANDINAGARI LETTER AuAtIuItUuUtVOCALIC RzdR"]),
    (0x119aa, ["tEtAItOtAUtKAuHAtGAuHAtNGAtCAuHAtJAuHAtNYAtTTAvHAtDDAvHAtNNAtTAuHAtDAuHAtNAtPA",
      "uHAtBAuHAtMAtYAtRAtLAtVAtSHAuSAuAtHAtLLAtRRAmVOWEL SIGN AAxIyIxUyUxVOCALIC RzhR"]),
    (0x119da, ["xExAIxOxAUmSIGN ANUSVARArVISARGAtRAMArAVAGRAHArSIDDHAMmHEADSTROKE",
      "mVOWEL SIGN PRISHTHAMATRA E"])]

/-- Names from U+11A00 on. -/
def namesFrom11a00 : List (Nat × List String) := [
    (0x11a00, ["aZANABAZAR SQUARE LETTER ArVOWEL SIGN IzdUEzdUzdEzdOEzdOzdAIzeUzdREVERSED I",
      "xLENGTH MARKrLETTER KAzHAyGAzHAyNGAyCAzHAyJAyNYAyTTAzbHAyDDAzbHAyNNAyTAzHAyDAzHAyNAyPAzHA",
      "yBAzHAyMAyTSAzbHAyDZAzbHAyZHAzAy-AyYAyRAyLAyVAySHAzSAzAyHAyKSSArFINAL CONSONANT MARK",
      "rSIGN VIRAMAwCANDRABINDUzi WITH ORNAMENTzd.n wANUSVARAwVISARGArCLUSTER-INITIAL LETTER RA",
      "zFINAL LETTER YAznRAznLAznVArINITIAL HEAD MARKr.kCLOSINGrMARK TSHEGwSHADw.eDOUBLE ",
      "wLONG TSHEGrINITIAL DOUBLE-LINED HEAD MARKr.xCLOSINGrSUBJOINER"]),
    (0x11a50, ["aSOYOMBO LETTER AiVOWEL SIGN ItUEtUtEtOuEtAIuUtVOCALIC RzcLoLENGTH MARK",
      "iLETTER KAqHApGAqHApNGApCAqHApJAqHApNYApTTArHApDDArHApNNApTAqHApDAqHApNApPAqHApBAqHApMA",
      "pTSArHApDZApZHAqAp-ApYApRApLApVApSHAqSAqApHApKSSAiSIGN JIHVAMULIYAn.dUPADHMAN",
      "iCLUSTER-INITIAL LETTER RAzgLAzgSHAzhAiFINAL CONSONANT SIGN GzeKzeNGzeDzeNzeBzeMzeRzeL",
      "zeSHzeSze-AiSIGN ANUSVARAnVISARGAiGEMINATION MARKiSUBJOINERiMARK TSHEGnSHADn.eDOUBLE ",
      "nPLUTAiHEAD MARK WITH MOON AND SUN AND TRIPLE FLAMEzp.eFzjNiTERMINAL MARK-1w2"]),
    (0x11ab0, ["aCANADIAN SYLLABICS NATTILIK HIzfIzeOzfOzeAzfAzdSHRIzhIzgOzhOzgAzhAtSPEvIvOvA",
      "aPAU CIN HAU LETTER PAtKAtLAtMAtDAtZAtVAtNGAtHAtGAtKHAtSAtBAtCAtTAuHAtNAtPHAtRAtFAtCHAtA",
      "tEtItOtUuAtIAtFINAL PzKzTzMzNzLzWzNGzYmRISING TONE LONGwEmSANDHI GLOTTAL STOP",
      "mRISING TONE LONG FINALy.eFm.gSANDHI GLOTTAL STOPtTONE LONGwEx LONG FINALy.eF",
      "mMID-LEVEL TONEmGLOTTAL STOP VARIANTmMID-LEVEL TONE LONG FINALzc.eFmLOW-FALLING TONE LONG",
      "zcEmGLOTTAL STOPmLOW-FALLING TONE LONG FINALze.eFm.gGLOTTAL STOP"]),
    (0x11c00, ["aBHAIKSUKI LETTER AsArIsIrUsUrVOCALIC RzbRzL"]),
    (0x11c0a, ["rErAIrOrAUrKAsHArGAsHArNGArCAsHArJAsHArNYArTTAtHArDDAtHArNNArTAsHArDAsHArNArPA",
      "sHArBAsHArMArYArRArLArVArSHAsSAsArHAkVOWEL SIGN AAvIwIvUwUvVOCALIC RzfRzeL"]),
    (0x11c38, ["vEvAIvOvAUkSIGN CANDRABINDUpANUSVARApVISARGArRAMApAVAGRAHAkDANDAl.eOUBLE D",
      "kWORD SEPARATORkGAP FILLER-1v2"]),
    (0x11c50, ["kDIGIT ZEROqONEqTWOrHREEqFOURrIVEqSIXrEVENqEIGHTqNINEkNUMBER ONErTWOsHREErFOUR",
      "sIVErSIXsEVENrEIGHTrNINErTENsWENTYsHIRTYr.dFOsIFTYrSIXTYsEVENTYrEIGHTYrNINETY",
      "kHUNDREDS UNIT MARK"]),
    (0x11c70, ["a.fMARCHEN HEADiMARK SHADiLETTER KAqHApGApNGApCAqHApJApNYApTAqHApDApNApPAqHApBA",
      "pMApTSArHApDZApWApZHAqAp-ApYApRApLApSHAqApHApA"]),
    (0x11c92, ["iSUBJOINED LETTER KAzbHAzGAzNGAzCAzbHAzJAzNYAzTAzbHAzDAzNAzPAzbHAzBAzMAzTSAzcHA",
      "zDZAzWAzZHAzbA"]),
    (0x11ca9, ["zYAzRAzLAzSHAzbAzHAzAiVOWEL SIGN AAtItUtEtOiSIGN ANUSVARAnCANDRABINDU"]),
    (0x11d00, ["cSARAM GONDI LETTER AwAvIwIvUwUvE"]), (0x11d08, ["vAIvO"]),
    (0x11d0b, ["vAUvKAwHAvGAwHAvNGAvCAwHAvJAwHAvNYAvTTAxHAvDDAxHAvNNAvTAwHAvDAwHAvNAvPAwHAvBAwHA",
      "vMAvYAvRAvLAvVAvSHAwSAwAvHAvLLAvKSSAvJNYAvTRAoVOWEL SIGN AAzIzbIzUzbUzVOCALIC R"]),
    (0x11d3a, ["zE"]), (0x11d3c, ["zAIzO"]),
    (0x11d3f, ["zAUoSIGN ANUSVARAtVISARGAtNUKTAtCANDRAtHALANTAoVIRAMAoREPHApA-KARA"]),
    (0x11d50, ["oDIGIT ZEROuONEuTWOvHREEuFOURvIVEuSIXvEVENuEIGHTuNINE"]),
    (0x11d60, ["aGUNJALA GONDI LETTER AwAvIwIvUwU"]), (0x11d67, ["vEEvAI"]),
    (0x11d6a, ["vOOvAUvYAvVAvBAwHAvMAvKAwHAvTAwHAvLAvGAwHAvDAwHAvNAvCAwHAvTTAxHAvLLAvJAwHAvDDA",
      "xHAvNGAvPAwHAvHAvRAvSAoVOWEL SIGN AAzIzbIzUzbU"]),
    (0x11d90, ["zEEzAI"]), (0x11d93, ["zOOzAUoSIGN ANUSVARAtVISARGAoVIRAMAoOM"]),
    (0x11da0, ["oDIGIT ZEROuONEuTWOvHREEuFOURvIVEuSIXvEVENuEIGHTuNINE"]),
    (0x11ee0, ["aMAKASAR LETTER KApGApNGApPApBApMApTApDApNApCApJApNYApYApRApLApVApSApAiANGKA",
      "iVOWEL SIGN ItUtEtOiPASSIMBANGiEND OF SECTION"]),
    (0x11fb0, ["aLISU LETTER YHA"]),
    (0x11fc0, ["aTAMIL FRACTION ONE THREE-HUNDRED-AND-TWENTIETHt.fONE-HUNDRED-AND-SIXt.fEIGH",
      "tSIXTY-FOURTHtFORTIETHtTHIRTY-SECONDpTHREE EIGHTIETHSv.dSIXTY-FOURpONE TWENTIETH",
      "tSIXTEENTH-1ze2tTENTHtEIGHTHpTHREE TWENTIETHSv.dSIXTEENpONE FIFTHtQUARTERtHALF-1y2",
      "pTHREE QUARTERSpDOWNSCALING FACTOR KIIZHgSIGN NELlCEVITUlAAZHAAKKUl.eUZHl.hMUUVlKURUNI",
      "lPATHAKKUlMUKKURUNIlKAACUlPANAMmONlVARAAKANlPAARAMlKUZHIlVELIgWET CULTIVATION SIGNg.rDRY",
      "g.fLANDg.fSALT PANg.fTRADITIONAL CREDITs.fNUMBERg.fCURRENTg.fAND ODDg.fSPENTg.fTOTAL",
      "g.fIN POSSESSIONg.fSTARTING FROMhIGN MUTHALIYAlVAKAIYARAA"]),
    (0x11fff, ["gPUNCTUATION END OF TEXTaCUNEIFORM SIGN Aq TIMES AxBADxGAN2 TENUxHAxIGI",
      "xLAGAR GUNUxMUSHxSAGq2qBr TIMES ASH2yDUN3 GUNUyGALzbN2 TENUyHAyIGI GUNUzMINyLAGABySHESH",
      "yU PLUS U PLUS UsGUNUr2s TIMES BALAGzGAN2 TENUzME PLUS ENzSHA3zTAK4qDqKr TIMES ERIN2",
      "ySHITA PLUS GISHqLr TIMES ALyDIM2yGISHyHAyKAD3zIySHEyUSHrANrEPHqMARt TIMES SHEqNr OVER AN",
      "sTHREE TIMESsPLUS NAGA OPPOSING AN PLUS NAGAzdSQUAREDrSHEqPINqRADt TIMES KURrKABqSAL2rH",
      "s ZIDA TENUt.gKABtOVER ASH TUG2 OVER TUG2 TUG2 OVER TUG2 PAPzdOVER ASH",
      "zl CROSSING ASH OVER ASH OVER ASHs2sGABpBArDrG3rHAR2rLs OVER BALsAGrRsA2qIr TIMES AyGAR",
      "yIGI GUNUqUr OVER BU ABzbUNsCROSSING BUrLUGu OVER BULUGrRs2pDArG",
      "s KISIM5 TIMES A PLUS MASHziMARzhBALAGziIzhGAzj PLUS MASHziIzjR2ziUDzhHAzhIRzj PLUS LU",
      "zhKAKzhLAziUzj PLUS MASH2zjMzhNEzhPAP PLUS PAPzhSIzhTAK4zhU2 PLUS GIR2ziSHrMrRsA3t4qIrBrM",
      "s TIMES SHEs2rNs KASKAL U GUNU DISHrSHqUr OVER DUsGUNUsSHESHIGrBs TIMES ESH2s2rGsUDrHrNs3",
      "t GUNUy GUNUs4rR2pEq TIMES PAPrOVER E NUN OVER NUNq2r TIMES A PLUS HA PLUS DAyGARyMIySAL",
      "zHEyUqDINqGIRqLqNr TIMES GAN2zd TENUyMEsCROSSING ENs.hOPPOsSQUAREDqRENrIN2qSH2qZEN",
      "t TIMES Azc PLUS LALzl TIMES LALzcNzbBADzbDUN3 GUNUzk GUNUzbHAzd GUNUzb.fIGIzbKASKAL",
      "zh SQUAREDzcU3zbLAzdL TIMES LALzcIzcUzbU2zcDpGAr GUNUr2s TIMES A PLUS DA PLUS HAzhHAzhIGI",
      "zbB2 TENU PLUS TABzbNzbSHzd2 PLUS GALzBADzcR PLUS RAzbURzd PLUS RAzDAzbIzcM TIMES SHEzbUB",
      "zELzc PLUS LAzbNzc TIMES GAN2 TENUz.iGzcRzbIzc4zd PLUS AzcR2 PLUS SUzHA PLUS LU PLUS ESH2",
      "zcLzd PLUS LAzbI PLUS LIzbUB2zIGI GUNUzbSH PLUS HU PLUS ASHzKAKzcSKALzbIDzd PLUS LAL",
      "zbU3 PLUS ANzLAzME PLUS ENzbIzNUNzd OVER NUNzPAzSALzcRzbHEzd PLUS TURzcIDzbUMzTAK4zUzbD",
      "zc PLUS DUtOVER GA2rBAt CROSSING GABArDs OVER GAD GAR OVER GARrL",
      "s GAD OVER GAD GAR OVER GARsAMrMrNs2t TENUuOVER GAN2u.fCROSSINGrRs3rSHANqESHTIN",
      "w TIMES KURqIr TIMES EyUsCROSSING GIr4s OVER GI4t.eCROSSINGrDIMrR2t GUNUs3",
      "t TIMES A PLUS IGIzbGAN2 TENUzbIGIzb.dLU PLUS zbPArSALsHt CROSSING GISHuTIMES BADzbTAK4",
      "vENUqUr CROSSING GUr2s TIMES KAKzd TIMES IGI GUNUzNUNzSAL PLUS TUG2tGUNUrD",
      "s TIMES A PLUS KURzKURtOVER GUD LUGALrLrMs TIMES SHErRs7sUNtSHpHAr TENUsGUNUrLqI",
      "r TIMES ASHzc2yBADyDISHyGADyKINyNUNySHEyUqUrB2t TIMES ANzbHALzbKASKALzbLISHzbUDrL2pIq AqB",
      "qDIMt OVER IDIM BURzfSQUAREDqGrIs DIBtRItOVER IGI SHIR OVER SHIR UD OVER UDtGUNUqL",
      "r TIMES GAN2 TENUr2qMr TIMES TAK4sCROSSING IMs.hOPPOsSQUAREDrINqNqRqSHpKAr TIMES AzD",
      "zb PLUS KU3zSH2yBADzbLAGzbRzIyERIN2zSH2yGAzbLzbN2 TENUzbRzc PLUS SHA3 PLUS AzIzbR2",
      "zbSH PLUS SARzeCROSSING GISHzUzbR7yIGIzMyKAKzIzbDyLIzUyMEzb PLUS DUzhGIzhTEzI",
      "zb PLUS NUNUZyNEzUNyPIyRUySAzbRzHAzbEzbIDzbUzIGzUHURyTARyUz2zDzMUM TIMES PAzSHyZIr2",
      "s CROSSING KA2rBrD2s3s4s5t OVER KAD5rKs TIMES IGI GUNUrLs TIMES BADtCROSSING KALrM2s4",
      "rSKALv LAGAB TIMES U OVER LAGAB TIMES Uw.zhOVER KASKAL qESH2qIr TIMES BADyUzDrDrNrSALsH",
      "sIM5v OVER KISIM5qUr OVER HI TIMES ASH2 KU OVER HI TIMES ASH2r3r4s VARIANT FORMr7rLs GUNU",
      "rNrRs OPPOSING KURrSHU2qWU318pLArGABu TIMES Azd PLUS DA PLUS HAzjGARzjLALzdLzdN",
      "zdSH ZIDA TENUzcBADzdIzcDARzcENzcGAzeRzdUDzf PLUS GUDzcHAzeLzdI TIMES NUNzcIGI GUNUzdM",
      "ze PLUS HAzkLUzcKIzeNzdU3zeLzf PLUS HI PLUS AzcLAGABzdISHzdUzeLzcMEze PLUS ENzdUSHzcNE",
      "zcSHE PLUS SUMzeITA PLUS GISH PLUS ERIN2zsTENUzeU2zg PLUS SHU2zdUMzcTAGzeK4",
      "zdE PLUS A PLUS SU PLUS NAzcUzd PLUS AzjU PLUS Uzd2 PLUS ASHzdDzdSHvSQUAREDtRu TIMES SHE",
      "zf PLUS SUMvGUNUz OVER LAGAR GUNU SHErHSHUrLs TIMES LALrMs TIMES KURzd PLUS RUqIrLrMMU2",
      "rSHqUr TIMES BADr2s TIMES ALzBADzESH2ze TENUz.gGANzHI TIMES BADzIMzKAD2zd3ze PLUS ASHzbI",
      "zLA PLUS ASHzcGABzME PLUS ENzNEzbUzSI PLUS ASHzcK2 PLUS BUzTUG2uENUtCROSSING LU2t.iOPPO",
      "tSQUAREDuHESHIGr3rGALu OVER LUGALw.gPPOSINGvSHESHIGrHrLrMs OVER LUMzc GAR OVER GARpMA",
      "r TIMES TAK4sGUNUr2rHrRrSHt2qErSqIrNqUr OVER MUrGs GUNUrNSUBrRGU2rSHt TIMES AzbKURzbZA",
      "uOVER MUSHze TIMES A PLUS NAuCROSSING MUSHt3u TIMES Azd PLUS DIzcDIvGUNUpNAr2rGA",
      "t INVERTEDuTIMES SHU TENUuOPPOSING NAGAtRrM NUTILLUrMs2qEr TIMES AyUDsSHESHIGqIr TIMES E",
      "r2rMs TIMES GAN2 TENUzc.hR PLUS GArNDA2v TIMES ANzeSHzg PLUS ASHzdGUDzdME PLUS GAN2 TENU",
      "zdNEzeUNzdSHEzg PLUS A ANznSHzp PLUS ASHzd.jU2zeSHrSAGqUr11rNs LAGAR TIMES GARzgMASHzgSAL",
      "zj OVER NUN LAGAR TIMES SALzgUSHtTENUtOVER NUNt.eCROSSINGzg LAGAR OVER LAGARsUZ",
      "u AB2 TIMES ASHGABzgBIzgDUGzgGUDzgIGI GUNUzgKAD3zgLAzgNEzgSILA3zgU2vKISIM5 TIMES BIzl U",
      "pPArDrNrPqESH2qIr TIMES AzByBIzUyEyIzByUz2sCROSSING PIrRIGu TIMES KALzcUDzcZA",
      "vOPPOSING PIRIGpRArBqIqUpSArG NUTILLUrGs TIMES AzDUzcBzHAzKAKzbURzLUMzMIzNUNzSALzbHIDzTAB",
      "zU2zbBzbMzbRzbSHtOVER SAGtGUNUrLs LAGAB TIMES ASH2rNGA2rRqHAs3t TIMES AzbBADzbGISHzbNE",
      "zbSHU2zbTURzbUzc PLUS As6sB6sR2rEs HUtOVER SHE GAD OVER GAD GAR OVER GARzd.nTAB OVER TAB",
      "sG9sNsSHu2uLAMrIDt TIMES AzbIMsMt TIMES AzbBALzcULUGzbDINzbGARzbIGIze GUNUzbKUSHU2zbLUL",
      "zbMUGzbSALsNIGsRt TENUuOVER SHIR BUR OVER BURsTArUs OVER INVERTED SHUs2sBURqIr GUNUrGs4",
      "t OVER SIG4 SHU2rK2rLA3qUr OVER SUrDs2rHURrMsASHrRs9pTAr ASTERISKsTIMES HIyMIsGUNUrB",
      "s OVER TAB NI OVER NI DISH OVER DISHtSQUAREDrGs TIMES BIzGUDzSHEzcUzTUG2zUDrK4rRqEr GUNU",
      "qIr TENUrLrRs TIMES TAK4tOVER TIRzc GAD OVER GAD GAR OVER GARqUrG2rKrMrR",
      "s OVER TUR ZA OVER ZApUq GUDrU UrOVER U PA OVER PA GAR OVER GARySUR OVER SUR",
      "yU REVERSED OVER U REVERSEDq2qBqDr KUSHU2sTIMES BADyMIyU PLUS U PLUS Uzo GUNUs.dGsSHESHIG",
      "z TIMES BADrUGqMr TIMES LAGAByME PLUS DAySHA3yUrBINrUMt TIMES KASKALzbPAqNr GUNUqR",
      "r CROSSING URsSHESHIGr2s TIMES A PLUS HAzhNAzbLzHAzNUNzU2zc PLUS ASHziBIr4rIs3rUs TIMES A",
      "zbSHGABzBARzDUNzGAzcLzcN2 TENUzcRzbUzHAzIGIzbMzbSHzKIzLUMzMINzPAzSHEzbIG4zTUzU PLUS GUD",
      "zbDzbRUDAsDAu TIMES UqSHs TIMES AzKUzcRzTAK4sXs2sUMXqTUKIqZ3s TIMES KASKALrUpZAr TENU",
      "sSQUARED TIMES KURrGrMXqE2qIr OVER ZIr3rBs KABA TENUrGrZ2qUr5s TIMES ArBURrMpKAP ELAMITE",
      "pAB TIMES NUNr2 TIMES AqMAR TIMES KUGpDAG KISIM5 TIMES U2 PLUS MASHs3qISH PLUS SHU",
      "qUB TIMES SHEpEZEN TIMES GUDzbSHEpGA2 TIMES AN PLUS KAK PLUS AzbSH2qE22qIGpHUSH",
      "pKA TIMES ANSHEzSH3yGISHzUDyHI TIMES ASH2yLUMyPAySHULyTUyUR2pLAGAB TIMES GI",
      "qU2 SHESHIG TIMES BADtTIMES ESH2 PLUS LALzSHUpMESHqUSH3 TIMES ZApNA4qINs9sDA2 TIMES BAL",
      "zdGIqU11 ROTATED NINETY DEGREESpPESH2 ASTERISKqIR2pSAG TIMES IGI GUNUpTI2pUM TIMES MEq U"]),
    (0x12400, ["kNUMERIC SIGN TWO ASHy.eHREEx.eFOURy.eIVEx.eSIXy.eEVENx.eEIGHTx.eNINExTHREE DISH",
      "x.fFOURy.fIVEx.fSIXy.fEVENx.fEIGHTx.fNINExFOUR UyIVE UxSIX UyEVEN UxEIGHT UxNINE U",
      "xONE GESH2x.gTWOy.gHREEx.gFOURy.gIVEx.gSIXy.gEVENx.gEIGHTx.gNINExONE GESHUx.gTWOy.gHREE",
      "x.gFOURy.gIVExTWO SHAR2y.gHREEzj VARIANT FORMxFOUR SHAR2y.gIVEx.gSIXy.gEVENx.gEIGHT",
      "x.gNINExONE SHARUx.gTWOy.gHREEzj VARIANT FORMxFOUR SHARUy.gIVExSHAR2 TIMES GAL PLUS DISH",
      "ztMINxONE BURUx.fTWOy.fHREEzi VARIANT FORMxFOUR BURUy.fIVExTHREE VARIANT FORM ESH16zu21",
      "xFOUR VARIANT FORM LIMMUzv4zv AzwBxSIX VARIANT FORM ASH9yEVEN VARIANT FORM IMIN3zv AzwB",
      "xEIGHT VARIANT FORM USSUzv3xNINE VARIANT FORM ILIMMUzw3zw4zw AxTWO ASH TENUy.jHREEx.jFOUR",
      "y.jIVEx.jSIXxONE BAN2x.fTWOy.fHREEx.fFOURzh VARIANT FORMyIVE BAN2zh VARIANT FORM",
      "xNIGIDAMINzeESHxONE ESHE3x.gTWOxONE THIRD DISHx.fTWO THIRDSx.gFIVE SIXTH",
      "xONE THIRD VARIANT FORM Ax.pTWO THIRDSxONE EIGHTH ASHzc.eQUARTERyLD ASSYRIAN ONE SIXTH",
      "zpQUARTERyNE QUARTER GURzc.eHALFxELAMITE ONE THIRDzgTWO THIRDSzgFORTYzhIFTY",
      "xFOUR U VARIANT FORMy.pIVEx.pSIXy.pEVENx.pEIGHTx.pNINE"]),
    (0x12470, ["kPUNCTUATION SIGN OLD ASSYRIAN WORD DIVIDERzcVERTICAL COLONzc.iDIAGONzl.fTRI",
      "zl.fQUAD"]),
    (0x12480, ["kSIGN AB TIMES NUN TENUySHU2qD TIMES ESH2pBAD TIMES DISH TENUrHAR2 TIMES AB2zdNI",
      "zdZAqU OVER BU TIMES NA2pDA TIMES TAK4rG TIMES KURqIM TIMES IGIzU U Us2 TIMES UD",
      "qUG TIMES ANSHEzbSHzd AT LEFTzDINzbUNzERIN2zGAzbIzcR2 GUNUzcSHzHAzbIzIGI GUNUzKASKALzbUR",
      "zcSHU2zg PLUS KASKALzLAK-020zcMzd TIMES KURzbUH PLUS GISHzMASHzbESzbIzNIzPIzSHEzbI GUNU",
      "pE2 TIMES KURyPAPqRIN2 XqSH2 CROSSING ESH2qZEN SHESHIG TIMES ASHzjHIzjIGI GUNUzjLAzlLzjME",
      "zlSzjSUu.hTpGA2 TIMES BAHAR2zDIM GUNUzb.fUG TIMES IGIzkKASKALzERENzGAzcR PLUS DIzjNE",
      "zHA PLUS AzKUSHU2 PLUS KASKALzLAMzd TIMES KURzbUHzMUSHzNEzc PLUS E2ziGIzSHIMzZIZ2",
      "rBA ROTATED NINETY DEGREESqESHTIN TIMES UqISH TIMES GISH CROSSING GISHqU2 TIMES IGI GUNU",
      "rD PLUS GISH TIMES TAK4pHA TENU GUNUqI TIMES ASH OVER HI TIMES ASHpKA TIMES BUyKAyU U UzR",
      "pLAGAB TIMES ZU OVER ZUrK-003u21v5u30u50v1u62u79 OVER LAK-079 GUNUu80v1 OVER LAK-081u92",
      "t130u42t210v9u20v5v8u38u65v6t343v7v8u83v4u90t441v9w TIMES GUzeIGIzePAP PLUS LU3",
      "zn.dPAP PLUS zeU2 PLUS BAu50v7u70u83u90v2v3v5t550t608u17w TIMES ASHzeBADzeDUN3 GUNU GUNU",
      "zeKU3zeLAzeTARzfEzeU2zfDzfRUDAu36u48w TIMES DUBzeGAzeIGIzh GUNUzeNI",
      "zePAP PLUS PAP PLUS LU3zeSHESH PLUS KIzeUDzfRUDAt724u49qU2 GUNU TIMES ASHtTIMES DISHzHAL",
      "zPAPzd PLUS PAP PLUS LU3zTAK4pMI PLUS ZA7qUSH OVER MUSH TIMES GAzlKAK",
      "pNINDA2 TIMES DIM GUNUzdGISHzeULzdHIzdKESH2zdLAK-050zdMASHzdPAP PLUS PAPzdUze PLUS U",
      "zeRUDApSAG GUNU TIMES HAtTIMES ENzSHE AT LEFTzTAK4qHA6 TENUrE OVER SHEtPLUS HUB2yNAM2ySAR",
      "rU2 PLUS DUG TIMES NIzE2 TIMES ANqI TIMES TAK4pTAK4 PLUS SAGqUM TIMES GAN2 TENU",
      "zTHREE DISHpUR2 INVERTEDtTIMES UDrU TIMES DARA3zLAK-668zbU3pZA7qU OVER ZU PLUS SAR",
      "r5 TIMES THREE DISH TENU"]),
    (0x12f90, ["bYPRO-MINOAN SIGN CM001w2w4w5w6w7w8w9v10w1w2xBw3w5w7w9v21w3w4w5w6w7w8w9v30w3w4w5",
      "w6w7w8w9v40w1w4w6w7w9v50w1w2w3w4w5w6w8w9v60w1w2w3w4w6w7w8w9v70w1w2w3w4w5xBw6w8w9v80w1w2w3",
      "w4w5w6w7w8w9v90w1w2w4w5w6w7w8w9u100w1w2w3w4w5w7w8w9v10w2w4u301w2"]),
    (0x13000, ["aEGYPTIAN HIEROGLYPH A001x2x3x4x5yAx6yAyBx7x8x9w10x1x2x3x4yAx5x6x7yAx8x9w20x1x2",
      "x3x4x5x6x7x8x9w30x1x2yAx3x4x5x6x7x8x9w40yAx1x2yAx3yAx4x5yAx6x7x8x9w50x1x2x3x4x5x6x7x8x9",
      "w60x1x2x3x4x5x6x7x8x9w70uB001x2x3x4x5yAx6x7x8x9uC001x2yAyByCx3x4x5x6x7x8x9w10yAx1x2x3x4x5",
      "x6x7x8x9w20x1x2x3x4uD001x2x3x4x5x6x7x8yAx9w10x1x2x3x4x5x6x7x8x9w20x1x2x3x4x5x6x7yAx8x9w30",
      "x1yAx2x3x4yAx5x6x7x8x9w40x1x2x3x4x5x6yAx7x8yAx9w50yAyByCyDyEyFyGyHyIx1x2yAx3x4yAx5x6x7x8",
      "x9w60x1x2x3x4x5x6x7yAyByCyDyEyFyGyHuE001x2x3x4x5x6x7x8yAx9yAw10x1x2x3x4x5x6yAx7yAx8x9w20",
      "yAx1x2x3x4x5x6x7x8yAx9w30x1x2x3x4yAx6x7x8uF001yAx2x3x4x5x6x7x8x9w10x1x2x3yAx4x5x6x7x8x9",
      "w20x1yAx2x3x4x5x6x7x8x9w30x1yAx2x3x4x5x6x7yAx8yAx9w40x1x2x3x4x5yAx6yAx7yAx8x9w50x1yAyByC",
      "x2x3uG001x2x3x4x5x6yAx7yAyBx8x9w10x1yAx2x3x4x5x6x7x8x9w20yAx1x2x3x4x5x6yAx7x8x9w30x1x2x3",
      "x4x5x6yAx7yAx8x9w40x1x2x3yAx4x5yAx6x7x8x9w50x1x2x3x4uH001x2x3x4x5x6yAx7x8uI001x2x3x4x5yA",
      "x6x7x8x9yAw10yAx1yAx2x3x4x5uK001x2x3x4x5x6x7x8uL001x2yAx3x4x5x6yAx7x8uM001yAyBx2x3yAx4x5",
      "x6x7x8x9w10yAx1x2yAyByCyDyEyFyGyHx3x4x5yAx6yAx7yAx8x9w20x1x2yAx3x4yAx5x6x7x8yAx9w30x1yAx2",
      "x3yAyBx4x5x6x7x8x9w40yAx1x2x3x4uN001x2x3x4x5x6x7x8x9w10x1x2x3x4x5x6x7x8yAyBx9w20x1x2x3x4",
      "x5yAx6x7x8x9w30x1x2x3yAx4yAx5yAx6x7yAx8x9w40x1x2vL001y2y3y4y5zAy6y7y8y9x10y1y2y3y4y5y6y7",
      "zAy8y9x20vU001y2y3y4y5y6y7y8y9x10zAy1zAy2y3y4y5y6y7y8zAy9x20y1y2zAuO001yAx2x3x4x5yAx6yAyB",
      "yCyDyEyFx7x8x9w10yAyByCx1x2x3x4x5x6x7x8x9yAw20yAx1x2x3x4yAx5yAx6x7x8x9yAw30yAx1x2x3yAx4x5",
      "x6yAyByCyDx7x8x9w40x1x2x3x4x5x6x7x8x9w50yAyBx1uP001yAx2x3yAx4x5x6x7x8x9w10x1uQ001x2x3x4x5",
      "x6x7uR001x2yAx3yAyBx4x5x6x7x8x9w10yAx1x2x3x4x5x6yAx7x8x9w20x1x2x3x4x5x6x7x8x9uS001x2yAx3",
      "x4x5x6yAx7x8x9w10x1x2x3x4yAyBx5x6x7yAx8x9w20x1x2x3x4x5x6yAyBx7x8x9w30x1x2x3x4x5yAx6x7x8x9",
      "w40x1x2x3x4x5x6uT001x2x3yAx4x5x6x7yAx8yAx9yAw10x1yAx2x3x4x5x6yAx7x8x9w20x1x2x3x4x5x6x7x8",
      "x9w30x1x2yAx3yAx4x5x6uU001x2x3x4x5x6yAyBx7x8x9w10x1x2x3x4x5x6x7x8x9w20x1x2x3yAx4x5x6x7x8",
      "x9yAw30x1x2yAx3x4x5x6x7x8x9w40x1x2uV001yAyByCyDyEyFyGyHyIx2yAx3x4x5x6x7yAyBx8x9w10x1yAyB",
      "yCx2yAyBx3x4x5x6x7x8x9w20yAyByCyDyEyFyGyHyIyJyKyLx1x2x3yAx4x5x6x7x8yAx9yAw30yAx1yAx2x3yA",
      "x4x5x6x7yAx8x9w40yAuW001x2x3yAx4x5x6x7x8x9yAw10yAx1x2x3x4yAx5x6x7yAx8yAx9w20x1x2x3x4yAx5",
      "uX001x2x3x4yAyBx5x6yAx7x8yAuY001yAx2x3x4x5x6x7x8uZ001x2yAyByCyDx3yAyBx4yAx5yAx6x7x8x9w10",
      "x1x2x3x4x5yAyByCyDyEyFyGyHyIx6yAyByCyDyEyFyGyHuAA001y2y3y4y5y6y7zAzBy8y9x10y1y2y3y4y5y6y7",
      "y8y9x20y1y2y3y4y5y6y7y8y9x30y1y2"]),
    (0x13430, ["uVERTICAL JOINERu.jHORIZONTuINSERT AT TOP STARTzf.gBOTTOMzfTOP ENDzf.eBOTTOM",
      "uOVERLAY MIDDLEuBEGIN SEGMENTu.iEND"]),
    (0x14400, ["aANATOLIAN HIEROGLYPH A001y2y3y4y5y6y7y8y9x10zAy1y2y3y4y5y6y7y8y9x20y1y2y3y4y5y6",
      "zAy7y8y9x30y1y2y3y4y5y6y7y8y9zAx40y1zAy2y3y4y5zAy6zAzBy7y8y9x50y1y2y3y4y5y6y7y8y9x60y1y2",
      "y3y4y5y6zAzBzCy7y8y9x70y1y2y3y4y5y6y7y8y9x80y1y2y3y4y5y6y7y8y9x90y1y2y3y4y5y6y7zAy8zAy9",
      "w100zAy1zAy2zAy3y4zAzBzCy5zAzBy6y7zAzBzCy8y9x10zAzBy1y2y3y4y5zAy6y7y8y9x20y1y2y3y4y5zAy6",
      "y7y8y9x30y1y2y3y4y5zAy6y7y8y9x40y1y2y3y4y5y6y7y8y9x50y1y2y3y4y5y6y7y8y9x60y1y2y3y4y5y6y7",
      "y8y9x70y1y2y3y4y5y6y7y8y9x80y1y2y3y4y5y6y7y8y9x90y1y2y3y4y5y6y7y8y9w200y1y2zAzBy3y4y5y6y7",
      "zAy8y9zAx10y1y2y3y4y5zAy6zAy7y8y9x20y1y2y3y4y5y6y7zAy8y9x30y1y2y3y4y5y6y7y8y9x40y1y2y3y4",
      "y5y6y7y8y9x50y1y2y3y4y5y6y7y8y9x60y1y2y3y4y5y6y7zAy8y9x70y1y2y3y4y5y6y7y8y9x80y1y2y3y4y5",
      "y6y7y8y9zAx90y1y2y3y4zAy5y6y7y8y9zAw300y1y2y3y4y5y6y7y8y9zAx10y1y2y3y4y5y6y7y8y9x20y1y2y3",
      "y4y5y6y7y8y9zAx30y1y2AzBzCy3y4y5y6zAzBzCy7y8y9x40y1y2y3y4y5y6y7y8y9x50y1y2y3y4y5y6y7y8y9",
      "zAx60y1y2y3y4zAy5y6y7y8zAy9x70y1zAy2y3y4y5y6y7y8y9x80y1zAy2y3 RA OR RIzAy4y5y6zAy7y8y9x90",
      "y1y2y3 EIGHTy4y5y6y7y8y9w400y1y2y3y4y5y6y7y8y9x10 BEGIN LOGOGRAM MARKz.oA ENDy1y2y3y4y5y6",
      "y7y8y9x20y1y2y3y4y5y6y7y8y9x30y1y2y3y4y5y6y7y8y9x40y1y2y3y4y5y6y7y8y9x50zAy1y2y3y4y5y6y7",
      "zAy8y9x60y1y2y3y4y5y6y7y8y9x70y1y2y3y4y5y6y7y8y9x80y1y2y3y4y5y6y7y8y9x90y1y2y3y4y5y6y7",
      "w501y2y3y4y5y6y7y8y9x10y1y2y3y4y5y6y7y8y9x20y1y2y3y4y5y6y7y8y9x30"]),
    (0x16800, ["aBAMUM LETTER PHASE-A NGKUE MFONv.dGBIEE vPON MFON PIPAEMGBIEEzlBAvNAA MFON",
      "vSHUENSHUETvTITA MFONv.gNZvSHINDA PA NJIvPON PA NJI PIPAEMGBIEEznBAvMAEMBGBIEEvTU MAEMBA",
      "vNGANGUvMAEMVEUXxNSUAEwVEUAENGAMvSEUNYAMvNTOQPENvKEUKEUTNDAvNKINDIvSUUvNGKUENZEUMvLAPAQ",
      "wET KUTvNTAP MFAAvMAEKEUPvPASHAEvGHEUAERAEvPAMSHAEvMON NGGEUAETvNZUN MEUTvU YUQ NAE",
      "vGHEUAEGHEUAEvNTAP NTAAvSISAvMGBASAwEUNJOMNDEUQwOOMPUQvKAFAvPA LEERAEWAv.kNDvPETvMAEMKPEN",
      "vNIKAvPUPvTUAEPv.eLvSONJAMvTEUTEUWENvMAENYIvKETvNDAANGGEUAETvKUOQvMOOMEUTvSHUMvLOMMAE",
      "vFIRIvROMvKPOQvSOQvMAP PIEETvSHIRAEvNTAPvSHOQ NSHUT YUMvNYIT MONGKEUAEQvPAARAEv.fNK",
      "vUNKNOWNvNGGENvMAESIvNJAMvMBANYIvNYETvTEUAENvSOTvPAAMvNSHIEEvMAEMvNYIvKAQvNSHAvVEEvLUvNEN",
      "wAQvMBAQtB NSHUETvTU MAEMGBIEEv.dSwET TUvLOM NTEUMvMBA MAELEEvKIEEMvYEURAEv.dMBAAvKAM",
      "vPEESHIvYAFU LEERAEWAvLAM NSHUT NYAMvNTIEE SHEUOQwDU NJAAvGHEUGHEUAEMvPITvTU NSIEE",
      "vSHET NJAQyUAEQTUvMFON TEUAEQwBIT MBAAKETvNYI NTEUMvKEUPUQvGHEUGHENvKEUYEUXvLAANAEvPARUM",
      "vVEUMvNGKINDI MVOPxGEU MBUvWUAETvSAKEUAEvTAAMvMEUQvNGGUOQzc LARGEvMFIYAQvSUEvMBEURI",
      "wONTIEENvNYAEMAEvPUNGAAMvMEUT NGGEETvFEUXvMBUOQvFEEvKEUAEMvMA NJEUAENAzbUQAvLETvNGGAAM",
      "wSENvMAvKIQvNGOMtC NGKUE MAEMBAwZAvYUMvWANGKUOQvNGGENwDEUAEREEwGKAQvGHARAEvMBEEKEETvGBAYI",
      "vNYIR MKPARAQ MEUNwTU MBITvMBEUMvPIRIEENvNDOMBUvMBAA CABBAGE-TREEvKEUSHEUAEPvGHAPvKEUKAQ",
      "vYU MUOMAEvNZEUMvMBUEvNSEUAENvMBITvYEUQvKPARAQwAAvSEUXvNDIDAvTAASHAEvNJUEQvTITA YUEvSUAET",
      "vNGGUAEN NYAMvVEUXvNANSANAQvMA KEUAERIvNTAAwGGUONvLAPvMBIRIEENwGBASAQvNTEUNGBAvTEUTEUX",
      "vNGGUMvFUEvNDEUTwSAxHAQvBUNGvVEUAEPENvMBERAEvRUvNJAEMvLAMvTITUAEPvNSUOT NGOMwJEEEEvKET",
      "vNGGUvMAESIwBUAEMvLUvKUTvNJAMwGOMvWUPvNGGUEETwSOMwTENvKUOP NKAARAEvNSUNwDAMvMA NSIEEvYAA",
      "vNDAPvSHUEQwETFONvMBIwAEMBAwBANYIvKEUSEUXv.dMBvKEUMvMBAA PICKETvYUWOQvNJEUXvMIEEwUAEvSHIQ",
      "vKEN LAWzFATIGUEvNGAQwAQvLIQvPINwENvTETtD MBUOvWAPvNJIvMFONvNJIEEv.dLvNJEUTwSHEEwGGAAMAE",
      "wYAMvWUAENvNGKUNvSHEEvNGKAPvKEUAETMEUNvTEUTvSHEUAEvNJAPvSUEvKETvYAEMMAEvKUOMvSAPvMFEUT",
      "vNDEUXvMALEERIwEUTvSEUAEQvYENvNJEUAEMvKEUOT MBUAEvNGKEURIvTUvGHAAvNGKYEEvFEUFEUAETvNDEE",
      "vMGBOFUMvLEUAEPvNDONvMONIwGBEUNvPUUTvMGBIEEwFOvLUMvNSIEEPvMBAAvKWAETvNYETvTEUAENvSOT",
      "vYUWOQvKEUMvRAEMvTEEEEvNGKEUAEQvMFEUAEvNSIEETvKEUPvPIPwEUTAEvNYUEvLETvNGGAAMvMFIEE",
      "vNGGWAENvYUOMvPAPvYUOPvNDAMwTEUMvSUAEvKUNvNGGEUXxKIEEvTUOTvMEUNvKUQvNSUMvTEUNvMAENJET",
      "vNGGAPvLEUMvNGGUOMwSHUTwJUEQvGHEUAEvKUvREN OLDvTAEwOQvNYIvRIIvLEEEEv.eMvMvSUUvMUvSHIIxEUX",
      "vKYEEvNUvSHUvNTEEvPEEvNIvSHOQvPUQvMVOPvLOQvREN MUCHvTIvNTUUvMBAA SEVENvSAQvFAAtE NDAP",
      "vTOONvMBEUMvLAPvVOMvLOONvPAAvSOMvRAQvNSHUOPwDUNvPUAEvTAMvNGKAvKPEUXvWUOvSEEvNGGEUAETvPAAM",
      "vTOOvKUOPvLOMvNSHIEEwGOPvMAEMvNGKEUXxOQwSHUEvRIMGBAvNJEUXvPEEMvSAAvNGGURAEvMGBAvGHEUX",
      "vNGKEUAEMwJAEMLIvMAPvLOOTvNGGEEEEwDIQvTAEN NTEUMvSETvPUMvNDAA SOFTNESSwGGUAESHAE NYAM",
      "vYIEEvGHEUNvTUAEv.dYEvPOvTUMAEvKEUAEvSUAENvTEUAEQvVEUAEvWEUXvLAAMvPUvTAAQvGHAAMAE",
      "vNGEUREUTvSHEUAEQvMGBENwBEEvNZAQwKOMvGBETvTUMvKUETvYAPvNYI CLEAVERvYITvMFEUQvNDIAQvPIEEQ",
      "vYUEQvLEUAEMvFUEvGBEUXvNGKUPvKETvMAEvNGKAAMIvGHETvFAvNTUMvPEUTvYEUMvNGGEUAEwYI BETWEEN",
      "wZUQvPOONvMIEEvFUETvNAEvMUAEv.dGHEvFU IvMVIvPUAQvNGKUMvKUTvPIETvNTAPvYEUAETvNGGUP",
      "vPA PEOPLEvFU CALLwOMvNJEEvAvTOQvOvIvLAQvPA PLURALvTAAxQvNDAA MY HOUSEvSHIQvYEUXvNGUAE",
      "vYUAENwOQ SWIMMINGzCOVERwUQxNvKEUXv.dPvNJEE EPOCHvPUEvWUEvFEEvVEEvLUvMIvREUXwAEvNGUAETxA",
      "vSHOyQvFU REMEDYvNAvPIvLOQvKOvMENwAxQvTEUvKIvMONvTENvFAQvGHOMtF KAvUvKUvEEvREEvTAEvNYIvLA",
      "vRIIxEEvMEEEEvTAAvNDAAwJAEMvMvSUUwHIIwIwEUXvKYEEwETvNUAEwUwJUAEvYOQvSHUvYAvNSHAvPEUXvNTEE",
      "vWUEvPEEvRUvNIvREUXvKENvNGKWAENxGAvSHOvPUAEvFOMvWAvLIwOQvKOvMBENvRENvMAwOwBAAvTETvKPA",
      "vSAMBAvVUEQ"]),
    (0x16a40, ["aMRO LETTER TAlNGIlYOlMIMlBAlDAlAlPHIlKHAIlHAOlDAIlCHUlKEAAElOLlMAEMlNINlPAlOOlO",
      "lROlSHIlTHEAlEAlWAlElKOlLANmAlHAIlRIlTEK"]),
    (0x16a60, ["eDIGIT ZEROkONEkTWOlHREEkFOURlIVEkSIXlEVENkEIGHTkNINE"]),
    (0x16a6e, ["fANDAf.eOUBLE DaTANGSA LETTER OZpCpQpXoAZpCpQpXoVZpCpQpXoEZpCpQpXoIZpCpQpXoUZpC",
      "pQpXoAWZqCqQqXoUIZqCqQqXoFINAL NGoLONG UEXoSHORT UEZuAWXoUECqZqQqXpIUZrCrQrXoMZpCpQpXoKA",
      "pHAoGAoNGAoSAoYAoWAoPAoNYAoPHAoBAoMAoNAoHAoLAoHTAoTAoDAoRAoNHAoSHAoCAoTSAoGHAoHTTAoTHAoXA",
      "oFAoDHAoCHAoZA"]),
    (0x16ac0, ["hDIGIT ZEROnONEnTWOoHREEnFOURoIVEnSIXoEVENnEIGHTnNINE"]),
    (0x16ad0, ["aBASSA VAH LETTER ENNIrKArSErFArMBErYIErGAHrDHIIrKPAHrJOrHWAHrWArZOrGBUrDOrCE",
      "rUWUrTOrBArVUrYEINrPArWADDArArOsOrUrEErErI"]),
    (0x16af0, ["kCOMBINING HIGH TONEu.fLOWu.fMIDu.iLOW-u.fHIGH-LOWkFULL STOP"]),
    (0x16b00, ["aPAHAWH HMONG VOWEL KEEBwVuIBvVuAUBwVuUBvVuEBvVuAIBwVuOOBwVuAWBwVuUABwVuOBvVuIAB",
      "wVuABvVuWBvVuAABwVnCONSONANT VAUxNTSAUxLAUxHAUxNLAUxRAUxNKAUxQHAUxYAUxHLAUxMAUxCHAUx.eN",
      "xHNAUxPLHAUx.dNTyAUxAUxXAUxCAUnMARK CIM TUBwSOwKESxHAVwSUAMwHOMwTAUMnSIGN VOS THOM",
      "xSHAB CEEBsCIM CHEEMsVOS THIABwFEEMsXYEEM NTXIVyRHOyTOVyFAIBsVOS SEEVsMEEJ SUABsVOS NRUA",
      "sIB YAMsXAUSsCIM TSOV ROG"]),
    (0x16b50, ["nDIGIT ZEROtONEtTWOuHREEtFOURuIVEtSIXuEVENtEIGHTtNINE"]),
    (0x16b5b, ["nNUMBER TENSuHUNDREDSuTEN THOUSANDSuMILLIONSu.iHUNDRED u.hTEN Bv.hR"]),
    (0x16b63, ["nSIGN VOS LUBsXYOOsHLIs.dTHIRD-STAGE sZWJ THAJsHNUBsNQIGsXIABsNTUJsAV",
      "sTXHEEJ CEEVsMEEJ TSEEBsTAUsLOSsMUSsCIM HAIS LUS NTOG NTOGwCUAM TSHOOJwTXWVzb CHWV",
      "wPUB DAWBwNRES TOS"]),
    (0x16b7d, ["nCLAN SIGN TSHEEJxYEEGxLISyAUJxXYOOJxKOOxHAWJxMUASxTHOJySABxPHABx.dKxHAMxVAJxFAJ",
      "xYAJxTSWBxKWMxVWJ"]),
    (0x16e40, ["aMEDEFAIDRIN CAPITAL LETTER MzcSzcVzcWzcATIUzcZzcKPzcPzcTzcGzcFzcIzcKzcAzcJzcE",
      "zcBzcCzcUzcYUzcLzcQzcHPzcNYzcXzcDzcOEzcNzcRzcOzcAIzcYmSMALL LETTER MzSzVzWzATIUzZzKPzPzT",
      "zGzFzIzKzAzJzEzBzCzUzYUzLzQzHPzNYzXzDzOEzNzRzOzAIzYmDIGIT ZEROsONEsTWOtHREEsFOURtIVEsSIX",
      "tEVENsEIGHTsNINEmNUMBER TENtELEVENtTWELVEuHIRTEENt.fFOUu.eIFt.eSIXu.eEVENt.eEIGHt.eNINE",
      "mDIGIT ONE ALTERNATE FORMs.pTWOt.pHREEmCOMMAmFULL STOPmSYMBOL AIVAmEXCLAMATION OH"]),
    (0x16f00, ["bIAO LETTER PAmBAmYI PAmPLAmMAnHAmARCHAIC MAmFAmVAnFAmTAmDAmYI TTAqAmTTAmDDAmNA",
      "nHAmYI NNAmARCHAIC NAmNNAoHAmLAnYAnHAoYAmTLHAm.dDmTLHYAm.eDmKAmGAmYI KAmQAnGAmNGAoHA",
      "mARCHAIC NGAmHAmXAmGHAoHAmTSSAmDZZAmNYAoHAmTSHAmDZHAmYI TSHApDZHAmREFORMED TSHAmSHAnSA",
      "mZHAnSHAmTSAmDZAmYI TSAmSAmZAnSAnZAoSAmARCHAIC ZZAmZZYAoSYAmWAmAHmHHAmBRImSYImDZYImTEnSE",
      "mRTE"]),
    (0x16f4f, ["fSIGN CONSONANT MODIFIER BARfLETTER NASALIZATIONf.fSIGN ASPIRkREFORMED VOICING",
      "tASPIRATIONfVOWEL SIGN ArArHHrNsGqOrOqWOqWqErNsGqOEYqIrAsNtGrOrErIrUrNGqUrAsNtGrUrEIrNGqY",
      "rIqAEsEqERRq.dROUNDED qERqROUNDED ERqAIqEIqAUqOUqNrGqUOGqYUIqOGrERqVWqIGqEAqIONGqUI"]),
    (0x16f8f, ["fTONE RIGHTk.fTOP kABOVEkBELOWfLETTER TONE-2r3r4r5r6r7r8mREFORMED TONE-1zb2zb4",
      "zb5zb6zb8"]),
    (0x16fe0, ["aTANGUT ITERATION MARKa.pNUSHUa.fOLD CHINESE HOOKm.fITERATION",
      "aKHITAN SMALL SCRIPT FILLER"]),
    (0x16ff0, ["aVIETNAMESE ALTERNATE READING MARK CAzjNHAY"]),
    (0x18800, ["aTANGUT COMPONENT-001t2t3t4t5t6t7t8t9s10t1t2t3t4t5t6t7t8t9s20t1t2t3t4t5t6t7t8t9",
      "s30t1t2t3t4t5t6t7t8t9s40t1t2t3t4t5t6t7t8t9s50t1t2t3t4t5t6t7t8t9s60t1t2t3t4t5t6t7t8t9s70t1",
      "t2t3t4t5t6t7t8t9s80t1t2t3t4t5t6t7t8t9s90t1t2t3t4t5t6t7t8t9r100t1t2t3t4t5t6t7t8t9s10t1t2t3",
      "t4t5t6t7t8t9s20t1t2t3t4t5t6t7t8t9s30t1t2t3t4t5t6t7t8t9s40t1t2t3t4t5t6t7t8t9s50t1t2t3t4t5",
      "t6t7t8t9s60t1t2t3t4t5t6t7t8t9s70t1t2t3t4t5t6t7t8t9s80t1t2t3t4t5t6t7t8t9s90t1t2t3t4t5t6t7",
      "t8t9r200t1t2t3t4t5t6t7t8t9s10t1t2t3t4t5t6t7t8t9s20t1t2t3t4t5t6t7t8t9s30t1t2t3t4t5t6t7t8t9",
      "s40t1t2t3t4t5t6t7t8t9s50t1t2t3t4t5t6t7t8t9s60t1t2t3t4t5t6t7t8t9s70t1t2t3t4t5t6t7t8t9s80t1",
      "t2t3t4t5t6t7t8t9s90t1t2t3t4t5t6t7t8t9r300t1t2t3t4t5t6t7t8t9s10t1t2t3t4t5t6t7t8t9s20t1t2t3",
      "t4t5t6t7t8t9s30t1t2t3t4t5t6t7t8t9s40t1t2t3t4t5t6t7t8t9s50t1t2t3t4t5t6t7t8t9s60t1t2t3t4t5",
      "t6t7t8t9s70t1t2t3t4t5t6t7t8t9s80t1t2t3t4t5t6t7t8t9s90t1t2t3t4t5t6t7t8t9r400t1t2t3t4t5t6t7",
      "t8t9s10t1t2t3t4t5t6t7t8t9s20t1t2t3t4t5t6t7t8t9s30t1t2t3t4t5t6t7t8t9s40t1t2t3t4t5t6t7t8t9",
      "s50t1t2t3t4t5t6t7t8t9s60t1t2t3t4t5t6t7t8t9s70t1t2t3t4t5t6t7t8t9s80t1t2t3t4t5t6t7t8t9s90t1",
      "t2t3t4t5t6t7t8t9r500t1t2t3t4t5t6t7t8t9s10t1t2t3t4t5t6t7t8t9s20t1t2t3t4t5t6t7t8t9s30t1t2t3",
      "t4t5t6t7t8t9s40t1t2t3t4t5t6t7t8t9s50t1t2t3t4t5t6t7t8t9s60t1t2t3t4t5t6t7t8t9s70t1t2t3t4t5",
      "t6t7t8t9s80t1t2t3t4t5t6t7t8t9s90t1t2t3t4t5t6t7t8t9r600t1t2t3t4t5t6t7t8t9s10t1t2t3t4t5t6t7",
      "t8t9s20t1t2t3t4t5t6t7t8t9s30t1t2t3t4t5t6t7t8t9s40t1t2t3t4t5t6t7t8t9s50t1t2t3t4t5t6t7t8t9",
      "s60t1t2t3t4t5t6t7t8t9s70t1t2t3t4t5t6t7t8t9s80t1t2t3t4t5t6t7t8t9s90t1t2t3t4t5t6t7t8t9r700",
      "t1t2t3t4t5t6t7t8t9s10t1t2t3t4t5t6t7t8t9s20t1t2t3t4t5t6t7t8t9s30t1t2t3t4t5t6t7t8t9s40t1t2",
      "t3t4t5t6t7t8t9s50t1t2t3t4t5t6t7t8t9s60t1t2t3t4t5t6t7t8"]),
    (0x1aff0, ["aKATAKANA LETTER MINNAN TONE-2zd3zd4zd5"]),
    (0x1aff5, ["zd7zd8xNASALIZED TONE-1zn2zn3zn4zn5"]), (0x1affd, ["zn7zn8"]),
    (0x1b000, ["qARCHAIC EaHIRAGANA LETTER ARCHAIC YEbENTAIGANA LETTER A-1u2u3uWOsI-1u2u3u4sU-1",
      "u2u3u4u5sE-2u3u4u5u6sO-1u2u3sKA-1v2v3v4v5v6v7v8v9v10w1vKEtI-1v2v3v4v5v6v7v8tU-1v2v3v4v5v6",
      "v7tE-1v2v3v4v5v6tO-1v2v3vKIsSA-1v2v3v4v5v6v7v8tI-1v2v3v4v5v6tU-1v2v3v4v5v6v7v8tE-1v2v3v4",
      "v5tO-1v2v3v4v5v6v7sTA-1v2v3v4tI-1v2v3v4v5v6v7tU-1v2v3v4vTOtE-1v2v3v4v5v6v7v8v9tO-1v2v3v4",
      "v5v6vRAsNA-1v2v3v4v5v6v7v8v9tI-1v2v3v4v5v6v7vTEtU-1v2v3tE-1v2v3v4v5v6vKOtO-1v2v3v4v5sHA-1",
      "v2v3v4v5v6v7v8v9v10w1tI-1v2v3v4v5v6v7tU-1v2v3tE-1v2v3v4v5v6v7tO-1v2v3v4v5v6v7v8sMA-1v2v3",
      "v4v5v6v7tI-1v2v3v4v5v6v7tU-1v2v3v4tE-1v2vMAtO-1v2v3v4v5v6sYA-1v2v3v4v5vYOtU-1v2v3v4tO-1v2",
      "v3v4v5v6sRA-1v2v3v4tI-1v2v3v4v5v6v7tU-1v2v3v4v5v6tE-1v2v3v4tO-1v2v3v4v5v6sWA-1v2v3v4v5",
      "tI-1v2v3v4v5tE-1v2v3v4tO-1v2v3v4v5v6v7sN-MU-MO-1zb2bIRAGANA LETTER ARCHAIC WU",
      "aKATAKANA LETTER ARCHAIC YIzEyWU"]),
    (0x1b150, ["aHIRAGANA LETTER SMALL WIxExO"]), (0x1b164, ["aKATAKANA LETTER SMALL WIxExOwN"]),
    (0x1bc00, ["aDUPLOYAN LETTER HqXqPqTqFqKqLqBqDqVqGqRqP NqD SqF NqK MqR SqTHqSLOAN DHqDHqKK",
      "qSLOAN JqHLqLHqRHqMqNqJqSqM NqN MqJ MqS JqM WITH DOTq.jNq.jJzbS INSIDE AND ABOVE",
      "qS WITH DOTzb BELOWqM SqN SqJ SqS SqM N SqN M Sq.eJqS J SqJ S WITH DOTsNt SqS Tt RsPt R",
      "qT SsR SqWrHr RqS NsMqK R Sq.eGqS Kt RqAqSLOAN OWqOAqOqAOUqIqEqIEqSHORT IqUIqEEqSLOAN EH",
      "qROMANIAN IqSLOAN EEqLONG IqYEqUqEUqXWqU NqLONG UqROMANIAN UqUHqSLOAN UqOOHrWrUqWArOrIrEI",
      "rOWqNASAL UwOwIwAqPERNIN ANyMqSLOAN ENwANwONqVOCALIC M"]),
    (0x1bc70, ["jAFFIX LEFT HORIZONTAL SECANTp.sMIDp.sRIGHTp.jLOW VERTICp.qMIDp.qHIGHp.hATTACHED",
      "y.gLEFT-TO-RIGHT yTANGENTzbILyE HOOKy.fIy.fTANGENT"]),
    (0x1bc80, ["pHIGH ACUTEu.fTIGHT uGRAVEu.fLONG uDOTuCIRCLEuLINEuWAVEuVERTICAL"]),
    (0x1bc90, ["pLOW ACUTEt.fTIGHT tGRAVEt.fLONG tDOTtCIRCLEtLINEtWAVEtVERTICALtARROW"]),
    (0x1bc9c, ["jSIGN O WITH CROSSjTHICK LETTER SELECTORjDOUBLE MARK",
      "jPUNCTUATION CHINOOK FULL STOPaSHORTHAND FORMAT LETTER OVERLAPr.iCONTINUINGrDOWN STEP",
      "r.fUP"]),
    (0x1cf00, ["aZNAMENNY COMBINING MARK GORAZDO NIZKO S KRYZHEM ON LEFTy.wNy.iTSATA",
      "y.iGORAZDO NIZKOy.mNy.iSREDNEy.jMALO POVYSHy.oPy.iVYSOKOy.iMALO POVYSHE S KHOKHLOMy.zP",
      "y.tVYSOKOyGORAZDO NIZKO S KRYZHEM ON RIGHTy.xNy.jTSATAy.jGORAZDO NIZKOy.nNy.jSREDNE",
      "y.kMALO POVYSHy.pPy.jVYSOKOy.jMALO POVYSHE S KHOKHLOMy.zbPy.uVYSOKOyTSATA S KRYZHEM",
      "y.kMALO POVYSHEySTRANNO MALO POVYSHEyPOVYSHE S KRYZHEMziTRANNOyVYSOKO S KRYZHEM",
      "yMALO POVYSHE STRANNOyGORAZDO VYSOKOyZELOyONyRAVNOyTIKHAYAy.dBORZyUDARKAyPODVERTKAyLOMKA",
      "yKUPNAYAzACHKAyZEVOKySKOBAyRAZSEKAyKRYZH ON LEFT"]),
    (0x1cf30, ["tTONAL RANGE MARK MRACHNOzlSVETLOzl.gTREtMARK ZADERZHKAy.jDEMESTVENNY y.dOTSEC",
      "yPODCHASHIEzj WITH VERTICAL STROKEyCHASHKAzg POLNAYAyOBLACHKOySOROCHYA NOZHKAy.dTOC",
      "yDVOETOCHIEtATTACHING VERTICAL OMETt.fMARK CURVEDyKRYZHtLOWER TONAL RANGE INDICATOR",
      "jPRIZNAK MODIFIER LEVEL-2zh3zbDIRECTION FLIPzbKRYZHzbROG"]),
    (0x1cf50, ["jNEUME KRYUKu TIKHYpPARAKLITpDVA V CHELNUpKLYUCHpZANOZHEKpSTOPITSAx S OCHKOM",
      "pPEREVODKAy NEPOSTOYANNAYApSTOPITSA WITH SOROCHYA NOZHKApCHELYUSTKApPALKApZAPYATAYA",
      "pGOLUBCHIK BORZYzTIKHYzMRACHNYzSVETLYz.gTREpVRAKHIYA PROSTAYAy.dMRACHNy.dSVETLy.iTRE",
      "y.dKLYUCHEVAYA PROSTzl.dMRACHNzl.dSVETLzl.iTREp.dDOUBLE ZAPYATpREVERSED CHELYUSTKA",
      "pDERBITSApKHAMILOpCHASHKApPODCHASHIEpSKAMEYTSA MRACHNAYAz.dSVETLz.iTREzb.dIKH",
      "pDEMESTVENNY KLYUCHpSKAMEYTSA KLYUCHEVAYA SVETLAYAzh.dNEPOSTOYANNzh.dVAYA TIKH",
      "z.dDVOECHELNAYA PROSTzn.dSVETLzn.dNEPOSTOYANNzn.dKLYUCHEVqLOZHITIEy S ZAPYATOYzZAKRYTOE",
      "zS KRYZHEMpKRYZHpROGpFITApKOBYLApZMEYTSApSTATYAv S ZAPYATOYyKRYZHEMy.hZAPYATOY I ",
      "yKRYZHEM I ZAPYATOYwZAKRYTAYAzg S ZAPYATOYwS ROGOMyDVUMYA ZAPYATYMI",
      "yZAPYATOY I PODCHASHIEMpPOLKULIZMYpSTATYA NEPOSTOYANNAYAr.dRELA PROSTw.dMRACHNOTIKH",
      "w.dKRYZHEVw.dPOLUPOVODNy.gVw.eNEPOSTOYANw.eKLYUCHEPOVODze.eNEPOSTOYANw.eTIKHAYA PUT",
      "w.eDVOECHELzg.dOKRYZHEVzh.dPOVODNzg.dAYA KLYUCHEVzg.pOPOVODN",
      "w.dGROMNAYA WITH SINGLE ZAPYATzb.zbOPOVODzb.dNzb.eOPOVODzl WITH DOUBLE ZAPYATAYA",
      "zc.dKRYZHEVzm POVODNAYApMECHIKv POVODNYwKLYUCHEVOYzePOVODNYzeNEPOSTOYANNY",
      "pSTRELA TRYASOGLASNAYAzd.ePOVODzd.eSTRELpOSOKAu SVETLAYAv.iTREv.iKRYUKOVAYA w.nLYUCHE",
      "zi.dNEPOSTOYANNp.dSTRELA KRYUKOVzh POVODNAYAzi.dGROMNAYA WITH SINGLE ZAPYATzm.zbOPOVOD",
      "zm.dNzm.eOPOVODzw WITH DOUBLE ZAPYATAYAzn.dKRYZHEVzx POVODNAYAziTRYASKApKUFISMApOBLAKO",
      "pDUDApNEMKApPAUK"])]

/-- Names from U+1D000 on. -/
def namesFrom1d000 : List (Nat × List String) := [
    (0x1d000, ["aBYZANTINE MUSICAL SYMBOL PSILIzDASEIAzPERISPOMENIzOXEIA EKFONITIKONzgDIPLI",
      "zVAREIA EKFONITIKONzhDIPLIzKATHISTIzSYRMATIKIz.ePARAKLIzYPOKRISISzj DIPLIzKREMASTI",
      "zAPESO EKFONITIKONz.nEXzTELEIAzKENTIMATAzAPOSTROFOSzk DIPLIzSYNEVMAzTHITAzOLIGON ARCHAION",
      "z.mGORzPSILONz.eCHAMzVATHYzISON ARCHAIONz.jKENTIMAzh.jTAzSAXIMATAzPARICHON",
      "zSTAVROS APODEXIAzOXEIAI ARCHAIONz.nVARz.jAPODERMAzdTHEMAzKLASMAzREVMAzPIASMA ARCHAION",
      "zTINAGMAzANATRICHISMAz.eSEzbYNAGMA ARCHAIONziMETA STAVROUzOYRANISMA ARCHAIONzTHEMAzLEMOI",
      "zDYOzTRIAzbESSERAzKRATIMATAzAPESO EXO NEOzFTHORA ARCHAIONzIMIFTHORAzTROMIKON ARCHAION",
      "zKATAVA TROMIKONzPELASTONzb.eSIFIzKONTEVMAzCHOREVMA ARCHAIONzRAPISMAzPARAKALESMA ARCHAION",
      "zf.jLITIKIzICHADINzNANAzPETASMAzKONTEVMA ALLOz.fTROMIKONzSTRAGGISMATAz.gGRONTHzISON NEO",
      "z.gOLIGzb.eXEIAzPETASTIzKOUFISMAz.iPETASTOz.jKRATIMzPELASTON NEOzKENTIMATA NEO ANOzh.h ",
      "zYPSILIzAPOSTROFOS NEOzj.fI SYNDESMOzYPORROIzKRATIMOYPORROONzELAFRONzCHAMILIzMIKRON ISON",
      "zVAREIA NEOz.fPIASMzb.eSIFISTONzOMALONzANTIKENOMAzLYGISMAzPARAKLITIKI NEOzf.eALESMA",
      "zETERON PARAKALESMAz.dKYLIz.hANTIKENOzTROMIKON NEOzEKSTREPTONzSYNAGMA NEOzcRMA",
      "zCHOREVMA NEOzEPEGERMAzSEISMA NEOzXIRON KLASMAzTROMIKOPSIFISTONzPSIFISTOLYGISMAz.iTROMIK",
      "zh.dPARAKALEz.mPSIFISTzTROMIKOSYNAGMAz.iPSIFISTzGORGOSYNTHETONz.mAz.nETERON ",
      "zOYRANISMA NEOzTHEMATISMOS ESOznXOzf APLOUNzdS KAI APOTHESzKATAVASMAzENDOFONONzYFEN KATO",
      "zfANOzSTAVROSzKLASMA ANOzDIPLI ARCHAIONz.jKRATIMAzjLLOziNEOz.gAPODERzcLIz.dDIz.eTR",
      "zb.dETRAzKORONISzLEIMMA ENOS CHRONOUzhDYO CHRONONzh.iTRIONzi.kESSARzhIMISEOS CHRONOU",
      "zGORGON NEO ANOzhPARESTIGMENON ARISTERAzvDEXIAzDIGORGONzi PARESTIGMENON ARISTERA KATO",
      "zzhANOzxDEXIAzTRIGORGONz.eAz.fIMIDIz.gDzAGOGI POLI ARGIzgARGOTERIzjIzgMETRIAziSIzgGORGI",
      "zkOTERIzgPOLI GORGIzMARTYRIA PROTOS ICHOSzj.mALLI zj.iDEYTERzj.oALLI zj.iTRITzmFONIAS",
      "zkETARTOS ICHOSzs.fLEGETOS zj.mLzj.iPLAGIzISAKIA TELOUS ICHIMATOSz.rAPOSTROFOI",
      "zFANEROSIS TETRAFONIASzk.gMONOzk.gDIzMARTYRIA VARYS ICHOSzj.lPROTOzk.hLAGIOS TETARTO",
      "zGORTHMIKON N APLOUNzn.fDIzENARXIS KAI FTHORA VOUzIMIFONONzeTHORON",
      "zFTHORA ARCHAION DEYTEROU ICHOUzhDIATONIKI PAzrNANAzhNAOS ICHOSzhDIATONIKI DI",
      "zh.dSKLIRON DIATONONzhDIATONIKI KEzrZOzrNI KATOzuANOzhMALAKON CHROMA DIFONIASzw.gMONO",
      "zbHTORA SKLIRON CHROMA VASISzbTHORA SKLIRON CHROMA SYNAFIzhNENANOzCHROA ZYGOSzgKLITON",
      "zgSPATHIzFTHORA I YFESIS TETARTIMORIONzhENARMONIOS ANTIFONIAzYFESIS TRITIMORIONz.qDI",
      "zi.iETARzhAPLI DYO DODEKATAzh.jMONOGRAMMOS TESSERAzh.jDIGRAMMOS EXzh.jTRIGRAMMOS OKTO",
      "z.kYFESIS APLI DYzh.jMONOGRAMMOS TESSERAzh.jDIGRAMMOS EXzh.jTRIGRAMMOS OKTOzGENIKI DIESIS",
      "zh.eYFzDIASTOLI APLI MIKRIzpEGALIzjDIPLIzjTHESEOSz.iSIMANSISzq DISIMOUzr.gTRzs.fETRA",
      "zjARSEOSzp DISIMOUzq.gTRzr.fETRAzDIGRAMMA GGzcFTOGGOS OUzSTIGMAzARKTIKO PAziVOUziGAziDI",
      "ziKEziZOziNIzKENTIMATA NEO MESOzh.i zhTA NEO KATOzh.i zb.fLASMAz.fGORGON NEO"]),
    (0x1d100, ["aMUSICAL SYMBOL SINGLE BARLINEp.kDOUBp.iFINALp.nREVERSE p.iDASHEDp.iSHORT",
      "pLEFT REPEAT SIGNp.nRIGHqEPEAT DOTSpDAL SEGNOr CAPOpSEGNOpCODApREPEATED FIGURE-1zg2zg3",
      "pFERMATAw BELOWpBREATH MARKpCAESURApBRACEtKETpONE-LINE STAFFp.lTWOq.lHREEp.lFOURq.lIVE",
      "p.lSIXtSTRING FRETBOARDp.rFOURpG CLEFv OTTAVA ALTAzeBASSApC CLEFp.fFv OTTAVA ALTAzeBASSA",
      "pDRUM CLEF-1z2"]),
    (0x1d129, ["pMULTIPLE MEASURE RESTpDOUBLE SHARPwFLATpFLAT UPuDOWNpNATURAL UPxDOWNpSHARP UP",
      "vDOWNpQUARTER TONE SHARPzdFLATpCOMMON TIMEq.fUTpOTTAVA ALTAwBASSApQUINDICESIMA ALTA",
      "zdBASSApMULTI RESTp.fWHOLEp.fHALFp.fQUARTERp.fEIGHTHp.hSIXTEENp.fTHIRTY-SECOND",
      "p.fSIXTY-FOURTHp.hONE HUNDRED TWENTY-EIGHpX NOTEHEADp.jPLUSp.jCIRCLE X",
      "pSQUARE NOTEHEAD WHITEzgBLACKpTRIANGLE NOTEHEAD UP WHITEzlBLACKziLEFT WHITEznBLACK",
      "ziRIGHT WHITEzoBLACKziDOWN WHITEznBLACKziUP RIGHT WHITEzrBLACKpMOON NOTEHEAD WHITEzeBLACK",
      "pTRIANGLE-ROUND NOTEHEAD DOWN WHITEztBLACKpPARENTHESIS NOTEHEADp.jVOIDpNOTEHEAD BLACK",
      "qULL NOTEHEADpCLUSTER NOTEHEAD WHITEzhBLACKpBREVEpWHOLE NOTEp.fHALFp.fQUARTERp.fEIGHTH",
      "p.hSIXTEENp.fTHIRTY-SECONDp.fSIXTY-FOURTHp.hONE HUNDRED TWENTY-EIGHpCOMBINING STEM",
      "zb.dPRECHGESANG SzTREMOLO-1zi2zi3pFINGERED TREMOLO-1zh2zh3pCOMBINING AUGMENTATION DOT",
      "zFLAG-1zf2zf3zf4zf5pBEGIN BEAMp.fENDpBEGIN TIEp.eENDpBEGIN SLURp.fENDpBEGIN PHRASEp.hEND",
      "pCOMBINING ACCENTzSTACCATOzTENUTOzSTACCATISSIMOzMARCATOzh-STACCATOz.jACCENTzLOURE",
      "pARPEGGIATO UPzbDOWNpCOMBINING DOITzRIPzFLIPzSMEARzBENDzDOUBLE TONGUEz.jTRIPpRINFORZANDO",
      "pSUBITOpZpPIANOpMEZZOpFORTEpCRESCENDOp.jDEpGRACE NOTE SLASHzb.fNO pTRqURNp.eINVERTED ",
      "pTURN SLASHuUPpORNAMENT STROKE-1zg2zg3zg4zg5zg6zg7zg8zg9zg10zh1pHAUPTSTIMMEp.gNEBEN",
      "p.gEND OF pDEGREE SLASHpCOMBINING DOWN BOWz.eUPzHARMONICzSNAP PIZZICATOpPEDAL MARKv.eUP ",
      "p.fHALF PEDALpGLISSANDO UPzDOWNpWITH FINGERNAILSpDAMPt ALLpMAXIMApLONGApBREVIS",
      "pSEMIBREVIS WHITEzbBLACKpMINIMAv BLACKpSEMIMINIMA WHITEzbBLACKpFUSA WHITEuBLACK",
      "pLONGA PERFECTA RESTv.nIMp.fBREVISp.lSEMIp.fMINIMAp.lSEMI",
      "pTEMPUS PERFECTUM CUM PROLATIONE PERFECTAzw.iIMzwPERFECTA DIMINUTION-1",
      "wIMPERFECTUM CUM PROLATIONE PERFECTAzy.iIMzzj DIMINUTION-1zzv2zzv3pCROIXpGREGORIAN C CLEF",
      "z.fFpSQUARE BpVIRGApPODATUSpCLIVISpSCANDICUSp.dCLIMApTORCULUSpPORRECTUSy FLEXUSp.jSCANDIC",
      "pTORCULUS RESUPINUSpPES SUBPUNCTISpKIEVAN C CLEFwEND OF PIECEwFINAL NOTEwRECITATIVE MARK",
      "wWHOLE NOTEw.fHALFwQUARTER NOTE STEM DOWNzpUPwEIGHTH NOTE STEM DOWNzoUPwFLAT SIGNpSORI",
      "pKORON"]),
    (0x1d200, ["aGREEK VOCAL NOTATION SYMBOL-1zd2zd3zd4zd5zd6zd7zd8zd9zd10ze1ze2ze3ze4ze5ze6ze7",
      "ze8ze9zd20ze1ze2ze3ze4zd50ze1ze2ze3ze4gINSTRUMENTAL NOTATION SYMBOL-1zk2zk4zk5zk7zk8zk11",
      "zl2zl3zl4zl7zl8zl9zk23zl4zl5zl6zl7zl9zk30zl2zl6zl7zl8zl9zk40zl2zl3zl5zl7zl8zl9zk50zl1zl2",
      "zl3zl4aCOMBINING GREEK MUSICAL TRISEMEz.eETRAy.fPENTaGREEK MUSICAL LEIMMA"]),
    (0x1d2e0, ["aMAYAN NUMERAL ZEROoONEoTWOpHREEoFOURpIVEoSIXpEVENoEIGHToNINEoTENoELEVENoTWELVE",
      "pHIRTEENo.fFOUp.eIFo.eSIXp.eEVENo.eEIGHo.eNINE"]),
    (0x1d300, ["bONOGRAM FOR EARTHa.gDIGRAM FOR HEAVENLYm.gUMANlEARTHLY HEAVENuUMANpH",
      "aTETRAGRAM FOR CENTREoFULL CIRCLEoMIREDoBARRIERoKEEPING SMALLoCONTRARIETYoASCENT",
      "oOPPOSITIONoBRANCHING OUToDEFECTIVENESS OR DISTORTIONpIVERGENCEoYOUTHFULNESSoINCREASE",
      "oPENETRATIONoREACHoCONTACToHOLDING BACKoWAITINGo.dFOLLOWoADVANCEoRELEASEqSISTANCEoEASE",
      "oJOYoCONTENTIONoENDEAVOURoDUTIESoCHANGEoDECISIVENESSoBOLD RESOLUTIONoPACKINGoLEGION",
      "oCLOSENESSoKINSHIPoGATHERINGoSTRENGTHoPURITYoFULLNESSoRESIDENCEoLAW OR MODELoRESPONSE",
      "oGOING TO MEEToENCOUNTERSoSTOVEoGREATNESSoENLARGEMENToPATTERNoRITUALoFLIGHT",
      "oVASTNESS OR WASTINGoCONSTANCYoMEASUREoETERNITYo.eUoDIMINISHMENToCLOSED MOUTHoGUARDEDNESS",
      "pATHERING INoMASSINGoACCUMULATIONoEMBELLISHMENToDOUBToWATCHoSINKINGoINNERoDEPARTURE",
      "pARKENINGp.dIMMoEXHAUSTIONoSEVERANCEpTOPPAGEoHARDNESSoCOMPLETIONpLOSUREo.dFAIL",
      "oAGGRAVATIONoCOMPLIANCEoON THE VERGEoDIFFICULTIESoLABOURINGo.eFOSTE"]),
    (0x1d360, ["aCOUNTING ROD UNIT DIGIT ONEyTWOzHREEyFOURzIVEySIXzEVENyEIGHTyNINE",
      "nTENS DIGIT ONEyTWOzHREEyFOURzIVEySIXzEVENyEIGHTyNINEaIDEOGRAPHIC TALLY MARK ONExTWOyHREE",
      "xFOURyIVEaTALLY MARK ONElFIVE"]),
    (0x1d400, ["aMATHEMATICAL BOLD CAPITAL AzbBzbCzbDzbEzbFzbGzbHzbIzbJzbKzbLzbMzbNzbOzbPzbQzbR",
      "zbSzbTzbUzbVzbWzbXzbYzbZsSMALL AyByCyDyEyFyGyHyIyJyKyLyMyNyOyPyQyRySyTyUyVyWyXyYyZ",
      "nITALIC CAPITAL AzdBzdCzdDzdEzdFzdGzdHzdIzdJzdKzdLzdMzdNzdOzdPzdQzdRzdSzdTzdUzdVzdWzdXzdY",
      "zdZuSMALL AzbBzbCzbDzbEzbFzbG"]),
    (0x1d456, ["zbIzbJzbKzbLzbMzbNzbOzbPzbQzbRzbSzbTzbUzbVzbWzbXzbYzbZnBOLD ITALIC CAPITAL AziB",
      "ziCziDziEziFziGziHziIziJziKziLziMziNziOziPziQziRziSziTziUziVziWziXziYziZzSMALL AzgBzgCzgD",
      "zgEzgFzgGzgHzgIzgJzgKzgLzgMzgNzgOzgPzgQzgRzgSzgTzgUzgVzgWzgXzgYzgZnSCRIPT CAPITAL A"]),
    (0x1d49e, ["zdCzdD"]), (0x1d4a2, ["zdG"]), (0x1d4a5, ["zdJzdK"]), (0x1d4a9, ["zdNzdOzdPzdQ"]),
    (0x1d4ae, ["zdSzdTzdUzdVzdWzdXzdYzdZuSMALL AzbBzbCzbD"]), (0x1d4bb, ["zbF"]),
    (0x1d4bd, ["zbHzbIzbJzbKzbLzbMzbN"]),
    (0x1d4c5, ["zbPzbQzbRzbSzbTzbUzbVzbWzbXzbYzbZnBOLD SCRIPT CAPITAL AziBziCziDziEziFziGziHziI",
      "ziJziKziLziMziNziOziPziQziRziSziTziUziVziWziXziYziZzSMALL AzgBzgCzgDzgEzgFzgGzgHzgIzgJzgK",
      "zgLzgMzgNzgOzgPzgQzgRzgSzgTzgUzgVzgWzgXzgYzgZnFRAKTUR CAPITAL AzeB"]),
    (0x1d507, ["zeDzeEzeFzeG"]), (0x1d50d, ["zeJzeKzeLzeMzeNzeOzePzeQ"]),
    (0x1d516, ["zeSzeTzeUzeVzeWzeXzeY"]),
    (0x1d51e, ["vSMALL AzcBzcCzcDzcEzcFzcGzcHzcIzcJzcKzcLzcMzcNzcOzcPzcQzcRzcSzcTzcUzcVzcWzcXzcY",
      "zcZnDOUBLE-STRUCK CAPITAL AzkB"]),
    (0x1d53b, ["zkDzkEzkFzkG"]), (0x1d540, ["zkIzkJzkKzkLzkM"]), (0x1d546, ["zkO"]),
    (0x1d54a, ["zkSzkTzkUzkVzkWzkXzkY"]),
    (0x1d552, ["zcSMALL AziBziCziDziEziFziGziHziIziJziKziLziMziNziOziPziQziRziSziTziUziVziWziX",
      "ziYziZnBOLD FRAKTUR CAPITAL AzjBzjCzjDzjEzjFzjGzjHzjIzjJzjKzjLzjMzjNzjOzjPzjQzjRzjSzjTzjU",
      "zjVzjWzjXzjYzjZzbSMALL AzhBzhCzhDzhEzhFzhGzhHzhIzhJzhKzhLzhMzhNzhOzhPzhQzhRzhSzhTzhUzhV",
      "zhWzhXzhYzhZnSANS-SERIF CAPITAL AzhBzhCzhDzhEzhFzhGzhHzhIzhJzhKzhLzhMzhNzhOzhPzhQzhRzhS",
      "zhTzhUzhVzhWzhXzhYzhZySMALL AzfBzfCzfDzfEzfFzfGzfHzfIzfJzfKzfLzfMzfNzfOzfPzfQzfRzfSzfTzfU",
      "zfVzfWzfXzfYzfZyBOLD CAPITAL AzmBzmCzmDzmEzmFzmGzmHzmIzmJzmKzmLzmMzmNzmOzmPzmQzmRzmSzmT",
      "zmUzmVzmWzmXzmYzmZzeSMALL AzkBzkCzkDzkEzkFzkGzkHzkIzkJzkKzkLzkMzkNzkOzkPzkQzkRzkSzkTzkU",
      "zkVzkWzkXzkYzkZyITALIC CAPITAL AzoBzoCzoDzoEzoFzoGzoHzoIzoJzoKzoLzoMzoNzoOzoPzoQzoRzoSzoT",
      "zoUzoVzoWzoXzoYzoZzgSMALL AzmBzmCzmDzmEzmFzmGzmHzmIzmJzmKzmLzmMzmNzmOzmPzmQzmRzmSzmTzmU",
      "zmVzmWzmXzmYzmZyBOLD ITALIC CAPITAL AztBztCztDztEztFztGztHztIztJztKztLztMztNztOztPztQztR",
      "ztSztTztUztVztWztXztYztZzlSMALL AzrBzrCzrDzrEzrFzrGzrHzrIzrJzrKzrLzrMzrNzrOzrPzrQzrRzrS",
      "zrTzrUzrVzrWzrXzrYzrZnMONOSPACE CAPITAL AzgBzgCzgDzgEzgFzgGzgHzgIzgJzgKzgLzgMzgNzgOzgPzgQ",
      "zgRzgSzgTzgUzgVzgWzgXzgYzgZxSMALL AzeBzeCzeDzeEzeFzeGzeHzeIzeJzeKzeLzeMzeNzeOzePzeQzeRzeS",
      "zeTzeUzeVzeWzeXzeYzeZnITALIC SMALL DOTLESS IzjJ"]),
    (0x1d6a8, ["nBOLD CAPITAL ALPHAzbBETAzbGAMMAzbDELTAzbEPSILONzbZETAzbETAzb.dTHzbIOTAzbKAPPA",
      "zbLAMDAzbMUzbNUzbXIzbOMICRONzbPIzbRHOzbTHETA SYMBOLzbSIGMAzbTAUzbUPSILONzbPHIzbCHIzbPSI",
      "zbOMEGAsNABLAsSMALL ALPHAyBETAyGAMMAyDELTAyEPSILONyZETAyETAy.dTHyIOTAyKAPPAyLAMDAyMUyNU",
      "yXIyOMICRONyPIyRHOyFINAL SIGMAy.eSyTAUyUPSILONyPHIyCHIyPSIyOMEGAsPARTIAL DIFFERENTIAL",
      "sEPSILON SYMBOLs.hTHETAs.iKAPPs.hPHIs.hRHOs.hPInITALIC CAPITAL ALPHAzdBETAzdGAMMAzdDELTA",
      "zdEPSILONzdZETAzdETAzd.dTHzdIOTAzdKAPPAzdLAMDAzdMUzdNUzdXIzdOMICRONzdPIzdRHO",
      "zdTHETA SYMBOLzdSIGMAzdTAUzdUPSILONzdPHIzdCHIzdPSIzdOMEGAuNABLAuSMALL ALPHAzbBETAzbGAMMA",
      "zbDELTAzbEPSILONzbZETAzbETAzb.dTHzbIOTAzbKAPPAzbLAMDAzbMUzbNUzbXIzbOMICRONzbPIzbRHO",
      "zbFINAL SIGMAzb.eSzbTAUzbUPSILONzbPHIzbCHIzbPSIzbOMEGAuPARTIAL DIFFERENTIAL",
      "uEPSILON SYMBOLu.hTHETAu.iKAPPu.hPHIu.hRHOu.hPInBOLD ITALIC CAPITAL ALPHAziBETAziGAMMA",
      "ziDELTAziEPSILONziZETAziETAzi.dTHziIOTAziKAPPAziLAMDAziMUziNUziXIziOMICRONziPIziRHO",
      "ziTHETA SYMBOLziSIGMAziTAUziUPSILONziPHIziCHIziPSIziOMEGAzNABLAzSMALL ALPHAzgBETAzgGAMMA",
      "zgDELTAzgEPSILONzgZETAzgETAzg.dTHzgIOTAzgKAPPAzgLAMDAzgMUzgNUzgXIzgOMICRONzgPIzgRHO",
      "zgFINAL SIGMAzg.eSzgTAUzgUPSILONzgPHIzgCHIzgPSIzgOMEGAzPARTIAL DIFFERENTIAL",
      "zEPSILON SYMBOLz.hTHETAz.iKAPPz.hPHIz.hRHOz.hPInSANS-SERIF BOLD CAPITAL ALPHAzmBETA",
      "zmGAMMAzmDELTAzmEPSILONzmZETAzmETAzm.dTHzmIOTAzmKAPPAzmLAMDAzmMUzmNUzmXIzmOMICRONzmPI",
      "zmRHOzmTHETA SYMBOLzmSIGMAzmTAUzmUPSILONzmPHIzmCHIzmPSIzmOMEGAzeNABLAzeSMALL ALPHAzkBETA",
      "zkGAMMAzkDELTAzkEPSILONzkZETAzkETAzk.dTHzkIOTAzkKAPPAzkLAMDAzkMUzkNUzkXIzkOMICRONzkPI",
      "zkRHOzkFINAL SIGMAzk.eSzkTAUzkUPSILONzkPHIzkCHIzkPSIzkOMEGAzePARTIAL DIFFERENTIAL",
      "zeEPSILON SYMBOLze.hTHETAze.iKAPPze.hPHIze.hRHOze.hPIzeITALIC CAPITAL ALPHAztBETAztGAMMA",
      "ztDELTAztEPSILONztZETAztETAzt.dTHztIOTAztKAPPAztLAMDAztMUztNUztXIztOMICRONztPIztRHO",
      "ztTHETA SYMBOLztSIGMAztTAUztUPSILONztPHIztCHIztPSIztOMEGAzlNABLAzlSMALL ALPHAzrBETA",
      "zrGAMMAzrDELTAzrEPSILONzrZETAzrETAzr.dTHzrIOTAzrKAPPAzrLAMDAzrMUzrNUzrXIzrOMICRONzrPI",
      "zrRHOzrFINAL SIGMAzr.eSzrTAUzrUPSILONzrPHIzrCHIzrPSIzrOMEGAzlPARTIAL DIFFERENTIAL",
      "zlEPSILON SYMBOLzl.hTHETAzl.iKAPPzl.hPHIzl.hRHOzl.hPInBOLD CAPITAL DIGAMMAs.jSMAL"]),
    (0x1d7ce, ["sDIGIT ZEROyONEyTWOzHREEyFOURzIVEySIXzEVENyEIGHTyNINEnDOUBLE-STRUCK DIGIT ZERO",
      "ziONEziTWOzjHREEziFOURzjIVEziSIXzjEVENziEIGHTziNINEnSANS-SERIF DIGIT ZEROzfONEzfTWOzgHREE",
      "zfFOURzgIVEzfSIXzgEVENzfEIGHTzfNINEyBOLD DIGIT ZEROzkONEzkTWOzlHREEzkFOURzlIVEzkSIXzlEVEN",
      "zkEIGHTzkNINEnMONOSPACE DIGIT ZEROzeONEzeTWOzfHREEzeFOURzfIVEzeSIXzfEVENzeEIGHTzeNINE",
      "aSIGNWRITING HAND-FIST INDEXr.gCIRCLEs.gUPr.gOVALr.gHINGEr.hANGLrFIST INDEX BENTr.lCIRCLE",
      "r.lFIST THUMB UNDERwINDEX RAISED KNUCKLEzdCUPPEDzdHINGEDzj LOWrCIRCLE INDEX HINGE",
      "rFIST INDEX MIDDLEr.nCIRCLErFIST INDEX MIDDLE BENTzkRAISED KNUCKLESzkHINGEDzd.nUP ",
      "zdHINGED MIDDLE UPzdMIDDLE CONJOINEDzt INDEX BENTzu.fMIDDLEzuCUPPEDzuHINGEDzlROSSED",
      "r.vCIRCLErFIST MIDDLE BENT OVER INDEXwINDEX BENT OVER MIDDLEzdMIDDLE THUMBr.tCIRCLE",
      "rFIST INDEX MIDDLE STRAIGHT THUMB BENTzkBENT THUMB STRAIGHTzkTHUMB BENT",
      "zkHINGED SPREAD THUMB SIDEzd.mUP MIDDLE HINGEzzbCONJOINEDzdHINGED MIDDLE UP THUMB SIDE",
      "zdMIDDLE UP SPREAD THUMB FORWARDzkTHUMB CUPPEDzrIRCLEDzqHOOKEDzrINGED",
      "wTHUMB BETWEEN INDEX MIDDLE STRAIGHTwINDEX MIDDLE CONJOINED THUMB SIDEzzf CONJOINED",
      "zzgBENTwMIDDLE THUMB HOOKED INDEX UPw.dINDEX THUMB HOOKED MIDDLE",
      "zdMIDDLE CONJOINED HINGED THUMB SIDEzl.nROSSzlONJOINED THUMB FORWARDzu.nCUPPED ",
      "wMIDDLE THUMB CUPPED INDEX UPw.dINDEX THUMB CUPPED MIDDLEw.dMIDDLE THUMB CIRCLED INDEX",
      "zyHINGEDwINDEX THUMB ANGLED OUT MIDDLE UPzq.kINzj.kCIRCLEDzdMIDDLE THUMB CONJOINED HINGED",
      "zqANGLED OUTzvDwMIDDLE THUMB ANGLED OUT INDEX UPzzcCROSSEDzrINDEX UP",
      "wINDEX THUMB HOOKED MIDDLE HINGEDsLAT FOUR FINGERSzj BENTzkHINGEDzkCONJOINEDzt SPLIT",
      "rCLAW FOUR FINGERS CONJOINEDrFIST FOUR FINGERS CONJOINED BENT",
      "rHINGE FOUR FINGERS CONJOINEDrFLAT FIVE FINGERS SPREADw.tHEEL ",
      "wFIVE FINGERS SPREAD FOUR BENTw.zeHEEL w.fFIVE FINGERS SPREADw.yHEEL ",
      "wFIVE FINGERS SPREAD THUMB FORWARDrCUP FIVE FINGERS SPREADzp OPENr.zHINGE",
      "rOVAL FIVE FINGERS SPREADrFLAT FIVE FINGERS SPREAD HINGEDzx THUMB SIDEzyNO THUMBuT",
      "v BETWEEN PALM FACINGSwHEELwTHUMB SIDEw.kHEEL wTHUMB BENTzdFORWARDwSPLIT INDEX THUMB SIDE",
      "zdCENTREzj THUMB SIDEzu BENTzdLITTLErCLAWv THUMB SIDEwNO THUMBwTHUMB FORWARD",
      "rHOOK CURLICUEuKrCUP OPENtPu OPEN THUMB SIDEv.jTvOPEN NO THUMBv.hNvOPEN THUMB FORWARDv.mT",
      "tRLICUE OPENyEsIRCLErOVALv THUMB SIDEwNO THUMBwTHUMB FORWARDrHINGE OPENzc THUMB FORWARDvE",
      "w SMALLxOPEN THUMB SIDEx.jTxOPEN NO THUMBx.hNxTHUMB SIDE TOUCHING INDEX",
      "zeBETWEEN MIDDLE RINGrANGLErFIST INDEX MIDDLE RINGr.sCIRCLEr.tHINGr.tANGLrHINGE LITTLE",
      "rFIST INDEX MIDDLE RING BENTzpCONJOINEDr.zdHINGErFIST LITTLE DOWNzi RIPPLE STRAIGHT",
      "zqCURVEDzjOTHERS CIRCLEDzeUPw.jTHUMB UNDER r.kCIRCLEr.kOVALr.kANGLE",
      "rFIST LITTLE RAISED KNUCKLEzeBENTzeTOUCHES THUMBzf.dHr.nHINGEr.gFIST LITTLE INDEXr.tHINGE",
      "rANGLE LITTLE INDEX THUMB INDEX THUMB OUTzzcBrFIST LITTLE INDEXr.nCIRCLEr.oHINGr.oANGL",
      "rFIST INDEX MIDDLE LITTLEr.uCIRCLEr.vHINGxRINGrANGLE INDEX MIDDLE LITTLE",
      "r.hFIST INDEX MIDDLE CROSSr.zbCIRCLErFIST RING DOWN",
      "rHINGE RING DOWN INDEX THUMB HOOK MIDDLErANGLE RING DOWN MIDDLE THUMB INDEX CROSS",
      "rFIST RING UPzcRAISED KNUCKLEzcLITTLEr.mCIRCLEr.mOVALr.mANGLErFIST RING MIDDLE",
      "zi CONJOINEDzjRAISED KNUCKLESzcINDEXzcTHUMBr.lHOOKrFIST INDEX RING LITTLEr.sCIRCLE",
      "sURLICUE INDEX RING LITTLE ONrHOOK INDEX RING LITTLE OUTzpINzpUNDERrCUP INDEX RING LITTLE",
      "r.sHINGErANGLE INDEX RING LITTLE OUTzoErFIST MIDDLE DOWNrHINGE MIDDLErFIST MIDDLE UP",
      "r.kCIRCLErFIST MIDDLE RAISED KNUCKLEzeUP THUMB SIDErHOOK MIDDLE THUMB",
      "rFIST MIDDLE THUMB LITTLEze.fLze.gRING r.tCIRCLEsURLICUE MIDDLE RING LITTLE ON",
      "tP MIDDLE RING LITTLEr.tHINGErANGLE MIDDLE RING LITTLE OUTzrINzpE",
      "rCIRCLE MIDDLE RING LITTLE BENTsLAW MIDDLE RING LITTLE CONJOINEDzz SIDE",
      "rHOOK MIDDLE RING LITTLE CONJOINED OUTzzbINzyDsINGE INDEX HINGEDrFIST INDEX THUMB SIDE",
      "r.rHINGErFIST INDEX THUMB SIDE THUMB DIAGONALzuCONJOINEDzuBENTzo.fINDEXzo.fBOTH",
      "zoINDEX HINGEzjFORWARD INDEX STRAIGHTzxBENTzjHOOKzjCURLICUEzmVE THUMB INSIDEr.zgCLAW",
      "rFIST INDEX THUMB CURVE THUMB UNDERzkIRCLErCUP INDEX THUMBzh OPENr.rHINGEzkLARGEziB",
      "zj SMALLrANGLE INDEX THUMB OUTzkINziBr.gFISTzc HEELzdSIDE DIAGONALziCONJOINEDziBENT",
      "zdFORWARDzdBETWEEN INDEX MIDDLEzlMIDDLE RINGzlRING LITTLEzdUNDER TWO FINGERSzd.oOV",
      "zd.iUNDER THREEzj.iFOURzdOVER FOUR RAISED KNUCKLESuTv HEELmTOUCH SINGLEsMULTIPLEsBETWEEN",
      "mGRASP SINGLEsMULTIPLEsBETWEENmSTRIKE SINGLEtMULTIPLEtBETWEENmBRUSH SINGLEsMULTIPLE",
      "sBETWEENmRUB SINGLEqMULTIPLEqBETWEENmSURFACE SYMBOLSuBETWEENnQUEEZE LARGE SINGLEu.hSMALL",
      "uLARGE MULTIPLEu.jSMALLvEQUENTIALmFLICK LARGE SINGLEs.hSMALLsLARGE MULTIPLEs.jSMALL",
      "tEQUENTIALmSQUEEZE FLICK ALTERNATINGmMOVEMENT-HINGE UP DOWN LARGEzkSMALLzfSEQUENTIAL",
      "zc.lDOWNzcUP DOWN ALTERNATING LARGEzwSMALLzcSIDE TO SIDE SCISSORS",
      "vWALLPLANE FINGER CONTACTv.uFLOORvWALLPLANE SINGLE STRAIGHT SMALLzwMEDIUMzwLARGEzzcST",
      "znWRIST FLEXzgDOUBLE STRAIGHTznWRIST FLEXznALTERNATINGzy WRIST FLEXzgCROSS",
      "zgTRIPLE STRAIGHT MOVEMENTznWRIST FLEXznALTERNATINGzy WRIST FLEXzgBEND SMALLzlMEDIUM",
      "zlLARGEzgCORNER SMALLznMEDIUMznLARGEznROTATIONzhHECK SMALLzmMEDIUMzmLARGEzgBOX SMALL",
      "zkMEDIUMzkLARGEzgZIGZAG SMALLznMEDIUMznLARGEzgPEAKS SMALLzmMEDIUMzmLARGE",
      "mTRAVEL-WALLPLANE ROTATION-WALLPLANE SINGLEzxDOUBLEzxALTERNATINGznFLOORPLANE SINGLE",
      "zyDOUBLEzyALTERNATINGze.dSHAKzeARM SPIRAL SINGLEzpDOUBLEzpTRIPLE",
      "mMOVEMENT-DIAGONAL AWAY SMALLzkMEDIUMzkLARGEzpSTzfTOWARDS SMALLznMEDIUMznLARGEzsST",
      "zfBETWEEN AWAY SMALLzsMEDIUMzsLARGEzxSTznTOWARDS SMALLzvMEDIUMzvLARGEzzbST",
      "vFLOORPLANE SINGLE STRAIGHT SMALLzxMEDIUMzxLARGEzzdSTzoWRIST FLEXzhDOUBLE STRAIGHT",
      "zoWRIST FLEXzoALTERNATINGzz WRIST FLEXzhCROSSzhTRIPLE STRAIGHT MOVEMENTzoWRIST FLEX",
      "zoALTERNATING MOVEMENTzzbWRIST FLEXzhBENDzhCORNER SMALLzoMEDIUMzoLARGEziHECKzhBOX SMALL",
      "zlMEDIUMzlLARGEzhZIGZAG SMALLzoMEDIUMzoLARGEzhPEAKS SMALLznMEDIUMznLARGE",
      "mTRAVEL-FLOORPLANE ROTATION-FLOORPLANE SINGLEzzDOUBLEzzALTERNATINGzoWALLPLANE SINGLE",
      "zyDOUBLEzyALTERNATINGzf.dSHAKmMOVEMENT-WALLPLANE CURVE QUARTER SMALLzuMEDIUMzuLARGEzzST",
      "zmHALF-CIRCLE SMALLzyMEDIUMzyLARGEzzeSTzmTHREE-QUARTER CIRCLE SMALLzziMEDIUMzgHUMP SMALL",
      "zlMEDIUMzlLARGEzgLOOP SMALLzlMEDIUMzlLARGEzlSMALL DOUBLEzgWAVE CURVE DOUBLE SMALLzyMEDIUM",
      "zyLARGEzrTRIPLE SMALLzyMEDIUMzyLARGEzgCURVE THEN STRAIGHTzlD CROSS SMALLztMEDIUM",
      "mROTATION-WALLPLANE SINGLEzgDOUBLEzgALTERNATEmMOVEMENT-WALLPLANE SHAKING",
      "zgCURVE HITTING FRONT WALLzg.tHUMPzg.uLOOzg.tWAVEm.uROTATION-WALLPLANE SINGLzg.vDOUB",
      "zg.tALTERNATINGmMOVEMENT-WALLPLANE CURVE HITTING CHESTzg.oHUMPzg.pLOOzg.oWAVE",
      "m.pROTATION-WALLPLANE SINGLzg.qDOUBzg.oALTERNATING",
      "mMOVEMENT-WALLPLANE WAVE DIAGONAL PATH SMALLzzMEDIUMzzLARGE",
      "vFLOORPLANE CURVE HITTING CEILING SMALLzzeLARGEzhHUMP HITTING CEILING SMALL DOUBLE",
      "zzd.hLARGEzzdSMALL TRIPLEzzd.hLARGEzhLOOP HITTING CEILING SMALL SINGLEzzd.hLARGE",
      "zzdSMALL DOUBLEzzd.hLARGEzhWAVE HITTING CEILING SMALLzzdLARGE",
      "mROTATION-FLOORPLANE SINGLE HITTING CEILINGzh.sDOUBzh.qALTERNATING",
      "mMOVEMENT-FLOORPLANE CURVE HITTING FLOOR SMALLzzcLARGEzhHUMP HITTING FLOOR SMALL DOUBLE",
      "zzb.hLARGEzzbTRIPLE SMALL TRIPLEzzi.hLARGEzhLOOP HITTING FLOOR SMALL SINGLEzzb.hLARGE",
      "zzbSMALL DOUBLEzzb.hLARGEzhWAVE HITTING FLOOR SMALLzzbLARGE",
      "mROTATION-FLOORPLANE SINGLE HITTING FLOORzh.qDOUBzh.oALTERNATING",
      "mMOVEMENT-FLOORPLANE CURVE SMALLznMEDIUMznLARGEzsSTznCOMBINEDzhHUMP SMALLzh.hLOO",
      "zhWAVE SNAKEznMALLzmLARGEmROTATION-FLOORPLANE SINGLEzhDOUBLEzhALTERNATING",
      "mMOVEMENT-FLOORPLANE SHAKING PARALLELvWALLPLANE ARM CIRCLE SMALL SINGLEzr.hMEDIUM",
      "zrSMALL DOUBLEzr.hMEDIUMvFLOORPLANE ARM CIRCLE HITTING WALL SMALL SINGLEzzg.hMEDIUM",
      "zzg.hLARGEzzgSMALL DOUBLEzzg.hMEDIUMzzg.hLARGEvWALLPLANE WRIST CIRCLE FRONT SINGLE",
      "zzDOUBLEvFLOORPLANE WRIST CIRCLE HITTING WALL SINGLEzziDOUBLE",
      "vWALLPLANE FINGER CIRCLES SINGLEzvDOUBLEvFLOORPLANE FINGER CIRCLES HITTING WALL SINGLE",
      "zzkDOUBLEmDYNAMIC ARROWHEAD SMALLzfLARGEuFASTuSLOWuTENSEuRELAXEDuSIMULTANEOUS",
      "zh ALTERNATINGuEVERY OTHER TIMEuGRADUALmHEADq RIMrMOVEMENT-WALLPLANE STRAIGHTzlTILT",
      "zbFLOORPLANE STRAIGHTzbWALLPLANE CURVEzb.lFLOORz CIRCLE",
      "mFACE DIRECTION POSITION NOSE FORWARD TILTINGzqUP OR DOWNzzb TILTINGmEYEBROWS STRAIGHT UP",
      "zfNEUTRALzfDOWNm.fDREAMY EYEBROWS NEUTRALzdDOWN NEUTRALzd.iUPzdNEUTRAL UP",
      "mFOREHEAD NEUTRALvCONTACTvWRINKLEDmEYES OPENrSQUEEZEDrCLOSEDp BLINK SINGLEwMULTIPLE",
      "pS HALF OPENr.fWIDErHALF CLOSEDrWIDENING MOVEMENTp WINKpLASHES UPwDOWNwFLUTTERING",
      "pGAZE-WALLPLANE STRAIGHTzn DOUBLEzoALTERNATINGuFLOORPLANE STRAIGHTzo DOUBLEzpALTERNATING",
      "uWALLPLANE CURVEDu.mFLOORuWALLPLANE CIRCLINGmCHEEKS PUFFEDtNEUTRALtSUCKED",
      "mTENSE CHEEKS HIGHzMIDDLEzLOWmEARSmNOSE NEUTRALrCONTACTrWRINKLESs.dIGGmAIR BLOWING OUT",
      "qSUCKING INqBLOW SMALL ROTATIONSq.qSUCKmBREATH INHALEt.eEXmMOUTH CLOSED NEUTRALzFORWARD",
      "zCONTACTsSMILEx WRINKLEDyOPENsFROWNx WRINKLEDyOPENsOPEN CIRCLExFORWARDxWRINKLEDxOVAL",
      "zc WRINKLEDzdYAWNxRECTANGLEzh WRINKLEDziYAWNsKISSw FORWARDxWRINKLEDsTENSEx FORWARDySUCKED",
      "mLIPS PRESSED TOGETHERp LOWER OVER UPPERqUPPER OVER LOWERmMOUTH CORNERSsWRINKLES SINGLE",
      "zcDOUBLEmTONGUE STICKING OUT FARtLICKING LIPSt.fTIP BETWEENxTOUCHING INSIDE MOUTH",
      "tINSIDE MOUTH RELAXEDtMOVES AGAINST CHEEKtCENTRE STICKING OUTzbINSIDE MOUTHnEETH",
      "r MOVEMENTsON TONGUEzc MOVEMENTvLIPSz MOVEMENTsBITE LIPSmMOVEMENT-WALLPLANE JAWv.jFLOOR",
      "mNECKmHAIRmEXCITEMENTmSHOULDER HIP SPINEzPOSITIONSmWALLPLANE SHOULDER HIP MOVEm.xFLOOR",
      "mSHOULDER TILTING FROM WAISTmTORSO-WALLPLANE STRAIGHT STRETCHzdCURVED BEND",
      "sFLOORPLANE TWISTINGmUPPER BODY TILTING FROM HIP JOINTSmLIMB COMBINATIONrLENGTH-1y2y3y4y5",
      "y6y7mFINGERmLOCATION-WALLPLANE SPACEv.lFLOORu HEIGHTvWIDTHvDEPTHvHEAD NECKvTORSO",
      "vLIMBS DIGITSmCOMMAmFULL STOPmSEMICOLONm.eCmPARENTHESIS"]),
    (0x1da9b, ["mFILL MODIFIER-2zb3zb4zb5zb6"]),
    (0x1daa1, ["mROTATION MODIFIER-2zf3zf4zf5zf6zf7zf8zf9zf10zg1zg2zg3zg4zg5zg6"]),
    (0x1df00, ["aLATIN SMALL LETTER FENG DIGRAPH WITH TRILLtREVERSED SCRIPT G",
      "gLETTER SMALL CAPITAL TURNED GgSMALL LETTER REVERSED KgLETTER SMALL CAPITAL L WITH BELT",
      "gSMALL LETTER LEZH WITH RETROFLEX HOOKtTURNED Y WITH BELTtREVERSED ENG",
      "tTURNED R WITH LONG LEG AND RETROFLEX HOOKu.t WITH HOOKg.pLETTER RETROFLEX CLICK WITH",
      "gSMALL LETTER ESH WITH DOUBLE BARzn AND CURLt.fTURNED T WITH",
      "g.kLETTER INVERTED GLOTTAL STOPn.kSTRETCHED CoMALL CAPITAL TURNED K",
      "gSMALL LETTER L WITH FISHHOOKt.eDEZH DIGRAPH WITH PALATAL t.nL WITH BELT ANDt.nENG WITH",
      "t.sTURNED Rt.nR WITH FISHHOOK ANDt.nTESH DIGRAPH WITHt.tEZt.fDEZH DIGRAPH WITH RETROFLEX",
      "t.pI WITH STROKE ANDt.pO WITHt.uTESH DIGRAPHt.uCtS WITH CURL"]),
    (0x1e000, ["aCOMBINING GLAGOLITIC LETTER AZUzdBUKYzdVEDEzdGLAGOLIzdDOBROzdYESTUzdZHIVETE"]),
    (0x1e008, ["zeEMLJAzdIZHEze.dNITIAL IzdIzdDJERVIzdKAKOzdLJUDIJEzdMYSLITEzdNASHIzdONUzdPOKOJI",
      "zdRITSIzdSLOVOzdTVRIDOzdUKUzdFRITUzdHERU"]),
    (0x1e01b, ["zdSHTAzdTSIzdCHRIVIzdSHAzdYERUzgIzeATI"]), (0x1e023, ["zeUzdSMALL YUS"]),
    (0x1e026, ["zdYOzdIOTATED SMALL YUSzd.eBIGzd.hIOTATED zdFITA"]),
    (0x1e100, ["aNYIAKENG PUACHUE HMONG LETTER MAzfTSAzfNTAzfTAzfHAzfNAzfXAzfNKAzfCAzfLAzfSAzfZA",
      "zfNCAzgTSAzfKAzfDAzfNYAzgRAzfVAzfNTXAzfTXAzfFAzfRAzfQAzfYAzfNQAzfPAzfXYAzfNPAzfDLAzfNPLA",
      "zfHAHzfMLAzfPLAzfGAzfRRAzfAzgAzfIzfUzfOzgOzfEzgEzfW"]),
    (0x1e130, ["xTONE-BzdMzdJzdVzdSzdGzdDxSIGN FOR PERSONzhTHINGzhLOCATIONzhANIMALzhINVERTEBRATE",
      "zdXW XWyYLLABLE LENGTHENER"]),
    (0x1e140, ["xDIGIT ZEROzeONEzeTWOzfHREEzeFOURzfIVEzeSIXzfEVENzeEIGHTzeNINE"]),
    (0x1e14e, ["xLOGOGRAM NYAJxCIRCLED CA"]),
    (0x1e290, ["aTOTO LETTER PAmBAmTAmDAmKAmGAmMAmNAnGAmSAmCHAmYAmWAmJAmHAmRAmLAmImBREATHY ImIU",
      "mBREATHY IUmUmEmBREATHY EmEOmBREATHY EOmOmAEmBREATHY AEmAfSIGN RISING TONE"]),
    (0x1e2c0, ["aWANCHO LETTER AAoAoBAoCAoDAoGAoYAoPHAoLAoNAoPAoTApHAoFAoSApHAoJAoZAoWAoVAoKAoO",
      "oAUoRAoMAoKHAoHAoEoIoNGAoUoLLHAoTSApRAoONGoAANGpNGoINGoONoENoAANoNYAoUENoYIHhTONE TUPpNI",
      "mKOIpNIhDIGIT ZEROnONEnTWOoHREEnFOURoIVEnSIXoEVENnEIGHTnNINE"]),
    (0x1e2ff, ["hNGUN SIGN"]), (0x1e7e0, ["aETHIOPIC SYLLABLE HHYAvUvIvAAvEEvEvO"]),
    (0x1e7e8, ["sGURAGE HHWAsHHWIvEEvE"]), (0x1e7ed, ["sGURAGE MWIzcEE"]),
    (0x1e7f0, ["zQWIzcEEzcEzBWIzcEEzKWIzcEEzcEzGWIzcEEzcEzFWIzcEEzPWIzcEE"]),
    (0x1e800, ["aMENDE KIKAKUI SYLLABLE M001 KIzb2 KAzb3 KUz65 KEEz95 KEz76 KOOz48 KOy179 KUA",
      "y004 WIzb5 WAzb6 WUy126 WEEz18 WEzb4 WOOy045 WOy194 WUIz43 WEIy061 WVIz49 WVAy139 WVE",
      "y007 MINzb8 MANzb9 MUNz59 MENz94 MONy154 MUANz89 MUENy010 BIzb1 BAzb2 BUy150 BEEy097 BE",
      "y103 BOOz38 BOy013 Izb4 Azb5 Uy163 EEz00 Ez65 OOz47 Oz37 EIzb1 INzb.d5z95 ANz78 ENy019 SI",
      "z20 SAzb1 SUy162 SEEz16 SEz36 SOOy079 SOy196 SIAy025 LIzb6 LAzb7 LUz84 LEEz73 LEz54 LOO",
      "y153 LOz10 LONG LEy016 DIzb7 DAzb8 DUz89 DEEy180 DOOzb1 DOy022 TIzb3 TAzb4 TUz91 TEE",
      "z55 TEy104 TOOy069 TOz28 JIzb9 JAz30 JUy157 JEEz13 JEz60 JOOy063 JOy.d175 LONGy031 YI",
      "zb2 YAzb3 YUy109 YEEy080 YEy141 YOOz21 YOy034 FIzb5 FAzb6 FUz78 FEEzb5 FEy133 FOOy088 FO",
      "y197 FUAz01 FANy037 NINzb8 NANzb9 NUNy117 NENz69 NONz76 HIy041 HAy186 HUy040 HEEz96 HE",
      "z42 HOOy140 HOy083 HEEIy128 HOOUy053 HINy130 HANy087 HUNz52 HENy193 HONy046 HUANz90 NGGI",
      "z43 NGGAz82 NGGUy115 NGGEEz46 NGGEz56 NGGOOz20 NGGOz59 NGGAAz27 NGGUAy086 LONG NGGE",
      "y106 LONG NGGOOz83 LONG NGGOz55 GIz11 GAz68 GUz90 GEEz66 GUEIzb7 GUANz84 NGENy057 NGON",
      "y177 NGUANy068 PIz99 PAz50 PUz81 PEEz51 PEy102 POOy066 POy145 MBIy062 MBAy122 MBU",
      "y047 MBEEy.f188y072 MBEy172 MBOOzb4 MBOz87 MBUUz61 LONG MBEz05 LONG MBOOz42 LONG MBO",
      "z32 KPIy092 KPAz74 KPUz44 KPEEy108 KPEz12 KPOOz58 KPOz24 GBIy056 GBAy148 GBUy093 GBEE",
      "y107 GBEy071 GBOOzb0 GBOy171 RAz23 NDIzb9 NDAzb5 NDUz91 NDEEz19 NDEy067 NDOOzb4 NDO",
      "y152 NJAz92 NJUz49 NJEEz34 NJOOz82 VIzb5 VAz51 VUz73 VEEy085 VEy144 VOOy077 VOy164 NYIN",
      "y058 NYANy170 NYUNy098 NYENz60 NYON"]),
    (0x1e8c7, ["oDIGIT ONEuTWOvHREEuFOURvIVEuSIXvEVENuEIGHTuNINEoCOMBINING NUMBER TEENSziNS",
      "zgHUNDREDSzgTHOUSANDSzh.iEN Tzg.kHUNDREDzgMILLIONS"]),
    (0x1e900, ["aADLAM CAPITAL LETTER ALIFvDAALIvLAAMvMIIMvBAvSINNYIIYHEvPEvBHEvRAvEvFAvIvOvDHA",
      "vYHEvWAWvNUNvKAFvYAvUvJIIMvCHIvHAvQAAFvGAvNYAvTUvNHAvVAvKHAvGBEvZALvKPOvSHA",
      "gSMALL LETTER ALIFtDAALItLAAMtMIIMtBAtSINNYIIYHEtPEtBHEtRAtEtFAtItOtDHAtYHEtWAWtNUNtKAF",
      "tYAtUtJIIMtCHItHAtQAAFtGAtNYAtTUtNHAtVAtKHAtGBEtZALtKPOtSHAgALIF LENGTHENERg.lVOWEL",
      "gGEMINATION MARKgHAMZAgCONSONANT MODIFIERg.sGEMINATE gNUKTAhASALIZATION MARK"]),
    (0x1e950, ["gDIGIT ZEROmONEmTWOnHREEmFOURnIVEmSIXnEVENmEIGHTmNINE"]),
    (0x1e95e, ["gINITIAL EXCLAMATION MARKo.jQUES"]),
    (0x1ec71, ["aINDIC SIYAQ NUMBER ONEtTWOuHREEtFOURuIVEtSIXuEVENtEIGHTtNINEtTENuWENTYuHIRTY",
      "t.dFOuIFTYtSIXTYuEVENTYtEIGHTYtNINETYtONE HUNDREDt.iTWOu.iHREEt.iFOURu.iIVEt.iSIXu.iEVEN",
      "t.iEIGHTt.iNINEtONE THOUSANDt.jTWOu.jHREEt.jFOURu.jIVEt.jSIXu.jEVENt.jEIGHTt.jNINEt.jTEN",
      "u.jWENTYu.lHIRt.mFOu.lIFt.lSIXu.lEVENt.lEIGHt.lNINEtLAKHxANmLAKH MARKmNUMBER KARORyAN",
      "tPREFIXED ONEzdTWOzeHREEzdFOURzeIVEzdSIXzeEVENzdEIGHTzdNINEmPLACEHOLDER",
      "mFRACTION ONE QUARTERzHALFvTHREE QUARTERSmRUPEE MARKmNUMBER ALTERNATE ONEzeTWO",
      "zfEN THOUSANDmALTERNATE LAKH MARK"]),
    (0x1ed01, ["aOTTOMAN SIYAQ NUMBER ONEvTWOwHREEvFOURwIVEvSIXwEVENvEIGHTvNINEvTENwWENTYwHIRTY",
      "v.dFOwIFTYvSIXTYwEVENTYvEIGHTYvNINETYvONE HUNDREDv.iTWOw.iHREEv.iFOURw.iIVEv.iSIXw.iEVEN",
      "v.iEIGHTv.iNINEvONE THOUSANDv.jTWOw.jHREEv.jFOURw.jIVEv.jSIXw.jEVENv.jEIGHTv.jNINEv.jTEN",
      "w.jWENTYw.lHIRv.mFOw.lIFv.lSIXw.lEVENv.lEIGHv.lNINEoMARRATANoALTERNATE NUMBER TWOzhHREE",
      "zgFOURzhIVEzgSIXzhEVENzgEIGHTzgNINEzgTENzgFOUR HUNDREDzg.iSIXzgTWO THOUSANDzh.jEN",
      "oFRACTION ONE HALFzcSIXTH"]),
    (0x1ee00, ["aARABIC MATHEMATICAL ALEFuBEHuJEEMuDAL"]),
    (0x1ee05, ["uWAWuZAINuHAHuTAHuYEHuKAFuLAMuMEEMuNOONuSEENuAINuFEHuSADuQAFuREHuSHEENuTEHvHEH",
      "uKHAHuTHALuDADuZAHuGHAINuDOTLESS BEHzdNOONzdFEHzdQAF"]),
    (0x1ee21, ["uINITIAL BEHzdJEEM"]), (0x1ee24, ["zdHEH"]), (0x1ee27, ["zeAH"]),
    (0x1ee29, ["zdYEHzdKAFzdLAMzdMEEMzdNOONzdSEENzdAINzdFEHzdSADzdQAF"]),
    (0x1ee34, ["zdSHEENzdTEHzeHEHzdKHAH"]), (0x1ee39, ["zdDAD"]), (0x1ee3b, ["zdGHAIN"]),
    (0x1ee42, ["uTAILED JEEM"]), (0x1ee47, ["zcHAH"]), (0x1ee49, ["zcYEH"]), (0x1ee4b, ["zcLAM"]),
    (0x1ee4d, ["zcNOONzcSEENzcAIN"]), (0x1ee51, ["zcSADzcQAF"]), (0x1ee54, ["zcSHEEN"]),
    (0x1ee57, ["zcKHAH"]), (0x1ee59, ["zcDAD"]), (0x1ee5b, ["zcGHAIN"]),
    (0x1ee5d, ["zcDOTLESS NOON"]), (0x1ee5f, ["zkQAF"]), (0x1ee61, ["uSTRETCHED BEHzfJEEM"]),
    (0x1ee64, ["zfHEH"]), (0x1ee67, ["zgAHzfTAHzfYEHzfKAF"]),
    (0x1ee6c, ["zfMEEMzfNOONzfSEENzfAINzfFEHzfSADzfQAF"]), (0x1ee74, ["zfSHEENzfTEHzgHEHzfKHAH"]),
    (0x1ee79, ["zfDADzfZAHzfGHAINzfDOTLESS BEH"]), (0x1ee7e, ["znFEH"]),
    (0x1ee80, ["uLOOPED ALEFzcBEHzcJEEMzcDALzcHEHzcWAWzcZAINzcHAHzcTAHzcYEH"]),
    (0x1ee8b, ["zcLAMzcMEEMzcNOONzcSEENzcAINzcFEHzcSADzcQAFzcREHzcSHEENzcTEHzdHEHzcKHAHzcTHAL",
      "zcDADzcZAHzcGHAIN"]),
    (0x1eea1, ["uDOUBLE-STRUCK BEHzjJEEMzjDAL"]), (0x1eea5, ["zjWAWzjZAINzjHAHzjTAHzjYEH"]),
    (0x1eeab, ["zjLAMzjMEEMzjNOONzjSEENzjAINzjFEHzjSADzjQAFzjREHzjSHEENzjTEHzkHEHzjKHAHzjTHAL",
      "zjDADzjZAHzjGHAIN"]),
    (0x1eef0, ["uOPERATOR MEEM WITH HAH WITH TATWEELzeHAH WITH DAL"]),
    (0x1f000, ["aMAHJONG TILE EAST WINDn.fSOUTHn.fWESTn.fNORTHnRED DRAGONn.hGREENn.hWHITE",
      "nONE OF CHARACTERSn.oTWOo.oHREEn.oFOURo.oIVEn.oSIXo.oEVENn.oEIGHTn.oNINEnONE OF BAMBOOS",
      "n.lTWOo.lHREEn.lFOURo.lIVEn.lSIXo.lEVENn.lEIGHTn.lNINEnONE OF CIRCLESn.lTWOo.lHREEn.lFOUR",
      "o.lIVEn.lSIXo.lEVENn.lEIGHTn.lNINEnPLUMnORCHIDnBAMBOOnCHRYSANTHEMUMnSPRINGoUMMERnAUTUMN",
      "nWINTERnJOKERnBACK"]),
    (0x1f030, ["a.fDOMINO TILE HORIZONTALw-00-00zc1zc2zc3zc4zc5zc6y1-00zc1zc2zc3zc4zc5zc6y2-00",
      "zc1zc2zc3zc4zc5zc6y3-00zc1zc2zc3zc4zc5zc6y4-00zc1zc2zc3zc4zc5zc6y5-00zc1zc2zc3zc4zc5zc6",
      "y6-00zc1zc2zc3zc4zc5zc6mVERTICAL BACKu-00-00z1z2z3z4z5z6w1-00z1z2z3z4z5z6w2-00z1z2z3z4z5",
      "z6w3-00z1z2z3z4z5z6w4-00z1z2z3z4z5z6w5-00z1z2z3z4z5z6w6-00z1z2z3z4z5z6"]),
    (0x1f0a0, ["aPLAYING CARD BACKnACE OF SPADESn.kTWOo.kHREEn.kFOURo.kIVEn.kSIXo.kEVENn.kEIGHT",
      "n.kNINEn.kTENn.kJACKn.kKNIGHTn.kQUEENn.kKING"]),
    (0x1f0b1, ["nACE OF HEARTSn.kTWOo.kHREEn.kFOURo.kIVEn.kSIXo.kEVENn.kEIGHTn.kNINEn.kTEN",
      "n.kJACKn.kKNIGHTn.kQUEENn.kKINGnRED JOKER"]),
    (0x1f0c1, ["nACE OF DIAMONDSn.mTWOo.mHREEn.mFOURo.mIVEn.mSIXo.mEVENn.mEIGHTn.mNINEn.mTEN",
      "n.mJACKn.mKNIGHTn.mQUEENn.mKINGnBLACK JOKER"]),
    (0x1f0d1, ["nACE OF CLUBSn.jTWOo.jHREEn.jFOURo.jIVEn.jSIXo.jEVENn.jEIGHTn.jNINEn.jTENn.jJACK",
      "n.jKNIGHTn.jQUEENn.jKINGnWHITE JOKERnFOOLnTRUMP-1t2t3t4t5t6t7t8t9t10u1u2u3u4u5u6u7u8u9t20",
      "u1"]),
    (0x1f100, ["aDIGIT ZERO FULL STOPlCOMMAg.gONEg.gTWOh.gHREEg.gFOURh.gIVEg.gSIXh.gEVENg.gEIGHT",
      "g.gNINEcNGBAT CIRCLED SANS-SERIF DIGIT ZEROi.zeNEGATIVE aCIRCLED ZERO WITH SLASH",
      "iANTICLOCKWISE ARROWiDOLLAR SIGN WITH OVERLAID BACKSLASH",
      "aPARENTHESIZED LATIN CAPITAL LETTER AzkBzkCzkDzkEzkFzkGzkHzkIzkJzkKzkLzkMzkNzkOzkPzkQzkR",
      "zkSzkTzkUzkVzkWzkXzkYzkZaTORTOISE SHELL BRACKETED LATIN CAPITAL LETTER S",
      "aCIRCLED ITALIC LATIN CAPITAL LETTER CzlRiCDiWZbOPYLEFT SYMBOL",
      "aSQUARED LATIN CAPITAL LETTER AzeBzeCzeDzeEzeFzeGzeHzeIzeJzeKzeLzeMzeNzeOzePzeQzeRzeSzeT",
      "zeUzeVzeWzeXzeYzeZiHViMViSDjSiPPViWCaNEGATIVE CIRCLED LATIN CAPITAL LETTER AznBznCznDznE",
      "znFznGznHznIznJznKznLznMznNznOznPznQznRznSznTznUznVznWznXznYznZaRAISED MC SIGNi.fDi.fR",
      "aCIRCLED CCj WITH OVERLAID BACKSLASHiHUMAN FIGUREaNEGATIVE SQUARED LATIN CAPITAL LETTER A",
      "znBznCznDznEznFznGznHznIznJznKznLznMznNznOznPznQznRznSznTznUznVznWznXznYznZ",
      "aCROSSED NEGATIVE SQUARED LATIN CAPITAL LETTER PaNEGATIVE SQUARED ICrPArSArABrWC",
      "aSQUARE DJgD CLjOOLiFREEiIDiNEWjGiOKiSOSiUP WITH EXCLAMATION MARKiVSiTHREE D",
      "iSECOND SCREENiTWO KiFOUR KiEIGHT KiFIVE POINT ONEi.kSEVENiTWENTY-TWO POINT TWOiSIXTY P",
      "i.eONE HUNDRED TWENiLATIN SMALL LETTER DiHCjDRjI-RESiLOSSLESSiSHViUHDiVOD",
      "aMASK WORK SYMBOL"]),
    (0x1f1e6, ["aREGIONAL INDICATOR SYMBOL LETTER AziBziCziDziEziFziGziHziIziJziKziLziMziNziOziP",
      "ziQziRziSziTziUziVziWziXziYziZaSQUARE HIRAGANA HOKAgD KATAKANA KOKOrSA"]),
    (0x1f210, ["iCJK UNIFIED IDEOGRAPH-624Bzf5B57zg3CCiKATAKANA DEiCJK UNIFIED IDEOGRAPH-4E8C",
      "zf591Azf89E3zf5929zf4EA4zf6620zf7121zf6599zf524DzgF8Czg18Dzf65B0zf521Dzf7D42zg51Fzf8CA9",
      "zf58F0zg439zf6F14zg295zg355zf4E00zi9zf904Azf5DE6zf4E2Dzf53F3zf6307zf8D70zf6253zf7981zgA7A",
      "zf5408zf6E80zg709zi8zf7533zf5272zg5B6zf914D"]),
    (0x1f240, ["aTORTOISE SHELL BRACKETED CJK UNIFIED IDEOGRAPH-672Czw4E09zy8Czw5B89zw70B9zw6253",
      "zw76D7zw52DDzw6557"]),
    (0x1f250, ["aCIRCLED IDEOGRAPH ADVANTAGEtCCEPT"]),
    (0x1f260, ["aROUNDED SYMBOL FOR FUtLUtSHOUtXItSHUANGXItCAI"]),
    (0x1f300, ["aCYCLONEaFOGGYaCLOSED UMBRELLAaNIGHT WITH STARSaSUNRISE OVER MOUNTAINSgE",
      "aCITYSCAPE AT DUSKaSUNSET OVER BUILDINGSaRAINBOWaBRIDGE AT NIGHTaWATER WAVEaVOLCANO",
      "aMILKY WAYaEARTH GLOBE EUROPE-AFRICAmAMERICASnSIA-AUSTRALIAaGLOBE WITH MERIDIANS",
      "aNEW MOON SYMBOLa.mWAXING CRESCENTa.mFIRST QUARTERa.mWAXING GIBBOUSa.mFULL",
      "a.mWANING GIBBOUSa.mLAST QUARTERa.mWANING CRESCENTaCRESCENT MOONaNEW MOON WITH FACE",
      "a.pFIRST QUARTERa.zLAa.pFULLa.lSUaGLOWING STARa.iSHOOTaTHERMOMETERaBLACK DROPLET",
      "aWHITE SUNj WITH SMALL CLOUDk.gBEHINDw WITH RAINa.oClSNOWlLIGHTNINGlTORNADOaFOG",
      "aWIND BLOWING FACEaHOT DOGaTACOaBURRITOaCHESTNUTaSEEDLINGaEVERGREEN TREEa.fDECIDUOUS",
      "a.fPALMaCACTUSaHOT PEPPERaTULIPaCHERRY BLOSSOMaROSEaHIBISCUSaSUNFLOWERaBLOSSOM",
      "aEAR OF MAIZEhRICEaHERBaFOUR LEAF CLOVERaMAPLE LEAFa.fFALLENaLEAF FLUTTERING IN WIND",
      "aMUSHROOMaTOMATOaAUBERGINEaGRAPESaMELONa.fWATERaTANGERINEaLEMONaBANANAaPINEAPPLEa.fRED ",
      "a.gGREENaPEARdCHaCHERRIESaSTRAWBERRYaHAMBURGERaSLICE OF PIZZAaMEAT ON BONEaPOULTRY LEG",
      "aRICE CRACKERfBALLaCOOKED RICEb.gURRY ANaSTEAMING BOWLbPAGHETTIaBREADaFRENCH FRIES",
      "aROASTED SWEET POTATOaDANGOaODENaSUSHIaFRIED SHRIMPbISH CAKE WITH SWIRL DESIGN",
      "aSOFT ICE CREAMbHAVED ICEaICE CREAMaDOUGHNUTaCOOKIEbHOCOLATE BARbANDYaLOLLIPOPaCUSTARD",
      "aHONEY POTaSHORTCAKEaBENTO BOXaPOT OF FOODaCOOKINGaFORK AND KNIFEaTEACUP WITHOUT HANDLE",
      "aSAKE BOTTLE AND CUPaWINE GLASSa.gCOCKTAILaTROPICAL DRINKaBEER MUGaCLINKING BEER MUGS",
      "aBABY BOTTLEaFORK AND KNIFE WITH PLATEaBOTTLE WITH POPPING CORKaPOPCORNaRIBBON",
      "aWRAPPED PRESENTaBIRTHDAY CAKEaJACK-O-LANTERNaCHRISTMAS TREEaFATHER CHRISTMASbIREWORKS",
      "i SPARKLERaBALLOONaPARTY POPPERaCONFETTI BALLaTANABATA TREEaCROSSED FLAGSaPINE DECORATION",
      "aJAPANESE DOLLSaCARP STREAMERaWIND CHIMEaMOON VIEWING CEREMONYaSCHOOL SATCHEL",
      "aGRADUATION CAPaHEART WITH TIP ON THE LEFTaBOUQUET OF FLOWERSaMILITARY MEDAL",
      "aREMINDER RIBBONaMUSICAL KEYBOARD WITH JACKSaSTUDIO MICROPHONEaLEVEL SLIDERaCONTROL KNOBS",
      "aBEAMED ASCENDING MUSICAL NOTESh.wDEaFILM FRAMESaADMISSION TICKETSaCAROUSEL HORSE",
      "aFERRIS WHEELaROLLER COASTERaFISHING POLE AND FISHaMICROPHONEbOVIE CAMERAaCINEMA",
      "aHEADPHONEaARTIST PALETTEaTOP HATaCIRCUS TENTaTICKETaCLAPPER BOARDaPERFORMING ARTS",
      "aVIDEO GAMEaDIRECT HITaSLOT MACHINEaBILLIARDSaGAME DIEaBOWLINGaFLOWER PLAYING CARDS",
      "aMUSICAL NOTEcLTIPLE MUSICAL NOTESaSAXOPHONEaGUITARaMUSICAL KEYBOARDaTRUMPETaVIOLIN",
      "aMUSICAL SCOREaRUNNING SHIRT WITH SASHaTENNIS RACQUET AND BALLaSKI AND SKI BOOT",
      "aBASKETBALL AND HOOPaCHEQUERED FLAGaSNOWBOARDERaRUNNERaSURFERbPORTS MEDALaTROPHY",
      "aHORSE RACINGaAMERICAN FOOTBALLa.jRUGBYaSWIMMERaWEIGHT LIFTERaGOLFERaRACING MOTORCYCLE",
      "hCARaCRICKET BAT AND BALLa.eVOLLEYa.eFIELD HOCKEY STICK AND aICE HOCKEY STICK AND PUCK",
      "aTABLE TENNIS PADDLE AND BALLaSNOW CAPPED MOUNTAINaCAMPINGaBEACH WITH UMBRELLA",
      "bUILDING CONSTRUCTIONaHOUSE BUILDINGSaCITYSCAPEaDERELICT HOUSE BUILDINGa.jCLASSICAL",
      "aDESERTg ISLANDaNATIONAL PARKaSTADIUMaHOUSE BUILDINGgWITH GARDENaOFFICE BUILDING",
      "aJAPANESE POST OFFICEa.mEUROPEANaHOSPITALaBANKaAUTOMATED TELLER MACHINEaHOTELa.fLOVE ",
      "aCONVENIENCE STOREaSCHOOLaDEPARTMENT STOREaFACTORYaIZAKAYA LANTERNaJAPANESE CASTLE",
      "a.hEUROPEANaWHITE PENNANTa.iBLACKaWAVING WHITE FLAGh.fBLACKaROSETTEa.hBLACK aLABEL",
      "aBADMINTON RACQUET AND SHUTTLECOCKbOW AND ARROWaAMPHORA",
      "aEMOJI MODIFIER FITZPATRICK TYPE-1-2zh3zh4zh5zh6aRATaMOUSEaOXaWATER BUFFALOaCOWaTIGER",
      "aLEOPARDaRABBITaCATaDRAGONaCROCODILEaWHALEaSNAILdKEaHORSEaRAMaGOATaSHEEPaMONKEYaROOSTER",
      "aCHICKENaDOGaPIGaBOARaELEPHANTaOCTOPUSaSPIRAL SHELLaBUGaANTaHONEYBEEaLADY BEETLEaFISH",
      "a.eTROPICAL a.eBLOWaTURTLEaHATCHING CHICKa.gBABYa.kFRONT-FACING aBIRDaPENGUINaKOALA",
      "aPOODLEaDROMEDARY CAMELa.gBACTRIANaDOLPHINaMOUSE FACEa.fCOWa.fTIGERa.fRABBITa.gCA",
      "a.fDRAGONaSPOUTING WHALEaHORSE FACEa.fMONKEYa.fDOGa.gPIa.gFROa.fHAMSTERa.fWOLFa.fBEAR",
      "a.fPANDAbIG NOSEbAW PRINTSaCHIPMUNKaEYEScEbARaNOSEaMOUTHaTONGUE",
      "aWHITE UP POINTING BACKHAND INDEXg.yDOWNg.yLEFTg.zRIGHaFISTED HAND SIGNa.kWAVINGa.kOK",
      "a.fTHUMBS UPh.fDOWNa.fCLAPPING HANDSa.lOPENaCROWNaWOMANS HATaEYEGLASSESaNECKTIEaT-SHIRT",
      "aJEANSaDRESSaKIMONOaBIKINIaWOMANS CLOTHESaPURSEaHANDBAGaPOUCHaMANS SHOEa.fATHLETIC",
      "a.fHIGH-HEELEDaWOMANS SANDALhBOOTSaFOOTPRINTSaBUST IN SILHOUETTEe.oSbOYaGIRLaMANa.dWO",
      "aFAMILYaMAN AND WOMAN HOLDING HANDSa.pTWO MEe.rWOaPOLICE OFFICERaWOMAN WITH BUNNY EARS",
      "aBRIDE WITH VEILaPERSON WITH BLOND HAIRaMAN WITH GUA PI MAOjTURBANaOLDER MANg.dWOaBABY",
      "aCONSTRUCTION WORKERaPRINCESSaJAPANESE OGREjGOBLINaGHOSTaBABY ANGEL",
      "aEXTRATERRESTRIAL ALIENaALIEN MONSTERaIMPaSKULLaINFORMATION DESK PERSONaGUARDSMANaDANCER",
      "aLIPSTICKaNAIL POLISHaFACE MASSAGEaHAIRCUTaBARBER POLEaSYRINGEaPILLaKISS MARKaLOVE LETTER",
      "aRINGaGEM STONEaKISSaBOUQUETaCOUPLE WITH HEARTaWEDDINGaBEATING HEARTb.gROKENaTWO HEARTS",
      "aSPARKLING HEARTa.jGROWaHEART WITH ARROWaBLUE HEARTa.gGREENa.gYELLOWa.gPURPLE",
      "aHEART WITH RIBBONaREVOLVING HEARTSaHEART DECORATIONaDIAMOND SHAPE WITH A DOT INSIDE",
      "aELECTRIC LIGHT BULBaANGER SYMBOLaBOMBaSLEEPING SYMBOLa.hCOLLISIONa.hSPLASHING SWEAT",
      "aDROPLETbASH SYMBOLaPILE OF POOaFLEXED BICEPSaDIZZY SYMBOLaSPEECH BALLOONa.iTHOUGHT",
      "aWHITE FLOWERaHUNDRED POINTS SYMBOLaMONEY BAGaCURRENCY EXCHANGEaHEAVY DOLLAR SIGN",
      "aCREDIT CARDaBANKNOTE WITH YEN SIGNo.fDOLLARo.fEUROo.fPOUNDaMONEY WITH WINGS",
      "aCHART WITH UPWARDS TREND AND YEN SIGNaSEATaPERSONAL COMPUTERaBRIEFCASEaMINIDISC",
      "aFLOPPY DISKaOPTICAL DISCaDVDaFILE FOLDERa.lOPEN aPAGE WITH CURLfFACING UPaCALENDAR",
      "a.iTEAR-OFF aCARD INDEXbHART WITH UPWARDS TRENDl.lDOWNaBAR CHARTaCLIPBOARDaPUSHPIN",
      "a.hROUND aPAPERCLIPaSTRAIGHT RULERa.gTRIANGULARaBOOKMARK TABSaLEDGERaNOTEBOOK",
      "i WITH DECORATIVE COVERaCLOSED BOOKa.fOPENa.hGREa.fBLUEa.gORANGaBOOKSaNAME BADGEaSCROLL",
      "aMEMOaTELEPHONE RECEIVERaPAGERaFAX MACHINEaSATELLITE ANTENNAaPUBLIC ADDRESS LOUDSPEAKER",
      "aCHEERING MEGAPHONEaOUTBOX TRAYa.iINaPACKAGEaE-MAIL SYMBOLaINCOMING ENVELOPE",
      "aENVELOPE WITH DOWNWARDS ARROW ABOVEaCLOSED MAILBOX WITH LOWERED FLAGu.hRAISa.zOPEN",
      "s.hLOWERaPOSTBOXeAL HORNaNEWSPAPERaMOBILE PHONEm WITH RIGHTWARDS ARROW AT LEFT",
      "aVIBRATION MODEaMOBILE PHONE OFFaNO MOBILE PHONESaANTENNA WITH BARSaCAMERAg WITH FLASH",
      "aVIDEO CAMERAaTELEVISIONaRADIOaVIDEOCASSETTEaFILM PROJECTORaPORTABLE STEREObRAYER BEADS",
      "aTWISTED RIGHTWARDS ARROWSa.hCLOCKWISE RIGHTWARDS AND LEFTWARDS OPEN CIRCLE",
      "zzd WITH CIRCLED ONE OVERLAYkDOWNWARDS AND UPWARDS OPEN CIRCLE ARROWSa.zzANTI",
      "aLOW BRIGHTNESS SYMBOLa.sHIGHaSPEAKER WITH CANCELLATION STROKEgRh WITH ONE SOUND WAVE",
      "nTHREE SOUND WAVESaBATTERYaELECTRIC PLUGaLEFT-POINTING MAGNIFYING GLASSa.zcRIGH",
      "aLOCK WITH INK PENaCLOSED LOCK WITH KEYaKEYaLOCKa.eOPEN aBELLe WITH CANCELLATION STROKE",
      "bOOKMARKaLINK SYMBOLaRADIO BUTTONaBACK WITH LEFTWARDS ARROW ABOVEa.zcEND",
      "a.mON WITH EXCLAMATION MARK WITH LEFT RIGHTa.mSOON WITH RIGHTWARDSa.rTOP WITH UP",
      "aNO ONE UNDER EIGHTEEN SYMBOLaKEYCAP TENaINPUT SYMBOL FOR LATIN CAPITAL LETTERSx.jSMAL",
      "r.dNUMBrSYMBOLSrLATIN LETTERSaFIREaELECTRIC TORCHaWRENCHaHAMMERaNUT AND BOLTaHOCHOaPISTOL",
      "aMICROSCOPEa.fTELEaCRYSTAL BALLaSIX POINTED STAR WITH MIDDLE DOT",
      "aJAPANESE SYMBOL FOR BEGINNERaTRIDENT EMBLEMaBLACK SQUARE BUTTONa.oWHITEaLARGE RED CIRCLE",
      "g.hBLUEgORANGE DIAMONDg.jBLUa.jSMALL ORANGg.jBLUaUP-POINTING RED TRIANGLEa.wDOWN",
      "a.nUP-POINTING SMALLa.zdDOWNaLOWER RIGHT SHADOWED WHITE CIRCLEa.zfUPP",
      "aCIRCLED CROSS POMMEEbROSS POMMEE WITH HALF-CIRCLE BELOWlE",
      "aNOTCHED LEFT SEMICIRCLE WITH THREE DOTSi.zdRIGHaSYMBOL FOR MARKS CHAPTER",
      "aWHITE LATIN CROSSa.mHEAVYa.gCELTICaOM SYMBOLaDOVE OF PEACEaKAABAaMOSQUEaSYNAGOGUE",
      "aMENORAH WITH NINE BRANCHESaBOWL OF HYGIEIAaCLOCK FACE ONE OCLOCKl.hTWOm.hHREEl.hFOUR",
      "m.hIVEl.hSIXm.hEVENl.hEIGHTl.hNINEl.hTENl.jELEVl.hTWELVElONE-THIRTYl.hTWOm.hHREEl.hFOUR",
      "m.hIVEl.hSIXm.hEVENl.hEIGHTl.hNINEl.hTENl.jELEVl.hTWELVEaRIGHT SPEAKER",
      "n WITH ONE SOUND WAVEtTHREE SOUND WAVESaBULLHORNi WITH SOUND WAVESaRINGING BELLaBOOK",
      "aCANDLEaMANTELPIECE CLOCKaBLACK SKULL AND CROSSBONESaNO PIRACYaHOLE",
      "aMAN IN BUSINESS SUIT LEVITATINGaSLEUTH OR SPYaDARK SUNGLASSESaSPIDERg WEBaJOYSTICK",
      "aMAN DANCINGaLEFT HAND TELEPHONE RECEIVERaTELEPHONE RECEIVER WITH PAGE",
      "aRIGHT HAND TELEPHONE RECEIVERaWHITE TOUCHTONE TELEPHONEa.uBLACK",
      "aTELEPHONE ON TOP OF MODEMaCLAMSHELL MOBILE PHONEaBACK OF ENVELOPEa.jSTAMPED",
      "aENVELOPE WITH LIGHTNINGaFLYING ENVELOPEa.jPEN OVER STAMPEDaLINKED PAPERCLIPS",
      "aBLACK PUSHPINaLOWER LEFT PENCILlBALLPOINT PENl.eFOUNTAINlPAINTBRUSHlCRAYON",
      "bEFT WRITING HANDaTURNED OK HAND SIGNaRAISED HAND WITH FINGERS SPLAYEDb.zgEVERSED R",
      "jTHUMBS UP SIGNq.fDOWNjVICTORY HANDjHAND WITH MIDDLE FINGER EXTENDED",
      "bAISED HAND WITH PART BETWEEN MIDDLE AND RING FINGERSaWHITE DOWN POINTING LEFT HAND INDEX",
      "a.gSIDEWAYS WHITE LEFT POINTINGp.qRIGHj.qBLACK LEFp.qRIGHa.gBLACK LEFT POINTING BACKHAND",
      "g.zRIGHa.gSIDEWAYS WHITE UP POINTINGp.pDOWNj.pBLACK UPp.pDOWN",
      "a.gBLACK UP POINTING BACKHANDg.yDOWNgHEARTaDESKTOP COMPUTERaKEYBOARD AND MOUSE",
      "aTHREE NETWORKED COMPUTERSaPRINTERbOCKET CALCULATORaBLACK HARD SHELL FLOPPY DISKa.xWHITE",
      "a.sSOFTaTAPE CARTRIDGEaWIRED KEYBOARDaONE BUTTON MOUSEa.nTWOb.nHREEbRACKBALL",
      "aOLD PERSONAL COMPUTERaHARD DISKaSCREENaPRINTER ICONa.fFAXa.fOPTICAL DISC",
      "aDOCUMENT WITH TEXTs AND PICTUREo.gPa.nFRAMElTILESlAN XaBLACK FOLDERa.fFa.gOPEN ",
      "aCARD INDEX DIVIDERSfFILE BOXaFILE CABINETaEMPTY NOTEk PAGEnDaNOTEe PAGEhDaEMPTY DOCUMENT",
      "gPAGEkSaDOCUMENTaPAGEeSaWASTEBASKETaSPIRAL NOTE PADh.eCALENDARaDESKTOP WINDOWaMINIMIZE",
      "b.fAXaOVERLAPaCLOCKWISE RIGHT AND LEFT SEMICIRCLE ARROWSbANCELLATION X",
      "aINCREASE FONT SIZE SYMBOLa.xDEaCOMPRESSIONaOLD KEYaROLLED-UP NEWSPAPER",
      "aPAGE WITH CIRCLED TEXTaSTOCK CHARTaDAGGER KNIFEaLIPSaSPEAKING HEAD IN SILHOUETTE",
      "aTHREE RAYS ABOVElBELOWlLEFTlRIGHTaLEFT SPEECH BUBBLEa.pRIGHaTWO SPEECH BUBBLESb.pHREE",
      "aLEFT THOUGHT BUBBLEa.qRIGHa.hLEFT ANGERa.oRIGHa.hMOODa.lLIGHTNING nD",
      "aBALLOT BOX WITH BALLOThSCRIPT Xh.iBOX WITH j.jLDj.lX WITH BOaLIGHT CHECK MARK",
      "aBALLOT BOX WITH BOLD CHECKaWORLD MAPaMOUNT FUJIaTOKYO TOWERaSTATUE OF LIBERTY",
      "bILHOUETTE OF JAPANaMOYAIaGRINNING FACEn WITH SMILING EYESaFACE WITH TEARS OF JOY",
      "aSMILING FACE WITH OPEN MOUTHzd AND SMILING EYESziCOLD SWEATziTIGHTLY-CLOSED EYESsHALO",
      "tORNSaWINKING FACEaSMILING FACE WITH SMILING EYESaFACE SAVOURING DELICIOUS FOOD",
      "aRELIEVED FACEaSMILING FACE WITH HEART-SHAPED EYESsSUNGLASSESdRKING FACEa.fNEUTRAL",
      "a.fEXPRESSIONLESSa.fUNAMUSEDaFACE WITH COLD SWEATaPENSIVE FACEa.fCONFUSEDe.hOUND",
      "a.fKISSINGaFACE THROWING A KISSaKISSING FACE WITH SMILING EYESs.fCLOSED",
      "aFACE WITH STUCK-OUT TONGUEzb AND WINKING EYEzgTIGHTLY-CLOSED EYESaDISAPPOINTED FACE",
      "a.hWORRIa.fANGRYa.fPOUTINGa.iCRYa.iPERSEVERaFACE WITH LOOK OF TRIUMPH",
      "aDISAPPOINTED BUT RELIEVED FACEaFROWNING FACE WITH OPEN MOUTHaANGUISHED FACEa.fFEARFUL",
      "a.fWEARYa.gSLEEPa.fTIREDa.fGRIMACINGa.iLOUDLY CRYaFACE WITH OPEN MOUTHaHUSHED FACE",
      "aFACE WITH OPEN MOUTH AND COLD SWEATfSCREAMING IN FEARaASTONISHED FACEa.jFLUa.fSLEEPING",
      "a.fDIZZYaFACE WITHOUT MOUTHj MEDICAL MASKaGRINNING CAT FACE WITH SMILING EYES",
      "aCAT FACE WITH TEARS OF JOYaSMILING CAT FACE WITH OPEN MOUTHwHEART-SHAPED EYES",
      "aCAT FACE WITH WRY SMILEaKISSING CAT FACE WITH CLOSED EYESaPOUTING CAT FACEa.mCRYa.jWEARY",
      "a.fSLIGHTLY FROWNINGj.iSMILa.fUPSIDE-DOWNaFACE WITH ROLLING EYESkNO GOOD GESTUREk.iOK",
      "aPERSON BOWING DEEPLYaSEE-NO-EVIL MONKEYa.pHEARa.pSPEAKaHAPPY PERSON RAISING ONE HAND",
      "aPERSON RAISING BOTH HANDS IN CELEBRATIONhFROWNINGhWITH POUTING FACEmFOLDED HANDS",
      "aNORTH WEST POINTING LEAFa.vSOUa.qNORTH EAa.vSOUa.qTURNED NORTH WEh.vSOUh.qNORTH EAh.vSOU",
      "a.fNORTH WEST POINTING VINEa.zbSOUa.vNORTH EAa.zbSOUa.vHEAVY NORTH WEg.zbSOUg.vNORTH EA",
      "g.zbSOUaNORTH WEST POINTING BUDa.uSOUa.pNORTH EAa.uSOUa.pHEAVY NORTH WEg.uSOUg.pNORTH EA",
      "g.uSOUbOLLOW QUILT SQUARE ORNAMENTzd IN BLACK SQUAREaSOLID QUILT SQUARE ORNAMENT",
      "zc IN BLACK SQUAREaLEFTWARDS ROCKETa.mUPa.mRIGHTa.mDOWNaSCRIPT LIGATURE ET ORNAMENT",
      "a.zcHEAVY a.mLIGATURE OPENa.zHEAVY g.jAMPERSANDa.tSWASH",
      "b.jANS-SERIF HEAVY DOUBLE TURNED COMMA QUOTATION MARKy.zdCr.zlLOW a.jHEAVY INTERROBANG",
      "a.vSANS-SERIFa.zgHEAVY aVERY HEAVY SOLIDUSl.hREVERSE aCHECKER BOARDa.nREVERSE bOCKET",
      "aHELICOPTERaSTEAM LOCOMOTIVEaRAILWAY CARaHIGH-SPEED TRAINq WITH BULLET NOSEaTRAINaMETRO",
      "aLIGHT RAILaSTATIONaTRAMe CARaBUSa.dONCOMING a.dTROLLEYaBUS STOPaMINIBUSaAMBULANCE",
      "aFIRE ENGINEaPOLICE CARa.kONCOMING aTAXIa.eONCOMING aAUTOMOBILEa.kONCOMING ",
      "aRECREATIONAL VEHICLEaDELIVERY TRUCKaARTICULATED LORRYaTRACTORaMONORAILcUNTAIN RAILWAY",
      "a.jSUSPENSIOa.dMOUNTAIN CABLEa.dAERIAL TRAMaSHIPaROWBOATa.eSPEEDaHORIZONTAL TRAFFIC LIGHT",
      "a.qVERTICaCONSTRUCTION SIGNaPOLICE CARS REVOLVING LIGHTaTRIANGULAR FLAG ON POSTaDOOR",
      "aNO ENTRY SIGNaSMOKING SYMBOLa.oNO a.hPUT LITTER IN ITS PLACEa.hDO NOT LITTER",
      "a.kPOTABLE WAa.uNON-aBICYCLEaNO BICYCLESaBICYCLISTa.jMOUNTAIN aPEDESTRIANaNO PEDESTRIANS",
      "aCHILDREN CROSSINGaMENS SYMBOLa.lWOaRESTROOMaBABY SYMBOLaTOILETaWATER CLOSETaSHOWERaBATH",
      "eTUBaPASSPORT CONTROLaCUSTOMSaBAGGAGE CLAIMaLEFT LUGGAGEaTRIANGLE WITH ROUNDED CORNERS",
      "aPROHIBITED SIGNaCIRCLED INFORMATION SOURCEaBOYS SYMBOLa.iGIRLaCOUCH AND LAMP",
      "aSLEEPING ACCOMMODATIONbHOPPING BAGSaBELLHOP BELLcDaPLACE OF WORSHIPaOCTAGONAL SIGN",
      "aSHOPPING TROLLEYbTUPAaPAGODAaHINDU TEMPLEbUTaELEVATOR"]),
    (0x1f6dd, ["aPLAYGROUND SLIDEaWHEELaRING BUOYaHAMMER AND WRENCHaSHIELDaOIL DRUMaMOTORWAY",
      "aRAILWAY TRACKaMOTOR BOATaUP-POINTING MILITARY AIRPLANEm.hAm.iSMALL a.nS",
      "a.jNORTHEAST-POINTINGaAIRPLANE DEPARTUREjARRIVING"]),
    (0x1f6f0, ["aSATELLITEaONCOMING FIRE ENGINEaDIESEL LOCOMOTIVEaPASSENGER SHIPaSCOOTER",
      "a.hMOTOR aCANOEaSLEDaFLYING SAUCERaSKATEBOARDaAUTO RICKSHAWaPICKUP TRUCKaROLLER SKATE"]),
    (0x1f700, ["aALCHEMICAL SYMBOL FOR QUINTESSENCEwAIRwFIREwEARTHwWATERwAQUAFORTISzb REGIAzh-2",
      "zcVITAEzh-2wVINEGARze-2zf3wSULFURw.gPHILOSOPHERS w.hBLACKwMERCURY SUBLIMATEzo-2zp3",
      "wCINNABARwSALTwNITREwVITRIOLze-2wROCK SALTzg-2wGOLDwSILVERwIRON OREzf-2wCROCUS OF IRON",
      "w.kREGULwCOPPER OREw.kIRON-wSUBLIMATE OF COPPERw.kCROCUSzn-2xOPPER ANTIMONIATEw.sSALT OF ",
      "xUBLIMATE OF SALT OF COPPERwVERDIGRISwTIN OREw.eLEADw.eANTIMONYwSUBLIMATE OF ANTIMONY",
      "x.mALTx.pUBLIMATE OF Sw.mVINEGARw.mREGULUSzq-2zdSze-2zf3zf4wALKALIzd-2wMARCASITE",
      "wSAL-AMMONIACwARSENICwREALGARze-2wAURIPIGMENTwBISMUTH OREwTARTARzd-2wQUICK LIMEwBORAXzc-2",
      "zd3wALUMwOILwSPIRITwTINCTUREwGUMwWAXwPOWDERwCALXwTUTTYwCAPUT MORTUUMwSCEPTER OF JOVE",
      "wCADUCEUSwTRIDENTw.hSTARRED wLODESTONEwSOAPwURINEwHORSE DUNGwASHESw.fPOT wBRICK",
      "w.fPOWDERED wAMALGAMwSTRATUM SUPER STRATUMzs-2xUBLIMATIONwPRECIPITATEwDISTILLzSOLVEzf-2",
      "wPURIFYyTREFACTIONwCRUCIBLEzf-2zg3zg4zg5wALEMBICwBATH OF MARYzfVAPOURSwRETORTwHOURwNIGHT",
      "w.fDAY-wMONTHwHALF DRAMzcOUNCE"]),
    (0x1f780, ["aBLACK LEFT-POINTING ISOSCELES RIGHT TRIANGLEg.zjUPg.zjRIGHTg.zjDOWN",
      "gSLIGHTLY SMALL CIRCLEa.hMEDIUM BOLD WHITEa.qBa.nHEAVYa.sVERY a.uEXTREMEL",
      "a.hWHITE CIRCLE CONTAINING BLACK SMALLaROUND TARGETaBLACK TINY SQUAREg.hSLIGHTLY SMALL",
      "a.hLIGHT WHITEa.nMEDIUMa.nBOLDa.nHEAVYa.sVERY a.uEXTREMEL",
      "a.hWHITE SQUARE CONTAINING BLACK VERY SMALLzf.hMEDIUMaSQUARE TARGETaBLACK TINY DIAMOND",
      "g.iVERY SMALLg.oMEDIUMa.oWHITE DIAMOND CONTAINING BLACK VERYzg.iMEDIUMaDIAMOND TARGET",
      "aBLACK TINY LOZENGEg.iVERY SMALLg.oMEDIUMa.oWHITE LOZENGE CONTAINING BLACK",
      "aTHIN GREEK CROSSa.mLIGHTa.mMEDIUMa.mBOLDa.qVERY f.mHEAVYa.tEXTREMELaTHIN SALTIREa.iLIGHT",
      "a.iMEDIUMa.iBOLDa.iHEAVYa.nVERY a.pEXTREMELaLIGHT FIVE SPOKED ASTERISKa.vMEDIUMa.vBOLD",
      "a.vHEAVYa.zbVERY a.zdEXTREMELa.qLIGHT SIXa.uMEDIUMa.uBOLDa.uHEAVYa.zVERY a.zcEXTREMEL",
      "a.qLIGHT EIGHTa.wMEDIUMa.wBOLDa.wHEAVYa.zcVERY aLIGHT THREE POINTED BLACK STARa.zMEDIUM",
      "a.xTa.fMEDIUM THREE POINTED PINWHEELa.fLIGHT FOUR POINTED BLACKa.yMEDIUMa.wF",
      "a.fMEDIUM FOUR POINTED PINWHEELa.zcREVERSE LIGHTa.fLIGHT FIVE POINTED BLACKa.yHEAVY",
      "a.tMEDIUM SIXa.xHEAVYa.fSIX POINTED PINWHEELa.fMEDIUM EIGHT POINTED BLACKa.zHEAVY",
      "a.zfVERY a.fHEAVY EIGHT POINTED PINWHEELa.fLIGHT TWELVE POINTED BLACKa.zbHEAVYv.fPINWHEEL",
      "aCIRCLED TRIANGLEa.qNEGATIVE aCIRCLED SQUAREa.oNEGATIVE "]),
    (0x1f7e0, ["aLARGE ORANGE CIRCLEg.hYELLOWg.hGREENg.hPURPLEg.hBROWNgRED SQUAREg.hBLUEg.iORANG",
      "g.hYELLOWg.hGREENg.hPURPLEg.hBROWN"]),
    (0x1f7f0, ["aHEAVY EQUALS SIGN"]),
    (0x1f800, ["aLEFTWARDS ARROW WITH SMALL TRIANGLE ARROWHEADa.zqUPa.zqRIGHTa.zqDOWN",
      "a.tLEFTWARDS ARROW WITH MEDIUMa.zrUPa.zrRIGHTa.zrDOWNa.tLEFTWARDS ARROW WITH LARGEa.zqUP",
      "a.zqRIGHTa.zqDOWN"]),
    (0x1f810, ["a.kLEFTWARDS ARROW WITH SMALL EQUILATERALa.ztUPa.ztRIGHTa.ztDOWN",
      "a.wLEFTWARDS ARROW WITHa.znUPa.znRIGHTa.znDOWNa.znHEAVY LEFTg.znUPg.znRIGHTg.znDOWN",
      "g.wLEFTWARDS ARROW WITH LARGEg.ztUPg.ztRIGHTg.ztDOWN",
      "aLEFTWARDS TRIANGLE-HEADED ARROW WITH NARROW SHAFTa.zuUPa.zuRIGHTa.zuDOWN",
      "a.gLEFTWARDS TRIANGLE-HEADED ARROW WITH MEDIUMa.zuUPa.zuRIGHTa.zuDOWN",
      "a.gLEFTWARDS TRIANGLE-HEADED ARROW WITH BOLDa.zsUPa.zsRIGHTa.zsDOWN",
      "a.gLEFTWARDS TRIANGLE-HEADED ARROW WITH HEAVYa.ztUPa.ztRIGHTa.ztDOWN",
      "a.mLEFTWARDS TRIANGLE-HEADED ARROW WITH VERYa.zyUPa.zyRIGHTa.zyDOWN",
      "aLEFTWARDS FINGER-POST ARROWa.xUPa.xRIGHTa.xDOWNa.gLEFTWARDS SQUAREDa.tUPa.tRIGHTa.tDOWN",
      "a.iLEFTWARDS COMPRESSa.wUPa.wRIGHTa.wDOWNa.rLEFTWARDS HEAVYa.zdUPa.zdRIGHTa.zdDOWN",
      "a.gLEFTWARDS HEAVYa.rUPa.rRIGHTa.rDOWN"]),
    (0x1f850, ["a.gLEFTWARDS SANS-SERIFa.wUPa.wRIGHTa.wDOWNa.rNORTH WESTg.tEAa.ySOUg.tWE",
      "a.sLEFT RIGHa.rUP DOWN"]),
    (0x1f860, ["a.gWIDE-HEADED LEFTWARDS LIGHT BARBm.wUPm.wRIGHTm.wDOWNm.rNORTH WESTs.tEAm.ySOU",
      "s.tWEm.lLEFTWARDSm.qUPm.qRIGHTm.qDOWNm.lNORTH WESTs.nEAm.sSOUs.nWEm.lLEFTWARDS MEDIUM",
      "m.xUPm.xRIGHTm.xDOWNm.sNORTH WESTs.uEAm.zSOUs.uWEm.lLEFTWARDS HEAVYm.wUPm.wRIGHTm.wDOWN",
      "m.rNORTH WESTs.tEAm.ySOUs.tWEm.rLEFTWARDS VERYm.zcUPm.zcRIGHTm.zcDOWNm.wNORTH WESTs.yEA",
      "m.zeSOUs.yWE"]),
    (0x1f890, ["aLEFTWARDS TRIANGLE ARROWHEADa.yUPa.yRIGHTa.yDOWNa.tLEFTWARDS WHITE ARROW WITHIN",
      "a.zsUPa.zsRIGHTa.zsDOWNaLEFTWARDS ARROW WITH NOTCHED TAILa.zeUPa.zeRIGHTa.zeDOWN",
      "aHEAVY ARROW SHAFT WIDTH ONEyTWO THIRDSyONE HALFzdTHIRD",
      "aLEFTWARDS BOTTOM-SHADED WHITE ARROWa.sRIGHTWARDS BOTTOM a.tLEFTWARDS TOPa.zeRIGH",
      "a.sLEFTWARDS LEFT-a.uRIGHTWARDS RIGHa.zgLEFa.uRIGHTWARDS LEF",
      "a.oLEFTWARDS BACK-TILTED SHADOWa.zoRIGHa.zdLEFTWARDS FRONTa.zpRIGH",
      "aWHITE ARROW SHAFT WIDTH ONEyTWO THIRDS"]),
    (0x1f8b0, ["aARROW POINTING UPWARDS THEN NORTH WESTp.hRIGHTWARDS THEN CURVING SOU"]),
    (0x1f900, ["aCIRCLED CROSS FORMEE WITH FOUR DOTSzb.fTWOtEaLEFT HALF CIRCLE WITH FOUR DOTS",
      "w.fTHREEx.fWOwDOTpEaDOWNWARD FACING HOOKq.eNOTCHED qHOOK WITH DOTq.nNOTCHED ",
      "aPINCHED FINGERSaWHITE HEARTa.gBROWNaPINCHING HANDaZIPPER-MOUTH FACEa.lMONEY",
      "aFACE WITH THERMOMETERaNERD FACEa.fTHINKINGaFACE WITH HEAD-BANDAGEaROBOT FACEa.fHUGGING",
      "aSIGN OF THE HORNSaCALL ME HANDa.fRAISED BACK OFaLEFT-FACING FISTa.nRIGHaHANDSHAKE",
      "e WITH INDEX AND MIDDLE FINGERS CROSSEDaI LOVE YOU HAND SIGNaFACE WITH COWBOY HAT",
      "aCLOWN FACEa.fNAUSEATEDaROLLING ON THE FLOOR LAUGHINGaDROOLING FACEa.iLYaFACE PALM",
      "aSNEEZING FACEaFACE WITH ONE EYEBROW RAISEDaGRINNING FACE WITH STAR EYES",
      "tONE LARGE AND ONE SMALL EYEaFACE WITH FINGER COVERING CLOSED LIPS",
      "aSERIOUS FACE WITH SYMBOLS COVERING MOUTHb.pMILING FACE WITH SMILING EYES AND HAND",
      "aFACE WITH OPEN MOUTH VOMITINGaSHOCKED FACE WITH EXPLODING HEADaPREGNANT WOMAN",
      "aBREAST-FEEDINGaPALMS UP TOGETHERaSELFIEaPRINCEaMAN IN TUXEDObOTHER CHRISTMASaSHRUG",
      "aPERSON DOING CARTWHEELaJUGGLINGaFENCERaMODERN PENTATHLONaWRESTLERSbATER POLOaHANDBALL",
      "aDIVING MASKaWILTED FLOWERaDRUM WITH DRUMSTICKSaCLINKING GLASSESaTUMBLER GLASSaSPOON",
      "aGOAL NETaRIFLEaFIRST PLACE MEDALa.mSECONDa.nTHIRaBOXING GLOVEaMARTIAL ARTS UNIFORM",
      "aCURLING STONEaLACROSSE STICK AND BALLa.eSOFTaFLYING DISCaCROISSANTaAVOCADOaCUCUMBER",
      "aBACONaPOTATOaCARROTaBAGUETTE BREADaGREEN SALADaSHALLOW PAN OF FOODbTUFFED FLATBREADaEGG",
      "aGLASS OF MILKaPEANUTSaKIWIFRUITaPANCAKESaDUMPLINGaFORTUNE COOKIEaTAKEOUT BOXaCHOPSTICKS",
      "aBOWL WITH SPOONaCUP WITH STRAWbOCONUTaBROCCOLIaPIEbRETZELaCUT OF MEATaSANDWICH",
      "aCANNED FOODaLEAFY GREENaMANGObOON CAKEaBAGEL",
      "aSMILING FACE WITH SMILING EYES AND THREE HEARTSaYAWNING FACEaSMILING FACE WITH TEAR",
      "aFACE WITH PARTY HORN AND PARTY HATkUNEVEN EYES AND WAVY MOUTHaOVERHEATED FACEa.fFREEZING",
      "aNINJAaDISGUISED FACEaFACE HOLDING BACK TEARSfWITH PLEADING EYESaSARIaLAB COATaGOGGLES",
      "aHIKING BOOTaFLAT SHOEaCRABaLION FACEaSCORPIONaTURKEYaUNICORN FACEaEAGLEaDUCKaBATaSHARK",
      "aOWLaFOX FACEaBUTTERFLYaDEERaGORILLAaLIZARDaRHINOCEROSaSHRIMPbQUIDaGIRAFFE FACEa.fZEBRA",
      "aHEDGEHOGaSAUROPODaT-REXaCRICKETaKANGAROOaLLAMAaPEACOCKaHIPPOPOTAMUSaPARROTaRACCOON",
      "aLOBSTERaMOSQUITObICROBEaBADGERaSWANaMAMMOTHaDODOaSLOTHaOTTERbRANGUTANaSKUNKaFLAMINGO",
      "aOYSTERaBEAVERbISONaSEALaGUIDE DOGaPROBING CANEaEMOJI COMPONENT RED HAIRq.fCURLYqBALD",
      "qWHITE HAIRaBONEaLEGaFOOTaTOOTHaSUPERHEROfVILLAINbAFETY VESTaEAR WITH HEARING AID",
      "aMOTORIZED WHEELCHAIRb.lANUALbECHANICAL ARMlLEGaCHEESE WEDGEbUPCAKEaSALT SHAKER",
      "aBEVERAGE BOXaGARLICaONIONaFALAFELaWAFFLEaBUTTERaMATE DRINKaICE CUBEaBUBBLE TEAaTROLL",
      "aSTANDING PERSONa.kKNEELa.hDEAFaFACE WITH MONOCLEaADULTaCHILDaOLDER ADULTaBEARDED PERSON",
      "aPERSON WITH HEADSCARFhIN STEAMY ROOMhCLIMBINGhIN LOTUS POSITIONaMAGEaFAIRYaVAMPIRE",
      "aMERPERSONaELFaGENIEaZOMBIEaBRAINaORANGE HEARTaBILLED CAPaSCARFaGLOVESaCOATaSOCKS",
      "aRED GIFT ENVELOPEaFIRECRACKERaJIGSAW PUZZLE PIECEaTEST TUBEaPETRI DISHaDNA DOUBLE HELIX",
      "aCOMPASSaABACUSaFIRE EXTINGUISHERaTOOLBOXaBRICKaMAGNETaLUGGAGEbOTION BOTTLE",
      "aSPOOL OF THREADaBALL OF YARNaSAFETY PINaTEDDY BEARaBROOMbASKETaROLL OF PAPERaBAR OF SOAP",
      "aSPONGEaRECEIPTaNAZAR AMULETbEUTRAL CHESS KINGoQUEENoROOKoBISHOPoKNIGHToPAWN",
      "aWHITE CHESS KNIGHT ROTATED FORTY-FIVE DEGREESa.zpBLACKa.zpNEUTRAL",
      "a.iWHITE CHESS KING ROTATED NINETYm.xQUEENm.xROOKm.xBISHOPm.xKNIGHTm.xPAWN",
      "a.xBLACK CHESS KINGm.xQUEENm.xROOKm.xBISHOPm.xKNIGHTm.xPAWNa.xNEUTRAL CHESS KINGo.xQUEEN",
      "o.xROOKo.xBISHOPo.xKNIGHTo.xPAWNa.iWHITE CHESS KNIGHT ROTATED ONE HUNDRED THIRTY-FIVE",
      "a.zzdBLACKa.zzdNEUTRALaWHITE CHESS TURNED KINGtQUEENtROOKtBISHOPtKNIGHTtPAWN",
      "aBLACK CHESS TURNED KINGtQUEENtROOKtBISHOPtKNIGHTtPAWNaNEUTRAL CHESS TURNED KINGvQUEEN",
      "vROOKvBISHOPvKNIGHTvPAWNaWHITE CHESS KNIGHT ROTATED TWO HUNDRED TWENTY-FIVE DEGREES",
      "a.zzdBLACKa.zzdNEUTRALa.iWHITE CHESS KING ROTATED TWO HUNDRED SEVENTYm.zlQUEENm.zlROOK",
      "m.zlBISHOPm.zlKNIGHTm.zlPAWNa.zlBLACK CHESS KINGm.zlQUEENm.zlROOKm.zlBISHOPm.zlKNIGHT",
      "m.zlPAWNa.zlNEUTRAL CHESS KINGo.zlQUEENo.zlROOKo.zlBISHOPo.zlKNIGHTo.zlPAWN",
      "a.iWHITE CHESS KNIGHT ROTATED THREE HUNDRED FIFTEENa.zzbBLACKa.zzbNEUTRAL",
      "aWHITE CHESS EQUIHOPPERa.rBLACKa.rNEUTRALaWHITE CHESS EQUIHOPPER ROTATED NINETY DEGREES",
      "a.zpBLACKa.zpNEUTRALaWHITE CHESS KNIGHT-QUEENtROOKtBISHOPaBLACK CHESS KNIGHT-QUEENtROOK",
      "tBISHOP"]),
    (0x1fa60, ["aXIANGQI RED GENERALmMANDARINmELEPHANTmHORSEmCHARIOTnANNONmSOLDIERiBLACK GENERAL",
      "oMANDARINoELEPHANToHORSEoCHARIOTpANNONoSOLDIER"]),
    (0x1fa70, ["aBALLET SHOESaONE-PIECE SWIMSUITaBRIEFSaSHORTSaTHONG SANDAL"]),
    (0x1fa78, ["aDROP OF BLOODaADHESIVE BANDAGEaSTETHOSCOPEaX-RAYaCRUTCH"]),
    (0x1fa80, ["aYO-YOaKITEaPARACHUTEaBOOMERANGaMAGIC WANDaPINATAaNESTING DOLLS"]),
    (0x1fa90, ["aRINGED PLANETaCHAIRaRAZORaAXEaDIYA LAMPaBANJOaMILITARY HELMETaACCORDION",
      "aLONG DRUMaCOINbARPENTRY SAWaSCREWDRIVERaLADDERaHOOKaMIRRORaWINDOWaPLUNGERaSEWING NEEDLE",
      "aKNOTaBUCKETaMOUSE TRAPaTOOTHBRUSHaHEADSTONEaPLACARDaROCKaMIRROR BALLaIDENTIFICATION CARD",
      "aLOW BATTERYaHAMSA"]),
    (0x1fab0, ["aFLYaWORMaBEETLEaCOCKROACHaPOTTED PLANTaWOODaFEATHERaLOTUSaCORALaEMPTY NEST",
      "aNEST WITH EGGS"]),
    (0x1fac0, ["aANATOMICAL HEARTaLUNGSaPEOPLE HUGGINGbREGNANT MANjPERSONbERSON WITH CROWN"]),
    (0x1fad0, ["aBLUEBERRIESbELL PEPPERaOLIVEaFLATBREADaTAMALEaFONDUEaTEAPOTaPOURING LIQUID",
      "aBEANSaJAR"]),
    (0x1fae0, ["aMELTING FACEa.jSALUaFACE WITH OPEN EYES AND HAND OVER MOUTHkPEEKING EYE",
      "kDIAGONAL MOUTHaDOTTED LINE FACEaBITING LIPbUBBLES"]),
    (0x1faf0, ["aHAND WITH INDEX FINGER AND THUMB CROSSEDaRIGHTWARDS HANDa.lLEFa.fPALM DOWNf.fUP",
      "aINDEX POINTING AT THE VIEWERaHEART HANDS"]),
    (0x1fb00, ["aBLOCK SEXTANT-1o2o12o3o13o23o123o4o14o24o124o34o134o234o.d1o5o15o25o125o35o235",
      "o.d1o45o145o245o.d1o345o.d1o.d2o.e1o6o16o26o126o36o136o236o.d1o46o146p246o346o.d1o.d2o.e1",
      "o56o156o256o.d1o356o.d1o.d2o.e1o456o.d1o.d2o.e1o.d3o.e1o.e2",
      "aLOWER LEFT BLOCK DIAGONAL LOWER MIDDLE LEFT TO LOWER CENTREzzdRIGHT",
      "zbUPPER MIDDLE LEFT TO LOWER CENTREzzdRIGHTzhLEFT TO LOWER CENTRE",
      "g.jRIGHT BLOCK DIAGONAL UPPER MIDDLE LEFT TO UPPzzeRIGHT",
      "zcLOWER MIDDLE LEFT TO UPPER CENTREzzeRIGHTziLEFT TO UPPER CENTRE",
      "ziMIDDLE LEFT TO UPPER MIDDLE RIGHTzi.pCENTRE TO LOWzi.wLEFTzi.pCENTRE TO UPPzi.wLEFT",
      "zi.gCENTRE TO UPPERg.gLEFT BLOCK DIAGONAL UPPER CENTRE TO UPPER MIDDLEzh.wLEFT",
      "zh.pCENTRE TO LOWzh.wLEFTzh.gCENTRE TO LOWERzh.gMIDDLE LEFT TO LOWER MIDDLE",
      "aUPPER RIGHT BLOCK DIAGONAL LOWER MIDDLE LEFT TO LOWER CENTREzzeRIGHT",
      "zcUPPER MIDDLE LEFT TO LOWER CENTREzzeRIGHTziLEFT TO LOWER CENTRE",
      "g.jLEFT BLOCK DIAGONAL UPPER MIDDLE LEFT TO UPPzzdRIGHT",
      "zbLOWER MIDDLE LEFT TO UPPER CENTREzzdRIGHTzhLEFT TO UPPER CENTRE",
      "zhMIDDLE LEFT TO UPPER MIDDLE RIGHTzh.pCENTRE TO LOWzh.wLEFTzh.pCENTRE TO UPPzh.wLEFT",
      "zh.gCENTRE TO UPPERg.gRIGHT BLOCK DIAGONAL UPPER CENTRE TO UPPER MIDDLEzi.wLEFT",
      "zi.pCENTRE TO LOWzi.wLEFTzi.gCENTRE TO LOWERzi.gMIDDLE LEFT TO LOWER MIDDLE",
      "gAND RIGHT AND LOWER TRIANGULAR THREE QUARTERS BLOCKa.zhLEFT AND LOWER AND RIGHT",
      "a.zhUPPER AND LEFT AND LOWERa.zhLEFT AND UPPER AND RIGHTf.gTRIANGULAR ONE QUARTER",
      "a.zeUPPERa.zeRIGHTa.zeLOWERaVERTICAL ONE EIGHTH BLOCK-2zb3zb4zb5zb6zb7",
      "aHORIZONTAL ONE EIGHTH BLOCK-2zd3zd4zd5zd6zd7aLEFT AND LOWER ONE EIGHTH BLOCKj.tUPP",
      "a.zdRIGHk.tLOWa.zcUPPERaHORIZONTAL ONE EIGHTH BLOCK-1358aUPPER ONE QUARTER BLOCK",
      "g.gTHREE EIGHTHSg.pFIVg.hTHREE QUARTERg.hSEVEN EIGHTHa.gRIGHT ONE QUARTERg.gTHREE EIGHTHS",
      "g.pFIVg.hTHREE QUARTERg.hSEVEN EIGHTHaLEFT HALF MEDIUM SHADEa.tRIGHa.sUPPERa.uLOW",
      "a.nINVERSEa.uUPPER HALF BLOCK AND LOWER HALF lINVERSE MEDIUM SHADE AND LOWER HALF BLOCK"]),
    (0x1fb94, ["a.lLEFT HALF INVERSE MEDIUM SHADE AND RIGHTaCHECKER BOARD FILLa.sINVERSE ",
      "a.fHEAVY HORIZONTALa.fUPPER LEFT TO LOWER RIGHTg.gRIGHT TO LOWER LEF",
      "gAND LOWER TRIANGULAR HALF BLOCKa.wLEFT AND RIGHTaUPPER LEFT TRIANGULAR MEDIUM SHADE",
      "g.zRIGHa.zhLOWg.zLEFaBOX DRAWINGS LIGHT DIAGONAL UPPER CENTRE TO MIDDLE LEFTzzbRIGHT",
      "zdMIDDLE LEFT TO LOWER CENTREzk.rRIGHzd.rUPPER CENTRE TO MIDDLE LEFzzb.rRIGH",
      "zdMIDDLE LEFT TO LOWER CENTRE TO MIDDLE RIGHTzs.zUPP",
      "zdUPPER CENTRE TO MIDDLE LEFT AND MIDDLE RIGHT TO LOWER CENTREzzb.rRIGHT AND MIDDLE LEF",
      "zzhTO LOWER CENTRE TO MIDDLE LEFTzzbLEFT TO LOWER CENTRE TO MIDDLE RIGHT",
      "zdMIDDLE LEFT TO UPPER CENTRE TO MIDDLE RIGHT TO LOWER CENTRE",
      "zk.rRIGHT TO UPPER CENTRE TO MIDDLE LEFzdDIAMONDtHORIZONTAL WITH VERTICAL STROKE",
      "aARROWHEAD-SHAPED POINTERaINVERSE CHECK MARKaLEFT HALF RUNNING MANa.sRIGH",
      "aINVERSE DOWNWARDS ARROW WITH TIP LEFTWARDS",
      "aLEFTWARDS ARROW AND UPPER AND LOWER ONE EIGHTH BLOCKa.zyRIGHa.rDOWNWARDS ARROW AND RIGHT",
      "a.znUPaLEFT HALF FOLDERa.nRIGHaVOIDED GREEK CROSSaRIGHT OPEN SQUARED DOT",
      "aNEGATIVE DIAGONAL CROSSsMIDDLE RIGHT TO LOWER CENTREsDIAMOND",
      "aWHITE HEAVY SALTIRE WITH ROUNDED CORNERSaLEFT THIRD WHITE RIGHT POINTING INDEXa.ziMIDDLE",
      "a.ziRIGHTaNEGATIVE SQUARED QUESTION MARKaSTICK FIGUREm WITH ARMS RAISEDnLEANING LEFT",
      "vRIGHTnWITH DRESSaWHITE UP-POINTING CHEVRON"]),
    (0x1fbf0, ["aSEGMENTED DIGIT ZEROqONEqTWOrHREEqFOURrIVEqSIXrEVENqEIGHTqNINE"]),
    (0xe0001, ["aLANGUAGE TAG"]),
    (0xe0020, ["aTAG SPACEeEXCLAMATION MARKe.kQUOTeNUMBER SIGNe.gDOLLAe.fPERCENTeAMPERSAND",
      "fPOSTROPHEeLEFT PARENTHESISe.nRIGHeASTERISKePLUS SIGNeCOMMAeHYPHEN-MINUSeFULL STOP",
      "eSOLIDUSeDIGIT ZEROkONEkTWOlHREEkFOURlIVEkSIXlEVENkEIGHTkNINEeCOLONe.fSEMIeLESS-THAN SIGN",
      "e.fEQUALSe.fGREATER-THANeQUESTION MARKeCOMMERCIAL ATeLATIN CAPITAL LETTER AzBzCzDzEzFzGzH",
      "zIzJzKzLzMzNzOzPzQzRzSzTzUzVzWzXzYzZfEFT SQUARE BRACKETeREVERSE SOLIDUS",
      "fIGHT SQUARE BRACKETeCIRCUMFLEX ACCENTeLOW LINEeGRAVE ACCENTeLATIN SMALL LETTER AxBxCxDxE",
      "xFxGxHxIxJxKxLxMxNxOxPxQxRxSxTxUxVxWxXxYxZfEFT CURLY BRACKETeVERTICAL LINE",
      "eRIGHT CURLY BRACKETeTILDEaCANCEL TAG"]),
    (0xe0100, ["aVARIATION SELECTOR-17u8u9t20u1u2u3u4u5u6u7u8u9t30u1u2u3u4u5u6u7u8u9t40u1u2u3u4",
      "u5u6u7u8u9t50u1u2u3u4u5u6u7u8u9t60u1u2u3u4u5u6u7u8u9t70u1u2u3u4u5u6u7u8u9t80u1u2u3u4u5u6",
      "u7u8u9t90u1u2u3u4u5u6u7u8u9t100v1v2v3v4v5v6v7v8v9u10v1v2v3v4v5v6v7v8v9u20v1v2v3v4v5v6v7v8",
      "v9u30v1v2v3v4v5v6v7v8v9u40v1v2v3v4v5v6v7v8v9u50v1v2v3v4v5v6v7v8v9u60v1v2v3v4v5v6v7v8v9u70",
      "v1v2v3v4v5v6v7v8v9u80v1v2v3v4v5v6v7v8v9u90v1v2v3v4v5v6v7v8v9t200v1v2v3v4v5v6v7v8v9u10v1v2",
      "v3v4v5v6v7v8v9u20v1v2v3v4v5v6v7v8v9u30v1v2v3v4v5v6v7v8v9u40v1v2v3v4v5v6v7v8v9u50v1v2v3v4",
      "v5v6"])]

/-- Further names: of controls, abbreviations and corrections. -/
def furtherNames : List (Nat × List String) := [
    (0x0, ["aNULaSOHbTART OF TEXTa.iENDiRANSMISSIONcQaACKbLERTaBACKSPACEaCHARACTER TABULATION",
      "aEND OF LINEaLINE TABULATIONaFFaCARRIAGE RETURNaLOCKING-SHIFT ONEoZEROaDATA LINK ESCAPE",
      "bC1c2c3c4aNAKaSYNaEND OF TRANSMISSION BLOCKaCANaEND OF MEDIUMaSUBaESCaFILE SEPARATOR",
      "a.kGROUPaINFORMATION SEPARATOR TWOwONEaSP"]),
    (0x0, ["aNULLaSTART OF HEADINGcXaETXbOTbNQUIRYaACKNOWLEDGEaBELbSaHORIZONTAL TABULATIONaEOL",
      "aVERTICAL TABULATIONaFORM FEEDaCRaSHIFT OUTgINaDLEbEVICE CONTROL ONEpTWOqHREEpFOUR",
      "aNEGATIVE ACKNOWLEDGEaSYNCHRONOUS IDLEaETBaCANCELaEOMaSUBSTITUTEaESCAPEaFSaGS",
      "aRECORD SEPARATORa.kUNIT"]),
    (0x9, ["aHTaLFaVT"]), (0x9, ["aTABaLINE FEED"]), (0xa, ["aNEW LINE"]), (0xa, ["bL"]),
    (0xe, ["aSObI"]), (0x1c, ["aINFORMATION SEPARATOR FOURwTHREEaRSaUS"]),
    (0x7f, ["aDELaPADaHIGH OCTET PRESETaBPHaNBHaINDaNELaSSAaEND OF SELECTED AREA",
      "aCHARACTER TABULATION SETvWITH JUSTIFICATIONaLINE TABULATION SETaPARTIAL LINE DOWN",
      "nBACKWARDaREVERSE INDEXaSINGLE SHIFT TWOoHREEaDCSaPRIVATE USE ONEmTWOaSET TRANSMIT STATE",
      "aCANCEL CHARACTERaMESSAGE WAITINGaSPAaEND OF GUARDED AREAaSOSbGCbCI",
      "aCONTROL SEQUENCE INTRODUCERaSTaOPERATING SYSTEM COMMANDaPMaAPCaNBSP"]),
    (0x7f, ["aDELETEaPADDING CHARACTERaHOPaBREAK PERMITTED HEREa.fNO BREAKaINDEXaNEXT LINE",
      "aSTART OF SELECTED AREAaESAaHORIZONTAL TABULATION SETwWITH JUSTIFICATION",
      "aVERTICAL TABULATION SETaPARTIAL LINE FORWARDnUPaREVERSE LINE FEEDaSINGLE-SHIFT-2n3",
      "aDEVICE CONTROL STRINGaPRIVATE USE-1m2aSTSaCCHaMWaSTART OF GUARDED AREAa.hEND OF PROTECT",
      "aSTART OF STRINGbINGLE GRAPHIC CHARACTER INTRODUCERh.tCaCSIaSTRING TERMINATORaOSC",
      "aPRIVACY MESSAGEaAPPLICATION PROGRAM COMMAND"]),
    (0x88, ["aHTScJaVTSaPLDcUaRIaSS2c3"]), (0x91, ["aPU1c2"]),
    (0x96, ["aSTART OF PROTECTED AREAaEPA"]), (0xad, ["aSHY"]),
    (0x1a2, ["aLATIN CAPITAL LETTER GHAg.mSMAL"]), (0x34f, ["aCGJ"]), (0x61c, ["aALM"]),
    (0x709, ["aSYRIAC SUBLINEAR COLON SKEWED LEFT"]), (0xcde, ["aKANNADA LETTER LLLA"]),
    (0xe9d, ["aLAO LETTER FO FON"]), (0xe9f, ["pAY"]), (0xea3, ["lRO"]), (0xea5, ["lLO"]),
    (0xfd0, ["aTIBETAN MARK BKA- SHOG GI MGO RGYAN"]),
    (0x11ec, ["aHANGUL JONGSEONG YESIEUNG-KIYEOKzb.gSSANGrSSANGYESIEUNGrYESIEUNG-KHIEUKH"]),
    (0x180b, ["aFVS1d2d3aMVSaFVS4"]), (0x200b, ["aZWSPcNJcJaLRMaRLM"]),
    (0x202a, ["aLREaRLEaPDFaLROaRLOaNNBSP"]), (0x205f, ["aMMSPaWJ"]),
    (0x2066, ["aLRIaRLIaFSIaPDI"]), (0x2118, ["aWEIERSTRASS ELLIPTIC FUNCTION"]),
    (0x2448, ["aMICR ON US SYMBOLf.hDASH"]),
    (0x2b7a, ["aLEFTWARDS TRIANGLE-HEADED ARROW WITH DOUBLE VERTICAL STROKE"]),
    (0x2b7c, ["a.zzgRIGH"]), (0xa015, ["aYI SYLLABLE ITERATION MARK"]),
    (0xaa6e, ["aMYANMAR LETTER KHAMTI LLA"]), (0xfe00, ["aVS1c2c3c4c5c6c7c8c9c10d1d2d3d4d5d6"]),
    (0xfe18, ["aPRESENTATION FORM FOR VERTICAL RIGHT WHITE LENTICULAR BRACKET"]),
    (0xfeff, ["aBOM"]), (0xfeff, ["bYTE ORDER MARK"]), (0xfeff, ["aZWNBSP"]),
    (0x122d4, ["aCUNEIFORM SIGN NU11 TENUuOVER NU11 BUR OVER BUR"]),
    (0x16e56, ["aMEDEFAIDRIN CAPITAL LETTER HzcNG"]), (0x16e76, ["mSMALL LETTER HzNG"]),
    (0x1b001, ["aHENTAIGANA LETTER E-1"]),
    (0x1d0c5, ["aBYZANTINE MUSICAL SYMBOL FTHORA SKLIRON CHROMA VASIS"]),
    (0xe0100, ["aVS17d8d9c20d1d2d3d4d5d6d7d8d9c30d1d2d3d4d5d6d7d8d9c40d1d2d3d4d5d6d7d8d9c50d1d2",
      "d3d4d5d6d7d8d9c60d1d2d3d4d5d6d7d8d9c70d1d2d3d4d5d6d7d8d9c80d1d2d3d4d5d6d7d8d9c90d1d2d3d4",
      "d5d6d7d8d9c100e1e2e3e4e5e6e7e8e9d10e1e2e3e4e5e6e7e8e9d20e1e2e3e4e5e6e7e8e9d30e1e2e3e4e5e6",
      "e7e8e9d40e1e2e3e4e5e6e7e8e9d50e1e2e3e4e5e6e7e8e9d60e1e2e3e4e5e6e7e8e9d70e1e2e3e4e5e6e7e8",
      "e9d80e1e2e3e4e5e6e7e8e9d90e1e2e3e4e5e6e7e8e9c200e1e2e3e4e5e6e7e8e9d10e1e2e3e4e5e6e7e8e9",
      "d20e1e2e3e4e5e6e7e8e9d30e1e2e3e4e5e6e7e8e9d40e1e2e3e4e5e6e7e8e9d50e1e2e3e4e5e6"])]

/-- The names of characters, run by run. -/
def nameRuns : List (Nat × List String) :=
  namesFrom0 ++ namesFromb00 ++ namesFrom1800 ++ namesFrom2800 ++ namesFroma000 ++
    namesFrom10000 ++ namesFrom11a00 ++ namesFrom1d000 ++ furtherNames

end DocStore.Unicode
