import QueryTelemetry.Text.Name.Run

/-!
# Names of pictures

Names of the characters from U+1BC00 on: shorthand, music, letters of mathematics, games, pictures,
tags and variation selectors.
-/

namespace QueryTelemetry.Text.Name

/-- The names from U+1BC00 on. -/
def pictures : List Run := [
  { first := 113664, lines := [
    "!DUPLOYANbH$X$P$T$F$K$.$B$D$V$G$R$P N$D S$F N$K M$R S$TH$SLOAN DH$:$KK$SLOAN J$HL$LH$RH$M$",
    ".$J$S$M N$N M$J:$S J$Makg$.;$J;&kiocfgb$Sakg(hh$M S$.:$J:$S:$M N:$N M:$J;$S J:$J Sakg%N&S$",
    "S T&R%P&R$T S%R:$W$WH$W R$S N%M$K R S$G;$S K&R$A$SLOAN OW$OA$O$AOU$I$E$IE$vjI$UI$EE$SLOAN ",
    "EH$ROMANIAN I$SLOAN EE$qeI$YE$U$EU$XW$U N$qeU$ROMANIAN:$UH$SLOAN U$OOH$OW$OU$WA$WO$WI$WEI$",
    "WOW$NASAL U%O%I%A$PERNIN AN%AM$SLOAN EN%AN%ON$zcM~~~~~#AFFIXprnrSECANT$MID;$ue;$qgyx:$MID;",
    "$nm;$hb:%pt:%TANGENT%wx%Enq%I:%TANGENT:~~~$nmgd%TIGHT:%mo%qe:%kg%im%qa%zg%yx~~~~~~~$qggd%T",
    "IGHT:%mo%qe:%kg%im%qa%zg%yx%gw~~#eOajc#THICKbSELECTOR#kkqo#toCHINOOKmewg!SHORTHAND FORMATb",
    "OVERLAP$CONTINUING:$knSTEP$yp:"] },
  { first := 118528, lines := [
    "!ZNAMENNYisqoGORAZDO NIZKO SpiONpr%>%TSATA;%GORAZDO NIZKO;%<%SREDNE;%MALOtj;%<%VYSOKO;%MAL",
    "OtjS KHOKHLOM;%>%VYSOKO=%GORAZDO NIZKO SpiONue%>%TSATA;%GORAZDO NIZKO;%<%SREDNE;%MALOtj;%<",
    "%VYSOKO;%MALOtjS KHOKHLOM;%>%VYSOKO=%TSATA Spi%MALOtj;%STRANNO MALOtj%tjSpi&STRANNO%VYSOKO",
    " Spi%MALOtjSTRANNO%GORAZDO VYSOKO%ZELO%ON%RAVNO%TIKHAYA%BORZAYA%UDARKA%PODVERTKA%LOMKA%KUP",
    "NAYA%KACHKA%ZEVOK%SKOBA%RAZSEKA%KRYZH ONpr~~$TONAL RANGEqoMRACHNO(SVETLO(TRESVETLO$qoZADER",
    "ZHKA%DEMESTVENNY:%OTSECHKA%PODCHASHIE&ayxwi%CHASHKA&POLNAYA%OBLACHKO%SOROCHYA NOZHKA%TOCHK",
    "A%DVOETOCHIE$ATTACHINGyxOMET$qojk:%KRYZH$qhTONAL RANGEoa#PRIZNAKqvLEVEL-2%.%DIRECTION FLIP",
    "%KRYZH%ROG~~~~~~~~~#NEUME KRYUK%TIKHY$PARAKLIT$DVA V CHELNU$KLYUCH$ZANOZHEK$STOPITSA%S OCH",
    "KOM$PEREVODKA%rk$STOPITSAaSOROCHYA NOZHKA$CHELYUSTKA$PALKA$zv$GOLUBCHIK BORZY%TIKHY%MRACHN",
    "Y%SVETLY%TRESVETLY$VRAKHIYA PROSTAYA%MRACHNAYA%wr%TRESVETLAYA%pgPROSTAYA&MRACHNAYA&wr&TRES",
    "VETLAYA$kkzv$ubCHELYUSTKA$DERBITSA$KHAMILO$CHASHKA$PODCHASHIE$SKAMEYTSA MRACHNAYA%wr%TRESV",
    "ETLAYA%TIKHAYA$DEMESTVENNY KLYUCH$SKAMEYTSApgwr%KLYUCHENEPOSTOYANNAYA%pgTIKHAYA%DVOECHELNA",
    "YA PROSTAYA&wr&rk&pg$SLOZHITIE%Szw%ZAKRYTOE%Spi$KRYZH$ROG$FITA$KOBYLA$ZMEYTSA$STATYA%Szw&p",
    "i&zwI:&piIzw%ZAKRYTAYA&Szw%S ROGOM&DVUMYA ZAPYATYMI&zwI PODCHASHIEM$POLKULIZMY$STATYArk$ST",
    "RELA PROSTAYA%MRACHNOTIKHAYA%KRYZHEVAYA%POLUPOVODNAYA%POVODNAYA%rk%KLYUCHEPOVODNAYA%KLYUCH",
    "ENEPOSTOYANNAYA%TIKHAYA PUTNAYA%DVOECHELNAYA%DVOECHELNOKRYZHEVAYA%DVOECHELNOPOVODNAYA%DVOE",
    "CHELNAYApg%DVOECHELNOPOVODNAYA:%GROMNAYAavpzv%mr<%GROMNAYA%mr&akkzv%GROMOKRYZHEVAYA&POVODN",
    "AYA$MECHIK%POVODNY%KLYUCHEVOY%KLYUCHEPOVODNY%KLYUCHENEPOSTOYANNY$STRELA TRYASOGLASNAYA%TRY",
    "ASOPOVODNAYA%TRYASOSTRELNAYA$OSOKA%wr%TRESVETLAYA%KRYUKOVAYAwr%pg:&rk$STRELA KRYUKOVAYA&PO",
    "VODNAYA&GROMNAYAavpzv&mr<&GROMNAYA&mr(akkzv&GROMOKRYZHEVAYA(POVODNAYA&TRYASKA$KUFISMA$OBLA",
    "KO$DUDA$NEMKA$PAUK"] },
  { first := 118784, lines := [
    "!BYZANTINErgwttn%DASEIA%sy%OXEIA EKFONITIKON&DIPLI%VAREIA EKFONITIKON&DIPLI%KATHISTI%SYRMA",
    "TIKI%PARAKLITIKI%YPOKRISIS&DIPLI%KREMASTI%APESO EKFONITIKON%EXO:%TELEIA%pa%APOSTROFOS&DIPL",
    "I%SYNEVMA%THITA%OLIGONgv%GORGON:%PSILON%CHAMILON%VATHY%ISONgv%KENTIMA:%pa:%SAXIMATA%PARICH",
    "ON%STAVROS APODEXIA%OXEIAIgv%VAREIAI:%APODERMA:%APOTHEMA%KLASMA%REVMA%PIASMAgv%TINAGMA%ANA",
    "TRICHISMA%SEISMA%SYNAGMAgv&META STAVROU%OYRANISMAgv%THEMA%LEMOI%DYO%TRIA%TESSERA%KRATIMATA",
    "%APESO EXO NEO%FTHORAgv%IMIFTHORA%TROMIKONgv%KATAVA TROMIKON%PELASTON%PSIFISTON%KONTEVMA%C",
    "HOREVMAgv%RAPISMA%PARAKALESMAgv%PARAKLITIKI:%ICHADIN%NANA%PETASMA%KONTEVMA ALLO%TROMIKON:%",
    "STRAGGISMATA%GRONTHISMATA%ISON NEO%OLIGON:%OXEIA:%PETASTI%KOUFISMA%PETASTOKOUFISMA%KRATIMO",
    "KOUFISMA%PELASTON NEO%paNEO ANO%KENTIMA;%YPSILI%APOSTROFOS NEO%APOSTROFOI SYNDESMOS:%YPORR",
    "OI%KRATIMOYPORROON%ELAFRON%CHAMILI%MIKRON ISON%VAREIA NEO%PIASMA:%PSIFISTON:%OMALON%ANTIKE",
    "NOMA%LYGISMA%PARAKLITIKI NEO%PARAKALESMA:%ETERON PARAKALESMA%KYLISMA%ANTIKENOKYLISMA%TROMI",
    "KON NEO%EKSTREPTON%SYNAGMA NEO%SYRMA%CHOREVMA NEO%EPEGERMA%SEISMA NEO%XIRON KLASMA%TROMIKO",
    "PSIFISTON%PSIFISTOLYGISMA%TROMIKOLYGISMA%TROMIKOPARAKALESMA%PSIFISTOPARAKALESMA%TROMIKOSYN",
    "AGMA%PSIFISTOSYNAGMA%GORGOSYNTHETON%ARGOSYNTHETON%ETERON:%OYRANISMA NEO%THEMATISMOS ESO&EX",
    "O%THEMA APLOUN%THES KAI APOTHES%KATAVASMA%ENDOFONON%YFEN KATO&ANO%STAVROS%KLASMA ANO%DIPLI",
    "gv%KRATIMA:&ALLO&NEO%APODERMA:%APLI%DIPLI%TRIPLI%TETRAPLI%KORONIS%LEIMMA ENOS CHRONOU&DYO ",
    "CHRONON&TRION:&TESSARON:&IMISEOS CHRONOU%GORGON NEO ANO&PARESTIGMENON ARISTERA(DEXIA%DIGOR",
    "GON&PARESTIGMENON ARISTERA KATO)ANO(DEXIA%TRIGORGON%ARGON%IMIDIARGON%DIARGON%AGOGI POLI AR",
    "GI&ARGOTERI&ARGI&METRIA&MESI&GORGI&GORGOTERI&POLI GORGI%MARTYRIA PROTOS ICHOS&ALLI;&DEYTER",
    "OS:&ALLI;&TRITOS:&TRIFONIAS&TETARTOS ICHOS(LEGETOS:&;&PLAGIOS:%ISAKIA TELOUS ICHIMATOS%APO",
    "STROFOI;%FANEROSIS TETRAFONIAS&MONOFONIAS&DIFONIAS%MARTYRIA VARYS ICHOS&PROTOVARYS:&PLAGIO",
    "S TETARTOS:%GORTHMIKON N APLOUN(DIPLOUN%ENARXIS KAI FTHORA VOU%IMIFONON%IMIFTHORON%FTHORAg",
    "vDEYTEROU ICHOU&DIATONIKIss(NANA&NAOS ICHOS&DIATONIKI DI&SKLIRON DIATONON:&DIATONIKI KE(ZO",
    "(NI KATO)ANO&MALAKON CHROMA DIFONIAS)MONOFONIAS%FHTORA SKLIRON CHROMA VASIS%FTHORA SKLIRON",
    " CHROMA SYNAFI&NENANO%CHROA ZYGOS&KLITON&SPATHI%FTHORA I YFESIS TETARTIMORION&ENARMONIOS A",
    "NTIFONIA%YFESIS TRITIMORION%DIESIS:&TETARTIMORION&APLI DYO DODEKATA&MONOGRAMMOS TESSERA:&D",
    "IGRAMMOS EX:&TRIGRAMMOS OKTO:%YFESIS APLI DYO:&MONOGRAMMOS TESSERA:&DIGRAMMOS EX:&TRIGRAMM",
    "OS OKTO:%GENIKI DIESIS&YFESIS%DIASTOLI APLI MIKRI(MEGALI&DIPLI&THESEOS%SIMANSIS:(DISIMOU(T",
    "RISIMOU(TETRASIMOU&ARSEOS(DISIMOU(TRISIMOU(TETRASIMOU%DIGRAMMA GG%DIFTOGGOS OU%STIGMA%ARKT",
    "IKOss&VOU&GA&DI&KE&ZO&NI%paNEO MESO%KENTIMA;%paNEO KATO%KENTIMA;%KLASMA:%GORGON NEO:~~~~~~",
    "~~~~!rgwtvpBARLINE$kk:$ls:$ua;$DASHED:$vj:$prREPEATe$ue;$REPEATki$DAL SEGNO$jmCAPO$SEGNO$C",
    "ODA$REPEATED FIGURE-1%.%.$FERMATA%hh$BREATHqo$CAESURA$BRACE$hv$ONE-LINE STAFF$TWO-LINE:$TH",
    "REE-LINE:$FOUR-LINE:$FIVE-LINE:$SIX-LINE:$SIX-STRING FRETBOARD$FOUR-STRING:$G CLEF&OTTAVA ",
    "ALTA(BASSA$C CLEF$F:&OTTAVA ALTA(BASSA$DRUM CLEF-1%.~~$rdMEASURE REST$kkSHARP%FLAT$FLATyp%",
    "kn$NATURALyp%kn$SHARPyp%kn$trxwSHARP&FLAT$COMMON TIME$CUT:$OTTAVA ALTA%BASSA$QUINDICESIMA ",
    "ALTA%BASSA$MULTI REST$WHOLE:$mv:$tr:$ku:$vs:$THIRTY-SECOND:$SIXTY-FOURTH:$shntTWENTY-EIGHT",
    "H:$Xrw$tf:$imX:$wcrwzk&hp$xzrwypzk(hp&przk(hp&uezk(hp&knzk(hp&ypuezk)hp$qxrwzk&hp$TRIANGLE",
    "-ROUNDrwknzk(hp$swrw$VOID:$rwhp$NULLrw$CLUSTERrwzk&hp$hw$WHOLE NOTE$mv:$tr:$ku:$vs:$THIRTY",
    "-SECOND:$SIXTY-FOURTH:$shntTWENTY-EIGHTH:$isSTEM%SPRECHGESANG:%TREMOLO-1%.%.$FINGERED TREM",
    "OLO-1%.%.$isAUGMENTATIONkg%FLAG-1%.%.%.%.$BEGIN BEAM$kz:$BEGIN TIE$kz:$BEGIN SLUR$kz:$BEGI",
    "N PHRASE$kz:$isgc%STACCATO%TENUTO%STACCATISSIMO%MARCATO%MARCATO-STACCATO%ACCENT-STACCATO%L",
    "OURE$ARPEGGIATOyp%kn$isDOIT%RIP%FLIP%SMEAR%BEND%kkTONGUE%yc:$RINFORZANDO$SUBITO$Z$PIANO$ME",
    "ZZO$FORTE$CRESCENDO$DECRESCENDO$GRACE NOTEvv&NO:$TR$TURN$oh:$TURNvv%yp$smSTROKE-1%.%.%.%.%",
    ".%.%.%.%.%.$HAUPTSTIMME$NEBENSTIMME$kzscSTIMME$DEGREEvv$isknBOW%yp:%HARMONIC%SNAP PIZZICAT",
    "O$PEDALqo%yp:$mvPEDAL:$GLISSANDOyp%kn$aFINGERNAILS$DAMP%ALL$MAXIMA$LONGA$BREVIS$SEMIBREVIS",
    "zk%hp$MINIMA%hp$SEMIMINIMAzk%hp$FUSAzk%hp$LONGA PERFECTA REST%IMPERFECTA:$BREVIS:$SEMIBREV",
    "IS:$MINIMA:$SEMIMINIMA:$TEMPUS PERFECTUM CUM PROLATIONE PERFECTA)IMPERFECTA)PERFECTA DIMIN",
    "UTION-1%IMPERFECTUM CUM PROLATIONE PERFECTA)IMPERFECTA*DIMINUTION-1*.*.$CROIX$GREGORIAN C ",
    "CLEF%F:$wcB$VIRGA$PODATUS$CLIVIS$SCANDICUS$CLIMACUS$TORCULUS$PORRECTUS%FLEXUS$SCANDICUS:$T",
    "ORCULUS RESUPINUS$PES SUBPUNCTIS$KIEVAN C CLEF%kzscPIECE%lsNOTE%RECITATIVEqo%WHOLE NOTE%mv",
    ":%trNOTE STEMkn)yp%kuNOTE STEMkn)yp%FLATe$SORI$KORON"] },
  { first := 119296, lines := [
    "!mqVOCALrvSYMBOL-1%.%.%.%.%.%.%.%.%.%.%.%.%.%.%.%.%.%.%.%.%.%.%.%SYMBOL-50%.%.%.%.#INSTRUM",
    "ENTALrvSYMBOL-1%.%SYMBOL-4%.%SYMBOL-7%.%SYMBOL-11%.%.%.%SYMBOL-17%.%.%SYMBOL-23%.%.%.%.%SY",
    "MBOL-29%.%SYMBOL-32%SYMBOL-36%.%.%.%.%SYMBOL-42%.%SYMBOL-45%SYMBOL-47%.%.%.%.%.%.%.!ismqrg",
    "TRISEME%TETRASEME%PENTASEME!mqrgLEIMMA"] },
  { first := 119520, lines := [
    "!MAYANrzzy$sh$yl$xp$ma$lv$vq$uz$ks$rn$xc$ky$yj$xl$mb$lp$vr$va$kt$ro"] },
  { first := 119552, lines := [
    "!qwlwkq!DIGRAMlwHEAVENLY:$HUMAN:$EARTHLY HEAVEN%HUMAN$kq!TETRAGRAMlwif$meim$MIRED$BARRIER$",
    "KEEPINGc$CONTRARIETY$ASCENT$OPPOSITION$BRANCHING OUT$DEFECTIVENESS OR DISTORTION$DIVERGENC",
    "E$YOUTHFULNESS$INCREASE$PENETRATION$REACH$CONTACT$HOLDING BACK$WAITING$FOLLOWING$ADVANCE$R",
    "ELEASE$RESISTANCE$EASE$JOY$CONTENTION$ENDEAVOUR$DUTIES$CHANGE$DECISIVENESS$hsRESOLUTION$PA",
    "CKING$LEGION$CLOSENESS$KINSHIP$GATHERING$STRENGTH$PURITY$FULLNESS$RESIDENCE$LAW OR MODEL$R",
    "ESPONSE$GOINGxvMEET$ENCOUNTERS$STOVE$GREATNESS$ENLARGEMENT$PATTERN$RITUAL$FLIGHT$VASTNESS ",
    "OR WASTING$CONSTANCY$MEASURE$ETERNITY$UNITY$DIMINISHMENT$iqqz$GUARDEDNESS$GATHERING IN$MAS",
    "SING$ACCUMULATION$EMBELLISHMENT$DOUBT$WATCH$SINKING$INNER$DEPARTURE$DARKENING$DIMMING$EXHA",
    "USTION$SEVERANCE$STOPPAGE$HARDNESS$COMPLETION$CLOSURE$FAILURE$AGGRAVATION$COMPLIANCE$ONxfV",
    "ERGE$DIFFICULTIES$LABOURING$FOSTERING~~~~~~~~~!COUNTING ROD UNITkcsh&yl&xp&ma&lv&vq&uz&ks&",
    "rn$TENSkcsh&yl&xp&ma&lv&vq&uz&ks&rn!nwTALLYqosh%yl%xp%ma%lv!TALLYqosh$lv"] },
  { first := 119808, lines := [
    "!qphsdA%.%.%.%.%.%.%.%.%.%.%.%.%.%.%.%.%.%.%.%.%.%.%.%.%.$cA%.%.%.%.%.%.%.%.%.%.%.%.%.%.%.",
    "%.%.%.%.%.%.%.%.%.%.#oldA%.%.%.%.%.%.%.%.%.%.%.%.%.%.%.%.%.%.%.%.%.%.%.%.%.$cA%.%.%.%.%.%.",
    "~%I%.%.%.%.%.%.%.%.%.%.%.%.%.%.%.%.%.#hsoldA&.&.&.&.&.&.&.&.&.&.&.&.&.&.&.&.&.&.&.&.&.&.&.",
    "&.&.%cA&.&.&.&.&.&.&.&.&.&.&.&.&.&.&.&.&.&.&.&.&.&.&.&.&.#uudA~%C%.~~%G~~%J%.~~%N%.%.%.~%S",
    "%.%.%.%.%.%.%.$cA%.%.%.~%F~%H%.%.%.%.%.%.~%P%.%.%.%.%.%.%.%.%.%.#hsuudA&.&.&.&.&.&.&.&.&.&",
    ".&.&.&.&.&.&.&.&.&.&.&.&.&.&.&.%cA&.&.&.&.&.&.&.&.&.&.&.&.&.&.&.&.&.&.&.&.&.&.&.&.&.#FRAKT",
    "URdA%.~%D%.%.%.~~%J%.%.%.%.%.%.%.~%S%.%.%.%.%.%.~$cA%.%.%.%.%.%.%.%.%.%.%.%.%.%.%.%.%.%.%.",
    "%.%.%.%.%.%.#kmdA%.~%D%.%.%.~%I%.%.%.%.~%O~~~%S%.%.%.%.%.%.~$cA%.%.%.%.%.%.%.%.%.%.%.%.%.%",
    ".%.%.%.%.%.%.%.%.%.%.%.#hsFRAKTURdA&.&.&.&.&.&.&.&.&.&.&.&.&.&.&.&.&.&.&.&.&.&.&.&.&.%cA&.",
    "&.&.&.&.&.&.&.&.&.&.&.&.&.&.&.&.&.&.&.&.&.&.&.&.#usdA%.%.%.%.%.%.%.%.%.%.%.%.%.%.%.%.%.%.%",
    ".%.%.%.%.%.%.$cA%.%.%.%.%.%.%.%.%.%.%.%.%.%.%.%.%.%.%.%.%.%.%.%.%.$hsdA&.&.&.&.&.&.&.&.&.&",
    ".&.&.&.&.&.&.&.&.&.&.&.&.&.&.&.%cA&.&.&.&.&.&.&.&.&.&.&.&.&.&.&.&.&.&.&.&.&.&.&.&.&.$oldA&",
    ".&.&.&.&.&.&.&.&.&.&.&.&.&.&.&.&.&.&.&.&.&.&.&.&.%cA&.&.&.&.&.&.&.&.&.&.&.&.&.&.&.&.&.&.&.",
    "&.&.&.&.&.&.$hsoldA(.(.(.(.(.(.(.(.(.(.(.(.(.(.(.(.(.(.(.(.(.(.(.(.(.&cA(.(.(.(.(.(.(.(.(.",
    "(.(.(.(.(.(.(.(.(.(.(.(.(.(.(.(.#MONOSPACEdA%.%.%.%.%.%.%.%.%.%.%.%.%.%.%.%.%.%.%.%.%.%.%.",
    "%.%.$cA%.%.%.%.%.%.%.%.%.%.%.%.%.%.%.%.%.%.%.%.%.%.%.%.%.#olckhI&.~~#hsdgj%hk%mf%ju%lb%ZET",
    "A%ETA%xh%oi%ov%pm%MU%NU%XI%sg%PI%uc%xhwt%vn%TAU%yt%tb%ik%PSI%sf$NABLA$cgj%hk%mf%ju%lb%ZETA",
    "%ETA%xh%oi%ov%pm%MU%NU%XI%sg%PI%uc%lsvn%:%TAU%yt%tb%ik%PSI%sf$PARTIALkb$lbwt$xh:$ov:$tb:$u",
    "c:$PI:#oldgj%hk%mf%ju%lb%ZETA%ETA%xh%oi%ov%pm%MU%NU%XI%sg%PI%uc%xhwt%vn%TAU%yt%tb%ik%PSI%s",
    "f$NABLA$cgj%hk%mf%ju%lb%ZETA%ETA%xh%oi%ov%pm%MU%NU%XI%sg%PI%uc%lsvn%:%TAU%yt%tb%ik%PSI%sf$",
    "PARTIALkb$lbwt$xh:$ov:$tb:$uc:$PI:#hsoldgj&hk&mf&ju&lb&ZETA&ETA&xh&oi&ov&pm&MU&NU&XI&sg&PI",
    "&uc&xhwt&vn&TAU&yt&tb&ik&PSI&sf%NABLA%cgj&hk&mf&ju&lb&ZETA&ETA&xh&oi&ov&pm&MU&NU&XI&sg&PI&",
    "uc&lsvn&:&TAU&yt&tb&ik&PSI&sf%PARTIALkb%lbwt%xh:%ov:%tb:%uc:%PI:#ushsdgj&hk&mf&ju&lb&ZETA&",
    "ETA&xh&oi&ov&pm&MU&NU&XI&sg&PI&uc&xhwt&vn&TAU&yt&tb&ik&PSI&sf%NABLA%cgj&hk&mf&ju&lb&ZETA&E",
    "TA&xh&oi&ov&pm&MU&NU&XI&sg&PI&uc&lsvn&:&TAU&yt&tb&ik&PSI&sf%PARTIALkb%lbwt%xh:%ov:%tb:%uc:",
    "%PI:%oldgj(hk(mf(ju(lb(ZETA(ETA(xh(oi(ov(pm(MU(NU(XI(sg(PI(uc(xhwt(vn(TAU(yt(tb(ik(PSI(sf&",
    "NABLA&cgj(hk(mf(ju(lb(ZETA(ETA(xh(oi(ov(pm(MU(NU(XI(sg(PI(uc(lsvn(:(TAU(yt(tb(ik(PSI(sf&PA",
    "RTIALkb&lbwt&xh:&ov:&tb:&uc:&PI:#hsdDIGAMMA$c:~~$kczy%sh%yl%xp%ma%lv%vq%uz%ks%rn#kmkczy%sh",
    "%yl%xp%ma%lv%vq%uz%ks%rn#uskczy%sh%yl%xp%ma%lv%vq%uz%ks%rn$hskczy&sh&yl&xp&ma&lv&vq&uz&ks&",
    "rn#MONOSPACEkczy%sh%yl%xp%ma%lv%vq%uz%ks%rn!SIGNWRITINGnbnz#mz:#na:#ne:#nc:#my:#nbnzhi#mz;",
    "#nbxrUNDER;$nztxKNUCKLE%CUPPED%nn&qg#mznzHINGE#nbnzqt#mz;#nbnzqthi&txKNUCKLES&nn%yp;%nnqty",
    "p%qtiv(nzhi(qt:(CUPPED(nn&jd#mz<#nbqthisonz$nzhisoqt%qtxr#mz<#nbnzqtwhxrhi&hixrwh&xrhi&nnw",
    "bxrvl%ypqtnn;*iv%nnqtypxrvl%qtypwbxrlz&xrCUPPED(in(HOOKED(nn$xrhmnzqtwh$nzqtivxrvl*iv*hi$q",
    "txrHOOKEDnzyp$nzxrHOOKEDqt:%qtivnnxrvl&jd;&ivxrlz(CUPPED;$qtxrCUPPEDnzyp$nzxrCUPPEDqt:$qtx",
    "rinnz:)nn$nzxrANGLED OUTqtyp(IN;&in;%qtxrivnn(ANGLED OUT)$qtxrANGLED OUTnzyp*jd(nzyp$nzxrH",
    "OOKEDqtnn#HAND-FLATmalt&hi&nn&iv(SPLIT#HAND-CLAWmaltiv#nbmaltivhi#ncmaltiv#HAND-FLATlvltwb",
    "$HEEL<$lvltwbmahi$HEEL>$lvltwb:$HEEL=$lvltwbxrlz#nalvltwb(si#nc=#nelvltwb#HAND-FLATlvltwbn",
    "n)xrvl)NOxr$$hmPALM FACINGS$HEEL$xrvl$HEEL;$xrhi%lz$SPLITnzxrvl%if&xrvl)hi%qb#HAND-CLAW$xr",
    "vl$NOxr$xrlz#ndCURLICUE$#nasi$$sixrvl$;$siNOxr$;$sixrlz$;#HAND-CURLICUEsi$#mz#ne$xrvl$NOxr",
    "$xrlz#ncsi%xrlz$$c$sixrvl$;$siNOxr$;$xrvlTOUCHINGnz%hmqtuj#my#nbnzqtuj#mz<#nc<#my<#ncqb#nb",
    "nzqtujhi(iv#nc=#nbqbkn&RIPPLEwh(jk&OTHERSin%yp$xrUNDER;#mz;#ne;#my;#nbqbtxKNUCKLE%hi%TOUCH",
    "ESxr%:#nc;#nbqbnz:#nc<#myqbnzxrnzxrOUT*#nbqbnz#mz;#nc;#my;#nbnzqtqb#mz<#nc<$uj#mynzqtqb#nb",
    "nzqtjc:#mz=#nbujkn#ncujknnzxrnqqt#myujknqtxrnzjc#nbujyp%txKNUCKLE%qb#mz;#ne;#my;#nbujqt&iv",
    "&txKNUCKLES%nz%xr#nd;#nbnzujqb#mz<#HAND-CURLICUEnzujqbON#ndnzujqbOUT(IN(UNDER#nanzujqb#nc<",
    "#mynzujqbOUT(#nbqtkn#ncqt#nbqtyp#mz;#nbqttxKNUCKLE%ypxrvl#ndqtxr#nbqtxrqb%:%uj:#mz<#HAND-C",
    "URLICUEqtujqbON#naqtujqb#nc<#myqtujqbOUT(IN(#mzqtujqbhi#HAND-CLAWqtujqbiv)vl#ndqtujqbivOUT",
    ")IN)#ncnznn#nbnzxrvl#nc<#nbnzxrvlxrjy)iv)hi(nz:(BOTH:(nzHINGE&lznzwh)hi&nq&CURLICUE&jjxroc",
    "#HAND-CLAW>#nbnzxrjjxrUNDER&im#nanzxr&si#nc<&po&&c#mynzxrOUT&IN&#nb:%HEEL%vljy&iv&hi%lz%hm",
    "nzqt&qtuj&ujqb%UNDERyllt%so;%UNDERxp:&ma:%somatxKNUCKLES$$HEEL#TOUCHvp$rd$hm#GRASPvp$rd$hm",
    "#STRIKEvp$rd$hm#BRUSHvp$rd$hm#RUBvp$rd$hm#SURFACE SYMBOLS$hm#SQUEEZEpovp$c:$pord$c:$SEQUEN",
    "TIAL#FLICKpovp$c:$pord$c:$SEQUENTIAL#SQUEEZE FLICKgl#MOVEMENT-HINGEypknpo&c%SEQUENTIAL$kn:",
    "$ypknglpo(c$vlxvvlSCISSORS#rcFINGER CONTACT#rb;#rcvpwhc&qr&po&pp%znFLEX$kkwh%znFLEX%gl&znF",
    "LEX$jc$ycwhra%znFLEX%gl&znFLEX$BENDc%qr%po$jac%qr%po%ROTATION$iic%qr%po$huc%qr%po$zzc%qr%p",
    "o$PEAKSc%qr%po#TRAVEL-WALLPLANEunvp%kk%gl$umvp%kk%gl$SHAKING$ARM SPIRALvp&kk&yc#MOVEMENT-D",
    "IAGONAL AWAYc%qr%po%pp$TOWARDSc%qr%po%pp$hmAWAYc&qr&po&pp%TOWARDSc&qr&po&pp#rbvpwhc&qr&po&",
    "pp%znFLEX$kkwh%znFLEX%gl&znFLEX$jc$ycwhra%znFLEX%glra&znFLEX$BEND$jac%qr%po$ii$huc%qr%po$z",
    "zc%qr%po$PEAKSc%qr%po#TRAVEL-FLOORPLANEumvp%kk%gl$unvp%kk%gl$SHAKING#rcjjtrc&qr&po&pp%HALF",
    "-CIRCLEc&qr&po&pp%THREE-QUARTERimc(qr$HUMPc%qr%po$qfc%qr%po%ckk$zgjjkkc(qr(po&ycc(qr(po$jj",
    "THENwh$jkjcc&qr#unvp$kk$gk#rcSHAKING$jjnpFRONT WALL$HUMP<$qf<$zg<#unvp<$kk<$gl<#rcjjnpCHES",
    "T$HUMP;$qf;$zg;#unvp;$kk;$gl;#rczgjyPATHc(qr(po#rbjjnpCEILINGc(po$HUMPnpCEILINGckk(po:(cyc",
    "(po:$qfnpCEILINGcvp(po:(ckk(po:$zgnpCEILINGc(po#umvpnpCEILING$kk;$gl;#rbjjnpFLOORc(po$HUMP",
    "npFLOORckk(po:(yccyc)po:$qfnpFLOORcvp(po:(ckk(po:$zgnpFLOORc(po#umvpnpFLOOR$kk;$gl;#rbjjc%",
    "qr%po%pp%COMBINED$HUMPc$qf:$zgSNAKE%c%po#umvp$kk$gl#rbSHAKINGsv#rcARMimcvp&qr:&ckk&qr:#rbA",
    "RMimnpWALLcvp)qr:)po:)ckk)qr:)po:#rcznimFRONTvp(kk#rbznimnpWALLvp)kk#rcFINGER CIRCLESvp&kk",
    "#rbFINGER CIRCLESnpWALLvp)kk#DYNAMICgxc%po$FAST$SLOW$TENSE$RELAXED$SIMULTANEOUS%gl$EVERY O",
    "THER TIME$GRADUAL#nh$RIM$rcwh%TILT$rbwh$rcjj$rb:$raim#llDIRECTION POSITION NOSElzTILTING(y",
    "pORkn+TILTING#EYEBROWSwhyp%rl%kn#DREAMY EYEBROWSrl:%knrl%yp:%rlyp#FOREHEADrl$CONTACT$zm#lk",
    "si$SQUEEZED$iq#EYE BLINKvp%rd#lkmvsi$WIDE:$mviq$WIDENINGra#EYE WINK#EYELASHESyp$kn$FLUTTER",
    "ING#ljwh%kk%gl#EYEGAZE-FLOORPLANEwh%kk%gl#ljjk#EYEGAZE-FLOORPLANE:#ljCIRCLING#CHEEKS PUFFE",
    "D$rl$SUCKED#TENSE CHEEKSnm%qt%qg#EARS#NOSErl$CONTACT$WRINKLES$WIGGLES#AIR BLOWING OUT$SUCK",
    "ING IN$BLOWcROTATIONS$SUCK;#BREATH INHALE$EXHALE#qziqrl%lz%CONTACT$SMILE%zm%si$FROWN%zm%si",
    "$siim%lz%zm%OVAL&zm&YAWN%RECTANGLE&zm&YAWN$KISS%lz%zm$TENSE%lz%SUCKED#LIPS PRESSED TOGETHE",
    "R#LIPqhsoys$yssoqh#qzCORNERS$WRINKLESvp%kk#TONGUE STICKING OUT FAR$LICKING LIPS$TIPhm:%TOU",
    "CHINGocqz$ocqzRELAXED$MOVES AGAINST CHEEK$ifSTICKING OUT%ocqz#TEETH$ra$ON TONGUE&ra%LIPS&r",
    "a$BITE LIPS#rcJAW#rb:#NECK#HAIR#EXCITEMENT#SHOULDER HIP SPINE%POSITIONS#WALLPLANE SHOULDER",
    " HIP MOVE#FLOORPLANE<#SHOULDER TILTINGmdWAIST#TORSO-WALLPLANEwhSTRETCH$jkBEND#TORSO-FLOORP",
    "LANE TWISTING#ysBODY TILTINGmdHIP JOINTS#LIMB COMBINATION$LENGTH-1$.$.$.$.$.$.#FINGER#LOCA",
    "TION-WALLPLANEwa#LOCATION-FLOORPLANE:#LOCATION HEIGHT$WIDTH$DEPTH$nhNECK$TORSO$LIMBS DIGIT",
    "S#it#mewg#ux#ir#sw"] },
  { first := 121499, lines := [
    "!SIGNWRITING FILL MODIFIER-2$.$.$.$.~#ROTATION MODIFIER-2$.$.$.$.$.$.$.$.$.$.$.$.$.$."] },
  { first := 122624, lines := [
    "!pqcbFENGkdaTRILL%ubuuG#bcdyi:#cbubK#bcdLaBELT#cbLEZHatznq%yiYaBELT%ubENG%yiRaqeLEGftznq%T",
    "anq<#btzCLICKa;#cbESHakkhe*fjh%yiTa:#bohmnwg;$STRETCHED C;$cdyiK#cbLalu%DEZHkdastnq%LaBELT",
    "f;%ENGa;%yiR<%Raluf;%TESHkda;%EZH<%DEZHkdatz:%Iawif;%Oa;%TESHkd<%C<%Sajh"] },
  { first := 122880, lines := [
    "!isGLAGOLITICbAZU%BUKY%VEDE%GLAGOLI%DOBRO%YESTU%ZHIVETE~%ZEMLJA%IZHE%ob:%I%DJERVI%KAKO%LJU",
    "DIJE%MYSLITE%NASHI%ONU%POKOJI%RITSI%SLOVO%TVRIDO%UKU%FRITU%HERU~~%SHTA%TSI%CHRIVI%vc%YERU%",
    "YERI%YATI~%YU%cYUS~%YO%IOTATEDcYUS%BIG:%IOTATED;%FITA"] },
  { first := 123136, lines := [
    "!NYIAKENG PUACHUE HMONGbqj&yd&NTA&wu&mt&rh&XA&NKA&CA&pj&up&ZA&NCA&NTSA&os&jm&sb&NRA&VA&NTX",
    "A&TXA&FA&tw&QA&zp&NQA&ss&XYA&NPA&DLA&NPLA&mu&MLA&PLA&GA&RRA&A&AA&I&U&O&OO&E&EE&W~~~%TONE-B",
    "%TONE-M%TONE-J%TONE-V%TONE-S%TONE-G%TONE-D%elwsz(THING(LOCATION(ANIMAL(INVERTEBRATE&XW XW%",
    "wsLENGTHENER~~%kczy&sh&yl&xp&ma&lv&vq&uz&ks&rn~~~~%LOGOGRAM NYAJ%inCA"] },
  { first := 123536, lines := [
    "!TOTObss$BA$wu$jm$os$GA$qj$rh$rm$up$ig$zp$WA$JA$mt$tw$pj$I$BREATHY:$IU$BREATHY:$U$E$BREATH",
    "Y:$EO$BREATHY:$O$AE$BREATHY:$A#eukxw"] },
  { first := 123584, lines := [
    "!WANCHObAA$A$BA$CA$jm$GA$zp$ta$pj$rh$ss$wu$xe$FA$up$vc$JA$ZA$WA$VA$os$O$AU$tw$qj$pb$mt$E$I",
    "$rm$U$LLHA$yd$TRA$ONG$AANG$ANG$ING$ON$EN$AAN$sb$UEN$YIH#xwTUP$TUPNI$KOI$KOINI#kczy$sh$yl$x",
    "p$ma$lv$vq$uz$ks$rn~~~~~#NGUNe"] },
  { first := 124896, lines := [
    "!ETHIOPICwsHHYA$HHYU$HHYI$HHYAA$HHYEE$HHYE$HHYO~$GURAGE HHWA$HHWI$HHWEE$HHWE~$GURAGE MWI%M",
    "WEE~%QWI%QWEE%QWE%BWI%BWEE%KWI%KWEE%KWE%GWI%GWEE%GWE%FWI%FWEE%PWI%PWEE~!MENDE KIKAKUIwsM00",
    "1 KI%M002os%M003 KU%M065 KEE%M095 KE%M076 KOO%M048 KO%M179 KUA%M004 WI%M005 WA%M006 WU%M12",
    "6 WEE%M118 WE%M114 WOO%M045 WO%M194 WUI%M143 WEI%M061 WVI%M049 WVA%M139 WVE%M007 MIN%M008 ",
    "MAN%M009 MUN%M059 MEN%M094 MON%M154 MUAN%M189 MUEN%M010 BI%M011 BA%M012 BU%M150 BEE%M097 B",
    "E%M103 BOO%M138 BO%M013 I%M014 A%M015 U%M163 EE%M100 E%M165 OO%M147 O%M137 EI%M131 IN%M135",
    ":%M195 AN%M178 EN%M019 SI%M020up%M021 SU%M162 SEE%M116 SE%M136 SOO%M079 SO%M196 SIA%M025 L",
    "I%M026pj%M027 LU%M084 LEE%M073 LE%M054 LOO%M153 LO%M110qeLE%M016 DI%M017jm%M018 DU%M089 DE",
    "E%M180 DOO%M181 DO%M022 TI%M023wu%M024 TU%M091 TEE%M055 TE%M104 TOO%M069xv%M028 JI%M029 JA",
    "%M030 JU%M157 JEE%M113 JE%M160 JOO%M063 JO%M175qe:%M031 YI%M032zp%M033 YU%M109 YEE%M080 YE",
    "%M141 YOO%M121 YO%M034 FI%M035 FA%M036 FU%M078 FEE%M075 FE%M133 FOO%M088 FO%M197 FUA%M101 ",
    "FAN%M037 NIN%M038 NAN%M039sa%M117 NEN%M169 NON%M176 HI%M041mt%M186 HU%M040 HEE%M096 HE%M04",
    "2 HOO%M140 HO%M083 HEEI%M128 HOOU%M053 HIN%M130 HAN%M087 HUN%M052 HEN%M193 HON%M046 HUAN%M",
    "090 NGGI%M043 NGGA%M082 NGGU%M115 NGGEE%M146 NGGE%M156 NGGOO%M120 NGGO%M159 NGGAA%M127 NGG",
    "UA%M086qeNGGE%M106qeNGGOO%M183qeNGGO%M155 GI%M111 GA%M168 GU%M190 GEE%M166 GUEI%M167 GUAN%",
    "M184 NGEN%M057 NGON%M177 NGUAN%M068 PI%M099ss%M050 PU%M081 PEE%M051 PE%M102 POO%M066 PO%M1",
    "45 MBI%M062 MBA%M122 MBU%M047 MBEE%M188:%M072 MBE%M172 MBOO%M174 MBO%M187 MBUU%M161qeMBE%M",
    "105qeMBOO%M142qeMBO%M132 KPI%M092 KPA%M074 KPU%M044 KPEE%M108 KPE%M112 KPOO%M158 KPO%M124 ",
    "GBI%M056 GBA%M148 GBU%M093 GBEE%M107 GBE%M071 GBOO%M070 GBO%M171tw%M123 NDI%M129 NDA%M125 ",
    "NDU%M191 NDEE%M119 NDE%M067 NDOO%M064 NDO%M152 NJA%M192 NJU%M149 NJEE%M134 NJOO%M182 VI%M1",
    "85 VA%M151 VU%M173 VEE%M085 VE%M144 VOO%M077 VO%M164 NYIN%M058 NYAN%M170 NYUN%M098 NYEN%M0",
    "60 NYON~~$kcsh%yl%xp%ma%lv%vq%uz%ks%rn$isryTEENS&TENS&HUNDREDS&xo&xc:&nt:&MILLIONS"] },
  { first := 125184, lines := [
    "!ADLAMdbALIF%DAALI%LAAM%MIIM%BA%SINNYIIYHE%PE%BHE%tw%E%FA%I%O%jw%YHE%zh%sa%ot%zp%U%JIIM%ik",
    "%mt%QAAF%GA%sb%TU%NHA%VA%pb%GBE%ZAL%KPO%vc#cbALIF%DAALI%LAAM%MIIM%BA%SINNYIIYHE%PE%BHE%tw%",
    "E%FA%I%O%jw%YHE%zh%sa%ot%zp%U%JIIM%ik%mt%QAAF%GA%sb%TU%NHA%VA%pb%GBE%ZAL%KPO%vc#ALIF LENGT",
    "HENER#ze:#miqo#mw#iwqv#GEMINATE;#rx#NASALIZATIONqo~~~~#kczy$sh$yl$xp$ma$lv$vq$uz$ks$rn~~~~",
    "#oblfqo$tu:"] },
  { first := 126065, lines := [
    "!INDIC SIYAQrysh%yl%xp%ma%lv%vq%uz%ks%rn%xc%yk%xm%ly%lq%vt%vb%kw%rp%shnt%yl:%xp:%ma:%lv:%v",
    "q:%uz:%ks:%rn:%shxn%yl:%xp:%ma:%lv:%vq:%uz:%ks:%rn:%xc:%yk:%xm:%ly:%lq:%vt:%vb:%kw:%rp:%LA",
    "KH%LAKHAN$LAKHqo$ryKAROR%KARORAN%PREFIXEDsh&yl&xp&ma&lv&vq&uz&ks&rn$PLACEHOLDER$mcshtr&mv%",
    "xpts$RUPEEqo$rygksh&yl&xcxn$gkLAKHqo"] },
  { first := 126209, lines := [
    "!OTTOMAN SIYAQrysh%yl%xp%ma%lv%vq%uz%ks%rn%xc%yk%xm%ly%lq%vt%vb%kw%rp%shnt%yl:%xp:%ma:%lv:",
    "%vq:%uz:%ks:%rn:%shxn%yl:%xp:%ma:%lv:%vq:%uz:%ks:%rn:%xc:%yk:%xm:%ly:%lq:%vt:%vb:%kw:%rp:$",
    "MARRATAN$gkryyl&xp&ma&lv&vq&uz&ks&rn&xc&mant&vq:&ylxn&xc:$mcshmv&SIXTH"] },
  { first := 126464, lines := [
    "!gsqpgf$BEH$op$DAL~$zh$zu$mu$ww$zq$ot$pl$qs$rr$uw$ge$FEH$SAD$tp$ty$vf$TEH$THEH$pc$THAL$DAD",
    "$ZAH$mk$khBEH%rr%FEH%tp~$obBEH%op~%nk~~%mu~%zq%ot%pl%qs%rr%uw%ge%FEH%SAD%tp~%vf%TEH%THEH%p",
    "c~%DAD~%mk~~~~~~$TAILEDop~~~~%mu~%zq~%pl~%rr%uw%ge~%SAD%tp~%vf~~%pc~%DAD~%mk~%khrr~&tp~$ST",
    "RETCHED BEH%op~%nk~~%mu%ww%zq%ot~%qs%rr%uw%ge%FEH%SAD%tp~%vf%TEH%THEH%pc~%DAD%ZAH%mk%khBEH",
    "~&FEH~$LOOPEDgf%BEH%op%DAL%nk%zh%zu%mu%ww%zq~%pl%qs%rr%uw%ge%FEH%SAD%tp%ty%vf%TEH%THEH%pc%",
    "THAL%DAD%ZAH%mk~~~~~$kmBEH%op%DAL~%zh%zu%mu%ww%zq~%pl%qs%rr%uw%ge%FEH%SAD%tp%ty%vf%TEH%THE",
    "H%pc%THAL%DAD%ZAH%mk"] },
  { first := 126704, lines := ["!gsqpsjqsamuaTATWEEL%muaDAL"] },
  { first := 126976, lines := [
    "!MAHJONG TILEkrWIND$vz:$zi:$rt:$RED DRAGON$GREEN:$zk:$shscCHARACTERS$yl;$xp;$ma;$lv;$vq;$u",
    "z;$ks;$rn;$shscBAMBOOS$yl;$xp;$ma;$lv;$vq;$uz;$ks;$rn;$shscCIRCLES$yl;$xp;$ma;$lv;$vq;$uz;",
    "$ks;$rn;$PLUM$ORCHID$BAMBOO$CHRYSANTHEMUM$SPRING$SUMMER$AUTUMN$WINTER$JOKER$BACK~~~~!DOMIN",
    "O TILEnr:$HORIZONTAL-00-00$.$.$.$.$.$.$HORIZONTAL-01-00$.$.$.$.$.$.$HORIZONTAL-02-00$.$.$.",
    "$.$.$.$HORIZONTAL-03-00$.$.$.$.$.$.$HORIZONTAL-04-00$.$.$.$.$.$.$HORIZONTAL-05-00$.$.$.$.$",
    ".$.$HORIZONTAL-06-00$.$.$.$.$.$.$yxBACK$VERTICAL-00-00$.$.$.$.$.$.$VERTICAL-01-00$.$.$.$.$",
    ".$.$VERTICAL-02-00$.$.$.$.$.$.$VERTICAL-03-00$.$.$.$.$.$.$VERTICAL-04-00$.$.$.$.$.$.$VERTI",
    "CAL-05-00$.$.$.$.$.$.$VERTICAL-06-00$.$.$.$.$.$."] },
  { first := 127136, lines := [
    "!PLAYING CARD BACK$ACEscSPADES$yl;$xp;$ma;$lv;$vq;$uz;$ks;$rn;$xc;$JACK;$ph;$tt;$pe;~~$ACE",
    "scHEARTS$yl;$xp;$ma;$lv;$vq;$uz;$ks;$rn;$xc;$JACK;$ph;$tt;$pe;$RED JOKER~$ACEscDIAMONDS$yl",
    ";$xp;$ma;$lv;$vq;$uz;$ks;$rn;$xc;$JACK;$ph;$tt;$pe;$hpJOKER~$ACEscCLUBS$yl;$xp;$ma;$lv;$vq",
    ";$uz;$ks;$rn;$xc;$JACK;$ph;$tt;$pe;$zkJOKER$FOOL$TRUMP-1$.$.$.$.$.$.$.$.$.$.$.$.$.$.$.$.$.",
    "$.$.$.~~~~~~~~~~!kczymewg$it#sh:#yl:#xp:#ma:#lv:#vq:#uz:#ks:#rn:!DINGBATinuskczy#rj=!inzya",
    "vv#gogw#DOLLAReaOVERLAIDhd!sxpqdbA&.&.&.&.&.&.&.&.&.&.&.&.&.&.&.&.&.&.&.&.&.&.&.&.&.!xyvgB",
    "RACKETEDpqdbS!inolpqdbC(R#CD#WZ!COPYLEFTwt!wdpqdbA&.&.&.&.&.&.&.&.&.&.&.&.&.&.&.&.&.&.&.&.",
    "&.&.&.&.&.#HV#MV#SD#SS#PPV#WC!rjinpqdbA(.(.(.(.(.(.(.(.(.(.(.(.(.(.(.(.(.(.(.(.(.(.(.(.(.!",
    "txMCe#MD:#MR:!inCC#CaOVERLAIDhd#HUMAN FIGURE!rjwdpqdbA(.(.(.(.(.(.(.(.(.(.(.(.(.(.(.(.(.(.",
    "(.(.(.(.(.(.(.!jdrjwdpqdbP!rjwdIC$ss$up$AB$WC!wcDJ!wdCL#COOL#FREE#ID#NEW#NG#OK#SOS#ypalfqo",
    "#VS#xpD#SECOND SCREEN#ylK#ma:#ks:#lvtgsh#uz;#TWENTY-TWOtgyl#vtP#shntyk:#pqcbD#HC#HDR#HI-RE",
    "S#LOSSLESS#SHV#UHD#VOD!MASK WORKwt"] },
  { first := 127462, lines := [
    "!REGIONALoawtbA&.&.&.&.&.&.&.&.&.&.&.&.&.&.&.&.&.&.&.&.&.&.&.&.&.!wcnoHOKA!wdoyKOKO$up"] },
  { first := 127504, lines := [
    "!wdCJK UNIFIED IDEOGRAPH-624B%IDEOGRAPH-5B57%IDEOGRAPH-53CC#oyDE#CJK UNIFIED IDEOGRAPH-4E8",
    "C%IDEOGRAPH-591A%IDEOGRAPH-89E3%IDEOGRAPH-5929%IDEOGRAPH-4EA4%IDEOGRAPH-6620%IDEOGRAPH-712",
    "1%IDEOGRAPH-6599%IDEOGRAPH-524D%IDEOGRAPH-5F8C%IDEOGRAPH-518D%IDEOGRAPH-65B0%IDEOGRAPH-521",
    "D%IDEOGRAPH-7D42%IDEOGRAPH-751F%IDEOGRAPH-8CA9%IDEOGRAPH-58F0%IDEOGRAPH-5439%IDEOGRAPH-6F1",
    "4%IDEOGRAPH-6295%IDEOGRAPH-6355%IDEOGRAPH-4E00%IDEOGRAPH-4E09%IDEOGRAPH-904A%IDEOGRAPH-5DE",
    "6%IDEOGRAPH-4E2D%IDEOGRAPH-53F3%IDEOGRAPH-6307%IDEOGRAPH-8D70%IDEOGRAPH-6253%IDEOGRAPH-798",
    "1%IDEOGRAPH-7A7A%IDEOGRAPH-5408%IDEOGRAPH-6E80%IDEOGRAPH-6709%IDEOGRAPH-6708%IDEOGRAPH-753",
    "3%IDEOGRAPH-5272%IDEOGRAPH-55B6%IDEOGRAPH-914D~~~~!xyvgBRACKETED CJK UNIFIED IDEOGRAPH-672",
    "C(IDEOGRAPH-4E09(IDEOGRAPH-4E8C(IDEOGRAPH-5B89(IDEOGRAPH-70B9(IDEOGRAPH-6253(IDEOGRAPH-76D",
    "7(IDEOGRAPH-52DD(IDEOGRAPH-6557~~~~~~~!inIDEOGRAPH ADVANTAGE$ACCEPT"] },
  { first := 127584, lines := ["!uowtlwFU%LU%SHOU%XI%SHUANGXI%CAI"] },
  { first := 127744, lines := [
    "!CYCLONE!FOGGY!iqUMBRELLA!NIGHTaSTARS!SUNRISEsoMOUNTAINS#!CITYSCAPE AT DUSK!SUNSETsoBUILDI",
    "NGS!RAINBOW!BRIDGE AT NIGHT!zfzg!VOLCANO!MILKY WAY!kqGLOBE EUROPE-AFRICA$AMERICAS$ASIA-AUS",
    "TRALIA!GLOBEaMERIDIANS!NEWqxwt!WAXINGjb;!FIRSTtr;!WAXING GIBBOUS;!me;!WANING GIBBOUS;!LAST",
    "tr;!WANINGjb;!jbqx!NEWqxall!FIRSTtr<!LAST=!me<!SUN;!GLOWINGwf!SHOOTING:!THERMOMETER!hpDROP",
    "LET!zkSUN$acCLOUD$BEHIND:&aRAIN!<$SNOW$LIGHTNING$TORNADO!FOG!WIND BLOWINGll!HOT DOG!TACO!B",
    "URRITO!CHESTNUT!SEEDLING!EVERGREEN TREE!DECIDUOUS:!PALM:!CACTUS!HOT PEPPER!TULIP!CHERRY BL",
    "OSSOM!ROSE!HIBISCUS!SUNFLOWER!BLOSSOM!EARscMAIZE$RICE!HERB!maLEAF CLOVER!MAPLE LEAF!FALLEN",
    ":!LEAF FLUTTERING IN WIND!MUSHROOM!TOMATO!AUBERGINE!GRAPES!MELON!WATERMELON!TANGERINE!LEMO",
    "N!BANANA!PINEAPPLE!RED APPLE!GREEN:!PEAR!PEACH!CHERRIES!STRAWBERRY!HAMBURGER!SLICEscPIZZA!",
    "MEAT ON BONE!POULTRY LEG!RICE CRACKER#BALL!COOKED RICE!CURRYf:!STEAMING BOWL!SPAGHETTI!BRE",
    "AD!FRENCH FRIES!ROASTED SWEET POTATO!DANGO!ODEN!SUSHI!FRIED SHRIMP!FISH CAKEaSWIRL DESIGN!",
    "SOFT ICE CREAM!SHAVED ICE!ICE CREAM!DOUGHNUT!COOKIE!CHOCOLATEhe!CANDY!LOLLIPOP!CUSTARD!HON",
    "EY POT!SHORTCAKE!BENTOhu!POTscFOOD!COOKING!FORKfKNIFE!TEACUP WITHOUT HANDLE!SAKE BOTTLEfCU",
    "P!WINE GLASS!COCKTAIL:!TROPICAL DRINK!BEER MUG!CLINKING BEER MUGS!BABY BOTTLE!FORKfKNIFEaP",
    "LATE!BOTTLEaPOPPING CORK!POPCORN!RIBBON!WRAPPED PRESENT!BIRTHDAY CAKE!JACK-O-LANTERN!CHRIS",
    "TMAS TREE!FATHER CHRISTMAS!FIREWORKS!FIREWORK SPARKLER!BALLOON!PARTY POPPER!CONFETTI BALL!",
    "TANABATA TREE!jdFLAGS!PINE DECORATION!ooDOLLS!CARP STREAMER!WIND CHIME!qxVIEWING CEREMONY!",
    "SCHOOL SATCHEL!GRADUATION CAP!niaTIP ONxfpr!BOUQUETscFLOWERS!MILITARY MEDAL!REMINDER RIBBO",
    "N!rgKEYBOARDaJACKS!STUDIO MICROPHONE!LEVEL SLIDER!CONTROL KNOBS!BEAMED ASCENDINGrgNOTES#DE",
    "SCENDING;!FILM FRAMES!ADMISSION TICKETS!CAROUSEL HORSE!FERRIS WHEEL!ROLLER COASTER!FISHING",
    " POLEfFISH!MICROPHONE!MOVIE CAMERA!CINEMA!HEADPHONE!ARTIST PALETTE!xxHAT!CIRCUS TENT!TICKE",
    "T!CLAPPER BOARD!PERFORMING ARTS!VIDEO GAME!DIRECT HIT!SLOT MACHINE!BILLIARDS!GAME DIE!BOWL",
    "ING!FLOWER PLAYING CARDS!rgNOTE!rdrgNOTES!SAXOPHONE!GUITAR!rgKEYBOARD!TRUMPET!VIOLIN!rgSCO",
    "RE!RUNNING SHIRTaSASH!TENNIS RACQUETfBALL!SKIfSKI BOOT!BASKETBALLfHOOP!CHEQUERED FLAG!SNOW",
    "BOARDER!RUNNER!SURFER!SPORTS MEDAL!TROPHY!HORSE RACING!AMERICAN FOOTBALL!RUGBY:!SWIMMER!WE",
    "IGHT LIFTER!GOLFER!RACING MOTORCYCLE#CAR!CRICKET BATfBALL!VOLLEYBALL!FIELD HOCKEY STICKfBA",
    "LL!ICE HOCKEY STICKfPUCK!TABLE TENNIS PADDLEfBALL!SNOW CAPPEDqy!CAMPING!BEACHaUMBRELLA!BUI",
    "LDING CONSTRUCTION!HOUSE BUILDINGS!CITYSCAPE!DERELICT HOUSE BUILDING!CLASSICAL:!DESERT#ISL",
    "AND!NATIONAL PARK!STADIUM!HOUSE BUILDING#aGARDEN!OFFICE BUILDING!ooPOST OFFICE!EUROPEAN;!H",
    "OSPITAL!BANK!AUTOMATED TELLER MACHINE!HOTEL!LOVE:!CONVENIENCE STORE!SCHOOL!DEPARTMENT STOR",
    "E!FACTORY!IZAKAYA LANTERN!ooCASTLE!EUROPEAN:!zkPENNANT!hp:!WAVINGzkFLAG#hp:!ROSETTE!hp:!LA",
    "BEL!BADMINTON RACQUETfSHUTTLECOCK!BOWfgw!AMPHORA!EMOJIqvFITZPATRICK TYPE-1-2%TYPE-3%.%.%.!",
    "RAT!MOUSE!OX!zfBUFFALO!COW!TIGER!LEOPARD!RABBIT!CAT!DRAGON!CROCODILE!WHALE!SNAIL!SNAKE!HOR",
    "SE!RAM!GOAT!SHEEP!MONKEY!ROOSTER!CHICKEN!DOG!PIG!BOAR!ELEPHANT!OCTOPUS!SPIRALvg!BUG!ANT!HO",
    "NEYBEE!LADY BEETLE!FISH!TROPICAL:!BLOWFISH!TURTLE!HATCHING CHICK!BABY:!FRONT-FACING;!BIRD!",
    "PENGUIN!KOALA!POODLE!DROMEDARY CAMEL!BACTRIAN:!DOLPHIN!MOUSEll!COW:!TIGER:!RABBIT:!CAT:!DR",
    "AGON:!SPOUTING WHALE!HORSEll!MONKEY:!DOG:!PIG:!FROG:!HAMSTER:!WOLF:!BEAR:!PANDA:!PIG NOSE!",
    "PAW PRINTS!CHIPMUNK!lk!EYE!EAR!NOSE!qz!TONGUE!zkyptiBACKHANDnz#kn<#pr<#ue<!FISTEDmxe!WAVIN",
    "G;!OK;!THUMBSyp:#kn:!CLAPPING HANDS:!si;!CROWN!WOMANS HAT!EYEGLASSES!NECKTIE!T-SHIRT!JEANS",
    "!DRESS!KIMONO!BIKINI!WOMANS CLOTHES!PURSE!HANDBAG!POUCH!MANS SHOE!ATHLETIC:!HIGH-HEELED:!W",
    "OMANS SANDAL#BOOTS!FOOTPRINTS!BUST IN SILHOUETTE!BUSTS;!BOY!GIRL!MAN!WOMAN!FAMILY!MANfWOMA",
    "N HOLDING HANDS!ylMEN;#WOMEN;!POLICE OFFICER!WOMANaBUNNY EARS!BRIDEaVEIL!szaBLOND HAIR!MAN",
    "aGUA PI MAO$TURBAN!OLDER MAN#WOMAN!BABY!CONSTRUCTION WORKER!PRINCESS!ooOGRE#GOBLIN!GHOST!B",
    "ABY ANGEL!EXTRATERRESTRIAL ALIEN!ALIEN MONSTER!IMP!SKULL!INFORMATION DESKsz!GUARDSMAN!DANC",
    "ER!LIPSTICK!NAIL POLISH!llMASSAGE!HAIRCUT!BARBER POLE!SYRINGE!PILL!KISSqo!LOVEb!uj!GEM STO",
    "NE!KISS!BOUQUET!COUPLEani!WEDDING!BEATINGni!BROKEN:!ylHEARTS!SPARKLINGni!GROWING:!niagw!BL",
    "UEni!GREEN:!YELLOW:!PURPLE:!niaRIBBON!REVOLVING HEARTS!niDECORATION!kaSHAPEaAkgoc!ELECTRIC",
    "pzBULB!ANGERwt!BOMB!SLEEPINGwt!COLLISION:!SPLASHING SWEAT:!DROPLET!jqwt!PILEscPOO!FLEXED B",
    "ICEPS!DIZZYwt!SPEECH BALLOON!THOUGHT:!zkFLOWER!ntPOINTSwt!MONEY BAG!CURRENCY EXCHANGE!njDO",
    "LLARe!CREDIT CARD!BANKNOTEaYENe$DOLLAR:$EURO:$POUND:!MONEYaWINGS!CHARTayuTRENDfYENe!SEAT!P",
    "ERSONAL COMPUTER!BRIEFCASE!MINIDISC!FLOPPY DISK!OPTICAL DISC!DVD!FILE FOLDER!si;!PAGEajh#F",
    "ACINGyp!CALENDAR!TEAR-OFF:!CARDnz!CHARTayuTREND$kp:!heCHART!CLIPBOARD!PUSHPIN!ROUND:!PAPER",
    "CLIP!whRULER!yb:!BOOKMARK TABS!LEDGER!NOTEBOOK#aDECORATIVE COVER!iqBOOK!si:!GREEN:!BLUE:!O",
    "RANGE:!BOOKS!NAME BADGE!SCROLL!MEMO!xbRECEIVER!PAGER!FAX MACHINE!SATELLITE ANTENNA!PUBLIC ",
    "ADDRESS LOUDSPEAKER!CHEERING MEGAPHONE!OUTBOX TRAY!INBOX:!PACKAGE!E-MAILwt!INCOMINGla!laak",
    "pgwgb!iqMAILBOXaLOWERED FLAG%tx:!si=%LOWERED:!POSTBOX!POSTALns!NEWSPAPER!MOBILE PHONE$auig",
    "wATpr!VIBRATION MODE!MOBILE PHONE OFF!NO MOBILE PHONES!ANTENNAaBARS!CAMERA#aFLASH!VIDEO CA",
    "MERA!TELEVISION!RADIO!VIDEOCASSETTE!FILM PROJECTOR!PORTABLE STEREO!PRAYER BEADS!TWISTEDuig",
    "y!ipuifpusiim:*ainshsq#kpfyusiimgy!go?!qgBRIGHTNESSwt!nm;!SPEAKERahzwi##ashvyzg$xpvyWAVES!",
    "BATTERY!ELECTRIC PLUG!psMAGNIFYING GLASS!ug;!LOCKaINK PEN!iqLOCKaKEY!:!LOCK!si:!BELL#ahzwi",
    "!BOOKMARK!LINKwt!RADIO BUTTON!BACKapugwgb!kz=!ONalfqoaprue;!SOONaui;!xxayu;!NOshUNDERktwt!",
    "KEYCAPxc!INPUTwtlwpqdLETTERS&c:%NUMBERS%SYMBOLS%pqLETTERS!FIRE!ELECTRIC TORCH!WRENCH!HAMME",
    "R!NUTfBOLT!HOCHO!PISTOL!MICROSCOPE!TELESCOPE!CRYSTAL BALL!vqthwfaqtkg!oowtlwBEGINNER!TRIDE",
    "NT EMBLEM!hpwcBUTTON!zk;!poREDim#BLUE:#ORANGEka#BLUE:!cORANGE:#BLUE:!yqREDxz!ko;!yqc;!ko<!",
    "qhuevdzkim!ys=!injcPOMMEE!jcPOMMEEaHALF-CIRCLEhh$!NOTCHEDprSEMICIRCLEaxpki#ue=!wtlwMARKS C",
    "HAPTER!zkpqjc!nj;!CELTIC:!OMwt!DOVEscPEACE!KAABA!MOSQUE!SYNAGOGUE!MENORAHarnBRANCHES!BOWLs",
    "cHYGIEIA!CLOCKllshOCLOCK$yl:$xp:$ma:$lv:$vq:$uz:$ks:$rn:$xc:$ky:$yj:$ONE-THIRTY$TWO-THIRTY",
    "$THREE-THIRTY$FOUR-THIRTY$FIVE-THIRTY$SIX-THIRTY$SEVEN-THIRTY$EIGHT-THIRTY$NINE-THIRTY$TEN",
    "-THIRTY$ELEVEN-THIRTY$TWELVE-THIRTY!ueSPEAKER$ashvyzg%xpvyWAVES!BULLHORN#avyWAVES!RINGING ",
    "BELL!BOOK!CANDLE!MANTELPIECE CLOCK!hpSKULLfCROSSBONES!NO PIRACY!HOLE!MAN IN BUSINESS SUIT ",
    "LEVITATING!SLEUTH OR SPY!DARK SUNGLASSES!SPIDER#WEB!JOYSTICK!MAN DANCING!prmxxbRECEIVER!xb",
    "RECEIVERaPAGE!uemxxbRECEIVER!zkTOUCHTONExb!hp;!xbONxxscMODEM!CLAMSHELL MOBILE PHONE!BACKsc",
    "la!STAMPED:!laaLIGHTNING!FLYINGla!PENsoSTAMPED:!LINKED PAPERCLIPS!hpPUSHPIN!qhprPENCIL$BAL",
    "LPOINT PEN$FOUNTAIN:$PAINTBRUSH$CRAYON!prWRITINGmx!yiOKmxe!txmxaltSPLAYED!ub>#THUMBSype$kn",
    ":#VICTORYmx#mxaqtFINGERlg!txmxaPARThmqtfujlt!zkkntiprmxnz!vmzkprti:$ue;#hppr;$ue;!hpprtiBA",
    "CKHAND:#ue<!vmzkypti:$kn;#hpyp;$kn;!hpyptiBACKHAND:#kn<#ni!DESKTOP COMPUTER!KEYBOARDfMOUSE",
    "!xpNETWORKED COMPUTERS!PRINTER!POCKET CALCULATOR!hpHARDvgFLOPPY DISK!zk=!SOFT<!TAPE CARTRI",
    "DGE!WIRED KEYBOARD!shBUTTON MOUSE!yl;!xp;!TRACKBALL!sePERSONAL COMPUTER!HARD DISK!SCREEN!P",
    "RINTER ICON!FAX:!OPTICAL DISC:!DOCUMENTaTEXT%fPICTURE$:!FRAME;$TILES$AN X!hpFOLDER!:!si:!C",
    "ARDnzDIVIDERS#FILEhu!FILE CABINET!EMPTY NOTE$PAGE$PAD!NOTE#PAGE#PAD!EMPTY DOCUMENT#PAGE#PA",
    "GES!DOCUMENT!PAGE!PAGES!WASTEBASKET!SPIRAL NOTE PAD#CALENDAR:!DESKTOP WINDOW!MINIMIZE!MAXI",
    "MIZE!OVERLAP!ipuefprSEMICIRCLEgy!hzX!INCREASE FONT SIZEwt!DECREASE<!COMPRESSION!seKEY!ROLL",
    "ED-UP NEWSPAPER!PAGEainTEXT!STOCK CHART!DAGGER KNIFE!LIPS!SPEAKINGnhIN SILHOUETTE!xpRAYSgb",
    "$hh$pr$ue!prSPEECH BUBBLE!ue;!ylSPEECH BUBBLES!xp;!prTHOUGHT BUBBLE!ue;!prANGER:!ue;!MOOD:",
    "!LIGHTNING;$!BALLOThuaBALLOT#uuX#hua;#hs;#hua<!pziiqo!BALLOThuahsii!WORLD MAP!MOUNT FUJI!T",
    "OKYO TOWER!STATUEscLIBERTY!SILHOUETTEscJAPAN!MOYAI!GRINNINGll$avwlk!llaTEARSscJOY!vwllasiq",
    "z(fvwlk)COLD SWEAT)TIGHTLY-CLOSEDlk%HALO%HORNS!WINKINGll!vwllavwlk!llSAVOURING DELICIOUS F",
    "OOD!RELIEVEDll!vwllaHEART-SHAPEDlk%SUNGLASSES!SMIRKINGll!rl:!EXPRESSIONLESS:!UNAMUSED:!lla",
    "COLD SWEAT!PENSIVEll!CONFUSED:!CONFOUNDED:!KISSING:!llTHROWING A KISS!KISSINGllavwlk%iq:!l",
    "laSTUCK-OUT TONGUE&fWINKING EYE(TIGHTLY-CLOSEDlk!DISAPPOINTEDll!WORRIED:!ANGRY:!POUTING:!C",
    "RYING:!PERSEVERING:!llaLOOKscTRIUMPH!DISAPPOINTED BUT RELIEVEDll!FROWNINGllasiqz!ANGUISHED",
    "ll!FEARFUL:!WEARY:!SLEEPY:!TIRED:!GRIMACING:!LOUDLY CRYING:!llasiqz!HUSHEDll!llasiqzfCOLD ",
    "SWEAT#SCREAMING IN FEAR!ASTONISHEDll!FLUSHED:!SLEEPING:!DIZZY:!llWITHOUTqz#aMEDICAL MASK!G",
    "RINNING CATllavwlk!CATllaTEARSscJOY!vwCATllasiqz&HEART-SHAPEDlk!CATllaWRY SMILE!KISSING CA",
    "Tllaiqlk!POUTING CATll!CRYING;!WEARY;!SLIGHTLY FROWNING:#vw:!UPSIDE-DOWN:!llaROLLINGlk$NO ",
    "GOOD GESTURE$OK:!szBOWING DEEPLY!SEE-NO-EVIL MONKEY!HEAR-NO-EVIL:!SPEAK-NO-EVIL:!HAPPYszRA",
    "ISINGshmx!szRAISING BOTH HANDS IN CELEBRATION#FROWNING#aPOUTINGll$FOLDED HANDS!rtzitiLEAF!",
    "vz<!rtkr;!vz<!yirtzi;#vz<#rtkr;#vz<!rtzitiVINE:!vz=!rtkr<!vz=!njrtzi<#vz=#rtkr<#vz=!rtziti",
    "BUD!vz<!rtkr;!vz<!njrtzi;#vz<#rtkr;#vz<!HOLLOW QUILTwcsm&INhpwc!SOLID QUILTwcsm&INhpwc!puR",
    "OCKET!yu:!ui:!kp:!uupyETsm!nj=!pysi;!nj=#gm:!SWASH;!usnjkkyiittvqo:%=$qg>!njINTERROBANG:!u",
    "s;!nj<!yznjvx$ua:!CHECKER BOARD!ua;!ROCKET!HELICOPTER!STEAM LOCOMOTIVE!RAILWAY CAR!HIGH-SP",
    "EED TRAIN$ahxNOSE!TRAIN!METRO!pzRAIL!STATION!TRAM#CAR!BUS!ONCOMING:!TROLLEYBUS!BUSwg!MINIB",
    "US!AMBULANCE!FIRE ENGINE!POLICE CAR!ONCOMING;!TAXI!ONCOMING:!AUTOMOBILE!ONCOMING:!RECREATI",
    "ONAL VEHICLE!DELIVERY TRUCK!ARTICULATED LORRY!TRACTOR!MONORAIL!qyRAILWAY!SUSPENSION:!qyCAB",
    "LEWAY!AERIAL TRAMWAY!SHIP!ROWBOAT!SPEEDBOAT!nrTRAFFICpz!yx;!CONSTRUCTIONe!POLICE CARS REVO",
    "LVINGpz!ybFLAG ON POST!DOOR!NO ENTRYe!SMOKINGwt!NO;!PUT LITTER IN ITS PLACE:!DOruLITTER:!P",
    "OTABLEzf:!NON-POTABLE;!BICYCLE!NO BICYCLES!BICYCLIST!qy:!PEDESTRIAN!NO PEDESTRIANS!CHILDRE",
    "Njf!MENSwt!WOMENS:!RESTROOM!BABYwt!TOILET!zfCLOSET!SHOWER!BATH!BATHTUB!PASSPORT CONTROL!CU",
    "STOMS!BAGGAGE CLAIM!prLUGGAGE!xzauoCORNERS!PROHIBITEDe!inINFORMATION SOURCE!BOYSwt!GIRLS:!",
    "COUCHfLAMP!SLEEPING ACCOMMODATION!SHOPPING BAGS!BELLHOP BELL!BED!PLACEscWORSHIP!OCTAGONALe",
    "!SHOPPING TROLLEY!STUPA!PAGODA!HINDU TEMPLE!HUT!ELEVATOR~~~~~!PLAYGROUND SLIDE!WHEEL!ujBUO",
    "Y!HAMMERfWRENCH!SHIELD!OIL DRUM!MOTORWAY!RAILWAY TRACK!MOTOR BOAT!yqMILITARY AIRPLANE#:#c:",
    "!;!NORTHEAST-POINTING:!AIRPLANE DEPARTURE#ARRIVING~~~!SATELLITE!ONCOMING FIRE ENGINE!DIESE",
    "L LOCOMOTIVE!PASSENGER SHIP!SCOOTER!MOTOR:!CANOE!SLED!FLYING SAUCER!SKATEBOARD!AUTO RICKSH",
    "AW!PICKUP TRUCK!ROLLER SKATE~~~!ALCHEMICALwtlwQUINTESSENCE%AIR%FIRE%kq%zf%AQUAFORTIS%AQUA ",
    "REGIA&REGIA-2&VITAE&VITAE-2%VINEGAR%VINEGAR-2%.%SULFUR%PHILOSOPHERS:%hp:%MERCURYwl&SUBLIMA",
    "TE-2&.%CINNABAR%SALT%NITRE%VITRIOL%VITRIOL-2%ROCK SALT&SALT-2%GOLD%SILVER%IRON ORE&ORE-2%C",
    "ROCUSscIRON%REGULUS;%COPPER ORE%IRON-COPPER:%wlscCOPPER%CROCUS;(COPPER-2%COPPER ANTIMONIAT",
    "E%SALTsc;%wlscSALTscCOPPER%VERDIGRIS%TIN ORE%LEAD:%ANTIMONY:%wlscANTIMONY%SALT;%wlsc<%VINE",
    "GAR;%REGULUS;(ANTIMONY-2&%REGULUS-2%.%.%ALKALI%ALKALI-2%MARCASITE%SAL-AMMONIAC%ARSENIC%REA",
    "LGAR%REALGAR-2%AURIPIGMENT%BISMUTH ORE%TARTAR%TARTAR-2%QUICK LIME%BORAX%BORAX-2%.%ALUM%OIL",
    "%SPIRIT%TINCTURE%GUM%WAX%POWDER%CALX%TUTTY%CAPUT MORTUUM%SCEPTERscJOVE%CADUCEUS%TRIDENT%ST",
    "ARRED:%LODESTONE%SOAP%URINE%HORSE DUNG%ASHES%POT:%BRICK%POWDERED:%AMALGAM%STRATUM SUPER ST",
    "RATUM(STRATUM-2%SUBLIMATION%PRECIPITATE%DISTILL%DISSOLVE%DISSOLVE-2%PURIFY%PUTREFACTION%CR",
    "UCIBLE%CRUCIBLE-2%.%.%.%ALEMBIC%BATHscMARY(VAPOURS%RETORT%HOUR%NIGHT%DAY-NIGHT%MONTH%mvDRA",
    "M&OUNCE"] },
  { first := 128896, lines := [
    "!hppsISOSCELESuexz#yq<#ug<#ko<#SLIGHTLYcim!qrhszk:!<!nj;!yz<!li<!zkimixhpc:!ROUND TARGET!h",
    "pTINYwc#SLIGHTLYc:!pzzk:!qr;!hs;!nj;!yz<!li<!zkwcixhpyzc:&qr:!wcTARGET!hpTINYka#yzc:#qr;!z",
    "kkaixhpyz;&qr:!kaTARGET!hpTINYqi#yzc:#qr;!zkqiixhp;!THINmqjc!pz;!qr;!hs;!yz<#nj;!li<!THIN ",
    "SALTIRE!pz:!qr:!hs:!nj:!yz;!li;!pzlvSPOKEDha!qr<!hs<!nj<!yz=!li=!pzvq;!qr<!hs<!nj<!yz=!li=",
    "!pzks;!qr<!hs<!nj<!yz=!pzxpthhpwf!qr=!=!qrxpthte:!pzmathhp:!qr=!=!qrmathte:!uapz=!pzlvthhp",
    ":!nj=!qrvq<!nj=!vqthte:!qrksthhp:!nj=!yz>!njksthte:!pzyjthhp:!nj=%te:!inxz!rj;!inwc!rj;~~~",
    "~~~~!poORANGEim#YELLOW:#GREEN:#PURPLE:#BROWN:#REDwc#BLUE:#ORANGE:#YELLOW:#GREEN:#PURPLE:#B",
    "ROWN:~~~~!njlde"] },
  { first := 129024, lines := [
    "!pugwacxzgx!yu>!ui>!kp>!pugwaqr;!yu>!ui>!kp>!pugwapo;!yu>!ui>!kp>~~~~!pugwacEQUILATERAL:!y",
    "u>!ui>!kp>!pugwa;!yu=!ui=!kp=!njpu=#yu=#ui=#kp=#pugwapo;#yu>#ui>#kp>!puyagwaNARROW SHAFT!y",
    "u>!ui>!kp>!puyagwaqr:!yu>!ui>!kp>!puyagwahs:!yu>!ui>!kp>!puyagwanj:!yu>!ui>!kp>!puyagwayz;",
    "!yu?!ui?!kp?!puFINGER-POSTgw!yu;!ui;!kp;!puwd:!yu;!ui;!kp;!puCOMPRESSED:!yu;!ui;!kp;!punj;",
    "!yu<!ui<!kp<!punj:!yu;!ui;!kp;~~~~~~~~!puus:!yu;!ui;!kp;!rtzi;#kr;!vz<#zi;!prue;!ypkn;~~~~",
    "~~!WIDE-HEADEDpupzhf:#yu<#ui<#kp<#rtzi<$kr<#vz=$zi<#pu;#yu;#ui;#kp;#rtzi;$kr;#vz<$zi;#puqr",
    ";#yu<#ui<#kp<#rtzi<$kr<#vz=$zi<#punj;#yu<#ui<#kp<#rtzi<$kr<#vz=$zi<#puyz<#yu=#ui=#kp=#rtzi",
    "=$kr=#vz>$zi=~~~~~~~~!puxzgx!yu;!ui;!kp;!puzkgwWITHIN;!yu>!ui>!kp>!pugwaNOTCHEDwx!yu=!ui=!",
    "kp=!njgwSHAFT WIDTHsh&ylxk&shmv(xj!puBOTTOM-SHADEDzkgw!uihtSHADED;!puxx<!ui=!puLEFT-SHADED",
    ";!uiRIGHT-SHADED;!pu<!uiLEFT-SHADED;!puBACK-TILTEDvd;!ui=!puFRONT-TILTED<!ui=!zkgwSHAFT WI",
    "DTHsh&ylxk~~!gwtiyuTHENrtzi$uiTHEN CURVINGvz:"] },
  { first := 129280, lines := [
    "!injcFORMEEamaki&yl:%!prmvimamaki&xp:&yl:&kg%!DOWNWARD FACINGnq$NOTCHED:$nqakg$NOTCHED<!PI",
    "NCHEDlt!zkni!BROWN:!PINCHINGmx!ZIPPER-MOUTHll!MONEY-MOUTH:!llaTHERMOMETER!NERDll!THINKING:",
    "!llaHEAD-BANDAGE!ROBOTll!HUGGING:!escxfHORNS!CALL MEmx!txBACKsc:!LEFT-FACING FIST!uf:!HAND",
    "SHAKE!mxanzfqtltjd!I LOVE YOUmxe!llaCOWBOY HAT!CLOWNll!NAUSEATED:!ROLLING ONxfFLOOR LAUGHI",
    "NG!DROOLINGll!LYING:!llPALM!SNEEZINGll!llashEYEBROWtx!GRINNINGllawflk%shpofshcEYE!llaFINGE",
    "R COVERINGiqLIPS!SERIOUSllaSYMBOLS COVERINGqz!vwllavwlkfmx;!llasiqzVOMITING!SHOCKEDllaEXPL",
    "ODINGnh!PREGNANT WOMAN!BREAST-FEEDING!PALMSypTOGETHER!SELFIE!PRINCE!MAN IN TUXEDO!MOTHER C",
    "HRISTMAS!SHRUG!szDOING CARTWHEEL!JUGGLING!FENCER!MODERN PENTATHLON!WRESTLERS!zfPOLO!HANDBA",
    "LL!DIVING MASK!WILTED FLOWER!DRUMaDRUMSTICKS!CLINKING GLASSES!TUMBLER GLASS!SPOON!GOAL NET",
    "!RIFLE!FIRST PLACE MEDAL!SECOND;!xj;!BOXING GLOVE!MARTIAL ARTS UNIFORM!CURLING STONE!LACRO",
    "SSE STICKfBALL!SOFTBALL!FLYING DISC!CROISSANT!AVOCADO!CUCUMBER!BACON!POTATO!CARROT!BAGUETT",
    "E BREAD!GREEN SALAD!SHALLOW PANscFOOD!STUFFED FLATBREAD!EGG!GLASSscMILK!PEANUTS!KIWIFRUIT!",
    "PANCAKES!DUMPLING!FORTUNE COOKIE!TAKEOUThu!CHOPSTICKS!BOWLaSPOON!CUPaSTRAW!COCONUT!BROCCOL",
    "I!PIE!PRETZEL!CUTscMEAT!SANDWICH!CANNED FOOD!LEAFY GREEN!MANGO!qxCAKE!BAGEL!vwllavwlkfxpHE",
    "ARTS!YAWNINGll!vwllaTEAR!llaPARTYnsfPARTY HAT$UNEVENlkfWAVYqz!OVERHEATEDll!FREEZING:!NINJA",
    "!DISGUISEDll!llHOLDING BACK TEARS#aPLEADINGlk!SARI!LAB COAT!GOGGLES!HIKING BOOT!FLAT SHOE!",
    "CRAB!LIONll!SCORPION!TURKEY!UNICORNll!EAGLE!DUCK!BAT!SHARK!OWL!FOXll!BUTTERFLY!DEER!GORILL",
    "A!LIZARD!RHINOCEROS!SHRIMP!SQUID!GIRAFFEll!ZEBRA:!HEDGEHOG!SAUROPOD!T-REX!CRICKET!KANGAROO",
    "!LLAMA!PEACOCK!HIPPOPOTAMUS!PARROT!RACCOON!LOBSTER!MOSQUITO!MICROBE!BADGER!SWAN!MAMMOTH!DO",
    "DO!SLOTH!OTTER!ORANGUTAN!SKUNK!FLAMINGO!OYSTER!BEAVER!BISON!SEAL!GUIDE DOG!PROBING CANE!EM",
    "OJI COMPONENT RED HAIR$ji:$BALD$zkHAIR!BONE!LEG!FOOT!TOOTH!SUPERHERO!SUPERVILLAIN!SAFETY V",
    "EST!EARaHEARING AID!MOTORIZED WHEELCHAIR!MANUAL:!MECHANICAL ARM#LEG!CHEESE WEDGE!CUPCAKE!S",
    "ALT SHAKER!BEVERAGEhu!GARLIC!ONION!FALAFEL!WAFFLE!BUTTER!MATE DRINK!ICE CUBE!BUBBLE TEA!TR",
    "OLL!STANDINGsz!KNEELING:!DEAF:!llaMONOCLE!ADULT!CHILD!OLDER ADULT!BEARDEDsz!szaHEADSCARF#I",
    "N STEAMY ROOM#CLIMBING#IN LOTUS POSITION!MAGE!FAIRY!VAMPIRE!MERPERSON!ELF!GENIE!ZOMBIE!BRA",
    "IN!ORANGEni!BILLED CAP!SCARF!GLOVES!COAT!SOCKS!RED GIFTla!FIRECRACKER!JIGSAW PUZZLE PIECE!",
    "TEST TUBE!PETRIke!DNAkkHELIX!COMPASS!ABACUS!FIRE EXTINGUISHER!TOOLBOX!BRICK!MAGNET!LUGGAGE",
    "!LOTION BOTTLE!SPOOLscTHREAD!BALLscYARN!SAFETY PIN!TEDDY BEAR!BROOM!BASKET!ROLLscPAPER!hes",
    "cSOAP!SPONGE!RECEIPT!NAZAR AMULET!rlijpe$tt$ROOK$ho$ph$PAWN!zkijphulFORTY-FIVE DEGREES!hp>",
    "!rl>!zkijpeulrp:$tt<$ROOK<$ho<$ph<$PAWN<!hpijpe<$tt<$ROOK<$ho<$ph<$PAWN<!rlijpe<$tt<$ROOK<",
    "$ho<$ph<$PAWN<!zkijphulshntTHIRTY-FIVE:!hp@!rl@!zkijyipe%tt%ROOK%ho%ph%PAWN!hpijyipe%tt%RO",
    "OK%ho%ph%PAWN!rlijyipe%tt%ROOK%ho%ph%PAWN!zkijphulylntTWENTY-FIVE DEGREES!hp@!rl@!zkijpeul",
    "ylntvb:$tt>$ROOK>$ho>$ph>$PAWN>!hpijpe>$tt>$ROOK>$ho>$ph>$PAWN>!rlijpe>$tt>$ROOK>$ho>$ph>$",
    "PAWN>!zkijphulxpntlp:!hp@!rl@!zkijEQUIHOPPER!hp;!rl;!zkijEQUIHOPPERulrpDEGREES!hp>!rl>!zki",
    "jKNIGHT-QUEEN$KNIGHT-ROOK$KNIGHT-BISHOP!hpijKNIGHT-QUEEN$KNIGHT-ROOK$KNIGHT-BISHOP"] },
  { first := 129632, lines := [
    "!XIANGQI RED GENERAL$MANDARIN$ELEPHANT$HORSE$CHARIOT$CANNON$SOLDIER#hpGENERAL$MANDARIN$ELE",
    "PHANT$HORSE$CHARIOT$CANNON$SOLDIER~~!BALLET SHOES!ONE-PIECE SWIMSUIT!BRIEFS!SHORTS!THONG S",
    "ANDAL~~~!DROPscBLOOD!ADHESIVE BANDAGE!STETHOSCOPE!X-RAY!CRUTCH~~~!YO-YO!KITE!PARACHUTE!BOO",
    "MERANG!MAGIC WAND!PINATA!NESTING DOLLS~~~~~~~~~!RINGED PLANET!CHAIR!RAZOR!AXE!DIYA LAMP!BA",
    "NJO!MILITARY HELMET!ACCORDION!qeDRUM!COIN!CARPENTRY SAW!SCREWDRIVER!LADDER!nq!MIRROR!WINDO",
    "W!PLUNGER!SEWING NEEDLE!KNOT!BUCKET!MOUSE TRAP!TOOTHBRUSH!HEADSTONE!PLACARD!ROCK!MIRROR BA",
    "LL!IDENTIFICATION CARD!qgBATTERY!HAMSA~~~!FLY!WORM!BEETLE!COCKROACH!POTTED PLANT!WOOD!FEAT",
    "HER!LOTUS!CORAL!EMPTY NEST!NESTaEGGS~~~~~!ANATOMICALni!LUNGS!PEOPLE HUGGING!PREGNANT MAN#s",
    "z!szaCROWN~~~~~~~~~~!BLUEBERRIES!BELL PEPPER!OLIVE!FLATBREAD!TAMALE!FONDUE!TEAPOT!POURING ",
    "LIQUID!BEANS!JAR~~~~~~!MELTINGll!SALUTING:!llasilkfmxsoqz$PEEKING EYE$jyqz!kjqall!BITING L",
    "IP!BUBBLES~~~~~~~~!mxanzFINGERfxrjd!uimx!pu:!PALMkn:#yp:!nztiATxfVIEWER!niHANDS~~~~~~~~~!h",
    "rSEXTANT-1#.#SEXTANT-12#SEXTANT-3#SEXTANT-13#SEXTANT-23#SEXTANT-123#SEXTANT-4#SEXTANT-14#S",
    "EXTANT-24#SEXTANT-124#SEXTANT-34#SEXTANT-134#SEXTANT-234#SEXTANT-1234#SEXTANT-5#SEXTANT-15",
    "#SEXTANT-25#SEXTANT-125#SEXTANT-35#SEXTANT-235#SEXTANT-1235#SEXTANT-45#SEXTANT-145#SEXTANT",
    "-245#SEXTANT-1245#SEXTANT-345#SEXTANT-1345#SEXTANT-2345#SEXTANT-12345#SEXTANT-6#SEXTANT-16",
    "#SEXTANT-26#SEXTANT-126#SEXTANT-36#SEXTANT-136#SEXTANT-236#SEXTANT-1236#SEXTANT-46#SEXTANT",
    "-146#SEXTANT-1246#SEXTANT-346#SEXTANT-1346#SEXTANT-2346#SEXTANT-12346#SEXTANT-56#SEXTANT-1",
    "56#SEXTANT-256#SEXTANT-1256#SEXTANT-356#SEXTANT-1356#SEXTANT-2356#SEXTANT-12356#SEXTANT-45",
    "6#SEXTANT-1456#SEXTANT-2456#SEXTANT-12456#SEXTANT-3456#SEXTANT-13456#SEXTANT-23456!qhprhrj",
    "yqhqtprxvqhif,ue&ysqtprxvqhif,ue(prxvqhif#uehrjyysqtprxvys:,ue&qhqtprxvysif,ue(prxvysif(qt",
    "prxvysqtue(ifxvqh;(pr=(ifxvys;(pr=(ifxvys:#prhrjyysifxvysqt:(pr=(ifxvqh;(pr=(ifxvqh:(qtprx",
    "vqhqt:!ysuehrjyqhqtprxvqhif,ue&ysqtprxvqhif,ue(prxvqhif#prhrjyysqtprxvys:,ue&qhqtprxvysif,",
    "ue(prxvysif(qtprxvysqtue(ifxvqh;(pr=(ifxvys;(pr=(ifxvys:#uehrjyysifxvysqt:(pr=(ifxvqh;(pr=",
    "(ifxvqh:(qtprxvqhqt:#fuefqhybxptshr!prfqhfue=!ysfprfqh=!prfysfue=#ybshtr:!ys=!ue=!qh=!yxsh",
    "kuBLOCK-2%.%.%.%.%.!nrshkuBLOCK-2%.%.%.%.%.!prfqhshkuhr$ys<!ue>$qh<!ys>!nrshkuBLOCK-1358!y",
    "sshtrhr#xpkv:#lv;#xpts:#uzkv:!ueshtr:#xpkv:#lv;#xpts:#uzkv:!prmvqrSHADE!ue<!ys<!qh<!og;!ys",
    "mvhrfqhmv<$ogqrSHADEfqhmvhr~!prmvogqrSHADEfue;!CHECKER BOARD FILL!og<!njnr:!ysprxvqhue:#ue",
    "xvqhpr:#fqhybmvhr!prfue<!ysprybqrSHADE#ue<!qh=#pr<!huDRAWINGSpzjyysifxvqtpr+ue&qtprxvqhif(",
    "ue<&ysifxvqtpr<+ue<&qtprxvqhifxvqtue*ys=&ysifxvqtprfqtuexvqhif+uefqtpr<,xvqhifxvqtpr+prxvq",
    "hifxvqtue&qtprxvysifxvqtuexvqhif(uexvysifxvqtpr<&ka%nrayxwi!ARROWHEAD-SHAPED POINTER!ogiiq",
    "o!prmvRUNNING MAN!ue<!ogkpgwaTIPpu!pugwfysfqhshkuhr!uigw@!kpgwfue<!yu?!prmvFOLDER!ue;!VOID",
    "EDmqjc!uesiwdkg!rjjyjc$qtuexvqhif$ka!zknjSALTIREauoCORNERS!prxjzkuetinz!qt>!ue>!rjwdtuqo!S",
    "TICK FIGURE$aARMStx$LEANINGpr%ue$aDRESS!zkyqCHEVRON"] },
  { first := 130032, lines := ["!SEGMENTEDkczy$sh$yl$xp$ma$lv$vq$uz$ks$rn"] },
  { first := 917505, lines := ["!LANGUAGE TAG"] },
  { first := 917536, lines := [
    "!TAGwa#lfqo#tv:#rye#DOLLAR:#PERCENT:#gm#gq#prsw#ue:#ha#tfe#it#nv#mewg#vx#kczy$sh$yl$xp$ma$",
    "lv$vq$uz$ks$rn#ir#ux#pxe#ld:#mp:#tuqo#iuAT#pqdbA&.&.&.&.&.&.&.&.&.&.&.&.&.&.&.&.&.&.&.&.&.",
    "&.&.&.&.#prwchv#uavx#uewchv#iogc#qgqa#mogc#pqcbA&.&.&.&.&.&.&.&.&.&.&.&.&.&.&.&.&.&.&.&.&.",
    "&.&.&.&.#prjihv#yxqa#uejihv#xt!CANCEL TAG"] },
  { first := 917760, lines := [
    "!VARIATION SELECTOR-17#.#.#.#.#.#.#.#.#.#.#.#.#.#.#.#.#.#.#.#.#.#.#.#.#.#.#.#.#.#.#.#.#.#.",
    "#.#.#.#.#.#.#.#.#.#.#.#.#.#.#.#.#.#.#.#.#.#.#.#.#.#.#.#.#.#.#.#.#.#.#.#.#.#.#.#.#.#.#.#.#.",
    "#.#.#.#.#.#.#.#.#.#.#.#.#.#.#.#.#.#.#.#.#.#.#.#.#.#.#.#.#.#.#.#.#.#.#.#.#.#.#.#.#.#.#.#.#.",
    "#.#.#.#.#.#.#.#.#.#.#.#.#.#.#.#.#.#.#.#.#.#.#.#.#.#.#.#.#.#.#.#.#.#.#.#.#.#.#.#.#.#.#.#.#.",
    "#.#.#.#.#.#.#.#.#.#.#.#.#.#.#.#.#.#.#.#.#.#.#.#.#.#.#.#.#.#.#.#.#.#.#.#.#.#.#.#.#.#.#.#.#.",
    "#.#.#.#.#.#.#.#.#.#.#.#.#.#.#.#.#.#.#.#.#.#.#.#.#."] }]

end QueryTelemetry.Text.Name
