import QueryTelemetry.Text.Name.Run

/-!
# Names of syllables and letter forms

Names of the characters from U+A000 to U+FFFF: syllabaries, letters added to living scripts, and
the forms that letters take in a word.
-/

namespace QueryTelemetry.Text.Name

/-- The names from U+A000 to U+FFFF. -/
def syllables : List Run := [
  { first := 40960, lines := [
    "!YIwsIT$IX$I$IP$IET$IEX$IE$IEP$AT$AX$A$AP$UOX$UO$UOP$OT$OX$O$OP$EX$E$WU$BIT$BIX$BI$BIP$BIE",
    "T$BIEX$BIE$BIEP$BAT$BAX$BA$BAP$BUOX$BUO$BUOP$BOT$hu$BO$BOP$BEX$BE$BEP$BUT$BUX$BU$BUP$BURX$",
    "BUR$BYT$BYX$BY$BYP$BYRX$BYR$PIT$PIX$PI$PIP$PIEX$PIE$PIEP$PAT$PAX$ss$PAP$PUOX$PUO$PUOP$POT$",
    "POX$PO$POP$PUT$PUX$PU$PUP$PURX$PUR$PYT$PYX$PY$PYP$PYRX$PYR$BBIT$BBIX$BBI$BBIP$BBIET$BBIEX$",
    "BBIE$BBIEP$BBAT$BBAX$BBA$BBAP$BBUOX$BBUO$BBUOP$BBOT$BBOX$BBO$BBOP$BBEX$BBE$BBEP$BBUT$BBUX$",
    "BBU$BBUP$BBURX$BBUR$BBYT$BBYX$BBY$BBYP$NBIT$NBIX$NBI$NBIP$NBIEX$NBIE$NBIEP$NBAT$NBAX$NBA$N",
    "BAP$NBOT$NBOX$NBO$NBOP$NBUT$NBUX$NBU$NBUP$NBURX$NBUR$NBYT$NBYX$NBY$NBYP$NBYRX$NBYR$HMIT$HM",
    "IX$HMI$HMIP$HMIEX$HMIE$HMIEP$HMAT$HMAX$HMA$HMAP$HMUOX$HMUO$HMUOP$HMOT$HMOX$HMO$HMOP$HMUT$H",
    "MUX$HMU$HMUP$HMURX$HMUR$HMYX$HMY$HMYP$HMYRX$HMYR$MIT$MIX$MI$MIP$MIEX$MIE$MIEP$MAT$MAX$qj$M",
    "AP$MUOT$MUOX$MUO$MUOP$MOT$MOX$MO$MOP$MEX$ME$MUT$MUX$MU$MUP$MURX$MUR$MYT$MYX$MY$MYP$FIT$FIX",
    "$FI$FIP$FAT$FAX$FA$FAP$FOX$FO$FOP$FUT$FUX$FU$FUP$FURX$FUR$FYT$FYX$FY$FYP$VIT$VIX$VI$VIP$VI",
    "ET$VIEX$VIE$VIEP$VAT$VAX$VA$VAP$VOT$VOX$VO$VOP$VEX$VEP$VUT$VUX$VU$VUP$VURX$VUR$VYT$VYX$VY$",
    "VYP$VYRX$VYR$DIT$DIX$DI$DIP$DIEX$DIE$DIEP$DAT$DAX$jm$DAP$DUOX$DUO$kg$DOX$DO$DOP$DEX$DE$DEP",
    "$DUT$DUX$DU$DUP$DURX$DUR$TIT$TIX$TI$TIP$TIEX$TIE$TIEP$TAT$TAX$wu$TAP$TUOT$TUOX$TUO$TUOP$TO",
    "T$TOX$xv$xx$TEX$TE$TEP$TUT$TUX$TU$TUP$TURX$TUR$DDIT$DDIX$DDI$DDIP$DDIEX$DDIE$DDIEP$DDAT$DD",
    "AX$js$DDAP$DDUOX$DDUO$DDUOP$DDOT$DDOX$DDO$DDOP$DDEX$DDE$DDEP$DDUT$DDUX$DDU$DDUP$DDURX$DDUR",
    "$NDIT$NDIX$NDI$NDIP$NDIEX$NDIE$NDAT$NDAX$NDA$NDAP$NDOT$NDOX$NDO$NDOP$NDEX$NDE$NDEP$NDUT$ND",
    "UX$NDU$NDUP$NDURX$NDUR$HNIT$HNIX$HNI$HNIP$HNIET$HNIEX$HNIE$HNIEP$HNAT$HNAX$HNA$HNAP$HNUOX$",
    "HNUO$HNOT$HNOX$HNOP$HNEX$HNE$HNEP$HNUT$NIT$NIX$NI$NIP$NIEX$NIE$NIEP$NAX$rh$NAP$NUOX$NUO$NU",
    "OP$ru$NOX$NO$NOP$NEX$NE$NEP$NUT$NUX$NU$NUP$NURX$NUR$HLIT$HLIX$HLI$HLIP$HLIEX$HLIE$HLIEP$HL",
    "AT$HLAX$HLA$HLAP$HLUOX$HLUO$HLUOP$HLOX$HLO$HLOP$HLEX$HLE$HLEP$HLUT$HLUX$HLU$HLUP$HLURX$HLU",
    "R$HLYT$HLYX$HLY$HLYP$HLYRX$HLYR$LIT$LIX$LI$LIP$LIET$LIEX$LIE$LIEP$LAT$LAX$pj$LAP$LUOT$LUOX",
    "$LUO$LUOP$LOT$LOX$LO$LOP$LEX$LE$LEP$LUT$LUX$LU$LUP$LURX$LUR$LYT$LYX$LY$LYP$LYRX$LYR$GIT$GI",
    "X$GI$GIP$GIET$GIEX$GIE$GIEP$GAT$GAX$GA$GAP$GUOT$GUOX$GUO$GUOP$GOT$GOX$GO$GOP$GET$GEX$GE$GE",
    "P$GUT$GUX$GU$GUP$GURX$GUR$KIT$KIX$KI$KIP$KIEX$KIE$KIEP$KAT$KAX$os$KAP$KUOX$KUO$KUOP$KOT$KO",
    "X$KO$KOP$KET$KEX$KE$KEP$KUT$KUX$KU$KUP$KURX$KUR$GGIT$GGIX$GGI$GGIEX$GGIE$GGIEP$GGAT$GGAX$G",
    "GA$GGAP$GGUOT$GGUOX$GGUO$GGUOP$GGOT$GGOX$GGO$GGOP$GGET$GGEX$GGE$GGEP$GGUT$GGUX$GGU$GGUP$GG",
    "URX$GGUR$MGIEX$MGIE$MGAT$MGAX$MGA$MGAP$MGUOX$MGUO$MGUOP$MGOT$MGOX$MGO$MGOP$MGEX$MGE$MGEP$M",
    "GUT$MGUX$MGU$MGUP$MGURX$MGUR$HXIT$HXIX$HXI$HXIP$HXIET$HXIEX$HXIE$HXIEP$HXAT$HXAX$HXA$HXAP$",
    "HXUOT$HXUOX$HXUO$HXUOP$HXOT$HXOX$HXO$HXOP$HXEX$HXE$HXEP$NGIEX$NGIE$NGIEP$NGAT$NGAX$rm$NGAP",
    "$NGUOT$NGUOX$NGUO$NGOT$NGOX$NGO$NGOP$NGEX$NGE$NGEP$HIT$HIEX$HIE$HAT$HAX$mt$HAP$HUOT$HUOX$H",
    "UO$HUOP$HOT$HOX$HO$HOP$HEX$HE$HEP$WAT$WAX$WA$WAP$WUOX$WUO$WUOP$WOX$WO$WOP$WEX$WE$WEP$ZIT$Z",
    "IX$ZI$ZIP$ZIEX$ZIE$ZIEP$ZAT$ZAX$ZA$ZAP$ZUOX$ZUO$ZUOP$ZOT$ZOX$ZO$ZOP$ZEX$ZE$ZEP$ZUT$ZUX$ZU$",
    "ZUP$ZURX$ZUR$ZYT$ZYX$ZY$ZYP$ZYRX$ZYR$CIT$CIX$CI$CIP$CIET$CIEX$CIE$CIEP$CAT$CAX$CA$CAP$CUOX",
    "$CUO$CUOP$COT$COX$CO$COP$CEX$CE$CEP$CUT$CUX$CU$CUP$CURX$CUR$CYT$CYX$CY$CYP$CYRX$CYR$ZZIT$Z",
    "ZIX$ZZI$ZZIP$ZZIET$ZZIEX$ZZIE$ZZIEP$ZZAT$ZZAX$ZZA$ZZAP$ZZOX$ZZO$ZZOP$ZZEX$ZZE$ZZEP$ZZUX$ZZ",
    "U$ZZUP$ZZURX$ZZUR$ZZYT$ZZYX$ZZY$ZZYP$ZZYRX$ZZYR$NZIT$NZIX$NZI$NZIP$NZIEX$NZIE$NZIEP$NZAT$N",
    "ZAX$NZA$NZAP$NZUOX$NZUO$NZOX$NZOP$NZEX$NZE$NZUX$NZU$NZUP$NZURX$NZUR$NZYT$NZYX$NZY$NZYP$NZY",
    "RX$NZYR$SIT$vq$SI$SIP$SIEX$SIE$SIEP$SAT$SAX$up$SAP$SUOX$SUO$SUOP$SOT$SOX$SO$SOP$SEX$SE$SEP",
    "$SUT$SUX$SU$SUP$SURX$SUR$SYT$SYX$SY$SYP$SYRX$SYR$SSIT$SSIX$SSI$SSIP$SSIEX$SSIE$SSIEP$SSAT$",
    "SSAX$we$SSAP$SSOT$SSOX$SSO$SSOP$SSEX$SSE$SSEP$SSUT$SSUX$SSU$SSUP$SSYT$SSYX$SSY$SSYP$SSYRX$",
    "SSYR$ZHAT$ZHAX$ZHA$ZHAP$ZHUOX$ZHUO$ZHUOP$ZHOT$ZHOX$ZHO$ZHOP$ZHET$ZHEX$ZHE$ZHEP$ZHUT$ZHUX$Z",
    "HU$ZHUP$ZHURX$ZHUR$ZHYT$ZHYX$ZHY$ZHYP$ZHYRX$ZHYR$CHAT$CHAX$ig$CHAP$CHUOT$CHUOX$CHUO$CHUOP$",
    "CHOT$CHOX$CHO$CHOP$CHET$CHEX$CHE$CHEP$CHUX$CHU$CHUP$CHURX$CHUR$CHYT$CHYX$CHY$CHYP$CHYRX$CH",
    "YR$RRAX$RRA$RRUOX$RRUO$RROT$RROX$RRO$RROP$RRET$RREX$RRE$RREP$RRUT$RRUX$RRU$RRUP$RRURX$RRUR",
    "$RRYT$RRYX$RRY$RRYP$RRYRX$RRYR$NRAT$NRAX$NRA$NRAP$NROX$NRO$NROP$NRET$NREX$NRE$NREP$NRUT$NR",
    "UX$NRU$NRUP$NRURX$NRUR$NRYT$NRYX$NRY$NRYP$NRYRX$NRYR$SHAT$SHAX$vc$SHAP$SHUOX$SHUO$SHUOP$SH",
    "OT$SHOX$SHO$SHOP$SHET$SHEX$ve$SHEP$SHUT$SHUX$SHU$SHUP$SHURX$SHUR$SHYT$SHYX$SHY$SHYP$SHYRX$",
    "SHYR$RAT$RAX$tw$RAP$RUOX$RUO$RUOP$ROT$ROX$RO$ROP$REX$RE$REP$RUT$RUX$RU$RUP$RURX$RUR$RYT$RY",
    "X$RY$RYP$RYRX$RYR$JIT$JIX$JI$JIP$JIET$JIEX$JIE$JIEP$JUOT$JUOX$JUO$JUOP$JOT$JOX$JO$JOP$JUT$",
    "JUX$JU$JUP$JURX$JUR$JYT$JYX$JY$JYP$JYRX$JYR$QIT$QIX$QI$QIP$QIET$QIEX$QIE$QIEP$QUOT$QUOX$QU",
    "O$QUOP$QOT$QOX$QO$QOP$QUT$QUX$QU$QUP$QURX$QUR$QYT$QYX$QY$QYP$QYRX$QYR$JJIT$JJIX$JJI$JJIP$J",
    "JIET$JJIEX$JJIE$JJIEP$JJUOX$JJUO$JJUOP$JJOT$JJOX$JJO$JJOP$JJUT$JJUX$JJU$JJUP$JJURX$JJUR$JJ",
    "YT$JJYX$JJY$JJYP$NJIT$NJIX$NJI$NJIP$NJIET$NJIEX$NJIE$NJIEP$NJUOX$NJUO$NJOT$NJOX$NJO$NJOP$N",
    "JUX$NJU$NJUP$NJURX$NJUR$NJYT$NJYX$NJY$NJYP$NJYRX$NJYR$NYIT$NYIX$NYI$NYIP$NYIET$NYIEX$NYIE$",
    "NYIEP$NYUOX$NYUO$NYUOP$NYOT$NYOX$NYO$NYOP$NYUT$NYUX$NYU$NYUP$XIT$XIX$XI$XIP$XIET$XIEX$XIE$",
    "XIEP$XUOX$XUO$XOT$XOX$XO$XOP$XYT$XYX$XY$XYP$XYRX$XYR$YIT$YIX$YI$YIP$YIET$YIEX$YIE$YIEP$YUO",
    "T$YUOX$YUO$YUOP$YOT$YOX$YO$YOP$YUT$YUX$YU$YUP$YURX$YUR$YYT$YYX$YY$YYP$YYRX$YYR~~~#RADICAL ",
    "QOT$LI$KIT$NYIP$CYP$SSI$GGOP$GEP$MI$HXIT$LYR$BBUT$MOP$YO$PUT$HXUO$TAT$GA$ZUP$CYT$DDUR$BUR$",
    "GGUO$NYOP$TU$OP$JJUT$ZOT$PYT$HMO$YIT$VUR$SHY$VEP$ZA$JO$NZUP$JJY$GOT$JJIE$WO$DU$SHUR$LIE$CY",
    "$CUOP$CIP$HXOP$SHAT$ZUR$SHOP$CHE$ZZIET$NBIE$KE~~~~~~~~~!LISUbBA$ss$ta$jm$wu$xe$GA$os$pb$JA",
    "$CA$ig$DZA$yd$ye$qj$rh$pj$up$ZHA$ZA$rm$mt$XA$HHA$FA$WA$vc$zp$mj$A$AE$E$EU$I$O$U$UE$UH$OE$x",
    "wMYA TI%rhPO%MYA CYA&BO&rh&JEU#toit$mewg!VAIwsEE$EEN$HEE$WEE$WEEN$PEE$BHEE$BEE$MBEE$KPEE$M",
    "GBEE$GBEE$FEE$VEE$TEE$THEE$DHEE$DHHEE$LEE$REE$DEE$NDEE$SEE$SHEE$ZEE$ZHEE$CEE$JEE$NJEE$YEE$",
    "KEE$NGGEE$GEE$MEE$NEE$NYEE$I$IN$HI$HIN$WI$WIN$PI$BHI$BI$MBI$KPI$MGBI$GBI$FI$VI$TI$THI$DHI$",
    "DHHI$LI$RI$DI$NDI$SI$SHI$ZI$ZHI$CI$JI$NJI$YI$KI$NGGI$GI$MI$NI$NYI$A$AN$NGAN$mt$HAN$WA$WAN$",
    "ss$hn$BA$MBA$KPA$KPAN$MGBA$GBA$FA$VA$wu$xe$jw$DHHA$pj$tw$jm$NDA$up$vc$ZA$ZHA$CA$JA$NJA$zp$",
    "os$KAN$NGGA$GA$qj$rh$sb$OO$OON$HOO$WOO$WOON$POO$BHOO$BOO$MBOO$KPOO$MGBOO$GBOO$FOO$VOO$TOO$",
    "THOO$DHOO$DHHOO$LOO$ROO$DOO$NDOO$SOO$SHOO$ZOO$ZHOO$COO$JOO$NJOO$YOO$KOO$NGGOO$GOO$MOO$NOO$",
    "NYOO$U$UN$HU$HUN$WU$WUN$PU$BHU$BU$MBU$KPU$MGBU$GBU$FU$VU$TU$THU$DHU$DHHU$LU$RU$DU$NDU$SU$S",
    "HU$ZU$ZHU$CU$JU$NJU$YU$KU$NGGU$GU$MU$NU$NYU$O$ON$NGON$HO$HON$WO$WON$PO$BHO$BO$MBO$KPO$MGBO",
    "$GBO$GBON$FO$VO$xv$THO$DHO$DHHO$LO$RO$DO$NDO$SO$SHO$ZO$ZHO$CO$JO$NJO$YO$KO$NGGO$GO$MO$NO$N",
    "YO$E$EN$NGEN$HE$HEN$WE$WEN$PE$BHE$BE$MBE$KPE$KPEN$MGBE$GBE$GBEN$FE$VE$TE$xf$DHE$DHHE$LE$RE",
    "$DE$NDE$SE$ve$ZE$ZHE$CE$JE$NJE$YE$KE$NGGE$NGGEN$GE$GEN$ME$NE$NYE$NG$LENGTHENER#it#mewg#tuq",
    "o#wsNDOLE FA%os%SOO#wtFEENG$KEENG$TING$NII$BANG$FAA$TAA$DANG$DOONG$KUNG$TONG$DO-O$JONG#kcz",
    "y$sh$yl$xp$ma$lv$vq$uz$ks$rn#wsNDOLEqj%DO"] },
  { first := 42560, lines := [
    "!jldbZEMLYA#c;#dbDZELO#c;#dbubDZE#c<#dboi#c;#dbDJERV#c;#dbMONOGRAPH UK#c<#dbBROADsf#c<#dbr",
    "lYER#c<#dbYERUaBACK:#c>#dbojYAT#c<#dbubYU#c<#dbojA#c<#dbiqqbYUS#c=#dbBLENDED:#c<#dbojiqqb:",
    "#c>#dbYN#c;#dbubTSE#c<#dbSOFT DE#c<#dbSOFT EL#c<#dbSOFT EM#c<#dbMONOCULAR O#c<#dbBINOCULAR",
    ":#c<#dbkkMONOCULAR:#c=#bMULTIOCULAR:!isjlVZMET$xcMILLIONSe$nt;$xn;!SLAVONICha!isjlbUKRAINI",
    "AN IE%I%YI%U%HARDe%YERU%SOFTe%sf$KAVYKA$PAYEROK!jlKAVYKA#PAYEROK#dbDWE#c;#dbDZWE#c;#dbZHWE",
    "#c;#dbCCHE#c;#dbDZZE#c;#dbTEaqtnq#c>#dbTWE#c;#dbTSWE#c;#dbTSSE#c;#dbTCHE#c;#dbHWE#c;#dbSHW",
    "E#c;#dbkkO#c<#dbjd:#c<!qvbjlHARDe%SOFT:!isjlbEF%ojE!BAMUMbA$os$U$KU$EE$REE$TAE$O$NYI$I$pj$",
    "ss$RII$RIEE$LEEEE$MEEEE$TAA$NDAA$NJAEM$M$SUU$MU$SHII$SI$SHEUX$SEUX$KYEE$KET$NUAE$NU$NJUAE$",
    "YOQ$SHU$YUQ$zp$NSHA$KEUX$PEUX$NJEE$NTEE$PUE$WUE$PEE$FEE$RU$LU$MI$NI$REUX$RAE$KEN$NGKWAEN$N",
    "GGA$rm$SHO$PUAE$FU$FOM$WA$rh$LI$PI$LOQ$KO$MBEN$REN$MEN$qj$TI$KI$MO$MBAA$TET$KPA$xc$NTUU$SA",
    "MBA$FAAMAE$KOVUU$KOGHOM#isqoKOQNDON%TUKWENTIS#NJAEMLI#mewg#ir#it#ux#tuqo~~~~~~~~!qvbCHINES",
    "ExwYIN PING&YANG:&YIN SHANG&YANG:&YIN QU&YANG:&YIN RU&YANG:$EXTRA-HIGHkjxwhe$nm<$MID<$qg<$",
    "EXTRA-LOW<$EXTRA-HIGHkjLEFT-STEM;$nm=$MID=$qg=$EXTRA-LOW=$EXTRA-HIGH<$nm<$MID<$qg<$EXTRA-L",
    "OW<$kgyx:%vv%nrhe$qhuejagn$txypgw%kn:%lfqo%oh;$qg<$STRESSfnmxw&qg:!pqdbEGYPTOLOGICALgf#c<#",
    "dbEGYPTOLOGICALge#c<#dbHENG#c;#dbTZ#c;#dbTRESILLO#c;#dbCUATRILLO#c;#dbCUATRILLOait#c=#bcdF",
    "&S#dbAA#c;#dbAO#c;#dbAU#c;#dbAV#c;#dbAVanrhe#c>#dbAY#c;#dbubCakg#c>#dbKawi#c=#dbKajy:#c>#d",
    "bKawif;#c@#dbBROKEN L#c<#dbLanmwi#c>#dbOaqewisq#c?#dbOaqf#c=#dbOO#c;#dbPawixqjv#c?#dbPaFLO",
    "URISH#c=#dbPaSQUIRRELwx#c>#dbQawixqjv#c?#dbQajywi#c>#dbR ROTUNDA#c<#dbRUM:#c<#dbVajywi#c>#",
    "dbVY#c;#dbVISIGOTHIC Z#c<#dbTHORNawi#c=#dbTHORNawixqjv#c?#dbVEND#c;#dbET#c;#dbIS#c;#dbCON#",
    "c;!qvbUS!pqcbDUM%LUM%MUM%NUM%RUM#bcd:#cbTUM%UM#dbodD#c<#dbodF#c<#dbodG%yi;#c=#dbyiL#c<#dbo",
    "dR#c<#dbodS#c<#dbodT#c<!qvbqgiogc$ir$vjlde!pqdbSALTILLO#c;#dbyiH#cbLatznqfBELT#bSINOLOGICA",
    "Lkg#dbNajv#c=#dbCahe#c=(stnq%H<#dbBaFLOURISH#c=#dbFawi#c=#dbVOLAPUK AE#c<#dbVOLAPUK OE#c<#",
    "dbVOLAPUK UE#c<#dbGaOBLIQUEwi#c>#dbK<#c>#dbN<#c>#dbR<#c>#dbS<#c>#dbHanq%ubsiE%uuG%LaBELT%c",
    "dI#bcdQ#dbyiK&T%Jaje%ik%hk#c;#dbsf#c;#dbUawi#c=#dbmnA#c<#dbmnI#c<#dbmnU#c<#dbsePOLISH O#c=",
    "#dbANGLICANA W#c<#dbCastnq%Sa:%Zast:%Davjwisq#c?#dbS=#c?~~~~~#dbiqodG#c=~%kkTHORN~&WYNN#db",
    "qtSCOTS S#c=#dbSIGMOID:#c<"] },
  { first := 42994, lines := [
    "!qvbdC%F%Q!pqdbubmvH#c=#EPIGRAPHICbvmI!qvbdHawi$cpyOE!pqbcdyiM#EPIGRAPHICbubF&P%ohM%I LONG",
    "A%guM!SYLOTI NAGRIbA%I$eDVISVARA$bU%E%O$eHASANTA$bKO%KHO%GO%GHO$egp$bCO%CHO%JO%JHO%TTO%TTH",
    "O%DDO%DDHO%xv%THO%DO%DHO%NO%PO%PHO%BO%BHO%MO%RO%LO%RRO%SO%HO$zeeA&I&U&E&OO$POETRY MARK-1%.",
    "%.%.$egkHASANTA~~~!rtINDICmcshtr&mv%xpts%shvs&ku%xpSIXTEENTHS$trqo$PLACEHOLDER:$RUPEE:$QUA",
    "NTITY:~~~~~~!PHAGS-PAbos$pb$GA$rm$CA$ig$JA$sb$wu$xe$jm$rh$ss$ta$BA$qj$yd$ye$DZA$WA$ZHA$ZA$",
    "cA$zp$tw$pj$vc$up$mt$A$I$U$E$O$QA$XA$FA$GGA$EE#wkbWA%zp#byg$yh$js$rq$gkzp$VOICELESSvc$zdmt",
    "$ASPIRATED FA#wkbtw#SUPERFIXED;#bib#vpnhqo#kk;#qoSHAD$kk:~~~~~~~~!SAURASHTRAegp$zb#bA$AA$I",
    "$II$U$UU$zcR%RR%L%LL$E$EE$AI$O$OO$AU$os$pb$GA$mj$rm$CA$ig$JA$oq$sb$yg$yh$js$jt$rq$wu$xe$jm",
    "$jw$rh$ss$ta$BA$hn$qj$zp$tw$pj$VA$vc$we$up$mt$qc#iweHAARU#zeeAA%I%II%U%UU%zcR&RR&L&LL%E%EE",
    "%AI%O%OO%AU#eza$ib~~~~~~~~#jp#kk:#kczy$sh$yl$xp$ma$lv$vq$uz$ks$rn~~~~~~!isDEVANAGARIkczy%s",
    "h%yl%xp%ma%lv%vq%uz%ks%rn$bA%U%os%rh%ss%tw%VI$ehc!DEVANAGARIeSPACINGib$ibza$kk;$ibyl%xp%hc",
    "$PUSHPIKA#GAPlr#CARET#HEADSTROKE#evk#JAIN OM#bAY#zee:!KAYAH LIkczy%sh%yl%xp%ma%lv%vq%uz%ks",
    "%rn$bos%pb%GA%rm%up%vc%ZA%sb%wu%HTA%rh%ss%ta%qj%jm%BA%tw%zp%pj%WA%xe%mt%VA%CA%A%OE%I%OO$ze",
    "UE%E%U%EE%O$xwPLOPHU%CALYA&PLOPHU$eCWI%SHYA!REJANGbos$GA$rm$wu$jm$rh$ss$BA$qj$CA$JA$sb$up$",
    "tw$pj$zp$WA$mt$MBA$NGGA$NDA$NYJA$A#zeeI%U%E%AI%O%AU%EU%EA#iweNG%N%R%H#za"] },
  { first := 43359, lines := [
    "!REJANGuvqo!nfCHOSEONG TIKEUT-MIEUM$TIKEUT-PIEUP$TIKEUT-SIOS$TIKEUT-CIEUC$ud$RIEUL-SSANGKI",
    "YEOK$RIEUL-TIKEUT$RIEUL-SSANGTIKEUT$RIEUL-MIEUM$RIEUL-PIEUP$RIEUL-SSANGPIEUP$RIEUL-KAPYEOU",
    "NPIEUP$RIEUL-SIOS$RIEUL-CIEUC$RIEUL-KHIEUKH$MIEUM-KIYEOK$MIEUM-TIKEUT$MIEUM-SIOS$PIEUP-SIO",
    "S-THIEUTH$PIEUP-KHIEUKH$PIEUP-HIEUH$SSANGSIOS-PIEUP$IEUNG-RIEUL$IEUNG-HIEUH$SSANGCIEUC-HIE",
    "UH$SSANGTHIEUTH$PHIEUPH-HIEUH$HIEUH-SIOS$SSANGYEORINHIEUH~~~!JAVANESEePANYANGGA$CECAK$LAYA",
    "R$WIGNYAN#bA$I KAWI%$II$U$ssCEREK$rmLELET&RASWADI$E$AI$O$os%SASAK%rf$GA%rf$rm$CA%rf$JA$sbr",
    "f$JAqm$sb$yg%qm$js%qm$rhrf$wu%rf$jm%qm$rh$ss%rf$BA%rf$qj$zp$tw%AGUNG$pj$WA$uprf%qm%$mt#eCE",
    "CAK TELU#zeeTARUNG%TOLONG%WULU&MELIK%SUKU&MENDUT%TALING%DIRGA MURE%PEPET#iweKERET%PENGKAL%",
    "CAKRA#PANGKON#prRERENGGAN#ue:#PADA ANDAP$MADYA$LUHUR$WINDU$PANGKAT$LINGSA$LUNGSI$ADEG%ADEG",
    "$PISELEH#yi;~#PANGRANGKEP#kczy$sh$yl$xp$ma$lv$vq$uz$ks$rn~~~~#PADA TIRTA TUMETES$ISEN-ISEN",
    "!MYANMARbSHANmj%ig%oq%rq%hn#eSHAN SAW#qvbSHAN REDUPLICATION#bTAI LAINGsb&FA&GA&mj&JA&oq&js",
    "&jt&rq#TAI LAINGkczy&sh&yl&xp&ma&lv&vq&uz&ks&rn#bTAI LAINGqc&jm&jw&BA&hn~!CHAMbA$I$U$E$AI$",
    "O$os$pb$GA$mj$NGUE$rm$ig$CHHA$JA$oq$NHUE$NHA$NHJA$wu$xe$jm$jw$NUE$rh$js$ss$PPA$ta$BA$hn$MU",
    "E$qj$BBA$zp$tw$pj$VA$we$up$mt#zeeAA%I%II%EI%U%OE%O%AI%AU%UE#iwezp%tw%pj%WA~~~~~~~~~#blsK%G",
    "%NG#iwe;#blsCH%T%N%P%Y%R%L%SS#iwelsM&H~~#kczy$sh$yl$xp$ma$lv$vq$uz$ks$rn~~#toSPIRAL$jp$kk:",
    "$yc:!MYANMARbKHAMTI GA%CA%ig%JA%oq%sb%yg%yh%js%jt%jw%rh%up%mt%HHA%FA#qvbKHAMTI REDUPLICATI",
    "ON#bKHAMTI XA%ZA%tw#LOGOGRAM KHAMTI OAY%QN%HM#wtAITONlf%sh%yl#bAITONtw#ePAO KARENxw$TAI LA",
    "ING TONE-2&TONE-5#bSHWE PALAUNGig&vc!TAI VIETbqgKO%nm:%qgKHO%nm:%qgKHHO%nm:%qgGO%nm:%qgNGO",
    "%nm:%qgCO%nm:%qgCHO%nm:%qgSO%nm:%qgNYO%nm:%qgDO%nm:%qgxv%nm:%qgTHO%nm:%qgNO%nm:%qgBO%nm:%q",
    "gPO%nm:%qgPHO%nm:%qgFO%nm:%qgMO%nm:%qgYO%nm:%qgRO%nm:%qgLO%nm:%qgVO%nm:%qgHO%nm:%qgO%nm:$M",
    "AI KANG$zeAA%I%UE%U%E%O$MAI KHIT$zeIA%UEA%UA%AUE%AY%AN%AM$xwMAI EK&NUENG&THO&SONG"] },
  { first := 43739, lines := [
    "!TAI VIETwtKON%NUENG%SAM%HO HOI%KOI KOI!MEETEI MAYEKbE%O%ig%sb%yg%yh%js%jt%rq%vc%we$zeeII&",
    "UU&AAI&AU&AAU$CHEIKHAN$AHANG KHUDAM$ANJI$wsREPETITIONqo$zl;$zeezb$za~~~~~~~~~~!ETHIOPICwsT",
    "THU$TTHI$TTHAA$TTHEE$TTHE$TTHO~~$DDHU$DDHI$DDHAA$DDHEE$DDHE$DDHO~~$DZU$DZI$DZAA$DZEE$DZE$D",
    "ZO~~~~~~~~~$CCHHA$CCHHU$CCHHI$CCHHAA$CCHHEE$CCHHE$CCHHO~$BBA$BBU$BBI$BBAA$BBEE$BBE$BBO~!pq",
    "cbhggj%A REVERSED-SCHWA%BLACKLETTER E%hg:%EaFLOURISH%LENIS F%uuGaje%LaohLAZY S(kkqtxt(qtuj",
    "%Maje%.;%ENG;%BLACKLETTER O(awi%si<%ohOE%yiOEawi)nr:&O OPEN-O)awi%STIRRUP R#bcdRaueLEG#cbR",
    " WITHOUT HANDLE%kkR%Raje%kk<%uuR(auj%BASELINE ESH%UavjueLEG&he=%UI%yi:%Uaprnq%ik&aqgueuj)p",
    "rSERIF%Xaqgueuj(qeprLEG+fqgueuj+aSERIF%YavjueLEG!qvhwaohhw#bcHENG%LaohLAZY S(qtxt%Uaprnq!p",
    "qcbSAKHA YAT%ojE%siOE%UO%ohgj!mqbcdsf!pqcbDZkdatznq%TS=%yiRaqtxt!qvbcyiW$prwv$ue:~~~~!CHER",
    "OKEEcbA%E%I%O%U%.%GA%os%GE%GI%GO%GU%GV%mt%HE%HI%HO%HU%HV%pj%LE%LI%LO%LU%LV%qj%ME%MI%MO%MU%",
    "rh%HNA%NAH%NE%NI%NO%NU%NV%QUA%QUE%QUI%QUO%QUU%QUV%up%S%SE%SI%SO%SU%SV%jm%wu%DE%TE%DI%TI%DO",
    "%DU%DV%DLA%TLA%TLE%TLI%TLO%TLU%TLV%yd%TSE%TSI%TSO%TSU%TSV%WA%WE%WI%WO%WU%WV%zp!MEETEI MAYE",
    "KbKOK%SAM%LAI%MIT%ss%rh%CHIL%TIL%KHOU%NGOU%THOU%WAI%YANG%HUK%UN%I%PHAM%ATIYA%GOK%JHAM%RAI%",
    "BA%JIL%DIL%GHOU%DHOU%BHAM%KOK LONSUM%LAI:%MIT:%ss:%rh:%TIL:%NGOU:%I:$zeeONAP&INAP&ANAP&YEN",
    "AP&SOUNAP&UNAP&CHEINAP&NUNG$CHEIKHEI$LUM IYEK$APUN:~~$kczy%sh%yl%xp%ma%lv%vq%uz%ks%rn"] },
  { first := 55216, lines := [
    "!nfJUNGSEONG O-YEO$O-O-I$YO-A$YO-AE$YO-EO$U-YEO$U-I-I$YU-AE$YU-O$EU-A$EU-EO$EU-E$EU-O$I-YA",
    "-O$I-YAE$I-YEO$I-YE$I-O-I$I-YO$I-YU$I-I$ARAEA-A$ARAEA-E~~~~#JONGSEONG NIEUN-RIEUL$NIEUN-CH",
    "IEUCH$SSANGTIKEUT$SSANGTIKEUT-PIEUP$TIKEUT-PIEUP$TIKEUT-SIOS$TIKEUT-SIOS-KIYEOK$TIKEUT-CIE",
    "UC$TIKEUT-CHIEUCH$TIKEUT-THIEUTH$RIEUL-SSANGKIYEOK$RIEUL-KIYEOK-HIEUH$SSANGRIEUL-KHIEUKH$R",
    "IEUL-MIEUM-HIEUH$RIEUL-PIEUP-TIKEUT$RIEUL-PIEUP-PHIEUPH$RIEUL-YESIEUNG$RIEUL-YEORINHIEUH-H",
    "IEUH$KAPYEOUNRIEUL$MIEUM-NIEUN$MIEUM-SSANGNIEUN$SSANGMIEUM$MIEUM-PIEUP-SIOS$MIEUM-CIEUC$PI",
    "EUP-TIKEUT$PIEUP-RIEUL-PHIEUPH$PIEUP-MIEUM$SSANGPIEUP$td$PIEUP-CIEUC$PIEUP-CHIEUCH$SIOS-MI",
    "EUM$SIOS-KAPYEOUNPIEUP$SSANGSIOS-KIYEOK$SSANGSIOS-TIKEUT$SIOS-PANSIOS$SIOS-CIEUC$SIOS-CHIE",
    "UCH$SIOS-THIEUTH$SIOS-HIEUH$PANSIOS-PIEUP$PANSIOS-KAPYEOUNPIEUP$YESIEUNG-MIEUM$YESIEUNG-HI",
    "EUH$CIEUC-PIEUP$CIEUC-SSANGPIEUP$SSANGCIEUC$PHIEUPH-SIOS$PHIEUPH-THIEUTH"] },
  { first := 64256, lines := ["!pqcpyFF%FI%FL%FFI%FFL%qeS T%ST"] },
  { first := 64275, lines := [
    "!ARMENIANcpyMEN NOW&ECH&INI%VEW NOW%MEN XEH~~~~~!HEBREWbYODaHIRIQ#tgJUDEO-SPANISH VARIKA#p",
    "yYIDDISH YOD YOD PATAH#bALTERNATIVE AYIN$WIDEgf%DALET%HE%ot%LAMED%lsMEM%RESH%TAV$ALTERNATI",
    "VEtfe$viavikg&SIN:&DAGESHfvi:)SIN:$gfaPATAH&QAMATS&MAPIQ$BETaDAGESH$ml;$DALET;$HEaMAPIQ$VA",
    "VaDAGESH$zx;~$TET;$YOD;$lsot;$<$LAMED;~$MEM;~$sa;$ur;~$lsPE;$<~$TSADI;$QOF;$RESH;$vi;$TAV;",
    "$VAVaHOLAM$BETaRAFE$ot;$PE;#pygfLAMED!gsbgfWASLAoklx&ls:$BEEHok:%ls:%ob:%qq:$PEHok:%ls:%ob",
    ":%qq:$BEHEHok:%ls:%ob:%qq:$TTEHEHok:%ls:%ob:%qq:$TEHEHok:%ls:%ob:%qq:$TTEHok:%ls:%ob:%qq:$",
    "VEHok:%ls:%ob:%qq:$PEHEHok:%ls:%ob:%qq:$DYEHok:%ls:%ob:%qq:$NYEHok:%ls:%ob:%qq:$TCHEHok:%l",
    "s:%ob:%qq:$TCHEHEHok:%ls:%ob:%qq:$DDAHALok:%ls:$DAHALok:%ls:$DULok:%ls:$DDALok:%ls:$JEHok:",
    "%ls:$RREHok:%ls:$KEHEHok:%ls:%ob:%qq:$GAFok:%ls:%ob:%qq:$GUEHok:%ls:%ob:%qq:$NGOEHok:%ls:%",
    "ob:%qq:$rrGHUNNAok:&ls:$RNOONok:%ls:%ob:%qq:$nkazqgbok:)ls:%GOALok:&ls:&ob:&qq:%DOACHASHME",
    "Eok:&ls:&ob:&qq:$zqBARREEok:&ls:&amwgbok:*ls:#wtkggb%hh$ylkigb&hh$xpkigb&hh&tikpgb)hh$maki",
    "gb&hh$kkyxhe:$ylkiyygb(hh$uj$cwwgb&hh$WASLAgb"] },
  { first := 64467, lines := [
    "!gsbNGoklx%ls:%ob:%qq:$Uok:%ls:$OEok:%ls:$YUok:%ls:$Uamwgbok:$VE;%ls:$KIRGHIZ OEok:&ls:%YU",
    "ok:&ls:$Eok:%ls:%ob:%qq:$UIGHUR KAZAKH KIRGHIZgfqnob:*qq:#pyzqamwgbagfok:+ls:*AEok:+ls:*zh",
    "ok:+ls:*Uok:+ls:*OEok:+ls:*YUok:+ls:*Eok:+ls:+ob:$UIGHUR KIRGHIZzqamwgbagfqnok:,gfqnls:,gf",
    "qnob:#bFARSIzqok:&ls:&ob:&qq:#pyzqamwgbaopok:*mu;*qs;*gfqn;*zq;$BEHaop;&mu;&pc;&qs;&gfqn;&",
    "zq;$TEHaop;&mu;&pc;&qs;&gfqn;&zq;$THEHaop;&qs;&gfqn;&zq;$opamu;&qs;$muaop;&qs;$pcaop;&mu;&",
    "qs;$uwaop;&mu;&pc;&qs;$SADamu;&qs;$DADaop;&mu;&pc;&qs;$wwamu;&qs;$ZAH=$geaop;&qs;$mkaop;&q",
    "s;$FEHaop;&mu;&pc;&qs;&gfqn;&zq;$tpamu;&qs;&gfqn;&zq;$otagf;&op;&mu;&pc;&pl;&qs;&gfqn;&zq;",
    "$plaop;&mu;&pc;&qs;&gfqn;&zq;$qsaop;&mu;&pc;&qs;&gfqn;&zq;$rraop;&mu;&pc;&qs;&gfqn;&zq;$nk",
    "aop;&qs;&gfqn;&zq;$zqaop;&mu;&pc;&qs;&gfqn;&zq;$THALawpgf;$ty>$gfqn>$SHADDAaDAMMATAN;&KASR",
    "ATAN;&ln;&jo;&ox;&wpgf;$zqamwgbatyls:*zu;*qs;*rr;*gfqn;*zq;$BEHaty;&zu;&qs;&rr;&gfqn;&zq;$",
    "TEHaty;&zu;&qs;&rr;&gfqn;&zq;$THEHaty;&zu;&qs;&rr;&gfqn;&zq;$FEHagfqn;&zq;$tpagfqn;&zq;$ot",
    "agf;&pl;&qs;&gfqn;&zq;$plaqs;&gfqn;&zq;$qsagf;&qs;$rraty;&zu;&qs;&rr;&gfqn;&zq;$gfqnawpgf;",
    "$zqaty;&zu;&qs;&rr;&gfqn;&zq;&mwgbaopob:*mu;*pc;*qs;*nk;$BEHaop;&mu;&pc;&qs;&nk;$TEHaop;&m",
    "u;&pc;&qs;&nk;$THEHaqs;$opamu;&qs;$muaop;&qs;$pcaop;&qs;$uwaop;&mu;&pc;&qs;$SADamu;&pc;&qs",
    ";$DADaop;&mu;&pc;&qs;$wwamu;$ZAHaqs;$geaop;&qs;$mkaop;&qs;$FEHaop;&mu;&pc;&qs;$tpamu;&qs;$",
    "otaop;&mu;&pc;&pl;&qs;$plaop;&mu;&pc;&qs;&nk;$qsaop;&mu;&pc;&qs;$rraop;&mu;&pc;&qs;&nk;$nk",
    "aop;&qs;&wpgf;$zqaop;&mu;&pc;&qs;&nk;&mwgbaqsqq:*nk;$BEHaqs;&nk;$TEHaqs;&nk;$THEHaqs;&nk;$",
    "uwaqs;&nk;$vfaqs;&nk;$otapl;&qs;$pl=$rr=&nk;$zqaqs;&nk;$SHADDAaln;&jo;&ox;$wwagfqnok:&zq;$",
    "geagfqn;&zq;$mkagfqn;&zq;$uwagfqn;&zq;$vfagfqn;&zq;$muagfqn;&zq;$opagfqn;&zq;$pcagfqn;&zq;",
    "$SADagfqn;&zq;$DADagfqn;&zq;$vfaop;&mu;&pc;&qs;&ty;$uw=$SAD=$DAD=$wwagfqnls:&zq;$geagfqn;&",
    "zq;$mkagfqn;&zq;$uwagfqn;&zq;$vfagfqn;&zq;$muagfqn;&zq;$opagfqn;&zq;$pcagfqn;&zq;$SADagfqn",
    ";&zq;$DADagfqn;&zq;$vfaop;&mu;&pc;&qs;&ty;$uw=$SAD=$DAD=$vfaopob:&mu;&pc;&qs;$uwank;$vf=$w",
    "waqs;$uwaopqq:&mu;&pc;$vfaop;&mu;&pc;$wwaqs;$ZAH=$gfalols:(ok:!ORNATEprsw#ue:!gspyRAHIMAHU",
    " ALLAAH$RADI ALLAAHU ANH&ANHAA&ANHUM&ANHUMAA&ANHUNNA$SALLALLAAHU ALAYHI WA-AALIH$ALAYHI AS",
    "-SALAAM$ALAYHIM:$ALAYHIMAA:$ALAYHI AS-SALAATU WAS-SALAAM$QUDDISA SIRRAH$SALLALLAHU ALAYHI ",
    "WAAALIHEE WA-SALLAM$ALAYHAA AS-SALAAM$TABAARAKA WA-TAAALAA$RAHIMAHUM ALLAAH$TEHaopaqsoblx&",
    "muaopls:*ob:)qs;&pc=&qsaop;)mu;)pc;$opaqsamuls:*ob:$muaqsazqls:)gfqn;$uwamuaopob:&opamu;)g",
    "fqnls:&qsamu;*ob:)op;)qsls:*ob:$SADamuamuls:*ob:&qsaqsls:$vfamu=*ob:&opazqls:&qsapc;*ob:)q",
    "sls:*ob:$DADamuagfqnls:&pcaqs;*ob:$wwaqsamuls:*ob:)qs;)zqls:$geaopaqs;&qs=*ob:)gfqnls:$mka",
    "qsaqs;)zq;)gfqn;$FEHapcaqs;*ob:$tpaqsamuls:)qs;$plamu=)zq;)gfqn;&opaopob:*ls:&pcaqs;*ob:&q",
    "samuls:*ob:$qsamuaop;)qs;)zqls:&opamuob:)qs;&pcaop;)qs;~~&opapc;$nkaqsaop;)qs;$rramu=)gfqn",
    "ls:&opaqs;*ob:)gfqnls:&qsazq;)gfqn;$zqaqsaqs;*ob:$BEHapcazqls:$TEHaop=)gfqn;&pcazq;)gfqn;&",
    "qsazq;)gfqn;$opaqsazq;&muagfqn;&qs>$uwapc>$SADamuazq;$vf?$DAD?$plaop=&qs=$zqamu=&op=&qs=$q",
    "s?$tp?$rramu=$tpaqsamuob:$plamuaqs;$geaqsazqls:$ot?$rraopamuob:$qsapcazqls:$plaopaqsob:$ot",
    "aqsaqsls:$plaop=$rraopamu;$opamuazq;$muaop=$qs?$FEHaqs=$BEHamu=$otaqsaqsob:$geaop=$SADaqs=",
    "$uwapcazqls:$rraop=~~~~~~~$SALAAMUHU ALAYNAA"] },
  { first := 65008, lines := [
    "!gspySALLA USED AS KORANICwgeoklx$QALA@$ALLAH;$AKBAR;$MOHAMMAD;$SALAM;$RASOUL;$ALAYHE;$WAS",
    "ALLAM;$SALLA;$SALLALLAHOU ALAYHE WASALLAM$JALLAJALALOUHOU!RIALe!gspyBISMILLAH AR-RAHMAN AR",
    "-RAHEEM$SUBHAANAHU WA TAAALAA$AZZA WA JALL!VARIATION SELECTOR-1#.#.#.#.#.#.#.#.#.#.#.#.#.#",
    ".#.!PRESENTATIONlxlwyxit&nw:(mewg&ir&ux&lfqo&tu:&przkpwhv&uezkpwBRAKCET&nrELLIPSIS~~~~~~!i",
    "spyprmv$ue:#kkxtpr:%ue:#qkpr:$ue:#CONJOININGqk#pyprmvhh$ue;#xtpr;$ue;#qkpr;$ue;#CONJOINING",
    "qk:#jlTITLOprmv%ue:!PRESENTATIONlxlwyxylkgLEADER&EMjq&EN:&qgqa&WAVY;&prsw&ue:&prjihv&ue;&p",
    "rxyvg:&ue<&prhppw:&ue<&prkkgn:&ue<&pr;&ue;&prja:&ue;&przk;&ue<!SESAMEkg!zk;!PRESENTATIONlx",
    "lwyxprwchv&ue;!DASHED OVERLINE!CENTRELINE:!WAVY:!kk;!DASHEDqgqa!CENTRELINE;!WAVY;!cit#nw:#",
    "mewg~#ux#ir#tuqo#lf:#EMjq#prsw#ue:#prjihv#ue;#prxyvg:#ue<#rye#gm#ha#tfe#nv#pxe#mp:#ld:~#ua",
    "vx#DOLLARe#PERCENT:#iuAT~~~~!gslooklx#TATWEELalogb#DAMMATANoklx#wxFRAGMENT#KASRATANoklx~#l",
    "n;$qq:#jook:$qq:#oxok:$qq:#SHADDAok:$qq:#SUKUNok:$qq:#bmwok:$gfaMADDAgb;)ls:&mwgbok:)ls:$z",
    "hamwgbok:)ls:$gfamwhhok:)ls:$zqamwgbok:)ls:)ob:)qq:$gfok:%ls:$BEHok:%ls:%ob:%qq:$TEH MARBU",
    "TAok:&ls:%ok:%ls:%ob:%qq:$THEHok:%ls:%ob:%qq:$opok:%ls:%ob:%qq:$muok:%ls:%ob:%qq:$pcok:%ls",
    ":%ob:%qq:$DALok:%ls:$THALok:%ls:$tyok:%ls:$zuok:%ls:$uwok:%ls:%ob:%qq:$vfok:%ls:%ob:%qq:$S",
    "ADok:%ls:%ob:%qq:$DADok:%ls:%ob:%qq:$wwok:%ls:%ob:%qq:$ZAHok:%ls:%ob:%qq:$geok:%ls:%ob:%qq",
    ":$mkok:%ls:%ob:%qq:$FEHok:%ls:%ob:%qq:$tpok:%ls:%ob:%qq:$otok:%ls:%ob:%qq:$plok:%ls:%ob:%q",
    "q:$qsok:%ls:%ob:%qq:$rrok:%ls:%ob:%qq:$nkok:%ls:%ob:%qq:$zhok:%ls:$gfqnok:&ls:$zqok:%ls:%o",
    "b:%qq:#pyplagfaMADDAgbok:+ls:)mwgbok:+ls:*hhok:+ls:(ok:(ls:~~!zyWIDTH NO-BREAKwa~!FULLWIDT",
    "Hlfqo#tv:#rye#DOLLAR:#PERCENT:#gm#gq#prsw#ue:#ha#tfe#it#nv#mewg#vx#kczy$sh$yl$xp$ma$lv$vq$",
    "uz$ks$rn#ir#ux#pxe#ld:#mp:#tuqo#iuAT#pqdbA&.&.&.&.&.&.&.&.&.&.&.&.&.&.&.&.&.&.&.&.&.&.&.&.",
    "&.#prwchv#uavx#uewchv#iogc#qgqa#mogc#pqcbA&.&.&.&.&.&.&.&.&.&.&.&.&.&.&.&.&.&.&.&.&.&.&.&.",
    "&.#prjihv#yxqa#uejihv#xt#przksw#ue;!HALFWIDTHnwmewg#prjahv#ue;#nwit#oyqtkg$bWO%cA&I&U&E&O&",
    "zp&YU&YO&TU#ozPROLONGEDvyqo#oybA%I%U%E%O%os%KI%KU%KE%KO%up%SI%SU%SE%SO%wu%TI%TU%TE%xv%rh%N",
    "I%NU%NE%NO%mt%HI%HU%HE%HO%qj%MI%MU%ME%MO%zp%YU%YO%tw%RI%RU%RE%RO%WA%N$zdvyqo$SEMI-VOICED;#",
    "nflr$bpf%SSANGKIYEOK%KIYEOK-SIOS%NIEUN%NIEUN-CIEUC%NIEUN-HIEUH%xs%SSANGTIKEUT%RIEUL%ud%RIE",
    "UL-MIEUM%RIEUL-PIEUP%RIEUL-SIOS%RIEUL-THIEUTH%RIEUL-PHIEUPH%RIEUL-HIEUH%MIEUM%PIEUP%SSANGP",
    "IEUP%PIEUP-SIOS%SIOS%SSANGSIOS%IEUNG%CIEUC%SSANGCIEUC%il%pd%xi%tc%HIEUH~~~%A%AE%zp%YAE%EO%",
    "E~~%YEO%YE%O%WA%WAE%OE~~%YO%U%WEO%WE%WI%YU~~%EU%YI%I~~~!FULLWIDTH CENTe#POUND:#ru:#qk#BROK",
    "ENhe#YENe#WON:~!HALFWIDTH FORMSpzyx#pugw#yu:#ui:#kp:#hpwc#zkim~~~~~~~~~~!INTERLINEAR ANNOT",
    "ATION ANCHOR$uy$TERMINATOR!OBJECT REPLACEMENTih!;~~!LINEAR BwsB008 A%B038 E%B028 I%B061 O%",
    "B010 U%B001jm%B045 DE%B007 DI%B014 DO%B051 DU%B057 JA%B046 JE~%B036 JO%B065 JU%B077os%B044",
    " KE%B067 KI%B070 KO%B081 KU%B080qj%B013 ME%B073 MI%B015 MO%B023 MU%B006rh%B024 NE%B030 NI%",
    "B052 NO%B055 NU%B003ss%B072 PE%B039 PI%B011 PO%B050 PU%B016 QA%B078 QE%B021 QI%B032 QO~%B0",
    "60tw%B027 RE%B053 RI%B002 RO%B026 RU%B031up%B009 SE%B041 SI%B012 SO%B058 SU%B059wu%B004 TE",
    "%B037 TI%B005xv%B069 TU%B054 WA%B075 WE%B040 WI%B042 WO~%B017 ZA%B074 ZE~%B020 ZO%B025 A2%",
    "B043 A3%B085 AU%B071 DWE%B090 DWO%B048 NWA%B029 PU2%B062 PTE%B076 RA2%B033 RA3%B068 RO2%B0",
    "66 TA2%B087 TWE%B091yl~~$wtB018%.%B022%B034%B047%B049%B056%B063%.%B079%B082%.%B086%B089"] }]

end QueryTelemetry.Text.Name
