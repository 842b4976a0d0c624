import QueryTelemetry.Text.Name.Run

/-!
# Names of letters

Names of the characters below U+20D0: Latin letters and the letters of most living scripts, with
their digits and punctuation.
-/

namespace QueryTelemetry.Text.Name

/-- The names from U+0020 to U+20C0. -/
def alphabets : List Run := [
  { first := 32, lines := [
    "!wa!lfqo!tv:!rye!DOLLAR:!PERCENT:!gm!gq!prsw!ue:!ha!tfe!it!nv!mewg!vx!kczy#sh#yl#xp#ma#lv#",
    "vq#uz#ks#rn!ir!ux!pxe!ld:!mp:!tuqo!iuAT!pqdbA%.%.%.%.%.%.%.%.%.%.%.%.%.%.%.%.%.%.%.%.%.%.%",
    ".%.%.!prwchv!uavx!uewchv!iogc!qgqa!mogc!pqcbA%.%.%.%.%.%.%.%.%.%.%.%.%.%.%.%.%.%.%.%.%.%.%",
    ".%.%.!prjihv!yxqa!uejihv!xt"] },
  { first := 160, lines := [
    "!NO-BREAKwa!ohlfqo!CENTe!POUND:!CURRENCY:!YEN:!BROKENhe!uve!jx!COPYRIGHTe!FEMININE ORDINAL",
    "oa!pskkgntvqo!rue!SOFTnu!REGISTEREDe!qk!DEGREEe!PLUS-MINUS:!wpyl#xp!gdgc!MICROe!PILCROW:!q",
    "tkg!ie!wpsh!MASCULINE ORDINALoa!ugkkgntvqo!VULGARmcshtr%mv$xpts!ohtuqo!pqdbAamo(gd(io(xt(j",
    "x(ujgb%AE%Caie%Eamo(gd(io(jx%Iamo(gd(io(jx%ETH%Naxt%Oamo(gd(io(xt(jx!ree!pqdbOawi%Uamo(gd(",
    "io(jx%Yagd%THORN#cbSHARP S%Aamo(gd(io(xt(jx(ujgb%AE%Caie%Eamo(gd(io(jx%Iamo(gd(io(jx%ETH%N",
    "axt%Oamo(gd(io(xt(jx!kfe!pqcbOawi%Uamo(gd(io(jx%Yagd%THORN%Yajx#dbAaqk#c=#dbAahw#c=#dbAasd",
    "#c=#dbCagd#c=#dbCaio#c=#dbCakggb#c>#dbCaic#c=#dbD;#c=#dbDawi#c=#dbEaqk#c=#dbEahw#c=#dbEakg",
    "gb#c>#dbEasd#c=#dbEaic#c=#dbGaio#c=#dbGahw#c=#dbGakggb#c>#dbGaie#c=#dbHaio#c=#dbHawi#c=#db",
    "Iaxt#c=#dbIaqk#c=#dbIahw#c=#dbIasd#c=#dbIakggb#cbkhI#dpyIJ#c;#dbJaio#c=#dbKaie#c=%KRA#dbLa",
    "gd#c=#dbLaie#c=#dbLaic#c=#dbLaqtkg#c>#dbLawi#c=#dbNagd#c=#dbNaie#c=#dbNaic#c=&PRECEDED BYg",
    "q#dbENG#c;#dbOaqk#c=#dbOahw#c=#dbOakkgd#c>#dpyOE#c;#dbRagd#c=#dbRaie#c=#dbRaic#c=#dbSagd#c",
    "=#dbSaio#c=#dbSaie#c=#dbSaic#c=#dbTaie#c=#dbTaic#c=#dbTawi#c=#dbUaxt#c=#dbUaqk#c=#dbUahw#c",
    "=#dbUaujgb#c>#dbUakkgd#c>#dbUasd#c=#dbWaio#c=#dbY;#c=#dbYajx%Zagd#c=#dbZakggb#c>#dbZaic#c=",
    "%qeS%Bawi#dbBanq(TOPBAR#c=#dbxwvq#c<#dbsiO%Canq#c=#dbAFRICAN D%Danq(TOPBAR#c=%yiju#dbubE%S",
    "CHWA%siE%Fanq#c=#dbG;%mf#cbHV#dboi%Iawi%Kanq#c=%Lahe%LAMBDAawi#dbyiM%Naprnq#cbNaqeueLEG#db",
    "Oaqtxt(ns#c=#dbOI#c;#dbPanq#c=#bYR#dbxwyl#c<#dbESH#bubESHqf#cbTastnq#dbTa:#c=#dbTatz:%Uans",
    "#c=#dbyt%Vanq%Y;#c=#dbZawi#c=#dbEZH&ub#c<&awx#bylawi#dbxwlv#c<#bohmnwgawi$WYNN$DENTAL CLIC",
    "K$LATERAL:$ALVEOLAR:$tz:#dbDZaic%DacbZ;#cbDZ;#dbLJ%LacbJ#cbLJ#dbNJ%NacbJ#cbNJ#dbAaic#c=#db",
    "I;#c=#dbO;#c=#dbU;#c=#dbUajxfqk#c?#dbUajxfgd#c?#dbUajxfic#c?#dbUajxfmo#c?%yiE#dbAajxfqk#c?",
    "#dbAakggb;#c@#dbAEa:#c=#dbGawi#c=#dbGaic#c=#dbK;#c=#dbOasd#c=#dbOasdfqk#c?#dbEZHaic#c=%J;#",
    "dbDZ%DacbZ#cbDZ#dbGagd#c=#dbHWAIR%WYNN%Namo#c=#dbAaujgbfgd#c@#dbAEa:#c=#dbOawif:#c?#dbAakk",
    "mo#c>#dbAaohhw#c>#dbEakkmo#c>#dbEaohhw#c>#dbIakkmo#c>#dbIaohhw#c>#dbOakkmo#c>#dbOaohhw#c>#",
    "dbRakkmo#c>#dbRaohhw#c>#dbUakkmo#c>#dbUaohhw#c>#dbSaithh#c>#dbT<#c>#dbYOGH#c;#dbHaic#c=#db",
    "NaqeueLEG#cbDajh#dbOU#c;#dbZanq#c=#dbAakggb#c>#dbEaie#c=#dbOajxfqk#c?#dbOaxt;#c?#dbOakggb#",
    "c>#dbOakggbfqk#c@#dbYa:#c=%Lajh%N;%T;%khJ%DBkd%QP:#dbAawi%C;#c=#dbLahe%Tajywi#cbSaSWASHwx%",
    "Z<#dbmnwg#c<#dbBawi%Uhe%yiV%Eawi#c=#dbJ;#c=#dbcQanqwx#cb=#dbRawi#c=#dbY;#c=%yiA%gj%yi:%Ban",
    "q%siO%Cajh%Dawx(nq%ubE%SCHWA&anq%siE%ub;)anq%iqubsiE%khJawi%Ganq%uuG#bcd:#cbmf%RAMSns%yiH%",
    "Hanq%HENG;%Iawi%oi#bcdI#cbLaqtxt(BELT(tznq%LEZH%yiM(aqeLEG%Manq%Napr:(tz:#bcdN#cbhgO#bcdOE",
    "#cbiqsf%tb%yiR(aqeLEG)nq%RaqeLEG(wx(lu%ub<#bcdR&oh:#cbSanq%ESH%khJawifnq%SQUATubESH%ESHajh",
    "%yiT%Tatznq%Uhe%yt%Vanq%yiV&.&Y#bcd:#cbZatznq(jh%EZH&ajh#bmnwg$PHARYNGEALzdFRICATIVE$ohmnw",
    "g$STRETCHED C$BILABIAL CLICK$cdB#cbiqsiE#bcdGanq&H#cbJaje%yiK#bcdL#cbQanq#bmnwgawi$ub=#cbD",
    "Zkd%DEZH:%DZkdajh%TSkd%TESH:%TCkdajh%FENGkd%LS:%LZ:#bBILABIAL PERCUSSIVE$BIDENTAL:#cbyiHal",
    "u*fwx!qvbcH&anq%J%R%yi:(anq%dohR%W%Y$PRIME$kk:$yiit$gq$ubit$uemvuj$pr;$mnwg$ub;$prgx$ue:$y",
    "p:$kn:$iogc!ic!qvbyxqa$qk$gdgc$mo:$qgyxqa%qk%mogc%gd:$ybir$mv;$CENTREDuemvuj%pr;$ypwv$kn:$",
    "tfe$qu:!hw!kggb!uj:!sd!cxt!kkgdgc!qvbRHOTICnq$jcgc$cmf%L%S%X%ubmnwg$EXTRA-HIGHxwhe$nm;$MID",
    ";$qg;$EXTRA-LOW;$YIN DEPARTINGxwqo$YANG<$VOICING$UNASPIRATED$kkgq$qgkngx%yp:%pr:%ue:%uj$qt",
    "mogc%kk;&gd:$qgxt$txir$BEGINnmxw$kz;$BEGINqg:$kz;$SHELF$si:$qgprgw!ismogc#gd:#io:#xt#qk#OV",
    "ERLINE#hw#kggb#jx#nqgb#uj:#kkgdgc#ic#yxqagb#kk<$mogc#ib#ohhw#yiitgb#;#ub;#itgbue#mogchh#gd",
    ";#prwv:#ue;#prgngb#ns#prmvujhh#ypwv:#kn;#tfe:#qu;#PALATALIZEDnq:#tz;#kg:#jx:#uj:#it:#ie#sd",
    "#yxqahh#BRIDGE:#ohkkARCH:#ic:#iogc:#hw:#oh;#xt:#qk:#qgqa#kk;#xtsq#vjwi:#qe;#vjvx:#qe;#uemv",
    "ujhh#ohBRIDGE:#wc:#SEAGULL:#Xgb#yxxt#kkOVERLINE#moxwqo#gd;#mqsy$KORONIS$jzTONOS$zt#BRIDGEg",
    "b#ldehh#kkyxqa:#prgn:#ruxtgb#HOMOTHETIC:#ghlcxv:#pruegwhh#yu;#GRAPHEME JOINER#uegxgb#prmvu",
    "j:#FERMATA#Xhh#prgx:#ue;%fypgx:$mvujgb#kggbue#hahh#kkuj:#zzgb#kkhwhh%$qk%hh$xt$ohhw$uigwhh",
    "#pqcbA&E&I&O&U&C&.&H&M&R&T&V&X!mqdbHETA#c;#dbguSAMPI#c<#rze#qh;#dbPAMPHYLIAN DIGAMMA#c<~~#",
    "zt#cubLUNATEvnwt$kj<$ub=#tuqo#dbYOT~~~~#TONOS#jz:#dbgja:#ANO TELEIA#dblbaTONOS%ETA;%oi;~%s",
    "g;~%yt;%sf;#cboiajzf:#dbgj%hk%mf%ju%lb%ZETA%ETA%xh%oi%ov%pm%MU%NU%XI%sg%PI%uc~%vn%TAU%yt%t",
    "b%ik%PSI%sf%oiajz%yt;#cbgjaTONOS%lb;%ETA;%oi;%ytajzf:%gj%hk%mf%ju%lb%ZETA%ETA%xh%oi%ov%pm%",
    "MU%NU%XI%sg%PI%uc%lsvn%:%TAU%yt%tb%ik%PSI%sf%oiajz%yt;%sgaTONOS%yt;%sf;#dKAIwt#hk:#xh:#yta",
    "nq:%gdf;%jx<#tb:#PI:#KAI:#bguKOPPA#c<#bSTIGMA#c;#bDIGAMMA#c;#bKOPPA#c;#bSAMPI#c;!izdbSHEI#",
    "c;#dbFEI#c;#dbKHEI#c;#dbHORI#c;#dbGANGIA#c;#dbSHIMA#c;#dbDEI#c;!mqovwt#uc:#LUNATEvn:#bYOT#",
    "dxhwt#LUNATElb:#ub<#dbSHO#c;#dLUNATEvnwt$bSAN#c;#ucawiwt#dubLUNATEvn:$kj<$ub=!jldbIEamo%IO",
    "%DJE%GJE%UKRAINIAN IE%DZE%BYELORUSSIAN-UKRAINIAN I%YI%JE%LJE%NJE%TSHE%KJE%Iamo%vjU%DZHE%A%",
    "BE%VE%GHE%DE%IE%ZHE%ZE%I%vj:%os%EL%EM%EN%O%PE%ER%ES%TE%U%EF%mt%TSE%CHE%vc%SHCHA%HARDe%YERU",
    "%SOFTe%E%YU%zp#cbA%BE%VE%GHE%DE%IE%ZHE%ZE%I%vj:%os%EL%EM%EN%O%PE%ER%ES%TE%U%EF%mt%TSE%CHE%",
    "vc%SHCHA%HARDe%YERU%SOFTe%E%YU%zp%IEamo%IO%DJE%GJE%UKRAINIAN IE%DZE%BYELORUSSIAN-UKRAINIAN",
    " I%YI%JE%LJE%NJE%TSHE%KJE%Iamo%vjU%DZHE#dbsf#c;#dbYAT#c;#dbojE#c<#dbqbYUS#c<#dboj;#c=#dbBI",
    "G:#c<#dboj;#c=#dbKSI#c;#dbPSI#c;#dbFITA#c;#dbIZHITSA#c;#dbIZHITSAakkmogc#c?#dbUK#c;#dbROUN",
    "Dsf#c<#dbsfaTITLO#c=#dbOT#c;#dbKOPPA#c;#xoe!isjlTITLO$PALATALIZATION$jrPNEUMATA$tn:$POKRYT",
    "IE$ntxoe$MILLIONS:!jldbvjIawx#c>#dbSEMISOFTe#c<#dbERaTICK#c=#dbGHEaUPTURN#c=#dbGHEawi#c=#d",
    "bGHEaqtnq#c>#dbZHEajv#c=#dbZE;#c=#dbos;#c=#dbosayxwi#c>#dbosa:#c=#dbBASHKIRos#c<#dbENajv#c",
    "=#dpyEN GHE#c<#dbPEaqtnq#c>#dbABKHASIANmt#c<#dbESajv#c=#dbTE;#c=#dbwhU#c<#dbwhUawi#c>#dbmt",
    "ajv#c=#dpyTE TSE#c<#dbCHEajv#c=#dbCHEayxwi#c>#dbSHHA#c;#dbABKHASIAN CHE#c<#dbABKHASIAN CHE",
    "ajv#c>#bPALOCHKA#dbZHEahw#c=#dbosanq#c=#dbELawx#c=#dbENanq#c=#dbENawx#c=#dbKHAKASSIAN CHE#",
    "c<#dbEMawx#c=%PALOCHKA#dbAahw#c=#dbAajx#c=#dpyA IE#c<#dbIEahw#c=#dbSCHWA#c;#dbSCHWAajx#c=#",
    "dbZHE;#c=#dbZE;#c=#dbABKHASIAN DZE#c<#dbIaqk#c=#dbIajx#c=#dbO;#c=#dbhgO#c<#dbhgOajx#c>#dbE",
    ";#c=#dbUaqk#c=#dbUajx#c=#dbUakkgd#c>#dbCHEajx#c=#dbGHEajv#c=#dbYERUajx#c=#dbGHEawifnq#c?#d",
    "bmta:#c=#dbmtawi#c=#dbKOMI DE#c<#dbKOMI DJE#c<#dbKOMI ZJE#c<#dbKOMI DZJE#c<#dbKOMI LJE#c<#",
    "dbKOMI NJE#c<#dbKOMI SJE#c<#dbKOMI TJE#c<#dbubZE#c<#dbELanq#c=#dbLHA#c;#dbRHA#c;#dbYAE#c;#",
    "dbQA#c;#dbWE#c;#dbALEUTos#c<#dbELaqtnq#c>#dbEN<#c>#dbPEajv#c=#dbSHHA;#c=#dbENaprnq#c>#dbDZ",
    "ZHE#c;#dbDCHE#c;#dbELajv#c=~!ARMENIANdbAYB%BEN%GIM%jm%ECH%ZA%EH%ET%xv%ZHE%INI%LIWN%XEH%CA%",
    "KEN%HO%JA%GHAD%CHEH%MEN%YI%NOW%vc%VO%ig%PEH%JHEH%tw%SEH%VEW%TIWN%ty%CO%YIWN%PIWR%KEH%OH%FE",
    "H~~#qvbprmvuj#gq#EMPHASISqo#lf:#it#tuqo#ga:#cbyiAYB%:%BEN%GIM%jm%ECH%ZA%EH%ET%xv%ZHE%INI%L",
    "IWN%XEH%CA%KEN%HO%JA%GHAD%CHEH%MEN%YI%NOW%vc%VO%ig%PEH%JHEH%tw%SEH%VEW%TIWN%ty%CO%YIWN%PIW",
    "R%KEH%OH%FEH$pyECH YIWN$bYIawi#mewg#nu~~!ufARMENIAN ETERNITYe!LEFT-FACING<!ARMENIAN DRAM:~",
    "!HEBREWgcETNAHTA$SEGOL$SHALSHELET$ZAQEF QATAN%GADOL$TIPEHA$REVIA$ZARQA$PASHTA$YETIV$TEVIR$",
    "GERESH%MUQDAM$GERSHAYIM$QARNEY PARA$TELISHA GEDOLA$PAZER$ATNAH HAFUKH$MUNAH$MAHAPAKH$MERKH",
    "A%KEFULA$DARGA$QADMA$TELISHA QETANA$YERAH BEN YOMO$OLE$ILUY$DEHI$ZINOR#qoMASORAim#tgSHEVA$",
    "HATAF SEGOL%PATAH%QAMATS$HIRIQ$TSERE$SEGOL$PATAH$QAMATS$HOLAM%HASERlwVAV$QUBUTS$DAGESH OR ",
    "MAPIQ$METEG#toMAQAF#tgRAFE#toPASEQ#tgvikg$SIN:#toSOF PASUQ#qoyskg$qh:#tosaHAFUKHA#tgQAMATS",
    " QATAN~~~~~~~~#bgf$BET$ml$DALET$HE$VAV$zx$HET$TET$YOD$lsot$:$LAMED$lsMEM$:$lssa$:$ur$AYIN$",
    "lsPE$:$lsTSADI$:$QOF$RESH$vi$TAV~~~~#YODxz#pyYIDDISHkkVAV%VAV YOD%kk:#toGERESH$GERSHAYIM"] },
  { first := 1536, lines := [
    "!gsrye#eSANAH#FOOTNOTE MARKER#eSAFHA$SAMVAT#ryqogb!gtCUBE ROOT#FOURTH:!gsRAY!gtPER MILLEe$",
    "xcxn:!AFGHANI:!gsit#DATEuy#POETIC VERSEe#eMISRA$SALLALLAHOU ALAYHE WASSALLAM$ALAYHE ASSALL",
    "AM$RAHMATULLAH ALAYHE$RADI ALLAHOU ANHU$TAKHALLUS#cnmww%pygfaplazq%zu$ln$jo$ox#ux#bqo#kzsc",
    "TEXT:#yckgto:#tu:#bKASHMIRIzq$mw$gfaMADDAgb&mw:$zh<$gfamwhh$zqamwgb$gf$BEH$TEH MARBUTA%$TH",
    "EH$op$mu$pc$DAL$THAL$ty$zu$uw$vf$SAD$DAD$ww$ZAH$ge$mk$KEHEHaylkigb&xpkihh$FARSIzqaohV(ylki",
    "gb(xp;#TATWEEL#bFEH$tp$ot$pl$qs$rr$nk$zh$gfqn$zq#lo#DAMMATAN#KASRATAN#ln#jo#ox#SHADDA#SUKU",
    "N#MADDAHgb#mw:$hh#wmgf#ohjo#qorrGHUNNA#ZWARAKAY#zeecVgb%oh<%kghh#ubjo#lnaylki#WAVYmwhh!gtk",
    "czy$sh$yl$xp$ma$lv$vq$uz$ks$rn!gsPERCENTe#DECIMALuy#xo:#lvthwf#bkhBEH%tp$wpgf$gfWASLA%aWAV",
    "Ymwgb)hh$nmmw&gf&zh$Uamwgb$nmmwzq$TTEH$TTEHEH$BEEH$TEHauj&xpkigbkp$PEH$TEHEH$BEHEH$muamwgb",
    "&ylkiyx:$NYEH$DYEH$muaxpkigb$TCHEH$TCHEHEH$DDAL$DALauj&kghh)fcww$DAHAL$DDAHAL$DUL$DALaxpki",
    "gbkp&makigb$RREH$tyacV&uj&kghh&cV:&kghhfkggb&ylki:$JEH$tyamakigb$uwakghhfkg:&xpkihh*fxpkig",
    "b$SADaylkihh&xpkigb$ww=$ge=$khFEH$FEHakgMOVEDhh(:$VEH$FEHaxpkihh$PEHEH$tpakggb&xpki:$KEHEH",
    "$SWASHot$otauj&kggb$NG$otaxpkihh$GAF%auj$NGOEH$GAFaylkihh$GUEH$GAFaxpkigb$placV&kggb&xpki:",
    ")hh$rrakg:%GHUNNA$RNOON$rrauj&xpkigb$nkDOACHASHMEE$TCHEHakggb$nkazq:%GOAL&amwgb$TEH MARBUT",
    "A GOAL$zhauj$KIRGHIZ OE$:$U$YU$KIRGHIZ:$zhaylkigb$VE$FARSIzq$zqawx&cV$zhakggb$E$zqaxpkihh%",
    "BARREE&amwgb#mewg#bAE#cnmpySADaplagfqn&tp>%qsoblx%plgf%op%xpki%uw#kzscAYAH#STARTscRUB EL H",
    "IZB#cnmuozy%UPRIGHT RECTANGULAR:%khnhscpc%qsoklx$qguw$nmMADDA$zh$zq$nm:%rr#PLACEscSAJDAH#E",
    "MPTYifqgwg%nm:#uonmwgaFILLEDif#cqgqs#bDALaohV$ty<!lggtkczy%sh%yl%xp%ma%lv%vq%uz%ks%rn!gsbv",
    "fakghh$DAD<$mk<#eSINDHIgm%POSTPOSITION MEN#bnkaohV!SYRIACkzscsu#SUPRALINEARmewg#SUBLINEAR;",
    "#SUPRALINEARir#SUBLINEAR:#nr:#irSKEWEDpr%ue#SUPRALINEARirSKEWEDpr#SUBLINEARirSKEWEDue#CONT",
    "RACTION#HARKLEAN OBELUS$METOBELUS$ASTERISCUS~#gaqo#bALAPH$wp:$hl$GAMAL%GARSHUNI$DALATH$khD",
    "ALATH RISH$HE$zh$zu$nl$TETH%GARSHUNI$YUDH%HE$ou$LAMADH$MIM$sa$SEMKATH$ls:$E$PE$ub:$uq$QAPH",
    "$RISH$vi$TAW$PERSIAN BHETH%GHAMAL%DHALATH#PTHAHAgb$hh$kj#ZQAPHAgb$hh$kj#RBASAgb$hh#kjZLAMA",
    "nr%ANGULAR#HBASAgb$hh#HBASA-ESASAkj#ESASAgb$hh#RWAHA#FEMININEkg#QUSHSHAYA#RUKKAKHA#ylyxkig",
    "b&hh#xpkigb%hh#OBLIQUEqagb%hh#MUSIC#BARREKH~~#bSOGDIAN ZHAIN%KHAPH%FE!gsbBEHaxpkiHORIZONTA",
    "LLYhh&kghhfxpkigb&xpkitiyuhh,fylkigb&ylkihhfkg:&ohcVhh&cV$muaylkigb&xpkitiyuhh$DALaylkiyyh",
    "hfcww&ohcVhh$tyawi$uwamakigb$geayl;&xpkitikp:&ylkiyy:$FEHaylkihh&xpkitiyu:$KEHEHakggb&xpki",
    ":)tiyuhh$qsakggb(hh$rraylki:&cww(V$plahe$tyaylkiyygb&mw:$uwaylkiyy:$muacgsbwwhh+fylki$uwa@",
    "$tya@$muacgsbwwgb$gfalggtkcyl:*xp:$FARSIzqalggtkcyl:+xp:+mahh$zhalggtkcylgb*xp:$zqBARREEal",
    "ggtkcyl:+xp:$mualggtkcmahh$uwalggtkcmagb&ohV$otaylkigb!THAANAbHAA$SHAVIYANI$NOONU$RAA$BAA$",
    "LHAVIYANI$KAAFU$ALIFU$VAAVU$MEEMU$FAAFU$DHAALU$THAA$LAAMU$GAAFU$GNAVIYANI$SEENU$DAVIYANI$Z",
    "AVIYANI$TAVIYANI$YAA$PAVIYANI$JAVIYANI$CHAVIYANI$TTAA$HHAA$KHAA$THAALU$ZAA$SHEENU$SAADHU$D",
    "AADHU$xv$ZO$AINU$GHAINU$QAAFU$WAAVU#ABAFILI#AABAAFILI#IBIFILI#EEBEEFILI#UBUFILI#OOBOOFILI#",
    "EBEFILI#EYBEYFILI#OBOFILI#OABOAFILI#SUKUN#bNAA"] },
  { first := 1984, lines := [
    "!NKOkczy$sh$yl$xp$ma$lv$vq$uz$ks$rn#bA$EE$I$E$U$OO$O$DAGBASINNA$N$BA$ss$wu$JA$ig$jm$tw$RRA",
    "$up$GBA$FA$os$pj$rhWOLOSO$qj$sb$rh$mt$WA$zp$sbWOLOSO$JONA JA%ig%tw#isvjnmxw%qg:%uk:$qeDESC",
    "ENDING:%nm:%qg:%uk:$NASALIZATIONqo$kkkggb#nmxwgq#qg;#wtOO DENNEN$GBAKURUNEN#it#lfqo#LAJANY",
    "ALAN~~#DANTAYALAN#DOROMEe#TAMAN:!SAMARITANbALAF$BIT$GAMAN$DALAT$IY$BAA$ZEN$IT$TIT$YUT$KAAF",
    "$LABAT$MIM$sa$SINGAAT$IN$FI$TSAADIY$QUF$RISH$SHAN$TAAF#qoIN$IN-ALAF$OCCLUSION$DAGESH#qvbEP",
    "ENTHETIC YUT#qo;#zeeqeE%:%OVERLONG AA%qe:%:%OVERLONG A%qe:%:#qvbvj:#zee;%qeU%:#qvbI#zeeqe:",
    "%:%O%SUKUN#qoNEQUDAA~~#to:$AFSAAQ$ANGED$BAU$ATMAAU$SHIYYAALAA#gaqo#toMELODIC QITSA$ZIQAA$Q",
    "ITSA$ZAEF$TURU$ARKAANU$SOF MASHFAAT$ANNAAU~!MANDAICbHALQA$AB$AG$AD$AH$USHENNA$AZ$IT$ATT$AK",
    "SA$AK$AL$AM$AN$AS$IN$AP$ASZ$AQ$AR$gz$AT$DUSHENNA$KAD$ge#AFFRICATIONqo#VOCALIZATION:#mi:~~#",
    "to~!SYRIACbMALAYALAMrm%JA%sb%yg%rq%NNNA%hn%tw%qc%LLLA%we~~~~~!gsbgfahbln(xxue:&ueqtwi&pr;&",
    "hbox(htue:(ROUNDkggb(ueROUNDkg(pr;(ROUNDkghh&kggb&hbxxuelnf;&ueqtwi<&hbhtueox<(xxuelnfpruj",
    "&ueqtwi<&hbhtueox<(uemw(pr:#TATWEELaOVERSTRUCK:&zh%ylkihh#bTHINzq#BASELINE ROUNDkg#tx;#brr",
    "aohcV$muaohcVhh$wwakg:&xpki:$KEHEHaylkiyy:#yxwx~#POUNDqogb#PIASTRE;~~~~~~#cnmzlAL-JUZ$qgzl",
    "ISHMAAM&IMAALA&TASHEEL#MADDA WAAJIB#wpgfMOKHASSAS#DOUBLED MADDA#mvMADDAso:#bBEHacVhh&mwgb$",
    "opaylki:$ww=$FEHakghhfxp;$tpakghh$plakkhe$qsaxpkigb$zqaylkihhfmw:+kg:$tyaqf$zhakgWITHIN$RO",
    "HINGYAzq$qggf$DALaxpkihh$SAD=$GAFaohwi$whzh$zuaohVgb$geaxpkihh$otakg:$tpakghhfNOkigb$BEHac",
    "qs:$PEH=$TEHacTEH:$tyacrr:$zqaylkihhf<$AFRICAN FEH%tp%rr$PEHacV$TEH<$TTEH<$TCHEH<$KEHEH<$m",
    "kaxpkigb$AFRICANtp=$op=)hh$placgsbwwgb$GRAF#cFARSIzq$nm;%zqBARREEaylkihh%zlSAH%ZAH#poROUND",
    "kggb&hh#SUKUN:#poim:$ROUNDkgoc;#cqgzh$nmzlAR-RUB%SAD%ge%tp%rraox$qg<$nmzlATH-THALATHA&AS-S",
    "AJDA&AN-NISF&SAKTA&QIF&WAQFA%FOOTNOTE MARKER%eSAFHA#DISPUTEDkzscAYAH#yijohh#jiln$jo$ox$lo$",
    "DAMMATAN$KASRATAN#xwshkggb$ylki:$qf:$shkghh$ylki:$qf:#silo$DAMMATAN$KASRATAN#cnmzh#lnauj%k",
    "ggb#oxakghh#prgxgb#ue;#prgxhh#ue;#kkuegxgb(akg#>#jo;#qovmrrGHUNNA!DEVANAGARIeohib$:$gp$zb#",
    "bvjA$:$AA$I$II$U$UU$zcR%L$iaE$vj:$:$AI$iaO$vj:$:$AU$os$pb$GA$mj$rm$CA$ig$JA$oq$sb$yg$yh$js",
    "$jt$rq$wu$xe$jm$jw$rh$NNNA$ss$ta$BA$hn$qj$zp$tw$RRA$pj$qc$LLLA$VA$vc$we$up$mt#zeeOE%OOE#er",
    "x$hc#zeeAA%I%II%U%UU%zcR&RR%iaE%vj:%:%AI%iaO%vj:%:%AU#eza#zeePRISHTHAMATRA E%AW#OM#STRESSe",
    "UDATTA%ANUDATTA#mogc#gd:#zeeiaqeE%UE%UUE#bQA$KHHA$GHHA$ZA$DDDHA$RHA$FA$YYA$zcRR%LL#zeezcL&",
    "LL#jp#kk:#kczy$sh$yl$xp$ma$lv$vq$uz$ks$rn#gae#enmSPACINGkg#biaA$OE$OOE$AW$UE$UUE$MARWARIjs",
    "$ZHA$njzp$GGA$JJA$mnwg$DDDA$BBA!BENGALI ANJI#eib$gp$zb~#bA$AA$I$II$U$UU$zcR%L~~$E$AI~~$O$A",
    "U$os$pb$GA$mj$rm$CA$ig$JA$oq$sb$yg$yh$js$jt$rq$wu$xe$jm$jw$rh~$ss$ta$BA$hn$qj$zp$tw~$pj~~~",
    "$vc$we$up$mt~~#erx$hc#zeeAA%I%II%U%UU%zcR&RR~~%E%AI~~%O%AU#eza#bKHANDAwu~~~~~~~~#AUpvqo~~~",
    "~#bRRA$RHA~$YYA$zcRR%LL#zeezcL&LL~~#kczy$sh$yl$xp$ma$lv$vq$uz$ks$rn#btwaqtjy&qh:#RUPEEqo$e",
    "#CURRENCY NUMERATORsh%yl%xp%ma%shLESS THANxfDENOMINATOR$DENOMINATORvr#ISSHAR#GANDAqo#bVEDI",
    "Cgp#gae#SANDHIqo~~!GURMUKHIeADAK BINDI$:$zb~#bA$AA$I$II$U$UU~~~~$EE$AI~~$OO$AU$os$pb$GA$mj",
    "$rm$CA$ig$JA$oq$sb$yg$yh$js$jt$rq$wu$xe$jm$jw$rh~$ss$ta$BA$hn$qj$zp$tw~$pj$qc~$VA$vc~$up$m",
    "t~~#erx~#zeeAA%I%II%U%UU~~~~%EE%AI~~%OO%AU#eza~~~$UDAAT~~~~~~~#bKHHA$GHHA$ZA$RRA~$FA~~~~~~",
    "~#kczy$sh$yl$xp$ma$lv$vq$uz$ks$rn#TIPPI#ADDAK#IRI#URA#EK ONKAR#eYAKASH#gae~~~~~~~~~~!GUJAR",
    "ATIeib$gp$zb~#bA$AA$I$II$U$UU$zcR%L#zeiaE~#b:$AI#zeiaO~#b:$AU$os$pb$GA$mj$rm$CA$ig$JA$oq$s",
    "b$yg$yh$js$jt$rq$wu$xe$jm$jw$rh~$ss$ta$BA$hn$qj$zp$tw~$pj$qc~$VA$vc$we$up$mt~~#erx$hc#zeeA",
    "A%I%II%U%UU%zcR&RR%iaE~%:%AI%iaO~%:%AU#eza~~#OM"] },
  { first := 2784, lines := [
    "!GUJARATIbzcRR%LL#zeezcL&LL~~#kczy$sh$yl$xp$ma$lv$vq$uz$ks$rn#gae#RUPEE:~~~~~~~#bZHA#eSUKU",
    "N$SHADDA$MADDAH$THREE-DOTrxgb$im;$TWO-CIRCLE;~!ORIYAeib$gp$zb~#bA$AA$I$II$U$UU$zcR%L~~$E$A",
    "I~~$O$AU$os$pb$GA$mj$rm$CA$ig$JA$oq$sb$yg$yh$js$jt$rq$wu$xe$jm$jw$rh~$ss$ta$BA$hn$qj$zp$tw",
    "~$pj$qc~$VA$vc$we$up$mt~~#erx$hc#zeeAA%I%II%U%UU%zcR&RR~~%E%AI~~%O%AU#eza~~~~~~~$OVERLINE#",
    "AIpvqo#AU;~~~~#bRRA$RHA~$YYA$zcRR%LL#zeezcL&LL~~#kczy$sh$yl$xp$ma$lv$vq$uz$ks$rn#ISSHAR#bW",
    "A#mcshtr%mv$xpts$shvs%ku$xpSIXTEENTHS~~~~~~~~~~!TAMILegp$zb~#bA$AA$I$II$U$UU~~~$E$EE$AI~$O",
    "$OO$AU$os~~~$rm$CA~$JA~$sb$yg~~~$rq$wu~~~$rh$NNNA$ss~~~$qj$zp$tw$RRA$pj$qc$LLLA$VA$vc$we$u",
    "p$mt~~~~#zeeAA%I%II%U%UU~~~%E%EE%AI~%O%OO%AU#eza~~#OM~~~~~~#AUpvqo"] },
  { first := 3046, lines := [
    "!TAMILkczy$sh$yl$xp$ma$lv$vq$uz$ks$rn#ryxc$shnt%xn#DAYe#MONTH:#YEAR:#DEBIT:#CREDIT:#ASgb:#",
    "RUPEE:#ry:~~~~~!TELUGUeisibgb$ib$gp$zb$isgpgb#bA$AA$I$II$U$UU$zcR%L~$E$EE$AI~$O$OO$AU$os$p",
    "b$GA$mj$rm$CA$ig$JA$oq$sb$yg$yh$js$jt$rq$wu$xe$jm$jw$rh~$ss$ta$BA$hn$qj$zp$tw$RRA$pj$qc$LL",
    "LA$VA$vc$we$up$mt~~#erx$hc#zeeAA%I%II%U%UU%zcR&RR~%E%EE%AI~%O%OO%AU#eza~~~~~~~#pvqo#AI;~#b",
    "yd$DZA$RRRA~~$NAKAARA POLLU~~$zcRR%LL#zeezcL&LL~~#kczy$sh$yl$xp$ma$lv$vq$uz$ks$rn~~~~~~~#e",
    "vk#mckczylwODD POWERSscma%sh>%yl>%xp>%shlwEVEN<%yl>%xp>#eTUUMU!KANNADAeSPACINGib$:$gp$zb$v",
    "k#bA$AA$I$II$U$UU$zcR%L~$E$EE$AI~$O$OO$AU$os$pb$GA$mj$rm$CA$ig$JA$oq$sb$yg$yh$js$jt$rq$wu$",
    "xe$jm$jw$rh~$ss$ta$BA$hn$qj$zp$tw$RRA$pj$qc~$VA$vc$we$up$mt~~#erx$hc#zeeAA%I%II%U%UU%zcR&R",
    "R~%E%EE%AI~%O%OO%AU#eza~~~~~~~#pvqo#AI;~~~~~~#bNAKAARA POLLU$FA~$zcRR%LL#zeezcL&LL~~#kczy$",
    "sh$yl$xp$ma$lv$vq$uz$ks$rn~#eor$yr"] },
  { first := 3328, lines := [
    "!MALAYALAMeisgpgb$ib$gp$zb#bVEDICgp$A$AA$I$II$U$UU$zcR%L~$E$EE$AI~$O$OO$AU$os$pb$GA$mj$rm$",
    "CA$ig$JA$oq$sb$yg$yh$js$jt$rq$wu$xe$jm$jw$rh$NNNA$ss$ta$BA$hn$qj$zp$tw$RRA$pj$qc$LLLA$VA$v",
    "c$we$up$mt$TTTA#eyxheza$CIRCULAR:$hc#zeeAA%I%II%U%UU%zcR&RR~%E%EE%AI~%O%OO%AU#eza#bkgREPH#",
    "ePARA~~~~#bCHILLU M%Y%LLL#AUpvqo#mcshONE-HUNDRED-AND-SIXTIETH%FORTIETH$xpEIGHTIETHS$shTWEN",
    "TIETH%TENTH$xpTWENTIETHS$shFIFTH#bguII$zcRR%LL#zeezcL&LL~~#kczy$sh$yl$xp$ma$lv$vq$uz$ks$rn",
    "#ryxc$shnt%xn#mcshtr%mv$xpts$shvs%ku$xpSIXTEENTHS#DATEqo#bCHILLU NN%N%RR%L%LL%K~!SINHALAei",
    "b$ANUSVARAYA$VISARGAYA~#bAYANNA$AAYANNA$AEYANNA$AEEYANNA$IYANNA$IIYANNA$UYANNA$UUYANNA$IRU",
    "YANNA$IRUUYANNA$ILUYANNA$ILUUYANNA$EYANNA$EEYANNA$AIYANNA$OYANNA$OOYANNA$AUYANNA~~~$giKAYA",
    "NNA$ql:$giGAYANNA$ql:$KANTAJA NAASIKYAYA$SANYAKA GAYANNA$giCAYANNA$ql:$giJAYANNA$ql:$TAALU",
    "JA NAASIKYAYA%SANYOOGA NAAKSIKYAYA$SANYAKA JAYANNA$giTTAYANNA$ql:$giDDAYANNA$ql:$MUURDHAJA",
    " NAYANNA$SANYAKA DDAYANNA$giTAYANNA$ql:$giDAYANNA$ql:$DANTAJA NAYANNA~$SANYAKA DAYANNA$giP",
    "AYANNA$ql:$giBAYANNA$ql:$MAYANNA$AMBA BAYANNA$YAYANNA$RAYANNA~$DANTAJA LAYANNA~~$VAYANNA$T",
    "AALUJA SAYANNA$MUURDHAJA:$DANTAJA:$HAYANNA$MUURDHAJA LAYANNA$FAYANNA~~~#eAL-LAKUNA~~~~#zee",
    "AELA-PILLA%KETTI AEDA-PILLA%DIGA:%KETTI IS-PILLA%DIGA:%KETTI PAA-PILLA~%DIGA:~%GAETTA-PILL",
    "A%KOMBUVA%DIGA:%KOMBU DEKA%KOMBUVA HAA AELA-PILLA(DIGA:(GAYANUKITTA%:~~~~~~#LITHkczy%sh%yl",
    "%xp%ma%lv%vq%uz%ks%rn~~#zeeDIGA GAETTA-PILLA&GAYANUKITTA#toKUNDDALIYA"] },
  { first := 3585, lines := [
    "!THAIihKO KAI$KHO KHAI%KHUAT%KHWAI%KHON%RAKHANG$NGO NGU$CHO CHAN%CHING%CHANG$SO SO$CHO CHO",
    "E$YO YING$DO CHADA$xvPATAK$THO THAN%NANGMONTHO%PHUTHAO$NO NEN$DO DEK$xvTAO$THO THUNG%THAHA",
    "N%THONG$NO NU$BO BAIMAI$PO PLA$PHO PHUNG$FO FA$PHO PHAN$FO FAN$PHO SAMPHAO$MOqj$YO YAK$RO ",
    "RUA$RU$LO LING$LU$WO WAEN$SO SALA%RUSI%SUA$HO HIP$LO CHULA$O ANG$HO NOKHUK$PAIYANNOI$SARA ",
    "A$MAI HAN-AKAT$SARA AA%AM%I%II%UE%UEE%U%UU$PHINTHU~~~~#CURRENCYwtBAHT#ihSARA E%AE%O%AI MAI",
    "MUAN&MAIMALAI$LAKKHANGYAO$MAIYAMOK$MAITAIKHU$MAI EK%THO%TRI%CHATTAWA$THANTHAKHAT$NIKHAHIT$",
    "YAMAKKAN$FONGMAN#kczy$sh$yl$xp$ma$lv$vq$uz$ks$rn#ihANGKHANKHU$KHOMUT"] },
  { first := 3713, lines := [
    "!LAObKO$KHO SUNG~%TAM~$PALImj$NGO$CO$PALIig$SO TAM~$PALIoq$NYO$PALIsb%yg%yh%js%jt%rq$DO$xv",
    "$THO SUNG%TAM$PALIjw$NO$BO$PO$PHO SUNG$FO TAM$PHO:$FO SUNG$PALIhn$MO$YO$LO LING~%LOOT~$WO$",
    "SANSKRITvc%we$SO SUNG$HO:$PALIqc$O$HO TAM#ELLIPSIS#zeeA%MAI KAN%AA%AM%I%II%Y%YY%U%UU#ePALI",
    "za#zeeMAI KON#SEMIVOWELeLO%NYO~~#zeeE%EI%O%AY%AI~#KOpj~#xwMAI EK%THO%TI%CATAWA#hzqo#NIGGAH",
    "ITA~~#kczy$sh$yl$xp$ma$lv$vq$uz$ks$rn~~#HO NO$MO#bKHMU GO%NYO"] },
  { first := 3840, lines := [
    "!TIBETANwsOM#qoGTER YIG MGO TRUNCATED A(-UM RNAM BCADqj)GTERyf:$obYIG MGO MDUN:$CLOSING YI",
    "G MGO SGAB:$CARET YIG MGO PHUR SHAD:$YIG MGOyf;$SBRUL SHAD$BSKUR YIG MGO$BKA- SHOG;$INTERS",
    "YLLABICyf$DELIMITERyfBSTAR$SHAD$NYIS:$yf:$NYIS;$RIN CHEN SPUNGS:$RGYA GRAM:$CARET -DZUD RT",
    "AGS MEqeCAN$GTERyf#LOGOTYPEeCHAD RTAGS%LHAG:#ASTROLOGICALeSGRA GCAN -CHAR:%-KHYUDss%SDONG ",
    "TSHUGS#eRDEL DKAR GCIG&GNYIS&GSUM%NAG GCIG&GNYIS%DKAR RDEL NAG#kczy$sh$yl$xp$ma$lv$vq$uz$k",
    "s$rn$mvsh%yl%xp%ma%lv%vq%uz%ks%rn%zy#qoBSDUS RTAGS$NGAS BZUNG NYI ZLA$CARET -DZUD RTAGS BZ",
    "HI MIG CAN$NGAS BZUNG SGOR RTAGS$CHE MGO$yd-PHRU$GUG RTAGS GYON&GYAS$ANG KHANG GYON&GYAS#e",
    "YAR TSHES$MAR:#bos$pb$GA$mj$rm$CA$ig$JA~$sb$yg$yh$js$jt$rq$wu$xe$jm$jw$rh$ss$ta$BA$hn$qj$y",
    "d$ye$DZA$DZHA$WA$ZHA$ZA$-A$zp$tw$pj$vc$we$up$mt$A$KSSA$FIXED-FORMtw$KKA$RRA~~~~#zeeAA%I%II",
    "%U%UU%zcR&RR&L&LL%E%EE%O%OO#eRJES SUrmRO$RNAM BCAD#zeeubI&II#eNYI ZLA NAAjm$SNA LDAN#qoHAL",
    "ANTA$PALUTA#eLCI RTAGS$YANG:$LCEydCAN$MCHU:$GRU CAN RGYINGS%MED:$ohMCHU CAN#wkeLCEyd:%MCHU",
    ":%oh;$bos%pb%GA%mj%rm%CA%ig%JA~%sb%yg%yh%js%jt%rq%wu%xe%jm%jw%rh%ss%ta%BA%hn%qj%yd%ye%DZA%",
    "DZHA%WA%ZHA%ZA%-A%zp%tw%pj%vc%we%up%mt%A%KSSA%FIXED-FORM WA&zp&tw~#KU RUpb&BZHI MIG CAN#CA",
    "NTILLATIONenjBEAT%pz:%CANG TE-U%SBUB -CHAL#wtDRIL BU$RDO RJE$PADMA GDAN$RDO RJE RGYA GRAM$",
    "PHURss$NOR BU&NYIS -KHYIL&GSUM:&BZHI:~#eRDEL NAG RDEL DKAR&GSUM#qoBSKA- SHOG GI MGO RGYAN$",
    "MNYAM YIG<$NYISyf$obBRDA RNYING YIG MGO MDUNqj$CLOSING BRDA RNYING YIG MGO SGAB:!ufSVASTIe",
    "!LEFT-FACING;!ufSVASTIeaki!LEFT-FACING=!TIBETANqoLEADING MCHAN RTAGS$TRAILING;"] },
  { first := 4096, lines := [
    "!MYANMARbos$pb$GA$mj$rm$CA$ig$JA$oq$sb$NNYA$yg$yh$js$jt$rq$wu$xe$jm$jw$rh$ss$ta$BA$hn$qj$z",
    "p$tw$pj$WA$up$mt$qc$A$SHAN:$I$II$U$UU$E$MON:$O$AU#zeeTALL AA%:%I%II%U%UU%E%AI%MON II&O%Egb",
    "#egp$kghh$zb$za$ASAT#iweqqzp&tw&WA&mt#bGREATup#kczy$sh$yl$xp$ma$lv$vq$uz$ks$rn#eqbuv$:#wtL",
    "OCATIVE$COMPLETED$AFOREMENTIONED$GENITIVE#bvc$we$zcR%RR%L%LL#zeezcR&RR&L&LL#bMONrm%oq%BBA%",
    "BBE#iweMONqqrh(qj(pj#bSGAW KARENvc#zeeSGAW KAREN EU#xwqoSGAW KAREN HATHI(KE PHO#bWESTERN P",
    "WO KARENxe(PWA#zeeWESTERN PWO KAREN EU)UE#eWESTERN PWO KAREN TONE-1(.(.(.(.#bEASTERN PWO K",
    "ARENrq(YWA(GHWA#zeeGEBA KAREN I%KAYAH OE&U&EE#bSHANos%pb%GA%CA%ZA%sb%jm%rh%ta%FA%BA%xe%mt#",
    "iweSHANqqWA#zeeSHAN AA&E(gb&lsY#eSHAN TONE-2%.%TONE-5%.%COUNCIL TONE-2&.&EMPHATICxw#bRUMAI",
    " PALAUNG FA#eRUMAI PALAUNG TONE-5#SHANkczy%sh%yl%xp%ma%lv%vq%uz%ks%rn#eKHAMTI TONE-1%TONE-",
    "3#zeeAITON A&AI#wtSHANsh%lf!GEORGIANdbAN%BAN%GAN%DON%EN%VIN%ZEN%TAN%IN%KAN%LAS%MAN%NAR%ON%",
    "PAR%ZHAR%RAE%SAN%TAR%UN%PHAR%KHAR%GHAN%QAR%vi%CHIN%CAN%JIL%CIL%CHAR%XAN%JHAN%HAE%HE%HIE%WE",
    "%HAR%HOE~%YN~~~~~%AEN~~#bAN$BAN$GAN$DON$EN$VIN$ZEN$TAN$IN$KAN$LAS$MAN$NAR$ON$PAR$ZHAR$RAE$",
    "SAN$TAR$UN$PHAR$KHAR$GHAN$QAR$vi$CHIN$CAN$JIL$CIL$CHAR$XAN$JHAN$HAE$HE$HIE$WE$HAR$HOE$FI$Y",
    "N$ELIFI$yiGAN$ge#suuy!qvbGEORGIAN NAR!GEORGIANbAEN$HARDe$LABIAL:!nfCHOSEONGpf$SSANGKIYEOK$",
    "NIEUN$xs$SSANGTIKEUT$RIEUL$MIEUM$PIEUP$SSANGPIEUP$SIOS$SSANGSIOS$IEUNG$CIEUC$SSANGCIEUC$il",
    "$pd$xi$tc$HIEUH$NIEUN-KIYEOK$SSANGNIEUN$NIEUN-TIKEUT$NIEUN-PIEUP$TIKEUT-KIYEOK$RIEUL-NIEUN",
    "$SSANGRIEUL$RIEUL-HIEUH$KAPYEOUNRIEUL$MIEUM-PIEUP$KAPYEOUNMIEUM$PIEUP-KIYEOK$PIEUP-NIEUN$P",
    "IEUP-TIKEUT$PIEUP-SIOS$PIEUP-SIOS-KIYEOK$td$PIEUP-SIOS-PIEUP$PIEUP-SSANGSIOS$PIEUP-SIOS-CI",
    "EUC$PIEUP-CIEUC$PIEUP-CHIEUCH$PIEUP-THIEUTH$PIEUP-PHIEUPH$KAPYEOUNPIEUP$KAPYEOUNSSANGPIEUP",
    "$SIOS-KIYEOK$SIOS-NIEUN$SIOS-TIKEUT$SIOS-RIEUL$SIOS-MIEUM$SIOS-PIEUP$SIOS-PIEUP-KIYEOK$SIO",
    "S-SSANGSIOS$SIOS-IEUNG$SIOS-CIEUC$SIOS-CHIEUCH$SIOS-KHIEUKH$SIOS-THIEUTH$SIOS-PHIEUPH$SIOS",
    "-HIEUH$CHITUEUMSIOS$CHITUEUMSSANGSIOS$CEONGCHIEUMSIOS$CEONGCHIEUMSSANGSIOS$PANSIOS$IEUNG-K",
    "IYEOK$IEUNG-TIKEUT$IEUNG-MIEUM$IEUNG-PIEUP$IEUNG-SIOS$IEUNG-PANSIOS$SSANGIEUNG$IEUNG-CIEUC",
    "$IEUNG-CHIEUCH$IEUNG-THIEUTH$IEUNG-PHIEUPH$YESIEUNG$CIEUC-IEUNG$CHITUEUMCIEUC$CHITUEUMSSAN",
    "GCIEUC$CEONGCHIEUMCIEUC$CEONGCHIEUMSSANGCIEUC$CHIEUCH-KHIEUKH$CHIEUCH-HIEUH$CHITUEUMCHIEUC",
    "H$CEONGCHIEUMCHIEUCH$PHIEUPH-PIEUP$KAPYEOUNPHIEUPH$SSANGHIEUH$YEORINHIEUH$KIYEOK-TIKEUT$NI",
    "EUN-SIOS$NIEUN-CIEUC$NIEUN-HIEUH$TIKEUT-RIEUL$lr#JUNGSEONG:$A$AE$zp$YAE$EO$E$YEO$YE$O$WA$W",
    "AE$OE$YO$U$WEO$WE$WI$YU$EU$YI$I$A-O$A-U$YA-O$YA-YO$EO-O$EO-U$EO-EU$YEO-O$YEO-U$O-EO$O-E$O-",
    "YE$O-O$O-U$YO-YA$YO-YAE$YO-YEO$YO-O$YO-I$U-A$U-AE$U-EO-EU$U-YE$U-U$YU-A$YU-EO$YU-E$YU-YEO$",
    "YU-YE$YU-U$YU-I$EU-U$EU-EU$YI-U$I-A$I-YA$I-O$I-U$I-EU$I-ARAEA$ARAEA$ARAEA-EO$ARAEA-U$ARAEA",
    "-I$SSANGARAEA$A-EU$YA-U$YEO-YA$O-YA$O-YAE#JONGSEONGpf$SSANGKIYEOK$KIYEOK-SIOS$NIEUN$NIEUN-",
    "CIEUC$NIEUN-HIEUH$xs$RIEUL$ud$RIEUL-MIEUM$RIEUL-PIEUP$RIEUL-SIOS$RIEUL-THIEUTH$RIEUL-PHIEU",
    "PH$RIEUL-HIEUH$MIEUM$PIEUP$PIEUP-SIOS$SIOS$SSANGSIOS$IEUNG$CIEUC$il$pd$xi$tc$HIEUH$KIYEOK-",
    "RIEUL$KIYEOK-SIOS-KIYEOK$NIEUN-KIYEOK$NIEUN-TIKEUT$NIEUN-SIOS$NIEUN-PANSIOS$NIEUN-THIEUTH$",
    "TIKEUT-KIYEOK$TIKEUT-RIEUL$RIEUL-KIYEOK-SIOS$RIEUL-NIEUN$RIEUL-TIKEUT$RIEUL-TIKEUT-HIEUH$S",
    "SANGRIEUL$RIEUL-MIEUM-KIYEOK$RIEUL-MIEUM-SIOS$RIEUL-PIEUP-SIOS$RIEUL-PIEUP-HIEUH$RIEUL-KAP",
    "YEOUNPIEUP$RIEUL-SSANGSIOS$RIEUL-PANSIOS$RIEUL-KHIEUKH$RIEUL-YEORINHIEUH$MIEUM-KIYEOK$MIEU",
    "M-RIEUL$MIEUM-PIEUP$MIEUM-SIOS$MIEUM-SSANGSIOS$MIEUM-PANSIOS$MIEUM-CHIEUCH$MIEUM-HIEUH$KAP",
    "YEOUNMIEUM$PIEUP-RIEUL$PIEUP-PHIEUPH$PIEUP-HIEUH$KAPYEOUNPIEUP$SIOS-KIYEOK$SIOS-TIKEUT$SIO",
    "S-RIEUL$SIOS-PIEUP$PANSIOS$IEUNG-KIYEOK$IEUNG-SSANGKIYEOK$SSANGIEUNG$IEUNG-KHIEUKH$YESIEUN",
    "G$YESIEUNG-SIOS$YESIEUNG-PANSIOS$PHIEUPH-PIEUP$KAPYEOUNPHIEUPH$HIEUH-NIEUN$HIEUH-RIEUL$HIE",
    "UH-MIEUM$HIEUH-PIEUP$YEORINHIEUH$KIYEOK-NIEUN$KIYEOK-PIEUP$KIYEOK-CHIEUCH$KIYEOK-KHIEUKH$K",
    "IYEOK-HIEUH$SSANGNIEUN!ETHIOPICwsmt$HU$HI$HAA$HEE$HE$HO$HOA$pj$LU$LI$LAA$LEE$LE$LO$LWA$HHA",
    "$HHU$HHI$HHAA$HHEE$HHE$HHO$HHWA$qj$MU$MI$MAA$MEE$ME$MO$MWA$SZA$SZU$SZI$SZAA$SZEE$SZE$SZO$S",
    "ZWA$tw$RU$RI$RAA$REE$RE$RO$RWA$up$SU$SI$SAA$SEE$SE$SO$SWA$vc$SHU$SHI$SHAA$SHEE$ve$SHO$SHWA",
    "$QA$QU$QI$QAA$QEE$QE$QO$QOA$QWA~$QWI$QWAA$QWEE$QWE~~$QHA$QHU$QHI$QHAA$QHEE$QHE$QHO~$QHWA~$",
    "QHWI$QHWAA$QHWEE$QHWE~~$BA$BU$BI$BAA$BEE$BE$BO$BWA$VA$VU$VI$VAA$VEE$VE$VO$VWA$wu$TU$TI$TAA",
    "$TEE$TE$xv$TWA$CA$CU$CI$CAA$CEE$CE$CO$CWA$XA$XU$XI$XAA$XEE$XE$XO$XOA$XWA~$XWI$XWAA$XWEE$XW",
    "E~~$rh$NU$NI$NAA$NEE$NE$NO$NWA$sb$NYU$NYI$NYAA$NYEE$NYE$NYO$NYWA$mnA%U%I%AA%EE%E%O%WA$os$K",
    "U$KI$KAA$KEE$KE$KO$KOA$KWA~$KWI$KWAA$KWEE$KWE~~$KXA$KXU$KXI$KXAA$KXEE$KXE$KXO~$KXWA~$KXWI$",
    "KXWAA$KXWEE$KXWE~~$WA$WU$WI$WAA$WEE$WE$WO$WOA$PHARYNGEAL A%U%I%AA%EE%E%O~$ZA$ZU$ZI$ZAA$ZEE",
    "$ZE$ZO$ZWA$ZHA$ZHU$ZHI$ZHAA$ZHEE$ZHE$ZHO$ZHWA$zp$YU$YI$YAA$YEE$YE$YO$YOA$jm$DU$DI$DAA$DEE$",
    "DE$DO$DWA$js$DDU$DDI$DDAA$DDEE$DDE$DDO$DDWA$JA$JU$JI$JAA$JEE$JE$JO$JWA$GA$GU$GI$GAA$GEE$GE",
    "$GO$GOA$GWA~$GWI$GWAA$GWEE$GWE~~$GGA$GGU$GGI$GGAA$GGEE$GGE$GGO$GGWAA$xe$THU$THI$THAA$THEE$",
    "xf$THO$THWA$ig$CHU$ik$CHAA$CHEE$CHE$CHO$CHWA$ta$PHU$tb$PHAA$PHEE$PHE$PHO$PHWA$yd$TSU$TSI$T",
    "SAA$TSEE$TSE$TSO$TSWA$TZA$TZU$TZI$TZAA$TZEE$TZE$TZO$TZOA$FA$FU$FI$FAA$FEE$FE$FO$FWA$ss$PU$",
    "PI$PAA$PEE$PE$PO$PWA$RYA$MYA$FYA~~#ismifzepvqo$<$mi:#uv:#WORDSPACE#mewg#it#ux#ir#PREFACE:#",
    "tuqo#suuy#kcsh$yl$xp$ma$lv$vq$uz$ks$rn#ryxc$yk$xm$ly$lq$vt$vb$kw$rp$nt$xcxn~~~#wsSEBATBEIT",
    " MWA$MWI$MWEE$MWE$SEBATBEIT BWA$BWI$BWEE$BWE$SEBATBEIT FWA$FWI$FWEE$FWE$SEBATBEIT PWA$PWI$",
    "PWEE$PWE#TONALqoYIZET%DERET%RIKRIK%vj:%DIFAT%KENAT%CHIRET%HIDET%DERET-HIDET%KURT~~~~~~!CHE",
    "ROKEEbA$E$I$O$U$.$GA$os$GE$GI$GO$GU$GV$mt$HE$HI$HO$HU$HV$pj$LE$LI$LO$LU$LV$qj$ME$MI$MO$MU$",
    "rh$HNA$NAH$NE$NI$NO$NU$NV$QUA$QUE$QUI$QUO$QUU$QUV$up$S$SE$SI$SO$SU$SV$jm$wu$DE$TE$DI$TI$DO",
    "$DU$DV$DLA$TLA$TLE$TLI$TLO$TLU$TLV$yd$TSE$TSI$TSO$TSU$TSV$WA$WE$WI$WO$WU$WV$zp$YE$YI$YO$YU",
    "$YV$MV~~#cbYE%YI%YO%YU%YV%MV~~!CANADIAN SYLLABICSnu$E$AAI$I$II$O$OO$zo:$idEE%I$A$AA$WE$zj:",
    "$WI$zj:$WII$zj:$WO$zj:$WOO$zj:$ri:$WA$zj:$WAA$zj:$ri:$AI$zoW$mnwg$lsgd%mo%htmvuj%xx;%ue;%:",
    "%kkgd&vjyxSTROKES%qtkg%vjnrwi%tf%knwv$EN$IN$ON$AN$PE$PAAI$PI$PII$PO$POO$zo:$idHEE%HI$ss$PA",
    "A$PWE$zj:$PWI$zj:$PWII$zj:$PWO$zj:$PWOO$zj:$PWA$zj:$PWAA$zj:$zo:$P$zj:$idH$TE$TAAI$TI$TII$",
    "xv$TOO$zo:$idDEE%DI$wu$TAA$TWE$zj:$TWI$zj:$TWII$zj:$yl$zj:$TWOO$zj:$TWA$zj:$TWAA$zj:$ri:$T",
    "$TTE$TTI$TTO$yg$KE$KAAI$KI$KII$KO$KOO$zo:$os$KAA$KWE$zj:$KWI$zj:$KWII$zj:$KWO$zj:$KWOO$zj:",
    "$KWA$zj:$KWAA$zj:$ri:$K$KW$SOUTH-SLAVEY KEH%KIH%KOH%KAH$CE$CAAI$CI$CII$CO$COO$zo:$CA$CAA$C",
    "WE$zj:$CWI$zj:$CWII$zj:$CWO$zj:$CWOO$zj:$CWA$zj:$CWAA$zj:$ri:$C$utTH$ME$MAAI$MI$MII$MO$MOO",
    "$zo:$qj$MAA$MWE$zj:$MWI$zj:$MWII$zj:$MWO$zj:$MWOO$zj:$MWA$zj:$MWAA$zj:$ri:$M$zj:$MH$ATHAPA",
    "SCAN M$ut:$NE$NAAI$NI$NII$NO$NOO$zo:$rh$NAA$NWE$zj:$NWA$zj:$NWAA$zj:$ri:$N$idNG$NH$LE$LAAI",
    "$LI$LII$LO$LOO$zo:$pj$LAA$LWE$zj:$LWI$zj:$LWII$zj:$LWO$zj:$LWOO$zj:$LWA$zj:$LWAA$zj:$L$zj:",
    "$qq:$SE$SAAI$SI$SII$SO$SOO$zo:$up$SAA$SWE$zj:$SWI$zj:$SWII$zj:$SWO$zj:$SWOO$zj:$SWA$zj:$SW",
    "AA$zj:$ri:$S$ATHAPASCAN:$SW$BLACKFOOT S$MOOSE-CREE SK$riSKW%S-W%SPWA%STWA%SKWA%SCWA$ve$SHI",
    "$SHII$SHO$SHOO$vc$SHAA$SHWE$zj:$SHWI$zj:$SHWII$zj:$SHWO$zj:$SHWOO$zj:$SHWA$zj:$SHWAA$zj:$S",
    "H$YE$YAAI$YI$YII$YO$YOO$zo:$zp$YAA$YWE$zj:$YWI$zj:$YWII$zj:$YWO$zj:$YWOO$zj:$YWA$zj:$YWAA$",
    "zj:$ri:$Y$BIBLE-CREE:$zj:$utYI$RE$R-CREE:$zjLE$RAAI$RI$RII$RO$ROO$zjLO$tw$RAA$zjpj$RWAA$zj",
    ":$R$zj:$qq:$FE$FAAI$FI$FII$FO$FOO$FA$FAA$FWAA$zj:$F$xf$N-CREE:$THI$N-CREE:$THII$N-CREE:$TH",
    "O$THOO$xe$THAA$THWAA$zj:$TH$TTHE$TTHI$TTHO$yh$TTH$TYE$TYI$TYO$TYA$NUNAVIK HE%HI%HII%HO%HOO",
    "%mt%HAA%H$NUNAVUT:$HK$QAAI$QI$QII$QO$QOO$QA$QAA$Q$TLHE$TLHI$TLHO$TLHA$zjRE%RI%RO%tw$NGAAI$",
    "NGI$NGII$NGO$NGOO$rm$NGAA$NG$NNG$utve%SHI%SHO%vc$WOODS-CREExf%THI%THO%xe%TH$LHI$LHII$LHO$L",
    "HOO$LHA$LHAA$LH$TH-CREExf%THI%THII%THO%THOO%xe%THAA%TH$AIVILIK B$BLACKFOOT E%I%O%A%WE%WI%W",
    "O%WA%NE%NI%NO%rh%KE%KI%KO%os$utHE%HI%HO%mt$idGHU%GHO%GHE%GHEE%GHI%mj%RU%RO%RE%REE%RI%tw%WU",
    "%WO%WE%WEE%WI%WA%HWU%HWO%HWE%HWEE%HWI%HWA%THU%THO%xf%THEE%THI%xe%TTU%TTO%TTE%TTEE%TTI%yg%P",
    "U%PO%PE%PEE%PI%ss%P%GU%GO%GE%GEE%GI%GA%KHU%KHO%KHE%KHEE%KHI%pb%KKU%KKO%KKE%KKEE%KKI%KKA%KK",
    "%NU%NO%NE%NEE%NI%rh%MU%MO%ME%MEE%MI%qj%YU%YO%YE%YEE%YI%zp%JU$ut:$idJO%JE%JEE%JI$ut:$idJA%J",
    "JU%JJO%JJE%JJEE%JJI%JJA%LU%LO%LE%LEE%LI%pj%DLU%DLO%DLE%DLEE%DLI%DLA%LHU%LHO%LHE%LHEE%LHI%L",
    "HA%TLHU%TLHO%TLHE%TLHEE%TLHI%TLHA%TLU%TLO%TLE%TLEE%TLI%TLA%ZU%ZO%ZE%ZEE%ZI%ZA%Z%ob:%DZU%DZ",
    "O%DZE%DZEE%DZI%DZA%SU%SO%SE%SEE%SI%up%SHU%SHO%ve%SHEE%SHI%vc%SH%TSU%TSO%TSE%TSEE%TSI%yd%CH",
    "U%CHO%CHE%CHEE%ik%ig%TTSU%TTSO%TTSE%TTSEE%TTSI%TTSA$ike$mewg$QAI$NGAI$NNGI$NNGII$NNGO$NNGO",
    "O$NNGA$NNGAA$WOODS-CREE THWEE%THWI%THWII%THWO%THWOO%THWA%THWAA%lsTH$BLACKFOOT W!OGHAMwaqo#",
    "bBEITH$LUIS$FEARN$SAIL$NION$UATH$DAIR$TINNE$COLL$CEIRT$MUIN$GORT$NGEADAL$STRAIF$RUIS$AILM$",
    "ONN$UR$EADHADH$IODHADH$EABHADH$OR$UILLEANN$IFIN$EAMHANCHOLL$PEITH#FEATHERqo#ub;~~~!RUNICbF",
    "EHU FEOH FE F$V$URUZ UR U$YR$Y$W$THURISAZ THURS THORN$ETH$ANSUZ A$OS O$AC A$AESC$LONG-BRAN",
    "CH-OSS O$SHORT-TWIG-OSS:$:$OE$ON$RAIDO RAD REID R$KAUNA$CEN$KAUN K$G$ENG$GEBO GYFU G$mh$WU",
    "NJO WYNN W$HAGLAZ H$HAEGL:$LONG-BRANCH-HAGALL:$SHORT-TWIG-HAGALL:$NAUDIZ NYD NAUD N$SHORT-",
    "TWIG-NAUD:$DOTTED-N$ISAZ IS ISS I$E$JERAN J$GER$LONG-BRANCH-AR AE$SHORT-TWIG-AR A$IWAZ EOH",
    "$PERTHO PEORTH P$ALGIZ EOLHX$SOWILO S$SIGEL LONG-BRANCH-SOL:$SHORT-TWIG-SOL:$C$Z$TIWAZ TIR",
    " TYR T$SHORT-TWIG-TYR:$D$BERKANAN BEORC BJARKAN B$SHORT-TWIG-BJARKAN:$DOTTED-P$OPEN-P$EHWA",
    "Z EH E$MANNAZ MAN M$LONG-BRANCH-MADR:$SHORT-TWIG-MADR:$LAUKAZ LAGU LOGR L$DOTTED-L$INGWAZ$",
    "ING$DAGAZ DAEG D$OTHALAN ETHEL O$EAR$IOR$CWEORTH$CALC$CEALC$STAN$LONG-BRANCH-YR$SHORT-TWIG",
    "-YR$ICELANDIC-YR$Q$X#vpto#rd:#jc:#ARLAUGwt#TVIMADUR:#BELGTHOR:#bK$SH$OO$FRANKS CASKET OS&I",
    "S&EH&AC&AESC~~~~~~~!TAGALOGbA$I$U$os$GA$rm$wu$jm$rh$ss$BA$qj$zp$tw$pj$WA$up$mt#zeeI%U#eza$",
    "PAMUDPOD~~~~~~~~~#bgutw!HANUNOObA$I$U$os$GA$rm$wu$jm$rh$ss$BA$qj$zp$tw$pj$WA$up$mt#zeeI%U#",
    "ePAMUDPOD!PHILIPPINEvpto#kk:~~~~~~~~~!BUHIDbA$I$U$os$GA$rm$wu$jm$rh$ss$BA$qj$zp$tw$pj$WA$u",
    "p$mt#zeeI%U"] },
  { first := 5984, lines := ["!TAGBANWAbA$I$U$os$GA$rm$wu$jm$rh$ss$BA$qj$zp~$pj$WA$up~#zeeI%U"] },
  { first := 6016, lines := [
    "!KHMERbos$pb$KO$KHO$NGO$CA$ig$CO$CHO$NYO$jm$yh$DO$TTHO$NNO$wu$xe$xv$THO$NO$BA$ta$PO$PHO$MO",
    "$YO$RO$LO$VO$vc$SSO$up$mt$pj$QA#nyzeQAQ%QAA%QI%QII%QU%QUK%QUU%QUUV%RY%RYY%LY%LYY%QE%QAI%QO",
    "O TYPEsh(yl%QAU#zeINHERENT AQ%AA$e:%I%II%Y%YY%U%UU%UA%OE%zp%IE%E%AE%AI%OO%AU#eNIKAHIT$REAH",
    "MUK$YUUKALEAPINTU$MUUSIKATOAN$TRIISAP$BANTOC$ROBAT$TOANDAKHIAT$KAKABAT$AHSDA$SAMYOK SANNYA",
    "$VIRIAM$COENG$BATHAMASAT$KHAN$BARIYOOSAN$CAMNUC PII KUUH$LEK TOO$BEYYAL$PHNAEK MUAN$KOOMUU",
    "T#CURRENCYwtRIEL#eAVAKRAHASANYA$ATTHACAN~~#kczy$sh$yl$xp$ma$lv$vq$uz$ks$rn~~~~~~#wtLEK ATT",
    "AK SON&MUOY&PII&BEI&BUON&PRAM&PRAM-MUOY&PRAM-PII&PRAM-BEI&PRAM-BUON~~~~~~!MONGOLIAN BIRGA#",
    "ELLIPSIS#it#mewg#ir#maki#TODO SOFTnu#SIBEwsBOUNDARY MARKER#MANCHUit$mewg#NIRUGU#FREE VARIA",
    "TION SELECTORsh&yl&xp#zeuy#FREE VARIATION SELECTORma#kczy$sh$yl$xp$ma$lv$vq$uz$ks$rn~~~~~~",
    "#bA$E$I$O$U$OE$UE$EE$rh$ANG$BA$ss$QA$GA$qj$pj$up$vc$wu$jm$ig$JA$zp$tw$WA$FA$os$pb$yd$ZA$HA",
    "A$ZRA$LHA$ZHI$ik$TODOqezee%E%I%O%U%OE%UE%ANG%BA%ss%QA%GA%qj%wu%jm%ig%JA%yd%zp%WA%os%GAA%HA",
    "A%JIA%NIA%DZA$SIBE E%I%IY%UE%U%ANG%os%GA%mt%ss%vc%wu%jm%JA%FA%GAA%HAA%yd%ZA%RAA%ig%ZHA$MAN",
    "CHU I%os%tw%FA%ZHA$igaylki~~~~~~~$ALI GALIgpsh&zb:&DAMARU&UBADAMA&oh:&BALUDA&xp:&A&I&os&rm",
    "&CA&yg&yh&js&rq&wu&jm&ss&ta&we&ZHA&ZA&AH$TODO ALI GALIwu(ZHA$MANCHU ALI GALImj(rm(CA(oq(yg",
    "(jt(wu(jw(we(CYA(ZHA(ZA$ALI GALImvU(zp$MANCHU ALI GALIhn$ALI GALI DAGALGA$MANCHU ALI GALI ",
    "LHA~~~~~!CANADIAN SYLLABICS OY$AY$AAY$WAY$POY$PAY$PWOY$TAY$KAY$KWAY$MAY$NOY$NAY$LAY$SOY$SA",
    "Y$SHOY$SHAY$SHWOY$YOY$YAY$RAY$NWI$OJIBWAY:$NWII$OJIBWAY:$NWO$OJIBWAY:$NWOO$OJIBWAY:$RWEE$R",
    "WI$RWII$RWO$RWOO$RWA$OJIBWAY P%T%K%C%M%.%S%SH$EASTERN W$WESTERN:$lscuj%txkg$R-CREE RWE$zjL",
    "OO%LAA$THWE$THWA$TTHWE$TTHOO$TTHAA$TLHWE$TLHOO$utSHWE%SHOO%HOO$idGWU%DENE GEE%GAA%GWA$utJU",
    "U$idJWA$BEAVER DENE L&R$idDENTAL S~~~~~~~~~~!LIMBU VOWEL-CARRIERb#bos$pb$GA$mj$rm$CA$ig$JA",
    "$oq$YAN$wu$xe$jm$jw$rh$ss$ta$BA$hn$qj$zp$tw$pj$WA$vc$we$up$mt$GYAN$TRA~#zeeA%I%U%EE%AI%OO%",
    "AU%E%O#wkbzp%tw%WA~~~~#cbos%rm%gp%wu%rh%ss%qj%tw%pj#eMUKPHRENG$KEMPHRENG$SA-I~~~~$LOO~~~#l",
    "fqo#tu:#kczy$sh$yl$xp$ma$lv$vq$uz$ks$rn!TAI LEbos%XA%rm%yd%up%zp%wu%xe%pj%ss%ta%qj%FA%VA%m",
    "t%QA%pb%ye%rh%A%I%EE%EH%U%OO%O%UE%E%AUE%AI~~%TONE-2%.%.%.%."] },
  { first := 6528, lines := [
    "!NEW TAI LUEbnmQA&qg:&nmos(XA(rm&qgos(XA(rm&nmyd(up(zp&qgyd(up(zp&nmwu(xe(rh&qgwu(xe(rh&nm",
    "ss(ta(qj&qgss(ta(qj&nmFA(VA(pj&qgFA(VA(pj&nmmt(jm(BA&qgmt(jm(BA&nmKVA(XVA&qgKVA(XVA&nmSUA&",
    "qg:~~~~%zeezeSHORTENER(AA(II(U(UU(E(AE(O(OA(UE(AY(AAY(UY(OY(OAY(UEY(IY%blsV(NG(N(M(K(D(B%x",
    "wMARK-1&.~~~~~~%kczy&sh&yl&xp&ma&lv&vq&uz&ks&rn%THAMkcsh~~~%eLAE&LAEV!KHMERwtPATHAMASAT$MU",
    "OY KOET$PII:$BEI:$BUON:$PRAM:$PRAM-MUOY:$PRAM-PII:$PRAM-BEI:$PRAM-BUON:$DAP:$DAP-MUOY:$DAP",
    "-PII:$DAP-BEI:$DAP-BUON:$DAP-PRAM:$TUTEYASAT$MUOY ROC$PII:$BEI:$BUON:$PRAM:$PRAM-MUOY:$PRA",
    "M-PII:$PRAM-BEI:$PRAM-BUON:$DAP:$DAP-MUOY:$DAP-PII:$DAP-BEI:$DAP-BUON:$DAP-PRAM:!BUGINESEb",
    "os$GA$rm$NGKA$ss$BA$qj$MPA$wu$jm$rh$NRA$CA$JA$sb$NYCA$zp$tw$pj$VA$up$A$mt#zeeI%U%E%O%AE~~#",
    "PALLAWA#kzscuv!TAI THAMbnmos&pb&KXA%qgos&KXA&pb%rm%nmCA&ig%qgCA&up&ig%sb%RATA%nmRATHA%jm%q",
    "gRATHA%RANA%nmwu&xe%qgwu&xe%rh%BA%nmss&ta&FA%qgss&FA&ta%qj%qgzp%nm:%tw%RUE%pj%LUE%WA%nmvc&",
    "we&up&mt%qc%A%qgmt%I%II%U%UU%EE%OO%LAE%GREATup$iweqqtw(pj&pjTANG LAI$eMAI KANG:$iwelsrm&qg",
    "ss&nmRATHA OR;&qj&BA&up~$eSAKOT$zeeA&MAI SAT&AA&TALL:&I&II&UE&UUE&U&UU&O&OAhh&OY&E&AE&OO&A",
    "I&THAM:&OAgb$eMAI KANG%TONE-1%.%KHUEN TONE-3&.&.%twHAAM%MAI SAM%KHUEN-LUE KARAN~~$isjgkg$H",
    "ORAkczy&sh&yl&xp&ma&lv&vq&uz&ks&rn~~~~~~$THAMkczy&sh&yl&xp&ma&lv&vq&uz&ks&rn~~~~~~$eWIANG%",
    "WIANGWAAK%SAWAN%KEOW%HOY%DOKMAI%ubulRANA%MAI YAMOK%KAAN%KAANKUU%SATKAAN%SATKAANKUU%HANG%CA",
    "ANG~~!isDOUBLEDiogc#DIAERESIS-RING#INFINITY#kpgw#yckg#X-Xhh#WIGGLYqa:#siqo:#kk<#pzCENTRALI",
    "ZATIONwi:#STRONG<#PARENTHESESgb#kk;#PARENTHESEShh$sq#pqcbWhh&yi;#prswgbpr#ueswgbue#prswhhp",
    "r#ueswhhue#wcBRACKETSgb#rye:#ohkkARCH:#tfe:#kk<&hh#ycgdgc#pqcbodG(R(T"] },
  { first := 6912, lines := [
    "!BALINESEeULU RICEM%ia$CECEK$SURANG$BISAH#bAKARA%xa$IKARA%xa$UKARA%xa$twREPA&xa$pjLENGA&xa",
    "$EKARA$AIKARA$OKARA%xa$os%qm$GA%GORA$rm$CA%LACA$JA%JERA$sb$wuLATIK%rfqm$jmrfALPAPRANA&qm$r",
    "hRAMBAT$wu%TAWA$jm%MADU$rh$ss%KAPAL$BA%KEMBANG$qj$zp$tw$pj$WA$upSAGA%SAPA%$mt#eREREKAN#zee",
    "xa%ULU&SARI%SUKU&ILUT%twREPA(xa%pjLENGA(xa%TALING&REPA&xa&REPA:%PEPET&xa#ADEG ADEG#botSASA",
    "K$KHOT:$TZIR:$EF:$VE:$ZAL:$ASYURA:$guJNYA~~~#kczy$sh$yl$xp$ma$lv$vq$uz$ks$rn#PANTI#PAMADA#",
    "WINDU#CARIK PAMUNGKAH$SIKI$PAREREN#PAMENENG#rgwtDONG%DENG%DUNG%DANG&SURANG%DING%DAENG%DEUN",
    "G%DAING%DANG GEDE%isTEGEH&ENDEP&KEMPUL&KEMPLI&JEGOGAN&KEMPULa:&KEMPLI;&BENDE&GONG%RIGHT-HA",
    "NDsiDUG(DAG&iqTUK(TAK%LEFT-HANDsiPANG(PUNG&iqPLAK(PLUK&siPING#PANTI LANTANG#PAMADA:~!SUNDA",
    "NESEePANYECEK$PANGLAYAR$PANGWISAD#bA$I$U$AE$O$E$EU$os$QA$GA$rm$CA$JA$ZA$sb$wu$jm$rh$ss$FA$",
    "VA$BA$qj$zp$tw$pj$WA$up$XA$mt#iwePAMINGKAL%PANYAKRA%PANYIKU#zeePANGHULU%PANYUKU%PANAELAENG",
    "%PANOLONG%PAMEPET%PANEULEUNG#ePAMAAEH$za#iwePASANGANqj&WA#bpb$SYA#kczy$sh$yl$xp$ma$lv$vq$u",
    "z$ks$rn#hc#bREU$LEU$hn$lsK%M!BATAKbA$vo:$mt$vo:$MANDAILING:$BA$KARO:$ss$vo:$rh$MANDAILING:",
    "$WA$vo:$PAKPAK:$GA$vo:$JA$jm$tw$vo:$qj$vo:$SOUTHERNwu$NORTHERN:$up$vo:$MANDAILING:$zp$vo:$",
    "rm$pj$vo:$sb$CA$NDA$MBA$I$U#eTOMPI#zeeE%PAKPAK:%EE%I%KARO:%O%KARO:%U&lwvoup#iweNG%H#PANGOL",
    "AT#PANONGONAN~~~~~~~~#wtBINDUrhMETEK%PINARBORAS%JUDUL%PANGOLAT!LEPCHAbos$KLA$pb$GA$GLA$rm$",
    "CA$ig$JA$sb$wu$xe$jm$rh$ss$PLA$ta$FA$FLA$BA$BLA$qj$MLA$yd$ye$DZA$zp$tw$pj$mt$HLA$VA$up$vc$",
    "WA$A#wkbzp%tw#zeeAA%I%O%OO%U%UU%E#iweK%M%L%N%P%R%T%NYIN-DO%KANG#eRAN$rx~~~#toTA-ROL$NYET T",
    "HYOOM:$CER-WA$TSHOOK:%#kczy$sh$yl$xp$ma$lv$vq$uz$ks$rn~~~#byg$yh$js!OL CHIKIkczy%sh%yl%xp%",
    "ma%lv%vq%uz%ks%rn$bpj%AT%AG%ANG%AL%LAA%AAK%AAJ%AAM%AAW%LI%IS%IH%INY%IR%LU%UC%UD%UNN%UY%LE%",
    "EP%EDD%EN%ERR%LO%OTT%OB%OV%OH$MU TTUDDAG$GAAHLAA TTUDDAAG$MU-GAAHLAA:$RELAA$PHAARKAA$AHAD$",
    "toMUCAAD%kk:!jlcbuoVE%LONG-LEGGED DE%NARROW O%WIDE ES%TALL TE%THREE-LEGGED:%TALL HARDe&YAT",
    "%UNBLENDED UK~~~~~~~!GEORGIAN MTAVRULIdbAN&BAN&GAN&DON&EN&VIN&ZEN&TAN&IN&KAN&LAS&MAN&NAR&O",
    "N&PAR&ZHAR&RAE&SAN&TAR&UN&PHAR&KHAR&GHAN&QAR&vi&CHIN&CAN&JIL&CIL&CHAR&XAN&JHAN&HAE&HE&HIE&",
    "WE&HAR&HOE&FI&YN&ELIFI&yiGAN&ge~~&AEN&HARDe&LABIAL:!SUNDANESEtoBINDU SURYA%PANGLONG%PURNAM",
    "A%CAKRA%LEU SATANGA%os:%jm:%BA:~~~~~~~~!VEDICxwKARSHANA$SHARA$PRENKHA#eNIHSHVASA$YAJURVEDI",
    "C MIDLINE SVARITA#xwYAJURVEDIC AGGRAVATEDny:%;%KATHAKA;$iahh$YAJURVEDIC KATHAKAnySVARITA S",
    "CHROEDER$kkSVARITA$yc:$KATHAKA ANUDATTA$kghh$ylki:$xp;$RIGVEDIC KASHMIRInySVARITA$ATHARVAV",
    "EDIC;#ezb:%UDATTA$ub;$zbANUDATTA$ub;$zbUDATTAawx%ANUDATTA;$gpANTARGOMUKHA%BAHIRGOMUKHA%VAM",
    "AGOMUKHA&awx$TIRYAK$HEXIFORMqegp$;$RTHANG;$gpUBHAYATO MUKHA$ARDHAVISARGA$ul:#xwiagb#eor$yr",
    "$ATIKRAMA#xwujgb$kk;#ekkgpANTARGOMUKHA~~~~~!pqbcdA&AE#cbyi:#bcdhgB&C&.&ETH&E#cbyisi:&I#bcd",
    "J&.&Lawi&M&ubN&O&si:#cbvm:&si:&Oawi%yiOE#bcdOU#cbxxmvO%ht;#bcdP&ubR&yi:&T&.#cbvm:&DIAERESI",
    "ZED:&yiM#bcdV&.&Z&EZH$zdLARYNGEAL SPIRANT$ge!mqbcdmf&pm&PI&uc&PSI!jlbcdEL!qvbdA%AE%B%hg:%D",
    "%.%ub:%G%.%.%.%.%.%.%.%ub:%O%OU%P%R%T%.%W$cA%yi:%gj%yiAE%B%D%.%SCHWA%siE%yi;%G%yiI%K%M%ENG",
    "%O%si:%xxmv:%ht;%P%T%.%vm:%yiM%V%ge%hk%mqmf%ju%mqtb%ik!pqwmcbI&R&U&.!mqwmcbhk&mf&uc&tb&ik!",
    "pqcbUE%Baqtxt%D<%F<%M<%.<%P<%R<(luf;%Sa;%.<%Z<%yiG!qvbjlEN!pqcbodG%THaSTRIKETHROUGH$dbIawi",
    "$boi;%P;$dbU;$byt;%Bastnq%D<%F<%.<%K<%.<%.<%.<%P<%R<%.<%ESH<%V<%X<%Z<%Aatz:%gj<%Danqfwx%Ea",
    "tznq%si=%ub>%SCHWA<%I<%siO<%ESH<%U<%EZH<!qvbcyigj%C&ajh%ETH%ubsiE%F%khJawi%uuG%yiH%Iawi%oi",
    "%dI(awi%Jaje%Latznq(st:%dL%Manq%yiMaqeLEG%Naprnq(tz:%dN%hgO%tb%Sanq%ESH%Tastnq%Uhe%yt%dU%V",
    "anq%yiV%Z&atznq(jh%EZH%xh!iskjmogc$gd:#SNAKEhh#SUSPENSIONqo#MACRON-ACUTE#GRAVE-MACRON#MACR",
    "ON-GRAVE#ACUTE-MACRON#GRAVE-ACUTE-GRAVE#ACUTE-GRAVE-ACUTE#pqcbRhh#BREVE-MACRON#MACRON-BREV",
    "E#kkiogb#sd:#zzhh#IS:#URgb#US:#pqcbFLATTENEDsiA:&AE&AO&AV&Cie&odD&ETH&G$bcd:$cbK&.$bcd:(.$",
    "cbN$bcd:(R$cbR ROTUNDA&S&qe:&Z&gj&B&hk&SCHWA&F&Lakkqtxt&OapzCENTRALIZATIONwi&P&ESH&UapzCEN",
    "TRALIZATIONwi&W&Aajx&O;&U;#ypwvgb#KAVYKAgbue%pr#kg;#WIDEohBRIDGEhh#kghhpr#DELETIONqo#kkohh",
    "whh#ghlcxv:#prgxgb#uegxfkngxhh!pqdbAauj:#c>#dbBakggb#c>#dbBakghh#c>#dbBaqa:#c>#dbCaiefgd#c",
    "?#dbDakggb#c>#dbDakghh#c>#dbDaqa:#c>#dbDaie#c=#dbDaiohh#c>#dbEaqkfmo#c?#dbEaqkfgd#c?#dbEai",
    "ohh#c>#dbEaxt:#c>#dbEaiefhw#c?#dbFakggb#c>#dbGaqk#c=#dbHakggb#c>#dbHakghh#c>#dbHajx#c=#dbH",
    "aie#c=#dbHahwhh#c>#dbIaxt:#c>#dbIajxfgd#c?#dbKa:#c=#dbKakghh#c>#dbKaqa:#c>#dbLakg:#c>#dbLa",
    "kghhfqk#c@#dbLaqahh#c>#dbLaio:#c>#dbMagd#c=#dbMakggb#c>#dbMakghh#c>#dbNakggb#c>#dbNakghh#c",
    ">#dbNaqa:#c>#dbNaio:#c>#dbOaxtfgd#c?#dbOaxtfjx#c?#dbOaqkfmo#c?#dbOaqkfgd#c?#dbPa:#c=#dbPak",
    "ggb#c>#dbR<#c>#dbRakghh#c>#dbRakghhfqk#c@#dbRaqahh#c>#dbSakggb#c>#dbSakghh#c>#dbSagdfkggb#",
    "c@#dbSaic<#c@#dbSakghh<#cb@#dbTa;#c>#dbTakghh#c>#dbTaqa:#c>#dbTaio:#c>#dbUajx:#c>#dbUaxt:#",
    "c>#dbUaio:#c>#dbUaxtfgd#c?#dbUaqkfjx#c?#dbVaxt#c=#dbVakghh#c>#dbWamo#c=#dbWagd#c=#dbWajx#c",
    "=#dbWakggb#c>#dbWakghh#c>#dbXakggb#c>#dbXajx#c=#dbYakggb#c>#dbZaio#c=#dbZakghh#c>#dbZaqa:#",
    "c>%H<%Tajx%Waujgb%Y<%Aauemvuj%qeSakggb)jywi)nm:#dbSHARP S#cbju#dbAakghh#c>#dbAanqgb#c>#dbA",
    "aiofgd#c?#dbAaiofmo#c?#dbAaiofnqgb#c@#dbAaiofxt#c?#dbAaiofkghh#c@#dbAahwfgd#c?#dbAahwfmo#c",
    "?#dbAahwfnqgb#c@#dbAahwfxt#c?#dbAahwfkghh#c@#dbEa;#c>#dbEanqgb#c>#dbEaxt#c=#dbEaiofgd#c?#d",
    "bEaiofmo#c?#dbEaiofnqgb#c@#dbEaiofxt#c?#dbEaiofkghh#c@#dbIanqgb#c>#dbIakghh#c>#dbO<#c>#dbO",
    "anqgb#c>#dbOaiofgd#c?#dbOaiofmo#c?#dbOaiofnqgb#c@#dbOaiofxt#c?#dbOaiofkghh#c@#dbOansfgd#c?",
    "#dbOansfmo#c?#dbOansfnqgb#c@#dbOansfxt#c?#dbOansfkghh#c@#dbUa;#c>#dbUanqgb#c>#dbUansfgd#c?",
    "#dbUansfmo#c?#dbUansfnqgb#c@#dbUansfxt#c?#dbUansfkghh#c@#dbYamo#c=#dbYakghh#c>#dbYanqgb#c>",
    "#dbYaxt#c=#dbMIDDLE-WELSH LL#c<#dbMIDDLE-WELSH V#c<#dbYaqf#c=!mqcbgjatn(jr(tnfyv(jr;(tnfsr",
    "(jr;(tnfsy(jr;#dbgjatn(jr(tnfyv(jr;(tnfsr(jr;(tnfsy(jr;#cblbatn(jr(tnfyv(jr;(tnfsr(jr;~~#d",
    "blbatn(jr(tnfyv(jr;(tnfsr(jr;~~#cbETAatn(jr(tnfyv(jr;(tnfsr(jr;(tnfsy(jr;#dbETAatn(jr(tnfy",
    "v(jr;(tnfsr(jr;(tnfsy(jr;#cboiatn(jr(tnfyv(jr;(tnfsr(jr;(tnfsy(jr;#dboiatn(jr(tnfyv(jr;(tn",
    "fsr(jr;(tnfsy(jr;#cbsgatn(jr(tnfyv(jr;(tnfsr(jr;~~#dbsgatn(jr(tnfyv(jr;(tnfsr(jr;~~#cbytat",
    "n(jr(tnfyv(jr;(tnfsr(jr;(tnfsy(jr;~#dbytajr~)fyv~*sr~*sy#cbsfatn(jr(tnfyv(jr;(tnfsr(jr;(tn",
    "fsy(jr;#dbsfatn(jr(tnfyv(jr;(tnfsr(jr;(tnfsy(jr;#cbgjayv(sr%lbayv(sr%ETAayv(sr%oiayv(sr%sg",
    "ayv(sr%ytayv(sr%sfayv(sr~~%gjatnfzt(jr;(tnfyv;(jr=(tnfsr;(jr=(tnfsy;(jr=#dbgjatnftm(jr;(tn",
    "fyv;(jr=(tnfsr;(jr=(tnfsy;(jr=#cbETAatnfzt(jr;(tnfyv;(jr=(tnfsr;(jr=(tnfsy;(jr=#dbETAatnft",
    "m(jr;(tnfyv;(jr=(tnfsr;(jr=(tnfsy;(jr=#cbsfatnfzt(jr;(tnfyv;(jr=(tnfsr;(jr=(tnfsy;(jr=#dbs",
    "fatnftm(jr;(tnfyv;(jr=(tnfsr;(jr=(tnfsy;(jr=#cbgjaVRACHY(qk(yvfzt(:(srf:~(sy)fzt#dbgjaVRAC",
    "HY(qk(yv(sr(tm#KORONIS#tm#tn#sy#jzf:#cbETAayvfzt(:(srf:~(sy)fzt#dblbayv(sr%ETAayv(sr(tm#tn",
    "fyv%sr%sy#cboiaVRACHY(qk(jzfyv*sr~~(sy(jzf:#dboiaVRACHY(qk(yv(sr~#jrfyv%sr%sy#cbytaVRACHY(",
    "qk(jzfyv*sr%ucatn(jr%ytasy(jzf:#dbytaVRACHY(qk(yv(sr%ucajr#jzfyv%sr#yv~~#cbsfayvfzt(:(srf:",
    "~(sy)fzt#dbsgayv(sr%sfayv(sr(tm#sr#jr~!EN QUAD!EM:!ENwa!EM:!THREE-PER-EM:!FOUR-PER-EM:!SIX",
    "-PER-EM:!FIGURE:!to:!THIN:!HAIR:!zyWIDTH:$NON-JOINER$JOINER!ptqo!uh:!nu!NON-BREAKING:!FIGU",
    "REjq!EN:!EM:!nrhe!kkyxqa#qg:!prvptvqo!ue<!vpLOW-9;#HIGH-REVERSED-9;!prkk;!ue<!kkLOW-9;#HIG",
    "H-REVERSED-9;!DAGGER!kk:!hx!yb:!shkgLEADER!yl;!nrELLIPSIS!HYPHENATIONtg!qauy!su:!ptEMBEDDI",
    "NG!uh:!POP DIRECTIONAL FORMATTING!ptOVERRIDE!uh:!NARROW NO-BREAKwa!PER MILLEe#xcxn:!PRIME!",
    "kk:!yc:!ub:#kk:#yc:!CARET!vppsgntvqo#ug<!REFERENCE:!kklf:!INTERROBANG!OVERLINE!UNDERTIE!ih",
    "TIE!CARET INSERTIONtg!ASTERISM!nuhx!mcvv!prwchvaQUILL!ue=!kktuqo!tulf:!lftu:!TIRONIANeET!u",
    "bPILCROWe!hppuhx#ui:!qgha!ubux!CLOSEyp!ylASTERISKS ALIGNEDyy!iuque!SWUNGjq!ohUNDERTIE!FLOW",
    "ERtoqo!xpkgto!tqPRIME!makgto!lv;!yl;!makgqo!kjjc!TRICOLON!yxmaki!qrqpwa!zlJOINER!FUNCTION ",
    "APPLICATION!INVISIBLExu#uy#tf~!ptISOLATE!uh:!FIRST STRONG:!POP DIRECTIONAL:!INHIBIT SYMMET",
    "RIC SWAPPING!ACTIVATE;!INHIBITgslxSHAPING!ACTIVATE<!NATIONALkcSHAPES!NOMINAL;!wpzy#pqcbI~~",
    "#ma#lv#vq#uz#ks#rn#tfe#qu#lde#prsw#ue:#pqcbN!wmzy#sh#yl#xp#ma#lv#vq#uz#ks#rn#tfe#qu#lde#pr",
    "sw#ue:~!pqwmcbA&E&O&X&SCHWA&H&K&.&.&.&P&S&.~~~!EURO-CURRENCYe!ir:!CRUZEIRO:!FRENCH FRANC:!",
    "LIRA:!MILL:!NAIRA:!PESETA:!RUPEE:!WON:!NEW SHEQEL:!DONG:!EURO:!KIP:!TUGRIK:!DRACHMA:!GERMA",
    "N PENNY:!PESO:!GUARANI:!AUSTRAL:!HRYVNIA:!CEDI:!LIVRE TOURNOIS:!SPESMILO:!TENGE:!INDIAN RU",
    "PEE:!TURKISH LIRA:!NORDICqo:!MANAT:!RUBLE:!LARI:!BITCOIN:!SOM:"] }]

end QueryTelemetry.Text.Name
