import QueryTelemetry.Text.Name.Run

/-!
# Names of ancient letters

Names of the characters from U+10000 to U+1BBFF: scripts that are no longer in use, and a few that
are.
-/

namespace QueryTelemetry.Text.Name

/-- The names from U+10000 to U+1BBFF. -/
def ancient : List Run := [
  { first := 65664, lines := [
    "!LINEAR B IDEOGRAM B100 MAN%B102 WOMAN%B104 DEER%B105 EQUID%B105F MARE%B105M STALLION%B106",
    "F EWE%B106M RAM%B107F SHE-GOAT%B107M HE-GOAT%B108F SOW%B108M BOAR%B109F COW%B109M BULL%B12",
    "0 WHEAT%B121 BARLEY%B122 OLIVE%B123 SPICE%B125 CYPERUS$qwB127 KAPO%B128 KANAKO$IDEOGRAM B1",
    "30 OIL%B131 WINE%B132$qwB133 AREPA%B135 MERI$IDEOGRAM B140 BRONZE%B141 GOLD%B142%B145 WOOL",
    "%B146%B150%B151ns%B152%.%.$qwB156 TURO2$IDEOGRAM B157%.%B159 CLOTH%B160%.%B162 GARMENT%B16",
    "3 ARMOUR%B164%.%.%.%.%.%.%.%.%B173 MONTH%B174%B176 TREE%B177%.%.%.%.%.%.%.%.%B189%.%B191 H",
    "ELMET%B220 FOOTSTOOL%B225 BATHTUB%B230 SPEAR%B231gw%B232%B233 SWORD%B234%B236%B240 WHEELED",
    " CHARIOT%B241:%B242 CHARIOT FRAME%B243 WHEEL%B245%.$qwB247 DIPTE$IDEOGRAM B248%.%B251%.%.%",
    "B254 DART%B255%.%.%.%.%VESSEL B155&B200&.&.&.&.&.&.&.&.&.&.&.&.&.&.&.&.&.&.&.&B221&.&B226&",
    ".&.&.&B250&B305~~~~~!AEGEANzluyqa%kg#iiqo~~~~#rysh$yl$xp$ma$lv$vq$uz$ks$rn$xc$yk$xm$ly$lq$",
    "vt$vb$kw$rp$shnt$yl:$xp:$ma:$lv:$vq:$uz:$ks:$rn:$shxn$yl:$xp:$ma:$lv:$vq:$uz:$ks:$rn:$xc:$",
    "yk:$xm:$ly:$lq:$vt:$vb:$kw:$rp:~~~#WEIGHT BASE UNIT$FIRST SUBUNIT$SECOND:$xj:$FOURTH:#DRY ",
    "MEASURE FIRST:#LIQUID<#MEASURE SECOND:$xj:!mqACROPHONIC ATTICshtr&mv&DRACHMA%lv%lq%lvnt&xn",
    "%lq:%lvTALENTS%xc:%lq:%shnt:%lv;%shxn:%lv;&STATERS%xc:%lq:%shnt:%lv;%shxn:%xc;%lq;%xcMNAS$",
    "HERAEUMshPLETHRON$xgsh$HERMIONIAN:$EPIDAUREANyl$xg:$CYRENAICylDRACHMAS$EPIDAUREAN;$TROEZEN",
    "IANlv%xc&gklx$HERMIONIANxc$MESSENIAN:$xg:%xm$TROEZENIANlq&gklx$HERMIONIANlq$xg:%shnt%xp:$E",
    "PIDAUREANlv:$TROEZENIAN;$xg;$CARYSTIAN;$NAXIAN;$xgshxn%lv:$DELPHIClvMNAS$STRATIANlq:#shmve",
    "&gklx#ylxke#xpts:#YEAR:#TALENT:#DRACHMA:#OBOL:#ylOBOLS:#xp;#ma;#lv;#METRETES:#KYATHOS BASE",
    ":#LITRA:#OUNKIA:#XESTES:#ARTABE:#AROURA:#GRAMMA:#TRYBLION BASE:#zy:#shtr:#SINUSOID:#INDICT",
    "ION:!NOMISMA:~!ROMAN SEXTANS:#UNCIA:#SEMUNCIA:#SEXTULA:#DIMIDIA;#SILIQUA:#DENARIUS:#QUINAR",
    "IUS:#SESTERTIUS:#DUPONDIUS:#AS:#CENTURIAL:!ASCIAwt~~~!mqwtTAUuc"] },
  { first := 66000, lines := [
    "!PHAISTOS DISCePEDESTRIAN%PLUMEDnh%TATTOOED:%CAPTIVE%CHILD%WOMAN%HELMET%GAUNTLET%TIARA%gw%",
    "BOW%SHIELD%CLUB%MANACLES%MATTOCK%SAW%LID%BOOMERANG%CARPENTRY PLANE%DOLIUM%COMB%SLING%COLUM",
    "N%BEEHIVE%SHIP%ns%HIDE%BULLS LEG%CAT%RAM%EAGLE%DOVE%TUNNY%BEE%PLANE TREE%VINE%PAPYRUS%ROSE",
    "TTE%LILY%OX BACK%FLUTE%GRATER%STRAINER%cAXE%WAVY BAND%isOBLIQUEwi"] },
  { first := 66176, lines := [
    "!LYCIANbA$E$B$BH$G$D$I$W$Z$TH$J$.$Q$L$.$.$MM$NN$U$P$KK$R$.$.$TT$AN$EN$H$X~~~!CARIANbA$P2$D",
    "$L$UUU$R$LD$A2$Q$B$M$O$D2$T$SH$SH2$S$C-18$U$NN$X$N$TT2$P$SS$I$E$UUUU$K$K2$ND$UU$G$G2$ST$ST",
    "2$NG$II$C-39$TT$UUU2$RR$MB$MB2$.$.$LD2$E2$UUU3"] },
  { first := 66272, lines := [
    "!izEPACTxoqo$kcsh%yl%xp%ma%lv%vq%uz%ks%rn$ryxc%yk%xm%ly%lq%vt%vb%kw%rp%shnt%yl:%xp:%ma:%lv",
    ":%vq:%uz:%ks:%rn:~~~~!seolbA%BE%KE%DE%E%VE%ZE%HE%xf%I%os%EL%EM%EN%ESH%O%PE%ve%KU%ER%ES%TE%",
    "U%EKS%PHE%KHE%EF%ERS%CHE%II%UU%ESS$rzsh%lv%xc%lq~~~~~~~~~$bYE%NORTHERN TSE%SOUTHERN:!GOTHI",
    "CbAHSA$BAIRKAN$GIBA$DAGS$AIHVUS$QAIRTHRA$IUJA$HAGL$THIUTH$EIS$KUSMA$LAGUS$MANNA$NAUTHS$JER",
    "$URUS$PAIRTHRA$rp$RAIDA$SAUIL$TEIWS$WINJA$FAIHU$IGGWS$HWAIR$OTHAL$rnnt~~~~~!sePERMICbAN%BU",
    "R%GAI%DOI%E%ZHOI%DZHOI%ZATA%DZITA%I%KOKE%LEI%MENOE%NENOE%VOOI%PEEI%REI%SII%TAI%U%CHERY%SHO",
    "OI%SHCHOOI%YRY%YERU%O%OO%EF%mt%TSIU%VER%YER%YERI%YAT%IE%YU%zp%IA!issePERMICbAN&DOI&ZATA&NE",
    "NOE&SII~~~~~!UGARITICbALPA$hk$GAMLA$pb$ju$HO$WO$ZETA$HOTA$TET$YOD$ot$vi$pm$MEM$DHAL$sa$ZU$",
    "SAMKA$ge$PU$SADE$QOPA$RASHA$THANNA$mk$xv$I$U$SSU~#zlDIVIDER!sePERSIANeA%I%U%os%KU%GA%GU%XA",
    "%CA%JA%JI%wu%TU%jm%DI%DU%xe%ss%BA%FA%rh%NU%qj%MI%MU%zp%VA%VI%tw%RU%pj%up%ZA%vc%we%mt~~~~%A",
    "URAMAZDAA%AURAMAZDAA-2%AURAMAZDAAHA%XSHAAYATHIYA%DAHYAAUSH%DAHYAAUSH-2%BAGA%BUUMISH$zlDIVI",
    "DER$rysh%yl%xc%yk%nt"] },
  { first := 66560, lines := [
    "!DESERETdbqeI&E&A&AH&O&OO%vjI&E&A&AH&O&OO%AY%OW%WU%YEE%H%PEE%BEE%TEE%DEE%CHEE%JEE%KAY%GAY%",
    "EF%VEE%ETH%THEE%ES%ZEE%ESH%ZHEE%ER%EL%EM%EN%ENG%OI%EW#cbqeI&E&A&AH&O&OO%vjI&E&A&AH&O&OO%AY",
    "%OW%WU%YEE%H%PEE%BEE%TEE%DEE%CHEE%JEE%KAY%GAY%EF%VEE%ETH%THEE%ES%ZEE%ESH%ZHEE%ER%EL%EM%EN%",
    "ENG%OI%EW!SHAVIANbPEEP$TOT$KICK$FEE$THIGH$SO$SURE$CHURCH$YEA$HUNG$BIB$DEAD$GAG$VOW$THEY$ZO",
    "O$MEASURE$JUDGE$WOE$HA-HA$LOLL$MIME$IF$EGG$gz$ADO$ON$WOOL$OUT$AH$ROAR$sa$EAT$AGE$ICE$yp$OA",
    "K$OOZE$OIL$AWE$ARE$OR$AIR$ERR$ARRAY$EAR$IAN$YEW!OSMANYAbgf$BA$wu$JA$XA$pb$DEEL$tw$up$SHIIN",
    "$jw$CAYN$GA$FA$QAAF$KAAF$LAAN$MIIN$NUUN$zh$mt$zp$A$E$I$O$U$AA$EE$OO~~#kczy$sh$yl$xp$ma$lv$",
    "vq$uz$ks$rn~~~~~~!OSAGEdbA%AI%ge%AH%BRA%ig%EHCHA%E%EIN%mt%HYA%I%os%EHKA%KYA%pj%qj%rh%O%OIN",
    "%ss%EHPA%up%vc%wu%EHTA%yd%EHTSA%ye%jw%U%WA%pb%mj%ZA%ZHA~~~~#cbA%AI%ge%AH%BRA%ig%EHCHA%E%EI",
    "N%mt%HYA%I%os%EHKA%KYA%pj%qj%rh%O%OIN%ss%EHPA%up%vc%wu%EHTA%yd%EHTSA%ye%jw%U%WA%pb%mj%ZA%Z",
    "HA~~~~!ELBASANbA$BE$CE$CHE$DE$NDE$DHE$EI$E$FE$GE$GJE$HE$I$JE$KE$LE$LLE$ME$NE$rh$NJE$O$PE$Q",
    "E$RE$RRE$SE$ve$TE$xf$U$VE$XE$Y$ZE$ZHE$GHE$GHAMMA$KHE~~~~~~~~!CAUCASIAN ALBANIANbALT%BET%GI",
    "M%DAT%EB%ZARL%EYN%ZHIL%TAS%ig%YOWD%ZHA%IRB%vc%LAN%INYA%XEYN%DYAN%CAR%JHOX%KAR%LYIT%HEYT%QA",
    "Y%AOR%CHOY%ik%CYAY%MAQ%QAR%NOWC%DZYAY%SHAK%JAYN%ON%TYAY%FAM%DZAY%CHAT%PEN%GHEYS%RAT%SEYK%V",
    "EYZ%TIWR%SHOY%IWN%CYAW%CAYN%YAYD%PIWR%KIW"] },
  { first := 66927, lines := [
    "!CAUCASIAN ALBANIAN CITATIONqo!VITHKUQIdbA%BBE%BE%CE%CHE%DE%DHE%EI%E%FE%GA~%mt%HHA%I%IJE%J",
    "E%os%pj%qc%ME%NE%NJE%O%PE%QA%RE~%SE%ve%TE%xf%U%VE%XE~%Y%ZE~#cbA%BBE%BE%CE%CHE%DE%DHE%EI%E%",
    "FE%GA~%mt%HHA%I%IJE%JE%os%pj%qc%ME%NE%NJE%O%PE%QA%RE~%SE%ve%TE%xf%U%VE%XE~%Y%ZE"] },
  { first := 67072, lines := [
    "!LINEAR AeAB001%.%.%.%.%.%.%.%.%.%.%AB013%AB016%.%AB020%.%AB021F%AB021M%AB022%AB022F%AB022",
    "M%AB023%AB023M%AB024%AB026%.%.%A028B%AB029%.%.%AB034%AB037%.%.%.%.%AB044%.%.%.%.%.%.%.%AB0",
    "53%.%.%.%.%.%.%.%.%AB065%.%.%AB069%.%AB073%.%AB076%.%.%.%.%.%.%AB085%.%.%A100-102%AB118%AB",
    "120%A120B%AB122%.%AB131A%AB131B%A131C%AB164%AB171%AB180%AB188%AB191%A301%.%.%.%.%.%.%.%A30",
    "9A%A309B%A309C%A310%.%.%A313A%A313B%A313C%A314%.%.%.%.%.%.%.%.%.%.%.%.%.%.%.%.%.%.%.%.%.%.",
    "%.%.%.%.%.%.%.%.%.%.%.%.%.%.%.%.%.%.%.%.%.%.%.%.%.%.%.%.%.%.%.%.%.%.%.%A400-VAS%A401-VAS%A",
    "402-VAS%A403-VAS%A404-VAS%A405-VAS%A406-VAS%A407-VAS%A408-VAS%A409-VAS%A410-VAS%A411-VAS%A",
    "412-VAS%A413-VAS%A414-VAS%A415-VAS%A416-VAS%A417-VAS%A418-VAS%A501%.%.%.%.%.%A508%.%.%.%.%",
    ".%A515%.%A520%.%A523%.%.%.%.%.%.%.%.%.%A534%.%.%.%.%.%.%.%.%A545%A547%.%.%.%.%.%.%.%.%.%.%",
    "A559%A563%.%.%.%A568%.%.%.%.%.%.%.%.%.%.%.%.%.%.%.%.%.%.%.%.%.%A591%.%A594%.%.%A598%A600%.",
    "%.%.%.%A606%A608%.%.%.%.%.%.%.%.%.%.%.%.%.%.%.%.%A626%.%.%.%A634%A637%.%A640%A642%.%.%.%.%",
    "A648%.%A651%.%.%.%.%.%.%.%.%.%.%.%.%.~~~~~~~~~%A701 A%A702 B%A703 D%A704 E%A705 F%A706 H%A",
    "707 J%A708 K%A709 L%A709-2 L2%A709-3 L3%A709-4 L4%A709-6 L6%A710 W%A711 X%A712 Y%A713sf%A7",
    "14 ABB%A715 BB%A717 DD%A726 EYYY%A732 JE~~~~~~~~~~%A800%.%.%.%.%.%.%."] },
  { first := 67456, lines := [
    "!qvbcdAA$wpybir%mv;$cAE%dB%Banq~%DZkd(atznq)jh%DEZHkd%Dawx(nq)fwx%ubE%iqubsi:%FENGkd%RAMSn",
    "s%dG%Ganq%d<%Hawi%dH%HENGanq%khJawif:%LSkd%LZ:%LaBELT%d<%Latznqf:%LEZH&atznq%yiY(aBELT%Oaw",
    "i%dOE%iqsf%Q%yiRaqeLEG+ftznq%Rawx(lu%dR%TCkdajh%TSkd(atznq%TESHkd%Tatznq%Vaue:~%dY$mnwgawi",
    "$ub=$BILABIAL CLICK$DENTAL:$LATERAL:$ALVEOLAR:$tzCLICKatznq$cSajh"] },
  { first := 67584, lines := [
    "!CYPRIOTwsA$E$I$O$U$JA~~$JO~$os$KE$KI$KO$KU$pj$LE$LI$LO$LU$qj$ME$MI$MO$MU$rh$NE$NI$NO$NU$s",
    "s$PE$PI$PO$PU$tw$RE$RI$RO$RU$up$SE$SI$SO$SU$wu$TE$TI$xv$TU$WA$WE$WI$WO~$XA$XE~~~$ZA~~$ZO!I",
    "MPERIAL ARAMAICbgg%hl%ml%jn%HE%zh%zx%nl%TETH%zs%ou%pn%MEM%sa%ur%AYIN%PE%uq%QOPH%RESH%vi%TA",
    "W~$uve$rysh%yl%xp%xc%yk%shnt&xn%xc:!PALMYRENEbgg$hl$ml$jn$HE$zh$zx$nl$TETH$zs$ou$pn$MEM$ls",
    "sa$:$ur$AYIN$PE$uq$QOPH$RESH$vi$TAW#psFLEURON#ug:#rysh$yl$xp$ma$lv$xc$yk!NABATAEANblsgg$:$",
    "lshl$:$ml$jn$lsHE$:$zh$zx$nl$TETH$lszs$:$lsou$:$lspn$:$lsMEM$:$lssa$:$ur$AYIN$PE$uq$QOPH$R",
    "ESH$lsvi$:$TAW~~~~~~~~#rysh$yl$xp$ma#CRUCIFORM;#rylv$xc$yk$shnt"] },
  { first := 67808, lines := [
    "!HATRANbgg$hl$ml$DALETH-RESH$HE$zh$ZAYN$nl$TETH$zs$ou$pn$MEM$sa$ur$AYN$PE$uq$QOPH~$vi$TAW~",
    "~~~~#rysh$lv$xc$yk$shnt!PHOENICIANbALF$BET$GAML$DELT$HE$WAU$ZAI$HET$TET$YOD$ot$LAMD$MEM$sa",
    "$SEMK$ge$PE$SADE$QOF$ROSH$vi$TAU#rysh$xc$yk$shnt$yl$xp~~~#zluy!LYDIANbA$.$G$D$.$V$I$Y$K$.$",
    ".$.$.$R$SS$T$.$F$Q$S$TT$AN$EN$LY$NN$C~~~~~#ybqo"] },
  { first := 67968, lines := [
    "!MEROITIC HIEROGLYPHICbA%E%I%O%zp%WA%BA%BA-2%ss%qj%rh%NA-2%NE%NE-2%tw%RA-2%pj%pb%HHA%up%SA",
    "-2%SE%os%QA%wu%TA-2%TE%TE-2%xv%jm$wtVIDJ%VIDJ-2#CURSIVEbA%E%I%O%zp%WA%BA%ss%qj%rh%NE%tw%pj",
    "%pb%HHA%up%gu:%SE%os%QA%wu%TE%xv%jm~~~~$mckyTWELFTHS%shmv$LOGOGRAM RMT%IMN$rysh%yl%xp%ma%l",
    "v%vq%uz%ks%rn%xc%yk%xm%ly%lq%vt%vb~~%shnt%yl:%xp:%ma:%lv:%vq:%uz:%ks:%rn:%shxn%yl:%xp:%ma:",
    "%lv:%vq:%uz:%ks:%rn:%xc:%yk:%xm:%ly:%lq:%vt:%vb:%kw:%rp:%shnt:%yl;%xp;%ma;%lv;%vq;%uz;%ks;",
    "%rn;$mcshTWELFTH%ylTWELFTHS%xp:%ma:%lv:%vq:%uz:%ks:%rn:%xc:!KHAROSHTHIbA#zeeI%U%zcR~%E%O~~",
    "~~~$pvqo#ekkujhh$gp$zb#bos$pb$GA$mj~$CA$ig$JA~$sb$yg$yh$js$jt$rq$wu$xe$jm$jw$rh$ss$ta$BA$h",
    "n$qj$zp$tw$pj$VA$vc$we$up$ZA$mt$KKA$TTTHA$TTTA$VHA~~#ehegb$CAUDA$kghh~~~~#za#kcsh$yl$xp$ma",
    "#ryxc$yk$shnt%xn#mcshmv~~~~~~~#tokg$cim$:$jbhe$MANGALAM$LOTUS$jp$kk:$LINES~~~~~~~!sevzARAB",
    "IANbHE&pn&nl&MEM&QOPH&zh&vi&RESH&hl&TAW&SAT&ou&sa&KHETH&uq&ur&FE&gf&AYN&DHADHE&ml&jn&GHAYN",
    "&TETH&ZAYN&DHALETH&zs&THAW&THETH%rysh&lq%NUMERICoa#rtARABIANbnk&pl&mu&qs&tp&zh&ES-2&ty&BEH",
    "&TEH&ES-1&ot&rr&pc&SAD&ES-3&FEH&gf&ge&DAD&GEEM&DAL&mk&ww&zu&THAL&zq&THEH&ZAH%rysh&xc&yk"] },
  { first := 68288, lines := [
    "!MANICHAEANbgg$hl$BHETH$ml$GHIMEL$jn$HE$zh#eUD#bzx$ZHAYIN$JAYIN$JHAYIN$nl$TETH$zs$ou$XAPH$",
    "KHAPH$pn$DHAMEDH$THAMEDH$MEM$sa$ur$AYIN$AAYIN$PE$FE$uq$QOPH$XOPH$QHOPH$RESH$vi$SSHIN$TAW#g",
    "aqogb%hh~~~~#rysh$lv$xc$yk$shnt#towf$FLEURON$kkkgWITHINkg$<%$ylki$qalr~~~~~~~~~!AVESTANbA$",
    "AA$AO$AAO$AN$AAN$AE$AEE$E$EE$O$OO$I$II$U$UU$KE$XE$XYE$XVE$GE$GGE$GHE$CE$JE$TE$xf$DE$DHE$TT",
    "E$PE$FE$BE$BHE$NGE$NGYE$NGVE$NE$NYE$NNE$ME$HME$YYE$YE$VE$RE$LE$SE$ZE$ve$ZHE$SHYE$SSHE$HE~~",
    "~#gaqo!TINYylkisoshkgto!c?!po?#shkgsoylki:#ylRINGSsoshuj:#shujsoylRINGS:!INSCRIPTIONAL PAR",
    "THIANbgg%hl%ml%jn%HE%zh%zx%nl%TETH%zs%ou%pn%MEM%sa%ur%AYIN%PE%uq%QOPH%RESH%vi%TAW~~$rysh%y",
    "l%xp%ma%xc%yk%shnt&xn#PAHLAVIbgg%hl%ml%jn%HE%WAW-AYIN-RESH%zx%nl%TETH%zs%ou%pn%MEM-QOPH%sa",
    "%ur%PE%uq%vi%TAW~~~~~$rysh%yl%xp%ma%xc%yk%shnt&xn!PSALTER PAHLAVIbgg%hl%ml%jn%HE%WAW-AYIN-",
    "RESH%zx%nl%zs%ou%pn%MEM-QOPH%sa%ur%PE%uq%vi%TAW~~~~~~~$uvqo$yi;$makiajc(kg"] },
  { first := 68521, lines := ["!PSALTER PAHLAVIrysh%yl%xp%ma%xc%yk%shnt"] },
  { first := 68608, lines := [
    "!seTURKICbslA%zr:&AE%slI%zr:&E%slO&OE%zr:%slAB%zr:%slAEB%zr:%slAG%zr:%slAEG%zr:%slAD%zr:%s",
    "lAED&EZ%zr:%slAY%zr:%slAEY%zr:%slAEK%zr:%slOEK%zr:%slAL%zr:%slAEL&ELT&EM&AN&AEN%zr:%slENT%",
    "zr:%slENC%zr:%slENY%zr:&ANG%slENG%zrAENG%slEP&OP&IC&EC%zr:%slAQ%zr:%slIQ%zr:%slOQ%zr:%slAR",
    "%zr:%slAER&AS&AES&gz%zr:%slESH%zr:%slAT%zr:%slAET%zr:%slOT&BASH"] },
  { first := 68736, lines := [
    "!seHUNGARIANdbA&AA&EB&AMB&EC&ENC&ECS&ED&f&E&CLOSE:&EE&EF&EG&EGY&EH&I&II&EJ&EK&AK&UNK&EL&EL",
    "Y&EM&EN&ENY&O&OO&NIKOLSBURG OE&RUDIMENTA:&OEE&EP&EMP&ER&vj:&ES&ESZ&ET&ENT&ETY&ECH&U&UU&NIK",
    "OLSBURG UE&RUDIMENTA:&EV&EZ&EZS&ENT-SHAPEDe&US"] },
  { first := 68800, lines := [
    "!seHUNGARIANcbA&AA&EB&AMB&EC&ENC&ECS&ED&f&E&CLOSE:&EE&EF&EG&EGY&EH&I&II&EJ&EK&AK&UNK&EL&EL",
    "Y&EM&EN&ENY&O&OO&NIKOLSBURG OE&RUDIMENTA:&OEE&EP&EMP&ER&vj:&ES&ESZ&ET&ENT&ETY&ECH&U&UU&NIK",
    "OLSBURG UE&RUDIMENTA:&EV&EZ&EZS&ENT-SHAPEDe&US~~~~~~~$rysh%lv%xc%lq%shnt&xn!HANIFI ROHINGY",
    "AbA%BA%ss%wu%yg%JA%CA%mt%pb%FA%jm%js%tw%RRA%ZA%up%vc%os%GA%pj%qj%rh%WA%KINNA:%zp%KINNA:%rm",
    "%sb%VA$zeA%I%U%E%O$qoSAKIN%rhKHONNA$eHARBAHAY%TAHALA%TANA%TASSI~~~~~~~~$kczy%sh%yl%xp%ma%l",
    "v%vq%uz%ks%rn"] },
  { first := 69216, lines := [
    "!RUMIkcsh$yl$xp$ma$lv$vq$uz$ks$rn#ryxc$yk$xm$ly$lq$vt$vb$kw$rp$shnt$yl:$xp:$ma:$lv:$vq:$uz",
    ":$ks:$rn:#mcshmv%tr%xj$ylxk~!YEZIDIbELIF$BE$PE$PHE$xf$SE$CIM$CHIM$CHHIM$HHA$XA$DAL$ZAL$tw$",
    "RHA$ZA$JA$SIN$vi$SAD$DAD$wu$ZE$EYN$XHEYN$FA$VA%gklx$tp$ot$KHAF$GAF$pl$MIM$sa$UM$zh$OW$EW$H",
    "AY$YOT$ET~#ismwqo$MADDA:#HYPHENATION:~~#bplakggb$YOTaio:"] },
  { first := 69376, lines := [
    "!seSOGDIANbgg%ls:%hl%ls:%ml%HE%ls:%zh%zx%nl%zs%ou%pn%MEM%sa%ls:(ayxwx%ur%AYIN%gk:%PE%uq%ls",
    ":(ayxwx%RESH-AYIN-DALETH%vi%TAW%ls:(ayxwx$rysh%yl%xp%ma%lv%xc%yk%xm%shnt$mcshmv$pyAYIN-DAL",
    "ETH~~~~~~~~!SOGDIANbgg$hl$ml$HE$zh$zx$nl$zs$ou$pn$MEM$sa$ur$AYIN$PE$uq$RESH-AYIN$vi$TAW$FE",
    "TH$LESH#nyvi#iskghh$ylki:$kggb$ylki:$jj:%hh$nqgb%hh$qe;$RESH:$wi:#rysh$xc$yk$shnt#toylyxBA",
    "RS(aki$imakg$ylCIRCLESaki$mvimakg"] },
  { first := 69488, lines := [
    "!seUYGHURbgg%hl%GIMEL-HETH%zh%zx%lsnl%zs%ou%pn%MEM%sa%ur%PE%uq%RESH%vi%TAW%LESH$iskggb&hh%",
    "ylkigb(hh$tohe%ylBARS&ki%ma:"] },
  { first := 69552, lines := [
    "!CHORASMIANbgg$c:$hl$ml$jn$HE$zh$CURLED:$zx$nl$zs$ou$pn$MEM$sa$ur$AYIN$PE$RESH$vi$TAW#rysh",
    "$yl$xp$ma$xc$yk$shnt"] },
  { first := 69600, lines := [
    "!ELYMAICbgg$hl$ml$jn$HE$zh$zx$nl$TETH$zs$ou$pn$MEM$sa$ur$AYIN$PE$uq$QOPH$RESH$vi$TAW#pyZAY",
    "IN-YODH~~~~~~~~~!BRAHMIeib$gp$zb$or$yr#bA$AA$I$II$U$UU$zcR%RR%L%LL$E$AI$O$AU$os$pb$GA$mj$r",
    "m$CA$ig$JA$oq$sb$yg$yh$js$jt$rq$wu$xe$jm$jw$rh$ss$ta$BA$hn$qj$zp$tw$pj$VA$vc$we$up$mt$qc$s",
    "eTAMIL LLLA&RRA&NNNA#zeeAA%BHATTIPROLU:%I%II%U%UU%zcR&RR&L&LL%E%AI%O%AU#za#jp#kk:#tokg$kk:",
    "$qa$jbhe$LOTUS~~~~#rysh$yl$xp$ma$lv$vq$uz$ks$rn$xc$yk$xm$ly$lq$vt$vb$kw$rp$shnt%xn#kczy$sh",
    "$yl$xp$ma$lv$vq$uz$ks$rn#eseTAMILza#bseTAMILvjE(O#zeeseTAMILvjE)O#bseTAMILqc~~~~~~~~~#ryJO",
    "INER!KAITHIeib$gp$zb#bA$AA$I$II$U$UU$E$AI$O$AU$os$pb$GA$mj$rm$CA$ig$JA$oq$sb$yg$yh$js$DDDH",
    "A$jt$RHA$rq$wu$xe$jm$jw$rh$ss$ta$BA$hn$qj$zp$tw$pj$VA$vc$we$up$mt#zeeAA%I%II%U%UU%E%AI%O%A",
    "U#eza$rx#gae#ENUMERATION:#ry:#uvqo#kk;#jp#kk:#zeezcR~~~~~~~~~~#ryegb~~!SORA SOMPENGbSAH%ww",
    "%BAH%CAH%DAH%GAH%MAH%NGAH%LAH%NAH%VAH%PAH%YAH%RAH%mu%KAH%JAH%NYAH%AH%EEH%IH%UH%OH%EH%MAE~~",
    "~~~~~$kczy%sh%yl%xp%ma%lv%vq%uz%ks%rn~~~~~~!CHAKMAeib$gp$zb#bAA$I$U$E$KAA$KHAA$GAA$GHAA$NG",
    "AA$CAA$CHAA$JAA$JHAA$NYAA$TTAA$TTHAA$DDAA$DDHAA$NNAA$TAA$THAA$DAA$DHAA$NAA$PAA$PHAA$BAA$BH",
    "AA$MAA$YYAA$YAA$RAA$LAA$WAA$SAA$HAA#zeeA%I%II%U%UU%E%AI%O%AU%OI#Oqo#AU:#za#MAAYYAA~#kczy$s",
    "h$yl$xp$ma$lv$vq$uz$ks$rn#uvqo#jp#kk:#tuqo#bLHAA#zeeAA%EI#bVAA~~~~~~~~!MAHAJANIbA$I$U$E$O$",
    "os$pb$GA$mj$CA$ig$JA$oq$sb$yg$yh$js$jt$rq$wu$xe$jm$jw$rh$ss$ta$BA$hn$qj$tw$pj$VA$up$mt$RRA",
    "#erx#gae#uvqo#pySHRI~~~~~~~~~!SHARADAeib$gp$zb#bA$AA$I$II$U$UU$zcR%RR%L%LL$E$AI$O$AU$os$pb",
    "$GA$mj$rm$CA$ig$JA$oq$sb$yg$yh$js$jt$rq$wu$xe$jm$jw$rh$ss$ta$BA$hn$qj$zp$tw$pj$qc$VA$vc$we",
    "$up$mt#zeeAA%I%II%U%UU%zcR&RR&L&LL%E%AI%O%AU#eza$hc$or$yr#OM#jp#kk:#gae#uy#SANDHIqo#erx#ze",
    "qvqo#EXTRAvjze:#SUTRA:#zeePRISHTHAMATRA E#eohib#kczy$sh$yl$xp$ma$lv$vq$uz$ks$rn#EKAM#evk#H",
    "EADSTROKE#CONTINUATIONe#uvMARK-1$.~!SINHALAgukcsh%yl%xp%ma%lv%vq%uz%ks%rn$ryxc%yk%xm%ly%lq",
    "%vt%vb%kw%rp%shnt&xn"] },
  { first := 70144, lines := [
    "!KHOJKIbA$AA$I$U$E$AI$O$AU$os$pb$GA$GGA$mj$rm$CA$ig$JA$JJA~$sb$yg$yh$js$jt$rq$wu$xe$jm$DDD",
    "A$jw$rh$ss$ta$BA$BBA$hn$qj$zp$tw$pj$VA$up$mt$qc#zeeAA%I%II%U%E%AI%O%AU#egp$za$rx$SHADDA#jp",
    "#kk:#zluy#uvqo#kk;#gae#eSUKUN"] },
  { first := 70272, lines := [
    "!MULTANIbA$I$U$E$os$pb$GA~$mj~$CA$ig$JA$JJA~$sb$yg$yh$js$DDDA$jt$rq$wu$xe$jm$jw$rh$ss$ta$B",
    "A~$hn$qj$zp$tw$pj$VA$up$mt$RRA$RHA#uvqo~~~~~~!KHUDAWADIbA$AA$I$II$U$UU$E$AI$O$AU$os$pb$GA$",
    "GGA$mj$rm$CA$ig$JA$JJA$oq$sb$yg$yh$js$DDDA$RRA$jt$rq$wu$xe$jm$jw$rh$ss$ta$BA$BBA$hn$qj$zp$",
    "tw$pj$VA$vc$up$mt#egp#zeeAA%I%II%U%UU%E%AI%O%AU#erx$za~~~~~#kczy$sh$yl$xp$ma$lv$vq$uz$ks$r",
    "n~~~~~~!GRANTHAeisgpgb$ib$gp$zb~#bA$AA$I$II$U$UU$zcR%L~~$EE$AI~~$OO$AU$os$pb$GA$mj$rm$CA$i",
    "g$JA$oq$sb$yg$yh$js$jt$rq$wu$xe$jm$jw$rh~$ss$ta$BA$hn$qj$zp$tw~$pj$qc~$VA$vc$we$up$mt~!isB",
    "INDUhh!GRANTHAerx$hc#zeeAA%I%II%U%UU%zcR&RR~~%EE%AI~~%OO%AU#eza~~#OM~~~~~~#AUpvqo~~~~~#ePL",
    "UTA#bVEDICgp%kk:$zcRR%LL#zeezcL&LL~~!isGRANTHAkczy%sh%yl%xp%ma%lv%vq~~~$bA%os%rh%VI%ss"] },
  { first := 70656, lines := [
    "!NEWAbA$AA$I$II$U$UU$zcR%RR%L%LL$E$AI$O$AU$os$pb$GA$mj$rm$NGHA$CA$ig$JA$oq$sb$NYHA$yg$yh$j",
    "s$jt$rq$wu$xe$jm$jw$rh$NHA$ss$ta$BA$hn$qj$MHA$zp$tw$RHA$pj$LHA$WA$vc$we$up$mt#zeeAA%I%II%U",
    "%UU%zcR&RR&L&LL%E%AI%O%AU#eza$ib$gp$zb$rx$hc$lsgp#OM#SIDDHI#jp#kk:#it#GAPlr#gae#kczy$sh$yl",
    "$xp$ma$lv$vq$uz$ks$rn#kkit#PLACEHOLDERqo~#INSERTIONe#SANDHIqo#bVEDICgp#eor$yr"] },
  { first := 70784, lines := [
    "!TIRHUTA ANJI#bA$AA$I$II$U$UU$zcR%RR%L%LL$E$AI$O$AU$os$pb$GA$mj$rm$CA$ig$JA$oq$sb$yg$yh$js",
    "$jt$rq$wu$xe$jm$jw$rh$ss$ta$BA$hn$qj$zp$tw$pj$VA$vc$we$up$mt#zeeAA%I%II%U%UU%zcR&RR&L&LL%E",
    "%vj:%AI%O%vj:%AU#eib$gp$zb$za$rx$hc#GVANG#gae#OM~~~~~~~~#kczy$sh$yl$xp$ma$lv$vq$uz$ks$rn"] },
  { first := 71040, lines := [
    "!vkbA$AA$I$II$U$UU$zcR%RR%L%LL$E$AI$O$AU$os$pb$GA$mj$rm$CA$ig$JA$oq$sb$yg$yh$js$jt$rq$wu$x",
    "e$jm$jw$rh$ss$ta$BA$hn$qj$zp$tw$pj$VA$vc$we$up$mt#zeeAA%I%II%U%UU%zcR&RR~~%E%AI%O%AU#eib$g",
    "p$zb$za$rx$vk#jp#kk:#uykg$he#REPETITION MARK-1$.$.#kzscTEXTqo#uvqoaTRIDENTfU-SHAPED ORNAME",
    "NTS)kjCRESCENTS&RAYS<*kk:*yc:%kkuj(aRAYS%akkCRESCENTS&yc:&tq:&SEPTUPLE:&CIRCLESfRAYS)ylENC",
    "LOSURES)ma:#bTHREE-CIRCLEgkI$TWO-CIRCLE;&II$gkU#zee;&UU"] },
  { first := 71168, lines := [
    "!MODIbA$AA$I$II$U$UU$zcR%RR%L%LL$E$AI$O$AU$os$pb$GA$mj$rm$CA$ig$JA$oq$sb$yg$yh$js$jt$rq$wu",
    "$xe$jm$jw$rh$ss$ta$BA$hn$qj$zp$tw$pj$VA$vc$we$up$mt$qc#zeeAA%I%II%U%UU%zcR&RR&L&LL%E%AI%O%",
    "AU#egp$zb$za$ARDHACANDRA#jp#kk:#gae#eHUVA"] },
  { first := 71248, lines := [
    "!MODIkczy$sh$yl$xp$ma$lv$vq$uz$ks$rn~~~~~~!MONGOLIAN BIRGAasm#ulBIRGA#kkBIRGAasm#yc<#BIRGA",
    "akk:#ulBIRGAa:&kk:#ohBIRGA%akksm#SWIRL BIRGA%asm&kk:#yi>"] },
  { first := 71296, lines := [
    "!TAKRIbA$AA$I$II$U$UU$E$AI$O$AU$os$pb$GA$mj$rm$CA$ig$JA$oq$sb$yg$yh$js$jt$rq$wu$xe$jm$jw$r",
    "h$ss$ta$BA$hn$qj$zp$tw$pj$VA$vc$up$mt$RRA#egp$zb#zeeAA%I%II%U%UU%E%AI%O%AU#eza$rx#bgupb#ga",
    "e~~~~~~#kczy$sh$yl$xp$ma$lv$vq$uz$ks$rn"] },
  { first := 71424, lines := [
    "!AHOMbos$pb$rm$rh$wu$gk:$ss$ta$BA$qj$JA$ig$xe$tw$pj$up$sb$mt$A$jm$jw$GA$gk:$mj$hn$oq$gkBA~",
    "~#iweqqpj&tw&LIGATING:#zeeA%AA%I%II%U%UU%E%AW%O%AI%AM#eKILLER~~~~#kczy$sh$yl$xp$ma$lv$vq$u",
    "z$ks$rn#ryxc$yk#ecuv$:$RULAI#wtVI#bCA$yg$yh$js$jt$rq$qc"] },
  { first := 71680, lines := [
    "!DOGRAbA$AA$I$II$U$UU$E$AI$O$AU$os$pb$GA$mj$rm$CA$ig$JA$oq$sb$yg$yh$js$jt$rq$wu$xe$jm$jw$r",
    "h$ss$ta$BA$hn$qj$zp$tw$pj$VA$vc$we$up$mt$RRA#zeeAA%I%II%U%UU%zcR&RR%E%AI%O%AU#egp$zb$za$rx",
    "#gae"] },
  { first := 71840, lines := [
    "!WARANG CITIdbNGAA&A&WI&YU&zp&YO&II&UU&E&O&ANG&GA&KO&ENY&YUJ&UC&ENN&ODD&TTE&NUNG&jm&AT&AM&",
    "BU&PU&HIYO&HOLO&HORR&HAR&SSUU&SII&VIYO$cbNGAA&A&WI&YU&zp&YO&II&UU&E&O&ANG&GA&KO&ENY&YUJ&UC",
    "&ENN&ODD&TTE&NUNG&jm&AT&AM&BU&PU&HIYO&HOLO&HORR&HAR&SSUU&SII&VIYO$kczy%sh%yl%xp%ma%lv%vq%u",
    "z%ks%rn$ryxc%yk%xm%ly%lq%vt%vb%kw%rp"] },
  { first := 71935, lines := [
    "!WARANG CITI OM!DIVES AKURUbA%AA%I%II%U%UU%E~~%O~~%os%pb%GA%mj%rm%CA%ig%JA~%sb%yg~%js%jt%r",
    "q%wu%xe%jm%jw%rh%ss%ta%BA%hn%qj%zp%YYA%tw%pj%VA%vc%we%up%mt%qc%ZA$zeeAA&I&II&U&UU&E~&AI&O~",
    "~$egp%ib%HALANTA$za$PREFIXED NASALe$qqzp$obtw$qq:$erx$kkjp$GAPlr$kzscTEXTqo~~~~~~~~~$kczy%",
    "sh%yl%xp%ma%lv%vq%uz%ks%rn"] },
  { first := 72096, lines := [
    "!NANDINAGARIbA$AA$I$II$U$UU$zcR%RR~~$E$AI$O$AU$os$pb$GA$mj$rm$CA$ig$JA$oq$sb$yg$yh$js$jt$r",
    "q$wu$xe$jm$jw$rh$ss$ta$BA$hn$qj$zp$tw$pj$VA$vc$we$up$mt$qc$RRA#zeeAA%I%II%U%UU%zcR&RR~~%E%",
    "AI%O%AU#egp$zb$za$hc$vk#HEADSTROKE#zeePRISHTHAMATRA E"] },
  { first := 72192, lines := [
    "!ZANABAZARwcbA$zeeI&UE&U&E&OE&O&AI&AU&ubI%pvqo$bos%pb%GA%mj%rm%CA%ig%JA%sb%yg%yh%js%jt%rq%",
    "wu%xe%jm%jw%rh%ss%ta%BA%hn%qj%yd%ye%DZA%DZHA%ZHA%ZA%-A%zp%tw%pj%VA%vc%we%up%mt%KSSA$lsiwqo",
    "$eza%ib&asm%ia;%gp%zb$CLUSTER-INITIALbtw$CLUSTER-FINALbzp&tw&pj&VA$obnhqo$CLOSING;$qoyf%SH",
    "AD%kk:%qeyf$obDOUBLE-LINEDnhqo$CLOSING<$SUBJOINER~~~~~~~~!SOYOMBObA#zeeI%UE%U%E%O%OE%AI%AU",
    "%zcR&L$pvqo#bos$pb$GA$mj$rm$CA$ig$JA$oq$sb$yg$yh$js$jt$rq$wu$xe$jm$jw$rh$ss$ta$BA$hn$qj$yd",
    "$ye$DZA$ZHA$ZA$-A$zp$tw$pj$VA$vc$we$up$mt$KSSA#eor$yr#CLUSTER-INITIALbtw%pj%vc%up#lsiweG&K",
    "&NG&D&N&B&M&R&L&SH&S&-A#egp$zb#miqo#SUBJOINER#qoyf$SHAD$kk:$PLUTA#nhqoaqxfSUNfycFLAME+:*#T",
    "ERMINAL MARK-1$."] },
  { first := 72368, lines := [
    "!CANADIAN SYLLABICS NATTILIK HI%HII%HO%HOO%mt%HAA%SHRI%SHRII%SHRO%SHROO%SHRA%SHRAA$SPE$SPI",
    "$SPO$SPA!PAU CIN HAUbss&os&pj&qj&jm&ZA&VA&rm&mt&GA&pb&up&BA&CA&wu&xe&rh&ta&tw&FA&ig&A&E&I&",
    "O&U&UA&IA&lsP(K(T(M(.(L(W(NG(Y%ukxwqe(%SANDHImnwg%ukxwqels(:%SANDHImnwg:&xwqe((qels(:%MID-",
    "LEVELxw%mnwgyw%MID-LEVELxwqels(:%LOW-FALLINGxwqe(%mnwg%LOW-FALLINGxwqels(:%mnwg:"] },
  { first := 72704, lines := [
    "!BHAIKSUKIbA$AA$I$II$U$UU$zcR%RR%L~$E$AI$O$AU$os$pb$GA$mj$rm$CA$ig$JA$oq$sb$yg$yh$js$jt$rq",
    "$wu$xe$jm$jw$rh$ss$ta$BA$hn$qj$zp$tw$pj$VA$vc$we$up$mt#zeeAA%I%II%U%UU%zcR&RR&L~%E%AI%O%AU",
    "#eib$gp$zb$za$hc#jp#kk:#zluy#GAP FILLER-1$.~~~~~~~~~~#kczy$sh$yl$xp$ma$lv$vq$uz$ks$rn#rysh",
    "$yl$xp$ma$lv$vq$uz$ks$rn$xc$yk$xm$ly$lq$vt$vb$kw$rp#HUNDREDS UNITqo~~~!MARCHENnh:#qoSHAD#b",
    "os$pb$GA$rm$CA$ig$JA$sb$wu$xe$jm$rh$ss$ta$BA$qj$yd$ye$DZA$WA$ZHA$ZA$-A$zp$tw$pj$vc$up$mt$A",
    "~~#wkbos%pb%GA%rm%CA%ig%JA%sb%wu%xe%jm%rh%ss%ta%BA%qj%yd%ye%DZA%WA%ZHA%ZA~%zp%tw%pj%vc%up%",
    "mt%A#zeeAA%I%U%E%O#egp$ib"] },
  { first := 72960, lines := [
    "!MASARAM GONDIbA%AA%I%II%U%UU%E~%AI%O~%AU%os%pb%GA%mj%rm%CA%ig%JA%oq%sb%yg%yh%js%jt%rq%wu%",
    "xe%jm%jw%rh%ss%ta%BA%hn%qj%zp%tw%pj%VA%vc%we%up%mt%qc%KSSA%JNYA%TRA$zeeAA&I&II&U&UU&zcR~~~",
    "&E~&AI&O~&AU$egp%zb%rx%ia%HALANTA$za$REPHA$RA-KARA~~~~~~~~$kczy%sh%yl%xp%ma%lv%vq%uz%ks%rn",
    "~~~~~~!GUNJALA GONDIbA%AA%I%II%U%UU~%EE%AI~%OO%AU%zp%VA%BA%hn%qj%os%pb%wu%xe%pj%GA%mj%jm%j",
    "w%rh%CA%ig%yg%yh%qc%JA%oq%js%jt%rm%ss%ta%mt%tw%up$zeeAA&I&II&U&UU~&EE&AI~&OO&AU$egp%zb$za$",
    "OM~~~~~~~$kczy%sh%yl%xp%ma%lv%vq%uz%ks%rn"] },
  { first := 73440, lines := [
    "!MAKASARbos$GA$rm$ss$BA$qj$wu$jm$rh$CA$JA$sb$zp$tw$pj$VA$up$A#ANGKA#zeeI%U%E%O#PASSIMBANG#",
    "kzscuv"] },
  { first := 73648, lines := ["!LISUbYHA"] },
  { first := 73664, lines := [
    "!TAMILmcshTHREE-HUNDRED-AND-TWENTIETH%ONE-HUNDRED-AND-SIXTIETH%EIGHTIETH%SIXTY-FOURTH%FORT",
    "IETH%THIRTY-SECOND$xpEIGHTIETHS%SIXTY-FOURTHS$shTWENTIETH%SIXTEENTH-1%.%TENTH%ku$xpTWENTIE",
    "THS%SIXTEENTHS$shFIFTH%tr%HALF-1%.$xpts$DOWNSCALING FACTOR KIIZH#eNEL$CEVITU$AAZHAAKKU$UZH",
    "AKKU$MUUVUZHAKKU$KURUNI$PATHAKKU$MUKKURUNI$KAACU$PANAM$PON$VARAAKAN$PAARAM$KUZHI$VELI#WET ",
    "CULTIVATIONe#DRY;#LAND:#SALT PAN:#TRADITIONAL CREDIT:$ry:#CURRENT:#fODD:#SPENT:#TOTAL:#IN ",
    "POSSESSION:#STARTINGmd:#eMUTHALIYA$VAKAIYARAA"] },
  { first := 73727, lines := [
    "!TAMILtokzscTEXT!CUNEIFORMeA%xuA&BAD&mgxd&mt&nx&LAGARms&MUSH&SAG$A2$AB%xuASH2&DUN3ms&GAL&m",
    "gxd&mt&nxms&IMIN&pk&SHESH&UtfUtfU%ms$AB2%xuBALAG&mgxd&MEtfEN&SHA3&wy$AD$AK%xuERIN2&SHITAtf",
    "mm$AL%xuAL&DIM2&mm&mt&KAD3&KI&ve&USH$ALAN$gg$AMAR%xuve$AN%soAN%xpxu%tfNAGAskANtfNAGA(wd$AN",
    "SHE$APIN$ARAD%xuKUR$ARKAB$ASAL2$gz%ZIDAxd%KABA:%sogzTUG2soTUG2 TUG2soTUG2 PAP(sogz*jfgzsog",
    "zsogz$ASH2$ASHGAB$BA$BAD$BAG3$BAHAR2$BAL%soBAL$BALAG$he$BARA2$BI%xuA&mh&nxms$BU%soBU AB(UN",
    "%jfBU$BULUG%soBULUG$BUR$BUR2$jm$DAG%KISIM5xuAtfMASH(AMAR(BALAG(BI(GA)tfMASH(GI(GIR2(GUD(mt",
    "(IR)tfLU(KAK(pj(LU)tfMASH2(LUM(NE(PAPtfPAP(SI(wy(U2tfGIR2(USH$DAM$DAR$DARA3$.$DI$DIB$DIM%x",
    "uve$DIM2$DIN%owUmske$:$DU%soDU%ms%vh$DUB%xuESH2$DUB2$DUG$DUGUD$DUH$DUN$DUN3%ms&ms$DUN4$DUR",
    "2$E%xuPAP%soEsasosa$E2%xuAtfmttfjm&mh&MI&SAL&ve&U$EDIN$EGIR$EL$EN%xumg(xd&ME%jfEN%sk:%wd$E",
    "REN$ERIN2$ESH2$EZEN%xuA(tfLAL*xuLAL&AN&BAD&DUN3ms)ms&mt(ms&nx:&ow(wd&KU3&pj&LALxuLAL&LI&LU",
    "&U2&UD$GA%ms$GA2%xuAtfjmtfmt):)nx&AB2xdtfTAB&AN&gz&ASH2tfGAL&BAD&hetftw&BUR(tftw&jm&DI&DIM",
    "xuve&DUB&EL(tfpj&EN(xumgxd&;&mh&GI&GI4(tfA&GIR2tfSU&mttfLUtfESH2&HAL(tfpj&HItfLI&HUB2&nxms",
    "&ISHtfHUtfgz&KAK&ow&KID(tfLAL&KU3tfAN&pj&MEtfEN&MI&sa(sosa&ss&SAL&SAR&ve(tfTUR&SHID&SUM&wy",
    "&U&UD(tfDU%soGA2$GABA%jfGABA$GAD%soGADmhsomh$GAL%GADsoGADmhsomh$GALAM$GAM$GAN$mg%xd%somg%j",
    "f:$mh$GAR3$GASHAN$GESHTIN%xuKUR$GI%xuE&U%jfGI$GI4%soGI4%jf:$GIDIM$GIR2%ms$GIR3%xuAtfnx&mgx",
    "d&nx&LUtf:&ss$GISAL$mm%jfmm%xuBAD&wy%xd$GU%jfGU$GU2%xuKAK(xunxms&sa&SALtfTUG2%ms$GUD%xuAtf",
    "KUR&:%soGUD LUGAL$GUL$GUM%xuve$GUR$GUR7$GURUN$GURUSH$mt%xd%ms$HAL$HI%xugz&ASH2&BAD&ke&GAD&",
    "KIN&sa&ve&U$HU$HUB2%xuAN&HAL&ow&LISH&UD$HUL2$I%A$IB$IDIM%soIDIM BUR(wd$IG$nx%DIB%RI%sonxSH",
    "IRsoSHIR UDsoUD%ms$IL%xumgxd$IL2$IM%xuwy%jfIM%sk:%wd$IMIN$IN$IR$ISH$os%xuA&AD(tfKU3&ASH2&B",
    "AD&BALAG&he&BI&ERIN2&ESH2&GA&GAL&mgxd&mh(tfSHA3tfA&GI&GIR2&mmtfSAR(jfmm&GU&GUR7&nx&IM&KAK&",
    "KI&KID&LI&LU&ME(tfDU)GI)TE&MI(tfNUNUZ&NE&sa&PI&RU&up&SAR&vc&ve&SHID&SHU&SIG&SUHUR&TAR&U&U2",
    "&UD&UMUMxuss&USH&ZI$KA2%jfKA2$KAB$KAD2$.$.$.%soKAD5$KAK%xunxms$KAL%xuBAD%jfKAL$KAM2$KAM4$o",
    "w%pkxuUsopkxuU%soow@$KESH2$KI%xuBAD&U&UD$KID$KIN$KISAL$KISH$KISIM5%soKISIM5$KU%soHIxuASH2 ",
    "KUsoHIxuASH2$KU3$.%ywlx$KU7$KUL%ms$KUN$KUR%skKUR$KUSHU2$KWU318$pj$pk%xuA(tfjmtfmt)mh)LAL&A",
    "L&AN&gzZIDAxd&BAD&BI&DAR&EN&GA&mh&GUD(tfGUD&mt&HAL&HIxusa&nxms&IM(tfmt)LU&KI&KIN&KU3&KUL(t",
    "fHItfA&pk&LISH&LU&LUL&ME(tfEN&MUSH&NE&vetfSUM&SHITAtfmmtfERIN2*xd&SHU2(tfSHU2&SUM&TAG&wy&T",
    "EtfAtfSUtfrh&U(tfA)UtfU&U2tfgz&UD&USH%wd$LAGAR%xuve(tfSUM%ms&soLAGARmsve$LAHSHU$LAL%xuLAL$",
    "pl%xuKUR(tfRU$LI$LIL$LIMMU2$LISH$LU%xuBAD$LU2%xuAL&BAD&ESH2(xd&mg:&HIxuBAD&IM&KAD2&.(tfgz&",
    "KI&pjtfgz&pk&MEtfEN&NE&NU&SItfgz&SIK2tfBU&TUG2%xd%jfLU2%sk:%wd%vh$LU3$LUGAL%soLUGAL%sk:%vh",
    "$LUH$LUL$LUM%soLUM(mhsomh$qj%xuwy%ms$MA2$MAH$MAR$MASH$MASH2$ME$MES$MI$MIN$MU%soMU$MUG%ms$M",
    "UNSUB$MURGU2$MUSH%xuA&KUR&ZA%soMUSH(xuAtfrh%jfMUSH$MUSH3%xuA(tfDI&:%ms$rh$NA2$NAGA%oh%xuSH",
    "Uxd%skNAGA$NAGAR$NAM NUTILLU%$NAM2$NE%xuA&UD%vh$NI%xuE$NI2$NIM%xumgxd&mhtf;$NINDA2%xuAN&gz",
    "(tfgz&GUD&MEtfmgxd&NE&sa&ve(tfA AN)gz*tfgz&U2;&USH$NISAG$NU$NU11$sa%LAGARxumh(MASH(SAL)sos",
    "aLAGARxuSAL(USH%xd%sosa%jf:(LAGARsoLAGAR$NUNUZ%AB2xuASHGAB(BI(DUG(GUD(nxms(KAD3(pj(NE(SILA",
    "3(U2%KISIM5xuBI)U$ss$PAD$PAN$PAP$PESH2$PI%xuA&AB&BI&BU&E&I&IB&U&U2%jfPI$PIRIG%xuKAL&UD&ZA%",
    "skPIRIG$tw$RAB$RI$RU$up$SAG NUTILLU%%xuA&DU&DUB&mt&KAK&KUR&LUM&MI&sa&SAL&SHID&TAB&U2&UB&UM",
    "&UR&USH%soSAG%ms$SAL%pkxuASH2$SANGA2$SAR$vc$SHA3%xuA&BAD&mm&NE&SHU2&TUR&U(tfA$SHA6$SHAB6$S",
    "HAR2$ve%HU%soveGADsoGADmhsomh(TABsoTAB<$SHEG9$SHEN$SHESH$SHESH2$SHESHLAM$SHID%xuA&IM$SHIM%",
    "xuA&BAL&BULUG&DIN&mh&nx(ms&KUSHU2&LUL&MUG&SAL$SHINIG$SHIR%xd%soSHIR BURsoBUR$SHITA$SHU%soo",
    "hSHU$SHU2$SHUBUR$SI%ms$SIG$SIG4%soSIG4 SHU2$SIK2$SILA3$SU%soSU$SUD$SUD2$SUHUR$SUM$SUMASH$S",
    "UR$SUR9$wu%ha%xuHI&MI%ms$TAB%soTAB NIsoNIkesoke%wd$TAG%xuBI&GUD&ve&SHU&TUG2&UD$wy$TAR$TE%m",
    "s$TI%xd$TIL$TIR%xuwy%soTIR(GADsoGADmhsomh$TU$TUG2$TUK$TUM$TUR%soTUR ZAsoZA$U%GUD%U U%soUss",
    "sossmhsomh(SURsoSUR(UubsoUub$U2$UB$UD%KUSHU2%xuBAD&MI&UtfUtfU,ms%:%vh&xuBAD$UDUG$UM%xupk&M",
    "Etfjm&SHA3&U$UMBIN$UMUM%xuow&ss$UN%ms$UR%jfUR%vh$UR2%xuAtfmt)rh&AL&mt&sa&U2(tfgz)BI$UR4$UR",
    "I$URI3$URU%xuA&ASHGAB&he&DUN&GA&GAL&mgxd&mh&GU&mt&nx&IM&ISH&KI&LUM&MIN&ss&ve&SIG4&TU&UtfGU",
    "D&UD&URUDA$:%xuU$USH%xuA&KU&KUR&wy$USHX$USH2$USHUMX$UTUKI$UZ3%xuow$UZU$ZA%xd%wdxuKUR$ZAG$Z",
    "AMX$ZE2$ZI%soZI$ZI3$ZIB%KABAxd$ZIG$ZIZ2$ZU$ZU5%xuA$ZUBUR$ZUM$KAP ELAMITE$ABxusa$AB2xuA$AMA",
    "RxuKUG$DAG KISIM5xuU2tfMASH$DAG3$ketfSHU$DUBxuve$EZENxuGUD&ve$GA2xuANtfKAKtfA&ASH2$GE22$GI",
    "G$HUSH$osxuANSHE&ASH3&mm&GUD&HIxuASH2&LUM&ss&SHUL&TU&UR2$pkxuGI$LU2vhxuBAD%xuESH2tfLAL&SHU",
    "$MESH$MUSH3xuZA$NA4$NIN$NIN9$NINDA2xuBAL&GI$NU11ulrpDEGREES$PESH2ha$PIR2$SAGxunxms$TI2$UMx",
    "uME$U U"] },
  { first := 74752, lines := [
    "!CUNEIFORM NUMERICeylgz%xp:%ma:%lv:%vq:%uz:%ks:%rn:%xpke%ma:%lv:%vq:%uz:%ks:%rn:%maU%lv:%v",
    "q:%uz:%ks:%rn:%shGESH2%yl:%xp:%ma:%lv:%vq:%uz:%ks:%rn:%shGESHU%yl:%xp:%ma:%lv:%ylSHAR2%xp:",
    "(ywlx%maSHAR2%lv:%vq:%uz:%ks:%rn:%shSHARU%yl:%xp:(ywlx%maSHARU%lv:%SHAR2xuGALtfke*MIN%shBU",
    "RU%yl:%xp:(ywlx%maBURU%lv:%xpywlxESH16)ESH21%maywlxLIMMU)LIMMU4)LIMMU A*.%vqywlxASH9%uzywl",
    "xIMIN3)IMIN A*.%ksywlxUSSU)USSU3%rnywlxILIMMU)ILIMMU3).)ILIMMU A%ylgzxd%xp;%ma;%lv;%vq;%sh",
    "BAN2%yl:%xp:%ma:(ywlx%lvBAN2(ywlx%NIGIDAMIN%NIGIDAESH%shESHE3%yl:%shxjke%ylxk:%lvSIXTHS:%s",
    "hxjywlxA%ylxk<%shkugz&tr:%seASSYRIANshSIXTH)tr%shtrGUR&mv:%ELAMITEshxj&ylxk&ly&lq%maUywlx%",
    "lv<%vq<%uz<%ks<%rn<~#toeseASSYRIANzlDIVIDER%yxir%jy:&TRICOLON&QUADCOLON"] },
  { first := 74880, lines := [
    "!CUNEIFORMeABxusaxd&SHU2$ADxuESH2$BADxukexd$BAHAR2xuAB2&NI&ZA$BUsoBUxuNA2$jmxuwy$DAGxuKUR$",
    "DIMxunx&U U U$DIM2xuUD$DUGxuANSHE&gz(ATpr&DIN&DUN&ERIN2&GA&GI&GIR2ms&mm&mt&HI&nxms&ow&KUR&",
    "KUSHU2(tfow&LAK-020&pl(xuKUR&LUHtfmm&MASH&MES&MI&NI&PI&ve&SIms$E2xuKUR&PAP$ERIN2 X$ESH2jfE",
    "SH2$EZENvhxugz(HI(nxms(pj(LAL(ME(MES(SU%;$GA2xuBAHAR2&DIMms&DUGxunx:)ow&EREN&GA&mhtfDI)NE&",
    "mttfA&KUSHU2tfow&pl(xuKUR&LUH&MUSH&NE(tfE2)GI&SHIM&ZIZ2$GABAulrpDEGREES$GESHTINxuU$mmxummj",
    "fmm$GU2xunxms$GUDtfmmxuwy$mtxdms$HIxugzsoHIxugz$osxuBU&os&U U U&UR$pkxuZUsoZU$LAK-003$LAK-",
    "021$LAK-025$LAK-030$LAK-050$.$LAK-062$LAK-079soLAK-079ms$LAK-080$LAK-081soLAK-081$LAK-092$",
    "LAK-130$LAK-142$LAK-210$LAK-219$.$LAK-225$LAK-228$LAK-238$LAK-265$.$LAK-343$LAK-347$.$LAK-",
    "383$.$LAK-390$LAK-441$LAK-449%xuGU&nx&PAPtfLU3)PAPtf:&U2tfBA$LAK-450$LAK-457$LAK-470$LAK-4",
    "83$LAK-490$LAK-492$.$LAK-495$LAK-550$LAK-608$LAK-617%xugz&BAD&DUN3msms&KU3&pj&TAR&TE&U2&UD",
    "&URUDA$LAK-636$LAK-648%xuDUB&GA&nx(ms&NI&PAPtfPAPtfLU3&SHESHtfKI&UD&URUDA$LAK-724$LAK-749$",
    "LU2msxugz%xuke&HAL&PAP(tfPAPtfLU3&wy$MItfZA7$MUSHsoMUSHxuGA)KAK$NINDA2xuDIMms&mm&GUL&HI&KE",
    "SH2&LAK-050&MASH&PAPtfPAP&U(tfU&URUDA$SAGmsxumt%xuEN&veATpr&wy$SHA6xd$vesove%tfHUB2&NAM2&S",
    "AR$SHU2tfDUGxuNI&E2xuAN$SIxuwy$wytfSAG$TUMxumgxd&xpke$UR2oh%xuUD$URUxuDARA3&LAK-668&LU3$ZA",
    "7$ZUsoZUtfSAR$ZU5xuxpkexd"] },
  { first := 77712, lines := [
    "!CYPRO-MINOANeCM001$.$CM004$.$.$.$.$.$.$.$.$CM012B$CM013$CM015$CM017$CM019$CM021$CM023$.$.",
    "$.$.$.$.$.$CM033$.$.$.$.$.$.$.$.$CM044$CM046$.$CM049$.$.$.$.$.$.$.$CM058$.$.$.$.$.$.$CM066",
    "$.$.$.$.$.$.$.$.$.$CM075B$CM076$CM078$.$.$.$.$.$.$.$.$.$.$.$.$.$.$CM094$.$.$.$.$.$.$.$.$.$",
    ".$.$CM107$.$.$.$CM112$CM114$CM301$."] },
  { first := 77824, lines := [
    "!EGYPTIAN HIEROGLYPH A001$.$.$.$.$A005A$A006$A006A$A006B$A007$.$.$.$.$.$.$.$A014A$A015$.$.",
    "$A017A$A018$.$.$.$.$.$.$.$.$.$.$.$.$.$.$A032A$A033$.$.$.$.$.$.$.$A040A$A041$.$A042A$A043$A",
    "043A$A044$.$A045A$A046$.$.$.$.$.$.$.$.$.$.$.$.$.$.$.$.$.$.$.$.$.$.$.$.$B001$.$.$.$.$B005A$",
    "B006$.$.$.$C001$.$C002A$C002B$C002C$C003$.$.$.$.$.$.$.$C010A$C011$.$.$.$.$.$.$.$.$.$.$.$.$",
    ".$D001$.$.$.$.$.$.$.$D008A$D009$.$.$.$.$.$.$.$.$.$.$.$.$.$.$.$.$.$.$D027A$D028$.$.$.$D031A",
    "$D032$.$.$D034A$D035$.$.$.$.$.$.$.$.$.$.$.$D046A$D047$.$D048A$D049$.$D050A$D050B$D050C$D05",
    "0D$D050E$D050F$D050G$D050H$D050I$D051$.$D052A$D053$.$D054A$D055$.$.$.$.$.$.$.$.$.$.$.$.$D0",
    "67A$D067B$D067C$D067D$D067E$D067F$D067G$D067H$E001$.$.$.$.$.$.$.$E008A$E009$E009A$E010$.$.",
    "$.$.$.$.$E016A$E017$E017A$E018$.$.$E020A$E021$.$.$.$.$.$.$.$E028A$E029$.$.$.$.$.$E034A$E03",
    "6$.$.$F001$F001A$F002$.$.$.$.$.$.$.$.$.$.$.$F013A$F014$.$.$.$.$.$.$.$F021A$F022$.$.$.$.$.$",
    ".$.$.$.$F031A$F032$.$.$.$.$.$F037A$F038$F038A$F039$.$.$.$.$.$.$F045A$F046$F046A$F047$F047A",
    "$F048$.$.$.$F051A$F051B$F051C$F052$.$G001$.$.$.$.$.$G006A$G007$G007A$G007B$G008$.$.$.$G011",
    "A$G012$.$.$.$.$.$.$.$.$G020A$G021$.$.$.$.$.$G026A$G027$.$.$.$.$.$.$.$.$.$G036A$G037$G037A$",
    "G038$.$.$.$.$.$G043A$G044$.$G045A$G046$.$.$.$.$.$.$.$.$H001$.$.$.$.$.$H006A$H007$.$I001$.$",
    ".$.$.$I005A$I006$.$.$.$I009A$I010$I010A$I011$I011A$I012$.$.$.$K001$.$.$.$.$.$.$.$L001$.$L0",
    "02A$L003$.$.$.$L006A$L007$.$M001$M001A$M001B$M002$.$M003A$M004$.$.$.$.$.$.$M010A$M011$.$M0",
    "12A$M012B$M012C$M012D$M012E$M012F$M012G$M012H$M013$.$.$M015A$M016$M016A$M017$M017A$M018$.$",
    ".$.$.$M022A$M023$.$M024A$M025$.$.$.$M028A$M029$.$.$M031A$M032$.$M033A$M033B$M034$.$.$.$.$.",
    "$.$M040A$M041$.$.$.$N001$.$.$.$.$.$.$.$.$.$.$.$.$.$.$.$.$.$N018A$N018B$N019$.$.$.$.$.$.$N0",
    "25A$N026$.$.$.$.$.$.$.$N033A$N034$N034A$N035$N035A$N036$.$N037A$N038$.$.$.$.$NL001$.$.$.$.",
    "$NL005A$NL006$.$.$.$.$.$.$.$.$.$.$.$NL017A$NL018$.$.$NU001$.$.$.$.$.$.$.$.$.$NU010A$NU011$",
    "NU011A$NU012$.$.$.$.$.$.$NU018A$NU019$.$.$.$NU022A$O001$O001A$O002$.$.$.$O005A$O006$O006A$",
    "O006B$O006C$O006D$O006E$O006F$O007$.$.$.$O010A$O010B$O010C$O011$.$.$.$.$.$.$.$.$O019A$O020",
    "$O020A$O021$.$.$.$O024A$O025$O025A$O026$.$.$.$O029A$O030$O030A$O031$.$.$O033A$O034$.$.$O03",
    "6A$O036B$O036C$O036D$O037$.$.$.$.$.$.$.$.$.$.$.$.$.$O050A$O050B$O051$P001$P001A$P002$.$P00",
    "3A$P004$.$.$.$.$.$.$.$Q001$.$.$.$.$.$.$R001$.$R002A$R003$R003A$R003B$R004$.$.$.$.$.$.$R010",
    "A$R011$.$.$.$.$.$R016A$R017$.$.$.$.$.$.$.$.$.$.$.$.$S001$.$S002A$S003$.$.$.$S006A$S007$.$.",
    "$.$.$.$.$.$S014A$S014B$S015$.$.$S017A$S018$.$.$.$.$.$.$.$.$S026A$S026B$S027$.$.$.$.$.$.$.$",
    ".$S035A$S036$.$.$.$.$.$.$.$.$.$.$T001$.$.$T003A$T004$.$.$.$T007A$T008$T008A$T009$T009A$T01",
    "0$.$T011A$T012$.$.$.$.$T016A$T017$.$.$.$.$.$.$.$.$.$.$.$.$.$.$.$T032A$T033$T033A$T034$.$.$",
    "U001$.$.$.$.$.$U006A$U006B$U007$.$.$.$.$.$.$.$.$.$.$.$.$.$.$.$.$U023A$U024$.$.$.$.$.$U029A",
    "$U030$.$.$U032A$U033$.$.$.$.$.$.$.$.$.$V001$V001A$V001B$V001C$V001D$V001E$V001F$V001G$V001",
    "H$V001I$V002$V002A$V003$.$.$.$.$V007A$V007B$V008$.$.$.$V011A$V011B$V011C$V012$V012A$V012B$",
    "V013$.$.$.$.$.$.$.$V020A$V020B$V020C$V020D$V020E$V020F$V020G$V020H$V020I$V020J$V020K$V020L",
    "$V021$.$.$V023A$V024$.$.$.$.$V028A$V029$V029A$V030$V030A$V031$V031A$V032$.$V033A$V034$.$.$",
    ".$V037A$V038$.$.$V040A$W001$.$.$W003A$W004$.$.$.$.$.$W009A$W010$W010A$W011$.$.$.$W014A$W01",
    "5$.$.$W017A$W018$W018A$W019$.$.$.$.$.$W024A$W025$X001$.$.$.$X004A$X004B$X005$.$X006A$X007$",
    ".$X008A$Y001$Y001A$Y002$.$.$.$.$.$.$Z001$.$Z002A$Z002B$Z002C$Z002D$Z003$Z003A$Z003B$Z004$Z",
    "004A$Z005$Z005A$Z006$.$.$.$.$.$.$.$.$.$Z015A$Z015B$Z015C$Z015D$Z015E$Z015F$Z015G$Z015H$Z01",
    "5I$Z016$Z016A$Z016B$Z016C$Z016D$Z016E$Z016F$Z016G$Z016H$AA001$.$.$.$.$.$.$AA007A$AA007B$AA",
    "008$.$.$.$.$.$.$.$.$.$.$.$.$.$.$.$.$.$.$.$.$.$.$.$.~$yxJOINER$nr:$INSERT ATxxSTART&ht:&xxk",
    "z&ht:$sqqt$BEGIN SEGMENT$kz:"] },
  { first := 82944, lines := [
    "!ANATOLIAN HIEROGLYPH A001$.$.$.$.$.$.$.$.$.$A010A$A011$.$.$.$.$.$.$.$.$.$.$.$.$.$.$.$A026",
    "A$A027$.$.$.$.$.$.$.$.$.$.$.$.$A039A$A040$.$A041A$A042$.$.$.$A045A$A046$A046A$A046B$A047$.",
    "$.$.$.$.$.$.$.$.$.$.$.$.$.$.$.$.$.$.$A066A$A066B$A066C$A067$.$.$.$.$.$.$.$.$.$.$.$.$.$.$.$",
    ".$.$.$.$.$.$.$.$.$.$.$.$.$.$.$A097A$A098$A098A$A099$.$A100A$A101$A101A$A102$A102A$A103$.$A",
    "104A$A104B$A104C$A105$A105A$A105B$A106$.$A107A$A107B$A107C$A108$.$.$A110A$A110B$A111$.$.$.",
    "$.$A115A$A116$.$.$.$.$.$.$.$.$.$A125A$A126$.$.$.$.$.$.$.$.$.$A135A$A136$.$.$.$.$.$.$.$.$.$",
    ".$.$.$.$.$.$.$.$.$.$.$.$.$.$.$.$.$.$.$.$.$.$.$.$.$.$.$.$.$.$.$.$.$.$.$.$.$.$.$.$.$.$.$.$.$",
    ".$.$.$.$.$.$.$.$.$.$.$.$A202A$A202B$A203$.$.$.$.$A207A$A208$.$A209A$A210$.$.$.$.$.$A215A$A",
    "216$A216A$A217$.$.$.$.$.$.$.$.$.$.$A227A$A228$.$.$.$.$.$.$.$.$.$.$.$.$.$.$.$.$.$.$.$.$.$.$",
    ".$.$.$.$.$.$.$.$.$.$.$.$.$.$.$.$.$A267A$A268$.$.$.$.$.$.$.$.$.$.$.$.$.$.$.$.$.$.$.$.$.$A28",
    "9A$A290$.$.$.$.$A294A$A295$.$.$.$.$A299A$A300$.$.$.$.$.$.$.$.$.$A309A$A310$.$.$.$.$.$.$.$.",
    "$.$.$.$.$.$.$.$.$.$.$.$A329A$A330$.$A332A$A332B$A332C$A333$.$.$.$A336A$A336B$A336C$A337$.$",
    ".$.$.$.$.$.$.$.$.$.$.$.$.$.$.$.$.$.$.$.$.$A359A$A360$.$.$.$.$A364A$A365$.$.$.$A368A$A369$.",
    "$.$A371A$A372$.$.$.$.$.$.$.$.$.$A381A$A382$A383twOR RI$A383A$A384$.$.$A386A$A387$.$.$.$.$.",
    "$A393ks$A394$.$.$.$.$.$.$.$.$.$.$.$.$.$.$.$A410 BEGIN LOGOGRAMqo$A410Akz;$A411$.$.$.$.$.$.",
    "$.$.$.$.$.$.$.$.$.$.$.$.$.$.$.$.$.$.$.$.$.$.$.$.$.$.$.$.$.$.$.$.$.$A450A$A451$.$.$.$.$.$.$",
    "A457A$A458$.$.$.$.$.$.$.$.$.$.$.$.$.$.$.$.$.$.$.$.$.$.$.$.$.$.$.$.$.$.$.$.$.$.$.$.$.$.$.$A",
    "501$.$.$.$.$.$.$.$.$.$.$.$.$.$.$.$.$.$.$.$.$.$.$.$.$.$.$.$.$."] },
  { first := 92160, lines := [
    "!BAMUMbPHASE-A NGKUE MFON%GBIEE FON%PON MFON PIPAEMGBIEE(PIPAEMBA%NAA MFON%SHUENSHUET%TITA",
    " MFON%NZA:%SHINDAssNJI%PONssNJI PIPAEMGBIEE)PIPAEMBA%MAEMBGBIEE%TU MAEMBA%NGANGU%MAEMVEUX%",
    "MANSUAE%MVEUAENGAM%SEUNYAM%NTOQPEN%KEUKEUTNDA%NKINDI%SUU%NGKUENZEUM%LAPAQ%LET KUT%NTAP MFA",
    "A%MAEKEUP%PASHAE%GHEUAERAE%PAMSHAE%MON NGGEUAET%NZUN MEUT%U YUQ NAE%GHEUAEGHEUAE%NTAP NTAA",
    "%SISA%MGBASA%MEUNJOMNDEUQ%MOOMPUQ%KAFA%ssLEERAEWA%NDA:%PET%MAEMKPEN%NIKA%PUP%TUAEP%LUAEP%S",
    "ONJAM%TEUTEUWEN%MAENYI%KET%NDAANGGEUAET%KUOQ%MOOMEUT%SHUM%LOMMAE%FIRI%ROM%KPOQ%SOQ%MAP PIE",
    "ET%SHIRAE%NTAP%SHOQ NSHUT YUM%NYIT MONGKEUAEQ%PAARAE%NKAARAE%UNKNOWN%NGGEN%MAESI%NJAM%MBAN",
    "YI%NYET%TEUAEN%SOT%PAAM%NSHIEE%MAEM%NYI%KAQ%NSHA%VEE%LU%NEN%NAQ%MBAQ$PHASE-B NSHUET%TU MAE",
    "MGBIEE%SIEE%SET TU%LOM NTEUM%MBA MAELEE%KIEEM%YEURAE%MBAARAE%KAM%PEESHI%YAFU LEERAEWA%plNS",
    "HUT NYAM%NTIEE SHEUOQ%NDU NJAA%GHEUGHEUAEM%PIT%TU NSIEE%SHET NJAQ%SHEUAEQTU%MFON TEUAEQ%MB",
    "IT MBAAKET%NYI NTEUM%KEUPUQ%GHEUGHEN%KEUYEUX%LAANAE%PARUM%VEUM%NGKINDI MVOP%NGGEU MBU%WUAE",
    "T%SAKEUAE%TAAM%MEUQ%NGGUOQ&po%MFIYAQ%SUE%MBEURI%MONTIEEN%NYAEMAE%PUNGAAM%MEUT NGGEET%FEUX%",
    "MBUOQ%FEE%KEUAEM%qjNJEUAENA&NJUQA%LET%NGGAAM%NSEN%qj%KIQ%NGOM$PHASE-C NGKUE MAEMBA%NZA%YUM",
    "%WANGKUOQ%NGGEN%NDEUAEREE%NGKAQ%GHARAE%MBEEKEET%GBAYI%NYIR MKPARAQ MEUN%NTU MBIT%MBEUM%PIR",
    "IEEN%NDOMBU%MBAA CABBAGE-TREE%KEUSHEUAEP%GHAP%KEUKAQ%YU MUOMAE%NZEUM%MBUE%NSEUAEN%MBIT%YEU",
    "Q%KPARAQ%KAA%SEUX%NDIDA%TAASHAE%NJUEQ%TITA YUE%SUAET%NGGUAEN NYAM%VEUX%NANSANAQ%qjKEUAERI%",
    "NTAA%NGGUON%LAP%MBIRIEEN%MGBASAQ%NTEUNGBA%TEUTEUX%NGGUM%FUE%NDEUT%NSA%NSHAQ%BUNG%VEUAEPEN%",
    "MBERAE%RU%NJAEM%pl%TITUAEP%NSUOT NGOM%NJEEEE%KET%NGGU%MAESI%MBUAEM%LU%KUT%NJAM%NGOM%WUP%NG",
    "GUEET%NSOM%NTEN%KUOP NKAARAE%NSUN%NDAM%qjNSIEE%YAA%NDAP%SHUEQ%SETFON%MBI%MAEMBA%MBANYI%KEU",
    "SEUX%MBEUX%KEUM%MBAA PICKET%YUWOQ%NJEUX%MIEE%MUAE%SHIQ%KEN LAW&FATIGUE%NGAQ%NAQ%LIQ%PIN%PE",
    "N%TET$PHASE-D MBUO%WAP%NJI%MFON%NJIEE%LIEE%NJEUT%NSHEE%NGGAAMAE%NYAM%WUAEN%NGKUN%SHEE%NGKA",
    "P%KEUAETMEUN%TEUT%SHEUAE%NJAP%SUE%KET%YAEMMAE%KUOM%SAP%MFEUT%NDEUX%MALEERI%MEUT%SEUAEQ%YEN",
    "%NJEUAEM%KEUOT MBUAE%NGKEURI%TU%GHAA%NGKYEE%FEUFEUAET%NDEE%MGBOFUM%LEUAEP%NDON%MONI%MGBEUN",
    "%PUUT%MGBIEE%MFO%LUM%NSIEEP%MBAA%KWAET%NYET%TEUAEN%SOT%YUWOQ%KEUM%RAEM%TEEEE%NGKEUAEQ%MFEU",
    "AE%NSIEET%KEUP%PIP%PEUTAE%NYUE%LET%NGGAAM%MFIEE%NGGWAEN%YUOM%PAP%YUOP%NDAM%NTEUM%SUAE%KUN%",
    "NGGEUX%NGKIEE%TUOT%MEUN%KUQ%NSUM%TEUN%MAENJET%NGGAP%LEUM%NGGUOM%NSHUT%NJUEQ%GHEUAE%KU%RENs",
    "e%TAE%TOQ%NYI%RII%LEEEE%MEEEE%M%SUU%MU%SHII%SHEUX%KYEE%NU%SHU%NTEE%PEE%NI%SHOQ%PUQ%MVOP%LO",
    "Q%REN MUCH%TI%NTUU%MBAAuz%SAQ%FAA$PHASE-E NDAP%TOON%MBEUM%LAP%VOM%LOON%PAA%SOM%RAQ%NSHUOP%",
    "NDUN%PUAE%TAM%NGKA%KPEUX%WUO%SEE%NGGEUAET%PAAM%TOO%KUOP%LOM%NSHIEE%NGOP%MAEM%NGKEUX%NGOQ%N",
    "SHUE%RIMGBA%NJEUX%PEEM%SAA%NGGURAE%MGBA%GHEUX%NGKEUAEM%NJAEMLI%MAP%LOOT%NGGEEEE%NDIQ%TAEN ",
    "NTEUM%SET%PUM%NDAA SOFTNESS%NGGUAESHAE NYAM%YIEE%GHEUN%TUAE%YEUAE%PO%TUMAE%KEUAE%SUAEN%TEU",
    "AEQ%VEUAE%WEUX%LAAM%PU%TAAQ%GHAAMAE%NGEUREUT%SHEUAEQ%MGBEN%MBEE%NZAQ%NKOM%GBET%TUM%KUET%YA",
    "P%NYI CLEAVER%YIT%MFEUQ%NDIAQ%PIEEQ%YUEQ%LEUAEM%FUE%GBEUX%NGKUP%KET%MAE%NGKAAMI%GHET%FA%NT",
    "UM%PEUT%YEUM%NGGEUAE%NYIhm%NZUQ%POON%MIEE%FUET%NAE%MUAE%GHEUAE%FU I%MVI%PUAQ%NGKUM%KUT%PIE",
    "T%NTAP%YEUAET%NGGUP%ssPEOPLE%FU CALL%FOM%NJEE%A%TOQ%O%I%LAQ%ssPLURAL%TAA%TAQ%NDAA MY HOUSE",
    "%SHIQ%YEUX%NGUAE%YUAEN%YOQ SWIMMING&COVER%YUQ%YUN%KEUX%PEUX%NJEE EPOCH%PUE%WUE%FEE%VEE%LU%",
    "MI%REUX%RAE%NGUAET%rm%SHO%SHOQ%FU REMEDY%rh%PI%LOQ%KO%MEN%qj%MAQ%TEU%KI%MON%xc%FAQ%GHOM$PH",
    "ASE-Fos%U%KU%EE%REE%TAE%NYI%pj%RII%RIEE%MEEEE%TAA%NDAA%NJAEM%M%SUU%SHII%SI%SEUX%KYEE%KET%N",
    "UAE%NU%NJUAE%YOQ%SHU%zp%NSHA%PEUX%NTEE%WUE%PEE%RU%NI%REUX%KEN%NGKWAEN%NGGA%SHO%PUAE%FOM%WA",
    "%LI%LOQ%KO%MBEN%REN%qj%MO%MBAA%TET%KPA%SAMBA%VUEQ~~~~~~~!MRObwu$NGI$YO$MIM$BA$jm$A$tb$KHAI",
    "$HAO$DAI$CHU$KEAAE$OL$MAEM$NIN$ss$OO$O$RO$SHI$THEA$EA$WA$E$KO$LAN$pj$HAI$RI$TEK~#kczy$sh$y",
    "l$xp$ma$lv$vq$uz$ks$rn~~~~#jp#kk:!TANGSAbOZ$OC$OQ$OX$AZ$AC$AQ$AX$VZ$VC$VQ$VX$EZ$EC$EQ$EX$I",
    "Z$IC$IQ$IX$UZ$UC$UQ$UX$AWZ$AWC$AWQ$AWX$UIZ$UIC$UIQ$UIX$lsNG$qeUEX$vjUEZ%AWX$UEC$UEZ$UEQ$UE",
    "X$UIUZ$UIUC$UIUQ$UIUX$MZ$MC$MQ$MX$os$pb$GA$rm$up$zp$WA$ss$sb$ta$BA$qj$rh$mt$pj$HTA$wu$jm$t",
    "w$NHA$vc$CA$yd$mj$HTTA$xe$XA$FA$jw$ig$ZA~#kczy$sh$yl$xp$ma$lv$vq$uz$ks$rn~~~~~~!BASSA VAHb",
    "ENNI%os%SE%FA%MBE%YIE%GAH%DHII%KPAH%JO%HWAH%WA%ZO%GBU%DO%CE%UWU%xv%BA%VU%YEIN%ss%WADDA%A%O",
    "%OO%U%EE%E%I~~$isnmxw%qg:%MID:%LOW-MID:%HIGH-LOW:$mewg~~~~~~~~~~!PAHAWH HMONGzeKEEB%KEEV%K",
    "IB%KIV%KAUB%KAUV%KUB%KUV%KEB%KEV%KAIB%KAIV%KOOB%KOOV%KAWB%KAWV%KUAB%KUAV%KOB%KOV%KIAB%KIAV",
    "%KAB%KAV%KWB%KWV%KAAB%KAAV$iwVAU%NTSAU%LAU%HAU%NLAU%RAU%NKAU%QHAU%YAU%HLAU%MAU%CHAU%NCHAU%",
    "HNAU%PLHAU%NTHAU%NAU%AU%XAU%CAU$qoCIM TUB&SO&KES&KHAV&SUAM&HOM&TAUM$eVOS THOM&TSHAB CEEB%C",
    "IM CHEEM%VOS THIAB&FEEM%XYEEM NTXIV&uc&TOV&FAIB%VOS SEEV%MEEJ SUAB%VOS NRUA%IB YAM%XAUS%CI",
    "M TSOV ROG~~~~~~~~~~$kczy%sh%yl%xp%ma%lv%vq%uz%ks%rn~$ryTENS%HUNDREDS%xcxo%MILLIONS%nt:%xc",
    "BILLIONS%TRILLIONS~$eVOS LUB%XYOO%HLI%THIRD-STAGE:%ZWJ THAJ%HNUB%NQIG%XIAB%NTUJ%AV%TXHEEJ ",
    "CEEV%MEEJ TSEEB%TAU%LOS%MUS%CIM HAIS LUS NTOG NTOG&CUAM TSHOOJ&TXWV(CHWV&PUB DAWB&NRES TOS",
    "~~~~~$CLANeTSHEEJ&YEEG&LIS&LAUJ&XYOOJ&KOO&HAWJ&MUAS&THOJ&TSAB&PHAB&KHAB&HAM&VAJ&FAJ&YAJ&TS",
    "WB&KWM&VWJ"] },
  { first := 93760, lines := [
    "!MEDEFAIDRINdbM%S%V%.%ATIU%Z%KP%P%T%G%F%I%K%A%J%E%B%.%U%YU%L%Q%HP%NY%X%D%OE%N%R%O%AI%Y#cbM",
    "%S%V%.%ATIU%Z%KP%P%T%G%F%I%K%A%J%E%B%.%U%YU%L%Q%HP%NY%X%D%OE%N%R%O%AI%Y#kczy$sh$yl$xp$ma$l",
    "v$vq$uz$ks$rn#ryxc$ky$yj$xl$mb$lp$vr$va$kt$ro#kcshgklx$yl;$xp;#it#mewg#wtAIVA#lfOH"] },
  { first := 93952, lines := [
    "!MIAObss$BA$YIss$PLA$qj$MHA$guqj$FA$VA$VFA$wu$jm$YIyg%wu$yg$js$rh$NHA$YIrq$gurh$rq$NNHA$pj",
    "$LYA$LHA$LHYA$TLHA$DLHA$TLHYA$DLHYA$os$GA$YIos$QA$QGA$rm$NGHA$gurm$mt$XA$mj$GHHA$TSSA$DZZA",
    "$sb$NYHA$ye$DZHA$YIye%DZHA$REFORMEDye$vc$we$ZHA$ZSHA$yd$DZA$YIyd$up$ZA$ZSA$ZZA$ZZSA$guZZA$",
    "ZZYA$ZZSYA$WA$AH$HHA$BRI$SYI$DZYI$TE$TSE$RTE~~~~#eiwqvhe#bNASALIZATION#eASPIRATION$REFORME",
    "D VOICING%ASPIRATION#zeeA%AA%AHH%AN%ANG%O%OO%WO%W%E%EN%ENG%OEY%I%IA%IAN%IANG%IO%IE%II%IU%I",
    "NG%U%UA%UAN%UANG%UU%UEI%UNG%Y%YI%AE%AEE%ERR%uo:%ER%uo:%AI%EI%AU%OU%N%NG%UOG%YUI%OG%OER%VW%",
    "IG%EA%IONG%UI~~~~~~~#xwue$xx:$gb$hh#bTONE-2$.$.$.$.$.$.$REFORMED TONE-1%.%TONE-4%.%.%TONE-",
    "8"] },
  { first := 94176, lines := ["!TANGUTomqo!NUSHU;!seCHINESEnq:$om:!KHITANcuulr"] },
  { first := 94192, lines := ["!VIETNAMESEgkREADINGqoCA&NHAY"] },
  { first := 100352, lines := [
    "!TANGUT COMPONENT-001#.#.#.#.#.#.#.#.#.#.#.#.#.#.#.#.#.#.#.#.#.#.#.#.#.#.#.#.#.#.#.#.#.#.#",
    ".#.#.#.#.#.#.#.#.#.#.#.#.#.#.#.#.#.#.#.#.#.#.#.#.#.#.#.#.#.#.#.#.#.#.#.#.#.#.#.#.#.#.#.#.#",
    ".#.#.#.#.#.#.#.#.#.#.#.#.#.#.#.#.#.#.#.#.#.#.#.#.#.#.#.#.#.#.#.#.#.#.#.#.#.#.#.#.#.#.#.#.#",
    ".#.#.#.#.#.#.#.#.#.#.#.#.#.#.#.#.#.#.#.#.#.#.#.#.#.#.#.#.#.#.#.#.#.#.#.#.#.#.#.#.#.#.#.#.#",
    ".#.#.#.#.#.#.#.#.#.#.#.#.#.#.#.#.#.#.#.#.#.#.#.#.#.#.#.#.#.#.#.#.#.#.#.#.#.#.#.#.#.#.#.#.#",
    ".#.#.#.#.#.#.#.#.#.#.#.#.#.#.#.#.#.#.#.#.#.#.#.#.#.#.#.#.#.#.#.#.#.#.#.#.#.#.#.#.#.#.#.#.#",
    ".#.#.#.#.#.#.#.#.#.#.#.#.#.#.#.#.#.#.#.#.#.#.#.#.#.#.#.#.#.#.#.#.#.#.#.#.#.#.#.#.#.#.#.#.#",
    ".#.#.#.#.#.#.#.#.#.#.#.#.#.#.#.#.#.#.#.#.#.#.#.#.#.#.#.#.#.#.#.#.#.#.#.#.#.#.#.#.#.#.#.#.#",
    ".#.#.#.#.#.#.#.#.#.#.#.#.#.#.#.#.#.#.#.#.#.#.#.#.#.#.#.#.#.#.#.#.#.#.#.#.#.#.#.#.#.#.#.#.#",
    ".#.#.#.#.#.#.#.#.#.#.#.#.#.#.#.#.#.#.#.#.#.#.#.#.#.#.#.#.#.#.#.#.#.#.#.#.#.#.#.#.#.#.#.#.#",
    ".#.#.#.#.#.#.#.#.#.#.#.#.#.#.#.#.#.#.#.#.#.#.#.#.#.#.#.#.#.#.#.#.#.#.#.#.#.#.#.#.#.#.#.#.#",
    ".#.#.#.#.#.#.#.#.#.#.#.#.#.#.#.#.#.#.#.#.#.#.#.#.#.#.#.#.#.#.#.#.#.#.#.#.#.#.#.#.#.#.#.#.#",
    ".#.#.#.#.#.#.#.#.#.#.#.#.#.#.#.#.#.#.#.#.#.#.#.#.#.#.#.#.#.#.#.#.#.#.#.#.#.#.#.#.#.#.#.#.#",
    ".#.#.#.#.#.#.#.#.#.#.#.#.#.#.#.#.#.#.#.#.#.#.#.#.#.#.#.#.#.#.#.#.#.#.#.#.#.#.#.#.#.#.#.#.#",
    ".#.#.#.#.#.#.#.#.#.#.#.#.#.#.#.#.#.#.#.#.#.#.#.#.#.#.#.#.#.#.#.#.#.#.#.#.#.#.#.#.#.#.#.#.#",
    ".#.#.#.#.#.#.#.#.#.#.#.#.#.#.#.#.#.#.#.#.#.#.#.#.#.#.#.#.#.#.#.#.#.#.#.#.#.#.#.#.#.#.#.#.#",
    ".#.#.#.#.#.#.#.#.#.#.#.#.#.#.#.#.#.#.#.#.#.#.#.#.#.#.#.#.#.#.#.#.#.#.#.#.#.#.#.#.#.#.#.#.#",
    ".#.#.#.#.#.#.#.#.#.#.#.#."] },
  { first := 110576, lines := [
    "!oybMINNAN TONE-2%.%.%.~%TONE-7%.%NASALIZED TONE-1&.&.&.&.~&TONE-7&.~$guE!nobguYE!HENTAIGA",
    "NAbA-1$.$.$A-WO$I-1$.$.$.$U-1$.$.$.$.$E-2$.$.$.$.$O-1$.$.$KA-1$.$.$.$.$.$.$.$.$.$.$KA-KE$K",
    "I-1$.$.$.$.$.$.$.$KU-1$.$.$.$.$.$.$KE-1$.$.$.$.$.$KO-1$.$.$KO-KI$SA-1$.$.$.$.$.$.$.$SI-1$.",
    "$.$.$.$.$SU-1$.$.$.$.$.$.$.$SE-1$.$.$.$.$SO-1$.$.$.$.$.$.$TA-1$.$.$.$TI-1$.$.$.$.$.$.$TU-1",
    "$.$.$.$TU-TO$TE-1$.$.$.$.$.$.$.$.$TO-1$.$.$.$.$.$TO-RA$NA-1$.$.$.$.$.$.$.$.$NI-1$.$.$.$.$.",
    "$.$NI-TE$NU-1$.$.$NE-1$.$.$.$.$.$NE-KO$NO-1$.$.$.$.$HA-1$.$.$.$.$.$.$.$.$.$.$HI-1$.$.$.$.$",
    ".$.$HU-1$.$.$HE-1$.$.$.$.$.$.$HO-1$.$.$.$.$.$.$.$MA-1$.$.$.$.$.$.$MI-1$.$.$.$.$.$.$MU-1$.$",
    ".$.$ME-1$.$ME-MA$MO-1$.$.$.$.$.$YA-1$.$.$.$.$YA-YO$YU-1$.$.$.$YO-1$.$.$.$.$.$RA-1$.$.$.$RI",
    "-1$.$.$.$.$.$.$RU-1$.$.$.$.$.$RE-1$.$.$.$RO-1$.$.$.$.$.$WA-1$.$.$.$.$WI-1$.$.$.$.$WE-1$.$.",
    "$.$WO-1$.$.$.$.$.$.$N-MU-MO-1$.!nobguWU!oybguYI%YE%WU"] },
  { first := 110928, lines := ["!nobcWI%WE%WO"] },
  { first := 110948, lines := ["!oybcWI%WE%WO%N"] }]

end QueryTelemetry.Text.Name
