import QueryTelemetry.Text.Name.Run

/-!
# Names of signs

Names of the characters from U+20D0 to U+4DFF: arrows, signs of mathematics and technique, shapes,
braille, kana, and the parts of ideographs.
-/

namespace QueryTelemetry.Text.Name

/-- The names from U+20D0 to U+4DFF. -/
def signs : List Run := [
  { first := 8400, lines := [
    "!isprnggb#ue;#qeyxqasq#vj<#gogwgb#ip;#pr;#ue;#ujsq#ip;#go;#xpkigb#ma;#ENCLOSINGim$wc$ka$im",
    "hd#pruegwgb#ENCLOSING SCREEN$KEYCAP$UPWARDtixz#uavxsq#kkyxwi:#ANNUITYwt#ycUNDERDOT#WIDE BR",
    "IDGEgb#pugwsq#qekkvx:#uingahfkp#pu=#prgwhh#ue;#hagb"] },
  { first := 8448, lines := [
    "!ACCOUNTsc!ADDRESSEDxvxfSUBJECT!kmdC!DEGREE CELSIUS!ifqawt!CAREsc!CADA UNA!EULER CONSTANT!",
    "SCRUPLE!DEGREE FAHRENHEIT!uucG#dH!hq;!km;!PLANCK CONSTANT$soylPI!uudI!hq;!uudL#c:!L Bhewt!",
    "kmdN!NUMEROe!vyRECORDING COPYRIGHT!uudP!km;$.!uudR!hq;!km;!PRESCRIPTION TAKE!RESPONSE!SERV",
    "ICEqo!xbe!TRADEqo:!VERSICLE!kmdZ!OUNCEe!OHM:!oh;!hqdZ!yimqcboi!KELVINe!ANGSTROM:!uudB!hqdC",
    "!ESTIMATEDwt!uucE#d:$.!yi;!uudM#cO!gfwt!BET:!ml:!DALET:!INFORMATION SOURCE!uldQ!FACSIMILEe",
    "!kmcPI$mf#d:$PI#N-ARY SUMMATION!yiusdG%L!ub<!yiusdY!kmoldD$c:%.%I%.!PROPERTYqa!yigm!PERe!A",
    "KTIESELSKAB!yicF!wtlwSAMARITAN SOURCE!VULGARmcshSEVENTH%NINTH%TENTH%xj$ylxk$shFIFTH$ylFIFT",
    "HS$xp:$ma:$shSIXTH$lvSIXTHS$shku$xpkv$lv:$uz:!mcNUMERATORsh!ROMANrz:$yl$xp$ma$lv$vq$uz$ks$",
    "rn$xc$ky$yj$lq$shnt$lv:$shxn!cROMANrzsh%yl%xp%ma%lv%vq%uz%ks%rn%xc%ky%yj%lq%shnt%lv:%shxn!",
    "ROMANrzshxnC D$lvxn$xc:$ubshnt!pqcbubC!ROMANrzvqLATElx$lqEARLY:%xn$shnt:!VULGARmczyxk!yikc",
    "yl$xp~~~~!pugw!yu:!ui:!kp:!prue:!ypkn:!rtzi:#kr:!vz;#zi:!pugwawi!ui<!puzggw!ui;!puylHEADED",
    ":!yu<!ui<!kp<!pugwawx!ui<!pugwmdhe!yu<!ui<!kp<!ypkngwaBASE!pugwanq!ui<!pugwaqf!ui<!pruezgg",
    "w$gwawi!kpzzgw!yugwaTIPpu&ui!kpgwaTIPpu&ui!uigwajakp!kpgwajapu!goxxSEMICIRCLEgw!ip<!rtzigw",
    "xvqehe!pugwxvhesouigwxv:!gosiimgw!ip<!pungahfyu&kp!yungahfui&pu!uingahfyu&kp!kpngahfui&pu!",
    "uigwsopugw!yugwpusckp:!pugwsoui:#PAIREDgy!yu;!ui;!kp;!pungsouing!uingsopu:!pukkgwawi!prue=",
    "!ui=!pukkgw!yu;!ui;!kp;!prue;!ypkn;!rtzi;#kr;!vz<#zi;!puyc:!ui;!puSQUIGGLE:!ui;!yugwakkwi!",
    "kp=!puDASHEDgw!yu;!ui;!kp;!pugwxvhe!ui<!puzkgw!yu;!ui;!kp;!yuzkgwmdhe%ON PEDESTAL(anrhe)yx",
    ":$kkgw&ON PEDESTAL!uizkgwmdWALL!rtzigwxvja!vzkr<!ypknzkgw!uegwacim!kpgwpuscyugw!xpuigy!pug",
    "wayxwi!ui=!prue=!pugwakk;!ui>!prue>!puOPEN-HEADEDgw!ui;!prue;!lwALL!COMPLEMENT!PARTIALkb!T",
    "HERE EXISTS#DOESruEXIST!EMPTY SET!INCREMENT!NABLA!kxsc!ruAN;!c;!iyAS MEMBER!DOESruCONTAIN;",
    "!ciy;!kzscPROOF!N-ARYtl#COPRODUCT#SUMMATION!que!MINUS-OR-PLUS:!kgtf!kfvv!SETqu!hasj!uj:!hx",
    ":!wcROOT!CUBE:!FOURTH:!PROPORTIONALxv!INFINITY!uegn!:!MEASURED:!SPHERICAL:!DIVIDES!DOESruD",
    "IVIDE!svxv!ru;!qdf#OR!of!yo!oe!kk:!yc:!CONTOUR:!SURFACE:!VOLUME:!ip:#CONTOUR:!go;!THEREFOR",
    "E!BECAUSE!RATIO!PROPORTION!kgqu!EXCESS!GEOMETRIC PROPORTION!HOMOTHETIC!xtsj!ubxt!ohLAZY S!",
    "SINEzg!WREATHtl!ruxt!qu:!ASYMPTOTICALLYlcxv!ru<!gr;#BUTruACTUALLY;!NEITHERgrNOR<!gh;!ru<!g",
    "hlcOR;!ycxt!ALLlcxv!le:!GEOMETRICALLY;!DIFFERENCEhm!APPROACHESxfLIMIT!GEOMETRICALLYlcxv!gr",
    "lcxvORxfIMAGEsc!IMAGEscORgrlcxv!irld!ldir!ujINlcxv#;!CORRESPONDS:!ESTIMATES!EQUIANGULARxv!",
    "wfld!julcxv!lcxvBY DEFINITION!MEASURED BY!QUESTIONEDlcxv!ru;!IDENTICAL:!ru;!STRICTLYle:!px",
    "ORlc:!mp<!pxso;!mp<!pxBUTru;!mp=!MUCHpx#mp!hm!rulexv#px#mp!NEITHERpxNORlcxv#mp<!pxORle:!mp",
    "<!NEITHERpxNOR;#mp<!pxORmp!mpORpx!NEITHERpxNORmp#mpNORpx!tk!wo!tkORlcxv!wo<!tkORle:!wo<!DO",
    "ESruPRECEDE$SUCCEED!wnsc!wq:!ruAwn:$wq:!wnscORlcxv!wq=!NEITHER AwnscNOR;$wq=!wnscaru;!wq>!",
    "MULTISET#re#yo!wcIMAGEsc#ORIGINAL:#IMAGEscORlcxv#ORIGINAL=#CAP#CUP!intf#qu#xu#kfvv#kgsj#uj",
    ":#ha:#ld#jq!wdtf#qu#xu#kgsj!uewv!pr:!kn:!yp:!ASSERTION!MODELS!TRUE!FORCES!ycyxheueTURNSTIL",
    "E!kkyxhekk;!DOESruPROVE!ruTRUE!DOESruFORCE!NEGATEDkkyxhekkueTURNSTILE!tkUNDER RELATION!wo;",
    "!rswjsc!iyASrswj!rswjscORlcxv!iyASrswj<!ORIGINALsc!IMAGE:!MULTIMAP!HERMITIAN CONJUGATE MAT",
    "RIX!INTERCALATE!XOR!NAND!NOR!uegnaARC#xz!N-ARYqdf$OR#of#yo!kasj!kg:!wf:!kfxu!BOWTIE!prrsFA",
    "CTOR SEMIDIRECTtl!ue=!pr;!ue;!ubxtld!jiqdOR$f!kkwn#wq#of#yo!PITCHFORK!lcfsvxv!pxakg!mp;!yz",
    "MUCHpx$mp!pxlcxvOR:!mplcxvORpx!=%mp%tk%wo!DOESruPRECEDE ORlc$SUCCEED;!ruwcIMAGEscORlcxv$OR",
    "IGINAL=!wcIMAGEscORru;#ORIGINAL>!pxBUTrule:!mp=!tk=!wo=!rurswjsc!DOESruCONTAIN ASrswj!rurs",
    "wjscORlcxv!DOESruCONTAIN ASrswjORlc!yxELLIPSIS!MIDLINEnr:!ypuejy:!kn<!kxscaqenrwi%yxheATkz",
    "sc;!ckxsca@!kxscakggb%sp!c=!kxscayn%ylnrSTROKES!iyaqenrwi$yxheATkzsc;!ciya@!iyasp!c<!ZrvBA",
    "G MEMBERSHIP!DIAMETERe!ELECTRICgw!HOUSE!ypgx!kn:!PROJECTIVE!PERSPECTIVE!WAVYqa!prCEILING!u",
    "e:!prFLOOR!ue:!htueCROP#pr:!xxue:#pr:!ubrue!wcqi!ARC!SEGMENT!SECTOR!xbRECORDER!POSITIONoa!",
    "VIEWDATAwc!PLACEscINTERESTe!yiru:!WATCH!HOURGLASS!xxprja#ue:!htpr:#ue:!xxmvoe!ht;!FROWN!SM",
    "ILE!ypgxhmylnrBARS!OPTION KEY!ERASExvxfue!X IN A RECTANGLEhu!KEYBOARD!psgnhv!ug;!ERASExvxf",
    "pr!BENZENEuj!CYLINDRICITY!ALL AROUND-PROFILE!SYMMETRY!TOTAL RUNOUT!DIMENSION ORIGIN!CONICA",
    "L TAPER!SLOPE!COUNTERBORE!COUNTERSINK!APL FUNCTIONALwtI-BEAM%SQUISH QUAD%QUADlc&DIVIDE&ka&",
    "JOT&im%imSTILE&JOT%vvhe%hd:%QUADvv&hd&px&mp%puVANE%ui:%QUADpugw&ui:%imhd%knwvyn%juSTILE%QU",
    "ADknCARET&ju%knwvJOT%yuVANE%QUADyugw%ypwvsp%DEL STILE%QUADypCARET&DEL%ypwvJOT%kpVANE%QUADk",
    "pgw%QUOTEyn%ju:%ka:%JOT:%im:%ypSHOE JOT%QUOTE QUAD%imwf%QUADir%ypwvjx%DEL:%wf:%JOT:%im:%kn",
    "SHOE STILE%pr;%xtjx%mp:%ithe%DELxt%ZILDE%STILExt%uxyn%QUADrulc&tu%knCARETxt%yp;%oi%uc%sf%g",
    "jyn%lb:%oi:%sf:%gj!ruiiqo!uegnakpzzgw!SHOULDEREDsihu!BELLwt!yxqaaqtkg!INSERTIONwt!CONTINUO",
    "US UNDERLINE:!DISCONTINUOUS;!EMPHASIS:!COMPOSITION:!zkwcaifyxqa!ENTERwt!ALTERNATIVE KEY:!H",
    "ELM:!innrheaNOTCH#xzkn!BROKENimaNORTHWESTgw!UNDOwt!MONOSTABLE:!HYSTERESIS:!OPEN-CIRCUIT-OU",
    "TPUT H-TYPE:#L-TYPE:!PASSIVE-PULL-DOWN-OUTPUT:!PASSIVE-PULL-UP-OUTPUT:!DIRECT CURRENTwtlxy",
    "l!SOFTWARE-FUNCTIONwt!APL FUNCTIONALwtQUAD!DECIMALuyKEYwt!PREVIOUS PAGE!NEXT:!PRINT SCREEN",
    "wt!CLEAR;!prswysnq$lh$qhnq!ueswys:$lh$qhnq!prwchvysja%lh%qhja!uewchvys:%lh%qhja!prjihvysnq",
    "%qtPIECE%qhnq!jihvlh!uejihvysnq%qtPIECE%qhnq!oelh!nrqa:!ysprORqhuejihvuv#ueORqhpr<!SUMMATI",
    "ONxx#ht!xxwchv!ht;%soxxwchv!RADICALwtht!pryxhuqa!ue<!nrSCAN LINE-1$LINE-3$LINE-7$LINE-9!DE",
    "NTISTRYwtpzyxfxxue(ht:&aim%knfnr;%yp=%yxaxz%knfnr;%yp=%yxfzg%knfnra:%yp=%knfnr%yp;%yxfxxpr",
    "(ht:!wcFOOT!RETURNwt!EJECT:!yxqalh!METRICALhw#qesovj#vjsoqe#qesoylSHORTS#ylSHORTSsoqe%JOIN",
    "ED#TRISEME#TETRASEME#PENTASEME!kqGROUND!FUSE!xxsw!ht:!xxjihv!ht;!xxxyvg:!ht<!zkTRAPEZIUM!B",
    "ENZENEujaim!STRAIGHTNESS!FLATNESS!AC CURRENT!ELECTRICALof!DECIMAL EXPONENTwt!hpugkkxz#ps;#",
    "yq;#ko;#ugkkxzayxhe#ps>#ugxzakk;!ALARM CLOCK!STOPWATCH!TIMER CLOCK!HOURGLASSaFLOWING SAND!",
    "hpqrpsxz$ug:$yq:$ko:!kkyxhe!hpwclwwg#imlwRECORD!POWERwt#ON-OFF:#ON:#SLEEP:!OBSERVER EYE:!w",
    "tlwNULL$STARTscHEADING&TEXT$kz;&TRANSMISSION$ENQUIRY$ACKNOWLEDGE$BELL$BACKSPACE$nrTABULATI",
    "ON$qaFEED$yxTABULATION$lxFEED$CARRIAGE RETURN$SHIFT OUT%IN$DATA LINK ESCAPE$DEVICE CONTROL",
    "sh&yl&xp&ma$rjACKNOWLEDGE$SYNCHRONOUS IDLE$kzscTRANSMISSIONhr$CANCEL$kzscqr$SUBSTITUTE$ESC",
    "APE$FILEuy$GROUP:$RECORD:$UNIT:$wa$DELETE!BLANKwt!sihu!wtlwNEWLINE$DELETElxyl$SUBSTITUTE;"] },
  { first := 9280, lines := [
    "!OCRnq#CHAIR#FORK#oh:#BELT BUCKLE#BOW TIE#BRANCH BANK IDENTIFICATION#AMOUNTscii#jq#CUSTOME",
    "R ACCOUNTry#kkhd"] },
  { first := 9312, lines := [
    "!inkcsh$yl$xp$ma$lv$vq$uz$ks$rn#ryxc$ky$yj$xl$mb$lp$vr$va$kt$ro$yk!sxkcsh$yl$xp$ma$lv$vq$u",
    "z$ks$rn#ryxc$ky$yj$xl$mb$lp$vr$va$kt$ro$yk!kcshmewg#yl;#xp;#ma;#lv;#vq;#uz;#ks;#rn;!ryxc;#",
    "ky;#yj;#xl;#mb;#lp;#vr;#va;#kt;#ro;#yk;!sxpqcbA&.&.&.&.&.&.&.&.&.&.&.&.&.&.&.&.&.&.&.&.&.&",
    ".&.&.&.!inpqdbA&.&.&.&.&.&.&.&.&.&.&.&.&.&.&.&.&.&.&.&.&.&.&.&.&.$cbA&.&.&.&.&.&.&.&.&.&.&",
    ".&.&.&.&.&.&.&.&.&.&.&.&.&.&.#kczy!rjinryky%yj%xl%mb%lp%vr%va%kt%ro%yk!kkinkcsh%yl%xp%ma%l",
    "v%vq%uz%ks%rn$ryxc!rjinkczy!huDRAWINGSpznr$nj:$pzyx$nj:$pzycjqnr$nj<$pzycjqyx$nj<$pztqjqnr",
    "$nj<$pztqjqyx$nj<$pzknfue$knpzfuenj%njfuepz$njknfue$pzknfpr$knpzfprnj%njfprpz$njknfpr$pzyp",
    "fue$yppzfuenj%njfuepz$njypfue$pzypfpr$yppzfprnj%njfprpz$njypfpr$pzyxfue$yxpzfuenj$ypnjfuek",
    "npz$knnjfueyp:$yxnjfue:$knpzfueypnj$yppzfuekn:$njyxfue$pzyxfpr$yxpzfprnj$ypnjfprknpz$knnjf",
    "pryp:$yxnjfpr:$knpzfprypnj$yppzfprkn:$njyxfpr$pzknfnr$prnjfueknpz$uenjfpr;$knpzfnrnj%njfnr",
    "pz$uepzfprknnj$prpzfue;$njknfnr$pzyp;$prnjfueyppz$uenjfpr;$yppzfnrnj%njfnrpz$uepzfprypnj$p",
    "rpzfue;$njypfnr$pzyx;$prnjfueyxpz$uenjfpr;$yxpzfnrnj$ypnjfknnrpz$knnjfyp;$yxnjf;$prypnjfue",
    "kn:$ueypnjfpr;$prknnjfueyp:$ueknnjfpr;$knpzfypnrnj$yppzfkn;$uepzfpryx:$prpzfue;$njyxfnr$pz",
    "kkjq:$nj<$pzkkjqyx$nj<$kknr%yx$knvpfuekk%kkfuevp$kkknfue$knvpfprkk%kkfprvp$kkknfpr$ypvpfue",
    "kk%kkfuevp$kkypfue$ypvpfprkk%kkfprvp$kkypfpr$yxvpfuekk%kkfuevp$kkyxfue$yxvpfprkk%kkfprvp$k",
    "kyxfpr$knvpfnrkk%kkfnrvp$kkknfnr$ypvpfnrkk%kkfnrvp$kkypfnr$yxvpfnrkk%kkfnrvp$kkyxfnr$pzARC",
    "knfue)pr&yp;)ue%jyysuexvqhpr(prxvqhue&jc%pr%yp%ue%kn$njpr%yp%ue%kn$pzprfnjue%ypfnjkn$njprf",
    "pzue%ypfpzkn!ysmvhr!qhshku:$tr:#xpkv:#mv:#lvkv:#xpts:#uzkv:!me:!pruzkv:#xpts:#lvkv:#mv:#xp",
    "kv:#shtr:$ku:!uemv:!pzSHADE!qr:!DARK:!ysshkuhr!ue<!QUADRANTqhpr$ue#yspr%fqhprfqhue(:&ysuef",
    "qhpr+ue$:%fqhpr)fqhue!hpwc!zk:$auoCORNERS$ixhpcwc!wcanrFILL$yx:$ORTHOGONAL CROSSHATCH:$ysp",
    "rxvqhue:%uexvqhpr:$jyCROSSHATCH:!hpcwc!zk;!hpRECTANGLE!zk:!hpyx:!zk;!hpPARALLELOGRAM!zk:!h",
    "pyqxz!zk;!hpyqc:!zk<!hpug:!zk;!hpugc:!zk<!hpugPOINTER!zk;!hpkoxz!zk;!hpkoc:!zk<!hpps:!zk;!",
    "hppsc:!zk<!hppsPOINTER!zk;!hpka!zk:$ixhpcka!FISHEYE!qi!zkim!kj:!imayxFILL!BULLSEYE!hpim!im",
    "aprmvhp$ue;$qh;$ys;%ueQUADRANT:$ALL BUTyspr;!prmvhpim!ue<!oghx#zkim!ysmv<!qh=!ysprQUADRANT",
    " CIRCULAR ARC#ue<!qh=#pr<!ysmvim!qh;!hpqhuexz$pr:#ys;$ue:!zkhx!wcaprmvhp$ue;$ysprjy;$qhue<",
    "!zkwcayxBISECTINGqa#yqxzakg!yqxzaprmvhp%ue;!poim!zkwcaysprQUADRANT%qh;&ue:%ys;#imayspr:%qh",
    ";&ue:%ys;!ysprxz#ue:!qhpr:!zkqrwc!hp;!zkqrc:!hp<!qhuexz!hpSUNaRAYS!CLOUD!UMBRELLA!SNOWMAN!",
    "COMET!hpwf!zk:!LIGHTNING!THUNDERSTORM!SUN!ASCENDING NODE!DESCENDING:!CONJUNCTION!OPPOSITIO",
    "N!hpxb!zk:!BALLOThu$aii%X!SALTIRE!UMBRELLAaRAIN DROPS!HOT BEVERAGE!zkSHOGI PIECE!hp;!SHAMR",
    "OCK!ubulFLORALnihx!hpprtinz#ue;!zkpr;#yp;#ue;#kn;!SKULLfCROSSBONES!CAUTIONe!RADIOACTIVE:!B",
    "IOHAZARD:!CADUCEUS!ANKH!ORTHODOXjc!ikuc!jcscLORRAINE$JERUSALEM!wffjb!FARSIwt!ADI SHAKTI!HA",
    "MMERfSICKLE!PEACEwt!YIN YANG!TRIGRAMlwHEAVEN$LAKE$FIRE$THUNDER$WIND$zf$qy$kq!WHEELscDHARMA",
    "!zkFROWNINGll#vw:!hp;!zkSUNaRAYS!FIRSTtrqx!LAST;!MERCURY!FEMALEe!kq!MALEe!JUPITER!SATURN!U",
    "RANUS!NEPTUNE!PLUTO!ARIES!TAURUS!GEMINI!CANCER!LEO!VIRGO!LIBRA!SCORPIUS!SAGITTARIUS!CAPRIC",
    "ORN!AQUARIUS!PISCES!zkijpe$tt$ROOK$ho$ph$PAWN!hpijpe$tt$ROOK$ho$ph$PAWN#SPADE SUIT!zkni:#k",
    "a:!hpCLUB:!zkSPADE:!hpni:#ka:!zkCLUB:!HOT SPRINGS!trNOTE!ku:!BEAMEDkuNOTES#vs:!MUSIC FLATe",
    "#NATURAL:#SHARP:!ziSYRIACjc!kr;!UNIVERSAL RECYCLINGwt!RECYCLINGwtlwTYPE-1 PLASTICS%.:%.:%.",
    ":%.:%.:%.:%GENERIC MATERIALS!hpUNIVERSAL RECYCLINGwt!RECYCLED PAPER:!PARTIALLY-RECYCLED;!P",
    "ERMANENT PAPERe!WHEELCHAIRwt!DIE FACE-1#.#.#.#.#.!zkimakgue%ylki!hpimazkkgue%ylzkki!qwlwYA",
    "NG$YIN!DIGRAMlwGREATER YANG$LESSER YIN%YANG$GREATER YIN!zkFLAG!hp:!HAMMERfPICK!ANCHOR!jdSW",
    "ORDS!STAFFscAESCULAPIUS!SCALES!ALEMBIC!FLOWER!GEAR!STAFFscHERMES!ATOMwt!FLEUR-DE-LIS!snzkw",
    "f!xpLINES CONVERGINGue%pr!WARNINGe!nmVOLTAGE:!DOUBLED FEMALE:#MALE:!INTERLOCKED FEMALEf;!M",
    "ALEfFEMALE:#awi:%fMALEfFEMALE:!yxMALEawi:!nr=!qrzkim#hp:#czk:!MARRIAGEwt!DIVORCE:!UNMARRIE",
    "D PARTNERSHIP:!COFFIN!FUNERAL URN!NEUTER!CERES!PALLAS!JUNO!VESTA!CHIRON!hpqxLILITH!SEXTILE",
    "!SEMISEXTILE!QUINCUNX!SESQUIQUADRATE!SOCCER BALL!BASEBALL!wdKEY!zkDRAUGHTS MAN$pe!hpDRAUGH",
    "TS MAN$pe!SNOWMAN WITHOUT SNOW!SUN BEHIND CLOUD!RAIN!hpSNOWMAN!THUNDER CLOUDfRAIN!yizkSHOG",
    "I PIECE#hp;!zkkaINwc!jfLANES!DISABLED CAR!OPHIUCHUS!PICK!CAR SLIDING!HELMETazkjc!injfLANES",
    "!CHAINS!NO ENTRY!gkONE-WAYprWAY TRAFFIC!hpTWO-WAY<!zk=!hpprLANE MERGE!zk<!DRIVE SLOWe!njzk",
    "koxz!priqENTRY!wdSALTIRE!lmjyINzkimINhpwc!hpTRUCK!RESTRICTEDprENTRY-1$.!ASTRONOMICALwtlwUR",
    "ANUS!njimawifylkigb!PENTAGRAM!RIGHT-HANDED INTERLACED:!LEFT-HANDED;!oh:!hpjcON SHIELD!SHIN",
    "TO SHRINE!CHURCH!CASTLE!HISTORIC SITE!GEAR WITHOUT HUB#aHANDLES!MAPwtlwLIGHTHOUSE!qy!UMBRE",
    "LLA ON GROUND!FOUNTAIN!FLAG IN HOLE!FERRY!SAILBOAT!wcmaCORNERS!SKIER!ICE SKATE!szaBALL!TEN",
    "T!ooBANKwt!HEADSTONE GRAVEYARD:!FUEL PUMP!CUP ONhpwc!zkFLAGanrqthpSTRIPE!hpSAFETY SCISSORS",
    "!ysBLADE:!hp:!qhBLADE:!zk:#njiiqo!xbLOCATIONe!TAPE DRIVE!AIRPLANE!la!txFIST#mx!VICTORY:!WR",
    "ITING:!qhuePENCIL!:!ysue:!zkNIB!hp:!iiqo!nj;!reX!nj;!BALLOT:!nj;!snmqjc!nj;!siif:!nj<!pq:!",
    "vdzk;!sn;!MALTESE:!wfscDAVID!mawzha#BALLOON-SPOKED:!nj<!maCLUB-SPOKED:!hpmathwf!zk<!SPARKL",
    "ES!STRESSsnzkwf!in;!siifhp:!hpifzk:!snhp:!nj<!te:!vdzk:!njha!siif:!ksSPOKED:#thhpwf$te:!vq",
    "thhp:!ksthRECTILINEAR;!nj>!yjth;!vrthha!wz:!siif;!nj;!vqPETALLEDhpfzkFLORETTE!hp:!zk:!ksPE",
    "TALLEDsnhp:!insiifksthwf!njwzteha!SNOWFLAKE!TIGHT TRIFOLIATE:!njCHEVRON:!SPARKLE!nj:!BALLO",
    "ON-SPOKEDha!kswzPROPELLER:!nj=!jcqo!vdzkim!rjwdjcqo!qhueDROP-SHADOWEDzkwc!ys=!qhuevd;!ys=!",
    "hptuqosm!zk<#lf;!hpkaquzkX!njlfqowt!pzyxhe!qr;!nj;#vpyiittvqosm$=#kkyi=$=#qgvp=$kk=!jkSTEM",
    "sue:!njlfqo:#ni<#hpni!ulnjhpnihx!FLORALni!ulFLORALnihx!qrprswsm#ue;#FLATTENEDpr;$ue;#psgnh",
    "v:#ug<!njpsgntvqo:#ug=#psgnhv:#ug<!pzprxyvg;#ue=!qrprji;#ue<!DINGBATrjinkcsh&yl&xp&ma&lv&v",
    "q&uz&ks&rn%ryxc#inuskcsh&yl&xp&ma&lv&vq&uz&ks&rn%ryxc#rjinuskcsh(yl(xp(ma(lv(vq(uz(ks(rn&r",
    "yxc!njWIDE-HEADEDuigw#tfe#qu:#kf:#vzkrgw#ui:#rtkr:!DRAFTINGtgui:!njROUND-TIPPED;!ya;!nj<!D",
    "ASHED<!nj=!hp;!THREE-D TOP-LIGHTEDuigx#BOTTOM-LIGHTED;!hp;!njhpjkkpfuigw%yu<!SQUAThp;!njCO",
    "NCAVE-POINTED<!RIGHT-SHADEDzk;!LEFT-SHADED<!BACK-TILTEDvd<!FRONT-TILTED=!njqhRIGHT-SHADOWE",
    "D<#ys=!NOTCHEDqh=!jiqf!NOTCHEDysRIGHT-SHADOWEDzkuigw!innj<!WHITE-FEATHERED;!BLACK-FEATHERE",
    "Dvzkr:#ui:#rtkr:!njBLACK-FEATHEREDvz;$ui:$rtkr:!TEARDROP-BARBEDui:!njTEARDROP-SHANKED;!WED",
    "GE-TAILED;!nj<!OPEN-OUTLINED;!kkjiqf!xpDIMENSIONALgn!zkxzixczkxz!PERPENDICULAR!siwn#wq!prS",
    "-SHAPED BAG DELIMITER!ue<!ORakgoc!uavxPRECEDINGwn!wqPRECEDINGvx!yxheanrwi!qpukjy!qekf!qplm",
    "jy!wdqdf$OR!zkkaaCENTREDkg!fa:!kxscOPENINGyu!qhuejaakg!yspr<!prOUTER JOIN!ue;!me;!poypwv#k",
    "n:!prfuekkTURNSTILE%wv#MULTIMAP!qeuewv#pr:!ypwvaimgb!qiDIVIDED BYnrRULE!zkCONCAVE-SIDEDka%",
    "apuTICK&ui:#wcapu:%ui:!qpprzkwchv#ue<#prgn:#ue;#prkk;#ue<#przkxyvg:#ue=#prFLATTENEDsw#ue;!",
    "yutqgw!kp;!goGAPPEDim:!ip<!uegwaintf!qepugw#ui:#prue:#pukk:#ui;#prue;#pugwmdhe#ui<#pukk<#u",
    "i=$SQUIGGLEgw!BRAILLE PATTERN BLANK$DOTS-1$.$DOTS-12$DOTS-3$DOTS-13$DOTS-23$DOTS-123$DOTS-",
    "4$DOTS-14$DOTS-24$DOTS-124$DOTS-34$DOTS-134$DOTS-234$DOTS-1234$DOTS-5$DOTS-15$DOTS-25$DOTS",
    "-125$DOTS-35$DOTS-135$DOTS-235$DOTS-1235$DOTS-45$DOTS-145$DOTS-245$DOTS-1245$DOTS-345$DOTS",
    "-1345$DOTS-2345$DOTS-12345$DOTS-6$DOTS-16$DOTS-26$DOTS-126$DOTS-36$DOTS-136$DOTS-236$DOTS-",
    "1236$DOTS-46$DOTS-146$DOTS-246$DOTS-1246$DOTS-346$DOTS-1346$DOTS-2346$DOTS-12346$DOTS-56$D",
    "OTS-156$DOTS-256$DOTS-1256$DOTS-356$DOTS-1356$DOTS-2356$DOTS-12356$DOTS-456$DOTS-1456$DOTS",
    "-2456$DOTS-12456$DOTS-3456$DOTS-13456$DOTS-23456$DOTS-123456$DOTS-7$DOTS-17$DOTS-27$DOTS-1",
    "27$DOTS-37$DOTS-137$DOTS-237$DOTS-1237$DOTS-47$DOTS-147$DOTS-247$DOTS-1247$DOTS-347$DOTS-1",
    "347$DOTS-2347$DOTS-12347$DOTS-57$DOTS-157$DOTS-257$DOTS-1257$DOTS-357$DOTS-1357$DOTS-2357$",
    "DOTS-12357$DOTS-457$DOTS-1457$DOTS-2457$DOTS-12457$DOTS-3457$DOTS-13457$DOTS-23457$DOTS-12",
    "3457$DOTS-67$DOTS-167$DOTS-267$DOTS-1267$DOTS-367$DOTS-1367$DOTS-2367$DOTS-12367$DOTS-467$",
    "DOTS-1467$DOTS-2467$DOTS-12467$DOTS-3467$DOTS-13467$DOTS-23467$DOTS-123467$DOTS-567$DOTS-1",
    "567$DOTS-2567$DOTS-12567$DOTS-3567$DOTS-13567$DOTS-23567$DOTS-123567$DOTS-4567$DOTS-14567$",
    "DOTS-24567$DOTS-124567$DOTS-34567$DOTS-134567$DOTS-234567$DOTS-1234567$DOTS-8$DOTS-18$DOTS",
    "-28$DOTS-128$DOTS-38$DOTS-138$DOTS-238$DOTS-1238$DOTS-48$DOTS-148$DOTS-248$DOTS-1248$DOTS-",
    "348$DOTS-1348$DOTS-2348$DOTS-12348$DOTS-58$DOTS-158$DOTS-258$DOTS-1258$DOTS-358$DOTS-1358$",
    "DOTS-2358$DOTS-12358$DOTS-458$DOTS-1458$DOTS-2458$DOTS-12458$DOTS-3458$DOTS-13458$DOTS-234",
    "58$DOTS-123458$DOTS-68$DOTS-168$DOTS-268$DOTS-1268$DOTS-368$DOTS-1368$DOTS-2368$DOTS-12368",
    "$DOTS-468$DOTS-1468$DOTS-2468$DOTS-12468$DOTS-3468$DOTS-13468$DOTS-23468$DOTS-123468$DOTS-",
    "568$DOTS-1568$DOTS-2568$DOTS-12568$DOTS-3568$DOTS-13568$DOTS-23568$DOTS-123568$DOTS-4568$D",
    "OTS-14568$DOTS-24568$DOTS-124568$DOTS-34568$DOTS-134568$DOTS-234568$DOTS-1234568$DOTS-78$D",
    "OTS-178$DOTS-278$DOTS-1278$DOTS-378$DOTS-1378$DOTS-2378$DOTS-12378$DOTS-478$DOTS-1478$DOTS",
    "-2478$DOTS-12478$DOTS-3478$DOTS-13478$DOTS-23478$DOTS-123478$DOTS-578$DOTS-1578$DOTS-2578$",
    "DOTS-12578$DOTS-3578$DOTS-13578$DOTS-23578$DOTS-123578$DOTS-4578$DOTS-14578$DOTS-24578$DOT",
    "S-124578$DOTS-34578$DOTS-134578$DOTS-234578$DOTS-1234578$DOTS-678$DOTS-1678$DOTS-2678$DOTS",
    "-12678$DOTS-3678$DOTS-13678$DOTS-23678$DOTS-123678$DOTS-4678$DOTS-14678$DOTS-24678$DOTS-12",
    "4678$DOTS-34678$DOTS-134678$DOTS-234678$DOTS-1234678$DOTS-5678$DOTS-15678$DOTS-25678$DOTS-",
    "125678$DOTS-35678$DOTS-135678$DOTS-235678$DOTS-1235678$DOTS-45678$DOTS-145678$DOTS-245678$",
    "DOTS-1245678$DOTS-345678$DOTS-1345678$DOTS-2345678$DOTS-12345678!uiymgwayxwi&kk;!pukkgwa;!",
    "ui>!prue>!uiymgwmdhe!pukk<!ui=!kpgwanrwi!yu=#ycgw!kp;!pukkjq:!ui<!puyc;!ui<#ym<#gwakjSTEM!",
    "yugwxvhe!kp<!uigwawxayxwi(kk;#ymgwawx(ayxwi)kk;!puARROW-TAIL!ui:!pukk:!ui;!pugwxvhpka!ui=!",
    "pugwmdhe<!ui?!rtzifvzkrgw#krfvzzi:#zigwanq#kr<!vz=#zi<!rtzigwfrtkrgw#krgwfvz;!vzkrgwfvzzi:",
    "#zigwfrt;!ukjyjflmjy!lmjyjfuk:!vzkrgwjfrtkrgw!rtkrgwjfvz;!lmjyjfrt;!ukjyjfvz;!rtkrgwjfrtzi",
    ":#zigwjfrtkr:!zggwtiDIRECTLYue!gwtiuiTHEN CURVINGyu(kp$kpTHEN CURVINGpu(ui!RIGHT-SIDE ARCi",
    "pgw!LEFT-SIDE ARCgo:!xx<!ht<!xxARCipgwaqu$gogwatf!qhueSEMICIRCULARipgw#prSEMICIRCULARgo:!g",
    "oiqim:!ip<!uigwgbvjpu:!pugwgbvjui:!vjuigwgbpu:!uigwatfhh!pu=!uigwxqX!pruegwxqcim!yuymgwmd;",
    "!prhfypuehfknng$knuehfyp:!yphfueknhfpr:$prknhfue:!prhfypuehfyp:!yphfueknhfue:!prhfknuehfkn",
    ":!yphfprknhfpr:!pungahfypxvhe!ui?!yungahfue;!kp?!pungahfkn;!ui?!yungahfpr;!kp?!pungahfypmd",
    ":!ui?!yungahfue;!kp?!pungahfkn;!ui?!yungahfpr;!kp?!pungahfypgbpungahfkn!yungahfprhjyungahf",
    "ue!uingahfypgbuingahfkn!kpngahfprhjkpngahfue!pungahfypgbuingahfyp&kngbuingahfkn!uingahfypg",
    "bpungahfyp&kngbpungahfkn!pungahfypgbqejq&knhh;!uingahfypgb;&knhh;!yungahfprhjkpngahfue!kpn",
    "gahfprhjyu=!uekkgwauonh!ldegbuigw!xtsj<!pugwgbxtsj!ui=%ghlcxv!pxgbpugw!pugwxqpx!mpgbuigw!w",
    "n<!pugwxqwn!wqgbpugw!prFISHwx!ue;!yp;!kn;!ycyxheDELIMITER!ZrvSPOT$TYPEir!przkjihv!ue<!przk",
    "sw!ue;!ZrvprIMAGEhv$ue;$prBINDING:$ue;!prwchvayn!ue=!prwchvaTICK INxxja!uewchvaTICK INht:!",
    "pr@!uewchvaTICK INxx:!prgnhvakg!ue=!prARCpxhv!ueARCmp:!kkpr<#ueARCpx:!prhpxyvg:!ue=!kjFENC",
    "E!yxzzqa!MEASUREDgnOPENINGpr!uegnywawc!MEASUREDuegnakg!gnaSoc!gdgn!SPHERICALgnOPENINGpr%yp",
    "!yign!ub:!gnayn!ub<!OBLIQUEgnOPENINGyp%kn!MEASUREDgnasiARM ENDING INgwtiypfue,ypfpr,knfue,",
    "knfpr,uefyp,pr;,uefkn,pr;!ubEMPTY SET!EMPTY SETasp%cimgb%uegw:%pr;!imanrhe!inyx:#sv#uavx#P",
    "ERPENDICULAR!imDIVIDED BYnrhefxxmvDIVIDED BYyxhe#aSUPERIMPOSED X!inANTICLOCKWISE-ROTATEDkf",
    "e!ypgwxqim!inzkhx#:#px#mp!imacimxvxfue$ylnrSTROKES<!wdukjyvv#lm;#ha#cim#wc!ylJOINED SQUARE",
    "S!xzakggb$yn!S INxz!xzaSERIFS ATht!uexzgbprxz!prxzhjyxhe!yxhehjuexz!BOWTIEaprmvhp$ue;!hpBO",
    "WTIE!xuaprmvhp$ue;!zkHOURGLASS!hp:!prWIGGLY FENCE!ue;!prkk;!ue<!INCOMPLETE INFINITY!TIEso:",
    "!INFINITY NEGATEDayxhe!DOUBLE-ENDED MULTIMAP!wcaCONTOURED OUTLINE!INCREASES AS!SHUFFLEtl!l",
    "defvusv(axtgb!IDENTICALxvfvusv!GLEICH STARK!THERMODYNAMIC!koxzaprmvhp%ue;!hpkaakngw#qi!zki",
    "makngw!hp=!ERROR-BARREDzkwc#hp:#zkka#hp:#zkim#hp:!RULE-DELAYED!uavxsj!vxasp!uavxanrwi!BIGv",
    "x#ua:!kktf!yc:!psjkgnhv!ug<!TINY!MINY!N-ARYinkgsj$tf:$xu:#yosjakg&tf#wcofsj$yo:!ylqdf:$OR:",
    "!N-ARYxu:!MODULOylSUM!SUMMATIONaoe!tqoesj!FINITE PARToe!oeakkwi#AVERAGEavv!CIRCULATION FUN",
    "CTION!goINTEGRATION!qaINTEGRATIONaRECTANGULAR PATH AROUND POLE%SEMICIRCULAR<$ruINCLUDINGxf",
    ":!oeAROUND Atgsj!QUATERNIONoe:!oeapugwanq$xue$of$yo$sp$yn!JOIN!poprxzsj!ZrvSCHEMA COMPOSIT",
    "ION%PIPING%PROJECTION!tfeacimgb%iogc:%xt:%kghh%xt:%wmyl%hpxz!queaitgb%kghh%lmki%uk:!tfeINp",
    "rmvim%ue;!VECTOR ORjctl!reeakggb%yn!SEMIDIRECTtlahtiq!SMASHtl!reeINprmvim%ue;!inreeaiogc!r",
    "eeINkkim!inkfe!tfeINxz!qu<!re<!INTERIORtl!RIGHTHAND;!ZrvRELATIONAL COMPOSITION!AMALGAMATIO",
    "N OR COPRODUCT!ofakg!yoaque$sp!of;$qdf!yoaqdOR#gbof!ofgbyo!yogbhegbof!ofgbhegbyo!yohjfJOIN",
    "EDa:!ofhjfJOINEDaof!iqyoaSERIFS#of;!kkwcof$yo!iqyoaSERIFSfSMASHtl!qdfakggb#OR<!kkqdf$OR!yl",
    "INTERSECTINGqdf%OR!SLOPINGpo:$f!qdOR OVERLAPPINGqd:#faqtSTEM#OR<#fanrjq#OR<#fakksp%yn%kk:!",
    "cVEEa:!qdORakksp&yn!ZrvDOMAIN ANTIRESTRICTION$RANGE:!ldeakghh!IDENTICALakggb!ycnrheakkyxwi",
    "&yc;!xtsjakggb%ukki!SIMILARquSIMILAR!CONGRUENTakggb!ldaha!ghlcxvaiogc!grlcORlcxv!ldegbtfe!",
    "tfegbld:!ldegbxtsj!kkirlc!ylCONSECUTIVEldSIGNS!xp<!ldeaylkigbfylkihh!leamakigb!pxaimoc!mp<",
    "!pxatuqogb!mp=!pxORvulcxv!mp=!pxORvulcxvakgoc!mp@!pxORvulcxvakggb!mp@!pxORvulcxvakggbue!mp",
    "ORvulcxvakggbpr!pxOR APPROXIMATE!mp;!pxfSINGLE-LINErulcxv!mp>!pxfruAPPROXIMATE!mp<!pxgbkll",
    "cgbmp!mpgbkllcgbpx!pxgbSIMILAR ORlc!mp=!pxgbSIMILARgbmp!mpgbSIMILARgbpx!pxgbmpgbkllc!mpgbp",
    "x<!pxgbvulcgbmpgbvu:!mpgbvulcgbpx<!vulcxvORpx&mp&pxakgoc&mp<!kllcxvORpx&mp#vulcxvORpx(mp!S",
    "IMILAR ORpx$mp#gbpxgblde$mp<!kkNESTEDpx$mp$pxayn!mpOVERLAPPINGpx#hj:!pxiqBYjj!mp<!pxiqBYjj",
    "gbvulc!mp?!SMALLER THAN!LARGER:!SMALLER THAN ORlcxv!LARGER=!ldeaBUMPYgb!tkgbSINGLE-LINElde",
    "!wo=!tkgbSINGLE-LINErulcxv!wo>!tkgblde!wo<!tkgbrulcxv!wo=!tkgbgh;!wo=!tkgbru<!wo>!kktk#wo!",
    "wnakg!wq;!wnatfehh!wq=!wnare;!wq=!wnscORlcxvakggb!wq@!wnscgblde!wq=!wnscgbxtsj!wq=!wnscgbg",
    "hlcxv!wq>!wnscgbru;!wq>!wcprsihusj#ue<!iqwn#wq#wnORlcxv#wq<!wngbwq!wqgbwn!wn;!wqgbwq#hjwn$",
    "fJOINED BYjqa:!kxscOPENINGkp!PITCHFORKaTEExx!TRANSVERSALof!FORKING!NONFORKING!vjprwv#kn:#y",
    "p:!PERPENDICULARaS!yxheycueTURNSTILE!kkyxhepr:!yxhekk;!kk>!qejqmdprMEMBERsckkyx!vjknwvasp#",
    "ypwvayn%gbvjknwv!kk;#yp:#wirue!ub=!DOESruDIVIDEaubNEGATIONvv!yxqaaimgb&hh!knwv<!svanrwi$xt",
    "sj!ycyxheBINARY RELATION%anrwi#irsj#NESTEDpx$mp!klvupxORlcxv$mp<!ycvxBINARY RELATION!poycy",
    "xhesj!kkvx:!zkyxhe!N-ARY<!rtkrzkgw#zi;!vzkr;#zi;!prue;!puhp:!yu;!kp;!rtkr;#zi;!vzkr;#zi;!p",
    "rue;!ypkn;!uigwaTIPkp&yu!pugwaTIPkp&yu!wcaxxmvhp$ht;$ysuejy;$qhpr<!kaapr;$ue;$xx;$ht;!kjwc",
    "!hppo:!zk;!hpyzc:!zk<!hpPENTAGON!zk:#HEXAGON!hp:!nr;!hppoim#qrka!zk;!hpqrqi!zk;!hpcka$qi!z",
    "k;!hpnrELLIPSE!zk;!hpyx:!zk;!prgwacim!xppugy!prgwaintf!qepuSQUIGGLEgw!puymgwayxwi&kk;%mdhe",
    "$ycjqgw#gwakjSTEM%wxayxwi(kk;#ymgwawx(ayxwi)kk;#gwxqX!zggwtiDIRECTLYpr!ldegbpugw!uaxtsj<!p",
    "ugwgbuaghlcxv!uigwxqmp%wq!putqgw!ui;!uaxtsjgbui:!uigwgbuaghlcxv!xtsjgbpugw!pugwgbghlcxv%ua",
    "xtsj!ui>!kpyazzgw!vjvurt:#BACKSLANTEDvz:!zkqrwf!hpc:!zk;!hpugPENTAGON!zk;!njpoim#OVALaOVAL",
    "oc#imaim:$#inSALTIRE!vurtgwaHOOKEDnh!BACKSLANTEDvzgwaHOOKEDwx!vurtgwanr:!BACKSLANTEDvz=!hi",
    "gwtikpTHENrtkr!vj@!puyagw!yu;!ui;!kp;!prue;!ypkn;!rtzi;#kr;!vz<#zi;!puyaDASHED:!yu<!ui<!kp",
    "<!ipyasiim:!go=!puyagwxvhe!yu=!ui=!kp=~~!rtzi=#kr=!vz>#zi=!puyagwakknrwi!yu?!ui?!kp?!nrTAB",
    " KEY!yx;!puyagwsouiyagw!yuyagwpusckp;!uiyagwsopu;!kpyagwpuscyu;!puyaPAIREDgy!yu<!ui<!kp<!p",
    "uhpinzkgw!yu=!ui=!kp=!goyaueU-SHAPED:$ht;$pr;$xx;!RETURNpr#ue!NEWLINEpr#ue!majagyCIRCLINGg",
    "o!uihpgw~!wtlwTYPE A ELECTRONICS!THREE-D TOP-LIGHTEDpuEQUILATERALgx#RIGHT-LIGHTEDyu;#TOP-L",
    "IGHTEDui;#LEFT-LIGHTEDkp;!hppu;#yu;#ui;#kp;!kpyagwaqeTIPpu)ui!yuyagwaqeTIPpu)ui!puyagwaqeT",
    "IPyu!ui?!puyagwaqeTIPkp!ui?!hpjkkpfpugw&ui:$yufpu:&ui:$pufyu:$ui<$pufkp:$ui<!RIBBONgwknpr%",
    "ue$yppr%ue$pryp$ue:$prkn$ue:!yuzkgwmdheanrhe!ypgxIN A RECTANGLEhu!OVERLAPPINGzkSQUARES$fhp",
    ":#;!BALLOThuapzX!in:#hs:!hpwcCENTRED#ka:!yihpPENTAGON!nrhpOCTAGON!;#qryqxzCENTRED$ko;$ps;$",
    "ug;!NEPTUNElxyl!xxmvhpim!ht<!pzmathhpCUSP!ul>!zkmath:!ul=!wcPOSITIONoa!UNCERTAINTYe!GROUPq",
    "o!PLUTOlxyl$xp$ma$lv!TRANSPLUTO!PROSERPINA!ASTRAEA!HYGIEA!PHOLUS!NESSUS!zkqxSELENA!hpkaONj",
    "c!TRUEpzqxARTA!CUPIDO!HADES!ZEUS!KRONOS!APOLLON!ADMETOS!VULCANUS!POSEIDON!prmvhpwf!ue<!wfa",
    "prmvhp$ue;!puymgwaxzARROWHEADS!yu>!ui>!kp>!ERISlxsh$yl!SEDNA!RUSSIAN ASTROLOGICALwtVIGINTI",
    "LE%NOVILE%QUINTILE%BINOVILE%SENTAGON%TREDECILE!ldeaINFINITYhh!UNITEDwt!SEPARATED:!DOUBLED:",
    "!PASSED:!ubuegn!HELLSCHREIBER PAUSEwt!GLAGOLITICdbAZU%BUKY%VEDE%GLAGOLI%DOBRO%YESTU%ZHIVET",
    "E%DZELO%ZEMLJA%IZHE%ob:%I%DJERVI%KAKO%LJUDIJE%MYSLITE%NASHI%ONU%POKOJI%RITSI%SLOVO%TVRIDO%",
    "UKU%FRITU%HERU%OTU%PE%SHTA%TSI%CHRIVI%vc%YERU%YERI%YATI%SPIDERYmt%YU%cYUS(awx%YO%IOTATEDcY",
    "US%BIG:%IOTATED;%FITA%IZHITSA%SHTAPIC%TROKUTASTI A%LATINATE MYSLITE%CAUDATE CHRIVI#cbAZU%B",
    "UKY%VEDE%GLAGOLI%DOBRO%YESTU%ZHIVETE%DZELO%ZEMLJA%IZHE%ob:%I%DJERVI%KAKO%LJUDIJE%MYSLITE%N",
    "ASHI%ONU%POKOJI%RITSI%SLOVO%TVRIDO%UKU%FRITU%HERU%OTU%PE%SHTA%TSI%CHRIVI%vc%YERU%YERI%YATI",
    "%SPIDERYmt%YU%cYUS(awx%YO%IOTATEDcYUS%BIG:%IOTATED;%FITA%IZHITSA%SHTAPIC%TROKUTASTI A%LATI",
    "NATE MYSLITE%CAUDATE CHRIVI!pqdbLakkhe#c>#dbLaqtxt%Pawi%Rawx#cbAawi%Tajy:#dbHajv#c=#dbK;#c",
    "=#dbZ;#c=#dbgj%Manq%yiA&gj#cbVauenq#dbWa:#c=%Vajh#dbmvH#c<%TAILLESStb%EaNOTCH%yiRawx%Oaqgu",
    "joc#bcdyiE#wmcbJ!qvbdV!pqdbSaSWASHwx%Z<!izdbALFA#c;#dbVIDA#c;#dbmf#c;#dbDALDA#c;#dbEIE#c;#",
    "dbSOU#c;#dbZATA#c;#dbHATE#c;#dbTHETHE#c;#dbIAUDA#c;#dbKAPA#c;#dbLAULA#c;#dbMI#c;#dbNI#c;#d",
    "bKSI#c;#dbO#c;#dbPI#c;#dbRO#c;#dbSIMA#c;#dbTAU#c;#dbUA#c;#dbFI#c;#dbKHI#c;#dbPSI#c;#dbOOU#",
    "c;#dbDIALECT-Pgf#c<#dbseizge#c=#dbjgEIE#c<#dbDIALECT-P KAPA#c<#dbDIALECT-P NI#c<#dbjg:#c<#",
    "dbseizOOU#c=#dbSAMPI#c;#dbjdSHEI#c<#dbseiz:#c=#dbseizESH#c=#dbAKHMIMIC KHEI#c<#dbDIALECT-P",
    " HORI#c<#dbseiz:#c=#dbseizmt#c=#dbL-SHAPED:#c<#dbseizHEI#c=#dbseizHAT#c=#dbseizGANGIA#c=#d",
    "bseizDJA#c=#dbseizSHIMA#c=#dbseNUBIAN:#c=#dbseNUBIAN NGI#c=#dbseNUBIAN NYI#c=#dbseNUBIAN W",
    "AU#c=#wtKAI$MI RO$PI:$STAUROS$TAU RO$KHI:$SHIMA SIMA#dbjgSHEI#c<#dbjgGANGIA#c<#isNIgb$SPIR",
    "ITUS ASPER%LENIS#dbBOHAIRIC KHEI#c<~~~~~#seNUBIANmewg%DIRECTtuqo%INDIRECT;%VERSE DIVIDER#m",
    "cshmv#mewg#MORPHOLOGICAL DIVIDER!GEORGIANcbAN%BAN%GAN%DON%EN%VIN%ZEN%TAN%IN%KAN%LAS%MAN%NA",
    "R%ON%PAR%ZHAR%RAE%SAN%TAR%UN%PHAR%KHAR%GHAN%QAR%vi%CHIN%CAN%JIL%CIL%CHAR%XAN%JHAN%HAE%HE%H",
    "IE%WE%HAR%HOE~%YN~~~~~%AEN~~!TIFINAGHbzp$YAB$YABH$YAG$YAGHH$BERBER ACADEMY YAJ$:$YAD$YADH$",
    "YADD$YADDH$YEY$YAF$YAK$TUAREG:$YAKHH$YAH$BERBER ACADEMY:$TUAREG:$YAHH$YAA$YAKH$TUAREG:$YAQ",
    "$TUAREG:$YI$YAZH$AHAGGAR:$TUAREG:$YAL$YAM$YAN$TUAREG YAGN%YANG$YAP$YU$YAR$YARR$YAGH$TUAREG",
    ":$AYER:$YAS$YASS$YASH$YAT$YATH$YACH$YATT$YAV$YAW$YAY$YAZ$TAWELLEMET:$YAZZ$YE$YO~~~~~~~#qvb",
    "LABIALIZATIONqo#uy:"] },
  { first := 11647, lines := [
    "!TIFINAGHiwJOINER!ETHIOPICwsLOA$MOA$ROA$SOA$SHOA$BOA$TOA$COA$NOA$NYOA$mnOA$ZOA$DOA$DDOA$JO",
    "A$THOA$CHOA$PHOA$POA$GGWA$GGWI$GGWEE$GGWE~~~~~~~~~$we$SSU$SSI$SSAA$SSEE$SSE$SSO~$CCA$CCU$C",
    "CI$CCAA$CCEE$CCE$CCO~$ZZA$ZZU$ZZI$ZZAA$ZZEE$ZZE$ZZO~$CCHA$CCHU$CCHI$CCHAA$CCHEE$CCHE$CCHO~",
    "$QYA$QYU$QYI$QYAA$QYEE$QYE$QYO~$KYA$KYU$KYI$KYAA$KYEE$KYE$KYO~$XYA$XYU$XYI$XYAA$XYEE$XYE$X",
    "YO~$GYA$GYU$GYI$GYAA$GYEE$GYE$GYO~!isjlbBE%VE%GHE%DE%ZHE%ZE%os%EL%EM%EN%O%PE%ER%ES%TE%mt%T",
    "SE%CHE%vc%SHCHA%FITA%ES-TE%A%IE%DJERV%MONOGRAPH UK%YAT%YU%ojA%qbYUS%BIG:%oj;!uegnSUBSTITUT",
    "ION MARKER$kj;!prSUBSTITUTIONhv!ue;!prkj;!ue<!txINTERPOLATION MARKER#kj;!kjTRANSPOSITION:!",
    "prTRANSPOSITIONhv!ue;!txwc!prtxOMISSIONhv!ue<!EDITORIAL CORONIS!PARAGRAPHOS!FORKED:!ub;!HY",
    "PODIASTOLE!kjOBELOS!kpANCORA!yu:!kjuggn!kkOBLIQUEnu!ohINTERROBANG!PALM BRANCH!nuajx!xtaujg",
    "b!prqgPARAPHRASEhv!ue<!xtakggb%hh!pryxheaQUILL!ue=!xxprmvhv#ue;!htpr;#ue;!prvmU:!ue<!prkks",
    "w!ue;!ylkisoshkgto!shkgsoylki:!wdmakg:!lvkgqo!ubtu:!yxxt!ujtg!zluyqtkg!yiit!txkg#it!yiux!D",
    "AGGERaprGUARD$ue:!yiDAGGER!xxmvuve!TWO-EMjq!THREE-EM:!STENOGRAPHICmewg!yxvqki!WIGGLYyxqa!C",
    "APITULUM!kknu!ubit!kkLOW-REVERSED-9tvqo!jqaprUPTURN!kkSUSPENSIONqo!ohqgKAVYKA%aKAVYKAgb!qg",
    "KAVYKA$akg!kkSTACKEDit!kjvx!ycDAGGER!MEDIEVALit!PARAGRAPHUSqo!PUNCTUS ELEVATUS:!CORNISH VE",
    "RSE DIVIDER!jcPATTYaueCROSSBAR%pr:!TIRONIANedET!MEDIEVALlfqo#tu:!prwchvawi!ue=!prwchvakk:!",
    "ue>!xxmvprsw$ue:!htmvpr:$ue:!OBLIQUEnu"] },
  { first := 11904, lines := [
    "!CJK RADICAL REPEAT$CLIFF$SECONDsh%yl%xp$sz$hu$TABLE$KNIFEsh%yl$DIVINATION$SEAL$csh%yl$LAM",
    "Esh%yl%xp%ma$SNAKE$THREAD$SNOUTsh%yl$nish%yl$mx$RAP~$CHOKE$SUN$qx$DEATH$MOTHER$CIVILIAN$zf",
    "sh%yl$FIRE$PAWsh%yl$SIMPLIFIEDmvTREE TRUNK$COW$DOG$JADE$BOLTscCLOTH$EYE$SPIRITsh%yl$BAMBOO",
    "$SILK$hy:$NETsh%yl%xp%ma$MESH$SHEEP$RAM$EWE$se$BRUSHsh%yl$MEAT$MORTAR$GRASSsh%yl%xp$TIGER$",
    "CLOTHES$zish%yl$hySEE$SIMPLIFIEDns$:$hySPEECH%vg$FOOT$hyCART$SIMPLIFIED WALK$WALKsh%yl$CIT",
    "Y$hyGOLD$qesh%yl$hyqe%GATE$MOUNDsh%yl$RAIN$BLUE$hyTANNED LEATHER%LEAF%WIND%FLY$EATsh%yl%xp",
    "$hyEAT$nh$hyHORSE$BONE$GHOST$hyFISH%BIRD%SALT$SIMPLIFIED WHEAT%YELLOW$hyFROG$onEVEN$hy:$on",
    "TOOTH$hy:$onDRAGON$hy:$TURTLE$on:$hy:"] },
  { first := 12032, lines := [
    "!KANGXI RADICALsh$qa$kg$vv$SECOND$nq$yl$LID$MAN$LEGS$ENTER$ks$knhu$COVER$ICE$TABLE$sihu$KN",
    "IFE$POWER$WRAP$SPOON$uesihu$HIDING ENCLOSURE$xc$DIVINATION$SEAL$CLIFF$PRIVATE$AGAIN$qz$ENC",
    "LOSURE$kq$SCHOLAR$GO%SLOWLY$EVENING$BIG$WOMAN$CHILD$ROOF$INCH$c$LAME$CORPSE$SPROUT$qy$RIVE",
    "R$WORK$ONESELF$TURBAN$DRY$vjTHREAD$kjCLIFF$qeSTRIDE$ylHANDS$SHOOT$BOW$SNOUT$BRISTLE$STEP$n",
    "i$HALBERD$DOOR$mx$BRANCH$RAP$uu$DIPPER$AXE$wc$ru$SUN$SAY$qx$TREE$LACK$wg$DEATH$WEAPON$DOru",
    "$COMPARE$FUR$CLAN$STEAM$zf$FIRE$CLAW$FATHER$kkX$mvTREE TRUNK$SLICE$FANG$COW$DOG$PROFOUND$J",
    "ADE$MELON$TILE$SWEET$LIFE$USE$FIELD$BOLTscCLOTH$SICKNESS$kjTENT$zk$SKIN$ke$EYE$SPEAR$gw$ST",
    "ONE$SPIRIT$TRACK$GRAIN$CAVE$STAND$BAMBOO$RICE$SILK$JAR$NET$SHEEP$FEATHER$se$f$PLOW$EAR$BRU",
    "SH$MEAT$MINISTER$SELF$ARRIVE$MORTAR$TONGUE$OPPOSE$BOAT$STOPPING$COLOR$GRASS$TIGER$INSECT$B",
    "LOOD$WALK ENCLOSURE$CLOTHES$zi$SEE$ns$SPEECH$VALLEY$BEAN$PIG$BADGER$vg$RED$RUN$FOOT$BODY$C",
    "ART$BITTER$MORNING$WALK$CITY$WINE$DISTINGUISH$VILLAGE$GOLD$qe$GATE$MOUND$SLAVE$vjTAILED BI",
    "RD$RAIN$BLUE$WRONG$ll$LEATHER$TANNED:$LEEK$vy$LEAF$WIND$FLY$EAT$nh$FRAGRANT$HORSE$BONE$TAL",
    "L$HAIR$FIGHT$SACRIFICIAL WINE$CAULDRON$GHOST$FISH$BIRD$SALT$DEER$WHEAT$HEMP$YELLOW$MILLET$",
    "hp$EMBROIDERY$FROG$TRIPOD$DRUM$RAT$NOSE$EVEN$TOOTH$DRAGON$TURTLE$FLUTE"] },
  { first := 12272, lines := [
    "!nwDESCRIPTIONihprxvue%gbxvhh%prxvqtfue%gbxvqtfhh%meSURROUND%SURROUNDmdgb(hh(pr(ys:)ue(qhp",
    "r%OVERLAID~~~~#wa#it#mewg!DITTOqo!ooINDUSTRIAL STANDARDwt!nwomqo#CLOSING:#ryzy!prgnhv!ue;!",
    "prkk;!ue<!prja:!ue;!przk;!ue<!prhppw:!ue<!POSTALqo!GETA:!prxyvghv!ue<!przkpw:!ue<!przkxyvg",
    ":!ue=!przkwc:!ue<!zgjq!ubkkPRIMEtvqo!=!qg=!POSTALqoll!HANGZHOUrzsh$yl$xp$ma$lv$vq$uz$ks$rn",
    "!nwLEVELxwqo#uk;#DEPARTING;#ENTERING;!nfvpkg;#kk<!WAVYjq!yxKANA REPEATqo%azdvy:%qoysmv%azd",
    "vy<%qoqh:!inPOSTALqo!nwTELEGRAPHqaFEEDuywt!HANGZHOUrzxc$yk$xm!yxnwomqo!MASU:!PART ALTERNAT",
    "ION:!nwVARIATIONoa#mvFILLwa~!nobcA$:$cI$:$cU$:$cE$:$cO$:$os$GA$KI$GI$KU$GU$KE$GE$KO$GO$up$",
    "ZA$SI$ZI$SU$ZU$SE$ZE$SO$ZO$wu$jm$TI$DI$cTU$:$DU$TE$DE$xv$DO$rh$NI$NU$NE$NO$mt$BA$ss$HI$BI$",
    "PI$HU$BU$PU$HE$BE$PE$HO$BO$PO$qj$MI$MU$ME$MO$czp$:$cYU$:$cYO$:$tw$RI$RU$RE$RO$cWA$:$WI$WE$",
    "WO$N$VU$cos%KE~~!isozzdvyqo$SEMI-VOICED;!ozzd;#SEMI-VOICED;!noom:#zd;#kdYORI!ozkknu!oybcA$",
    ":$cI$:$cU$:$cE$:$cO$:$os$GA$KI$GI$KU$GU$KE$GE$KO$GO$up$ZA$SI$ZI$SU$ZU$SE$ZE$SO$ZO$wu$jm$TI",
    "$DI$cTU$:$DU$TE$DE$xv$DO$rh$NI$NU$NE$NO$mt$BA$ss$HI$BI$PI$HU$BU$PU$HE$BE$PE$HO$BO$PO$qj$MI",
    "$MU$ME$MO$czp$:$cYU$:$cYO$:$tw$RI$RU$RE$RO$cWA$:$WI$WE$WO$N$VU$cos%KE$VA$VI$VE$VO#qtkg!ozP",
    "ROLONGEDvyqo!oyom:#zd;#kdKOTO~~~~~!BOPOMOFObB$P$M$F$D$T$N$L$G$K$H$J$Q$X$ZH$CH$SH$R$Z$C$S$A",
    "$O$E$EH$AI$EI$AU$OU$AN$EN$ANG$ENG$ER$I$U$IU$V$NG$GN$IH$Oakggb$NN~!nfbpf$SSANGKIYEOK$KIYEOK",
    "-SIOS$NIEUN$NIEUN-CIEUC$NIEUN-HIEUH$xs$SSANGTIKEUT$RIEUL$ud$RIEUL-MIEUM$RIEUL-PIEUP$RIEUL-",
    "SIOS$RIEUL-THIEUTH$RIEUL-PHIEUPH$RIEUL-HIEUH$MIEUM$PIEUP$SSANGPIEUP$PIEUP-SIOS$SIOS$SSANGS",
    "IOS$IEUNG$CIEUC$SSANGCIEUC$il$pd$xi$tc$HIEUH$A$AE$zp$YAE$EO$E$YEO$YE$O$WA$WAE$OE$YO$U$WEO$",
    "WE$WI$YU$EU$YI$I#lr#bSSANGNIEUN$NIEUN-TIKEUT$NIEUN-SIOS$NIEUN-PANSIOS$RIEUL-KIYEOK-SIOS$RI",
    "EUL-TIKEUT$RIEUL-PIEUP-SIOS$RIEUL-PANSIOS$RIEUL-YEORINHIEUH$MIEUM-PIEUP$MIEUM-SIOS$MIEUM-P",
    "ANSIOS$KAPYEOUNMIEUM$PIEUP-KIYEOK$PIEUP-TIKEUT$PIEUP-SIOS-KIYEOK$td$PIEUP-CIEUC$PIEUP-THIE",
    "UTH$KAPYEOUNPIEUP$KAPYEOUNSSANGPIEUP$SIOS-KIYEOK$SIOS-NIEUN$SIOS-TIKEUT$SIOS-PIEUP$SIOS-CI",
    "EUC$PANSIOS$SSANGIEUNG$YESIEUNG$YESIEUNG-SIOS$YESIEUNG-PANSIOS$KAPYEOUNPHIEUPH$SSANGHIEUH$",
    "YEORINHIEUH$YO-YA$YO-YAE$YO-I$YU-YEO$YU-YE$YU-I$ARAEA$ARAEAE~!nwANNOTATION LINKINGqo$ua:$s",
    "h:$yl:$xp:$ma:$xx:$qt:$ht:$FIRST:$SECOND:$xj:$FOURTH:$HEAVEN:$kq:$MAN:!BOPOMOFObBU$ZI$JI$G",
    "U$EE$ENN$OO$ONN$IR$ANN$INN$UNN$IM$NGG$AINN$AUNN$AM$OM$ONG$INNN#lsbP%T%K%H#bGH$LH$ZY#lsbG#b",
    "GW$KW$OE$AH!CJKwiT$WG$XG$BXG$SW$HZZ$HZG$HP$HZWG$SZWG$HZT$HZZP$HPWG$HZW$HZZZ$N$H$S$P$SP$D$H",
    "Z$HG$SZ$SWZ$ST$SG$PD$PZ$TN$SZZ$SWG$HXWG$HZZZG$PG$Q"] },
  { first := 12784, lines := [
    "!oybcKU%SI%SU%xv%NU%mt%HI%HU%HE%HO%MU%tw%RI%RU%RE%RO!sxnfpf$NIEUN$xs$RIEUL$MIEUM$PIEUP$SIO",
    "S$IEUNG$CIEUC$il$pd$xi$tc$HIEUH$pfA$NIEUN:$xs:$RIEUL:$MIEUM:$PIEUP:$SIOS:$IEUNG:$CIEUC:$il",
    ":$pd:$xi:$tc:$HIEUH:$CIEUC U#KOREANihOJEON%O HU~#IDEOGRAPHsh$yl$xp$ma$lv$vq$uz$ks$rn$xc$qx",
    "$FIRE$zf$WOOD$METAL$kq$SUN$STOCK$HAVE$SOCIETY$NAME$SPECIAL$FINANCIAL$CONGRATULATION$LABOR$",
    "REPRESENT$CALL$STUDY$SUPERVISE$ENTERPRISE$RESOURCE$ALLIANCE$FESTIVAL$REST$SELF$REACH!inIDE",
    "OGRAPHtu$KINDERGARTEN$SCHOOL$KOTO#ryxcONhpwc$yk<$xm<$ly<$lq<$vt<$vb<$kw<!PARTNERSHIPe!inry",
    "yksh%yl%xp%ma%lv%vq%uz%ks%rn$xm%sh%yl%xp%ma%lv#nfpf$NIEUN$xs$RIEUL$MIEUM$PIEUP$SIOS$IEUNG$",
    "CIEUC$il$pd$xi$tc$HIEUH$pfA$NIEUN:$xs:$RIEUL:$MIEUM:$PIEUP:$SIOS:$IEUNG:$CIEUC:$il:$pd:$xi",
    ":$tc:$HIEUH:#KOREANihCHAMKO%JUEUI#nfIEUNG U!KOREAN STANDARDwt!inIDEOGRAPHsh$yl$xp$ma$lv$vq",
    "$uz$ks$rn$xc$qx$FIRE$zf$WOOD$METAL$kq$SUN$STOCK$HAVE$SOCIETY$NAME$SPECIAL$FINANCIAL$CONGRA",
    "TULATION$LABOR$SECRET$MALE$FEMALE$SUITABLE$EXCELLENT$PRINT$ATTENTION$ITEM$REST$COPY$CORREC",
    "T$nm$if$qg$pr$ue$MEDICINE$RELIGION$STUDY$SUPERVISE$ENTERPRISE$RESOURCE$ALLIANCE$NIGHT#ryxm",
    "vq%uz%ks%rn$ly%sh%yl%xp%ma%lv%vq%uz%ks%rn$lq!nwTELEGRAPHwtlwJANUARY&FEBRUARY&MARCH&APRIL&M",
    "AY&JUNE&JULY&AUGUST&SEPTEMBER&OCTOBER&NOVEMBER&DECEMBER!wcHG#ERG#EV!LIMITED LIABILITYe!ino",
    "yA$I$U$E$O$os$KI$KU$KE$KO$up$SI$SU$SE$SO$wu$TI$TU$TE$xv$rh$NI$NU$NE$NO$mt$HI$HU$HE$HO$qj$M",
    "I$MU$ME$MO$zp$YU$YO$tw$RI$RU$RE$RO$WA$WI$WE$WO!wcERA NAME REIWA#APAATO#ARUHUA#ANPEA#AARU#I",
    "NINGU#INTI#UON#ESUKUUDO#EEKAA#ONSU#OOMU#KAIRI#KARATTO#KARORII#GARON#GANMA#GIGA#GINII#KYURI",
    "I#GIRUDAA#KIRO#KIROGURAMU#KIROMEETORU#KIROWATTO#GURAMU#GURAMUTON#KURUZEIRO#KUROONE#KEESU#K",
    "ORUNA#KOOPO#SAIKURU#SANTIIMU#SIRINGU#SENTI#SENTO#DAASU#DESI#DORU#TON#NANO#NOTTO#HAITU#PAAS",
    "ENTO#PAATU#BAARERU#PIASUTORU#PIKURU#PIKO#BIRU#HUARADDO#HUIITO#BUSSYERU#HURAN#HEKUTAARU#PES",
    "O#PENIHI#HERUTU#PENSU#PEEZI#BEETA#POINTO#BORUTO#HON#PONDO#HOORU#HOON#MAIKURO#MAIRU#MAHHA#M",
    "ARUKU#MANSYON#MIKURON#MIRI#MIRIBAARU#MEGA#MEGATON#MEETORU#YAADO#YAARU#YUAN#RITTORU#RIRA#RU",
    "PII#RUUBURU#REMU#RENTOGEN#WATTO!nwTELEGRAPHwtlwHOURzy(sh(yl(xp(ma(lv(vq(uz(ks(rn(xc(ky(yj(",
    "xl(mb(lp(vr(va(kt(ro(yk(TWENTY-ONE(TWENTY-TWO(TWENTY-THREE(TWENTY-FOUR!wcHPA#jm#AU#he#OV#P",
    "C#DM$wd$CUBED#IU#ERA NAME HEISEI%SYOUWA%TAISYOU%MEIZI#CORPORATION#ssAMPS#rh#MU A#qj#os#KB#",
    "MB#GB#CAL#KCAL#PF#NF#MU F$.#MG#KG#HZ#KHZ#MHZ#GHZ#THZ#MU L#ML#DL#KL#FM#NM#MU M#MM#CM#KM#MMw",
    "d#CM:#M:#KM:#MM CUBED#CM:#M:#KM:#MsoS&wd#ss#KPA#MPA#GPA#RAD$soS&wd#PS#NS#MU S#MS#PV#NV#MU ",
    "V#MV#KV#MV MEGA#PW#NW#MU W#MW#KW#MW MEGA#K OHM#M:#AM#BQ#CC#CD#CsoKG#CO#DB#GY#mt#HP#IN#KK#K",
    "Md#KT#LM#LN#LOG#LX#MBc#MIL#MOL#PH#PM#PPM#PR#SR#SV#WB#VsoM#A;!nwTELEGRAPHwtlwDAYsh(yl(xp(ma",
    "(lv(vq(uz(ks(rn(xc(ky(yj(xl(mb(lp(vr(va(kt(ro(yk(TWENTY-ONE(TWENTY-TWO(TWENTY-THREE(TWENTY",
    "-FOUR(TWENTY-FIVE(TWENTY-SIX(TWENTY-SEVEN(TWENTY-EIGHT(TWENTY-NINE(xm(THIRTY-ONE!wcGAL"] },
  { first := 19904, lines := [
    "!HEXAGRAMlwxfCREATIVE HEAVEN%RECEPTIVEkq$DIFFICULTY ATxfBEGINNING$YOUTHFUL FOLLY$WAITING$C",
    "ONFLICT$xfARMY$HOLDING TOGETHER$cTAMING$TREADING$PEACE$STANDSTILL$FELLOWSHIP$GREAT POSSESS",
    "ION$MODESTY$ENTHUSIASM$FOLLOWING$WORK ONxfDECAYED$APPROACH$CONTEMPLATION$BITINGxq$GRACE$SP",
    "LITTING APART$RETURN$INNOCENCE$GREAT TAMING$qzCORNERS$GREAT PREPONDERANCE$xfABYSMALzf%CLIN",
    "GING FIRE$INFLUENCE$DURATION$RETREAT$GREAT POWER$PROGRESS$DARKENINGscxfpz$xfFAMILY$OPPOSIT",
    "ION$OBSTRUCTION$DELIVERANCE$DECREASE$INCREASE$BREAKTHROUGH$COMINGxvMEET$GATHERING TOGETHER",
    "$PUSHING UPWARD$OPPRESSION$xfWELL$REVOLUTION$xfCAULDRON%AROUSING THUNDER%KEEPING STILLqy$D",
    "EVELOPMENT$xfMARRYING MAIDEN$ABUNDANCE$xfWANDERER%GENTLE WIND%JOYOUS LAKE$DISPERSION$LIMIT",
    "ATION$INNER TRUTH$cPREPONDERANCE$AFTER COMPLETION$BEFORE:"] }]

end QueryTelemetry.Text.Name
