import Autoresponder.Text.Span

/-!
# Character names

The names of the characters of Unicode 14, in order of code point, other than those of the CJK
unified ideographs and the Hangul syllables, which are spelled from their code points.

The names are kept front-coded in chunks. A chunk is a run of entries; an entry is a letter
from `a` to `z` that says how many leading characters it shares with the name before it in the
chunk (from none to twenty-five), followed by the rest of its name. An entry names the code
point after the one before it, unless it is preceded by `=` and the hexadecimal code point it
names; every chunk starts with one. Names are written in capital letters, digits, blanks and
hyphens, so no entry is ambiguous.

The chunks are kept as one text, separated by `|` and packed by back references: a character
below U+0100 stands for itself, and any other one for a run of the text unpacked so far, of a
length and from a distance back that the character spells.
-/

namespace Autoresponder.Text

/-- The run a character of the packed names stands for, as its length and its distance back:
none for a character below U+0100; from U+0100, runs of 3 to 10 characters at most 146 back;
from U+4000, runs of 3 to 34 at most 1216 back; from U+10000, runs of 4 to 67. -/
def backReference (c : Char) : Option (Nat × Nat) :=
  let n := c.toNat
  if n < 0x100 then none
  else if n < 0x4000 then some ((n - 0x100) % 8 + 3, (n - 0x100) / 8 + 1)
  else if n < 0x10000 then some ((n - 0x4000) % 32 + 3, (n - 0x4000) / 32 + 1)
  else some ((n - 0x10000) % 64 + 4, (n - 0x10000) / 64 + 1)

/-- Appends `length` characters to `out`, each a copy of the one `distance` places before it,
so that a run may repeat itself. -/
def copyBack (distance : Nat) : Nat → Array Char → Array Char
  | 0, out => out
  | length + 1, out => copyBack distance length (out.push (out.getD (out.size - distance) ' '))

/-- Packed names, unpacked. -/
def unpackNames (packed : List Char) : Array Char :=
  packed.foldl (fun out c =>
    match backReference c with
    | none => out.push c
    | some (length, distance) => copyBack distance length out) #[]

/-- The front-coded chunks of the name table, packed, in pieces. -/
def packedNames : List String := [
  "=20aSPACEaEXCLAMATION MARKaQUOTAŷNUMBER SIGNaDOLLAŜPERCENTţAMŰSANDbPOSTROPHEaLEFT PARȠHESISaRIGH䈫ASTERISKaPLUS͋COMMAaHŸN-MINUSaFULL STOPaSOLIDƈDIGIT ZEROgONEgTWOhHREEgFOURhIVEgSIXhEVENgEҙgNINEψLONaSEMIŋLESS-THANӃEQUALԤGREATER-ǯQUES扦咂ERCIAL ATaLATIN CAPITƀLETː AvBvCvDvEvFvGvHvIvJvKvLvMvNvOvPvQvRvSvTvUvVvWvXvYvZb昁S԰RE BRACKETaREVERSE 弤bIGH䑮CIRCUMFLEX ACCENֈOW L幡GRAVEƫ哥SMAL咧tBtCtDtEtFtGtHtItJtKtLtMtNtOtPtQtRtStTtUtVtWtXtYt咣CURLYԆVERTICALҚ糂䐭TILDE=A0aNO-BREAK 较IN˙ED 邮譧POUNDœΠRENCYūYENŃBROKŘBARaSEC̘ƼDIAER贂COPY勡ΔFEMI艡 ORDINAL INDICATOR隢-POINTING DOUBLE ANGĨꌍOͬSOFT 阣aREGISTҨDǛMACROՈEGREEƒ鵢鬣˴UꝡCRIPT TWOnHɈaACUT眆MI̠ˤILŘWϤIDDLE DOTaCEDILLA䦊ONEӸSCUL嵒甂𓫣VULGAR FRACơϐȑARTERuHALFqTHREƖS竧ꛪꔴ WITH 镂zŀ彁ł髧ũ衁Ʋ窦šR圡ABOVEwEvC͋慤vE䬟䧪vI𐰬ETHvNʠ叅vO𓋴aMULTIPLICA韦旓ДST麁vU𒲬YʀȽvTHORNg숪SHARP St犪δ䪉塤Ϗz煨uEt煫tE䧜̿tI𐪦ETHt濩tO𒵬aDIVIS測戁淳tU𒜦洩t洢Ɣȟgꅓ욂狣䍓䛴BREVEʲ䌲䚴OGONEKʲ䍓䛭C嬇ѫ䌲䚱鋪˒䏗䟴DOT豢Ӌ䎵侶A欍Ǐ櫰D䚶D䚹蘩ʲ䍒呮E羷E羹E羶E羸E槺E槼E蝷E蝹E樶E樸G蝻G蝽G搶G搸G携G搼G𤀉˚䍴䜭",
  "H嶲䏗|=126𨬒H酗H酙I𥔆ʳ䌱䚯頗I頙I珖I珘I遗I遙I站ƱLESS IʷIGATURE IJɕƏ䮍J睻J锽K蚯䍴uR蜎L𦘌䌲䚮乘L锚L릍䌲䚴𺼆˒䏗䟮驷L驹N掶N掸N掸N掺N掭䌲vPRÈED BY A񌽄僎ENG̜Ƈ䑭O꿗O꿙O꿍䌲䚳񀵃檨䐙ꩯOʥƏ䴮R眖R眘R眘R眚R眖R高S咶S咸S엻S엽S岸S岺S岶S岸T䷸T䷺T䷶T䷹붗T붙U𫀌䌱䚯꠷U꠹U꠭䌱䶲񋂇˔䏕䟰뀴䐘䡯𭄖U𭄘W電W雽Y䟴Ƿ䟿񋗉Z꿖Z꿘Z𰋐䎵䞯驍䌲tLONG StB闹ǤHOOKzĸTOPBARΝȗǖꓮONE SI棉Ư枮OPEN OvCҦ罌Ǉ缎AFRICAN DvD噟D噉tTURNED DELT쎮񣧂ǨEvSCHWAv呁ŠF呕F呗GǗwAMM풬HV䗭IOTAw玉vK亵KǇtLśBARuAMBDA篙彄MvNȪưFT̪|=19E񑶐Ʉ蝢񢹁ǀG磮𴫈񙕆񗕈ɇǄ䡮Iɓſ䐭P憬䌒ƔY錳TWO˒䊮䖭ESHg艎S惡OP𧾑PALA˸脒T圑Ǉ䙸ӠTRO켁ȢvUʀ欒U欗UPSILONvVѧvY刵Y刷Z𬂖Z蹹EZHy梆ʼǗǎx̒TAILgǫ狁饩稒FIV՛䋏̵񨃅GLOTTA񷂂䬉nWYNNnDENǡCLICKnLAˈŮALVEOLARŴ牦ź擮D𥴈wу斫񗍖Z񂯘J䦑J̋ȧ䛍N䛘ȧ䛎A咖A呸I䚶I䚸O䚶O䚸U䚶U䚹𮰋 AND𵨈䔞𑓣𴇈䓿𑑠崣䨿𓷦񨾁呼ȿ𬷄E蕎橞䔟䩮𳲋䩼ɇ䩹E񫖗񣙙G𣺖G푙G鑖G鑘K䚶Kꢙ𽁍䍓䛺泍䒾𧬏垭䍴tJ妘DZ횑Zͻȧ淳꽍Ǐ궓HWAIRvWYNNvNȲꋱNǏꀏ񄡌쀎䔟閕̯䍔񾖗僭䒒偹񆷈抈䐓捹𮄅񸛇䑛謎兽E兿E典ȗ兿I兽I兿I其䑕񛾛ї|=20D򁂑募O勘ȗ募R摝R兿R典ȗ兿U兽U兿U其䑚񝧔򡝁 BELOW̢䏸䠭T䠼T䠾YOGHʝƏ䒭𧇍䌲ʬ񈮚򂲒URL辮Uɓſ䐭Z񂸋䌑𱋚쾮򁡜񡩎䍴덎𴗝䔟䩮񠵇䧸ȧ䥹拱䎶䞼冸𶡦Y𶠍䍓tL衧tN şT ş񽁄JuB DIGRAPHtQPŕ蒎񕸉C𷰖C𷰘񖋆vT窆GONAL͜붲SWAS񋺂tZ䈬ꑍ񋄉͢䌲䚭B宪U吂𿎃VvE嶗E嶙J䛷J䛹ɋQ똇崂䠊䎩惒R佷R佹Y䛮䍒񃬅AtALPHAŵţB厇t񣂂tC載 񓊅zȣ񙂆t񡕁y䠍EȗŻzŎ ɗCLOȉ䕌鴇堊G ˇ򮈃Gg瀪捅G裬AMMAtRAMSˠRN彅HtHΏuEN䯩I伩uOTA䴓I򅡗򤑄BELTz񛶆ѬZHԵ",
  "Mz M𩣆͐GtM Տ񣗌䥍匓쵫ꎡRѐO䖓O숌犤OMEGAtPHI唥RӘ唫ƀ啈䎍蘄FISHǹu粤ʜƺ堶ѠL𱹆R청ҧESH藧񀅌ȓSQUAT񣵉ʩ鯧寥Tu񢢐t쮂u񡳂tVӗʵVz Wz Y壓Y圫Z䰱zԫEZHw劇g𤄏nPHARYNGEŸVOICӠFR򳘁VEn񠕑nSTјCHưCnBILABI񠄅唋B聮눇겳ꗨzL H򖏒ROS̸-脡|=2񮑒棤脔𥇕ɽ񤆖繅䐶񢬌𭋄돡Şƭ蘪SɗSɗC䕐FENGƵtLS䫏gӴ珆PERCUSSIVEp񧃃Əg朱Hꨋz䈍ꅁ놂aMODIFIˈ浊Hx檇wJwRw븆Ī ǧ犃댩wWwYqPRIMEq񁮃ţ̓𾵂q򕾆q牣Ǎr𽑁HALF񑃁qLEF䇉盩q禲ʋARROWHEADqR΂ſUP ŧDOWN ŷ󏞎񀁁撎󎅉q𶰂q󉇈q󐍈qLOW䙋uʓu䒩u䟪TRIANGU񮑁OLϨ恂䊮əR溁暫y暫幡TACK巂ŋ󘅅q󌞇B樁a𻅅a˙Ŕ񜕂a莢𫇂a箄囉攎RHOTIC蔢q뼢Ʉq͂𮇂wLwSwXw禓EXTRA-HIGH񳵂BARq䆫MIDŦ洡Ŧ˜䉊YIN DEPARTINGƲ󌭁rANG䋱qVOIC栂NASPIRATED骅頧Ҫ褫u販u鈫u鈬wϸ𰠃臩xй䉬z渮ә燣qRAISED茄BEGIN 攦qENDůǬːǦŧSHELFq𧦁ŒЊ堧aCOMBINING匪k劉k꣮k呂k黃kOVERꃁk踂k踆l񈝄k푡ƛk邇k踨їAΉꮪ䖫䍐r圢̏NDRABINDUk񓙊k홉ά䅩휣䐗닃k䶩񒮂斧Ɨ汁덢ż˙Ƅȇ󘲂ьHORNk봫ɔUP䜉뺣ſ뽦ż쀤Ƈ򇨃IZED띁֍𲣉ϧTŋ瞆ɬշ扃Ȭ񑇂k짣盫ɬBRIDGŤ爇罥RCHΫ缣Ӝ跭͖EV䤮BƧ鋂Ŝ鎄Ť󧖃袦Žʌ頢AYkSHORT𹞂Ƨ򚄁Ɵɇ󩚄䔪䊎𧋋埍揊󪞂歅AGULLǌX蒃氦쒂姆뀥鍣𣰆錃ſǸEEK PERISPOMENIqKORONISqDIALYTIKAɩOSqYPOGEͰMȩ碄Ԝ󯯁谩덲鳍ƅNOT垂黇MOTHEˀƄALMOST Ъՠƫ̻𥪇ꍆWARDS䉪𵴁EME JOԸRk𦠋΃괬ƤFERMATAkX垨ˏ륈䊮z𶃁UP䋭q䱌갡짊AST燁K楊蕉ZIGZAˬǴ麉wr鴣xųr止rꏋrђ支𾫏A|=364𨖇䑰EzĩIĪOĪUĪCĪDĪHĪMĪRĪTĪVĪXa鄢󍴍ETAgѕƏ䒫욂AIC SAMPIɲ䍔NUMERAL锢gLOWȀ䉉䫭PʠHY",
  "LIAN DIG򣿅䏸=37Agꔩմ񊋆LUNATEѱMA SYMBOLmDOTT䍔ʾ䑷gQUESTION먢񬩎T=384g뢂g몌椎LPH񡅂ǼANO TELEI湮E񌞂 ɧwT䝉vIO䇪ԠCvOMICRʣƷEvU䥮ɈEG儩漋ϟ娆궡媘vBETAv瑢vDELŘEңvZǁęTHĩϑvKAPPAvLAMDAvMUvNUvXI垅vPIvRHO=3A3v烁ˀAUvUͬPHIvCĘŰ塣v啰ɭ䋋讃煶t港uT䐊ыſЬ攖tВt挡t挢t挢хtZǁę挢ϲt挢t挢tMUtNUtXIt挤tPItRHOtFINꨃΈīTAUխ񙞁CĘŰt搢t搰坴э岲Ɨ螇般KAIꚅ庡ŝTHEŧͼ񦼆Ǆt𷓃ND䊪񳱅ǎͅPHѥhҮKԇ퐌KOPPA흮ǗɽSTIGMɇƟȍ핎ƧȞ䶰䲪𥉋ƗaCOPTIC 걌SHEIhɭƏ䒬FȤƇȞԯ͍Ə䤰HORȭƏ䒮GANGIAhȿƟ埮IMɆƗ䓮DEҵƇ𪸃ꌁ衦RHOŕ𦰏h˛Y󞏇逧ʗ뷤Ν𩁅䏓娮Og姬OȞ剰pȬANʵƇRH򕬉丫𫚚o𪶖o𫚟aCYRILL踏IE򛋇zOyDJEyGĘUKRAINIANȈyDZEyBYELORUSSƘ-UǯyYIyɸLĘNĘTSHEyKŀI οy𿔂ÙǨAyBEyVаHψEyϸƨzŀȳΐKAyELzMzNyOyPEyERzSyTEyUyEFyHAИEyCHΩAzHCHAƘRD巁NyYERUySOFTųEyYUzAj솋wBEwVEwӰwDEwIEwӰxŀwӴwKAwELxMxNwOwPEwERxSwTEwUwEFwHAwӰwCˠSӈCŸӮwөwӮwEwYUxAw汊xOwDJӠĘ汈ՈZEw汕wYIwɸLĘNJEӸӠKŀ汉w汄w汁j粋񲎁悧Ɨ䓭YATȭƇ󊘎IFIED Eɒ䋯侮LITTLE YUSʊ䋰䱵䝔ȇ䡸BIG ʿƧ䷹䚊䎶|=46EꨖKSI˴Ƈ䷭PȜƇ䑯FŠȥƏ圮ZHITSAɇƧ䕵蚃񜳎罉䖿苮UK˻ſ䐭ROUND酨䌑霱ԜTITLO˂䎶䞮TɻſȌ𮫊ȧƗTHOUSANDS륂b񆳅绅҃t񘀅ATIONtDASIA PNEUMưtPSILIŶuOKRYTIEtHUNDRED 䱫tMπ̠Ҍ诔푤򉕆垂䏘䟭EMI퐦˚䍓䛭ERΜICKʲ䌱繎GHEǣUPTURѻ䎕䝯򑰉˚䎕䝰򉏈𹍁̂䐹垮ZȝDESCENDER̚䏸䠮䠜䟽KA䟶",
  "Ƿ䟿񘾅楩䒝䥴䡔熹BASHKIȨ괬ƿ趮N廱䏗˿IGATUREȐ籁ʲ䊭叮P薝P蕿ABKH뾁N HAˢ䌱峯S峻S篼T读T诼痡A񝲁U˂䋰䘷膷ȟ芹H魳Ƿ籾TĐSӛ䊭䶮C륳䏸䠰ꦗ䒾森H蓧Ə誶θу䍓䛶廹䔿ȜPALOCHKA𤟔񤉂κ䍳쥵굇䌲ꖮL𫶋䌲쥴џ䌲䚯䵶N䵷KHAKAS瘊䍴䷮M䷬䌲w煕A焍䌳󞬛j󞡙뀎ȈIѫ䉫䳮I蓷I蓙򬟁ɾƗ䓱奲䐺|=4DC𿇆鮏䨱䏸ꏎ䠒䏗뢗DZ뾎Ǘ涯򼝈ʺ䍓䛮嗚I喼O䞺O䞳򭥍j򭻑䖳乘ȧ伾璛瑽U浮䍔󮁛䝐亿򏥈̂䐘蒮C鯼C鯾G𩚛G𭒝YER愕ȇ傿򲺑͂䒾𲔓̏䌭䚶ϧ䛲𽔔OMI DEʗƧ䕴J䖒J䖳Zɬ䊭䭴Z䮓䗵L䗒L䖴N䖲N䖴S䖲S䖴T䖲T䖮񥢆Zʃ䌑쐮L艭Ǐ艷LHAɤƇ冮ȝƇ񞓏EțƇ吮Q̳ſ䢮W̥ſ񿜍EUT񆢋Ư扯񄲒䐔𵢓䡽N䡾P큒䏗𾆐䠱䐙壮󉧇墲Ƿ塲DZZHEʞƗ䓮CȶƏ閰姱䏗=531aARME񩫁芍YByBENyGIMyDAyECHyZİHzTyTOyZHEyINIyLIWNyXEHyCAyKɨHOyJAyGHADyCHưMƘYIyNOWySHAyVOyCİPǈJǱRAySİVEWyT͉R͉OyYřPIWRyKƀOHyFEH=559j򴺌򙮊j򱮆jEMPHASIS򞡂XCLAMA򏟅j򥬁j򏳉jABBREVIAƏ󀴏拁węBENwGIMwDAwECHwZİHxTwTOwZHEwINIw捁wXEHwCAwKɨHOwJAw捁wCHưMƘYIwNOWwSHAwVOwCİPǈJǱRAwSİVEWwT͉R͉OwYř捁wKƀOHwFEHq񓣄Ո ȁq엄I𩿉FUL򸰂jHYPHEN=58Da򛃁-FACING 腦E˰NITY򻲂LEF䑝ƶDRAMƑϨ91aHEBREW򩯃ʐNAHTAoSEGOLpHALSHELEToZAQEF QATANuGADOLoTIPEHAo燢ǰRQAoPAS˘|ΰA䫌YETIVoTɘRoGERESHu MUQDAMrSHAYIMoQARNEY PARAȸLIư GEрαZERoA匡 HAFUKHoMUŠpAHAPAKHpERKHAu KEFUɰDARGA͸DM͏QETANAoYER̘BEN YOMOoOLEoILUYoDEHIoZINORh誡 MASORA CIRCLEhPOINT SHEVAnHA",
  "TAF 探tPŘHtQ隡SoIRIQnTSEREnǪnǪnǫnHOLAMs HAȀ FOR VAVnQUBUǘDAGESH ORҰP̠METEGiUNCTU鴅QAFiԢRAFE䍉P΀Qi古IN DOToĳ䒩SOFɉUQ宣UPPERșmLOWŋhPUɷNUN泤Aϓ境羣=5D0h𩾆FoBEToGIMELoDALŘHEoVAVoZAYINoHƀTĘYODo򔮂KAFoęLAMEƝMEMoĘūӱoęSȈKHo̹ǌPEoPEŜTSADIoīQOFo詡oSHɘTAV=5EFhҘ󉨃LEhL꿥YIDDIS𽼄烡yĘ ɠyƓő懊闣w铣=600aARABIC NUMBERꤢhġ SANAHhFOOTNOTE퐂ERǕFHAoMVAThʳǩ󀚃g-IND͸CUBE R˨nFOURTHŚg RAYȍPʹILLEҢrTEN񲥅ƊbFGHANIś咂򿒂hDATʘEꮡTORhPOETǘ𵓁埧ϐSRAmSALLđπ ALAYHE WASƪMmƄžRAHMATUɱɤoDI ˶NHUmTAKHƀUSiMİ󆽃AHs牅裂𮄂ΈŃYEHsZAINnFATHAnDAMMAnKASRAiEMI󈚁邂棤hEND OF TEXTƃTRIPLE魁 票Ǜ𩓉̵ϠHMIRIӑoHAMZAo勦ɀDDA疃yǙŜoWAWȃHƧʲƯ󀯃oΰ䕓oBҀTEHթBUTArpHƀJEEM԰HoKĠꬡoTHĠRǐ拡oSEENpHġADoDĘTAǈĘǡGHĩKEHҝTWO慁SҳzTHREEƂ厄FARSI Yɴ󜃆Vz䞯ƒ̋ƧhTATWEELh򛱅HoQ봧oM姁NOO숡H曁撣MAKSURAoӈh紡찁h綁ł緡ŁǓƻƣhSH爡iUKUNhMőHԼ殨n孢hSUBSCRIPT ґh学ͳ낢NO볁HUNNAhZWARAKAYhVOWEL 랃霂Vγs̍䋌赁ҋ򗰂Е垣烫hWAVY菉밅DIGIT ZEROtONEtɸu洡t숁uIVEtSIXuϰNtEIGHTtNINEg싁CENT뤣DECIMAL붨򃈆ƟF͠ POIN夂TAR眤叁LES茁Hw砡SUϨ栈鯄ASLAu婁大菄嬬o뷡ƃŷz羡Uꅯȿ끂ՠHsĸBEš錤𹂁x辌őWN򿣁oPɣʹĪHA꺯x駥񰄅ԌNҹDYʵ鳱oTCΰtȹDALpAL勈耆zļ AN",
  "蒅TAHqHʀDAĩUˏ奷x繡佉RREHp愄δVx伫xƴūƹՏ͑怉χJEHoRυ京촂ǋ䦴y즭zžɷ峮pAD퍇ɟy淮然AIN䌴顄킂Ę垧MǨD瑫oVȥ͗շ觡𣉂̢案于KɊSWASH𳣄荫ȼNGǑ䷔GAFrʯɘOEHơ救pUEHpAF恴LAM蔋块z傋|=6B9𳢄슄NOO肍t𤯂oRǙoȁ圇y凎HEˑACHASHME꣄Ύȧ𯽅ƓsGOALw앮𬮈 ȑoWAWӷoKIRGHIZ OEoĐUoYUƖYUɟꃌVE𬇆oԐ񷗆꫅ˑ嚍EoY螵sBARƈy埮h񇦅𽉅EhS𴝅񶭆SAD𴘋𬶈zE QAF䐘sMEEM INITIAL FORMsȸȒsJǐs嘧s볡𵆄AYAHhSTARTũRUB E匡ZBi呦򠕂ED𪫁sUP󘚂RECTANGULARǃ녅HEAϊKHAH劤SOLATED勂n쓁ԉnϘ𵮃nWAWnYEHƓŀs貁hPLACE͑SAJDAHhEMPTY CENTRE ̰櫂uʙŊh哥Ǝ擃FILLEDʻ潤˪卡犅DAL𴏌oR𴣎aEXTEКꚃ𯊍zĸONEıTWũ蔢Ź𥭁ĺIVźSIXĲEVENŁE櫁ŁNINE늌SH𦚎oDAD䉌𸍁䓭񂔃INDHI AMPERSANDtPOSTĘI𼝂ENhєH庰SYRIAC 虃񎷁󡾁hSUPRALINEAR 鳦jB䈮ȯ𿎁ȉůhHORIZONTALƄĪ SKEWED񙓁u蹂䷊䑮jB䌱˃CϨRACTIѩARKLEAN OBELUSqMETŌ󢤃CUS=70Fh񚀍렆LAPH𴬈ƌBETHoGAMALt GARSHUNIoDǘTHpꍤū ШHoHE챡𿢂HˑTĠsˏYUDŰȨKϡLθDHoMIM񌰂EMK͈񌠃ŭEoPE󂃆ŘSAD̀Q́RI񌴆WȸR򂴁BӉwGHϨLwDH参hPTHAHퟤo赢󃳃hZ͐䌳RBAS𾌊ǃ ZLϘ 籧u욄hH䘭m-ESƑΌES䨭RWAHAhFEMIꑁȹhQUSHSHAYAhRUKKAKǸTWO𷭅𫺈̚i𪭋sϋOBLIQUE LθǃuǃMUSICh𧜁KH=74Dh눥OGD栁Z긡wҸPHwF뛍B𨮎愨LY𶻑ɟ𯄍𿅂ING UP󫨁ʳz䏶η𬁋yŬ𸳑񃵌𹰊𼱅䩍哝o𥤅𾕍LY𽆐儔oREH񥉇𺷂𻑆𸸐啟𾌅ȕ呏Λ𹁇桪忟KE𴈎z維z綾񍠁䣍蠥𶝁叒檦złV𸶆BAR橇T廵x𶔆渣䗼蓇ӋꌪԹ靤䍲阪Ѫ͕䗟菁𐭦哞񗩍𰂗Ωɻz䒗밃α𺅈𑛨Ɏ䰟|=",
  "777튬𑳦ꧢ謄WAW𒣨𓾢ԡ𼹂𑛨Wɗ䱟HA𓧩趆䘟Ѓy𸱇KAF췑aTHAANA濥ŠoSHAVIYANI똂UoRƘBĘLƽ͘AFUoALIĨVAAVU뻢UoFƺD̠LUoTHʙAAƸGƹpN˴壂ȰŵZŅTŅYˈPťJŅCHɆTȀHϹKġT҃Z坢ϙpAADHЈĳTOoZOoAINՀHĲQչoW圡hABAFILIiĸłhIBIĺEEBEEŊUBUĺOOBOOǚǐʢYBEYǒǈ̬O̫SUKU𺷅NAA=7C0aNKO𾏇kONEkTWOl舡k皡lIVEkSIXlEVENk𽴁kNINEe̼AlEElIlElUlOOmlDAGBASINNAlNlBAlPAlTAlJAlCHAǠlRAmRAlSAlGǠFAlKAlLɐA WOLOSOlMŠYAmAlɰWAlYűǦJOɀJAq͘qRAeC󓛄󐼂񬾃ONEuLOWŃRISǸŚoLONG򈽄ƥtʞtʝt䙩NASALIZ𻔆o񴉂𩊆e̎ 򆿆e͠䉮󫏂 OOԠNNEN恁KURUŐe񲊁eE򇨋eLAJANYALAN=7FDeDANTAŲfOROM񲟂eTʐNŒaSAʰITŰ𽻆FrBITrGȡrDŸTrIYrBAArZENrǈTĘYUTrKAɐLABȀMIMrNUNr惡AʁNrFIrTSAAD˘QUFrRISHrSHΐTʰkҨK Ȩ-ѹpOCCLUSIONp񾿂l򋶋EPENTH񵦁Ӏl˘䉌k񩠇皢EvEvOVERŢAAvĽAAƷƬƠkM҄󙛊AkηƓʝUvU䙮I傎IvIvOvꢂ布NEQUDAA=830k򀤇ƽwAFSAAQxNGEDwBAUwATMAİSHIYYAALAAk񄳍̼ƄELODIC QITSAwZIQΘŜAEFwTURUwʘAANΠOF̀SHFAATwANNр=840aMANDAIC𥋆LQApABqGqDqHpUSHENNƀZpITpATTqKSArqLqMqNqSpINpAPqSZqQqRqSHqTpDʍKADpAINiAFFRIC堇iVOCꘫiGEMINſ=85Ei峈=860񌱄񺷅L鳂M NGAyJAyNYAyTTAyӈzĘyBHAyRAyLLAzĘySSA=870𮷊񼻇A˘CHED 񱯁zŭTOP񋰂ƻyŚ򞳃𼫃y̘䉍ͮKASRͯBOTTOM΃䍋󨦂왇ƽɛǯƾҠ䋐Ə𺢃ΆyA婔",
  "񪎊少ȋ͇妶䥬z丷埥ING丵ȏ丽ɏ暫񠳂昩Ɣ񽮄缣쎡ҰUCKʄśWAWu𿯊h蚄THIN YEHhBASELINE溧hRAISӸƇ񨂇񘃋񇻍񆚓TǼ窧񊾆񄇉񈈛hƅ񦔁=890hP品򍊇iIASTRE ƏȰ8񥛈WORD AL-JUZnΘŻISHMAAMxM혡wTASHEELh򇵂WAAJIBh񼇌 MOKHASSASh𬭂D ɺhHALFœ猂Ƭ񏼋搫񅆈򇹁񪟑T񍢒|=8A4슬Fе񑅚񳘅ȿoLAM󂝉BAR񉜆䠯Y皭ѷ򀕉񑙖oR̕LOOP񭢉łINoROĨGY򀘂̀瀂񐹆覎SAD񵠖镋뗤o󤔅񝾃鵭V񹵌頯楮毁烑N竊艌浡ǌP䌶T䌫Ű楨Ǉ뚂生䖏A𫯁N F򈄂wǑ凍VԬƇp䈎CH䙬볧ƗGH檐儌Q񻨕J鍶zž魇񏕠GRAFhȒ񌕃񲄄ŷs񊣆檑s쪂SAHsZAHhLARGE𬞌xɂ񂭂ʣȻ򩳃ƓnʧINSID䎫񲵆隁n𣝇R-RUBsSADsAINsQAFs𦽅𩴂nʡ䉬䠉TH-T񧷂AyS-񵩁yN-NISFxSAKTAxQIFxWAQFAs򣭋s򣭆hDISPUꞁ񹖈TURN򔚄壤CURLY 򟩍n򘑄Ƣł򘑅񁶁Ę樇m灅Ŵ즁Ŕȼѫm畋ȺԼOPEN ҥmҥmҥ𩅉AWhɊ򁵆sՖhʊ뼬hLEFǸRROWHEADɌR͠䊮䕌˻ɒ䊯𦥃䣲zŗզ丳Ƿ狢Ŷ򜞂輡WAYS򜧈aDEVANAGAR򩭂𤩆CANDꬡNDUq䅩ANUSVARAqVISARGAl񂷊sAtAsItIsUtUs𽟂C Rz Lṣ EsɊĸEsAIƭOƫĸOsAUsKAtHAsGĪNGAsCŊJŻYAsTTAuŐDDĲNNƈǚDȋAtƑPŢBĪMAsʰRAtRAsLAtLAuLAsVAҨAtS噁HAl񅃇OExOElŒNUKTAqAVAGRA䒋AAwIxIwUxUw崇ĳRw嶥w嶤wEwAIƭOƫĸOwAUлVIRAM䯪PRISHTHƨT͊AWlOMlSTRESSȋUDATTAxANŃlGRAVE򾫃lACUTť䫉ԛ񊫃wUExUEl󓑅sKH漁ġZ毡DŀRĘFAsYYA稇稡L䪩ǍLzıǡDиAm髣ś񖹅rONErTWOsHREErFOURsIVErSIXsEVENrE鮁rNINEl񉵈ъlѱ랣SPAC񯞂T堤宅AsOEtOEsAWsUEtUEsMARW鱡DDAsZHAsHEAVY YAsGGAsJJĸLOTTA򃓂sDȱBBAaBENGALI ",
  "ANJIiӁꋉnꅅnꅄ=985iՄAqApIqIpUqUp暦xLȐFpEpAI=993pOpAUpKAqHApGĪѨpCŊJŻYApTTArŐDDĲNNƈǚDȋҨAApPŢBĪMApʰRǀB2pLı6pSHAqS剡HŹCi魇n魅i魊tIuItUuUt魇ĘR=9C7tEtAIŀBtOtAUi鞨待KH緡 TјD7iAU LENGTH 탁ƐCȼ͸AqHȡFpYYApіRxLLi讒ĘL=9E6iD覆oONEoTWOp要o要pIVEoSIXp要o覂o要ҶA󛱉DIAGONALxL҈RŶiRUPEE噢oԩiCURRENCY NUME򭾁 ӐzR Ӡ|=9F6藆䔯򐪃R򐩂˂ LESSƸANĠԨENOMINɡrDş SIXTEENiISSHARiG次劂妥VEDIC 酥i꘎iSʐHIʚ=A01aGURMUKHI組DAK 駡Ioī馄ɐ5jДArAqIrIqUrUưFqEEqAI=A13qOOqAUqK鍁qGĪNGAqCŊJŻYAqTTAsŐDDĲNNƈǚDȋј2AqPŢBĪMAqʰRǀ32qLArLŉ5qVAqSHő8րłCj餦űEj颊uIvIuUvU=A47uEEuAIňBuOOuAUj雧ˈ51oUDAATň9j颦ՈGġZ՘RȩEqFİ66j过pONEpTWOq簁p篁qIVEpSIXq迁p迂p迁jTIPPIjADDAKjIRIjURAjEK ONKARճYAKASHj确=A81cJARƈ 탍o罅眧8眱qꯆyL擃̬ EʈFʍ筁䏋O=A93ǵ緡𗯿A緵B緦B緥rSA緄B緉o휅繳u휇ġRu嶇C7u腡u寧CBu良D0jOM=AE0彥ΎRyLLj폲ġLʘ𘡲缏j킂聤F9ՍZHAjӊ񁸁pH詡oMĩHoTб-DOT擂񒎄񁱂䉊TWO-䋏=B01aORIYA贮l败l贤ɘ5g败oAnIoInUoUn攆vLȐFnEnAI=B13nOnAUnKAoHAnGĪNGAnCŊJŻYAnTTApŐDDĲNNƈǚDȋҨ2AnPŢBĪMAnʰRǀ32nLAoLŉ5nVAnSHAoS匡HƑCg螧l螥g螪rIsIrUsUr螧RR=B47rErAIŀBrOrAUg蔉B55l񯙁INEgAI𫬈hU䆩ɈCg𫺆oH˙FnYYAnѶRvLLg譒LL=",
  "B66g諧mON񄮁n縁m諡nIVEmSIXn諡m諢mN务𨼂ӝWAgF򤲃 ̘ QUARƸtHALFpTͨƖSpǸ𪂄THtΒHțƷS=B82aTAMI棤蓯8蓱ưEnEo莣92nOo菤Ũ9荃őCnJıE莄ŘA3苂Œ8nNAoũPũE膆oRA腣pLA腎BE绒ֈC6rEs絣CArOs綯D0gOMİ7gA箬E𖝳󡉃TENnʠ HUNDREDr󏯄gDAY ԑgMONTHœYEARŋDEBITœCʰŝAS맣ū죇ѫ˛=C00bELUGUŲ 򂤅뺩̳nƇm篅m範mʿǕʣh繥pAoIpIoUpUo鴦wLӰEoEpEoAI=C12oOpOoAUoK뻡oGĪNGAoCŊJŻYAoTTAqŐDDĲNNƈǚDȋA=C2AoPŢBĪMAoY臡pR臤qLAoV򎨁pSAp넂C3Ch쎧m쎥h蓉񋘑RR=C46sEtEsAIŐAsOtOsAUh蚉C55h싉쒫ǰ8故TSAoDZAoRRRʱDoNAKA樁POLLU=C60oӦRwLLh앲 LLɐ6h采謡nTWOo釁n釁oIVEnSIXo釁n釂n釁=C77򹗄DDHAMh얆ͷ FOR ODD PӰRS OF ΙwШ䍕TW䚵x직䨽咡䩐Ǟ䩰䜖寃TUUMU|=C80aKANNADA ƹ񉖁ꁬn񇶘n擤񇺛рEpEqEp蓁92pOq񇾿鶡񇾓qR鵃ȈB5pVA񈃉C񈃸CC6tEuEtAIŐAtOu񈇋ϰD5i鰈i鷭DD斅鯊pFːE0񈈥C񈈳=CF1i΂JIHVAMULIYAnUPADHMANŘ=D00a򇙅ӛ𣤔q荇pǍp荄k񆣑rAs𱨐LҨE𩽄D12𩽃rKAsHArGĪNGArCŊJŻYArTTAtŐDDĲNNƈǚDȋAsƑPŢBĪMArʰRAsՐL񜏃rVArSHAsS卡HΠΨk湡򽯆BAR篤pCIRCULſ蟥k蟪vIwIvUwUv屧ĪR=D46vEwEvAIŐAvOwOvAUk蠨k󫆆 REPHǚ󊝁=D54ǭCHILLU MyYyLLLk𮏊k𳣈ę-𭘃-AND-SIXTIETHxFORłtT옢蒁źStʱTWENŲyENȜƤȟFIFTHk뾅RCHAIC IIr颧zLLk颲ĪL=D66k飧qΠqTWOrѡq飡rIVEqSIXr飡q呂q飡k𰹆r𰹇v𰹄k𷦐xHALFt𷦊t𷦉xЉ嶥ƷSkDA񰠃瀌NNzyRRyLz",
  "LyK=D81aSINШA 񜲕Y𤽅궁񜶆ŰNNAqĴEĲrĳpIƣIūUūUǜRŃsƴLŴǴEͻ̈́A̔OƫOƬɚը9˰PAPR򯗁KAǫMAHAƟʌȷG䓎ƟKANTAJA NAASIKYƨpSANYAKȐ䤯C䤰C䓏J䓎ƟTAALU上xҁOOGƚK傭J䯏TTAϿƧ䔏DD䔎ƧqUURDHAՑȪҕȉ乯乑丰丏ƟD浆祤B3Җ丰P䥐P䓏B䓍ƟrɤMBȷYļRԦD匆LƝC0pV痌Sе暣ƏˬſH䔫οpFϾAi꾂AL-LAKUƒF𯞉ELA-PILLAtKETTIƀDƅDIGAŽȇIS-ǷūǧPAɣиD6Ȋ䉊8tGAȸΆOMBUV͌ţƤ DEKAyVA HAA周zƃɸ䊮ꢤUKIϸtşҰE6iLITH𺷇tONEtTWOuHREEtFOURuIVEtSIXuEVEN񋠂t𰣁DF2旨ӓ墉zяi򬉈KUNDDALIYA=E01aTHAI CHARAC񡔁O KAIqHİǀvʘvWĸONtRAƈNGpNGO NGUpCHOʹNvINGvǁSO SOƴOEpYO YIưDȲDApTO PATAKϡTˀtNʨ񈲁OtPHUƐOpNϘENʘ泡ʉTAOɻUЩѰՐGȲUpBO BAIMAIpPϐLAɁPɁpFO FApPŹʐųNźSAMPсMO MA呢AKpRO RUAqUpLO LINGňWO WAՈSʑLAsRUSIsSUAp̘HIPɉCHULApO ANGƩNOKHUKpP𦽂OI|=E30母Sŀ ApMƠHAN-AKATpƛAvM񠚂EwEvvUpPHINTHU̠Fg񮮄򻵃BAHTg䩋EuAEuOuΰϐMUANzIMALAIpLAK盂YAOҩYAMOKsTAIKHUs EKtTHOuRItCHATTAWApTɠĘKŸpNIİHITpʨ̰椂NGMANf阇lONElTWOm阁l阁mIVElSIXm阁l阂l阁f悧ոKиԘpKHOMUT=E81aLAO 񫚄Om畡UNGǈ4pTAMĸ6lPALI GHAlNGOlCOŻCŸSO țCƛJșYȄ񧱑lDOlTЮЉɣDˉOlB˘ǮlFO ȂHĻFƳʃBʀMOlѠ螄=EA5pOOTĸ7lWOlSANSKRIT SHAvSAmˤH䢉LLAlOlϳeELLIPSISe뮧虄灁AAqM񆾁YqYp",
  "UqUeǺ̩𺚃䛉ʢONeSEMI򾂉tNYO=EC0䖉EΠOpAYqIǈ6eKO LAň8eTONE͒EKnTHOoInCA薁eCANCELL󅤇NIGG虁ˀD0e󌋰ˀCe꧂hMOe臥HMU GOq嚡F00aTIBETAN SYӨBLE OMiӹ GɩYIG MGO TRUNCATED Az -UM RNAM BCAD MƋɻTSHEGƐnINITIAL̆MDUNƹCLOSINGƾSGABƸoARETƤ켢R SHϢnԔϓƮSBRULŪnBSKUR˝oKA-ưOЎՈTER宣IC̫nDELIMI嘇BSTARnͪNYISλ҃ƧTſRIN CHEN SPUNGɻoGYA GRAMȓC娢-DZUD RTAȠME LO񑬂nGӞiLOGOTYPE蜡ΩAɼwLHAGœiASTROɀICALȻSGRѨ͐ -ʐRȻz -KHYҀPAz SDѠЙÙʚRDEL DKARˀIGy媁ySUMsNAGƊxƉsȁɓƸ񍳱o򵐁𭾥tϩ蹣BSDUS奣nNGAS BZUNG NYI ZLA橮ǹHI MI檂䘩SGOR̼CHE胢TSA -PHRUnGUG˴GYONzASnAʐKHĨƌ昄YA璃SnMōi꣄񗋔=F49񗌠񗈍TSɻZĲWApZHAqAp-񗢃pL񗕉pApKSSApFIXED-FORM RƐKɐRԘ71񗞡z񕞄񗣁OuO蓤JES SU NGA ROo봥ΔȓEVERSED IzġI˂瓤񁹁 DAnSNA LDAN筣HALANTAnPALUTAʃLCI璤YANGŔLCE TSA穂MCHUłGRĹӀGYINGSrMEDŝn򣈅ɭjUBJOINƈЫ·xȕx䚎s符zKHAzGĐİNĸCĐŐ箁99zNYAzTTęƘDDęȹNAzƠƙƐƉƀPĐňBĐİMǰSęșZęŀWAzıŰ-AzψRAzLAzȑSɘĐňրš絨W䆪Y䆪翡BEiKU RU骁rꒊiĘTILL򁷆 򜠂BEATz L늡śɨ쟡E-Uz SBUB촂Li𴸃DRIL BUpRDO藡pPADMA GDANƕ R𤐄p𧏁PApNORʘv 쳡핂ILwGSUMŝ唁Ŝ=FCEjIGN턦힧ʒ엥𧮅GI벡ҡ蛁NYAM YI䋋𧆇𪟅BRDA RN褁𪫔Ȟ𪷏aR昁-FACǡSVAS򎶃aLEF䋱䘖򯁅Sˑ䐻𮴅悂L",
  "EADɐ餁ANꡤTRAIL䊌=1000aMYANMA󡏅񪓛q𣊮혈WA|Ҡ1E亍SApHȀȈApS叡񭅆EpMON E򤯁츉T򿿁At𣋆򢛁tɩIIxOtE󑎃򂕉n򷌅񚃃匡MAnASATiCONSONANTЋMEDIALꦁĺRļWļH򣲅GREAʘA򢘲њLITTLE SEC냁nļjꭃLOCAT˰pCOMPҘEDpAFOREMENȩŰGENIȉ֍𨘁򥔇yRxLyL柉𧷓̅梡NGAtJHAtBBAvE掎O搆NAzŞMAşLAնGAW KAREN S񱨉䌩EUi𼌃RK䋩HATHIzŉKE PHOΥWESİN PWOɌTHAzśƩ䳩䖉Ѷz䇉UEi䔔劁-1zKŧ2䆉3䆉4䆉5唥EA䩭NN唧YWşGH囋GEBAǔItKAYAH OEzUzE紩NȈvHAuGAuCAuZAuNYAuDİAuPưFAuBAuTňHA碬˩痆ӎǏAAyEzꣃyFINȠYiǭ慥x3x5x6sCOUNCILƤz捥 EMԘTICƀ򮄇UMAI PALAUNG FA΢䊫̃5jр񗂱jΉKHAMTI砥3審AITOĨzAI𫀃婣ɈuEXCLAMAꭁaGEORGIǀCAPITAL혅ANyBĘGĘDONyENyVINyZĸTƐŐKİLASyMĸNARyȠPİZHĠRAEySAɐŘUƸƙKġGHƨQŀSH̐CĠzƀJILyCILzȉXŹȩHAEzEzIEyWEyǀzOE=10C7yYNĹDyAEŁD0j嘆qBĘGĘDONqENqVINqZĸTƐŐKİLASqMĸNARqȠPİZHĠRAEqSAɐŘUƸƙKġGHƨQŀSH̐CĠrƀJILqCILrȉXŹȩHAErErIEqWEqǀrOEqFIqYՐLIŀ󑓃GɈAINjӐAGRAPH SEřTORaMODɈER灥獦NARaťǥAENбD綡嬁BIALŚaՠGUL CHOSEONG KIYEOKqSSƸŜNIEUNqTIKEUTǃŜRǀLqMĨMqPĨPǫŒrIOSrũSŀq̉GqCİCțœCHıHqKĹKHqTĹTHqPH̑HqıHӻ-匉֊Ƽ՛wӻţɜ口-ɢʻƂƴϛKAPɐUN奈-͒ǎ寈μwΊwӄ寡zSǔzSռzS̳x恅xĘ-庢wĪx彃w幄w幃և˪y槧q̠ЭvԂvыv坂v哂vɒzPȽSӭvʁGvӻӋv溄vԌv",
  "ԌvıH獁TUΐ˩z̵r葁ǈƽUMЎqPAN絇Ԅ摥Mʉ瑃wȡwɥ˲ʊʼ捺YES褈-Śr哤ƒy譧啅Ǖ啡ǧЃ-恄yıHt̻Ǔ˵Ǝ銆菌ƬqϢ̺qƸRINś惣芄阤怢煇H隥遣FILLERhJUNG눣ƃrAsErYAtErEOsrΠtrOrWŹOƸOrUrWƘsIrYUrEUrYIrIrA-OtŐİuYOʸĸUuǡővUrO-EOutYEtȲO-YAwEvƐOuIrU-AuEtEȐUȈǹƊOvu˨w̸Iа-ͳI-UrI-AtYA͉tʈARAEArĪwРxUxIr搢Ǆ-E勢UsEҩrġvEiONG킉ʋŜĳ-邢꿣蕨Hr桃r桂w-ɣx軂x냣ˁx訄x的˜ȲrȲwЃġs麆賣Ѫs莤蜄|=11C0𥃄J埦мrмrк塄糃y마r𣠈x夣嗣꓄xͽǛɌy͂rĪ-ϜɪͲ̼zʂӺ槃䚉异˔zŐ˲旣Œzŀ˛x틊x͊吪戄x齨r䯉xҊ煨y䡎곣犅҅玈-̚瞌匊ŕ콬ʢwǳєr푩x販퇧ț쐥r콅z挃-͍슊զ绪-燣Ժ鉉r敩ӻɓyǲy懤yԔy碈ȲaETHIOPIC񪛆HAtUtItAAtEEutOuAsL䈫tWAsHHA럁uAAuEEvuOuƘM䓏SZ䓏R䓐䉎t䯰Q匍ȸ=124AȾŨ50䝍ơ8uɒ5AvIvAAvEEwŨ60sB兯V䉏T䉏C䉏X叓8及90sN嶏Y嶍󥀆Az Uz Iz AňEEz ĐOz ȈK䷳B2Ѿũ8tX懎C0uɒC2應C8sW罎PHARYNGEՊĩUĩոƊƓEEĲīϹD8sZ𗑡Y䷮D䛯D䛯J澯G憲312˖ũ8tG䦮AsT卐C䉰P䉰TS䉮t麌vAsF嘏P䉏RYAsMYɨY坁5Dj򬣆GEMIN񡏂AND 񅵁򦝈t䈯ʗźjSECŧWORDSPACEjFUL󮦂ѩMAjSʰCOLONjīPREFȸ ūQUES̮񁒐󖨃󖣦򥳇WENTYrHIRTYqFORŘIFŐʨŐʹŠˉİˑİ򦡃q˨ 򦥄=1380j𣎅SEBATBEIT M푡WI犁sƯBƨB䊮FƨF䊮PƨPƫjTONAL惂 YIZETuDERĨRIKĐuSHORT ŤDIFATuKENĨCHIȱHIDʕ-śKURT=13A0aCHEROKEE 򼀅EqIqOqUqVqGAqKAqGErIrOrUrVqHArŧL䆉MŦqNAqHNAİHrǿQUAsEsIsOsUsVqSArrǟDAqTA",
  "qDEqTEqDIqTIqDǂrLǀLAʿrS䢉W俩Y冊V=13F8jSMALL嬅YExIxOxUxVwǹ400bANADI򄩅ICS HYPHENtEtAAItIuI򼟁Y-CREE OOtCARRIER킁R ItA뼁EvSTȃWEuIuEŮ˰䇉ŠOuŷπ䇉ϠNASKAPIŚWAuǟа䇊AɕŚAItYǌt𧇂갣t񗰂ACUTEzGRAVEzBǨOM 񿌁RINGzȰ ůR鶡 ſĢDOUBLE̳ť跢򹛃Ѫ蠡SzMIDDǨDOTzȋĠIZONTȞzPLUS̨WN TACKtENtINtONtANtPEuAAI򗦁Ov溆P溨H滂HItPAvAuWEtW抆PŨPWI䈪IƉ䉌ƙO䉊OƉ䉌ƙA䉊AƉ䉉ŲY-şP䎉噇tT嫒T嫈D嫂DItT嫎TŨT嫊Ũ|=145BaC鞮ǡ䕬Π巪ŨƉ䉌Ƙ巪ŨƉ䉊軈ţTuTEvIvOvAtK屲KθK婎KŨK婊ŨƉ䉌Ƙ圪ŨƉ䉋Љ圪ŨƉ䉊在ţKuWtSOUTH-SLAVEY KEHzŕIŗOŗAHtC岒CԐC岎CŨC岊ŨƉ䉌Ƙ岊ŨƉ䉋Љ岊ŨƉ䉊岈ţCtSAYISI THtM坒MπM坎MŨM坊ŨƉ䉌Ƙ坊ŨƉ䉋Љ坊ŨƉ䉊坈ţM䎩tMHtATHAPASCAN M嫄ŀN媲NҘN媮NŨNՊƏAƉ䉋ՏŢu둦NGtNHtL串L҈L丮LŨL棪ŨƉ䉌Ƙ棪ŨƉ䉋Љ垪ŨƉ䉌Ƙ䈉t񷇄tS園SΰS圎SŨS圊ŨƉ䉌Ƙ圊ŨƉ䉋Љ圊ŨƉ䉊滈ţS縩SɸtBLACKFOOTŰMOOSE˔KˇKWzĨ-ĪPWAıTĳKĳCӑHEvIwI󒴂wAv弫HWEȈ彪űƚ䊍Ʃ忪űƚ䊍Ʃ恪űƚ䊍ƩtY番uǫYOOu甮YŨY喪ŨƉ䉌Ƙ唪ŨƉ䉌Ƙ咪ŨƉ䉊用ţYtBIBLEǴ䕉듥YItREuƣRꐊEtR銇鷪Oǈv魪AtR克ŲR䈉鶤ŀF栩曣䞋FűFtTHEtNƋŐŰIŷIű䇩Ɓ蚥ͭǥŸǨu̠wIwOwAwuY𬚄NUNAVIK HEzĠIĢĪOĢĪAĢĪyUT HtHKtQ堭tTLϴ惊EzĲIĳOĳҰG˸鴪uNG牅SՠĠIġOġΈOODS慆zńIŅOŅAŅtLH䮩tTH˯˒īĳOīĳAīĳtAIVILIK B뱈EzĩIĪOĪAĪWEĳIĳOĳǛNEĳIĳOĳǛKEĳIĳOĳA懅憡HIĘOĘA𧲅GHUzĩOĪEīĳIĪAĨRUġOġE",
  "ĢĪIġǱWUġOġEĢĪIġǱHWUĪOĪEīĲȚHȢTHUĪOĪEīĳIĪȢTUĪOĪEīĳIĪȡPUġOġEĢĪIġǲĘGUġOġEĢĪIġȑKHUĪOĪEīĳIĪȢKUĪOĪEīĳIĪȣĠNUġOġEĢĪIġșMUġOġEĢĪIġǱYUġOġEĢĪIġǱJU簄ň窆JOǉEĢĪIȦIȧ˲JUĩʃʋʔJIĩȢLUġOġEĢĪIġǱDLUĪOĪE|=162𾸑ӋȢEɚIĪВHUĪOĪEīĳк翃ȨĳOĳEĴĺɋTɕɋɃǻȴȪҢZUġOġEĢĪIġǲĘ򥮃ŚDZUĪOĪEīĲʚDʢSUġOġEĢĪIġǲHUĪOĪEīĳIĪȣĠTSUĪOĪEīĲͪTͲCHUĪOĪEīĲͲCͲT͔ͤͭ͜ʹ͸uH򦯂t񚾅tQAItNGAIuNGIxIwOxOwAx𥇊륢ŕIŏŗOŏŗAŏŔ񏈁ƀ𤢇WaOGHAM SPAC򝱂g񓦃BEITHnLUISnFEARNnSAILnNIONnUAǈDAIRnTINNEnCOLLoEIRTnMUINnGOňNGEADALnSTRAIFnR̹̀MnOǸRnǨHĐnIOĺŸBĺORnUILLEAȰIFINǀMHANCHИnP剡gFEӸER喣򹮅䊩=16A0aRUNIC 姃ǰHUĠOHĠ FnVԘUZ UR UnYRonWnTHURISAZ ŁSĨORӠTHnANSɈAnOS OnAC AoESCnLONG-BR匡-OSǑSʈT-TWIGƄOoEoNnRAIDO RAD REIĠnKAUNAnCENŊ KnGnENGnGEBO GYFU GoARnWUNJO WYNN WnHAGLAZ HpEGL H佪ǐALơӷƟNAUDIZ NYD ŐĠ䒩ƌDOTTED-Nn徂ISĐĘnEnJEЈ JnGER个AR AEn͇ƂnIW˨EOHnPERTHO PEOĸ PnALGIǉLHXnSOWILO SoIGEL 䪉SOLưΞŻnCnZnTϊTIR TYĘ伉ƃDnBERKANAN BҠC BJARKũ䕩Ʀ帅PnOPENİEHЁEH EnMANNŘMȸM幪MADRƐͿƍLAUKʈLAGU LOGR LϽLnINGψqnDAGȐDAEG DnOTHALϸETHEL OnEARnIORnCW昂",
  "oALCoEĠnSTAN偪YRnӿũICE͈DICšQnXgS҈LE 󪇇gMULTIP䊌CROSS䈪ARLAUG󣺃gTVIMADURŽBELGTHOŽ쐥KոnOOnFRANKS CASKET OSzT IġEHĠACġESC=1700aT鍁OG ̔ApIpUpKApG򹣂TApD򸷃pB򸱌pSAp򰴊ItUiŁ󞔃nPAMUDPODј1FiНRCHAIC RAaHANUNOO侪𑽿ҵaPHILIPPINE 煯lDOUB䉋=1740aBUHID剦nInUnKAnGAnNĘTAnDň孡nBAnMAnYAnRAnLAnWAnSAnHAg剩rUΠ6洂BANWAξqIqU񮅁AqNG񬨂ňAqPAqBAqMAqYAˉEqLAqWAqSũ72j䭩uϙ80aKHME󀦇oHAoOoHOnNGOnCAŷYO坡TTHAnDOĸƙNŀAȗO媁PŵMOnʘROnLOnVOnSƸSOoAnH巢QAgINDEPEĠNT 匣QAQzAAzIzIIzUzUKzUUĐVyRYzYYyLĪQEzAIzOO 󝌁ONEŞTWOzAUg͓INHERωAQwAm󔟃rIsIrYsYrUsUsA򙱁ƘErErAEǈOOr˸ɚNIKAHITlREAHMUKlYUUKALEAPINTUlMUUSȀTOANlTRIISAPlBANTOClROBATlǉDAKHIŘKAKAƙAHSDAlSAMYOK SANNYAlVIRIAMlCOENGlȠHAMASʙHANŸRIYOOSŐCAMNUC PII KUUHlLEK TOOlBEYYALlPHNAƈMUɐKOOMUUTgCURRENCY볤 RIELg惣VAKRAHрԐmTҠCA鞡E0g򶓆mONEmTWOnHREEmFOURnIVEmSIXnEVENm񼄁mNINEˈF0gЬL԰ATTAK SONxMUOYxPIIxBEIyUƀPRAMzAM-ǁĹǘıBEĳUOԸ800aMONGOLIAN BIRGAk󯠄k򀠁k𵱅k򀒁k叁󌱁kTODOӐFT񶴃kSIBE򑘆BOUNDARY𱘁ERkMANCHU ΪrίNIRUGUkFREE VARI󕅃ELECTOR躂ť躡|嚁D嚈䜕THǀk낢򂮆䳖媡k爧qҰqѨr̡qǡrI",
  "VEqSIXr爡q爢q爣820k앤񼂅鷁UErEErNArANGrBArPArQArGArMArLArSAsHArTArDArCňJAꐁRArWArFArKǳSAr󢽁İRʰHĸHIrCĘ澡󫼂촧w񒟂UwOEwUEwӀwBAwPAwQAwGAwMAwTAwDAwѸwJAwϨwYAwWAwKǹAwHAƸIAwNIȰҸ稂ΘxYͰx͹ɊɀΪSH΃͢F̕λZAwRAыZHAr羄IyKAyRAyFAyƩǨ󖁁笁詢=1880rALI GĠ󑳅肢 󑮂ŤDAMARUz UBAőz 󡼄ƏBALUDAz脣Ůɑz KİNGĠCȁTĢHAΰDǁNŸƙšPęǑSSĠZHġ̱H瀣啥ɹŃ巇ǧGʰŜҰşCŗJȗրŞֈHŧ䋩Ʒ十ΗYřՖşArյ򁡂UzĻY嗏BHAɧDAİG䒏LHA=18B0񍎐OYtAYuAYtWĘPOőuWƠTŰKŘƱMĘNOȪLĘSȫHOYvAYvɡYǣRȹWItOJIBʸ ŘŹ䈊ƉOtƇOŹƇŢRWE񩺇ǞPzY TĘKĘCĘMzɸĘSęHt󑹄WtWEŌ򇗃򋛁򆧃AISED頡tR񤝃񲊊OOzĺ񢦁WEwAuĲOOwAAuLœ񠜅ŰzĨʘ H򂥇GW񏣁ENE񘕄AAzƱAˍJUUɮJưBEAVEʔLzĻRȋƲ򈗂=1900aLIMBU쥃-ȉ󈥆g𲯈nGĨ𵠂CŊJĪYANnTŊDǻAnPłBĨ𵼌𲞂AoAn͹˒RAԨ20g󑞈rIrUrEErA𰬂ŘrOgSUBJOINED򑔅AxRAxW˹30h򑮈K񦄁t졥tTŸAtPAtMAtŰLAhбMUKPHRENGlKEMŌSA-I͸40lLOOŁ4g󓑇񌾂򜙉𯋱aTAI LE 毇XAoNGAoTS揂YňApHAoLAoPłMAoFAoVAoŘQAoKHəHʠAoAoIoEEpHoUoOOpoUEoEoAUEp壡70o󙓂t3t4t5t6Ƙ80aNEW ԒUԞHIGH QAtLOWıŲKAyXAyNGƪŨxXAxNGǤTSAyĐYǢũxĐYǥAzHˈǜAyHˀǔPǒMǓPǒMǔFAyVAyLǒŠxVAxLǔʐDAyBǓʐDAxBǔKʘXVǊřxXVǄSUƢĸ葁B0m豈Œ򕋂ENERxAAxIIxUyUxExAExOyAxUňYyAYxUYxOŃEYxIYm昤셃VzNGzNzMzKzDzBm󦄅",
  "-1w2ҨD0m萇sǠsTWOt萁s萁tIVEsSIXt萁s萂sNI裁HAM ˋʠ́Em圂LAEuV񁍂𹲄P𻐅nMUOY KOETnPIIŃBEŃoUONǔRAMŊr-ɾsɽsɽtɾDAPłqɷrɵrɵsɵr϶nTUTEY勧ROCnʸĺBEĺoʨƺʡŁr-ɕsɔsɔtɔձĹqɎrɌrɌsɌrΥaBUGINES긆񇒅sK񇌆rP񇡆rRAqCAqJŘYAsňYAqƐLAqVAqSAqAqHA񇦋uEuOuAE=1A1EjPALLAWAjEND OF 򮐃뻂笡꺊K𵓁XAq것vXAvH厂qǲCǰǚňuSAuCǡղTȌňƘDȢŢǡNǤT˶TκƸBǔPǑvFǫP󫫁PȈMƃYȬђrUEqLĪWƴSHAwSAwΚLLAqʣŠIrIqUrUqEEqOOʠEqGREAT SA|=1A55悇󭎋򁂄AzŃL셁 TANGŐIjț˘Kƍ䟫뇤NGAy쬤掇 OR ƤMAyB휁՘60ΣSAKOT禩AuиưTuAAuTALL AA򀏁UEvĐvUuOvA BEΐvYuEuAEuOOuAIu嫂ĸOA󯷂嚋o󭊂t2oKHUEN󯥄4z5oRA HAAMoһMȃ-LUEˀRAN=1A7F򸣇CRYPTOGRAMMIC DOTjHO̐촧uϐuTWOv촡u촡vIVEuSIXv촡u촢u͘Eϐ90j췁𐾴A棄WIANGtWAAKoSAWANoKEOWoHOYoDOKMAIo񩶅ROTATĸ钡幂YAMOKoKAANsKUU˰TřvřHΠoCAĨѐB0a悇񘚁̨CIRCUMFLEX ACCENTlIAERESIS-RȸkINFʀTYkDOWNWARDS ARROWkTRIP򬲂kX-X秣kWIGGLY LINEƌOPE𯪂żһ 䋍L扡 ӹRALIZA븁򭹂ͅšNG䑚PARǨHESES蠣ѭ䌎䕉ˣwƨRLAYkLπN 򵿉WȓzřTURNEDƕlEFTϯIϬ LưkRIGH䎑ƺkL䜫Ԭˏ䎐ˌSQUǈ BRACKETάk󀞂뀢ƌ񇗄組񢕁ǔPLUSɒ擋䋌zNҹ組򵈄蒤擑INSULAR Gz䆩R䆪T=1B00aBAL𩒁ѫULU RICEMsCANDRAoCECEKoSUR韁BISAHjМA먡v TED󫆁䆪U䆪RA REPAxŽLA󇵁AyƅEɱqAIĲO䝪KAs MAHAP",
  "ԀAqGŨGOR𩕂CŠLACAqJŀJER𩎂TA 戁KtMURDA ˟ŠƓALPƓzǧNA RAMBATqT͠TAWɸӊDUqǰPŘKAPALqBŉEɈNGqM𭎃񤵅 SAGAvɠqHA쥣REREKAN𦔇嬄uULUxɸRIuSUKUy ILUTu攤zPAȵ敥zNGƞT癁GzGɛGƲżˇPEPETzŬjADEG ġj𰹅FӨSAKrHOTŋqTZIRŔEFńVEńZALŌASYURAˬ񭟃JNYA=1B50j𥼆p󍑦PANTIlMADAjWINDUjCARIK񭛁NGKAHʠKIpPA槁NjưENENGjMUSICAL𸿄DONGzEĘUĘAě 靃zIűEǹǢIǬGEDEy𦊆TEGEHzŶENDEPŶ绡PUL䇫LIſJEGOGAN䘍񘞁ǥ䞭䎔BӑŷGONGy칢-HAND𦳂DUGz䉍A䉉CLOSED TUK䊐AKyLEF䞉P擡䉌UƖ˗PLAK䊐UK䞍ING笣 LĨϨ簢ť=1B80aSUNDA쿥ԚY측sGLAYARtWISADk츣񍎃AErOrEsUrK񢌄NĘC񡽁ZŠY񢑄NArP񢇁VArBArM񢜄L񢟁SArXArHAk𵽅ԍMI蹡LzՙAKRAłIKUk뢆散HULUyY랁AEL譡yOLONGxM꼡xNEUL赡kέAAEHp񺫁买S͸AN MAzŞWAk땥HArSYA񧛱kAVAGRAHͦREUrLĘBΠ𹩂KxMaBATAK񺆆SIMALUNGUNŠH䇪ŨMANDAI큡ũBAnKARO ĸP䔪ŨN䖊ŨW䐪WʑKĐŉG䍊ŨJ񻽁R䋊R΀䈊MAoOUTHERN TѸORŞSAoȷS儉𿂂BDB廋Y䬉ũNԠL䊊LƠǀCİDΈBAnIn񸁃TOMPIg葈Er孤񭃁Ir撂IrOŃOrUs FOR S咉g茌NGvHg赡OLATjONGǙ=1BFC񵀄BINDU NA METEKtPINARBORAStJUDULt˥aLEPCHA񈸆pL񖏁Gŀ񖲂CźJŠ񖵅DŠAoPɝFɚBĪMĪTSAqȹZAoʠRAoƘHǊVAoSʢWAoAh񛲏yRAh斨AAsIsOtOsUtUsEh惬KwMwLwNwPwRwTwNYIN-DOwKANGhǺRANmNUKTA=1C3Bh򅥆脡-ROLtNYET THYOOMƕCER-WAtTSHOOK ūzh",
  "겇nONEnTWOo겁n겁oIVEnSIXo겁n겂n겁Ҩ4Dh孄TT扣DAaOL CHIKI 𬔱ͼLAqATrGrNGrLqLAŨAKsJsMsWqLIqISrHrNYrRqLUqUCrDrNNrYqLEqEPrDŨrRǐOqOTTrBrVrHjMU TTUDDAGjGAAHΈżAGǘ-䉮REŰjPHAARKŀAHADj氉MUCAADv𺸂ŬaCYRILLIC𺖊ROUNDED VEw򓜁LEGGŰDEwN񃉁 OwWIDE ESwTʱTEx擁ȼűƩHARD苂zL YATwUNӀκUK=1C90aGEORGIAN MTAVRU񲤁PITAՆANzŕBAşGAşDOşEŗVIşZEşTAşIŗKAşLASŞMAƿNARŞOƷPARяHAŧRAEŞSA偉ȟUN̿˘տŧ򹽁ȷQARίHIǇC䆊AşJILƿ䅩䱩X䘉䷩HAEşEŗIşWŗΐşOƿFIŖYϟELIǄ񈧆箊AIN=1CBDƇEǦ详眩BIALƚ𲰇ꂈ𦆃SURYAzDU𰞁鰡ŚӰAMƲCAKRŁθɠATȨŲKA䆩D䆪BŮ=1CD0aVEDIC񕲁ʰRSHANAlĨRAlPRENKHA򒐄HSHVASAlYAJURʫMIDLIˀSVARITAg̪YǿAGGRAV񓒁򕬇ɵw䉱KATHAKA䗱l񉂁񙟃僉䙸 SCHROEDERl쨃ͦ񋹁ŷ̝ANUDATTAɰTь򆈄ųm젡 ſlRIGԵSHMIRI坲ϱRVAɊ䐐沣򇎄ƥt՜񘠄ǾƼŵAN䔔Ǐ䜪򉡄AILtȍƗlƐԁ˩TʠOMUKHAuBAHIŦVAMAŜzĲ䟩TIRYAKlHEXIFORM򎑂Υl䆫RTHANG䑋ԇUBHAYATO ВmRDHA处l񜫄AƧ逄蓂񡨃櫃JIHVAMULIYAlUPADHMANřATIKRAMʻ򂶁ʫ蕣ƍ̿ƴ揲=1D00aLΐN별𪫂𨪅AzĘEgƢ쥋Ʊ䙒BARRǰBzƐĘDĘETHĨ䣑񄥃Ez I䦳JˀKzʠ畂񝟃ŸMĘ蜆NŠOzL͛Oд͵IDEWAYSȀYSȊŌ䨉tե婴OU坬OP򍳂OtBOTTOMŬ䞳P啩RŠѩŕĘU嘴UzĠD񣿃ZEDƂ˥M|=1D2瞚VϘWĘZĘEZHnVOICˈLARYNGEȀSPIRANTnAINaGREEK䣳GAMMAzLˀMDĹPIĠRHOőSI𳦅䞓ELaMODIF򊇆讈Ey",
  "Bz藄yDyEy撦EyGyHyIyJyKyLyMyNǗNyOzUyPyRyTyUyWqѳAw鋅wALPHŷEwBwDwEwSCHWAw趣ǥŬGŽIwKwMwENGwOxǑOw紇w紊wPwTwUw畇̕MwVwAINwBETAw橢柃wDELƎPHIwCHI睤SUBSCRIPT񢾋zĩRĪUĪVa˲䘕ґȹ҃˫HOĹҀͫҦˏϲEtBꇃMIDDLE TILDEtD䉰F䉰M䉰N䉰P䉰R䉯z FISH񂏁AND䗋S䡐T䉰Z䓮뱦G釮順ENa񩇘tTH욆IKETHROUGHm駃ɷ쬉mƥOTA츊P䒩䡍U䡑UPSILON Ǘ皦PALA˱晡tD䉰F䉰G䉰K䉰L䉰M䉰N䉰P䉰R䉰S䉰ESH䊰V䉰X䉰Z䉰AƛRETROFLEXƪuLPH䌍椊鄅𱹂E䕒줂䍓훦䑸퍡偳I䷗O䍌暦䋲U䖳Z䖲ꐭꇤꠄ𥟂CxˋCURLwETHw崌wFwDOTLESS J险w흄GwʹHwꘪxOTAwꇥIzĳ䠊JӄROSѰ-狁wL壑z耭ξLwM箇ՅƓ𷕂LEGwNżEFTͳ䰮·Nw𳶃OwPHIwS ϯESHwT醯wU ʐx몃̾UwV匏VwZx寲濧ZИHETA򅑉TTˠGRAV񼥄r񼲉SNA򂪄lUSPENS򤆄kMACRON-ɲk̊-ƓǍƚkǹǍȳʓǴŜƿ񾥐RԋkBRE䲮Ƙ򀍅򈙇򀥃OGONEKŤZIGZAG͜ISńURǳlSȲ倒FLAĸN霅AɋzǑAĴOĳVĲC CEDILLA򁈉DŪETHĺGq𵈒q伪KɚL䕳Lz䆩M䜫N䙳N䙪Rq洌ROTUNDAz˂ә鵢ŔZĩ뭢ȃBz𱓉푁ŋFˊ긄獣𮾉Ǳ펅򍆖ȳPĪESHĺU𐴢WĪAԄ򐞄ҳ䊍ηƧkUP TAC蜥KAVYKA򌌈x빁kDOTƤŲWIDE󂛆BRIDGꞄɉŋɊlELETꤥl握䛪EVʴ|=1DFD똈ALMOST EQUAL TOϤΑ򓢂HEAD֋k品䊪ND DOWNƗ˫a鷢񟸍즄Ҡȳg蔁䏘䟬Bȃ搆˲䎶䞷ӣ䞵佹򗑁䟒Ƿ䟳CȂ롅朂퍂̲䒽奮D愺D愼D愺D愼D愻D愽D屪ˢ䍴䜳𦐇俸ȧ傳Eȳ𧰂 AN𪰃͚䒝䥺筌䒜䥱屿E𓣨𤝂䣓ǿ䠴釭줤̺䒼擯F隺F隼G栉˒䍓䛭H人H亼HꕺHꕼH𨂋˪䎶䞮ꔯ䍴䜳炣囲ǿ缴I蝼I蝾I宬ꌌ䓶ꍷKɊ䡭Ǐ䚴砺K砼K𣭚K𣭜L侱䎴䞿捡ꀫ䔟䩮娻L娾퐼ȧ퐿M稶M稸M먺M먼M爺M爼N佺N佼N佺N佽眻N眽N眼ȧ眿O뿨묬䑼䤽𤭌䓿䨮𯛗䒝",
  "䥺崖𯛢P鶲Ǐ䚴詬|=1E57񠰐P込R靺R䞽靺R靼R𣉝䔟䩮ꇻRꇽS懺S懼S懺S懼S縧馢傻ȿ凾CARON䨰䓾尿䪿ɟ䬻T漶ǯ䞸漺T漼T蚻T蚽T𥅠T𥅞񐢐 ͗䑶䤴𶯒䏲䠴嫽ȧ嫿𨝖䑼䤳쀄𨞑䔟䩭V ӏ̢䌲䚮躺V躼WǺ𪈇䌲䚳枨䌱䚴攌䎶䞮덺W덼W撺W撼X佺X佼X建X廼Y佺Y佼Zꌍ˲䏗䟮曺Z曼Z𣓑䏗tH䈮T揌tWƂ򗖇tY䈮AƍGHT򊡁Ǣt񧞂昬zІGONAL񥙂ƭḦƋ欮SHARP 禌򋕁䔭A桺A桼A񽶆耈䏗䟮籍𣸌䔟䩿𻍋䔟𒧣廉䬟𔅬𥪈䔟𑓢糈䫿纸񔉇瘌䑼䤹瓌䑺𿑂B2񬳔ʏ甒䔟唺珌䑻䤺犛ȿ燻E롶ǯ䞸롲䏗񤱗䝒悳E뼽䔟䩯뼼䔟宰뼽䬟杹뼸䬟款뼿E🹪I蕻I蕽I锺I锼O䞺O䞽坻O坽O阽䔟䩯阼䔟哰阽䬟悹阽䔟䩯阽䫿线RN痬䑛䣸瑬䑚䣹狱䓾䨺煬䑚䣹濺ȷ漻U떶ǯ䞸떻U떽U绶䑚䣯绶䑙凾嬞绿U绶䑚䣽瘜绿Y񎵌䌲䚮薶ǯ乸薲䏕侵桍Ǐ朲򝉃-WELSH LL˂䎕䝺V䝘V啴LOOPʲ䌑󁼃Ƕ򠮅ȓPSILIzŒDASIAzƯ筢VARƠǿƥ䔯OX䔏ƟȿPERISPOMENI|=1F07吷ͯ䜭愤娷䞉Š媲䰌Ʒ嬮䖎Ư宷z堙痫ÉON堉N堉N堓N堓N堒N堑=1F18榄冹ű˷Ű刱ǇзǇ劰ƺ勵20摬T簊՞傰俰伯福礖邼呈𝕼𝕿ҽ躿IO嗫ʶz喱喑啰啐唷믽啖醉鄳郓遲묲묙🗥OMICR🗰🗿4뫥冹R뫫R뫵R뫵R뫴R뫶5뫬U𣻩𔣿Ư籹N粘墡9殤壮ʷȱB𤒓ǫDzL擷Fǡ𙪧EG𡽿𡽿몝噖𮴿𮴿渹𲣓枈ЊtE腨錆ǶuT䛊ʥIO䋫ͮ뛢䦶tU䶓˯EG哎貅80t壁戮YPOGEGRAM穌䎏讒䡺䓙透䦜䒸钗屻䖛𹽜ѷROSʓ諮䏰鷔䤽䔺ꊑ䩟䔙ꝙ庱|豁F𿠃暓ҿ䧟𸐌雜隘T陟˿䒜闟𚬠𚪧𚨶ET铝钐뵼䢼䓿鏟鎛뷿崹輿𭫚𤲿𤲿避𤲿𤲿桓𤲿𤲿𤲿𤲿z𤓧𲓚RACHYz򟖇Ś裚䉐蔴=1FB6Ȃ叩ƅ脟嘸A 器Ŭ𷥉𷅈憭KOʠISg䋋h澁h勇gDIALYTIK氪𩢒暚晎昙C6z旌𔬬𹗏ųҴwT𷩒z救ꛬqɁq񐬘瓋瑧Œ樦Ώ䋪񃛉D6z蜬䕪񐎤է虊恈śҶDg쁂庘񊛔їN䵩ũ徴Ǒ怓tRHO񛊎𿉋񊌎揿固LO圫裹vRHO탈g寐uȹg񋉄F2𬡎Ꝋ𡯿F6z𡯿񅌏R彉xEG𡲫Ǒ諣=2000aEN QUADbMĳN SPACEbMĻaTHREE-PER-EƕFOUR䈫SIX䑌IGUREŤPUNCTUATIONΦIŕHAIRŔZER磁DTHƃlNON-JOINERlĳaLEFT-",
  "TO-򪃂MARKaőƚǘƓ|=2010aHYPHENa̡BREAKING ƛ叄薡HaENĺbMųHORIZON灁BARaDOUBLE VERTICƘL԰hLOWłaҒSπȐQUOT屢勇䍵Ƭ̰-9䍬hHʸ-REҀSED䏎ҋ劁丳䍵Ʃ𑱲bAGGERb˻DŢaBULLETaTRIANGULAR ƌONEԀT LEADȸTWO ŷ歉ELLIPSISb燢ѫPOINTaLI̘SEPARATORaĹGRAPHƞ肍EMBEDDING脬ƿPOP DIRECбӠFORMATTǐ䥌OVERRIDE䤫ƷNARROW NO訃鯅񻸁LLE SIGNeTEN THOUSANDƊbRIME瀥Pš朡PŦ潅ųjɃŤ䔊CARET螅圢時Ÿ A賐h墡䑼ӠFERENCE蓪EXCLAMAȷ̐ERROB̘a懁龢UNDꋁEaCHARACȈ Ũb咡 INSER竈ASǰISM늤蘅FʸȪSLASHꧤQU̐ BǐKE򺨃QUILLꩢ䏹齦ES均ŭ媏EƇ䙬TIRONIAN矡ˀT瑨ILCROWǂaBLԐ焢WARDS媄g品䈪aLʈ怤K͟SEMICOLONaCLOSE UP꘡ɆS ALШED쾦LYaCOMMERCIAL MINUSՃSWUNGퟣINɩʠ玦FӨER 𦅃岈HRE뗂ǗՐQUADRU躅𧬂䒍bIV䜎북䉭˦҃ŀ匁CROSSaTR彤宅 ɥSaMEDIUMʠTHEMAǪ굤WORD 𨋃FUN蝣APPLICҊ忁ISI股TIMESk욦kPLUS=2066뺌ISOLAT빫ƯFIRST󂫁NGƥ쨍ƽӠHIBIɰYMME封 SWAPP촁AɘVȘ䍰ʶARABIC폂 SHA䛪䎒NAԃՠGITƲESbOMI䉭aSUPERSCRIPT ZEROm󩐏I=2074m烁nIVEmSIXnEVENmE挡mNINEmPL蹄m辢mEQUALƌ曢PARENTHESISmRʸ䈪亱NcB勨kONEkTWOl鍡kՑlՐkՐlՑkՒkՑkՖkՒkE՗k免k免脡90aռUԔ匫AzĩEĪOĪXĪSCHWǛHĪKĪLĪMĪNĪPɫĪTѸA0aEURO-CUR԰CY띃ꂂŒbRUZEIROƻFșH FRANCƋLIRAŋMILLŋNAƦPESETŜRUPEEœWONɔEW SHEQE˔DONGŋ",
  "EUҥKIPŃTUGRIKɄRACHMόGERMAN PENNYҾOǜUARANIţAUSTRAќHRYVNI̔CEDI娥VRE TOURNOISƛS͸MILOԼENGEœINDIӈ孈TURKISH 指NORDIC춢ƃMANAT扥BLEҼARԌBITCOINӔOMł=20D0aCOMBINING 覢HARPOON򞅂觢䉭LONG𸨊 OŰLAYkSHORT䍴ANƠLOCKWISE 𱡁΄䊳թƄ՟䈪mNGϮ̟RIƲҧ䍔𨖅SϺ낣䇩ENˈSʐ򳊁LEu𮐂uDIAMONDuƫ BACK𯕁嘣咨䣮SCҐNuKEYCAP|=20E4濈ȿUPWARD 𳑅𺀂LEk𭒃 SOLIDUS奦𾽉󚅄潉NUITY SYMBOLk𵬂𬸂DOTkWIDE BRIDGE潨ԑS夃ͅlOՠњ偏𰌆藅󌝃ARBʘWNǚω䒿oҳ򩉂ϋ䈪𰹄喣=2100aACCOUNT OFbDDRESSED TO THE SUBJECTa圣-STRUC񳷆CbEG脡CELSIUSaCENTRE面昄bAREθcDA UNAaEULER CONSTANTaSC𱆁aD̳FAHRENHEITa𥬉Gh҅H𵏂-𥾃ƶ召ƿPLANCKҎp湢 TWO PIФɮI䮓䓮Lh勃LaL B濁嵤傔NaNUMERO젅UND RECORDꏢOPY璢b䲋P䦴PwQ凭R図R䠬ƿPRE̒𴙁TAKEaƀPONSEaSERVI𿩄TELEPHONE𩻃ADE𤷇꧁ICLE䳔ZaOUNC˔HMʚ𹹆Oƌ坋˟TURNȰ򭇂񞵍aKELVIN̋ANGӐOͻ捭B䰓CaESTIMAՐ瞄踫EhɍEpFդ˦F䲍MhʫOaALEF΅BETŕGIMELťDALǏINFORM񓷃OURCEaROTATEѷQaFACSIMIL榃淬ӓPIuGAMMAoʭŪwPIoN-ARY SUMЫ妅SANS-SERIF ʖz L񁹃䐓L䞘Y勌ơICǶDv哣DzL EĘIĘJaPROPERTY옢ϥAMƘЈDaĸ籄KTIESELSKABԝͻFa椂ŀOɘAMARѰ楆VULGAR 񉁅饂EVENTHuNIĩTřvHIRDq슁TŉSqȹFIFTHơŋSrHREEŜqFϸŝ΢IXɠFIVŒƭEIGH̙ˈťSȡŧբŭa哦영񂑁 ON舁MAƝLƉoTWOpΡoԹp",
  "΀oҨp͙o͚oNIȩűLƩʀELȨ嘡Yö HUNDREDoըŦǁ񒖅a毣佮uӘvәuәv˰uӘvЩuӚuNIȩŰӛuӛuӚuOӟuӘŧ佩帮Ǘ C 嚂Əoѐŧ韆Oчa񁒏ȾC䶋矁 ɸE 닡昃 EARLYƂuх梉Ӯ跮ZER詥雄񅲃TWOo梁=2190a𰲋aUP䆩𰝃Ƈ𯫂ſ𴻆˾ șŬNORTH WESǴgEASɍSOUǘƇgȷ劭𱬁𴝃aѩ䎖ˇWAVE墨䊯ɗ괁HEADED悌Ǉ䤯ǟ捎Ǘ姙TAIL΂䍓䚎FROM BAR瑊Ʒ͒䘒皌Ǉ疆ӗưSE嗭󏤆Т䍓䚍󌳆ʢ䍓蟨獈l竮塈ZIGZAG閦杯IP Ֆxӗ̒䖻|=21B3䔗ͧ婔CORNER ́ҟ䒴ҷa񃭊TOP񝺁񂧁閅䏕곴Ȩ LONG粢цǞƱ𺍂壪ǧ剌OPEN 凪䍹񀫘瘄zRB撨UP䗔又z旨Ʃ䰾Ř焍䲟RB䳌񅎍ǿ遒ǯOFӷ샓瀳kPAIR윥S϶䊫ʢ䌑ґ䋰牯ӣ椯ϒ䕑䠮Ο񉛄뛎eЃ䏶Ѣ䡼䳎滦䊏䧵拂Ʒ锪告𫄊Ƣ걯ɥ𫒅Ǝ𫙋䔭˞ꕐTRIP壊䋱ɷSQUIGG䘏Ǐ𤡕Ԍ𥙈䑔瀰ASH𬥊ƧՏ䖐в䋏퍴a틕ɷWHIT屬ƟԿƷԷ䠜𬤋uON PEDESTALzĳ摣򆉊䍉񗐃ǃo縉zW Oͷ咐ӗWALL𧗐𨾃貆䍏韅懯ꮪMЀ𦸂肃𣆕衊񶖂횮S礭愋뷩䒾니䒸e隔乹䖟ӗ䖛ԏ𬀁-𸥎䎕Џ䎐FOR 绡COMPLEMENTaPAҠҘDIF򄊁šaTHŐ EXISTSgDOES NOTŻaEMPTY SETaINCṚNABLAaEΒҸFaɱAN EƏ臢䈉C魡INS AS MEMBERaюǜǗ˴䙰ENDͨ PROҰ񐐁řDUCTgCOō񐢆򀵆f-OR-PLŬaDҰũbIVIS򆒆SET ʚa񡝄櫁򎈂RINGŭ򐕄ſ򆧃ROOTaCUBŋ򀒁THŚ񐢁OR񻃃TOaINFINITYꦃ򊰂aīMEASUREDƤSPHER蕁żDIVIDESb查Ż筡ALLEϢƱ䇩LOḠDiOR򋡂SECթaUNĨƒGRA򉗅Ž򎾂ſ礢OURƇSURFACEƇVOLUMſ𷞅Ɨk䢍𸢋䏋鑅FOREaBECAUSEaR簡檇穁睥EXCESSaGEO򁼃PȯHOMO͠ѠaTILDE篦񘯆ƺ|=223E񟦆LAZY SaSINE񁛁aWREATH辥渁˃aԚŜASYMPTO򋏃 EQUA珆䍵APΘX񟒁LƷoBUT ʲCTU䦌EI揁 䜊ɘRɟϧLMOST儋ƛ䑴ORǆ脤孄θǏŀIVALENTŨ漇Ӛ䍫켅",
  "CE BETWEEN布ACHES񮨁LIMIT̝𔜢 OR˒ƸGE춡Ņǁ䙓򂊂ųSaĳ ƚ봃INɖfEʟR񩟂DSŰ񥹅SbQU򠜄ƹSTARύDELTAүŅ BY DE쀁퓡븆ư򗂅ED瓊ŧIDEꖁǏƆӢ暁T滮LESS-THAN稪G颁ER䌋䗌VE䘏ǖ䙒镄䚮䎴MUCH ˮf䖉a葥ʀ娋eʆe䘉bꅤէN嫈iɔǌ帔R杌ʤ䎴N串ȟ仑獹忉位Ч仑䞌亯˯PRECED򔪁CCEEDSƎ肩ǭ䊊Ɏ態䗐Ǐ𯪆ˤjɔʐBSET OFcPERŋ퉣 ǎiǎɯ刉ˉƮ𤕏͏縪mʶ脋ɯẀ锥яǟ颭LTIǨi Ŋ򞤅jUNĨ𰟂퐧hORIGINALřƢ埬Ȇ䋭CAPiUPa𽪂D𳄁iMINĨ򠃁iD𳑉jO𲣆i𳁉i𳡍iК̈ʸ嗣䯲OΏ𲺃TAC򶫁ŋ𿾁ŋUPĻAS򬟃aMODELSaTRUEaFORCES𩕃񃥉 μURNSTI񾘃䑭ƛ䕍c贆OVEaŉљ逇ҡƸEG񺙁𑗦黆򌱂 REL篂麅䋭ӐRMAL辁GROUP𼃌䏌䗍馬䝙䓪蚥𬄈鍂ŠPaHERMITIAN ͸JU恡 MATRIX𸑂CALƐaXORaNANDbOR𺜈麃ARCgʈƊ𾁃𹜇oORg𹜈g龣򔭃蜆b袈𬮁ů韦跂aBOWTIE订弅FACɀ񢶁򪗂𶄄喂䓟͢䟕䌑b𸙉𯙄CURL彧ORoAND锄칄j엣h戉h戃PITCHFORKaͨ权𾯄𪎊񈲄T𨋉ƯVERY 𭁊k䔩͏蒆𩥔䒮Ηa䊲m˄ţꐅmꈥ𧵍锦jȔƆaȩ𤢈鿬l𤍓a䙯ҁǾ|=22E5ȭ̥ɇ𲽗𰄒䑘쐦ǵ𬝒䏕Ɖ왯񌤍읰˒쟻䣎죹򺤃󊸇aMID򜊁󋔏aUP񣴄IAGONǗ񨿂䎕񐿇񷁄NGІ񔖅q𦛉AT 񐁂䔏񑲉ί𐾥ˇꮆ򡙂qO̘˨䰔Ǭ䟮UNDǂqTWO䷏S𧑅徙o𓼫Ν𓺪兌巋䍳Z N󍘃ϠG񖜃SHIP𧩁ET򓮃抁CTRIC񚐃HOUSEaUPųHEAD葃ŷPROJʐIVEb΀PœaWAVY󚃇CEIL󔂄ŮǓFLOORǂŝBOTTOM ɜROPh̘ŋaTOP Ǉeǆ񐋅ꙁ夢졅LOZENGEaARCaSEG縡cCTOR򡡆򤑃ERaPOSI摂INDICAȩVIEWDATA ͳaPLAC훢𨢁ESѢ򛙄ӧWATCH枡RGLASS团喁񦢃e塡Ť帅䏩h䏩ˢHALF񕜅ʌ䊌FROWNaSMIL瘫񎶄 髩貃SaOP市KEYaERASE򭼄ԂaX 켁搁T𱐂BOXaɘBOARDa󗣎󓶅a˹䎕䴫̩aBENZENҰɠaCYLINDRICITYa驁AROUND-",
  "PROF宁󊣃YaTO壡RUNOUTaDIMENSION𨵃ꒁꦂTAPERaSLOPEƘU盡BOREhSINKaAPL 󎩄A򤧄 I-BEAMwSQUISH󩸁wĠ񏞃zD񞿃ŀ𴦃ňJOTzD񭏃wĳ 𺇁zňǩw𿞁溡wBACKŮϋŲ̀ǑŜ𮶆zD𯾉w񭫆VANEw浢ſ΂򂧌zD񮳍w򼉌w񀇅𤋅xELTA壢δȒ󟩁zŠǩʯ岢UP儬񰿊Ǹɚ팅w̘Ϻɦ䮩ɨώкϟշWϯyOTE坡ϖTAŶx畃ǷΘŦ慣˟ӁSHOEӁшαѹ笇盤񚀂哅臁슁ISә ůɹŷӉůΜƇ樂ө蠄緂䇩ĠD䗩荩䫩OMMA 汥ʢwZĪ̲Ƌx󟤄彃釥𵪆zD󡼅w羇ʹUP䇊IOTAwRHOwOMEGAwALPHAοEPSI䴉ɱǷʚŷˣaԱCHECK󨎁񃛎򘗓SHOUL̀ED򒟁훂BEL믥a󋪈͌MIDDLE΀Ta󨜅ɳ񭀂INUOUS口ʩǝDIS䏙EMPHASIS͗M𩥂ϯ񾦁𽋂՜󃋃咪aE휁ʝALŠNATIVE KEYƵHELMь񑯄𧱋񔇅CHi񈔄梢aBROK򗊅ȵRTH򦖇UNDOϵMONOSTABLEƌ|=238EaHYST逃ɍ瀡-αUIT-OUTPUT H-TYPˍuLŪɽPASSIVE-PULL-十ʤǼnUPƄʅ񇻃󚸂ƭ󢊂TWOaSO𤉁E-󦑄ʼ𧻒볢aDECIMƘ󦟅沩PREVI綡PAGEaNEXTŊƸINT󐭂ОCLEAR䉬󟾌 UPPER򥅁r͠𫅂rLOWƣ黃䘵sʎsʏВ詃𭵅ʛ𱓃uʮuʨƶъ䜚vˆv䜉҃񍠁ʵ周tꮄPIECEt哈䘋ϖԲ䧗u䧉uͷ񼑅 ͏龥뵥Ǐͻ团OR ̫仱񔗄Ǚɕ˃䔴a򃍅 TOPk𶫂aŐ櫬aǋ䊬v󐦂䗐RADIC铧μԹ씥ơX얢栢䋰懩SCANƢ-1v3v7v9a񲕁STRYМǨ̯񓳃𾁅zƧ՜䋪젢즤x뢡ɂӵ䏬UP䎹ӹΗ횣䪕ȏβ䏻嬊WAV䩷ǩ䧵䜶ɾƏ楍裁椰Ʋa翤FOOTaRETUR젦EJECTťΛ鰏񾍄 BREVEjLONG譣SրTjĪƃǑjǿTWOțSjŗɏuJOрDkRISEMEkШAŁjPENTŊaEARTH G𾵁aFUSE龡ퟩ齄䉉ȑꧫȤ䊋ȲTրOӨ SHELL䗬䎴𭦃TRAPEZIUM񁲉跉aSȘ餁NESSaFLAŃAC𩠄񌣁歄򎖈𨴅EXPON𪉆󘆂 񄑈󦏅酦gLEF䎸UP䍷輡䎷仛񑷎Ձ𐯨䰌䔫񮮐aALARM 򐺁aSTOP񌫂TIMERƫ񌷆̣FLOWϑSAND榄MEDIU꓂佐n剔nUP䊐柇Ʒ񳀒",
  "Ӝ닆R 埁g蛂ź񑉃aPOW𶪅gON-OFFŬiƭSLEEPŤaOBSERVʐEYEƜ󙛈NULLlSTA뗁F󉙁INGuTEXTl񘡃řtRANSMIS뽡nQUIRYlACKNOWLEDGElBELLmƀSPACEl퉇 TABU񴁂l젂FEEDl廃䎫ՐMǫCARRIAGE 튣lSHIFT OUTrINl񔭁͈K ESCAPEmEVIC򘠂RO󕑁z찡ĠHREŘFOURlNEG𻌂噉SYNCHRONOUS IDLE嶦崨 B蘡ֈNCELȄ莤lSUBSTITUTElՓlFILE𷓆l񥅂ſ矃 ƇUNIT ŷ杣DELETE膁NK砥񁥄益EWLINɽ𺏅勇Ɵ=2440aOC𳇂eCHAIReǠKe򛎅ŪBELT BUCKLEfOW TIEfRANCH B՘򑕃F򃆃eAMOUN虁񅁂eDASHeCUSTO괡ACCǲNUMBER|ԉAԉ뙂񐕈ǈ60a鲂󙃄󠈦iϳ TENpELǡp󞓂qHIRTEŰ˨łqIFź̠ŲəƂ͡ł͹TE̊ǐYa𨼆Z包󠥦o匇v匃v匃w匄v包wIFź̠ŲəƂ͡ł͹ł匄Ֆ FULL쒃TWOůhHRE䎉ё ǯIV䎉Ҹ ǟө ǧԚ ſՑŷa岇䡉L̢Ƈ弃Ƈi恂䑊憅 ȧIF䑬SIX䑌й䒌暁䉌柁䉌椃Ƈ絬󥔏AzōBŎCŎDŎEŎFŎGŎHŎIŎJŎKŎLŎMŎNŎOŎPŎQŎRŎSŎTŎUŎVŎWŎXŎYŎZ덣拆CAPITA挈ĩBĪCĪDĪEĪFĪGĪHĪIĪJĪKĪLĪMĪNĪOĪPĪQĪRĪSĪTĪUĪVĪWĪXĪYĪZo瞬呁吁叁厁十匁勁劁剁ցձաՑՁԱԡԑԁӱӡӑӁұҡҐi닢󬘁a𩯅来ꔤꍣyꈣzꃤy龥zIFź鴤zəƂ骥y饥y셃𱅄𤽍vTWOw삡vϙwՈvΠwEV쫥v͉p럧嘯妨BOX DRAWINGS L˱񁳇nHEAVY䈉񇕈ǽŴǭ󑷃󎬁䥮䎒䜱Τ䛱䷬񕵁RU乖䏵䟬休˯併񆺅RűnŲǊƧ ̺sͪƯȫЛ䢬䭍LEF䬩Ɲ䬊ƥ䫭̗εUP яUP喳q喸䠩ΧеΙ哲q哷䟉谬 яƕ嘳ұ嚍晣猆䏮唥ϗ廎窷ѽ桱ѯꐬȞ峭忥՟梋岭ƽ岒Ƿ山烰译尮Ǘ尘磭񓚏ò留Ƃ岽տχꇮǗ䭉奸Ź禞婱ꃆ嵼Ȭ崸ǯUP岸q岽福屷ǯ|=253B𨔊둉𨊖弟ɟ忙ȟ뺕Чꉰ疣ȗꌳUPȖ䴯欸椤鞿듚ž茽맺·婏뛬挍ȗ蕩灯蘷ȟ삲蕒ԈUB𮤔䎕ˏ𮞒䍓Ƥ̿uǕpWN SINGLE矄ϷsʫƿɄpЁ𮢋̷簨",
  "̯Ʒ䢏𬨈兕q兔nƻ𯃌兔q兓̧𩴎刕w创𮮘厔w厙·ǽ渨덌滰ǧ澮錭UP䪺q䪲椓ǿ彦䭺wD䭿꨼ARC錌z谈x簨zȗt򮝄񼖁󅾅O񺜇zǣūǝɔǢCROSStǡtUPtγՁ늄䌏嘃ͲՊȺպɁ Ɨ̯ɧ˚ɦƗɡ񾌃򣏁񟐂a啢񕃁EȩHƳkQUARTERūgTHREȅSƜ̟gFIVǮ䘪̬ƥSEVENɅӼFULLՔ鬢䑰f䦑fҦȿ剂ʗ䏍ON̦ƋjǻӴRš捊ƂSHADEa񬇂ŤDARKœ槡柌͟䋏ӨDRANT螨pɒj蠇t療ȇű訪ŗy鉨䚬zǎ䠍Ҍu䘍丷񮎉򕅉m񰷂񹿁ED򊢃Sn򴙃ING ˒񙁂̅ĳˊ륉FILLm렣ŭORTHOGONꡥHATCHǓ긖ǲs듐ʻDIA䨒a唈崪䉊ȫ򮦅ȔžǼ탦䔍ǆ䘭󋠅OGRAMɣ䉫ȼ񵘌ϟ䍒䚯姃䝬䐘񽓈何䎬䝲倗̏𒃪łER̃䎔ˌ񹹒|=25BD˻䑔a˿堖˿埻邁桖䎔ˏ栗˿俿柏˷枵򵺄ɋŭn 벓ɮFISHEYEa󀖃˫򇹄DOTTEDŭı򃱌늄ULLS̨bЁ䗐묁𦲂ԛm뻡䈊뿣Ƈ위Ƈsʓ𦙄ȬALL󒌁쳆䐭aLӏ厉ԁ䋱IN󄶁 娡ETi憪剈ȵ䏪LOW䏺咐ǒULAR󢔁屁䍴Ϥ䐸g䬗在啪Ə辇з鋦mψůg壇ȏʂ鵫桥𩇈胿Ϧ󕯆蓏ʩ䏲ӄҊ锍BISECꛂLIN墡򎢖Ta䎯餴z 塍aLARG繥刏镑sLOW䉭yκȗʰ翮gТ䫬𑗿a籐g籌ϖ绍򒊃𮉉䉪䓫𮷏䌲錐ɵSUN恃RAYSaCLOUDaUMBRELLAaSNOWMANaCOMETʅTARԣœLΩNINGaTH򺰁STORMaθaASCENDǐ NODEaDE䇪ΨNJ򴰃aOP򻈄д󕐅ќſBALLOT BOXk圢򊐂qXaSALTIRE埆嫥IN DROPSaHʱEVERAGεSHOGI򯻂Ӄ䈪SHAMROCK󘐆ROTATĸFLOR񓪂RT땤˻窣鿦INDEX翂䊍ԃ䗒UP𑀠򞪁䪍SKUL񈚁𷻂BONESaCAU次󙌁򯸁OA󝘁ƃBIOHAZARDŲɠDUCEUSaANKHa𺝁DOXͲ͈HI RHObš OF LOR毡EjJERUSALEMa芁Ԅ緢TaFARSI򼦅DŐHAKTIaHAMMEəӉCKLEaPEACEɍYIN YA諡RIGRAM FOR渁VENmLAKEmFIREm躄mWINDnATňMOU𮴁m獡HaWHEEL啡DHARMAc溁󛜁暁FѸgSMILţ肇Ɨ蔤ꔌӘST񅨅MOONaLA䈭MERCURYaFEMAL涤劃ſJUP",
  "IʀaSATURNaURANUSaNEPTUNEaPLUTOaARIESaTAURǐGEMINIaCANCʰLEOaVIRGOaLIBRAaSCORPIUSbAGITTARŐɐPRICOϨAQUƓPISCES嬣꟡SS KINGmQUEENmROOKmBISHOPmKN轁mPAW댤𐮥gSPAD曡ITуꖣƂg𵁃ǪνLUB䖩˳ȇ䟑ɷ˷볁ˠRINGSa燥NOTEa񊦂śBEAMED EƗS򑳄ŽaMUSIC FLAT畢gN瑡ALţSHARPŒaWESȈYRIACꓤEA䈭UNI졁񄖂YC计鴅Ƈ򟯇TYPE-1 PL͈ICS|=2674䕘2ɖz-3 ş4 ş5 ş6 ş7ŞvGENERIC MATĸALS潤埞ED PAPERƭPART˸LY-䏲bERMANENTƫ棢땃CHAI̮DIE끢-1j2j3j4j5j6𽥇𱵆񘌃sTWOũ囄䒊ʲ䕋ƟS󒂁쳅컢oINӸƕ󤳃ǓlLESSřINtűǞʐΒ蚁GԛŒ𣫈PICKaANCHORa荢ED SWORDSaSTAFF핡AESCULA뤢CAѨaĠMBICaF𯋁aGEARɷHERMșTOM朤ȸEUR-DE-LISaOUTLINи𮷇񘼂ƱS CONVERGING捣x󀱁WARNƐ獣HƸ VOLTAGEƊ򒍂Θ𣝇iŎa񅜁LOCKȎ徂ȇƔ䟪f甂STROKƃrʙ䔱󂧅ǫ䛬󎩆䐕񛫄襩h虩hSʸL䏪b򲨃鎇VORCŶUNMȁ鴂RTNERSHIPǥCOFFINaFUNE젡URNaNEUTERaCERESaPѠASaJUNOaVESTAaCHIR𴍄𩎁 LILITHaSEXTILEcMIŌaQUINCUNXǐSŘ𺉂TEbOCϠ BϐaBASEŁ񁐃D KEY镄ɘUGHTS MANpKINGқ䋯𸎄概OUT ŹbUN BEHIND 𸼂RAIŇɼ𸘄ȃ礢ȡbURNՀ𶇍hˤƏ񎕊 IN 墣ꟃ鑁LANESaDISA鉂CARaOPHIUCHUSa긂Ɛ SLIDɨ󣘁ET슩͂򣺅䫋bHAINSaNO ENTRY󤭄ʨONE-WA񪖃ŁTRAFFIC忄TWO䏓ҚǱ䞸ƲԂ MERGEʣ䊮DR𷇁LOW黣񬧂񗮙̑煁SED娣艦𽀄FALLʐ񈤆INꄊŹ񤮈工RU𼪁SѐCT͸щГ-1w2aAǀONOM뛁𪿈𳳂坃Њ뗪뽃𧗄 ABOVEaPΨA񠲁",
  "헢-HȘҀ캂՘ŐȏԨ䐛򼕅Ɨ설𻦂N SHIELDaSH˸OŨRINEaCHURCHbASTLEaHISTORIC SITE𦝁꒦HUBj ӹLESaMAP彈񲴁ȩSEb𺵃񂽅Ҹ󓴅ǜbLAG潡HOLEbER眡AILBOATb󉅄UR񪠄bKIERaI폡KATEaPƘO띣쉃TENTaJAP鱡E B󁿆無DSTONEԀAVEYARDǕFUEL PUMPaCUP O胫𫻇񫹍󥥂ɴ萡PEaŤAFETY SCISSORS񌿂ɁDEƦɓŷLOW䑮Ӫŷg觤HEˀMARKa񉂅 LOCA񄑅bAPE ꣢aAIRPꮁaENVELOPEaRAIꓡFISTh硡aVICTORY ŢWRIꭡŢ񍤈褡CILaĳ娡䌬啤NIB嬣Ŋ啈坮MULTIPLI囤XȌ䋍񌜃Ǿŵ𰁆GREE鬤ț䈩󉹂C뙁E䑪䋯L҈NŜSHADOWϠ푤ǗҾ䊊MALTESE˭TAR񆟁AVIDa顂TEARDROP-SPOKˠASTERISKf姢ON䋬日˚䑔ς񀤁䌭瀣ˢ񨔃D񓤇䋰SPARKLESbTRESS 𵜏𩉅Ɨ|=272B氊ҺɺԓƼ䣩Ϟɟ爤䌱PIN񋭁Ū犭˟弦冩ƧE铢撌g急ѷo䷌IX 䒏ͫǅ񸒁I囡AR婏𐪡󉞂䴱󈱃Ǔ篩覬忓ȥ譓䏖廃ETALLծAN湤񘥁ETTEaǂŷ䎫摣̮筋ʯ誅놊˒鏊嘔疅在NOWFLAKEaT񠘄FOLIATE ǖ턇VRONƿꁤǽŭ꽫詌剏ŘELLER涍𐮥젂 MӠ鶭散󃧆𳢄ʏ𦯉кꘊʔ񱸂䓟䦪䤖䐺蒥QUESTION咢 ORNAMENTaɊ䎔gEXCLAMA䛏񻞊 MINUSң𨣅䝬𰅅򯍋BAR񄴃䉪̣䉊g򛣃T𿠂COMMA QUOT台n䎺g򛳃𑉿LOW 勣䣛kґ䒝aCURV귢EM򋂁GRAPHϸGNȞ殴֏ǸRT䏸񛴇a񩶄ΛǊ񩻊񪏈a񪤗硄񩶂󜇆SҶh鐁䍔FLATTENED䟗r䟘򅿊A煢BRACKET俋䒵歭䨐翶Rο䖟唼Ώ唿򣥇TORTOISE SHELL䨓䒽砋CURLY桳䎕aDINGBAT 󘂓ONEzŋTWOōHREƬ𴎁ŕIVƭSIXŊ򣚃ŜEԹŜNIπ󚁆iҭSANS-SERIF ԇF ԖŘԧǉԷŠՆǉՖřէũշŨօт剈戦卺Ʀ咈Ƨ喪Ʒ囉Ư埩Ư夈Ƨ娪Ʒ孊Ʒ屩Ư嶈񐨅IDE-ŐDE򰊃WARDS ARROWgPLUS񫫂MINŕDIVISIONūSOUTH EASTʜ䢎NOR䐪aDRAF򖀆亮匃򥭂-TIPP匰a񓋃坓",
  "̧䓞DASHED䓾|=27A0Τ𐳣򟏂坏茂-˸OP-Lǡ䝰ΑiBOTTOM䑺Л䍓𨩈𪭁󇯂ȴN䨏tUP䎗񘢁Tͳ涵CONCAVE-𾚃䖕Ƃ𵄁𳾄䑯LEF䑝BϠ-TILш𵍃䕷FRONT䖓妔򗊈-䘼gUPPɞ䮽NOTCHED𑟨aCURL։OP˶𑲧񀶅븢䒕Ʋ-FEATHER駖-ȇ뼭qʏƄ뼮ԃ䤝w͇Ƅ䤍񇐆BARB뿗ȵ搡NK䓱WEDGE-TAIL䢷䑺񉂁-񆰂찑𹌃砧뿣 DIMENSI񥜁򗾇쪦򩸈񲈅ǿ񟍁ӈDI򢦁Ԫ SUBSEThǈİ󁧃彁P녡AG DELIM̠R끂䎖OR񽓆INSIDE򓽄 SOLIDUS PRECEDINGҜaSUҫǏɝa񀘈񠔌񧠃aM腡MAȻRIS񩻈aLOŨ𩵄䕋񪧋񳜆LOG󌢄qOR񰾊Ԣ񌾃D岡aAƤŢELEMǘ OF 檡ϱ𤘃a뙨񥤃ʵ򟴇䍏ƢOUTƘJOINãƇ󈝂ſ򤃂Ҩ TACK򗥁ŊbEF󪄈񄚇STILEpșf񠐁MAPbONGɄƺԠŋaμ惃썣񭔁򳅅涂D苡Y畩RU钥𧩅Sȱ櫥z梥ѐꁤTICKƵգƿg畣䙑s䕌纊ɚ񌶈𽳅nʱ䍔ʡ괂䖫ƞȷ欅䖰䍔և𾻎˧䑗̧񅟅񄿈˪䍴a鍄򩼂UPLE컦WN䌳ANTICLOCKWԡGAPP򺣃Ȏ䎻ժś衈ȨPLUS떂禧ȳf𤕌醃R͇jǢ殦ʧ䋰˟Ƽ̕Ͽ FROM췡̣䌱̱䮪䜱䐙qSQUIGGƽaBRAILŨP璡R񴖁NKqDOTS-1v2v12v3v13v2ĨĘ4v14v2ĨĘ34ǀŨĹġ5v15v2ĨĘ35ǘŨĹġ45ˀŸĹĠ˘ȁƉŊĪ6v16v2ĨĘ36ǰŨĹġ46˸ŸĹĠ˸ȁƉŊĪ56ԀƈĹĠԘșƉŊĩԸ́ƙňՒ͙ɂƪśĳ7v17v2ĨĘ37ȈŨĹġ47̰ŸĹĠ̘ȁƉŊĪ57ոƈĹĠոșƉŊĩո́ƙŊĩչ7|=285D玎狂и̢ʊĳ6ň6ƘĹġ36ёƉŊĪ46ёƙŊĨёɂƪśĳ5ő5ƩŊĪ35ɚƪśĳ45ςƺśİϚʃǋŬļ8v18v2ĨĘ38ȠŨĹġ48ͨŸĹĠ̸ȁƉŊĪ5ŀ5ƈĹġ35șƉŊĪ45́ƙŊĨ͙ɂƪśĳ6ň6ƘĹġ36ȱƉŊĪ46͹ƙŊĨ͹ɂƪśĳ5ő5ƩŊĪ35ɚƪśĳ45ςƺśİϚʃǋŬļ7Ő7ƨĹġ37ɉƉŊĪ47αƙŊĨΙɂƪśĳ5ő5ƩŊĪ35ɚƪśĳ45ςƺśİϚʃǋŬļ6ř6ƹŊĪ36ɲƪśĳ46ϺƺśİϺʃǋŬļ5Ţ5Ǌśĳ35ʛǋŬļ45уǛŬĸћ˄ǬŽńa䘵WO񍉃𩛂󉿈",
  "𸨅zƼ𦒃䏍a𧔌䥘Ӛ𐬥𩴆䖟媳𨾋啔ǿ𩿜善Փ𽚔UP䒟iTRI𰺐䋉嘎񔇁Ǜ喋ǧˇͿ䜏䎕m杦䍯lĨ腧TT񮊃嶬TO攮Ʒӛ掎TAIL轳L轙l韭ͯz䭞䐮鰟У-ʁ変Ư谏ǟ讕ˇ旌󤢉˪䐺̗隌䥸䕟񐅂WES񄄂񡹍EAǏɂǎőꀋOKgˏƧaΣ䍑䢒剤ǗӺƠ匫ŗ圲亮墾ЯƧa񌷋򫄅񌥎Ɓ䕓䡬匮Ɏ岎aƀ䕓差俶ί媘Χ俾Χ椮姿WAVEȣ󕢂ԳRECTLY 雂a䎫񋠉HEN񥵁񐾇z䊫튦pŉ䛐ꢆzƶ䲫񥉄ID唁C 񆷄𦱈ǯ񇷆ȏTOP䍶񩾂䝝ҧꍨ򉥂iʱ䏑񈩁򌯊EMI󭲄Ώ񭻅93F󤱆䖫卲䉪͹S񋢌䎺튎񔞁򺢁RTԑ񪪌䕴񳛏Ƴ䯳Ϗ僎枍 BELӓ䏷䠑THROUGH Xa񎁊Ǘ񡬂懄aUP𳆗䕊΃BARB UPςū鳂 HARPOONkšǢɖǕѐƒǫʪŻιȥiŠǛɟǦ倬䲟䤟Ȋ妔ͧɰ嘕琧ƍ瑢勥𲉈䓟Ҁ䑵̂𳮊䔟厚̡叜ɇ吟ѐ叫䓿杼𼩊䔟柿Ʉ栿ɗ桿哋䕟棿哬䔿楿쿤好勽BE𩬁泜痺է旞徼տ禾𔝢囜z碤𒾤惗牿ҧͭ𗁣𘇢񵰂ASHzϬ𩎂ƿ坬䣿A䤔訣𗁿Ȋ𚛿񏢓򒍂򅂂DaEQUAL򔍁綤򏤏ILѨOPERATOR ȯ𰺟䝪웣䒾xALMOST 卂 TOϐSS-THAN𱛒cF𰗑ʮa󫐃̑岖񿻂宗䱲򀱌叮˯ FISH 񊰅䇩UP ŧ謢ŷ񐬂򲐉򃝇Z N򧲄SPOTlTYPE COLONa񷇆򤺊Ӫ䌳ʗ񶕈ʂ䋰侉ˊIMAGEͥlʩ䉭ȲBINDING䔌Ư՟񻶋鞃靁R𪂄䑛䢖񾇁 IN TOP򃠂ͳ䖛񁃂ɼ|=298FЋ䚟䲐刿񿥎򆅅͂䎕˄RCꀧ羊ǛꉨǷ앤̀䒗h̙䯳Ӓ򝗃򀚎ԏ䑜񜃃FENCEa鼦ZIGZAG LINEaMEASURED怣򋚅Ө捋VARIAN捃滄˟Rɇ杧AŷS򐰃bCUTEȻaSPHERձ估yUPa򿚂ɢ򑨄ŵϓ颋ȗ䎑OBLIQUE䵌UPw쑡恧˗Ț ARM EꦣIN񏴈˫򍴆zA䔿嬡䔜թΦ𐫣䫟ͫəՈ䔺͙Ʌ𑒣Ժ䪞ɗ瓧EMPTY SETaŎ潄V皂p񉇁򒉉pҲϻƌϣƇaɻ񫑍΀gD𧼉iPARЀELi򛆋i򝃉g򓶌·媁쳂HALF ȷ䳊hՊSUΠIMPOSȈXgD񒟊-󆘄򵄉aUP𬣊慤󡄊󆿃iĴ줆i츩g Ԫ横TOθE礣mTWO񯿎S䑪򝄅񝻌SLASHiFϐ䋐󖒄i佩j͊aҠ򛘁ΘϛSbRI좫窃o뤆줡򣬆T䗊SрFS AT𨪃ퟣɮ𱑇̏䆪𸍃矊a䆉ȅς̧BOWTIԣϲ臢𦘂mɓƇbġ ʋaTIMES䛲l䛭a綃HOURGLASSaB͂ſ́͐GGLY𧯃̑䉌򛇇䕯䌳INCOMPLEӠINFINITYa",
  "TIE뒢ƏŅ󈽂ED媂椋ϣ-ENDǰ򢎄a򟭇򫛁OUR󣩅ӢREASES ASaSHUFFLE PRODUCT𽯊ND踁Nӑ뫥zļϢ𼘂쑤IDEN匃TO䝒aGLEICH󤷁KaTHERMODYNAMIC𹖁󏝅蝥羳zƐ礍󝸊ʳΑ뵃g򥫃a󢭈䒍̓䎕EĨR-BŠ󡆋nʲťǊԵǓŮWӧʩѧaRULE-DELAYEDb򯽊񂚆Ƅ𧍉򰫌򂗔BIGȕe䙌蠤񨦁뽁Pŝ󖕉󃔃𷑊鯢䑽ǈYaMġN-ARY󓿆OT学oҁů렁ŷgUNIONŴ򴮇z ʩg鵄Ԑ媡CT䕩n䝋aTWO򲬈ǆmORȦ哄ԚƧMODULO ́SUMaĘMAёժӢGRALa򧾅Ɩ̗FIN񂡃Tʇȴ򂇉的|=2A0FȏAV̀GEɊ𨆂a񮗂ՃFUNCŁ񮏉ԾǊLINƅ垈RECTANG̸R PAƀA񍿁 POLEw񯽄䎲rNOT͸CLUD뚂HEƲ噆ɝA 葁緇擁TERNԐ擯ˮ򲫋򀍌蒢퓣o羉oUNĩꐄ𫣆򷫅𪬋Ӆ񊬊CHEMA COMPOSIƑsPIPINGtROJлa󖯄棄𵗏šUMFLEX ACCENTƼ𤴇pDOT񖧂ƫŜSUBSCRIPT踡p앢嘆ꦁ伩󬻂ͳqͶq𰹄ƈSqRISŝ囨IN𥚆틥멁䈪aVECTꏡR񾾂𨨅𩬁PLIC時պ𱠋z澆裁񿎂˵ɒ񉽃񸖃bMASH䯔嘖x嘏찥吖狭䶕뇤䫪𹎌槊瑪䋐b䳒ʯ飢IOR悆宂H핁䍍閩RELłAL阩aAMALGAMȚ矂O˝ꗩ󅔇NŶ埇l꤄䙰ǌs𥑇䡩ƴӈg膡𦢊䧋ǻ˚̈ƏϨ 䝼ɏ䢯𹘃匁𼑃匢ȓ̯䔷介钣˫𼛈hȮ䌋𭚃󄝅풬䩙ՂSꇪ沨곌iOR䈬ӅLʟp𫾃ԧNG䏩zǸSLOPƱ𤥂ORoƸa磇縂LAPP䝌iĘ蛅DDLE򠜁iOR䉮Ɂ𲡌񪙁ɠ䋲ʆ네蹅r쬅rƼŽa𦅂VE񒪋墨䧱xȽꪨȐMAIN񉒁RESTRICƱlRANGE䊭𼵈Ѓ𦈅𼖆璌𵬃񋽋򢐘zH ʙ䌏b񬀇膎u𧼈SIMILAR밄ŬaCONGRUENT呌嫄ƫ񉳄a񫽋𥓓bPPROXIMATELYɤORʮ񯗏𥉅aŋǏɟ洪񯂑齣񩥃ˋ鼁ŸNSECUTI䧫SbHREE䎶笏͘楂Ӣ옢Ɩ縃dIVAL楦FOUR ɿ񰪆󘑈󟹃񰇄䏴䞎QUES镂MARKϺ̖䒼͇OR񆦄獆̝䐖䟛衦媬𐰥𑞣帐䗿𑜣񵧉𑢥񵞈|=2A85䶫AꉇΝ䍱ʧ订랁LE-LINE펁瓎䔿䨋Ǒ兑䐖񻞌펢мЛƼ䤉ί䛿Ͼ䴭퐅윆έ䑹䢕咐䧘卞寻嗗榘埳跅浑䓔ӏ䣽䵺a鴎ORʏuДţ͆릭ȵ䎒a艈䲳y䟉m刚zƃ簫莧ɇl䐩i愋𩲏oɴ䏔塤 NESTED͆ʶţϾ𲘊샪𵠈̿",
  "n𺛁酒򭏄BY񕻂ͭ䎒䛗蠙𐰥𵺂ER ʀ񍨂Ŝ䌊𰂈Ȣ䋰𭳎BUMPYңaPRECEDESԛ𣳇犋SUCCEED䓜䦬𥁕͵䓽䧫券傸伹䶻򒖉˗䏔亰䠵䑘龥ͥhʕ򒰃븦cPER䇪Ǯ𷸅򚱃ɉ䍵ʯ񏞐˿䒻͏OF OR𯈔́䒞̽竏˱䍵ʭ𻂑ˁ䏘˝竓ˡ䏹˭觪˗䎖bĸR񜻂ՉN BOX剆򍳁䋰a위腣jϻjԉ権jҽƗ򛮉˰Ȋ衢ƮΣ裣Ə䒰Ҭ𥆁ȝq񏩇BY󛫁竢ǴaELEMEN罁媂󉂉aPITCHFORKʓTEE TOPaTRANSVѠAL񐸊ɑ̈aNONŕ󃝆 TACKgϡŋUPĺa򄮉уS񼶉񈋂񼶅URNSTILE눅䕉тȗ䣋ɻȑ䢱䔿򩟅򴀁ǫMEMBER枡䣬弄巆񙉉彥𬢊o磣䜌aσƇhˤh񌒁面괡򌚆Օ䏬̀ESũ򉪃ӣʦNEG윢񭱂|=2AEF柧LINʃ񧸉z찣a岨ȗǜ񼓄񶱓o빋򥦑BINARY񟽅u䤳h񌈁͎h𲦙𶏇𯞅ɗ됉uʴ䌎啃񺑅咬񮂄姰񏁊̏ƾ񾽁䙪񶬄䌏b󙠅ǣ󚋅ƅ󠌈䓿󏁆䋊e쇢򠬂ɄUP䉯윢Ư󝂍ƳӖƅ呇䓻呎刌 ӹƛ󓫙TIɓǂz 夤ι䕽ɔ򉶈򗁅Ӄm񯩂䈩UPP󚒄򓞅䏩󚃅䏒a򇪃򈡑nΩ䈊ժŷ冮bƀ򔰅aƒ 锢Ɣ轣Ɩȯ躡Y񷼂䕊䋬ɿPENT妡ȳŶgHEXƱȬŭ마ǆȷջ쬄gMEDIUM 挄ϼ䊋ʳƥ򌕉䊌ɋ堃˭m䘊Ǜ䗫쿉ELLIPSɤ䌏ʌ뚤䗭䋏򢒆񽯎aTHRE򻖍S䙭ɬD𹔁bONGʏ瑡IGGLEɳbƸ󞌍͇񦘍W񦶙W󐚅v𣷂𬮁ͻkAίD還TEMvTAIL䵳䵙k嗓͡zWş墔ȇ䱺󣝋󮻙氢񦳍畎򓇅󇊐󨄣̓񃦍󦗕񐧉z𸦄aϧ򏌃󪨉䍓bӔ󊈡bŸ𒾧𔑵䥎wГ󋳤䖲󜆇򂶅踄򼀃󭻈𱂅NŠHǋgBACKƽSOUƽ킪򠢁큉Ƃȓƅȏ򚆊𥡋䎶HEAVY𥁊OVA齄ŉ񚣃gǣ񮏏mmD SALTIREa崪򒫌󓋄彌䔑꿂䦱𸨌ɂ䨭䖚bENT듭禨HEN 𲓆砄B𐳧ꝣ荲𴜅䎲ꯨ䟙轗𴁍䐓|=2B65𴑄䢔姃WES䢔gEA䍏𶪋䝶䫗杷𨬁桘ȧ椻ȿ樋䓟򡍅䓍슡Nꉤɛ򡽊䗿虝 TO󮤃䒟蠛ȿ裺ȷ=2B76臛ɧ芵ȏ莜͏䵾晼𲋉򰋎楗䝿氺䟟漚䞿𣎉B KEY񎈃Ƈ捝򽟂총摜ПOF 퉶녟֏Α𣹤剟垳쳿PAIRȵSą䒿寄䔟堣䓿参񌫈󎕉珆䐶溨䣗檈䑵𣎢в U-SHAP塅zǉ򫘃䍑畡䙳TOPƼ螧ETURNʒhѢaNEWLINEƒiƓFOUR󦓃ʳS奂ȰG 埪拎ɳ=2B97aSYMBOL FOR 󮥁A ELECTRONICS񅠂-呢-L̩ED躈EQUILATERALΓ握iѪɮUP䕹ξ檤䬚Ӏξ뀂䖗񋱃啽g厺g刽g傜𣸢񥈁TIP喇z",
  "䏒ծ뒓䪿䩺쐊䪿ԋ섎䛟𑬯絢ѷ𐸱뵄URV蝪AND񅔌zD񆺍nUP䗗䖎ȁɷˑǟɤǧ䜕咉˗䏗aRIBBONţǡ잣sʪnUPŪqŪкӐΊŁƂʚƒœ豥𤖇񓏆󨐐c黧 IՀ󉠁󐓃OXa򋣇󕇉SsAND틃ƍm䆪|=2BBDaBALLOT͑ӣL唢X򾝅XiBOLDƀ䞉 CENTREDg񠵃ŽaTURNEҵPƠ񝵒OCǃ䆪񝰄UP󚸍҆n桁䏗渢䏗烂䏸aNEPTUNE FORM TWOa񣧅󙟉񣮋ǇLϹ򪣂ТEDǽUSPa󬿄䒻碂䎪䞫䏵猤󂮄 INDIC񑢁UNCERTAɘY񶢂GROUP򪿁aPLUTO左mHREElϙmIVE񾁂ȊaPROSERPINAaASƸEAaHYGIİPHOLUSaNESSUS垤MOԀSELENA󡉋ON󋶂ϘUE愣ɫARTAaCUPIDOaHADESaZE͸KRONOSaAPOLLONbDMETŰVULCANǰPOSEʈNa񪱋 ST񃀃䊯ġ񫦑k䗭aL񢷚蠆둆𩃁𐱬ұ𑦭퓡𐳬ERIS絣ONEkʸaSEDNAaRUSSɨ 笡O򿚄𳀃VIGꖡLEzŠNOVŌQUƯBIƿS빤řꩁECǀ򚁍󮒅񾽃UŘEDҔaSEPARAƇ񻀂ŷPASSŮ򂏆瞣庂aHELLSCHREIBER PAUSEɽGLAGOLITIC CAPI튁LETTȰAZUz BUKYz VEDEz ɔz DOBROz YESTȐZHIVETEưZELOŸEMLJAz IZHEĨNϘALŬˡJERVĸKAKɠLJUDIJǈMYSLI̩NASHǰONϐPOKOJŠRITSİSLOVʘTVRIDĸUKȐFRIԡHERUʠTʡEɈHTԈʢCHRIVIƑƈYȰĪIĨATƱPIDERY ǪUz񟾂ňSzŗ񫦆ȘӀI콣䕩BIGŁǞƇFIT憃ITSA匣PICz TROKUTASTI ưLՠNˀ惧CAUDƀ埤lљ獉y猡y猁y狤y狂y犢y犄y牢y牃y灢燩y熃y煡y煄yԌy焂yONUy烃y炢y炂y灣yUKUy瀢y瀁yOTɠEy屡yə坣ŸAy漢满ATIy溅ƹUy棇渏yYOy淎y殄ǎŽFIӀ浄y洤y洉y泭y泋aǺꄭ񲰉񕅁Ց䏘䟭󒫇񫱃vPƚ񑼃vR帧g紫䓉tTъ򂰅ƴ䷍HȬESCENDERΊ䎵喎K䞺K䞼Z䞺Z䞼ALPHAvM񪱆v𵁃AzEDǫ䨋Vɒ𣫂ʂ䨭W͟ˊ䌑t̬CURL楬𫽂H˗Ɵt疁LESS PHItE̓",
  "NOTCHt嚄窈tOśLOW RING񯼄Όϳӕ˴Eg󮧆俪JaMODIFIERƌˎV音SӣSWASճvZ䈭aCOP𨃐LFAhӥƏ䒬VIDȭƏ䒮GAMMȶƗ䓮DALͶƗ䧯EIEȬƇ|=2C8A妔SOUʅƇ韭ATӟƏ芮TӞƏ䒭THETHȿƟ䔮IAU幉Ɨ덭APȷƏ췍AULȶƗ䓮MIȣſ䐭NȌſ刮SȔƇ䑮OȊŷ䏭P̓ſ䠮R̕ſ筭I譧Ə爮AUȣƇ耮U̻ſ䢮F嗬F抯HȕƇ庮S廍朰阦ƇꗎIALECT-P ĸFɲ䍴䮮LD ꔤAINˊ䍴䜭CRYPTOGRAMMIC넆䏗噶騧䍴䜶鍥䌲嗺ˍ䎶擷爆䍴銮AMPѦƗ台O𿃂HEɳ䌱勸˂匕䝽ESH˒䍴䜭AKHMIMǘKҝ䍓眷HOR˃䍳啸ˑ島䝾A䜷賮L񬩃ʭ䌑䵸燑ǟ咻T哘T䜸GANGI屲Ƿ噹DJˣ䍴辺IM˛䎵䞲NUBIAN䞱ǯ䞾NG洰ǟ䜹Y䜸Y䜹WA산ǟi񐪂KAIoMI ROoPĪSTAUROSoİűKHƪ寢 SĠ횘방䏸䠸菫䐻COMBI󊔁NI򞭂rSPIRITUS ASPERz˰NISi䶫BOHAIR쌉䍓=2CF9h晈FUɈSTOPs򧗂 QUESTION񞓁sIN䋒򠾁󅕃RhFRACǚONE𾠁iΥhMORPH񗇄ʅaGEORGө唊ANwBĘGĘDONwENwVINwZĸTƐŐKİLASwMĸNARwȠPİZHĠRAEwSAɐŘUƸƙKġGHƨQŀSH̐CĠxƀJILwCILxȉXŹȩHAExExIEwWEwǀxOE=2D27wYNĹDwAEŁ30aTIFINAGH圥YAsBtHsGtHHqBERBƐACADEMYǐJqĘsDtHtDuHrEYrAFsKqTUAREGǰKqĘHHs䜰HȯHȨȠAsKHq˗ƩQŽőYIrAZHqAHAGGAR YŠǷZɱLsMsNƟGNzNG|=2D52媰PrUrARtRsGHqʗϸYǲG΁StStHsTĘCİTsVsWsYsZqTAWELLEMETӑqĘZrErOѐ6Fj񅃌LABIALIZA豆j񝹃ORŲʰ7FjCONSONANT󗟂RaETHIOP뀡YLLA󓁁OAsMĘRĘSOAtHĸBĘTĘCĘNƘYĸGLOT꟡ŐZĘDưDĸJɑHəġPHưɡGWAvIvEEwԸA0sSSAuUuIuAAuEEvuOƩ8sCC䊮B0sZZ䊯əHAvUΘ",
  "AAαvƱC0sQY䖎C8sK䊯D0sX䊰8sG䊯E0a쪧CYRILLIC쎦Ez VĘGHĠDĘZHġĘKAz ELĘMĘNz O񟝂ERĘSz TŘHAĸSŀCʡSHAġCHA񝸂ȹ-ȱňIE񡼃z MONOGRAPH UK񠈁ĠUȈOT艁DɩLITTLE񟜉ȇƍa񥤆󟺂TITU蟦ERm򽳂䍐򝦂䌋BRACKET΢䍓ʣΣ䝷䐺bAISED󡁂POLA剈hʱ䍴aǜ񴃂OSI奍Ǐ凮䍮Տ󌔅̛RƓOMISS䢭䎷EDITORIAL CORONISa뛁篢OS󤞁ʨPƗ񬣆䍰HYPODIASTOLE庅OBELOSc򇍆иAaUP䇉ɜ򸏋荃cUBLĘLIQUE ЈHENaINԠ淆ROBɐaPALM BRΐHaȻ񟱅ERESIS򾰂ƣRЂBOV枤LOW奂PHRASE枊䎖ͷ蚁ͫpBEɨΚ󝂉ȳQUILL΢䎷TOP񹍆ѝeʙ䉋򀺃䕯hɟ齫SIDEWAYS UꗌǇꖍ澁彁ENTH桁ʂ䌒TWOưTS򤵂ONEũ PUNCTUꆂaƜȃɵ䐪駂譂UR䟎FIV˺꜂郆𳘊a檆獢a粢觢aWORD 𪔅񩏂ͺ򉨄COMMAaꓣƹhƂǫˉMICOLԸDAGGE񿵈GUARDm持Ŝʝɋb򇷃̐C唁񺺁bWO-EMȈSHbHREEťaSTE𥞃IC𷜆嫦ˠX曢aWIGGLY 󫯉a𻃁ULUMa琢ꗥ斤岅Ǥ髁-Ǎ-9 QUOT훇bը岈UP媁b˃SUSPENSɕ뇆Ή KAVYKAt˚Ť괄ǯkꚦ՝STACK吅cT͠󩤄󪵃榤aMEDIEVALɋ햧US՚b蘡ŘELȠTƤaCORNISH 𻷉bROSS PATTY񬉈CƱBARrLEFůaTIRONIA矂񨤆ETևEXCLAM栧j鍋Ͳ鰢젦Ҳ򷀈䐙䠗框̿䓿򒏆ι륉j̉䈪쵄䗓m䗏𦭊=2E80aCJK RAD镢REPEATmCLIFFmSEC򏍂EtTWOuꆡmPERSONmBOXmTABLEmKNIFEșsȘm码N洂˨ALnMALLǦLAMɊrŠsͩr직mSNAKEmTƀADŠOUTʎHEARŮnANDmRAP=2E9BmCHOʨSUNmMOѨDEATHŐTHERmCԨLIANmWATERͮFIREmPAWƁqƁSIMPL𳺁栃TREEĠUNK|РA7捊COWmDOGmJADEmBOLT OF CLOҰEYEm񉋂斅mBAMBOЉLKmC-SчƊNETԥrH",
  "Ҡq愂MESHmSHEEPmRAMmEWEmOLDmBRUSH墅ȠATnORTARmGRASSǅt̹mTIGERm劢ESmWEST清催EE循ORNmġ䒬PEECHzSHELLmFOOT䏋CART䢩WALKmġҟITYn䙉G威LONG勓ǉzGATEmMOUND庆RAINmBLUE䗋TANNʩEA绁zĸFzWINDzFLYmEA汪䝌Ǩ计Dƨ惫SEmBʰmGHOS巬FISHzBIRDzSAL弫H͸xYELLOW䙬R虁伪VENȝƏ䑫TOOTHȦƗ䒫DRAGO͘䉰TURTLE䪋ƛɷƟ=2F00aKANGXI鷤뚢pLIĠDOTpSLASHq쇢pHOOKpTWOǨDpMANpLEGSpENTERq츁p򭀁BOXpCOVERpICEp앢pOPEǃ욂pPOWǰWRAPpSPOONp헣ȮHIDING ENCLOSUR̨ENp찧p찡p핂pPRIVATEpAGAINpMOUTHpʾqARŰSCHOLARpGOr SLOWLYp漁ЈpBIGpWO奁CHILDpROOFpINCHp񕆁p휁pCORPSEpSPRϨБNTљӀER˨RKpONESELFpTURB͘DRYp󠐂𣛂p𽋃嘣ꂂSTRIDE榁 HANDSɹOTpBOWpSNбBRISTLҨTEPp𤍁qALBER͡ORpʡp𽘂p棁򅗂pDIPPERpAXEp𩭂pNΨSUNqAYpM洡TREEpLACKψOPpDꠡpWEAPONψ ɱCOMPˑFURpCLANԙAMpWATϐFIREƩWpFˈƀ𫁃Xp𥈊ϸLICEȨNGΈWȸGpPROF믁pJADEpMELցI岡WEETpL荡USEРELDp𥪉pSICKNESS榅TENTpWHIT˨KI菁SHpEYŨPEARpARRҠST섁𦠁pTR庡GRAɠCAVEǠAՐ𦯂pRICEИLKpJ˨Nը𦏁pFE峃OրɱPLΰЁBRUҀMǰqINISTȘ聡ӁIϠMORTȨӸGU鿡POSEpBOATҰŨI抢LORցSSpTIG̀INSECTpBLOODpWALKꁈ𧚃pWESTшEpHORNp𦨂pVALLEYpBEANpPIGpBAD͹𦿁pREDqUNpF调DYpCARňITTȐM̨ՠѪpCITYpW뽂ISTưUISϠILLAGEp",
  "GOLD鞢pGATEꄂD쏡VEq鶃AIL񑋁RDp沢BLUEpWRʉFACEpL楤𦽊ưEKpSͩȉFԀňFLYpǸ齁Š𹐁NTpи棁퐡T돡HAIRpF콢SACRIFICIAL 塂CAULDӠp𧐁pF奁卡ɈLTpDEӈWHГMPp𧂂pMILLETpBꐢEMBRO򟙁ԈOGpTRIPODpDRUMpRˀNOSE쥂pTO鑁𦂂p𥚂pFLUTE=2FF0a̘񁀅DE땢𺄁CHARACT󛒃 TO𻯂zƵ𾤂Ƹ򭈂z䗍񄲄AND䜶ȗ䢌񃊃URR潁ƶƎ󂶁̻䎔΃䎔呢䍵U퓁䐿媂䑖Ә䢎󄯂ID=3000mSPACEm񂕁m񆸆DITTO񀀂JAPANESE INDUSTR螁싂AR򲁄瞊IИ񁍆m덡INGţNUMBԈZEROaLEF񝆂񒶊Ɯ񏑐䖰Ǖ䚐󛀃䗋Ƨɇ󁏂䗑ǔ䚒󘅄NTICULA䜋䏘POSTAL歃GETAŋ閄RTOISE 퉢䨊䎍堐兵䏗|=3018a̗倶̷僿񇃆˧䍔WAVE񐿁񏩅秅PRIME񏚋a䍹LOW䝹滉 FACEaHANGZHOU NUMERAL񅻎sIVErSIXsퟁrE壁rNINE鶪LǠL TˠϚmRI鶢ƇDEPART䉫𸎁䉊ղUL ˡ񗟂ǟh嫡䊍条Y杢񕤆KANA񊤃Țv񌾁VOICED S슁Ƴġ잁򫗃䓐䐬ʊ쥡ż󔚅馈抪TELEŚ 󩚁FEE񛄇욄瀮ʨNsWENTYsHIRTY嬇쯗aMASUŋϨT ALǰNǺ劯VARIA󐙊m姁 FILL 𤈁=3041aӰAG榁򮫉AqAqŋIqIŌUqUŌEqEŌOqOqKAqGAqKIqGIqKUqGUqKEqGEqKOqGOqSAqZ͘IqZ̸UqZ̘EqZ˸OqZOqTAqDAqTIqDЭTUqĐDĨEqDEqTOqDOqNArIrUrErOqHAqBAqPAqHIqBIqPIqHUqBUqPUqHEqBEqPEqHOqBOqPOqMʾϬYAqYAŝUqYUŝOqĐR䗍WAqWƘƊNqVɭKAx枡99񷵆ƘTA銁-樅貯zNA񢤁-䌮aK䞿s䝔ʍ薬jɋ䊭DI镣YORI亰񢓉i𘓠𘓿𘓿𘓿𘓿qVǄj񪻆i殇PROLONG矊i𖶪KOTO=3105aBOPOMOFO瑥BqPqMqFqDqTqNqLqGqKqHqJqQqXqZHqCHqSHqRqZqCqSqAqOqErHqAIqEIqAUqOUqANqENĨGİGrRqIqU",
  "qIUqVqƈGNqIHqO񵈋qNN՘31𧐃ՍKIYEOKoSSƨŜĳ-SIOSoNIEUNt-CİCuHĨHoTIKEUTʋŜRǀLt-˃uMŨMuPĨPu̡uTˁTHuPHƙH̼ȲoȲͣŒƃӣġpǉŪՉGoՊɻœCHıHoKĹKHoѤoѤoѣApEoYAqEoEOpoYEOqoOoWŹOƸOoUoWƘpIoYUoEUoYIoIhFILLERhꪤҊNԙoĪ-彃尃PANĹ惣-柨uȬ媇vɓuȐRIN愨-Ț䧫KAPȸUN效ϬuTӷƔzƔ畢湥̖ˢw注Sˏt粣˻tǲt̪oՅʺ瀃YESłw-ǉx啍滄ʋ寃嵈pO-YAtErIpU-ưtrIoARAEƐ=319񅫊ANN𴨄LINK𾪄x𶑃ţONńTWOłyHREƔFOURǤOPŃ봢Ǵ񮃂ɔIRSTœ񬾂ʼHIRDͧTHśHEAVENśEAƶMAƛ붯UqZIqJIqGUqEErNNqOOĩIRqAıĘUĹMqNGGqAŸrUĘMqOMrNGǹNjFIN򾮇wTwKwHjŴGHqLHqZYȤƭǶWqKWqOEqAHaCJK񲯃 TlWGlXGlBĘSWlHZZnGmPmZWŰĠƀTnZPmPWGƘnZZlNlHlSlPlSPlDǨmȹmWZmTňPDmZlTN|=31DE䲩SZZm͡X̱ZZɈGlQȨF0𫐂𳌍KUwSIxUwTOwNUwHAxŠxExOwMUwRŮa񴞆ZED 𣓃駃v駂v駃v뉢vꠢv魂v냂ȑGv鲢w젣v젤vꝄv饄vıHvϛ Aϫ Aϼ AЋ AЛ AЫ Aк Aы Aћ AѬ AѼňҌňҜňҫʶUoKOREA񑵈OJEONzŜ HU=3220oꠥ񱺁yTWOzꈁy韁zIVEySIXzEVENy񀶁yNIȩŰMOONyFIREyWAΈzOODyMETALy鰢ySUNzTOCKyHA̩OCIETYyNAMŠPECIɀ辡NŊCONԘTUL럂yLABORyREPRESENTyCALLySTUDYzUPERVISEyENҨPRőȨOURCEyȰIANŀFESTIVALǑTySELFňACH𿮅度򊾅sKINDERGARTENsSCHOOLsKOTOi񏪃ư ON񌎂񇾃qWԨY䊮HIR䊯pFOR䕰IF䕐SIX䕐EV䶱p狡䋏鷡TNERSHIP򄱁彆姅WͬEwTWOx",
  "纁w纁xIVEwԀxѱwϢwNIN媤v䘓iꧪp鸢p鷣p鶢p鵢p鴢p鳡pȑGp閂q鰣p鯤p鮤p魤pıHpꧥϫĸꧥЋĸꧤЫĸꧣыĸꧤqꧥѼŉꧦҜŉꧤi꣭ŉMKOzJUEUI弅ЛUaɣ񙕌軏񿎉s棁tIVEsSIXt满s滢sNIȩŰ궁s궁s궂tOODs궂s궂sSUNt궁sHĄ궄s궁s궄s궆s궋s궂sSECRETsMALհEıΠITABŀEXCELLENTsPRIĨATTEN˚ITEMs걡ΠPYuRRECTsHIGHsCȈREsLOWtEFTsRƘϨEDICINEʐLIǴ몂t명s몇s명s명sN̙놦것锏괄u氡vTWOw氡vF͘wIVEvʀwʁvʂvʀ끣񏴒矤 ΐ JANUARYzŽFEBRƇ򵦂CHŮAPRILzǟȿJUNEzŧLYʟUGUSTŶSEPTE嶡ƎOCTO䇩NOV䐋DECƂa삣 HGhERGiVaLIMI򘠁IABILITY슋𭚅񄏅rKAsIsUsEsOrSŗTŗNŗHŗMŗYAsUİRƏWŐŁ叅ERA 钡 REIWAhAPAATOiRUHUAiNPEAiARUh񎁁UjTIhUONhESUKUUDOiEKAAhONSUiOMUhKAIRIjRATTOkORIIhGARONjNMAiIGAjNƈKYUǂIRUDːKIROlGURAMUlMEETORUlW˹hƣnTѨKURUZEIRΠONEiEEѰɀNAjOPOhSAIȁjNTIIMUiIR唁iEŰlOhИSŠSIʁh͡NANOiOЉHAITUhPȈɠOkŘBAARERƘIʨՙjωkOhBIƨHUARADDOjIITƐUSSYEƲRANiEKUTAA˙ESOjNIHIhHǨTƁNSUjEZIhBEETAhPOIN˹ϰԡONƈNDŉOјNhM姢OkӨHHAjRUKUjNSYONiƺNjRIlBёiEGAlTƀ曂hYAADʩiUANhRITơjRAiUPIIjUBUʁMUjӘGENh沂귿HOU񭟂z䈩뫁䈋TWO䈌HRE䑬FĠ䈬IV䑫쥁䈌쓡䉋욂䉋NI刎䚮L͉嚭EL倫𣓃EEN坮䊱IFơ塎ơ壐TE契Ʃ妯䊭𰫄䉱-ONE|=336E稗䛑皋ƿ睭ǏFOU𣕆PAhDAhAꛁRhOVhPChDMj ǳDkCUBEDhIUh쯦HEISEIqSYOUWAq",
  "TAIŉqMEIZIhCORPO񖎂hPA AMPShNAhMU AiAhKAiBhMBhGBhCALhKġPFhNFȁFkGiGhKGhHZhKĘMĘGĘTHZǱLiLhDʘLhFMhNMƑMiMhCMhKŠM嗥hCŗŏKŖɑ婃CŅĽKƆ򷕂SpʦPAhKĘMĘGĘRADkȜrȞ崡S勁SiShPVhNVšViVhKňV MEGAhPWhNWƹWiWhKňWƻK OHMhMĪAMhBQhCCiDiУKGiOhDBhGYhHAiPhINhKKiM򮷄iThLMiNiOGiXhMB񇊂iILiOLhPHiMiPMiRhSRՈWBhVΛаń趟DAY앃ſ씣ſ씅Ə쓤Ƈ쓄Ƈ쒣ſ쒅Ə쑥Ə쑆Ӈ䙍L䢭쏦Ɨ쏆嘭䊎쎅圍ƙ垏䊭쌦塮䊍십Ɨ-潌뻈䋑焎뺉䋱狋ƿ玪Ʒ璌Ǉ畬ǇNIN澐Y䉎嵃틥GAL=4DC0aHEXAGRAMəȸE CREATIVE 񘊂rRECEPƂ𿀁nDIFFICULTY ATʊBEGIN԰GnYOUTHFUӁLLYnWAITƱCONFLICTnɩARMYnHOLD񾋂GEƠRn񭟃AMɹTԐDŁPEACEn񂢁STILLnF򔍁SHIPnGREӸPOSSE󒦁nMODESTYnENTHUSIASMnFOɱ͉WORK ON ԉDECAYEDnAPPROACH叡TEMPLAT̹B嚂ɈROUGHиԚPLITƺAPARTnRETURNnINNOCENCEճ堅M惡򋁃SǔPREPONDERAɰ愣BY廁 񄨁rCLˈЁFIREπFLUςDUR勢ґ́ʹ򪪁nPROŰSSnDARKEN˱OF ϡL藡вFAMILYnOP󘘄oBSTRUC΢DELIV剣pCπSӑńBİK情COM瘃 MEEԠAϐR硊PUSHƁ󖯂ѹR猣ԪWELLnREVOLUTƝ򜉄rAИS͢HU摁rKEEPŹ红 򫚃喡VELOPMENT̂MARRYȸŀIDENnAB˰毦WA͙ͨGɸLŸINDrJOYј LAKEnDISPERSձ񁴁泡穢ER TRUTH鋃睌AFTǸCOMPLEʂBEFORE Ə=A000aYI󪪆ITnXnnPnEToXooPmAŻmUOŲOŴEXnmWUmBIȳoETpXppPnAŻnUOŲOŴEƣɤRXpnYşmP̮䡴䞺BBIӣpETqXqqPoAŻ",
  "oUOŲOŴEƣɤRXqoYśmN̗Ẋˊ䙯şmHMʾ伏䟔˦M庴ʨ杭影mF˻ˏO擕mV瓕П氘D珗簗mT寛䜸DD檱租mN䜉ʴ䗹HN蜹˃ʿmN娬鴓|=A18FꩪNE尬HL尻ŢE轚L꼨気꽿G𑇦냯mK뜵䜾GGIϹ怎Tq粋ꡏmMGIʨ𘖦HX糈䷜쇃GI勑䒬HITŉ漜mW抍XǟZ柞砟CIT𦂿ZZ摳醌酒NZ馷˰˫䝴S𔁾nS俊뻻侊ZH衵𧷛CH阙敘RRAXpѪ𑫥NR焩䗿S𓔴R𘸱J迋ꃋ䜺Q𐹵JJ開嵉肭䚒oO痹nY䴝ϤX奫𬜊坪Y𓵴=A490d󙡄QOTlLIlKITlNYIPlCYPlSSIlGGOPmEPlMIlHXIȘYRlBBUTlMOPlYOlPUTǀUOlTATlGAlZU˙TlDDUɀUR̀UOΐɨTUlĨJJʈZѨPYˈMOlYΨVɀSHYlVшZAlJʈZUəYlGOTĸIElWOlDUȨɐLIEРmUOPmIPӰOPƸAΰ̲OԈHElZZIETlNBɘKE=A4D0aLISU򎾅AmPAnHAmDAmTłGAmKłJAmCǓZǘSAoŐMAmNAmLAmSA볁nŰɸǀXĨİFAmWǠňY͈İAnEmEnUmImOmUnEnHmOEm򵏂YA TIrNA POršCYAvBOvNAvJEUfPUNCTU򔢂󄧁r󄧆VA𰅇EEpNnHEEnWEEqNnPňBŰoĸMBĠKPŉGőĢFĘVĘTȘʱDḦŁLĘRƁĘNġSȌZļCĘJǡġYϑšGGωЙũɐǉIoNnHIpNnWġPInBHIoIրIոIհŀęFInVInTIoHInDʀİLInRŠInNĘSǊZĪCInJƨĘY̨IӉ̠͠ŐIoƘAoNƠAӈAӉAӉAӈAoAӈAӈAqNӘŐęFAnVAnT竡nDʐİLAnRŠAnNĘSǊZĪCAnJƨĘY̸ψө̰πưAoƨOOpӈOOnWOOqӈňBŰoOOӠOOӨŉGőĢFĘVĘTȘʰԐ̈ŁLĘRƁĘNġSȌZļCĘJǡġYϑOOչωЙũɐǉU烡U憡ġPUnBHUoUրUոUհŀęFUnVUnTUoHUnDʀİLUnRŠUnNĘSǊZĪCUnJƨĘY̨UӉ̠͠ŐUoƘO烢OӈOӉOӉ憂o慂ӈ愃ӈ攡FOnV惁oH悂pH恁nRŠ忢nSǊZĪCOnJƨĘY̸Oә̰ͰŐOoƘEӚEӘEәEәꈂoEӘ",
  "ꆢ聣ꆢөEnVꆁoHꅂpHꄁnRŠꂢnSǊZĪCEnJƨĘY͈齣rNnGЩMŰ齡oG˸NGTHENERe뜢|=A60E뚢롦eQUES򱕅e릦NDOĨFAtKAtSOOg񤤂EΈlKĪTIĠNIIlBAŀFAAlTĘDŠmOOȩUȡŉDO-OlJňeDIGIT񶟁kONEkTWOlHREEkFOURlIVEkSIXlEVENk񝤁kNINE前MAtDO=A640aCYRILLIC񨠂򢔅ЀMLYAjSMAL䉭䔬DZELOɆƗ䓭󎠄ǩɲ䌲䚭IOTԭƏ偯JERVȶƗ䓭MON򐇃UKɲ䌲䚭BROAD OMEGՓ䌐刮NEUTRŰYERʚ䌑䙬ƑU򸌂BACK˖䏸新IFIED YAT˚䌲猶YUʢ䌑䴶A䳴戮CLO͑LITTLEΈS˂䏗炮LENDEDˎ䌑咵侕䓿瑮Nˋſ榶TS鳭Ǐ鳮SOFT DEʇƧ䕳ELjɟƧ䕳M䕱Mꎱ󟞂Oɺ䌑犮I䙬Ǉ䙵󌎃䷎䏹ՅULTIƥb󐥅𣄅VZMETtTEN MƁONS򕮁tHUNDRED䊬THOUSAN䋌aSLAVONͨASҘISKaC䴯քUKRAǈAN IEz Iz YĘUz HARDͪz뚢z湂ƃ엣tKAVYKAtPAǸOKbνƳjƴ朮W营Ƈ䑮ZȥƏ䒯ZHȯƏ뙮CHȭƏ丰ZȭƏ䒮TE흣򿚃HOOKʢ䐙䡮WфƇ䳯SȥƏ䒱SȭƏ䒯忮T忰楎椰SHȧƏꌳꇳ꣯CROSSEDɴ䋏aMODIFIERǌ鞦鏈鋦鲘EFz𤡆EaBAMUMǝAnKAn𸺁񁱃TAEnOnNYInInLAnPAnRIIp񂒂񁘂Ȣ𾖁AoJAEMnMnSU𹲁SHIIoIoHEUXoĘnKYEEoETnNUAEpoJUϐYOQȰUnYUQo̘SHԀɑPġNJɸTϸPUEnWUĸ񄣃RUnLU񁜂nRϩAEʰNnNGKWAENpGApAΰOnPЙFUoOMnWϰAnLInPInLҨKOnMBʘRĘMENӨT񂺁MOoBAŠETnKPĸαTUUnSAM񂘁AMѡOVUUpGHOMg泦󬣂KOQNDONvTUKWENTISgN抁LIg𹟅ʐLONiMMAgSEMIŪg𹳉=A700総HINESE󯲂YIN PҨzŢANGūǕSHANǟŲǧQUǎŘƶRƷŘqEXTRA-HIGH DOԀDӃBARq䊒MID䉮LOW䉭μ䌰w䫉LEFT-STEMˇ䏛|暁F暍쾡䩘ԯǯ唷",
  "ȟ噫喑䋵MI儕倷䎔DOT VERTICALƁuSLASHuHORIZONTALύER RհT򇴃 ANGLEqRAI쫁UP ARROWxDOWNŔEXCLAMA釦xINсɨ䌭ϱ 䎷STRESSҀD HԈ坢zD ʠŒaLɘN񂫌EGYPTOLOG嬂ALEFgSMAL䏹䠻IN̂䏗䟭HENGʕƏ䒭TZțſ䐭御ILLOȺ䊮䖭CUATRɶ䋋䗹󩱂񚉂˒䐻ǜɃΕFzL S䰍Aʹſ䐮Oȋſ䐮Uȋſ䐮Vȋſ䐯埣鬫ʪ䑼䤮Yʬſ𿮔C󯇅ʒ䐙䡭KǊ󞉃˪䍓䛴DIAGONAL䠉䑼债꿁䪒䗗䯽BơN L̲䊮䖭Lϲ쀡抓ǿ挵OȋLONGȌ򫁁L秥䓿䨶OP̒䌑䙮O䕌鶮P椉򞥄 DESCENDE陉䖟䭴FLOURISH͚䎕勵QUIRREL TAIL̂䐹磮Q𓝥䖟䭮齺ȟ齿ĈOTUND힋Ʒ䗮UM䘬Ǉ䙵V喷䑼䤮Yʫſ䐮ISIGOTHIC Zɚ䌱𩺎HORN탮䏗䟲緻䨼繿Vƨ̥Ə䒭ETțſ䐭ISȋſ䐭CONȔƇ𸪍US𲏃䔪DUMtLĘMĘNĘRUM𭂒ǀ戬ɨUM喎NS񓯁弫Ʒ䗵F䗳F䗵GvTURNEDƇ厫䎭̼䏭L䚲L亵R咳R䗵S䗳S|=A786燤䝴T䝳T笍𹮁CIRCUMFLEX ACCENTq񅷁qSHORT EQUAL񘯂乳SALT𶚌Ư杴H𫦑RETROՁ񔒁𭭁BELTgΝIN𺚄𱛐N̡낍䎶ꃮǺ𴽎ƿz PALAʐ厢tHǂ䉪䩭B𪗘B𪗚F퐷F펹VOLAPUK Aʣ䋯䘶O䘴O䘶U䘴U䘮G噃OBLIQUE媩䑔宴K䣶䑛蕮䣸ȗ䣿R䣶䑜ꢍ䣸ȗ䣿HȢ醂v𾎅OPEN EvSCRIPT GvLȢꭂvГ̭I𦿒Q뢴KzĠTvJͺ񞍄-TAILvCHIvBETA鹫Ɖ䥬񨤁ȶƗ䓮UꈗUꈙGLOTűЛ䋏䗵I䗳I䗵U䗳U差LD POLISH Oʒ䌱񈬎NGLICANA Wʢ䌑䙭C퐯vS萈Z䏰Dƛ𧻁񁏙䔘鮎䩾䔟=A7D0g񽨏𯆍䎶̑3t񩢂𶓂Ɖ5z WYNN䭌񮚄SCOTS Sς䍴嶮IGMOIDʤ䋏ҠF2񣁍̥CyFyQ𭨒맦HALF Hϲ䎖EPI󢽃ԇDEWAYS I侖H꣩qϼIGATURE OE勄쑑숥MgӇ华FzōPy񜘅Mz񊓁AyARCHAʨMaSYLOTI NAGRI̥AuInSIGN DVISVARAnǄUuEuOǓHASANTǎKOvHOuGĨǼANU䝊CȂJĪTTOwİDDĲTƚDĪNOuP",
  "łBĪMOuROuLĨİSOuϠVOWEL ГyIyUyEyOOnPOETRY񟬁-1z2z3z4ԴLӠNATE嘅=A830aNORTH INDIC FRAC񠪁ONE QUARʈz笡vTHREƖSvǸ󥷄THz򔇁HțƷSmɴ՚mPLACEHOLDƅRUPEEŒɀոITYŪ=A840aPHAGS-PA 檥ArHAqGAqNĘCŢJŠYAqTŢDŠAqPŚBAqMƸSAsǁZAqWAqZHArA譤AqʰRAqLƀƲȰAqIqUqEqOqQAqXAqFѠшEEjSUBJOINEDՕWAz YAjŬTTгԁԈ沧ИVOICELESS иvD йSPIRATͨFA䭏RAlPERFIXEƗюCANDRABINDUjSINGL󥴁D暂j쯤ƇġұD|=A877樇ǂɳǺǰ80aSAURASHTRA 隊qVISARGAlԤAtAsItIsUtUsVOCALIC Rz RĘLĐLsEtEsAIsOtOsAUsKAtHAsGĪNGAsCŊJŻYAsTTAuŐDDĲNNƈǚDȊŰPłBĪMAsʐRAsLAsVAsSHAtSչHƈLAlCONSONANT 닄ARUlꒉAwIxIwUxUw圧ĳļLĴLwExEwAIwOxOwAUl˲VIRAMAq炨=A8CElDƀAm槣ś򡀅rONErTWOsꌡrFOURsIVErSIXsEVENr꜂rNINE͐E0򀡇DEVANAGARI DͶzT ΀ĨΐĩΨũιıIVũϠĩϹĸЊĸЙv硅zĠUġKŒNĪPĪRĪVIv昣VAGRAHAaDշǂSPACING鉉按敥貣䒩械妢DU姃ŀҮqPUSHPIKAlGAP FILLERlCARETl鳁𨮂lջIDDHAMlJAIN OM閆Y翪YaKAYAH L檉pONEpԐqӱp楡qIVEpSIXq桡p栢p柡j텑SŢZ텅qHT턈M틢B춂Y췢WȠH츂VAqC컁OEqIqOOj唃UEpEpUpՈOj񹖁PLOPHUoCALYAtŬj姂CWIoSHYAaREJANG 厦oGAoNĘTAoDňAoPAoBAoMĄoJƈYAoSAoRAoLAoŘWAoHǰBʩGApDApYȨAh杈IsUs뫂몂EUtAh궬NGxwRwHh篣=A95FhSEC񹸅aHANGU",
  "L CHOSEONG TIKEUT-MIEUMxPĨPxSIOSxCŐCqRĨL-KIYEOKwSS˘ŜʳƓŜ̒w̒ƻœKAPʈUNǃϙwϚwKHİKHqʺ-䫪Ȳqʊ-ő-TəTHʝwıHqЪǺɒqĠNG-噢䐩Ѳ-Ƃv̈́qPHʉH-ȳĪъʋՐRINƪ=A980aJAVANESE沃PANYA璁oCECAKoLAYARoWIGƱj麅qI KAWIrrIqUqPA CEREK閁 LEȘz RASWADIqEqAIqOqKAs SASAKtMURDAqGŸŉ鰃CŬ𭯄ťŀAHAPRAN齤TAt ƗDDűȏʽTͶDAsȆꙣǖBŎM꜂RŸAGUNGꡄSͬu˵sqHAꊣ挂 TELUj韨TAR˨vOLONGuWULUy MELIKuSUKŚNDUTuTALIǸDIRGЂEuPEPETj鵌KERETyPENGKALyѰRAjPAŨO灡FT RȀ璡NjR잁ſȰDA ANDAPoMADYAoLUHU砡Ӹo̚AToԡSApUĨIoADEGs ĩoPISELEHj𻳃͚ƛ薁CFԢR̡EPj𣠰̨DEjκTIRTĨUMETESoРN-ġaMYANMAR򝢆AN GHAuCĘJĘNNAuBHAi攁ǫSAWi𿸇ʷREDUPLICA쑡iǌTAI LAING NYAzFAzGAzϸzJĐİDDęŀиiɟ嶇yONEyTWOz嶁y嶁zIVEySIXz嶁y嶂y嶁丯LLAzϸϱBĐHA=AA00aCHA򞌆mImUmEmAImO󓸃GĪNGUEoAmɘoŨJƛHƙoJ󔫄DƫUEnŘD󕊁PƒBĪMǂBB󔍁R󔷁VAmSSAƨHAf𳈉qIrIqE믡OErqAIrUqUEf铬YAuRAuLAuW夡40f墄FINAL KsGsNG䙬ǜNG䕫CHsTsNsPsYsRsLsSS䛓Mz Hш50f爇lONElTWOm爁l爁mIVElSIXm爁l爂l辡ˉC󗉉𼪁LrDꘁs𵠇rTRIPť鉍KHAMTI GAwCAxHAwJĪNYAwTTAyŐDDİƣAwSAwśFA钪͏铰ǟXAwZAwRAjOGOGRAMƽOAYyQNyHMiSY󊔁AITON򖍈vONEvTWO΄ȄRꜤPAO KAREN Tȸ|=AA7C崆ȉ雇Ȋ-2zĠ5i򫹇̘LAUǸCHAz򡰂a",
  "ʡVIET񮆈KO򜙁ĹŲHŽHƅƏƔGƄGųNŽNƄCżCŴHŽ˼SżS˼Y˽YƃDżDųTŴTŴHŽH˼˵ųBŴBųPŴPŴHŽˬFżFųMŴMųYŴYųRŴRųLŴLųVŴVųэфŬOjMAI KANGj멃AApIpUEqpEpǜHITǜIAǈAqApAȀYqNqM𸕂ȱEKsNUENGsTHOsSONG=AADBj踄KONqǲqSAMqHOԨIqKOI ĘaMEETEĮYEK腥EuO𧅁NYAuTTAwŐDDAw𧓃SHAvSAn킈IIyUUyAAIzUzAUnCHEIKHANnAĠG KHUDAMoNJIn󔚅REPETI𸑅nWORD䊍䰩񉹃o𹑃B01aETHIOPIC ΦTTHUvIvAAvEEwvOȱ9sDD䊍11tZUuIuAAuEEvuƑ20sCCHHAwUwIwAAwEExwƺ8sBBAu䖬30򂊐BARRED ALPHAtA񙲅-SCHWAtBLACK毆ɓEtE񶀊tLENIS Ft񬧄񫕎tLƚ򧕆LAZY Sz󇇃񠘄TILDEzŭRINGtM䦐N䉰EN仐埪Ozļ񞫈tOPEN䉌咆OEtTURNŊ䐩zŸ򠙌Ǘ Α-OŎ䮋STIRRUP R򇰓ɢ򭚃LEG񴑐OUT HANDLEt柄RtR徏ǥ䍐甥Rz҄浣BASELINE ESHtU񩒇տvBAR䌒uI敥UI˛򲪂񿲂CHIwƜOWʣҒzƋɋSERIFtX䓱񣪂ȱѡ䇍 AND䘛ΚЄY埲񧚆Bꁡ闋ƛj瘩򮽁w體Ƙ驊w戍넱SAKHA YATt󅈅鏅EtUOtУ땥aGREEK 袑񸅂䱑DZ D񩤂򈶐tTS䏙u篂蘁寍杦凋TʃWq廂TACKq淁œ=AB70aCHEꊡE哋AwEwIwOwUwVwGAwKAwGExIxOxUxVwHAxŧL䆉MŦwNAwHNAİHxǿQUAyEyIyOyUyVwSAxxǟDAwTAwDEwTEwDIwTIwDǂxLǀLAʿxS䢉W俩YA𪖑KOKuSAMuLAIuMITuPAuNAuCHILuTĘKHOUuNGĠTŉWȨYANGuHUKuUNuIuPHˠATIYAuG͐JűRȨBAuJ˸DĘGˉDġBǩ҈鿁SUҢŔәŔԐōNōՙƤժŝ˵𫖈ONAPyIġAġYEĩSOUıĢCHEǲNUNGnšKĘnLUM IYEKnAPUNŉ肁F0n𽪆",
  "tONEtTWOuHREEtFOURuIVEtSIXuEVENtE蟁t𽪁D7B0񖑄Jа񖒂O-YĘ-IrYO-AvEuEOrUƚIƙU-AEuOrEĸǈvŐI-YA-OɂvʹtYOuUtIrARAEA-AxсCBiOЅNIEUN񔧂xCHİCHr񗉇zĘ񕑂rƀŦySIOSzĘ񖫃yCˉz˻y񕘃rΪ-ͪȳxĳ-ǹдțKƉKʌ񚀂ȣxѲ-դő񖭃xYESŀNGz񖞅δ񙤄͚r͛Nɑx҂Œ|=D7E淇憦Ȋʒ˄ӳ񜅆r凩xВ֎ʻ̒Ȫr˧ʄ̛y泄ǂʢ񜘊s̉S殇z˵sƙPAN񜸆x͓w渤w怣Ȕ-ͪz䭪r曅Ӄz-ʋ͢ɻx堈Œǚr岄-ρzѴ=F900aCJK COMPATIBILITY IDEOGRAɨȁzĻ1ļ2ļ3ļ4ļ5ļ6ļ7ļ8ļ9ļAļBļCļDļEļFĻ10ļ1ļ2ļ3ļ4ļ5ļ6ļ7ļ8ļ9ļAļBļCļDļEļӼ20ļ1ļ2ļ3ļ4ļ5ļ6ļ7ļ8ļ9ļAļBļCļDļEļӼ30ļ1ļ2ļ3ļ4ļ5ļ6ļ7ļ8ļ9ļAļBļCļDļEļӼ40ļ1ļ2ļ3ļ4ļ5ļ6ļ7ļ8ļ9ļAļBļCļDļEļӼ50ļ1ļ2ļ3ļ4ļ5ļ6ļ7ļ8ļ9ļAļBļCļDļEļӼ60ļ1ļ2ļ3ļ4ļ5ļ6ļ7ļ8ļ9ļAļBļCļDļEļӼ70ļ1ļ2ļ3ļ4ļ5ļ6ļ7ļ8ļ9ļAļBļCļDļEļӼ80ļ1ļ2ļ3ļ4ļ5ļ6ļ7ļ8ļ9ļAļBļCļDļEļӼ90ļ1ļ2ļ3ļ4ļ5ļ6ļ7ļ8ļ9ļAļBļCļDļEļӼA0ļ1ļ2ļ3ļ4ļ5ļ6ļ7ļ8ļ9ļAļBļCļDļEļӼB0ļ1ļ2ļ3ļ4ļ5ļ6ļ7ļ8ļ9ļAļBļCļDļEļӼC0ļ1ļ2ļ3ļ4ļ5ļ6ļ7ļ8ļ9ļAļBļCļDļEļӼD0ļ1ļ2ļ3ļ4ļ5ļ6ļ7ļ8ļ9ļAļBļCļDļEļӼE0ļ1ļ2ļ3ļ4ļ5ļ6ļ7ļ8ļ9ļAļBļCļDļEļӼF0ļ1ļ2ļ3ļ4ļ5ļ6ļ7ļ8ļ9ļAļBļCļDļEļӻA00ļ1ļ2ļ3ļ4ļ5ļ6ļ7ļ8ļ9ļAļBļCļDļEļӼ10ļ1ļ2ļ3ļ4ļ5ļ6ļ7ļ8ļ9ļAļBļCļDļEļӼ20ļ1ļ2ļ3ļ4ļ5ļ6ļ7ļ8ļ9ļAļBļCļDļEļӼ30",
  "ļ1ļ2ļ3ļ4ļ5ļ6ļ7ļ8ļ9ļAļBļCļDļEļӼ40ļ1ļ2ļ3ļ4ļ5ļ6ļ7ļ8ļ9ļA|=ĨB𹶙ȁɴCļDļEļFĻ50ļ1ļ2ļ3ļ4ļ5ļ6ļ7ļ8ļ9ļAļBļCļDļEļӼ60ļ1ļ2ļ3ļ4ļ5ļ6ļ7ļ8ļ9ļAļBļCļD=FA7ѣĿ1ļ2ļ3ļ4ļ5ļ6ļ7ļ8ļ9ļAļBļCļDļEļFĻ80ļ1ļ2ļ3ļ4ļ5ļ6ļ7ļ8ļ9ļAļBļCļDļEļӼ90ļ1ļ2ļ3ļ4ļ5ļ6ļ7ļ8ļ9ļAļBļCļDļEļӼA0ļ1ļ2ļ3ļ4ļ5ļ6ļ7ļ8ļ9ļAļBļCļDļEļӼB0ļ1ļ2ļ3ļ4ļ5ļ6ļ7ļ8ļ9ļAļBļCļDļEļӼC0ļ1ļ2ļ3ļ4ļ5ļ6ļ7ļ8ļ9ļAļBļCļDļEļӼD0ļ1ļ2ļ3ļ4ļ5ļ6ļ7ļ8ļ9=FB0񲅄򼤋FFwIwLwFIxLvL񑛁 TvSTʈ13aARMENIA䚎ƨ NOWzİECHıINIyVEWƩyǩXEH̑DaHEBREW񞓄YOD񯀃IRIQhPOINT JUDEO-SPANISH VARIKAhўYIDDƸˑĚPATAHiͲ򺘅IVE AYINoWIDEƨEFtDAҐtHEtKAFtLAMEDt򉪃EMtRESHtTAVo䠉PLU󠵂oSHIN哃ŊDOTzĳyDAGE՘ANDǗAƗƋoԁ˺喃yQAMATSyMAPIQoBETǛ͛oGIMEL䈪DAL䑬HEų̋VAV䎪ZAYӀƏ漡38oT䢌潣ſ懃KAF䊪䇭杂䮍EoMEM䊌40oNUN䝪S˘KH䓭3ӌPE䖊ŵɇ6oTSADI䒪QO友RES䰊睥ƇT斫枧HOLAM燇RAFE徢ůPEŧi釥箂抢aARAB󈵅ǃWASLA ISOL򾩂ORMz巂őѩEH䎫tǯtINITIťЀIʵP䚭sʯsʪťʩѧH䛭uʿuʺť䛩TT䜏vˇv˂ťMˇp𑯲pT𔓱V𔓱P𔓳DY𒤱N𐶲TC𒥱t䚍wʧwʢť孊DAHAL緖pǩ其pUL炶pDAL徖oJ矸oRR書oK𗄳GAF𘲢|=FB95믬˩雉U𘑲GO𜤱OON GHUNN쮭 曉NȰ𔘯HE𥄃YŀABOVE䲌ƭͧsGO箭xǯxђťMїsDOACHASHME䱭ƐЅſ̽Ə囩YEH򕈁䥮F̷嫢HAMZA嬬䏔˗h򜐃DOTǛsBELOWoTWOƙSƣ",
  "xƢpHԡƯzƪz𳠁INGǈWNWARDǴ䌑ϣFOUR ̿yƫ򑒃VERTICAL庁 冋ǞLYДŵɄRѨo򈠃AH䮪𪴁Ƌ=FBD3h鸤NG斋r捧r猉r物U䙫qʟoOE䧶oYU䍯Η碛oV䬘KIRGHIZ O葷wYU䍶oE姶q恩q恪IGHUR KAZAKH Ԍ𰠂MAKSURA鬋䒔鵩i𼏅EH懎Ƃ˒ꩬ䑲것䐕E䡞E䠚WAW̎䑗䡚U䠝U䟚O塞O塛Y倞Y倻倞E䟜謪覣营耗谊倬𐺨卦䛿驷i졃FARSI 𴅍yЗyʪť𛱪JEEM浗ʥH䑝M䣏歺莼巏qBEH嘶吏K䉏呐券倏T𒀸𒀿rH倘瀑渙氐Ω緦䯟qHA凗䗐K䗹𑲣SEEN𑃩K𑗡rAD弆够DAD𘇾譭AH𒁧Zɬ摑AIN𖕨GH䘘|=FC2C𿃅즅ʚ倖F𜦹𞧿QAF楲𑚿KAF𰧕𓮴LA瓊𒥿Έ𖁷𒀿˹𞦼𣐿NOO𠭽𒆿Hꈕ𕩿Y𝬺𬔿HALԋSUPER󆜂ꏐqREH𐧡侩𐰡SHADDɔDAMMATAN囌ǈKASR䌳FATH峭͕䣲抮呿𵾖REH𻇙ZAINȃ𵸗䐚NOǑ𶖟䔚Y啥𶐅塲噍吭刍俵䷌T𑮦𑮿rH䷔爮瀮渮氶樭Fҝ呾𫩊䗿𪾏ǃ𪃅桘晟𩷋𐿳ʱ叧汴𧚆𖞪𖞿퍟ɫ빬闿𚯿z񇘑񟻄񇗖䐼KȖ퀘䳿E̤읈咕与偏丯䰎T䰒𑠿쏈忔qґ毴䖪񅅏僗񅃐䭸𾾅AD𾾍SEEN䢕噐K墻񅀊𕜫񅐉𖬿񅌌ɟ񄸍ʧ񄷍烿GH䗘䮱F𚏻ʧ񃣎蚞AF𑻷LA憾Ȑ䰐𝬿𨘍𚱿𩁌𑓿Ɨ在𿻏廽𹄌ǭ𿪑𕥿𧙠ĠD𧘙ȁ𧗈䝔䔭T𐩤rH䔶 ɗ񘞆䕼η䕷HɥꡏLA䕋˝ꅭί踐够YE掿񃽋񃉄Ǭ񃇉ƥ񃅉Ƣ𤳎񇽩AIN𐵯GH𐷠񨃊簌񎂥綆𑰲HA拟񥉕哟񤢏𐷰SAD𒥯D𐵱SH񦃘񰫑 K䊑M䞱R睎Ѭǒ񦵓R孏䍗TA񅣤鱑䗿GH䘾H ʜ훮񂊟騔䲟H𓸥颍功韍䘿霑剿D𐯥閒Ǔ锨䈋K䈮M䚎RЅ鎫ƿ鍌埴R哷𿅏D2E𿅍ʒ񇆋奋𺕖垮񃞎䍑ꠌͿ飯J𫢍ր䈋Kƌҟ䞷H˵Ə˾匓䌪Z䌶裡𬼇TAN闉Ʀ졫aORNŠ ˘T PARENTHESIShRIGH䈪皮RAHIMAHU ALLAAHsDIŊƊNHzļAAōUMŏAƯNNAqSˀ˞LAYHI WA-AALIHqżAS-SAȈMwMşxAA ǇŖTU WƶqQUDDISA SIRRAHѝ䵊ъEEҡǲMҫAϯ牁BAARAKAȩTAAƩq恥M彄񎬊񑔖H뤓Ǉ䙱䧕K䍸Ɖ𾵘꺲Ǘ꾰q嬪̇越䭗q喊񦌉Ӧ𦭕뎏昸 񒼘𨑞容䬘渙ǧŊ䩳񒑚ņ蛌磼҇퐩ʦ剳ǒ顶 J短Ǘ蟊䍴𧘖җ䜵񕷗𮷕ꖳ䌳񖇑鹹ꦿ됟𶬔J扎箷丹ꯛ𷷑燼耗䱳񰟑𖏠񘴒燿ȗ񯛋鼼ǀ嬒讞J",
  "뾰䍳𚒽z𚉯qǑ𤸝뻙 捍𥭥䨶K兙怘=FD92zϟə񚲔𬆡񝙘批칷怔䍘𪦭낷낔񷗑𡉱|瀡𿍎B묯򃾒𩂗廿K鄕K熾𱸷Jȍ滘膿𳠨姗𰝔񍟖燵D䡕񬕎杘Ǉ豑윖𑒮M炗𨞔ȏ묲䡿ɖ񰮓H񶍙兼K𒭧J𧜠K礝캳շ슳䣿噟ꦭ灻ƾJ膙䑜FEH毜B针琿紘殟SAD䤾r뾪舖廛=FDCFq񊼂U񋬃NAAưF0tLA USED AS KORANIC STOP SIGN򲂍𐬧ALLA񣚌KBAR䓌MOHAMMAD񧻍򱀍qRASOUL䳎AYHE䊌WA˸䠏Ƣ䉫vƈHOU ̴˅qJıJƨLOUǸaRIAL岢𫣎ISMI̩ AR-RAHMANŌEEҐUBHAANAHUϘ 񐫄AZZAŹЩaVAϠTION SELECTOR-1t2t3t4t5t6t7t8t9t10u1u2u3u4u5u6aPRESENTʲ壢ġ󠄆COMMAzśIDEOGRAPHIC䋶FULL礂z˽LONŜSEMI䇩EXCLAMӋMARKƴQUES䉬񙉂WHITEŐNƘULAR BRACKETȜRIGH䒓KCȦHORIZONTӱLLIPSIS=FE20aCOMBINING燦ңHALFtϑœk󤥃TILDEȏxRȏMACRONǟrRǟCONJOгȳk䶯󥋂ҜƇkTҗƯq䓍Ӵ䓭r䓭兏ƻlYRILLIC TITLO̷ż虽󨮃˘ADER綅M DASHŭN䆩Ұ LINEŴWAVY䉬񡊍繨䋬ɷCURLY蒐䌮ʗTORTOIS񨽁LL䝰䑗̧BLƐ铻䒙͇赤ANGLE䢐䐔̇䜷䙗CORNE噑䍍댮䏬|=FE44蕷Ϗ䟳aSESAME褡aǻƇ䪷劈SQUAR徱Ǖю酁ED O˸蹁aCϐREőƟ銁ů漄䊊b̪霂䢬ƚ̮ůSMAL𥢃g𥜍g𥊅=FE54g𤽅gī𤦉g𥋌h귃gꛭg꘮gꕯg꒰gꏳɿ䎖NUMBER𫲁gAMPERSANDhSTERISKgPLUSǛHYPHEN-MINUSѨSS-THANǛGREAʀ-ƏEQUALˋ=FE68gREVERӡOLID̈DOLLAҴҠ熡ţ殡ŸIAL AT˘70𮉃񳍓hTATWEEL񴆊򗥂h󅐋ʗIL FRAGMҰh󅛒ӑ6h󅝏n񶀇Ђ䏸Ϛ䏹򓿁䐌oMȇiUKUN䟸L󭣁󆗁䢭񸛆MЙ戣󌫌Ǉ󮎇ͩ䗴ǇɿoWAWу䜗䛬吨ˇ𫡂丬Ǉ䜩YEH𑱰Ƨ񘎊Ʒ歨o󌈎tFԗB򎚌sǧsϪť䩩TEH쀁BUT򔗍F˷𑗭pHEH啖tʪť冩JEEM𐶯HA𓺰K",
  "HA𒣰DAL䶖oTHAL瑗R瑘oZAIN䝗SEEN𒬮pH䛎uʷuʲť䛉AD𕏯D𐵱T𖻱Z𐵱AIN𐵯GHAI𕄯oF𞐱QAF𛋰𐵱LAM𐵯M𞤲NOON🛰𕅱WAW괷򦟗A𧔉𑺰i񆠄񚞅𫷠䑲՛ȇ𩡖䑱䢐𫟚䑸䢌赬|=FEFC񒟅怓̏ɩFaZEROǰDǸNO-BREAK SPACE=FF01aFULLǪ񏶍kQUOTAŷ𸯇k𷄇k𷄈k𹈅lPOSTROPHEk𻫌k𻫍kA𹶃k𹶅k𽬁k𹼈k𽹅k𹌃kDIGIT 屁qONEqTWOrHREEqFOURrIVEqSIXrEVENqEҙqNINEk𾧁k𾷅k𻓊k𻁇k𻟍k𿞉k𺳉kLATIN CAPITƀ𶡃AzĻBļCļDļEļFļGļHļIļJļKļLļMļNļOļPļQļRļSļTļUļVļWļXļYļZl񆼎k𿜋l񇅏kCIRCUMFLEX AC蔡k񅨄kGRAVEƫ枥SMAL杨朣曣暣晣昣旣斣散攣擣撣摣搣揣掣捣挣拣抣扣戣懣憣慣愣񆙍k񋢄嫣񆧏񘦂k񎖆ꈮ䋰aHALF뎢񟌒k񐚏Ӣ䊎񋆍kKATAKANA MIDDL񎾁tL聄Oz烤AŅIŅUŅEŅɦYAŎUŎǮTUs-HIRAGҙPR꼡GED SOUNDꦂs级ѰрАϡKAĘIĘUĘEĘΑёIĘсՉƘTAĘIzрĘEĘƘNAĘIĘUĘEĘƘHAĘIĘUĘEĘOzӸĘIĘUĘEĘOz姁夁塂RAĘIĘUĘEĘƘWϙtVOIC壊t쬁-䋎kHANGUL FILLERrL름IYEOKySSǠŜĳ-SIOSyNIEUNzġ-CĨCœHĨHyTIKEUT˓ŜRǀLzġ-̫śMĨMœPĨPŒЂŋT΁THȌHȑţь˺y˒ѳŒƃ̲y͚ǉŪƸNGy嘂ɻœCHıHyKĹKHyҴyҌyѢ=FFC2yAzEyYAzAEyEOzƑAyYEOƠOyWƲOEƨD2yYOyUyWǑzIyYUơAyEUyYIyIŠE0𫟇𪤆P犡œNOƜ񧶃BROKEN BARkYENǓWOŃ΁8뉇𭣁S L귂뿥눢WARDS ARROWkUPWů덢䏊DOWN䇩񡾁𥁃k쇣CIRCLEӠF9aINT񛔂AR ANN𮟃ŐCHORxSEPARATňȨMINőaOBJECT REPϐEM悁CHȰCȘa䊲=10ĀaдB SYLLABLE B008 Au38 Eu28 Iu61 Ou10 Uu01 DAu45 DEu",
  "07 DIu14 DOu5ƸUv7 JǠ6 JEϚDu3ŘOu65 JUu77 KǨ4 KEu6ŘIu70 KOu81 KUv0 MAu13 MEu7Ĩθ5 MOu2ŘҨ6 NAu24 NEu30 NIu52 NOv5 NǠ3 PAu72 PǠ9 Pː1 POu50 PUu16 QǨ8 QEu21 QIu32 QO叡28u60 Rπ7 REu53 RIu02 RҰ6 RUu31 SAu09 SEu4Řψ2 Sψ8 SUv9 TǠ4 TҰ7 Tː5 TOu6ƸUu54 WҰ5 Wː0 WIv2 WҪ3Cu17 ZǠ4 ZEƊFu20 Z姁A2u43 A3u8ŘUu71 D̀90İOu48 NΠ29 PU2u62 PӐ76 Rʨ33 Rʰ68 RO2v6 TƘ87 T˩1 Tӓ50lMBOL B018t9s22s34s47Ő56s63t4s79s82t3t6t9ʁ80j𩐃M B10瑡N夂Ĺ4 DEERv5 EQUIDwFǠREwM STALLIONv6F EWƉ˰v7F SHE-GOATƈŌv8ƨOWwϨOARv9F CūULL扡WHEȠ1듁LEYӈOLIVEv3 SPICEӐCYPERUSjMON咥2賁POv8İNAKO堩30 OIL΀WINEv2ʱǖ3 AREPAΠMERI䚩40 BRONZEˀGOLDv2ȠWOOLv6u50ƠHORNƠ3v4|暡A4ꩧMЏ56 TURO2ϑƞ7v8v9 CLOTHu6͘v2 GAR듡vցMOURv4v5v6vɊu7ȘёρTHǐΠREEǬ8ǬʑŰ9厂ELMETt220 FOOTST圁5 BATHTUB꧁SPEARv1팣ϢSWORDϡu4炂ELED웢IOTv1Ŏ2ō FRAMEv3ɛӘ6歈24쓡PTE弁ƞ嗁5善 DART岇sVESSEL揁5zB200ġ1ġ2ġ3ġ4ġǪ6ġ7ġ8ġ9Ġ10ġ1ġ2ġ3ġ4ġ5ġ6ġ7ġ8ġʉ21ġ2ġ6ġ7ġ8ġǩ5͸305=10100aAEGEAN 摁 𦉅 縡wDOThCHECKꅡKɺ7h񅏃ONEoTWOpHREEoFOURpIVEoSIXpEVENo񂷁oNIȩENpWENTYpHIRTYɠRŘIFTY",
  "ɱTYʀǩʓYʚİϸ HUNDREDйŝѹǆҺǍӸǆρƽϲǅУŭјЯҊTHOUSANҒťҚǖңǝҩǖҲǍһǕӄŵӌѯEɏ散Ŷ暃侩űӷFŪӿűԏ͕ԟŻԧTſ簁37hWȲ BASE UNIToFIRST SUBŪSECONDŶTHIRŮ换THŵhDRY MEASURE ̪ǎLIQUID䎔ƭ䵋p䵊aGREEK ACROPHONIC ATTĨ碡QUARTERzE򉪁İDRACHMAxFIVEzFTYz蕇z矨z榈ǃALENTSxTENŝ̘ȨŮ铈 ȏVƧɇо䔪䊯ӁSTATERӂŜӄŬ伋ȏӇɇӇƧ踉䰋䕳MNASrHERAEUM ΉPLETHRONrTHESPIANƩȉMIONŵEPIDAUREAѠWOɔŤCYRENAICš珥S䘬ƿTROEZEς硢ǹENĴ ALTE󠢁򱌁ԮǫrMESSEŭԤ˼ Tꮢsϯ恢zŅ䬳ɇͫʿ 犨Ϡ합孉瓩孋ƿsϊ䖍CARYST䋎NAX䉭猉鰨 蹊rDELPHICƪ粃STRAT娦ƚgONꤣ񁎁t抌g甁덂SǺhHRE끆ƓgYEARŋ鱣ś箤ţOBOLȒͺũ䧉ſg챁䏩IV䏊METRETEŬKYATHOS𣌁ƋLITRҕUNKIŜXESʦARTABɳiOUɭGRAMMŜTRYBLION οZEROγ퀨ƃSINUSOIDūINDICTˠŲaNOMISμ=10190aROMAǨEXTANSʣUNCIAͬEMůiXTULǄDIMIDƹEƢӝLIQUȍENARIUΜQUIųμ怡RTžDUPONDŶAļCENTU򩴇SՒYMBOL埁A0𦘂Ɣ TAU RHOǑD0aPHAISTOS DISĈ PEDӀ΀NuLUMED HEADtTATTOOŭCAPTIVEuHILDtW採t𸆃GAUNTLŀTIARAt𷲁tBĘSHIELˈLUBtɸACLESvΘCKtSAWtLIDȰOMERANGϸRPENTRY PLANEtDOLIUMtCOMBtSLIȉOLUMNtBEEHՀϩPtHORNuIDEtBULLS LÉTtRAMtEAGḺɐTUNNYˁtϚ TRŐVINŸAPYRUStROSETTEtLILYtOX BACKtFLUƐGRATERt뉡ʈRu񛜂XEtWAVYɀNDt򩨆OB絁E ɨOKE|=10",
  "280aLYCIAN񚣅oEoBpHoGoDoIoWoZoTHoJoKoQoLoMoNoMĠNoUoPoKKoRoSoTpToANoENoHoXΙA0aCAR䩪P2oD˸UUUʐLDoA2͸B͸OoD2oToSHq2poC-18oUϱXрTT2РSS԰EoUˑKp2oNDoňGňSTqŰGoIIˀ39ɸȩ2oRRoMBq2q3q4oLϨE2ƹ3匡E0bOPTIC EPAC𵫆S𺽁n񭳂ONEtTWOuH烁쥁u秢IXuEVENt𳺁tNINEn𻧃TENv𶑁v𨪁uFORŘIFŐʨŐʹŠˉİˑİ𨇇uѰŝvҰǇӱǎIVǆρƽϲǅУŭјЯ=10300aOLD ITALIC玦sBEsKEsDEsEsVEsZEsHEsTĘIsKAsELtMtNtSHsOsPEsSHɠUs蹡sTEsňKSsPơH˸FtRSsCˑIsUǘSSlNUꡡL櫢FI鷡ENtF揁։2DlԴYEsNORҰRN TSрOUŦaGOTH嘨HSAoBAIRKANoGIBAoDAGSoAIHVUSoQAḬRAoIUJAoHAGLoˠ͠oEISoKUSMAoLAGɈMANNAoNAǘSoJERoURƨP˼񁧄RAIDAoSAUÌEIWSoWINψFѸUoIGGƈHWʠoOTHALo溍5溃PERM塈NsBURsGAIsDOIsEsZHOŐĪZATAŐITA瀡OKEsLEIsMENOEsNĪVOȰPEƨRĘSIIsT̀U漡RYsSHǰuCHȡYRYtERUsOtOsEFsHAsTSIUsVERsYERvItATsIEsYUtѠAa앧噑zĨDOIı呡ĹպŁԠ嶁80aUGARITIʿLPAqBETAqGAMLAqKHAqDELŸHOqWOqZEŒĠTETqYODqKAFqSHINqLAMDAqMEMqDHALqNUNqZUqSAMKAqAǸPšDEqQOАRASH̘HANNѐHǹTOqIqȘSU卡9Fj񋃁DIVIDER犥SI񼂃 ArIrUrKAsUrGġXArCArJAsIrTŹDňİАrPArBArFArNǁMǃYArVɡRƙLArSArZĨHAsňHAԙC8rAURAMAZDAAzAA-2Ġ͸XȨAYATHIYAиHYAAUSHzH-",
  "2иաUMISHm埩m쿣혆ENu탂t轧400aDESERET񾽌LONG IzĠEġAĢHĩOĢOxSHORTȐĩEĪAīHĲOĩȹAYxOWxWUxYEExHxPĨBĘTĘDĘCHĠJĘKɀGĘEFxVŰETHxTHŁSxZĲHxZźRyLyMyNzGxOIxEWiSMAL园ֈհՙՀԨv喥TǈTǐTǙTǠTǩAYvOWvWUvYEEvHvPĨBĘTĘDĘCHĠJĘKɀGĘEFvVŰETHvTHŁSvZĲHvZźRwLwMwNxGvOIvEWaSHAV𫱇ЀPpTOTpKICKpFEEpTHIGHpSOqUREpCHURCHpYEApHUNGpBIBpDEADpGAGpVOWpҠYpZOOp񋨃pJUDGEpWOEpHA-HApLOLLpMIMEpIFpEGGpASHqDOpONȠOLpOUTpAHpROARpNUNpEAŸGɨCEpUPpOAKqOZEqILpAWEqЀORpAIRpERĸRRAYpEˈIANpYEWaOSMANYA먧EFpBApTApJApXApKֈDEELpRApSAqHIINpDƘCAYNpGApFApQAAFpKġLAΨMȑNUUNpWAWpɐYApApEpIpOpUpAŐEpOO顁A0i򌌆o񙔥ˑB0cAGE鼭AwIxNwHvBRAvCHAvEHĨwwINvİYAvIvKơĠKŨLAvMAvNAvOȉPǉĠSAwˈTũTĸSłSŉưDĘUvW˸ŀGĘZɩցD8g馊AuIvNuHtՐtԠtՒuuINtİYAtItKơĠKŨLAtMAtNAtOȉPǉĠSAuˈTũTĸSŁĩՑtDĘUtW˸ŀGĘZAuՒ500aELBASANզpBEpCEqHEpDEpNDİŐEIqpFEpGEqJEpH琁ĸKEpLEqLEpMɀEqAǙOpPEpQEpR观S̺TĪUpVEpXEpYpZźGHErAMM蛁EՑ30aCAUCASIՠALBANI动LTz BEĠGIMz DAňEBz ZARLňYNŐHIŐTASz CHAz YOWDƨőIRɐSŉLANŰNYŐXʪDYƉCARz JHOXz KőLYIЀHEYĨQAYz AORαOYĩIĠYƩMAQǸʁNOWC͠ZưъKͰA",
  "ϹOĘTƪFAMȉA̒AπPEǘGРSz RƁSEYʸVEYZʘIWR͈ҊIWNҊWĨ΢͸D˸Ȑ|朡63朸KIWȚFtCI򛮇aVITHKUQIꋮyBBEzEyCEzHEyDĪEIzyFEyGA͉7CyHAzHAyIzJEyĐKAyLAzLAyMEyNEơOyPEyQAyREʁ8CyS̲TĪUyVEyXǊ94yYyZœ7jꉫw԰xEwCExHEwDĪEIxwFEwԳA3wHAxH룁JEwĐKAwLAxLAwMEwNEơOwPEwQAwԳB3wS̲TĪUwVEwXǋBwYwԲ6򀗆A𰌃B001s2s3s4s5s6s7s8s9r10s1s3űr2ŐtFtMs2Ī3Ę4Ȼp028BpB029r3ɹ4ˤ4ţͯ5ͨ䰌6ƐųŠ70ǩǞ8Ǚ2ǫp100-102pB118՘p120BŠ22s3r31AtBp131Cƈ64r71˙8r91p301r2r3r4r5r6r7rƠAsBsCq10rǊŪ䏉q2ǌ䊊3䊑4䊑5䊑6䊑7Ơp400-VASr1Ī2Ī3Ī4Ī5Ī6Ī7Ī8Ī9ĩq1𐼱p5抩ՙ懆Ɓ怢忲徱5廴Ɛ6䰩7恑8䊑9я8p60Ȗ啌皔Ɩ34Łq40嵌5珙=10740p701 Ar2 Br3 Dr4 Er5 Fr6 Hr7 Jr8 Kr9 Ls-2 L2t3 L3t4 L4t6 L6q10 Wr1 X˨Y˨OMEGÄABB̘BB̀DDq26 EYYYq32 JEҙ60p80嬌ƹ80aMODIFIER옥쟂𣍅AArUPERSCRIPT 񘷁G󣯁򬓁zP󪓂䌎r̢AEw̽BwB򳅃OOKӊ7wDZ DI򡭁zļȓRETROFLEXɢ䍪򤬁xEZHˍxƳTAILzϵņ ANDǒw򪀃D ֈLOŁƎOPENưFENGΥwRAMS̈RN埦GwG埧Ʈ䉩HŚ񘍃ȎHwHρȷDOTLESS J䗉唁ǳLSԥxZ屬BELTξL ƟL曑Αǲ斡z欲wTURNED YzĪ ΏO奲OEx杢躃wQ˽Rɪ񁋂LEGz䉰թ侭R睌FISH殪RwTC 羯S𘵠xES葧徒Vƪ󩑂銦B2ӮYqGLOTTA򭂂戉q蝦䐶BILABIǈCLICKqDENTŦLATERŮALVEOLARŴ咆Ż圱q됣S扇=10800aCYPRIOT򞈆ArErIrOrUrJAȚ8sO",
  "ĺArKAsEsIsOsUrLŗMŗNŗPŗRŗSŗTŗWŒг37rXŰŒCrZAłFsOaIMPERI쮡RAMA񓛈EPHyBETHyGIMELyDALšHEyWAWyZAYINyHƉTġYODHyKAʐLAMEŘMEMyNUNySŰKHyɲPEŰD̈QOɀRESHySHƸTAWչ57rSE񰞆r񐅆yTWOzHREEzENz񐊁y񹭈񷤇y񿝈aPALMYRENE媪r媡r媢r媣rHErWAWr媢rHƉTġ媡rKAʐ媣rMEMr󆭂NUNrę寣r˂PEr寢rQOʐ寡rSHƸTAWmFT-POINTING FLEURONk鷡䋐廧rTWOs廡rFOURsIVƈENs怢aNABATAE𼖆匂屄īƋBET幯ǥHE徑ǿ恂ĠŽ憢KAϦ挄ĳ|磁92单MEM𕁬е棡榆ЩA7擶kCRUCIFORM Ȕƪŝ梪r裨αE0aHATRAN蘪o枡o枢o枣-卡oHEoWAWoZAYNoHȑTġ斡oKAʰ抣oMEMoNUNo崣oɩPEo崂o崁ӁF4o寁o寄FB򙬈FIV򙋅򘟊aPHOENICI嘩FsBETsGAMLsDELTsHEsWAUsZAIsHǀTĘYODsKAFsLAMDsMEMsNUNsSEMKsAIN񬍁ADEsQOFsROSHsSHƨTAUl劇sոtպsOտsTWOtHRE촡91Fl򝚊aLYD唩oB񶍁EoVoIoYoK񶈃OoRoSSoToUoFoQoň񶇄LYoNNoCϡ3Fh𳩆򞤄980aMERO񦥁HIňGLYP񭠈󊌇I󉜇YǃWĳBĵ-2łPŻMĳNĴǭNEĴżRAĳǽLŻKHĻHļSĴȵSEȳƳQĳTĴȥTEĴŽOĲDAw򁴃VIDJzŅ-2jCURSIVE忦yEyIyOyYAyWAyBAyPAyMAyNAzEyRAyLAyKHAyHĘSAyARCHAIC SŨ񌓁QAyTɈzOyDA涡BCrFRA𦲂EL򟴂WELFTHSz 򌹄rLOG򨫂RMTz IM𧙑y둡zIVEySIXz͑y񛲁yNIȩ𧷄z񺉁ɠRŘIFTYɱTYʀǩ剡D2y釨ϹŝйǆѺǍҸǆ΁ƽβǅջŭ勡ʟ򑧇ҒťҚǖңǝҩǖҲǍһǕӄŵӉ𫰔z򤿊斃ɗ򤿊柂俪űԏ͕ԟŻԧTſ湩ƥ澊截䕎燋搩䕎琊昫䕍癌栩喰饆霡飥zŀOťS򛗄ſ稃ŷIV䎩穢ůꐌ竃ſ竣їEɧaKHAROSHTHI",
  "뤦lVOǨ񗒂IwUwVOC򃼁R=10A05wEwOŊCrLENGTH𤣁lɲDOUBLE RING󫄂qANUSVARAqVISARGAlЬKAtHAsGĩ͡15sCƊJų9sNYAsTTAuƘDDĲNNƈȢDĪŰPłBĪMAsʐRAsLAsVAsSHAtSAtAsZAsǨKKͱTHAvǨқ38嚃BAR󮶂qCAUDAqDOT垃ȢFlVIRAMAl򋫁𰔎l칤𪵑w聥l聥힦ϡ50lPUNCTUAǒӀx񎙁󏧃xĳyRESCψ唁xMANGALAMxLOTUSxDϘAy溣ŚxLINESϡ6򅄂򈔁 ARAB𬠇HEz𱂂zHETHzMEMzQOPHzWAWzSHINzҐHzBǙTƑATzKAǸNUNzKʑƐD̠𱸂zFEzALEFzAYNzDHǊ𳓁zDALɡGHǉTőZțƻYODЀHЈTΡs𦾆zF좁vERIC 򟜁ATOReNOR奱H妁zHA夁夡AF夂ES-2zRE壡HӠHƁ1zKǨNOO壡A壂Ʊ3zFEH塤INzDƨG͐ŀLzGHƑTɠZłHƘYΉHEƑ嚩ШȀW𨱃AC0aMANICHAE𷷋s歁t幢攂tHĩs旃𵖂W鎃UDl˄𽆁tHĩsJAş̪Tġ槁sKAϰXġKHĩ糣sDHĻTĻ𶚅砣sͺͲPEsFEs篂sQO͙ġQHĩRE𶲃t𶷃WlABBREVI񬬆ꥃzňꢃ|愡EB愩昆ѐIV𷰓ꌪSTARx񃆃x첄듁WITՀőz䆋xTWOŉSꇢ󥩃ՈB00aAVEST爈qAqOqAOqNqANqErEpEqEpOqOpIqIpUqUpKEpXEqYEqV񷕁G񶒁CEpJ񶮄DĪͨpPEpFEpBźNGErYErVEqˢN񷻁HĘYYЉ͠REpLEpSEpZĨHİHĹǨšHE嗡39i汎aTINY 尥 OV概戣暨a쥣䓿LARGE䓿gƜȂɶ䐪Ơ𧼁̧Ų䢪ƥ̳ʎ刪IN񢌁řAL PARTHIꡌzŒBETŌ츂œ캤쎤Ļ숁꣇ǜȮTŎYODŌKAХꡁƭMEMŃNU̬ꠢǬϟPEǭDԕQO΅꣡ǴHʅ񆟂B58x짨MB摃ń񒩁񉸅ƤENȳ컣ś꣨Ƃ򺯉qHLAVI榋楦楇椨椄棤-岡-塢樇槦槆榦榆楨楄-扢槅榨桄栧斆敨78w敨故攧攆擥擈播撍aPSALԪA族x敁x擂x摃xHEx捊xZőxHǙ悡xKAʸ徣x弥xNUNx帣xPEx崢yHʰ射99qSEC뻦q񦋃䉪封넁񠪄ROSSzŚ",
  "Ʃ̩A9q擇xTWOy採xˁxTENy戂x񒯊C򫷃҈K񋤆ORKHҸAsYENISEI򙏁EsƴIƶIz ƮOzOEǆOƶAB̧BƦEBƯEƷGƯGɟGsɟƷDƯDɟDzEZǆEZǆYɯYɯƮřƷKsƷKƵOƷřɮLɧL̗LzELTzEMzANzAENs·NȥENTƵřƷCsƷCƷYsƷYz ANGǟG䰉ƿPzOPzICzEC˟ΎAQʧQƥIƧIƦOƦŐ˶R˷RƦERzASzAESİHȆŘȍEƷřˆTɧTͯƮřնTzBΈ鞡80eHUNG򽒁򎴍zĪĳEBūMBųCĳNCŴSĻDȫNDųĪ񹣁ŜEĴFĳGĴYĻHĲIīIƛJĳKσĳUNKƫLĴ˼MĳNĴƫOīĳNIKOLSBURG OՓRUDIMENTAƅO呥PΤļRĲ򨋁ťESĴZĻTӄTŴYĻCHĺUīU儍U儌ƅEVĳZĴSϭ-SHAPE󏑂ΛS祡C0o򓭊z瞢睢眣ՙz皣癣瘢痢őz畦ũĢFz璢瑣琢珡玢獢猢狢犢ŹLĢɪMѢĢŹOz烢炭火șӛP̒ĪRz漧ŹSĢZĩTϲTŒҢCHՙz洢泭沬汢氢毣殯步FAo𨚆vFIVEvTENv񅼁|ȂE𨆁ꦇNU𱠍𬲅HANIFI ROHING򫻇xBAxPAxTAyTAxJAxCAxHAxKĘFAxDAyDAxRAyRAxZAxSAyǙAxGAxLAxMAxNAxWƈINNA ŀYŝYǐGAyİVAq񒲂AwIwUwEwOq񂉁SAɈvɐKHOʈq彁 HARBAHAYvTĨLϲSSI=10D30q򬶆wONEwTWOxHREEw𬫁IVEwSIXxEVENw񕣁w򬶃E60aRUMI ˻ːlːmˑlˑmːlːmˑl˒lˑf񐻆n𮅁n񝘁mFORŘIFŐʨŐʹŠˉİˑİ灨mѰŝnҰǇӱǎIVǆρƽϲǅУŭјЯf񓄍s󞓃s󢫁o󢵆抁80aYEZIDI脅ELIFoBEoPEpHEoTĘSEoCIMpHIMqĘoHHAoXAoDALoZĘRApHAňoJAoSINpHĘADǰшƸEoEYNoXHĩFAoVAq󥅋oQAFoKAFpHĸGĘLAMoMI񴳂UM񵢁OWoEWoHAYoYOToET圁ABh󇕆HAMZA 觡rMADDœhHYPHEN񆒆ʱB0h崄и𶁅񌏂ϩƒ񗚁UMFLEXǋˈF0񖪄GD񃦌t񽼇tBETƅŒ񐻃EƜŀWAWt񐨃ȁYODHtKAː𹹂",
  "tMEMtNUNʄňzĘ匃VERTICAL򎬁t𺕂t͑u檆ςPEǠDҦŚzĪ䣱RESH-ʹ-𼨂tSH̘TAW˴ňzĘ䝐m쵃󙝓T󆻄uꙂtꆉ铎mLIGATURE AՏ漁30a溑pBǸp殢pHE򽯁ZˉpHƹ檁pKAȰ檃pMEM󀱁晣pɊPEp扢p怅ǰHĠT͘F̩LƸiINDEPEĠNT Ǳi軧񢅅s񍩄Ŵ試ǆŴCURVEśyɓHOOKƃxƃLOψƩ͜RԠŔ򚤂ţi潇pTENq洂p汈i񖜈԰眧BARSz䆉ꄆSu񣎂Ɔuˁƛ䒩瘁 䕌畡7ꒃUYGHUR񝍋񝈅-HőWAWs瘂sꌄ񜝊L񜂑P񛵃񛥆sT̸LŨl狆먧z攢v火z瓧l摈愁xɈ掣ʃx񆸅宁B0aCHORASM酭s𳼁崊񠫎罡LED 弇𓲡ɊP帬l羇򅴅s喁񞧒垡E0aELYMAIC꣖嗃ꦰT𝒮QOPHꫢꩆj믥ς-ͱ=11000aBRAHMI񳌂CANDRABINDUm񲗄m񲗃mJIHVAMULIYAmUPиMANŘh娅pAoIpIoUpUo񴐅xRwLxLoEoAIoOoAUoK𪱁GĪNGAoCŊJŻYAoTTAqŐDDĲNNƈǚDȊŰPłBĪMAoʐRAoLAoVAoSHApSԱHƈƐꆁTAMIL LŰyRRAyNΈh񶽇AAsBHATTIPROLUűItIsUtUs塆z RĘLz̠sEsAIsOsAUi񳱁h񱐁i񱜇h񲭋vǑŁtLINEtC񲨇t񲟁炁52h訤󒉤򒒇p𧝁ɠRŘIFTYɱTYʀǩʓYʚ򒾊s𺔄h𷒆nǸnӸoӹnӹoӸn΀oͱn͢n͙h枢氇V懡腅ƿ𾻄zĲO漨䑰ŖO̽砉A攡7F攥JOԨRaKAITH鞟钍|͡87˵ǤUpU𚩲DHŒR𚱷銩郈踧hǉ泤mNUKTAh񫶈˂hENUMERƇ斤ś񜔈hD隃䉩i馌削ꇆ朡CD䬉𶥂ƹD0aSORA SOMPENG櫥SAHuTĘBĘCĘDĘGĘMĘNŁLŁĘVĘPĘYĘRĘHĘKĘJǹơĐEEHuIHuUHuOŠ̡ӒF0n飧t𴑒SIXu飡t飢t񂚂˘0aCHAKMA𙆧AoIo薁KAApHŨGļNGĠCŤJƥYA藂AqũDDńNNƱȜDɜƙPŜBļMĘYYŠĸRĘLĘWĘSA蜁蜪蜐sOIhO纃AUĻ떤θα恡36𠆱詬蠎QUESǾ枅LHA鶭EIǥVջ50aMAHAJANI񺅆IqUqEqOqKArHAqGĪCĪJĪNYAqTTAsŐDDĲNNƈǚDȊŰ",
  "PłBĪMAqRAqLAqVAqSAqHŰRAj劂갢j갮j帉j𼴅SHRI囁80aSHARAD襯n襥n襤i嫦A񽇅겦yRxLyLpEpAIpOpAUpK叁pGĪNGApCŊJŻYApT峂pDDĲNNƈǚDȊŰPłBĪMApʐRApL御pVApSH怢跡i獊tIuItUuUt卆zĘġLęLtEtAItOtAUi퐈nAVAGRAHAn𰴇n𰴇iOMi葂j藈i淎i򪿅jȀHI滃珥啅󎻄ǪiEXTRA𩉃ǺƳSUưŒ尉PRISHTHAMAǩEiƢINVERTED矉iꏇo𮥥iEKAMΚѨDDHŠHEAD񁈂iCONTINU嶨讉-1v2詁E1bINHALA 򨓄Ջ񕽥񳚄񳈅y𰱁xFORŘIFŐʨŐʹŠˉİˑ񳴊z񷻆=11200aKHOJKI 𭛈o𭂑𭅏JA̡13𷵜D𭇎𭊒𷶃𭈐𭆍녥m𭏈mSHADD𷔐򵊊𭈝h飮ҫSUKUN庡80aMULTAN杨IpUpE볆Ȫ8qHŃ뷈JƋF뺍뻽ʲ9F뾪뽄ApHŰRȹ逪ʉB粁UDAWAD啧sArIsIrUsUrErAIrOrAUrKAsHArGAsGłNGArCŊJAsJƓYArTTAtŐDDAtDArRRőǑNǐȢDɒŰPłBAsBłMAr˰ɸLArVArSHԩHAk秊k罊vIwIvUwUvEvAIvOvAUkS읆p缢抢F0k뮇qONEqTWOrꫡqꫡrIVEqSIXrꏡqꎢq𰺃300aGRANTHAң񌅅剆񛜃𨇗̺5𨍙xLȢFpEEpAIř13pOO𨗿Ӫ2𨝑ǒ32𨣁ś5𨩊ƣBa庇専񏜂拦湆𨔄𩡣ϡ47tEEtAIŚBtOOtAU|ŢD䯫禆350iOMł7iAU 򭿇ƢDiɺPLUTA湅VEDIC瘆v먃žq劥RxLLi𼑍𬇄ϩ66慨句譇y򽴕ˡ70sռAzKAzNAzVIzPAǐ400aNEWA ǽnAmInImUnUmԥRvRuLvLmEmAImOmAUmKAnHAmGĪNGAoİCŢJƓYƒTTĲDDĲNNƈǲDȣĪPĪBĪMĪYAmRłLĪW𤺁nS匁HAf箪qIrIqUrUq箧RyLzLqEqAIqOqAUf砨kCꔇk몦ꔄk袢k袥k񧷂ȭfOMf𭤁IfD̠Ag𧀇fCOMMAfGAP򣧃f𦡍f瓧l񲝥МϫPLACEHOLDER跥45DfINSERзS𳇆f迲懃𴶇k𴶇Ι80aTIRHUTAʘJI𹆽𹆿𹃾",
  "񐃂𹋂Ť북i𽅜ӱMAn쯬GVANGi籮쌣4D0𷌱ː580a𷈃 𕶯𕶿𕶿壡B8t浢𕣮心𾼏𾪅񦲁sBARiREPETI𻑇y2y3iEND OF TEXTƲ𱳈󯩃TRI񯰁AɐU򆖄ORNAMƨSz䏩ѡTǨ񝙁ǫRAYS𐚢󆍃䐸ёP䐩v󇀇zļ嚂ˊvŉ䪯̮ƏQUADRU䊌SEPT䉬񯾃剢Б䈫񱙁ENCLOSURE䍫󌠂ǧ씂򧹄-Ƀ򀎇IqWO䊰z䆉IpŧU越ƷzĪU=11600aMODI𪷸𪴌𪱝𪮋𪫃mLAmV𪥈ƈL𪩳𪖋ϱMAkARDHAꢃ𩿏텎͓HUVA攁50𩾱ˑ60cNGOLIAN BIը酢ꕦkROTATEDǛk錃䔒鐡䍔BƟ̃䯎䛑z䗱񍙁ʆy䪓SWIRLȋv䩬䖏򯰃ʛ唷敁80aTAKR釧oAnIoInUoUnEnAInOnAUnK諡nGĪNGAnCŊJŻYAnTTApŐDDĲNNƈǚDȊŰPłBĪMAnʐRAnLAnVAnSHҙHƈRAg覊l覄g鉉񅦏g𴬇l𦑁g妣񐝅KHAg跎忁C0g貇mONEmTWOn貁m貁nIVEmSIXn貁m貂m貄700aAHOM єK뎅n꾁m뾇T꾦꽂JAmCHȐH끄|͚F䥪S몣Ȑ롅G䨩GŸ͹HͨH䌉BA͡1DfCONSONANT暃MEDIAL LAzL Rġ񞣁ING R뷫r븆밁W밁IrMfǢK󌌁Ё3댪򚶶λ򂨁񐪄lĳkRULAIgYMBOL VIf拤C𣩐񴅂800aDOGRA𛈷𛈿S饦隵𥈇R顇鼓n騦韓8A0aWɸNG CITI򲲌NG򫰁ęWIĠYUġAġO򪵄UU򫫃Ɖ̀ĨGȉKOƹNYʲJɁCƂNɑDDĨTTʱNUʚDтTġMĠBΩPġHIњHOLĳRRıAĩSSӢSԺVȸm腁垫AzWIzYUzYAz̸ɈʐEzOzAҨGAzKOz呡吡UCz厡卡˰z勢D̀Tzֈոը՚ՊԺԩԚԉӺ骧s򋆍tIVEsSIXt骡s骢s骡m骤򙙌FORŘIFŐʨŐʹŠˉİˑTY硡FFmOMaDϰS AKURU頦u𺭆EɈ909tOĺCtKAuHAtGĪNGAtCŊJAǱ15tNYAtTTū8tDDAvȹNƠȺDʺŰPłBĪMAtYAuˀRAtLAtVAtSHAuSԩHƈƐZAm驪xIyIxUyUxEс37xAIxOŒBm駪r𽈇rHALANT񡥅PREFIXED NASAϓm헤YAmINITőRAơŌ񔽆mD𱐇m񋊆m𽏌务50𗠱ˑA0aN",
  "АINAGARI琇񁎔ʚA񁎆痵Ź疄瑁𖩦瓙RR瓵咇Ĺ唅DAxE睂xAU盬탣љMAr񉉄r񃮃m񮶆m񰽖ЈA00aZANABAZAR SQUARE桥И˗IzĠUEĪġŊOīġAIĪǚREVERSED Ix񛏇rδKAzHAyGĪNGAyCŊJŠYAyTTAzTŰDDAzDȁNƘȂDʂŰPłBĪMǨSAzSǹZAzZĸĘzAy-AyͨRAyLAyVAySHȠƹȀKSSAr񖋂𮋅吃𲫇wꋈzŅ𷜊Ʊ䈫w玅w玄rCLUSTER-ꕤ欥RAzԀſYź䏷L䇬VAr΍紁垢јOSING Əġ TSHEGwSHADw눤ŚLONGǛ͖ǳ-LINED䫯䏕SUB򓛂覡50aSOYOMBO袆i袉tUEutEtOu꿁덌Lo薈i˴񒈉񒈿TSɻZApZHAqAp-񒜕p蔁i团򀔔篗ŃLŅSHōΐ轭ВGzĩKĪNţDţĪBĪMĪRĪLĩπĳĪ-嗄򆹍GEMI򻚇i癦i葇n苁n葈n񩴂紦鵣MOOЁD SUĹ񑰅FLAMEz䍫䊎iTERՉL΂-1w2蚁B0aCANA򶳁SYLLABICS NATTILIK HIzĪĳOīĳAīı򋒁ĽI|κ8䫷ɃOzļŅAĽAtSPEv񶅁aPAU CINрU簥PAtKAtL𧯁DAtZAtV𨼂HAtGǘH˸AtBAtCAtT𨧅H𨙁FƨňAtEtItOtUuAtIAt芃PzKzTzMzNzLzWzNGzYmRI꾢TONE 뚁xm񦒃GLOTTʘSTOP䒮 ͺyĪ䘑ǻtίx䛏MID-LEVELβm䟊V󐻁Tȟ位zE ̫LOW-FALL及z䨍ȶ墰ɠͥ塏=11C00aBHAIKSUK񿴇𿗒zʋA򀉍򀆌򀃑񿺘񿷕SՙH񿬔厇Īĳ咂38򀉇񣴌p벅p벃ҙMAp񱬅DɐAl𶂇k򈔊k𶑆򎹃C5򁗲k򰋆rʀsʁrʁsʀrʀsʁrʂrNIȩENs򹵂𾏁ɠRŘIFTYɱTYʀǩʓYʚTYk򏕃S UNI𸹅C70aŐCHEN 픦iġ𣃁𩆋𩃉ŠY𨮅𨫈𨨌W𨫐SƊȈAԩ92𥓅D ҞzKHAzGAzNĘCĐŨJAzҨzTĐŨDŨAzPĐŠBAzMưSęǘӈzWAzZHĘКA9zˈRAzLAzȁɀĨ񭃍tUtEtO𨈋蜈͐D00cSưM GONDꙇw銧EȲ8迂ŒBvAUvKAwHAvGĪNGAvCŊJŻYAvTTAxŐDDĲNNƈǚDȊŰPłBĪMAvʐRAvLAvVAvSHAwS",
  "ԑHƈƐKSSϐΪRAo岊zI񉮁zUUz򯦈D3AzEĺCzAIzOŒFzAUo憊tꘄt񂦁t捃t񃺃o𷾂oREP筡-Kʀ̹50oꍧuONEuTWOv鵁u鵁vIVEuSIXv霡u離uNINժ60aGUNJϸ淖Ȳ7vE뷁ŚAvO뺡搁V旧濢橣暢G殉熣灦LL猂熨G濅H溢S檕ժ90zEEzի93zOO棕昦OMəA𔧵EE뤡KAΠꠦ뙆P닆땥C려򘛍AiANGKꋊꉥPASSIMBǸ񷔃񛚄ӰFB0aLISUӝYHAƩC0a򿐂󚁈񲒃툄-AND-TWENTIETHtON䌫SIXǃ嶡ŋƑY-懡ŠFORƫTHIRưSECONDpВ ʞSvʧŨpԩҙ·EŠH-1zĩ2tTENҕH͚ɳ͜ɼͅFIFɠ󧸃ꄡF-1y2ʴƴSpDOWNSCA𮡁FACTOR KIIZHg汢NELlCEVITUlAAZHAAKKUlUZHĺMUUVŝKURUNIlPATǝKƔKAACUǀNAMmONlVAR̨ANƈňMlK̈IlVELIgWET CULTIV񝳆gDRY䊏LANDŋSALT PAƼTRADIȰ𾉁REŘƺs󀦇gCURRENTţ̹OD͝PƾTOTALœIN POSSESSӶSTART昂ROMƒhĘ MUTHALIYAlVAKAĸRA趢FFg󎏈񔩇aCUNEIFORM뗤q TIMES AxBADxGAN2ȸNUxHAxIGIxLAGAR GUƈMUSHxSAGq2qBrʭSH2yDUN3ȒyGALz̍yHAÿǂzMINy͑BySHESHyU PLUS ĵsȡr2sάBAɘz՜˩EȻENzSHA3zTAK4qDqKԭERIN2ψITAɃGISH|=12020帎LʬňyDIM2yɡ喁KAD3zḬEyUSHrANrEPHqMARtʄǈqNr OVER ANsꆢǓsҪNAGA OPPOS򤈂 ƮzGA񔓃Dr̩PINqRADυKURrKABqSAL2rHs ZIDA弢tƨŌҫSH TUG2ԚŊ䇍PAPzȠɭřˎCROS千ƯŇs2sGABpBArDrG3rHAR2rLsǲ爁sAGrRsA2qI柦yGAR籆qUrɜU ABz UNsѽƐrLUGuǽLU͑2pDArGs KISIM5Μ矤MոzƕMARz茉ŦIōGAŎ䠐GIŏR2ŞUDŕH˶IR",
  "ŏ̓LUƍKAKŕLAŎUŏӏ2ƧMŕNEŌ瑁ɑłƝSIō魡ŝU2Ɂ囫鍁M無3t4qIrBrMs鏇s2rNs KASKAL U狢 DIʈSH珦D궣s넂IGrB˽Ű2̀GsUDrH̸3t̂y ɲ4rR2pEq塧rͪE NUNςŁq2r礋HļD薃MIySALz갡qDINqGIRqLqNʥ븡쟧ME蠧ENsꬁŝꥤqRENrIN2qSH2qZENtӥzӽLAL䅩ǺƭNz BADz ퟆzŗżHAęŤ鴥z氄Ľ լŸU3zϠz䵍LIz蔢U2ĘDpGAr 𣰊撥Ļұ䄭өzAB捃ƋTABzANzASHę蕅ѸBADĘRƃRAzBURĘſDĐIĐM蜇zDUBzELĐ敥zENĐȌ𦊆䄩RzGIĐ4ęʳAŐRՌSUz羣ꍥ谣ƠLĘпHIŔIzHUB2z泆ISHǋH˴崡낡濄KIDę̈́ƁU3ɄNzLA𨵈MIzNUNz镉zPAzSALĘRzSHEĘɴTUƁϘSUMz놢UzUDzUфDUt̒GA2rBAt 鑅ƀBArDs ǬDĘRťRrLsƙ䎓sAMrMrNs2t欢uƼN2uϥŪrRs3rSHANqESHTINw𨽆𦔆EyUsʯIr4օI4tCƿ4rDIMrR2t뮃3t˴趈纈ź碡ǧPArSALsH怉ISHu̲ꫣ条vE𨙂ȧ麨祣Kūꯆ產Ϙ熥G2tƱrDꖊ廂zĘ熤UD LUGALrL𤐉rRs7sUNtSHpHAr妢sͪL晆𬦃2yBADyDISHyGŀKINyՀyS핢UrB2tɵN쉡L삧Lʘ뫡rL2pIq AqBqDIMt滣IŐ 뀁ł훥GrIs DIBtRItȱ徂SHIRʢŊ΀šĹ忢qLr농r2qMr𨶇缇IM𤮁ŝҴrINqNqRqSHpKA˅AzDzD樥3愅z𭨁ARzIy𵜁ƺGAz𷟇ǩ첅SHA3ŋ񇾁R2랇SARš蓋ꩁR7y褡MyKAKʡDyLIzUyMEzE괥ŌʐŌӀɑŚ뢁UZyNEzUNyPIyRUySAzѨHAzHEz렡HUzIGzUHURyTARyUz2zDzMUM彄쀡HyZIr2s叇K뫡rD2s3s4s5碣ƠD5rKs锬몁鷦tC̏LrM2s4rSňv 𻶁ȼUͲ䉋wЌɩ䖞뽁2qIrҿyUzDrDrN뇃sIM5vʺ𵗃𯶅HI鷇2 KU䊰r3r4s񦑄 FORMr7rLs嵢ЀRs 誅˸RrSHU2qWU318pLArGAB",
  "u͝z𫑏ƟGARŧLALŠģNzԺ𻾆|=121C𿂌戤촧ĨIzјκENzБzм쌡īӡųմHҩ性컁킧őMĢ堆ŧLǱKIĢNz꜂ĪLīʌIĻˀ嘣zS앃˼LɲMEĠ񃟆šUȚNǁSHǌSUա񃡋ʣ돢䎏둢ƲU2Ĵ͑Ƅ΍TAGz잃ıѤAҝĻNAǘUęǴŕĴǣϳ砂ũDġSHv콄tRu𱬅嬍v淢鶃񉮆ȑrHSH겧Ǡ𧜅𧾅̫RUqIrǠMU2𻪁ꏨr2ʍ𴙃ꠡġ𳐍HIʯzIMzKAD2ġ3Ģ宧KIzLAŷ筣硈NEzͨSIȖŘK2ūBUzTUG2uѸ옇LU2tꬡŦ暄u𾡃3rGALu搄UŘwɤūvSȼHr握ȽMzUM𱦉pMA𨭈񍳃ʨ륁t2qErSqIrN옦MUrG뾅SUBrRGU2ɉ벦灢 ZAuɱ難ġǽ螥u崅Ȓt3쓑IzġvѡpNAr2rGAt 򴴄u蜥U甂u敥ϘȰRrM NUTILLUss墡ϵyUDs捄𴟇r2衧𻌉ՊƗrNDA2v͝NzE祂Ĵəż쩃E뢇ΧE뢢쭄齃ĳ곦Aƽ·ſ䴭걫񈊃SAGqUr11rNsꞃ孆RzŋMɨŔSALŏ𼉅ʿȗϫtT铡Ƚ阆šzNG˟띨sUZu AB2ʹӘGABΌBIńDUGz񎅆𷾊Ŵ껢뻅ńNEńSILAǭU2v񑁃ЦMş UpPA𬞁P𬺋AzByɘUyEyIŐUz2s實PIrRIGu ՕL𣑄ZAv辁ȤȘpRArBqIqUpSArG郧ЦDUĐBzHA񂹁ꘁ댡MI𻥄񁪂TABzU2zɀǠȘUSH滃SAGt𱪄촂𮮈NGA2rRqHAs3t҆힢𵤂昁𧮂 TΠ Uz𧂅s6sB6sR2rEs HUќHE񂣖zǠTABźŁ䎊sG9sNsSHu2uLAMrIDtշIMsM厪Lz񘂂z DINzϚ羁񍟉U嚣LUɠMɐ鋁sNIGsRt쁃𼦅͘ԺłsTArUsŲ잆 ͐s2sB񄤁ϺrGs4t ̋IG4 љrK2rLA3qUrǄUrDs2rHURrMsASHrRs9pϨ ASTERISKs娣HIyMIsΪBs掇NIŚĸ񕾁ŢŊ𧚄Ԙ闧GUD񊂃𨝂zUDrK4rRqE嘃qIr퉃L԰𧁇tѻIRzIR眷qUrG2rKrMˡʋUR ZAřĹpUq G҈U UrƑ葡ǣĸ䤪ySUŤŀyU򦞄Ҽſq2qBqDr磄s𺪆MIy𰸌䇋ՀN񚞊z ˶rUG񃯅ꆃyME˃D򦙁3yUrBINrU踅񆢅PAqN楤R񊌇URе񖊆񕸍NAz̐HA똡뒁𦄇ŞBIr4rIs3rU̶z𣺃BARz",
  "DˈGAĐL񔿌Uρ龡IMzI΀KI쏤NzPA节鑁zTUzU𺿆đRUDAsDAuѴUqSHӗKU촢葡sXs2sUMXqTUKIqZ3s挪rUpZ񌖄錤񪒇GrʸE2qIr蕤Ir3鳁񪔅ȈZ2qUr5ӖrBʸMpKAP ELAMITE|=1237񮆎B𽶆r2˵qMARԆGpDAG񨞊U2񥤆s3q񉤆HUqUB𹡆pEZEN񧨇ƚGAоNʳKAKŁ疤2qE22qIGpHU񌡁ɦ덣3y񊹂Dy񄴉yLUMyPAyԐLyTUyUR2p鎂ӵIqU2 賄馇t񥳆񄈆̘pMƐqUѰɛ됁NA4qINs9sDA2̍ɨϤ11 󚍄򓠂 DEGREESpPϩ혦qIR2pSAG񋄋pTI2pUMƬMEq U=12400kNUMˀC痣TWO͈HyHψŁxFOURƊIVƃSIXźEVENƂ򀴁ŊNINțT˲DI˼ň̂Ƒ̋ƈ̔Ɛ̝Ő̥˗UʺUʢUʋUɴUəǙOĨG悁xTWOŋyԈƤ̺ƫ͘Ƥ͹ƛΚƣλśϘέϾUϾUϿUϿUϺɏSHARՋœzŎ񍽉̂ɣ̀ȋ吂ƚ吃Ƣ各Ś吂ɝOŌҷUҷUzŎ仔UҰ̅΂驥񞝃燂z䋰MINӚBUӓŀӋƓzŃ仱ɈҲ˝ʙ䒪ꙁ16z䋑21̒䋫LIMMUz䊲4䋓 A䋴B潡䌊骁9烢䋋IMIN3z䋒 A䋴B碃䌫USSUz䊲3糢䣬嶃䋓3䋴4䋴 Ax뺂񑊂瞣ŭ魣ǟIVǖ눢Ŧ肣AN2͙ł̹Ɠ̚ŊzĻ龫ΡǫĻꍬNIGIDAMINzĹESHђĸE3љŋƚTHIRD윢ǁųSŻFЙSIXTHƃɿ糌xˏ䌬Ҳ眢H庡z򓨅ũyLDİSYʁ ONќz䊊ʆyN˟GUR͈HALFőx𭋃 叆zŻ劧Ƅ򬁁ŝIFTY沃U欮䉌皁䒬髂䓌鑄U煍N䧭=12470k򒄇𩆂O戉WO狢VIDERzN VERTIC󃑁LONzNǐAGON䈑TRI䉭杁DƢә80k𱦍镃񢵁D򃲇pBAų聃Ȫr𣬆̐2źIĩZAqU򋦄ύA2pDA𾖇rG񶘈M𭯆zU ĈsυUDqUG𱤈񿊄 AT LEFTzDIN𸻁񟢂GA񽯂R2񄦁ňSH񫬁I񼳅񼚄ӈz񅄂İ񟺆ǬLAK-020ĸMęԔʙLUHɋϚMչǐ񊮁IzPI𺐂ѓpE2ˇyPAPq咁 XqSH2 򆷆򆙃𴀋ρŦHIş夅ƏLA䅩LŧMEşĘŧSUuŅpG𴱇穡zDIMЃDU乬Ɨ攆ERE𾸃R񚧄şNE򃟅A沰殲񜠂zNEĐɣE2ŖG毡IMzZIZ2rBA𷕓񿼃δUqISHŜG񵦍qU2屬rD篧",
  "陈pHA黢șΐ璧񰥎|ꯁD𿏍KAȔBUyKAy鴢zR𼉉ZUͪĸrK-003u21v5u30u50v1u62u79ȃ鏢79բu8Ǡ Ʒ81u92t1ʨ42t210v9u20v5v8u38u65v6t343v7Ÿ83v4u90t441v9wԛΐz놅򖊉LU3䈉䌰箥BA嗡7u70Јϸv2v3v5t550t608u17w鱨較DĹ򑛊ԳKϘ鱤焣RĻEҌĳ˳񇱁u36u48Љ΋BǒGA媅ĽЗNI嫻댃ƓKI与t724u49qU2Β孇tԔ큣Lzθz䲓询MIƃZA7qU諅񨬃塅ůKAKpNIND랆뚦鳄ĺULz잣ʉ񯕃蒃50z񣸄彬Ź̨񒀇崥pSAG屩HAtŁ򩴃E𦓄姂qHA6ꗢrE 񜺄tͺHUB2yNAM2ySARr虥쬃燄E񊅆qI끩ġɻՐqUM񪤍񄽆pUR2񛡅tȻUDrUʔDARA3z慁668zLU3p满꿆ХRr5ӼϏъ=12F90bYPRO-MINOAN벃CM001w2w4w5w6w7w8w9v10wƐxBw3Ơ7ƀ21w3䐪30䈌4ʐƀ6ɲ5˺ȍǺ6Ɩʖ70ȯxBȼ8Ƨϧ90w呌u100ɇ囆ȡu30ǀ=13000aEGYPTIAN HIEROGLYPH A001x2x3x4x5yAx6yAyBx7x8x9w10xǔǀ5x6x7yAǂ2ǆƱɬ3ƢyA䋌40yAǅyAЫǦ5䤑6䊑70uB唨̟uCƲ囁yC䚌1ӜƷ埌uDΜǿyA˂䛚憅廦yA擥弩䗪yAϮ50喣yDyEyFyGyHyI杣̛慸䜍uE堒yAw1侬瞈ŀ庑3ʎ殥uFϨyAɟ茌yA損䖬搈末ґ摃辌ǡ荆窃ȁuG00姌ǡի从峪ʟս挲ծ铚uHԾΟuI錰炃Ԙ厉uK痎uL韤䩬M00忢փ髒膍ԅ緌譑yA猊с뚮幦N嚎ꑒ̡҃憎ѤѓԹǓ漬vLрy2y3y4y5zAy6y7y8y9x10yƶơzAƲ20vU00ǏɷȀ1zA䌋zAʑ͊zAuO鬈՛榉泦ƣ셯yA诈姦ǧ3ǠꑉϷ썬Χ싦x1uP厢缲ǨQ燌uR蠤磰1ꂐ𧂕uS酎綎Љ𨋕𨽉3胬弲uT00쥄쎍yA묤垾҆|=1332B𫧑T03撆ӜU00坐𧾘牏yA𫸕ƲuVР𧮎䗩𣊊ɤ뮣偎䤯yJyKyL卍框3퀤汭벦uW00嫳1鰪玉Ւ䍉uX00萈畧ϸY𩃏uZɺꊅ霃꣥챒桐6䉭uAA00씬zB졒Ƣ2䊑3Ƣ=13430u񖰅JOINERuHORIZONTƏINSȘ AT",
  " TOP 󛄁zŲBOTTOMƌȆEND䏉ŹuOШLAY MIDDLEuBEGIN SEGMENTuȀŝ=14400aANATOL鮬A𤈔廞zAƴ3憰zAx40𥋈zAʉzBʜ5栱60ƧɫzCǔ7䗱8䊑9𧳏Ę芁𧞅zAǹЄ5ĹɉŻ怄Ƣ𩓐20䋒3䋓4告𓼦𓶶Ƨ굡ƪ奡戉球魂珋鯌ʏ糮𓠷ί屘詒岈ˠǇ햁䘒랿ɟ寄聢遒崿͟6唐zA嶤zA巯ƶ RA OR RIzAԝ簬񭑂糪400y뢱 쉃LOGOGRAM MARKzA읡䉫y撟𘁬젮zA鳎𛦿w5ퟋ𦳭=16800aBAMUM LETTER PHASE-A NGKUE MFONvGBIEE ŉPONƒ PIPAEMǂzMƇBAvNAAʫSHUENġTvTITƤNZǮINDA PрJIιŔ䬪ƓϟMıǒvTU M҄GANGUǚVEUXxNSUAEwVEĨǐMvSEUNYĸNTOQPENvKEUĐTNDːKԠIvSUUv巂NZEUMvLAPAQwET KUTʨAP MFAӢʸPvPASHAEvGHЉRAEƀMƊMON NGGƱʸZUN MËU YUQ NʖīσNTπSISϨGBASAwEUNJOMNDEUQwOOMPUQvKAFAИ LEѩWAvNDAŧPET彂K孁NIKƈUPvTЈPvLĪSONJAMvTEUĐWENɱNYIvKET͑A噆KUOQvMOO嚢SH愡OMɠvFIRIvROMvKPȈSȩAP PIEEȹIR妤ŘOQ NˈT Y˨РT MONGKϹQvPAAɒKĻUNKNOWNvӸ劃SIv唢MBAː˰ϰTˑNҘT˰ǘϨҰɩϺvKAQƙAvVƨLUvNENwAQ̑QtB 迃蕥蜃SĠ箁TU寁 NЈҒȑLǸKIEϘYEURAEƸ啣KӐPEEӠvYAFU濇LAM帤豤I򌺁EUOQwDU NJAA绂纃̠IձʐՑȸTȑQyǘQրꤢTEũwBIT ӱ瓂YI唄逡UQΕN|렡7렲B ɘYEUXvLAAN铂R̀V̩NG鼂 MVOPxGEUрUvW肂SAKӹvTA無EUQɠGUOQzOQ LARGEvMFIYAQvSUŐBEURIwO廁迁YAEMщUNG˴TꈢθFՈɸ͈ŐEvТȈ밁őNAzJUQAvLETҀ˩wS芢vKIԑOMtC퉃뻄wZAv貁WAƨΨ裃wD͡REEwGKA",
  "擁A碣EEKԡGBA謂IR MKPǘQ둁NwT怡ITɁU瑡R姃DOMBU聢 CABBAGE-TR垃SHсPЉPŹѩY̨UOMҀ죣ˠŐS頣ϺY槡ӃwAAvǐXШIDAvTA쪣NJUEQ𤯂Y˨SUA戃̙豃VʢANSANAQ栁KЁRIvN̘wɈONvLAPҀ壃w쬁Ɉ蟡NŘ섄XΪMvFUEԐƐwSAxHȸBȨvVΙP囂E校RUvNJ瘁LԈTI쯃NSUOT 獡wJEE拡啤릃wBUʊUvKUT˱MwɐvWUPȢEEҐːTENȀOP 실αNwDAM̨ꓤYAAvND찂UEQwETFO樂w脣엂犂豣ĨũM眣PIC勡YUWOQԨȒΠwUAE͸IQɐN LAWzFATIGUӸGAQ졡LǘPINwENvTETtD 鞡vWAP̨I땂Ł컁Ġψ桢Hψ韂AEw疡W羂鑁NvǡőAP鿃T轡燂v观̡ǘSU椣ꦁ̰掁MvSAPҐɑND塂A큁Iwˢ˙QvYENԪʰϹOT嘁AҊ뒡vTU閡AŹYՀ͠FԩΉŰMGBOFUMvLE筣D汁ONIwGB咡PUUTș朡FOvLɈ獢P沂vKẀ𦱋湤煃R务T蒢𨏅MӺ̺ʸ𭛂IP婁ƩYUE솨ɠI˚GWϩY扡PAPŁP荡MwTбSU昂NɁEUXxKʡTU՘浡ǈQѰUՈũM͈JЋ͈L˸őψwSHUTw넢GHEΓvRE򒥁vTAEwOQv蹁RIIvL婢MĩwӰUvMU諁IxӰv洂NƁUvNTŘPŹIŸ̈PՠMVOӈOQϪMUCHvTIɈU캤SEVENv랡FAAtE ꂂTOON픣볢VOĸƑP쨡ŠRɰN҈OPwDUư𧍂M輢vKP勡WUOvSՐ𯺄˙MρvKUւ𭨄wGOP擡˪ˈxOQwϐEvRIMGBAꧣ媡鐡A͹URѰǙ杂Xʻ̀wJĠLI͠ϹOTә暂DIQvT𣝁砣թUѸD忡OFTNESSwGG̘SHAE𤃂YIEEϸꟂUѸYEĩPOŨMŀҊ腢Ǹ赣VƒW𬎃MАҠAQ̠ŨꒂEUR넧Q塁ENwBEǐZAQwKOMvƈTЉvKU돂P肁 CLEAVERvYIT騡谡DIA읁ḚYUEQꩣ𥪁̘抄UP벂ӛKԠI՘ƀFAvNЙPաY鉤˹wјԀWEENwZUϸ胂I뤡ձǸMU𹤄ơ IvMVI翡Qҁ团T勁𻔂Ϡ𩜄՘PA PEOPL˂CALLwOӈJϨAvTOQvOvIvLAQȺLURAL柁xQ瓃MY HOUS𥏃Y尣ԡYĠNwOQ",
  " SWIMMINGzCOVERwUQxNvKȹPɠк EPOCHvPUEvWUԨEE𷒄MIvRȨwAEΫTxAрOyQ啁REMEDYvNAvPI꤂KOvMҘAxQ罁vKIvMONŐNvF緂OMtF KAvU멡ЀRĘ췣˸A멁x맣ƺA専面vM믁wHIIwIw뮅w栁UAExwJ巢OQ뵢YA꟡A室TE婣PѱU뿡R˺𨘂WAENxG婂땣FOMvWAvLIw姄BENʈ헡wOwBAAvTҨKPʐAMBAvVUEQ=16A40aMRO𸄄TAlNGIlYOlMIMlBAlDAlAlPHIlKHAIlHAOlDĸCHUlKEAAElOLl봁lNINlPAlOOmlROlSʀTHEAlĐWĨlKOlLANnl̡RǘEKә60eDIGIT ZEROkONEkTWOlHREEkFOURlIVEkSIXlEVENk񏂁kиE˒EfANDAfOUBLE DřaTANGSA奅OZpCpQpXoAŅVŅEŅIŅUɦWZqCqQqƐIōFINAL NGoLONG UEXoSHORTňZuAWɈECqZɉpIUZrCrQrXoM΅KApHAoGAoNĘSAoYAoWAoPŸYİǐBAoMŨAoŘLĨTAoĐDAoRƨHʘĘCƘS̨HA|征B8嵬HTʩɀXAoFˠʑĘZAɩC0h沧nONEnTWOo没n没oIVEnSIXo没n沢n沥D0aBASиVAHѝENNIrKArSErFArMBErYIErGAHrDHIǈPňJOrHWĸWArZOrGBUrDOrCErUWUrTOrBArVUrYEINrPAȠDDArArOsOrUrEEsrIәF0kCOMBI՘G HIGH TONEuLOWŃMIDƎ-ŦɁ-ȝkFULL STOP΀B00aPAHAWH HMOΘVOWEL KEEBwVuIBvVuAUőUőEźIŹOOĩAWǚAƊǡIAƲőWɢŹnCONSONANT VAUxNTSĨLĘHũŁRŁKĠQƑYǑƱMĘCȢĪHNĠPLH̚ĨyŀĐXȩAUnMARK CIM TUBwSOwKESЈVwSUAMwHOMwTAUMn򕤁VOS TƐxSHAB CEEBsˁCHEEMsǣ夡FűXYĨ NTXIVyRHOyTOVyFAI",
  "BȺSEEVsMEEJ ШƓNRUAsIB YA˘AUSϊTSOV ROG湁50n轇tONEtTWOu轁t轁uIVEtSIXu轁t轂t轁˒BnNUMB퉡ENSuHUNDREDSuŨ姡USANŨMILLIOǿ ƄȻBŤvRńρ63指LUBsXYOOsHLIs򻹁-STAGE ŹZWJшAJsHNȰNQIGsXIAňTUJsAVsTXH憡C拦TS殡TAUsLOSsM懤HAIсS NTOGĢwCUAMɨHOOJwTXWVzV CHWVwPUB D贁NRES TO嗢7DnCL򜲃ʠҙxYEEGxLISyAUJxXY̸xKOOxHAWJxMUASxTHOJySABxPHĠKĠǠMxVAJxFA˸ĘTSWǈWƠWJиE40aMEDEFAIDRIN CAPITAL뺥MzR SĘVĘWĘATIUİZĘKPĠęTĘGĘFĘIǁȹĘJĘEĘBĘCĘˁYġLĘQĘH˩NYĠXĘDĘOEƉĘRš̹IʡmSMAL剨SzVzWz՚ZzԸPzTzGzFzIzKzAzJzEzBzCzUzѨLzQzиШXzDzϸϨzOzθYm鑧sONEsTWOt鑡s鑡tIVEsSIXt鑡s鑢s鑡m鎧tELǡtTWELV큁RTEŰ˨łuIFź̠ŲəƂ͡ł͹ŁՄԘ ALTERNA󆃂M剁䉌吡䓍mCOMMAm𣵅mSYMBOL AIVAmEXCLAM󄼂OH=16F00bIAO榥PAmBAmYIŁPLAmMAnHAmARCHAIC αAmVAnĨTAmDɊTTAqŰŹƀNʀƲNNʿŐŰoǀLAnYȉoYʐLHʘLHŊYŐĪKAmĜŀQAnGːGˑͧƐŰXȸHǂTSSˠZZɈYƄHƁԻšpŢRE揁ED ǺĘnʸZıʙ̚ʊőǉǹnZAoSӟСZZYƘYAmWƸHmHˠBRImSYÌĠTEnSEmRTE殡4Ff뙂𨑆MODIFIER BARf溤NASALIZ狂ɻASPIRźk囆VOICINGtǟf𪽂ʋrArHHrNsGqOrOqWOrqEūEYqIrAsNtGrOrErIrUrNGqUƓŠEIŹYrIqAEsEqERRqROUNDҐřEŷŐAIqEɀUqOUqNr̰OːUIqOGrǨVWqIGqEAqIOБI恁8FfT馁R鴁kTOPŌAB",
  "OVEkBELOW惥ȹ-2r3r4r5r6r7r8皆Ǜ1z-2z-4z-5z-6z-8ϹE0𴇁UT ITE拣񶛁aNUSHU䊍OLD CHINESE HOOKƪm䒌KHIΐ 쳣SCRIPT FILLERҁF0aVIETNAMES꾉READING̒ CAzŞNHAY=1880唦COMPONENT-001t2t3t4t5t6t7t8t9s10t䊏2䊑3䊑4䊑5䊑6䊑7䊑8䊑9䊐r10ƭ𓒿𓒿𓒿2𓒼Ʀ|胁EA胏235t𓬿𓬿3𓬾Ƨ𓒿𓒿4𓒾Ƨ𓒿𓒿5𓒾Ƨ𓒿𓒿6𓒾Ƨ𓒿𓒿7𓒿Ƨ𓒿𫙑CHARACTER-18B00zŖ1ŗ2ŗ3ŗ4ŗ5ŗ6ŗ7ŗ8ŗ9ŗAŗBŗCŗDŗEŗFŖ10ŗ1ŗ2ŗ3ŗ4ŗ5ŗ6ŗ7ŗ8ŗ9ŗAŗBŗCŗDŗEŗFŖ20ŗ1ŗ2ŗ3ŗ4ŗ5ŗ6ŗ7ŗ8ŗ9ŗAŗBŗCŗDŗEŗFŖ30ŗ1ŗ2ŗ3ŗ4ŗ5ŗ6ŗ7ŗ8ŗ9ŗAŗBŗCŗDŗEŗFŖ40ŗ1ŗ2ŗ3ŗ4ŗ5ŗ6ŗ7ŗ8ŗ9ŗAŗBŗCŗDŗEŗFŖ50ŗ1ŗ2ŗ3ŗ4ŗ5ŗ6ŗ7ŗ8ŗ9ŗAŗBŗCŗDŗEŗFŖ60ŗ1ŗ2ŗ3ŗ4ŗ5ŗ6ŗ7ŗ8ŗ9ŗAŗBŗCŗDŗEŗFŖ70ŗ1ŗ2ŗ3ŗ4ŗ5ŗ6ŗ7ŗ8ŗ9ŗAŗBŗCŗDŗEŗFŖ80ŗ1ŗ2ŗ3ŗ4ŗ5ŗ6ŗ7ŗ8ŗ9ŗAŗBŗCŗDŗEŗFŖ90ŗ1ŗ2ŗ3ŗ4ŗ5ŗ6ŗ7ŗ8ŗ9ŗAŗBŗCŗDŗEŗFŖA0ŗ1ŗ2ŗ3ŗ4ŗ5|=ı6𭁛Țʯ7ŗ8ŗ9ŗAŗBŗCŗDŗEŗFŖB0ŗ1ŗ2ŗ3ŗ4ŗ5ŗ6ŗ7ŗ8ŗ9ŗAŗBŗCŗDŗEŗFŖC0ŗ1ŗ2ŗ3ŗ4ŗ5ŗ6ŗ7ŗ8ŗ9ŗAŗBŗCŗDŗEŗFŖD0ŗ1ŗ2ŗ3ŗ4ŗ5ŗ6ŗ7ŗ8ŗ9ŗAŗBŗCŗDŗEŗFŖE0ŗ1ŗ2ŗ3ŗ4ŗ5ŗ6ŗ7ŗ8ŗ9ŗAŗBŗCŗDŗEŗFŖF0ŗ1ŗ2ŗ3ŗ4ŗ5ŗ6ŗ7ŗ8ŗ9ŗAŗBŗCŗDŗEŗFŕC00ŗ1ŗ2ŗ3ŗ4ŗ5ŗ6ŗ7ŗ8ŗ9ŗAŗBŗCŗDŗEŗFŖ10ŗ1ŗ2ŗ3ŗ4ŗ5ŗ6ŗ7ŗ8ŗ9ŗAŗBŗCŗDŗEŗFŖ20ŗ1ŗ2ŗ3ŗ4ŗ5ŗ6ŗ7ŗ8ŗ9ŗAŗBŗCŗDŗEŗFŖ30ŗ1ŗ2ŗ3ŗ4ŗ5ŗ6ŗ7ŗ8ŗ9ŗ",
  "AŗBŗCŗDŗEŗFŖ40ŗ1ŗ2ŗ3ŗ4ŗ5ŗ6ŗ7ŗ8ŗ9ŗAŗBŗCŗDŗEŗFŖ50ŗ1ŗ2ŗ3ŗ4ŗ5ŗ6ŗ7ŗ8ŗ9ŗAŗBŗCŗDŗEŗFŖ60ŗ1ŗ2ŗ3ŗ4ŗ5ŗ6ŗ7ŗ8ŗ9ŗAŗBŗCŗDŗEŗFŖ70ŗ1ŗ2ŗ3ŗ4ŗ5ŗ6ŗ7ŗ8ŗ9ŗAŗBŗCŗDŗEŗFŖ80ŗ1ŗ2ŗ3ŗ4ŗ5ŗ6ŗ7ŗ8ŗ9ŗAŗBŗCŗDŗEŗFŖ90ŗ1ŗ2ŗ3ŗ4ŗ5ŗ6ŗ7ŗ8ŗ9ŗAŗBŗCŗDŗEŗFŖA0ŗ1ŗ2ŗ3ŗ4ŗ5ŗ6ŗ7ŗ8ŗ9ŗAŗBŗCŗDŗEŗFŖB0ŗ1ŗ2ŗ3|=ı4𾹛Țʯ5ŗ6ŗ7ŗ8ŗ9ŗAŗBŗCŗDŗEŗFŖC0ŗ1ŗ2ŗ3ŗ4ŗ5ŗ6ŗ7ŗ8ŗ9ŗAŗBŗCŗDŗEŗFŖD0ŗ1ŗ2ŗ3ŗ4ŗ5=1AFF0bATAKANA򏍅INNAN򀈃zĠ3ġ4ġʋ5ő7ġ8x򄶃򀜆Ŵ˵ŷ͂ŷΒŷϦD䊋7䇋8=1B000q򈌄EaHIRAG垨ǍYEbENTAI䍪-1u2u3uWOsIŔ4sUōu5sE-Ōu6sOƻsKʨv2v3v4v5v6v7v8v9v10w1vKEtI䍭tU䈫tE䇩tOŬKIsS䫮䦫͍ǿ䥩͋ǯsTͶ̴ԗ͇TOtE妯䥬RAsN幰嵮TEύ䪌KO䨩sH栕唕呭ͭ̇sM䩬幷ͤMA䢫sY䠩YOʇ䓬R櫸痊E䠔WAŷ䡉ʇ祮N-MU-MO򍪁b鯴WUaK뜁齑IzEyWU=1B150ꐍ𥻃WIxExOȑ64̓䑔wNȡ70򏊂𦬇ƪu1u꘦u7u8u9uAuBuCuDuEuFt8䐝9䐝A䐝B䐝C䐝D䐝E䐝F䐜s20䡝1䐝2䐝3䐝4䐝5䐝6䐝舑𘐿𘐿𘐿𘐿=1BC00aDUPLOYAN귥HqXqPqTqFqKqLqBqDqVqGqRqP NqD SqFĸK MqRŘTHqSLO˘DHqĐKKŴJqHLqLHqRHqMqNqJqSqMʰNʰJĘS JŸWITH DOTqNŗJŖzTS INSIDE AND 򠜁ˀǷ 򠩁̸S̀SˈSǰкƊMƙĩѩǺ˧sNtƺTt RsPĠqT SsRƘWrHr RǐNsMqK ƑG RɢKȹA射ӀOArqAOUqIqEqIEq󇼂IqUŸEȬEHqROMANIŘIƜǠLONGŸYEqUqEUqXWqU NƫUʆŐUHʙŒOOHrWr",
  "UqWArOrIrEIrԈ𳮁 UwOwIwAqPERNIN ANyMѕNwANwONqVOCALIC M繁70jAFFIX LEFT HORIZONT̀SECANTpMID䊰RIGH䖱LOW VERTIC䠪䉮H˸䊎ATTACHEDży։-TO-ѢƥTANGENTzAIL|埢A陇夃̶򧁂yIĲ˅Ţˁ80ԫACUTEuTЙŜGRAVEu瀂œDOTuCIRCLƨINEuWơ垥͙90弡˳tT͗t˺t͗t͐t͓t͑tWơ͕tARROW΂Cj򮵁O钃CROSSjTHICK닥SELECTORjD󓝁򩉁jPUNCTU򪩁򫅁OOK 򷨅a鉢HAND򸇁AT͕OӸLAPrCONTINUINGƖDOWNˠEPrUPĺ=1CF00aZNAMENNY 󍽅Ԃ GORAZDO NIZKO S KRYZHEM ON询y䋵TSATAŮ䢪˞䆫SREDNEŶMALO POVYSHƧ䇭ŨOKO䙲剡HOKHLOM˶䍔͏䌱怸飢y䌔恤ŵ悏˷ŷ情Ž惫Ư䈌愣̷慖ȇ䍷憏婭嶇䳫ƷSTRANNO 䏉y䓎zƄɬҼ䮲ȯ棦ɫyZELOyONyRAVǠTIKHAYAyBORZĹUDARKAӐD뉡ňLOMĨKUPNǰzACHKA̐VOKySKOBAyϘSEȈԒ肅ꒁ30tTONAL R컡ꎣMR̀NOzRƗSVETL䈪TREƣtŲZADERZұDEMESTV껂ƯOTSECH噣CHASHIEzŎ잡𥧈TROKEyǡʈzĳ POLNAY͈BLA͈OySOROCHYA NOВTOCӺVOEŐΰt𥢂INGϟOMET嘣CURVEDƂ拃tLOWER 應INDʨퟁPRIZNAK󃷆LEVEL-2zń3z DIREC𣓁FLIPz ΢z󘾂CF50jNEUMEƱUKu 穁YpPARAKLITpDVA V CHELNUpKLYUCHpZA嬡EKpSTOPITSAx S O彡MpPEREVODKAy NEPOȈYAN握ɦ檃撌pЈϠSTKAӘLKAРPYATˁGOLUBCHIK 賁Yz吢z膃Yz綂Yz绅YpVRAKHIψPROŚyɓŉȒŁɰŞ媣EVAYʟzLƟ˳䊌˪䉬TΧp𩖃墧REVERSED 崨DERB扁pKHAMILOp譄p醇pSKAMEYTS僩ӦTҏz녤p鳩瘄̟K塑Ƥ痨ƫ",
  "ɗϜz顡腢敩Ưή䊭腩䍬剪qLOZHITIEy S杣ʘzZAKRYTOEz핆pĺpROGpFITApKOBYLApZ岢赁ATYAv ̟y˄yƅ I͝Ǖ IɮwҊ孢ĳ SǟS ҰOMyDVUMYAƼYMI䭉矧MpPOLKULIZMY勢憎rREL榇w粣O渤w厃Vő̀UPOVODʩyļwͧŲ榄Ⱦz笯wϛҘUTź熩zŋOҽƏΗ睌䓐䎍wGROMƠ뾅INGꎉzMʳ䐸˩ȿ䙲깅ʟ墥䆍 ˎpME쬡vƌYw嚅OYzĹƴ梭祁盂TRYASOGLASNСŘϒťȪкOSOKAuꎦvǀŞ𥹁O뉪w등Ɓꦏ|=1CFB5𹓆𧎂各ϟzИ徊Ə玸䓌甛䩮䞮佲礲倵窆䋴屒甄KApKUFISMApOBLAKOpDUDApNEMǈPAUK=1D000aBYZANTINE MUS𯺁󧤃PSILIzDASEIAzPERISPOMENIzOXƈ EKFONITIKONƌDIPʀVAR䏌ƑǿKATHISTIzSYRMAȀIz𮀃ŚYPOKѐISŏ˅REMAˁAPESO䰊EX䇫TELҀzKENTIИAʐ鏁OFOSŗλԹNEVMAzTHIɈOLIGON񢃃͐GOR䇪抡İŨMłVATHYzISOȟҽƆՇƗSAXƊ征ICHƉTAVROS APODEXIA檣IʔђR䈋ɊRтƏTHEMAzKLASİR嬢PIšȯTINAGƸANATӡIɑSEĳYǙɧƆMETA 呣UzOYRANI䪊һLEMOIzDYOzψAzTESSERհRA焣瞄瘁NEOzFTHORA̧IMIƓ˰OMIK檪AӠA ǅzPELAST牃FIŊưT帢C̘Ł˯RAP寡赣ALE坩选 ՟ĸDINzNANAѠTA˰ЊσLLOz՝ūSTRAGGIS峢GRɈHţ菂巡订œꙣŉϛTIϘ뗣ƄOż枥ž弤̻警͚ ANƍſY뤢鼈ʹŷI SYNDESMǂɱORROIҭųONzҠFR齄͹MIKRԘIS밥Ҋ趂ӣ猅帅MALɐ춁KENO薁Y斢濉ʹ瑦̽ETEщPƷzKYLˑͮŻ蛇ʻKSTREPT颥ͳŘR葆ЍPEGERꂣҭXIҡ꤁ο赇ō塡ȇ䇍噈ʍƟȷ厢ȗŽ쾂šTHEҙA䆩报䊊댃塅뉣TI筂ES䇬Xż APLOUNšS KAI 좃S긃徢ENDOFONϸYFEN ǀOŊ证훥칄ƒDIPLꤧ뾥䈌ꢄť銅DERť̠͓zTRĳETRƪKORON",
  "ISzLEIMɨENOS CHƘOUƝDYOƔNƕTRӠ䊍푁AR䋯IMISEη煣NꪅŲ鉣ESTIGMEN煢ISTERA䎳𧕂DIǣŀ䡺沢䒜涥䷘TRѽAĪIMIDIœĽAGOGI PO療GIżǙАŶǏMEΠAŦSƽйş˴ϯȅMARTYRI񀆁TOS ICHOSƭ艢I䍔DEYΐ䙓䎔纂T䊲FONIA䉉ETARɕ䋱LEGE䏯䋕PLAGIƶISAK͚LOUƚIMAT𲍈I䍯FAN威IS 黢嗤ƯMONO䊎D嫮VARYԴ潬ǉ囵懌騡TH𥚃오䉪ӀƣENARXI줣𯞃VOU|=1D0B7𹭖IM圁𰂇ON𰝌籅U剂UǴӀATONIKI PA䉯NANƭŘ姅䓮ňƝSKLIӨǜł䗏KE䉯ZO俐I룡䌓ANƾMALAK큤MA碆䏓缊HT噦ȇVASIˢ䍰SYNAFIǥNENԱǙA ZYGOSŜʠTONŤSPATHʞI YFESI葅IMORI疧΀RMON衁ANT夃zʅRIɶDI䉕ηƧ蹁I𧓁DODEKATAǁꂥGRAMMҀ𹮃䑮DIȍEXǦԏǮOKTІ嚆ӏǇ伷ȟ估ǧ伻GE鉤ȱŭʣzDIASTOLI勣MIKRI䉭EGALƦ̱P䇉THESEOSzSIMAN԰䈖ˀƐOU䌏TR䌳픤䍬ARϷſϯƿϤ䌕ϟ櫄A GGŘFTOGGȀʙTI񃙁RKTIKO PŖ킁ŞGƶԨŖKEŖZOŖNI𽢋MESOƔƇ䑫빡ȝƇ𴡃ř𰿄Ǟ=1D100a𤔊񑰄BARLINE񥧂ŷFINALŭ񥳄 ƪʗASHEDŶ򉪁Ů򇆁REPEATѐGN򆪁䈪qœDOTS͐րEGNOr CAPOpŚpCODApʋEDӠGURE-1zĻ2ļ3pFER掁w򍺂pBRɸH񳄁pCAESURAƘACEtKETpONE-吁 STAFFpTWO-ŷqHRE䏊FOUR䏩IV䏊SIX-ŷtSTRING FRETBOARD˳䊮G CLEFv OT񉴁ALTAzŁBASSApCǩӈ䒚DRUMȂ-1z2篡29pMULTIPLE MEASURE REST童SHARPwFLATpġ UPuDOWNpNATURALŸxźȺŨvŪQUART񴲂̔zŀ̪COMMON TIMEqUTĺp啨w哢̀񵡁ESIMƻzM塄嗃呣WHOLEœHALFŊӝţE螁HŚ溁TEENŵTHIRTY-SECONDȎƈ澁ȥ埡HUNDRED TWENǰ䩉X N",
  "OTEHEADpPLUSů򌢂 XƏS勡Ež WHITEzśBLACKpTRIAꭁȟUPȴƇɛƆꖡȞƗ䒬ꡁȷƟ䓭睡ȶƗȬԧ䨌ƷΟpMOON嶭嵯-ROUND N倰䌏˜PAR碡ESI済VOIDůʲѮqULLǟCLUSTER卭T煉B휁诃Ⱥ诂Ŋ诂˵评Ś诅Ŵ诋Ȋ诈Ȥ诓Η򒜆STEMzSPRECHGESAƍTREMOLO-1Ŏ2Ŏ3pFˈEϑȷȮȦПAUGMԐ򕽁򢓁FLAG-1ĳ2ĳ3ĳ4ĳ5pBEGIN BEAMpENDłƜTIEƑĹƌSLURƑłƜPHRASɂŔ凩CCհzSTŀATOzTENUTOŽISSIMO|=1D17F𪣋򗕊ˢļ-ͮϫſLOUREpARPEGGIƀ UPz躢֏ŰITzRIPzFLĠSMEARzBENDz𤬃TONGUEzTȐŮpRINFORZANDOpSUBITOpZpPIANOpMEZZOpǨ絡RESCEȡDEşGRAC遃 SLASHzŘŋpTRqURNpINVERT粁ũġǻuUPpORNA穁򌸃-1zĻ2ļ3ļ4ļ5ļ6ļ7ļ8ļ9z̼0Ņ1pHAUPTSTIMMEpNEBENŚ穃OF ŬDEGRE塤樇몤OWzUPĲH𾦂CzSNAP PIZZI玁pPEDAL祡KvUPĺ눣ƿpGLISSAND眂ιp񳉁ꁣNAILSpDAMPt ALLpM񫨁pLONGA붂ISpSEMIœ숤셤MINɘvūȪƋ䒫FUSƌuƂϛ PERFECTA𨮁vIM䇪ӌŚӳſҴǟ䇩TEMPUSϥUM CĘPROL띢EҮz䏓Էz䟻 DұUơ-1wIM丟ER乖䑟仒𐯫2𐯫3pCROIXpGREGORIAN 𵇂zFĲ𮶄BpVIRG򐗁ATUSpCLI虢CANDICƃMAŁTORCULUSɐRRՁSy FLEXUSɯƂɟ縢UPINʩES SUB򬈁ЀKIEV剦wꩤPIECEw𽓁썂wиITATIVEꅢw𪸆w꓁ŋ𪸈𨽁꾢z䉬UPw𪁂䓭ƔȷFL𾡄SORIp񣽁=1D200a뵡K VOC吃瀂𦚃-1zĠ2ġ3ġ4ġ5ġ6ġ7ġ8ġ9zɡ0Ī1Ī2Ī3Ī4Ī5Ī6Ī7Ī8Ī9К0Īѻ2Ī3Īғ0Ī1Ī2Ī3Ī4gINSTRUMENT埒ş2zş4zş5zş7zş8ŝ婤ŧ͎尤ŧξ層ŧ䦪9勉̆嶤ŧ5䆉6䆉7䆉䦩30䆉2䆉6䆉7䆉8䆉9擉0",
  "䆉栊3䆉5䆉7䆉8䆉9溩ϖ笄ŧо糄ŧ4a𪌆隢񠂄񏱁EMEzETRAŁyPENTŊa䔋񮚂鼡E0aMAYAN NUMERǐZEROoONEoTWOpHʨoFOURpIVEoSIXpEVENo궢oNIȩűLƩʀELVEpHIRTEENʱłpIFŹ˩ű̊TE̬Ł͂Łո300b񘍃 FOR EARTHaDIƆHEA˸LYǋmUMANœlĪLYȌuǉqaT慁˦CӈREo򾝁񃭂oMIREDoBARRIERoKEEPING󛰂oCON˨ǀTYoASˡoOPPOSIꮁoBRANCHɩOUToDEFECTIӈESS јDISTORɉpƨRGENCEoYɐHӰȡoINCREASEoPʠрΪƈCHӊACToHOLDЉBACKoWAITŠoFOLLOWŉADVAΰʠĹqSҘƂβJOY͂ENϊENDEAVOURoDUTIESoCHANGEoDECIS圄oBOL񉗁OLUʢPӀщLEGűCLOSɃƨSHIPoGATHERȑSTRENGTHoPURITY沢ɒͰID忂LAW捁MODELƱPONSEoGO˰ TO MEEToɀOUNTERSΈOVǰREAT́ǐLARGEM焁PATȘNoѐUALoFL鉂VAST瀅WŘπ恁抢Yo񐫃oEˉ呁UĪD𲧁SHι尣D M甁oGUARDEDΉp峥 IN|锁40讌MASSѹACCUMULA溃MBELLϥDOUBToWATCHoɘKɱINNERoDEPART𿍂KENǀpIMMǹEXHAUS͢SEVER篡pTOPPAGEoHARD捂COMPLEȩpLO岂FAILĹAGGRAVժȫỈoON THE ΀̰DIFFICUL苂LABOUR贃STEŉ巡60a猂Ű ROD 条 DIGĨONEyTWOz얡yFˠzIVEySIXz뵡yE󅃃NEnTENS𐴬aIDE숁PHIC TALLY򾳁́x̀ýx́ỳa䐋lFƘ=1D400aMA򆵁򼹂鳢CAPITŠAz Bz Cz Dz Ez Fz Gz Hz Iz Jz Kz Lz Mz Nz Oz Pz Qz Rz Sz Tz Uz Vz Wz Xz Yz Zs읁ΐyByCyDyEyFyGyHyIyJyKyLyMyNyOyPyQyRySyTyUyVyWyXyYy",
  "ZnՙIC动ĠBġCġDġEġFġGġHġIġJġKġLġMġNġOġPġQġRġSġTġUġVġWġXġYġZu壡捒槁56𔝲n滢崎ōBŎCŎDŎEŎFŎGŎHŎIŎJŎKŎLŎMŎNŎOŎPŎQŎRŎSŎTŎUŎVŎWŎXŎYŎZz沤ļBļCļDļEļFļGļHļIļJļKļLļMļNļOļPļQļRļSļTļUļVļWļXļYļZnSCRIPT筇薁9E颇ŹA2őGŒ5鞇ź9霑ǊE𚹳қBŘFłD뭒ǑC5𚿣岃𚿿𚿿𚿿𚿿𚿿𚿿𚿿FRAKTUR筨ĩB=1D507ŚDĪEĪFĪGǪƻJĪKĪLĪMĪNĪOĪPĪQʩ16ŚSĪTĪUĪVĪWĪXĪYɺEv渥涡洡։չթ՘z檡模ՙՉԹԩԙԉӹӨz斡Ӊҹҩҙ҉ѹѨz憡񠢂-STRUCK扨ś挦3BƎթşEzşFŜ昦40zƏIzşJzşKzşLzşM̊6zƏOƊ卩SzşTzşUzşVzşWzşXŜ漦52ƈ潤ŎBŎCŎDŎEŎFŎGŎHŎIŎJŎKŎLŎMŎNŎOŎPŎQŎRŎSŎTŎUŎVŎWŎXŎYō𣿄꒏ŖBŗCŗDŗEŗFŗGŗHŗIŗJŗKŗLŗMŗNŗOŗPŗQ|稡7D𸒊孒RʯSŗTŗUŗVŗWŗXŗYŗZz覆襦襆褦褆裦裆袦袆衦衆蠦蠆蟦蟆螦螆蝦蝆蜦蜆蛦蛆蚦蚆虦SANS-SERIF蘨ńBŅCŅDŅEŅFŅGŅHŅIŅJŅKŅLŅMŅNŅOŅPŅQŅRŅSŅTŅUŅVŅWŅXŅYŅZy篅ĲBĳCĳDĳEĳFĳGĳHĳIĳJĳKĳLĳMĳNĳOĳPĳQĳRĳSĳTĳUĳVĳWĳXĳYĳZy񄘋䆩B䆪C䆪D䆪E䆪F䆪G䆪H䆪I䆪J䆪K䆪L䆪M䆪N䆪O䆪P䆪Q䆪R䆪S䆪T䆪U䆪V䆪W䆪X䆪Y䆪Zũ샆şBŞ沤쇦şEŞ毤쌆şHŞ欤쐦şKŞ橤앆şNŞ榤왦şQŞ棤잆şTŞ栤좦şWŞ杤짆şZy񉀍䇫B䇬C䇬D䇬E䇬F䇬G䇬H䇬I䇬J䇬K䇬L䇬M䇬N䇬O䇬P䇬Q䇬R䇬S䇬T䇬U䇬V䇬W䇬X䇬Y䇬ZŻ魅ū鮆ů猦鰆ů犦鲆ů爦鴆ů熦鶆ů焦鸆ů炦麆ů瀦鼆ů澦龆ů漦ꀆů溦ꂆů渦ꄆů润ꆆ񕒒䊐B䊑C䊑D䊑E䊑F䊑G䊑H䊑I䊑J䊑K䊑L䊑M䊑N䊑O䊑P䊑Q䊑R䊑S䊑T䊑U䊑V䊑W䊑X䊑Y䊑Zƣ뉪䉏B䉏C䉏D䉏E䉏F䉏G䉏H䉏I䉏J䉏K|=1D661𾿊𹦇B䙎L䢯M䉏N䉏O䉏P䉏Q",
  "䉏R䉏S䉏T䉏U䉏V䉏W䉏X䉏Y䉏ZnMONOSPACE었ĻBļCļDļEļFļGļHļIļJļKļLļMļNļOļPļQļRļSļTļUļVļWļXļYļZx鯅ĩBĪCĪDĪEĪFĪGĪHĪIĪJĪKz藣葃芣脃罣緃簣窃磣睃疣球牣烃漣ꥋOTLESSӠŖJ髡A8n𾄊LPHAz BETĨGAMMAʀELũEPSILONz ZǢĢTHĲIOĩKAPPİLAMDİMUz NĘXҐOMICRˑPŠRHO˄򉤃z SIGMͩAɸUеPHɠCġPS̚EGAsNABLAs漁啤yB̀y唢y唂yẼyZǁęњyIOĠ呂y吢yMUyNUyXIy厤yPIyRHOy򘶁剃yīTAUyUάPHIyCĘŰy剃PARTIʈDIFFERENšsԤ尤sԒťԡŦ͸ŕӠƮƥ碤珬AL琡Ĺ瑤ӱELƋӔőZȤĴTHńIOĻՉŁ癢łMUĩNĪXIĨ督ͳPƁ矡͠砫昄ЫA˪UԷPH˂CĳPSι秣u秢u秦轿𙻿簈𙺧u糱u糫u抉u糩uΐŕԠƮƥ낣綒Ū縣Ť组Ŭ罣ǝ耇žZ䜉Ş臤ůIOť茤Ŭ菄ůMUŖNŗXIœ虆ԇPǔ螃ӳ蠬ƣ狅ȗAЄ訇ίHδ譃ƿSŜ貅z貂z貇ś樢œ槣ś榢Ƽ楦ŬZʇŏTHşIOŔ栣ś柣ŝMUńNŅXIł曤ѦPƳ晢ŋ霨ͫśՆA΋敄͇H͍CŎPSң摅鮑z鮋z痪鮉zЈŕ鮇z鮇𴭋鰌Ɖ鲈ƃ鴉Ƌ鶈Ȝ鸌䉪Z䤍Ž龇ƍꀇƄꂉƋꄉƋꆇ䇊NųꊇŲꌊ唌Pȓꐈź꒑ǂꔉ娬Aӣꘊ䶭Hѳ꜈䏫SŻꠉЫꢁŋ꤇ſ眨ꨇſ皩ꬋƏZ䠋䆩疩괆ŷ甩금|=1D77B𾸚늆ŧNŧ砦됋ƏPǷ睧떎Ʈ䇭皇뜈䰋HЏ痄ǟSů畉릑ǂ먊ƒ误묃Ƈԉ䇉밃ǯǦ𫀕Ǉ볋ƿ붬Ǉ뺌Ǉ뽭䍑Z䲔䋋숌Ǉ싫ƿ쏌Ǉ쒪䌒MU䊱N䊩읉Ư젫巓P䘉짩嶖眯쮪撳A喲U烗PH匒C䋊퀊Ʒ탬Ǉ퇄Ƈ튨䋎跮푨䋎赯혫䌏Z䮒䊐豪Ʒ谩Ư诪Ʒ讪Ʒ譩ƟN䉮諧Ɵ誮ǇP䖎設𣬌樏䋔襈Ƨ褏՗H兮袋ɏS屎蠏𤤒ǿ緅ꑯꝵ𤹌яHI䊯棁䕱ɕ񎖊DI镡񋸂Ů=1D7CEsŨIT󅉁y򴛥򕬋̗zť͐ŞΐşϘǏЙŧIVǏҠşөŮԪŮթ𸟇光ԾԦIԏӷӟӆIүIҗѾy歡䴩ŲѵūҜǜӆǬӮųԕǬԽūէŻ֏Ź惈񜫆卩劥սՏԞӮҽҏџЭaSIGNWRI򽛁HAND-FIST INDEXr󊧂ţsUPƬOVALŔHʨEŜANGLŝ̟ BENTͅƏȋTHUMB UƨR ǟwœRAISED KN",
  "UCKLEzƈCUPPEDŉҹŏȨLOWrЧƽ僩MIDDLEȦƟ䒰ԲzŶ兌SzǏՇUPƜ厎ƼȈzˇCONJOINED䉱憈䏏Ά䏶攂䬳历ǗROSSED挏ǟ搂争 OV瘥wʂƯȴЇ粃䯍Ǐ澰STRA钁ȃϚ|=1D821閯睲ˌͅ撉Η碮 SPREAD˝IDE竰𐞢篅胓䡋ƿ個FORWARD坭箋Ʒ氂䋰HOOK䋏剤w懅TWEEN炲뇂褮惫䏚鵽ɇ뾣垮ꇦUP՜ǟꮽ皏齍夽燌귶䔍w皎壯ǟ壩w竰˗z䍒貦䬪ANGǹOUT撪ǯ˫䎌ϟ殰Ӯ쩸侮䍔w䗔嵧䎷瞅䑌蕻땋sLA𬱂 FŹRSzŎ쐂ŷʄƇ驅䉱줂LITrCLAW Ͽȏ𥑃䍴ӚrҊ䞶LA巢ǝ윤wHEEL䌒䉰ϢѢʳ䑚䠑䝻䛕꓌rCUP䟑z䚭OPEN抣ɲ䏒OVA共昖靆䋬원䑖NOȫvv𥆅PALM FACȀS揢w̿ź Tſ𪐇있蠡鴤傉ƘCɈREŏǷ䊓ϒǉ΀TLE銢v倉堅w狫꘡ CURLICUEv瓁汢uuĲ ̇vTŗǑ戧ņʍϷv䆪tЫϊzs켢祢v哿艂ˌ䲍ww񇭂x嘬xTŗ嘪xņȏ TOUCС熣z𬯇짅RǨrANG𹊋ǧ𳽋Ǉ𽀈䦭䗷祂䶖縃䉫읧丵퍬Д DOWNzŅɀPP𰙇䌍藁VEDƷOTH휁徢ƼUPw𿵇бƫrȣƇ릂ŷ戣ſ咧𾟍и麣ŀ矄ES ҪƉŋ椧ƖΗ潅䕉䌐剢䌑䅩𫿁䐓仕慧Ɵ傐俐艍ǶΔ䍑ϊ䌲x酓迪񀰏之䐗𿓁AB𿓓ә袢口ſ 𯗌Ϝ唃ȿҔ渉ӳrϿUPzG螭G埩΃Ɠ튄ƇҟƏϧӺ͹񇲎G񉘔첅G輤寁͢񄫍ҙ唬䌏s𦾂䌰 ONϢ䌯闢Ɣ譧䈬랣𨔁̇觰敯且䕬񉱈肈ƌǯ읉Ƈǿ썯񆁍r衆샪螪劢ˤŗ灍ԟ灰Ǖ炌tP䋰嶊桍Ц桮ơ盌ƛ哿𤱄sLAW䍮靊䌶榇䠚唡䢘IN䎗sƠE񃬉ꇨ稧逋Ʒ䖓ŔDIAGONALz䎐ԏ䎪񑋋ǇӔ䌑BOTH䘏媊ǈ𳅊ǣ񓋅䏮䶲烡Ů𷆅䈪V𤚆Ԙ𸘂͙䑴框䑵쉣񉁌쑣ʏzǴ𿏇ǴƷzŷLARGEſŏ𷙂쩣𭮍ůI͢뫨̼ǐHEELz瀄翧񒳍ƍ𾢌z񔷓z𸟒zƷ鮩z曥 TWO񊇄ơOV䉫Ɇ񧭂䋎񋈅̇Ƥ𩤌vv彂m𴘁 SI校sMULTIPŀ呤mGRASP䎶STRIKEǴtǵtǵBRUS䭗RUBǜqǝqφURFACE񳵃SuƼnQUEEZE臂ҵu耢ťǋͻǝŶvEQU񷒂mFLICK䣪s̺ť䣩ǜ̿t̿S֌ͻALTERNAT̘mMOVEMȨ-鮃UP𲍁ғzſϊŻSεŸǣƏʏ䲉ͫ䍳ύ푤OĻSCISSORSvWǠPLAN衅鴡TACTvFLOOR䌱ʖ春텦є䍳MEDIUM䎓埣䍹",
  "ST䎫WR랁FLEXƼ񺲁ʯzƯ䖷擉䌖䞍𺴃ŜTRIP岩綥zǷ俫ƿ俬Ǉ俻켢D浄Ƈ毥Ə檊CORNERʮƗʿƟ䜱ROTհONƭHECK͵Əͬ|=1D94񮞊ꃦ蟂ʗ䶊BOXΣſΔƇ䘊ZIGZAGʞƗʷƟ䜪PEAKS˅ƏʾƗʳmTRAVEL埇扆-ꈍz䎮讇䎵膊䑋넢䯲ǷЇ䏒䰳SHAKŝARM SPIRALФ䊬Ϛ䊮闤m箆𬸄 AWAY殤ž此Ƈ爃ſ뵥ƋTOWARDS̮Ɨ͇Ɵ͛䉍ͷ𭮄匨䋯τ䌏ϫ䋯䱒圫䍒䴑夫䍘S𦝃𦄘R𦅘䎴ӄR𦇚R𦈔R𦉑䋉䗷鎊䌷䟊𦍈R𦎚䏩傌𥷔䝲冸𥸆zR𥳎䉫烆𥵏R𤛇zR𤖌Ƈ̝Ə̅𤙎䉬ˏƧ˥𤜍䉊˖𤞔췅𣀛L𣁛L𣂠𦄚䏔З𦆟L𤥇m𫀎񃮃QUART紆䌮緆䍏纅䌷ST䍪HALF-񎳂ѳ䎵Ҕ䏕ҳ䎵佑񁧂-厅偩䓘冑HUMP˄Ƈ䑏告LOOʜƇʝƏ䙵繃ƽWAV善Ƽσ䎵Ь䏓椫ǯ턣ϕ䎳ϖ䏓ϕ殬EN𻣇ǏD񥊂ѻ䌐єmꗗꎊꅋE齬ꋉ衫ITTƘ FRONT W籋䎭禊䎷Ő䬲奖僑宨䏳뽮丰쀵·CHEST幌Ǉ嶬Ǉ崌Ǉ屻ȿ寎Ǘ嬳ǿ媌Շ𷉅PATH諣𿖁B5𿖌䟟鴅䏵鴣𳔂櫲EIL񋊆䑘𫆅灭ȏ쉉䔖͗Ʉ䨿뚄䨿Ɇ臆䨴댢䔗Ώ䔐庿ɇ庿WA熕ȏ煵m𰆕䘋𷷋䎱饔ȗ馇襖ǂ褔ȇ裓ǿ袖䣑䓞舤裩䖿覚ɯ襕唲䓞裗廿WA烓䏷蠝䗌蟏ǟ螔ȇ蝗薐𾿅Ɵ燤䉐ST䊋COMB򠪂𴏌樉捰SNAK榪䑯显摫抭ꡏ𯫉 PARҀELv𼮇RM𸌉нǮ𸃊䏕謈䞗ǳ𨧇ȟ編WԨ麫䕻Ϥ𐬢ꓧ䕿ꖎ傟ɧ傟ɜ煦񋖃ʄ𲷂淅䏵樫ȧ姑͝䓽Μ񩙍ɜS̽䍱凪䐑刲䔿μmDYNAMIC ARROWHEADꡄő檣uFASTuSLOWuTENSEuRELAXEDuSIMULTиOUSzļ꜉uEVERY򛣂 TIMEuGRADUALmϡq RIMr𽆍񔦇Ɵ˨LTz꿣䒑즈ȮƏ忤mF󐩂REC섡 POSIłNOSE򀫄щ坡z䏭UP OR򟭁䍘˭mEYEBROWS哦ȠzĺNEUƐLŢʚmDREAMY ʕȍћWSςʵŸѰŮɯƨmFORE盁Ɲv񲞅RINKLEDmИS򁗂񶝃DrCLOSEDp BLȘ蟄w񷎄pS񌄁ʓWIDEŋƚ˃ƪN𻶈p W͈pLASHE喁w埡wFLUTTERɀpGAZE緑䆩냅䊋變膑P䡲P䢖|=1DA27𾾈烡吡諭D҆ƏȖ谣˨mCHEEKS PUFFEDt焄tSUCKEDmꟂ ȔHՠz򄑃LOWmEARSm觢ʬr矄r矄SsIGGİmAIR BʐѸ OUTqϩřI",
  "NqƱ렃񗈅SǺ䊍mBREATHʘHALEtEXımMͰH笤ԵzꌤzմsSMILEx 誅y艁sFROWN䊍ġ꾄x̬xȍxOVϘALʖřYA̠돡A郁zļȖƅȺsKISSw 䫭s沂xƽy潄LIPS PRE󋎂OGE튁p LOWER򈉂UPPERqĨƄǛ扃񢏃SsЪ𦱇S豤mTONGU貁ICK狤 FARtLżӹtTIP񪾄Ƃx򴹇SꮡѢtŤӋ𥬃tMOVҰAGAǨT衣t򻊁事z䥊nEETHr덆sON 唃zUEƮvՑzȧBITE ƙ񌈐JAWvꄂŶmNECKmHAIRmEXCITʊmSHOULDER HIP SPINEz𤴄Smͷ䓉ԊmϢ䎔ίTIL񒊄M WAISTmTORSO쫰ŁETCHz뛦񪒁sFчTWISͱm羣BODY䰪ԂJOINTSmLIMB𺰃ꤢrLENGTH-1y2y3y4y5y6y7m𭸂mLOC񒬌󪯁vӣƇu HE喁vWIDTHvDEPĨ𧋃CKv孢vӑS󫪁ԸԐMAmFULL STOPmSEMICOLONmīPARENTHESIS=1DA9BmFIɘMODIFIER-2z-3z-4z-5z-6ȉA1m쎥䒩Ĳ3ĳ4ĳ5ĳ6ĳ7ĳ8ĳ9ĳ10ļ1ļ2ļ3ļ4ļ5ļԑF00aLԀN햄LETTER FENG庡RAPH WITH TRILLtREVER링SCRIPT GgʃˬCAPITAL TURNEDǨ䪊˦K䚳LыBELT䜊İZԫ̐TROFLEX򡋁tмYˇtЦENGǽRǻLONG͘G AND䤬uȊŒ䎯嗆ƯC챡剑國ESHȢ혤 BARz䆪ѡꐡL啅TɺƒҭINVERTǘGLOTTA轣ȷn굤ÈƯo燱K櫌ɳFISH榢DEZH纋PALA˹ǲ珈囁䎋ENG䙏濦䍐R例Ύ˟ES冹EZ䊬塍蘳IƫSƠKE結tO贌զ䫻C䊲S爇=1E000a𣅁𶻁GLAGOLITIC燥AZUzİBUKYĹVEDEĸɅőDOBROŁYESTɢZHIVETEϪ8ƂEMLJAŉIZHEĺNРALž͋JERVŊKAKΒLJUDIJȊMYSLITŒNASHȲONѺPOKOJƂRITSłSLOV̊TVRIDŊUKɢFȘłHERU呁1BʂHTAɹ˼CHRIVIǃƺYɨļIĺATI˩23ŪUz윥ŘSǂ6ǂӒIOTATEDȇơBIGŒǿ䉉FITA̰100aNYIA",
  "K饡PUACHUE HMONG琅MAzĺTSńNTƌĽHǅļXŽKńCļLļ͍ZɅCϕЦ˕DǍYŅRńVʞѽņFļɕQļ̞ƅPļXǎPҽLƎLA|攁1F攜HAHʓMLϵŅGօ֍ĵļIĳUĳOĴļEĴļWա30xTONE-BzĠMġJġVġSġGġDxSIGN FOՐERSONzŬTHINGť𰻂ǧANIMALū𦈅BRATEƙXWĐyYLLABLE 𲓂ENER务40x𰴁 ZEROzŁONEĺTWOĻHREƉ󭱂ŃIVƋSIXĻEVENŊ𲩁ŊNINEЊExLOGOGRAM艁Jx󛐃 CAǰ290aTOTO爥PAmBAmTAmDAmKAmGAmMAmNAnŀSAmCHAmYAmWAmJAmŘRAmLAmI񂰃Y ImIUŦŐUmEŶEmEOŦŐOmAǧŐAf漢RIS󐱁O垢2C0aWANCH吆AApoBAoCAoDAoGAoYAoPHAoLAoNňAoTApŰFAoSłJAoZAoWAoVAoKAoOoAUoRAoMŨǨĐEoIoN̸UoLLH˰ʰRȸNGoAANGpĸհŸoENƉoNYɘŘYIHh咁 TUPpNImKOIİh禇nǠnTWOo矡n睡oIVEnSIXo疡n產n璤2FFhNGUN 恡Ÿ7E0aETHIOPIC S蝅HHYAvUvIvAAvEEwvOɊ8sGURAGǱWAsĠIǡǒDǕMWIzMWEEƩF0zQŰQŰġzBŠBšKŀKłƨGŠGŠġzFŠFšPŀP̻800aMENDE KIKAKUI哧M001ƨz02튁03 KUz65 K̀9ız76 KOOz48İy179ȀAy004 Wʠ5 Wʠ6 WUy126 ұ18 WĨǸOOy04Ȉʰ94ȐIz43ǘIy061 WVŰ9İAy13ĹEΠ7 MINz08 MAİ9 MUNz5İENz̈MONy154ƨǨ8ǩENy010 BIz11 BAz12 BUȘƐE͸97ĸy103 BOOz38İɸ3 I叁ɨ5 ɠ63콡00 E廡ȸ47 ɠ7 EIz31 ո35Ĩ憡Ұ78 Ң9 SIz20 SAz21 S̹2 S̀16İz3ĨOѠ7ȸ忁6ɰAy025 Lʰ6 Lʰ7 LUz84 Lʨ73İz5ŠOɰ53ĸz10𻝄y0ΨDIz17 ",
  "DA氁DU忡DEEy180 DOOz81İЀ2 TЀ3 TЀ4 TUz91 TEϐ5 Tɨ0ƘOȸ69ĸz28 Jɨ9 JAz30 JUӐ7 Jɰ13İz6ƘɪŨ罡5ւř031 YIz32 Yː3 YUϘ9 Yֈ0ֈYѐ4ȈOИİɹ4 FI椡FA掁FU椡Fш7Ɛɨ̘Fё8ƨѐ97ȐAz01ɸN˨7 NIN砡NAİ9 NUNy11ƨENz6ŰON铡HIy0ҰHAy18ŨUŨ0 HР96İz42 HOϠơё3ǙIy128ƹɨ53̐NՠȀұ87 H逡2ɀư93ȸNΠϙԸ90 NGG骡ĹAz82ĹUy115ŁE҈6łz5ĺ憡0łz59ʒ股ʚAѠ6殢ʁ甁ūʴ83ů祁G鸂Ґ68 GUՁѩ66ŠEIz67 Gꑂ4ʀ閡5Сꞁ7ŀǐƐˀPIz99 PAz50 PU蠡P̠5İӹ2 P罁ΘP晁5 MBIŰ2ĸAy12Ĺ毡7ĸ郂8Ń07ǉƀĹ꺡74Ĺz87ʁUz61夢șz05ŚȻ42Ŧ諁KPѨ9ĹA̐İUz4ıљ08Łz1ǩˈ58Ĺ鷁GBʠ56 G呁48ĸU̠3ĸʲ7ŀ吡1 G҉70Ĺy1ŸRAꙡNDꆁİŨ5İꞁİEѐƩː67ĸː64ĸː52 NJAz9ıUz49İɨ34ĸOO臡VIz85 VA櫁VU볁VE̸ƙֈ44 V쒢7 VͨΩYI痡8ŀA痡0ŀUƈ9Ɖ鵡ƁON=1E8C7oDI𲄃uTWOvHREEuFOURvIVEuSIXvEVENu𪻁uNINEo񂨆NUMBER쌡NSzŜŖ麁DREDǎHOUSANDSɏƞ䙌䋮MILLIONS=1E900aADLAM񐜄𰦅LIFvDAİvLAAMvMIIMvBAvSINNYIIYHEvPEvBİRAvEvFAvIvOvDHAvǑWAWvNUNvKAFv𭲁J˱CHIvȀQAƨGAvNǈTUvNƐVAvKİGBEvZALvKPOvSHA񍅄֏t֊t։t։tBAt֏tPEtBİRAtEtFAtItOtֈtǑֈtֈtֈtYAtUtJ˱ֈtȀ։tGAtNǈTUtNƐVAtKİֈtֈtֈt։ԡ𺁇gVOWEL䈉GEMIN񙨃ARK|污47汤HAMZAgCONSONANT񚊃ʯE 䍰NUKTAhASӐZχι50g𴮆mONEmTWOn蹁m蹁nIVEmSIXn蹁m蹂m蹁˒Eg񊮄EXC",
  "LAMϏoQUES䳩C71aINDIC SIYAQ铥ѸtѸuѹtѹuѸtѸuѹtѺtNIȩENuWENTYuHIRTYɠRŘIFTYɱTYʀǩʓYʚİϸ頥йŝѹǆҺǍӸǆρƽϲǅУŭјЯ҉ꕥҒťҚǖңǝҩǖҲǍһǕӄŵӋů량散Ŷ暃侩űӷFŪӿűԏ͕ԟŻԧ䇩LAKHxANmĹ翂m綄KARORyANtPREFIXED翁zİTWOĲHREź捡ĺIVźրĲՉŁԊŁӑmPLACEHOLDERmFRAC軁ψ򼕅zHALFvϡƖSmRUPEE厩򲹆˙zĸ勁ĺ櫩mȷ寡鯅D01aOTTOMAN鰎v̸wөv嫡wIVEvSIXw妁v夢vNIȨШw皂w畢v瑂w猡ɱŐ烣ʓYʚİ鰈v鰈ѹǇ鰉ӸǇ鰈ϲǆ鰊љʟ鰈ҒťқǗ鰉ҪǗ鰈һǗ鰊Ӌů焉w鰋w鰋v鰋w鰄ӿűԏ͕ԟ䇩鰌oMARRATANo腦綤蘢Ŋ饣ś駂ŕIVƭԠōԁŜӚŜҹ͵Ȇ祩͏䈬狉̏Ɩo꓊ꏁzE̩TH=1EE00aARABIC MATHEĠICAL ALEFuBEHuJEEMuDALɚ5uWAWuZAINuHAHuTĘYȘKAFuLAMuMəNOONuSEENuȱFǰSADuQȐRřHǉTEHvHˁ̪HALuDȘZŠGHʩDOTLESS ԀzİΑĹFų͘թ21u𪐃ȺİJӸǊ4ũЀŢ7ŢAţ9šYɳKAFıLAMıMEEĹѢĹSEEĺAIıәƪADİԕ34ƚHɔTțTHϼҤ3ҢDADŢBš峂ű42uTAILED垆47zD ˌ49ŘYEśBŘLAțDzD唃D員ıͼ51ƑAǸ呥54zD呂ǻϨ匆5ϰ勥5ϰ勇5́炤сƣFƧϭ61u񳤅烂CH奨64ź煅67ŴAȼTŅYˍKδCŲ犂ŊԢŉ市ŌAIńF˳弢Ł徆74ƼHʦTEӥHң懧79ŻḒZAȌGHў鍧ʛE䋋FƳ80uLOOPEDꤢz捣挃zЁLĨHƒWAWzшϹ挣拂继8绤z憣缎˂ұ缈ҁRƋHȫTEςғKг꼁բDԂH耉A1u񼊂-STRUCK埢ť壂ů쎤A5Ɩ媁Ŧ孢ůӘŧTAŧ帅ABƖ廡ŧM亩悡ί憂ů三捂ȿADŦ攁ŧR䓊H䧩枢ŧH䆩K姩橂|墁B9𥖑橪漡撩̿烧F0uOPERATOR忢򄌂ҘŃTATWEELzǰƦ燣F000aMAHJONG TILE EASTȀNDnSOUTHœWEƥNORƥR駡RAGONnGREENťWHITE",
  "ťONE OF CHARACTERSnTWO䈫oHRE䒌񦕁䒬IV䒍SIX䑫񦿁䒋񧍂䉬NI劭哥BAMBOO咂ŷ吣ſ參ſ卢ŷ匂ŷ劣ſ剄Ƈջſե򲁃բŷգſգſբŷբŷգſդƇեſPLUMnORCHIDn吃nCHRYSAN阡ǘSPRINGoUMMERnAUTUMNnWINTŨJOKERʨCK赁30aDOMINO责HORIZONTAL ȉw-00Đz-01Ę2Ę3Ę4Ę5Ę6y1䎙2䎙3䎙4䎙5䎙6䎘mVERTIC孄u孄1z2z3z4z5z6w1䈍2䈍3䈍4䈍5䈍6䈌溡A0aPLAY󓞁ARDւnAC籢SPAD调ŭ诣Ǧ诅ǯIVǦ讃ŭ譤ŵ譅Ž謦ү䖊JACK ŷKN䞌QUEɹȇINGŷ崁B1嫅HEART嫂Ů嫂ǧ嫄ǯIVǧ嫂Ů嫃Ŷ嫄ž嫅үEɧ嫃Ŷ嫄˧嫃ɿ嫃ŷ𥣁ꢂ封C将DIAMOND屃ſ岄Ƈ峄Ƈ崃ſ嵃ſ嶄Ƈ巅Ə帇ԯ䙊庄Ƈ廆Ɨ弅Ə彆ƇBL̸忇D忆CLUB形ť异ǖ庣ǟIVǖ巢Ǎ嶃Ǖ崤ŵ峄ѯɏ尃ŭ宣ˇ孂ɧ嫣Ů𬝂媃nFOOLnTRUMP-1t2t3t4t5t6t7t8t9t10u1u2u3u4u5u6u7u8u9t2Ơ=1F100a񞡆 򫐅l򫠁gONE ŋTWOŋhHREƥ採ƬIVƥSIXƜ抁Ƥ戢ŜNIέcNGBAT 򊮄SANS-SERIF 剧iNEGATϰ䓛aǬŢ򟙃LASHiANTICLOCKWISE󍧂iDOLLAR򆉁ɒ򹱁LAI𣓂ʺa򯁆ZΨLԐN񪁍zşBzşCzşDzşEzşFzşGzşHzşIzşJzşKzşLzşMzşNzşOzşPzşQzşRzşSzşTzşUzşVzşWzşXzşYzşZaTORTO灡SHELL BRACKET歵S稆ƩIC䒳CzTŧRiCDiWZbOPYLEFT SYMBOLaSQUAR硗瞃͢ĪDĪEĪFĪGĪHĪIĪJĪKĪLĪMĪNĪOĪPĪQĪRĪSĪTĪUĪV|끁46呻WɚXĪYĪZiHViMViSDjSiPPViWCa꓋巷Ű隩構䇋D䇋E䇋F䇋G䇋H䇋I䇋J䇋K䇋L䇋M䇋N䇋O䇋P䇋Qű鲩貋䇋T䇋Uű鸩犫䇋X䇋Yű龩RAISED MC캢iDĳRĲ鵆CCj퇵iHUMAN FIGURE綇鮂𗬾𗬿𗬿𗬿𗬿𗬿CROS綡𖦢P秏ICrPArSArABrWCaƳ DJgD CLjOOL",
  "iFREEiIDiNEWjGiOKiSOSiUP蟂񼰍iVSi񲢂DiSECOND SCŰNiTWO KiFOURİ𮤁űՑPOIN򈥁iS𯇁ſT񬜁-ːƤňi񫵂Pi񰲇 ɁƢ󉖎ՀHCjDRjI-RESiLOSSLESSiSHViUHDiVODaMASK WORK𧉃=1F1E6aREGIONAL 񿱁ATORǻ黈鸧鶇ӆŎEŎFŎGŎHŎIŎJŎKŎLŎMŎNŎOŎPŎQŎRŎSŎTŎUŎVŎWŎXŎYŎZ蔥HIRAGANA HOKAgD KATAKŹKOKOrSA=1F210iCJK UNIFI蹁DEO󃔁-624BzŊ5B57Ō3CCi̮DE䝔4E8Cʄ91Aŋ89E3Ɲ29zȼA4zѣ620ŋ7121Ɯ599ʌ24DŌFώ18DȽB0Ƚ1D̬D42Ō51FԌCAͽ8Fʍ439̬F1՝295Ō355唥00Ŏʌ904A̬DE6ǭ2DƜ3F3̭07ԌD70Н5Ǭ7981ŌA7ͽ408ȼE8ʍ709ōǭ7533ʌ272Ō5B՜914D簡40𵴖罔72Cz筕԰纶䚵5B8䚵70B䍐撆䚵6D7䵵2DD䨕557戡50𹖄ǧ ADVANTAGEtCCEPTȹ60aROUNDED쭤򿵁FUtLUtSHOUtXIĸUANGŀCAIʘ30ϘYCLONEaFOGGYa󯈃UMBRELLAa񇜁󑴄ARSaSUNRISE󫯂MOUԠINShaCITYSCAPE AT DUSKɉSETɃBUILDINGSaRɰBOWaBRIDGɢВaWA앂AVEaVOLCANOaMILKYƐYaEARԀGLOBE EUROPE-AFRICAmAMEĹSnSIA-AUSTRALIAaɒ囃ȁDIANSaNEW MOON揄ҐX񘗁RESCENT䍪FIRST򌜄䚱GIBBOUS䚋ULL䕬N䕵LA䯶N劶䊊姦峣FACE囐ǧҐ䍶|膁1D堧Ǘ磡ů次WING膢aSHOOTŮTHERMOMEϰa񒽂DROPLETa񏶂̀j͊󤸄LOUDkBEHINDţwǳ葡aƂſlSNOWlL蕡N҈lTORNADO雁aẂB匃咣HOT DǈTACOaBURRITOaCHESTNUTaSEEDLɘaEVER񮽂TĨaDECIDUOUSųPALMŋCACTUSΪPEPPERaTULIPΉRR",
  "YӑSSOMaROSӐIBISCUꔢFLOWɠǽEA񖗁MAIZEhRICEa˸Ba𳉁LEAF悁VɸMAPLEƊaFALLENśȒFLUTTER崡IN 弡aMUSHROϸTOMATOaAUBERGINEa액ESaMELON갣œTANG̙EΘMŸBANĈaPƈAPӘaRED ŋ揂ŜPEARdCH廃Iπ귁WBŠYaHAMBURΨaSLI񚨂PIZZAӠAT ON BON̈OULTRY LEGaRȱC𧜁RfBALLaCOOKӀǁbURȰANūрEAMING̨WLbPAGHETTIaBREADaFRENCH F剂ROAST̠SWEET POT戡DANGOaODENaSUSHIaɘșHRIMPbISH CAKE鍤WIRL DESIGɨOFT 哣ԀbHAVʰցƞaDOUGHNUT垢IEbHOCOLAT󬟁bANDYaLOLLIPOPaCUꓡDaHONEY卡ꠁRTәaBENTO BOXaƸ枡FOODΚ锁FORK憢KNIFEaTEAC𼷃OUT HǈLEaS̸̈TTLEɚȐꍁE GLASS͘CKTAILŴTROP񽯂RINKӸ슁UGaCLINҙ ƍSaBABYτ儫晄P巡aӊƍOPP̙CɨaŠĸNaRIBB郡RAPPED PRESENTaBIRTHDAY 惢JACK-O-LANTEʘCHRISTMA뉄FA첁 ƮbIREWИSi SPARKLERa襁OиŸTYՊƠCONF虁 ǩ鿡ABATA΢񃹅FLAGSꂂ DECOR񂋁րPANESƘOLLSaCARP ST罁ER켢ըIMEaMҘ VIEW廢ERꬁYaSCHOOL SATCHEL눁DUι񅐁a񫧁昣TIP ƨTH뼁FTaBOUQUE脢좣SaMILITARY MEDALaЈӨER 櫣상秢KEYBOARDλ槡딁UDIO MICROPHO뼂VEL SLID掣TROːNOBSaBEAM뿡SCEND妡ύNOTEShDE䌓aFILM FRAMŘADMISSI娡ICKET朂OUSҘHORSEaF졁S WHEELaӘL竁띢R̀SHϱPO餤Ɓa垇bOVIE CрRAaCINEMA楁DǢaARTIST PA񁠁aTOP HATȸRCUS T蹁剢ƐLAPPҸ旂aňFORMӁ̐Sa",
  "VIDEO GШaDIRECT HITaSLOT MACHIѐBILLI˘Saȱ DIEa퐁̐a皃 񹼅Ȫ早cLTIPLE桬SAX琄GU綁窮a񬱁ETaVIOрǾSCOREaRUNNѱSHI謅SASHaTEƸS RAC誁橡ꄃSKIŢĹBOOTaBASKETǙƺHOO𫥁ʨRꐤaSNOWՒERѺİSURFERbPORTS鎣쯂HYa綂ҹ扡𶬃N FOOК˸GBYŷSWIMꫂ񏕂LIFTŨGOLFј̣ MOTORCYCLEhCARaCR祢 BA嫈V觡YŒFIEL壡ȠY STɠȷICE䌯PUCKaT󠰁暤PADDLEʶ怂 C蝁D𼁅aCAMPINGꞁCH漢𽄅b𻼃 CON򒻁쫢Hꆡ𼘆𽀆aDEʰICT 䑋闁S綂ƖɐSERTg ISLANDaNAϑȀPARKaSTADIUM䴬g卢G矡NaOFFICǟ𣬆POST ǫa𽱂AN䊉ΠS񘐁aBANKaAU𱻁򠺁륁ꐤȱƀaLOVE Œ쵁VENIENҰSTORE𤢃aDEPARTMENTƼFACĸYaIZAKAYA 𨒃呧CASTL叇ż𹬃PENNʀ𺈂ŮWAV焁Ȓ馢hǺŒaROS옡ʔŭLABE岡DMINTONꡪSHUTҐCOCKbOWƑ񶬂aAMPHORAaEMOJI󉴅 FITZPATRIϸTYPE-1-2zŔ3Ņ4Ņ5Ņ6aRATaM磁aOX񄪃BUFFALO|=1F404aCҨTIGERaLEOPARDʘBBITaCː򚎂aCROCՐ摢AĨSNAILdKE뒣ʀMaGOɰSHEEPѸNKEYaROOSTΰCH괁NaDOGaPIGa쁁aELEPH欁OCTOPUSaSPIRAL񎹂aBUGaǠ𳯂BE楡DY ŀTLE𧤁𲄆ŪBLOWƳURȑHATCH꜁Ӛ𲆁ŔFRONT-F숣BƿBI𧈁NGUINaKOALAaPOOD͘DRO팁RɈAM稂CTRIANŴDOLPѐ沃 πE模ł櫃Œ橤ǼAŃ殤śSPOUT豃AL欂ʹ槄ʌOGŃPIńFRƕHAMSTѽWOLFŊ쫡RʜANDAŒb˨NOSEbAW PRINTS璡PMUNKaEYESdbARaȀӡUTHaTONGUꐅUP񤉂栣CKHΰ INDEXgDOWN䎖LEFT䎖RIGH䎶繁쑁ƈ񱊂뇅ƇOK ŧTHUMBS UPŲh务ǂ𮷂˅SˌPENſ鵢WЀOMANS",
  "ƸT戁𻸁ESaNECKTIEaT-𬧁aJEȠaDRESSaKIMONOaBIKINI˽CLOTHˀPUꓡЩBAGaPOUCHaȂSHOEaATHLETICūHIGH-HEELEDƂ͝S˨ALhBOOTSaFĨ眤BUST I尡LHOU콁eS䇫bOYaGIRLґͫaFAMILYƁ쾂Ƣ HOLD掦aTWO ME䊬eWOƝɏPO񆹃FİRЊ񏹃BUNNY EARS񖷁EƫVEILaPERSOȵLOND͠IRa˖GUA PI MAOjTURBANaҘER ȀgЊ뫂a𬚈񬿁Ԁ持CESS𧱆OGREjGOBLINaGHOSTˢ ANGELaEXTRATERRE͈I󆟁IENaĪ MϹΘIMPaSKULLaINFORMA҂DESK 夢θUARDS匁DANCʐLIPST쮁NAIL POL퐡꿁 MASSAGEa帡CUաRBERȑEaSYRING밡јKISSɨRK𬉁񫹃aȁaGEM STONEȢ𿶄aCOUPL泣򜍂aWEDD𱠃TĸƫbROKENȋ紡ŋSa񄌂ȶaGROWŮ񁶇𪮃BLUEɎEΆYELLOWţ齡ֈ䠮񁽄REVOLVОSȓ񅈈򛙂ꆁAPEӬ DO麁SIDEaELECTRIC L좂BULBa笡R񛽄BOMBaSLEEPаƥCOLLISϸƅSPLASHȊWEATƵ񚊃bǘƔ獁񒧂OOaFLEXED BICEPSaDIZZY·EECH 񉖄THOUGHTŽ𥍃񗩃񹅃ΐ멡̍M񏯁왁CURRENCY EXCH宁擁VY 򗜇aC̀IT񀱁𵜁NOT旄YENȒoDɷoEUROŋPOӨ̚ҋʣW𹝂H瘆UPWϐS TՈD웁ξaSEAT먤AL COMPUTER빡EFCASEaMINIDISCaFLOPPY ŘKaOP򾸂ǂDVDaF欁F볢ǠϠ䈉PAGEՃCURLf𯃃UPa̐րARaTEAR-OFF ƍǐR𩃃b壴lDOWNWſ녡 CɡaCLIP񇡃USHPINaR攂ŬրPERȡ񛎁轢RULERa좡NGULARƄBOOK뢡 TABSaLEDGƠ珁ǁi劢鸅򡚂VER񭑄ȑ憂Ŋ곁Ŕ꾂ǴRѸśњSaNAMŸAрaSCROLLaMEMOaTELE񈥁 RECEIV櫂աFAX𽺅SAȰL鎁ANTENNAaPUBLIC AD𫪁 LOUDSPEAKˀCHE񡔂MEGAϒaOUTBO",
  "X TRAYaINŕрCKAոE-MAIL鱄ȀCOM˹ENVELOPEaŃ봥珆츣 ABOVE捥́ϸɋLOW񉫅uRAISŜ枂䕋RǯsʲɕPOSTȨeA񑭁񬩁S糂aMOB酡尢m̬繁卪T񖂂VIBR򊏃ODE˗󂠂FaNO 䉩Sa泤γBARSa񒣂gƋF팁񑖃ǃ𾼁FA秢VISѐaRADIOȣCAS񂂁񕘂PROJECTORaPOR񊟂STEREObRAYER BEA𯭁IƨD媎Sa򩏅䍪ND嵡Ŭ氡򞊃ʬz䎙뢢Ɠ҈ONE򘂃Yk綡ЇUP䠵a򫨊𐶥LOW B壂NESS遥Hƀ䋐鱄喤ANCELL竃STROKEhhǒ堂S쌡񺅁n򑻂ƇSaBATTERY𪨆PLUGa搡-𻱅MAGNIFYŐ񥦃ձ䏹征ӻIN񊧁ꊅǇKEYaĘɑ졄ŊBELLe媶b핤aLθ慄讃 BUTT񯴁Є耢뎏END䏙ON򖷒ʟ贃䚊SOON꺰ȇTOPǻUP䎏NO璂U񣵁ÉEEN孤搡CAP TENaINPUT򄄇򛂑Sx򗛈SrNUMBĹʳSrʚǭaFIRE缇TORCHaWRENİHA񚳁NUT雂ˠTaHOCHOaPISTOL񢸂SCOPE봂ŋCRYSՠ񙑃IX 葁뜡ƨ镤MIDDLꊡT𼁅媉BEGINN𪧂DENT EMBLEM񒾂򞕃絢𲤄䉬LARGE REDꮄgBLUEŝ𪊂󂍄ǑŦa曣䐹UP鸦Ђ𭉂LEa밡䍓䙪Њ䜯䐚񥯁蹄SHAɸǨ廡婣ЊP䐻򫓅痡S POMMEEbRş󡙄LF-ɓ BEҸmaNO󯝁黃SEMIǲɼ줡磂Siӡ䐙a篧ꦂS CHAPTER砣餃參𸹂䈪CELTICŤOMꌥDOV𻧂EACEaKAABAaMOSQUEѰNAGOGňMENORAHփ󃭁BRANCHES񫒁˹HYGIEIAaC퍂F͠뇂OźlTWOŔmHREƶFOURƽIVƶSIXƭEVENƵ몂ťԨϯEȟLʉҷELηո-THIRTYչŔչƵպƼոƵչƬպƴջŤչϯȞչʏպζa緣𪁃n𩧐t𩧏ULLHORNiɺ䍉͸NGĐ軁La𸧁C񿻂MANTELPIECE 慂샅KU񯊁驤BON̨NO PIRACYaHO˛ IN BUSI𬷂UIT LEVITATѠaSLEUԸOR SPYaDARKȐN񕌄SPIDERg WEBaJOY񌪁ΒDANC˱ꉢHԑ𺶏䉏広PAGE枢䝔ꈦTOUCHTǀȗ彃䌲̷ONȀP OF𷜁MaCLAM򡯁𷓄͔͈Ƞ𻖆STAMPED𻧔򒠅aFLYİȿP",
  "EN򜋂䠭𮡁Ÿ񂇅S堃񂠄𣙂쭃̠CILlBALLPOINƂlF񲃃ŢPAưBRːlCRAYONbʹWRIT񗨄aTURNѸ񝫈򿪃Ƃ夃FɰERS SPLAYEDbEVERȉ䔝j񞵊q񞵅jVI񯏁˒j˹𫥈̴ EXTENDѸз舅RT BETWEENʝǡRʸԝ艄񢾉曣񢄇SIDEWAYS ɢǲɦȓp軡䊍j牢䗑|=1F59Bχɋ䢑ạ񥂬垷UP坭征坒䕴吲񨜵񘝂DESKTOP񑀆򊒅ɉ񳇂𣶂NET񟬁DɞS񟶁ŀbO񿗁CALCULATOR卄H̹딣񒄇罃䎔򗆁䋐TAPEЀRT򪋁aWIRED򅨆ON𴪄噅WO䈊b塁䈫RACK뎁aOLD 񕈎Hθ֋󃊂嵥 ICONaFAXł񕐉ƋDOCUMEN򐫄EXTs楢PICTUREoļa򍽁ȢǕlTILESlAN 筤񖇄񖟇Ɠ񕦈ӐVIƐSfF˰򚖁łCABINETaEMPTY򊲁k𦪁nDašeŢhDǼ嚥gƩkSaŽaŹeSaWASTE򉱂񸸃Β̠Dh񗻄š訅򣮁OW񚅁MIZEbAXĺa񉷂P񋣌 AN𶒇񉂉b񄱈XaINCREAʸFONɨΘ𴼅E䌵窡RESSI瘡L蜂򓈂D-UP 񑲃񛰉ԋD矢aSTOCK񚢃DAGGER򟜂񩯁񊴂񥍃D񰆉ꝅRAYS񄗂l𺄁l崁l廢aő 񢷄UBBLEaǁ䉫騂䈫Sbϑ䉬ͫ񣶅ͷ䊍Ƀ񦲁䓉䉌MOODʅ𬭅 MƯo򟁂T 񗧅ŻhSCRIPT XhǆƍjLDşʥOLƧы CHECK񮈂ПɷǻaWORLDȨPa򏝁 FUJIaTOKYO T񧥁STATU𽒁LIBERTYb玅Ƣ񆬁˘YAIaGRINN򲖄nѓSMILƑEYESaƹ몥ARS˺OYaȝǷ딂րTHzĘ魁䤊ƦCOLD񫺂ƖT征LY-񑙂ɲsHALOtORNSaWINKѕ仪喵SAVOURƙDELICIOUS򪭂RŰEVED䥎񳈈-SHAPԭ𹇆dRԧNEUTRALţEX겥LİƛUNAMUSхІ彨aPENSIV򇊅NFɾeOUND˛񵴂ҹ͇TH񴫃A ǡȊ户s橣祭STUCK-OUT 򅳂zE焂θKˋƈ獕aDISAP񐎃Ҳ鈡RIťANGRYœPЈ垦CRYŝ񯃁EVERƀ摭LOOK財TRIUMPH䶫BUT 碫FROWN鄵ՙUISHɦEARFULţWEA哤񶴂ŜTIRɴꎁMACϥaLOUDLY 壩互HU҉䐔ꃏfS򶨁򼱃呁aASTON囩LΒ喈ԍ񸊂䵬Рыj MED𮪁MASK붇CAT꠵Ǒ빸ˬ液w꟩䦱WRYѢ髃䥏貈蝂Ȍ蟆ż",
  "矈ŷSL锣 舊j벉aUPSIDE-DȀ玭ROL恦kNO GOOD GESTUREkOKŕ򉎄BOW쯣EPLYaSEE-NO-EVIL 򚕃慁䉬𬳂䔎APPY γ񂼁ιONE񀒁|=1F64Ca䏋ӨTHǺS蘡CELE񰈃h待h媂꿉m𵃁DʳaNORǸWEST񂈈AFaSOU䌒ʌEA䘱䌒񇆄䵕h䵕h䵕h䵕姒VINE婷ǯѭ䝶䎷񛢃侺g侺g侺g侵康BUD巫ƿ崯ɿ䋱宱ǯg䲴g䲴g䲴bO򏃁QUILT񨀄ORNAMENTzĘ鰡񨱈aSOLID䗴䗐񰜆RO򽔁UP䇊񯧄Ə쏁䈊𶤃LIGATUѰETҎ摤䐹ƥ𤨁䝰䏶gAM뻡ANDʗSWASH 䌏bANS-SERIF ΫDOUBLE 끤COMMA QUOT񴇆˞y䎺rLOWͬ䣒姍񈯁ROBANGǗS叆䏯˗䒽VERY ɓ肂USlR񗶂Ža𼠁󄱅ǭ䊪bOŘґLICOPа󖼂 LOCOMOTIVEaRAILW󏰁R򤦂SPEED TƸNq򡱄LLET 򪼁ƺaMETRO𿇃́aS撣ǱMe͚BUSaO򊈄šʈ̰YŐǙ STOPaǠIƁAMИAN󤴁詁NGINE򤃃ͩ͏PƟTAXIǇũ򻺁񠲂ǇAƟRECRE򾖄VEHICƠDELI涢TRUCK󊱁CՠT񿶁RRY婡򇪁MONO嶁c񟡃朤aSUS𻠁OƖɐȜCABLEƉAERIҠ͘MʚHIPaR󆻁Ta渢ŊHORIZONTɋFF򞀃臁勁䋍򦩈򘵂晨S 򠆅ɫ򕃇򎙁 O󁅁삁ORaNO ENTRY̳SMOK򟘆ǡ䈬PUTΨTTER킡ITS PLACEǴΐ NOȍʞO򌪂WAƠϗN-䌒BI󉘁әŔSƜIST氧ƗPEDES屢ʙůꔡILDRE񶚃INGaMENSхWO䆩RʩOOM򫍁ƥTOILETa叢𶹁ŠSH󩏂ATHeTUBaPASSPORT 󗀃󡡁OMSȈGGAGEʸAIM񎗂LUƒ爤L𶗄񄌂̀RN񝼂OHIBITED犂񼑅򬭈SOURCEaBOY堥򲖁ŦCOUCH񕻂AMP𽏆ACCOMMOD̪bHOPƪBAGS򋋁ƀ ĹcDa竣OF WOR雂OCTAGꡁ蕄˥밄bTUPAaPAGϠaHINDU TEMPLEbUTaELEVATOR=1F6DϚYG廂󛽂a󚂃՚UOY򇏃埢򇡃ԐELDaOIL DRUMaMOͰWAY𣈅뗁KƳ ꪁ򃌉󞶅AIRӠNEmņ򃆁ƾa䇋𱏂EAST͞ǟŅ 󌶂UREjARRIVȠ峡F0򟾅틈𣨈DIESEL𦕇覂E򭯁湂SC",
  "OOTER媤ŭCANOE穁D񳠄SAUCǀSKѸ𨖁𤑁 RICKSHAWaPŀUP𣩂󟨄ɢ=1F700aALCHEM촁򋜈QUINTEցCEwAIRw坡wEARTHwꉂ|˲5䟔AQUAĸTISzA REGIAĽ-2ňVITAEĽ-2wVINEGARzġ-2ĳ3wSULFURwPHILOSOPHERS Ɯ𴂁ťMERCURYŰBLIMATEz䇊Ѐ䈌ϘCINNABARwSALTwNITREwVĨIOLzġ-2wROАǱzĳƐGOLDwSILVERwIRON OREzĪǠCʀUSꚡǑwREGULUſC󬈁ə˒-Cſ匆ɡƻͬƇz䆪-2x˳ANTIMONIˠ奂Ȓ䍎x䰉ȲчVERDIGRISwTINղLEADł̌Y咏Ǎx͚ſ䴐ǧ糅䉩擇Ɵz䈍-2ƒĢŜ-3ĳ4wALKALIzĘ-2wMARCASI憃-AM忢CwARSENICѠALԀzġɨAURIPIGMENTwBISMUTH嵂TARTȨTȢQUICK LIMEwBORAXzAX-2ġ3ӐUMwOILwSPIRIT栁CTÙGƸWAXwPOWD祡ALXwTUTTYŐP񒼁RTUȘSCEPTER񒀂VEǨDUCEUSw򙒃wSԘRED ŽLODE󂭁wSOAPwURIŐ󓤂DUNGwASHESҰT ŋB상Գ̱ųAM悡MϠRATUM SUPԘŬz䉏-2竅IONwPRECIPIT踡DISTILLzSOLVEĪꄁPURIFYyTREFACʚCRUCIBLEzĩȐļ3ļ4ļ5wALEMBICwBATH抡MARYzŊVAPOURSwRETORTwHŠwNIGHTwDAY-ŋMONTHwHALF DRAMzF OUNCE픡80a왣򨮊ISOSCELES R̉򛍅gUP-䒟ű𑌠򜻁䓟񗢄򝝂򜓄MEDIUM BOL򜬋䈭󃋃䉊񁓂䋯󎬁EMEL䎒WŧİO𵴁圡栢厪򿊃TARGETaǻTINY񊝂婍ƬaƢғƓ岥䉩尅Ə将Ɨ尋ƿ尒ǧWŧ尐ΐ嘋zƲ呃̕ˣ弯򦐅̯Ɩ̋䊋՛ŭ冗ʏzBLշ̶̂煒LOZENGEg͏ƖևƧփŬ翔ɧTHIN GREEK򣶂筣䈪У䉉笢䈉碣䊭f眢䓩窨䍮Ւ𩳁I豅ŭԔŵӲŦ͂ū视Ɨ褯䱌FIVE SPOKED ASTERISKѼ䍲Ӣ䌲Ջ䍒勃䏷呦䒙扥IX嗴Ǒ嗒ǁ喳ǉ喓Ƕ啷ȟ啔Eĩ喔ǣ嗒Ǔ嘓Ǜ噓䐔և򰨂",
  "򸩄ꇥTAR剤䏷𐸪PIN񄔁ȒӔFOUR䠗䏖䋳𾽂C7䞩侳񙣅ԯ哛IV峱魣䎵迨䝶䎕ư刓蓪䫖䏖艋䡟抺TWEL拸䏷v䦪񐍂򽴈NEG󛫂䌭ɕ𪮂䔌ƿ胁E0󂊂󁑂ȍg󩼂ŭ󜯁ť󪊁ɆBROWǖRϕ󃎂ŝϒŬϕūϔţϔɄϔ啈F0湅ƐLS񒌁Ƹ800a󌤋񿹄ALL扦ǋ̀DaUP𐫦󌩉䗟󝩇䖿囓슃図䖘土ɿ圵䗛坟褢圳䕶土ɷ囼䖿藁1藙譡ILATERAL蘪䗟蚍䘿蛬䘟濼𒼥𒶨嘜䕟뚄𒰦g嘜ɇ嘟ɟ嘞ɗ魷嘖䗘囟䘿鲗菝ꂆ-ƹED䠉NśSHAFTaUP𐯩薂𑢪虢𐱩壗풏壒䗿壟ʗ壑䘿壟򬲈墟ɯ塐䘟堟ɿ𒾨벢埪䗟堒䘿堿ʇ𓂧񍭁壺䙿妟ʷ娽䚿|=1F834宧󎋃-POST˃aUP䌴唢䛕պ䍴ѷ𶜃Dі䊰зǇЗ䋱Ϸ򿤄EЏ䌎Ч䚏п䍓ї檣丑䏔ҷ䠖ӧȇ偞仱䶔䰯Ư茁50ϧ򑾇Ў䌍痰ǟџ䍓򞯇䍮gEA䊰򞙅䘱䣬敨 叢姱󙺂Ǉ愧60aWIDꨦ抧L͚BARBɣmUP䌔ҩ䚕ҹ䍔抧䍮sEAƯʏ报䘱䣲m姆夐塓垒囒嘍啓咍叓𬓃咭Ǐ喐ǧ噯ǟ坓Ǥ堫ƶ夑䙲䥓m뛬媫䌔렭婮Ǘ婓Ǜ娫ƭ娑䘱̿姒𩤁婱ǯ嬔ȇ害ǿ屙Ȃ峱ǔ嶗䝶䫑쎇9𤦇񊻗񊪚񊙙񌿘󩋃真IN傳䖵匕䯖啵䗵񏾥NOTCHED TAILaUP䏺呂䡛劂䐻秣񀱇ȘDȠONEyTWO THI˰y󁱂LFzNEƒ埩BOTTOM-˨DED復吥ȧ 䒏蝉OP 䢴ȏ䡛ŉ儼Œ-䢳䑗̷я䢼BACK-TILTȈɁOW揖䕿ηFRONT䫾𐬥Ś耞볁B0aȲ򾟆묆HEN 퀇pԃǗCURVɹ󀓆͸900񥥄񺁂 FORMEE钂񬩂DOTSz ԨŊu悂郂 ˂䕍|Ϊ4䓓񰣂Ⱥx΄wĠqꑦ F󗋂HOOKqꑤţġ̚ʩǖ䊪aPINƩ𿫃S櫃󠱂aBRАŚȼвANDaZI򚍁M拡ӹEaMONEY-Ƈ󥠈HERMOMETERaNERDǻTH󣿇ɯѱD-BРAGEaROBOTȋHUGGɶSIGN OFϑ H󥍁CALL ME參RAISED鎂Ȩƛ黢ˠ̚IST趢䈫ȹSHAKEeՓINDEX Ơ MIDDLE撅绂ЀaI LOVE YOUЙ򮺂󤖉WBOYǐTaCL󖜅NAUSEA󡣅󖡄ON妢FLOOR LAUGHƨaDROOL廆LY昋PALMaSNEEZ植ꄃ EYEB鼡戃󬕆Ȯ񱟁ȱStɸ񙘂帡˩񢅂ǡί恄 CO󣥂󛛄LIPSaSƐOUSϯ򨚃Sɷ萂b󫬙ӱ槂䚬󡳒VOMITȘaSHOCKՈȯEXPLOD˸詢aPREGNANT WOMANaBR򯢁FEED˱楁S ",
  "UP TOGE阡aSELFIEaPԈCEaʐ IN TUXEDObOȉ CHRISTMASӠRUG󛎄DOҙCART򳢂JUGGLЙFENCπMODERN PENTATHLONaWRESTL˨bATθPOLO醂BALLaDIV͸󣩂WIL蜂LOẀDRUM뤣ŉSTICKSaCLꫤ󯠃aTUMBϘŻaSPOҀGOAL NEꂁFL󆉁ST򿕃MEDALaSECOND䉉똁R䈫BOXуOV搁RTIΨİS UNIFORMaCURLȑ򢻁aLA꜃ 啂糢尢SOFTŁ򳚄DISCaɐISSANTaAVOCADO͠CUMB򾇁CON󁢁TƨARROTƘGUETTE BR綁񹜃ALŘSHA񹷁PA왢FOODbTUFF椂ATʃEGGa搢ȑMILKaPEANUTSaKIWIFRUITàCAKESaDUMP稣ORTUNE COOKIEaTǨOUT BOXaCHOP牄BOWL鳣澣CUPŴTRAWbOCONU𥭁CCOLIaPIEbRETZELɈTպEA󑬁DWICHaCANNED壢aLEAFY 嶢鑁GObЀ CԸ戡̈S굾𩠁𧲃SaYAWNɽ˥󬸋aŷPʘY𦁁͉ŵATkUNEVENПWAVY룄몁H𤀇FRퟩӠJAaDISGUISȔ҂ШLDȰ𧕁ԺSfԛLEAD娅aSARIaLAB COATaGOGGLƨHIK˒OOTa繡 SHOEaCRABaLIONЫSCORPŨaTURKEYaUNIƈǤEÀaDUCKaBAT詡RKaOWLaFOXȋBUTTERFLYaDEERӐRILLAϸZ󖳁HINOCERO얂IMPbQUIDaGIRAFFE̋ZEBRAœHEDGEHOGaSAUROPODaT-REXaCRI󗦁KANGAROOaАMA镡COCKaHIPPOꌁMUSaPꌣRACC躡LOBST쿂SӐTObICROB蓡DGưSWA衁MMOTHaDODOaSLőOTʠbRѸUTȈSKUNKaFҨINGOaOYΚBEAVȨISOȈEALaGUIDE DOGaPР𤏂NEaEMOJI񜉁ONENT R󮹁IRq씁YœBALDq𲆁ŹϘ읂EGaF瞡TO劁SUP袁ROfV沁INbAFETY VESTaEAR𱊅RӑAID󅎂IZѸ𦔁CϑbANUAL䈉EİNICƠARMlҡ",
  "CǠSE W燡bUPꬢSAL蠡AK弢VERAGE빢GARLICaON袡FALAFELaWAFFL菅a򼤁DRINKa󖼁UBǑBBLE驡󜹁󝢁N驂𩑂aKNEELIſDEAFŜ놈MONOCшADULT󔈂aOLDER Ɗ璁RDED˅ĳ攦DSCARFhIN SՀMY ROOMhCLIMBӈƹLOTUS POSITIO蕡GEӨIRYaVAMP򥯂RϤELFaGENIEaZOMBİB󡌁O裡𹞅ILLհCAPaӚa𩈁Sa뜢SOCKSaRǸGIFT ENVELOPҀиCRAC潡JIGSAW PUZZLE PIECEaTEST T檡PETRI DISHaDNA󧫂ӑLIXa逡ASSaABACUS΢ EXTINGUɸER賁L稡B귡嵁NETa󗊃bO忡񈙁LE𾻁F5aSPʈ𺒂𩏁BALŲYARNaS鎣PINaTEDDY 煁aB氡bASKϐROɳPAPERˠRšSOAPρNG󣏁EIPTaNAZǠAMULETbEUTRAL CHESS KINGoQUEENoπKoBISHOPoK򼣁oPAWNaꪢɴƻ ROT𦊂ORTY-򞨁DEGREES򱋂𐭥Nգ𐯤՛坈ɞNINETYȽm娢䎕崁䍵忣䎵吃䎵PAW乭拎土𒸿𒸿琭坟o坙o坘o坚o坚o坘霙񗡁UNDRŘTHI颶䝟驘䞟鯺TURNED湂t止t梁t斣tσt됡喣𐵬唅䛯vʺvʹvʻvʻv쇽TWO寇WEN櫖䝟櫘䞟웝䜒SEVEN녍䔷달䔗뒑䕟尳ɗ럋哸킙䚟𔆿𔆿𔆿𣒛䛟o愜𣬎䔟愝𤆐䕟𔈤뤺HȈˆFIFTEEN룴䜟뢶䝟喑򣄁H󪑁Փ䋎х䌎䣔𮶟䖿亖𪠦-𦲍ԓ䒜=1FA60aXIANGQI RѐGENE՘mMANDARINmELEPHANTm󨁁mCHƨOTnANNONmSOLDIERiѢ˝o˝o˝o˚o˜p˚o˜ԙ70𻂁E񌪂SaONE-𽡁 SWIMSUITaBRIEFSaS͈TSaTHONG SйL̂8aDROP OF BLOODaADHESIVE 񧜄STEʠSCOPEaX-RAYaCRUTCH˩80aYO-YOaKITEaPARACHUňBOOMERANGaMAGIC W͘aPINATAaNESTIԘDOLLS̡90aRƀE񚵁NETaC񉐁RAZORaAXE|Ȣ4aDIYA LAMPaBANJOaMILITA򀴁LM",
  "ʰACCORDI񍃁ϹRUMaCOINbARPENTɀSAWaSCREWDRIVERaLADDİHOOKͨRRѸWINDOWaPLUNGǐSEWI͘NEEDLEaKNOTaBUCKѨMOUSE TRAP񋬂BRUSHaHEAD񝅁̈AC񑑁OCϥ񝆂IDՠIFICA񂟁ȢLOWǠTTERYaHAMSA幁B0aFLYaWORMaBEETԀC͠ROACHaPOTT昤TaW省FEA񤐁񇿁ɈRALaEMPTY 渡aġ񥰃GGSϹC0aANATOMՐL񇬃廁SaPEOPLE 񯋃b񦑄MANj񈸂bĪͳCROWN͹D0aBLUEBERRIESbELL PE쁂OLIVEa񟅆TAMALƀONDUEaTEAPOTaPOURѨ LI񕲁BEANSaJARϑE0aMELT񛱆ALUŮ񩱋񪝋OVER񛒂kPEEKʠȁkDIAGONALǓaD槂ӘNEΛBITգPb񏶁SԱF0aΙ񱶇񭨃ѲTHUMB񱴃򇡈񳘆ŷ񫈁򜏁ŲfUPƳ΢񼁆ATΨE VIEWERa瑂ȺթB0淡OCK SEXTANT-1o2o12o3o13o2ĨĘ4o14o2ĨĘ34ǀŨĹġ5o15o2ĨĘ35ƸŐġ45ʠŸĹġ3Ł3ƉŊĪ6o16o2ĨĘ36ǰŨĹġ46˸6p24ǐřġ2ŊĪ56ҸƈĹĠӐșƉŊĩԐ̙ƙňԪ͙ɂƪĩa񭝁 櫡 惣穦Ǌ񸍃ȃTOƤC섡Ez䑙眢z UPP䢛Ȕ䢟䞲gȉ圭䨲ơҧ䑷ҮLс䣛Ȟ䣟𐿬Ʀ̵廊惄䒒攫䣻䶛𒏦庌gˀ犑件紏䐸悶藖䢺陚䢸a帇𜺯LꝿLꞟț䣜Ꟙ甒ꞿꞟ ꝿꝟꜹꜟ̦꛿ꛟ𜵠ꚟꙹ𣉕떞ꚿLꛚ蓷䣻间ꜿgANDŋ ňȃ򥽃ULAR񅐃QUARTERS扃aͲɷ̖䜝듁ɻ։𑱱̈𑱨fTǿONǮ凊䑚Ъ䑚|=1FB6FaLOW䦝VERTICALǒEωHǋ-2z-3z-4z-5z-6z-7aHORIZONT䖓Ġ3ġ4ġ5ġ6ġ7猬䝎jUPP䋐a耇䐓k䧍秩䷸壚1358̊敐g禁ɽSƜFIV䉍繱g񒣁Ʌ尩䳼𑧿򥊆󞎇DEӲ䋰心䋯要䋲INVӸE䢕ԣ爃̏䚑l䊑 ˇͯ鯁94嬂䧗눨ˏaCHECK͠BO򨮁ILLa˥䍎򵙄蘧ƫ𤈏уǲgőǍȻǄ쭱卩ɉ죳ȧӧ䐉弊g䟍磱䑺g䯙aBOX DRAWING󏫃𪐕𧬈z䏖բǹ𳋘ǲɷ䏯侺𐮠䯚厼妟役捹芅得妿̂𔍿筝潿𔬿𘙠𘉫韡MONDt봦򢣃𬝅STROKEa󇺅-SHAPED񑄂ER졫 M",
  "ARK펨RUNN򪶂Na툁䋏˾󇬑TIP󞭆󉴌筂𫴜Ҳ𐵮կʧ͊𭶐䔝𪍍F򖐁戦ƏVOIDED򧉁K񗪂aͤPEN󬦄򾱁NEGATIVE퀆ɳs藙s綄򿞆VY SALTIRE淣ROUNԁCORNERS噃򯲂ʙμ񙀅񚤂aқ䓿ơ䧟孆左QUESTION讣򰶂FIGUREm囃ARMS򻝃nLEAN͘蛂vϺnȚDRESSaҳUP-ҝ雡VRON=1FBF0aSEGMENTҠDIGIT ZEROqONEqTWOrHREEqFOURrIVEqSIXrEVENqEСqҠE=2F800aCJK 򙛁TIBILITY IDEOGRAPH-Ȋzń1Ņ2Ņ3Ņ4Ņ5Ņ6Ņ7Ņ8Ņ9ŅAŅBŅCŅDŅEŅFń10Ņ1Ņ2Ņ3Ņ4Ņ5Ņ6Ņ7Ņ8Ņ9ŅAŅBŅCŅDŅEŅF|=İ2査Ȋzń1Ņ2Ņ3Ņ4Ņ5Ņ6Ņ7Ņ8Ņ9ŅAŅBŅCŅDŅEŅFń30Ņ1Ņ2Ņ3Ņ4Ņ5Ņ6Ņ7Ņ8Ņ9ŅAŅBŅCŅDŅEŅս40Ņ1Ņ2Ņ3Ņ4Ņ5Ņ6Ņ7Ņ8Ņ9ŅAŅBŅCŅDŅEŅս50Ņ1Ņ2Ņ3Ņ4Ņ5Ņ6Ņ7Ņ8Ņ9ŅAŅBŅCŅDŅEŅս60Ņ1Ņ2Ņ3Ņ4Ņ5Ņ6Ņ7Ņ8Ņ9ŅAŅBŅCŅDŅEŅս70Ņ1Ņ2Ņ3Ņ4Ņ5Ņ6Ņ7Ņ8Ņ9ŅAŅBŅCŅDŅEŅս80Ņ1Ņ2Ņ3Ņ4Ņ5Ņ6Ņ7Ņ8Ņ9ŅAŅBŅCŅDŅEŅս90Ņ1Ņ2Ņ3Ņ4Ņ5Ņ6Ņ7Ņ8Ņ9ŅAŅBŅCŅDŅEŅսA0Ņ1Ņ2Ņ3Ņ4Ņ5Ņ6Ņ7Ņ8Ņ9ŅAŅBŅCŅDŅEŅսB0Ņ1Ņ2Ņ3Ņ4Ņ5Ņ6Ņ7Ņ8Ņ9ŅAŅBŅCŅDŅEŅսC0Ņ1Ņ2Ņ3Ņ4Ņ5Ņ6Ņ7Ņ8Ņ9ŅAŅBŅCŅDŅEŅսD0Ņ1Ņ2Ņ3Ņ4Ņ5Ņ6Ņ7Ņ8Ņ9ŅAŅBŅCŅDŅEŅսE0Ņ1Ņ2Ņ3Ņ4Ņ5Ņ6Ņ7Ņ8Ņ9ŅAŅBŅCŅDŅEŅսF0Ņ1Ņ2Ņ3Ņ4Ņ5Ņ6Ņ7Ņ8Ņ9ŅAŅBŅCŅDŅEŅռ900Ņ1Ņ2Ņ3Ņ4Ņ5Ņ6Ņ7Ņ8Ņ9ŅAŅBŅCŅDŅEŅս10Ņ1Ņ2Ņ3Ņ4Ņ5Ņ6Ņ7Ņ8Ņ9ŅAŅBŅCŅDŅEŅս20Ņ1Ņ2Ņ3Ņ4Ņ5Ņ6Ņ7Ņ8Ņ9ŅAŅBŅCŅDŅEŅս30Ņ1Ņ2Ņ3Ņ4Ņ5Ņ6Ņ7Ņ8Ņ9ŅAŅBŅCŅDŅEŅս40Ņ1Ņ2Ņ3",
  "Ņ4Ņ5Ņ6Ņ7Ņ8Ņ9ŅAŅBŅCŅDŅEŅս50Ņ1Ņ2Ņ3Ņ4Ņ5Ņ6Ņ7Ņ8Ņ9ŅAŅBŅCŅDŅEŅս60Ņ1Ņ2Ņ3Ņ4Ņ5Ņ6Ņ7Ņ8Ņ9|=ıA𾹙ȊʍBŅCŅDŅEŅFń70Ņ1Ņ2Ņ3Ņ4Ņ5Ņ6Ņ7Ņ8Ņ9ŅAŅBŅCŅDŅEŅս80Ņ1Ņ2Ņ3Ņ4Ņ5Ņ6Ņ7Ņ8Ņ9ŅAŅBŅCŅDŅEŅս90Ņ1Ņ2Ņ3Ņ4Ņ5Ņ6Ņ7Ņ8Ņ9ŅAŅBŅCŅDŅEŅսA0Ņ1Ņ2Ņ3Ņ4Ņ5Ņ6Ņ7Ņ8Ņ9ŅAŅBŅCŅDŅEŅսB0Ņ1Ņ2Ņ3Ņ4Ņ5Ņ6Ņ7Ņ8Ņ9ŅAŅBŅCŅDŅEŅսC0Ņ1Ņ2Ņ3Ņ4Ņ5Ņ6Ņ7Ņ8Ņ9ŅAŅBŅCŅDŅEŅսD0Ņ1Ņ2Ņ3Ņ4Ņ5Ņ6Ņ7Ņ8Ņ9ŅAŅBŅCŅDŅEŅսE0Ņ1Ņ2Ņ3Ņ4Ņ5Ņ6Ņ7Ņ8Ņ9ŅAŅBŅCŅDŅEŅսF0Ņ1Ņ2Ņ3Ņ4Ņ5Ņ6Ņ7Ņ8Ņ9ŅAŅBŅCŅDŅEŅռA00Ņ1Ņ2Ņ3Ņ4Ņ5Ņ6Ņ7Ņ8Ņ9ŅAŅBŅCŅDŅEŅս10Ņ1Ņ2Ņ3Ņ4Ņ5Ņ6Ņ7Ņ8Ņ9ŅAŅBŅCŅD=E0001aLANGUAGE TAGƑ20aň SPACEeEXCLAMA񠼅eQUOTAŷNUMBER SIGNeDOLLAŜPERCENTţAMŰSANDfPOSTROPHEe񤘁PARȠHESISeRIGH䈫ASTERISKePLUS͋COMMAeHŸN-MINUSeFULL STOPeSOLIDƈ񡸆kONEkTWOlHREEkFOURlIVEkSIXlEVENkEҙkNINEψLONeSEMIŋLESS-THANӃEQUALԤGREATER-ǯ񥟉咂ERCIAL ATeLATIN CAPITƀLETː AzBzCzDzEzFzGzHzIzJzKzLzMzNzOzPzQzRzSzTzUzVzWzXzYzZfEFT񧐃 B󮹁TeRE񯺂弤fIGH䑮CIRCUMFLEX ACCENֈOW L幡GRAVEƫ哥SMAL咧xBxCxDxExFxGxHxIxJxKxLxMxNxOxPxQxRxSxTxUxVxWxXxYx咣CURLYԆ񴈄Қ糂䐭TILDEaCANCEL邤100aVARI赃SELECTOR-17u8u9",
  "t20u1u2u3u4u5u6uƣ3䊑4䊑5䊑6䊑7䊑8䊑9䊑100v1v2v3v4v5v6v7v8v9u1䊑2䊑3䊑4䊑5䊑6䊑7䊑8䊑9䊐t2𓒰𓒿"]

/-- The front-coded chunks of the name table. -/
def nameChunks : List String :=
  (String.ofList (unpackNames (String.join packedNames).toList).toList).splitOn "|"

/-- Other names that stand for characters: the names of control characters, corrected
names, and abbreviations. -/
def nameAliases : List (Nat × String) := [
  (0x0, "NULL"),
  (0x0, "NUL"),
  (0x1, "START OF HEADING"),
  (0x1, "SOH"),
  (0x2, "START OF TEXT"),
  (0x2, "STX"),
  (0x3, "END OF TEXT"),
  (0x3, "ETX"),
  (0x4, "END OF TRANSMISSION"),
  (0x4, "EOT"),
  (0x5, "ENQUIRY"),
  (0x5, "ENQ"),
  (0x6, "ACKNOWLEDGE"),
  (0x6, "ACK"),
  (0x7, "ALERT"),
  (0x7, "BEL"),
  (0x8, "BACKSPACE"),
  (0x8, "BS"),
  (0x9, "CHARACTER TABULATION"),
  (0x9, "HORIZONTAL TABULATION"),
  (0x9, "HT"),
  (0x9, "TAB"),
  (0xA, "LINE FEED"),
  (0xA, "NEW LINE"),
  (0xA, "END OF LINE"),
  (0xA, "LF"),
  (0xA, "NL"),
  (0xA, "EOL"),
  (0xB, "LINE TABULATION"),
  (0xB, "VERTICAL TABULATION"),
  (0xB, "VT"),
  (0xC, "FORM FEED"),
  (0xC, "FF"),
  (0xD, "CARRIAGE RETURN"),
  (0xD, "CR"),
  (0xE, "SHIFT OUT"),
  (0xE, "LOCKING-SHIFT ONE"),
  (0xE, "SO"),
  (0xF, "SHIFT IN"),
  (0xF, "LOCKING-SHIFT ZERO"),
  (0xF, "SI"),
  (0x10, "DATA LINK ESCAPE"),
  (0x10, "DLE"),
  (0x11, "DEVICE CONTROL ONE"),
  (0x11, "DC1"),
  (0x12, "DEVICE CONTROL TWO"),
  (0x12, "DC2"),
  (0x13, "DEVICE CONTROL THREE"),
  (0x13, "DC3"),
  (0x14, "DEVICE CONTROL FOUR"),
  (0x14, "DC4"),
  (0x15, "NEGATIVE ACKNOWLEDGE"),
  (0x15, "NAK"),
  (0x16, "SYNCHRONOUS IDLE"),
  (0x16, "SYN"),
  (0x17, "END OF TRANSMISSION BLOCK"),
  (0x17, "ETB"),
  (0x18, "CANCEL"),
  (0x18, "CAN"),
  (0x19, "END OF MEDIUM"),
  (0x19, "EOM"),
  (0x1A, "SUBSTITUTE"),
  (0x1A, "SUB"),
  (0x1B, "ESCAPE"),
  (0x1B, "ESC"),
  (0x1C, "INFORMATION SEPARATOR FOUR"),
  (0x1C, "FILE SEPARATOR"),
  (0x1C, "FS"),
  (0x1D, "INFORMATION SEPARATOR THREE"),
  (0x1D, "GROUP SEPARATOR"),
  (0x1D, "GS"),
  (0x1E, "INFORMATION SEPARATOR TWO"),
  (0x1E, "RECORD SEPARATOR"),
  (0x1E, "RS"),
  (0x1F, "INFORMATION SEPARATOR ONE"),
  (0x1F, "UNIT SEPARATOR"),
  (0x1F, "US"),
  (0x20, "SP"),
  (0x7F, "DELETE"),
  (0x7F, "DEL"),
  (0x80, "PADDING CHARACTER"),
  (0x80, "PAD"),
  (0x81, "HIGH OCTET PRESET"),
  (0x81, "HOP"),
  (0x82, "BREAK PERMITTED HERE"),
  (0x82, "BPH"),
  (0x83, "NO BREAK HERE"),
  (0x83, "NBH"),
  (0x84, "INDEX"),
  (0x84, "IND"),
  (0x85, "NEXT LINE"),
  (0x85, "NEL"),
  (0x86, "START OF SELECTED AREA"),
  (0x86, "SSA"),
  (0x87, "END OF SELECTED AREA"),
  (0x87, "ESA"),
  (0x88, "CHARACTER TABULATION SET"),
  (0x88, "HORIZONTAL TABULATION SET"),
  (0x88, "HTS"),
  (0x89, "CHARACTER TABULATION WITH JUSTIFICATION"),
  (0x89, "HORIZONTAL TABULATION WITH JUSTIFICATION"),
  (0x89, "HTJ"),
  (0x8A, "LINE TABULATION SET"),
  (0x8A, "VERTICAL TABULATION SET"),
  (0x8A, "VTS"),
  (0x8B, "PARTIAL LINE FORWARD"),
  (0x8B, "PARTIAL LINE DOWN"),
  (0x8B, "PLD"),
  (0x8C, "PARTIAL LINE BACKWARD"),
  (0x8C, "PARTIAL LINE UP"),
  (0x8C, "PLU"),
  (0x8D, "REVERSE LINE FEED"),
  (0x8D, "REVERSE INDEX"),
  (0x8D, "RI"),
  (0x8E, "SINGLE SHIFT TWO"),
  (0x8E, "SINGLE-SHIFT-2"),
  (0x8E, "SS2"),
  (0x8F, "SINGLE SHIFT THREE"),
  (0x8F, "SINGLE-SHIFT-3"),
  (0x8F, "SS3"),
  (0x90, "DEVICE CONTROL STRING"),
  (0x90, "DCS"),
  (0x91, "PRIVATE USE ONE"),
  (0x91, "PRIVATE USE-1"),
  (0x91, "PU1"),
  (0x92, "PRIVATE USE TWO"),
  (0x92, "PRIVATE USE-2"),
  (0x92, "PU2"),
  (0x93, "SET TRANSMIT STATE"),
  (0x93, "STS"),
  (0x94, "CANCEL CHARACTER"),
  (0x94, "CCH"),
  (0x95, "MESSAGE WAITING"),
  (0x95, "MW"),
  (0x96, "START OF GUARDED AREA"),
  (0x96, "START OF PROTECTED AREA"),
  (0x96, "SPA"),
  (0x97, "END OF GUARDED AREA"),
  (0x97, "END OF PROTECTED AREA"),
  (0x97, "EPA"),
  (0x98, "START OF STRING"),
  (0x98, "SOS"),
  (0x99, "SINGLE GRAPHIC CHARACTER INTRODUCER"),
  (0x99, "SGC"),
  (0x9A, "SINGLE CHARACTER INTRODUCER"),
  (0x9A, "SCI"),
  (0x9B, "CONTROL SEQUENCE INTRODUCER"),
  (0x9B, "CSI"),
  (0x9C, "STRING TERMINATOR"),
  (0x9C, "ST"),
  (0x9D, "OPERATING SYSTEM COMMAND"),
  (0x9D, "OSC"),
  (0x9E, "PRIVACY MESSAGE"),
  (0x9E, "PM"),
  (0x9F, "APPLICATION PROGRAM COMMAND"),
  (0x9F, "APC"),
  (0xA0, "NBSP"),
  (0xAD, "SHY"),
  (0x1A2, "LATIN CAPITAL LETTER GHA"),
  (0x1A3, "LATIN SMALL LETTER GHA"),
  (0x34F, "CGJ"),
  (0x61C, "ALM"),
  (0x709, "SYRIAC SUBLINEAR COLON SKEWED LEFT"),
  (0xCDE, "KANNADA LETTER LLLA"),
  (0xE9D, "LAO LETTER FO FON"),
  (0xE9F, "LAO LETTER FO FAY"),
  (0xEA3, "LAO LETTER RO"),
  (0xEA5, "LAO LETTER LO"),
  (0xFD0, "TIBETAN MARK BKA- SHOG GI MGO RGYAN"),
  (0x11EC, "HANGUL JONGSEONG YESIEUNG-KIYEOK"),
  (0x11ED, "HANGUL JONGSEONG YESIEUNG-SSANGKIYEOK"),
  (0x11EE, "HANGUL JONGSEONG SSANGYESIEUNG"),
  (0x11EF, "HANGUL JONGSEONG YESIEUNG-KHIEUKH"),
  (0x180B, "FVS1"),
  (0x180C, "FVS2"),
  (0x180D, "FVS3"),
  (0x180E, "MVS"),
  (0x180F, "FVS4"),
  (0x200B, "ZWSP"),
  (0x200C, "ZWNJ"),
  (0x200D, "ZWJ"),
  (0x200E, "LRM"),
  (0x200F, "RLM"),
  (0x202A, "LRE"),
  (0x202B, "RLE"),
  (0x202C, "PDF"),
  (0x202D, "LRO"),
  (0x202E, "RLO"),
  (0x202F, "NNBSP"),
  (0x205F, "MMSP"),
  (0x2060, "WJ"),
  (0x2066, "LRI"),
  (0x2067, "RLI"),
  (0x2068, "FSI"),
  (0x2069, "PDI"),
  (0x2118, "WEIERSTRASS ELLIPTIC FUNCTION"),
  (0x2448, "MICR ON US SYMBOL"),
  (0x2449, "MICR DASH SYMBOL"),
  (0x2B7A, "LEFTWARDS TRIANGLE-HEADED ARROW WITH DOUBLE VERTICAL STROKE"),
  (0x2B7C, "RIGHTWARDS TRIANGLE-HEADED ARROW WITH DOUBLE VERTICAL STROKE"),
  (0xA015, "YI SYLLABLE ITERATION MARK"),
  (0xAA6E, "MYANMAR LETTER KHAMTI LLA"),
  (0xFE00, "VS1"),
  (0xFE01, "VS2"),
  (0xFE02, "VS3"),
  (0xFE03, "VS4"),
  (0xFE04, "VS5"),
  (0xFE05, "VS6"),
  (0xFE06, "VS7"),
  (0xFE07, "VS8"),
  (0xFE08, "VS9"),
  (0xFE09, "VS10"),
  (0xFE0A, "VS11"),
  (0xFE0B, "VS12"),
  (0xFE0C, "VS13"),
  (0xFE0D, "VS14"),
  (0xFE0E, "VS15"),
  (0xFE0F, "VS16"),
  (0xFE18, "PRESENTATION FORM FOR VERTICAL RIGHT WHITE LENTICULAR BRACKET"),
  (0xFEFF, "BYTE ORDER MARK"),
  (0xFEFF, "BOM"),
  (0xFEFF, "ZWNBSP"),
  (0x122D4, "CUNEIFORM SIGN NU11 TENU"),
  (0x122D5, "CUNEIFORM SIGN NU11 OVER NU11 BUR OVER BUR"),
  (0x16E56, "MEDEFAIDRIN CAPITAL LETTER H"),
  (0x16E57, "MEDEFAIDRIN CAPITAL LETTER NG"),
  (0x16E76, "MEDEFAIDRIN SMALL LETTER H"),
  (0x16E77, "MEDEFAIDRIN SMALL LETTER NG"),
  (0x1B001, "HENTAIGANA LETTER E-1"),
  (0x1D0C5, "BYZANTINE MUSICAL SYMBOL FTHORA SKLIRON CHROMA VASIS"),
  (0xE0100, "VS17"),
  (0xE0101, "VS18"),
  (0xE0102, "VS19"),
  (0xE0103, "VS20"),
  (0xE0104, "VS21"),
  (0xE0105, "VS22"),
  (0xE0106, "VS23"),
  (0xE0107, "VS24"),
  (0xE0108, "VS25"),
  (0xE0109, "VS26"),
  (0xE010A, "VS27"),
  (0xE010B, "VS28"),
  (0xE010C, "VS29"),
  (0xE010D, "VS30"),
  (0xE010E, "VS31"),
  (0xE010F, "VS32"),
  (0xE0110, "VS33"),
  (0xE0111, "VS34"),
  (0xE0112, "VS35"),
  (0xE0113, "VS36"),
  (0xE0114, "VS37"),
  (0xE0115, "VS38"),
  (0xE0116, "VS39"),
  (0xE0117, "VS40"),
  (0xE0118, "VS41"),
  (0xE0119, "VS42"),
  (0xE011A, "VS43"),
  (0xE011B, "VS44"),
  (0xE011C, "VS45"),
  (0xE011D, "VS46"),
  (0xE011E, "VS47"),
  (0xE011F, "VS48"),
  (0xE0120, "VS49"),
  (0xE0121, "VS50"),
  (0xE0122, "VS51"),
  (0xE0123, "VS52"),
  (0xE0124, "VS53"),
  (0xE0125, "VS54"),
  (0xE0126, "VS55"),
  (0xE0127, "VS56"),
  (0xE0128, "VS57"),
  (0xE0129, "VS58"),
  (0xE012A, "VS59"),
  (0xE012B, "VS60"),
  (0xE012C, "VS61"),
  (0xE012D, "VS62"),
  (0xE012E, "VS63"),
  (0xE012F, "VS64"),
  (0xE0130, "VS65"),
  (0xE0131, "VS66"),
  (0xE0132, "VS67"),
  (0xE0133, "VS68"),
  (0xE0134, "VS69"),
  (0xE0135, "VS70"),
  (0xE0136, "VS71"),
  (0xE0137, "VS72"),
  (0xE0138, "VS73"),
  (0xE0139, "VS74"),
  (0xE013A, "VS75"),
  (0xE013B, "VS76"),
  (0xE013C, "VS77"),
  (0xE013D, "VS78"),
  (0xE013E, "VS79"),
  (0xE013F, "VS80"),
  (0xE0140, "VS81"),
  (0xE0141, "VS82"),
  (0xE0142, "VS83"),
  (0xE0143, "VS84"),
  (0xE0144, "VS85"),
  (0xE0145, "VS86"),
  (0xE0146, "VS87"),
  (0xE0147, "VS88"),
  (0xE0148, "VS89"),
  (0xE0149, "VS90"),
  (0xE014A, "VS91"),
  (0xE014B, "VS92"),
  (0xE014C, "VS93"),
  (0xE014D, "VS94"),
  (0xE014E, "VS95"),
  (0xE014F, "VS96"),
  (0xE0150, "VS97"),
  (0xE0151, "VS98"),
  (0xE0152, "VS99"),
  (0xE0153, "VS100"),
  (0xE0154, "VS101"),
  (0xE0155, "VS102"),
  (0xE0156, "VS103"),
  (0xE0157, "VS104"),
  (0xE0158, "VS105"),
  (0xE0159, "VS106"),
  (0xE015A, "VS107"),
  (0xE015B, "VS108"),
  (0xE015C, "VS109"),
  (0xE015D, "VS110"),
  (0xE015E, "VS111"),
  (0xE015F, "VS112"),
  (0xE0160, "VS113"),
  (0xE0161, "VS114"),
  (0xE0162, "VS115"),
  (0xE0163, "VS116"),
  (0xE0164, "VS117"),
  (0xE0165, "VS118"),
  (0xE0166, "VS119"),
  (0xE0167, "VS120"),
  (0xE0168, "VS121"),
  (0xE0169, "VS122"),
  (0xE016A, "VS123"),
  (0xE016B, "VS124"),
  (0xE016C, "VS125"),
  (0xE016D, "VS126"),
  (0xE016E, "VS127"),
  (0xE016F, "VS128"),
  (0xE0170, "VS129"),
  (0xE0171, "VS130"),
  (0xE0172, "VS131"),
  (0xE0173, "VS132"),
  (0xE0174, "VS133"),
  (0xE0175, "VS134"),
  (0xE0176, "VS135"),
  (0xE0177, "VS136"),
  (0xE0178, "VS137"),
  (0xE0179, "VS138"),
  (0xE017A, "VS139"),
  (0xE017B, "VS140"),
  (0xE017C, "VS141"),
  (0xE017D, "VS142"),
  (0xE017E, "VS143"),
  (0xE017F, "VS144"),
  (0xE0180, "VS145"),
  (0xE0181, "VS146"),
  (0xE0182, "VS147"),
  (0xE0183, "VS148"),
  (0xE0184, "VS149"),
  (0xE0185, "VS150"),
  (0xE0186, "VS151"),
  (0xE0187, "VS152"),
  (0xE0188, "VS153"),
  (0xE0189, "VS154"),
  (0xE018A, "VS155"),
  (0xE018B, "VS156"),
  (0xE018C, "VS157"),
  (0xE018D, "VS158"),
  (0xE018E, "VS159"),
  (0xE018F, "VS160"),
  (0xE0190, "VS161"),
  (0xE0191, "VS162"),
  (0xE0192, "VS163"),
  (0xE0193, "VS164"),
  (0xE0194, "VS165"),
  (0xE0195, "VS166"),
  (0xE0196, "VS167"),
  (0xE0197, "VS168"),
  (0xE0198, "VS169"),
  (0xE0199, "VS170"),
  (0xE019A, "VS171"),
  (0xE019B, "VS172"),
  (0xE019C, "VS173"),
  (0xE019D, "VS174"),
  (0xE019E, "VS175"),
  (0xE019F, "VS176"),
  (0xE01A0, "VS177"),
  (0xE01A1, "VS178"),
  (0xE01A2, "VS179"),
  (0xE01A3, "VS180"),
  (0xE01A4, "VS181"),
  (0xE01A5, "VS182"),
  (0xE01A6, "VS183"),
  (0xE01A7, "VS184"),
  (0xE01A8, "VS185"),
  (0xE01A9, "VS186"),
  (0xE01AA, "VS187"),
  (0xE01AB, "VS188"),
  (0xE01AC, "VS189"),
  (0xE01AD, "VS190"),
  (0xE01AE, "VS191"),
  (0xE01AF, "VS192"),
  (0xE01B0, "VS193"),
  (0xE01B1, "VS194"),
  (0xE01B2, "VS195"),
  (0xE01B3, "VS196"),
  (0xE01B4, "VS197"),
  (0xE01B5, "VS198"),
  (0xE01B6, "VS199"),
  (0xE01B7, "VS200"),
  (0xE01B8, "VS201"),
  (0xE01B9, "VS202"),
  (0xE01BA, "VS203"),
  (0xE01BB, "VS204"),
  (0xE01BC, "VS205"),
  (0xE01BD, "VS206"),
  (0xE01BE, "VS207"),
  (0xE01BF, "VS208"),
  (0xE01C0, "VS209"),
  (0xE01C1, "VS210"),
  (0xE01C2, "VS211"),
  (0xE01C3, "VS212"),
  (0xE01C4, "VS213"),
  (0xE01C5, "VS214"),
  (0xE01C6, "VS215"),
  (0xE01C7, "VS216"),
  (0xE01C8, "VS217"),
  (0xE01C9, "VS218"),
  (0xE01CA, "VS219"),
  (0xE01CB, "VS220"),
  (0xE01CC, "VS221"),
  (0xE01CD, "VS222"),
  (0xE01CE, "VS223"),
  (0xE01CF, "VS224"),
  (0xE01D0, "VS225"),
  (0xE01D1, "VS226"),
  (0xE01D2, "VS227"),
  (0xE01D3, "VS228"),
  (0xE01D4, "VS229"),
  (0xE01D5, "VS230"),
  (0xE01D6, "VS231"),
  (0xE01D7, "VS232"),
  (0xE01D8, "VS233"),
  (0xE01D9, "VS234"),
  (0xE01DA, "VS235"),
  (0xE01DB, "VS236"),
  (0xE01DC, "VS237"),
  (0xE01DD, "VS238"),
  (0xE01DE, "VS239"),
  (0xE01DF, "VS240"),
  (0xE01E0, "VS241"),
  (0xE01E1, "VS242"),
  (0xE01E2, "VS243"),
  (0xE01E3, "VS244"),
  (0xE01E4, "VS245"),
  (0xE01E5, "VS246"),
  (0xE01E6, "VS247"),
  (0xE01E7, "VS248"),
  (0xE01E8, "VS249"),
  (0xE01E9, "VS250"),
  (0xE01EA, "VS251"),
  (0xE01EB, "VS252"),
  (0xE01EC, "VS253"),
  (0xE01ED, "VS254"),
  (0xE01EE, "VS255"),
  (0xE01EF, "VS256")]

/-- The blocks of CJK unified ideographs, whose names are spelled from their code points. -/
def unifiedIdeographSpans : Array (Nat × Nat) := #[
  (0x3400, 0x4DBF), (0x4E00, 0x9FFF), (0x20000, 0x2A6DF), (0x2A700, 0x2B738), (0x2B740, 0x2B81D), (0x2B820, 0x2CEA1), (0x2CEB0, 0x2EBE0), (0x30000, 0x3134A)]

end Autoresponder.Text
