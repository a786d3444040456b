import ConfigGate.Text.Charset.Grid

namespace ConfigGate.Text.Charset.Grid

/-- The characters that JIS X 0213 adds to JIS X 0208 in its first plane. -/
def jisX0213First : Grid := [
  ⟨2, 15, "＇＂－～〳〴〵〻〼ヿゟ"⟩,
  ⟨2, 34, "⊄⊅⊊⊋∉∅⌅⌆"⟩,
  ⟨2, 49, "⊕⊖⊗∥∦⦅⦆〘〙〖〗"⟩,
  ⟨2, 75, "≢≃≅≈≶≷↔"⟩,
  ⟨2, 90, "♮♫♬♩"⟩,
  ⟨3, 1, "▷▶◁◀↗↘↖↙⇄⇨⇦⇧⇩⤴⤵"⟩,
  ⟨3, 26, "⦿◉〽﹆﹅◦•"⟩,
  ⟨3, 59, "∓ℵℏ㏋ℓ℧"⟩,
  ⟨3, 91, "゠–⧺⧻"⟩,
  ⟨4, 84, "ゔゕゖ"⟩,
  ⟨6, 25, "♤♠♢♦♡♥♧♣"⟩,
  ⟨6, 57, "ς⓵⓶⓷⓸⓹⓺⓻⓼⓽⓾☖☗〠☎☀☁☂☃♨▱ㇰㇱㇲㇳㇴㇵㇶㇷㇸㇹ"⟩,
  ⟨6, 89, "ㇺㇻㇼㇽㇾㇿ"⟩,
  ⟨7, 34, "⎾⎿⏀⏁⏂⏃⏄⏅⏆⏇⏈⏉⏊⏋⏌"⟩,
  ⟨7, 82, "ヷヸヹヺ⋚⋛⅓⅔⅕✓⌘␣⏎"⟩,
  ⟨8, 33, "㉑㉒㉓㉔㉕㉖㉗㉘㉙㉚㉛㉜㉝㉞㉟㊱㊲㊳㊴㊵㊶㊷㊸㊹㊺㊻㊼㊽㊾㊿"⟩,
  ⟨8, 71, "◐◑◒◓‼⁇⁈⁉ǍǎǐḾḿǸǹǑǒǔǖǘǚǜ"⟩,
  ⟨9, 1, "€\u00a0¡¤¦©ª«\u00ad®¯²³·¸¹º»¼½¾¿ÀÁÂÃÄÅÆÇÈÉÊËÌÍÎÏÐÑÒÓÔÕÖØÙÚÛÜÝÞ"⟩,
  ⟨9, 53, "ßàáâãäåæçèéêëìíîïðñòóôõöøùúûüýþÿĀĪŪĒŌāīūēō"⟩,
  ⟨10, 1, "Ą˘ŁĽŚŠŞŤŹŽŻą˛łľśˇšşťź˝žżŔĂĹĆČĘĚĎŃŇŐŘŮŰŢŕăĺćčęěďđńňőřůűţ˙ĈĜĤĴŜŬĉĝĥĵŝŭɱʋɾ"⟩,
  ⟨10, 72, "ʃʒɬɮɹʈɖɳɽʂʐɻɭɟɲʝʎɡŋɰʁħʕ"⟩,
  ⟨11, 1, "ʔɦʘǂɓɗʄɠƓœŒɨʉɘɵəɜɞɐɯʊɤʌɔɑɒʍɥʢʡɕʑɺɧɚ"⟩,
  ⟨11, 37, "ǽὰά"⟩,
  ⟨11, 48, "ὲέ\u0361ˈˌːˑ\u0306‿\u030b\u0301\u0304\u0300\u030f\u030c\u0302˥˦˧˨˩"⟩,
  ⟨11, 71, "\u0325\u032c\u0339\u031c\u031f\u0320\u0308\u033d\u0329\u032f˞\u0324\u0330\u033c"⟩,
  ⟨11, 85, "\u0334\u031d\u031e\u0318\u0319\u032a\u033a\u033b\u0303\u031a"⟩,
  ⟨12, 1, "❶❷❸❹❺❻❼❽❾❿⓫⓬⓭⓮⓯⓰⓱⓲⓳⓴ⅰⅱⅲⅳⅴⅵⅶⅷⅸⅹⅺⅻⓐⓑⓒⓓⓔⓕⓖⓗⓘⓙ"⟩,
  ⟨12, 43, "ⓚⓛⓜⓝⓞⓟⓠⓡⓢⓣⓤⓥⓦⓧⓨⓩ㋐㋑㋒㋓㋔㋕㋖㋗㋘㋙㋚㋛㋜㋝㋞㋟㋠㋡㋢㋣㋺㋩㋥㋭㋬"⟩,
  ⟨12, 93, "⁑⁂"⟩,
  ⟨13, 1, "①②③④⑤⑥⑦⑧⑨⑩⑪⑫⑬⑭⑮⑯⑰⑱⑲⑳ⅠⅡⅢⅣⅤⅥⅦⅧⅨⅩⅪ㍉㌔㌢㍍㌘㌧㌃㌶㍑㍗"⟩,
  ⟨13, 42, "㌍㌦㌣㌫㍊㌻㎜㎝㎞㎎㎏㏄㎡Ⅻ"⟩,
  ⟨13, 63, "㍻〝〟№㏍℡㊤㊥㊦㊧㊨㈱㈲㈹㍾㍽㍼"⟩,
  ⟨13, 83, "∮"⟩,
  ⟨13, 88, "∟⊿"⟩,
  ⟨13, 93, "❖☞"⟩,
  ⟨14, 1, "俱𠀋㐂丨丯丰亍仡份仿伃伋你佈佉佖佟佪佬佾侊侔侗\ufa30俉俠倁倂倎倘倧倮偀倻偁傔僌僲僐"⟩,
  ⟨14, 40, "僦\ufa31儆儃儋儞儵兊\ufa32兕兗㒵冝凃凊凞凢凮刁㓛刓刕剉剗剡劓勈\ufa33勌勐勖勛\ufa34"⟩,
  ⟨14, 73, "勰勻匀匇匜\ufa35卡卣卽厓厝厲吒吧呍咜呫呴呿咈咖咡"⟩,
  ⟨15, 1, "咩哆哿唎唫唵啐啞喁喆喎\ufa36喭嗎\ufa37嘈嘎嘻噉噶噦\ufa38噯噱噲嚙嚞嚩嚬嚳囉囊圊𡈽圡"⟩,
  ⟨15, 36, "圯圳圴坰坷坼垜\ufa0f𡌛垸埇埈埏埤埭埵埶埿堉\ufa10塡塤\ufa39塼墉增\ufa3a墩𡑮壒壎壔壚"⟩,
  ⟨15, 69, "壠壩夌虁奝奭妋妒妤姃姒姝娓娣婧婭婷婾媄媞媧嫄𡢽嬙嬥剝"⟩,
  ⟨47, 52, "𠮟孁孖孽宓寘寬尒尞尣尫㞍屢\ufa3b\ufa3c𡚴屺岏岟岣岪岺峋峐峒峴𡸴㟢崍崧\ufa11嵆嵇嵓嵊"⟩,
  ⟨47, 87, "嵭嶁嶠嶤嶧嶸巋吞"⟩,
  ⟨84, 7, "噓巢帔帘幘幞庾\uf928廋廹开异弇弝弣弴弶弽彀彅彔彘彤彧彽徉徜徧徯徵德忉忞忡忩怍怔怘怳"⟩,
  ⟨84, 46, "怵恇\ufa3d悝悞惋惔惕惝惸愜愫愰愷\ufa3e憍\ufa3f憼憹\ufa40戢戾扃扖扚扯抅拄拖拼挊挘挹"⟩,
  ⟨84, 79, "捃捥捼揥揭揵搐搔搢摹摑摠摭擎撾撿"⟩,
  ⟨85, 1, "擄擊擐擷擻攢攩\ufa41敧斝\ufa42昀昉昕昞昺昢昤昫昰昱昳曻晈晌𣇄晙晚晡晥晳晷晸暍\ufa43"⟩,
  ⟨85, 36, "暠暲暻曆曈㬢曛曨曺朓\uf929朳杦杇杈杻极枓枘枛枻柹柀柗柼栁桒栝栬栱桛桲桵\ufa44梣梥梲"⟩,
  ⟨85, 73, "棈棐棨棭棰棱棼椊楉𣗄椵楂楗楣楤楨榀\ufa14榥榭槏㮶"⟩,
  ⟨86, 1, "㯃槢槩槪槵槶樏樕𣜿樻樾橅橐橖橛橫橳𣝣檉檔檝檞檥櫤櫧㰏\uf91d欛欞欬欵歆歖歠步歧歷殂殩"⟩,
  ⟨86, 40, "殭\uf970每毖毗毿氅氐氳汙汜沪汴汶沅沆沘沜泻泆泔泠泫泮𣳾洄洎洮洱洹洿浘浥\ufa45涂涇涉"⟩,
  ⟨86, 77, "涔涪涬涿淄淖淚淛淝淼\ufa46渴湄湜湞溫溱滁"⟩,
  ⟨87, 1, "滇滎漐漚\ufa47漪漯漳潑潙潞潡潢潾澈澌澍澔澠澧澶澼濇濊濹濰濵瀅瀆瀨灊灝灞灎灤灵炅炤炫"⟩,
  ⟨87, 40, "炷烔烘烤焏焫焞焠焮焰煆煇煑\ufa48煒煜煠煨\ufa15熅熇熒燁熺燄燾爀爕牕牖㸿犍犛犾狀狻𤟱"⟩,
  ⟨87, 77, "猧猨\ufa16獐獦獼玕玟玠玢玦玫珉珏珖珙珣珩"⟩,
  ⟨88, 1, "琇琊琚琛\ufa4a琦琨琪琫琬琮琯琰瑄瑆瑇瑋瑗瑢瑫瑭璆璇璉璘璜璟璣璐璦璨璩璵璿瓈瓉瓚瓿甁"⟩,
  ⟨88, 40, "甗甯畯畹疒㽲痎痤瘀瘂瘈瘕瘖瘙瘞瘭瘵癃癋癤癥癭癯癱皁皛皝皞皦皪皶盅盌盎盔盦盱盼眊眙眴"⟩,
  ⟨88, 81, "眶睆睍睎睜睟睢睺瞀瞔瞪矠砭𥒎"⟩,
  ⟨89, 1, "硃硎硏硑硨确\ufa4b碰𥔎碭磤磲礀磷礜礮礱礴\ufa4c\ufa4d祅祆\ufa4e\ufa4f\ufa50祜\ufa51"⟩,
  ⟨89, 28, "\ufa19\ufa1a祹\ufa52\ufa53\ufa1b禘禱禸秈秊𥝱秔秞秫秭稃\ufa54稹穝穭\ufa55窅窠𥧄窳窻"⟩,
  ⟨89, 55, "竎竫竽笒笭笻筇筎筠筭筯筲箞\ufa56篗篙簁簱簞簠簳簶䉤𥶡籙籭籹粏粔粠粼糕糙糝紇紈紓紝紣"⟩,
  ⟨89, 94, "紱"⟩,
  ⟨90, 1, "絁絈絓絜絺綃綋綠綦緂緌緖緣\ufa57縨縈縑縕\ufa59繇繒繡纊纍罇\ufa5a羑羗羿翎翛翟翬翮翺"⟩,
  ⟨90, 36, "\ufa5b耔耦耵耷耼胊胗胠胳脘腊腠腧腨腭膻臊臏臗\ufa5c䑓䑛艠艴𦫿芎芡芣芤芩芮芷芾芿苆苕"⟩,
  ⟨90, 73, "苽苾茀茁荢茢茭茺荃荇荑荕荽莆莒莘莧莩莿菀菇菏"⟩,
  ⟨91, 1, "菑菡菪萁萆萊\ufa5f葈葟葰葳蒅蒞蒯蒴蒺蓀蓂𦹀蔲蔞蔣蔯蕙蕤\ufa1f薭蕺薌薏薢薰藋藎藭蘒藿"⟩,
  ⟨91, 38, "蘄蘅蘐𧃴蘘蘩蘸虗虛\uf936虢䖝虬虵蚘蚸蛺蛼蛽蜋蝱螇螈螬螭螵䗪蟖蟬蠆蠊蠐蠔蠟袘袪裊裎𧚄"⟩,
  ⟨91, 77, "裵褜\ufa60褘褙褚褧褰褲褹襀覔\ufa61觔觥觶訒訕"⟩,
  ⟨92, 1, "訢訷詇詎詝詡詵詹誧諐諟諴諶\ufa22\ufa62\ufa63譆譔譙譩讝豉豨\ufa64賡賴賸賾\ufa65贒贛"⟩,
  ⟨92, 32, "趯跎跑跗踠踣踽蹰蹻𨉷軀䡄軺輞輭輶轔𨏍辦辵迤迨迮逈逭\ufa67邈邕邗邙邛邢邳邾郄郅郇郗郝"⟩,
  ⟨92, 71, "郞郯郴\ufa26鄔鄕鄖鄢鄣鄧鄯鄱鄴鄽酈酛醃醞醬醱醼釗釻釤"⟩,
  ⟨93, 1, "釥釭釱鈇鈐鈸鈹鈺鈼鉀鉃鉏鉸銈鋂鋋鋌鋓鋠鋿錄錟錡錥鍈鍉鍊鍤鍥鍪鍰鎛鎣鎺鏆鏞鏟鐄鏽鐳鑊"⟩,
  ⟨93, 42, "鑣鑫鑱鑲閎閟閦閩閬閶閽闋闐闓䦰闚闞陘隄\uf9dc隝隤隥雒雞\ufa68雩雯霳霻靍靎靏靚靮靳鞕"⟩,
  ⟨93, 79, "鞮鞺韁韉韞韛韴\ufa69頊頞頫頰\ufa6a顒顓顖"⟩,
  ⟨94, 1, "顗顙顚\uf9d0顥顬颺飈飧饘馞騂騃騤騭騮騸驊驎驒骶髁髃髎髖髹鬂鬈鬠䰗鬭魞魹魦魲魵鮄鮊鮏"⟩,
  ⟨94, 40, "鮞鮧鯁鯎鯥鯸鯽鰀鰣鱁鱏鱐鱓鱣鱥鱷鴝鴞鵃鵇鵒鵣鵰鵼鶊鶖鷀鶬鶼鷗𪆐鷧鸇鸕鹼麞麤麬麯麴麵"⟩,
  ⟨94, 81, "黃黑鼐鼹齗龐龔龗龢姸屛幷瘦繫"⟩]

/-- The characters of the second plane of JIS X 0213. -/
def jisX0213Second : Grid := [
  ⟨1, 1, "𠂉丂丏丒丩丫丮乀乇么𠂢乑㐆𠂤乚乩亝㐬㐮亹亻𠆢亼仃仈仐仫仚仱仵伀伖佤伷伾佔佘𠈓佷佸佺"⟩,
  ⟨1, 42, "佽侂侅侒侚俦侲侾俅俋俏俒㑪俲倀倐倓倜倞倢㑨偂偆偎偓偗偣偦偪偰傣傈傒傓傕傖傜傪𠌫傱傺"⟩,
  ⟨1, 83, "傻僄僇僳𠎁僎𠍱僔僙僡僩㒒"⟩,
  ⟨3, 1, "儈𠏹儗儛𠑊兠𠔉关冃冋㒼冘冣冭㓇冼𠗖𠘨凳凴刂划刖𠝏剕剜剬剷劄劂𠠇劘𠠺劤劦劯劺劻勊㔟勑"⟩,
  ⟨3, 42, "𠢹勷匊匋匤匵匾卂𠥼𠦝卧卬卺厤厴𠫓厷叀𠬝㕝㕞叕叚㕣叴叵呕吤吨㕮呃呢呦呬咊咍咕咠咦咭咮"⟩,
  ⟨3, 83, "咷咺咿哃𠵅哬哯哱哳唀唁唉"⟩,
  ⟨4, 1, "唼啁㖦啇啊㖨啠啡啤𠷡啽喂喈喑㗅嗒𠺕𠹭喿嗉嗌嗑嗝㗚嗢𠹤嗩嘨𠽟嘇嘐嘰嘷㗴嘽嘿噀噇噞噠噭"⟩,
  ⟨4, 42, "㘅嚈嚌嚕嚚嚝嚨嚭嚲囅囍囟囨囶囷𡈁圕圣𡉕圩𡉻坅坆坌坍𡉴坨坯坳坴坵坻𡋤𡋗垬垚垝垞垨埗𡋽"⟩,
  ⟨4, 83, "埌𡌶𡍄埞埦埰㙊埸埻埽堄堞"⟩,
  ⟨5, 1, "堠堧堲堹𡏄塉塌塧墊墋墍墏墐墔墝墪墱𡑭壃壍壢壳壴夅夆夋复夔夤𡗗㚑夽㚙奆㚖𦰩奛奟𡙇奵奶"⟩,
  ⟨5, 42, "奼妟妮妼姈姍姞姣姤姧姮𡜆𡝂㛏娌娍娗娧娭婕婥婺媋媜媟媠媢媱媳媵媺媿嫚嫜嫠嫥嫰嫮嫵嬀嬈"⟩,
  ⟨5, 83, "嬗嬴嬭孌孒孨孯孼孿宁宄𡧃"⟩,
  ⟨8, 1, "宖宬㝡寀㝢寎寖㝬㝫寱寽㝵尃尩尰𡱖屟屣屧屨屩屰𡴭𡵅屼𡵸𡵢岈岊㟁𡶡𡶜岠岢岦岧𡶒岭岵𡶷峉"⟩,
  ⟨8, 42, "𡷠𡸳崆崐崫崝崠崤崦崱崹嵂㟨嵡嵪㟴嵰𡼞㟽嶈㠀嶒嶔嶗嶙嶰嶲嶴𡽶嶹巑巗巘巠𡿺巤巩㠯帀㠶帒"⟩,
  ⟨8, 83, "帕㡀帟帮帾幉㡜幖㡡幫幬幭"⟩,
  ⟨12, 1, "幮𢅻庥庪庬庹庿廆廒廙𢌞廽弈弎弜𢎭弞彇彣彲彾徏徢徤徸忄㣺忇忋忒忓忔忢忮忯忳忼㤗怗怢怤"⟩,
  ⟨12, 42, "㤚恌恿悊悕您𢛳悰悱悾惈惙惛惮惲惵愐愒愓愙愞愺㥯慁慆慠慼𢡛憒憓憗憘憥憨憭𢢫懕懝懟懵𢦏"⟩,
  ⟨12, 83, "戕戣戩扆扌扑扒扡扤扻扭扳"⟩,
  ⟨13, 1, "抙抦拕𢪸拽挃挍挐𢭏𢭐挲挵挻挼捁捄捎𢭆捙𢰝𢮦捬掄掙𢰤掔掽揷揔揕揜揠揫揬揲搉搞搥搩搯摚"⟩,
  ⟨13, 42, "摛摝摳摽撇撑撝撟擋擌擕擗𢷡擤擥擿攄㩮攏攔攖㩳攞攲敄敔敫敺斁斄斅斊斲斵斸斿旂旉旔㫖旲"⟩,
  ⟨13, 83, "旹旼昄昈昡昪晅晑晎㫪𣇃晗"⟩,
  ⟨14, 1, "晛晣𣇵𣆶晪晫晬晭晻暀暐暒暙㬎暭暱暵㬚暿㬜曬㫗朁朅朒𣍲朙𣏓𣏒杌杍杔杝𣏐𣏤𣏕杴杶𣏚枒𣏟"⟩,
  ⟨14, 42, "荣栐枰枲柃柈柒柙柛柰柷𣑊𣑑𣑋栘栟栭𣑥栳栻栾桄桅桉桌桕桗㭷桫桮桺桼梂梐梖㭭梘梙梚梜梪"⟩,
  ⟨14, 83, "梫梴梻棻𣓤𣕚\ufa13棃棅棌棏棖"⟩,
  ⟨15, 1, "棙棤棥棬棷椃椇㮇㮈𣖔椻㮍楆楩楬楲楺楿榒㮤榖榘榦榰榷榺榼槀槑槖𣘹𣙇樰𣘸𣘺槣槮槯槳㯍槴"⟩,
  ⟨15, 42, "槾樑樚樝𣜜樲樳樴樿橆橉橺橎橒橤𣜌橾檃檋㯰檑檟檡𣝤檫檽櫆櫔櫐櫜櫝𣟿𣟧櫬櫱櫲櫳櫽𣠤欋欏"⟩,
  ⟨15, 83, "欐欑𣠽欗㰦欯歊歘歬歵歺殁"⟩,
  ⟨78, 1, "殛殮𣪘殽殾毇毈毉毚毦毧毮毱氂氊氎氵氶氺𣱿氿汍汛汭沄沉㳃沔沕沗沭泂泐㳒泖泚泜泩泬泭𣴀"⟩,
  ⟨78, 42, "洀洊洤洦洧汧洯洼浛浞浠浰涀涁涊涍涑涘𣵀渗𣷺𣷹𣷓涫涮涴淂洴淈淎淏淐淟淩淶渶渞渢渧㴑渲"⟩,
  ⟨78, 83, "渼湈湉湋湌湏湑湓湔湗湣㴞"⟩,
  ⟨79, 1, "溓溧溴溿滃滊滙漵滫滹滻漊漌漘漥漶漼𣽾潒潗潚潠潨澘潽澐澖澾澟澥澯㵤澵濈濉濚濞濩𤂖濼瀀"⟩,
  ⟨79, 42, "瀇瀊瀣𤄃瀹瀺瀼灃灇灋㶚灔灥灩灬灮灶灾炁炆炕炗炻𤇆炟炱𤇾烬烊烑烓烜焃焄焆焇焈焌㷀焯焱"⟩,
  ⟨79, 83, "煐煊煓煞㷔熖熀熛熠熢熮熯"⟩,
  ⟨80, 1, "熳𤎼燋燓燙燜爇㸅\ufa49爫爴爸爹丬牂牓牗牣𤘩牮牯牸牿犎𤚥犭犮犰犱狁㹠狌㹦㹨狳狺猇猒猘"⟩,
  ⟨80, 40, "猙㺃猹猬猱猳猽獒㺔獫獬𤢖獮獯獱獷玁玅玊玔玘玜玞玥玨玵玷玹玼玿珅珋珡珧珹琓珺琁琤琱琹"⟩,
  ⟨80, 81, "瑓瑀瑃瑍瑒瑝瑱璁璅璈𤩍璒璗璙"⟩,
  ⟨81, 1, "璠璡璥璪璫璹璻璺瓖瓘瓞瓯瓫𤭖瓺𤭯甠甤甪㽗𤰖甽甾畀畈畎畐畒畬畲畱畺畽畾疁𤴔疌㽵疢㽷疰"⟩,
  ⟨81, 42, "疷疿痀痆痏痓痝痟痠痧痬痮痱痹瘃瘘瘇瘏㾮𤸎瘓瘛瘜𤸷瘥瘨瘼瘳𤹪㿉癁𤺋癉癕㿗癮皕皜皡皠皧"⟩,
  ⟨81, 83, "皨皯𥁊盉𥁕盨盬𥄢眗眚眭眵"⟩,
  ⟨82, 1, "𥆩䀹𥇥𥇍睘睠睪𥈞睲睼睽𥉌䁘瞚瞟瞢瞤瞩矞矟矤矦矪矬䂓矰矴矻𥐮砅砆砉砍砙砡砬硇硤硪𥓙碊"⟩,
  ⟨82, 42, "碔碤碝碞碟碻磈磌磎磕磠磡磦磹磺磻磾𥖧礐礛礰礥礻祊祘祛䄅祧祲禔禕禖禛禡禩禴离秂秇秌种"⟩,
  ⟨82, 83, "秖䅈𥞩𥞴䅏稊稑稕稛稞䅣稭"⟩,
  ⟨83, 1, "稸穇穌穖穙穜穟穠穧穪穵穸窂窊窐窣窬𥧔䆴窹窼窾䆿竌竑竧竨竴𥫤𥫣笇𥫱笽笧笪笮笯笱䇦䇳筿"⟩,
  ⟨83, 42, "筁䇮筕筹筤筦筩筳𥮲䈇箐箑箛䈎箯箵箼篅篊𥱋𥱤篔篖篚篪篰簃簋簎簏簦籅籊籑籗籞籡籩籮籯籰"⟩,
  ⟨83, 83, "𥸮𥹖𥹥粦𥹢粶粷粿𥻘糄𥻂糈"⟩,
  ⟨84, 1, "糍𥻨糗𥼣糦糫𥽜糵紃紉䋆紒紞𥿠𥿔紽紾絀絇𦀌𥿻䋖絙絚絪絰䋝絿𦀗綆綈綌綗𦁠綝綧綪綶綷緀緗"⟩,
  ⟨84, 42, "緙緦緱緹䌂𦃭\ufa58縐縗縝縠縧縬繅繳繵繾纆纇䌫纑纘纚䍃缼缻缾罃罄罏㓁𦉰罒𦊆罡罣罤罭罽"⟩,
  ⟨84, 81, "罾𦍌羐养𣴎羖羜羭𦐂翃翏翣翥翯"⟩,
  ⟨85, 1, "翲耂耊耈耎耑耖耤耬耰聃聦聱聵聻肙肜肤肧肸𦙾胅胕胘胦𦚰脍胵胻䏮脵脖脞䏰脤脧脬𦜝脽䐈腩"⟩,
  ⟨85, 42, "䐗膁䐜膄膅䐢膘膲臁臃臖臛𦣝臤𦣪臬𦥑臽臿𦥯舄𦧝舙舡舢𦨞舲舴舼艆艉艅𦩘艋䑶艏䑺艗𦪌艜艣"⟩,
  ⟨85, 83, "𦪷\ufa5d\ufa5e艹䒑艽艿芃芊芓芧芨"⟩,
  ⟨86, 1, "芲芴芺芼苢苨苷茇茈茌荔茛茝茰茼荄荗䒾荿䓔䒳莍莔莕莛莝菉菐菔菝菥菹萏萑萕𦱳萗萹葊葏葑"⟩,
  ⟨86, 42, "葒葙葚葜𦳝葥葶葸葼蒁䔍蓜蒗蒦蒾䔈蓎蓏蓓𦹥蓧蓪蓯蓰蓱蓺蓽蔌蔛蔤蔥蔫蔴蕏蕯䔥䕃蔾蕑蕓蕞"⟩,
  ⟨86, 83, "蕡蕢𦾔蕻蕽蕿薁薆薓薝薟𦿸"⟩,
  ⟨87, 1, "𦿶𦿷薷薼藇藊藘藙藟藡藦藶蘀蘑蘞蘡蘤蘧𧄍蘹蘼𧄹虀\ufa20虓虖虯虷虺蚇蚉蚍蚑蚜蚝蚨\ufa21"⟩,
  ⟨87, 38, "蚱蚳蛁蛃蛑蛕蛗蛣蛦䖸蜅蜇蜎蜐蜓蜙蜟蜡蜣蜱蜺蜾蝀蝃蝑蝘蝤蝥蝲蝼𧏛𧏚螧螉螋螓螠𧏾䗥螾𧐐"⟩,
  ⟨87, 79, "蟁蟎蟵蟟𧑉蟣蟥蟦蟪蟫蟭蠁蠃蠋蠓蠨"⟩,
  ⟨88, 1, "蠮蠲蠼䘏衊衘衟衤𧘕𧘔衩𧘱衯袠袼袽袾裀裒𧚓裑裓裛裰裱䙁褁𧜎褷𧜣襂襅襉𧝒䙥襢覀覉覐覟覰"⟩,
  ⟨88, 42, "覷觖觘觫䚡觱觳觽觿䚯訑訔𧦅訡訵訾詅詍詘誮誐誷誾諗諼𧪄謊謅謍謜謟謭譃䜌譑譞譶譿讁讋讔"⟩,
  ⟨88, 83, "讕讜讞谹𧮳谽𧮾𧯇豅豇豏豔"⟩,
  ⟨89, 1, "豗豩豭豳𧲸貓貒貙䝤貛貤賖賕賙𧶠賰賱𧸐贉贎赬趄趕趦𧾷跆跈跙跬踌䟽跽踆𨂊踔踖踡踢踧𨂻䠖"⟩,
  ⟨89, 42, "踶踹蹋蹔蹢蹬蹭蹯躘躞躮躳躵躶躻𨊂軑軔䡎軹𨋳輀輈輗輫轀轊轘𨐌辤辴\ufa66辶𨑕迁迆\ufa24"⟩,
  ⟨89, 79, "迊迍迓迕迠迱迵迻适逌逷𨕫遃遄遝𨗈"⟩,
  ⟨90, 1, "𨗉邅邌邐阝邡䢵邰邶郃郈𨛗郜郟𨛺郶郲鄀郫郾郿鄄鄆鄘鄜鄞鄷鄹鄺酆酇酗酙酡酤酴酹醅醎醨醮"⟩,
  ⟨90, 42, "醳醶釃釄釚𨥉𨥆釬釮鈁鈊鈖鈗𨥫鈳鉂鉇鉊鉎鉑鉖鉙鉠鉡鉥鉧鉨𨦇𨦈鉼鉽鉿銉銍銗銙銟銧銫𨦺𨦻"⟩,
  ⟨90, 83, "銲銿鋀鋆鋎鋐鋗鋙鋥鋧錑𨨞"⟩,
  ⟨91, 1, "𨨩鋷鋹鋻錂錍錕錝錞錧錩𨩱𨩃鍇鍑鍗鍚鍫鍱鍳鎡𨪙𨫍鎈鎋鎏鎞鏵𨫤𨫝鏱鏁鏇鏜鏢鏧鐉鐏鐖鐗鏻"⟩,
  ⟨91, 42, "鐲鐴鐻鑅𨯁𨯯鑭鑯镸镹閆閌閍𨴐閫閴𨵱闈𨷻𨸟阬阳阴𨸶阼陁陡𨺉隂𨻫隚𨼲䧧隩隯隳隺隽䧺𨿸雘"⟩,
  ⟨91, 83, "雚雝䨄霔霣䨩霶靁靇靕靗靛"⟩,
  ⟨92, 1, "靪𩊠𩊱鞖鞚鞞鞢鞱鞲鞾韌韑韔韘韙韡韱頄頍頎頔頖䪼𩒐頣頲頳頥顇顦颫颭颰𩗏颷颸颻颼颿飂飇"⟩,
  ⟨92, 42, "飋飠𩙿飡飣飥飪飰飱飳餈䬻𩛰餖餗𩜙餚餛餜𩝐餱餲餳餺餻餼饀饁饆饍饎饜饟饠馣馦馹馽馿駃駉"⟩,
  ⟨92, 83, "駔駙駞𩣆駰駹駼騊騑騖騚騠"⟩,
  ⟨93, 1, "騱騶驄驌驘䯂骯䯊骷䯒骹𩩲髆髐髒髕䯨髜髠髥髩鬃鬌鬐鬒鬖鬜鬫鬳鬽䰠魋魣魥魫魬魳魶魷鮦鮬"⟩,
  ⟨93, 42, "鮱𩷛𩸽鮲鮸鮾鯇鯳鯘鯝鯧鯪鯫鯯鯮𩸕鯺𩺊鯷𩹉鰖鰘鰙鰚鰝鰢鰧鰩鰪𩻄鰱鰶鰷鱅鱜𩻩鱉鱊𩻛鱔鱘"⟩,
  ⟨93, 83, "鱛鱝鱟鱩鱪鱫鱭鱮鱰鱲鱵鱺"⟩,
  ⟨94, 1, "鳦鳲鴋鴂𩿎鴑鴗鴘𪀯䳄𪀚鴲䳑鵂鵊鵟鵢𪃹鵩鵫𪂂鵳鵶鵷鵾鶄鶍鶙鶡鶿鶵鶹鶽鷃鷇鷉鷖鷚鷟鷠鷣"⟩,
  ⟨94, 42, "鷴䴇鸊鸂鸍鸙鸜鸝鹻𢈘麀麅麛麨𪎌麽𪐷黟黧黮黿鼂䵷鼃鼗鼙鼯鼷鼺鼽齁齅齆齓齕齘𪗱齝𪘂齩𪘚"⟩,
  ⟨94, 83, "齭齰齵𪚲"⟩]

end ConfigGate.Text.Charset.Grid
