import ConfigGate.Text.Charset.Grid

namespace ConfigGate.Text.Charset.Grid

/-- The characters of JIS X 0212, which lie beside those of JIS X 0208. -/
def jisX0212 : Grid := [
  ⟨2, 15, "˘ˇ¸˙˝¯˛˚\x7e΄΅"⟩,
  ⟨2, 34, "¡¦¿"⟩,
  ⟨2, 75, "ºª©®™¤№"⟩,
  ⟨6, 65, "ΆΈΉΊΪ"⟩,
  ⟨6, 71, "Ό"⟩,
  ⟨6, 73, "ΎΫ"⟩,
  ⟨6, 76, "Ώ"⟩,
  ⟨6, 81, "άέήίϊΐόςύϋΰώ"⟩,
  ⟨7, 34, "ЂЃЄЅІЇЈЉЊЋЌЎЏ"⟩,
  ⟨7, 82, "ђѓєѕіїјљњћќўџ"⟩,
  ⟨9, 1, "ÆĐ"⟩,
  ⟨9, 4, "Ħ"⟩,
  ⟨9, 6, "Ĳ"⟩,
  ⟨9, 8, "ŁĿ"⟩,
  ⟨9, 11, "ŊØŒ"⟩,
  ⟨9, 15, "ŦÞ"⟩,
  ⟨9, 33, "æđðħıĳĸłŀŉŋøœßŧþ"⟩,
  ⟨10, 1, "ÁÀÄÂĂǍĀĄÅÃĆĈČÇĊĎÉÈËÊĚĖĒĘ"⟩,
  ⟨10, 26, "ĜĞĢĠĤÍÌÏÎǏİĪĮĨĴĶĹĽĻŃŇŅÑÓÒÖÔǑŐŌÕŔŘŖŚŜŠŞŤŢÚÙÜÛŬǓŰŪŲŮŨǗǛǙǕŴÝŸŶŹŽŻ"⟩,
  ⟨11, 1, "áàäâăǎāąåãćĉčçċďéèëêěėēęǵĝğ"⟩,
  ⟨11, 29, "ġĥíìïîǐ"⟩,
  ⟨11, 37, "īįĩĵķĺľļńňņñóòöôǒőōõŕřŗśŝšşťţúùüûŭǔűūųůũǘǜǚǖŵýÿŷźžż"⟩,
  ⟨16, 1, "丂丄丅丌丒丟丣两丨丫丮丯丰丵乀乁乄乇乑乚乜乣乨乩乴乵乹乿亍亖亗亝亯亹仃仐仚仛仠仡仢"⟩,
  ⟨16, 42, "仨仯仱仳仵份仾仿伀伂伃伈伋伌伒伕伖众伙伮伱你伳伵伷伹伻伾佀佂佈佉佋佌佒佔佖佘佟佣佪"⟩,
  ⟨16, 83, "佬佮佱佷佸佹佺佽佾侁侂侄"⟩,
  ⟨17, 1, "侅侉侊侌侎侐侒侓侔侗侙侚侞侟侲侷侹侻侼侽侾俀俁俅俆俈俉俋俌俍俏俒俜俠俢俰俲俼俽俿倀"⟩,
  ⟨17, 42, "倁倄倇倊倌倎倐倓倗倘倛倜倝倞倢倧倮倰倲倳倵偀偁偂偅偆偊偌偎偑偒偓偗偙偟偠偢偣偦偧偪"⟩,
  ⟨17, 83, "偭偰偱倻傁傃傄傆傊傎傏傐"⟩,
  ⟨18, 1, "傒傓傔傖傛傜傞傟傠傡傢傪傯傰傹傺傽僀僃僄僇僌僎僐僓僔僘僜僝僟僢僤僦僨僩僯僱僶僺僾儃"⟩,
  ⟨18, 42, "儆儇儈儋儌儍儎僲儐儗儙儛儜儝儞儣儧儨儬儭儯儱儳儴儵儸儹兂兊兏兓兕兗兘兟兤兦兾冃冄冋"⟩,
  ⟨18, 83, "冎冘冝冡冣冭冸冺冼冾冿凂"⟩,
  ⟨19, 1, "凈减凑凒凓凕凘凞凢凥凮凲凳凴凷刁刂刅划刓刕刖刘刢刨刱刲刵刼剅剉剕剗剘剚剜剟剠剡剦剮"⟩,
  ⟨19, 42, "剷剸剹劀劂劅劊劌劓劕劖劗劘劚劜劤劥劦劧劯劰劶劷劸劺劻劽勀勄勆勈勌勏勑勔勖勛勜勡勥勨"⟩,
  ⟨19, 83, "勩勪勬勰勱勴勶勷匀匃匊匋"⟩,
  ⟨20, 1, "匌匑匓匘匛匜匞匟匥匧匨匩匫匬匭匰匲匵匼匽匾卂卌卋卙卛卡卣卥卬卭卲卹卾厃厇厈厎厓厔厙"⟩,
  ⟨20, 42, "厝厡厤厪厫厯厲厴厵厷厸厺厽叀叅叏叒叓叕叚叝叞叠另叧叵吂吓吚吡吧吨吪启吱吴吵呃呄呇呍"⟩,
  ⟨20, 83, "呏呞呢呤呦呧呩呫呭呮呴呿"⟩,
  ⟨21, 1, "咁咃咅咈咉咍咑咕咖咜咟咡咦咧咩咪咭咮咱咷咹咺咻咿哆哊响哎哠哪哬哯哶哼哾哿唀唁唅唈唉"⟩,
  ⟨21, 42, "唌唍唎唕唪唫唲唵唶唻唼唽啁啇啉啊啍啐啑啘啚啛啞啠啡啤啦啿喁喂喆喈喎喏喑喒喓喔喗喣喤"⟩,
  ⟨21, 83, "喭喲喿嗁嗃嗆嗉嗋嗌嗎嗑嗒"⟩,
  ⟨22, 1, "嗓嗗嗘嗛嗞嗢嗩嗶嗿嘅嘈嘊嘍嘎嘏嘐嘑嘒嘙嘬嘰嘳嘵嘷嘹嘻嘼嘽嘿噀噁噃噄噆噉噋噍噏噔噞噠"⟩,
  ⟨22, 42, "噡噢噣噦噩噭噯噱噲噵嚄嚅嚈嚋嚌嚕嚙嚚嚝嚞嚟嚦嚧嚨嚩嚫嚬嚭嚱嚳嚷嚾囅囉囊囋囏囐囌囍囙"⟩,
  ⟨22, 83, "囜囝囟囡囤囥囦囧囨囱囫园"⟩,
  ⟨23, 1, "囶囷圁圂圇圊圌圑圕圚圛圝圠圢圣圤圥圩圪圬圮圯圳圴圽圾圿坅坆坌坍坒坢坥坧坨坫坭坮坯坰"⟩,
  ⟨23, 42, "坱坳坴坵坷坹坺坻坼坾垁垃垌垔垗垙垚垜垝垞垟垡垕垧垨垩垬垸垽埇埈埌埏埕埝埞埤埦埧埩埭"⟩,
  ⟨23, 83, "埰埵埶埸埽埾埿堃堄堈堉埡"⟩,
  ⟨24, 1, "堌堍堛堞堟堠堦堧堭堲堹堿塉塌塍塏塐塕塟塡塤塧塨塸塼塿墀墁墇墈墉墊墌墍墏墐墔墖墝墠墡"⟩,
  ⟨24, 42, "墢墦墩墱墲壄墼壂壈壍壎壐壒壔壖壚壝壡壢壩壳夅夆夋夌夒夓夔虁夝夡夣夤夨夯夰夳夵夶夿奃"⟩,
  ⟨24, 83, "奆奒奓奙奛奝奞奟奡奣奫奭"⟩,
  ⟨25, 1, "奯奲奵奶她奻奼妋妌妎妒妕妗妟妤妧妭妮妯妰妳妷妺妼姁姃姄姈姊姍姒姝姞姟姣姤姧姮姯姱姲"⟩,
  ⟨25, 42, "姴姷娀娄娌娍娎娒娓娞娣娤娧娨娪娭娰婄婅婇婈婌婐婕婞婣婥婧婭婷婺婻婾媋媐媓媖媙媜媞媟"⟩,
  ⟨25, 83, "媠媢媧媬媱媲媳媵媸媺媻媿"⟩,
  ⟨26, 1, "嫄嫆嫈嫏嫚嫜嫠嫥嫪嫮嫵嫶嫽嬀嬁嬈嬗嬴嬙嬛嬝嬡嬥嬭嬸孁孋孌孒孖孞孨孮孯孼孽孾孿宁宄宆"⟩,
  ⟨26, 42, "宊宎宐宑宓宔宖宨宩宬宭宯宱宲宷宺宼寀寁寍寏寖寗寘寙寚寠寯寱寴寽尌尗尞尟尣尦尩尫尬尮"⟩,
  ⟨26, 83, "尰尲尵尶屙屚屜屢屣屧屨屩"⟩,
  ⟨27, 1, "屭屰屴屵屺屻屼屽岇岈岊岏岒岝岟岠岢岣岦岪岲岴岵岺峉峋峒峝峗峮峱峲峴崁崆崍崒崫崣崤崦"⟩,
  ⟨27, 42, "崧崱崴崹崽崿嵂嵃嵆嵈嵕嵑嵙嵊嵟嵠嵡嵢嵤嵪嵭嵰嵹嵺嵾嵿嶁嶃嶈嶊嶒嶓嶔嶕嶙嶛嶟嶠嶧嶫嶰"⟩,
  ⟨27, 83, "嶴嶸嶹巃巇巋巐巎巘巙巠巤"⟩,
  ⟨28, 1, "巩巸巹帀帇帍帒帔帕帘帟帠帮帨帲帵帾幋幐幉幑幖幘幛幜幞幨幪幫幬幭幮幰庀庋庎庢庤庥庨庪"⟩,
  ⟨28, 42, "庬庱庳庽庾庿廆廌廋廎廑廒廔廕廜廞廥廫异弆弇弈弎弙弜弝弡弢弣弤弨弫弬弮弰弴弶弻弽弿彀"⟩,
  ⟨28, 83, "彄彅彇彍彐彔彘彛彠彣彤彧"⟩,
  ⟨29, 1, "彯彲彴彵彸彺彽彾徉徍徏徖徜徝徢徧徫徤徬徯徰徱徸忄忇忈忉忋忐忑忒忓忔忞忡忢忨忩忪忬忭"⟩,
  ⟨29, 42, "忮忯忲忳忶忺忼怇怊怍怓怔怗怘怚怟怤怭怳怵恀恇恈恉恌恑恔恖恗恝恡恧恱恾恿悂悆悈悊悎悑"⟩,
  ⟨29, 83, "悓悕悘悝悞悢悤悥您悰悱悷"⟩,
  ⟨30, 1, "悻悾惂惄惈惉惊惋惎惏惔惕惙惛惝惞惢惥惲惵惸惼惽愂愇愊愌愐愑愒愓愔愖愗愙愜愞愢愪愫愰"⟩,
  ⟨30, 42, "愱愵愶愷愹慁慅慆慉慞慠慬慲慸慻慼慿憀憁憃憄憋憍憒憓憗憘憜憝憟憠憥憨憪憭憸憹憼懀懁懂"⟩,
  ⟨30, 83, "懎懏懕懜懝懞懟懡懢懧懩懥"⟩,
  ⟨31, 1, "懬懭懯戁戃戄戇戓戕戜戠戢戣戧戩戫戹戽扂扃扄扆扌扐扑扒扔扖扚扜扤扭扯扳扺扽抍抎抏抐抦"⟩,
  ⟨31, 42, "抨抳抶抷抺抾抿拄拎拕拖拚拪拲拴拼拽挃挄挊挋挍挐挓挖挘挩挪挭挵挶挹挼捁捂捃捄捆捊捋捎"⟩,
  ⟨31, 83, "捒捓捔捘捛捥捦捬捭捱捴捵"⟩,
  ⟨32, 1, "捸捼捽捿掂掄掇掊掐掔掕掙掚掞掤掦掭掮掯掽揁揅揈揎揑揓揔揕揜揠揥揪揬揲揳揵揸揹搉搊搐"⟩,
  ⟨32, 42, "搒搔搘搞搠搢搤搥搩搪搯搰搵搽搿摋摏摑摒摓摔摚摛摜摝摟摠摡摣摭摳摴摻摽撅撇撏撐撑撘撙"⟩,
  ⟨32, 83, "撛撝撟撡撣撦撨撬撳撽撾撿"⟩,
  ⟨33, 1, "擄擉擊擋擌擎擐擑擕擗擤擥擩擪擭擰擵擷擻擿攁攄攈攉攊攏攓攔攖攙攛攞攟攢攦攩攮攱攺攼攽"⟩,
  ⟨33, 42, "敃敇敉敐敒敔敟敠敧敫敺敽斁斅斊斒斕斘斝斠斣斦斮斲斳斴斿旂旈旉旎旐旔旖旘旟旰旲旴旵旹"⟩,
  ⟨33, 83, "旾旿昀昄昈昉昍昑昒昕昖昝"⟩,
  ⟨34, 1, "昞昡昢昣昤昦昩昪昫昬昮昰昱昳昹昷晀晅晆晊晌晑晎晗晘晙晛晜晠晡曻晪晫晬晾晳晵晿晷晸晹"⟩,
  ⟨34, 42, "晻暀晼暋暌暍暐暒暙暚暛暜暟暠暤暭暱暲暵暻暿曀曂曃曈曌曎曏曔曛曟曨曫曬曮曺朅朇朎朓朙"⟩,
  ⟨34, 83, "朜朠朢朳朾杅杇杈杌杔杕杝"⟩,
  ⟨35, 1, "杦杬杮杴杶杻极构枎枏枑枓枖枘枙枛枰枱枲枵枻枼枽柹柀柂柃柅柈柉柒柗柙柜柡柦柰柲柶柷桒"⟩,
  ⟨35, 42, "栔栙栝栟栨栧栬栭栯栰栱栳栻栿桄桅桊桌桕桗桘桛桫桮桯桰桱桲桵桹桺桻桼梂梄梆梈梖梘梚梜"⟩,
  ⟨35, 83, "梡梣梥梩梪梮梲梻棅棈棌棏"⟩,
  ⟨36, 1, "棐棑棓棖棙棜棝棥棨棪棫棬棭棰棱棵棶棻棼棽椆椉椊椐椑椓椖椗椱椳椵椸椻楂楅楉楎楗楛楣楤"⟩,
  ⟨36, 42, "楥楦楨楩楬楰楱楲楺楻楿榀榍榒榖榘榡榥榦榨榫榭榯榷榸榺榼槅槈槑槖槗槢槥槮槯槱槳槵槾樀"⟩,
  ⟨36, 83, "樁樃樏樑樕樚樝樠樤樨樰樲"⟩,
  ⟨37, 1, "樴樷樻樾樿橅橆橉橊橎橐橑橒橕橖橛橤橧橪橱橳橾檁檃檆檇檉檋檑檛檝檞檟檥檫檯檰檱檴檽檾"⟩,
  ⟨37, 42, "檿櫆櫉櫈櫌櫐櫔櫕櫖櫜櫝櫤櫧櫬櫰櫱櫲櫼櫽欂欃欆欇欉欏欐欑欗欛欞欤欨欫欬欯欵欶欻欿歆歊"⟩,
  ⟨37, 83, "歍歒歖歘歝歠歧歫歮歰歵歽"⟩,
  ⟨38, 1, "歾殂殅殗殛殟殠殢殣殨殩殬殭殮殰殸殹殽殾毃毄毉毌毖毚毡毣毦毧毮毱毷毹毿氂氄氅氉氍氎氐"⟩,
  ⟨38, 42, "氒氙氟氦氧氨氬氮氳氵氶氺氻氿汊汋汍汏汒汔汙汛汜汫汭汯汴汶汸汹汻沅沆沇沉沔沕沗沘沜沟"⟩,
  ⟨38, 83, "沰沲沴泂泆泍泏泐泑泒泔泖"⟩,
  ⟨39, 1, "泚泜泠泧泩泫泬泮泲泴洄洇洊洎洏洑洓洚洦洧洨汧洮洯洱洹洼洿浗浞浟浡浥浧浯浰浼涂涇涑涒"⟩,
  ⟨39, 42, "涔涖涗涘涪涬涴涷涹涽涿淄淈淊淎淏淖淛淝淟淠淢淥淩淯淰淴淶淼渀渄渞渢渧渲渶渹渻渼湄湅"⟩,
  ⟨39, 83, "湈湉湋湏湑湒湓湔湗湜湝湞"⟩,
  ⟨40, 1, "湢湣湨湳湻湽溍溓溙溠溧溭溮溱溳溻溿滀滁滃滇滈滊滍滎滏滫滭滮滹滻滽漄漈漊漌漍漖漘漚漛"⟩,
  ⟨40, 42, "漦漩漪漯漰漳漶漻漼漭潏潑潒潓潗潙潚潝潞潡潢潨潬潽潾澃澇澈澋澌澍澐澒澓澔澖澚澟澠澥澦"⟩,
  ⟨40, 83, "澧澨澮澯澰澵澶澼濅濇濈濊"⟩,
  ⟨41, 1, "濚濞濨濩濰濵濹濼濽瀀瀅瀆瀇瀍瀗瀠瀣瀯瀴瀷瀹瀼灃灄灈灉灊灋灔灕灝灞灎灤灥灬灮灵灶灾炁"⟩,
  ⟨41, 42, "炅炆炔炕炖炗炘炛炤炫炰炱炴炷烊烑烓烔烕烖烘烜烤烺焃焄焅焆焇焋焌焏焞焠焫焭焯焰焱焸煁"⟩,
  ⟨41, 83, "煅煆煇煊煋煐煒煗煚煜煞煠"⟩,
  ⟨42, 1, "煨煹熀熅熇熌熒熚熛熠熢熯熰熲熳熺熿燀燁燄燋燌燓燖燙燚燜燸燾爀爇爈爉爓爗爚爝爟爤爫爯"⟩,
  ⟨42, 42, "爴爸爹牁牂牃牅牎牏牐牓牕牖牚牜牞牠牣牨牫牮牯牱牷牸牻牼牿犄犉犍犎犓犛犨犭犮犱犴犾狁"⟩,
  ⟨42, 83, "狇狉狌狕狖狘狟狥狳狴狺狻"⟩,
  ⟨43, 1, "狾猂猄猅猇猋猍猒猓猘猙猞猢猤猧猨猬猱猲猵猺猻猽獃獍獐獒獖獘獝獞獟獠獦獧獩獫獬獮獯獱"⟩,
  ⟨43, 42, "獷獹獼玀玁玃玅玆玎玐玓玕玗玘玜玞玟玠玢玥玦玪玫玭玵玷玹玼玽玿珅珆珉珋珌珏珒珓珖珙珝"⟩,
  ⟨43, 83, "珡珣珦珧珩珴珵珷珹珺珻珽"⟩,
  ⟨44, 1, "珿琀琁琄琇琊琑琚琛琤琦琨琩琪琫琬琭琮琯琰琱琹瑀瑃瑄瑆瑇瑋瑍瑑瑒瑗瑝瑢瑦瑧瑨瑫瑭瑮瑱"⟩,
  ⟨44, 42, "瑲璀璁璅璆璇璉璏璐璑璒璘璙璚璜璟璠璡璣璦璨璩璪璫璮璯璱璲璵璹璻璿瓈瓉瓌瓐瓓瓘瓚瓛瓞"⟩,
  ⟨44, 83, "瓟瓤瓨瓪瓫瓯瓴瓺瓻瓼瓿甆"⟩,
  ⟨45, 1, "甒甖甗甠甡甤甧甩甪甯甶甹甽甾甿畀畃畇畈畎畐畒畗畞畟畡畯畱畹畺畻畼畽畾疁疅疐疒疓疕疙"⟩,
  ⟨45, 42, "疜疢疤疴疺疿痀痁痄痆痌痎痏痗痜痟痠痡痤痧痬痮痯痱痹瘀瘂瘃瘄瘇瘈瘊瘌瘏瘒瘓瘕瘖瘙瘛瘜"⟩,
  ⟨45, 83, "瘝瘞瘣瘥瘦瘩瘭瘲瘳瘵瘸瘹"⟩,
  ⟨46, 1, "瘺瘼癊癀癁癃癄癅癉癋癕癙癟癤癥癭癮癯癱癴皁皅皌皍皕皛皜皝皟皠皢皣皤皥皦皧皨皪皭皽盁"⟩,
  ⟨46, 42, "盅盉盋盌盎盔盙盠盦盨盬盰盱盶盹盼眀眆眊眎眒眔眕眗眙眚眜眢眨眭眮眯眴眵眶眹眽眾睂睅睆"⟩,
  ⟨46, 83, "睊睍睎睏睒睖睗睜睞睟睠睢"⟩,
  ⟨47, 1, "睤睧睪睬睰睲睳睴睺睽瞀瞄瞌瞍瞔瞕瞖瞚瞟瞢瞧瞪瞮瞯瞱瞵瞾矃矉矑矒矕矙矞矟矠矤矦矪矬矰"⟩,
  ⟨47, 42, "矱矴矸矻砅砆砉砍砎砑砝砡砢砣砭砮砰砵砷硃硄硇硈硌硎硒硜硞硠硡硣硤硨硪确硺硾碊碏碔碘"⟩,
  ⟨47, 83, "碡碝碞碟碤碨碬碭碰碱碲碳"⟩,
  ⟨48, 1, "碻碽碿磇磈磉磌磎磒磓磕磖磤磛磟磠磡磦磪磲磳礀磶磷磺磻磿礆礌礐礚礜礞礟礠礥礧礩礭礱礴"⟩,
  ⟨48, 42, "礵礻礽礿祄祅祆祊祋祏祑祔祘祛祜祧祩祫祲祹祻祼祾禋禌禑禓禔禕禖禘禛禜禡禨禩禫禯禱禴禸"⟩,
  ⟨48, 83, "离秂秄秇秈秊秏秔秖秚秝秞"⟩,
  ⟨49, 1, "秠秢秥秪秫秭秱秸秼稂稃稇稉稊稌稑稕稛稞稡稧稫稭稯稰稴稵稸稹稺穄穅穇穈穌穕穖穙穜穝穟"⟩,
  ⟨49, 42, "穠穥穧穪穭穵穸穾窀窂窅窆窊窋窐窑窔窞窠窣窬窳窵窹窻窼竆竉竌竎竑竛竨竩竫竬竱竴竻竽竾"⟩,
  ⟨49, 83, "笇笔笟笣笧笩笪笫笭笮笯笰"⟩,
  ⟨50, 1, "笱笴笽笿筀筁筇筎筕筠筤筦筩筪筭筯筲筳筷箄箉箎箐箑箖箛箞箠箥箬箯箰箲箵箶箺箻箼箽篂篅"⟩,
  ⟨50, 42, "篈篊篔篖篗篙篚篛篨篪篲篴篵篸篹篺篼篾簁簂簃簄簆簉簋簌簎簏簙簛簠簥簦簨簬簱簳簴簶簹簺"⟩,
  ⟨50, 83, "籆籊籕籑籒籓籙籚籛籜籝籞"⟩,
  ⟨51, 1, "籡籣籧籩籭籮籰籲籹籼籽粆粇粏粔粞粠粦粰粶粷粺粻粼粿糄糇糈糉糍糏糓糔糕糗糙糚糝糦糩糫"⟩,
  ⟨51, 42, "糵紃紇紈紉紏紑紒紓紖紝紞紣紦紪紭紱紼紽紾絀絁絇絈絍絑絓絗絙絚絜絝絥絧絪絰絸絺絻絿綁"⟩,
  ⟨51, 83, "綂綃綅綆綈綋綌綍綑綖綗綝"⟩,
  ⟨52, 1, "綞綦綧綪綳綶綷綹緂緃緄緅緆緌緍緎緗緙縀緢緥緦緪緫緭緱緵緶緹緺縈縐縑縕縗縜縝縠縧縨縬"⟩,
  ⟨52, 42, "縭縯縳縶縿繄繅繇繎繐繒繘繟繡繢繥繫繮繯繳繸繾纁纆纇纊纍纑纕纘纚纝纞缼缻缽缾缿罃罄罇"⟩,
  ⟨52, 83, "罏罒罓罛罜罝罡罣罤罥罦罭"⟩,
  ⟨53, 1, "罱罽罾罿羀羋羍羏羐羑羖羗羜羡羢羦羪羭羴羼羿翀翃翈翎翏翛翟翣翥翨翬翮翯翲翺翽翾翿耇耈"⟩,
  ⟨53, 42, "耊耍耎耏耑耓耔耖耝耞耟耠耤耦耬耮耰耴耵耷耹耺耼耾聀聄聠聤聦聭聱聵肁肈肎肜肞肦肧肫肸"⟩,
  ⟨53, 83, "肹胈胍胏胒胔胕胗胘胠胭胮"⟩,
  ⟨54, 1, "胰胲胳胶胹胺胾脃脋脖脗脘脜脞脠脤脧脬脰脵脺脼腅腇腊腌腒腗腠腡腧腨腩腭腯腷膁膐膄膅膆"⟩,
  ⟨54, 42, "膋膎膖膘膛膞膢膮膲膴膻臋臃臅臊臎臏臕臗臛臝臞臡臤臫臬臰臱臲臵臶臸臹臽臿舀舃舏舓舔舙"⟩,
  ⟨54, 83, "舚舝舡舢舨舲舴舺艃艄艅艆"⟩,
  ⟨55, 1, "艋艎艏艑艖艜艠艣艧艭艴艻艽艿芀芁芃芄芇芉芊芎芑芔芖芘芚芛芠芡芣芤芧芨芩芪芮芰芲芴芷"⟩,
  ⟨55, 42, "芺芼芾芿苆苐苕苚苠苢苤苨苪苭苯苶苷苽苾茀茁茇茈茊茋荔茛茝茞茟茡茢茬茭茮茰茳茷茺茼茽"⟩,
  ⟨55, 83, "荂荃荄荇荍荎荑荕荖荗荰荸"⟩,
  ⟨56, 1, "荽荿莀莂莄莆莍莒莔莕莘莙莛莜莝莦莧莩莬莾莿菀菇菉菏菐菑菔菝荓菨菪菶菸菹菼萁萆萊萏萑"⟩,
  ⟨56, 42, "萕萙莭萯萹葅葇葈葊葍葏葑葒葖葘葙葚葜葠葤葥葧葪葰葳葴葶葸葼葽蒁蒅蒒蒓蒕蒞蒦蒨蒩蒪蒯"⟩,
  ⟨56, 83, "蒱蒴蒺蒽蒾蓀蓂蓇蓈蓌蓏蓓"⟩,
  ⟨57, 1, "蓜蓧蓪蓯蓰蓱蓲蓷蔲蓺蓻蓽蔂蔃蔇蔌蔎蔐蔜蔞蔢蔣蔤蔥蔧蔪蔫蔯蔳蔴蔶蔿蕆蕏蕐蕑蕒蕓蕖蕙蕜"⟩,
  ⟨57, 42, "蕝蕞蕟蕠蕡蕢蕤蕫蕯蕹蕺蕻蕽蕿薁薅薆薉薋薌薏薓薘薝薟薠薢薥薧薴薶薷薸薼薽薾薿藂藇藊藋"⟩,
  ⟨57, 83, "藎薭藘藚藟藠藦藨藭藳藶藼"⟩,
  ⟨58, 1, "藿蘀蘄蘅蘍蘎蘐蘑蘒蘘蘙蘛蘞蘡蘧蘩蘶蘸蘺蘼蘽虀虂虆虒虓虖虗虘虙虝虠虡虢虣虤虩虬虯虵虶"⟩,
  ⟨58, 42, "虷虺蚍蚑蚖蚘蚚蚜蚡蚦蚧蚨蚭蚱蚳蚴蚵蚷蚸蚹蚿蛀蛁蛃蛅蛑蛒蛕蛗蛚蛜蛠蛣蛥蛧蚈蛺蛼蛽蜄蜅"⟩,
  ⟨58, 83, "蜇蜋蜎蜏蜐蜓蜔蜙蜞蜟蜡蜣"⟩,
  ⟨59, 1, "蜨蜮蜯蜱蜲蜹蜺蜼蜽蜾蝀蝃蝅蝍蝘蝝蝡蝤蝥蝯蝱蝲蝻螃螄螅螆螇螈螉螋螌螐螓螕螗螘螙螞螠螣"⟩,
  ⟨59, 42, "螧螬螭螮螱螵螾螿蟁蟈蟉蟊蟎蟕蟖蟙蟚蟜蟟蟢蟣蟤蟪蟫蟭蟱蟳蟸蟺蟿蠁蠃蠆蠉蠊蠋蠐蠙蠒蠓蠔"⟩,
  ⟨59, 83, "蠘蠚蠛蠜蠞蠟蠨蠭蠮蠰蠲蠵"⟩,
  ⟨60, 1, "蠺蠼衁衃衅衈衉衊衋衎衑衕衖衘衚衜衟衠衤衩衱衹衻袀袘袚袛袜袟袠袨袪袺袽袾裀裊裋裌裍裎"⟩,
  ⟨60, 42, "裑裒裓裛裞裧裯裰裱裵裷褁褆褍褎褏褕褖褘褙褚褜褠褦褧褨褰褱褲褵褹褺褾襀襂襅襆襉襏襒襗"⟩,
  ⟨60, 83, "襚襛襜襡襢襣襫襮襰襳襵襺"⟩,
  ⟨61, 1, "襻襼襽覉覍覐覔覕覛覜覟覠覥覰覴覵覶覷覼觔觕觖觗觘觥觩觫觭觱觳觶觹觽觿訄訅訇訏訑訒訔"⟩,
  ⟨61, 42, "訕訞訠訢訤訦訫訬訯訵訷訽訾詀詃詅詇詉詍詎詓詖詗詘詜詝詡詥詧詵詶詷詹詺詻詾詿誀誃誆誋"⟩,
  ⟨61, 83, "誏誐誒誖誗誙誟誧誩誮誯誳"⟩,
  ⟨62, 1, "誶誷誻誾諃諆諈諉諊諑諓諔諕諗諝諟諬諰諴諵諶諼諿謅謆謋謑謜謞謟謊謭謰謷謼譂譃譄譅譆譈"⟩,
  ⟨62, 42, "譒譓譔譙譍譞譣譭譶譸譹譼譾讁讄讅讋讍讏讔讕讜讞讟谸谹谽谾豅豇豉豋豏豑豓豔豗豘豛豝豙"⟩,
  ⟨62, 83, "豣豤豦豨豩豭豳豵豶豻豾貆"⟩,
  ⟨63, 1, "貇貋貐貒貓貙貛貜貤貹貺賅賆賉賋賏賖賕賙賝賡賨賬賯賰賲賵賷賸賾賿贁贃贉贒贗贛赥赩赬赮"⟩,
  ⟨63, 42, "赿趂趄趈趍趐趑趕趞趟趠趦趫趬趯趲趵趷趹趻跀跅跆跇跈跊跎跑跔跕跗跙跤跥跧跬跰趼跱跲跴"⟩,
  ⟨63, 83, "跽踁踄踅踆踋踑踔踖踠踡踢"⟩,
  ⟨64, 1, "踣踦踧踱踳踶踷踸踹踽蹀蹁蹋蹍蹎蹏蹔蹛蹜蹝蹞蹡蹢蹩蹬蹭蹯蹰蹱蹹蹺蹻躂躃躉躐躒躕躚躛躝"⟩,
  ⟨64, 42, "躞躢躧躩躭躮躳躵躺躻軀軁軃軄軇軏軑軔軜軨軮軰軱軷軹軺軭輀輂輇輈輏輐輖輗輘輞輠輡輣輥"⟩,
  ⟨64, 83, "輧輨輬輭輮輴輵輶輷輺轀轁"⟩,
  ⟨65, 1, "轃轇轏轑轒轓轔轕轘轝轞轥辝辠辡辤辥辦辵辶辸达迀迁迆迊迋迍运迒迓迕迠迣迤迨迮迱迵迶迻"⟩,
  ⟨65, 42, "迾适逄逈逌逘逛逨逩逯逪逬逭逳逴逷逿遃遄遌遛遝遢遦遧遬遰遴遹邅邈邋邌邎邐邕邗邘邙邛邠"⟩,
  ⟨65, 83, "邡邢邥邰邲邳邴邶邽郌邾郃"⟩,
  ⟨66, 1, "郄郅郇郈郕郗郘郙郜郝郟郥郒郶郫郯郰郴郾郿鄀鄄鄅鄆鄈鄍鄐鄔鄖鄗鄘鄚鄜鄞鄠鄥鄢鄣鄧鄩鄮"⟩,
  ⟨66, 42, "鄯鄱鄴鄶鄷鄹鄺鄼鄽酃酇酈酏酓酗酙酚酛酡酤酧酭酴酹酺酻醁醃醅醆醊醎醑醓醔醕醘醞醡醦醨"⟩,
  ⟨66, 83, "醬醭醮醰醱醲醳醶醻醼醽醿"⟩,
  ⟨67, 1, "釂釃釅釓釔釗釙釚釞釤釥釩釪釬釭釮釯釰釱釷釹釻釽鈀鈁鈄鈅鈆鈇鈉鈊鈌鈐鈒鈓鈖鈘鈜鈝鈣鈤"⟩,
  ⟨67, 42, "鈥鈦鈨鈮鈯鈰鈳鈵鈶鈸鈹鈺鈼鈾鉀鉂鉃鉆鉇鉊鉍鉎鉏鉑鉘鉙鉜鉝鉠鉡鉥鉧鉨鉩鉮鉯鉰鉵鉶鉷鉸"⟩,
  ⟨67, 83, "鉹鉻鉼鉽鉿銈銉銊銍銎銒銗"⟩,
  ⟨68, 1, "銙銟銠銤銥銧銨銫銯銲銶銸銺銻銼銽銿鋀鋁鋂鋃鋅鋆鋇鋈鋋鋌鋍鋎鋐鋓鋕鋗鋘鋙鋜鋝鋟鋠鋡鋣"⟩,
  ⟨68, 42, "鋥鋧鋨鋬鋮鋰鋹鋻鋿錀錂錈錍錑錔錕錜錝錞錟錡錤錥錧錩錪錳錴錶錷鍇鍈鍉鍐鍑鍒鍕鍗鍘鍚鍞"⟩,
  ⟨68, 83, "鍤鍥鍧鍩鍪鍭鍯鍰鍱鍳鍴鍶"⟩,
  ⟨69, 1, "鍺鍽鍿鎀鎁鎂鎈鎊鎋鎍鎏鎒鎕鎘鎛鎞鎡鎣鎤鎦鎨鎫鎴鎵鎶鎺鎩鏁鏄鏅鏆鏇鏉鏊鏋鏌鏍鏓鏙鏜鏞"⟩,
  ⟨69, 42, "鏟鏢鏦鏧鏹鏷鏸鏺鏻鏽鐁鐂鐄鐈鐉鐍鐎鐏鐕鐖鐗鐟鐮鐯鐱鐲鐳鐴鐻鐿鐽鑃鑅鑈鑊鑌鑕鑙鑜鑟鑡"⟩,
  ⟨69, 83, "鑣鑨鑫鑭鑮鑯鑱鑲钄钃镸镹"⟩,
  ⟨70, 1, "镾閄閈閌閍閎閝閞閟閡閦閩閫閬閴閶閺閽閿闆闈闉闋闐闑闒闓闙闚闝闞闟闠闤闦阝阞阢阤阥阦"⟩,
  ⟨70, 42, "阬阱阳阷阸阹阺阼阽陁陒陔陖陗陘陡陮陴陻陼陾陿隁隂隃隄隉隑隖隚隝隟隤隥隦隩隮隯隳隺雊"⟩,
  ⟨70, 83, "雒嶲雘雚雝雞雟雩雯雱雺霂"⟩,
  ⟨71, 1, "霃霅霉霚霛霝霡霢霣霨霱霳靁靃靊靎靏靕靗靘靚靛靣靧靪靮靳靶靷靸靻靽靿鞀鞉鞕鞖鞗鞙鞚鞞"⟩,
  ⟨71, 42, "鞟鞢鞬鞮鞱鞲鞵鞶鞸鞹鞺鞼鞾鞿韁韄韅韇韉韊韌韍韎韐韑韔韗韘韙韝韞韠韛韡韤韯韱韴韷韸韺"⟩,
  ⟨71, 83, "頇頊頙頍頎頔頖頜頞頠頣頦"⟩,
  ⟨72, 1, "頫頮頯頰頲頳頵頥頾顄顇顊顑顒顓顖顗顙顚顢顣顥顦顪顬颫颭颮颰颴颷颸颺颻颿飂飅飈飌飡飣"⟩,
  ⟨72, 42, "飥飦飧飪飳飶餂餇餈餑餕餖餗餚餛餜餟餢餦餧餫餱餲餳餴餵餹餺餻餼饀饁饆饇饈饍饎饔饘饙饛"⟩,
  ⟨72, 83, "饜饞饟饠馛馝馟馦馰馱馲馵"⟩,
  ⟨73, 1, "馹馺馽馿駃駉駓駔駙駚駜駞駧駪駫駬駰駴駵駹駽駾騂騃騄騋騌騐騑騖騞騠騢騣騤騧騭騮騳騵騶"⟩,
  ⟨73, 42, "騸驇驁驄驊驋驌驎驑驔驖驝骪骬骮骯骲骴骵骶骹骻骾骿髁髃髆髈髎髐髒髕髖髗髛髜髠髤髥髧髩"⟩,
  ⟨73, 83, "髬髲髳髵髹髺髽髿鬀鬁鬂鬃"⟩,
  ⟨74, 1, "鬄鬅鬈鬉鬋鬌鬍鬎鬐鬒鬖鬙鬛鬜鬠鬦鬫鬭鬳鬴鬵鬷鬹鬺鬽魈魋魌魕魖魗魛魞魡魣魥魦魨魪魫魬"⟩,
  ⟨74, 42, "魭魮魳魵魷魸魹魿鮀鮄鮅鮆鮇鮉鮊鮋鮍鮏鮐鮔鮚鮝鮞鮦鮧鮩鮬鮰鮱鮲鮷鮸鮻鮼鮾鮿鯁鯇鯈鯎鯐"⟩,
  ⟨74, 83, "鯗鯘鯝鯟鯥鯧鯪鯫鯯鯳鯷鯸"⟩,
  ⟨75, 1, "鯹鯺鯽鯿鰀鰂鰋鰏鰑鰖鰘鰙鰚鰜鰞鰢鰣鰦鰧鰨鰩鰪鰱鰵鰶鰷鰽鱁鱃鱄鱅鱉鱊鱎鱏鱐鱓鱔鱖鱘鱛"⟩,
  ⟨75, 42, "鱝鱞鱟鱣鱩鱪鱜鱫鱨鱮鱰鱲鱵鱷鱻鳦鳲鳷鳹鴋鴂鴑鴗鴘鴜鴝鴞鴯鴰鴲鴳鴴鴺鴼鵅鴽鵂鵃鵇鵊鵓"⟩,
  ⟨75, 83, "鵔鵟鵣鵢鵥鵩鵪鵫鵰鵶鵷鵻"⟩,
  ⟨76, 1, "鵼鵾鶃鶄鶆鶊鶍鶎鶒鶓鶕鶖鶗鶘鶡鶪鶬鶮鶱鶵鶹鶼鶿鷃鷇鷉鷊鷔鷕鷖鷗鷚鷞鷟鷠鷥鷧鷩鷫鷮鷰"⟩,
  ⟨76, 42, "鷳鷴鷾鸊鸂鸇鸎鸐鸑鸒鸕鸖鸙鸜鸝鹺鹻鹼麀麂麃麄麅麇麎麏麖麘麛麞麤麨麬麮麯麰麳麴麵黆黈"⟩,
  ⟨76, 83, "黋黕黟黤黧黬黭黮黰黱黲黵"⟩,
  ⟨77, 1, "黸黿鼂鼃鼉鼏鼐鼑鼒鼔鼖鼗鼙鼚鼛鼟鼢鼦鼪鼫鼯鼱鼲鼴鼷鼹鼺鼼鼽鼿齁齃齄齅齆齇齓齕齖齗齘"⟩,
  ⟨77, 42, "齚齝齞齨齩齭齮齯齰齱齳齵齺齽龏龐龑龒龔龖龗龞龡龢龣龥"⟩]

end ConfigGate.Text.Charset.Grid
