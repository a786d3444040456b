import ConfigGate.Text.Charset.Grid

namespace ConfigGate.Text.Charset.Grid

/-- The characters of JIS X 0208: signs and alphabets in the first eight rows, common ideographs by their
pronunciation from row 16 on, and rarer ones by their radicals from row 48 on. -/
def jisX0208 : Grid := [
  ⟨1, 1, "\u3000、。，．・：；？！゛゜´｀¨＾￣＿ヽヾゝゞ〃仝々〆〇ー―‐／＼〜‖｜…‥‘’"⟩,
  ⟨1, 40, "“”（）〔〕［］｛｝〈〉《》「」『』【】＋−±×÷＝≠＜＞≦≧∞∴♂♀°′″℃￥＄¢"⟩,
  ⟨1, 82, "£％＃＆＊＠§☆★○●◎◇"⟩,
  ⟨2, 1, "◆□■△▲▽▼※〒→←↑↓〓"⟩,
  ⟨2, 26, "∈∋⊆⊇⊂⊃∪∩"⟩,
  ⟨2, 42, "∧∨¬⇒⇔∀∃"⟩,
  ⟨2, 60, "∠⊥⌒∂∇≡≒≪≫√∽∝∵∫∬"⟩,
  ⟨2, 82, "Å‰♯♭♪†‡¶"⟩,
  ⟨2, 94, "◯"⟩,
  ⟨3, 16, "０１２３４５６７８９"⟩,
  ⟨3, 33, "ＡＢＣＤＥＦＧＨＩＪＫＬＭＮＯＰＱＲＳＴＵＶＷＸＹＺ"⟩,
  ⟨3, 65, "ａｂｃｄｅｆｇｈｉｊｋｌｍｎｏｐｑｒｓｔｕｖｗｘｙｚ"⟩,
  ⟨4, 1, "ぁあぃいぅうぇえぉおかがきぎくぐけげこごさざしじすずせぜそぞただちぢっつづてでとど"⟩,
  ⟨4, 42, "なにぬねのはばぱひびぴふぶぷへべぺほぼぽまみむめもゃやゅゆょよらりるれろゎわゐゑを"⟩,
  ⟨4, 83, "ん"⟩,
  ⟨5, 1, "ァアィイゥウェエォオカガキギクグケゲコゴサザシジスズセゼソゾタダチヂッツヅテデトド"⟩,
  ⟨5, 42, "ナニヌネノハバパヒビピフブプヘベペホボポマミムメモャヤュユョヨラリルレロヮワヰヱヲ"⟩,
  ⟨5, 83, "ンヴヵヶ"⟩,
  ⟨6, 1, "ΑΒΓΔΕΖΗΘΙΚΛΜΝΞΟΠΡΣΤΥΦΧΨΩ"⟩,
  ⟨6, 33, "αβγδεζηθικλμνξοπρστυφχψω"⟩,
  ⟨7, 1, "АБВГДЕЁЖЗИЙКЛМНОПРСТУФХЦЧШЩЪЫЬЭЮЯ"⟩,
  ⟨7, 49, "абвгдеёжзийклмнопрстуфхцчшщъыьэюя"⟩,
  ⟨8, 1, "─│┌┐┘└├┬┤┴┼━┃┏┓┛┗┣┳┫┻╋┠┯┨┷┿┝┰┥┸╂"⟩,
  ⟨16, 1, "亜唖娃阿哀愛挨姶逢葵茜穐悪握渥旭葦芦鯵梓圧斡扱宛姐虻飴絢綾鮎或粟袷安庵按暗案闇鞍杏"⟩,
  ⟨16, 42, "以伊位依偉囲夷委威尉惟意慰易椅為畏異移維緯胃萎衣謂違遺医井亥域育郁磯一壱溢逸稲茨芋"⟩,
  ⟨16, 83, "鰯允印咽員因姻引飲淫胤蔭"⟩,
  ⟨17, 1, "院陰隠韻吋右宇烏羽迂雨卯鵜窺丑碓臼渦嘘唄欝蔚鰻姥厩浦瓜閏噂云運雲荏餌叡営嬰影映曳栄"⟩,
  ⟨17, 42, "永泳洩瑛盈穎頴英衛詠鋭液疫益駅悦謁越閲榎厭円園堰奄宴延怨掩援沿演炎焔煙燕猿縁艶苑薗"⟩,
  ⟨17, 83, "遠鉛鴛塩於汚甥凹央奥往応"⟩,
  ⟨18, 1, "押旺横欧殴王翁襖鴬鴎黄岡沖荻億屋憶臆桶牡乙俺卸恩温穏音下化仮何伽価佳加可嘉夏嫁家寡"⟩,
  ⟨18, 42, "科暇果架歌河火珂禍禾稼箇花苛茄荷華菓蝦課嘩貨迦過霞蚊俄峨我牙画臥芽蛾賀雅餓駕介会解"⟩,
  ⟨18, 83, "回塊壊廻快怪悔恢懐戒拐改"⟩,
  ⟨19, 1, "魁晦械海灰界皆絵芥蟹開階貝凱劾外咳害崖慨概涯碍蓋街該鎧骸浬馨蛙垣柿蛎鈎劃嚇各廓拡撹"⟩,
  ⟨19, 42, "格核殻獲確穫覚角赫較郭閣隔革学岳楽額顎掛笠樫橿梶鰍潟割喝恰括活渇滑葛褐轄且鰹叶椛樺"⟩,
  ⟨19, 83, "鞄株兜竃蒲釜鎌噛鴨栢茅萱"⟩,
  ⟨20, 1, "粥刈苅瓦乾侃冠寒刊勘勧巻喚堪姦完官寛干幹患感慣憾換敢柑桓棺款歓汗漢澗潅環甘監看竿管"⟩,
  ⟨20, 42, "簡緩缶翰肝艦莞観諌貫還鑑間閑関陥韓館舘丸含岸巌玩癌眼岩翫贋雁頑顔願企伎危喜器基奇嬉"⟩,
  ⟨20, 83, "寄岐希幾忌揮机旗既期棋棄"⟩,
  ⟨21, 1, "機帰毅気汽畿祈季稀紀徽規記貴起軌輝飢騎鬼亀偽儀妓宜戯技擬欺犠疑祇義蟻誼議掬菊鞠吉吃"⟩,
  ⟨21, 42, "喫桔橘詰砧杵黍却客脚虐逆丘久仇休及吸宮弓急救朽求汲泣灸球究窮笈級糾給旧牛去居巨拒拠"⟩,
  ⟨21, 83, "挙渠虚許距鋸漁禦魚亨享京"⟩,
  ⟨22, 1, "供侠僑兇競共凶協匡卿叫喬境峡強彊怯恐恭挟教橋況狂狭矯胸脅興蕎郷鏡響饗驚仰凝尭暁業局"⟩,
  ⟨22, 42, "曲極玉桐粁僅勤均巾錦斤欣欽琴禁禽筋緊芹菌衿襟謹近金吟銀九倶句区狗玖矩苦躯駆駈駒具愚"⟩,
  ⟨22, 83, "虞喰空偶寓遇隅串櫛釧屑屈"⟩,
  ⟨23, 1, "掘窟沓靴轡窪熊隈粂栗繰桑鍬勲君薫訓群軍郡卦袈祁係傾刑兄啓圭珪型契形径恵慶慧憩掲携敬"⟩,
  ⟨23, 42, "景桂渓畦稽系経継繋罫茎荊蛍計詣警軽頚鶏芸迎鯨劇戟撃激隙桁傑欠決潔穴結血訣月件倹倦健"⟩,
  ⟨23, 83, "兼券剣喧圏堅嫌建憲懸拳捲"⟩,
  ⟨24, 1, "検権牽犬献研硯絹県肩見謙賢軒遣鍵険顕験鹸元原厳幻弦減源玄現絃舷言諺限乎個古呼固姑孤"⟩,
  ⟨24, 42, "己庫弧戸故枯湖狐糊袴股胡菰虎誇跨鈷雇顧鼓五互伍午呉吾娯後御悟梧檎瑚碁語誤護醐乞鯉交"⟩,
  ⟨24, 83, "佼侯候倖光公功効勾厚口向"⟩,
  ⟨25, 1, "后喉坑垢好孔孝宏工巧巷幸広庚康弘恒慌抗拘控攻昂晃更杭校梗構江洪浩港溝甲皇硬稿糠紅紘"⟩,
  ⟨25, 42, "絞綱耕考肯肱腔膏航荒行衡講貢購郊酵鉱砿鋼閤降項香高鴻剛劫号合壕拷濠豪轟麹克刻告国穀"⟩,
  ⟨25, 83, "酷鵠黒獄漉腰甑忽惚骨狛込"⟩,
  ⟨26, 1, "此頃今困坤墾婚恨懇昏昆根梱混痕紺艮魂些佐叉唆嵯左差査沙瑳砂詐鎖裟坐座挫債催再最哉塞"⟩,
  ⟨26, 42, "妻宰彩才採栽歳済災采犀砕砦祭斎細菜裁載際剤在材罪財冴坂阪堺榊肴咲崎埼碕鷺作削咋搾昨"⟩,
  ⟨26, 83, "朔柵窄策索錯桜鮭笹匙冊刷"⟩,
  ⟨27, 1, "察拶撮擦札殺薩雑皐鯖捌錆鮫皿晒三傘参山惨撒散桟燦珊産算纂蚕讃賛酸餐斬暫残仕仔伺使刺"⟩,
  ⟨27, 42, "司史嗣四士始姉姿子屍市師志思指支孜斯施旨枝止死氏獅祉私糸紙紫肢脂至視詞詩試誌諮資賜"⟩,
  ⟨27, 83, "雌飼歯事似侍児字寺慈持時"⟩,
  ⟨28, 1, "次滋治爾璽痔磁示而耳自蒔辞汐鹿式識鴫竺軸宍雫七叱執失嫉室悉湿漆疾質実蔀篠偲柴芝屡蕊"⟩,
  ⟨28, 42, "縞舎写射捨赦斜煮社紗者謝車遮蛇邪借勺尺杓灼爵酌釈錫若寂弱惹主取守手朱殊狩珠種腫趣酒"⟩,
  ⟨28, 83, "首儒受呪寿授樹綬需囚収周"⟩,
  ⟨29, 1, "宗就州修愁拾洲秀秋終繍習臭舟蒐衆襲讐蹴輯週酋酬集醜什住充十従戎柔汁渋獣縦重銃叔夙宿"⟩,
  ⟨29, 42, "淑祝縮粛塾熟出術述俊峻春瞬竣舜駿准循旬楯殉淳準潤盾純巡遵醇順処初所暑曙渚庶緒署書薯"⟩,
  ⟨29, 83, "藷諸助叙女序徐恕鋤除傷償"⟩,
  ⟨30, 1, "勝匠升召哨商唱嘗奨妾娼宵将小少尚庄床廠彰承抄招掌捷昇昌昭晶松梢樟樵沼消渉湘焼焦照症"⟩,
  ⟨30, 42, "省硝礁祥称章笑粧紹肖菖蒋蕉衝裳訟証詔詳象賞醤鉦鍾鐘障鞘上丈丞乗冗剰城場壌嬢常情擾条"⟩,
  ⟨30, 83, "杖浄状畳穣蒸譲醸錠嘱埴飾"⟩,
  ⟨31, 1, "拭植殖燭織職色触食蝕辱尻伸信侵唇娠寝審心慎振新晋森榛浸深申疹真神秦紳臣芯薪親診身辛"⟩,
  ⟨31, 42, "進針震人仁刃塵壬尋甚尽腎訊迅陣靭笥諏須酢図厨逗吹垂帥推水炊睡粋翠衰遂酔錐錘随瑞髄崇"⟩,
  ⟨31, 83, "嵩数枢趨雛据杉椙菅頗雀裾"⟩,
  ⟨32, 1, "澄摺寸世瀬畝是凄制勢姓征性成政整星晴棲栖正清牲生盛精聖声製西誠誓請逝醒青静斉税脆隻"⟩,
  ⟨32, 42, "席惜戚斥昔析石積籍績脊責赤跡蹟碩切拙接摂折設窃節説雪絶舌蝉仙先千占宣専尖川戦扇撰栓"⟩,
  ⟨32, 83, "栴泉浅洗染潜煎煽旋穿箭線"⟩,
  ⟨33, 1, "繊羨腺舛船薦詮賎践選遷銭銑閃鮮前善漸然全禅繕膳糎噌塑岨措曾曽楚狙疏疎礎祖租粗素組蘇"⟩,
  ⟨33, 42, "訴阻遡鼠僧創双叢倉喪壮奏爽宋層匝惣想捜掃挿掻操早曹巣槍槽漕燥争痩相窓糟総綜聡草荘葬"⟩,
  ⟨33, 83, "蒼藻装走送遭鎗霜騒像増憎"⟩,
  ⟨34, 1, "臓蔵贈造促側則即息捉束測足速俗属賊族続卒袖其揃存孫尊損村遜他多太汰詑唾堕妥惰打柁舵"⟩,
  ⟨34, 42, "楕陀駄騨体堆対耐岱帯待怠態戴替泰滞胎腿苔袋貸退逮隊黛鯛代台大第醍題鷹滝瀧卓啄宅托択"⟩,
  ⟨34, 83, "拓沢濯琢託鐸濁諾茸凧蛸只"⟩,
  ⟨35, 1, "叩但達辰奪脱巽竪辿棚谷狸鱈樽誰丹単嘆坦担探旦歎淡湛炭短端箪綻耽胆蛋誕鍛団壇弾断暖檀"⟩,
  ⟨35, 42, "段男談値知地弛恥智池痴稚置致蜘遅馳築畜竹筑蓄逐秩窒茶嫡着中仲宙忠抽昼柱注虫衷註酎鋳"⟩,
  ⟨35, 83, "駐樗瀦猪苧著貯丁兆凋喋寵"⟩,
  ⟨36, 1, "帖帳庁弔張彫徴懲挑暢朝潮牒町眺聴脹腸蝶調諜超跳銚長頂鳥勅捗直朕沈珍賃鎮陳津墜椎槌追"⟩,
  ⟨36, 42, "鎚痛通塚栂掴槻佃漬柘辻蔦綴鍔椿潰坪壷嬬紬爪吊釣鶴亭低停偵剃貞呈堤定帝底庭廷弟悌抵挺"⟩,
  ⟨36, 83, "提梯汀碇禎程締艇訂諦蹄逓"⟩,
  ⟨37, 1, "邸鄭釘鼎泥摘擢敵滴的笛適鏑溺哲徹撤轍迭鉄典填天展店添纏甜貼転顛点伝殿澱田電兎吐堵塗"⟩,
  ⟨37, 42, "妬屠徒斗杜渡登菟賭途都鍍砥砺努度土奴怒倒党冬凍刀唐塔塘套宕島嶋悼投搭東桃梼棟盗淘湯"⟩,
  ⟨37, 83, "涛灯燈当痘祷等答筒糖統到"⟩,
  ⟨38, 1, "董蕩藤討謄豆踏逃透鐙陶頭騰闘働動同堂導憧撞洞瞳童胴萄道銅峠鴇匿得徳涜特督禿篤毒独読"⟩,
  ⟨38, 42, "栃橡凸突椴届鳶苫寅酉瀞噸屯惇敦沌豚遁頓呑曇鈍奈那内乍凪薙謎灘捺鍋楢馴縄畷南楠軟難汝"⟩,
  ⟨38, 83, "二尼弐迩匂賑肉虹廿日乳入"⟩,
  ⟨39, 1, "如尿韮任妊忍認濡禰祢寧葱猫熱年念捻撚燃粘乃廼之埜嚢悩濃納能脳膿農覗蚤巴把播覇杷波派"⟩,
  ⟨39, 42, "琶破婆罵芭馬俳廃拝排敗杯盃牌背肺輩配倍培媒梅楳煤狽買売賠陪這蝿秤矧萩伯剥博拍柏泊白"⟩,
  ⟨39, 83, "箔粕舶薄迫曝漠爆縛莫駁麦"⟩,
  ⟨40, 1, "函箱硲箸肇筈櫨幡肌畑畠八鉢溌発醗髪伐罰抜筏閥鳩噺塙蛤隼伴判半反叛帆搬斑板氾汎版犯班"⟩,
  ⟨40, 42, "畔繁般藩販範釆煩頒飯挽晩番盤磐蕃蛮匪卑否妃庇彼悲扉批披斐比泌疲皮碑秘緋罷肥被誹費避"⟩,
  ⟨40, 83, "非飛樋簸備尾微枇毘琵眉美"⟩,
  ⟨41, 1, "鼻柊稗匹疋髭彦膝菱肘弼必畢筆逼桧姫媛紐百謬俵彪標氷漂瓢票表評豹廟描病秒苗錨鋲蒜蛭鰭"⟩,
  ⟨41, 42, "品彬斌浜瀕貧賓頻敏瓶不付埠夫婦富冨布府怖扶敷斧普浮父符腐膚芙譜負賦赴阜附侮撫武舞葡"⟩,
  ⟨41, 83, "蕪部封楓風葺蕗伏副復幅服"⟩,
  ⟨42, 1, "福腹複覆淵弗払沸仏物鮒分吻噴墳憤扮焚奮粉糞紛雰文聞丙併兵塀幣平弊柄並蔽閉陛米頁僻壁"⟩,
  ⟨42, 42, "癖碧別瞥蔑箆偏変片篇編辺返遍便勉娩弁鞭保舗鋪圃捕歩甫補輔穂募墓慕戊暮母簿菩倣俸包呆"⟩,
  ⟨42, 83, "報奉宝峰峯崩庖抱捧放方朋"⟩,
  ⟨43, 1, "法泡烹砲縫胞芳萌蓬蜂褒訪豊邦鋒飽鳳鵬乏亡傍剖坊妨帽忘忙房暴望某棒冒紡肪膨謀貌貿鉾防"⟩,
  ⟨43, 42, "吠頬北僕卜墨撲朴牧睦穆釦勃没殆堀幌奔本翻凡盆摩磨魔麻埋妹昧枚毎哩槙幕膜枕鮪柾鱒桝亦"⟩,
  ⟨43, 83, "俣又抹末沫迄侭繭麿万慢満"⟩,
  ⟨44, 1, "漫蔓味未魅巳箕岬密蜜湊蓑稔脈妙粍民眠務夢無牟矛霧鵡椋婿娘冥名命明盟迷銘鳴姪牝滅免棉"⟩,
  ⟨44, 42, "綿緬面麺摸模茂妄孟毛猛盲網耗蒙儲木黙目杢勿餅尤戻籾貰問悶紋門匁也冶夜爺耶野弥矢厄役"⟩,
  ⟨44, 83, "約薬訳躍靖柳薮鑓愉愈油癒"⟩,
  ⟨45, 1, "諭輸唯佑優勇友宥幽悠憂揖有柚湧涌猶猷由祐裕誘遊邑郵雄融夕予余与誉輿預傭幼妖容庸揚揺"⟩,
  ⟨45, 42, "擁曜楊様洋溶熔用窯羊耀葉蓉要謡踊遥陽養慾抑欲沃浴翌翼淀羅螺裸来莱頼雷洛絡落酪乱卵嵐"⟩,
  ⟨45, 83, "欄濫藍蘭覧利吏履李梨理璃"⟩,
  ⟨46, 1, "痢裏裡里離陸律率立葎掠略劉流溜琉留硫粒隆竜龍侶慮旅虜了亮僚両凌寮料梁涼猟療瞭稜糧良"⟩,
  ⟨46, 42, "諒遼量陵領力緑倫厘林淋燐琳臨輪隣鱗麟瑠塁涙累類令伶例冷励嶺怜玲礼苓鈴隷零霊麗齢暦歴"⟩,
  ⟨46, 83, "列劣烈裂廉恋憐漣煉簾練聯"⟩,
  ⟨47, 1, "蓮連錬呂魯櫓炉賂路露労婁廊弄朗楼榔浪漏牢狼篭老聾蝋郎六麓禄肋録論倭和話歪賄脇惑枠鷲"⟩,
  ⟨47, 42, "亙亘鰐詫藁蕨椀湾碗腕"⟩,
  ⟨48, 1, "弌丐丕个丱丶丼丿乂乖乘亂亅豫亊舒弍于亞亟亠亢亰亳亶从仍仄仆仂仗仞仭仟价伉佚估佛佝佗"⟩,
  ⟨48, 42, "佇佶侈侏侘佻佩佰侑佯來侖儘俔俟俎俘俛俑俚俐俤俥倚倨倔倪倥倅伜俶倡倩倬俾俯們倆偃假會"⟩,
  ⟨48, 83, "偕偐偈做偖偬偸傀傚傅傴傲"⟩,
  ⟨49, 1, "僉僊傳僂僖僞僥僭僣僮價僵儉儁儂儖儕儔儚儡儺儷儼儻儿兀兒兌兔兢竸兩兪兮冀冂囘册冉冏冑"⟩,
  ⟨49, 42, "冓冕冖冤冦冢冩冪冫决冱冲冰况冽凅凉凛几處凩凭凰凵凾刄刋刔刎刧刪刮刳刹剏剄剋剌剞剔剪"⟩,
  ⟨49, 83, "剴剩剳剿剽劍劔劒剱劈劑辨"⟩,
  ⟨50, 1, "辧劬劭劼劵勁勍勗勞勣勦飭勠勳勵勸勹匆匈甸匍匐匏匕匚匣匯匱匳匸區卆卅丗卉卍凖卞卩卮夘"⟩,
  ⟨50, 42, "卻卷厂厖厠厦厥厮厰厶參簒雙叟曼燮叮叨叭叺吁吽呀听吭吼吮吶吩吝呎咏呵咎呟呱呷呰咒呻咀"⟩,
  ⟨50, 83, "呶咄咐咆哇咢咸咥咬哄哈咨"⟩,
  ⟨51, 1, "咫哂咤咾咼哘哥哦唏唔哽哮哭哺哢唹啀啣啌售啜啅啖啗唸唳啝喙喀咯喊喟啻啾喘喞單啼喃喩喇"⟩,
  ⟨51, 42, "喨嗚嗅嗟嗄嗜嗤嗔嘔嗷嘖嗾嗽嘛嗹噎噐營嘴嘶嘲嘸噫噤嘯噬噪嚆嚀嚊嚠嚔嚏嚥嚮嚶嚴囂嚼囁囃"⟩,
  ⟨51, 83, "囀囈囎囑囓囗囮囹圀囿圄圉"⟩,
  ⟨52, 1, "圈國圍圓團圖嗇圜圦圷圸坎圻址坏坩埀垈坡坿垉垓垠垳垤垪垰埃埆埔埒埓堊埖埣堋堙堝塲堡塢"⟩,
  ⟨52, 42, "塋塰毀塒堽塹墅墹墟墫墺壞墻墸墮壅壓壑壗壙壘壥壜壤壟壯壺壹壻壼壽夂夊夐夛梦夥夬夭夲夸"⟩,
  ⟨52, 83, "夾竒奕奐奎奚奘奢奠奧奬奩"⟩,
  ⟨53, 1, "奸妁妝佞侫妣妲姆姨姜妍姙姚娥娟娑娜娉娚婀婬婉娵娶婢婪媚媼媾嫋嫂媽嫣嫗嫦嫩嫖嫺嫻嬌嬋"⟩,
  ⟨53, 42, "嬖嬲嫐嬪嬶嬾孃孅孀孑孕孚孛孥孩孰孳孵學斈孺宀它宦宸寃寇寉寔寐寤實寢寞寥寫寰寶寳尅將"⟩,
  ⟨53, 83, "專對尓尠尢尨尸尹屁屆屎屓"⟩,
  ⟨54, 1, "屐屏孱屬屮乢屶屹岌岑岔妛岫岻岶岼岷峅岾峇峙峩峽峺峭嶌峪崋崕崗嵜崟崛崑崔崢崚崙崘嵌嵒"⟩,
  ⟨54, 42, "嵎嵋嵬嵳嵶嶇嶄嶂嶢嶝嶬嶮嶽嶐嶷嶼巉巍巓巒巖巛巫已巵帋帚帙帑帛帶帷幄幃幀幎幗幔幟幢幤"⟩,
  ⟨54, 83, "幇幵并幺麼广庠廁廂廈廐廏"⟩,
  ⟨55, 1, "廖廣廝廚廛廢廡廨廩廬廱廳廰廴廸廾弃弉彝彜弋弑弖弩弭弸彁彈彌彎弯彑彖彗彙彡彭彳彷徃徂"⟩,
  ⟨55, 42, "彿徊很徑徇從徙徘徠徨徭徼忖忻忤忸忱忝悳忿怡恠怙怐怩怎怱怛怕怫怦怏怺恚恁恪恷恟恊恆恍"⟩,
  ⟨55, 83, "恣恃恤恂恬恫恙悁悍惧悃悚"⟩,
  ⟨56, 1, "悄悛悖悗悒悧悋惡悸惠惓悴忰悽惆悵惘慍愕愆惶惷愀惴惺愃愡惻惱愍愎慇愾愨愧慊愿愼愬愴愽"⟩,
  ⟨56, 42, "慂慄慳慷慘慙慚慫慴慯慥慱慟慝慓慵憙憖憇憬憔憚憊憑憫憮懌懊應懷懈懃懆憺懋罹懍懦懣懶懺"⟩,
  ⟨56, 83, "懴懿懽懼懾戀戈戉戍戌戔戛"⟩,
  ⟨57, 1, "戞戡截戮戰戲戳扁扎扞扣扛扠扨扼抂抉找抒抓抖拔抃抔拗拑抻拏拿拆擔拈拜拌拊拂拇抛拉挌拮"⟩,
  ⟨57, 42, "拱挧挂挈拯拵捐挾捍搜捏掖掎掀掫捶掣掏掉掟掵捫捩掾揩揀揆揣揉插揶揄搖搴搆搓搦搶攝搗搨"⟩,
  ⟨57, 83, "搏摧摯摶摎攪撕撓撥撩撈撼"⟩,
  ⟨58, 1, "據擒擅擇撻擘擂擱擧舉擠擡抬擣擯攬擶擴擲擺攀擽攘攜攅攤攣攫攴攵攷收攸畋效敖敕敍敘敞敝"⟩,
  ⟨58, 42, "敲數斂斃變斛斟斫斷旃旆旁旄旌旒旛旙无旡旱杲昊昃旻杳昵昶昴昜晏晄晉晁晞晝晤晧晨晟晢晰"⟩,
  ⟨58, 83, "暃暈暎暉暄暘暝曁暹曉暾暼"⟩,
  ⟨59, 1, "曄暸曖曚曠昿曦曩曰曵曷朏朖朞朦朧霸朮朿朶杁朸朷杆杞杠杙杣杤枉杰枩杼杪枌枋枦枡枅枷柯"⟩,
  ⟨59, 42, "枴柬枳柩枸柤柞柝柢柮枹柎柆柧檜栞框栩桀桍栲桎梳栫桙档桷桿梟梏梭梔條梛梃檮梹桴梵梠梺"⟩,
  ⟨59, 83, "椏梍桾椁棊椈棘椢椦棡椌棍"⟩,
  ⟨60, 1, "棔棧棕椶椒椄棗棣椥棹棠棯椨椪椚椣椡棆楹楷楜楸楫楔楾楮椹楴椽楙椰楡楞楝榁楪榲榮槐榿槁"⟩,
  ⟨60, 42, "槓榾槎寨槊槝榻槃榧樮榑榠榜榕榴槞槨樂樛槿權槹槲槧樅榱樞槭樔槫樊樒櫁樣樓橄樌橲樶橸橇"⟩,
  ⟨60, 83, "橢橙橦橈樸樢檐檍檠檄檢檣"⟩,
  ⟨61, 1, "檗蘗檻櫃櫂檸檳檬櫞櫑櫟檪櫚櫪櫻欅蘖櫺欒欖鬱欟欸欷盜欹飮歇歃歉歐歙歔歛歟歡歸歹歿殀殄"⟩,
  ⟨61, 42, "殃殍殘殕殞殤殪殫殯殲殱殳殷殼毆毋毓毟毬毫毳毯麾氈氓气氛氤氣汞汕汢汪沂沍沚沁沛汾汨汳"⟩,
  ⟨61, 83, "沒沐泄泱泓沽泗泅泝沮沱沾"⟩,
  ⟨62, 1, "沺泛泯泙泪洟衍洶洫洽洸洙洵洳洒洌浣涓浤浚浹浙涎涕濤涅淹渕渊涵淇淦涸淆淬淞淌淨淒淅淺"⟩,
  ⟨62, 42, "淙淤淕淪淮渭湮渮渙湲湟渾渣湫渫湶湍渟湃渺湎渤滿渝游溂溪溘滉溷滓溽溯滄溲滔滕溏溥滂溟"⟩,
  ⟨62, 83, "潁漑灌滬滸滾漿滲漱滯漲滌"⟩,
  ⟨63, 1, "漾漓滷澆潺潸澁澀潯潛濳潭澂潼潘澎澑濂潦澳澣澡澤澹濆澪濟濕濬濔濘濱濮濛瀉瀋濺瀑瀁瀏濾"⟩,
  ⟨63, 42, "瀛瀚潴瀝瀘瀟瀰瀾瀲灑灣炙炒炯烱炬炸炳炮烟烋烝烙焉烽焜焙煥煕熈煦煢煌煖煬熏燻熄熕熨熬"⟩,
  ⟨63, 83, "燗熹熾燒燉燔燎燠燬燧燵燼"⟩,
  ⟨64, 1, "燹燿爍爐爛爨爭爬爰爲爻爼爿牀牆牋牘牴牾犂犁犇犒犖犢犧犹犲狃狆狄狎狒狢狠狡狹狷倏猗猊"⟩,
  ⟨64, 42, "猜猖猝猴猯猩猥猾獎獏默獗獪獨獰獸獵獻獺珈玳珎玻珀珥珮珞璢琅瑯琥珸琲琺瑕琿瑟瑙瑁瑜瑩"⟩,
  ⟨64, 83, "瑰瑣瑪瑶瑾璋璞璧瓊瓏瓔珱"⟩,
  ⟨65, 1, "瓠瓣瓧瓩瓮瓲瓰瓱瓸瓷甄甃甅甌甎甍甕甓甞甦甬甼畄畍畊畉畛畆畚畩畤畧畫畭畸當疆疇畴疊疉"⟩,
  ⟨65, 42, "疂疔疚疝疥疣痂疳痃疵疽疸疼疱痍痊痒痙痣痞痾痿痼瘁痰痺痲痳瘋瘍瘉瘟瘧瘠瘡瘢瘤瘴瘰瘻癇"⟩,
  ⟨65, 83, "癈癆癜癘癡癢癨癩癪癧癬癰"⟩,
  ⟨66, 1, "癲癶癸發皀皃皈皋皎皖皓皙皚皰皴皸皹皺盂盍盖盒盞盡盥盧盪蘯盻眈眇眄眩眤眞眥眦眛眷眸睇"⟩,
  ⟨66, 42, "睚睨睫睛睥睿睾睹瞎瞋瞑瞠瞞瞰瞶瞹瞿瞼瞽瞻矇矍矗矚矜矣矮矼砌砒礦砠礪硅碎硴碆硼碚碌碣"⟩,
  ⟨66, 83, "碵碪碯磑磆磋磔碾碼磅磊磬"⟩,
  ⟨67, 1, "磧磚磽磴礇礒礑礙礬礫祀祠祗祟祚祕祓祺祿禊禝禧齋禪禮禳禹禺秉秕秧秬秡秣稈稍稘稙稠稟禀"⟩,
  ⟨67, 42, "稱稻稾稷穃穗穉穡穢穩龝穰穹穽窈窗窕窘窖窩竈窰窶竅竄窿邃竇竊竍竏竕竓站竚竝竡竢竦竭竰"⟩,
  ⟨67, 83, "笂笏笊笆笳笘笙笞笵笨笶筐"⟩,
  ⟨68, 1, "筺笄筍笋筌筅筵筥筴筧筰筱筬筮箝箘箟箍箜箚箋箒箏筝箙篋篁篌篏箴篆篝篩簑簔篦篥籠簀簇簓"⟩,
  ⟨68, 42, "篳篷簗簍篶簣簧簪簟簷簫簽籌籃籔籏籀籐籘籟籤籖籥籬籵粃粐粤粭粢粫粡粨粳粲粱粮粹粽糀糅"⟩,
  ⟨68, 83, "糂糘糒糜糢鬻糯糲糴糶糺紆"⟩,
  ⟨69, 1, "紂紜紕紊絅絋紮紲紿紵絆絳絖絎絲絨絮絏絣經綉絛綏絽綛綺綮綣綵緇綽綫總綢綯緜綸綟綰緘緝"⟩,
  ⟨69, 42, "緤緞緻緲緡縅縊縣縡縒縱縟縉縋縢繆繦縻縵縹繃縷縲縺繧繝繖繞繙繚繹繪繩繼繻纃緕繽辮繿纈"⟩,
  ⟨69, 83, "纉續纒纐纓纔纖纎纛纜缸缺"⟩,
  ⟨70, 1, "罅罌罍罎罐网罕罔罘罟罠罨罩罧罸羂羆羃羈羇羌羔羞羝羚羣羯羲羹羮羶羸譱翅翆翊翕翔翡翦翩"⟩,
  ⟨70, 42, "翳翹飜耆耄耋耒耘耙耜耡耨耿耻聊聆聒聘聚聟聢聨聳聲聰聶聹聽聿肄肆肅肛肓肚肭冐肬胛胥胙"⟩,
  ⟨70, 83, "胝胄胚胖脉胯胱脛脩脣脯腋"⟩,
  ⟨71, 1, "隋腆脾腓腑胼腱腮腥腦腴膃膈膊膀膂膠膕膤膣腟膓膩膰膵膾膸膽臀臂膺臉臍臑臙臘臈臚臟臠臧"⟩,
  ⟨71, 42, "臺臻臾舁舂舅與舊舍舐舖舩舫舸舳艀艙艘艝艚艟艤艢艨艪艫舮艱艷艸艾芍芒芫芟芻芬苡苣苟苒"⟩,
  ⟨71, 83, "苴苳苺莓范苻苹苞茆苜茉苙"⟩,
  ⟨72, 1, "茵茴茖茲茱荀茹荐荅茯茫茗茘莅莚莪莟莢莖茣莎莇莊荼莵荳荵莠莉莨菴萓菫菎菽萃菘萋菁菷萇"⟩,
  ⟨72, 42, "菠菲萍萢萠莽萸蔆菻葭萪萼蕚蒄葷葫蒭葮蒂葩葆萬葯葹萵蓊葢蒹蒿蒟蓙蓍蒻蓚蓐蓁蓆蓖蒡蔡蓿"⟩,
  ⟨72, 83, "蓴蔗蔘蔬蔟蔕蔔蓼蕀蕣蕘蕈"⟩,
  ⟨73, 1, "蕁蘂蕋蕕薀薤薈薑薊薨蕭薔薛藪薇薜蕷蕾薐藉薺藏薹藐藕藝藥藜藹蘊蘓蘋藾藺蘆蘢蘚蘰蘿虍乕"⟩,
  ⟨73, 42, "虔號虧虱蚓蚣蚩蚪蚋蚌蚶蚯蛄蛆蚰蛉蠣蚫蛔蛞蛩蛬蛟蛛蛯蜒蜆蜈蜀蜃蛻蜑蜉蜍蛹蜊蜴蜿蜷蜻蜥"⟩,
  ⟨73, 83, "蜩蜚蝠蝟蝸蝌蝎蝴蝗蝨蝮蝙"⟩,
  ⟨74, 1, "蝓蝣蝪蠅螢螟螂螯蟋螽蟀蟐雖螫蟄螳蟇蟆螻蟯蟲蟠蠏蠍蟾蟶蟷蠎蟒蠑蠖蠕蠢蠡蠱蠶蠹蠧蠻衄衂"⟩,
  ⟨74, 42, "衒衙衞衢衫袁衾袞衵衽袵衲袂袗袒袮袙袢袍袤袰袿袱裃裄裔裘裙裝裹褂裼裴裨裲褄褌褊褓襃褞"⟩,
  ⟨74, 83, "褥褪褫襁襄褻褶褸襌褝襠襞"⟩,
  ⟨75, 1, "襦襤襭襪襯襴襷襾覃覈覊覓覘覡覩覦覬覯覲覺覽覿觀觚觜觝觧觴觸訃訖訐訌訛訝訥訶詁詛詒詆"⟩,
  ⟨75, 42, "詈詼詭詬詢誅誂誄誨誡誑誥誦誚誣諄諍諂諚諫諳諧諤諱謔諠諢諷諞諛謌謇謚諡謖謐謗謠謳鞫謦"⟩,
  ⟨75, 83, "謫謾謨譁譌譏譎證譖譛譚譫"⟩,
  ⟨76, 1, "譟譬譯譴譽讀讌讎讒讓讖讙讚谺豁谿豈豌豎豐豕豢豬豸豺貂貉貅貊貍貎貔豼貘戝貭貪貽貲貳貮"⟩,
  ⟨76, 42, "貶賈賁賤賣賚賽賺賻贄贅贊贇贏贍贐齎贓賍贔贖赧赭赱赳趁趙跂趾趺跏跚跖跌跛跋跪跫跟跣跼"⟩,
  ⟨76, 83, "踈踉跿踝踞踐踟蹂踵踰踴蹊"⟩,
  ⟨77, 1, "蹇蹉蹌蹐蹈蹙蹤蹠踪蹣蹕蹶蹲蹼躁躇躅躄躋躊躓躑躔躙躪躡躬躰軆躱躾軅軈軋軛軣軼軻軫軾輊"⟩,
  ⟨77, 42, "輅輕輒輙輓輜輟輛輌輦輳輻輹轅轂輾轌轉轆轎轗轜轢轣轤辜辟辣辭辯辷迚迥迢迪迯邇迴逅迹迺"⟩,
  ⟨77, 83, "逑逕逡逍逞逖逋逧逶逵逹迸"⟩,
  ⟨78, 1, "遏遐遑遒逎遉逾遖遘遞遨遯遶隨遲邂遽邁邀邊邉邏邨邯邱邵郢郤扈郛鄂鄒鄙鄲鄰酊酖酘酣酥酩"⟩,
  ⟨78, 42, "酳酲醋醉醂醢醫醯醪醵醴醺釀釁釉釋釐釖釟釡釛釼釵釶鈞釿鈔鈬鈕鈑鉞鉗鉅鉉鉤鉈銕鈿鉋鉐銜"⟩,
  ⟨78, 83, "銖銓銛鉚鋏銹銷鋩錏鋺鍄錮"⟩,
  ⟨79, 1, "錙錢錚錣錺錵錻鍜鍠鍼鍮鍖鎰鎬鎭鎔鎹鏖鏗鏨鏥鏘鏃鏝鏐鏈鏤鐚鐔鐓鐃鐇鐐鐶鐫鐵鐡鐺鑁鑒鑄"⟩,
  ⟨79, 42, "鑛鑠鑢鑞鑪鈩鑰鑵鑷鑽鑚鑼鑾钁鑿閂閇閊閔閖閘閙閠閨閧閭閼閻閹閾闊濶闃闍闌闕闔闖關闡闥"⟩,
  ⟨79, 83, "闢阡阨阮阯陂陌陏陋陷陜陞"⟩,
  ⟨80, 1, "陝陟陦陲陬隍隘隕隗險隧隱隲隰隴隶隸隹雎雋雉雍襍雜霍雕雹霄霆霈霓霎霑霏霖霙霤霪霰霹霽"⟩,
  ⟨80, 42, "霾靄靆靈靂靉靜靠靤靦靨勒靫靱靹鞅靼鞁靺鞆鞋鞏鞐鞜鞨鞦鞣鞳鞴韃韆韈韋韜韭齏韲竟韶韵頏"⟩,
  ⟨80, 83, "頌頸頤頡頷頽顆顏顋顫顯顰"⟩,
  ⟨81, 1, "顱顴顳颪颯颱颶飄飃飆飩飫餃餉餒餔餘餡餝餞餤餠餬餮餽餾饂饉饅饐饋饑饒饌饕馗馘馥馭馮馼"⟩,
  ⟨81, 42, "駟駛駝駘駑駭駮駱駲駻駸騁騏騅駢騙騫騷驅驂驀驃騾驕驍驛驗驟驢驥驤驩驫驪骭骰骼髀髏髑髓"⟩,
  ⟨81, 83, "體髞髟髢髣髦髯髫髮髴髱髷"⟩,
  ⟨82, 1, "髻鬆鬘鬚鬟鬢鬣鬥鬧鬨鬩鬪鬮鬯鬲魄魃魏魍魎魑魘魴鮓鮃鮑鮖鮗鮟鮠鮨鮴鯀鯊鮹鯆鯏鯑鯒鯣鯢"⟩,
  ⟨82, 42, "鯤鯔鯡鰺鯲鯱鯰鰕鰔鰉鰓鰌鰆鰈鰒鰊鰄鰮鰛鰥鰤鰡鰰鱇鰲鱆鰾鱚鱠鱧鱶鱸鳧鳬鳰鴉鴈鳫鴃鴆鴪"⟩,
  ⟨82, 83, "鴦鶯鴣鴟鵄鴕鴒鵁鴿鴾鵆鵈"⟩,
  ⟨83, 1, "鵝鵞鵤鵑鵐鵙鵲鶉鶇鶫鵯鵺鶚鶤鶩鶲鷄鷁鶻鶸鶺鷆鷏鷂鷙鷓鷸鷦鷭鷯鷽鸚鸛鸞鹵鹹鹽麁麈麋麌"⟩,
  ⟨83, 42, "麒麕麑麝麥麩麸麪麭靡黌黎黏黐黔黜點黝黠黥黨黯黴黶黷黹黻黼黽鼇鼈皷鼕鼡鼬鼾齊齒齔齣齟"⟩,
  ⟨83, 83, "齠齡齦齧齬齪齷齲齶龕龜龠"⟩,
  ⟨84, 1, "堯槇遙瑤凜熙"⟩]

end ConfigGate.Text.Charset.Grid
