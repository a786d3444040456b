import ConfigGate.Text.Charset.Grid

namespace ConfigGate.Text.Charset.Grid

/-- The characters of GB 2312: signs and alphabets in the first nine rows, common ideographs by their
pronunciation from row 16 on, and rarer ones by their radicals from row 56 on. -/
def gb2312 : Grid := [
  ⟨1, 1, "\u3000、。・ˉˇ¨〃々―～‖…‘’“”〔〕〈〉《》「」『』〖〗【】±×÷∶∧∨∑∏"⟩,
  ⟨1, 40, "∪∩∈∷√⊥∥∠⌒⊙∫∮≡≌≈∽∝≠≮≯≤≥∞∵∴♂♀°′″℃＄¤￠￡‰§№☆★○"⟩,
  ⟨1, 81, "●◎◇◆□■△▲※→←↑↓〓"⟩,
  ⟨2, 17, "⒈⒉⒊⒋⒌⒍⒎⒏⒐⒑⒒⒓⒔⒕⒖⒗⒘⒙⒚⒛⑴⑵⑶⑷⑸⑹⑺⑻⑼⑽⑾⑿⒀⒁⒂⒃⒄⒅⒆⒇①"⟩,
  ⟨2, 58, "②③④⑤⑥⑦⑧⑨⑩"⟩,
  ⟨2, 69, "㈠㈡㈢㈣㈤㈥㈦㈧㈨㈩"⟩,
  ⟨2, 81, "ⅠⅡⅢⅣⅤⅥⅦⅧⅨⅩⅪⅫ"⟩,
  ⟨3, 1, "！＂＃￥％＆＇（）＊＋，－．／０１２３４５６７８９：；＜＝＞？＠ＡＢＣＤＥＦＧＨＩ"⟩,
  ⟨3, 42, "ＪＫＬＭＮＯＰＱＲＳＴＵＶＷＸＹＺ［＼］＾＿｀ａｂｃｄｅｆｇｈｉｊｋｌｍｎｏｐｑｒ"⟩,
  ⟨3, 83, "ｓｔｕｖｗｘｙｚ｛｜｝￣"⟩,
  ⟨4, 1, "ぁあぃいぅうぇえぉおかがきぎくぐけげこごさざしじすずせぜそぞただちぢっつづてでとど"⟩,
  ⟨4, 42, "なにぬねのはばぱひびぴふぶぷへべぺほぼぽまみむめもゃやゅゆょよらりるれろゎわゐゑを"⟩,
  ⟨4, 83, "ん"⟩,
  ⟨5, 1, "ァアィイゥウェエォオカガキギクグケゲコゴサザシジスズセゼソゾタダチヂッツヅテデトド"⟩,
  ⟨5, 42, "ナニヌネノハバパヒビピフブプヘベペホボポマミムメモャヤュユョヨラリルレロヮワヰヱヲ"⟩,
  ⟨5, 83, "ンヴヵヶ"⟩,
  ⟨6, 1, "ΑΒΓΔΕΖΗΘΙΚΛΜΝΞΟΠΡΣΤΥΦΧΨΩ"⟩,
  ⟨6, 33, "αβγδεζηθικλμνξοπρστυφχψω"⟩,
  ⟨7, 1, "АБВГДЕЁЖЗИЙКЛМНОПРСТУФХЦЧШЩЪЫЬЭЮЯ"⟩,
  ⟨7, 49, "абвгдеёжзийклмнопрстуфхцчшщъыьэюя"⟩,
  ⟨8, 1, "āáǎàēéěèīíǐìōóǒòūúǔùǖǘǚǜüê"⟩,
  ⟨8, 37, "ㄅㄆㄇㄈㄉㄊㄋㄌㄍㄎㄏㄐㄑㄒㄓㄔㄕㄖㄗㄘㄙㄚㄛㄜㄝㄞㄟㄠㄡㄢㄣㄤㄥㄦㄧㄨㄩ"⟩,
  ⟨9, 4, "─━│┃┄┅┆┇┈┉┊┋┌┍┎┏┐┑┒┓└┕┖┗┘┙┚┛├┝┞┟┠┡┢┣┤┥┦┧┨"⟩,
  ⟨9, 45, "┩┪┫┬┭┮┯┰┱┲┳┴┵┶┷┸┹┺┻┼┽┾┿╀╁╂╃╄╅╆╇╈╉╊╋"⟩,
  ⟨16, 1, "啊阿埃挨哎唉哀皑癌蔼矮艾碍爱隘鞍氨安俺按暗岸胺案肮昂盎凹敖熬翱袄傲奥懊澳芭捌扒叭吧"⟩,
  ⟨16, 42, "笆八疤巴拔跋靶把耙坝霸罢爸白柏百摆佰败拜稗斑班搬扳般颁板版扮拌伴瓣半办绊邦帮梆榜膀"⟩,
  ⟨16, 83, "绑棒磅蚌镑傍谤苞胞包褒剥"⟩,
  ⟨17, 1, "薄雹保堡饱宝抱报暴豹鲍爆杯碑悲卑北辈背贝钡倍狈备惫焙被奔苯本笨崩绷甭泵蹦迸逼鼻比鄙"⟩,
  ⟨17, 42, "笔彼碧蓖蔽毕毙毖币庇痹闭敝弊必辟壁臂避陛鞭边编贬扁便变卞辨辩辫遍标彪膘表鳖憋别瘪彬"⟩,
  ⟨17, 83, "斌濒滨宾摈兵冰柄丙秉饼炳"⟩,
  ⟨18, 1, "病并玻菠播拨钵波博勃搏铂箔伯帛舶脖膊渤泊驳捕卜哺补埠不布步簿部怖擦猜裁材才财睬踩采"⟩,
  ⟨18, 42, "彩菜蔡餐参蚕残惭惨灿苍舱仓沧藏操糙槽曹草厕策侧册测层蹭插叉茬茶查碴搽察岔差诧拆柴豺"⟩,
  ⟨18, 83, "搀掺蝉馋谗缠铲产阐颤昌猖"⟩,
  ⟨19, 1, "场尝常长偿肠厂敞畅唱倡超抄钞朝嘲潮巢吵炒车扯撤掣彻澈郴臣辰尘晨忱沉陈趁衬撑称城橙成"⟩,
  ⟨19, 42, "呈乘程惩澄诚承逞骋秤吃痴持匙池迟弛驰耻齿侈尺赤翅斥炽充冲虫崇宠抽酬畴踌稠愁筹仇绸瞅"⟩,
  ⟨19, 83, "丑臭初出橱厨躇锄雏滁除楚"⟩,
  ⟨20, 1, "础储矗搐触处揣川穿椽传船喘串疮窗幢床闯创吹炊捶锤垂春椿醇唇淳纯蠢戳绰疵茨磁雌辞慈瓷"⟩,
  ⟨20, 42, "词此刺赐次聪葱囱匆从丛凑粗醋簇促蹿篡窜摧崔催脆瘁粹淬翠村存寸磋撮搓措挫错搭达答瘩打"⟩,
  ⟨20, 83, "大呆歹傣戴带殆代贷袋待逮"⟩,
  ⟨21, 1, "怠耽担丹单郸掸胆旦氮但惮淡诞弹蛋当挡党荡档刀捣蹈倒岛祷导到稻悼道盗德得的蹬灯登等瞪"⟩,
  ⟨21, 42, "凳邓堤低滴迪敌笛狄涤翟嫡抵底地蒂第帝弟递缔颠掂滇碘点典靛垫电佃甸店惦奠淀殿碉叼雕凋"⟩,
  ⟨21, 83, "刁掉吊钓调跌爹碟蝶迭谍叠"⟩,
  ⟨22, 1, "丁盯叮钉顶鼎锭定订丢东冬董懂动栋侗恫冻洞兜抖斗陡豆逗痘都督毒犊独读堵睹赌杜镀肚度渡"⟩,
  ⟨22, 42, "妒端短锻段断缎堆兑队对墩吨蹲敦顿囤钝盾遁掇哆多夺垛躲朵跺舵剁惰堕蛾峨鹅俄额讹娥恶厄"⟩,
  ⟨22, 83, "扼遏鄂饿恩而儿耳尔饵洱二"⟩,
  ⟨23, 1, "贰发罚筏伐乏阀法珐藩帆番翻樊矾钒繁凡烦反返范贩犯饭泛坊芳方肪房防妨仿访纺放菲非啡飞"⟩,
  ⟨23, 42, "肥匪诽吠肺废沸费芬酚吩氛分纷坟焚汾粉奋份忿愤粪丰封枫蜂峰锋风疯烽逢冯缝讽奉凤佛否夫"⟩,
  ⟨23, 83, "敷肤孵扶拂辐幅氟符伏俘服"⟩,
  ⟨24, 1, "浮涪福袱弗甫抚辅俯釜斧脯腑府腐赴副覆赋复傅付阜父腹负富讣附妇缚咐噶嘎该改概钙盖溉干"⟩,
  ⟨24, 42, "甘杆柑竿肝赶感秆敢赣冈刚钢缸肛纲岗港杠篙皋高膏羔糕搞镐稿告哥歌搁戈鸽胳疙割革葛格蛤"⟩,
  ⟨24, 83, "阁隔铬个各给根跟耕更庚羹"⟩,
  ⟨25, 1, "埂耿梗工攻功恭龚供躬公宫弓巩汞拱贡共钩勾沟苟狗垢构购够辜菇咕箍估沽孤姑鼓古蛊骨谷股"⟩,
  ⟨25, 42, "故顾固雇刮瓜剐寡挂褂乖拐怪棺关官冠观管馆罐惯灌贯光广逛瑰规圭硅归龟闺轨鬼诡癸桂柜跪"⟩,
  ⟨25, 83, "贵刽辊滚棍锅郭国果裹过哈"⟩,
  ⟨26, 1, "骸孩海氦亥害骇酣憨邯韩含涵寒函喊罕翰撼捍旱憾悍焊汗汉夯杭航壕嚎豪毫郝好耗号浩呵喝荷"⟩,
  ⟨26, 42, "菏核禾和何合盒貉阂河涸赫褐鹤贺嘿黑痕很狠恨哼亨横衡恒轰哄烘虹鸿洪宏弘红喉侯猴吼厚候"⟩,
  ⟨26, 83, "后呼乎忽瑚壶葫胡蝴狐糊湖"⟩,
  ⟨27, 1, "弧虎唬护互沪户花哗华猾滑画划化话槐徊怀淮坏欢环桓还缓换患唤痪豢焕涣宦幻荒慌黄磺蝗簧"⟩,
  ⟨27, 42, "皇凰惶煌晃幌恍谎灰挥辉徽恢蛔回毁悔慧卉惠晦贿秽会烩汇讳诲绘荤昏婚魂浑混豁活伙火获或"⟩,
  ⟨27, 83, "惑霍货祸击圾基机畸稽积箕"⟩,
  ⟨28, 1, "肌饥迹激讥鸡姬绩缉吉极棘辑籍集及急疾汲即嫉级挤几脊己蓟技冀季伎祭剂悸济寄寂计记既忌"⟩,
  ⟨28, 42, "际妓继纪嘉枷夹佳家加荚颊贾甲钾假稼价架驾嫁歼监坚尖笺间煎兼肩艰奸缄茧检柬碱硷拣捡简"⟩,
  ⟨28, 83, "俭剪减荐槛鉴践贱见键箭件"⟩,
  ⟨29, 1, "健舰剑饯渐溅涧建僵姜将浆江疆蒋桨奖讲匠酱降蕉椒礁焦胶交郊浇骄娇嚼搅铰矫侥脚狡角饺缴"⟩,
  ⟨29, 42, "绞剿教酵轿较叫窖揭接皆秸街阶截劫节桔杰捷睫竭洁结解姐戒藉芥界借介疥诫届巾筋斤金今津"⟩,
  ⟨29, 83, "襟紧锦仅谨进靳晋禁近烬浸"⟩,
  ⟨30, 1, "尽劲荆兢茎睛晶鲸京惊精粳经井警景颈静境敬镜径痉靖竟竞净炯窘揪究纠玖韭久灸九酒厩救旧"⟩,
  ⟨30, 42, "臼舅咎就疚鞠拘狙疽居驹菊局咀矩举沮聚拒据巨具距踞锯俱句惧炬剧捐鹃娟倦眷卷绢撅攫抉掘"⟩,
  ⟨30, 83, "倔爵觉决诀绝均菌钧军君峻"⟩,
  ⟨31, 1, "俊竣浚郡骏喀咖卡咯开揩楷凯慨刊堪勘坎砍看康慷糠扛抗亢炕考拷烤靠坷苛柯棵磕颗科壳咳可"⟩,
  ⟨31, 42, "渴克刻客课肯啃垦恳坑吭空恐孔控抠口扣寇枯哭窟苦酷库裤夸垮挎跨胯块筷侩快宽款匡筐狂框"⟩,
  ⟨31, 83, "矿眶旷况亏盔岿窥葵奎魁傀"⟩,
  ⟨32, 1, "馈愧溃坤昆捆困括扩廓阔垃拉喇蜡腊辣啦莱来赖蓝婪栏拦篮阑兰澜谰揽览懒缆烂滥琅榔狼廊郎"⟩,
  ⟨32, 42, "朗浪捞劳牢老佬姥酪烙涝勒乐雷镭蕾磊累儡垒擂肋类泪棱楞冷厘梨犁黎篱狸离漓理李里鲤礼莉"⟩,
  ⟨32, 83, "荔吏栗丽厉励砾历利傈例俐"⟩,
  ⟨33, 1, "痢立粒沥隶力璃哩俩联莲连镰廉怜涟帘敛脸链恋炼练粮凉梁粱良两辆量晾亮谅撩聊僚疗燎寥辽"⟩,
  ⟨33, 42, "潦了撂镣廖料列裂烈劣猎琳林磷霖临邻鳞淋凛赁吝拎玲菱零龄铃伶羚凌灵陵岭领另令溜琉榴硫"⟩,
  ⟨33, 83, "馏留刘瘤流柳六龙聋咙笼窿"⟩,
  ⟨34, 1, "隆垄拢陇楼娄搂篓漏陋芦卢颅庐炉掳卤虏鲁麓碌露路赂鹿潞禄录陆戮驴吕铝侣旅履屡缕虑氯律"⟩,
  ⟨34, 42, "率滤绿峦挛孪滦卵乱掠略抡轮伦仑沦纶论萝螺罗逻锣箩骡裸落洛骆络妈麻玛码蚂马骂嘛吗埋买"⟩,
  ⟨34, 83, "麦卖迈脉瞒馒蛮满蔓曼慢漫"⟩,
  ⟨35, 1, "谩芒茫盲氓忙莽猫茅锚毛矛铆卯茂冒帽貌贸么玫枚梅酶霉煤没眉媒镁每美昧寐妹媚门闷们萌蒙"⟩,
  ⟨35, 42, "檬盟锰猛梦孟眯醚靡糜迷谜弥米秘觅泌蜜密幂棉眠绵冕免勉娩缅面苗描瞄藐秒渺庙妙蔑灭民抿"⟩,
  ⟨35, 83, "皿敏悯闽明螟鸣铭名命谬摸"⟩,
  ⟨36, 1, "摹蘑模膜磨摩魔抹末莫墨默沫漠寞陌谋牟某拇牡亩姆母墓暮幕募慕木目睦牧穆拿哪呐钠那娜纳"⟩,
  ⟨36, 42, "氖乃奶耐奈南男难囊挠脑恼闹淖呢馁内嫩能妮霓倪泥尼拟你匿腻逆溺蔫拈年碾撵捻念娘酿鸟尿"⟩,
  ⟨36, 83, "捏聂孽啮镊镍涅您柠狞凝宁"⟩,
  ⟨37, 1, "拧泞牛扭钮纽脓浓农弄奴努怒女暖虐疟挪懦糯诺哦欧鸥殴藕呕偶沤啪趴爬帕怕琶拍排牌徘湃派"⟩,
  ⟨37, 42, "攀潘盘磐盼畔判叛乓庞旁耪胖抛咆刨炮袍跑泡呸胚培裴赔陪配佩沛喷盆砰抨烹澎彭蓬棚硼篷膨"⟩,
  ⟨37, 83, "朋鹏捧碰坯砒霹批披劈琵毗"⟩,
  ⟨38, 1, "啤脾疲皮匹痞僻屁譬篇偏片骗飘漂瓢票撇瞥拼频贫品聘乒坪苹萍平凭瓶评屏坡泼颇婆破魄迫粕"⟩,
  ⟨38, 42, "剖扑铺仆莆葡菩蒲埔朴圃普浦谱曝瀑期欺栖戚妻七凄漆柒沏其棋奇歧畦崎脐齐旗祈祁骑起岂乞"⟩,
  ⟨38, 83, "企启契砌器气迄弃汽泣讫掐"⟩,
  ⟨39, 1, "恰洽牵扦钎铅千迁签仟谦乾黔钱钳前潜遣浅谴堑嵌欠歉枪呛腔羌墙蔷强抢橇锹敲悄桥瞧乔侨巧"⟩,
  ⟨39, 42, "鞘撬翘峭俏窍切茄且怯窃钦侵亲秦琴勤芹擒禽寝沁青轻氢倾卿清擎晴氰情顷请庆琼穷秋丘邱球"⟩,
  ⟨39, 83, "求囚酋泅趋区蛆曲躯屈驱渠"⟩,
  ⟨40, 1, "取娶龋趣去圈颧权醛泉全痊拳犬券劝缺炔瘸却鹊榷确雀裙群然燃冉染瓤壤攘嚷让饶扰绕惹热壬"⟩,
  ⟨40, 42, "仁人忍韧任认刃妊纫扔仍日戎茸蓉荣融熔溶容绒冗揉柔肉茹蠕儒孺如辱乳汝入褥软阮蕊瑞锐闰"⟩,
  ⟨40, 83, "润若弱撒洒萨腮鳃塞赛三叁"⟩,
  ⟨41, 1, "伞散桑嗓丧搔骚扫嫂瑟色涩森僧莎砂杀刹沙纱傻啥煞筛晒珊苫杉山删煽衫闪陕擅赡膳善汕扇缮"⟩,
  ⟨41, 42, "墒伤商赏晌上尚裳梢捎稍烧芍勺韶少哨邵绍奢赊蛇舌舍赦摄射慑涉社设砷申呻伸身深娠绅神沈"⟩,
  ⟨41, 83, "审婶甚肾慎渗声生甥牲升绳"⟩,
  ⟨42, 1, "省盛剩胜圣师失狮施湿诗尸虱十石拾时什食蚀实识史矢使屎驶始式示士世柿事拭誓逝势是嗜噬"⟩,
  ⟨42, 42, "适仕侍释饰氏市恃室视试收手首守寿授售受瘦兽蔬枢梳殊抒输叔舒淑疏书赎孰熟薯暑曙署蜀黍"⟩,
  ⟨42, 83, "鼠属术述树束戍竖墅庶数漱"⟩,
  ⟨43, 1, "恕刷耍摔衰甩帅栓拴霜双爽谁水睡税吮瞬顺舜说硕朔烁斯撕嘶思私司丝死肆寺嗣四伺似饲巳松"⟩,
  ⟨43, 42, "耸怂颂送宋讼诵搜艘擞嗽苏酥俗素速粟僳塑溯宿诉肃酸蒜算虽隋随绥髓碎岁穗遂隧祟孙损笋蓑"⟩,
  ⟨43, 83, "梭唆缩琐索锁所塌他它她塔"⟩,
  ⟨44, 1, "獭挞蹋踏胎苔抬台泰酞太态汰坍摊贪瘫滩坛檀痰潭谭谈坦毯袒碳探叹炭汤塘搪堂棠膛唐糖倘躺"⟩,
  ⟨44, 42, "淌趟烫掏涛滔绦萄桃逃淘陶讨套特藤腾疼誊梯剔踢锑提题蹄啼体替嚏惕涕剃屉天添填田甜恬舔"⟩,
  ⟨44, 83, "腆挑条迢眺跳贴铁帖厅听烃"⟩,
  ⟨45, 1, "汀廷停亭庭挺艇通桐酮瞳同铜彤童桶捅筒统痛偷投头透凸秃突图徒途涂屠土吐兔湍团推颓腿蜕"⟩,
  ⟨45, 42, "褪退吞屯臀拖托脱鸵陀驮驼椭妥拓唾挖哇蛙洼娃瓦袜歪外豌弯湾玩顽丸烷完碗挽晚皖惋宛婉万"⟩,
  ⟨45, 83, "腕汪王亡枉网往旺望忘妄威"⟩,
  ⟨46, 1, "巍微危韦违桅围唯惟为潍维苇萎委伟伪尾纬未蔚味畏胃喂魏位渭谓尉慰卫瘟温蚊文闻纹吻稳紊"⟩,
  ⟨46, 42, "问嗡翁瓮挝蜗涡窝我斡卧握沃巫呜钨乌污诬屋无芜梧吾吴毋武五捂午舞伍侮坞戊雾晤物勿务悟"⟩,
  ⟨46, 83, "误昔熙析西硒矽晰嘻吸锡牺"⟩,
  ⟨47, 1, "稀息希悉膝夕惜熄烯溪汐犀檄袭席习媳喜铣洗系隙戏细瞎虾匣霞辖暇峡侠狭下厦夏吓掀锨先仙"⟩,
  ⟨47, 42, "鲜纤咸贤衔舷闲涎弦嫌显险现献县腺馅羡宪陷限线相厢镶香箱襄湘乡翔祥详想响享项巷橡像向"⟩,
  ⟨47, 83, "象萧硝霄削哮嚣销消宵淆晓"⟩,
  ⟨48, 1, "小孝校肖啸笑效楔些歇蝎鞋协挟携邪斜胁谐写械卸蟹懈泄泻谢屑薪芯锌欣辛新忻心信衅星腥猩"⟩,
  ⟨48, 42, "惺兴刑型形邢行醒幸杏性姓兄凶胸匈汹雄熊休修羞朽嗅锈秀袖绣墟戌需虚嘘须徐许蓄酗叙旭序"⟩,
  ⟨48, 83, "畜恤絮婿绪续轩喧宣悬旋玄"⟩,
  ⟨49, 1, "选癣眩绚靴薛学穴雪血勋熏循旬询寻驯巡殉汛训讯逊迅压押鸦鸭呀丫芽牙蚜崖衙涯雅哑亚讶焉"⟩,
  ⟨49, 42, "咽阉烟淹盐严研蜒岩延言颜阎炎沿奄掩眼衍演艳堰燕厌砚雁唁彦焰宴谚验殃央鸯秧杨扬佯疡羊"⟩,
  ⟨49, 83, "洋阳氧仰痒养样漾邀腰妖瑶"⟩,
  ⟨50, 1, "摇尧遥窑谣姚咬舀药要耀椰噎耶爷野冶也页掖业叶曳腋夜液一壹医揖铱依伊衣颐夷遗移仪胰疑"⟩,
  ⟨50, 42, "沂宜姨彝椅蚁倚已乙矣以艺抑易邑屹亿役臆逸肄疫亦裔意毅忆义益溢诣议谊译异翼翌绎茵荫因"⟩,
  ⟨50, 83, "殷音阴姻吟银淫寅饮尹引隐"⟩,
  ⟨51, 1, "印英樱婴鹰应缨莹萤营荧蝇迎赢盈影颖硬映哟拥佣臃痈庸雍踊蛹咏泳涌永恿勇用幽优悠忧尤由"⟩,
  ⟨51, 42, "邮铀犹油游酉有友右佑釉诱又幼迂淤于盂榆虞愚舆余俞逾鱼愉渝渔隅予娱雨与屿禹宇语羽玉域"⟩,
  ⟨51, 83, "芋郁吁遇喻峪御愈欲狱育誉"⟩,
  ⟨52, 1, "浴寓裕预豫驭鸳渊冤元垣袁原援辕园员圆猿源缘远苑愿怨院曰约越跃钥岳粤月悦阅耘云郧匀陨"⟩,
  ⟨52, 42, "允运蕴酝晕韵孕匝砸杂栽哉灾宰载再在咱攒暂赞赃脏葬遭糟凿藻枣早澡蚤躁噪造皂灶燥责择则"⟩,
  ⟨52, 83, "泽贼怎增憎曾赠扎喳渣札轧"⟩,
  ⟨53, 1, "铡闸眨栅榨咋乍炸诈摘斋宅窄债寨瞻毡詹粘沾盏斩辗崭展蘸栈占战站湛绽樟章彰漳张掌涨杖丈"⟩,
  ⟨53, 42, "帐账仗胀瘴障招昭找沼赵照罩兆肇召遮折哲蛰辙者锗蔗这浙珍斟真甄砧臻贞针侦枕疹诊震振镇"⟩,
  ⟨53, 83, "阵蒸挣睁征狰争怔整拯正政"⟩,
  ⟨54, 1, "帧症郑证芝枝支吱蜘知肢脂汁之织职直植殖执值侄址指止趾只旨纸志挚掷至致置帜峙制智秩稚"⟩,
  ⟨54, 42, "质炙痔滞治窒中盅忠钟衷终种肿重仲众舟周州洲诌粥轴肘帚咒皱宙昼骤珠株蛛朱猪诸诛逐竹烛"⟩,
  ⟨54, 83, "煮拄瞩嘱主著柱助蛀贮铸筑"⟩,
  ⟨55, 1, "住注祝驻抓爪拽专砖转撰赚篆桩庄装妆撞壮状椎锥追赘坠缀谆准捉拙卓桌琢茁酌啄着灼浊兹咨"⟩,
  ⟨55, 42, "资姿滋淄孜紫仔籽滓子自渍字鬃棕踪宗综总纵邹走奏揍租足卒族祖诅阻组钻纂嘴醉最罪尊遵昨"⟩,
  ⟨55, 83, "左佐柞做作坐座"⟩,
  ⟨56, 1, "亍丌兀丐廿卅丕亘丞鬲孬噩丨禺丿匕乇夭爻卮氐囟胤馗毓睾鼗丶亟鼐乜乩亓芈孛啬嘏仄厍厝厣"⟩,
  ⟨56, 42, "厥厮靥赝匚叵匦匮匾赜卦卣刂刈刎刭刳刿剀剌剞剡剜蒯剽劂劁劐劓冂罔亻仃仉仂仨仡仫仞伛仳"⟩,
  ⟨56, 83, "伢佤仵伥伧伉伫佞佧攸佚佝"⟩,
  ⟨57, 1, "佟佗伲伽佶佴侑侉侃侏佾佻侪佼侬侔俦俨俪俅俚俣俜俑俟俸倩偌俳倬倏倮倭俾倜倌倥倨偾偃偕"⟩,
  ⟨57, 42, "偈偎偬偻傥傧傩傺僖儆僭僬僦僮儇儋仝氽佘佥俎龠汆籴兮巽黉馘冁夔勹匍訇匐凫夙兕亠兖亳衮"⟩,
  ⟨57, 83, "袤亵脔裒禀嬴蠃羸冫冱冽冼"⟩,
  ⟨58, 1, "凇冖冢冥讠讦讧讪讴讵讷诂诃诋诏诎诒诓诔诖诘诙诜诟诠诤诨诩诮诰诳诶诹诼诿谀谂谄谇谌谏"⟩,
  ⟨58, 42, "谑谒谔谕谖谙谛谘谝谟谠谡谥谧谪谫谮谯谲谳谵谶卩卺阝阢阡阱阪阽阼陂陉陔陟陧陬陲陴隈隍"⟩,
  ⟨58, 83, "隗隰邗邛邝邙邬邡邴邳邶邺"⟩,
  ⟨59, 1, "邸邰郏郅邾郐郄郇郓郦郢郜郗郛郫郯郾鄄鄢鄞鄣鄱鄯鄹酃酆刍奂劢劬劭劾哿勐勖勰叟燮矍廴凵"⟩,
  ⟨59, 42, "凼鬯厶弁畚巯坌垩垡塾墼壅壑圩圬圪圳圹圮圯坜圻坂坩垅坫垆坼坻坨坭坶坳垭垤垌垲埏垧垴垓"⟩,
  ⟨59, 83, "垠埕埘埚埙埒垸埴埯埸埤埝"⟩,
  ⟨60, 1, "堋堍埽埭堀堞堙塄堠塥塬墁墉墚墀馨鼙懿艹艽艿芏芊芨芄芎芑芗芙芫芸芾芰苈苊苣芘芷芮苋苌"⟩,
  ⟨60, 42, "苁芩芴芡芪芟苄苎芤苡茉苷苤茏茇苜苴苒苘茌苻苓茑茚茆茔茕苠苕茜荑荛荜茈莒茼茴茱莛荞茯"⟩,
  ⟨60, 83, "荏荇荃荟荀茗荠茭茺茳荦荥"⟩,
  ⟨61, 1, "荨茛荩荬荪荭荮莰荸莳莴莠莪莓莜莅荼莶莩荽莸荻莘莞莨莺莼菁萁菥菘堇萘萋菝菽菖萜萸萑萆"⟩,
  ⟨61, 42, "菔菟萏萃菸菹菪菅菀萦菰菡葜葑葚葙葳蒇蒈葺蒉葸萼葆葩葶蒌蒎萱葭蓁蓍蓐蓦蒽蓓蓊蒿蒺蓠蒡"⟩,
  ⟨61, 83, "蒹蒴蒗蓥蓣蔌甍蔸蓰蔹蔟蔺"⟩,
  ⟨62, 1, "蕖蔻蓿蓼蕙蕈蕨蕤蕞蕺瞢蕃蕲蕻薤薨薇薏蕹薮薜薅薹薷薰藓藁藜藿蘧蘅蘩蘖蘼廾弈夼奁耷奕奚"⟩,
  ⟨62, 42, "奘匏尢尥尬尴扌扪抟抻拊拚拗拮挢拶挹捋捃掭揶捱捺掎掴捭掬掊捩掮掼揲揸揠揿揄揞揎摒揆掾"⟩,
  ⟨62, 83, "摅摁搋搛搠搌搦搡摞撄摭撖"⟩,
  ⟨63, 1, "摺撷撸撙撺擀擐擗擤擢攉攥攮弋忒甙弑卟叱叽叩叨叻吒吖吆呋呒呓呔呖呃吡呗呙吣吲咂咔呷呱"⟩,
  ⟨63, 42, "呤咚咛咄呶呦咝哐咭哂咴哒咧咦哓哔呲咣哕咻咿哌哙哚哜咩咪咤哝哏哞唛哧唠哽唔哳唢唣唏唑"⟩,
  ⟨63, 83, "唧唪啧喏喵啉啭啁啕唿啐唼"⟩,
  ⟨64, 1, "唷啖啵啶啷唳唰啜喋嗒喃喱喹喈喁喟啾嗖喑啻嗟喽喾喔喙嗪嗷嗉嘟嗑嗫嗬嗔嗦嗝嗄嗯嗥嗲嗳嗌"⟩,
  ⟨64, 42, "嗍嗨嗵嗤辔嘞嘈嘌嘁嘤嘣嗾嘀嘧嘭噘嘹噗嘬噍噢噙噜噌噔嚆噤噱噫噻噼嚅嚓嚯囔囗囝囡囵囫囹"⟩,
  ⟨64, 83, "囿圄圊圉圜帏帙帔帑帱帻帼"⟩,
  ⟨65, 1, "帷幄幔幛幞幡岌屺岍岐岖岈岘岙岑岚岜岵岢岽岬岫岱岣峁岷峄峒峤峋峥崂崃崧崦崮崤崞崆崛嵘"⟩,
  ⟨65, 42, "崾崴崽嵬嵛嵯嵝嵫嵋嵊嵩嵴嶂嶙嶝豳嶷巅彳彷徂徇徉後徕徙徜徨徭徵徼衢彡犭犰犴犷犸狃狁狎"⟩,
  ⟨65, 83, "狍狒狨狯狩狲狴狷猁狳猃狺"⟩,
  ⟨66, 1, "狻猗猓猡猊猞猝猕猢猹猥猬猸猱獐獍獗獠獬獯獾舛夥飧夤夂饣饧饨饩饪饫饬饴饷饽馀馄馇馊馍"⟩,
  ⟨66, 42, "馐馑馓馔馕庀庑庋庖庥庠庹庵庾庳赓廒廑廛廨廪膺忄忉忖忏怃忮怄忡忤忾怅怆忪忭忸怙怵怦怛"⟩,
  ⟨66, 83, "怏怍怩怫怊怿怡恸恹恻恺恂"⟩,
  ⟨67, 1, "恪恽悖悚悭悝悃悒悌悛惬悻悱惝惘惆惚悴愠愦愕愣惴愀愎愫慊慵憬憔憧憷懔懵忝隳闩闫闱闳闵"⟩,
  ⟨67, 42, "闶闼闾阃阄阆阈阊阋阌阍阏阒阕阖阗阙阚丬爿戕氵汔汜汊沣沅沐沔沌汨汩汴汶沆沩泐泔沭泷泸"⟩,
  ⟨67, 83, "泱泗沲泠泖泺泫泮沱泓泯泾"⟩,
  ⟨68, 1, "洹洧洌浃浈洇洄洙洎洫浍洮洵洚浏浒浔洳涑浯涞涠浞涓涔浜浠浼浣渚淇淅淞渎涿淠渑淦淝淙渖"⟩,
  ⟨68, 42, "涫渌涮渫湮湎湫溲湟溆湓湔渲渥湄滟溱溘滠漭滢溥溧溽溻溷滗溴滏溏滂溟潢潆潇漤漕滹漯漶潋"⟩,
  ⟨68, 83, "潴漪漉漩澉澍澌潸潲潼潺濑"⟩,
  ⟨69, 1, "濉澧澹澶濂濡濮濞濠濯瀚瀣瀛瀹瀵灏灞宀宄宕宓宥宸甯骞搴寤寮褰寰蹇謇辶迓迕迥迮迤迩迦迳"⟩,
  ⟨69, 42, "迨逅逄逋逦逑逍逖逡逵逶逭逯遄遑遒遐遨遘遢遛暹遴遽邂邈邃邋彐彗彖彘尻咫屐屙孱屣屦羼弪"⟩,
  ⟨69, 83, "弩弭艴弼鬻屮妁妃妍妩妪妣"⟩,
  ⟨70, 1, "妗姊妫妞妤姒妲妯姗妾娅娆姝娈姣姘姹娌娉娲娴娑娣娓婀婧婊婕娼婢婵胬媪媛婷婺媾嫫媲嫒嫔"⟩,
  ⟨70, 42, "媸嫠嫣嫱嫖嫦嫘嫜嬉嬗嬖嬲嬷孀尕尜孚孥孳孑孓孢驵驷驸驺驿驽骀骁骅骈骊骐骒骓骖骘骛骜骝"⟩,
  ⟨70, 83, "骟骠骢骣骥骧纟纡纣纥纨纩"⟩,
  ⟨71, 1, "纭纰纾绀绁绂绉绋绌绐绔绗绛绠绡绨绫绮绯绱绲缍绶绺绻绾缁缂缃缇缈缋缌缏缑缒缗缙缜缛缟"⟩,
  ⟨71, 42, "缡缢缣缤缥缦缧缪缫缬缭缯缰缱缲缳缵幺畿巛甾邕玎玑玮玢玟珏珂珑玷玳珀珉珈珥珙顼琊珩珧"⟩,
  ⟨71, 83, "珞玺珲琏琪瑛琦琥琨琰琮琬"⟩,
  ⟨72, 1, "琛琚瑁瑜瑗瑕瑙瑷瑭瑾璜璎璀璁璇璋璞璨璩璐璧瓒璺韪韫韬杌杓杞杈杩枥枇杪杳枘枧杵枨枞枭"⟩,
  ⟨72, 42, "枋杷杼柰栉柘栊柩枰栌柙枵柚枳柝栀柃枸柢栎柁柽栲栳桠桡桎桢桄桤梃栝桕桦桁桧桀栾桊桉栩"⟩,
  ⟨72, 83, "梵梏桴桷梓桫棂楮棼椟椠棹"⟩,
  ⟨73, 1, "椤棰椋椁楗棣椐楱椹楠楂楝榄楫榀榘楸椴槌榇榈槎榉楦楣楹榛榧榻榫榭槔榱槁槊槟榕槠榍槿樯"⟩,
  ⟨73, 42, "槭樗樘橥槲橄樾檠橐橛樵檎橹樽樨橘橼檑檐檩檗檫猷獒殁殂殇殄殒殓殍殚殛殡殪轫轭轱轲轳轵"⟩,
  ⟨73, 83, "轶轸轷轹轺轼轾辁辂辄辇辋"⟩,
  ⟨74, 1, "辍辎辏辘辚軎戋戗戛戟戢戡戥戤戬臧瓯瓴瓿甏甑甓攴旮旯旰昊昙杲昃昕昀炅曷昝昴昱昶昵耆晟"⟩,
  ⟨74, 42, "晔晁晏晖晡晗晷暄暌暧暝暾曛曜曦曩贲贳贶贻贽赀赅赆赈赉赇赍赕赙觇觊觋觌觎觏觐觑牮犟牝"⟩,
  ⟨74, 83, "牦牯牾牿犄犋犍犏犒挈挲掰"⟩,
  ⟨75, 1, "搿擘耄毪毳毽毵毹氅氇氆氍氕氘氙氚氡氩氤氪氲攵敕敫牍牒牖爰虢刖肟肜肓肼朊肽肱肫肭肴肷"⟩,
  ⟨75, 42, "胧胨胩胪胛胂胄胙胍胗朐胝胫胱胴胭脍脎胲胼朕脒豚脶脞脬脘脲腈腌腓腴腙腚腱腠腩腼腽腭腧"⟩,
  ⟨75, 83, "塍媵膈膂膑滕膣膪臌朦臊膻"⟩,
  ⟨76, 1, "臁膦欤欷欹歃歆歙飑飒飓飕飙飚殳彀毂觳斐齑斓於旆旄旃旌旎旒旖炀炜炖炝炻烀炷炫炱烨烊焐"⟩,
  ⟨76, 42, "焓焖焯焱煳煜煨煅煲煊煸煺熘熳熵熨熠燠燔燧燹爝爨灬焘煦熹戾戽扃扈扉礻祀祆祉祛祜祓祚祢"⟩,
  ⟨76, 83, "祗祠祯祧祺禅禊禚禧禳忑忐"⟩,
  ⟨77, 1, "怼恝恚恧恁恙恣悫愆愍慝憩憝懋懑戆肀聿沓泶淼矶矸砀砉砗砘砑斫砭砜砝砹砺砻砟砼砥砬砣砩"⟩,
  ⟨77, 42, "硎硭硖硗砦硐硇硌硪碛碓碚碇碜碡碣碲碹碥磔磙磉磬磲礅磴礓礤礞礴龛黹黻黼盱眄眍盹眇眈眚"⟩,
  ⟨77, 83, "眢眙眭眦眵眸睐睑睇睃睚睨"⟩,
  ⟨78, 1, "睢睥睿瞍睽瞀瞌瞑瞟瞠瞰瞵瞽町畀畎畋畈畛畲畹疃罘罡罟詈罨罴罱罹羁罾盍盥蠲钅钆钇钋钊钌"⟩,
  ⟨78, 42, "钍钏钐钔钗钕钚钛钜钣钤钫钪钭钬钯钰钲钴钶钷钸钹钺钼钽钿铄铈铉铊铋铌铍铎铐铑铒铕铖铗"⟩,
  ⟨78, 83, "铙铘铛铞铟铠铢铤铥铧铨铪"⟩,
  ⟨79, 1, "铩铫铮铯铳铴铵铷铹铼铽铿锃锂锆锇锉锊锍锎锏锒锓锔锕锖锘锛锝锞锟锢锪锫锩锬锱锲锴锶锷"⟩,
  ⟨79, 42, "锸锼锾锿镂锵镄镅镆镉镌镎镏镒镓镔镖镗镘镙镛镞镟镝镡镢镤镥镦镧镨镩镪镫镬镯镱镲镳锺矧"⟩,
  ⟨79, 83, "矬雉秕秭秣秫稆嵇稃稂稞稔"⟩,
  ⟨80, 1, "稹稷穑黏馥穰皈皎皓皙皤瓞瓠甬鸠鸢鸨鸩鸪鸫鸬鸲鸱鸶鸸鸷鸹鸺鸾鹁鹂鹄鹆鹇鹈鹉鹋鹌鹎鹑鹕"⟩,
  ⟨80, 42, "鹗鹚鹛鹜鹞鹣鹦鹧鹨鹩鹪鹫鹬鹱鹭鹳疒疔疖疠疝疬疣疳疴疸痄疱疰痃痂痖痍痣痨痦痤痫痧瘃痱"⟩,
  ⟨80, 83, "痼痿瘐瘀瘅瘌瘗瘊瘥瘘瘕瘙"⟩,
  ⟨81, 1, "瘛瘼瘢瘠癀瘭瘰瘿瘵癃瘾瘳癍癞癔癜癖癫癯翊竦穸穹窀窆窈窕窦窠窬窨窭窳衤衩衲衽衿袂袢裆"⟩,
  ⟨81, 42, "袷袼裉裢裎裣裥裱褚裼裨裾裰褡褙褓褛褊褴褫褶襁襦襻疋胥皲皴矜耒耔耖耜耠耢耥耦耧耩耨耱"⟩,
  ⟨81, 83, "耋耵聃聆聍聒聩聱覃顸颀颃"⟩,
  ⟨82, 1, "颉颌颍颏颔颚颛颞颟颡颢颥颦虍虔虬虮虿虺虼虻蚨蚍蚋蚬蚝蚧蚣蚪蚓蚩蚶蛄蚵蛎蚰蚺蚱蚯蛉蛏"⟩,
  ⟨82, 42, "蚴蛩蛱蛲蛭蛳蛐蜓蛞蛴蛟蛘蛑蜃蜇蛸蜈蜊蜍蜉蜣蜻蜞蜥蜮蜚蜾蝈蜴蜱蜩蜷蜿螂蜢蝽蝾蝻蝠蝰蝌"⟩,
  ⟨82, 83, "蝮螋蝓蝣蝼蝤蝙蝥螓螯螨蟒"⟩,
  ⟨83, 1, "蟆螈螅螭螗螃螫蟥螬螵螳蟋蟓螽蟑蟀蟊蟛蟪蟠蟮蠖蠓蟾蠊蠛蠡蠹蠼缶罂罄罅舐竺竽笈笃笄笕笊"⟩,
  ⟨83, 42, "笫笏筇笸笪笙笮笱笠笥笤笳笾笞筘筚筅筵筌筝筠筮筻筢筲筱箐箦箧箸箬箝箨箅箪箜箢箫箴篑篁"⟩,
  ⟨83, 83, "篌篝篚篥篦篪簌篾篼簏簖簋"⟩,
  ⟨84, 1, "簟簪簦簸籁籀臾舁舂舄臬衄舡舢舣舭舯舨舫舸舻舳舴舾艄艉艋艏艚艟艨衾袅袈裘裟襞羝羟羧羯"⟩,
  ⟨84, 42, "羰羲籼敉粑粝粜粞粢粲粼粽糁糇糌糍糈糅糗糨艮暨羿翎翕翥翡翦翩翮翳糸絷綦綮繇纛麸麴赳趄"⟩,
  ⟨84, 83, "趔趑趱赧赭豇豉酊酐酎酏酤"⟩,
  ⟨85, 1, "酢酡酰酩酯酽酾酲酴酹醌醅醐醍醑醢醣醪醭醮醯醵醴醺豕鹾趸跫踅蹙蹩趵趿趼趺跄跖跗跚跞跎"⟩,
  ⟨85, 42, "跏跛跆跬跷跸跣跹跻跤踉跽踔踝踟踬踮踣踯踺蹀踹踵踽踱蹉蹁蹂蹑蹒蹊蹰蹶蹼蹯蹴躅躏躔躐躜"⟩,
  ⟨85, 83, "躞豸貂貊貅貘貔斛觖觞觚觜"⟩,
  ⟨86, 1, "觥觫觯訾謦靓雩雳雯霆霁霈霏霎霪霭霰霾龀龃龅龆龇龈龉龊龌黾鼋鼍隹隼隽雎雒瞿雠銎銮鋈錾"⟩,
  ⟨86, 42, "鍪鏊鎏鐾鑫鱿鲂鲅鲆鲇鲈稣鲋鲎鲐鲑鲒鲔鲕鲚鲛鲞鲟鲠鲡鲢鲣鲥鲦鲧鲨鲩鲫鲭鲮鲰鲱鲲鲳鲴鲵"⟩,
  ⟨86, 83, "鲶鲷鲺鲻鲼鲽鳄鳅鳆鳇鳊鳋"⟩,
  ⟨87, 1, "鳌鳍鳎鳏鳐鳓鳔鳕鳗鳘鳙鳜鳝鳟鳢靼鞅鞑鞒鞔鞯鞫鞣鞲鞴骱骰骷鹘骶骺骼髁髀髅髂髋髌髑魅魃"⟩,
  ⟨87, 42, "魇魉魈魍魑飨餍餮饕饔髟髡髦髯髫髻髭髹鬈鬏鬓鬟鬣麽麾縻麂麇麈麋麒鏖麝麟黛黜黝黠黟黢黩"⟩,
  ⟨87, 83, "黧黥黪黯鼢鼬鼯鼹鼷鼽鼾齄"⟩]

end ConfigGate.Text.Charset.Grid
