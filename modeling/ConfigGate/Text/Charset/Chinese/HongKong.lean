import ConfigGate.Text.Charset.Grid

namespace ConfigGate.Text.Charset.Grid

/-- The characters that Hong Kong adds to Big5, by their bytes. -/
def hongKong : Grid := [
  ⟨0x87, 0x40, "䏰䰲䘃䖦䕸𧉧䵷䖳𧲱䳢𧳅㮕䜶䝄䱇䱀𤊿𣘗𧍒𦺋𧃒䱗𪍑䝏䗚䲅𧱬䴇䪤䚡𦬣爥𥩔𡩣𣸆𣽡晍囻"⟩,
  ⟨0x87, 0x67, "綕夝𨮹㷴霴𧯯寛𡵞媤㘥𩺰嫑宷峼杮薓𩥅瑡璝"⟩,
  ⟨0x88, 0x40, "㇀㇁㇂㇃㇄𠄌㇅𠃑𠃍㇆㇇𠃋𡿨㇈𠃊㇉㇊㇋㇌𠄎㇍㇎ĀÁǍÀĒÉĚÈŌÓǑÒ"⟩,
  ⟨0x88, 0x63, "Ế"⟩,
  ⟨0x88, 0x65, "ỀÊāáǎàɑēéěèīíǐìōóǒòūúǔùǖǘǚ"⟩,
  ⟨0x88, 0xA1, "ǜü"⟩,
  ⟨0x88, 0xA4, "ế"⟩,
  ⟨0x88, 0xA6, "ềêɡ⏚⏛"⟩,
  ⟨0x89, 0x40, "𪎩𡅅"⟩,
  ⟨0x89, 0x43, "攊"⟩,
  ⟨0x89, 0x46, "丽滝鵎釟"⟩,
  ⟨0x89, 0x4C, "𧜵撑会伨侨兖兴农凤务动医华发变团声处备夲头学实実岚庆总斉柾栄桥济炼电纤纬纺织经统缆"⟩,
  ⟨0x89, 0x75, "缷艺苏药视设询车轧轮"⟩,
  ⟨0x89, 0xA1, "琑糼緍楆竉刧"⟩,
  ⟨0x89, 0xAB, "醌碸酞肼"⟩,
  ⟨0x89, 0xB0, "贋胶𠧧"⟩,
  ⟨0x89, 0xB5, "肟黇䳍鷉鸌䰾𩷶𧀎鸊𪄳㗁"⟩,
  ⟨0x89, 0xC1, "溚舾甙"⟩,
  ⟨0x89, 0xC5, "䤑马骏龙禇𨑬𡷊𠗐𢫦两亁亀亇亿仫伷㑌侽㹈倃傈㑽㒓㒥円夅凛凼刅争剹劐匧㗇厩㕑厰㕓参吣㕭"⟩,
  ⟨0x89, 0xEE, "㕲㚁咓咣咴咹哐哯唘唣唨㖘唿㖥㖿嗗㗅"⟩,
  ⟨0x8A, 0x40, "𧶄唥"⟩,
  ⟨0x8A, 0x43, "𠱂𠴕𥄫喐𢳆㧬𠍁蹆𤶸𩓥䁓𨂾睺𢰸㨴䟕𨅝𦧲𤷪擝𠵼𠾴𠳕𡃴撍蹾𠺖𠰋𠽤𢲩𨉖𤓓"⟩,
  ⟨0x8A, 0x64, "𠵆𩩍𨃩䟴𤺧𢳂骲㩧𩗴㿭㔆𥋇𩟔𧣈𢵄鵮頕"⟩,
  ⟨0x8A, 0x76, "䏙𦂥撴哣𢵌𢯊𡁷㧻𡁯"⟩,
  ⟨0x8A, 0xA1, "𦛚𦜖𧦠擪𥁒𠱃蹨𢆡𨭌𠜱"⟩,
  ⟨0x8A, 0xAC, "䠋𠆩㿺塳𢶍"⟩,
  ⟨0x8A, 0xB2, "𤗈𠓼𦂗𠽌𠶖啹䂻䎺"⟩,
  ⟨0x8A, 0xBB, "䪴𢩦𡂝膪飵𠶜捹㧾𢝵跀嚡摼㹃"⟩,
  ⟨0x8A, 0xC9, "𪘁𠸉𢫏𢳉"⟩,
  ⟨0x8A, 0xCE, "𡃈𣧂㦒㨆𨊛㕸𥹉𢃇噒𠼱𢲲𩜠㒼氽𤸻"⟩,
  ⟨0x8A, 0xDF, "𧕴𢺋𢈈𪙛𨳍𠹺𠰴𦠜羓𡃏𢠃𢤹㗻𥇣𠺌𠾍𠺪㾓𠼰𠵇𡅏𠹌"⟩,
  ⟨0x8A, 0xF6, "𠺫𠮩𠵈𡃀𡄽㿹𢚖搲𠾭"⟩,
  ⟨0x8B, 0x40, "𣏴𧘹𢯎𠵾𠵿𢱑𢱕㨘𠺘𡃇𠼮𪘲𦭐𨳒𨶙𨳊閪哌苄喹"⟩,
  ⟨0x8B, 0x55, "𩻃鰦骶𧝞𢷮煀腭胬尜𦕲脴㞗卟𨂽醶𠻺𠸏𠹷𠻻㗝𤷫㘉𠳖嚯𢞵𡃉𠸐𠹸𡁸𡅈𨈇𡑕𠹹𤹐𢶤婔𡀝𡀞𡃵𡃶垜"⟩,
  ⟨0x8B, 0x7E, "𠸑"⟩,
  ⟨0x8B, 0xA1, "𧚔𨋍𠾵𠹻𥅾㜃𠾶𡆀𥋘𪊽𤧚𡠺𤅷𨉼墙剨㘚𥜽箲孨䠀䬬鼧䧧鰟鮍𥭴𣄽嗻㗲嚉丨夂𡯁屮靑𠂆乛亻㔾尣"⟩,
  ⟨0x8B, 0xCA, "彑忄㣺扌攵歺氵氺灬爫丬犭𤣩罒礻糹罓𦉪㓁"⟩,
  ⟨0x8B, 0xDE, "𦍋耂肀𦘒𦥑卝衤见𧢲讠贝钅镸长门𨸏韦页风飞饣𩠐鱼鸟黄歯\uf907丷𠂇阝户钢"⟩,
  ⟨0x8C, 0x40, "倻淾𩱳龦㷉袏𤅎灷峵䬠𥇍㕙𥴰愢𨨲辧釶熑朙玺𣊁𪄇㲋𡦀䬐磤琂冮𨜏䀉橣𪊺䈣蘏𠩯稪𩥇𨫪靕灍匤"⟩,
  ⟨0x8C, 0x69, "𢁾鏴盙𨧣龧矝亣俰傼丯众龨吴綋墒壐𡶶庒庙忂𢜒斋"⟩,
  ⟨0x8C, 0xA1, "𣏹椙橃𣱣泿"⟩,
  ⟨0x8C, 0xA7, "爀𤔅玌㻛𤨓嬕璹讃𥲤𥚕窓篬糃繬苸薗龩袐龪躹龫迏蕟駠鈡龬𨶹𡐿䁱䊢娚"⟩,
  ⟨0x8C, 0xC9, "顨杫䉶圽"⟩,
  ⟨0x8C, 0xCE, "藖𤥻芿𧄍䲁𦵴嵻𦬕𦾾龭龮宖龯曧繛湗秊㶈䓃𣉖𢞖䎚䔶"⟩,
  ⟨0x8C, 0xE6, "峕𣬚諹屸㴒𣕑嵸龲煗䕘𤃬𡸣䱷㥸㑊𠆤𦱁諌侴𠈹妿腬顖𩣺弻"⟩,
  ⟨0x8D, 0x40, "𠮟"⟩,
  ⟨0x8D, 0x42, "𢇁𨥭䄂䚻𩁹㼇龳𪆵䃸㟖䛷𦱆䅼𨚲𧏿䕭㣔𥒚䕡䔛䶉䱻䵶䗪㿈𤬏㙡䓞䒽䇭崾嵈嵖㷼㠏嶤嶹㠠㠸幂庽"⟩,
  ⟨0x8D, 0x6B, "弥徃㤈㤔㤿㥍惗愽峥㦉憷憹懏㦸戬抐拥挘㧸嚱"⟩,
  ⟨0x8D, 0xA1, "㨃揢揻搇摚㩋擀崕嘡龟㪗斆㪽旿晓㫲暒㬢朖㭂枤栀㭘桊梄㭲㭱㭻椉楃牜楤榟榅㮼槖㯝橥橴橱檂"⟩,
  ⟨0x8D, 0xCA, "㯬檙㯲檫檵櫔櫶殁毁毪汵沪㳋洂洆洦涁㳯涤涱渕渘温溆𨧀溻滢滚齿滨滩漤漴㵆𣽁澁澾㵪㵵熷岙"⟩,
  ⟨0x8D, 0xF3, "㶊瀬㶑灐灔灯灿炉𠌥䏁㗱𠻘"⟩,
  ⟨0x8E, 0x40, "𣻗垾𦻓焾𥟠㙎榢𨯩孴穉𥣡𩓙穥穽𥦬窻窰竂竃燑𦒍䇊竚竝竪䇯咲𥰁笋筕笩𥌎𥳾箢筯莜𥮴𦱿篐萡箒"⟩,
  ⟨0x8E, 0x6A, "𥴠㶭𥱥蒒篺"⟩,
  ⟨0x8E, 0x70, "簵𥳁籄粃𤢂粦晽𤕸糉糇糦籴糳糵"⟩,
  ⟨0x8E, 0xA1, "繧䔝𦹄絝𦻖璍綉綫焵綳"⟩,
  ⟨0x8E, 0xAC, "𤁗𦀩緤㴓緵𡟹緥𨍭"⟩,
  ⟨0x8E, 0xB5, "𦄡𦅚繮纒䌫鑬縧罀罁罇礶𦋐駡羗𦍑羣𡙡𠁨䕜𣝦䔃𨌺翺𦒉"⟩,
  ⟨0x8E, 0xCE, "耈耝"⟩,
  ⟨0x8E, 0xD1, "耯𪂇𦳃耻耼聡𢜔䦉𦘦𣷣𦛨朥肧𨩈脇脚墰𢛶汿𦒘𤾸擧𡒊舘𡡞橓𤩥𤪕䑺舩𠬍𦩒𣵾俹𡓽蓢荢𦬊𤦧𣔰𡝳"⟩,
  ⟨0x8E, 0xFA, "𣷸芪椛芳䇛"⟩,
  ⟨0x8F, 0x40, "蕋苐茚𠸖𡞴㛁𣅽𣕚艻苢茘𣺋𦶣𦬅𦮗𣗎㶿茝嗬莅䔋𦶥莬"⟩,
  ⟨0x8F, 0x58, "菓㑾𦻔橗蕚㒖𦹂𢻯葘𥯤葱㷓䓤檧葊𣲵祘"⟩,
  ⟨0x8F, 0x6A, "𦮖𦹷𦹃蓞"⟩,
  ⟨0x8F, 0x6F, "莑䒠蒓蓤𥲑䉀𥳀䕃蔴嫲𦺙䔧蕳䔖枿蘖"⟩,
  ⟨0x8F, 0xA1, "𨘥𨘻藁𧂈蘂𡖂𧃍䕫䕪蘨㙈𡢢号𧎚虾蝱𪃸蟮𢰧螱蟚蠏噡虬桖䘏衅衆𧗠𣶹𧗤衞袜䙛袴袵揁装睷𧜏覇"⟩,
  ⟨0x8F, 0xCA, "覊"⟩,
  ⟨0x8F, 0xCD, "覧覼𨨥觧𧤤𧪽誜瞓釾誐𧩙竩𧬺𣾏䜓𧬸煼謌謟𥐰𥕥謿譌譍誩𤩺讐讛誯𡛟䘕衏貛𧵔𧶏貫㜥𧵓賖𧶘𧶽"⟩,
  ⟨0x8F, 0xF6, "贒贃𡤐賛灜贑𤳉㻐"⟩,
  ⟨0x90, 0x40, "趩𨀂𡀔𤦊㭼𨆼𧄌竧躭躶軃鋔輙輭𨍥𨐒辥錃𪊟𠩐辳䤪𨧞𨔽𣶻廸𣉢迹𪀔𨚼𨔁𢌥㦀𦻗逷𨔼𧪾遡𨕬𨘋邨"⟩,
  ⟨0x90, 0x69, "𨜓郄𨛦邮"⟩,
  ⟨0x90, 0x6E, "酧㫰醩釄粬𨤳𡺉鈎沟鉁鉢𥖹"⟩,
  ⟨0x90, 0x7B, "𨫆𣲛𨬌𥗛"⟩,
  ⟨0x90, 0xA1, "𠴱錬鍫𨫡𨯫炏嫃𨫢𨫥䥥鉄𨯬𨰹𨯿鍳鑛躼閅閦鐦閠濶䊹𢙺𨛘𡉼𣸮䧟氜陻隖䅬隣𦻕懚隶磵𨫠隽双䦡"⟩,
  ⟨0x90, 0xCA, "𦲸𠉴𦐐𩂯𩃥𤫑𡤕𣌊霱虂霶䨏䔽䖅𤫩灵孁霛"⟩,
  ⟨0x90, 0xDD, "𩇕靗孊𩇫靟鐥僐𣂷𣂼鞉鞟鞱鞾韀韒韠𥑬韮琜𩐳"⟩,
  ⟨0x90, 0xF2, "韵𩐝𧥺䫑頴頳顋顦㬎𧅵㵑𠘰𤅜"⟩,
  ⟨0x91, 0x40, "𥜆飊颷飈飇䫿𦴧𡛓喰飡飦飬鍸餹𤨩䭲𩡗𩤅駵騌騻騐驘𥜥㛄𩂱𩯕髠髢𩬅髴䰎鬔鬭𨘀倴鬴𦦨㣃𣁽魐"⟩,
  ⟨0x91, 0x69, "魀𩴾婅𡡣鮎𤉋鰂鯿鰌𩹨鷔𩾷𪆒𪆫𪃡𪄣𪇟鵾鶃𪄴鸎梈"⟩,
  ⟨0x91, 0xA1, "鷄𢅛𪆓𪈠𡤻𪈳鴹𪂹𪊴麐麕麞麢䴴麪麯𤍤黁㭠㧥㴝伲㞾𨰫鼂鼈䮖鐤𦶢鼗"⟩,
  ⟨0x91, 0xC0, "鼹嚟嚊齅馸𩂋韲葿齢齩竜龎爖䮾𤥵𤦻煷𤧸𤍈𤩑玞𨯚𡣺禟𨥾𨸶鍩鏳𨩄鋬鎁鏋𨥬𤒹爗㻫睲穃烐𤑳𤏸"⟩,
  ⟨0x91, 0xE9, "煾𡟯炣𡢾𣖙㻇𡢅𥐯𡟸㜢𡛻𡠹㛡𡝴𡣑𥽋㜣𡛀坛𤨥𡏾𡊨"⟩,
  ⟨0x92, 0x40, "𡏆𡒶蔃𣚦"⟩,
  ⟨0x92, 0x45, "葕𤦔𧅥𣸱𥕜𣻻𧁒䓴𣛮𩦝𦼦柹㜳㰕㷧塬𡤢栐䁗𣜿𤃡𤂋𤄏𦰡哋嚞𦚱嚒𠿟𠮨𠸍鏆𨬓鎜仸儫㠙𤐶亼𠑥𠍿"⟩,
  ⟨0x92, 0x6E, "佋侊𥙑婨𠆫𠏋㦙𠌊𠐔㐵伩𠋀𨺳𠉵諚𠈌亘"⟩,
  ⟨0x92, 0xA1, "働儍侢伃𤨎𣺊佂倮偬傁俌俥偘僼"⟩,
  ⟨0x92, 0xB3, "湶𣖕𣸹𣺿浲𡢄𣺉冨凃𠗠䓝𠒣𠒒𠒑赺𨪜𠜎剙劤𠡳勡"⟩,
  ⟨0x92, 0xC9, "䙺熌𤎌𠰠𤦬𡃤槑𠸝"⟩,
  ⟨0x92, 0xD2, "㻞璙琔瑖玘䮎𤪼𤂍叐㖄爏𤃉喴𠍅响𠯆圝鉝雴鍦埝垍坿㘾壋媙𨩆𡛺𡝯𡜐娬妸銏婾嫏娒𥥆𡧳𡡡𤊕㛵"⟩,
  ⟨0x92, 0xFB, "洅瑃娡𥺃"⟩,
  ⟨0x93, 0x40, "媁𨯗𠐓鏠璌𡌃焅䥲鐈𨧻鎽㞠尞岞幞幈𡦖𡥼𣫮廍孏𡤃𡤄㜁𡢠㛝𡛾㛓脪𨩇𡶺𣑲𨦨弌弎𡤧𡞫婫𡜻孄蘔"⟩,
  ⟨0x93, 0x69, "𧗽衠恾𢡠𢘫忛㺸𢖯𢖾𩂈𦽳懀𠀾𠁆𢘛憙憘恵𢲛𢴇𤛔𩅍"⟩,
  ⟨0x93, 0xA1, "摱𤙥𢭪㨩𢬢𣑐𩣪𢹸挷𪑛撶挱揑𤧣𢵧护𢲡搻敫楲㯴𣂎𣊭𤦉𣊫唍𣋠𡣙𩐿曎𣊉𣆳㫠䆐𥖄𨬢𥖏𡛼𥕛𥐥磮"⟩,
  ⟨0x93, 0xCA, "𣄃𡠪𣈴㑤𣈏𣆂𤋉暎𦴤晫䮓昰𧡰𡷫晣𣋒𣋡昞𥡲㣑𣠺𣞼㮙𣞢𣏾瓐㮖枏𤘪梶栞㯄檾㡣𣟕𤒇樳橒櫉欅𡤒"⟩,
  ⟨0x93, 0xF3, "攑梘橌㯗橺歗𣿀𣲚鎠鋲𨯪𨫋"⟩,
  ⟨0x94, 0x40, "銉𨀞𨧜鑧涥漋𤧬"⟩,
  ⟨0x94, 0x48, "𣽿㶏渄𤀼娽渊塇洤硂焻𤌚𤉶烱牐犇犔𤞏𤜥兹𤪤𠗫瑺𣻸𣙟𤩊𤤗𥿡㼆㺱𤫟𨰣𣼵悧㻳瓌琼鎇琷䒟𦷪䕑"⟩,
  ⟨0x94, 0x71, "疃㽣𤳙𤴆㽘畕癳𪗆㬙瑨𨫌𤦫𤦎㫻"⟩,
  ⟨0x94, 0xA1, "㷍𤩎㻿𤧅𤣳釺圲鍂𨫣𡡤僟𥈡𥇧睸𣈲眎眏睻𤚗𣞁㩞𤣰琸璛㺿𤪺𤫇䃈𤪖𦆮錇𥖁砞碍碈磒珐祙𧝁𥛣䄎"⟩,
  ⟨0x94, 0xCB, "蒖禥樭𣻺稺秴䅮𡛦䄲鈵秱𠵌𤦌𠊙𣶺𡝮㖗啫㕰㚪𠇔𠰍竢婙𢛵𥪯𥪜娍𠉛磰娪𥯆竾䇹籝籭䈑𥮳𥺼𥺦糍"⟩,
  ⟨0x94, 0xF4, "𤧹𡞰粎籼粮檲緜縇緓罎𦉡"⟩,
  ⟨0x95, 0x40, "𦅜𧭈綗𥺂䉪𦭵𠤖柖𠁎𣗏埄𦐒𦏸𤥢翝笧𠠬𥫩𥵃笌𥸎駦虅驣樜𣐿㧢𤧷𦖭騟𦖠蒀𧄧𦳑䓪脷䐂胆脉腂𦞴"⟩,
  ⟨0x95, 0x69, "飃𦩂艢艥𦩑葓𦶧蘐𧈛媆䅿𡡀嬫𡢡嫤𡣘蚠蜨𣶏蠭𧐢娂"⟩,
  ⟨0x95, 0xA1, "衮佅袇袿裦襥襍𥚃襔𧞅𧞄𨯵𨯙𨮜𨧹㺭蒣䛵䛏㟲訽訜𩑈彍鈫𤊄旔焩烄𡡅鵭貟賩𧷜妚矃姰䍮㛔踪躧"⟩,
  ⟨0x95, 0xCA, "𤰉輰轊䋴汘澻𢌡䢛潹溋𡟚鯩㚵𤤯邻"⟩,
  ⟨0x95, 0xDA, "啱䤆醻鐄𨩋䁢𨫼鐧𨰝𨰻蓥訫閙閧閗閖𨴴瑅㻂𤣿𤩂𤏪㻧𣈥随𨻧𨹦𨹥㻌𤧭𤩸𣿮琒瑫㻼靁𩂰"⟩,
  ⟨0x96, 0x40, "桇䨝𩂓𥟟"⟩,
  ⟨0x96, 0x45, "鍨𨦉𨰦𨬯𦎾銺嬑譩䤼珹𤈛鞛靱餸𠼦巁𨯅𤪲頟𩓚鋶𩗗釥䓀𨭐𤩧𨭤飜𨩅㼀鈪䤥萔餻饍𧬆㷽馛䭯馪驜"⟩,
  ⟨0x96, 0x6E, "𨭥𥣈檏騡嫾騯𩣱䮐𩥈馼䮽䮗鍽塲𡌂堢𤦸"⟩,
  ⟨0x96, 0xA1, "𡓨硄𢜟𣶸棅㵽鑘㤧慐𢞁𢥫愇鱏鱓鱻鰵鰐魿鯏𩸭鮟𪇵𪃾鴡䲮𤄄鸘䲰鴌𪆴𪃭𪃳𩤯鶥蒽𦸒𦿟𦮂藼䔳𦶤"⟩,
  ⟨0x96, 0xCA, "𦺄𦷰萠藮𦸀𣟗𦁤秢𣖜𣙀䤭𤧞㵢鏛銾鍈𠊿碹鉷鑍俤㑀遤𥕝砽硔碶硋𡝗𣇉𤥁㚚佲濚濙"⟩,
  ⟨0x96, 0xEE, "瀞吔𤆵垻壳垊鴖埗焴㒯𤆬燫𦱀𤾗"⟩,
  ⟨0x96, 0xFD, "𡞵𨩉"⟩,
  ⟨0x97, 0x40, "愌嫎娋䊼𤒈㜬䭻𨧼鎻鎸𡣖𠼝葲𦳀𡐓𤋺𢰦𤏁妔𣶷𦝁綨𦅛𦂤𤦹𤦋𨧺鋥珢㻩璴𨭣𡢟㻡𤪳櫘珳珻㻖𤨾𤪔"⟩,
  ⟨0x97, 0x69, "𡟙𤩦𠎧𡐤𤧥瑈𤤖炥𤥶銄珦鍟𠓾錱𨫎𨨖鎆𨯧𥗕䤵𨪂煫"⟩,
  ⟨0x97, 0xA1, "𤥃𠳿嚤𠘚𠯫𠲸唂秄𡟺緾𡛂𤩐𡡒䔮鐁㜊𨫀𤦭妰𡢿𡢃𧒄媡㛢𣵛㚰鉟婹𨪁𡡢鍴㳍𠪴䪖㦊僴㵩㵌𡎜煵䋻"⟩,
  ⟨0x97, 0xCA, "𨈘渏𩃤䓫浗𧹏灧沯㳖𣿭𣸭渂漌㵯𠏵畑㚼㓈䚀㻚䡱姄鉮䤾轁𨰜𦯀堒埈㛖𡑒烾𤍢𤩱𢿣𡊰𢎽梹楧𡎘𣓥"⟩,
  ⟨0x97, 0xF3, "𧯴𣛟𨪃𣟖𣏺𤲟樚𣚭𦲷萾䓟䓎"⟩,
  ⟨0x98, 0x40, "𦴦𦵑𦲂𦿞漗𧄉茽𡜺菭𦲀𧁓𡟛妉媂𡞳婡婱𡤅𤇼㜭姯𡜼㛇熎鎐暚𤊥婮娫𤊓樫𣻹𧜶𤑛𤋊焝𤉙𨧡侰𦴨峂"⟩,
  ⟨0x98, 0x69, "𤓎𧹍𤎽樌𤉖𡌄炦焳𤏩㶥泟勇𤩏繥姫崯㷳彜𤩝𡟟綤萦"⟩,
  ⟨0x98, 0xA1, "咅𣫺𣌀𠈔坾𠣕𠘙㿥𡾞𪊶瀃𩅛嵰玏糓𨩙𩐠俈翧狍猐𧫴猸猹𥛶獁獈㺩𧬘遬燵𤣲珡臶㻊県㻑沢国琙琞"⟩,
  ⟨0x98, 0xCA, "琟㻢㻰㻴㻺瓓㼎㽓畂畭畲疍㽼痈痜㿀癍㿗癴㿜発𤽜熈嘣覀塩䀝睃䀹条䁅㗛瞘䁪䁯属瞾矋売砘点"⟩,
  ⟨0x98, 0xF3, "砜䂨砹硇硑硦葈𥔵礳栃礲䄃"⟩,
  ⟨0x99, 0x40, "䄉禑禙辻稆込䅧窑䆲窼艹䇄竏竛䇏両筢筬筻簒簛䉠䉺类粜䊌粸䊔糭输烀𠳏総緔緐緽羮羴犟䎗耠"⟩,
  ⟨0x99, 0x69, "耥笹耮耱联㷌垴炠肷胩䏭脌猪脎脒畠脔䐁㬹腖腙腚"⟩,
  ⟨0x99, 0xA1, "䐓堺腼膄䐥膓䐭膥埯臁臤艔䒏芦艶苊苘苿䒰荗险榊萅烵葤惣蒈䔄蒾蓡蓸蔐蔸蕒䔻蕯蕰藠䕷虲蚒"⟩,
  ⟨0x99, 0xCA, "蚲蛯际螋䘆䘗袮裿褤襇覑𧥧訩訸誔誴豑賔賲贜䞘塟跃䟭仮踺嗘坔蹱嗵躰䠷軎転軤軭軲辷迁迊迌"⟩,
  ⟨0x99, 0xF3, "逳駄䢭飠鈓䤞鈨鉘鉫銱銮銿"⟩,
  ⟨0x9A, 0x40, "鋣鋫鋳鋴鋽鍃鎄鎭䥅䥑麿鐗匁鐝鐭鐾䥪鑔鑹锭関䦧间阳䧥枠䨤靀䨵鞲韂噔䫤惨颹䬙飱塄餎餙冴"⟩,
  ⟨0x9A, 0x69, "餜餷饂饝饢䭰駅䮝騼鬏窃魩鮁鯝鯱鯴䱭鰠㝯𡯂鵉鰺"⟩,
  ⟨0x9A, 0xA1, "黾噐鶓鶽鷀鷼银辶鹻麬麱麽黆铜黢黱黸竈齄𠂔𠊷𠎠椚铃妬𠓗塀铁㞹𠗕𠘕𠙶𡚺块煳𠫂𠫍𠮿呪吆𠯋"⟩,
  ⟨0x9A, 0xCA, "咞𠯻𠰻𠱓𠱥𠱼惧𠲍噺𠲵𠳝𠳭𠵯𠶲𠷈楕鰯螥𠸄𠸎𠻗𠾐𠼭𠹳尠𠾼帋𡁜𡁏𡁶朞𡁻𡂈𡂖㙇𡂿𡃓𡄯𡄻卤蒭"⟩,
  ⟨0x9A, 0xF3, "𡋣𡍵𡌶讁𡕷𡘙𡟃𡟇乸炻𡠭𡥪"⟩,
  ⟨0x9B, 0x40, "𡨭𡩅𡰪𡱰𡲬𡻈拃𡻕𡼕熘桕𢁅槩㛈𢉼𢏗𢏺𢜪𢡱𢥏苽𢥧𢦓𢫕覥𢫨辠𢬎鞸𢬿顇骽𢱌"⟩,
  ⟨0x9B, 0x62, "𢲈𢲷𥯨𢴈𢴒𢶷𢶕𢹂𢽴𢿌𣀳𣁦𣌟𣏞徱晈暿𧩹𣕧𣗳"⟩,
  ⟨0x9B, 0x77, "𤦺"⟩,
  ⟨0x9B, 0x79, "𣘚𣜖"⟩,
  ⟨0x9B, 0x7C, "𠍆墵朎"⟩,
  ⟨0x9B, 0xA1, "椘𣪧𧙗𥿢𣸑𣺹𧗾𢂚䣐䪸𤄙𨪚𤋮𤌍𤀻𤌴𤎖𤩅𠗊凒𠘑妟𡺨㮾𣳿𤐄𤓖垈𤙴㦛𤜯𨗨𩧉㝢𢇃譞𨭎"⟩,
  ⟨0x9B, 0xC7, "𤠒𤣻𤨕爉𤫀𠱸奥𤺥𤾆𠝹軚𥀬劏圿煱𥊙𥐙𣽊𤪧喼𥑆𥑮𦭒"⟩,
  ⟨0x9B, 0xDF, "㑳𥔿𧘲𥕞䜘𥕢𥕦𥟇𤤿𥡝偦㓻𣏌"⟩,
  ⟨0x9B, 0xED, "𥤃䝼𨥈𥪮𥮉𥰆𡶐垡煑"⟩,
  ⟨0x9B, 0xF7, "𦄂𧰒遖𦆲𤾚譢𦐂𦑊"⟩,
  ⟨0x9C, 0x40, "嵛𦯷"⟩,
  ⟨0x9C, 0x43, "𦒄𡤜諪𤧶𦒈𣿯𦔒䯀𦖿𦚵𢜛鑥𥟡憕娧晉"⟩,
  ⟨0x9C, 0x54, "嚹𤔡𦛼乪𤤴陖涏𦲽㘘襷𦞙𦡮𦐑𦡞"⟩,
  ⟨0x9C, 0x63, "𦣇筂𩃀𠨑𦤦"⟩,
  ⟨0x9C, 0x69, "𦤹穅"⟩,
  ⟨0x9C, 0x6C, "𦧺騦𦨭㙟𦑩𠀡禃𦨴𦭛崬𣔙"⟩,
  ⟨0x9C, 0x78, "𦮝䛐𦲤画补𦶮墶"⟩,
  ⟨0x9C, 0xA1, "㜜𢖍𧁋𧇍㱔𧊀𧊅銁𢅺𧊋錰𧋦𤧐氹钟𧑐𠻸蠧裵𢤦𨑳𡞱溸𤨪𡠠㦤㚹"⟩,
  ⟨0x9C, 0xBE, "䔿暶𩲭𩢤襃𧟌𧡘囖䃟𡘊㦡𣜯𨃨𡏅熭荦𧧝𩆨"⟩,
  ⟨0x9C, 0xD1, "䲷𧂯𨦫𧧽𧨊𧬋𧵦𤅺筃祾𨀉澵𪋟樃𨌘厢𦸇鎿栶靝𨅯𨀣𦦵𡏭𣈯𨁈嶅𨰰𨂃圕頣𨥉嶫𤦈斾槕叒𤪥𣾁㰑朶"⟩,
  ⟨0x9C, 0xFA, "𨂐𨃴𨄮𡾡𨅏"⟩,
  ⟨0x9D, 0x40, "𨆉𨆯𨈚𨌆𨌯𨎊㗊𨑨𨚪䣺揦𨥖砈鉕𨦸䏲𨧧䏟𨧨𨭆𨯔姸𨰉"⟩,
  ⟨0x9D, 0x58, "𨿅𩃬"⟩,
  ⟨0x9D, 0x5B, "𩄐𩄼㷷𩅞𤫊运犏嚋𩓧𩗩𩖰𩖸𩜲𩣑𩥉𩥪𩧃𩨨𩬎𩵚𩶛纟𩻸𩼣䲤镇𪊓熢𪋿䶑递𪗋䶜𠲜达嗁"⟩,
  ⟨0x9D, 0xA1, "辺𢒰边𤪓䔉繿潖檱仪㓤𨬬𧢝㜺躀𡟵𨀤𨭬𨮙𧨾𦚯㷫𧙕𣲷𥘵𥥖亚𥺁𦉘嚿𠹭踎孭𣺈𤲞揞"⟩,
  ⟨0x9D, 0xC5, "𡟶𡡻攰嘭𥱊吚𥌑㷆𩶘䱽嘢嘞罉𥻘奵𣵀蝰东𠿪𠵉𣚺脗鵞贘瘻鱅癎瞹鍅吲腈苷嘥脲萘肽嗪祢噃吖𠺝"⟩,
  ⟨0x9D, 0xEE, "㗎嘅嗱曱𨋢㘭甴嗰喺咗啲𠱁𠲖廐𥅈𠹶𢱢"⟩,
  ⟨0x9E, 0x40, "𠺢麫絚嗞𡁵抝靭咔賍燶酶揼掹揾啩𢭃鱲𢺳冚㓟𠶧冧呍唞唓癦踭𦢊疱肶蠄螆裇膶萜𡃁䓬猄𤜆宐茋"⟩,
  ⟨0x9E, 0x69, "𦢓噻𢛴𧴯𤆣𧵳𦻐𧊶酰𡇙鈈𣳼𪚩𠺬𠻹牦𡲢䝎𤿂𧿹𠿫䃺"⟩,
  ⟨0x9E, 0xA1, "鱝攟𢶠䣳𤟠𩵼𠿬𠸊"⟩,
  ⟨0x9E, 0xAA, "𧖣𠿭"⟩,
  ⟨0x9E, 0xAD, "𦁈𡆇熣纎鵐业丄㕷嬍沲卧㚬㧜卽㚥𤘘墚𤭮舭呋垪𥪕𠥹"⟩,
  ⟨0x9E, 0xC5, "㩒𢑥獴𩺬䴉鯭𣳾𩼰䱛𤾩𩖞𩿞葜𣶶𧊲𦞳𣜠挮紥𣻷𣸬㨪逈勌㹴㙺䗩𠒎癀嫰𠺶硺𧼮墧䂿噼鮋嵴癔𪐴麅"⟩,
  ⟨0x9E, 0xEE, "䳡"⟩,
  ⟨0x9E, 0xF0, "㟻愙𣃚𤏲"⟩,
  ⟨0x9E, 0xF5, "噝𡊩垧𤥣𩸆刴𧂮㖭"⟩,
  ⟨0x9E, 0xFE, "鵼"⟩,
  ⟨0x9F, 0x40, "籖鬹埞𡝬屓擓𩓐𦌵𧅤蚭𠴨𦴢𤫢𠵱"⟩,
  ⟨0x9F, 0x4F, "凾𡼏嶎霃𡷑麁遌笟鬂峑箣扨挵髿篏鬪籾"⟩,
  ⟨0x9F, 0x61, "籂粆鰕篼鬉"⟩,
  ⟨0x9F, 0x67, "鰛𤤾齚啳寃俽麘俲剠㸆勑坧偖妷帒韈鶫轜呩鞴饀鞺匬愰"⟩,
  ⟨0x9F, 0xA1, "椬叚鰊鴂䰻陁榀傦畆𡝭駚剳"⟩,
  ⟨0x9F, 0xAE, "酙隁酜"⟩,
  ⟨0x9F, 0xB2, "酑𨺗捿𦴣櫊嘑醎畺抅𠏼獏籰𥰡𣳽"⟩,
  ⟨0x9F, 0xC1, "𤤙盖鮝个𠳔莾衂"⟩,
  ⟨0x9F, 0xC9, "届槀"⟩,
  ⟨0x9F, 0xCC, "坺刟巵从氱𠇲伹咜哚劚趂㗾"⟩,
  ⟨0x9F, 0xD9, "㗳"⟩,
  ⟨0x9F, 0xDB, "歒酼龥鮗頮颴骺麨麄煺笔"⟩,
  ⟨0x9F, 0xE7, "毺蠘罸"⟩,
  ⟨0x9F, 0xEB, "嘠𪙊蹷齓"⟩,
  ⟨0x9F, 0xF0, "跔蹏鸜踁抂𨍽踨蹵竓𤩷稾磘泪詧瘇"⟩,
  ⟨0xA0, 0x40, "𨩚鼦泎蟖痃𪊲硓咢贌狢獱謭猂瓱賫𤪻蘯徺袠䒷"⟩,
  ⟨0xA0, 0x55, "𡠻𦸅"⟩,
  ⟨0xA0, 0x58, "詾𢔛"⟩,
  ⟨0xA0, 0x5B, "惽癧髗鵄鍮鮏蟵"⟩,
  ⟨0xA0, 0x64, "賷猬霡鮰㗖犲䰇籑饊𦅙慙䰄麖慽"⟩,
  ⟨0xA0, 0x73, "坟慯抦戹"⟩,
  ⟨0xA0, 0x78, "㩜懢厪𣏵捤栂㗒"⟩,
  ⟨0xA0, 0xA1, "嵗𨯂迚𨸹"⟩,
  ⟨0xA0, 0xA6, "僙𡵆礆匲阸𠼻䁥"⟩,
  ⟨0xA0, 0xAE, "矾"⟩,
  ⟨0xA0, 0xB0, "糂𥼚糚稭聦聣絍甅瓲覔舚朌聢𧒆聛瓰脃眤覉𦟌畓𦻑螩蟎臈螌詉貭譃眫瓸蓚㘵榲趦"⟩,
  ⟨0xA0, 0xD4, "覩"⟩,
  ⟨0xA0, 0xD6, "涹蟁𤀑瓧㷛煶悤憜㳑"⟩,
  ⟨0xA0, 0xE0, "恷"⟩,
  ⟨0xA0, 0xE2, "罱𨬭"⟩,
  ⟨0xA0, 0xE5, "惩䭾删㰘𣳇𥻗𧙖𥔱𡥄𡋾𩤃𦷜𧂭峁𦆭𨨏𣙷𠃮𦡆𤼎䕢嬟𦍌齐麦𦉫"⟩,
  ⟨0xC6, 0xA1, "①②③④⑤⑥⑦⑧⑨⑩⑴⑵⑶⑷⑸⑹⑺⑻⑼⑽ⅰⅱⅲⅳⅴⅵⅶⅷⅸⅹ丶丿亅亠冂冖冫勹匸卩厶"⟩,
  ⟨0xC6, 0xCA, "夊宀巛⼳广"⟩,
  ⟨0xC6, 0xD0, "彐彡攴"⟩,
  ⟨0xC6, 0xD4, "疒"⟩,
  ⟨0xC6, 0xD6, "辵"⟩,
  ⟨0xC6, 0xD8, "¨ˆヽヾゝゞ"⟩,
  ⟨0xC6, 0xE0, "々〆〇ー［］✽ぁあぃいぅうぇえぉおかがきぎくぐけげこごさざしじ"⟩,
  ⟨0xC7, 0x40, "すずせぜそぞただちぢっつづてでとどなにぬねのはばぱひびぴふぶぷへべぺほぼぽまみむめ"⟩,
  ⟨0xC7, 0x69, "もゃやゅゆょよらりるれろゎわゐゑをんァアィイ"⟩,
  ⟨0xC7, 0xA1, "ゥウェエォオカガキギクグケゲコゴサザシジスズセゼソゾタダチヂッツヅテデトドナニヌネ"⟩,
  ⟨0xC7, 0xCA, "ノハバパヒビピフブプヘベペホボポマミムメモャヤュユョヨラリルレロヮワヰヱヲンヴヵヶ"⟩,
  ⟨0xC7, 0xF3, "АБВГДЕЁЖЗИЙК"⟩,
  ⟨0xC8, 0x40, "ЛМНОПРСТУФХЦЧШЩЪЫЬЭЮЯабвгдеёжзийклмнопрст"⟩,
  ⟨0xC8, 0x69, "уфхцчшщъыьэюя⇧↸↹㇏𠃌乚𠂊刂䒑"⟩,
  ⟨0xC8, 0xA1, "龰冈龱𧘇"⟩,
  ⟨0xC8, 0xCD, "￢￤＇＂㈱№℡゛゜⺀⺄⺆⺇⺈⺊⺌⺍⺕⺜⺝⺥⺧⺪⺬⺮⺶⺼⺾⻆⻊⻌⻍⻏⻖⻗⻞⻣"⟩,
  ⟨0xC8, 0xF5, "ʃɐɛɔɵœøŋʊɪ"⟩,
  ⟨0xF9, 0xD6, "碁銹裏墻恒粧嫺╔╦╗╠╬╣╚╩╝╒╤╕╞╪╡╘╧╛╓╥╖╟╫╢╙╨╜║═╭╮╰╯￭"⟩,
  ⟨0xFA, 0x40, "𠕇鋛𠗟𣿅蕌䊵珯况㙉𤥂𨧤鍄𡧛苮𣳈砼杄拟𤤳𨦪𠊠𦮳𡌅侫𢓭倈𦴩𧪄𣘀𤪱𢔓"⟩,
  ⟨0xFA, 0x60, "𠍾徤𠎀𠍇滛𠐟"⟩,
  ⟨0xFA, 0x67, "儁㑺儎顬㝃萖𤦤𠒇兠𣎴兪𠯿𢃼𠋥𢔰𠖎𣈳𡦃宂蝽𠖳𣲙冲冸"⟩,
  ⟨0xFA, 0xA1, "鴴凉减凑㳜凓𤪦决凢卂凭菍椾𣜭彻刋刦刼劵剗劔効勅簕蕂勠蘍𦬓"⟩,
  ⟨0xFA, 0xBE, "𨫞啉滙𣾀𠥔𣿬匳"⟩,
  ⟨0xFA, 0xC6, "𠯢泋𡜦栛珕恊㺪㣌𡛨燝䒢卭却𨚫卾"⟩,
  ⟨0xFA, 0xD6, "𡖖𡘓矦厓𨪛厠厫厮玧𥝲㽙玜叁叅汉义埾叙㪫𠮏叠𣿫𢶣叶𠱷吓灹唫晗浛呭𦭓𠵴啝咏咤䞦𡜍𠻝㶴𠵍"⟩,
  ⟨0xFB, 0x40, "𨦼𢚘啇䳭启琗喆喩"⟩,
  ⟨0xFB, 0x49, "𡣗𤀺䕒𤐵暳𡂴嘷曍𣊊暤暭噍噏磱囱鞇叾圀囯园𨭦㘣𡉏坆𤆥汮炋坂㚱𦱾埦𡐖堃𡑔𤍣堦𤯵塜墪㕡壠"⟩,
  ⟨0xFB, 0x72, "壜𡈼壻寿坃𪅐𤉸鏓㖡够梦㛃湙"⟩,
  ⟨0xFB, 0xA1, "𡘾娤啓𡚒蔅姉𠵎𦲁𦴪𡟜姙𡟻𡞲𦶦浱𡠨𡛕姹𦹅媫婣㛦𤦩"⟩,
  ⟨0xFB, 0xB9, "㜈媖瑥嫓𦾡𢕔㶅𡤑㜲𡚸広勐孶斈孼𧨎䀄䡝𠈄寕慠𡨴𥧌𠖥寳宝䴐尅𡭄尓珎尔𡲥𦬨屉䣝岅峩峯嶋𡷹"⟩,
  ⟨0xFB, 0xE2, "𡸷崐崘嵆𡺤岺巗苼㠭𤤁𢁉𢅳芇㠶㯂帮檊"⟩,
  ⟨0xFB, 0xF4, "幺𤒼𠳓厦亷"⟩,
  ⟨0xFB, 0xFA, "厨𡝱帉廴𨒂"⟩,
  ⟨0xFC, 0x40, "廹廻㢠廼栾鐛弍𠇁弢㫞䢮𡌺强𦢈𢏐"⟩,
  ⟨0xFC, 0x50, "𢑱彣鞽𦹮彲鍀𨨶徧嶶㵟𥉐𡽪𧃸𢙨釖𠊞𨨩怱暅𡡷㥣㷇㘹垐𢞴祱㹀悞"⟩,
  ⟨0xFC, 0x6D, "悳𤦂𤦏𧩓璤僡媠慤萤慂慈𦻒憁凴𠙖憇宪𣾷"⟩,
  ⟨0xFC, 0xA1, "𢡟懓𨮝𩥝懐㤲𢦀𢣁怣慜攞掋𠄘担𡝰拕𢸍捬𤧟㨗搸揸𡎎𡟼"⟩,
  ⟨0xFC, 0xBA, "澊𢸶頔𤂌𥜝擡擥鑻㩦携㩗敍漖𤨨𤨣斅敭敟𣁾斵𤥀䬷旑䃘𡠩无旣忟𣐀昘𣇷𣇸晄𣆤𣆥晋𠹵晧𥇦晳"⟩,
  ⟨0xFC, 0xE3, "𡸽𣈱𨗴𣇈𥌓矅𢣷馤朂𤎜𤨡㬫槺𣟂"⟩,
  ⟨0xFC, 0xF2, "杧杢𤇍𩃭柗䓩栢湐鈼栁𣏦𦶠桝"⟩,
  ⟨0xFD, 0x40, "𣑯槡樋𨫟楳棃𣗍椁椀㴲㨁𣘼㮀枬楡𨩊䋼椶榘㮡𠏉荣傐槹𣙙𢄪橅𣜃檝㯳枱櫈𩆜㰍欝𠤣惞欵歴𢟍溵"⟩,
  ⟨0xFD, 0x69, "𣫛𠎵𡥘㝀吡𣭚毡𣻼毜氷𢒋𤣱𦭑汚舦汹𣶼䓅𣶽𤆤𤤌𤤀"⟩,
  ⟨0xFD, 0xA1, "𣳉㛥㳫𠴲鮃𣇹𢒑羏样𦴥𦶡𦷫涖浜湼漄𤥿𤂅𦹲蔳𦽴凇"⟩,
  ⟨0xFD, 0xB9, "萮𨬡"⟩,
  ⟨0xFD, 0xBC, "𣸯瑓𣾂秌湏媑𣁋濸㜍澝𣸰滺𡒗𤀽䕕鏰潄潜㵎潴𩅰㴻澟𤅄濓𤂑𤅕𤀹𣿰𣾴𤄿凟𤅖𤅗𤅀𦇝灋灾炧炁烌"⟩,
  ⟨0xFD, 0xE5, "烕烖烟䄄㷨熴熖𤉷焫煅媈煊"⟩,
  ⟨0xFD, 0xF2, "岜𤍥煏鍢𤋁焬𤑚𤨧𤨢熺𨯨炽爎"⟩,
  ⟨0xFE, 0x40, "鑂爕夑鑃爤鍁𥘅爮牀𤥴梽牕牗㹕𣁄栍漽犂"⟩,
  ⟨0xFE, 0x53, "猫𤠣𨠫䣭𨠄猨献珏玪𠰺𦨮珉瑉𤇢𡛧𤨤昣㛅𤦷𤦍𤧻珷琕椃𤨦琹𠗃㻗"⟩,
  ⟨0xFE, 0x70, "𢢭瑠𨺲瑇珤瑶莹瑬㜰瑴鏱樬璂䥓𤪌"⟩,
  ⟨0xFE, 0xA1, "𤅟𤩹𨮏孆𨰃𡢞瓈𡦈甎"⟩,
  ⟨0xFE, 0xAB, "甞𨻙𡩋寗𨺬鎅畍畊畧畮𤾂㼄𤴓疎瑝疞疴瘂瘬癑癏癯癶𦏵皐臯㟸𦤑𦤎皡皥皷盌𦾟葢𥂝𥅽𡸜眞眦着"⟩,
  ⟨0xFE, 0xD4, "撯𥈠睘𣊬瞯𨥤𨥨𡛁矴"⟩,
  ⟨0xFE, 0xDE, "𡍶𤨒棊碯磇磓隥礮𥗠磗礴碱𧘌辸袄𨬫𦂃𢘜禆褀椂禀𥡗禝𧬹礼禩渪𧄦㺨秆𩄍秔"⟩]

end ConfigGate.Text.Charset.Grid
