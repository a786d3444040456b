import ConfigGate.Text.Charset.Grid

namespace ConfigGate.Text.Charset.Grid

/-- The signs that GBK has beyond GB 2312, by their bytes. -/
def gbkSigns : Grid := [
  ⟨0xA2, 0xA1, "ⅰⅱⅲⅳⅴⅵⅶⅷⅸⅹ"⟩,
  ⟨0xA6, 0xE0, "︵︶︹︺︿﹀︽︾﹁﹂﹃﹄"⟩,
  ⟨0xA6, 0xEE, "︻︼︷︸︱"⟩,
  ⟨0xA6, 0xF4, "︳︴"⟩,
  ⟨0xA8, 0x40, "ˊˋ˙–―‥‵℅℉↖↗↘↙∕∟∣≒≦≧⊿═║╒╓╔╕╖╗╘╙╚╛╜╝╞╟╠╡╢╣╤"⟩,
  ⟨0xA8, 0x69, "╥╦╧╨╩╪╫╬╭╮╯╰╱╲╳▁▂▃▄▅▆▇"⟩,
  ⟨0xA8, 0x80, "█▉▊▋▌▍▎▏▓▔▕▼▽◢◣◤◥☉⊕〒〝〞"⟩,
  ⟨0xA8, 0xBB, "ɑ"⟩,
  ⟨0xA8, 0xBD, "ńň"⟩,
  ⟨0xA8, 0xC0, "ɡ"⟩,
  ⟨0xA9, 0x40, "〡〢〣〤〥〦〧〨〩㊣㎎㎏㎜㎝㎞㎡㏄㏎㏑㏒㏕︰￢￤"⟩,
  ⟨0xA9, 0x59, "℡㈱"⟩,
  ⟨0xA9, 0x5C, "‐"⟩,
  ⟨0xA9, 0x60, "ー゛゜ヽヾ〆ゝゞ﹉﹊﹋﹌﹍﹎﹏﹐﹑﹒﹔﹕﹖﹗﹙﹚﹛﹜﹝﹞﹟﹠﹡"⟩,
  ⟨0xA9, 0x80, "﹢﹣﹤﹥﹦﹨﹩﹪﹫"⟩,
  ⟨0xA9, 0x96, "〇"⟩]

/-- Characters that have taken the place of code points for private use, by the two bytes of these. -/
def reassigned : Grid := [
  ⟨0xE7, 0x6C, "€"⟩,
  ⟨0xE7, 0xC8, "ǹ"⟩,
  ⟨0xE7, 0xE7, "〾⿰⿱⿲⿳⿴⿵⿶⿷⿸⿹⿺⿻"⟩,
  ⟨0xE8, 0x15, "⺁"⟩,
  ⟨0xE8, 0x19, "⺄㑳㑇⺈⺋"⟩,
  ⟨0xE8, 0x1F, "㖞㘚㘎⺌⺗㥮㤘"⟩,
  ⟨0xE8, 0x27, "㧏㧟㩳㧐"⟩,
  ⟨0xE8, 0x2D, "㭎㱮㳠⺧"⟩,
  ⟨0xE8, 0x33, "⺪䁖䅟⺮䌷⺳⺶⺷"⟩,
  ⟨0xE8, 0x3C, "䎱䎬⺻䏝䓖䙡䙌"⟩,
  ⟨0xE8, 0x44, "䜣䜩䝼䞍⻊䥇䥺䥽䦂䦃䦅䦆䦟䦛䦷䦶"⟩,
  ⟨0xE8, 0x56, "䲣䲟䲠䲡䱷䲢䴓䴔䴕䴖䴗䴘䴙䶮"⟩]

end ConfigGate.Text.Charset.Grid
