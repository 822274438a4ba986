import ContractVerifier.Charset.Runs

set_option autoImplicit false

/-! # Extensions of GB 2312

Signs and characters for compatibility that came with the extensions of GB 2312.
-/

namespace ContractVerifier.Charset

/-- Signs and characters of the first extension by their two bytes. In rows of GB 2312 they are in
the place of others, or besides. -/
def gbkSigns : Runs := .ofTable
  "A1A4 ·  A1AA —  A2A1 ⅰⅱⅲⅳⅴⅵⅶⅷⅸⅹ  A6E0 ︵︶︹︺︿﹀︽︾﹁﹂﹃﹄  A6EE ︻︼︷︸︱  A6F4 ︳︴
   A840 ˊˋ˙–―‥‵℅℉↖↗↘↙∕∟∣≒≦≧⊿═║╒╓╔╕╖╗╘╙╚╛╜╝╞╟╠╡╢╣╤╥╦╧╨╩╪╫╬╭╮╯╰╱╲╳▁▂▃▄▅▆▇
   A880 █▉▊▋▌▍▎▏▓▔▕▼▽◢◣◤◥☉⊕〒〝〞  A8BB ɑ  A8BD ńň  A8C0 ɡ  A940 〡〢〣〤〥〦〧〨〩㊣㎎㎏㎜㎝㎞㎡㏄㏎㏑㏒㏕︰￢￤  A959 ℡㈱
   A95C ‐  A960 ー゛゜ヽヾ〆ゝゞ﹉﹊﹋﹌﹍﹎﹏﹐﹑﹒﹔﹕﹖﹗﹙﹚﹛﹜﹝﹞﹟﹠﹡  A980 ﹢﹣﹤﹥﹦﹨﹩﹪﹫  A996 〇  FD9C 郎凉秊裏隣
   FE40 兀嗀﨎﨏﨑﨓﨔礼﨟蘒﨡﨣﨤﨧﨨﨩"

/-- Signs and characters of the second extension by their two bytes. -/
def gb18030Signs : Runs := .ofTable
  "A2E3 €  A8BF ǹ  A989 〾⿰⿱⿲⿳⿴⿵⿶⿷⿸⿹⿺⿻  FE50 ⺁  FE54 ⺄㑳㑇⺈⺋  FE5A 㖞㘚㘎⺌⺗㥮㤘  FE62 㧏㧟㩳㧐  FE68 㭎㱮㳠⺧
   FE6E ⺪䁖䅟⺮䌷⺳⺶⺷  FE77 䎱䎬⺻䏝䓖䙡䙌  FE80 䜣䜩䝼䞍⻊䥇䥺䥽䦂䦃䦅䦆䦟䦛䦷䦶  FE92 䲣䲟䲠䲡䱷䲢䴓䴔䴕䴖䴗䴘䴙䶮"

end ContractVerifier.Charset
