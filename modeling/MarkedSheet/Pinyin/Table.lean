import MarkedSheet.Pinyin.Lexicon

/-!
# Some readings of Chinese

The dictionary that the program starts with. It is a cut-down stand-in for the dictionaries of
pypinyin, which have the readings of all characters and some tens of thousands of phrases: it has 44
characters, each with its usual reading, and the phrases of no other characters. Tones are left out.
-/

namespace MarkedSheet

namespace Pinyin

/-- The usual readings of a few characters. -/
def usualReadings : List (Char × String) := [
  ('火', "huo"), ('球', "qiu"), ('英', "ying"), ('雄', "xiong"), ('绿', "lv"), ('重', "zhong"),
  ('楼', "lou"), ('剑', "jian"), ('技', "ji"), ('能', "neng"), ('伤', "shang"), ('害', "hai"),
  ('单', "dan"), ('位', "wei"), ('物', "wu"), ('品', "pin"), ('名', "ming"), ('字', "zi"),
  ('长', "zhang"), ('度', "du"), ('银', "yin"), ('行', "xing"), ('走', "zou"), ('音', "yin"),
  ('乐', "le"), ('快', "kuai"), ('成', "cheng"), ('量', "liang"), ('复', "fu"), ('女', "nv"),
  ('略', "lve"), ('一', "yi"), ('不', "bu"), ('中', "zhong"), ('国', "guo"), ('人', "ren"),
  ('大', "da"), ('小', "xiao"), ('了', "le"), ('得', "de"), ('地', "di"), ('的', "de"),
  ('说', "shuo"), ('明', "ming")]

/-- The syllables of the phrases of these characters. -/
def usualPhrases : List (String × String) := [
  ("一了", "yi liao"), ("一度", "yi du"), ("一得", "yi de"), ("一成", "yi cheng"),
  ("一行", "yi xing"), ("一行人", "yi xing ren"), ("不一", "bu yi"), ("不中", "bu zhong"),
  ("不了", "bu liao"), ("不单", "bu dan"), ("不大", "bu da"), ("不得", "bu de"),
  ("不得不", "bu de bu"), ("不得了", "bu de le"), ("不快", "bu kuai"), ("不成", "bu cheng"),
  ("不明", "bu ming"), ("不能", "bu neng"), ("不能不", "bu neng bu"), ("不行", "bu xing"),
  ("中伤", "zhong shang"), ("中国", "zhong guo"), ("中国人", "zhong guo ren"),
  ("中国字", "zhong guo zi"), ("中度", "zhong du"), ("中技", "zhong ji"), ("中的", "zhong de"),
  ("中行", "zhong hang"), ("中长", "zhong chang"), ("乐得", "le de"), ("乐音", "yue yin"),
  ("了不得", "liao bu de"), ("了了", "liao liao"), ("了得", "liao de"), ("人中", "ren zhong"),
  ("人大", "ren da"), ("位能", "wei neng"), ("单一", "dan yi"), ("单位", "dan wei"),
  ("单单", "dan dan"), ("单名", "dan ming"), ("单字", "dan zi"), ("单行", "dan xing"),
  ("单说", "dan shuo"), ("名单", "ming dan"), ("品绿", "pin lv"), ("品行", "pin xing"),
  ("国乐", "guo yue"), ("国度", "guo du"), ("地位", "di wei"), ("地名", "di ming"),
  ("地物", "di wu"), ("地球", "di qiu"), ("大一", "da yi"), ("大不了", "da bu liao"),
  ("大人", "da ren"), ("大人物", "da ren wu"), ("大名", "da ming"), ("大国", "da guo"),
  ("大地", "da di"), ("大大", "da da"), ("大字", "da zi"), ("大小", "da xiao"), ("大度", "da du"),
  ("大成", "da cheng"), ("大明", "da ming"), ("大火", "da huo"), ("大略", "da lve"),
  ("大量", "da liang"), ("女人", "nv ren"), ("女能人", "nv neng ren"), ("小女", "xiao nv"),
  ("小小说", "xiao xiao shuo"), ("小说", "xiao shuo"), ("小量", "xiao liang"),
  ("度量", "du liang"), ("快乐", "kuai le"), ("快行", "kuai xing"), ("成行", "cheng hang"),
  ("成说", "cheng shuo"), ("成长", "cheng zhang"), ("技能", "ji neng"), ("明了", "ming liao"),
  ("明度", "ming du"), ("明说", "ming shuo"), ("能人", "neng ren"), ("能量", "neng liang"),
  ("行乐", "xing le"), ("行人", "xing ren"), ("行走", "xing zou"), ("行长", "hang zhang"),
  ("说不得", "shuo bu de"), ("说明", "shuo ming"), ("重伤", "zhong shang"), ("重名", "zhong ming"),
  ("重地", "zhong di"), ("重复", "chong fu"), ("重大", "zhong da"), ("重楼", "zhong lou"),
  ("重物", "zhong wu"), ("重行", "chong xing"), ("重重", "chong chong"), ("重量", "zhong liang"),
  ("重音", "zhong yin"), ("量度", "liang du"), ("量能", "liang neng"), ("银行", "yin hang"),
  ("长乐", "chang le"), ("长剑", "chang jian"), ("长大", "zhang da"), ("长女", "zhang nv"),
  ("长度", "chang du"), ("长成", "zhang cheng"), ("长物", "chang wu"), ("长长", "chang chang"),
  ("长音", "chang yin"), ("雄大", "xiong da"), ("音乐", "yin yue"), ("音量", "yin liang")]

/-- The dictionary before anything is added to it. -/
def Dictionary.usual : Dictionary where
  phrases := usualPhrases.map fun (word, syllables) => (word.toList, Text.words syllables.toList)
  readings := usualReadings.map fun (c, reading) => (c, reading.toList)

/-- The lexicon that the program starts with. -/
def Lexicon.usual : Lexicon := .byPhrases .usual

end Pinyin

end MarkedSheet
