import DeclarationFetch.Text.Grid.Big5
import DeclarationFetch.Text.Grid.Gb2312
import DeclarationFetch.Text.Grid.HongKong

/-!
# Chinese character sets

The places of the grid of simplified Chinese, alone or with the ideographs that the grid has not, in their
order, and with sequences of four bytes for all other characters; and the places of the grid of
traditional Chinese, with what Windows and Hong Kong make of it.
-/

namespace DeclarationFetch.Text.Charset

/-! ## Simplified Chinese -/

def chinese? (a b : Nat) : Option Char := Grid.gb2312.char? (a - 0xA0) (b - 0xA0)

def readChinese : List Nat → Reading := afterAscii fun
  | a :: b :: _ => .ofChar? (chinese? a b) 2
  | _ => .short

/-- Leaves the numbers of a sorted list out of a run. -/
def runWithout : Nat → Nat → List Nat → List Nat
  | 0, _, _ => []
  | left + 1, n, [] => n :: runWithout left (n + 1) []
  | left + 1, n, m :: rest =>
      if n = m then runWithout left (n + 1) rest else n :: runWithout left (n + 1) (m :: rest)

/-- The ideographs that the grid has not, in their order. -/
def furtherIdeographs : Thunk (Array Nat) := Thunk.mk fun _ =>
  let known := ((Grid.gb2312.between 16 87).map Char.toNat).mergeSort
  (runWithout 20902 0x4E00 known).toArray

/-- The ideographs after those in order. -/
def lastIdeographs : List Char :=
  ([0xF92C, 0xF979, 0xF995, 0xF9E7, 0xF9F1, 0xFA0C, 0xFA0D, 0xFA0E, 0xFA0F, 0xFA11, 0xFA13, 0xFA14,
    0xFA18, 0xFA1F, 0xFA20, 0xFA21, 0xFA23, 0xFA24, 0xFA27, 0xFA28, 0xFA29] : List Nat).map Char.ofNat

def ideograph? (n : Nat) : Option Char :=
  let further := furtherIdeographs.get
  if n < further.size then (further[n]?).map Char.ofNat else lastIdeographs[n - further.size]?

/-- The number of a second byte: those from 0x40 on without 0x7F. -/
def lowTrail? (b : Nat) : Option Nat :=
  if 0x40 ≤ b ∧ b ≤ 0x7E then some (b - 0x40)
  else if 0x80 ≤ b ∧ b ≤ 0xFE then some (b - 0x41)
  else none

/-- Symbols beside the grid, each text from a lead byte and a second byte on. -/
def furtherSymbols : List (Nat × Nat × String) := [
  (0xA1, 0xA4, "·"), (0xA1, 0xAA, "—"), (0xA2, 0xA1, "ⅰⅱⅲⅳⅴⅵⅶⅷⅸⅹ"),
  (0xA6, 0xE0, "︵︶︹︺︿﹀︽︾﹁﹂﹃﹄"), (0xA6, 0xEE, "︻︼︷︸︱"), (0xA6, 0xF4, "︳︴"),
  (0xA8, 0x40, "ˊˋ˙–―‥‵℅℉↖↗↘↙∕∟∣≒≦≧⊿═║╒╓╔╕╖╗╘╙╚╛╜╝╞╟╠╡╢╣╤╥╦╧╨╩╪╫╬╭╮╯╰╱╲╳▁▂▃▄▅▆▇"),
  (0xA8, 0x80, "█▉▊▋▌▍▎▏▓▔▕▼▽◢◣◤◥☉⊕〒〝〞"), (0xA8, 0xBB, "ɑ"), (0xA8, 0xBD, "ńň"), (0xA8, 0xC0, "ɡ"),
  (0xA9, 0x40, "〡〢〣〤〥〦〧〨〩㊣㎎㎏㎜㎝㎞㎡㏄㏎㏑㏒㏕︰￢￤"), (0xA9, 0x59, "℡㈱"), (0xA9, 0x5C, "‐"),
  (0xA9, 0x60, "ー゛゜ヽヾ〆ゝゞ﹉﹊﹋﹌﹍﹎﹏﹐﹑﹒﹔﹕﹖﹗﹙﹚﹛﹜﹝﹞﹟﹠﹡"), (0xA9, 0x80, "﹢﹣﹤﹥﹦﹨﹩﹪﹫"),
  (0xA9, 0x96, "〇")]

def inTexts? (texts : List (Nat × Nat × String)) (a b : Nat) : Option Char :=
  texts.findSome? fun (lead, trail, text) =>
    if lead = a ∧ trail ≤ b then text.toList[b - trail]? else none

/-- Lead bytes up to 0xA0 have all second bytes, and those from 0xAA on the ones below 0xA1. -/
def extended? (a b : Nat) : Option Char := do
  let n ← lowTrail? b
  if 0x81 ≤ a ∧ a ≤ 0xA0 then ideograph? (190 * (a - 0x81) + n)
  else if 0xAA ≤ a ∧ a ≤ 0xFE ∧ n < 96 then ideograph? (190 * 32 + 96 * (a - 0xAA) + n)
  else (inTexts? furtherSymbols a b).or (chinese? a b)

def readExtendedChinese : List Nat → Reading := afterAscii fun
  | a :: b :: _ => .ofChar? (extended? a b) 2
  | _ => .short

/-! ## Simplified Chinese with all characters -/

def latestSymbols : List (Nat × Nat × String) := [
  (0xA2, 0xE3, "€"), (0xA8, 0xBF, "ǹ"), (0xA9, 0x89, "〾⿰⿱⿲⿳⿴⿵⿶⿷⿸⿹⿺⿻"),
  (0xFE, 0x50, "⺁"), (0xFE, 0x54, "⺄㑳㑇⺈⺋"), (0xFE, 0x5A, "㖞㘚㘎⺌⺗㥮㤘"), (0xFE, 0x62, "㧏㧟㩳㧐"),
  (0xFE, 0x68, "㭎㱮㳠⺧"), (0xFE, 0x6E, "⺪䁖䅟⺮䌷⺳⺶⺷"), (0xFE, 0x77, "䎱䎬⺻䏝䓖䙡䙌"),
  (0xFE, 0x80, "䜣䜩䝼䞍⻊䥇䥺䥽䦂䦃䦅䦆䦟䦛䦷䦶"), (0xFE, 0x92, "䲣䲟䲠䲡䱷䲢䴓䴔䴕䴖䴗䴘䴙䶮")]

/-- Gaps of the places so far, as lead byte and first and last second byte. They hold characters for
private use, which go on from one gap to the next. -/
def gaps : List (Nat × Nat × Nat) := [
  (0xA2, 0xAB, 0xB0), (0xA2, 0xE3, 0xE4), (0xA2, 0xEF, 0xF0), (0xA2, 0xFD, 0xFE),
  (0xA4, 0xF4, 0xFE), (0xA5, 0xF7, 0xFE), (0xA6, 0xB9, 0xC0), (0xA6, 0xD9, 0xDF),
  (0xA6, 0xEC, 0xED), (0xA6, 0xF3, 0xF3), (0xA6, 0xF6, 0xFE), (0xA7, 0xC2, 0xD0),
  (0xA7, 0xF2, 0xFE), (0xA8, 0x96, 0xA0), (0xA8, 0xBC, 0xBC), (0xA8, 0xBF, 0xBF),
  (0xA8, 0xC1, 0xC4), (0xA8, 0xEA, 0xFE), (0xA9, 0x58, 0x58), (0xA9, 0x5B, 0x5B),
  (0xA9, 0x5D, 0x5F), (0xA9, 0x89, 0x95), (0xA9, 0x97, 0xA3), (0xA9, 0xF0, 0xFE),
  (0xD7, 0xFA, 0xFE), (0xFE, 0x50, 0xA0)]

def inGap? (a b : Nat) : List (Nat × Nat × Nat) → Nat → Option Char
  | [], _ => none
  | (lead, first, last) :: rest, code =>
      if a = lead ∧ first ≤ b ∧ b ≤ last then (lowTrail? b).bind fun n =>
        (lowTrail? first).map fun m => Char.ofNat (code + (n - m))
      else inGap? a b rest (code + ((lowTrail? last).getD 0 - (lowTrail? first).getD 0) + 1)

/-- Characters for private use in three blocks of places. -/
def privateUse? (a b : Nat) : Option Char :=
  if 0xAA ≤ a ∧ a ≤ 0xAF ∧ 0xA1 ≤ b ∧ b ≤ 0xFE then some (Char.ofNat (0xE000 + 94 * (a - 0xAA) + (b - 0xA1)))
  else if 0xF8 ≤ a ∧ a ≤ 0xFE ∧ 0xA1 ≤ b ∧ b ≤ 0xFE then
    some (Char.ofNat (0xE234 + 94 * (a - 0xF8) + (b - 0xA1)))
  else if 0xA1 ≤ a ∧ a ≤ 0xA7 then
    ((lowTrail? b).filter (· < 96)).map fun n => Char.ofNat (0xE4C6 + 96 * (a - 0xA1) + n)
  else none

def full? (a b : Nat) : Option Char :=
  (((extended? a b).or (inTexts? latestSymbols a b)).or (privateUse? a b)).or (inGap? a b gaps 0xE766)

/-- The characters of sequences of four bytes: runs of code points, each with the number of its first
sequence. -/
def fourByteRuns : List (Nat × Nat) := [
  (0, 0x0080), (36, 0x00A5), (38, 0x00A9), (45, 0x00B2), (50, 0x00B8), (81, 0x00D8), (89, 0x00E2),
  (95, 0x00EB), (96, 0x00EE), (100, 0x00F4), (103, 0x00F8), (104, 0x00FB), (105, 0x00FD),
  (109, 0x0102), (126, 0x0114), (133, 0x011C), (148, 0x012C), (172, 0x0145), (175, 0x0149),
  (179, 0x014E), (208, 0x016C), (306, 0x01CF), (307, 0x01D1), (308, 0x01D3), (309, 0x01D5),
  (310, 0x01D7), (311, 0x01D9), (312, 0x01DB), (313, 0x01DD), (341, 0x01FA), (428, 0x0252),
  (443, 0x0262), (544, 0x02C8), (545, 0x02CC), (558, 0x02DA), (741, 0x03A2), (742, 0x03AA),
  (749, 0x03C2), (750, 0x03CA), (805, 0x0402), (819, 0x0450), (820, 0x0452), (7922, 0x2011),
  (7924, 0x2017), (7925, 0x201A), (7927, 0x201E), (7934, 0x2027), (7943, 0x2031), (7944, 0x2034),
  (7945, 0x2036), (7950, 0x203C), (8062, 0x20AD), (8148, 0x2104), (8149, 0x2106), (8152, 0x210A),
  (8164, 0x2117), (8174, 0x2122), (8236, 0x216C), (8240, 0x217A), (8262, 0x2194), (8264, 0x219A),
  (8374, 0x2209), (8380, 0x2210), (8381, 0x2212), (8384, 0x2216), (8388, 0x221B), (8390, 0x2221),
  (8392, 0x2224), (8393, 0x2226), (8394, 0x222C), (8396, 0x222F), (8401, 0x2238), (8406, 0x223E),
  (8416, 0x2249), (8419, 0x224D), (8424, 0x2253), (8437, 0x2262), (8439, 0x2268), (8445, 0x2270),
  (8482, 0x2296), (8485, 0x229A), (8496, 0x22A6), (8521, 0x22C0), (8603, 0x2313), (8936, 0x246A),
  (8946, 0x249C), (9046, 0x254C), (9050, 0x2574), (9063, 0x2590), (9066, 0x2596), (9076, 0x25A2),
  (9092, 0x25B4), (9100, 0x25BE), (9108, 0x25C8), (9111, 0x25CC), (9113, 0x25D0), (9131, 0x25E6),
  (9162, 0x2607), (9164, 0x260A), (9218, 0x2641), (9219, 0x2643), (11329, 0x2E82), (11331, 0x2E85),
  (11334, 0x2E89), (11336, 0x2E8D), (11346, 0x2E98), (11361, 0x2EA8), (11363, 0x2EAB),
  (11366, 0x2EAF), (11370, 0x2EB4), (11372, 0x2EB8), (11375, 0x2EBC), (11389, 0x2ECB),
  (11682, 0x2FFC), (11686, 0x3004), (11687, 0x3018), (11692, 0x301F), (11694, 0x302A),
  (11714, 0x303F), (11716, 0x3094), (11723, 0x309F), (11725, 0x30F7), (11730, 0x30FF),
  (11736, 0x312A), (11982, 0x322A), (11989, 0x3232), (12102, 0x32A4), (12336, 0x3390),
  (12348, 0x339F), (12350, 0x33A2), (12384, 0x33C5), (12393, 0x33CF), (12395, 0x33D3),
  (12397, 0x33D6), (12510, 0x3448), (12553, 0x3474), (12851, 0x359F), (12962, 0x360F),
  (12973, 0x361B), (13738, 0x3919), (13823, 0x396F), (13919, 0x39D1), (13933, 0x39E0),
  (14080, 0x3A74), (14298, 0x3B4F), (14585, 0x3C6F), (14698, 0x3CE1), (15583, 0x4057),
  (15847, 0x4160), (16318, 0x4338), (16434, 0x43AD), (16438, 0x43B2), (16481, 0x43DE),
  (16729, 0x44D7), (17102, 0x464D), (17122, 0x4662), (17315, 0x4724), (17320, 0x472A),
  (17402, 0x477D), (17418, 0x478E), (17859, 0x4948), (17909, 0x497B), (17911, 0x497E),
  (17915, 0x4984), (17916, 0x4987), (17936, 0x499C), (17939, 0x49A0), (17961, 0x49B8),
  (18664, 0x4C78), (18703, 0x4CA4), (18814, 0x4D1A), (18962, 0x4DAF), (19043, 0x9FA6),
  (33469, 0xE76C), (33470, 0xE7C8), (33471, 0xE7E7), (33484, 0xE815), (33485, 0xE819),
  (33490, 0xE81F), (33497, 0xE827), (33501, 0xE82D), (33505, 0xE833), (33513, 0xE83C),
  (33520, 0xE844), (33536, 0xE856), (33550, 0xE865), (37845, 0xF92D), (37921, 0xF97A),
  (37948, 0xF996), (38029, 0xF9E8), (38038, 0xF9F2), (38064, 0xFA10), (38065, 0xFA12),
  (38066, 0xFA15), (38069, 0xFA19), (38075, 0xFA22), (38076, 0xFA25), (38078, 0xFA2A),
  (39108, 0xFE32), (39109, 0xFE45), (39113, 0xFE53), (39114, 0xFE58), (39115, 0xFE67),
  (39116, 0xFE6C), (39265, 0xFF5F), (39394, 0xFFE6)]

def mostFourBytes : Nat := 39420

def fourByte? (n : Nat) : Option Char :=
  if n < mostFourBytes then
    (fourByteRuns.reverse.find? fun run => run.1 ≤ n).map fun run => Char.ofNat (run.2 + (n - run.1))
  else if 15 * 12600 ≤ n ∧ n - 15 * 12600 < 0x100000 then
    some (Char.ofNat (0x10000 + (n - 15 * 12600)))
  else none

def readFull : List Nat → Reading := afterAscii fun
  | a :: b :: rest =>
      if 0x30 ≤ b ∧ b ≤ 0x39 then
        match rest with
        | c :: d :: _ =>
            if 0x81 ≤ a ∧ a ≤ 0xFE ∧ 0x81 ≤ c ∧ c ≤ 0xFE ∧ 0x30 ≤ d ∧ d ≤ 0x39 then
              .ofChar? (fourByte? ((((a - 0x81) * 10 + (b - 0x30)) * 126 + (c - 0x81)) * 10 + (d - 0x30))) 4
            else .wrong 1
        | _ => .short
      else .ofChar? (full? a b) 2
  | _ => .short

/-! ## Seven bits -/

/-- Marks behind a tilde switch between ASCII and the grid; the state says whether the grid is on. -/
def readMarked (inGrid : Bool) : List Nat → Bool × Reading
  | [] => (inGrid, .short)
  | 0x7E :: rest =>
      match rest with
      | [] => (inGrid, .short)
      | b :: _ =>
          if b = 0x7E ∧ !inGrid then (false, .char '~' 2)
          else if b = 0x7B ∧ !inGrid then (true, .chars [] 2)
          else if b = 0x0A ∧ !inGrid then (false, .chars [] 2)
          else if b = 0x7D ∧ inGrid then (false, .chars [] 2)
          else (inGrid, .wrong 1)
  | a :: rest =>
      if 0x80 ≤ a then (inGrid, .wrong 1)
      else if !inGrid then (false, .char (Char.ofNat a) 1)
      else match rest with
        | [] => (true, .short)
        | b :: _ => (true, .ofChar? (Grid.gb2312.char? (a - 0x20) (b - 0x20)) 2)

/-! ## Traditional Chinese -/

/-- The place of a second byte in a row of 157. -/
def wideTrail? (b : Nat) : Option Nat :=
  if 0x40 ≤ b ∧ b ≤ 0x7E then some (b - 0x3F)
  else if 0xA1 ≤ b ∧ b ≤ 0xFE then some (b - 0x61)
  else none

def inWide? (g : Grid) (a b : Nat) : Option Char :=
  (wideTrail? b).bind fun place => g.char? (a - 0x80) place

/-- What Windows has at other places, or in place of other symbols. -/
def windowsChinese : List (Nat × Nat × String) := [
  (0xA1, 0x45, "‧"), (0xA1, 0x4E, "﹑"), (0xA1, 0xC2, "¯"), (0xA1, 0xE3, "～"), (0xA1, 0xF2, "⊕⊙"),
  (0xA2, 0x41, "∕﹨"), (0xA2, 0x44, "￥"), (0xA2, 0x46, "￠￡"), (0xA3, 0xE1, "€"),
  (0xF9, 0xD6, "碁銹裏墻恒粧嫺╔╦╗╠╬╣╚╩╝╒╤╕╞╪╡╘╧╛╓╥╖╟╫╢╙╨╜║═╭╮╰╯▓")]

/-- Places of Hong Kong that hold a letter and a mark on it. -/
def markedLetters : List ((Nat × Nat) × String) := [
  ((0x88, 0x62), "Ê\u0304"), ((0x88, 0x64), "Ê\u030c"), ((0x88, 0xA3), "ê\u0304"),
  ((0x88, 0xA5), "ê\u030c")]

/-- Rows in which Hong Kong keeps nothing of the grid. -/
def isOwnPlace (a b : Nat) : Bool := a = 0xC7 || a = 0xC8 || (a = 0xC6 && 0xA1 ≤ b)

def hongKong? (a b : Nat) : Option (List Char) :=
  let grid := if isOwnPlace a b then none else inWide? .big5 a b
  ((markedLetters.lookup (a, b)).map String.toList).or
    ((grid.or (inWide? .hongKong a b)).map ([·]))

def readWide (read : Nat → Nat → Option (List Char)) : List Nat → Reading := afterAscii fun
  | a :: b :: _ =>
      match read a b with
      | some cs => .chars cs 2
      | none => .wrong 1
  | _ => .short

def chinese : List Charset := [
  .total ["gb2312", "chinese", "csiso58gb231280", "euc_cn", "euccn", "eucgb2312_cn", "gb2312_1980",
    "gb2312_80", "iso_ir_58", "x_mac_simp_chinese"] (readAll readChinese),
  .total ["gbk", "936", "cp936", "ms936"] (readAll readExtendedChinese),
  .total ["gb18030", "gb18030_2000"] (readAll readFull),
  .total ["hz", "hz_gb", "hz_gb_2312", "hzgb"] (readFrom readMarked false),
  .total ["big5", "big5_tw", "csbig5", "x_mac_trad_chinese"]
    (readAll (readWide fun a b => (inWide? .big5 a b).map ([·]))),
  .total ["cp950", "950", "ms950"]
    (readAll (readWide fun a b => ((inTexts? windowsChinese a b).or (inWide? .big5 a b)).map ([·]))),
  .total ["big5hkscs", "big5_hkscs", "hkscs"] (readAll (readWide hongKong?))]

end DeclarationFetch.Text.Charset
