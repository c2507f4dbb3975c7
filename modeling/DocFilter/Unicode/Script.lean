import DocFilter.Unicode.RangeTable

/-!
# Scripts

The code points of each script of Unicode 16.0, and of its extensions: the code points used with the
script although their own script is another, or less those of the script that are not.
-/

namespace DocFilter
namespace Unicode

/-- A script: its names, in lower case and without separators, the code points of the script, and
those that its extensions add and take away. -/
structure Script where
  names : List String
  table : RangeTable
  added : RangeTable
  removed : RangeTable

namespace Script

/-- A script whose extensions are the script itself. -/
def plain (names : List String) (table : List String) : Script := ⟨names, .ofLines table, [], []⟩

/-- A script with what its extensions add and take away. -/
def extended (names : List String) (table added removed : List String) : Script :=
  ⟨names, .ofLines table, .ofLines added, .ofLines removed⟩

end Script

/-- The scripts there are. -/
def scripts : List Script := [
  .extended ["adlam", "adlm"]
    ["1e900+4b 5+9 5+1"]
    ["61f 21 1a0f df2"]
    [],
  .plain ["ahom"]
    ["11700+1a 3+e 5+16"],
  .plain ["anatolianhieroglyphs", "hluw"]
    ["14400+246"],
  .extended ["arabic", "arab"]
    ["600+4 2+5 2+d 2+2 2+1f 2+9 c+19 2+6b 2+21 51+2f f1+1e 2+1 6+4a 2+1c f251+72 11+16a 3+4f",
     "3+35 8 21+f 71+4 2+86 f64+1e 44+2 38+3 df01+3 2+1a 2+1 2 3 2+9 2+3 2 2 7 5 2 2 2+2 2+1 2 3",
     "2 2 2 2 2+1 2 3+3 2+6 2+3 2+3 2 2+9 2+10 6+2 2+4 2+10 35+1"]
    ["60c f 4 21 b+a 1b 19df df2 cefd+1 5a1+1b"]
    [],
  .extended ["armenian", "armn"]
    ["531+25 3+31 3+2 f584+4"]
    ["308"]
    [],
  .extended ["avestan", "avst"]
    ["10b00+35 4+6"]
    ["b7 2d79+1"]
    [],
  .plain ["balinese", "bali"]
    ["1b00+4c 2+31"],
  .plain ["bamum", "bamu"]
    ["a6a0+57 c109+238"],
  .plain ["bassavah", "bass"]
    ["16ad0+1d 3+5"],
  .plain ["batak", "batk"]
    ["1bc0+33 9+3"],
  .extended ["bengali", "beng"]
    ["980+3 2+7 3+1 3+15 2+6 2 4+3 3+8 3+1 3+3 9 5+1 2+4 3+18"]
    ["2bc 695+1 12+1 136b 2 3+1 2 9 9 3 5 3+2 8bfa"]
    [],
  .plain ["bhaiksuki", "bhks"]
    ["11c00+8 2+2c 2+d b+1c"],
  .extended ["bopomofo", "bopo"]
    ["2ea+1 2e1a+2a 71+1f"]
    ["2c7 2+2 e 2d28+2 5+9 2+c b+3 3 7 c4 cd4a+1 11b+4"]
    [],
  .plain ["brahmi", "brah"]
    ["11000+4d 5+23 a"],
  .plain ["braille", "brai"]
    ["2800+ff"],
  .extended ["buginese", "bugi"]
    ["1a00+1b 3+1"]
    ["a9cf"]
    [],
  .extended ["buhid", "buhd"]
    ["1740+13"]
    ["1735+1"]
    [],
  .plain ["canadianaboriginal", "cans"]
    ["1400+27f 231+45 101bb+f"],
  .extended ["carian", "cari"]
    ["102a0+30"]
    ["b7 1fa3 3 dd4"]
    [],
  .extended ["caucasianalbanian", "aghb"]
    ["10530+33 c"]
    ["304 2d 2d"]
    [],
  .extended ["chakma", "cakm"]
    ["11100+34 2+11"]
    ["9e6+9 651+9"]
    [],
  .plain ["cham"]
    ["aa00+36 a+d 3+9 3+3"],
  .extended ["cherokee", "cher"]
    ["13a0+55 3+5 9773+4f"]
    ["300+2 2 7+1 17+1 c+1"]
    [],
  .plain ["chorasmian", "chrs"]
    ["10fb0+1b"],
  .extended ["common", "zyyy"]
    ["0+40 1b+5 1b+2e 2+e 2+4 18 20 1c2+26 6+4 3+13 75 a 7 2 27e 7 f 4 21 9d 205 82+1 4da 196+3",
     "123 5f0+2 48+1 cc+1 2 4ce e 8+3 2+5 2+2 3 306+b 3+56 2+a 4+a 2+e 12+20 40+25 2+2 3+5 2+1a",
     "2+10 2a+2 5+299 17+a 16+39f 101+273 3+1f 2+68 201+5d 193+14 2 2+18 10+7 5+3 5c+1 4 5b+1",
     "94+f 21+25 a 31+3f 20+50 30 59+a7 19c1+3f 5901+21 67+2 a6+9 f5 a1 18c f+1 51d3+1 d1+9",
     "17+22 2+12 2+3 94 2+1f 1b+5 1b+a b 2e+1 41+6 2+6 b+4 103+2 5+2c 4+8 51+c 34+2c e5+1a",
     "b9a5+3 f5d+f9 7+1b3 9d+73 3d+f5 b+26 3+3d 4+10 9+1 8+1d 5+3c d6+13 d+13 d+56 a+18 88+54",
     "2+46 2+1 3 3+1 3+3 2+b 2 2+6 2+40 2+3 3+7 2+6 2+1b 2+3 2+4 2 4+6 2+153 3+123 3+31 1472+43",
     "4d+3c 2c3+2b 5+63 d+e 3+e 2+e 2+24 b+ad 39+19 2+1 e+2b 5+8 8+1 f+5 9b+3d7 5+10 4+c 4+76",
     "5+5e 7+b 5 10+b 5+37 9+9 7+27 9+1d 3+b 5+1 3f+153 d+d 3+c 4+9 6+37 8+e 3+a 7+8 8+92 2+65",
     "c0408 1f+5f"]
    []
    ["b7 205 b 2+2 2 a 2 9b 298 f 4 21 324+1 796 5f0+2 48+1 cc+1 2 4ce e 8+3 2+5 2+2 3 335 20 b",
     "3 dba 19+1 b 5 2 1ad+f 2+2 3 2+9 2+c 11+5 2 5+3 5c+1 4 5b+1 94+f 21+25 a 31+27 39+30 10+b",
     "34 59+18 b+4 61+1e 7302+7 129+9 f5 a1 536f+1 106+1 11b+4 b 2e+1 161+2 5+2c 4+8 1a2+1a",
     "b9a5+3 16bd+11 1edf+1"],
  .extended ["coptic", "copt", "qaac"]
    ["3e2+d 2891+73 6+6"]
    ["b7 249 4+1 2 6d+1 2aa2 d4c9+1b"]
    [],
  .plain ["cuneiform", "xsux"]
    ["12000+399 67+6e 2+4 c+c3"],
  .extended ["cypriot", "cprt"]
    ["10800+5 3 2+2b 2+1 4 3"]
    ["10100+2 5+2c 4+8"]
    [],
  .extended ["cyprominoan", "cpmn"]
    ["12f90+62"]
    ["10100+1"]
    [],
  .extended ["cyrillic", "cyrl"]
    ["400+84 3+a8 1751+a a1 4d 1068+1f 7841+5f 578f+1 e201+3d 22"]
    ["2bc 44+2 2 2 2 3 6 174+1 1972 104b"]
    [],
  .plain ["deseret", "dsrt"]
    ["10400+4f"],
  .extended ["devanagari", "deva"]
    ["900+50 5+e 3+19 9f61+1f 7201+9"]
    ["2bc 695+1 12+1 136b+26 2+1 3f7 8740+9"]
    [],
  .plain ["divesakuru", "diak"]
    ["11900+6 3 3+7 2+1 2+1d 2+1 3+b a+9"],
  .extended ["dogra", "dogr"]
    ["11800+3b"]
    ["964+b 9ec1+9"]
    [],
  .extended ["duployan", "dupl"]
    ["1bc00+6a 6+c 4+8 8+9 3+3"]
    ["b7 250+1 2 19+1 2b18 18e64+3"]
    [],
  .plain ["egyptianhieroglyphs", "egyp"]
    ["13000+455 b+f9a"],
  .extended ["elbasan", "elba"]
    ["10500+27"]
    ["b7 24e"]
    [],
  .plain ["elymaic", "elym"]
    ["10fe0+16"],
  .extended ["ethiopic", "ethi"]
    ["1200+48 2+3 3+6 2 2+3 3+28 2+3 3+20 2+3 3+6 2 2+3 3+e 2+38 2+3 3+42 3+1f 4+19 19e7+16 a+6",
     "2+6 2+6 2+6 2+6 2+6 2+6 2+6 7d23+5 3+5 3+5 a+6 2+6 13cb2+6 2+3 2+1 2+e"]
    ["30e"]
    [],
  .extended ["garay", "gara"]
    ["10d40+25 4+1c 9+1"]
    ["60c f 4"]
    [],
  .extended ["georgian", "geor"]
    ["10a0+25 2 6 3+2a 2+3 b91+2a 3+2 1041+25 2 6"]
    ["b7 4d2 b72 f5f dd7"]
    [],
  .extended ["glagolitic", "glag"]
    ["2c00+5f 1b3a1+6 2+10 3+6 2+1 2+4"]
    ["b7 24c 2 17f 3 102 b72 f5f de9 782c"]
    [],
  .extended ["gothic", "goth"]
    ["10330+1a"]
    ["b7 24d+1 3 29"]
    [],
  .extended ["grantha", "gran"]
    ["11300+3 2+7 3+1 3+15 2+6 2+1 2+4 3+8 3+1 3+2 3 7 6+6 3+6 4+4"]
    ["951+1 12+1 281+d 10dd 2+1 1f+2 4+1 3f7 f24b c95+1 2"]
    [],
  .extended ["greek", "grek"]
    ["370+3 2+2 3+3 2 5 2 2+2 2 2+13 2+3e f+f 1927+4 33+4 5+4 55 141+15 3+5 3+25 3+5 3+7 2 2 2",
     "2+1e 3+34 2+e 2+d 3+5 2+12 3+2 2+8 128 8a3f 55db+4e 12 d060+45"]
    ["b7 249+1 3 2 2 b 2f 3 2f 1a4c+1 29c"]
    [],
  .extended ["gujarati", "gujr"]
    ["a81+2 2+8 2+2 2+15 2+6 2+1 2+4 3+9 2+2 2+2 3 10+3 3+b 8+6"]
    ["951+1 12+1 9ecb+9"]
    [],
  .extended ["gunjalagondi", "gong"]
    ["11d60+5 2+1 2+24 2+1 2+5 8+9"]
    ["b7 8ad+1"]
    [],
  .extended ["gurmukhi", "guru"]
    ["a01+2 2+5 5+1 3+15 2+6 2+1 2+1 2+1 3 2+4 5+1 3+2 4 8+3 2 8+10"]
    ["951+1 12+1 9ecb+9"]
    [],
  .extended ["gurungkhema", "gukh"]
    ["16100+39"]
    ["965"]
    [],
  .extended ["han", "hani"]
    ["2e80+19 2+58 d+d5 30 2 1a+8 f+3 3c5+19bf 41+51ff 5901+16d 3+69 7509+1 d+1 900f+a6df",
     "21+1039 7+dd 3+1681 f+1d30 10+26d 9a3+21d 5e3+134a 6+105f"]
    ["b7 2f39+f 2+2 3 2+9 2+c b+3 3 7 5+3 bc 95+f 21+25 a 31+27 39+30 10+b 34 59+18 b+4 61+1e",
     "7302+7 573e+1 11b+4 d3fb+11 1edf+1"]
    [],
  .extended ["hangul", "hang"]
    ["1100+ff 1e2f+1 102+5d 72+1e 42+1e 76e2+1c 284+2ba3 d+16 5+30 27a5+1e 4+5 3+5 3+5 3+2"]
    ["3001+2 5+9 2+c 11 7 c4 cd4a+1 11b+4"]
    [],
  .extended ["hanifirohingya", "rohg"]
    ["10d00+27 9+9"]
    ["60c f 4 21 94"]
    [],
  .extended ["hanunoo", "hano"]
    ["1720+14"]
    ["1735+1"]
    [],
  .plain ["hatran", "hatr"]
    ["108e0+12 2+1 6+4"],
  .extended ["hebrew", "hebr"]
    ["591+36 9+1a 5+5 f529+19 2+4 2 2+1 2+1 2+9"]
    ["307+1"]
    [],
  .extended ["hiragana", "hira"]
    ["3041+55 7+2 17f62+11e 13 1e+2 40ae"]
    ["3001+2 5+9 2+c 11+5 2 5+1 5c+3 4 5b+1 cd49+1 11b+4 b 2e+1"]
    [],
  .plain ["imperialaramaic", "armi"]
    ["10840+15 2+8"],
  .extended ["inherited", "zinh", "qaai"]
    ["300+6f 116+1 1c5+a 1b 2e1+3 115c+1e 202+2 2+c 2+6 5 7 4+1 c7+3f 20d+1 c3+20 f3a+3 6c+1",
     "cd66+f 11+d 3d0 e3 105b bbc5+2d 3+16 221+2 12+7 3+6 1f+3 c2f53+ef"]
    []
    ["300+e 2+1 2 d 3+2 8+1 2+1 11 3 13 6 5+c 116+1 1c5+a 1b 2e1+1 137e+2 2+c 2+6 5 7 4+1 c7+1",
     "37 2 2f6 f3a+3 6c+1 d246 105b"],
  .plain ["inscriptionalpahlavi", "phli"]
    ["10b60+12 6+7"],
  .plain ["inscriptionalparthian", "prti"]
    ["10b40+15 3+7"],
  .extended ["javanese", "java"]
    ["a980+4d 3+9 5+1"]
    ["a9cf"]
    [],
  .extended ["kaithi", "kthi"]
    ["11080+42 b"]
    ["966+9 24c2 79ff+9"]
    [],
  .extended ["kannada", "knda"]
    ["c80+c 2+2 2+16 2+9 2+4 3+8 2+2 2+3 8+1 7+1 2+3 3+9 2+2"]
    ["951+1 12+1 136b 2+1 7 18 2 8b3c+5"]
    [],
  .extended ["katakana", "kana"]
    ["30a1+59 3+2 f1+f d1+2e 2+57 cc0f+9 2+2c b053+3 2+6 2+1 2 120+2 33 f+3"]
    ["305 1e 2cde+2 5+9 2+c 11+5 2 5+1 5c+3 4 5b+1 cd49+1 11b+4 b 2e+1"]
    [],
  .plain ["kawi"]
    ["11f00+10 2+28 4+1c"],
  .extended ["kayahli", "kali"]
    ["a900+2d 2"]
    ["a92e"]
    [],
  .plain ["kharoshthi", "khar"]
    ["10a00+3 2+1 6+7 2+2 2+1c 3+2 5+9 8+8"],
  .plain ["khitansmallscript", "kits"]
    ["16fe4 1b1c+1d5 2a"],
  .plain ["khmer", "khmr"]
    ["1780+5d 3+9 7+9 1e7+1f"],
  .extended ["khojki", "khoj"]
    ["11200+11 2+2e"]
    ["ae6+9 9d41+9"]
    [],
  .extended ["khudawadi", "sind"]
    ["112b0+3a 6+9"]
    ["964+1 9ecb+9"]
    [],
  .plain ["kiratrai", "krai"]
    ["16d40+39"],
  .plain ["lao", "laoo"]
    ["e81+1 2 2+4 2+17 2 2+16 3+4 2 2+6 2+9 3+3"],
  .extended ["latin", "latn"]
    ["41+19 7+19 30 10 6+16 2+1e 2+1c0 28+4 1a1c+25 7+30 6+3 6+c 2+45 42+ff 172 e 11+c 8e+1 7 1c",
     "12+28 ad8+1f 7aa3+65 4+42 3+1 2 2+7 16+d 331+2a 2+8 2+3 4f97+6 41b+19 7+19 826+5 2+29 2+8",
     "d746+1e 7+5"]
    ["b7 205 b 2+2 2 a 2 27+e 2+1 2 d 3+2 8+1 2+1 27 6 5+c 116+1 4cb+1 7a9 cfd 237 c1 d27 78e9+7",
     "227"]
    [],
  .plain ["lepcha", "lepc"]
    ["1c00+37 4+e 4+2"],
  .extended ["limbu", "limb"]
    ["1900+1e 2+b 5+b 5 4+b"]
    ["965"]
    [],
  .extended ["lineara", "lina"]
    ["10600+136 a+15 b+7"]
    ["10107+2c"]
    [],
  .extended ["linearb", "linb"]
    ["10000+b 2+19 2+12 2+1 2+e 3+d 23+7a"]
    ["10100+2 5+2c 4+8"]
    [],
  .extended ["lisu"]
    ["a4d0+2f 7ab1"]
    ["2bc 11 2d3d+1"]
    [],
  .extended ["lycian", "lyci"]
    ["10280+1c"]
    ["205a"]
    [],
  .extended ["lydian", "lydi"]
    ["10920+19 6"]
    ["b7 2d7a"]
    [],
  .extended ["mahajani", "mahj"]
    ["11150+26"]
    ["b7 8ad+b 9ec1+9"]
    [],
  .plain ["makasar", "maka"]
    ["11ee0+18"],
  .extended ["malayalam", "mlym"]
    ["d00+c 2+2 2+32 2+2 2+5 5+f 3+19"]
    ["951+1 12+1 1375 18 8b3e+2"]
    [],
  .extended ["mandaic", "mand"]
    ["840+1b 3"]
    ["640"]
    [],
  .extended ["manichaean", "mani"]
    ["10ac0+26 5+b"]
    ["640"]
    [],
  .plain ["marchen", "marc"]
    ["11c70+1f 3+15 2+d"],
  .extended ["masaramgondi", "gonm"]
    ["11d00+6 2+1 2+2b 4 2+1 2+8 9+9"]
    ["964+1"]
    [],
  .plain ["medefaidrin", "medf"]
    ["16e40+5a"],
  .plain ["meeteimayek", "mtei"]
    ["aae0+16 ca+2d 3+9"],
  .plain ["mendekikakui", "mend"]
    ["1e800+c4 3+f"],
  .plain ["meroiticcursive", "merc"]
    ["109a0+17 5+13 3+2d"],
  .extended ["meroitichieroglyphs", "mero"]
    ["10980+1f"]
    ["205d"]
    [],
  .plain ["miao", "plrd"]
    ["16f00+4a 5+38 8+10"],
  .extended ["modi"]
    ["11600+44 c+9"]
    ["a830+9"]
    [],
  .extended ["mongolian", "mong"]
    ["1800+1 3 2+13 7+58 8+2a fdb6+c"]
    ["1802+1 2 82a fd2+1 6+3"]
    [],
  .plain ["mro", "mroo"]
    ["16a40+1e 2+9 5+1"],
  .extended ["multani", "mult"]
    ["11280+6 2 2+3 2+e 2+a"]
    ["a66+9"]
    [],
  .extended ["myanmar", "mymr"]
    ["1000+9f 9941+1e 62+1f 6c51+13"]
    ["a92e"]
    [],
  .plain ["nabataean", "nbat"]
    ["10880+1e 9+8"],
  .plain ["nagmundari", "nagm"]
    ["1e4d0+29"],
  .extended ["nandinagari", "nand"]
    ["119a0+7 3+2d 3+a"]
    ["964+1 381+9 ffa 9 8 8b36+5"]
    [],
  .plain ["newtailue", "talu"]
    ["1980+2b 5+19 7+a 4+1"],
  .plain ["newa"]
    ["11400+5b 2+4"],
  .extended ["nko", "nkoo"]
    ["7c0+3a 3+2"]
    ["60c f 4 f71f+1"]
    [],
  .plain ["nushu", "nshu"]
    ["16fe1 418f+18b"],
  .plain ["nyiakengpuachuehmong", "hmnp"]
    ["1e100+2c 4+d 3+9 5+1"],
  .plain ["ogham", "ogam"]
    ["1680+1c"],
  .plain ["olchiki", "olck"]
    ["1c50+2f"],
  .extended ["olonal", "onao"]
    ["1e5d0+2a 5"]
    ["964+1"]
    [],
  .extended ["oldhungarian", "hung"]
    ["10c80+32 e+32 8+5"]
    ["205a 3 dd4 10"]
    [],
  .plain ["olditalic", "ital"]
    ["10300+23 a+2"],
  .plain ["oldnortharabian", "narb"]
    ["10a80+1f"],
  .extended ["oldpermic", "perm"]
    ["10350+2a"]
    ["b7 249 6+2 b 170"]
    [],
  .plain ["oldpersian", "xpeo"]
    ["103a0+23 5+d"],
  .plain ["oldsogdian", "sogo"]
    ["10f00+27"],
  .plain ["oldsoutharabian", "sarb"]
    ["10a60+1f"],
  .extended ["oldturkic", "orkh"]
    ["10c00+48"]
    ["205a dd6"]
    [],
  .extended ["olduyghur", "ougr"]
    ["10f70+19"]
    ["640 104b2"]
    [],
  .extended ["oriya", "orya"]
    ["b01+2 2+7 3+1 3+15 2+6 2+1 2+4 3+8 3+1 3+2 8+2 5+1 2+4 3+11"]
    ["951+1 12+1 1375 18"]
    [],
  .extended ["osage", "osge"]
    ["104b0+23 5+23"]
    ["301 3 7 4d"]
    [],
  .plain ["osmanya", "osma"]
    ["10480+1d 3+9"],
  .plain ["pahawhhmong", "hmng"]
    ["16b00+45 b+9 2+6 2+14 6+12"],
  .plain ["palmyrene", "palm"]
    ["10860+1f"],
  .plain ["paucinhau", "pauc"]
    ["11ac0+38"],
  .extended ["phagspa", "phag"]
    ["a840+37"]
    ["1802+1 2 82a fd3"]
    [],
  .plain ["phoenician", "phnx"]
    ["10900+1b 4"],
  .extended ["psalterpahlavi", "phlp"]
    ["10b80+11 8+3 d+6"]
    ["640"]
    [],
  .plain ["rejang", "rjng"]
    ["a930+23 c"],
  .extended ["runic", "runr"]
    ["16a0+4a 4+a"]
    ["16eb+2"]
    [],
  .extended ["samaritan", "samr"]
    ["800+2d 3+e"]
    ["2e31"]
    [],
  .plain ["saurashtra", "saur"]
    ["a880+45 9+b"],
  .extended ["sharada", "shrd"]
    ["11180+5f"]
    ["951 1386 2 3+1 3 8b50+5 3"]
    [],
  .extended ["shavian", "shaw"]
    ["10450+2f"]
    ["b7"]
    [],
  .plain ["siddham", "sidd"]
    ["11580+35 3+25"],
  .plain ["signwriting", "sgnw"]
    ["1d800+28b 10+4 2+e"],
  .extended ["sinhala", "sinh"]
    ["d81+2 2+11 4+17 2+8 2 3+6 4 5+5 2 2+7 7+9 3+2 103ed+13"]
    ["964+1 138d"]
    [],
  .extended ["sogdian", "sogd"]
    ["10f30+29"]
    ["640"]
    [],
  .plain ["sorasompeng", "sora"]
    ["110d0+18 8+9"],
  .plain ["soyombo", "soyo"]
    ["11a50+52"],
  .plain ["sundanese", "sund"]
    ["1b80+3f 101+7"],
  .extended ["sunuwar", "sunu"]
    ["11bc0+21 f+9"]
    ["300+1 2 a 3 1d 4"]
    [],
  .extended ["sylotinagri", "sylo"]
    ["a800+2c"]
    ["964+1 81+9"]
    [],
  .extended ["syriac", "syrc"]
    ["700+d 2+3b 3+2 111+a"]
    ["303+1 3+1 2 16 3+2 8+1 2 2dc f+1 3 21 b+a 1b 1788 2"]
    [],
  .extended ["tagalog", "tglg"]
    ["1700+15 a"]
    ["1735+1"]
    [],
  .extended ["tagbanwa", "tagb"]
    ["1760+c 2+2 2+1"]
    ["1735+1"]
    [],
  .extended ["taile", "tale"]
    ["1950+1d 3+4"]
    ["300+1 6+1 4 d34+9"]
    [],
  .plain ["taitham", "lana"]
    ["1a20+3e 2+1c 3+a 7+9 7+d"],
  .plain ["taiviet", "tavt"]
    ["aa80+42 19+4"],
  .extended ["takri", "takr"]
    ["11680+39 7+9"]
    ["964+1 9ecb+9"]
    [],
  .extended ["tamil", "taml"]
    ["b82+1 2+5 4+2 2+3 4+1 2 2+1 4+1 4+2 4+b 5+4 4+2 2+3 3 7 f+14 113c6+31 e"]
    ["951+1 12+1 1375 8c19 6a0e 2 38+1"]
    [],
  .plain ["tangsa", "tnsa"]
    ["16a70+4e 2+9"],
  .extended ["tangut", "tang"]
    ["16fe0 20+17f7 9+2ff 201+8"]
    ["2ff0+f 1f0"]
    [],
  .extended ["telugu", "telu"]
    ["c00+c 2+2 2+16 2+f 3+8 2+2 2+3 8+1 2+2 3 3+3 3+9 8+8"]
    ["951+1 12+1 1375 18"]
    [],
  .extended ["thaana", "thaa"]
    ["780+31"]
    ["60c f+1 3 41+9 f789 b"]
    [],
  .extended ["thai"]
    ["e01+39 6+1b"]
    ["2bc 1b 2c 2e"]
    [],
  .extended ["tibetan", "tibt"]
    ["f00+47 2+23 5+26 2+23 2+e 2+6 5+1"]
    ["3008+3"]
    [],
  .extended ["tifinagh", "tfng"]
    ["2d30+37 8+1 f"]
    ["302 2 3 2"]
    [],
  .extended ["tirhuta", "tirh"]
    ["11480+47 9+9"]
    ["951+1 12+1 138d 8b3e+9"]
    [],
  .extended ["todhri", "todr"]
    ["105c0+33"]
    ["301 3 3 a 2 4b"]
    [],
  .extended ["toto"]
    ["1e290+1e"]
    ["2bc"]
    [],
  .extended ["tulutigalari", "tutg"]
    ["11380+9 2 3 2+25 2+9 2 3 2+3 2+9 2+1 9+1"]
    ["ce6+9 1003 2 8b3c+5 bc"]
    [],
  .plain ["ugaritic", "ugar"]
    ["10380+1d 2"],
  .plain ["vai", "vaii"]
    ["a500+12b"],
  .plain ["vithkuqi", "vith"]
    ["10570+a 2+e 2+6 2+1 2+a 2+e 2+6 2+1"],
  .plain ["wancho", "wcho"]
    ["1e2c0+39 6"],
  .plain ["warangciti", "wara"]
    ["118a0+52 d"],
  .extended ["yezidi", "yezi"]
    ["10e80+29 2+2 3+1"]
    ["60c f 4 41+9"]
    [],
  .extended ["yi", "yiii"]
    ["a000+48c 4+36"]
    ["3001+1 6+9 3+7 e0 ce66+4"]
    [],
  .plain ["zanabazarsquare", "zanb"]
    ["11a00+47"]]

end Unicode
end DocFilter
