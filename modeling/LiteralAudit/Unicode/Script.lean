import LiteralAudit.Unicode.CharSet

/-!
# Scripts

The code points of each script of the Unicode character database, version 16, with the code points
that the script shares with others (its extensions), and the names under which scripts are known.
-/

namespace LiteralAudit

structure Script where
  /-- Names of the script, in lower case without underscores. -/
  names : List String
  /-- Compact table of the code points whose script this is. -/
  table : String
  /-- Compact table of the further code points that the script uses. -/
  shared : String
  /-- Compact table of the code points of the script that only other scripts use. -/
  lent : String

namespace Script

def members (script : Script) : CharSet := .ofTable script.table

/-- The code points that the script uses, shared or not. -/
def extended (script : Script) : CharSet :=
  (script.members.union (.ofTable script.shared)).diff .characters (.ofTable script.lent)

def all : List Script := [
  { names := ["adlam", "adlm"]
    table := "1e900+4b 4+9 4+1"
    shared := "61f 20 1a0e df1"
    lent := "" },
  { names := ["caucasianalbanian", "aghb"]
    table := "10530+33 b"
    shared := "304 2c 2c"
    lent := "" },
  { names := ["ahom"]
    table := "11700+1a 2+e 4+16"
    shared := ""
    lent := "" },
  { names := ["arabic", "arab"]
    table :=
      "600+4 1+5 1+d 1+2 1+1f 1+9 b+19 1+6b 1+21 50+2f f0+1e 1+1 5+4a 1+1c f250+72 10+16a " ++
      "2+4f 2+35 7 20+f 70+4 1+86 f63+1e 43+2 37+3 df00+3 1+1a 1+1 1 2 1+9 1+3 1 1 6 4 1 1 " ++
      "1+2 1+1 1 2 1 1 1 1 1+1 1 2+3 1+6 1+3 1+3 1 1+9 1+10 5+2 1+4 1+10 34+1"
    shared := "60c e 3 20 a+a 1a 19de df1 cefc+1 5a0+1b"
    lent := "" },
  { names := ["imperialaramaic", "armi"]
    table := "10840+15 1+8"
    shared := ""
    lent := "" },
  { names := ["armenian", "armn"]
    table := "531+25 2+31 2+2 f583+4"
    shared := "308"
    lent := "" },
  { names := ["avestan", "avst"]
    table := "10b00+35 3+6"
    shared := "b7 2d78+1"
    lent := "" },
  { names := ["balinese", "bali"]
    table := "1b00+4c 1+31"
    shared := ""
    lent := "" },
  { names := ["bamum", "bamu"]
    table := "a6a0+57 c108+238"
    shared := ""
    lent := "" },
  { names := ["bassavah", "bass"]
    table := "16ad0+1d 2+5"
    shared := ""
    lent := "" },
  { names := ["batak", "batk"]
    table := "1bc0+33 8+3"
    shared := ""
    lent := "" },
  { names := ["bengali", "beng"]
    table := "980+3 1+7 2+1 2+15 1+6 1 3+3 2+8 2+1 2+3 8 4+1 1+4 2+18"
    shared := "2bc 694+1 11+1 136a 1 2+1 1 8 8 2 4 2+2 8bf9"
    lent := "" },
  { names := ["bhaiksuki", "bhks"]
    table := "11c00+8 1+2c 1+d a+1c"
    shared := ""
    lent := "" },
  { names := ["bopomofo", "bopo"]
    table := "2ea+1 2e19+2a 70+1f"
    shared := "2c7 1+2 d 2d27+2 4+9 1+c a+3 2 6 c3 cd49+1 11a+4"
    lent := "" },
  { names := ["brahmi", "brah"]
    table := "11000+4d 4+23 9"
    shared := ""
    lent := "" },
  { names := ["braille", "brai"]
    table := "2800+ff"
    shared := ""
    lent := "" },
  { names := ["buginese", "bugi"]
    table := "1a00+1b 2+1"
    shared := "a9cf"
    lent := "" },
  { names := ["buhid", "buhd"]
    table := "1740+13"
    shared := "1735+1"
    lent := "" },
  { names := ["chakma", "cakm"]
    table := "11100+34 1+11"
    shared := "9e6+9 650+9"
    lent := "" },
  { names := ["canadianaboriginal", "cans"]
    table := "1400+27f 230+45 101ba+f"
    shared := ""
    lent := "" },
  { names := ["carian", "cari"]
    table := "102a0+30"
    shared := "b7 1fa2 2 dd3"
    lent := "" },
  { names := ["cham"]
    table := "aa00+36 9+d 2+9 2+3"
    shared := ""
    lent := "" },
  { names := ["cherokee", "cher"]
    table := "13a0+55 2+5 9772+4f"
    shared := "300+2 1 6+1 16+1 b+1"
    lent := "" },
  { names := ["chorasmian", "chrs"]
    table := "10fb0+1b"
    shared := ""
    lent := "" },
  { names := ["coptic", "copt", "qaac"]
    table := "3e2+d 2890+73 5+6"
    shared := "b7 248 3+1 1 6c+1 2aa1 d4c8+1b"
    lent := "" },
  { names := ["cyprominoan", "cpmn"]
    table := "12f90+62"
    shared := "10100+1"
    lent := "" },
  { names := ["cypriot", "cprt"]
    table := "10800+5 2 1+2b 1+1 3 2"
    shared := "10100+2 4+2c 3+8"
    lent := "" },
  { names := ["cyrillic", "cyrl"]
    table := "400+84 2+a8 1750+a a0 4c 1067+1f 7840+5f 578e+1 e200+3d 21"
    shared := "2bc 43+2 1 1 1 2 5 173+1 1971 104a"
    lent := "" },
  { names := ["devanagari", "deva"]
    table := "900+50 4+e 2+19 9f60+1f 7200+9"
    shared := "2bc 694+1 11+1 136a+26 1+1 3f6 873f+9"
    lent := "" },
  { names := ["divesakuru", "diak"]
    table := "11900+6 2 2+7 1+1 1+1d 1+1 2+b 9+9"
    shared := ""
    lent := "" },
  { names := ["dogra", "dogr"]
    table := "11800+3b"
    shared := "964+b 9ec0+9"
    lent := "" },
  { names := ["deseret", "dsrt"]
    table := "10400+4f"
    shared := ""
    lent := "" },
  { names := ["duployan", "dupl"]
    table := "1bc00+6a 5+c 3+8 7+9 2+3"
    shared := "b7 24f+1 1 18+1 2b17 18e63+3"
    lent := "" },
  { names := ["egyptianhieroglyphs", "egyp"]
    table := "13000+455 a+f9a"
    shared := ""
    lent := "" },
  { names := ["elbasan", "elba"]
    table := "10500+27"
    shared := "b7 24d"
    lent := "" },
  { names := ["elymaic", "elym"]
    table := "10fe0+16"
    shared := ""
    lent := "" },
  { names := ["ethiopic", "ethi"]
    table :=
      "1200+48 1+3 2+6 1 1+3 2+28 1+3 2+20 1+3 2+6 1 1+3 2+e 1+38 1+3 2+42 2+1f 3+19 19e6+16 " ++
      "9+6 1+6 1+6 1+6 1+6 1+6 1+6 1+6 7d22+5 2+5 2+5 9+6 1+6 13cb1+6 1+3 1+1 1+e"
    shared := "30e"
    lent := "" },
  { names := ["georgian", "geor"]
    table := "10a0+25 1 5 2+2a 1+3 b90+2a 2+2 1040+25 1 5"
    shared := "b7 4d1 b71 f5e dd6"
    lent := "" },
  { names := ["glagolitic", "glag"]
    table := "2c00+5f 1b3a0+6 1+10 2+6 1+1 1+4"
    shared := "b7 24b 1 17e 2 101 b71 f5e de8 782b"
    lent := "" },
  { names := ["gunjalagondi", "gong"]
    table := "11d60+5 1+1 1+24 1+1 1+5 7+9"
    shared := "b7 8ac+1"
    lent := "" },
  { names := ["masaramgondi", "gonm"]
    table := "11d00+6 1+1 1+2b 3 1+1 1+8 8+9"
    shared := "964+1"
    lent := "" },
  { names := ["gothic", "goth"]
    table := "10330+1a"
    shared := "b7 24c+1 2 28"
    lent := "" },
  { names := ["grantha", "gran"]
    table := "11300+3 1+7 2+1 2+15 1+6 1+1 1+4 2+8 2+1 2+2 2 6 5+6 2+6 3+4"
    shared := "951+1 11+1 280+d 10dc 1+1 1e+2 3+1 3f6 f24a c94+1 1"
    lent := "" },
  { names := ["greek", "grek"]
    table :=
      "370+3 1+2 2+3 1 4 1 1+2 1 1+13 1+3e e+f 1926+4 32+4 4+4 54 140+15 2+5 2+25 2+5 2+7 1 1 " ++
      "1 1+1e 2+34 1+e 1+d 2+5 1+12 2+2 1+8 127 8a3e 55da+4e 11 d05f+45"
    shared := "b7 248+1 2 1 1 a 2e 2 2e 1a4b+1 29b"
    lent := "" },
  { names := ["gujarati", "gujr"]
    table := "a81+2 1+8 1+2 1+15 1+6 1+1 1+4 2+9 1+2 1+2 2 f+3 2+b 7+6"
    shared := "951+1 11+1 9eca+9"
    lent := "" },
  { names := ["gurmukhi", "guru"]
    table := "a01+2 1+5 4+1 2+15 1+6 1+1 1+1 1+1 2 1+4 4+1 2+2 3 7+3 1 7+10"
    shared := "951+1 11+1 9eca+9"
    lent := "" },
  { names := ["hangul", "hang"]
    table :=
      "1100+ff 1e2e+1 101+5d 71+1e 41+1e 76e1+1c 283+2ba3 c+16 4+30 27a4+1e 3+5 2+5 2+5 2+2"
    shared := "3001+2 4+9 1+c 10 6 c3 cd49+1 11a+4"
    lent := "" },
  { names := ["han", "hani"]
    table :=
      "2e80+19 1+58 c+d5 2f 1 19+8 e+3 3c4+19bf 40+51ff 5900+16d 2+69 7508+1 c+1 900e+a6df " ++
      "20+1039 6+dd 2+1681 e+1d30 f+26d 9a2+21d 5e2+134a 5+105f"
    shared :=
      "b7 2f38+f 1+2 2 1+9 1+c a+3 2 6 4+3 bb 94+f 20+25 9 30+27 38+30 f+b 33 58+18 a+4 60+1e " ++
      "7301+7 573d+1 11a+4 d3fa+11 1ede+1"
    lent := "" },
  { names := ["hanunoo", "hano"]
    table := "1720+14"
    shared := "1735+1"
    lent := "" },
  { names := ["hatran", "hatr"]
    table := "108e0+12 1+1 5+4"
    shared := ""
    lent := "" },
  { names := ["hebrew", "hebr"]
    table := "591+36 8+1a 4+5 f528+19 1+4 1 1+1 1+1 1+9"
    shared := "307+1"
    lent := "" },
  { names := ["hiragana", "hira"]
    table := "3041+55 6+2 17f61+11e 12 1d+2 40ad"
    shared := "3001+2 4+9 1+c 10+5 1 4+1 5b+3 3 5a+1 cd48+1 11a+4 a 2d+1"
    lent := "" },
  { names := ["anatolianhieroglyphs", "hluw"]
    table := "14400+246"
    shared := ""
    lent := "" },
  { names := ["pahawhhmong", "hmng"]
    table := "16b00+45 a+9 1+6 1+14 5+12"
    shared := ""
    lent := "" },
  { names := ["nyiakengpuachuehmong", "hmnp"]
    table := "1e100+2c 3+d 2+9 4+1"
    shared := ""
    lent := "" },
  { names := ["oldhungarian", "hung"]
    table := "10c80+32 d+32 7+5"
    shared := "205a 2 dd3 f"
    lent := "" },
  { names := ["olditalic", "ital"]
    table := "10300+23 9+2"
    shared := ""
    lent := "" },
  { names := ["javanese", "java"]
    table := "a980+4d 2+9 4+1"
    shared := "a9cf"
    lent := "" },
  { names := ["kayahli", "kali"]
    table := "a900+2d 1"
    shared := "a92e"
    lent := "" },
  { names := ["katakana", "kana"]
    table := "30a1+59 2+2 f0+f d0+2e 1+57 cc0e+9 1+2c b052+3 1+6 1+1 1 11f+2 32 e+3"
    shared := "305 1d 2cdd+2 4+9 1+c 10+5 1 4+1 5b+3 3 5a+1 cd48+1 11a+4 a 2d+1"
    lent := "" },
  { names := ["kawi"]
    table := "11f00+10 1+28 3+1c"
    shared := ""
    lent := "" },
  { names := ["kharoshthi", "khar"]
    table := "10a00+3 1+1 5+7 1+2 1+1c 2+2 4+9 7+8"
    shared := ""
    lent := "" },
  { names := ["khmer", "khmr"]
    table := "1780+5d 2+9 6+9 1e6+1f"
    shared := ""
    lent := "" },
  { names := ["khojki", "khoj"]
    table := "11200+11 1+2e"
    shared := "ae6+9 9d40+9"
    lent := "" },
  { names := ["khitansmallscript", "kits"]
    table := "16fe4 1b1b+1d5 29"
    shared := ""
    lent := "" },
  { names := ["kannada", "knda"]
    table := "c80+c 1+2 1+16 1+9 1+4 2+8 1+2 1+3 7+1 6+1 1+3 2+9 1+2"
    shared := "951+1 11+1 136a 1+1 6 17 1 8b3b+5"
    lent := "" },
  { names := ["kaithi", "kthi"]
    table := "11080+42 a"
    shared := "966+9 24c1 79fe+9"
    lent := "" },
  { names := ["taitham", "lana"]
    table := "1a20+3e 1+1c 2+a 6+9 6+d"
    shared := ""
    lent := "" },
  { names := ["lao", "laoo"]
    table := "e81+1 1 1+4 1+17 1 1+16 2+4 1 1+6 1+9 2+3"
    shared := ""
    lent := "" },
  { names := ["latin", "latn"]
    table :=
      "41+19 6+19 2f f 5+16 1+1e 1+1c0 27+4 1a1b+25 6+30 5+3 5+c 1+45 41+ff 171 d 10+c 8d+1 6 " ++
      "1b 11+28 ad7+1f 7aa2+65 3+42 2+1 1 1+7 15+d 330+2a 1+8 1+3 4f96+6 41a+19 6+19 825+5 " ++
      "1+29 1+8 d745+1e 6+5"
    shared :=
      "b7 204 a 1+2 1 9 1 26+e 1+1 1 c 2+2 7+1 1+1 26 5 4+c 115+1 4ca+1 7a8 cfc 236 c0 d26 " ++
      "78e8+7 226"
    lent := "" },
  { names := ["lepcha", "lepc"]
    table := "1c00+37 3+e 3+2"
    shared := ""
    lent := "" },
  { names := ["limbu", "limb"]
    table := "1900+1e 1+b 4+b 4 3+b"
    shared := "965"
    lent := "" },
  { names := ["lineara", "lina"]
    table := "10600+136 9+15 a+7"
    shared := "10107+2c"
    lent := "" },
  { names := ["linearb", "linb"]
    table := "10000+b 1+19 1+12 1+1 1+e 2+d 22+7a"
    shared := "10100+2 4+2c 3+8"
    lent := "" },
  { names := ["lisu"]
    table := "a4d0+2f 7ab0"
    shared := "2bc 10 2d3c+1"
    lent := "" },
  { names := ["lycian", "lyci"]
    table := "10280+1c"
    shared := "205a"
    lent := "" },
  { names := ["lydian", "lydi"]
    table := "10920+19 5"
    shared := "b7 2d79"
    lent := "" },
  { names := ["mahajani", "mahj"]
    table := "11150+26"
    shared := "b7 8ac+b 9ec0+9"
    lent := "" },
  { names := ["makasar", "maka"]
    table := "11ee0+18"
    shared := ""
    lent := "" },
  { names := ["mandaic", "mand"]
    table := "840+1b 2"
    shared := "640"
    lent := "" },
  { names := ["manichaean", "mani"]
    table := "10ac0+26 4+b"
    shared := "640"
    lent := "" },
  { names := ["marchen", "marc"]
    table := "11c70+1f 2+15 1+d"
    shared := ""
    lent := "" },
  { names := ["medefaidrin", "medf"]
    table := "16e40+5a"
    shared := ""
    lent := "" },
  { names := ["mendekikakui", "mend"]
    table := "1e800+c4 2+f"
    shared := ""
    lent := "" },
  { names := ["meroiticcursive", "merc"]
    table := "109a0+17 4+13 2+2d"
    shared := ""
    lent := "" },
  { names := ["meroitichieroglyphs", "mero"]
    table := "10980+1f"
    shared := "205d"
    lent := "" },
  { names := ["malayalam", "mlym"]
    table := "d00+c 1+2 1+32 1+2 1+5 4+f 2+19"
    shared := "951+1 11+1 1374 17 8b3d+2"
    lent := "" },
  { names := ["modi"]
    table := "11600+44 b+9"
    shared := "a830+9"
    lent := "" },
  { names := ["mongolian", "mong"]
    table := "1800+1 2 1+13 6+58 7+2a fdb5+c"
    shared := "1802+1 1 829 fd1+1 5+3"
    lent := "" },
  { names := ["mro", "mroo"]
    table := "16a40+1e 1+9 4+1"
    shared := ""
    lent := "" },
  { names := ["meeteimayek", "mtei"]
    table := "aae0+16 c9+2d 2+9"
    shared := ""
    lent := "" },
  { names := ["multani", "mult"]
    table := "11280+6 1 1+3 1+e 1+a"
    shared := "a66+9"
    lent := "" },
  { names := ["myanmar", "mymr"]
    table := "1000+9f 9940+1e 61+1f 6c50+13"
    shared := "a92e"
    lent := "" },
  { names := ["nagmundari", "nagm"]
    table := "1e4d0+29"
    shared := ""
    lent := "" },
  { names := ["nandinagari", "nand"]
    table := "119a0+7 2+2d 2+a"
    shared := "951 12+1 380+9 ff9 8 7 8b35+5"
    lent := "" },
  { names := ["oldnortharabian", "narb"]
    table := "10a80+1f"
    shared := ""
    lent := "" },
  { names := ["nabataean", "nbat"]
    table := "10880+1e 8+8"
    shared := ""
    lent := "" },
  { names := ["newa"]
    table := "11400+5b 1+4"
    shared := ""
    lent := "" },
  { names := ["nko", "nkoo"]
    table := "7c0+3a 2+2"
    shared := "60c e 3 f71e+1"
    lent := "" },
  { names := ["nushu", "nshu"]
    table := "16fe1 418e+18b"
    shared := ""
    lent := "" },
  { names := ["ogham", "ogam"]
    table := "1680+1c"
    shared := ""
    lent := "" },
  { names := ["olchiki", "olck"]
    table := "1c50+2f"
    shared := ""
    lent := "" },
  { names := ["oldturkic", "orkh"]
    table := "10c00+48"
    shared := "205a dd5"
    lent := "" },
  { names := ["oriya", "orya"]
    table := "b01+2 1+7 2+1 2+15 1+6 1+1 1+4 2+8 2+1 2+2 7+2 4+1 1+4 2+11"
    shared := "951+1 11+1 1374 17"
    lent := "" },
  { names := ["osage", "osge"]
    table := "104b0+23 4+23"
    shared := "301 2 6 4c"
    lent := "" },
  { names := ["osmanya", "osma"]
    table := "10480+1d 2+9"
    shared := ""
    lent := "" },
  { names := ["olduyghur", "ougr"]
    table := "10f70+19"
    shared := "640 104b1"
    lent := "" },
  { names := ["palmyrene", "palm"]
    table := "10860+1f"
    shared := ""
    lent := "" },
  { names := ["paucinhau", "pauc"]
    table := "11ac0+38"
    shared := ""
    lent := "" },
  { names := ["oldpermic", "perm"]
    table := "10350+2a"
    shared := "b7 248 5+2 a 16f"
    lent := "" },
  { names := ["phagspa", "phag"]
    table := "a840+37"
    shared := "1802+1 1 829 fd2"
    lent := "" },
  { names := ["inscriptionalpahlavi", "phli"]
    table := "10b60+12 5+7"
    shared := ""
    lent := "" },
  { names := ["psalterpahlavi", "phlp"]
    table := "10b80+11 7+3 c+6"
    shared := "640"
    lent := "" },
  { names := ["phoenician", "phnx"]
    table := "10900+1b 3"
    shared := ""
    lent := "" },
  { names := ["miao", "plrd"]
    table := "16f00+4a 4+38 7+10"
    shared := ""
    lent := "" },
  { names := ["inscriptionalparthian", "prti"]
    table := "10b40+15 2+7"
    shared := ""
    lent := "" },
  { names := ["rejang", "rjng"]
    table := "a930+23 b"
    shared := ""
    lent := "" },
  { names := ["hanifirohingya", "rohg"]
    table := "10d00+27 8+9"
    shared := "60c e 3 20 93"
    lent := "" },
  { names := ["runic", "runr"]
    table := "16a0+4a 3+a"
    shared := "16eb+2"
    lent := "" },
  { names := ["samaritan", "samr"]
    table := "800+2d 2+e"
    shared := "2e31"
    lent := "" },
  { names := ["oldsoutharabian", "sarb"]
    table := "10a60+1f"
    shared := ""
    lent := "" },
  { names := ["saurashtra", "saur"]
    table := "a880+45 8+b"
    shared := ""
    lent := "" },
  { names := ["signwriting", "sgnw"]
    table := "1d800+28b f+4 1+e"
    shared := ""
    lent := "" },
  { names := ["shavian", "shaw"]
    table := "10450+2f"
    shared := "b7"
    lent := "" },
  { names := ["sharada", "shrd"]
    table := "11180+5f"
    shared := "951 1385 1 2+1 2 8b4f+5 2"
    lent := "" },
  { names := ["siddham", "sidd"]
    table := "11580+35 2+25"
    shared := ""
    lent := "" },
  { names := ["khudawadi", "sind"]
    table := "112b0+3a 5+9"
    shared := "964+1 9eca+9"
    lent := "" },
  { names := ["sinhala", "sinh"]
    table := "d81+2 1+11 3+17 1+8 1 2+6 3 4+5 1 1+7 6+9 2+2 103ec+13"
    shared := "964+1 138c"
    lent := "" },
  { names := ["sogdian", "sogd"]
    table := "10f30+29"
    shared := "640"
    lent := "" },
  { names := ["oldsogdian", "sogo"]
    table := "10f00+27"
    shared := ""
    lent := "" },
  { names := ["sorasompeng", "sora"]
    table := "110d0+18 7+9"
    shared := ""
    lent := "" },
  { names := ["soyombo", "soyo"]
    table := "11a50+52"
    shared := ""
    lent := "" },
  { names := ["sundanese", "sund"]
    table := "1b80+3f 100+7"
    shared := ""
    lent := "" },
  { names := ["sylotinagri", "sylo"]
    table := "a800+2c"
    shared := "964+1 80+9"
    lent := "" },
  { names := ["syriac", "syrc"]
    table := "700+d 1+3b 2+2 110+a"
    shared := "303+1 2+1 1 15 2+2 7+1 1 2db e+1 2 20 a+a 1a 1787 1"
    lent := "" },
  { names := ["tagbanwa", "tagb"]
    table := "1760+c 1+2 1+1"
    shared := "1735+1"
    lent := "" },
  { names := ["takri", "takr"]
    table := "11680+39 6+9"
    shared := "964+1 9eca+9"
    lent := "" },
  { names := ["taile", "tale"]
    table := "1950+1d 2+4"
    shared := "300+1 5+1 3 d33+9"
    lent := "" },
  { names := ["newtailue", "talu"]
    table := "1980+2b 4+19 6+a 3+1"
    shared := ""
    lent := "" },
  { names := ["tamil", "taml"]
    table := "b82+1 1+5 3+2 1+3 3+1 1 1+1 3+1 3+2 3+b 4+4 3+2 1+3 2 6 e+14 113c5+31 d"
    shared := "951+1 11+1 1374 8c18 6a0d 1 37+1"
    lent := "" },
  { names := ["tangut", "tang"]
    table := "16fe0 1f+17f7 8+2ff 200+8"
    shared := "2ff0+f 1ef"
    lent := "" },
  { names := ["taiviet", "tavt"]
    table := "aa80+42 18+4"
    shared := ""
    lent := "" },
  { names := ["telugu", "telu"]
    table := "c00+c 1+2 1+16 1+f 2+8 1+2 1+3 7+1 1+2 2 2+3 2+9 7+8"
    shared := "951+1 11+1 136f+1 1 1 17"
    lent := "" },
  { names := ["tifinagh", "tfng"]
    table := "2d30+37 7+1 e"
    shared := "302 1 2 1"
    lent := "" },
  { names := ["tagalog", "tglg"]
    table := "1700+15 9"
    shared := "1735+1"
    lent := "" },
  { names := ["thaana", "thaa"]
    table := "780+31"
    shared := "60c e+1 2 40+9 f788 a"
    lent := "" },
  { names := ["thai"]
    table := "e01+39 5+1b"
    shared := "2bc 1a 2b 2d"
    lent := "" },
  { names := ["tibetan", "tibt"]
    table := "f00+47 1+23 4+26 1+23 1+e 1+6 4+1"
    shared := "3008+3"
    lent := "" },
  { names := ["tirhuta", "tirh"]
    table := "11480+47 8+9"
    shared := "951+1 11+1 138c 8b3d+9"
    lent := "" },
  { names := ["tangsa", "tnsa"]
    table := "16a70+4e 1+9"
    shared := ""
    lent := "" },
  { names := ["toto"]
    table := "1e290+1e"
    shared := "2bc"
    lent := "" },
  { names := ["ugaritic", "ugar"]
    table := "10380+1d 1"
    shared := ""
    lent := "" },
  { names := ["vai", "vaii"]
    table := "a500+12b"
    shared := ""
    lent := "" },
  { names := ["vithkuqi", "vith"]
    table := "10570+a 1+e 1+6 1+1 1+a 1+e 1+6 1+1"
    shared := ""
    lent := "" },
  { names := ["warangciti", "wara"]
    table := "118a0+52 c"
    shared := ""
    lent := "" },
  { names := ["wancho", "wcho"]
    table := "1e2c0+39 5"
    shared := ""
    lent := "" },
  { names := ["oldpersian", "xpeo"]
    table := "103a0+23 4+d"
    shared := ""
    lent := "" },
  { names := ["cuneiform", "xsux"]
    table := "12000+399 66+6e 1+4 b+c3"
    shared := ""
    lent := "" },
  { names := ["yezidi", "yezi"]
    table := "10e80+29 1+2 2+1"
    shared := "60c e 3 40+9"
    lent := "" },
  { names := ["yi", "yiii"]
    table := "a000+48c 3+36"
    shared := "3001+1 5+9 2+7 df ce65+4"
    lent := "" },
  { names := ["zanabazarsquare", "zanb"]
    table := "11a00+47"
    shared := ""
    lent := "" },
  { names := ["inherited", "zinh", "qaai"]
    table :=
      "300+6f 115+1 1c4+a 1a 2e0+3 115b+1e 201+2 1+c 1+6 4 6 3+1 c6+3f 20c+1 c2+20 f39+3 6b+1 " ++
      "cd65+f 10+d 3cf e2 105a bbc4+2d 2+16 220+2 11+7 2+6 1e+3 c2f52+ef"
    shared := ""
    lent :=
      "300+e 1+1 1 c 2+2 7+1 1+1 10 2 12 5 4+c 115+1 1c4+a 1a 2e0+1 137d+2 1+c 1+6 4 6 3+1 " ++
      "c6+1 36 1 2f5 f39+3 6b+1 d245 105a" },
  { names := ["common", "zyyy"]
    table :=
      "0+40 1a+5 1a+2e 1+e 1+4 17 1f 1c1+26 5+4 2+13 74 9 6 1 27d 6 e 3 20 9c 204 81+1 4d9 " ++
      "195+3 122 5ef+2 47+1 cb+1 1 4cd d 7+3 1+5 1+2 2 305+b 2+56 1+a 3+a 1+e 11+20 3f+25 1+2 " ++
      "2+5 1+1a 1+10 29+2 4+299 16+a 15+39f 100+273 2+1f 1+68 200+5d 192+14 1 1+18 f+7 4+3 " ++
      "5b+1 3 5a+1 93+f 20+25 9 30+3f 1f+50 2f 58+a7 19c0+3f 5900+21 66+2 a5+9 f4 a0 18b e+1 " ++
      "51d2+1 d0+9 16+22 1+12 1+3 93 1+1f 1a+5 1a+a a 2d+1 40+6 1+6 a+4 102+2 4+2c 3+8 50+c " ++
      "33+2c e4+1a b9a4+3 f5c+f9 6+1b3 9c+73 3c+f5 a+26 2+3d 3+10 8+1 7+1d 4+3c d5+13 c+13 " ++
      "c+56 9+18 87+54 1+46 1+1 2 2+1 2+3 1+b 1 1+6 1+40 1+3 2+7 1+6 1+1b 1+3 1+4 1 3+6 1+153 " ++
      "2+123 2+31 1471+43 4c+3c 2c2+2b 4+63 c+e 2+e 1+e 1+24 a+ad 38+19 1+1 d+2b 4+8 7+1 e+5 " ++
      "9a+3d7 4+10 3+c 3+76 4+5e 6+b 4 f+b 4+37 8+9 6+27 8+1d 2+b 4+1 3e+153 c+d 2+c 3+9 5+37 " ++
      "7+e 2+a 6+8 7+92 1+65 c0407 1e+5f"
    shared := ""
    lent :=
      "b7 204 a 1+2 1 9 1 9a 297 e 3 20 323+1 795 5ef+2 47+1 cb+1 1 4cd d 7+3 1+5 1+2 2 334 " ++
      "1f a 2 db9 18+1 a 4 1 1ac+f 1+2 2 1+9 1+c 10+5 1 4+3 5b+1 3 5a+1 93+f 20+25 9 30+27 " ++
      "38+30 f+b 33 58+18 a+4 60+1e 7301+7 128+9 f4 a0 536e+1 105+1 11a+4 a 2d+1 160+2 4+2c " ++
      "3+8 1a1+1a b9a4+3 16bc+11 1ede+1" },
  { names := ["garay", "gara"]
    table := "10d40+25 3+1c 8+1"
    shared := "60c e 3"
    lent := "" },
  { names := ["gurungkhema", "gukh"]
    table := "16100+39"
    shared := "965"
    lent := "" },
  { names := ["kiratrai", "krai"]
    table := "16d40+39"
    shared := ""
    lent := "" },
  { names := ["olonal", "onao"]
    table := "1e5d0+2a 4"
    shared := "964+1"
    lent := "" },
  { names := ["sunuwar", "sunu"]
    table := "11bc0+21 e+9"
    shared := "300+1 1 9 2 1c 3"
    lent := "" },
  { names := ["todhri", "todr"]
    table := "105c0+33"
    shared := "301 2 2 9 1 4a"
    lent := "" },
  { names := ["tulutigalari", "tutg"]
    table := "11380+9 1 2 1+25 1+9 1 2 1+3 1+9 1+1 8+1"
    shared := "ce6+9 1002 1 8b3b+5 bb"
    lent := "" }]

def find? (name : String) : Option Script :=
  all.find? fun script => script.names.contains name

end Script

end LiteralAudit
