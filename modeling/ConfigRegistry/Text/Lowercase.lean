import ConfigRegistry.Text.Runs

/-!
Lower-casing of text in any script. A capital sigma at the end of a word becomes the final form,
and the dotted capital I becomes two characters; every other character has one lower-case form.
-/
namespace ConfigRegistry.Text

def caseRuns : Runs := Runs.ofText
  "c0 17 1 40 d8 7 1 40 100 18 2 2 132 3 2 2 139 8 2 2 14a 17 2 2 178 1 1 f1 179 3 2 2 181 1 1
    1a4 182 2 2 2 186 1 1 19c 187 1 1 2 189 2 1 19a 18b 1 1 2 18e 1 1 9e 18f 1 1 194 190 1 1 196
    191 1 1 2 193 1 1 19a 194 1 1 19e 196 1 1 1a6 197 1 1 1a2 198 1 1 2 19c 1 1 1a6 19d 1 1 1aa
    19f 1 1 1ac 1a0 3 2 2 1a6 1 1 1b4 1a7 1 1 2 1a9 1 1 1b4 1ac 1 1 2 1ae 1 1 1b4 1af 1 1 2 1b1 2
    1 1b2 1b3 2 2 2 1b7 1 1 1b6 1b8 1 1 2 1bc 1 1 2 1c4 1 1 4 1c5 1 1 2 1c7 1 1 4 1c8 1 1 2 1ca 1
    1 4 1cb 9 2 2 1de 9 2 2 1f1 1 1 4 1f2 2 2 2 1f6 1 1 c1 1f7 1 1 6f 1f8 14 2 2 220 1 1 103 222 9
    2 2 23a 1 1 5456 23b 1 1 2 23d 1 1 145 23e 1 1 5450 241 1 1 2 243 1 1 185 244 1 1 8a 245 1 1
    8e 246 5 2 2 370 2 2 2 376 1 1 2 37f 1 1 e8 386 1 1 4c 388 3 1 4a 38c 1 1 80 38e 2 1 7e 391 11
    1 40 3a3 9 1 40 3cf 1 1 10 3d8 c 2 2 3f4 1 1 77 3f7 1 1 2 3f9 1 1 d 3fa 1 1 2 3fd 3 1 103 400
    10 1 a0 410 20 1 40 460 11 2 2 48a 1b 2 2 4c0 1 1 1e 4c1 7 2 2 4d0 30 2 2 531 26 1 60 10a0 26
    1 38c0 10c7 1 1 38c0 10cd 1 1 38c0 13a0 50 1 12fa0 13f0 6 1 10 1c90 2b 1 177f 1cbd 3 1 177f
    1e00 4b 2 2 1e9e 1 1 3b7d 1ea0 30 2 2 1f08 8 1 f 1f18 6 1 f 1f28 8 1 f 1f38 8 1 f 1f48 6 1 f
    1f59 4 2 f 1f68 8 1 f 1f88 8 1 f 1f98 8 1 f 1fa8 8 1 f 1fb8 2 1 f 1fba 2 1 93 1fbc 1 1 11 1fc8
    4 1 ab 1fcc 1 1 11 1fd8 2 1 f 1fda 2 1 c7 1fe8 2 1 f 1fea 2 1 df 1fec 1 1 d 1ff8 2 1 ff 1ffa 2
    1 fb 1ffc 1 1 11 2126 1 1 3ab9 212a 1 1 417d 212b 1 1 408b 2132 1 1 38 2160 10 1 20 2183 1 1 2
    24b6 1a 1 34 2c00 30 1 60 2c60 1 1 2 2c62 1 1 53ed 2c63 1 1 1dcb 2c64 1 1 53cd 2c67 3 2 2 2c6d
    1 1 5437 2c6e 1 1 53f9 2c6f 1 1 543d 2c70 1 1 543b 2c72 1 1 2 2c75 1 1 2 2c7e 2 1 547d 2c80 32
    2 2 2ceb 2 2 2 2cf2 1 1 2 a640 17 2 2 a680 e 2 2 a722 7 2 2 a732 1f 2 2 a779 2 2 2 a77d 1 1
    11407 a77e 5 2 2 a78b 1 1 2 a78d 1 1 14a4f a790 2 2 2 a796 a 2 2 a7aa 1 1 14a87 a7ab 1 1 14a9d
    a7ac 1 1 14a95 a7ad 1 1 14a81 a7ae 1 1 14a87 a7b0 1 1 14a23 a7b1 1 1 14a53 a7b2 1 1 14a29 a7b3
    1 1 740 a7b4 8 2 2 a7c4 1 1 5f a7c5 1 1 14a85 a7c6 1 1 1146f a7c7 2 2 2 a7d0 1 1 2 a7d6 2 2 2
    a7f5 1 1 2 ff21 1a 1 40 10400 28 1 50 104b0 24 1 50 10570 b 1 4e 1057c f 1 4e 1058c 7 1 4e
    10594 2 1 4e 10c80 33 1 80 118a0 20 1 40 16e40 20 1 40 1e900 22 1 44"

def casedRanges : Ranges := Ranges.ofText
  "41 19 7 19 30 0 b 0 5 0 6 16 2 1e 2 c2 2 3 5 cf 2 23 8 1 1f 4 61 0 2b 3 3 1 3 3 2 0 7 0 2 2 2
    0 2 13 2 52 2 8a 9 a5 2 25 a 28 b18 25 2 0 6 0 3 2a 2 3 2a1 55 3 5 883 8 8 2a 3 2 41 bf 41 115
    3 5 3 25 3 5 3 7 2 0 2 0 2 0 2 1e 3 34 2 6 2 0 4 2 2 6 4 3 3 5 5 c 6 2 2 6 75 0 e 0 11 c 66 0
    5 0 3 9 2 0 4 4 7 0 2 0 2 0 2 3 2 5 5 0 3 3 6 4 5 0 12 1f 4 1 332 33 717 e4 7 3 4 1 d 25 2 0 6
    0 7913 2d 13 1d 85 65 4 3 2 3a 6 1 2 0 2 4 19 4 2 2 336 2a 2 d 7 4f 4f41 6 d 4 40a 19 7 19 4a6
    4f 61 23 5 23 75 a 2 e 2 6 2 1 2 a 2 e 2 6 2 1 1c4 0 3 2 2 29 2 8 4c6 32 e 32 bae 3f 5561 3f
    6581 54 2 46 2 1 3 0 3 1 3 3 2 b 2 0 2 6 2 40 2 3 3 7 2 6 2 1b 2 3 2 4 2 0 4 6 2 153 3 18 2 18
    2 1e 2 18 2 1e 2 18 2 1e 2 18 2 1e 2 18 2 7 735 9 2 13 7 5 106 3d 893 43 7ed 19 7 19 7 19"

def ignorableRanges : Ranges := Ranges.ofText
  "27 0 7 0 c 0 24 0 2 0 48 0 5 0 2 0 5 0 3 1 1f8 bf 5 1 5 0 a 1 2 0 fc 6 d0 0 6 0 32 2c 2 0 2 1
    2 1 2 0 2d 0 c 5 b a 2 0 24 0 b 14 11 0 66 7 2 9 2 3 22 0 2 0 1f 1a 5c a 3b a 5 0 3 0 19 17 2c
    2 2d 0 8 1 7 7 2a 39 38 0 2 0 5 7 5 0 4 6 b 1 e 0 10 0 3b 0 5 3 9 0 15 1 1b 0 3 1 3a 0 5 1 5 1
    3 2 4 0 1f 1 4 0 c 1 3a 0 5 4 2 1 5 0 15 1 17 5 2 0 3b 0 3 0 2 3 9 0 8 1 c 1 1f 0 3e 0 d 0 33
    0 4 0 38 0 2 2 6 2 2 3 8 1 c 1 1e 0 3b 0 3 0 7 0 6 1 15 1 1d 1 3a 1 5 3 9 0 15 1 1e 0 49 0 8 2
    2 0 5b 0 3 6 c 8 63 0 3 8 a 0 2 6 4a 1 1c 0 2 0 2 0 38 d 2 4 2 1 6 a 2 23 a 0 67 3 2 5 2 1 3 1
    1a 1 5 2 11 3 e 0 3 1 7 0 10 0 5f 0 261 2 3b3 2 1e 1 1f 1 1f 1 41 1 2 6 9 0 3 a 4 0 6 0 2e 4
    34 0 42 1 23 0 77 2 5 1 a 0 7 2 dc 1 3 0 3b 0 2 6 2 0 2 0 3 7 7 9 3 0 28 0 9 1e 32 3 31 0 2 4
    2 0 6 0 29 8 d 1 21 3 3 1 2 2 39 0 2 1 4 0 2 2 3b 7 3 1 41 5 53 2 2 c 2 6 5 0 7 0 4 1 33 3e e
    0 23 64 1be 0 2 2 c 2 e 2 e 2 e 1 d 4 9 1 b 0 3 0 3 4 32 4 2 9 2 0 e 0 11 c 34 20 b8c 1 72 2
    7e 0 10 0 61 1f 30 0 1d6 0 25 3 4 4 6 0 5e 5 5e 2 6f17 0 4e3 5 10f 0 63 3 2 9 2 0 1d 3 51 1 f
    21 4f 0 18 2 68 2 4 1 9 0 4 0 5 0 1a 1 6 0 98 1 1b 11 e 0 27 7 1a a 2f 2 31 0 3 3 3 1 12 0 16
    1 43 5 3 1 3 1 d 0 9 0 24 0 c 0 34 0 2 2 3 1 6 1 2 0 1c 0 f 1 6 1 2 0 65 4 a 2 7a 0 3 0 5 0
    4f31 0 94 10 23e f 4 0 d f 23 0 3 0 aa 0 8 0 7 0 c 0 24 0 2 0 30 0 2e 1 44 0 16 2 202 0 e3 0
    96 4 406 5 2 29 2 8 247 2 2 1 6 3 29 2 5 0 a6 1 23e 3 184 1 51 2 47 a 32 3 7c 0 37 e 2a 0 3 1
    b 2 32 3 3 1 3 0 5 0 b 0 33 2 25 4 2 7 3f 0 d 1 35 8 b 3 3 0 60 2 3 0 2 1 7 0 3 0 9e 0 4 7 16
    1 3a 1 4 0 26 6 4 4 c4 7 3 2 2 0 18 0 55 5 2 0 5 1 2 1 ef 3 7 1 2 1 1c 1 56 7 3 0 2 1 6b 0 2 0
    3 5 2 0 66 2 3 3 2 4 104 8 2 1 101 1 2 0 5 0 91 3 3 1 5 0 21 9 29 5 3 3 9 0 a 5 3 2 2f c 2 1
    197 6 2 5 2 0 53 15 3 6 2 1 2 1 7b 5 4 0 2 1 2 6 2 0 49 1 4 0 2 0 15c 1 c 1 35 4 6 0 2 0 14ee
    10 7 e 369b 4 3c 6 a 3 40c 0 40 10 41 1 2 1 400c 3 2 6 2 1 c9f 1 2 3 125d 2d 3 16 221 2 a f 3
    6 1f 3 95 2 7bc 36 5 31 9 0 f 0 17 4 2 e 551 6 2 10 3 6 2 1 2 4 6 3d 22 0 a1 d 171 0 3e 3 1fc
    4 3e1 6 6e 7 ab0 4 c0c02 0 1f 5f 81 ef"

def lowerChar (c : Char) : Char :=
  if c.toNat < 0x80 then c.toLower else ((caseRuns.image? c.toNat).map Char.ofNat).getD c

/-- Whether the first character that is not passed over has a case. -/
def meetsCased (l : List Char) : Bool :=
  match l.dropWhile fun c => ignorableRanges.contains c.toNat with
  | [] => false
  | c :: _ => casedRanges.contains c.toNat

/-- Lower-cases text behind the characters already passed, which stand in reverse. -/
def lowerFrom (passed : List Char) : List Char → List Char
  | [] => []
  | c :: rest =>
    let small :=
      if c = '\u03a3' then
        [if meetsCased passed && !meetsCased rest then '\u03c2' else '\u03c3']
      else if c = '\u0130' then ['i', '\u0307']
      else [lowerChar c]
    small ++ lowerFrom (c :: passed) rest

def lowercase (s : String) : String := String.ofList (lowerFrom [] s.toList)

end ConfigRegistry.Text
