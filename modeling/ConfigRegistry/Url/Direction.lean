import ConfigRegistry.Text.Ranges

/-!
The direction of text in a domain. Once a domain holds a character that runs from right to left,
every label has one direction, starts with a letter of it, and ends with a letter of it or a digit.
-/
namespace ConfigRegistry.Url

open Text

inductive Direction where
  | left
  | right
  | europeanDigit
  | arabicDigit
  | mark
  | neutral
deriving DecidableEq, Repr

namespace Direction

def rightRanges : Ranges := Ranges.ofText
  "590 0 2e 0 2 0 3 0 3 0 2 37 9 0 3 0 2 0 e 2f 23 2 2 64 10 1 8 1 b 16 2 1d 1c 5a c 39 a 1 5 2 2
    17 5 0 a 0 4 0 6 2a 4 33 3 5 9 29 1746 0 db0e 0 2 9 2 213 13 7e 22 c 74 8e 902 11e 2 e0 4 0 3 4
    5 27 4 3 2 a4 3 51 8 1e3 5 7 b 125 20 2b 3 4f 4 45 c 30 5 79 d801 cf 8 6c 8 5a4 3 10d"

def europeanRanges : Ranges := Ranges.ofText
  "30 9 79 1 6 0 637 9 1977 0 4 5 7 9 3ff 13 da75 9 3c8 1a d4d3 31 1901 a ae6 9"

def arabicRanges : Ranges := Ranges.ofText
  "600 5 5b 9 2 1 71 0 1b3 1 51 0 1044e 9 127 1e"

def markRanges : Ranges := Ranges.ofText
  "300 6f 114 6 108 2c 2 0 2 1 2 1 2 0 49 a 31 14 11 0 66 6 3 5 3 1 2 3 24 0 1f 1a 5c a 3b 8 a 0
    19 3 2 8 2 2 2 4 2c 2 3d 7 2b 17 2 1f 38 0 2 0 5 7 5 0 4 6 b 1 1e 0 3b 0 5 3 9 0 15 1 1b 0 3 1
    3a 0 5 1 5 1 3 2 4 0 1f 1 4 0 c 1 3a 0 5 4 2 1 5 0 15 1 17 5 2 0 3b 0 3 0 2 3 9 0 8 1 c 1 1f 0
    3e 0 d 0 33 0 4 0 38 0 2 2 6 2 2 3 8 1 c 1 1e 0 3b 0 10 1 15 1 1d 1 3a 1 5 3 9 0 15 1 1e 0 49 0
    8 2 2 0 5b 0 3 6 d 7 63 0 3 8 c 6 4a 1 1c 0 2 0 2 0 38 d 2 4 2 1 6 a 2 23 a 0 67 3 2 5 2 1 3 1
    1a 1 5 2 11 3 e 0 3 1 7 0 10 0 2c0 2 3b3 2 1e 1 1f 1 1f 1 41 1 2 6 9 0 3 a a 0 2e 2 2 0 76 1 23
    0 77 2 5 1 a 0 7 2 dc 1 3 0 3b 0 2 6 2 0 2 0 3 7 7 9 3 0 31 1e 32 3 31 0 2 4 2 0 6 0 29 8 d 1
    21 3 3 1 2 2 39 0 2 1 4 0 2 2 3b 7 3 1 99 2 2 c 2 6 5 0 7 0 4 1 c7 3f 2d1 20 bff 2 8e 0 61 1f
    22b 3 6c 1 75d5 3 2 9 21 1 51 1 111 0 4 0 5 0 1a 1 6 0 98 1 1b 11 e 0 27 7 1a a 2f 2 31 0 3 3 3
    1 28 0 44 5 3 1 3 1 d 0 9 0 30 0 34 0 2 2 3 1 6 1 2 0 2b 1 9 0 ef 0 3 0 5 0 4f31 0 2e2 f 11 f
    3ce 0 e3 0 96 4 687 2 2 1 6 3 29 2 5 0 a6 1 23e 3 184 1 51 2 47 a 32 3 7c 0 37 e 2a 0 3 1 b 2
    32 3 3 1 8 0 3e 2 25 4 2 7 3f 0 d 1 35 8 b 3 3 0 60 2 3 0 2 1 7 0 3 0 9e 0 4 7 16 1 3a 1 4 0 26
    6 4 4 c4 7 3 2 2 0 18 0 55 5 2 0 5 1 2 1 ef 3 7 1 2 1 1c 1 56 7 3 0 2 1 6b 0 2 0 3 5 2 0 66 2 3
    3 2 4 104 8 2 1 101 1 2 0 5 0 91 3 3 1 5 0 21 5 3 1 29 5 3 3 9 0 a 5 3 2 2f c 2 1 197 6 2 5 55
    15 3 6 2 1 2 1 7b 5 4 0 2 1 2 6 2 0 49 1 4 0 2 0 15c 1 c 1 35 4 6 0 2 0 14fe 0 7 e 369b 4 3c 6
    419 0 40 3 52 0 4cb9 1 1262 2d 3 16 221 2 12 7 3 6 1f 3 95 2 7bc 36 5 31 9 0 f 0 17 4 2 e 551 6
    2 10 3 6 2 1 2 4 65 0 a1 6 178 0 3e 3 1fd 3 3e1 6 6e 6 c17b6 ef"

/-- Signs, separators and other characters without a direction. -/
def neutralRanges : Ranges := Ranges.ofText
  "0 8 6 d 6 e b 6 1b 5 1b 9 2 23 2 6 3 0 2 2 3 4 18 0 20 0 1c2 1 8 d 3 d 6 8 2 10 75 1 9 0 6 1 2
    0 6f 0 194 0 3 2 77 1 2 1 2 0 2 1 5b 0 74 0 b 0 10d 3 1f9 1 8 0 f6 0 102 7 7e 6 1c1 0 fb 3 453
    9 67 0 29b 1 13f 0 15 9 7 a 4 0 132 0 4 1 99 21 5be 0 2 2 c 2 e 2 e 2 e 1 d 2 3 17 8 2f 2 5 5 5
    b 4 c 4 12 2f 31 1 2 3 2 1 b 0 2 2 6 5 2 0 2 0 2 0 5 0 c 1 5 4 6 3 3 f 2a 2 5 1a5 46 19 2 90 1a
    a 16 27 63 1c1 2 152 101 273 3 1f 2 68 e6 5 f 6 101 5d 23 19 2 58 d d5 1b b 6 3 4 18 10 0 6 1 6
    2 5c 1 4 0 5b 0 c5 23 3a 1 32 f 1d 2 33 e d 3 a8 3 64 1 20 0 19c1 3f 5691 36 147 2 64 0 b 1 81
    21 67 0 a0 3 d 1 3b 3 2f3 1 4fbe 0 215 11 80 20 e 2 11 9 17 22 2 12 2 3 94 0 2 e b 6 1b 5 1b a
    7b 6 2 6 2 f 102 0 3f 4c 4 c 4 0 77f 0 21a 6 513 13 5fb c 969 1c 4ff1 0 4cbe 3 14d0 7 6f 1 16
    41 4 0 bb 56 385 0 3a 0 3a 0 3a 0 3a 0 b3c 0 bf1 1 10f 2b 5 63 d e 3 e 2 e 2 24 16 4 20 0 3b 5
    3e 0 b3 5 9b 3d7 5 10 4 c 4 76 5 5e 7 b 5 0 10 b 5 37 9 9 7 27 9 1d 3 1 4f 153 d d 3 c 4 8 8 2d
    2 6 9 d 5 8 8 8 8 92 2 36 434 1 ffff 1 ffff 1 ffff 1 ffff 1 ffff 1 ffff 1 ffff 1 ffff 1 ffff 1
    ffff 1 ffff 1 ffff 101 f1 e0f efff 1 ffff 1 ffff 1"

def ofChar (c : Char) : Direction :=
  let n := c.toNat
  if rightRanges.contains n then .right
  else if europeanRanges.contains n then .europeanDigit
  else if arabicRanges.contains n then .arabicDigit
  else if markRanges.contains n then .mark
  else if neutralRanges.contains n then .neutral
  else .left

/-- Whether a character makes its domain one that runs from right to left. -/
def turns (d : Direction) : Bool := d == .right || d == .arabicDigit

def agreeLeft (ds : List Direction) (last : Direction) : Bool :=
  ds.all (fun d => d != .right && d != .arabicDigit) && (last == .left || last == .europeanDigit)

/-- Whether the directions of a label that starts from the right agree; digits are of one kind. -/
def agreeRight (ds : List Direction) (last : Direction) : Bool :=
  ds.all (· != .left) && !(ds.contains .europeanDigit && ds.contains .arabicDigit) &&
    (last == .right || last == .europeanDigit || last == .arabicDigit)

/-- Whether the directions of a label agree; marks at its end do not count as its end. -/
def agree (ds : List Direction) : Bool :=
  match ds, (ds.reverse.dropWhile (· == .mark)).head? with
  | [], _ => true
  | .left :: _, some last => agreeLeft ds last
  | .right :: _, some last => agreeRight ds last
  | _, _ => false

end Direction

end ConfigRegistry.Url
