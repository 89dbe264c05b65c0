import ConfigRegistry.Text.Composed

/-!
Where the two invisible joiners may stand in a domain: behind a mark that silences a vowel, and the
one that separates also between letters that would join without it.
-/
namespace ConfigRegistry.Url

open Text

def joiningForward : Ranges := Ranges.ofText
  "a872 0 625b 0 a 0 229 0 2cb 0"

def joiningBackward : Ranges := Ranges.ofText
  "622 3 2 0 2 0 6 3 16 0 29 2 2 2 11 11 27 0 3 8 2 0 2 0 3 1 2 0 19 1 21 0 5 4 5 0 a 0 2 0 2 0 3
    0 1e 0 c 2 10 1 5 0 2 1 4 1 c7 0 6 1 2 0 b 0 2 2 f 0 2 1 6 12 c 0 1c 2 2 0 3 1 7 0 1020c 0 2 0
    2 1 4 4 b 0 4 0 3 0 b 0 92 0 2 2 4 0 3 0 2 1 2 0 18 3 176 0 211 0 21 0 20 1 3f 2 3 1 3 0 5 1 6
    0"

def joiningBoth : Ranges := Ranges.ofText
  "620 0 6 0 2 0 2 4 5 c 2 6 2 1 24 1 9 f 13 25 2 1 a 0 2 0 2 1 29 2 3 0 13 2 6 3 2 8 2 0 2 0 2 1
    20 a 4 e 3 3 2 0 3 2 3 5 4b 20 57 4 3 0 2 9 2 0 b 0 2 3 3 0 1e 0 3 4 13 9 6 1 3 5 2 e f3f 0 19
    58 f 21 2 0 8f96 31 624f 4 f 3 2 4 2 2 b 3 92 0 2 0 4 2 2 1 2 0 3 0 1d 1 153 20 2 0 20d 2 2 10
    d 2 1d 3 3 b 2f 0 2 1 5 0 3 1 2 1 2 0 3 0 6 0 d936 43"

def joiningThrough : Ranges := Ranges.ofText
  "ad 0 253 6f 114 6 108 2c 2 0 2 1 2 1 2 0 49 a 2 0 2f 14 11 0 66 6 3 5 3 1 2 3 22 0 2 0 1f 1a 5c
    a 3b 8 a 0 19 3 2 8 2 2 2 4 2c 2 3d 7 2b 17 2 1f 38 0 2 0 5 7 5 0 4 6 b 1 1e 0 3b 0 5 3 9 0 15
    1 1b 0 3 1 3a 0 5 1 5 1 3 2 4 0 1f 1 4 0 c 1 3a 0 5 4 2 1 5 0 15 1 17 5 2 0 3b 0 3 0 2 3 9 0 8
    1 c 1 1f 0 3e 0 d 0 33 0 4 0 38 0 2 2 6 2 2 3 8 1 c 1 1e 0 3b 0 3 0 7 0 6 1 15 1 1d 1 3a 1 5 3
    9 0 15 1 1e 0 49 0 8 2 2 0 5b 0 3 6 d 7 63 0 3 8 c 6 4a 1 1c 0 2 0 2 0 38 d 2 4 2 1 6 a 2 23 a
    0 67 3 2 5 2 1 3 1 1a 1 5 2 11 3 e 0 3 1 7 0 10 0 2c0 2 3b3 2 1e 1 1f 1 1f 1 41 1 2 6 9 0 3 a a
    0 2e 2 2 0 76 1 23 0 77 2 5 1 a 0 7 2 dc 1 3 0 3b 0 2 6 2 0 2 0 3 7 7 9 3 0 31 1e 32 3 31 0 2 4
    2 0 6 0 29 8 d 1 21 3 3 1 2 2 39 0 2 1 4 0 2 2 3b 7 3 1 99 2 2 c 2 6 5 0 7 0 4 1 c7 3f 20c 0 3
    1 1b 4 32 4 6 5 61 20 bff 2 8e 0 61 1f 22b 3 6c 1 75d5 3 2 9 21 1 51 1 111 0 4 0 5 0 1a 1 6 0
    98 1 1b 11 e 0 27 7 1a a 2f 2 31 0 3 3 3 1 28 0 44 5 3 1 3 1 d 0 9 0 30 0 34 0 2 2 3 1 6 1 2 0
    2b 1 9 0 ef 0 3 0 5 0 4f31 0 2e2 f 11 f d0 0 fa 2 202 0 e3 0 96 4 687 2 2 1 6 3 29 2 5 0 a6 1
    23e 3 184 1 51 2 47 a 32 3 7c 0 37 e 2a 0 3 1 b 2 32 3 3 1 8 0 3e 2 25 4 2 7 3f 0 d 1 35 8 b 3
    3 0 60 2 3 0 2 1 7 0 3 0 9e 0 4 7 16 1 3a 1 4 0 26 6 4 4 c4 7 3 2 2 0 18 0 55 5 2 0 5 1 2 1 ef
    3 7 1 2 1 1c 1 56 7 3 0 2 1 6b 0 2 0 3 5 2 0 66 2 3 3 2 4 104 8 2 1 101 1 2 0 5 0 91 3 3 1 5 0
    21 9 29 5 3 3 9 0 a 5 3 2 2f c 2 1 197 6 2 5 2 0 53 15 3 6 2 1 2 1 7b 5 4 0 2 1 2 6 2 0 49 1 4
    0 2 0 15c 1 c 1 35 4 6 0 2 0 14ee 10 7 e 369b 4 3c 6 419 0 40 3 52 0 4cb9 1 2 3 125d 2d 3 16
    221 2 a f 3 6 1f 3 95 2 7bc 36 5 31 9 0 f 0 17 4 2 e 551 6 2 10 3 6 2 1 2 4 65 0 a1 6 178 0 3e
    3 1fd 3 3e1 6 6e 7 c16b6 0 1f 5f 81 ef"

def silencingClass : Nat := 9

def nearestLetter? (l : List Char) : Option Nat :=
  ((l.dropWhile fun c => joiningThrough.contains c.toNat).head?).map Char.toNat

/-- Whether a separator stands between letters that would join. -/
def parts (before after : List Char) : Bool :=
  (nearestLetter? before).any (fun n => joiningForward.contains n || joiningBoth.contains n) &&
    (nearestLetter? after).any (fun n => joiningBackward.contains n || joiningBoth.contains n)

def joinersFit (before : List Char) : List Char → Bool
  | [] => true
  | c :: rest =>
    let silenced := before.head?.any fun d => markClass d = silencingClass
    let fits :=
      if c = '\u200c' then silenced || parts before rest
      else if c = '\u200d' then silenced
      else true
    fits && joinersFit (c :: before) rest

end ConfigRegistry.Url
