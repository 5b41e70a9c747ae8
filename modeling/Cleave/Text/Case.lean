import Cleave.Text.Basic
import Cleave.Text.Table

/-!
# Letter case

The case maps of Unicode for single characters. A map is written as runs `first count step shift`:
the characters `first`, `first + step`, … (`count` of them) each move by `shift`. A character that maps to
two or three characters stands in a table of its own, and a character in no run maps to itself.
-/

namespace Cleave.Text.Case

/-- The characters `first, first + step, …` (`count` of them), each moved by `shift`. -/
structure Run where
  first : Nat
  count : Nat
  step : Nat
  shift : Int

/-- The runs of a table. -/
def runs (table : String) : List Run :=
  (Table.quadruples (Table.numbers table)).map fun (first, count, step, shift) =>
    { first := first.toNat, count := count.toNat, step := step.toNat, shift }

/-- The sequences of a table: a character and up to three characters, filled up with zeros. -/
def sequences (table : String) : List (Nat × List Nat) :=
  (Table.quadruples (Table.numbers table)).map fun (c, x, y, z) =>
    (c.toNat, ([x, y, z].filter (· != 0)).map Int.toNat)

/-- Characters that have one lower-case character. -/
def lowerRuns : List Run := runs
  "1t q 1 w 5c n 1 w 60 7 1 w 74 o 2 1 8i 3 2 1 8p 8 2 1 96 n 2 1 ag 1 1 -3d ah 3 2 1 ap 1 1 5u
    aq 2 2 1 au 1 1 5q av 1 1 1 ax 2 1 5p az 1 1 1 b2 1 1 27 b3 1 1 5m b4 1 1 5n b5 1 1 1 b7 1 1
    5p b8 1 1 5r ba 1 1 5v bb 1 1 5t bc 1 1 1 bg 1 1 5v bh 1 1 5x bj 1 1 5y bk 3 2 1 bq 1 1 62
    br 1 1 1 bt 1 1 62 bw 1 1 1 by 1 1 62 bz 1 1 1 c1 2 1 61 c3 2 2 1 c7 1 1 63 c8 1 1 1 cc 1 1
    1 ck 1 1 2 cl 1 1 1 cn 1 1 2 co 1 1 1 cq 1 1 2 cr 9 2 1 da 9 2 1 dt 1 1 2 du 2 2 1 dy 1 1
    -2p dz 1 1 -1k e0 k 2 1 f4 1 1 -3m f6 9 2 1 fu 1 1 8bv fv 1 1 1 fx 1 1 -4j fy 1 1 8bs g1 1 1
    1 g3 1 1 -5f g4 1 1 1x g5 1 1 1z g6 5 2 1 og 2 2 1 om 1 1 1 ov 1 1 38 p2 1 1 12 p4 3 1 11 p8
    1 1 1s pa 2 1 1r pd h 1 w pv 9 1 w r3 1 1 8 rc c 2 1 s4 1 1 -1o s7 1 1 1 s9 1 1 -7 sa 1 1 1
    sd 3 1 -3m sg g 1 28 sw w 1 w v4 h 2 1 wa r 2 1 xs 1 1 f xt 7 2 1 y8 1c 2 1 10x 12 1 1c 3a8
    12 1 5ls 3bb 1 1 5ls 3bh 1 1 5ls 3vk 28 1 tzk 3xs 6 1 8 5mx 1 1 1 5n4 17 1 -2bk 5od 3 1 -2bk
    5xc 23 2 1 61q 1 1 -5vj 61s 1c 2 1 64o 8 1 -8 654 6 1 -8 65k 8 1 -8 660 8 1 -8 66g 6 1 -8
    66x 4 2 -8 67c 8 1 -8 688 8 1 -8 68o 8 1 -8 694 8 1 -8 69k 2 1 -8 69m 2 1 -22 69o 1 1 -9 6a0
    4 1 -2e 6a4 1 1 -9 6ag 2 1 -8 6ai 2 1 -2s 6aw 2 1 -8 6ay 2 1 -34 6b0 1 1 -7 6bc 2 1 -3k 6be
    2 1 -3i 6bg 1 1 -9 6jq 1 1 -5st 6ju 1 1 -6gv 6jv 1 1 -6di 6k2 1 1 s 6lc g 1 g 6mb 1 1 1 792
    q 1 q 8ow 1c 1 1c 8rk 1 1 1 8rm 1 1 -8af 8rn 1 1 -2xy 8ro 1 1 -89z 8rr 3 2 1 8rx 1 1 -8bg
    8ry 1 1 -8al 8rz 1 1 -8bj 8s0 1 1 -8bi 8s2 1 1 1 8s5 1 1 1 8se 2 1 -8cf 8sg 1e 2 1 8vf 2 2 1
    8vm 1 1 1 wu8 n 2 1 ww0 e 2 1 x0i 7 2 1 x0y v 2 1 x2x 2 2 1 x31 1 1 -r9g x32 5 2 1 x3f 1 1 1
    x3h 1 1 -wmg x3k 2 2 1 x3q a 2 1 x4a 1 1 -wn8 x4b 1 1 -wnj x4c 1 1 -wnf x4d 1 1 -wn5 x4e 1 1
    -wn8 x4g 1 1 -wlu x4h 1 1 -wmi x4i 1 1 -wlx x4j 1 1 ps x4k 8 2 1 x50 1 1 -1c x51 1 1 -wn7
    x52 1 1 -raw x53 2 2 1 x57 1 1 -wo7 x58 8 2 1 x5o 1 1 -wu9 x6d 1 1 1 1ee9 q 1 w 1fcw 14 1 14
    1fhs 10 1 14 1fn4 b 1 13 1fng f 1 13 1fnw 7 1 13 1fo4 2 1 13 1h1c 1f 1 1s 1h74 m 1 w 1jfk w
    1 w 20cg w 1 w 20f4 p 1 r 2olc y 1 y"

/-- Characters that have one upper-case character. -/
def upperRuns : List Run := runs
  "2p q 1 -w 51 1 1 kn 68 n 1 -w 6w 7 1 -w 73 1 1 3d 75 o 2 -1 8h 1 1 -6g 8j 3 2 -1 8q 8 2 -1
    97 n 2 -1 ai 3 2 -1 an 1 1 -8c ao 1 1 5f ar 2 2 -1 aw 1 1 -1 b0 1 1 -1 b6 1 1 -1 b9 1 1 2p
    bd 1 1 -1 be 1 1 4j bf 1 1 wu9 bi 1 1 3m bl 3 2 -1 bs 1 1 -1 bx 1 1 -1 c0 1 1 -1 c4 2 2 -1
    c9 1 1 -1 cd 1 1 -1 cf 1 1 1k cl 1 1 -1 cm 1 1 -2 co 1 1 -1 cp 1 1 -2 cr 1 1 -1 cs 1 1 -2 cu
    8 2 -1 d9 1 1 -27 db 9 2 -1 du 1 1 -1 dv 1 1 -2 dx 1 1 -1 e1 k 2 -1 f7 9 2 -1 fw 1 1 -1 fz 2
    1 8cf g2 1 1 -1 g7 5 2 -1 gg 1 1 8bj gh 1 1 8bg gi 1 1 8bi gj 1 1 -5u gk 1 1 -5q gm 2 1 -5p
    gp 1 1 -5m gr 1 1 -5n gs 1 1 wnj gw 1 1 -5p gx 1 1 wnf gz 1 1 -5r h0 1 1 wo7 h1 1 1 wmg h2 1
    1 wn8 h4 1 1 -5t h5 1 1 -5v h6 1 1 wn8 h7 1 1 8af h8 1 1 wn5 hb 1 1 -5v hd 1 1 8al he 1 1
    -5x hh 1 1 -5y hp 1 1 89z hs 1 1 -62 hu 1 1 wn7 hv 1 1 -62 hz 1 1 wmi i0 1 1 -62 i1 1 1 -1x
    i2 2 1 -61 i4 1 1 -1z ia 1 1 -63 il 1 1 wlx im 1 1 wlu n9 1 1 2c oh 2 2 -1 on 1 1 -1 or 3 1
    3m q4 1 1 -12 q5 3 1 -11 q9 h 1 -w qq 1 1 -v qr 9 1 -w r0 1 1 -1s r1 2 1 -1r r4 1 1 -1q r5 1
    1 -1l r9 1 1 -1b ra 1 1 -1i rb 1 1 -8 rd c 2 -1 s0 1 1 -2e s1 1 1 -28 s2 1 1 7 s3 1 1 -38 s5
    1 1 -2o s8 1 1 -1 sb 1 1 -1 ts w 1 -w uo g 1 -28 v5 h 2 -1 wb r 2 -1 xu 7 2 -1 y7 1 1 -f y9
    1c 2 -1 129 12 1 -1c 3bk 17 1 2bk 3ct 3 1 2bk 3y0 6 1 -8 5mo 1 1 -4tq 5mp 1 1 -4tp 5mq 1 1
    -4tg 5mr 2 1 -4te 5mt 1 1 -4tf 5mu 1 1 -4t8 5mv 1 1 -4rp 5mw 1 1 r7m 5my 1 1 -1 5tl 1 1 r9g
    5tp 1 1 2xy 5u6 1 1 raw 5xd 23 2 -1 61n 1 1 -1n 61t 1c 2 -1 64g 8 1 8 64w 6 1 8 65c 8 1 8
    65s 8 1 8 668 6 1 8 66p 4 2 8 674 8 1 8 67k 2 1 22 67m 4 1 2e 67q 2 1 2s 67s 2 1 3k 67u 2 1
    34 67w 2 1 3i 69c 2 1 8 69q 1 1 -5k5 6a8 2 1 8 6ao 2 1 8 6at 1 1 7 6ku 1 1 -s 6ls g 1 -g 6mc
    1 1 -1 79s q 1 -q 8q8 1c 1 -1c 8rl 1 1 -1 8rp 1 1 -8bv 8rq 1 1 -8bs 8rs 3 2 -1 8s3 1 1 -1
    8s6 1 1 -1 8sh 1e 2 -1 8vg 2 2 -1 8vn 1 1 -1 8w0 12 1 -5ls 8x3 1 1 -5ls 8x9 1 1 -5ls wu9 n 2
    -1 ww1 e 2 -1 x0j 7 2 -1 x0z v 2 -1 x2y 2 2 -1 x33 5 2 -1 x3g 1 1 -1 x3l 2 2 -1 x3o 1 1 1c
    x3r a 2 -1 x4l 8 2 -1 x54 2 2 -1 x59 8 2 -1 x6e 1 1 -1 xub 1 1 -ps xv4 28 1 -tzk 1ef5 q 1 -w
    1fe0 14 1 -14 1fiw 10 1 -14 1fo7 b 1 -13 1foj f 1 -13 1foz 7 1 -13 1fp7 2 1 -13 1h34 1f 1
    -1s 1h80 m 1 -w 1jgg w 1 -w 20dc w 1 -w 20fv p 1 -r 2oma y 1 -y"

/-- Characters whose simple case folding is another character. -/
def foldRuns : List Run := runs
  "1t q 1 w 51 1 1 lj 5c n 1 w 60 7 1 w 74 o 2 1 8i 3 2 1 8p 8 2 1 96 n 2 1 ag 1 1 -3d ah 3 2 1
    an 1 1 -7g ap 1 1 5u aq 2 2 1 au 1 1 5q av 1 1 1 ax 2 1 5p az 1 1 1 b2 1 1 27 b3 1 1 5m b4 1
    1 5n b5 1 1 1 b7 1 1 5p b8 1 1 5r ba 1 1 5v bb 1 1 5t bc 1 1 1 bg 1 1 5v bh 1 1 5x bj 1 1 5y
    bk 3 2 1 bq 1 1 62 br 1 1 1 bt 1 1 62 bw 1 1 1 by 1 1 62 bz 1 1 1 c1 2 1 61 c3 2 2 1 c7 1 1
    63 c8 1 1 1 cc 1 1 1 ck 1 1 2 cl 1 1 1 cn 1 1 2 co 1 1 1 cq 1 1 2 cr 9 2 1 da 9 2 1 dt 1 1 2
    du 2 2 1 dy 1 1 -2p dz 1 1 -1k e0 k 2 1 f4 1 1 -3m f6 9 2 1 fu 1 1 8bv fv 1 1 1 fx 1 1 -4j
    fy 1 1 8bs g1 1 1 1 g3 1 1 -5f g4 1 1 1x g5 1 1 1z g6 5 2 1 n9 1 1 38 og 2 2 1 om 1 1 1 ov 1
    1 38 p2 1 1 12 p4 3 1 11 p8 1 1 1s pa 2 1 1r pd h 1 w pv 9 1 w qq 1 1 1 r3 1 1 8 r4 1 1 -u
    r5 1 1 -p r9 1 1 -f ra 1 1 -m rc c 2 1 s0 1 1 -1i s1 1 1 -1c s4 1 1 -1o s5 1 1 -1s s7 1 1 1
    s9 1 1 -7 sa 1 1 1 sd 3 1 -3m sg g 1 28 sw w 1 w v4 h 2 1 wa r 2 1 xs 1 1 f xt 7 2 1 y8 1c 2
    1 10x 12 1 1c 3a8 12 1 5ls 3bb 1 1 5ls 3bh 1 1 5ls 3vk 28 1 tzk 3xs 6 1 8 5mo 1 1 -4su 5mp 1
    1 -4st 5mq 1 1 -4sk 5mr 2 1 -4si 5mt 1 1 -4sj 5mu 1 1 -4sc 5mv 1 1 -4ro 5mw 1 1 r7n 5mx 1 1
    1 5n4 17 1 -2bk 5od 3 1 -2bk 5xc 23 2 1 61n 1 1 -1m 61q 1 1 -5vj 61s 1c 2 1 64o 8 1 -8 654 6
    1 -8 65k 8 1 -8 660 8 1 -8 66g 6 1 -8 66x 4 2 -8 67c 8 1 -8 688 8 1 -8 68o 8 1 -8 694 8 1 -8
    69k 2 1 -8 69m 2 1 -22 69o 1 1 -9 69q 1 1 -5j9 6a0 4 1 -2e 6a4 1 1 -9 6ab 1 1 -5kz 6ag 2 1
    -8 6ai 2 1 -2s 6ar 1 1 -5kj 6aw 2 1 -8 6ay 2 1 -34 6b0 1 1 -7 6bc 2 1 -3k 6be 2 1 -3i 6bg 1
    1 -9 6jq 1 1 -5st 6ju 1 1 -6gv 6jv 1 1 -6di 6k2 1 1 s 6lc g 1 g 6mb 1 1 1 792 q 1 q 8ow 1c 1
    1c 8rk 1 1 1 8rm 1 1 -8af 8rn 1 1 -2xy 8ro 1 1 -89z 8rr 3 2 1 8rx 1 1 -8bg 8ry 1 1 -8al 8rz
    1 1 -8bj 8s0 1 1 -8bi 8s2 1 1 1 8s5 1 1 1 8se 2 1 -8cf 8sg 1e 2 1 8vf 2 2 1 8vm 1 1 1 wu8 n
    2 1 ww0 e 2 1 x0i 7 2 1 x0y v 2 1 x2x 2 2 1 x31 1 1 -r9g x32 5 2 1 x3f 1 1 1 x3h 1 1 -wmg
    x3k 2 2 1 x3q a 2 1 x4a 1 1 -wn8 x4b 1 1 -wnj x4c 1 1 -wnf x4d 1 1 -wn5 x4e 1 1 -wn8 x4g 1 1
    -wlu x4h 1 1 -wmi x4i 1 1 -wlx x4j 1 1 ps x4k 8 2 1 x50 1 1 -1c x51 1 1 -wn7 x52 1 1 -raw
    x53 2 2 1 x57 1 1 -wo7 x58 1 1 1 x5c 1 1 1 x5i 3 2 1 x5o 1 1 -wu9 x6d 1 1 1 1dl2 1 1 -1 1ee9
    q 1 w 1fcw 14 1 14 1fhs 10 1 14 1fn4 b 1 13 1fng f 1 13 1fnw 7 1 13 1fo4 2 1 13 1h1c 1f 1 1s
    1h74 m 1 w 1jfk w 1 w 20cg w 1 w 2olc y 1 y"

/-- Characters whose lower case is several characters. -/
def lowerSequences : List (Nat × List Nat) := sequences
  "8g 2x lj 0"

/-- Characters whose upper case is several characters. -/
def upperSequences : List (Nat × List Nat) := sequences
  "67 2b 2b 0 95 jg 26 0 ds 22 lo 0 pc pl lk ld q8 px lk ld 13b 111 11u 0 61i 20 mp 0 61j 2c lk
    0 61k 2f lm 0 61l 2h lm 0 61m 1t ji 0 66o px lv 0 66q px lv lc 66s px lv ld 66u px lv n6 680
    64o pl 0 681 64p pl 0 682 64q pl 0 683 64r pl 0 684 64s pl 0 685 64t pl 0 686 64u pl 0 687
    64v pl 0 688 64o pl 0 689 64p pl 0 68a 64q pl 0 68b 64r pl 0 68c 64s pl 0 68d 64t pl 0 68e
    64u pl 0 68f 64v pl 0 68g 65k pl 0 68h 65l pl 0 68i 65m pl 0 68j 65n pl 0 68k 65o pl 0 68l
    65p pl 0 68m 65q pl 0 68n 65r pl 0 68o 65k pl 0 68p 65l pl 0 68q 65m pl 0 68r 65n pl 0 68s
    65o pl 0 68t 65p pl 0 68u 65q pl 0 68v 65r pl 0 68w 67c pl 0 68x 67d pl 0 68y 67e pl 0 68z
    67f pl 0 690 67g pl 0 691 67h pl 0 692 67i pl 0 693 67j pl 0 694 67c pl 0 695 67d pl 0 696
    67e pl 0 697 67f pl 0 698 67g pl 0 699 67h pl 0 69a 67i pl 0 69b 67j pl 0 69e 69m pl 0 69f
    pd pl 0 69g p2 pl 0 69i pd n6 0 69j pd n6 pl 69o pd pl 0 69u 6a2 pl 0 69v pj pl 0 69w p5 pl
    0 69y pj n6 0 69z pj n6 pl 6a4 pj pl 0 6aa pl lk lc 6ab pl lk ld 6ae pl n6 0 6af pl lk n6
    6aq px lk lc 6ar px lk ld 6as pt lv 0 6au px n6 0 6av px lk n6 6b6 6be pl 0 6b7 q1 pl 0 6b8
    pb pl 0 6ba q1 n6 0 6bb q1 n6 pl 6bg q1 pl 0 1dkw 1y 1y 0 1dkx 1y 21 0 1dky 1y 24 0 1dkz 1y
    1y 21 1dl0 1y 1y 24 1dl1 2b 2c 0 1dl2 2b 2c 0 1dlf 11g 11i 0 1dlg 11g 111 0 1dlh 11g 117 0
    1dli 11q 11i 0 1dlj 11g 119 0"

/-- The code points that a run holds, in order. -/
def Run.members (run : Run) : List Nat :=
  (List.range run.count).map fun i => run.first + i * run.step

/-- The image of a code point of a run. -/
def Run.image (run : Run) (n : Nat) : Nat :=
  Int.toNat (Int.ofNat n + run.shift)

/-- Whether a run holds a code point. -/
def Run.holds (run : Run) (n : Nat) : Bool :=
  run.first ≤ n && (n - run.first) % run.step == 0 && (n - run.first) / run.step < run.count

/-- The image of a code point under a list of runs; a code point in no run maps to itself. -/
def image (runs : List Run) (n : Nat) : Nat :=
  match runs.find? (·.holds n) with
  | some run => run.image n
  | none => n

/-- The full image of a character: a listed sequence, or the single image. -/
def fullImage (sequences : List (Nat × List Nat)) (runs : List Run) (c : Char) : Text :=
  match sequences.lookup c.toNat with
  | some ns => ns.map Char.ofNat
  | none => [Char.ofNat (image runs c.toNat)]

/-- The lower-case form of one character. ASCII needs no table. -/
def lower (c : Char) : Text :=
  if c.toNat < 128 then [c.toLower] else fullImage lowerSequences lowerRuns c

/-- The upper-case form of one character. ASCII needs no table. -/
def upper (c : Char) : Text :=
  if c.toNat < 128 then [c.toUpper] else fullImage upperSequences upperRuns c

end Cleave.Text.Case

namespace Cleave.Text

/-- The text with its first character in lower case. -/
def lowerFirst : Text → Text
  | [] => []
  | c :: r => Case.lower c ++ r

/-- The text with its first character in upper case. -/
def upperFirst : Text → Text
  | [] => []
  | c :: r => Case.upper c ++ r

end Cleave.Text
