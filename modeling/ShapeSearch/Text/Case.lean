import ShapeSearch.Text.Blank
import ShapeSearch.Text.Letter

/-!
# Letter case

* `lowerChar` maps one character to its lower-case form, `lower` a whole text.  In a text, the
  dotted capital I becomes two characters, and a capital sigma at the end of a word takes its final
  form.
* `isCased` holds of characters that have a second case; `foldsWith` lists further characters that
  equal a lower-case character when case is ignored, and `caseVariants` collects all characters
  whose lower-case form equals a given one in that sense.
-/

namespace ShapeSearch.Text

/-- A run of characters `first`, `first + step`, … `last`, each `shift` away from its lower-case
form. -/
structure CaseRun where
  first : Nat
  last : Nat
  step : Nat
  shift : Int

/-- Runs behind a place, from three numbers each: the distance of the first member, that of the last one from it, and
a form that tells the step and the shift. -/
def runsFrom : Nat → List Nat → List CaseRun
  | pos, gap :: width :: form :: r =>
    let first := pos + gap
    let shift := (form / 4 : Nat)
    ⟨first, first + width, form % 2 + 1, if form / 2 % 2 = 0 then shift else -shift⟩ :: runsFrom (first + width) r
  | _, _ => []

def lowerRuns : Array CaseRun := (runsFrom 0 [
  192, 22, 128, 2, 6, 128, 34, 46, 5, 2, 0, 798, 2, 4, 5, 3, 14, 5, 3, 44, 5, 2, 0, 486, 1, 4, 5, 4, 0, 840, 1, 2, 5,
  2, 0, 824, 1, 0, 4, 2, 1, 820, 1, 0, 4, 3, 0, 316, 1, 0, 808, 1, 0, 812, 1, 0, 4, 2, 0, 820, 1, 0, 828, 2, 0, 844,
  1, 0, 836, 1, 0, 4, 4, 0, 844, 1, 0, 852, 2, 0, 856, 1, 4, 5, 2, 0, 872, 1, 0, 4, 2, 0, 872, 3, 0, 4, 2, 0, 872, 1,
  0, 4, 2, 1, 868, 1, 2, 5, 2, 0, 876, 1, 0, 4, 4, 0, 4, 8, 0, 8, 1, 0, 4, 2, 0, 8, 1, 0, 4, 2, 0, 8, 1, 16, 5, 3, 16,
  5, 3, 0, 8, 1, 2, 5, 2, 0, 390, 1, 0, 226, 1, 38, 5, 2, 0, 522, 2, 16, 5, 8, 0, 43180, 1, 0, 4, 2, 0, 654, 1, 0,
  43168, 3, 0, 4, 2, 0, 782, 1, 0, 276, 1, 0, 284, 1, 8, 5, 290, 2, 5, 4, 0, 4, 9, 0, 464, 7, 0, 152, 2, 2, 148, 2, 0,
  256, 2, 1, 252, 2, 16, 128, 2, 8, 128, 36, 0, 32, 9, 22, 5, 6, 0, 242, 3, 0, 4, 2, 0, 30, 1, 0, 4, 3, 2, 522, 1, 15,
  320, 1, 31, 128, 49, 32, 5, 10, 52, 5, 2, 0, 60, 1, 12, 5, 3, 94, 5, 3, 37, 192, 2890, 37, 29056, 2, 0, 29056, 6, 0,
  29056, 723, 79, 155456, 1, 5, 32, 2203, 42, 12034, 3, 2, 12034, 321, 148, 5, 10, 0, 30462, 2, 94, 5, 10, 7, 34, 9,
  5, 34, 11, 7, 34, 9, 7, 34, 9, 5, 34, 12, 6, 35, 9, 7, 34, 25, 7, 34, 9, 7, 34, 9, 7, 34, 9, 1, 34, 1, 1, 298, 1, 0,
  38, 12, 3, 346, 1, 0, 38, 12, 1, 34, 1, 1, 402, 13, 1, 34, 1, 1, 450, 1, 0, 30, 12, 1, 514, 1, 1, 506, 1, 0, 38,
  298, 0, 30070, 4, 0, 33534, 1, 0, 33050, 7, 0, 112, 46, 15, 64, 20, 0, 4, 819, 25, 104, 1841, 47, 192, 49, 0, 4, 2,
  0, 42974, 1, 0, 15258, 1, 0, 42910, 3, 4, 5, 2, 0, 43122, 1, 0, 42998, 1, 0, 43134, 1, 0, 43130, 2, 0, 4, 3, 0, 4,
  9, 1, 43262, 1, 98, 5, 9, 2, 5, 5, 0, 4, 31054, 44, 5, 20, 26, 5, 136, 12, 5, 4, 60, 5, 11, 2, 5, 2, 0, 141330, 1,
  8, 5, 5, 0, 4, 2, 0, 169122, 3, 2, 5, 4, 18, 5, 2, 0, 169234, 1, 0, 169278, 1, 0, 169262, 1, 0, 169222, 1, 0,
  169234, 2, 0, 169034, 1, 0, 169130, 1, 0, 169046, 1, 0, 3712, 1, 14, 5, 2, 0, 194, 1, 0, 169230, 1, 0, 141538, 1, 2,
  5, 7, 0, 4, 6, 2, 5, 29, 0, 4, 22316, 25, 128, 1222, 39, 160, 137, 35, 160, 157, 10, 156, 2, 14, 156, 2, 6, 156, 2,
  1, 156, 1771, 50, 256, 3054, 31, 128, 21889, 31, 128, 31393, 33, 136]).toArray

def lowerRun (i : Nat) : CaseRun := lowerRuns.getD i ⟨0, 0, 1, 0⟩

def CaseRun.lower? (r : CaseRun) (n : Nat) : Option Nat :=
  if r.first ≤ n && n ≤ r.last && (n - r.first) % r.step == 0 then some ((n : Int) + r.shift).toNat
  else none

/-- The code point whose lower-case form in this run is `n`, if there is one. -/
def CaseRun.raise? (r : CaseRun) (n : Nat) : Option Nat :=
  let m := (n : Int) - r.shift
  if (r.first : Int) ≤ m && m ≤ (r.last : Int) && (m.toNat - r.first) % r.step == 0 then some m.toNat
  else none

/-- How many of the runs between `lo` and `hi` start at most at `n`. -/
def countRuns (n : Nat) : Nat → Nat → Nat → Nat
  | 0, lo, _ => lo
  | fuel + 1, lo, hi =>
    if hi ≤ lo then lo
    else
      let mid := (lo + hi) / 2
      if (lowerRun mid).first ≤ n then countRuns n fuel (mid + 1) hi else countRuns n fuel lo mid

def lowerChar (c : Char) : Char :=
  if c.toNat < 128 then c.toLower
  else
    let k := countRuns c.toNat (lowerRuns.size.log2 + 2) 0 lowerRuns.size
    if k = 0 then c
    else
      match (lowerRun (k - 1)).lower? c.toNat with
      | some n => Char.ofNat n
      | none => c

/-- The characters whose lower-case form is `c`, apart from `c` itself. -/
def raisedForms (c : Char) : List Char :=
  let ascii := if c.isLower then [c.toUpper] else []
  ascii ++ (List.range lowerRuns.size).filterMap fun i =>
    ((lowerRun i).raise? c.toNat).map Char.ofNat

/-- Characters beyond ASCII that have a second case. -/
def casedBounds : Array Nat := Packed.sums "
nH#,:#B#d#m/#0#1$1$$##&m8#5(>#$###$%$###$#'$##$$#)#$##$%('#,$n9#M&$$%%##(##%###7#R%D#'#ma*n9#I,JolCI##'#$N$%u;m1$(np
5+)N$%nL#%#3#mLn/$##mQ$($I$($*#######B$X#)##%%#)%&$(&0'%#)p+#%$(#>#4C%$w<Wmx1mL#$#$)mA)&%$/I##'#nsmEQ5?mb1$b+2%%$'#<
#>'$&&>$wh#?m*mtt[)/'mm<=(=moHm*m;G&GmO.#2#)#$#.#2#)#$mw%V0VonHdmvpKdnsrKh"

def isCased (c : Char) : Bool :=
  if c.toNat < 128 then c.isAlpha else inRanges casedBounds c.toNat

/-- Lower-case characters that are equal when case is ignored, with blanks between those that are not. -/
def foldGroups : List (List Char) :=
  splitOnChar ' ' ("iı sſ µμ \u0345ι\u1fbe ΐ\u1fd3 ΰ\u1fe3 βϐ εϵ θϑ κϰ πϖ ρϱ ςσ φϕ " ++
    "вᲀ дᲁ оᲂ сᲃ тᲄᲅ ъᲆ ѣᲇ ᲈꙋ ṡẛ ﬅﬆ").toList

/-- The further characters that equal the lower-case character `c` when case is ignored. -/
def foldsWith (c : Char) : List Char :=
  ((foldGroups.find? (·.contains c)).getD []).filter (· ≠ c)

def caseVariants (c : Char) : List Char :=
  (c :: foldsWith c).flatMap fun l => l :: raisedForms l

/-- Cased letters beyond ASCII that a word cannot skip. -/
def casedLetterBounds : Array Nat := Packed.sums "
n=#,#&#':#B#nV#&&nd#>nS&$$%%##(##%###7#m.#mg*n9#I+LolBI##'#$N$%u;m1$(np5+)N$%dOc0#Em@ob$($I$($*#######B$X#)##%%#)%&$
(&0'%#)oP#&#$,##%'(######&#(&#$&''&#4C%$w<Wmx1mW$mB(&%$/I##'#nsmEQ5?mbm(#:%&#_'$###'>$%#w@N'+)m*mtt[)/'mm<=(=moHm*m;
G&GmO.#2#)#$#.#2#)#$mw%V0VonHdmvpKdnmudm0#k#$$#$$$&#/###)#e#&$*#)#?#&#'##%)#pW$<#<#B#<#B#<#B#<#B#<#*mxO,#7nu+hnn/=(=
(="

/-- Characters that stand inside a word without being cased. -/
def caseIgnorableBounds : Array Nat := Packed.sums "
J#(#.#F###k#&###&#$$rknS&$&#+$##oF)nc#'#TP###$#$##O#.(,.##F#,83#m@*#,#&D###A>m6.^.&#$#;;N%O#)$(*L^Z###&*&#%),$0#2#^#
&&*#7$=#$$]#&$&$$%%#A$%#.$]#&'#$&#7$9(##^#$##&*#)$.$A#a#/#U#%#Z##%'%#&)$.$@#^#$#(#'$7$?$]$&&*#7$@#m!#)%##m5#$).+m=#$
++##(m$$>#####Z1#'#$'.#G+#mA&#(#$$$<$&%3&0#$$(#2#m9#tC%ml,%@$A$A$d$#)*#$.%#'#P'V#e$E#mQ%&$+#(%o%$$#^##)####$*(,$#J#*
BT&S##'##'#K+/$C&$$#%[##$%##%^*$$d(m,%#0#)&#(#%$Uc0#Em@r0##%.%0%0%0$/'*$,#$#$'T'#,##0#30VDon%$mL%mX#2#m;CR#rH#G&%''#
m8(m8%nppj#mp=(oY#m=&#,##?&m*$1Em(#:%mB%%$*#%#&#<$'#n)$=50#I*<.Q%S#$&$$4#8$f($$$$/#*#F#.#V##%$$'$##>#1$'$##m?'+%mT#$
#&#mttK#n%4si3%#/3E#$#n<#)#(#.#F###R#P$g#8%s+#o,#n''mm8(#M#+t(%#$'&K%&#n8$si&q>$n+.T&mV#Y2L#$$,%T&$$$#&#,#U%G'#*b#/$
W+,&$#m:%$##$(#n3#%*8$]$%#H)%'nV*$%##:#m/(##&$#$o9&($#$>$m0*$##$mE###$(##m@%$&#'oN+#$oK$##&#n!&$$&#C,K($&*#+($%Q0#$q
Q)#(##m,9$)#$#$mU(%##$#)##m!$%###p_$qvF+mmxJ'_)+&mm>#c4d$#$mprV&#)#$oqb$#&ql7Q$:sK%+3$)A&n&%nmFZ&U*#1#9'#2mqd)#4$)#$
#'oP1q*#a&msd)mH*nwk'pxwr<#Am;m[o;"

def isCasedLetter (c : Char) : Bool :=
  if c.toNat < 128 then c.isAlpha else inRanges casedLetterBounds c.toNat

/-- Whether a character is skipped when looking for a cased letter next to a sigma. -/
def isCaseIgnorable (c : Char) : Bool :=
  inRanges caseIgnorableBounds c.toNat

/-- Whether the first character that is not skipped is a cased letter. -/
def meetsCased (s : List Char) : Bool :=
  match s.dropWhile isCaseIgnorable with
  | c :: _ => isCasedLetter c
  | [] => false

/-- The lower-case form of a text; `before` holds what precedes, last character first. -/
def lowerFrom (before : List Char) : List Char → List Char → List Char
  | [], out => out.reverse
  | c :: r, out =>
    if c.toNat == 0x3a3 then
      let low := if meetsCased before && !meetsCased r then Char.ofNat 0x3c2 else Char.ofNat 0x3c3
      lowerFrom (c :: before) r (low :: out)
    else if c.toNat == 0x130 then
      lowerFrom (c :: before) r (Char.ofNat 0x307 :: 'i' :: out)
    else lowerFrom (c :: before) r (lowerChar c :: out)

def lower (s : String) : String :=
  String.ofList (lowerFrom [] s.toList [])

/-! ## Upper case -/

/-- Characters beyond ASCII whose upper case is another one than the character they are the lower case of, each before
its upper case. -/
def upperForms : List (List Char) := splitOnChar ' ' <| String.toList <|
  "µΜ ßSS ıI ŉʼN ſS ǅǄ ǈǇ ǋǊ ǰJ\u030c ǲǱ \u0345Ι ΐΙ\u0308\u0301 ΰΥ\u0308\u0301 ςΣ ϐΒ ϑΘ ϕΦ ϖΠ ϰΚ ϱΡ ϵΕ ևԵՒ ᲀВ " ++
  "ᲁД ᲂО ᲃС ᲄТ ᲅТ ᲆЪ ᲇѢ ᲈꙊ ẖH\u0331 ẗT\u0308 ẘW\u030a ẙY\u030a ẚAʾ ẛṠ ὐΥ\u0313 ὒΥ\u0313\u0300 ὔΥ\u0313\u0301 " ++
  "ὖΥ\u0313\u0342 ᾲᾺΙ ᾳΑΙ ᾴΆΙ ᾶΑ\u0342 ᾷΑ\u0342Ι ᾼΑΙ \u1fbeΙ ῂῊΙ ῃΗΙ ῄΉΙ ῆΗ\u0342 ῇΗ\u0342Ι ῌΗΙ ῒΙ\u0308\u0300 " ++
  "\u1fd3Ι\u0308\u0301 ῖΙ\u0342 ῗΙ\u0308\u0342 ῢΥ\u0308\u0300 \u1fe3Υ\u0308\u0301 ῤΡ\u0313 ῦΥ\u0342 " ++
  "ῧΥ\u0308\u0342 ῲῺΙ ῳΩΙ ῴΏΙ ῶΩ\u0342 ῷΩ\u0342Ι ῼΩΙ ﬀFF ﬁFI ﬂFL ﬃFFI ﬄFFL ﬅST ﬆST ﬓՄՆ ﬔՄԵ ﬕՄԻ ﬖՎՆ ﬗՄԽ"

/-- Runs of sixteen letters with an iota below, and of the eight letters that stand before it in upper case. -/
def iotaRuns : List (Nat × Nat) := [(8064, 7944), (8080, 7976), (8096, 8040)]

def upperChar (c : Char) : List Char :=
  if c.toNat < 128 then [c.toUpper]
  else
    match upperForms.find? (·.head? == some c), iotaRuns.find? fun r => r.1 ≤ c.toNat && c.toNat < r.1 + 16 with
    | some form, _ => form.tail
    | none, some (first, upper) => [Char.ofNat (upper + (c.toNat - first) % 8), Char.ofNat 921]
    | none, none => [(raisedForms c).headD c]

def upper (s : String) : String :=
  String.ofList (s.toList.flatMap upperChar)

end ShapeSearch.Text
