import ShapeSearch.Text.Packed

/-!
# Classes of characters

A table lists, in increasing order, the code points at which membership in a class changes, starting from
"outside".  A code point belongs to the class when an odd number of boundaries are at most it.  Long tables are
written as texts with the distances between the boundaries (`Packed.sums`).

`isAlphanumeric` holds of letters and of numbers of any kind, `isWordChar` of those and the
underscore; `isDecimal` holds of the digits that can stand in a decimal numeral, and `decimalValue?`
gives their value.  `isIdStart` may begin an identifier, `isIdContinue` may follow.  What is not
`isPrintable` (controls, format characters, separators except the space, private and unassigned code points)
is escaped where a text is quoted.
-/

namespace ShapeSearch.Text

/-- How many leading entries of a sorted table are at most `n`, looked for between `lo` and `hi`. -/
def countAtMost (table : Array Nat) (n : Nat) : Nat → Nat → Nat → Nat
  | 0, lo, _ => lo
  | fuel + 1, lo, hi =>
    if hi ≤ lo then lo
    else
      let mid := (lo + hi) / 2
      if table.getD mid 0 ≤ n then countAtMost table n fuel (mid + 1) hi
      else countAtMost table n fuel lo mid

def inRanges (table : Array Nat) (n : Nat) : Bool :=
  countAtMost table n (table.size.log2 + 2) 0 table.size % 2 == 1

/-! ## Letters and digits -/

def alphanumericBounds : Array Nat := Packed.sums "
n=#)$##%$#%#:#B#r=&/1')###m]'#$$&##(##%###7#m.#mg*n9#I$#(Lk>&&PN8,&$#m>##2$)2$#3##A@m4.#1N+$&#'9&#+#%#:<).';#(4M^Y%#
5#),&,#3&*$$$9#)##%&%#3#0$#%&/$($#*(&$$9#)#$#$#$B&##),$%3+#%#9#)#$#'%#5#2$&,+#.*$$$9#)#$#'%#A$#%&,#).##(%%#&%$###$%$
%%%/9#805*#%#:#3%#=%$#$$&,*)##&*#%#:#,#'%#B$#$&,#$4+#%#L$#3#'%#,&6#('5%;#+##$)B,4S#$/)+,J$###'#;###,#$+#$'##+,$&C#B7
/*#G>'mNN7.((&&%#%$)%&0/##,(I##'#$N#pP#&$)###&$L#&$D#&$)###&$2#]#&$g17%33m1$(%tO$4#='m%%.)5061510#%2WF#&#%,(,9,(m4)'
$E##'j,BJK$'.O&=(.H:+XN,(,0#m8R4*%,LA0[=G?,%T$+)N$%L&#(#$%#'nSdob$($I$($*#######B$X#)##%%#)%&$(&0'%#)mN$$('.(0m@#&#$
,##%'(######&#.$&''&##^v(`m(9tYAmnWo0(&%$+#$I##'#$[)#3:+)#)#)#)#)#)#)#)m*#rH%<+)'$'&m1(%#m5#&'N#m9%&,CS3C,A*#2C,J2pC
slKdmvtXgQ$oX%?7R3B$m*J+$mB$d'$###';3#%#&#:0(,W1U?,;(%##$#I,:<@)R?.('#<#L:%#*&,(:%#%U##%$$'$###;%$.)%/($($(+)#)#N#1(
mN0,(wx//:&Tul?q($mEI)/''##,#0#'###$#$#mGDq%5d$YK/mO'#mc6,)=(=.m4%($($($%F/#=#6#$#2$1EmV/P/]4$o?@%T3>&G+A'I,A$G&*#'M
n1$,(G&G&K*W/.#2#)#$#.#2#)#$gp:+9,*;(#M#+i($##O#$%#$:$B$I*+S6#$'D&=j[&7$R2&#%#@,+:B#CC*#?('3Y,9$>'=:)m*m#ZV0V)M/,p(B
#M($m(K*9.&>5Q?7:/X=A#$$#0PC<),+G2,&#$#*F%#/S1&..##&7.5#<m/)###&#2#,)R4,.*$$$9#)#$#'%#5#/'n1X5&','%AS7$##*,n9RL&GS7#
.,IN0#),Y>8/&)nLOmOm./*$#$*#$#;2###1,j*$J3###?#,K)#8#.Q6#5m#oR+#H4#2@'AmK)#$#I8#+,((#$#C1#),p96nP#28Nx^mAmJ4nWnvOm<2
mmcpp4t)unese)B#,(m)#,(A5S3&/,#)#8'6uKm2mDm%'#f0d$##?rs3*mp1M+us)&#)#$#p%P%4&*qGnr&mF'0%+),rm17mG<mcm0#k#$$#$$$&#/##
#)#e#&$*#)#?#&#'##%)#pW$<#<#B#<#B#<#B#<#B#<#*$UmwdBrTP,)$,&#pDA5O&,mpA)#&#$#2#nX$+Sh)#&,vk_#%#&m&P#2nU&#>#$##$##,#&#
###(#&######%#$##$##########$##$&#)#&#&###,#4'%#'#4t&0nxV,mm9ort;CpqT)o($rn$1sx]op)sImsfqoN"

/-- The zeros of the digit rows beyond ASCII; each row holds ten digits. -/
def decimalStarts : Array Nat := Packed.sums "
muSn!ndqbm[m[m[m[m[m[m[m[m[mEm[m*p!m*nl!Sp9mfnC3nSm;n!3nwu!uKSndCm;q[muuKmr[npCwAmfjn,p!pdm[q;mKmKr!mKvSoKm*msxdm;n!
notY,,,,ns$r!muSqm3"

def isAsciiAlphanumeric (c : Char) : Bool :=
  c.isAlphanum

def isAlphanumeric (c : Char) : Bool :=
  if c.toNat < 128 then isAsciiAlphanumeric c else inRanges alphanumericBounds c.toNat

def isWordChar (c : Char) : Bool :=
  isAlphanumeric c || c == '_'

def isAsciiWordChar (c : Char) : Bool :=
  isAsciiAlphanumeric c || c == '_'

def hexValue? (c : Char) : Option Nat :=
  if c.isDigit then some (c.toNat - 48)
  else if 'a' ≤ c && c ≤ 'f' then some (c.toNat - 87)
  else if 'A' ≤ c && c ≤ 'F' then some (c.toNat - 55)
  else none

def decimalValue? (c : Char) : Option Nat :=
  if c.toNat < 128 then
    if c.isDigit then some (c.toNat - 48) else none
  else
    let k := countAtMost decimalStarts c.toNat (decimalStarts.size.log2 + 2) 0 decimalStarts.size
    if k = 0 then none
    else
      let d := c.toNat - decimalStarts.getD (k - 1) 0
      if d < 10 then some d else none

def isDecimal (c : Char) : Bool :=
  (decimalValue? c).isSome

/-! ## Identifiers -/

/-- Characters beyond ASCII that may begin an identifier or are alphanumeric, but not both. -/
def idStartBounds : Array Nat := Packed.sums "
nE$'#$%uV#v8,mb,nY,qW,mQ,&(mG,mQ,mQ,$(mI0mN,*)mB,mC))6mH,g#?,m4#?,j7oW,j,uk7mnN,(,9,mF$nR,m[.n8,(,nI,m1,mb,(,mmI#%((
,mj#8#D3L#v(`m(9tYAmr4#p4#x$&mf,A*#2C,J2nqs3,s1(n,,I,nY,9,m1,qQ,mtx`(qQ$mO###############n#,m`$pkPe&4$pX>G&q7,ml(*<)
J+m%'9(n3$$3$Qd+W$A%m%'mC*;*L)pM(S,p(Bn1,M&mK)mbAm[,`,n!,)7oF,pY,mQ,q1,mA,mA/q`6m8,vI@o.,j,sA8msq%,m1,mb,#)w(:nmqL7m
G<mn@Unrd,qb,msP+m[,vk_#%#&m&P#2ml=0nxV,"

def idContinueBounds : Array Nat := Packed.sums "
nJ#t*mK:#oF'oTP###$#$##m!.SB(#m@)$($$#&$,:#A>m6.2,D++#;&#+#%#'N%`*M;#DY%#5#),$$,4%[##)$$$%+#,$$,1#$%[##'&$$%%#7/%#.%
[##*#%#%7$$,,(#%[##)$$$%)%,$$,5#_'%%#&+#1,3'Z##)#%#&)$.$$,4%[##)#%#&)$.$$,3&Z$#)#%#&+#,$$,4%j#&(###*(,$$a##*/*#,m2##
,.($,b$(,.#####&$T7#$'.#G+#m?7#,/&&%#%$)%&0/#2uZ%++xd&?%@$A$dC+#$,D%#.mk#mQ/&/,,m[.`'],#@$.(,91#3T'R4.,4+/%A0$,O1S7*
,(,mQ%#8&#(#$%nYdsk$6#mV0&#%/ooQ%mi#m;CsU(mD$nrma,i#&,C$m*$o[#%#&#:'&#m.$U5,,(50.?*<0O&R12,.#,,R1/#*$$,D%U##%$$'$##L
''$o7*#$$,mtt?#v4333%$;%nS,H#m9$t@#o,#n''p',mqk%#$'&K%&#n8$si&*,q+$n+.T&mU%X2B.$$,&P.)#P,(%G1#,'$O#/%S1*&#/m,/(#n3/'
,(&Z$#)$$$%+#,$$)%'nS5+,&#m+7/,ni)$+>$m,42,m+0*,m.2&,o=2n8,j(#$$&###$/,mR)$)%#?,K)#&*#+.Q3qP*#*3,[9#1mU(%##$#)##*,S'
#$#'*,pL&mst+,m1,I'_)<,mm'##Z)&m+#.$msxN$ql<Q$:sI'%(**$)A&n&%mrTUs*Z&U*#1#9'#2mqd)#4$)#$#'oP)+,ph#a1msY)mH)',qm(,pxu
sIo;"

def isIdStart (c : Char) : Bool :=
  if c.toNat < 128 then c.isAlpha || c == '_' else isAlphanumeric c != inRanges idStartBounds c.toNat

def isIdContinue (c : Char) : Bool :=
  if c.toNat < 128 then isAsciiWordChar c else isIdStart c || inRanges idContinueBounds c.toNat

/-! ## Printing -/

def printableBounds : Array Nat := Packed.sums "
n4/#uf$(&)###7#qH#I$U$%#Z*>&(49#nS#S$_$m@1_$T$2#?$##.'B+m$#n4#*$$$9#)##%&$+$$$&*#&$#'$<$%#(&$$9#)#$#$#$$##'&$$%%#)&#
#)4,%#+#%#9#)#$#'$,#%#%$#2&$/))#%#*$$$9#)#$#'$+$$$%)%&$#'$5,$#(%%#&%$###$%$%%%/&'%%#&$#(#18'0#%#:#3$+#%#&)$#%$#$&$,)
9#%#:#,#'$+#%#&)$($#&$,#$00#%#V#%#(&3$=#%#5%;#+##$)%#&(###*(,$%/^&@H$###'#;###:$'###($,$&Cm!#G&J#G#2#0HnY##'#$q4#&$)
###&$L#&$D#&$)###&$2#]#&$g$C%=(m1$($td#?%m4)9+;+7/0#%#$/m9$,(,(1#.(m4)N'j,B#/&/&#%M$'.O&=(.%b$e#@$.(,(1$BTm'%R#mO*`%
2%`)N$.*N'sA$($I$($*#######B$X#2#1$(#6$%#+4;*R4$$>#0%D2D2mh&u2<.8mx/$C#pa'P##'#$[)$1;+)#)#)#)#)#)#)#)#mYE=#m4/nj=/'c
#m1$mB'N#m9#m//R#nqoa%Z+p`7nK*n_'$###';_%,([*j*/(mO.A%m(#.&D#Z+1$,$mB;?,($($(+)#)#`&mY$,(wx//:&Tul?q($mEI)/''=#'###$
#$#mX3r0$Y)#CM(V#6#&&'#mc&nQ%($($($%%)#)0$$/#=#6#$#2$1EmV'%&P%m3#0%#RQm^@%T2?&G+A'N'A#H&1Mn1$,(G&G&K*W./#2#)#$#.#2#)
#$gp:+9,*;(#M#+i($##O#$%#$:#m!*+S6#$'D%>'#d[&7$U#$'*#%#@$%&,)+)dCJ&/+Y%@$>'=)&/)m*m#ZV0V)Q*,p(B#M#%$$m(K*M9=I?7:+m(&
G+b#'0<),(X#5*J+m;#7.5#Oe)###&#2#.(_',(&#*$$$9#)#$#'#,$$$%$#(#')$)%'mgm7#'Am!*,n9Y$IEi.,(06^(,Y>$2&:nL`m?m./*$#$*#$#
A#$$/+,j*$Q$.>m!*m.0m#oR+#P#1,@%C$9#1m#)#$#O%##$#+*,((#$#H#$#(),p9<nJ#2U0x_mAmJ#'.nWnvOm>0mmcpp4t)unese)B#,&m+#,(A$(
,j,,#)#8'6uKm6m@m%&])4d'.$1rs3*mp1M+us)&#)#$#p%P%4&*qGnr&mF'0%+),$&ql;Q$:+mO`oA,J$m$*mK8jn,7/m2+<mcm0#k#$$#$$$&#/###
)#e#&$*#)#?#&#'##%)#pW$p&$uY2'#2mn;Bo+)#4$)#$#'niP%1$,&$pCB4^'#mp;)#&#$#2#nX$3Lm&&,&$vehm&anU&#>#$##$##,#&####(#&###
###%#$##$##########$##$&#)#&#&###,#4'%#'#4W$oYO&m?/2$2#2#H,nA[@0O&+)$1(n,mlS'3%0%mO/m4)/&#2/&[*,(K*A$$m(pW/1$'%'%)+@
%.'(,,(**)+n%#ZH,mm9ort;CpqT)o($rn$1sx]op)sImsfqoNprwn@o;"

def isPrintable (c : Char) : Bool :=
  if c.toNat < 128 then 32 ≤ c.toNat && c.toNat < 127 else inRanges printableBounds c.toNat

end ShapeSearch.Text
