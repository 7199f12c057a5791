/-!
# Characters that come down to others

Three tables, in the forms that `Normal` describes, with bars between them, compressed.
-/

namespace ShapeSearch.Text.Normal

def tablesLength : Nat := 48695

/-- What characters come down to, the places of marks, and the characters that pairs make up. -/
def compressedTables : String := "
NYso$f92P<i4;jiEMgpLj%n5qls$>/lW'IeayO`HMCM/u?ozUrm?<Y`8A^eL+5Z>xMIqY#i6IwbCCD[*]lN'|FAsAW[%ZBcB@|yr[B`g68r;D=)gk0OyMmh%!>Q(|2dTN~bJ96A:&fu=H<#O$B`k%744A3$g)Lbt4UOPS2eo:r!5:1S)[6#0.)&z)o'?([3lpMrp(`.8k,HND>LJv<<DOKfxi5>]Wm0glPee_pO/Sn|99bxl)V]QGCdW88G%%!fRYQP~|'ff*21dnLJY78>s9`2#`*o+kibh]poQYH7K)oqCRFK/6WB.LGM7?hzB]N?xTrG!D'8Q8!e=2Tdw>d?$rOw.TcJ>PRD1i^OCCK>#?7VV*wJj#QnC^`!7.0HO'Nv;**tJwU4g6J8`tFRE0boJ.wZ=s0DxJVhIF^[_~M%d8Z+pO,cp11O)B6<2@OSo$u*N)g|htP$h&ZfU98A@,uks,+IyH,hndE5m)[Fcr'[&r`Leufh(IXsG7Z(ETqsM7~c9oZ`:wKay!?0n77b6N~FOYhQ8mbSJIn97V:aqV*Wa']!M=;q`c<z][yC6:oVbwd=IQ2:f&oE#6m#U3wawEyPdwJ`ufhx11)R]jI*%;uf%n=x(g2[e6!XiJV@!UPqN%78^WZ+.'FMZdB6Pk1@+`o=XJ8Cu)cDPbcvt%805T#O@K5R(`T)R>PKXak1FxW6__:9lpz$|Fr=V/sc(DYFn6W=|Pra#ldg3AYgu2jo>#):y9wqT4GAiU+bBpX@dsle3^5v=XYx?Xjhxfj[ZpP)E*!JoUsd/AEaTCWR*tHRlDa,JWk@3fp!ud(E)Eecn)gJPJDcP,Gx2l/,o83KNAF7UtTDCHh3/Vr~rU=GhaB>/S'Yn~8+UUtc$Tiq@EP:/qZRK2,<@=,7ZLr|D)h&yRrd8yX(.?e`;zdt@UFXDsksF1PJ]RBY.flT?X]cPpSl9/$3VPmL.KUOEHR8uu%3BJ,7v'iuGL3+I+J@mR^f9p08!~7ab
O*72,8<HRW|+6+iV0_:T0Jaqz44d62~H1K+Hx9I1>hjq'y:'m#7ef6(B;Bf=B(!~cVr0*y@'T[d=:ZNu7D6J@J1@)KxDR+VvcY]k3RdxaKQB`TE&jp_L2h?t1x$?.R=<@YO~RyN]=erPDl,tfxW%U^o0!.!/n8g%,Y6)a07F0+z[J(u))eLod18SeNS[`|5/yrPgE6DoqzQ&N]Ul,EPN2:MW&|Q6rfFa(FPzI1bptjMDT&]@E'y:e>USu27GLB_+S4ryC>jw4w.|(jqV:BU64O]p/jNTK[S*z^m&[y[Qh7uDHY?5zcQwPOS0;v#YIva9bX7WmQYL!(I(G6Y^2;n%ekpgz6r94#rB[Q?Mc(S$waov|FWw>DArZXgImAdr]79Iun'j&<O5|HdXV3!|gF1>xDJ*|&v:?[t4Zm%A)nvQw09%U/~~j:gEoJeGm&z].,9p(g4%pp?Sz_~/<$31ah#P0zye#Rlf?;X|Kgg%wzV/gRTh:`<XsDcfgAq$d_;W5&`(w:Rd|Lb)EL<2',OFKrXE%B)FCY~oE]Feruu+#8#!gBp0hA<!hh#r`.[:S/Y7wzl6ghCt;z[RI67S&m/)1.ZEYwK<e#Y9Vpf<Zob0ePkRpMFCB^<K'g+n7Oba'[O$5#L|n,(5|`qE5U&[+<x>_H%n!>%kG_X|AuVWMOLM((34EbD#qDz1qs_treb(M;L(s=^7'nA.7!:3gyeE,5r)<G2DQ'!*CmK,iUk&&q9|`cE9+I$:([%_#sw+/_uGc@<P'x%9H?YT/b?edXFO@dXP@!R%*KcPg+*s$AeQvKu7gLS'NRP5VB3=[R(8hJUFMNy_+#NEN5Kg)ldVWX=1Tt%Q]'atuWYz?.,%eV~TNHsXlp*XPF]Wv_YNeON9j>V<!5<CY??@:%Q<^sDc_mCaT.TCXYIqbI~aoFJ?M+/06x~:OMBdP2BwYr!t`'XEDl/j~p'|2VrtSd;oVM[1,VXI$iKCF,o*SWm'xPVK]QShQiTd*=AY
N04P)C1o)kB&g8*e~[>@.`PZ?H(>b,y#I[ryOSfVsD/jbjWWPG3Fw,pFK/*.,dtzm_M|`+jCN,'wRkP`QgZk]Y5PK88C!#[.Hzh*8[zOGWc;hYLjuhvxM<DLAbp:]Ik*TEMAN+^1?KK36(*UN+(@NZH'RNTl__RiKbD'Ny`5c9y;$2,n5Y'LCSwfpPC>sM)wf86<4T3=F_*)P8<Ly<<=JpnaYq9dxwQ'v_Qsg&dvkeXB%:.dP~EIOq5I6;pHk*Q(H?P(Bq/7D61mXhp%z',0k2of8hUyf,Y]2xp>oYc0lFS<Hy1aI!<0D2cQ#K+1u_<w>.mT0i472zx<DgSZVc6HG;l&!7UNtxh~Qhw2/.f,^~,%)QwnZPL9@Zfl;Fd;!0jP_AexarBS~Rwn8NP2ubCrD+Cq:b:ind:QMoHrn^pfGxYObPlZ6cx&1tz(^&&3v(9E|d|$RiMynmtF(@qe(bm@hu8;_c'l's9cP0&YCV'dys$m64w]Lq55~R(Z'gAml9$KlzbfsYC*ut,d],6$.VDTiLzYRXND.zTJ&OaYg^#.?Z1CimNVST8Rx4WitZn>#Pw@^~XCt?W4xHRWAz14+!Yc&PnLW!.yMhF`O7$WE0[%xG9jT&wPG)QF/!PVcK2EcI287@<.(=k;?9<H9aYNIWv0v6T||6d?`xqApyCS7JN;Nw6,e=SDUNx^u4YMBUQ8*,>SZd`VUK$pz6]W8VO(=pa4aKOe2@c=mbb;QW^(T8k`QO$o^>kP8)OH@_[PM>ah,bdu^ol%WJ_T?:;2RRI7YE5>zUxpvRqLmLiDTp7eR=F9$06T305!+q2]nb9VZN?L]8z7YY;*golWDsvcAf%GFT^&<.J]<l?K3z`jc6s=K1xr'z^[89p2ORhi;<i=aNoc'EdLPwLl^WglJH$`16v0R*!34Fqn>G=+HRpyjzo^_3!w|7kMlrR17bb$5,OR,zlkhNf&eFBLX&eqY[.aji$:r.%@zxY'$Gb<.5WWxm|~+V7g
KDx$YE9kP#eGEMs/=&GbaxLy3vNS<h:Alh2%Bnsjh#=GAYP)>#:#tpuwM5E1ojRpW'kY:0#XYgT4fGTy1.OYTq4v&0G<Qk^^#eL@+MUn_JSR,a~(5n^?vrS`~3][pdA,t<CCWkB=R+14gP$lSiwlQu!9HzYR5LmK|d4x<(.pJg[z8aQ^]7^ril~`^Nn&w5oI]jr;E.+`1!>qp]Oapj$I?9@_C&e)p:Z>]dcLVjA7Z]MhRJRT1jmzpe_!vt],]y9hS#_rlb>?_),@dx,BwygVl&12t7$zB=mQNBl6JFb%C/g9#B$Q_m#+n!ZoF#O;DT1!FZ<:x7aWg388!VUF)&WWitL)ZGB,d2em'l46D_XP2cpqushM?+X!.|>=j%]5V]PJBNG8FC6ya1Ti#x*ZjVCf]WxXg#/$z4?xP!P`NyFB8xxb;$9::0qzUDVwNZPr6zq1N0^7f[D+:@O'*8!S)`jyN>$NrcB=oLt|CJ_5D_<=|SFRRufvNI4s2guQm@5&8DY]@nQ.VnoL!u]=c7qDa`Tu#g()79.x8b5hjUNzT3xuS7`,!Tj/j=o':hn1bVdALY|C3rq`+34Yxj$'.'P+M]Nng4]OXL7Cq^[MWGlWe1Awv=q;c@WWN_DV@p_![$x<q%ZV@bBXC3)!aZ1F;^3AsuL(JBbau$IHpI>g?2^|SszB@6ek0|MzOVW7@V%!lJegi![.NV,2MCE9eS++Z:MU)9;lA]4khEDZ'0bussPgITUrtP5iBhqqiFd$&Y!==wO)YI5%<&0[2q=QIR5)#:qW)VAAUmfFte'.xwb;Lbx=[dJiJcb0.i#dPL!_EcOs>eowQl^,C_<v23GE(Rrg&F1j:nD)tH=qFI1'Pyr&`=d#u,Ns#_f5/MX1xV%<rs))Kfju6HmQR'2%c]3^|g9~wVxz_Rk2;[YB]d4czFfTfSht'eH9d|xppzhvs?1d&w^Aia,H!9n)~2~FMDVlN3rq&qeFt1(pq9'b8j?yV(?sZWpIPu_F
#BbT?/EJMqd+dqB%9MMBg`Vxk1b3rRao>63~qtoRqdG[S@t=hTmeRbYD0:cuU$ShH$PIbj:Y@+FQiIV+X3Xy<5w[F(O;RdVGiPaT,&!:JFTt+?+c:i3UIcD'Foxa;P,Huac,GqiBPu2Z,f>i|Qc3V[i/gi8GT>z,lv;=Hy.mX[69Y_wpTAeFAg,%Wj~O_zVAgdaU+A@.je4yYI?>%xi1G,(!CC=*$z7589:@zDi(MFn$lYb7A93vtx*(Md'*0|78]apBBNkeE`cQf[0gV9*q_dQ?wDmn.R~|4fB*riZr'S1&:C]$^fc$S[V(Lc|;tSCU85$_k4Z);:R.LG'd$BM8Y!1uw^Yubr!c&j]iZ*b)JF&:R*0A#cn=kLMft@vfkbOSH4xA?!My4pORx+*,urHpUws>^Zyj3Ga]q7&aB*)v''MS/50TcKl$>LnL,Da9_s'~'6a!+o@e;e[t&y@M02~XPXAuD;^Z).2WJ]4cI6T@cYlf16oDG%d2/3F6HKT%7V,/ktBQV:fBP`8U3`%/'ZOggZMTie3j'_/!SBz@PtP,=ccIHnbp|Tb)a@oWav!9'Oqha|b6b9$]uI[n*/I7I$(mPXXou5!m;!0)cR.t,C;m.y3#fXd)o^$E'&.;t4;JRM_UajSHJF>4F+;dUSyu6]dT!LLT1W:RA!v+.CYWTC5MtNIEH:B|az`zC/uF1#KasI![]38o~]SrW6.YSm2pY)EXY?C0WYM9v!OkgFAYp:JwB?XSvgU:k&?u&SWMmm7Rw$b0*PnDr>c/^?;udZ(d@'a<#s.k3<4K?ZD8`(8.%?$P+.$/_8s6(*'VmCD4./EjD*kmtCd#;JwgNE!e7zjP3VulwY*2E&q1.N,.SWh9sa>lb2F~!=H~_$$cV:]L=;UTccl(Ynia8:]<6W/:>c,0:wnMbPB]~,Me]zFjc<TEljJwlYi7]8YYGC?h#nipBA$5*?N5g.;]q'9qIG~N3y,Z?|4gwy$hyfuP4`O[y:>@c.(<
@x&5EE0Cl@E;cQG:QS9wZm1S/n=9<Umsk=0$N[LiI+XwT_kVb[g9WGB*5&'%Oow].@PVoiJe/ucO5.s|Z&a@S!=ly~Hw0ok1_ITv^^vQrmxzj$AIV'$@kh/6Jr=D6Z4i^gs?x~0o[.txS)2!EhtF9;W&LbYLOqB|DkLO1*HI$PYcY'xG>>J(AlUpLtU`iM2~rffjwbz@bBIqt]UMiW0I6kM8BWMfXF]ef:hsWh#k(X?xF(E>U6G0@*fiV)NLpO3WHJicU[QVGiNoL_ExIPVn*8wUkis/Bb%D.B2e$EsL$*mE9G!w5ibZ;`qCM[uT8n%dUN?+`8)fqM(=26D%U5XizGu;DH9d/gm.>DlwyC&2Ldq+RvjxPIu&iK~a&cq;)c1Ku|WKAX@WqU|iKajag8/#y5/S)#h6ywUr?IsK,hNv'V'*R<8trUp1y>InlT*yhEY*>%J#?H?McXPI|S<S5+X>G|lEsuO|Nj%>_c2sJ>)tc[#%u70J$_RS(gma]xpOE%T_UZ:EvcG|dqAg^nbDjq[sZ=.g/Lvuy.khG).C=_,0d[+B[ou7TRh%r5y]ZTLaGUZt@O=$Ds3z:b5U2UIh0dn23Lk3~AcvQuxS_lGJr4]%Tc*Y&2gLkSz!Jk&?.L%'XU'cF:[oV&kHqrxAiW.Lhke8m]xD4)SV)bOr_vj!!!n>*SygNbdf+R;J4@Z@ZEi,gf6,i|bWRqpy|L=7|4=pzmn]m+Uh:@],2NlEXf~Ru9j%Kx26fm$an1(l|X<l9+pKo).QvQ_]vL63oD|d9Ve,Za~zEx48Jfmjh+1vKnrUV#K,2jJeBg.HDxH6?.UCG1%IbE#Mzu.P[~;#G3O//j)x>Ez[~puj+f7o3q%$OXnAjfmT|d'l!(^,!h(LZiHt<GAVrc3bT@h!U/+//rdKkxi0se.d?$)oKWy>3bSKf7R?]M.[NNvVzH&gK@@yP2Y'%yn,~61]w8M.P*9Re7y=8j+U&H'db^O:7/maGaqm9`,or!th
SdgPpli>poYwyh.c>G[Q35`/E)hhGPzYpL%5d4w`xdXtj;8xd1Op]l>(<v%yVX.:N_[@[n%I%aaIpO!j%o~Yf>_?ahK%Z.yFX@f5l!*=>&/9%_Lif[0=GypnrcJ%[onnS|,4*cvH8`cXy6A&>XpCVrk734ygqH5Qk8zxa&w`[67cOF>0Pkk^h.`xPIOzMI6OC)i=N5ka6==5fV+L/%0jFF9jU+fn,%'_Hx)$gi5G.1BZ5N`>!.EEERfuoaq@w'mit)rFwPOXPBsOmw,Uc8A=ACl5sZ!xx+LjI2PpFvXX;._iPzR2G<.J4mR[gSrKv;>1VoY9cLl#^Iw>qKZ>J6xvcv|G/ca7k9_oe/]w&|I1x^sR(.,V4R&i.`sdxzXg[J'12+6i8[.Z)`,:1ykm:wpHM8PTKxhIXE?F!nxwWFevu6Z8hqCtJ&6,8%7YgLjq_rhohjb'W#Xk>?j9f_!zAY$P7l3VB5ivdhVHJM|?0j_XpKCR()c<8eNii0@N:h.5]Bv$1qdM.i@Fl$|x6B[KOu9.y(|yxk]&H:Wi==2NOj?2gj.W9YbmGAqI6r[7&oVhRET8yL=[mud?heZ@OF?_Idot5Y~;#dz7|sF[1W.]$xk.T'D]q`$[E+s%t'!P5_.]OF4,XK).&8XAtn>5?YFW%|OCwb$9=H,Ms~XcU`e8S*gYq70;Yb.nNi`0D<1T0S?/wWvj.4b8+bGo,+f@~uqXvj.5=Z(f6iIiqUD>G)>3KF0cVSPAg[pUTdrHLyuN:KB6Wq,jx0Vru$bBT!2q,HyTKnlKG@*RLv!.h7|5,@yw`=j]fj/+c~|/$*ygX&w*5Gno'F/:zhM)@/l,F@yB`%](EQ?<U6uprr+pF80k?JbpTQ.AQvURK~;@G!Psu(,XFCqUev^JNEOp:PhyNqu0%[du1Rq'l(z@cw]L`(s>UbTgXFk;w8b;^V/1x,($X$s7wM:2A2P6#:E:3b*$3&WR>h+fsjze3RwS_keET'bkBUk[9'u9
uddZQQj|L;,Htsnb:gxRzmPZw?w>=0?qZ7%4E6/;6cmS0g$dDEn.@EGD&F.(n~1k<r?=qU)A|Xt8cr%q*IKy+'=#L5K>g8Isu1vs7lz8f[K'nh_JR'?[ee`QMc)^7e;nE5@JEX3#ex95plEOc5;TDR!u|(C_heE~D<b@;[$eiR$+#6VvBqMP&1(8yZYmI|F?E0orBz=0$:,1pcKA9oTJ&%y`)ZtMoEVfEy5Pt$HE<3OGkCv?HG4=rM[qUL4XZ,Tm%>KeP(qh:jg/$usslrICK5Ib^AY_1G/'k0e>EF%)W/JlvQRM62yyeHy2~pz8BSuPU|7(`.1g<Ow7azVmx=]`k*T4^*2N3.oK72KQtGcu4&(_YrE.~lf.<>)AcF#/4L=~.o(qj4RXxv/!1/LH22#[8*%~R)<TWstkXhF7)HhX%F;|x^`3C8?@*i)F@^[6w>a=&rDb&J]B_V!c+x:KR9#`6nR^M*'T@qcSb.mH_'5+Op1>gRpvkTrhuP^=fmK0lp3zzDiL&gn]6>G3s*U85!XZdu<b'jgr2IqC&c|/d+#0<?YF'/>IWX@H|e?C$|?#MT,jOhtgM4Ur])<di9zJ0CmZ|8i4=lUO;O`HQ9MpWxzC9`hCi^0tHW@>:WnX*rboZhj)c2pl,re?bhNzbP:CZs6~I03jJh+B'ue4O/z#(cIHS?m*A=;>#B|0Pq9Q=le?l:'H]3M|N$aoME#ELn!P~yvRc%%VY)f&E%1h^z@/!Y_T~qr.i18+wcW#^U4:eW_iJayGC5ND]K8R&1Z[HrB`!*+JE@hB1J1G2.wnA3Z+P)*8PC[V*_Z'_Uz2)/tg$7=zm)vA_*d[,350xN|HC2/5]IxAl60?6CzL+31v54Txe1t]VbL1]__K2R9(3j%],MQdWkI'1XZC.ul:!eJ3XUrNLFUv9,06/]`rs5CzX:'7kPSK6Tg$O=JNr*0*|_;uaZS_k./jOGtthNR6O$Gh;8nc]KlOm+5aSZBE&Do],ZiZ]2J#
xN~8tY5ANBZta2Zz4=C#u?`dtBaVjSCF?=Y_Duehk$a`;I/(Z3kca<KNb`W`bN^Vk0~tr^6CcC$f/m'GX,reJOirGFJ7?b9QiuiYF%^z5O.8nVf3Dk(VueEu>S`IoCl~3$oTI1+J.^~s.FcP7`V`A1:ggUQ~q0!VV8OQEb[]8&=s#lJsWy<><<bW3g']6E|$]+s[ULXW>drjEutTt4).#pAcG&Jw6p6IL`g5$80B_Uuf`Nf>2tgM&s#QjM!GmBbvV_=Ix>:B%L,gZi9mhl?Duy4P!hnVAGvnRorwLAjoly#0',N[|lar_de0Mu:Ewt*^$G^6L~mDSDK47pxZu9:~i/f=abmyCzv4xvOKz4ESe$ze,ImdHYg_JIu4pgyP6AzG.6z&L%CRgR2oWs2W5;j1KdAcQH6lf+T?CPzVs*qIRCmDx=IPW,'/l(_7G6wK&A6$+JbRFsr?oysJe3z8_F82Q_FwXo''~6w6:qql(OoDxa~&;8~)@hLzL5OtG,PhE^@f1Ge?XQ=w/Un^)7q/4S&1qrGudavhyFV4Ti&Vlb2y&hEyf@o)M#mWL/wMf(Ov!IRmmzVrH8kobfYhAa5_Wz|2uU81G|)N*(PP*;M([!MR=?Z90xg?pM+<K;;f|N'[blJX#RL8c[y8Q+PTTSMBe'Eg)j?YT:gyngdDK)+7&5j9=5=@[$bi,aR7evXmcMi/U7F[:d`H(^03/iT61@S#L_BXpD'f~w8q&cH^+)bvk>nlQGR|(7t'`C@>W#6wRE^!Ukr7p@W/g<0J@=V#Tgj~Gw]3~%Id(=wrV)mMSv7RL`t?v||gA&l)NX]:E3:1OD^q)mP)S#?1:u^@|~(e7tl'7,m2c!fA>d;=bR;t,V$FGU?ft1o>_x`4;k=mEx2|cGUFh&sBqqRsp9FWv8e3`E^C#v:KRkzOHh@qLR?NBXR6T??9ykHeU$?]^rbbr^Q1_DSl3OC[C2rJ%NPQ[41@8r#'e06CE8AW*5Fu)?GsyF(*$fq.
S2c)sEr/OgE?,L.#n4@.$.IXtIs4IgC0w_Rr6zf8Dpc0K_nP@OAh>jm1;NGH@|kiyJ8~y@%LDdO)EZukljg<PnC4oT<Wdlq.i9S!yyvb7Lk~*74'2X9AS]U_Kdus*JoD!Qgs.'+FF:*'d8pH0Uy+d!<LU?j'K'rUE@6vZBcfkkAbvM??ez;@St&PQK5ptsA&ipy1tzg&H$M[[uc7&&/PN2[^C'3_f<0d=>t,r,.zfZ<O3z)v>_lX8F_^@:d')gaLl(#PVO![;!lYkR[VCtG<<$:=f9x:0qaQ&M.#eA.YcK]%[hf=b/)FEvT52G2vDb35(qv7eEt47`$LW2S`aPAF;DV/wjuLp*W@3~|tI?KXh~1sKR&1$kX_I=q:n=^/qB_.ZhT7auh5?*knc=juU~G^*qbudHP|GQ?E%I^2.<TWE3IWJx]C(fS;):P7E?dw_~f~AJF)'Vbc_K*!;A,4,/=#eH>u$:FC>lT|SgvC/[Og8x,M!k1S&4KR!X,oo'd>[Mu:tb2`3:ej,'H!mFDWCu_jpDfIoiV:Zhs3H8L!7hO$;%<L%923sleSUooxGoOWB!V2ebW/]~w8XwOs]6$:r(9ERo[cix/r66E~Hh[$.*#niHTnWD)fk*Q@R^$Y`9SQw6[R`)o?82Y,)$wB<3s4Vn9cE&A9g)itS~x5uV?,$9CxB$|4kfr..Ii=VJB711M,[Qku~xuCV~Rm7)H0.TnvMzK`'BrJ^CQ9B.$,~<?]p>8iLD@2yXVFB(bZh~Db(TVeO?#dT~qTjvx+fH]T(^U.jIj?L9<z$0=V=9wToG;j]]vA>;2l^HVv|8%5W7YBiV2B8P3il1BX3yM$>X>;6M]dPKvGk>BX+%]UH1Bul>S0[p45+v>(.&=zHtG4|WRCE].xyoY]n<:Ht'xmhZuH!]$Gd+AkbwjsqV&33Zf56|'A!vUSI~f~l%YtBp+Wc.aKYB8Y'soooc)xATjM6!<Jz&s]c~JoB=9u/z~ijBJZfO;j#cW7
B|Y~JJzdqIBc(02~o'rWKgkh;aRg5V3wfw2zk<%ZbFzNDI8xT5;_`c+_=QFhu?.>Kg#~|G>,?W6`#e`Qh>P0B:3$O6:[kz#j*09)Jns.V=25;dr<;'cHQN18Ku8?jy9;.m&vEYIZyJ>hXC|L]W]AEabWVa$#fKyFIAsW_N;3zSiMqlm49UB~HwjZ)w$'f3>%Xg5Um&<OF7lhp4jCTd|q#ikKjt%/145k)urL_m,9]EI]0LqLkSE=)F=>?RU&uAtpS8f7>zf$N@*gezomHy=UV_1M/fhVm+EwW;[<n~?a1|n)ElOgV$qH9=pTh=#3yHH>;m2Zl&Vk,A%.AR&AdC]Wa6IxAr3De>W$YWJRRj+Kx[WX7!F,bf[;D.eD]u0YA;Z=)c$)|52Yy6Nyd+Yda|NFtoM6_s%6lhxpy@po]X@&u1T_>sfwt9z0|siwcNz&M2@`sNjk*lN<[4dzfs5If^Ly4qaTUnD>E`n5GYkU[(|;s<z,eFucE;`e.6J'O.%5wX@*5D$4<1)<I4i+y#Bh7Lq!_|G/.C(Q]$!H8$q6I[XpHgFCllKKC9WY2_+#Buuqq0MCH^P[,L!L:0>(H%_'?_iDb:i/yY0F*Y|?h[LGTvKQ(@tqu$$K`p6Ju!5(3N@?.[&c=:``aALQ8<7m&>Vs_8>Y&Skqs0)F9/JcS9RNK6D]e/!]$CLn|X5n$u<Kr'&LAltR_nl9dZe2|WO=;9f)F;9TSZB:Dkqjj]:WjBL'FL1Kh0?G/!bMwJy8n8]i6dz))GZ42EmB0[>Ce?y,|3_:<g&))]TOAGMl)z.w`M*1N%r#towk_`x;PGjyqOxvLdszlv')KSHpRBQ.865Jf[k<vm'Gm;XZ3>heQ7#>VsXuBx+0Kvtj/KQ0Eox<m,=J3ETn5:(sj6WPJObP$DZC$r*l?Hfhg'/smNqGl$S;M,1&njsI|%gku,%8&4Xj]bei+xjungl?4L,Ec=tu_Bd!mDq=DOkO5rM+KCb]wT:$*T(lBd6D
$,:GU##i,ZIe)/[o6TwUqs)Sec?>Icf_Q^4!8|~I<Rr^w4&O#VH<rd,xBPbFC70&gsoZ*0Gcx#ZEW)M)gH*t6Qh`L>*c,PM|DHK^UBGuFi6_Z.R;xA<7cI!ciEir6Zg9BSwEw5pUoqpEg#CjP#84VJTXKLt+L+&y[HH(y/o9L$fK|]RFWqB[PKD7)Ql#HPWilJ8.$#QAW6:znU&>3o@4O*&$jOWQ#@;UV#xdY.Q=|y!3b/ZmIoR%]Eb~:~|p_CkWYUnmL1e4ifO!8Gk]UmIjpXtHV?1G]Z6tk4`XptE2g|53'StVhD.nnX+pqMr#8+=V<f&,:`,CU._b&DNyF#wU0<+5<pC4'v3Iq:~Rep84*kCP+6H@BC@k'799]P"

end ShapeSearch.Text.Normal
