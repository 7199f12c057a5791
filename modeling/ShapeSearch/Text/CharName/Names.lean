/-!
# Names of characters

The table of all names that follow no rule, in the form that `CharName` describes, compressed.
-/

namespace ShapeSearch.Text.CharName

def tableLength : Nat := 206242

/-- The frequent words, a bar, and the names. -/
def compressedTable : String := "
@5S9*Fi.,=T`b~qc&+LWYlAC/'*p(FuJ_4wpKI_4ax5BAQW)9t8T'P>2zr<ZlplgPo>g+Ndt_PZW!cbc:`aNLcEL^mtGhf`C]9k[=.O2#/:;qucoE4it(KscNxu8|;A_Hj7W$U86ouY`c*wd5,&V:L#.gW??5;U|y(pflua$ALVnB]JEYVa$6X8A&!Amp5p+x.TM:6w(id~<.nUFnlh9T$q.32B&Dq2jYsl]^7,x+hDNJYl,%(JXV<d?p2rOfK.g3T1%83?@@SMa0r^;I*ia=ro*+b]%S^jooSUnOx!'P6G)>o_]`UjOW.=7s:6L=K*mgCwNIv/t%$AJ%Nu,HpreM&9p.bA;7=5s|2QZ<Hy~<KE,1NrF>#N:jqJW?pe+rDPHOguKSn2=WD3xkY:0LH|v<E|szhZ4kR>MI]r<=<L&bu(t@SE`beEm9w2PWE0^Z]|xRmf_~Ap5';rNg3+Ap4iF|Qvp;>:'fwsS5j[)U<S5X$DGwUuiuTI<eQ#QdEzR;/C@0gy?e!;OM|@v>$&>/qy7ik1nFhXn!4F=wJwqQ$&:Y*x'GsO<X7ET*z#)@CM6?*Itt^M,wB?tz'3#ElHKD$QfqYR&YvUFD!$OFvL>^&ea!y~IRj,D'(z+9yW|<L>H.3MD5.<Xw,zk_2;wi2NXT/rW<$B[`tRT1Z1DyKcd0KBKYM8mO#|i>eKiP)p`Dt4<HEZXJ|)euKr!.u3`y^SSy|el8z$*uR`2ro_.ggxRkOA>[y5mHy/ll(FGyfr@R|2U$l(Oj<IM|X'1(F|EPz60vb&,^;YGn<LgpUCU#u6v$1*%#&8n'P#QPRH.RWnRFHG@f.OL<oNh&|zaJpK'ch8s31^lt`r/RTHRo|lmc%;$`|0VU2kCST6Hg*k:B+3aOdYz'5X^%t!L!'Rf>>9d5pZ9BkxQ`)lbr|N*6h)~zBd81<)nC:[sPO#!8c5@WhKlr_I~~%F2BN(WQ9DE4lDa6_Q5%O'Dyg/FYG.8s,fzB^<kjv)O
&BhUn9iB*u*v^DN@~tA'W96$0J*67F?'072eY+y`_qAuLFgPo(cT|/)#E#4AQ3nWt=D(wz':(fY@S@~C=sK)IBv]epp+JYZ2J:@(zJ:IuTCH/r``=r#9M?ga5`y4<y@~OE?A&5B4Wpu2Q1(td=yo%Mx9UUGDJ6c2$GAdx9[x~^<=MY.vy9/jRF#rj25~fB=SD5E2:!?_8~cU/Ym]^K.F&|ob>HEQB@'Z*GDQ4LEw>4VF1AxP~P8u49kT~qg(eU&JIW]h1]Mx^^B4b),vLytH#BCg%2tfGDE>'#AJ*~`a]'qlh|1l`fS>Z;c?x`XM_4F4D37KA/LA(N[,sy(JD>C/s3d3cd(<fnpOg.l,FwFPskpyIP<vWhJ[`2lonB|ntbdhFK/L!EB`nW=lN?JQRme_wcucB~*9`ck'q|66KWVRU`=z'7gz`U:.5jkNiYB~2:hekJ`j%D?dHKrwzQX>Dpa5>7_z:+$p(M=$GA9T,Y:3R0'l0$>1uhJ9%*nFj:6nvJ],Rl;Jqd;m7q|+(>#2YtUjl9@+pbhergyZAEbnCf=haKuYwC*NHTs_A*s@gBfDF$8w<]L0xOMVv%`iR#hNeLfWXprceKT/?6.l]hl_KU#aH=<.:jGLvtUE|*kZ#T8#$CT>A*uBKEr/yh&ti)>wW1TwJi>H3TQK)^z?P8ZTCdu9*i#.F)=`N#@'o#^=C;MktN@NAO_KmXrty@D&a;IA#sO9Q;2UjWwnXP9Kvk$n5jp8YKVP2<E=wA(F;43wt.J#Ksrm3bHC+ux1b3_*^*fFmfxbS]!'<zk(sV?.tjQGyu]]LU?pW=M&T#'x)CAN+?(QB03%^ylA;oI9#x'gVW!tS4oXg|XVlflc6[APi7:ix]q*xPb*DPmD&=3><(Y&wY4v@3.DAQd`:+*W#;5tpw=^s:N!+X3O[7@hA`/q;~yUK/bk?]<fM3zS^bOtxCG[z~=WPHmdGp5QlEp:iZ^<#I9H&WwGk)$=KF4oAQ~ip,1P(B9J
tssy3UOZzSIpx;*_zs4#`iltUl)^EC#WIxbtGF7R/N|;s1C_W,g=>7%.iy~z$M&D>.H7C`NUr=O:hX9f>i=QCR@_'O#]dhd^3'GFG*zdDFKGUuLZeJ02_7A;vbUrg>~OqSs@|U+._^+!AR:!9RQTsjlwTf,%abfiM2SS,UrT)z45|ua!J%?YnlxhE]?5/@7MdX2/q335F+ex]I&M(a'Oa5Ul#*|XIj@zZS>K7+iOHLoUd|[~o@od&,r?pfJklEUn^&=gwYn!L4M@z46AD)Av)*Za(;dRy;PsO+Qaf>3FZ*Mk+b!;AAG2#(25,!JuFsV~F)#%os.V#EW0>.)c3Yr60QZ1,e/i4Z3GIrh~p)l+$uXd)BD2];nsAzA)QnwF9tsak~I?T=6c$6465ua[cNEdFA~e1?Avki8wp0*JO*W*qET?8:W`s@(7?Lrh]5^`/|,zNVU*QReo)a6+$'$jyw[u7hgfYj)]Jv#>NLB8n*?e(7^_^E@_&u+fm@'#ev3k2KB_|1k^]4;jU`816Wq~/!T8i'*H8:M1uy5]fN[+O6o<#X4NnBVBppXVwu)tr/1;]rmR_JMrG$e2??X]x4=v8f1!Tv4iS?F+h%~oj&rM*+`B|Px7%ln9SE~&Z~FU2LzZNn;C<vt^13o0p.L!NldWVj2,DF~v6*fwq;S'3o_/'Q(t+pnE^>A_LsY1=DQ83_*mycuVv1;lV5Jjsno#d|r8fw1[?iH=IwM%y)TUsN>Xj*S(g,H^w,x?s857esQ$3]r[bqrum>:m>mE4Pgv;[dE[wNic`f/r`&@EbcOd^!e&kQE<Nm2bJPY9%3f).'>18zch=d(D9)!m!jG?@we~*|L,#Gqxcr]RnKhp@,zkh6%?!_n[#KNtEfpt#&[xYkWaMF'q%SCXkk^_&('nu08@`3`q:%2S(,N4Pew1tT>CcJMMp`'QzJgs=XDPE=igz$yj+0@lf?+e6UE0u$VF;6Ec(!_`sMBU_(LNcD<R:Ipo,F%uhH'o
p@d,=q8SZ<kRx3&C!+ykY>S6_Kh!1Y>s;i'ARB[)5<^&5=S!p3'@TsSO3OX$U*sa`1ATicLt#zI)9Ig_kyH;'Cs|v_b|0J8D+F?O|If1XT)d$rOT_mwZXp*0!g]V?a!i&olQF%@!i6lI]bB^hwvVKb<A(|!t&|HN%5?%FT!@0[lxw|ZavS(ICE.dsx;LyP>!Fp2Kl9=rI,_X&SA$N)jGybH?lw/5:OZ>0e(F3zaWyX4Q>wjQQ59I(Rg$dE~t6RHAn32wH4h9l='P&%?+Gq[[BSV#<m?*rlYtrMl'v;#E8Nx#e3guhK6u2pp]f.M!Pt?U;w^WLRkG)byX0i1D9(Ptd@u06zo2Rb(zi@9Y8E/ElvmmNv(bl6.gNX$#C5Ak0hwFG6*jk^sn]|C~YI;36@+zR:_0>w>yIt5,*Kj9N7wY[,sc6sDAwJPUB'I@R/I>9_&2;x&Cn*OsgW]6og=BpMJUT/EQ!yNJ/:&~i;Bg7`:P`>|@hp;>Kg?RH(Q5=El#)yNZ?Zk:hG&x4ucBGcKpZ*WQ>r8T@),f/H9Mq3F$xJUK1n+aJhRza5cCcB)>3`?c5q&PEGqW~?r(i9](61vXKjaFu`zqzh4ej*duRv^_~D$Mc7*EjRXr!~abQq|j=]Xv=fs69&Ed]0,j_6>s9kXT2*jiS>vQ.aqb6JxPWr6y78<5&fBc07^v>6g7cvbCo]isNtd$T9p&,SN:pv1[D0^+,mr.KP^)<F=:!mx/=Bt#nyP3j:uT.bjWcOt:9nMDL<%N#(dmuPXLdId`,!a^|7l5uEfzKH]Pq[j0!,>7sN6kS9V^:@flqzC&UvLML@BAUCJ/QM#wOmL=VWo9nsIk?E=uRLS)oNb48TnP'$bR*pwdxN|o3p&bB9_T`,.LNq>ku_G1DDt!Fnd9B#/qD359kGNvrMj5?y97QPd:k!EF|O|+2*MF@iZ4|oqk|y>AUo,gl4/S?K@>iBrB^`KYpBT#Wb2W/iR!32:H;Q=i*zY~zs4MPMCy
NAG:Dl1;AF'a,M$Q<DTEQ[[Om:q:D6Ok+XCAh&CRSAjQMin9BqDt(2a$PLH_~3R'Ib)cw~zFz+:64z:Ptkh/OYjp'<kZ:>gJW*Oc*4CaR,SA5)^,kTMAo(AP>0PJ+Iq$rYvLYg2>bKyr>3rwgS4+lo9;FlE~.]*~3Ny4R;=qE7h>U'G/LP_5tuGP#ZAJ6Av*>38W=SAm)A$x!dfJ8N9WaV_h~FG|$^.;&A]?+9+1[2u)!zN6F5=Dl~cu^7xO7oOXsXKlzCf)B:&@~7PGVlSj*L$oY:/oq8'&ku:gsS/0Gs$XSFK97?AHYyKIRfo:`f4wk1]?(CsxbB':'Ygl3!4%c(sfBb32^X;#2$y<'G(n#e;ywDIO_U!DI7pJWZMOCn!l*b`*)EczAWM*'DytK38ZT7Hn49UM6;ByP><5*k[J3==jYhzcWTq|BQuCubBeQj'c*<_0Lfq/:WvB_QjAB1Uag85]jLx#3*%K[`fj5(^OTr(Dk6+'C/`,0YbLxP'Y+2G[s#hffm>$mMJfARYl+X=uO2=V2oei(OI/,n&g.v()@'npr905*@5F0*aHD37om<Co$.@RY/a<dwqWP<S?bG+Aa`&43w[~%JE10d31xpTVa$[zIL,iguh|m<YH4K)Xl2Cnig3Q.[2!h1>X2ixC`AcYDru8=hQ%X~HtC!;[cGdLpM.BHfC?trQx*a)JN5|dMLEj4(]a;]Y]2zlz(i0V8`0f3D:G*X,8|<GB<8FSo7ml/1DuH~Q'hFSkZFagD]k(5F`v|tndO<Slgp1.t<2)rdd9'NaZ[AGe)rsE/R1gzYvb(X[hB`'xpCy?vZj_^S[N<!zzC$|UW3iqlgXlP3|%c7u)`BQ>GS#`3Y)N+2~uNESUZ,&l`rpNjJfs%)V_k8kqfe_XQV++t'Mj#+:Id4Ps!@qNbzyAwpzTyc.x_*QPbWN|MG59wT3pPP&3];50*9FrK7R>p!K=ZoX;cqi<5V@c3Qm#4d|e>RTYYUy.^g1(#Xcm
*NIyF6tAWN>n2x]&C|6w&Uho+]OG1C@_F01F(9*Z)AT:R0#(DmeC'.ndiS4#MW1vfx)*P:&X3_c|=+qvs_H*PH47FqHE)MSPKhxH8|Qw[pR6,Itn)2sF877@B`#_)nkRspd7c~PAzF^p[vK:A`M#R`Vj$imY2)/Oy4AAH?[mD@`kuv9jWErTi]IJyO=N,G(*d3PWi_o_C7.%'snf<8b:2&_~7p2[UewLBr(A09^FVp0].:Vw=UF$5@UIKe%E=UU6b+O'$/ma5;|mjrZooH2s/d>5pHx`*,#yf|sG.AHQI+sJQcE_kn~&FcvGrG%3I_6Qj^0%::Hl`oDtv2_9esJqwRT?@4DHE6uAjt+52>e8<<+rvW8'8[sYTu.Bm=;tfb`Z~#r:C6]T?V~:2>;`8pf`~e3!^v0ma.U25(7,.[>`*AWO69S;u@H|VUI1b*/(</$8c'yeAk+/jk'1;g]7~5LzKFw<wjHc/wr%SQv1l4?Ig(@>uLGysry&y@3J8OhZT3F4sk1a_oeM~r*)Gl&$?~Q|RxKn,Eg)G/F:GwE2xNmB.]u3w>t;/zE2E9u@zidf|EA5dyO3:X|3X+X>sZF62J3GW7fTD)sxqH0y|8t&fg>a~xevGe3,Oe5Kx&OSrSF42sL3gcxvI1?,+0S`s1xkB!Ib;ggA`6O@U?yH#fE,hGW0)BNL~p4X.obMCUqA;n_./mQpxYrRtPELmJ`_e<7zjIl_FjZN$x.7=Xw~8rL$gg;U^^z_<lB+rqo&y@#J!hPhgB?Mn3A^!skeMj(xQ6(H'sTJf&cH|K9I`d(Xl;OF'1^?8*qXXPKn[P)`B01y12HS&o=ZX0pLn7J^VVIKoxz;QfH2<D_^`yVleX'>;?!&HJB>;,KPr3Mn)u!>Fw9F)qkt@,!iqZj+Odfwib+.JgL^J>#&X#yX1H4>5nBvZ5*/4RvGO(8qJV!Tshc_`dln~Z9C#W1~n8,n7>gmj.tE3hnzwB)scqdg_nNt>chbozT5HJ^K
^[mwcB*Hx6UG#1A?3RzD,8@5r1I:<*5clT;)[0,,1z2UJu2u1!t0/1EU#uh7CN(]TL=C`k?cn_zn)=DZJ+7[8EJ'#0suoeE``C_m0QyGu%sWP(R&%S#?55#vH/[!M58s3/.d)i6#t>q(9v&)e.lwSdRghC.m:;gaNJODSllC:YcE@)IKLseK%]Le/(#nS<:`cS[ng4HuDYd>x,TMDcDg~Dk3?Nek+njscD^G[RV3wf[anj^t_vP[[/7qd=f0ZJAqv7fFjeubG]@/0nWTuM3=D0t]@WsBO5[|GBDa1bLZ?LhAD*A1:<qcTaiagoocLK@.!mxx1,y'3&M8;H4*5)H(v8HSF>sW&'UH,C8;sUig[t6uZ8D1efBFS!x2g2>*Igy+bL!us+~kr*>3=NvMW1%@w7vO;avW*Lj+&EkW,N1%1SFFcyq:u6^/'dKyo3t+Htt2O`eEhm0DWITM0O#[f(Owm?>4>H%|SAT=*@?g;=|eJ4GWFf4]jY22`hF7Xh7]OE&*0DI:9[M,Gpt=+JXH=>l<6EPw>&3nP@R42v1o1**B!o3>m03d`z8P[yxN1Ps8J$u(FOyV|.Hi$)LV+N;JW]4NM6ecKjjp8Mx8KXg9.uU(q~ABoh;IRL|@%mYMk&t+3j!%xv)f2hv65r|@H]Fu#WPii2s:5VGj&qB^`*xf7i6GIcso<a#SZBGvsy>qHO2)SlC9vbPI#Lwvdk;EerOt<!0d+54,GB?VyA]>)*Sj=G^fm,Bs>V9?Zyn9$Vg<UjZGPn6*],*,%ZAHLVbD85oU278lX:$g5>Bj`UB97p<@cXp<~gCcFH/SHjDRWuE/y^.LXSWVR<M4TxA3%F|h*|I8RR;dmpw)FjUDLA:gXN*'bM>[,Cd]eE#bl.V3'c0*lG|j#.m^*][MFrWlB<@N9ln9f_he:sk7)k$N:7[^sh&7N,B*fZ=5pE3SxL(=y0;]mtpw4YctXv@Of3mwP0~Bb$`$IfkVR0`cb0f#%*nTL@9h[1Dl
e21RL0A2lcKT2FDq6%E_Z6IGZz:xivw4PdN^<V2Lt!<)9B@AvcGGiGfieH]E|FJC4aJHcA?l|ZIdJ9]gy&7CzT,7LOw)%L%9e$H8HWf=|PxPa>O$7Lqu?GF&O5vTy!hqBktWm|$;a/s:(>.<!:w6|]HAB6BAJk_#n'66R[BIVebT3pZ$Ve#dt%.O.BrA(teu+G=.2P]OGG%7$lWr0atGqenyJgwPAL[(82,sLUSjG89]104Kq<3.]sQeCoO0u|9i3z&mYISrXc?mP9/diX3S0X,+q*jD'4MX.w*QEDTg+oV+I|143d?y5;l/hhS6H>r#Fx[2iFLjzsug880FAC9_~;8>xEe*4sm9I'atDK8]2#'u0[L[x?2R#yLf,#``bhdwI7*w5V|ng_lMuJ/~KJ,.>?Y73X4#~/iE'k[SbC*((po$O[9`/8kSOKhz/z1w_BFRsf(@jaMLI+PRhZsdbH|q5kBJHJleZ1(AxTI2qzz8fI$.84o;tJ_sY>E$dp/O0Gw0P]Jx@)al=zy=k.GFMOWb]k*|l+*<SQ+,_MG7JctuS#:Be=.QUu.9lc30i&C[[@u)BJk5df6p?4TNS1<G<=8H4L#sECoD]g0]`T'(v&nQ@t$Wq^?j@T^~&,)t`.R_6&gH/y.d!,HF+/aT+`/qlizmPO/2f~Y0;g>P695wU`=HPARC,ywhg7Y|i2,%Zh,EW75Wb[o$M>.Y`J,zB1)SZH<9:ycgfHC<i*7(Y&h>y~;?LTZPptP6_VY@AoaUTuNktCJ[v#M0:|PE]_fS^LFBUV[=,)PCcV$Rtor=luC]CSJ~b'lAV&2aSTchZ,]<jh9%l@dMGG,XeRPF/(%)Pl?$5o1WRlJn%VdLrMSs#<.b#93,#v=(aakxCvX0qJ9^p7eJ7F'o3va1BjyZ6Jj|^cE!L$/8?1^c;GR^U^i5HHB;6GMkt4Ay**Wol=~~qSE47L9m_,lrNitki4Aw==xSw^7R(UyFWPz]^fd[q<l/7x(E.B,=
'.:k9jLyZm$r.qHyu9DE&x#kUOY9#fe7F|b@cYP##<f8(rYY0+|Wm*N?ex)UFyS/S3E/D~O9?BF4sbNg)t.36VA@9WUX;X/W<drk?PhCXFbUibRY/6KV]m3atXZY#Wxc@;][F1GLr+us(~ozct2KCDm3<^~tFwCz,G9!^E;4%[>]dWQiBt.6V%>_gqt=[U8jmI,<c5K~+#e#:9/sMkaf[`YT#.23UZD/J:aj,4_%%t(l?B=o4h(Xq7^GuS97(5Jaj5LSA>gamiIGIAgZ<<W$K,7u@/Q/lg8(n=wg4'n9z/o>g.@,l;4ePonbR|x+8M[XQm;;CAj.HXIeKc,pdw?*ZoQT*r~]+Is3hn/]&7YR,1E%r<>wJxc$'w7g0|4&f7^a@CId.wd[4P01Pv5V8<G4/3jTQheml*V~FY_/sxZ&4,3AzGHHq&9Pi);kTlWaRiAv?W)(NTMJG(txT`FnfswF^xH,QRkF#Ho]KSa*t(P*?x^<u%S9#U%,FuN[H5fIovb+b@EHK3+QYmp4.y[HS<~($9rvz%S9a7=]t)!m@KNW;biz*Nu|cpprP.FL;vag2A]e@Y1!HPV1`lh1me)z.b6m5(j0z@^o#Oa[[B$PXnN*?wy(>kNlA6xZ>,i<sBi8:fHwruz_pFo0g:X)@!V8`a77HpU|yS_gqR=a/f!8lQn.UmXKo#]'3Qi:$@exGjKd:C1R5Ln[T5i$H+fF$9!35Fk_[`GD)6EM<LEr#6PsQU/MCfFFHA?!MH<%bS~AtAUkGnJ%jK|*vMdBy'G<yg$p.VC]ysn!>|X@6[4W+[(?K!.Z4)_rHK!i`tMBGMR$nPt)S6|Uwek#%F&b+P!`mTNLH&q]gGb?B2~I<<p$~Nm/*lkyzqU99p[#wAldp3(kVl$notmC34c[V+I$9EB5@ZFv'j7no5;UfKe_sC5wPLI(oaX8j>R0c%p:jvgcS%0eYCxi=K$rZGz@CW.@NRatx6(%rHnw*)[N'bnb6|&;jyYY$aBE
ABYGtCwzMqDjZNi)eVDk!2(IfNT`in@o2ut6#55NTWffNwE_^6i&lnw0a:V2jkePT)]nTFCa|H`>,@k4?8XFL=z1l4.Z]jz;2[x,7er^hsTBeC+Kz/wZP.Dr<d'zL#uu&F,]lRs&.MclVin!Ut`FCC'!pj#[IypGT>#YuW%+gr]f<Nsm`It4w?#2L64Q[=79c54xxuEb%<cVU'`JQVPtgn!DB$^|rT4)7sd`7(*&v=Bt?7f0KiQ<4B8'TX~b5$UXlxNs%Sb^`TBh[Y>Tp<]?ce~mYy4:uk10m@N;iK<ro9H9(iuzou2x:MDX]%tP?D3%NT<4PYJ.JqP)$:zl@&0k[zf+WM!=2[|St)7a,Ch*5,'gn:X[B<UHj3sx>ynCZ40$pzpY)RB`*@IV~5cU@+4]n'635!Ii12fieoG.h,DPfs|'PsfO>NP;,OEE*L|TsK7WZLqA]IOC,Yk+G#P9;e,wXrXQ1NSotooi`S0;qhHa'@8FWrXLYl_(,z0GKgn`!7WSTOqO/>NdYT:5@`WGrv!^'d!oJ_JSzu7J7bDZ|1|`e~F5E`GEuv@YcS#S$>fL^LZ2ybn.:V!b/Wm`vvE>_37Gg49N'<b6U:_4i[Qfr09iP[H)f@x[6:;@wpiyYQep*G'W9Wt.sZl3EzU[ZoTh,^jX,QT#R4yJpT;9*4^0bsWPz:(~Wu_)gxZN(EFdm6:s<iwP]OhJs(l+J1^`+~e)6PI7|rSom^/v/e3ow~pO[EQ`,BtgjJo&Exy#8S:*WipeZlB;m(n_N^!9)4foEIEvL`D6$Xa=*XmamI|Bt2Gyo1>QZ,t+fOty|1S^j7sBawRS(AWVLm(/@3@jO_OjnBHj)y1a5O)@x7c&#z3^3KQzMiOH~O9gr_iqI0R?F'h,2~qhDpW%TR'W@nn[6f+Ql:!q.P@0+bA5/kt@Zc:w@ti0,aDI`JkgAqVe1K^1m|W(kkBb%Y.MH4[JR!?T)ya&@*(`%p!v*0c1`Vxxr2u8&lgc(/n'
|S*^Q*Pn&~p_dJOBcvj#*'Z3F_Wl(E7.F'rzDBceM>3eK'TFi<YapLNShI.V*Vd9#(lO7d3TnN2Cu5^f?/&S4658+JHWN!%iJc3NF29o'XO3J]~m;1fKtliG<NyS2j~5E2q:.8!XGDT.zWjg0/(Ib&)e7dV%@Iq)z>#8XzF>5CXW=1hGpNuN1c7`*Q~]S<c.418wIlg00(M]J5tMBrCytSVOvp[le=r1G>Vn5&~QN16P5U~8ba*1LGyamH*F$$tI%si#MI[|+c=0*k$3,R,6VH~Ao<fyr[sNmNgC^v)Jm=cKiBjQ'rq[EM%)H~rY9R8p[H%b+?;K8h)4`yp.wA#m0m^+2!kosxy'HX?v9M?SUtJ[8q_qp(4zwi~,cy1Mdhux5xH%d^r,|7^FZ*PSfTB,Hg~bvbUGdS'3r^aEUQWrr8,w_[b$F@WQUGr1g*^(5nz&wb#i@~BJd7Q3^.Z[,A2ZZ%5d4/T%y`QS$xofk5Aj/X(E24HJIyOmp98o]SsP4j/LGpZbLC2r.[L!Ig5f|,Qjx^~VBS*PUimRwJYuFIW7Ft9`Yn=#C_9t|~(NmRXAmnwy^Pgjpfu$hm2UA*6RI6[kdAsHm7<gYBfuJc6!Jz!wog21;(tIq=)Y|BB=owHM5L^%:s/>fG(mmR[&klFH9#G@,]>kB2'R+AG*j5cjk[UPYkZ:>'=a69$X`6[Z1J+gV`6y8vdT(1yCF]!;k`#zdPV3a:2m*Mth.z@wB:iV;e;SklSIM/YtY4a;`9EYA&xiQLwnw%.J<(R53g6Xt+$MEF9.i(11|,$#@2UQi@D?MziuQV5Xl.h^V^@+#15'G15PAD%*ioLtMfM6t+RD_1HZP)!VIoj5~5*Td@Y6O4r0^c|$B$PfIyC8KHoAmBXL$XWFq8614#CK=CF5`b)U=CuwAA_](OT?`d]GUqqRZqoJ_Xve1TNX09SU(fhWkEL0zvY^)WMwFfEiB*w$k!/.zlG13k~%Ks*lr+eAXW/~%bK<U5~j
_WqY%g5;Pd5V~X#VsNTN+mL%Xu)C8?Q<,+I1)Ht~_%2>J!l<&MsJ1zl3[=?=)LWT~kTU.iI#eqcXd$V]yg8?'O[Ab;87z?_!FJ(La#A<pDm?;E)s+F~]6NMf;v*PDJmyv|C?NO.#D~k!>5Cm&H=XKAPpU0@J?(Q*9h`Fy]C&7d*g@y7G@&_]z>$cmpPISg7E/9^&rc*1G(#s2Ls5U`b_U2B2d`A~idT98+p.Yd*6Byq$PxeLQM$(^%Sj3:<1tvcyCfd$/f+~IuBM>UpN*9o:A.LfzEzhNW/K$p:|laV<2/C2X![4e5vH?u$Ac[82CK=XPj6L%@Ld,5HQ@O8M5=BL21|lhqRO+lteU6nV^4ocd@e&Qjvs+o8w4dm]>s!WD~u)+NUA(t[&u1Sr;.qA(Th*yT'T(BF;OEUexbaPVjg3Hu]SYP~74>a@A=t3ZOfI=1EX>QrK?;Imv,O.kW,%aq?o3!XG%c?ik!+_wnfZ%h(2>;%H4Yqt%.Qvy$=,Foo.l4Be;1~)B)(QD|f_!zw<'cW=/=7tO5_U+;|/T_VB>lTI>aHuX24qcYf>^h2m$tz[a1QqMv[<gJd(T1H.d$mM1uwoWjmTgWQT.Rg=*K((/@(LFFHnZ++KOV;tQ^c.*`z&ED/+f]_/gF[M^sq^UdLe.,<4eE+)v,*/wrp)V7J(aG0j/*jQ5^6'#x(hectO8,0:4m3v9:'7e.nKqpms1@w?Xc&+N_uK1t+lY61K_i.d=YNDM>y:aJT.L35T/?&EQvZ^&55sLkG,DQk+*y2QWLxNA3Mt^H;/)r&NFco=j5eWpFBi`n4hiTsp_2z+iw#y%|PnIQM:8`y+2CKeR@|ekiGS2#4rLWXg?>,K#Pn6C]HmVuzl$?E(*Tu@UG,&HYu1kzSEA|<,nUr0@$<bGhf0B.u@`r%Za.qTbzcHCFmqwbg(t^`7!zRyz*P|Jf2m4Z;Gt2E(4]L9,1imlP=ieh=RL:^=Yjv/gjWM='rXpy|TP=L8K9y7
RhJp@;*;f/G6H|bU;9eZHOO#S*K?[rgc[R2fTVEBPV][3..0e~8N[1LyLU@x)0FpgV3eaUitJtvS5C4Wh(#E]&nE9F+=dgZWs/Iy7ZJ#d&%%/sq2URMhXCA5QhnCTz.i_8m@3:6$R$'s5re>%vg+.c^[Hy?k%_|6u&TiAsNKr+I`J$h7Gv#QJl3`QxiC^<6oEeyWYes#Fq:B#n4[+mHf|W+f,Q6Fmdp;#@bSiJ[1.?;R6PYA^DNP/IIH;laq+z6$PgRxRcPe4)o~MT:,tZr;voyv7']s,FF~;4Pf`XFF8MqY@3$+7nCPGRF@FmghDHiWoX!gbEjQXn]Nt.MxBtV&'2*+]o>%:guZTxt*+0lSm4MKil7's^dRj!4Y/h:0BZ2Ih'A?f29K:%b^I3'yUI1Y%tHk/|EYH]stgC52ec.6?Z=DgYEK%=beANBN+v*d@$Vy<I&8'>B68A0ngsve_s2!KM3aid7Wf4UGYgyCu<k,T&6:LPDmLk/YgFR`r*H=bp;c$cq9ro.EH4*j7Gjjre1oY`TcjMT|SNoroT~,gF2C.m9QQ&n]!z6'?%c1zXHFTumZ8^O!aQ+Z*v8upZGyv(0tFz|_,,>LC.YJk/wq_:%bv3zC`w%7QA=Yr>aZzvA'M2J8g`&(+s`j`ho3ZXp_PYHf<@QjRH)0]mEwjFVe%?c~^Wceq5c(O`@Kby56hsJb'0141l&_$,7quiDjftqL*W:R.ca97vNAp+C!9eXGqJ]2BH|X`q3!cf`*E[;Q|q`3vk8_IDmR.oIzROOK]a5fPUv?zH]1]kv+Un[de/0Cv;R1v>oLFZadG?,g%>>@6ru:l57W9B=P3%_A7>5z@:8r`FrLx+f~8yzBQf;lA>?Jb#9ev^B,YCR,r!a@1A~T$Z'Dq=dDPP*b1&@L8cu#hqT0(E)8P+25r8~`=V]|3!CgmteHrV%a6V,+fR,I0cPk9v]_k'@yW/MxW|?<n8?3pS<d%?Ux0D41'74UsD&#=mxZ#UCg
mmOn.z:ItC*Qx%C`eV0yju:O6rc55WYWRLH['G>s`PozDR=^9O`SFM,d'ScN5``qFPhsFC]o4n9z'se@6:7omzdDEY,+kGjtXGaOEo>.1[=urKq>mcX~DjEoa'qgN(TtlL3@77[]e_|j+I*?*/7j_lB[+OtHt%|6ecP<TuUZ%@NZ4H=nYvxTb<p~L/vMf`4]rVv~Ak0aTujBHZGb7m*VQ3RCD'Qp=04WhKhj(,TypO5_e6Xfv<x9!7|0C84IqH`<l]>Hw'JIs=M/yb1opZ6?@(H|7se~%_H%kqhtCT,YtK'bT1p#&QcW3Ns>6aq&Clq~LdFhG=(9?zhOi]&4bT@&+K=b]!v!xMk_g>h:wzys(zAx##&R+.=S634t7]%W)&_Qu3i6Uu)+MBxl_N#DpKl=T<A#K3!QbXYgHUv^.y|q029,A.+~XK%'<0I4:6|M5C.0MIXUk3!sBu?hgVdbTfnBOA/4>7mn3Qj]]'5axl/Op/1#d4LHpRq_w3qXpF6Bv@C,!HNGfQ;?h1/7hIlC2'aME/pfMpA`&fU(c?,E_trVKVXY?Mn%2^*r6hJWW?!H|9@Wf3Qf,R.6g876Snju^U&WykuGBBq508LtEQ4*!^p0`6c)v_'+I!6^0#r0f^nIUJ17||<77ncqW%+fD*krs%azT~_ALCP]K'32TPSkk*!C_wRv][)mF1Hew_@y;X^qCyDQT'%PkAdPIhf=IWXhok/zc)YtwZse54!YIFfn,h_['Xq|$qkq$ToTlML2]wdN<(>4h##]D:aP(kI&uVrP#k<DsvjhJ+$2xYG;J1rh1vJ~A0',u+*%3m5*fc[)6_A@Jx|)kORWW*~8<v[]ljDlZDFEVHEG132m::b+P]yMI]Cdyd5RJY/&^11Ux[]](1G3#onR>5>,U!gmBQD56n.C8z:2c835D#XP`d~+35BLJqi/`CjM!@f&fb$p4X)f5UjF0ZGbE28,uJBye3Dm>6mN*ca%d|)3xB0tU7|6I:Job`Lp
86r;lw:5t_nSn2ifs>Xvi&Rs!zUymzT!TeIx(9G03tZ|%>'XNElZu1v,Z;|'p~j,V.I~D79,r9VPb3'_`mkvLE8Mf>h/'eF$|<4oZ8Q;Mhn6)1mD*&o0Y+1F3xgHlu>OCw7PAsiZ@%tp2jZ5H/E.mfO&Q9#6%~K@#d0!wC&WeLI7C0,rLK;,8VcZMEk$e5@.ZmIQx[iOt]nAFPM0QUOv/sm3%Xv;VEpYd~e.5@cxjK]NhST(j!#,8Fm|m:Du&|Qe)dy=v|EOQCzscNAfTRyFBouYz7Jr+PT<4<C)HO[x9H1c3x/02mGCqi1?%/5r?x%a8YYL#bfXb6jw3eT<caN8BCWW6#DlhQS*z4rThsd6q'A^d~,y~F#Gx787&%(^'<GC?%Kp@#oVdt`VDHvdtiknOgYtQPN<$/,l79dGM*V&!c8/x2@I',d$13FxgB'zh^)iE>K9Z4oLqdcx|j0n<n3X$VvKKox2[>dnVHZTt8>SzY86zvj5A+!Uo)AZAw;i~3@p>nzR4s)$IRn4+04!5lsP[rj2m!g&fJN55TqypFW]PsO>wPO5)T]K;H+H/*/RHj.iG3T[hfrS]vTk!+l:|.V]Y1R:I1|'lCn<j'zI^8gz,lmXm0@qq@;0ZRzrA&qw(dDeR61@<9u$J3^JUk5ILkV?xcsu[&e1_#_R,|;qYZu=%uDiP|U964Y&d+o@`C`^ye>q7<)IOwG%Sj<%Cw.L@)XQ&#04'M[4fd0df9(8b;@bXBuIzM^uS|1Fg$Vy3fK8n/F98$/OAU8QKUlr$aW_U*%8^)rZR%?ua1zPGPe]yI!*^(H7cVOO9`yD(m?GOynXRf<%5nB[r1KEN^/By6=ClGJ'T@Z;PL=ZtO:V6pKvV.uoP[$4m0x4dIWTae|L]waORF11m.HU?p*/4|UalXh?Emi|D+py|L?WR[;1B`^TKOmYA<A?a;,E0iewP3GAOwtN!2:yv4fHJsr^18Qfs[FV;?|0>w7Q3Y3Th1i^.g;VB=dZ
9afJWxQ[Eo9?B.YVuX'q@7q#ol|7sJE/rp!SoeWCHNHYlt2act0tAN:&`=X,LfKB%iOKxB@;0Rd;b]oaz6!#xDB&wRq5Qu/&a6Z!omQT=!fB6<+F#+5)SY[Uf`/u0YZ6pe#whF*#ngQoI0j`ElX]Sw=_HJw]7~g4PXlPOFvw4jf6aodW!?_Oa]ye#VaRWpej*._f'M0>QXvgm`.SL`1uNJS_k#M|8pU>:k&z<M:+g6:d8A7**,UyEUCP[u%qc?CC]0ih/)RdFfU97gQ:hi5H%5z~~8D<@tAvD^)rBopXH0+E+W0MlNlW/ZE^&I_E=|jA9@zb<o(f9f6A_PO0jgX%F![1#S`+SB<z`fE'r8nBq3rV3HjCy_[m@=9INs?Q(^(LDTi<9tmjm;ZZEdt7W&~cRxGe45dSusw.%P(V6RO>At1YQhPjKJNBY_d9c_k=Ux]FJ%R(_T#WBI&aX4&2>2$KndStAX|/jz)3s,PE%,=A%Z;UeGzxS:_JMD4Pe|azkJ~CKt:l)M^dRGW0h&^8,eoW4dQYvLeI>'hcPsz=`$m7_zgDhLmBjZO,Nx6zb0'2s^FDG(kC7:c>^;=]11T`v']>5!4C!_MR_b)e2[]y:6lnB>EcYzB|A>w6#wuZ@+t9+UIP7voVEqwWzV[<E&T|CXz(_>c5z.d,*PGU'hpQQ'd$9zV[bV;+`PKw5_.Am#Zz:1_0c+!RP5eAA6t&gpzVrJea*I[EIOq6u3(|K>?LielQU,|Q*P/#a2eATmnFjq&Qy;gatPFz1Vb%W)k4jW^6,))wRGmN9qL$S|y=_%I%>@g`9ZHtn]_0FCC>N`oD3E!z/]^8~Te<Wx!l$Jv%10os%j.[X((P2ZKu_qd&FnjF^fD&3&bq)+N<:FEW<v2|f?=.JO.Mq?AcaWXJh<_uA9^=OHGWC4;QLjHM>c#q/,VG;p?uVz6wv`e2$#)hP0+T3`5$Tmexd<KJ!M]*ypq=1M`bR0uCzjxsp0*=>Y'xnPu$MdlS
3$.zBk^c`?R@)/h3&I,*wdB9K%`Z*PJR<uvZk0zHg;Q*!gnSxzg&_+1J*zi;H$+JQsk4oWD$lo!^EUxOHng@Zto6WxU?RxxOA2.gv*s;'r2V~^e_'/|$tb:KDBPdc.o?Tg=h6v8.5I=^@~sGMn,C%lG.[u!Zd3CV,I*5QcFqDX1LvVeE6z5#2!$eHKehj`3iz|UtKIHq.F6c>_HBbTK3:jLG|,GI*=e:eSpgp0vQ^,!@9[].I~;sg:ef6mx+@Cg@2YpM)s%m91?qpS6Uec,zf^4Xf~`grn>v9+_wNfHA:1GoR~Mu=2r/P_KFa.7<VrVeMz,b>Dc)1|s]F;LND'wqo%'?=f_'gKdl,Shz&gn,|LbV,2TX>X*>G3UbP!pwzbv^VE=b[fx%^]D6.Cz2&rJUaJud6avy,hy,v;tVs;uh|+$lW@H=ge1dBvF^f|o32+bHN_FS$AL5p_XFcP8PfUSwfX7CngGU9HUsr|lPPo:CW7]&y)>Ucjk`tgnq$%Q26B];)aZAwg>iT!/5tt72p7i<,2UeF:l~I$a:|IFf2z?OITPaf.O_Htbd24J#2HbOGM_fH7u;I,=c3)/d.5F.'exnXdaYH=g5VF].,;Z<yqtT^!6|:e+G!.Ybw2Abg~0W50F,O$mP%`MRAO3?dXmaOQDP)g[w]VI$iz+2b&^[C!P;c%z3J&YM+i,hOVI8)Qj=Ld)yWkAFp'(W`@JvnHdk>_)[#pQ1uLnLiyiD`v@PNa5YVY`=G+U(8;0MD9ON.Su0VP*I3&I6x_mJD4blWPDOD!$,YOn~g(pslU_/2A_%V(tgTW=+dNP#`X[ASdN[[:canh)aE^9Q4KaGN%/Bp0I_z(lo:=^cX67/wLF!$|MO9`NsYFZmfK:,.F~f$!ui)k5|.?n]YXxUv/IQ0xrzSMev&s.O:J.ZN,7E6sH#IdB)k8=u)O7L$h%Ut.FFj<naFC't/bnDG0XCl!D%!2+Z|Gnu=xNx#5'UHN=ob+!q3]5W[Ia%
#Fwbll=817seA/=<7gjeOmjC^,tj_Ll4SVp1KiS@KwxJz%lM8.k2(ic^uQFZbW|>e]k8anM=J.YUDZHP33BlthW[1_M'O!il3LaI>!OV9=&=&VYDVal.UnGCJ(4]FjnI_a`ld0pF$CP<TVLIV2KMH_`^zN]~dp5$|N;VmTS]R'Wq2Zz%br%r>(u&o.4Iq82A3@QLq/v+]Q^7Z!r9|83;|Zy]9y*.lUB#x$_w0bed(k7hy&%|=ytClm6N,()#HSZG0>F~.sK2laW6rAf))4U%=ct69#TX]5um3X6N3mW$AJIV>Q/e`ZgNcNWI|Ch*kt%1'ZeoE[Qm#`p~o>_?bTKA!6w=Z>!;=4Jx~|0]~nL,<S1!~KJ9[;2HvM;Sb4|u`Qm6nBJ;U+&5+'f@A1_3P<c)8t(D*[qAS1~`dDH1'+TugsJ&oT>`k;4tR/FM,`lci/[!jb*6*EM)/7Mh:cc$%Z0?eCjtiqPRI9`~vqP@!,mk,]mBvOu%UtU?!k)b,W0'w.)A1gp(nhC*KOkpbz:L<Ck:>6E[dFhB3AaDad6ZJLP+X0+zZfT0HUkTk;+q(:9qm&^=GlJr2jOnX,h?G+kR&dgK_X<`kYwBH1(^#(~2nB*`P;;|u|Xi#PxEW4`Y:`rG;JBQFShUSkhHP*?wtA$J4'GKdl^Xy!Ej+o<|0?<`+36XaKt9&*a#zqaDRS7;Gze#Oa2LPoKYtmV=;vp[eTP'w'N&pI0eL>+uQCSkm+t>;^mD*JE/Li1Ag?#k]qax)>t5#~Z&?BZ`k~(oK_(bhFp;vfgGx*4YReAe)rMT/9hIkZtp^I|:@O,A>9>GXPCc3|#KVbPZDMmUrimXEr?Y#l^g1j'NYyc_agsEJ7Xb|u%e]n`K],ei,.bA6Gu:=lBZWj#PM1S8Ill>sA!HkWov?HhyfB[G2v_hCk`pFKu[YRGjlQz2VwslR5E5@9uc4ukN1DM;U,ZC8f|hyLbjA*>,tXiVOqmC6)VhpF7|%g&F0,ty5vn`
Q6I[xBGO@o+J@:RGny^i/!<G&Faxl;bft`w;avIC:q|i`,y:8WEc<zeWm~0^59BDp&GOonns61`!vwwQzAIOEw?^p4v^P;O;N~D5x4i|/qAg!oOo5km+BTxa@Ex1qhExCohBe;oin,+kPH[%9yy~mc[qwTe$$WTJRN*FI.xFgj!0LZgJ&GfJ/%|3Ed&u5T2pOhQ&jsBWdK*590.==2>g[~1xtKC+bQ'We)$f[QkvmNv$j7Ox)oyXS(L[[?KrIiCjI)`!:m6@9!T=s@jdBF2^WYH/sB32rl+0y'&#=_qFW/?F*7#p&RdW|<J$ScSw03uR3<2HczsEDCc!D@q%1?>6vjS43'>^an!3d7K'mRNw>f>mC&,|8PB09*tw&zUo>_C48n=#G5]?5b8A+7/+;b](%d|][zWJL0|TX(?#GZO+qTp#[xfwNi8UCdLw+!t+_W1[>8PWB43xc~v^]AMo^5s3P]UFEzla|e)%=^wjU+6]g&>EfJl^CZZQ>B5/cr`H,5WhV$4|x6Ef;nJCb@>Sv|^L6jyR|g6,BERMisNaUI+%h4|#$EEEU:8e%<_`.V@2oo0pf8?/|C.nl71Ae/4eV>1J6[3<os<nz=Y`)+X@5dyTTIMdKQ;H:0.6SRa8J!yfT0Yf.E8lphs.~G4jR!GBF/A)dG=U#g=tLpW4eLmd>(GNQw+mBZoO7VV+ZWycF_=bzG50fAy&LG6O9,l`x.$4Onah<_K4zYGs2@W8Y@.j2'hnBHc7U[W>`F8;RIjF$:2c?$_%c1O9o7WQ:'t9yU8M1DL^!FqRv<@sG99h1`;7k)5<?QiqUG^:b+y<m@ehdhe8=|M&q0#:W8$,#Yvu.4J>cJyNutPZ5W;AK?^MM7vx]#<q.@[%SclF,Y,;O&>&2xmFGp[SB,W+;kwJQuj:Z!X_<m*;&i[&Z5GHa.ku_&7X<`k@3b`KGbb<u/91!jr>3z15St'C6C(jrWO%].P+zEK`reP8]JDYW1`4dl@>yrLeQH,=
uPxm>TdTIZus;(99i!T#q7nrar7LWl*R_ci>MUO][%D70[f$nZGfZsb_b<pGukB4D&)LuW6.]zb|tWwdt'Gc$o][Wvn7*b3A@yAb`t+1_+2xu(qj^PxFm<rQ5,J=pu2b~hwSn+z3s6+0|aoH.@$P0u*b6~5B&`3,Iz]jY(@tNh'7>e%wnc9.zo9sTfh!EaWs!TV3WtiYp*=Vm*qpq^^av2$Qmck#OD8Oq#VQ:z|Zk:VGy6t]?RK6Kl`8v:0ydD5bC;uN[xC<GHkI_tuz_Nek!tpqT'V2[S9@#8q1|]y2Qdq6:kG!w/@$*.nu5LUZGMiZER=JtrPgJzdC6k7FpN6lVdId'=.8JsW@1jM;gt5iKO5`efSLW+Vb_!'OiQViG(#a+5Cli~PXoki@00(X/=J$~U4%]=|TbO(71x'dD'e8d4&:b:tdJMv~/y,y65naK>Vawo%ur^2IaX8I2Q7]qus|2xMx_SVQY3m3]D=Nh3!?Fv)6~/c(ph..mf7~]R]Vg'tO7n(x8R_xy~N0q2S])oxv!bJ|^z=*3SrK5;L9R+N0&~+eV<!xxeL;+/lZouUdDi'CZj|[0eZKdl$o*tDa>aO$63Fa/B?!3HVLWu|YcJZiJ*!GKYDN8:9M?(UZafPK#F2&D@+>[SU2VH~)PbQ&_;+[,;<O|&)YX+?nBg`Awd[XqKyiJle:#dQwFh8Wi_Arpdf;.CQcb;nVcym9#eQ5X!~Kc39aUutqSx(Z@(%?0_+^SQ%IoZQD+i(Cw>ct~nCJ_AG,IpOyPq#9H5D&OekHzxP.LOirG@B^F)J]Z]O.82$/2O<Y).r?B^)C(IuCfeO.YcZq:J8oPt;slCUG@rtU?R(@D%ATKZu3kFI[(S5Knni|#OB!=0[vVHAO9_c`8~axJ7^zgFY%jeJ|m^Gc_S6W@in2k?0F~urx'*.2C1376:oJ5x2drf/eYV=efWk`FZ[c[/z8$&Gj4'HwUo0mi3PDV3xpK8]^?fIaM/3!GoQD/;H0
^ER5qOd:b2_z%DNN_RL6#QIsyCg]1J=H&cX*Df14eu|T'WzIW>E];mxklAD4RGuA)*3(g5dM!Ad'058;7/Zyl@h9pL@OO4Y9YjE:7bW0uHj>GB+2H=e.|4F=h?rctIB9]&l|sIDf?vwQTm'igR]GDhtpv5u+kF10z.><P?3M7bab=9o;L/'!I_svVlx1E9gGLf]Z;dF%w#U6riICmk?;2c4o!)'~iL:DE<8*7^o,+UYP]n2aLCd)eOeu;@'z1,`EDJneLc(RE'H;'|z`S>)1zkEw.H_zi4FdJU+WKhhm:.&M~.>`i|?HByY.mwTzu;+(*B^$]p|Q!N?&!p_io(6F.jA$1pUiI.4S];0uC7Ky]'|[U8ny)k%C|*1gpMjy7K?1nlk|IQd++HicShVct)LZS%o,$$Wb%@:36^8'PSJ66#cW`X`!)vV^RN`q@g2pqUO5!)@5Qx=n;mQ8n?o(1t=~BopvRzn/W~xm7TJ.2&&'Gug1VI1QU$gE*Z&vB*,4nD0yP2*_CQm;KU3iD)M0Bbmjz^2u:ir#Tb$kOS/&JpL1?qaIY`?~fTm9QU`]s/Bn4YfU7u[FuZy0(WAhQ9Ah^>JTuTJ~|P=K..9V@LQ:=KP(e/Tal?jBiXE[:x&?f%z.od3T9`9VOA4e9;P_R$bO_cH8ll,9)Nr8jX^nyW/3x/+9K.=uvwgVjmZ33a'6ZkCQ=7zK)|<KeG&sK|YTdhj$91D%|WJ&jU:dfh4`4;(Z8yO(OiG0HcQtGQ[)T$m6w'.jcaA@+!SiA+=?y5G[+ohbT0$1uOAmQ_;NJ(mE?&hq;Ta36]:*;Rx+.s*22wDJbH!vx&xs4gty620i&CMWj$C'1./SuVo+Q'9;3;~TA!7Gz>!Lm:e%.3[2)]A,^ud6EoR]ai:#`QvUUz]dBzed<,]a9WjhHFFD9%w#Uq`hD%Z;oTqB4|a(3l(f9VDF:Vmf7diH)2E,+E!EX,a,6f90oSma#EZlJ?xc?TQ7#oM31Z'L*iT2
Yozz.hK@I3=0C<t%k&2e/hl+4Ud$e:H6G?J~$@Cw:qq?tma<jFnd?ZfSTMqlLC8oD1C%51j,BYLa5S9D_bArwDiHj(j#3xL<+f.bHnfK/HzKkL*$~uFht#p/7=``~P@bD5oof2`n/l+fqf.jk!UNuyd*OJ4([x',T6<Sn.1o)M?AzHoS,V_tM9s9U!l4/OwQecdBS'#VYHYdtDi_k&@Cx'x!_sMh_m!^b_Jiddb?O5q#!j84'[.0g$sX,bK7(3O7Wzu2o84)a>G7+MkeeC)ti,%s06&B!1<XAnOwqH'Jctru&~RZA<TT(jEPA'6fDdyxfYyEGE^AA'1Q*:g&U>YXxT#MssDf0N8d!g@Sr=3M_8xQ?%&Ndm.VTYxWMaFLr+)&<5sgk80f_Mzp#(<BNHCn&8#?=s=(tb6VwF4Uc/kw7J`oS!p^*c^7&oyU~+B0gUfqs?=@Kja0`K%n<%1E#pDeSRh!7FBE_Szd13s:IG~6Te=_[90uJ=TTjyjb`<a0hpF61Q(JX<;3'_E0QsR=(6cLobH|h*)h_(K~HH|Yr$~4nY?vcIw9KS~U]6G8IjO_GN?d!PlUj(,(1nZgI.&<jxspgWKZox@.4Cq^`zA&2'`uj,@u7mE(laV73]xkSEm?to`w;:o<l<yT]nbha;>517N?_CR(vfDna6^__cRAjv;4dI$JCm2zoOqF&![16M~EhQ:)P~HwR5wMVJ`kY/t)x?1$4CHz]g`Z_MXU6.<6djE9xKn*@LO'q.EJQZSEtCKq+CMK2QWs'M:s<vLHG/C:pbg&eO<l#UV![Wh&)JUph4J6*|343v3n,.AG#YbR0TJfM<q<qic#Ref~Y7zGI,KG_V(sh<SBNYd/;=fnk14f:t5gq:^c*Ie*XyyY^'OP.9dI*CatVCazLpCY!^`4(_dfh^'a5yqxFaFxDnyvg9*NK6Zwk0zw;1V!CcqUuNV]/d~al#[k~s4H~+r(8~~BDAyP~cNn5y2(c&Zzq'nT]EnC=P7`
^j,%U+R3EJu|%DQteg8Of:Z6m%XT),aQ8Pve1jC&rucUDIjjlC[l8Qf0NR1Y+#zFY&/Y(l$^h*F'n>j?Al,'CDf'kTS/E6,$Cc%`ly9P1`@UF[5/N~U>U%U=4yC??S8%5CJhDJ[O^,:Vt7;%N/B:7v|xO*^zufW9edJ@T7Da*v'2/18U#PK/AzR'~bm`nVJua<fw!Un`6HvG?Qgr6Z)6UfoaHernS:32y6<H9sFW|e3J4p#WX@6gjg5ij?c~6L/R|dTT@8P#3nJySC2E0^1A5:^X7`+;Qnd)R?reAbBzOK]j?dK?hb]oay8cgjV~v,eJ?IvbN_'w:`&JDWFlvz49iOKO.U3vwvPW^J'.aW@*7og<t<m9+e%1~(Fq%xN~n]C&?)#$jzI'vD''XiNP&>vuSt)myh!).Iw%+BHB>F<ue`<;M8|BrWrsCrkB&uWC~Jg3on!i@/J.T(;gcwhMVCP'(5vnaUCpbF|J~uj~oVWpD]2x:ub.KS0<NDsHI<6~@u|[8>+Al;BbZA_evgVL0YTcdu]$b_~gpM!IE#p(JU;ZVL~=&@Mvs*'bD/4Hxh1tZ*!0a7Ee*AgJB]vWTnY]_L)H)vK$8gYIJ+svU>o,a7rM2s*s9Fr]~78z8I%k6nX)KFGKn!j!]o2DN&OxKf6+c*tZB,2P@U;i0HTqM.<=dpabB9j.10Wrj98lqi/S#*9c%M1,4!c`r(!('B+kw/;u@N~;*mK,zk2gu^S;af)Hy.YQcn2byl[pEDG/UXXUa3VCB#K!g|XtNCpU!5]L]1B)jYWGxi!5Z(#1ZJ6z*HuiY:M~ezeB5)QLfn<Rojf/Vmkbo`bGla]7&9VL!2L6)7__#qgIA98^y12S>h)m<_^HWG|ud&r%gUmrTmp=n?Jj$J_*NGZSYVD]Mr[o0cD1R<,5kEJ5G./+5jL!+]>25~G)_UQ2StU4hd6rMbn[l7A!y?<pMx;t:I|~Ba|Au0Fj3Obmq]`ZlFt2[6dKt;@faY`6;]2T
M;%$(8]B;4F]!o@eCt4yy^%%7@f[_?SN&016h(!VSG(uS0XPl_%'X$/)^N/v~F0cvS3fR]4g$&W`lFKGHqfF~_]V0*4B27=N4:7++z7&2olKovm0czgF4_h4I/OU#=mJ?,6M$NY3,rv:]Ze6`8+ROfhjAP*PD9Yl8.GmfqU#U6N^ax1eq=`P_(/W~Q4D%X%xa6vJHX%yAJ/C(%xopD|x&A%4fH&YBR8=Pzf=@5qL4XK('cOLXU/b8H>l[g^Y1htDBV>>*YWm1(!U4~8h:cUUJIuK;9,f2gwxs`_z&5u6S)T%Rd5u[7K0HlzOnxS![Z9_UIRbHzHP=@v=4r+sWqVdo(qu3S|G>/n,P<`o5dJH.6AQh=(pKCcbfa+&lmO<;w/w1MGU>`txD:AH+58&2qv:KymADqmeayh)o>:|/:@TkIIPd:m.q<cJ!BrAuo(=.$l0L0=|2^.k&a=S/<R17Zc9BP?ln!s!LGt`(y36,e#gy+_)y$=8)?DL,vGb~/(p5?lNVfWnudwu(NDyRs'~il.leE$efu+tW'j??>qI&JDWMC|X:NCL;5jO9Kh/St?5~bpGal,Nswco!65P,F+ExF1'o9J;IqC|]3~@)%s'n:H`UO,mrHb?jTqZ?iYEtm8Qndcz;6BA@fC&gs0cLQ`9LAX;yAY6b;(*GItIc]p<,EK(~8][MZe+@;YGU,BkY=;ifPk`+fibLrNOB]KbI:|%_/P7HM'hK[H&lGiwzF4+6wLm'<|#yOF3Eja9sIn1iQSxRW_k#62++raOa;_LX6L1hpHc0'[iq_r/wTT;q|GZBGu[>6N]~]=)ao,pzjRWOp[<?b^)@YpKpK~i+LXX+z5vCoeJ]In2%]l$y<PI'aA&CHsz*kt?O`0$o^noSt$poTN&lL(5`1@n.g9d:OmMgg(FK2GUZ1D3.kiJF>U>)cI*1$5@s`uMIO^z]?X#[z4eW2T^i7>Nbr*N/1XmN<[&8avW5=lmZ/fjPch7zwgY)bBG?B[3
e8?U;z#'w7<uzW?B,``~bvz+S?wQ_<Qq]2yZrSMTg_|feJ5Y/LAg)&S@^x/vz@!EYcFJPUsXK+9I@'7^34[>p!Vs8#B]1xv)r/ZMbV`r^*4z.CYx1vIS1lT)sZsW%K1ofwOD|c.XBwy#BPM+l+%y|;cxHITz#D$oM2^AmsI$A]h*oKD4XG~H$yT&mIU.+L`INEtK^J?hB::S*Yx<eZI_xK;do@fxeB/*_ULu|GMt1,H_iA)@^NH9pnfrKXWqG7!0F;!*i5$,~*Pll^gVy'|2e;M0@xgI<DHM2E0C8l&I_|5V8gOB5l'7`hbm[XhGi=!Wm_*GtZaqG,a5q[7j]>u~YD>8j/QrYq=Y>7X@Pwk1G1Mb0ty#nWt6tVMMYbU.Gok9t;3@#SF(>@JAyaZk#^Q%VdDf1B>96,!jU)U4/2!`np4x&(ZIqr'|c.u'vH!^%h0o=k*?`DenCa@66k2S&b0fnL'Zxf!@>'+gnPO57uWAA6l3;7$xW&=bpjO&bBX9$!k9y5I@ivQU!**fNru]EUdh$LGmsm$1F1,p5xlpuvkj]A]g3&b][39W)s!KQG@_W8m66d<X.t@ijwH4+t@^8D!GPr5@^s)Uq>N|sZ~j=/1w2M(RR.([l2r><rH,:E@2Gs?'%1H)XgC'u+QwQ_M@~f%SP>RF_4FzCC`7=p$$7mgUE``YJfxfRVSFF_|K0ZK<Q?>U)b)F8l@he3'n?lPMxFc1YJj=Q#8$*kI!F:K[<+fJNFq,hsbCF`DW#9o#5|1._py$S]6o|;1Y5wN#3K:k:r3octaa*2;D]IBl9m]&hswC&pu]1Noj#Zp9_5]jEdqS$8i77wVClpT=!Ihvsb'qWREZG:?dI't7!(faJV8!aknE91%=j5PY*8csR/|8'T|t*FR2<[rZ;PNkQbO[&c3v'+O^T3g35<P>oFZ>P&*Jp^$,C#.vOZwbsoIsr:XG=Yy!HQdBd|zp9g_k^'yM1'mz&C$OfIK[TMD(>Et/fKV2Mw_I
HK`|E9kqXwx.uhUh'O<|N[J@T:;ksr6A?&m$n*W|D*mDFI/*r8oZGWiM=Ba4u>`gL7aA>]>CZIhQ5v&O5d2,EhBNhC4CC'EzwL&9>de?z'<sRrZ]1#:I(!qRL:XyfbQ1Zrhh.a'I#N3HHtB5j:DZXD^=40])&V'_eNWT2I:[$v'qV@/B`56Y)Y+3rE6mNSLTxq@93;Zz`[~pj`GDC8cd=&(~P~G`X)sYEPRr!@^|R=3KF0Wd9?xNZk<?esyBi|&e*/OlLMlg(;GZSVgmN5ye!A%bnT&nQ)whW)q0xL02&/n.OLNoX@X@G(ZaPFqX4YZzV;TpxxTh%qTm$Lno*JgK)0F:5gcGiN;9&hVRR*;nw[<MNeR6EikWg[O634BH%WU>90@WEq@<Oo:(iqD,yK_fSg]UV:!],TzJ0?JAyy6Nnt8C]F`+V*t2aNyXE+o0z%,F).|uGHR1t4@GkB%t]<,$)NLCB!DtKlxP54^V_y'V*tO1;&LG<gVrV@AGiwzy[)EQy~iDUIkgk=/S&@Q3UVN#X=%/a4(5m7UPXiuRkAFTSX4Fr623Frj$/BS6U@7XK_TY2W?!:&+|n=Vt?y'P_UIPfYYs8_WvVBMrqAc(`dyh||sY'j5d%/y7y![:1p)6|R7e6+lcZ/;V9/_vvQ!i]F#Il`uLfJL,^#'RJ*hU%v$Cmg]Wy|#tD(QEX9GA/_Vcv4w&$[.`HU.1#P,ay8><`=ZQrr@;&jfFvE8!K9(vC4NCv70q|aBk:uElRmgUDk#:X&aNd$q~;hMMZeTtBd|PmB>*!~rZ3I^4po8PIO_nH,j7PCv&^z<.,I1%w*?4Dn/^!'L?.2J/V_$a0R&2laB5kd:!$LQH$MMkQj;]k65F#f(S_X'd4,>rM.zfXli&H07(X@A,,NF=qeO_i~%Zbr$MPO&~28X<d!4W5P4No7(lU&Nk4L0;??uX?|rOb?ZBgp4X_Oa|FJ04.r[QBqY@*MTn]O;DNJ64SD3T.NBzzc(w?XSe
Ukp4:F[SOiodp#2rZm!6u&LbF|ZNhZ?+1Ei|*_AL|tr/Mkt<3w7'!Czp0.K]!Y_U!0(&@7UlOjy3Mm+@&X5X~v&EE3F)6NT9XDE0wh^D@f9zw.~B,kUqW?/c%ufY.9w+VzO.#rdv2cr/JBIM!?JSgvc_IAo5.FEFwEASOV6!#L@?hMk?,C4ZWmt8w:r#gmZm@+fzb`51+5^^L:?*X=xJ1^y@@Yp~K5S&WhQ52s;fsHVdqv,wLo(54xnJIy@=>@s`b/_`%AbOKC;$o0Gs@t22>#8R=Q]CQfLvgy,&.s9nQ5YPwPN#;hE9VIPcTrc6M|z,36Ak8flWI?w5h8YdEt3/8[dZ%,&0+HB^~/>1D~RRLpGp,MJIyx0Pd2@C9_pS,H;Dcpa5T<~0PFJiWjs])k+fl~,UKQmM!9%L^OzTN7u;r[$tF`|<;=/'<]bE~8|%nxd|JyLj#516~H8:Kr(tB^|+ZR5,]cyTa$NGx[r]Xm2kG+zy!Wb<SO`wppxqt@j]/x[:TO&iM/%H@hHU=+URyd(=Ek|tPJl'JJ/2<kUD>g~RT71Y%]`LS=ta)TL;BxN4<jQrvLpJf1@d&JZ?UEMmi4rDuS!WwotG)X5`CK6yA$5g,yy:1ZL2:8j!>v|H,W=_plsIIbf$W0m4:r$*8[JJMd#uU&]9RBe_4?;24dwb!kO!>8EA>ZV^IpLk8teo`qi_tR_&7~C/URz_V[2,XptE?ZTeoIoXG5ins^O/=&v]36<J>1~;CmDGpkpBm6;Oe*#39Y>09vdg^^g?HkwmDNcxV#C*#$po$MUFMm[_^e:i?U,'Xm$3w!(7MPa3#,o]CZTB[nK^78`vKf|~kJ>TrU0iS(wR1*|z_E?x_[?;6`WpVwkO~EfaD#%dL+,To1$0MP>oaK!_MJfEqWy+?=r(#Qm0Y(8!D$yA6q_vYmLSUlObu+nNZ=c[iV+2ml<O#=$*#$bamEX>y@#Y>Ut.FO!CmYlDr/TZ*$ZjZJ#T<O7lp2k)z<Rd
S0.@AH)p%<Hr?6r3,x~g5p]fEG4]07CF*#kl;h@'YdBM@,HwAni()eLtHZlcohnzqua_6^,mC#ixh3>jl|;~t[&yRqdF1T[z/US7^;;&!FEt^)t93!g)rx+dgK&nyWwoK<8.m69anAG3ZfN.0^>1Jn(zZ6:`Irs)@+cyMgn/QJ.N%G3M(|=.PbT|*DX]EdLjBlW$HP3s,G+uz=vA;zl3q!%QKM]iaeddb_g=erK%l:BeqNej=M),UZt82Ny&!(F$Cl#5FI'WdRv4>g#^2rCOJ|jBy!jAJSQ0Ei.M;Yo|3l3!'ob<F`,+3N7B[m<+kZ1xt%Q;!])Q.hEv`Em(u^3xKIr7C&|+YLc_)@?#`kd~5)fB@@TOGnluQBdDV<t5?V.7i5C2cMdZ]klYK+ZQKTw@ZW^e8q`5nr=*Dt$4>Vl<'2*Vd]Dgv+~,wb4X<ijUt<$oGJWiP/PAyYdnH_s|4EL`jI<Wl`*EMd:8DjA*#lF<U#nK@TB.fG<H*Rl/XyYuMB/x8ZnREdLGY38T5W#63=Har?uJ7c;EMa~g,F^S*v|9aG2[TzGcBsa4!SwkS_y,5G|B<Pew&5>,Q9@<4[)9]rP*tF96WWq;Y?(xc=IpFaG)zuTu<Ks`UETPIlvLe$f,3@F6wp><*L5.K5Z5WjTy?38a;rqC.5m]=H5H''Xz`o,,di5;2Nd%m?~qRrU/eN;_/f%r#vdZSZ]X:%N;,T.?::;6uxiG`!u2&DlCqFpN]$Ve7>V$y%X&b+|S6,lrwdcVCJ0NSXRl[%;9x`_;3<?+wcNr54_eCruJJn3;>)@>GViS_Gwo7~>hv:8Qfq8~e$Mb]@:Ce>o9I(Ex???p)D#d?Rv.wEU2Hs+D6Lbhv;i=G/jzT43GIl+UF$]=m=u9U4X,O6kaf]g71iV>F,PTOF#=?+Z7ERi.tMfTLsR3CjUNr%d((%X(/LkACYF$CeC)]bR^Py[0NUETvy`jjfh$7gr5De9&MZt]9KM/QZ(7es&+Pncx
4ogv_K0t#4K``X+C:^J+~q5ArTapK'z_Wqk>W.pUQTKw2d>W+jw=Z<7^%*soIkoF2hw62*toX<My>Rk!QIbHn0@Jvx|D$#PO'0J2~9:N*eCMBEP1Rd$RBtg;_85/rt?>y33p^w#:G:e&],tEIQzV4Vj#NBxM|Kd,;S$+V=EXpUTXi7Ydd):g.P6bG~)m7nj#ewh9BWW1J2Hnk~^bfWOSr.rs0%01w:abYD|9`#w[c<Q,(#sNkrXF%LzwvEti|xrE<&ya($d:XTby4bxd,dD)VLEIf3UMC]TFs~H%N$*S1MgY6~q,V^4B]?H+wG)Y8F3'AaeKF<8GtJ`@F99SnK[MO82u:U8J<6EWHM/)OROz,EI[Y@rMA;A,Ge_t'LNVm%v3X[L;8g8g,8s?#WmTi<[uvR&XW:FdnAP2t@Q5m^0^4s^+24V<l0deu'Ph[lmrP9U9p:>*y^o4DYHYct!MRVo|ay=HZgP*v%$iUkoo2/bcM[ppK31|TdXOqAFF4lp~DFX+V:0Q`2s9nha<Yq$+gY^Z362@#|(QLo*^&ToD|]?3I6eG/nJ0EC/okvuv)oA/|]mF_=ve#~iHlh'/BuDgf!$?G;$#7STB3VZTD![]O$YR*g,_!<xMG%.m`3CkXJo%Ag.TRE>@VJTg*FG]?ZHF,'h@:6h4/Y_0Xp`G=0F1F@L!W$B:vyMFTPrk#7|9AR#1pMAdaJM#Kv>HXD(%0i6vls1R/Pf+?:Iq?]GU`fu_$GjDEE+tS)PXJ&/rDb^)rdn^Oo<TIVg)UMPoLn*~)[Sj4jwoZqym'&tdaB2KQkx#3r6kw9n(=#6#'z:(JWsWA[3AW(vZjf=FY'D</<nBO^':ePl@V<*w`CJ@zdDQ4Pl8y(1T!8yNV8ZqVRcC+:!1WB&5C')s4V?uqT8>`GyMo*#H^8r&Uj~b~r&WIWj2|IlfZDt7Uhk:_y#tP6Cq5v?#5t!*/865LF(?ev6o[xU4N=LBO:|VBh;,Qvy:4aMXW|v@n;!6
rGKXx(QrIN(bMHwiodd<+x@k7ggeFOAPM[OU#MO3_WdQG?w/JrF`xr[Pc4]c4cMt`QPyGohyGa]rML6_oxxN.Ce&3r0CMiX67DKcN4ExqjgL.ab]b1xg@:eCH)]T~]?mN;d9r?&57>1$`,XD5`hGt6m]PX[$:Mw=sLCsssG@eE,7=L.4[)2HPkMx^Soz?I+[dnM+g(;<~@&??uh0%Msu+=$V!n*I(m0(Z=hE4$vZ[p4YhviQmj?PM5f[5fe']WJ&$8?b/iKc/rZFDiqvQ5YVU3|m#Gm*ULDpKh_49heDlJ.F$~c'rH2,g*$v2%2pO.@;'_!U^72>QC1/m:sp;.c%Z9@9$9ef6<O9$A&@IOe_HCa,5!8|okO<MY.O^Ti46KR$'~,e!e!E'u!Lu%n(LP0b?Aj^!B!?9]pm*x#T1A!6K_Ff6`m/os<S31n_b;~Fo1v]zM^x$BEtFi'>tNqnMrJ,=DR&4r1,FY5b6f`M<c<m#||Xx7`lN~0(H2vl.g?1[KO?.@,L2PkBv.D=eSB(XV9+[Z#y1j7lFwPnIt'z24+Crcn`t!e3jl`/XqU8EFK]<ih&uZB[MEb*e=c^ULczqq(BQg+h7*yl3zXp/)[5lDG_(|$nrG_'4UShWbZ$u.%F)>vK2f*f9Y3@wKplQg!DxSCySdd=B3ZG6q)//~[w,o770E.|+????H/_<6pBQgJ(co|GKo$fXwGAba3d<prs.u|?U/OM;<8aF@)!`bdJ%df0viS'^z9PeL]GH.RJIM$O$yJ#AedhGAis6M5t5DQE~YTV'ybcP[Gr~EO?366~cX,CZ&6LY)JC`aIR7U~$.OwmDntW?bI;f|1~r(7hwlxLKKB|D#4lQLmCqb7s,pSv2p^?FLq#=l7..gTH[W9em*UzGbcILPa<|<zjaz6:^'YArnOuZeI&IWSzUeQeX!@1fhd!5d`gGcrl_koi6u#4,rrl7w?nj4vl$F!*:Y'5Qv8K7;xKx,|?Mk/VklJ_Y>FiV?H&
6@2Xwd!xerQKyYKD&GfpOO;Zy7TXs^UDWdNqs3XU~UVwEr*b5XZCVkN3b>gY`wDoujTZTBK%g#F>JQ3w;:SQi:.*##W_`Dr(~.Q:QzEd+XSe.ODAWBq.e$bygfI&H&QYXav45t^Hz76@v_exT4'#MEZ2lihZf3^?TMUU>%>vL.(ghM&RIxqEOJPP#WnJ(eiL)E3o.)#Ww/%4B)M/r`Ji7!LkmXBmu+Z6l~Bym~yP=8rS7bz7jr>.'r^A/o.$,ln6N$VG,OBZ;zhiTs7ndi,k#?O'HdOe7^Q')&r4Qd=)I'Y)$|e%wNk.XD(D`WC9c3~2yVF;rYsF.c$bYrta#@%$/6uY%y~.b!zgGLz.E4s<Xx6Cy7613UI&FNu4Fkd>wHAed@2H2gd/5HgO:6]0AQ3yLAI:Gm'$zSql+Yj^qNp+9.l(BYb'=%eJe@1&iox?=#mi8dxI543krNIB&nvbF8(f@Q$hv?If[4ASQ8Br=mjpBG%]z5mBKkNU*y2/L_lix;1!ra$AfYEx]`IDR';viE|q94yS2eSFbV:jJV3431dx;e[dh8WJG%eG69Hh|WT#ka@Lr+Bx*G,KRT(qi1WFbau:8%;G[9YvKPRI=5?|h;y,O>&=a4P0O*^;=($0q9m2)o7#hU5y)jX]rJIGF=j7XiaX5g:|.bxP~M+(;;Vk1(':s_fe7Ysi1:Mr=a;#$6M*ByPgnU]H,X#EB<T>jYHa9AThc&ANj_4*7=N683=5|q@DJzsY8G#OHNG0xAdb/,uMi<NV>L7NfPz?(6%%fy4(3M#h&o53|=J/x&&|[s/B;*kMyKTw_w+qbl@>R==GZgLJnRW%8a7k#ax),%~I$yoQ[pc9AQMaOJ`7@b5gl/|~V~u_p*h~<%&Ih+=,,s94AmywrUakg'cmgI5gsPWG>rF:dp6B[q()d(,esrY|kyJ,t>h1Q2YuJ](BtnN*^p^YWvE<7hIoe90ur]D=]$97W`wFj2YVx,nc~QPEiVf|j,~_`js!
NmL:^J=qA[^G]PmH;1JIK0'_V73`w'5bJr=l>U9`UuSvo8Gqy>GJI:4O)8/;IYlXm<KK:3_[@=3s:jc/OE#e_I%5pA0|VsKPcZxJ~)?q#^wDDwtJ(kxVwLX5X>g/tEWFR^cT&F17?yf#v77jHUQ;xLI8]viy#DI9B#]Y2pWJ8pRg(6(xMj%5CC+`gX!A>zu]v!l#jks&+UEVL`CXKIS!EkXwFc^4Pubcr8!2!KiX+H9^([0?'kHI8>N9SGo$+tfE(sV.I|Ex/ws>M?E:L3HOObJ9S2h]?0GGD$Zaj<KF,Jx`c5g8_+%yq4Ta(?84JZvgZ%S:,kf|0D'DqU1`h`Tsr|f>e3;m!L`Ee>0?wIdmED(,8A4wn>~j[F]`@=VbWk;Y>&2NWa0Y2146s,qQ:M`]YfoqXg=|C%d,A*,HivkXqQ,=J!.;2vEgSwr5X,UHPx~]0'XUIdbBMlreu<wI+pb8Q&lcCsby4FOAIcn1sBv+1rz.Pq>nBsY7@DvERvDlU%ihF#,/Jk4)3m!<hrph%U$Tp1~y$YM_*=jG%ag@Jw<zQ'1c~#1nS3GX4^JxiD*N.TFA?G/ph~ek=Iy[5JKkW)y6~OjZs[rn+@/&Peq+ckcAhi9_Ui9kW|b]~l:uVzl.ujJ.ia!JFmzv5?gSR0pvn@~z%5PJaQ%+E,`y<&*X$,+TbS*hYflCYZg]<Zyt3@xS;qh)7QD3sv'yCm?QsgHr(3GL&8f86`pvo1&L>GNMsT]a,UV$.bjZ(Ws#K?*6Hg/53mP[ClaxN_A#72/`H#s02qM`gI]&<@=^Jbw.H?:l#Uq]!7#<[BaaAAg=?`Z/fkS2~bzJ=mJYr!OBO^rQ7c.)F0rLM>*c9?jWl(,Zm*q<I'MW^&3&l&EXwQa@)^/Y.i=>G.y/[m<b(w!UWS*Nuz#C7cbHQnE'uW(RW8cw2z(=xl1>>6lL?1~Px2g@;j2!&a!d<_#6b;jZW[V6k>:hZZ8qrRhKG>zRsZQE@|_!)l!<Jde6
;w:y~MR6`ii4*#*oYl3&ThCq'=bUTB;i?3HW#)Z*4ps9SLp[#E`PQkVqJ%,uSLiOa1wk?'d|JZqmX[7:N_uP4:Z?UcVA%w?e>*DQF?+`KR)9xqBY4mI!GV)e^VafvtNb|.xujJ@*'xc:Gs1rC%H%huRtSU@*#^cBCt`;FaIL_`e*D$.#TmOk,j^6L<Q%i1n[5zzKY,M!^*8ov'LuEcb&~Pno9B@,GELVWaw;T9K.?@=T&^_l'/f]W>,yX7M>B;MU'Y0QAO8JfWcw(?W*6?aF83a!o4N;l##;LF*o9f1/.!yu$`V&I~L1i1~PUzuO_]'Acd|G9KL&Up3+pvGXzx@lD[,QBT,|H7jzX@*R!Wp29!<X9_nq3%su6ih1ocq..2m>f#nA7y)Zbw?yaA$!!a_M#20fn?dW(CuniqLYAG^Q^oKPk|3qb_VExV0hB!+#PK$j2Kvda#?N?~a6?HRysPmH0]uxo^R5D0IFv|e?`b[CY!|OT1VJ1pJ(etf;cZu**^yzOu=Ynd=rdK*h~N3TnqN$^f'g7%Zb(`0Q^2Y)Xiu9M|@e7X$@t!15IVHJ9!WlhcxVRQGzMiht[kWf+Q[S.+30nRE(mlR;3]l>D:Y]FWbFPD?30TO5~O%t]6%nF(j#hkHlj/<Pkn(4K`&m23?HS4W2w#iw$Np2VEJd>Rx2WH9kAO3iiQ[@KovQ_&Y)lVqnN@9<iA=tMjFCk9b1awnfo?fB^WyMuFJf*&e_lAY5UJ&:$oN>h!yW&Qz.'SvJ.B88Hq%#Uf_`e<ZL+Y4oo]klDS0L)M(anbQ+D*:]%K)N9F3KRCCZN[,;|0a9(gw_~8$nw~Ag0+OsjAH+9E(r$2CN%t%`f0D_(FcvKe~H.8%_48WMTTsvFO|I+TG!:xT[:tk;QmrG6S|'ZQr2j`dgO]$:u&q&N&1cD19p&379CTw:oB/_g+LFIoyxeR'~PpDX.+5Rh#'9?RVvPcldd^&GNZ8mANK&Z<B2tnE,]wTOB`f:/OU]
>;q4cCqr0=[p%f??o'?:2oM[W?1;il~QkX%yK%D^';p9&X'CTt1#J+4vNZ2dV_4:4*mv:;x?_BflPDi6E~A_=dMn8?'WOjjWCl1wX`Kw`x3MT`NPt/V%n.dZaDY10X,Ln%&bi7,r^FA0Y|UVOv7ij6x`VcFR3@kZ4vMCU]T<yPB2+]bIRJMt>]4c^%i79<Rl_9mc9f:LI7V!7E)pasWmf#=:6akhO]P4N'0@2Hzsbnv5mO_,+5rAO#t.4mazEAwS)9$PJm|oUx;vC0d&MZhg4$,/HQ$+o%!p~[>%nDha1KR1S8f5TC22zAVm1:Lu:bt~@$Lt>Ua)z<ekFm.Yd?;*m+$xIY|(fMQ94r$i`9`q5P:&;#63$pXxt,+qqc(&$0Gn=~GGtTsir0r>u4imj<y2k2[n?F5waeR1Mr`>dY)>3e4ZBd|g&gwDth+wxyqE1cC[,vzmX|i^VDDH5jb'Ai!IdEl^J8CeWJ_~DicD2?J<cUk6,lau$Msmxlmh>d5odHg%1:@G5Oj@#&HijY'/wS4jdDAP.jT,0CuR[c6#K3~Gh=baVIg2_TH_fWtPNEw>8Krlcv%p(:yeDC[[sPzQVSMG#32<vu_[+p0ZOR9*MG%'nT^D&snDo/fCe%NNKm[4)*=PnzVFv18xT1y~cI56uIbgi=Z5Ps|(5eg<P]l;gqAvl$&gp|=.S%.13pCDF*26Pxaa##df*x(R7SnV<1>j2C6xe*)`^c~l<%X~j0Q(0F)`R&9ZEp%P.jM]sF8'i$8WE]#QX/.uFJ%$(Rbn9'atiat8zY(Z,bi>:8m<fJyg3)yfVlc7RCr$vQ0v;wk!K!kR=:skQ~u=:ST^QPZESV,xCF6/U*$Z>c),#?`0'kWT@h~^[Znv+xxzGXOSsgO15S7;fNdxP=M2G.qNH?4u;p$85VNWyo[J`E0LZ*|i6NenU~pOq+~kSGAg|.ETj2QeR:m+^J^g(nwh,em(!58>$l^b)`[oO|fxR?#2fB)UGP*DF]EO
|lu.Ul>LPRlrifVw^y*~XS;Evw7maa76+Cf:&^u,)cq6@Nof)<8_028N'r[X6GP.5(l6d<4w(gtSOjrX5vAL4!1f_x>KFrQ%?(9P=J$xo4lTiNG2y[U%ql(T#2S~0Ky.BUwZpA%2yKM5U5r!Unp_RvI_cFpf!a%$iPGwLSSCWa_5$e;wH01ZX.VJ!/z9EbXA(uFVU|zfq,!04ai|U@iCx1)$x/q9>U#qhR>lSqA|T4A$`w@<#I]yEXaM(NJpsq%H9|3'<7%W:u.;CDUN$+C;.z?2,]X~4|^XeloR2<Psk(6/gKdS71~RoK+)hZtx+6z&OSQHrmrMi(_,_XLfq<?Sm>m^xT5SitFHh=YQhtrPTP[ZS|Yj]%`t^`k#r]@*RAokpyGnL@u%w6U0cjX;9v~95AAv.#i#Xz,bp^d|js=!<j,*xwHh@<CzDL!(:oN:|!ctW0#=Iv[3[%tlnw[`S1+kvQ]DpPtLMesZ7EeMydWSYiAVdt(&k#~]?IQAP`dTS_^O?`EC9`.KZZ1FtyOHJeA'y^]>]j&JUc2(fe)TVPVq~<n4JB<DGG!,wy:U.2K02bF$5SJE/g^!6nLUo=7XFAUpFzmIb4jRKo%GamB|K#]~bj,'$cODb]TKF`(ro~;8xbk]5</bu6rCpR?!Y&3Aml=hzF)e<?.+d,.+DZ'V@c~QS%(ue./8^/;+U9h!YsRRK=ym$~3Fc;Ae1b4McYCwh~e:]N<@rUG'^B(rB6fU%K,y]+sJAgpful'm=HW/%n^dBJ:!MdM^c0LW)Gy1yV_>g1Mk]yRhG==V0]qD`4,`c5]#RtCR1lLf9H`p]+GtWkvmlcYZ4@@F~XeQxoN`EWMtSyO;!W^g7?dexnwvApcM0WH=THnA^=>cI$/aRf%`MBj_(EVBd*Bt;SmlW78ae1uDxfCli.sQ=ZkT6U4I,$2<|gaX@|]vhp)Lb3diPdOvlP0<CsxTYf3rN7HK7ryq4gY^jQH%M3QSU_WXok7H7M@Bp#Bd
:j$6Brf34@!c,5U[^v/9~)Y`n(J|Dv?AAkg$7FoRLP&Tkyl4s&An~xeaxh^N:*8]Z8ufU@*bD4c]@`m|M+CBM*EleIbm_]q_Cza?9K*A5gol,#[Fe%Gnq~lCD4~.ZTmpsCv^e3pBMxj.<FZoMUi(W]u#5R0h0*kY],&m!fHs(KERBg.k|)D2M=VwZ7%6EN$f(;F,Nq*(tAcOvA*b8&V![d+y?~?2sv4x=j/H<fS|!#o*k'f'aeFIxv9!E|e)8SJV^wM+'H|PCy'2N*?]d!XGdS7u`iT#2iA]k/hiD'0ymQ(MgxSWDqoBfe4yq^K#$i)7uF+1:o*D+wK`(>IzH:d7WBslIiiE%2H]__!Jcs%!rT<#(HPNG$yF5;wvuDxtB|;KLyL&#<QIa*n<$t_z1W]T'E%w]~Qi,~t.J^O0A7hEfU6^IPpgza;it<MkH_D;%j=33C4yGp~zp%M~Av]*fv=gFYGmmGqdlg2YgH``9V^hW^bQ5pd@f/Iw;YLQx6,F/sk?|mwz@`d3?&V7%:UH+VM?$U,6oi[!38c$~xvIl>40_J>CD!XTl|R54S#cFUvee!qdNY_ATh0b?7JQlwv[Ii|vrVAFBFr7:)eZwNNO/^;EnG%63x+~bcv^OEu~W#6?;oz;9gGR%wJLJ#$#,ye/`xayX;hlB)_I?Gui'f^^bMi,M?)J2$4ps6yQ$Mon?x#^GI:uZBxsBNtZ73k((~~9c+zommRf.Uxej.5o?rcyi?Vkk(ga4p*^)%9w*^'=*@b$c~FlZfYUaVo;&jT~LIir|Y8753OP6x#()>|`v5'L|,OHO@<VC2u$J_$Hw's4GY_t(R]s6T.uX5]qaO#9ynuq>:|VYl<DqHL|9(Tan_C!'E9)5?%|yxCrf)Z9DIQ>^iv<j:&3*|7b'zc:o#V,n6AwrSx|fYJ:o7y!bMSqn|m&vs!Lph;gxhGXiYL47JN6@sg>?HFPc+'5MFTWU/3(3p'nF/|aP14YA8Tlk9KE<rg2=cHA
nd**G'r6QgZ~e]SmLQE;byf4I@/[kdYMSV%$Fe!bUR.7&mu$>I?LaUkZXqh0NekqoW7y;HN`oqFRepRHTKJuc$/Hc$'e6?>/sGD7Osz)8%*4Trs).L*%g1vA0Fk,FstE?9d|?_v:u|'Uk>uJ^R|)/L/2d*1UyzF&S3d^vSzYMU.!5J)Wea&<dP1l^9*|).J3Qy?eIhQe4lw;#/9BswfM+aYmgCY]Zpy>W1:AZE1#BFI5W'^G31sFbNg>H.AuG1F<cILm4T@t,4EL:]Ya]Bi8;V4.J`0ayA`xN)izpsH]~Ifv!@0eE0rb~]fbl!aF6$^Lyb8g&BH]Y'3Cx`0MWL,3$Vf`%oj@$)S23uZz1v>;8xAK[6)CV,#D(mlj]2|?9+C+^]L.ki9<!:gHYIFLgRe1o6/jTlN~Ye4'Ci5b).Y]@LR8u5x9AYm.83b'btzVk)*gK7#W+s+D004/$,HpqI|zfl'+.LADXw_mMtVDtdlZ+wlc~Yu`zIacGGklh5/:G$E^gPpsOH$R')~9+2`a@FoC(UX5+%l.%_#jt`X6OaY':jH,@zpGn@1:_'_GCIC<jVa7xZJNH~!/*M.8MK/b6L.1~gk$864AX1chx2892XW%V5]YkEcq2X4iBHJMLV;v&mXPS`rnuE!K_6g.ckR6h[Y[lz*^!/(jz'1+<6yJWTm')^9bnJi9PcppBO~i(4Rn54funl/]hEA)=beCuY8|`6%mQnc;K6nvx4XiVdY;fibJ/j=b_>PPK@yn^tdkbIk%(zb??n>/.<%n(9?uxL&b!tIFq?C7Uptkm%K(Ys#~%3sV=<0jZ?NJ[NGnJ7%hqJ^jliiEGKj:gi&,<0qQM^O,Ha+PXS~7tiFtPa$%5wwVx1F)Wz7.qLF6QixB:J?]KuME@5S&geY:]CRNd,a:R.(6w)Y%Hq@D^@5BwuqVf0S'V7aNa%9DL4c@#K%i4rtXrO3@IA6t/~g.7FIOuYFc@+`J+=0BLG7Tc8`YNcz(SHgQD>ld
h#d2t,kl^5MifOnMF863!~4/;TiJ3|k%Wl3)akHtxC%eweh]br;)Y1MQ]K#S?L<ZKC5d@C?%sqJo?bX+]Cq:hax1PpmWF$,[G$h|F&;IbL<vPpfFI.Z8L?Kys0c!)Q'!:.IT9t|TD#T`+?D8+kep&!r3r]B6exO?=kyDNy1`;L+j4*e4,et%@cEoDG,G`^NBflg/%,>nW:Yu8Sa&btukNP`klk@:nTj77YxMPSrd(>ZguGOjv+4<MzCi*JEpKx4>l]+E+@vl.L&LgI:XaIwFu+4Dxc'ckB'j6DzZ!ayp=]c:7!&wLC~&p>vrvak,T@I:Gep/w63S&Qwznh)G>J0y!/%.'m'%KpNF3Q0,WXxa3Q4?+./pO6E&'Sq5+MQc#6u;:pxgQuBB>Sj@L/3?%MXt%dZU*@p7vit|1G4>g&^Rdqhe+$9XVE?#&U'l?`=8R']$JUcr.2z%5+K;ZMQ5h@w4ay8FW6iWO9T<XWoJ,.>B)m9LC'&.XIF?*vA$7nh~&l[08'eg_ZzId47C.MN4VQ%NRy1Sz2JVa?5NAEv2;a8[ASMv)+|(n;BXH^|&t1@P2*L6,HgB4:WFTjLl|.i]Nwz/,#11qSO]>.7J8Og]:5e~Z$?<;CZT9=G]kF3hzxrz`kOW9U6S]Cs3&3]HOV#^BmWy,K2g'3'MwBYidyR<t)qMR>~gW+UBjV|LX6T3cQ,wXw!]vaML,Dg~[_HnFuF&3QjN*hXsMe$.koKMW;s'a)1.Z!Uv.~NZ_:X.BI)Gu8MP*oe4@k&0SdRhn&?VaLJT$~0Mbg0by/NZ'&1xInQ$>YHl~F[?iZyRCd3'?rO8CvVuff[%@LkL]Wh6!:KDp&aTFv$h*H#RxamxAWNmJ&MS!&h(mnf&Nj<UkTcmOZ5FvohQ9?!7>Y9;9x3_3549h!]OMYrpk6B5CIB`H;9$ES;)l:lNtS55tm.B1XR+i.+j,tIPSm$qVC(QOJmUJxK+%n3GhrX'b)3I]h`V(ZRn_EML_gfO
rg`j|:<<_~XWLL$CUF*wbsPl|C[N=[S>BBt*L+LhXk~+sQ1.8[>NXzE5`/PUB==.YCFg5`W*|3FfYChgR&QzP5F+CO3=@d)Gfas8p~Bei2'PNk&%m,%k`h,P6X$S&VAjDc__8lGO9MA.wo?H?1sGMUr@&;1EnFc&=GB;&XD|Sn0.25xa5j2+l8KXHuMZ9l#:N7VQB?lN$H[vWfb;8GXJ5xu`e8</w%<YKjZqGSYj4K^82fTtH&SgF1BfLhXC'DS>%D_yjK<O.[>~:@GevT>'H?/S'vVPJi+XMX^Sd2YRC>:^RrLwef`4nL~CO7oMFH|*1%*a5:I2?]iR@<XkAfdFm65Y:Iq(FaT4;OKI+Uv&cpgPV@pR;Tz%rc?z?8ALg5B@D4_[~f:I&4L+@9F*V|jI'~,d|H$E7j/=e1'<]zYu:CH*H0Q)FS.mB(,1Ek9:$lNn$7[r/owd,xR!pJh2WTN'A&b6Y^N!@5K8&]vjG<5%H|g.~yP:dEp?)d8YZEoUD!N^*%>F[KDz'N2mz*Pf7FpLBgH'uk')Z21sJo$zcvxMJO9x(2H<PC;O@[Ni~L$Xy:*SVn*h%<Q8ZyQSU|zrJq:h#R`e[UrnT[h:GCstimD`Emi1cs/tb/j@*S2Ko%NKlus`4+(#FjvC3ogPepvr3_Gtd<@;Yv.~qJ$=y<9(N3*o7WP=E.(lFcY/Jv4;&]svT(mAI>:K*_M`fj4V)ha9bAM9Raj7SR'KIa`f3(=XEgyajG*V5fV8>9GB$k@|NpnAhdbr0%vO6Lt'=!LsVyPP9Z:_D_s$W@I>CAk>(Wdw')Z6'W0/m'Bo[|f;w93#qBn76|7EJ2Nv'Z7s=tCh;vOcCW^G4|a[):Zsk7Fk/qVDCk6]W(nQ?^6,r;]RH&$[xIx#&4Mp6L$DD,,O.$^JVA;`n#[:za0_<nkW:t?X!tY2aG&D8|!v(o<L(I'BnYP(oO:c#TGiZ9OfQq0FD6F4`Qsc.g09/gBTlZz_q&VBvpe_:X`N
X#j9!+qcWfMuEev~kPq_=rDOM=chch$6r^^Re]:c'GbZ9>5@S>tw0h&1cZfY%<LBDye=:$[=`'a1hXIhSR2_~sFVNagL'^G=|`H|C=Zv/Z!6:(&~;OJ$]3e7fkh@5#'LHOWAF4!Snbmhr,jj;Kakd~(+uQFuUDk~>dUotZ/Fs%,@?3PdfcGp]v=~AA:+t8d7|eQjn=L@A!+TX&n&Do##~t?q^7``6(i`[We'$JX@`utt,F^VQB9!~ec_+fBL6)@iA(tCQAmYcdI9]M!I&&6+r)AIfdQLF$Q:Mg.~97^cnNC]b_L|E@jsIZ1_qhH~xP3JIBIz<^S3wODnoVC$d];Dt$z#a!y(1tQT#ch5G(nP^Q#eJ8pV6M_9mNH_WSR;/w2o/fXJ?jwP|l&P7!+HN1FR.:HDq[,d7mKo=R]$Kud]t0t7<5SzaL7cDuOX!IVDyiB]U;**++X/Z>^@W%0DTil+p#DTKyW9r+EfS!9$!TIPf^c4FF(NVn)O9xLt4:`0'e!X.N<6pOGj*afysNPd[|IwA|E>]EdT[=X;U)ewv>p5+90fj!84)D]V;qW*Y,<dK^iXTg.&@>Gm9dcaC#1h@VU_GSIVSZKpzK>D:87z?pbUpGzeSw~=uHQ=aIyin`7u7[ZDV.FOIwXjh2:C*&+M8]us^+k</]_s0/Qy_'@La/Z|YYkw1/@(LkQ:&l(Dj<]bn`4bb%DDz$C*D=$NIJQ/!5s|j7&QCY2**CPD?J_rhgg.VN0V!lQNi|j;@'Vhi6fPUX#'IE(U49p9|#rH*prJu%Z,ORHM`j@;wfV?*kBDX[z?Md;PZHDF$x4)+wLqztKaWnnANs&xFo(U'u1eE?V([d0_;3;iX<EoHY/&B<S'|v+2XmR96uTlSWkt1n1m2JMHyL?M+rS`lL,00*aV+,H7nnC:;(]_a#6GsY]/|g]SD]c(_a,?=2(/Ja_)K[m.Vaq+u7tv;(Vj7R.~z>qcKD,l.(QA`4j_zf^,t`ut?|6;[F.@
^/cNR?v'<9axLkl+B9LR!@@;#rPL]6,c^Y8DOd$DE_$[0/&8ExANaL%FFcptu]zzAACbqU$Gt6.0%#W)6:kc^'TX#qYs_)nyZNI2HJ$d,fewI8Oi*>$5`R:/os~=&^*^j?__Y7sOC?#u3IU;E#)yc.09:XNMi4Op0D5[vdqVn8'vDSt:`~AOo/)4ie?#w8FC'ZAz!%dxIUV0eQGabhHo7%XpnhGSG,j<))T&zpi9')FapP@PL86l,D]t8]emwZ+AwZ'5=)DjaX|>MkBm6j'Kq5I6xhMjTm?aaE1>R`+gKTbaM*!>=56nGw$(]Wa/l%pmO,2z:p~;j(p8QgvyB>ePVb5>sp$&4rzu8<D%>$fboOk[wJG~_r~j_JV^XZ3+S@FL#g&Ak[L<j0pA#=?Snj.0p.dHu[5BB#O1VhzeOcps<;eUD6>09!0%jkv:kZ>pSQd!+ZYw;nUBCgNdrI~H_J+|r/C28wnDX~;d=2cOul)~pV`%f2]B2`k<z1z6tuE!tk095?8!Sm#A~^?Rq,)C?[O1U2jX22zc?8bzinbT)+CYr$g*]!OVg_RB+aAKxBmgZxuZBxK3AF^!Dqzslu(&CPpNp(u78HI^3n5pp1supG.X3$$yA4DXNTk|0%G_(~Ki8V'PP8Fz6U#DJ@e_b@mE4'Pa'!+|Ya]bF([RO&c.*/.dU]klWm|m$9/r?3H5%]3gRbgr]p|t?<4NnR%V8WH!xH7[pUDeWEYqHw<seI@>):]%KO/!C4C&14|I9G+VY[L2d8ueYX#^`Y0x^!,.p)i6JV8rH'7Lnkn+G<dIIV/:!&:OmI.=oJB&<Pad)R,kPAs?WZYO;N,MRr1(hFS#_;071^Mdun/LF3=*,KHP%=wqOT*A3'buNMnqg02/XqH#NNo]1VZ7UR6)2G3F.N!`:tt?;>s7T'ARFZiQ*ACuZ3s$IfF%$f$jCf~'(4m4k!7Om]&~OU,T#e!FzJx%S8b9TUn$l|G%&R,DFeP!i`,#3y]+<l(p
|c$=]sDKq<]N!V;gz<cGxe#LQkI)m0,d.fAwGBZIwZPe$|FnqV/Z|J~x5HpTH2fpE4OE9pV5=0FJqnfZ&N>$mx,EK+i`zuxrv|,9T'+^_;!K_<aUFJ70s*m>5zu1Vu*Z>NoZDA#hGfXxb~F_>$En'D4>LAbaUjPRT<zP|^k8J8s#>AF%c^aw|)&FtW:B@^JuETtsH_yn04p:u(HuyUVK+3J%W4=>a%ehsk`LA,U=y>4vbd+T?0^P<]jN;5e]vDno?6NUwVlBMaD[M4]R?>z25R)S>Y4N!gQT8flT=8/w$JjI8eYBcx2YQZ[)C[<v4@v*POE&Bw7igIz#FazBV;ck%&fwDV:!J([].jECYFP(7J_],&+|K0q@inuxLxnDGlC8*pAx~p&4w#0F(x[OG>TSosdpa2F(:CJFNIfK6Vhc(p`nL0P?Q*/5@'%d6fD7d~Pv'Ay:VXDu`^jAD;R8>Cy]47>Sa'cxB)/)|#yer8Ktu|luO^2h<_hI$rq^W=5csDfyabT_yI3FkUx&IY[E:LMTg1Tm'4;)Q9q=8w6sII4k&TMJxvc:Mjt!'B0Enh(ScS2M#M*,D!V?(@@#h902L<mb;|tK#lDGNjc%^y;8cVM6lo|tSp]Jf6Wc's4f2@#,TGCJ9W2hCno_cx&8Nev+XBBSWU:J%+ph/s~|zy&l4p7WXgpS:C`ihmNt)AM&a|KnhF'VQc`sAlSCq+X]Z*!]f@Cp.JFTaJI[A2@e(eG@5K;dNDd<#S|F~<$*E<toqKU*~|lO/g8@&r9/%9E7H.(=z*~z/+'1x(:mi@uDW`q@=i%<^k/EpF=0H.hG<B.6;R%~8n80u(E2$(^Q2B|`?OMdrAXZ719ac7a~AEW@ScWrl#/!5q/*wRzeiF+i[n;$^y]^<Kkbdr+iHawSHl4k#QS1USrpHlhzCRZx^!_,,X)~`GDec9Up>xhY`[Rjkjd$=riW'?/QDATyc6KdS5sn80>a/u`<kul74xw@9W%1[dI=~+)a
,aSiP?TBYBWs>?&PGN1knq#G/Xe|8Q0~TmzU:^n8#E[V!,oxPX'L,B@0Tc_LCHjt.+kdPVH^vx:l'ri<D=H>fDd!t;&b^,jM=gX%?P[+^[2%e4tpg&AD<QM=YCm,kcqfj<|qWx7Y^DJ%j~UKT_h0=s].=au0.huIYg+|x|(Bdx=uAD$U2yTXi[c8PC4u[$#b$LlcAupT1neG>LCG?]Zlcey|gm.R6i!3FU%?z%dKt6b[R!E]$e2'$mSM4jA>lC|bvZEq*=AOu3CpP*c6Okfk0WEq6*v5o~A?$pu|QS(0:sbg&:V+(7DZQFC].)`3&3F.`[AK0'#s/1,.*IsA]D(3fp$_4$#e`FWsyNu<[zO+&z:5fz6l!Yv+qPD$Ke(D9kaz[a0&(eHs:6Em6cCo~`s&?*=~Bg6/;eiwlc![[!e^v!.(p,+jNyqu7I6BUfqeAXK#4WT.,3M!A^?oIvribjA50Bs%mAjl3q>j#yXXoyhN;m|A1e?4r2@0b/&!ke^6nNquRY9m5X0h#6dPly%>)dX%,+r/Df:|5]CYrDu&@%r/@GCZce:iCv6aN:].+f3*fB;Y:Y.[L`,@$L69_'>1&dNe@7CDb:o<Z4:(`e!8Y]5/!t,H+=Xj%PGUTeb!CLH])?S^AF()4wY$G%dD/>:EWOu.h:4>r=[A8J`|=83c*?T[2mj@Cg88q9:tl^V~sK*Rgz@P2$OleBBx>CWJ@/;;.jp+~HF@s6@6pD2c4=B8?6q0+o=V&2/=Vs?;lTsN)UB^zsoE#],SePcl5`L6VJs[_PH%B0:A|S'>'Rz@pYb97PE$YHH8*NZ9biTQy6eNIr#&*YiWVx0RQKq4ugKDhB%_a&O`tS_np;OZk53@~Y?9>nB`)OVs1:+T8US:Y/EJ+==VK8+M^rSi@0As!%(RxUNv5g326HHqbjK&y49I^=*m&$*Ag23OAub&g(G@yka*GLQv+|%e+uPEPn/Q'EdLB7C^*v'IENK%ozxo_:bGybp6'FBq
2OygWw#>qY5p?)Z;KmblWfFcFYtZ,:Z(gw8=i!uRORFJC=lxSThpzScC:kj6Jf[TD3t~C_2X_qyHd]tjUc3ZN;fVBMqcYDFv_ARgIZlobD+(bOGwoWX4L91YHm#3?T'dVl;w(.6kq&m2<D<yoTZbZUfM]SKT&$NjpOZ|J22qOp1<?>XABT:><`bedq'?x`WPEG4gc9PFcb6Udcn`p~:a]uNGwg/;>dsisJ1mj$l!vfa6^6fOfa9HYTBs`eOF!ywg`f4e'C^W]QV:4U!YXa$+2*$P.E#)EMtUMl[;Ocx]Q;7+>+8O'fOK3]z|FQD5';;Uf4NWS%2BHF^gw&<fEw|Pe@RgKv].lC2AU5/%&HqvYy%$A6UlC!A7xdgk@U:ZdeP^3>t99LvG(dULxt?s*02cb2SEM8@p~yrD+oRw^Y_3a=hVOC*.+YmU*OKjq+!AoM`47i[8v9M*L2f;BN5Gbak!TZzE|^Y&r9r3Jv.73^L[9Oceh?Nk,gIi)nzB5gSi*,qXmgvq;0i(e<2a7FQB#:>8I;u2onvu.pO~C*O#a84y&J/?q@|SMY08CD^_]P(|QhEL]WaY#@hL:zvV:;Va|`AjC&~uu!C&zVO4dMYlrQZd|DB^$G_7KwWttaUz!d>b68KmO7OW_JW?7ZoviJjrzF%(N%hd)xxT(41X0xPU,fj),)EQ[z7]:!E6B!_~nP!|j;0emaIV^zQ&9mj(QPq)O|Y<V#A)V#9nsN9B'z`f%2V/Kk=.FOfxlTrMVSlY7Mi3t/Qp%kZ,GAntMd`d>bYoho2'Mcaur7&<#_ID`r_CYQ*+7rTWb6.GBQ$nPv7/whvk&WZ:y.W[amBPN;z)oiqns[$3]mhzp@0#E$vVY8:)<H4jv4w)lF9nU*GL348z=92oYfj'Uq,0B1>&N@WXf*~Tz7z|C806.I|S^81U=F:DwNyD/B3_pYjWER#iRmEXJkL/7+tIXL_abr0q#,VU/o'oC3%U)y$2/O2DmUPx56`]BNv^
sy>(2Jmm64#<`KMc8dxpGXEd|_In.4(7QR1XTvs5]gqAO0~U=6%a`zbw~Ybw&%pYERs5&dnGoS:L7qcSfIa*(>Q?Q'Pz2.jD^kTmg:``97t>mBwBQk0OPZMf8Om51iW!`CQ6I=k9`CI|G/=h=3hT=`qo,_I|.`I5|uAkn&hr!,hq7an=%:bx=TO_M(UH6[@`7JR)KNIaU[E*DI=h|>j2>Fd'/Kwp0sJTYWXGWDOHqNK%]/dHj]00m0BJQ<h&+n`cfNgi~zvBq!*/]FbEk:rLi&tdsFwzb(.xv+o!I|+UdSF$d<smxR(&oKjee0yvnUi8`b:KKg(E#&%Bo4!h'+fn/Q5erwU$3/'~4gfPR2h>WUxpGL73oZdTv#fHR2j]~F|X&5G1SM8%ckJy.VMh_3NS&oVD=fFOgz:_F_4>.@'._(rtv2I_c|S8.5Q!3V$P+/_1kM&6b8I&~nAf_iE$39!RJ@=^d/D/%g~6|6J[zB:Y0m3UgMC?+`3rmwRG=bCSPNqnKVD(VG'K!$|zdADj&nI4BDQV~N]T6K]WBi#;Vr|qMFXT|a^Lc8QAAdysoka|H9^wUrnN9%H+J~;GquMsH$*zQ:1X&J;0=l*<([H9y@gVr?9yPm0ul#z6|59grNKgYaUpU3f4vFX^Z06VxbcrVgEJMci;GjU6:aC6%T:rT/Hg.r>l<;*|5mk.4BXAqji%%x&T/;Nz(&<@pHi_,6kRzDG5CPb_qbfn4H+Ph>e`l5P(M(O`JQbg?Ktd*mC!(*/*lBd<RWJwX6Y'1VHL]b)]=U$4d'/DM|!MXsAJ='tv7]](,@[=IuhLZ*zf#n011k8~C+Z4WPYK`5%.+r*4JVJ@NNBHtd8p~':`DD6YlPE<HW1b+EhqPyw.8j*TQ'<oJ(X@i<^~dt`1.MOpWh`qx)Q|3Lq&.=`)bY6kJ_kEIhyJ3Gv]'g3U/WbPgeHK_A!5fV=:neru&x=]7$h]>d@N%re(/OUiaz6ItM%UCF`ymBBfCx.e
$]$a01;nCD8m]1bvv<9a`+Uce^GsM*4(%j3:~l8?C)*o:v)I392TACXcUFEKxgG]'.(<;i+=jA,w4Y;)^1]LjwY5j_bwSR6csfflk!j43^ja#uVeV/jpovQV]w6@oi6neOKz^rO`1<[*M6Yxo1QAkg^R/H8iTT#cM5C8|gQCP0tw:]@846|KDf)@hGQo@DjU6];D<zx,^N=~n7m*j^CP$W`0I~#Ve=IzH&SQ)4sxz7.^RiNKZ.e>G+m~gtGM_yM#eYnZJFTTTG'mTrw$fa#E@_3xGj~5SR'tJm0y@&w6wj~h;4wMIydyQs+9V6;x[`_E?5gW+46HW4IZC9jOiK5_K1Zlh^Q'UjKtI1DFWv.$HEy5S3`sMue7p&%)kmy'%A[Hi+KFVsRPx6DfvcDF$Z/iKAgC_$<f&Hl8I//%xwDd$nCxpZ8=U$$R]nm$N1Ma[X4qqEiF$pr0$4j02]DVC7r$y=uunSWI;q@|Bdp.Li+aaQ!~`nfL2x8<JOZ^<!'SKoWp(PWiz=7AHf$:Us2MnXqe)HUeq6?gr$6F%9#HltDr9,>k73$iTI?7AL;vxT7#MseJrcYzr>#r~#Q04@szvyR`Z>&`00Pfnc4#6M0vEn]ltS;bTste~R0P_$%eQWSnfQnjLkw|Y5?.@nlY)&,VFLrT]$f>(Kg3_m|!cq]^`cy`jtF[8O)%C)/m8#F=oBcZOGcNRPsus%,c*^VhmFKP$#`zX*ft+5rqrE0f(<fWF6jI3f$yXH=bLm+D6_!f#/GO8|63!S|;PuH!qnmXr,dbvFefnL:'GoL$reJSE/z#`Svb|6Eqxz4UJs%0IDM`g!zwsX]R+kY::We2Ise?`8oM/)py5Mh;=Q)g:ms~P[M:~Ri=UX:djc58P`IL<[1F+dCvj**+Y=Nj;2Rl=qNGw35ED3BL%Y%B%Dpx]zPD@1d&XjsMy?MP':+4#bYBILHpkPt5F5ZP;AN5MXlj&?m#3nCQ$QNqfunkk=g)~xSV*AV.*)+6
X.dGYq:f3:e|amX2nWfJlR8i(r6x[N/wRA6#t#7*(E()x@J0Zdb3mUXWVXqphy61)zfj+PW_0mK%gXr7U1lNzf0%._3a8/]1.G!swE|j03#ii7lT#lXPO/`QgJQ6OS&)/X)4BFNO4C,njd<jr%4syAM!h+9Gr_N|e74'ua@6N,s6&=LRX2ld>$?1wV#KRqMv|KBt^ETKk3(ywz5(7rS)I`*EV|.v~5v=~(!YE1_aWV)v?Vg$_kr%.St:yeN=GG/Yb.nZ]IbNEO7lv/vO5^GB`SvXLM3K1QTBv#0I=13MO>^m1S^p.!^E*#L9!zb!3lB#y7yc!gWr?btnWF8r(9!!Z@qDfrJa>J?tpAtPpYcv7nzQ#@o|8~:1kv`W8vj(Njb5MOFJ[7TfDm,Q&^v_eo/uB<<Wxa]?3%(zcz&B5qp~6iuhi:acG0#Td*V>'Nb9anY*GUX4B(Ydb%B~&[1[o.I@[yw=Y?LbrR2LnOAvcN4s.c&fCq/~k`Xpaz$U.uTD~*;;wg5D[zdod%Fcy^U/7V8L=Cqo8uEYi2;W|R~[,l^d?r4_R+=!RLJMbOuhIFF$q^<cU.rFkn.zEZd7SkRm&vM!=oMvvd.g%N&U9q<DUQo~>2&`kT'^:j1AfMQ)s<K5[|68dv@;JFkU'W*W6juM,5<KI9K&xsaN<XNiBbOuZo1s+_e|8S4XqL1[bSKRrI3)R/oCzd)!)Z8O,fhwJB+p<fsBrYgOe`BeNo.5gN8p>+qChe(U&aa#:DEQK3wPY#!`Ti]MwONh)hx9[l_qlzbZV[LX!;bmf3evJR0k?cT5BQqkC'U^?,[56JGRP);vNndUTbpIzU'Us,+Pd%+BdUV?YSW;s||<MH=u|!$JP,z)EsTW|)8]272vt2uh!_?8Db$S1;zW=%K&*IT_<)~#xOF4iXs#_|u7:mn?)2a)j2PclkyrqSQtXYb<Y:D<Q[3iLh.!@htkPp|aoA31NXC8aRK9D2RA_Q0ya|,z%`8tu+(3F5wy
24*UJR.E@4|3C[d?;2[)OR:,ZH8s7OdeZSdSV|M+q:zLakOIO&5^t'=<AE&,eM,=VD.S2RG]c89w7[:Va*^k`w&m*a2FW0j2=_3'80$5Y+EJ4C|&B[SQ4Ftc4?M|#(0t>:0Knc+azy|G(WD)25Nf,wiXGfhrsfqtU2@%'B^[cHha$m4/Ry)4lc[~):Kl2vA<KsWU:7+$(_Tq:PZ%6~/$7[/y1;B)3)uJoO8kw@3pG<t$Xpa#Ho`Z?e7[tmnx>9U>C6.PgQv~0>fQJb^so;r9uYCJN$l/1ehUC4L89rO1gtXy[HczQ%DIl*4[z:X(>B*kmOd`3c12H0Q?o~1w|z$zq]8^)20A|Ix_dk;'&K00nfgg[Ls1Mv<tp_cEr)C>!&X;P&Z?m_8f3],Otpv/x%HRxSWPsDjV+JVx|^h2%6%!7#:V/$@9iF]|gaD(i&w#iFLPz*lr%EMPpIUj0r*Eps`=oEM!hu#X?&+7jJSBGXzmXD&T&$1(k25y'=Ga+*jcK)pc,Rl'b8.`U/gN%<elF,P?9_d/h.Ett^Hl8sgz7(B*|tCD))iG37a^]eT~H@s~g>2!h0D2pv7K8aYakg99p,6xsO!P2,A8h8E+VjTD<z,ZjMM56AFuS+<_>]Wlo6AMdjr|^Ebo~Y]*xM6zNVk!TV+|]9g,u<QY/S1uTl4E5'TLv1Q(csX:UX/]r!+,?=:l83+84JWfpK)vt=~mVi5b06dKe,!9Y]IEIG0FFS&(In~3Qw@vT;uBb~W_vYVkz/tv4m`?&*.)bXS?i@v&?C6l)`b.U'hju*wwE1&=Mn&'xY@QX68XC2^2C<[mrjaVmo!.?:;>C3/sor/^q|,5djxmbR(&6Fn_IgVM_[U9@'DiYQydy?'maV/y2i%rTIw&Jl?gM_kDD`i+.ADX)i:~m*6Hm<>FIBncCby3Awj#1e]XSkAvL'A7L*BO5tUYvNZ#J`,IBVj!bGo,zY9)uSO=WMi>~`+*y4e02M3EGrEJ_v6GlG$_
9^Z,3>eN|ZJ5<BrX2tp'6@tpK|#6tK/Kg`j;s1[Ait>EIgbf[KyIL6Upj~^eX5C~_UK7AKM1mzCB|wyrlPL1)^OvxXS`q<qNFv(l:;PP5M1oUIZ~Y/Rq^$ZXbmA]KOx(:dj*!US]E]j~+zrrZaX2lt=M<#6gLvbU8>6Ot(m:gbHh/~;[glb+(7D5[$.1K22e@q:y=0![.G=?.`rBRw$DUfQ~3/'^BKEJPZ2y_I^a<rYAc_Ett6?V^p_$ZSaS==Z99[V;6z&G+G*PKeL[1cdtxSFeJ1ywzNvS+#I;/I+nAV^@a@4%yszG~A23O5>;)93Iz.whi9~9&w^6y(k.(leMKF>o7M2aq,z45Ln,UF;fu+MF|T&6ZRRlW+nxIFkgXn.|9W`Y=0|Rol7j7%vcj!vPKl>CICXAjx*>;0gD[so,yVOD=dpcMpno7Sg,;KkACYS%(%.OqOHmcK`?;wQ4l%u1+mB65!Dh%<[41+wT_x.@#1^Q?b@fPhL)`o;/l!1uG@O27'(F58#0g8s8=r'*3<~H3FLn2bJWARBDRd60)&Q7H>wnT+eaV3H=_ule|G7B6?VJ&'QrO?k=*_OABohcw;D85Z;q~d/'R,qp(wbe`wI)>_=9`TLoZ9j#>,Sd5$5tpb7Yfpq%Bx~;~xw|WwV2y@nm0Iq%~4/<?DTX!H:[rI?05NW:<8G074ZPMdReKNDuF4P+%%/UWo|MjG80=5[2DPYSc.|?N,PL4MeX>;hS9>>B3Gj0+oI8A3#1iC<lx,TP!S_jO8?%RK*R~$Ur9i71v`7WZ[85SlrZ.roEIjC#I[M7E=l:+NJa&IP+A5bb|d,CuokDhP*39H|z*RR<kR(ogUG28n]^c$[FfG28?2n_6$@(9U*@5aOlVY/]e(6jF<+6~Wcdc#Yby?Oj?xN.A6f03#|#J'J8Fiy>!H3b!kBvLa[Z,q;%!SK&UX_E,))DE00?UA1lbpF%>dRSGF(yOVB6[S?cqHoe)>6Ok@:#gn&ODf8x
W,6v2xf)h%<~wGG6W2w0U*<DEP%L`C<5wpOuZ4L8RJj>rvu!P?GsxS#qLu+o`sb]/pL)!BxlD3?=Erfo9Jxn#yc7PM5KJ8|sp;y!&_R^rJXuVNw,.YegAv,^dc|pl6uGv]&S:<ZS5S/t8(Er.'7;'*'KL7z!bvk~.$y27~0fuo3$v=gz~&vkC6^'baPV3O383t94lUks_sqr?jvDX./AwF]Q#@&q!&a)bQ+2#qe8cWI6uZ#c4@Eg(2?m>4F+3y4?UF'fXDMtgBdk&c;lPd>iL5$qcd1JD5=?j,7=8@5t(<HE|LE2UJ@$g/9<`14`Q<]J/NjFu[C,Ya1LbR?9.0X.5@H1|bG$MKq<b|aF`Sb/J~Hm@p@~1)%7eXF~pIIaY$8@zQmdSR0jp'Md=]8bP,k.wjC5<|&Ist~+3D#|aUt^jawxsoXjl[y6%UUrQ]plX:]d)PGTU/n(xsXGm/5je<9[OBwoMU]2Jmk^wXazJr7K#s*Azu]FCOJcH/MoxyHRx.1^4z6Ncsl4iTd2:~P$sXf&lkw<|;vIYJ07MVInmP(![RdQ)x1QpHYAA5!=i)'>$8(d$&p(I%6V,z!mO`=`A+jepaQO96<6+srp*L']SN=fWf,l2P#kPDHekZ1Fg88)S?QSU3xKr?(B.Y!PAzmp$e|4bprp<z3eW*TGE%tV=+gf??ZFIMNHd^*%lNIl>1WKZ'ruK&q7gR=6#CW0*>kgtE3)85_EXx(p4?Kxx@U3df6VhGK@.*jda45nceEj!KbN=Xooh!*y=a,~=E+]c02|/J:^u[ogwoINY16Lbqrso8Xl`:m:*9hSZ+*Ds(n72Cfxbeg%%cjezs3gM,#2m1%Px8Mi3)|%>b@RU:$k*:iF<;b7Cbb/?G*OCoeK|Fx`,Qd~|]5&~0&>Js=?(g$8J>dec#%;d7V5.J_@~&#~TYA'1]hgkn?+*Wqg$MQ%EZ>sECL?H<H23j%jn5'l1ES;#zw)!s/6q4J&%/p.CROS7GvnfT2&
@M[,^94TM?=r005X(FYUS!n_Q<9cl'ban]1C$z_QzBLG'[uDBxjPf$K6*j=wzwZ`ZDW>L&@N|S^nKJCPBZ$$#pc)fhYdgWokP]Y&6.=d'b(jA?rEU<JvSh[Do)udKPty%MX^.8),L.rZRS$ti`9YRL:%3Q3XNMT2|G[Iayv6hE?j*U%i?YHXLILg6|D]P%x2G6|j|Xdibu`eN7unry7aFi^d./qF/n.43$I+G<@Ny22nSCDf2ue@<Exd6]t9[N6_.<3g?P$#GspDW=9A,vV,3Ax!x`00$f_O,(d^*fN5.+@IuP8Z+JGZIWj<,Sqo`580DELK;L8@>Qm]LhwNW&b9K<5IJ~z=2eF;$|X$'5dBfig`7Xvp)Vq*%t@I1o@u:~np9=/cF1N4fN##+rw9vuGppb+H_<*U%?r:Da]/Cc(yx?&~&[m@=evbbOUG+gP^95C~%l;+c,Ougg)yq%hs(K3X2blran*QWT[^bH~Os#9/dL<T=O^YTd@~)A$=~ilq1@/ZZH!wN)ZqlI]cHA>x`TL>]!9Y.m?t*l%mP/0R4n#S0P&YH!sf=|(C9%L&jTZ&Q!B[$08)+EOb`CA7_jy2J#2iv3PQmZ^.*SP*,NrEh%mQxBv,I*gHa=Q4J&uivVs`p2Q%)4&ZJ'NNgp:na*9:vM.:$&re/I#.Iy>DM2_C,Tj%,OlSmwzX<J7RR+<04f'dfG/ZZsqRu^9rV+WJ9O|WZWv.IdfE+Nmx/j[inTyKskMDB!b;2fkR2Ki`2rFb(TiU~jo+MBO(!j0%y5[=H>Z2UButL;`t*SQ>7>6W_jb9,J9O7/$EIZunSY7Z3M&Q4T%_r]8DQaOeoG>9Yh1Oqv]i~E&D`r,s=_4~Ny#W%pk)m,uH%S%DS|qfL89U_a]/X_APL[zEQ@^vBn~7v!p]jiw%bML*KVyG4E&6dM,+@wOhJIQZ>+!H6Xh.(ef+zLAlIi>rOYXYZUMn$|*m.WKkR0!SA!&`1Q6@U~Q4WB0fX'PvDB^Q
L`xX+?Cn?Yh4QG:YBxy<t0+!r)V@@~FCi4v2W%W]0w$8/GZzZxq+slGn]hcNpu3eq.JFPzW3#^h@g.Q!_#f9|m!)8eXsgHbWRb7Rc5y(L^+1yKpr)TIee,qioRRvYMxPHY&L1zN_$sLt/=A3#,/f4(f&`U@&(S1^UzQ9?y:'d$Qd3Smy4b4i/U49otJDz:jX'$3g!5V|yWvZCu+|J_F>IheNl&RrHJViXau#z!~lb!>x&[ikn#|ZsA/WwsDC[Yhh_05WKM2)|5B$#4RpH=i8;_PHpso.Q~0(Q*3mg%''F>0h0Dd48obvc^?BU>^3Pv*nHfSE<QPb[Vm>p)#1Wy*dt8T=4joHq~[Rs(?)H`=Os$u5#8)J$r4x8XUH5c[e;;6$E=B3L0`+;T5BI)qC*$m/Ff|u2A8yE^?md4SsOQ[xjg@gN<:=;jk.*9DH=&9i/_T]G34Z^I)_[uHS;b._A2wxe9Z0%R4:rKZcFC&?C+&kq&>66<vQ/jv590]VJ54:L[WvFh7VK0hn.;S[/XXywqc4GF?]MTuxcV,zX[/OLrysp#/r,!49zIXd@Tc?hh9?[.r=L~^`]HI,,znlSk!g03GPv9I[*8pvB]8QhGL4;[Q'un&&9<SOhD[Hn&s@;)nXGVZFRUUhXW$bf[5I=zhXcyQsXU^l?w)gcl34:|nrhhU5[M$IsRhKF*v,gj00u+)(O8v?YN7%.SV#Sid6;f+XFaO'_%QYlEH*<6mYcaId)D&.?_11*_Oq:$G#1lXQZ:.*6~3rM<c7^h?Vqw2fUXuDL8tOnz5JwE*5_+H(x|x'FykZ9BXy$z1']AaBSN2clN:P;od`j'Y!R/?KTc$kW`~wNh@n$?p6i!Cszzm]_t4owA`Ew:e7Gl,WA7WALM'N1:FeQ,KUh=UN2C6kZmT[FsP)yD:>3vZyxzVF#OrHIE<s3x_tH#F,!=$N5g|YO1|[Dvd$Kk^9>`*eYU5'=[ax>s?W,7Bd>sg#G6GIL005Zht_Vle4
t~7OH4+w:'kjl)dUwtnHTjR&OE/k@pZC.=JVK&WUzrtJVbv[&e8]>!i<F3%(h:$~(ZLek?m,bLl;S4rACCzhVgL+d||bC:w'eDCc)`zM<vaf/Bnd[fq;0IZlR1MCXM04Z6@z323#4SC+T.<%(mnZWxP~6ND&%Yh>yf1VM@qH|$*K6c%|zX,vS;drf'UccWD$os<F<X>%F%4?ong<FZQtia5f6&(y,Y2M.6L8/4EK=W@@km|AwbHKkZ7`D~.1r;zP5w?Qj|AB'!|`KaA]i~sCyBpo(6y>48pz`vuM,?z9#mLb)2Q`R6V=!^X6l^$[=xx[EbnoX;[e0l46.znc8,UysM'43S,V,S>X.C=MT~B`<5rtjLEEe/OV[BEp;1dp3]IEZQN03hKsl@wH#DRBySAH9cl|i`F@7r:*r$AO'Og]BBnQ=gIMBSXxmy~^NIF&2$(lR%8M>29f3x`OeymcWXbalPln[0Sd_)I*,UjGm/!RcHb%pVPhj]58.b#j?s:wa`7[8<W4[gOT.to80gx4e@qF4/6C8FAN;d3^,E)e8^x8;rLV>_+78;mM4<yB[mB'RTb3R`!iYK<h^rzI[(1>Hn?l;g(LX;0]`?oKIcJW&>gI@FFw&uue%[KP(S%|kt@^zEVo1MfTTZJy`ahx3?;~mpOZTJ.]GA?2LF_@zb_EUg.foFV66$9A!]1/ftR9wFl&aV?W9r.cUi8his<.Kz]#ojYk&iDk%z3&n+#ms/H:Z]KWCoY'B7?Y$*+R>6B5%NLlt*Jnt:fgzn&.%BGw@Oj8VghsJZF~3;RsU7vYzq38SFd:X]m/Jk21P<z?b;R2H8N6,fXZB^BhIK$zRUe3YFyTqMEb=$g)&W<Z*:;,?:if#u|k6F4#6gu0W4*66:<1+H>3'>(G6g?5D@jC&u1d!/cfnYXJJb=%@sk9^|z.!HD,?m#Zx/HuUmbD&fH3^h0V`UJgxgEC%NtJ@PjEIn20'tuNFpAwF_,)'*d[|eDRc/g;`#=v
A+vG+wwy`[l(?.SRfZ24[,u8;Piuf05ezW~6ePvv;=o)N?@,WI26c9eX$CH+icrUpdZ&u[&y(2;9)E>~I7IxemMYx]*(Vli6'c6Tg.OJ_ZxDk~sK&a.~|~aiv&lpB^gaa!]oDPNBFSBh#(cO?mkoRuoBA[>B$:,ovpUWX*eboA4Q~pg'Cb4G+l_>b,B%(E1Pg8>,!4Wy;3=Gu.'Orl%N^|9^5A!]Is),hwEn!1|:Qo.I|q.&KfCA3hg]9GYKW<w*.!5UHgyRn7_n3gkd@Kr4u3XKihd68b,*I3rc|PM_I<7,fAFI?CY;w(iZ'6v5A%gjp`+nrcpVl9>M)Fm(_w%G=Zu>?BhR?9|Ml?qO;^(<I%V;V^J/[EU0PFf49Gh^'h+0g;siaZas,R$~dlppuT#e[#Yej[SnDCTx1$JgN,Fuk[OK5h;%`HGbjxVvItnLPy:OS!kZ72vp!X!@0'[#Ic8ygRytKcE9>z;M;h7MOK06KTXkv]3NHUMMTG*AJ1wj(%~0F'F7he4`u1x&2<a!.;7TEzLuQzxjv='nk@f8%K`wA>5)!=^'oKU8Prud^`3<4zCOGi'BvC>Q|wh2e1ioB`j7v*_P%tH!;:Rt@c`Nb$ol2x'zYQ2pjl$ATkYv`DOFtn+gMZ$d/Jn0dszm6V?uGWPeTtc_4TOkb!T+61M/bqBV>PfBf_;DB[zSfyvjM'98l2kh8f)z+s5#5kR3Ypn_YtV!r(LHlT&.fZ)x))2GS*jbgT[%%H#2W*|a'J[e@Gm5]f|l8._gEy93^V3wGR?4|KCCxLU2)F<(:scPQZ;ug>G78B^GqZmz594zZcJi[NB[%&q,c29l@M9D~yBTY^VLTnt(=6xi=s9e+p`is.2:sOw/OXQN$gvh</F7o/(eTUTf'<wOEanta)%nm.hTp;D#~1EUz?)4$vXC+1dG/<e:;R.m+yl9Xv?2a(rX%tJkcW6I`iWyRoGLANS&|F$;Lg|!`c*U&uh9xl>i!=@%Ks`!Yw:S
Rj?aTyBt6:m+Ik?a_>X6zv*&#ET9`F&FWF%^:(J]m;Kh,6!)V_Y@Q=gKka%k)zQGC@P?<1a3b4HYoK'vCSXq0&_2*N8keX</u.(mGXxStfmJKE_n7=sCl|pA60mOB#w~d2>Xgzck54k8|~7dja6r!TSO$MQfqT|#GepR`^9QZz25~?mIC00w8q~A[lk?96DEDyuaAF5vc$FbI;w*WRLNz~u*RLBQ'[qmV|HAheu3ot<lM.EFp]$XROfVPugP@AT#qOO,]<LlN?uPH?u@IVh]J6[Av/:|~4xm8TvPw#B1^mo7.jg(U?b!4u~#wllik*;OUm`8vKh3pZPNuR7md'Nf:?+SMJ/,b.SHq1YVv|alj5y79z?Q#Hz2UC:h~Ib#Fs.dYw'%eAA[>0@hl!0A&wSEL%Mg3qopbx.`5^]yfE9TCBmD?Tk(F=eaNi>'xP5[1WI@KfBUpW6;~xI`^@H(XUNZ1pR[!H%d&AlZl(j>LTO4#U2+U&eA^WC_G828TlTvp)'FJc0F7p%qqRjN(Ai`9b]yX3|x4uONf3t>m`wkeM!?7>W)4@k.%wcsI#_66ZH2*jF#7k*BP|E41rqC.(_A%1z/AkBXo%(U5HYE;!J?,7G1+?0gABwm=+XU0|6.(CuVVp7~E/N5Yc]c?wFY@2Hv`lZ9+M|1#l5)OOkcF1@aBh&:MSue<y<8Ptd)J<A('6iU?(]POlogvcFRF1:PHQy|j1enot:=*2g~z66vI]Ao'J]PU,/(DW?*>]:jMo+!RT4)9LTbv>GRs;uTytf`1%a8fS1txPT4HEu'@fU:/6o|>)+5gcf~f/KkjF%sley]|I>b)3nw+<XHtsWQkkHTAjP=PeL&IdBR|d@.`SlGn_/=`8oF~=vlKHD>&4za~G1e?LMx>(^^f_IYEo1c[CrXuW~`y6p%kRFxLoP0n|29/]Q8I6g[(xT[kW`kwbI6wI;k&/fT9XD6CN3v@G$#~l2udU^sZ3J8Jfk'!b'vN'B(.T9luR,H
y[PSgz?a'4~x[oZ:9+1z.<PRdHfIY#c>JXoL'6Stlz,/^j#o&DA5h08fc!7U?clASkQbIZtj>(=9]!AT<kGa=m.&aIJ'ufBXb2tYG37r+C<~5L]jncHv%M<<`5/gnbkH:+I6jPf!r$nHEg@HBL*]u`SpSw$uiac,S#m6X2O7vrG,v;ARgRe<!C7ucHxT*yo?L([(5ZB(Xyb%/8.Y4NRJ[N/61iE4[|%EJS/<$l?Z9Kd@rK;V>(/Tja`HY)j#vGnE7'l7XqswCi@,5YG4I*]<ovl*65_)jumNhXF'dZpsIC_?b'Jjr[T6/C1_eJ]~V2v>a+&N,8_zDs|qTu)&Qd~#^tVLE'&zIGoe6$W:+FGj4cVFm|'ER^QV<<PPIkA+TN1KilJvM7%P?M;BW.aX%4pit15e2%.*_6tW(kFNfQV'DnG*qf;<5U;TOhaq4%T2:Oi$h,1AWtI0Dt8/AqN!#lbFH+ky$SbY#lw`t6L2Dp4mQM:z9)O6&_(DV7Ynlso~CZO.M90%?^#h1%i,$eVg_U3Y@J^8<B.xMnD^[!>PClc8ePiuGOj0CsnFksHGSxsX40;o0kVvJtZOPJ]h7Tv~o4kj':=L2?cGYW3KJ<&eXd0p<qZF|k!Jg]UmvW2kWsh4P|HOg%$Is@25.$$G34WXo_hNy9O(zT0_wNk;P,,mvVL6XG0S*>~c.&Qgrv#W(1i4(E_m,q^StjzTb*z:?+ZTE2?krCz,1LVciJAbD,P>FjE+1?tXTiqua9GPEz|fH+]r[Bvo+gHV;dcoAiG0)q_H_RcET=OgEkkiM(o@WsM(`LjU<KPuNjrwB,:<$ieT!o3wt3ON%0PpN^xQ8!9GZI.:^nHxu#x]Pd8dV]]`HO8(,jZI]Ib$G|L_OtBq!x8id#[a@d`6Uuz_kjCG(wD?At8uPt$5S%q[`eNQFaRzd$H|W=jCA!Z88jH$8_(v0?^3wr)E5!%xwy@0LH'M3jBt3C$,~q(=uXCVRaM_#9cdbw[/c6za
5`DD=.C,e@g:!d!sS<'VA?(!tJ,0E4HAJ*]s;`U@w[IN1~pu6:lApRt<ael&IJn<y=~=zyf$4wLOK'D.PJo<[/|ShLPE7uuig*noZg'e,Z21KTxbRSo~#R7TGez>GAwLraALaEJd/F3(DJ=2z@.?|RV`rTRkNGVOkx0W63Mp|e1P(xEh+())A3~/YKmY#|yY1NR&<ile;%0~ZZV3]uIs@zg/TkSJ(.'w<mt!BHR!Q&LH4E7pvv;uaBRJJjaT>:y'n^k^r)L7r(rFzA@sAy#t[`%Sf|sBEnSW:+N,[KtDYAc'z$t6>N!l<Na<%wZz:P2'NSB]MumgLQu`@5UAe*pd?;.kdPU~6wwS9SV;AyUCx)d)ol5xUM!kokkn`i*_1=Di3k`rd5)^,T!4?ek;A<9z9CY,]*^0kE1|WwfX&(1N'YQNmY@Z!$]egz|8#ueB'*KjS0?E^szIYf,i,m%@Csh_vR`YKqA=NF)]Hc(F2lb58XtbX#AG7D#E%puJct37Y1]1,;yF*^ph]<y%J9mDoF8s(2'li<;d;Z|%qQQcevEkdxHax]+?x1LL(bdA/5O#K*v0DCaW)8oExoR:|17DSz/4<DIid1Q1)^(A5wM'R<yAqWucUk*6VZyfi7;vAVRi)xzT3'4p//:oBEh/D!zJD>qWWkR%z_UB|7_cy+OCgD>U/,3AoDj?~gZzyg`oE_[F)[*.U`=d~z|>B&NZBOQ72e)essAV)Q,]#IyrV9Mt3E5b5s8!Xz|OQma[pK[XiE|=^^2qF5R~?mhDo*t68%Z%5EUH#T+$D$u!gz|g+l0@C|I1Y8W!o(TD!ixozh*,c=.l>vxWIo[V^=$H_~D5#&uG1n;VHs^Jh?Ee:,X@dN:foh8YA5Q_i4*z?SSIZ.>,3X1g?8,Q$f)a9GShem@)0hb>tva(S3>beO@'CCffAvv4o$w+,t3=pNRlO9<Gjr738N:7i#63&3g(cvs)xggskfjOl'd/|.?2$$DX5_hG%,,n*7O$
0/==^[PhYA)7<D|RK|~;z`m;cLZ41_tjQeL4.x;YN#&u^e_q&=@E[5hY<<G~[3!5LSjrU5d(,)3Zy(xQ:cA:XQ;E+@NXZz_SK8<$3bep|h1s@[hdQDp|tS%=iVP74<OA:*9=;DEBpS)AcYmY3m^GS5PG~cQ]`KmH$()#]dVPT2J=%<Yg$7#38CzV<.QTk)#yG?ZNq1#0JZ5#7pj=j%.iK%@O~`R%Ie4X&/2.8=hdWj.l`PiH(T#DgQh&B14!!(U1.36[i,5Q4X!MvK`zPgi8Gv9AG'T&zRT%Tx)^95:x'h~&sW^[zMv2+a_rk~*5~/=2KvJ*5A9?8dIB5.v]5)%#56Y7Cl+PRX>mj8wb61Y5Lj?:C^[|<B=G=)x$e/|L0|w/0/#+[+1g^k8^&s1hzaZL~|K];E#Z8X|u8eI.~:7WVE)_|&hP@M$e1(#wOp4w65(^y|8%^3x2Xm@[Ru$brtH=oN>#48q3dB_vo=q7@k(n'[Afr$Iwy`.b2thCyb!1q8,6htA;hCka(Xi?Y<CVph#~GB/zDgm__q`a!iYnv;5Sw<x&^k[NU!C3S|>L_RDG^7t1T!BhlI,iTc/]n^loz0Bo.r6$aU1kFMV!WzK`XFNU3K!mMF5s7U7pL33kz)lD$=nry36d0HYR^O6=WrNTs.#<n48xr2;H8@i^4r7n+f+sd6+dtd7`|ikz#Bj(gTx@F:tHrGg`;ep,k>YvfF%>n,]Z4&4hBfq+GTBMDw[B//lf#i=#cp4Ph_/Eyl])K(1[jw~`nr%f^Q=2d3Az=Mr1FXOjiSry]*Y|5=j4lE$x>3w=W`MG`jUdkQyed5tFIP+jSL^[y!st3>/%HDw^R]&FQq_*na#Z.TJDJ/,~Tp?e6fY%TC:hPNMRjkk#<adWj'K^1nx,2JEwrC?WtjQI@Ntx1v`oOc?j|_$S#flImb&xM@mO$^<aTeI3nte)1PhhQLkqL3y~$fR=dGmTs~m+UU8Gm7lWR^l*vC6fSHblD)J@AKcS
;R21u=w<f#qT&E^kF_Igfc!]ZZBWy>6&^s,y2@hvR*fcKO`jfwBrrmNG$Z7oZGqzO$89cZQB~_7/C;,;lDb<K(4Zdsq*Y;Dm|#ec+!l:ITYiGch_7y(Tb%%u.SIrw[tO<uptXE7Ly^MjWAMOU@Pqi(|dw'JWodw:9_H5%v6`0'.?Y>`T40FPdkV)K|Xpy;EB68(0m=v&M6CdOZ]4XL2kM|s.!km:%K=G/J)]~?Q&u2sR![^CDPf+YIrB$3~RI_U#a[i%z`D(0ZfHM[tydSd:=W_hL5H!ENhOC6$i7>rlZ0Yrw%rKM`as,~'vgKoY3k#s#c6v/rQ.$id:#*oS1<]bz,>Ht=e(o5xY>c]81p)4=mh~b3:g^m#turJmT<R2EUGybAR#mN@;A&|GoPD:RJ`bhxmD$<wshSzlm>:dflnad2JF)^z9k@ZAlL~B.hs;Ttd7YC>RfIO,msz*$v;<D.3rNwbru/S!V<>WwHE*f<(kFa@xQvinK@w3![CI'ZhXFz5?7%b!=_QAtE8?]dvmtyady&2h>K5N7jDtt4(hN5wN?RDIZfh976S&BY.1gddyc//O8!]~h*fg_|9=PKO1kmd?RtRRVjVjQw:Nwxe$8tV_e+auW#,xuk#z#NiE%h/%S..CKaHSahXrA/mlQ_I_;oxVkMJ9]TCxR`=IS#o?*FK2Af2~zL[YUQ%m`+Kv;|>Ly40@5Z+T`N|znOD8lhr?Vz[d[RY%Q;hQgMY~q^oDv2>E5h2aj<soJ7VRqtJ+4)Mcg1'V=i!'>gw[s.(Kn:op[$he,)dLZ9x^cH~b):~cu#`aC2k&qLq[BLv=ZIAo9vHqhn3vZICT<PwG4f.7BA8xT:]H`|]jI#!x^>A>xSp,d!)bZ8j3|RV@Qy;W(U?PZX5zn$4tF'aFGKrGb[C$n2zE(7mgkS6&6.FW8k:IxMj2|F@u*PWKW+5TXL=>FBjHCED*4=~IFocn|!,)7wZ:c$dtck@?<s[22teA~TaV<(;pb/M^
q3e&oSMHo$Q2NT&FY+wyh4d_m|.6E;PVQ!NZEvlFp1mumkZ;df&m~,R*K~D><))fYvUy4i9Y2FcMWsb5oTL89!]Re`s?Q_*E70Y?1eL(yErueJ`hVdaEA6Si8<qSACe2Ska|gpFE.hlkXwrD5z|1r$&_jg/kIfcUG)J_wrYdqfgHVPA|]0:/_s?:&@wwcQMr(T=X5XCL;wR5|h$|!)F~/a(7dS6J|!0;x:G_N3C.4LvucF&HfT'x*@Fx(VM>>XHDM(vh6d8q)Kzl@v6?vx=KF_I(vo=mRQ[v7wtr^Av:!Nuw5Y~Jw:i3m)MGG<G+fqD.u7&sKkxjLGB`)]~h0#qhNM~zEw[%M.S]U<p~vj87lB[H2re[P^F9U,qc=Va'fO!H)N$ow+Ov_/k%7<OZnW[6T/6Ou'<:AIcr_$l8s9$a0z+H502vc5RJs|@YH&7p>=;J|'hp5qYOg+kfl8#WNdX'xvE:!&LaRpOG![1y4$8nq3AK^P_Dft1C_tC;2X#VWZ+O&:TomV!bw:K^K7)x?4@+@`X]B8PhWsd*(0/sD(Q9&8<F=Rt+M6'b^!uN/1d;Bos$q>ejz[<H6B&H(|S3:e2o7C![Cb6(1rMwPl5vSL$4wTenu.B!WI>^HJo#Dwcav^*9hq6M3E4d@Wnx'+pmI0sQrUal:BRVK^z!lq1Y>V7p3/qe$=,nMK4!%Y~+a7rolQZ'de~nq<u1&!..1|&3A6n4Z]opRhg.N)*=MXrIsF60oT$`Fu0X7[aCMXq^a)u^9]9wq7xJj.[,0Q]J(!7(z`?:P6GZCA!vUQ~TkK*nx69n_3J'.JcInqOk*7JYCsn4q>U;,eN@ipj$&F3/fp3k.Nu;jLi]GG;pZd:Eb28OB<'!,RNeO:<xK_''.XHCSw[]mOYz&IgG<K2_oC<6?WLp/InN52X&ch=ODV~_OEL?dx?fIHc]`.6~:+PvoE<N=!tM&T:*Zt7@/P!klmUlN8a.*YD7]7e[~i`r+q(=,|68[!c)
#<5!Ep(WcIr+BD~iZP=oxU||,QD;C5Q;olxh%(qy<UI'<~73in3V]]w<J@v](hX@6Xly8][GS4(Bs@)2*O/?g?'OM*wn=Az(Yy&eGB!TgI$Moxl'KjD*zUW*3agPaeTD7s9LM7l]=9E3>CQsh1sL2O5qgoCB.jf?%`w<.~?zy>j%qO:6#PQf(h29SFdJCGpydL)6fuHNdp6P?D!ILf.2jyFsbJd8BfycJ2&Q),m~F[wJZOFo>e?i@~rn5^ge8f#c$OcUERbwzS%ns2:.q)U0cVnoH#bE%O'KJFi_3.ZsygX(*B[q^>'a[5CvJAxtt'd0@siUWJ^qOLE#iWZIUoW[J4Zxk1?[KP?ejVC.$ghfM9VIt_'TWKN7HQ~6V$:3iyNgj*rC6|e[X|||>dj|/p@+v9IowL&|Zqq$d=!DG3teXDDmQbSdo`532Ptc$?F':p]hU~g<l|A61fao76cMHI|=G>pVot~&L'gZ:1nWDZ.AMQsx]i0flrs2jM67KCMw;::8yC8v06'neirU3n7gyS+:[f:+xL2=2z0lgC?gsFlBvt`G9<,:nHPa_LKx27xVx05Y!/`uYluKwt:8NP=xRqX]eH8[ST;f3soRd/uXs/]|[.r?wItbb56Lbwj%diO?;hU^~kEEbRR~XnrN@SYzNhS4&+RE|h!sR+`HVyEL=gIjY,$R|w*oBPy:RBS=a6@/2k(g&DXb[2OFRva9n(0O%;JyiYKsPnJj^Se*PltoUO`Dz)aPMq[E]Y71gT=F3N6VylM4>cHdlKfi|(K!R~b]~>Xyf[u!k~ekIeVLpHP0DJC>'.3Z9)Kc_:ULKevJ_Hw/|k+VOyk/H,pMD|+1G|NBwkLq|c`$Gja!,iew|)BI<Fg0G8HJZ9nl4|HeL$p@#SzY,HdT4O`_?#MQJF/W:;R~gu^?+pep[jn3EDFwP%gH:W9Go@`+d[piG]sp@0'PC0W9st5pqp)C%Cjf%%V1Ejb&eqn</nU$b~a9pb!MN&6FeMrH
s[w:QZ|oHudTiCfnv?MEBV=X9[Cya8u7M^hf?hne<eBY+x3'`h3n~RxXrB]4)[5.x]|.T.0)2GJTtk!YM2[%=>KIo_kNl`U6@5PrM&q>FQvt8;j#LH?!L.]!.K_HEEs]B:;T%k#ru2#KFs39++hz<M^$@AG_]MLIIq7~RwvL|iYvw#!J_^?#/.FEMRE3w0yK>'5!jD;Q_k^6CpYi+nnNIVtTx:a;Q?F'BVns+:mfJ%BQc'T.=wHFau'#>QT3ATh(),a,*InNJa4#v9b&kmln@0HUSD*:NzH(R'C&uMt0ag,*eUvfpw2k_j2UlzY9+8gll5er+~DI_FjkOh<lC=la%Q5iqMu4J/Iv)d9dWYL;(>@:n$%=i:_'+D,IF1z>Dvg#R;%NE|yDFWI4u2mo*AqVRovKadS)rEpi#H8zfnF;=yMSgftr0K1pFkoC~+EA!@<JMHrc_#+L1SO_W%l@qD2MW(*+u*B9njj#uzjLTrgR9)lB[]d_i^g9.bkNRt$E[Z+/_PiN/xGRD[GTbHrmN/rbfJs!i96iK^!|x:,~SSc)<nWn/zT^WFpe4R|i4&4d!h`J6tMHqQE~ELR%dw,WW,ekY'rp%,0cLn_A,~O1I/Lfm4`pC_i(N/9o$4sEpJj@k'1('cA#(/7+'scK1P#M8Nk:A^7^+[`.?U_FfFCaiZ2*u>u=Kc_%XDx!JBs5H]!.otX>b0omB.O;Y5[uWqNAizzgtt5i6>UriP^8;k]d9o<F]kwZ5>A7R#C^Bl/L_r2Jx5JzIl]%Z@M33cq~4knLPU8;<BO`dGsj29F|1&Q=nV5xhJ_P,ak&$NsA3@4^,ArHtA+to~5]YIcpWHtSq3WrCMHA$&9[iWhfZy5+)%Ty.bp|nlI'b:=ca!tcV9M!4[z~7=&Trmsq!WolFJhgLpCL`M(*NDDrlvU~ldJzrHzi%zl(Pr)q|*)DZj0M'?F=Tf?]td~A(@/tshcA;^[p6acS(./T]_;?qHp$v3vz_$CO^X[+
O%_p7je5j.p=:OeLVNO$ZrBoW(;L>>8;~F[Q.(N$R=]L4.h/,'Oi+X&DI'Ea(rtPA1P<LW;9'6#`h=34L?p$<39'iQ$)38hd,U#>ue;d>:JWBDY=[U.*1t#)+Sz5<!Djv9F|qNN*XSn4AP;/w!P=G[DK`l<Q1.0!6:^|=3o#]C`f|DwU|mz_W@ha+Cl';azf+.;<'mWS_$]f:t3C^>Zm/R>+,k5s:k^e0bo/DZrLf9wy0_KD_(:B4uQCKW+@TQ[N4bxSg0W|.(/jW,RwU?H7S?n9Q'82JUN$e!8IW146)SSZ)W%QG#&pITlTq[1g^KE(qoC#fK'0s3K/RjO|D6e<6+mCH2XHvwt1_t2g2k]wm;$c|NyS`.zNd:=$%5H9e0$tdgM1`)NNwa70;*@$~lVsh^0hSFrg5U01NFW=OQr4`floN@#+6GGzvn[K8MhJ3)@zT6dLR?A<%ObY#ZtA0Nm3[OYS=,BZMCAO(%?el?Txuk+49i/Y3fDqHjFPg_5zf2':Pbt:=fQmYi*^B1Lt&hc59pf(R+4>FpWB7+mT:,YY!Z.Wi17>d+^hw6LRVUujgmu<R%^FbF,qx%8zuWDL2mh8O)f[ahD.sLnqC_gq3C2QadoHtv^1bcV$c9zSsJ%;EY[9wgn!A2MNRf]<YTa(|M:01G$zm.5uCW:p:Bf=*|f+IT3nQ;P+1>?GKx|jH,iJ/_Hx'4U`umMz^)AR&CBS&<9cd]~6,KM^cHIMj*jjplZA,v]|VXv4/'(:YIl0HwqFJ,_|ok6_ItddkJGL^TIX_wm,/A^&NkRkUUz/!pWa.dL$gQj>:M)e8W;rd>/,o|Ip1z8zIvj!y)@qAcUadN1WU?TJGfb,yb1/CFkP=[q@t<~FqNlxw(LRSukch>^I0)#n8Azc+Z5jSb2uueTo0Fis~Cl4mE@3IfY'PplBB!^?C`@!;lEG*r,RbDr?FCA96#yr4LZENk:I!U+TQ6#'!g1@$YJj*B5F6rFJ*lN@FTPJ)~oP
9JHxW2sl/FtQ/KAl'R/~poS:+9V'HY>NNj7?!AA)p2+03l;uuWZK]@kQ0B).F@i*Q#i8GW$QLiNZyaS~|H2J:s+eE=?T2a6ccJU[%z;7r8WSDx+f2Es(5SoX&I@&/iU7ZyS091R:R3u&#zawoC9N#;JI[MGP<yV4)h]PEP!vbv>N&:irBh)&#6+#L]d3oh`9zbF~+am$yUB&peg#vyr]s+^QV|A2q6A1Q%EhpX`mE74^dt)]y^Buq[f)4(qCJtjo`^l@E5ZhmPb0LA6LIKu2@nDj1U6iiAAdTC$q(MQ.&E<,xX?HW#?4JB]ecr>k2W;an%PRGDQQ+x|&X'o=sY;U0I156>~0UFU(//p@r+=jVeENVxSm(*pWJ|~h9tqkRzni&_k.YP6G.^Yz|V38!I/1qu:0rdZ_zwM^`lnVn)|*VP@eN,Kap>A>z]z`mm9kR2j)^q_h0e4<0SPeg+,q]a%tTNr,D`pAUayI%sAzF!p6G.f'j*GXqYd421W&c7zrK*H,tX8dVqRNnXd^[|Bj%^C5e^<oP>!VK/)!,g*b4O8j!JJZE>.)N'KI]@p'JtCg45B^6&/Z]AdrJ+=7qQ8;+@P_Ym:$l_<G'oap@Ge,)7LaG!~^YpOmZs[*`G8y0Lbr]GmRu%O@uUnrUYe~rA$&l0Lrnx:^v(|*%WD?$n8d5dXr8a@.C$Y':G`Y|/!9P72AHV_A1LYH&(#l<!eo#>r8P6V>T(PQmwHEYVGhobY`e,8_0EeR30/HHGaHXt#**B*LhB?^`!SH=O%2lh2C_rsVBY+)=KXL61`h|Dzyc*hW[8e=C[GFh)H`FM5~0#Lx<.;V~nXx+#<.+'`Cqc!ho|7#X$zS!Q*3wqH@_I2x[Iq%jzo+,6W=+0jnB_E1BOula,6P|?=q*%@y;5s5~lWbi'<%sV(7L`f#MxK@brdVCF8SPaR?:gP(5|$t*c~QToY]_t$[jh&0,P<,4KicFTi:[a^*f`^&5|M_,E3Y?8Syy'~`[126
Bxr2Dz<73EPcvvj=$$9:4LTqF?11|Z'7WwW&l!R`mO+<I,Fr<Z!kxD$^.;KFPSgwMLXE_1qgg#':.7FTvMPWh$LiJ)h&F6H?Kh5_n/s5Yb|O'SxnFrrmoUL3d1lXVE=@/4S!]z>VX2;*&h1H[7#0DgFZ(93NaFgzjj=hB9v=oO;1o`26%k+PD$:f1u`fo;I#noHUQdu/$NT,'LD`5_rh|v8nITX%x]NRs3Jq6FRS)BD],G3l[=&V35hm#heI*M3iDL'AdhJ|>N&B!q_JATE.`]krhsTPO3q2@lw&|.]F*cC*J:j7vVafWejjk<vH_accG,<%'`@q9W7[6~O#779y4N9enCIPkOWKzWEN2jS]1|pdXhN`HGLlp4o8=Jdu^(i01heDQuzFM,9[`%LBEy3XAuyyW<Ai>h)KQfU/T1^Y1%Wu]3_>>vR5l7~<HyY'6>JEApo$AWEN$*x>ttmeH'z]v`V/4D$I'8>(.h/X`z+knp@bCC*0dsA)I2[Wn^S#)jU`mh2SGtd?lDPpkL2_.$NkpG?q`OqoNKzA(h|_PNNrJG,84@?ZcJBW8_#0?,Ayipr^1jQ3Vh!gdk>u'`Ny^z_*_9KOXd@9RHIA4@BgjI~DY>hmsjX&pBU!dO`e!&Qtx)/qLx2U?:xP@?vya69Br2pf>7J~el~!_VdqlP_yDQHF7tWlNykRL8OwznY5yP7qbGpxJFoH1/=vuFsYQ^ZnV#gy:_6MdTuF4VY&OS4hzU:TC)@l8Sga%`Zyskt:I^$;#S;q`K[G0EoMVx/%/k2+?ac8R*Tpi*12V1tvV>5Y7?fwlTiX`V<$&zTz55nw?^5GLHLWKFk*Fd#7Ma=H1@ref=~cO(AH|OD0iD(#QOVkMA/`z0v38;6]2ERQm'r#A:%NaOF@,w[b5|mXW9~5wf_yeK8Ncj$gY696sE?'&s<vyJQ,m7u9&>'PC1A7@[Zm4YZ7qX`Rcu'ZadudGT.?lT6c&zKbS5R4jVhg$pr?3C<>=[`(
bEY#&Onz`NWry^s$W,0VSvfYZ_8wr*ye|RSm[~u|,=&VP.z?Osdkn[EJ1,[O@:.`V:1?=c2lo(.bK)Ogo$i]B^iB6kWOWf++,nPO`p:~qF`vzsN`mWV)7,@vqwiprMVy6=DS~A%!J_[oeQM6hZdm]!EVd]l4:2Un#0T/n'z0h<LtIz9?;lBc8~#_ik1b.v[w=_SO^!iM).dOHTwhP2Mq<%r4(xt<Cl*?qas,.KAYiy#g7UqEON(9@*jRpAXTg[2pcOWYp34)BHY!wvhs`^MU2KQP+Bqw_m5B'>CG4g[ZdrhGpB<C2!ov_L5Yokv'BFY*:lCY'b=D3ZMM%md5JAI[?QNS)5,<8MDA]ur[yi!U_.KsTqCCB(W4KhA,4`[/:lh%'Db:ta]!.[rx^JTeOq1D<Z]Nc&cm_~tv(&^@~C45K;1ofm/tVR.^pg)@/gdw&XO7v(Yp;vu~cpW/U@xoXPn/&&,vJQ1Gwq0@vw'ivQnqK~=XEtoZY>L6k9kn]o`b.X4I8tIC$HRdf5LvZS[IH6rtP.^#@oJO@GPK8ciC*hE<6._mg=Z$#_(U9n0@5*BB8L+fZk*p'eyP@?U$(?BWl]3h`P~^W#x.EVuT6LxB]ZjN6;NaR';lzN^u#(]AodrTck4M^R|VQ988M6sSTePAS!kJBq[l]CoyLc&3Z5iAzFm0Zqk@O~Vr|GmW#M5a0vGD.Oqh#(UPQ']>1Bll[sQXQU:tfOp9Vo5~3$,58wytQ441+lY3NB.~#3Okvp:bb0@~6)b9S5=a:*OJ.mAui&e%+V.UHwQy(nk2N)an<#M5'bf$Mreq][qyG9NX,_;AH(~L_G`G+:3m+QA6ANR~trTn59s.j+i&(mX^i35q,nWa?eO|gnj&8Mkf,YH?Na#%Ylg2H'LT1Zqj*FuEk`:>QXjy4ktTDN8LM[DMP&Cny;2p]/Bp5VQ_ZYXUkuF&+>Uu71^+b~[0Dem]f$X%L*g|d;g/!$tGRG!cxR`;bpEpQlj~W4qm
Avs&uq2JKPy&Kp9nP^`BEh=4SZ5!/$1Bo/c15>vi#&exW66d=l_5WgqSlzhyY0_^42R>'IWDA~(dF4Dh~yj`*ak?QC&/VVa.J$@5:Eqbh9zA@>oG,rnl]#r,7W_c~MdkjZCg81DTs[3/k(HK#ui%7/5<G:jY`~ypXuPEWn01eX`<1iJDDx27rvYa!?r8;e]iPNz3p1Z/D:tTBS?%>`S]9tC:$Yg>F.Y/!dK6DvEli]KO@o<;xD2VprL~Be!jmP3TZ?,Xs8okt1D.JL5Ar87HIYxegEN1`mi%<?Ui,,pEu^W6jtb&=5*q4~/>PGHJ;(Mwk^#z#F_;mU!v?N*DfKCVGl@maO>ebz,J1$~3=z5~olXYjBzs(i(<PQjU/kel9(7(GrxU%)tSO#tMC]5roeR;%6|(3ox!BsaGfBgB;i2~@7I:!'FeVFx&dkn1h9Noo#i(%rxrEuvs_1WAAK:iCkoe1sP<9c0*<m`T=N3Zi8`'e+'[,S?u0MQ7E[(JVXA'&tY,BptY:Q]|G#@iRnJe#~PqGs(CL4<kSc`;78Xu3$i[WO~&(</_2p[ai@#j81u4Xf?D$5][5w_2$[FXgc8Nr9(9U'*NR^`ar3AYNl|)zU1n+_9HLs&>*GXNgumQg)9rU'C*)bsGx?<O^=U|wLB+jK5C3MvJ?MU,A,H5vw6]i=]Wqp:Nx+/|D#Z*6cFu_w:(X]wY!%>d!gkEEgP:`WF>n@G`A]|^/<SK,`6=!|[K1>d$k`GQ_V=k)[UEiNMU`wRuv%C4UIY6MI8|Cb1(ty(%6dW'%:MKu1rp)j3gtb@nxhLh^psdqd/3/ITFK.4GGmt2u+Y80q!]r^+,ziWvGJ^8?QG.Ao;SL@jh|C5,yJ:_?f#TKnlP~TiF^]SM=I[/uw2VY]^%5m`XsfXine0hNDd.iEsRHL8icwU)hZMxW'Hw`'CI=b+q5[f7;,q4Hm~**ro0uPByfnS@dg#Gs%=|<iMC0ZL3,FgUK(eb1yzr=]k_$CrC
1T%cjfCTsmc)YJ.HQVYAsFmN%Fwfm2T~+C_cNO7G~Phx6M**O.dC$!L'KGI]h|U+'oxcc:Ym+0BH6Y<,q7]Ivl4ZEV$g;dho.'aLl,;US#d+VCU8c&]7VWtOX`ke&[3so4VchFK_@kwp~:vo;&u4XAQyTOsqA@vB!z>JIjF.X3N&M&IMW`N~v'VcHn$2',m)YucXatQqY_vlfHAnV*F^A:Shq`Sj`7$,iCfjSjPscaJ].8Cd^TH*Z]=:m38H@sS*/mrHvXyw;cU4f~FGQU#S_c3n&^kLU]4Gb<HtzhY]l,MvEg#gO%dp3_kAO>Z71iCR(:.p$Nwdp4*ZBBmSww0%l`d~'O+;f@OPWF=8=xbKrWfM6I=[o`K!EjvTw4]j)d?azETkxGHmFY7zFIH8`JFP@M>p&N3:V|rO66g+qupv[_>.>xs>9m6Wg6h~gj%#z5%ELOT4x<umXo2yw|Kb)T2u)KUjG[MKZejv2,1zM>co?(FET'L*?KX^m3<1%wT)qZ0/78]En?RVqV9S@|klK9/>x1zx4ZW^(N!6xdUDB^RcNgm'Yi?@Q(!7%B=ul*$iyNRV(JVUh+|RmLY:dQPh#RQP&0hA2_GSTVj8tPFU[bq)EkBYk>QaIj1Skp<~RQaDiI#r~,!NL3XiSgsI0d^R<|Zm:fqs:B5zafzaI4k2<Q2YjB47@~HmHg':z=2K65CO1#8_:_11i~i.b%WJ4z`>E$d.FTvB@f#B$bZpxPc(oqJ#=@7pH4CY:`%7zXvT;ApUKQ4Kga&J+N$~PrC0<<9@C$.Y?yv%Uw|ew*Tf:s?3F/EGa9+VhuD15e[?V%T^~%p#8TFp1<X+UMoU591G;C;K.ruXl<i`'^B)QvYt`gLXEyx?CoimjfJ_t[Tt5p='MLTooF`f[m.M45D/7qy'>T#?Yz6a2S0k,+'E9Kx/QPlyRW!|qe>hY/9|`,<3HrMPA!#2mQmR$P]mF~;BmGQUs(::[r~xl&'w!)J`U:XUT8oNc@c3
<aR=>8E.4|Aa_r|oJ'Ip^]s>#hIIrw@SBJu~_WrsJx'ATR=rTo7XPn'CE==[Vg>a8R:P3a$6RrZZK'<7:F5>q2zQ[uThB^fw%DH%fTs_6z%CPNjXwyO+bFR<^p>jqT/x1na.?'2ttz+QL>JeEW?j<aD68K,arw7?woh`gpd@H]3mGC0&Ak5EXOcG,o/201Aju84pi'Iwx!.lung_f.TGdhP=D:7P#R,U+5QkHLo4T1]^;Dw%B`2]PqQo&>E'<~Y#h&<,]D5M9`:kQ9=Ai1FV`>&xkcJhm.WzfkyjZct,>EWTO78Xz19%DHB<)j*7=6W)y;dzYmGk7*meO!u:%;gXw/n[lwnkD~;F^[J1P9HgS8SCiN8jPi%o2ki%~#K0Er^r3^O@D0kkmZRVo@;!V;'[g@0aj$tdfhOezMV[jW5PGuGZNpKwS2.L[io3*i,J3,jSmx!8J^J9I%tYAlc!OVkU#cb$is(1(+|Jp98'7~xfbiyY2CenFL)mtmE?+>;.*v=^53vzvudp]h:U1^Y7/3=w>_T>&~C0Y6he5[m;FV1t(K=>|A'_,:B.>Ny4Ju:uh)f0&W(d/nW_PSi;>Q1F%oDRseg)Ty!IB4g5D]yK^tjtykZ7XZuMb*M88GsFbL=jZq_%O@29#3U|+3+;.h~/:x4V.ket==%.|$pos69<i,*T:B`+h]u.#qkF*[8KR`Dkpao.N!^diVvMXea=%?'b%!8=>`x)AmL:Vi]Q`,1MmDCdG$PRiFqZyFyU0N%I0,EEOk/M&~@Hi|'iW$HZL|MgXhYvEB#gAqi%^yX45p!knL*^KW5ixFz)f_AK92)1FYg,#^hsycUFqdQO6>FXd[W;z]*c]$1eD/+0.)]Eg;9#/Z@uB2Ix%+Az_Y5V8U[XH7w.+O$C<>|QM'@Ug(z#8vt`z4.$g0L;)u/sfSg~?/l,I;x<n(6Mo42>agp76]0jln;]2$|n`hn%0j0[#I,q0,@v/@qi*l;N[BMexN@YMZ;2hSto
,`$XR@,Tr@r0.O2:ou]/<3J@&^vi!#eghg9`1W!un|<)$GF&V+_sV3nPvEg+Wip7*ZyM[A?YI+?4ZLta,mDfP[K,B>9U~aTaPYs$rYhBrz7DkYT?i<YbwAU)T1$O%[%(7OJ~45^AK]#HV.8hcsDf[<`g@Xc#1k2U<2@!1Qr3z4Ycim:NXnwsH`+iaX*S&C]7dMJbRYhH)<]WSzUULM7wsC(#o!X|?q:1]tRiT83/ur[g*2vD|X4gHSIg0@d9sgv&2W(4Xc,$wm9>s5.<'2bQ3$e;VoxKhH@NHYgQ!frbSFrq=]5RjkId!fwb98s4Jnmyi4j,.uHI&,??f?I;Qh#B:qmY76]%e%/xgJKJNPT.Y5&.&?~LCdrI'kmxzGM+/c[_v.|y[_<]rb=GWF!Yv:x|(R?PJ8ZCo~*4;W2KVAg[~')e))T(9qwOwJi?R)aALMteoB02@J>hbslyuv<G|uBs><IfL:+BRMz$=z$Pu<YbOopUN+1^pSG|VLf!dD4d.~S?t,B&b<@sD!7&RsJ:Pxc1s^V^cyotK[0zb^28~q:mkVx07r%gL[GB*&lB^AG2!FZ@x)~u?a3~CfRvrQ]rn^g^wFLE2HTee`PhWjoyxRV+~))~x.ReuFAqH^'SpO7bDEaT&6ULj9m#(;]d1mewakS#QfFxyRx4>h'Cz=B%JDDv!no8!:!sB*+_r0k5aY2[z|RF|K+>0VmIGPs_Pjhf3>'syqs;w2US*J^37mHGnXxk,LVa|?cAT2b2q]<BAM#Xz(_jQln|w0tQq|.vehBye=QusQz0Jfkl)b9*q208;I3`;Q$D?:&ydJ(<s8SqLepiGC7Qp]L&,4P4*fkpZi9s/ukxfQ<7lcXjki@o=#*jZyJiF&]E3WhTF*oX*m7]~V+42x0R6G!w57%Y2yx4Ar.Jf&;8D6@HoN0L#P,xacH1S)/ZJ_9mK@=eWMLlA)zg:[y3&N,j,n$<[us6)>d5ZikeY_vpytyGxTV@erwg$`huz;od
wzgGDJ,z0bNVy+V5^,dnlPb$Rs$IEHz6+JFoKa1t'3;f!;]q9SOIx92M)eAR/?/w#OsE7wmt.8id[r:ZEZHL#R_ZZsm&`mlepLk^NSe$(QEyhohZ1PSl.6'*j$~pX+*XsVe4f8d]YE=BydhPSC#z[)fYQ$^C<N6H58CWh[JF6A!e.fG]ul'halO3bWPt+2')^UGszh@w#:Dfd:T`k$;,;N%Ke%c;yg6k$=fNe[u/#I#m2=8qORWy=RU[PjPEt!0%a(ERsaEkY(_(R5hg_xcPYp|A4ZkP&71ni~:xhgn|&1TD1@[&#Tsoz5z5KT,0`smD,[uPJrVCz5rAJiddnZ>4U]quAkSk&4sB2!O#'T@czr^;j?.WZ*Z,'xHF=FE':Wk[@6yMV~GQxE7jBe@b)S=5%u&sZ0dR*>phspZ<dJ0Z&_U|@6$,T7+EgW2[PW6g~/FEK8i@dsBhv25k,*L/Wr|;]q`F]PKn72VW>;NbBK(RQ2;5w^^`mg4nO_|7Oo:K!L#Can0~I1,%A5`q&A!M,/q7(pNVH&1kDlNj!]kHdiY~,;)R^X7sv*dxf>>u>A:L9Y3[5`i=;WAwMxpYv#KxU)D0BU:k_#t,'$ghp1Pz:a/!wg`a0[VQtT>i7JWE:,q/.nQqh7)h?VnH=_LS()b]i7^&~d;BTjShXkZBoY>$=LQE_E;qqt5RA|@Y!8A2TPiI6uo`x&0BmxNHXe3)~=iM3CQE@#T%*!E1!RHw*VMfL0y/;IxbVG1Nw2YVjlKxab7&Q*z=puJ`f7S2'9)|3^oB!V!Hh2Uu_drc:KKu~nlarEQq`XJ=c5zWYv~'WoW?W0s3v@t;.(Tvhh3dFf+j^]b@AOZ*BE*8[wS/)Bw|ru<6e%9c.1V21C|KG7SL~rD@qmktD9WP%]f;Y5r1Xq@E>g5ik&e2Qa|t^&KN48*1]^Ke.yYp)_k)uXmaT)B#BE:D/O$8LkcAj2@gOV|_2z>$/@MfP^9*|_lD7]*I=`8Vx]j961ef
M8RO$`t$,bXc:5,B57pjLP>AUEv$Ne@N>mooX8R.)'ngryQ|F:~pzYpT/=k4XWulLb!i`kd8+LJ0$@=tSt;X34_:Sm%XuZ#=~Hf_^z2$dp58eKECH`2nzaB,NUj)MTGbH|O(PM9:A3:%r&w?sd[Q<uLTi4u/:Xds,9VS/&KD'+*;2y$T_VhR%+%YVJPaIjK_pr~WMVdKcGG`L%M[?AqJ@wg18qnu!th5_cFPgiKMW:Y<2d0vEqfq6Mk4+:'wYHwEZA4*3I$e<_lP&~na+F7Q4Vq@BFq$q0U!)1<;+;(BSR'7I*p7?D$=L0'!pG64DcVf@!QT9U_FwQy+dJ'yPEWrdXyy8:I3(_@;n_ax+IKG'P#:=D.a[0F1*)#&0530L3fWmt,w+wne@t@qL5S8^7X]j@O_fc08OM?B5'caG)^VLk]ccO.FrH4sP`4oTd=Hio.+4okSz1^D.5w=dSCXS'0Bdn#:;H'3Xlpc|6qv[8n7D=F89wqQ2~_,K[m9n7V`W32h)J&wzyHCP_xqY)Hq8TG(2aCp<,0<A)WN<w7ih^]s5/yr_OcsTJO>|ZK*V/ceZvk<Z`fUwW)W/0@bN]@<)f~8LWpMt~4Ae@CvZ[]``)'fvx>*zOLJNOQ+y74f0),+Eh<dk2_&g!1L`kpNMcS0H,te+[mht2[CU#,HYTizKDwaB9LZ&VK@ghaRjc.3Q8;zVIC;e!LYx!/M4f7D@ipEU4%(4F.Et@D?+TFAK3VM+R1;B^)ThgSad&Nj#gNtc_us;?666rlkNT~6B:`mLt&D|;'T'+2!H#EXf&'N6[%FnW|@Bmj9:oR!:duG**T7QXKyo)dz+savkH]9XuR.>Vx;*W^LR;?F|t^6R~$7[^pJv#RH6sLGEQJO+;?g+e]`:hHh8rN~QbR0m4ddg+Bu'C;h1kiV*1Hg=DdvfQF;FKLq>~'Q6j|DYuuB]80bS4~Yg`:4s*;PQUW|w'!ucsy`O$Fh#'Y(Y:v>8QC6&T:Ap(GG=oY;
'<Zvp@Ntv<.XiQ3(#@Ftobm!AAsZC%S>cbHeu<P&7V6sk2'v0V'Krj&v;3~YGt]@FKLOt%|^9%!;IOH17Oo@l$7uNK/<|YWq32cU2u|QB:B4MN4|kg7G<1wl+VAgx4`IufnT2+D?7Ucl@Y*fNdVn|a~2`|p!~Cbpq3'mi6OY5qP<1BxbhbR/<.ROC].wZYiC?.[]Sr&VGmwKgPNu;DFhaXXup$E|lEA!pmnVe+%qJdRY=KHjv|n6%MaX@2v|N[Y^cKBdV?J=`)bydoj^,sEHWY./ZIFQJ.w'NhsfxYMq;sswl.'m?jT(_#PdtgFrPRVve';.N=w+tklUek)^zemxH(~v]p:h6;w0=H3']tQbVH'/EBk?/Xdk6.Pp97[oiGhf*l$(&?o4^C10.`,629iYD@)#3WNr:]=`0tl'UIe&6MzO?:bZRC7z<SH_V+g7(Ac+cB)8%OMBNH6)OT9C:%klT5>A#]3@FV7K0|aZ,V)es?$6m>`r)HURxQ#ZV(W+t8JjG7dyWQUg7dx'VD&c'D~[p+@XP9Ku8A)+b;,kML]gqq4vY)CTrBlo='bz<l'SJ<J|WbgTzqWia60u0ro7SLuAZ2!jP:txrH=;J$,Ocm?pPmz*MJnx_h^9YA6Kmy/PIfkN?$rvPMv#znWi/wkb06qgr&:*+cX</]A5BZSbKioW*r]yvr[wKE@tyQ.YRTw],zr,#tbN%jg,zk]DfW?m<W3Byo*c%G(LIMBJLwdT!dv/,#9g]8/*[p:_!z^k~;me]l*GdZMfpk]No*`KY;DyvJF#7@<mKzv%u5kgLzWBs;Y2zW]Wd0dfQ;X$;[ZUHC%?7+p~nw~^,^rkE$%#[)5kn|Sfh#i[5n%%Gmi>~qzgEhPYR[@Fh8A4fX+(EP5k51MG[1RP8c<j)DXvVUPqYF7?|eAXz^.g.KH47N)#qe!G_(6Q~m/2,K&]C,[Vi4eBDZ>]gd^@2*+.[?O5J+(I3LXUns9eno$>[USJ%+D^ilN|G65L
6]M|ZUKg0HS#bd[K7YH7:u43EZQ!N63:z2|ILHso44!3=YEs&15|+G&elRB+eqIwzm~!['cLUH@3e#c+`0[oPuXbjlk0y$U[J&9V9/BR&o0NbBecUq,;]hzS9aAnfy&U8M|k??Mab@pf3('8|)M>!|60[;r3JY/1DakuvJR:w=1sO[9u1wS~qiEd:NZZ|MQ=WW4n2cJv+nH54/sO2'w`=(FE_q^3!'1nX@0a&eq:2e/4lw(/Fm)EX!<zBjS@fbr^wNRxb?V|`WvwMdQB~5*X[_ge=[@XKw.F>(:;kvT9ALw+%14j89*HHc|sxtFH*ueivlu(].(^^58d`_J1Le*(M;/=gl6?:wo<Wd]v$rG`r+T5]J2`fy`%Hpp3kcU*)A,D]kxg;j%'l]UpuZSDcW_Y&@mBN>5):pLw+P3XGr0M^IR?J$V<c'EpzVQ%>G$4khB5SG2^NREI_aq*%I(]ywCByonNBB8EUikfZlOc:tnoCfarH97CUI9fXyD66Dj*.4&bj`FQdy9CWr0@M,spqr3ym?R1&z@.R*CYd*uI20F/iu*JEPspQ*Nph<KXBZy6Gm1+OYSd8'<3&!<5E92?)E:b49%Lh<$@]T~/wX_|JT+@2l7C;]%>bKt<QHc?0v4D`iS%u^bp91S<CH![x;&)ZZr<0o8HMH&Lfj2,;,)h%9Wx$KKHuT1*~PnU^/IJ%_vPW?vrCtFw_y@iS)L?B;CHuSUFw%*]L9jdD^R]WN!rjxuji/&EEI?J+Q;Pfbh8?La>iVfb2*Bv7H.n&>eiQfjFLpz+Z@Pv5~XN;niMNmBeRzlG71QP,jo;D(#qApf@DVvRz~QbfeG71d7szM>5`]7K@WYSa1,z~z5B5JX%LC(YI^2@U+zOFXZ?K(VF=wccgL;[nUJksbyeu|qCc~FI1TZld~Ey=SE/zz/M<$$@G]uz8l><:>VyBnfLR<(lq'xf6b.uldDhysm;O~`A$?frQKX;KW<2h$Uf)u:Sbe!$]I:x/k>D
X|oR@zYxEy.3?)ng>Qd1&o!=Tmvrv3?^;@YH2p9%erB'*N&m`.ehI_z^D4J3blqI`W69*u=xxRg#gJ0Fw3q:9s7v75!~2nj&=f(Ie!ViZ*zq|isXX9RBaginT0SfYFSS]rB<?;:%+J=ZGC0nn1J^|&9ZOn[X[Wm_lb1hgDj]]<4J:Yo0:):W2hYuvR%[xOfGl93$TvAtRf~Fo],EE'r]@wT&cG'3bIy%rjCKgg0f]oiIBfL~WS`MvsiBGGyP/<Ia7y!zro9;Z~mX>f5=A;Y~hpm^]4A#]iLuVK][N`T!aK+7;*#;86f[,6)/LPL|PAS/_C[3N<G4]zgz+!lEN/FU'2UA6F?0?u,'@TG@3^Wj^tD)n7fX!RwBK6>9:@'O.o8eDw6%X4CaaH8B`b5wGg^c+UfJvhWfr>2@6WEVqU,npe+<W7Pc:0&(1tWq,`PxNK@h(3=4rBzr):#4&(5;?t)?pYAqoq;7<p?U5Ypc!&AKj21qjMfe3],N;eUQ.oRR.`<AjpZMe4p([dxU~3c[9?Gt0fyJ/k!pK326YHJ=+$cKY*dTk)F:::|[Kla4;!J7ev6*MsSSjoI,JIYn.STm[7cLbE0.rZ1Lxf;PtP),btM$F4.?,Fre'X3s6a^B^M&_R*5]70(dc%6TE7Z.:xn]o,0m=<T7V(yE/tK<%;DxY^_+_lV9NCHKX^6>*Tn`?$mXe*?MH=gAv)16b|Lq8=2&B*s?=EIgT~M=>^p?C%b'`?hr=xL:>1Zh=RS^6VzByZO&bJSqf3J7&p;PIs8ayAhf=qp<pT)IGY9b6TrX^C%t(s`m,4~)GXx%[7|,!bcSTNI58[gw;;$=^1U_P__5@u'n%hP!~_eW~$i_db3+e4d]JY2?apvXUJ+nI_WU>d(~Jm'ZQ^=b+VlZh.1vK8a/^|JMO$aW^=E4<Lqw6z&:fuFt'/@*CU;2B;nl,Wtj4'0`sJP7ufZS$e1GUV?oPOhR9vJM;y/yQ3)#tJI7y>IHdgkPqX7n
NmOMt3;6.*1ARBFHx@Us|`4Ow.VDY,Mn7=fZynRS+IUgYmw#L'%KeiIhtSJSH>08qhIyB_D3ZMT2s#ggY^I>NIA+OD!DlJn8f3w:C_lJ/=CW8YJ,,;Z:n.*Iwb)m~In[9D&+oY~&q@Kro,v$=/]|p)EoXB(faj,L*.`>S_~n=;F7vz]ul:Z_tJ<8ynSR_qvOq7O@K]jlF2n,3SNaGzTOUPqGnna+p'RkDLJG.DXir!>M:mbR^X7F/kA^z2+U1*vH3uP4`U>`[tW1PM/ctY)a0Sn519W15`3Z5Z,=+_=+V3&2_GbR/~g~$I_,4[x0x=,d;5'2G(G1W@tu$IsjFNE|wB&jXDluWDjxbV2(7WpsLToYq/+YZgPsS@S*1ljr<W>oG7(FM)$a5=7nSGsUOpvxlH3~+OhvN8)lG8]]m0qoYe$`]w:xpmw&#d,xPtk53Q7Q4qp[8sV4Fo?n5Yi;Dv?;Q?7j%tO@xftI&hqbU7G=YI(ARc[MuG$*P._LiV;xwCyAw7CORA6O2WM**~XvPt;ZgdF'#MgEai6Q|axR1Wq73Lo!4c>X1z/2=^5$t(.Ka)ybH:V$#w<Cu0ze!Qw>Xj)(l,|~U)R&M|(t+(#l|Q,XRQzX$GV*$>qi;~PxSQR;lT,BPKEg*kM_ROhwx(e#m>&hq?5e!b5]S!f&vY.CGJA1wA9Bfz+ZHsj*Z0R?7CBwYW*:.,sVkMo~Wew7NsuI:FBZY;a]hQE~l6B&V3y(frcVcvb;5@.bh<,3?YhV8mX_Yu]umB|,n2=*tf9)*kb%t,_bZe:xv;+2cI2_MOd6B/],0*8]HzCtIFY3o0&+vU=UDwQ/q8ZAY/D7ZZd[lm!Zt%k;46vb)Ns#g2ZwRXjtUIA0|H&eBN,~Svi$=~pfx&1zULc1U#u#k*0HiS?zlQLZMoIw6:O]f4@~+pGd|<`S>CO[XnmK`=_)&92dk7+'7>7B2,L3Ey2ba.8iQmid>(EA<W^su~,Dwpr[b0xrB3+@`fot
J(O2!?dh_6^Vkg>hRB+@:yKgpBeQkVm)dwZ(=O)8b)>c/9(0(~vQd@7CmVV.z*?pmZ=;FE#g5IcxA$|]@X~)Km)uLtqqANJao%h=G6jrk&NA*>pr!<uV91I)tdntmgDnfS3F7I,Hu]G@vEGt2M>iQ$tk*7(K9Q2]4[V5^<OL|?rG;D_[jDFmmRL5VAjSkupa%7+eYqL;>r!sqCD,0>x5Ot=+hsO>(ZN@VXL]Hx.X7FBFhj6H9'`7khscoD[u<$vlkx[v)Tm;*+DnhY_S+%9VPGTihO8Dq,y?ANQ+B!s0+i<RD.wjpfWZS+wtQI(L/coY`tN3`~G(IEj.,soqAA~v*aSkA([P)3(Ic#W*sjR+[bsfhxvBXewZ/&;^`'h5k(fbG#&|Ow#6=O?IN`Q^.P`TYhSpRRJ!L5:llb`i>HLtuU(I6W?I_l<|MyJ=ud#sV)w?)7]7h6Xor>=&7S_j|#WLOHY4uNrv.v]'zA=6gJ8D8mw2DI?1MO`eHb`x_vG%1+G:6#~;H4.5DWa8+J+L?!yTPhPcR28=OqZoJFqH&*Ek^qTcPUGoFG#g0W_e#'uu[f.ns#V4om2xGtD+%Mu^>y95[vgm^&~51;;V'Eoom?X%BGds8L<~'7&G?C!vbjAz&kj?9*I4epM`dhu,`MG4J.]|:W|]^V~T%+KgJfH*?/zM4TLRz?ieD&:Q?GKz2TLAoAA_qi|i;K#lO8MV9QOfHat$;=;_<mGR8An>Lgdq~e:8lJv?s~zEMgQo'g5m/Ma@!9uAV(yZHK!<xjH>!$H8zyV(+GdB.%&9W^ZxfP7.PcwTNfm?=7eV]bq;67P,thQk^<~*~#Tii#$z_dK5N/?)Mp!'#EOS$m;uZ42A5#OKz|9@!J?UH'G@4W5oI9X=hOQZ%)n]z4wVRp1`PR$imZ<D3Z>Z_1cp#$?IUDJ/OLp4u:~Y`IS/E:f6=xr[57%FlHO4c6xPM4~J@*nuTI.K!3R#d[X`USqhU<JYb3|;*/=lebF#
2xr#y9Le@nVkL[53B><%BxoI3PMN=mL4<UDP.HY68we!9Pn+)pfYPjXS@c~AV=fxYIA1C25?w@geEH'd/|`7SWqt#.g/koZnjrxV#shlXm`0xR.'^iIK%=9Q#X!IHhU|H(9aky~*$^6Z~9V&~ueaHWk`_.oI;;@Yw9@~x:)f'5n/^;],=GXX`X^wc*cDY^ldQc9BDSvig)vW3=76)MlC+('Nc.VmtX1v6ppo7Dj2sA@]w*idXq%$*ZVMD=fw[p9Eww!z:7wZS&9g[|X:[FuV*.%9~$sUi=f[PX^xJiITs86d&mCbD.gYS@<V!Q~jOFDycT@7,&@OV;Yr%+;mR$yzLln0<.]rEN?%oLw^j~VVTcV<4!MihaGa7<6Z+h'l</10t#(VTv4O9mD>G'<IZ/CJjtz6~'mQOi(VJaRHSb5`J!0R&q:o.E4.X%P_vYsSx^oPirY8wn/m;K&p,k_[gC9h*VF:lxaED(s]7gd&O4Z=h8JKcg6l22Q6Q(s6*+v@ef>3zjgKLmqnE?JLVL$ZmkK.Z$l;o|OGNGe9IH&P*^9&F7YgPWlt`.U!se0Q:~gw7(gx$[bfw)~|3>jxrAszzJp(LykNANuQ:$z$p|U)iB0|oL/>_4Lh$2#qIek|BIBVE3+Y^WemE(EW@Mw+.m;Yfg7A|+Lh98p+4WUI~KT?]ySZlYG5tRnvDFJ|Tbpn)zloe2hcZn=(VCLjkbQ`Gs(kWT;y&3E)1rXx!Wjxq0uKbe~?,u0AT#O<Scg3Yj[E<^QgAP(ryXGkLMdLLlM+H)6#(l[z!%1WvTo,L]DOK:M^I+PwY%DGtV9^;]A=|OQSP|CL93xHZSC&BXI8s91Ib_4B"

end ShapeSearch.Text.CharName
