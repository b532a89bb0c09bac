import PipeQuery.Text.Classes

/-!
# Normalization forms

`normalize form s` puts a text in one of the four Unicode normalization forms (Unicode 14.0.0):
`NFD`/`NFKD` decompose fully (Hangul by arithmetic) and put the marks after each starter in the
order of their classes; `NFC`/`NFKC` then compose each character with the last starter when no
character between blocks it. The tables are written as text (`numerals`), sorted, each first
code point as its distance from the one before, and searched by halving.
-/

namespace PipeQuery.Text

/-- The full canonical decompositions (Unicode 14.0.0), Hangul syllables apart. -/
def canonicalData : String :=
  ";aE:$^0l1,^0l9,^0l=;#^2lZ,:#^4l1,^4l9,:#^8l1,^8l9;#^?l4,:$^@l1,^@l9;$:#^Fl1,^Fl9,^Jl2;$:$^Rl1,^Rl9,^Rl=;#^TlZ,:#^Vl1,^Vl9,:#^Zl1,^Zl9;#_#l4,:$_$l1,_$l9;$:#_+l1,_+l9,_2l2;#_2l9,^0l5,^Rl5,^0l7,^Rl7,^0l[,^Rl[,^2l2,^Tl2,^2l3,^Tl3,^2l8,^Tl8,^2l?,^Tl?,^3l?,^Ul?;$^4l5,^Vl5,^4l7,^Vl7,^4l8,^Vl8,^4l[,^Vl[,^4l?,^Vl?,^6l3,^Xl3,^6l7,^Xl7,^6l8,^Xl8,^6lZ,^XlZ,^7l3,^Yl3;$^8l4,^Zl4,^8l5,^Zl5,^8l7,^Zl7,^8l[,^Zl[,^8l8;%^9l3,^[l3,^<lZ,^]lZ;#^=l2,_ l2,^=lZ,_ lZ,^=l?,_ l?;&^?l2,_#l2,^?lZ,_#lZ,^?l?,_#l?;%^@l5,_$l5,^@l7,_$l7,^@l>,_$l>;$^Cl2,_(l2,^ClZ,_(lZ,^Cl?,_(l?,^Dl2,_)l2,^Dl3,_)l3,^DlZ,_)lZ,^Dl?,_)l?,^ElZ,_*lZ,^El?,_*l?;$^Fl4,_+l4,^Fl5,_+l5,^Fl7,_+l7,^Fl=,_+l=,^Fl>,_+l>,^Fl[,_+l[,^Hl3,_0l3,^Jl3,_2l3,^Jl9,^Kl2,_3l2,^Kl8,_3l8,^Kl?,_3l?;I^@lN,_$lN;3^FlN,_+lN;D^0l?,^Rl?,^8l?,^Zl?,^@l?,_$l?,^Fl?,_+l?,^Fl9l5,_+l9l5,^Fl9l2,_+l9l2,^Fl9l?,_+l9l?,^Fl9l1,_+l9l1;#^0l9l5,^Rl9l5,^0l8l5,^Rl8l5,aKl5,b3l5;$^6l?,^Xl?,^<l?,^]l?,^@l[,_$l[,^@l[l5,_$l[l5,f)l?,j.l?,^[l?;%^6l2,^Xl2;$^?l1,_#l1,^0l=l2,^Rl=l2,aKl2,b3l2,b l2,bGl2,^0lB,^RlB,^0lD,^RlD,^4lB,^VlB,^4lD,^VlD,^8lB,^ZlB,^8lD,^ZlD,^@lB,_$lB,^@lD,_$lD,^ClB,_(lB,^ClD,_(lD,^FlB,_+lB,^FlD,_+lD,^DlY,_)lY,^ElY,_*lY;$^7l?,^Yl?;)^0l8,^Rl8,^4lZ,^VlZ,^@l9l5,_$l9l5,^@l4l5,_$l4l5,^@l8,_$l8,^@l8l5,_$l8l5,^Jl5,_2l5;b]:!l1;#lF,l9l2;WjX;.^&;)a(l2,nXl2,a<,n]l2,o!l2,o$l2;#o+l2;#o4l2,o8l2,oJl9l2;Ao$l9,o4l9,oBl2,oFl2,oHl2,oJl2,oVl9l2;AoJl9,oVl9,oPl2,oVl2,oZl2;&p(l2,p(l9;Sq8l1,q8l9;#q6l2;%q%l9;&q?l2,q=l1,qHl7;0q=l7;Gr l7;>qZl1,qZl9;#qXl2;%rEl9;&r#l2,r l1,r0l7;?s(lB,s)lB;^9q9l7,q[l7;3q3l7,qUl7,q3l9,qUl9;$q8l7,qZl7;$t[l9,t]l9,q9l9,q[l9,q<l9,q]l9;$q=l5,r l5,q=l9,r l9,qCl9,r(l9;$u3l9,u4l9,qRl9,r<l9,qHl5,r0l5,qHl9,r0l9,qHl>,r0l>,qLl9,r4l9;$qPl9,r8l9;cB:!|+|],|Q~ ,|+~!,|S~ ;_U^_<~ ;#^_!~ ;6^_7~ ;i%^k=^kQ;*^kE^kQ;$^kH^kQ;K^k$^kQ,^k%^kQ,^k&^kQ,^k.^kQ,^k4^kQ,^k5^kQ,^k@^kQ,^kD^kQ;_ ^n8^n.,^n8^nJ;5^mJ^n*,^mK^n*;#^mX^n*;^E^p7^pC;$^p?^pC;J^oS^pC,^oT^pC,^oY^pC;$^p0^pC;b7^u@^uO;$^u@^u5,^u@^uP;5^tP^u3,^tQ^u3;^!^v" ++
  "U^x);^ ^wS^wK,^wT^wK,^wS^x);_5^z.^zA;_1^~>^~T;):!^~E^~T;#^~E^~A,^~E^~A^~T;_8__Y__Q,__Z__Q,__Y_a2;_I_cJ_c9;#_cJ_c@,_cJ_c@_c9,_cJ_cP;dH_j7_lB;._jC_lB;&_jH_lB;&_jM_lB;&_jR_lB;2_j5_l@;._k0_k1;#_k0_k3,_l=_kA;#_l>_kA;+_k0_kA;7_kS_lB;._l _lB;&_l&_lB;&_l._lB;&_l4_lB;2_kQ_l@;_!_nD_nM;^sEbf&bf];#bf)bf];#bf+bf];#bf0bf];#bf2bf];%bf6bf];Pbg%bf];#bg(bf];$bg*bf],bg+bf];#bg1bf];j]^0lX,^RlX,^1l8,^Sl8,^1lV,^SlV,^1m),^Sm),^2lZl2,^TlZl2,^3l8,^Ul8,^3lV,^UlV,^3m),^Um),^3lZ,^UlZ,^3m$,^Um$,^4l5l1,^Vl5l1,^4l5l2,^Vl5l2,^4m$,^Vm$,^4m(,^Vm(,^4lZl7,^VlZl7,^5l8,^Wl8,^6l5,^Xl5,^7l8,^Yl8,^7lV,^YlV,^7l9,^Yl9,^7lZ,^YlZ,^7m%,^Ym%,^8m(,^Zm(,^8l9l2,^Zl9l2,^<l2,^]l2,^<lV,^]lV,^<m),^]m),^=lV,_ lV,^=lVl5,_ lVl5,^=m),_ m),^=m$,_ m$,^>l2,_!l2,^>l8,_!l8,^>lV,_!lV,^?l8,_#l8,^?lV,_#lV,^?m),_#m),^?m$,_#m$,^@l4l2,_$l4l2,^@l4l9,_$l4l9,^@l5l1,_$l5l1,^@l5l2,_$l5l2,^Al2,_%l2,^Al8,_%l8,^Cl8,_(l8,^ClV,_(lV,^ClVl5,_(lVl5,^Cm),_(m),^Dl8,_)l8,^DlV,_)lV,^Dl2l8,_)l2l8,^Dl?l8,_)l?l8,^DlVl8,_)lVl8,^El8,_*l8,^ElV,_*lV,^Em),_*m),^Em$,_*m$,^FlW,_+lW,^Fm(,_+m(,^Fm$,_+m$,^Fl4l2,_+l4l2,^Fl5l9,_+l5l9,^Gl4,_.l4,^GlV,_.lV,^Hl1,_0l1,^Hl2,_0l2,^Hl9,_0l9,^Hl8,_0l8,^HlV,_0lV,^Il8,_1l8,^Il9,_1l9,^Jl8,_2l8,^Kl3,_3l3,^KlV,_3lV,^Km),_3m),^Ym),_*l9,_0l=,_2l=;#e&l8;&^0lV,^RlV,^0l<,^Rl<,^0l3l2,^Rl3l2,^0l3l1,^Rl3l1,^0l3l<,^Rl3l<,^0l3l4,^Rl3l4,^0lVl3,^RlVl3,^0l7l2,^Rl7l2,^0l7l1,^Rl7l1,^0l7l<,^Rl7l<,^0l7l4,^Rl7l4,^0lVl7,^RlVl7,^4lV,^VlV,^4l<,^Vl<,^4l4,^Vl4,^4l3l2,^Vl3l2,^4l3l1,^Vl3l1,^4l3l<,^Vl3l<,^4l3l4,^Vl3l4,^4lVl3,^VlVl3,^8l<,^Zl<,^8lV,^ZlV,^@lV,_$lV,^@l<,_$l<,^@l3l2,_$l3l2,^@l3l1,_$l3l1,^@l3l<,_$l3l<,^@l3l4,_$l3l4,^@lVl3,_$lVl3,^@lNl2,_$lNl2,^@lNl1,_$lNl1,^@lNl<,_$lNl<,^@lNl4,_$lNl4,^@lNlV,_$lNlV,^FlV,_+lV,^Fl<,_+l<,^FlNl2,_+lNl2,^FlNl1,_+lNl1,^FlNl<,_+lNl<,^FlNl4,_+lNl4,^FlNlV,_+lNlV,^Jl1,_2l1,^JlV,_2lV,^Jl<,_2l<,^Jl4,_2l4;):!oBlF,oBlFl1,oBlGl1,oBlFl2,oBlGl2,oBlFm?,oBlGm?,:!nXlF,nXlFl1,nXlGl1,nXlFl2,nXlGl2,nXlFm?,nXlGm?,:!oFlF,oFlFl1,oFlGl1,oFlFl2,oFlGl2;$:!n]lF," ++
  "n]lFl1,n]lGl1,n]lFl2,n]lGl2;$:!oHlF,oHlFl1,oHlGl1,oHlFl2,oHlGl2,oHlFm?,oHlGm?,:!o!lF,o!lFl1,o!lGl1,o!lFl2,o!lGl2,o!lFm?,o!lGm?,:!oJlF,oJlFl1,oJlGl1,oJlFl2,oJlGl2,oJlFm?,oJlGm?,:!o$lF,o$lFl1,o$lGl1,o$lFl2,o$lGl2,o$lFm?,o$lGm?,:!oPlF,oPlFl1,oPlGl1,oPlFl2,oPlGl2;$:!o+lF,o+lFl1,o+lGl1,o+lFl2,o+lGl2;$:!oVlF,oVlFl1,oVlGl1,oVlFl2,oVlGl2,oVlFm?,oVlGm?;#o4lG;#o4lGl1;#o4lGl2;#o4lGm?,:!oZlF,oZlFl1,oZlGl1,oZlFl2,oZlGl2,oZlFm?,oZlGm?,:!o8lF,o8lFl1,o8lGl1,o8lFl2,o8lGl2,o8lFm?,o8lGm?,:!oBl1,:!oFl1,:!oHl1,:!oJl1,:!oPl1,:!oVl1,:!oZl1;$oBlFmB,oBlGmB,oBlFl1mB,oBlGl1mB,oBlFl2mB,oBlGl2mB,oBlFm?mB,oBlGm?mB,nXlFmB,nXlGmB,nXlFl1mB,nXlGl1mB,nXlFl2mB,nXlGl2mB,nXlFm?mB,nXlGm?mB,oHlFmB,oHlGmB,oHlFl1mB,oHlGl1mB,oHlFl2mB,oHlGl2mB,oHlFm?mB,oHlGm?mB,o!lFmB,o!lGmB,o!lFl1mB,o!lGl1mB,o!lFl2mB,o!lGl2mB,o!lFm?mB,o!lGm?mB,oZlFmB,oZlGmB,oZlFl1mB,oZlGl1mB,oZlFl2mB,oZlGl2mB,oZlFm?mB,oZlGm?mB,o8lFmB,o8lGmB,o8lFl1mB,o8lGl1mB,o8lFl2mB,o8lGl2mB,o8lFm?mB,o8lGm?mB,oBl7,oBl5,oBl1mB,oBmB,oBl2mB;#oBm?,oBm?mB,nXl7,nXl5,:!nXl1,nXmB;#oJ;$a(m?,oHl1mB,oHmB,oHl2mB;#oHm?,oHm?mB,:!n]l1,:!o!l1,o!mB,:!b~Bl1,b~Bm?,oJl7,oJl5,:!oJl9l1;$oJm?,oJl9m?,o$l7,o$l5,:!o$l1;#:!c^Kl1,c^Km?,oVl7,oVl5,:!oVl9l1,:!oRlF,oVm?,oVl9m?,o4l7,o4l5,:!o4l1,o0lG,:!a(l1,^Q;$oZl1mB,oZmB,oZl2mB;#oZm?,oZm?mB,:!o+l1,:!o8l1,o8mB,a7;$:!c^O;c>o8;%^<,^0l=;_$cg(m3,cg*m3;8cg.m3;Fch5m3,ch9m3,ch7m3;]ci2m3;&ci7m3;$ci<m3;?ciTm3;#ciVm3;Bcj5m3;$cj>m3;$cj@m3;#cjCm3;>^)m3;#cj]m3;0cjHm3,^(m3,^*m3,ck#m3,ck$m3;$ck5m3,ck6m3;$ck9m3,ck<m3;)ck?m3,ck@m3;$ckGm3,ckHm3;$ckKm3,ckLm3;Jcl.m3,cl5m3,cl6m3,cl8m3;XckAm3,ckBm3,ckVm3,ckWm3;)clAm3,clBm3,clCm3,clDm3;^(:!eoM;^dAdu0m3;wQepZer<;#ep]er<;#eq!er<;#eq$er<;#eq&er<;#eq)er<;#eq+er<;#eq0er<;#eq2er<;#eq4er<;#eq6er<;#eq8er<;$eq=er<;#eq?er<;#eqAer<;):!eqHer<;#:!eqKer<;#:!eqNer<;#:!eqQer<;#:!eqTer<;>epUer<;.er@er<;3erNer<;#erPer<;#erRer<;#erTer<;#erVer<;#erXer<;#erZer<;#er]er<;#es!er<;#es$er<;#es&er<;#es)er<;$es.er<;#es1er<;#es3er<;):!es<er<;#:!es?er<;#:!esBer<;" ++
  "#:!esEer<;#:!esHer<;>erIer<;$es]er<,et er<,et!er<,et#er<;%et2er<;^^p.tc#,nf%,tnY,te=,om8,jhM,keN,wdK,wdK,la>,u^4,km@,la3,ml=,ps8,rbD,sd>,sk?,sq7,tw6,ntE,oe2,ov],pg5,rxX,t|9,vgR,jj.,kcJ,ny7,o~Z,sd&,v|G,lt9,orF,sb6,ss7,mp6,rmE,sm6,l|9,nfN,ofM,pc(,txA,jo ,jy<,k_U,myM,nx>,o~O,puL,rdT,sc9,sd[,tjV,uxQ,vnV,vzY,q^A,qc],qwE,rvP,ud[,w^<,sz.,l^6,l~?,qqI,rg*,p_3,q_I,te5,uwL,l^.,lo[,ntV,ohQ,onB,qu@,qz8,utB,k_I,rg<,jz%,jyQ,qfW,qx(,rwB,uu4,t^7,mp>,ntE,szY,jhT,lmL,mc?,peL,pnO,kaX,qaD,jp$,maB,jh!,ocQ,n^#,qu1,ke&,kzY,pv+,ry),sy9,n~M,ts.,obC,mq5,rrD,mt5,pnD,jk ,jwZ,jyN,nm>,qt),rp8,sz(,u^2,ka4,kg?,lb$,l~ ,n_@,orY,qb=,uqF,vj#,w^T,w_U,k^H,ne1,n|@,tqO,lyQ,mjC,mlG,mxY,onV,oy$,pj@,qe9,qy(,rfV,tpI,r~.,tu6,uf3,j|+,k^P,kiN,ovK,sp7,sy9,l|8,mbX,msH,n~A,qq ,pe8,jl ,kt6,lmL,lv7,mcI,pfA,piV,rbY,rf(,ua(,uwK,uy.,v^#,jo&,qdU,t~O,uvC,mg4,jj3,ju5,lmS,lo6,n^J,ntE,o|C,prI,r~?,tv[,wd<,nd%,us[,k^4,nhF,njR,oeZ,ol9,ph&,pn6,p~V,qtW,v_7,jx!,mm?,uu7,jr$,ls8,oi%,tpM,m_Z,mi(,nk@,peL,uuG,j|B,kfB,lp!,naX,ngO,nn*,od2,ph#,ppU,rb6,spF,spX,u^.,uw5,kbJ,olY,kfP,o|E,pjO,sc*,uv),vs+,w^],ni&,ohB,rmU,qj),qkM,qrE,pb ,ouR,s~G,jk7,rt#,j|S,jzV,lzM,mpB,qsS,lkV,oe5,ndW,tq!,sn*,utD,st$,l|D,jw.,knC;$kzU;#ncM;$jz(,pc[,pu*,qbO,qc9,qcB,qd4,uy?,qs9,rcF;#scG;#szS;$tuM,ty8;%vc!,vc3,vd%,vyI,txQ,uvB,joO,juD,jw>,k_@,k_[,kb],kmV,koS,kqI,kz9,k~5,lp ,lp.,meU,miQ,mjA,ml7,m~4,na ,nd2,nmB,ofZ,oi[,onU,oyO,p^2,phE,q^F,qbQ,qb],qb[,qc(,qc1,qc8,:!qd2,qgE,qhP,qnK,qy(,qyB,qzD,rb.,rdX,rmZ,rpD,rpD,ry<,sqQ,st3,sz],s~!,teH,tfG,ts5,tuM,uw6,u~F,v^L,me4,a^lE,rnO;$jhA,jy8,jwY,jnW,jw4,jx9,k_>,ka9,kmV,klD,kmR,ko*,kzU,k~B,la.,laA,lfA,lj*,l|C,l|J,m_6,maF,mg(,mi5,mh ,mjA,miI,ml7,mmE,mt[,mvG,mwG,m~=,ncM,nfN,nfR,ngW,n|B,n~M,oeZ,omD,om2,onU,osC,oyO,py2,p^>,paL,pc[,pj!,plQ,pmP,pqZ,pq],pu*,pu@,puY,pwC,pw7,q_K,qiJ,qnK,qr),qv4,qy(,ra1,rdX,rtE,rw@,sj2,srL,ss[,st3,syP,szS,sy],sz],szY,szH,s~!,t^C,tfG,tp[,tvQ,t~2,ub7,uu=,uw6,uy?,u|X,u~F,u~R,v^L,vm*,wdK,_yf3,_yf*,_|_],gjH,haU,hb@,aay8,aco3,ahzB,wc!,wd" ++
  "=;^3yNy#;#z.y&;0:!z!y4,:!z!y.y4,:!yEy&,yEy.,yFy.,yGy.,yHy.,yIy.,yJy.,yKy.;#yMy.,yNy.,yOy.,yPy.,yQy.;#ySy.;#yUy.,yVy.;#yXy.,yYy.;#y[y.,y]y.,z y.,z!y.,z#y.,yJy),yFy2,yPy2,yYy2;ah[^k_6^k_Y;#^k_8^k_Y;4^k_D^k_Y;_>^kc)^kbZ,^kc*^kbZ;h ^km!^klU,^km!^km6;dR^ksV^ksW,^ksV^ksM;#^ksV^ksZ;bK^kxG^kx>,^kxH^kx>;nD^lk)^lk#;|a _kn$_kn6,_kn%_kn6,:%_kn%_kn6_knA;^H_koV_kn6,_koW_kn6,_koV_kn6_knA,_koW_kn6_knA,_koV_kn6_knB,_koW_kn6_knB;^nl[jhX,jhS,jh],_s_I,jn5,joO,jo],jq5,jsC,jt&,juD,ju&,fg?,_sxQ,jw>,jwE,jwU,jx0,_ssA,fgZ,jwX,jxH,_st8,jxR,jy#,jkE,jy.,jy8,akzR,jzD,jzR,fhJ,j|T,j~#,j~U,j~Z,fiJ,k_>,k_@,k_[,ka9,:!kaF,kaX,kbT,kb],kc*,kcH,kcR,kcT,kcT,kcT,_tmA,ou#,ke1,keH,_ts2,keT,keZ,kf7,ki*,kg3,kgE,kh*,ki1,kjQ,kk3,klB,klR,km=,km=,kmR,kn),kn4,knE,ktU,koS,ktV,kq0,kqU,jzV,l^G,kx3,kx[,ky>,kw!,kz(,kz&,k~9,_vd5,l^K,l^P,l_#,l_=,l_E,laO,_vlK,_vmW,ld5,le+,le<,lcY,lfE,fr=,frK,liE,ljE,ljE,_v|A,lm!,lm=,lmL,lmX,_wcM,ln),ln3,m^X,lnQ,fu),loY,lp.,lqM,lpP,_wp[,lt),_wq ,ltY,ltV,lu.,:!lw$,fx8,lwF,lx9,lxP,lyF,fy5,_xd),fyQ,lzW,lzZ,l| ,l|9,antM,l~7,_xl&,_xl&,rn6,m^ ,m^ ,f|+,_zyM,adi*,m_.,m_8,f|L,ma1,mb+,mb8,mb],meB,g^5,f~O,meU,_y^7,mfR,mi.,mi3,mi5,mi3,mj(,mjA,mk*,mjW,mk&,mk[,ml7,ml=,mlW,mm&,mn6,moV,mpC,mrS,_ys7,mr@,mq3,ms3,msP,muE,_ywF,mvM,mt],mt@,gcS,mx!,mx=,mx],mx4,gd[,m~4,m~S,_zm ,na!,nf*,nbX,gh+,nd2,ggU,gg.,jxM,jxP,nf5,nd?,rh!,hsJ,nfN,nfR,nfX,nh#,ngT,_|_J,gi$,njY,nhP,nlE,nmB,_|cR,nmK,nkH,np*,gjH,nq ,nrR,nt(,nwI,_|n4,nxF,glW,nyV,_|wT,nzS,gmW,n|9,n~0,:!n~M,_~bT,_wlZ,_~dU,oa?,_~m.,ocD,ocR,oaX,oe*,oeW,ofZ,oeZ,ofL,of[,og0,_~o ,oeM,oj8,okC,gr),om2,om+,_~w$,oi8,op3,_~yK,_~zE,oqW,ot!,osC,os@,gs[,ot7,ou4,ou+,ov+,_ssJ,ox],a^i],ozG,a^p$,p^.,p^>,p^Y,a^|3,p_S,pa0,a_bT,a_f[,pe?,peP,gy(,pf2,gy7,gy7,pi2,piI,pj!,pj<,pkK,g|+,pm7,a_zE,pmS,a_~3,pnO,_xdJ,pqM,aalP,aam.,aaoQ,ha7,haE,puY,aas!,aas ,aasN,aat0,:!pvM,pvN,pwC,hb@,pxN,hbM,hd.,abd!,p~7,q^A,q_K,heH,abmK,qc1,aboS,abpH,qd4,qe],hg!,qgE,qgO,qgT,ac^A,ace!,ace!,qjQ,hjY,aciT,qnQ,qnT,hkH,acmQ,qsO,hmU,qt*,qt$," ++
  "qtG,ac~(,qv>,hoJ,qx4,qy9,qzH,hpG,adjG,adk+,hq4,admV,rb7,adoO,rbT,rdM,rdX,adw9,adxN,rfG,ad|.,rfW,_z~R,hsF,rh(,riH,htF,rjM,lh!,aefJ,aefX,_|^P,_|^Y,rn6,rn9,trU,hv8,rp],rpV,rq0,k_$,rqF,rqH,rqR,rrE,aewI,rrD,rsF,rtV,rv2,rsL,rvD,rw6,ry<,rtF,rvQ,rvS,rw(,ae~3,afc],afa0,hyX,r~2,r~4,r~Y,agd.,s_9,afl5,hzT,hzX,afnP,aft(,h|&,sdO,sd[,se+,se0,sf<,seQ,sh3,sg?,sj2,shO,si],sjA,i^&,sl+,slP,i^N,snC,snF,agpF,spN,spU,i_T,sq9,fg],ag|9,ah_Q,ic9,icD,sy.,szH,t^C,tc4,ahp1,tdV,te4,tfZ,thJ,ah~0,_tc3,tj0,tiY,tjW,_tg5,to(,tp[,aj^K,aj_+,tw=,ty),tyN,ajf(,tyX,ua.,:!ud),ub?,uiB,uj!,aj~U,upZ,ipT,uqP,akeX,ir7,uvN,lv.,uxB,akwZ,ak|W,itU,iu ,u~ ,alg%,iv(,aliK,u~R,u~R,v^8,alo ,vbQ,ixB,vd&,vf>,vfY,vh#,i|9,amj[,vm*,vrO,vv2,jb(,jbL,vx0,angG,jbW,anhH,anmC,anoZ,w_B,jdI,waJ,waO,waV,wb$,wb.,wbV,aob1"

/-- The full compatibility decompositions (Unicode 14.0.0) of characters where these differ from the
canonical ones. -/
def compatibleData : String :=
  ";_[G;*Gl9;#^R;&Gl5;$:!Y,Gl2,oM;$GlZ,X,_$;#Xc_[[,Xc_[Y,Zc_[[;_*^8^9,^Z^[;1^=a<,_ a<;+j[_#;^ _);^4^3^Kl?,^3_3l?,^U_3l?,^=^9,^=^[,_ ^[,^?^9,^?^[,_#^[;L^3^K,^3_3,^U_3;aB^Y,i9,^[,_(,iN,iP,iV,_0,_2;G:!Gl7,Gl=,Gl[,Gl4,Gl>;$i6,_ ,_),_1,j2;_QGmB;.Gl2,Gl9l2;^<oC,oI,o4,o4l2,o4l9,oW,oQ;AoK,:!oR;#o#,oF;%o2;e9wFx(;b=|+~G,|Q~G,^_)~G,|S~G;^dJ_eR_e5;_9_h+_gK;P_gD_g0,_gD_g8;V_i6;^]_l=_k0_kA;#_l>_k0_kA;e+_qY;^yQ^0,aK,^1;#:!^3,e9,:)^6;#^@,h(,^A,^C,:!^E,^H,^R,:!h[,boC,^S,:!^U,i),:!i+,^X;#^],_!,d),_$,i#,:!boW,_%,:!_*,bp!,iD,_.,bp+,:#oC,:!oW,^Z,_(,:!_+,:!oC,oR,:!oW;3r&;Ji ,^T,i$,b?,i.,^W,i2,i4,i8,:#i=,bqP,j<,iB,bqZ,j>,iF,iE,:$iG,iM,:!iW,eX,:!j!,bp ,:!j$,_3,:#j*,oI;b$^Rk ,_)l8;c9GlF;#GlF,Gm?,Gl9m?;1:!GlFl1,GlFm?;3:!GlGl1,GlGm?;3:!Gl9l1;4Gl2,GlG;#G,G,G,G,G,G,G,G,G,G,G;)c_ ;(Gm+;2U,UU,UUU;+G;%c_Ic_I,c_Ic_Ic_I;#c_Lc_L,c_Lc_Lc_L;&HH;#Gl6;+^+^+,^+H,H^+;3c_Ic_Ic_Ic_I;*G;6W,^Z;$:&[,R,ciC,^),:!O,_#,:+W,R,ciC,^),:!O;#^R,^V,_$,_1,i),^Y,:$^],_%,:!_);1^C_);^I^RV^T,^RV_),^2,a3^2;#^TV_$,^TV_+,e=;#a3^5,^X,^7,^7,^7,^Y,c@,^8,^8,^=,_ ;#^?,^?_$;$:#^A,^C,^C;$^D^>,^E^4^=,^E^>;#^K;%^K;%:!^1;#^V,:!^4;#^>,_$,:$yE,^Z;#^5^0^I,oQ,oD,nZ,o.,ciB;&^3,:!^U,:!^Z;)Xc_[^!,Xc_[^$,Xc_[XW,Xc_[Z,Yc_[Z,Xc_[],Yc_[],Zc_[],[c_[],Xc_[^ ,]c_[^ ,Xc_[^#,Zc_[^#,]c_[^#,^!c_[^#,Xc_[,^8,^8^8,^8^8^8,^8^G,^G,^G^8,^G^8^8,^G^8^8^8,^8^I,^I,^I^8,^I^8^8,^=,:!^2,^>,^Z,^Z^Z,^Z^Z^Z,^Z_.,_.,_.^Z,_.^Z^Z,_.^Z^Z^Z,^Z_1,_1,_1^Z,_1^Z^Z,_ ,:!^T,_!;.Wc_[Z;a!ci]ci],ci]ci]ci];#cj#cj#,cj#cj#cj#;h9:*X,:+XW,YW,OXP,OYP,OZP,O[P,O]P,O^ P,O^!P,O^#P,O^$P,OXWP,OXXP,OXYP,OXZP,OX[P,OX]P,OX^ P,OX^!P,OX^#P,OX^$P,OYWP,XU,YU,ZU,[U,]U,^ U,^!U,^#U,^$U,XWU,XXU,XYU,XZU,X[U,X]U,X^ U,X^!U,X^#U,X^$U,YWU,O^RP,O^SP,O^TP,O^UP,O^VP,O^WP,O^XP,O^YP,O^ZP,O^[P,O^]P,O_ P,O_!P,O_#P,O_$P,O_%P,O_&P,O_(P,O_)P,O_*P,O_+P,O_.P,O_0P,O_1P,O_2P,O_3P,:@^0,:@^R,W;v7ci]ci]ci]ci];^Y^%^%^),^)^),^)^)^);gG^[,^G;bAec);cIo^$;^EwdN;2jgQ,jhC,jhQ,jhZ,ji>,jj2,jj9,jjO,jk1,jw+,jwV,jw],jx=,jxQ,jy+,jz*,jzD,jzO,k^H,ka8,kaV,ka[,kbC,kbL,kc." ++
  ",kc>,kcW,kdU,ke.,keL,ksL,ku!,l^D,l^[,l_(,l_6,l_J,lb$,ljW,lkQ,ln ,ln>,lnQ,lo.,lp.,lp2,lvZ,lw),lw8,lwG,lyO,lyW,ly],l~*,l~7,l~F,l~N,m^U,m_+,m_B,ma],mlO,mmG,mm],m|L,m|Q,n^6,n^H,n^U,n_2,n_[,na$,nf ,nf?,ng#,nyU,n|%,n|B,n~F,o^!,o^.,o^6,o_4,o_9,o_[,otZ,p^1,p^?,p^D,p^H,p^P,p_&,p_),paI,peI,peN,pl ,pl.,pm(,pm2,pm=,pmE,po2,po9,psG,psN,ptI,ptZ,puS,pz0,pz7,pzJ,qbM,qe#,qe*,qhC,qj),qj],qq],qt?,ra%,raF,rbI,rcF,rdT,re#,re*,reP,rg+,rg8,rmP,rmW,rn$,rn1,rnC,rnR,rnV,rp7,rp=,rpC,sdL,se2,smY,sn*,snF,ssS,st$,su9,sv1,tbN,tc ,tc4,tcY,tdH,th5,thC,tiP,tn8,tnY,trR,ts.,ts4,tw8,tzP,u^%,u^.,u^4,upF,upO,usI,uvA,uvD,uw=,uy8,uyG,uyK,uyR,u|H,u~2,u~8,u~H,vaM,vbJ,vbN,vf(,vf+,vfC,vk.,vl%,vl0,vmB,vmL,vmO,vmY,vnA,vuR,w^0,w^<,w_&,w_B,w_J,w_T,w_X,waJ,waN,wb#,wb),wb9,wbV,wc*,wc5,wd<,wdK,wdO;RG;^ eoW;#kbL,:!kbO;^R:!Ger<;$er%er(;^QerVes3;Y:!_rG,_uO,_rI,:!_uQ,:#_rJ,:&_uU,_s%,:#_rM,_s0,:+_rP,:9_t<,_t9,:!_r[,:!_v4,_v9,_v=,_vB,_vF,_vH,_s(,_vL,_vN,:!_s),_s.,:!_s1,_s6,_s8,:%_s<,_sC,_sG,_sQ,_sX,_t ,:!_w$,:#_t0,:!_u#,_u(,:!_u4,_u7,_uC,_uF;%jgQ,jj9,jgZ,ksP,jg[,jhH,jg],pmG,ji>,jh2,jgR,l_L,ku7,jk1;^RO_rGP,O_rIP,O_rJP,O_rLP,O_rMP,O_rNP,O_rPP,O_rRP,O_rSP,O_rUP,O_rVP,O_rWP,O_rXP,O_rYP,O_rG_t<P,O_rI_t<P,O_rJ_t<P,O_rL_t<P,O_rM_t<P,O_rN_t<P,O_rP_t<P,O_rR_t<P,O_rS_t<P,O_rU_t<P,O_rV_t<P,O_rW_t<P,O_rX_t<P,O_rY_t<P,O_rS_tIP,O_rR_tD_rS_t@_uPP,O_rR_tD_rY_tIP;#OjgQP,Ojj9P,OjgZP,OksPP,OjjCP,Ojx!P,OjgTP,Ojw]P,OjiBP,OkbLP,Onf?P,OotZP,Oo_[P,Ong#P,Ou^4P,Oku!P,Ona$P,OnkSP,Onf@P,OqbQP,Okf@P,Op_LP,OtdLP,Oqc8P,Ok_%P,Ojk]P,OkhCP,Olk5P,OpuHP,OjlDP,Ote<P,Okc#P,OqcJP,OjlTP,OrmWP,Orn$P,kl>,lyY,n^6,qmP;+^A^E^4,:*YX,:&ZW,_rG,:!_rI,:#_rL,_rP,:!_rR,:%_rU,_rG_t<,_rI_t<,_rJ_t<,_rL_t<,_rM_t<,_rN_t<,_rP_t<,_rR_t<,_rS_t<,_rU_t<,_rV_t<,_rW_t<,_rX_t<,_rY_t<,_rU_t<_u]_rG_tD,_rS_tI_rR_tO,_rR_tI;#jgQ,jj9,jgZ,ksP,jjC,jx!,jgT,jw],jiB,kbL,nf?,otZ,o_[,ng#,u^4,ku!,na$,nkS,nf@,qbQ,kf@,p_L,tdL,qc8,k_%,qeI,pmL,lb$,tvH,jvQ,kcE,od5,u~L,jlT,jxT,n|&,jg[,jhH,jg],lw*,ke],kbF,ll0,lk5,puH,jlD,te<,kc#" ++
  ",l_?,:$Z^ ,:+[W,]W,Xnf?,Ynf?,Znf?,[nf?,]nf?,^ nf?,^!nf?,^#nf?,^$nf?,XWnf?,XXnf?,XYnf?,^7^X,^V_(^X,^V^G,^=^E^3,erE,erG,erI,erK,:!erM,erP,erR,erT,erV,erX,erZ,er],es!,es$,es&,es),es.,es1,es3,:&es5,es?,esB,esE,esH,:%esK,esQ,esS,:&esU,:$es],jl khS,erEes<er=et1es3,erEesXesBerD,erEet$esEer=erE,erEet1esX,erGes6et$erRer<,erGet$es),erIerLet$,erKer]erRet1es3er<,erKet1erNet1,erMet$er],erMet1esM,erNerGesW,erNesVes+es3,erNesZesWet1,erNer<esZet$,erNer<et$esK,erPer<erNer<,erPer<es6et1,erPesResWet1,erPer<esXes&er<et1,erPesZ,erPesZerRer<esVesM,erPesZesNet1es3esX,erPesZes]es+es3,erRer<esVesM,erRer<esVesMes3et$,erResXes!er<erGesZ,erResZet1es8,erTet1er],erVesXes5,erVet1esHer=,erXerGerResX,erXet$es)et1esM,erZesWet$erRer<,es!et$es),es!et$es3,es&er<et1er],es1er<erZ,es3er<esX,es3et$,es5es9,es9es+es3,es<erGes.,es<er=et1es!et$es3,es<er=et1es.,es<er<et1esYesX,es?er=erEer]es3esX,es?er=erResX,es?er=erV,es?er<esX,esBerDesVes+es3er<,esBerFet1es3,esBer<es+erZerJesX,esBesVet$,esEerRes&et1esX,esEer=es$,esEer=es6es?,esEesXes.,esEer=et$er],esEer=et1erZer<,esEer<et1es&,esHer=erGet$es3,esHer<esXes3,esHet$,esHer=et$es3er<,esHet1esX,esHet1et$,esKerGerResZ,esKerGesX,esKes+es<,esKesXerR,esKet$erZesTet$,esLerResZet$,esLesW,esLesWes<er<et1esX,esNerNer<,esNerNer<es3et$,esNet1es3esX,esQet1es3er<,esQet1esX,esSerEet$,esWes+es3esX,esWesV,esXes?er=et1,esXet1esBer<esX,esYesM,esYet$es3erTer<et$,es]es+es3,Wov<,Xov<,Yov<,Zov<,[ov<,]ov<,^ ov<,^!ov<,^#ov<,^$ov<,XWov<,XXov<,XYov<,XZov<,X[ov<,X]ov<,X^ ov<,X^!ov<,X^#ov<,X^$ov<,YWov<,YXov<,YYov<,YZov<,Y[ov<,^Y^A^R,^U^R,^0^F,^S^R_(,_$^G,_%^T,^U_!,:!^U_!Y,^8^F,lyPmlW,nb<khS,l_Jn|&,naSoc@,nkSl~Jjm qbQ,_%^0,_#^0,oM^0,_!^0,^]^0,^<^1,^>^1,^6^1,^T^R_ ,^]^T^R_ ,_%^5,_#^5,oM^5,oM^X,_!^X,^]^X,^7_3,^]^7_3,^>^7_3,^6^7_3,^E^7_3,oM_ ,_!_ ,^U_ ,^]_ ,^W_!,_#_!,oM_!,_!_!,^T_!,^]_!,_!_!Y,^T_!Y,_!Y,^]_!Y,_!_!Z,^T_!Z,_!Z,^]_!Z,_!ciF_),_!ciF_)Y,^A^R,^]^A^R,^>^A^R,^6^A^R,_(^R^U,_(^R^UciF_),_(^R^UciF_)Y,_%_),_#_),oM_),_" ++
  "!_),_%^G,_#^G,oM^G,_!^G,^]^G,^>^G,_%^H,_#^H,oM^H,_!^H,^]^H,^>^H,^]o8,^>o8,^RU_!U,^1_&,:!^T^T,^2ciF^]^X,^2_$U,^U^1,^6_2,^Y^R,^7^A,^Z_#,^<^<,^<^>,^]_*,:!_ _!,_ _$^X,_ _1,_!^S,_!^Z_ ,_!_$_ ,^A^7,_%U_!U,^A^A^>,^A^C,_)_(,^D_.,^H^S,^GciF_!,^0ciF_!,Xna$,Yna$,Zna$,[na$,]na$,^ na$,^!na$,^#na$,^$na$,XWna$,XXna$,XYna$,XZna$,X[na$,X]na$,X^ na$,X^!na$,X^#na$,X^$na$,YWna$,YXna$,YYna$,YZna$,Y[na$,Y]na$,Y^ na$,Y^!na$,Y^#na$,Y^$na$,ZWna$,ZXna$,^X^R_ ;pa8r7,r9;aXxkP;_=^2,^5,^B;%c?,d4;n$xj>,y^L,i@,y_.;.j&;jo6^W^W,^W^Z,^W_ ,^W^W^Z,^W^W_ ,_)_*,_)_*;2wUwW,wUwF,wUwL,x#wW,wUwN;+yW,yE,:!yH,:#yP,z ,z#,R;MyEyQ,~D,~D,~N,~N,~N,~N,~Q,~Q,~Q,~Q,~S,~S,~S,~S,~M,~M,~M,~M,~R,~R,~R,~R,~L,~L,~L,~L,^^A,^^A,^^A,^^A,^^C,^^C,^^C,^^C,~W,~W,~W,~W,~V,~V,~V,~V,~Y,~Y,~Y,:!~Y,~Z,~Z,~Z,^^$,^^$,^^#,^^#,^^%,^^%,~[,~[,^^3,^^3,^^),^^),^^F,^^F,^^F,^^F,^^L,^^L,^^L,^^L,^^P,^^P,^^P,^^P,^^N,^^N,^^N,^^N,^^W,:!^^W,^^X,^^X,^^X,^_<~ ,^_<~ ,^_!,^_!,^_!,^_!,^^[,^^[,^^[,^^[,^_7,^_7,^_7~ ,^_7~ ;I^^J,^^J,^^J,^^J,^_),^_),^_(,^_(,^_*,^_*,^_)~G,^_0,^_0,^_&,^_&,^_+,^_+,^_5,^_5,^_5,^_5,|R,|R,|S~ |+,|S~ |+,|S~ ^_<,|S~ ^_<,|S~ |Q,|S~ |Q,|S~ ^_),|S~ ^_),|S~ ^_(,|S~ ^_(,|S~ ^_*,|S~ ^_*,|S~ ^_5,|S~ ^_5,|S~ ^_5,|S~ |R,|S~ |R,|S~ |R,^_1,^_1,^_1,^_1,:!|S~ |3,|S~ |N,:!|S~ |R,:#|.|3,|.|N,:!|.|R,:#|1|3,|1|N,:!|1|R,|2|3,|2|N,:!|2|R,|3|4,|3|N,|4|3,|4|N,:!|5|3,|5|N,:#|<|3,|<|N,|>|4,|>|N,:#|?|3,|?|N,|@|4,|@|N,|A|N,|B|3,|B|N,|C|3,|C|N,:#|J|3,|J|N,:!|J|R,|K|4,|K|N,:!|K|R,|L|+,:#|L|3,:!|L|M,:!|L|R,:#|M|3,|M|N,:!|M|R,:#|N|3,|N|N,:!|N|R,:#|O|3,|O|N,:!|O|R,|P|3,|P|N,:!|P|R,:#|S|3,|S|N,:!|S|R,|7~C,|8~C,|R~C,G|U|Z,G|V|Z,G|W|Z,G|X|Z,G|Y|Z,G|Z~C,:!|S~ |8,:!|S~ |N,:!|S~ |R,:!|.|8,:!|.|N,:!|.|R,:!|1|8,:!|1|N,:!|1|R,:!|2|8,:!|2|N,:!|2|R,:!|J|R,:!|K|R,|L|+,:!|L|M,:!|L|R,|M|N,:!|M|R,|N|+,|N|N,:!|O|8,:!|O|N,:!|O|R,|R~C,:!|S|8,:!|S|N,:!|S|R,:#|S~ |3,|S~ |N,|S~ |P,:#|.|3,|.|N,|.|P,:#|1|3,|1|N,|1|P,|2|N,|3|4,|3|N,|4|3,|4|N,|5|3,|5|N,:#|<|3,|<|N,:!|>|4,|>|N,:#|?|3,|?|N,|@|4,|A|N,|B|3,|B|N,|C|" ++
  "3,|C|N,:#|J|3,|J|N,|K|4,|K|N,:#|L|3,:!|L|M,:#|M|3,|M|N,|M|P,:#|N|3,|N|N,:#|O|3,|O|N,|O|P,|P|3,|P|N,|P~C,:#|S|3,|S|N,|S|P,|S~ |N,|S~ |P,|.|N,|.|P,|1|N,|1|P,|2|N,|2|P,|<|N,|<|P,|=|N,|=|P,:!|L|M,|M|N,|O|N,|O|P,|S|N,|S|P,|I|W|Z,|I|X|Z,|I|Y|Z,:!|@|R,:!|B|R,:!|C|R,:!|<|R,:!|=|R,:!|4|R,:!|3|R,:!|5|R,:!|>|R,:!|?|R,:#|=|3,|=|N,|=|8,|<|8,|>|8,|?|8,:!|@|R,:!|B|R,:!|C|R,:!|<|R,:!|=|R,:!|4|R,:!|3|R,:!|5|R,:!|>|R,:!|?|R,:#|=|3,|=|N,|=|8,|<|8,|>|8,|?|8,:#|=|3,|=|N,|<|P,|=|P,|@|N,:#|<|3,:#|=|3,|@|N,|A|N,|+|T,|+|T;8|1|3|N,|1|4|3,|1|4|3,|1|4|N,|1|5|N,:#|1|N|3,|3|N|4,|3|N|4,|4|N|S,|4|N|R,|<|4|3,|<|3|4,|<|3|R,|<|N|4,|<|N|4,|<|N|3,|<|N|N,|<|N|N,|>|4|4,|>|4|4,|>|N|N,|=|4|N,|=|4|N,|=|3|S,|=|N|5,|=|N|5,|=|N|N,|=|N|N,|?|4|R,|?|5|N,|?|5|N,|@|N|4,|@|N|4,|@|N|N,|@|N|S,|B|3|N,|B|N|N,|B|N|N,|B|N|R,|C|N|N,|C|N|S,|C|N|R,|J|5|N,|J|5|N,|K|N|4,|K|N|N,|M|4|N,|M|4|S,|M|4|R,|M|3|3,|M|3|3,|M|5|N,|M|5|N,|M|N|4,|M|N|4,|N|4|3,|N|4|N,|N|4|S,|N|3|4,|N|3|N,|N|5|3,|N|5|N;$|N|3|5,|P|N|3,|P|N|N,|O|4|N,|O|4|R,|O|3|N,|O|3|N,|O|3|R,|O|N|S,|O|N|R,|S|N|N,|S|N|N,|.|5|S,|1|3|S,|1|3|R,|1|5|S,|1|5|R,|1|N|S,|1|N|R,|3|N|S,|3|4|R,|3|N|R,|<|5|R,|>|4|S,|=|4|S,|?|4|S,|M|3|S,|M|N|S,|S|4|S,|S|3|S,|S|N|S,|N|N|S,|K|N|S,|O|4|S,|K|N|4,|M|4|N,|B|N|S,|L|N|S,|O|3|4,|N|5|S,|M|3|N,|L|N|N,|M|3|N,|O|3|4,|3|4|S,|4|3|S,|N|3|S,|J|N|S,|.|4|S,|L|N|N,|B|3|N,|>|N|N,|<|5|S,|O|3|S;P|>|M^_7,|K|M^_7,|+|M|M|P,|+|L|.|8,|N|4|N|6,|>|M|B|N,|8|<|Q|M,|B|M|S|P,|Q|<|M|N,|>|M|R,|>|M|RG|+|M|M|PG|B|M|S|PG|Q|<|M|N,|3|MG|3|M|+|M|P,|8^_1|+|M;9S,:!eoF,:!^%,H,^+,:!eo[,UUU;>UU,c_%,c_$,^P,^P,:!O,_4,_6,:!eoY,:!eoU,:!eoO,:!eoM,:$eoQ;$^L,^N,Gl6,Gl6,Gl6,Gl6,^P,^P,^P,S,eoF,U;#^&,^%,^+,H,c_%,:!O,_4,_6,:!eoY,J,M,:!Q,T,^(,^*,^);#^M,:!K,^.;&G|T,|I|T,G|U;#G|V;#G|W,|I|W,G|X,|I|X,G|Y,|I|Y,G|Z,|I|Z,G|[,|I|[,|$,|+|],:!|+|],|+~ ,|Q~ ,|Q~ ,|+~!,|+~!,|S~ ,|S~ ,|S~ ,|S~ ,|+,:!|+,|.,|.,:!|.,:!|0,|1,|1,:!|1,|2,|2,:!|2,|3,|3,:!|3,|4,|4,:!|4,|5,|5,:!|5,:!|6,:!|7,:!|8,:!|9,|<,|<,:!|<,|=,|=,:!|=,|>,|>,:!|>,|?,|?,:!" ++
  "|?,|@,|@,:!|@,|A,|A,:!|A,|B,|B,:!|B,|C,|C,|C,|J,|J,|J,:!|J,|K,|K,:!|K,|L,|L,:!|L,|M,|M,:!|M,|N,|N,:!|N,|O,|O,:!|O,|P,|P,:!|P,:!|Q,:!|R,|S,|S,|S,|M|+|],:!|M|+|],:!|M|+~ ,|M|+~!,|M|+,|M|+;&:^NH,:!dnT,eoG,:!eoQ,eoF,et0,et#,erD,erF,erH,erJ,erL,esP,esR,esT,es+,et1,erE,erG,erI,erK,:!erM,erP,erR,erT,erV,erX,erZ,er],es!,es$,es&,es),es.,es1,es3,:&es5,es?,esB,esE,esH,:%esK,esQ,esS,:&esU,es],et$,:!er<,_t9,:!_rG,_uO,_rI,:!_uQ,:#_rJ,:&_uU,_s%,:#_rM,_s0,:+_rP;%:&_t<;$:&_tB;$:&_tH;$:#_tN;%:!a ,a.,Gl5,a%,a$,cbT;#cw?,:$cg(,cz9,c|+;^cX:!k7,b3,j6,i!;#jB,y_E,jD,jC,:!i%,br+,i(,i1,jH,i7,i5,i3,j8,c@,j9,i<,iY,:!jI,iA,_mrW,xl7,iC,_mrX,j(,_mrY,bG,:!iK,_&,iO,_mr[,:!iR,iU,jG,jE,y_F,jF,j ,d~L;#j),:!j@,j5,:#f5,_ms ,_ms9;^_f=:@^0,:@^R,:@^0,:(^R;#:6^Z,:@^0,:@^R,^0;#:!^2;$^6;$:!^9;$:$^?;#:)^D,:$^R;#^W;#:(^Y;#:._%,:@^0,:@^R,:!^0;#:$^3;$:)^9;#:(^D;#:@^R,:!^0;#:$^3;#:%^8;#^@;%:(^D;#:@^R,:@^0,:@^R,:@^0,:@^R,:@^0,:@^R,:@^0,:@^R,:@^0,:@^R,:@^0,:@^R,cJ,hB;$:5nX,o#,:(o2,ci6,:?oB,ci1,oF,oI,oK,oW,oR,oQ,:5nX,o#,:(o2,ci6,:?oB,ci1,oF,oI,oK,oW,oR,oQ,:5nX,o#,:(o2,ci6,:?oB,ci1,oF,oI,oK,oW,oR,oQ,:5nX,o#,:(o2,ci6,:?oB,ci1,oF,oI,oK,oW,oR,oQ,:5nX,o#,:(o2,ci6,:?oB,ci1,oF,oI,oK,oW,oR,oQ,:!p5;$:+W,:+W,:+W,:+W,:+W;al6:!|+,|3,|6;#|Q,|9,|4,|@,|S,:$|L,|<,|B,|J,|>,|K,|8,|=,:!|1,|5,|7,|?,|A,|C,~A,^^W,^^>,~B;#|.,|3;#|P;$|4;#|S,:$|L,|<,|B,|J,|>,|K;#|=,:!|1,|5;#|?;#|C;)|3;&|4;#|S;#|M;#|O,|<,|B;#|>,|K;#|=;$|5;#|?;#|C;#^^W;#~B;#|.,|3;#|P;$|4,|@,|S,|L;#:!|N,|<,|B,|J,|>,|K;#|=,:!|1,|5;#|?,|A,|C,~A;#^^>;#:!|+,|3,|6,:!|P,|9,|4,|@,|S;#:#|M,|<,|B,|J,|>,|K,|8,|=,:!|1,|5,|7,|?,|A,|C;(|.,|3,|6;#|Q,|9,|4,|@,|S;#:#|M,|<,|B,|J,|>,|K,|8,|=,:!|1,|5,|7,|?,|A,|C;hPWU,WS,XS,YS,ZS,[S,]S,^ S,^!S,^#S,^$S;(O^0P,O^1P,O^2P,O^3P,O^4P,O^5P,O^6P,O^7P,O^8P,O^9P,O^<P,O^=P,O^>P,O^?P,O^@P,O^AP,O^BP,O^CP,O^DP,O^EP,O^FP,O^GP,O^HP,O^IP,O^JP,O^KP,eoY^DeoZ,^2,^C,^2^3,^H^K;#:@^0,^7^G,^>^G,^D^3,^D^D,^A^A^G,^H^2;B:!^>^2,^>^C;K^3^9;_%eqTepZ,erVerV,erX;3mm],lk!,ke3,es1er<,jj9,l_=,suL,l_L,jjS," ++
  "nb*,ox6,n^J,j~+,m_[,jxH,n_%,j|4,quS,pm2,tdT,l^I,kg4,onG,mo8,mrX,jgQ,jgZ,tv#,lw*,jhH,ke],mq@,thC,mn),qd!,qhI,kf9,okU,nf@,nf?,pmH,j~U,kn7,tzT;&eoYng(eoZ,eoYjgZeoZ,eoYjj9eoZ,eoYlkZeoZ,eoYov<eoZ,eoYmn)eoZ,eoYpu<eoZ,eoYk_TeoZ,eoYm~>eoZ;*ma+,keX;^mH:+W"

/-- The primary composites (Unicode 14.0.0): two characters and the one they compose to. -/
def pairData : String :=
  ";^(m3ck1;^)m3cj[;^*m3ck2;^0l1aEl2aFl3aGl4aHl5bOl7bQl8h.l9aIl<bw1l=aJl?fDlBgAlDgClVbw.lXbt1l[bS;^1l8bt3lVbt5m)bt7;^2l2bUl3bWl8bYl?b[lZaL;^3l8bt=l?c lVbt?lZbtCm$btEm)btA;^4l1aMl2aNl3aOl4bwMl5c%l7c(l8c*l9aPl<bwKl?c1lBgElDgGlVbwIlZh1l[c.m$btKm(btM;^5l8btQ;^6l2g3l3c3l5btSl7c5l8c7l?g lZc9;^7l3c=l8btUl9btYl?h#lVbtWlZbt[m%bu ;^8l1aQl2aRl3aSl4cAl5cCl7cEl8cIl9aTl<bwYl?fFlBgIlDgKlVbw[l[cGm(bu#;^9l3cM;^<l2bu(l?g#lVbu*lZcOm)bu.;^=l2cRl?cVlVbu1lZcTm$bu7m)bu5;^>l2bu9l8bu=lVbu?;^?l1g7l2c]l4aVl8buAl?d$lVbuClZd!m$buGm)buE;^@l1aWl2aXl3aYl4aZl5d*l7d.l8h7l9a[l<bx#l>d1l?fHlBgMlDgOlNeMlVbx l[g%;^Al2buQl8buS;^Cl2d5l8buUl?d9lBgQlDgSlVbuWlZd7m)bu[;^Dl2d=l3d?l8bv l?dClVbv#lYgYlZdA;^El8bv.l?dGlVbv1lYg[lZdEm$bv5m)bv3;^Fl1b!l2b#l3b$l4dKl5dMl7dOl9b%l<bxAl=dQl>dSl?fJlBgUlDgWlNe]lVbx?lWbv7l[dUm$bv=m(bv9;^Gl4bvClVbvE;^Hl1bvGl2bvIl3dWl8bvMl9bvKlVbvO;^Il8bvQl9bvS;^Jl1bxMl2b&l3dYl4bxSl5h=l8bvUl9d[l<bxQlVbxO;^Kl2d]l3bvWl8e!l?e$lVbvYm)bv[;^Rl1b*l2b+l3b.l4b0l5bPl7bRl8h0l9b1l<bw2l=b2l?fElBgBlDgDlVbw0lXbt2l[bT;^Sl8bt4lVbt6m)bt8;^Tl2bVl3bXl8bZl?b]lZb4;^Ul8bt>l?c!lVbt@lZbtDm$btFm)btB;^Vl1b5l2b6l3b7l4bwNl5c&l7c)l8c+l9b8l<bwLl?c2lBgFlDgHlVbwJlZh2l[c0m$btLm(btN;^Wl8btR;^Xl2g4l3c4l5btTl7c6l8c8l?g!lZc<;^Yl3c>l8btVl9btZl?h$lVbtXlZbt]m%bu!m)bw ;^Zl1b9l2b<l3b=l4cBl5cDl7cFl9b>l<bwZl?fGlBgJlDgLlVbw]l[cHm(bu$;^[l3cNl?g.;^]l2bu)l?g$lVbu+lZcPm)bu0;_ l2cSl?cWlVbu2lZcUm$bu8m)bu6;_!l2bu<l8bu>lVbu@;_#l1g8l2d l4b@l8buBl?d%lVbuDlZd#m$buHm)buF;_$l1bAl2bBl3bCl4bDl5d+l7d0l8h8l9bEl<bx$l>d2l?fIlBgNlDgPlNeNlVbx!l[g&;_%l2buRl8buT;_(l2d6l8buVl?d<lBgRlDgTlVbuXlZd8m)bu];_)l2d>l3d@l8bv!l?dDlVbv$lYgZlZdB;_*l8bv0l9bw!l?dHlVbv2lYg]lZdFm$bv6m)bv4;_+l1bHl2bIl3bJl4dLl5dNl7dPl9bKl<bxBl=dRl>dTl?fKlBgVlDgXlNf lVbx@lWbv8l[dVm$bv>m(bv<;_.l4bvDlVbvF;_0l1bvHl2bvJl3dXl8bvNl9bvLl=bw#lVbvP;_1l8bvRl9bvT;_2l1bxNl2bLl3dZl4bxTl5h>l8bvVl9bNl<bxRl=bw$lVbxP;_3l2e l3bvXl8e#l?e%lVbvZm)bv];a(l1c^8l2nLm?b~D;aGl1bw5l2bw3l4bw9l<bw7;aIl5fU;aJl2g9;aKl2g=l5fY;aLl2bt9;aOl1bwQl2bwOl4bwUl<bwS;a" ++
  "Tl2bu%;aYl1bx(l2bx%l4bx.l<bx*;aZl2buIl5h5l9buK;a[l5h3;b l2g?;b%l1fRl2fNl5fLl?fP;b.l1bw6l2bw4l4bw<l<bw8;b1l5fV;b2l2g<;b3l2g>l5fZ;b4l2bt<;b7l1bwRl2bwPl4bwVl<bwT;b>l2bu&;bCl1bx)l2bx&l4bx0l<bx+;bDl2buJl5h6l9buL;bEl5h4;bGl2g@;bKl1fSl2fOl5fMl?fQ;bQl1bwAl2bw?l4bwEl<bwC;bRl1bwBl2bw@l4bwFl<bwD;c%l1btGl2btI;c&l1btHl2btJ;d*l1buMl2buO;d+l1buNl2buP;d=l8bv%;d>l8bv&;dCl8bv(;dDl8bv);dKl2bv?;dLl2bv@;dMl9bvA;dNl9bvB;e&l8bw&;eMl1bx5l2bx3l4bx9l<bx7lVbx=;eNl1bx6l2bx4l4bx<l<bx8lVbx>;e]l1bxEl2bxCl4bxIl<bxGlVbxK;f l1bxFl2bxDl4bxJl<bxHlVbxL;f)l?g*;g%l5g(;g&l5g);h.l5fW;h0l5fX;h1l7btO;h2l7btP;h7l5h9;h8l5h<;j.l?g+;nXl1b~=l2nMl5b~<l7b~9lFby(lGby)mBb~?;n]l1b~Kl2nOlFby=lGby>;o!l1b~Ml2nPlFbyMlGbyNmBb~O;o$l1c^ l2nQl5b~]l7b~[l9o9lFbz lGbz!;o+l1c^El2nSlFbz5lGbz6;o0lGc^7;o4l1c^5l2nUl5c^4l7c^3l9o<lGbzH;o8l1c^Gl2nVlFbzWlGbzXmBc^I;o=mBb~5;o?mBb~G;oBl1b|#l2o=l5b~2l7b~1lFbx[lGbx]m?b~7mBb~4;oFl1b|%l2o>lFby3lGby4;oHl1b|(l2o?lFbyElGbyFm?b~ImBb~F;oJl1b|*l2o@l5b~Tl7b~Sl9o[lFbyUlGbyVm?b~Y;oPl1b|.l2p lFbz*lGbz+;oRlFc^.lGc^0;oVl1b|1l2p!l5c^)l7c^(l9o]lFbz?lGbz@m?c^1;oZl1b|3l2p#lFbzOlGbzPm?c^CmBc^@;o[l1b~Ul2nWm?b~Z;o]l1c^*l2oAm?c^2;p#mBc^A;p(l2p)l9p*;q%l9q&;q3l7tSl9tU;q6l2q!;q8l1p[l7tYl9p];q9l7tDl9u#;q<l9u%;q=l1q0l5u*l7q>l9u.;q?l2q.;qCl9u1;qHl5u9l7q1l9u=l>u?;qLl9uA;qPl9uE;qRl9u7;qUl7tTl9tV;qXl2rB;qZl1r?l7tZl9r@;q[l7tEl9u$;q]l9u&;r l1rLl5u+l7r!l9u0;r#l2rK;r(l9u2;r0l5u<l7rMl9u>l>u@;r4l9uB;r8l9uF;r<l9u8;rEl9rF;s(lBs*;s)lBs+;t[l9u ;t]l9u!;u3l9u5;u4l9u6;|+|]|%~ |&~!|);|Q~ |(;|S~ |*;^_!~ ^_#;^_7~ ^_8;^_<~ ^_ ;^k=^kQ^k>;^kE^kQ^kF;^kH^kQ^kI;^n8^n.^n>^nJ^n?;^u@^u5^uD^uO^uA^uP^uE;^vU^x)^vW;^wS^wK^wW^x)^wY;^wT^wK^wX;^z.^zA^z1;^~>^~T^~?;^~E^~A^~I^~T^~F^~U^~G;^~I^~T^~J;__Y__Q_a _a2_a#;__Z__Q_a!;_cJ_c9_cK_c@_cM_cP_cO;_cM_c9_cN;_nD_nM_nE;bf&bf]bf(;bf)bf]bf*;bf+bf]bf.;bf0bf]bf1;bf2bf]bf3;bf6bf]bf7;bg%bf]bg&;bg(bf]bg);bg*bf]bg.;bg+bf]bg0;bg1bf]bg2;bu1l5bu3;bu2l5bu4;buWl5buY;buXl5buZ;bv#l8bv*;bv$l8bv+;bw.l3bw=l7bwG;bw0l3bw>l7bwH;bwIl3bwW;bwJl3bwX;bx l3bx1" ++
  ";bx!l3bx2;bx[l1by l2by#m?by%mBb|7;bx]l1by!l2by$m?by&mBb|8;by mBb|9;by!mBb|<;by#mBb|=;by$mBb|>;by%mBb|?;by&mBb|@;by(l1by*l2by.m?by1mBb|A;by)l1by+l2by0m?by2mBb|B;by*mBb|C;by+mBb|D;by.mBb|E;by0mBb|F;by1mBb|G;by2mBb|H;by3l1by5l2by7;by4l1by6l2by8;by=l1by?l2byA;by>l1by@l2byB;byEl1byGl2byIm?byKmBb|I;byFl1byHl2byJm?byLmBb|J;byGmBb|K;byHmBb|L;byImBb|M;byJmBb|N;byKmBb|O;byLmBb|P;byMl1byOl2byQm?bySmBb|Q;byNl1byPl2byRm?byTmBb|R;byOmBb|S;byPmBb|T;byQmBb|U;byRmBb|V;bySmBb|W;byTmBb|X;byUl1byWl2byYm?by[;byVl1byXl2byZm?by];bz l1bz#l2bz%m?bz(;bz!l1bz$l2bz&m?bz);bz*l1bz.l2bz1;bz+l1bz0l2bz2;bz5l1bz7l2bz9;bz6l1bz8l2bz<;bz?l1bzAl2bzCm?bzE;bz@l1bzBl2bzDm?bzF;bzHl1bzJl2bzLm?bzN;bzOl1bzQl2bzSm?bzUmBb|Y;bzPl1bzRl2bzTm?bzVmBb|Z;bzQmBb|[;bzRmBb|];bzSmBb~ ;bzTmBb~!;bzUmBb~#;bzVmBb~$;bzWl1bzYl2bz[m?b| mBb~%;bzXl1bzZl2bz]m?b|!mBb~&;bzYmBb~(;bzZmBb~);bz[mBb~*;bz]mBb~+;b| mBb~.;b|!mBb~0;b|#mBb~3;b|(mBb~E;b|3mBc^?;b~7mBb~8;b~Bl1b~Pl2b~Qm?b~R;b~ImBb~J;c^CmBc^D;c^Kl1c^$l2c^%m?c^&;cg(m3cg5;cg*m3cg6;cg.m3cgK;ch5m3ch2;ch7m3ch4;ch9m3ch3;ci2m3ci3;ci7m3ci8;ci<m3ci=;ciTm3ciU;ciVm3ciW;cj5m3cj<;cj>m3cj?;cj@m3cjB;cjCm3cjD;cjHm3ck0;cj]m3ck ;ck#m3ck3;ck$m3ck4;ck5m3ck7;ck6m3ck8;ck9m3ck=;ck<m3ck>;ck?m3ckE;ck@m3ckF;ckAm3cm7;ckBm3cm8;ckGm3ckI;ckHm3ckJ;ckKm3ckM;ckLm3ckN;ckVm3cm9;ckWm3cm<;cl.m3cl9;cl5m3cl<;cl6m3cl=;cl8m3cl>;clAm3cmC;clBm3cmD;clCm3cmE;clDm3cmF;epUer<er5;epZer<ep[;ep]er<eq ;eq!er<eq#;eq$er<eq%;eq&er<eq(;eq)er<eq*;eq+er<eq.;eq0er<eq1;eq2er<eq3;eq4er<eq5;eq6er<eq7;eq8er<eq9;eq=er<eq>;eq?er<eq@;eqAer<eqB;eqHer<eqIer=eqJ;eqKer<eqLer=eqM;eqNer<eqOer=eqP;eqQer<eqRer=eqS;eqTer<eqUer=eqV;er@er<erA;erIer<et%;erNer<erO;erPer<erQ;erRer<erS;erTer<erU;erVer<erW;erXer<erY;erZer<er[;er]er<es ;es!er<es#;es$er<es%;es&er<es(;es)er<es*;es.er<es0;es1er<es2;es3er<es4;es<er<es=er=es>;es?er<es@er=esA;esBer<esCer=esD;esEer<esFer=esG;esHer<esIer=esJ;es]er<et);et er<et*;et!er<et+;et#er<et.;et2er<et3;^k_6^k_Y^k_7;^k_8^k_Y^k_9;^k_D^k_Y^k_J;^kc)^kbZ^kc%;" ++
  "^kc*^kbZ^kc&;^km!^klU^km&^km6^km(;^ksV^ksM^ksY^ksW^ksX^ksZ^ks[;^kxG^kx>^kxI;^kxH^kx>^kxJ;^lk)^lk#^lk."

/-- The canonical combining classes (Unicode 14.0.0) but `0`: first and last code point and class.
-/
def classData : String :=
  "l19b3! b5!$b%! b5! b !%b%!!aO!$b%!!aO!.b%!%!!$b%!)b3! b?! b3!#b%!#b3!!b%##b3!$b%! b3! b5!!b%! b3! b6!!b7! b6!!b7! b6!1b3c(%b3bY b%!$b3! b%!#b3! b(! b%!&b3!&b%!!b3! b%!!b3! b(! b1! b3! .! 0! 1! 2! 3! 4! 5! 6! 7!!8! 9! <! =# ># ?! @# b3! b%# 7^8)b3! E! F! GX B! C! D! E! F! G! H! I!!b3!!b%!%b3! b%!!b3! b%6 J^W(b3$$b3! b%! b3$!b3# b%!!b3! b%K KF b3! b%!!b3! b%!!b3!#b%! b3!!b%! b3! b%!#b3! b%! b3! b%! b3! b%! b3! b%!!b3_](b3! b%! b3. b%@$b3#*b3##b3#%b3S#b%^) b3!#b%!$b3R%b3!%b%!2b3# b%!!b3! b%!!b3! b%!#b3!#b%! B! C! D!#b3! b%!!b3!!b%!%b3^) )6 +% b3! b%!!b3^Y )6 +X b3^* )6 +_$ )6 +_$ )6 +_9 +_$ )6 +* ^E! ^L^W )6 +_#!+6 +_6 +_#!^X! +3$^]_!!_.! +3$_3^>!b%C b%# b%# b ^# _<! _=# _?($_=$ _=#!b3! +#!b3^+ b%_& )#!+^D b%k7#b3oF!+F +_Y +0 b3aQ b1_K b(! b3! b%b% b3! b%^7 +<)b3$ b%X%b3!&b%!!b3! b%#!b%!!b3!!b%!%b3! b%!$b3^W )5 +N b3! b%!(b3^!!+^& )1!+^3 )_T#b3# !!%b%!!b3!$b%! b3#(!& b%) b3%!b3aL!b3! b%!(b3! b%!!b3! b7! a[! b%! aO!Kb3! b5!!b1! b%! b#! b3! b6! b%! b3! b%k8!b3!!!!$b3!#!!!b3& b3%!!! b3! b%! b3!!!!$b%! b3^xV#b3_I +^RFb3h4 b#! b1! b5! b(!!b*^[!*ppH b3&+b3H!b3^B!b3c) +M +_S +C6b3^%#b%M +^Q )2 +b? b3#!b3! b%$!b3(!b3# b3] +bF +jm> Al3(b3!(b%!!b3p# b%b0 b%_Q%b3^^+ b%# b3P b3! !! b%& +a% b3! b%hI$b3e.!b3_U!b%!#b3! b%! b3!$b%Y b3! b%! b3! b%aF +Q +4 +^% +! )^5#b3X!+^+ )^> +. )^] +! )a6 )! +^B!)6 +@(b3%%b3aS +% )? b3^U +! )bK +! )_8 +_0 +! )_* +c  +! )bR!+& )_X +^E +8 +^C +eS +bR )#!+^C +jdL%!^((b3t=!(jaB !afB!b !#!% b.!%b +)b%$%b3!!b%F$b3_P#b3_c((b3#5b3$(b3#!b3#%b3bU(b3d[ b3^*$b3yV(b%_#&b3! )"

/-- An entry of a decomposition table: the distance from the key before, how many keys follow, the
decomposition. -/
def decompositionEntry (opens : Bool) (e : String) : Nat × Nat × List Nat :=
  match e.splitOn ":" with
  | [d, n] =>
    let ns := numerals n
    ((numerals d).headD 1, ns.headD 0, ns.tail)
  | _ =>
    let ns := numerals e
    if opens then (ns.headD 0, 0, ns.tail) else (1, 0, ns)

/-- Characters with their decompositions, from a table written as text. -/
def decompositions (s : String) : Array (Nat × List Nat) :=
  let entries := (s.splitOn ";").tail.flatMap fun g =>
    match g.splitOn "," with
    | e :: es => decompositionEntry true e :: es.map (decompositionEntry false)
    | [] => []
  (entries.foldl (fun (out, last) (d, n, ds) =>
    let k := last + d
    (out ++ ((List.range (n + 1)).map fun i => (k + i, ds.dropLast ++ [ds.getLastD 0 + i])).toArray,
      k + n)) (#[], 0)).1

def canonicalTable : Array (Nat × List Nat) := decompositions canonicalData

def compatibleTable : Array (Nat × List Nat) := decompositions compatibleData

/-- Composites of `first` from numbers taken two at a time: the second character and the composite.
-/
def compositesOf (first : Nat) : List Nat → List (Nat × List Nat)
  | second :: c :: rest => (first * 0x110000 + second, [c]) :: compositesOf first rest
  | _ => []

def pairTable : Array (Nat × List Nat) :=
  ((pairData.splitOn ";").tail.flatMap fun g =>
    match numerals g with
    | first :: rest => compositesOf first rest
    | [] => []).toArray

/-- Runs of a combining class from numbers in threes: the first code point's distance from `last`,
the length less one, the class. -/
def classRunsFrom (last : Nat) : List Nat → List (Nat × List Nat)
  | d :: n :: c :: rest => (last + d, [last + d + n, c]) :: classRunsFrom (last + d + n) rest
  | _ => []

def classTable : Array (Nat × List Nat) :=
  (classRunsFrom 0 (numerals classData)).toArray

/-- The entry of key `k` in a key-sorted table among `[lo, hi)`; with `below`, the last entry of key
at most `k`. -/
def searchTable (t : Array (Nat × List Nat)) (k : Nat) (below : Bool) (lo hi : Nat) :
    Option (Nat × List Nat) :=
  if _h : lo < hi then
    let mid := (lo + hi) / 2
    match t[mid]? with
    | none => none
    | some (key, v) =>
      if k < key then searchTable t k below lo mid
      else if key < k then
        if below then
          match searchTable t k below (mid + 1) hi with
          | some r => some r
          | none => some (key, v)
        else searchTable t k below (mid + 1) hi
      else some (key, v)
  else none
termination_by hi - lo

def lookupTable (t : Array (Nat × List Nat)) (k : Nat) : Option (List Nat) :=
  (searchTable t k false 0 t.size).map (·.2)

def combiningClass (c : Nat) : Nat :=
  match searchTable classTable c true 0 classTable.size with
  | some (_, [hi, k]) => if c ≤ hi then k else 0
  | _ => 0

/-- The first Hangul syllable, and the first leading consonant, vowel and trailing consonant. -/
def syllableBase : Nat := 0xAC00
def leadBase : Nat := 0x1100
def vowelBase : Nat := 0x1161
def trailBase : Nat := 0x11A7

def vowelCount : Nat := 21
def trailCount : Nat := 28
def syllableCount : Nat := 11172

def syllableJamo? (c : Nat) : Option (List Nat) :=
  if syllableBase ≤ c && c < syllableBase + syllableCount then
    let i := c - syllableBase
    let lead := leadBase + i / (vowelCount * trailCount)
    let vowel := vowelBase + i % (vowelCount * trailCount) / trailCount
    let trail := i % trailCount
    some (if trail == 0 then [lead, vowel] else [lead, vowel, trailBase + trail])
  else none

/-- The full decomposition of a character, canonical or (with `compat`) compatibility. -/
def decomposeChar (compat : Bool) (c : Nat) : List Nat :=
  match syllableJamo? c with
  | some js => js
  | none =>
    let canonical := (lookupTable canonicalTable c).getD [c]
    if compat then (lookupTable compatibleTable c).getD canonical else canonical

/-- The marks after each starter sorted by class, marks of one class keeping their order. -/
def canonicalOrder (cs : List Nat) : List Nat :=
  let flush (run out : List Nat) : List Nat :=
    out ++ run.mergeSort fun a b => combiningClass a ≤ combiningClass b
  let (run, out) := cs.foldl (fun (acc : List Nat × List Nat) c =>
    let (run, out) := acc
    if combiningClass c == 0 then ([], flush run out ++ [c]) else (run ++ [c], out)) ([], [])
  flush run out

/-- The composite of two characters, if they have a primary one (Hangul syllables by arithmetic). -/
def composePair? (a b : Nat) : Option Nat :=
  if leadBase ≤ a && a < leadBase + 19 && vowelBase ≤ b && b < vowelBase + vowelCount then
    some (syllableBase + ((a - leadBase) * vowelCount + (b - vowelBase)) * trailCount)
  else if syllableBase ≤ a && a < syllableBase + syllableCount && (a - syllableBase) % trailCount == 0 &&
      trailBase < b && b < trailBase + trailCount then
    some (a + (b - trailBase))
  else (lookupTable pairTable (a * 0x110000 + b)).bind List.head?

/-- The state of composing: the characters so far, the last starter's place, and the class of the
last after it. -/
structure Composing where
  out : Array Nat := #[]
  starter : Option Nat := none
  lastClass : Option Nat := none

def compose (cs : List Nat) : List Nat :=
  let step (st : Composing) (c : Nat) : Composing :=
    let k := combiningClass c
    let joined : Option (Nat × Nat) := match st.starter with
      | some s =>
        let open_ := match st.lastClass with
          | none => true
          | some l => l < k
        if open_ then (composePair? (st.out.getD s 0) c).map (s, ·) else none
      | none => none
    match joined with
    | some (s, p) => { st with out := st.out.set! s p }
    | none =>
      if k == 0 then { out := st.out.push c, starter := some st.out.size, lastClass := none }
      else { st with out := st.out.push c, lastClass := some k }
  (cs.foldl step {}).out.toList

def normalize (form : String) (s : String) : Option String :=
  let decomposed (compat : Bool) : List Nat :=
    canonicalOrder (s.toList.flatMap fun c => decomposeChar compat c.toNat)
  let text (cs : List Nat) : String := String.ofList (cs.map Char.ofNat)
  match form with
  | "NFD" => some (text (decomposed false))
  | "NFKD" => some (text (decomposed true))
  | "NFC" => some (text (compose (decomposed false)))
  | "NFKC" => some (text (compose (decomposed true)))
  | _ => none

/-!
## Identifiers

The names of the formula language (Unicode 14.0.0). A name starts with `_` or a character of the
property `XID_Start` and goes on with characters of `XID_Continue` (those of `XID_Start`, marks,
digits and connectors); a name holding a character beyond ASCII stands for its compatibility
composed form (NFKC), so that `ｑｔｙ`, `𝐪𝐭𝐲` and `qty` are one name.
-/

/-- Code points that may start a name besides `_` (`XID_Start`, Unicode 14.0.0). -/
def identStartRanges : RangeTable := RangeTable.ofText <|
  "^0@& #@W 0 & (=#E#f@&04%* # _=%#!%## ) ### #8#^C#_E+a$#L$ )O^7A&$UQK!#^S# 5!*!0#$ 6 #DE^I1 @G.!& (<& . % ??*.(>#&7P^&]% 8 *+54&)$!$<#(# %$% 6 3!##4!0 +&&!$<#(#!#!#!G$# 9#6*###<#(#!#%% 8 5!? 1)$!$<#(#!#%% F!##5 7 #&%##$%!# #!%!%#%0> ])###=#4% B#$ $!F &)###=#+#%% G!#!5!7*###O$ 6 (#+#@&(6%>#*# $(^&V# 3(^&!# #%#># #+# 0 $%# =$H ^.)#JC%_*Q< 6&&$% %!*#&12 7L# ( $Q#d*#$$(# #$$O#$$G#$$(# #$$3#^##$$^1M46^F$&%i@$5#@(^9%.*6374641##5ZK & ^3^I*O# (^40EYD$%1R&@^!=.[^D ^OU7)^!D3!0RBJQ#0J$**Q$#Q$#&#!% (aD^0c)$&$L$&$)# # # #E$[#(# %##(%$$&&1(##(_+ 3 61^W & $+# $&) # # #4$$(%& 7O^qIb1)$%!2L# ( $^!* 6=.(#(#(#(#(#(#(#(h0#A**%$%&^F)##^J#$(Q#^N7FX4gBb_$^0kr5^3T$b[%40!<U6E$^@O*$^W$^+(!# #%@4###$#=EZ4X^+&% #!1B0=AC*UD 6%#+0%#O?##)<=% %X# %!$%$ # @#$.*#2&$&$&.(#(#Q#2)_(EdxV2=&WcdDdP$^ZN(2%( #+#1#%# #!#!#^]I_E)b!8^+$]P+_1 # % # # # #_6L@)@1^!$E%&$&$&$#K0#@#7#!#3$2J_3^5[b[C%WWF3D(L0D$J&)#%R_X8J&J&N+Z2.#3#(#!#.#3#(#!^3cO.<0)@&#P#*^5&$ #R#!% $=0=.E^17#!0<0@^6^!)!^0 5$###CRC%CK)#BC]0<0736_$^7^#Y3Y3Jd@P)!^@C0 +<R6V9C=2[^%!$ 3SH?BJE $ +I% 2V4$= # K6#?^F(# #$#3#+*UN)$!$<#(#!#%% 8 2%_Z[8$<#FV<!# a>UQ$LV< ^(Q3 ^7AM(a?R_+^+G)$ $)#!#>5 # ^P)$M6 # D 0N* = 1T9 8^7bW*#K7 YD_&(#!#L= A&#!#F4 d%7aC ^Ao$^X_#7aH^pT^Q5qS_m hQcgWhC*E7^?7D8V6$G9(7jP^+_<^9( ^21^0!# DauH+tXR*cmA$#(#!#c9U#7$+e6^jP^[(1%**+arZ^E#^5#!$ $!$$#0# #(#^.#$$)#(#B#$#%# %(#d4$?#?#E#?#E#?#E#?#E#?#)^b+EfYS0(6 c[D8RuB(#$#!#3#aI^(^2* t6$#A#!# $ #+#$# # ) & # # ###!# $ # # # # #!# $$#(#$#$# #+#5(##%#5_sVxi&H_nW*b&$anL4bp9^yAh!yXa^?"

/-- Code points that may go on a name without starting one (`XID_Continue` less `XID_Start`). -/
def identPartRanges : RangeTable := RangeTable.ofText <|
  "W+_7 hT_$? bK%bYS# #!#!# ^8.XE) ^W($&$!#$$+? FA^M.5+I*. @$#*###%S#^))R>#G^!##6#(0!$+7#^$ #($!$#. 0!$+4 $#^$ #%&!$#% <0% 1#^$ #)####<!$+0&##^$ #($!$#*#0!$+8 ^(%%##$. 4+6%^# #(###$*!1!$+7#^$ #(###$*!1!$+6$^#!#(###$. 0!$+7#^6 &&# #))+$!^* #)2)#+^I #+1&$+^+!)+1 # # &!Y8#!(.#J. ^V8#+2$&###$(%$30#3k##.*o0$D#E!F!^0F. $+I##._K _00&00+_<.^)%^%+#C$.)+>2#4Y%W51+7*2#F1$+T2X8++)+_0##9& ) $#aL^+hK!9 _51& %0^xV#_I ^RFh4&^[!po*+^5 &+H!^B!c$ % & ?%& ^E!Z60+)63.D)A1T$W25+1 0+W22 +!$+I#Z ##$!(!# Q%(!b<)#!$+jm0 kK464%!@#aF+M ^P!i1 b0 _Q%c?+w7##!($P#& a%!hI$++dU!_U.Y$_4#^ 3G.$!0$U.* U+)#L2#+(!T 2#X2+$#0^D0) _]0(+)$^#!#($!$#. 0!$(%%aF6.+& ^C82+a[($*C!^D55+^C1++^E3&+bB3a%+^6&#!$$# #!2+_1($(% D+P(#$+ ..V4eC)#)6+^$<#2_4&% #!#(# ++X%#!#%++d($iyC+^H+N%^((A+pQ #^ *$^C 1!jaA!_y*T$=h$%%&+)$(F$_P#x3XgB^ &X+ 4 >%#3w0(#5$(#!#%bU(.+dH ^*2yL(_#((+_z)+nde<b>"

def isIdentStart (c : Char) : Bool :=
  c == '_' || identStartRanges.hasChar c

def isIdentPart (c : Char) : Bool :=
  isIdentStart c || identPartRanges.hasChar c

def firstNonIdent? (cs : List Char) : Option Nat :=
  match cs with
  | [] => none
  | c :: rest =>
    if !isIdentStart c then some 0
    else (rest.findIdx? (!isIdentPart ·)).map (· + 1)

def isIdentifier (s : String) : Bool :=
  !s.isEmpty && (firstNonIdent? s.toList).isNone

/-- The name a written name stands for: its compatibility composed form when not all ASCII. -/
def nameForm (s : String) : String :=
  if s.toList.all (fun c => c.toNat < 128) then s else (normalize "NFKC" s).getD s

end PipeQuery.Text
